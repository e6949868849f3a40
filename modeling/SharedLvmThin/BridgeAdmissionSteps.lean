import SharedLvmThin.BridgeAdmission
import SharedLvmThin.ThickVolumeCommands

/-! One call on a volume group, by any node, that may die after any of its commands. The bridge
tags of the group are a lock: a call does nothing, takes the lock where it is free, gives back its
own, or runs for its holder and leaves it alone. -/

namespace SharedLvmThin.Bridge
open Perl Effects ThickVolume
open Thin (isNodeName)

/-! ## What the tags say -/

theorem txTag_eq (tx : String) : txTag tx = "pve-slt-bridge-tx-" ++ tx := rfl

theorem nodeTag_eq (node : String) : nodeTag node = "pve-slt-bridge-node-" ++ node := rfl

theorem txOf?_eq_some {tag tx : String} :
    txOf? tag = some tx ↔ tag = txTag tx ∧ isTx tx = true := by
  rw [txOf?, Option.filter_eq_some_iff, stripPrefix?_eq_some, txTag_eq]

theorem nodeOf?_eq_some {tag node : String} :
    nodeOf? tag = some node ↔ tag = nodeTag node ∧ isNodeName node = true := by
  rw [nodeOf?, Option.filter_eq_some_iff, stripPrefix?_eq_some, nodeTag_eq]

theorem isBridgeTag_iff {tag : String} :
    isBridgeTag tag = true ↔ ∃ rest, tag = "pve-slt-bridge-" ++ rest := by
  rw [isBridgeTag, Option.isSome_iff_exists]
  exact exists_congr fun rest => stripPrefix?_eq_some

theorem isBridgeTag_txTag (tx : String) : isBridgeTag (txTag tx) = true := by
  refine isBridgeTag_iff.mpr ⟨"tx-" ++ tx, String.toList_inj.mp ?_⟩
  rw [txTag_eq]
  simp

theorem isBridgeTag_nodeTag (node : String) : isBridgeTag (nodeTag node) = true := by
  refine isBridgeTag_iff.mpr ⟨"node-" ++ node, String.toList_inj.mp ?_⟩
  rw [nodeTag_eq]
  simp

theorem isBridgeTag_schemaTag : isBridgeTag schemaTag = true := by decide +kernel

theorem txTag_ne_nodeTag (tx node : String) : txTag tx ≠ nodeTag node := by
  intro h
  have := congrArg (fun t => t.toList[15]?) h
  rw [txTag_eq, nodeTag_eq] at this
  simp at this

theorem schemaTag_ne_txTag (tx : String) : schemaTag ≠ txTag tx := by
  intro h
  have := congrArg (fun t => t.toList[15]?) h
  rw [txTag_eq, show schemaTag = "pve-slt-bridge-v1" from rfl] at this
  simp at this

theorem schemaTag_ne_nodeTag (node : String) : schemaTag ≠ nodeTag node := by
  intro h
  have := congrArg (fun t => t.toList[15]?) h
  rw [nodeTag_eq, show schemaTag = "pve-slt-bridge-v1" from rfl] at this
  simp at this

/-- The tags name no holder, or one. -/
structure Reads (tags : List String) (lock : Option Holder) : Prop where
  known : ∀ tag ∈ tags, isBridgeTag tag = true →
    tag = schemaTag ∨ (txOf? tag).isSome ∨ (nodeOf? tag).isSome
  schema : tags.count schemaTag = lock.toList.length
  txs : tags.filterMap txOf? = lock.toList.map Holder.tx
  nodes : tags.filterMap nodeOf? = lock.toList.map Holder.node

theorem bridgeAdmissionState_eq_ok {vg : String} {tags : List String} {lock : Option Holder} :
    bridgeAdmissionState vg tags = .ok lock ↔ Reads tags lock := by
  simp only [bridgeAdmissionState, bind_eq_ok, forEach_eq_ok, dieIf_eq_ok, exists_const]
  constructor
  · intro h
    obtain ⟨hknown, h⟩ := h
    have hall : ∀ tag ∈ tags, isBridgeTag tag = true →
        tag = schemaTag ∨ (txOf? tag).isSome ∨ (nodeOf? tag).isSome := by
      intro tag hmem hbridge
      have hbad := hknown tag hmem
      by_contra hno
      simp only [not_or, Bool.not_eq_true, Option.isSome_eq_false_iff] at hno
      simp [hbridge, hno.1, hno.2.1, hno.2.2] at hbad
    split at h
    · rename_i hschema htxs hnodes
      obtain rfl := Except.ok.inj h
      exact ⟨hall, hschema, htxs, hnodes⟩
    · rename_i tx node hschema htxs hnodes
      obtain rfl := Except.ok.inj h
      exact ⟨hall, hschema, htxs, hnodes⟩
    · cases h
  · intro h
    refine ⟨fun tag hmem => ?_, ?_⟩
    · by_contra hbad
      simp only [Bool.not_eq_false, Bool.and_eq_true, decide_eq_true_eq, Option.isNone_iff_eq_none,
        ne_eq] at hbad
      rcases h.known tag hmem hbad.1.1.1 with hs | hs | hs
      · exact hbad.1.1.2 hs
      · simp [hbad.1.2] at hs
      · simp [hbad.2] at hs
    · cases lock with
      | none => rw [h.schema, h.txs, h.nodes]; rfl
      | some held => rw [h.schema, h.txs, h.nodes]; rfl

theorem Reads.unique {tags : List String} {lock lock' : Option Holder} (h : Reads tags lock)
    (h' : Reads tags lock') : lock = lock' := by
  have hsame := (@bridgeAdmissionState_eq_ok "" _ _).mpr h
  exact Except.ok.inj (hsame.symm.trans (bridgeAdmissionState_eq_ok.mpr h'))

/-- The tags that are not of the bridge are not looked at. -/
theorem reads_filter {tags : List String} {lock : Option Holder} :
    Reads (tags.filter isBridgeTag) lock ↔ Reads tags lock := by
  have htxs : (tags.filter isBridgeTag).filterMap txOf? = tags.filterMap txOf? := by
    rw [List.filterMap_filter]
    refine List.filterMap_congr fun tag _ => ?_
    cases htx : txOf? tag with
    | none => simp
    | some tx => simp [(txOf?_eq_some.mp htx).1, isBridgeTag_txTag]
  have hnodes : (tags.filter isBridgeTag).filterMap nodeOf? = tags.filterMap nodeOf? := by
    rw [List.filterMap_filter]
    refine List.filterMap_congr fun tag _ => ?_
    cases hnode : nodeOf? tag with
    | none => simp
    | some node => simp [(nodeOf?_eq_some.mp hnode).1, isBridgeTag_nodeTag]
  have hschema : (tags.filter isBridgeTag).count schemaTag = tags.count schemaTag :=
    List.count_filter isBridgeTag_schemaTag
  constructor
  · intro h
    refine ⟨fun tag hmem hbridge => ?_, hschema ▸ h.schema, htxs ▸ h.txs, hnodes ▸ h.nodes⟩
    exact h.known tag (List.mem_filter.mpr ⟨hmem, hbridge⟩) hbridge
  · intro h
    refine ⟨fun tag hmem => h.known tag (List.mem_filter.mp hmem).1, hschema ▸ h.schema,
      htxs ▸ h.txs, hnodes ▸ h.nodes⟩

theorem Reads.congr {tags tags' : List String} {lock : Option Holder} (h : Reads tags lock)
    (hsame : tags'.filter isBridgeTag = tags.filter isBridgeTag) : Reads tags' lock :=
  reads_filter.mp (hsame ▸ reads_filter.mpr h)

/-! ## Taking and giving back -/

theorem Reads.none_iff {tags : List String} :
    Reads tags none ↔ ∀ tag ∈ tags, isBridgeTag tag = false := by
  constructor
  · intro h tag hmem
    by_contra hbridge
    rcases h.known tag hmem (by simpa using hbridge) with rfl | hsome | hsome
    · exact List.count_eq_zero.mp h.schema hmem
    · obtain ⟨tx, htx⟩ := Option.isSome_iff_exists.mp hsome
      have := List.mem_filterMap.mpr ⟨tag, hmem, htx⟩
      simp [h.txs] at this
    · obtain ⟨node, hnode⟩ := Option.isSome_iff_exists.mp hsome
      have := List.mem_filterMap.mpr ⟨tag, hmem, hnode⟩
      simp [h.nodes] at this
  · intro h
    have hempty : tags.filter isBridgeTag = [] := by
      simpa [List.filter_eq_nil_iff] using h
    exact reads_filter.mp (hempty ▸ ⟨by simp, rfl, rfl, rfl⟩)

variable {h : Holder} {tags : List String} {lock : Option Holder}

theorem txOf?_txTag {tx : String} (htx : isTx tx = true) : txOf? (txTag tx) = some tx :=
  txOf?_eq_some.mpr ⟨rfl, htx⟩

theorem nodeOf?_nodeTag {node : String} (hnode : isNodeName node = true) :
    nodeOf? (nodeTag node) = some node := nodeOf?_eq_some.mpr ⟨rfl, hnode⟩

theorem txOf?_nodeTag (node : String) : txOf? (nodeTag node) = none := by
  refine Option.eq_none_iff_forall_ne_some.mpr fun tx htx => ?_
  exact txTag_ne_nodeTag tx node (txOf?_eq_some.mp htx).1.symm

theorem nodeOf?_txTag (tx : String) : nodeOf? (txTag tx) = none := by
  refine Option.eq_none_iff_forall_ne_some.mpr fun node hnode => ?_
  exact txTag_ne_nodeTag tx node (nodeOf?_eq_some.mp hnode).1

theorem txOf?_schemaTag : txOf? schemaTag = none := by
  refine Option.eq_none_iff_forall_ne_some.mpr fun tx htx => ?_
  exact schemaTag_ne_txTag tx (txOf?_eq_some.mp htx).1

theorem nodeOf?_schemaTag : nodeOf? schemaTag = none := by
  refine Option.eq_none_iff_forall_ne_some.mpr fun node hnode => ?_
  exact schemaTag_ne_nodeTag node (nodeOf?_eq_some.mp hnode).1

theorem reads_tags (htx : isTx h.tx = true) (hnode : isNodeName h.node = true) :
    Reads h.tags (some h) := by
  refine ⟨fun tag hmem _ => ?_, ?_, ?_, ?_⟩
  · simp only [Holder.tags, List.mem_cons, List.not_mem_nil, or_false] at hmem
    rcases hmem with rfl | rfl | rfl
    · exact Or.inl rfl
    · exact Or.inr (Or.inl (by rw [txOf?_txTag htx]; rfl))
    · exact Or.inr (Or.inr (by rw [nodeOf?_nodeTag hnode]; rfl))
  · rw [Holder.tags, List.count_cons_self, List.count_cons_of_ne (schemaTag_ne_txTag _).symm,
      List.count_cons_of_ne (schemaTag_ne_nodeTag _).symm]
    rfl
  · simp [Holder.tags, txOf?_schemaTag, txOf?_txTag htx, txOf?_nodeTag]
  · simp [Holder.tags, nodeOf?_schemaTag, nodeOf?_txTag, nodeOf?_nodeTag hnode]

theorem isBridgeTag_of_mem_tags {tag : String} (hmem : tag ∈ h.tags) : isBridgeTag tag = true := by
  simp only [Holder.tags, List.mem_cons, List.not_mem_nil, or_false] at hmem
  rcases hmem with rfl | rfl | rfl
  · exact isBridgeTag_schemaTag
  · exact isBridgeTag_txTag _
  · exact isBridgeTag_nodeTag _

theorem Reads.acquired (hfree : Reads tags none) (htx : isTx h.tx = true)
    (hnode : isNodeName h.node = true) : Reads (retag [] h.tags tags) (some h) := by
  have hnone := Reads.none_iff.mp hfree
  have hkept : tags.filter isBridgeTag = [] := by
    simpa [List.filter_eq_nil_iff] using hnone
  have hadded : h.tags.filter (· ∉ tags) = h.tags := by
    refine List.filter_eq_self.mpr fun tag hmem => ?_
    have hbridge := isBridgeTag_of_mem_tags hmem
    simp only [decide_eq_true_eq]
    intro hin
    simp [hnone tag hin] at hbridge
  refine reads_filter.mp ?_
  have htags : retag [] h.tags tags = tags ++ h.tags := by
    simp only [retag, List.not_mem_nil, not_false_eq_true, decide_true, List.filter_true, hadded]
  rw [htags, List.filter_append, hkept, List.nil_append,
    List.filter_eq_self.mpr fun tag hmem => isBridgeTag_of_mem_tags hmem]
  exact reads_tags htx hnode

theorem Reads.released (hheld : Reads tags (some h)) : Reads (retag h.tags [] tags) none := by
  refine Reads.none_iff.mpr fun tag hmem => ?_
  simp only [retag, List.filter_nil, List.append_nil, List.mem_filter, decide_eq_true_eq] at hmem
  obtain ⟨hin, hout⟩ := hmem
  by_contra hbridge
  refine hout ?_
  rcases hheld.known tag hin (by simpa using hbridge) with rfl | hsome | hsome
  · simp [Holder.tags]
  · obtain ⟨tx, htx⟩ := Option.isSome_iff_exists.mp hsome
    have hmem := List.mem_filterMap.mpr ⟨tag, hin, htx⟩
    rw [hheld.txs] at hmem
    obtain rfl : tx = h.tx := by simpa using hmem
    simp [Holder.tags, (txOf?_eq_some.mp htx).1]
  · obtain ⟨node, hnode⟩ := Option.isSome_iff_exists.mp hsome
    have hmem := List.mem_filterMap.mpr ⟨tag, hin, hnode⟩
    rw [hheld.nodes] at hmem
    obtain rfl : node = h.node := by simpa using hmem
    simp [Holder.tags, (nodeOf?_eq_some.mp hnode).1]

/-! ## One admission -/

variable {env : Env} {context : Context} {action : Action} {s t : Session}

theorem silent_readAdmission (env : Env) : Silent (readAdmission env) :=
  (silent_ask env _).bind fun _ => silent_read.bind fun _ => silent_lift _

theorem readAdmission_eq_ok (hread : readAdmission env s = (t, .ok lock)) :
    Reads s.store.vgTags lock := by
  obtain ⟨_, s', hask, hstate⟩ := prog_bind_eq_ok.mp hread
  obtain rfl := ask_eq_ok hask
  exact bridgeAdmissionState_eq_ok.mp (lift_eq_ok.mp hstate).2

/-- The lock that an action by the holder asks for. -/
def Action.wanted (h : Holder) : Action → Option Holder
  | .acquire => some h
  | .release => none

/-- An action changes nothing, or takes a free lock, or gives back the holder's own. -/
inductive Moves (h : Holder) (s t : Session) : Action → Prop
  | nothing (action : Action) : t = s → Moves h s t action
  | acquired : Reads s.store.vgTags none → Ran (.changeVgTags [] h.tags) s t →
      Moves h s t .acquire
  | released : Reads s.store.vgTags (some h) → Ran (.changeVgTags h.tags []) s t →
      Moves h s t .release

theorem outcome_acquire (h : Holder) (s : Session) :
    Outcome (acquire env h) (fun _ t => Moves h s t .acquire ∧ Reads t.store.vgTags (some h))
      (fun t => Moves h s t .acquire) s := by
  have hstart : Moves h s s .acquire := .nothing _ rfl
  apply outcome_bind
  refine (silent_readAdmission env).outcome hstart fun before hbefore => ?_
  replace hbefore := readAdmission_eq_ok hbefore
  cases before with
  | some held =>
    refine outcome_refuse (fun _ => hstart) fun hsame => outcome_pure ⟨hstart, ?_⟩
    obtain rfl : held = h := by simpa using hsame
    exact hbefore
  | none =>
    apply outcome_bind
    refine outcome_runCommand fun t ht => ?_
    have hmoves : Moves h s t .acquire := .acquired hbefore ht
    refine ⟨?_, hmoves⟩
    apply outcome_bind
    refine (silent_readAdmission env).outcome hmoves fun after hafter => ?_
    refine outcome_refuse (fun _ => hmoves) fun hsame => outcome_pure ⟨hmoves, ?_⟩
    obtain rfl : after = some h := by simpa using hsame
    exact readAdmission_eq_ok hafter

theorem outcome_release (h : Holder) (s : Session) :
    Outcome (release env h) (fun _ t => Moves h s t .release ∧ Reads t.store.vgTags none)
      (fun t => Moves h s t .release) s := by
  have hstart : Moves h s s .release := .nothing _ rfl
  apply outcome_bind
  refine (silent_readAdmission env).outcome hstart fun before hbefore => ?_
  replace hbefore := readAdmission_eq_ok hbefore
  cases before with
  | none => exact outcome_throwMessage hstart
  | some held =>
    refine outcome_refuse (fun _ => hstart) fun hsame => ?_
    obtain rfl : held = h := by simpa using hsame
    apply outcome_bind
    refine outcome_runCommand fun t ht => ?_
    have hmoves : Moves held s t .release := .released hbefore ht
    refine ⟨?_, hmoves⟩
    apply outcome_bind
    refine (silent_readAdmission env).outcome hmoves fun after hafter => ?_
    refine outcome_refuse (fun _ => hmoves) fun hsame => outcome_pure ⟨hmoves, ?_⟩
    obtain rfl : after = none := by simpa using hsame
    exact readAdmission_eq_ok hafter

theorem outcome_withVgLockBypass {α : Type} {code : Op α} {Q : α → Session → Prop}
    {E : Session → Prop} (hE : E s) (hcode : Outcome code Q E s) :
    Outcome (withVgLockBypass env code) Q E s := by
  unfold withVgLockBypass
  iterate 7
    apply outcome_bind
    refine (silent_ask env _).outcome hE fun _ _ => ?_
  exact hcode

/-- The holder has a proper name, and the caller runs on the holder's node. -/
structure Context.Legal (context : Context) (h : Holder) : Prop where
  tx : isTx h.tx = true
  node : isNodeName h.node = true
  localNode : context.localNode = .ok h.node

theorem outcome_bridgeAdmission (tx node : String) (s : Session) :
    Outcome (bridgeAdmission env context action tx node)
      (fun _ t => context.Legal ⟨body tx, body node⟩ ∧ Moves ⟨body tx, body node⟩ s t action ∧
        Reads t.store.vgTags (action.wanted ⟨body tx, body node⟩))
      (fun t => t = s ∨
        context.Legal ⟨body tx, body node⟩ ∧ Moves ⟨body tx, body node⟩ s t action) s := by
  refine outcome_refuse (fun _ => Or.inl rfl) fun htx => ?_
  refine outcome_refuse (fun _ => Or.inl rfl) fun hnode => ?_
  apply outcome_bind
  refine (silent_lift _).outcome (Or.inl rfl) fun localNode hlocal => ?_
  refine outcome_refuse (fun _ => Or.inl rfl) fun hsame => ?_
  replace hlocal := (lift_eq_ok.mp hlocal).2
  obtain rfl : body node = localNode := by simpa using hsame
  have hlegal : context.Legal ⟨body tx, body node⟩ :=
    ⟨by simpa using htx, by simpa using hnode, hlocal⟩
  refine outcome_withVgLockBypass (Or.inl rfl) ?_
  apply outcome_bind
  refine (silent_requireNoVgIntent env).outcome (Or.inl rfl) fun _ _ => ?_
  cases action with
  | acquire =>
    exact (outcome_acquire _ s).weaken (fun _ _ ht => ⟨hlegal, ht⟩) fun _ ht => Or.inr ⟨hlegal, ht⟩
  | release =>
    exact (outcome_release _ s).weaken (fun _ _ ht => ⟨hlegal, ht⟩) fun _ ht => Or.inr ⟨hlegal, ht⟩

/-- An action changes the tags of its own holder only, whether it returns or dies. -/
theorem bridgeAdmission_moves (tx node : String) (s : Session) :
    (bridgeAdmission env context action tx node s).1 = s ∨
      context.Legal ⟨body tx, body node⟩ ∧
        Moves ⟨body tx, body node⟩ s (bridgeAdmission env context action tx node s).1 action := by
  have h := @outcome_bridgeAdmission env context action tx node s
  exact h.final (P := fun t => t = s ∨ context.Legal ⟨body tx, body node⟩ ∧
    Moves ⟨body tx, body node⟩ s t action) (fun _ _ h => Or.inr ⟨h.1, h.2.1⟩) fun _ h => h

/-! ## The gate -/

/-- The caller runs for the holder, on the holder's node. -/
structure Context.RunsFor (context : Context) (h : Holder) : Prop where
  tx : context.tx = some h.tx
  node : context.node = some h.node
  localNode : context.localNode = .ok h.node

theorem silent_requireBridgeAdmissionCompatible (env : Env) (context : Context) :
    Silent (requireBridgeAdmissionCompatible env context) := by
  refine (silent_readAdmission env).bind fun state => ?_
  cases state with
  | none => exact silent_pure _
  | some h =>
    refine (silent_refuse _ _).bind fun _ => ?_
    exact (silent_lift _).bind fun _ => silent_refuse _ _

/-- What passes the gate finds the group free or runs for the holder. -/
theorem requireBridgeAdmissionCompatible_eq_ok {u : Unit}
    (hgate : requireBridgeAdmissionCompatible env context s = (t, .ok u)) :
    ∃ lock, Reads s.store.vgTags lock ∧ ∀ h ∈ lock, context.RunsFor h := by
  obtain ⟨state, s', hstate, hrest⟩ := prog_bind_eq_ok.mp hgate
  obtain rfl := (silent_readAdmission env).eq_of_ok hstate
  refine ⟨state, readAdmission_eq_ok hstate, fun h hmem => ?_⟩
  obtain rfl := Option.mem_def.mp hmem
  obtain ⟨_, s', hrefuse, hlocal⟩ := prog_bind_eq_ok.mp hrest
  obtain ⟨-, hok⟩ := refuse_eq_ok.mp hrefuse
  obtain ⟨localNode, s'', hlocal, hsame⟩ := prog_bind_eq_ok.mp hlocal
  replace hlocal := (lift_eq_ok.mp hlocal).2
  replace hsame := (refuse_eq_ok.mp hsame).2
  simp only [Bool.or_eq_false_iff, Bool.not_eq_false', decide_eq_false_iff_not, not_not] at hok hsame
  obtain ⟨⟨⟨htx, hnode⟩, hsameTx⟩, hsameNode⟩ := hok
  refine ⟨?_, ?_, ?_⟩
  · cases hcase : context.tx with
    | none =>
      rw [hcase] at htx
      exact absurd htx (by decide +kernel)
    | some tx => rw [hcase] at hsameTx; exact congrArg some hsameTx
  · cases hcase : context.node with
    | none =>
      rw [hcase] at hnode
      exact absurd hnode (by decide +kernel)
    | some node => rw [hcase] at hsameNode; exact congrArg some hsameNode
  · rw [hlocal, ← hsame, hsameNode]

/-- The lock with its gate spelled out is the lock whose gate is one more answer. -/
def gated (env : Env) (context : Context) (s : Session) : Env :=
  { env with check := fun check n => if check = .bridgeAdmission
      then (requireBridgeAdmissionCompatible env context s).2 else env.check check n }

theorem silent_bind_congr {α β : Type} {m : Op α} (hm : Silent m) {f g : α → Op β}
    (hfg : ∀ a, f a s = g a s) : (m >>= f) s = (m >>= g) s := by
  rcases hm.ok_or_error s with ⟨a, ha⟩ | ⟨message, hmessage⟩
  · rw [prog_bind_of_ok ha, prog_bind_of_ok ha, hfg a]
  · rw [prog_bind_of_error hmessage, prog_bind_of_error hmessage]

theorem withVgLock_eq {α : Type} (code : Op α) :
    withVgLock env context code s = ThickVolume.withVgLock (gated env context s) code s := by
  have hask (check : Check) (hne : check ≠ .bridgeAdmission) :
      ask (gated env context s) check = ask env check := by
    funext r
    simp only [ask, gated, if_neg hne]
  have hgate : ask (gated env context s) .bridgeAdmission s =
      requireBridgeAdmissionCompatible env context s := by
    refine Prod.ext ?_ ?_
    · exact (silent_requireBridgeAdmissionCompatible env context s).symm
    · simp [ask, gated]
  unfold withVgLock ThickVolume.withVgLock
  rw [hask .quorum (by decide), hask .clusterLock (by decide), hask .storageIdentity (by decide),
    hask .aliasConfiguration (by decide), hask .failureDomain (by decide),
    hask .noWorker (by decide)]
  iterate 6 refine silent_bind_congr (silent_ask env _) fun _ => ?_
  simp only [bind, hgate]

/-! ## Mutations -/

/-- A command that leaves the tags of the bridge as they are. -/
def KeepsBridge (command : Command) : Prop :=
  ∀ S : Store, (command.store S).vgTags.filter isBridgeTag = S.vgTags.filter isBridgeTag

theorem keepsBridge_changeVgTags {delete add : List String}
    (hdelete : ∀ tag ∈ delete, isBridgeTag tag = false)
    (hadd : ∀ tag ∈ add, isBridgeTag tag = false) : KeepsBridge (.changeVgTags delete add) := by
  intro S
  rw [Command.store, retag, List.filter_append]
  have hnone : (add.filter (· ∉ S.vgTags.filter (· ∉ delete))).filter isBridgeTag = [] := by
    refine List.filter_eq_nil_iff.mpr fun tag hmem => ?_
    simp [hadd tag (List.mem_filter.mp hmem).1]
  rw [hnone, List.append_nil, List.filter_filter]
  refine List.filter_congr fun tag _ => ?_
  by_cases hmem : tag ∈ delete
  · simp [hdelete tag hmem]
  · simp [hmem]

theorem keepsBridge_changeTags (lv : String) (delete add : List String) :
    KeepsBridge (.changeTags lv delete add) := by
  intro S
  rw [Command.store]
  unfold Store.setTags
  split <;> rfl

/-- An operation under the lock of the group. -/
structure Mutation where
  code : Env → Op Unit
  keeps : ∀ env, Issues KeepsBridge (code env)

/-! ## Calls that may die -/

inductive Call
  | admission (context : Context) (action : Action) (tx node : String)
  | mutation (context : Context) (mutation : Mutation)

def Call.run (env : Env) : Call → Op Unit
  | .admission context action tx node => do
    let _ ← bridgeAdmission env context action tx node
  | .mutation context m => withVgLock env context (m.code env)

/-- A call, what its environment answers, and after how many commands it dies, if it does. -/
structure Event where
  env : Env
  kernel : Kernel
  call : Call
  cut : Option Nat

namespace Event

def start (e : Event) (S : Store) : Session := ⟨S, e.kernel, []⟩

def issued (e : Event) (S : Store) : List Issued :=
  cutOff e.cut (e.call.run e.env (e.start S)).1.issued

/-- The volume group after the call. -/
def store (e : Event) (S : Store) : Store := lastStore S (e.issued S)

def Returns (e : Event) (S : Store) : Prop :=
  e.cut = none ∧ (e.call.run e.env (e.start S)).2 = .ok ()

end Event

def Step (S : Store) (e : Event) (S' : Store) : Prop := S' = e.store S

/-- The call asks for the lock, or gives it back, in the name of the holder. -/
def Call.Asks (action : Action) (h : Holder) : Call → Prop
  | .admission _ action' tx node => action' = action ∧ h = ⟨body tx, body node⟩
  | .mutation .. => False

/-- The call is the holder's: it runs on his node, in his name. -/
def Call.By (h : Holder) : Call → Prop
  | .admission context _ tx node => context.localNode = .ok h.node ∧ h = ⟨body tx, body node⟩
  | .mutation context _ => context.RunsFor h

variable {e : Event} {S : Store}

theorem outcome_result {α : Type} {m : Op α} {Q : α → Session → Prop} {E : Session → Prop}
    (h : Outcome m Q E s) : (∃ a, m s = ((m s).1, .ok a) ∧ Q a (m s).1) ∨
      ∃ message, m s = ((m s).1, .error message) ∧ E (m s).1 := by
  unfold Outcome at h
  split at h
  · rename_i t a hrun
    exact Or.inl ⟨a, by rw [hrun], by rw [hrun]; exact h⟩
  · rename_i t message hrun
    exact Or.inr ⟨message, by rw [hrun], by rw [hrun]; exact h⟩

/-- After a mutation that issued a command the gate had let it through. -/
theorem issues_withVgLock {P : Command → Prop} {code : Op Unit} (hcode : Issues P code)
    (s : Session) : (withVgLock env context code s).1 = s ∨
      Path P s (withVgLock env context code s).1 ∧
        ∃ lock, Reads s.store.vgTags lock ∧ ∀ h ∈ lock, context.RunsFor h := by
  have hstop {β : Type} {m : Op β} {f : β → Op Unit} (hm : Silent m)
      (hf : ∀ a, m s = (s, .ok a) → (f a s).1 = s ∨ Path P s (f a s).1 ∧
        ∃ lock, Reads s.store.vgTags lock ∧ ∀ h ∈ lock, context.RunsFor h) :
      ((m >>= f) s).1 = s ∨ Path P s ((m >>= f) s).1 ∧
        ∃ lock, Reads s.store.vgTags lock ∧ ∀ h ∈ lock, context.RunsFor h := by
    rcases hm.ok_or_error s with ⟨a, ha⟩ | ⟨message, hmessage⟩
    · rw [prog_bind_of_ok ha]
      exact hf a ha
    · rw [prog_bind_of_error hmessage]
      exact Or.inl rfl
  unfold withVgLock
  iterate 6 refine hstop (silent_ask env _) fun _ _ => ?_
  refine hstop (silent_requireBridgeAdmissionCompatible env context) fun _ hgate => ?_
  refine hstop (silent_ask env _) fun _ _ => ?_
  exact Or.inr ⟨hcode s, requireBridgeAdmissionCompatible_eq_ok hgate⟩

theorem Event.store_of_none (h : e.issued S = []) : e.store S = S := by
  rw [Event.store, h]
  rfl

/-- What holds after every command holds after the call that issued one. -/
theorem Event.store_of_issued {P : Store → Prop} (hne : e.issued S ≠ [])
    (hall : ∀ i ∈ (e.call.run e.env (e.start S)).1.issued, P i.store) : P (e.store S) :=
  lastStore_of (fun hnone => absurd hnone hne) fun i hi => hall i (mem_of_mem_cutOff hi)

theorem Event.issued_of_same (h : (e.call.run e.env (e.start S)).1 = e.start S) :
    e.issued S = [] := by
  rw [Event.issued, h]
  exact cutOff_nil

/-- What one call can do: nothing, take a free lock, give back its own, or leave the lock alone. -/
inductive Turn (e : Event) (S : Store) (lock : Option Holder) : Prop
  | nothing : e.issued S = [] → Turn e S lock
  | acquire (h : Holder) : e.call.Asks .acquire h → e.call.By h → lock = none →
      Reads (e.store S).vgTags none ∨ Reads (e.store S).vgTags (some h) → Turn e S lock
  | release (h : Holder) : e.call.Asks .release h → e.call.By h → lock = some h →
      Reads (e.store S).vgTags (some h) ∨ Reads (e.store S).vgTags none → Turn e S lock
  | kept : (∀ h ∈ lock, e.call.By h) → Reads (e.store S).vgTags lock → Turn e S lock

theorem run_admission (env : Env) (context : Context) (action : Action) (tx node : String)
    (s : Session) : ((Call.admission context action tx node).run env s).1 =
      (bridgeAdmission env context action tx node s).1 := by
  simp only [Call.run, bind]
  split <;> rename_i hrun <;> rw [hrun]
  rfl

theorem turn (hreads : Reads S.vgTags lock) (e : Event) : Turn e S lock := by
  by_cases hissued : e.issued S = []
  · exact .nothing hissued
  cases hcall : e.call with
  | mutation context m =>
    have hrun := @issues_withVgLock e.env context _ _ (m.keeps e.env) (e.start S)
    rcases hrun with hsame | ⟨hpath, lock', hlock, hfor⟩
    · exact absurd (Event.issued_of_same (by rw [hcall]; exact hsame)) hissued
    · obtain rfl := hreads.unique hlock
      refine .kept (fun h hmem => ?_) ?_
      · rw [hcall]
        exact hfor h hmem
      · obtain ⟨-, new, hnew, hall⟩ := hpath.within (fun S => S.vgTags.filter isBridgeTag)
          fun command S hkeep => hkeep S
        have hkept := @Event.store_of_issued e S
          (fun S' => S'.vgTags.filter isBridgeTag = S.vgTags.filter isBridgeTag) hissued
          fun i hi => by
            rw [hcall] at hi
            replace hi : i ∈ (withVgLock e.env context (m.code e.env) (e.start S)).1.issued := hi
            rw [hnew] at hi
            exact hall i (by simpa [Event.start] using hi)
        exact hreads.congr hkept
  | admission context action tx node =>
    have hrun := run_admission e.env context action tx node (e.start S)
    rw [← hcall] at hrun
    rcases @bridgeAdmission_moves e.env _ _ tx node (e.start S) with hsame | ⟨hlegal, hmoves⟩
    · exact absurd (Event.issued_of_same (hrun.trans hsame)) hissued
    rw [← hrun] at hmoves
    have hby : e.call.By ⟨body tx, body node⟩ := by
      rw [hcall]
      exact ⟨hlegal.localNode, rfl⟩
    have hasks : e.call.Asks action ⟨body tx, body node⟩ := by
      rw [hcall]
      exact ⟨rfl, rfl⟩
    have hstore {command : Command} (hran : Ran command (e.start S)
        (e.call.run e.env (e.start S)).1) : e.store S = command.store S ∨ e.store S = S := by
      refine @Event.store_of_issued e S (fun S' => S' = command.store S ∨ S' = S) hissued ?_
      intro i hi
      rw [hran.issued] at hi
      obtain rfl : i = _ := List.mem_singleton.mp hi
      exact hran.store
    cases hmoves with
    | nothing _ hsame => exact absurd (Event.issued_of_same hsame) hissued
    | acquired hfree hran =>
      obtain rfl := hreads.unique hfree
      refine .acquire _ hasks hby rfl ?_
      rcases hstore hran with hs | hs <;> rw [hs]
      · exact Or.inr (hfree.acquired hlegal.tx hlegal.node)
      · exact Or.inl hfree
    | released hheld hran =>
      obtain rfl := hreads.unique hheld
      refine .release _ hasks hby rfl ?_
      rcases hstore hran with hs | hs <;> rw [hs]
      · exact Or.inr hheld.released
      · exact Or.inl hheld

/-- An action that was not cut off leaves what it left. -/
theorem Moves.store {h : Holder} {action : Action} (hcut : e.cut = none)
    (hmoves : Moves h (e.start S) (e.call.run e.env (e.start S)).1 action) :
    e.store S = (e.call.run e.env (e.start S)).1.store := by
  have hissued : e.issued S = (e.call.run e.env (e.start S)).1.issued := by
    rw [Event.issued, hcut]
    rfl
  have hlast {command : Command} (hran : Ran command (e.start S)
      (e.call.run e.env (e.start S)).1) :
      e.store S = (e.call.run e.env (e.start S)).1.store := by
    rw [hran.issued] at hissued
    rw [Event.store, hissued]
    rfl
  cases hmoves with
  | nothing _ hsame =>
    rw [Event.store_of_none (Event.issued_of_same hsame), hsame]
    rfl
  | acquired _ hran => exact hlast hran
  | released _ hran => exact hlast hran

/-- An acquisition that returned has the lock. -/
theorem acquired_of_returns {h : Holder} (hreturns : e.Returns S)
    (hasks : e.call.Asks .acquire h) : Reads (e.store S).vgTags (some h) := by
  obtain ⟨hcut, hok⟩ := hreturns
  cases hcall : e.call with
  | mutation context m =>
    rw [hcall] at hasks
    exact hasks.elim
  | admission context action tx node =>
    rw [hcall] at hasks hok
    obtain ⟨rfl, rfl⟩ := hasks
    obtain ⟨t, hrun⟩ : ∃ t, Call.run e.env (.admission context .acquire tx node) (e.start S) =
        (t, .ok ()) := ⟨_, Prod.ext rfl hok⟩
    obtain ⟨a, t', hrun', hp⟩ := prog_bind_eq_ok.mp hrun
    obtain ⟨rfl, -⟩ := prog_pure_eq_ok.mp hp
    have houtcome := @outcome_bridgeAdmission e.env context .acquire tx node (e.start S)
    rw [Outcome, hrun'] at houtcome
    obtain ⟨-, hmoves, hreads⟩ := houtcome
    have hfinal : (e.call.run e.env (e.start S)).1 = t := by rw [hcall, hrun]
    rw [← hfinal] at hmoves hreads
    rw [hmoves.store hcut]
    exact hreads

theorem reads_step (hreads : Reads S.vgTags lock) (e : Event) :
    ∃ lock', Reads (e.store S).vgTags lock' := by
  cases turn hreads e with
  | nothing hnone => exact ⟨lock, by rw [Event.store_of_none hnone]; exact hreads⟩
  | acquire h _ _ _ hafter => exact hafter.elim (fun h => ⟨_, h⟩) fun h => ⟨_, h⟩
  | release h _ _ _ hafter => exact hafter.elim (fun h => ⟨_, h⟩) fun h => ⟨_, h⟩
  | kept _ hafter => exact ⟨_, hafter⟩

/-- Nothing but the holder's own release takes a lock away. -/
theorem held_step {h : Holder} (hreads : Reads S.vgTags (some h))
    (hkept : ¬ e.call.Asks .release h) :
    Reads (e.store S).vgTags (some h) ∧ (e.issued S ≠ [] → e.call.By h) := by
  cases turn hreads e with
  | nothing hnone =>
    rw [Event.store_of_none hnone]
    exact ⟨hreads, fun hne => absurd hnone hne⟩
  | acquire _ _ _ hfree _ => cases hfree
  | release h' hasks _ hsame _ =>
    obtain rfl := Option.some.inj hsame
    exact absurd hasks hkept
  | kept hby hafter => exact ⟨hafter, fun _ => hby h rfl⟩

end SharedLvmThin.Bridge
