import SharedLvmThin.ThinPoolRuns

/-!
# Takeover from a fenced owner

A takeover audits the peers without the fenced owner; the commit barrier audits all of them. The
activation goes through exactly when the owner is outside of the storage's scope and the scope has
another peer.
-/

namespace SharedLvmThin.Thin
open Perl KeyedLists Effects

variable {env : Env} {c : Cluster} {tags : List String} {owner epoch node tag : String}

/-! ## Owner tags -/

theorem tagValue?_eq_some {start value : String} {valid : String → Bool}
    (hend : ¬ EndsInNewline tag) :
    tagValue? start valid tag = some value ↔ tag = start ++ value ∧ valid value = true := by
  rw [tagValue?, after?, body_eq_self hend, Option.filter_eq_some_iff, Option.map_eq_some_iff]
  refine and_congr_left fun _ => ?_
  constructor
  · rintro ⟨rest, hrest, rfl⟩
    obtain ⟨front, hfront, heq⟩ := List.dropPrefix?_eq_some_iff.mp hrest
    rw [← String.ofList_toList (s := tag), hfront, eq_of_beq heq, String.ofList_append,
      String.ofList_toList]
  · rintro rfl
    refine ⟨value.toList, ?_, String.ofList_toList⟩
    rw [String.toList_append]
    exact List.dropPrefix?_append_of_beq _ (beq_self_eq_true _)

theorem not_endsInNewline_append {start value : String} (hstart : '\n' ∉ start.toList)
    (hvalue : '\n' ∉ value.toList) : ¬ EndsInNewline (start ++ value) := by
  intro hend
  have hmem := List.mem_of_getLast? hend
  rw [String.toList_append, List.mem_append] at hmem
  exact hmem.elim hstart hvalue

theorem no_newline_of_isNodeName (h : isNodeName node = true) : '\n' ∉ node.toList := by
  intro hmem
  unfold isNodeName at h
  split at h
  · rename_i first rest heq
    rw [heq, List.mem_cons] at hmem
    rw [Bool.and_eq_true, List.all_eq_true] at h
    rcases hmem with rfl | hmem
    · exact absurd h.1 (by decide)
    · exact absurd (h.2 _ hmem) (by decide)
  · cases h

theorem no_newline_of_isEpoch (h : isEpoch epoch = true) : '\n' ∉ epoch.toList := by
  intro hmem
  exact absurd ((exactly_iff.mp h).2 _ hmem) (by decide)

theorem ownerTag_ends (h : isNodeName node = true) : ¬ EndsInNewline (ownerTag node) :=
  not_endsInNewline_append (by decide) (no_newline_of_isNodeName h)

theorem epochTag_ends (h : isEpoch epoch = true) : ¬ EndsInNewline (epochTag epoch) :=
  not_endsInNewline_append (by decide) (no_newline_of_isEpoch h)

theorem ownerOf?_ownerTag (h : isNodeName node = true) : ownerOf? (ownerTag node) = some node :=
  (tagValue?_eq_some (ownerTag_ends h)).mpr ⟨rfl, h⟩

theorem epochOf?_epochTag (h : isEpoch epoch = true) : epochOf? (epochTag epoch) = some epoch :=
  (tagValue?_eq_some (epochTag_ends h)).mpr ⟨rfl, h⟩

theorem take_append {start value : String} {n : ℕ} (h : n ≤ start.toList.length) :
    (start ++ value).toList.take n = start.toList.take n := by
  rw [String.toList_append, List.take_append_of_le_length h]

theorem ownerTag_take : (ownerTag node).toList.take 15 = "pve-slt-owner-n".toList :=
  (take_append (by decide +kernel)).trans (by decide +kernel)

theorem epochTag_take : (epochTag epoch).toList.take 15 = "pve-slt-owner-e".toList :=
  (take_append (by decide +kernel)).trans (by decide +kernel)

theorem ownerTag_ne_epochTag : ownerTag node ≠ epochTag epoch := by
  intro h
  have htake := ownerTag_take.symm.trans ((congrArg (fun s => s.toList.take 15) h).trans
    epochTag_take)
  exact absurd htake (by decide +kernel)

theorem schemaTag_ne_ownerTag : schemaTag ≠ ownerTag node := by
  intro h
  have htake := (congrArg (fun s => s.toList.take 15) h).trans ownerTag_take
  exact absurd htake (by decide +kernel)

theorem schemaTag_ne_epochTag : schemaTag ≠ epochTag epoch := by
  intro h
  have htake := (congrArg (fun s => s.toList.take 15) h).trans epochTag_take
  exact absurd htake (by decide +kernel)

theorem ownerOf?_epochTag (h : isEpoch epoch = true) : ownerOf? (epochTag epoch) = none := by
  rw [Option.eq_none_iff_forall_ne_some]
  intro value hvalue
  exact ownerTag_ne_epochTag ((tagValue?_eq_some (epochTag_ends h)).mp hvalue).1.symm

theorem epochOf?_ownerTag (h : isNodeName node = true) : epochOf? (ownerTag node) = none := by
  rw [Option.eq_none_iff_forall_ne_some]
  intro value hvalue
  exact ownerTag_ne_epochTag ((tagValue?_eq_some (ownerTag_ends h)).mp hvalue).1

/-- A tag of the ownership namespace that no pattern reads. -/
def isMalformed (tag : String) : Bool :=
  tag ≠ schemaTag && (ownerOf? tag).isNone && (epochOf? tag).isNone &&
    (after? "pve-slt-owner-" tag).isSome

theorem ownerStateFromTags_eq_ok {st : OwnerState} : ownerStateFromTags tags = .ok st ↔
    (∀ tag ∈ tags, isMalformed tag = false) ∧ tags.count schemaTag ≤ 1 ∧
      (tags.filterMap ownerOf?).length ≤ 1 ∧ (tags.filterMap epochOf?).length ≤ 1 ∧
      (tags.filterMap ownerOf?).length = (tags.filterMap epochOf?).length ∧
      st = ⟨tags.count schemaTag ≠ 0, (tags.filterMap ownerOf?).head?,
        (tags.filterMap epochOf?).head?⟩ := by
  simp only [ownerStateFromTags, bind_unit_eq_ok, forEach_eq_ok, dieIf_eq_ok, Bool.or_eq_false_iff,
    decide_eq_false_iff_not, not_lt, not_not, ne_eq, pure_eq_ok]
  constructor
  · rintro ⟨hwell, ⟨⟨hschema, howners⟩, hepochs⟩, hsame, rfl⟩
    exact ⟨hwell, hschema, howners, hepochs, hsame, rfl⟩
  · rintro ⟨hwell, hschema, howners, hepochs, hsame, rfl⟩
    exact ⟨hwell, ⟨⟨hschema, howners⟩, hepochs⟩, hsame, rfl⟩

/-- A tag is a piece of one line of text. -/
def OneLine (tags : List String) : Prop := ∀ tag ∈ tags, ¬ EndsInNewline tag

theorem eq_singleton {l : List String} {a : String} (hlength : l.length ≤ 1)
    (hhead : l.head? = some a) : l = [a] := by
  match l, hlength, hhead with
  | [b], _, hb => rw [Option.some.inj hb]

/-- The tags of an owned pool. -/
structure Owned (tags : List String) (owner epoch : String) : Prop where
  line : OneLine tags
  state : ownerStateFromTags tags = .ok ⟨true, some owner, some epoch⟩

theorem Owned.owners (h : Owned tags owner epoch) : tags.filterMap ownerOf? = [owner] := by
  obtain ⟨-, -, hlength, -, -, hst⟩ := ownerStateFromTags_eq_ok.mp h.state
  exact eq_singleton hlength (OwnerState.mk.inj hst).2.1.symm

theorem Owned.epochs (h : Owned tags owner epoch) : tags.filterMap epochOf? = [epoch] := by
  obtain ⟨-, -, -, hlength, -, hst⟩ := ownerStateFromTags_eq_ok.mp h.state
  exact eq_singleton hlength (OwnerState.mk.inj hst).2.2.symm

theorem Owned.isNodeName (h : Owned tags owner epoch) : isNodeName owner = true := by
  have hmem : owner ∈ tags.filterMap ownerOf? := by rw [h.owners]; exact List.mem_singleton_self _
  obtain ⟨tag, htag, howner⟩ := List.mem_filterMap.mp hmem
  exact ((tagValue?_eq_some (h.line tag htag)).mp howner).2

/-- The tags after the fenced owner gave way. -/
def released (owner epoch : String) (tags : List String) : List String :=
  tags.filter (· ∉ [ownerTag owner, epochTag epoch])

theorem mem_released : tag ∈ released owner epoch tags ↔
    tag ∈ tags ∧ tag ≠ ownerTag owner ∧ tag ≠ epochTag epoch := by
  simp [released]

theorem Owned.released_owners (h : Owned tags owner epoch) :
    (released owner epoch tags).filterMap ownerOf? = [] := by
  rw [List.filterMap_eq_nil_iff]
  intro tag htag
  obtain ⟨hmem, hkept, -⟩ := mem_released.mp htag
  rw [Option.eq_none_iff_forall_ne_some]
  intro v hv
  have howner : v ∈ tags.filterMap ownerOf? := List.mem_filterMap.mpr ⟨tag, hmem, hv⟩
  rw [h.owners, List.mem_singleton] at howner
  exact hkept (howner ▸ ((tagValue?_eq_some (h.line tag hmem)).mp hv).1)

theorem Owned.released_epochs (h : Owned tags owner epoch) :
    (released owner epoch tags).filterMap epochOf? = [] := by
  rw [List.filterMap_eq_nil_iff]
  intro tag htag
  obtain ⟨hmem, -, hkept⟩ := mem_released.mp htag
  rw [Option.eq_none_iff_forall_ne_some]
  intro v hv
  have hepoch : v ∈ tags.filterMap epochOf? := List.mem_filterMap.mpr ⟨tag, hmem, hv⟩
  rw [h.epochs, List.mem_singleton] at hepoch
  exact hkept (hepoch ▸ ((tagValue?_eq_some (h.line tag hmem)).mp hv).1)

theorem Owned.released_state (h : Owned tags owner epoch) :
    ownerStateFromTags (released owner epoch tags) = .ok ⟨true, none, none⟩ := by
  obtain ⟨hwell, hschema, -, -, -, hst⟩ := ownerStateFromTags_eq_ok.mp h.state
  have hcount : (released owner epoch tags).count schemaTag = tags.count schemaTag :=
    List.count_filter (by simp [schemaTag_ne_ownerTag, schemaTag_ne_epochTag])
  rw [ownerStateFromTags_eq_ok, h.released_owners, h.released_epochs, hcount]
  refine ⟨fun tag htag => hwell tag (mem_released.mp htag).1, hschema, by simp, by simp, rfl, ?_⟩
  rw [← (OwnerState.mk.inj hst).1]
  rfl

/-- The claim of the local node after the release. -/
theorem claimed_state {new : String} (h : Owned tags owner epoch)
    (hnode : SharedLvmThin.Thin.isNodeName node = true) (hnew : isEpoch new = true) :
    ownerStateFromTags (released owner epoch tags ++
        [ownerTag node, epochTag new].filter (· ∉ released owner epoch tags)) =
      .ok ⟨true, some node, some new⟩ := by
  have howner : ownerTag node ∉ released owner epoch tags := by
    intro hmem
    have hnone := List.filterMap_eq_nil_iff.mp h.released_owners _ hmem
    rw [ownerOf?_ownerTag hnode] at hnone
    cases hnone
  have hepoch : epochTag new ∉ released owner epoch tags := by
    intro hmem
    have hnone := List.filterMap_eq_nil_iff.mp h.released_epochs _ hmem
    rw [epochOf?_epochTag hnew] at hnone
    cases hnone
  have hadded : [ownerTag node, epochTag new].filter (· ∉ released owner epoch tags) =
      [ownerTag node, epochTag new] := by simp [howner, hepoch]
  obtain ⟨hwell, hschema, -, -, -, hst⟩ := ownerStateFromTags_eq_ok.mp h.released_state
  have hcount : (released owner epoch tags ++ [ownerTag node, epochTag new]).count schemaTag =
      (released owner epoch tags).count schemaTag := by
    have hnone : [ownerTag node, epochTag new].count schemaTag = 0 := by
      simp [List.count_eq_zero, schemaTag_ne_ownerTag, schemaTag_ne_epochTag]
    rw [List.count_append, hnone, add_zero]
  rw [hadded, ownerStateFromTags_eq_ok, hcount, List.filterMap_append, List.filterMap_append,
    h.released_owners, h.released_epochs]
  have howners : [ownerTag node, epochTag new].filterMap ownerOf? = [node] := by
    simp [ownerOf?_ownerTag hnode, ownerOf?_epochTag hnew]
  have hepochs : [ownerTag node, epochTag new].filterMap epochOf? = [new] := by
    simp [epochOf?_ownerTag hnode, epochOf?_epochTag hnew]
  rw [howners, hepochs]
  refine ⟨?_, hschema, by simp, by simp, rfl, ?_⟩
  · intro tag htag
    rcases List.mem_append.mp htag with htag | htag
    · exact hwell tag htag
    · simp only [List.mem_cons, List.not_mem_nil, or_false] at htag
      rcases htag with rfl | rfl
      · simp [isMalformed, ownerOf?_ownerTag hnode]
      · simp [isMalformed, epochOf?_epochTag hnew]
  · rw [← (OwnerState.mk.inj hst).1]
    rfl

/-! ## Peers in the scope -/

section
variable {members : List (String × Member)} {scope : Value} {localNode : String}
  {peers selected : List String}

theorem selectPeerNodes_eq_ok : selectPeerNodes (some members) localNode scope = .ok peers ↔
    isNodeName localNode = true ∧ ∃ selected, selectedNodes members scope = .ok selected ∧
      peers = sortBy id (selected.filter (· ≠ localNode)).dedup ∧ peers ≠ [] ∧
      ∀ m ∈ peers, checkPeer members m = .ok () := by
  simp only [selectPeerNodes, bind_eq_ok, exists_unit, dieIf_eq_ok, forEach_eq_ok, pure_eq_ok,
    Bool.not_eq_false', List.isEmpty_eq_false_iff]
  refine and_congr_right fun _ => exists_congr fun selected => and_congr_right fun _ => ?_
  constructor
  · rintro ⟨hne, hpeers, rfl⟩
    exact ⟨rfl, hne, hpeers⟩
  · rintro ⟨rfl, hne, hpeers⟩
    exact ⟨hne, hpeers, rfl⟩

theorem mem_peers {m : String} : m ∈ sortBy id (selected.filter (· ≠ localNode)).dedup ↔
    m ∈ selected ∧ m ≠ localNode := by
  simp

theorem peers_nodup : (sortBy id (selected.filter (· ≠ localNode)).dedup).Nodup := by
  rw [(sortBy_perm id _).nodup_iff]
  exact List.nodup_dedup _

theorem splitOn_join_splitOn (s : String) :
    splitOn ',' (",".intercalate (splitOn ',' s)) = splitOn ',' s := by
  have hjoin := splitOn_intercalate (fun piece (h : piece ∈ splitOn ',' s) => splitOn_no_comma h)
  rw [show String.singleton ',' = "," from rfl] at hjoin
  rw [hjoin]
  exact List.rdropWhile_idempotent _ _

/-- Without a fenced node that the scope does not select, the scope selects the same nodes. -/
theorem selectedNodes_withoutFenced {fenced : String}
    (h : selectedNodes members scope = .ok selected) (hout : fenced ∉ selected)
    (hne : selected ≠ []) : selectedNodes members (withoutFenced members fenced scope) =
      .ok selected := by
  have hjoined : ∀ s : String, splitOn ',' s = selected →
      selectedNodes members (.str (",".intercalate ((splitOn ',' s).filter (· ≠ fenced)))) =
        .ok selected := by
    intro s hs
    have hall : (splitOn ',' s).filter (· ≠ fenced) = splitOn ',' s := by
      rw [List.filter_eq_self, hs]
      intro m hm
      simpa using fun he : m = fenced => hout (he ▸ hm)
    have hback := splitOn_join_splitOn s
    rw [hall, selectedNodes]
    split
    · rename_i hempty
      rw [hempty, splitOn_empty] at hback
      exact (hne (hs ▸ hback.symm)).elim
    · rw [hback, hs]
  cases scope with
  | undef =>
    cases h
    simp only [withoutFenced, selectedNodes, List.filter_map, List.map_map, Except.ok.injEq]
    refine congrArg _ (List.filter_eq_self.mpr fun m hm => ?_)
    have hother : m.1 ≠ fenced := fun he => hout (he ▸ List.mem_map_of_mem hm)
    simp [hother, Value.truthy, Value.text]
  | hash fields =>
    cases h
    simp only [withoutFenced, selectedNodes, List.filter_filter, Except.ok.injEq]
    refine congrArg _ (List.filter_congr fun field hfield => ?_)
    cases htruthy : field.2.truthy with
    | false => rfl
    | true =>
      have hkept : field ∈ fields.filter fun field => field.2.truthy :=
        List.mem_filter.mpr ⟨hfield, htruthy⟩
      have hother : field.1 ≠ fenced := fun he => hout (he ▸ List.mem_map_of_mem hkept)
      simp [hother]
  | str s =>
    by_cases hs : s = ""
    · subst hs
      simp only [withoutFenced, splitOn_empty, List.filter_nil]
      exact h
    · simp only [selectedNodes, if_neg hs, Except.ok.injEq] at h
      exact hjoined s h
  | num s =>
    cases h
    exact hjoined s rfl
  | bool b => cases h
  | array items => cases h
  | otherRef => cases h

end

/-! ## A fenced owner -/

/-- An online peer that reports the exact mapper `ABSENT`. -/
structure AnswersAbsent (env : Env) (c : Cluster) (members : List (String × Member))
    (node : String) : Prop where
  name : isNodeName node = true
  online : ∃ m, members.lookup node = some m ∧ m.online = true ∧ isAddress m.ip = true
  answer : ∀ n, env.check (.peerAnswer node) n = .ok ()
  absent : (c.kernel node).pool = false

/-- The owner is fenced and offline and nothing else is in the way of a takeover. -/
structure Fenced (env : Env) (c : Cluster) (members : List (String × Member))
    (owner epoch volname : String) : Prop where
  takeover : env.storage.haTakeover = "pve-ha"
  audits : env.storage.leaseguard = "remote-audit" ∨ env.storage.leaseguard = "runtime-guard"
  localNode : isNodeName env.node = true
  membership : env.members = some members
  owned : Owned c.tags owner epoch
  foreign : owner ≠ env.node
  evidence : haTakeoverEvidence env.ha env.vmid owner env.node = .ok ()
  offline : ∀ m, members.lookup owner = some m → m.online = false
  dark : c.kernel env.node = ⟨false, []⟩
  peers : ∀ selected, selectedNodes members env.storage.nodes = .ok selected →
    ∀ m ∈ selected, m ≠ env.node → m ≠ owner → AnswersAbsent env c members m
  volume : OwnedVolume env c volname
  checks : ∀ check n, (∀ m, check ≠ .peerAnswer m) → env.check check n = .ok ()
  commands : ∀ n, (env.outcome n).applied = true ∧ (env.outcome n).reported = .ok ()
  transaction : isEpoch env.transactionId = true

/-- The activation issues its `lvchange` with the local node as the owner. -/
def Reaches (env : Env) (c : Cluster) (volname : String) (snapname : Option String) : Prop :=
  ∃ i ∈ (activateThinVolumeLocked env volname snapname ⟨c, []⟩).1.issued,
    i.command = .activate (lvOf volname snapname) ∧
      ∃ st, ownerStateFromTags i.tags = .ok st ∧ st.owner = some env.node

/-- The scope leaves the owner out and has a peer. -/
def AuditableWithout (members : List (String × Member)) (scope : Value) (owner localNode : String) :
    Prop :=
  ∃ selected, selectedNodes members scope = .ok selected ∧ owner ∉ selected ∧
    ∃ peer ∈ selected, peer ≠ localNode

section
variable {members : List (String × Member)} {volname : String} {snapname : Option String}
  {s : Session} {peers : List String}

theorem AnswersAbsent.checkPeer (h : AnswersAbsent env c members node) :
    checkPeer members node = .ok () := by
  obtain ⟨m, hlookup, honline, haddress⟩ := h.online
  have hbody : body node = node := body_eq_self fun hend =>
    no_newline_of_isNodeName h.name (List.mem_of_getLast? hend)
  simp [Thin.checkPeer, hbody, h.name, hlookup, honline, haddress, dieIf]

theorem ask_ok {check : Check} (h : ∀ n, env.check check n = .ok ()) :
    ask env check s = (s, .ok ()) := by
  rw [ask, h]

theorem askPeers_ok (hanswer : ∀ m ∈ peers, (∀ n, env.check (.peerAnswer m) n = .ok ()) ∧
    (s.cluster.kernel m).pool = false) :
    askPeers env peers s = (s, .ok (peers.map fun m => ⟨m, false⟩)) := by
  induction peers with
  | nil => rfl
  | cons node rest ih =>
    obtain ⟨hask, habsent⟩ := hanswer node List.mem_cons_self
    have hitem : askPeer env node s = (s, .ok ⟨node, false⟩) := by
      rw [askPeer, prog_bind_of_ok (ask_ok hask)]
      simp only [cluster, bind, pure, habsent]
    rw [askPeers, prog_bind_of_ok hitem,
      prog_bind_of_ok (ih fun m hm => hanswer m (List.mem_cons_of_mem _ hm))]
    rfl

theorem go_absent {seen : List String} (hnames : ∀ m ∈ peers, isNodeName m = true ∧ m ∉ seen)
    (hnodup : peers.Nodup) :
    evaluatePeerMapperEvidence.go seen (peers.map fun m => ⟨m, false⟩) = .ok .allPeersAbsent := by
  induction peers generalizing seen with
  | nil => rfl
  | cons node rest ih =>
    obtain ⟨hname, hfresh⟩ := hnames node List.mem_cons_self
    obtain ⟨hnode, hrest⟩ := List.nodup_cons.mp hnodup
    rw [List.map_cons, evaluatePeerMapperEvidence.go]
    simp only [hname, hfresh, dieIf]
    refine ih (fun m hm => ⟨(hnames m (List.mem_cons_of_mem _ hm)).1, ?_⟩) hrest
    rw [List.mem_cons, not_or]
    exact ⟨fun he => hnode (he ▸ hm), (hnames m (List.mem_cons_of_mem _ hm)).2⟩

/-- Where the scope leaves the owner out, the audits before and after the takeover pass. -/
theorem Fenced.audit_ok (h : Fenced env c members owner epoch volname)
    (hscope : AuditableWithout members env.storage.nodes owner env.node)
    (hs : s.cluster.kernel = c.kernel) {fenced : Option String}
    (hfenced : fenced = none ∨ fenced = some owner) :
    remoteMapperAudit env fenced s = (s, .ok ()) := by
  obtain ⟨selected, hselected, hout, peer, hpeer, hother⟩ := hscope
  have hanswers : ∀ m ∈ sortBy id (selected.filter (· ≠ env.node)).dedup,
      AnswersAbsent env c members m := by
    intro m hm
    obtain ⟨hm, hlocal⟩ := mem_peers.mp hm
    exact h.peers selected hselected m hm hlocal fun he => hout (he ▸ hm)
  have hne : sortBy id (selected.filter (· ≠ env.node)).dedup ≠ [] :=
    List.ne_nil_of_mem (mem_peers.mpr ⟨hpeer, hother⟩)
  have hselect : ∀ scope, selectedNodes members scope = .ok selected →
      selectPeerNodes (some members) env.node scope =
        .ok (sortBy id (selected.filter (· ≠ env.node)).dedup) := fun scope hsel =>
    selectPeerNodes_eq_ok.mpr ⟨h.localNode, selected, hsel, rfl, hne,
      fun m hm => (hanswers m hm).checkPeer⟩
  have hpeers : configuredPeerNodes env.members env.node env.storage.nodes fenced =
      .ok (sortBy id (selected.filter (· ≠ env.node)).dedup) := by
    rw [h.membership]
    rcases hfenced with rfl | rfl
    · exact hselect _ hselected
    · have hname := h.owned.isNodeName
      have hbody : body owner = owner := body_eq_self fun hend =>
        no_newline_of_isNodeName hname (List.mem_of_getLast? hend)
      simp only [configuredPeerNodes, hbody, hname, Option.getD_some, dieIf]
      exact hselect _ (selectedNodes_withoutFenced hselected hout (List.ne_nil_of_mem hpeer))
  have hgo : evaluatePeerMapperEvidence
      ((sortBy id (selected.filter (· ≠ env.node)).dedup).map fun m => ⟨m, false⟩) =
      .ok .allPeersAbsent := by
    rw [evaluatePeerMapperEvidence, if_neg (by simpa using hne)]
    exact go_absent (fun m hm => ⟨(hanswers m hm).name, List.not_mem_nil⟩) peers_nodup
  have hmode : (decide (env.storage.leaseguard ∉ ["disabled", "remote-audit", "runtime-guard"])) =
      false := by
    rcases h.audits with he | he <;> rw [he] <;> decide
  have henabled : env.storage.leaseguard ≠ "disabled" := by
    rcases h.audits with he | he <;> rw [he] <;> decide
  rw [remoteMapperAudit, refuse_bind hmode, if_neg henabled,
    prog_bind_of_ok (ask_ok fun n => h.checks _ n (by simp)),
    prog_bind_of_ok (ask_ok fun n => h.checks _ n (by simp)), lift_bind hpeers,
    prog_bind_of_ok (askPeers_ok fun m hm => ⟨(hanswers m hm).answer, ?_⟩), lift_bind hgo]
  · rfl
  · rw [hs]
    exact (hanswers m hm).absent

/-! ## The run -/

theorem runCommand_ok (h : Fenced env c members owner epoch volname) (command : Command) :
    runCommand env command s =
      (⟨command.apply env.pool env.node (env.outcome s.issued.length).keepsPool s.cluster,
        s.issued ++ [⟨command, s.cluster.tags⟩]⟩, .ok ()) := by
  obtain ⟨happlied, hreported⟩ := h.commands s.issued.length
  rw [runCommand]
  simp only [happlied, hreported, if_true]

theorem readOwner_ok (h : Fenced env c members owner epoch volname) {st : OwnerState}
    (hst : ownerStateFromTags s.cluster.tags = .ok st) : readOwner env s = (s, .ok st) := by
  rw [readOwner, prog_bind_of_ok (ask_ok fun n => h.checks _ n (by simp))]
  simp only [cluster, bind, lift, hst]

theorem poolRuntimeState_ok (h : Fenced env c members owner epoch volname)
    (hpool : s.cluster.pool.isNone = false) (hdark : s.cluster.kernel env.node = ⟨false, []⟩) :
    poolRuntimeState env s = (s, .ok ⟨false, []⟩) := by
  rw [poolRuntimeState, prog_bind_of_ok (ask_ok fun n => h.checks _ n (by simp))]
  simp [cluster, bind, refuse, lift, pure, hpool, hdark]

theorem tags_setTags {pool : PoolInfo} (hpool : c.pool = some pool)
    (f : List String → List String) : (c.setTags f).tags = f c.tags := by
  rw [Cluster.setTags, Cluster.tags, Cluster.tags, hpool]
  rfl

theorem isNone_setTags (f : List String → List String) :
    (c.setTags f).pool.isNone = c.pool.isNone := by
  rw [Cluster.setTags]
  cases c.pool <;> rfl

/-- The cluster after the fenced owner gave way, and after the local claim. -/
def afterRelease (owner epoch : String) (c : Cluster) : Cluster := c.setTags (released owner epoch)

def afterClaim (env : Env) (owner epoch : String) (c : Cluster) : Cluster :=
  (afterRelease owner epoch c).setTags fun old =>
    old ++ [ownerTag env.node, epochTag env.transactionId].filter (· ∉ old)

theorem Fenced.released_tags (h : Fenced env c members owner epoch volname) :
    (afterRelease owner epoch c).tags = released owner epoch c.tags := by
  obtain ⟨pool, hpool, -⟩ := h.volume.pool
  exact tags_setTags hpool _

theorem Fenced.claimed_tags (h : Fenced env c members owner epoch volname) :
    ownerStateFromTags (afterClaim env owner epoch c).tags =
      .ok ⟨true, some env.node, some env.transactionId⟩ := by
  obtain ⟨pool, hpool, -⟩ := h.volume.pool
  have hreleased : (afterRelease owner epoch c).pool =
      some { pool with tags := released owner epoch pool.tags } := by
    rw [afterRelease, Cluster.setTags, hpool]
    rfl
  rw [afterClaim, tags_setTags hreleased, h.released_tags]
  exact claimed_state h.owned h.localNode h.transaction

theorem Fenced.takeOver_ok (h : Fenced env c members owner epoch volname)
    (hscope : AuditableWithout members env.storage.nodes owner env.node) :
    takeOver env owner ⟨true, some owner, some epoch⟩ ⟨c, []⟩ =
      (⟨afterRelease owner epoch c, [⟨.delTags [ownerTag owner, epochTag epoch], c.tags⟩]⟩,
        .ok ()) := by
  have henabled : decide (env.storage.leaseguard = "disabled") = false := by
    rcases h.audits with he | he <;> rw [he] <;> decide
  rw [takeOver, refuse_bind henabled, lift_bind h.evidence,
    prog_bind_of_ok (h.audit_ok hscope rfl (.inr rfl)), prog_bind_of_ok (runCommand_ok h _)]
  have hafter := h.owned.released_state
  rw [← h.released_tags] at hafter
  refine (prog_bind_of_ok (readOwner_ok h hafter)).trans ?_
  rfl

theorem Fenced.claimUnowned_ok (h : Fenced env c members owner epoch volname)
    {issued : List Issued} : ∃ more,
      claimUnowned env true ⟨afterRelease owner epoch c, issued⟩ =
        (⟨afterClaim env owner epoch c, more⟩, .ok env.transactionId) := by
  obtain ⟨pool, hpool, -⟩ := h.volume.pool
  have hsome : (afterRelease owner epoch c).pool.isNone = false := by
    rw [afterRelease, isNone_setTags, hpool]
    rfl
  let claim : Issued := ⟨.addTags [ownerTag env.node, epochTag env.transactionId],
    (afterRelease owner epoch c).tags⟩
  refine ⟨issued ++ [claim], (prog_bind_of_ok (poolRuntimeState_ok h hsome h.dark)).trans ?_⟩
  refine (refuse_bind rfl).trans ?_
  have hskip : whenever (!true) (remoteMapperAudit env none) ⟨afterRelease owner epoch c, issued⟩ =
    (⟨afterRelease owner epoch c, issued⟩, .ok ()) := rfl
  refine (prog_bind_of_ok hskip).trans ?_
  refine (prog_bind_of_ok (runCommand_ok h _)).trans ?_
  refine (prog_bind_of_ok (readOwner_ok h h.claimed_tags)).trans ?_
  exact (refuse_bind (by simp)).trans rfl

/-- The claim takes the pool over from the fenced owner. -/
theorem Fenced.claim_ok (h : Fenced env c members owner epoch volname)
    (hscope : AuditableWithout members env.storage.nodes owner env.node) :
    ∃ issued, claimPoolOwner env ⟨c, []⟩ =
      (⟨afterClaim env owner epoch c, issued⟩, .ok env.transactionId) := by
  obtain ⟨issued, hclaim⟩ := @Fenced.claimUnowned_ok _ _ _ _ _ _ h
    [⟨.delTags [ownerTag owner, epochTag epoch], c.tags⟩]
  refine ⟨issued, (prog_bind_of_ok (ask_ok fun n => h.checks _ n (by simp))).trans ?_⟩
  refine (prog_bind_of_ok (readOwner_ok h h.owned.state)).trans ?_
  refine (refuse_bind rfl).trans ?_
  dsimp only
  rw [if_neg h.foreign, if_pos h.takeover]
  exact (prog_bind_of_ok (h.takeOver_ok hscope)).trans hclaim

theorem Fenced.barrier_ok (h : Fenced env c members owner epoch volname)
    (hscope : AuditableWithout members env.storage.nodes owner env.node) {issued : List Issued} :
    activationCommitBarrier env env.transactionId ⟨afterClaim env owner epoch c, issued⟩ =
      (⟨afterClaim env owner epoch c, issued⟩, .ok ()) := by
  have hbody : body env.transactionId = env.transactionId := body_eq_self fun hend =>
    no_newline_of_isEpoch h.transaction (List.mem_of_getLast? hend)
  have hepoch : (!isEpoch (body env.transactionId)) = false := by
    rw [hbody, h.transaction]
    rfl
  refine (refuse_bind hepoch).trans ?_
  refine (prog_bind_of_ok (h.audit_ok hscope rfl (.inl rfl))).trans ?_
  refine (prog_bind_of_ok (readOwner_ok h h.claimed_tags)).trans ?_
  exact refuse_eq_ok.mpr ⟨rfl, by simp⟩

theorem Fenced.prepareGuard_ok (h : Fenced env c members owner epoch volname) :
    prepareGuard env s = (s, .ok ()) := by
  refine (prog_bind_of_ok (ask_ok fun n => h.checks _ n (by simp))).trans ?_
  rw [attempt_bind, ask_ok fun n => h.checks _ n (by simp)]
  rfl

theorem Fenced.reaches (h : Fenced env c members owner epoch volname)
    (hscope : AuditableWithout members env.storage.nodes owner env.node) :
    Reaches env c volname snapname := by
  obtain ⟨issued, hclaim⟩ := h.claim_ok hscope
  obtain ⟨pool, hpool, -⟩ := h.volume.pool
  have hbefore : runtimeBefore env ⟨c, []⟩ = (⟨c, []⟩, .ok ⟨false, []⟩) := by
    rw [runtimeBefore]
    split
    · exact poolRuntimeState_ok h (by rw [hpool]; rfl) h.dark
    · rfl
  have hguard : ∀ s : Session, whenever (guarded env && !false) (prepareGuard env) s =
      (s, .ok ()) := by
    intro s
    cases guarded env with
    | false => rfl
    | true => exact h.prepareGuard_ok
  have hrun : activateThinVolumeLocked env volname snapname ⟨c, []⟩ =
      runCommand env (.activate (lvOf volname snapname))
        ⟨afterClaim env owner epoch c, issued⟩ := by
    refine (prog_bind_of_ok (ask_ok fun n => h.checks _ n (by simp))).trans ?_
    refine (prog_bind_of_ok (verifyOwnedVolume_eq_ok.mpr ⟨rfl, h.volume⟩)).trans ?_
    refine (prog_bind_of_ok (ask_ok fun n => h.checks _ n (by simp))).trans ?_
    refine (prog_bind_of_ok (ask_ok fun n => h.checks _ n (by simp))).trans ?_
    refine (prog_bind_of_ok hbefore).trans ?_
    refine (prog_bind_of_ok hclaim).trans ?_
    refine (prog_bind_of_ok (hguard _)).trans ?_
    exact prog_bind_of_ok (h.barrier_ok hscope)
  rw [Reaches, hrun]
  exact ⟨_, by rw [runCommand_issued]; exact List.mem_append_right _ (List.mem_singleton_self _),
    rfl, _, h.claimed_tags, rfl⟩

/-! ## The commit barrier -/

/-- No activation of the volume was issued. -/
def Unactivated (lv : String) (s : Session) : Prop := ∀ i ∈ s.issued, i.command ≠ .activate lv

theorem unactivated_retags {lv : String} {command : Command} (h : command.retags = true) :
    Keeps (Unactivated lv) (runCommand env command) := by
  apply keeps_runCommand
  intro s hs i hi
  rw [runCommand_issued, List.mem_append, List.mem_singleton] at hi
  rcases hi with hi | rfl
  · exact hs i hi
  · rintro rfl
    cases h

/-- The barrier selects the peers anew, and no node is excepted. -/
theorem peers_of_barrier {s' : Session} (hguard : env.storage.leaseguard ≠ "disabled")
    (hbarrier : activationCommitBarrier env epoch s = (s', .ok ())) :
    ∃ peers, configuredPeerNodes env.members env.node env.storage.nodes none = .ok peers := by
  simp only [activationCommitBarrier, prog_bind_eq_ok] at hbarrier
  obtain ⟨_, _, _, _, _, haudit, _⟩ := hbarrier
  simp only [remoteMapperAudit, prog_bind_eq_ok] at haudit
  obtain ⟨_, _, _, haudit⟩ := haudit
  rw [if_neg hguard] at haudit
  simp only [prog_bind_eq_ok, lift_eq_ok] at haudit
  obtain ⟨_, _, _, _, _, _, peers, _, ⟨_, hpeers⟩, _⟩ := haudit
  exact ⟨peers, hpeers⟩

/-- Nothing is activated before the barrier has passed. -/
theorem activate_audits (hguard : env.storage.leaseguard ≠ "disabled") :
    Triple (Unactivated (lvOf volname snapname)) (activateThinVolumeLocked env volname snapname)
      (fun _ _ => ∃ peers, configuredPeerNodes env.members env.node env.storage.nodes none =
        .ok peers)
      (fun s => Unactivated (lvOf volname snapname) s ∨ ∃ peers,
        configuredPeerNodes env.members env.node env.storage.nodes none = .ok peers) := by
  have htags : ∀ command : Command, command.retags = true →
      Keeps (Unactivated (lvOf volname snapname)) (runCommand env command) :=
    fun _ h => unactivated_retags h
  have hkeeps {α : Type} {op : Op α} (h : Keeps (Unactivated (lvOf volname snapname)) op) :
      Triple (Unactivated (lvOf volname snapname)) op
        (fun _ => Unactivated (lvOf volname snapname))
        (fun s => Unactivated (lvOf volname snapname) s ∨ ∃ peers,
          configuredPeerNodes env.members env.node env.storage.nodes none = .ok peers) :=
    h.weaken (fun _ h => h) (fun _ _ h => h) fun _ h => .inl h
  refine Triple.bind (hkeeps (silent_ask _ _).keeps) fun _ => ?_
  refine Triple.bind (hkeeps (silent_verifyOwnedVolume env volname false).keeps) fun _ => ?_
  refine Triple.bind (hkeeps (silent_ask _ _).keeps) fun _ => ?_
  refine Triple.bind (hkeeps (silent_ask _ _).keeps) fun _ => ?_
  refine Triple.bind (hkeeps (silent_runtimeBefore env).keeps) fun before => ?_
  refine Triple.bind (hkeeps (keeps_claimPoolOwner htags)) fun epoch => ?_
  refine Triple.bind (hkeeps (Keeps.whenever (keeps_prepareGuard htags) _)) fun _ => ?_
  refine Triple.silent (silent_activationCommitBarrier env epoch) (fun _ h => .inl h) fun _ => ?_
  apply triple_runCommand
  intro s hs
  have hpeers := peers_of_barrier hguard hs.2
  exact ⟨hpeers, .inr hpeers⟩

theorem Fenced.auditable (h : Fenced env c members owner epoch volname)
    (hreaches : Reaches env c volname snapname) :
    AuditableWithout members env.storage.nodes owner env.node := by
  have henabled : env.storage.leaseguard ≠ "disabled" := by
    rcases h.audits with he | he <;> rw [he] <;> decide
  obtain ⟨i, hi, hcommand, -⟩ := hreaches
  have hfinal := (@activate_audits env volname snapname henabled ⟨c, []⟩
    fun i hi => absurd hi List.not_mem_nil).final (fun _ _ h => .inr h) fun _ h => h
  rcases hfinal with hnone | ⟨peers, hpeers⟩
  · exact (hnone i hi hcommand).elim
  · rw [h.membership] at hpeers
    obtain ⟨-, selected, hselected, rfl, hne, hchecked⟩ := selectPeerNodes_eq_ok.mp hpeers
    obtain ⟨peer, hpeer⟩ := List.exists_mem_of_ne_nil _ hne
    refine ⟨selected, hselected, ?_, peer, (mem_peers.mp hpeer).1, (mem_peers.mp hpeer).2⟩
    -- an offline owner in the scope fails the check of its peer
    intro howner
    have hcheck := hchecked owner (mem_peers.mpr ⟨howner, h.foreign⟩)
    rw [checkPeer, bind_unit_eq_ok] at hcheck
    obtain ⟨-, hcheck⟩ := hcheck
    split at hcheck
    · cases hcheck
    · rename_i m hlookup
      simp [h.offline m hlookup, dieIf] at hcheck

end

/-- The takeover from a fenced owner goes through exactly when the storage's scope leaves the owner
out and has another peer. -/
theorem takeover_reaches_iff {members : List (String × Member)} {volname : String}
    (h : Fenced env c members owner epoch volname) (snapname : Option String) :
    Reaches env c volname snapname ↔
      AuditableWithout members env.storage.nodes owner env.node :=
  ⟨h.auditable, h.reaches⟩

/-! ## Three nodes -/

def threeMembers : List (String × Member) :=
  [("a", ⟨false, "10.0.0.1"⟩), ("b", ⟨true, "10.0.0.2"⟩), ("c", ⟨true, "10.0.0.3"⟩)]

/-- The manager has fenced node `a` and starts the VM on node `b`. -/
def fencedStatus : HaStatus where
  resource := some none
  manager := some ⟨some 1000, "b", "started", fun node => if node = "a" then "fence" else "online"⟩
  time := 1000

def takeoverEnv (scope : Value) : Env :=
  { sampleEnv "b" with
    storage := ⟨"thin", "vg0", "remote-audit", "pve-ha", scope, "fixed"⟩
    members := some threeMembers
    ha := fencedStatus
    transactionId := "fedcba9876543210fedcba9876543210" }

def fencedCluster : Cluster where
  pool := some ⟨"t", ownedTags⟩
  volumes := [("vm-100-disk-0", some "sltp-100")]
  kernel := fun _ => ⟨false, []⟩

theorem answersAbsent_c {scope : Value} :
    AnswersAbsent (takeoverEnv scope) fencedCluster threeMembers "c" where
  name := by decide
  online := ⟨⟨true, "10.0.0.3"⟩, rfl, rfl, by decide +kernel⟩
  answer := fun _ => rfl
  absent := rfl

theorem takeoverEnv_fenced {scope : Value}
    (hscope : ∀ selected, selectedNodes threeMembers scope = .ok selected →
      ∀ m ∈ selected, m ∈ ["a", "b", "c"]) :
    Fenced (takeoverEnv scope) fencedCluster threeMembers "a" "0123456789abcdef0123456789abcdef"
      "vm-100-disk-0" where
  takeover := rfl
  audits := .inl rfl
  localNode := show isNodeName "b" = true by decide +kernel
  membership := rfl
  owned := ⟨show ∀ tag ∈ ownedTags, ¬ EndsInNewline tag by decide +kernel, ownedTags_state⟩
  foreign := show "a" ≠ "b" by decide +kernel
  evidence := show haTakeoverEvidence fencedStatus "100" "a" "b" = .ok () by decide +kernel
  offline := by
    intro m hm
    cases hm
    rfl
  dark := rfl
  peers := by
    intro selected hselected m hm hlocal hother
    have hmem := hscope selected hselected m hm
    simp only [List.mem_cons, List.not_mem_nil, or_false] at hmem
    rcases hmem with rfl | rfl | rfl
    · exact (hother rfl).elim
    · exact (hlocal rfl).elim
    · exact answersAbsent_c
  volume := ⟨rfl, rfl, ⟨_, rfl, rfl, show sidTag "thin" ∈ ownedTags by decide +kernel⟩,
    by decide +kernel, show fencedCluster.poolOf "vm-100-disk-0" = some "sltp-100" by
      decide +kernel⟩
  checks := fun _ _ _ => rfl
  commands := fun _ => ⟨rfl, rfl⟩
  transaction := show isEpoch "fedcba9876543210fedcba9876543210" = true by decide +kernel

/-- A storage of the nodes `b` and `c`, on which `a` left its mark. -/
theorem takeover_reaches_outside :
    Reaches (takeoverEnv (.str "b,c")) fencedCluster "vm-100-disk-0" none := by
  have hselected : selectedNodes threeMembers (.str "b,c") = .ok ["b", "c"] := by decide +kernel
  refine (takeover_reaches_iff (takeoverEnv_fenced ?_) none).mpr
    ⟨["b", "c"], hselected, by decide +kernel, "c", by decide +kernel, by decide +kernel⟩
  intro selected h m hm
  rw [hselected] at h
  cases h
  exact List.mem_cons_of_mem _ hm

/-- A storage of all three nodes: the pool changes hands and the barrier then waits for `a`. -/
theorem takeover_stops :
    Fenced (takeoverEnv .undef) fencedCluster threeMembers "a" "0123456789abcdef0123456789abcdef"
        "vm-100-disk-0" ∧
      ¬ Reaches (takeoverEnv .undef) fencedCluster "vm-100-disk-0" none ∧
      (activateThinVolumeLocked (takeoverEnv .undef) "vm-100-disk-0" none ⟨fencedCluster, []⟩).2 =
        .error "peer 'a' is not positively online\n" := by
  -- one evaluation of the run answers for its commands and for its end
  have hrun : (∀ i ∈ (activateThinVolumeLocked (takeoverEnv .undef) "vm-100-disk-0" none
        ⟨fencedCluster, []⟩).1.issued, i.command ≠ .activate (lvOf "vm-100-disk-0" none)) ∧
      (activateThinVolumeLocked (takeoverEnv .undef) "vm-100-disk-0" none ⟨fencedCluster, []⟩).2 =
        .error "peer 'a' is not positively online\n" := by
    decide +kernel
  refine ⟨takeoverEnv_fenced ?_, ?_, hrun.2⟩
  · intro selected h m hm
    cases h
    exact hm
  · rintro ⟨i, hi, hcommand, -⟩
    exact hrun.1 i hi hcommand

end SharedLvmThin.Thin
