import SharedLvmThin.ThickSnapshotExact
import SharedLvmThin.ThickVolumeDeleteExact
import SharedLvmThin.Runs

/-! A free that died with its intent open, then any number of recoveries, for any volumes, that may
die as well. At every moment the group is at a stage of that one free, and what the next recovery
would do is decided by what is left. -/

namespace SharedLvmThin.ThickVolume
open Perl TagCodec Effects Runs
open Thick (Record TagFamily decodeAnchorTags vgIntentTags decodeVgIntentTags)

/-- One recovery: what its environment answers, for which volume it is asked, and after how many
commands it dies, if it does. -/
structure Attempt where
  env : Env
  kernel : Kernel
  volname : String
  cut : Option Nat

def Attempt.store (a : Attempt) (X : Store) : Store :=
  lastStore X (cutOff a.cut (recoverVolumeDelete a.env a.volname ⟨X, a.kernel, []⟩).1.issued)

/-- A recovery under the configuration of the storage. -/
def Retry (storage : Storage) (X : Store) (a : Attempt) (Y : Store) : Prop :=
  a.env.storage = storage ∧ Y = a.store X

variable {env : Env} {volname : String} {s : Session} {r : Removal} {truth : Prop}
variable {σ : ℕ → Store} {attempt : ℕ → Attempt} {n : ℕ}

section
variable (h : r.Admitted env volname s)
include h

theorem stage_retries (htruth : truth → ∀ k < n, (attempt k).env.Truthful)
    (hstart : r.Stage truth s.store (σ 0)) (hrun : IsTrace (Retry env.storage) σ attempt n) :
    ∀ k ≤ n, r.Stage truth s.store (σ k) := by
  intro k
  induction k with
  | zero => exact fun _ => hstart
  | succ k ih =>
    intro hk
    have hstage := ih (by omega)
    obtain ⟨hs, hnext⟩ := hrun k (by omega)
    rw [hnext]
    have hwithin := (@outcome_recoverVolumeDelete _ _ _ (attempt k).volname _ ⟨σ k, (attempt k).kernel, []⟩ _ _
      h hs (fun hyes => htruth hyes k (by omega)) hstage).final
      (fun _ _ hv => hv.1) fun _ hv => hv
    exact Within.cutOff hstage hwithin (attempt k).cut

/-- Only a recovery of the volume itself gets as far as the inventory. -/
theorem recoverVolumeDelete_other {env' : Env} {u : Session} {other : String}
    (hs : env'.storage = env.storage) (hstage : r.Stage truth s.store u.store)
    (hother : ∀ space, thickNamespace env.storage = .ok space →
      anchorName space other ≠ .ok r.anchor.name) :
    ∃ message, recoverVolumeDelete env' other u = (u, .error message) := by
  apply Outcome.refused
  apply outcome_bind
  refine (silent_lift _).outcome rfl fun _ _ => ?_
  apply outcome_bind
  refine (silent_ask env' _).outcome rfl fun _ _ => ?_
  apply outcome_bind
  refine (silent_lift _).outcome rfl fun space hspace => ?_
  replace hspace := (lift_eq_ok.mp hspace).2
  apply outcome_bind
  refine (silent_lift _).outcome rfl fun name hname => ?_
  replace hname := (lift_eq_ok.mp hname).2
  apply outcome_bind
  refine (silent_lift _).outcome rfl fun key _ => ?_
  apply outcome_bind
  refine (silent_lift _).outcome rfl fun mapper _ => ?_
  refine outcome_withVgLock rfl ?_
  apply outcome_bind
  refine (silent_readVgIntent env').outcome rfl fun intent hintent => ?_
  cases intent with
  | none => exact outcome_throwMessage rfl
  | some intent =>
    obtain ⟨hi, -⟩ := h.stage_open hstage (readVgIntent_eq_ok hintent)
    refine outcome_refuse (fun _ => rfl) fun hexact => ?_
    simp only [Bool.or_eq_false_iff, decide_eq_false_iff_not, not_not] at hexact
    rw [hs] at hspace
    rw [← hexact.2, hi.object] at hname
    exact absurd hname (hother space hspace)

end

/-- A crash of a free with its intent open belongs to one decision of that free. -/
theorem admitted_of_crash {orphanAlloc orphanTree : Bool} {crash : Issued} {intent : Record}
    (hcrash : crash ∈ (freeImageSingleLocked env volname orphanAlloc orphanTree s).1.issued.drop
      s.issued.length)
    (hopen : decodeVgIntentTags (.array crash.store.vgTags) = .ok (some intent)) :
    ∃ r : Removal, r.Admitted env volname s ∧ r.Stage env.Truthful s.store crash.store := by
  have hfinal := (@outcome_freeImage env env.Truthful id volname orphanAlloc
    orphanTree s).final (P := fun t => t = s ∨ (decodeVgIntentTags (.array s.store.vgTags) = .ok none ∧
      Within (fun S => S = s.store) s t) ∨ ∃ r : Removal, r.Admitted env volname s ∧
        Within (r.Stage env.Truthful s.store) s t)
    (fun _ t ht => Or.inr (Or.inr (ht.imp fun r hr => ⟨hr.1, hr.2.1⟩))) fun _ ht => ht
  have hissued {X : Store → Prop} {t : Session} (ht : Within X s t)
      (hmem : crash ∈ t.issued.drop s.issued.length) : X crash.store := by
    obtain ⟨-, new, hnew, hall⟩ := ht
    rw [hnew, List.drop_left] at hmem
    exact hall crash hmem
  rcases hfinal with hsame | ⟨hnone, hwithin⟩ | ⟨r, hr, hwithin⟩
  · rw [hsame, List.drop_length] at hcrash
    cases hcrash
  · rw [hissued hwithin hcrash, hnone] at hopen
    cases hopen
  · exact ⟨r, hr, hissued hwithin hcrash⟩

theorem Removal.Stage.anchored {X : Store} (hstage : r.Stage truth s.store X)
    (h : r.Admitted env volname s) (hyes : truth) (hsome : (X.find r.head).isSome) :
    (X.find r.anchor.name).isSome := by
  cases hstage with
  | before =>
    rw [h.info]
    rfl
  | opened head anchor hgone =>
    rw [h.find_open_head] at hsome
    rw [h.find_open_anchor]
    cases head with
    | false => cases hsome
    | true =>
      rw [hgone hyes rfl]
      rfl
  | cleared =>
    have hgone := @Removal.find_left r s.store false false r.head
    rw [if_pos (Or.inr ⟨rfl, rfl⟩)] at hgone
    rw [Removal.final, hgone] at hsome
    cases hsome

/-- What stands after a free that died and recoveries that may have died: the group as `S` was before
and as `X` it is now. -/
structure Removal.Settles (r : Removal) (env : Env) (volname : String) (truth : Prop)
    (S X : Store) : Prop where
  kept : ∀ lv, lv ≠ r.head → lv ≠ r.anchor.name → X.find lv = S.find lv
  anchored : truth → (X.find r.head).isSome → (X.find r.anchor.name).isSome
  closed : decodeVgIntentTags (.array X.vgTags) = .ok none → X = S ∨ X = r.final S
  completes : ∀ (env' : Env) (u : Session) (i : Record), Healthy env' →
    env'.storage = env.storage → u.store = X →
    decodeVgIntentTags (.array X.vgTags) = .ok (some i) →
    r.Idle env.storage.vgname X u.kernel → r.Recoverable volname X →
      ∃ t, recoverVolumeDelete env' volname u = (t, .ok "VOLUME_DELETE_RECOVERED") ∧
        t.store = r.final S
  refuses : ∀ (env' : Env) (u : Session) (i : Record), Healthy env' →
    env'.storage = env.storage → u.store = X →
    decodeVgIntentTags (.array X.vgTags) = .ok (some i) →
    r.Idle env.storage.vgname X u.kernel → ¬ r.Recoverable volname X →
      ∃ message, recoverVolumeDelete env' volname u = (u, .error message)
  foreign : ∀ (env' : Env) (u : Session) (other : String), env'.storage = env.storage →
    u.store = X → (∀ space, thickNamespace env.storage = .ok space →
      anchorName space other ≠ .ok r.anchor.name) →
      ∃ message, recoverVolumeDelete env' other u = (u, .error message)

/-- However a free died with its intent open and whatever recoveries died after it, nothing but HEAD
and anchor has ever gone. While the intent is open, a recovery of the volume that meets no failure
completes the free where it can be recovered and changes nothing where it cannot; a recovery of
another volume never changes anything. HEAD can outlive the anchor only where LVM has reported a
removal that it did not do. -/
theorem volume_delete_recovery {orphanAlloc orphanTree : Bool} {crash : Issued} {intent : Record}
    (hcrash : crash ∈ (freeImageSingleLocked env volname orphanAlloc orphanTree s).1.issued.drop
      s.issued.length)
    (hopen : decodeVgIntentTags (.array crash.store.vgTags) = .ok (some intent))
    (hstart : σ 0 = crash.store) (hrun : IsTrace (Retry env.storage) σ attempt n) :
    ∃ r : Removal, r.Admitted env volname s ∧ ∀ k ≤ n,
      r.Settles env volname (env.Truthful ∧ ∀ j < n, (attempt j).env.Truthful) s.store (σ k) := by
  obtain ⟨r, hr, hstage⟩ := admitted_of_crash hcrash hopen
  rw [← hstart] at hstage
  refine ⟨r, hr, fun k hk => ?_⟩
  let truth := env.Truthful ∧ ∀ j < n, (attempt j).env.Truthful
  have hk : r.Stage truth s.store (σ k) :=
    stage_retries hr (fun hyes => hyes.2) (hstage.weaken fun hyes => hyes.1) hrun k hk
  exact
    { kept := fun lv hhead hanchor => hk.find hhead hanchor
      anchored := fun hyes hsome => hk.anchored hr hyes hsome
      closed := fun hnone => hr.stage_closed hk hnone
      completes := fun env' u i hh hs hu hread hidle hok => by
        obtain ⟨hi, head, anchor, hstore⟩ := hr.stage_open hk hread
        rw [← hu] at hstore hidle hok
        exact recover_completes hr hh hs hi hstore hidle hok
      refuses := fun env' u i hh hs hu hread hidle hno => by
        obtain ⟨hi, head, anchor, hstore⟩ := hr.stage_open hk hread
        rw [← hu] at hstore hidle hno
        exact recover_refuses hr hh hs hi hstore hidle hno
      foreign := fun env' u other hs hu hother =>
        recoverVolumeDelete_other hr hs (hu ▸ hk) hother }

/-! ## A volume without snapshots -/

theorem issues_removeObjects (head anchor : String) :
    Issues (fun _ => True) (removeObjects env head anchor) :=
  (issues_runCommand trivial).bind fun _ => issues_runCommand trivial

theorem issues_finishDelete (head anchor : String) (i : Record) :
    Issues (fun _ => True) (finishVolumeDelete env volname head anchor i) := by
  refine issues_silent (silent_listVolumes env) fun after => ?_
  refine issues_silent ((silent_ask _ _).orDie _) fun _ => ?_
  exact issues_silent (silent_refuse _ _) fun _ => issues_clearVgIntent fun _ _ _ => trivial

theorem Healthy.setVgIntent (hh : Healthy env) {intent : Record} {written : List String}
    (hnone : decodeVgIntentTags (.array s.store.vgTags) = .ok none)
    (hdigest : vgStateDigest env s = (s, .ok (text intent .before)))
    (hwritten : vgIntentTags intent = .ok written)
    (hplain : ∀ f ∈ [Thick.Field.tx, .state, .op, .object, .before],
      body (text intent f) = text intent f) :
    setVgIntent env intent s = (s.after env.storage.vgname (.changeVgTags [] written), .ok ()) := by
  obtain ⟨-, i, hread, hi⟩ := intent_written hnone hwritten
  have hsame : sameIntent i intent = true := by
    rw [sameIntent, List.all_eq_true]
    intro f hf
    rw [decide_eq_true_eq, hi.fields f hf, hplain f hf]
  have hfree : requireNoVgIntent env s = (s, .ok ()) := by
    rw [requireNoVgIntent, prog_bind_of_ok (hh.readVgIntent hnone)]
    rfl
  rw [ThickVolume.setVgIntent, prog_bind_of_ok hfree, prog_bind_of_ok hdigest,
    refuse_bind (decide_eq_false (not_not.mpr rfl)), lift_bind hwritten]
  apply hh.runProven
  · exact (silent_readVgIntent env).bind fun _ => silent_refuse _ _
  · rw [prog_bind_of_ok (hh.readVgIntent hread)]
    exact refuse_eq_ok.mpr ⟨rfl, by simp [hsame]⟩

theorem not_endsInNewline_of_hex {tx : String} (hhex : exactly 32 isLowerHex tx = true) :
    ¬ EndsInNewline tx := by
  intro hend
  have hlower := (exactly_iff.mp hhex).2 '\n' (List.mem_of_getLast? hend)
  revert hlower
  decide

/-- Where every probe answers, a free that decides commits its intent. -/
theorem Healthy.opensRemoval (hh : Healthy env) (h : r.Admitted env volname s)
    (hkernel : s.kernel = ∅) (htx : ∀ n, r.tx = transactionText (env.randomUuid n))
    (hbefore : ∀ t, (vgStateDigest env t).2 = .ok r.before) (hbody : body r.before = r.before) :
    ∃ crash ∈ (freeImageSingleLocked env volname false false s).1.issued.drop s.issued.length,
      crash.store = r.opened s.store := by
  obtain ⟨space, hspace, hname, hkey, hmapper⟩ := h.names
  let u := s.after env.storage.vgname (.deactivate [r.anchor.name, r.head])
  have hdigest : vgStateDigest env u = (u, .ok r.before) :=
    Prod.ext (silent_vgStateDigest env u) (hbefore u)
  have hnone : requireNoVgIntent env s = (s, .ok ()) := by
    rw [requireNoVgIntent, prog_bind_of_ok (hh.readVgIntent h.noIntent)]
    rfl
  have hfind : s.store.lvs.lookup r.head = some r.anchor.head := h.find_head
  have hpresent : frontendPresent env volname s = (s, .ok false) := by
    rw [frontendPresent, lift_bind hspace, lift_bind hmapper, lift_bind hkey,
      prog_bind_of_ok (hh.kernelInventory s), hkernel]
    rfl
  have hidle : r.Idle env.storage.vgname s.store s.kernel := by
    rw [hkernel]
    exact ⟨rfl, fun _ _ mapping _ _ hmapping => by simp at hmapping⟩
  have hdeactivate := @deactivates_remaining _ _ _ _ _ _ h hh [r.anchor.name, r.head] (by simp)
    (by simpa using h.head_ne.symm) hidle (fun lv hlv => by
      simp only [List.mem_cons, List.not_mem_nil, or_false] at hlv
      rcases hlv with rfl | rfl
      · exact ⟨Or.inr rfl, by rw [h.info]; rfl⟩
      · exact ⟨Or.inl rfl, by rw [h.find_head]; rfl⟩)
    ("deactivating thick-generations state for '" ++ lvPath env volname ++ "' before delete failed")
  have hnewTx : newTransactionId env u = (u, .ok r.tx) := by
    rw [newTransactionId, read_bind, ← htx, refuse_bind (by simp [h.hex])]
    rfl
  have hbefore : text r.intent .before = r.before := rfl
  have hset : ThickVolume.setVgIntent env r.intent u =
      (u.after env.storage.vgname (.changeVgTags [] r.written), .ok ()) :=
    hh.setVgIntent (s := u) h.noIntent (hbefore ▸ hdigest) h.written (by
      intro f hf
      simp only [List.mem_cons, List.not_mem_nil, or_false] at hf
      rcases hf with rfl | rfl | rfl | rfl | rfl
      · exact body_eq_self (not_endsInNewline_of_hex h.hex)
      · exact (by decide : body "OPEN" = "OPEN")
      · exact (by decide : body "REMOVE" = "REMOVE")
      · exact Thick.body_of_plus (isLvName_anchor hname)
      · exact hbody)
  have hrun : freeImageSingleLocked env volname false false s =
      (attempt (removeObjects env r.head r.anchor.name) >>= fun _ =>
        finishVolumeDelete env volname r.head r.anchor.name r.intent)
          (u.after env.storage.vgname (.changeVgTags [] r.written)) := by
    rw [freeImageSingleLocked, lift_bind h.config, lift_bind hspace, lift_bind hmapper,
      prog_bind_of_ok hnone, prog_bind_of_ok (hh.listVolumes s), lift_bind h.anchor,
      lift_bind (show checkOrphan r.anchor.state false false = .ok () from rfl),
      prog_bind_of_ok (show whenever (false || false) (ThickVolume.ask env .references) s = (s, .ok ()) from rfl),
      lift_bind h.only, show text r.anchor.state .head = r.head from rfl,
      prog_bind_of_ok (hh.verifyAutoactivationDisabled hfind h.headDisabled),
      prog_bind_of_ok (hh.verifyAutoactivationDisabled h.info h.anchorDisabled),
      prog_bind_of_ok hpresent,
      prog_bind_of_ok (show whenever false (removeIdleFrontend env volname r.mapper) s = (s, .ok ())
        from rfl),
      prog_bind_of_ok hdeactivate, prog_bind_of_ok hnewTx, prog_bind_of_ok hdigest]
    exact prog_bind_of_ok hset
  have hissues : Issues (fun _ => True) (attempt (removeObjects env r.head r.anchor.name) >>= fun _ =>
      finishVolumeDelete env volname r.head r.anchor.name r.intent) :=
    (issues_removeObjects _ _).attempt.bind fun _ => issues_finishDelete _ _ _
  obtain ⟨-, new, hnew, -⟩ := (hissues (u.after env.storage.vgname
    (.changeVgTags [] r.written))).within (fun _ => ()) fun _ _ _ => rfl
  refine ⟨⟨.changeVgTags [] r.written, r.opened s.store⟩, ?_, rfl⟩
  rw [hrun, hnew]
  change _ ∈ (s.issued ++ [_] ++ [_] ++ new).drop s.issued.length
  rw [List.append_assoc, List.append_assoc, List.drop_left]
  exact List.mem_append_right _ (List.mem_append_left _ (List.mem_singleton.mpr rfl))

/-- The sample volume once its snapshot is gone. -/
def bareSession : Session :=
  ⟨{ sampleStore [] with lvs := (sampleStore []).lvs.erase sampleSnapshotName }, ∅, []⟩

theorem find_bare (lv : String) : bareSession.store.find lv =
    if lv = sampleSnapshotName then none else (sampleStore []).find lv :=
  lookup_erase (sampleStore []).lvs sampleSnapshotName lv

/-- What the free of the bare volume decides. -/
theorem bare_admitted : ∃ r : Removal, r.Admitted sampleEnv "vm-100-disk-0" bareSession ∧
    r.head = sampleHead ∧ r.anchor.name = sampleAnchorName ∧
    isCanonicalAlloc r.anchor.state = true ∧
    (∀ n, r.tx = transactionText (sampleEnv.randomUuid n)) ∧
    (∀ t, (vgStateDigest sampleEnv t).2 = .ok r.before) ∧ body r.before = r.before := by
  obtain ⟨a, ha, hname, -, hfields⟩ :=
    @sample_anchor [] (show Thick.anchorFamily.own [] = [] from rfl)
  obtain ⟨⟨info, hread⟩, hphase⟩ := thickAnchor_eq_ok.mp ha
  have hvalue (f : Thick.Field) (hf : f ∈ TagFamily.anchor.fieldsOf sampleState) :
      text a.state f = text sampleState f := by
    rw [text, hfields f hf, text]
  have hhead : text a.state .head = sampleHead := hvalue .head (by decide +kernel)
  have hversion : versionNumber a.state ≠ 6 := by
    refine versionNumber_eager ?_
    rw [Thick.versionOf, hfields .v (by decide +kernel)]
    decide
  have hbareAnchor : bareSession.store.lvs.lookup a.name = some info := by
    have := find_bare a.name
    rw [if_neg (by rw [hname]; decide)] at this
    exact this.trans hread.present
  have hbareHead : bareSession.store.lvs.lookup (text a.state .head) = some a.head := by
    have := find_bare (text a.state .head)
    rw [if_neg (by rw [hhead]; decide)] at this
    exact this.trans hread.head
  have hbare := hread.transfer hversion hbareAnchor hread.decoded (fun _ _ => rfl) hbareHead
  have hdigest : ∀ t, (vgStateDigest sampleEnv t).2 = .ok "ea34aea617ba2094b97dc59de03e584d" := by
    intro t
    have hhex : Sha256.sha256Hex (sampleEnv.vgState t.issued.length) =
        .ok "ea34aea617ba2094b97dc59de03e584d51479fb337c8fff72c42e5eada5f38cf" := by
      change Sha256.sha256Hex "Vg-1|7|100|200" = _
      decide +kernel
    rw [vgStateDigest, prog_bind_of_ok (sampleEnv_healthy.ask _ _), read_bind, lift_bind hhex]
    rfl
  obtain ⟨written, hw⟩ := encode_of_values (t := .vgIntent)
    (h := intentOf "0123456789abcdef0123456789abcdef" "REMOVE" sampleAnchorName
      "ea34aea617ba2094b97dc59de03e584d") (by decide +kernel)
  have honly : checkOnlyHead sampleEnv.storage "vm-100-disk-0" bareSession.store.lvs a = .ok () := by
    have hspace : thickNamespace sampleEnv.storage = .ok "vg-1" := by decide +kernel
    have hkey : objectKey "vg-1" "vm-100-disk-0" = .ok "f1cfb400fb61dfea0445f0e0" := by
      decide +kernel
    have hnames : generationsOf "f1cfb400fb61dfea0445f0e0" bareSession.store.lvs = [sampleHead] := by
      have hkeys : bareSession.store.lvs.keys = [sampleAnchorName, sampleHead] := rfl
      rw [generationsOf, hkeys]
      decide +kernel
    have htags := hread.objects
    rw [if_neg hversion] at htags
    simp only [checkOnlyHead, hspace, hkey, bind_eq_ok, Except.ok.injEq, exists_eq_left',
      dieIf_eq_ok, exists_const, hnames, hhead]
    exact ⟨by simp, htags⟩
  have hheadOff : a.head.disabled := by
    have hfind := find_sample [] sampleHead
    rw [if_neg (by decide), if_neg (by decide), if_pos rfl] at hfind
    have hsame : (sampleStore []).find sampleHead = some a.head := hhead ▸ hread.head
    rw [← Option.some.inj (hfind.symm.trans hsame)]
    exact (by decide +kernel : trim (lc "0") = "0")
  have hanchorOff : info.disabled := by
    have hfind := find_sample [] sampleAnchorName
    rw [if_pos rfl] at hfind
    have hsame : (sampleStore []).find sampleAnchorName = some info := hname ▸ hread.present
    rw [← Option.some.inj (hfind.symm.trans hsame)]
    exact (by decide +kernel : trim (lc "0") = "0")
  have htx (n : Nat) : "0123456789abcdef0123456789abcdef" =
      transactionText (sampleEnv.randomUuid n) := by
    change _ = transactionText "01234567-89ab-cdef-0123-456789abcdef"
    decide +kernel
  have hbody : body "ea34aea617ba2094b97dc59de03e584d" = "ea34aea617ba2094b97dc59de03e584d" := by
    decide +kernel
  have hhex : exactly 32 isLowerHex "0123456789abcdef0123456789abcdef" = true := by decide +kernel
  have hone (f : Thick.Field) (hf : f ∈ [Thick.Field.source, .old, .new]) :
      text a.state f = sampleHead := by
    refine (hvalue f ?_).trans ?_ <;> fin_cases hf <;> decide +kernel
  refine ⟨⟨a, info, "0123456789abcdef0123456789abcdef", "ea34aea617ba2094b97dc59de03e584d", written⟩,
    ?_, hhead, hname, ?_, htx, hdigest, hbody⟩
  · exact
      { config := by decide +kernel
        noIntent := rfl
        anchor := thickAnchor_eq_ok.mpr ⟨⟨info, hbare⟩, hphase⟩
        info := hbareAnchor
        only := honly
        headDisabled := hheadOff
        anchorDisabled := hanchorOff
        hex := hhex
        written := by
          rw [Removal.intent]
          dsimp only
          rw [hname]
          exact hw }
  · have hop : text a.state .op = "ALLOC" := hvalue .op (by decide +kernel)
    have hsnapshot : text a.state .snapshot = "none" := hvalue .snapshot (by decide +kernel)
    simp [isCanonicalAlloc, hop, hsnapshot, hhead, hone .source (by simp), hone .old (by simp),
      hone .new (by simp)]

def idleAttempt : Attempt := ⟨sampleEnv, ∅, "vm-100-disk-0", some 0⟩

/-- A free that stopped right after its intent, a recovery that died before its first command, and
one that completes the free. -/
theorem volume_delete_recovery_bare : ∃ (crash : Issued) (r : Removal),
    crash ∈ (freeImageSingleLocked sampleEnv "vm-100-disk-0" false false bareSession).1.issued.drop
      bareSession.issued.length ∧
    ∃ t, recoverVolumeDelete sampleEnv "vm-100-disk-0" ⟨crash.store, ∅, []⟩ =
      (t, .ok "VOLUME_DELETE_RECOVERED") ∧ t.store = r.final bareSession.store := by
  obtain ⟨d, hd, hhead, hname, hcanonical, htx, hdigest, hbody⟩ := bare_admitted
  obtain ⟨crash, hcrash, hstore⟩ := sampleEnv_healthy.opensRemoval hd rfl htx hdigest hbody
  obtain ⟨i, hi⟩ := hd.intentAt (X := bareSession.store) rfl
  have hopen : decodeVgIntentTags (.array crash.store.vgTags) = .ok (some i) := hstore ▸ hi.read
  have hstep : IsTrace (Retry sampleEnv.storage) (fun _ => crash.store) (fun _ => idleAttempt) 1 := by
    intro k _
    exact ⟨rfl, by simp [Attempt.store, idleAttempt, cutOff, lastStore]⟩
  obtain ⟨r, hr, hall⟩ := volume_delete_recovery hcrash hopen rfl hstep
  have hsame : r.anchor = d.anchor := Except.ok.inj (hr.anchor.symm.trans hd.anchor)
  have hfind (lv : String) : crash.store.find lv = bareSession.store.find lv := by
    rw [hstore]
    rfl
  have hrecoverable : r.Recoverable "vm-100-disk-0" crash.store := by
    refine ⟨fun name _ hsome => ?_, fun _ => by rw [hsame]; exact hcanonical, fun _ => ?_⟩
    · rw [hfind, find_bare, find_sample] at hsome
      rw [Removal.head, hsame, hname]
      rw [Removal.head] at hhead
      rw [hhead]
      split_ifs at hsome with hsnapshot hanchor hheadName
      · cases hsome
      · exact Or.inl hanchor
      · exact Or.inr hheadName
      · cases hsome
    · rw [hfind, hr.info]
      rfl
  obtain ⟨t, hrun, hfinal⟩ := (hall 1 le_rfl).completes sampleEnv ⟨crash.store, ∅, []⟩ i
    sampleEnv_healthy rfl rfl hopen ⟨rfl, fun _ _ mapping _ _ hmapping => by simp at hmapping⟩
    hrecoverable
  exact ⟨crash, r, hcrash, t, hrun, hfinal⟩

end SharedLvmThin.ThickVolume
