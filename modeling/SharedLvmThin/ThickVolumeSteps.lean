import SharedLvmThin.ThickVolumeTags

/-!
# Probes and commands

Which parts of an operation leave everything as it is, what a command that was run may have
done, and how each part ends where every probe answers and every command works.
-/

namespace SharedLvmThin.ThickVolume
open Perl TagCodec Effects
open Thick (Field Record TagFamily TagInput hashOf anchorTags decodeAnchorTags vgIntentTags
  decodeVgIntentTags)

variable {env : Env} {s t : Session}

/-! ## Probes -/

theorem silent_ask (env : Env) (check : Check) : Silent (ask env check) := fun _ => rfl

theorem silent_read : Silent (read : Op Session) := fun _ => rfl

theorem silent_listVolumes (env : Env) : Silent (listVolumes env) := by
  refine (silent_ask _ _).bind fun _ => ?_
  exact silent_read.bind fun s => silent_pure _

theorem silent_newTransactionId (env : Env) : Silent (newTransactionId env) := by
  refine silent_read.bind fun s => ?_
  exact (silent_refuse _ _).bind fun _ => silent_pure _

theorem silent_vgStateDigest (env : Env) : Silent (vgStateDigest env) := by
  refine (silent_ask _ _).bind fun _ => silent_read.bind fun s => ?_
  exact (silent_lift _).bind fun hex => silent_pure _

theorem silent_report (env : Env) (check : Check) (lv message : String) :
    Silent (report env check lv message) := by
  refine (silent_ask _ _).bind fun _ => silent_read.bind fun s => ?_
  exact silent_lift _

theorem silent_verifySnapshotReadonly (env : Env) (lv : String) :
    Silent (verifySnapshotReadonly env lv) :=
  (silent_report env _ lv _).bind fun _ => silent_refuse _ _

theorem silent_verifyAutoactivationDisabled (env : Env) (lv : String) :
    Silent (verifyAutoactivationDisabled env lv) :=
  (silent_report env _ lv _).bind fun _ => silent_refuse _ _

theorem silent_kernelInventory (env : Env) : Silent (kernelInventory env) := by
  refine (silent_ask _ _).bind fun _ => ?_
  exact silent_read.bind fun s => silent_pure _

theorem silent_refuseOpen (env : Env) (mapper message : String) :
    Silent (refuseOpen env mapper message) := by
  refine (silent_kernelInventory env).bind fun kernel => ?_
  split
  . exact silent_pure _
  . exact silent_refuse _ _

theorem silent_verifyMapperAbsent (env : Env) (mapper message : String) :
    Silent (verifyMapperAbsent env mapper message) :=
  (silent_kernelInventory env).bind fun _ => silent_refuse _ _

theorem silent_verifyMapped (env : Env) (kernel : Kernel) (lv : String) :
    Silent (verifyMapped env kernel lv) := by
  unfold verifyMapped
  split
  . exact silent_pure _
  . refine (silent_report env _ lv _).bind fun info => ?_
    exact silent_read.bind fun s => silent_refuse _ _

theorem silent_readVgIntent (env : Env) : Silent (readVgIntent env) := by
  refine (silent_ask _ _).bind fun _ => silent_read.bind fun s => ?_
  exact silent_lift _

theorem silent_requireNoVgIntent (env : Env) : Silent (requireNoVgIntent env) := by
  refine (silent_readVgIntent env).bind fun intent => ?_
  split
  . exact silent_pure _
  . exact silent_throwMessage _

theorem silent_requireExactVgIntent (env : Env) (expected : Record) :
    Silent (requireExactVgIntent env expected) := by
  refine (silent_readVgIntent env).bind fun intent => ?_
  split
  . exact silent_throwMessage _
  . exact silent_refuse _ _

theorem silent_readExactTags (env : Env) (lv : String) : Silent (readExactTags env lv) := by
  refine (silent_report env _ lv _).bind fun info => ?_
  exact (silent_refuse _ _).bind fun _ => silent_pure _

theorem silent_withVgLock {α : Type} {code : Op α} (h : Silent code) :
    Silent (withVgLock env code) := by
  refine (silent_ask _ _).bind fun _ => (silent_ask _ _).bind fun _ => ?_
  refine (silent_ask _ _).bind fun _ => (silent_ask _ _).bind fun _ => ?_
  refine (silent_ask _ _).bind fun _ => (silent_ask _ _).bind fun _ => ?_
  exact (silent_ask _ _).bind fun _ => (silent_ask _ _).bind fun _ => h

theorem outcome_withVgLock {α : Type} {code : Op α} {Q : α → Session → Prop} {E : Session → Prop}
    (hE : E s) (h : Outcome code Q E s) : Outcome (withVgLock env code) Q E s := by
  unfold withVgLock
  iterate 8
    apply outcome_bind
    refine (silent_ask env _).outcome hE fun _ _ => ?_
  exact h

/-! ## What a passed probe says -/

theorem ask_eq_ok {check : Check} {u : Unit} (h : ask env check s = (t, .ok u)) : t = s :=
  (silent_ask env check).eq_of_ok h

theorem listVolumes_eq_ok {lvs : Inventory} (h : listVolumes env s = (t, .ok lvs)) :
    lvs = s.store.lvs := by
  obtain ⟨_, s', hask, hread⟩ := prog_bind_eq_ok.mp h
  obtain rfl := ask_eq_ok hask
  exact (prog_pure_eq_ok.mp hread).2.symm

theorem readVgIntent_eq_ok {intent : Option Record} (h : readVgIntent env s = (t, .ok intent)) :
    decodeVgIntentTags (.array s.store.vgTags) = .ok intent := by
  obtain ⟨_, s', hask, hread⟩ := prog_bind_eq_ok.mp h
  obtain rfl := ask_eq_ok hask
  exact (lift_eq_ok.mp hread).2

theorem requireNoVgIntent_eq_ok {u : Unit} (h : requireNoVgIntent env s = (t, .ok u)) :
    decodeVgIntentTags (.array s.store.vgTags) = .ok none := by
  obtain ⟨intent, s', hread, hk⟩ := prog_bind_eq_ok.mp h
  cases intent with
  | none => exact readVgIntent_eq_ok hread
  | some intent => cases hk

theorem requireExactVgIntent_eq_ok {expected : Record} {u : Unit}
    (h : requireExactVgIntent env expected s = (t, .ok u)) :
    ∃ intent, decodeVgIntentTags (.array s.store.vgTags) = .ok (some intent) ∧
      sameIntent intent expected = true := by
  obtain ⟨intent, s', hread, hk⟩ := prog_bind_eq_ok.mp h
  cases intent with
  | none => cases hk
  | some intent => exact ⟨intent, readVgIntent_eq_ok hread, by simpa using (refuse_eq_ok.mp hk).2⟩

theorem newTransactionId_eq_ok {tx : String} (h : newTransactionId env s = (t, .ok tx)) :
    tx = transactionText (env.randomUuid s.issued.length) ∧ exactly 32 isLowerHex tx = true := by
  rw [newTransactionId, read_bind] at h
  obtain ⟨_, s', hrefuse, hp⟩ := prog_bind_eq_ok.mp h
  have hok := (refuse_eq_ok.mp hrefuse).2
  have htx := (prog_pure_eq_ok.mp hp).2
  rw [htx] at hok
  exact ⟨htx.symm, by simpa using hok⟩

theorem report_eq_ok {check : Check} {lv message : String} {info : Lv}
    (h : report env check lv message s = (t, .ok info)) : s.store.find lv = some info := by
  obtain ⟨_, s', hask, hread⟩ := prog_bind_eq_ok.mp h
  obtain rfl := ask_eq_ok hask
  have hfound := (lift_eq_ok.mp hread).2
  unfold found at hfound
  split at hfound
  . rename_i entry a hentry
    obtain rfl := Except.ok.inj hfound
    exact hentry
  . cases hfound

theorem verifySnapshotReadonly_eq_ok {lv : String} {u : Unit}
    (h : verifySnapshotReadonly env lv s = (t, .ok u)) :
    ∃ info, s.store.find lv = some info ∧ info.readonly = true := by
  obtain ⟨info, s', hreport, hk⟩ := prog_bind_eq_ok.mp h
  exact ⟨info, report_eq_ok hreport, by simpa using (refuse_eq_ok.mp hk).2⟩

/-- `lv_autoactivation` as the verification reads it. -/
def Lv.disabled (info : Lv) : Prop := trim (lc info.autoactivation) = "0"

theorem verifyAutoactivationDisabled_eq_ok {lv : String} {u : Unit}
    (h : verifyAutoactivationDisabled env lv s = (t, .ok u)) :
    ∃ info, s.store.find lv = some info ∧ info.disabled := by
  obtain ⟨info, s', hreport, hk⟩ := prog_bind_eq_ok.mp h
  refine ⟨info, report_eq_ok hreport, ?_⟩
  simpa only [Lv.disabled, ne_eq, decide_eq_false_iff_not, not_not] using (refuse_eq_ok.mp hk).2

theorem readExactTags_eq_ok {lv : String} {tags : List String}
    (h : readExactTags env lv s = (t, .ok tags)) :
    ∃ info, s.store.find lv = some info ∧ tags = info.tags.map trim ∧ tags.Nodup := by
  obtain ⟨info, s', hreport, hk⟩ := prog_bind_eq_ok.mp h
  obtain ⟨_, s'', hrefuse, hp⟩ := prog_bind_eq_ok.mp hk
  have hok := (Bool.or_eq_false_iff.mp (refuse_eq_ok.mp hrefuse).2).2
  have htags := (prog_pure_eq_ok.mp hp).2
  rw [htags] at hok
  exact ⟨info, report_eq_ok hreport, htags.symm, by simpa using hok⟩

/-! ## Commands -/

/-- The session a command leaves behind, whether or not it took effect. -/
structure Ran (command : Command) (s t : Session) : Prop where
  issued : t.issued = s.issued ++ [⟨command, t.store⟩]
  store : t.store = command.store s.store ∨ t.store = s.store

theorem ran_runCommand (env : Env) (command : Command) (s : Session) :
    Ran command s (runCommand env command s).1 := by
  refine ⟨rfl, ?_⟩
  cases h : (env.outcome s.issued.length).applied with
  | true => exact Or.inl (by simp [runCommand, h])
  | false => exact Or.inr (by simp [runCommand, h])

theorem outcome_runCommand {command : Command} {Q : Unit → Session → Prop} {E : Session → Prop}
    (h : ∀ t, Ran command s t → Q () t ∧ E t) : Outcome (runCommand env command) Q E s := by
  have ht := h _ (ran_runCommand env command s)
  unfold Outcome
  split
  . rename_i t u hrun
    rw [hrun] at ht
    exact ht.1
  . rename_i t message hrun
    rw [hrun] at ht
    exact ht.2

theorem runProven_eq {command : Command} {unknown : String} {verify : Op Unit}
    (hverify : Silent verify) : (runProven env command unknown verify s).1 =
        (runCommand env command s).1 ∧
      (∀ t, runProven env command unknown verify s = (t, .ok ()) ↔
        t = (runCommand env command s).1 ∧ verify t = (t, .ok ())) := by
  have hsilent := hverify (runCommand env command s).1
  cases hv : (verify (runCommand env command s).1).2 with
  | ok u =>
    have hrun : runProven env command unknown verify s = ((runCommand env command s).1, .ok ()) := by
      rewrite [runProven, attempt_bind, attempt_bind, hsilent, hv]
      rfl
    rw [hrun]
    refine ⟨rfl, fun t => ?_⟩
    constructor
    . intro h
      obtain ⟨rfl, -⟩ := Prod.mk.inj h
      exact ⟨rfl, Prod.ext hsilent hv⟩
    . intro h
      rw [h.1]
  | error evidence =>
    have hno (t : Session) : ¬ (t = (runCommand env command s).1 ∧ verify t = (t, .ok ())) := by
      intro h
      rw [← h.1, h.2] at hv
      cases hv
    cases hr : (runCommand env command s).2 with
    | ok u =>
      have hrun : runProven env command unknown verify s =
          ((runCommand env command s).1, .error evidence) := by
        rewrite [runProven, attempt_bind, attempt_bind, hsilent, hv, hr]
        rfl
      rw [hrun]
      refine ⟨rfl, fun t => iff_of_false ?_ (hno t)⟩
      intro h
      cases h
    | error message =>
      have hrun : runProven env command unknown verify s =
          ((runCommand env command s).1, .error (unknown ++ message ++ evidence)) := by
        rewrite [runProven, attempt_bind, attempt_bind, hsilent, hv, hr]
        rfl
      rw [hrun]
      refine ⟨rfl, fun t => iff_of_false ?_ (hno t)⟩
      intro h
      cases h

theorem outcome_runProven {command : Command} {unknown : String} {verify : Op Unit}
    (hverify : Silent verify) {Q : Unit → Session → Prop} {E : Session → Prop}
    (hQ : ∀ t, Ran command s t → verify t = (t, .ok ()) → Q () t)
    (hE : ∀ t, Ran command s t → E t) : Outcome (runProven env command unknown verify) Q E s := by
  obtain ⟨hstate, hok⟩ := @runProven_eq env s command unknown verify hverify
  have hran := ran_runCommand env command s
  unfold Outcome
  split
  . rename_i t u hrun
    obtain ⟨rfl, hv⟩ := (hok t).mp hrun
    exact hQ _ hran hv
  . rename_i t message hrun
    rw [hrun] at hstate
    obtain rfl : t = (runCommand env command s).1 := hstate
    exact hE _ hran

/-! ## A healthy environment -/

/-- Every probe answers and every command takes effect and says so. -/
structure Healthy (env : Env) : Prop where
  check : ∀ check n, env.check check n = .ok ()
  outcome : ∀ n, env.outcome n = ⟨true, .ok ()⟩

/-- What an applied command leaves. -/
def Session.after (s : Session) (vg : String) (command : Command) : Session :=
  ⟨command.store s.store, command.kernel vg s.kernel,
    s.issued ++ [⟨command, command.store s.store⟩]⟩

namespace Healthy
variable (h : Healthy env)
include h

theorem ask (check : Check) (s : Session) : ask env check s = (s, .ok ()) :=
  Prod.ext rfl (h.check check _)

theorem withVgLock {α : Type} (code : Op α) (s : Session) : withVgLock env code s = code s := by
  simp only [ThickVolume.withVgLock, prog_bind_of_ok (h.ask _ _)]

theorem runCommand (command : Command) (s : Session) :
    runCommand env command s = (s.after env.storage.vgname command, .ok ()) := by
  simp [ThickVolume.runCommand, h.outcome, Session.after]

theorem runProven {command : Command} {unknown : String} {verify : Op Unit}
    (hverify : Silent verify)
    (hok : verify (s.after env.storage.vgname command) =
      (s.after env.storage.vgname command, .ok ())) :
    runProven env command unknown verify s = (s.after env.storage.vgname command, .ok ()) := by
  apply ((runProven_eq hverify).2 _).mpr
  rw [h.runCommand]
  exact ⟨rfl, hok⟩

theorem listVolumes (s : Session) : listVolumes env s = (s, .ok s.store.lvs) := by
  rw [ThickVolume.listVolumes, prog_bind_of_ok (h.ask _ _), read_bind]
  rfl

theorem readVgIntent {intent : Option Record}
    (hread : decodeVgIntentTags (.array s.store.vgTags) = .ok intent) :
    readVgIntent env s = (s, .ok intent) := by
  rw [ThickVolume.readVgIntent, prog_bind_of_ok (h.ask _ _), read_bind, hread]
  rfl

theorem requireExactVgIntent {intent expected : Record}
    (hread : decodeVgIntentTags (.array s.store.vgTags) = .ok (some intent))
    (hsame : sameIntent intent expected = true) :
    requireExactVgIntent env expected s = (s, .ok ()) := by
  rw [ThickVolume.requireExactVgIntent, prog_bind_of_ok (h.readVgIntent hread)]
  exact refuse_eq_ok.mpr ⟨rfl, by simpa using hsame⟩

theorem report {lv : String} {info : Lv} (hinfo : s.store.find lv = some info) (check : Check)
    (message : String) : report env check lv message s = (s, .ok info) := by
  rw [ThickVolume.report, prog_bind_of_ok (h.ask _ _), read_bind, hinfo]
  rfl

theorem verifySnapshotReadonly {lv : String} {info : Lv} (hinfo : s.store.find lv = some info)
    (hreadonly : info.readonly = true) : verifySnapshotReadonly env lv s = (s, .ok ()) := by
  rw [ThickVolume.verifySnapshotReadonly, prog_bind_of_ok (h.report hinfo _ _)]
  exact refuse_eq_ok.mpr ⟨rfl, by simpa using hreadonly⟩

theorem verifyAutoactivationDisabled {lv : String} {info : Lv}
    (hinfo : s.store.find lv = some info) (hdisabled : info.disabled) :
    verifyAutoactivationDisabled env lv s = (s, .ok ()) := by
  rw [ThickVolume.verifyAutoactivationDisabled, prog_bind_of_ok (h.report hinfo _ _)]
  exact refuse_eq_ok.mpr ⟨rfl, decide_eq_false (not_not.mpr hdisabled)⟩

theorem kernelInventory (s : Session) : kernelInventory env s = (s, .ok s.kernel) := by
  rw [ThickVolume.kernelInventory, prog_bind_of_ok (h.ask _ _), read_bind]
  rfl

theorem refuseOpen {mapper : String}
    (hclosed : ∀ mapping, s.kernel.lookup mapper = some mapping → mapping.opens = 0)
    (message : String) : refuseOpen env mapper message s = (s, .ok ()) := by
  rw [ThickVolume.refuseOpen, prog_bind_of_ok (h.kernelInventory s)]
  cases hmap : s.kernel.lookup mapper with
  | none => rfl
  | some mapping => exact refuse_eq_ok.mpr ⟨rfl, by simpa using hclosed mapping hmap⟩

theorem readExactTags {lv : String} {info : Lv} (hinfo : s.store.find lv = some info)
    (htrim : info.tags.map trim = info.tags) (hnodup : info.tags.Nodup)
    (hempty : "" ∉ info.tags) : readExactTags env lv s = (s, .ok info.tags) := by
  rw [ThickVolume.readExactTags, prog_bind_of_ok (h.report hinfo _ _)]
  simp only [htrim]
  exact refuse_bind (by simp [hempty, hnodup])

end Healthy

/-! ### Deactivation -/

theorem lookup_close (k : Kernel) (mapper m : String) :
    (k.close mapper).lookup m = if m = mapper ∧ ∃ mapping, k.lookup mapper = some mapping ∧
      mapping.opens = 0 then none else k.lookup m := by
  unfold Kernel.close
  split
  . rename_i uuid hmap
    by_cases hm : m = mapper
    . subst hm
      rw [AList.lookup_erase, if_pos ⟨rfl, _, hmap, rfl⟩]
    . rw [AList.lookup_erase_ne hm, if_neg fun h => hm h.1]
  . rename_i hmap
    rw [if_neg]
    intro h
    obtain ⟨-, ⟨uuid, opens⟩, hlookup, rfl⟩ := h
    exact hmap uuid hlookup

/-- Nothing under the name of `lv` is open, and what is there is `lv` itself. -/
def Closed (vg : String) (s : Session) (lv : String) : Prop :=
  ∀ mapping, s.kernel.lookup (lvMapperName vg lv) = some mapping → mapping.opens = 0 ∧
    ∃ info, s.store.find lv = some info ∧
      mapping.uuid = "LVM-" ++ dense s.store.uuid ++ dense info.uuid

theorem closed_after_deactivate {vg : String} {lvs : List String} {k : Kernel}
    {mapper : String} (hopen : ∀ mapping, k.lookup mapper = some mapping → mapping.opens = 0)
    (hmem : k.lookup mapper = none ∨ ∃ lv ∈ lvs, mapper = lvMapperName vg lv) :
    (Command.kernel vg (.deactivate lvs) k).lookup mapper = none := by
  simp only [Command.kernel]
  induction lvs generalizing k with
  | nil =>
    rcases hmem with hnone | ⟨lv, hlv, -⟩
    . exact hnone
    . cases hlv
  | cons lv rest ih =>
    simp only [List.foldl_cons]
    have hnext := lookup_close k (lvMapperName vg lv) mapper
    apply ih
    . intro mapping hmapping
      rw [hnext] at hmapping
      split_ifs at hmapping
      exact hopen mapping hmapping
    . by_cases heq : mapper = lvMapperName vg lv
      . apply Or.inl
        rw [hnext]
        split_ifs with hclosed
        . rfl
        . cases hmap : k.lookup mapper with
          | none => rfl
          | some mapping => exact absurd ⟨heq, mapping, heq ▸ hmap, hopen mapping hmap⟩ hclosed
      . rcases hmem with hnone | ⟨lv', hlv', hname⟩
        . apply Or.inl
          rw [hnext, hnone]
          split_ifs <;> rfl
        . rcases List.mem_cons.mp hlv' with rfl | hrest
          . exact absurd hname heq
          . exact Or.inr ⟨lv', hrest, hname⟩

theorem each_eq_ok {α : Type} {list : List α} {op : α → Op Unit}
    (h : ∀ a ∈ list, op a s = (s, .ok ())) : each list op s = (s, .ok ()) := by
  induction list with
  | nil => rfl
  | cons a rest ih =>
    rw [each, prog_bind_of_ok (h a (by simp))]
    exact ih fun b hb => h b (by simp [hb])

namespace Healthy
variable (h : Healthy env)
include h

theorem verifyMapped {lv : String} (hclosed : Closed env.storage.vgname s lv) :
    verifyMapped env s.kernel lv s = (s, .ok ()) := by
  unfold ThickVolume.verifyMapped
  cases hmap : s.kernel.lookup (lvMapperName env.storage.vgname lv) with
  | none => rfl
  | some mapping =>
    obtain ⟨-, info, hinfo, huuid⟩ := hclosed mapping hmap
    simp only [verifyActiveLvIdentity]
    rw [prog_bind_of_ok (h.report hinfo _ _), read_bind]
    exact refuse_eq_ok.mpr ⟨rfl, by simp [huuid]⟩

theorem deactivateExactLvs {lvs : List String} (hne : lvs ≠ []) (hnames : ∀ lv ∈ lvs, isLvName lv)
    (hnodup : lvs.Nodup) (hclosed : ∀ lv ∈ lvs, Closed env.storage.vgname s lv)
    (message : String) : deactivateExactLvs env message lvs s =
      (s.after env.storage.vgname (.deactivate lvs), .ok ()) := by
  rw [ThickVolume.deactivateExactLvs, refuse_bind (by simpa using hne),
    refuse_bind (by simpa [hnodup] using hnames), prog_bind_of_ok (h.kernelInventory s),
    prog_bind_of_ok (each_eq_ok fun lv hlv => h.verifyMapped (hclosed lv hlv))]
  apply h.runProven
  . refine (silent_kernelInventory env).bind fun after => ?_
    exact Silent.each (fun lv => silent_refuse _ _) _
  . rw [prog_bind_of_ok (h.kernelInventory _)]
    apply each_eq_ok
    intro lv hlv
    have hgone := closed_after_deactivate (fun mapping hm => (hclosed lv hlv mapping hm).1)
      (Or.inr ⟨lv, hlv, rfl⟩)
    exact refuse_eq_ok.mpr ⟨rfl, by rw [Session.after, hgone]; rfl⟩

end Healthy

/-! ### Intents -/

theorem silent_clearCheck (env : Env) (message : String) :
    Silent (readVgIntent env >>= fun after => refuse after.isSome message) :=
  (silent_readVgIntent env).bind fun _ => silent_refuse _ _

theorem Healthy.clearVgIntent (h : Healthy env) {current expected : Record} {tags : List String}
    (hread : decodeVgIntentTags (.array s.store.vgTags) = .ok (some current))
    (hsame : sameIntent current expected = true) (htags : vgIntentTags current = .ok tags)
    (hgone : decodeVgIntentTags (.array (retag tags [] s.store.vgTags)) = .ok none) :
    clearVgIntent env expected s =
      (s.after env.storage.vgname (.changeVgTags tags []), .ok ()) := by
  rw [ThickVolume.clearVgIntent, prog_bind_of_ok (h.readVgIntent hread)]
  simp only
  rw [refuse_bind (by simpa using hsame), lift_bind htags]
  apply h.runProven (silent_clearCheck env _)
  rw [prog_bind_of_ok (h.readVgIntent hgone)]
  exact refuse_eq_ok.mpr ⟨rfl, rfl⟩

end SharedLvmThin.ThickVolume
