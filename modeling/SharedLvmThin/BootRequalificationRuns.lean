import SharedLvmThin.BootRequalification

/-! The states that crashes and reboots leave to a boot requalification. While every latch was
written whole and belongs to the current boot, one more invocation completes; a torn latch or one
of another boot closes the node. -/

namespace SharedLvmThin.UpdatePolicy
open Perl Effects Runs

/-! ## Runs -/

/-- A node over its boots. -/
structure Machine where
  boot : Boot
  seen : List BootId
  files : StateFiles

inductive Event
  | invoke (i : Invocation)
  | reboot (boot : Boot)

/-- The boot identity of a reboot is new. -/
inductive Step (payload : Payload) : Machine → Event → Machine → Prop
  | invoke (m : Machine) (i : Invocation) : Step payload m (.invoke i)
      { m with files := (requalifyBoot payload m.boot i m.files).1 }
  | reboot (m : Machine) (boot : Boot) (hnew : boot.bootId ∉ m.seen) : Step payload m (.reboot boot)
      { m with boot := boot, seen := boot.bootId :: m.seen }

/-- The installed payload is the one of the release and its tuple is listed. -/
structure Binds (payload : Payload) (boot : Boot) (release : Release) : Prop where
  exact : assertExactInstalledRelease payload release = .ok ()
  bound : assertBoundRuntimeTuple payload boot.kernel release = .ok ()

def StateFiles.idle (files : StateFiles) : Prop :=
  files.postGate = false ∧ files.packageTransition = false ∧ files.freezeMigration = false

/-- A qualified release of an earlier boot and no transaction under way. -/
structure Starts (payload : Payload) (release : Release) (m : Machine) : Prop where
  qualified : qualifiedRelease (some release) = .ok release
  binds : Binds payload m.boot release
  files_release : m.files.release = .whole release
  files_latch : m.files.latch = .absent
  idle : m.files.idle
  current : m.boot.bootId ∈ m.seen
  earlier : ∃ b ∈ m.seen, release.bootId = some b.val ∧ b ≠ m.boot.bootId

/-- No crash between the creation and the writing of a latch, and no reboot over a latch or into a
kernel that the release is not bound to. -/
def Careful (payload : Payload) (m : Machine) : Event → Prop
  | .invoke i => i.killed ≠ some .latchCreated
  | .reboot boot => m.files.latch = .absent ∧
      ∀ release, m.files.release = .whole release → Binds payload boot release

/-- The boot from which an invocation has to rebind the release. -/
def recordedPredecessor (boot : Boot) (release : Release) : Option String :=
  if release.bootId = some boot.bootId.val then release.previousBootId else release.bootId

/-- Nothing cuts the invocation and its probes pass. -/
structure Invocation.Passes (i : Invocation) : Prop where
  killed : i.killed = none
  qualification : i.qualification.passes "RUNTIME_QUALIFICATION_READY=YES" = true
  operational : i.operational.passes "UPGRADE_SAFE=YES" = true

def Invocation.request (i : Invocation) (requested : Option String) : Invocation :=
  { i with requested := requested }

/-- The release is bound to the current boot and nothing else changed. -/
structure Requalified (boot : Boot) (original : Release) (files : StateFiles) : Prop where
  latch : files.latch = .absent
  release : ∃ r, files.release = .whole r ∧ r.bootId = some boot.bootId.val ∧
    r.kernelRelease = some boot.kernel ∧ r.payload = original.payload

/-! ## What depends on the payload only -/

section
variable {payload : Payload} {boot : Boot} {r original : Release} {latch : Latch}

theorem assertExactInstalledRelease_payload :
    assertExactInstalledRelease payload r.payload = assertExactInstalledRelease payload r := rfl

theorem assertBoundRuntimeTuple_payload {kernel : String} :
    assertBoundRuntimeTuple payload kernel r.payload = assertBoundRuntimeTuple payload kernel r :=
  rfl

theorem payload_rebound : (r.rebound boot latch).payload = r.payload := rfl

theorem qualifiedRelease_eq_ok : qualifiedRelease (some r) = .ok r ↔
    r.payload.schema = 1 ∧ r.payload.qualified = some "QUALIFIED" := by
  simp only [qualifiedRelease, Release.payload]
  split
  · rename_i h
    simpa using h
  · rename_i h
    simpa using h

theorem qualifiedRelease_of_payload (h : r.payload = original.payload)
    (hq : qualifiedRelease (some original) = .ok original) : qualifiedRelease (some r) = .ok r := by
  rw [qualifiedRelease_eq_ok, h]
  exact qualifiedRelease_eq_ok.mp hq

theorem Binds.of_payload (h : r.payload = original.payload) (hb : Binds payload boot original) :
    Binds payload boot r where
  exact := by rw [← assertExactInstalledRelease_payload, h]; exact hb.exact
  bound := by rw [← assertBoundRuntimeTuple_payload, h]; exact hb.bound

/-- A release is bound to one kernel, as far as the identity digests tell kernels apart. -/
theorem Binds.kernel_eq {new : Boot} (hdigest : Function.Injective payload.digests.identity)
    (h : Binds payload boot r) (hnew : Binds payload new r) : new.kernel = boot.kernel := by
  have hidentity : ∀ b, Binds payload b r →
      r.runtimeIdentitySha256 = some (payload.digests.identity (payload.identity b.kernel)) := by
    intro b hb
    have hbound := hb.bound
    simp only [assertBoundRuntimeTuple, bind_eq_ok, forEach_eq_ok, bindings] at hbound
    obtain ⟨observed, -, hall⟩ := hbound
    simpa using hall ("runtime_identity_sha256", r.runtimeIdentitySha256,
      some (payload.digests.identity (payload.identity b.kernel))) (by simp)
  have heq := Option.some.inj ((hidentity new hnew).symm.trans (hidentity boot h))
  exact congrArg Identity.runningKernel (hdigest heq)

end

/-! ## One invocation -/

section
variable {payload : Payload} {boot : Boot} {i : Invocation} {files : StateFiles}
  {latch : Latch} {r previous : Release}

theorem outcome_perform {e : Effect} {g : StateFiles → StateFiles} {Q : Unit → StateFiles → Prop}
    {E : StateFiles → Prop} (hcut : i.killed = some e → E (g files)) (h : Q () (g files)) :
    Outcome (perform i e g) Q E files := by
  apply outcome_bind
  apply outcome_update
  unfold Outcome refuse lift
  by_cases hkilled : i.killed = some e
  · simpa [hkilled] using hcut hkilled
  · simpa [hkilled] using h

theorem not_passes_of_killed {e : Effect} (h : i.killed = some e) : ¬ i.Passes := by
  intro hi
  rw [hi.killed] at h
  cases h

theorem not_passes_of_operational
    (h : (!i.operational.passes "UPGRADE_SAFE=YES") = true) : ¬ i.Passes := by
  intro hi
  rw [hi.operational] at h
  cases h

theorem holdsBoth_eq_ok (hlatch : files.latch = .whole latch) (hrelease : files.release = .whole r) :
    holdsBoth latch r files = .ok true := by
  simp [holdsBoth, hlatch, hrelease, readJson, bind, Except.bind, pure, Except.pure]

theorem finishBoot_outcome (hlatch : files.latch = .whole latch)
    (hrelease : files.release = .whole r) (hkernel : latch.kernelRelease = boot.kernel)
    (hbinds : Binds payload boot r) :
    Outcome (finishBoot payload boot i latch r)
      (fun _ f => f = { files with latch := .absent })
      (fun f => (f = files ∨ f = { files with latch := .absent }) ∧ ¬ i.Passes) files := by
  unfold finishBoot
  apply outcome_lift hbinds.exact
  refine outcome_refuse (fun h => ⟨.inl rfl, not_passes_of_operational h⟩) fun _ => ?_
  apply outcome_read_bind
  apply outcome_lift (holdsBoth_eq_ok hlatch hrelease)
  apply outcome_accept (by simp [hkernel])
  apply outcome_lift hbinds.exact
  apply outcome_lift hbinds.bound
  apply outcome_bind
  exact outcome_perform (fun h => ⟨.inr rfl, not_passes_of_killed h⟩) (outcome_pure rfl)

theorem not_passes_of_qualification
    (h : (!i.qualification.passes "RUNTIME_QUALIFICATION_READY=YES") = true) : ¬ i.Passes := by
  intro hi
  rw [hi.qualification] at h
  cases h

theorem promote_outcome (hlatch : files.latch = .whole latch)
    (hrelease : files.release = .whole previous) (hkernel : latch.kernelRelease = boot.kernel)
    (hbinds : Binds payload boot previous) :
    Outcome (promote payload boot i latch previous)
      (fun _ f => f = { files with release := .whole (previous.rebound boot latch)
                                   latch := .absent })
      (fun f => (f = files ∨ f = { files with release := .whole (previous.rebound boot latch) } ∨
        f = { files with release := .whole (previous.rebound boot latch), latch := .absent }) ∧
          ¬ i.Passes) files := by
  have hrebound : Binds payload boot (previous.rebound boot latch) :=
    hbinds.of_payload payload_rebound
  unfold promote qualificationProbe
  refine outcome_refuse (fun h => ⟨.inl rfl, not_passes_of_qualification h⟩) fun _ => ?_
  apply outcome_read_bind
  apply outcome_lift (holdsBoth_eq_ok hlatch hrelease)
  apply outcome_accept rfl
  apply outcome_bind
  refine outcome_perform (fun h => ⟨.inr (.inl rfl), not_passes_of_killed h⟩) ?_
  have hfinish := @finishBoot_outcome payload boot i
    { files with release := .whole (previous.rebound boot latch) } latch
    (previous.rebound boot latch) hlatch rfl hkernel hrebound
  exact hfinish.weaken (fun _ _ h => h) fun f h => ⟨.inr h.1, h.2⟩

/-- The files that a new latch and the rebound release lead through. -/
theorem rebind_outcome (hlatch : files.latch = .absent) (hbinds : Binds payload boot previous) (hcareful : i.killed ≠ some .latchCreated) :
    Outcome (rebind payload boot i previous)
      (fun _ f => f = { files with
        release := .whole (previous.rebound boot (newLatch boot i previous)) })
      (fun f => (f = files ∧ (i.requested ≠ none)) ∨
        (f = { files with latch := .whole (newLatch boot i previous) } ∨
          f = { files with release := .whole (previous.rebound boot (newLatch boot i previous))
                           latch := .whole (newLatch boot i previous) } ∨
          f = { files with release := .whole (previous.rebound boot (newLatch boot i previous)) }) ∧
        ¬ i.Passes) files := by
  have hrebound : Binds payload boot (previous.rebound boot (newLatch boot i previous)) :=
    hbinds.of_payload payload_rebound
  unfold rebind qualificationProbe createLatch
  refine outcome_refuse (fun h => .inl ⟨rfl, ?_⟩) fun _ => ?_
  · intro hnone
    simp [hnone] at h
  apply outcome_lift hbinds.exact
  apply outcome_bind
  apply outcome_bind
  refine outcome_perform (fun h => absurd h hcareful) ?_
  refine outcome_perform (fun h => .inr ⟨.inl rfl, not_passes_of_killed h⟩) ?_
  refine outcome_refuse (fun h => .inr ⟨.inl rfl, not_passes_of_qualification h⟩) fun _ => ?_
  apply outcome_read_bind
  apply outcome_lift rfl
  apply outcome_accept (by simp)
  apply outcome_bind
  refine outcome_perform (fun h => .inr ⟨.inr (.inl rfl), not_passes_of_killed h⟩) ?_
  refine (finishBoot_outcome rfl rfl rfl hrebound).weaken (fun _ f h => ?_) fun f h => ?_
  · rw [h, ← hlatch]
  · refine .inr ⟨?_, h.2⟩
    rcases h.1 with h | h
    · exact .inr (.inl h)
    · exact .inr (.inr (by rw [h, ← hlatch]))

theorem isReplayed_eq_ok (hlatch : files.latch = .absent) (hrelease : files.release = .whole r)
    (hkernel : r.kernelRelease = some boot.kernel) (hidle : files.idle) :
    isReplayed boot r files = .ok true := by
  obtain ⟨hpost, htransition, hfreeze⟩ := hidle
  simp [isReplayed, hlatch, hrelease, hkernel, hpost, htransition, hfreeze, readJson, bind,
    Except.bind, pure, Except.pure]

/-- What a completed rebinding to this boot leaves in the release. -/
structure Rebound (boot : Boot) (b : BootId) (r : Release) : Prop where
  bound : r.bootId = some boot.bootId.val
  kernel : r.kernelRelease = some boot.kernel
  verdict : r.verdict = some "POST_REBOOT_GATE"
  previous : r.previousBootId = some b.val
  txid : exactly 32 isLowerHex (r.qualificationTxid.getD "") = true

theorem replay_outcome {b : BootId} (hlatch : files.latch = .absent)
    (hrelease : files.release = .whole r) (hidle : files.idle) (hr : Rebound boot b r)
    (hne : b ≠ boot.bootId) (hbinds : Binds payload boot r) :
    Outcome (replay payload boot i r) (fun _ f => f = files)
      (fun f => f = files ∧ (i.Passes → i.requested ≠ some b.val)) files := by
  have hreplayed := isReplayed_eq_ok hlatch hrelease hr.kernel hidle
  unfold replay
  refine outcome_refuse (fun h => ⟨rfl, fun _ hrequested => ?_⟩) fun _ => ?_
  · have hval : b.val ≠ boot.bootId.val := fun heq => hne (Subtype.ext heq)
    simp [hrequested, hr.previous, hr.verdict, hr.kernel, hr.txid, hval] at h
  refine outcome_refuse (fun h => ⟨rfl, fun hi => absurd hi (not_passes_of_operational h)⟩)
    fun _ => ?_
  apply outcome_read_bind
  apply outcome_lift hreplayed
  apply outcome_accept rfl
  apply outcome_lift hbinds.exact
  apply outcome_lift hbinds.bound
  apply outcome_read_bind
  apply outcome_lift hreplayed
  apply outcome_accept rfl
  exact outcome_pure rfl

/-- A latch that this boot wrote. -/
structure Latch.Owned (boot : Boot) (b : BootId) (latch : Latch) : Prop where
  schema : latch.schema = 1
  state : latch.state = "BOOT_QUALIFYING"
  bound : latch.bootId = boot.bootId.val
  kernel : latch.kernelRelease = boot.kernel
  previous : latch.previousBootId = some b.val
  txid : exactly 32 isLowerHex latch.txid = true

theorem resume_outcome {b : BootId} {Q E : _} (hown : latch.Owned boot b)
    (hbinds : Binds payload boot previous) (hE : i.requested ≠ none → E files)
    (hpromote : previous.bootId = some b.val →
      Outcome (promote payload boot i latch previous) Q E files)
    (hfinish : isSuccessor boot latch previous = true →
      Outcome (finishBoot payload boot i latch previous) Q E files)
    (hphase : previous.bootId = some b.val ∨ isSuccessor boot latch previous = true) :
    Outcome (resume payload boot i latch previous) Q E files := by
  unfold resume
  apply outcome_accept
  · simp [hown.schema, hown.state, hown.bound, hown.kernel, hown.previous]
  refine outcome_refuse (fun h => hE fun hnone => by simp [hnone] at h) fun _ => ?_
  apply outcome_lift hbinds.exact
  rw [hown.previous]
  split
  · rename_i hpredecessor
    exact hpromote hpredecessor
  · rename_i hpredecessor
    have hsuccessor := hphase.resolve_left hpredecessor
    rw [if_pos hsuccessor]
    exact hfinish hsuccessor

/-- The checks before the latch is read. -/
theorem requalifyBoot_outcome_of {Q E : _} (hrelease : files.release = .whole r)
    (hidle : files.idle) (hqualified : qualifiedRelease (some r) = .ok r)
    (hbinds : Binds payload boot r)
    (hE : (i.requested.any fun s => !ExecutorReservation.isBootId s) = true → E files)
    (h : Outcome (do
      match ← lift (readJson files.latch) with
      | some latch => resume payload boot i latch r
      | none =>
        if r.bootId = some boot.bootId.val then replay payload boot i r
        else rebind payload boot i r) Q E files) :
    Outcome (requalifyBoot payload boot i) Q E files := by
  unfold requalifyBoot
  refine outcome_refuse hE fun _ => ?_
  apply outcome_read_bind
  apply outcome_accept
  · simp [hidle.1, hidle.2.1, hidle.2.2]
  have hread : (readJson files.release >>= qualifiedRelease) = .ok r := by
    rw [hrelease]
    exact hqualified
  apply outcome_lift hread
  apply outcome_lift hbinds.exact
  apply outcome_lift hbinds.bound
  exact h

end

/-! ## What an invocation leaves -/

/-- How far the rebinding of a release has come. -/
inductive Progress (boot : Boot) (seen : List BootId) (r : Release) : StateFile Latch → Prop
  | rest (b : BootId) (hseen : b ∈ seen) (hne : b ≠ boot.bootId) (hr : r.bootId = some b.val) :
      Progress boot seen r .absent
  | latched (b : BootId) (hne : b ≠ boot.bootId) (latch : Latch) (hown : latch.Owned boot b)
      (hr : r.bootId = some b.val) : Progress boot seen r (.whole latch)
  | rebound (b : BootId) (hne : b ≠ boot.bootId) (latch : Latch) (hown : latch.Owned boot b)
      (hr : Rebound boot b r) (htxid : r.qualificationTxid = some latch.txid) :
      Progress boot seen r (.whole latch)
  | done (b : BootId) (hne : b ≠ boot.bootId) (hr : Rebound boot b r) :
      Progress boot seen r .absent

/-- What the files of a node keep between invocations that are cut with care. -/
structure Recoverable (original : Release) (boot : Boot) (seen : List BootId) (files : StateFiles) :
    Prop where
  idle : files.idle
  release : ∃ r, files.release = .whole r ∧ r.payload = original.payload ∧
    Progress boot seen r files.latch

section
variable {payload : Payload} {boot : Boot} {seen : List BootId} {i : Invocation}
  {files : StateFiles} {latch : Latch} {original r : Release} {b : BootId}

theorem rebound_rebound (hown : latch.Owned boot b) : Rebound boot b (r.rebound boot latch) where
  bound := rfl
  kernel := rfl
  verdict := rfl
  previous := hown.previous
  txid := hown.txid

theorem owned_newLatch (hr : r.bootId = some b.val) : (newLatch boot i r).Owned boot b where
  schema := rfl
  state := rfl
  bound := rfl
  kernel := rfl
  previous := hr
  txid := i.txid.property

theorem isSuccessor_of_rebound (hown : latch.Owned boot b) (hr : Rebound boot b r)
    (htxid : r.qualificationTxid = some latch.txid) : isSuccessor boot latch r = true := by
  simp [isSuccessor, hr.bound, htxid, hr.previous, hown.previous]

theorem Rebound.requalified (hr : Rebound boot b r) (hlatch : files.latch = .absent)
    (hrelease : files.release = .whole r) (hpayload : r.payload = original.payload) :
    Requalified boot original files :=
  ⟨hlatch, r, hrelease, hr.bound, hr.kernel, hpayload⟩

/-- In every recoverable state there is a request with which an invocation can only fail by being
cut or by a probe, and every invocation leaves a recoverable state. -/
theorem requalifyBoot_outcome (hqualified : qualifiedRelease (some original) = .ok original)
    (hbinds : Binds payload boot original) (hrec : Recoverable original boot seen files) :
    ∃ requested, (requested = none ∨ ∃ r, files.release = .whole r ∧
        requested = recordedPredecessor boot r) ∧
      ∀ i : Invocation, i.killed ≠ some .latchCreated → Outcome (requalifyBoot payload boot i)
        (fun _ f => Recoverable original boot seen f ∧ Requalified boot original f)
        (fun f => Recoverable original boot seen f ∧ (i.Passes → i.requested ≠ requested))
        files := by
  obtain ⟨r, hrelease, hpayload, hprogress⟩ := hrec.release
  have hr := qualifiedRelease_of_payload hpayload hqualified
  have hbound := hbinds.of_payload hpayload
  have hnone : ∀ i : Invocation, (i.requested.any fun s => !ExecutorReservation.isBootId s) = true →
      Recoverable original boot seen files ∧ (i.Passes → i.requested ≠ none) := by
    intro i h
    refine ⟨hrec, fun _ hrequested => ?_⟩
    simp [hrequested] at h
  generalize hlatch : files.latch = file at hprogress
  cases hprogress with
  | rest b hseen hne hold =>
    refine ⟨none, .inl rfl, fun i hcareful => ?_⟩
    apply requalifyBoot_outcome_of hrelease hrec.idle hr hbound (hnone i)
    rw [hlatch]
    apply outcome_lift rfl
    have hother : r.bootId ≠ some boot.bootId.val := by
      rw [hold]
      exact fun heq => hne (Subtype.ext (Option.some.inj heq))
    simp only [hother, if_false]
    have hown : (newLatch boot i r).Owned boot b := owned_newLatch hold
    have hnew : Rebound boot b (r.rebound boot (newLatch boot i r)) := rebound_rebound hown
    refine (rebind_outcome hlatch hbound hcareful).weaken ?_ ?_
    · rintro _ f rfl
      refine ⟨⟨hrec.idle, _, rfl, hpayload, ?_⟩, hnew.requalified hlatch rfl hpayload⟩
      exact hlatch ▸ .done b hne hnew
    · rintro f (⟨rfl, hrequested⟩ | ⟨rfl | rfl | rfl, hpasses⟩)
      · exact ⟨hrec, fun _ => hrequested⟩
      · exact ⟨⟨hrec.idle, _, hrelease, hpayload, .latched b hne _ hown hold⟩,
          fun h => absurd h hpasses⟩
      · exact ⟨⟨hrec.idle, _, rfl, hpayload, .rebound b hne _ hown hnew rfl⟩,
          fun h => absurd h hpasses⟩
      · exact ⟨⟨hrec.idle, _, rfl, hpayload, hlatch ▸ .done b hne hnew⟩,
          fun h => absurd h hpasses⟩
  | latched b hne latch hown hold =>
    refine ⟨none, .inl rfl, fun i _ => ?_⟩
    apply requalifyBoot_outcome_of hrelease hrec.idle hr hbound (hnone i)
    rw [hlatch]
    apply outcome_lift rfl
    have hnew : Rebound boot b (r.rebound boot latch) := rebound_rebound hown
    refine resume_outcome hown hbound (fun h => ⟨hrec, fun _ => h⟩) (fun _ => ?_) (fun h => ?_)
      (.inl hold)
    · refine (promote_outcome hlatch hrelease hown.kernel hbound).weaken ?_ ?_
      · rintro _ f rfl
        exact ⟨⟨hrec.idle, _, rfl, hpayload, .done b hne hnew⟩, hnew.requalified rfl rfl hpayload⟩
      · rintro f ⟨rfl | rfl | rfl, hpasses⟩
        · exact ⟨hrec, fun h => absurd h hpasses⟩
        · exact ⟨⟨hrec.idle, _, rfl, hpayload, hlatch ▸ .rebound b hne latch hown hnew rfl⟩,
            fun h => absurd h hpasses⟩
        · exact ⟨⟨hrec.idle, _, rfl, hpayload, .done b hne hnew⟩, fun h => absurd h hpasses⟩
    · simp only [isSuccessor, hold, Bool.and_eq_true, decide_eq_true_eq] at h
      exact absurd (Subtype.ext (Option.some.inj h.1.1)) hne
  | rebound b hne latch hown hrebound htxid =>
    refine ⟨none, .inl rfl, fun i _ => ?_⟩
    apply requalifyBoot_outcome_of hrelease hrec.idle hr hbound (hnone i)
    rw [hlatch]
    apply outcome_lift rfl
    refine resume_outcome hown hbound (fun h => ⟨hrec, fun _ => h⟩) (fun h => ?_) (fun _ => ?_)
      (.inr (isSuccessor_of_rebound hown hrebound htxid))
    · rw [hrebound.bound] at h
      exact absurd (Subtype.ext (Option.some.inj h)).symm hne
    · refine (finishBoot_outcome hlatch hrelease hown.kernel hbound).weaken ?_ ?_
      · rintro _ f rfl
        exact ⟨⟨hrec.idle, _, hrelease, hpayload, .done b hne hrebound⟩,
          hrebound.requalified rfl hrelease hpayload⟩
      · rintro f ⟨rfl | rfl, hpasses⟩
        · exact ⟨hrec, fun h => absurd h hpasses⟩
        · exact ⟨⟨hrec.idle, _, hrelease, hpayload, .done b hne hrebound⟩,
            fun h => absurd h hpasses⟩
  | done b hne hrebound =>
    refine ⟨some b.val, .inr ⟨r, hrelease, ?_⟩, fun i _ => ?_⟩
    · rw [recordedPredecessor, if_pos hrebound.bound, hrebound.previous]
    apply requalifyBoot_outcome_of hrelease hrec.idle hr hbound
    · intro h
      refine ⟨hrec, fun _ hrequested => ?_⟩
      simp [hrequested, b.property] at h
    rw [hlatch]
    apply outcome_lift rfl
    simp only [hrebound.bound, if_true]
    refine (replay_outcome hlatch hrelease hrec.idle hrebound hne hbound).weaken ?_ ?_
    · rintro _ f rfl
      exact ⟨hrec, hrebound.requalified hlatch hrelease hpayload⟩
    · rintro f ⟨rfl, hrequested⟩
      exact ⟨hrec, hrequested⟩

end

/-! ## Runs -/

section
variable {payload : Payload} {original : Release} {m m' : Machine} {event : Event}

/-- What careful runs keep. -/
structure Machine.Recovers (payload : Payload) (original : Release) (m : Machine) : Prop where
  current : m.boot.bootId ∈ m.seen
  binds : Binds payload m.boot original
  files : Recoverable original m.boot m.seen m.files

theorem Starts.recovers (h : Starts payload original m) : m.Recovers payload original := by
  obtain ⟨b, hseen, hb, hne⟩ := h.earlier
  refine ⟨h.current, h.binds, h.idle, original, h.files_release, rfl, ?_⟩
  exact h.files_latch ▸ .rest b hseen hne hb

/-- After a reboot the release is bound to an earlier boot, however far its rebinding had come. -/
theorem Recoverable.reboot {boot new : Boot} {seen : List BootId} {files : StateFiles}
    (h : Recoverable original boot seen files) (hlatch : files.latch = .absent)
    (hcurrent : boot.bootId ∈ seen) (hnew : new.bootId ∉ seen) :
    Recoverable original new (new.bootId :: seen) files := by
  obtain ⟨r, hrelease, hpayload, hprogress⟩ := h.release
  refine ⟨h.idle, r, hrelease, hpayload, ?_⟩
  have hold : ∀ b ∈ seen, b ≠ new.bootId := fun b hb heq => hnew (heq ▸ hb)
  rw [hlatch] at hprogress ⊢
  cases hprogress with
  | rest b hseen hne hr => exact .rest b (List.mem_cons_of_mem _ hseen) (hold b hseen) hr
  | done b hne hr =>
    exact .rest boot.bootId (List.mem_cons_of_mem _ hcurrent) (hold _ hcurrent) hr.bound

theorem Machine.Recovers.step (h : m.Recovers payload original)
    (hqualified : qualifiedRelease (some original) = .ok original)
    (hcareful : Careful payload m event) (hstep : Step payload m event m') :
    m'.Recovers payload original := by
  cases hstep with
  | invoke i =>
    obtain ⟨requested, -, houtcome⟩ := requalifyBoot_outcome hqualified h.binds h.files
    exact ⟨h.current, h.binds, (houtcome i hcareful).final (fun _ _ h => h.1) fun _ h => h.1⟩
  | reboot boot hnew =>
    obtain ⟨hlatch, hbound⟩ := hcareful
    refine ⟨List.mem_cons_self .., ?_, h.files.reboot hlatch h.current hnew⟩
    obtain ⟨r, hrelease, hpayload, -⟩ := h.files.release
    exact (hbound r hrelease).of_payload hpayload.symm

variable {σ : ℕ → Machine} {label : ℕ → Event} {n : ℕ}

theorem Starts.run_recovers (hstart : Starts payload original (σ 0))
    (hrun : IsTrace (Step payload) σ label n)
    (hcareful : ∀ k < n, Careful payload (σ k) (label k)) : (σ n).Recovers payload original := by
  induction n with
  | zero => exact hstart.recovers
  | succ n ih =>
    have hprevious := ih (fun k hk => hrun k (by omega)) fun k hk => hcareful k (by omega)
    exact hprevious.step hstart.qualified (hcareful n (by omega)) (hrun n (by omega))

/-- However invocations were cut with care and the node rebooted between them, one more invocation
that nothing cuts completes. -/
theorem boot_requalification_recovers (hstart : Starts payload original (σ 0))
    (hrun : IsTrace (Step payload) σ label n) (hcareful : ∀ k < n, Careful payload (σ k) (label k))
    (i : Invocation) (hi : i.Passes) :
    ∃ requested, (requested = none ∨ ∃ r, (σ n).files.release = .whole r ∧
        requested = recordedPredecessor (σ n).boot r) ∧
      ∃ files output,
        requalifyBoot payload (σ n).boot (i.request requested) (σ n).files = (files, .ok output) ∧
          Requalified (σ n).boot original files := by
  have h := hstart.run_recovers hrun hcareful
  obtain ⟨requested, hrequested, houtcome⟩ := requalifyBoot_outcome hstart.qualified h.binds h.files
  refine ⟨requested, hrequested, ?_⟩
  have hcut : (i.request requested).killed ≠ some .latchCreated := by
    rw [Invocation.request, hi.killed]
    exact fun h => nomatch h
  have hpasses : (i.request requested).Passes := ⟨hi.killed, hi.qualification, hi.operational⟩
  have hlast := houtcome (i.request requested) hcut
  unfold Outcome at hlast
  split at hlast
  · rename_i files output heq
    exact ⟨files, output, heq, hlast.2⟩
  · exact absurd rfl (hlast.2 hpasses)

/-! ## Latches that close a node -/

/-- A latch that was never written, or that an earlier boot wrote. -/
inductive Stale (m : Machine) : Prop
  | torn (h : m.files.latch = .torn)
  | earlier (latch : Latch) (b : BootId) (h : m.files.latch = .whole latch)
      (hb : latch.bootId = b.val) (hseen : b ∈ m.seen) (hne : b ≠ m.boot.bootId)

theorem Stale.refuses (h : Stale m) (i : Invocation) :
    ∃ message, requalifyBoot payload m.boot i m.files = (m.files, .error message) := by
  apply Outcome.refused
  unfold requalifyBoot
  refine outcome_refuse (fun _ => rfl) fun _ => ?_
  apply outcome_read_bind
  refine outcome_refuse (fun _ => rfl) fun _ => ?_
  apply outcome_bind
  refine (silent_lift _).outcome rfl fun previous _ => ?_
  apply outcome_bind
  refine (silent_lift _).outcome rfl fun _ _ => ?_
  apply outcome_bind
  refine (silent_lift _).outcome rfl fun _ _ => ?_
  cases h with
  | torn h =>
    rw [h]
    exact rfl
  | earlier latch b h hb hseen hne =>
    rw [h]
    apply outcome_lift rfl
    refine outcome_refuse (fun _ => rfl) fun haccepted => ?_
    have hother : latch.bootId ≠ m.boot.bootId.val := by
      rw [hb]
      exact fun heq => hne (Subtype.ext heq)
    simp [hother] at haccepted

theorem Stale.step (h : Stale m) (hstep : Step payload m event m') : Stale m' := by
  cases hstep with
  | invoke i =>
    obtain ⟨message, hrefused⟩ := @Stale.refuses payload m h i
    rw [hrefused]
    exact h
  | reboot boot hnew =>
    cases h with
    | torn h => exact .torn h
    | earlier latch b h hb hseen hne =>
      exact .earlier latch b h hb (List.mem_cons_of_mem _ hseen) fun heq => hnew (heq ▸ hseen)

/-- No later invocation and no later boot opens the node again. -/
theorem Stale.closes (h : Stale (σ 0)) (hrun : IsTrace (Step payload) σ label n) (i : Invocation) :
    ∃ message, requalifyBoot payload (σ n).boot i (σ n).files = ((σ n).files, .error message) :=
  (hrun.invariant_from h (fun _ _ _ hstep h => Stale.step h hstep) n (by omega) le_rfl).refuses i

end

/-! ## A node -/

def lvm2Row : PackageTuple where
  id := "pve9-lvm2"
  status := some "EXACT_LAB_TESTED"
  requiredTests := []
  profiles := ["dual"]
  api := 15
  runningKernel := some "7.0.0-1-pve"
  scopes := ["san-dataplane"]
  pluginVersions := ["1"]
  packages := ⟨[("lvm2", "2.03.31-2")], by decide⟩

def quiet : Report := ⟨0, "", ""⟩

/-- Digests that keep the text which they cover. -/
def rowPayload : Payload where
  manifest := ⟨["lvm2"], [], [lvm2Row], [], []⟩
  database := ⟨[⟨"lvm2", "amd64", "2.03.31-2", "installed"⟩,
    ⟨"pve-sharedlvmthin", "all", "1", "installed"⟩], by decide⟩
  flavor := "dual"
  api := 15
  runtimeBuildId := .ok "c0ffee"
  artifact := .ok "5eed"
  audit := quiet
  verify := fun _ => quiet
  digests := ⟨fun manifest => String.intercalate " " manifest.watchedPackages, PackageTuple.id,
    Identity.runningKernel⟩

def bootOf (bootId : String) (h : ExecutorReservation.isBootId bootId = true) : Boot :=
  ⟨⟨bootId, h⟩, "7.0.0-1-pve"⟩

def boot0 : Boot := bootOf "11111111-2222-3333-4444-555555555555" (by decide +kernel)

def boot1 : Boot := bootOf "99999999-2222-3333-4444-555555555555" (by decide +kernel)

def boot2 : Boot := bootOf "aaaaaaaa-2222-3333-4444-555555555555" (by decide +kernel)

def rowRelease : Release where
  qualified := some "QUALIFIED"
  runtimeBuildId := some "c0ffee"
  planDigest := some "b0b0"
  bootId := some boot0.bootId.val
  kernelRelease := some boot0.kernel
  pluginPackage := some "pve-sharedlvmthin"
  pluginVersion := some "1"
  runtimeTupleId := some "pve9-lvm2"
  runtimeTupleStatus := some "EXACT_LAB_TESTED"
  runtimeManifestSha256 := some "lvm2"
  runtimeTupleSha256 := some "pve9-lvm2"
  runtimeIdentitySha256 := some "7.0.0-1-pve"
  verdict := some "PACKAGE_PROFILE_GATE"
  artifactSha256 := some "5eed"

/-- The node after its first reboot. -/
def rebooted : Machine where
  boot := boot1
  seen := [boot1.bootId, boot0.bootId]
  files := ⟨.whole rowRelease, .absent, false, false, false⟩

def probed (killed : Option Effect) : Invocation where
  requested := none
  txid := ⟨"eeeeeeeeeeeeeeeeeeeeeeeeeeeeeeee", by decide +kernel⟩
  qualification := ⟨0, "RUNTIME_QUALIFICATION_READY=YES\n", ""⟩
  operational := ⟨0, "UPGRADE_SAFE=YES\n", ""⟩
  killed := killed

theorem probed_passes : (probed none).Passes where
  killed := rfl
  qualification := by decide +kernel
  operational := by decide +kernel

theorem row_binds {boot : Boot} (h : boot.kernel = "7.0.0-1-pve") :
    Binds rowPayload boot rowRelease where
  exact := by decide +kernel
  bound := by
    rw [h]
    decide +kernel

theorem rebooted_starts : Starts rowPayload rowRelease rebooted where
  qualified := by decide +kernel
  binds := row_binds rfl
  files_release := rfl
  files_latch := rfl
  idle := ⟨rfl, rfl, rfl⟩
  current := by decide +kernel
  earlier := ⟨boot0.bootId, by decide +kernel, rfl, by decide +kernel⟩

/-- The node after an invocation that was cut once its latch was written. -/
def interrupted : Machine :=
  { rebooted with
    files := (requalifyBoot rowPayload boot1 (probed (some .latchWritten)) rebooted.files).1 }

def interruptedAgain : Machine :=
  { interrupted with boot := boot2, seen := boot2.bootId :: interrupted.seen }

def crashes : ℕ → Machine
  | 0 => rebooted
  | 1 => interrupted
  | _ => interruptedAgain

def crashEvents : ℕ → Event
  | 0 => .invoke (probed (some .latchWritten))
  | _ => .reboot boot2

theorem crashes_isTrace : IsTrace (Step rowPayload) crashes crashEvents 2 := by
  intro k hk
  match k, hk with
  | 0, _ => exact .invoke rebooted _
  | 1, _ => exact .reboot interrupted boot2 (by decide +kernel)

theorem boot_requalification_recovers_interrupted :
    ∃ requested, (requested = none ∨ ∃ r, interrupted.files.release = .whole r ∧
        requested = recordedPredecessor boot1 r) ∧
      ∃ files output,
        requalifyBoot rowPayload boot1 ((probed none).request requested) interrupted.files =
          (files, .ok output) ∧ Requalified boot1 rowRelease files :=
  @boot_requalification_recovers rowPayload rowRelease crashes crashEvents 1 rebooted_starts
    (fun k hk => crashes_isTrace k (by omega))
    (fun k hk => by
      obtain rfl : k = 0 := by omega
      exact (nomatch · : some Effect.latchWritten ≠ some .latchCreated))
    (probed none) probed_passes

theorem interrupted_latch :
    interrupted.files.latch = .whole (newLatch boot1 (probed none) rowRelease) := by
  decide +kernel

theorem interruptedAgain_stale : Stale interruptedAgain :=
  .earlier _ boot1.bootId interrupted_latch rfl (by decide +kernel) (by decide +kernel)

/-- A reboot over the latch of an interrupted invocation closes the node: every request is
refused, whatever the probes answer, although the payload is unchanged and listed. -/
theorem earlier_latch_closes :
    Starts rowPayload rowRelease (crashes 0) ∧ IsTrace (Step rowPayload) crashes crashEvents 2 ∧
      crashes 2 = interruptedAgain ∧ Binds rowPayload boot2 rowRelease ∧
      ∀ i, ∃ message, requalifyBoot rowPayload boot2 i interruptedAgain.files =
        (interruptedAgain.files, .error message) := by
  refine ⟨rebooted_starts, crashes_isTrace, rfl, row_binds rfl, fun i => ?_⟩
  exact @Stale.refuses rowPayload interruptedAgain interruptedAgain_stale i

end SharedLvmThin.UpdatePolicy
