import SharedLvmThin.ProfileReplacement
import Mathlib.Logic.Relation

/-! Every run of executors, maintainer scripts and settlements, wherever they stop. All evidence
belongs to one transaction, and a settlement by exit code has its history. -/

namespace SharedLvmThin.ProfileReplacement
open Perl

/-! ## What evidence says -/

/-- A file of the transaction: a record of it, or an empty file that its writer left. -/
def Belongs (txid : String) : File → Prop
  | .absent => True
  | .torn t => t = txid
  | .whole record => record.txid = txid

/-- A present file of the transaction. -/
def Carries (txid : String) : File → Prop
  | .absent => False
  | .torn t => t = txid
  | .whole record => record.txid = txid

structure Owned (files : Files) (txid : String) : Prop where
  evidence : ∀ e, Belongs txid (files.evidence e)
  candidate : ∀ t, files.candidate = some t → t = txid

/-- The dpkg of the transaction consumed the authorization and exited with code zero. -/
def Proved (events : List Event) (txid : String) : Prop :=
  ∃ child, .forked txid child ∈ events ∧ .consumed txid child ∈ events ∧
    .exited txid child 0 ∈ events

/-- What a record of each kind of evidence is known to say. -/
def Truthful (events : List Event) (e : Evidence) (r : Record) : Prop :=
  match e with
  | .ready => .forked r.txid r.dpkg ∈ events
  | .intent => .forked r.txid r.dpkg ∈ events ∧ .consumed r.txid r.dpkg ∈ events
  | .done => ∀ rc, r.dpkgExit = some rc → .exited r.txid r.dpkg rc ∈ events
  | .complete => r.settlement = some .dpkgExitZero → Proved events r.txid

/-- What an effect still to come of a section may do. -/
def Fine (owner : Section) (events : List Event) : Effect → Prop
  | .createCandidate t => t = owner.txid
  | .create e t => t = owner.txid ∧ (e = .ready → .verified t ∉ events)
  | .fill e r => r.txid = owner.txid ∧ (e = .ready → .verified r.txid ∉ events) ∧
      Truthful (logged owner (.fill e r) events) e r
  | .archive t => t = owner.txid
  | _ => True

section
variable {events more : List Event} {txid : String} {e : Evidence} {r : Record} {owner : Section}

theorem Proved.mono (h : Proved events txid) (hmore : events ⊆ more) : Proved more txid := by
  obtain ⟨child, hforked, hconsumed, hexited⟩ := h
  exact ⟨child, hmore hforked, hmore hconsumed, hmore hexited⟩

theorem Truthful.mono (h : Truthful events e r) (hmore : events ⊆ more) : Truthful more e r := by
  cases e with
  | ready => exact hmore h
  | intent => exact ⟨hmore h.1, hmore h.2⟩
  | done => exact fun rc hrc => hmore (h rc hrc)
  | complete => exact fun hsettlement => (h hsettlement).mono hmore

theorem logged_subset {effect : Effect} (hmore : events ⊆ more) :
    logged owner effect events ⊆ logged owner effect more := by
  unfold logged
  split
  · exact List.cons_subset_cons _ hmore
  · exact hmore

theorem Fine.mono {effect : Effect} (h : Fine owner events effect) (hmore : events ⊆ more)
    (hverified : ∀ t, .verified t ∈ more → .verified t ∈ events) : Fine owner more effect := by
  cases effect with
  | createCandidate t => exact h
  | create e t => exact ⟨h.1, fun he hmem => h.2 he (hverified _ hmem)⟩
  | fill e r =>
    exact ⟨h.1, fun he hmem => h.2.1 he (hverified _ hmem), h.2.2.mono (logged_subset hmore)⟩
  | unlink e => trivial
  | unlinkCandidate => trivial
  | archive t => exact h
  | require holds message => trivial

theorem subset_logged (owner : Section) (effect : Effect) (events : List Event) :
    events ⊆ logged owner effect events := by
  unfold logged
  split
  · exact List.subset_cons_self _ _
  · exact List.Subset.refl _

theorem mem_logged {effect : Effect} {event : Event} (h : event ∈ logged owner effect events) :
    event ∈ events ∨ ∃ t child, event = .consumed t child := by
  unfold logged at h
  split at h
  · rcases List.mem_cons.mp h with rfl | h
    · exact .inr ⟨_, _, rfl⟩
    · exact .inl h
  · exact .inl h

theorem belongs_of_absent {file : File} (h : file.lexists = false) : Belongs txid file := by
  cases file with
  | absent => trivial
  | torn t => cases h
  | whole record => cases h

theorem not_carries_of_absent {file : File} (h : file.lexists = false) : ¬ Carries txid file := by
  cases file with
  | absent => exact fun h => h
  | torn t => cases h
  | whole record => cases h

end

/-! ## One effect -/

/-- What the files are known to say. -/
structure Honest (files : Files) (events : List Event) : Prop where
  truthful : ∀ e r, files.evidence e = .whole r → Truthful events e r
  archived : ∀ t r, files.archive t = some r →
    r.txid = t ∧ (r.settlement = some .dpkgExitZero → Proved events t)
  spent : ∀ t, .verified t ∈ events → ¬ Carries t (files.evidence .ready)

section
variable {files files' : Files} {events more : List Event} {txid : String} {owner : Section}
  {e : Evidence} {file : File} {effect : Effect}

theorem put_self : (files.put e file).evidence e = file := by
  simp [Files.put]

theorem put_other {x : Evidence} (hx : x ≠ e) :
    (files.put e file).evidence x = files.evidence x := by
  simp [Files.put, hx]

theorem Owned.put (h : Owned files txid) (hfile : Belongs txid file) :
    Owned (files.put e file) txid where
  evidence := by
    intro x
    by_cases hx : x = e
    · rw [hx, put_self]
      exact hfile
    · rw [put_other hx]
      exact h.evidence x
  candidate := h.candidate

theorem Honest.put (h : Honest files events)
    (hwhole : ∀ r, file = .whole r → Truthful events e r)
    (hready : e = .ready → ∀ t, .verified t ∈ events → ¬ Carries t file) :
    Honest (files.put e file) events where
  truthful := by
    intro x r hr
    by_cases hx : x = e
    · rw [hx, put_self] at hr
      exact hx ▸ hwhole r hr
    · rw [put_other hx] at hr
      exact h.truthful x r hr
  archived := h.archived
  spent := by
    intro t ht
    by_cases hx : e = .ready
    · rw [hx, put_self]
      exact hready hx t ht
    · rw [put_other (Ne.symm hx)]
      exact h.spent t ht

theorem Honest.mono (h : Honest files events) (hmore : events ⊆ more)
    (hverified : ∀ t, .verified t ∈ more → .verified t ∈ events) : Honest files more where
  truthful := fun e r hr => (h.truthful e r hr).mono hmore
  archived := fun t r hr => ⟨(h.archived t r hr).1, fun hs => ((h.archived t r hr).2 hs).mono hmore⟩
  spent := fun t ht => h.spent t (hverified t ht)

theorem verified_of_logged {t : String} (h : .verified t ∈ logged owner effect events) :
    .verified t ∈ events := by
  rcases mem_logged h with h | ⟨_, _, h⟩
  · exact h
  · cases h

theorem Owned.apply (h : Owned files owner.txid) (hfine : Fine owner events effect)
    (happly : effect.apply files = some files') : Owned files' owner.txid := by
  cases effect with
  | createCandidate t =>
    obtain ⟨-, rfl⟩ : files.candidate.isNone ∧ { files with candidate := some t } = files' := by
      simpa [Effect.apply] using happly
    refine ⟨h.evidence, fun t' ht' => ?_⟩
    exact (Option.some.inj ht').symm.trans hfine
  | create e t =>
    obtain ⟨-, rfl⟩ : files.lexists e = false ∧ files.put e (.torn t) = files' := by
      simpa [Effect.apply] using happly
    exact h.put hfine.1
  | fill e r =>
    obtain ⟨-, rfl⟩ : files.lexists e ∧ files.put e (.whole r) = files' := by
      simpa [Effect.apply] using happly
    exact h.put hfine.1
  | unlink e =>
    obtain ⟨-, rfl⟩ : files.lexists e ∧ files.put e .absent = files' := by
      simpa [Effect.apply] using happly
    exact h.put trivial
  | unlinkCandidate =>
    obtain rfl : { files with candidate := none } = files' := by simpa [Effect.apply] using happly
    exact ⟨h.evidence, fun t ht => nomatch ht⟩
  | archive t =>
    cases hcomplete : files.evidence .complete with
    | absent => simp [Effect.apply, hcomplete] at happly
    | torn t' => simp [Effect.apply, hcomplete] at happly
    | whole r =>
      simp only [Effect.apply, hcomplete, Option.some.injEq] at happly
      subst happly
      exact ⟨(h.put trivial : Owned (files.put .complete .absent) _).evidence, h.candidate⟩
  | require holds message =>
    obtain ⟨-, rfl⟩ : holds = true ∧ files = files' := by simpa [Effect.apply] using happly
    exact h

theorem Honest.apply (h : Honest files events) (howned : Owned files owner.txid)
    (hfine : Fine owner events effect) (happly : effect.apply files = some files') :
    Honest files' (logged owner effect events) := by
  have hmono : Honest files (logged owner effect events) :=
    h.mono (subset_logged _ _ _) fun t => verified_of_logged
  cases effect with
  | createCandidate t =>
    obtain ⟨-, rfl⟩ : files.candidate.isNone ∧ { files with candidate := some t } = files' := by
      simpa [Effect.apply] using happly
    exact ⟨hmono.truthful, hmono.archived, hmono.spent⟩
  | create e t =>
    obtain ⟨-, rfl⟩ : files.lexists e = false ∧ files.put e (.torn t) = files' := by
      simpa [Effect.apply] using happly
    refine hmono.put (fun r hr => nomatch hr) fun he t' ht' hcarries => ?_
    obtain rfl : t = t' := hcarries
    exact hfine.2 he (verified_of_logged ht')
  | fill e r =>
    obtain ⟨-, rfl⟩ : files.lexists e ∧ files.put e (.whole r) = files' := by
      simpa [Effect.apply] using happly
    refine hmono.put ?_ fun he t' ht' hcarries => ?_
    · rintro _ ⟨⟩
      exact hfine.2.2
    · obtain rfl : r.txid = t' := hcarries
      exact hfine.2.1 he (verified_of_logged ht')
  | unlink e =>
    obtain ⟨-, rfl⟩ : files.lexists e ∧ files.put e .absent = files' := by
      simpa [Effect.apply] using happly
    exact hmono.put (fun r hr => nomatch hr) fun _ _ _ hcarries => hcarries
  | unlinkCandidate =>
    obtain rfl : { files with candidate := none } = files' := by simpa [Effect.apply] using happly
    exact ⟨hmono.truthful, hmono.archived, hmono.spent⟩
  | archive t =>
    cases hcomplete : files.evidence .complete with
    | absent => simp [Effect.apply, hcomplete] at happly
    | torn t' => simp [Effect.apply, hcomplete] at happly
    | whole r =>
      simp only [Effect.apply, hcomplete, Option.some.injEq] at happly
      subst happly
      have hput : Honest (files.put .complete .absent) (logged owner (.archive t) events) :=
        hmono.put (fun r hr => nomatch hr) fun he => nomatch he
      refine ⟨hput.truthful, fun t' r' hr' => ?_, hput.spent⟩
      by_cases ht : t' = t
      · subst ht
        obtain rfl : r = r' := by simpa using hr'
        -- the archive takes its name from the record it holds
        have hname : r.txid = t' := by
          have hbelongs := howned.evidence .complete
          rw [hcomplete] at hbelongs
          exact Eq.trans hbelongs (Eq.symm hfine)
        exact ⟨hname, fun hs => hname ▸ hmono.truthful .complete r hcomplete hs⟩
      · exact hmono.archived t' r' (by simpa [ht] using hr')
  | require holds message =>
    obtain ⟨-, rfl⟩ : holds = true ∧ files = files' := by simpa [Effect.apply] using happly
    exact hmono

end

/-! ## The invariant -/

structure Invariant (s : State) : Prop where
  owned : ∃ txid, Owned s.files txid
  critical : ∀ c, s.critical = some c → c.rest ≠ [] → Owned s.files c.owner.txid
  fine : ∀ c, s.critical = some c → ∀ effect ∈ c.rest, Fine c.owner s.events effect
  honest : Honest s.files s.events
  executors : ∀ x ∈ s.executors, .forked x.record.txid x.record.dpkg ∈ s.events ∧
    ∀ rc, x.exit = some rc → .exited x.record.txid x.record.dpkg rc ∈ s.events
  child : ∀ t c c', .forked t c ∈ s.events → .forked t c' ∈ s.events → c = c'
  known : ∀ t c, .forked t c ∈ s.events → t ∈ s.used
  used : ∀ t, .verified t ∈ s.events → t ∈ s.used
  once : ∀ t, s.events.count (.verified t) ≤ 1
  verifying : ∀ record rest, s.critical = some ⟨.verifyPrerm record, rest⟩ →
    .verified record.txid ∉ s.events ∧ record.txid ∈ s.used ∧
      (rest = [] → ¬ Carries record.txid (s.files.evidence .ready)) ∧
      ∀ effect ∈ rest.getLast?, effect = .unlink .ready
  preparing : ∀ record rest, s.critical = some ⟨.prepare record, rest⟩ →
    .forked record.txid record.dpkg ∈ s.events

theorem invariant_initial : Invariant State.initial where
  owned := ⟨"", fun _ => trivial, fun _ ht => nomatch ht⟩
  critical := fun _ hc => nomatch hc
  fine := fun _ hc => nomatch hc
  honest := ⟨fun _ _ hr => (nomatch hr), fun _ _ hr => (nomatch hr), fun _ ht => (nomatch ht)⟩
  executors := fun _ hx => nomatch hx
  child := fun _ _ _ hc => nomatch hc
  known := fun _ _ hc => nomatch hc
  used := fun _ ht => nomatch ht
  once := fun _ => Nat.zero_le 1
  verifying := fun _ _ hc => nomatch hc
  preparing := fun _ _ hc => nomatch hc

/-! ## What a section may do -/

section
variable {world : World} {files : Files}

theorem readRecord_eq_ok {file : File} {r : Record} : readRecord file = .ok r ↔ file =
    .whole r := by
  cases file <;> simp [readRecord]

theorem not_lexists_iff {e : Evidence} : files.lexists e = false ↔ files.evidence e = .absent := by
  unfold Files.lexists
  cases files.evidence e <;> simp [File.lexists]

theorem prepare_eq_ok {args : ExecuteArgs} {txid : String} {child : Child} {record : Record}
    {effects : List Effect} (h : prepare world args txid child files = .ok (record, effects)) :
    (∀ e, files.evidence e = .absent) ∧ files.candidate = none ∧ record.txid = txid ∧
      record.dpkg = child ∧ effects = .createCandidate txid ::
        .require (world.sha256 pinned = args.sha256) "pinned candidate digest changed" ::
          writeCreate .ready record := by
  unfold prepare at h
  simp only [bind_eq_ok, dieIf_eq_ok, exists_and_left, exists_unit, pure_eq_ok, Prod.mk.injEq] at h
  obtain ⟨-, -, -, -, -, -, hnone, rfl, rfl⟩ := h
  simp only [Bool.or_eq_false_iff, not_lexists_iff, Option.isSome_eq_false_iff,
    Option.isNone_iff_eq_none] at hnone
  obtain ⟨⟨⟨⟨hready, hintent⟩, hdone⟩, hcomplete⟩, hcandidate⟩ := hnone
  refine ⟨fun e => ?_, hcandidate, rfl, rfl, rfl⟩
  cases e with
  | ready => exact hready
  | intent => exact hintent
  | done => exact hdone
  | complete => exact hcomplete

theorem recordDone_eq_ok {prepared : Record} {rc : Int} {effects : List Effect}
    (h : recordDone world prepared rc files = .ok effects) :
    ∃ active current, (active = .intent ∨ active = .ready) ∧
      files.evidence active = .whole current ∧ current.txid = prepared.txid ∧
      effects = writeCreate .done
          { current with
            phase := .dpkgDone, dpkgCompleted := some world.now, dpkgExit := some rc } ++
        if active = .ready then [.unlink .ready] else [] := by
  unfold recordDone at h
  simp only [bind_eq_ok, dieIf_eq_ok, exists_and_left, exists_unit, pure_eq_ok, readRecord_eq_ok,
    decide_eq_false_iff_not, ne_eq, not_not] at h
  obtain ⟨-, current, hcurrent, htxid, rfl⟩ := h
  refine ⟨_, current, ?_, hcurrent, htxid, rfl⟩
  split
  · exact .inl rfl
  · exact .inr rfl

theorem verifyPrerm_eq_ok {args : VerifyArgs} {ancestors : List Ancestor} {record : Record}
    {effects : List Effect} (h : verifyPrerm world args ancestors files = .ok (record, effects)) :
    files.evidence .ready = .whole record ∧
      effects = writeCreate .intent
          { record with phase := .prermIntent, consumed := some world.now } ++
              [.unlink .ready] := by
  unfold verifyPrerm at h
  simp only [bind_eq_ok, dieIf_eq_ok, exists_and_left, exists_unit, pure_eq_ok, readRecord_eq_ok,
    Prod.mk.injEq] at h
  obtain ⟨record, hready, -, -, -, -, -, -, -, rfl, rfl⟩ := h
  exact ⟨hready, rfl⟩

/-- A consumption happens below the dpkg that the record names. -/
theorem verifyPrerm_below {args : VerifyArgs} {ancestors : List Ancestor} {record : Record}
    {effects : List Effect} (h : verifyPrerm world args ancestors files = .ok (record, effects)) :
    ∃ a ∈ ancestors, a.process = record.dpkg ∧ a.executable = "/usr/bin/dpkg" := by
  unfold verifyPrerm at h
  simp only [bind_eq_ok, exists_unit, pure_eq_ok, Prod.mk.injEq] at h
  obtain ⟨record, -, -, -, -, -, hprocess, -, -, rfl, -⟩ := h
  unfold exactDpkgProcess at hprocess
  cases hfind : ancestors.find? fun a => a.process.pid = record.dpkg.pid with
  | none =>
    rw [hfind] at hprocess
    cases hprocess
  | some a =>
    rw [hfind] at hprocess
    simp only [bind_eq_ok, dieIf_eq_ok, exists_and_left, exists_unit, decide_eq_false_iff_not,
      ne_eq, not_not] at hprocess
    have hpid : a.process.pid = record.dpkg.pid := by simpa using List.find?_some hfind
    refine ⟨a, List.mem_of_find?_eq_some hfind, ?_, hprocess.2.1⟩
    exact congrArg₂ Child.mk hpid hprocess.1

theorem isSettlementOf_txid {args : FinalizeArgs} {r : Record} (h : isSettlementOf args r = true) :
    r.txid = args.txid := by
  simp only [isSettlementOf, Bool.and_eq_true, decide_eq_true_eq] at h
  exact h.1.1.1

theorem settle_eq_ok {args : FinalizeArgs} {record : Record}
    (h : settle world args files = .ok record) :
    ∃ intent, files.evidence .intent = .whole intent ∧ intent.txid = args.txid ∧
      record.txid = args.txid ∧ (record.settlement = some .dpkgExitZero →
        ∃ done, files.evidence .done = .whole done ∧ done.toIdentity = intent.toIdentity ∧
          done.dpkgExit = some 0) := by
  unfold settle at h
  simp only [bind_eq_ok, dieIf_eq_ok, exists_and_left, exists_unit, readRecord_eq_ok,
    Bool.not_eq_false'] at h
  obtain ⟨intent, hintent, -, hsettlement, -, -, -, h⟩ := h
  have htxid := isSettlementOf_txid hsettlement
  split at h
  · simp only [bind_eq_ok, dieIf_eq_ok, exists_and_left, exists_unit, readRecord_eq_ok, pure_eq_ok,
      decide_eq_false_iff_not, ne_eq, not_not] at h
    obtain ⟨done, hdone, -, hsame, hexit, rfl⟩ := h
    have hdonetxid : done.txid = args.txid := (congrArg Identity.txid hsame).symm.trans htxid
    exact ⟨intent, hintent, htxid, hdonetxid, fun _ => ⟨done, hdone, hsame.symm, hexit⟩⟩
  · simp only [bind_eq_ok, dieIf_eq_ok, exists_and_left, exists_unit, pure_eq_ok] at h
    obtain ⟨-, -, -, -, rfl⟩ := h
    refine ⟨intent, hintent, htxid, htxid, fun hs => ?_⟩
    cases hs

/-- What is left of a settlement once COMPLETE is whole. -/
def closing (world : World) (record : Record) (files : Files) : List Effect :=
  .require (isInstalledExact world record) "target package is not exactly installed" ::
    cleanup record.txid files

theorem finalize_eq_ok {args : FinalizeArgs} {effects : List Effect}
    (h : finalize world args files = .ok effects) :
    effects = [] ∨
      (∃ record, files.evidence .complete = .whole record ∧ record.txid = args.txid ∧
        effects = closing world record files) ∨
      ∃ record, settle world args files = .ok record ∧
        effects = writeCreate .complete record ++ closing world record files := by
  unfold finalize at h
  simp only [bind_eq_ok, dieIf_eq_ok, exists_and_left, exists_unit] at h
  obtain ⟨-, h⟩ := h
  split at h
  · simp only [bind_eq_ok, dieIf_eq_ok, exists_and_left, exists_unit, pure_eq_ok] at h
    exact .inl h.2.2.2.symm
  · simp only [bind_eq_ok, dieIf_eq_ok, exists_and_left, exists_unit, pure_eq_ok, readRecord_eq_ok,
      Bool.not_eq_false'] at h
    obtain ⟨record, hrecord, -, hsettlement, rfl⟩ := h
    exact .inr (.inl ⟨record, hrecord, isSettlementOf_txid hsettlement, rfl⟩)
  · simp only [bind_eq_ok, pure_eq_ok] at h
    obtain ⟨record, hrecord, rfl⟩ := h
    exact .inr (.inr ⟨record, hrecord, rfl⟩)

end

/-! ## The steps -/

section
variable {s : State}

theorem mem_iff_of_count {events more : List Event} {event : Event}
    (h : more.count event = events.count event) : event ∈ more ↔ event ∈ events := by
  rw [← List.count_pos_iff, ← List.count_pos_iff, h]

theorem Invariant.grow (hs : Invariant s) {events : List Event} {used : List String}
    (hevents : s.events ⊆ events) (hused : s.used ⊆ used)
    (hverified : ∀ t, events.count (.verified t) = s.events.count (.verified t))
    (hchild : ∀ t c c', .forked t c ∈ events → .forked t c' ∈ events → c = c')
    (hknown : ∀ t c, .forked t c ∈ events → t ∈ used) :
    Invariant { s with events := events, used := used } := by
  have hback : ∀ t, .verified t ∈ events → .verified t ∈ s.events :=
    fun t => (mem_iff_of_count (hverified t)).mp
  exact
    { owned := hs.owned
      critical := hs.critical
      fine := fun c hc effect heffect => (hs.fine c hc effect heffect).mono hevents hback
      honest := hs.honest.mono hevents hback
      executors := fun x hx => ⟨hevents (hs.executors x hx).1, fun rc hrc =>
        hevents ((hs.executors x hx).2 rc hrc)⟩
      child := hchild
      known := hknown
      used := fun t ht => hused (hs.used t (hback t ht))
      once := fun t => (hverified t).trans_le (hs.once t)
      verifying := fun record rest hc =>
        have h := hs.verifying record rest hc
        ⟨fun hmem => h.1 (hback _ hmem), hused h.2.1, h.2.2⟩
      preparing := fun record rest hc => hevents (hs.preparing record rest hc) }

/-- An event that neither forks a child nor ends a consumption. -/
theorem Invariant.log (hs : Invariant s) {event : Event} (hforked : ∀ t c, .forked t c ≠ event)
    (hverified : ∀ t, .verified t ≠ event) : Invariant { s with events := event :: s.events } := by
  have hmem : ∀ {t c}, .forked t c ∈ event :: s.events → .forked t c ∈ s.events :=
    fun h => (List.mem_cons.mp h).resolve_left (hforked _ _)
  exact hs.grow (List.subset_cons_self _ _) (List.Subset.refl _)
    (fun t => List.count_cons_of_ne (hverified t).symm)
    (fun t c c' h h' => hs.child t c c' (hmem h) (hmem h'))
    (fun t c h => hs.known t c (hmem h))

theorem Invariant.fork (hs : Invariant s) {txid : String} (hfresh : txid ∉ s.used) (child : Child) :
    Invariant { s with used := txid :: s.used, events := .forked txid child :: s.events } := by
  have hmem : ∀ {t c}, .forked t c ∈ Event.forked txid child :: s.events →
      t = txid ∧ c = child ∨ t ∈ s.used ∧ .forked t c ∈ s.events := by
    intro t c h
    rcases List.mem_cons.mp h with h | h
    · exact .inl (by simpa using h)
    · exact .inr ⟨hs.known t c h, h⟩
  have hcount : ∀ t, (Event.forked txid child :: s.events).count (.verified t) =
      s.events.count (.verified t) :=
    fun t => List.count_cons_of_ne (show Event.forked txid child ≠ .verified t from nofun)
  refine hs.grow (List.subset_cons_self _ _) (List.subset_cons_self _ _) hcount
    (fun t c c' h h' => ?_) (fun t c h => ?_)
  · rcases hmem h with ⟨rfl, rfl⟩ | ⟨hused, h⟩ <;> rcases hmem h' with ⟨ht, rfl⟩ | ⟨hused', h'⟩
    · rfl
    · exact absurd hused' hfresh
    · exact absurd (ht ▸ hused) hfresh
    · exact hs.child t c c' h h'
  · rcases hmem h with ⟨rfl, -⟩ | ⟨hused, -⟩
    · exact List.mem_cons_self
    · exact List.mem_cons_of_mem _ hused

theorem Invariant.stop (hs : Invariant s) : Invariant { s with critical := none } :=
  { hs with
    critical := fun _ hc => nomatch hc
    fine := fun _ hc => nomatch hc
    verifying := fun _ _ hc => nomatch hc
    preparing := fun _ _ hc => nomatch hc }

theorem Invariant.replace (hs : Invariant s) {executors : List Executor}
    (h : ∀ x ∈ executors, .forked x.record.txid x.record.dpkg ∈ s.events ∧
      ∀ rc, x.exit = some rc → .exited x.record.txid x.record.dpkg rc ∈ s.events) :
    Invariant { s with executors := executors } :=
  { hs with executors := h }

theorem Invariant.enter (hs : Invariant s) {owner : Section} {effects : List Effect}
    (howned : effects ≠ [] → Owned s.files owner.txid)
    (hfine : ∀ effect ∈ effects, Fine owner s.events effect)
    (hverifying : ∀ record, owner = .verifyPrerm record →
      .verified record.txid ∉ s.events ∧ record.txid ∈ s.used ∧
        effects ≠ [] ∧ effects.getLast? = some (.unlink .ready))
    (hpreparing : ∀ record, owner = .prepare record → .forked record.txid record.dpkg ∈ s.events) :
    Invariant { s with critical := some ⟨owner, effects⟩ } :=
  { hs with
    critical := by
      rintro _ ⟨⟩ hne
      exact howned hne
    fine := by
      rintro _ ⟨⟩
      exact hfine
    verifying := by
      rintro record rest hc
      obtain ⟨rfl, rfl⟩ : owner = .verifyPrerm record ∧ effects = rest := by simpa using hc
      obtain ⟨hverified, hused, hne, hlast⟩ := hverifying record rfl
      refine ⟨hverified, hused, fun hnil => absurd hnil hne, fun effect heffect => ?_⟩
      rw [hlast] at heffect
      exact (Option.some.inj heffect).symm
    preparing := by
      rintro record rest hc
      obtain ⟨rfl, rfl⟩ : owner = .prepare record ∧ effects = rest := by simpa using hc
      exact hpreparing record rfl }

theorem Invariant.prepare (hs : Invariant s) {world : World} {args : ExecuteArgs} {txid : String}
    {child : Child} {record : Record} {effects : List Effect} (hfresh : txid ∉ s.used)
    (h : prepare world args txid child s.files = .ok (record, effects)) :
    Invariant { s with critical := some ⟨.prepare record, effects⟩, used := txid :: s.used,
                       events := .forked txid child :: s.events } := by
  obtain ⟨hnone, hcandidate, rfl, rfl, rfl⟩ := prepare_eq_ok h
  have hverified : .verified record.txid ∉ Event.forked record.txid record.dpkg :: s.events := by
    intro hmem
    exact hfresh (hs.used _ ((List.mem_cons.mp hmem).resolve_left nofun))
  refine (hs.fork hfresh record.dpkg).enter (fun _ => ⟨fun e => ?_, fun t ht => ?_⟩) ?_
    (fun _ hrecord => nomatch hrecord) ?_
  · rw [hnone e]
    trivial
  · rw [hcandidate] at ht
    cases ht
  · simp only [writeCreate, List.forall_mem_cons, List.not_mem_nil, false_implies, implies_true,
      and_true]
    exact ⟨rfl, trivial, ⟨rfl, fun _ => hverified⟩, rfl, fun _ => hverified,
      List.mem_cons_self⟩
  · rintro _ ⟨⟩
    exact List.mem_cons_self

theorem Invariant.recordDone (hs : Invariant s) {world : World} {before after : List Executor}
    {record : Record} {rc : Int} {effects : List Effect}
    (hexecutor : s.executors = before ++ ⟨record, some rc⟩ :: after)
    (h : recordDone world record rc s.files = .ok effects) :
    Invariant { s with critical := some ⟨.recordDone record, effects⟩,
                       executors := before ++ after } := by
  obtain ⟨active, current, hactive, hcurrent, htxid, rfl⟩ := recordDone_eq_ok h
  obtain ⟨hforked, hexited⟩ := hs.executors ⟨record, some rc⟩ (by simp [hexecutor])
  -- READY and INTENT both name the child that was forked for the transaction
  have hdpkg : current.dpkg = record.dpkg := by
    have hsays := hs.honest.truthful active current hcurrent
    refine hs.child record.txid _ _ ?_ hforked
    rcases hactive with rfl | rfl
    · exact htxid ▸ hsays.1
    · exact htxid ▸ hsays
  have howned : Owned s.files record.txid := by
    obtain ⟨t, ht⟩ := hs.owned
    have hbelongs := ht.evidence active
    rw [hcurrent] at hbelongs
    obtain rfl : t = record.txid := hbelongs.symm.trans htxid
    exact ht
  have hretired : Invariant { s with executors := before ++ after } := by
    refine hs.replace fun x hx => hs.executors x ?_
    rw [hexecutor]
    exact (List.sublist_cons_self _ _).append_left before |>.subset hx
  refine hretired.enter (fun _ => howned) ?_ (fun _ hrecord => nomatch hrecord)
    (fun _ hrecord => nomatch hrecord)
  simp only [writeCreate, List.forall_mem_append, List.forall_mem_cons, List.not_mem_nil,
    false_implies, implies_true, and_true]
  refine ⟨⟨⟨htxid, nofun⟩, htxid, nofun, ?_⟩, ?_⟩
  · rintro rc' ⟨⟩
    exact htxid ▸ hdpkg ▸ hexited rc rfl
  · intro effect heffect
    split at heffect
    · obtain rfl := List.mem_singleton.mp heffect
      trivial
    · cases heffect

theorem Invariant.verifyPrerm (hs : Invariant s) {world : World} {args : VerifyArgs}
    {ancestors : List Ancestor} {record : Record} {effects : List Effect}
    (h : verifyPrerm world args ancestors s.files = .ok (record, effects)) :
    Invariant { s with critical := some ⟨.verifyPrerm record, effects⟩ } := by
  obtain ⟨hready, rfl⟩ := verifyPrerm_eq_ok h
  have hforked : .forked record.txid record.dpkg ∈ s.events :=
    hs.honest.truthful .ready record hready
  have hverified : .verified record.txid ∉ s.events := by
    intro hmem
    have hspent := hs.honest.spent _ hmem
    rw [hready] at hspent
    exact hspent rfl
  have howned : Owned s.files record.txid := by
    obtain ⟨t, ht⟩ := hs.owned
    have hbelongs := ht.evidence .ready
    rw [hready] at hbelongs
    obtain rfl : record.txid = t := hbelongs
    exact ht
  refine hs.enter (fun _ => howned) ?_ ?_ (fun _ hrecord => nomatch hrecord)
  · simp only [writeCreate, List.forall_mem_append, List.forall_mem_cons, List.not_mem_nil,
      false_implies, implies_true, and_true]
    exact ⟨⟨⟨rfl, nofun⟩, rfl, nofun, List.mem_cons_of_mem _ hforked, List.mem_cons_self⟩, trivial⟩
  · rintro _ ⟨⟩
    exact ⟨hverified, hs.known _ _ hforked, by simp, by simp⟩

theorem fine_closing {world : World} {record : Record} {args : FinalizeArgs} {files : Files}
    {events : List Event} (htxid : record.txid = args.txid) :
    ∀ effect ∈ closing world record files, Fine (.finalize args) events effect := by
  intro effect heffect
  simp only [closing, cleanup, List.mem_cons, List.mem_append, List.mem_map,
    List.not_mem_nil, or_false] at heffect
  rcases heffect with rfl | (heffect | ⟨e, -, rfl⟩) | rfl | rfl
  · trivial
  · split at heffect
    · obtain rfl := List.mem_singleton.mp heffect
      trivial
    · cases heffect
  · trivial
  · trivial
  · exact htxid

theorem Invariant.finalize (hs : Invariant s) {world : World} {args : FinalizeArgs}
    {effects : List Effect} (h : finalize world args s.files = .ok effects) :
    Invariant { s with critical := some ⟨.finalize args, effects⟩ } := by
  have howned : ∀ e r, s.files.evidence e = .whole r → r.txid = args.txid →
      Owned s.files args.txid := by
    intro e r hr htxid
    obtain ⟨t, ht⟩ := hs.owned
    have hbelongs := ht.evidence e
    rw [hr] at hbelongs
    obtain rfl : t = args.txid := hbelongs.symm.trans htxid
    exact ht
  rcases finalize_eq_ok h with rfl | ⟨record, hrecord, htxid, rfl⟩ | ⟨record, hrecord, rfl⟩
  · exact hs.enter (fun hne => absurd rfl hne) (fun _ heffect => nomatch heffect)
      (fun _ hrecord => nomatch hrecord) (fun _ hrecord => nomatch hrecord)
  · exact hs.enter (fun _ => howned _ _ hrecord htxid) (fine_closing htxid)
      (fun _ hrecord => nomatch hrecord) (fun _ hrecord => nomatch hrecord)
  · obtain ⟨intent, hintent, hintenttxid, htxid, hproof⟩ := settle_eq_ok hrecord
    have hproved : record.settlement = some .dpkgExitZero → Proved s.events record.txid := by
      intro hsettlement
      obtain ⟨done, hdone, hsame, hexit⟩ := hproof hsettlement
      obtain ⟨hforked, hconsumed⟩ := hs.honest.truthful .intent intent hintent
      have hexited := hs.honest.truthful .done done hdone 0 hexit
      have hdonetxid : done.txid = intent.txid := congrArg Identity.txid hsame
      have hdpkg : done.dpkg = intent.dpkg := congrArg Identity.dpkg hsame
      rw [hdonetxid, hdpkg] at hexited
      rw [htxid, ← hintenttxid]
      exact ⟨intent.dpkg, hforked, hconsumed, hexited⟩
    refine hs.enter (fun _ => howned _ _ hintent hintenttxid) ?_
      (fun _ hrecord => nomatch hrecord) (fun _ hrecord => nomatch hrecord)
    simp only [writeCreate, List.forall_mem_append, List.forall_mem_cons, List.not_mem_nil,
      false_implies, implies_true, and_true]
    exact ⟨⟨⟨htxid, nofun⟩, htxid, nofun, hproved⟩, fine_closing htxid⟩

theorem Invariant.logged (hs : Invariant s) (owner : Section) (effect : Effect) :
    Invariant { s with events := logged owner effect s.events } := by
  unfold ProfileReplacement.logged
  split
  · exact hs.log (fun _ _ h => nomatch h) (fun _ h => nomatch h)
  · exact hs

theorem Invariant.effect (hs : Invariant s) {owner : Section} {e : Effect} {rest : List Effect}
    {files : Files} (hcritical : s.critical = some ⟨owner, e :: rest⟩)
    (h : e.apply s.files = some files) :
    Invariant { s with files := files, critical := some ⟨owner, rest⟩,
                       events := ProfileReplacement.logged owner e s.events } := by
  have hfine := hs.fine _ hcritical
  have howned := (hs.critical _ hcritical (List.cons_ne_nil _ _)).apply
    (hfine e List.mem_cons_self) h
  have hlogged := hs.logged owner e
  exact
    { hlogged with
      owned := ⟨_, howned⟩
      critical := by
        rintro _ ⟨⟩ -
        exact howned
      fine := by
        rintro _ ⟨⟩ effect heffect
        exact hlogged.fine _ hcritical effect (List.mem_cons_of_mem _ heffect)
      honest := hs.honest.apply (hs.critical _ hcritical (List.cons_ne_nil _ _))
        (hfine e List.mem_cons_self) h
      verifying := by
        rintro record rest' hc
        obtain ⟨rfl, rfl⟩ : owner = .verifyPrerm record ∧ rest = rest' := by simpa using hc
        obtain ⟨hverified, hused, -, hlast⟩ := hlogged.verifying record _ hcritical
        refine ⟨hverified, hused, fun hnil => ?_, fun effect heffect => hlast effect ?_⟩
        · -- the unlink of READY is the last effect
          subst hnil
          obtain rfl : e = .unlink .ready := hlast e rfl
          obtain ⟨-, rfl⟩ : s.files.lexists .ready ∧ s.files.put .ready .absent = files := by
            simpa [Effect.apply] using h
          rw [put_self]
          exact fun hcarries => hcarries
        · obtain ⟨init, hinit⟩ := List.getLast?_eq_some_iff.mp heffect
          rw [hinit, ← List.cons_append, List.getLast?_concat]
          rfl
      preparing := by
        rintro record rest' hc
        obtain ⟨rfl, rfl⟩ : owner = .prepare record ∧ rest = rest' := by simpa using hc
        exact hlogged.preparing record _ hcritical }

theorem Invariant.leave (hs : Invariant s) {owner : Section}
    (hcritical : s.critical = some ⟨owner, []⟩) : Invariant (s.leave owner) := by
  cases owner with
  | prepare record =>
    refine hs.stop.replace fun x hx => ?_
    rcases List.mem_cons.mp hx with rfl | hx
    · exact ⟨hs.preparing record [] hcritical, fun _ hrc => nomatch hrc⟩
    · exact hs.executors x hx
  | recordDone record => exact hs.stop
  | finalize args => exact hs.stop
  | verifyPrerm record =>
    obtain ⟨hverified, hused, hready, -⟩ := hs.verifying record [] hcritical
    have hmem : ∀ {event}, event ∈ Event.verified record.txid :: s.events →
        event = .verified record.txid ∨ event ∈ s.events := List.mem_cons.mp
    have hforked : ∀ {t c}, .forked t c ∈ Event.verified record.txid :: s.events →
        .forked t c ∈ s.events := fun h => (hmem h).resolve_left nofun
    have hmore : s.events ⊆ .verified record.txid :: s.events := List.subset_cons_self _ _
    exact
      { owned := hs.owned
        critical := fun _ hc => nomatch hc
        fine := fun _ hc => nomatch hc
        honest :=
          { truthful := fun e r hr => (hs.honest.truthful e r hr).mono hmore
            archived := fun t r hr => ⟨(hs.honest.archived t r hr).1, fun hsettlement =>
              ((hs.honest.archived t r hr).2 hsettlement).mono hmore⟩
            spent := by
              intro t ht
              rcases hmem ht with ht | ht
              · obtain rfl : t = record.txid := by simpa using ht
                exact hready rfl
              · exact hs.honest.spent t ht }
        executors := fun x hx => ⟨hmore (hs.executors x hx).1, fun rc hrc =>
          hmore ((hs.executors x hx).2 rc hrc)⟩
        child := fun t c c' h h' => hs.child t c c' (hforked h) (hforked h')
        known := fun t c h => hs.known t c (hforked h)
        used := by
          intro t ht
          rcases hmem ht with ht | ht
          · obtain rfl : t = record.txid := by simpa using ht
            exact hused
          · exact hs.used t ht
        once := by
          intro t
          by_cases ht : t = record.txid
          · subst ht
            rw [State.leave, List.count_cons_self, List.count_eq_zero_of_not_mem hverified]
          · have hne : Event.verified record.txid ≠ .verified t := by simpa using Ne.symm ht
            rw [State.leave, List.count_cons_of_ne hne]
            exact hs.once t
        verifying := fun _ _ hc => nomatch hc
        preparing := fun _ _ hc => nomatch hc }

theorem Invariant.exit (hs : Invariant s) {before after : List Executor} {record : Record}
    {rc : Int} (hexecutor : s.executors = before ++ ⟨record, none⟩ :: after) :
    Invariant { s with executors := before ++ ⟨record, some rc⟩ :: after,
                       events := .exited record.txid record.dpkg rc :: s.events } := by
  have hlogged : Invariant { s with events := .exited record.txid record.dpkg rc :: s.events } :=
    hs.log nofun nofun
  have hlives := hlogged.executors
  simp only [hexecutor, List.forall_mem_append, List.forall_mem_cons] at hlives
  obtain ⟨hbefore, ⟨hforked, -⟩, hafter⟩ := hlives
  refine hlogged.replace ?_
  simp only [List.forall_mem_append, List.forall_mem_cons]
  refine ⟨hbefore, ⟨hforked, ?_⟩, hafter⟩
  rintro _ ⟨⟩
  exact List.mem_cons_self

theorem Invariant.step {s' : State} (hs : Invariant s) (h : Step s s') : Invariant s' := by
  cases h with
  | prepare _ hfresh h => exact hs.prepare hfresh h
  | recordDone _ hexecutor h => exact hs.recordDone hexecutor h
  | verifyPrerm _ h => exact hs.verifyPrerm h
  | finalize _ h => exact hs.finalize h
  | effect hcritical h => exact hs.effect hcritical h
  | leave hcritical => exact hs.leave hcritical
  | stop => exact hs.stop
  | exit rc hexecutor => exact hs.exit hexecutor
  | vanish hexecutor =>
    refine hs.replace fun x hx => hs.executors x ?_
    rw [hexecutor]
    exact (List.sublist_cons_self _ _).append_left _ |>.subset hx

theorem reachable_invariant (h : Reachable s) : Invariant s := by
  induction h with
  | refl => exact invariant_initial
  | tail _ hstep ih => exact ih.step hstep

/-- All evidence and the candidate belong to one transaction. An archived settlement by exit code
has its consumption and its exit. A settlement removes files of its own transaction only, and an
authorization is verified once. -/
theorem evidence_honest (h : Reachable s) :
    (∃ txid, (∀ e, Belongs txid (s.files.evidence e)) ∧
      ∀ t, s.files.candidate = some t → t = txid) ∧
    (∀ t r, s.files.archive t = some r → r.txid = t ∧ (r.settlement = some .dpkgExitZero →
      ∃ child, .forked t child ∈ s.events ∧ .consumed t child ∈ s.events ∧
        .exited t child 0 ∈ s.events)) ∧
    (∀ args e rest files, s.critical = some ⟨.finalize args, e :: rest⟩ →
      e.apply s.files = some files →
        (∀ x, files.evidence x = .absent → Belongs args.txid (s.files.evidence x)) ∧
        (files.candidate = none → ∀ t, s.files.candidate = some t → t = args.txid)) ∧
    ∀ t, s.events.count (.verified t) ≤ 1 := by
  have hs := reachable_invariant h
  obtain ⟨txid, howned⟩ := hs.owned
  refine ⟨⟨txid, howned.evidence, howned.candidate⟩, hs.honest.archived, ?_, hs.once⟩
  intro args e rest files hcritical _
  have hargs : Owned s.files args.txid := hs.critical _ hcritical (List.cons_ne_nil _ _)
  exact ⟨fun x _ => hargs.evidence x, fun _ => hargs.candidate⟩

end

/-! ## An execution that stops behind the creation of READY -/

def zeros : Nat → String := fun n => String.ofList (List.replicate n '0')

def sampleWorld : World where
  host := "pve1"
  bootId := "boot"
  now := 0
  isRegular := fun _ => true
  sha256 := fun _ => zeros 64
  candidateField := fun _ field => match field with
    | "Package" => some "pve-sharedlvmthin-thick"
    | "Version" => some "1.0"
    | _ => some "all"
  installed := fun _ => none
  procStart := fun _ => .gone

def sampleArgs : ExecuteArgs where
  candidate := "/root/candidate.deb"
  sha256 := zeros 64
  sourcePackage := "pve-sharedlvmthin"
  sourceVersion := "1.0"
  targetPackage := "pve-sharedlvmthin-thick"
  targetVersion := "1.0"

def sampleRecord : Record where
  schema := schema
  phase := .ready
  txid := zeros 32
  created := 0
  host := "pve1"
  bootId := "boot"
  sourcePackage := "pve-sharedlvmthin"
  sourceVersion := "1.0"
  sourceFlavor := "dual"
  targetPackage := "pve-sharedlvmthin-thick"
  targetVersion := "1.0"
  targetFlavor := "thick-only"
  candidate := pinned
  candidateSha256 := zeros 64
  dpkg := ⟨2, "1"⟩

theorem sample_prepared : prepare sampleWorld sampleArgs (zeros 32) ⟨2, "1"⟩ State.initial.files =
    .ok (sampleRecord, .createCandidate (zeros 32) ::
      .require true "pinned candidate digest changed" :: writeCreate .ready sampleRecord) := by
  rfl

/-- READY is created and not yet written. -/
def readyCreated : State where
  files := (⟨fun _ => .absent, some (zeros 32), fun _ => none⟩ : Files).put .ready
    (.torn (zeros 32))
  critical := some ⟨.prepare sampleRecord, [.fill .ready sampleRecord]⟩
  executors := []
  used := [zeros 32]
  events := [.forked (zeros 32) ⟨2, "1"⟩]

theorem reachable_readyCreated : Reachable readyCreated := by
  have hprepared : Reachable _ :=
    Relation.ReflTransGen.single (Step.prepare rfl List.not_mem_nil sample_prepared)
  have hpinned : Reachable _ := hprepared.tail (.effect rfl rfl)
  have hrequired : Reachable _ := hpinned.tail (.effect rfl rfl)
  exact hrequired.tail (.effect rfl rfl)

theorem evidence_honest_readyCreated :
    (∃ txid, ∀ e, Belongs txid (readyCreated.files.evidence e)) ∧
      ∀ t, readyCreated.events.count (.verified t) ≤ 1 := by
  have h := evidence_honest reachable_readyCreated
  exact ⟨h.1.imp fun _ h => h.1, h.2.2.2⟩

theorem created_evidence_without_transaction : ¬ ∀ s, Reachable s →
    ∃ txid, ∀ e, s.files.lexists e →
      ∃ record, s.files.evidence e = .whole record ∧ record.txid = txid := by
  intro h
  obtain ⟨_, hcarried⟩ := h readyCreated reachable_readyCreated
  obtain ⟨record, hrecord, -⟩ := hcarried .ready rfl
  cases hrecord

end SharedLvmThin.ProfileReplacement
