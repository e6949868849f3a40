import SharedLvmThin.ProfileClosure

/-! Which replacements can be closed. A run never leaves evidence of a transaction that it has
archived, so the archive slot of whatever is left is free. -/

namespace SharedLvmThin.ProfileReplacement
open Perl

/-! ## A section to its end -/

section
variable {world : World} {policy : Policy} {files files' : Files} {record : Record}
  {effects : List Effect} {txid : String}

theorem performAll_append {first second : List Effect} (h : performAll files first = .ok files') :
    performAll files (first ++ second) = performAll files' second := by
  induction first generalizing files with
  | nil =>
    cases h
    rfl
  | cons e rest ih =>
    simp only [List.cons_append, performAll] at h ⊢
    cases happly : e.apply files with
    | none =>
      rw [happly] at h
      cases h
    | some after =>
      rw [happly] at h
      exact ih h

theorem performAll_require {holds : Bool} {message : String} (hholds : holds = true) :
    performAll files (.require holds message :: effects) = performAll files effects := by
  rw [hholds]
  rfl

theorem performAll_writeCreate {e : Evidence} (habsent : files.evidence e = .absent) :
    performAll files (writeCreate e record) = .ok (files.put e (.whole record)) := by
  have hlexists : files.lexists e = false := not_lexists_iff.mpr habsent
  have hcreated : (files.put e (.torn record.txid)).lexists e = true := by
    rw [Files.lexists, put_self]
    rfl
  have hput : (files.put e (.torn record.txid)).put e (.whole record) =
      files.put e (.whole record) := by
    simp [Files.put]
  simp [writeCreate, performAll, Effect.apply, hlexists, hcreated, hput]

/-- The evidence that a cleanup unlinks. -/
theorem performAll_unlinks (list : List Evidence) (hnodup : list.Nodup)
    (hpresent : ∀ e ∈ list, files.lexists e = true) :
    performAll files (list.map .unlink) = .ok
      { files with evidence := fun e => if e ∈ list then .absent else files.evidence e } := by
  induction list generalizing files with
  | nil => simp [performAll]
  | cons first rest ih =>
    obtain ⟨hfresh, hnodup⟩ := List.nodup_cons.mp hnodup
    have hrest : ∀ e ∈ rest, (files.put first .absent).lexists e = true := by
      intro e he
      have hne : e ≠ first := fun heq => hfresh (heq ▸ he)
      rw [Files.lexists, put_other hne]
      exact hpresent e (List.mem_cons_of_mem _ he)
    simp only [List.map_cons, performAll, Effect.apply, hpresent first List.mem_cons_self, if_true]
    rw [ih hnodup hrest]
    congr 2
    funext e
    by_cases he : e = first
    · subst he
      simp [Files.put]
    · simp [Files.put, he, Function.update_of_ne]

theorem performAll_unlinkCandidate (hcandidate : files'.candidate = files.candidate) :
    performAll files' (if files.candidate.isSome then [.unlinkCandidate] else []) =
      .ok { files' with candidate := none } := by
  cases hpinned : files.candidate with
  | none =>
    rw [hpinned] at hcandidate
    simp only [Option.isSome_none, Bool.false_eq_true, if_false, performAll]
    rw [← hcandidate]
  | some _ => rfl

/-- A cleanup that was planned on the files as they were before COMPLETE closes them. -/
theorem performAll_cleanup (hcomplete : files'.evidence .complete = .whole record)
    (hothers : ∀ e, e ≠ .complete → files'.evidence e = files.evidence e)
    (hcandidate : files'.candidate = files.candidate) (harchive : files.archive txid = none) :
    ∃ after, performAll files' (cleanup txid files) = .ok after ∧ Closed after := by
  have hmem : ∀ e, e ∈ ([.intent, .done, .ready] : List Evidence).filter files.lexists ↔
      e ≠ .complete ∧ files.lexists e = true := by
    intro e
    cases e <;> simp
  have hpresent : ∀ e ∈ ([.intent, .done, .ready] : List Evidence).filter files.lexists,
      ({ files' with candidate := none } : Files).lexists e = true := by
    intro e he
    obtain ⟨hne, hlexists⟩ := (hmem e).mp he
    rwa [Files.lexists, hothers e hne]
  have hunlinks := performAll_unlinks _ ((by decide : ([.intent, .done, .ready] :
    List Evidence).Nodup).filter files.lexists) hpresent
  rw [cleanup, List.append_assoc, performAll_append (performAll_unlinkCandidate hcandidate),
    performAll_append hunlinks, performAll_require (by rw [harchive]; rfl)]
  have hkept : Evidence.complete ∉ ([.intent, .done, .ready] : List Evidence).filter files.lexists :=
    fun h => ((hmem _).mp h).1 rfl
  simp only [performAll, Effect.apply, if_neg hkept, hcomplete]
  refine ⟨_, rfl, fun e => ?_, rfl⟩
  by_cases he : e = .complete
  · subst he
    simp [Files.put]
  · simp only [Files.put, Function.update_of_ne he]
    split
    · rfl
    · rename_i hout
      have hlexists : files.lexists e = false := by
        by_contra h
        exact hout ((hmem e).mpr ⟨he, by simpa using h⟩)
      rw [hothers e he]
      exact not_lexists_iff.mp hlexists

/-! ## Closing what can be closed -/

theorem validateShape_isTxid {phase : Phase} {extras : List String}
    (h : validateShape world record phase extras = .ok ()) : isTxid record.txid = true := by
  simp only [validateShape, bind_eq_ok, dieIf_eq_ok, exists_and_left, exists_unit,
    Bool.not_eq_false'] at h
  exact h.2.2.1

theorem validateComplete_isTxid (h : validateComplete world record = .ok ()) :
    isTxid record.txid = true := by
  simp only [validateComplete, bind_eq_ok, exists_unit] at h
  exact validateShape_isTxid h.2.1

theorem isInstalledExact_congr {r : Record} (h : r.toIdentity = record.toIdentity) :
    isInstalledExact world r = isInstalledExact world record := by
  have htarget : r.targetPackage = record.targetPackage := congrArg Identity.targetPackage h
  have hversion : r.targetVersion = record.targetVersion := congrArg Identity.targetVersion h
  have hsource : r.sourcePackage = record.sourcePackage := congrArg Identity.sourcePackage h
  simp only [isInstalledExact, htarget, hversion, hsource]

def argsOf (record : Record) : FinalizeArgs where
  targetPackage := record.targetPackage
  targetVersion := record.targetVersion
  candidateSha256 := record.candidateSha256
  txid := record.txid
  recovery := true

theorem isSettlementOf_argsOf {r : Record} (h : r.toIdentity = record.toIdentity) :
    isSettlementOf (argsOf record) r = true := by
  have htxid : r.txid = record.txid := congrArg Identity.txid h
  have htarget : r.targetPackage = record.targetPackage := congrArg Identity.targetPackage h
  have hversion : r.targetVersion = record.targetVersion := congrArg Identity.targetVersion h
  have hcandidate : r.candidateSha256 = record.candidateSha256 :=
    congrArg Identity.candidateSha256 h
  simp [isSettlementOf, argsOf, htxid, htarget, hversion, hcandidate]

theorem closable_of_run {command : Command} (h : ∃ after,
    command.run world policy files = .ok after ∧ Closed after) : Closable world policy files := by
  obtain ⟨after, hrun, hclosed⟩ := h
  refine ⟨[command], after, ?_, hclosed⟩
  simp [runAll, hrun, bind, Except.bind]

theorem run_finalize {args : FinalizeArgs} (h : finalize world args files = .ok effects) :
    (Command.finalize args).run world policy files = performAll files effects := by
  simp [Command.run, h, bind, Except.bind]

theorem closable_of_closed (h : Closed files) : Closable world policy files := ⟨[], files, rfl, h⟩

theorem Completes.closable (h : Completes world files record)
    (harchive : files.archive record.txid = none) : Closable world policy files := by
  have hlexists : files.lexists .complete = true := by
    rw [Files.lexists, h.whole]
    rfl
  have hfinalize : finalize world (argsOf record) files = .ok (closing world record files) := by
    have harchive' : files.archive (argsOf record).txid = none := harchive
    have htxid : isTxid (argsOf record).txid = true := validateComplete_isTxid h.valid
    simp [finalize, htxid, harchive', hlexists, h.whole, readRecord, h.valid, dieIf, bind,
      Except.bind, isSettlementOf_argsOf, closing, pure, Except.pure]
  refine @closable_of_run _ _ _ (.finalize (argsOf record)) ?_
  rw [run_finalize hfinalize, closing, performAll_require h.installed]
  exact performAll_cleanup h.whole (fun _ _ => rfl) rfl harchive

/-- The COMPLETE record of a settlement keeps the identity of its INTENT. -/
theorem Settles.settle {intent : Record} (h : Settles world files intent)
    (hdead : executorIsAlive world intent = .ok false) :
    ∃ record, settle world (argsOf intent) files = .ok record ∧
      record.toIdentity = intent.toIdentity := by
  have hsettlement : isSettlementOf (argsOf intent) intent = true := isSettlementOf_argsOf rfl
  have hrecovery : (argsOf intent).recovery = true := rfl
  unfold ProfileReplacement.settle
  rcases h.exit with hdone | ⟨done, hdone, hshape, hsame, hexit⟩
  · have hlexists : files.lexists .done = false := not_lexists_iff.mpr hdone
    refine ⟨{ intent with phase := .complete, completed := some world.now,
                          settlement := some .recoveredExactTarget }, ?_, rfl⟩
    simp [h.whole, readRecord, h.shape, hsettlement, hrecovery, h.candidate, h.installed, hlexists,
      hdead, dieIf, bind, Except.bind, pure, Except.pure]
  · have hlexists : files.lexists .done = true := by
      rw [Files.lexists, hdone]
      rfl
    refine ⟨{ done with phase := .complete, completed := some world.now,
                        settlement := some .dpkgExitZero }, ?_, hsame.symm⟩
    have hshape' : validateShape world done .dpkgDone ["consumed", "dpkg_completed", "dpkg_exit"] =
        .ok () := hshape
    simp [h.whole, readRecord, h.shape, hsettlement, hrecovery, h.candidate, h.installed, hlexists,
      hdone, hshape', hsame, hexit, dieIf, bind, Except.bind, pure, Except.pure]

/-- Writing COMPLETE and cleaning up behind it. -/
theorem performAll_complete (hincomplete : files.evidence .complete = .absent)
    (harchive : files.archive txid = none) :
    ∃ after, performAll files (writeCreate .complete record ++ cleanup txid files) = .ok after ∧
      Closed after := by
  rw [performAll_append (performAll_writeCreate hincomplete)]
  refine performAll_cleanup put_self (fun e he => put_other he) rfl harchive

theorem Settles.closable {intent : Record} (h : Settles world files intent)
    (harchive : files.archive intent.txid = none)
    (hdead : executorIsAlive world intent = .ok false) : Closable world policy files := by
  obtain ⟨record, hsettle, hsame⟩ := h.settle hdead
  have hlexists : files.lexists .complete = false := not_lexists_iff.mpr h.incomplete
  have htxid : record.txid = intent.txid := congrArg Identity.txid hsame
  have hfinalize : finalize world (argsOf intent) files =
      .ok (writeCreate .complete record ++ closing world record files) := by
    have harchive' : files.archive (argsOf intent).txid = none := harchive
    have htxid' : isTxid (argsOf intent).txid = true := validateShape_isTxid h.shape
    simp [finalize, htxid', harchive', hlexists, hsettle, dieIf, bind, Except.bind, closing, pure,
      Except.pure]
  refine @closable_of_run _ _ _ (.finalize (argsOf intent)) ?_
  rw [run_finalize hfinalize, closing, performAll_append (performAll_writeCreate h.incomplete),
    performAll_require ((isInstalledExact_congr hsame).trans h.installed),
    ← performAll_append (performAll_writeCreate h.incomplete)]
  exact performAll_complete h.incomplete (htxid ▸ harchive)

theorem Supersedes.closable {packageTxid : String} {snapshot : Snapshot}
    (h : Supersedes world policy files packageTxid snapshot record)
    (harchive : files.archive record.txid = none)
    (hdead : executorIsAlive world record = .ok false) : Closable world policy files := by
  refine @closable_of_run _ _ _
    (.finalizeClosedProfileEvidence packageTxid record.txid true) ?_
  have hintent : ∃ intent, files.evidence .intent = .whole intent := by
    have hfragment := h.fragments .intent List.mem_cons_self
    unfold checkFragment at hfragment
    cases hfile : files.evidence .intent with
    | absent => exact absurd hfile h.consumed
    | torn t =>
      rw [hfile] at hfragment
      cases hfragment
    | whole intent => exact ⟨intent, rfl⟩
  obtain ⟨intent, hintent⟩ := hintent
  have hfragments := (@forEach_eq_ok String Evidence [.intent, .done, .ready]
    (checkFragment world files record "superseded cleanup fragment proof changed") ()).mpr
    h.fragments
  have hsuperseded : archiveSuperseded world policy snapshot record.txid files =
      .ok (writeCreate .complete
        { record with phase := .complete, completed := some world.now } ++
          cleanup record.txid files) := by
    simp [archiveSuperseded, h.incomplete, harchive, readJson, h.whole, h.shape, h.exit, h.ordered,
      h.next, h.version, hdead, hintent, hfragments, h.candidate, dieIf, bind, Except.bind, pure,
      Except.pure]
  have htxid := validateShape_isTxid h.shape
  have hrun : (Command.finalizeClosedProfileEvidence packageTxid record.txid true).run world policy
      files = performAll files (writeCreate .complete
        { record with phase := .complete, completed := some world.now } ++
          cleanup record.txid files) := by
    simp [Command.run, h.package, htxid, h.proof, hsuperseded, dieIf, bind, Except.bind]
  rw [hrun]
  exact performAll_complete h.incomplete harchive

/-! ## What a command requires -/

theorem holds_of_performAll {holds : Bool} {message : String} {after : Files}
    (h : performAll files (.require holds message :: effects) = .ok after) : holds = true := by
  cases holds with
  | true => rfl
  | false => cases h

theorem settles_of_settle {args : FinalizeArgs} (h : settle world args files = .ok record)
    (hincomplete : files.evidence .complete = .absent) :
    ∃ intent, Settles world files intent := by
  unfold settle at h
  simp only [bind_eq_ok, dieIf_eq_ok, exists_and_left, exists_unit, readRecord_eq_ok,
    Bool.not_eq_false'] at h
  obtain ⟨intent, hintent, hshape, -, -, hcandidate, hinstalled, h⟩ := h
  refine ⟨intent, hincomplete, hintent, hshape, hcandidate, hinstalled, ?_⟩
  split at h
  · simp only [bind_eq_ok, dieIf_eq_ok, exists_and_left, exists_unit, readRecord_eq_ok, pure_eq_ok,
      decide_eq_false_iff_not, ne_eq, not_not] at h
    obtain ⟨done, hdone, hdoneshape, hsame, hexit, -⟩ := h
    exact .inr ⟨done, hdone, hdoneshape, hsame, hexit⟩
  · rename_i hlexists
    exact .inl (not_lexists_iff.mp (by simpa using hlexists))

theorem finalize_requires {args : FinalizeArgs} {after : Files}
    (h : finalize world args files = .ok effects) (hrun : performAll files effects = .ok after) :
    after = files ∨ (∃ r, Completes world files r) ∨ ∃ r, Settles world files r := by
  unfold finalize at h
  simp only [bind_eq_ok, dieIf_eq_ok, exists_and_left, exists_unit] at h
  obtain ⟨-, h⟩ := h
  split at h
  · simp only [bind_eq_ok, dieIf_eq_ok, exists_and_left, exists_unit, pure_eq_ok] at h
    rw [← h.2.2.2] at hrun
    cases hrun
    exact .inl rfl
  · simp only [bind_eq_ok, dieIf_eq_ok, exists_and_left, exists_unit, pure_eq_ok, readRecord_eq_ok,
      Bool.not_eq_false'] at h
    obtain ⟨record, hrecord, hvalid, -, rfl⟩ := h
    exact .inr (.inl ⟨record, hrecord, hvalid, holds_of_performAll hrun⟩)
  · rename_i hlexists
    simp only [bind_eq_ok, pure_eq_ok] at h
    obtain ⟨record, hsettle, -⟩ := h
    exact .inr (.inr (settles_of_settle hsettle (not_lexists_iff.mp hlexists)))

theorem closeExact_requires {snapshot : Snapshot} {after : Files}
    (h : closeExact world policy snapshot txid files = .ok after) :
    ∃ effects, finalize world (exactArgs snapshot.completed txid) files = .ok effects ∧
      performAll files effects = .ok after := by
  unfold closeExact at h
  simp only [bind_eq_ok, dieIf_eq_ok, exists_and_left, exists_unit, pure_eq_ok] at h
  obtain ⟨_, -, -, _, -, _, -, -, -, effects, hfinalize, _, hperform, _, -, -, rfl⟩ := h
  exact ⟨effects, hfinalize, hperform⟩

theorem readJson_none {file : File} : readJson file = .ok none ↔ file = .absent := by
  cases file <;> simp [readJson]

theorem readJson_some {file : File} : readJson file = .ok (some record) ↔ file = .whole record := by
  cases file <;> simp [readJson]

theorem archiveSuperseded_requires {packageTxid : String} {snapshot : Snapshot}
    (h : archiveSuperseded world policy snapshot txid files = .ok effects)
    (hpackage : isTxid packageTxid = true) (hproof : policy.proof packageTxid = .ok snapshot) :
    ∃ record, Supersedes world policy files packageTxid snapshot record := by
  unfold archiveSuperseded at h
  simp only [bind_eq_ok] at h
  obtain ⟨complete, hcomplete, h⟩ := h
  split at h
  · cases h
  · simp only [bind_eq_ok] at h
    obtain ⟨_, -, h⟩ := h
    cases h
  · simp only [bind_eq_ok] at h
    obtain ⟨_, -, h⟩ := h
    cases h
  · simp only [bind_eq_ok] at h
    obtain ⟨done, hdone, h⟩ := h
    split at h
    · cases h
    · rename_i record
      simp only [bind_eq_ok, dieIf_eq_ok, exists_and_left, exists_unit, pure_eq_ok,
        Bool.or_eq_false_iff, Bool.not_eq_false', decide_eq_false_iff_not, ne_eq, not_not] at h
      obtain ⟨hshape, ⟨⟨-, hexit⟩, hordered⟩, hnext, hversion, -, -, -, intent, hintent, hsome,
        hfragments, hcandidate, -⟩ := h
      have hconsumed : files.evidence .intent ≠ .absent := by
        intro habsent
        rw [habsent] at hintent
        exact hsome (Except.ok.inj hintent).symm
      exact ⟨record, readJson_none.mp hcomplete, readJson_some.mp hdone, hshape, hexit, hordered,
        hconsumed, forEach_eq_ok.mp hfragments, hcandidate, hpackage, hproof, hnext, hversion⟩

/-- The states that a sequence of commands can close. -/
inductive Settleable (world : World) (policy : Policy) (files : Files) : Prop
  | closed (h : Closed files)
  | completes (record : Record) (h : Completes world files record)
  | settles (intent : Record) (h : Settles world files intent)
  | supersedes (packageTxid : String) (snapshot : Snapshot) (record : Record)
      (h : Supersedes world policy files packageTxid snapshot record)

theorem run_requires {command : Command} {after : Files}
    (h : command.run world policy files = .ok after) :
    after = files ∨ Settleable world policy files := by
  have hfinalize : ∀ args effects, finalize world args files = .ok effects →
      performAll files effects = .ok after → after = files ∨ Settleable world policy files := by
    intro args effects hfinalize hperform
    rcases finalize_requires hfinalize hperform with h | ⟨r, h⟩ | ⟨r, h⟩
    · exact .inl h
    · exact .inr (.completes r h)
    · exact .inr (.settles r h)
  cases command with
  | finalize args =>
    simp only [Command.run, bind_eq_ok] at h
    obtain ⟨effects, heffects, hperform⟩ := h
    exact hfinalize _ effects heffects hperform
  | finalizeClosedProfileEvidence packageTxid txid superseded =>
    simp only [Command.run, bind_eq_ok, dieIf_eq_ok, exists_and_left, exists_unit,
      Bool.or_eq_false_iff, Bool.not_eq_false'] at h
    obtain ⟨⟨hpackage, -⟩, snapshot, hproof, h⟩ := h
    split at h
    · simp only [bind_eq_ok] at h
      obtain ⟨effects, heffects, -⟩ := h
      obtain ⟨record, hrecord⟩ := archiveSuperseded_requires heffects hpackage hproof
      exact .inr (.supersedes packageTxid snapshot record hrecord)
    · obtain ⟨effects, heffects, hperform⟩ := closeExact_requires h
      exact hfinalize _ effects heffects hperform

/-- The induction is on the commands; one that changes nothing leaves its files to the next. -/
theorem settleable_of_runAll {commands : List Command} {after : Files}
    (h : runAll world policy files commands = .ok after) (hclosed : Closed after) :
    Settleable world policy files := by
  induction commands generalizing files with
  | nil =>
    cases h
    exact .closed hclosed
  | cons command rest ih =>
    simp only [runAll, bind_eq_ok] at h
    obtain ⟨next, hrun, hrest⟩ := h
    rcases run_requires hrun with rfl | hsettleable
    · exact ih hrest
    · exact hsettleable

end

/-! ## What is archived has left no evidence -/

def Effect.Writes (e : Evidence) : Effect → Prop
  | .create x _ => x = e
  | .fill x _ => x = e
  | _ => False

/-- A section archives last, behind the removal of all other evidence. -/
structure Planned (files : Files) (effects : List Effect) : Prop where
  unlinked : ∀ t, .archive t ∈ effects → ∀ e, e ≠ .complete →
    files.evidence e = .absent ∨ .unlink e ∈ effects
  writes : ∀ t, .archive t ∈ effects → ∀ effect ∈ effects, ∀ e, effect.Writes e → e = .complete
  last : ∀ before t after, effects = before ++ .archive t :: after → after = []

structure Filed (s : State) : Prop where
  used : ∀ e t, Carries t (s.files.evidence e) → t ∈ s.used
  owner : ∀ c, s.critical = some c → c.rest ≠ [] → c.owner.txid ∈ s.used
  archived : ∀ t, s.files.archive t ≠ none → t ∈ s.used ∧ ∀ e, ¬ Carries t (s.files.evidence e)
  writing : ∀ c, s.critical = some c → ∀ effect ∈ c.rest, ∀ e, effect.Writes e →
    s.files.archive c.owner.txid = none
  planned : ∀ c, s.critical = some c → Planned s.files c.rest

section
variable {files files' : Files} {effects rest : List Effect} {effect : Effect} {record : Record}
  {world : World} {s s' : State}

theorem planned_of_no_archive (h : ∀ t, .archive t ∉ effects) : Planned files effects where
  unlinked := fun t ht => absurd ht (h t)
  writes := fun t ht => absurd ht (h t)
  last := by
    intro before t after heq
    exact absurd (heq ▸ List.mem_append_right _ List.mem_cons_self) (h t)

theorem append_archive_inj {before list after : List Effect} {t txid : String}
    (hlist : ∀ t, .archive t ∉ list) (h : list ++ [.archive txid] = before ++ .archive t :: after) :
    after = [] := by
  obtain rfl | ⟨after', last, rfl⟩ := after.eq_nil_or_concat
  · rfl
  · rw [List.concat_eq_append, ← List.cons_append, ← List.append_assoc] at h
    obtain ⟨hfront, -⟩ := List.append_inj' h rfl
    exact absurd (hfront ▸ List.mem_append_right _ List.mem_cons_self) (hlist t)

/-- A settlement before its archival. -/
def removals (world : World) (record : Record) (files : Files) : List Effect :=
  .require (isInstalledExact world record) "target package is not exactly installed" ::
    ((if files.candidate.isSome then [.unlinkCandidate] else []) ++
      (([.intent, .done, .ready] : List Evidence).filter files.lexists).map .unlink ++
        [.require (files.archive record.txid).isNone "transaction archive already exists"])

theorem closing_eq : closing world record files =
    removals world record files ++ [.archive record.txid] := by
  simp [closing, cleanup, removals]

theorem mem_removals (h : effect ∈ removals world record files) :
    (∃ holds message, effect = .require holds message) ∨ effect = .unlinkCandidate ∨
      ∃ e, effect = .unlink e := by
  simp only [removals, List.mem_cons, List.mem_append, List.mem_map, List.not_mem_nil,
    or_false] at h
  rcases h with rfl | (h | ⟨e, -, rfl⟩) | rfl
  · exact .inl ⟨_, _, rfl⟩
  · split at h
    · exact .inr (.inl (List.mem_singleton.mp h))
    · cases h
  · exact .inr (.inr ⟨e, rfl⟩)
  · exact .inl ⟨_, _, rfl⟩

theorem closing_writes (h : effect ∈ closing world record files) (e : Evidence) :
    ¬ effect.Writes e := by
  rw [closing_eq, List.mem_append, List.mem_singleton] at h
  rcases h with h | rfl
  · rcases mem_removals h with ⟨_, _, rfl⟩ | rfl | ⟨_, rfl⟩ <;> exact id
  · exact id

theorem archive_notMem_removals (t : String) : .archive t ∉ removals world record files := by
  intro h
  rcases mem_removals h with ⟨_, _, h⟩ | h | ⟨_, h⟩ <;> cases h

/-- The removals of a settlement, and COMPLETE before them where it is not yet written. -/
theorem planned_closing {front : List Effect} (hfront : front = [] ∨
    front = writeCreate .complete record) :
    Planned files (front ++ closing world record files) := by
  have hfrontArchive : ∀ t, .archive t ∉ front := by
    rcases hfront with rfl | rfl <;> simp [writeCreate]
  have hfrontWrites : ∀ effect ∈ front, ∀ e, effect.Writes e → e = .complete := by
    rcases hfront with rfl | rfl
    · simp
    · simp [writeCreate, Effect.Writes, eq_comm]
  refine ⟨fun t _ e he => ?_, fun t _ effect heffect e hwrites => ?_, fun before t after h => ?_⟩
  · by_cases hlexists : files.lexists e = true
    · have hmem : e ∈ ([.intent, .done, .ready] : List Evidence) := by
        cases e with
        | complete => exact absurd rfl he
        | _ => decide
      refine .inr (List.mem_append_right _ (List.mem_cons_of_mem _ ?_))
      refine List.mem_append_left _ (List.mem_append_right _ (List.mem_map_of_mem ?_))
      exact List.mem_filter.mpr ⟨hmem, hlexists⟩
    · exact .inl (not_lexists_iff.mp (by simpa using hlexists))
  · rcases List.mem_append.mp heffect with h | h
    · exact hfrontWrites effect h e hwrites
    · exact absurd hwrites (closing_writes h e)
  · rw [closing_eq, ← List.append_assoc] at h
    refine append_archive_inj (fun t ht => ?_) h
    rcases List.mem_append.mp ht with ht | ht
    · exact hfrontArchive t ht
    · exact archive_notMem_removals t ht

/-- What one effect does to evidence and archive. -/
inductive Does (files : Files) (effect : Effect) (files' : Files) : Prop
  | nothing (hevidence : files'.evidence = files.evidence) (harchive : files'.archive = files.archive)
      (hunlink : ∀ e, effect ≠ .unlink e) (h : ∀ t, effect ≠ .archive t)
  | writes (e : Evidence) (file : File) (hwrites : effect.Writes e) (h : files' = files.put e file)
      (hfile : ∀ t, Carries t file → effect = .create e t ∨ ∃ r, effect = .fill e r ∧ r.txid = t)
  | unlinks (e : Evidence) (heffect : effect = .unlink e) (h : files' = files.put e .absent)
  | archives (t : String) (heffect : effect = .archive t)
      (hevidence : files'.evidence = (files.put .complete .absent).evidence)
      (harchive : ∀ t', files'.archive t' ≠ none → files.archive t' ≠ none ∨ t' = t)

theorem apply_does (h : effect.apply files = some files') : Does files effect files' := by
  cases effect with
  | createCandidate t =>
    obtain ⟨-, rfl⟩ : files.candidate.isNone ∧ { files with candidate := some t } = files' := by
      simpa [Effect.apply] using h
    exact .nothing rfl rfl (by simp) (by simp)
  | create e t =>
    obtain ⟨-, rfl⟩ : files.lexists e = false ∧ files.put e (.torn t) = files' := by
      simpa [Effect.apply] using h
    exact .writes e _ rfl rfl fun t' ht' => .inl (by rw [show t = t' from ht'])
  | fill e r =>
    obtain ⟨-, rfl⟩ : files.lexists e ∧ files.put e (.whole r) = files' := by
      simpa [Effect.apply] using h
    exact .writes e _ rfl rfl fun t' ht' => .inr ⟨r, rfl, ht'⟩
  | unlink e =>
    obtain ⟨-, rfl⟩ : files.lexists e ∧ files.put e .absent = files' := by
      simpa [Effect.apply] using h
    exact .unlinks e rfl rfl
  | unlinkCandidate =>
    obtain rfl : { files with candidate := none } = files' := by simpa [Effect.apply] using h
    exact .nothing rfl rfl (by simp) (by simp)
  | archive t =>
    cases hcomplete : files.evidence .complete with
    | absent => simp [Effect.apply, hcomplete] at h
    | torn t' => simp [Effect.apply, hcomplete] at h
    | whole r =>
      simp only [Effect.apply, hcomplete, Option.some.injEq] at h
      subst h
      refine .archives t rfl rfl fun t' ht' => ?_
      by_cases heq : t' = t
      · exact .inr heq
      · exact .inl (by simpa [Function.update_of_ne heq, Files.put] using ht')
  | require holds message =>
    obtain ⟨-, rfl⟩ : holds = true ∧ files = files' := by simpa [Effect.apply] using h
    exact .nothing rfl rfl (by simp) (by simp)

theorem Planned.tail (h : Planned files (effect :: rest)) (happly : effect.apply files = some files') :
    Planned files' rest := by
  refine ⟨fun t ht e he => ?_, fun t ht x hx => ?_, fun before t after heq => ?_⟩
  · have hmem := List.mem_cons_of_mem effect ht
    have hold := h.unlinked t hmem e he
    cases apply_does happly with
    | nothing hevidence _ hunlink _ =>
      rw [hevidence]
      exact hold.imp_right fun h => (List.mem_cons.mp h).resolve_left (hunlink e).symm
    | writes x file hwrites hfiles _ =>
      have hx : x = .complete := h.writes t hmem effect List.mem_cons_self x hwrites
      rw [hfiles, put_other (hx ▸ he)]
      refine hold.imp_right fun h => (List.mem_cons.mp h).resolve_left fun heq => ?_
      subst heq
      exact hwrites
    | unlinks x heffect hfiles =>
      by_cases hx : e = x
      · left
        rw [hfiles, hx, put_self]
      · rw [hfiles, put_other hx]
        refine hold.imp_right fun h => (List.mem_cons.mp h).resolve_left fun heq => hx ?_
        rw [heffect] at heq
        exact Effect.unlink.inj heq
    | archives t' heffect hevidence _ =>
      rw [hevidence, put_other he]
      refine hold.imp_right fun h => (List.mem_cons.mp h).resolve_left fun heq => ?_
      rw [heffect] at heq
      cases heq
  · exact h.writes t (List.mem_cons_of_mem _ ht) x (List.mem_cons_of_mem _ hx)
  · exact h.last (effect :: before) t after (by rw [heq, List.cons_append])

theorem filed_initial : Filed State.initial where
  used := fun _ _ h => nomatch h
  owner := fun _ h => nomatch h
  archived := fun _ h => absurd rfl h
  writing := fun _ h => nomatch h
  planned := fun _ h => nomatch h

/-- Whoever writes evidence writes it for its own transaction. -/
theorem carries_owner {owner : Section} {events : List Event} {e : Evidence} {t : String}
    (hfine : Fine owner events effect)
    (hfile : effect = .create e t ∨ ∃ r, effect = .fill e r ∧ r.txid = t) : t = owner.txid := by
  rcases hfile with rfl | ⟨r, rfl, rfl⟩
  · exact hfine.1
  · exact hfine.1

theorem carries_put {e x : Evidence} {file : File} {t : String}
    (h : Carries t ((files.put e file).evidence x)) :
    (x = e ∧ Carries t file) ∨ Carries t (files.evidence x) := by
  by_cases hx : x = e
  · subst hx
    rw [put_self] at h
    exact .inl ⟨rfl, h⟩
  · rw [put_other hx] at h
    exact .inr h

/-- Once COMPLETE is moved nothing is left of its transaction. -/
theorem archived_gone {t : String} {x : Evidence} (hplanned : Planned files [.archive t])
    (happly : (Effect.archive t).apply files = some files') : ¬ Carries t (files'.evidence x) := by
  intro hx
  cases apply_does happly with
  | nothing _ _ _ h => exact h t rfl
  | writes _ _ hwrites _ _ => exact hwrites
  | unlinks _ heffect _ => cases heffect
  | archives _ _ hevidence _ =>
    rw [hevidence] at hx
    by_cases hcomplete : x = .complete
    · subst hcomplete
      rw [put_self] at hx
      exact hx
    · rw [put_other hcomplete] at hx
      rcases hplanned.unlinked t List.mem_cons_self x hcomplete with habsent | hunlink
      · rw [habsent] at hx
        exact hx
      · cases List.mem_singleton.mp hunlink

theorem Filed.apply (hs : Filed s) (hinv : Invariant s) {owner : Section}
    (hcritical : s.critical = some ⟨owner, effect :: rest⟩)
    (happly : effect.apply s.files = some files) :
    Filed { s with files := files, critical := some ⟨owner, rest⟩,
                   events := logged owner effect s.events } := by
  have hfine : Fine owner s.events effect := hinv.fine _ hcritical effect List.mem_cons_self
  have hused : owner.txid ∈ s.used := hs.owner _ hcritical (List.cons_ne_nil _ _)
  have hplanned : Planned s.files (effect :: rest) := hs.planned _ hcritical
  have hlast : ∀ t, effect = .archive t → rest = [] := fun t ht =>
    hplanned.last [] t rest (by rw [ht, List.nil_append])
  have hcarries : ∀ x t, Carries t (files.evidence x) → t = owner.txid ∧ (∃ e, effect.Writes e) ∨
      Carries t (s.files.evidence x) := by
    intro x t ht
    cases apply_does happly with
    | nothing hevidence _ _ _ => exact .inr (hevidence ▸ ht)
    | writes e file hwrites hfiles hfile =>
      rcases carries_put (hfiles ▸ ht) with ⟨-, ht⟩ | ht
      · exact .inl ⟨carries_owner hfine (hfile t ht),
          e, hwrites⟩
      · exact .inr ht
    | unlinks e _ hfiles =>
      rcases carries_put (hfiles ▸ ht) with ⟨-, ht⟩ | ht
      · exact ht.elim
      · exact .inr ht
    | archives t' _ hevidence _ =>
      rcases carries_put (hevidence ▸ ht) with ⟨-, ht⟩ | ht
      · exact ht.elim
      · exact .inr ht
  have hwriting : ∀ e, effect.Writes e → s.files.archive owner.txid = none := fun e he =>
    hs.writing _ hcritical effect List.mem_cons_self e he
  have harchive : ∀ t, files.archive t ≠ none →
      s.files.archive t ≠ none ∨ effect = .archive t := by
    intro t ht
    cases apply_does happly with
    | nothing _ harchive _ _ => exact .inl (harchive ▸ ht)
    | writes e file _ hfiles _ =>
      subst hfiles
      exact .inl ht
    | unlinks e _ hfiles =>
      subst hfiles
      exact .inl ht
    | archives t' heffect _ harchive =>
      exact (harchive t ht).imp_right fun h => by rw [h, heffect]
  refine ⟨fun x t ht => ?_, fun c hc _ => ?_, fun t ht => ?_, fun c hc x hx e he => ?_,
    fun c hc => ?_⟩
  · rcases hcarries x t ht with ⟨rfl, -⟩ | h
    · exact hused
    · exact hs.used x t h
  · obtain rfl := Option.some.inj hc
    exact hused
  · rcases harchive t ht with hold | heffect
    · obtain ⟨htused, hgone⟩ := hs.archived t hold
      refine ⟨htused, fun x hx => ?_⟩
      rcases hcarries x t hx with ⟨rfl, e, he⟩ | hx
      · exact hold (hwriting e he)
      · exact hgone x hx
    · have htxid : t = owner.txid := by
        rw [heffect] at hfine
        exact hfine
      refine ⟨htxid ▸ hused, fun x hx => ?_⟩
      exact archived_gone (heffect ▸ hlast t heffect ▸ hplanned) (heffect ▸ happly) hx
  · obtain rfl := Option.some.inj hc
    by_contra hfull
    rcases harchive _ hfull with hold | heffect
    · exact hold (hs.writing ⟨owner, effect :: rest⟩ hcritical x (List.mem_cons_of_mem _ hx) e he)
    · rw [hlast _ heffect] at hx
      cases hx
  · obtain rfl := Option.some.inj hc
    exact hplanned.tail happly

/-- A section starts for a transaction that is not archived. -/
theorem Filed.enter (hs : Filed s) {owner : Section} {used : List String}
    {executors : List Executor} {events : List Event} (hused : s.used ⊆ used)
    (howner : effects ≠ [] → owner.txid ∈ used)
    (hwriting : ∀ x ∈ effects, ∀ e, x.Writes e → s.files.archive owner.txid = none)
    (hplanned : Planned s.files effects) :
    Filed { files := s.files, critical := some ⟨owner, effects⟩, executors := executors,
            used := used, events := events } where
  used := fun e t h => hused (hs.used e t h)
  owner := by
    intro c hc hne
    obtain rfl := Option.some.inj hc
    exact howner hne
  archived := fun t h => ⟨hused (hs.archived t h).1, (hs.archived t h).2⟩
  writing := by
    intro c hc
    obtain rfl := Option.some.inj hc
    exact hwriting
  planned := by
    intro c hc
    obtain rfl := Option.some.inj hc
    exact hplanned

theorem Filed.idle (hs : Filed s) {executors : List Executor} {events : List Event} :
    Filed { files := s.files, critical := none, executors := executors, used := s.used,
            events := events } where
  used := hs.used
  owner := fun _ h => nomatch h
  archived := hs.archived
  writing := fun _ h => nomatch h
  planned := fun _ h => nomatch h

theorem Filed.keep (hs : Filed s) {executors : List Executor} {events : List Event} :
    Filed { s with executors := executors, events := events } :=
  ⟨hs.used, hs.owner, hs.archived, hs.writing, hs.planned⟩

theorem Filed.free (hs : Filed s) {e : Evidence} {r : Record}
    (h : s.files.evidence e = .whole r) : r.txid ∈ s.used ∧ s.files.archive r.txid = none := by
  have hcarries : Carries r.txid (s.files.evidence e) := by
    rw [h]
    rfl
  refine ⟨hs.used e _ hcarries, ?_⟩
  by_contra hfull
  exact (hs.archived _ hfull).2 e hcarries

theorem archive_notMem_writeCreate {e : Evidence} {t : String} :
    Effect.archive t ∉ writeCreate e record := by
  simp [writeCreate]

theorem Filed.step (hs : Filed s) (hinv : Invariant s) (h : Step s s') : Filed s' := by
  cases h with
  | @prepare world args txid child record effects hfree hfresh h =>
    obtain ⟨-, -, htxid, -, rfl⟩ := prepare_eq_ok h
    have howner : (Section.prepare record).txid = txid := htxid
    refine hs.enter (List.subset_cons_self _ _) (fun _ => howner ▸ List.mem_cons_self) ?_ ?_
    · intro _ _ _ _
      rw [howner]
      by_contra hfull
      exact hfresh (hs.archived txid hfull).1
    · exact planned_of_no_archive (by simp [writeCreate])
  | @recordDone world before after record rc effects hfree hexecutor h =>
    obtain ⟨active, current, -, hcurrent, htxid, rfl⟩ := recordDone_eq_ok h
    obtain ⟨hused, hfreeSlot⟩ := hs.free hcurrent
    have howner : (Section.recordDone record).txid = current.txid := htxid.symm
    refine hs.enter (List.Subset.refl _) (fun _ => howner ▸ hused) (fun _ _ _ _ => howner ▸ hfreeSlot)
      (planned_of_no_archive fun t ht => ?_)
    rcases List.mem_append.mp ht with ht | ht
    · exact archive_notMem_writeCreate ht
    · split at ht
      · cases List.mem_singleton.mp ht
      · cases ht
  | @verifyPrerm world args ancestors record effects hfree h =>
    obtain ⟨hready, rfl⟩ := verifyPrerm_eq_ok h
    obtain ⟨hused, hfreeSlot⟩ := hs.free hready
    refine hs.enter (List.Subset.refl _) (fun _ => hused) (fun _ _ _ _ => hfreeSlot)
      (planned_of_no_archive fun t ht => ?_)
    rcases List.mem_append.mp ht with ht | ht
    · exact archive_notMem_writeCreate ht
    · cases List.mem_singleton.mp ht
  | @finalize world args effects hfree h =>
    rcases finalize_eq_ok h with rfl | ⟨record, hcomplete, htxid, rfl⟩ | ⟨record, hsettle, rfl⟩
    · exact hs.enter (List.Subset.refl _) (fun h => absurd rfl h)
        (fun _ h => absurd h List.not_mem_nil)
        (planned_of_no_archive fun _ h => absurd h List.not_mem_nil)
    · obtain ⟨hused, -⟩ := hs.free hcomplete
      exact hs.enter (List.Subset.refl _) (fun _ => show args.txid ∈ s.used from htxid ▸ hused)
        (fun x hx e he => absurd he (closing_writes hx e)) (planned_closing (.inl rfl))
    · obtain ⟨intent, hintent, htxid, -, -⟩ := settle_eq_ok hsettle
      obtain ⟨hused, hfreeSlot⟩ := hs.free hintent
      exact hs.enter (List.Subset.refl _) (fun _ => show args.txid ∈ s.used from htxid ▸ hused)
        (fun _ _ _ _ => show s.files.archive args.txid = none from htxid ▸ hfreeSlot)
        (planned_closing (.inr rfl))
  | effect hcritical h => exact hs.apply hinv hcritical h
  | @leave owner hcritical =>
    cases owner <;> exact hs.idle
  | stop => exact hs.idle
  | exit rc hexecutor => exact hs.keep
  | vanish hexecutor => exact hs.keep

theorem reachable_filed (h : Reachable s) : Filed s := by
  induction h with
  | refl => exact filed_initial
  | tail hprevious hstep ih => exact ih.step (reachable_invariant hprevious) hstep

/-- After a closing `prepare` refuses nothing that it would not refuse on a new node. -/
theorem Closed.prepare_eq (h : Closed files) (args : ExecuteArgs) (txid : String) (child : Child) :
    prepare world args txid child files =
      prepare world args txid child State.initial.files := by
  have hlexists : ∀ e, files.lexists e = false := fun e => not_lexists_iff.mpr (h.evidence e)
  have hinitial : ∀ e, State.initial.files.lexists e = false := fun _ => rfl
  have hcandidate : State.initial.files.candidate = none := rfl
  simp only [prepare, hlexists, hinitial, h.candidate, hcandidate]

/-- Whatever a run leaves can be closed exactly when it is settled, or superseded by closed
packages: a transaction that was not consumed, that failed or whose evidence is torn stays. -/
theorem replacement_closable_iff {policy : Policy} (h : Reachable s)
    (hdead : ∀ e r, s.files.evidence e = .whole r → executorIsAlive world r = .ok false) :
    (Closable world policy s.files ↔ Settleable world policy s.files) ∧
      ∀ after, Closed after → ∀ args txid child, prepare world args txid child after =
        prepare world args txid child State.initial.files := by
  have hs := reachable_filed h
  refine ⟨⟨fun ⟨commands, after, hrun, hclosed⟩ => settleable_of_runAll hrun hclosed, ?_⟩,
    fun after hclosed => hclosed.prepare_eq⟩
  intro hsettleable
  cases hsettleable with
  | closed h => exact closable_of_closed h
  | completes record h => exact h.closable (hs.free h.whole).2
  | settles intent h => exact h.closable (hs.free h.whole).2 (hdead _ _ h.whole)
  | supersedes packageTxid snapshot record h =>
    exact h.closable (hs.free h.whole).2 (hdead _ _ h.whole)

end

/-! ## A replacement that was consumed and one whose dpkg failed -/

/-- The authorization is written and the executor waits for its dpkg. -/
def dispatched : State where
  files := (⟨fun _ => .absent, some (zeros 32), fun _ => none⟩ : Files).put .ready
    (.whole sampleRecord)
  critical := none
  executors := [⟨sampleRecord, none⟩]
  used := [zeros 32]
  events := [.forked (zeros 32) ⟨2, "1"⟩]

theorem reachable_dispatched : Reachable dispatched := by
  have hfilled := reachable_readyCreated.tail (.effect rfl rfl)
  have hleft := hfilled.tail (.leave rfl)
  have heq : (readyCreated.files.put .ready (.whole sampleRecord)) = dispatched.files := by
    simp [readyCreated, dispatched, Files.put]
  change Reachable { dispatched with files := readyCreated.files.put .ready (.whole sampleRecord) }
    at hleft
  rwa [heq] at hleft

def failedDone : Record :=
  { sampleRecord with phase := .dpkgDone, dpkgCompleted := some 0, dpkgExit := some 1 }

/-- dpkg failed before its prerm ran. -/
def failedFiles : Files :=
  (dispatched.files.put .done (.whole failedDone)).put .ready .absent

/-- A section that nothing interrupts. -/
theorem Reachable.perform {s : State} {owner : Section} {effects : List Effect} {files : Files}
    (h : Reachable s) (hcritical : s.critical = some ⟨owner, effects⟩)
    (hperform : performAll s.files effects = .ok files) :
    ∃ events, Reachable { s with files := files, critical := some ⟨owner, []⟩, events := events } := by
  induction effects generalizing s with
  | nil =>
    cases hperform
    exact ⟨s.events, by rwa [← hcritical]⟩
  | cons e rest ih =>
    simp only [performAll] at hperform
    cases happly : e.apply s.files with
    | none =>
      rw [happly] at hperform
      cases hperform
    | some after =>
      rw [happly] at hperform
      have hnext : Reachable _ := h.tail (.effect hcritical happly)
      have hlast := ih hnext rfl hperform
      exact hlast

theorem reachable_failed : ∃ s, Reachable s ∧ s.files = failedFiles := by
  have hexited := reachable_dispatched.tail (@Step.exit _ [] [] sampleRecord 1 rfl)
  have hrecorded : Reachable _ := hexited.tail
    (@Step.recordDone _ sampleWorld [] [] sampleRecord 1 _ rfl rfl rfl)
  have hperform : performAll dispatched.files
      (writeCreate .done failedDone ++ [.unlink .ready]) = .ok failedFiles := by
    rw [performAll_append (performAll_writeCreate rfl)]
    rfl
  obtain ⟨events, hdone⟩ := hrecorded.perform rfl hperform
  exact ⟨_, hdone, rfl⟩

/-- The evidence of a failed dpkg stays, whatever the world and the update policy answer. -/
theorem failed_not_closable : ∃ s, Reachable s ∧
    (∀ e r, s.files.evidence e = .whole r → executorIsAlive sampleWorld r = .ok false) ∧
      ∀ world policy, ¬ Closable world policy s.files := by
  obtain ⟨s, hs, hfiles⟩ := reachable_failed
  have hready : failedFiles.evidence .ready = .absent := rfl
  have hintent : failedFiles.evidence .intent = .absent := rfl
  have hdone : failedFiles.evidence .done = .whole failedDone := rfl
  have hcomplete : failedFiles.evidence .complete = .absent := rfl
  refine ⟨s, hs, ?_⟩
  rw [hfiles]
  refine ⟨fun e r hr => ?_, fun world policy ⟨commands, after, hrun, hclosed⟩ => ?_⟩
  · cases e with
    | done =>
      obtain rfl := File.whole.inj (hdone.symm.trans hr)
      rfl
    | ready => cases hready.symm.trans hr
    | intent => cases hintent.symm.trans hr
    | complete => cases hcomplete.symm.trans hr
  · cases settleable_of_runAll hrun hclosed with
    | closed h => cases (h.evidence .done).symm.trans hdone
    | completes record h => cases h.whole.symm.trans hcomplete
    | settles intent h => cases h.whole.symm.trans hintent
    | supersedes packageTxid snapshot record h => exact h.consumed hintent

def consumedIntent : Record := { sampleRecord with phase := .prermIntent, consumed := some 0 }

/-- The prerm consumed the authorization. -/
def consumedFiles : Files :=
  (dispatched.files.put .intent (.whole consumedIntent)).put .ready .absent

def dpkgAncestor : Ancestor where
  process := ⟨2, "1"⟩
  executable := "/usr/bin/dpkg"
  cmdline := ["/usr/bin/dpkg", "--force-hold", "-i", pinned]

theorem reachable_consumed : ∃ s, Reachable s ∧ s.files = consumedFiles := by
  have hverified : Reachable _ := reachable_dispatched.tail
    (@Step.verifyPrerm _ sampleWorld ⟨"pve-sharedlvmthin", "1.0", "remove"⟩ [dpkgAncestor]
      sampleRecord _ rfl rfl)
  have hperform : performAll dispatched.files
      (writeCreate .intent consumedIntent ++ [.unlink .ready]) = .ok consumedFiles := by
    rw [performAll_append (performAll_writeCreate rfl)]
    rfl
  obtain ⟨events, hconsumed⟩ := hverified.perform rfl hperform
  exact ⟨_, hconsumed, rfl⟩

/-- dpkg installed the target and its executor is gone. -/
def replacedWorld : World :=
  { sampleWorld with
    installed := fun name => if name = "pve-sharedlvmthin-thick" then some ("ii", "1.0") else none }

theorem consumed_closable : ∃ s, Reachable s ∧ s.files = consumedFiles ∧
    ∀ policy, Closable replacedWorld policy s.files := by
  obtain ⟨s, hs, hfiles⟩ := reachable_consumed
  have hready : consumedFiles.evidence .ready = .absent := rfl
  have hintent : consumedFiles.evidence .intent = .whole consumedIntent := rfl
  have hdone : consumedFiles.evidence .done = .absent := rfl
  have hcomplete : consumedFiles.evidence .complete = .absent := rfl
  have hdead : ∀ e r, s.files.evidence e = .whole r →
      executorIsAlive replacedWorld r = .ok false := by
    rw [hfiles]
    intro e r hr
    cases e with
    | intent =>
      obtain rfl := File.whole.inj (hintent.symm.trans hr)
      rfl
    | ready => cases hready.symm.trans hr
    | done => cases hdone.symm.trans hr
    | complete => cases hcomplete.symm.trans hr
  refine ⟨s, hs, hfiles, fun policy => (replacement_closable_iff hs hdead).1.mpr ?_⟩
  rw [hfiles]
  exact .settles consumedIntent ⟨hcomplete, hintent, rfl, rfl, rfl, .inl hdone⟩

end SharedLvmThin.ProfileReplacement
