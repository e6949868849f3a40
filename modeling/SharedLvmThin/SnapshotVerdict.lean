import SharedLvmThin.SnapshotObserver

/-! The verdict of the snapshot observer against the configuration, when every other probe of the
host succeeds and agrees with itself. -/

namespace SharedLvmThin.SnapshotObserver
open Perl Python KeyedLists

/-! ## The claim -/

/-- One sample of a VM that is idle: it runs, or it may be stopped. -/
structure Idle (mode : Mode) (p : SampleProbes) (running : Bool) : Prop where
  status : ∃ out, p.status = .ok out ∧ running = decide (strip out = "status: running")
  allowed : running = true ∨ mode = .diskOnly
  native : ∃ sha256, p.native = .ok sha256
  process : running = true →
    ∃ process, p.processBefore = .ok process ∧ p.processAfter = .ok process
  qmp : running = true → ∃ q, p.qmp = .ok q ∧ classifyQmp q.savevm = .ok "IDLE_OBSERVED" ∧
    q.jobsBefore = .list [] ∧ q.jobsAfter = .list [] ∧
    Python.Json.same (runstateOf q.runstate) (runstateOf q.runstate) = true

/-- The task ended well, both samples are equal and idle, and the vmstate is inventoried once. -/
structure Healthy (r : Request) (p : Probes) (text : String) : Prop where
  isLocal : p.isLocal = true
  host : p.host = .ok ()
  task : ∃ task, p.task = .ok task ∧ (taskField task "id" "UNKNOWN").text = r.vmid ∧
    (taskField task "type" "UNKNOWN").isText "qmsnapshot" = true ∧
    (taskField task "status" "UNKNOWN").isText "stopped" = true ∧
    (taskField task "exitstatus" "UNAVAILABLE").isText "OK" = true
  equal : p.second = p.first
  config : p.first.config = .ok text.toUTF8
  idle : ∃ running, Idle r.mode p.first running
  vmstate : ∀ lines volid, namedSections r.snapname text = [lines] → vmstatesOf lines = [volid] →
    vmstateIdentity p.vmstate volid = .ok ()

def Closed : Mode → List Line → Prop
  | .ram => RamClosed
  | .diskOnly => DiskClosed

/-- There is one section of the name and it closes the snapshot. -/
def Closes (r : Request) (text : String) : Prop :=
  ∃ lines, namedSections r.snapname text = [lines] ∧ Closed r.mode lines

def Follows (r : Request) (p : Probes) (text : String) : Prop :=
  ∃ v, observe r p = .ok v ∧ (v.result = .observedClosed ↔ Closes r text) ∧
    (¬ Closes r text → v.result = .recoveryRequired)

/-! ## The configuration -/

theorem readSnapshotConfig_text {name text : String} (hsize : text.toUTF8.size ≤ maxConfigBytes) :
    readSnapshotConfig name text.toUTF8 =
      match namedSections name text with
      | [lines] => .ok (readSection text.toUTF8 lines)
      | sections => .ok (.five text.toUTF8 sections.length) := by
  have hdecode : String.fromUTF8? text.toUTF8 = some text := by
    rw [String.toUTF8_eq_toByteArray, String.fromUTF8?, dif_pos text.isValidUTF8]
    rfl
  have hscan := (@scan_sections name ((splitlines text).zipIdx 1) ⟨[], none⟩).1 (by simp)
  rw [readSnapshotConfig, decide_eq_false (not_lt.mpr hsize), hdecode]
  simp only [hscan, List.nil_append]
  rw [← namedSections]
  show (match namedSections name text with | [lines] => _ | sections => _) = _
  cases namedSections name text with
  | nil => rfl
  | cons lines rest => cases rest <;> rfl

theorem mtuItem_isNic {item nic : String} (h : mtuItem item = some nic) : isNic nic = true := by
  unfold mtuItem at h
  dsimp only at h
  split at h
  · rename_i hitem
    obtain rfl := Option.some.inj h
    exact hitem.1
  · cases h

theorem records_isNic {value : String} {names : List String} (h : Records value names) :
    ∀ nic ∈ names, isNic nic = true := by
  intro nic hnic
  have hmem : some nic ∈ (split ',' value).map mtuItem := by
    rw [h.1]
    exact List.mem_map_of_mem hnic
  obtain ⟨item, _, hitem⟩ := List.mem_map.mp hmem
  exact mtuItem_isNic hitem

theorem virtioOf_isNic {lines : List Line} : ∀ nic ∈ virtioOf lines, isNic nic = true := by
  intro nic hnic
  obtain ⟨entry, hentry, rfl⟩ := List.mem_map.mp hnic
  obtain ⟨line, _, hline⟩ := List.mem_filterMap.mp (List.mem_of_mem_filter hentry)
  unfold nicOf at hline
  dsimp only at hline
  split at hline
  · rename_i hisNic
    obtain ⟨_, _, rfl⟩ := Option.map_eq_some_iff.mp hline
    exact hisNic
  · cases hline

theorem not_records_empty {names : List String} : ¬ Records "" names := by
  intro h
  have hitems : (split ',' "").map mtuItem = [none] := by decide +kernel
  have hnames := hitems.symm.trans h.1
  cases names with
  | nil => cases hnames
  | cons nic names => cases hnames

/-- Two texts of sorted devices are equal exactly when the devices are. -/
theorem commaSeparated_eq_iff {l l' : List String} (hl : ∀ nic ∈ l, isNic nic = true)
    (hl' : ∀ nic ∈ l', isNic nic = true) : commaSeparated l = commaSeparated l' ↔ l = l' := by
  constructor
  · intro h
    refine join_inj (fun f hf => isNic_plain (hl f hf)) (fun f hf => isNic_plain (hl' f hf)) ?_
    exact String.ofList_injective h
  · exact congrArg commaSeparated

/-- What a sample of the one section says. -/
structure Reads (lines : List Line) (s : Sample) : Prop where
  sectionCount : s.sectionCount = 1
  vmstates : s.vmstates.map Prod.snd = vmstatesOf lines
  mtuLineCount : s.mtuLineCount = (mtusOf lines).length
  emptyMtu : s.emptyMtu = [] ↔ "" ∉ mtusOf lines
  expectedMtu : s.expectedMtu = sortBy id (virtioOf lines)
  recordedMtu : ∀ value, mtusOf lines = [value] → value ≠ "" →
    ∃ recorded malformed, readItems [] (split ',' value) = (recorded, malformed) ∧
      s.recordedMtu = sortBy id recorded ∧
      (s.malformedMtu = false ↔ malformed = false ∧ ((nicsOf lines).map Prod.fst).Nodup)

theorem recordedMtu_single {mtuLines : List (ℕ × String)} {value : String}
    (h : mtuLines.map Prod.snd = [value]) (hvalue : value ≠ "") :
    SnapshotObserver.recordedMtu mtuLines = readItems [] (split ',' value) := by
  obtain ⟨line, rfl, rfl⟩ := List.map_eq_singleton_iff.mp h
  rw [SnapshotObserver.recordedMtu, if_pos hvalue]

theorem sameMembers_iff_sortBy {names nics : List String} (hnames : names.Nodup)
    (hnics : nics.Nodup) :
    (∀ nic, nic ∈ names ↔ nic ∈ nics) ↔ sortBy id nics = sortBy id names := by
  rw [sortBy_eq_iff (by simpa using hnics), List.perm_ext_iff_of_nodup hnics hnames]
  exact forall_congr' fun nic => Iff.comm

/-! ## The verdict on the configuration -/

/-- The chain closes when no refusal applies. -/
theorem refusal_closed {bad : Prop} [Decidable bad] {reason : String} {v : Verdict} :
    (if bad then recovery reason else v) = closed ↔ ¬ bad ∧ v = closed := by
  by_cases h : bad
  · rw [if_pos h]
    refine iff_of_false ?_ fun hv => hv.1 h
    intro hr
    cases congrArg Verdict.result hr
  · rw [if_neg h]
    exact ⟨fun hv => ⟨h, hv⟩, And.right⟩

theorem refusal_result {bad : Prop} [Decidable bad] {reason : String} {v : Verdict}
    (h : v = closed ∨ v.result = .recoveryRequired) :
    (if bad then recovery reason else v) = closed ∨
      (if bad then recovery reason else v).result = .recoveryRequired := by
  split
  · exact .inr rfl
  · exact h

theorem configVerdict_result (mode : Mode) (s : Sample) :
    configVerdict mode s = closed ∨ (configVerdict mode s).result = .recoveryRequired := by
  have hmtu : mtuVerdict mode s = closed ∨ (mtuVerdict mode s).result = .recoveryRequired := by
    cases mode with
    | ram => exact refusal_result (refusal_result (refusal_result (.inl rfl)))
    | diskOnly => exact refusal_result (.inl rfl)
  exact refusal_result (refusal_result (refusal_result hmtu))

section
variable {lines : List Line} {s : Sample}

theorem vmstates_length (h : Reads lines s) : s.vmstates.length = (vmstatesOf lines).length := by
  rw [← h.vmstates, List.length_map]

theorem ram_closed_iff (h : Reads lines s) :
    configVerdict .ram s = closed ↔ RamClosed lines := by
  have hchain : configVerdict .ram s = closed ↔ (vmstatesOf lines).length = 1 ∧
      (mtusOf lines).length = 1 ∧ s.malformedMtu = false ∧ s.emptyMtu = [] ∧
      commaSeparated s.expectedMtu ≠ "" ∧
      commaSeparated s.expectedMtu = commaSeparated s.recordedMtu := by
    simp only [configVerdict, mtuVerdict, refusal_closed, h.sectionCount, vmstates_length h,
      h.mtuLineCount]
    simp [and_assoc]
  have hempty : commaSeparated s.expectedMtu ≠ "" ↔ virtioOf lines ≠ [] := by
    have hnil := @commaSeparated_eq_iff s.expectedMtu []
      (by rw [h.expectedMtu]; intro nic hnic; exact virtioOf_isNic nic (mem_sortBy.mp hnic))
      (fun nic hnic => nomatch hnic)
    rw [show commaSeparated [] = "" from rfl, h.expectedMtu, sortBy_eq_nil] at hnil
    rw [h.expectedMtu]
    exact not_congr hnil
  rw [hchain, hempty]
  constructor
  · rintro ⟨hvmstate, hmtu, hmalformed, hblank, hvirtio, hequal⟩
    obtain ⟨value, hvalue⟩ := List.length_eq_one_iff.mp hmtu
    have hset : value ≠ "" := by
      rintro rfl
      exact h.emptyMtu.mp hblank (by rw [hvalue]; exact List.mem_singleton_self _)
    obtain ⟨recorded, malformed, hread, hrecorded, hformed⟩ := h.recordedMtu value hvalue hset
    obtain ⟨hgood, hdistinct⟩ := hformed.mp hmalformed
    subst hgood
    obtain ⟨names, hitems, hnames, hout⟩ := (readItems_spec List.nodup_nil).mp hread
    simp only [List.nil_append] at hnames hout
    subst hout
    have hrecords : Records value recorded := ⟨hitems, hnames⟩
    rw [h.expectedMtu, hrecorded, commaSeparated_eq_iff
      (fun nic hnic => virtioOf_isNic nic (mem_sortBy.mp hnic))
      (fun nic hnic => records_isNic hrecords nic (mem_sortBy.mp hnic))] at hequal
    exact ⟨List.length_eq_one_iff.mp hvmstate, hdistinct, hvirtio, value, recorded, hvalue,
      hrecords,
      (sameMembers_iff_sortBy hnames (virtioOf_nodup hdistinct)).mpr hequal⟩
  · rintro ⟨hvmstate, hdistinct, hvirtio, value, names, hvalue, hrecords, hmembers⟩
    have hset : value ≠ "" := by
      rintro rfl
      exact not_records_empty hrecords
    obtain ⟨recorded, malformed, hread, hrecorded, hformed⟩ := h.recordedMtu value hvalue hset
    have hgood : readItems [] (split ',' value) = (names, false) :=
      (readItems_spec List.nodup_nil).mpr ⟨names, hrecords.1, by simpa using hrecords.2, by simp⟩
    obtain ⟨rfl, rfl⟩ := Prod.mk.inj (hread.symm.trans hgood)
    have hequal := (sameMembers_iff_sortBy hrecords.2 (virtioOf_nodup hdistinct)).mp hmembers
    refine ⟨List.length_eq_one_iff.mpr hvmstate, by rw [hvalue]; rfl, hformed.mpr ⟨rfl, hdistinct⟩,
      h.emptyMtu.mpr ?_, hvirtio, by rw [h.expectedMtu, hrecorded, hequal]⟩
    rw [hvalue, List.mem_singleton]
    exact hset.symm

theorem diskOnly_closed_iff (h : Reads lines s) :
    configVerdict .diskOnly s = closed ↔ DiskClosed lines := by
  have hchain : configVerdict .diskOnly s = closed ↔
      (vmstatesOf lines).length = 0 ∧ (mtusOf lines).length = 0 := by
    simp only [configVerdict, mtuVerdict, refusal_closed, h.sectionCount, vmstates_length h,
      h.mtuLineCount]
    simp
  rw [hchain, List.length_eq_zero_iff, List.length_eq_zero_iff]
  exact ⟨fun hboth => ⟨hboth.1, hboth.2⟩, fun hclosed => ⟨hclosed.1, hclosed.2⟩⟩

theorem configVerdict_closed_iff {mode : Mode} (h : Reads lines s) :
    (configVerdict mode s).result = .observedClosed ↔ Closed mode lines := by
  have hclosed : (configVerdict mode s).result = .observedClosed ↔ configVerdict mode s =
    closed := by
    rcases configVerdict_result mode s with hv | hv
    · exact iff_of_true (by rw [hv]; rfl) hv
    · refine iff_of_false (by rw [hv]; decide) ?_
      intro heq
      rw [heq] at hv
      cases hv
  rw [hclosed]
  cases mode with
  | ram => exact ram_closed_iff h
  | diskOnly => exact diskOnly_closed_iff h

end

/-! ## The run -/

section
variable {r : Request} {p : Probes} {text : String} {running : Bool}

theorem reads_section {raw : ByteArray} {lines : List Line} {vmstates : List (ℕ × String)}
    {emptyMtu : List ℕ} {expected recorded : List String} {malformed : Bool} {mtuLineCount : ℕ}
    {lines' : List Line} {s : Sample}
    (h : readSection raw lines = .nine raw lines' vmstates emptyMtu expected recorded malformed
      mtuLineCount)
    (hs : s.sectionCount = 1 ∧ s.vmstates = vmstates ∧ s.emptyMtu = emptyMtu ∧
      s.expectedMtu = expected ∧ s.recordedMtu = recorded ∧ s.malformedMtu = malformed ∧
      s.mtuLineCount = mtuLineCount) : Reads lines s := by
  obtain ⟨hcount, rfl, rfl, rfl, rfl, rfl, rfl⟩ := hs
  have hfinds := findLines_finds lines
  rw [readSection] at h
  injection h with _ _ hvmstates hempty hexpected hrecorded hmalformed hlines
  refine ⟨hcount, by rw [← hvmstates, hfinds.vmstates], ?_, by rw [← hempty, hfinds.emptyMtu],
    by rw [← hexpected, hfinds.virtioNics], ?_⟩
  · rw [← hlines, ← hfinds.mtuLines, List.length_map]
  · intro value hvalue hset
    have hsingle := recordedMtu_single (hfinds.mtuLines.trans hvalue) hset
    refine ⟨_, _, rfl, by rw [← hrecorded, hsingle], ?_⟩
    rw [← hmalformed, hsingle, Bool.or_eq_false_iff, hfinds.duplicateNics]

theorem sampleOf_quiet {p : SampleProbes} {before : Process} {raw : ByteArray}
    {native status : String}
    {q : Qmp} {vmstates : List (ℕ × String)} {emptyMtu : List ℕ} {expected recorded : List String}
    {malformed : Bool} {mtuLineCount : ℕ} (hnative : p.native = .ok native)
    (hq : whenRunning running p.qmp stoppedQmp = .ok q)
    (hafter : whenRunning running p.processAfter before = .ok before)
    (hjobs : q.jobsBefore = .list [] ∧ q.jobsAfter = .list [])
    (hstatus : qmpStatusOf running q = .ok status) :
    sampleOf running before p raw vmstates emptyMtu expected recorded malformed mtuLineCount =
      .ok (⟨before, digest raw, native, 1, vmstates, emptyMtu, expected, recorded, malformed,
        mtuLineCount, status, 0, 0⟩, runstateOf q.runstate) := by
  have hsame : reportIf (decide (before ≠ before))
      "QEMU process identity changed during observation" = .ok () := by
    rw [decide_eq_false (not_not.mpr rfl)]
    rfl
  rw [sampleOf, hnative, hq, hafter]
  simp only [reported, bind, Except.bind, hsame, hjobs.1, hjobs.2, hstatus]
  rfl

/-- An idle VM is sampled up to its configuration. -/
theorem stableSample_config {p : SampleProbes} {raw : ByteArray} (hidle : Idle r.mode p running)
    (hconfig : p.config = .ok raw) :
    ∃ before, whenRunning running p.processBefore noProcess = .ok before ∧
      whenRunning running p.processAfter before = .ok before ∧
      stableSample r p = reported (readSnapshotConfig r.snapname raw) >>=
        unpacked running before p := by
  obtain ⟨out, hstatus, hrunning⟩ := hidle.status
  have hreport : reportIf (!running && decide (r.mode ≠ .diskOnly))
      "running VM/QMP identity disappeared before closure proof" = .ok () := by
    rcases hidle.allowed with hrun | hmode
    · rw [hrun]
      rfl
    · simp [hmode, reportIf, dieIf, reported]
  have hbefore : ∃ before, whenRunning running p.processBefore noProcess = .ok before ∧
      whenRunning running p.processAfter before = .ok before := by
    cases running with
    | false => exact ⟨noProcess, rfl, rfl⟩
    | true =>
      obtain ⟨process, hbefore, hafter⟩ := hidle.process rfl
      exact ⟨process, by rw [whenRunning, hbefore]; rfl, by rw [whenRunning, hafter]; rfl⟩
  obtain ⟨before, hbefore, hafter⟩ := hbefore
  refine ⟨before, hbefore, hafter, ?_⟩
  rw [stableSample, hstatus, hconfig]
  simp only [reported, bind, Except.bind, ← hrunning, hreport, hbefore]

/-- A sample of an idle VM with one section of the name. -/
theorem stableSample_idle {p : SampleProbes} {raw : ByteArray} {lines : List Line}
    (hidle : Idle r.mode p running) (hconfig : p.config = .ok raw)
    (hread : readSnapshotConfig r.snapname raw = .ok (readSection raw lines)) :
    ∃ s runstate, stableSample r p = .ok (s, runstate) ∧ Reads lines s ∧
      Python.Json.same runstate runstate = true ∧ s.blockJobsBefore = 0 ∧ s.blockJobsAfter = 0 ∧
      (s.qmpStatus = "IDLE_OBSERVED" ∨ r.mode = .diskOnly ∧ s.qmpStatus = "NOT_RUNNING") := by
  obtain ⟨before, _, hafter, hsample⟩ := stableSample_config hidle hconfig
  obtain ⟨native, hnative⟩ := hidle.native
  have hq : ∃ q status, whenRunning running p.qmp stoppedQmp = .ok q ∧
      (q.jobsBefore = .list [] ∧ q.jobsAfter = .list []) ∧ qmpStatusOf running q = .ok status ∧
      Python.Json.same (runstateOf q.runstate) (runstateOf q.runstate) = true ∧
      (status = "IDLE_OBSERVED" ∨ r.mode = .diskOnly ∧ status = "NOT_RUNNING") := by
    cases running with
    | true =>
      obtain ⟨q, hq, hclass, hjobs, hjobs', hsame⟩ := hidle.qmp rfl
      exact ⟨q, _, by rw [whenRunning, hq]; rfl, ⟨hjobs, hjobs'⟩, hclass, hsame, .inl rfl⟩
    | false =>
      have hmode : r.mode = .diskOnly := hidle.allowed.resolve_left Bool.false_ne_true
      exact ⟨stoppedQmp, _, rfl, ⟨rfl, rfl⟩, rfl, by decide +kernel, .inr ⟨hmode, rfl⟩⟩
  obtain ⟨q, status, hq, hjobs, hstatus, hsame, hidleStatus⟩ := hq
  refine ⟨⟨before, digest raw, native, 1, _, _, _, _, _, _, status, 0, 0⟩, _, ?_,
    reads_section (show readSection raw lines = _ from rfl) ⟨rfl, rfl, rfl, rfl, rfl, rfl, rfl⟩,
      hsame,
    rfl, rfl, hidleStatus⟩
  rw [hsample, hread]
  exact sampleOf_quiet hnative hq hafter hjobs hstatus

/-- With one section the observer reaches its verdict on the configuration. -/
theorem observe_section {lines : List Line} (h : Healthy r p text)
    (hsize : text.toUTF8.size ≤ maxConfigBytes) (hlines : namedSections r.snapname text = [lines]) :
    ∃ s, observe r p = .ok (configVerdict r.mode s) ∧ Reads lines s := by
  obtain ⟨running, hidle⟩ := h.idle
  have hread : readSnapshotConfig r.snapname text.toUTF8 = .ok (readSection text.toUTF8 lines) := by
    rw [readSnapshotConfig_text hsize, hlines]
  obtain ⟨s, runstate, hsample, hreads, hsame, hjobs, hjobs', hstatus⟩ :=
    stableSample_idle hidle h.config hread
  obtain ⟨task, htask, hid, htype, hstopped, hexit⟩ := h.task
  have hreferenced : referenced p.vmstate s.vmstates = .ok () := by
    unfold referenced
    split
    · rename_i number volid hvmstates
      refine h.vmstate lines volid hlines ?_
      rw [← hreads.vmstates, hvmstates]
      rfl
    · rfl
  have hgather : gather r p = .ok (task, s) := by
    rw [gather, h.host, htask, h.equal, hsample]
    simp only [reported, bind, Except.bind, hreferenced, hsame, ne_eq, not_true, decide_false,
      Bool.not_true, Bool.or_false, reportIf, dieIf, Bool.false_eq_true, if_false]
    rfl
  refine ⟨s, ?_, hreads⟩
  rw [observe, h.isLocal, hgather]
  have hquiet : ¬ (s.qmpStatus ≠ "IDLE_OBSERVED" ∧
      ¬ (r.mode = .diskOnly ∧ s.qmpStatus = "NOT_RUNNING")) := by
    rintro ⟨hbusy, hrunning⟩
    exact hstatus.elim hbusy hrunning
  simp only [Bool.not_true, Bool.false_eq_true, if_false, verdictOf, hid, htype, hstopped, hexit,
    hquiet,
    hjobs, hjobs', ne_eq, not_true, decide_false, Bool.or_false]

theorem stableSample_other {p : SampleProbes} (hidle : Idle r.mode p running)
    (hconfig : p.config = .ok text.toUTF8) (hsize : text.toUTF8.size ≤ maxConfigBytes)
    (hcount : (namedSections r.snapname text).length ≠ 1) :
    stableSample r p = .error (.reported "not enough values to unpack (expected 9, got 5)") := by
  obtain ⟨before, _, _, hsample⟩ := stableSample_config hidle hconfig
  rw [hsample, readSnapshotConfig_text hsize]
  split
  · rename_i lines hlines
    rw [hlines] at hcount
    exact absurd rfl hcount
  · rfl

theorem observe_failed {reason : String} (h : Healthy r p text)
    (hfails : stableSample r p.first = .error (.reported reason)) :
    observe r p = .ok ⟨.unknown, reason, 2⟩ := by
  obtain ⟨task, htask, _⟩ := h.task
  have hgather : gather r p = .error (.reported reason) := by
    rw [gather, h.host, htask, hfails]
    rfl
  rw [observe, h.isLocal, hgather]
  rfl

/-- Without exactly one section the observer ends in an internal error. -/
theorem observe_other (h : Healthy r p text)
    (hother : ¬ (text.toUTF8.size ≤ maxConfigBytes ∧ (namedSections r.snapname text).length = 1)) :
    ∃ reason, observe r p = .ok ⟨.unknown, reason, 2⟩ := by
  obtain ⟨running, hidle⟩ := h.idle
  by_cases hsize : text.toUTF8.size ≤ maxConfigBytes
  · exact ⟨_, observe_failed h
      (stableSample_other hidle h.config hsize fun hone => hother ⟨hsize, hone⟩)⟩
  · obtain ⟨before, _, _, hsample⟩ := stableSample_config hidle h.config
    refine ⟨"VM config exceeds bounded observer limit", observe_failed h ?_⟩
    rw [hsample, readSnapshotConfig, decide_eq_true (not_le.mp hsize)]
    rfl

end

/-- The verdict follows the configuration exactly when the configuration is within bounds and has
  one
section of the name. -/
theorem verdict_follows_iff {r : Request} {p : Probes} {text : String} (h : Healthy r p text) :
    Follows r p text ↔
      text.toUTF8.size ≤ maxConfigBytes ∧ (namedSections r.snapname text).length = 1 := by
  constructor
  · intro hfollows
    by_contra hother
    obtain ⟨reason, hunknown⟩ := observe_other h hother
    obtain ⟨v, hv, hclosed, hrecovery⟩ := hfollows
    obtain rfl := Except.ok.inj (hunknown.symm.trans hv)
    by_cases hcloses : Closes r text
    · cases hclosed.mpr hcloses
    · cases hrecovery hcloses
  · rintro ⟨hsize, hone⟩
    obtain ⟨lines, hlines⟩ := List.length_eq_one_iff.mp hone
    obtain ⟨s, hobserve, hreads⟩ := observe_section h hsize hlines
    have hcloses : Closes r text ↔ Closed r.mode lines := by
      constructor
      · rintro ⟨lines', hlines', hclosed⟩
        obtain rfl := List.singleton_inj.mp (hlines.symm.trans hlines')
        exact hclosed
      · exact fun hclosed => ⟨lines, hlines, hclosed⟩
    have hverdict : (configVerdict r.mode s).result = .observedClosed ↔ Closed r.mode lines :=
      configVerdict_closed_iff hreads
    refine ⟨_, hobserve, hverdict.trans hcloses.symm, fun hopen => ?_⟩
    rcases configVerdict_result r.mode s with hclosed | hrecovery
    · exact absurd (hcloses.mpr (hverdict.mp (by rw [hclosed]; rfl))) hopen
    · exact hrecovery

/-! ## A snapshot section that is gone -/

def idleSample (text : String) : SampleProbes where
  status := .ok "status: running\n"
  processBefore := .ok ⟨"4711", "1200", "/usr/bin/qemu-system-x86_64", "8:1:100"⟩
  config := .ok text.toUTF8
  native := .ok "native"
  qmp := .ok ⟨.dict [], .dict [("status", .str "running")], .list [], .list []⟩
  processAfter := .ok ⟨"4711", "1200", "/usr/bin/qemu-system-x86_64", "8:1:100"⟩

def idleProbes (text : String) : Probes where
  isLocal := true
  host := .ok ()
  task := .ok (.dict [("id", .str "100"), ("type", .str "qmsnapshot"), ("status", .str "stopped"),
    ("exitstatus", .str "OK")])
  first := idleSample text
  second := idleSample text
  vmstate :=
    { content := fun _ => .ok [.dict [("volid", .str "san:vm-100-state-before")]]
      path := fun _ => .ok "/dev/san/vm-100-state-before"
      kind := fun _ => .ok () }

def ramRequest : Request := ⟨"100", "before", .ram⟩

theorem idleProbes_idle (text : String) : ∃ running, Idle .ram (idleProbes text).first running := by
  refine ⟨true, ⟨_, rfl, by decide +kernel⟩, .inl rfl, ⟨_, rfl⟩, fun _ => ⟨_, rfl, rfl⟩, fun _ =>
    ?_⟩
  exact ⟨_, rfl, by decide +kernel, rfl, rfl, by decide +kernel⟩

def closedLines : List String :=
  ["net0: virtio=BC:24:11:00:00:01", "", "[before]", "net0: virtio=BC:24:11:00:00:01",
    "running-nets-host-mtu: net0=1500", "vmstate: san:vm-100-state-before"]

def closedText : String := unlines closedLines

theorem namedSections_closedText :
    namedSections "before" closedText = named "before" (closedLines.zipIdx 1) := by
  have hplain : closedLines.all (fun line => line.toList.all (! isLineBreak ·)) = true := by
    decide +kernel
  rw [namedSections, closedText, splitlines_unlines]
  simpa using hplain

theorem verdict_follows_closed :
    Healthy ramRequest (idleProbes closedText) closedText ∧
      Follows ramRequest (idleProbes closedText) closedText := by
  have hhealthy : Healthy ramRequest (idleProbes closedText) closedText := by
    refine ⟨rfl, rfl, ⟨_, rfl, by decide +kernel⟩, rfl, rfl, idleProbes_idle closedText, ?_⟩
    intro lines volid hlines hvolid
    have hone : (named "before" (closedLines.zipIdx 1)).map vmstatesOf =
        [["san:vm-100-state-before"]] := by decide +kernel
    rw [← namedSections_closedText, show namedSections "before" closedText = [lines] from hlines,
      List.map_singleton, hvolid] at hone
    obtain rfl := List.singleton_inj.mp (List.singleton_inj.mp hone)
    decide +kernel
  refine ⟨hhealthy, (verdict_follows_iff hhealthy).mpr ⟨by decide +kernel, ?_⟩⟩
  have hone : (named "before" (closedLines.zipIdx 1)).length = 1 := by decide +kernel
  exact (congrArg List.length namedSections_closedText).trans hone

/-- Without a section of the name recovery is required, and the observer reports that it does not
know. -/
theorem absent_section_unknown :
    Healthy ramRequest (idleProbes "") "" ∧
      observe ramRequest (idleProbes "") =
        .ok ⟨.unknown, "not enough values to unpack (expected 9, got 5)", 2⟩ ∧
      ¬ Follows ramRequest (idleProbes "") "" := by
  have hnone : namedSections "before" "" = [] := by decide +kernel
  have hhealthy : Healthy ramRequest (idleProbes "") "" := by
    refine ⟨rfl, rfl, ⟨_, rfl, by decide +kernel⟩, rfl, rfl, idleProbes_idle "", ?_⟩
    intro lines volid hlines
    exact nomatch hnone.symm.trans hlines
  have hobserve : observe ramRequest (idleProbes "") =
      .ok ⟨.unknown, "not enough values to unpack (expected 9, got 5)", 2⟩ := by
    obtain ⟨running, hidle⟩ := idleProbes_idle ""
    refine observe_failed hhealthy (stableSample_other hidle rfl (by decide +kernel) ?_)
    rw [show namedSections ramRequest.snapname "" = [] from hnone]
    decide
  refine ⟨hhealthy, hobserve, ?_⟩
  rintro ⟨v, hv, _, hrecovery⟩
  obtain rfl := Except.ok.inj (hobserve.symm.trans hv)
  have hopen : ¬ Closes ramRequest "" := by
    rintro ⟨lines, hlines, _⟩
    exact nomatch hnone.symm.trans hlines
  cases hrecovery hopen

end SharedLvmThin.SnapshotObserver
