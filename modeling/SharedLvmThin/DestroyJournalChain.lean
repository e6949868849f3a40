import SharedLvmThin.DestroyJournal

/-! What a readable journal holds. Reading accepts exactly one chain of records, an append extends
it by the record that follows, and a file that breaks off closes the directory for good. -/

namespace SharedLvmThin.DestroyJournal
open Perl KeyedLists VMDestroy

/-! ## Stage paths -/

def opening : List Stage := [.prepared, .dispatched, .storageAbsent]

def course (repeats : Nat) : List Stage :=
  opening ++ List.replicate (repeats + 1) .finalizing ++ [.complete]

/-- A part of the course from its beginning, or one that was cut. -/
def StagePath (path : List Stage) : Prop :=
  (∃ repeats, path <+: course repeats) ∨
    ∃ front repeats, front ≠ [] ∧ front <+: course repeats ∧ .complete ∉ front ∧
      path = front ++ [.partialOrUnknown]

theorem prefix_course {path : List Stage} {repeats : Nat} (h : path <+: course repeats) :
    path <+: opening ∨ (∃ n, path = opening ++ List.replicate (n + 1) .finalizing) ∨
      path = course repeats := by
  rw [course, List.prefix_concat_iff] at h
  rcases h with rfl | h
  · exact .inr (.inr rfl)
  rcases List.prefix_or_prefix_of_prefix h (List.prefix_append _ _) with hfront | hrest
  · exact .inl hfront
  obtain ⟨rest, rfl⟩ := hrest
  rw [List.prefix_append_right_inj, List.prefix_replicate_iff] at h
  cases hlength : rest.length with
  | zero =>
    rw [List.length_eq_zero_iff.mp hlength]
    exact .inl (List.prefix_rfl)
  | succ n =>
    rw [hlength] at h
    exact .inr (.inl ⟨n, congrArg _ h.2⟩)

theorem course_concat {path : List Stage} {stage : Stage} {repeats : Nat}
    (h : path <+: course repeats) (hnext : nextStage path.getLast? stage = .ok ())
    (hgoing : stage ≠ .partialOrUnknown) : ∃ more, path ++ [stage] <+: course more := by
  rcases prefix_course h with hfront | ⟨n, rfl⟩ | rfl
  · rw [← List.mem_inits] at hfront
    simp [opening] at hfront
    rcases hfront with rfl | rfl | rfl | rfl <;> cases stage <;>
      first | exact absurd hnext (by decide) | exact absurd rfl hgoing | exact ⟨0, by decide⟩
  · have hlast : (opening ++ List.replicate (n + 1) Stage.finalizing).getLast? =
        some .finalizing := by
      simp [List.replicate_succ']
    rw [hlast] at hnext
    have hstage : stage = .finalizing ∨ stage = .complete := by
      cases stage <;> first | exact .inl rfl | exact .inr rfl | exact absurd rfl hgoing |
        exact absurd hnext (by decide)
    rcases hstage with rfl | rfl
    · refine ⟨n + 1, ?_⟩
      rw [List.append_assoc, ← List.replicate_succ']
      exact List.prefix_append _ _
    · exact ⟨n, List.prefix_rfl⟩
  · rw [course, List.getLast?_concat] at hnext
    exact absurd hnext (by cases stage <;> decide)

theorem complete_not_mem {path : List Stage} {stage : Stage} {repeats : Nat}
    (h : path <+: course repeats) (hnext : nextStage path.getLast? stage = .ok ()) :
    .complete ∉ path := by
  rcases prefix_course h with hfront | ⟨n, rfl⟩ | rfl
  · intro hmem
    exact absurd (hfront.subset hmem) (by decide)
  · simp [opening]
  · rw [course, List.getLast?_concat] at hnext
    exact absurd hnext (by cases stage <;> decide)

theorem StagePath.concat {path : List Stage} {stage : Stage} (h : StagePath path)
    (hnext : nextStage path.getLast? stage = .ok ()) : StagePath (path ++ [stage]) := by
  rcases h with ⟨repeats, hpath⟩ | ⟨front, repeats, -, -, -, rfl⟩
  · by_cases hcut : stage = .partialOrUnknown
    · subst hcut
      refine .inr ⟨path, repeats, ?_, hpath, complete_not_mem hpath hnext, rfl⟩
      rintro rfl
      exact absurd hnext (by decide)
    · exact .inl (course_concat hpath hnext hcut)
  · rw [List.getLast?_concat] at hnext
    exact absurd hnext (by cases stage <;> decide)

/-! ## Chains -/

/-- One hash chain: numbered from one, of one request and one context, on a stage path. -/
structure Chain (requestId : String) (rows : List Row) : Prop where
  sequence : ∀ i row, rows[i]? = some row → row.sequence = i + 1
  request : ∀ row ∈ rows, row.requestId = requestId
  context : ∀ a ∈ rows, ∀ b ∈ rows, canonical a.context = canonical b.context
  contextDigest : ∀ row ∈ rows, digest row.context = .ok row.contextSha256
  link : ∀ i row, rows[i]? = some row →
    headDigest (rows.take i).getLast? = .ok row.previousSha256
  stages : StagePath (rows.map Row.stage)

/-- What a record owes to the record before it. -/
structure Follows (previous : Option Row) (index : Nat) (row : Row) : Prop where
  sequence : row.sequence = index
  contextDigest : digest row.context = .ok row.contextSha256
  stage : nextStage (previous.map Row.stage) row.stage = .ok ()
  link : headDigest previous = .ok row.previousSha256
  same : sameRequest previous row.requestId row.context = .ok ()

theorem checkRow_eq_ok {previous : Option Row} {index : Nat} {name : String} {row : Row} :
    checkRow previous index name row = .ok () ↔
      row.schema = journalSchema ∧ row.authority = "NONE" ∧ isRequestId row.requestId = true ∧
        row.context.isHash = true ∧ row.evidence.isHash = true ∧ name = filename index row.stage ∧
          Follows previous index row := by
  simp only [checkRow, bind_eq_ok, dieIf_eq_ok, exists_unit, Bool.or_eq_false_iff,
    Bool.not_eq_false', Bool.and_eq_true, decide_eq_false_iff_not, not_not]
  constructor
  · rintro ⟨⟨hschema, hauthority⟩, hsequence, hid, ⟨hcontext, hevidence⟩, hash, hhash, rfl, hstage,
      hname, link, hlink, rfl, hsame⟩
    exact ⟨hschema, hauthority, hid, hcontext, hevidence, hname, hsequence, hhash, hstage, hlink,
      hsame⟩
  · rintro ⟨hschema, hauthority, hid, hcontext, hevidence, hname, hsequence, hhash, hstage, hlink,
      hsame⟩
    exact ⟨⟨hschema, hauthority⟩, hsequence, hid, ⟨hcontext, hevidence⟩, _, hhash, rfl, hstage,
      hname, _, hlink, rfl, hsame⟩

theorem sameRequest_some {last : Row} {requestId : String} {context : Value}
    (h : sameRequest (some last) requestId context = .ok ()) :
    requestId = last.requestId ∧ canonical context = canonical last.context := by
  simp only [sameRequest, bind_eq_ok, dieIf_eq_ok] at h
  obtain ⟨text, htext, lastText, hlast, hsame⟩ := h
  simp at hsame
  rw [htext, hlast, hsame.2]
  exact ⟨hsame.1, rfl⟩

theorem getElem?_concat {α : Type} {l : List α} {a b : α} {i : Nat} (h : (l ++ [a])[i]? = some b) :
    (i < l.length ∧ l[i]? = some b) ∨ (i = l.length ∧ b = a) := by
  rcases lt_or_ge i l.length with hi | hi
  · rw [List.getElem?_append_left hi] at h
    exact .inl ⟨hi, h⟩
  · rw [List.getElem?_append_right hi, List.getElem?_singleton] at h
    split at h
    · cases h
      exact .inr ⟨by omega, rfl⟩
    · cases h

theorem Chain.nil (requestId : String) : Chain requestId [] := by
  refine ⟨by simp, by simp, by simp, by simp, by simp, .inl ⟨0, ?_⟩⟩
  exact List.nil_prefix

theorem Chain.concat {requestId : String} {rows : List Row} {row : Row} (h : Chain requestId rows)
    (hrequest : row.requestId = requestId) (hrow : Follows rows.getLast? (rows.length + 1) row) :
    Chain requestId (rows ++ [row]) := by
  have hcontext : ∀ a ∈ rows, canonical a.context = canonical row.context := by
    intro a ha
    obtain ⟨last, hlast⟩ := Option.isSome_iff_exists.mp
      (List.getLast?_isSome.mpr (List.ne_nil_of_mem ha))
    have hsame := hrow.same
    rw [hlast] at hsame
    rw [(sameRequest_some hsame).2]
    exact h.context a ha last (List.mem_of_getLast? hlast)
  constructor
  case sequence =>
    intro i other hi
    rcases getElem?_concat hi with ⟨-, hi⟩ | ⟨rfl, rfl⟩
    · exact h.sequence i other hi
    · exact hrow.sequence
  case request =>
    intro other hother
    rcases List.mem_append.mp hother with hother | hother
    · exact h.request other hother
    · rw [List.mem_singleton.mp hother, hrequest]
  case context =>
    simp only [List.mem_append, List.mem_singleton]
    rintro a (ha | rfl) b (hb | rfl)
    · exact h.context a ha b hb
    · exact hcontext a ha
    · exact (hcontext b hb).symm
    · rfl
  case contextDigest =>
    simp only [List.mem_append, List.mem_singleton]
    rintro a (ha | rfl)
    · exact h.contextDigest a ha
    · exact hrow.contextDigest
  case link =>
    intro i other hi
    rcases getElem?_concat hi with ⟨hlt, hi⟩ | ⟨rfl, rfl⟩
    · rw [List.take_append_of_le_length hlt.le]
      exact h.link i other hi
    · rw [List.take_left]
      exact hrow.link
  case stages =>
    rw [List.map_append]
    refine h.stages.concat ?_
    rw [List.getLast?_map]
    exact hrow.stage

/-! ## Reading -/

theorem readFile_eq_ok {file : File} {row : Row} (h : readFile file = .ok row) : file.row = row := by
  simp only [readFile, bind_eq_ok, pure_eq_ok] at h
  obtain ⟨-, -, -, -, -, -, hrow⟩ := h
  exact hrow

theorem readRecords_append (records : List Row) (files others : List File) :
    readRecords records (files ++ others) =
      readRecords records files >>= fun rows => readRecords rows others := by
  induction files generalizing records with
  | nil => rfl
  | cons file files ih =>
    simp only [List.cons_append, readRecords, ih, bind_assoc]

theorem readRecords_eq_ok {records rows : List Row} {files : List File}
    (h : readRecords records files = .ok rows) : rows = records ++ files.map File.row := by
  induction files generalizing records with
  | nil =>
    cases h
    rw [List.map_nil, List.append_nil]
  | cons file files ih =>
    simp only [readRecords, bind_eq_ok, exists_unit] at h
    obtain ⟨row, hread, -, h⟩ := h
    rw [ih h, ← readFile_eq_ok hread, List.append_assoc]
    rfl

theorem readRecords_chain {requestId : String} {records rows : List Row} {files : List File}
    (h : readRecords records files = .ok rows) (hrecords : Chain requestId records)
    (hrequest : ∀ file ∈ files, file.row.requestId = requestId) : Chain requestId rows := by
  induction files generalizing records with
  | nil =>
    cases h
    exact hrecords
  | cons file files ih =>
    simp only [readRecords, bind_eq_ok, exists_unit] at h
    obtain ⟨row, hread, hcheck, h⟩ := h
    obtain ⟨-, -, -, -, -, -, hfollows⟩ := checkRow_eq_ok.mp hcheck
    have hid := hrequest file (by simp)
    rw [readFile_eq_ok hread] at hid
    exact ih h (hrecords.concat hid hfollows) fun other hother => hrequest other (by simp [hother])

theorem readRecords_files {records rows : List Row} {files : List File}
    (h : readRecords records files = .ok rows) : ∀ file ∈ files, readFile file = .ok file.row := by
  induction files generalizing records with
  | nil => simp
  | cons file files ih =>
    simp only [readRecords, bind_eq_ok, exists_unit] at h
    obtain ⟨row, hread, -, h⟩ := h
    rw [List.forall_mem_cons, readFile_eq_ok hread]
    exact ⟨hread, ih h⟩

/-! ## File names -/

theorem append_lt_append {α : Type} [LinearOrder α] {l l' m m' : List α}
    (hlength : l.length = l'.length) (h : l < l') : l ++ m < l' ++ m' := by
  induction l generalizing l' with
  | nil =>
    rw [List.eq_nil_of_length_eq_zero hlength.symm] at h
    exact absurd h (lt_irrefl _)
  | cons a l ih =>
    cases l' with
    | nil => cases hlength
    | cons b l' =>
      rw [List.cons_lt_cons_iff] at h
      rw [List.cons_append, List.cons_append, List.cons_lt_cons_iff]
      rcases h with h | ⟨rfl, h⟩
      · exact .inl h
      · exact .inr ⟨rfl, ih (Nat.succ.inj hlength) h⟩

theorem sixDigits_succ : ∀ i < maxRecords, (sixDigits i).toList < (sixDigits (i + 1)).toList := by
  decide +kernel

theorem sixDigits_lt {i j : Nat} (hij : i < j) (hj : j ≤ maxRecords) :
    (sixDigits i).toList < (sixDigits j).toList := by
  induction j, hij using Nat.le_induction with
  | base => exact sixDigits_succ i hj
  | succ j hij ih => exact (ih (Nat.le_of_succ_le hj)).trans (sixDigits_succ j hj)

theorem filename_lt {i j : Nat} (hij : i < j) (hj : j ≤ maxRecords) (stage other : Stage) :
    filename i stage < filename j other := by
  have hsplit : ∀ n (s : Stage), (filename n s).toList =
      (sixDigits n).toList ++ ("-" ++ s.text ++ ".json").toList := fun n s => String.toList_append
  rw [String.lt_iff_toList_lt, hsplit, hsplit]
  refine append_lt_append ?_ (sixDigits_lt hij hj)
  simp [sixDigits]

theorem readRecords_names {records rows : List Row} {files : List File}
    (h : readRecords records files = .ok rows) : ∀ file ∈ files, ∃ index stage,
      index ≤ rows.length ∧ file.name = filename index stage := by
  induction files generalizing records with
  | nil => simp
  | cons file files ih =>
    simp only [readRecords, bind_eq_ok, exists_unit] at h
    obtain ⟨row, hread, hcheck, h⟩ := h
    obtain ⟨-, -, -, -, -, hname, -⟩ := checkRow_eq_ok.mp hcheck
    intro other hother
    rcases List.mem_cons.mp hother with rfl | hother
    · refine ⟨records.length + 1, row.stage, ?_, hname⟩
      rw [readRecords_eq_ok h]
      simp
    · exact ih h other hother

/-! ## Directories -/

/-- The files in the order of their names hold one chain after the other. -/
structure Intact (requestId : String) (directory : Directory) : Prop where
  sorted : directory.Pairwise fun a b => a.name < b.name
  read : readRecords [] directory = .ok (directory.map File.row)
  request : ∀ file ∈ directory, file.row.requestId = requestId
  budget : directory.length ≤ maxRecords

/-- A directory that ends in a file which cannot be read. -/
structure Torn (requestId : String) (directory front : Directory) (last : File) : Prop where
  split : directory = front ++ [last]
  intact : Intact requestId front
  sorted : directory.Pairwise fun a b => a.name < b.name
  unread : ∃ message, readFile last = .error message

def Sound (requestId : String) (directory : Directory) : Prop :=
  Intact requestId directory ∨ ∃ front last, Torn requestId directory front last

variable {requestId : String} {directory : Directory}

theorem sortBy_name (h : directory.Pairwise fun a b => a.name < b.name) :
    sortBy File.name directory = directory :=
  sortBy_of_pairwise (h.imp fun hab => hab.le)

theorem Intact.nil (requestId : String) : Intact requestId [] :=
  ⟨.nil, rfl, by simp, by decide⟩

theorem Intact.readJournal_eq (h : Intact requestId directory) :
    readJournal directory = .ok (directory.map File.row) := by
  have hbudget : decide (directory.length > maxRecords) = false := by simpa using h.budget
  simp only [readJournal, hbudget, sortBy_name h.sorted, h.read]
  rfl

theorem Intact.chain (h : Intact requestId directory) : Chain requestId (directory.map File.row) :=
  readRecords_chain h.read (.nil requestId) h.request

theorem Torn.readJournal_ne {front : Directory} {last : File}
    (h : Torn requestId directory front last) : ∃ message, readJournal directory = .error message := by
  obtain ⟨message, hunread⟩ := h.unread
  cases hread : readJournal directory with
  | error message => exact ⟨message, rfl⟩
  | ok rows =>
    simp only [readJournal, bind_eq_ok, exists_unit, sortBy_name h.sorted] at hread
    rw [h.split, readRecords_append, h.intact.read] at hread
    obtain ⟨-, hread⟩ := hread
    simp [readRecords, hunread, bind, Except.bind] at hread

theorem Sound.intact (h : Sound requestId directory) {rows : List Row}
    (hread : readJournal directory = .ok rows) :
    Intact requestId directory ∧ rows = directory.map File.row := by
  rcases h with h | ⟨front, last, h⟩
  · rw [h.readJournal_eq] at hread
    cases hread
    exact ⟨h, rfl⟩
  · obtain ⟨message, hrefused⟩ := h.readJournal_ne
    rw [hrefused] at hread
    cases hread

/-- The records of a directory: the files that can be read, in the order of their names. -/
def storedRows (directory : Directory) : List Row :=
  (sortBy File.name directory).filterMap fun file => (readFile file).toOption

theorem Intact.filterMap_read (h : Intact requestId directory) :
    (directory.filterMap fun file => (readFile file).toOption) = directory.map File.row := by
  rw [← List.filterMap_eq_map]
  refine List.filterMap_congr ?_
  intro file hfile
  rw [readRecords_files h.read file hfile]
  rfl

theorem Intact.storedRows_eq (h : Intact requestId directory) :
    storedRows directory = directory.map File.row := by
  rw [storedRows, sortBy_name h.sorted, h.filterMap_read]

theorem Torn.storedRows_eq {front : Directory} {last : File}
    (h : Torn requestId directory front last) : storedRows directory = front.map File.row := by
  obtain ⟨message, hunread⟩ := h.unread
  rw [storedRows, sortBy_name h.sorted, h.split, List.filterMap_append, h.intact.filterMap_read]
  simp [hunread, Except.toOption]

theorem Sound.chain (h : Sound requestId directory) : Chain requestId (storedRows directory) := by
  rcases h with h | ⟨front, last, h⟩
  · rw [h.storedRows_eq]
    exact h.chain
  · rw [h.storedRows_eq]
    exact h.intact.chain

/-! ## Appending -/

/-- A record that the helper is about to create. -/
structure Planned (directory : Directory) (p : Payload) (rows : List Row) (row : Row) : Prop where
  read : readJournal directory = .ok rows
  budget : rows.length < maxRecords
  cas : headDigest rows.getLast? = .ok p.expectedPrevious
  request : row.requestId = p.requestId
  stage : row.stage = p.stage
  check : checkRow rows.getLast? (rows.length + 1) (filename row.sequence row.stage) row = .ok ()

theorem plannedRow_eq_ok {p : Payload} {row : Row} (h : plannedRow directory p = .ok row) :
    ∃ rows, Planned directory p rows row := by
  simp only [plannedRow, bind_eq_ok, dieIf_eq_ok, exists_unit, pure_eq_ok, Bool.not_eq_false',
    Bool.and_eq_true, decide_eq_true_eq, decide_eq_false_iff_not, not_not] at h
  obtain ⟨hid, ⟨hcontext, hevidence⟩, rows, hread, hbudget, head, hhead, rfl, hstage, hsame, hash,
    hhash, text, htext, -, -, rfl⟩ := h
  refine ⟨rows, hread, hbudget, hhead, rfl, rfl, ?_⟩
  exact checkRow_eq_ok.mpr
    ⟨rfl, rfl, hid, hcontext, hevidence, rfl, rfl, hhash, hstage, hhead, hsame⟩

/-- An append leaves the directory alone or adds the planned record's file. -/
theorem append_cases (directory : Directory) (call : Nat) (fault : Option Fault) (p : Payload) :
    ((append directory call fault p).1 = directory ∧
      ∃ message, (append directory call fault p).2 = .error message) ∨
    ∃ rows row file, Planned directory p rows row ∧
      (append directory call fault p).1 = directory ++ [file] ∧ file.row = row ∧ file.call = call ∧
      file.name = filename row.sequence row.stage ∧
      ∀ hash, (append directory call fault p).2 = .ok hash →
        readFile file = .ok row ∧ digest row.json = .ok hash := by
  unfold append
  cases hplan : plannedRow directory p with
  | error message => exact .inl ⟨rfl, message, rfl⟩
  | ok row =>
    obtain ⟨rows, hplanned⟩ := plannedRow_eq_ok hplan
    refine .inr ⟨rows, row, createdFile call fault row, hplanned, rfl, rfl, rfl, rfl, ?_⟩
    intro hash hresult
    simp only [bind_eq_ok, exists_unit] at hresult
    obtain ⟨-, readback, hread, hhash⟩ := hresult
    have hrow : row = readback := readFile_eq_ok hread
    rw [hrow]
    exact ⟨hrow ▸ hread, hhash⟩

theorem Intact.concat_sorted (h : Intact requestId directory) {p : Payload} {row : Row} {file : File}
    (hplanned : Planned directory p (directory.map File.row) row)
    (hname : file.name = filename row.sequence row.stage) :
    (directory ++ [file]).Pairwise fun a b => a.name < b.name := by
  have hsequence := (checkRow_eq_ok.mp hplanned.check).2.2.2.2.2.2.sequence
  have hbudget := hplanned.budget
  refine List.pairwise_append.mpr ⟨h.sorted, List.pairwise_singleton _ _, ?_⟩
  intro a ha b hb
  obtain ⟨index, stage, hindex, haname⟩ := readRecords_names h.read a ha
  rw [List.mem_singleton.mp hb, haname, hname, hsequence]
  exact filename_lt (by omega) hbudget stage row.stage

theorem Intact.concat_read (h : Intact requestId directory) {p : Payload} {row : Row} {file : File}
    (hplanned : Planned directory p (directory.map File.row) row) (hrow : file.row = row)
    (hname : file.name = filename row.sequence row.stage) (hrequest : row.requestId = requestId)
    (hread : readFile file = .ok row) : Intact requestId (directory ++ [file]) := by
  have hbudget := hplanned.budget
  rw [List.length_map] at hbudget
  refine ⟨h.concat_sorted hplanned hname, ?_, ?_, ?_⟩
  · rw [readRecords_append, h.read, List.map_append]
    have hcheck := hplanned.check
    rw [← hname] at hcheck
    simp only [bind, Except.bind, readRecords, hread, hcheck, hrow, List.map_cons, List.map_nil]
  · simp only [List.mem_append, List.mem_singleton]
    rintro other (hother | rfl)
    · exact h.request other hother
    · rw [hrow, hrequest]
  · simpa using hbudget

theorem Intact.concat (h : Intact requestId directory) {p : Payload} {row : Row} {file : File}
    (hplanned : Planned directory p (directory.map File.row) row) (hrow : file.row = row)
    (hname : file.name = filename row.sequence row.stage) (hrequest : row.requestId = requestId) :
    Sound requestId (directory ++ [file]) := by
  cases hread : readFile file with
  | error message =>
    exact .inr ⟨directory, file, rfl, h, h.concat_sorted hplanned hname, message, hread⟩
  | ok other =>
    have hother := readFile_eq_ok hread
    rw [hrow] at hother
    subst hother
    exact .inl (h.concat_read hplanned hrow hname hrequest hread)

theorem Intact.storedRows_concat (h : Intact requestId directory) {p : Payload} {row : Row}
    {file : File} (hplanned : Planned directory p (directory.map File.row) row)
    (hname : file.name = filename row.sequence row.stage) :
    storedRows (directory ++ [file]) = storedRows directory ++ (readFile file).toOption.toList := by
  rw [storedRows, storedRows, sortBy_name (h.concat_sorted hplanned hname), sortBy_name h.sorted,
    List.filterMap_append]
  cases hread : readFile file <;> simp [hread, Except.toOption]

end SharedLvmThin.DestroyJournal
