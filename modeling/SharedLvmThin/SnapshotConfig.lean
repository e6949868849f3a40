import SharedLvmThin.PythonText

/-! The snapshot section of a VM configuration. A scan collects the lines after each header of the
name; the lines of the one section are then read for vmstate references, network devices and the
recorded MTU values. -/

namespace SharedLvmThin.SnapshotObserver
open Perl Python

def maxConfigBytes : ℕ := 1024 * 1024

/-- A line and its number. -/
abbrev Line := String × ℕ

/-! ## Patterns -/

/-- What follows `key:` in a line, without the spaces around it. -/
def settingOf (key : String) (line : String) : Option String :=
  let start := key.toList ++ [':']
  if start <+: line.toList then some (strip (String.ofList (line.toList.drop start.length)))
  else none

/-- `\[([^]\r\n]+)\]` -/
def header (line : String) : Option String :=
  match line.toList with
  | '[' :: rest =>
    let name := rest.dropLast
    if rest.getLast? = some ']' ∧ name ≠ [] ∧ name.all (· ∉ [']', '\r', '\n']) then
      some (String.ofList name)
    else none
  | _ => none

/-- `vmstate:\s*(\S.*?)\s*` -/
def vmstateOf (line : String) : Option String :=
  (settingOf "vmstate" line).filter (· ≠ "")

/-- `running-nets-host-mtu:\s*(.*?)\s*` -/
def mtuOf (line : String) : Option String := settingOf "running-nets-host-mtu" line

/-- `net[0-9]+` -/
def isNic (s : String) : Bool :=
  "net".toList <+: s.toList && plus Char.isDigit (String.ofList (s.toList.drop 3))

/-- `(net[0-9]+):\s*(.*?)\s*`, as the device and its model. -/
def nicOf (line : String) : Option (String × String) :=
  let nic := String.ofList (line.toList.takeWhile (· ≠ ':'))
  if isNic nic then
    (settingOf nic line).map fun value =>
      (nic, strip (String.ofList (value.toList.takeWhile (· ≠ '='))))
  else none

/-- `(net[0-9]+)=([0-9]+)` -/
def mtuItem (item : String) : Option String :=
  let nic := String.ofList (item.toList.takeWhile (· ≠ '='))
  if isNic nic ∧ plus Char.isDigit (afterFirst '=' item) then some nic else none

/-! ## The reader -/

/-- The sections of the name so far and the header last seen. -/
structure Scan where
  sections : List (List Line)
  current : Option String

/-- `sections[-1].append(line)` -/
def appendLast (line : Line) : List (List Line) → List (List Line)
  | [] => []
  | [last] => [last ++ [line]]
  | first :: rest => first :: appendLast line rest

def scanLine (name : String) (s : Scan) (line : Line) : Scan :=
  match header line.1 with
  | some title => ⟨if title = name then s.sections ++ [[]] else s.sections, some title⟩
  | none =>
    if s.current = some name ∧
      s.sections ≠ [] then { s with sections := appendLast line s.sections }
    else s

structure Found where
  vmstates : List (ℕ × String)
  emptyMtu : List ℕ
  virtioNics : List String
  mtuLines : List (ℕ × String)
  duplicateNics : Bool
  seenNics : List String

def Found.vmstate (f : Found) (line : Line) : Found :=
  match vmstateOf line.1 with
  | some value => { f with vmstates := f.vmstates ++ [(line.2, value)] }
  | none => f

def Found.nic (f : Found) (line : Line) : Found :=
  match nicOf line.1 with
  | some (nic, model) =>
    { f with
      duplicateNics := f.duplicateNics || nic ∈ f.seenNics
      seenNics := f.seenNics ++ [nic]
      virtioNics := if model = "virtio" then f.virtioNics ++ [nic] else f.virtioNics }
  | none => f

def Found.mtu (f : Found) (line : Line) : Found :=
  match mtuOf line.1 with
  | some value =>
    { f with
      mtuLines := f.mtuLines ++ [(line.2, value)]
      emptyMtu := if value = "" then f.emptyMtu ++ [line.2] else f.emptyMtu }
  | none => f

/-- The loop over the lines of the section. -/
def findLines (lines : List Line) : Found :=
  lines.foldl (fun f line => ((f.vmstate line).nic line).mtu line) ⟨[], [], [], [], false, []⟩

/-- The loop over the recorded items stops at the first malformed or repeated one. -/
def readItems (recorded : List String) : List String → List String × Bool
  | [] => (recorded, false)
  | item :: rest =>
    match mtuItem item with
    | none => (recorded, true)
    | some nic => if nic ∈ recorded then (recorded, true) else readItems (recorded ++ [nic]) rest

def recordedMtu (mtuLines : List (ℕ × String)) : List String × Bool :=
  match mtuLines with
  | [] => ([], false)
  | [(_, value)] => if value ≠ "" then readItems [] (split ',' value) else ([], false)
  | _ => ([], true)

/-- The result is a tuple of nine fields for one section and of five otherwise. -/
inductive ConfigTuple
  | five (raw : ByteArray) (sectionCount : ℕ)
  | nine (raw : ByteArray) (lines : List Line) (vmstates : List (ℕ × String)) (emptyMtu : List ℕ)
    (virtioNics recordedMtu : List String) (malformedMtu : Bool) (mtuLineCount : ℕ)

def readSection (raw : ByteArray) (lines : List Line) : ConfigTuple :=
  let found := findLines lines
  let recorded := recordedMtu found.mtuLines
  .nine raw lines found.vmstates found.emptyMtu (KeyedLists.sortBy id found.virtioNics)
    (KeyedLists.sortBy id recorded.1) (recorded.2 || found.duplicateNics) found.mtuLines.length

/-- `read_snapshot_config` -/
def readSnapshotConfig (name : String) (raw : ByteArray) : Except String ConfigTuple := do
  dieIf (raw.size > maxConfigBytes) "VM config exceeds bounded observer limit"
  match String.fromUTF8? raw with
  | none => .error "'utf-8' codec can't decode bytes"
  | some text =>
    match (((splitlines text).zipIdx 1).foldl (scanLine name) ⟨[], none⟩).sections with
    | [lines] => return readSection raw lines
    | sections => return .five raw sections.length

/-! ## Sections -/

/-- The lines before the first header, and the sections with their titles. -/
def sectionsOf : List Line → List Line × List (String × List Line)
  | [] => ([], [])
  | line :: rest =>
    match header line.1 with
    | some title => ([], (title, (sectionsOf rest).1) :: (sectionsOf rest).2)
    | none => (line :: (sectionsOf rest).1, (sectionsOf rest).2)

def named (name : String) (lines : List Line) : List (List Line) :=
  ((sectionsOf lines).2.filter fun s => s.1 = name).map Prod.snd

def namedSections (name text : String) : List (List Line) := named name ((splitlines text).zipIdx 1)

theorem appendLast_concat (line : Line) (init : List (List Line)) (last : List Line) :
    appendLast line (init ++ [last]) = init ++ [last ++ [line]] := by
  induction init with
  | nil => rfl
  | cons first init ih =>
    obtain ⟨second, rest, hrest⟩ := List.exists_cons_of_ne_nil
      (show init ++ [last] ≠ [] by simp)
    rw [List.cons_append, hrest, appendLast, ← hrest, ih]
    rfl
    · simp

/-- The scan outside and inside a section of the name. -/
theorem scan_sections {name : String} (lines : List Line) (s : Scan) :
    (s.current ≠ some name →
      (lines.foldl (scanLine name) s).sections = s.sections ++ named name lines) ∧
    ∀ init last, s.current = some name → s.sections = init ++ [last] →
      (lines.foldl (scanLine name) s).sections =
        init ++ (last ++ (sectionsOf lines).1) :: named name lines := by
  induction lines generalizing s with
  | nil =>
    refine ⟨fun _ => by simp [named, sectionsOf], fun init last _ hs => ?_⟩
    simp [named, sectionsOf, hs]
  | cons line lines ih =>
    rw [List.foldl_cons]
    cases hheader : header line.1 with
    | none =>
      have hnamed : named name (line :: lines) = named name lines := by
        simp only [named, sectionsOf, hheader]
      rw [hnamed]
      constructor
      · intro hcurrent
        have hstep : scanLine name s line = s := by
          simp only [scanLine, hheader, hcurrent, false_and, if_false]
        rw [hstep]
        exact (ih s).1 hcurrent
      · intro init last hcurrent hs
        have hstep : scanLine name s line = ⟨init ++ [last ++ [line]], s.current⟩ := by
          have hne : init ++ [last] ≠ [] := by simp
          simp only [scanLine, hheader, hcurrent, hs, true_and, if_pos hne, appendLast_concat]
        rw [hstep, (ih ⟨init ++ [last ++ [line]], s.current⟩).2 init (last ++ [line]) hcurrent rfl]
        simp only [sectionsOf, hheader, List.append_assoc, List.singleton_append]
    | some title =>
      have hnamed : named name (line :: lines) =
          if title = name then (sectionsOf lines).1 :: named name lines else named name lines := by
        by_cases htitle : title = name <;> simp [named, sectionsOf, hheader, htitle]
      have hopening : (sectionsOf (line :: lines)).1 = [] := by
        simp only [sectionsOf, hheader]
      rw [hnamed, hopening]
      by_cases htitle : title = name
      · have hstep : scanLine name s line = ⟨s.sections ++ [[]], some name⟩ := by
          simp only [scanLine, hheader, htitle, if_true]
        rw [hstep, if_pos htitle, (ih _).2 s.sections [] rfl rfl]
        refine ⟨fun _ => rfl, fun init last _ hs => ?_⟩
        simp [hs]
      · have hstep : scanLine name s line = ⟨s.sections, some title⟩ := by
          simp only [scanLine, hheader, htitle, if_false]
        rw [hstep, if_neg htitle, (ih _).1 (by simpa using htitle)]
        refine ⟨fun _ => rfl, fun init last _ hs => ?_⟩
        simp [hs]

/-! ## Lines of a section -/

def vmstatesOf (lines : List Line) : List String := lines.filterMap fun line => vmstateOf line.1

def mtusOf (lines : List Line) : List String := lines.filterMap fun line => mtuOf line.1

/-- The network devices with their models. -/
def nicsOf (lines : List Line) : List (String × String) :=
  lines.filterMap fun line => nicOf line.1

def virtioOf (lines : List Line) : List String :=
  ((nicsOf lines).filter fun nic => nic.2 = "virtio").map Prod.fst

structure Finds (lines : List Line) (f : Found) : Prop where
  vmstates : f.vmstates.map Prod.snd = vmstatesOf lines
  mtuLines : f.mtuLines.map Prod.snd = mtusOf lines
  emptyMtu : f.emptyMtu = [] ↔ "" ∉ mtusOf lines
  seenNics : f.seenNics = (nicsOf lines).map Prod.fst
  virtioNics : f.virtioNics = virtioOf lines
  duplicateNics : f.duplicateNics = false ↔ ((nicsOf lines).map Prod.fst).Nodup

theorem nodup_concat {α : Type} {l : List α} {a : α} : (l ++ [a]).Nodup ↔ a ∉ l ∧ l.Nodup :=
  List.nodup_append_comm.trans List.nodup_cons

section
variable (f : Found) (line : Line)

@[simp] theorem vmstate_vmstates :
    (f.vmstate line).vmstates.map Prod.snd = f.vmstates.map Prod.snd ++
      (vmstateOf line.1).toList := by
  unfold Found.vmstate
  cases vmstateOf line.1 <;> simp

@[simp] theorem nic_vmstates : (f.nic line).vmstates = f.vmstates := by
  unfold Found.nic
  split <;> rfl

@[simp] theorem mtu_vmstates : (f.mtu line).vmstates = f.vmstates := by
  unfold Found.mtu
  split <;> rfl

@[simp] theorem vmstate_mtuLines : (f.vmstate line).mtuLines = f.mtuLines := by
  unfold Found.vmstate
  split <;> rfl

@[simp] theorem nic_mtuLines : (f.nic line).mtuLines = f.mtuLines := by
  unfold Found.nic
  split <;> rfl

@[simp] theorem mtu_mtuLines :
    (f.mtu line).mtuLines.map Prod.snd = f.mtuLines.map Prod.snd ++ (mtuOf line.1).toList := by
  unfold Found.mtu
  cases mtuOf line.1 <;> simp

@[simp] theorem vmstate_emptyMtu : (f.vmstate line).emptyMtu = f.emptyMtu := by
  unfold Found.vmstate
  split <;> rfl

@[simp] theorem nic_emptyMtu : (f.nic line).emptyMtu = f.emptyMtu := by
  unfold Found.nic
  split <;> rfl

theorem mtu_emptyMtu : (f.mtu line).emptyMtu = [] ↔ f.emptyMtu = [] ∧ mtuOf line.1 ≠ some "" := by
  unfold Found.mtu
  cases mtuOf line.1 with
  | none => simp
  | some value => by_cases hvalue : value = "" <;> simp [hvalue]

@[simp] theorem mtu_nics : (f.mtu line).seenNics = f.seenNics ∧
    (f.mtu line).virtioNics = f.virtioNics ∧ (f.mtu line).duplicateNics = f.duplicateNics := by
  unfold Found.mtu
  split <;> exact ⟨rfl, rfl, rfl⟩

@[simp] theorem vmstate_nics : (f.vmstate line).seenNics = f.seenNics ∧
    (f.vmstate line).virtioNics = f.virtioNics ∧
    (f.vmstate line).duplicateNics = f.duplicateNics := by
  unfold Found.vmstate
  split <;> exact ⟨rfl, rfl, rfl⟩

end

theorem findLines_finds (lines : List Line) : Finds lines (findLines lines) := by
  induction lines using List.reverseRecOn with
  | nil => exact ⟨rfl, rfl, by simp [findLines, mtusOf], rfl, rfl, by simp [findLines, nicsOf]⟩
  | append_singleton lines line ih =>
    have hlast : findLines (lines ++ [line]) =
        (((findLines lines).vmstate line).nic line).mtu line := by
      rw [findLines, List.foldl_append]
      rfl
    rw [hlast]
    generalize findLines lines = f at ih
    have hnics : nicsOf (lines ++ [line]) = nicsOf lines ++ (nicOf line.1).toList := by
      cases hnic : nicOf line.1 <;> simp [nicsOf, hnic]
    have hmtus : mtusOf (lines ++ [line]) = mtusOf lines ++ (mtuOf line.1).toList := by
      cases hmtu : mtuOf line.1 <;> simp [mtusOf, hmtu]
    have hvmstates : vmstatesOf (lines ++ [line]) = vmstatesOf lines ++
      (vmstateOf line.1).toList := by
      cases hvmstate : vmstateOf line.1 <;> simp [vmstatesOf, hvmstate]
    refine ⟨?_, ?_, ?_, ?_, ?_, ?_⟩
    · rw [mtu_vmstates, nic_vmstates, vmstate_vmstates, ih.vmstates, hvmstates]
    · rw [mtu_mtuLines, nic_mtuLines, vmstate_mtuLines, ih.mtuLines, hmtus]
    · rw [mtu_emptyMtu, nic_emptyMtu, vmstate_emptyMtu, ih.emptyMtu, hmtus, List.mem_append, not_or,
        Option.mem_toList]
    · rw [(mtu_nics _ _).1, hnics, List.map_append, ← ih.seenNics, ← (vmstate_nics f line).1]
      unfold Found.nic
      cases nicOf line.1 <;> simp
    · have hvirtio : virtioOf (lines ++ [line]) = virtioOf lines ++
          (((nicOf line.1).toList.filter fun nic => nic.2 = "virtio").map Prod.fst) := by
        rw [virtioOf, hnics, List.filter_append, List.map_append]
        rfl
      rw [(mtu_nics _ _).2.1, hvirtio, ← ih.virtioNics, ← (vmstate_nics f line).2.1]
      unfold Found.nic
      cases nicOf line.1 with
      | none => simp
      | some nic => by_cases hmodel : nic.2 = "virtio" <;> simp [hmodel]
    · rw [(mtu_nics _ _).2.2, hnics]
      have hseen : (f.vmstate line).seenNics = (nicsOf lines).map Prod.fst :=
        (vmstate_nics f line).1.trans ih.seenNics
      have hduplicate := (vmstate_nics f line).2.2
      unfold Found.nic
      cases nicOf line.1 with
      | none =>
        simp only [Option.toList_none, List.append_nil, hduplicate]
        exact ih.duplicateNics
      | some nic =>
        simp only [hduplicate, hseen, Option.toList_some, List.map_append, List.map_cons,
          List.map_nil,
          Bool.or_eq_false_iff, decide_eq_false_iff_not, ih.duplicateNics]
        rw [nodup_concat, and_comm]

section
-- an item is only compared
attribute [local irreducible] mtuItem

theorem readItems_cons (recorded : List String) (item : String) (rest : List String) :
    readItems recorded (item :: rest) =
      match mtuItem item with
      | none => (recorded, true)
      | some nic => if nic ∈ recorded then (recorded, true) else readItems (recorded ++ [nic]) rest :=
  rfl

/-- The recorded devices, when every item is well formed and none is repeated. -/
theorem readItems_spec {recorded items out : List String} (hnodup : recorded.Nodup) :
    readItems recorded items = (out, false) ↔ ∃ names,
      items.map mtuItem = names.map some ∧ (recorded ++ names).Nodup ∧ out = recorded ++ names := by
  induction items generalizing recorded with
  | nil =>
    change (recorded, false) = (out, false) ↔ _
    constructor
    · intro h
      cases h
      exact ⟨[], rfl, by simpa using hnodup, by simp⟩
    · intro h
      obtain ⟨names, hnames, _, rfl⟩ := h
      have hnil : names = [] := by simpa using hnames.symm
      rw [hnil, List.append_nil]
  | cons item items ih =>
    cases hitem : mtuItem item with
    | none =>
      simp only [readItems_cons, hitem]
      refine iff_of_false (by simp) ?_
      rintro ⟨names, hnames, _⟩
      cases names with
      | nil => cases hnames
      | cons nic names => simp [hitem] at hnames
    | some nic =>
      by_cases hseen : nic ∈ recorded
      · simp only [readItems_cons, hitem, hseen, if_true]
        refine iff_of_false (by simp) ?_
        rintro ⟨names, hnames, hdistinct, _⟩
        cases names with
        | nil => cases hnames
        | cons nic' names =>
          rw [List.map_cons, List.map_cons, hitem, List.cons.injEq, Option.some.injEq] at hnames
          rw [← hnames.1, List.nodup_append] at hdistinct
          exact hdistinct.2.2 nic hseen nic List.mem_cons_self rfl
      · simp only [readItems_cons, hitem, hseen, if_false]
        rw [ih (nodup_concat.mpr ⟨hseen, hnodup⟩)]
        constructor
        · intro h
          obtain ⟨names, hnames, hdistinct, rfl⟩ := h
          exact ⟨nic :: names, by rw [List.map_cons, hitem, hnames]; rfl, by simpa using hdistinct,
            by simp⟩
        · intro h
          obtain ⟨names, hnames, hdistinct, rfl⟩ := h
          cases names with
          | nil => cases hnames
          | cons nic' names =>
            rw [List.map_cons, List.map_cons, hitem, List.cons.injEq, Option.some.injEq] at hnames
            obtain ⟨rfl, hrest⟩ := hnames
            exact ⟨names, hrest, by simpa using hdistinct, by simp⟩

end

/-! ## What closes a snapshot -/

/-- A value of comma-separated `netN=digits` items records these devices, each once. -/
def Records (value : String) (names : List String) : Prop :=
  (split ',' value).map mtuItem = names.map some ∧ names.Nodup

/-- One vmstate, each device named once, and one MTU line that records exactly the VirtIO devices,
  of
which there is at least one. -/
structure RamClosed (lines : List Line) : Prop where
  vmstate : ∃ volid, vmstatesOf lines = [volid]
  distinct : ((nicsOf lines).map Prod.fst).Nodup
  virtio : virtioOf lines ≠ []
  recorded : ∃ value names, mtusOf lines = [value] ∧ Records value names ∧
    ∀ nic, nic ∈ names ↔ nic ∈ virtioOf lines

structure DiskClosed (lines : List Line) : Prop where
  noVmstate : vmstatesOf lines = []
  noMtu : mtusOf lines = []

theorem virtioOf_nodup {lines : List Line} (h : ((nicsOf lines).map Prod.fst).Nodup) :
    (virtioOf lines).Nodup :=
  h.sublist (List.filter_sublist.map Prod.fst)

theorem isNic_plain {s : String} (h : isNic s = true) : s ≠ "" ∧ ',' ∉ s.toList := by
  obtain ⟨hstart, hdigits⟩ : "net".toList <+: s.toList ∧
      plus Char.isDigit (String.ofList (s.toList.drop 3)) = true := by
    simpa [isNic] using h
  obtain ⟨rest, hrest⟩ := hstart
  refine ⟨?_, ?_⟩
  · rintro rfl
    cases hrest
  · rw [← hrest] at hdigits ⊢
    have hall := (plus_iff.mp hdigits).2
    intro hcomma
    rcases List.mem_append.mp hcomma with hnet | hmem
    · revert hnet
      decide
    · have hdigit := hall ',' (by simpa using hmem)
      cases hdigit

end SharedLvmThin.SnapshotObserver
