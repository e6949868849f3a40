import SharedLvmThin.PerlJson
import SharedLvmThin.ThickVolume

/-! The owner's configuration on destruction. A volume tree goes away with its VM only after a
  reader
found the volume in every place of the configuration where it may stand, and nowhere else. -/

namespace SharedLvmThin.ThickDestroy
open Perl

/-! ## Lines -/

/-- `/^\s*$/` -/
def isBlank (line : String) : Bool := line.toList.all isSpace

/-- `/^#/` -/
def isComment (line : String) : Bool := line.toList.head? = some '#'

/-- `index($text, $part) >= 0` -/
def contains (text part : String) : Bool := part.toList <:+: text.toList

/-- `/^\[([^\]]+)\]\s*$/`; a line holds no line feed. -/
def header? (line : String) : Option String :=
  match line.toList with
  | '[' :: rest =>
    match rest.takeWhile (· ≠ ']'), rest.dropWhile (· ≠ ']') with
    | first :: name, ']' :: tail =>
      if tail.all isSpace then some (String.ofList (first :: name)) else none
    | _, _ => none
  | _ => none

def isKeyChar (c : Char) : Bool := c.isAlphanum || c ∈ ['_', '-']

/-- `/^([A-Za-z][A-Za-z0-9_-]*):\s*(.*?)\s*$/` -/
def field? (line : String) : Option (String × String) :=
  match line.toList.takeWhile isKeyChar, line.toList.dropWhile isKeyChar with
  | first :: key, ':' :: value =>
    if first.isAlpha then some (String.ofList (first :: key), trim (String.ofList value)) else none
  | _, _ => none

/-- `/^(?:(?:ide|sata|scsi|virtio|unused)[0-9]+|efidisk0|tpmstate0)$/` -/
def isDiskKey (key : String) : Bool :=
  ["ide", "sata", "scsi", "virtio", "unused"].any (fun bus =>
    (ThickVolume.stripPrefix? bus key).any (plus Char.isDigit)) || key ∈ ["efidisk0", "tpmstate0"]

/-- `/^\Q$volid\E(?:,[^\s]*)?$/` -/
def namesVolume (volid value : String) : Bool :=
  (ThickVolume.stripPrefix? volid value).any fun rest =>
    match rest.toList with
    | [] => true
    | c :: options => c = ',' && options.all (!isSpace ·)

section
local instance chars_lawful : LawfulBEq (List Char) := inferInstance

/-- `/(?:^|,)media=cdrom(?:,|$)/` -/
def isCdrom (value : String) : Bool := "media=cdrom".toList ∈ value.toList.splitOn ','

end

/-- `/^special:/` -/
def isSpecial (name : String) : Bool := (ThickVolume.stripPrefix? "special:" name).isSome

/-- `/[\x00-\x08\x0b\x0c\x0e-\x1f\x7f]/` -/
def isBinary (c : Char) : Bool := (c.toNat < 32 && c ∉ ['\t', '\n', '\r']) || c.toNat = 127

/-! ## The reader -/

structure Reader where
  sectionName : String
  references : Nat
  sections : List String
  keys : List String

def readHeader (r : Reader) (name : String) : Except String Reader := do
  dieIf (name = "PENDING" || isSpecial name || name ∈ r.sections)
    "qmdestroy pending/special/ambiguous section is not admissible\n"
  let _ ← ThickVolume.snapshotName (some name)
  return { r with sectionName := name, sections := name :: r.sections }

def readField (volid : String) (snapshots : List String) (r : Reader) (key value : String) :
    Except String Reader := do
  dieIf (r.sectionName ++ ":" ++
    key ∈ r.keys) "qmdestroy config has an unknown or duplicate field\n"
  let r := { r with keys := (r.sectionName ++ ":" ++ key) :: r.keys }
  dieIf (key = "lock" || key =
    "snapstate") "qmdestroy config contains a lock or unfinished snapshot\n"
  dieIf ((key = "template" || key = "protection") && value ≠ "0")
    "qmdestroy config is protected or a template\n"
  if !contains value volid then return r
  dieIf (!isDiskKey key || !namesVolume volid value || isCdrom value)
    "qmdestroy volume reference has unknown semantics\n"
  dieIf (r.sectionName ≠ "" && r.sectionName ∉ snapshots)
    "qmdestroy config references an unsigned snapshot\n"
  return { r with references := r.references + 1 }

def readLine (volid : String) (snapshots : List String) (r : Reader) (line : String) :
    Except String Reader :=
  if isBlank line || (isComment line && !contains line volid) then .ok r
  else
    match header? line with
    | some name => readHeader r name
    | none =>
      match field? line with
      | some (key, value) => readField volid snapshots r key value
      | none => .error "qmdestroy config has an unknown or duplicate field\n"

def readLines (volid : String) (snapshots : List String) (r : Reader) :
    List String → Except String Reader
  | [] => .ok r
  | line :: rest => do
    let r ← readLine volid snapshots r line
    readLines volid snapshots r rest

def maxConfig : Nat := 4 * 1024 * 1024

def configLines (text : String) : List String := splitOn '\n' text

/-- `_thick_validate_destroy_config` -/
def validateDestroyConfig (storeid volname text : String) (snapshots : List String) :
    Except String String := do
  dieIf (text = "" || text.length > maxConfig || text.toList.any isBinary)
    "qmdestroy config is empty, oversized or contains binary data\n"
  let r ← readLines (storeid ++ ":" ++ volname) snapshots ⟨"", 0, [], []⟩ (configLines text)
  dieIf (r.references = 0) "qmdestroy scanner/config reference mismatch\n"
  Sha256.sha256Hex text

/-! ## Safe configurations -/

/-- A field of the configuration and the section it stands in; the main section has no name. -/
structure Field where
  sectionName : String
  key : String
  value : String
deriving DecidableEq

def headers (lines : List String) : List String := lines.filterMap header?

def fieldsFrom (sectionName : String) : List String → List Field
  | [] => []
  | line :: rest =>
    match header? line with
    | some name => fieldsFrom name rest
    | none =>
      match field? line with
      | some (key, value) => ⟨sectionName, key, value⟩ :: fieldsFrom sectionName rest
      | none => fieldsFrom sectionName rest

def fieldsOf (text : String) : List Field := fieldsFrom "" (configLines text)

/-- No character of a volume id stands beside the reference. -/
def isEdge (c : Option Char) : Bool := !c.any Thick.isTokenChar

def refersAfter (volid : List Char) (previous : Option Char) : List Char → Bool
  | [] => false
  | c :: rest =>
    isEdge previous && volid.isPrefixOf (c :: rest) && isEdge ((c :: rest).drop volid.length).head?
      ||
      refersAfter volid (some c) rest

/-- The text mentions this volume, not only one whose id is longer. -/
def refersExactly (volid text : String) : Bool := refersAfter volid.toList none text.toList

/-- A disk field that names the volume, in the main section or in one of a signed snapshot. -/
structure Owned (volid : String) (snapshots : List String) (f : Field) : Prop where
  disk : isDiskKey f.key = true
  volume : namesVolume volid f.value = true
  writable : isCdrom f.value = false
  signed : f.sectionName = "" ∨ f.sectionName ∈ snapshots

/-- A line that the configuration may contain. -/
def Readable (volid line : String) : Prop :=
  isBlank line = true ∨ (isComment line = true ∧ contains line volid = false) ∨
    (header? line).isSome = true ∨ (field? line).isSome = true

structure ValidSection (name : String) : Prop where
  token : Thick.isToken name = true
  settled : name ≠ "PENDING"
  plain : isSpecial name = false

structure Safe (volid : String) (snapshots : List String) (text : String) : Prop where
  nonempty : text ≠ ""
  size : text.length ≤ maxConfig
  plain : ∀ c ∈ text.toList, isBinary c = false
  readable : ∀ line ∈ configLines text, Readable volid line
  valid : ∀ name ∈ headers (configLines text), ValidSection name
  sections : (headers (configLines text)).Nodup
  unique : ((fieldsOf text).map fun f => (f.sectionName, f.key)).Nodup
  unlocked : ∀ f ∈ fieldsOf text, f.key ≠ "lock" ∧ f.key ≠ "snapstate"
  unprotected : ∀ f ∈ fieldsOf text, f.key = "template" ∨ f.key = "protection" → f.value = "0"
  owned : ∀ f ∈ fieldsOf text, refersExactly volid f.value = true → Owned volid snapshots f
  referenced : ∃ f ∈ fieldsOf text, refersExactly volid f.value = true

/-- No field mentions the volume id only inside a longer one. -/
def NoLongerId (volid text : String) : Prop :=
  ∀ f ∈ fieldsOf text, contains f.value volid = true → refersExactly volid f.value = true

/-! ## One line -/

theorem isKeyChar_of_ascii : ∀ n < 128, isKeyChar (Char.ofNat n) = true →
    isSpace (Char.ofNat n) = false := by
  decide

theorem isKeyChar_of_isSpace {c : Char} (h : isSpace c = true) : isKeyChar c = false := by
  by_contra hkey
  rw [Bool.not_eq_false] at hkey
  have hsmall : c.toNat < 128 := by
    simp only [isKeyChar, Bool.or_eq_true, decide_eq_true_eq] at hkey
    rcases hkey with hkey | hkey
    · exact TagCodec.word_ascii (by simp [isWord, hkey])
    · simp only [List.mem_cons, List.not_mem_nil, or_false] at hkey
      rcases hkey with rfl | rfl <;> decide
  have hself : Char.ofNat c.toNat = c := Char.ofNat_toNat c
  have hspace := isKeyChar_of_ascii c.toNat hsmall (by rw [hself]; exact hkey)
  rw [hself, h] at hspace
  cases hspace

theorem field?_eq_none {line : String} (h : ∀ c ∈ line.toList.head?, isKeyChar c = false) :
    field? line = none := by
  unfold field?
  cases hline : line.toList with
  | nil => rfl
  | cons c rest =>
    rw [hline] at h
    have hc := h c rfl
    simp [hc]

theorem header?_eq_none {line : String} (h : ∀ c ∈ line.toList.head?, c ≠ '[') :
    header? line = none := by
  unfold header?
  split
  · rename_i rest hline
    rw [hline] at h
    exact absurd rfl (h '[' rfl)
  · rfl

/-- Lines that the reader passes over are neither a header nor a field. -/
theorem skipped_plain {volid line : String}
    (h : isBlank line = true ∨ (isComment line = true ∧ contains line volid = false)) :
    header? line = none ∧ field? line = none := by
  have hhead : ∀ c ∈ line.toList.head?, isSpace c = true ∨ c = '#' := by
    intro c hc
    rcases h with hblank | ⟨hcomment, -⟩
    · exact .inl (List.all_eq_true.mp hblank c (List.mem_of_mem_head? hc))
    · rw [isComment, decide_eq_true_eq] at hcomment
      rw [hcomment, Option.mem_some_iff] at hc
      exact .inr hc.symm
  constructor
  · refine header?_eq_none fun c hc => ?_
    rcases hhead c hc with hspace | rfl
    · rintro rfl
      exact absurd hspace (by decide)
    · decide
  · refine field?_eq_none fun c hc => ?_
    rcases hhead c hc with hspace | rfl
    · exact isKeyChar_of_isSpace hspace
    · decide

theorem fieldsFrom_skipped {line sectionName : String} {rest : List String}
    (h : header? line = none ∧ field? line = none) :
    fieldsFrom sectionName (line :: rest) = fieldsFrom sectionName rest := by
  rw [fieldsFrom, h.1, h.2]

theorem fieldsFrom_header {line name sectionName : String} {rest : List String}
    (h : header? line = some name) : fieldsFrom sectionName (line :: rest) =
        fieldsFrom name rest := by
  rw [fieldsFrom, h]

theorem fieldsFrom_field {line key value sectionName : String} {rest : List String}
    (hheader : header? line = none) (h : field? line = some (key, value)) :
    fieldsFrom sectionName (line :: rest) =
      ⟨sectionName, key, value⟩ :: fieldsFrom sectionName rest := by
  rw [fieldsFrom, hheader, h]

/-! ## Runs of the reader -/

/-- The text under which the reader remembers a field. -/
def Field.id (f : Field) : String := f.sectionName ++ ":" ++ f.key

structure Admissible (volid : String) (snapshots : List String) (f : Field) : Prop where
  unlocked : f.key ≠ "lock" ∧ f.key ≠ "snapstate"
  unprotected : f.key = "template" ∨ f.key = "protection" → f.value = "0"
  owned : contains f.value volid = true → Owned volid snapshots f

/-- What the reader asks of the lines that are left. -/
structure Admits (volid : String) (snapshots : List String) (r : Reader) (lines : List String) :
    Prop where
  readable : ∀ line ∈ lines, Readable volid line
  valid : ∀ name ∈ headers lines, ValidSection name
  sections : (headers lines).Nodup ∧ ∀ name ∈ headers lines, name ∉ r.sections
  keys : ((fieldsFrom r.sectionName lines).map Field.id).Nodup ∧
    ∀ f ∈ fieldsFrom r.sectionName lines, f.id ∉ r.keys
  fields : ∀ f ∈ fieldsFrom r.sectionName lines, Admissible volid snapshots f

def mentions (volid : String) (fields : List Field) : Nat :=
  fields.countP fun f => contains f.value volid

theorem readHeader_eq_ok {r r' : Reader} {name : String} : readHeader r name = .ok r' ↔
    (ValidSection name ∧ name ∉ r.sections) ∧
      r' = { r with sectionName := name, sections := name :: r.sections } := by
  have htoken : Thick.isToken name = true → name ≠ "" := by
    rintro h rfl
    exact absurd h (by decide)
  simp only [readHeader, ThickVolume.snapshotName, bind_eq_ok, dieIf_eq_ok, exists_unit, pure_eq_ok,
    Bool.or_eq_false_iff, decide_eq_false_iff_not, Option.getD_some, Bool.not_eq_false']
  constructor
  · rintro ⟨⟨⟨hpending, hspecial⟩, hfresh⟩, -, ⟨-, htok, -⟩, rfl⟩
    exact ⟨⟨⟨htok, hpending, hspecial⟩, hfresh⟩, rfl⟩
  · rintro ⟨⟨hvalid, hfresh⟩, rfl⟩
    exact ⟨⟨⟨hvalid.settled, hvalid.plain⟩, hfresh⟩, name, ⟨htoken hvalid.token, hvalid.token, rfl⟩,
      rfl⟩

theorem readField_eq_ok {volid key value : String} {snapshots : List String} {r r' : Reader} :
    readField volid snapshots r key value = .ok r' ↔
      (Field.id ⟨r.sectionName, key, value⟩ ∉ r.keys ∧
        Admissible volid snapshots ⟨r.sectionName, key, value⟩) ∧
      r' = { r with
        references := r.references + mentions volid [⟨r.sectionName, key, value⟩]
        keys := Field.id ⟨r.sectionName, key, value⟩ :: r.keys } := by
  cases hmention : contains value volid with
  | false =>
    simp only [readField, hmention, Bool.not_false, if_true, bind_eq_ok, dieIf_eq_ok, exists_unit,
      pure_eq_ok, Bool.or_eq_false_iff, Bool.and_eq_false_iff, decide_eq_false_iff_not, not_not,
      mentions, List.countP_singleton, Field.id]
    constructor
    · rintro ⟨hfresh, hunlocked, hopen, rfl⟩
      refine ⟨⟨hfresh, hunlocked, ?_, ?_⟩, by simp⟩
      · intro hkey
        tauto
      · intro hcontains
        rw [hmention] at hcontains
        cases hcontains
    · rintro ⟨⟨hfresh, hadmissible⟩, rfl⟩
      have hopen := hadmissible.unprotected
      refine ⟨hfresh, hadmissible.unlocked, ?_, by simp⟩
      tauto
  | true =>
    simp only [readField, hmention, Bool.not_true, bind_eq_ok, dieIf_eq_ok, exists_unit,
      pure_eq_ok, Bool.or_eq_false_iff, Bool.and_eq_false_iff, decide_eq_false_iff_not, not_not,
      mentions, List.countP_singleton, Field.id, Bool.false_eq_true, if_false, if_true,
      Bool.not_eq_false']
    constructor
    · rintro ⟨hfresh, hunlocked, hopen, ⟨⟨hdisk, hvolume⟩, hcdrom⟩, hsigned, rfl⟩
      refine ⟨⟨hfresh, hunlocked, ?_, fun _ => ⟨hdisk, hvolume, hcdrom, hsigned⟩⟩, rfl⟩
      intro hkey
      tauto
    · rintro ⟨⟨hfresh, hadmissible⟩, rfl⟩
      have hopen := hadmissible.unprotected
      have howned := hadmissible.owned hmention
      refine ⟨hfresh, hadmissible.unlocked, ?_, ⟨⟨howned.disk, howned.volume⟩, howned.writable⟩,
        howned.signed, rfl⟩
      tauto

section
variable {volid line : String} {snapshots rest : List String} {r : Reader}

theorem admits_nil : Admits volid snapshots r [] := by
  constructor <;> simp [headers, fieldsFrom]

theorem admits_skipped (hline : Readable volid line)
    (h : header? line = none ∧ field? line = none) :
    Admits volid snapshots r (line :: rest) ↔ Admits volid snapshots r rest := by
  have hheaders : headers (line :: rest) = headers rest := by
    rw [headers, List.filterMap_cons_none h.1, headers]
  have hfields := @fieldsFrom_skipped line r.sectionName rest h
  constructor
  · rintro ⟨hreadable, hvalid, hsections, hkeys, hadmissible⟩
    rw [hheaders] at hvalid hsections
    rw [hfields] at hkeys hadmissible
    exact ⟨(List.forall_mem_cons.mp hreadable).2, hvalid, hsections, hkeys, hadmissible⟩
  · rintro ⟨hreadable, hvalid, hsections, hkeys, hadmissible⟩
    constructor
    · exact List.forall_mem_cons.mpr ⟨hline, hreadable⟩
    · rw [hheaders]
      exact hvalid
    · rw [hheaders]
      exact hsections
    · rw [hfields]
      exact hkeys
    · rw [hfields]
      exact hadmissible

theorem fresh_cons {α β : Type} {key : α → β} {a : α} {l : List α} {seen : List β} :
    (((a :: l).map key).Nodup ∧ ∀ b ∈ a :: l, key b ∉ seen) ↔
      key a ∉ seen ∧ (l.map key).Nodup ∧ ∀ b ∈ l, key b ∉ key a :: seen := by
  rw [List.map_cons, List.nodup_cons, List.forall_mem_cons]
  simp only [List.mem_map, List.mem_cons, not_or, not_exists, not_and]
  constructor
  · rintro ⟨⟨hnew, hnodup⟩, hfresh, hrest⟩
    exact ⟨hfresh, hnodup, fun b hb => ⟨hnew b hb, hrest b hb⟩⟩
  · rintro ⟨hfresh, hnodup, hrest⟩
    exact ⟨⟨fun b hb => (hrest b hb).1, hnodup⟩, hfresh, fun b hb => (hrest b hb).2⟩

theorem admits_header {name : String} (h : header? line = some name) :
    Admits volid snapshots r (line :: rest) ↔ (ValidSection name ∧ name ∉ r.sections) ∧
      Admits volid snapshots { r with sectionName := name, sections := name ::
        r.sections } rest := by
  have hheaders : headers (line :: rest) = name :: headers rest := by
    rw [headers, List.filterMap_cons_some h, headers]
  have hline : Readable volid line := .inr (.inr (.inl (by rw [h]; rfl)))
  have hfields := @fieldsFrom_header line name r.sectionName rest h
  have hfresh := @fresh_cons String String id name (headers rest) r.sections
  simp only [List.map_id, id] at hfresh
  constructor
  · rintro ⟨hreadable, hvalid, hsections, hkeys, hadmissible⟩
    rw [hheaders] at hvalid hsections
    rw [hfields] at hkeys hadmissible
    obtain ⟨hname, hvalid⟩ := List.forall_mem_cons.mp hvalid
    obtain ⟨hnew, hsections⟩ := hfresh.mp hsections
    exact ⟨⟨hname, hnew⟩, (List.forall_mem_cons.mp hreadable).2, hvalid, hsections, hkeys,
      hadmissible⟩
  · rintro ⟨⟨hname, hnew⟩, hreadable, hvalid, hsections, hkeys, hadmissible⟩
    constructor
    · exact List.forall_mem_cons.mpr ⟨hline, hreadable⟩
    · rw [hheaders]
      exact List.forall_mem_cons.mpr ⟨hname, hvalid⟩
    · rw [hheaders]
      exact hfresh.mpr ⟨hnew, hsections⟩
    · rw [hfields]
      exact hkeys
    · rw [hfields]
      exact hadmissible

theorem admits_field {key value : String} {references : Nat} (hheader : header? line = none)
    (h : field? line = some (key, value)) :
    Admits volid snapshots r (line :: rest) ↔
      (Field.id ⟨r.sectionName, key, value⟩ ∉ r.keys ∧
        Admissible volid snapshots ⟨r.sectionName, key, value⟩) ∧
      Admits volid snapshots { r with
        references := references
        keys := Field.id ⟨r.sectionName, key, value⟩ :: r.keys } rest := by
  have hheaders : headers (line :: rest) = headers rest := by
    rw [headers, List.filterMap_cons_none hheader, headers]
  have hline : Readable volid line := .inr (.inr (.inr (by rw [h]; rfl)))
  have hfields := @fieldsFrom_field line key value r.sectionName rest hheader h
  have hfresh := @fresh_cons Field String Field.id ⟨r.sectionName, key, value⟩
    (fieldsFrom r.sectionName rest) r.keys
  constructor
  · rintro ⟨hreadable, hvalid, hsections, hkeys, hadmissible⟩
    rw [hheaders] at hvalid hsections
    rw [hfields] at hkeys hadmissible
    obtain ⟨hfield, hadmissible⟩ := List.forall_mem_cons.mp hadmissible
    obtain ⟨hnew, hkeys⟩ := hfresh.mp hkeys
    exact ⟨⟨hnew, hfield⟩, (List.forall_mem_cons.mp hreadable).2, hvalid, hsections, hkeys,
      hadmissible⟩
  · rintro ⟨⟨hnew, hfield⟩, hreadable, hvalid, hsections, hkeys, hadmissible⟩
    constructor
    · exact List.forall_mem_cons.mpr ⟨hline, hreadable⟩
    · rw [hheaders]
      exact hvalid
    · rw [hheaders]
      exact hsections
    · rw [hfields]
      exact hfresh.mpr ⟨hnew, hkeys⟩
    · rw [hfields]
      exact List.forall_mem_cons.mpr ⟨hfield, hadmissible⟩

end

theorem mentions_cons (volid : String) (f : Field) (fields : List Field) :
    mentions volid (f :: fields) = mentions volid [f] + mentions volid fields := by
  rw [mentions, mentions, mentions, ← List.countP_append, List.singleton_append]

/-- The reader takes the lines exactly when they are admissible, and counts the mentions. -/
theorem readLines_spec (volid : String) (snapshots lines : List String) (r : Reader) :
    match readLines volid snapshots r lines with
    | .ok r' => Admits volid snapshots r lines ∧
      r'.references = r.references + mentions volid (fieldsFrom r.sectionName lines)
    | .error _ => ¬ Admits volid snapshots r lines := by
  induction lines generalizing r with
  | nil => exact ⟨admits_nil, rfl⟩
  | cons line rest ih =>
    rw [readLines, readLine]
    by_cases hskip : isBlank line = true ∨ (isComment line = true ∧ contains line volid = false)
    · have hplain := skipped_plain hskip
      have hline : Readable volid line := by
        rcases hskip with hblank | hcomment
        · exact .inl hblank
        · exact .inr (.inl hcomment)
      rw [if_pos (by simpa using hskip), admits_skipped hline hplain, fieldsFrom_skipped hplain]
      exact ih r
    rw [if_neg (by simpa using hskip)]
    cases hheader : header? line with
    | some name =>
      rw [admits_header hheader, fieldsFrom_header hheader]
      dsimp only
      cases hread : readHeader r name with
      | error message =>
        rintro ⟨hname, -⟩
        rw [readHeader_eq_ok.mpr ⟨hname, rfl⟩] at hread
        cases hread
      | ok r' =>
        obtain ⟨hname, rfl⟩ := readHeader_eq_ok.mp hread
        rw [and_iff_right hname]
        exact ih { r with sectionName := name, sections := name :: r.sections }
    | none =>
      dsimp only
      cases hfield : field? line with
      | none =>
        intro hadmits
        have hline := (List.forall_mem_cons.mp hadmits.readable).1
        simp only [Readable, hheader, hfield, Option.isSome_none, Bool.false_eq_true,
          or_false] at hline
        exact hskip hline
      | some field =>
        obtain ⟨key, value⟩ := field
        have hstep := @admits_field volid line snapshots rest r key value
          (r.references + mentions volid [⟨r.sectionName, key, value⟩]) hheader hfield
        dsimp only
        have hcount := mentions_cons volid ⟨r.sectionName, key,
          value⟩ (fieldsFrom r.sectionName rest)
        rw [hstep, fieldsFrom_field hheader hfield, hcount, ← Nat.add_assoc]
        cases hread : readField volid snapshots r key value with
        | error message =>
          rintro ⟨hnew, -⟩
          rw [readField_eq_ok.mpr ⟨hnew, rfl⟩] at hread
          cases hread
        | ok r' =>
          obtain ⟨hnew, rfl⟩ := readField_eq_ok.mp hread
          rw [and_iff_right hnew]
          exact ih { r with
            references := r.references + mentions volid [⟨r.sectionName, key, value⟩]
            keys := Field.id ⟨r.sectionName, key, value⟩ :: r.keys }

/-! ## References -/

theorem stripPrefix?_eq_some {lead name rest : String} (h : ThickVolume.stripPrefix? lead name =
    some rest) :
    name.toList = lead.toList ++ rest.toList := by
  unfold ThickVolume.stripPrefix? at h
  split at h
  · rename_i hprefix
    rw [Option.some.injEq] at h
    obtain ⟨tail, htail⟩ := List.isPrefixOf_iff_prefix.mp hprefix
    rw [← h, String.toList_ofList, ← htail, List.drop_left]
  · cases h

/-- The volume of a disk field is an exact reference. -/
theorem refersExactly_of_namesVolume {volid value : String} (hne : volid ≠ "")
    (h : namesVolume volid value = true) : refersExactly volid value = true := by
  obtain ⟨rest, hrest, hedge⟩ := (Option.any_eq_true _ _).mp h
  have hvalue := stripPrefix?_eq_some hrest
  have hboundary : isEdge rest.toList.head? = true := by
    cases hlist : rest.toList with
    | nil => rfl
    | cons c options =>
      rw [hlist] at hedge
      simp only [Bool.and_eq_true, decide_eq_true_eq] at hedge
      rw [hedge.1, List.head?_cons]
      decide
  cases hvolid : volid.toList with
  | nil => exact absurd (String.toList_eq_nil_iff.mp hvolid) hne
  | cons c tail =>
    rw [hvolid, List.cons_append] at hvalue
    have hprefix : (c :: tail).isPrefixOf (c :: (tail ++ rest.toList)) = true :=
      List.isPrefixOf_iff_prefix.mpr (List.prefix_append (c :: tail) rest.toList)
    have hdrop : (c :: (tail ++ rest.toList)).drop (c :: tail).length = rest.toList :=
      List.drop_left
    rw [refersExactly, hvolid, hvalue, refersAfter, hprefix, hdrop, hboundary]
    rfl

theorem contains_of_refersExactly {volid text : String} (h : refersExactly volid text = true) :
    contains text volid = true := by
  have hall : ∀ (l : List Char) (previous : Option Char),
      refersAfter volid.toList previous l = true → volid.toList <:+: l := by
    intro l
    induction l with
    | nil =>
      intro previous h
      cases h
    | cons c rest ih =>
      intro previous h
      rw [refersAfter, Bool.or_eq_true, Bool.and_eq_true, Bool.and_eq_true] at h
      rcases h with ⟨⟨-, hprefix⟩, -⟩ | hrest
      · exact (List.isPrefixOf_iff_prefix.mp hprefix).isInfix
      · exact (ih _ hrest).trans (List.suffix_cons c rest).isInfix
  exact decide_eq_true (hall text.toList none h)

/-! ## Fields -/

theorem field?_key {line key value : String} (h : field? line = some (key, value)) :
    ∀ c ∈ key.toList, isKeyChar c = true := by
  unfold field? at h
  split at h
  · rename_i first name rest hkey hrest
    split at h
    · cases h
      rw [String.toList_ofList, ← hkey]
      intro c hc
      exact List.mem_takeWhile_imp hc
    · cases h
  · cases h

theorem fieldsFrom_key {sectionName : String} {lines : List String} :
    ∀ f ∈ fieldsFrom sectionName lines, ∀ c ∈ f.key.toList, isKeyChar c = true := by
  induction lines generalizing sectionName with
  | nil => simp [fieldsFrom]
  | cons line rest ih =>
    rw [fieldsFrom]
    split
    · exact ih
    · split
      · rename_i key value hfield
        exact List.forall_mem_cons.mpr ⟨field?_key hfield, ih⟩
      · exact ih

theorem colon_inj {s s' k k' : List Char} (hk : ':' ∉ k) (hk' : ':' ∉ k')
    (h : s ++ ':' :: k = s' ++ ':' :: k') : s = s' ∧ k = k' := by
  have hside : ∀ {s k k' rest : List Char}, ':' ∉ k → ':' :: k = rest ++ ':' :: k' →
      rest = [] ∧ k = k' := by
    intro s k k' rest hk heq
    cases rest with
    | nil => exact ⟨rfl, (List.cons.inj heq).2⟩
    | cons c rest =>
      have htail := (List.cons.inj heq).2
      rw [htail] at hk
      exact absurd (by simp) hk
  rcases List.append_eq_append_iff.mp h with ⟨rest, hs, hrest⟩ | ⟨rest, hs, hrest⟩
  · obtain ⟨hnil, hkeys⟩ := @hside s k k' rest hk hrest
    exact ⟨by rw [hs, hnil, List.append_nil], hkeys⟩
  · obtain ⟨hnil, hkeys⟩ := @hside s k' k rest hk' hrest
    exact ⟨by rw [hs, hnil, List.append_nil], hkeys.symm⟩

theorem id_inj {f g : Field} (hf : ∀ c ∈ f.key.toList, isKeyChar c = true)
    (hg : ∀ c ∈ g.key.toList, isKeyChar c = true) :
    f.id = g.id ↔ (f.sectionName, f.key) = (g.sectionName, g.key) := by
  have hcolon : ∀ {key : String}, (∀ c ∈ key.toList, isKeyChar c = true) → ':' ∉ key.toList := by
    intro key hkey hmem
    exact absurd (hkey ':' hmem) (by decide)
  have hlist : ∀ f : Field, f.id.toList = f.sectionName.toList ++ ':' :: f.key.toList := by
    intro f
    simp [Field.id, String.toList_append]
  rw [← String.toList_inj, hlist, hlist, Prod.mk.injEq, ← String.toList_inj, ← String.toList_inj]
  constructor
  · exact colon_inj (hcolon hf) (hcolon hg)
  · rintro ⟨hsection, hkey⟩
    rw [hsection, hkey]

theorem unique_iff {sectionName : String} {lines : List String} :
    ((fieldsFrom sectionName lines).map Field.id).Nodup ↔
      ((fieldsFrom sectionName lines).map fun f => (f.sectionName, f.key)).Nodup := by
  rw [List.Nodup, List.Nodup, List.pairwise_map, List.pairwise_map]
  refine List.Pairwise.iff_of_mem fun {f g} hf hg => not_congr ?_
  exact id_inj (fieldsFrom_key f hf) (fieldsFrom_key g hg)

/-! ## The whole configuration -/

/-- Text read from a file: every character is a byte. -/
structure ConfigText where
  text : String
  bytes : Value.isBytes text = true

section
variable (storeid volname : String) (snapshots : List String) (config : ConfigText)

def Accepts : Prop :=
  ∃ digest, validateDestroyConfig storeid volname config.text snapshots = .ok digest

theorem accepts_iff_admits : Accepts storeid volname snapshots config ↔
    (config.text ≠ "" ∧ config.text.length ≤ maxConfig ∧
      ∀ c ∈ config.text.toList, isBinary c = false) ∧
    Admits (storeid ++ ":" ++ volname) snapshots ⟨"", 0, [], []⟩ (configLines config.text) ∧
    mentions (storeid ++ ":" ++ volname) (fieldsOf config.text) ≠ 0 := by
  have hspec := readLines_spec (storeid ++ ":" ++ volname) snapshots (configLines config.text)
    ⟨"", 0, [], []⟩
  obtain ⟨hash, hhash⟩ := Sha256.sha256Hex_isOk (Value.isBytes_iff.mp config.bytes)
  simp only [Accepts, validateDestroyConfig, bind_eq_ok, dieIf_eq_ok, exists_unit,
    Bool.or_eq_false_iff, decide_eq_false_iff_not, List.any_eq_false, Bool.not_eq_true]
  constructor
  · rintro ⟨digest, ⟨⟨hne, hsize⟩, hplain⟩, r, hread, hcount, -⟩
    rw [hread] at hspec
    obtain ⟨hadmits, hreferences⟩ := hspec
    refine ⟨⟨hne, not_lt.mp hsize, hplain⟩, hadmits, ?_⟩
    rw [hreferences, Nat.zero_add] at hcount
    exact hcount
  · rintro ⟨⟨hne, hsize, hplain⟩, hadmits, hcount⟩
    cases hread : readLines (storeid ++ ":" ++ volname) snapshots ⟨"", 0, [], []⟩
        (configLines config.text) with
    | error message =>
      rw [hread] at hspec
      exact absurd hadmits hspec
    | ok r =>
      rw [hread] at hspec
      refine ⟨hash, ⟨⟨hne, not_lt.mpr hsize⟩, hplain⟩, r, rfl, ?_, hhash⟩
      rw [hspec.2, Nat.zero_add]
      exact hcount

theorem accepts_iff : Accepts storeid volname snapshots config ↔
    Safe (storeid ++ ":" ++ volname) snapshots config.text ∧
      NoLongerId (storeid ++ ":" ++ volname) config.text := by
  have hne : storeid ++ ":" ++ volname ≠ "" := by
    intro h
    have hlist := congrArg String.toList h
    simp [String.toList_append] at hlist
  rw [accepts_iff_admits]
  constructor
  · rintro ⟨⟨hnonempty, hsize, hplain⟩, hadmits, hcount⟩
    have hexact : NoLongerId (storeid ++ ":" ++ volname) config.text := by
      intro f hf hcontains
      exact refersExactly_of_namesVolume hne ((hadmits.fields f hf).owned hcontains).volume
    refine ⟨⟨hnonempty, hsize, hplain, hadmits.readable, hadmits.valid, hadmits.sections.1,
      unique_iff.mp hadmits.keys.1, fun f hf => (hadmits.fields f hf).unlocked,
      fun f hf => (hadmits.fields f hf).unprotected, ?_, ?_⟩, hexact⟩
    · intro f hf hrefers
      exact (hadmits.fields f hf).owned (contains_of_refersExactly hrefers)
    · obtain ⟨f, hf, hcontains⟩ := List.countP_pos_iff.mp (Nat.pos_of_ne_zero hcount)
      exact ⟨f, hf, hexact f hf hcontains⟩
  · rintro ⟨hsafe, hexact⟩
    refine ⟨⟨hsafe.nonempty, hsafe.size, hsafe.plain⟩, ⟨hsafe.readable, hsafe.valid,
      ⟨hsafe.sections, by simp⟩, ⟨unique_iff.mpr hsafe.unique, by simp⟩, ?_⟩, ?_⟩
    · intro f hf
      refine ⟨hsafe.unlocked f hf, hsafe.unprotected f hf, fun hcontains => ?_⟩
      exact hsafe.owned f hf (hexact f hf hcontains)
    · obtain ⟨f, hf, hrefers⟩ := hsafe.referenced
      exact (List.countP_pos_iff.mpr ⟨f, hf, contains_of_refersExactly hrefers⟩).ne'

/-- The reader takes exactly the safe configurations,
  but for those that mention the volume id inside
a longer one. -/
theorem accepts_exactly_safe_iff :
    (Accepts storeid volname snapshots config ↔
      Safe (storeid ++ ":" ++ volname) snapshots config.text) ↔
    (Safe (storeid ++ ":" ++ volname) snapshots config.text →
      NoLongerId (storeid ++ ":" ++ volname) config.text) := by
  rw [accepts_iff]
  tauto

end

def tenthDisk : ConfigText :=
  ⟨"scsi0: thick:vm-101-disk-1,size=8G\nscsi10: thick:vm-101-disk-10,size=8G\n", by decide +kernel⟩

theorem tenth_disk_lines : configLines tenthDisk.text =
    ["scsi0: thick:vm-101-disk-1,size=8G", "scsi10: thick:vm-101-disk-10,size=8G"] := by
  decide +kernel

theorem tenth_disk_fields : fieldsOf tenthDisk.text =
    [⟨"", "scsi0", "thick:vm-101-disk-1,size=8G"⟩,
      ⟨"", "scsi10", "thick:vm-101-disk-10,size=8G"⟩] := by
  decide +kernel

theorem tenth_disk_safe : Safe "thick:vm-101-disk-1" [] tenthDisk.text := by
  have hheaders : headers (configLines tenthDisk.text) = [] := by
    rw [tenth_disk_lines]
    decide +kernel
  constructor
  case nonempty => decide +kernel
  case size => decide +kernel
  case plain =>
    have hall : tenthDisk.text.toList.all (fun c => !isBinary c) = true := by decide +kernel
    intro c hc
    simpa using List.all_eq_true.mp hall c hc
  case readable =>
    rw [tenth_disk_lines]
    simp only [List.forall_mem_cons, List.not_mem_nil, false_implies, implies_true, and_true]
    exact ⟨.inr (.inr (.inr (by decide +kernel))), .inr (.inr (.inr (by decide +kernel)))⟩
  case valid => simp [hheaders]
  case sections => simp [hheaders]
  all_goals rw [tenth_disk_fields]
  case unique => decide +kernel
  case unlocked => decide +kernel
  case unprotected => decide +kernel
  case referenced => exact ⟨_, List.mem_cons_self, by decide +kernel⟩
  case owned =>
    simp only [List.forall_mem_cons, List.not_mem_nil, false_implies, implies_true, and_true]
    constructor
    · intro _
      exact ⟨by decide +kernel, by decide +kernel, by decide +kernel, .inl rfl⟩
    · intro hrefers
      exact absurd hrefers (by decide +kernel)

/-- A VM whose tenth disk has the first one's id as the start of its own. -/
theorem tenth_disk_refused :
    Safe ("thick" ++ ":" ++ "vm-101-disk-1") [] tenthDisk.text ∧
      validateDestroyConfig "thick" "vm-101-disk-1" tenthDisk.text [] =
        .error "qmdestroy volume reference has unknown semantics\n" ∧
      ¬ (Accepts "thick" "vm-101-disk-1" [] tenthDisk ↔
        Safe ("thick" ++ ":" ++ "vm-101-disk-1") [] tenthDisk.text) := by
  have hsafe : Safe ("thick" ++ ":" ++ "vm-101-disk-1") [] tenthDisk.text := tenth_disk_safe
  have hrefused : validateDestroyConfig "thick" "vm-101-disk-1" tenthDisk.text [] =
      .error "qmdestroy volume reference has unknown semantics\n" := by
    decide +kernel
  refine ⟨hsafe, hrefused, fun hiff => ?_⟩
  obtain ⟨digest, hdigest⟩ := hiff.mpr hsafe
  rw [hrefused] at hdigest
  cases hdigest

end SharedLvmThin.ThickDestroy
