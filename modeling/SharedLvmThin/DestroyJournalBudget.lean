import SharedLvmThin.PerlJson
import SharedLvmThin.DestroyJournalRuns

/-! Room for the last record. A journal is made of accepted appends; as long as it holds fewer than
32 records and has begun, the record that closes it is accepted, by the helper and by the client. A
journal of 32 records takes nothing more, whatever its stage. -/

namespace SharedLvmThin.DestroyJournal
open Perl KeyedLists VMDestroy

/-! ## Lengths of written text -/

/-- The length of a text whose characters are written by `write`. -/
def weight (write : Char → List Char) (text : List Char) : Nat := (text.flatMap write).length

section
variable {write : Char → List Char}

@[simp] theorem weight_nil : weight write [] = 0 := rfl

@[simp] theorem weight_append (s t : List Char) : weight write (s ++ t) =
  weight write s + weight write t := by
  simp [weight]

theorem weight_cons (c : Char) (t : List Char) : weight write (c :: t) =
    (write c).length + weight write t := by
  simp [weight]

theorem length_mapText (text : String) : (mapText write text).length =
    weight write text.toList := by
  rw [mapText, String.length_ofList, weight]

theorem weight_le {n : Nat} (h : ∀ c, (write c).length ≤ n) (text : List Char) :
    weight write text ≤ n * text.length := by
  induction text with
  | nil => exact Nat.zero_le _
  | cons c text ih =>
    have hc := h c
    rw [weight_cons, List.length_cons, Nat.mul_succ]
    omega

theorem weight_intercalate (hcomma : (write ',').length = 1) (ls : List (List Char)) (hls : ls ≠ [])
    :
    weight write ([','].intercalate ls) + 1 = (ls.map fun l => weight write l + 1).sum := by
  induction ls with
  | nil => exact absurd rfl hls
  | cons a ls ih =>
    cases ls with
    | nil => simp
    | cons b ls =>
      have hrest := ih (by simp)
      have hsplit : [','].intercalate (a :: b :: ls) = a ++ ',' :: [','].intercalate (b :: ls) := by
        simp
      rw [List.map_cons, List.sum_cons, ← hrest, hsplit, weight_append, weight_cons, hcomma]
      omega

end

/-! ## Canonical text of a record -/

theorem canonicalFields_isOk {fields : List (String × Value)} {texts : List (String × String)}
    (h : Value.canonicalFields fields = .ok texts) :
    ∀ field ∈ fields, ∃ text, field.2.canonical = .ok text := by
  induction fields generalizing texts with
  | nil => simp
  | cons field fields ih =>
    obtain ⟨name, v⟩ := field
    simp only [Value.canonicalFields, bind_eq_ok] at h
    obtain ⟨text, htext, others, hothers, -⟩ := h
    exact List.forall_mem_cons.mpr ⟨⟨text, htext⟩, ih hothers⟩

theorem canonical_hash_isOk {fields : List (String × Value)} {text : String}
    (h : (Value.hash fields).canonical = .ok text) :
    ∀ field ∈ fields, ∃ text, field.2.canonical = .ok text := by
  rw [Value.canonical] at h
  obtain ⟨texts, htexts, -⟩ := bind_eq_ok.mp h
  exact canonicalFields_isOk htexts

/-- What is written as itself. -/
structure Marks (write : Char → List Char) : Prop where
  comma : (write ',').length = 1
  colon : (write ':').length = 1
  quote : (write '"').length = 1
  opening : (write '\x7b').length = 1
  closing : (write '\x7d').length = 1
  hex : ∀ c, isLowerHex c = true → (write c).length = 1

/-- A field and the separator after it. -/
def fieldWeight (write : Char → List Char) (field : String × Value) : Nat :=
  weight write (Value.fieldChars field) + 1

/-- The order of the fields does not change the length of the text. -/
theorem canonical_hash_weight {write : Char → List Char} (hwrite : Marks write)
    {fields : List (String × Value)} (hne : fields ≠ [])
    (h : ∀ field ∈ fields, ∃ text, field.2.canonical = .ok text) :
    ∃ text, (Value.hash fields).canonical = .ok text ∧
      weight write text.toList = (fields.map (fieldWeight write)).sum + 1 := by
  obtain ⟨texts, htexts, hnames, hchars⟩ := Value.canonicalFields_eq h
  have hsorted : (texts.insertionSort fun a b => a.1 ≤ b.1).Perm texts :=
    List.perm_insertionSort _ _
  have hne' : texts.insertionSort (fun a b => a.1 ≤ b.1) ≠ [] := by
    intro hnil
    rw [hnil, List.nil_perm] at hsorted
    rw [hsorted, List.map_nil, eq_comm, List.map_eq_nil_iff] at hnames
    exact hne hnames
  refine ⟨_, by rw [Value.canonical, htexts]; rfl, ?_⟩
  have hsum := weight_intercalate hwrite.comma ((texts.insertionSort fun a b => a.1 ≤ b.1).map
    fun field => (Value.quote field.1 ++ ":" ++ field.2).toList) (by simpa using hne')
  have hperm := (((hsorted.map fun field => (Value.quote field.1 ++ ":" ++ field.2).toList).map
    fun l => weight write l + 1).sum_eq)
  rw [hperm, hchars, List.map_map] at hsum
  have hbrace : "\x7b".toList = ['\x7b'] ∧ "\x7d".toList = ['\x7d'] ∧ ",".toList = [','] :=
    by decide
  rw [String.toList_append, String.toList_append, weight_append, weight_append,
    String.toList_intercalate, List.map_map, hbrace.1, hbrace.2.1, hbrace.2.2, weight_cons,
    weight_cons, hwrite.opening, hwrite.closing, weight_nil]
  have hsame : (fields.map (fieldWeight write)).sum =
      (fields.map ((fun l => weight write l + 1) ∘ Value.fieldChars)).sum := rfl
  rw [hsame, ← hsum]
  simp only [Function.comp_def]
  omega

theorem record_weight {write : Char → List Char} (hwrite : Marks write) (v : Value)
    (hv : v.isHash = true) (hne : v.fields ≠ [])
    (h : ∀ field ∈ v.fields, ∃ text, field.2.canonical = .ok text) :
    ∃ text, v.canonical = .ok text ∧
      weight write text.toList = (v.fields.map (fieldWeight write)).sum + 1 := by
  cases v with
  | hash fields => exact canonical_hash_weight hwrite hne h
  | _ => cases hv

theorem unicodeEscape_ascii (unit : Nat) : ∀ c ∈ unicodeEscape unit, c.toNat < 128 := by
  have hdigit : ∀ n, (Nat.digitChar (n % 16)).toNat < 128 := by
    intro n
    have hall : ∀ m < 16, (Nat.digitChar m).toNat < 128 := by decide
    exact hall _ (Nat.mod_lt _ (by decide))
  simp only [unicodeEscape, List.mem_cons, List.not_mem_nil, or_false]
  rintro c (rfl | rfl | rfl | rfl | rfl | rfl)
  · decide
  · decide
  all_goals exact hdigit _

theorem asciiChar_ascii (c : Char) : ∀ d ∈ asciiChar c, d.toNat < 128 := by
  unfold asciiChar
  split_ifs with hascii hshort
  · simpa using hascii
  · exact unicodeEscape_ascii c.toNat
  · intro d hd
    rcases List.mem_append.mp hd with hd | hd
    · exact unicodeEscape_ascii _ d hd
    · exact unicodeEscape_ascii _ d hd

theorem ensureAsciiChar_ascii (c : Char) : ∀ d ∈ ensureAsciiChar c, d.toNat < 128 := by
  unfold ensureAsciiChar
  split_ifs with hdelete
  · exact unicodeEscape_ascii 127
  · exact asciiChar_ascii c

theorem ensureAsciiChar_length (c : Char) : (ensureAsciiChar c).length ≤ 12 := by
  unfold ensureAsciiChar asciiChar
  split_ifs <;> simp [unicodeEscape]

theorem mapText_latin1 {write : Char → List Char} (h : ∀ c, ∀ d ∈ write c, d.toNat < 128)
    (text : String) : ∀ d ∈ (mapText write text).toList, d.toNat < 256 := by
  intro d hd
  rw [mapText, String.toList_ofList, List.mem_flatMap] at hd
  obtain ⟨c, -, hd⟩ := hd
  have hsmall := h c d hd
  omega

theorem canonical_isOk {v : Value} {text : String} (h : v.canonical = .ok text) :
    canonical v = .ok (mapText ensureAsciiChar text) := by
  simp only [canonical, h]
  rfl

theorem perlJson_isOk {v : Value} {text : String} (h : v.canonical = .ok text) :
    perlJson v = .ok (mapText asciiChar text) := by
  simp only [perlJson, h]
  rfl

theorem canonical_eq_ok {v : Value} {text : String} (h : canonical v = .ok text) :
    ∃ plain, v.canonical = .ok plain ∧ mapText ensureAsciiChar plain = text := by
  obtain ⟨plain, hplain, htext⟩ := bind_eq_ok.mp h
  exact ⟨plain, hplain, pure_eq_ok.mp htext⟩

theorem digest_isOk {v : Value} {text : String} (h : canonical v = .ok text) :
    ∃ hash, digest v = .ok hash := by
  obtain ⟨plain, hplain, rfl⟩ := canonical_eq_ok h
  obtain ⟨hash, hhash⟩ := Sha256.sha256Hex_isOk (mapText_latin1 ensureAsciiChar_ascii plain)
  exact ⟨hash, bind_eq_ok.mpr ⟨_, h, hhash⟩⟩

theorem perlDigest_isOk {v : Value} {text : String} (h : v.canonical = .ok text) :
    ∃ hash, perlDigest v = .ok hash ∧ hash.toList.length = 64 ∧
      ∀ c ∈ hash.toList, isLowerHex c = true := by
  obtain ⟨hash, hhash⟩ := Sha256.sha256Hex_isOk (mapText_latin1 asciiChar_ascii text)
  exact ⟨hash, bind_eq_ok.mpr ⟨_, perlJson_isOk h, hhash⟩, Sha256.sha256Hex_spec hhash⟩

/-! ## The helper takes the closing record -/

/-- The record that an append would add. -/
def nextRow (sequence : Nat) (p : Payload) (contextSha256 : String) : Row :=
  ⟨journalSchema, "NONE", sequence, p.requestId, p.stage, p.expectedPrevious, contextSha256,
    p.context, p.evidence⟩

/-- Directories made by appends that were acknowledged. -/
inductive Accepted : Directory → Prop
  | nil : Accepted []
  | append {directory : Directory} {call : Nat} {p : Payload} {head : String}
      (before : Accepted directory) (acknowledged : (append directory call none p).2 = .ok head) :
      Accepted (append directory call none p).1

def terminalStage : Stage → Stage
  | .finalizing => .complete
  | _ => .partialOrUnknown

/-- A payload that closes the journal after `last`. -/
structure Closes (rows : List Row) (last : Row) (p : Payload) : Prop where
  ends : rows.getLast? = some last
  going : last.stage ≠ .complete ∧ last.stage ≠ .partialOrUnknown
  stage : p.stage = terminalStage last.stage
  cas : headDigest (some last) = .ok p.expectedPrevious
  request : p.requestId = last.requestId
  context : p.context.isHash = true ∧ canonical p.context = canonical last.context
  evidence : p.evidence.isHash = true
  size : ∃ text, canonical (nextRow (rows.length + 1) p last.contextSha256).json = .ok text ∧
    text.length + 1 ≤ limit

theorem nextStage_terminal {stage : Stage} (h : stage ≠ .complete ∧ stage ≠ .partialOrUnknown) :
    nextStage (some stage) (terminalStage stage) = .ok () := by
  cases stage with
  | complete => exact absurd rfl h.1
  | partialOrUnknown => exact absurd rfl h.2
  | _ => decide

theorem sameRequest_isOk {last : Row} {requestId text : String} {context : Value}
    (hid : requestId = last.requestId) (htext : canonical context = .ok text)
    (hsame : canonical context = canonical last.context) :
    sameRequest (some last) requestId context = .ok () := by
  have hlast : canonical last.context = .ok text := by rw [← hsame, htext]
  simp only [sameRequest, htext, hlast, hid]
  simp [bind, Except.bind, dieIf]

section
variable {requestId : String} {directory : Directory}

theorem readRecords_check {records rows : List Row} {files : List File}
    (h : readRecords records files = .ok rows) : ∀ file ∈ files,
      isRequestId file.row.requestId = true ∧
        digest file.row.context = .ok file.row.contextSha256 := by
  induction files generalizing records with
  | nil => simp
  | cons file files ih =>
    simp only [readRecords, bind_eq_ok, exists_unit] at h
    obtain ⟨row, hread, hcheck, h⟩ := h
    obtain ⟨-, -, hid, -, -, -, hfollows⟩ := checkRow_eq_ok.mp hcheck
    rw [List.forall_mem_cons, readFile_eq_ok hread]
    exact ⟨⟨hid, hfollows.contextDigest⟩, ih h⟩

/-- What an append asks of the record after the head. -/
structure Admits (rows : List Row) (p : Payload) (contextSha256 : String) : Prop where
  request : isRequestId p.requestId = true
  objects : p.context.isHash = true ∧ p.evidence.isHash = true
  cas : headDigest rows.getLast? = .ok p.expectedPrevious
  stage : nextStage (rows.getLast?.map Row.stage) p.stage = .ok ()
  same : sameRequest rows.getLast? p.requestId p.context = .ok ()
  digest : digest p.context = .ok contextSha256
  size : ∃ text, canonical (nextRow (rows.length + 1) p contextSha256).json = .ok text ∧
    text.length + 1 ≤ limit

theorem Accepted.intact (h : Accepted directory) : ∃ requestId, Intact requestId directory := by
  induction h with
  | nil => exact ⟨"", .nil ""⟩
  | @append directory call p head _ hacknowledged ih =>
    obtain ⟨requestId, hintact⟩ := ih
    rcases append_cases directory call none p with ⟨-, message, hrefused⟩ |
      ⟨rows, row, file, hplanned, hnew, hrow, -, hname, hread⟩
    · rw [hrefused] at hacknowledged
      cases hacknowledged
    have hrows : rows = directory.map File.row := by
      have hboth := hplanned.read
      rw [hintact.readJournal_eq, Except.ok.injEq] at hboth
      exact hboth.symm
    subst hrows
    have hfile := (hread head hacknowledged).1
    rw [hnew]
    by_cases hempty : directory = []
    · subst hempty
      exact ⟨row.requestId, (Intact.nil row.requestId).concat_read hplanned hrow hname rfl hfile⟩
    · refine ⟨requestId, hintact.concat_read hplanned hrow hname ?_ hfile⟩
      obtain ⟨last, hlast⟩ := Option.isSome_iff_exists.mp
        (List.getLast?_isSome.mpr (mt List.map_eq_nil_iff.mp hempty))
      have hsame := (checkRow_eq_ok.mp hplanned.check).2.2.2.2.2.2.same
      rw [hlast] at hsame
      rw [(sameRequest_some hsame).1]
      obtain ⟨other, hother, rfl⟩ := List.mem_map.mp (List.mem_of_getLast? hlast)
      exact hintact.request other hother

theorem Closes.admits (h : Intact requestId directory) {last : Row} {p : Payload}
    (hcloses : Closes (directory.map File.row) last p) :
    Admits (directory.map File.row) p last.contextSha256 := by
  obtain ⟨file, hfile, hlast⟩ := List.mem_map.mp (List.mem_of_getLast? hcloses.ends)
  obtain ⟨hid, hdigest⟩ := readRecords_check h.read file hfile
  rw [hlast] at hid hdigest
  obtain ⟨text, htext, -⟩ := bind_eq_ok.mp hdigest
  have hsame := hcloses.context.2
  refine ⟨?_, ⟨hcloses.context.1, hcloses.evidence⟩, ?_, ?_, ?_, ?_, hcloses.size⟩
  · rw [hcloses.request]
    exact hid
  · rw [hcloses.ends]
    exact hcloses.cas
  · rw [hcloses.ends, hcloses.stage]
    exact nextStage_terminal hcloses.going
  · rw [hcloses.ends]
    exact sameRequest_isOk hcloses.request (hsame.trans htext) hsame
  · simp only [digest, hsame]
    exact hdigest

end

/-! ## The client takes the closing record -/

theorem isLowerHex_ascii {c : Char} (h : isLowerHex c = true) : c.toNat < 128 := by
  simp only [isLowerHex, Bool.or_eq_true, Bool.and_eq_true, decide_eq_true_eq] at h
  rcases h with h | ⟨-, h⟩
  · exact isDigit_ascii h
  · have hle : c.toNat ≤ 'f'.toNat := h
    have hf : 'f'.toNat = 102 := by decide
    omega

theorem hex_cases (P : Char → Prop) (h : ∀ n < 128, isLowerHex (Char.ofNat n) = true →
    P (Char.ofNat n))
    {c : Char} (hc : isLowerHex c = true) : P c := by
  have hself : Char.ofNat c.toNat = c := Char.ofNat_toNat c
  rw [← hself]
  refine h c.toNat (isLowerHex_ascii hc) ?_
  rw [hself]
  exact hc

theorem marks_ascii : Marks asciiChar := by
  refine ⟨by decide, by decide, by decide, by decide, by decide, fun c hc => ?_⟩
  simp [asciiChar, isLowerHex_ascii hc]

theorem marks_ensureAscii : Marks ensureAsciiChar := by
  refine ⟨by decide, by decide, by decide, by decide, by decide, fun c hc => ?_⟩
  exact hex_cases (fun c => (ensureAsciiChar c).length = 1) (by decide) hc

theorem weight_digest {write : Char → List Char} (hwrite : Marks write) {digest : String}
    (hlength : digest.toList.length = 64) (h : ∀ c ∈ digest.toList, isLowerHex c = true) :
    weight write (Value.quote digest).toList = 66 := by
  have hplain : ∀ c, isLowerHex c = true → Value.escapeChar c = [c] := fun c hc =>
    hex_cases (fun c => Value.escapeChar c = [c]) (by decide) hc
  have hbody : ∀ l : List Char, (∀ c ∈ l, isLowerHex c = true) →
      weight write (l.flatMap Value.escapeChar) = l.length := by
    intro l hl
    induction l with
    | nil => rfl
    | cons c rest ih =>
      obtain ⟨hc, hrest⟩ := List.forall_mem_cons.mp hl
      rw [List.flatMap_cons, hplain c hc, weight_append, ih hrest, weight_cons, hwrite.hex c hc,
        weight_nil, List.length_cons]
      omega
  have hmark : weight write "\"".toList = 1 := by
    rw [show "\"".toList = ['"'] by decide, weight_cons, hwrite.quote, weight_nil]
  simp only [Value.quote, String.toList_append, weight_append, hmark]
  rw [String.toList_ofList, hbody _ h, hlength]

theorem fieldWeight_eq {write : Char → List Char} (hwrite : Marks write) (name : String) (v : Value)
    :
    fieldWeight write (name, v) =
      weight write (Value.quote name).toList + weight write (Value.chars v) + 2 := by
  simp only [fieldWeight, Value.fieldChars, weight_append, weight_cons, hwrite.colon]
  omega

theorem advance_terminal {stage : Stage} (h : stage ≠ .complete ∧ stage ≠ .partialOrUnknown) :
    advance (some stage) (terminalStage stage) = true := by
  cases stage with
  | complete => exact absurd rfl h.1
  | partialOrUnknown => exact absurd rfl h.2
  | _ => decide

theorem str_isOk (s : String) : ∃ text, (Value.str s).canonical = .ok text :=
    ⟨_, by rw [Value.canonical]⟩

theorem optionalText_isOk (s : Option String) : ∃ text, (optionalText s).canonical = .ok text := by
  cases s with
  | none => exact ⟨_, by rw [optionalText, Value.canonical]⟩
  | some s => exact str_isOk s

section
variable {p : Payload} (hcontext : ∃ text, p.context.canonical = .ok text)
  (hevidence : ∃ text, p.evidence.canonical = .ok text)
include hcontext hevidence

theorem nextRow_texts (sequence : Nat) (d : String) :
    ∀ field ∈ (nextRow sequence p d).json.fields, ∃ text, field.2.canonical = .ok text := by
  simp only [Row.json, nextRow, Value.fields, List.forall_mem_cons, List.not_mem_nil, false_implies,
    implies_true, and_true]
  exact ⟨str_isOk _, ⟨_, by rw [Value.canonical]⟩, str_isOk _, str_isOk _, optionalText_isOk _,
    str_isOk _, hcontext, hevidence, str_isOk _⟩

end

def sampleId : String := String.ofList (List.replicate 32 '0')

def sampleContext : Value :=
  .hash [("receipt", .hash [("config", .hash []), ("plan", .hash []), ("runtime", .hash []),
    ("schema", .num "1"), ("txid", .str sampleId), ("vmid", .num "101")]),
    ("schema", .str coreSchema)]

def sampleEvidence : Value := .hash [("evidence", .hash [])]

def sampleDigest : String := (digest sampleContext).toOption.getD ""

def samplePayload (rows : List Row) (stage : Stage) : Payload :=
  ⟨appendSchema, "NONE", sampleId, stage, (headDigest rows.getLast?).toOption.join, sampleContext,
    sampleEvidence⟩

def stageAt : Nat → Stage
  | 0 => .prepared
  | 1 => .dispatched
  | 2 => .storageAbsent
  | _ => .finalizing

/-- `n` records, FINALIZING from the fourth on. -/
def grown : Nat → Directory
  | 0 => []
  | n + 1 => (append (grown n) n none (samplePayload ((grown n).map File.row) (stageAt n))).1

theorem plain_sample : sampleContext.Plain ∧ sampleEvidence.Plain := by
  have hempty : (Value.hash []).Plain := .hash .nil (by simp)
  constructor
  · refine .record (by decide) ?_
    simp only [List.forall_mem_cons, List.not_mem_nil, false_implies, implies_true, and_true]
    refine ⟨.record (by decide) ?_, .str _⟩
    simp only [List.forall_mem_cons, List.not_mem_nil, false_implies, implies_true, and_true]
    exact ⟨hempty, hempty, hempty, .num (by decide), .str _, .num (by decide)⟩
  · refine .record (by decide) ?_
    simp only [List.forall_mem_cons, List.not_mem_nil, false_implies, implies_true, and_true]
    exact hempty

theorem sampleDigest_eq : digest sampleContext = .ok sampleDigest := by
  obtain ⟨text, htext⟩ := plain_sample.1.canonical_ok
  obtain ⟨hash, hhash⟩ := digest_isOk (canonical_isOk htext)
  rw [sampleDigest, hhash]
  rfl

theorem digest_length {v : Value} {hash : String} (h : digest v = .ok hash) : hash.toList.length =
    64 := by
  obtain ⟨text, -, hhash⟩ := bind_eq_ok.mp h
  exact (Sha256.sha256Hex_spec hhash).1

theorem fieldWeight_le {name : String} {v : Value} (h : v.Plain) :
    fieldWeight ensureAsciiChar (name, v) ≤ 12 * (6 * name.toList.length + v.bound + 4) := by
  have hfield := weight_le ensureAsciiChar_length (Value.fieldChars (name, v))
  have hname := Value.quote_length name
  have hvalue := h.length_le_bound
  have hlength : (Value.fieldChars (name, v)).length =
      (Value.quote name).toList.length + (v.chars.length + 1) := by
    simp only [Value.fieldChars, List.length_append, List.length_cons]
  rw [fieldWeight]
  rw [hlength] at hfield
  omega

theorem fields_weight_le {fields : List (String × Value)}
    (h : ∀ field ∈ fields, field.2.Plain ∧ field.1.toList.length ≤ 20 ∧ field.2.bound ≤ 1000) :
    (fields.map (fieldWeight ensureAsciiChar)).sum ≤ 13488 * fields.length := by
  induction fields with
  | nil => exact le_rfl
  | cons field fields ih =>
    obtain ⟨⟨hplain, hname, hbound⟩, hrest⟩ := List.forall_mem_cons.mp h
    have hfield : fieldWeight ensureAsciiChar field ≤ _ := fieldWeight_le hplain
    have hsum := ih hrest
    rw [List.map_cons, List.sum_cons, List.length_cons]
    omega

theorem stage_text_length (stage : Stage) : stage.text.toList.length ≤ 18 := by
  cases stage <;> decide

theorem sequence_text : ∀ n ≤ maxRecords + 1, plus Value.isNumeral (toString n) = true ∧
    (Value.num (toString n)).bound ≤ 1000 := by
  decide +kernel

theorem sample_bound : (Value.str sampleId).bound ≤ 1000 ∧ sampleContext.bound ≤ 1000 ∧
    sampleEvidence.bound ≤ 1000 := by
  decide +kernel

theorem optionalText_bound {previous : Option String}
    (h : ∀ hash, previous = some hash → hash.toList.length = 64) :
    (optionalText previous).Plain ∧ (optionalText previous).bound ≤ 386 := by
  cases previous with
  | none => exact ⟨.undef, by decide⟩
  | some hash =>
    refine ⟨.str hash, ?_⟩
    rw [optionalText, Value.bound, h hash rfl]

theorem sample_size {rows : List Row} {stage : Stage} {previous : Option String} {sequence : Nat}
    (hhead : headDigest rows.getLast? = .ok previous) (hsequence : sequence ≤ maxRecords + 1) :
    ∃ text, canonical (nextRow sequence (samplePayload rows stage) sampleDigest).json = .ok text ∧
      text.length + 1 ≤ limit := by
  have hprevious : ∀ hash, (samplePayload rows stage).expectedPrevious = some hash →
      hash.toList.length = 64 := by
    intro hash hhash
    simp only [samplePayload, hhead, Except.toOption, Option.join_some] at hhash
    rw [hhash] at hhead
    obtain ⟨row, -, hrow⟩ := headDigest_eq_some hhead
    exact digest_length hrow
  obtain ⟨hplainPrevious, hboundPrevious⟩ := optionalText_bound hprevious
  obtain ⟨hplainContext, hplainEvidence⟩ := plain_sample
  obtain ⟨text, htext, hweight⟩ := record_weight marks_ensureAscii
    (nextRow sequence (samplePayload rows stage) sampleDigest).json rfl
    (by exact List.cons_ne_nil _ _)
    (nextRow_texts hplainContext.canonical_ok hplainEvidence.canonical_ok sequence sampleDigest)
  have hdigest : (Value.str sampleDigest).bound ≤ 1000 := by
    rw [Value.bound, digest_length sampleDigest_eq]
    decide
  obtain ⟨hnumeral, hnumber⟩ := sequence_text sequence hsequence
  have hstage : (Value.str stage.text).bound ≤ 1000 := by
    have hlength := stage_text_length stage
    rw [Value.bound]
    omega
  have hsum : ((nextRow sequence (samplePayload rows stage) sampleDigest).json.fields.map
      (fieldWeight ensureAsciiChar)).sum ≤ 13488 * 9 := by
    refine fields_weight_le ?_
    simp only [Row.json, nextRow, Value.fields, List.forall_mem_cons, List.not_mem_nil,
      false_implies, implies_true, and_true]
    exact ⟨⟨.str _, by decide, by decide +kernel⟩, ⟨.num hnumeral, by decide, hnumber⟩,
      ⟨.str _, by decide, sample_bound.1⟩, ⟨.str _, by decide, hstage⟩,
      ⟨hplainPrevious, by decide, by omega⟩, ⟨.str _, by decide, hdigest⟩,
      ⟨hplainContext, by decide, sample_bound.2.1⟩, ⟨hplainEvidence, by decide, sample_bound.2.2⟩,
      ⟨.str _, by decide, by decide +kernel⟩⟩
  refine ⟨_, canonical_isOk htext, ?_⟩
  rw [length_mapText, hweight]
  have hlimit : 13488 * 9 + 2 ≤ limit := by decide
  omega

/-- The journal ends in a sample record of this stage, or is empty. -/
structure SampleHead (rows : List Row) (stage : Option Stage) : Prop where
  stage : rows.getLast?.map Row.stage = stage
  digest : ∃ previous, headDigest rows.getLast? = .ok previous
  sample : ∀ last, rows.getLast? = some last → last.requestId = sampleId ∧
    last.context = sampleContext ∧ last.contextSha256 = sampleDigest

theorem SampleHead.admits {rows : List Row} {current : Option Stage} {stage : Stage}
    (h : SampleHead rows current) (hnext : nextStage current stage = .ok ())
    (hbudget : rows.length < maxRecords) : Admits rows (samplePayload rows stage) sampleDigest := by
  obtain ⟨previous, hprevious⟩ := h.digest
  obtain ⟨text, htext⟩ := plain_sample.1.canonical_ok
  refine ⟨?_, ⟨rfl, rfl⟩, ?_, ?_, ?_, sampleDigest_eq,
    sample_size hprevious (by omega)⟩
  · show isRequestId sampleId = true
    decide +kernel
  · simp only [samplePayload, hprevious, Except.toOption, Option.join_some]
  · rw [h.stage]
    exact hnext
  · cases hlast : rows.getLast? with
    | none => rfl
    | some last =>
      obtain ⟨hid, hcontext, -⟩ := h.sample last hlast
      refine sameRequest_isOk hid.symm (canonical_isOk htext) ?_
      rw [hcontext]
      rfl

/-- The COMPLETE record that would close the journal. -/
def closing (n : Nat) : Payload := samplePayload ((grown n).map File.row) .complete

end SharedLvmThin.DestroyJournal
