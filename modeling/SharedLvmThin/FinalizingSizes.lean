import SharedLvmThin.FinalizingAgreement

/-! The client reads at most 32 MiB and a little more. An observation of 32 rows that fit their
  files
stays below, so that this limit never parts the client from the observer. -/

namespace SharedLvmThin.FinalizingReaders
open Perl KeyedLists
open DestroyJournal hiding advance nextStage

/-! ## The size of an observation -/

theorem length_intercalate {names : List String} (h : names ≠ []) :
    (",".intercalate names).length + 1 = (names.map fun name => name.length + 1).sum := by
  have hsum := @weight_intercalate (fun c => [c]) rfl (names.map String.toList) (by simpa using h)
  simp only [weight, List.flatMap_singleton', List.map_map, Function.comp_def,
    String.length_toList] at hsum
  rw [← hsum, ← String.length_toList, String.toList_intercalate]
  rfl

/-- The joined names and their members leave room for no other name. -/
theorem names_perm {names expected : List String} (hnodup : expected.Nodup) (hne : expected ≠ [])
    (hmem : expected ⊆ names)
    (hjoin : (",".intercalate (sortBy id names)).length = (",".intercalate expected).length) :
    expected.Perm names := by
  have hsubperm := List.subperm_of_subset hnodup hmem
  have hperm := List.subperm_append_diff_self_of_count_le (List.subperm_ext_iff.mp hsubperm)
  have hnames : sortBy id names ≠ [] := by
    rw [Ne, sortBy_eq_nil]
    rintro rfl
    exact hne (List.subset_nil.mp hmem)
  have hlength := length_intercalate hnames
  rw [hjoin, length_intercalate hne, ((sortBy_perm id names).map _).sum_eq,
    ← (hperm.map _).sum_eq, List.map_append, List.sum_append] at hlength
  have hnone : names.diff expected = [] := by
    by_contra hsome
    obtain ⟨name, rest, hcons⟩ := List.exists_cons_of_ne_nil hsome
    rw [hcons, List.map_cons, List.sum_cons] at hlength
    omega
  rw [hnone, List.append_nil] at hperm
  exact hperm

theorem get_of_mem {fields : List (String × Value)} (hsorted : fields.Pairwise fun a b => a.1 < b.1)
    {field : String × Value} (h : field ∈ fields) : (Value.hash fields).get field.1 = field.2 := by
  obtain ⟨l, r, rfl⟩ := List.append_of_mem h
  have hbefore : ∀ other ∈ l, other.1 < field.1 := fun other hother =>
    (List.pairwise_append.mp hsorted).2.2 other hother field List.mem_cons_self
  have hlookup : (l ++ field :: r).lookup field.1 = some field.2 := by
    refine List.lookup_eq_some_iff.mpr ⟨l, r, rfl, fun other hother => ?_⟩
    exact bne_iff_ne.mpr (hbefore other hother).ne'
  rw [Value.get, Value.fields, hlookup]
  rfl

theorem fields_eq {v : Value} (h : v.Plain) :
    v.fields = (v.fields.map Prod.fst).map fun name => (name, v.get name) := by
  cases h with
  | hash hsorted hfields =>
    rw [List.map_map]
    refine (List.map_id _).symm.trans (List.map_congr_left fun field hfield => ?_)
    exact Prod.ext rfl (get_of_mem hsorted hfield).symm
  | _ => rfl

theorem mem_names {v : Value} {name : String} (h : v.get name ≠ .undef) :
    name ∈ v.fields.map Prod.fst := by
  rw [Value.get] at h
  cases hlookup : v.fields.lookup name with
  | none =>
    rw [hlookup] at h
    exact absurd rfl h
  | some w =>
    obtain ⟨l, r, hsplit, -⟩ := List.lookup_eq_some_iff.mp hlookup
    rw [hsplit]
    simp

theorem asciiChar_length_le (c : Char) : (asciiChar c).length ≤ 12 := by
  unfold asciiChar
  split_ifs
  · simp
  · simp [unicodeEscape]
  · simp [unicodeEscape]

theorem block_weight {b : List Char} (h : Block b) : weight asciiChar b ≤ 12 := by
  cases h with
  | @char c _ =>
    rw [weight_cons, weight_nil]
    exact asciiChar_length_le c
  | @escape c _ hascii =>
    have hchar : (asciiChar c).length = 1 := by simp [asciiChar, hascii]
    rw [weight_cons, weight_cons, weight_nil, hchar]
    decide
  | @control n hn =>
    have hdigits := flatMap_ascii (hexDigits_ascii hn)
    have hstart : weight asciiChar ['\\', 'u', '0', '0'] = 4 := by decide
    rw [weight_append, hstart, weight, hdigits]
    exact (show 4 + 2 ≤ 12 by decide)

theorem escaped_weight (l : List Char) :
    weight asciiChar (l.flatMap Value.escapeChar) ≤ 12 * l.length := by
  induction l with
  | nil => exact Nat.zero_le _
  | cons c l ih =>
    have hchar := block_weight (escapeChar_block c)
    rw [List.flatMap_cons, weight_append, List.length_cons]
    omega

theorem quote_weight (s : String) :
    weight asciiChar (Value.quote s).toList ≤ 12 * s.length + 2 := by
  have hbody := escaped_weight s.toList
  have hmark : weight asciiChar "\"".toList = 1 := by decide
  rw [String.length_toList] at hbody
  simp only [Value.quote, String.toList_append, weight_append, hmark]
  rw [String.toList_ofList]
  omega

theorem scalar_weight {v : Value} (h : v.Plain) (harray : v.isArray = false) (hhash : v.isHash =
    false) :
    weight asciiChar v.chars ≤ 12 * v.text.length + 6 := by
  cases h with
  | undef =>
    rw [Value.chars_undef]
    decide
  | bool b =>
    rw [Value.chars_bool]
    cases b <;> decide
  | str s =>
    have hquote := quote_weight s
    rw [Value.chars_str, Value.text]
    omega
  | @num s _ =>
    have hle := weight_le asciiChar_length_le s.toList
    rw [Value.chars_num, Value.text, ← String.length_toList]
    omega
  | array _ => cases harray
  | hash _ _ => cases hhash

theorem array_weight {vs : List Value} (h : ∀ v ∈ vs, v.Plain) {n : Nat}
    (hn : ∀ v ∈ vs, weight asciiChar v.chars + 1 ≤ n) :
    weight asciiChar (Value.array vs).chars ≤ n * vs.length + 2 := by
  rw [Value.chars_array h, weight_cons, weight_append, weight_cons, weight_nil]
  have hopen : (asciiChar '[').length = 1 := by decide
  have hclose : (asciiChar ']').length = 1 := by decide
  by_cases hvs : vs = []
  · subst hvs
    exact (show 1 + (0 + (1 + 0)) ≤ n * 0 + 2 by omega)
  · have hsum := weight_intercalate marks_ascii.comma (vs.map Value.chars) (by simpa using hvs)
    have hle := List.sum_le_card_nsmul (vs.map fun v => weight asciiChar v.chars + 1) n
      (List.forall_mem_map.mpr hn)
    rw [List.map_map] at hsum
    simp only [Function.comp_def] at hsum
    rw [List.length_map, smul_eq_mul, Nat.mul_comm] at hle
    omega

/-- What both readers ask of the observation around its rows. -/
structure Heading (value : Value) (head : String) : Prop where
  fields : value.isHash = true ∧ fieldNames value = observationFields
  schema : (value.get "schema").text = journalSchema
  authority : (value.get "authority").text = "NONE"
  durable : isTrue (value.get "durable") = true
  stage : (value.get "stage").text = "FINALIZING"
  last : (value.get "last_sha256").text = head
  array : (value.get "records").isArray = true
  count : 4 ≤ (items (value.get "records")).length ∧ (items (value.get "records")).length ≤ 32

def observationNames : List String :=
  ["authority", "durable", "last_sha256", "records", "schema", "stage"]

theorem scalar_of_text {v : Value} {s : String} (h : v.text = s)
    (hs : s ∉ ["", "ARRAY(0x0)", "HASH(0x0)"]) :
    v ≠ .undef ∧ v.isArray = false ∧ v.isHash = false := by
  subst h
  cases v with
  | undef => exact absurd (show "" ∈ _ by simp) hs
  | array _ => exact absurd (show "ARRAY(0x0)" ∈ _ by simp) hs
  | hash _ => exact absurd (show "HASH(0x0)" ∈ _ by simp) hs
  | _ => exact ⟨by simp, rfl, rfl⟩

theorem Heading.names {value : Value} {head : String} (h : Heading value head)
    (hhead : head ∉ ["", "ARRAY(0x0)", "HASH(0x0)"]) :
    observationNames.Perm (value.fields.map Prod.fst) := by
  refine names_perm (by decide) (by decide) ?_ ?_
  · have hauthority := (scalar_of_text h.authority (by decide)).1
    have hschema := (scalar_of_text h.schema (by decide)).1
    have hstage := (scalar_of_text h.stage (by decide)).1
    have hlast := (scalar_of_text h.last hhead).1
    have hdurable : value.get "durable" ≠ .undef := fun hnone => by
      have htrue := h.durable
      rw [hnone] at htrue
      cases htrue
    have hrecords : value.get "records" ≠ .undef := fun hnone => by
      have harray := h.array
      rw [hnone] at harray
      cases harray
    intro name hname
    simp only [observationNames, List.mem_cons, List.not_mem_nil, or_false] at hname
    rcases hname with rfl | rfl | rfl | rfl | rfl | rfl
    · exact mem_names hauthority
    · exact mem_names hdurable
    · exact mem_names hlast
    · exact mem_names hrecords
    · exact mem_names hschema
    · exact mem_names hstage
  · exact congrArg String.length h.fields.2

theorem text_weight {v : Value} (hv : v.Plain) {s : String} (h : v.text = s)
    (hs : s ∉ ["", "ARRAY(0x0)", "HASH(0x0)"]) : weight asciiChar v.chars ≤ 12 * s.length + 6 := by
  obtain ⟨-, harray, hhash⟩ := scalar_of_text h hs
  rw [← h]
  exact scalar_weight hv harray hhash

theorem row_weight {row : Value} (h : row.Plain) (hpermitted : Permitted row) :
    weight asciiChar row.chars + 1 ≤ limit := by
  obtain ⟨text, htext, hsize⟩ := hpermitted.size
  obtain ⟨plain, hplain⟩ := h.canonical_ok
  rw [perlJson_isOk hplain, Except.ok.injEq] at htext
  rw [← htext, length_mapText] at hsize
  rw [Value.chars_of_canonical hplain]
  exact hsize

theorem Heading.durable_weight {value : Value} {head : String} (h : Heading value head) :
    weight asciiChar (value.get "durable").chars = 4 := by
  have htrue := h.durable
  cases hdurable : value.get "durable" with
  | bool b =>
    rw [hdurable] at htrue
    rw [Value.chars_bool, show b = true from htrue]
    decide
  | _ =>
    rw [hdurable] at htrue
    cases htrue

theorem Heading.records_weight {value : Value} {head : String} (h : Heading value head)
    (hvalue : value.Plain) (hrows : ∀ row ∈ items (value.get "records"), Permitted row) :
    weight asciiChar (value.get "records").chars ≤ limit * 32 + 2 := by
  have harray := h.array
  have hcount := h.count.2
  have hplain := plain_get hvalue "records"
  cases hrecords : value.get "records" with
  | array vs =>
    rw [hrecords] at hcount hrows hplain
    have hle := array_weight (plain_items hplain) fun v hv =>
      row_weight (plain_items hplain v hv) (hrows v hv)
    have hmul : limit * vs.length ≤ limit * 32 := Nat.mul_le_mul_left _ hcount
    exact hle.trans (Nat.add_le_add_right hmul 2)
  | _ =>
    rw [hrecords] at harray
    cases harray

/-- The fields of an observation are these six. -/
theorem Heading.weight_eq {value : Value} {head : String} (h : Heading value head)
    (hvalue : value.Plain) (hhead : head ∉ ["", "ARRAY(0x0)", "HASH(0x0)"]) {text : String}
    (htext : perlJson value = .ok text) :
    text.length = (observationNames.map fun name =>
      weight asciiChar (Value.quote name).toList + weight asciiChar (value.get name).chars + 2).sum
        + 1 := by
  obtain ⟨plain, hcanonical⟩ := hvalue.canonical_ok
  have hperm : (observationNames.map fun name => (name, value.get name)).Perm value.fields := by
    have hmap := (h.names hhead).map fun name => (name, value.get name)
    rw [← fields_eq hvalue] at hmap
    exact hmap
  have hne : value.fields ≠ [] := fun hnil => by
    rw [hnil] at hperm
    cases hperm.eq_nil
  have hfields : ∀ field ∈ value.fields, ∃ text, field.2.canonical = .ok text := by
    intro field hfield
    obtain ⟨name, -, rfl⟩ := List.mem_map.mp (hperm.mem_iff.mpr hfield)
    exact (plain_get hvalue name).canonical_ok
  obtain ⟨plain', hcanonical', hweight⟩ := record_weight marks_ascii value h.fields.1 hne hfields
  rw [hcanonical, Except.ok.injEq] at hcanonical'
  subst hcanonical'
  rw [perlJson_isOk hcanonical, Except.ok.injEq] at htext
  rw [← htext, length_mapText, hweight, ← (hperm.map _).sum_eq, List.map_map]
  simp only [Function.comp_def, fieldWeight_eq marks_ascii]

/-- An observation of rows that fit their files fits the client's buffer. -/
theorem Heading.fits {value : Value} {head : String} (h : Heading value head) (hvalue : value.Plain)
    (hhead : head.length = 64) (hrows : ∀ row ∈ items (value.get "records"), Permitted row)
    {text : String} (htext : perlJson value = .ok text) : text.length + 1 ≤ 32 * limit + 4096 := by
  have hlast : head ∉ ["", "ARRAY(0x0)", "HASH(0x0)"] := by
    intro hmem
    simp only [List.mem_cons, List.not_mem_nil, or_false] at hmem
    rcases hmem with rfl | rfl | rfl <;> exact absurd hhead (by decide)
  have hauthority := text_weight (plain_get hvalue "authority") h.authority (by decide)
  have hschema := text_weight (plain_get hvalue "schema") h.schema (by decide)
  have hstage := text_weight (plain_get hvalue "stage") h.stage (by decide)
  have hsha := text_weight (plain_get hvalue "last_sha256") h.last hlast
  have hdurable := h.durable_weight
  have hrecords := h.records_weight hvalue hrows
  have hnames : (observationNames.map fun name =>
    weight asciiChar (Value.quote name).toList + 2).sum =
      69 := by decide +kernel
  have hlengths : journalSchema.length = 35 ∧ "NONE".length = 4 ∧ "FINALIZING".length = 10 :=
    by decide
  rw [h.weight_eq hvalue hlast htext]
  simp only [observationNames, List.map_cons, List.map_nil, List.sum_cons, List.sum_nil] at hnames ⊢
  rw [hlengths.1] at hschema
  rw [hlengths.2.1] at hauthority
  rw [hlengths.2.2] at hstage
  rw [hhead] at hsha
  omega

/-! ## The two recovery readers -/

theorem finalizingHead_eq_ok {value context : Value} {txid head : String} :
    finalizingHead value txid context = .ok head ↔ Heading value head ∧
      ∃ seen, headRecords txid context ⟨none, .undef, 0⟩ (items (value.get "records")) = .ok seen ∧
        seen.stage.text = "FINALIZING" ∧ seen.previous.getD "" = head := by
  simp only [finalizingHead, bind_eq_ok, exists_unit, runtimeNeed_eq_ok, Bool.and_eq_true,
    decide_eq_true_eq, pure_eq_ok]
  constructor
  · rintro ⟨hfields, ⟨⟨⟨hschema, hauthority⟩, hdurable⟩, hstage⟩, ⟨⟨harray, hmin⟩, hmax⟩, seen,
    hseen,
      ⟨hend, hlast⟩, rfl⟩
    exact ⟨⟨hfields, hschema, hauthority, hdurable, hstage, hlast, harray, hmin, hmax⟩, seen, hseen,
      hend,
      rfl⟩
  · rintro ⟨h, seen, hseen, hend, rfl⟩
    exact ⟨h.fields, ⟨⟨⟨h.schema, h.authority⟩, h.durable⟩, h.stage⟩,
      ⟨⟨h.array, h.count.1⟩, h.count.2⟩,
      seen, hseen, ⟨hend, h.last⟩, rfl⟩

/-- A printed observation and what it decodes to. -/
structure Printed (jsonDecode : String → Except String Value) (raw : String) (value : Value) :
  Prop where
  decoded : jsonDecode raw = .ok value
  plain : value.Plain
  canonical : ∃ text, perlJson value = .ok text ∧ raw = text ++ "\n"

/-- The client that `open_existing` makes. -/
def recoveryClient (txid : String) (hid : isRequestId txid = true) (c : Core) : Client :=
  newClient ⟨true, txid, hid, some c.context⟩

def historyOf (txid : String) (loaded : Loaded) (contextDigest : String) : Value :=
  .hash [("durable", .num "1"), ("records", .array loaded.records), ("stage", loaded.stage),
    ("request_id", .str txid), ("last_sha256", .str (loaded.previous.getD "")),
    ("context_sha256", .str contextDigest)]

theorem loadExisting_eq_ok {jsonDecode : String → Except String Value} {raw : String}
    {value : Value} (h : Printed jsonDecode raw value) {txid : String} (hid : isRequestId txid =
        true) {c : Core}
    {history : Value} :
    loadExisting jsonDecode (recoveryClient txid hid c) raw = .ok history ↔
      raw.length ≤ 32 * limit + 4096 ∧ ∃ loaded, Heading value (loaded.previous.getD "") ∧
        (loadRecords txid c.context ⟨none, .undef, 0, []⟩ (items (value.get "records")) =
          .ok loaded ∧
          loaded.stage.text = "FINALIZING") ∧
        (∃ text, perlJson (.array loaded.records) = .ok text) ∧
        ∃ digest, perlDigest c.context = .ok digest ∧ history = historyOf txid loaded digest := by
  obtain ⟨text, htext, hraw⟩ := h.canonical
  have hprepare : prepareLoad (recoveryClient txid hid c) = .ok () := rfl
  simp only [loadExisting, hprepare, decodeResponse, h.decoded, bind_eq_ok, exists_unit, need_eq_ok,
    Bool.and_eq_true, decide_eq_true_eq, pure_eq_ok, htext]
  constructor
  · rintro ⟨-, value', ⟨hlength, hhash, text', htext', -, rfl⟩, hnames,
    ⟨⟨hschema, hauthority⟩, hdurable⟩,
      ⟨⟨harray, hmin⟩, hmax⟩, loaded, hloaded, ⟨hstage, hlast⟩, hend, copied, hcopied, digest,
        hdigest, rfl⟩
    exact ⟨hlength, loaded, ⟨⟨hhash, hnames⟩, hschema, hauthority, hdurable, hstage.trans hend,
      hlast, harray,
      hmin, hmax⟩, ⟨hloaded, hend⟩, ⟨copied, hcopied⟩, digest, hdigest, rfl⟩
  · rintro ⟨hlength, loaded, hheading, ⟨hloaded, hend⟩, ⟨copied, hcopied⟩, digest, hdigest, rfl⟩
    exact ⟨trivial, value, ⟨hlength, hheading.fields.1, text, rfl, hraw, rfl⟩, hheading.fields.2,
      ⟨⟨hheading.schema, hheading.authority⟩, hheading.durable⟩,
      ⟨⟨hheading.array, hheading.count.1⟩, hheading.count.2⟩, loaded, hloaded,
      ⟨hheading.stage.trans hend.symm, hheading.last⟩, hend, copied, hcopied, digest, hdigest, rfl⟩

theorem headRecords_hash {txid : String} {context : Value} {rows : List Value}
    (hplain : ∀ row ∈ rows, row.Plain) (hne : rows ≠ []) {seen seen' : Observed}
    (h : headRecords txid context seen rows = .ok seen') :
    ∃ hash, seen'.previous = some hash ∧ hash.toList.length = 64 ∧
      ∀ c ∈ hash.toList, isLowerHex c = true := by
  induction rows generalizing seen with
  | nil => exact absurd rfl hne
  | cons row rest ih =>
    obtain ⟨hrow, hrest⟩ := List.forall_mem_cons.mp hplain
    simp only [headRecords, bind_eq_ok] at h
    obtain ⟨next, hnext, hrun⟩ := h
    by_cases hempty : rest = []
    · subst hempty
      cases hrun
      simp only [headRecord, bind_eq_ok, pure_eq_ok] at hnext
      obtain ⟨_, -, _, -, _, -, _, -, _, -, _, -, _, -, _, -, _, -, _, -, _, -, _, -, _, -, hash,
        hhash, rfl⟩ :=
        hnext
      obtain ⟨other, hother, hspec⟩ := perlDigest_plain hrow
      rw [hhash, Except.ok.injEq] at hother
      exact ⟨hash, rfl, hother ▸ hspec⟩
    · exact ih hrest hempty hrun

theorem canonicalFields_texts {fields : List (String × Value)}
    (h : ∀ field ∈ fields, ∃ text, field.2.canonical = .ok text) :
    Value.canonicalFields fields =
      .ok (fields.map fun field => (field.1, (field.2.canonical).toOption.getD "")) := by
  induction fields with
  | nil => rfl
  | cons field fields ih =>
    obtain ⟨⟨text, htext⟩, hrest⟩ := List.forall_mem_cons.mp h
    rw [Value.canonicalFields, htext, ih hrest, List.map_cons, htext]
    rfl

theorem canonical_hash_ok {fields : List (String × Value)}
    (h : ∀ field ∈ fields, ∃ text, field.2.canonical = .ok text) :
    ∃ text, (Value.hash fields).canonical = .ok text := by
  rw [Value.canonical, canonicalFields_texts h]
  exact ⟨_, rfl⟩

/-- The JSON of a hash does not depend on the order of its fields. -/
theorem canonical_hash_perm {fields fields' : List (String × Value)} (hperm : fields.Perm fields')
    (hnodup : (fields.map Prod.fst).Nodup)
    (h : ∀ field ∈ fields, ∃ text, field.2.canonical = .ok text) :
    (Value.hash fields).canonical = (Value.hash fields').canonical := by
  have h' : ∀ field ∈ fields', ∃ text, field.2.canonical = .ok text := fun field hfield =>
    h field (hperm.mem_iff.mpr hfield)
  rw [Value.canonical, Value.canonical, canonicalFields_texts h, canonicalFields_texts h']
  have htexts := hperm.map fun field => (field.1, (field.2.canonical).toOption.getD "")
  have hnames : ((fields.map fun field => (field.1, (field.2.canonical).toOption.getD "")).map
      Prod.fst).Nodup := by
    rw [List.map_map]
    exact hnodup
  have hsort := (@sortBy_eq_iff _ _ _ Prod.fst _ _ hnames).mpr htexts
  exact congrArg (fun texts : List (String × String) => Except.ok ("\x7b" ++ ",".intercalate
    (texts.map fun field => Value.quote field.1 ++ ":" ++ field.2) ++ "\x7d")) hsort

theorem merge_canonical {a b : Value} (ha : a.Plain) (hb : b.Plain) :
    ∃ text, (merge a b).canonical = .ok text := by
  have hfields : ∀ {v : Value}, v.Plain → ∀ field ∈ v.fields, ∃ text, field.2.canonical =
    .ok text := by
    intro v hv
    cases hv with
    | hash _ hall => exact fun field hfield => (hall field hfield).canonical_ok
    | _ => exact fun _ hnone => absurd hnone List.not_mem_nil
  refine canonical_hash_ok fun field hfield => ?_
  rcases List.mem_append.mp hfield with hleft | hright
  · exact hfields ha field (List.mem_of_mem_filter hleft)
  · exact hfields hb field hright

theorem handOn_canonical {row : Value} (h : row.Plain) : ∃ text, (handOn row).canonical =
    .ok text := by
  refine canonical_hash_ok ?_
  simp only [List.forall_mem_cons, List.not_mem_nil, false_implies, implies_true, and_true]
  exact ⟨(plain_get h _).canonical_ok,
    merge_canonical (plain_get (plain_get h _) _) (plain_get h _)⟩

theorem copy_handOn {rows : List Value} (h : ∀ row ∈ rows, row.Plain) :
    ∃ text, perlJson (.array (rows.map handOn)) = .ok text := by
  obtain ⟨text, htext, -⟩ := Value.canonical_array (List.forall_mem_map.mpr fun row hrow =>
    handOn_canonical (h row hrow))
  exact ⟨_, perlJson_isOk htext⟩

/-- The client accepts exactly what the observer accepts, with the same head. -/
theorem load_iff_head {jsonDecode : String → Except String Value} {raw : String} {value : Value}
    (h : Printed jsonDecode raw value) {txid vmid : String} (hid : isRequestId txid =
        true) {c : Core} (hcore : c.Identifies txid vmid)
          (hrows : ∀ row ∈ items (value.get "records"), Permitted row)
    {head : String} :
    (∃ history, loadExisting jsonDecode (recoveryClient txid hid c) raw = .ok history ∧
      history.get "last_sha256" = .str head) ↔ finalizingHead value txid c.context = .ok head := by
  have hplain := plain_items (plain_get h.plain "records")
  have hboth : ∀ row ∈ items (value.get "records"), row.Plain ∧ Permitted row := fun row hrow =>
    ⟨hplain row hrow, hrows row hrow⟩
  constructor
  · rintro ⟨history, hload, hlast⟩
    obtain ⟨-, loaded, hheading, hrun, -, digest, -, rfl⟩ := (loadExisting_eq_ok h hid).mp hload
    have hsame : Value.str (loaded.previous.getD "") = .str head := hlast
    cases hsame
    obtain ⟨hseen, hend, -⟩ := (loadRecords_iff hcore hboth).mp hrun
    exact finalizingHead_eq_ok.mpr ⟨hheading, _, hseen, hend, rfl⟩
  · intro hhead
    obtain ⟨hheading, seen, hseen, hend, rfl⟩ := finalizingHead_eq_ok.mp hhead
    have hne : items (value.get "records") ≠ [] := fun hnil => by
      have hcount := hheading.count.1
      rw [hnil] at hcount
      exact absurd hcount (by decide)
    obtain ⟨hash, hprevious, hlength, -⟩ := headRecords_hash hplain hne hseen
    obtain ⟨text, htext, hraw⟩ := h.canonical
    obtain ⟨digest, hdigest, -⟩ := perlDigest_plain hcore.plain
    have hfits := hheading.fits h.plain (by rw [hprevious]; exact hlength) hrows htext
    have hrun := (@loadRecords_iff c txid vmid hcore _ hboth ⟨none, .undef, 0, []⟩
      ⟨seen.previous, seen.stage, seen.sequence, (items (value.get "records")).map handOn⟩).mpr
        ⟨hseen, hend, rfl⟩
    refine ⟨_, (loadExisting_eq_ok h hid).mpr ⟨?_, _, hheading, hrun, copy_handOn hplain, digest,
      hdigest,
      rfl⟩, rfl⟩
    rw [hraw, String.length_append]
    exact hfits

end SharedLvmThin.FinalizingReaders
