import SharedLvmThin.FinalizingSizes

/-! What the client hands on is complete. The executor rebuilds the core from every receipt and
  finds
one context, whose digest is the one that the client vouches for. -/

namespace SharedLvmThin.FinalizingReaders
open Perl KeyedLists
open DestroyJournal hiding advance nextStage

/-! ## Completing -/

/-- Each row has the stage that the one before it calls for. -/
def Staged (stage : Value) : List Value → Prop
  | [] => True
  | row :: rest => expectedStage stage = some (row.get "stage").text ∧ Staged (row.get "stage") rest

def lastStage (stage : Value) (rows : List Value) : Value :=
  rows.foldl (fun _ row => row.get "stage") stage

/-- What a row of an accepted journal is, its stage and its number aside. -/
structure Carries (own : Value) (row : Value) : Prop where
  context : row.get "context" = own
  evidence : (row.get "evidence").isHash = true
  permitted : Permitted row

theorem headRecords_rows {context : Value} (hcontext : context.Plain) {txid : String}
    {rows : List Value} (hrows : ∀ row ∈ rows, row.Plain ∧ Permitted row) {seen seen' : Observed}
    (h : headRecords txid context seen rows = .ok seen') :
    Staged seen.stage rows ∧ lastStage seen.stage rows = seen'.stage ∧
      ∀ row ∈ rows, Carries context row := by
  induction rows generalizing seen with
  | nil =>
    cases h
    exact ⟨trivial, rfl, List.forall_mem_nil _⟩
  | cons row rest ih =>
    obtain ⟨⟨hrow, hpermitted⟩, hrest⟩ := List.forall_mem_cons.mp hrows
    simp only [headRecords, bind_eq_ok, headRecord_eq_ok hcontext hrow hpermitted] at h
    obtain ⟨next, ⟨hlinked, hexpected, hash, -, rfl⟩, hrun⟩ := h
    obtain ⟨hstaged, hlast, hcarries⟩ := ih hrest hrun
    exact ⟨⟨hexpected, hstaged⟩, hlast,
      List.forall_mem_cons.mpr ⟨⟨hlinked.context, hlinked.evidence, hpermitted⟩, hcarries⟩⟩

theorem lookup_filter {l : List (String × Value)} {p : String → Bool} (name : String) :
    (l.filter fun field => p field.1).lookup name = if p name =
      true then l.lookup name else none := by
  induction l with
  | nil => simp
  | cons field l ih =>
    obtain ⟨other, v⟩ := field
    by_cases hname : name = other
    · subst hname
      by_cases hp : p name = true
      · simp [hp]
      · simp [hp, ih]
    · have hne : (name == other) = false := beq_false_of_ne hname
      by_cases hp : p other = true
      · simp [hp, ih, List.lookup_cons, hne]
      · simp [hp, ih, List.lookup_cons, hne]

/-- The later hash wins. -/
theorem merge_get (a b : Value) (name : String) :
    (merge a b).get name = if b.has name = true then b.get name else a.get name := by
  have hlookup : (merge a b).fields.lookup name =
      ((a.fields.filter fun field => !b.has field.1).lookup name).or (b.fields.lookup name) :=
    List.lookup_append
  rw [Value.get, hlookup, @lookup_filter a.fields (fun other => !b.has other) name]
  by_cases hb : b.has name = true
  · simp [hb, Value.get]
  · have hnone : b.fields.lookup name = none := Option.not_isSome_iff_eq_none.mp hb
    simp [hb, hnone, Value.get]

theorem has_of_isHash {v : Value} {name : String} (h : (v.get name).isHash = true) :
    v.has name = true := by
  rw [Value.get] at h
  rw [Value.has]
  cases hlookup : v.fields.lookup name with
  | none =>
    rw [hlookup] at h
    cases h
  | some _ => rfl

theorem not_has_of_names {v : Value} {names : List String} (h : ∀ field ∈ v.fields, field.1 ∈ names)
    {name : String} (hname : name ∉ names) : v.has name = false := by
  by_contra hhas
  obtain ⟨w, hw⟩ := Option.isSome_iff_exists.mp (Bool.of_not_eq_false hhas)
  obtain ⟨l, r, hsplit, -⟩ := List.lookup_eq_some_iff.mp hw
  have hmem := h (name, w) (by rw [hsplit]; simp)
  exact hname hmem

/-- The evidence of a row hides nothing of the core. -/
theorem Carries.get_core {c : Core} {row : Value} (h : Carries c.context row) {name : String}
    (hname : name ∉ extra) : ((handOn row).get "receipt").get name = c.receipt.get name := by
  have hreceipt : (handOn row).get "receipt" = merge c.receipt (row.get "evidence") := by
    have hcontext := h.context
    change merge ((row.get "context").get "receipt") (row.get "evidence") = _
    rw [hcontext]
    rfl
  rw [hreceipt, merge_get, if_neg (by rw [not_has_of_names h.permitted.names hname]; decide)]

theorem Carries.evidence_isHash {c : Core} {row : Value} (h : Carries c.context row) :
    (((handOn row).get "receipt").get "evidence").isHash = true := by
  change ((merge ((row.get "context").get "receipt") (row.get "evidence")).get "evidence").isHash =
    true
  rw [merge_get, if_pos (has_of_isHash h.permitted.evidence)]
  exact h.permitted.evidence

/-- The core in the executor's order. -/
def Core.rebuilt (c : Core) : Value :=
  .hash [("schema", .str coreSchema), ("receipt", .hash [("schema", c.schema), ("txid", c.txid),
    ("vmid", c.vmid), ("config", c.config), ("runtime", c.runtime), ("plan", c.plan)])]

theorem Carries.rebuilt_eq {c : Core} {row : Value} (h : Carries c.context row) :
    rebuilt ((handOn row).get "receipt") = c.rebuilt := by
  have hnames : ∀ name ∈ core, name ∉ extra := by decide
  have hfields : (core.map fun name => (name, ((handOn row).get "receipt").get name)) =
      core.map fun name => (name, c.receipt.get name) :=
    List.map_congr_left fun name hname => by rw [h.get_core (hnames name hname)]
  rw [FinalizingReaders.rebuilt, hfields]
  rfl

theorem Core.Identifies.plain_fields {c : Core} {txid vmid : String} (h : c.Identifies txid vmid) :
    ∀ field ∈ c.receipt.fields, field.2.Plain := by
  cases h.plain with
  | hash _ hfields =>
    have hreceipt := hfields ("receipt", c.receipt) List.mem_cons_self
    cases hreceipt with
    | hash _ hall => exact hall

theorem Core.Identifies.receipt_canonical {c : Core} {txid vmid : String}
    (h : c.Identifies txid vmid) :
    c.receipt.canonical =
      (Value.hash (core.map fun name => (name, c.receipt.get name))).canonical := by
  have hperm : ["config", "plan", "runtime", "schema", "txid", "vmid"].Perm core := by decide
  refine canonical_hash_perm (hperm.map fun name => (name, c.receipt.get name)) ?_ ?_
  · change ["config", "plan", "runtime", "schema", "txid", "vmid"].Nodup
    decide
  · intro field hfield
    exact (h.plain_fields field hfield).canonical_ok

theorem canonical_hash_congr {name name' : String} {v v' w : Value} (h : v.canonical =
    v'.canonical) :
    (Value.hash [(name, v), (name', w)]).canonical =
      (Value.hash [(name, v'), (name', w)]).canonical := by
  have hfields : Value.canonicalFields [(name, v), (name', w)] =
      Value.canonicalFields [(name, v'), (name', w)] := by
    simp only [Value.canonicalFields, h]
  rw [Value.canonical, Value.canonical, hfields]

/-- The executor's core prints like the context. -/
theorem Core.Identifies.rebuilt_canonical {c : Core} {txid vmid : String}
    (h : c.Identifies txid vmid) :
    c.rebuilt.canonical = c.context.canonical := by
  have hreceipt := h.receipt_canonical
  refine Eq.trans ?_ (canonical_hash_congr hreceipt.symm)
  refine canonical_hash_perm (.swap _ _ _) ?_ ?_
  · change ["schema", "receipt"].Nodup
    decide
  · have hplain := h.plain_fields
    simp only [List.forall_mem_cons, List.not_mem_nil, false_implies, implies_true, and_true]
    exact ⟨(Value.Plain.str _).canonical_ok, hreceipt ▸ canonical_hash_ok fun field hfield =>
      (hplain field hfield).canonical_ok⟩

theorem perlDigest_congr {v w : Value} (h : v.canonical = w.canonical) : perlDigest v =
    perlDigest w := by
  rw [perlDigest, perlDigest, perlJson, perlJson, h]

theorem completionRecord_ok {c : Core} {txid vmid : String} (hcore : c.Identifies txid vmid)
    {row stage : Value} (h : Carries c.context row)
    (hstage : expectedStage stage = some (row.get "stage").text) {context : Option Value}
    (hcontext : context.getD c.rebuilt = c.rebuilt) :
    completionRecord vmid txid context stage (handOn row) = .ok c.rebuilt := by
  have hnames : "txid" ∉ extra ∧ "vmid" ∉ extra ∧ "schema" ∉ extra := by decide
  have htxid := (congrArg Value.text (h.get_core hnames.1)).trans hcore.txid
  have hvmid := (congrArg Value.text (h.get_core hnames.2.1)).trans hcore.vmid
  have hschema := (congrArg Value.text (h.get_core hnames.2.2)).trans hcore.schema
  obtain ⟨text, htext⟩ := hcore.plain.canonical_ok
  have hrebuilt : c.rebuilt.canonical = .ok text := hcore.rebuilt_canonical.trans htext
  have hshape : (handOn row).isHash = true ∧ ((handOn row).get "receipt").isHash = true :=
    ⟨rfl, rfl⟩
  have hown : (handOn row).get "stage" = row.get "stage" := rfl
  simp only [completionRecord, bind_eq_ok, exists_unit, dieIf_eq_ok, hshape, hown, hstage, htxid,
    hvmid,
    hschema, h.evidence_isHash, h.rebuilt_eq, hcontext, hrebuilt, Except.ok.injEq, pure_eq_ok]
  simp

theorem completionRecords_ok {c : Core} {txid vmid : String} (hcore : c.Identifies txid vmid)
    {rows : List Value} {stage : Value} (hrows : ∀ row ∈ rows, Carries c.context row)
    (hstaged : Staged stage rows) {context : Option Value} (hcontext : context.getD c.rebuilt =
        c.rebuilt)
    (hsome : rows = [] → context = some c.rebuilt) :
    completionRecords vmid txid context stage (rows.map handOn) =
      .ok (some c.rebuilt, lastStage stage rows) := by
  induction rows generalizing stage context with
  | nil => rw [hsome rfl]; rfl
  | cons row rest ih =>
    obtain ⟨hrow, hrest⟩ := List.forall_mem_cons.mp hrows
    obtain ⟨hstage, hstaged⟩ := hstaged
    rw [List.map_cons, completionRecords, completionRecord_ok hcore hrow hstage hcontext]
    exact ih hrest hstaged rfl fun _ => rfl

theorem isSha256_of_spec {hash : String} (h : hash.toList.length = 64 ∧
    ∀ c ∈ hash.toList, isLowerHex c = true) : isSha256 hash = true :=
  exactly_iff.mpr h

/-- The executor takes a history of fewer than 32 records. -/
theorem completionContext_iff {c : Core} {txid vmid : String} (hcore : c.Identifies txid vmid)
    {rows : List Value} (hrows : ∀ row ∈ rows, Carries c.context row) (hcount : 4 ≤ rows.length)
    (hstaged : Staged .undef rows) {loaded : Loaded} (hrecords : loaded.records = rows.map handOn)
    (hlast : lastStage .undef rows = loaded.stage) (hend : loaded.stage.text = "FINALIZING")
    (hhead : isSha256 (loaded.previous.getD "") = true) {digest : String}
    (hdigest : perlDigest c.context = .ok digest) :
    (∃ context, completionContext (historyOf txid loaded digest) vmid txid = .ok context) ↔
      rows.length < 32 := by
  have hitems : items ((historyOf txid loaded digest).get "records") = rows.map handOn := hrecords
  have hshape : (historyOf txid loaded digest).isHash = true ∧
      ((historyOf txid loaded digest).get "durable").text = "1" ∧
      ((historyOf txid loaded digest).get "stage").text = "FINALIZING" ∧
      ((historyOf txid loaded digest).get "request_id").text = txid ∧
      ((historyOf txid loaded digest).get "last_sha256").text = loaded.previous.getD "" ∧
      ((historyOf txid loaded digest).get "records").isArray = true ∧
      ((historyOf txid loaded digest).get "context_sha256").text = digest :=
    ⟨rfl, rfl, hend, rfl, rfl, rfl, rfl⟩
  obtain ⟨hhash, hdurable, hstage, hrequest, hsha, harray, hcontext⟩ := hshape
  have hne : rows = [] → (none : Option Value) = some c.rebuilt := by
    rintro rfl
    exact absurd hcount (by decide)
  have hrun := completionRecords_ok hcore hrows hstaged (show none.getD c.rebuilt =
    c.rebuilt from rfl) hne
  obtain ⟨text, htext⟩ := hcore.plain.canonical_ok
  have hrebuilt : c.rebuilt.canonical = .ok text := hcore.rebuilt_canonical.trans htext
  have hcopy : c.rebuilt.copy = .ok c.rebuilt := by
    rw [Value.copy, hrebuilt]
    rfl
  have hsame : perlDigest c.rebuilt = .ok digest :=
    (perlDigest_congr hcore.rebuilt_canonical).trans hdigest
  simp only [completionContext, hhash, hdurable, hstage, hrequest, hsha, harray, hcontext, hitems,
    hhead,
    bind_eq_ok, exists_unit, dieIf_eq_ok, hrun, List.length_map]
  constructor
  · rintro ⟨context, hguard, -⟩
    simp only [Bool.or_eq_false_iff, decide_eq_false_iff_not, not_le, ge_iff_le] at hguard
    exact hguard.2
  · intro hfew
    refine ⟨c.rebuilt, ?_, _, rfl, digest, hsame, ?_, hcopy⟩
    · have hmin : ¬ rows.length < 4 := by omega
      have hmax : ¬ 32 ≤ rows.length := by omega
      simp [hmin, hmax]
    · simp [hlast, hend]

/-! ## The agreement -/

theorem expectedStage_of_text {s : Value} {u : String} (h : s.text = u) (hu : u ≠ "") :
    expectedStage s = finalizingAfter u := by
  have hdefined : s.isDefined = true := by
    cases s with
    | undef => exact absurd h.symm hu
    | _ => rfl
  rw [expectedStage, if_pos hdefined, h]

theorem Staged.finalizing {s : Value} (h : s.text = "FINALIZING") {rows : List Value}
    (hstaged : Staged s rows) :
    (rows.map fun row => (row.get "stage").text) = List.replicate rows.length "FINALIZING" := by
  induction rows generalizing s with
  | nil => rfl
  | cons row rest ih =>
    obtain ⟨hrow, hrest⟩ := hstaged
    rw [expectedStage_of_text h (by decide)] at hrow
    have hstage : (row.get "stage").text = "FINALIZING" := (Option.some.inj hrow).symm
    rw [List.map_cons, ih hstage hrest, hstage]
    rfl

/-- PREPARED, DISPATCHED and STORAGE_ABSENT once each, and FINALIZING from there on. -/
theorem Staged.course {rows : List Value} (h : Staged .undef rows) (hcount : 4 ≤ rows.length) :
    ∃ repeats, (rows.map fun row => (row.get "stage").text) =
      ["PREPARED", "DISPATCHED", "STORAGE_ABSENT"] ++
        List.replicate (repeats + 1) "FINALIZING" := by
  match rows, h, hcount with
  | r₁ :: r₂ :: r₃ :: r₄ :: rest, ⟨h₁, h₂, h₃, h₄, hrest⟩, _ =>
    have hprepared : (r₁.get "stage").text = "PREPARED" := (Option.some.inj h₁).symm
    rw [expectedStage_of_text hprepared (by decide)] at h₂
    have hdispatched : (r₂.get "stage").text = "DISPATCHED" := (Option.some.inj h₂).symm
    rw [expectedStage_of_text hdispatched (by decide)] at h₃
    have habsent : (r₃.get "stage").text = "STORAGE_ABSENT" := (Option.some.inj h₃).symm
    rw [expectedStage_of_text habsent (by decide)] at h₄
    have hfinalizing : (r₄.get "stage").text = "FINALIZING" := (Option.some.inj h₄).symm
    refine ⟨rest.length, ?_⟩
    simp only [List.map_cons, hprepared, hdispatched, habsent, hfinalizing,
      hrest.finalizing hfinalizing,
      List.replicate_succ, List.cons_append, List.nil_append]

/-- The three readers agree on an observation whose rows carry permitted evidence and fit their
  files:
the client accepts what the observer accepts and with the same head,
  and what it hands on is complete
for the executor as long as a record can be added. -/
theorem readers_agree (jsonDecode : String → Except String Value) (raw : String) (value : Value)
    (h : Printed jsonDecode raw value) (txid vmid : String) (hid : isRequestId txid =
        true) (c : Core) (hcore : c.Identifies txid vmid)
          (hrows : ∀ row ∈ items (value.get "records"), Permitted row) :
    (loadExisting jsonDecode (recoveryClient txid hid c) raw).toOption.map
        (fun history => history.get "last_sha256") =
      (finalizingHead value txid c.context).toOption.map Value.str ∧
    ∀ history, loadExisting jsonDecode (recoveryClient txid hid c) raw = .ok history →
      ((∃ context, completionContext history vmid txid = .ok context) ↔
        (items (history.get "records")).length < 32) ∧
      ∃ repeats, ((items (value.get "records")).map fun row => (row.get "stage").text) =
        ["PREPARED", "DISPATCHED", "STORAGE_ABSENT"] ++
          List.replicate (repeats + 1) "FINALIZING" := by
  have hplain := plain_items (plain_get h.plain "records")
  have hboth : ∀ row ∈ items (value.get "records"), row.Plain ∧ Permitted row := fun row hrow =>
    ⟨hplain row hrow, hrows row hrow⟩
  constructor
  · cases hhead : finalizingHead value txid c.context with
    | ok head =>
      obtain ⟨history, hload, hlast⟩ := (load_iff_head h hid hcore hrows).mpr hhead
      rw [hload]
      exact congrArg some hlast
    | error message =>
      cases hload : loadExisting jsonDecode (recoveryClient txid hid c) raw with
      | error _ => rfl
      | ok history =>
        obtain ⟨-, loaded, -, -, -, digest, -, rfl⟩ := (loadExisting_eq_ok h hid).mp hload
        have hother := (load_iff_head h hid hcore hrows).mp ⟨_, hload, rfl⟩
        rw [hhead] at hother
        cases hother
  · intro history hload
    obtain ⟨-, loaded, hheading, hrun, -, digest, hdigest, rfl⟩ :=
      (loadExisting_eq_ok h hid).mp hload
    obtain ⟨hseen, hend, hrecords⟩ := (loadRecords_iff hcore hboth).mp hrun
    obtain ⟨hstaged, hlast, hcarries⟩ := headRecords_rows hcore.plain hboth hseen
    have hne : items (value.get "records") ≠ [] := fun hnil => by
      have hcount := hheading.count.1
      rw [hnil] at hcount
      exact absurd hcount (by decide)
    obtain ⟨hash, hprevious, hspec⟩ := headRecords_hash hplain hne hseen
    have hhead : isSha256 (loaded.previous.getD "") = true := by
      rw [show loaded.previous = some hash from hprevious]
      exact isSha256_of_spec hspec
    rw [List.nil_append] at hrecords
    have hlength : (items ((historyOf txid loaded digest).get "records")).length =
        (items (value.get "records")).length := by
      change loaded.records.length = _
      rw [hrecords, List.length_map]
    rw [hlength]
    exact ⟨completionContext_iff hcore hcarries hheading.count.1 hstaged hrecords hlast hend hhead
      hdigest,
      hstaged.course hheading.count.1⟩

/-! ## A journal of four records -/

def quietId : String := "aaaaaaaaaaaaaaaaaaaaaaaaaaaaaaaa"

def quietCore : Core := ⟨.num "1", .str quietId, .num "101", .hash [], .hash [], .hash []⟩

def digestOf (v : Value) : String := (perlDigest v).toOption.getD ""

def quietRow (sequence : Nat) (stage : String) (previous : Option String) : Value :=
  .hash [("authority", .str "NONE"), ("context", quietCore.context),
    ("context_sha256", .str (digestOf quietCore.context)),
      ("evidence", .hash [("evidence", .hash [])]),
    ("previous_sha256", optionalText previous), ("request_id", .str quietId),
    ("schema", .str journalSchema), ("sequence", .num (toString sequence)), ("stage", .str stage)]

theorem quietCore_identifies : quietCore.Identifies quietId "101" := by
  have hempty : (Value.hash []).Plain := .record (by decide) (List.forall_mem_nil _)
  have hreceipt : quietCore.receipt.Plain := by
    refine .record (by decide) ?_
    simp only [List.forall_mem_cons, List.not_mem_nil, false_implies, implies_true, and_true]
    exact ⟨hempty, hempty, hempty, plain_nat 1, .str _, plain_nat 101⟩
  refine ⟨.record (by decide) ?_, rfl, rfl, rfl⟩
  simp only [List.forall_mem_cons, List.not_mem_nil, false_implies, implies_true, and_true]
  exact ⟨hreceipt, .str _⟩

theorem quietRow_plain (sequence : Nat) (stage : String) (previous : Option String) :
    (quietRow sequence stage previous).Plain := by
  have hempty : (Value.hash []).Plain := .record (by decide) (List.forall_mem_nil _)
  have hevidence : (Value.hash [("evidence", .hash [])]).Plain :=
    .record (by decide) (by simpa using hempty)
  have hsorted : ["authority", "context", "context_sha256", "evidence", "previous_sha256",
    "request_id",
      "schema", "sequence", "stage"].Pairwise (· < ·) := by decide
  refine .record hsorted ?_
  simp only [List.forall_mem_cons, List.not_mem_nil, false_implies, implies_true, and_true]
  exact ⟨.str _, quietCore_identifies.plain, .str _, hevidence, plain_optionalText previous, .str _,
    .str _,
    plain_nat sequence, .str _⟩

theorem perlDigest_digestOf {v : Value} (h : v.Plain) : perlDigest v = .ok (digestOf v) := by
  obtain ⟨hash, hhash, -⟩ := perlDigest_plain h
  rw [digestOf, hhash]
  rfl

theorem weight_digestOf {v : Value} (h : v.Plain) :
    weight asciiChar (Value.quote (digestOf v)).toList = 66 := by
  obtain ⟨hash, hhash, hlength, hhex⟩ := perlDigest_plain h
  rw [digestOf, hhash]
  exact weight_digest marks_ascii hlength hhex

/-- A row with a short stage and sequence fits its file. -/
theorem quietRow_permitted {sequence : Nat} {stage : String} {previous : Option String}
    (hsequence : (toString sequence).length ≤ 100) (hstage : stage.length ≤ 100)
    (hprevious : weight asciiChar (optionalText previous).chars ≤ 66) :
    Permitted (quietRow sequence stage previous) := by
  have hplain := quietRow_plain sequence stage previous
  obtain ⟨text, htext⟩ := hplain.canonical_ok
  have hfields : ∀ field ∈ (quietRow sequence stage previous).fields,
      ∃ text, field.2.canonical = .ok text := canonical_hash_isOk htext
  have hne : (quietRow sequence stage previous).fields ≠ [] := List.cons_ne_nil _ _
  obtain ⟨text', htext', hweight⟩ := record_weight marks_ascii _ rfl hne hfields
  rw [htext, Except.ok.injEq] at htext'
  subst htext'
  have hnames : ∀ field ∈ [("evidence", Value.hash [])], field.1 ∈ extra := by
    simp only [List.forall_mem_cons, List.not_mem_nil, false_implies, implies_true, and_true]
    decide
  refine ⟨hnames, rfl, _, perlJson_isOk htext, ?_⟩
  have hnames : ∀ name ∈ ["authority", "NONE", "context", "context_sha256", "evidence",
      "previous_sha256", "request_id", quietId, "schema", journalSchema, "sequence", "stage"],
      name.length ≤ 80 := by decide +kernel
  have hempty : (Value.hash []).Plain := .record (by decide) (List.forall_mem_nil _)
  have hevidence : (Value.hash [("evidence", Value.hash [])]).Plain :=
    .record (by decide) (by simpa using hempty)
  have hbounds : quietCore.context.bound ≤ 2000 ∧
      (Value.hash [("evidence", Value.hash [])]).bound ≤ 2000 := by decide +kernel
  -- the weights are kept from evaluation
  obtain ⟨w, hw⟩ : ∃ w : Value → Nat, ∀ v : Value, weight asciiChar v.chars = w v :=
    ⟨_, fun _ => rfl⟩
  have hfield (name : String) (v : Value) :
      fieldWeight asciiChar (name, v) = w (.str name) + w v + 2 := by
    rw [fieldWeight_eq marks_ascii, ← Value.chars_str, hw, hw]
  have hquoted : ∀ name ∈ ["authority", "NONE", "context", "context_sha256", "evidence",
      "previous_sha256", "request_id", quietId, "schema", journalSchema, "sequence", "stage"],
      w (.str name) ≤ 1000 := by
    intro name hname
    have hname := hnames name hname
    have hle := quote_weight name
    rw [← Value.chars_str, hw] at hle
    omega
  have hbounded {v : Value} (hv : v.Plain) (hle : v.bound ≤ 2000) : w v ≤ 24000 := by
    have hweight := weight_le asciiChar_length_le v.chars
    have hlength := hv.length_le_bound
    rw [hw] at hweight
    omega
  have hcontextWeight := hbounded quietCore_identifies.plain hbounds.1
  have hevidenceWeight := hbounded hevidence hbounds.2
  have hcontext := weight_digestOf quietCore_identifies.plain
  rw [← Value.chars_str, hw] at hcontext
  have hstageWeight := quote_weight stage
  rw [← Value.chars_str, hw] at hstageWeight
  have hsequenceWeight := weight_le asciiChar_length_le (toString sequence).toList
  rw [String.length_toList, ← Value.chars_num, hw] at hsequenceWeight
  rw [hw] at hprevious
  rw [length_mapText, hweight]
  simp only [quietRow, Value.fields, List.map_cons, List.map_nil, List.sum_cons, List.sum_nil,
    hfield, hcontext]
  simp only [List.forall_mem_cons, List.not_mem_nil, false_implies, implies_true, and_true] at hquoted
  have hlimit : limit = 1048576 := rfl
  omega

def firstRow : Value := quietRow 1 "PREPARED" none
def secondRow : Value := quietRow 2 "DISPATCHED" (some (digestOf firstRow))
def thirdRow : Value := quietRow 3 "STORAGE_ABSENT" (some (digestOf secondRow))
def fourthRow : Value := quietRow 4 "FINALIZING" (some (digestOf thirdRow))

def quietJournal : Value :=
  .hash [("authority", .str "NONE"), ("durable", .bool true),
    ("last_sha256", .str (digestOf fourthRow)),
    ("records", .array [firstRow, secondRow, thirdRow, fourthRow]), ("schema", .str journalSchema),
    ("stage", .str "FINALIZING")]

theorem quietRow_permitted_after {sequence : Nat} {stage : String} {row : Value} (h : row.Plain)
    (hsequence : (toString sequence).length ≤ 100) (hstage : stage.length ≤ 100) :
    Permitted (quietRow sequence stage (some (digestOf row))) := by
  refine quietRow_permitted hsequence hstage ?_
  rw [optionalText, Value.chars_str, weight_digestOf h]

theorem quietRows : ∀ row ∈ [firstRow, secondRow, thirdRow, fourthRow], row.Plain ∧
    Permitted row := by
  simp only [List.forall_mem_cons, List.not_mem_nil, false_implies, implies_true, and_true]
  refine ⟨⟨quietRow_plain _ _ _, quietRow_permitted (by decide) (by decide) ?_⟩,
    ⟨quietRow_plain _ _ _, quietRow_permitted_after (quietRow_plain _ _ _) (by decide) (by decide)⟩,
    ⟨quietRow_plain _ _ _, quietRow_permitted_after (quietRow_plain _ _ _) (by decide) (by decide)⟩,
    ⟨quietRow_plain _ _ _, quietRow_permitted_after (quietRow_plain _ _ _) (by decide) (by decide)⟩⟩
  rw [optionalText, Value.chars_undef]
  decide

theorem quietRow_head {sequence : Nat} {stage : String} {seen : Observed}
    (hpermitted : Permitted (quietRow (sequence + 1) stage seen.previous))
        (hsequence : seen.sequence = sequence) (hstage : expectedStage seen.stage = some stage) :
    headRecord quietId quietCore.context seen (quietRow (sequence + 1) stage seen.previous) =
      .ok ⟨some (digestOf (quietRow (sequence + 1) stage seen.previous)), .str stage,
        seen.sequence + 1⟩ := by
  have hplain := quietRow_plain (sequence + 1) stage seen.previous
  refine (headRecord_eq_ok quietCore_identifies.plain hplain hpermitted).mpr
    ⟨⟨⟨rfl, ?_⟩, rfl, rfl, rfl, ?_, rfl, rfl, ?_, rfl⟩, hstage, _, perlDigest_digestOf hplain, rfl⟩
  · have hsorted : sortBy id ["authority", "context", "context_sha256", "evidence",
        "previous_sha256", "request_id", "schema", "sequence", "stage"] =
      ["authority", "context", "context_sha256", "evidence", "previous_sha256", "request_id",
        "schema", "sequence", "stage"] := by decide +kernel
    change ",".intercalate (sortBy id ["authority", "context", "context_sha256", "evidence",
      "previous_sha256", "request_id", "schema", "sequence", "stage"]) = recordFields
    rw [hsorted, ← String.toList_inj, String.toList_intercalate]
    decide +kernel
  · rw [hsequence]
    rfl
  · exact perlDigest_digestOf quietCore_identifies.plain

theorem quietJournal_names : quietJournal.fields.map Prod.fst = observationNames := rfl

theorem quietJournal_heading : Heading quietJournal (digestOf fourthRow) := by
  refine ⟨⟨rfl, ?_⟩, rfl, rfl, rfl, rfl, rfl, rfl, by decide, by decide⟩
  rw [fieldNames, quietJournal_names]
  decide +kernel

theorem quietJournal_head :
    finalizingHead quietJournal quietId quietCore.context = .ok (digestOf fourthRow) := by
  have hrows := quietRows
  simp only [List.forall_mem_cons, List.not_mem_nil, false_implies, implies_true, and_true] at hrows
  obtain ⟨hfirst, hsecond, hthird, hfourth⟩ := hrows
  have hone := @quietRow_head 0 "PREPARED" ⟨none, .undef, 0⟩ hfirst.2 rfl rfl
  have htwo := @quietRow_head 1 "DISPATCHED" ⟨some (digestOf firstRow), .str "PREPARED",
    1⟩ hsecond.2 rfl rfl
  have hthree := @quietRow_head 2 "STORAGE_ABSENT" ⟨some (digestOf secondRow), .str "DISPATCHED", 2⟩
    hthird.2 rfl rfl
  have hfour := @quietRow_head 3 "FINALIZING" ⟨some (digestOf thirdRow), .str "STORAGE_ABSENT", 3⟩
    hfourth.2 rfl rfl
  refine finalizingHead_eq_ok.mpr ⟨quietJournal_heading,
    ⟨some (digestOf fourthRow), .str "FINALIZING", 4⟩, ?_, rfl, Option.getD_some⟩
  have hitems : items (quietJournal.get "records") = [firstRow, secondRow, thirdRow, fourthRow] :=
    rfl
  rw [hitems]
  refine bind_eq_ok.mpr ⟨_, hone, bind_eq_ok.mpr ⟨_, htwo, bind_eq_ok.mpr ⟨_, hthree,
    bind_eq_ok.mpr ⟨_, hfour, rfl⟩⟩⟩⟩

theorem quietJournal_plain : quietJournal.Plain := by
  have hsorted : observationNames.Pairwise (· < ·) := by decide
  refine .record hsorted ?_
  simp only [List.forall_mem_cons, List.not_mem_nil, false_implies, implies_true, and_true]
  exact ⟨.str _, .bool _, .str _, .array fun row hrow => (quietRows row hrow).1, .str _, .str _⟩

def quietText : String := (perlJson quietJournal).toOption.getD "" ++ "\n"

/-- The decoder on this text. -/
def quietDecode (raw : String) : Except String Value :=
  if raw = quietText then .ok quietJournal else .error "malformed JSON string"

theorem quietJournal_printed : Printed quietDecode quietText quietJournal := by
  obtain ⟨text, htext⟩ := perlJson_plain quietJournal_plain
  refine ⟨if_pos rfl, quietJournal_plain, text, htext, ?_⟩
  rw [quietText, htext]
  rfl

/-- A quiet journal of four records: the observer takes its head, the client the same,
  and the executor
completes what the client hands on. -/
theorem readers_agree_quiet :
    (finalizingHead quietJournal quietId quietCore.context = .ok (digestOf fourthRow) ∧
      (loadExisting quietDecode (recoveryClient quietId (by decide) quietCore)
        quietText).toOption.map
        (fun history => history.get "last_sha256") = some (.str (digestOf fourthRow))) ∧
    ∀ history, loadExisting quietDecode (recoveryClient quietId (by decide) quietCore) quietText =
      .ok history →
      ((∃ context, completionContext history "101" quietId = .ok context) ↔
        (items (history.get "records")).length < 32) ∧
      ∃ repeats, ((items (quietJournal.get "records")).map fun row => (row.get "stage").text) =
        ["PREPARED", "DISPATCHED", "STORAGE_ABSENT"] ++
          List.replicate (repeats + 1) "FINALIZING" := by
  obtain ⟨hsame, hcompletion⟩ :=
    readers_agree quietDecode quietText quietJournal quietJournal_printed quietId
    "101" (by decide) quietCore quietCore_identifies fun row hrow => (quietRows row hrow).2
  rw [quietJournal_head] at hsame
  exact ⟨⟨quietJournal_head, hsame⟩, hcompletion⟩

end SharedLvmThin.FinalizingReaders
