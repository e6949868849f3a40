import SharedLvmThin.FinalizingReaders

/-! The readers of a FINALIZING journal agree. What they ask of a row apart from its stage is the
same, and their tables of stages admit the same journals up to a terminal record, which none of them
lets stand at the end. -/

namespace SharedLvmThin.FinalizingReaders
open Perl KeyedLists
open DestroyJournal hiding advance nextStage

/-! ## Comparing data by its JSON -/

theorem need_eq_ok {good : Bool} {message : String} {u : Unit} : need good message = .ok u ↔ good =
    true := by
  rw [need, dieIf_eq_ok, Bool.not_eq_false']

theorem runtimeNeed_eq_ok {good : Bool} {message : String} {u : Unit} :
    runtimeNeed good message = .ok u ↔ good = true := by
  rw [runtimeNeed, dieIf_eq_ok, Bool.not_eq_false']

theorem plain_get {v : Value} (h : v.Plain) (name : String) : (v.get name).Plain := by
  cases h with
  | hash hsorted hfields =>
    rename_i fields
    rw [Value.get]
    change ((fields.lookup name).getD .undef).Plain
    cases hlookup : fields.lookup name with
    | none => exact .undef
    | some w =>
      obtain ⟨l, r, rfl, -⟩ := List.lookup_eq_some_iff.mp hlookup
      exact hfields (name, w) (by simp)
  | _ => exact .undef

theorem plain_items {v : Value} (h : v.Plain) : ∀ w ∈ items v, w.Plain := by
  cases h with
  | array hitems => exact hitems
  | _ => exact List.forall_mem_nil _

theorem plain_optionalText (s : Option String) : (optionalText s).Plain := by
  cases s with
  | none => exact .undef
  | some s => exact .str s

theorem plain_nat (n : Nat) : (Value.num (toString n)).Plain := by
  refine .num (plus_iff.mpr ⟨?_, fun c hc => ?_⟩)
  · exact List.ne_nil_of_length_pos (String.length_toList ▸ Nat.length_repr_pos)
  · simp [Value.isNumeral, repr_all_isDigit n c hc]

theorem perlJson_plain {v : Value} (h : v.Plain) : ∃ text, perlJson v = .ok text := by
  obtain ⟨text, htext⟩ := h.canonical_ok
  exact ⟨_, perlJson_isOk htext⟩

theorem perlDigest_plain {v : Value} (h : v.Plain) : ∃ hash, perlDigest v = .ok hash ∧
    hash.toList.length = 64 ∧ ∀ c ∈ hash.toList, isLowerHex c = true := by
  obtain ⟨text, htext⟩ := h.canonical_ok
  exact perlDigest_isOk htext

theorem perlJson_nat (n : Nat) : perlJson (.num (toString n)) = .ok (toString n) := by
  have hcanonical : (Value.num (toString n)).canonical = .ok (toString n) := by rw [Value.canonical]
  rw [perlJson_isOk hcanonical, mapText, @flatMap_ascii (toString n).toList (repr_ascii n)]
  exact congrArg _ String.ofList_toList

/-- Two JSON texts agree exactly when the data does. -/
theorem sameJson_iff {v w : Value} (hv : v.Plain) (hw : w.Plain) :
    (∃ a, perlJson v = .ok a ∧ ∃ b, perlJson w = .ok b ∧ a = b) ↔ v = w := by
  constructor
  · rintro ⟨a, ha, b, hb, rfl⟩
    exact perlJson_inj hv hw (ha.trans hb.symm)
  · rintro rfl
    obtain ⟨text, htext⟩ := perlJson_plain hv
    exact ⟨text, htext, text, htext, rfl⟩

theorem perlJson_eq_nat {v : Value} (hv : v.Plain) {n : Nat} :
    perlJson v = .ok (toString n) ↔ v = .num (toString n) := by
  constructor
  · intro h
    exact perlJson_inj hv (plain_nat n) (h.trans (perlJson_nat n).symm)
  · rintro rfl
    exact perlJson_nat n

theorem canonical_eq_nat {v : Value} (hv : v.Plain) {n : Nat} :
    v.canonical = .ok (toString n) ↔ v = .num (toString n) := by
  have hcanonical : (Value.num (toString n)).canonical = .ok (toString n) := by rw [Value.canonical]
  constructor
  · intro h
    exact Value.canonical_inj hv (plain_nat n) (h.trans hcanonical.symm)
  · rintro rfl
    exact hcanonical

/-! ## One row -/

/-- What every reader asks of a row, whatever its stage. -/
structure Linked (requestId : String) (own : Value) (previous : Option String) (sequence : Nat)
    (row : Value) : Prop where
  fields : row.isHash = true ∧ fieldNames row = recordFields
  schema : (row.get "schema").text = journalSchema
  authority : (row.get "authority").text = "NONE"
  request : (row.get "request_id").text = requestId
  sequence : row.get "sequence" = .num (toString sequence)
  previous : row.get "previous_sha256" = optionalText previous
  context : row.get "context" = own
  digest : perlDigest own = .ok (row.get "context_sha256").text
  evidence : (row.get "evidence").isHash = true

/-- The evidence is an object under permitted names, and the row fits its file. -/
structure Permitted (row : Value) : Prop where
  names : ∀ field ∈ (row.get "evidence").fields, field.1 ∈ extra
  evidence : ((row.get "evidence").get "evidence").isHash = true
  size : ∃ text, perlJson row = .ok text ∧ text.length + 1 ≤ limit

/-- The executor core of one destroy. -/
structure Core where
  schema : Value
  txid : Value
  vmid : Value
  config : Value
  runtime : Value
  plan : Value

def Core.receipt (c : Core) : Value :=
  .hash [("config", c.config), ("plan", c.plan), ("runtime", c.runtime), ("schema", c.schema),
    ("txid", c.txid), ("vmid", c.vmid)]

/-- The immutable context of a request. -/
def Core.context (c : Core) : Value := .hash [("receipt", c.receipt), ("schema", .str coreSchema)]

/-- The core is JSON data of schema 1 about this request and this VM. -/
structure Core.Identifies (c : Core) (txid vmid : String) : Prop where
  plain : c.context.Plain
  schema : c.schema.text = "1"
  txid : c.txid.text = txid
  vmid : c.vmid.text = vmid

theorem fieldNames_context (c : Core) : fieldNames c.context = "receipt,schema" := by
  change ",".intercalate (sortBy id ["receipt", "schema"]) = _
  decide +kernel

theorem fieldNames_receipt (c : Core) :
    fieldNames c.receipt = ",".intercalate (sortBy id core) := by
  change ",".intercalate (sortBy id ["config", "plan", "runtime", "schema", "txid", "vmid"]) = _
  decide +kernel

theorem loadRecord_eq_ok {c : Core} {txid vmid : String} (hcore : c.Identifies txid vmid)
    {row : Value} (hrow : row.Plain) (hpermitted : Permitted row) {loaded loaded' : Loaded} :
    loadRecord txid c.context loaded row = .ok loaded' ↔
      Linked txid c.context loaded.previous (loaded.sequence + 1) row ∧
      advance loaded.stage (row.get "stage") = true ∧
      ∃ hash, perlDigest row = .ok hash ∧ loaded' =
        ⟨some hash, row.get "stage", loaded.sequence + 1, loaded.records ++ [handOn row]⟩ := by
  simp only [loadRecord, bind_eq_ok, exists_unit, need_eq_ok, Bool.and_eq_true, decide_eq_true_eq,
    pure_eq_ok, List.all_eq_true]
  constructor
  · rintro ⟨hfields, ⟨⟨hschema, hauthority⟩, hrequest⟩, sequence, hsequence, ⟨rfl, hstage⟩,
    previous,
      hprevious, link, hlink, rfl, context, hcontext, own, hown, digest, hdigest, ⟨rfl, hsha⟩,
        hshape,
      ⟨⟨hevidence, -⟩, -⟩, hash, hhash, rfl⟩
    refine ⟨⟨hfields, hschema, hauthority, hrequest, ?_, ?_, ?_, ?_, hevidence⟩, hstage, hash,
      hhash, rfl⟩
    · exact (perlJson_eq_nat (plain_get hrow _)).mp hsequence
    · exact (sameJson_iff (plain_get hrow _) (plain_optionalText _)).mp ⟨_, hprevious, _, hlink,
      rfl⟩
    · exact (sameJson_iff (plain_get hrow _) hcore.plain).mp ⟨_, hcontext, _, hown, rfl⟩
    · rw [hsha]
      exact hdigest
  · rintro ⟨hlinked, hstage, hash, hhash, rfl⟩
    obtain ⟨link, hlink⟩ := perlJson_plain (plain_optionalText loaded.previous)
    obtain ⟨own, hown⟩ := perlJson_plain hcore.plain
    refine ⟨hlinked.fields, ⟨⟨hlinked.schema, hlinked.authority⟩, hlinked.request⟩, _, ?_,
      ⟨rfl, hstage⟩,
      link, ?_, link, hlink, rfl, own, ?_, own, hown, _, hlinked.digest, ⟨rfl, rfl⟩, ?_,
      ⟨⟨hlinked.evidence, hpermitted.evidence⟩, hpermitted.names⟩, hash, hhash, rfl⟩
    · rw [hlinked.sequence]
      exact perlJson_nat _
    · rw [hlinked.previous]
      exact hlink
    · rw [hlinked.context]
      exact hown
    · rw [hlinked.context]
      exact ⟨⟨⟨⟨fieldNames_context c, rfl⟩, rfl⟩, fieldNames_receipt c⟩, hcore.txid⟩

theorem headRecord_eq_ok {context : Value} (hcontext : context.Plain) {txid : String} {row : Value}
    (hrow : row.Plain) (hpermitted : Permitted row) {seen seen' : Observed} :
    headRecord txid context seen row = .ok seen' ↔
      Linked txid context seen.previous (seen.sequence + 1) row ∧
      expectedStage seen.stage = some (row.get "stage").text ∧
      ∃ hash, perlDigest row = .ok hash ∧
        seen' = ⟨some hash, row.get "stage", seen.sequence + 1⟩ := by
  simp only [headRecord, bind_eq_ok, exists_unit, runtimeNeed_eq_ok, Bool.and_eq_true,
    decide_eq_true_eq,
    pure_eq_ok]
  constructor
  · rintro ⟨hfields, sequence, hsequence, ⟨⟨⟨hschema, hauthority⟩, hrequest⟩, rfl⟩, hstage,
    previous,
      hprevious, link, hlink, rfl, rowContext, hrowContext, own, hown, digest, hdigest, ⟨rfl, hsha⟩,
        text,
      htext, ⟨hevidence, -⟩, hash, hhash, rfl⟩
    refine ⟨⟨hfields, hschema, hauthority, hrequest, ?_, ?_, ?_, ?_, hevidence⟩, hstage, hash,
      hhash, rfl⟩
    · exact (canonical_eq_nat (plain_get hrow _)).mp hsequence
    · exact (sameJson_iff (plain_get hrow _) (plain_optionalText _)).mp ⟨_, hprevious, _, hlink,
      rfl⟩
    · exact (sameJson_iff (plain_get hrow _) hcontext).mp ⟨_, hrowContext, _, hown, rfl⟩
    · rw [hsha]
      exact hdigest
  · rintro ⟨hlinked, hstage, hash, hhash, rfl⟩
    obtain ⟨link, hlink⟩ := perlJson_plain (plain_optionalText seen.previous)
    obtain ⟨own, hown⟩ := perlJson_plain hcontext
    obtain ⟨text, htext, hsize⟩ := hpermitted.size
    refine ⟨hlinked.fields, _, ?_, ⟨⟨⟨hlinked.schema, hlinked.authority⟩, hlinked.request⟩, rfl⟩,
      hstage,
      link, ?_, link, hlink, rfl, own, ?_, own, hown, _, hlinked.digest, ⟨rfl, rfl⟩, text, htext,
      ⟨hlinked.evidence, hsize⟩, hash, hhash, rfl⟩
    · exact (canonical_eq_nat (plain_get hrow _)).mpr hlinked.sequence
    · rw [hlinked.previous]
      exact hlink
    · rw [hlinked.context]
      exact hown

/-! ## The stages -/

theorem finalizingAfter_iff {u x : String} (h : x ≠ "COMPLETE") :
    finalizingAfter u = some x ↔ (u = "FINALIZING" ∧ x = "FINALIZING") ∨ stageAfter u = some x := by
  unfold finalizingAfter
  split
  · simp [stageAfter]
  · simp [stageAfter]
  · simp [stageAfter]
  · constructor
    · intro hx
      exact .inl ⟨rfl, (Option.some.inj hx).symm⟩
    · rintro (⟨-, rfl⟩ | hx)
      · rfl
      · exact absurd (Option.some.inj hx).symm h
  · rename_i hprepared hdispatched habsent hfinalizing
    unfold stageAfter
    split <;> simp_all

theorem finalizingAfter_terminal {u : String} (h : u = "COMPLETE" ∨ u = "PARTIAL_OR_UNKNOWN") :
    finalizingAfter u = none := by
  rcases h with rfl | rfl <;> rfl

theorem scalar_of_expected {s t : Value} (h : expectedStage s = some t.text) :
    t.isDefined = true ∧ t.isRef = false := by
  have hname : t.text ∈ ["PREPARED", "DISPATCHED", "STORAGE_ABSENT", "FINALIZING"] := by
    unfold expectedStage at h
    split at h
    · unfold finalizingAfter at h
      split at h <;> simp_all
    · simp_all
  cases t with
  | str _ => exact ⟨rfl, rfl⟩
  | num _ => exact ⟨rfl, rfl⟩
  | bool b => cases b <;> exact absurd hname (by decide)
  | _ => exact absurd hname (by simp [Value.text])

/-- Short of a terminal record the client and the observer ask for the same stage. -/
theorem advance_iff_expected {s t : Value} (hcomplete : t.text ≠ "COMPLETE")
    (hknown : t.text ≠ "PARTIAL_OR_UNKNOWN") :
    advance s t = true ↔ expectedStage s = some t.text := by
  have hcases : t.isDefined = true → t.isRef = false →
      (advance s t = true ↔ expectedStage s = some t.text) := by
    intro hdefined hscalar
    unfold advance expectedStage
    rw [hdefined, hscalar, if_neg (by decide)]
    by_cases hs : s.isDefined = true
    · rw [if_neg (by simp [hs]), if_pos hs]
      by_cases hterminal : s.text = "COMPLETE" ∨ s.text = "PARTIAL_OR_UNKNOWN"
      · rw [if_pos (by simpa using hterminal), finalizingAfter_terminal hterminal]
        simp
      · rw [if_neg (by simpa using hterminal), if_neg hknown, finalizingAfter_iff hcomplete]
        by_cases hagain : s.text = "FINALIZING" ∧ t.text = "FINALIZING"
        · simp [hagain]
        · rw [if_neg (by simpa using hagain)]
          simp [hagain]
    · rw [if_pos (by simp [hs]), if_neg hs]
      simp [eq_comm]
  constructor
  · intro h
    have hscalar : t.isDefined = true ∧ t.isRef = false := by
      unfold advance at h
      split at h
      · cases h
      · rename_i hbad
        simpa using hbad
    exact (hcases hscalar.1 hscalar.2).mp h
  · intro h
    obtain ⟨hdefined, hscalar⟩ := scalar_of_expected h
    exact (hcases hdefined hscalar).mpr h

theorem advance_terminal {s t : Value} (h : s.text = "COMPLETE" ∨ s.text = "PARTIAL_OR_UNKNOWN") :
    advance s t = false := by
  have hdefined : s.isDefined = true := by
    cases s with
    | undef => exact absurd h (by decide)
    | _ => rfl
  unfold advance
  split
  · rfl
  · rw [if_neg (by simp [hdefined]), if_pos (by simpa using h)]

/-! ## The run -/

/-- A run of the client that ends in FINALIZING has passed no terminal record. -/
theorem not_terminal_of_load {txid : String} {own : Value} {loaded loaded' : Loaded}
    {rows : List Value} (h : loadRecords txid own loaded rows =
        .ok loaded') (hend : loaded'.stage.text =
        "FINALIZING") :
    loaded.stage.text ≠ "COMPLETE" ∧ loaded.stage.text ≠ "PARTIAL_OR_UNKNOWN" := by
  cases rows with
  | nil =>
    cases h
    rw [hend]
    decide
  | cons row rest =>
    simp only [loadRecords, bind_eq_ok] at h
    obtain ⟨next, hnext, -⟩ := h
    simp only [loadRecord, bind_eq_ok, exists_unit, need_eq_ok, Bool.and_eq_true] at hnext
    obtain ⟨-, -, _, -, ⟨-, hadvance⟩, -⟩ := hnext
    by_contra hterminal
    rw [advance_terminal (by tauto)] at hadvance
    cases hadvance

/-- The client and the observer run through the rows alike as long as the run ends in FINALIZING. -/
theorem loadRecords_iff {c : Core} {txid vmid : String} (hcore : c.Identifies txid vmid)
    {rows : List Value} (hrows : ∀ row ∈ rows, row.Plain ∧ Permitted row) {loaded loaded' : Loaded}
        :
    loadRecords txid c.context loaded rows = .ok loaded' ∧ loaded'.stage.text = "FINALIZING" ↔
      headRecords txid c.context ⟨loaded.previous, loaded.stage, loaded.sequence⟩ rows =
        .ok ⟨loaded'.previous, loaded'.stage, loaded'.sequence⟩ ∧
      loaded'.stage.text = "FINALIZING" ∧ loaded'.records = loaded.records ++ rows.map handOn := by
  induction rows generalizing loaded with
  | nil =>
    simp only [loadRecords, headRecords, Except.ok.injEq, List.map_nil, List.append_nil]
    constructor
    · rintro ⟨rfl, hend⟩
      exact ⟨rfl, hend, rfl⟩
    · rintro ⟨hseen, hend, hrecords⟩
      cases loaded
      cases loaded'
      cases hseen
      cases hrecords
      exact ⟨rfl, hend⟩
  | cons row rest ih =>
    obtain ⟨⟨hrow, hpermitted⟩, hrest⟩ := List.forall_mem_cons.mp hrows
    simp only [loadRecords, headRecords, bind_eq_ok, loadRecord_eq_ok hcore hrow hpermitted,
      headRecord_eq_ok hcore.plain hrow hpermitted]
    constructor
    · rintro ⟨⟨next, ⟨hlinked, hadvance, hash, hhash, rfl⟩, hload⟩, hend⟩
      obtain ⟨hcomplete, hknown⟩ := not_terminal_of_load hload hend
      obtain ⟨hhead, -, hrecords⟩ := (ih hrest).mp ⟨hload, hend⟩
      refine ⟨⟨_, ⟨hlinked, (advance_iff_expected hcomplete hknown).mp hadvance, hash, hhash,
        rfl⟩,
        hhead⟩, hend, ?_⟩
      rw [hrecords, List.map_cons, List.append_assoc, List.singleton_append]
    · rintro ⟨⟨next, ⟨hlinked, hexpected, hash, hhash, rfl⟩, hhead⟩, hend, hrecords⟩
      have hload := (@ih hrest ⟨some hash, row.get "stage", loaded.sequence + 1,
        loaded.records ++ [handOn row]⟩).mpr ⟨hhead, hend, by
          rw [hrecords, List.map_cons, List.append_assoc, List.singleton_append]⟩
      obtain ⟨hcomplete, hknown⟩ := not_terminal_of_load hload.1 hend
      exact ⟨⟨_, ⟨hlinked, (advance_iff_expected hcomplete hknown).mpr hexpected, hash, hhash,
        rfl⟩,
        hload.1⟩, hend⟩

end SharedLvmThin.FinalizingReaders
