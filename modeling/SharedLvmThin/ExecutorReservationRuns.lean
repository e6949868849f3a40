import SharedLvmThin.ExecutorReservation

/-! Every run of the reservation protocol. An allowed call either fills the empty slot, moves the
stored record forward without touching its identity, or empties the slot with the exact terminal
record; an unknown outcome is final. -/

namespace SharedLvmThin.ExecutorReservation
open Perl

/-! ## Fields of a changed record -/

section
variable (r v : Value) (name : String)

theorem fields_set : (r.set name v).fields =
    r.fields.filter (fun field => field.1 ≠ name) ++ [(name, v)] := rfl

theorem lookup_filter_ne {fields : List (String × Value)} {name other : String} (h : other ≠ name) :
    (fields.filter fun field => field.1 ≠ name).lookup other = fields.lookup other := by
  induction fields with
  | nil => rfl
  | cons field rest ih =>
    obtain ⟨key, value⟩ := field
    by_cases hkey : key = name
    · have hne : (other == key) = false := beq_false_of_ne (by rwa [hkey])
      rw [List.filter_cons_of_neg (by simp [hkey]), ih, List.lookup_cons, hne]
    · rw [List.filter_cons_of_pos (by simp [hkey]), List.lookup_cons, List.lookup_cons, ih]

theorem lookup_set (other : String) : (r.set name v).fields.lookup other =
    if other = name then some v else r.fields.lookup other := by
  rw [fields_set, List.lookup_append]
  by_cases h : other = name
  · subst h
    have hnone : (r.fields.filter fun field => field.1 ≠ other).lookup other = none := by
      rw [List.lookup_eq_none_iff]
      intro field hfield
      have hne := of_decide_eq_true (List.mem_filter.mp hfield).2
      simpa using Ne.symm hne
    rw [hnone, if_pos rfl, List.lookup_cons_self, Option.none_or]
  · have hone : List.lookup other [(name, v)] = none := by
      rw [List.lookup_cons, beq_false_of_ne h, List.lookup_nil]
    rw [lookup_filter_ne h, hone, if_neg h, Option.or_none]

@[simp] theorem get_set_self : (r.set name v).get name = v := by
  simp [Value.get, lookup_set]

theorem get_set_of_ne {other : String} (h : other ≠ name) :
    (r.set name v).get other = r.get other := by
  simp [Value.get, lookup_set, h]

theorem has_set_of_ne {other : String} (h : other ≠ name) :
    (r.set name v).has other = r.has other := by
  simp [Value.has, lookup_set, h]

end

/-! ## Valid records -/

def Valid (r : Value) : Prop := validateExecutorRecord r = .ok ()

def state (r : Value) : String := (r.get "state").text

/-- The same identity fields, as data. -/
def SameIdentity (r r' : Value) : Prop := ∀ field ∈ identityFields, r'.get field = r.get field

theorem valid_iff {r : Value} : Valid r ↔ r.isHash = true ∧
    (∀ field ∈ r.fields, field.1 ∈ allowedFields) ∧ checkIdentity r = .ok () ∧
    state r ∈ ["RESERVED", "BOUND", "TERMINAL", "UNKNOWN"] ∧ checkInvocation r = .ok () ∧
    checkResult r = .ok () := by
  simp only [Valid, validateExecutorRecord, bind_unit_eq_ok, dieIf_eq_ok, forEach_eq_ok, state,
    Bool.not_eq_false', decide_eq_false_iff_not, not_not]

theorem isValid_iff {r : Value} : isValid r = true ↔ Valid r := by
  unfold isValid Valid
  cases validateExecutorRecord r <;> simp [Except.toBool]

theorem checkIdentity_congr {r r' : Value} (h : SameIdentity r r') :
    checkIdentity r' = checkIdentity r := by
  have hfield : ∀ field, field ∈ identityFields → r'.get field = r.get field := h
  simp only [checkIdentity, checkHex, unitPrefix, forEach, hfield "schema" (by decide),
    hfield "kind" (by decide), hfield "enrollment_epoch" (by decide),
    hfield "code_digest" (by decide), hfield "policy_digest" (by decide),
    hfield "vg_uuid" (by decide), hfield "volume" (by decide), hfield "object_key" (by decide),
    hfield "transaction" (by decide), hfield "attempt" (by decide), hfield "node" (by decide),
    hfield "boot_id" (by decide), hfield "unit" (by decide)]
  rfl

theorem sameIdentity_set {r v : Value} {name : String} (h : name ∉ identityFields) :
    SameIdentity r (r.set name v) := by
  intro field hfield
  apply get_set_of_ne
  rintro rfl
  exact h hfield

theorem SameIdentity.trans {r s t : Value} (h : SameIdentity r s) (h' : SameIdentity s t) :
    SameIdentity r t := by
  intro field hfield
  rw [h' field hfield, h field hfield]

theorem fields_set_allowed {r v : Value} {name : String}
    (h : ∀ field ∈ r.fields, field.1 ∈ allowedFields) (hname : name ∈ allowedFields) :
    ∀ field ∈ (r.set name v).fields, field.1 ∈ allowedFields := by
  intro field hfield
  rw [fields_set, List.mem_append, List.mem_singleton] at hfield
  rcases hfield with hfield | rfl
  · exact h field (List.mem_of_mem_filter hfield)
  · exact hname

/-! ## What an allowed call means -/

/-- A claim describes a record of the given state and invocation. -/
structure Describes (r identity : Value) (stateName : String) : Prop where
  valid : Valid identity
  same : identityEqual r identity = true
  state_eq : state identity = stateName
  invocation : (identity.get "invocation_id").text = (r.get "invocation_id").text

theorem validated_allowed {r : Value} {label : String} {next : Result}
    (h : (validated r label next).allowed = true) : Valid r ∧ next.allowed = true := by
  unfold validated at h
  split at h
  · exact absurd h (by simp [blocked])
  · rename_i hvalid
    exact ⟨hvalid, h⟩

theorem validated_of_valid {r : Value} {label : String} {next : Result} (h : Valid r) :
    validated r label next = next := by
  rw [Valid] at h
  simp [validated, h]

theorem ite_blocked_allowed {c : Prop} [Decidable c] {reason : String} {next : Result} :
    (if c then blocked reason else next).allowed = true ↔ ¬ c ∧ next.allowed = true := by
  by_cases h : c <;> simp [h, blocked]

theorem describesBound_iff {r identity : Value} :
    describesBound r identity = true ↔ Describes r identity "BOUND" := by
  simp only [describesBound, Bool.and_eq_true, isValid_iff, decide_eq_true_eq]
  constructor
  · intro h
    obtain ⟨⟨⟨⟨-, hvalid⟩, hidentity⟩, hstate⟩, hinvocation⟩ := h
    exact ⟨hvalid, hidentity, hstate, hinvocation⟩
  · intro h
    exact ⟨⟨⟨⟨(valid_iff.mp h.valid).1, h.valid⟩, h.same⟩, h.state_eq⟩, h.invocation⟩

theorem reserve_allowed {requested existing continuity fresh : Value}
    (h : (evaluateExecutorReserve requested existing continuity fresh).allowed = true) :
    Valid requested ∧ state requested = "RESERVED" ∧ existing.isDefined = false := by
  obtain ⟨hvalid, h⟩ := validated_allowed h
  simp only [ite_blocked_allowed, not_not, Bool.not_eq_true] at h
  obtain ⟨hstate, -, -, hexisting, -⟩ := h
  exact ⟨hvalid, hstate, hexisting⟩

theorem bind_allowed {r claim : Value} (h : (evaluateExecutorBind r claim).allowed = true) :
    Valid r ∧ state r = "RESERVED" ∧ exactly 32 isLowerHex (claim.get "invocation_id").text = true ∧
      (evaluateExecutorBind r claim).record = some ((r.set "state" (.str "BOUND")).set
        "invocation_id" (claim.get "invocation_id")) := by
  obtain ⟨hvalid, h⟩ := validated_allowed h
  simp only [ite_blocked_allowed, not_not, Bool.not_eq_true, Bool.not_eq_false'] at h
  obtain ⟨hstate, hclaim, hidentity, hreserved, hinvocation, hproven, -⟩ := h
  refine ⟨hvalid, hstate, hinvocation, ?_⟩
  simp [evaluateExecutorBind, validated_of_valid hvalid, hstate, hclaim, hidentity, hreserved,
    hinvocation, hproven, admitted]

theorem dispatch_allowed {r claim bindingPersisted : Value}
    (h : (evaluateExecutorDispatch r claim bindingPersisted).allowed = true) :
    Valid r ∧ state r = "BOUND" ∧ Describes r (claim.get "identity") "BOUND" := by
  obtain ⟨hvalid, h⟩ := validated_allowed h
  simp only [ite_blocked_allowed, not_not, Bool.not_eq_true, Bool.not_eq_false'] at h
  obtain ⟨hstate, -, hidentity, -⟩ := h
  exact ⟨hvalid, hstate, describesBound_iff.mp hidentity⟩

theorem finish_allowed {r evidence : Value} (h : (evaluateExecutorFinish r evidence).allowed = true) :
    Valid r ∧ state r = "BOUND" ∧ Describes r (evidence.get "identity") "BOUND" ∧
      ((evaluateExecutorFinish r evidence).record = some (r.set "state" (.str "UNKNOWN")) ∨
        (evidence.get "executor_result").text ∈ ["SUCCESS", "FAILED"] ∧
          (evaluateExecutorFinish r evidence).record = some ((r.set "state" (.str "TERMINAL")).set
            "executor_result" (evidence.get "executor_result"))) := by
  obtain ⟨hvalid, h⟩ := validated_allowed h
  simp only [ite_blocked_allowed, not_not, Bool.not_eq_true, Bool.not_eq_false'] at h
  obtain ⟨hstate, hevidence, hidentity, h⟩ := h
  refine ⟨hvalid, hstate, describesBound_iff.mp hidentity, ?_⟩
  cases hfind : evidenceFields.find? fun field => !exactBool (evidence.get field) with
  | some field => simp [hfind, blocked] at h
  | none =>
    have hstate' : (r.get "state").text = "BOUND" := hstate
    simp only [evaluateExecutorFinish, validated_of_valid hvalid, hstate', hevidence, hidentity,
      hfind, ne_eq, not_true_eq_false, if_false, Bool.not_true, Bool.false_eq_true]
    split_ifs with hcomplete
    · exact .inl rfl
    · simp only [Bool.or_eq_true, decide_eq_true_eq, not_or, not_not] at hcomplete
      exact .inr ⟨hcomplete.2, rfl⟩

theorem close_allowed {r expected : Value} (h : (evaluateExecutorClose r expected).allowed = true) :
    state r = "TERMINAL" ∧ Describes r expected "TERMINAL" ∧
      (r.get "executor_result").text = (expected.get "executor_result").text := by
  obtain ⟨-, h⟩ := validated_allowed h
  obtain ⟨hexpected, h⟩ := validated_allowed h
  simp only [ite_blocked_allowed, Bool.or_eq_true, decide_eq_true_eq, not_or, not_not,
    Bool.not_eq_true, Bool.not_eq_false'] at h
  obtain ⟨⟨hidentity, hinvocation⟩, ⟨⟨hstate, hterminal⟩, hresult⟩, -⟩ := h
  exact ⟨hstate, ⟨hexpected, hidentity, hterminal, hinvocation.symm⟩, hresult⟩

/-! ## Steps -/

/-- How the record of an attempt may change. -/
structure Advances (r r' : Value) : Prop where
  identity : SameIdentity r r'
  invocation : r.has "invocation_id" = true →
    r'.has "invocation_id" = true ∧ r'.get "invocation_id" = r.get "invocation_id"

theorem Advances.refl (r : Value) : Advances r r :=
  ⟨fun _ _ => rfl, fun h => ⟨h, rfl⟩⟩

theorem Advances.trans {r s t : Value} (h : Advances r s) (h' : Advances s t) : Advances r t := by
  refine ⟨h.identity.trans h'.identity, ?_⟩
  intro hr
  obtain ⟨hs, heq⟩ := h.invocation hr
  obtain ⟨ht, heq'⟩ := h'.invocation hs
  exact ⟨ht, heq'.trans heq⟩

theorem reserved_no_invocation {r : Value} (h : Valid r) (hstate : state r = "RESERVED") :
    r.has "invocation_id" = false ∧ r.has "executor_result" = false := by
  obtain ⟨-, -, -, -, hinvocation, -⟩ := valid_iff.mp h
  have hreserved : (r.get "state").text = "RESERVED" := hstate
  rw [checkInvocation, if_pos hreserved, dieIf_eq_ok, Bool.or_eq_false_iff] at hinvocation
  exact hinvocation

theorem bound_fields {r : Value} (h : Valid r) (hstate : state r = "BOUND") :
    exactly 32 isLowerHex (r.get "invocation_id").text = true ∧ r.has "executor_result" = false := by
  obtain ⟨-, -, -, -, hinvocation, hresult⟩ := valid_iff.mp h
  have hne : ∀ name, name ≠ "BOUND" → ¬ (r.get "state").text = name := by
    intro name hname heq
    exact hname (heq.symm.trans hstate)
  rw [checkInvocation, if_neg (hne _ (by decide)), dieIf_eq_ok, Bool.not_eq_false'] at hinvocation
  rw [checkResult, if_neg (hne _ (by decide)), dieIf_eq_ok] at hresult
  exact ⟨hinvocation, hresult⟩

/-- A record that moves on keeps its identity fields valid. -/
theorem valid_of_sameIdentity {r r' : Value} (h : Valid r) (hsame : SameIdentity r r')
    (hhash : r'.isHash = true) (hfields : ∀ field ∈ r'.fields, field.1 ∈ allowedFields)
    (hstate : state r' ∈ ["BOUND", "TERMINAL", "UNKNOWN"])
    (hinvocation : exactly 32 isLowerHex (r'.get "invocation_id").text = true)
    (hresult : checkResult r' = .ok ()) : Valid r' := by
  obtain ⟨-, -, hidentity, -⟩ := valid_iff.mp h
  refine valid_iff.mpr ⟨hhash, hfields, (checkIdentity_congr hsame).trans hidentity,
    List.mem_cons_of_mem _ hstate, ?_, hresult⟩
  have hne : ¬ (r'.get "state").text = "RESERVED" := by
    intro heq
    rw [state, heq] at hstate
    exact absurd hstate (by decide)
  rw [checkInvocation, if_neg hne, dieIf_eq_ok, hinvocation, Bool.not_true]

theorem bind_step {r claim r' : Value} (h : (evaluateExecutorBind r claim).allowed = true)
    (hr' : (evaluateExecutorBind r claim).record = some r') : Valid r' ∧ Advances r r' := by
  obtain ⟨hvalid, hstate, hinvocation, hrecord⟩ := bind_allowed h
  obtain rfl : _ = r' := Option.some.inj (hrecord.symm.trans hr')
  have hsame : SameIdentity r ((r.set "state" (.str "BOUND")).set "invocation_id"
      (claim.get "invocation_id")) :=
    (sameIdentity_set (by decide)).trans (sameIdentity_set (by decide))
  obtain ⟨hnone, hresult⟩ := reserved_no_invocation hvalid hstate
  obtain ⟨-, hfields, -⟩ := valid_iff.mp hvalid
  refine ⟨valid_of_sameIdentity hvalid hsame rfl
    (fields_set_allowed (fields_set_allowed hfields (by decide)) (by decide)) ?_ (by simpa) ?_,
    hsame, ?_⟩
  · simp [state, get_set_of_ne, Value.text]
  · simp [checkResult, get_set_of_ne, has_set_of_ne, Value.text, hresult]
  · intro hhas
    rw [hnone] at hhas
    cases hhas

theorem finish_step {r evidence r' : Value} (h : (evaluateExecutorFinish r evidence).allowed = true)
    (hr' : (evaluateExecutorFinish r evidence).record = some r') : Valid r' ∧ Advances r r' := by
  obtain ⟨hvalid, hstate, -, hrecord⟩ := finish_allowed h
  obtain ⟨hinvocation, hresult⟩ := bound_fields hvalid hstate
  obtain ⟨-, hfields, -⟩ := valid_iff.mp hvalid
  rw [hr', Option.some.injEq, Option.some.injEq] at hrecord
  rcases hrecord with rfl | ⟨hvalue, rfl⟩
  · have hsame : SameIdentity r (r.set "state" (.str "UNKNOWN")) := sameIdentity_set (by decide)
    refine ⟨valid_of_sameIdentity hvalid hsame rfl (fields_set_allowed hfields (by decide)) ?_ ?_ ?_,
      hsame, ?_⟩
    · simp [state, Value.text]
    · rwa [get_set_of_ne _ _ _ (by decide)]
    · simp [checkResult, has_set_of_ne, Value.text, hresult]
    · intro hhas
      exact ⟨by rwa [has_set_of_ne _ _ _ (by decide)], get_set_of_ne _ _ _ (by decide)⟩
  · have hsame : SameIdentity r ((r.set "state" (.str "TERMINAL")).set "executor_result"
        (evidence.get "executor_result")) :=
      (sameIdentity_set (by decide)).trans (sameIdentity_set (by decide))
    refine ⟨valid_of_sameIdentity hvalid hsame rfl
      (fields_set_allowed (fields_set_allowed hfields (by decide)) (by decide)) ?_ ?_ ?_, hsame, ?_⟩
    · simp [state, get_set_of_ne, Value.text]
    · rwa [get_set_of_ne _ _ _ (by decide), get_set_of_ne _ _ _ (by decide)]
    · have hterminal : (Value.str "TERMINAL").text = "TERMINAL" := rfl
      rw [checkResult, get_set_of_ne _ _ _ (by decide), get_set_self, get_set_self, hterminal,
        if_pos rfl, dieIf_eq_ok, decide_eq_false_iff_not, not_not]
      exact hvalue
    · intro hhas
      exact ⟨by rwa [has_set_of_ne _ _ _ (by decide), has_set_of_ne _ _ _ (by decide)],
        by rw [get_set_of_ne _ _ _ (by decide), get_set_of_ne _ _ _ (by decide)]⟩

/-- An allowed call on a stored record is a call on a slot that holds one. -/
theorem exists_of_valid_getD {slot : Slot} (h : Valid (slot.getD .undef)) : ∃ r, slot = some r := by
  cases slot with
  | none => exact absurd (valid_iff.mp h).1 (by simp [Value.isHash])
  | some r => exact ⟨r, rfl⟩

theorem isDefined_of_valid {r : Value} (h : Valid r) : r.isDefined = true := by
  have hhash := (valid_iff.mp h).1
  cases r with
  | hash fields => rfl
  | _ => simp [Value.isHash] at hhash

def Holds (slot : Slot) : Prop := ∀ r, slot = some r → Valid r

/-- What a call can do to a slot. -/
inductive Outcome (slot : Slot) (call : Call) : Slot → Prop
  | unchanged : Outcome slot call slot
  | reserved (requested : Value) (hempty : slot = none) (hvalid : Valid requested) :
    Outcome slot call (some requested)
  | advanced (r r' : Value) (hslot : slot = some r) (hvalid : Valid r') (h : Advances r r') :
    Outcome slot call (some r')
  | closed (r expected : Value) (hslot : slot = some r) (hcall : call = .close expected)
    (hstate : state r = "TERMINAL") (hexpected : Describes r expected "TERMINAL")
    (hresult : (r.get "executor_result").text = (expected.get "executor_result").text) :
    Outcome slot call none

theorem update_outcome {slot : Slot} (hslot : Holds slot) (call : Call) :
    Outcome slot call (update slot call) := by
  by_cases hallowed : (evaluate slot call).allowed = true
  case neg =>
    have heq : update slot call = slot := if_neg hallowed
    rw [heq]
    exact .unchanged
  case pos =>
    cases call with
    | reserve requested continuity fresh =>
      have heq : update slot (.reserve requested continuity fresh) = some requested := if_pos hallowed
      rw [heq]
      obtain ⟨hvalid, -, hexisting⟩ := reserve_allowed hallowed
      cases slot with
      | none => exact .reserved requested rfl hvalid
      | some r =>
        rw [Option.getD_some, isDefined_of_valid (hslot r rfl)] at hexisting
        cases hexisting
    | bind claim =>
      have heq : update slot (.bind claim) = (evaluateExecutorBind (slot.getD .undef) claim).record :=
        if_pos hallowed
      obtain ⟨hvalid, -, -, hrecord⟩ := bind_allowed hallowed
      obtain ⟨r, rfl⟩ := exists_of_valid_getD hvalid
      obtain ⟨hvalid', hadvances⟩ := bind_step hallowed hrecord
      rw [heq, hrecord]
      exact .advanced r _ rfl hvalid' hadvances
    | dispatch claim bindingPersisted =>
      have heq : update slot (.dispatch claim bindingPersisted) = slot := if_pos hallowed
      rw [heq]
      exact .unchanged
    | finish evidence =>
      have heq : update slot (.finish evidence) =
          (evaluateExecutorFinish (slot.getD .undef) evidence).record := if_pos hallowed
      obtain ⟨hvalid, -, -, hrecord⟩ := finish_allowed hallowed
      obtain ⟨r, rfl⟩ := exists_of_valid_getD hvalid
      obtain ⟨r', hr'⟩ : ∃ r', (evaluateExecutorFinish r evidence).record = some r' := by
        rcases hrecord with hrecord | ⟨-, hrecord⟩
        · exact ⟨_, hrecord⟩
        · exact ⟨_, hrecord⟩
      obtain ⟨hvalid', hadvances⟩ := finish_step hallowed hr'
      rw [heq, Option.getD_some, hr']
      exact .advanced r r' rfl hvalid' hadvances
    | close expected =>
      have heq : update slot (.close expected) = none := if_pos hallowed
      rw [heq]
      obtain ⟨hvalid, -⟩ := validated_allowed hallowed
      obtain ⟨r, rfl⟩ := exists_of_valid_getD hvalid
      obtain ⟨hstate, hexpected, hresult⟩ := close_allowed hallowed
      exact .closed r expected rfl rfl hstate hexpected hresult

/-! ## Runs -/

theorem holds_update {slot : Slot} (h : Holds slot) (call : Call) : Holds (update slot call) := by
  intro r hr
  have houtcome := update_outcome h call
  rw [hr] at houtcome
  cases houtcome with
  | unchanged => exact h r rfl
  | reserved _ _ hvalid => exact hvalid
  | advanced _ _ _ hvalid _ => exact hvalid

theorem holds_run {slot : Slot} (h : Holds slot) (calls : List Call) : Holds (run slot calls) := by
  induction calls generalizing slot with
  | nil => exact h
  | cons call rest ih => exact ih (holds_update h call)

/-- The slot is never empty along the calls: no reservation is closed. -/
def Occupied (slot : Slot) (calls : List Call) : Prop :=
  ∀ earlier, earlier <+: calls → run slot earlier ≠ none

theorem advances_run {calls : List Call} : ∀ {r r' : Value}, Valid r →
    Occupied (some r) calls → run (some r) calls = some r' → Advances r r' := by
  induction calls with
  | nil =>
    intro r r' _ _ hrun
    obtain rfl : r = r' := Option.some.inj hrun
    exact .refl r
  | cons call rest ih =>
    intro r r' hvalid hoccupied hrun
    have hholds : Holds (some r) := fun r₀ hr₀ => Option.some.inj hr₀ ▸ hvalid
    have hnext := update_outcome hholds call
    have hne : update (some r) call ≠ none :=
      hoccupied [call] (List.prefix_append [call] rest)
    obtain ⟨s, hs⟩ := Option.ne_none_iff_exists'.mp hne
    have hadvances : Advances r s := by
      rw [hs] at hnext
      cases hnext with
      | unchanged => exact .refl r
      | reserved _ hempty => cases hempty
      | advanced r₀ _ hslot _ hadvances => exact Option.some.inj hslot ▸ hadvances
    have hlater : Occupied (some s) rest := by
      intro earlier hearlier
      have hrest := hoccupied (call :: earlier) ((List.cons_prefix_cons).mpr ⟨rfl, hearlier⟩)
      rwa [run, List.foldl_cons, hs] at hrest
    have htail : run (some s) rest = some r' := by
      rwa [run, List.foldl_cons, hs] at hrun
    exact hadvances.trans (ih (holds_update hholds call s hs) hlater htail)

/-- What the protocol promises about a slot: its record is valid, dispatch is for its bound
invocation only, an unknown record is final, only an exact close empties it, and until then the
identity and the invocation stay. -/
structure Safe (slot : Slot) : Prop where
  valid : ∀ r, slot = some r → validateExecutorRecord r = .ok ()
  dispatch : ∀ claim bindingPersisted,
    (evaluate slot (.dispatch claim bindingPersisted)).allowed = true →
      ∃ r, slot = some r ∧ state r = "BOUND" ∧ Describes r (claim.get "identity") "BOUND"
  unknown : ∀ r, slot = some r → state r = "UNKNOWN" →
    ∀ call, (evaluate slot call).allowed = false ∧ update slot call = slot
  emptied : ∀ r call, slot = some r → update slot call = none → ∃ expected,
    call = .close expected ∧ state r = "TERMINAL" ∧ Describes r expected "TERMINAL" ∧
      (r.get "executor_result").text = (expected.get "executor_result").text
  constant : ∀ r calls r', slot = some r → Occupied slot calls → run slot calls = some r' →
    (∀ field ∈ identityFields, r'.get field = r.get field) ∧
      (r.has "invocation_id" = true → r'.get "invocation_id" = r.get "invocation_id")

theorem unknown_blocked {r : Value} (hvalid : Valid r) (hstate : state r = "UNKNOWN") (call : Call) :
    (evaluate (some r) call).allowed = false := by
  have hne : ∀ name, state r = name → name ≠ "UNKNOWN" → False := by
    intro name hname hunknown
    exact hunknown (hname.symm.trans hstate)
  rw [← Bool.not_eq_true]
  intro hallowed
  cases call with
  | reserve requested continuity fresh =>
    obtain ⟨-, -, hexisting⟩ := reserve_allowed hallowed
    rw [Option.getD_some, isDefined_of_valid hvalid] at hexisting
    cases hexisting
  | bind claim => exact hne _ (bind_allowed hallowed).2.1 (by decide)
  | dispatch claim bindingPersisted => exact hne _ (dispatch_allowed hallowed).2.1 (by decide)
  | finish evidence => exact hne _ (finish_allowed hallowed).2.1 (by decide)
  | close expected => exact hne _ (close_allowed hallowed).1 (by decide)

theorem safe_of_holds {slot : Slot} (h : Holds slot) : Safe slot where
  valid := h
  dispatch claim bindingPersisted hallowed := by
    obtain ⟨hvalid, hstate, hdescribes⟩ := dispatch_allowed hallowed
    obtain ⟨r, rfl⟩ := exists_of_valid_getD hvalid
    exact ⟨r, rfl, hstate, hdescribes⟩
  unknown r hslot hstate call := by
    subst hslot
    have hblocked := unknown_blocked (h r rfl) hstate call
    exact ⟨hblocked, if_neg (by simp [hblocked])⟩
  emptied r call hslot hnone := by
    have houtcome := update_outcome h call
    rw [hnone] at houtcome
    cases houtcome with
    | unchanged => cases hslot
    | closed r₀ expected hr₀ hcall hstate hexpected hresult =>
      obtain rfl : r₀ = r := Option.some.inj (hr₀.symm.trans hslot)
      exact ⟨expected, hcall, hstate, hexpected, hresult⟩
  constant r calls r' hslot hoccupied hrun := by
    subst hslot
    have hadvances := advances_run (h r rfl) hoccupied hrun
    exact ⟨hadvances.identity, fun hhas => (hadvances.invocation hhas).2⟩

/-- From the empty slot every sequence of calls keeps the protocol's promises. -/
theorem reservation_protocol (calls : List Call) : Safe (run none calls) :=
  safe_of_holds (holds_run (by simp [Holds]) calls)

def hexText (length : Nat) : Value := .str (String.ofList (List.replicate length 'a'))

def reservedRecord : Value :=
  .hash [("schema", .num "1"), ("kind", .str "THICK_EXECUTOR"), ("enrollment_epoch", hexText 64),
    ("vg_uuid", .str "aaaaaa-aaaa-aaaa-aaaa-aaaa-aaaa-aaaaaa"), ("volume", .str "vm-1-disk-0"),
    ("object_key", hexText 24), ("transaction", hexText 32), ("attempt", hexText 32),
    ("node", .str "n"), ("boot_id", .str "aaaaaaaa-aaaa-aaaa-aaaa-aaaaaaaaaaaa"),
    ("unit", .str ("slt-thick-exec-" ++ (hexText 32).text ++ ".service")),
    ("code_digest", hexText 64), ("policy_digest", hexText 64), ("state", .str "RESERVED")]

end SharedLvmThin.ExecutorReservation
