import Mathlib.Tactic

/-!
# Programs that may die, over a state

A program takes a state to a state and a result or a message. `Outcome` is the
postcondition form: one condition for a normal return and one for death. The rules below
push it through sequencing and `eval`; with them an operation is proved once and used by
name wherever a program calls it.
-/

namespace Effects

def Prog (S α : Type) : Type := S → S × Except String α

variable {S α β : Type}

instance : Monad (Prog S) where
  pure a := fun s => (s, .ok a)
  bind m f := fun s =>
    match m s with
    | (s', .ok a) => f a s'
    | (s', .error message) => (s', .error message)

def throwMessage (message : String) : Prog S α := fun s => (s, .error message)

/-- `eval { ... }`: death becomes a value, the state stays as it was left. -/
def attempt (m : Prog S α) : Prog S (Except String α) := fun s =>
  match m s with
  | (s', r) => (s', .ok r)

def read : Prog S S := fun s => (s, .ok s)

def update (f : S → S) : Prog S Unit := fun s => (f s, .ok ())

def lift (x : Except String α) : Prog S α := fun s => (s, x)

def refuse (bad : Bool) (message : String) : Prog S Unit :=
  lift (if bad then .error message else .ok ())

/-- `eval { ... }; die "..." . $@ if $@;` -/
def orDie (m : Prog S Unit) (lead : String) : Prog S Unit := do
  let result ← attempt m
  match result with
  | .ok () => pure ()
  | .error message => throwMessage (lead ++ message)

def whenever (condition : Bool) (m : Prog S Unit) : Prog S Unit := if condition then m else pure ()

/-- `for my $x (@list) { ... }` -/
def each (list : List β) (m : β → Prog S Unit) : Prog S Unit :=
  match list with
  | [] => pure ()
  | b :: rest => do
    m b
    each rest m

/-- From `s` the program returns into `Q` or dies into `E`. -/
def Outcome (m : Prog S α) (Q : α → S → Prop) (E : S → Prop) (s : S) : Prop :=
  match m s with
  | (s', .ok a) => Q a s'
  | (s', .error _) => E s'

variable {m : Prog S α} {f : α → Prog S β} {s : S} {E : S → Prop}

theorem outcome_bind {Q : β → S → Prop} (h : Outcome m (fun a => Outcome (f a) Q E) E s) :
    Outcome (m >>= f) Q E s := by
  unfold Outcome at h ⊢
  simp only [bind]
  split at h
  · exact h
  · exact h

theorem outcome_pure {Q : α → S → Prop} {a : α} (h : Q a s) :
    Outcome (pure a) Q E s := h

theorem outcome_throwMessage {Q : α → S → Prop} {message : String} (h : E s) :
    Outcome (throwMessage message) Q E s := h

theorem outcome_read {Q : S → S → Prop} (h : Q s s) : Outcome read Q E s := h

theorem outcome_update {Q : Unit → S → Prop} {g : S → S} (h : Q () (g s)) :
    Outcome (update g) Q E s := h

theorem outcome_attempt {Q : Except String α → S → Prop}
    (h : Outcome m (fun a => Q (.ok a)) (fun s' => ∀ message, Q (.error message) s') s) :
    Outcome (attempt m) Q E s := by
  unfold Outcome at h
  unfold Outcome attempt
  split at h
  · rename_i s' a hm
    rw [hm]
    exact h
  · rename_i s' message hm
    rw [hm]
    exact h message

theorem Outcome.weaken {Q Q' : α → S → Prop} {E' : S → Prop} (h : Outcome m Q E s)
    (hQ : ∀ a s', Q a s' → Q' a s') (hE : ∀ s', E s' → E' s') : Outcome m Q' E' s := by
  unfold Outcome at h ⊢
  split at h
  · exact hQ _ _ h
  · exact hE _ h

/-- Whatever both outcomes imply holds of the state the program ends in. -/
theorem Outcome.final {Q : α → S → Prop} {P : S → Prop} (h : Outcome m Q E s)
    (hQ : ∀ a s', Q a s' → P s') (hE : ∀ s', E s' → P s') : P (m s).1 := by
  unfold Outcome at h
  split at h
  · rename_i s' a hm
    rw [hm]
    exact hQ _ _ h
  · rename_i s' message hm
    rw [hm]
    exact hE _ h

/-- A program that cannot return and that changes nothing when it dies. -/
theorem Outcome.refused (h : Outcome m (fun _ _ => False) (fun t => t = s) s) :
    ∃ message, m s = (s, .error message) := by
  unfold Outcome at h
  split at h
  · exact h.elim
  · rename_i s' message hm
    rw [h] at hm
    exact ⟨message, hm⟩

/-! ## Reads and kept conditions -/

theorem prog_bind_eq_ok {m : Prog S α} {f : α → Prog S β} {s s' : S} {b : β} :
    (m >>= f) s = (s', .ok b) ↔ ∃ a t, m s = (t, .ok a) ∧ f a t = (s', .ok b) := by
  simp only [bind]
  constructor
  · intro h
    split at h
    · rename_i t a hm
      exact ⟨a, t, hm, h⟩
    · cases h
  · intro h
    obtain ⟨a, t, hm, hf⟩ := h
    rw [hm]
    exact hf

theorem prog_bind_of_ok {m : Prog S α} {f : α → Prog S β} {s t : S} {a : α}
    (h : m s = (t, .ok a)) : (m >>= f) s = f a t := by
  simp only [bind, h]

theorem prog_bind_of_error {m : Prog S α} {f : α → Prog S β} {s t : S} {message : String}
    (h : m s = (t, .error message)) : (m >>= f) s = (t, .error message) := by
  simp only [bind, h]

theorem read_bind {f : S → Prog S β} {s : S} : (read >>= f) s = f s s := rfl

theorem read_eq_ok {s s' a : S} : read s = (s', .ok a) ↔ s' = s ∧ a = s := by
  simp only [read, Prod.mk.injEq, Except.ok.injEq, eq_comm]

theorem prog_pure_eq_ok {a b : α} {s s' : S} :
    (pure a : Prog S α) s = (s', .ok b) ↔ s' = s ∧ a = b := by
  constructor
  · intro h
    obtain ⟨rfl, hab⟩ := Prod.mk.inj h
    exact ⟨rfl, Except.ok.inj hab⟩
  · intro h
    rw [h.1, h.2]
    rfl

theorem attempt_bind {f : Except String α → Prog S β} {s : S} :
    (attempt m >>= f) s = f (m s).2 (m s).1 := rfl

theorem lift_bind {x : Except String α} {f : α → Prog S β} {s : S} {a : α} (h : x = .ok a) :
    (lift x >>= f) s = f a s := by
  rw [h]
  rfl

theorem refuse_bind {bad : Bool} {message : String} {f : Unit → Prog S β} {s : S}
    (h : bad = false) : (refuse bad message >>= f) s = f () s := by
  rw [h]
  rfl

/-- A program that changes nothing, whether it returns or dies. -/
def Silent (m : Prog S α) : Prop := ∀ s, (m s).1 = s

theorem silent_pure (a : α) : Silent (pure a : Prog S α) := fun _ => rfl

theorem silent_throwMessage (message : String) : Silent (throwMessage message : Prog S α) :=
  fun _ => rfl

theorem Silent.bind (hm : Silent m) (hf : ∀ a, Silent (f a)) : Silent (m >>= f) := by
  intro s
  have hs := hm s
  simp only [Bind.bind]
  split
  · rename_i s' a h
    rw [h] at hs
    obtain rfl : s' = s := hs
    exact hf a s'
  · rename_i s' message h
    rw [h] at hs
    exact hs

theorem Silent.eq_of_ok (hm : Silent m) {s' : S} {a : α} (h : m s = (s', .ok a)) : s' = s := by
  have hs := hm s
  rw [h] at hs
  exact hs

theorem Silent.ok_or_error (hm : Silent m) (s : S) :
    (∃ a, m s = (s, .ok a)) ∨ ∃ message, m s = (s, .error message) := by
  have hs := hm s
  cases hr : (m s).2 with
  | ok a => exact Or.inl ⟨a, Prod.ext hs hr⟩
  | error message => exact Or.inr ⟨message, Prod.ext hs hr⟩

theorem silent_lift (x : Except String α) : Silent (lift x : Prog S α) := fun _ => rfl

theorem silent_refuse (bad : Bool) (message : String) :
    Silent (refuse bad message : Prog S Unit) := fun _ => rfl

theorem Silent.attempt (hm : Silent m) : Silent (attempt m) := hm

theorem Silent.orDie {m : Prog S Unit} (hm : Silent m) (lead : String) : Silent (orDie m lead) := by
  refine hm.attempt.bind fun result => ?_
  split
  · exact silent_pure _
  · exact silent_throwMessage _

theorem orDie_eq_ok {m : Prog S Unit} {lead : String} {s t : S} {u : Unit} :
    orDie m lead s = (t, .ok u) ↔ m s = (t, .ok u) := by
  simp only [Effects.orDie, prog_bind_eq_ok]
  constructor
  · intro h
    obtain ⟨result, s', hr, hk⟩ := h
    have hs : (m s).1 = s' := (Prod.mk.inj hr).1
    have hresult : (m s).2 = result := Except.ok.inj (Prod.mk.inj hr).2
    cases result with
    | ok a =>
      obtain ⟨rfl, -⟩ := Prod.mk.inj hk
      exact Prod.ext hs hresult
    | error message => cases hk
  · intro h
    exact ⟨.ok u, t, by rw [Effects.attempt, h], rfl⟩

theorem Silent.whenever {m : Prog S Unit} (h : Silent m) (condition : Bool) :
    Silent (whenever condition m) := by
  cases condition with
  | false => exact silent_pure ()
  | true => exact h

theorem Silent.each {m : β → Prog S Unit} (h : ∀ b, Silent (m b)) (list : List β) :
    Silent (each list m) := by
  induction list with
  | nil => exact silent_pure ()
  | cons b rest ih => exact (h b).bind fun _ => ih

theorem lift_eq_ok {x : Except String α} {s s' : S} {a : α} :
    lift x s = (s', .ok a) ↔ s' = s ∧ x = .ok a := by
  simp only [lift, Prod.mk.injEq]
  exact and_congr_left fun _ => eq_comm

theorem refuse_eq_ok {bad : Bool} {message : String} {s s' : S} {u : Unit} :
    refuse bad message s = (s', .ok u) ↔ s' = s ∧ bad = false := by
  rw [refuse, lift_eq_ok]
  cases bad <;> simp

/-- In the middle of a program a silent part only adds what its answer says. -/
theorem Silent.outcome (hm : Silent m) {Q : α → S → Prop} (hE : E s)
    (hQ : ∀ a, m s = (s, .ok a) → Q a s) : Outcome m Q E s := by
  have hs := hm s
  unfold Outcome
  split
  · rename_i s' a h
    rw [h] at hs
    obtain rfl : s' = s := hs
    exact hQ a h
  · rename_i s' message h
    rw [h] at hs
    obtain rfl : s' = s := hs
    exact hE

theorem outcome_lift {x : Except String α} {a : α} {Q : β → S → Prop} (hx : x = .ok a)
    (h : Outcome (f a) Q E s) : Outcome (lift x >>= f) Q E s := by
  rw [hx]
  exact h

theorem outcome_read_bind {f : S → Prog S β} {Q : β → S → Prop} (h : Outcome (f s) Q E s) :
    Outcome (read >>= f) Q E s := h

/-- A check: where it refuses the program dies, where it does not the program goes on. -/
theorem outcome_refuse {bad : Bool} {message : String} {f : Unit → Prog S β} {Q : β → S → Prop}
    (hE : bad = true → E s) (h : bad = false → Outcome (f ()) Q E s) :
    Outcome (refuse bad message >>= f) Q E s := by
  cases bad with
  | false => exact h rfl
  | true => exact hE rfl

theorem outcome_accept {bad : Bool} {message : String} {f : Unit → Prog S β} {Q : β → S → Prop}
    (hbad : bad = false) (h : Outcome (f ()) Q E s) : Outcome (refuse bad message >>= f) Q E s := by
  rw [hbad]
  exact h

/-- Every run from `P` returns into `Q` or dies into `E`. -/
def Triple (P : S → Prop) (m : Prog S α) (Q : α → S → Prop) (E : S → Prop) : Prop :=
  ∀ s, P s → Outcome m Q E s

variable {P I : S → Prop}

theorem Triple.bind {R : α → S → Prop} {Q : β → S → Prop} (hm : Triple P m R E)
    (hf : ∀ a, Triple (R a) (f a) Q E) : Triple P (m >>= f) Q E := by
  intro s hs
  apply outcome_bind
  exact (hm s hs).weaken (fun a s' h => hf a s' h) fun _ h => h

theorem Triple.weaken {P' : S → Prop} {Q Q' : α → S → Prop} {E' : S → Prop}
    (h : Triple P m Q E) (hP : ∀ s, P' s → P s) (hQ : ∀ a s, Q a s → Q' a s)
    (hE : ∀ s, E s → E' s) : Triple P' m Q' E' :=
  fun s hs => (h s (hP s hs)).weaken hQ hE

theorem Silent.triple (hm : Silent m) : Triple P m (fun a s => P s ∧ m s = (s, .ok a)) P :=
  fun _ hs => hm.outcome hs fun _ h => ⟨hs, h⟩

theorem Triple.silent {Q : β → S → Prop} (hm : Silent m) (hE : ∀ s, P s → E s)
    (hf : ∀ a, Triple (fun s => P s ∧ m s = (s, .ok a)) (f a) Q E) : Triple P (m >>= f) Q E :=
  Triple.bind (hm.triple.weaken (fun _ h => h) (fun _ _ h => h) hE) hf

theorem triple_pure {Q : α → S → Prop} {a : α} (h : ∀ s, P s → Q a s) :
    Triple P (Pure.pure a) Q E := fun s hs => outcome_pure (h s hs)

theorem triple_throwMessage {Q : α → S → Prop} {message : String} (h : ∀ s, P s → E s) :
    Triple P (throwMessage message) Q E := fun s hs => outcome_throwMessage (h s hs)

/-- A fact that does not mention the state is a hypothesis. -/
theorem Triple.assume {K : Prop} {Q : α → S → Prop} (h : K → Triple P m Q E) :
    Triple (fun s => P s ∧ K) m Q E := fun s hs => h hs.2 s hs.1

theorem Triple.strengthen {R : S → Prop} {Q : α → S → Prop} (h : Triple R m Q E)
    (hP : ∀ s, P s → R s) : Triple P m Q E := fun s hs => h s (hP s hs)

theorem Triple.attempt {Q : Except String α → S → Prop} {R : α → S → Prop}
    (h : Triple P m R E) (hQ : ∀ a s, R a s → Q (.ok a) s)
    (hE : ∀ message s, E s → Q (.error message) s) : Triple P (attempt m) Q E := by
  intro s hs
  apply outcome_attempt
  exact (h s hs).weaken hQ fun s h message => hE message s h

def Keeps (I : S → Prop) (m : Prog S α) : Prop := Triple I m (fun _ => I) I

theorem Keeps.bind (hm : Keeps I m) (hf : ∀ a, Keeps I (f a)) : Keeps I (m >>= f) :=
  Triple.bind hm hf

theorem Keeps.attempt (hm : Keeps I m) : Keeps I (attempt m) := by
  intro s hs
  apply outcome_attempt
  exact (hm s hs).weaken (fun _ _ h => h) fun _ h _ => h

theorem Silent.keeps (hm : Silent m) : Keeps I m := fun _ hs => hm.outcome hs fun _ _ => hs

theorem Keeps.whenever {m : Prog S Unit} (h : Keeps I m) (condition : Bool) :
    Keeps I (whenever condition m) := by
  cases condition with
  | false => exact (silent_pure ()).keeps
  | true => exact h

theorem Keeps.each {m : β → Prog S Unit} (h : ∀ b, Keeps I (m b)) (list : List β) :
    Keeps I (each list m) := by
  induction list with
  | nil => exact (silent_pure ()).keeps
  | cons b rest ih => exact (h b).bind fun _ => ih

/-- What does not depend on the state is kept beside what does. -/
theorem Keeps.and_const {K : Prop} (hm : Keeps I m) : Keeps (fun s => I s ∧ K) m := by
  intro s hs
  exact (hm s hs.1).weaken (fun _ _ h => ⟨h, hs.2⟩) fun _ h => ⟨h, hs.2⟩

theorem Keeps.and {J : S → Prop} (hI : Keeps I m) (hJ : Keeps J m) :
    Keeps (fun s => I s ∧ J s) m := by
  intro s hs
  have h1 := hI s hs.1
  have h2 := hJ s hs.2
  unfold Outcome at h1 h2 ⊢
  split at h1
  · rename_i s' a h
    rw [h] at h2
    exact ⟨h1, h2⟩
  · rename_i s' message h
    rw [h] at h2
    exact ⟨h1, h2⟩

theorem Keeps.final (hm : Keeps I m) (hs : I s) : I (m s).1 :=
  (hm s hs).final (fun _ _ h => h) fun _ h => h

/-! ## Traces -/

/-- Every event of the trace is allowed by the events before it. -/
def Always {ε : Type} (Allowed : List ε → ε → Prop) (trace : List ε) : Prop :=
  ∀ before event after, trace = before ++ event :: after → Allowed before event

variable {ε : Type} {Allowed : List ε → ε → Prop} {trace : List ε} {event : ε}

theorem always_nil : Always Allowed [] := by
  intro before e after h
  simp at h

theorem Always.concat (h : Always Allowed trace) (he : Allowed trace event) :
    Always Allowed (trace ++ [event]) := by
  intro before e after heq
  obtain rfl | ⟨after', last, rfl⟩ := after.eq_nil_or_concat
  · obtain ⟨rfl, hlast⟩ := List.append_inj' heq rfl
    obtain rfl : event = e := by simpa using hlast
    exact he
  · refine h before e after' ?_
    rw [List.concat_eq_append, ← List.cons_append, ← List.append_assoc] at heq
    exact (List.append_inj' heq rfl).1

end Effects
