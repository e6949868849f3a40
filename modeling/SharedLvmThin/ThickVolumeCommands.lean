import SharedLvmThin.ThickSnapshotSteps

/-! Which commands an operation may issue. A fact about the store that all of them keep is a fact
about every state that the operation leads the volume group through, wherever it stops. -/

namespace SharedLvmThin.ThickVolume
open Perl TagCodec Effects
open Thick (Record vgIntentTags decodeVgIntentTags)

/-- From one session to another by commands of `P`, each of which may have had no effect. -/
def Path (P : Command → Prop) : Session → Session → Prop :=
  Relation.ReflTransGen fun s t => ∃ command, P command ∧ Ran command s t

def Issues {α : Type} (P : Command → Prop) (m : Op α) : Prop := ∀ s, Path P s (m s).1

section
variable {α β : Type} {P R : Command → Prop} {s t u : Session} {env : Env}

theorem Path.trans (h : Path P s t) (h' : Path P t u) : Path P s u :=
  Relation.ReflTransGen.trans h h'

/-- What no command of `P` changes stays as it was at every moment. -/
theorem Path.within {γ : Type} (h : Path P s t) (f : Store → γ)
    (hkeep : ∀ command S, P command → f (command.store S) = f S) :
    Within (fun S => f S = f s.store) s t := by
  induction h with
  | refl => exact Within.refl rfl
  | tail hpath hstep ih =>
    obtain ⟨command, hP, hran⟩ := hstep
    refine ih.ran hran ?_
    rcases hran.store with hstore | hstore
    · rw [hstore, hkeep command _ hP]
      exact ih.1
    · rw [hstore]
      exact ih.1

theorem Path.weaken (h : Path P s t) (hPR : ∀ command, P command → R command) : Path R s t := by
  induction h with
  | refl => exact Relation.ReflTransGen.refl
  | tail hpath hstep ih =>
    obtain ⟨command, hP, hran⟩ := hstep
    exact ih.tail ⟨command, hPR command hP, hran⟩

/-! ## Rules -/

theorem Issues.weaken {m : Op α} (h : Issues P m) (hPR : ∀ command, P command → R command) :
    Issues R m := fun s => (h s).weaken hPR

theorem silent_issues {m : Op α} (h : Silent m) : Issues P m := by
  intro s
  rw [h s]
  exact Relation.ReflTransGen.refl

/-- The rest of a program need only be looked at where the part before it can return to it. -/
theorem Issues.bind_of_ok {m : Op α} {f : α → Op β} (hm : Issues P m)
    (hf : ∀ a s t, m s = (t, .ok a) → Issues P (f a)) : Issues P (m >>= f) := by
  intro s
  have hs := hm s
  simp only [bind]
  split
  · rename_i s' a hrun
    rw [hrun] at hs
    exact hs.trans (hf a s s' hrun s')
  · rename_i s' message hrun
    rw [hrun] at hs
    exact hs

theorem Issues.bind {m : Op α} {f : α → Op β} (hm : Issues P m) (hf : ∀ a, Issues P (f a)) :
    Issues P (m >>= f) := hm.bind_of_ok fun a _ _ _ => hf a

theorem issues_lift {x : Except String α} {f : α → Op β}
    (hf : ∀ a, x = .ok a → Issues P (f a)) : Issues P (lift x >>= f) := by
  refine (silent_issues (silent_lift x)).bind_of_ok fun a s t hx => ?_
  exact hf a (lift_eq_ok.mp hx).2

theorem issues_silent {m : Op α} {f : α → Op β} (hm : Silent m) (hf : ∀ a, Issues P (f a)) :
    Issues P (m >>= f) := (silent_issues hm).bind hf

theorem Issues.attempt {m : Op α} (h : Issues P m) : Issues P (attempt m) := h

theorem Issues.whenever {m : Op Unit} (h : Issues P m) (condition : Bool) :
    Issues P (whenever condition m) := by
  cases condition with
  | false => exact silent_issues (silent_pure ())
  | true => exact h

theorem Issues.each {m : β → Op Unit} {list : List β} (h : ∀ b ∈ list, Issues P (m b)) :
    Issues P (each list m) := by
  induction list with
  | nil => exact silent_issues (silent_pure ())
  | cons b rest ih =>
    refine (h b List.mem_cons_self).bind fun _ => ?_
    exact ih fun c hc => h c (List.mem_cons_of_mem _ hc)

theorem issues_runCommand {command : Command} (h : P command) :
    Issues P (runCommand env command) :=
  fun s => Relation.ReflTransGen.single ⟨command, h, ran_runCommand env command s⟩

theorem issues_runProven {command : Command} {unknown : String} {verify : Op Unit}
    (hverify : Silent verify) (h : P command) :
    Issues P (runProven env command unknown verify) := by
  intro s
  rw [(runProven_eq hverify).1]
  exact issues_runCommand h s

/-! ## Parts that issue one command -/

theorem issues_setVgIntent {intent : Record}
    (h : ∀ tags, vgIntentTags intent = .ok tags → P (.changeVgTags [] tags)) :
    Issues P (setVgIntent env intent) := by
  refine issues_silent (silent_requireNoVgIntent env) fun _ => ?_
  refine issues_silent (silent_vgStateDigest env) fun observed => ?_
  refine issues_silent (silent_refuse _ _) fun _ => ?_
  refine issues_lift fun tags htags => ?_
  exact issues_runProven ((silent_readVgIntent env).bind fun _ => silent_refuse _ _) (h tags htags)

theorem issues_clearVgIntent {expected : Record}
    (h : ∀ current tags, vgIntentTags current = .ok tags → P (.changeVgTags tags [])) :
    Issues P (clearVgIntent env expected) := by
  refine issues_silent (silent_readVgIntent env) fun current => ?_
  cases current with
  | none => exact silent_issues (silent_throwMessage _)
  | some current =>
    refine issues_silent (silent_refuse _ _) fun _ => ?_
    refine issues_lift fun tags htags => ?_
    exact issues_runProven (silent_clearCheck env _) (h current tags htags)

theorem issues_changeExactTags {lv message : String} {delete add : List String}
    (h : P (.changeTags lv (delete.filter (· ∉ add)) (add.filter (· ∉ delete)))) :
    Issues P (changeExactTags env lv delete add message) := by
  refine issues_silent (silent_readExactTags env lv) fun _ => ?_
  refine issues_silent (silent_refuse _ _) fun _ => ?_
  exact issues_runProven ((silent_readExactTags env lv).bind fun _ => silent_refuse _ _) h

theorem issues_deactivateExactLvs {message : String} {lvs : List String} (h : P (.deactivate lvs)) :
    Issues P (deactivateExactLvs env message lvs) := by
  refine issues_silent (silent_refuse _ _) fun _ => issues_silent (silent_refuse _ _) fun _ => ?_
  refine issues_silent (silent_kernelInventory env) fun before => ?_
  refine issues_silent (Silent.each (fun lv => silent_verifyMapped env before lv) lvs) fun _ => ?_
  refine issues_runProven ?_ h
  refine (silent_kernelInventory env).bind fun after => ?_
  exact Silent.each (fun lv => silent_refuse _ _) _

theorem issues_withVgLock {code : Op α} (h : Issues P code) : Issues P (withVgLock env code) := by
  unfold withVgLock
  iterate 8 refine issues_silent (silent_ask env _) fun _ => ?_
  exact h

end

/-! ## Calls that die -/

/-- The commands of a call that dies after so many of them, if it dies. -/
def cutOff (cut : Option Nat) (issued : List Issued) : List Issued :=
  match cut with
  | none => issued
  | some n => issued.take n

/-- The volume group after the commands. -/
def lastStore (S : Store) (issued : List Issued) : Store :=
  match issued.getLast? with
  | none => S
  | some last => last.store

section
variable {cut : Option Nat} {S : Store} {issued : List Issued} {i : Issued}

theorem mem_of_mem_cutOff (h : i ∈ cutOff cut issued) : i ∈ issued := by
  cases cut with
  | none => exact h
  | some n => exact List.mem_of_mem_take h

@[simp] theorem cutOff_nil : cutOff cut [] = [] := by
  cases cut with
  | none => rfl
  | some n => exact List.take_nil

/-- What holds before the call and after every command of it holds wherever it dies. -/
theorem lastStore_of {P : Store → Prop} (hnone : issued = [] → P S)
    (hall : ∀ i ∈ issued, P i.store) : P (lastStore S issued) := by
  unfold lastStore
  split
  · rename_i hlast
    exact hnone (List.getLast?_eq_none_iff.mp hlast)
  · rename_i last hlast
    exact hall last (List.mem_of_getLast? hlast)

theorem Within.cutOff {X : Store → Prop} {k : Kernel} {t : Session} (hS : X S)
    (h : Within X ⟨S, k, []⟩ t) (cut : Option Nat) :
    X (lastStore S (ThickVolume.cutOff cut t.issued)) := by
  obtain ⟨-, new, hnew, hall⟩ := h
  refine lastStore_of (fun _ => hS) fun i hi => hall i ?_
  have hmem := mem_of_mem_cutOff hi
  rw [hnew] at hmem
  exact hmem

end

end SharedLvmThin.ThickVolume
