import SharedLvmThin.PerlNumber
import SharedLvmThin.ThickCloneGeometry

/-! The status line of a dm-clone mapper. A reading is accepted when its counters are possible, its
geometry is that of the signed transition and the metadata is writable. -/

namespace SharedLvmThin.Hydration
open Perl CloneGeometry

/-- The signed geometry of a transition, far below the numbers that Perl counts exactly. -/
structure Clone where
  mapper : String
  sectors : ℕ
  region : ℕ
  bounded : regionCount sectors region ≤ 2 ^ 53

def Clone.total (c : Clone) : ℕ := regionCount c.sectors c.region

structure Reading where
  hydrated : ℕ
  total : ℕ
  hydrating : ℕ
deriving DecidableEq

/-- Every region hydrated and none in flight. -/
def Reading.complete (r : Reading) : Bool := r.hydrated = r.total && r.hydrating = 0

/-! ## The line -/

def literal (word l : List Char) : Option (List Char) :=
  if word <+: l then some (l.drop word.length) else none

def literalNoCase (word l : List Char) : Option (List Char) :=
  if (l.take word.length).map Char.toLower = word then some (l.drop word.length) else none

/-- `\s+` -/
def spaces (l : List Char) : Option (List Char) :=
  if l.head?.any isSpace then some (l.dropWhile isSpace) else none

/-- `(\d+)` -/
def digits (l : List Char) : Option (String × List Char) :=
  if l.head?.any Perl.isDigit then
    some (String.ofList (l.takeWhile Perl.isDigit), l.dropWhile Perl.isDigit)
  else none

/-- `/^0\s+\d+\s+clone\s+Fail\s*$/i` -/
def isFailed (status : String) : Bool :=
  let rest : Option (List Char) := do
    let l ← spaces (← literal ['0'] status.toList)
    let l ← spaces (← digits l).2
    let l ← spaces (← literalNoCase "clone".toList l)
    literalNoCase "fail".toList l
  rest.any fun l => l.all isSpace

structure StatusFields where
  sectors : String
  metadataBlock : String
  metadataUsed : String
  metadataTotal : String
  region : String
  hydrated : String
  total : String
  hydrating : String

/-- `/^0\s+(\d+)\s+clone\s+(\d+)\s+(\d+)\/(\d+)\s+(\d+)\s+(\d+)\/(\d+)\s+(\d+)(?:\s|$)/` -/
def statusFields (status : String) : Option StatusFields := do
  let (sectors, l) ← digits (← spaces (← literal ['0'] status.toList))
  let (block, l) ← digits (← spaces (← literal "clone".toList (← spaces l)))
  let (used, l) ← digits (← spaces l)
  let (metadataTotal, l) ← digits (← literal ['/'] l)
  let (region, l) ← digits (← spaces l)
  let (hydrated, l) ← digits (← spaces l)
  let (total, l) ← digits (← literal ['/'] l)
  let (hydrating, l) ← digits (← spaces l)
  if l.head?.all isSpace then
    some ⟨sectors, block, used, metadataTotal, region, hydrated, total, hydrating⟩
  else none

/-- `/\s+(rw|ro)\s*$/i` -/
def metadataMode (status : String) : Option String :=
  match status.toList.reverse.dropWhile isSpace with
  | b :: a :: before :: _ =>
    let mode := lc (String.ofList [a, b])
    if isSpace before && (mode = "rw" || mode = "ro") then some mode else none
  | _ => none

/-! ## The verification -/

/-- The part of `_thick_verify_clone_status` after the line was read. -/
def verifyStatus (c : Clone) (mustBeComplete : Bool) (status : String) :
    Except String Reading := do
  dieIf (isFailed status)
    ("dm-clone frontend '" ++ c.mapper ++ "' entered the kernel Fail metadata state; " ++
      "automatic hydration or pivot is unsafe\n")
  match statusFields status with
  | none => .error ("dm-clone status for '" ++ c.mapper ++ "' is malformed\n")
  | some f => do
    dieIf (!truthy (some f.metadataBlock) || !truthy (some f.metadataTotal)
        || !truthy (some f.total) || Num.less (numify f.metadataTotal) (numify f.metadataUsed)
        || Num.less (numify f.total) (numify f.hydrated)
        || Num.less (numify f.total) (numify f.hydrating))
      ("dm-clone status counters for '" ++ c.mapper ++ "' are internally impossible\n")
    dieIf (numify f.sectors ≠ .int c.sectors || numify f.region ≠ .int c.region
        || numify f.total ≠ .int c.total)
      ("dm-clone status geometry for '" ++ c.mapper ++ "' does not match the signed transition\n")
    dieIf (metadataMode status = none)
      ("dm-clone status for '" ++ c.mapper ++ "' does not report an authoritative metadata mode\n")
    dieIf (metadataMode status ≠ some "rw")
      ("dm-clone frontend '" ++ c.mapper ++ "' metadata is read-only; " ++
        "automatic hydration or pivot is unsafe\n")
    let reading : Reading :=
      ⟨(numify f.hydrated).value, (numify f.total).value, (numify f.hydrating).value⟩
    dieIf (mustBeComplete && !reading.complete)
      ("dm-clone hydration for '" ++ c.mapper ++ "' is incomplete (" ++ f.hydrated ++ "/" ++
        f.total ++ ", " ++ f.hydrating ++ " active)\n")
    return reading

/-- `_thick_verify_clone_status`, with the status given or read by a command. -/
def verifyCloneStatus (c : Clone) (mustBeComplete : Bool) (commandTimeout : ℕ)
    (observed : Option String) (command : Except String (List String)) : Except String Reading := do
  dieIf (commandTimeout < 5 || 600 < commandTimeout)
    "invalid thick-generations command observation timeout\n"
  dieIf (c.sectors = 0)
    ("dm-clone status verification for '" ++ c.mapper ++ "' has no authoritative sector count\n")
  dieIf (c.region = 0)
    ("dm-clone status verification for '" ++ c.mapper ++ "' has no authoritative region size\n")
  match observed with
  | some status => do
    dieIf (status.toList.any fun ch => ch = '\r' || ch = '\n')
      ("dm-clone status for '" ++ c.mapper ++ "' is ambiguous\n")
    verifyStatus c mustBeComplete status
  | none => do
    let lines ← command
    match lines with
    | [status] => verifyStatus c mustBeComplete status
    | _ => .error ("dm-clone status for '" ++ c.mapper ++ "' is ambiguous\n")

/-! ## Accepted readings -/

/-- A counter that is not above a small total is an exact integer. -/
theorem value_le {s : String} {n : ℕ} (hn : n ≤ 2 ^ 53)
    (h : Num.less (.int n) (numify s) = false) : (numify s).value ≤ n := by
  rw [numify_eq] at h ⊢
  split at h
  · rename_i hsmall
    rw [if_pos hsmall]
    simpa [Num.less, Num.value] using h
  · rename_i hlarge
    have hdouble : double n = n := double_of_le hn
    rw [if_neg hlarge]
    cases hnum : toDouble (integer s) with
    | int m => exact (toDouble_eq_int.mp hnum).elim
    | inf => exact Nat.zero_le n
    | flt m =>
      have hge : 2 ^ 64 ≤ m := toDouble_ge (by decide) (not_lt.mp hlarge) hnum
      rw [hnum] at h
      simp only [Num.less, hdouble, decide_eq_false_iff_not, not_lt] at h
      omega

section
variable {c : Clone} {mustBeComplete : Bool} {r : Reading}

theorem verifyStatus_spec {status : String} (h : verifyStatus c mustBeComplete status = .ok r) :
    r.total = c.total ∧ r.hydrated ≤ c.total := by
  unfold verifyStatus at h
  cases hfields : statusFields status with
  | none => simp [hfields] at h
  | some f =>
    simp only [hfields, bind_unit_eq_ok, dieIf_eq_ok, Bool.or_eq_false_iff, decide_eq_false_iff_not,
      ne_eq, not_not, pure_eq_ok] at h
    obtain ⟨_, ⟨⟨_, hhydrated⟩, _⟩, ⟨_, htotal⟩, _, _, _, rfl⟩ := h
    rw [htotal] at hhydrated
    exact ⟨by rw [htotal]; rfl, value_le c.bounded hhydrated⟩

/-- An accepted reading has the signed total and no more regions hydrated. -/
theorem verifyCloneStatus_spec {commandTimeout : ℕ} {observed : Option String}
    {command : Except String (List String)}
    (h : verifyCloneStatus c mustBeComplete commandTimeout observed command = .ok r) :
    r.total = c.total ∧ r.hydrated ≤ c.total := by
  unfold verifyCloneStatus at h
  simp only [bind_unit_eq_ok] at h
  obtain ⟨_, _, _, h⟩ := h
  cases observed with
  | some status => exact verifyStatus_spec (bind_unit_eq_ok.mp h).2
  | none =>
    obtain ⟨lines, _, h⟩ := bind_eq_ok.mp h
    split at h
    · exact verifyStatus_spec h
    · cases h

end

end SharedLvmThin.Hydration
