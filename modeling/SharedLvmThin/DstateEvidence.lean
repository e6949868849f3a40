import SharedLvmThin.PythonText
import Mathlib.Data.Prod.Lex

/-! Blocked processes. Two observations of the process table a moment apart:
  a process is stuck if it
is in uninterruptible sleep in both. The check knows a process again by what it can read back from
  the
text of its evidence. -/

namespace SharedLvmThin.Dstate
open Python KeyedLists

/-! ## Observations -/

/-- A row of the process table. `start` is the kernel's start time,
  which together with the pid makes
the process; the other fields are what the reads of one observation return. `ppid` is there if the
status line could be read a second time, and the start time is then read with it. -/
structure Task where
  pid : Nat
  start : Nat
  state : String
  ppid : Option Nat
  parentCmdline : Option String
  cgroup : Option String
  cmdline : Option String
  wchan : Option String
  stack : Option String
deriving DecidableEq

structure Observation where
  tasks : List Task
  distinct : (tasks.map Task.pid).Nodup

def Observation.stuck (o : Observation) : List Task := o.tasks.filter (·.state = "D")

/-! ## Evidence -/

def withoutNul (s : String) : String := replaceChar '\x00' " " s

def parentEvidence (t : Task) : String :=
  match t.parentCmdline with
  | some cmdline => "parent=" ++ withoutNul cmdline
  | none => "parent=unavailable"

def Task.evidence (t : Task) : List String :=
  (match t.ppid with
    | some ppid => ["ppid=" ++ ppid.repr ++ " starttime=" ++ t.start.repr, parentEvidence t]
    | none => []) ++
    t.cgroup.toList.map ("cgroup=" ++ ·) ++
      (t.cmdline.toList ++ t.wchan.toList ++ t.stack.toList).map withoutNul

def Task.joined (t : Task) : String := strip (collapse (" ".intercalate t.evidence))

/-- `joined[:300] or 'unavailable'` -/
def shortened (joined : String) : String :=
  if joined = "" then "unavailable" else String.ofList (joined.toList.take 300)

def Task.item (t : Task) : String := "pid=" ++ t.pid.repr ++ " evidence=" ++ shortened t.joined

def isRelevant (tokens : List String) (text : String) : Bool :=
  tokens.any fun token => token ≠ "" && contains text token

inductive Status
  | pass | fail | unknown
deriving DecidableEq

structure Report where
  status : Status
  relevant : List String
  unknown : List String
  transient : Nat
deriving DecidableEq

/-- The digits after a word, where the word begins and the digits end at a word boundary. -/
def numberAt (w : Words) (word : String) (previous : Option Char) (text : List Char) :
    Option (List Char × List Char) :=
  let digits := (text.drop word.length).takeWhile Perl.isDigit
  let rest := (text.drop word.length).dropWhile Perl.isDigit
  if w.isBoundary previous text.head? && word.toList.isPrefixOf text && digits ≠ [] &&
      w.isBoundary digits.getLast? rest.head? then
    some (digits, rest)
  else none

/-- `.*\bstarttime=(\d+)\b`: the last place on the line. -/
def lastStart (w : Words) (previous : Option Char) : List Char → Option (List Char)
  | [] => none
  | c :: rest =>
    let here := (numberAt w "starttime=" previous (c :: rest)).map Prod.fst
    if c = '\n' then here else (lastStart w (some c) rest).or here

/-- `re.search(r"\bpid=(\d+)\b.*\bstarttime=(\d+)\b", item)` -/
def searchIdentity (w : Words) (previous : Option Char) : List Char → Option (String × String)
  | [] => none
  | c :: rest =>
    let here := do
      let (pid, tail) ← numberAt w "pid=" previous (c :: rest)
      let start ← lastStart w pid.getLast? tail
      return (String.ofList pid, String.ofList start)
    here.or (searchIdentity w (some c) rest)

def identity (w : Words) (item : String) : Option (String × String) :=
  searchIdentity w none item.toList

/-! ## The second look -/

/-- The entries of a dictionary that is filled in this order: a later entry replaces an earlier. -/
def entry (pairs : List ((String × String) × String)) (key : String × String) : String :=
  (pairs.reverse.lookup key).getD ""

def byIdentity (w : Words) (items : List String) : List ((String × String) × String) :=
  items.filterMap fun item => (identity w item).map fun key => (key, item)

def Report.items (r : Report) : List String := r.relevant ++ r.unknown

/-- `sorted(persistent)` -/
def persistent (w : Words) (first second : List String) : List (String × String) :=
  sortBy (fun key : String × String => toLex key)
    ((first.filterMap (identity w)).dedup.filter fun key =>
      key ∈ (byIdentity w second).map Prod.fst)

section
variable {w : Words}

end

/-! ## Identities of items -/

section
variable {w : Words} {t : Task}

/-- What follows the pid in an item. -/
def Task.tail (t : Task) : List Char := " evidence=".toList ++ (shortened t.joined).toList

end

/-! ## One observation -/

section
variable {tokens : List String} {o : Observation}

end

/-! ## Recognition -/

section
variable {w : Words} {first second : Observation}

/-- The two rows carry the same identity in their evidence. -/
def Recognised (w : Words) (first second : Observation) (t u : Task) : Prop :=
  t ∈ first.stuck ∧ u ∈ second.stuck ∧
    ∃ key, identity w t.item = some key ∧ identity w u.item = some key

variable {tokens : List String}

end

/-! ## Stuck processes -/

/-- One process in uninterruptible sleep in both observations. -/
def Stuck (first second : Observation) (t u : Task) : Prop :=
  t ∈ first.stuck ∧ u ∈ second.stuck ∧ t.pid = u.pid ∧ t.start = u.start

/-- A stuck process whose identity can be read both times and whose evidence mentions a token. -/
structure Attributable (tokens : List String) (first second : Observation) (t u : Task) : Prop where
  stuck : Stuck first second t u
  readable : t.ppid.isSome = true ∧ u.ppid.isSome = true
  mentioned : isRelevant tokens u.joined = true

section
variable (w : Words) (tokens : List String) (first second : Observation)

/-- What the evidence texts have to show about the stuck processes. -/
structure Traceable : Prop where
  noticed : ∀ t u, Stuck first second t u → (∃ t' u', Recognised w first second t' u') ∨
    ∃ u' ∈ second.stuck, identity w u'.item = none
  attributed : ∀ t u, Attributable tokens first second t u →
    ∃ t' u', Recognised w first second t' u' ∧ isRelevant tokens u'.item = true

/-- Enough for that: each stuck process is read back as itself,
  and a token stands in the part of the
evidence that is kept. -/
theorem traceable_of_own (hown : ∀ t u, Stuck first second t u → Recognised w first second t u)
    (hkept : ∀ u ∈ second.stuck, isRelevant tokens u.joined = true → isRelevant tokens u.item =
        true) :
    Traceable w tokens first second := by
  refine ⟨fun t u hstuck => .inl ⟨t, u, hown t u hstuck⟩, fun t u hattributable => ?_⟩
  have hstuck := hattributable.stuck
  exact ⟨t, u, hown t u hstuck, hkept u hstuck.2.1 hattributable.mentioned⟩

end

/-- A process that waits for the disk, its identity readable or not. -/
def blocked (ppid : Option Nat) (cmdline : String) : Task :=
  ⟨42, 100, "D", ppid, none, none, some cmdline, none, none⟩

def seen (t : Task) : Observation := ⟨[t], List.nodup_singleton t.pid⟩

end SharedLvmThin.Dstate
