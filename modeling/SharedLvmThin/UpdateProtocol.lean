import SharedLvmThin.PythonLines
import SharedLvmThin.UpdatePolicySettlement

/-! The reader of the APT hook protocol, version 3. APT writes one line for each configuration value
and, after an empty line, one line of nine fields for each action. -/

namespace SharedLvmThin.UpdatePolicy
open Perl Python

def maxProtocolBytes : ℕ := 16 * 1024 * 1024

def maxActions : ℕ := 4096

structure ProtocolPlan where
  protocol : ℕ
  actions : List Action
deriving DecidableEq

def isAbsolute (s : String) : Bool := s.toList.head? = some '/'

/-! ## Lines -/

def checkConfigLine (line : String) : Except String Unit := do
  dieIf ('=' ∉ line.toList) "malformed APT configuration line"
  dieIf (line.toList.head? = some '=') "empty APT configuration key"

/-- The checks on the fields of a row. -/
def checkAction (a : Action) : Except String Unit := do
  dieIf (!isPackage a.package) "unsafe APT package name"
  dieIf (a.oldVersion ≠ "-" && !isVersion a.oldVersion) "unsafe old package version"
  dieIf (a.newVersion ≠ "-" && !isVersion a.newVersion) "unsafe new package version"
  dieIf (!isArch a.oldArch || !isArch a.newArch) "unsafe package architecture"
  dieIf (a.oldMultiarch ∉ multiarch || a.newMultiarch ∉ multiarch || a.direction ∉ ["<", ">", "="])
    "invalid APT package action metadata"
  dieIf (a.action ∉ ["**CONFIGURE**", "**REMOVE**"] && !isAbsolute a.action)
    "APT package payload path must be absolute"

/-- One turn of the loop over package actions. -/
def readAction (line : String) : Except String Action :=
  match splitMax ' ' 8 line.toList with
  | [package, oldVersion, oldArch, oldMultiarch, direction, newVersion, newArch, newMultiarch,
      action] => do
    let row : Action := ⟨package, oldVersion, oldArch, oldMultiarch, direction, newVersion, newArch,
      newMultiarch, action⟩
    checkAction row
    return row
  | _ => .error "malformed APT package action"

def readActions (actions : List Action) : List String → Except String (List Action)
  | [] => .ok actions
  | line :: rest =>
    if line = "" then readActions actions rest
    else do
      let row ← readAction line
      dieIf ((actions ++ [row]).length > maxActions) "APT hook action count exceeds limit"
      readActions (actions ++ [row]) rest

/-- The configuration values are checked and then dropped. -/
def readLines : List String → Except String ProtocolPlan
  | [] => .error "APT hook protocol v3 is required"
  | version :: rest => do
    dieIf (version ≠ "VERSION 3") "APT hook protocol v3 is required"
    match rest.dropWhile (· ≠ "") with
    | [] => .error "APT hook protocol has no configuration terminator"
    | _ :: body => do
      forEach (rest.takeWhile (· ≠ "")) checkConfigLine
      let actions ← readActions [] body
      return ⟨3, actions⟩

/-- `parse_protocol_v3` -/
def parseProtocolV3 (raw : ByteArray) : Except String ProtocolPlan := do
  dieIf (raw.size > maxProtocolBytes) "APT hook protocol exceeds size limit"
  match String.fromUTF8? raw with
  | none => .error "APT hook protocol is not UTF-8"
  | some text => readLines (splitlines text)

/-- The files that `hash_payloads` opens, in order. -/
def payloadPaths (plan : ProtocolPlan) : List String :=
  (plan.actions.map Action.action).filter isAbsolute

/-! ## What APT writes -/

def Action.fields (a : Action) : List String :=
  [a.package, a.oldVersion, a.oldArch, a.oldMultiarch, a.direction, a.newVersion, a.newArch,
    a.newMultiarch]

/-- The line of a row. -/
def Action.line (a : Action) : String := String.ofList (join ' ' (a.fields ++ [a.action]))

/-- A row that fits the format: no field contains a line feed, and only the last one a space. -/
structure Row extends Action where
  separated : ∀ field ∈ toAction.fields, ' ' ∉ field.toList
  oneLine : '\n' ∉ toAction.line.toList

structure ConfigLine where
  text : String
  oneLine : '\n' ∉ text.toList

def documentText (config : List ConfigLine) (rows : List Row) : String :=
  unlines ("VERSION 3" :: (config.map ConfigLine.text ++ "" :: rows.map fun r => r.line))

def document (config : List ConfigLine) (rows : List Row) : ByteArray :=
  (documentText config rows).toUTF8

/-! ## Specs -/

theorem readAction_line {line : String} {a : Action} (h : readAction line = .ok a) :
    a.line = line := by
  have hjoin := join_splitMax ' ' 8 line.toList
  unfold readAction at h
  split at h
  · rename_i hfields
    obtain ⟨_, _, hrow⟩ := bind_eq_ok.mp h
    obtain rfl := pure_eq_ok.mp hrow
    rw [hfields] at hjoin
    simp only [Action.line, Action.fields, List.cons_append, List.nil_append, hjoin,
      String.ofList_toList]
  · cases h

theorem readAction_row {r : Row} {a : Action} (h : readAction r.line = .ok a) : a = r.toAction := by
  have hsplit : splitMax ' ' 8 r.line.toList = r.fields ++ [r.action] := by
    rw [Action.line, String.toList_ofList]
    exact splitMax_join r.separated
  unfold readAction at h
  rw [hsplit] at h
  obtain ⟨_, _, hrow⟩ := bind_eq_ok.mp h
  exact (pure_eq_ok.mp hrow).symm

theorem checkAction_eq_ok {a : Action} {u : Unit} :
    checkAction a = .ok u ↔ isProtocolRow a = true := by
  simp only [checkAction, isProtocolRow, isAbsolute, bind_eq_ok, exists_unit, dieIf_eq_ok,
    Bool.not_eq_false', Bool.and_eq_false_imp, Bool.or_eq_false_iff, decide_eq_false_iff_not,
    decide_eq_true_eq, Bool.and_eq_true, Bool.or_eq_true, ne_eq, ← or_iff_not_imp_left, and_assoc,
    not_not]

theorem readAction_protocolRow {line : String} {a : Action} (h : readAction line = .ok a) :
    isProtocolRow a = true := by
  unfold readAction at h
  split at h
  · obtain ⟨_, hchecked, hrow⟩ := bind_eq_ok.mp h
    obtain rfl := pure_eq_ok.mp hrow
    exact checkAction_eq_ok.mp hchecked
  · cases h

/-- The loop keeps one action for each line that is not empty. -/
theorem readActions_eq_ok {actions result : List Action} {lines : List String}
    (hlength : actions.length ≤ maxActions) :
    readActions actions lines = .ok result ↔ ∃ read : List Action,
      List.Forall₂ (fun line a => readAction line = .ok a) (lines.filter (· ≠ "")) read ∧
        result = actions ++ read ∧ result.length ≤ maxActions := by
  induction lines generalizing actions with
  | nil =>
    simp only [readActions, Except.ok.injEq, List.filter_nil, List.forall₂_nil_left_iff,
      exists_eq_left, List.append_nil]
    exact ⟨fun h => ⟨h.symm, h ▸ hlength⟩, fun h => h.1.symm⟩
  | cons line lines ih =>
    by_cases hempty : line = ""
    · rw [readActions, if_pos hempty, ih hlength,
        List.filter_cons_of_neg (by simpa using hempty)]
    · rw [readActions, if_neg hempty, List.filter_cons_of_pos (by simpa using hempty)]
      simp only [bind_eq_ok, dieIf_eq_ok, decide_eq_false_iff_not, not_lt, exists_unit]
      constructor
      · intro h
        obtain ⟨row, hrow, hcount, hrest⟩ := h
        obtain ⟨read, hread, hresult, hfit⟩ := (ih hcount).mp hrest
        refine ⟨row :: read, .cons hrow hread, ?_, hfit⟩
        rw [hresult, List.append_assoc, List.singleton_append]
      · intro h
        obtain ⟨read, hread, hresult, hfit⟩ := h
        obtain ⟨row, read, hrow, hrest, rfl⟩ := List.forall₂_cons_left_iff.mp hread
        have hcount : (actions ++ [row]).length ≤ maxActions := by
          rw [hresult] at hfit
          simp only [List.length_append, List.length_cons, List.length_nil] at hfit ⊢
          omega
        refine ⟨row, hrow, hcount, (ih hcount).mpr ⟨read, hrest, ?_, hfit⟩⟩
        rw [hresult, List.append_assoc, List.singleton_append]

theorem readActions_protocolRow {actions result : List Action} {lines : List String}
    (hactions : ∀ row ∈ actions, isProtocolRow row = true)
    (h : readActions actions lines = .ok result) : ∀ row ∈ result, isProtocolRow row = true := by
  induction lines generalizing actions with
  | nil =>
    cases h
    exact hactions
  | cons line lines ih =>
    rw [readActions] at h
    split at h
    · exact ih hactions h
    · simp only [bind_eq_ok, exists_unit] at h
      obtain ⟨row, hrow, -, hrest⟩ := h
      refine ih ?_ hrest
      intro a ha
      rcases List.mem_append.mp ha with ha | ha
      · exact hactions a ha
      · exact List.mem_singleton.mp ha ▸ readAction_protocolRow hrow

/-- The rows of an accepted plan are protocol rows. -/
theorem parseProtocolV3_protocolRows {raw : ByteArray} {plan : ProtocolPlan}
    (h : parseProtocolV3 raw = .ok plan) : ∀ row ∈ plan.actions, isProtocolRow row = true := by
  simp only [parseProtocolV3, bind_eq_ok, exists_unit] at h
  obtain ⟨-, h⟩ := h
  split at h
  · cases h
  · unfold readLines at h
    split at h
    · cases h
    · simp only [bind_eq_ok, exists_unit] at h
      obtain ⟨-, h⟩ := h
      split at h
      · cases h
      · simp only [bind_eq_ok, exists_unit, pure_eq_ok] at h
        obtain ⟨-, actions, hactions, rfl⟩ := h
        exact readActions_protocolRow (fun _ hrow => absurd hrow List.not_mem_nil) hactions

end SharedLvmThin.UpdatePolicy
