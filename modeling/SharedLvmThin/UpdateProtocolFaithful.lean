import SharedLvmThin.UpdateProtocol

/-! When the protocol reader is faithful. APT ends lines with line feeds, the reader also cuts them
at every other line break of a text: a row is read as it was written exactly when it holds no other
line break, and configuration values stay configuration exactly when their pieces after an empty
piece are empty too. -/

namespace SharedLvmThin.UpdatePolicy
open Perl Python

/-! ## What the reader is given -/

def configPieces (config : List ConfigLine) : List String :=
  config.flatMap fun c => pieces c.text.toList

/-- What follows the first empty piece of the configuration is read as actions. -/
def strayLines (config : List ConfigLine) : List String :=
  ((configPieces config).dropWhile (· ≠ "")).filter (· ≠ "")

def rowLines (rows : List Row) : List String :=
  rows.flatMap fun r => (pieces r.line.toList).filter (· ≠ "")

def actionLines (config : List ConfigLine) (rows : List Row) : List String :=
  strayLines config ++ rowLines rows

/-- Every line that the reader sees passes its own checks. -/
structure Checked (config : List ConfigLine) (rows : List Row) : Prop where
  size : (document config rows).size ≤ maxProtocolBytes
  settings : ∀ line ∈ (configPieces config).takeWhile (· ≠ ""), checkConfigLine line = .ok ()
  actions : ∀ line ∈ actionLines config rows, ∃ a, readAction line = .ok a
  count : (actionLines config rows).length ≤ maxActions

/-- The document has no line but the written ones where it matters. -/
structure Plain (config : List ConfigLine) (rows : List Row) : Prop where
  noStray : strayLines config = []
  unbroken : ∀ r ∈ rows, ∀ c ∈ r.line.toList, isLineBreak c = false

def Faithful (config : List ConfigLine) (rows : List Row) : Prop :=
  (∃ message, parseProtocolV3 (document config rows) = .error message) ∨
    parseProtocolV3 (document config rows) = .ok ⟨3, rows.map Row.toAction⟩

/-! ## Reading a document -/

theorem splitlines_document (config : List ConfigLine) (rows : List Row) :
    splitlines (documentText config rows) = "VERSION 3" ::
      (configPieces config ++ "" :: rows.flatMap fun r => pieces r.line.toList) := by
  have hversion : pieces "VERSION 3".toList = ["VERSION 3"] := by decide +kernel
  have hempty : pieces "".toList = [""] := rfl
  rw [documentText, splitlines_unlines_pieces]
  simp only [List.flatMap_cons, List.flatMap_append, List.flatMap_map, hversion, hempty]
  rfl

theorem filter_rowPieces (rows : List Row) :
    (rows.flatMap fun r => pieces r.line.toList).filter (· ≠ "") = rowLines rows := by
  rw [rowLines, List.filter_flatMap]

/-- The first empty line ends the configuration, wherever it comes from. -/
theorem configuration_end (config rest : List String) :
    (config ++ "" :: rest).takeWhile (· ≠ "") = config.takeWhile (· ≠ "") ∧
      ∃ body, (config ++ "" :: rest).dropWhile (· ≠ "") = "" :: body ∧
        body.filter (· ≠ "") =
          (config.dropWhile (· ≠ "")).filter (· ≠ "") ++ rest.filter (· ≠ "") := by
  induction config with
  | nil => exact ⟨rfl, rest, rfl, rfl⟩
  | cons line config ih =>
    by_cases hempty : line = ""
    · subst hempty
      refine ⟨rfl, config ++ "" :: rest, rfl, ?_⟩
      rw [List.filter_append, List.filter_cons_of_neg (by simp),
        List.dropWhile_cons_of_neg (by simp),
        List.filter_cons_of_neg (by simp)]
    · have hvisible : decide (line ≠ "") = true := decide_eq_true hempty
      obtain ⟨htake, body, hdrop, hbody⟩ := ih
      refine ⟨?_, body, ?_, ?_⟩
      · simp only [List.cons_append, List.takeWhile_cons, hvisible, if_true, htake]
      · simp only [List.cons_append, List.dropWhile_cons, hvisible, if_true, hdrop]
      · simp only [List.dropWhile_cons, hvisible, if_true, hbody]

theorem parse_document {config : List ConfigLine} {rows : List Row} {plan : ProtocolPlan} :
    parseProtocolV3 (document config rows) = .ok plan ↔
      (document config rows).size ≤ maxProtocolBytes ∧
      (∀ line ∈ (configPieces config).takeWhile (· ≠ ""), checkConfigLine line = .ok ()) ∧
      List.Forall₂ (fun line a => readAction line = .ok a) (actionLines config rows) plan.actions ∧
      plan.protocol = 3 ∧ plan.actions.length ≤ maxActions := by
  have hdecode : String.fromUTF8? (document config rows) = some (documentText config rows) := by
    rw [document, String.toUTF8_eq_toByteArray, String.fromUTF8?,
      dif_pos (documentText config rows).isValidUTF8]
    rfl
  obtain ⟨htake, body, hdrop, hbody⟩ := configuration_end (configPieces config)
    (rows.flatMap fun r => pieces r.line.toList)
  rw [filter_rowPieces] at hbody
  have hread : ∀ actions, readActions [] body = .ok actions ↔
      List.Forall₂ (fun line a => readAction line = .ok a) (actionLines config rows) actions ∧
        actions.length ≤ maxActions := by
    intro actions
    rw [readActions_eq_ok (Nat.zero_le _), hbody]
    constructor
    · intro h
      obtain ⟨read, hread, rfl, hfit⟩ := h
      exact ⟨hread, hfit⟩
    · intro h
      exact ⟨actions, h.1, rfl, h.2⟩
  rw [parseProtocolV3, hdecode]
  simp only [splitlines_document, readLines, hdrop, htake, bind_eq_ok, dieIf_eq_ok, exists_unit,
    decide_eq_false_iff_not, not_lt, ne_eq, not_not, true_and, forEach_eq_ok, pure_eq_ok, hread]
  constructor
  · intro h
    obtain ⟨hsize, hconfig, actions, hactions, rfl⟩ := h
    exact ⟨hsize, hconfig, hactions.1, rfl, hactions.2⟩
  · intro h
    obtain ⟨hsize, hconfig, hactions, hprotocol, hfit⟩ := h
    refine ⟨hsize, hconfig, plan.actions, ⟨hactions, hfit⟩, ?_⟩
    rw [← hprotocol]

theorem exists_forall₂ {α β : Type} {R : α → β → Prop} {l : List α} :
    (∃ l', List.Forall₂ R l l') ↔ ∀ a ∈ l, ∃ b, R a b := by
  induction l with
  | nil => exact iff_of_true ⟨[], .nil⟩ fun a ha => nomatch ha
  | cons a l ih =>
    rw [List.forall_mem_cons, ← ih]
    constructor
    · intro h
      obtain ⟨_, h⟩ := h
      obtain ⟨b, l', hb, hl', rfl⟩ := List.forall₂_cons_left_iff.mp h
      exact ⟨⟨b, hb⟩, l', hl'⟩
    · intro h
      obtain ⟨⟨b, hb⟩, l', hl'⟩ := h
      exact ⟨b :: l', .cons hb hl'⟩

/-- The document is read exactly when every line passes. -/
theorem checked_iff {config : List ConfigLine} {rows : List Row} :
    Checked config rows ↔ ∃ plan, parseProtocolV3 (document config rows) = .ok plan := by
  constructor
  · intro h
    obtain ⟨actions, hactions⟩ := exists_forall₂.mpr h.actions
    exact ⟨⟨3, actions⟩, parse_document.mpr ⟨h.size, h.settings, hactions, rfl,
      hactions.length_eq ▸ h.count⟩⟩
  · intro h
    obtain ⟨plan, hplan⟩ := h
    obtain ⟨hsize, hconfig, hactions, _, hfit⟩ := parse_document.mp hplan
    exact ⟨hsize, hconfig, exists_forall₂.mp ⟨plan.actions, hactions⟩, hactions.length_eq ▸ hfit⟩

/-! ## Exact rows -/

/-- Blocks that are not empty line up with single rows only one by one. -/
theorem blocks_eq {α β : Type} {f : α → List β} {g : α → β} {stray : List β} {l : List α}
    (hf : ∀ a ∈ l, f a ≠ []) (h : stray ++ l.flatMap f = l.map g) :
    stray = [] ∧ ∀ a ∈ l, f a = [g a] := by
  induction l generalizing stray with
  | nil => exact ⟨by simpa using h, fun a ha => nomatch ha⟩
  | cons a l ih =>
    have hblock : f a ≠ [] := hf a List.mem_cons_self
    have hrest : ∀ b ∈ l, f b ≠ [] := fun b hb => hf b (List.mem_cons_of_mem _ hb)
    rw [List.flatMap_cons, List.map_cons] at h
    cases stray with
    | cons s stray =>
      rw [List.cons_append, List.cons.injEq, ← List.append_assoc] at h
      exact absurd (List.append_eq_nil_iff.mp (ih hrest h.2).1).2 hblock
    | nil =>
      obtain ⟨b, block, hblock⟩ := List.exists_cons_of_ne_nil hblock
      rw [List.nil_append, hblock, List.cons_append, List.cons.injEq] at h
      obtain ⟨hnil, hall⟩ := ih hrest h.2
      refine ⟨rfl, fun c hc => ?_⟩
      cases List.mem_cons.mp hc with
      | inl heq => rw [heq, hblock, hnil, h.1]
      | inr hin => exact hall c hin

theorem space_mem_line (a : Action) : ' ' ∈ a.line.toList := by
  rw [Action.line, String.toList_ofList]
  simp [Action.fields, join]

theorem rowLines_plain {rows : List Row}
    (h : ∀ r ∈ rows, ∀ c ∈ r.line.toList, isLineBreak c = false) :
    rowLines rows = rows.map fun r => r.line := by
  induction rows with
  | nil => rfl
  | cons r rows ih =>
    have hvisible : r.line ≠ "" := by
      intro hempty
      have hspace := space_mem_line r.toAction
      rw [hempty] at hspace
      cases hspace
    have hrest := ih fun s hs => h s (List.mem_cons_of_mem _ hs)
    rw [rowLines] at hrest ⊢
    rw [List.flatMap_cons, pieces_of_plain (h r List.mem_cons_self), hrest, List.map_cons,
      String.ofList_toList, List.filter_cons_of_pos (by simpa using hvisible)]
    rfl

/-- The lines read are the rows written exactly in a plain document. -/
theorem plain_iff {config : List ConfigLine} {rows : List Row} :
    Plain config rows ↔ actionLines config rows = rows.map fun r => r.line := by
  constructor
  · intro h
    rw [actionLines, h.noStray, rowLines_plain h.unbroken]
    rfl
  · intro h
    have hvisible : ∀ r ∈ rows, (pieces r.line.toList).filter (· ≠ "") ≠ [] := by
      intro r _
      exact pieces_visible (space_mem_line r.toAction) rfl
    obtain ⟨hstray, hrows⟩ := blocks_eq hvisible h
    refine ⟨hstray, fun r hr => plain_of_pieces ?_⟩
    rw [hrows r hr, String.ofList_toList]

/-- Lines that are read as the rows are the rows' lines, and conversely. -/
theorem actions_eq_iff {rows : List Row} {lines : List String} {actions : List Action}
    (hread : List.Forall₂ (fun line a => readAction line = .ok a) lines actions) :
    actions = rows.map Row.toAction ↔ lines = rows.map fun r => r.line := by
  constructor
  · intro h
    have hlines : lines = actions.map Action.line := by
      clear h
      induction hread with
      | nil => rfl
      | cons hline _ ih => rw [List.map_cons, readAction_line hline, ← ih]
    rw [hlines, h, List.map_map]
    rfl
  · intro h
    subst h
    induction rows generalizing actions with
    | nil => exact List.forall₂_nil_left_iff.mp hread
    | cons r rows ih =>
      obtain ⟨a, rest, ha, hrest, rfl⟩ := List.forall₂_cons_left_iff.mp hread
      rw [List.map_cons, readAction_row ha, ih hrest]

/-- The reader is faithful to a document exactly when it refuses it for one of its lines or the
document is plain. -/
theorem protocol_faithful_iff (config : List ConfigLine) (rows : List Row) :
    Faithful config rows ↔ (Checked config rows → Plain config rows) := by
  rw [checked_iff]
  constructor
  · intro h hplan
    obtain ⟨plan, hplan⟩ := hplan
    cases h with
    | inl hrefused =>
      obtain ⟨message, hmessage⟩ := hrefused
      exact nomatch hplan.symm.trans hmessage
    | inr hexact =>
      obtain ⟨_, _, hread, _⟩ := parse_document.mp hexact
      exact plain_iff.mpr ((actions_eq_iff hread).mp rfl)
  · intro h
    cases hparse : parseProtocolV3 (document config rows) with
    | error message => exact .inl ⟨message, hparse⟩
    | ok plan =>
      obtain ⟨_, _, hread, hprotocol, _⟩ := parse_document.mp hparse
      have hactions := (actions_eq_iff hread).mpr (plain_iff.mp (h ⟨plan, hparse⟩))
      refine .inr ?_
      rw [hparse, ← hactions, ← hprotocol]

/-! ## Two documents -/

/-- The name of the package file ends in a carriage return. -/
def returnRow : Row where
  package := "qemu-server"
  oldVersion := "1"
  oldArch := "amd64"
  oldMultiarch := "none"
  direction := "<"
  newVersion := "2"
  newArch := "amd64"
  newMultiarch := "none"
  action := "/tmp/qemu.deb\r"
  separated := by decide +kernel
  oneLine := by decide +kernel

/-- A configuration value with two form feeds before what looks like a row. -/
def formFeeds : ConfigLine where
  text := "A=b\x0c\x0cqemu-server 1 amd64 none < 2 amd64 none /tmp/b.deb"
  oneLine := by decide +kernel

def cleanAction (path : String) : Action :=
  ⟨"qemu-server", "1", "amd64", "none", "<", "2", "amd64", "none", path⟩

/-- The reader hands on a row that was not written: the file that is hashed is another one, or
APT installs none at all. -/
theorem protocol_not_faithful :
    (payloadPaths ⟨3, [returnRow.toAction]⟩ = ["/tmp/qemu.deb\r"] ∧
      (∃ plan, parseProtocolV3 (document [] [returnRow]) = .ok plan ∧
        payloadPaths plan = ["/tmp/qemu.deb"]) ∧ ¬ Faithful [] [returnRow]) ∧
    ¬ Faithful [formFeeds] [] := by
  have hreturn : parseProtocolV3 (document [] [returnRow]) =
      .ok ⟨3, [cleanAction "/tmp/qemu.deb"]⟩ :=
    parse_document.mpr ⟨by decide +kernel, by decide +kernel, .cons (by decide +kernel) .nil, rfl,
      by decide⟩
  have hfeeds : parseProtocolV3 (document [formFeeds] []) = .ok ⟨3, [cleanAction "/tmp/b.deb"]⟩ :=
    parse_document.mpr ⟨by decide +kernel, by decide +kernel, .cons (by decide +kernel) .nil, rfl,
      by decide⟩
  refine ⟨⟨by decide +kernel, ⟨_, hreturn, by decide +kernel⟩, ?_⟩, ?_⟩
  · rintro (⟨message, hrefused⟩ | hexact)
    · exact nomatch hreturn.symm.trans hrefused
    · have hsame := Except.ok.inj (hreturn.symm.trans hexact)
      revert hsame
      decide +kernel
  · rintro (⟨message, hrefused⟩ | hexact)
    · exact nomatch hfeeds.symm.trans hrefused
    · have hsame := Except.ok.inj (hfeeds.symm.trans hexact)
      revert hsame
      decide +kernel

end SharedLvmThin.UpdatePolicy
