import SharedLvmThin.UpdatePolicy

/-! Where an allowed transaction lands. The verdict is computed from the last row of each base
package; it speaks for every row exactly when the rows of a watched package agree. -/

namespace SharedLvmThin.UpdatePolicy
open Perl KeyedLists

/-! ## Resulting versions -/

/-- The version of a touched package is the outcome of one of its rows. -/
theorem resultingVersions_touched (installed : Versions) {actions : List Action} {a : Action}
    (ha : a ∈ actions) : ∃ b ∈ actions, basePackage b.package = basePackage a.package ∧
      resultingVersions installed actions (basePackage a.package) = outcome b := by
  induction actions using List.reverseRecOn with
  | nil => cases ha
  | append_singleton earlier last ih =>
    simp only [resultingVersions, List.foldl_append, List.foldl_cons, List.foldl_nil]
    by_cases hname : basePackage a.package = basePackage last.package
    · exact ⟨last, by simp, hname.symm, by rw [hname, Function.update_self]⟩
    · have ha : a ∈ earlier := by
        rcases List.mem_append.mp ha with ha | ha
        · exact ha
        · rw [List.mem_singleton.mp ha] at hname
          exact absurd rfl hname
      obtain ⟨b, hb, hbase, hresult⟩ := ih ha
      exact ⟨b, by simp [hb], hbase, by rwa [Function.update_of_ne hname]⟩

/-! ## Tuples -/

section
variable {manifest : Manifest} {versions : Versions} {query : Query}

theorem atMostOne_eq_ok {rows : List PackageTuple} {message : String} {row : PackageTuple}
    (h : atMostOne rows message = .ok (some row)) : rows = [row] := by
  simp only [atMostOne, bind_eq_ok, dieIf_eq_ok, pure_eq_ok, decide_eq_false_iff_not, not_lt] at h
  obtain ⟨-, hlength, hhead⟩ := h
  cases rows with
  | nil => cases hhead
  | cons first rest =>
    cases rest with
    | nil => exact congrArg (· :: []) (Option.some.inj hhead)
    | cons second rest => simp at hlength

theorem exactTuple_eq_ok {api : Int} {row : PackageTuple}
    (h : exactTuple manifest versions query api = .ok (some row)) :
    row ∈ manifest.tuples ∧ tupleMatches versions query api row = true := by
  have hrows := atMostOne_eq_ok h
  exact List.mem_filter.mp (hrows ▸ List.mem_singleton_self row)

theorem plannedTuple_eq_ok {row : PackageTuple}
    (h : plannedTuple manifest versions query = .ok (some row)) :
    ∃ api, exactTuple manifest versions query api = .ok (some row) := by
  simp only [plannedTuple, bind_eq_ok] at h
  obtain ⟨api14, h14, api15, h15, api16, h16, hone⟩ := h
  have hmem : row ∈ api14.toList ++ api15.toList ++ api16.toList := by
    rw [atMostOne_eq_ok hone]
    exact List.mem_singleton_self row
  simp only [List.mem_append, Option.mem_toList] at hmem
  rcases hmem with (hmem | hmem) | hmem
  · exact ⟨14, hmem ▸ h14⟩
  · exact ⟨15, hmem ▸ h15⟩
  · exact ⟨16, hmem ▸ h16⟩

theorem tupleMatches_packages {api : Int} {row : PackageTuple}
    (h : tupleMatches versions query api row = true) :
    ∀ entry ∈ row.packages.entries, versions entry.1 = some entry.2 := by
  simp only [tupleMatches, Bool.and_eq_true, List.all_eq_true, decide_eq_true_eq] at h
  exact h.2

end

theorem unrepresented_eq_nil {target : PackageTuple} {related : List Action}
    (h : unrepresented target related = []) :
    ∀ row ∈ related, ∃ version, (basePackage row.package, version) ∈ target.packages.entries := by
  intro row hrow
  simp only [unrepresented, sortBy_eq_nil, List.dedup_eq_nil, List.filter_eq_nil_iff, List.mem_map,
    decide_eq_true_eq, not_not, forall_exists_index, and_imp, forall_apply_eq_imp_iff₂] at h
  obtain ⟨entry, hentry, hname⟩ := h row hrow
  exact ⟨entry.2, by rw [← hname]; exact hentry⟩

/-! ## The verdict -/

/-- The only qualified, test-complete edge between two tuples, with an API step of 0 or 1. -/
def OneEdge (manifest : Manifest) (current target : PackageTuple) : Prop :=
  ∃ edge, matchingEdges manifest current target = [edge] ∧
    (target.api = current.api ∨ target.api = current.api + 1)

def isAllowed (verdict : Verdict) : Bool :=
  verdict = .allowQualified || verdict = .allowQualifiedEdge

theorem evaluateEdge_allowed {manifest : Manifest} {related : List Action}
    {current target : PackageTuple} {e : Evaluation}
    (h : evaluateEdge manifest related current target = .ok e) (hallowed : isAllowed e.verdict = true) :
    unrepresented target related = [] ∧ e.currentTuple = some current.id ∧
      e.targetTuple = some target.id ∧ OneEdge manifest current target := by
  unfold evaluateEdge at h
  split at h
  · cases h
    exact absurd hallowed (by simp [isAllowed, tupleVerdict])
  · rename_i edge hedges
    split_ifs at h with htransition hextra hunrepresented
    · cases h
      exact absurd hallowed (by simp [isAllowed, tupleVerdict])
    · cases h
      exact absurd hallowed (by simp [isAllowed, tupleVerdict])
    · cases h
      exact absurd hallowed (by simp [isAllowed, tupleVerdict])
    · cases h
      refine ⟨not_not.mp hunrepresented, rfl, rfl, edge, hedges, ?_⟩
      by_cases hapi : target.api = current.api
      · exact .inl hapi
      · right
        have hvalid : validTransition current target edge related = true := by
          simpa [hapi] using htransition
        unfold validTransition at hvalid
        split at hvalid
        · simp only [Bool.and_eq_true, decide_eq_true_eq] at hvalid
          exact hvalid.1.1.1.1.1
        · cases hvalid
  · cases h

theorem evaluateTuples_allowed {manifest : Manifest} {related : List Action}
    {current target : PackageTuple} {e : Evaluation}
    (h : evaluateTuples manifest related current target = .ok e)
    (hallowed : isAllowed e.verdict = true) :
    unrepresented target related = [] ∧ e.currentTuple = some current.id ∧
      e.targetTuple = some target.id ∧
      (e.verdict = .allowQualifiedEdge → OneEdge manifest current target) := by
  unfold evaluateTuples at h
  split_ifs at h with hid hunrepresented
  · cases h
    exact absurd hallowed (by simp [isAllowed, tupleVerdict])
  · cases h
    exact ⟨not_not.mp hunrepresented, rfl, rfl, by simp [tupleVerdict]⟩
  · obtain ⟨hnone, hcurrent, htarget, hedge⟩ := evaluateEdge_allowed h hallowed
    exact ⟨hnone, hcurrent, htarget, fun _ => hedge⟩

/-- The tuples that an evaluation compares. -/
structure Compared (actions : List Action) (manifest : Manifest) (policy : Policy) (context : Context)
    (e : Evaluation) (current target : PackageTuple) : Prop where
  current_eq : exactTuple manifest context.installed (queryOf policy context) context.api =
    .ok (some current)
  target_eq : plannedTuple manifest (resultingVersions context.installed actions)
    (queryOf policy context) = .ok (some target)
  currentTuple : e.currentTuple = some current.id
  targetTuple : e.targetTuple = some target.id

section
variable {engines : Engines} {actions : List Action} {manifest : Manifest} {policy : Policy}
  {context : Context} {e : Evaluation}

/-- A refusing branch is not the one that allowed. -/
theorem of_refusing_branch {c : Prop} [Decidable c] {refusal : Evaluation}
    {rest : Except String Evaluation} (h : (if c then .ok refusal else rest) = .ok e)
    (hrefusal : isAllowed refusal.verdict = false) (hallowed : isAllowed e.verdict = true) :
    rest = .ok e := by
  by_cases hc : c
  · rw [if_pos hc] at h
    cases h
    rw [hrefusal] at hallowed
    cases hallowed
  · rwa [if_neg hc] at h

theorem evaluateQualified_allowed {related : List Action}
    (h : evaluateQualified engines actions manifest policy context related = .ok e)
    (hallowed : isAllowed e.verdict = true) :
    ∃ current target, Compared actions manifest policy context e current target ∧
      unrepresented target related = [] ∧
      (e.verdict = .allowQualifiedEdge → OneEdge manifest current target) := by
  simp only [evaluateQualified] at h
  have h := of_refusing_branch h rfl hallowed
  split at h
  · cases h
    cases hallowed
  · simp only [bind_eq_ok] at h
    obtain ⟨current, hcurrent, target, htarget, h⟩ := h
    split at h
    · rename_i current target
      obtain ⟨hnone, hcur, htar, hedge⟩ := evaluateTuples_allowed h hallowed
      exact ⟨current, target, ⟨hcurrent, htarget, hcur, htar⟩, hnone, hedge⟩
    · cases h
      cases hallowed

theorem evaluate_allowed (h : evaluate engines actions manifest policy context = .ok e)
    (hallowed : isAllowed e.verdict = true) :
    ∃ current target, Compared actions manifest policy context e current target ∧
      unrepresented target (relevantActions engines manifest actions) = [] ∧
      (e.verdict = .allowQualifiedEdge → OneEdge manifest current target) := by
  simp only [evaluate] at h
  have h := of_refusing_branch h rfl hallowed
  have h := of_refusing_branch h rfl hallowed
  have h := of_refusing_branch h rfl hallowed
  split at h
  · cases h
  · have h := of_refusing_branch h rfl hallowed
    exact evaluateQualified_allowed h hallowed

end

/-! ## Rows and tuples -/

/-- A transaction lands on the tuple it was allowed for: every watched row installs the listed
version, every listed package ends there, and an edge verdict has its one edge. -/
structure Lands (engines : Engines) (actions : List Action) (manifest : Manifest) (context : Context)
    (e : Evaluation) (current target : PackageTuple) : Prop where
  rows : ∀ a ∈ actions, watched engines manifest a = true → isRemoval a = false ∧
    (basePackage a.package, a.newVersion) ∈ target.packages.entries
  packages : ∀ entry ∈ target.packages.entries,
    resultingVersions context.installed actions entry.1 = some entry.2
  edge : e.verdict = .allowQualifiedEdge → OneEdge manifest current target

/-- The rows of a watched base package leave the same version behind, or all remove it. -/
def RowsAgree (engines : Engines) (manifest : Manifest) (actions : List Action) : Prop :=
  ∀ a ∈ actions, watched engines manifest a = true →
    ∀ b ∈ actions, basePackage b.package = basePackage a.package → outcome b = outcome a

theorem outcome_eq_some {a : Action} {version : String} :
    outcome a = some version ↔ isRemoval a = false ∧ a.newVersion = version := by
  unfold outcome
  cases isRemoval a <;> simp

/-- An allowed transaction lands on the compared target tuple exactly when the rows of every
watched package agree. -/
theorem allowed_lands_iff {engines : Engines} {actions : List Action} {manifest : Manifest}
    {policy : Policy} {context : Context} {e : Evaluation}
    (h : evaluate engines actions manifest policy context = .ok e)
    (hallowed : e.verdict = .allowQualified ∨ e.verdict = .allowQualifiedEdge) :
    (∃ current target, Compared actions manifest policy context e current target ∧
      Lands engines actions manifest context e current target) ↔
        RowsAgree engines manifest actions := by
  have hverdict : isAllowed e.verdict = true := by
    rcases hallowed with heq | heq <;> rw [heq] <;> rfl
  obtain ⟨current, target, hcompared, hnone, hedge⟩ := evaluate_allowed h hverdict
  obtain ⟨api, hexact⟩ := plannedTuple_eq_ok hcompared.target_eq
  have hpackages := tupleMatches_packages (exactTuple_eq_ok hexact).2
  constructor
  · intro hlands a ha hwatched b hb hbase
    obtain ⟨current', target', -, hlands⟩ := hlands
    have hsame : watched engines manifest b = true := by
      simpa only [watched, hbase] using hwatched
    obtain ⟨hremoval, hlisted⟩ := hlands.rows a ha hwatched
    obtain ⟨hremoval', hlisted'⟩ := hlands.rows b hb hsame
    rw [hbase] at hlisted'
    have hversion := List.inj_on_of_nodup_map target'.packages.nodup hlisted' hlisted rfl
    rw [outcome_eq_some.mpr ⟨hremoval', rfl⟩, outcome_eq_some.mpr ⟨hremoval, rfl⟩,
      (Prod.mk.inj hversion).2]
  · intro hagree
    refine ⟨current, target, hcompared, ?_, hpackages, hedge⟩
    intro a ha hwatched
    obtain ⟨version, hlisted⟩ := unrepresented_eq_nil hnone a (List.mem_filter.mpr ⟨ha, hwatched⟩)
    obtain ⟨b, hb, hbase, hresult⟩ := resultingVersions_touched context.installed ha
    have hlast := hagree a ha hwatched b hb hbase
    have hfinal := hpackages _ hlisted
    rw [hresult, hlast] at hfinal
    obtain ⟨hremoval, rfl⟩ := outcome_eq_some.mp hfinal
    exact ⟨hremoval, hlisted⟩

def lvm2Tuple : PackageTuple where
  id := "current"
  status := some "QUALIFIED"
  requiredTests := []
  profiles := ["dual"]
  api := 14
  runningKernel := some "k"
  scopes := ["san-dataplane"]
  pluginVersions := ["1"]
  packages := ⟨[("lvm2", "2")], by decide⟩

def lvm2Manifest : Manifest := ⟨["lvm2"], [], [lvm2Tuple], [], []⟩

def lvm2Context : Context :=
  ⟨fun name => if name = "lvm2" then some "2" else none, "dual", 14, "k", "1"⟩

/-- The manifest has no patterns and no rules that would ask an engine. -/
def noEngines : Engines := ⟨fun _ _ => false, fun _ _ _ => false⟩

def reinstall : Action := ⟨"lvm2", "2", "amd64", "foreign", "=", "2", "amd64", "foreign", "/lvm2.deb"⟩

def removeForeign : Action := ⟨"lvm2:i386", "2", "i386", "foreign", ">", "-", "-", "-", "**REMOVE**"⟩

def qualifiedOnly : Policy := ⟨some "QUALIFIED_ONLY", none⟩

/-- What the policy says of a plan that keeps the qualified tuple. -/
def unchangedEvaluation (related : List Action) : Evaluation :=
  { tupleVerdict related lvm2Tuple lvm2Tuple .allowQualified with postGateRequired := true }

theorem evaluate_reinstall :
    evaluate noEngines [reinstall] lvm2Manifest qualifiedOnly lvm2Context =
      .ok (unchangedEvaluation [reinstall]) := by
  rfl

theorem evaluate_remove_reinstall :
    evaluate noEngines [removeForeign, reinstall] lvm2Manifest qualifiedOnly lvm2Context =
      .ok (unchangedEvaluation [removeForeign, reinstall]) := by
  rfl

theorem allowed_lands_reinstall :
    (unchangedEvaluation [reinstall]).verdict = .allowQualified ∧ ∃ current target,
      Lands noEngines [reinstall] lvm2Manifest lvm2Context (unchangedEvaluation [reinstall])
        current target := by
  refine ⟨rfl, ?_⟩
  have hagree : RowsAgree noEngines lvm2Manifest [reinstall] := by
    intro a ha _ b hb _
    rw [List.mem_singleton.mp ha, List.mem_singleton.mp hb]
  obtain ⟨current, target, -, hlands⟩ :=
    (allowed_lands_iff evaluate_reinstall (.inl rfl)).mpr hagree
  exact ⟨current, target, hlands⟩

/-- The removal of the foreign architecture is allowed: the reinstallation after it takes its place
among the resulting versions. -/
theorem allowed_removal_behind_reinstall : ¬ ∀ engines actions manifest policy context e,
    evaluate engines actions manifest policy context = .ok e →
      e.verdict = .allowQualified ∨ e.verdict = .allowQualifiedEdge →
        ∃ current target, Compared actions manifest policy context e current target ∧
          Lands engines actions manifest context e current target := by
  intro hall
  obtain ⟨current, target, -, hlands⟩ :=
    hall _ _ _ _ _ _ evaluate_remove_reinstall (.inl rfl)
  have hwatched : watched noEngines lvm2Manifest removeForeign = true := by rfl
  obtain ⟨hkept, -⟩ := hlands.rows removeForeign (by simp) hwatched
  have hremoved : isRemoval removeForeign = true := by rfl
  rw [hremoved] at hkept
  cases hkept

end SharedLvmThin.UpdatePolicy
