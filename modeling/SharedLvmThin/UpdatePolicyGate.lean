import SharedLvmThin.UpdatePolicySettlement

/-! When a dispatched transaction passes its post-update gate. The guard judges a plan by the last
row of each base package and by qualified tuples; the gate judges it by one record of each package
and by every listed tuple. -/

namespace SharedLvmThin.UpdatePolicy
open Perl KeyedLists

/-! ## The expectations -/

/-- The expectations hold exactly what the rows so far want, each package once. -/
structure Holds (expected : Expectations) (rows : List Action) : Prop where
  nodup : (expected.map Prod.fst).Nodup
  mem_iff : ∀ name want, (name, want) ∈ expected ↔
    ∃ row ∈ rows, basePackage row.package = name ∧ wanted row = want

/-- Rows of one base package want the same version and architecture of it. -/
def SameWanted (rows : List Action) : Prop :=
  ∀ a ∈ rows, ∀ b ∈ rows, basePackage a.package = basePackage b.package → wanted a = wanted b

variable {expected result : Expectations} {rows rest : List Action} {row : Action}

theorem Holds.sameWanted (h : Holds expected rows) : SameWanted rows := by
  intro a ha b hb hname
  have ha' := (h.mem_iff _ _).mpr ⟨a, ha, rfl, rfl⟩
  have hb' := (h.mem_iff _ _).mpr ⟨b, hb, rfl, rfl⟩
  have heq := List.inj_on_of_nodup_map h.nodup ha' hb' hname
  exact (Prod.mk.inj heq).2

theorem lookup_eq_none {name : String} :
    expected.lookup name = none ↔ ∀ want, (name, want) ∉ expected := by
  rw [List.lookup_eq_none_iff]
  constructor
  · intro h want hmem
    simpa using h _ hmem
  · intro h entry hentry
    by_contra hname
    have hname : name = entry.1 := by simpa using hname
    exact h entry.2 (hname ▸ hentry)

theorem mem_of_lookup {name : String} {want : Option Wanted} (h : expected.lookup name =
    some want) :
    (name, want) ∈ expected := by
  obtain ⟨before, after, heq, -⟩ := List.lookup_eq_some_iff.mp h
  rw [heq]
  simp

theorem expect_holds (h : Holds expected rows) (hstep : expect expected row = .ok result) :
    Holds result (rows ++ [row]) := by
  simp only [expect, bind_unit_eq_ok] at hstep
  obtain ⟨-, hstep⟩ := hstep
  split at hstep
  · rename_i hlookup
    cases hstep
    have hfresh := lookup_eq_none.mp hlookup
    refine ⟨?_, fun name want => ?_⟩
    · rw [List.map_append, List.nodup_append]
      refine ⟨h.nodup, by simp, ?_⟩
      intro name hname other hother
      obtain ⟨entry, hentry, rfl⟩ := List.mem_map.mp hname
      simp only [List.map_cons, List.map_nil, List.mem_singleton] at hother
      rw [hother]
      intro heq
      exact hfresh entry.2 (heq ▸ hentry)
    · simp only [List.mem_append, List.mem_singleton, h.mem_iff, Prod.mk.injEq]
      constructor
      · rintro (⟨a, ha, hname, hwant⟩ | ⟨rfl, rfl⟩)
        · exact ⟨a, Or.inl ha, hname, hwant⟩
        · exact ⟨row, Or.inr rfl, rfl, rfl⟩
      · rintro ⟨a, ha | rfl, hname, hwant⟩
        · exact Or.inl ⟨a, ha, hname, hwant⟩
        · exact Or.inr ⟨hname.symm, hwant.symm⟩
  · rename_i earlier hlookup
    simp only [bind_unit_eq_ok, dieIf_eq_ok, decide_eq_false_iff_not, not_not] at hstep
    obtain ⟨hsame, hstep⟩ := hstep
    cases hstep
    have hmem := mem_of_lookup hlookup
    refine ⟨h.nodup, fun name want => ?_⟩
    rw [h.mem_iff]
    constructor
    · rintro ⟨a, ha, hname, hwant⟩
      exact ⟨a, List.mem_append_left _ ha, hname, hwant⟩
    · rintro ⟨a, ha, hname, hwant⟩
      obtain ha | ha := List.mem_append.mp ha
      · exact ⟨a, ha, hname, hwant⟩
      · rw [List.mem_singleton.mp ha] at hname hwant
        subst hname
        obtain ⟨b, hb, hbase, hb'⟩ := (h.mem_iff _ _).mp hmem
        exact ⟨b, hb, hbase, hb'.trans (hsame.trans hwant)⟩

theorem expect_isOk (h : Holds expected rows) (hname : basePackage row.package ≠ "")
    (hagree : SameWanted (rows ++ [row])) : ∃ result, expect expected row = .ok result := by
  unfold expect
  simp only [hname, decide_false, dieIf, Bool.false_eq_true, if_false, bind, Except.bind]
  split
  · exact ⟨_, rfl⟩
  · rename_i earlier hlookup
    obtain ⟨a, ha, hbase, rfl⟩ := (h.mem_iff _ _).mp (mem_of_lookup hlookup)
    have hsame : wanted a = wanted row :=
      hagree a (List.mem_append_left _ ha) row (List.mem_append_right _ (List.mem_singleton_self _))
        hbase
    simp [hsame, pure, Except.pure]

/-- The induction is on the rows still to come. -/
theorem expectAll_holds (h : Holds expected rows) (hall : expectAll expected rest = .ok result) :
    Holds result (rows ++ rest) := by
  induction rest generalizing expected rows with
  | nil =>
    cases hall
    rwa [List.append_nil]
  | cons row rest ih =>
    simp only [expectAll, bind_eq_ok] at hall
    obtain ⟨next, hstep, hall⟩ := hall
    have hnext := ih (expect_holds h hstep) hall
    rwa [List.append_assoc] at hnext

theorem expectAll_isOk (h : Holds expected rows)
    (hnames : ∀ row ∈ rest, basePackage row.package ≠ "") (hagree : SameWanted (rows ++ rest)) :
    ∃ result, expectAll expected rest = .ok result := by
  induction rest generalizing expected rows with
  | nil => exact ⟨expected, rfl⟩
  | cons row rest ih =>
    have hfirst : SameWanted (rows ++ [row]) := by
      intro a ha b hb
      have hsub : ∀ x ∈ rows ++ [row], x ∈ rows ++ row :: rest := by
        intro x hx
        simp only [List.mem_append, List.mem_cons, List.not_mem_nil, or_false] at hx ⊢
        tauto
      exact hagree a (hsub a ha) b (hsub b hb)
    obtain ⟨next, hstep⟩ := expect_isOk h (hnames row List.mem_cons_self) hfirst
    obtain ⟨result, hresult⟩ := ih (expect_holds h hstep)
      (fun r hr => hnames r (List.mem_cons_of_mem _ hr)) (by rwa [List.append_assoc])
    exact ⟨result, by simp only [expectAll, hstep, bind, Except.bind]; exact hresult⟩

theorem holds_nil : Holds [] [] := ⟨List.nodup_nil, by simp⟩

theorem expectations_holds (h : expectations rows = .ok result) : Holds result rows := by
  simp only [expectations, bind_unit_eq_ok] at h
  exact expectAll_holds holds_nil h.2

theorem expectations_isOk (hne : rows ≠ []) (hnames : ∀ row ∈ rows, basePackage row.package ≠ "")
    (hagree : SameWanted rows) : ∃ result, expectations rows = .ok result := by
  obtain ⟨result, hresult⟩ := expectAll_isOk holds_nil hnames (by simpa using hagree)
  exact ⟨result, by simp [expectations, dieIf, hne, hresult, bind, Except.bind]⟩

/-! ## The database after the rows -/

theorem mismatch_none {db : Database} {name : String} :
    mismatch db name none = [] ↔ ∀ r ∈ db.named name, r.status ≠ "installed" := by
  unfold mismatch
  split_ifs with hany
  · simp only [List.any_eq_true, decide_eq_true_eq] at hany
    obtain ⟨r, hr, hstatus⟩ := hany
    exact iff_of_false (by simp) fun hall => hall r hr hstatus
  · simp only [List.any_eq_true, decide_eq_true_eq, not_exists, not_and] at hany
    exact iff_of_true rfl hany

theorem mismatch_some {db : Database} {name : String} {want : Wanted} :
    mismatch db name (some want) = [] ↔
      db.named name = [⟨name, want.architecture, want.version, "installed"⟩] := by
  have hname : ∀ r ∈ db.named name, r.package = name := by
    intro r hr
    exact of_decide_eq_true (List.mem_filter.mp hr).2
  simp only [mismatch]
  split
  · rename_i r hnamed
    have hr : r.package = name := hname r (by rw [hnamed]; exact List.mem_singleton_self r)
    rw [hnamed]
    obtain ⟨package, architecture, version, status⟩ := r
    simp only at hr
    split_ifs with hdiffer
    · simp only [List.cons.injEq, DpkgRecord.mk.injEq, and_true, false_iff]
      rintro ⟨-, harch, hversion, hstatus⟩
      simp [harch, hversion, hstatus] at hdiffer
    · simp only [not_or, not_not] at hdiffer
      simp [hr, hdiffer]
  · rename_i hmany
    refine iff_of_false (by simp) fun hnamed => ?_
    exact hmany _ hnamed

theorem exactPackageSettlement_eq_nil {db : Database} :
    exactPackageSettlement db expected = [] ↔
      ∀ name want, (name, want) ∈ expected → mismatch db name want = [] := by
  simp only [exactPackageSettlement, List.flatMap_eq_nil_iff, mem_sortBy, Prod.forall]

/-- Every record that a row leaves to be judged belongs to an architecture the plan names. -/
def NoStray (actions : List Action) (before : Database) : Prop :=
  ∀ record ∈ before.records, ∀ a ∈ actions, basePackage a.package = record.package →
    (isRemoval a = true → record.status = "installed") → ∃ b ∈ actions, b.addresses record

section
variable {actions : List Action} {before after : Database}

theorem mem_named {db : Database} {name : String} {r : DpkgRecord} :
    r ∈ db.named name ↔ r ∈ db.records ∧ r.package = name := by
  simp [Database.named]

theorem Database.eq_of_key (db : Database) {r r' : DpkgRecord} (hr : r ∈ db.records)
    (hr' : r' ∈ db.records) (hpackage : r.package = r'.package)
    (harch : r.architecture = r'.architecture) : r = r' :=
  List.inj_on_of_nodup_map db.nodup hr hr' (Prod.ext hpackage harch)

theorem Database.named_nodup (db : Database) (name : String) : (db.named name).Nodup :=
  (List.Nodup.of_map _ db.nodup).filter _

theorem isRemoval_of_wanted {a b : Action} (h : wanted a = wanted b) : isRemoval a =
    isRemoval b := by
  unfold wanted at h
  cases ha : isRemoval a <;> cases hb : isRemoval b <;> simp_all

theorem newArch_of_wanted {a b : Action} (h : wanted a = wanted b) (ha : isRemoval a = false) :
    a.newVersion = b.newVersion ∧ a.newArch = b.newArch := by
  have hb : isRemoval b = false := isRemoval_of_wanted h ▸ ha
  simpa [wanted, ha, hb] using h

/-- After its rows an installed package has the one record they name, if no other was there. -/
theorem named_installed (h : Executes actions before after) (hagree : SameWanted actions) {a :
    Action}
    (ha : a ∈ actions) (hkeep : isRemoval a = false) :
    after.named (basePackage a.package) =
        [⟨basePackage a.package, a.newArch, a.newVersion, "installed"⟩] ↔
      ∀ record ∈ before.records, record.package = basePackage a.package →
        ∃ b ∈ actions, b.addresses record := by
  have hrecord := h.installed a ha hkeep
  constructor
  · intro hnamed record hbefore hpackage
    by_contra hnone
    have hafter : record ∈ after.records :=
      (h.others record fun b hb haddr => hnone ⟨b, hb, haddr⟩).mpr hbefore
    have hmem : record ∈ after.named (basePackage a.package) := mem_named.mpr ⟨hafter, hpackage⟩
    rw [hnamed, List.mem_singleton] at hmem
    exact hnone ⟨a, ha, by rw [hmem], Or.inr (by rw [hmem])⟩
  · intro hall
    have hsingle : ∀ record ∈ after.named (basePackage a.package),
        record = ⟨basePackage a.package, a.newArch, a.newVersion, "installed"⟩ := by
      intro record hmem
      obtain ⟨hafter, hpackage⟩ := mem_named.mp hmem
      have haddressed : ∃ b ∈ actions, b.addresses record := by
        by_contra hnone
        have hbefore := (h.others record fun b hb haddr => hnone ⟨b, hb, haddr⟩).mp hafter
        exact hnone (hall record hbefore hpackage)
      obtain ⟨b, hb, hbase, harch⟩ := haddressed
      have hwanted := hagree a ha b hb (hpackage.symm.trans hbase.symm)
      have hkeepb : isRemoval b = false := isRemoval_of_wanted hwanted ▸ hkeep
      have hnew : record.architecture = a.newArch := by
        rw [(newArch_of_wanted hwanted hkeep).2]
        by_contra hother
        have hold := harch.resolve_right hother
        exact h.moved b hb hkeepb (fun heq => hother (hold.trans heq)) record hafter hbase.symm hold
      exact after.eq_of_key hafter hrecord hpackage hnew
    have hmem := mem_named.mpr ⟨hrecord, rfl⟩
    refine List.perm_singleton.mp ((List.perm_ext_iff_of_nodup (after.named_nodup _)
      (List.nodup_singleton _)).mpr fun record => ?_)
    rw [List.mem_singleton]
    exact ⟨hsingle record, fun heq => heq ▸ hmem⟩

theorem named_removed (h : Executes actions before after) (hagree : SameWanted actions) {a : Action}
    (ha : a ∈ actions) (hgone : isRemoval a = true) :
    (∀ r ∈ after.named (basePackage a.package), r.status ≠ "installed") ↔
      ∀ record ∈ before.records, record.package = basePackage a.package →
        record.status = "installed" → ∃ b ∈ actions, b.addresses record := by
  constructor
  · intro hnone record hbefore hpackage hstatus
    by_contra hstray
    have hafter := (h.others record fun b hb haddr => hstray ⟨b, hb, haddr⟩).mpr hbefore
    exact hnone record (mem_named.mpr ⟨hafter, hpackage⟩) hstatus
  · intro hall record hmem hstatus
    obtain ⟨hafter, hpackage⟩ := mem_named.mp hmem
    have haddressed : ∃ b ∈ actions, b.addresses record := by
      by_contra hnone
      have hbefore := (h.others record fun b hb haddr => hnone ⟨b, hb, haddr⟩).mp hafter
      exact hnone (hall record hbefore hpackage hstatus)
    obtain ⟨b, hb, haddr⟩ := haddressed
    have hwanted := hagree a ha b hb (hpackage.symm.trans haddr.1.symm)
    exact h.removed b hb (isRemoval_of_wanted hwanted ▸ hgone) record hafter haddr hstatus

/-- What one row's package owes the settlement, in terms of the database before. -/
theorem mismatch_row (h : Executes actions before after) (hagree : SameWanted actions) {a : Action}
    (ha : a ∈ actions) : mismatch after (basePackage a.package) (wanted a) = [] ↔
      ∀ record ∈ before.records, basePackage a.package = record.package →
        (isRemoval a = true → record.status = "installed") → ∃ b ∈ actions, b.addresses record := by
  cases hremoval : isRemoval a with
  | false =>
    have hwanted : wanted a = some ⟨a.newVersion, a.newArch⟩ := by simp [wanted, hremoval]
    rw [hwanted, mismatch_some, named_installed h hagree ha hremoval]
    exact forall₂_congr fun record _ => ⟨fun hr hname _ => hr hname.symm,
      fun hr hname => hr hname.symm (by simp)⟩
  | true =>
    have hwanted : wanted a = none := by simp [wanted, hremoval]
    rw [hwanted, mismatch_none, named_removed h hagree ha hremoval]
    exact forall₂_congr fun record _ => ⟨fun hr hname hstatus => hr hname.symm (hstatus rfl),
      fun hr hname hstatus => hr hname.symm fun _ => hstatus⟩

/-- The expectations are built and met exactly when the rows of each package agree and no other
architecture of it was there. -/
theorem settlement_iff (h : Executes actions before after) (hne : actions ≠ [])
    (hnames : ∀ row ∈ actions, basePackage row.package ≠ "") :
    (∃ expected, expectations actions = .ok expected ∧ exactPackageSettlement after expected = []) ↔
      SameWanted actions ∧ NoStray actions before := by
  constructor
  · rintro ⟨expected, hexpected, hsettled⟩
    have hholds := expectations_holds hexpected
    refine ⟨hholds.sameWanted, ?_⟩
    intro record hrecord a ha hname hstatus
    have hentry := (hholds.mem_iff _ _).mpr ⟨a, ha, rfl, rfl⟩
    have hnone := exactPackageSettlement_eq_nil.mp hsettled _ _ hentry
    exact (mismatch_row h hholds.sameWanted ha).mp hnone record hrecord hname hstatus
  · rintro ⟨hagree, hstray⟩
    obtain ⟨expected, hexpected⟩ := expectations_isOk hne hnames hagree
    refine ⟨expected, hexpected, exactPackageSettlement_eq_nil.mpr fun name want hentry => ?_⟩
    obtain ⟨a, ha, rfl, rfl⟩ := ((expectations_holds hexpected).mem_iff _ _).mp hentry
    exact (mismatch_row h hagree ha).mpr fun record hrecord => hstray record hrecord a ha

/-! ## Versions after the rows -/

theorem resultingVersions_cons {installed : Versions} {a : Action} :
    resultingVersions installed (a :: actions) =
      resultingVersions (Function.update installed (basePackage a.package) (outcome a)) actions :=
  rfl

theorem resultingVersions_untouched {installed : Versions} {name : String}
    (h : ∀ a ∈ actions, basePackage a.package ≠ name) :
    resultingVersions installed actions name = installed name := by
  induction actions generalizing installed with
  | nil => rfl
  | cons a rest ih =>
    rw [resultingVersions_cons, ih fun b hb => h b (List.mem_cons_of_mem _ hb),
      Function.update_of_ne (h a List.mem_cons_self).symm]

/-- The version of a package depends on what was installed of that package only. -/
theorem resultingVersions_congr {installed installed' : Versions} {name : String}
    (h : installed name = installed' name) :
    resultingVersions installed actions name = resultingVersions installed' actions name := by
  induction actions generalizing installed installed' with
  | nil => exact h
  | cons a rest ih =>
    rw [resultingVersions_cons, resultingVersions_cons]
    refine ih ?_
    by_cases hname : name = basePackage a.package
    · rw [hname, Function.update_self, Function.update_self]
    · rw [Function.update_of_ne hname, Function.update_of_ne hname, h]

theorem Database.version_congr {db db' : Database} {name : String}
    (h : (db.named name).Perm (db'.named name)) : db.version name = db'.version name := by
  unfold Database.version
  rcases hnamed : db.named name with _ | ⟨r, _ | ⟨r', rest⟩⟩
  · rw [hnamed] at h
    rw [h.nil_eq]
  · rw [hnamed] at h
    rw [List.perm_singleton.mp h.symm]
  · rw [hnamed] at h
    have hlength := h.length_eq
    rcases hnamed' : db'.named name with _ | ⟨s, _ | ⟨s', rest'⟩⟩
    · simp [hnamed'] at hlength
    · simp [hnamed'] at hlength
    · rfl

theorem version_after (h : Executes actions before after) (hagree : SameWanted actions)
    (hstray : NoStray actions before) (name : String) :
    after.version name = resultingVersions before.version actions name := by
  by_cases htouched : ∃ a ∈ actions, basePackage a.package = name
  · obtain ⟨a, ha, rfl⟩ := htouched
    obtain ⟨b, hb, hbase, hresult⟩ := resultingVersions_touched before.version ha
    have hnone : mismatch after (basePackage b.package) (wanted b) = [] :=
      (mismatch_row h hagree hb).mpr fun record hrecord => hstray record hrecord b hb
    rw [hresult, ← hbase, Database.version]
    cases hremoval : isRemoval b with
    | true =>
      have hgone := mismatch_none.mp (by simpa [wanted, hremoval] using hnone)
      rw [outcome, if_pos hremoval]
      split
      · rename_i record hnamed
        rw [if_neg (hgone record (by rw [hnamed]; exact List.mem_singleton_self record))]
      · rfl
    | false =>
      have hthere := mismatch_some.mp (by simpa [wanted, hremoval] using hnone)
      rw [hthere, outcome_eq_some.mpr ⟨hremoval, rfl⟩]
      rfl
  · have huntouched : ∀ a ∈ actions, basePackage a.package ≠ name := fun a ha heq =>
      htouched ⟨a, ha, heq⟩
    rw [resultingVersions_untouched huntouched]
    refine Database.version_congr ((List.perm_ext_iff_of_nodup (after.named_nodup _)
      (before.named_nodup _)).mpr fun record => ?_)
    rw [mem_named, mem_named]
    refine and_congr_left fun hname => h.others record fun a ha haddr => ?_
    exact huntouched a ha (haddr.1.trans hname)

end

/-! ## The runtime tuple -/

section
variable {manifest : Manifest} {node : Node} {target : PackageTuple}

def watchedVersions (manifest : Manifest) (db : Database) : Versions := fun name =>
  if name ∈ manifest.watchedPackages then db.version name else none

theorem atMostOne_singleton {row : PackageTuple} {message : String} :
    atMostOne [row] message = .ok (some row) := rfl

/-- The gate accepts the one listed tuple of the node, if its status is admissible. -/
theorem assertListedRuntimeTuple_iff :
    assertListedRuntimeTuple manifest node (some (pluginPackage node.flavor))
        (node.database.version (pluginPackage node.flavor)) = .ok target ↔
      node.flavor ∈ profiles ∧
        manifest.tuples.filter (observedMatches (watchedVersions manifest node.database) node.flavor
          node.api node.runningKernel (node.database.version (pluginPackage node.flavor))) =
            [target] ∧
        target.status ∈ [some "EXACT_LAB_TESTED", some "RETEST_REQUIRED"] := by
  simp only [assertListedRuntimeTuple, bind_eq_ok, dieIf_eq_ok, exists_unit]
  constructor
  · rintro ⟨hflavor, -, -, observed, hobserved, hresult⟩
    split at hresult
    · cases hresult
    · rename_i row
      simp only [bind_unit_eq_ok, dieIf_eq_ok, pure_eq_ok] at hresult
      obtain ⟨hstatus, rfl⟩ := hresult
      exact ⟨by simpa using hflavor, atMostOne_eq_ok hobserved,
        not_not.mp (of_decide_eq_false hstatus)⟩
  · rintro ⟨hflavor, hrows, hstatus⟩
    refine ⟨by simpa using hflavor, by simp, by simp, some target, ?_, ?_⟩
    · rw [observedTuple]
      exact (congrArg (atMostOne · _) hrows).trans atMostOne_singleton
    · simp only [bind_unit_eq_ok, dieIf_eq_ok, pure_eq_ok]
      exact ⟨decide_eq_false (not_not.mpr hstatus), trivial⟩

end

/-! ## The gate -/

/-- A qualified transaction that the guard dispatched, and the node after dpkg executed it. -/
structure Dispatched (engines : Engines) (manifest : Catalogue) (discovered : List String)
    (actions : List Action) (policy : Policy) (context : Context) (before after : Node)
    (target : PackageTuple) : Prop where
  rows : ∀ row ∈ actions, isProtocolRow row = true
  catalogue : validateCandidateCatalogue manifest = .ok ()
  mode : policy.mode = some "QUALIFIED_AUTO"
  observes : Observes before (manifest.extend discovered) context
  allowed : ∃ e, evaluate engines actions (manifest.extend discovered) policy context = .ok e ∧
    isAllowed e.verdict = true
  planned : plannedTuple (manifest.extend discovered) (resultingVersions context.installed actions)
    (queryOf policy context) = .ok (some target)
  executes : Executes actions before.database after.database
  api : after.api = target.api
  runningKernel : after.runningKernel = before.runningKernel

/-- When the gate can pass. The rows of a package agree and name every record of it; the target is
an exact lab result; it lists the plugin version that the plan leaves; and no other catalogue row,
of whatever status, tests and scopes, lists the same runtime. -/
structure Settleable (manifest : Manifest) (actions : List Action) (before : Node) (flavor : String)
    (target : PackageTuple) : Prop where
  agree : SameWanted actions
  alone : NoStray actions before.database
  status : target.status = some "EXACT_LAB_TESTED"
  profile : flavor ∈ target.profiles
  plugin : (resultingVersions before.database.version actions (pluginPackage flavor)).any
    (· ∈ target.pluginVersions)
  sole : ∀ item ∈ manifest.tuples, item ≠ target →
    observedMatches (resultingVersions before.database.version actions) flavor target.api
      before.runningKernel (resultingVersions before.database.version actions
        (pluginPackage flavor))
      item = false

section
variable {engines : Engines} {manifest : Catalogue} {discovered : List String}
  {actions : List Action} {policy : Policy} {context : Context} {before after : Node}
  {target : PackageTuple}

theorem Manifest.extend_tuples (manifest : Manifest) :
    (manifest.extend discovered).tuples = manifest.tuples := by
  unfold Manifest.extend
  split_ifs <;> rfl

theorem Manifest.mem_extend {manifest : Manifest} {name : String}
    (h : name ∈ manifest.watchedPackages) :
        name ∈ (manifest.extend discovered).watchedPackages := by
  unfold Manifest.extend
  split_ifs
  · exact h
  · rw [mem_sortBy, List.mem_dedup]
    exact List.mem_append_left _ h

/-- What the catalogue check promises of a row: known profiles, and packages that are observed. -/
theorem catalogue_row (h : validateCandidateCatalogue manifest = .ok ()) {row : PackageTuple}
    (hrow : row ∈ manifest.tuples) : (∀ p ∈ row.profiles, p ∈ profiles) ∧
      row.packages.entries ≠ [] ∧
        ∀ entry ∈ row.packages.entries, entry.1 ∈ manifest.watchedPackages := by
  simp only [validateCandidateCatalogue, bind_eq_ok, exists_unit, forEach_eq_ok, dieIf_eq_ok,
    Bool.not_eq_eq_eq_not, Bool.not_false, List.all_eq_true, decide_eq_true_eq] at h
  obtain ⟨-, -, hrows⟩ := h
  obtain ⟨hform, hwatched⟩ := hrows row hrow
  simp only [isCatalogueRow, Bool.and_eq_true, List.all_eq_true, decide_eq_true_eq] at hform
  exact ⟨hform.1.1.1.1.2, hform.1.2, hwatched⟩

theorem basePackage_ne_empty {row : Action} (h : isProtocolRow row = true) :
    basePackage row.package ≠ "" := by
  simp only [isProtocolRow, isPackage, Bool.and_eq_true] at h
  have hname := h.1.1.1.1.1.1.1.1.1
  intro hempty
  rw [hempty] at hname
  cases hname

theorem Dispatched.actions_ne_nil
    (h : Dispatched engines manifest discovered actions policy context before after target) :
    actions ≠ [] := by
  rintro rfl
  obtain ⟨e, heval, hallowed⟩ := h.allowed
  have hrelated : relevantActions engines (manifest.extend discovered) [] = [] := rfl
  simp only [evaluate, hrelated, if_true] at heval
  cases heval
  cases hallowed

/-- The guard saw one qualified row of the catalogue at the landing. -/
structure Landing (manifest : Catalogue) (landed : Versions) (before : Node) (target :
  PackageTuple) :
    Prop where
  mem : target ∈ manifest.tuples
  once : manifest.tuples.filter (· = target) = [target]
  status : isQualified target.status = true
  runningKernel : target.runningKernel = some before.runningKernel
  packages : ∀ entry ∈ target.packages.entries, landed entry.1 = some entry.2

theorem Dispatched.landing
    (h : Dispatched engines manifest discovered actions policy context before after target) :
    Landing manifest (resultingVersions before.database.version actions) before target := by
  obtain ⟨api, hexact⟩ := plannedTuple_eq_ok h.planned
  obtain ⟨hmem, hmatch⟩ := exactTuple_eq_ok hexact
  have hfilter := atMostOne_eq_ok hexact
  rw [Manifest.extend_tuples] at hmem hfilter
  have hentries := tupleMatches_packages hmatch
  have honce : manifest.tuples.filter (· = target) = [target] := by
    have hsub : manifest.tuples.filter (· = target) = ([target] : List PackageTuple).filter
        (· = target) := by
      rw [← hfilter, List.filter_filter]
      refine List.filter_congr fun item _ => ?_
      by_cases hitem : item = target
      · rw [hitem, hmatch]
        simp
      · simp [hitem]
    simpa using hsub
  simp only [tupleMatches, Bool.and_eq_true, decide_eq_true_eq] at hmatch
  have hkernel : target.runningKernel = some before.runningKernel := by
    rw [hmatch.1.1.1.1.2]
    exact congrArg some h.observes.runningKernel
  refine ⟨hmem, honce, hmatch.1.1.1.1.1.1.1.1, hkernel, fun entry hentry => ?_⟩
  have hwatched := (catalogue_row h.catalogue hmem).2.2 entry hentry
  rw [← hentries entry hentry]
  refine resultingVersions_congr ?_
  rw [h.observes.installed, if_pos (Manifest.mem_extend hwatched)]

/-- The gate reads the landing that the rows compute. -/
theorem Dispatched.observed
    (h : Dispatched engines manifest discovered actions policy context before after target)
    (hagree : SameWanted actions) (hstray : NoStray actions before.database) {item : PackageTuple}
    (hitem : item ∈ manifest.tuples) :
    observedMatches (watchedVersions manifest.toManifest after.database) after.flavor after.api
        after.runningKernel (after.database.version (pluginPackage after.flavor)) item =
      observedMatches (resultingVersions before.database.version actions) after.flavor target.api
        before.runningKernel
        (resultingVersions before.database.version actions (pluginPackage after.flavor)) item := by
  have hversions : ∀ name, after.database.version name =
      resultingVersions before.database.version actions name :=
    version_after h.executes hagree hstray
  have hall : item.packages.entries.all (fun entry =>
        watchedVersions manifest.toManifest after.database entry.1 = some entry.2) =
      item.packages.entries.all (fun entry =>
        resultingVersions before.database.version actions entry.1 = some entry.2) := by
    rw [Bool.eq_iff_iff, List.all_eq_true, List.all_eq_true]
    refine forall₂_congr fun entry hentry => ?_
    have hwatched := (catalogue_row h.catalogue hitem).2.2 entry hentry
    rw [watchedVersions, if_pos hwatched, hversions]
  unfold observedMatches
  rw [hall, hversions, h.api, h.runningKernel]

/-- A dispatched transaction that dpkg executed passes its gate exactly when it is settleable. -/
theorem dispatched_settles_iff
    (h : Dispatched engines manifest discovered actions policy context before after target) :
    Settles manifest.toManifest actions after target ↔
      Settleable manifest.toManifest actions before after.flavor target := by
  have hland := h.landing
  have hnames : ∀ row ∈ actions, basePackage row.package ≠ "" := fun row hrow =>
    basePackage_ne_empty (h.rows row hrow)
  have hsettle := settlement_iff h.executes h.actions_ne_nil hnames
  obtain ⟨hprofiles, hentries, -⟩ := catalogue_row h.catalogue hland.mem
  have htarget := hland.packages
  constructor
  · rintro ⟨expected, hexpected, hsettled, haccepted⟩
    obtain ⟨hagree, hstray⟩ := hsettle.mp ⟨expected, hexpected, hsettled⟩
    obtain ⟨-, hrows, hstatus⟩ := assertListedRuntimeTuple_iff.mp haccepted
    have hmatch := (List.mem_filter.mp (hrows ▸ List.mem_singleton_self target)).2
    rw [h.observed hagree hstray hland.mem] at hmatch
    simp only [observedMatches, Bool.and_eq_true, decide_eq_true_eq] at hmatch
    refine ⟨hagree, hstray, ?_, hmatch.1.1.1.1.1, hmatch.1.1.2, fun item hitem hother => ?_⟩
    · have hqualified := hland.status
      simp only [List.mem_cons, List.not_mem_nil, or_false] at hstatus
      rcases hstatus with hstatus | hstatus
      · exact hstatus
      · rw [hstatus] at hqualified
        exact absurd hqualified (by decide)
    · rw [← h.observed hagree hstray hitem, Bool.eq_false_iff]
      intro hlisted
      have hmem := List.mem_filter.mpr ⟨hitem, hlisted⟩
      rw [hrows, List.mem_singleton] at hmem
      exact hother hmem
  · rintro ⟨hagree, hstray, hstatus, hprofile, hplugin, hsole⟩
    obtain ⟨expected, hexpected, hsettled⟩ := hsettle.mpr ⟨hagree, hstray⟩
    refine ⟨expected, hexpected, hsettled, assertListedRuntimeTuple_iff.mpr
      ⟨hprofiles _ hprofile, ?_, by simp [hstatus]⟩⟩
    rw [← hland.once]
    refine List.filter_congr fun item hitem => ?_
    rw [h.observed hagree hstray hitem]
    by_cases hother : item = target
    · have hall : target.packages.entries.all (fun entry =>
          resultingVersions before.database.version actions entry.1 = some entry.2) = true := by
        rw [List.all_eq_true]
        exact fun entry hentry => decide_eq_true (htarget entry hentry)
      rw [hother]
      simp [observedMatches, hprofile, hplugin, hland.runningKernel, hentries, hall]
    · rw [hsole item hitem hother, decide_eq_false hother]

end

def listedTuple (status : String) : PackageTuple := { lvm2Tuple with status := some status }

def lvm2Catalogue (status : String) : Catalogue where
  toManifest := { lvm2Manifest with tuples := [listedTuple status] }
  schema := 1
  catalogue := "pve-qualified-tuples-v1"

def lvm2Node : Node where
  database := ⟨[⟨"lvm2", "amd64", "2", "installed"⟩,
    ⟨"pve-sharedlvmthin", "all", "1", "installed"⟩],
    by decide⟩
  flavor := "dual"
  api := 14
  runningKernel := "k"

def qualifiedAuto : Policy := ⟨some "QUALIFIED_AUTO", none⟩

theorem executes_reinstall : Executes [reinstall] lvm2Node.database lvm2Node.database where
  installed := by
    intro row hrow _
    rw [List.mem_singleton.mp hrow]
    decide
  removed := by
    intro row hrow hremoval
    rw [List.mem_singleton.mp hrow] at hremoval
    cases hremoval
  moved := by
    intro row hrow _ hmoved
    rw [List.mem_singleton.mp hrow] at hmoved
    exact absurd rfl hmoved
  others _ _ := Iff.rfl

theorem dispatched_reinstall {status : String}
    (hstatus : status ∈ ["QUALIFIED", "EXACT_LAB_TESTED"]) :
    Dispatched noEngines (lvm2Catalogue status) [] [reinstall] qualifiedAuto lvm2Context lvm2Node
      lvm2Node (listedTuple status) := by
  have hobserves : Observes lvm2Node ((lvm2Catalogue status).extend []) lvm2Context := by
    refine ⟨fun name => ?_, rfl, rfl, rfl, rfl⟩
    by_cases hname : name = "lvm2"
    · rw [hname]
      rfl
    · have hwatched : name ∉ ((lvm2Catalogue status).extend []).watchedPackages :=
        fun hmem => hname (List.mem_singleton.mp hmem)
      rw [if_neg hwatched]
      exact if_neg hname
  have hrows : ∀ row ∈ [reinstall], isProtocolRow row = true := by
    intro row hrow
    rw [List.mem_singleton.mp hrow]
    decide
  simp only [List.mem_cons, List.not_mem_nil, or_false] at hstatus
  rcases hstatus with rfl | rfl
  · exact ⟨hrows, rfl, rfl, hobserves, ⟨_, rfl, rfl⟩, rfl, executes_reinstall, rfl, rfl⟩
  · exact ⟨hrows, rfl, rfl, hobserves, ⟨_, rfl, rfl⟩, rfl, executes_reinstall, rfl, rfl⟩

theorem settleable_reinstall : Settleable (lvm2Catalogue "EXACT_LAB_TESTED").toManifest [reinstall]
    lvm2Node "dual" (listedTuple "EXACT_LAB_TESTED") where
  agree := by
    intro a ha b hb _
    rw [List.mem_singleton.mp ha, List.mem_singleton.mp hb]
  alone := by
    intro record hrecord a ha hname _
    rw [List.mem_singleton.mp ha] at hname
    refine ⟨reinstall, List.mem_singleton_self _, hname, ?_⟩
    simp only [lvm2Node, List.mem_cons, List.not_mem_nil, or_false] at hrecord
    rcases hrecord with rfl | rfl
    · exact .inl rfl
    · exact absurd hname (by decide)
  status := rfl
  profile := List.mem_singleton_self _
  plugin := rfl
  sole := by
    intro item hitem hother
    exact absurd (List.mem_singleton.mp hitem) hother

theorem dispatched_settles_reinstall :
    Settles (lvm2Catalogue "EXACT_LAB_TESTED").toManifest [reinstall] lvm2Node
      (listedTuple "EXACT_LAB_TESTED") :=
  (dispatched_settles_iff (dispatched_reinstall (by decide))).mpr settleable_reinstall

/-- The guard dispatches onto a tuple of status QUALIFIED, which the gate does not admit. -/
theorem qualified_target_not_settled : ¬ ∀ engines manifest discovered actions policy context before
    after target,
    Dispatched engines manifest discovered actions policy context before after target →
      Settles manifest.toManifest actions after target := by
  intro hall
  obtain ⟨expected, -, -, haccepted⟩ := hall _ _ _ _ _ _ _ _ _
    (@dispatched_reinstall "QUALIFIED" (by decide))
  have hstatus := (assertListedRuntimeTuple_iff.mp haccepted).2.2
  exact absurd hstatus (by decide)

end SharedLvmThin.UpdatePolicy
