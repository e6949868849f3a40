import SharedLvmThin.ManualAuthorization

/-! Where the guard and the command agree on a context. They name the same watched packages; the
guard reads the installed record of each, the command every record. So a refused plan can be
authorized and dispatched exactly when no watched installed package has a further record. -/

namespace SharedLvmThin.ManualAuthorization
open Perl KeyedLists Effects UpdatePolicy

/-! ## Watched packages -/

section
variable {engines : Engines} {manifest : SourceManifest} {actions : List Action}

theorem watched_eq (m : Manifest) (action : Action) :
    watched engines m action = watchedName engines m action.package := rfl

theorem mem_extend {m : Manifest} {discovered : List String} {name : String} :
    name ∈ (m.extend discovered).watchedPackages ↔
      name ∈ m.watchedPackages ∨ name ∈ discovered := by
  unfold Manifest.extend
  split
  · rename_i h
    simp [h]
  · simp

/-- Only the set of the discovered names matters. -/
theorem extend_congr {m : Manifest} {first second : List String}
    (h : ∀ name, name ∈ first ↔ name ∈ second) : m.extend first = m.extend second := by
  have hnil : first = [] ↔ second = [] := by
    simp only [List.eq_nil_iff_forall_not_mem, h]
  unfold Manifest.extend
  by_cases hfirst : first = []
  · rw [if_pos hfirst, if_pos (hnil.mp hfirst)]
  · rw [if_neg hfirst, if_neg (mt hnil.mpr hfirst)]
    congr 1
    rw [sortBy_eq_iff (by simpa using List.nodup_dedup _)]
    refine (List.perm_ext_iff_of_nodup (List.nodup_dedup _) (List.nodup_dedup _)).mpr fun name => ?_
    simp [h]

/-- A discovered name is the base name of a row that the catalogue does not watch. -/
theorem mem_discover {payloadSource : Action → Except String String}
    {discovered result : List String} {sources : List (String × String)}
    (h : discover engines manifest payloadSource discovered sources actions = .ok result) :
    ∀ name ∈ result, name ∈ discovered ∨ ∃ action ∈ actions,
      basePackage action.package = name ∧ watched engines manifest.toManifest action = false := by
  induction actions generalizing discovered sources with
  | nil =>
    cases h
    exact fun name hname => .inl hname
  | cons action rest ih =>
    intro name hname
    rw [discover] at h
    dsimp only at h
    split at h
    · exact (ih h name hname).imp_right fun ⟨a, ha, hbase⟩ => ⟨a, List.mem_cons_of_mem _ ha, hbase⟩
    · rename_i hfresh
      simp only [bind_eq_ok, exists_unit] at h
      obtain ⟨source, -, -, h⟩ := h
      rcases ih h name hname with hmem | ⟨a, ha, hbase⟩
      · split at hmem
        · rcases List.mem_cons.mp hmem with rfl | hmem
          · refine .inr ⟨action, List.mem_cons_self, rfl, ?_⟩
            simpa using (not_or.mp hfresh).2
          · exact .inl hmem
        · exact .inl hmem
      · exact .inr ⟨a, List.mem_cons_of_mem _ ha, hbase⟩

theorem promote_congr {first second : List String} (h : ∀ name, name ∈ first ↔ name ∈ second) :
    manifest.promote first = manifest.promote second := by
  simp only [SourceManifest.promote, extend_congr h]

theorem watchedName_promote {discovered : List String} {name : String} :
    watchedName engines (manifest.promote discovered).toManifest name = true ↔
      watchedName engines manifest.toManifest name = true ∨ basePackage name ∈ discovered := by
  have hpatterns : (manifest.toManifest.extend discovered).watchedPackagePatterns =
      manifest.watchedPackagePatterns := by
    unfold Manifest.extend
    split <;> rfl
  simp only [watchedName, SourceManifest.promote, Bool.or_eq_true, decide_eq_true_eq, mem_extend,
    hpatterns]
  tauto

/-- The command rediscovers from the proposal what the guard discovered in the plan. -/
theorem proposedManifest_eq {world : Surroundings} {extended : SourceManifest}
    (h : extendManifestForSourceFamilies engines world.manifest world.payloadSource actions =
      .ok extended) :
    proposedManifest engines world
      (packagesOf (relevantActions engines extended.toManifest actions)) = extended := by
  simp only [extendManifestForSourceFamilies, bind_eq_ok, pure_eq_ok] at h
  obtain ⟨discovered, hdiscover, rfl⟩ := h
  have hrows : ∀ name ∈ discovered, ∃ action ∈ actions, basePackage action.package = name ∧
      watched engines world.manifest.toManifest action = false := by
    intro name hname
    obtain ⟨action, haction, hbase⟩ := (mem_discover hdiscover name hname).resolve_left
      List.not_mem_nil
    refine ⟨action, ?_, hbase⟩
    rcases List.mem_append.mp haction with h | h
    · exact (List.mem_filter.mp h).1
    · exact (List.mem_filter.mp h).1
  apply promote_congr
  intro name
  simp only [packagesOf, List.mem_map, List.mem_filter, mem_sortBy, List.mem_dedup,
    Bool.not_eq_true', relevantActions, watched_eq, watchedName_promote]
  constructor
  · rintro ⟨package, ⟨⟨row, ⟨-, hwatched⟩, rfl⟩, hfresh⟩, rfl⟩
    rw [hfresh] at hwatched
    simpa using hwatched
  · intro hname
    obtain ⟨action, haction, rfl, hfresh⟩ := hrows name hname
    exact ⟨action.package, ⟨⟨action, ⟨haction, .inr hname⟩, rfl⟩, hfresh⟩, rfl⟩

end

/-! ## The dpkg inventory -/

section
variable {engines : Engines} {manifest : Manifest} {inventory records : List InventoryRow}

theorem collectState_eq_ok {keep : InventoryRow → Bool} {seen : List String} :
    collectState keep seen inventory = .ok records ↔ records = inventory.filter keep ∧
      (records.map fun row => row.package).Nodup ∧ ∀ row ∈ records, row.package ∉ seen := by
  induction inventory generalizing seen records with
  | nil =>
    simp only [collectState, Except.ok.injEq, List.filter_nil]
    constructor
    · rintro rfl
      simp
    · exact fun h => h.1.symm
  | cons row rest ih =>
    cases hkeep : keep row with
    | false =>
      rw [collectState, if_neg (by simp [hkeep]), ih, List.filter_cons_of_neg (by simp [hkeep])]
    | true =>
      rw [collectState, if_pos hkeep, List.filter_cons_of_pos hkeep]
      simp only [bind_eq_ok, exists_unit, dieIf_eq_ok, decide_eq_false_iff_not, pure_eq_ok, ih]
      constructor
      · rintro ⟨hseen, found, ⟨rfl, hnodup, hfresh⟩, rfl⟩
        refine ⟨rfl, ?_, ?_⟩
        · rw [List.map_cons, List.nodup_cons]
          refine ⟨?_, hnodup⟩
          rintro hmem
          obtain ⟨other, hother, heq⟩ := List.mem_map.mp hmem
          exact hfresh other hother (heq ▸ List.mem_cons_self)
        · intro other hother
          rcases List.mem_cons.mp hother with rfl | hother
          · exact hseen
          · exact fun h => hfresh other hother (List.mem_cons_of_mem _ h)
      · rintro ⟨rfl, hnodup, hfresh⟩
        rw [List.map_cons, List.nodup_cons] at hnodup
        refine ⟨hfresh row List.mem_cons_self, rest.filter keep, ⟨rfl, hnodup.2, ?_⟩, rfl⟩
        intro other hother hmem
        rcases List.mem_cons.mp hmem with heq | hmem
        · exact hnodup.1 (heq ▸ List.mem_map_of_mem hother)
        · exact hfresh other (List.mem_cons_of_mem _ hother) hmem

theorem mem_watchedInstalled {name : String} : name ∈ watchedInstalled engines manifest inventory ↔
    ∃ row ∈ inventory, row.isInstalled = true ∧ row.package = name ∧
      watchedName engines manifest name = true := by
  simp only [watchedInstalled, installedPackages, List.mem_filter, List.mem_map]
  constructor
  · rintro ⟨⟨row, ⟨hrow, hinstalled⟩, hname⟩, hwatched⟩
    exact ⟨row, hrow, hinstalled, hname, hwatched⟩
  · rintro ⟨row, hrow, hinstalled, hname, hwatched⟩
    exact ⟨⟨row, ⟨hrow, hinstalled⟩, hname⟩, hwatched⟩

/-- No watched package has a further record beside its installed one. -/
def LeftoverFree (engines : Engines) (manifest : Manifest) (inventory : List InventoryRow) : Prop :=
  ∀ row ∈ inventory, row.package ∈ watchedInstalled engines manifest inventory →
    row.isInstalled = true

instance : Decidable (LeftoverFree engines manifest inventory) :=
  inferInstanceAs (Decidable (∀ row ∈ inventory, row.package ∈
    watchedInstalled engines manifest inventory → row.isInstalled = true))

theorem watchedInstalled_eq : watchedInstalled engines manifest inventory =
    (inventory.filter fun row => row.isInstalled && watchedName engines manifest row.package).map
      fun row => row.package := by
  rw [watchedInstalled, installedPackages, List.filter_map, List.filter_filter]
  congr 2
  funext row
  exact Bool.and_comm _ _

/-- Installed for at most one architecture each, the watched packages have a state. -/
theorem guardWatchedState_of_nodup (h : (watchedInstalled engines manifest inventory).Nodup) :
    guardWatchedState engines manifest inventory = .ok (sortBy (fun row => row.package)
      (inventory.filter fun row => row.isInstalled &&
        watchedName engines manifest row.package)) := by
  rw [watchedInstalled_eq] at h
  rw [guardWatchedState, collectState_eq_ok.mpr ⟨rfl, h, by simp⟩]
  rfl

theorem LeftoverFree.policyWatchedState_eq (h : LeftoverFree engines manifest inventory)
    (hnodup : (watchedInstalled engines manifest inventory).Nodup) :
    policyWatchedState engines manifest inventory =
      guardWatchedState engines manifest inventory := by
  have hfilter : (inventory.filter fun row => decide (row.package ∈
      sortBy id (watchedInstalled engines manifest inventory).dedup)) =
      inventory.filter fun row => row.isInstalled && watchedName engines manifest row.package := by
    apply List.filter_congr
    intro row hrow
    rw [Bool.eq_iff_iff, decide_eq_true_eq, mem_sortBy, List.mem_dedup, Bool.and_eq_true]
    constructor
    · intro hmem
      obtain ⟨-, -, -, -, hwatched⟩ := mem_watchedInstalled.mp hmem
      exact ⟨h row hrow hmem, hwatched⟩
    · rintro ⟨hinstalled, hwatched⟩
      exact mem_watchedInstalled.mpr ⟨row, hrow, hinstalled, rfl, hwatched⟩
  have hrecords := hnodup
  rw [watchedInstalled_eq] at hrecords
  rw [policyWatchedState, packageStateRecords,
    collectState_eq_ok.mpr ⟨hfilter.symm, hrecords, by simp⟩, guardWatchedState_of_nodup hnodup]
  have hmissing : (sortBy id (watchedInstalled engines manifest inventory).dedup).filter
      (fun name => decide (name ∉ (inventory.filter fun row => row.isInstalled &&
        watchedName engines manifest row.package).map fun row => row.package)) = [] := by
    rw [List.filter_eq_nil_iff]
    intro name hname
    rw [← watchedInstalled_eq, decide_eq_true_eq, not_not]
    simpa using hname
  simp only [bind, Except.bind, hmissing, dieIf]
  rfl

/-- The command counts every record of a watched installed package. -/
theorem leftoverFree_of_policyWatchedState
    (h : policyWatchedState engines manifest inventory = .ok records) :
    LeftoverFree engines manifest inventory := by
  simp only [policyWatchedState, packageStateRecords, bind_eq_ok, collectState_eq_ok] at h
  obtain ⟨found, ⟨rfl, hnodup, -⟩, -⟩ := h
  intro row hrow hmem
  obtain ⟨installed, hinventory, hinstalled, hname, -⟩ := mem_watchedInstalled.mp hmem
  have hkept : ∀ r ∈ inventory, r.package = row.package → r ∈ inventory.filter fun row =>
      decide (row.package ∈ sortBy id (watchedInstalled engines manifest inventory).dedup) := by
    intro r hr hpackage
    rw [List.mem_filter, decide_eq_true_eq, mem_sortBy, List.mem_dedup, hpackage]
    exact ⟨hr, hmem⟩
  rw [List.inj_on_of_nodup_map hnodup (hkept row hrow rfl) (hkept installed hinventory hname)
    hname.symm]
  exact hinstalled

end

section
variable {engines : Engines} {digests : Digests} {world : Surroundings} {actions : List Action}
  {files refused : GuardFiles} {extended : SourceManifest} {policy : Policy}
  {payloads : List Payload} {records : List InventoryRow}
  {id : { s : String // exactly 32 isLowerHex s = true }}

/-! ## Presentations -/

/-- A related plan that comes to the policy under `WARN`. -/
structure Presented (engines : Engines) (world : Surroundings) (actions : List Action)
    (files : GuardFiles) (extended : SourceManifest) (policy : Policy) (payloads : List Payload) :
    Prop where
  extends_eq : extendManifestForSourceFamilies engines world.manifest world.payloadSource actions =
    .ok extended
  related : relevantActions engines extended.toManifest actions ≠ []
  selected : files.policy = some policy
  warn : policy.mode = some "WARN"
  hashed : hashPayloads world actions = .ok payloads
  pending : pendingReason files = none

theorem evaluate_warn {manifest : Manifest} {runtime : Context}
    (hrelated : relevantActions engines manifest actions ≠ []) (hwarn : policy.mode = some "WARN") :
    evaluate engines actions manifest policy runtime =
      .ok { verdict := .requireExactManualAuthorization,
            relevant := relevantActions engines manifest actions } := by
  simp [evaluate, hrelated, hwarn]

/-- A presentation under `WARN` is decided by the authorization. -/
theorem Presented.guardMain_eq
    (h : Presented engines world actions files extended policy payloads) :
    guardMain engines digests world none actions files =
      guardManual engines digests world none extended policy actions
        (relevantActions engines extended.toManifest actions) (digests.plan actions payloads)
        payloads files.authorization files := by
  rw [guardMain, lift_bind h.extends_eq, if_neg h.related, guardLocked, read_bind,
    lift_bind (a := policy) (by rw [h.selected]; rfl), lift_bind h.hashed, h.pending]
  exact lift_bind (evaluate_warn h.related h.warn)

theorem propose_none {reason : Reason} {digest : Digest} {related : List Action} :
    propose none reason digest related payloads files =
      ({ files with proposal := some ⟨reason, digest, payloads, packagesOf related⟩ },
        .ok (.refused reason)) := rfl

theorem pendingReason_ne {verdict : Verdict} : pendingReason files ≠ some (.verdict verdict) := by
  unfold pendingReason
  repeat' split
  all_goals simp

/-- A stored authorization is never met by a refusal for want of one. -/
theorem guardManual_some_ne {related : List Action} {digest : Digest} {a : Authorization} :
    guardManual engines digests world none extended policy actions related digest payloads (some a)
      files ≠ (refused, .ok (.refused (.verdict .requireExactManualAuthorization))) := by
  intro h
  simp only [guardManual, prog_bind_eq_ok, lift_eq_ok] at h
  obtain ⟨context, _, ⟨rfl, -⟩, h⟩ := h
  split at h
  · cases (Prod.mk.inj h).2
  · cases (Prod.mk.inj h).2

/-- What a refusal for want of an authorization says about the state before it. -/
theorem presented_of_refused (hpolicy : files.policy = some policy)
    (hwarn : policy.mode = some "WARN")
    (h : guardMain engines digests world none actions files =
      (refused, .ok (.refused (.verdict .requireExactManualAuthorization)))) :
    ∃ extended payloads, Presented engines world actions files extended policy payloads ∧
      files.authorization = none ∧
      refused = { files with proposal := some ⟨.verdict .requireExactManualAuthorization,
        digests.plan actions payloads, payloads,
        packagesOf (relevantActions engines extended.toManifest actions)⟩ } := by
  have hmain := h
  simp only [guardMain, prog_bind_eq_ok, lift_eq_ok] at h
  obtain ⟨extended, s, ⟨hs, hextended⟩, h⟩ := h
  subst s
  split at h
  · cases (Prod.mk.inj h).2
  · rename_i hrelated
    simp only [guardLocked, prog_bind_eq_ok, lift_eq_ok, read_eq_ok] at h
    obtain ⟨a, s, ⟨hs, ha⟩, p, s', ⟨hs', -⟩, payloads, s'', ⟨hs'', hpayloads⟩, h⟩ := h
    subst s'' s' s a
    cases hpending : pendingReason files with
    | some reason =>
      rw [hpending] at h
      obtain ⟨-, hreason⟩ := Prod.mk.inj h
      cases hreason
      exact (pendingReason_ne hpending).elim
    | none =>
      have hpresented : Presented engines world actions files extended policy payloads :=
        ⟨hextended, hrelated, hpolicy, hwarn, hpayloads, hpending⟩
      rw [hpresented.guardMain_eq] at hmain
      refine ⟨extended, payloads, hpresented, ?_⟩
      have hnone : files.authorization = none := by
        cases hauthorization : files.authorization with
        | none => rfl
        | some authorization =>
          rw [hauthorization] at hmain
          exact (guardManual_some_ne hmain).elim
      refine ⟨hnone, ?_⟩
      rw [hnone, guardManual, propose_none] at hmain
      exact (Prod.mk.inj hmain).1.symm

/-! ## The command on the proposal -/

theorem isProposalOf_packagesOf {rows : List Action} (hne : rows ≠ [])
    (hrows : ∀ row ∈ rows, isPackage row.package = true) :
    isProposalOf (packagesOf rows) = true := by
  have hnodup : (packagesOf rows).Nodup := by
    rw [packagesOf, (sortBy_perm id _).nodup_iff]
    exact List.nodup_dedup _
  simp only [isProposalOf, Bool.and_eq_true, decide_eq_true_eq, List.all_eq_true]
  refine ⟨⟨?_, ?_⟩, ?_⟩
  · simpa [packagesOf, List.dedup_eq_nil] using hne
  · intro name hname
    obtain ⟨row, hrow, rfl⟩ : ∃ row ∈ rows, row.package = name := by
      simpa [packagesOf] using hname
    exact hrows row hrow
  · rw [hnodup.dedup, packagesOf, sortBy_sortBy]

theorem Digest.ne_empty (digest : Digest) : digest.val ≠ "" := by
  intro h
  have hexact := digest.property
  rw [h] at hexact
  exact absurd hexact (by decide)

/-- On the proposal of a refusal the command comes to the state of the watched packages. -/
theorem authorizeProposal_eq (h : Presented engines world actions files extended policy payloads)
    (hrows : ∀ row ∈ actions, isProtocolRow row = true) {reason : Reason}
    (hrefused : refused = { files with proposal := some ⟨reason, digests.plan actions payloads,
      payloads, packagesOf (relevantActions engines extended.toManifest actions)⟩ }) :
    authorizeProposal engines digests world none id refused =
      match policyWatchedState engines extended.toManifest world.inventory with
      | .ok records => ({ refused with authorization := some ⟨2, id, digests.plan actions payloads,
          payloads, authorizationContext digests world extended policy records⟩ }, .ok ())
      | .error message => (refused, .error message) := by
  have hproposal : refused.proposal = some ⟨reason, digests.plan actions payloads, payloads,
      packagesOf (relevantActions engines extended.toManifest actions)⟩ := by rw [hrefused]
  have hselected : refused.policy = some policy := by rw [hrefused, ← h.selected]
  have hidle : (refused.postGate.isSome || refused.packageTransition ||
      refused.freezeMigration) = false := by
    have hpending := h.pending
    rw [hrefused]
    unfold pendingReason at hpending
    repeat' split at hpending
    all_goals simp_all
  have hpackages : isProposalOf (packagesOf (relevantActions engines extended.toManifest actions)) =
      true := by
    apply isProposalOf_packagesOf h.related
    intro row hrow
    have hprotocol := hrows row (List.mem_of_mem_filter hrow)
    simp only [isProtocolRow, Bool.and_eq_true] at hprotocol
    exact hprotocol.1.1.1.1.1.1.1.1
  rw [authorizeProposal, read_bind, lift_bind (a := policy) (by rw [hselected]; rfl),
    refuse_bind (by simp [h.warn]), refuse_bind hidle,
    lift_bind (a := Proposal.mk _ _ _ _) (by rw [hproposal]; rfl),
    refuse_bind (decide_eq_false (Digest.ne_empty _)), refuse_bind (by rw [hpackages]; rfl)]
  dsimp only
  rw [proposedManifest_eq h.extends_eq]
  cases hrecords : policyWatchedState engines extended.toManifest world.inventory with
  | ok records => exact lift_bind rfl
  | error message => rfl

/-! ## Honoured authorizations -/

/-- The command authorizes the refused plan in the context that the guard expects, and the guard
dispatches the plan when it is presented again. -/
def Honoured (engines : Engines) (digests : Digests) (world : Surroundings) (actions : List Action)
    (id : { s : String // exactly 32 isLowerHex s = true }) (refused : GuardFiles) : Prop :=
  ∃ authorized authorization extended policy,
    authorizeProposal engines digests world none id refused = (authorized, .ok ()) ∧
    authorized.authorization = some authorization ∧
    extendManifestForSourceFamilies engines world.manifest world.payloadSource actions =
      .ok extended ∧
    refused.policy = some policy ∧
    expectedContext engines digests world extended policy = .ok authorization.context ∧
    (guardMain engines digests world none actions authorized).2 =
      .ok (.dispatched (some id.val) authorization.planDigest authorization.payloads
        (some authorization.context))

theorem manualAuthorizationMatches_self {digest : Digest} {context : AuthorizationContext} :
    manualAuthorizationMatches ⟨2, id, digest, payloads, context⟩ digest payloads context =
      true := by
  simp [manualAuthorizationMatches, id.property]

theorem Presented.authorize {reason : Option Proposal} {authorization : Authorization}
    (h : Presented engines world actions files extended policy payloads) :
    Presented engines world actions
      { files with proposal := reason, authorization := some authorization } extended policy
      payloads :=
  ⟨h.extends_eq, h.related, h.selected, h.warn, h.hashed, h.pending⟩

/-- With the plan and the inventory unchanged, the authorization is honoured exactly when no watched
package has a leftover record. -/
theorem honoured_iff (hrows : ∀ row ∈ actions, isProtocolRow row = true)
    (hpolicy : files.policy = some policy) (hwarn : policy.mode = some "WARN")
    (hrefused : guardMain engines digests world none actions files =
      (refused, .ok (.refused (.verdict .requireExactManualAuthorization))))
    (hsingle : ∀ extended, extendManifestForSourceFamilies engines world.manifest
      world.payloadSource actions = .ok extended →
      (watchedInstalled engines extended.toManifest world.inventory).Nodup) :
    Honoured engines digests world actions id refused ↔
      ∀ extended, extendManifestForSourceFamilies engines world.manifest world.payloadSource
        actions = .ok extended → LeftoverFree engines extended.toManifest world.inventory := by
  obtain ⟨extended, payloads, hpresented, -, hfiles⟩ := presented_of_refused hpolicy hwarn hrefused
  have hauthorize := @authorizeProposal_eq _ _ _ _ _ refused _ _ _ id hpresented hrows _ hfiles
  constructor
  · rintro ⟨authorized, authorization, -, -, hok, -⟩ other hother
    rw [hpresented.extends_eq] at hother
    cases hother
    rw [hauthorize] at hok
    split at hok
    · rename_i records hrecords
      exact leftoverFree_of_policyWatchedState hrecords
    · cases (Prod.mk.inj hok).2
  · intro hfree
    have hnodup := hsingle extended hpresented.extends_eq
    have hstate := (hfree extended hpresented.extends_eq).policyWatchedState_eq hnodup
    have hguard := guardWatchedState_of_nodup hnodup
    rw [hstate, hguard] at hauthorize
    have hexpected : expectedContext engines digests world extended policy =
        .ok (authorizationContext digests world extended policy (sortBy (fun row => row.package)
          (world.inventory.filter fun row => row.isInstalled &&
            watchedName engines extended.toManifest row.package))) := by
      rw [expectedContext, hguard]
      rfl
    refine ⟨_, _, extended, policy, hauthorize, rfl, hpresented.extends_eq, ?_, hexpected, ?_⟩
    · rw [hfiles]
      exact hpolicy
    · rw [hfiles, hpresented.authorize.guardMain_eq, guardManual, lift_bind hexpected,
        if_pos manualAuthorizationMatches_self]
      rfl

end

end SharedLvmThin.ManualAuthorization
