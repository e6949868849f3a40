import SharedLvmThin.ManualAuthorizationAgreement

/-! How often an authorization is honoured. Over every interleaving of guard runs, authorizations
and other commands an authorization is dispatched at most once, and only on what it records. -/

namespace SharedLvmThin.ManualAuthorization
open Perl KeyedLists Effects Runs UpdatePolicy

/-! ## Runs -/

/-- A plan that the guard let go on to dpkg on an authorization. -/
structure Dispatch where
  id : String
  actions : List Action
  payloads : List Payload
  context : Option AuthorizationContext

/-- A node with all it ever authorized and dispatched. -/
structure History where
  files : GuardFiles
  issued : List Authorization
  dispatched : List Dispatch

inductive Event
  | guard (world : Surroundings) (killed : Option Effect) (actions : List Action)
  | authorize (world : Surroundings) (killed : Option Effect)
      (id : { s : String // exactly 32 isLowerHex s = true })
  | other (files : GuardFiles)

def dispatchOf (actions : List Action) : Except String Answer → Option Dispatch
  | .ok (.dispatched (some id) _ payloads context) => some ⟨id, actions, payloads, context⟩
  | _ => none

def issuedBy (id : String) (files : GuardFiles) : List Authorization :=
  files.authorization.toList.filter fun a => a.authorizationId = id

/-- The drawn identity is new. The other commands change the policy, settle the gate and so on, and
at most remove the authorization. -/
inductive Step (engines : Engines) (digests : Digests) : History → Event → History → Prop
  | guard (s : History) (world : Surroundings) (killed : Option Effect) (actions : List Action) :
      Step engines digests s (.guard world killed actions)
        { files := (guardMain engines digests world killed actions s.files).1
          issued := s.issued
          dispatched := s.dispatched ++ (dispatchOf actions
            (guardMain engines digests world killed actions s.files).2).toList }
  | authorize (s : History) (world : Surroundings) (killed : Option Effect)
      (id : { s : String // exactly 32 isLowerHex s = true })
      (hnew : id.val ∉ s.issued.map Authorization.authorizationId) :
      Step engines digests s (.authorize world killed id)
        { files := (authorizeProposal engines digests world killed id s.files).1
          issued := s.issued ++
            issuedBy id (authorizeProposal engines digests world killed id s.files).1
          dispatched := s.dispatched }
  | other (s : History) (files : GuardFiles)
      (hkept : files.authorization = s.files.authorization ∨ files.authorization = none) :
      Step engines digests s (.other files) { s with files := files }

/-- The dispatch is of the plan and the payloads, and in the context, that the authorization
records. -/
structure Permits (digests : Digests) (a : Authorization) (d : Dispatch) : Prop where
  id : d.id = a.authorizationId
  plan : digests.plan d.actions d.payloads = a.planDigest
  payloads : d.payloads = a.payloads
  context : d.context = some a.context

/-- No authorization is dispatched twice, and each dispatch has its authorization. -/
structure History.Once (digests : Digests) (s : History) : Prop where
  ids : (s.issued.map Authorization.authorizationId).Nodup
  once : (s.dispatched.map Dispatch.id).Nodup
  permitted : ∀ d ∈ s.dispatched, ∃ a ∈ s.issued, Permits digests a d

/-- The stored authorization is not used yet. -/
structure History.Sound (digests : Digests) (s : History) : Prop extends s.Once digests where
  stored : ∀ a, s.files.authorization = some a →
    a ∈ s.issued ∧ a.authorizationId ∉ s.dispatched.map Dispatch.id

section
variable {engines : Engines} {digests : Digests} {world : Surroundings} {killed : Option Effect}
  {actions : List Action} {files : GuardFiles} {s s' : History} {event : Event}
  {id : { s : String // exactly 32 isLowerHex s = true }}

theorem outcome_perform {α : Type} {e : Effect} {g : GuardFiles → GuardFiles}
    {f : Unit → Prog GuardFiles α} {Q : α → GuardFiles → Prop} {E : GuardFiles → Prop}
    (hE : E (g files)) (h : Outcome (f ()) Q E (g files)) :
    Outcome (perform killed e g >>= f) Q E files := by
  apply outcome_bind
  apply outcome_bind
  apply outcome_update
  exact (silent_refuse _ _).outcome hE fun _ _ => h

/-- What a completed guard run does to the authorization: nothing, or it consumes the authorization
that permits its dispatch. -/
def Decided (digests : Digests) (actions : List Action) (files : GuardFiles) (answer : Answer)
    (t : GuardFiles) : Prop :=
  t.authorization = files.authorization ∧ dispatchOf actions (.ok answer) = none ∨
    t.authorization = none ∧ ∃ a d, files.authorization = some a ∧
      dispatchOf actions (.ok answer) = some d ∧ Permits digests a d

def Survives (files t : GuardFiles) : Prop :=
  t.authorization = files.authorization ∨ t.authorization = none

theorem propose_outcome {reason : Reason} {digest : Digest} {related : List Action}
    {payloads : List Payload} : Outcome (propose killed reason digest related payloads)
      (Decided digests actions files) (Survives files) files :=
  outcome_perform (.inl rfl) (outcome_pure (.inl ⟨rfl, rfl⟩))

theorem dispatch_outcome {verdict : GateVerdict} {digest : Digest} {payloads : List Payload} :
    Outcome (dispatch world killed verdict actions digest payloads none none)
      (Decided digests actions files) (Survives files) files :=
  outcome_perform (.inl rfl) (outcome_pure (.inl ⟨rfl, rfl⟩))

theorem permits_of_matches {a : Authorization} {payloads : List Payload}
    {context : AuthorizationContext}
    (h : manualAuthorizationMatches a (digests.plan actions payloads) payloads context = true) :
    Permits digests a ⟨a.authorizationId, actions, payloads, some context⟩ := by
  simp only [manualAuthorizationMatches, Bool.and_eq_true, decide_eq_true_eq] at h
  obtain ⟨⟨⟨-, hplan⟩, hpayloads⟩, hcontext⟩ := h
  exact ⟨rfl, hplan.symm, hpayloads.symm, by rw [hcontext]⟩

theorem guardManual_outcome {extended : SourceManifest} {policy : Policy} {related : List Action}
    {payloads : List Payload} :
    Outcome (guardManual engines digests world killed extended policy actions related
        (digests.plan actions payloads) payloads files.authorization)
      (Decided digests actions files) (Survives files) files := by
  cases ha : files.authorization with
  | none => exact propose_outcome
  | some a =>
    apply outcome_bind
    refine (silent_lift _).outcome (.inl rfl) fun context _ => ?_
    split
    · rename_i hmatches
      refine outcome_perform (.inr rfl) (outcome_perform (.inr rfl) (outcome_pure (.inr ⟨rfl, ?_⟩)))
      exact ⟨a, _, ha, rfl, permits_of_matches hmatches⟩
    · exact propose_outcome

theorem guardMain_outcome : Outcome (guardMain engines digests world killed actions)
    (Decided digests actions files) (Survives files) files := by
  apply outcome_bind
  refine (silent_lift _).outcome (.inl rfl) fun extended _ => ?_
  dsimp only
  split
  · exact outcome_pure (.inl ⟨rfl, rfl⟩)
  apply outcome_read_bind
  apply outcome_bind
  refine (silent_lift _).outcome (.inl rfl) fun policy _ => ?_
  apply outcome_bind
  refine (silent_lift _).outcome (.inl rfl) fun payloads _ => ?_
  dsimp only
  split
  · exact propose_outcome
  apply outcome_bind
  refine (silent_lift _).outcome (.inl rfl) fun result _ => ?_
  split
  · exact dispatch_outcome
  · exact dispatch_outcome
  · exact guardManual_outcome
  · exact propose_outcome

/-- The command keeps the authorization or writes the one it drew the identity of. -/
def Authorizes (id : String) (files t : GuardFiles) : Prop :=
  t.authorization = files.authorization ∨
    ∃ a, t.authorization = some a ∧ a.authorizationId = id

theorem authorizeProposal_outcome : Outcome (authorizeProposal engines digests world killed id)
    (fun _ => Authorizes id files) (Authorizes id files) files := by
  apply outcome_read_bind
  apply outcome_bind
  refine (silent_lift _).outcome (.inl rfl) fun policy _ => ?_
  refine outcome_refuse (fun _ => .inl rfl) fun _ => ?_
  refine outcome_refuse (fun _ => .inl rfl) fun _ => ?_
  apply outcome_bind
  refine (silent_lift _).outcome (.inl rfl) fun proposal _ => ?_
  refine outcome_refuse (fun _ => .inl rfl) fun _ => ?_
  refine outcome_refuse (fun _ => .inl rfl) fun _ => ?_
  apply outcome_bind
  refine (silent_lift _).outcome (.inl rfl) fun records _ => ?_
  apply outcome_bind
  apply outcome_update
  exact (silent_refuse _ _).outcome (.inr ⟨_, rfl, rfl⟩) fun _ _ => .inr ⟨_, rfl, rfl⟩

/-! ## The law of one dispatch -/

theorem History.Sound.keep {t : GuardFiles} (h : s.Sound digests) (ht : Survives s.files t) :
    History.Sound digests { s with files := t } where
  ids := h.ids
  once := h.once
  permitted := h.permitted
  stored := by
    intro a ha
    rcases ht with hkept | hnone
    · exact h.stored a (hkept ▸ ha)
    · rw [hnone] at ha
      cases ha

/-- The authorization that a dispatch consumes was not dispatched before. -/
theorem History.Sound.dispatch {t : GuardFiles} {a : Authorization} {d : Dispatch}
    (h : s.Sound digests) (ha : s.files.authorization = some a) (ht : t.authorization = none)
    (hd : Permits digests a d) :
    History.Sound digests ⟨t, s.issued, s.dispatched ++ [d]⟩ where
  ids := h.ids
  once := by
    rw [List.map_append, List.map_singleton, List.nodup_append]
    refine ⟨h.once, List.nodup_singleton _, ?_⟩
    rintro x hx y hy rfl
    rw [List.mem_singleton, hd.id] at hy
    exact (h.stored a ha).2 (hy ▸ hx)
  permitted := by
    intro e he
    rcases List.mem_append.mp he with he | he
    · exact h.permitted e he
    · rw [List.mem_singleton.mp he]
      exact ⟨a, (h.stored a ha).1, hd⟩
  stored := by
    intro b hb
    rw [ht] at hb
    cases hb

theorem History.Sound.issue {t : GuardFiles} {a : Authorization} (h : s.Sound digests)
    (ht : t.authorization = some a)
    (hnew : a.authorizationId ∉ s.issued.map Authorization.authorizationId) :
    History.Sound digests ⟨t, s.issued ++ [a], s.dispatched⟩ where
  ids := by
    rw [List.map_append, List.map_singleton, List.nodup_append]
    refine ⟨h.ids, List.nodup_singleton _, ?_⟩
    rintro x hx y hy rfl
    exact hnew (List.mem_singleton.mp hy ▸ hx)
  once := h.once
  permitted := by
    intro d hd
    obtain ⟨b, hb, hpermits⟩ := h.permitted d hd
    exact ⟨b, List.mem_append_left _ hb, hpermits⟩
  stored := by
    intro b hb
    rw [ht] at hb
    cases hb
    refine ⟨List.mem_append_right _ (List.mem_singleton_self a), ?_⟩
    -- a dispatch with the new identity would have an authorization issued before
    intro hdispatched
    obtain ⟨d, hd, hid⟩ := List.mem_map.mp hdispatched
    obtain ⟨c, hc, hpermits⟩ := h.permitted d hd
    exact hnew (List.mem_map.mpr ⟨c, hc, hpermits.id.symm.trans hid⟩)

theorem issuedBy_of_kept {t : GuardFiles} (h : s.Sound digests)
    (ht : t.authorization = s.files.authorization)
    (hnew : id.val ∉ s.issued.map Authorization.authorizationId) : issuedBy id t = [] := by
  rw [issuedBy, List.filter_eq_nil_iff]
  intro a ha
  rw [Option.mem_toList, ht] at ha
  rw [decide_eq_true_eq]
  rintro heq
  exact hnew (heq ▸ List.mem_map_of_mem (h.stored a ha).1)

theorem History.Sound.step (h : s.Sound digests) (hstep : Step engines digests s event s') :
    s'.Sound digests := by
  cases hstep with
  | guard world killed actions =>
    have houtcome := @guardMain_outcome engines digests world killed actions s.files
    unfold Outcome at houtcome
    split at houtcome
    · rename_i t answer hmain
      rw [hmain]
      rcases houtcome with ⟨hkept, hnone⟩ | ⟨hconsumed, a, d, ha, hd, hpermits⟩
      · rw [hnone, Option.toList_none, List.append_nil]
        exact h.keep (.inl hkept)
      · rw [hd]
        exact h.dispatch ha hconsumed hpermits
    · rename_i t message hmain
      rw [hmain, dispatchOf, Option.toList_none, List.append_nil]
      · exact h.keep houtcome
      · simp
  | authorize world killed id hnew =>
    have houtcome : Authorizes id s.files
        (authorizeProposal engines digests world killed id s.files).1 :=
      authorizeProposal_outcome.final (fun _ _ h => h) fun _ h => h
    generalize (authorizeProposal engines digests world killed id s.files).1 = t at houtcome ⊢
    rcases houtcome with hkept | ⟨a, ha, hid⟩
    · rw [issuedBy_of_kept h hkept hnew, List.append_nil]
      exact h.keep (.inl hkept)
    · have hissued : issuedBy id t = [a] := by
        rw [issuedBy, ha, Option.toList_some, List.filter_cons_of_pos (by simp [hid]),
          List.filter_nil]
      rw [hissued]
      exact h.issue ha (hid ▸ hnew)
  | other files hkept => exact h.keep hkept

/-- A node that authorized nothing yet. -/
def History.Fresh (s : History) : Prop :=
  s.files.authorization = none ∧ s.issued = [] ∧ s.dispatched = []

theorem History.Fresh.sound (h : s.Fresh) : s.Sound digests where
  ids := by simp [h.2.1]
  once := by simp [h.2.2]
  permitted := by simp [h.2.2]
  stored := by simp [h.1]

/-- The refused plan is honoured exactly when no watched package has a leftover record, and in every
run an authorization is dispatched at most once and only on what it records. -/
theorem authorization_honoured_once (engines : Engines) (digests : Digests) :
    (∀ (world : Surroundings) (actions : List Action) (files refused : GuardFiles) (policy : Policy)
      (id : { s : String // exactly 32 isLowerHex s = true }),
      (∀ row ∈ actions, isProtocolRow row = true) →
      files.policy = some policy → policy.mode = some "WARN" →
      guardMain engines digests world none actions files =
        (refused, .ok (.refused (.verdict .requireExactManualAuthorization))) →
      (∀ extended, extendManifestForSourceFamilies engines world.manifest world.payloadSource
        actions = .ok extended →
        (watchedInstalled engines extended.toManifest world.inventory).Nodup) →
      (Honoured engines digests world actions id refused ↔
        ∀ extended, extendManifestForSourceFamilies engines world.manifest world.payloadSource
          actions = .ok extended → LeftoverFree engines extended.toManifest world.inventory)) ∧
    ∀ (σ : ℕ → History) (label : ℕ → Event) (n : ℕ), (σ 0).Fresh →
      IsTrace (Step engines digests) σ label n → ∀ i ≤ n, (σ i).Once digests := by
  constructor
  · intro world actions files refused policy id hrows hpolicy hwarn hrefused hsingle
    exact honoured_iff hrows hpolicy hwarn hrefused hsingle
  · intro σ label n hfresh hrun i hi
    have hsound := hrun.invariant_from hfresh.sound
      (fun _ _ _ hstep h => History.Sound.step h hstep) i (Nat.zero_le i) hi
    exact hsound.toOnce

end

/-! ## An update of `open-iscsi` -/

def constantDigest (c : Char) (h : isLowerHex c = true) : Digest :=
  ⟨String.ofList (List.replicate 64 c), by
    simp [exactly, h]⟩

def iscsiEngines : Engines where
  fullmatch pattern name := pattern = name
  compareVersions _ _ _ := false

def iscsiDigests : Digests where
  manifest _ := constantDigest 'a' (by decide)
  policy _ := constantDigest 'b' (by decide)
  plan _ _ := constantDigest 'c' (by decide)
  context _ := constantDigest 'd' (by decide)

def iscsiRow (package action : String) : Action where
  package := package
  oldVersion := "2.1.10-1"
  oldArch := "amd64"
  oldMultiarch := "-"
  direction := "<"
  newVersion := "2.1.11-1"
  newArch := "amd64"
  newMultiarch := "-"
  action := action

def iscsiPlan : List Action :=
  [iscsiRow "iscsiuio" "/var/cache/apt/archives/iscsiuio_2.1.11-1_amd64.deb",
    iscsiRow "open-iscsi" "/var/cache/apt/archives/open-iscsi_2.1.11-1_amd64.deb",
    iscsiRow "iscsiuio" "**CONFIGURE**", iscsiRow "open-iscsi" "**CONFIGURE**"]

def iscsiRecord (package architecture status : String) : InventoryRow where
  package := package
  architecture := architecture
  version := "2.1.10-1"
  status := status
  binary := package

def iscsiWorld (inventory : List InventoryRow) : Surroundings where
  manifest :=
    { watchedPackages := ["open-iscsi"], watchedPackagePatterns := [], tuples := [],
      rollingEdges := [], knownIncompatible := [], watchedSourcePackages := ["open-iscsi"],
      watchedSourcePatterns := [] }
  payloadSource _ := .ok "open-iscsi"
  hashPayload path := .ok ⟨path, (constantDigest 'e' (by decide)).val, 4096, 1, 7⟩
  inventory := inventory
  runtime := ⟨fun _ => none, "dual", 14, "7.0.0-1-pve", "2.0.0"⟩
  node := "pve1"
  bootId := "3f0c6a3e-0000-4000-8000-000000000001"

def bothInstalled : List InventoryRow :=
  [iscsiRecord "iscsiuio" "amd64" "installed", iscsiRecord "open-iscsi" "amd64" "installed",
    iscsiRecord "dpkg" "amd64" "installed"]

/-- A removed foreign `open-iscsi` left its configuration files. -/
def withLeftover : List InventoryRow :=
  bothInstalled ++ [iscsiRecord "open-iscsi" "i386" "config-files"]

def warned : GuardFiles where
  policy := some ⟨some "WARN", none⟩
  proposal := none
  authorization := none
  postGate := none
  packageTransition := false
  runtimeQualification := false
  freezeMigration := false

def iscsiId : { s : String // exactly 32 isLowerHex s = true } :=
  ⟨"0123456789abcdef0123456789abcdef", by decide +kernel⟩

def refusedFiles (inventory : List InventoryRow) : GuardFiles :=
  (guardMain iscsiEngines iscsiDigests (iscsiWorld inventory) none iscsiPlan warned).1

/-- The presentation of the plan, as a step. -/
def presented (s : History) : History where
  files := (guardMain iscsiEngines iscsiDigests (iscsiWorld bothInstalled) none iscsiPlan s.files).1
  issued := s.issued
  dispatched := s.dispatched ++ (dispatchOf iscsiPlan (guardMain iscsiEngines iscsiDigests
    (iscsiWorld bothInstalled) none iscsiPlan s.files).2).toList

def authorized (s : History) : History where
  files := (authorizeProposal iscsiEngines iscsiDigests (iscsiWorld bothInstalled) none iscsiId
    s.files).1
  issued := s.issued ++ issuedBy iscsiId (authorizeProposal iscsiEngines iscsiDigests
    (iscsiWorld bothInstalled) none iscsiId s.files).1
  dispatched := s.dispatched

/-- The plan is refused, authorized and dispatched. -/
def iscsiRun : ℕ → History
  | 0 => ⟨warned, [], []⟩
  | 1 => presented ⟨warned, [], []⟩
  | 2 => authorized (presented ⟨warned, [], []⟩)
  | _ => presented (authorized (presented ⟨warned, [], []⟩))

def iscsiEvents : ℕ → Event
  | 1 => .authorize (iscsiWorld bothInstalled) none iscsiId
  | _ => .guard (iscsiWorld bothInstalled) none iscsiPlan

theorem iscsiRun_isTrace : IsTrace (Step iscsiEngines iscsiDigests) iscsiRun iscsiEvents 3 := by
  intro i hi
  match i, hi with
  | 0, _ => exact .guard _ _ _ _
  | 1, _ => exact .authorize _ _ _ _ List.not_mem_nil
  | 2, _ => exact .guard _ _ _ _

theorem iscsiPlan_protocol : ∀ row ∈ iscsiPlan, isProtocolRow row = true := by decide +kernel

theorem extended_all {inventory : List InventoryRow} {P : Manifest → Bool}
    (h : (extendManifestForSourceFamilies iscsiEngines (iscsiWorld inventory).manifest
      (iscsiWorld inventory).payloadSource iscsiPlan).toOption.all
        (fun extended => P extended.toManifest) = true) :
    ∀ extended, extendManifestForSourceFamilies iscsiEngines (iscsiWorld inventory).manifest
      (iscsiWorld inventory).payloadSource iscsiPlan = .ok extended →
      P extended.toManifest = true := by
  intro extended hextended
  rw [hextended] at h
  exact h

theorem authorization_honoured_iscsi :
    Honoured iscsiEngines iscsiDigests (iscsiWorld bothInstalled) iscsiPlan iscsiId
        (refusedFiles bothInstalled) ∧
      (iscsiRun 3).Once iscsiDigests ∧
      (iscsiRun 3).dispatched.map Dispatch.id = [iscsiId.val] := by
  refine ⟨?_, ?_, by decide +kernel⟩
  · have hnodup := @extended_all bothInstalled
      (fun manifest => (watchedInstalled iscsiEngines manifest bothInstalled).Nodup)
      (by decide +kernel)
    have hfree := @extended_all bothInstalled
      (fun manifest => LeftoverFree iscsiEngines manifest bothInstalled) (by decide +kernel)
    refine ((authorization_honoured_once iscsiEngines iscsiDigests).1 _ _ warned _ _ _
      iscsiPlan_protocol rfl rfl ?_ ?_).mpr ?_
    · exact Prod.ext rfl (by decide +kernel)
    · exact fun extended h => of_decide_eq_true (hnodup extended h)
    · exact fun extended h => of_decide_eq_true (hfree extended h)
  · exact (authorization_honoured_once iscsiEngines iscsiDigests).2 iscsiRun iscsiEvents 3
      ⟨rfl, rfl, rfl⟩ iscsiRun_isTrace 3 le_rfl

/-- `open-iscsi` is installed once, yet its leftover record makes the command refuse. -/
theorem leftover_not_authorized :
    guardMain iscsiEngines iscsiDigests (iscsiWorld withLeftover) none iscsiPlan warned =
        (refusedFiles withLeftover, .ok (.refused (.verdict .requireExactManualAuthorization))) ∧
      (∀ extended, extendManifestForSourceFamilies iscsiEngines (iscsiWorld withLeftover).manifest
        (iscsiWorld withLeftover).payloadSource iscsiPlan = .ok extended →
        (watchedInstalled iscsiEngines extended.toManifest withLeftover).Nodup) ∧
      (authorizeProposal iscsiEngines iscsiDigests (iscsiWorld withLeftover) none iscsiId
        (refusedFiles withLeftover)).2 =
        .error "ambiguous multiarch package state for open-iscsi" := by
  refine ⟨Prod.ext rfl (by decide +kernel), ?_, by decide +kernel⟩
  have hnodup := @extended_all withLeftover
    (fun manifest => (watchedInstalled iscsiEngines manifest withLeftover).Nodup)
    (by decide +kernel)
  exact fun extended h => of_decide_eq_true (hnodup extended h)

end SharedLvmThin.ManualAuthorization
