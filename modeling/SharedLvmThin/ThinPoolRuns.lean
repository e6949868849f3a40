import SharedLvmThin.Runs
import SharedLvmThin.ThinPoolOwner

/-!
# Runs of several nodes on one pool

Nodes activate, deactivate and allocate under the lock of the volume group, every call may
stop after any command, nodes are fenced and reboot. At most one kernel maps the pool as
long as no node allocates into an unowned pool that another kernel still maps.
-/

namespace SharedLvmThin.Thin
open Perl KeyedLists Effects Runs

variable {env : Env} {c : Cluster}

def Maps (c : Cluster) (node : String) : Prop := (c.kernel node).pool = true

def recordedOwner (tags : List String) : Option String :=
  match ownerStateFromTags tags with
  | .ok st => st.owner
  | .error _ => none

/-- At most one node maps the pool, and a node that maps it is the owner if there is one. -/
def Exclusive (c : Cluster) : Prop :=
  ∀ n, Maps c n → (recordedOwner c.tags = none ∨ recordedOwner c.tags = some n) ∧
    ∀ m, Maps c m → m = n

/-! ## Peers -/

theorem not_mem_of_mem_splitOn {sep : Char} {l : List Char} :
    ∀ piece ∈ l.splitOn sep, sep ∉ piece := by
  rw [List.splitOn_eq_splitOnP]
  induction l with
  | nil => simp [List.splitOnP_nil]
  | cons c l ih =>
    rw [List.splitOnP_cons_eq_if_modifyHead]
    split
    . intro piece hpiece
      rcases List.mem_cons.mp hpiece with rfl | hpiece
      . simp
      . exact ih piece hpiece
    . rename_i hc
      cases hs : l.splitOnP (· == sep) with
      | nil => simp
      | cons first rest =>
        rw [hs] at ih
        intro piece hpiece
        rw [List.modifyHead_cons, List.mem_cons] at hpiece
        rcases hpiece with rfl | hpiece
        . have hfirst := ih first (List.mem_cons_self ..)
          simp only [beq_iff_eq] at hc
          simp [hfirst, Ne.symm hc]
        . exact ih piece (List.mem_cons_of_mem _ hpiece)

theorem splitOn_no_comma {s piece : String} (h : piece ∈ splitOn ',' s) : ',' ∉ piece.toList := by
  have hmem := (List.rdropWhile_prefix _ _).subset h
  obtain ⟨chars, hchars, rfl⟩ := List.mem_map.mp hmem
  rw [String.toList_ofList]
  exact not_mem_of_mem_splitOn chars hchars

theorem mem_rdropWhile {l : List String} {m : String} (hm : m ∈ l) (hne : m ≠ "") :
    m ∈ l.rdropWhile (· = "") := by
  induction l using List.reverseRecOn with
  | nil => exact hm
  | append_singleton l a ih =>
    by_cases ha : a = ""
    . rw [List.rdropWhile_concat_pos _ _ _ (by simpa using ha)]
      rcases List.mem_append.mp hm with hl | hl
      . exact ih hl
      . exact (hne ((List.mem_singleton.mp hl).trans ha)).elim
    . rw [List.rdropWhile_concat_neg _ _ _ (by simpa using ha)]
      exact hm

theorem splitOn_empty : splitOn ',' "" = [] := by decide

/-- The names of a joined scope can be read back. -/
theorem mem_splitOn_join {names : List String} (hcomma : ∀ s ∈ names, ',' ∉ s.toList) {m : String}
    (hm : m ∈ names) (hne : m ≠ "") : m ∈ splitOn ',' (",".intercalate names) := by
  have hjoin := splitOn_intercalate hcomma
  rw [show String.singleton ',' = "," from rfl] at hjoin
  rw [hjoin]
  exact mem_rdropWhile hm hne

/-- Every node of the storage is in the storage's scope. -/
def Covers (nodes : Set String) (env : Env) : Prop :=
  ∀ members selected, env.members = some members →
    selectedNodes members env.storage.nodes = .ok selected → ∀ m ∈ nodes, m ∈ selected

theorem selected_withoutFenced {members : List (String × Member)} {scope : Value}
    {fenced m : String} {selected selected' : List String}
    (h : selectedNodes members scope = .ok selected)
    (h' : selectedNodes members (withoutFenced members fenced scope) = .ok selected')
    (hm : m ∈ selected) (hne : m ≠ "") (hfenced : m ≠ fenced) : m ∈ selected' := by
  have hjoined : ∀ s : String, m ∈ splitOn ',' s →
      selectedNodes members (.str (",".intercalate ((splitOn ',' s).filter (· ≠ fenced)))) =
        .ok selected' → m ∈ selected' := by
    intro s hs hsel
    have hmem : m ∈ splitOn ',' (",".intercalate ((splitOn ',' s).filter (· ≠ fenced))) := by
      apply mem_splitOn_join ?_ ?_ hne
      . intro piece hpiece
        exact splitOn_no_comma (List.mem_of_mem_filter hpiece)
      . simpa [hfenced] using hs
    simp only [selectedNodes] at hsel
    split at hsel
    . rename_i hempty
      rw [hempty, splitOn_empty] at hmem
      exact (List.not_mem_nil hmem).elim
    . rw [← Except.ok.inj hsel]
      exact hmem
  cases scope with
  | undef =>
    simp only [selectedNodes, withoutFenced] at h h'
    cases h
    cases h'
    obtain ⟨member, hmember, rfl⟩ := List.mem_map.mp hm
    simp only [List.mem_map, List.mem_filter]
    exact ⟨_, ⟨⟨member, hmember, rfl⟩, by simp [hfenced, Value.truthy, Value.text]⟩, rfl⟩
  | hash fields =>
    simp only [selectedNodes, withoutFenced] at h h'
    cases h
    cases h'
    obtain ⟨field, hfield, rfl⟩ := List.mem_map.mp hm
    rw [List.mem_filter] at hfield
    simp only [List.mem_map, List.mem_filter]
    exact ⟨field, ⟨⟨hfield.1, by simpa using hfenced⟩, hfield.2⟩, rfl⟩
  | str s =>
    simp only [withoutFenced] at h'
    by_cases hs : s = ""
    . subst hs
      simp only [selectedNodes, if_true] at h
      cases h
      have hsel : selectedNodes members (.str "") = .ok selected' := by
        simpa [splitOn_empty] using h'
      simp only [selectedNodes, if_true] at hsel
      cases hsel
      exact hm
    . simp only [selectedNodes, hs, if_false] at h
      cases h
      exact hjoined s hm h'
  | num s =>
    simp only [selectedNodes] at h
    cases h
    exact hjoined s hm h'
  | bool b => cases h
  | array items => cases h
  | otherRef => cases h

theorem mem_of_selectPeerNodes {members : Option (List (String × Member))} {localNode : String}
    {scope : Value} {peers : List String}
    (h : selectPeerNodes members localNode scope = .ok peers) :
    ∃ ms selected, members = some ms ∧ selectedNodes ms scope = .ok selected ∧
      ∀ m ∈ selected, m ≠ localNode → m ∈ peers := by
  cases members with
  | none => cases h
  | some ms =>
    simp only [selectPeerNodes, Perl.bind_unit_eq_ok] at h
    obtain ⟨-, h⟩ := h
    rw [Perl.bind_eq_ok] at h
    obtain ⟨selected, hselected, h⟩ := h
    simp only [Perl.bind_unit_eq_ok, pure_eq_ok] at h
    refine ⟨ms, selected, rfl, hselected, ?_⟩
    intro m hm hne
    rw [← h.2.2]
    simp [hm, hne]

/-- The audited peers are all nodes of the storage but this one and a fenced one. -/
theorem mem_configuredPeerNodes {nodes : Set String} (hcovers : Covers nodes env)
    (hnames : "" ∉ nodes) {fenced : Option String} {peers : List String}
    (h : configuredPeerNodes env.members env.node env.storage.nodes fenced = .ok peers) {m : String}
    (hm : m ∈ nodes) (hlocal : m ≠ env.node) (hfenced : fenced ≠ some m) : m ∈ peers := by
  have hne : m ≠ "" := fun he => hnames (he ▸ hm)
  cases fenced with
  | none =>
    obtain ⟨ms, selected, hms, hselected, hpeers⟩ := mem_of_selectPeerNodes h
    exact hpeers m (hcovers ms selected hms hselected m hm) hlocal
  | some f =>
    simp only [configuredPeerNodes, Perl.bind_unit_eq_ok] at h
    obtain ⟨ms, selected', hms, hselected', hpeers⟩ := mem_of_selectPeerNodes h.2
    rw [hms, Option.getD_some] at hselected'
    refine hpeers m ?_ hlocal
    cases hselected : selectedNodes ms env.storage.nodes with
    | ok selected =>
      have hmem := hcovers ms selected hms hselected m hm
      exact selected_withoutFenced hselected hselected' hmem hne fun he => hfenced (by rw [he])
    | error message =>
      exfalso
      cases hscope : env.storage.nodes with
      | undef => simp [hscope, selectedNodes] at hselected
      | str s => simp [hscope, selectedNodes] at hselected
      | num s => simp [hscope, selectedNodes] at hselected
      | hash fields => simp [hscope, selectedNodes] at hselected
      | bool b => rw [hscope] at hselected'; cases hselected'
      | array items => rw [hscope] at hselected'; cases hselected'
      | otherRef => rw [hscope] at hselected'; cases hselected'

theorem askPeers_eq_ok {peers : List String} {s s' : Session} {evidence : List Evidence}
    (h : askPeers env peers s = (s', .ok evidence)) : ∀ m ∈ peers,
      (⟨m, (s.cluster.kernel m).pool⟩ : Evidence) ∈ evidence := by
  induction peers generalizing evidence s' with
  | nil => simp
  | cons node rest ih =>
    rw [askPeers, prog_bind_eq_ok] at h
    obtain ⟨item, t, hitem, h⟩ := h
    rw [askPeer, prog_bind_eq_ok] at hitem
    obtain ⟨_, t', hask, hitem⟩ := hitem
    obtain ⟨rfl, -⟩ := ask_eq_ok.mp hask
    rw [prog_bind_eq_ok] at hitem
    obtain ⟨c, t'', hc, hitem⟩ := hitem
    obtain ⟨rfl, rfl⟩ := cluster_eq_ok.mp hc
    obtain ⟨rfl, rfl⟩ : t'' = t ∧ (⟨node, _⟩ : Evidence) = item := by
      simpa [pure] using hitem
    rw [prog_bind_eq_ok] at h
    obtain ⟨items, t, hitems, h⟩ := h
    obtain ⟨-, rfl⟩ : t = s' ∧ _ = evidence := by simpa [pure] using h
    intro m hm
    rcases List.mem_cons.mp hm with rfl | hm
    . exact List.mem_cons_self ..
    . exact List.mem_cons_of_mem _ (ih hitems m hm)

theorem absent_of_go {evidence : List Evidence} {seen : List String}
    (h : evaluatePeerMapperEvidence.go seen evidence = .ok .allPeersAbsent) :
    ∀ item ∈ evidence, item.present = false := by
  induction evidence generalizing seen with
  | nil => simp
  | cons item rest ih =>
    simp only [evaluatePeerMapperEvidence.go, Perl.bind_unit_eq_ok] at h
    obtain ⟨-, h⟩ := h
    split at h
    . cases h
    . rename_i hpresent
      intro e he
      rcases List.mem_cons.mp he with rfl | he
      . simpa using hpresent
      . exact ih h e he

/-- A passed audit: no other node of the storage, a fenced one apart, maps the pool. -/
theorem dark_of_audit {nodes : Set String} (hcovers : Covers nodes env) (hnames : "" ∉ nodes)
    (hguard : env.storage.leaseguard ≠ "disabled") {fenced : Option String} {s s' : Session}
    (h : remoteMapperAudit env fenced s = (s', .ok ())) {m : String} (hm : m ∈ nodes)
    (hlocal : m ≠ env.node) (hfenced : fenced ≠ some m) : ¬ Maps s.cluster m := by
  rw [remoteMapperAudit, prog_bind_eq_ok] at h
  obtain ⟨_, t, hmode, h⟩ := h
  obtain ⟨rfl, -⟩ := refuse_eq_ok.mp hmode
  rw [if_neg hguard, prog_bind_eq_ok] at h
  obtain ⟨_, t, htiming, h⟩ := h
  obtain ⟨rfl, -⟩ := ask_eq_ok.mp htiming
  rw [prog_bind_eq_ok] at h
  obtain ⟨_, t, hidentity, h⟩ := h
  obtain ⟨rfl, -⟩ := ask_eq_ok.mp hidentity
  rw [prog_bind_eq_ok] at h
  obtain ⟨peers, t, hread, h⟩ := h
  obtain ⟨rfl, hpeers⟩ := lift_eq_ok.mp hread
  rw [prog_bind_eq_ok] at h
  obtain ⟨evidence, t, hevidence, h⟩ := h
  obtain rfl := (silent_askPeers env peers).eq_of_ok hevidence
  rw [prog_bind_eq_ok] at h
  obtain ⟨decision, t, hjudged, h⟩ := h
  obtain ⟨rfl, hdecision⟩ := lift_eq_ok.mp hjudged
  cases decision with
  | remoteConflict node => cases h
  | allPeersAbsent =>
    unfold evaluatePeerMapperEvidence at hdecision
    split at hdecision
    . cases hdecision
    . have hmem := askPeers_eq_ok hevidence m
        (mem_configuredPeerNodes hcovers hnames hpeers hm hlocal hfenced)
      have habsent := absent_of_go hdecision _ hmem
      simp only at habsent
      rw [Maps, habsent]
      decide

/-! ## Commands -/

theorem kernel_setTags (c : Cluster) (f : List String → List String) :
    (c.setTags f).kernel = c.kernel := rfl

theorem setKernel_other {c : Cluster} {node m : String} {k : Kernel} (h : m ≠ node) :
    (c.setKernel node k).kernel m = c.kernel m := by
  simp [Cluster.setKernel, Function.update_of_ne h]

theorem setKernel_self (c : Cluster) (node : String) (k : Kernel) :
    (c.setKernel node k).kernel node = k := by simp [Cluster.setKernel]

/-- A command reaches no kernel but the one it is issued on. -/
theorem kernel_apply_other (command : Command) (pool node : String) (keepsPool : Bool)
    (c : Cluster) {m : String} (h : m ≠ node) :
    (command.apply pool node keepsPool c).kernel m = c.kernel m := by
  cases command with
  | activate lv => exact setKernel_other h
  | deactivate lv => exact setKernel_other h
  | deactivatePool =>
    simp only [Command.apply]
    split
    . exact setKernel_other h
    . rfl
  | convertPool => exact setKernel_other h
  | create lv => exact setKernel_other h
  | snapshot lv origin => exact setKernel_other h
  | remove lv => exact setKernel_other h
  | removePool => exact setKernel_other h
  | _ => rfl

theorem kernel_runCommand_other (command : Command) (s : Session) {m : String}
    (h : m ≠ env.node) : (runCommand env command s).1.cluster.kernel m = s.cluster.kernel m := by
  simp only [runCommand]
  split
  . exact kernel_apply_other command _ _ _ _ h
  . rfl

/-- The commands that change no kernel. -/
def Command.persistent : Command → Bool
  | .addTags _ | .delTags _ | .unmonitorPool | .disableAutoactivation _ | .extend _
  | .extendPool => true
  | _ => false

theorem kernel_runCommand {command : Command} (h : command.persistent = true) (s : Session) :
    (runCommand env command s).1.cluster.kernel = s.cluster.kernel := by
  simp only [runCommand]
  split
  . cases command with
    | addTags tags => rfl
    | delTags tags => rfl
    | unmonitorPool => rfl
    | disableAutoactivation lv => rfl
    | extend lv => rfl
    | extendPool => rfl
    | _ => simp [Command.persistent] at h
  . rfl

/-- The commands that can only take mappers away. -/
def Command.unmaps : Command → Bool
  | .deactivate _ | .deactivatePool | .unmonitorPool => true
  | _ => false

theorem maps_of_unmaps {command : Command} (h : command.unmaps = true) {s : Session}
    {m : String} (hm : Maps (runCommand env command s).1.cluster m) : Maps s.cluster m := by
  by_cases hnode : m = env.node
  . subst hnode
    simp only [runCommand] at hm
    split at hm
    . cases command with
      | deactivate lv =>
        simp only [Command.apply, Maps, setKernel_self, Kernel.unmap, Bool.and_eq_true] at hm
        exact hm.1
      | deactivatePool =>
        simp only [Command.apply] at hm
        split at hm
        . simp [Maps, setKernel_self] at hm
        . exact hm
      | unmonitorPool => exact hm
      | _ => simp [Command.unmaps] at h
    . exact hm
  . rw [Maps, kernel_runCommand_other command s hnode] at hm
    exact hm

/-! ## Exclusive states -/

theorem exclusive_of_dark (h : ∀ m, ¬ Maps c m) : Exclusive c := fun n hn => (h n hn).elim

theorem exclusive_of_alone {n : String} (halone : ∀ m, m ≠ n → ¬ Maps c m)
    (howner : recordedOwner c.tags = none ∨ recordedOwner c.tags = some n) :
    Exclusive c := by
  have honly : ∀ m, Maps c m → m = n := by
    intro m hm
    by_contra hne
    exact halone m hne hm
  intro m hm
  rw [honly m hm]
  exact ⟨howner, honly⟩

theorem recordedOwner_eq {tags : List String} {st : OwnerState}
    (h : ownerStateFromTags tags = .ok st) : recordedOwner tags = st.owner := by
  rw [recordedOwner, h]

/-- Before anything is activated the kernels are as they were found. -/
structure Frozen (k : String → Kernel) (s : Session) : Prop where
  kernel : s.cluster.kernel = k
  exclusive : Exclusive s.cluster

variable {k : String → Kernel}

theorem Frozen.maps {s : Session} (h : Frozen k s) (m : String) :
    Maps s.cluster m ↔ (k m).pool = true := by rw [Maps, h.kernel]

/-- The tags may change where no kernel maps the pool. -/
theorem frozen_runCommand {command : Command} (h : command.persistent = true)
    (hdark : ∀ m, (k m).pool = false) :
    Triple (Frozen k) (runCommand env command) (fun _ => Frozen k) (Frozen k) := by
  apply keeps_runCommand
  intro s hs
  have hkernel : (runCommand env command s).1.cluster.kernel = k := by
    rw [kernel_runCommand h, hs.kernel]
  refine ⟨hkernel, exclusive_of_dark ?_⟩
  intro m hm
  rw [Maps, hkernel, hdark m] at hm
  cases hm

theorem readOwner_triple {P : Session → Prop} {α : Type} {f : OwnerState → Op α}
    {Q : α → Session → Prop} {E : Session → Prop} (hE : ∀ s, P s → E s)
    (hf : ∀ st, Triple (fun s => P s ∧ recordedOwner s.cluster.tags = st.owner) (f st) Q E) :
    Triple P (readOwner env >>= f) Q E := by
  refine Triple.silent (silent_readOwner env) hE fun st => ?_
  exact (hf st).strengthen fun s h => ⟨h.1, recordedOwner_eq (readOwner_eq_ok h.2)⟩

/-- No node maps a pool whose owner, this node, does not. -/
theorem dark_of_owner {s : Session} (h : Frozen k s)
    (howner : recordedOwner s.cluster.tags = some env.node) (hdark : (k env.node).pool = false)
    (m : String) : (k m).pool = false := by
  by_contra hm
  have hm : Maps s.cluster m := (h.maps m).mpr (by simpa using hm)
  rcases (h.exclusive m hm).1 with hnone | hsome
  . rw [howner] at hnone
    cases hnone
  . rw [howner, Option.some.injEq] at hsome
    rw [← hsome, h.maps, hdark] at hm
    cases hm

theorem releasePoolOwner_frozen (hdark : (k env.node).pool = false) (foreignCleanupOk : Bool) :
    Keeps (Frozen k) (releasePoolOwner env foreignCleanupOk) := by
  refine Triple.bind (silent_ask _ _).keeps fun _ => ?_
  refine readOwner_triple (fun _ h => h) fun state => ?_
  split
  . exact triple_pure fun _ h => h.1
  . refine Triple.silent (silent_refuse _ _) (fun _ h => h.1) fun _ => ?_
    refine Triple.strengthen (R := fun s => Frozen k s ∧
      recordedOwner s.cluster.tags = state.owner) ?_ fun _ h => h.1
    cases state.owner with
    | none => exact triple_pure fun _ h => h.1
    | some owner =>
      dsimp only
      split
      . split
        . exact triple_pure fun _ h => h.1
        . exact triple_throwMessage fun _ h => h.1
      . rename_i howner
        rw [not_not] at howner
        subst howner
        refine Triple.strengthen (R := fun s => Frozen k s ∧ ∀ m, (k m).pool = false) ?_
          fun s h => ⟨h.1, dark_of_owner h.1 h.2 hdark⟩
        refine Triple.assume fun hall => ?_
        refine Triple.bind (frozen_runCommand rfl hall) fun _ => ?_
        exact (silent_readOwner env).keeps.bind fun after => (silent_refuse _ _).keeps

/-! ## Activation -/

/-- What a call may rely on: it covers its peers, its leaseguard is on, only nodes of the
storage map the pool and a fenced owner does not. -/
structure Relies (nodes : Set String) (env : Env) (k : String → Kernel) : Prop where
  covers : Covers nodes env
  names : "" ∉ nodes
  guard : env.storage.leaseguard ≠ "disabled"
  mapped : ∀ m, (k m).pool = true → m ∈ nodes
  fenced : ∀ owner, haTakeoverEvidence env.ha env.vmid owner env.node = .ok () →
    (k owner).pool = false

def Alone (env : Env) (k : String → Kernel) : Prop := ∀ m, m ≠ env.node → (k m).pool = false

variable {nodes : Set String}

theorem Relies.dark (h : Relies nodes env k) {fenced : Option String} {s s' : Session}
    (hs : Frozen k s) (haudit : remoteMapperAudit env fenced s = (s', .ok ())) {m : String}
    (hlocal : m ≠ env.node) (hfenced : fenced ≠ some m) : (k m).pool = false := by
  by_contra hm
  have hm : (k m).pool = true := by simpa using hm
  exact dark_of_audit h.covers h.names h.guard haudit (h.mapped m hm) hlocal hfenced
    ((hs.maps m).mpr hm)

theorem Alone.dark (h : Alone env k) (hdark : (k env.node).pool = false) (m : String) :
    (k m).pool = false := by
  by_cases hm : m = env.node
  . rw [hm]
    exact hdark
  . exact h m hm

theorem poolRuntimeState_eq_ok {s s' : Session} {state : RuntimeState}
    (h : poolRuntimeState env s = (s', .ok state)) :
    s' = s ∧ state.poolActive = (s.cluster.kernel env.node).pool := by
  rw [poolRuntimeState, prog_bind_eq_ok] at h
  obtain ⟨_, t, hask, h⟩ := h
  obtain ⟨rfl, -⟩ := ask_eq_ok.mp hask
  rw [prog_bind_eq_ok] at h
  obtain ⟨c, t, hc, h⟩ := h
  obtain ⟨rfl, rfl⟩ := cluster_eq_ok.mp hc
  rw [prog_bind_eq_ok] at h
  obtain ⟨_, t, hpool, h⟩ := h
  obtain ⟨rfl, -⟩ := refuse_eq_ok.mp hpool
  simp only [pure, Prod.mk.injEq, Except.ok.injEq] at h
  exact ⟨h.1.symm, by rw [← h.2]⟩

theorem claimUnowned_frozen (h : Relies nodes env k) {audited : Bool}
    (haudited : audited = true → Alone env k) :
    Triple (Frozen k) (claimUnowned env audited) (fun _ s => Frozen k s ∧ Alone env k)
      (Frozen k) := by
  refine Triple.silent (silent_poolRuntimeState env) (fun _ h => h) fun runtime => ?_
  refine Triple.silent (silent_refuse _ _) (fun _ h => h.1) fun _ => ?_
  refine Triple.strengthen (R := fun s => Frozen k s ∧ (k env.node).pool = false) ?_ ?_
  . refine Triple.assume fun hdark => ?_
    refine Triple.silent (Silent.whenever (silent_remoteMapperAudit env none) _) (fun _ h => h)
      fun _ => ?_
    refine Triple.strengthen (R := fun s => Frozen k s ∧ Alone env k) ?_ ?_
    . refine Triple.assume fun halone => ?_
      refine Triple.bind (frozen_runCommand rfl (halone.dark hdark)) fun _ => ?_
      refine Triple.bind (silent_readOwner env).keeps fun after => ?_
      refine Triple.bind (silent_refuse _ _).keeps fun _ => ?_
      exact triple_pure fun _ hs => ⟨hs, halone⟩
    . intro s hs
      refine ⟨hs.1, ?_⟩
      cases audited with
      | true => exact haudited rfl
      | false => exact fun m hm => h.dark hs.1 hs.2 hm (by simp)
  . intro s hs
    have hruntime := (poolRuntimeState_eq_ok hs.1.2).2
    have hrefuse := (refuse_eq_ok.mp hs.2).2
    rw [Bool.or_eq_false_iff, hruntime, hs.1.1.kernel] at hrefuse
    exact ⟨hs.1.1, hrefuse.1⟩

theorem takeOver_frozen (h : Relies nodes env k) {owner : String} (state : OwnerState)
    (hdark : (k env.node).pool = false) :
    Triple (Frozen k) (takeOver env owner state) (fun _ s => Frozen k s ∧ Alone env k)
      (Frozen k) := by
  refine Triple.bind (silent_refuse _ _).keeps fun _ => ?_
  refine Triple.silent (silent_lift _) (fun _ h => h) fun _ => ?_
  refine Triple.strengthen (R := fun s => Frozen k s ∧ (k owner).pool = false) ?_
    fun s hs => ⟨hs.1, h.fenced owner (lift_eq_ok.mp hs.2).2⟩
  refine Triple.assume fun hfenced => ?_
  refine Triple.silent (silent_remoteMapperAudit env _) (fun _ h => h) fun _ => ?_
  refine Triple.strengthen (R := fun s => Frozen k s ∧ Alone env k) ?_ ?_
  . refine Triple.assume fun halone => ?_
    refine Triple.bind (frozen_runCommand rfl (halone.dark hdark)) fun _ => ?_
    refine Triple.bind (silent_readOwner env).keeps fun after => ?_
    exact (silent_refuse _ _).keeps.weaken (fun _ h => h) (fun _ _ hs => ⟨hs, halone⟩) fun _ h => h
  . intro s hs
    refine ⟨hs.1, ?_⟩
    intro m hm
    by_cases howner : m = owner
    . rw [howner]
      exact hfenced
    . exact h.dark hs.1 hs.2 hm fun he => howner (Option.some.inj he).symm

theorem claimPoolOwner_frozen (h : Relies nodes env k) :
    Triple (Frozen k) (claimPoolOwner env) (fun _ s => Frozen k s ∧ Alone env k) (Frozen k) := by
  refine Triple.bind (silent_ask _ _).keeps fun _ => ?_
  refine readOwner_triple (fun _ h => h) fun state => ?_
  refine Triple.silent (silent_refuse _ _) (fun _ h => h.1) fun _ => ?_
  refine Triple.strengthen (R := fun s => Frozen k s ∧
    recordedOwner s.cluster.tags = state.owner) ?_ fun _ h => h.1
  cases state.owner with
  | none => exact (claimUnowned_frozen h (by simp)).strengthen fun _ h => h.1
  | some owner =>
    dsimp only
    split
    . refine Triple.silent (silent_remoteMapperAudit env none) (fun _ h => h.1) fun _ => ?_
      refine triple_pure fun s hs => ⟨hs.1.1, ?_⟩
      exact fun m hm => h.dark hs.1.1 hs.2 hm (by simp)
    . rename_i hforeign
      split
      . refine Triple.strengthen (R := fun s => Frozen k s ∧ (k env.node).pool = false) ?_ ?_
        . refine Triple.assume fun hdark => ?_
          refine Triple.bind (takeOver_frozen h state hdark) fun _ => ?_
          exact Triple.assume fun halone => claimUnowned_frozen h fun _ => halone
        . intro s hs
          refine ⟨hs.1, ?_⟩
          by_contra hm
          have hm := (hs.1.maps env.node).mpr (by simpa using hm)
          rcases (hs.1.exclusive env.node hm).1 with hnone | hsome
          . rw [hs.2] at hnone
            cases hnone
          . rw [hs.2, Option.some.injEq] at hsome
            exact hforeign hsome
      . exact triple_throwMessage fun _ h => h.1

theorem prepareGuard_frozen (hdark : (k env.node).pool = false) :
    Keeps (Frozen k) (prepareGuard env) := by
  refine (silent_ask _ _).keeps.bind fun _ => ?_
  refine (silent_ask _ _).keeps.attempt.bind fun answer => ?_
  cases answer with
  | ok _ => exact (silent_pure _).keeps
  | error message =>
    exact (releasePoolOwner_frozen hdark false).bind fun _ => (silent_throwMessage _).keeps

theorem runtimeBefore_pool {s s' : Session} {before : RuntimeState}
    (h : runtimeBefore env s = (s', .ok before)) (hguarded : guarded env = true) :
    before.poolActive = (s.cluster.kernel env.node).pool := by
  rw [runtimeBefore, if_pos hguarded] at h
  exact (poolRuntimeState_eq_ok h).2

/-- An activation maps the pool only where its node is the owner and no other node maps it. -/
theorem activate_exclusive (h : Relies nodes env k) (volname : String)
    (snapname : Option String) :
    Triple (Frozen k) (activateThinVolumeLocked env volname snapname)
      (fun _ s => Exclusive s.cluster) (fun s => Exclusive s.cluster) := by
  have hsilent {α : Type} {op : Op α} (h : Silent op) :
      Triple (Frozen k) op (fun _ => Frozen k) (fun s => Exclusive s.cluster) :=
    h.keeps.weaken (fun _ h => h) (fun _ _ h => h) fun _ h => h.exclusive
  refine Triple.bind (hsilent (silent_ask _ _)) fun _ => ?_
  refine Triple.bind (hsilent (silent_verifyOwnedVolume env volname false)) fun _ => ?_
  refine Triple.bind (hsilent (silent_ask _ _)) fun _ => ?_
  refine Triple.bind (hsilent (silent_ask _ _)) fun _ => ?_
  refine Triple.silent (silent_runtimeBefore env) (fun _ h => h.exclusive) fun before => ?_
  refine Triple.strengthen (R := fun s => Frozen k s ∧ (guarded env = true →
    before.poolActive = (k env.node).pool)) ?_ fun s hs => ⟨hs.1, fun hg => by
      rw [runtimeBefore_pool hs.2 hg, hs.1.kernel]⟩
  refine Triple.assume fun hbefore => ?_
  refine Triple.bind ((claimPoolOwner_frozen h).weaken (fun _ h => h) (fun _ _ h => h)
    fun _ h => h.exclusive) fun epoch => ?_
  refine Triple.assume fun halone => ?_
  have hprepare : Triple (Frozen k) (whenever (guarded env && !before.poolActive)
      (prepareGuard env)) (fun _ => Frozen k) (fun s => Exclusive s.cluster) := by
    unfold whenever
    split
    . rename_i hcondition
      rw [Bool.and_eq_true, Bool.not_eq_true', hbefore (by simp_all)] at hcondition
      exact (prepareGuard_frozen hcondition.2).weaken (fun _ h => h) (fun _ _ h => h)
        fun _ h => h.exclusive
    . exact hsilent (silent_pure _)
  refine Triple.bind hprepare fun _ => ?_
  refine Triple.silent (silent_activationCommitBarrier env epoch) (fun _ h => h.exclusive)
    fun _ => ?_
  apply triple_runCommand
  intro s hs
  obtain ⟨st, hst, howner⟩ := barrier_owner hs.2
  have hexclusive : Exclusive
      (runCommand env (.activate (lvOf volname snapname)) s).1.cluster := by
    refine exclusive_of_alone (n := env.node) ?_ ?_
    . intro m hm
      rw [Maps, kernel_runCommand_other _ s hm, hs.1.kernel, halone m hm]
      decide
    . rw [tags_runCommand rfl, recordedOwner_eq hst]
      exact Or.inr howner
  exact ⟨hexclusive, hexclusive⟩

/-! ## Deactivation -/

theorem exclusive_of_fewer {c' : Cluster} (h : Exclusive c)
    (htags : c'.tags = c.tags) (hmaps : ∀ m, Maps c' m → Maps c m) : Exclusive c' := by
  intro n hn
  obtain ⟨howner, honly⟩ := h n (hmaps n hn)
  rw [htags]
  exact ⟨howner, fun m hm => honly m (hmaps m hm)⟩

theorem exclusive_runCommand {command : Command} (htags : command.keepsTags = true)
    (hunmaps : command.unmaps = true) :
    Keeps (fun s => Exclusive s.cluster) (runCommand env command) :=
  keeps_runCommand fun s hs =>
    exclusive_of_fewer hs (tags_runCommand htags s) fun _ => maps_of_unmaps hunmaps

theorem deactivateIdlePool_exclusive (owner : OwnerState) (state : RuntimeState) :
    Keeps (fun s => Exclusive s.cluster) (deactivateIdlePool env owner state) := by
  refine Triple.bind (Keeps.whenever (exclusive_runCommand rfl rfl) _) fun _ => ?_
  refine Triple.silent (silent_poolRuntimeState env) (fun _ h => h) fun after => ?_
  refine Triple.silent (silent_refuse _ _) (fun _ h => h.1) fun _ => ?_
  intro s hs
  have hdark : (s.cluster.kernel env.node).pool = false := by
    rw [← (poolRuntimeState_eq_ok hs.1.2).2]
    exact (refuse_eq_ok.mp hs.2).2
  have hrest (message : String) : Keeps (Frozen s.cluster.kernel)
      (refuse (!after.activeChildren.isEmpty) message >>= fun _ =>
        releasePoolOwner env true >>= fun _ => releaseGuard env owner) := by
    refine (silent_refuse _ _).keeps.bind fun _ => ?_
    refine (releasePoolOwner_frozen hdark true).bind fun _ => ?_
    exact (silent_releaseGuard env owner).keeps
  exact (hrest _ s ⟨rfl, hs.1.1⟩).weaken (fun _ _ h => h.exclusive) fun _ h => h.exclusive

theorem deactivate_exclusive (volname : String) (snapname : Option String) :
    Keeps (fun s => Exclusive s.cluster) (deactivateThinVolumeLocked env volname snapname) := by
  refine (silent_ask _ _).keeps.bind fun _ => ?_
  refine (silent_ask _ _).keeps.bind fun _ => ?_
  refine (silent_verifyOwnedVolume env volname true).keeps.bind fun _ => ?_
  refine (silent_guardOwner env).keeps.bind fun owner => ?_
  refine (Silent.whenever (silent_ask _ _) _).keeps.bind fun _ => ?_
  refine (silent_poolRuntimeState env).keeps.bind fun state => ?_
  refine (Keeps.whenever (exclusive_runCommand rfl rfl) _).bind fun _ => ?_
  refine (exclusive_runCommand rfl rfl).bind fun _ => ?_
  refine (silent_poolRuntimeState env).keeps.bind fun state => ?_
  refine (silent_waitGone env _ _ state).keeps.bind fun state => ?_
  refine (silent_refuse _ _).keeps.bind fun _ => ?_
  exact Keeps.whenever (deactivateIdlePool_exclusive owner state) _

/-! ## Allocation -/

/-- No other node maps the pool and this node may own it. -/
structure Held (env : Env) (s : Session) : Prop where
  alone : ∀ m, m ≠ env.node → ¬ Maps s.cluster m
  owner : recordedOwner s.cluster.tags = none ∨ recordedOwner s.cluster.tags = some env.node

theorem Held.exclusive {s : Session} (h : Held env s) : Exclusive s.cluster :=
  exclusive_of_alone h.alone h.owner

theorem held_runCommand {command : Command} (h : command.keepsTags = true) :
    Keeps (Held env) (runCommand env command) := by
  apply keeps_runCommand
  intro s hs
  refine ⟨?_, ?_⟩
  . intro m hm
    rw [Maps, kernel_runCommand_other command s hm]
    exact hs.alone m hm
  . rw [tags_runCommand h]
    exact hs.owner

theorem held_growExistingPool : Keeps (Held env) (growExistingPool env) := by
  refine Keeps.whenever ?_ _
  have hgrow : Keeps (Held env) (growPool env) := by
    refine Keeps.whenever ?_ _
    exact (held_runCommand rfl).attempt.bind fun _ => (silent_ask _ _).keeps
  refine hgrow.bind fun _ => ?_
  exact (silent_ask _ _).keeps.bind fun _ => (silent_ask _ _).keeps

theorem held_disableAutoactivation (lv : String) :
    Keeps (Held env) (disableAutoactivation env lv) :=
  (held_runCommand rfl).bind fun _ => (silent_ask _ _).keeps

def HeldDark (env : Env) (s : Session) : Prop := Held env s ∧ ¬ Maps s.cluster env.node

theorem publishInactive_dark (name : String) :
    Triple (Held env) (publishInactive env name) (fun _ => HeldDark env) (Held env) := by
  refine Triple.bind (held_runCommand rfl) fun _ => ?_
  refine Triple.bind (held_runCommand rfl) fun _ => ?_
  refine Triple.bind silent_cluster.keeps fun c => ?_
  refine Triple.bind (Keeps.whenever (held_runCommand rfl) _) fun _ => ?_
  refine Triple.silent silent_cluster (fun _ h => h) fun c => ?_
  intro s hs
  apply (silent_refuse _ _).outcome hs.1
  intro u hok
  have hdark := (refuse_eq_ok.mp hok).2
  rw [(cluster_eq_ok.mp hs.2).2, Bool.or_eq_false_iff] at hdark
  refine ⟨hs.1, ?_⟩
  rw [Maps, hdark.1]
  decide

theorem clearImport_exclusive (imported : ImportState) :
    Triple (HeldDark env) (clearImport env imported) (fun _ s => Exclusive s.cluster)
      (fun s => Exclusive s.cluster) := by
  have hclear : Triple (HeldDark env) (runCommand env (.delTags imported.tags))
      (fun _ s => Exclusive s.cluster) (fun s => Exclusive s.cluster) := by
    apply triple_runCommand
    intro s hs
    have hdark : ∀ m, (s.cluster.kernel m).pool = false := by
      intro m
      by_cases hm : m = env.node
      . rw [hm]
        simpa [Maps] using hs.2
      . simpa [Maps] using hs.1.alone m hm
    have hkeeps : Keeps (Frozen s.cluster.kernel) (runCommand env (.delTags imported.tags)) :=
      frozen_runCommand rfl hdark
    have hfrozen := hkeeps.final ⟨rfl, hs.1.exclusive⟩
    exact ⟨hfrozen.exclusive, hfrozen.exclusive⟩
  refine Triple.bind hclear fun _ => ?_
  refine Keeps.bind (silent_ask _ _).keeps fun _ => ?_
  refine Keeps.bind silent_cluster.keeps fun c => ?_
  exact Keeps.bind (silent_lift _).keeps fun after => (silent_refuse _ _).keeps

/-- The allocation of a volume keeps an exclusive pool exclusive, provided that no other node
maps an unowned pool. -/
theorem allocate_exclusive {pool : PoolInfo} (hpool : c.pool = some pool) (hexclusive : Exclusive c)
    (hunowned : recordedOwner c.tags = none → ∀ m, m ≠ env.node → ¬ Maps c m)
    (fmt name : Option String) :
    Triple (fun s => s.cluster = c) (allocImageLocked env fmt name)
      (fun _ s => Exclusive s.cluster) (fun s => Exclusive s.cluster) := by
  have hstart : ∀ s : Session, s.cluster = c → Exclusive s.cluster := fun s hs => hs ▸ hexclusive
  have hsilent {α : Type} {op : Op α} (h : Silent op) : Triple (fun s => s.cluster = c) op
      (fun _ s => s.cluster = c) (fun s => Exclusive s.cluster) :=
    h.keeps.weaken (fun _ h => h) (fun _ _ h => h) hstart
  have hheld {α : Type} {op : Op α} (h : Keeps (Held env) op) : Triple (Held env) op
      (fun _ => Held env) (fun s => Exclusive s.cluster) :=
    h.weaken (fun _ h => h) (fun _ _ h => h) fun _ h => h.exclusive
  have hprepare (name : String) : Triple (fun s => s.cluster = c) (preparePool env c name)
      (fun _ => Held env) (fun s => Exclusive s.cluster) := by
    unfold preparePool
    rw [hpool]
    refine Triple.bind (hsilent (silent_ask _ _)) fun _ => ?_
    refine Triple.silent (silent_lift _) hstart fun checked => ?_
    refine Triple.strengthen (R := Held env) ?_ ?_
    . refine Triple.bind (hheld (silent_ask _ _).keeps) fun _ => ?_
      refine Triple.bind (hheld held_growExistingPool) fun _ => ?_
      exact triple_pure fun _ h => h
    . intro s hs
      obtain ⟨st, hst, howner⟩ := allowed_of_checkExistingPool (lift_eq_ok.mp hs.2).2
      rw [← tags_of_pool hpool] at hst
      have hrecorded := recordedOwner_eq hst
      refine ⟨?_, by rw [hs.1, hrecorded]; exact howner⟩
      intro m hm hmaps
      rw [hs.1] at hmaps
      rcases howner with hnone | hsome
      . exact hunowned (hrecorded.trans hnone) m hm hmaps
      . rcases (hexclusive m hmaps).1 with h | h
        . rw [hrecorded, hsome] at h
          cases h
        . rw [hrecorded, hsome, Option.some.injEq] at h
          exact hm h.symm
  refine Triple.bind (hsilent (silent_refuse _ _)) fun _ => ?_
  refine Triple.bind (hsilent (silent_ask _ _)) fun _ => ?_
  refine Triple.bind (hsilent (silent_ask _ _)) fun _ => ?_
  refine Triple.bind (hsilent (silent_diskName env name)) fun name => ?_
  refine Triple.bind (hsilent (silent_refuse _ _)) fun _ => ?_
  refine Triple.bind (hsilent (silent_ask _ _)) fun _ => ?_
  refine Triple.silent silent_cluster hstart fun c' => ?_
  refine Triple.strengthen (R := fun s => s.cluster = c ∧ c' = c) ?_
    fun s hs => ⟨hs.1, (cluster_eq_ok.mp hs.2).2.trans hs.1⟩
  refine Triple.assume fun hc => ?_
  rw [hc]
  refine Triple.bind (hsilent (silent_refuse _ _)) fun _ => ?_
  refine Triple.bind (hprepare name) fun plan => ?_
  refine Triple.bind (hheld (silent_ask _ _).keeps) fun _ => ?_
  refine Triple.bind (hheld silent_cluster.keeps) fun later => ?_
  refine Triple.bind (hheld (silent_refuse _ _).keeps) fun _ => ?_
  refine Triple.bind (hheld (Keeps.orPartial (held_runCommand rfl) _ _)) fun _ => ?_
  refine Triple.bind (hheld (Keeps.orPartial (held_disableAutoactivation name) _ _)) fun _ => ?_
  -- import evidence is cleared only after an inactive publication
  cases himported : plan.imported.active with
  | true =>
    simp only [Bool.or_true, Bool.true_or, whenever, if_true]
    refine Triple.bind ((Triple.orPartial (publishInactive_dark name) _ _).weaken (fun _ h => h)
      (fun _ _ h => h) fun _ h => h.exclusive) fun _ => ?_
    exact clearImport_exclusive plan.imported
  | false =>
    have hpublish : Keeps (Held env) (publishInactive env name) :=
      (publishInactive_dark name).weaken (fun _ h => h) (fun _ _ h => h.1) fun _ h => h
    refine Triple.bind (hheld (Keeps.whenever (Keeps.orPartial hpublish _ _) _)) fun _ => ?_
    exact triple_pure fun _ h => h.exclusive

/-! ## Other kernels -/

section EveryCommand

variable {I : Session → Prop} (hall : ∀ command : Command, Keeps I (runCommand env command))
include hall

theorem keeps_disableAutoactivation (lv : String) : Keeps I (disableAutoactivation env lv) :=
  (hall _).bind fun _ => (silent_ask _ _).keeps

theorem keeps_createPool (name : String) : Keeps I (createPool env name) := by
  refine (Keeps.orPartial (hall _) _ _).bind fun _ => Keeps.orPartial ?_ _ _
  refine (hall _).bind fun _ => ?_
  refine (hall _).bind fun _ => ?_
  exact (keeps_disableAutoactivation hall _).bind fun _ => (silent_ask _ _).keeps

theorem keeps_growExistingPool : Keeps I (growExistingPool env) := by
  refine Keeps.whenever ?_ _
  have hgrow : Keeps I (growPool env) := by
    refine Keeps.whenever ?_ _
    exact (hall _).attempt.bind fun _ => (silent_ask _ _).keeps
  refine hgrow.bind fun _ => ?_
  exact (silent_ask _ _).keeps.bind fun _ => (silent_ask _ _).keeps

theorem keeps_preparePool (c : Cluster) (name : String) : Keeps I (preparePool env c name) := by
  unfold preparePool
  cases c.pool with
  | none =>
    refine (silent_refuse _ _).keeps.bind fun _ => ?_
    refine (silent_ask _ _).keeps.bind fun _ => ?_
    refine (keeps_createPool hall name).bind fun _ => ?_
    exact (silent_ask _ _).keeps.bind fun _ => (silent_pure _).keeps
  | some pool =>
    refine (silent_ask _ _).keeps.bind fun _ => ?_
    refine (silent_lift _).keeps.bind fun checked => ?_
    refine (silent_ask _ _).keeps.bind fun _ => ?_
    exact (keeps_growExistingPool hall).bind fun _ => (silent_pure _).keeps

theorem keeps_publishInactive (name : String) : Keeps I (publishInactive env name) := by
  refine (hall _).bind fun _ => ?_
  refine (hall _).bind fun _ => ?_
  refine silent_cluster.keeps.bind fun c => ?_
  refine (Keeps.whenever (hall _) _).bind fun _ => ?_
  exact silent_cluster.keeps.bind fun c => (silent_refuse _ _).keeps

theorem keeps_allocImageLocked (fmt name : Option String) :
    Keeps I (allocImageLocked env fmt name) := by
  refine (silent_refuse _ _).keeps.bind fun _ => ?_
  refine (silent_ask _ _).keeps.bind fun _ => ?_
  refine (silent_ask _ _).keeps.bind fun _ => ?_
  refine (silent_diskName env name).keeps.bind fun name => ?_
  refine (silent_refuse _ _).keeps.bind fun _ => ?_
  refine (silent_ask _ _).keeps.bind fun _ => ?_
  refine silent_cluster.keeps.bind fun c => ?_
  refine (silent_refuse _ _).keeps.bind fun _ => ?_
  refine (keeps_preparePool hall c name).bind fun plan => ?_
  refine (silent_ask _ _).keeps.bind fun _ => ?_
  refine silent_cluster.keeps.bind fun later => ?_
  refine (silent_refuse _ _).keeps.bind fun _ => ?_
  refine (Keeps.orPartial (hall _) _ _).bind fun _ => ?_
  refine (Keeps.orPartial (keeps_disableAutoactivation hall name) _ _).bind fun _ => ?_
  refine (Keeps.whenever (Keeps.orPartial (keeps_publishInactive hall name) _ _) _).bind fun _ => ?_
  refine Keeps.whenever ?_ _
  refine (hall _).bind fun _ => ?_
  refine (silent_ask _ _).keeps.bind fun _ => ?_
  refine silent_cluster.keeps.bind fun c => ?_
  exact (silent_lift _).keeps.bind fun after => (silent_refuse _ _).keeps

end EveryCommand

/-! ## The system -/

structure World where
  cluster : Cluster
  -- reported fenced by the HA manager and not yet back
  fenced : String → Bool

inductive Call
  | activate (volname : String) (snapname : Option String)
  | deactivate (volname : String) (snapname : Option String)
  | allocImage (fmt name : Option String)

def Call.op (env : Env) : Call → Op Unit
  | .activate volname snapname => activateVolume env volname snapname
  | .deactivate volname snapname => deactivateVolume env volname snapname
  | .allocImage fmt name => Thin.allocImage env fmt name

inductive Event
  | call (env : Env) (call : Call)
  | fence (node : String)
  | reboot (node : String)

/-- A call comes from a live node of the storage, with a leaseguard, for the one pool, and the
HA manager reports only fenced owners. -/
structure Fits (nodes : Set String) (vmid : String) (w : World) (env : Env) : Prop where
  vmid : env.vmid = vmid
  node : env.node ∈ nodes
  live : w.fenced env.node = false
  guard : env.storage.leaseguard = "remote-audit" ∨ env.storage.leaseguard = "runtime-guard"
  covers : Covers nodes env
  takeover : ∀ owner, haTakeoverEvidence env.ha env.vmid owner env.node = .ok () →
    w.fenced owner = true

def World.lose (w : World) (node : String) (fenced : Bool) : World :=
  ⟨w.cluster.setKernel node ⟨false, []⟩, Function.update w.fenced node fenced⟩

/-- Calls hold the lock of the volume group for as long as they run. A fenced node has lost
its mappers and does nothing before it reboots. -/
inductive Step (nodes : Set String) (vmid : String) (w : World) : Event → World → Prop
  | call {env : Env} {call : Call} (hfits : Fits nodes vmid w env)
      (hpool : w.cluster.pool.isSome = true) :
      Step nodes vmid w (.call env call)
        { w with cluster := (call.op env ⟨w.cluster, []⟩).1.cluster }
  | fence {node : String} : Step nodes vmid w (.fence node) (w.lose node true)
  | reboot {node : String} : Step nodes vmid w (.reboot node) (w.lose node false)

/-- No volume is allocated into an unowned pool that another kernel maps. -/
def Orderly (w : World) : Event → Prop
  | .call env (.allocImage _ _) => recordedOwner w.cluster.tags = none →
      ∀ m, m ≠ env.node → ¬ Maps w.cluster m
  | _ => True

structure World.Sound (nodes : Set String) (w : World) : Prop where
  exclusive : Exclusive w.cluster
  mapped : ∀ m, Maps w.cluster m → m ∈ nodes
  dark : ∀ m, w.fenced m = true → ¬ Maps w.cluster m

theorem others_kept (call : Call) (c : Cluster) {m : String} (hm : m ≠ env.node) :
    (call.op env ⟨c, []⟩).1.cluster.kernel m = c.kernel m := by
  have hall (command : Command) :
      Keeps (fun s : Session => s.cluster.kernel m = c.kernel m) (runCommand env command) :=
    keeps_runCommand fun s hs => by rw [kernel_runCommand_other command s hm, hs]
  have hadmitted {op : Op Unit}
      (h : Keeps (fun s : Session => s.cluster.kernel m = c.kernel m) op) :
      Keeps (fun s : Session => s.cluster.kernel m = c.kernel m) (admitted env op) := by
    refine (silent_ask _ _).keeps.bind fun _ => ?_
    exact (silent_ask _ _).keeps.bind fun _ => h
  cases call with
  | activate volname snapname =>
    exact (hadmitted (keeps_activateThinVolumeLocked (fun command _ => hall command)
      volname snapname)).final rfl
  | deactivate volname snapname =>
    have hkeeps := keeps_deactivateThinVolumeLocked (fun command _ => hall command) volname snapname
    exact ((silent_ask _ _).keeps.bind fun _ => hkeeps).final rfl
  | allocImage fmt name => exact (hadmitted (keeps_allocImageLocked hall fmt name)).final rfl

theorem World.Sound.relies {w : World} (h : w.Sound nodes) {vmid : String} (hnames : "" ∉ nodes)
    (hfits : Fits nodes vmid w env) : Relies nodes env w.cluster.kernel := by
  constructor
  . exact hfits.covers
  . exact hnames
  . rcases hfits.guard with hguard | hguard <;> rw [hguard] <;> decide
  . exact h.mapped
  . intro owner hevidence
    simpa [Maps] using h.dark owner (hfits.takeover owner hevidence)

theorem call_exclusive {w : World} (h : w.Sound nodes) {vmid : String} (hnames : "" ∉ nodes)
    (hfits : Fits nodes vmid w env) (hpool : w.cluster.pool.isSome = true) {call : Call}
    (horderly : Orderly w (.call env call)) :
    Exclusive (call.op env ⟨w.cluster, []⟩).1.cluster := by
  have hadmitted {P : Session → Prop} {op : Op Unit}
      (hP : ∀ s, P s → Exclusive s.cluster)
      (hop : Triple P op (fun _ s => Exclusive s.cluster) fun s => Exclusive s.cluster)
      (hstart : P ⟨w.cluster, []⟩) : Exclusive (admitted env op ⟨w.cluster, []⟩).1.cluster := by
    have hsilent (check : Check) : Triple P (ask env check) (fun _ => P)
        fun s => Exclusive s.cluster :=
      (silent_ask _ _).keeps.weaken (fun _ h => h) (fun _ _ h => h) hP
    have hrun := Triple.bind (hsilent .released) fun _ => Triple.bind (hsilent .lock) fun _ => hop
    exact (hrun _ hstart).final (fun _ _ h => h) fun _ h => h
  have hrelies := h.relies hnames hfits
  cases call with
  | activate volname snapname =>
    exact hadmitted (fun _ hs => hs.exclusive) (activate_exclusive hrelies volname snapname)
      ⟨rfl, h.exclusive⟩
  | deactivate volname snapname =>
    have hkeeps := @deactivate_exclusive env volname snapname
    exact ((silent_ask _ _).keeps.bind fun _ => hkeeps).final (s := ⟨w.cluster, []⟩) h.exclusive
  | allocImage fmt name =>
    obtain ⟨pool, hpool⟩ := Option.isSome_iff_exists.mp hpool
    exact hadmitted (P := fun s => s.cluster = w.cluster) (fun s hs => hs ▸ h.exclusive)
      (allocate_exclusive hpool h.exclusive horderly fmt name) rfl

theorem sound_of_lose {w : World} (h : w.Sound nodes) (node : String) (fenced : Bool) :
    (w.lose node fenced).Sound nodes := by
  have hmaps : ∀ m, Maps (w.lose node fenced).cluster m → m ≠ node ∧ Maps w.cluster m := by
    intro m hm
    by_cases hnode : m = node
    . subst hnode
      simp [Maps, World.lose, setKernel_self] at hm
    . rw [Maps, World.lose, setKernel_other hnode] at hm
      exact ⟨hnode, hm⟩
  constructor
  . exact exclusive_of_fewer h.exclusive rfl fun m hm => (hmaps m hm).2
  . exact fun m hm => h.mapped m (hmaps m hm).2
  . intro m hfenced hm
    obtain ⟨hnode, hm⟩ := hmaps m hm
    simp only [World.lose, Function.update_of_ne hnode] at hfenced
    exact h.dark m hfenced hm

theorem sound_of_step {vmid : String} (hnames : "" ∉ nodes) {w w' : World} {event : Event}
    (hstep : Step nodes vmid w event w') (horderly : Orderly w event) (h : w.Sound nodes) :
    w'.Sound nodes := by
  cases hstep with
  | fence => exact sound_of_lose h _ true
  | reboot => exact sound_of_lose h _ false
  | @call env call hfits hpool =>
    constructor
    . exact call_exclusive h hnames hfits hpool horderly
    . intro m hm
      by_cases hnode : m = env.node
      . exact hnode ▸ hfits.node
      . rw [Maps, others_kept call w.cluster hnode] at hm
        exact h.mapped m hm
    . intro m hfenced hm
      by_cases hnode : m = env.node
      . rw [hnode, hfits.live] at hfenced
        cases hfenced
      . rw [Maps, others_kept call w.cluster hnode] at hm
        exact h.dark m hfenced hm

/-- In a run of orderly steps the pool is mapped by at most one kernel, that of its owner. -/
theorem exclusive_run {vmid : String} (hnames : "" ∉ nodes) {σ : ℕ → World} {event : ℕ → Event}
    {n : ℕ} (hrun : IsTrace (Step nodes vmid) σ event n) (h0 : ∀ m, ¬ Maps (σ 0).cluster m)
    (horderly : ∀ i < n, Orderly (σ i) (event i)) : ∀ i ≤ n, Exclusive (σ i).cluster := by
  have htrace : IsTrace (fun w e w' => Step nodes vmid w e w' ∧ Orderly w e) σ event n :=
    fun i hi => ⟨hrun i hi, horderly i hi⟩
  have hstart : (σ 0).Sound nodes :=
    ⟨exclusive_of_dark h0, fun m hm => (h0 m hm).elim, fun m _ => h0 m⟩
  have hsound := htrace.invariant_from (i := 0) (P := World.Sound nodes) hstart
    fun w e w' hstep h => sound_of_step hnames hstep.1 hstep.2 h
  intro i hi
  exact (hsound i (Nat.zero_le i) hi).exclusive

/-! ## Two nodes -/

def twoNodes : Set String := {"a", "b"}

/-- A stopped VM: the pool carries the schema and no owner, and no kernel maps it. -/
def idleCluster : Cluster where
  pool := some ⟨"t", [sidTag "thin", schemaTag]⟩
  volumes := [("vm-100-disk-0", some "sltp-100")]
  kernel := fun _ => ⟨false, []⟩

/-- The call stops right after its first command. -/
def stoppedEnv (node : String) : Env :=
  { sampleEnv node with
    outcome := fun i => if i = 0 then ⟨true, true, .ok ()⟩ else ⟨false, true, .error "stopped"⟩ }

theorem fits_sample {w : World} {env : Env} (hnode : env.node ∈ twoNodes)
    (hlive : w.fenced env.node = false) (hstorage : env.storage = sampleStorage)
    (hvmid : env.vmid = "100") (hmembers : env.members = (sampleEnv "a").members)
    (hha : env.ha = ⟨none, none, 0⟩) : Fits twoNodes "100" w env := by
  constructor
  . exact hvmid
  . exact hnode
  . exact hlive
  . rw [hstorage]
    exact Or.inl rfl
  . intro members selected hms hselected m hm
    rw [hmembers] at hms
    cases hms
    rw [hstorage] at hselected
    cases hselected
    rcases hm with rfl | rfl <;> decide
  . intro owner hevidence
    rw [hha, hvmid, haTakeoverEvidence] at hevidence
    exact absurd hevidence (by simp)

def idleWorld : World := ⟨idleCluster, fun _ => false⟩

/-- The world after a call. -/
def World.after (w : World) (env : Env) (call : Call) : World :=
  { w with cluster := (call.op env ⟨w.cluster, []⟩).1.cluster }

/-- Two allocations into the unowned pool, on two nodes, each stopped after its lvcreate. -/
def strandedWorld : ℕ → World
  | 0 => idleWorld
  | 1 => idleWorld.after (stoppedEnv "a") (.allocImage none (some "vm-100-disk-1"))
  | _ => (idleWorld.after (stoppedEnv "a") (.allocImage none (some "vm-100-disk-1"))).after
      (stoppedEnv "b") (.allocImage none (some "vm-100-disk-2"))

def strandedEvent (i : ℕ) : Event :=
  if i = 0 then .call (stoppedEnv "a") (.allocImage none (some "vm-100-disk-1"))
  else .call (stoppedEnv "b") (.allocImage none (some "vm-100-disk-2"))

theorem stranded_isTrace : IsTrace (Step twoNodes "100") strandedWorld strandedEvent 2 := by
  intro i hi
  interval_cases i
  . exact Step.call (fits_sample (Or.inl rfl) rfl rfl rfl rfl rfl) rfl
  . exact Step.call (fits_sample (Or.inr rfl) rfl rfl rfl rfl rfl) (by decide +kernel)

theorem exclusive_run_fails : IsTrace (Step twoNodes "100") strandedWorld strandedEvent 2 ∧
    (∀ m, ¬ Maps (strandedWorld 0).cluster m) ∧ ¬ Exclusive (strandedWorld 2).cluster := by
  refine ⟨stranded_isTrace, by simp [Maps, strandedWorld, idleWorld, idleCluster], ?_⟩
  intro h
  have ha : Maps (strandedWorld 2).cluster "a" := by
    show ((strandedWorld 2).cluster.kernel "a").pool = true
    decide +kernel
  have hb : Maps (strandedWorld 2).cluster "b" := by
    show ((strandedWorld 2).cluster.kernel "b").pool = true
    decide +kernel
  exact absurd ((h "a" ha).2 "b" hb) (by decide)

/-- Allocation, activation and the reboot of the owner. -/
def orderlyWorld : ℕ → World
  | 0 => idleWorld
  | 1 => idleWorld.after (sampleEnv "a") (.allocImage none (some "vm-100-disk-1"))
  | 2 => (idleWorld.after (sampleEnv "a") (.allocImage none (some "vm-100-disk-1"))).after
      (sampleEnv "b") (.activate "vm-100-disk-0" none)
  | _ => ((idleWorld.after (sampleEnv "a") (.allocImage none (some "vm-100-disk-1"))).after
      (sampleEnv "b") (.activate "vm-100-disk-0" none)).lose "b" false

def orderlyEvent : ℕ → Event
  | 0 => .call (sampleEnv "a") (.allocImage none (some "vm-100-disk-1"))
  | 1 => .call (sampleEnv "b") (.activate "vm-100-disk-0" none)
  | _ => .reboot "b"

theorem orderly_isTrace : IsTrace (Step twoNodes "100") orderlyWorld orderlyEvent 3 := by
  intro i hi
  interval_cases i
  . exact Step.call (fits_sample (Or.inl rfl) rfl rfl rfl rfl rfl) rfl
  . exact Step.call (fits_sample (Or.inr rfl) rfl rfl rfl rfl rfl) (by decide +kernel)
  . exact Step.reboot

theorem exclusive_run_reboot : Exclusive (orderlyWorld 2).cluster := by
  have hnames : "" ∉ twoNodes := by
    rintro (h | h) <;> exact absurd h (by decide)
  have hdark : ∀ m, ¬ Maps idleCluster m := by
    intro m
    simp [Maps, idleCluster]
  refine exclusive_run hnames orderly_isTrace hdark ?_ 2 (by decide)
  intro i hi
  interval_cases i
  . exact fun _ m _ => hdark m
  . trivial
  . trivial

end SharedLvmThin.Thin
