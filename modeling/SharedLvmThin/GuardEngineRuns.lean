import SharedLvmThin.GuardEngine
import SharedLvmThin.GuardStateSteps
import SharedLvmThin.Runs

/-! Runs of the guard engine under any requests, inventories, clocks and socket answers.
Fencing is final: nothing is acknowledged or written after the latch. An acknowledgement
means a live watchdog client, unless a close was refused after the magic byte. -/

namespace SharedLvmThin.Guard
open Perl Runs

variable {Time : Type} [LinearOrder Time] [HAdd Time ℕ Time]

inductive EngineCall (Time : Type)
  | prepare (request : Option EngineRequest) (now : Option Time) (provider : InventoryProvider)
      (io : SocketAnswers)
  | observe (keys : List String) (now : Option Time) (provider : InventoryProvider)
      (io : SocketAnswers)
  | release (request : Option EngineRequest) (provider : InventoryProvider) (io : SocketAnswers)

def EngineCall.run (call : EngineCall Time) (g : Engine Time) :
    Engine Time × Except String Reply :=
  match call with
  | .prepare request now provider io => g.prepare request now provider io
  | .observe keys now provider io => g.observe keys now provider io
  | .release request provider io => g.release request provider io

def EngineCall.Fits (call : EngineCall Time) (g : Engine Time) : Prop :=
  match call with
  | .observe keys _ _ _ => keys.Perm g.state.epochs.keys
  | _ => True

def EngineStep (g : Engine Time) (call : EngineCall Time) (g' : Engine Time) : Prop :=
  call.Fits g ∧ g' = (call.run g).1

/-! ## What each call does -/

omit [LinearOrder Time] [HAdd Time ℕ Time] in
theorem admission_safe {request : Option EngineRequest} {provider : InventoryProvider}
    {g : Engine Time} {request' : EngineRequest} {pool : Pool} {decision : Decision}
    (h : g.admission request provider = .ok (request', pool, decision)) :
    decision.safe = true ∧ decision.action = .activateExclusive := by
  simp only [Engine.admission, bind_eq_ok, pure_eq_ok, Prod.mk.injEq] at h
  obtain ⟨_, -, inventory, -, _, -, d, hd, -, -, rfl⟩ := h
  unfold admissionDecision at hd
  split at hd
  · cases hd
  · simp only [bind_eq_ok, dieIf_eq_ok, pure_eq_ok, exists_const, Bool.not_eq_false'] at hd
    obtain ⟨hsafe, rfl⟩ := hd
    exact ⟨hsafe, action_of_safe hsafe⟩

variable {g g' : Engine Time} {r : Except String Reply} {io : SocketAnswers}
  {request : Option EngineRequest} {now : Option Time} {provider : InventoryProvider}

omit [LinearOrder Time] in
theorem Engine.prepare_cases (h : g.prepare request now provider io = (g', r)) :
    (g' = g ∧ ∃ message, r = .error message) ∨
      ∃ request' pool decision reply armed,
        g.admission request provider = .ok (request', pool, decision) ∧
        Guard.prepare ⟨some decision, pool.poolUuid, pool.ownerEpoch, pool.mapperUuid, now⟩
          g.state = .ok (g'.state, reply) ∧
        ensureArmed decision io g.watchdog = (g'.watchdog, armed) ∧
        ((armed = .ok () ∧ r = .ok reply) ∨
          (∃ message, armed = .error message ∧ r = .error message)) := by
  unfold Engine.prepare at h
  split at h
  · cases h
    exact Or.inl ⟨rfl, _, rfl⟩
  · rename_i request' pool decision hadmission
    split at h
    · cases h
      exact Or.inl ⟨rfl, _, rfl⟩
    · rename_i state reply hprepare
      split at h
      · rename_i w message harm
        cases h
        exact Or.inr ⟨_, _, _, _, _, hadmission, hprepare, harm, Or.inr ⟨_, rfl, rfl⟩⟩
      · rename_i w harm
        cases h
        exact Or.inr ⟨_, _, _, _, _, hadmission, hprepare, harm, Or.inl ⟨rfl, rfl⟩⟩

omit [HAdd Time ℕ Time] in
theorem Engine.observe_cases {keys : List String}
    (h : g.observe keys now provider io = (g', r)) :
    (g' = g ∧ ∃ message, r = .error message) ∨
      ∃ sample reply, Guard.observe keys sample g.state = (g'.state, reply) ∧
        ((∃ ok, reply.action = .refreshWatchdog ∧
            g.watchdog.refresh (some ⟨true, .refreshWatchdog⟩) io = (g'.watchdog, ok) ∧
            r = if ok then .ok reply else .error "guardian watchdog refresh failed") ∨
          (∃ ok, reply.action = .stopWatchdogRefresh ∧ r = .ok reply ∧
            g.watchdog.refresh (some ⟨false, .stopWatchdogRefresh⟩) io = (g'.watchdog, ok)) ∨
          (reply.action ≠ .refreshWatchdog ∧ reply.action ≠ .stopWatchdogRefresh ∧
            r = .ok reply ∧ g'.watchdog = g.watchdog)) := by
  unfold Engine.observe at h
  split at h
  · cases h
    exact Or.inl ⟨rfl, _, rfl⟩
  · rename_i inventory hinventory
    split at h
    rename_i state reply hobserve
    right
    split_ifs at h with hrefresh hstop
    · cases h
      exact ⟨_, _, hobserve, Or.inl ⟨_, hrefresh, rfl, rfl⟩⟩
    · cases h
      exact ⟨_, _, hobserve, Or.inr (Or.inl ⟨_, hstop, rfl, rfl⟩)⟩
    · cases h
      exact ⟨_, _, hobserve, Or.inr (Or.inr ⟨hrefresh, hstop, rfl, rfl⟩)⟩

omit [LinearOrder Time] [HAdd Time ℕ Time] in
theorem Engine.release_cases (h : g.release request provider io = (g', r)) :
    (g' = g ∧ ∃ message, r = .error message) ∨
      ∃ proof reply, g.releaseProof request provider = .ok proof ∧
        Guard.release proof g.state = .ok (g'.state, reply) ∧
        ((reply.action ≠ .cleanDisarm ∧ r = .ok reply ∧ g'.watchdog = g.watchdog) ∨
          (reply.action = .cleanDisarm ∧ ∃ disarmed,
            g.watchdog.cleanDisarm ⟨some "1", some "1", some "1"⟩ io = (g'.watchdog, disarmed) ∧
            ((disarmed = .ok () ∧ r = .ok reply) ∨
              (∃ message, disarmed = .error message ∧ r = .error message)))) := by
  unfold Engine.release at h
  split at h
  · cases h
    exact Or.inl ⟨rfl, _, rfl⟩
  · rename_i proof hproof
    split at h
    · cases h
      exact Or.inl ⟨rfl, _, rfl⟩
    · rename_i state reply hrelease
      right
      split_ifs at h with hdisarm
      · split at h
        · rename_i w message hw
          cases h
          exact ⟨_, _, hproof, hrelease, Or.inr ⟨hdisarm, _, hw, Or.inr ⟨_, rfl, rfl⟩⟩⟩
        · rename_i w hw
          cases h
          exact ⟨_, _, hproof, hrelease, Or.inr ⟨hdisarm, _, hw, Or.inl ⟨rfl, rfl⟩⟩⟩
      · cases h
        exact ⟨_, _, hproof, hrelease, Or.inl ⟨hdisarm, rfl, rfl⟩⟩

/-! ## Fencing is final -/

variable {call : EngineCall Time}

theorem latch_kept (h : call.run g = (g', r)) (hlatch : g.state.uncertaintyLatched = true) :
    g'.state.uncertaintyLatched = true ∧ g'.state.epochs = g.state.epochs := by
  cases call with
  | prepare request now provider io =>
    obtain ⟨rfl, -⟩ | ⟨_, _, _, _, _, -, hprepare, -⟩ := Engine.prepare_cases h
    · exact ⟨hlatch, rfl⟩
    · have hclear := (prepare_eq_ok hprepare).1
      rw [hlatch] at hclear
      cases hclear
  | observe keys now provider io =>
    obtain ⟨rfl, -⟩ | ⟨sample, reply, hobserve, -⟩ := Engine.observe_cases h
    · exact ⟨hlatch, rfl⟩
    · obtain ⟨reason, m, -, hm, hfence⟩ | ⟨hclear, -⟩ := observe_cases keys sample g.state
      · have hstate : g'.state = (fence reason { g.state with epochs := m }).1 := by
          rw [← hfence, hobserve]
        rw [hstate]
        exact ⟨rfl, hm hlatch⟩
      · rw [hlatch] at hclear
        cases hclear
  | release request provider io =>
    obtain ⟨rfl, -⟩ | ⟨_, _, -, hrelease, -⟩ := Engine.release_cases h
    · exact ⟨hlatch, rfl⟩
    · have hclear := (release_eq_ok hrelease).1
      rw [hlatch] at hclear
      cases hclear

/-- A call that leaves the latch set has fenced, has written nothing and says so if it
returns at all. -/
theorem latched_call (h : call.run g = (g', r)) (hlatch : g'.state.uncertaintyLatched = true)
    (hmode : g.state.uncertaintyLatched = true → g.state.state = .fencing) :
    g'.state.state = .fencing ∧ g'.watchdog.syswrites = g.watchdog.syswrites ∧
      ∀ reply, r = .ok reply → reply.action = .stopWatchdogRefresh := by
  have hdead : g' = g → (∃ message, r = .error message) →
      g'.state.state = .fencing ∧ g'.watchdog.syswrites = g.watchdog.syswrites ∧
        ∀ reply, r = .ok reply → reply.action = .stopWatchdogRefresh := by
    intro hsame herror
    obtain ⟨message, rfl⟩ := herror
    subst hsame
    exact ⟨hmode hlatch, rfl, fun reply hreply => by cases hreply⟩
  cases call with
  | prepare request now provider io =>
    obtain ⟨hsame, herror⟩ | ⟨_, _, _, _, _, -, hprepare, -⟩ := Engine.prepare_cases h
    · exact hdead hsame herror
    · obtain ⟨hclear, _, _, _, _, -, -, -, -, -, hstate, -⟩ := prepare_eq_ok hprepare
      rw [hstate, hclear] at hlatch
      cases hlatch
  | observe keys now provider io =>
    obtain ⟨hsame, herror⟩ | ⟨sample, reply, hobserve, hwatchdog⟩ := Engine.observe_cases h
    · exact hdead hsame herror
    · obtain ⟨reason, m, -, -, hfence⟩ | ⟨hclear, _, _, m, b, -, -, -, hsettle⟩ :=
        observe_cases keys sample g.state
      · obtain ⟨hstate, hreply⟩ := Prod.mk.inj (hobserve.symm.trans hfence)
        subst hreply
        obtain ⟨_, hrefresh, -⟩ | ⟨_, -, hr, hstop⟩ | ⟨-, hnot, -⟩ := hwatchdog
        · cases hrefresh
        · refine ⟨by rw [hstate], Watchdog.refresh_silent hstop, fun reply' hreply' => ?_⟩
          rw [← Except.ok.inj (hr.symm.trans hreply')]
        · exact absurd rfl hnot
      · obtain ⟨hstate, -⟩ := Prod.mk.inj (hobserve.symm.trans hsettle)
        rw [hstate] at hlatch
        exact absurd (hclear.symm.trans hlatch) (by decide)
  | release request provider io =>
    obtain ⟨hsame, herror⟩ | ⟨_, _, -, hrelease, -⟩ := Engine.release_cases h
    · exact hdead hsame herror
    · obtain ⟨-, -, -, -, -, -, hclear, -⟩ := release_eq_ok hrelease
      rw [hclear] at hlatch
      cases hlatch

variable {σ : ℕ → Engine Time} {calls : ℕ → EngineCall Time} {n : ℕ}

omit [LinearOrder Time] [HAdd Time ℕ Time] in
theorem newEngine_state {pendingTimeout : Option String} {w : Watchdog}
    (h : newEngine pendingTimeout w = .ok g) :
    g.state.uncertaintyLatched = false ∧ g.state.epochs = ∅ ∧ g.watchdog = w := by
  simp only [newEngine, bind_eq_ok, pure_eq_ok, newGuardState] at h
  obtain ⟨state, hstate, rfl⟩ := h
  split_ifs at hstate
  cases hstate
  exact ⟨rfl, rfl, rfl⟩

/-- From the latch on the state stays fencing with its epochs, and every call that leaves the
latch set is silent on the socket and returns nothing but the order to stop. -/
theorem fencing_irreversible {pendingTimeout : Option String} {w : Watchdog}
    (hnew : newEngine pendingTimeout w = .ok (σ 0)) (hrun : IsTrace EngineStep σ calls n) :
    (∀ i j, i ≤ j → j ≤ n → (σ i).state.uncertaintyLatched = true →
      (σ j).state.uncertaintyLatched = true ∧ (σ j).state.state = .fencing ∧
        (σ j).state.epochs = (σ i).state.epochs) ∧
    (∀ i < n, (σ (i + 1)).state.uncertaintyLatched = true →
      (σ (i + 1)).watchdog.syswrites = (σ i).watchdog.syswrites ∧
        ∀ reply, ((calls i).run (σ i)).2 = .ok reply →
          reply.action ≠ .ackPrepared ∧ reply.action ≠ .refreshWatchdog ∧
            reply.action ≠ .cleanDisarm) := by
  have hmode : ∀ i ≤ n, (σ i).state.uncertaintyLatched = true → (σ i).state.state = .fencing := by
    intro i hi
    refine hrun.invariant_from (i := 0) (P := fun g => g.state.uncertaintyLatched = true → g.state.state = .fencing) ?_ ?_ i (Nat.zero_le i) hi
    · intro hlatch
      rw [(newEngine_state hnew).1] at hlatch
      cases hlatch
    · intro a l b hstep ha hlatch
      obtain ⟨-, rfl⟩ := hstep
      exact (latched_call rfl hlatch ha).1
  refine ⟨?_, ?_⟩
  · intro i j hij hj hlatch
    have hkept : (σ j).state.uncertaintyLatched = true ∧ (σ j).state.epochs = (σ i).state.epochs := by
      refine hrun.invariant_from (P := fun g => g.state.uncertaintyLatched = true ∧ g.state.epochs = (σ i).state.epochs) ⟨hlatch, rfl⟩ ?_ j hij hj
      intro a l b hstep ha
      obtain ⟨-, rfl⟩ := hstep
      obtain ⟨hlatch', hepochs⟩ := latch_kept rfl ha.1
      exact ⟨hlatch', hepochs.trans ha.2⟩
    exact ⟨hkept.1, hmode j hj hkept.1, hkept.2⟩
  · intro i hi hlatch
    obtain ⟨-, hstate⟩ := hrun i hi
    rw [hstate] at hlatch ⊢
    obtain ⟨-, hsilent, hreply⟩ := latched_call rfl hlatch (hmode i (by omega))
    refine ⟨hsilent, fun reply hr => ?_⟩
    rw [hreply reply hr]
    exact ⟨by decide, by decide, by decide⟩

/-! A pool is prepared, the quorum is lost, and the pool is presented once more. -/

def runEngine (g : Engine Time) (calls : ℕ → EngineCall Time) : ℕ → Engine Time
  | 0 => g
  | i + 1 => ((calls i).run (runEngine g calls i)).1

theorem isTrace_runEngine {g : Engine Time}
    (hfits : ∀ i < n, (calls i).Fits (runEngine g calls i)) :
    IsTrace EngineStep (runEngine g calls) calls n :=
  fun i hi => ⟨hfits i hi, rfl⟩

def idleEngine : Engine ℕ :=
  ⟨⟨.idle, 45, pendingTimeout_default, ∅, false, "no protected Thin epochs"⟩, newWatchdog true false none, ∅, ∅⟩

def provenEvidence (field : EvidenceField) : Option String :=
  match field with
  | .predecessor => some "none"
  | .requestedOwner => some "self"
  | _ => some "1"

def inventoryOf (quorum : String) : InventoryProvider := fun _ =>
  .ok (some ⟨some "1", .array [.hash ⟨some "pool-a", some "epoch-a", some "mapper-a",
    some "node-a", some "0", some "0"⟩], some provenEvidence, some quorum, some "node-a",
    some ⟨some "1", some "1", some "1"⟩⟩)

def requestA : Option EngineRequest :=
  some ⟨some "storage-a", some "pool-a", some "epoch-a", some "mapper-a"⟩

def answers (close : Bool) : SocketAnswers := ⟨.ok true, .whole, close, "Input/output error"⟩

def quorumLossCalls (i : ℕ) : EngineCall ℕ :=
  match i with
  | 0 => .prepare requestA (some 0) (inventoryOf "1") (answers true)
  | 1 => .observe ["pool-a"] (some 5) (inventoryOf "0") (answers true)
  | _ => .prepare requestA (some 6) (inventoryOf "1") (answers true)

theorem quorumLoss_isTrace :
    IsTrace EngineStep (runEngine idleEngine quorumLossCalls) quorumLossCalls 3 := by
  apply isTrace_runEngine
  intro i hi
  interval_cases i
  · trivial
  · change ["pool-a"].Perm (runEngine idleEngine quorumLossCalls 1).state.epochs.keys
    decide +kernel
  · trivial

theorem fencing_irreversible_quorum_loss :
    (runEngine idleEngine quorumLossCalls 1).watchdog.syswrites = [.nul] ∧
    (runEngine idleEngine quorumLossCalls 2).state.uncertaintyLatched = true ∧
    (runEngine idleEngine quorumLossCalls 3).state.state = .fencing ∧
    (runEngine idleEngine quorumLossCalls 3).watchdog.syswrites =
      (runEngine idleEngine quorumLossCalls 2).watchdog.syswrites := by
  have hnew : newEngine none (newWatchdog true false none) =
    .ok (runEngine idleEngine quorumLossCalls 0) := rfl
  have hlatch : (runEngine idleEngine quorumLossCalls 2).state.uncertaintyLatched = true := by
    decide +kernel
  obtain ⟨hstays, hsilent⟩ := fencing_irreversible hnew quorumLoss_isTrace
  have hthree := hstays 2 3 (by omega) (by omega) hlatch
  exact ⟨by decide +kernel, hlatch, hthree.2.1, (hsilent 2 (by omega) hthree.1).1⟩

/-! ## Acknowledged only under a live watchdog -/

theorem ensureArmed_cases {decision : Decision} {w w' : Watchdog} {armed : Except String Unit}
    (hsafe : decision.safe = true) (haction : decision.action = .activateExclusive)
    (h : ensureArmed decision io w = (w', armed)) :
    w'.state ≠ .disarmed ∧ (armed = .ok () → w'.state = .armed) ∧
      (w'.state = .armed → w'.Live ∨ (w.state = .armed ∧ w' = w)) := by
  unfold ensureArmed at h
  split_ifs at h with hdisarmed harmed
  · split at h
    · rename_i w'' message harm
      cases h
      obtain ⟨hok, -⟩ | ⟨-, hfencing⟩ := Watchdog.arm_of_safe hdisarmed hsafe haction harm
      · cases hok
      · rw [hfencing]
        exact ⟨by decide, fun hok => by (cases hok), fun h => by (cases h)⟩
    · rename_i w'' harm
      cases h
      obtain ⟨-, hlive⟩ | ⟨⟨message, hmessage⟩, -⟩ :=
        Watchdog.arm_of_safe hdisarmed hsafe haction harm
      · rw [hlive.1]
        exact ⟨by decide, fun _ => rfl, fun _ => Or.inl hlive⟩
      · cases hmessage
  · cases h
    exact ⟨hdisarmed, fun hok => by (cases hok), fun h => absurd h harmed⟩
  · cases h
    have harmed := not_not.mp harmed
    exact ⟨hdisarmed, fun _ => harmed, fun _ => Or.inr ⟨harmed, rfl⟩⟩

/-- A release of the only registered epoch whose magic byte is taken and whose close fails. -/
def EngineCall.RefusesClose (call : EngineCall Time) (g : Engine Time) : Prop :=
  match call with
  | .release request _ io => io.write = .whole ∧ io.close = false ∧ g.watchdog.state = .armed ∧
      g.state.epochs.keys = [(request.bind (·.poolUuid)).getD ""]
  | _ => False

omit [LinearOrder Time] [HAdd Time ℕ Time] in
theorem releaseProof_pool {proof : ReleaseProof}
    (h : g.releaseProof request provider = .ok proof) :
    proof.poolUuid = request.bind (·.poolUuid) := by
  simp only [Engine.releaseProof, bind_eq_ok, pure_eq_ok] at h
  obtain ⟨request', hrequest, _, -, _, -, _, -, _, -, rfl⟩ := h
  unfold requireRequest at hrequest
  split at hrequest
  · cases hrequest
  · cases hrequest
    rfl

omit [LinearOrder Time] [HAdd Time ℕ Time] in
/-- The state asks for a clean disarm only when the last epoch goes. -/
theorem keys_of_cleanDisarm {proof : ReleaseProof} {s s' : GuardState Time} {reply : Reply}
    (h : Guard.release proof s = .ok (s', reply)) (hclean : reply.action = .cleanDisarm) :
    s'.epochs.keys = [] ∧ s.epochs.keys = [proof.poolUuid.getD ""] := by
  obtain ⟨-, ⟨e, he, -⟩, -, -, -, herase, -, -, haction⟩ := release_eq_ok h
  rw [hclean] at haction
  have hnil : s'.epochs.keys = [] := by
    by_contra hne
    rw [if_neg hne] at haction
    cases haction
  refine ⟨hnil, ?_⟩
  rw [herase, AList.keys_erase, List.erase_eq_nil_iff] at hnil
  obtain hempty | hsingle := hnil
  · have hmem : proof.poolUuid.getD "" ∈ s.epochs.keys := AList.lookup_isSome.mp (by rw [he]; rfl)
    rw [hempty] at hmem
    exact absurd hmem List.not_mem_nil
  · exact hsingle

omit [LinearOrder Time] [HAdd Time ℕ Time] in
theorem keys_of_evolvesAll {m m' : AList fun _ : String => Epoch Time} (h : EvolvesAll m m')
    (hnil : m.keys = []) : m'.keys = [] := by
  rw [List.eq_nil_iff_forall_not_mem]
  intro k hk
  obtain ⟨e', he'⟩ := Option.isSome_iff_exists.mp (AList.lookup_isSome.mpr hk)
  obtain ⟨-, hnone⟩ | ⟨e, -, he, -⟩ := h k
  · rw [he'] at hnone
    cases hnone
  · have hmem : k ∈ m.keys := AList.lookup_isSome.mp (by rw [he]; rfl)
    rw [hnil] at hmem
    exact absurd hmem List.not_mem_nil

/-- A disarmed client guards nothing. -/
theorem disarmed_call (h : call.run g = (g', r))
    (hg : g.watchdog.state = .disarmed → g.state.epochs.keys = [])
    (hdisarmed : g'.watchdog.state = .disarmed) : g'.state.epochs.keys = [] := by
  cases call with
  | prepare request now provider io =>
    obtain ⟨rfl, -⟩ | ⟨_, _, _, _, _, hadmission, -, harm, -⟩ := Engine.prepare_cases h
    · exact hg hdisarmed
    · obtain ⟨hsafe, haction⟩ := admission_safe hadmission
      exact absurd hdisarmed (ensureArmed_cases hsafe haction harm).1
  | observe keys now provider io =>
    obtain ⟨rfl, -⟩ | ⟨sample, reply, hobserve, hwatchdog⟩ := Engine.observe_cases h
    · exact hg hdisarmed
    · have hbefore : g.watchdog.state = .disarmed := by
        obtain ⟨ok, -, hrefresh, -⟩ | ⟨ok, -, -, hrefresh⟩ | ⟨-, -, -, hsame⟩ := hwatchdog
        · exact Watchdog.disarmed_of_refresh hrefresh hdisarmed
        · exact Watchdog.disarmed_of_refresh hrefresh hdisarmed
        · exact hsame ▸ hdisarmed
      have hevolves := observe_evolves keys sample g.state
      rw [hobserve] at hevolves
      exact keys_of_evolvesAll hevolves (hg hbefore)
  | release request provider io =>
    obtain ⟨rfl, -⟩ | ⟨proof, reply, -, hrelease, hwatchdog⟩ := Engine.release_cases h
    · exact hg hdisarmed
    · have hregistered : g.state.epochs.keys ≠ [] := by
        obtain ⟨-, ⟨e, he, -⟩, -⟩ := release_eq_ok hrelease
        exact List.ne_nil_of_mem (AList.lookup_isSome.mp (by rw [he]; rfl))
      obtain ⟨-, -, hsame⟩ | ⟨hclean, -⟩ := hwatchdog
      · exact absurd (hg (hsame ▸ hdisarmed)) hregistered
      · exact (keys_of_cleanDisarm hrelease hclean).1

/-- An armed client stays live as long as no close is refused. -/
theorem armed_call (h : call.run g = (g', r)) (hclose : ¬ call.RefusesClose g)
    (hg : g.watchdog.state = .armed → g.watchdog.Live) (harmed : g'.watchdog.state = .armed) :
    g'.watchdog.Live := by
  cases call with
  | prepare request now provider io =>
    obtain ⟨rfl, -⟩ | ⟨_, _, _, _, _, hadmission, -, harm, -⟩ := Engine.prepare_cases h
    · exact hg harmed
    · obtain ⟨hsafe, haction⟩ := admission_safe hadmission
      obtain hlive | ⟨hbefore, hsame⟩ := (ensureArmed_cases hsafe haction harm).2.2 harmed
      · exact hlive
      · rw [hsame]
        exact hg hbefore
  | observe keys now provider io =>
    obtain ⟨rfl, -⟩ | ⟨sample, reply, -, hwatchdog⟩ := Engine.observe_cases h
    · exact hg harmed
    · obtain ⟨ok, -, hrefresh, -⟩ | ⟨ok, -, -, hrefresh⟩ | ⟨-, -, -, hsame⟩ := hwatchdog
      · exact Watchdog.live_of_refresh hrefresh hg harmed
      · exact Watchdog.live_of_refresh hrefresh hg harmed
      · rw [hsame] at harmed ⊢
        exact hg harmed
  | release request provider io =>
    obtain ⟨rfl, -⟩ | ⟨proof, reply, hproof, hrelease, hwatchdog⟩ := Engine.release_cases h
    · exact hg harmed
    · obtain ⟨-, -, hsame⟩ | ⟨hclean, _, hdisarm, -⟩ := hwatchdog
      · rw [hsame] at harmed ⊢
        exact hg harmed
      · obtain ⟨-, hdisarmed⟩ | ⟨-, hstate, hlive⟩ := Watchdog.cleanDisarm_cases hdisarm
        · rw [hdisarmed] at harmed
          cases harmed
        · have hbefore : g.watchdog.state = .armed := hstate ▸ harmed
          refine hlive (hg hbefore) fun hrefused => hclose ?_
          refine ⟨hrefused.1, hrefused.2, hbefore, ?_⟩
          rw [(keys_of_cleanDisarm hrelease hclean).2, releaseProof_pool hproof]

theorem armed_of_ack (h : call.run g = (g', r)) {reply : Reply} (hr : r = .ok reply)
    (hack : reply.action = .ackPrepared) : g'.watchdog.state = .armed := by
  cases call with
  | prepare request now provider io =>
    obtain ⟨-, message, hmessage⟩ | ⟨_, _, _, _, armed, hadmission, -, harm, hend⟩ :=
      Engine.prepare_cases h
    · rw [hmessage] at hr
      cases hr
    · obtain ⟨hsafe, haction⟩ := admission_safe hadmission
      obtain ⟨hok, -⟩ | ⟨message, -, hmessage⟩ := hend
      · exact (ensureArmed_cases hsafe haction harm).2.1 hok
      · rw [hmessage] at hr
        cases hr
  | observe keys now provider io =>
    obtain ⟨-, message, hmessage⟩ | ⟨sample, reply', hobserve, hwatchdog⟩ := Engine.observe_cases h
    · rw [hmessage] at hr
      cases hr
    · have hnot := observe_action keys sample g.state
      have hsame : reply = reply' := by
        obtain ⟨ok, -, -, hend⟩ | ⟨ok, -, hend, -⟩ | ⟨-, -, hend, -⟩ := hwatchdog
        · rw [hr] at hend
          split_ifs at hend
          exact Except.ok.inj hend
        · exact Except.ok.inj (hr.symm.trans hend)
        · exact Except.ok.inj (hr.symm.trans hend)
      rw [hobserve, ← hsame] at hnot
      exact absurd hack hnot
  | release request provider io =>
    obtain ⟨-, message, hmessage⟩ | ⟨proof, reply', -, hrelease, hwatchdog⟩ := Engine.release_cases h
    · rw [hmessage] at hr
      cases hr
    · obtain ⟨-, -, -, -, -, -, -, -, haction⟩ := release_eq_ok hrelease
      have hsame : reply = reply' := by
        obtain ⟨-, hend, -⟩ | ⟨-, _, -, ⟨-, hend⟩ | ⟨message, -, hmessage⟩⟩ := hwatchdog
        · exact Except.ok.inj (hr.symm.trans hend)
        · exact Except.ok.inj (hr.symm.trans hend)
        · rw [hmessage] at hr
          cases hr
      rw [← hsame, hack] at haction
      split_ifs at haction

/-- Whoever is told that the pool is prepared is watched; a disarmed client guards nothing. -/
theorem ack_under_live_watchdog {pendingTimeout : Option String} {socketFactory allowReal : Bool}
    {socketPath : Option String}
    (hnew : newEngine pendingTimeout (newWatchdog socketFactory allowReal socketPath) = .ok (σ 0))
    (hrun : IsTrace EngineStep σ calls n) (hclose : ∀ i < n, ¬ (calls i).RefusesClose (σ i)) :
    (∀ i < n, ∀ reply, ((calls i).run (σ i)).2 = .ok reply → reply.action = .ackPrepared →
      (σ (i + 1)).watchdog.Live) ∧
    (∀ i ≤ n, (σ i).watchdog.state = .disarmed → (σ i).state.epochs.keys = []) := by
  obtain ⟨-, hepochs, hwatchdog⟩ := newEngine_state hnew
  have hlive : ∀ i ≤ n, (σ i).watchdog.state = .armed → (σ i).watchdog.Live := by
    intro i
    induction i with
    | zero =>
      intro _ harmed
      rw [hwatchdog] at harmed
      cases harmed
    | succ i ih =>
      intro hi
      obtain ⟨-, hstep⟩ := hrun i (by omega)
      rw [hstep]
      exact armed_call rfl (hclose i (by omega)) (ih (by omega))
  refine ⟨?_, ?_⟩
  · intro i hi reply hr hack
    apply hlive (i + 1) (by omega)
    rw [(hrun i hi).2]
    exact armed_of_ack rfl hr hack
  · intro i hi
    refine hrun.invariant_from (i := 0)
      (P := fun g => g.watchdog.state = .disarmed → g.state.epochs.keys = [])
      ?_ ?_ i (Nat.zero_le i) hi
    · intro _
      rw [hepochs]
      rfl
    · intro a l b hstep ha
      rw [hstep.2]
      exact disarmed_call rfl ha

/-! The pool is prepared, released and prepared again; the release meets a close that fails
or one that succeeds. -/

def releaseCalls (close : Bool) (i : ℕ) : EngineCall ℕ :=
  match i with
  | 0 => .prepare requestA (some 0) (inventoryOf "1") (answers true)
  | 1 => .release requestA (inventoryOf "1") (answers close)
  | _ => .prepare requestA (some 6) (inventoryOf "1") (answers true)

theorem releaseCalls_isTrace (close : Bool) :
    IsTrace EngineStep (runEngine idleEngine (releaseCalls close)) (releaseCalls close) 3 := by
  apply isTrace_runEngine
  intro i hi
  interval_cases i
  · trivial
  · trivial
  · trivial

theorem ack_after_refused_close :
    newEngine none (newWatchdog true false none) =
      .ok (runEngine idleEngine (releaseCalls false) 0) ∧
    IsTrace EngineStep (runEngine idleEngine (releaseCalls false)) (releaseCalls false) 3 ∧
    (∃ reply, ((releaseCalls false 2).run (runEngine idleEngine (releaseCalls false) 2)).2 =
      .ok reply ∧ reply.action = .ackPrepared) ∧
    (runEngine idleEngine (releaseCalls false) 3).watchdog.socket.map (·.accepted) =
      some [.nul, .magicClose] ∧
    ¬ (runEngine idleEngine (releaseCalls false) 3).watchdog.Live := by
  have haccepted : (runEngine idleEngine (releaseCalls false) 3).watchdog.socket.map
      (·.accepted) = some [.nul, .magicClose] := by decide +kernel
  refine ⟨rfl, releaseCalls_isTrace false, ⟨⟨.ackPrepared, .armedPending, none⟩, rfl, rfl⟩,
    haccepted, ?_⟩
  intro hlive
  obtain ⟨-, socket, hsocket, -, hmagic⟩ := hlive
  rw [hsocket, Option.map_some, Option.some.injEq] at haccepted
  rw [haccepted] at hmagic
  exact absurd hmagic (by decide)

theorem ack_after_clean_release :
    (runEngine idleEngine (releaseCalls true) 2).watchdog.state = .disarmed ∧
    (runEngine idleEngine (releaseCalls true) 2).state.epochs.keys = [] ∧
    (runEngine idleEngine (releaseCalls true) 3).watchdog.Live := by
  have hnew : newEngine none (newWatchdog true false none) =
    .ok (runEngine idleEngine (releaseCalls true) 0) := rfl
  have hclose : ∀ i < 3,
      ¬ (releaseCalls true i).RefusesClose (runEngine idleEngine (releaseCalls true) i) := by
    intro i hi
    interval_cases i
    · exact not_false
    · intro h
      exact absurd h.2.1 (by decide)
    · exact not_false
  have hdisarmed : (runEngine idleEngine (releaseCalls true) 2).watchdog.state = .disarmed := by
    decide +kernel
  obtain ⟨hack, hempty⟩ := ack_under_live_watchdog hnew (releaseCalls_isTrace true) hclose
  exact ⟨hdisarmed, hempty 2 (by omega) hdisarmed, hack 2 (by omega) _ rfl rfl⟩

end SharedLvmThin.Guard
