import SharedLvmThin.GuardState

/-! The watchdog-mux client. Every call is given the answers of the socket it may use: what
`connect` returned, how much of the one-byte payload `syswrite` took and whether `close`
succeeded. The attempted writes are recorded, so that silence can be stated. -/

namespace SharedLvmThin.Guard
open Perl

inductive WatchdogState
  | disarmed | arming | armed | fencing
deriving DecidableEq

def WatchdogState.text : WatchdogState → String
  | .disarmed => "DISARMED"
  | .arming => "ARMING"
  | .armed => "ARMED"
  | .fencing => "FENCING"

/-- The refresh NUL and the magic close byte. -/
inductive Payload
  | nul | magicClose
deriving DecidableEq

/-- `syswrite` of one byte: an error with its text, no byte, or the byte. -/
inductive SysWrite
  | failed (errno : String)
  | nothing
  | whole

structure SocketAnswers where
  connect : Except String Bool
  write : SysWrite
  close : Bool
  closeErrno : String

structure Socket where
  accepted : List Payload
  closeAttempted : Bool

structure Watchdog where
  state : WatchdogState
  socket : Option Socket
  socketFactory : Bool
  allowRealWatchdog : Bool
  socketPath : String
  syswrites : List Payload

structure RefreshDecision where
  safe : Bool
  action : ReplyAction

structure DisarmProof where
  allQemuAbsent : Option String
  allMappersAbsent : Option String
  ownerEpochsReleased : Option String

def newWatchdog (socketFactory allowRealWatchdog : Bool) (socketPath : Option String) : Watchdog :=
  ⟨.disarmed, none, socketFactory, allowRealWatchdog,
    socketPath.getD "/run/watchdog-mux.sock", []⟩

namespace Watchdog

/-- `_connect`: the factory may die or return `undef`; the real socket needs both guards. -/
def connect (io : SocketAnswers) (w : Watchdog) : Except String Socket :=
  if w.socketFactory then
    match io.connect with
    | .error message => .error message
    | .ok false => .error "watchdog socket factory returned no socket"
    | .ok true => .ok ⟨[], false⟩
  else if !w.allowRealWatchdog then .error "real watchdog arming is disabled"
  else if w.socketPath ≠ "/run/watchdog-mux.sock" then
    .error "refusing non-canonical real watchdog socket path"
  else
    match io.connect with
    | .ok true => .ok ⟨[], false⟩
    | .ok false => .error "unable to open PVE watchdog-mux socket: "
    | .error errno => .error ("unable to open PVE watchdog-mux socket: " ++ errno)

/-- `_write_exact` -/
def writeExact (payload : Payload) (answer : SysWrite) (w : Watchdog) :
    Watchdog × Except String Unit :=
  match w.socket with
  | none => (w, .error "watchdog socket is not open")
  | some socket =>
    let tried := { w with syswrites := w.syswrites ++ [payload] }
    match answer with
    | .failed errno => (tried, .error ("watchdog write failed: " ++ errno))
    | .nothing => (tried, .error "watchdog short write: 0 bytes")
    | .whole =>
      ({ tried with socket := some { socket with accepted := socket.accepted ++ [payload] } },
        .ok ())

def arm (decision : Option Decision) (io : SocketAnswers) (w : Watchdog) :
    Watchdog × Except String Unit :=
  if w.state ≠ .disarmed then (w, .error ("watchdog cannot arm from " ++ w.state.text))
  else
    match decision with
    | none => (w, .error "watchdog admission decision is unavailable")
    | some d =>
      if !d.safe || d.action ≠ .activateExclusive then
        (w, .error "watchdog admission is not positively safe")
      else
        -- an uncertain partial arm is closed without the magic byte and never retried
        match connect io w with
        | .error message => ({ w with socket := none, state := .fencing }, .error message)
        | .ok socket =>
          match writeExact .nul io.write { w with state := .arming, socket := some socket } with
          | (w', .error message) => ({ w' with socket := none, state := .fencing }, .error message)
          | (w', .ok ()) => ({ w' with state := .armed }, .ok ())

def refresh (decision : Option RefreshDecision) (io : SocketAnswers) (w : Watchdog) :
    Watchdog × Bool :=
  if w.state ≠ .armed then (w, false)
  else if decision.all fun d => !d.safe || d.action ≠ .refreshWatchdog then
    ({ w with state := .fencing }, false)
  else
    match writeExact .nul io.write w with
    | (w', .error _) => ({ w' with state := .fencing }, false)
    | (w', .ok ()) => (w', true)

def requireDisarmProof (name : String) (value : Option String) : Except String Unit :=
  dieIf (value ≠ some "1") ("clean watchdog disarm requires positive " ++ name ++ " proof")

def checkDisarm (proof : DisarmProof) (w : Watchdog) : Except String Unit := do
  dieIf (w.state ≠ .armed) ("watchdog cannot cleanly disarm from " ++ w.state.text)
  requireDisarmProof "all_qemu_absent" proof.allQemuAbsent
  requireDisarmProof "all_mappers_absent" proof.allMappersAbsent
  requireDisarmProof "owner_epochs_released" proof.ownerEpochsReleased

/-- A refused close dies with the adapter still recorded as armed. -/
def cleanDisarm (proof : DisarmProof) (io : SocketAnswers) (w : Watchdog) :
    Watchdog × Except String Unit :=
  match checkDisarm proof w with
  | .error message => (w, .error message)
  | .ok () =>
    match writeExact .magicClose io.write w with
    | (w', .error message) => (w', .error message)
    | (w', .ok ()) =>
      if io.close then ({ w' with socket := none, state := .disarmed }, .ok ())
      else
        ({ w' with socket := w'.socket.map fun socket => { socket with closeAttempted := true } },
          .error ("watchdog socket close failed: " ++ io.closeErrno))

/-! ## What each call leaves behind -/

/-- Armed on a socket that no close was tried on and no magic byte was written to. -/
def Live (w : Watchdog) : Prop :=
  w.state = .armed ∧ ∃ socket, w.socket = some socket ∧ socket.closeAttempted = false ∧
    Payload.magicClose ∉ socket.accepted

variable {w w' : Watchdog} {io : SocketAnswers} {r : Except String Unit}

theorem writeExact_cases {payload : Payload} {answer : SysWrite}
    (h : writeExact payload answer w = (w', r)) :
    w'.state = w.state ∧
      ((∃ socket, w.socket = some socket ∧ answer = .whole ∧ r = .ok () ∧
        w'.socket = some { socket with accepted := socket.accepted ++ [payload] }) ∨
      (∃ message, r = .error message ∧ w'.socket = w.socket)) := by
  unfold writeExact at h
  split at h
  · cases h
    exact ⟨rfl, Or.inr ⟨_, rfl, rfl⟩⟩
  · rename_i socket hsocket
    split at h
    · cases h
      exact ⟨rfl, Or.inr ⟨_, rfl, rfl⟩⟩
    · cases h
      exact ⟨rfl, Or.inr ⟨_, rfl, rfl⟩⟩
    · cases h
      exact ⟨rfl, Or.inl ⟨socket, hsocket, rfl, rfl, rfl⟩⟩

theorem connect_fresh {socket : Socket} (h : connect io w = .ok socket) : socket = ⟨[], false⟩ := by
  unfold connect at h
  split_ifs at h
  · split at h
    · cases h
    · cases h
    · exact (Except.ok.inj h).symm
  · split at h
    · exact (Except.ok.inj h).symm
    · cases h
    · cases h

/-- Arming under a safe decision ends live or fencing, never disarmed. -/
theorem arm_of_safe {d : Decision} (hstate : w.state = .disarmed) (hsafe : d.safe = true)
    (haction : d.action = .activateExclusive) (h : arm (some d) io w = (w', r)) :
    (r = .ok () ∧ w'.Live) ∨ ((∃ message, r = .error message) ∧ w'.state = .fencing) := by
  have hdecision : (!d.safe || d.action ≠ .activateExclusive) = false := by
    simp [hsafe, haction]
  simp only [arm, hstate, ne_eq, not_true_eq_false, if_false, hdecision, Bool.false_eq_true] at h
  split at h
  · cases h
    exact Or.inr ⟨⟨_, rfl⟩, rfl⟩
  · rename_i socket hconnect
    split at h
    · cases h
      exact Or.inr ⟨⟨_, rfl⟩, rfl⟩
    · rename_i w'' hwrite
      cases h
      obtain ⟨-, ⟨socket', hsocket, -, -, hsocket''⟩ | ⟨message, hmessage, -⟩⟩ :=
        writeExact_cases hwrite
      · obtain rfl := Option.some.inj hsocket
        rw [connect_fresh hconnect] at hsocket''
        exact Or.inl ⟨rfl, rfl, _, hsocket'', rfl, by simp⟩
      · cases hmessage

/-- A refresh leaves a live client live, or it stops for good. -/
theorem refresh_cases {decision : Option RefreshDecision} {ok : Bool}
    (h : refresh decision io w = (w', ok)) :
    (w' = w ∧ w.state ≠ .armed ∧ ok = false) ∨ (w.state = .armed ∧ w'.state = .fencing ∧ ok = false) ∨
      (w.state = .armed ∧ w'.state = .armed ∧ (w.Live → w'.Live)) := by
  unfold refresh at h
  split_ifs at h with hstate hunsafe
  · cases h
    exact Or.inl ⟨rfl, hstate, rfl⟩
  · cases h
    exact Or.inr (Or.inl ⟨not_not.mp hstate, rfl, rfl⟩)
  · split at h
    · cases h
      exact Or.inr (Or.inl ⟨not_not.mp hstate, rfl, rfl⟩)
    · rename_i w'' hwrite
      cases h
      obtain ⟨hsame, ⟨socket, hsocket, -, -, hsocket'⟩ | ⟨message, hmessage, -⟩⟩ :=
        writeExact_cases hwrite
      · have harmed : w'.state = .armed := hsame.trans (not_not.mp hstate)
        refine Or.inr (Or.inr ⟨not_not.mp hstate, harmed, fun hlive => ?_⟩)
        obtain ⟨-, socket', hsocket'', hclose, hmagic⟩ := hlive
        obtain rfl : socket = socket' := Option.some.inj (hsocket.symm.trans hsocket'')
        exact ⟨harmed, _, hsocket', hclose, by simp [hmagic]⟩
      · cases hmessage

theorem disarmed_of_refresh {decision : Option RefreshDecision} {ok : Bool}
    (h : refresh decision io w = (w', ok)) (hdisarmed : w'.state = .disarmed) :
    w.state = .disarmed := by
  obtain ⟨rfl, -⟩ | ⟨-, hfencing, -⟩ | ⟨-, harmed, -⟩ := refresh_cases h
  · exact hdisarmed
  · exact absurd (hfencing.symm.trans hdisarmed) (by decide)
  · exact absurd (harmed.symm.trans hdisarmed) (by decide)

theorem live_of_refresh {decision : Option RefreshDecision} {ok : Bool}
    (h : refresh decision io w = (w', ok)) (hw : w.state = .armed → w.Live)
    (harmed : w'.state = .armed) : w'.Live := by
  obtain ⟨rfl, -⟩ | ⟨-, hfencing, -⟩ | ⟨hbefore, -, hkeep⟩ := refresh_cases h
  · exact hw harmed
  · exact absurd (hfencing.symm.trans harmed) (by decide)
  · exact hkeep (hw hbefore)

/-- A refused decision writes nothing. -/
theorem refresh_silent {action : ReplyAction} {ok : Bool}
    (h : refresh (some ⟨false, action⟩) io w = (w', ok)) :
    w'.syswrites = w.syswrites := by
  simp only [refresh, Option.all_some, Bool.not_false, Bool.true_or, if_true] at h
  split_ifs at h
  · cases h
    rfl
  · cases h
    rfl

/-- A clean disarm ends disarmed, or dies armed; only a refused close after an accepted magic
byte spoils a live client. -/
theorem cleanDisarm_cases {proof : DisarmProof} (h : cleanDisarm proof io w = (w', r)) :
    (r = .ok () ∧ w'.state = .disarmed) ∨
      ((∃ message, r = .error message) ∧ w'.state = w.state ∧
        (w.Live → ¬ (io.write = .whole ∧ io.close = false) → w'.Live)) := by
  unfold cleanDisarm at h
  split at h
  · cases h
    exact Or.inr ⟨⟨_, rfl⟩, rfl, fun hlive _ => hlive⟩
  · split at h
    · rename_i w'' message hwrite
      cases h
      obtain ⟨hsame, ⟨socket, -, -, hok, -⟩ | ⟨message, -, hsocket⟩⟩ := writeExact_cases hwrite
      · cases hok
      · refine Or.inr ⟨⟨_, rfl⟩, hsame, fun hlive _ => ?_⟩
        exact ⟨hsame.trans hlive.1, by rw [hsocket]; exact hlive.2⟩
    · rename_i w'' hwrite
      obtain ⟨hsame, ⟨socket, -, hwhole, -, -⟩ | ⟨message, hmessage, -⟩⟩ := writeExact_cases hwrite
      · split_ifs at h with hclose
        · cases h
          exact Or.inl ⟨rfl, rfl⟩
        · cases h
          exact Or.inr ⟨⟨_, rfl⟩, hsame, fun _ hnot => absurd ⟨hwhole, by simpa using hclose⟩ hnot⟩
      · cases hmessage

end Watchdog
end SharedLvmThin.Guard
