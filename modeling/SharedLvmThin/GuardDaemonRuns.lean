import SharedLvmThin.GuardDaemon

/-! Runs of the daemon under any connections. The journal answers for every request ID it has seen;
only the refusal of a request skips the size check, and only the empty ID skips the journal. -/

namespace SharedLvmThin.GuardDaemon
open Perl Guard

variable {Time : Type} {d : Daemon Time} {c : Connection Time}

/-! ## One connection -/

/-- What a request leaves in the journal. -/
structure Answered (d : Daemon Time) (id : String) (s : Served) (r : Response) : Prop where
  requestId : s.requestId = some id
  journal : d.replay.lookup id = some r
  payload : s.payload = r.encoded
  delivered : s.delivered = true → s.payload.isSome = true

theorem respond_eq_ok {r : Response} {written : Bool} {payload : String}
    (h : respond r written = .ok payload) : r.encoded = some payload := by
  simp only [respond, bind_eq_ok, exists_unit, pure_eq_ok] at h
  obtain ⟨text, htext, -, rfl⟩ := h
  rw [Response.encoded, htext]
  rfl

theorem encoded_isSome_of_respond {r : Response} {written : Bool}
    (h : (respond r written).toOption.isSome = true) : r.encoded.isSome = true := by
  cases hresult : respond r written with
  | error message =>
    rw [hresult] at h
    cases h
  | ok payload =>
    rw [respond_eq_ok hresult]
    rfl

/-- A refusal leaves an answer alone and records a missing one. -/
theorem refuse_replay (d : Daemon Time) (id error : String) :
    (∃ r, d.replay.lookup id = some r ∧ (d.refuse id error).1.replay = d.replay ∧
      (d.refuse id error).2 = r) ∨
    (d.replay.lookup id = none ∧ id ≠ noRequestId ∧
      (d.refuse id error).1.replay = (id, (d.refuse id error).2) :: d.replay) ∨
    (d.replay.lookup id = none ∧ id = noRequestId ∧ (d.refuse id error).1.replay = d.replay) := by
  cases hlookup : d.replay.lookup id with
  | some r =>
    refine .inl ⟨r, rfl, ?_, ?_⟩ <;> simp [Daemon.refuse, hlookup]
  | none =>
    by_cases hid : id = noRequestId
    · exact .inr (.inr ⟨rfl, hid, by simp [Daemon.refuse, hid]⟩)
    · exact .inr (.inl ⟨rfl, hid, by simp [Daemon.refuse, hlookup, hid]⟩)

theorem serveRefusal_daemon (d : Daemon Time) (c : Connection Time) (id : Option String)
    (error : String) (invoked : Bool) :
    (d.serveRefusal c id error invoked).1 = (d.refuse (id.getD noRequestId) error).1 := rfl

theorem serveRefusal_payload (d : Daemon Time) (c : Connection Time) (id : Option String)
    (error : String) (invoked : Bool) : (d.serveRefusal c id error invoked).2.payload =
      (d.refuse (id.getD noRequestId) error).2.encoded := by
  simp only [Daemon.serveRefusal]

theorem serveRefusal_delivered {id : Option String} {error : String} {invoked : Bool}
    (h : (d.serveRefusal c id error invoked).2.delivered = true) :
    (d.serveRefusal c id error invoked).2.payload.isSome = true := by
  rw [serveRefusal_payload]
  simp only [Daemon.serveRefusal] at h
  exact encoded_isSome_of_respond h

theorem serveRefusal_known {id : String} {r : Response} (h : d.replay.lookup id = some r)
    (error : String) (invoked : Bool) :
    (d.serveRefusal c (some id) error invoked).1.replay = d.replay ∧
      Answered (d.serveRefusal c (some id) error invoked).1 id
        (d.serveRefusal c (some id) error invoked).2 r := by
  rcases refuse_replay d id error with ⟨r', hlookup, hreplay, hresponse⟩ | ⟨hnone, -⟩ | ⟨hnone, -⟩
  · obtain rfl : r = r' := Option.some.inj (h.symm.trans hlookup)
    refine ⟨hreplay, rfl, (congrArg _ hreplay).trans h, ?_, serveRefusal_delivered⟩
    rw [serveRefusal_payload, Option.getD_some, hresponse]
  · rw [h] at hnone
    cases hnone
  · rw [h] at hnone
    cases hnone

theorem serveRefusal_new {id : String} (h : d.replay.lookup id = none) (hid : id ≠ noRequestId)
    (error : String) (invoked : Bool) :
    ∃ r, (d.serveRefusal c (some id) error invoked).1.replay = (id, r) :: d.replay ∧
      Answered (d.serveRefusal c (some id) error invoked).1 id
        (d.serveRefusal c (some id) error invoked).2 r := by
  rcases refuse_replay d id error with ⟨r', hlookup, -⟩ | ⟨-, -, hreplay⟩ | ⟨-, hzero, -⟩
  · rw [h] at hlookup
    cases hlookup
  · refine ⟨_, hreplay, rfl, ?_, serveRefusal_payload _ _ _ _ _, serveRefusal_delivered⟩
    rw [serveRefusal_daemon, Option.getD_some, hreplay]
    exact List.lookup_cons_self
  · exact absurd hzero hid

theorem serveRefusal_malformed (d : Daemon Time) (c : Connection Time) (error : String) :
    (d.serveRefusal c none error false).1.replay = d.replay := by
  rw [serveRefusal_daemon, Option.getD_none]
  rcases refuse_replay d noRequestId error with ⟨r, hr⟩ | hnew | hmalformed
  · exact hr.2.1
  · exact (hnew.2.1 rfl).elim
  · exact hmalformed.2.2

theorem serveCached_known {id : String} {r : Response} (h : d.replay.lookup id = some r)
    (invoked : Bool) :
    (d.serveCached c id r invoked).1.replay = d.replay ∧
      Answered (d.serveCached c id r invoked).1 id (d.serveCached c id r invoked).2 r := by
  unfold Daemon.serveCached
  cases hresult : respond r c.firstWrite with
  | error error => exact serveRefusal_known h error invoked
  | ok payload => exact ⟨rfl, rfl, h, (respond_eq_ok hresult).symm, fun _ => rfl⟩

variable [HAdd Time ℕ Time]

/-- A request that keeps to the journal: it has an answer already, or there is room for one and its
answer will be kept. -/
def Admissible (d : Daemon Time) (request : Request) : Prop :=
  (d.replay.lookup request.requestId).isSome = true ∨
    d.replay.length < maxReplay ∧ (request.requestId ≠ noRequestId ∨ request.op = .status)

theorem dispatch_status (d : Daemon Time) (c : Connection Time) {request : Request}
    (h : request.op = .status) : ∃ result, d.dispatch c request = (d.engine, .ok result) := by
  unfold Daemon.dispatch
  rw [h]
  exact ⟨_, rfl⟩

/-- The answer to an admissible request is in the journal, and a new one is the only change. -/
theorem answer_spec {request : Request} (h : Admissible d request) :
    ∃ r, Answered (d.answer c request).1 request.requestId (d.answer c request).2 r ∧
      (((d.answer c request).1.replay = d.replay ∧ (d.answer c request).2.invoked = false) ∨
        d.replay.lookup request.requestId = none ∧ d.replay.length < maxReplay ∧
          (d.answer c request).1.replay = (request.requestId, r) :: d.replay) := by
  unfold Daemon.answer
  cases hlookup : d.replay.lookup request.requestId with
  | some cached =>
    obtain ⟨hreplay, hanswered⟩ := @serveCached_known _ d c _ _ hlookup false
    dsimp only
    refine ⟨cached, hanswered, .inl ⟨hreplay, ?_⟩⟩
    unfold Daemon.serveCached
    split
    · rfl
    · rfl
  | none =>
    obtain ⟨hroom, hkept⟩ : d.replay.length < maxReplay ∧
        (request.requestId ≠ noRequestId ∨ request.op = .status) := by
      rcases h with h | h
      · rw [hlookup] at h
        cases h
      · exact h
    simp only [ge_iff_le, Nat.not_le.mpr hroom, if_false]
    split
    · rename_i engine error hdispatch
      have hid : request.requestId ≠ noRequestId := by
        rcases hkept with hid | hstatus
        · exact hid
        · obtain ⟨result, hresult⟩ := dispatch_status d c hstatus
          rw [hresult] at hdispatch
          cases hdispatch
      obtain ⟨r, hreplay, hanswered⟩ := @serveRefusal_new _ { d with engine := engine } c _ hlookup
        hid error (decide (request.op ≠ .status))
      exact ⟨r, hanswered, .inr ⟨trivial, hroom, hreplay⟩⟩
    · rename_i engine state action message hdispatch
      obtain ⟨hreplay, hanswered⟩ := @serveCached_known _
        { d with engine := engine, replay :=
          (request.requestId, ⟨true, request.requestId, state, action, message⟩) :: d.replay } c
        request.requestId _ List.lookup_cons_self (decide (request.op ≠ .status))
      exact ⟨_, hanswered, .inr ⟨trivial, hroom, hreplay⟩⟩

/-! ## Runs -/

/-- The requests of one ID that reached the engine. -/
def invocations (served : List Served) (id : String) : List Served :=
  served.filter fun s => s.invoked && decide (s.requestId = some id)

/-- The journal has its bound and answers everything that was served. -/
structure Journaled (d : Daemon Time) (served : List Served) : Prop where
  bound : d.replay.length ≤ maxReplay
  answered : ∀ s ∈ served, ∀ id, s.requestId = some id → ∃ r, Answered d id s r
  once : ∀ id, (invocations served id).length ≤ 1

theorem invocations_append (served more : List Served) (id : String) :
    invocations (served ++ more) id = invocations served id ++ invocations more id :=
  List.filter_append _ _

theorem invocations_eq_nil {served : List Served} {id : String}
    (h : ∀ s ∈ served, s.requestId ≠ some id) : invocations served id = [] := by
  rw [invocations, List.filter_eq_nil_iff]
  intro s hs
  simp [h s hs]

variable {served : List Served}

section
omit [HAdd Time ℕ Time]

theorem Journaled.of_replay_eq {d' : Daemon Time} (h : Journaled d served)
    (hreplay : d'.replay = d.replay) : Journaled d' served where
  bound := hreplay ▸ h.bound
  answered := by
    intro s hs id hid
    obtain ⟨r, hr⟩ := h.answered s hs id hid
    exact ⟨r, hr.requestId, hreplay ▸ hr.journal, hr.payload, hr.delivered⟩
  once := h.once

/-- A served line without a request, or one that the engine did not see. -/
theorem Journaled.concat_idle {s : Served} (h : Journaled d served) (hs : s.invoked = false)
    (hanswered : ∀ id, s.requestId = some id → ∃ r, Answered d id s r) :
    Journaled d (served ++ [s]) where
  bound := h.bound
  answered := by
    simp only [List.mem_append, List.mem_singleton]
    rintro t (ht | rfl)
    · exact h.answered t ht
    · exact hanswered
  once := by
    intro id
    have hidle : invocations [s] id = [] := by simp [invocations, hs]
    rw [invocations_append, hidle, List.append_nil]
    exact h.once id

/-- A new answer is put in front of the journal. -/
theorem Journaled.concat_new {d' : Daemon Time} {s : Served} {id : String} {r : Response}
    (h : Journaled d served) (hnew : d.replay.lookup id = none) (hroom : d.replay.length < maxReplay)
    (hreplay : d'.replay = (id, r) :: d.replay) (hanswered : Answered d' id s r) :
    Journaled d' (served ++ [s]) where
  bound := by
    rw [hreplay, List.length_cons]
    exact hroom
  answered := by
    simp only [List.mem_append, List.mem_singleton]
    rintro t (ht | rfl) other hother
    · obtain ⟨r', hr'⟩ := h.answered t ht other hother
      refine ⟨r', hr'.requestId, ?_, hr'.payload, hr'.delivered⟩
      have hne : other ≠ id := by
        rintro rfl
        rw [hr'.journal] at hnew
        cases hnew
      rw [hreplay, List.lookup_cons, beq_false_of_ne hne]
      exact hr'.journal
    · obtain rfl : id = other := Option.some.inj (hanswered.requestId.symm.trans hother)
      exact ⟨r, hanswered⟩
  once := by
    intro other
    rw [invocations_append]
    by_cases hother : other = id
    · -- the ID is new, so nothing served before carries it
      have hbefore : invocations served other = [] := by
        refine invocations_eq_nil fun t ht htid => ?_
        obtain ⟨r', hr'⟩ := h.answered t ht other htid
        have hknown := hr'.journal
        rw [hother, hnew] at hknown
        cases hknown
      rw [hbefore, List.nil_append]
      exact List.length_filter_le _ _
    · have hidle : invocations [s] other = [] := by
        refine invocations_eq_nil fun t ht htid => ?_
        rw [List.mem_singleton.mp ht, hanswered.requestId] at htid
        exact hother (Option.some.inj htid).symm
      rw [hidle, List.append_nil]
      exact h.once other

end

theorem Journaled.answer (h : Journaled d served) {request : Request}
    (hadmissible : Admissible d request) :
    Journaled (d.answer c request).1 (served ++ [(d.answer c request).2]) := by
  obtain ⟨r, hanswered, ⟨hreplay, hidle⟩ | ⟨hnew, hroom, hreplay⟩⟩ := @answer_spec _ d c _ _ hadmissible
  · refine (h.of_replay_eq hreplay).concat_idle hidle fun id hid => ?_
    obtain rfl : request.requestId = id := Option.some.inj (hanswered.requestId.symm.trans hid)
    exact ⟨r, hanswered⟩
  · exact h.concat_new hnew hroom hreplay hanswered

variable [LinearOrder Time] (decodeJson : String → Option Value)

/-- Every request of a run is admissible where it arrives. -/
def Orderly (d : Daemon Time) : List (Event Time) → Prop
  | [] => True
  | event :: events =>
    (∀ c request, event = .connection c → d.running = true →
      c.input >>= decodeGuardRequest decodeJson = .ok request → Admissible d request) ∧
    Orderly (d.step decodeJson event).1 events

omit [HAdd Time ℕ Time] in
theorem observe_replay [HAdd Time ℕ Time] (d : Daemon Time) (keys : List String) (now : Time)
    (provider : InventoryProvider) (io : SocketAnswers) :
    (d.observe keys now provider io).replay = d.replay := by
  unfold Daemon.observe
  split
  · rfl
  · split
    · rfl
    · rfl

theorem Journaled.step (h : Journaled d served) {event : Event Time}
    (hadmissible : ∀ c request, event = .connection c → d.running = true →
      c.input >>= decodeGuardRequest decodeJson = .ok request → Admissible d request) :
    Journaled (d.step decodeJson event).1 (served ++ (d.step decodeJson event).2) := by
  unfold Daemon.step
  by_cases hrunning : d.running = true
  · rw [if_pos hrunning]
    cases event with
    | observe keys now provider io =>
      rw [List.append_nil]
      exact h.of_replay_eq (observe_replay d keys now provider io)
    | stop =>
      rw [List.append_nil]
      exact h.of_replay_eq rfl
    | connection c =>
      dsimp only
      unfold Daemon.handle
      cases hdecode : c.input >>= decodeGuardRequest decodeJson with
      | error error =>
        have hsame := serveRefusal_malformed d c error
        exact (h.of_replay_eq hsame).concat_idle rfl fun id hid => nomatch hid
      | ok request => exact h.answer (hadmissible c request rfl hrunning hdecode)
  · rw [if_neg hrunning, List.append_nil]
    exact h

theorem Journaled.run (h : Journaled d served) {events : List (Event Time)}
    (horderly : Orderly decodeJson d events) :
    Journaled (d.run decodeJson events).1 (served ++ (d.run decodeJson events).2) := by
  induction events generalizing d served with
  | nil =>
    rw [Daemon.run, List.append_nil]
    exact h
  | cons event events ih =>
    obtain ⟨hfirst, hrest⟩ := horderly
    have hfinal := ih (h.step decodeJson hfirst) hrest
    rw [List.append_assoc] at hfinal
    exact hfinal

/-- The journal keeps its bound, a request that was answered is answered with the same text whenever
it comes again, and the engine sees no ID twice. -/
structure Stable (d : Daemon Time) (served : List Served) : Prop where
  bound : d.replay.length ≤ maxReplay
  identical : ∀ (i j : ℕ) (a b : Served), i < j → served[i]? = some a → served[j]? = some b →
    a.requestId.isSome = true → a.requestId = b.requestId → a.delivered = true →
    ∃ text, a.payload = some text ∧ b.payload = some text
  once : ∀ id, (invocations served id).length ≤ 1

theorem replay_stable (hempty : d.replay = []) {events : List (Event Time)}
    (horderly : Orderly decodeJson d events) :
    Stable (d.run decodeJson events).1 (d.run decodeJson events).2 := by
  have hstart : Journaled d [] := by
    refine ⟨?_, fun s hs => (nomatch hs), fun id => Nat.zero_le 1⟩
    rw [hempty]
    exact Nat.zero_le _
  have hfinal := hstart.run decodeJson horderly
  rw [List.nil_append] at hfinal
  refine ⟨hfinal.bound, ?_, hfinal.once⟩
  intro i j a b _ ha hb hsome hsame hdelivered
  obtain ⟨id, hid⟩ := Option.isSome_iff_exists.mp hsome
  obtain ⟨r, hr⟩ := hfinal.answered a (List.mem_of_getElem? ha) id hid
  obtain ⟨r', hr'⟩ := hfinal.answered b (List.mem_of_getElem? hb) id (hsame ▸ hid)
  obtain rfl : r = r' := Option.some.inj (hr.journal.symm.trans hr'.journal)
  obtain ⟨text, htext⟩ := Option.isSome_iff_exists.mp (hr.delivered hdelivered)
  exact ⟨text, htext, hr'.payload.trans (hr.payload.symm.trans htext)⟩

/-! ## New requests -/

omit [LinearOrder Time] in
/-- A new request adds an entry whether or not there is room for it. -/
theorem answer_new {request : Request} (hnew : d.replay.lookup request.requestId = none)
    (hid : request.requestId ≠ noRequestId) :
    ∃ r, (d.answer c request).1.replay = (request.requestId, r) :: d.replay := by
  by_cases hroom : d.replay.length < maxReplay
  · obtain ⟨r, hanswered, ⟨hreplay, -⟩ | ⟨-, -, hreplay⟩⟩ :=
      @answer_spec _ d c _ _ (.inr ⟨hroom, .inl hid⟩)
    · have hjournal := hanswered.journal
      rw [hreplay, hnew] at hjournal
      cases hjournal
    · exact ⟨r, hreplay⟩
  · unfold Daemon.answer
    simp only [hnew, ge_iff_le, Nat.not_lt.mp hroom, if_true]
    obtain ⟨r, hreplay, -⟩ := @serveRefusal_new _ d c _ hnew hid "ThinGuard replay journal is full" false
    exact ⟨r, hreplay⟩

omit [LinearOrder Time] [HAdd Time ℕ Time] in
theorem serveCached_running (d : Daemon Time) (c : Connection Time) (id : String) (r : Response)
    (invoked : Bool) : (d.serveCached c id r invoked).1.running = d.running := by
  unfold Daemon.serveCached
  split
  · rfl
  · rfl

omit [LinearOrder Time] in
theorem answer_running (d : Daemon Time) (c : Connection Time) (request : Request) :
    (d.answer c request).1.running = d.running := by
  unfold Daemon.answer
  split
  · exact serveCached_running _ _ _ _ _
  · split
    · rfl
    · dsimp only
      split
      · rfl
      · exact serveCached_running _ _ _ _ _

theorem step_connection (hrunning : d.running = true) {request : Request}
    (hdecode : c.input >>= decodeGuardRequest decodeJson = .ok request) :
    d.step decodeJson (.connection c) = ((d.answer c request).1, [(d.answer c request).2]) := by
  unfold Daemon.step Daemon.handle
  rw [if_pos hrunning]
  dsimp only
  rw [hdecode]

/-- Any number of requests with different IDs leaves as many entries. -/
theorem run_new {requests : List (Connection Time × Request)} (hrunning : d.running = true)
    (hdecode : ∀ x ∈ requests, x.1.input >>= decodeGuardRequest decodeJson = .ok x.2)
    (hids : ∀ x ∈ requests, x.2.requestId ≠ noRequestId ∧ d.replay.lookup x.2.requestId = none)
    (hdistinct : (requests.map fun x => x.2.requestId).Nodup) :
    (d.run decodeJson (requests.map fun x => .connection x.1)).1.replay.length =
      d.replay.length + requests.length := by
  induction requests generalizing d with
  | nil => rfl
  | cons x requests ih =>
    obtain ⟨hfirst, hrest⟩ := List.forall_mem_cons.mp hdecode
    obtain ⟨⟨hid, hnew⟩, hids⟩ := List.forall_mem_cons.mp hids
    obtain ⟨hother, hdistinct⟩ := List.nodup_cons.mp hdistinct
    obtain ⟨r, hreplay⟩ := @answer_new _ d x.1 _ _ hnew hid
    rw [List.map_cons, Daemon.run]
    dsimp only
    rw [step_connection decodeJson hrunning hfirst,
      ih ((answer_running d x.1 x.2).trans hrunning) hrest _ hdistinct, hreplay]
    · simp only [List.length_cons]
      omega
    · intro y hy
      refine ⟨(hids y hy).1, ?_⟩
      have hne : y.2.requestId ≠ x.2.requestId := fun heq =>
        hother (List.mem_map.mpr ⟨y, hy, heq⟩)
      rw [hreplay, List.lookup_cons, beq_false_of_ne hne]
      exact (hids y hy).2

/-! ## 4097 status requests -/

def statusPrefix : String := "\x7b\"op\":\"STATUS\",\"request_id\":\""

def statusSuffix : String := "\",\"version\":1\x7d"

def statusText (id : String) : String := statusPrefix ++ id ++ statusSuffix

/-- The JSON of a status request. -/
def statusJson (text : String) : Option Value :=
  let id := String.ofList ((text.toList.drop statusPrefix.length).take 32)
  if text = statusText id then
    some (.hash [("op", .str "STATUS"), ("request_id", .str id), ("version", .num "1")])
  else none

def statusConnection (id : String) : Connection ℕ where
  input := .ok (statusText id ++ "\n")
  now := 0
  provider := fun _ => .error "no inventory"
  io := ⟨.ok true, .whole, true, ""⟩
  firstWrite := true
  lastWrite := true

def statusRequest (id : String) : Request := ⟨.status, id, ⟨none, none, none, none⟩⟩

theorem statusJson_text {id : String} (h : exactly 32 isLowerHex id = true) :
    statusJson (statusText id) = some (.hash [("op", .str "STATUS"), ("request_id", .str id),
      ("version", .num "1")]) := by
  have hid : String.ofList (((statusText id).toList.drop statusPrefix.length).take 32) = id := by
    have hlength : id.toList.length = 32 := (exactly_iff.mp h).1
    rw [statusText, String.toList_append, String.toList_append, List.append_assoc,
      ← String.length_toList, List.drop_left, ← hlength, List.take_left, String.ofList_toList]
  unfold statusJson
  rw [hid, if_pos rfl]

/-- A line of one request. -/
def isPlain (c : Char) : Bool := !(c = '\n' || c = '\r' || c = '\x00')

theorem isPlain_of_isLowerHex {c : Char} (h : isLowerHex c = true) : isPlain c = true := by
  have hne : ∀ d : Char, isLowerHex d = false → c ≠ d := by
    rintro d hd rfl
    rw [h] at hd
    cases hd
  simp [isPlain, hne '\n' (by decide), hne '\r' (by decide), hne '\x00' (by decide)]

theorem statusText_plain {id : String} (h : exactly 32 isLowerHex id = true) :
    ∀ c ∈ (statusText id).toList, isPlain c = true := by
  have hprefix : ∀ c ∈ statusPrefix.toList, isPlain c = true :=
    List.all_eq_true.mp (by decide +kernel)
  have hsuffix : ∀ c ∈ statusSuffix.toList, isPlain c = true :=
    List.all_eq_true.mp (by decide +kernel)
  intro c hc
  rw [statusText, String.toList_append, String.toList_append, List.mem_append,
    List.mem_append] at hc
  rcases hc with (hc | hc) | hc
  · exact hprefix c hc
  · exact isPlain_of_isLowerHex ((exactly_iff.mp h).2 c hc)
  · exact hsuffix c hc

theorem checkFields_status {id : String} (h : exactly 32 isLowerHex id = true) :
    checkFields .status (.hash [("op", .str "STATUS"), ("request_id", .str id),
      ("version", .num "1")]) = .ok () := by
  have hbody : body id = id :=
    body_eq_self (not_endsInNewline_of_all (by decide) (exactly_iff.mp h).2)
  have hid : isRequestId id = true := by
    rw [isRequestId, hbody]
    exact h
  simp [checkFields, Op.fields, Value.fields, Value.has, Value.get, Value.text, List.lookup_cons, hid]

omit [LinearOrder Time] in
/-- A short line without breaks is decoded as its JSON. -/
theorem decode_plain {text : String} {v : Value} {op : Op}
    (hplain : ∀ c ∈ text.toList, isPlain c = true) (hlength : text.length < maxLine)
    (hv : decodeJson text = some v) (hhash : v.isHash = true)
    (hversion : body (v.get "version").text = "1") (hop : op.text = (v.get "op").text)
    (hfields : checkFields op v = .ok ()) : decodeGuardRequest decodeJson (text ++ "\n") =
      .ok ⟨op, (v.get "request_id").text, engineRequest v⟩ := by
  have hline : (text ++ "\n").toList = text.toList ++ ['\n'] := String.toList_append
  have hsize : (text ++ "\n").length ≤ maxLine := by
    rw [← String.length_toList, hline, List.length_append, String.length_toList]
    exact hlength
  have hnul : (text ++ "\n").toList.contains '\x00' = false := by
    rw [hline, List.contains_eq_mem, decide_eq_false_iff_not, List.mem_append]
    rintro (hmem | hmem)
    · exact absurd (hplain _ hmem) (by decide)
    · exact absurd hmem (by decide)
  have hbreak : breaksEarly (text ++ "\n").toList = false := by
    rw [hline, breaksEarly, List.dropLast_concat, List.any_eq_false]
    intro c hc
    have hc := hplain c hc
    simp only [isPlain, Bool.not_eq_true', Bool.or_eq_false_iff] at hc
    simp [hc.1.1, hc.1.2]
  have hlast : (text ++ "\n").toList.getLast? = some '\n' := by
    rw [hline, List.getLast?_concat]
  have htext : String.ofList (text ++ "\n").toList.dropLast = text := by
    rw [hline, List.dropLast_concat, String.ofList_toList]
  have hfind : (ops.find? fun op' => decide (op'.text = (v.get "op").text)) = some op := by
    rw [← hop]
    cases op <;> rfl
  unfold decodeGuardRequest
  simp only [bind_eq_ok, dieIf_eq_ok, exists_unit, hnul, hbreak, hlast, htext, hv, hfind]
  exact ⟨decide_eq_false (Nat.not_lt.mpr hsize), trivial, by decide, by rw [hhash]; rfl,
    decide_eq_false (not_not.mpr hversion), hfields, rfl⟩

theorem decode_status {id : String} (h : exactly 32 isLowerHex id = true) :
    decodeGuardRequest statusJson (statusText id ++ "\n") = .ok (statusRequest id) := by
  have hlength : (statusText id).length = 75 := by
    rw [← String.length_toList, statusText, String.toList_append, String.toList_append,
      List.length_append, List.length_append, (exactly_iff.mp h).1]
    decide
  have hversion : body "1" = "1" := by decide
  exact decode_plain statusJson (statusText_plain h) (by rw [hlength]; decide) (statusJson_text h)
    rfl (by simp [Value.get, Value.fields, Value.text, List.lookup_cons, hversion]) rfl
    (checkFields_status h)

theorem decode_connection {id : String} (h : exactly 32 isLowerHex id = true) :
    (statusConnection id).input >>= decodeGuardRequest statusJson = .ok (statusRequest id) := by
  have hinput : (statusConnection id).input = .ok (statusText id ++ "\n") := rfl
  rw [hinput]
  exact bind_eq_ok.mpr ⟨_, rfl, decode_status h⟩

/-- The hexadecimal request ID of a number below `16 ^ 4`. -/
def hexId (n : Nat) : String :=
  String.ofList (List.replicate 28 '0' ++
    [4096, 256, 16, 1].map fun place => Nat.digitChar (n / place % 16))

theorem hexId_exact (n : Nat) : exactly 32 isLowerHex (hexId n) = true := by
  have hdigit : ∀ k < 16, isLowerHex (Nat.digitChar k) = true := by decide
  refine exactly_iff.mpr ⟨by simp [hexId], ?_⟩
  intro c hc
  simp only [hexId, String.toList_ofList, List.mem_append, List.mem_replicate, List.mem_map] at hc
  rcases hc with ⟨-, rfl⟩ | ⟨place, -, rfl⟩
  · decide
  · exact hdigit _ (Nat.mod_lt _ (by decide))

theorem hexId_inj {n m : Nat} (hn : n < 65536) (hm : m < 65536) (h : hexId n = hexId m) :
    n = m := by
  have hdigit : ∀ i < 16, ∀ j < 16, Nat.digitChar i = Nat.digitChar j → i = j := by decide
  have hlist := List.append_cancel_left (String.ofList_injective h)
  simp only [List.map_cons, List.map_nil, List.cons.injEq, and_true] at hlist
  obtain ⟨h3, h2, h1, h0⟩ := hlist
  have hplace : ∀ place, Nat.digitChar (n / place % 16) = Nat.digitChar (m / place % 16) →
      n / place % 16 = m / place % 16 :=
    fun place => hdigit _ (Nat.mod_lt _ (by decide)) _ (Nat.mod_lt _ (by decide))
  have h3 := hplace _ h3
  have h2 := hplace _ h2
  have h1 := hplace _ h1
  have h0 := hplace _ h0
  omega

theorem hexId_ne_none {n : Nat} (hn : n < 65535) : hexId (n + 1) ≠ noRequestId := by
  have hzero : noRequestId = hexId 0 := by decide
  rw [hzero]
  intro h
  exact absurd (hexId_inj (by omega) (by omega) h) (by omega)

def freshWatchdog : Watchdog := newWatchdog false true none

/-- A daemon that has just started. -/
def freshDaemon : Daemon ℕ where
  engine := ⟨⟨.idle, 45, pendingTimeout_default, ∅, false, "no protected Thin epochs"⟩, freshWatchdog, ∅, ∅⟩
  replay := []
  running := true

def statusRequests (count : ℕ) : List (Connection ℕ × Request) :=
  (List.range count).map fun n => (statusConnection (hexId (n + 1)), statusRequest (hexId (n + 1)))

theorem mem_statusRequests {count : ℕ} {x : Connection ℕ × Request}
    (hx : x ∈ statusRequests count) :
    ∃ n < count, x = (statusConnection (hexId (n + 1)), statusRequest (hexId (n + 1))) := by
  obtain ⟨n, hn, rfl⟩ := List.mem_map.mp hx
  exact ⟨n, List.mem_range.mp hn, rfl⟩

theorem statusRequests_entries {count : ℕ} (hcount : count < 65535) :
    (freshDaemon.run statusJson
      ((statusRequests count).map fun x => .connection x.1)).1.replay.length = count := by
  have hdistinct : ((statusRequests count).map fun x => x.2.requestId).Nodup := by
    rw [statusRequests, List.map_map]
    refine List.Nodup.map_on ?_ List.nodup_range
    intro n hn m hm h
    have hn := List.mem_range.mp hn
    have hm := List.mem_range.mp hm
    exact Nat.succ.inj (hexId_inj (by omega) (by omega) h)
  have hrun := @run_new ℕ freshDaemon _ _ statusJson (statusRequests count) rfl ?_ ?_ hdistinct
  · rw [hrun]
    simp [freshDaemon, statusRequests]
  · intro x hx
    obtain ⟨n, -, rfl⟩ := mem_statusRequests hx
    exact decode_connection (hexId_exact (n + 1))
  · intro x hx
    obtain ⟨n, hn, rfl⟩ := mem_statusRequests hx
    exact ⟨hexId_ne_none (by omega), rfl⟩

theorem orderly_twice : Orderly statusJson freshDaemon
    [.connection (statusConnection (hexId 1)), .connection (statusConnection (hexId 1))] := by
  have hdecode : ∀ c request, Event.connection (statusConnection (hexId 1)) = .connection c →
      c.input >>= decodeGuardRequest statusJson = .ok request →
      request = statusRequest (hexId 1) := by
    rintro c request ⟨⟩ hrequest
    exact Except.ok.inj (hrequest.symm.trans (decode_connection (hexId_exact 1)))
  have hid : (statusRequest (hexId 1)).requestId ≠ noRequestId :=
    hexId_ne_none (show 0 < 65535 by decide)
  obtain ⟨r, hr⟩ := @answer_new _ freshDaemon (statusConnection (hexId 1)) _
    (statusRequest (hexId 1)) rfl hid
  refine ⟨fun c request hc _ hrequest => ?_, fun c request hc _ hrequest => ?_, trivial⟩
  · rw [hdecode c request hc hrequest]
    exact .inr ⟨by decide, .inl hid⟩
  · rw [hdecode c request hc hrequest,
      @step_connection ℕ freshDaemon _ _ _ statusJson rfl _ (decode_connection (hexId_exact 1))]
    refine .inr ⟨?_, .inl hid⟩
    rw [hr]
    exact (show 1 < maxReplay by decide)

theorem replay_stable_twice :
    Stable (freshDaemon.run statusJson [.connection (statusConnection (hexId 1)),
        .connection (statusConnection (hexId 1))]).1
      (freshDaemon.run statusJson [.connection (statusConnection (hexId 1)),
        .connection (statusConnection (hexId 1))]).2 :=
  replay_stable statusJson rfl orderly_twice

theorem journal_beyond_bound : ¬ ∀ events : List (Event ℕ),
    Stable (freshDaemon.run statusJson events).1 (freshDaemon.run statusJson events).2 := by
  intro h
  have hbound := (h ((statusRequests 4097).map fun x => .connection x.1)).bound
  rw [statusRequests_entries (by decide)] at hbound
  exact absurd hbound (by decide)

end SharedLvmThin.GuardDaemon
