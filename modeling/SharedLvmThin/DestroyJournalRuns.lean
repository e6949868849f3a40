import SharedLvmThin.DestroyJournalChain

/-! Clients and helpers in any order. Every client keeps the head of a part of the stored chain from
its beginning, whatever acknowledgements are lost and wherever helpers die, as long as no two stored
records share a digest. -/

namespace SharedLvmThin.DestroyJournal
open Perl KeyedLists VMDestroy

/-! ## Heads -/

def System.journal (s : System) (requestId : String) : Directory := (s.base requestId).getD []

def System.stored (s : System) (requestId : String) : List Row := storedRows (s.journal requestId)

/-- Two different records with one SHA-256 digest. -/
def Collides (rows : List Row) : Prop :=
  ∃ a ∈ rows, ∃ b ∈ rows, a.sequence ≠ b.sequence ∧
    ∃ hash, digest a.json = .ok hash ∧ digest b.json = .ok hash

/-- The client's head is the head of the first records of the chain. -/
structure AtPrefix (c : Client) (rows : List Row) : Prop where
  sequence : c.sequence ≤ rows.length
  previous : headDigest (rows.take c.sequence).getLast? = .ok c.previous
  stage : c.stage = (rows.take c.sequence).getLast?.map Row.stage

theorem Collides.mono {rows rows' : List Row} (hrows : rows <+: rows') (h : Collides rows) :
    Collides rows' := by
  obtain ⟨a, ha, b, hb, hcollide⟩ := h
  exact ⟨a, hrows.subset ha, b, hrows.subset hb, hcollide⟩

theorem take_of_initial {α : Type} {l l' : List α} {n : Nat} (h : l <+: l') (hn : n ≤ l.length) :
    l'.take n = l.take n := by
  obtain ⟨rest, rfl⟩ := h
  exact List.take_append_of_le_length hn

theorem getElem?_of_prefix {α : Type} {l l' : List α} {i : Nat} {a : α} (h : l <+: l')
    (ha : l[i]? = some a) : l'[i]? = some a := by
  obtain ⟨rest, rfl⟩ := h
  rw [List.getElem?_append_left (List.getElem?_eq_some_iff.mp ha).1, ha]

theorem AtPrefix.mono {c : Client} {rows rows' : List Row} (hrows : rows <+: rows')
    (h : AtPrefix c rows) : AtPrefix c rows' := by
  refine ⟨h.sequence.trans hrows.length_le, ?_, ?_⟩
  · rw [take_of_initial hrows h.sequence]
    exact h.previous
  · rw [take_of_initial hrows h.sequence]
    exact h.stage

theorem headDigest_eq_some {head : Option Row} {hash : String}
    (h : headDigest head = .ok (some hash)) : ∃ row, head = some row ∧ digest row.json = .ok hash := by
  cases head with
  | none => cases h
  | some row =>
    simp only [headDigest, bind_eq_ok, pure_eq_ok, Option.some.injEq] at h
    obtain ⟨_, hhash, rfl⟩ := h
    exact ⟨row, rfl, hhash⟩

theorem headDigest_eq_none {head : Option Row} (h : headDigest head = .ok none) : head = none := by
  cases head with
  | none => rfl
  | some row =>
    simp only [headDigest, bind_eq_ok, pure_eq_ok] at h
    obtain ⟨_, -, hnone⟩ := h
    cases hnone

theorem Chain.getLast_sequence {requestId : String} {rows : List Row} (h : Chain requestId rows)
    {n : Nat} (hn : n ≤ rows.length) {row : Row} (hlast : (rows.take n).getLast? = some row) :
    row ∈ rows ∧ row.sequence = n := by
  rw [List.getLast?_eq_getElem?, List.length_take, min_eq_left hn, List.getElem?_take] at hlast
  split at hlast
  · have hsequence := h.sequence _ _ hlast
    exact ⟨List.mem_of_getElem? hlast, by omega⟩
  · cases hlast

/-- Two parts of one chain with the same head are the same, or two records collide. -/
theorem Chain.eq_of_head {requestId : String} {rows : List Row} (h : Chain requestId rows)
    {n : Nat} (hn : n ≤ rows.length) {head : Option String}
    (hpart : headDigest (rows.take n).getLast? = .ok head)
    (hwhole : headDigest rows.getLast? = .ok head) : n = rows.length ∨ Collides rows := by
  have hall : rows.take rows.length = rows := List.take_length
  cases head with
  | none =>
    have hempty := List.getLast?_eq_none_iff.mp (headDigest_eq_none hwhole)
    subst hempty
    exact .inl (Nat.le_zero.mp hn)
  | some hash =>
    obtain ⟨a, ha, hahash⟩ := headDigest_eq_some hpart
    obtain ⟨b, hb, hbhash⟩ := headDigest_eq_some hwhole
    obtain ⟨hamem, haseq⟩ := h.getLast_sequence hn ha
    rw [← hall] at hb
    obtain ⟨hbmem, hbseq⟩ := h.getLast_sequence le_rfl hb
    by_cases heq : n = rows.length
    · exact .inl heq
    · exact .inr ⟨a, hamem, b, hbmem, by omega, hash, hahash, hbhash⟩

/-! ## One helper -/

def filesOf (base : Base) (requestId : String) : Directory := (base requestId).getD []

/-- A helper that stores nothing acknowledges nothing. -/
inductive Served (base base' : Base) (call : Nat) (p : Payload) (result : Except String Ack) : Prop
  | refused (same : ∀ id, filesOf base' id = filesOf base id) (message : String)
      (error : result = .error message)
  | stored (rows : List Row) (row : Row) (file : File)
      (planned : Planned (filesOf base p.requestId) p rows row)
      (added : filesOf base' p.requestId = filesOf base p.requestId ++ [file])
      (others : ∀ id, id ≠ p.requestId → filesOf base' id = filesOf base id)
      (row_eq : file.row = row) (call_eq : file.call = call)
      (name_eq : file.name = filename row.sequence row.stage)
      (acked : ∀ ack, result = .ok ack → readFile file = .ok row ∧ digest row.json = .ok ack.lastSha256)

theorem openRequest_eq_ok {base : Base} {p : Payload} {directory : Directory}
    (h : openRequest base p = .ok directory) : filesOf base p.requestId = directory := by
  unfold openRequest at h
  unfold filesOf
  split at h <;> split at h <;> cases h
  · rename_i heq
    rw [heq]
    rfl
  · rename_i heq
    rw [heq]
    rfl

theorem filesOf_update {base : Base} {requestId : String} {directory : Directory} (id : String) :
    filesOf (Function.update base requestId (some directory)) id =
      if id = requestId then directory else filesOf base id := by
  unfold filesOf
  rw [Function.update_apply]
  split <;> rfl

theorem append_served {base : Base} {p : Payload} (call : Nat) (fault : Option Fault) :
    Served base (Function.update base p.requestId
      (some (append (filesOf base p.requestId) call fault p).1)) call p
        ((append (filesOf base p.requestId) call fault p).2 >>= ackOf p) := by
  rcases append_cases (filesOf base p.requestId) call fault p with ⟨hsame, message, hrefused⟩ |
    ⟨rows, row, file, hplanned, hnew, hrow, hcall, hname, hacked⟩
  · rw [hsame, hrefused]
    refine .refused ?_ message rfl
    intro id
    rw [filesOf_update]
    split
    · rename_i heq
      rw [heq]
    · rfl
  · refine .stored rows row file hplanned ?_ ?_ hrow hcall hname ?_
    · rw [filesOf_update, if_pos rfl, hnew]
    · intro id hid
      rw [filesOf_update, if_neg hid]
    · intro ack hack
      simp only [bind_eq_ok, ackOf, pure_eq_ok] at hack
      obtain ⟨hash, hhash, requestDigest, -, rfl⟩ := hack
      exact hacked hash hhash

theorem appendRequest_served (base : Base) (call : Nat) (fault : Option Fault) (p : Payload) :
    Served base (appendRequest base call fault p).1 call p (appendRequest base call fault p).2 := by
  cases hopen : openRequest base p with
  | error message =>
    simp only [appendRequest, hopen]
    exact .refused (fun _ => rfl) message rfl
  | ok directory =>
    have hfiles := openRequest_eq_ok hopen
    subst hfiles
    have hkept : ∀ id, filesOf (Function.update base p.requestId
        (some (filesOf base p.requestId))) id = filesOf base id := by
      intro id
      rw [filesOf_update]
      split
      · rename_i heq
        rw [heq]
      · rfl
    rcases fault with _ | _ | _ | _ | written | _ | _ <;> simp only [appendRequest, hopen]
    · exact append_served call none
    · exact .refused (fun _ => rfl) "helper died" rfl
    · exact .refused hkept "helper died" rfl
    · exact .refused hkept "helper died" rfl
    · exact append_served call _
    · exact append_served call _
    · exact append_served call _

theorem readAppendPayload_eq_ok {raw requestId : String} {value payload : Payload}
    (h : readAppendPayload raw value requestId = .ok payload) : value = payload := by
  simp only [readAppendPayload, bind_eq_ok, exists_unit, pure_eq_ok] at h
  obtain ⟨-, -, -, -, -, -, -, -, -, hvalue⟩ := h
  exact hvalue

theorem mainAppend_served (base : Base) (call : Nat) (fault : Option Fault) (input : String)
    (p : Payload) : Served base (mainAppend base call fault input p).1 call p
      (mainAppend base call fault input p).2 := by
  unfold mainAppend
  dsimp only
  split
  · rename_i message _
    exact .refused (fun _ => rfl) message rfl
  · rename_i payload heq
    simp only [bind_eq_ok] at heq
    obtain ⟨first, hfirst, text, -, hsecond⟩ := heq
    have hp : p = payload :=
      (readAppendPayload_eq_ok hfirst).trans (readAppendPayload_eq_ok hsecond)
    rw [← hp]
    exact appendRequest_served base call fault p

/-! ## The invariant -/

/-- The request in flight is the one that the client sent. -/
def Asks (c : Client) : Pending → Message → Prop
  | .appending payload _, .append sent _ =>
    sent = payload ∧ payload.requestId = c.requestId ∧ payload.expectedPrevious = c.previous
  | .observing, .observe requestId => requestId = c.requestId
  | _, _ => False

/-- An acknowledgement tells of the record after the client's head, an observation of the head of
stored records. -/
def Answers (rows : List Row) (c : Client) : Pending → Reply → Prop
  | .appending payload _, .ack ack => Collides rows ∨ ∃ row, rows[c.sequence]? = some row ∧
    digest row.json = .ok ack.lastSha256 ∧ row.stage = payload.stage
  | .observing, .observation o => o.records <+: rows ∧
    headDigest o.records.getLast? = .ok o.lastSha256 ∧ o.stage = o.records.getLast?.map Row.stage
  | _, _ => True

structure ClientInv (s : System) (c : Client) : Prop where
  head : Collides (s.stored c.requestId) ∨ AtPrefix c (s.stored c.requestId)
  known : ∀ call pending, c.waiting = some (call, pending) → call < s.nextCall
  asks : ∀ call pending message, c.waiting = some (call, pending) →
    s.requests call = some message → Asks c pending message
  answers : ∀ call pending reply, c.waiting = some (call, pending) →
    s.replies call = some reply → Answers (s.stored c.requestId) c pending reply

structure SystemInv (s : System) : Prop where
  sound : ∀ id, Sound id (s.journal id)
  fresh : ∀ call, s.nextCall ≤ call → s.requests call = none ∧ s.replies call = none
  served : ∀ id, ∀ file ∈ s.journal id, file.call < s.nextCall ∧ s.requests file.call = none
  once : ∀ (id id' : String) (i j : Nat) (file file' : File), (s.journal id)[i]? = some file →
    (s.journal id')[j]? = some file' → file.call = file'.call → id = id' ∧ i = j
  clients : ∀ client, ClientInv s (s.clients client)

theorem Answers.mono {rows rows' : List Row} (hrows : rows <+: rows') {c : Client} {pending : Pending}
    {reply : Reply} (h : Answers rows c pending reply) : Answers rows' c pending reply := by
  unfold Answers at h ⊢
  split at h
  · rcases h with h | ⟨row, hrow, hstage⟩
    · exact .inl (h.mono hrows)
    · exact .inr ⟨row, getElem?_of_prefix hrows hrow, hstage⟩
  · exact ⟨h.1.trans hrows, h.2⟩
  · trivial

theorem systemInv_start (identities : Nat → Identity) : SystemInv (start identities) := by
  have hempty : ∀ id, (start identities).journal id = [] := fun _ => rfl
  refine ⟨?_, fun _ _ => ⟨rfl, rfl⟩, ?_, ?_, ?_⟩
  · intro id
    exact .inl (.nil id)
  · intro id file hfile
    cases hfile
  · intro id id' i j file file' hfile
    rw [hempty] at hfile
    simp at hfile
  · intro client
    refine ⟨.inr ⟨Nat.zero_le _, rfl, rfl⟩, ?_, ?_, ?_⟩ <;> intro call pending
    · intro h
      cases h
    · intro _ h
      cases h
    · intro _ h
      cases h

theorem ClientInv.transport {s s' : System} {c : Client} (h : ClientInv s c)
    (hstored : s.stored c.requestId <+: s'.stored c.requestId) (hnext : s.nextCall ≤ s'.nextCall)
    (hrequests : ∀ call pending message, c.waiting = some (call, pending) →
      s'.requests call = some message → s.requests call = some message)
    (hreplies : ∀ call pending reply, c.waiting = some (call, pending) →
      s'.replies call = some reply →
        s.replies call = some reply ∨ Answers (s'.stored c.requestId) c pending reply) :
    ClientInv s' c := by
  refine ⟨?_, ?_, ?_, ?_⟩
  · rcases h.head with hcollide | hinitial
    · exact .inl (hcollide.mono hstored)
    · exact .inr (hinitial.mono hstored)
  · intro call pending hwaiting
    exact (h.known call pending hwaiting).trans_le hnext
  · intro call pending message hwaiting hmessage
    exact h.asks call pending message hwaiting (hrequests call pending message hwaiting hmessage)
  · intro call pending reply hwaiting hreply
    rcases hreplies call pending reply hwaiting hreply with hold | hnew
    · exact (h.answers call pending reply hwaiting hold).mono hstored
    · exact hnew

theorem SystemInv.setClient {s : System} (h : SystemInv s) (client : Nat) {c : Client} (hc : ClientInv s c) :
    SystemInv (s.setClient client c) := by
  refine ⟨h.sound, h.fresh, h.served, h.once, ?_⟩
  intro other
  have hinv : ClientInv s ((s.setClient client c).clients other) := by
    simp only [System.setClient, Function.update_apply]
    split
    · exact hc
    · exact h.clients other
  exact ⟨hinv.head, hinv.known, hinv.asks, hinv.answers⟩

theorem ClientInv.fail {s : System} {c : Client} (h : ClientInv s c) : ClientInv s c.fail := by
  refine ⟨?_, ?_, ?_, ?_⟩
  · rcases h.head with hcollide | hinitial
    · exact .inl hcollide
    · exact .inr ⟨hinitial.sequence, hinitial.previous, hinitial.stage⟩
  · intro call pending hwaiting
    cases hwaiting
  · intro call pending message hwaiting
    cases hwaiting
  · intro call pending reply hwaiting
    cases hwaiting

/-- A message leaves under a fresh number. -/
theorem SystemInv.send {s : System} (h : SystemInv s) (client : Nat) {c : Client} {message : Message}
    {pending : Pending} (hc : ClientInv s c) (hasks : Asks c pending message) :
    SystemInv (s.send client c message pending) := by
  have hnew : ∀ call message', call < s.nextCall →
      (s.send client c message pending).requests call = some message' →
        s.requests call = some message' := by
    intro call message' hcall hsome
    simpa only [System.send, Function.update_apply, if_neg hcall.ne] using hsome
  refine ⟨h.sound, ?_, ?_, h.once, ?_⟩
  · intro call hcall
    have hcall' : s.nextCall + 1 ≤ call := hcall
    obtain ⟨hrequest, hreply⟩ := h.fresh call (by omega)
    refine ⟨?_, hreply⟩
    simp only [System.send, Function.update_apply, if_neg (show call ≠ s.nextCall by omega)]
    exact hrequest
  · intro id file hfile
    obtain ⟨hcall, hrequest⟩ := h.served id file hfile
    refine ⟨Nat.lt_succ_of_lt hcall, ?_⟩
    simp only [System.send, Function.update_apply, if_neg hcall.ne]
    exact hrequest
  · intro other
    have hwaiting : ∀ c' : Client, ClientInv s c' → ClientInv (s.send client c message pending) c' := by
      intro c' hc'
      refine hc'.transport (List.prefix_rfl) (Nat.le_succ _) ?_ ?_
      · intro call pending' message' hwaiting
        exact hnew call message' (hc'.known call pending' hwaiting)
      · intro call pending' reply _ hreply
        exact .inl hreply
    by_cases hother : other = client
    · subst hother
      have hself : (s.send other c message pending).clients other =
          { c with waiting := some (s.nextCall, pending) } := by
        simp [System.send]
      rw [hself]
      refine ⟨?_, ?_, ?_, ?_⟩
      · rcases hc.head with hcollide | hinitial
        · exact .inl hcollide
        · exact .inr ⟨hinitial.sequence, hinitial.previous, hinitial.stage⟩
      · rintro call pending' hw
        cases hw
        exact Nat.lt_succ_self _
      · intro call pending' message' hw hmessage
        cases hw
        simp only [System.send, Function.update_self, Option.some.injEq] at hmessage
        subst hmessage
        unfold Asks at hasks ⊢
        split at hasks <;> exact hasks
      · intro call pending' reply hw hreply
        cases hw
        have hnone : (s.send other c message pending).replies s.nextCall = none :=
          (h.fresh s.nextCall le_rfl).2
        rw [hnone] at hreply
        cases hreply
    · have hsame : (s.send client c message pending).clients other = s.clients other := by
        simp [System.send, Function.update_of_ne hother]
      rw [hsame]
      exact hwaiting _ (h.clients other)

/-! ## Serving -/

/-- The record after the head that an acknowledged append asked for. -/
theorem answers_stored {c : Client} {p : Payload} {row stored : Row} {rows : List Row} {ack : Ack}
    (hchain : Chain c.requestId rows) (hhead : Collides rows ∨ AtPrefix c rows)
    (hcas : headDigest rows.getLast? = .ok p.expectedPrevious)
    (hprevious : p.expectedPrevious = c.previous) (hstage : stored.stage = p.stage)
    (hhash : digest stored.json = .ok ack.lastSha256) :
    Answers (rows ++ [stored]) c (.appending p row) (.ack ack) := by
  have hrows : rows <+: rows ++ [stored] := List.prefix_append _ _
  rcases hhead with hcollide | hinitial
  · exact .inl (hcollide.mono hrows)
  rw [hprevious] at hcas
  rcases hchain.eq_of_head hinitial.sequence hinitial.previous hcas with heq | hcollide
  · refine .inr ⟨stored, ?_, hhash, hstage⟩
    rw [heq, List.getElem?_append_right le_rfl, Nat.sub_self]
    rfl
  · exact .inl (hcollide.mono hrows)

/-- What an append leaves in the directory that it changes. -/
theorem stored_concat {requestId : String} {directory : Directory} (hsound : Sound requestId directory)
    {p : Payload} {rows : List Row} {row : Row} {file : File} (hplanned : Planned directory p rows row)
    (hrow : file.row = row) (hname : file.name = filename row.sequence row.stage)
    (hrequest : p.requestId = requestId) :
    Sound requestId (directory ++ [file]) ∧ rows = storedRows directory ∧
      storedRows (directory ++ [file]) = rows ++ (readFile file).toOption.toList := by
  obtain ⟨hintact, rfl⟩ := hsound.intact hplanned.read
  refine ⟨hintact.concat hplanned hrow hname (hplanned.request.trans hrequest), ?_, ?_⟩
  · rw [hintact.storedRows_eq]
  · rw [hintact.storedRows_concat hplanned hname, hintact.storedRows_eq]

theorem System.stored_answer (s : System) (call : Nat) (base : Base) (reply : Option Reply)
    (id : String) : (s.answer call base reply).stored id = storedRows (filesOf base id) :=
  rfl

section
variable {s : System} {call : Nat} {message : Message} {base : Base} {reply : Option Reply}

/-- A helper answers its call and leaves every other call as it was. -/
theorem SystemInv.answer (h : SystemInv s) (hrequest : s.requests call = some message)
    (hsound : ∀ id, Sound id (filesOf base id))
    (hstored : ∀ id, s.stored id <+: storedRows (filesOf base id))
    (hserved : ∀ id, ∀ file ∈ filesOf base id, file ∈ s.journal id ∨ file.call = call)
    (honce : ∀ (id id' : String) (i j : Nat) (file file' : File), (filesOf base id)[i]? = some file →
      (filesOf base id')[j]? = some file' → file.call = file'.call → id = id' ∧ i = j)
    (hreply : ∀ c pending answer, ClientInv s c → Asks c pending message → reply = some answer →
      Answers (storedRows (filesOf base c.requestId)) c pending answer) :
    SystemInv (s.answer call base reply) := by
  have hknown : call < s.nextCall := by
    by_contra hlt
    rw [(h.fresh call (not_lt.mp hlt)).1] at hrequest
    cases hrequest
  refine ⟨hsound, ?_, ?_, honce, ?_⟩
  · intro other hother
    have hother : s.nextCall ≤ other := hother
    have hne : other ≠ call := (hknown.trans_le hother).ne'
    simp only [System.answer, Function.update_apply, if_neg hne]
    exact h.fresh other hother
  · intro id file hfile
    simp only [System.answer, Function.update_apply]
    rcases hserved id file hfile with hold | rfl
    · obtain ⟨hcall, hnone⟩ := h.served id file hold
      refine ⟨hcall, ?_⟩
      split
      · rfl
      · exact hnone
    · exact ⟨hknown, if_pos rfl⟩
  · intro client
    have hc := h.clients client
    refine hc.transport (hstored _) le_rfl ?_ ?_
    · intro other pending message' _ hmessage
      simp only [System.answer, Function.update_apply] at hmessage
      split at hmessage
      · cases hmessage
      · exact hmessage
    · intro other pending answer hwaiting hanswer
      simp only [System.answer, Function.update_apply] at hanswer
      split at hanswer
      · rename_i heq
        subst heq
        exact .inr (hreply _ _ _ hc (hc.asks _ _ _ hwaiting hrequest) hanswer)
      · exact .inl hanswer

end

theorem SystemInv.serve_append {s : System} (h : SystemInv s) {call : Nat} {payload : Payload}
    {input : String} (hrequest : s.requests call = some (.append payload input))
    (fault : Option Fault) : SystemInv (s.answer call (mainAppend s.base call fault input payload).1
      ((mainAppend s.base call fault input payload).2.toOption.map Reply.ack)) := by
  have hserved := mainAppend_served s.base call fault input payload
  revert hserved
  generalize mainAppend s.base call fault input payload = result
  intro hserved
  cases hserved with
  | refused same message error =>
    have hjournal : ∀ id, filesOf result.1 id = s.journal id := same
    refine h.answer hrequest ?_ ?_ ?_ ?_ ?_
    · intro id
      rw [hjournal]
      exact h.sound id
    · intro id
      rw [hjournal]
      exact List.prefix_rfl
    · intro id file hfile
      rw [hjournal] at hfile
      exact .inl hfile
    · intro id id' i j file file' hi hj
      rw [hjournal] at hi hj
      exact h.once id id' i j file file' hi hj
    · intro c pending answer _ _ hanswer
      rw [error] at hanswer
      cases hanswer
  | stored rows row file planned added others row_eq call_eq name_eq acked =>
    have hbefore : Sound payload.requestId (filesOf s.base payload.requestId) := h.sound _
    obtain ⟨hsound, hrows, hstored⟩ := stored_concat hbefore planned row_eq name_eq rfl
    rw [← added] at hsound hstored
    have hfresh : ∀ id, ∀ other ∈ s.journal id, other.call ≠ call := by
      intro id other hother heq
      have hnone := (h.served id other hother).2
      rw [heq, hrequest] at hnone
      cases hnone
    -- a file of the new directories is an old one, or the new one in its place
    have hfile : ∀ id i other, (filesOf result.1 id)[i]? = some other →
        (s.journal id)[i]? = some other ∨
          (id = payload.requestId ∧ i = (s.journal id).length ∧ other.call = call) := by
      intro id i other hi
      by_cases hid : id = payload.requestId
      · subst hid
        rw [added] at hi
        rcases getElem?_concat hi with ⟨-, hold⟩ | ⟨hlast, rfl⟩
        · exact .inl hold
        · exact .inr ⟨rfl, hlast, call_eq⟩
      · rw [others id hid] at hi
        exact .inl hi
    refine h.answer hrequest ?_ ?_ ?_ ?_ ?_
    · intro id
      by_cases hid : id = payload.requestId
      · rw [hid]
        exact hsound
      · rw [others id hid]
        exact h.sound id
    · intro id
      by_cases hid : id = payload.requestId
      · rw [hid, hstored, hrows]
        exact List.prefix_append _ _
      · rw [others id hid]
        exact List.prefix_rfl
    · intro id other hother
      obtain ⟨i, hi⟩ := List.getElem?_of_mem hother
      rcases hfile id i other hi with hold | ⟨-, -, hcall⟩
      · exact .inl (List.mem_of_getElem? hold)
      · exact .inr hcall
    · intro id id' i j first second hi hj hsame
      rcases hfile id i first hi with hold | ⟨hid, hlast, hcall⟩ <;>
        rcases hfile id' j second hj with hold' | ⟨hid', hlast', hcall'⟩
      · exact h.once id id' i j first second hold hold' hsame
      · exact absurd (hsame.trans hcall') (hfresh id first (List.mem_of_getElem? hold))
      · exact absurd (hsame.symm.trans hcall) (hfresh id' second (List.mem_of_getElem? hold'))
      · subst hid hid'
        exact ⟨rfl, hlast.trans hlast'.symm⟩
    · intro c pending answer hc hasks hanswer
      cases hresult : result.2 with
      | error message =>
        rw [hresult] at hanswer
        cases hanswer
      | ok ack =>
        rw [hresult] at hanswer
        cases hanswer
        obtain ⟨hread, hhash⟩ := acked ack hresult
        cases pending with
        | observing => exact hasks.elim
        | appending sent row' =>
          obtain ⟨rfl, hid, hprevious⟩ := hasks
          rw [hread] at hstored
          have hhead : Collides (storedRows (filesOf s.base c.requestId)) ∨
              AtPrefix c (storedRows (filesOf s.base c.requestId)) := hc.head
          have hchain : Chain c.requestId (storedRows (filesOf s.base c.requestId)) :=
            (h.sound c.requestId).chain
          rw [hid] at hrows hstored
          rw [hstored]
          subst hrows
          exact answers_stored hchain hhead planned.cas hprevious planned.stage hhash

theorem observe_eq_ok {base : Base} {requestId : String} {o : Observation}
    (h : observe base requestId = .ok o) : readJournal (filesOf base requestId) = .ok o.records ∧
      headDigest o.records.getLast? = .ok o.lastSha256 ∧
        o.stage = o.records.getLast?.map Row.stage := by
  simp only [observe, bind_eq_ok, exists_unit] at h
  obtain ⟨-, h⟩ := h
  split at h
  · cases h
  · rename_i directory hbase
    simp only [bind_eq_ok, exists_unit, pure_eq_ok] at h
    obtain ⟨rows, hread, head, hhead, -, rfl⟩ := h
    rw [filesOf, hbase]
    exact ⟨hread, hhead, rfl⟩

theorem SystemInv.serve_observe {s : System} (h : SystemInv s) {call : Nat} {requestId : String}
    (hrequest : s.requests call = some (.observe requestId)) : SystemInv (s.answer call s.base
      ((observe s.base requestId).toOption.map Reply.observation)) := by
  refine h.answer hrequest h.sound (fun _ => List.prefix_rfl) (fun _ _ hfile => .inl hfile) h.once ?_
  intro c pending answer _ hasks hanswer
  cases hobserve : observe s.base requestId with
  | error message =>
    rw [hobserve] at hanswer
    cases hanswer
  | ok o =>
    rw [hobserve] at hanswer
    cases hanswer
    cases pending with
    | appending payload row => exact hasks.elim
    | observing =>
      have hid : requestId = c.requestId := hasks
      subst hid
      obtain ⟨hread, hhead, hstage⟩ := observe_eq_ok hobserve
      have hsound : Sound c.requestId (filesOf s.base c.requestId) := h.sound _
      obtain ⟨hintact, hrows⟩ := hsound.intact hread
      refine ⟨?_, hhead, hstage⟩
      rw [hintact.storedRows_eq, hrows]

/-! ## Calling and receiving -/

theorem prepareAppend_eq_ok {c : Client} {stage : Stage} {receipt : Value} {payload : Payload}
    {row : Row} {input : String} (h : prepareAppend c stage receipt = .ok (payload, row, input)) :
    payload.requestId = c.requestId ∧ payload.expectedPrevious = c.previous := by
  simp only [prepareAppend, bind_eq_ok, exists_unit, pure_eq_ok, Prod.mk.injEq] at h
  obtain ⟨-, -, -, -, -, -, -, -, -, -, -, -, -, -, -, -, -, -, rfl, -, -⟩ := h
  exact ⟨rfl, rfl⟩

theorem SystemInv.callAppend {s : System} (h : SystemInv s) (client : Nat) (stage : Stage)
    (receipt : Value) (cas : Option String) :
    SystemInv (s.callAppend client stage receipt cas) := by
  unfold System.callAppend
  dsimp only
  split
  · rename_i payload row input hwaiting hprepared
    simp only [bind_eq_ok, exists_unit] at hprepared
    obtain ⟨hid, hprevious⟩ := prepareAppend_eq_ok hprepared.2
    have hc := h.clients client
    refine h.send client ⟨?_, hc.known, ?_, ?_⟩ ⟨rfl, hid, hprevious⟩
    · rcases hc.head with hcollide | hinitial
      · exact .inl hcollide
      · exact .inr ⟨hinitial.sequence, hinitial.previous, hinitial.stage⟩
    · intro call pending message hsent
      rw [hwaiting] at hsent
      cases hsent
    · intro call pending reply hsent
      rw [hwaiting] at hsent
      cases hsent
  · exact h

theorem SystemInv.callLoad {s : System} (h : SystemInv s) (client : Nat) :
    SystemInv (s.callLoad client) := by
  unfold System.callLoad
  dsimp only
  split
  · exact h.send client (h.clients client) rfl
  · exact h

theorem take_succ_getLast {rows : List Row} {n : Nat} {row : Row} (h : rows[n]? = some row) :
    (rows.take (n + 1)).getLast? = some row := by
  rw [List.take_add_one, h]
  exact List.getLast?_concat

theorem settleAppend_inv {s : System} {c c' : Client} {payload : Payload} {row : Row} {ack : Ack}
    (hanswers : Answers (s.stored c.requestId) c (.appending payload row) (.ack ack))
    (h : settleAppend c payload row ack = .ok c') : ClientInv s c' := by
  simp only [settleAppend, bind_eq_ok, exists_unit, pure_eq_ok] at h
  obtain ⟨-, -, -, -, -, -, -, -, -, -, rfl⟩ := h
  refine ⟨?_, ?_, ?_, ?_⟩
  · rcases hanswers with hcollide | ⟨stored, hstored, hhash, hstage⟩
    · exact .inl hcollide
    · have hlast := take_succ_getLast hstored
      refine .inr ⟨(List.getElem?_eq_some_iff.mp hstored).1, ?_, ?_⟩
      · rw [hlast]
        simp [headDigest, hhash]
      · rw [hlast, ← hstage]
        rfl
  · intro call pending hwaiting
    cases hwaiting
  · intro call pending message hwaiting
    cases hwaiting
  · intro call pending reply hwaiting
    cases hwaiting

theorem checkRecords_sequence {requestId : String} {context : Value} {head head' : Head}
    {rows : List Row} (h : checkRecords requestId context head rows = .ok head') :
    head'.sequence = head.sequence + rows.length := by
  induction rows generalizing head with
  | nil =>
    cases h
    rfl
  | cons row rows ih =>
    simp only [checkRecords, bind_eq_ok] at h
    obtain ⟨next, hnext, h⟩ := h
    simp only [checkRecord, bind_eq_ok, exists_unit, pure_eq_ok] at hnext
    obtain ⟨-, -, -, -, -, -, -, -, -, -, -, -, hash, -, rfl⟩ := hnext
    rw [ih h, List.length_cons]
    exact Nat.add_right_comm head.sequence 1 rows.length

theorem settleLoad_inv {s : System} {c c' : Client} {o : Observation}
    (hanswers : Answers (s.stored c.requestId) c .observing (.observation o))
    (h : settleLoad c o = .ok c') : ClientInv s c' := by
  simp only [settleLoad, bind_eq_ok, exists_unit, pure_eq_ok] at h
  obtain ⟨-, -, -, head, hhead, hmatch, -, rfl⟩ := h
  obtain ⟨hinitial, hlast, hstage⟩ := hanswers
  have hsequence : head.sequence = o.records.length := by
    rw [checkRecords_sequence hhead, Nat.zero_add]
  simp only [need, dieIf_eq_ok, Bool.not_eq_false', Bool.and_eq_true, decide_eq_true_eq] at hmatch
  obtain ⟨hheadStage, hheadHash⟩ := hmatch
  have htake : (s.stored c.requestId).take head.sequence = o.records := by
    rw [hsequence, take_of_initial hinitial le_rfl, List.take_length]
  refine ⟨.inr ⟨?_, ?_, ?_⟩, ?_, ?_, ?_⟩
  · rw [hsequence]
    exact hinitial.length_le
  · rw [htake, ← hheadHash]
    exact hlast
  · rw [htake, ← hheadStage]
    exact hstage
  · intro call pending hwaiting
    cases hwaiting
  · intro call pending message hwaiting
    cases hwaiting
  · intro call pending reply hwaiting
    cases hwaiting

theorem SystemInv.receive {s : System} (h : SystemInv s) (client : Nat) :
    SystemInv (s.receive client) := by
  have hc := h.clients client
  unfold System.receive
  dsimp only
  split
  · exact h
  · rename_i call pending hwaiting
    split
    · exact h
    · rename_i reply hreply
      have hanswers := hc.answers call pending reply hwaiting hreply
      split
      · rename_i c' hsettle
        refine h.setClient client ?_
        unfold Client.settle at hsettle
        split at hsettle
        · exact settleAppend_inv hanswers hsettle
        · exact settleLoad_inv hanswers hsettle
        · cases hsettle
      · exact h.setClient client hc.fail

/-! ## Runs -/

theorem SystemInv.serve {s : System} (h : SystemInv s) (call : Nat) (fault : Option Fault) :
    SystemInv (s.serve call fault) := by
  unfold System.serve
  split
  · exact h
  · rename_i payload input hrequest
    exact h.serve_append hrequest fault
  · rename_i requestId hrequest
    exact h.serve_observe hrequest

theorem SystemInv.step {s : System} (h : SystemInv s) (event : Event) : SystemInv (s.step event) := by
  cases event with
  | append client stage receipt cas => exact h.callAppend client stage receipt cas
  | load client => exact h.callLoad client
  | serve call fault => exact h.serve call fault
  | receive client => exact h.receive client
  | giveUp client => exact h.setClient client (h.clients client).fail

theorem SystemInv.run {s : System} (h : SystemInv s) (events : List Event) :
    SystemInv (s.run events) := by
  induction events generalizing s with
  | nil => exact h
  | cons event events ih => exact ih (h.step event)

/-- A step leaves a journal alone, or adds one file to a readable one. -/
theorem step_journal {s : System} (h : SystemInv s) (event : Event) (id : String) :
    (s.step event).journal id = s.journal id ∨
      ((∃ rows, readJournal (s.journal id) = .ok rows) ∧
        s.stored id <+: (s.step event).stored id) := by
  cases event with
  | append client stage receipt cas =>
    left
    simp only [System.step, System.callAppend]
    split <;> rfl
  | load client =>
    left
    simp only [System.step, System.callLoad]
    split <;> rfl
  | receive client =>
    left
    simp only [System.step, System.receive]
    split
    · rfl
    · split
      · rfl
      · split <;> rfl
  | giveUp client => exact .inl rfl
  | serve call fault =>
    simp only [System.step, System.serve]
    split
    · exact .inl rfl
    · rename_i payload input hrequest
      have hserved := mainAppend_served s.base call fault input payload
      cases hserved with
      | refused same message error => exact .inl (same id)
      | stored rows row file planned added others row_eq call_eq name_eq acked =>
        by_cases hid : id = payload.requestId
        · subst hid
          have hbefore : Sound payload.requestId (filesOf s.base payload.requestId) := h.sound _
          obtain ⟨-, hrows, hstored⟩ := stored_concat hbefore planned row_eq name_eq rfl
          refine .inr ⟨⟨rows, planned.read⟩, ?_⟩
          have hafter : (s.answer call (mainAppend s.base call fault input payload).1
              ((mainAppend s.base call fault input payload).2.toOption.map Reply.ack)).stored
                payload.requestId = rows ++ (readFile file).toOption.toList := by
            rw [System.stored_answer, added, hstored]
          rw [hafter, hrows]
          exact List.prefix_append _ _
        · exact .inl (others id hid)
    · exact .inl rfl

theorem run_stored {s : System} (h : SystemInv s) (events : List Event) (id : String) :
    s.stored id <+: (s.run events).stored id := by
  induction events generalizing s with
  | nil => exact List.prefix_rfl
  | cons event events ih =>
    refine List.IsPrefix.trans ?_ (ih (h.step event))
    rcases step_journal h event id with hsame | ⟨-, hgrown⟩
    · rw [System.stored, System.stored, hsame]
    · exact hgrown

/-- A journal that cannot be read is never changed again. -/
theorem run_closed {s : System} (h : SystemInv s) {id message : String}
    (hclosed : readJournal (s.journal id) = .error message) (events : List Event) :
    (s.run events).journal id = s.journal id := by
  induction events generalizing s with
  | nil => rfl
  | cons event events ih =>
    have hsame : (s.step event).journal id = s.journal id := by
      rcases step_journal h event id with hsame | ⟨⟨rows, hread⟩, -⟩
      · exact hsame
      · rw [hclosed] at hread
        cases hread
    have hrest := ih (h.step event) (by rw [hsame]; exact hclosed)
    exact hrest.trans hsame

/-! ## Agreement -/

/-- The journal can no longer be read, nor appended to, as its directory stays what it is. -/
def Closed (s : System) (id : String) : Prop :=
  (∃ message, readJournal (s.journal id) = .error message) ∧
    ∀ events, (s.run events).journal id = s.journal id

structure Agreement (s : System) : Prop where
  grows : ∀ events id, s.stored id <+: (s.run events).stored id
  chain : ∀ id, Chain id (s.stored id)
  readable : ∀ id, readJournal (s.journal id) = .ok (s.stored id) ∨ Closed s id
  heads : ∀ client, (s.clients client).poisoned = false →
    AtPrefix (s.clients client) (s.stored (s.clients client).requestId) ∨
      Collides (s.stored (s.clients client).requestId)
  once : ∀ (id id' : String) (i j : Nat) (file file' : File), (s.journal id)[i]? = some file →
    (s.journal id')[j]? = some file' → file.call = file'.call → id = id' ∧ i = j

theorem journal_agreement (identities : Nat → Identity) (events : List Event) :
    Agreement ((start identities).run events) := by
  have h := (systemInv_start identities).run events
  refine ⟨fun more id => run_stored h more id, fun id => (h.sound id).chain, ?_, ?_, h.once⟩
  · intro id
    rcases h.sound id with hintact | ⟨front, last, htorn⟩
    · left
      rw [System.stored, hintact.storedRows_eq]
      exact hintact.readJournal_eq
    · right
      obtain ⟨message, hrefused⟩ := htorn.readJournal_ne
      exact ⟨⟨message, hrefused⟩, run_closed h hrefused⟩
  · intro client _
    exact (h.clients client).head.symm

end SharedLvmThin.DestroyJournal
