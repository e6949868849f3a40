import SharedLvmThin.StrictJsonTokens

/-! The strict reader accepts the JSON texts without duplicate keys, within its depth and token
budgets: the walk reads the tokens of a document back exactly then. -/

namespace SharedLvmThin.StrictJson
open Perl JsonGrammar

/-! ## The walk -/

section
variable {δ : Type} {decode : List Char → Except String δ} {keyText : δ → List Nat}

variable (decode keyText) in
/-- The walk over one value leaves these tokens. -/
def Walks (levels : Nat) (tokens rest : List Token) : Prop :=
  ∃ h, walk decode keyText levels tokens = .ok ⟨rest, h⟩

variable (decode keyText) in
/-- The loop over the entries of a container leaves these tokens. -/
def Enters (levels : Nat) (isObject : Bool) (seen : List (List Nat)) (tokens rest : List Token) :
    Prop :=
  ∃ h, entries decode keyText (walk decode keyText levels) isObject seen tokens = .ok ⟨rest, h⟩

def opening (isObject : Bool) : Token := [if isObject then '\x7b' else '[']

theorem opening_eq (isObject : Bool) : (opening isObject = ['\x7b'] ∨ opening isObject = ['[']) ∧
    decide (opening isObject = ['\x7b']) = isObject := by
  cases isObject <;> decide

theorem walks_zero {tokens rest : List Token} : ¬ Walks decode keyText 0 tokens rest := by
  rintro ⟨h, hwalk⟩
  cases hwalk

theorem walks_atom {levels : Nat} {t : Token} {tokens rest : List Token} (hopen : t ≠ ['\x7b'] ∧
    t ≠ ['['])
    (h : t ∉ [['\x7d'], [']'], [':'], [',']]) :
    Walks decode keyText (levels + 1) (t :: tokens) rest ↔ rest = tokens := by
  have hnot : ¬ (t = ['\x7b'] ∨ t = ['[']) := not_or.mpr hopen
  simp only [Walks, walk, if_neg hnot, bind_eq_ok, need_eq_ok, pure_eq_ok, Subtype.mk.injEq]
  constructor
  · rintro ⟨-, -, -, rfl⟩
    rfl
  · rintro rfl
    exact ⟨by rw [List.length_cons]; omega, (), decide_eq_true h, rfl⟩

theorem walks_empty {levels : Nat} (isObject : Bool) {tokens rest : List Token} :
    Walks decode keyText (levels + 1) (opening isObject :: closing isObject :: tokens) rest ↔
      rest = tokens := by
  obtain ⟨hopen, hobject⟩ := opening_eq isObject
  simp only [Walks, walk, if_pos hopen, hobject]
  rw [if_pos List.head?_cons]
  simp only [List.tail_cons, Except.ok.injEq, Subtype.mk.injEq]
  constructor
  · rintro ⟨-, rfl⟩
    rfl
  · rintro rfl
    exact ⟨by simp only [List.length_cons]; omega, rfl⟩

theorem walks_entries {levels : Nat} (isObject : Bool) {tokens rest : List Token}
    (h : tokens.head? ≠ some (closing isObject)) :
    Walks decode keyText (levels + 1) (opening isObject :: tokens) rest ↔
      Enters decode keyText levels isObject [] tokens rest := by
  obtain ⟨hopen, hobject⟩ := opening_eq isObject
  simp only [Walks, walk, if_pos hopen, hobject]
  rw [if_neg h]
  simp only [bind_eq_ok, pure_eq_ok, Subtype.mk.injEq]
  constructor
  · rintro ⟨-, ⟨last, hlast⟩, hentries, rfl⟩
    exact ⟨hlast, hentries⟩
  · rintro ⟨hlast, hentries⟩
    exact ⟨by rw [List.length_cons]; omega, ⟨rest, hlast⟩, hentries, rfl⟩

variable (decode keyText) in
/-- The key of an entry, if it has one. -/
def Keyed (isObject : Bool) (seen : List (List Nat)) (tokens : List Token) (seen' : List (List Nat))
    (rest : List Token) : Prop :=
  ∃ h, entryKey decode keyText isObject seen tokens = .ok (seen', (⟨rest, h⟩ : RestOrAll tokens))

/-- One round of the loop. -/
theorem enters_iff {levels : Nat} {isObject : Bool} {seen : List (List Nat)}
    {tokens rest : List Token} :
    Enters decode keyText levels isObject seen tokens rest ↔
      ∃ seen' afterKey, Keyed decode keyText isObject seen tokens seen' afterKey ∧
        ∃ separator more, Walks decode keyText levels afterKey (separator :: more) ∧
          (separator = closing isObject ∧ rest = more ∨ separator = [','] ∧
            Enters decode keyText levels isObject seen' more rest) := by
  have hcomma : [','] ≠ closing isObject := by cases isObject <;> decide
  constructor
  · rintro ⟨hrest, h⟩
    rw [entries] at h
    obtain ⟨⟨seen', afterKey, hkey⟩, hread, h⟩ := bind_eq_ok.mp h
    obtain ⟨⟨left, hleft⟩, hvalue, h⟩ := bind_eq_ok.mp h
    refine ⟨seen', afterKey, ⟨hkey, hread⟩, ?_⟩
    cases left with
    | nil => cases h
    | cons separator more =>
      refine ⟨separator, more, ⟨hleft, hvalue⟩, ?_⟩
      dsimp only at h
      split_ifs at h with hclose hnext
      · simp only [pure_eq_ok, Subtype.mk.injEq] at h
        exact .inl ⟨hclose, h.symm⟩
      · obtain ⟨⟨last, hlast⟩, hentries, h⟩ := bind_eq_ok.mp h
        simp only [pure_eq_ok, Subtype.mk.injEq] at h
        subst h
        exact .inr ⟨hnext, hlast, hentries⟩
  · rintro ⟨seen', afterKey, ⟨hkey, hread⟩, separator, more, ⟨hleft, hvalue⟩, hseparator⟩
    have hmore : more.length < tokens.length := by
      rw [List.length_cons] at hleft
      omega
    rcases hseparator with ⟨hclose, rfl⟩ | ⟨hnext, hlast, hentries⟩
    · refine ⟨hmore, ?_⟩
      rw [entries]
      refine bind_eq_ok.mpr ⟨_, hread, bind_eq_ok.mpr ⟨_, hvalue, ?_⟩⟩
      dsimp only
      rw [if_pos hclose]
      rfl
    · refine ⟨by omega, ?_⟩
      rw [entries]
      refine bind_eq_ok.mpr ⟨_, hread, bind_eq_ok.mpr ⟨_, hvalue, ?_⟩⟩
      dsimp only
      rw [if_neg (by rw [hnext]; exact hcomma), if_pos hnext]
      exact bind_eq_ok.mpr ⟨_, hentries, rfl⟩

theorem keyed_item {seen seen' : List (List Nat)} {tokens rest : List Token} :
    Keyed decode keyText false seen tokens seen' rest ↔ seen' = seen ∧ rest = tokens := by
  simp only [Keyed, entryKey, Bool.false_eq_true, if_false, Except.ok.injEq, Prod.mk.injEq,
    Subtype.mk.injEq]
  constructor
  · rintro ⟨-, rfl, rfl⟩
    exact ⟨rfl, rfl⟩
  · rintro ⟨rfl, rfl⟩
    exact ⟨le_rfl, rfl, rfl⟩

/-- A key token that decodes to a text not seen before is read with its colon. -/
theorem keyed_member {seen seen' : List (List Nat)} {key : Token} {tokens rest : List Token}
    (hquote : key.head? = some '"') {value : δ} (hdecode : decode key = .ok value) :
    Keyed decode keyText true seen (key :: [':'] :: tokens) seen' rest ↔
      keyText value ∉ seen ∧ seen' = keyText value :: seen ∧ rest = tokens := by
  simp only [Keyed, entryKey, if_true, readKey, bind_eq_ok, exists_unit, need_eq_ok, pure_eq_ok,
    hdecode,
    decide_eq_true_eq, Except.ok.injEq, Prod.mk.injEq, Subtype.mk.injEq, List.tail_cons,
      List.head?_cons]
  constructor
  · rintro ⟨-, -, _, rfl, hnew, -, rfl, rfl⟩
    exact ⟨hnew, rfl, rfl⟩
  · rintro ⟨hnew, rfl, rfl⟩
    exact ⟨by simp only [List.length_cons]; omega, hquote, value, rfl, hnew, trivial, rfl, rfl⟩

variable (decode keyText) in
/-- The walk reads a document exactly when it is shallow enough and repeats no key. -/
def Walked (d : Doc) : Prop := ∀ levels tokens rest,
    Walks decode keyText levels (d.tokens ++ tokens) rest ↔
  rest = tokens ∧ d.Distinct ∧ d.depth < levels

theorem items_walk {docs : List Doc} (hne : docs ≠ []) (h : ∀ d ∈ docs, Walked decode keyText d)
    {levels : Nat} {tokens rest : List Token} :
    Enters decode keyText levels false [] (itemsTokens docs ++ closing false :: tokens) rest ↔
      rest = tokens ∧ ItemsDistinct docs ∧ itemsDepth docs ≤ levels := by
  induction docs with
  | nil => exact absurd rfl hne
  | cons d docs ih =>
    obtain ⟨hd, hdocs⟩ := List.forall_mem_cons.mp h
    rw [enters_iff]
    simp only [keyed_item]
    cases docs with
    | nil =>
      simp only [itemsTokens, ItemsDistinct, itemsDepth, and_true, Nat.max_zero, Nat.succ_le_iff]
      constructor
      · rintro ⟨seen', afterKey, ⟨rfl, rfl⟩, separator, more, hwalk, hseparator⟩
        obtain ⟨hrest, hdistinct, hdepth⟩ := (hd _ _ _).mp hwalk
        cases hrest
        rcases hseparator with ⟨-, rfl⟩ | ⟨hcomma, -⟩
        · exact ⟨rfl, hdistinct, hdepth⟩
        · exact absurd hcomma (by decide)
      · rintro ⟨rfl, hdistinct, hdepth⟩
        exact ⟨[], _, ⟨rfl, rfl⟩, closing false, rest, (hd _ _ _).mpr ⟨rfl, hdistinct, hdepth⟩,
          .inl ⟨rfl, rfl⟩⟩
    | cons d' docs =>
      have hrest := ih (List.cons_ne_nil _ _) hdocs
      simp only [itemsTokens, List.append_assoc, List.cons_append]
      rw [ItemsDistinct, itemsDepth, Nat.max_le, Nat.succ_le_iff]
      constructor
      · rintro ⟨seen', afterKey, ⟨rfl, rfl⟩, separator, more, hwalk, hseparator⟩
        obtain ⟨hleft, hdistinct, hdepth⟩ := (hd _ _ _).mp hwalk
        cases hleft
        rcases hseparator with ⟨hclose, -⟩ | ⟨-, henters⟩
        · exact absurd hclose (by decide)
        · obtain ⟨heq, hdistinctRest, hdepthRest⟩ := hrest.mp henters
          exact ⟨heq, ⟨hdistinct, hdistinctRest⟩, hdepth, hdepthRest⟩
      · rintro ⟨heq, ⟨hdistinct, hdistinctRest⟩, hdepth, hdepthRest⟩
        exact ⟨[], _, ⟨rfl, rfl⟩, [','], _, (hd _ _ _).mpr ⟨rfl, hdistinct, hdepth⟩,
          .inr ⟨rfl, hrest.mpr ⟨heq, hdistinctRest, hdepthRest⟩⟩⟩

theorem string_head {key : Token} (h : IsString key) : key.head? = some '"' := by
  obtain ⟨pieces, -, rfl⟩ := h
  rfl

theorem members_walk (hkey : ∀ key, IsString key → ∃ value, decode key = .ok value ∧
      keyText value = unescape key) {members : List (Text × Doc)} (hne : members ≠ [])
    (hkeys : ∀ m ∈ members, IsString m.1) (h : ∀ m ∈ members, Walked decode keyText m.2)
    {levels : Nat} {seen : List (List Nat)} {tokens rest : List Token} :
    Enters decode keyText levels true seen (membersTokens members ++ closing true :: tokens) rest ↔
      rest = tokens ∧ ((members.map fun m => unescape m.1).Nodup ∧
        ∀ m ∈ members, unescape m.1 ∉ seen) ∧ MembersDistinct members ∧
          membersDepth members ≤ levels := by
  induction members generalizing seen with
  | nil => exact absurd rfl hne
  | cons m members ih =>
    obtain ⟨key, d⟩ := m
    obtain ⟨hd, hmembers⟩ := List.forall_mem_cons.mp h
    obtain ⟨hstring, hkeys⟩ := List.forall_mem_cons.mp hkeys
    obtain ⟨value, hdecode, htext⟩ := hkey key hstring
    rw [enters_iff]
    cases members with
    | nil =>
      simp only [membersTokens, List.cons_append, keyed_member (string_head hstring) hdecode, htext,
        MembersDistinct, membersDepth, and_true, Nat.max_zero, Nat.succ_le_iff, List.map_cons,
          List.map_nil,
        List.nodup_singleton, true_and, List.forall_mem_singleton]
      constructor
      · rintro ⟨seen', afterKey, ⟨hnew, rfl, rfl⟩, separator, more, hwalk, hseparator⟩
        obtain ⟨hleft, hdistinct, hdepth⟩ := (hd _ _ _).mp hwalk
        cases hleft
        rcases hseparator with ⟨-, rfl⟩ | ⟨hcomma, -⟩
        · exact ⟨rfl, hnew, hdistinct, hdepth⟩
        · exact absurd hcomma (by decide)
      · rintro ⟨rfl, hnew, hdistinct, hdepth⟩
        exact ⟨_, _, ⟨hnew, rfl, rfl⟩, closing true, rest, (hd _ _ _).mpr ⟨rfl, hdistinct, hdepth⟩,
          .inl ⟨rfl, rfl⟩⟩
    | cons m' members =>
      have hrest := @ih (List.cons_ne_nil _ _) hkeys hmembers (unescape key :: seen)
      have htokens : membersTokens ((key, d) :: m' :: members) ++ closing true :: tokens =
          key :: [':'] :: (d.tokens ++ [','] :: (membersTokens (m' :: members) ++ closing true ::
            tokens)) := by
        simp only [membersTokens, List.append_assoc, List.cons_append]
      rw [htokens, MembersDistinct, membersDepth, Nat.max_le, Nat.succ_le_iff, List.map_cons,
        List.nodup_cons, List.forall_mem_cons]
      simp only [keyed_member (string_head hstring) hdecode, htext]
      constructor
      · rintro ⟨seen', afterKey, ⟨hnew, rfl, rfl⟩, separator, more, hwalk, hseparator⟩
        obtain ⟨hleft, hdistinct, hdepth⟩ := (hd _ _ _).mp hwalk
        cases hleft
        rcases hseparator with ⟨hclose, -⟩ | ⟨-, henters⟩
        · exact absurd hclose (by decide)
        · obtain ⟨heq, ⟨hnodup, hunseen⟩, hdistinctRest, hdepthRest⟩ := hrest.mp henters
          refine ⟨heq, ⟨⟨?_, hnodup⟩, hnew, ?_⟩, ⟨hdistinct, hdistinctRest⟩, hdepth, hdepthRest⟩
          · intro hmem
            obtain ⟨m, hm, hsame⟩ := List.mem_map.mp hmem
            exact hunseen m hm (hsame ▸ List.mem_cons_self)
          · intro m hm hseen
            exact hunseen m hm (List.mem_cons_of_mem _ hseen)
      · rintro ⟨heq, ⟨⟨hfirst, hnodup⟩, hnew, hunseen⟩, ⟨hdistinct, hdistinctRest⟩, hdepth,
        hdepthRest⟩
        have hunseen' : ∀ m ∈ m' :: members, unescape m.1 ∉ unescape key :: seen := by
          intro m hm hseen
          rcases List.mem_cons.mp hseen with hsame | hseen
          · exact hfirst (List.mem_map.mpr ⟨m, hm, hsame⟩)
          · exact hunseen m hm hseen
        exact ⟨_, _, ⟨hnew, rfl, rfl⟩, [','], _, (hd _ _ _).mpr ⟨rfl, hdistinct, hdepth⟩,
          .inr ⟨rfl, hrest.mpr ⟨heq, ⟨hnodup, hunseen'⟩, hdistinctRest, hdepthRest⟩⟩⟩

theorem atom_value {t : Text} (h : IsAtom t) :
    (t ≠ ['\x7b'] ∧ t ≠ ['[']) ∧ t ∉ [['\x7d'], [']'], [':'], [',']] := by
  obtain ⟨c, s, rfl, hc, -⟩ := isAtom_head h
  simp only [punctuation, List.mem_cons, List.not_mem_nil, or_false, not_or] at hc
  simp [hc]

theorem value_head {t : Text} {d : Doc} (h : IsValue t d) (isObject : Bool) (tokens : List Token) :
    (d.tokens ++ tokens).head? ≠ some (closing isObject) := by
  cases h with
  | atom h =>
    obtain ⟨-, hnot⟩ := atom_value h
    intro hclose
    cases isObject <;> simp_all [Doc.tokens, closing]
  | emptyArray _ => cases isObject <;> simp [Doc.tokens, closing]
  | array _ _ _ => cases isObject <;> simp [Doc.tokens, closing]
  | emptyObject _ => cases isObject <;> simp [Doc.tokens, closing]
  | object _ _ _ _ => cases isObject <;> simp [Doc.tokens, closing]

theorem items_head {es : List Element} (hne : es ≠ []) (h : ∀ e ∈ es, IsValue e.text e.doc)
    (tokens : List Token) :
      (itemsTokens (es.map Element.doc) ++ tokens).head? ≠ some (closing false) := by
  obtain ⟨e, es, rfl⟩ := List.exists_cons_of_ne_nil hne
  have hvalue := h e List.mem_cons_self
  cases es with
  | nil => exact value_head hvalue false tokens
  | cons e' es =>
    simp only [List.map_cons, itemsTokens, List.append_assoc]
    exact value_head hvalue false _

theorem members_head {ms : List Member} (hne : ms ≠ []) (hkeys : ∀ m ∈ ms, IsString m.key)
    (tokens : List Token) : (membersTokens (ms.map fun m => (m.key, m.value.doc)) ++ tokens).head? ≠
      some (closing true) := by
  obtain ⟨m, ms, rfl⟩ := List.exists_cons_of_ne_nil hne
  obtain ⟨-, hnot⟩ := atom_value (.string (hkeys m List.mem_cons_self))
  have hhead : (membersTokens ((m :: ms).map fun m => (m.key, m.value.doc)) ++ tokens).head? =
      some m.key := by
    cases ms <;> simp [membersTokens]
  rw [hhead]
  intro hclose
  refine hnot ?_
  rw [Option.some.inj hclose]
  decide

/-- A value is read back from its tokens. -/
theorem value_walks (hkey : ∀ key, IsString key → ∃ value, decode key = .ok value ∧
    keyText value = unescape key) {t : Text} {d : Doc} (h : IsValue t d) :
      Walked decode keyText d := by
  induction h with
  | atom h =>
    intro levels tokens rest
    obtain ⟨hopen, hnot⟩ := atom_value h
    cases levels with
    | zero => simp [walks_zero]
    | succ levels =>
      rw [Doc.tokens, List.singleton_append, walks_atom hopen hnot, Doc.Distinct, Doc.depth]
      simp
  | emptyArray _ =>
    intro levels tokens rest
    cases levels with
    | zero => simp [walks_zero]
    | succ levels =>
      have htokens : (Doc.array []).tokens ++ tokens = opening false :: closing false :: tokens :=
        rfl
      rw [htokens, walks_empty, Doc.Distinct, Doc.depth, ItemsDistinct, itemsDepth]
      simp
  | @array es hne hblanks hvalues ih =>
    intro levels tokens rest
    cases levels with
    | zero => simp [walks_zero]
    | succ levels =>
      have htokens : (Doc.array (es.map Element.doc)).tokens ++ tokens =
          opening false :: (itemsTokens (es.map Element.doc) ++ closing false :: tokens) := by
        simp [Doc.tokens, opening, closing]
      have hdocs : ∀ d ∈ es.map Element.doc, Walked decode keyText d := List.forall_mem_map.mpr ih
      have hne' : es.map Element.doc ≠ [] := by simpa using hne
      rw [htokens, walks_entries false (items_head hne hvalues _), items_walk hne' hdocs,
        Doc.Distinct,
        Doc.depth, Nat.lt_succ_iff]
  | emptyObject _ =>
    intro levels tokens rest
    cases levels with
    | zero => simp [walks_zero]
    | succ levels =>
      have htokens : (Doc.object []).tokens ++ tokens = opening true :: closing true :: tokens :=
        rfl
      rw [htokens, walks_empty, Doc.Distinct, Doc.depth, MembersDistinct, membersDepth]
      simp
  | @object ms hne hblanks hkeys hvalues ih =>
    intro levels tokens rest
    cases levels with
    | zero => simp [walks_zero]
    | succ levels =>
      have htokens : (Doc.object (ms.map fun m => (m.key, m.value.doc))).tokens ++ tokens =
          opening true :: (membersTokens (ms.map fun m => (m.key, m.value.doc)) ++ closing true ::
            tokens) := by
        simp [Doc.tokens, opening, closing]
      have hdocs : ∀ m ∈ ms.map fun m => (m.key, m.value.doc), Walked decode keyText m.2 :=
        List.forall_mem_map.mpr ih
      have hstrings : ∀ m ∈ ms.map fun m => (m.key, m.value.doc), IsString m.1 :=
        List.forall_mem_map.mpr hkeys
      have hne' : (ms.map fun m => (m.key, m.value.doc)) ≠ [] := by simpa using hne
      rw [htokens, walks_entries true (members_head hne hkeys _),
        members_walk hkey hne' hstrings hdocs,
        Doc.Distinct, Doc.depth, Nat.lt_succ_iff]
      simp only [List.not_mem_nil, not_false_eq_true, implies_true, and_true, and_assoc]

/-- `JSON::PP->decode` reads exactly the JSON texts, and a string as what it stands for. -/
structure Decodes (decode : List Char → Except String δ) (keyText : δ → List Nat) : Prop where
  grammar : ∀ t, (∃ value, decode t = .ok value) ↔ ∃ d, IsText t d
  string : ∀ t value, IsString t → decode t = .ok value → keyText value = unescape t

theorem Decodes.key (h : Decodes decode keyText) (key : Text) (hkey : IsString key) :
    ∃ value, decode key = .ok value ∧ keyText value = unescape key := by
  have hnone : Blank [] := fun c hc => by cases hc
  have htext : IsText key (.atom key) :=
    ⟨[], key, [], hnone, .atom (.string hkey), hnone, by rw [List.nil_append, List.append_nil]⟩
  obtain ⟨value, hvalue⟩ := (h.grammar key).mpr ⟨_, htext⟩
  exact ⟨value, hvalue, h.string key value hkey hvalue⟩

theorem strictJson_isOk {raw : List Char} : (∃ value, strictJson decode keyText raw = .ok value) ↔
    (∃ tokens, tokenize 0 raw = .ok tokens ∧ Walks decode keyText 25 tokens []) ∧
      ∃ value, decode raw = .ok value := by
  constructor
  · rintro ⟨value, h⟩
    obtain ⟨tokens, htokens, h⟩ := bind_eq_ok.mp h
    obtain ⟨⟨rest, hrest⟩, hwalk, h⟩ := bind_eq_ok.mp h
    obtain ⟨_, hempty, hdecode⟩ := bind_eq_ok.mp h
    obtain rfl : rest = [] := of_decide_eq_true (need_eq_ok.mp hempty)
    exact ⟨⟨tokens, htokens, hrest, hwalk⟩, value, hdecode⟩
  · rintro ⟨⟨tokens, htokens, hrest, hwalk⟩, value, hdecode⟩
    refine ⟨value, bind_eq_ok.mpr ⟨tokens, htokens, bind_eq_ok.mpr ⟨⟨[], hrest⟩, hwalk, ?_⟩⟩⟩
    exact bind_eq_ok.mpr ⟨(), need_eq_ok.mpr (decide_eq_true rfl), hdecode⟩

/-- On a JSON text the walk leaves nothing exactly when the document is within bounds and repeats no
key. -/
theorem text_walks (h : Decodes decode keyText) {raw : List Char} {d : Doc} (htext : IsText raw d) :
    (∃ tokens, tokenize 0 raw = .ok tokens ∧ Walks decode keyText 25 tokens []) ↔
      d.Distinct ∧ d.depth ≤ 24 ∧ d.tokens.length ≤ 100000 := by
  obtain ⟨after, hafter, hlex⟩ := text_lexes htext
  obtain ⟨before, text, last, -, hvalue, -, rfl⟩ := htext
  obtain ⟨t, ts, hcons⟩ := tokens_ne_nil d
  have hne : d.tokens ≠ [] := by
    rw [hcons]
    exact List.cons_ne_nil _ _
  have hwalk := value_walks h.key hvalue 25 [] []
  rw [List.append_nil] at hwalk
  simp only [tokenize_eq_ok hlex hafter]
  constructor
  · rintro ⟨tokens, ⟨rfl, hbudget⟩, hwalks⟩
    obtain ⟨-, hdistinct, hdepth⟩ := hwalk.mp hwalks
    have hle := hbudget hne
    exact ⟨hdistinct, by omega, by omega⟩
  · rintro ⟨hdistinct, hdepth, hbudget⟩
    exact ⟨_, ⟨rfl, fun _ => by omega⟩, hwalk.mpr ⟨rfl, hdistinct, by omega⟩⟩

/-- The strict reader accepts the JSON texts without two keys of one object that stand for the same
string, at most 24 levels deep and of at most 100000 tokens; its walk then consumes every token. -/
theorem strictJson_accepts_iff (h : Decodes decode keyText) (raw : List Char) :
    ((∃ value, strictJson decode keyText raw = .ok value) ↔
      ∃ d, IsText raw d ∧ d.Distinct ∧ d.depth ≤ 24 ∧ d.tokens.length ≤ 100000) ∧
    ((∃ value, strictJson decode keyText raw = .ok value) →
      ∃ tokens, tokenize 0 raw = .ok tokens ∧ Walks decode keyText 25 tokens []) := by
  rw [strictJson_isOk, h.grammar]
  constructor
  · constructor
    · rintro ⟨hwalks, d, htext⟩
      exact ⟨d, htext, (text_walks h htext).mp hwalks⟩
    · rintro ⟨d, htext, hbounds⟩
      exact ⟨(text_walks h htext).mpr hbounds, d, htext⟩
  · exact fun hread => hread.1

end

/-! ## A text with one key -/

open Classical in
/-- The decoder that is the grammar itself. -/
noncomputable def grammarDecode (t : Text) : Except String Text :=
  if ∃ d, IsText t d then .ok t else .error "malformed JSON string"

theorem grammarDecode_decodes : Decodes grammarDecode unescape := by
  constructor
  · intro t
    unfold grammarDecode
    by_cases h : ∃ d, IsText t d
    · simp [h]
    · simp [h]
  · intro t value _ hdecode
    unfold grammarDecode at hdecode
    split at hdecode
    · rw [Except.ok.inj hdecode]
    · cases hdecode

def oneKey : Member where
  before := []
  key := ['"', 'a', '"']
  after := []
  value := {
    before := [' ']
    text := ['[', '1', ']']
    doc := .array [.atom ['1']]
    after := [] }

theorem oneKey_text : IsText "\x7b\"a\": [1]\x7d".toList (.object [(oneKey.key, oneKey.value.doc)])
    := by
  have hnone : Blank [] := fun c hc => by cases hc
  have hspace : Blank [' '] := fun c hc => by
    rw [List.mem_singleton.mp hc]
    decide
  have hnumber : IsNumber [] ['1'] [] [] :=
    ⟨.inl rfl, .inr ⟨⟨by decide, List.forall_mem_singleton.mpr (by decide)⟩, by decide⟩, .inl rfl,
      .inl rfl⟩
  have hitem : IsValue ['[', '1', ']'] (.array [.atom ['1']]) :=
    @IsValue.array [⟨[], ['1'], .atom ['1'], []⟩] (by simp) (by simpa [Element.Blanks] using hnone)
      (by simpa using IsValue.atom (.number hnumber))
  have hkey : IsString oneKey.key := by
    refine ⟨[['a']], ?_, rfl⟩
    simpa using Piece.plain (by decide) (by decide) (by decide)
  have hobject := @IsValue.object [oneKey] (by simp)
    (by simpa [Member.Blanks, Element.Blanks, oneKey, hnone] using hspace) (by simpa using hkey)
    (List.forall_mem_singleton.mpr hitem)
  exact ⟨[], _, [], hnone, hobject, hnone, by decide⟩

theorem strictJson_accepts_oneKey :
    (∃ value, strictJson grammarDecode unescape "\x7b\"a\": [1]\x7d".toList = .ok value) ∧
      ∃ tokens, tokenize 0 "\x7b\"a\": [1]\x7d".toList = .ok tokens ∧
        Walks grammarDecode unescape 25 tokens [] := by
  obtain ⟨hiff, hwalk⟩ := strictJson_accepts_iff grammarDecode_decodes "\x7b\"a\": [1]\x7d".toList
  have haccepted := hiff.mpr ⟨_, oneKey_text, by simp [Doc.Distinct, MembersDistinct, ItemsDistinct,
    oneKey],
    by decide, by decide⟩
  exact ⟨haccepted, hwalk haccepted⟩

end SharedLvmThin.StrictJson
