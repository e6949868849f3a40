import SharedLvmThin.StrictJson

/-! On a JSON text the pattern finds the tokens of the document: a number runs to the blank or the
punctuation after it, and every other token ends by itself. -/

namespace SharedLvmThin.StrictJson
open Perl JsonGrammar

theorem need_eq_ok {good : Bool} {message : String} {u : Unit} :
    need good message = .ok u ↔ good = true := by
  rw [need, dieIf_eq_ok, Bool.not_eq_false']

/-! ## One token -/

theorem lexString_pieces {pieces : List Text} (h : ∀ p ∈ pieces, Piece p) (rest : List Char) :
    lexString (pieces.flatten ++ '"' :: rest) = some (pieces.flatten ++ ['"'], rest) := by
  induction pieces with
  | nil => rfl
  | cons p pieces ih =>
    obtain ⟨hp, hpieces⟩ := List.forall_mem_cons.mp h
    have hrest := ih hpieces
    cases hp with
    | @plain c hquote hback hcontrol =>
      have hlow : (c = '\\' || decide (c.toNat < 32)) = false := by simp [hback, hcontrol]
      rw [List.flatten_cons, List.append_assoc, List.singleton_append, lexString.eq_4 c _
        (by simp [hback]) (by simp [hback]) (by simp [hquote])]
      simp [hlow, hrest]
    | @escape c hc =>
      have hu : c ≠ 'u' := by
        rintro rfl
        exact absurd hc (by decide)
      rw [List.flatten_cons, List.append_assoc, List.cons_append, List.singleton_append,
        lexString.eq_2 c _ (by simp [hu]), if_pos hc, hrest]
      rfl
    | @unicode a b c d hhex =>
      rw [List.flatten_cons, List.append_assoc]
      simp only [List.cons_append, List.nil_append]
      rw [lexString.eq_1, if_pos hhex, hrest]
      rfl

/-- A number is over. -/
def Ends (rest : List Char) : Prop := ∀ c ∈ rest.head?, isBlank c = true ∨ c ∈ [',', ']', '\x7d']

theorem Ends.not_digit {rest : List Char} (h : Ends rest) : ∀ c ∈ rest.head?, c.isDigit =
    false := by
  intro c hc
  rcases h c hc with hblank | hclose
  · simp only [isBlank, List.mem_cons, List.not_mem_nil, or_false, decide_eq_true_eq] at hblank
    rcases hblank with rfl | rfl | rfl | rfl <;> decide
  · simp only [List.mem_cons, List.not_mem_nil, or_false] at hclose
    rcases hclose with rfl | rfl | rfl <;> decide

theorem takeWhile_digits {digits rest : List Char} (h : ∀ c ∈ digits, c.isDigit = true)
    (hrest : ∀ c ∈ rest.head?, c.isDigit = false) :
    (digits ++ rest).takeWhile Char.isDigit = digits ∧ (digits ++ rest).dropWhile Char.isDigit =
      rest := by
  rw [List.takeWhile_append_of_pos h, List.dropWhile_append_of_pos h]
  cases rest with
  | nil => simp
  | cons c rest =>
    have hc := hrest c rfl
    simp [hc]

theorem Ends.head_ne {rest : List Char} (h : Ends rest) {d : Char} (hblank : isBlank d = false)
    (hclose : d ∉ [',', ']', '\x7d']) : rest.head? ≠ some d := by
  intro hd
  rcases h d hd with hb | hc
  · rw [hblank] at hb
    cases hb
  · exact hclose hc

theorem digits_head {digits : List Char} (h : Digits digits) :
    ∃ c rest, digits = c :: rest ∧ c.isDigit = true ∧ ∀ d ∈ rest, d.isDigit = true := by
  obtain ⟨c, rest, rfl⟩ := List.exists_cons_of_ne_nil h.1
  obtain ⟨hc, hrest⟩ := List.forall_mem_cons.mp h.2
  exact ⟨c, rest, rfl, hc, hrest⟩

theorem lexWhole_append_rest {whole rest : List Char}
    (h : whole = ['0'] ∨ (Digits whole ∧ whole.head? ≠ some '0'))
    (hrest : ∀ c ∈ rest.head?, c.isDigit = false) : lexWhole (whole ++ rest) =
        some (whole, rest) := by
  rcases h with rfl | ⟨hdigits, hzero⟩
  · rfl
  · obtain ⟨c, ds, rfl, hc, hds⟩ := digits_head hdigits
    obtain ⟨htake, hdrop⟩ := takeWhile_digits hds hrest
    have hne : c ≠ '0' := fun heq => hzero (by rw [heq]; rfl)
    rw [List.cons_append, lexWhole.eq_2 c _ (by simp [hne]), if_pos hc, htake, hdrop]

theorem lexFraction_append_rest {fraction rest : List Char}
    (h : fraction = [] ∨ ∃ digits, Digits digits ∧ fraction = '.' :: digits)
    (hrest : ∀ c ∈ rest.head?, c.isDigit = false) (hdot : rest.head? ≠ some '.') :
    lexFraction (fraction ++ rest) = (fraction, rest) := by
  rcases h with rfl | ⟨digits, hdigits, rfl⟩
  · rw [List.nil_append]
    cases rest with
    | nil => rfl
    | cons c rest =>
      have hne : c ≠ '.' := fun heq => hdot (by rw [heq]; rfl)
      exact lexFraction.eq_2 _ (by simp [hne])
  · obtain ⟨htake, hdrop⟩ := takeWhile_digits hdigits.2 hrest
    rw [List.cons_append, lexFraction, htake, hdrop, if_neg hdigits.1]

theorem lexPlusMinus_append_rest {sign rest : List Char} (h : sign = [] ∨ sign = ['+'] ∨ sign =
    ['-'])
    (hrest : ∀ c ∈ rest.head?, c.isDigit = true) : lexPlusMinus (sign ++ rest) = (sign, rest) := by
  rcases h with rfl | rfl | rfl
  · rw [List.nil_append]
    cases rest with
    | nil => rfl
    | cons c rest =>
      have hc := hrest c rfl
      have hplus : c ≠ '+' := by
        rintro rfl
        exact absurd hc (by decide)
      have hminus : c ≠ '-' := by
        rintro rfl
        exact absurd hc (by decide)
      exact lexPlusMinus.eq_3 _ (by simp [hplus]) (by simp [hminus])
  · rfl
  · rfl

theorem lexExponent_append_rest {exponent rest : List Char}
    (h : exponent = [] ∨ ∃ e sign digits, (e = 'e' ∨ e = 'E') ∧
      (sign = [] ∨ sign = ['+'] ∨ sign = ['-']) ∧ Digits digits ∧ exponent = e :: (sign ++ digits))
    (hrest : Ends rest) : lexExponent (exponent ++ rest) = (exponent, rest) := by
  rcases h with rfl | ⟨e, sign, digits, he, hsign, hdigits, rfl⟩
  · rw [List.nil_append]
    cases rest with
    | nil => rfl
    | cons c rest =>
      have hlower : c ≠ 'e' := fun heq =>
        hrest.head_ne (d := 'e') (by decide) (by decide) (by rw [heq]; rfl)
      have hupper : c ≠ 'E' := fun heq =>
        hrest.head_ne (d := 'E') (by decide) (by decide) (by rw [heq]; rfl)
      rw [lexExponent]
      simp [hlower, hupper]
  · obtain ⟨c, ds, hcons, hc, -⟩ := digits_head hdigits
    obtain ⟨htake, hdrop⟩ := takeWhile_digits hdigits.2 hrest.not_digit
    have hplusMinus : lexPlusMinus (sign ++ (digits ++ rest)) = (sign, digits ++ rest) :=
      lexPlusMinus_append_rest hsign (by simp [hcons, hc])
    have hmark : (decide (e = 'e') || decide (e = 'E')) = true := by simpa using he
    rw [List.cons_append, List.append_assoc, lexExponent, hplusMinus]
    simp only [htake, hdrop, hmark, hdigits.1, ne_eq, not_false_eq_true, decide_true, Bool.and_self,
      if_true]

theorem lexNumber_append_rest {sign whole fraction exponent rest : List Char}
    (h : IsNumber sign whole fraction exponent) (hrest : Ends rest) :
    lexNumber (sign ++ (whole ++ (fraction ++ exponent)) ++ rest) =
      some (sign ++ (whole ++ (fraction ++ exponent)), rest) := by
  have hexponent := lexExponent_append_rest h.exponent hrest
  have hafterFraction : (∀ c ∈ (exponent ++ rest).head?, c.isDigit = false) ∧
      (exponent ++ rest).head? ≠ some '.' := by
    rcases h.exponent with rfl | ⟨e, esign, digits, he, -, -, rfl⟩
    · exact ⟨hrest.not_digit, hrest.head_ne (by decide) (by decide)⟩
    · rcases he with rfl | rfl <;> simp
  have hfraction := lexFraction_append_rest h.fraction hafterFraction.1 hafterFraction.2
  have hafterWhole : ∀ c ∈ (fraction ++ (exponent ++ rest)).head?, c.isDigit = false := by
    rcases h.fraction with rfl | ⟨digits, -, rfl⟩
    · exact hafterFraction.1
    · simp
  have hwhole := lexWhole_append_rest h.whole hafterWhole
  have hsign : lexSign (sign ++ (whole ++ (fraction ++ (exponent ++ rest)))) =
      (sign, whole ++ (fraction ++ (exponent ++ rest))) := by
    rcases h.sign with rfl | rfl
    · have hhead : ∃ c s, whole = c :: s ∧ c ≠ '-' := by
        rcases h.whole with rfl | ⟨hdigits, -⟩
        · exact ⟨'0', [], rfl, by decide⟩
        · obtain ⟨c, s, rfl, hc, -⟩ := digits_head hdigits
          refine ⟨c, s, rfl, ?_⟩
          rintro rfl
          exact absurd hc (by decide)
      obtain ⟨c, s, rfl, hc⟩ := hhead
      exact lexSign.eq_2 _ (by simp [hc])
    · rfl
  simp only [List.append_assoc]
  rw [lexNumber]
  simp only [hsign, hwhole, hfraction, hexponent, Option.map_some]

/-- A digit is no blank, no quote and no punctuation. -/
theorem digit_plain {c : Char} (h : c.isDigit = true) :
    c ∉ punctuation ∧ isSpace c = false ∧ c ≠ '"' := by
  have hall : ∀ n < 58, 48 ≤ n → Char.ofNat n ∉ punctuation ∧ isSpace (Char.ofNat n) = false ∧
      Char.ofNat n ≠ '"' := by decide
  obtain ⟨hmin, hmax⟩ := isDigit_toNat h
  have hself : Char.ofNat c.toNat = c := Char.ofNat_toNat c
  rw [← hself]
  exact hall c.toNat (by omega) hmin

theorem number_head {sign whole fraction exponent : Text}
    (h : IsNumber sign whole fraction exponent) :
    ∃ c s, sign ++ (whole ++ (fraction ++ exponent)) = c :: s ∧ c ∉ punctuation ∧ isSpace c =
      false ∧
      c ≠ '"' := by
  rcases h.sign with rfl | rfl
  · rcases h.whole with rfl | ⟨hdigits, -⟩
    · exact ⟨'0', _, rfl, by decide, by decide, by decide⟩
    · obtain ⟨c, s, rfl, hc, -⟩ := digits_head hdigits
      exact ⟨c, _, rfl, digit_plain hc⟩
  · exact ⟨'-', _, rfl, by decide, by decide, by decide⟩

theorem isAtom_head {t : Text} (h : IsAtom t) :
    ∃ c s, t = c :: s ∧ c ∉ punctuation ∧ isSpace c = false := by
  cases h with
  | string h =>
    obtain ⟨pieces, -, rfl⟩ := h
    exact ⟨'"', _, rfl, by decide, by decide⟩
  | number h =>
    obtain ⟨c, s, hcons, hpunctuation, hspace, -⟩ := number_head h
    exact ⟨c, s, hcons, hpunctuation, hspace⟩
  | literal h =>
    simp only [literals, List.mem_cons, List.not_mem_nil, or_false] at h
    rcases h with rfl | rfl | rfl
    · exact ⟨'t', _, rfl, by decide, by decide⟩
    · exact ⟨'f', _, rfl, by decide, by decide⟩
    · exact ⟨'n', _, rfl, by decide, by decide⟩

theorem lexToken_string {t : Text} (h : IsString t) (rest : List Char) :
    lexToken (t ++ rest) = some (t, rest) := by
  obtain ⟨pieces, hpieces, rfl⟩ := h
  have hread := lexString_pieces hpieces rest
  rw [List.cons_append, List.append_assoc, List.singleton_append, lexToken, if_pos rfl, hread]
  rfl

theorem lexToken_atom {t rest : List Char} (h : IsAtom t) (hrest : Ends rest) :
    lexToken (t ++ rest) = some (t, rest) := by
  cases h with
  | string h => exact lexToken_string h rest
  | number h =>
    have hnumber := lexNumber_append_rest h hrest
    obtain ⟨c, s, hcons, hpunctuation, -, hquote⟩ := number_head h
    rw [hcons, List.cons_append] at hnumber ⊢
    rw [lexToken, if_neg hquote, if_neg hpunctuation, hnumber]
    rfl
  | literal h =>
    simp only [literals, List.mem_cons, List.not_mem_nil, or_false] at h
    rcases h with rfl | rfl | rfl <;> rfl

/-! ## The tokens of a text -/

/-- The pattern reads these tokens and stops before `rest`. -/
inductive Lexes : List Char → List Token → List Char → Prop
  | nil {s : List Char} : Lexes s [] s
  | cons {s s' rest : List Char} {t : Token} {ts : List Token} (h : nextToken s = some (t, s'))
    (hs : Lexes s' ts rest) : Lexes s (t :: ts) rest

theorem Lexes.append {s s' rest : List Char} {ts us : List Token} (h : Lexes s ts s')
    (h' : Lexes s' us rest) : Lexes s (ts ++ us) rest := by
  induction h with
  | nil => exact h'
  | cons hnext _ ih => exact .cons hnext (ih h')

theorem isBlank_isSpace {c : Char} (h : isBlank c = true) : isSpace c = true := by
  simp only [isBlank, List.mem_cons, List.not_mem_nil, or_false, decide_eq_true_eq] at h
  rcases h with rfl | rfl | rfl | rfl <;> decide

theorem nextToken_blank {w : Text} (hw : Blank w) (s : List Char) : nextToken (w ++ s) =
    nextToken s := by
  rw [nextToken, nextToken, List.dropWhile_append_of_pos fun c hc => isBlank_isSpace (hw c hc)]

theorem Lexes.blank {w : Text} (hw : Blank w) {s rest : List Char} {t : Token} {ts : List Token}
    (h : Lexes s (t :: ts) rest) : Lexes (w ++ s) (t :: ts) rest := by
  cases h with
  | cons hnext hs => exact .cons ((nextToken_blank hw s).trans hnext) hs

theorem nextToken_head {c : Char} (h : isSpace c = false) (s : List Char) :
    nextToken (c :: s) = lexToken (c :: s) := by
  rw [nextToken, List.dropWhile_cons_of_neg (by simp [h])]

theorem nextToken_punctuation {c : Char} (h : c ∈ punctuation) (s : List Char) :
    nextToken (c :: s) = some ([c], s) := by
  have hspace : isSpace c = false ∧ c ≠ '"' := by
    simp only [punctuation, List.mem_cons, List.not_mem_nil, or_false] at h
    rcases h with rfl | rfl | rfl | rfl | rfl | rfl <;> decide
  rw [nextToken_head hspace.1, lexToken, if_neg hspace.2, if_pos h]

theorem nextToken_atom {t rest : List Char} (h : IsAtom t) (hrest : Ends rest) :
    nextToken (t ++ rest) = some (t, rest) := by
  obtain ⟨c, s, hcons, -, hspace⟩ := isAtom_head h
  have hlex := lexToken_atom h hrest
  rw [hcons, List.cons_append] at hlex ⊢
  rw [nextToken_head hspace, hlex]

theorem nextToken_string {t : Text} (h : IsString t) (rest : List Char) :
    nextToken (t ++ rest) = some (t, rest) := by
  have hlex := lexToken_string h rest
  obtain ⟨pieces, -, rfl⟩ := h
  rw [List.cons_append] at hlex ⊢
  rw [nextToken_head (by decide), hlex]

theorem Ends.blank {w rest : Text} (hw : Blank w) (h : Ends rest) : Ends (w ++ rest) := by
  intro c hc
  cases w with
  | nil => exact h c hc
  | cons d w =>
    have hdc : d = c := by simpa using hc
    exact .inl (hdc ▸ hw d List.mem_cons_self)

theorem ends_close {c : Char} (h : c ∈ [',', ']', '\x7d']) (rest : List Char) :
    Ends (c :: rest) := by
  intro d hd
  have hcd : c = d := by simpa using hd
  exact .inr (hcd ▸ h)

theorem tokens_ne_nil (d : Doc) : ∃ t ts, d.tokens = t :: ts := by
  cases d with
  | atom t => exact ⟨t, [], rfl⟩
  | array items => exact ⟨_, _, rfl⟩
  | object members => exact ⟨_, _, rfl⟩

/-- What the pattern does on the text of a value, whatever follows it. -/
def Tokenized (t : Text) (d : Doc) : Prop := ∀ rest, Ends rest → Lexes (t ++ rest) d.tokens rest

theorem element_lexes {e : Element} (hblanks : e.Blanks) (h : Tokenized e.text e.doc)
    {rest : List Char} (hrest : Ends rest) : Lexes (e.chars ++ rest) e.doc.tokens
      (e.after ++ rest) := by
  obtain ⟨t, ts, htokens⟩ := tokens_ne_nil e.doc
  have hvalue := h (e.after ++ rest) (hrest.blank hblanks.2)
  rw [htokens] at hvalue ⊢
  have hlex := hvalue.blank hblanks.1
  rw [Element.chars, List.append_assoc, List.append_assoc]
  exact hlex

/-- The punctuation after an element. -/
theorem close_lexes {w : Text} (hw : Blank w) {c : Char} (h : c ∈ punctuation) {s rest : List Char}
    {ts : List Token} (hs : Lexes s ts rest) : Lexes (w ++ c :: s) ([c] :: ts) rest :=
  .cons ((nextToken_blank hw _).trans (nextToken_punctuation h s)) hs

theorem commas_cons (t u : Text) (ts : List Text) :
    commas (t :: u :: ts) = t ++ ',' :: commas (u :: ts) := by
  simp [commas]

theorem items_lexes {es : List Element} (hne : es ≠ []) (hblanks : ∀ e ∈ es, e.Blanks)
    (h : ∀ e ∈ es, Tokenized e.text e.doc) (rest : List Char) :
    Lexes (commas (es.map Element.chars) ++ ']' :: rest)
      (itemsTokens (es.map Element.doc) ++ [[']']]) rest := by
  induction es with
  | nil => exact absurd rfl hne
  | cons e es ih =>
    obtain ⟨hblank, hblanks⟩ := List.forall_mem_cons.mp hblanks
    obtain ⟨htokenized, h⟩ := List.forall_mem_cons.mp h
    cases es with
    | nil =>
      have hfirst := element_lexes hblank htokenized (ends_close (c := ']') (by decide) rest)
      have hcommas : commas ([e].map Element.chars) = e.chars := by simp [commas]
      rw [hcommas]
      exact hfirst.append (close_lexes hblank.2 (by decide) .nil)
    | cons e' es =>
      have hrest := ih (List.cons_ne_nil _ _) hblanks h
      have hfirst := element_lexes hblank htokenized (ends_close (c := ',') (by decide)
        (commas ((e' :: es).map Element.chars) ++ ']' :: rest))
      have hall := hfirst.append (close_lexes hblank.2 (by decide) hrest)
      rw [List.map_cons, List.map_cons, commas_cons, ← List.map_cons, List.append_assoc,
        List.cons_append]
      simpa only [List.map_cons, itemsTokens, List.append_assoc, List.cons_append] using hall

theorem member_lexes {m : Member} (hblanks : m.Blanks) (hkey : IsString m.key)
    (h : Tokenized m.value.text m.value.doc) {rest : List Char} (hrest : Ends rest) :
    Lexes (m.chars ++ rest) (m.key :: [':'] :: m.value.doc.tokens) (m.value.after ++ rest) := by
  obtain ⟨hbefore, hafter, hvalueBlanks⟩ := hblanks
  have hvalue := close_lexes hafter (c := ':') (by decide) (element_lexes hvalueBlanks h hrest)
  have hread := (nextToken_blank hbefore _).trans
    (nextToken_string hkey (m.after ++ ':' :: (m.value.chars ++ rest)))
  have hall := Lexes.cons hread hvalue
  simpa only [Member.chars, List.append_assoc, List.cons_append] using hall

theorem members_lexes {ms : List Member} (hne : ms ≠ []) (hblanks : ∀ m ∈ ms, m.Blanks)
    (hkeys : ∀ m ∈ ms, IsString m.key) (h : ∀ m ∈ ms, Tokenized m.value.text m.value.doc)
    (rest : List Char) :
    Lexes (commas (ms.map Member.chars) ++ '\x7d' :: rest)
      (membersTokens (ms.map fun m => (m.key, m.value.doc)) ++ [['\x7d']]) rest := by
  induction ms with
  | nil => exact absurd rfl hne
  | cons m ms ih =>
    obtain ⟨hblank, hblanks⟩ := List.forall_mem_cons.mp hblanks
    obtain ⟨hkey, hkeys⟩ := List.forall_mem_cons.mp hkeys
    obtain ⟨htokenized, h⟩ := List.forall_mem_cons.mp h
    have hafter := hblank.2.2.2
    cases ms with
    | nil =>
      have hfirst := member_lexes hblank hkey htokenized (ends_close (c := '\x7d') (by decide) rest)
      have hcommas : commas ([m].map Member.chars) = m.chars := by simp [commas]
      rw [hcommas]
      exact hfirst.append (close_lexes hafter (by decide) .nil)
    | cons m' ms =>
      have hrest := ih (List.cons_ne_nil _ _) hblanks hkeys h
      have hfirst := member_lexes hblank hkey htokenized (ends_close (c := ',') (by decide)
        (commas ((m' :: ms).map Member.chars) ++ '\x7d' :: rest))
      have hall := hfirst.append (close_lexes hafter (by decide) hrest)
      rw [List.map_cons, List.map_cons, commas_cons, ← List.map_cons, List.append_assoc,
        List.cons_append]
      simpa only [List.map_cons, membersTokens, List.append_assoc, List.cons_append] using hall

theorem value_lexes {t : Text} {d : Doc} (h : IsValue t d) : Tokenized t d := by
  induction h with
  | atom h =>
    intro rest hrest
    exact .cons (nextToken_atom h hrest) .nil
  | emptyArray hw =>
    intro rest _
    rw [List.cons_append, List.append_assoc]
    exact .cons (nextToken_punctuation (by decide) _) (close_lexes hw (by decide) .nil)
  | array hne hblanks _ ih =>
    intro rest _
    rw [List.cons_append, List.append_assoc]
    exact .cons (nextToken_punctuation (by decide) _) (items_lexes hne hblanks ih rest)
  | emptyObject hw =>
    intro rest _
    rw [List.cons_append, List.append_assoc]
    exact .cons (nextToken_punctuation (by decide) _) (close_lexes hw (by decide) .nil)
  | object hne hblanks hkeys _ ih =>
    intro rest _
    rw [List.cons_append, List.append_assoc]
    exact .cons (nextToken_punctuation (by decide) _) (members_lexes hne hblanks hkeys ih rest)

theorem text_lexes {t : Text} {d : Doc} (h : IsText t d) :
    ∃ after, Blank after ∧ Lexes t d.tokens after := by
  obtain ⟨before, text, after, hbefore, hvalue, hafter, rfl⟩ := h
  obtain ⟨u, us, htokens⟩ := tokens_ne_nil d
  have hends : Ends after := by
    have hnil : Ends [] := fun c hc => by cases hc
    simpa using hnil.blank hafter
  have hlex := value_lexes hvalue after hends
  rw [htokens] at hlex ⊢
  exact ⟨after, hafter, hlex.blank hbefore⟩

/-- The loop over the text gives its tokens, within the budget. -/
theorem tokenize_eq_ok {s after : List Char} {ts ts' : List Token} (h : Lexes s ts after)
    (hafter : Blank after) (count : Nat) :
    tokenize count s = .ok ts' ↔ ts' = ts ∧ (ts ≠ [] → count + ts.length ≤ 100000) := by
  induction h generalizing count ts' with
  | @nil s =>
    have hall : s.all isSpace = true := List.all_eq_true.mpr fun c hc =>
      isBlank_isSpace (hafter c hc)
    rw [tokenize, if_pos hall, Except.ok.injEq, eq_comm]
    simp
  | @cons s s' rest t ts hnext hs ih =>
    have hall : s.all isSpace ≠ true := by
      intro hall
      rw [nextToken, List.dropWhile_eq_nil_iff.mpr (List.all_eq_true.mp hall)] at hnext
      cases hnext
    rw [tokenize, if_neg hall]
    split
    · rename_i hnone
      rw [hnext] at hnone
      cases hnone
    · rename_i token rest' hsome
      rw [hnext, Option.some.injEq, Prod.mk.injEq] at hsome
      obtain ⟨rfl, rfl⟩ := hsome
      simp only [bind_eq_ok, exists_unit, need_eq_ok, decide_eq_true_eq, pure_eq_ok, ih hafter]
      rw [List.length_cons]
      constructor
      · rintro ⟨hbudget, us, ⟨rfl, hrest⟩, rfl⟩
        refine ⟨rfl, fun _ => ?_⟩
        by_cases hempty : us = []
        · rw [hempty, List.length_nil]
          omega
        · have hle := hrest hempty
          omega
      · rintro ⟨rfl, hle⟩
        have hbudget := hle (List.cons_ne_nil _ _)
        exact ⟨by omega, ts, ⟨rfl, fun _ => by omega⟩, rfl⟩

end SharedLvmThin.StrictJson
