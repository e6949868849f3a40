import SharedLvmThin.DestroyJournalBudget

/-! What is not ASCII is escaped in the texts that are compared and hashed. The escapes lose
  nothing:
a text of bare characters and escapes is read back one block at a time. -/

namespace SharedLvmThin.DestroyJournal
open Perl

/-- What canonical JSON is made of: a bare character or an escape. -/
inductive Block : List Char → Prop
  | char {c : Char} (h : c ≠ '\\') : Block [c]
  | escape {c : Char} (h : c ≠ 'u') (hascii : c.toNat < 128) : Block ['\\', c]
  | control {n : Nat} (h : n < 32) : Block (['\\', 'u', '0', '0'] ++ Value.hexDigits n)

def hexNumber (a b c d : Char) : Nat :=
  4096 * Value.hexValue a + 256 * Value.hexValue b + 16 * Value.hexValue c + Value.hexValue d

/-- The first block of an ASCII text, and the rest. -/
def readBlock : List Char → Option (List Char × List Char)
  | '\\' :: 'u' :: a :: b :: c :: d :: rest =>
    let unit := hexNumber a b c d
    if unit < 128 then some (['\\', 'u', a, b, c, d], rest)
    else if 0xd800 ≤ unit ∧ unit < 0xdc00 then
      match rest with
      | '\\' :: 'u' :: a' :: b' :: c' :: d' :: rest =>
        some ([Char.ofNat (65536 + ((unit - 0xd800) * 1024 + (hexNumber a' b' c' d' - 0xdc00)))],
          rest)
      | _ => none
    else some ([Char.ofNat unit], rest)
  | '\\' :: c :: rest => some (['\\', c], rest)
  | c :: rest => some ([c], rest)
  | [] => none

theorem hexValue_digitChar : ∀ n < 16, Value.hexValue (Nat.digitChar n) = n := by decide

theorem hexNumber_unicodeEscape {n : Nat} (hn : n < 65536) :
    hexNumber (Nat.digitChar (n / 4096 % 16)) (Nat.digitChar (n / 256 % 16))
      (Nat.digitChar (n / 16 % 16)) (Nat.digitChar (n % 16)) = n := by
  simp only [hexNumber, hexValue_digitChar _ (Nat.mod_lt _ (show 0 < 16 by decide))]
  omega

theorem readBlock_unit {n : Nat} (rest : List Char) (hn : n < 65536) (hsmall : 128 ≤ n)
    (hsurrogate : ¬ (0xd800 ≤ n ∧ n < 0xdc00)) :
    readBlock (unicodeEscape n ++ rest) = some ([Char.ofNat n], rest) := by
  simp only [unicodeEscape, List.cons_append, List.nil_append, readBlock,
    hexNumber_unicodeEscape hn]
  rw [if_neg (by omega), if_neg hsurrogate]

theorem readBlock_pair {high low : Nat} (rest : List Char) (hhigh : 0xd800 ≤ high ∧ high < 0xdc00)
    (hlow : low < 65536) : readBlock (unicodeEscape high ++ unicodeEscape low ++ rest) =
      some ([Char.ofNat (65536 + ((high - 0xd800) * 1024 + (low - 0xdc00)))], rest) := by
  have hhighNumber := hexNumber_unicodeEscape (show high < 65536 by omega)
  have hlowNumber := hexNumber_unicodeEscape hlow
  simp only [unicodeEscape, List.cons_append, List.nil_append, readBlock, hhighNumber, hlowNumber]
  rw [if_neg (by omega), if_pos hhigh]

theorem readBlock_char {c : Char} (rest : List Char) (h : c ≠ '\\') :
    readBlock (asciiChar c ++ rest) = some ([c], rest) := by
  have hvalid := c.valid
  have hnat : c.toNat < 0xd800 ∨ 0xdfff < c.toNat ∧ c.toNat < 0x110000 := hvalid
  unfold asciiChar
  split_ifs with hascii hbmp
  · rw [List.cons_append, List.nil_append, readBlock.eq_def]
    split
    · simp_all
    · simp_all
    · simp_all
    · simp_all
  · rw [readBlock_unit rest hbmp (by omega) (by omega), Char.ofNat_toNat]
  · have hvalue : 65536 + ((0xd800 + (c.toNat - 65536) / 1024 - 0xd800) * 1024 +
        (0xdc00 + (c.toNat - 65536) % 1024 - 0xdc00)) = c.toNat := by omega
    rw [readBlock_pair rest (by omega) (by omega), hvalue, Char.ofNat_toNat]

theorem hexNumber_control {n : Nat} (h : n < 32) :
    hexNumber '0' '0' (Nat.digitChar (n / 16 % 16)) (Nat.digitChar (n % 16)) < 128 := by
  rw [hexNumber, hexValue_digitChar _ (Nat.mod_lt _ (by decide)),
    hexValue_digitChar _ (Nat.mod_lt _ (by decide)), show Value.hexValue '0' = 0 by decide]
  omega

theorem flatMap_ascii {l : List Char} (h : ∀ c ∈ l, c.toNat < 128) : l.flatMap asciiChar = l := by
  induction l with
  | nil => rfl
  | cons c l ih =>
    obtain ⟨hc, hl⟩ := List.forall_mem_cons.mp h
    rw [List.flatMap_cons, ih hl, asciiChar, if_pos hc, List.singleton_append]

theorem hexDigits_ascii {n : Nat} (h : n < 32) : ∀ c ∈ Value.hexDigits n, c.toNat < 128 := by
  have hall : ∀ n < 32, (Value.hexDigits n).all (fun c => c.toNat < 128) = true := by decide
  exact toNat_lt_of_all (hall n h)

theorem readBlock_block {b : List Char} (rest : List Char) (h : Block b) :
    readBlock (b.flatMap asciiChar ++ rest) = some (b, rest) := by
  cases h with
  | @char c hc =>
    rw [List.flatMap_singleton]
    exact readBlock_char rest hc
  | @escape c hc hascii =>
    have hall : ∀ d ∈ ['\\', c], d.toNat < 128 := by simp [hascii]
    rw [flatMap_ascii hall, List.cons_append, List.singleton_append, readBlock]
    exact fun _ _ _ _ _ hu _ => hc hu
  | @control n hn =>
    rw [flatMap_ascii]
    · simp only [Value.hexDigits, List.cons_append, List.nil_append, readBlock]
      rw [if_pos (hexNumber_control hn)]
    · intro c hc
      rcases List.mem_append.mp hc with hc | hc
      · simp only [List.mem_cons, List.not_mem_nil, or_false] at hc
        rcases hc with rfl | rfl | rfl | rfl <;> decide
      · exact hexDigits_ascii hn c hc

/-- A text of blocks. -/
def Escaped (l : List Char) : Prop := ∃ blocks : List (List Char), (∀ b ∈ blocks, Block b) ∧
    blocks.flatten = l

theorem Escaped.append {l l' : List Char} (h : Escaped l) (h' : Escaped l') :
    Escaped (l ++ l') := by
  obtain ⟨blocks, hblocks, rfl⟩ := h
  obtain ⟨blocks', hblocks', rfl⟩ := h'
  exact ⟨blocks ++ blocks', List.forall_mem_append.mpr ⟨hblocks, hblocks'⟩, List.flatten_append⟩

theorem Escaped.plain {l : List Char} (h : ∀ c ∈ l, c ≠ '\\') : Escaped l := by
  refine ⟨l.map fun c => [c], ?_, ?_⟩
  · intro b hb
    obtain ⟨c, hc, rfl⟩ := List.mem_map.mp hb
    exact .char (h c hc)
  · rw [← List.flatMap_def, List.flatMap_singleton']

theorem Escaped.literal {l : List Char} (h : l.all (fun c => c ≠ '\\') = true) : Escaped l := by
  refine .plain fun c hc => ?_
  exact of_decide_eq_true (List.all_eq_true.mp h c hc)

theorem Escaped.block {b : List Char} (h : Block b) : Escaped b :=
  ⟨[b], List.forall_mem_singleton.mpr h, by simp⟩

theorem Escaped.flatMap {α : Type} {l : List α} {print : α → List Char} (h : ∀ a ∈ l,
    Escaped (print a)) :
    Escaped (l.flatMap print) := by
  induction l with
  | nil => exact .plain (by simp)
  | cons a l ih =>
    obtain ⟨ha, hl⟩ := List.forall_mem_cons.mp h
    rw [List.flatMap_cons]
    exact ha.append (ih hl)

theorem blocks_inj {blocks blocks' : List (List Char)} (h : ∀ b ∈ blocks, Block b)
    (h' : ∀ b ∈ blocks', Block b)
    (heq : blocks.flatten.flatMap asciiChar = blocks'.flatten.flatMap asciiChar) : blocks =
        blocks' := by
  have hnil : ∀ {b : List Char} {bs : List (List Char)}, Block b →
      [] ≠ (b :: bs).flatten.flatMap asciiChar := by
    intro b bs hb hempty
    rw [List.flatten_cons, List.flatMap_append] at hempty
    have hread := readBlock_block (bs.flatten.flatMap asciiChar) hb
    rw [← hempty] at hread
    cases hread
  induction blocks generalizing blocks' with
  | nil =>
    cases blocks' with
    | nil => rfl
    | cons b bs => exact absurd heq (hnil (h' b List.mem_cons_self))
  | cons b bs ih =>
    cases blocks' with
    | nil => exact absurd heq.symm (hnil (h b List.mem_cons_self))
    | cons b' bs' =>
      obtain ⟨hb, hbs⟩ := List.forall_mem_cons.mp h
      obtain ⟨hb', hbs'⟩ := List.forall_mem_cons.mp h'
      rw [List.flatten_cons, List.flatten_cons, List.flatMap_append, List.flatMap_append] at heq
      have hread := congrArg readBlock heq
      rw [readBlock_block _ hb, readBlock_block _ hb'] at hread
      simp only [Option.some.injEq, Prod.mk.injEq] at hread
      obtain ⟨rfl, hrest⟩ := hread
      rw [ih hbs hbs' hrest]

theorem escaped_ascii_inj {l l' : List Char} (h : Escaped l) (h' : Escaped l')
    (heq : l.flatMap asciiChar = l'.flatMap asciiChar) : l = l' := by
  obtain ⟨blocks, hblocks, rfl⟩ := h
  obtain ⟨blocks', hblocks', rfl⟩ := h'
  rw [blocks_inj hblocks hblocks' heq]

theorem escapeChar_block (c : Char) : Block (Value.escapeChar c) := by
  unfold Value.escapeChar
  split_ifs with hquote hback hn hr ht hf hb hcontrol
  · exact .escape (by decide) (by decide)
  · exact .escape (by decide) (by decide)
  · exact .escape (by decide) (by decide)
  · exact .escape (by decide) (by decide)
  · exact .escape (by decide) (by decide)
  · exact .escape (by decide) (by decide)
  · exact .escape (by decide) (by decide)
  · exact .control hcontrol
  · exact .char hback

theorem quote_escaped (s : String) : Escaped (Value.quote s).toList := by
  have hbody := @Escaped.flatMap _ s.toList Value.escapeChar fun c _ => .block (escapeChar_block c)
  simp only [Value.quote, String.toList_append, String.toList_ofList]
  exact ((Escaped.literal (by decide)).append hbody).append (.literal (by decide))

theorem intercalate_escaped {α : Type} {l : List α} {print : α → List Char}
    (h : ∀ a ∈ l, Escaped (print a)) : Escaped ([','].intercalate (l.map print)) := by
  cases l with
  | nil => exact .plain (by simp)
  | cons a l =>
    obtain ⟨ha, hl⟩ := List.forall_mem_cons.mp h
    rw [Value.intercalate_cons]
    refine ha.append (.flatMap fun b hb => ?_)
    exact (Escaped.literal (l := [',']) (by decide)).append (hl b hb)

theorem chars_escaped {v : Value} (h : v.Plain) : Escaped v.chars := by
  induction h with
  | undef =>
    rw [Value.chars_undef]
    exact .literal (by decide)
  | bool b =>
    rw [Value.chars_bool]
    cases b with
    | false => exact .literal (by decide)
    | true => exact .literal (by decide)
  | str s =>
    rw [Value.chars_str]
    exact quote_escaped s
  | @num s hs =>
    rw [Value.chars_num]
    refine .plain fun c hc hback => ?_
    have hnumeral := (plus_iff.mp hs).2 c hc
    rw [hback] at hnumeral
    exact absurd hnumeral (by decide)
  | @array items hitems ih =>
    rw [Value.chars_array hitems]
    exact (Escaped.literal (l := ['[']) (by decide)).append
      ((intercalate_escaped ih).append (.literal (by decide)))
  | @hash fields hsorted hfields ih =>
    rw [Value.chars_hash hsorted hfields]
    refine (Escaped.literal (l := ['\x7b']) (by decide)).append
      ((intercalate_escaped fun field hf => ?_).append (.literal (by decide)))
    exact (quote_escaped field.1).append ((Escaped.literal (l := [':']) (by decide)).append
      (ih field hf))

/-- `JSON::PP->canonical->ascii` loses nothing either. -/
theorem perlJson_inj {v w : Value} (hv : v.Plain) (hw : w.Plain) (h : perlJson v = perlJson w) : v =
    w := by
  obtain ⟨text, htext⟩ := hv.canonical_ok
  obtain ⟨text', htext'⟩ := hw.canonical_ok
  rw [perlJson_isOk htext, perlJson_isOk htext', Except.ok.injEq, mapText, mapText] at h
  have hchars := congrArg String.toList h
  rw [String.toList_ofList, String.toList_ofList, ← Value.chars_of_canonical htext,
    ← Value.chars_of_canonical htext'] at hchars
  have hsame := escaped_ascii_inj (chars_escaped hv) (chars_escaped hw) hchars
  rw [Value.chars_of_canonical htext, Value.chars_of_canonical htext', String.toList_inj] at hsame
  exact Value.canonical_inj hv hw (by rw [htext, htext', hsame])

end SharedLvmThin.DestroyJournal
