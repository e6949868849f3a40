import SharedLvmThin.Sha256

/-!
# Signed key=value tags

A record is a partial map from field names to text. It is written as one tag
`lead` `name` `=` `value` per field, followed by a digest tag over the joined
`name=value` parts. The collector reads tags in any order among foreign ones. It
trims each tag, skips those of other families and refuses malformed, repeated and
unknown fields.
-/

namespace TagCodec
open Perl

abbrev Hash (F : Type) := F → Option String

/-- Field names and the value alphabet, with what makes a tag readable again. -/
structure Alphabet (F : Type) where
  name : F → String
  isValue : Char → Bool
  name_injective : Function.Injective name
  name_word : ∀ f, plus isWord (name f) = true
  value_latin1 : ∀ c, isValue c = true → c.toNat < 256
  value_space : ∀ c, isValue c = true → isSpace c = false
  value_bar : isValue '|' = false
  value_comma : isValue ',' = false

structure Family (F : Type) extends Alphabet F where
  lead : String
  known : List F
  noun : String
  lead_word : plus isWord lead = true

section
variable {F : Type}

def text (h : Hash F) (f : F) : String := (h f).getD ""

def Family.tag (S : Family F) (f : F) (v : String) : String := S.lead ++ S.name f ++ "=" ++ v

/-- `join('|', map { "$_=$values{$_}" } @fields)`. -/
def Alphabet.canonical (A : Alphabet F) (fields : List F) (h : Hash F) : String :=
  String.intercalate "|" (fields.map fun f => A.name f ++ "=" ++ text h f)

/-- `substr(sha256_hex($canonical), 0, 32)`. -/
def Alphabet.digest (A : Alphabet F) (fields : List F) (h : Hash F) : Except String String := do
  let hex ← Sha256.sha256Hex (A.canonical fields h)
  return String.ofList (hex.toList.take 32)

/-- Field tags in order, then the digest tag. -/
def Family.signedTags (S : Family F) (signature : F) (fields : List F) (h : Hash F) :
    Except String (List String) := do
  let digest ← S.digest fields h
  return fields.map (fun f => S.tag f (text h f)) ++ [S.tag signature digest]

def Family.leads (S : Family F) (t : String) : Bool := S.lead.toList.isPrefixOf t.toList

/-- `/^lead([A-Za-z0-9_]+)=([value]+)$/` with its two captures. -/
def Family.parse (S : Family F) (t : String) : Option (String × String) :=
  if S.leads t then
    let rest := t.toList.drop S.lead.toList.length
    let key := String.ofList (rest.takeWhile (· != '='))
    match rest.dropWhile (· != '=') with
    | [] => none
    | _ :: v =>
      let v := body (String.ofList v)
      if plus isWord key && plus S.isValue v then some (key, v) else none
  else none

def Family.field? (S : Family F) (key : String) : Option F := S.known.find? fun f => S.name f = key

variable [DecidableEq F]

-- A repeated field is tested before an unknown one; an unknown field is never stored.
def Family.collectTag (S : Family F) (h : Hash F) (t : String) : Except String (Hash F) :=
  let t := trim t
  if S.leads t then
    match S.parse t with
    | none => .error ("malformed " ++ S.noun ++ " tag")
    | some (key, v) =>
      match S.field? key with
      | none => .error ("unknown " ++ S.noun ++ " field '" ++ key ++ "'")
      | some f =>
        if (h f).isSome then .error ("duplicate " ++ S.noun ++ " field '" ++ key ++ "'")
        else .ok (Function.update h f (some v))
  else .ok h

def Family.collectFrom (S : Family F) : Hash F → List String → Except String (Hash F)
  | h, [] => .ok h
  | h, t :: ts => do
    let h ← S.collectTag h t
    S.collectFrom h ts

def Family.collect (S : Family F) (tags : List String) : Except String (Hash F) :=
  S.collectFrom (fun _ => none) tags

end

/-- The tags of a list that belong to the family, as the collector sees them. -/
def Family.own {F : Type} (S : Family F) (tags : List String) : List String :=
  (tags.map trim).filter S.leads

/-! ## Characters of a tag -/

section
variable {F : Type} (S : Family F)

theorem word_not_eq {c : Char} (h : isWord c = true) : c ≠ '=' := by
  rintro rfl
  exact absurd h (by decide)

theorem word_not_bar {c : Char} (h : isWord c = true) : c ≠ '|' := by
  rintro rfl
  exact absurd h (by decide)

theorem word_ascii {c : Char} (h : isWord c = true) : c.toNat < 128 := by
  have hbound {last : Char} (hlast : last.toNat < 128) (hle : c.val ≤ last.val) : c.toNat < 128 :=
    lt_of_le_of_lt (UInt32.le_iff_toNat_le.mp hle) hlast
  simp only [isWord, Char.isAlphanum, Bool.or_eq_true, beq_iff_eq] at h
  rcases h with (h | h) | rfl
  · have h : c.isUpper = true ∨ c.isLower = true := (Bool.or_eq_true _ _).mp h
    rcases h with h | h
    · have h : 'A'.val ≤ c.val ∧ c.val ≤ 'Z'.val := of_decide_eq_true h
      exact hbound (by decide) h.2
    · have h : _ ∧ decide (c.val ≤ 'z'.val) = true := (Bool.and_eq_true _ _).mp h
      exact hbound (by decide) (of_decide_eq_true h.2)
  · exact (isDigit_toNat h).2.trans_lt (by decide)
  · decide

theorem word_not_space {c : Char} (h : isWord c = true) : isSpace c = false := by
  have hlt := word_ascii h
  rw [← Char.ofNat_toNat c] at h ⊢
  generalize c.toNat = n at h hlt
  interval_cases n <;> first | rfl | exact absurd h (by decide)

theorem value_plus_not_newline {v : String} (h : plus S.isValue v = true) : ¬ EndsInNewline v := by
  apply not_endsInNewline_of_all (p := S.isValue) _ (plus_iff.mp h).2
  by_contra hn
  exact absurd (S.value_space '\n' (by simpa using hn)) (by decide)

theorem tag_toList (f : F) (v : String) :
    (S.tag f v).toList = S.lead.toList ++ ((S.name f).toList ++ '=' :: v.toList) := by
  simp [Family.tag]

theorem tag_not_space {f : F} {v : String} (hv : plus S.isValue v = true) :
    ∀ c ∈ (S.tag f v).toList, isSpace c = false := by
  intro c hc
  rw [tag_toList] at hc
  simp only [List.mem_append, List.mem_cons] at hc
  rcases hc with hc | hc | rfl | hc
  · exact word_not_space ((plus_iff.mp S.lead_word).2 c hc)
  · exact word_not_space ((plus_iff.mp (S.name_word f)).2 c hc)
  · decide
  · exact S.value_space c ((plus_iff.mp hv).2 c hc)

theorem leads_tag (f : F) (v : String) : S.leads (S.tag f v) = true := by
  rw [Family.leads, List.isPrefixOf_iff_prefix, tag_toList]
  exact List.prefix_append _ _

theorem takeWhile_key {k v : List Char} (hk : ∀ c ∈ k, c ≠ '=') :
    (k ++ '=' :: v).takeWhile (· != '=') = k := by
  rw [List.takeWhile_append_of_pos (by simpa using hk)]
  simp

theorem dropWhile_key {k v : List Char} (hk : ∀ c ∈ k, c ≠ '=') :
    (k ++ '=' :: v).dropWhile (· != '=') = '=' :: v := by
  rw [List.dropWhile_append_of_pos (by simpa using hk)]
  simp

theorem name_no_eq (f : F) : ∀ c ∈ (S.name f).toList, c ≠ '=' :=
  fun c hc => word_not_eq ((plus_iff.mp (S.name_word f)).2 c hc)

/-- A `name=value` part determines its field and its value. -/
theorem part_injective {f g : F} {v w : String}
    (h : S.name f ++ "=" ++ v = S.name g ++ "=" ++ w) : f = g ∧ v = w := by
  have hl : (S.name f).toList ++ '=' :: v.toList = (S.name g).toList ++ '=' :: w.toList := by
    simpa using congrArg String.toList h
  have hkey := congrArg (List.takeWhile (· != '=')) hl
  have hval := congrArg (List.dropWhile (· != '=')) hl
  rw [takeWhile_key (name_no_eq S f), takeWhile_key (name_no_eq S g)] at hkey
  rw [dropWhile_key (name_no_eq S f), dropWhile_key (name_no_eq S g), List.cons.injEq] at hval
  exact ⟨S.name_injective (String.toList_inj.mp hkey), String.toList_inj.mp hval.2⟩

theorem tag_injective {f g : F} {v w : String} (h : S.tag f v = S.tag g w) : f = g ∧ v = w := by
  apply part_injective S
  have hl := congrArg String.toList h
  rw [tag_toList, tag_toList, List.append_cancel_left_eq] at hl
  rw [← String.toList_inj]
  simpa using hl

theorem parse_tag {f : F} {v : String} (hv : plus S.isValue v = true) :
    S.parse (S.tag f v) = some (S.name f, v) := by
  have hbody : body v = v := body_eq_self (value_plus_not_newline S hv)
  simp only [Family.parse, leads_tag, if_true, tag_toList, List.drop_left,
    takeWhile_key (name_no_eq S f), dropWhile_key (name_no_eq S f), String.ofList_toList, hbody,
    S.name_word f, hv, Bool.and_self]

/-- A parsed tag without a final line feed is exactly its lead, key and value. -/
theorem parse_sound {t key v : String} (h : S.parse t = some (key, v)) (ht : ¬ EndsInNewline t) :
    t = S.lead ++ key ++ "=" ++ v ∧ plus S.isValue v = true := by
  simp only [Family.parse] at h
  split_ifs at h with hlead
  obtain ⟨rest, hrest⟩ := List.isPrefixOf_iff_prefix.mp hlead
  rw [← hrest, List.drop_left] at h
  split at h
  · cases h
  · rename_i c w hdrop
    split_ifs at h with hok
    obtain ⟨rfl, rfl⟩ : String.ofList (rest.takeWhile (· != '=')) = key ∧
        body (String.ofList w) = v := by simpa using h
    have hc : c = '=' := by
      have := List.head?_dropWhile_not (· != '=') rest
      rw [hdrop] at this
      simpa using this
    have hsplit : rest = rest.takeWhile (· != '=') ++ '=' :: w := by
      conv_lhs => rw [← List.takeWhile_append_dropWhile (p := (· != '=')) (l := rest), hdrop, hc]
    have hw : ¬ EndsInNewline (String.ofList w) := by
      intro hn
      apply ht
      rw [EndsInNewline, String.toList_ofList] at hn
      rw [EndsInNewline, ← hrest, hsplit, List.getLast?_append, List.getLast?_append,
        List.getLast?_cons, hn]
      simp
    simp only [Bool.and_eq_true] at hok
    refine ⟨?_, hok.2⟩
    have hlist : t.toList = S.lead.toList ++ (rest.takeWhile (· != '=') ++ '=' :: w) := by
      rw [← hsplit, hrest]
    rw [body_eq_self hw, ← String.toList_inj]
    simpa using hlist

end

/-! ## Collecting -/

section
variable {F : Type} [DecidableEq F] (S : Family F)

omit [DecidableEq F] in
theorem field?_sound {key : String} {f : F} (h : S.field? key = some f) :
    S.name f = key ∧ f ∈ S.known :=
  ⟨by simpa using List.find?_some h, List.mem_of_find?_eq_some h⟩

omit [DecidableEq F] in
theorem field?_name {f : F} (hf : f ∈ S.known) : S.field? (S.name f) = some f := by
  cases hfind : S.field? (S.name f) with
  | none =>
    have := List.find?_eq_none.mp hfind f hf
    simp at this
  | some g => rw [S.name_injective (field?_sound S hfind).1]

theorem collectTag_skip {h : Hash F} {t : String} (ht : S.leads (trim t) = false) :
    S.collectTag h t = .ok h := by
  simp [Family.collectTag, ht]

/-- What one tag can do to the record. -/
theorem collectTag_cases {h h' : Hash F} {t : String} (hok : S.collectTag h t = .ok h') :
    (S.leads (trim t) = false ∧ h' = h) ∨
    ∃ f v, f ∈ S.known ∧ plus S.isValue v = true ∧ trim t = S.tag f v ∧ h f = none ∧
      h' = Function.update h f (some v) := by
  simp only [Family.collectTag] at hok
  split_ifs at hok with hlead
  · right
    split at hok
    · cases hok
    · rename_i key v hparse
      obtain ⟨ht, hv⟩ := parse_sound S hparse (trim_not_endsInNewline t)
      split at hok
      · cases hok
      · rename_i f hfield
        obtain ⟨rfl, hknown⟩ := field?_sound S hfield
        split_ifs at hok with hsome
        refine ⟨f, v, hknown, hv, ht, by simpa using hsome, ?_⟩
        exact (Except.ok.inj hok).symm
  · exact Or.inl ⟨by simpa using hlead, (Except.ok.inj hok).symm⟩

theorem collectTag_tag {h : Hash F} {t : String} {f : F} {v : String} (hf : f ∈ S.known)
    (hv : plus S.isValue v = true) (ht : trim t = S.tag f v) (hnone : h f = none) :
    S.collectTag h t = .ok (Function.update h f (some v)) := by
  simp [Family.collectTag, ht, leads_tag, parse_tag S hv, field?_name S hf, hnone]

/-- The collected record is the start record and the family tags of the list. -/
theorem collectFrom_sound {h h' : Hash F} {tags : List String}
    (hok : S.collectFrom h tags = .ok h') :
    (∀ f v, h' f = some v → h f = some v ∨
      (f ∈ S.known ∧ plus S.isValue v = true ∧ S.tag f v ∈ S.own tags)) ∧
    (∀ f v, h f = some v → h' f = some v) ∧
    (∀ t ∈ S.own tags, ∃ f v, t = S.tag f v ∧ h' f = some v) := by
  induction tags generalizing h with
  | nil =>
    obtain rfl := Except.ok.inj hok
    exact ⟨fun f v hv => Or.inl hv, fun f v hv => hv, by simp [Family.own]⟩
  | cons t ts ih =>
    simp only [Family.collectFrom, bind_eq_ok] at hok
    obtain ⟨h₁, hstep, hrest⟩ := hok
    obtain ⟨hfrom, hkeep, hall⟩ := ih hrest
    rcases collectTag_cases S hstep with ⟨hskip, rfl⟩ | ⟨f, v, hf, hv, ht, hnone, rfl⟩
    · have hown : S.own (t :: ts) = S.own ts := by simp [Family.own, hskip]
      rw [hown]
      exact ⟨hfrom, hkeep, hall⟩
    · have hown : S.own (t :: ts) = S.tag f v :: S.own ts := by
        simp [Family.own, ht, leads_tag]
      rw [hown]
      refine ⟨?_, ?_, ?_⟩
      · intro g w hw
        rcases hfrom g w hw with hg | ⟨hg, hgv, hmem⟩
        · by_cases hfg : g = f
          · subst hfg
            obtain rfl : v = w := by simpa using hg
            exact Or.inr ⟨hf, hv, List.mem_cons_self⟩
          · exact Or.inl (by simpa [Function.update_of_ne hfg] using hg)
        · exact Or.inr ⟨hg, hgv, List.mem_cons_of_mem _ hmem⟩
      · intro g w hg
        have hfg : g ≠ f := by
          rintro rfl
          rw [hnone] at hg
          cases hg
        exact hkeep g w (by rwa [Function.update_of_ne hfg])
      · intro t' ht'
        rcases List.mem_cons.mp ht' with rfl | hmem
        · exact ⟨f, v, rfl, hkeep f v (by simp)⟩
        · exact hall t' hmem

/-- Readable tags of distinct unset fields are all collected. -/
theorem collectFrom_complete {h : Hash F} {tags : List String} {pairs : List (F × String)}
    (hown : S.own tags = pairs.map fun p => S.tag p.1 p.2)
    (hnodup : (pairs.map Prod.fst).Nodup) (hfresh : ∀ p ∈ pairs, h p.1 = none)
    (hknown : ∀ p ∈ pairs, p.1 ∈ S.known) (hvalue : ∀ p ∈ pairs, plus S.isValue p.2 = true) :
    ∃ h', S.collectFrom h tags = .ok h' ∧
      ∀ f v, h' f = some v ↔ h f = some v ∨ (f, v) ∈ pairs := by
  induction tags generalizing h pairs with
  | nil =>
    have hnil : pairs = [] := by simpa [Family.own] using hown.symm
    subst hnil
    exact ⟨h, rfl, by simp⟩
  | cons t ts ih =>
    by_cases hlead : S.leads (trim t) = true
    · have hcons : trim t :: S.own ts = pairs.map fun p => S.tag p.1 p.2 := by
        rw [← hown]
        simp [Family.own, hlead]
      cases pairs with
      | nil => simp at hcons
      | cons p ps =>
        simp only [List.map_cons, List.cons.injEq] at hcons
        simp only [List.map_cons, List.nodup_cons] at hnodup
        have hstep := collectTag_tag S (hknown p (by simp)) (hvalue p (by simp)) hcons.1
          (hfresh p (by simp))
        have hfresh' : ∀ q ∈ ps, Function.update h p.1 (some p.2) q.1 = none := by
          intro q hq
          have hne : q.1 ≠ p.1 := fun he => hnodup.1 (List.mem_map.mpr ⟨q, hq, he⟩)
          rw [Function.update_of_ne hne]
          exact hfresh q (by simp [hq])
        obtain ⟨h', hrun, hspec⟩ := ih hcons.2 hnodup.2 hfresh'
          (fun q hq => hknown q (by simp [hq])) (fun q hq => hvalue q (by simp [hq]))
        refine ⟨h', by simp only [Family.collectFrom, hstep, bind_eq_ok]; exact ⟨_, rfl, hrun⟩, ?_⟩
        intro f v
        rw [hspec, List.mem_cons]
        by_cases hf : f = p.1
        · subst hf
          have hnone := hfresh p (by simp)
          simp only [Function.update_self, Option.some.injEq, hnone, reduceCtorEq, false_or]
          constructor
          · rintro (rfl | hmem)
            · exact Or.inl rfl
            · exact Or.inr hmem
          · rintro (he | hmem)
            · exact Or.inl (congrArg Prod.snd he).symm
            · exact Or.inr hmem
        · rw [Function.update_of_ne hf]
          have hne : (f, v) ≠ p := fun he => hf (congrArg Prod.fst he)
          simp [hne]
    · have hown' : S.own ts = pairs.map fun p => S.tag p.1 p.2 := by
        rw [← hown]
        simp [Family.own, hlead]
      obtain ⟨h', hrun, hspec⟩ := ih hown' hnodup hfresh hknown hvalue
      refine ⟨h', ?_, hspec⟩
      simp only [Family.collectFrom, bind_eq_ok]
      exact ⟨h, collectTag_skip S (by simpa using hlead), hrun⟩

theorem collect_sound {h : Hash F} {tags : List String} (hok : S.collect tags = .ok h) :
    (∀ f v, h f = some v → f ∈ S.known ∧ plus S.isValue v = true) ∧
    ∀ t, t ∈ S.own tags ↔ ∃ f v, t = S.tag f v ∧ h f = some v := by
  obtain ⟨hfrom, -, hall⟩ := collectFrom_sound S hok
  refine ⟨fun f v hv => ?_, fun t => ⟨hall t, ?_⟩⟩
  · rcases hfrom f v hv with h0 | ⟨hf, hval, -⟩
    · cases h0
    · exact ⟨hf, hval⟩
  · rintro ⟨f, v, rfl, hv⟩
    rcases hfrom f v hv with h0 | ⟨-, -, hmem⟩
    · cases h0
    · exact hmem

omit [DecidableEq F] in
theorem exists_perm_of_map_perm {α β : Type} {g : α → β} {l : List β} {m : List α}
    (h : l.Perm (m.map g)) : ∃ m' : List α, m'.Perm m ∧ l = m'.map g := by
  have hforall : List.Forall₂ (fun b a => b = g a) (m.map g) m := by
    rw [List.forall₂_map_left_iff, List.forall₂_same]
    exact fun a _ => rfl
  obtain ⟨m', hm', hperm⟩ := List.perm_comp_forall₂ h hforall
  refine ⟨m', hperm, ?_⟩
  clear h hforall hperm
  induction hm' with
  | nil => rfl
  | cons hab _ ih => rw [hab, ih, List.map_cons]

/-- The order of the family's tags and the foreign tags among them do not matter. -/
theorem collect_complete {h : Hash F} {tags : List String} {pairs : List (F × String)}
    (hown : (S.own tags).Perm (pairs.map fun p => S.tag p.1 p.2))
    (hnodup : (pairs.map Prod.fst).Nodup) (hknown : ∀ p ∈ pairs, p.1 ∈ S.known)
    (hvalue : ∀ p ∈ pairs, plus S.isValue p.2 = true)
    (hh : ∀ f v, h f = some v ↔ (f, v) ∈ pairs) : S.collect tags = .ok h := by
  obtain ⟨pairs', hperm, heq⟩ := exists_perm_of_map_perm hown
  obtain ⟨h', hrun, hspec⟩ := collectFrom_complete S (h := fun _ => none) heq
    ((hperm.map Prod.fst).nodup_iff.mpr hnodup) (fun _ _ => rfl)
    (fun p hp => hknown p (hperm.mem_iff.mp hp)) (fun p hp => hvalue p (hperm.mem_iff.mp hp))
  have : h' = h := by
    funext f
    apply Option.ext
    intro v
    rw [hspec, hh, hperm.mem_iff]
    simp
  rw [Family.collect, hrun, this]

omit [DecidableEq F] in
theorem own_append (l m : List String) : S.own (l ++ m) = S.own l ++ S.own m := by
  simp [Family.own]

omit [DecidableEq F] in
theorem own_perm {l m : List String} (h : l.Perm m) : (S.own l).Perm (S.own m) :=
  (h.map trim).filter _

omit [DecidableEq F] in
theorem own_tags {pairs : List (F × String)} (hvalue : ∀ p ∈ pairs, plus S.isValue p.2 = true) :
    S.own (pairs.map fun p => S.tag p.1 p.2) = pairs.map fun p => S.tag p.1 p.2 := by
  have htrim : (pairs.map fun p => S.tag p.1 p.2).map trim = pairs.map fun p => S.tag p.1 p.2 := by
    rw [List.map_map]
    exact List.map_congr_left fun p hp => trim_eq_self (tag_not_space S (hvalue p hp))
  rw [Family.own, htrim, List.filter_eq_self]
  intro t ht
  obtain ⟨p, -, rfl⟩ := List.mem_map.mp ht
  exact leads_tag S _ _

end

/-! ## The canonical text -/

section
variable {F : Type} (S : Family F)

theorem part_no_bar {f : F} {v : String} (hv : '|' ∉ v.toList) :
    '|' ∉ (S.name f ++ "=" ++ v).toList := by
  simp only [String.toList_append, List.mem_append, not_or]
  refine ⟨⟨fun hc => ?_, by decide⟩, hv⟩
  exact word_not_bar ((plus_iff.mp (S.name_word f)).2 _ hc) rfl

/-- Equal canonical texts have the same fields in the same order, with equal values. -/
theorem canonical_injective {fs gs : List F} {h k : Hash F} (hfs : fs ≠ []) (hgs : gs ≠ [])
    (hbar : ∀ f ∈ fs, '|' ∉ (text h f).toList) (kbar : ∀ f ∈ gs, '|' ∉ (text k f).toList)
    (heq : S.canonical fs h = S.canonical gs k) :
    fs = gs ∧ ∀ f ∈ fs, text h f = text k f := by
  have hparts : (fs.map fun f => S.name f ++ "=" ++ text h f) =
      gs.map fun f => S.name f ++ "=" ++ text k f := by
    have hsplit := congrArg (fun t => t.toList.splitOn '|') heq
    simp only [Alphabet.canonical, String.toList_intercalate] at hsplit
    change (['|'].intercalate _).splitOn '|' = (['|'].intercalate _).splitOn '|' at hsplit
    rw [List.splitOn_intercalate '|' _ (by simpa using hfs),
      List.splitOn_intercalate '|' _ (by simpa using hgs)] at hsplit
    · exact List.map_injective_iff.mpr (fun a b hab => String.toList_inj.mp hab) hsplit
    · intro l hl
      obtain ⟨p, hp, rfl⟩ := List.mem_map.mp hl
      obtain ⟨f, hf, rfl⟩ := List.mem_map.mp hp
      exact part_no_bar S (kbar f hf)
    · intro l hl
      obtain ⟨p, hp, rfl⟩ := List.mem_map.mp hl
      obtain ⟨f, hf, rfl⟩ := List.mem_map.mp hp
      exact part_no_bar S (hbar f hf)
  clear heq hfs hgs hbar kbar
  induction fs generalizing gs with
  | nil =>
    have : gs = [] := by simpa using hparts.symm
    exact ⟨this.symm, by simp⟩
  | cons f fs ih =>
    cases gs with
    | nil => simp at hparts
    | cons g gs =>
      simp only [List.map_cons, List.cons.injEq] at hparts
      obtain ⟨rfl, hv⟩ := part_injective S hparts.1
      obtain ⟨rfl, hrest⟩ := ih hparts.2
      refine ⟨rfl, ?_⟩
      intro g hg
      rcases List.mem_cons.mp hg with rfl | hg
      · exact hv
      · exact hrest g hg

theorem mem_intercalate_of_mem {α : Type} {sep : List α} {ls : List (List α)} {l : List α} {a : α}
    (hl : l ∈ ls) (ha : a ∈ l) : a ∈ sep.intercalate ls := by
  induction ls with
  | nil => cases hl
  | cons m ls ih =>
    by_cases hls : ls = []
    · subst hls
      obtain rfl : l = m := by simpa using hl
      simpa using ha
    · rw [List.intercalate_cons_of_ne_nil hls, List.mem_append, List.mem_append]
      rcases List.mem_cons.mp hl with rfl | hl
      · exact Or.inl (Or.inl ha)
      · exact Or.inr (ih hl)

theorem mem_canonical {fs : List F} {h : Hash F} {f : F} {c : Char} (hf : f ∈ fs)
    (hc : c ∈ (text h f).toList) : c ∈ (S.canonical fs h).toList := by
  rw [Alphabet.canonical, String.toList_intercalate]
  refine mem_intercalate_of_mem (List.mem_map_of_mem (List.mem_map_of_mem hf)) ?_
  simp only [String.toList_append, List.mem_append]
  exact Or.inr hc

theorem canonical_latin1 {fs : List F} {h : Hash F}
    (hv : ∀ f ∈ fs, ∀ c ∈ (text h f).toList, c.toNat < 256) :
    ∀ c ∈ (S.canonical fs h).toList, c.toNat < 256 := by
  intro c hc
  rw [Alphabet.canonical, String.toList_intercalate] at hc
  rcases mem_intercalate hc with hc | ⟨l, hl, hc⟩
  · have : c = '|' := by simpa using hc
    subst this
    decide
  · obtain ⟨p, hp, rfl⟩ := List.mem_map.mp hl
    obtain ⟨f, hf, rfl⟩ := List.mem_map.mp hp
    simp only [String.toList_append, List.mem_append] at hc
    rcases hc with (hc | hc) | hc
    · have := word_ascii ((plus_iff.mp (S.name_word f)).2 c hc)
      omega
    · have : c = '=' := by simpa using hc
      subst this
      decide
    · exact hv f hf c hc

end
end TagCodec
