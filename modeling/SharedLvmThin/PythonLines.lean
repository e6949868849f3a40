import SharedLvmThin.PythonData

/-! Lines of a text that was written with line feeds and is read with `splitlines`. -/

namespace Python

/-- What reading back one written line gives. -/
def pieces (line : List Char) : List String := linesFrom [] (line ++ ['\n'])

theorem linesFrom_append (start line rest : List Char) :
    linesFrom start (line ++ '\n' :: rest) =
      linesFrom start (line ++ ['\n']) ++ linesFrom [] rest := by
  induction start, line using linesFrom.induct with
  | case1 start hstart => simp [linesFrom, isLineBreak]
  | case2 start hstart => simp [linesFrom, isLineBreak]
  | case3 start line ih =>
    simp only [List.cons_append, linesFrom, ih]
  | case4 start c line hpair hbreak ih =>
    by_cases hreturn : c = '\r' ∧ line = []
    · obtain ⟨rfl, rfl⟩ := hreturn
      simp [linesFrom]
    · -- the line feed that ends the line is not part of a pair
      have hend : ∀ tail rest', c = '\r' → line ++ '\n' :: tail = '\n' :: rest' → False := by
        intro tail rest' hc heq
        cases line with
        | nil => exact hreturn ⟨hc, rfl⟩
        | cons d line => exact hpair line hc (by rw [(List.cons.inj heq).1])
      rw [List.cons_append, List.cons_append, linesFrom.eq_3 _ _ _ (hend rest),
        linesFrom.eq_3 _ _ _ (hend []), if_pos hbreak, if_pos hbreak, ih]
      rfl
  | case5 start c line hpair hbreak ih =>
    have hreturn : c ≠ '\r' := by
      rintro rfl
      exact hbreak rfl
    rw [List.cons_append, List.cons_append, linesFrom.eq_3 _ _ _ fun _ hc _ => hreturn hc,
      linesFrom.eq_3 _ _ _ fun _ hc _ => hreturn hc, if_neg hbreak, if_neg hbreak, ih]

theorem splitlines_unlines_pieces (lines : List String) :
    splitlines (unlines lines) = lines.flatMap fun line => pieces line.toList := by
  rw [splitlines, unlines, String.toList_ofList]
  induction lines with
  | nil => rfl
  | cons line lines ih =>
    rw [List.flatMap_cons, List.flatMap_cons, List.append_assoc, List.singleton_append,
      linesFrom_append, ih]
    rfl

theorem pieces_of_plain {line : List Char} (h : ∀ c ∈ line, isLineBreak c = false) :
    pieces line = [String.ofList line] := by
  simp [pieces, linesFrom_line h, linesFrom]

/-- Only line breaks are lost. -/
theorem flatten_linesFrom (start line : List Char) :
    (linesFrom start line).flatMap String.toList =
      start.reverse ++ line.filter fun c => !isLineBreak c := by
  induction start, line using linesFrom.induct with
  | case1 start hstart => simp_all [linesFrom]
  | case2 start hstart => simp_all [linesFrom]
  | case3 start line ih =>
    have hcr : isLineBreak '\r' = true := rfl
    have hlf : isLineBreak '\n' = true := rfl
    simp [linesFrom, ih, hcr, hlf]
  | case4 start c line hpair hbreak ih =>
    rw [linesFrom.eq_3 _ _ _ hpair, if_pos hbreak]
    simp [ih, hbreak]
  | case5 start c line hpair hbreak ih =>
    rw [linesFrom.eq_3 _ _ _ hpair, if_neg hbreak, ih]
    simp [hbreak]

theorem flatten_pieces (line : List Char) :
    (pieces line).flatMap String.toList = line.filter fun c => !isLineBreak c := by
  have hlf : isLineBreak '\n' = true := rfl
  rw [pieces, flatten_linesFrom]
  simp [hlf]

/-- A line with a character other than a line break leaves a piece that is not empty. -/
theorem pieces_visible {line : List Char} {c : Char} (hc : c ∈ line) (hbreak : isLineBreak c =
    false) :
    (pieces line).filter (· ≠ "") ≠ [] := by
  intro hnone
  have hempty : (pieces line).flatMap String.toList = [] := by
    rw [List.flatMap_eq_nil_iff]
    intro piece hpiece
    have hnot := List.filter_eq_nil_iff.mp hnone piece hpiece
    have hblank : piece = "" := by simpa using hnot
    rw [hblank]
    rfl
  rw [flatten_pieces, List.filter_eq_nil_iff] at hempty
  exact hempty c hc (by rw [hbreak]; rfl)

theorem flatMap_filter_visible (texts : List String) :
    (texts.filter (· ≠ "")).flatMap String.toList = texts.flatMap String.toList := by
  induction texts with
  | nil => rfl
  | cons text texts ih =>
    by_cases h : text = ""
    · subst h
      simpa using ih
    · rw [List.filter_cons_of_pos (by simpa using h), List.flatMap_cons, List.flatMap_cons, ih]

/-- A line whose only visible piece is the line itself has no line break. -/
theorem plain_of_pieces {line : List Char}
    (h : (pieces line).filter (· ≠ "") = [String.ofList line]) :
    ∀ c ∈ line, isLineBreak c = false := by
  have hflat := flatMap_filter_visible (pieces line)
  rw [h, flatten_pieces, List.flatMap_singleton, String.toList_ofList] at hflat
  intro c hc
  rw [hflat] at hc
  simpa using List.of_mem_filter hc

/-! ## Fields -/

/-- `s.split(c, n)` -/
def splitMax (c : Char) : ℕ → List Char → List String
  | 0, text => [String.ofList text]
  | n + 1, text =>
    match text.dropWhile (· ≠ c) with
    | [] => [String.ofList text]
    | _ :: rest => String.ofList (text.takeWhile (· ≠ c)) :: splitMax c n rest

def join (c : Char) : List String → List Char
  | [] => []
  | [field] => field.toList
  | field :: rest => field.toList ++ c :: join c rest

theorem splitMax_ne_nil (c : Char) (n : ℕ) (text : List Char) : splitMax c n text ≠ [] := by
  cases n with
  | zero => simp [splitMax]
  | succ n =>
    rw [splitMax]
    split <;> simp

theorem join_cons {c : Char} {field : String} {rest : List String} (h : rest ≠ []) :
    join c (field :: rest) = field.toList ++ c :: join c rest := by
  cases rest with
  | nil => exact absurd rfl h
  | cons next rest => rfl

theorem join_splitMax (c : Char) (n : ℕ) (text : List Char) : join c (splitMax c n text) =
    text := by
  induction n generalizing text with
  | zero => simp [splitMax, join]
  | succ n ih =>
    have hsplit : text.takeWhile (· ≠ c) ++ text.dropWhile (· ≠ c) = text :=
      List.takeWhile_append_dropWhile
    rw [splitMax]
    split
    · simp [join]
    · rename_i d rest hrest
      have hd : d = c := by
        have hhead := List.head?_dropWhile_not (· ≠ c) text
        rw [hrest] at hhead
        simpa using hhead
      rw [join_cons (splitMax_ne_nil c n rest), ih, String.toList_ofList]
      rw [hrest, hd] at hsplit
      exact hsplit

theorem splitMax_join {c : Char} {fields : List String} {last : String}
    (h : ∀ field ∈ fields, c ∉ field.toList) :
    splitMax c fields.length (join c (fields ++ [last])) = fields ++ [last] := by
  induction fields with
  | nil => simp [splitMax, join]
  | cons field fields ih =>
    have hfree : ∀ d ∈ field.toList, (d ≠ c) = true := by
      intro d hd
      have hne : d ≠ c := fun heq => h field List.mem_cons_self (heq ▸ hd)
      simpa using hne
    have hrest := ih fun f hf => h f (List.mem_cons_of_mem _ hf)
    rw [List.cons_append, join_cons (by simp), List.length_cons, splitMax]
    have hdrop : (field.toList ++ c :: join c (fields ++ [last])).dropWhile (· ≠ c) =
        c :: join c (fields ++ [last]) := by
      rw [List.dropWhile_append_of_pos (by simpa using hfree)]
      simp
    have htake : (field.toList ++ c :: join c (fields ++ [last])).takeWhile (· ≠ c) =
        field.toList := by
      rw [List.takeWhile_append_of_pos (by simpa using hfree)]
      simp
    simp only [hdrop, htake, hrest, String.ofList_toList]

/-- Fields without the separator, and not empty, can be read off the joined text. -/
theorem join_inj {c : Char} {l l' : List String} (hl : ∀ f ∈ l, f ≠ "" ∧ c ∉ f.toList)
    (hl' : ∀ f ∈ l', f ≠ "" ∧ c ∉ f.toList) (h : join c l = join c l') : l = l' := by
  have hnil : ∀ f : String, f ≠ "" → f.toList ≠ [] := by
    intro f hf hempty
    exact hf (String.toList_inj.mp hempty)
  have hfree : ∀ {f : String}, c ∉ f.toList → ∀ d ∈ f.toList, (decide (d ≠ c)) = true := by
    intro f hf d hd
    exact decide_eq_true fun heq => hf (heq ▸ hd)
  induction l generalizing l' with
  | nil =>
    cases l' with
    | nil => rfl
    | cons f' rest' =>
      have hne := hnil f' (hl' f' List.mem_cons_self).1
      cases rest' <;> simp [join, hne] at h
  | cons f rest ih =>
    obtain ⟨hf, hcf⟩ := hl f List.mem_cons_self
    cases l' with
    | nil => cases rest <;> simp [join, hnil f hf] at h
    | cons f' rest' =>
      obtain ⟨hf', hcf'⟩ := hl' f' List.mem_cons_self
      by_cases hrest : rest = [] <;> by_cases hrest' : rest' = []
      · subst hrest hrest'
        rw [join, join, String.toList_inj] at h
        rw [h]
      · subst hrest
        rw [join, join_cons hrest'] at h
        exact absurd (h ▸ List.mem_append_right _ List.mem_cons_self) hcf
      · subst hrest'
        rw [join, join_cons hrest] at h
        exact absurd (h ▸ List.mem_append_right _ List.mem_cons_self) hcf'
      · rw [join_cons hrest, join_cons hrest'] at h
        have htake := congrArg (List.takeWhile (· ≠ c)) h
        rw [List.takeWhile_append_of_pos (hfree hcf),
          List.takeWhile_append_of_pos (hfree hcf')] at htake
        simp only [ne_eq, not_true, decide_false, Bool.false_eq_true, not_false_iff,
          List.takeWhile_cons_of_neg, List.append_nil, String.toList_inj] at htake
        subst htake
        have htail := (List.cons.inj (List.append_cancel_left h)).2
        rw [ih (fun g hg => hl g (List.mem_cons_of_mem _ hg))
          (fun g hg => hl' g (List.mem_cons_of_mem _ hg)) htail]

end Python
