import SharedLvmThin.ThickVolumeSteps

/-!
# Reading the inventory

What an accepted anchor and a found snapshot say about the inventory, and that neither
depends on more of it than the logical volumes they name.
-/

namespace SharedLvmThin.ThickVolume
open Perl TagCodec Effects KeyedLists
open Thick (Field Record TagFamily TagInput anchorTags decodeAnchorTags decodeGenerationTags
  numberOf badGeneration)

variable {storage : Storage} {volname snap key name : String} {lvs : Inventory}

@[simp] theorem found_eq_ok {α : Type} {entry : Option α} {message : String} {a : α} :
    found entry message = .ok a ↔ entry = some a := by
  cases entry <;> simp [found]

/-! ## Names -/

theorem stripPrefix?_eq_some {lead name rest : String} :
    stripPrefix? lead name = some rest ↔ name = lead ++ rest := by
  unfold stripPrefix?
  constructor
  . intro h
    split_ifs at h with hpre
    obtain ⟨tail, htail⟩ := List.isPrefixOf_iff_prefix.mp hpre
    obtain rfl := Option.some.inj h
    apply String.toList_inj.mp
    simp [← htail]
  . rintro rfl
    simp

theorem generationDigits?_eq_some {digits : String} :
    generationDigits? key name = some digits ↔
      name = "sltg-g-" ++ key ++ "-" ++ digits ∧ exactly 8 Char.isDigit digits = true := by
  rw [generationDigits?, Option.filter_eq_some_iff, stripPrefix?_eq_some]

theorem objectKey_token {space : String} (h : objectKey space volname = .ok key) :
    plus Thick.isTokenChar key = true := by
  simp only [objectKey, bind_eq_ok, pure_eq_ok] at h
  obtain ⟨_, -, _, -, hex, hhex, rfl⟩ := h
  obtain ⟨hlen, hall⟩ := Sha256.sha256Hex_spec hhex
  refine plus_iff.mpr ⟨?_, fun c hc => ?_⟩
  . intro hnil
    have := congrArg List.length hnil
    simp [hlen] at this
  . rw [String.toList_ofList] at hc
    exact Thick.isLowerHex_token (hall c (List.mem_of_mem_take hc))

theorem isLvName_append {lead rest : String} (hlead : isLvName lead = true)
    (hrest : isLvName rest = true) : isLvName (lead ++ rest) = true := by
  obtain ⟨hne, hall⟩ := plus_iff.mp hlead
  refine plus_iff.mpr ⟨by simp [hne], fun c hc => ?_⟩
  rw [String.toList_append, List.mem_append] at hc
  exact hc.elim (hall c) ((plus_iff.mp hrest).2 c)

theorem isLvName_generation {space digits : String} (hkey : objectKey space volname = .ok key)
    (h : generationDigits? key name = some digits) : isLvName name = true := by
  obtain ⟨rfl, hdigits⟩ := generationDigits?_eq_some.mp h
  simp only [exactly, Bool.and_eq_true, decide_eq_true_eq, List.all_eq_true] at hdigits
  have hname : isLvName digits = true := by
    refine plus_iff.mpr ⟨?_, fun c hc => Thick.isDigit_token (hdigits.2 c hc)⟩
    intro hnil
    simp [hnil] at hdigits
  exact isLvName_append (isLvName_append (isLvName_append (by decide) (objectKey_token hkey))
    (by decide)) hname

theorem isLvName_anchor {space : String} (h : anchorName space volname = .ok name) :
    isLvName name = true := by
  simp only [anchorName, bind_eq_ok, pure_eq_ok] at h
  obtain ⟨key, hkey, rfl⟩ := h
  exact isLvName_append (by decide) (objectKey_token hkey)

theorem generation_ne_anchor {space digits anchor : String}
    (h : generationDigits? key name = some digits) (ha : anchorName space volname = .ok anchor) :
    name ≠ anchor := by
  simp only [anchorName, bind_eq_ok, pure_eq_ok] at ha
  obtain ⟨key', -, rfl⟩ := ha
  obtain ⟨rfl, -⟩ := generationDigits?_eq_some.mp h
  intro heq
  have := congrArg (fun n => n.toList[5]?) heq
  simp at this

/-! ### Eight digits -/

theorem ofDigitChars_lt {l : List Char} (hd : ∀ c ∈ l, c.isDigit = true) :
    Nat.ofDigitChars 10 l 0 < 10 ^ l.length := by
  induction l using List.reverseRecOn with
  | nil => simp [Nat.ofDigitChars_nil]
  | append_singleton init c ih =>
    have hc := isDigit_toNat (hd c (by simp))
    have hinit := ih fun c hc => hd c (by simp [hc])
    have hzero : '0'.toNat = 48 := rfl
    rw [Nat.ofDigitChars_append, Nat.ofDigitChars_cons, Nat.ofDigitChars_nil, List.length_append,
      List.length_singleton, pow_succ]
    omega

/-- Leading zeros change no number. -/
theorem digits_split {l : List Char} (hd : ∀ c ∈ l, c.isDigit = true) :
    ∃ k rest, l = List.replicate k '0' ++ rest ∧ rest.head? ≠ some '0' ∧
      Nat.ofDigitChars 10 l 0 = Nat.ofDigitChars 10 rest 0 := by
  induction l with
  | nil => exact ⟨0, [], by simp⟩
  | cons c cs ih =>
    by_cases hc : c = '0'
    . obtain ⟨k, rest, hl, hhead, hvalue⟩ := ih fun c hc => hd c (by simp [hc])
      refine ⟨k + 1, rest, by rw [hl, hc]; rfl, hhead, ?_⟩
      rw [hc, ← hvalue, Nat.ofDigitChars_cons]
      rfl
    . exact ⟨0, c :: cs, rfl, by simpa using hc, rfl⟩

theorem pad8_digits {digits : String} (h : exactly 8 Char.isDigit digits = true) :
    pad8 (numify digits).value = digits := by
  obtain ⟨hlen, hd⟩ := exactly_iff.mp h
  have hlt := ofDigitChars_lt hd
  rw [hlen] at hlt
  have hvalue : (numify digits).value = Nat.ofDigitChars 10 digits.toList 0 := by
    rw [numify, takeWhile_isDigit hd, if_pos (by omega)]
    rfl
  obtain ⟨k, rest, hl, hhead, hrest⟩ := digits_split hd
  rw [hvalue, hrest]
  apply String.toList_inj.mp
  have hlen' : k + rest.length = 8 := by
    rw [← hlen, hl]
    simp
  cases rest with
  | nil =>
    have hk : k = 8 := by simpa using hlen'
    subst hk
    rw [hl, Nat.ofDigitChars_nil]
    decide
  | cons c cs =>
    have hdigits := toDigits_ofDigitChars (l := c :: cs)
      (fun a ha => hd a (by rw [hl]; exact List.mem_append_right _ ha)) (by simp) (Or.inr hhead)
    have hrepr : (Nat.repr (Nat.ofDigitChars 10 (c :: cs) 0)).toList = c :: cs := by
      rw [Nat.toList_repr, hdigits]
    have hsize : (Nat.repr (Nat.ofDigitChars 10 (c :: cs) 0)).length = (c :: cs).length := by
      rw [← String.length_toList, hrepr]
    rw [pad8, hsize, String.toList_ofList, hrepr, hl, show 8 - (c :: cs).length = k by omega]

/-! ## Anchors -/

/-- What `_thick_read_anchor` has seen when it returns. -/
structure AnchorRead (storage : Storage) (volname : String) (lvs : Inventory) (a : Anchor)
    (info : Lv) : Prop where
  named : ∃ space, thickNamespace storage = .ok space ∧ anchorName space volname = .ok a.name
  present : lvs.lookup a.name = some info
  decoded : decodeAnchorTags (.array info.tags) = .ok a.state
  sid : text a.state .sid = storage.storeid
  vol : text a.state .vol = volname
  head : lvs.lookup (text a.state .head) = some a.head
  objects : (if versionNumber a.state = 6 then checkLazyObjects storage volname lvs a.state a.head
    else validateGenerationTags a.head.tags (headRecord storage.storeid volname a.state)) = .ok ()

theorem readAnchor_eq_ok {a : Anchor} :
    readAnchor storage volname lvs = .ok a ↔ ∃ info, AnchorRead storage volname lvs a info := by
  simp only [readAnchor, bind_eq_ok, found_eq_ok, dieIf_eq_ok, Bool.or_eq_false_iff,
    decide_eq_false_iff_not, ne_eq, not_not, exists_const]
  constructor
  . intro h
    obtain ⟨space, hspace, name, hname, info, hinfo, state, hstate, ⟨hsid, hvol⟩, head, hhead, hk⟩ := h
    split_ifs at hk with hv
    . obtain ⟨_, hlazy, hk⟩ := bind_eq_ok.mp hk
      obtain rfl := pure_eq_ok.mp hk
      exact ⟨info, ⟨space, hspace, hname⟩, hinfo, hstate, hsid, hvol, hhead, by rwa [if_pos hv]⟩
    . obtain ⟨_, heager, hk⟩ := bind_eq_ok.mp hk
      obtain rfl := pure_eq_ok.mp hk
      exact ⟨info, ⟨space, hspace, hname⟩, hinfo, hstate, hsid, hvol, hhead, by rwa [if_neg hv]⟩
  . intro h
    obtain ⟨info, ⟨space, hspace, hname⟩, hinfo, hstate, hsid, hvol, hhead, hobjects⟩ := h
    refine ⟨space, hspace, a.name, hname, info, hinfo, a.state, hstate, ⟨hsid, hvol⟩, a.head,
      hhead, ?_⟩
    split_ifs at hobjects ⊢
    . exact bind_eq_ok.mpr ⟨_, hobjects, rfl⟩
    . exact bind_eq_ok.mpr ⟨_, hobjects, rfl⟩

theorem thickAnchor_eq_ok {a : Anchor} :
    thickAnchor storage volname lvs = .ok a ↔
      (∃ info, AnchorRead storage volname lvs a info) ∧ text a.state .phase = "MATERIALIZED" := by
  simp only [thickAnchor, bind_eq_ok, dieIf_eq_ok, exists_const, decide_eq_false_iff_not, ne_eq,
    not_not, pure_eq_ok, readAnchor_eq_ok]
  constructor
  . intro h
    obtain ⟨b, hread, hphase, rfl⟩ := h
    exact ⟨hread, hphase⟩
  . exact fun h => ⟨a, h.1, h.2, rfl⟩

/-- What `_thick_find_snapshot` has seen when it returns. -/
structure SnapshotRead (storage : Storage) (volname snap : String) (lvs : Inventory)
    (hit : Snapshot) (key digits : String) (owned : Record) : Prop where
  keyed : ∃ space, thickNamespace storage = .ok space ∧ objectKey space volname = .ok key
  named : generationDigits? key hit.name = some digits
  present : lvs.lookup hit.name = some hit.info
  decoded : decodeGenerationTags (.array hit.info.tags) = .ok owned
  sid : text owned .sid = storage.storeid
  vol : text owned .vol = volname
  role : text owned .role = "snapshot"
  generation : numberOf owned .generation = (numify digits).value
  snapshot : text owned .snapshot = snap
  value : hit.generation = (numify digits).value

theorem toOption_eq_some {α : Type} {x : Except String α} {a : α} :
    x.toOption = some a ↔ x = .ok a := by
  cases x <;> simp [Except.toOption]

theorem snapshotOf?_eq_some {hit : Snapshot} :
    snapshotOf? storage volname snap key lvs name = some hit ↔
      hit.name = name ∧ ∃ digits owned, generationDigits? key hit.name = some digits ∧
        lvs.lookup hit.name = some hit.info ∧
        decodeGenerationTags (.array hit.info.tags) = .ok owned ∧
        text owned .sid = storage.storeid ∧ text owned .vol = volname ∧
        text owned .role = "snapshot" ∧ numberOf owned .generation = (numify digits).value ∧
        text owned .snapshot = snap ∧ hit.generation = (numify digits).value := by
  simp only [snapshotOf?, Option.bind_eq_bind, Option.bind_eq_some_iff, Option.guard_eq_some',
    exists_const, Option.some.injEq, toOption_eq_some, Option.pure_def]
  constructor
  . intro h
    obtain ⟨digits, hdigits, info, hinfo, owned, howned, hsid, ⟨hvol, hrole, hgen, hsnap⟩, rfl⟩ := h
    exact ⟨rfl, digits, owned, hdigits, hinfo, howned, hsid, hvol, hrole, hgen, hsnap, rfl⟩
  . intro h
    obtain ⟨rfl, digits, owned, hdigits, hinfo, howned, hsid, hvol, hrole, hgen, hsnap, hvalue⟩ := h
    exact ⟨digits, hdigits, hit.info, hinfo, owned, howned, hsid, ⟨hvol, hrole, hgen, hsnap⟩,
      by rw [← hvalue]⟩

theorem findSnapshot_eq_ok {hit : Snapshot} (h : findSnapshot storage volname snap lvs = .ok hit) :
    ∃ key digits owned, SnapshotRead storage volname snap lvs hit key digits owned := by
  simp only [findSnapshot, bind_eq_ok] at h
  obtain ⟨snap', hsnap', space, hspace, key, hkey, h⟩ := h
  have hsnap : snap' = snap := by
    simp only [snapshotName, bind_eq_ok, dieIf_eq_ok, pure_eq_ok, exists_const] at hsnap'
    exact hsnap'.2.2.symm
  subst hsnap
  split at h
  . rename_i found hits
    obtain rfl := Except.ok.inj h
    have hmem : found ∈ (generationsOf key lvs).filterMap
        (snapshotOf? storage volname snap' key lvs) := by
      rw [hits]
      simp
    obtain ⟨name, -, hname⟩ := List.mem_filterMap.mp hmem
    obtain ⟨-, digits, owned, hdigits, hinfo, howned, hsid, hvol, hrole, hgen, hsnap, hvalue⟩ :=
      snapshotOf?_eq_some.mp hname
    exact ⟨key, digits, owned, ⟨⟨space, hspace, hkey⟩, hdigits, hinfo, howned, hsid, hvol, hrole,
      hgen, hsnap, hvalue⟩⟩
  . cases h

theorem findSnapshot_of_hits {space : String} {hit : Snapshot}
    (hsnap : snapshotName (some snap) = .ok snap) (hspace : thickNamespace storage = .ok space)
    (hkey : objectKey space volname = .ok key)
    (hhits : (generationsOf key lvs).filterMap (snapshotOf? storage volname snap key lvs) = [hit]) :
    findSnapshot storage volname snap lvs = .ok hit := by
  simp only [findSnapshot, hsnap, hspace, hkey, bind, Except.bind, hhits]
  rfl

end SharedLvmThin.ThickVolume
