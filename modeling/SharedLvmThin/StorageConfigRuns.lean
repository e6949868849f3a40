import SharedLvmThin.Runs
import SharedLvmThin.StorageConfig

/-!
# Accepted configuration changes

A candidate that a hook accepts is compatible with every other committed storage; the law
between two storages is kept by overlaying such a candidate. Every configuration that
accepted requests lead to keeps Thin and Thick apart.
-/

namespace SharedLvmThin.StorageConfig
open Perl KeyedLists Runs

/-! ## Requests -/

inductive Request
  | add (storeid : String) (scfg : Scfg)
  | update (storeid : String) (update : Update) (delete : List Property)
      (sensitive : List (String × Value))
  -- a change that the hooks never see: it neither adds nor alters a storage of this plugin
  | other (after : Config)

def Explicit (scfg : Scfg) : Prop := (scfg .allocationMode).isDefined = true

/-- A request served on some node under the configuration lock. The candidate satisfies the
property schema and is committed as the hook saw it. -/
inductive Step (cfg : Config) : Node × Request → Config → Prop
  | add {node : Node} {storeid : String} {scfg : Scfg} (hcfg : node.config = some cfg)
      (htype : isSharedLvmThin scfg = true) (hschema : SchemaValid scfg) (hmode : Explicit scfg)
      (haccept : onAddHook node storeid scfg = .ok ()) :
      Step cfg (node, .add storeid scfg) (cfg.insert storeid scfg)
  | update {node : Node} {storeid : String} {scfg : Scfg} {update : Update}
      {delete : List Property} {sensitive : List (String × Value)}
      (hcfg : node.config = some cfg) (hold : cfg.Has storeid scfg)
      (hschema : SchemaValid (candidate scfg update delete))
      (hmode : Explicit (candidate scfg update delete))
      (haccept : onUpdateHookFull node storeid scfg update delete sensitive = .ok ()) :
      Step cfg (node, .update storeid update delete sensitive)
        (cfg.insert storeid (candidate scfg update delete))
  | other {node : Node} {after : Config}
      (hkept : ∀ storeid scfg, after.Has storeid scfg → cfg.Has storeid scfg) :
      Step cfg (node, .other after) after

/-! ## The law between two storages -/

theorem Agree.symm {a b : Scfg} (h : Agree a b) : Agree b a := by
  refine ⟨h.pvUuid.symm, h.wwid.symm, h.reservePercent.symm, h.reserveGib.symm, ?_, ?_⟩
  . intro p hp
    exact (h.settings p hp).symm
  . obtain ⟨scope, ha, hb⟩ := h.nodeScope
    exact ⟨scope, hb, ha⟩

theorem Compatible.symm {a b : Scfg} (h : Compatible a b) : Compatible b a := by
  constructor
  . intro hvg
    exact (h.modes hvg.symm).symm
  . intro u v hu hv huv
    obtain ⟨heq, hvg⟩ := h.uuids v u hv hu huv.symm
    exact ⟨heq.symm, hvg.symm⟩
  . intro hvg ha hb
    obtain ⟨hmodes, hagree⟩ := h.aliases hvg.symm hb ha
    exact ⟨hmodes.symm, hagree.symm⟩

/-- What the configuration keeps: explicit modes within the schema, and the law. -/
structure Config.Sound (cfg : Config) : Prop where
  schema : ∀ storeid scfg, cfg.Has storeid scfg → SchemaValid scfg
  explicit : ∀ storeid scfg, cfg.Has storeid scfg → Explicit scfg
  separated : Separated cfg

/-- A candidate compatible with every other storage can be laid over the configuration. -/
theorem Config.Sound.insert {cfg : Config} (h : cfg.Sound) {storeid : String} {scfg : Scfg}
    (hschema : SchemaValid scfg) (hmode : Explicit scfg)
    (hothers : ∀ id b, cfg.Has id b → id ≠ storeid → Compatible scfg b) :
    Config.Sound (cfg.insert storeid scfg) := by
  have hcases : ∀ id b, Config.Has (cfg.insert storeid scfg) id b →
      (id = storeid ∧ b = scfg) ∨ (id ≠ storeid ∧ cfg.Has id b) := by
    intro id b hb
    by_cases hid : id = storeid
    . subst hid
      have hlookup := hb.1
      rw [AList.lookup_insert] at hlookup
      exact Or.inl ⟨rfl, (Option.some.inj hlookup).symm⟩
    . have hlookup := hb.1
      rw [AList.lookup_insert_ne hid] at hlookup
      exact Or.inr ⟨hid, hlookup, hb.2⟩
  constructor
  . intro id b hb
    rcases hcases id b hb with ⟨-, rfl⟩ | ⟨-, hb⟩
    . exact hschema
    . exact h.schema id b hb
  . intro id b hb
    rcases hcases id b hb with ⟨-, rfl⟩ | ⟨-, hb⟩
    . exact hmode
    . exact h.explicit id b hb
  . intro id id' a b ha hb hne
    rcases hcases id a ha with ⟨rfl, rfl⟩ | ⟨hid, hcfg⟩
    . rcases hcases id' b hb with ⟨rfl, -⟩ | ⟨hid', hcfg'⟩
      . exact (hne rfl).elim
      . exact hothers id' b hcfg' hid'
    . rcases hcases id' b hb with ⟨-, rfl⟩ | ⟨-, hcfg'⟩
      . exact (hothers id a hcfg hid).symm
      . exact h.separated id id' a b hcfg hcfg' hne

/-! ## Reading the configuration -/

theorem Config.mem_sorted {cfg : Config} {entry : String × Scfg} :
    entry ∈ cfg.sorted ↔ cfg.lookup entry.1 = some entry.2 := by
  rw [← Option.mem_def, AList.mem_lookup_iff]
  simp only [Config.sorted, mem_sortBy, List.mem_map]
  constructor
  . intro h
    obtain ⟨e, he, rfl⟩ := h
    exact he
  . intro h
    exact ⟨_, h, rfl⟩

theorem Config.sorted_ids_nodup (cfg : Config) : (cfg.sorted.map Prod.fst).Nodup := by
  rw [Config.sorted, nodup_map_sortBy, List.map_map]
  exact cfg.nodupKeys

theorem mem_of_has {cfg : Config} {storeid : String} {scfg : Scfg} (h : cfg.Has storeid scfg) :
    (storeid, scfg) ∈ cfg.sorted := Config.mem_sorted.mpr h.1

theorem modeOf_of_explicit {scfg : Scfg} (hschema : SchemaValid scfg) (hmode : Explicit scfg) :
    ∃ m, modeOf scfg = some m ∧ (scfg .allocationMode).text = m.text := by
  have h := hschema .allocationMode hmode
  simp only [Property.kind, Kind.accepts, decide_eq_true_eq] at h
  simp only [modeOf]
  generalize (scfg .allocationMode).text = s at h
  fin_cases h
  . exact ⟨.thin, rfl, rfl⟩
  . exact ⟨.thickGenerations, rfl, rfl⟩
  . exact ⟨.thickGenerationsLazy, rfl, rfl⟩

theorem requestedMode_of_explicit {scfg : Scfg} (hmode : Explicit scfg) (node : Node) :
    node.requestedMode scfg = .ok (scfg .allocationMode).text := by
  have hmode : (scfg .allocationMode).isDefined = true := hmode
  rw [Node.requestedMode, if_pos hmode]

theorem modeOf_of_allocationMode {flavor : Except String Flavor} {scfg : Scfg}
    {m : AllocationMode} (h : allocationMode flavor scfg = .ok m) (hmode : Explicit scfg) :
    modeOf scfg = some m := by
  have hmode : (scfg .allocationMode).isDefined = true := hmode
  simp only [allocationMode, bind_eq_ok, orDefault, hmode, if_true] at h
  obtain ⟨f, -, h⟩ := h
  rw [modeOf]
  split at h
  . cases h
  . rename_i m' hm
    simp only [bind_unit_eq_ok, pure_eq_ok] at h
    rw [hm, h.2]

theorem isThick_iff {scfg : Scfg} {m : AllocationMode} (hm : modeOf scfg = some m) :
    IsThick scfg ↔ m.isThick = true := by
  constructor
  . intro h
    obtain ⟨m', hm', hthick⟩ := h
    rw [hm] at hm'
    cases hm'
    exact hthick
  . intro h
    exact ⟨m, hm, h⟩

/-! ## Aliases of one volume group -/

theorem differ_eq_false {texts : List String} (h : differ texts = false) {s t : String}
    (hs : s ∈ texts) (ht : t ∈ texts) : s = t := by
  simp only [differ, ne_eq, decide_not, Bool.not_eq_false', decide_eq_true_eq] at h
  obtain ⟨u, hu⟩ := List.length_eq_one_iff.mp h
  have hs := List.mem_dedup.mpr hs
  have ht := List.mem_dedup.mpr ht
  rw [hu, List.mem_singleton] at hs ht
  rw [hs, ht]

theorem readAlias_seen {flavor : Except String Flavor} {vg : String} (seen : List AllocationMode)
    (entry : String × Scfg) (a : Alias) : readAlias flavor vg seen entry = .ok a ↔
      readAlias flavor vg [] entry = .ok a ∧ ∀ m ∈ seen, m ≠ a.mode := by
  simp only [readAlias, bind_eq_ok, pure_eq_ok, dieIf_eq_ok, List.not_mem_nil, decide_false,
    decide_eq_false_iff_not]
  constructor
  . intro h
    obtain ⟨u, hshared, m, hm, layout, hlayout, v, hseen, w, hfields, scope, hscope, rfl⟩ := h
    refine ⟨⟨u, hshared, m, hm, layout, hlayout, v, trivial, w, hfields, scope, hscope, rfl⟩, ?_⟩
    intro k hk hkm
    exact hseen ((show k = m from hkm) ▸ hk)
  . intro h
    obtain ⟨⟨u, hshared, m, hm, layout, hlayout, v, -, w, hfields, scope, hscope, rfl⟩, hseen⟩ := h
    exact ⟨u, hshared, m, hm, layout, hlayout, v, fun hk => hseen m hk rfl, w, hfields, scope,
      hscope, rfl⟩

/-- What an alias record says of the storage it was read from. -/
structure Alias.Reads (flavor : Except String Flavor) (entry : String × Scfg) (a : Alias) :
    Prop where
  scfg : a.scfg = entry.2
  mode : allocationMode flavor entry.2 = .ok a.mode
  nodeScope : canonicalNodeScope (entry.2 .nodes) = .ok a.nodeScope

theorem reads_of_readAlias {flavor : Except String Flavor} {vg : String}
    {entry : String × Scfg} {a : Alias} (h : readAlias flavor vg [] entry = .ok a) :
    a.Reads flavor entry := by
  simp only [readAlias, bind_eq_ok, pure_eq_ok] at h
  obtain ⟨-, -, m, hm, layout, -, -, -, -, -, scope, hscope, rfl⟩ := h
  exact ⟨rfl, hm, hscope⟩

/-- Two storages of a checked group of two come with records of different modes. -/
theorem exists_aliases {flavor : Except String Flavor} {vg : String}
    {entries : List (String × Scfg)} {group : List Alias}
    (hgroup : mapSeen Alias.mode (readAlias flavor vg) [] entries = .ok group)
    (hlen : entries.length ≤ 2) {e e' : String × Scfg} (he : e ∈ entries) (he' : e' ∈ entries)
    (hne : e ≠ e') : ∃ a ∈ group, ∃ b ∈ group, a.Reads flavor e ∧ b.Reads flavor e' ∧
      a.mode ≠ b.mode := by
  rw [mapSeen_eq_ok (R := fun m m' => m ≠ m') readAlias_seen] at hgroup
  obtain ⟨hall, hpair, -⟩ := hgroup
  match entries, hall with
  | [x], .cons hx .nil =>
    simp only [List.mem_singleton] at he he'
    exact (hne (he.trans he'.symm)).elim
  | [x, y], .cons (b := a) hx (.cons (b := b) hy .nil) =>
    simp only [List.map_cons, List.map_nil, List.pairwise_cons, List.mem_singleton,
      forall_eq] at hpair
    have ha := reads_of_readAlias hx
    have hb := reads_of_readAlias hy
    simp only [List.mem_cons, List.not_mem_nil, or_false] at he he'
    rcases he with rfl | rfl
    . rcases he' with rfl | rfl
      . exact (hne rfl).elim
      . exact ⟨a, by simp, b, by simp, ha, hb, hpair.1⟩
    . rcases he' with rfl | rfl
      . exact ⟨b, by simp, a, by simp, hb, ha, hpair.1.symm⟩
      . exact (hne rfl).elim
  | _ :: _ :: _ :: _, _ =>
    simp only [List.length_cons] at hlen
    omega

/-- What a checked group has in common. -/
structure Common (a b : Alias) : Prop where
  modes : ¬ (a.mode = .thin ∧ b.mode.isThick = true)
  identities : ∀ p ∈ [Property.expectedPvUuid, .expectedVgUuid, .expectedWwid],
    identityKey p a.scfg = identityKey p b.scfg
  settings : ∀ s ∈ sharedSettings, s.1 a.scfg = s.1 b.scfg
  nodeScope : a.nodeScope = b.nodeScope

theorem common_of_checkGroup {vg : String} {group : List Alias} (h : checkGroup vg group = .ok ())
    {a b : Alias} (ha : a ∈ group) (hb : b ∈ group) : Common a b := by
  simp only [checkGroup, bind_unit_eq_ok, dieIf_eq_ok, checkIdentities, checkSettings,
    forEach_eq_ok] at h
  obtain ⟨-, hmixed, -, hidentities, hsettings, h⟩ := h
  have hscope : differ (group.map Alias.nodeScope) = false := by
    split at h
    . rw [bind_unit_eq_ok, dieIf_eq_ok] at h
      exact h.2
    . simpa using h
  constructor
  . intro hmode
    apply of_decide_eq_false hmixed
    refine ⟨List.mem_map.mpr ⟨a, ha, hmode.1⟩, ?_⟩
    cases hm : b.mode with
    | thin => simp [hm, AllocationMode.isThick] at hmode
    | thickGenerations => exact Or.inl (List.mem_map.mpr ⟨b, hb, hm⟩)
    | thickGenerationsLazy => exact Or.inr (List.mem_map.mpr ⟨b, hb, hm⟩)
  . intro p hp
    exact differ_eq_false (hidentities p hp) (List.mem_map_of_mem ha) (List.mem_map_of_mem hb)
  . intro s hs
    exact differ_eq_false (hsettings s hs) (List.mem_map.mpr ⟨a, ha, rfl⟩)
      (List.mem_map.mpr ⟨b, hb, rfl⟩)
  . exact differ_eq_false hscope (List.mem_map_of_mem ha) (List.mem_map_of_mem hb)

/-! ## Reserve keys -/

theorem integer_no_bar {s : String} {minimum maximum : Nat}
    (h : (Kind.integer minimum maximum).accepts s = true) : '|' ∉ s.toList := by
  have hdigits : ∀ digits, (digitsValue digits).isSome = true → '|' ∉ digits := by
    intro digits hd hbar
    simp only [digitsValue] at hd
    split_ifs at hd with hall
    . simp only [Bool.and_eq_true, List.all_eq_true] at hall
      exact absurd (hall.2 _ hbar) (by decide)
    . simp at hd
  intro hbar
  have hbody : '|' ∈ (body s).toList := by
    rw [body]
    split_ifs with hlast
    . obtain ⟨init, hs⟩ := List.getLast?_eq_some_iff.mp hlast
      rw [hs, List.mem_append, List.mem_singleton] at hbar
      simpa [hs] using hbar.resolve_right (by decide)
    . exact hbar
  simp only [Kind.accepts, Option.any_eq_true] at h
  obtain ⟨n, hn, -⟩ := h
  simp only [integerValue] at hn
  split at hn
  . rename_i digits hs
    rw [hs] at hbody
    exact hdigits digits (by simp [hn]) (by simpa using hbody)
  . rename_i digits hs
    rw [hs] at hbody
    obtain ⟨k, hk, -⟩ := Option.map_eq_some_iff.mp hn
    exact hdigits digits (by simp [hk]) (by simpa using hbody)
  . exact hdigits _ (by simp [hn]) hbody

theorem integer_text_no_bar {scfg : Scfg} (h : SchemaValid scfg) {p : Property}
    {minimum maximum : Nat} (hp : p.kind = .integer minimum maximum) :
    '|' ∉ (scfg p).text.toList := by
  by_cases hd : (scfg p).isDefined = true
  . have := h p hd
    rw [hp] at this
    exact integer_no_bar this
  . cases hv : scfg p with
    | undef => simp [Value.text]
    | _ => simp [hv, Value.isDefined] at hd

/-- The joined reserve settings determine both of them. -/
theorem reserveKey_injective {a b : Scfg} (ha : SchemaValid a) (h : reserveKey a = reserveKey b) :
    (a .reservePercent).text = (b .reservePercent).text ∧
      (a .reserveGib).text = (b .reserveGib).text := by
  have hpercent : '|' ∉ (a .reservePercent).text.toList := integer_text_no_bar ha rfl
  have hgib : '|' ∉ (a .reserveGib).text.toList := integer_text_no_bar ha rfl
  have hsep : "|".toList = ['|'] := rfl
  rw [← String.toList_inj] at h
  simp only [reserveKey, String.toList_append, List.append_assoc, hsep, List.singleton_append] at h
  obtain ⟨hl, -, hr⟩ := (List.append_cons_inj_of_notMem hpercent hgib).mp h
  exact ⟨String.toList_inj.mp hl, String.toList_inj.mp hr⟩

/-! ## Accepted candidates -/

theorem uuids_of_reject {storeid : String} {scfg : Scfg} {cfg : Config}
    (h : rejectConflictingVgUuidNames storeid scfg cfg = .ok ()) {id : String} {b : Scfg}
    (hb : cfg.Has id b) (hid : id ≠ storeid) : ∀ u v, pinnedUuid scfg = some u →
      pinnedUuid b = some v → lc u = lc v → u = v ∧ (scfg .vgname).text = (b .vgname).text := by
  intro u v hu hv huv
  simp only [rejectConflictingVgUuidNames, hu, bind_unit_eq_ok, forEach_eq_ok] at h
  have hentry := h.2 (id, b) (mem_of_has hb)
  simp only [hv, dieIf_eq_ok] at hentry
  simp only [hid, hb.2, huv, ne_eq, not_false_eq_true, decide_true, Bool.and_true, Bool.true_and,
    Bool.or_eq_false_iff, decide_eq_false_iff_not, not_not] at hentry
  exact ⟨hentry.1.1.1, hentry.2.symm⟩

theorem mem_group {cfg : Config} {storeid : String} {scfg : Scfg} (h : cfg.Has storeid scfg) :
    (storeid, scfg) ∈ cfg.sorted.filter (isAliasOf (scfg .vgname).text) := by
  rw [List.mem_filter]
  exact ⟨mem_of_has h, by simp [isAliasOf, h.2]⟩

/-- The group check of a Thick candidate settles both laws of a shared volume group. -/
theorem aliases_of_verify {flavor : Except String Flavor} {storeid id : String} {scfg b : Scfg}
    {cfg : Config} (h : verifySameVgAliasConfiguration flavor storeid scfg cfg = .ok ())
    (ha : cfg.Has storeid scfg) (hb : cfg.Has id b) (hid : id ≠ storeid)
    (hvg : (scfg .vgname).text = (b .vgname).text) : ∃ x y : Alias, x.Reads flavor (storeid, scfg) ∧
      y.Reads flavor (id, b) ∧ x.mode ≠ y.mode ∧ Common y x := by
  have hmem := mem_group ha
  have hmem' := mem_group hb
  rw [← hvg] at hmem'
  have hne : (storeid, scfg) ≠ (id, b) := fun he => hid (congrArg Prod.fst he).symm
  simp only [verifySameVgAliasConfiguration, bind_unit_eq_ok] at h
  obtain ⟨-, -, -, h⟩ := h
  rw [bind_eq_ok] at h
  obtain ⟨layout, -, h⟩ := h
  set aliases := cfg.sorted.filter (isAliasOf (scfg .vgname).text) with haliases
  split at h
  . rename_i hlen
    match aliases, hmem, hmem', hlen with
    | [e], hm, hm', _ =>
      rw [List.mem_singleton] at hm hm'
      exact (hne (hm.trans hm'.symm)).elim
  . rw [bind_unit_eq_ok, dieIf_eq_ok, bind_eq_ok] at h
    obtain ⟨hlen, group, hgroup, hcheck⟩ := h
    have hlen : aliases.length ≤ 2 := by simpa using hlen
    obtain ⟨x, hx, y, hy, hreads, hreads', hmodes⟩ := exists_aliases hgroup hlen hmem hmem' hne
    exact ⟨x, y, hreads, hreads', hmodes, common_of_checkGroup hcheck hy hx⟩

theorem agree_of_common {flavor : Except String Flavor} {e e' : String × Scfg} {x y : Alias}
    (h : Common x y) (hx : x.Reads flavor e) (hy : y.Reads flavor e') (hschema : SchemaValid e.2) :
    Agree e.2 e'.2 := by
  have hidentities := h.identities
  have hsettings := h.settings
  rw [hx.scfg, hy.scfg] at hidentities hsettings
  obtain ⟨hpercent, hgib⟩ :=
    reserveKey_injective hschema (hsettings (reserveKey, _) (List.mem_cons_self ..))
  constructor
  . exact hidentities .expectedPvUuid (by simp)
  . exact hidentities .expectedWwid (by simp)
  . exact hpercent
  . exact hgib
  . intro p hp
    have hshared : setting p ∈ sharedSettings.map Prod.fst := by
      have hlist : sharedSettings.map Prod.fst = reserveKey :: agreedSettings.map setting := rfl
      rw [hlist]
      exact List.mem_cons_of_mem _ (List.mem_map_of_mem hp)
    obtain ⟨s, hs, hsp⟩ := List.mem_map.mp hshared
    rw [← hsp]
    exact hsettings s hs
  . exact ⟨x.nodeScope, hx.nodeScope, by rw [h.nodeScope, hy.nodeScope]⟩

theorem Config.Has.insert {cfg : Config} {id storeid : String} {b : Scfg} (hb : cfg.Has id b)
    (hid : id ≠ storeid) (scfg : Scfg) : Config.Has (cfg.insert storeid scfg) id b := by
  refine ⟨?_, hb.2⟩
  rw [AList.lookup_insert_ne hid]
  exact hb.1

theorem compatible_of_thick {flavor : Except String Flavor} {storeid : String} {scfg : Scfg}
    {cfg : Config} (hsound : cfg.Sound) (htype : isSharedLvmThin scfg = true)
    (hmode : Explicit scfg) (hthick : IsThick scfg)
    (hreject : rejectConflictingVgUuidNames storeid scfg cfg = .ok ())
    (hverify : verifySameVgAliasConfiguration flavor storeid scfg (cfg.insert storeid scfg) =
        .ok ())
    {id : String} {b : Scfg} (hb : cfg.Has id b) (hid : id ≠ storeid) : Compatible scfg b := by
  have hpair : (scfg .vgname).text = (b .vgname).text → ∃ x y : Alias,
      x.Reads flavor (storeid, scfg) ∧ y.Reads flavor (id, b) ∧ x.mode ≠ y.mode ∧ Common y x :=
    aliases_of_verify hverify ⟨AList.lookup_insert cfg, htype⟩ (hb.insert hid scfg) hid
  have hexplicit := hsound.explicit id b hb
  obtain ⟨m, hm, hmthick⟩ := hthick
  constructor
  . intro hvg
    obtain ⟨x, y, hx, hy, -, hcommon⟩ := hpair hvg
    have hxm : m = x.mode :=
      Option.some.inj (hm.symm.trans (modeOf_of_allocationMode hx.mode hmode))
    constructor
    . intro h
      rw [hm, Option.some.injEq] at h
      simp [h.1, AllocationMode.isThick] at hmthick
    . intro h
      have hym := modeOf_of_allocationMode hy.mode hexplicit
      rw [h.1, Option.some.injEq] at hym
      exact hcommon.modes ⟨hym.symm, hxm ▸ hmthick⟩
  . exact uuids_of_reject hreject hb hid
  . intro hvg _ hbthick
    obtain ⟨x, y, hx, hy, hne, hcommon⟩ := hpair hvg
    have hxm := modeOf_of_allocationMode hx.mode hmode
    have hym := modeOf_of_allocationMode hy.mode hexplicit
    have hxthick := (isThick_iff hxm).mp ⟨m, hm, hmthick⟩
    have hythick := (isThick_iff hym).mp hbthick
    refine ⟨?_, (agree_of_common hcommon hy hx (hsound.schema id b hb)).symm⟩
    cases hxc : x.mode with
    | thin => simp [hxc, AllocationMode.isThick] at hxthick
    | thickGenerations =>
      cases hyc : y.mode with
      | thin => simp [hyc, AllocationMode.isThick] at hythick
      | thickGenerations => exact (hne (hxc.trans hyc.symm)).elim
      | thickGenerationsLazy => exact Or.inl ⟨hxc ▸ hxm, hyc ▸ hym⟩
    | thickGenerationsLazy =>
      cases hyc : y.mode with
      | thin => simp [hyc, AllocationMode.isThick] at hythick
      | thickGenerations => exact Or.inr ⟨hyc ▸ hym, hxc ▸ hxm⟩
      | thickGenerationsLazy => exact (hne (hxc.trans hyc.symm)).elim

theorem not_isThick_of_thin {scfg : Scfg} (h : (scfg .allocationMode).text = "thin") :
    ¬ IsThick scfg := by
  intro hthick
  obtain ⟨m, hm, hmthick⟩ := hthick
  rw [modeOf, h, show AllocationMode.ofText? "thin" = some .thin from rfl, Option.some.injEq] at hm
  simp [← hm, AllocationMode.isThick] at hmthick

/-- A Thin candidate meets no Thick storage on its volume group. -/
theorem compatible_of_thin {storeid id : String} {scfg b : Scfg} {cfg : Config}
    (hthin : (scfg .allocationMode).text = "thin")
    (hreject : rejectConflictingVgUuidNames storeid scfg cfg = .ok ()) (hb : cfg.Has id b)
    (hid : id ≠ storeid)
    (hvg : (scfg .vgname).text = (b .vgname).text → (b .allocationMode).text = "thin") :
    Compatible scfg b := by
  have hnot := not_isThick_of_thin hthin
  constructor
  . intro h
    constructor
    . exact fun hmixed => not_isThick_of_thin (hvg h) hmixed.2
    . exact fun hmixed => hnot hmixed.2
  . exact uuids_of_reject hreject hb hid
  . exact fun _ h => (hnot h).elim

theorem isThick_of_text {scfg : Scfg} (h : isThickText (scfg .allocationMode).text = true) :
    IsThick scfg := by
  simp only [isThickText, Bool.or_eq_true, decide_eq_true_eq] at h
  rcases h with h | h
  . exact ⟨.thickGenerations, by rw [modeOf, h]; rfl, rfl⟩
  . exact ⟨.thickGenerationsLazy, by rw [modeOf, h]; rfl, rfl⟩

theorem thin_of_text {scfg : Scfg} (hschema : SchemaValid scfg) (hmode : Explicit scfg)
    (h : isThickText (scfg .allocationMode).text = false) :
    (scfg .allocationMode).text = "thin" := by
  obtain ⟨m, -, hm⟩ := modeOf_of_explicit hschema hmode
  rw [hm] at h ⊢
  cases m with
  | thin => rfl
  | thickGenerations => exact absurd h (by decide)
  | thickGenerationsLazy => exact absurd h (by decide)

theorem committed_eq {node : Node} {cfg : Config} (h : node.config = some cfg) :
    node.committed = .ok cfg := by
  rw [Node.committed, h]

theorem onAddHook_compatible {node : Node} {cfg : Config} {storeid : String} {scfg : Scfg}
    (hcfg : node.config = some cfg) (hsound : cfg.Sound) (htype : isSharedLvmThin scfg = true)
    (hschema : SchemaValid scfg) (hmode : Explicit scfg)
    (h : onAddHook node storeid scfg = .ok ()) {id : String} {b : Scfg} (hb : cfg.Has id b)
    (hid : id ≠ storeid) : Compatible scfg b := by
  rw [onAddHook, bind_unit_eq_ok, checkAddition, requestedMode_of_explicit hmode, bind_eq_ok,
    committed_eq hcfg] at h
  obtain ⟨⟨mode, hok, h⟩, -⟩ := h
  cases hok
  cases hthick : isThickText (scfg .allocationMode).text with
  | true =>
    rw [hthick, if_pos rfl, bind_unit_eq_ok, bind_unit_eq_ok, bind_eq_ok] at h
    obtain ⟨-, -, current, hok, h⟩ := h
    cases hok
    rw [bind_unit_eq_ok, bind_unit_eq_ok] at h
    exact compatible_of_thick hsound htype hmode (isThick_of_text hthick) h.2.1 h.2.2 hb hid
  | false =>
    have hthin := thin_of_text hschema hmode hthick
    rw [hthick, if_neg (by simp), if_pos hthin, bind_unit_eq_ok, bind_eq_ok] at h
    obtain ⟨-, current, hok, h⟩ := h
    cases hok
    rw [bind_unit_eq_ok, forEach_eq_ok] at h
    refine compatible_of_thin hthin h.1 hb hid ?_
    intro hvg
    have hentry := h.2 _ (mem_of_has hb)
    simp only [checkAddedNeighbour, hb.2, if_true, bind_unit_eq_ok, dieIf_eq_ok, hvg] at hentry
    simpa using hentry.2.2.2.2

theorem candidate_of_disableOnly {scfg : Scfg} {update : Update} {delete : List Property}
    {sensitive : List (String × Value)} (h : disableOnly update delete sensitive = true)
    {p : Property} (htype : p ≠ .type) (hdisable : p ≠ .disable) :
    candidate scfg update delete p = scfg p := by
  simp only [disableOnly, Bool.and_eq_true, decide_eq_true_eq, List.isEmpty_iff] at h
  obtain ⟨⟨⟨⟨hkeys, -⟩, -⟩, rfl⟩, -⟩ := h
  have hnot : p ∉ update.keys := by
    intro hp
    have hmem : p ∈ update.keys.filter (· ≠ .type) := by simpa [htype] using hp
    rw [hkeys, List.mem_singleton] at hmem
    exact hdisable hmem
  have hnone : update.lookup p = none := by rwa [AList.lookup_eq_none, AList.mem_keys]
  simp [candidate, hnone]

/-- The law reads neither the type nor the disabled flag. -/
theorem Compatible.congr {a a' b : Scfg} (h : Compatible a b)
    (heq : ∀ p, p ≠ .type → p ≠ .disable → a' p = a p) : Compatible a' b := by
  have hmode : modeOf a' = modeOf a := by
    rw [modeOf, modeOf, heq .allocationMode (by decide) (by decide)]
  have hthick : IsThick a' ↔ IsThick a := by rw [IsThick, IsThick, hmode]
  have hvg : a' .vgname = a .vgname := heq .vgname (by decide) (by decide)
  have huuid : pinnedUuid a' = pinnedUuid a := by
    rw [pinnedUuid, pinnedUuid, heq .expectedVgUuid (by decide) (by decide)]
  constructor
  . rw [hmode, hthick, hvg]
    exact h.modes
  . rw [huuid, hvg]
    exact h.uuids
  . rw [hthick, hvg]
    intro hsame ha hb
    obtain ⟨hmodes, hagree⟩ := h.aliases hsame ha hb
    refine ⟨by rwa [EagerAndLazy, EagerAndLazy, hmode], ?_⟩
    constructor
    . rw [heq .expectedPvUuid (by decide) (by decide)]
      exact hagree.pvUuid
    . rw [heq .expectedWwid (by decide) (by decide)]
      exact hagree.wwid
    . rw [heq .reservePercent (by decide) (by decide)]
      exact hagree.reservePercent
    . rw [heq .reserveGib (by decide) (by decide)]
      exact hagree.reserveGib
    . intro p hp
      have hne : p ≠ .type ∧ p ≠ .disable := by fin_cases hp <;> decide
      rw [setting, heq p hne.1 hne.2]
      exact hagree.settings p hp
    . rw [heq .nodes (by decide) (by decide)]
      exact hagree.nodeScope

theorem onUpdateHookFull_compatible {node : Node} {cfg : Config} {storeid : String}
    {scfg : Scfg} {update : Update} {delete : List Property} {sensitive : List (String × Value)}
    (hcfg : node.config = some cfg) (hsound : cfg.Sound) (hold : cfg.Has storeid scfg)
    (hschema : SchemaValid (candidate scfg update delete))
    (hmode : Explicit (candidate scfg update delete))
    (h : onUpdateHookFull node storeid scfg update delete sensitive = .ok ()) {id : String}
    {b : Scfg} (hb : cfg.Has id b) (hid : id ≠ storeid) :
    Compatible (candidate scfg update delete) b := by
  cases hdisable : disableOnly update delete sensitive with
  | true =>
    have hlaw := hsound.separated storeid id scfg b hold hb hid.symm
    exact hlaw.congr fun p htype hp => candidate_of_disableOnly hdisable htype hp
  | false =>
    rw [onUpdateHookFull, hdisable, if_neg (by simp), bind_unit_eq_ok, checkUpdate,
      committed_eq hcfg, bind_eq_ok] at h
    obtain ⟨⟨current, hok, h⟩, -⟩ := h
    cases hok
    rw [bind_unit_eq_ok, bind_unit_eq_ok, dieIf_eq_ok, dieIf_eq_ok,
      requestedMode_of_explicit hmode, bind_eq_ok] at h
    obtain ⟨-, htype, mode, hok, h⟩ := h
    cases hok
    rw [bind_unit_eq_ok] at h
    obtain ⟨hreject, h⟩ := h
    cases hthick : isThickText (candidate scfg update delete .allocationMode).text with
    | true =>
      rw [hthick, if_pos rfl, bind_unit_eq_ok] at h
      exact compatible_of_thick hsound (by simpa using htype) hmode (isThick_of_text hthick)
        hreject h.2 hb hid
    | false =>
      have hthin := thin_of_text hschema hmode hthick
      rw [hthick, if_neg (by simp), if_pos hthin, bind_unit_eq_ok, forEach_eq_ok] at h
      refine compatible_of_thin hthin hreject hb hid ?_
      intro hvg
      have hentry := h.2 _ (mem_of_has hb)
      simp only [checkUpdatedNeighbour, hb.2, hid, hvg, decide_false, Bool.not_true, Bool.or_self,
        Bool.false_eq_true, if_false, if_true, bind_unit_eq_ok, dieIf_eq_ok] at hentry
      simpa using hentry.2

/-! ## Runs -/

theorem sound_of_step {cfg after : Config} {call : Node × Request} (h : Step cfg call after)
    (hsound : cfg.Sound) : after.Sound := by
  cases h with
  | add hcfg htype hschema hmode haccept =>
    apply hsound.insert hschema hmode
    intro id b hb hid
    exact onAddHook_compatible hcfg hsound htype hschema hmode haccept hb hid
  | update hcfg hold hschema hmode haccept =>
    apply hsound.insert hschema hmode
    intro id b hb hid
    exact onUpdateHookFull_compatible hcfg hsound hold hschema hmode haccept hb hid
  | other hkept =>
    constructor
    . exact fun id b hb => hsound.schema id b (hkept id b hb)
    . exact fun id b hb => hsound.explicit id b (hkept id b hb)
    . exact fun id id' a b ha hb hne =>
        hsound.separated id id' a b (hkept id a ha) (hkept id' b hb) hne

theorem sound_of_empty {cfg : Config} (h : ∀ storeid scfg, ¬ cfg.Has storeid scfg) : cfg.Sound := by
  constructor
  . exact fun id b hb => (h id b hb).elim
  . exact fun id b hb => (h id b hb).elim
  . exact fun id _ a _ ha => (h id a ha).elim

/-- Every configuration committed from one without storages of this plugin is separated. -/
theorem committed_separated {σ : ℕ → Config} {call : ℕ → Node × Request} {n : ℕ}
    (hrun : IsTrace Step σ call n) (hempty : ∀ storeid scfg, ¬ (σ 0).Has storeid scfg) :
    ∀ i ≤ n, Separated (σ i) := by
  have hsound := hrun.invariant_from (i := 0) (P := Config.Sound) (sound_of_empty hempty)
    fun cfg call after hstep h => sound_of_step hstep h
  intro i hi
  exact (hsound i (Nat.zero_le i) hi).separated

/-! ## Two aliases of one volume group -/

def Scfg.ofList (fields : List (Property × Value)) : Scfg := fun p =>
  (fields.lookup p).getD .undef

theorem schemaValid_ofList {fields : List (Property × Value)}
    (h : ∀ field ∈ fields, field.1.kind.accepts field.2.text = true) :
    SchemaValid (Scfg.ofList fields) := by
  intro p hp
  simp only [Scfg.ofList] at hp ⊢
  cases hlookup : fields.lookup p with
  | none => simp [hlookup, Value.isDefined] at hp
  | some v =>
    obtain ⟨l, r, rfl, -⟩ := List.lookup_eq_some_iff.mp hlookup
    exact h (p, v) (by simp)

def aliasFields (mode : AllocationMode) : List (Property × Value) :=
  [(.type, .str "sharedlvmthin"), (.vgname, .str "vg0"), (.allocationMode, .str mode.text),
    (.shared, .num "1"), (.expectedVgUuid, .str "Vg-1"), (.expectedPvUuid, .str "Pv-1"),
    (.expectedWwid, .str "36a0"), (.reservePercent, .num "5")]

def aliasScfg (mode : AllocationMode) : Scfg := .ofList (aliasFields mode)

def aliasConfig : ℕ → Config
  | 0 => ∅
  | 1 => (∅ : Config).insert "eager" (aliasScfg .thickGenerations)
  | _ => ((∅ : Config).insert "eager" (aliasScfg .thickGenerations)).insert "lazy"
      (aliasScfg .thickGenerationsLazy)

def aliasCall (i : ℕ) : Node × Request :=
  (⟨.ok .thickOnly, some (aliasConfig i), .ok ()⟩,
    if i = 0 then .add "eager" (aliasScfg .thickGenerations)
    else .add "lazy" (aliasScfg .thickGenerationsLazy))

theorem aliasConfig_isTrace : IsTrace Step aliasConfig aliasCall 2 := by
  intro i hi
  interval_cases i
  . apply Step.add rfl (by decide) (schemaValid_ofList (by decide +kernel))
      (by unfold Explicit; decide)
    decide +kernel
  . apply Step.add rfl (by decide) (schemaValid_ofList (by decide +kernel))
      (by unfold Explicit; decide)
    decide +kernel

/-- An Eager and a Lazy alias are added one after the other on a Thick-only node. -/
theorem committed_separated_eager_lazy : Separated (aliasConfig 2) :=
  committed_separated aliasConfig_isTrace (by rintro storeid scfg ⟨h, -⟩; cases h) 2 le_rfl

end SharedLvmThin.StorageConfig
