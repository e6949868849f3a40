import SharedLvmThin.HyphenNames
import SharedLvmThin.KeyedLists
import SharedLvmThin.PerlText

/-! The guardian's inventory of managed thin pools, built from collected evidence: LVM rows,
the device-mapper table, the volumes that local QEMU processes refer to and the storages. -/

namespace SharedLvmThin.GuardInventory
open Perl HyphenNames KeyedLists

structure Row where
  vgName : Option String
  lvName : Option String
  lvAttr : Option String
  lvTags : Option String
  vgUuid : Option String
  lvUuid : Option String

structure Storage where
  allocationMode : Option String
  vgName : Option String
  vgUuid : Option String

/-- The entry of the QEMU reference table for one VM. -/
inductive References
  | undef
  | notArray
  | array (volumes : List String)

/-- Collected evidence; a collection of the wrong type is `none`. -/
structure Evidence where
  lvs : Option (List (Option Row))
  dm : Option (String → Option String)
  qemuRefs : Option (String → References)
  storages : Option (String → Option Storage)
  localNode : Option String
  quorum : Option String

structure Pool where
  vmid : String
  storageId : String
  vgName : String
  poolName : String
  poolUuid : String
  vgUuid : String
  ownerNode : String
  ownerEpoch : String
  mapperName : String
  mapperUuid : String
  locallyActive : Bool
  qemuReferenceExact : Bool
deriving DecidableEq

structure Inventory where
  localNode : String
  quorum : Bool
  pools : List Pool
deriving DecidableEq

/-! ## Device-mapper names -/

def isLvmChar (c : Char) : Bool := c.isAlphanum || c ∈ ['_', '.', '+', '-']

def isNodeChar (c : Char) : Bool := c.isAlphanum || c ∈ ['_', '.', '-']

/-- A defined scalar whose text matches `^[...]+$`. -/
def matchesPlus (p : Char → Bool) (value : Option String) : Bool :=
  value.any fun s => plus p (body s)

/-- Every hyphen is written twice. -/
def doubleHyphens (name : String) : String := String.ofList (doubled '-' name.toList)

/-- `dm_mapper_name` -/
def dmMapperName (vg pool : Option String) : Except String String := do
  dieIf (!matchesPlus isLvmChar vg) "invalid VG name\n"
  dieIf (!matchesPlus isLvmChar pool) "invalid pool name\n"
  return doubleHyphens (vg.getD "") ++ "-" ++ doubleHyphens (pool.getD "") ++ "-tpool"

def withoutHyphens (uuid : String) : String := String.ofList (uuid.toList.filter (· ≠ '-'))

/-- `dm_pool_uuid` -/
def dmPoolUuid (vgUuid lvUuid : Option String) : Except String String := do
  dieIf (!matchesPlus (fun c => c.isAlphanum || c = '-') vgUuid) "invalid LVM UUID\n"
  dieIf (!matchesPlus (fun c => c.isAlphanum || c = '-') lvUuid) "invalid LVM UUID\n"
  return "LVM-" ++ withoutHyphens (vgUuid.getD "") ++ withoutHyphens (lvUuid.getD "") ++ "-tpool"

/-! ## Tags -/

/-- The loop of `_tags` over the non-empty tags. -/
def checkTags (seen : List String) : List String → Except String Unit
  | [] => .ok ()
  | tag :: rest => do
    dieIf (tag ∈ seen) ("duplicate LVM tag '" ++ tag ++ "'\n")
    checkTags (tag :: seen) rest

def tagsOf (raw : Option String) : Except String (List String) := do
  let tags := (splitOn ',' (raw.getD "")).filter (· ≠ "")
  checkTags [] tags
  return tags

/-- `_single_prefixed_tag` -/
def singlePrefixedTag (tags : List String) (tagPrefix : String) (pattern : String → Bool) :
    Except String String :=
  let values := tags.filterMap fun tag =>
    if tagPrefix.toList.isPrefixOf tag.toList
    then some (String.ofList (tag.toList.drop tagPrefix.length)) else none
  match values with
  | [] => .error ("missing " ++ tagPrefix ++ " tag\n")
  | [value] =>
    if pattern value then .ok value else .error ("malformed " ++ tagPrefix ++ " tag\n")
  | _ => .error ("ambiguous " ++ tagPrefix ++ " tags\n")

/-! ## Pools -/

def poolPrefix : List Char := ['s', 'l', 't', 'p', '-']

/-- `/^sltp-(\d+)$/` -/
def isManaged (lvName : Option String) : Bool :=
  let name := (body (lvName.getD "")).toList
  poolPrefix.isPrefixOf name && plus isDigit (String.ofList (name.drop 5))

/-- `0 + $1`, as it is written into a key. -/
def vmidOf (lvName : Option String) : String :=
  (numify (String.ofList ((lvName.getD "").toList.drop 5))).text

def volumePrefix (sid vmid : String) : String := sid ++ ":vm-" ++ vmid ++ "-disk-"

/-- A reference to a disk of the VM on the storage. -/
def isExact (sid vmid volume : String) : Bool :=
  volume = volumePrefix sid vmid ++ "0" ||
    ((volumePrefix sid vmid).toList.isPrefixOf volume.toList &&
      isDigits (String.ofList (volume.toList.drop (volumePrefix sid vmid).length)))

def referencesOf (refs : References) (vmid : String) : Except String (List String) :=
  match refs with
  | .undef => .ok []
  | .array volumes => .ok volumes
  | .notArray => .error ("QEMU reference set for VM " ++ vmid ++ " is malformed\n")

def findStorage (storages : String → Option Storage) (sid : String) : Except String Storage :=
  match storages sid with
  | none => .error ("pool references unknown storage '" ++ sid ++ "'\n")
  | some storage => .ok storage

/-- The body of the loop for a managed pool that was not seen before. -/
def managedPool (dm : String → Option String) (qemuRefs : String → References)
    (storages : String → Option Storage) (localNode : String) (row : Row) :
    Except String Pool := do
  dieIf ((row.lvAttr.getD "").toList.head? ≠ some 't') "managed pool has invalid LVM attributes\n"
  let tags ← tagsOf row.lvTags
  dieIf ("pve-slt-owner-v1" ∉ tags) "managed pool lacks schema tag\n"
  let sid ← singlePrefixedTag tags "pve-slt-sid-" fun s => plus isNodeChar (body s)
  let owner ← singlePrefixedTag tags "pve-slt-owner-node-" fun s => plus isNodeChar (body s)
  let epoch ← singlePrefixedTag tags "pve-slt-owner-epoch-" fun s => exactly 32 isLowerHex (body s)
  let storage ← findStorage storages sid
  dieIf (storage.allocationMode.getD "thin" ≠ "thin") ("storage '" ++ sid ++ "' is not Thin mode\n")
  dieIf (storage.vgName.getD "" ≠ row.vgName.getD "")
    ("pool VG differs from storage '" ++ sid ++ "' VG\n")
  dieIf (storage.vgUuid.getD "" ≠ row.vgUuid.getD "")
    "pool VG UUID differs from pinned storage identity\n"
  let mapper ← dmMapperName row.vgName row.lvName
  let expectedDmUuid ← dmPoolUuid row.vgUuid row.lvUuid
  let observedDmUuid := dm mapper
  let locallyActive := observedDmUuid.isSome
  dieIf (locallyActive && observedDmUuid ≠ some expectedDmUuid)
    ("local mapper UUID mismatch for " ++ mapper ++ "\n")
  let vmid := vmidOf row.lvName
  let refs ← referencesOf (qemuRefs vmid) vmid
  let qemuReferenceExact := refs.any (isExact sid vmid)
  dieIf (locallyActive && owner ≠ localNode) "active pool owner is not the local node\n"
  dieIf (locallyActive && !qemuReferenceExact)
    "active pool has no exact local QEMU volume reference\n"
  return { vmid := vmid
           storageId := sid
           vgName := row.vgName.getD ""
           poolName := row.lvName.getD ""
           poolUuid := row.lvUuid.getD ""
           vgUuid := row.vgUuid.getD ""
           ownerNode := owner
           ownerEpoch := epoch
           mapperName := mapper
           mapperUuid := expectedDmUuid
           locallyActive := locallyActive
           qemuReferenceExact := qemuReferenceExact }

/-- The key of `%seen_pool`. -/
def poolKey (row : Row) : String := row.vgName.getD "" ++ "\x00" ++ row.lvName.getD ""

/-- The loop over the rows; `step` makes the pool of a managed row. -/
def collectPools (step : Row → Except String Pool) (seen : List String) :
    List (Option Row) → Except String (List Pool)
  | [] => .ok []
  | none :: _ => .error "malformed LVM row\n"
  | some row :: rest =>
    if isManaged row.lvName then do
      dieIf (poolKey row ∈ seen)
        ("duplicate managed pool " ++ row.vgName.getD "" ++ "/" ++ row.lvName.getD "" ++ "\n")
      let pool ← step row
      let pools ← collectPools step (poolKey row :: seen) rest
      return pool :: pools
    else collectPools step seen rest

def evidenceOf {α : Type} (value : Option α) (message : String) : Except String α :=
  match value with
  | none => .error message
  | some a => .ok a

/-- `build_guard_inventory` -/
def buildGuardInventory (e : Evidence) : Except String Inventory := do
  let lvs ← evidenceOf e.lvs "LVM rows must be an array\n"
  let dm ← evidenceOf e.dm "DM inventory must be a hash\n"
  let qemuRefs ← evidenceOf e.qemuRefs "QEMU references must be a hash\n"
  let storages ← evidenceOf e.storages "storage inventory must be a hash\n"
  dieIf (!matchesPlus isNodeChar e.localNode) "local node is malformed\n"
  let localNode := e.localNode.getD ""
  let pools ← collectPools (managedPool dm qemuRefs storages localNode) [] lvs
  return { localNode := localNode
           quorum := truthy e.quorum
           pools := sortBy Pool.poolUuid pools }

/-! ## Names -/

theorem dmMapperName_eq_ok {vg pool : Option String} {mapper : String} :
    dmMapperName vg pool = .ok mapper ↔ matchesPlus isLvmChar vg = true ∧
      matchesPlus isLvmChar pool = true ∧
        mapper = doubleHyphens (vg.getD "") ++ "-" ++ doubleHyphens (pool.getD "") ++ "-tpool" := by
  simp only [dmMapperName, bind_eq_ok, dieIf_eq_ok, pure_eq_ok, exists_const, Bool.not_eq_false',
    eq_comm (a := mapper)]

theorem head?_of_isManaged {lvName : Option String} (h : isManaged lvName = true) :
    (lvName.getD "").toList.head? ≠ some '-' := by
  obtain ⟨hstart, -⟩ := Bool.and_eq_true_iff.mp h
  obtain ⟨rest, hrest⟩ := List.isPrefixOf_iff_prefix.mp hstart
  have hhead : (lvName.getD "").toList.head? = some 's' := by
    by_cases hn : EndsInNewline (lvName.getD "")
    · rw [toList_of_endsInNewline hn, ← hrest]
      rfl
    · rw [body_eq_self hn] at hrest
      rw [← hrest]
      rfl
  rw [hhead]
  decide

theorem eq_some_of_matchesPlus {p : Char → Bool} {value : Option String}
    (h : matchesPlus p value = true) : value = some (value.getD "") := by
  cases value with
  | none => exact nomatch h
  | some s => rfl

/-- A mapper name determines the volume group and the managed pool it was made of. -/
theorem dmMapperName_injective {vg vg' pool pool' : Option String} {mapper : String}
    (h : dmMapperName vg pool = .ok mapper) (h' : dmMapperName vg' pool' = .ok mapper)
    (hpool : isManaged pool = true) (hpool' : isManaged pool' = true) :
    vg = vg' ∧ pool = pool' := by
  obtain ⟨hvg, hname, hmapper⟩ := dmMapperName_eq_ok.mp h
  obtain ⟨hvg', hname', hmapper'⟩ := dmMapperName_eq_ok.mp h'
  have hjoined : doubled '-' (vg.getD "").toList ++ '-' :: doubled '-' (pool.getD "").toList =
      doubled '-' (vg'.getD "").toList ++ '-' :: doubled '-' (pool'.getD "").toList := by
    have hlist := congrArg String.toList (hmapper.symm.trans hmapper')
    simp only [doubleHyphens, String.toList_append, String.toList_ofList] at hlist
    simpa using List.append_cancel_right hlist
  obtain ⟨hv, hp⟩ := joined_injective (head?_of_isManaged hpool) (head?_of_isManaged hpool') hjoined
  rw [eq_some_of_matchesPlus hvg, eq_some_of_matchesPlus hvg', eq_some_of_matchesPlus hname,
    eq_some_of_matchesPlus hname', String.toList_inj.mp hv, String.toList_inj.mp hp]
  exact ⟨rfl, rfl⟩

/-! ## Inventories -/

section
variable {dm : String → Option String} {qemuRefs : String → References}
  {storages : String → Option Storage} {localNode : String} {row : Row} {pool : Pool}

/-- What a pool of the inventory has from its row and from the device-mapper table. -/
structure MadeOf (dm : String → Option String) (row : Row) (pool : Pool) : Prop where
  vgName : row.vgName = some pool.vgName
  poolName : row.lvName = some pool.poolName
  mapperName : dmMapperName row.vgName row.lvName = .ok pool.mapperName
  locallyActive : pool.locallyActive = (dm pool.mapperName).isSome

theorem managedPool_madeOf
    (h : managedPool dm qemuRefs storages localNode row = .ok pool) : MadeOf dm row pool := by
  simp only [managedPool, bind_eq_ok, dieIf_eq_ok, pure_eq_ok, exists_const] at h
  obtain ⟨-, tags, -, -, sid, -, owner, -, epoch, -, storage, -, -, -, -, mapper, hmapper, uuid, -,
    -, refs, -, -, -, rfl⟩ := h
  obtain ⟨hvg, hname, -⟩ := dmMapperName_eq_ok.mp hmapper
  exact ⟨eq_some_of_matchesPlus hvg, eq_some_of_matchesPlus hname, hmapper, rfl⟩

/-- Distinct rows carry distinct keys, so that no two pools share a mapper name. -/
theorem collectPools_distinct {step : Row → Except String Pool}
    (hstep : ∀ row pool, step row = .ok pool → MadeOf dm row pool) {rows : List (Option Row)} :
    ∀ {seen : List String} {pools : List Pool}, collectPools step seen rows = .ok pools →
      pools.Pairwise (fun p q => p.mapperName ≠ q.mapperName) ∧ ∀ p ∈ pools,
        ∃ row, isManaged row.lvName = true ∧ poolKey row ∉ seen ∧ MadeOf dm row p := by
  induction rows with
  | nil =>
    intro seen pools h
    obtain rfl := Except.ok.inj h
    simp
  | cons first rest ih =>
    intro seen pools h
    cases first with
    | none => exact nomatch h
    | some row =>
      simp only [collectPools] at h
      split_ifs at h with hmanaged
      · simp only [bind_eq_ok, dieIf_eq_ok, pure_eq_ok, exists_const,
          decide_eq_false_iff_not] at h
        obtain ⟨hfresh, pool, hpool, others, hothers, rfl⟩ := h
        obtain ⟨hdistinct, hrows⟩ := ih hothers
        have hmade := hstep row pool hpool
        rw [List.pairwise_cons]
        refine ⟨⟨?_, hdistinct⟩, ?_⟩
        · intro q hq hsame
          obtain ⟨row', hmanaged', hkey, hmade'⟩ := hrows q hq
          have hmapper := hmade'.mapperName
          rw [← hsame] at hmapper
          obtain ⟨hvg, hname⟩ :=
            dmMapperName_injective hmade.mapperName hmapper hmanaged hmanaged'
          refine hkey ?_
          rw [poolKey, poolKey, hvg, hname]
          exact List.mem_cons_self
        · intro p hp
          rcases List.mem_cons.mp hp with rfl | hp
          · exact ⟨row, hmanaged, hfresh, hmade⟩
          · obtain ⟨row', hmanaged', hkey, hmade'⟩ := hrows p hp
            exact ⟨row', hmanaged', fun hmem => hkey (List.mem_cons_of_mem _ hmem), hmade'⟩
      · exact ih h

end

/-- Mapper names tell managed pools apart: two names that agree are made of one volume group and
one pool, and in an inventory every pool is active exactly through a mapping of its own name,
which no other pool of the inventory has. -/
theorem mapper_names_unambiguous :
    (∀ (vg vg' pool pool' : Option String) (mapper : String), isManaged pool = true →
      isManaged pool' = true → dmMapperName vg pool = .ok mapper →
        dmMapperName vg' pool' = .ok mapper → vg = vg' ∧ pool = pool') ∧
      ∀ (e : Evidence) (inventory : Inventory), buildGuardInventory e = .ok inventory →
        inventory.pools.Pairwise (fun p q => p.mapperName ≠ q.mapperName) ∧
          ∀ dm, e.dm = some dm → ∀ pool ∈ inventory.pools,
            pool.locallyActive = (dm pool.mapperName).isSome := by
  constructor
  · intro vg vg' pool pool' mapper hpool hpool' h h'
    exact dmMapperName_injective h h' hpool hpool'
  · intro e inventory h
    obtain ⟨lvs, -, h⟩ := bind_eq_ok.mp h
    obtain ⟨dm, hdm, h⟩ := bind_eq_ok.mp h
    obtain ⟨qemuRefs, -, h⟩ := bind_eq_ok.mp h
    obtain ⟨storages, -, h⟩ := bind_eq_ok.mp h
    obtain ⟨_, -, h⟩ := bind_eq_ok.mp h
    obtain ⟨pools, hpools, h⟩ := bind_eq_ok.mp h
    obtain rfl := pure_eq_ok.mp h
    obtain ⟨hdistinct, hrows⟩ := collectPools_distinct (fun _ _ => managedPool_madeOf) hpools
    refine ⟨?_, ?_⟩
    · exact (sortBy_perm Pool.poolUuid pools).symm.pairwise hdistinct fun hne => hne.symm
    · intro dm' hdm' pool hpool
      have hsame : dm = dm' := by
        rw [hdm'] at hdm
        exact (Except.ok.inj hdm).symm
      obtain ⟨row, -, -, hmade⟩ := hrows pool (mem_sortBy.mp hpool)
      rw [← hsame]
      exact hmade.locallyActive

def ownerTags (epoch : Char) : String :=
  "pve-slt-owner-v1,pve-slt-sid-shared,pve-slt-owner-node-a,pve-slt-owner-epoch-" ++
    String.ofList (List.replicate 32 epoch)

def twoPools : Evidence where
  lvs := some [some ⟨some "vg-", some "sltp-100", some "twi", some (ownerTags 'a'), some "V",
    some "P-1"⟩,
    some ⟨some "vg-", some "root", none, none, none, none⟩,
    some ⟨some "vg-", some "sltp-101", some "twi", some (ownerTags 'b'), some "V", some "P-2"⟩]
  dm := some fun name => if name = "vg---sltp--100-tpool" then some "LVM-VP1-tpool" else none
  qemuRefs := some fun vmid =>
    if vmid = "100" then .array ["shared:vm-100-disk-0"] else .undef
  storages := some fun sid => if sid = "shared" then some ⟨none, some "vg-", some "V"⟩ else none
  localNode := some "a"
  quorum := some "1"

def firstPool : Pool :=
  { vmid := "100", storageId := "shared", vgName := "vg-", poolName := "sltp-100"
    poolUuid := "P-1", vgUuid := "V", ownerNode := "a"
    ownerEpoch := String.ofList (List.replicate 32 'a'), mapperName := "vg---sltp--100-tpool"
    mapperUuid := "LVM-VP1-tpool", locallyActive := true, qemuReferenceExact := true }

def secondPool : Pool :=
  { firstPool with
    vmid := "101", poolName := "sltp-101", poolUuid := "P-2"
    ownerEpoch := String.ofList (List.replicate 32 'b'), mapperName := "vg---sltp--101-tpool"
    mapperUuid := "LVM-VP2-tpool", locallyActive := false, qemuReferenceExact := false }

-- An instance is evaluated before what follows it.
instance twoPools_built : Fact (isManaged (some "sltp-100") = true ∧
    dmMapperName (some "vg-") (some "sltp-100") = .ok "vg---sltp--100-tpool" ∧
      buildGuardInventory twoPools = .ok ⟨"a", true, [firstPool, secondPool]⟩) :=
  ⟨by decide +kernel⟩

theorem mapper_names_unambiguous_two :
    (some "vg-" = some "vg-" ∧ some "sltp-100" = some "sltp-100") ∧
      buildGuardInventory twoPools = .ok ⟨"a", true, [firstPool, secondPool]⟩ ∧
        [firstPool, secondPool].Pairwise (fun p q => p.mapperName ≠ q.mapperName) := by
  obtain ⟨hmanaged, hmapper, hinventory⟩ := twoPools_built.out
  exact ⟨mapper_names_unambiguous.1 _ _ _ _ _ hmanaged hmanaged hmapper hmapper, hinventory,
    (mapper_names_unambiguous.2 _ _ hinventory).1⟩

end SharedLvmThin.GuardInventory
