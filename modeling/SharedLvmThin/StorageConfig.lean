import Mathlib.Data.List.AList
import SharedLvmThin.KeyedLists
import SharedLvmThin.PerlData

/-!
# Storage configuration hooks

PVE calls a hook before it commits an added or changed storage. The hook lays the candidate
over the committed configuration and compares it with every other storage: Thin and Thick
never share a volume group, a pinned volume-group UUID names one volume group, and the two
Thick aliases of a volume group agree on everything that governs their common metadata.
-/

namespace SharedLvmThin.StorageConfig
open Perl KeyedLists

inductive Property
  | type | vgname | allocationMode | vgLayout | shared | nodes | disable
  | expectedVgUuid | expectedPvUuid | expectedWwid
  | reservePercent | reserveGib
  | expectedMinPaths | lockTimeout | lockYieldMs | bridgeAdmissionTimeout
  | closeTimeout | commandDeadlineSec | maxActiveMaterializations | regionSizeKib
  | peerConnectTimeout | peerProbeTimeout
  | lvmVgname
  | other (name : String)
deriving DecidableEq

def Property.name : Property → String
  | .type => "type"
  | .vgname => "slt-vgname"
  | .allocationMode => "slt-allocation-mode"
  | .vgLayout => "slt-vg-layout"
  | .shared => "shared"
  | .nodes => "nodes"
  | .disable => "disable"
  | .expectedVgUuid => "slt-expected-vg-uuid"
  | .expectedPvUuid => "slt-expected-pv-uuid"
  | .expectedWwid => "slt-expected-wwid"
  | .reservePercent => "slt-vg-reserve-percent"
  | .reserveGib => "slt-vg-reserve-gib"
  | .expectedMinPaths => "slt-expected-min-paths"
  | .lockTimeout => "slt-lock-timeout"
  | .lockYieldMs => "slt-lock-yield-ms"
  | .bridgeAdmissionTimeout => "slt-bridge-admission-timeout"
  | .closeTimeout => "slt-tg-close-timeout"
  | .commandDeadlineSec => "slt-tg-command-deadline-sec"
  | .maxActiveMaterializations => "slt-tg-max-active-materializations"
  | .regionSizeKib => "slt-tg-region-size-kib"
  | .peerConnectTimeout => "slt-thin-peer-connect-timeout"
  | .peerProbeTimeout => "slt-thin-peer-probe-timeout"
  | .lvmVgname => "vgname"
  | .other name => name

/-- One storage section; a property it lacks reads as `undef`. -/
abbrev Scfg := Property → Value

/-- `{ ids => { ... } }` -/
abbrev Config := AList fun _ : String => Scfg

/-- `for my $id (sort keys %$ids)` -/
def Config.sorted (cfg : Config) : List (String × Scfg) :=
  sortBy Prod.fst (cfg.entries.map fun entry => (entry.1, entry.2))

inductive Flavor
  | dual | thickOnly
deriving DecidableEq

inductive AllocationMode
  | thin | thickGenerations | thickGenerationsLazy
deriving DecidableEq

def AllocationMode.text : AllocationMode → String
  | .thin => "thin"
  | .thickGenerations => "thick-generations"
  | .thickGenerationsLazy => "thick-generations-lazy"

def AllocationMode.ofText? (s : String) : Option AllocationMode :=
  [AllocationMode.thin, .thickGenerations, .thickGenerationsLazy].find? fun m => m.text = s

def AllocationMode.isThick : AllocationMode → Bool
  | .thin => false
  | _ => true

/-! ## The property schema -/

inductive Kind
  | string
  | enum (words : List String)
  | pattern (isMember : Char → Bool)
  | integer (minimum maximum : Nat)

/-- `properties`, restricted to what the hooks read. -/
def Property.kind : Property → Kind
  | .allocationMode => .enum ["thin", "thick-generations", "thick-generations-lazy"]
  | .vgLayout => .enum ["isolated", "mixed"]
  | .expectedVgUuid | .expectedPvUuid => .pattern fun c => c.isAlphanum || c = '-'
  | .expectedWwid => .pattern fun c =>
      c.isDigit || ('A' ≤ c && c ≤ 'F') || ('a' ≤ c && c ≤ 'f')
  | .expectedMinPaths => .integer 1 64
  | .reservePercent => .integer 0 50
  | .reserveGib => .integer 0 1048576
  | .lockTimeout => .integer 10 86400
  | .lockYieldMs => .integer 0 5000
  | .bridgeAdmissionTimeout => .integer 60 604800
  | .closeTimeout => .integer 1 300
  | .commandDeadlineSec => .integer 5 600
  | .maxActiveMaterializations => .integer 1 64
  | .regionSizeKib => .integer 64 4096
  | .peerConnectTimeout => .integer 1 120
  | .peerProbeTimeout => .integer 2 600
  | _ => .string

def digitsValue (digits : List Char) : Option Int :=
  if digits ≠ [] && digits.all Char.isDigit then some (Nat.ofDigitChars 10 digits 0) else none

/-- The number matched by `/^[+-]?[0-9]+$/`. -/
def integerValue (s : String) : Option Int :=
  match (body s).toList with
  | '+' :: digits => digitsValue digits
  | '-' :: digits => (digitsValue digits).map Neg.neg
  | digits => digitsValue digits

def Kind.accepts : Kind → String → Bool
  | .string, _ => true
  | .enum words, s => s ∈ words
  | .pattern isMember, s => plus isMember (body s)
  | .integer minimum maximum, s =>
    (integerValue s).any fun n => (minimum : Int) ≤ n && n ≤ maximum

/-- Every property that is set has a value of its kind. -/
def SchemaValid (scfg : Scfg) : Prop :=
  ∀ p, (scfg p).isDefined = true → p.kind.accepts (scfg p).text = true

/-! ## Reading one storage -/

/-- `$v // 'default'` -/
def orDefault (v : Value) (default : String) : String := if v.isDefined then v.text else default

/-- `($scfg->{type} // '') eq 'sharedlvmthin'` -/
def isSharedLvmThin (scfg : Scfg) : Bool := (scfg .type).text = "sharedlvmthin"

def defaultMode : Flavor → AllocationMode
  | .thickOnly => .thickGenerations
  | .dual => .thin

/-- `_allocation_mode` on a node with the given package flavor. -/
def allocationMode (flavor : Except String Flavor) (scfg : Scfg) :
    Except String AllocationMode := do
  let flavor ← flavor
  let mode := orDefault (scfg .allocationMode) (defaultMode flavor).text
  match AllocationMode.ofText? mode with
  | none => .error ("unknown SharedLvmThin allocation mode '" ++ mode ++ "'\n")
  | some m => do
    dieIf (flavor = .thickOnly && m = .thin)
      "Thin allocation mode is unavailable in the Thick-only package\n"
    return m

/-- `_vg_layout` -/
def vgLayout (scfg : Scfg) : Except String String := do
  let layout := orDefault (scfg .vgLayout) "isolated"
  dieIf (layout = "mixed")
    "mixed Thin/Thick VG layout is unsupported; use separate Thin and Thick VGs\n"
  dieIf (layout ≠ "isolated") ("unknown SharedLvmThin VG layout '" ++ layout ++ "'\n")
  return layout

def identityFields : List Property := [.expectedVgUuid, .expectedPvUuid, .expectedWwid]

def isUnset (v : Value) : Bool := !v.isDefined || v.text = ""

/-- `_require_thick_identity_config` -/
def requireThickIdentityConfig (storeid : String) (scfg : Scfg) : Except String Unit := do
  dieIf (!(scfg .shared).truthy)
    ("thick-generations storage '" ++ storeid ++ "' must be configured as shared\n")
  forEach identityFields fun field =>
    dieIf (isUnset (scfg field))
      ("thick-generations storage '" ++ storeid ++ "' requires '" ++ field.name ++ "'\n")
  dieIf (!(scfg .reservePercent).isDefined && !(scfg .reserveGib).isDefined)
    ("thick-generations storage '" ++ storeid ++ "' requires a protected VG reserve\n")

/-- A UUID the storage pins: defined, no reference, not empty. -/
def pinnedUuid (scfg : Scfg) : Option String :=
  let uuid := scfg .expectedVgUuid
  if !uuid.isDefined || uuid.isRef || uuid.text = "" then none else some uuid.text

def nodeList : Value → Except String (List Value)
  | .str s => .ok ((splitOn ',' s).map .str)
  | .num s => .ok ((splitOn ',' s).map .str)
  | .hash fields => .ok (fields.map fun field => .str field.1)
  | .array items => .ok items
  | _ => .error "same-VG alias has an unsupported PVE node-scope representation\n"

def nodeName (node : Value) : Except String String := do
  dieIf (!node.isDefined || node.isRef) "same-VG alias has an ambiguous PVE node scope\n"
  dieIf (trim node.text = "") "same-VG alias has an ambiguous PVE node scope\n"
  return trim node.text

/-- `_canonical_node_scope` -/
def canonicalNodeScope (nodes : Value) : Except String String :=
  if !nodes.isDefined then .ok ""
  else do
    let list ← nodeList nodes
    let names ← list.mapM nodeName
    dieIf (!(sortBy id names).Nodup) "same-VG alias has an ambiguous PVE node scope\n"
    return ",".intercalate (sortBy id names)

/-! ## Aliases of one volume group -/

/-- What the group loop collects about one alias. -/
structure Alias where
  scfg : Scfg
  mode : AllocationMode
  layout : String
  nodeScope : String

def readAlias (flavor : Except String Flavor) (vg : String) (seen : List AllocationMode)
    (entry : String × Scfg) : Except String Alias := do
  dieIf (!(entry.2 .shared).truthy)
    ("same-VG alias '" ++ entry.1 ++ "' is not configured as shared storage\n")
  let allocation ← allocationMode flavor entry.2
  let layout ← vgLayout entry.2
  dieIf (allocation ∈ seen)
    ("shared VG '" ++ vg ++ "' has duplicate '" ++ allocation.text ++ "' allocation aliases\n")
  forEach identityFields fun field =>
    dieIf (isUnset (entry.2 field))
      ("same-VG alias '" ++ entry.1 ++ "' must pin '" ++ field.name ++ "'\n")
  let nodeScope ← canonicalNodeScope (entry.2 .nodes)
  return ⟨entry.2, allocation, layout, nodeScope⟩

def reserveKey (scfg : Scfg) : String :=
  (scfg .reservePercent).text ++ "|" ++ (scfg .reserveGib).text

/-- The value that rules when a setting is absent. -/
def defaultSetting : Property → String
  | .lockTimeout => "30"
  | .lockYieldMs => "1000"
  | .bridgeAdmissionTimeout => "86400"
  | .closeTimeout => "30"
  | .commandDeadlineSec => "30"
  | .maxActiveMaterializations => "4"
  | .regionSizeKib => "1024"
  | .peerConnectTimeout => "5"
  | .peerProbeTimeout => "15"
  | _ => ""

def setting (p : Property) (scfg : Scfg) : String := orDefault (scfg p) (defaultSetting p)

/-- What all aliases of a volume group have to share, in the order of the checks. -/
def sharedSettings : List ((Scfg → String) × String) :=
  [(reserveKey, "protected VG reserve settings"),
   (setting .expectedMinPaths, "expected minimum path count"),
   (setting .lockTimeout, "cluster lock timeout"),
   (setting .lockYieldMs, "cooperative lock yield"),
   (setting .bridgeAdmissionTimeout, "migration-bridge admission timeout"),
   (setting .closeTimeout, "Thick frontend close timeout"),
   (setting .commandDeadlineSec, "Thick command observation timeout"),
   (setting .maxActiveMaterializations, "Thick materialization concurrency limit"),
   (setting .regionSizeKib, "Thick region-size policy")]

def thinSettings : List ((Scfg → String) × String) :=
  [(setting .peerConnectTimeout, "Thin peer SSH connection timeout"),
   (setting .peerProbeTimeout, "Thin peer whole-probe timeout")]

/-- `keys(%values) != 1` -/
def differ (texts : List String) : Bool := texts.dedup.length ≠ 1

-- Volume-group and PV identifiers are case-sensitive, a WWID is hexadecimal text.
def identityKey (field : Property) (scfg : Scfg) : String :=
  if field = .expectedWwid then lc (scfg field).text else (scfg field).text

def checkIdentities (aliases : List Alias) : Except String Unit :=
  forEach [Property.expectedPvUuid, .expectedVgUuid, .expectedWwid] fun field =>
    dieIf (differ (aliases.map fun a => identityKey field a.scfg))
      ("same-VG aliases disagree on '" ++ field.name ++ "'\n")

def checkSettings (settings : List ((Scfg → String) × String)) (aliases : List Alias) :
    Except String Unit :=
  forEach settings fun s =>
    dieIf (differ (aliases.map fun a => s.1 a.scfg))
      ("same-VG aliases must use the same " ++ s.2 ++ "\n")

def checkGroup (vg : String) (aliases : List Alias) : Except String Unit := do
  let modes := aliases.map Alias.mode
  let containsThin := AllocationMode.thin ∈ modes
  let containsThick := AllocationMode.thickGenerations ∈ modes ∨ .thickGenerationsLazy ∈ modes
  dieIf (differ (aliases.map Alias.layout))
    "same-VG aliases must declare the same 'slt-vg-layout'\n"
  dieIf (containsThin ∧ containsThick)
    ("VG_MODE_CONFLICT: shared VG '" ++ vg ++ "' contains both Thin and Thick aliases; " ++
      "TG48 requires physically separate Thin and Thick VGs\n")
  dieIf (aliases.length = 2 ∧
      ¬ (AllocationMode.thickGenerations ∈ modes ∧ .thickGenerationsLazy ∈ modes))
    ("shared VG '" ++ vg ++ "' supports two aliases only as Eager+Lazy Thick\n")
  checkIdentities aliases
  checkSettings sharedSettings aliases
  if containsThin then checkSettings thinSettings aliases
  dieIf (differ (aliases.map Alias.nodeScope))
    "same-VG aliases must use the same PVE node scope\n"

def isAliasOf (vg : String) (entry : String × Scfg) : Bool :=
  isSharedLvmThin entry.2 && (entry.2 .vgname).text = vg

def isForeignReference (vg : String) (entry : String × Scfg) : Bool :=
  !isSharedLvmThin entry.2 && (entry.2 .lvmVgname).isDefined && (entry.2 .lvmVgname).text = vg

def uuidConflict (storeid otherId : String) : String :=
  "storage '" ++ storeid ++ "' VG UUID conflicts with storage '" ++ otherId ++
    "' in the persistent namespace\n"

/-- Two UUIDs that name different groups but share the lower-case namespace. -/
def onlyCaseDiffers (uuid other : Option String) : Bool :=
  match uuid, other with
  | some u, some v => u ≠ v && lc u = lc v
  | _, _ => false

/-- `_verify_same_vg_alias_configuration` -/
def verifySameVgAliasConfiguration (flavor : Except String Flavor) (storeid : String) (scfg : Scfg)
    (cfg : Config) : Except String Unit := do
  dieIf (!(scfg .vgname).isDefined) ("storage '" ++ storeid ++ "' has no VG name\n")
  let vg := (scfg .vgname).text
  forEach cfg.sorted fun entry =>
    dieIf (isSharedLvmThin entry.2 && onlyCaseDiffers (pinnedUuid scfg) (pinnedUuid entry.2))
      (uuidConflict storeid entry.1)
  let foreign := cfg.sorted.filter (isForeignReference vg)
  dieIf (!foreign.isEmpty)
    ("shared VG '" ++ vg ++ "' is also referenced by non-SharedLvmThin storage '" ++
      "', '".intercalate (foreign.map Prod.fst) ++
      "'; canonical mutation locking cannot be guaranteed\n")
  let aliases := cfg.sorted.filter (isAliasOf vg)
  let _ ← vgLayout scfg
  if aliases.length ≤ 1 then return ()
  else do
    dieIf (aliases.length > 2)
      ("shared VG '" ++ vg ++ "' has more than two SharedLvmThin aliases; only one Eager " ++
        "and one Lazy Thick alias may share an isolated Thick VG\n")
    let group ← mapSeen Alias.mode (readAlias flavor vg) [] aliases
    checkGroup vg group

/-- `_reject_conflicting_vg_uuid_names` -/
def rejectConflictingVgUuidNames (storeid : String) (scfg : Scfg) (cfg : Config) :
    Except String Unit :=
  match pinnedUuid scfg with
  | none => .ok ()
  | some uuid => do
    let vg := scfg .vgname
    dieIf (!vg.isDefined || vg.isRef || vg.text = "")
      ("storage '" ++ storeid ++ "' has no unambiguous VG name\n")
    forEach cfg.sorted fun entry =>
      match pinnedUuid entry.2 with
      | none => .ok ()
      | some other =>
        let otherVg := entry.2 .vgname
        dieIf (entry.1 ≠ storeid && isSharedLvmThin entry.2 && lc uuid = lc other &&
            (uuid ≠ other || !otherVg.isDefined || otherVg.isRef || otherVg.text ≠ vg.text))
          (uuidConflict storeid entry.1)

/-! ## The hooks -/

/-- What the hooks read on the node that serves the request: its package flavor, the committed
configuration unless it cannot be read, and what the hook of the parent class answers. -/
structure Node where
  flavor : Except String Flavor
  config : Option Config
  parent : Except String Unit

/-- `PVE::Storage::config()` -/
def Node.committed (node : Node) : Except String Config :=
  match node.config with
  | some cfg => .ok cfg
  | none => .error "PVE storage configuration inventory is unavailable\n"

/-- The mode a candidate asks for; only a candidate without one depends on the node. -/
def Node.requestedMode (node : Node) (scfg : Scfg) : Except String String :=
  if (scfg .allocationMode).isDefined then .ok (scfg .allocationMode).text
  else do
    let flavor ← node.flavor
    return (defaultMode flavor).text

def isThickText (mode : String) : Bool :=
  mode = "thick-generations" || mode = "thick-generations-lazy"

def checkAddedNeighbour (storeid : String) (scfg : Scfg) (entry : String × Scfg) :
    Except String Unit := do
  let vg := (scfg .vgname).text
  let otherVg := entry.2 .vgname
  let otherMode := entry.2 .allocationMode
  dieIf (entry.2 .type).isRef "PVE storage configuration inventory is ambiguous\n"
  if isSharedLvmThin entry.2 then do
    dieIf (onlyCaseDiffers (pinnedUuid scfg) (pinnedUuid entry.2)) (uuidConflict storeid entry.1)
    dieIf (!otherVg.isDefined || otherVg.isRef || otherVg.text = "")
      ("SharedLvmThin storage '" ++ entry.1 ++ "' has an ambiguous VG name\n")
    if otherVg.text = vg then do
      dieIf (!otherMode.isDefined || otherMode.isRef ||
          (AllocationMode.ofText? (body otherMode.text)).isNone)
        ("same-VG storage '" ++ entry.1 ++ "' has an unknown allocation mode; " ++
          "cannot prove Thin/Thick isolation\n")
      dieIf (otherMode.text ≠ "thin")
        ("VG_MODE_CONFLICT: shared VG '" ++ vg ++ "' already contains Thick storage '" ++ entry.1 ++
          "'; use physically separate Thin and Thick VGs\n")

/-- `on_add_hook` up to the parent's hook. -/
def checkAddition (node : Node) (storeid : String) (scfg : Scfg) : Except String Unit := do
  let mode ← node.requestedMode scfg
  if isThickText mode then do
    dieIf (!isSharedLvmThin scfg) "invalid Thick storage configuration candidate\n"
    requireThickIdentityConfig storeid scfg
    let current ← node.committed
    dieIf (current.lookup storeid).isSome
      ("storage '" ++ storeid ++ "' already exists in the committed configuration\n")
    rejectConflictingVgUuidNames storeid scfg current
    verifySameVgAliasConfiguration node.flavor storeid scfg (current.insert storeid scfg)
  else if mode = "thin" then do
    let vg := scfg .vgname
    dieIf (!vg.isDefined || vg.isRef || vg.text = "") "Thin candidate has no unambiguous VG name\n"
    let current ← node.committed
    rejectConflictingVgUuidNames storeid scfg current
    forEach current.sorted (checkAddedNeighbour storeid scfg)

def onAddHook (node : Node) (storeid : String) (scfg : Scfg) : Except String Unit := do
  checkAddition node storeid scfg
  node.parent

/-- `%$update` -/
abbrev Update := AList fun _ : Property => Value

/-- A disabling request passes even when the group is broken already. -/
def disableOnly (update : Update) (delete : List Property) (sensitive : List (String × Value)) :
    Bool :=
  update.keys.filter (· ≠ .type) = [.disable] &&
    ((update.lookup .disable).getD .undef).text = "1" &&
    ((update.lookup .type).all fun type => type.text = "sharedlvmthin") &&
    delete.isEmpty && sensitive.isEmpty

/-- `{ %$scfg, %$update }` less the deleted keys. -/
def candidate (scfg : Scfg) (update : Update) (delete : List Property) : Scfg := fun p =>
  if p ∈ delete then .undef else (update.lookup p).getD (scfg p)

def checkUpdatedNeighbour (storeid : String) (scfg : Scfg) (entry : String × Scfg) :
    Except String Unit :=
  let u := (scfg .expectedVgUuid).text
  let v := (entry.2 .expectedVgUuid).text
  if entry.1 = storeid || !isSharedLvmThin entry.2 then .ok ()
  else do
    dieIf (u ≠ "" && v ≠ "" && u ≠ v && lc u = lc v) (uuidConflict storeid entry.1)
    if (entry.2 .vgname).text = (scfg .vgname).text then
      dieIf ((entry.2 .allocationMode).text ≠ "thin")
        "VG_MODE_CONFLICT: Thin update cannot share a VG with Thick or an unknown mode\n"

/-- What `on_update_hook_full` checks of a candidate that does more than disable. -/
def checkUpdate (node : Node) (storeid : String) (candidate : Scfg) : Except String Unit := do
  let current ← node.committed
  dieIf (current.lookup storeid).isNone "PVE storage configuration inventory is unavailable\n"
  dieIf (!isSharedLvmThin candidate) "invalid SharedLvmThin update candidate\n"
  let mode ← node.requestedMode candidate
  rejectConflictingVgUuidNames storeid candidate current
  if isThickText mode then do
    requireThickIdentityConfig storeid candidate
    verifySameVgAliasConfiguration node.flavor storeid candidate (current.insert storeid candidate)
  else if mode = "thin" then do
    dieIf (!(candidate .vgname).isDefined) "Thin candidate has no VG name\n"
    forEach current.sorted (checkUpdatedNeighbour storeid candidate)
  else .error "unsupported SharedLvmThin allocation mode\n"

def onUpdateHookFull (node : Node) (storeid : String) (scfg : Scfg) (update : Update)
    (delete : List Property) (sensitive : List (String × Value)) : Except String Unit :=
  if disableOnly update delete sensitive then node.parent
  else do
    checkUpdate node storeid (candidate scfg update delete)
    node.parent

/-! ## What the hooks are for -/

/-- The mode a storage declares. -/
def modeOf (scfg : Scfg) : Option AllocationMode :=
  AllocationMode.ofText? (scfg .allocationMode).text

def IsThick (scfg : Scfg) : Prop := ∃ m, modeOf scfg = some m ∧ m.isThick = true

def agreedSettings : List Property :=
  [.expectedMinPaths, .lockTimeout, .lockYieldMs, .bridgeAdmissionTimeout, .closeTimeout,
    .commandDeadlineSec, .maxActiveMaterializations, .regionSizeKib]

/-- Two aliases govern the metadata of their volume group alike. -/
structure Agree (a b : Scfg) : Prop where
  pvUuid : (a .expectedPvUuid).text = (b .expectedPvUuid).text
  wwid : lc (a .expectedWwid).text = lc (b .expectedWwid).text
  reservePercent : (a .reservePercent).text = (b .reservePercent).text
  reserveGib : (a .reserveGib).text = (b .reserveGib).text
  settings : ∀ p ∈ agreedSettings, setting p a = setting p b
  nodeScope : ∃ scope, canonicalNodeScope (a .nodes) = .ok scope ∧
    canonicalNodeScope (b .nodes) = .ok scope

def EagerAndLazy (a b : Scfg) : Prop :=
  modeOf a = some .thickGenerations ∧ modeOf b = some .thickGenerationsLazy

/-- The law for two storages. -/
structure Compatible (a b : Scfg) : Prop where
  modes : (a .vgname).text = (b .vgname).text →
    ¬ (modeOf a = some .thin ∧ IsThick b) ∧ ¬ (modeOf b = some .thin ∧ IsThick a)
  uuids : ∀ u v, pinnedUuid a = some u → pinnedUuid b = some v → lc u = lc v →
    u = v ∧ (a .vgname).text = (b .vgname).text
  aliases : (a .vgname).text = (b .vgname).text → IsThick a → IsThick b →
    (EagerAndLazy a b ∨ EagerAndLazy b a) ∧ Agree a b

def Config.Has (cfg : Config) (storeid : String) (scfg : Scfg) : Prop :=
  cfg.lookup storeid = some scfg ∧ isSharedLvmThin scfg = true

def Separated (cfg : Config) : Prop :=
  ∀ id id' a b, cfg.Has id a → cfg.Has id' b → id ≠ id' → Compatible a b

end SharedLvmThin.StorageConfig
