import SharedLvmThin.TagCodec

/-!
# Thick Generations tags

The LVM tag formats of the Thick layout: version 5 and version 6 anchors, generation
ownership, Lazy objects, transition artifacts and volume-group intents. An encoder
validates a record, normalises part of it and signs the result; a decoder collects
the tags of its family, re-encodes them and compares the digest. A record maps field
names to scalars. Records hold the values as given: a decoder returns what it read,
not the normalised values its digest check used.
-/

namespace SharedLvmThin.Thick
open Perl TagCodec

inductive Field
  | v | sid | vol | phase | tx | op | snapshot | source | old | new | head | generation | region
  | policy | bytes | metadata | dataUuid | metadataUuid | zeroSource | publication
  | ownerNode | ownerBoot | ownerEpoch
  | role | kind | state | object | before | sha256
deriving DecidableEq

def Field.name : Field → String
  | .v => "v"
  | .sid => "sid"
  | .vol => "vol"
  | .phase => "phase"
  | .tx => "tx"
  | .op => "op"
  | .snapshot => "snapshot"
  | .source => "source"
  | .old => "old"
  | .new => "new"
  | .head => "head"
  | .generation => "generation"
  | .region => "region"
  | .policy => "policy"
  | .bytes => "bytes"
  | .metadata => "metadata"
  | .dataUuid => "data_uuid"
  | .metadataUuid => "metadata_uuid"
  | .zeroSource => "zero_source"
  | .publication => "publication"
  | .ownerNode => "owner_node"
  | .ownerBoot => "owner_boot"
  | .ownerEpoch => "owner_epoch"
  | .role => "role"
  | .kind => "kind"
  | .state => "state"
  | .object => "object"
  | .before => "before"
  | .sha256 => "sha256"

def Field.all : List Field :=
  [.v, .sid, .vol, .phase, .tx, .op, .snapshot, .source, .old, .new, .head, .generation, .region,
    .policy, .bytes, .metadata, .dataUuid, .metadataUuid, .zeroSource, .publication,
    .ownerNode, .ownerBoot, .ownerEpoch, .role, .kind, .state, .object, .before, .sha256]

theorem Field.mem_all (f : Field) : f ∈ Field.all := by
  cases f <;> decide

abbrev Record := Hash Field

/-- The hash `(f => "text", ...)`. -/
def hashOf (pairs : List (Field × String)) : Record := fun f => pairs.lookup f

def anchorFieldsV5 : List Field :=
  [.v, .sid, .vol, .phase, .tx, .op, .snapshot, .source, .old, .new, .head, .generation, .region]

def anchorFieldsV6 : List Field :=
  [.v, .sid, .vol, .phase, .tx, .op, .snapshot, .source, .old, .new, .head, .generation, .region,
    .policy, .bytes, .metadata, .dataUuid, .metadataUuid, .zeroSource, .publication,
    .ownerNode, .ownerBoot, .ownerEpoch]

inductive PhaseV5
  | prepared | sourceReady | committed | hydrating | hydrationComplete | linearPivoted
  | materialized
deriving DecidableEq

def PhaseV5.text : PhaseV5 → String
  | .prepared => "PREPARED"
  | .sourceReady => "SOURCE_READY"
  | .committed => "COMMITTED"
  | .hydrating => "HYDRATING"
  | .hydrationComplete => "HYDRATION_COMPLETE"
  | .linearPivoted => "LINEAR_PIVOTED"
  | .materialized => "MATERIALIZED"

def PhaseV5.ofText? (s : String) : Option PhaseV5 :=
  [PhaseV5.prepared, .sourceReady, .committed, .hydrating, .hydrationComplete, .linearPivoted,
    .materialized].find? fun p => p.text = s

inductive PhaseV6
  | lazyPrepared | lazyDormant | lazyClaimed | lazyActive | materializing | hydrationComplete
  | linearPivoted | materialized
deriving DecidableEq

def PhaseV6.text : PhaseV6 → String
  | .lazyPrepared => "LAZY_PREPARED"
  | .lazyDormant => "LAZY_DORMANT"
  | .lazyClaimed => "LAZY_CLAIMED"
  | .lazyActive => "LAZY_ACTIVE"
  | .materializing => "MATERIALIZING"
  | .hydrationComplete => "HYDRATION_COMPLETE"
  | .linearPivoted => "LINEAR_PIVOTED"
  | .materialized => "MATERIALIZED"

def PhaseV6.ofText? (s : String) : Option PhaseV6 :=
  [PhaseV6.lazyPrepared, .lazyDormant, .lazyClaimed, .lazyActive, .materializing,
    .hydrationComplete, .linearPivoted, .materialized].find? fun p => p.text = s

/-- Phases in which one node owns the volume. -/
def PhaseV6.owned : PhaseV6 → Bool
  | .lazyClaimed | .lazyActive | .materializing | .hydrationComplete | .linearPivoted => true
  | .lazyPrepared | .lazyDormant | .materialized => false

inductive Operation
  | alloc | snapshot | rollback
deriving DecidableEq

def Operation.text : Operation → String
  | .alloc => "ALLOC"
  | .snapshot => "SNAPSHOT"
  | .rollback => "ROLLBACK"

def Operation.ofText? (s : String) : Option Operation :=
  [Operation.alloc, .snapshot, .rollback].find? fun o => o.text = s

/-- `$TOKEN`. -/
def isTokenChar (c : Char) : Bool := c.isAlphanum || c ∈ ['_', '.', '+', '-']

def isToken (s : String) : Bool := plus isTokenChar (body s)

/-- `_token`: the capture has no final line feed even where the value has one. -/
def token (label : String) (value : Option String) : Except String String := do
  dieIf (value.getD "" = "") (label ++ " is missing")
  dieIf (!isToken (value.getD "")) (label ++ " contains characters unsafe for an LVM tag")
  return body (value.getD "")

def requireToken (label : String) (value : Option String) : Except String Unit := do
  let _ ← token label value
  return

/-- `/^$TX$/`, false on `undef`. -/
def isTx (value : Option String) : Bool :=
  match value with
  | none => false
  | some s => exactly 32 isLowerHex (body s)

/-- The common shape `!defined($x) || $x !~ /^\d+$/ || ...` of the number checks. -/
def badNumber (value : Option String) (bad : Perl.Num → Bool) : Bool :=
  match value with
  | none => true
  | some s => !isDigits s || bad (numify s)

def badGeneration (value : Option String) : Bool := badNumber value fun n => n.gt 99999999

def badRegion (value : Option String) : Bool :=
  badNumber value fun n => n.lt 8 || n.gt 2097152 || (n.value &&& (n.value - 1)) != 0

def badBytes (value : Option String) : Bool :=
  badNumber value fun n => n.lt 512 || n.hasRemainder 512

def badPublication (value : Option String) : Bool := badNumber value fun n => n.gt 9999999999

/-- `$values{f} = $text`. -/
def put (values : Record) (f : Field) (s : String) : Record := Function.update values f (some s)

/-- `$values{f} = int($values{f})`. -/
def putInt (values : Record) (f : Field) : Record := put values f (numify (text values f)).text

def putDefault (values : Record) (f : Field) (s : String) : Record :=
  if (values f).isNone then put values f s else values

/-! ## Families -/

theorem isTokenChar_cases {c : Char} (h : isTokenChar c = true) :
    isWord c = true ∨ c = '.' ∨ c = '+' ∨ c = '-' := by
  simp only [isTokenChar, Bool.or_eq_true, decide_eq_true_eq, List.mem_cons, List.not_mem_nil,
    or_false] at h
  rcases h with h | rfl | h
  · exact Or.inl (by simp [isWord, h])
  · exact Or.inl (by decide)
  · exact Or.inr h

def alphabet : Alphabet Field where
  name := Field.name
  isValue := isTokenChar
  name_injective := by
    intro f g h
    cases f <;> cases g <;> first | rfl | exact absurd h (by decide)
  name_word := by
    intro f
    cases f <;> decide
  value_latin1 := by
    intro c hc
    rcases isTokenChar_cases hc with h | rfl | rfl | rfl
    · exact lt_trans (word_ascii h) (by decide)
    all_goals decide
  value_space := by
    intro c hc
    rcases isTokenChar_cases hc with h | rfl | rfl | rfl
    · exact word_not_space h
    all_goals decide
  value_bar := by decide
  value_comma := by decide

def anchorFamily : Family Field where
  toAlphabet := alphabet
  lead := "slt_tg_"
  known := anchorFieldsV6 ++ [.sha256]
  noun := "Thick Generations anchor"
  lead_word := by decide

def generationFamily : Family Field where
  toAlphabet := alphabet
  lead := "slt_tgo_"
  known := [.v, .sid, .vol, .role, .generation, .snapshot, .sha256]
  noun := "generation ownership"
  lead_word := by decide

def lazyObjectFamily : Family Field where
  toAlphabet := alphabet
  lead := "slt_tgl_"
  known := [.v, .sid, .vol, .tx, .kind, .bytes, .region, .sha256]
  noun := "Lazy Thick object"
  lead_word := by decide

def transitionFamily : Family Field where
  toAlphabet := alphabet
  lead := "slt_tgt_"
  known := [.v, .sid, .vol, .tx, .kind, .generation, .region, .sha256]
  noun := "transition artifact ownership"
  lead_word := by decide

def vgIntentFamily : Family Field where
  toAlphabet := alphabet
  lead := "slt_tg_vgi_"
  known := [.v, .tx, .state, .op, .object, .before, .sha256]
  noun := "VG intent"
  lead_word := by decide

/-! ## Anchors -/

def anchorFields (version : String) : Except String (List Field) :=
  if version = "5" then .ok anchorFieldsV5
  else if version = "6" then .ok anchorFieldsV6
  else .error "unsupported Thick Generations anchor version"

def checkHead (phase : PhaseV5) (values : Record) : Except String Unit :=
  if phase = .prepared ∨ phase = .sourceReady then
    dieIf (text values .head ≠ text values .old)
      (phase.text ++ " anchor must keep the old generation authoritative")
  else do
    dieIf (text values .head ≠ text values .new)
      (phase.text ++ " anchor must publish the new generation as HEAD")
    dieIf (phase ≠ .materialized ∧ text values .old = text values .new)
      (phase.text ++ " transition cannot have identical old and new generations")

def checkOperation (op : Operation) (values : Record) : Except String Unit :=
  if op = .alloc then do
    dieIf (text values .snapshot ≠ "none") "ALLOC anchor must use the reserved snapshot marker"
    dieIf (text values .source ≠ text values .old ∨ text values .old ≠ text values .new ∨
        text values .head ≠ text values .old)
      "ALLOC anchor must use one identical source, old, new, and head generation"
  else do
    dieIf (text values .snapshot = "none") (op.text ++ " anchor must persist an exact snapshot name")
    dieIf (text values .old = text values .new)
      (op.text ++ " transition requires distinct old and new generations")
    dieIf (text values .source = text values .new)
      (op.text ++ " transition source cannot be the new destination")
    dieIf (op = .snapshot ∧ text values .source ≠ text values .old)
      "SNAPSHOT transition must clone the previous HEAD"
    dieIf (op = .rollback ∧ text values .source = text values .old)
      "ROLLBACK transition must clone a retained snapshot, not the previous HEAD"

def eagerTokenFields : List Field := [.sid, .vol, .snapshot, .source, .old, .new, .head]

/-- The version 5 part of `anchor_tags` before the digest: checks and normalisation. -/
def eagerAnchorValues (values : Record) : Except String Record := do
  forEach eagerTokenFields fun f => requireToken ("anchor " ++ f.name) (values f)
  let op ← token "anchor operation" (values .op)
  let values := put values .op (uc op)
  dieIf (Operation.ofText? (uc op)).isNone ("unknown Thick Generations operation '" ++ uc op ++ "'")
  let phase ← token "anchor phase" (values .phase)
  let values := put values .phase (uc phase)
  dieIf (PhaseV5.ofText? (uc phase)).isNone
    ("unknown Thick Generations phase '" ++ uc phase ++ "'")
  dieIf (!isTx (values .tx)) "invalid Thick Generations transaction ID"
  dieIf (badGeneration (values .generation)) "generation must be an integer from 0 through 99999999"
  let values := putInt values .generation
  dieIf (badRegion (values .region)) "invalid dm-clone region size in Thick Generations anchor"
  let values := putInt values .region
  checkHead ((PhaseV5.ofText? (uc phase)).getD .prepared) values
  checkOperation ((Operation.ofText? (uc op)).getD .alloc) values
  return values

def checkOwner (phase : PhaseV6) (values : Record) : Except String Unit :=
  if phase.owned then
    dieIf (text values .ownerNode = "none" ∨ text values .ownerBoot = "none" ∨
        text values .ownerEpoch = "none" ∨
        !exactly 36 (fun c => isLowerHex c || c = '-') (body (text values .ownerBoot)) ∨
        !isTx (values .ownerEpoch))
      "owned Lazy Thick phase requires an exact owner identity"
  else
    dieIf (text values .ownerNode ≠ "none" ∨ text values .ownerBoot ≠ "none" ∨
        text values .ownerEpoch ≠ "none")
      "unowned Lazy Thick phase must clear owner identity"

def checkPublication (phase : PhaseV6) (values : Record) : Except String Unit := do
  dieIf (phase = .lazyPrepared ∧ (numify (text values .publication)).gt 0)
    "prepared Lazy Thick state cannot have a publication epoch"
  dieIf (phase ≠ .lazyPrepared ∧ (numify (text values .publication)).lt 1)
    "published Lazy Thick state requires a positive publication epoch"

def lazyTokenFields : List Field :=
  [.sid, .vol, .snapshot, .source, .old, .new, .head, .policy, .metadata, .dataUuid,
    .metadataUuid, .zeroSource, .ownerNode, .ownerBoot, .ownerEpoch]

/-- `_lazy_anchor_tags` before the digest. -/
def lazyAnchorValues (values : Record) : Except String Record := do
  forEach lazyTokenFields fun f => requireToken ("lazy anchor " ++ f.name) (values f)
  let op ← token "lazy anchor operation" (values .op)
  let values := put values .op (uc op)
  dieIf (uc op ≠ "ALLOC") ("unknown Lazy Thick operation '" ++ uc op ++ "'")
  let phase ← token "lazy anchor phase" (values .phase)
  let values := put values .phase (uc phase)
  dieIf (PhaseV6.ofText? (uc phase)).isNone ("unknown Lazy Thick phase '" ++ uc phase ++ "'")
  dieIf (!isTx (values .tx)) "invalid Lazy Thick transaction ID"
  dieIf (text values .policy ≠ "lazy-zero") "Lazy Thick allocation policy must be lazy-zero"
  dieIf (text values .zeroSource ≠ "dm-zero") "Lazy Thick zero source must be dm-zero"
  dieIf (text values .snapshot ≠ "none") "Lazy Thick allocation must use the reserved snapshot marker"
  dieIf (text values .source ≠ text values .old ∨ text values .old ≠ text values .new ∨
      text values .new ≠ text values .head)
    "Lazy Thick allocation must retain one authoritative data generation"
  dieIf (badGeneration (values .generation)) "invalid Lazy Thick generation"
  let values := putInt values .generation
  dieIf (badRegion (values .region)) "invalid Lazy Thick region size"
  let values := putInt values .region
  dieIf (badBytes (values .bytes)) "invalid Lazy Thick byte size"
  let values := putInt values .bytes
  dieIf (badPublication (values .publication)) "invalid Lazy Thick publication epoch"
  let values := putInt values .publication
  checkOwner ((PhaseV6.ofText? (uc phase)).getD .lazyPrepared) values
  checkPublication ((PhaseV6.ofText? (uc phase)).getD .lazyPrepared) values
  return values

def versionValues (values : Record) : Except String Record :=
  if text values .v = "6" then lazyAnchorValues values else eagerAnchorValues values

/-- Field order and normalised values of an anchor. -/
def anchorValues (values : Record) : Except String (List Field × Record) := do
  let values := putDefault values .v "5"
  let fields ← anchorFields (text values .v)
  let normal ← versionValues values
  return (fields, normal)

def anchorTags (values : Record) : Except String (List String) := do
  let (fields, normal) ← anchorValues values
  anchorFamily.signedTags .sha256 fields normal

/-- `_canonical`: the canonical text of a record as it stands. -/
def canonical (values : Record) : Except String String := do
  let fields ← anchorFields (text values .v)
  return alphabet.canonical fields values

/-! ## Generation, Lazy object, transition and intent tags -/

def generationValues (values : Record) : Except String (List Field × Record) := do
  forEach [.sid, .vol, .role] fun f => requireToken ("generation " ++ f.name) (values f)
  dieIf (body (text values .role) ∉ ["head", "snapshot"]) "invalid generation role"
  dieIf (badGeneration (values .generation)) "generation must be an integer from 0 through 99999999"
  let normal := putInt (put values .v "1") .generation
  let fields : List Field := [.v, .sid, .vol, .role, .generation]
  if text values .role = "snapshot" then do
    requireToken "snapshot name" (values .snapshot)
    return (fields ++ [.snapshot], normal)
  else do
    dieIf (values .snapshot).isSome "head generation cannot carry a snapshot name"
    return (fields, normal)

def generationTags (values : Record) : Except String (List String) := do
  let (fields, normal) ← generationValues values
  generationFamily.signedTags .sha256 fields normal

def lazyObjectValues (values : Record) : Except String (List Field × Record) := do
  let values := putDefault values .v "1"
  dieIf (text values .v ≠ "1") "unsupported Lazy Thick object version"
  forEach [.sid, .vol, .kind] fun f => requireToken ("Lazy Thick object " ++ f.name) (values f)
  dieIf (text values .kind ≠ "data" ∧ text values .kind ≠ "metadata")
    "invalid Lazy Thick object kind"
  dieIf (!isTx (values .tx)) "invalid Lazy Thick object transaction ID"
  dieIf (badBytes (values .bytes)) "invalid Lazy Thick object byte size"
  dieIf (badRegion (values .region)) "invalid Lazy Thick object region size"
  return ([.v, .sid, .vol, .tx, .kind, .bytes, .region], putInt (putInt values .bytes) .region)

def lazyObjectTags (values : Record) : Except String (List String) := do
  let (fields, normal) ← lazyObjectValues values
  lazyObjectFamily.signedTags .sha256 fields normal

-- Unlike its siblings the transition encoder signs `generation` and `region` as given.
def transitionValues (values : Record) : Except String (List Field × Record) := do
  forEach [.sid, .vol, .kind] fun f => requireToken ("transition " ++ f.name) (values f)
  dieIf (text values .kind ≠ "metadata") "invalid transition artifact kind"
  dieIf (!isTx (values .tx)) "invalid transition transaction ID"
  dieIf (badGeneration (values .generation)) "invalid transition generation"
  dieIf (badRegion (values .region)) "invalid transition region size"
  let values := putDefault values .v "1"
  dieIf (text values .v ≠ "1") "unsupported transition artifact version"
  return ([.v, .sid, .vol, .tx, .kind, .generation, .region], values)

def transitionTags (values : Record) : Except String (List String) := do
  let (fields, normal) ← transitionValues values
  transitionFamily.signedTags .sha256 fields normal

def intentOperations : List String :=
  ["ALLOC", "EXTEND", "REMOVE", "REMOVE_SNAPSHOT", "DM_CUTOVER", "DM_PIVOT"]

/-- `/^[0-9a-f]{16,64}$/`. -/
def isBeforeDigest (s : String) : Bool :=
  16 ≤ (body s).toList.length && (body s).toList.length ≤ 64 && (body s).toList.all isLowerHex

-- Every field is replaced by its capture, so no final line feed survives.
def vgIntentValues (values : Record) : Except String (List Field × Record) := do
  let values := putDefault values .v "1"
  dieIf (body (text values .v) ≠ "1") "unsupported VG intent version"
  let values := put values .v (body (text values .v))
  dieIf (!isTx (values .tx)) "invalid VG intent transaction ID"
  let values := put values .tx (body (text values .tx))
  dieIf (body (text values .state) ≠ "OPEN") "invalid VG intent state"
  let values := put values .state (body (text values .state))
  dieIf (body (text values .op) ∉ intentOperations) "invalid VG intent operation"
  let values := put values .op (body (text values .op))
  let object ← token "VG intent object" (values .object)
  let values := put values .object object
  dieIf (!isBeforeDigest (text values .before)) "invalid VG intent before digest"
  let values := put values .before (body (text values .before))
  return ([.v, .tx, .state, .op, .object, .before], values)

def vgIntentTags (values : Record) : Except String (List String) := do
  let (fields, normal) ← vgIntentValues values
  vgIntentFamily.signedTags .sha256 fields normal

/-! ## Decoders -/

/-- The argument of a decoder: an array reference or a comma-separated scalar. -/
inductive TagInput
  | array (tags : List String)
  | scalar (text : Option String)

def TagInput.tags : TagInput → List String
  | .array tags => tags
  | .scalar text => splitOn ',' (text.getD "")

/-- `keys(%values)` in scalar context. -/
def keyCount (values : Record) : Nat := Field.all.countP fun f => (values f).isSome

def isComplete (required : List Field) (values : Record) : Bool :=
  keyCount values = required.length && required.all fun f => (values f).isSome

/-- First capture of `/^lead sha256=(.*)$/` over the tags. -/
def signatureOf (S : Family Field) (tags : List String) : String :=
  let head := (S.tag .sha256 "").toList
  ((tags.filter fun t => head.isPrefixOf t.toList).map fun t =>
    String.ofList (t.toList.drop head.length)).headD ""

/-- The part every decoder shares: exact field set, re-encoding, digest comparison. -/
def verifySigned (S : Family Field) (required : List Field)
    (encode : Record → Except String (List String)) (incomplete mismatch : String)
    (values : Record) : Except String Record := do
  dieIf (!isComplete required values) incomplete
  let wanted ← encode values
  dieIf (text values .sha256 ≠ signatureOf S wanted) mismatch
  return values

def decodeAnchorTags (tags : TagInput) : Except String Record := do
  let values ← anchorFamily.collect tags.tags
  dieIf (values .v).isNone "incomplete Thick Generations anchor"
  let fields ← anchorFields (text values .v)
  verifySigned anchorFamily (fields ++ [.sha256]) anchorTags "incomplete Thick Generations anchor"
    "Thick Generations anchor digest mismatch" values

def decodeGenerationTags (tags : TagInput) : Except String Record := do
  let values ← generationFamily.collect tags.tags
  let required : List Field := [.v, .sid, .vol, .role, .generation, .sha256] ++
    if text values .role = "snapshot" then [.snapshot] else []
  verifySigned generationFamily required generationTags "incomplete generation ownership proof"
    "generation ownership digest mismatch" values

def decodeLazyObjectTags (tags : TagInput) : Except String Record := do
  let values ← lazyObjectFamily.collect tags.tags
  verifySigned lazyObjectFamily [.v, .sid, .vol, .tx, .kind, .bytes, .region, .sha256]
    lazyObjectTags "incomplete Lazy Thick object ownership proof"
    "Lazy Thick object ownership digest mismatch" values

def decodeTransitionTags (tags : TagInput) : Except String Record := do
  let values ← transitionFamily.collect tags.tags
  verifySigned transitionFamily [.v, .sid, .vol, .tx, .kind, .generation, .region, .sha256]
    transitionTags "incomplete transition artifact ownership proof"
    "transition artifact ownership digest mismatch" values

-- A volume group without intent tags has no intent, which is not an error.
def decodeVgIntentTags (tags : TagInput) : Except String (Option Record) := do
  let values ← vgIntentFamily.collect tags.tags
  if keyCount values = 0 then return none
  else
    let decoded ← verifySigned vgIntentFamily [.v, .tx, .state, .op, .object, .before, .sha256]
      vgIntentTags "incomplete VG intent" "VG intent digest mismatch" values
    return some decoded

end SharedLvmThin.Thick
