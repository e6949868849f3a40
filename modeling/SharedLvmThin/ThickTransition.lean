import SharedLvmThin.ThickTagValues

/-!
# Anchor transitions

`validate_anchor_transition` re-encodes both anchors and then compares the values as
given. Version 5 anchors carry a generation through a transaction; version 6 anchors
carry the ownership of one lazily allocated volume. The inversion lemmas at the end
say once what an accepted step can do.
-/

namespace SharedLvmThin.Thick
open Perl TagCodec

/-- `%ALLOWED_TRANSITION`. -/
def allowedTransition : PhaseV5 → PhaseV5 → Bool
  | .prepared, .sourceReady => true
  | .prepared, .materialized => true
  | .sourceReady, .committed => true
  | .committed, .hydrating => true
  | .committed, .hydrationComplete => true
  | .hydrating, .hydrationComplete => true
  | .hydrationComplete, .linearPivoted => true
  | .linearPivoted, .materialized => true
  | .materialized, .prepared => true
  | _, _ => false

/-- `%ALLOWED_LAZY_TRANSITION`. -/
def allowedLazyTransition : PhaseV6 → PhaseV6 → Bool
  | .lazyPrepared, .lazyDormant => true
  | .lazyDormant, .lazyClaimed => true
  | .lazyClaimed, .lazyActive => true
  | .lazyClaimed, .lazyDormant => true
  | .lazyActive, .lazyDormant => true
  | .lazyActive, .materializing => true
  | .materializing, .hydrationComplete => true
  | .hydrationComplete, .linearPivoted => true
  | .linearPivoted, .materialized => true
  | _, _ => false

def allowedText (fromText toText : String) : Bool :=
  match PhaseV5.ofText? fromText, PhaseV5.ofText? toText with
  | some p, some q => allowedTransition p q
  | _, _ => false

def allowedLazyText (fromText toText : String) : Bool :=
  match PhaseV6.ofText? fromText, PhaseV6.ofText? toText with
  | some p, some q => allowedLazyTransition p q
  | _, _ => false

def unchanged (what : String) (before after : Record) (f : Field) : Except String Unit :=
  dieIf (text before f ≠ text after f) (what ++ " '" ++ f.name ++ "'")

def sameCanonical (message : String) (before after : Record) : Except String Unit := do
  let b ← canonical before
  let a ← canonical after
  dieIf (b ≠ a) message

/-- Fields fixed from `PREPARED` to `MATERIALIZED`. -/
def transactionFields : List Field := [.tx, .op, .snapshot, .source, .old, .new, .region]

/-- What a new transaction may change, and what every other step has to keep. -/
def checkTransaction (fromText toText : String) (before after : Record) : Except String Unit :=
  if fromText = "MATERIALIZED" ∧ toText = "PREPARED" then do
    dieIf (text after .tx = text before .tx) "new transition must use a fresh transaction ID"
    dieIf (text after .old ≠ text before .head ∨ text after .head ≠ text before .head)
      "new transition must preserve the authoritative old HEAD"
    dieIf (text after .new = text before .head)
      "new transition must name a distinct destination generation"
    dieIf (numberOf after .generation ≠ numberOf before .generation)
      "new transition cannot advance generation before commit"
  else
    forEach transactionFields (unchanged "anchor transition changed immutable field" before after)

/-- How HEAD and generation may move. -/
def checkAuthority (fromText toText : String) (before after : Record) : Except String Unit :=
  if fromText = "SOURCE_READY" ∧ toText = "COMMITTED" then do
    dieIf (text before .head ≠ text before .old ∨ text after .head ≠ text after .new)
      "commit must move HEAD from the old generation to the new generation"
    dieIf (numberOf after .generation ≠ numberOf before .generation + 1)
      "commit generation must advance exactly once"
  else if fromText = "PREPARED" ∧ toText = "MATERIALIZED" then do
    dieIf (text before .op ≠ "ALLOC") "initial materialization requires an ALLOC transaction"
    dieIf (text before .source ≠ text before .old ∨ text before .old ≠ text before .new ∨
        text before .head ≠ text before .old ∨ text after .head ≠ text before .head ∨
        numberOf after .generation ≠ numberOf before .generation)
      "initial materialization requires one identical source/old/new/head generation"
  else
    dieIf (text after .head ≠ text before .head ∨
        numberOf after .generation ≠ numberOf before .generation)
      "post-commit transition changed HEAD or generation"

/-- The version 5 part of `validate_anchor_transition`. -/
def validateEagerAnchorTransition (before after : Record) : Except String Unit :=
  let fromText := uc (text before .phase)
  let toText := uc (text after .phase)
  if fromText = toText then
    sameCanonical "idempotent anchor transition changed persistent state" before after
  else do
    dieIf (!allowedText fromText toText)
      ("illegal Thick Generations anchor phase transition '" ++ fromText ++ "->" ++ toText ++ "'")
    forEach [.v, .sid, .vol] (unchanged "anchor transition changed immutable field" before after)
    checkTransaction fromText toText before after
    checkAuthority fromText toText before after

def lazyImmutableFields : List Field :=
  [.v, .sid, .vol, .tx, .op, .snapshot, .source, .old, .new, .head, .generation, .region, .policy,
    .bytes, .metadata, .dataUuid, .metadataUuid, .zeroSource]

def ownerFields : List Field := [.ownerNode, .ownerBoot, .ownerEpoch]

def checkLazyPublication (fromText toText : String) (before after : Record) : Except String Unit :=
  if fromText = "LAZY_PREPARED" ∧ toText = "LAZY_DORMANT" then
    dieIf (numberOf before .publication ≠ 0 ∨ numberOf after .publication ≠ 1)
      "Lazy Thick publication must advance from epoch zero to one"
  else if fromText = "LAZY_DORMANT" ∧ toText = "LAZY_CLAIMED" then
    dieIf (numberOf after .publication ≠ numberOf before .publication + 1)
      "Lazy Thick claim must advance the publication epoch exactly once"
  else
    dieIf (numberOf after .publication ≠ numberOf before .publication)
      "Lazy Thick transition unexpectedly changed the publication epoch"

def checkLazyOwner (fromText toText : String) (before after : Record) : Except String Unit :=
  if toText = "LAZY_DORMANT" ∨ toText = "MATERIALIZED" then
    dieIf (text after .ownerNode ≠ "none" ∨ text after .ownerBoot ≠ "none" ∨
        text after .ownerEpoch ≠ "none")
      "Lazy Thick owner was not cleared at an unowned boundary"
  else if fromText = "LAZY_DORMANT" ∧ toText = "LAZY_CLAIMED" then
    dieIf (text after .ownerEpoch = "none") "Lazy Thick claim did not install a new owner epoch"
  else
    forEach ownerFields (unchanged "Lazy Thick transition changed active owner field" before after)

-- Unlike the version 5 validator this one compares the phases as spelled.
def validateLazyAnchorTransition (before after : Record) : Except String Unit :=
  let fromText := text before .phase
  let toText := text after .phase
  if fromText = toText then
    sameCanonical "idempotent Lazy Thick anchor transition changed persistent state" before after
  else do
    dieIf (!allowedLazyText fromText toText)
      ("illegal Lazy Thick anchor phase transition '" ++ fromText ++ "->" ++ toText ++ "'")
    forEach lazyImmutableFields
      (unchanged "Lazy Thick anchor transition changed immutable field" before after)
    checkLazyPublication fromText toText before after
    checkLazyOwner fromText toText before after

def validateVersionTransition (before after : Record) : Except String Unit :=
  if text before .v = "6" then validateLazyAnchorTransition before after
  else validateEagerAnchorTransition before after

def validateAnchorTransition (before after : Record) : Except String Unit := do
  let _ ← anchorTags before
  let _ ← anchorTags after
  dieIf (text before .v ≠ text after .v) "anchor transition changed immutable field 'v'"
  validateVersionTransition before after

def rebased (before : Record) (tx : String) : Record :=
  let head := text before .head
  put (put (put (put (put (put before .tx tx) .op "ALLOC") .snapshot "none") .source head)
    .old head) .new head

def materializedRebaseState (before : Record) (tx : Option String) : Except String Record := do
  let _ ← anchorTags before
  dieIf ((numify ((before .v).getD "0")).value = 6)
    "generic materialized anchor rebase is unavailable for Lazy Thick v6 state"
  dieIf (text before .phase ≠ "MATERIALIZED") "only a MATERIALIZED anchor can be rebased"
  dieIf (!isTx tx ∨ tx.getD "" = text before .tx)
    "materialized anchor rebase requires a fresh transaction ID"
  let after := rebased before (tx.getD "")
  let _ ← anchorTags after
  return after

end SharedLvmThin.Thick
