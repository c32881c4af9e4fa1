import Appraisal.Binary.Digest
import Appraisal.Binary.Rule
import Appraisal.RuleSet.Basic

/-!
# Images of rule sets

An image keeps a compiled rule set as bytes: a header of 32 bytes, and a payload with the
settings, the rules and their formulas. The header tells the length of the payload and the first
half of its hash. Patterns are not kept; they are compiled again from the rules. Whoever reads an
image checks it as if it came from elsewhere (`RuleSet.ofBytes`).
-/

namespace Appraisal

open Binary

/-! ### The payload -/

/-- A rule and its formulas. -/
structure StoredRule where
  rule : Rule
  formulas : List PreparedFormula
  deriving Inhabited

/-- What the payload of an image holds. -/
structure Payload where
  /-- The number of rules, as the writer counted them. -/
  ruleCount : UInt64
  /-- The number of actions of all rules. -/
  actionCount : UInt64
  /-- The hash of the text that the rules come from. -/
  source : Option Digest
  settings : Settings
  rules : List StoredRule

namespace Codec

/-- A hash. -/
def digest : Codec Digest where
  encode d := d.toList
  decode := do
    let bytes ← takeBytes 32
    if h : bytes.length = 32 then return ⟨bytes.toArray, by simpa using h⟩ else failure

/-- A rule and its formulas. -/
def storedRule : Codec StoredRule :=
  (rule.pair prepared.list).via (fun (rule, formulas) => { rule, formulas })
  fun r => (r.rule, r.formulas)

/-- A payload. -/
def payload : Codec Payload :=
  (word.pair <| word.pair <| digest.option.pair <| settings.pair storedRule.list).via
  (fun (ruleCount, actionCount, source, settings, rules) =>
    { ruleCount, actionCount, source, settings, rules })
  fun p => (p.ruleCount, p.actionCount, p.source, p.settings, p.rules)

end Codec

/-- The payload for a rule set and the text that it comes from. -/
def RuleSet.payload (s : RuleSet) (source : Option String) : Payload where
  ruleCount := UInt64.ofNat s.size
  actionCount := UInt64.ofNat (actionTotal s.sources)
  source := source.map fun text => Digest.hash text.toByteArray.toList
  settings := s.settings
  rules := s.rules.map fun c => { rule := c.rule, formulas := c.formulas }

/-! ### The header -/

namespace Image

/-- The bytes that every image begins with. -/
def magic : List UInt8 := [0x56, 0x41, 0x4c, 0x55]

/-- The version of the format. Only images of this version are read. -/
def formatVersion : Nat := 1

/-- The version of the program that writes an image, which readers do not mind. -/
def engineVersion : Nat := 1

/-- The number of bytes of the header. -/
def headerSize : Nat := 32

/-- The flag of a rule set that stops on the first match. -/
def stopFlag : Nat := 1

/-- The first half of the hash of a payload. -/
def checksum (payload : List UInt8) : List UInt8 := (Digest.hash payload).toList.take 16

/-- The header of a payload. -/
def header (flags : Nat) (payload : List UInt8) : List UInt8 :=
  magic ++ littleEndian 2 formatVersion ++ littleEndian 2 engineVersion ++ littleEndian 4 flags ++
    littleEndian 4 payload.length ++ checksum payload

/-- What the header of an image says. -/
structure Header where
  version : Nat
  flags : Nat
  payloadLength : Nat
  checksum : List UInt8

/-- The number in some bytes of a list. -/
def numberAt (bytes : List UInt8) (first count : Nat) : Nat :=
  ofLittleEndian ((bytes.drop first).take count)

end Image

/-! ### Errors -/

/-- What is wrong with a payload that could be decoded. -/
inductive Inconsistency
  | ruleCount (said found : Nat)
  | actionCount (said found : Nat)
  | settings (e : SettingsError)
  | blankId
  | duplicateId (id : String)
  | formulaCount (rule : String) (actions formulas : Nat)
  | unprepared (rule : String) (place : Nat)
  | unusedFormula (rule : String) (place : Nat)
  | formulaTooDeep (rule : String) (place depth maximum : Nat)
  | unsorted
  | pattern (e : CompileError)

/-- The inconsistency in words. -/
def Inconsistency.text : Inconsistency → String
  | ruleCount said found =>
    "metadata says " ++ said.repr ++ " rules but payload has " ++ found.repr
  | actionCount said found =>
    "metadata says " ++ said.repr ++ " actions but payload has " ++ found.repr
  | settings e => e.message
  | blankId => "rule with empty id"
  | duplicateId id => "duplicate rule id '" ++ id ++ "'"
  | formulaCount rule actions formulas =>
    "rule '" ++ rule ++ "' has " ++ actions.repr ++ " actions but " ++ formulas.repr ++
      " prepared formulas"
  | unprepared rule place =>
    "rule '" ++ rule ++ "' action " ++ place.repr ++ " is a formula but was not prepared"
  | unusedFormula rule place =>
    "rule '" ++ rule ++ "' action " ++ place.repr ++ " carries a formula it does not use"
  | formulaTooDeep rule place depth maximum =>
    "rule '" ++ rule ++ "' action " ++ place.repr ++ " formula depth " ++ depth.repr ++
      " exceeds " ++ maximum.repr
  | unsorted => "rules not sorted by ascending evaluation_order"
  | pattern e => e.message

/-- Why bytes are no image of a rule set. -/
inductive ImageError
  | badMagic
  | incompatibleVersion (version : Nat)
  | checksumMismatch
  | lengthMismatch (expected found : Nat)
  | undecodable
  | inconsistent (e : Inconsistency)

/-- The message of an error. -/
def ImageError.message : ImageError → String
  | badMagic => "not a valuator binary: invalid magic bytes"
  | incompatibleVersion version =>
    "incompatible format version: blob is v" ++ version.repr ++ ", engine supports v" ++
      Image.formatVersion.repr
  | checksumMismatch => "integrity check failed: BLAKE3 checksum mismatch"
  | lengthMismatch expected found =>
    "payload length mismatch: expected " ++ expected.repr ++ " bytes, got " ++ found.repr
  | undecodable => "failed to decode payload"
  | inconsistent e => "validation failed: " ++ e.text

/-! ### Writing -/

/-- The image of a payload. -/
def Image.ofPayload (flags : Nat) (payload : List UInt8) : List UInt8 :=
  Image.header flags payload ++ payload

/-- The image of a rule set, with the hash of the text that it comes from. -/
def RuleSet.toBytes (s : RuleSet) (source : Option String) : List UInt8 :=
  Image.ofPayload (if s.stopsOnFirstMatch then Image.stopFlag else 0)
    (Codec.payload.encode (s.payload source))

/-! ### Reading -/

namespace Image

/-- Read the header. -/
def readHeader (bytes : List UInt8) : Except ImageError Header :=
  if bytes.length < headerSize then .error (.lengthMismatch headerSize bytes.length)
  else if bytes.take 4 ≠ magic then .error .badMagic
  else .ok {
    version := numberAt bytes 4 2
    flags := numberAt bytes 8 4
    payloadLength := numberAt bytes 12 4
    checksum := (bytes.drop 16).take 16 }

/-- Read the flags and the payload, once the header agrees with it. What follows the payload's
last member is ignored. -/
def readPayload (bytes : List UInt8) : Except ImageError (Nat × Payload) := do
  let header ← readHeader bytes
  let payload := bytes.drop headerSize
  if header.version ≠ formatVersion then throw (.incompatibleVersion header.version)
  if header.payloadLength ≠ payload.length then
    throw (.lengthMismatch header.payloadLength payload.length)
  if header.checksum ≠ checksum payload then throw .checksumMismatch
  match Codec.payload.decode payload with
  | some (p, _) => return (header.flags, p)
  | none => throw .undecodable

/-- The hash of the text that an image comes from. -/
def sourceDigest (bytes : List UInt8) : Except ImageError (Option Digest) := do
  return (← readPayload bytes).2.source

end Image

namespace StoredRule

/-- An action has a formula exactly if it needs one, and a tree may not be too high. The actions
of the rule are counted from `place` on. -/
def checkFormulas (id : String) (maximum : Nat) :
    (place : Nat) → List (Action × PreparedFormula) → Except Inconsistency Unit
  | _, [] => .ok ()
  | place, (a, formula) :: rest =>
    match formula, a.source? with
    | .none, some _ => .error (.unprepared id place)
    | .parsed _, none | .invalid _, none => .error (.unusedFormula id place)
    | .parsed e, some _ =>
      if maximum < e.depth then .error (.formulaTooDeep id place e.depth maximum)
      else checkFormulas id maximum (place + 1) rest
    | .none, none | .invalid _, some _ => checkFormulas id maximum (place + 1) rest

/-- Identities may not be blank and may not repeat, and formulas belong to actions; `seen` holds
the earlier identities. -/
def check (maximum : Nat) (seen : List String) : List StoredRule → Except Inconsistency Unit
  | [] => .ok ()
  | r :: rest => do
    let id := r.rule.id
    if r.rule.isAnonymous then throw .blankId
    if seen.contains id then throw (.duplicateId id)
    if r.formulas.length ≠ r.rule.actions.length then
      throw (.formulaCount id r.rule.actions.length r.formulas.length)
    checkFormulas id maximum 0 (r.rule.actions.zip r.formulas)
    check maximum (id :: seen) rest

end StoredRule

/-- Whether rules stand in ascending order. -/
def isAscending : List Rule → Bool
  | a :: b :: rest => a.precedes b && isAscending (b :: rest)
  | _ => true

/-- A payload has to be what the compiler might have made. -/
def Payload.check (p : Payload) : Except Inconsistency Unit := do
  let rules := p.rules.map StoredRule.rule
  if p.ruleCount.toNat ≠ rules.length then throw (.ruleCount p.ruleCount.toNat rules.length)
  if p.actionCount.toNat ≠ actionTotal rules then
    throw (.actionCount p.actionCount.toNat (actionTotal rules))
  p.settings.check.mapError .settings
  StoredRule.check p.settings.limits.maxDepth [] p.rules
  if !isAscending rules then throw .unsorted

/-- Compile the patterns of a stored rule. -/
def StoredRule.revive (r : StoredRule) : Except CompileError CompiledRule := do
  return { rule := r.rule, formulas := r.formulas, patterns := ← r.rule.patterns }

/-- The rule set of an image. -/
def RuleSet.ofBytes (bytes : List UInt8) : Except ImageError RuleSet := do
  let (flags, p) ← Image.readPayload bytes
  p.check.mapError .inconsistent
  let rules ← (p.rules.mapM StoredRule.revive).mapError fun e => .inconsistent (.pattern e)
  return { settings := p.settings, rules, stopsOnFirstMatch := flags % 2 = 1 }

end Appraisal
