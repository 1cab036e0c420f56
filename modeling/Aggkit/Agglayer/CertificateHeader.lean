import Aggkit.Agglayer.CertificateJson

/-!
# Certificate status and header

`CertificateStatus`, the header the agglayer returns for a certificate
(`interop_getCertificateHeader`), and their decoders `CertificateStatus.UnmarshalJSON` and
`CertificateHeader.UnmarshalJSON`.

A status is decoded from its name, from any text that contains `InError`, or else from the
number `fmt.Sscanf` reads at the start of the text; `LeafType.UnmarshalJSON` falls back on the
same scan and converts the number to `uint8`. So every int64 is a status that decodes without
error, and every JSON number whose integer part is an int64 a leaf type, its fraction and
exponent unread, while the name tables of `String` hold five statuses and two leaf types. The results at the end say which decoded values `String`,
`IsClosed` and `BridgeExit.MarshalJSON` handle.
-/
namespace Aggkit.Agglayer

open Aggkit.Encoding JsonValue

/-- `CertificateStatus`, an `int`: a signed 64-bit integer. -/
@[ext]
structure CertificateStatus where
  toInt : Int
  inRange : -2 ^ 63 ≤ toInt ∧ toInt < 2 ^ 63
deriving DecidableEq

namespace CertificateStatus

/-- `Pending`. -/
def pending : CertificateStatus := ⟨0, by decide⟩

/-- `Proven`. -/
def proven : CertificateStatus := ⟨1, by decide⟩

/-- `Candidate`. -/
def candidate : CertificateStatus := ⟨2, by decide⟩

/-- `InError`. -/
def inError : CertificateStatus := ⟨3, by decide⟩

/-- `Settled`. -/
def settled : CertificateStatus := ⟨4, by decide⟩

/-- `NonSettledStatuses`. -/
def nonSettledStatuses : List CertificateStatus := [pending, candidate, proven]

/-- `String`: the entry of the name table; `none` for a status outside it, where Go panics. -/
def string (c : CertificateStatus) : Option (List UInt8) :=
  if c.toInt < 0 then none
  else [ascii "Pending", ascii "Proven", ascii "Candidate", ascii "InError", ascii "Settled"].get?
    c.toInt.toNat

/-- `IsOpen`. -/
def isOpen (c : CertificateStatus) : Bool := nonSettledStatuses.contains c

/-- `IsClosed`. -/
def isClosed (c : CertificateStatus) : Bool := !c.isOpen

/-- `IsInError`. -/
def isInError (c : CertificateStatus) : Bool := c == inError

/-- `UnmarshalJSON` on the raw text of a value: the quotes trimmed, a text containing `InError`
is `InError`, a name is its status, and another text is the `int` `fmt.Sscanf` reads from it, or
the error `invalid status: <status>`. -/
def unmarshalJSON (rawStatus : List UInt8) : Except (List UInt8) CertificateStatus :=
  let trimmed := trimQuotes rawStatus
  let status := if stringsContains (ascii "InError") trimmed then ascii "InError" else trimmed
  if status = ascii "Pending" then .ok pending
  else if status = ascii "InError" then .ok inError
  else if status = ascii "Proven" then .ok proven
  else if status = ascii "Candidate" then .ok candidate
  else if status = ascii "Settled" then .ok settled
  else match scanned : sscanfInt status with
    | some statusInt => .ok ⟨statusInt, sscanfInt_inRange scanned⟩
    | none => .error (ascii "invalid status: " ++ status)

theorem string_isSome (c : CertificateStatus) :
    c.string.isSome ↔ 0 ≤ c.toInt ∧ c.toInt < 5 := by
  rw [string]
  split_ifs with negative
  · simp only [Option.isSome_none, Bool.false_eq_true, false_iff]
    omega
  · simp only [List.get?_eq_getElem?, Option.isSome_iff_ne_none, ne_eq,
      List.getElem?_eq_none_iff, not_le, List.length_cons, List.length_nil]
    omega

theorem isClosed_iff (c : CertificateStatus) :
    c.isClosed ↔ c.toInt ≠ 0 ∧ c.toInt ≠ 1 ∧ c.toInt ≠ 2 := by
  simp [isClosed, isOpen, nonSettledStatuses, CertificateStatus.ext_iff, pending, proven,
    candidate, and_comm, and_left_comm]

end CertificateStatus

/-- `GenericError`: the key of the agglayer's error and its value, which the code keeps as the
text `json.Marshal` writes for it (here the value itself). -/
structure GenericError where
  key : List UInt8
  value : JsonValue

/-- `CertificateHeader`. -/
structure CertificateHeader where
  networkID : UInt32
  height : UInt64
  epochNumber : Option UInt64
  certificateIndex : Option UInt64
  certificateID : Hash
  previousLocalExitRoot : Option Hash
  newLocalExitRoot : Hash
  status : CertificateStatus
  metadata : Hash
  error : Option GenericError
  settlementTxHash : Option Hash

/-- Why `CertificateHeader.UnmarshalJSON` fails. -/
inductive HeaderError where
  /-- `json.Unmarshal` of the members fails; its text is the library's. -/
  | decode
  /-- The error of the status, with its text. -/
  | message (text : List UInt8)

/-- An order in which `for key, value := range m` visits the entries of a map: Go leaves it
unspecified, so it is a parameter, any permutation of the entries. -/
structure RangeOrder where
  visit : GoMap JsonValue → List (List UInt8 × JsonValue)
  perm : ∀ m, (visit m).Perm m.entries

/-- `convertMapValue[map[string]interface{}](data, key)`, the instance the header decoder calls:
the object under `key`, as the map `encoding/json` decodes it into. -/
def convertMapValue (data : GoMap JsonValue) (key : String) :
    Except (List UInt8) (GoMap JsonValue) :=
  match data.lookup (ascii key) with
  | none => .error (ascii "key " ++ ascii key ++ ascii " not found in map")
  | some (.object members) => .ok (GoMap.ofList members)
  | some _ => .error (ascii "value of key " ++ ascii key ++
      ascii " is not of type map[string]interface \x7b\x7d")

namespace CertificateHeader

/-- The `Alias` part of `aux` decoded into a new header, every field zero and the error nil: the
header's own `status` member is shadowed by `aux.Status`. -/
def decodeAlias (members : Members) : Option CertificateHeader := do
  let networkID ← field "network_id" decodeUint32 0 members
  let height ← field "height" decodeUint64 0 members
  let epochNumber ← field "epoch_number" (decodeNullable decodeUint64) none members
  let certificateIndex ← field "certificate_index" (decodeNullable decodeUint64) none members
  let certificateID ← field "certificate_id" (unmarshalFixedJSON 32) (.zero 32) members
  let previousLocalExitRoot ←
    field "prev_local_exit_root" (decodeNullable (unmarshalFixedJSON 32)) none members
  let newLocalExitRoot ← field "new_local_exit_root" (unmarshalFixedJSON 32) (.zero 32) members
  let metadata ← field "metadata" (unmarshalFixedJSON 32) (.zero 32) members
  let settlementTxHash ←
    field "settlement_tx_hash" (decodeNullable (unmarshalFixedJSON 32)) none members
  pure ⟨networkID, height, epochNumber, certificateIndex, certificateID, previousLocalExitRoot,
    newLocalExitRoot, CertificateStatus.pending, metadata, none, settlementTxHash⟩

/-- The loop over `inErrDataMap`: every entry overwrites `agglayerErr`, so the error is the entry
visited last, nil for an empty map. -/
def agglayerError (order : RangeOrder) (inErrDataMap : GoMap JsonValue) : Option GenericError :=
  (order.visit inErrDataMap).foldl (fun _ entry => some ⟨entry.1, entry.2⟩) none

/-- The `switch` on the dynamic type of `aux.Status`: a string is read by
`CertificateStatus.UnmarshalJSON` and leaves the error nil; an object must hold an object
`InError` holding an object `error`, and makes the header `InError` with the error of that map;
anything else, null or a missing member included, is `invalid status type`. -/
def processStatus (order : RangeOrder) (c : CertificateHeader) :
    JsonValue → Except (List UInt8) CertificateHeader
  | .string status => (CertificateStatus.unmarshalJSON status).map fun s => { c with status := s }
  | .object status => do
    let inErrMap ← convertMapValue (GoMap.ofList status) "InError"
    let inErrDataMap ← convertMapValue inErrMap "error"
    pure { c with status := CertificateStatus.inError, error := agglayerError order inErrDataMap }
  | _ => .error (ascii "invalid status type")

/-- `UnmarshalJSON` into a new header; `none` for JSON null, which sets `aux` to nil before
`aux.Status` reads through it. -/
def unmarshalJSON (order : RangeOrder) : JsonValue → Option (Except HeaderError CertificateHeader)
  | .null => none
  | .object members => some <|
    match decodeAlias members with
    | none => .error .decode
    | some c =>
      (processStatus order c ((lookup (ascii "status") members).getD .null)).mapError .message
  | _ => some (.error .decode)

end CertificateHeader

/-! ### What the numeric fallbacks accept -/

/-- A text of digits and a sign is no name that has another byte, such as a letter. -/
private theorem bigIntString_ne_name {a : Int} {name : List UInt8}
    (letter : ∃ c ∈ name, c ≠ 0x2D ∧ digitValue c = none) : bigIntString (some a) ≠ name :=
  fun same => by
    obtain ⟨c, member, notSign, notDigit⟩ := letter
    exact not_mem_bigIntString notSign notDigit (same ▸ member)

/-- Every int64 is a status: `UnmarshalJSON` reads it back from its decimal text. `String` names
exactly the statuses from 0 to 4, and `IsClosed` holds for every status but 0, 1 and 2
(`Pending`, `Proven`, `Candidate`). -/
theorem CertificateStatus.unmarshalJSON_bigIntString (s : CertificateStatus) :
    CertificateStatus.unmarshalJSON (bigIntString (some s.toInt)) = .ok s ∧
      (s.string.isSome ↔ 0 ≤ s.toInt ∧ s.toInt < 5) ∧
      (s.isClosed ↔ s.toInt ≠ 0 ∧ s.toInt ≠ 1 ∧ s.toInt ≠ 2) := by
  refine ⟨?_, s.string_isSome, s.isClosed_iff⟩
  have unquoted : trimQuotes (bigIntString (some s.toInt)) = bigIntString (some s.toInt) :=
    trimQuotes_of_not_mem (not_mem_bigIntString (by decide) (by decide))
  have noInError : stringsContains (ascii "InError") (bigIntString (some s.toInt)) = false :=
    stringsContains_eq_false (c := 0x49) (by decide) (not_mem_bigIntString (by decide) (by decide))
  simp only [CertificateStatus.unmarshalJSON, unquoted, noInError, Bool.false_eq_true, if_false]
  rw [if_neg, if_neg, if_neg, if_neg, if_neg]
  · split
    all_goals
      rename_i scanned
      have read := scanned
      simp only [unquoted, noInError, Bool.false_eq_true, if_false,
        sscanfInt_bigIntString s.inRange, Option.some.injEq, reduceCtorEq] at read
    exact congrArg Except.ok (CertificateStatus.ext read.symm)
  all_goals exact bigIntString_ne_name (by decide)

/-- `LeafType.UnmarshalJSON` reads a JSON number with `fmt.Sscanf`'s `%d`: the sign and the
integer digits of its literal, and not the fraction or the exponent after them. The number is a
leaf type when that integer is an int64, converted to `uint8`. -/
theorem LeafType.decodeJSON_number (literal : NumberLiteral) :
    LeafType.decodeJSON (.number literal) =
      if -2 ^ 63 ≤ literal.integerPart ∧ literal.integerPart < 2 ^ 63 then
        some ⟨UInt8.ofNat (literal.integerPart % 256).toNat⟩
      else none := by
  have unquoted : trimQuotes literal.text = literal.text :=
    trimQuotes_of_not_mem fun member => absurd (literal.mem_text 0x22 member) (by decide)
  rw [LeafType.decodeJSON, LeafType.unmarshalJSON]
  simp only [unquoted]
  rw [if_neg (NumberLiteral.text_ne ⟨0x54, by decide, by decide⟩),
    if_neg (NumberLiteral.text_ne ⟨0x4D, by decide, by decide⟩), literal.sscanfInt_text]
  split_ifs <;> rfl

/-- `1e3` is leaf type 1: the exponent is not read. -/
example : LeafType.decodeJSON (.number ⟨false, [0x31], [], [0x65, 0x33], rfl⟩) = some ⟨1⟩ := by
  decide

/-- `-1` is leaf type 255. -/
example : LeafType.decodeJSON (.number ⟨true, [0x31], [], [], rfl⟩) = some ⟨255⟩ := by decide

/-- The numeric fallbacks accept values outside the name tables: the status text `"7"`, alone
or as the `status` of a header, is status 7, which `String` indexes past its five names and
`IsClosed` reports closed; the leaf type `2`, alone or in a bridge exit, is leaf type 2, which
`String` indexes past its two names, so that `BridgeExit.MarshalJSON` panics. -/
theorem decoders_accept_undeclared_values (order : RangeOrder) :
    (∃ s, CertificateStatus.unmarshalJSON [0x22, 0x37, 0x22] = .ok s ∧ s.toInt = 7 ∧
      s.string = none ∧ s.isClosed) ∧
    (∃ h, CertificateHeader.unmarshalJSON order (.object [(ascii "status", .string [0x37])]) =
      some (.ok h) ∧ h.status.toInt = 7 ∧ h.status.string = none ∧ h.status.isClosed) ∧
    (∃ l, LeafType.unmarshalJSON [0x32] = some l ∧ l.string = none) ∧
    (∃ b, BridgeExit.unmarshalJSON
      [(ascii "leaf_type", .number 2), (ascii "amount", .string [0x30])] = some b ∧
        b.marshalJSON = none) := by
  have two : (2 : NumberLiteral).text = [0x32] := (NumberLiteral.text_ofNat 2).trans (by simp [decimal])
  have leafTypeTwo : LeafType.decodeJSON (.number 2) = some ⟨2⟩ := by
    rw [LeafType.decodeJSON, two]
    rfl
  refine ⟨⟨⟨7, by decide⟩, rfl, rfl, rfl, rfl⟩, ⟨_, rfl, rfl, rfl, rfl⟩, ⟨_, rfl, rfl⟩,
    ⟨⟨⟨2⟩, none, 0, .zero 20, some 0, none⟩, ?_, rfl⟩⟩
  simp +decide only [BridgeExit.unmarshalJSON, field, lookup, leafTypeTwo, ↓reduceIte]

end Aggkit.Agglayer
