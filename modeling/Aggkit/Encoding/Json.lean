import Aggkit.Encoding.Text
import Mathlib.Data.List.Lex
import Mathlib.Order.RelClasses

/-! JSON values as `encoding/json` writes and reads them, and its default codecs for the types
of the agglayer certificate: fixed-size byte arrays (`common.Hash`, `common.Address`), `[]byte`,
unsigned integers, booleans, strings, pointers, slices and `map[string]V`.

A JSON value is the tree its text denotes: a string holds the bytes it denotes, and a number its
literal as the scanner delimits it, which is the text `encoding/json` hands a field's decoder
(`strconv.ParseUint`, or an `UnmarshalJSON` method). Escapes and white space are left out. A struct's field is read from the last member of its name, and names
are matched exactly. A Go map is kept with its keys in increasing order, as `encoding/json`
writes them, so that two maps with the same entries are the same value. -/

namespace Aggkit.Encoding

/-! ### Number literals -/

/-- The integer part of a JSON number: `0`, or digits without a leading zero. -/
def NumberLiteral.validInteger (s : List UInt8) : Bool :=
  isDigits s && (s.length == 1 || s.head? != some 0x30)

/-- The fraction of a JSON number: nothing, or `.` and digits. -/
def NumberLiteral.validFraction : List UInt8 → Bool
  | [] => true
  | c :: digits => c == 0x2E && isDigits digits

/-- The exponent of a JSON number: nothing, or `e` or `E`, a sign or none, and digits. -/
def NumberLiteral.validExponent : List UInt8 → Bool
  | [] => true
  | c :: rest => (c == 0x65 || c == 0x45) &&
    match rest with
    | s :: digits => if s = 0x2B ∨ s = 0x2D then isDigits digits else isDigits (s :: digits)
    | [] => false

/-- A JSON number, `-? int frac? exp?`, by its parts as the scanner delimits them. -/
structure NumberLiteral where
  negative : Bool
  integer : List UInt8
  fraction : List UInt8
  exponent : List UInt8
  wellFormed : (NumberLiteral.validInteger integer && NumberLiteral.validFraction fraction &&
    NumberLiteral.validExponent exponent) = true

namespace NumberLiteral

/-- The literal's text. -/
def text (l : NumberLiteral) : List UInt8 :=
  (if l.negative then [0x2D] else []) ++ l.integer ++ (l.fraction ++ l.exponent)

/-- The integer the sign and the integer digits denote; fraction and exponent aside. -/
def integerPart (l : NumberLiteral) : Int :=
  let n : Nat := (parseDecimal l.integer).getD 0
  if l.negative then -(n : Int) else n

/-- The literal `strconv.FormatUint` writes for `n`. -/
def ofNat (n : Nat) : NumberLiteral where
  negative := false
  integer := decimal n
  fraction := []
  exponent := []
  wellFormed := by
    have leading : ((decimal n).length == 1 || (decimal n).head? != some 0x30) = true := by
      by_cases zero : n = 0
      · subst zero; rfl
      · simp [decimal_head zero]
    simp [validInteger, validFraction, validExponent, isDigits_decimal, leading]

instance (n : Nat) : OfNat NumberLiteral n := ⟨ofNat n⟩

@[simp] theorem text_ofNat (n : Nat) : (ofNat n).text = decimal n := by
  simp [text, ofNat]

theorem parseDecimal_integer (l : NumberLiteral) :
    parseDecimal l.integer = some ((parseDecimal l.integer).getD 0) := by
  have valid := l.wellFormed
  simp only [validInteger, Bool.and_eq_true] at valid
  obtain ⟨n, parsed⟩ := Option.isSome_iff_exists.mp (parseDecimal_isSome valid.1.1.1)
  rw [parsed]; rfl

/-- The bytes a number literal is written with: digits, signs, `.`, `e` and `E`. -/
def isNumberByte (c : UInt8) : Bool :=
  (digitValue c).isSome || c == 0x2D || c == 0x2B || c == 0x2E || c == 0x65 || c == 0x45

theorem mem_text (l : NumberLiteral) : ∀ c ∈ l.text, isNumberByte c = true := by
  have valid := l.wellFormed
  simp only [Bool.and_eq_true, validInteger] at valid
  obtain ⟨⟨⟨integer, -⟩, fraction⟩, exponent⟩ := valid
  have digitsOnly : ∀ {s : List UInt8}, isDigits s = true → ∀ c ∈ s, isNumberByte c = true := by
    intro s run c member
    simp only [isDigits, Bool.and_eq_true, List.all_eq_true] at run
    simp [isNumberByte, run.2 c member]
  intro c member
  simp only [text, List.mem_append] at member
  rcases member with (sign | int) | frac | exp
  · split_ifs at sign
    · simp only [List.mem_singleton] at sign; subst sign; rfl
    · cases sign
  · exact digitsOnly integer c int
  · cases hf : l.fraction with
    | nil => simp [hf] at frac
    | cons f digits =>
      simp only [hf, validFraction, Bool.and_eq_true, beq_iff_eq] at fraction frac
      rcases List.mem_cons.mp frac with rfl | frac
      · rw [fraction.1]; rfl
      · exact digitsOnly fraction.2 c frac
  · cases he : l.exponent with
    | nil => simp [he] at exp
    | cons e rest =>
      simp only [he, validExponent, Bool.and_eq_true, Bool.or_eq_true, beq_iff_eq] at exponent exp
      rcases List.mem_cons.mp exp with rfl | exp
      · rcases exponent.1 with rfl | rfl <;> rfl
      · obtain ⟨-, signed⟩ := exponent
        rcases rest with _ | ⟨s, digits⟩
        · cases exp
        · dsimp only at signed
          split_ifs at signed with sign
          · rcases List.mem_cons.mp exp with rfl | exp
            · rcases sign with rfl | rfl <;> rfl
            · exact digitsOnly signed c exp
          · exact digitsOnly signed c exp

/-- A text with a byte no number literal is written with is not a number literal's text. -/
theorem text_ne {l : NumberLiteral} {s : List UInt8} (other : ∃ c ∈ s, isNumberByte c = false) :
    l.text ≠ s := by
  rintro rfl
  obtain ⟨c, member, notNumber⟩ := other
  exact absurd (l.mem_text c member) (by simp [notNumber])

/-- The byte after the integer digits, if any, starts the fraction or the exponent: a `.`, an
`e` or an `E`, none of them a digit. -/
theorem after_integer (l : NumberLiteral) :
    ∀ c ∈ (l.fraction ++ l.exponent).head?, digitValue c = none := by
  have valid := l.wellFormed
  simp only [Bool.and_eq_true] at valid
  obtain ⟨⟨-, fraction⟩, exponent⟩ := valid
  intro c first
  cases hf : l.fraction with
  | cons f digits =>
    simp only [hf, validFraction, Bool.and_eq_true, beq_iff_eq] at fraction
    simp only [hf, List.cons_append, List.head?_cons, Option.mem_def, Option.some.injEq] at first
    rw [← first, fraction.1]
    rfl
  | nil =>
    cases he : l.exponent with
    | nil => simp [hf, he] at first
    | cons e rest =>
      simp only [he, validExponent, Bool.and_eq_true, Bool.or_eq_true, beq_iff_eq] at exponent
      simp only [hf, he, List.nil_append, List.head?_cons, Option.mem_def, Option.some.injEq]
        at first
      rw [← first]
      rcases exponent.1 with rfl | rfl <;> rfl

/-- `fmt.Sscanf` with `%d` reads the sign and the integer digits of a literal, and not its
fraction or exponent. -/
theorem sscanfInt_text (l : NumberLiteral) :
    sscanfInt l.text =
      if -2 ^ 63 ≤ l.integerPart ∧ l.integerPart < 2 ^ 63 then some l.integerPart else none := by
  rw [text, sscanfInt_signed l.negative l.parseDecimal_integer l.after_integer]
  rfl

end NumberLiteral

/-- A JSON value. -/
inductive JsonValue where
  | null
  | bool (b : Bool)
  | number (literal : NumberLiteral)
  | string (s : List UInt8)
  | array (items : List JsonValue)
  | object (members : List (List UInt8 × JsonValue))

/-- The members of a JSON object. -/
abbrev Members := List (List UInt8 × JsonValue)

/-- The bytes of an ASCII name, such as a struct tag. -/
def ascii (name : String) : List UInt8 := name.data.map fun c => c.toNat.toUInt8

namespace JsonValue

/-- The value of the last member named `name`. -/
def lookup (name : List UInt8) : Members → Option JsonValue
  | [] => none
  | (key, value) :: rest =>
    match lookup name rest with
    | some later => some later
    | none => if key = name then some value else none

/-- `_, ok := obj[name]` on an object decoded into a `map[string]interface{}`. -/
def hasKey (name : String) (members : Members) : Bool := (lookup (ascii name) members).isSome

/-- A struct field tagged `name`, read by `decode`; a missing member leaves the zero value. -/
def field {α : Type} (name : String) (decode : JsonValue → Option α) (zero : α)
    (members : Members) : Option α :=
  match lookup (ascii name) members with
  | some value => decode value
  | none => some zero

theorem lookup_append (name : List UInt8) (first second : Members) :
    lookup name (first ++ second) =
      match lookup name second with
      | some later => some later
      | none => lookup name first := by
  induction first with
  | nil => cases h : lookup name second <;> simp [lookup, h]
  | cons member rest ih =>
    obtain ⟨key, value⟩ := member
    rw [List.cons_append, lookup, ih, lookup]
    cases lookup name second <;> rfl

theorem lookup_eq_none_of_not_mem {name : List UInt8} {members : Members}
    (notKey : name ∉ members.map Prod.fst) : lookup name members = none := by
  induction members with
  | nil => rfl
  | cons member rest ih =>
    simp only [List.map_cons, List.mem_cons, not_or] at notKey
    rw [lookup, ih notKey.2, if_neg (Ne.symm notKey.1)]

/-- A field absent from the members after `first` is read from `first`. -/
theorem field_append_of_absent {α : Type} (name : String) (decode : JsonValue → Option α)
    (zero : α) (first second : Members) (absent : lookup (ascii name) second = none) :
    field name decode zero (first ++ second) = field name decode zero first := by
  simp only [field, lookup_append, absent]

/-- A field absent from `first` is read from the members after it. -/
theorem field_append_of_absent_first {α : Type} (name : String) (decode : JsonValue → Option α)
    (zero : α) (first second : Members) (absent : lookup (ascii name) first = none) :
    field name decode zero (first ++ second) = field name decode zero second := by
  simp only [field, lookup_append]
  cases lookup (ascii name) second <;> simp [absent]

end JsonValue

/-! ### Scalars -/

/-- How `encoding/json` writes a Go string: coerced to valid UTF-8. -/
def goString (s : List UInt8) : JsonValue := .string (coerceUTF8 s)

/-- A Go string field; null leaves it empty. -/
def decodeString : JsonValue → Option (List UInt8)
  | .string s => some s
  | .null => some []
  | _ => none

/-- A `bool` field; null leaves it false. -/
def decodeBool : JsonValue → Option Bool
  | .bool b => some b
  | .null => some false
  | _ => none

/-- An unsigned integer field of `size` values: `strconv.ParseUint` reads the literal, which
must be digits only, and a value out of range is an error; null leaves the zero value. -/
def decodeUnsigned {α : Type} (size : Nat) (ofNat : Nat → α) (zero : α) : JsonValue → Option α
  | .number literal =>
    (parseDecimal literal.text).bind fun n => if n < size then some (ofNat n) else none
  | .null => some zero
  | _ => none

/-- A `uint32` field. -/
def decodeUint32 : JsonValue → Option UInt32 := decodeUnsigned (2 ^ 32) UInt32.ofNat 0

/-- A `uint64` field. -/
def decodeUint64 : JsonValue → Option UInt64 := decodeUnsigned (2 ^ 64) UInt64.ofNat 0

theorem goString_of_ascii {s : List UInt8} (ascii : IsAscii s) : goString s = .string s :=
  congrArg JsonValue.string (coerceUTF8_of_ascii ascii)

theorem decodeUint32_toNat (x : UInt32) : decodeUint32 (.number (.ofNat x.toNat)) = some x := by
  have small : x.toNat < 2 ^ 32 := x.toNat_lt_size
  rw [decodeUint32, decodeUnsigned, NumberLiteral.text_ofNat, parseDecimal_decimal, Option.some_bind,
    if_pos small]
  exact congrArg some (UInt32.toNat.inj (UInt32.toNat_ofNat_of_lt x.toNat_lt_size))

theorem decodeUint64_toNat (x : UInt64) : decodeUint64 (.number (.ofNat x.toNat)) = some x := by
  have small : x.toNat < 2 ^ 64 := x.toNat_lt_size
  rw [decodeUint64, decodeUnsigned, NumberLiteral.text_ofNat, parseDecimal_decimal, Option.some_bind,
    if_pos small]
  exact congrArg some (UInt64.toNat.inj (UInt64.toNat_ofNat_of_lt x.toNat_lt_size))

/-! ### Fixed-size byte arrays -/

/-- A Go byte array `[n]byte`. -/
structure FixedBytes (n : Nat) where
  bytes : List UInt8
  length_bytes : bytes.length = n
deriving DecidableEq

/-- `common.Hash`. -/
abbrev Hash := FixedBytes 32

/-- `common.Address`. -/
abbrev Address := FixedBytes 20

namespace FixedBytes

theorem ext {n : Nat} {a b : FixedBytes n} (same : a.bytes = b.bytes) : a = b := by
  cases a; cases b; cases same; rfl

/-- `SetBytes` (`common.BytesToHash`, `common.BytesToAddress`): the last `n` bytes of `b`,
padded on the left with zeros. -/
def setBytes (n : Nat) (b : List UInt8) : FixedBytes n where
  bytes := List.replicate (n - b.length) 0 ++ b.drop (b.length - n)
  length_bytes := by
    simp only [List.length_append, List.length_replicate, List.length_drop]
    omega

/-- The array of zero bytes, the zero value. -/
def zero (n : Nat) : FixedBytes n := setBytes n []

/-- `MarshalText` and `Hex`: `0x` and the lower-case hexadecimal digits of the bytes. -/
def marshalText {n : Nat} (h : FixedBytes n) : List UInt8 := 0x30 :: 0x78 :: bytes2Hex h.bytes

/-- How `encoding/json` writes the array, through `MarshalText`. -/
def toJson {n : Nat} (h : FixedBytes n) : JsonValue := goString h.marshalText

theorem setBytes_bytes {n : Nat} (h : FixedBytes n) : setBytes n h.bytes = h :=
  ext (by simp [setBytes, h.length_bytes])

end FixedBytes

/-- `hexutil.UnmarshalFixedText`: a `0x` or `0X` prefix, then exactly `2n` hexadecimal digits;
an empty text is read as no bytes. -/
def unmarshalFixedText (n : Nat) : List UInt8 → Option (FixedBytes n)
  | [] => if n = 0 then some (FixedBytes.zero n) else none
  | [_] => none
  | c :: x :: raw =>
    if c = 0x30 ∧ (x = 0x78 ∨ x = 0x58) ∧ raw.length = 2 * n ∧ allHex raw = true then
      some (FixedBytes.setBytes n (hexDecodePrefix raw))
    else none

/-- `hexutil.UnmarshalFixedJSON`, the `UnmarshalJSON` of `common.Hash` and `common.Address`:
the value must be a string. -/
def unmarshalFixedJSON (n : Nat) : JsonValue → Option (FixedBytes n)
  | .string s => unmarshalFixedText n s
  | _ => none

/-- go-ethereum's `FromHex`: the digits after a `0x` or `0X` prefix, a `0` put in front of an
odd number of them, read by `Hex2Bytes`. -/
def fromHex (s : List UInt8) : List UInt8 :=
  let digits := match s with
    | c :: x :: rest => if c = 0x30 ∧ (x = 0x78 ∨ x = 0x58) then rest else s
    | _ => s
  hexDecodePrefix (if digits.length % 2 = 1 then 0x30 :: digits else digits)

/-- `common.HexToHash`. -/
def hexToHash (s : List UInt8) : Hash := FixedBytes.setBytes 32 (fromHex s)

theorem marshalText_ascii {n : Nat} (h : FixedBytes n) : IsAscii h.marshalText := by
  intro c member
  rcases List.mem_cons.mp member with rfl | member
  · decide
  rcases List.mem_cons.mp member with rfl | member
  · decide
  · exact bytes2Hex_ascii _ c member

/-- A fixed-size array is read back from the text it is written as. -/
theorem unmarshalFixedJSON_toJson {n : Nat} (h : FixedBytes n) :
    unmarshalFixedJSON n h.toJson = some h := by
  have checks : ((0x30 : UInt8) = 0x30 ∧ ((0x78 : UInt8) = 0x78 ∨ (0x78 : UInt8) = 0x58) ∧
      (bytes2Hex h.bytes).length = 2 * n ∧ allHex (bytes2Hex h.bytes) = true) :=
    ⟨rfl, .inl rfl, by rw [length_bytes2Hex, h.length_bytes], allHex_bytes2Hex _⟩
  rw [FixedBytes.toJson, goString_of_ascii (marshalText_ascii h), unmarshalFixedJSON,
    FixedBytes.marshalText, unmarshalFixedText, if_pos checks, hexDecodePrefix_bytes2Hex,
    FixedBytes.setBytes_bytes]

/-- `HexToHash` reads back the text `Hash.String` gives. -/
theorem hexToHash_marshalText (h : Hash) : hexToHash h.marshalText = h := by
  have even : (bytes2Hex h.bytes).length % 2 = 0 := by rw [length_bytes2Hex]; omega
  simp [hexToHash, fromHex, FixedBytes.marshalText, even, hexDecodePrefix_bytes2Hex,
    FixedBytes.setBytes_bytes]

/-! ### Byte slices -/

/-- A Go `[]byte`: nil is `none`; `some []` is an empty slice that is not nil. -/
abbrev Bytes := Option (List UInt8)

/-- How `encoding/json` writes a `[]byte`: null for nil, else its base64 text. -/
def encodeBytes : Bytes → JsonValue
  | none => .null
  | some b => goString (base64Encode b)

/-- How `encoding/json` reads a `[]byte`: null for nil, else a base64 text. -/
def decodeBytes : JsonValue → Option Bytes
  | .null => some none
  | .string s => (base64Decode s).map some
  | _ => none

/-- A byte slice that is empty is nil: the two are told apart by no code of the certificate but
the encoders. -/
def Bytes.norm : Bytes → Bytes
  | some [] => none
  | b => b

theorem decodeBytes_encodeBytes (b : Bytes) : decodeBytes (encodeBytes b) = some b := by
  cases b with
  | none => rfl
  | some b =>
    rw [encodeBytes, goString_of_ascii (base64Encode_ascii b), decodeBytes,
      base64Decode_base64Encode]
    rfl

/-! ### Pointers and slices -/

/-- A pointer to a struct: null for nil, else the struct's members. -/
def encodePtr {α : Type} (encode : α → Members) : Option α → JsonValue
  | none => .null
  | some a => .object (encode a)

/-- A pointer to a struct whose encoder may panic (`none`). -/
def encodePtrM {α : Type} (encode : α → Option Members) : Option α → Option JsonValue
  | none => some .null
  | some a => (encode a).map .object

/-- A pointer to a struct: null for nil, else an object read by `decode`. -/
def decodePtr {α : Type} (decode : Members → Option α) : JsonValue → Option (Option α)
  | .null => some none
  | .object members => (decode members).map some
  | _ => none

/-- A slice: null for nil, else an array of its elements. -/
def encodeSlice {α : Type} (encode : α → Option JsonValue) : Option (List α) → Option JsonValue
  | none => some .null
  | some items => (items.mapM encode).map .array

/-- A slice: null for nil, else an array of elements read by `decode`. -/
def decodeSlice {α : Type} (decode : JsonValue → Option α) : JsonValue → Option (Option (List α))
  | .null => some none
  | .array items => (items.mapM decode).map some
  | _ => none

/-- A pointer to a value read by `decode`, such as `*uint64` or `*common.Hash`: null for nil. -/
def decodeNullable {α : Type} (decode : JsonValue → Option α) : JsonValue → Option (Option α)
  | .null => some none
  | value => (decode value).map some

section RoundTrip

variable {α : Type} {f : α → α}

theorem decodePtr_encodePtr {encode : α → Members} {decode : Members → Option α}
    (roundTrip : ∀ a, decode (encode a) = some a) (p : Option α) :
    decodePtr decode (encodePtr encode p) = some p := by
  cases p with
  | none => rfl
  | some a => simp only [encodePtr, decodePtr, roundTrip, Option.map_some']

theorem decodePtr_encodePtrM {encode : α → Option Members} {decode : Members → Option α}
    (p : Option α) (roundTrip : ∀ a, p = some a → (encode a).bind decode = some (f a)) :
    (encodePtrM encode p).bind (decodePtr decode) = some (p.map f) := by
  cases p with
  | none => rfl
  | some a =>
    obtain ⟨members, encoded, back⟩ := Option.bind_eq_some.mp (roundTrip a rfl)
    simp only [encodePtrM, encoded, Option.map_some', Option.some_bind, decodePtr, back]

theorem mapM_map_of_roundTrip {encode : α → JsonValue} {decode : JsonValue → Option α}
    (roundTrip : ∀ a, decode (encode a) = some a) (items : List α) :
    (items.map encode).mapM decode = some items := by
  induction items with
  | nil => rfl
  | cons a rest ih => rw [List.map_cons, List.mapM_cons, roundTrip, ih]; rfl

theorem mapM_roundTrip {encode : α → Option JsonValue} {decode : JsonValue → Option α}
    (items : List α) (roundTrip : ∀ a ∈ items, (encode a).bind decode = some (f a)) :
    (items.mapM encode).bind (·.mapM decode) = some (items.map f) := by
  induction items with
  | nil => rfl
  | cons a rest ih =>
    obtain ⟨j, encodedHead, head⟩ :=
      Option.bind_eq_some.mp (roundTrip a (List.mem_cons_self a rest))
    obtain ⟨js, encodedTail, tail⟩ := Option.bind_eq_some.mp
      (ih fun b member => roundTrip b (List.mem_cons_of_mem a member))
    simp only [List.mapM_cons, encodedHead, encodedTail, head, tail, Option.bind_eq_bind,
      Option.some_bind, Option.pure_def, List.map_cons]

theorem decodeSlice_encodeSlice {encode : α → Option JsonValue} {decode : JsonValue → Option α}
    (s : Option (List α)) (roundTrip : ∀ items, s = some items → ∀ a ∈ items,
      (encode a).bind decode = some (f a)) :
    (encodeSlice encode s).bind (decodeSlice decode) = some (s.map (·.map f)) := by
  cases s with
  | none => rfl
  | some items =>
    obtain ⟨js, encoded, back⟩ :=
      Option.bind_eq_some.mp (mapM_roundTrip items (roundTrip items rfl))
    simp only [encodeSlice, encoded, Option.map_some', Option.some_bind, decodeSlice, back]

end RoundTrip

/-! ### When the encoders panic -/

section Total

variable {α β : Type}

theorem mapM_isSome {encode : α → Option β} (items : List α) :
    (items.mapM encode).isSome = items.all fun a => (encode a).isSome := by
  induction items with
  | nil => rfl
  | cons a rest ih =>
    rw [List.mapM_cons, List.all_cons, ← ih]
    cases encode a <;> cases rest.mapM encode <;> rfl

theorem encodePtrM_isSome {encode : α → Option Members} (p : Option α) :
    (encodePtrM encode p).isSome = p.all fun a => (encode a).isSome := by
  cases p <;> simp [encodePtrM]

theorem encodeSlice_isSome {encode : α → Option JsonValue} (s : Option (List α)) :
    (encodeSlice encode s).isSome = (s.getD []).all fun a => (encode a).isSome := by
  cases s with
  | none => rfl
  | some items => rw [encodeSlice, Option.isSome_map', mapM_isSome, Option.getD_some]

end Total

/-! ### Maps -/

/-- `strings.Compare(a, b) < 0`: the bytewise order of Go strings. -/
def KeyLt (a b : List UInt8) : Prop := List.Lex (· < ·) (a.map UInt8.toNat) (b.map UInt8.toNat)

instance : DecidableRel KeyLt := fun a b =>
  inferInstanceAs (Decidable (List.Lex (· < ·) (a.map UInt8.toNat) (b.map UInt8.toNat)))

theorem keyLt_irrefl (a : List UInt8) : ¬ KeyLt a a := irrefl_of (List.Lex (· < ·)) _

theorem keyLt_trans {a b c : List UInt8} (first : KeyLt a b) (second : KeyLt b c) : KeyLt a c :=
  trans_of (List.Lex (· < ·)) first second

theorem keyLt_or_gt_of_ne {a b : List UInt8} (differ : a ≠ b) : KeyLt a b ∨ KeyLt b a := by
  have tri : IsTrichotomous (List ℕ) (List.Lex (· < ·)) := inferInstance
  rcases tri.trichotomous (a.map UInt8.toNat) (b.map UInt8.toNat) with less | same | greater
  · exact .inl less
  · exact absurd (List.map_injective_iff.mpr (fun _ _ h => UInt8.toNat.inj h) same) differ
  · exact .inr greater

/-- A Go `map[string]V`, its entries in increasing key order. -/
structure GoMap (α : Type) where
  entries : List (List UInt8 × α)
  sorted : (entries.map Prod.fst).Pairwise KeyLt

namespace GoMap

variable {α : Type}

/-- `m[key] = value` on the entries. -/
def insertEntry (key : List UInt8) (value : α) : List (List UInt8 × α) → List (List UInt8 × α)
  | [] => [(key, value)]
  | (k, v) :: rest =>
    if key = k then (key, value) :: rest
    else if KeyLt key k then (key, value) :: (k, v) :: rest
    else (k, v) :: insertEntry key value rest

theorem mem_keys_insertEntry {key x : List UInt8} {value : α} {l : List (List UInt8 × α)}
    (member : x ∈ (insertEntry key value l).map Prod.fst) : x = key ∨ x ∈ l.map Prod.fst := by
  induction l with
  | nil => simpa [insertEntry] using member
  | cons entry rest ih =>
    unfold insertEntry at member
    split_ifs at member with same
    · simp only [List.map_cons, List.mem_cons] at member ⊢
      rcases member with rfl | member
      · exact .inl rfl
      · exact .inr (.inr member)
    · simpa using member
    · simp only [List.map_cons, List.mem_cons] at member ⊢
      rcases member with rfl | member
      · exact .inr (.inl rfl)
      · rcases ih member with rfl | member
        · exact .inl rfl
        · exact .inr (.inr member)

theorem sorted_insertEntry (key : List UInt8) (value : α) {l : List (List UInt8 × α)}
    (sorted : (l.map Prod.fst).Pairwise KeyLt) :
    ((insertEntry key value l).map Prod.fst).Pairwise KeyLt := by
  induction l with
  | nil => simp [insertEntry]
  | cons entry rest ih =>
    obtain ⟨k, v⟩ := entry
    simp only [List.map_cons, List.pairwise_cons] at sorted
    unfold insertEntry
    split_ifs with same less
    · subst same
      simpa using sorted
    · simp only [List.map_cons, List.pairwise_cons, List.mem_cons]
      refine ⟨?_, sorted.1, sorted.2⟩
      rintro x (rfl | member)
      · exact less
      · exact keyLt_trans less (sorted.1 x member)
    · have greater : KeyLt k key := (keyLt_or_gt_of_ne same).resolve_left less
      simp only [List.map_cons, List.pairwise_cons]
      refine ⟨fun x member => ?_, ih sorted.2⟩
      rcases mem_keys_insertEntry member with rfl | member
      · exact greater
      · exact sorted.1 x member

/-- `m[key] = value`. -/
def insert (m : GoMap α) (key : List UInt8) (value : α) : GoMap α :=
  ⟨insertEntry key value m.entries, sorted_insertEntry key value m.sorted⟩

/-- The map of no entries. -/
def empty : GoMap α := ⟨[], List.Pairwise.nil⟩

/-- The map `encoding/json` builds from an object's members, in order: a later member of a key
overwrites an earlier one. -/
def ofList (entries : List (List UInt8 × α)) : GoMap α :=
  entries.foldl (fun m entry => m.insert entry.1 entry.2) empty

/-- `m[key]`, with whether it is there. -/
def lookup (m : GoMap α) (key : List UInt8) : Option α :=
  (m.entries.find? (·.1 = key)).map (·.2)

/-- The map with every value mapped by `f`. -/
def mapValues {β : Type} (f : α → β) (m : GoMap α) : GoMap β :=
  ⟨m.entries.map fun entry => (entry.1, f entry.2), by simpa [Function.comp_def] using m.sorted⟩

theorem ext {a b : GoMap α} (same : a.entries = b.entries) : a = b := by
  cases a; cases b; cases same; rfl

theorem insertEntry_of_greater {key : List UInt8} {value : α} {l : List (List UInt8 × α)}
    (greater : ∀ k ∈ l.map Prod.fst, KeyLt k key) : insertEntry key value l = l ++ [(key, value)] := by
  induction l with
  | nil => rfl
  | cons entry rest ih =>
    have below : KeyLt entry.1 key := greater entry.1 (List.mem_cons_self _ _)
    have differ : key ≠ entry.1 := fun same => keyLt_irrefl key (same ▸ below)
    have notLess : ¬ KeyLt key entry.1 := fun less => keyLt_irrefl key (keyLt_trans less below)
    rw [insertEntry, if_neg differ, if_neg notLess,
      ih fun k member => greater k (List.mem_cons_of_mem _ member)]
    rfl

/-- Inserting the entries of a map in order rebuilds it. -/
theorem ofList_entries (m : GoMap α) : ofList m.entries = m := by
  suffices grows : ∀ (done : GoMap α) (rest : List (List UInt8 × α)),
      ((done.entries ++ rest).map Prod.fst).Pairwise KeyLt →
      (rest.foldl (fun m entry => m.insert entry.1 entry.2) done).entries = done.entries ++ rest by
    exact ext ((grows empty m.entries m.sorted).trans rfl)
  intro done rest sorted
  induction rest generalizing done with
  | nil => simp
  | cons entry rest ih =>
    rw [List.foldl_cons, ih]
    · simp only [insert, insertEntry_of_greater fun k member => by
        simp only [List.map_append, List.pairwise_append, List.map_cons, List.mem_cons] at sorted
        exact sorted.2.2 k member entry.1 (.inl rfl), List.append_assoc, List.singleton_append]
    · simpa [insert, insertEntry_of_greater fun k member => by
        simp only [List.map_append, List.pairwise_append, List.map_cons, List.mem_cons] at sorted
        exact sorted.2.2 k member entry.1 (.inl rfl)] using sorted

end GoMap

/-- How `encoding/json` writes a `map[string]V`: null for nil, else an object whose keys, coerced
to valid UTF-8, come in increasing order of the map's keys. -/
def encodeMap {α : Type} (encode : α → JsonValue) : Option (GoMap α) → JsonValue
  | none => .null
  | some m => .object (m.entries.map fun entry => (coerceUTF8 entry.1, encode entry.2))

/-- How `encoding/json` reads a `map[string]V`: null for nil, else the map of the object's
members, each value read by `decode`. -/
def decodeMap {α : Type} (decode : JsonValue → Option α) : JsonValue → Option (Option (GoMap α))
  | .null => some none
  | .object members =>
    (members.mapM fun member => (decode member.2).map (member.1, ·)).map fun entries =>
      some (GoMap.ofList entries)
  | _ => none

/-- The map read back from what `encodeMap` writes: its keys coerced to valid UTF-8, entry after
entry, so that keys that become equal keep the value of the greatest. -/
def GoMap.coerceKeys {α : Type} (m : GoMap α) : GoMap α :=
  GoMap.ofList (m.entries.map fun entry => (coerceUTF8 entry.1, entry.2))

theorem decodeMap_encodeMap {α : Type} {encode : α → JsonValue} {decode : JsonValue → Option α}
    (roundTrip : ∀ a, decode (encode a) = some a) (m : Option (GoMap α)) :
    decodeMap decode (encodeMap encode m) = some (m.map GoMap.coerceKeys) := by
  cases m with
  | none => rfl
  | some m =>
    have members : ∀ entries : List (List UInt8 × α),
        (entries.map fun entry => (coerceUTF8 entry.1, encode entry.2)).mapM
          (fun member => (decode member.2).map (member.1, ·)) =
        some (entries.map fun entry => (coerceUTF8 entry.1, entry.2)) := by
      intro entries
      induction entries with
      | nil => rfl
      | cons entry rest ih =>
        rw [List.map_cons, List.mapM_cons, ih]
        simp only [roundTrip, Option.map_some']
        rfl
    simp only [encodeMap, decodeMap, members, Option.map_some']
    rfl

/-- With keys that are valid UTF-8, the map read back is the map written. -/
theorem GoMap.coerceKeys_of_valid {α : Type} (m : GoMap α)
    (valid : ∀ key ∈ m.entries.map Prod.fst, validString key = true) : m.coerceKeys = m := by
  have keys : (m.entries.map fun entry => (coerceUTF8 entry.1, entry.2)) = m.entries := by
    conv => rhs; rw [← List.map_id m.entries]
    refine List.map_congr_left fun entry member => ?_
    rw [coerceUTF8_of_valid (valid entry.1 (List.mem_map_of_mem _ member))]
    rfl
  rw [coerceKeys, keys, ofList_entries]

end Aggkit.Encoding
