import Mathlib.Data.Nat.Digits

/-! The byte-level encodings under the agglayer certificate's JSON, as Go's libraries compute
them: the coercion of strings to valid UTF-8 that `encoding/json` applies when it writes a
string (`unicode/utf8`), hexadecimal (`encoding/hex`, go-ethereum's `Bytes2Hex`/`Hex2Bytes`),
base64 (`encoding/base64`'s `StdEncoding`, which `encoding/json` uses for `[]byte`), the decimal
text of a `big.Int`, and the string helpers `LeafType`'s decoder calls.

Each encoder is undone by its decoder. The UTF-8 coercion keeps exactly the strings
`utf8.ValidString` accepts, and turns every other byte that starts no rune into U+FFFD. -/

namespace Aggkit.Encoding

/-- Every byte is ASCII: `encoding/json` writes such a string byte for byte, escapes aside. -/
def IsAscii (s : List UInt8) : Prop := ∀ b ∈ s, b.toNat < 0x80

instance : DecidablePred IsAscii := fun s => inferInstanceAs (Decidable (∀ b ∈ s, b.toNat < 0x80))

theorem toNat_uint8_ofNat (n : Nat) : (UInt8.ofNat n).toNat = n % 256 := rfl

theorem uint8_ofNat_eq {n : Nat} {b : UInt8} (low : n % 256 = b.toNat) : UInt8.ofNat n = b :=
  UInt8.toNat.inj low

theorem uint8_ofNat_toNat (b : UInt8) : UInt8.ofNat b.toNat = b :=
  uint8_ofNat_eq (Nat.mod_eq_of_lt b.toNat_lt_size)

/-! ### UTF-8 -/

/-- `first` and `acceptRanges` of `unicode/utf8` for a byte `b ≥ 0x80`: the length of the rune
it starts and the range of the rune's second byte, or none when it starts no rune. -/
def utf8First (b : Nat) : Option (Nat × Nat × Nat) :=
  if 0xC2 ≤ b ∧ b ≤ 0xDF then some (2, 0x80, 0xBF)
  else if b = 0xE0 then some (3, 0xA0, 0xBF)
  else if 0xE1 ≤ b ∧ b ≤ 0xEC then some (3, 0x80, 0xBF)
  else if b = 0xED then some (3, 0x80, 0x9F)
  else if 0xEE ≤ b ∧ b ≤ 0xEF then some (3, 0x80, 0xBF)
  else if b = 0xF0 then some (4, 0x90, 0xBF)
  else if 0xF1 ≤ b ∧ b ≤ 0xF3 then some (4, 0x80, 0xBF)
  else if b = 0xF4 then some (4, 0x80, 0x8F)
  else none

/-- A continuation byte, between `locb` and `hicb`. -/
def isContinuation (b : UInt8) : Bool := 0x80 ≤ b.toNat && b.toNat ≤ 0xBF

/-- The size `utf8.DecodeRune` gives the rune at the start of `s`, whose first byte is not
ASCII, when the rune is valid; none when it returns `RuneError` with size 1. -/
def runeSize : List UInt8 → Option Nat
  | [] => none
  | [_] => none
  | b0 :: b1 :: tail =>
    match utf8First b0.toNat with
    | none => none
    | some (size, lo, hi) =>
      if size ≤ tail.length + 2 ∧ lo ≤ b1.toNat ∧ b1.toNat ≤ hi ∧
          (tail.take (size - 2)).all isContinuation then some size
      else none

/-- `utf8.ValidString`, with `pending` bytes of an accepted rune still to pass. -/
def validFrom : Nat → List UInt8 → Bool
  | _, [] => true
  | pending + 1, _ :: rest => validFrom pending rest
  | 0, b :: rest =>
    if b.toNat < 0x80 then validFrom 0 rest
    else match runeSize (b :: rest) with
      | some size => validFrom (size - 1) rest
      | none => false

/-- `utf8.ValidString`. -/
def validString (s : List UInt8) : Bool := validFrom 0 s

/-- The bytes `encoding/json`'s `appendString` writes for a Go string, escapes aside, with
`pending` bytes of a valid rune still to copy: ASCII and valid runes are kept, and a byte at
which `utf8.DecodeRune` fails becomes U+FFFD. -/
def coerceFrom : Nat → List UInt8 → List UInt8
  | _, [] => []
  | pending + 1, b :: rest => b :: coerceFrom pending rest
  | 0, b :: rest =>
    if b.toNat < 0x80 then b :: coerceFrom 0 rest
    else match runeSize (b :: rest) with
      | some size => b :: coerceFrom (size - 1) rest
      | none => 0xEF :: 0xBF :: 0xBD :: coerceFrom 0 rest

/-- The string `encoding/json` writes for a Go string, as bytes. -/
def coerceUTF8 (s : List UInt8) : List UInt8 := coerceFrom 0 s

theorem coerceFrom_of_validFrom {pending : Nat} {s : List UInt8}
    (valid : validFrom pending s = true) : coerceFrom pending s = s := by
  induction s generalizing pending with
  | nil => cases pending <;> rfl
  | cons b rest ih =>
    cases pending with
    | succ pending => exact congrArg (b :: ·) (ih valid)
    | zero =>
      unfold validFrom at valid
      unfold coerceFrom
      split_ifs with ascii
      · exact congrArg (b :: ·) (ih (by simpa [ascii] using valid))
      · simp only [ascii, if_false] at valid
        split at valid
        · exact congrArg (b :: ·) (ih valid)
        · cases valid

/-- A valid string is written as it is. -/
theorem coerceUTF8_of_valid {s : List UInt8} (valid : validString s = true) : coerceUTF8 s = s :=
  coerceFrom_of_validFrom valid

theorem validString_of_ascii {s : List UInt8} (ascii : IsAscii s) : validString s = true := by
  induction s with
  | nil => rfl
  | cons b rest ih =>
    have first : b.toNat < 0x80 := ascii b (List.mem_cons_self b rest)
    simp only [validString, validFrom, first, if_true]
    exact ih fun c member => ascii c (List.mem_cons_of_mem b member)

/-- An ASCII string is written as it is. -/
theorem coerceUTF8_of_ascii {s : List UInt8} (ascii : IsAscii s) : coerceUTF8 s = s :=
  coerceUTF8_of_valid (validString_of_ascii ascii)

/-- A byte that starts no rune is replaced: `0xFF` is written as U+FFFD. -/
theorem coerceUTF8_invalid_byte : coerceUTF8 [0xFF] = [0xEF, 0xBF, 0xBD] := rfl

/-! ### Hexadecimal -/

/-- The lower-case hexadecimal digit of `d < 16` (`hextable`). -/
def hexDigit (d : Nat) : UInt8 :=
  if d < 10 then UInt8.ofNat (0x30 + d) else UInt8.ofNat (0x57 + d)

/-- The value of a hexadecimal digit of either case (`reverseHexTable`), none for another byte. -/
def hexValue (c : UInt8) : Option Nat :=
  if 0x30 ≤ c.toNat ∧ c.toNat ≤ 0x39 then some (c.toNat - 0x30)
  else if 0x61 ≤ c.toNat ∧ c.toNat ≤ 0x66 then some (c.toNat - 0x57)
  else if 0x41 ≤ c.toNat ∧ c.toNat ≤ 0x46 then some (c.toNat - 0x37)
  else none

/-- `hex.EncodeToString`, go-ethereum's `Bytes2Hex`. -/
def bytes2Hex : List UInt8 → List UInt8
  | [] => []
  | b :: bs => hexDigit (b.toNat / 16) :: hexDigit (b.toNat % 16) :: bytes2Hex bs

/-- `hex.DecodeString` up to its first error: the bytes it decoded before the error, which
go-ethereum's `Hex2Bytes` returns, dropping the error. -/
def hexDecodePrefix : List UInt8 → List UInt8
  | hi :: lo :: rest =>
    match hexValue hi, hexValue lo with
    | some h, some l => UInt8.ofNat (16 * h + l) :: hexDecodePrefix rest
    | _, _ => []
  | _ => []

theorem hexValue_hexDigit {d : Nat} (digit : d < 16) : hexValue (hexDigit d) = some d := by
  have table : ∀ e : Fin 16, hexValue (hexDigit e) = some e := by decide
  exact table ⟨d, digit⟩

theorem hexDigit_ascii {d : Nat} (digit : d < 16) : (hexDigit d).toNat < 0x80 := by
  have table : ∀ e : Fin 16, (hexDigit e).toNat < 0x80 := by decide
  exact table ⟨d, digit⟩

theorem hexDecodePrefix_bytes2Hex (b : List UInt8) : hexDecodePrefix (bytes2Hex b) = b := by
  induction b with
  | nil => rfl
  | cons b bs ih =>
    have high : b.toNat / 16 < 16 := by have := b.toNat_lt_size; simp only [UInt8.size] at this; omega
    have low : b.toNat % 16 < 16 := Nat.mod_lt _ (by norm_num)
    simp only [bytes2Hex, hexDecodePrefix, hexValue_hexDigit high, hexValue_hexDigit low, ih,
      Nat.div_add_mod, uint8_ofNat_toNat]

theorem bytes2Hex_ascii (b : List UInt8) : IsAscii (bytes2Hex b) := by
  induction b with
  | nil => exact fun _ member => absurd member (List.not_mem_nil _)
  | cons b bs ih =>
    have high : b.toNat / 16 < 16 := by have := b.toNat_lt_size; simp only [UInt8.size] at this; omega
    intro c member
    simp only [bytes2Hex, List.mem_cons] at member
    rcases member with rfl | rfl | member
    · exact hexDigit_ascii high
    · exact hexDigit_ascii (Nat.mod_lt _ (by norm_num))
    · exact ih c member

/-- Every byte of `raw` is a hexadecimal digit. -/
def allHex (raw : List UInt8) : Bool := raw.all fun c => (hexValue c).isSome

theorem allHex_bytes2Hex (b : List UInt8) : allHex (bytes2Hex b) = true := by
  induction b with
  | nil => rfl
  | cons b bs ih =>
    have high : b.toNat / 16 < 16 := by have := b.toNat_lt_size; simp only [UInt8.size] at this; omega
    simpa [allHex, bytes2Hex, hexValue_hexDigit high,
      hexValue_hexDigit (Nat.mod_lt b.toNat (by norm_num : 16 > 0))] using ih

theorem length_bytes2Hex (b : List UInt8) : (bytes2Hex b).length = 2 * b.length := by
  induction b with
  | nil => rfl
  | cons b bs ih => simp only [bytes2Hex, List.length_cons, ih]; ring

/-! ### Base64 -/

/-- The symbol of a 6-bit value in the standard alphabet (`encodeStd`). -/
def base64Symbol (i : Nat) : UInt8 :=
  if i < 26 then UInt8.ofNat (0x41 + i)
  else if i < 52 then UInt8.ofNat (0x47 + i)
  else if i < 62 then UInt8.ofNat (i - 4)
  else if i = 62 then 0x2B else 0x2F

/-- The 6-bit value of a symbol of the standard alphabet (`decodeMap`), none for another byte. -/
def base64Value (c : UInt8) : Option Nat :=
  if 0x41 ≤ c.toNat ∧ c.toNat ≤ 0x5A then some (c.toNat - 0x41)
  else if 0x61 ≤ c.toNat ∧ c.toNat ≤ 0x7A then some (c.toNat - 0x47)
  else if 0x30 ≤ c.toNat ∧ c.toNat ≤ 0x39 then some (c.toNat + 4)
  else if c = 0x2B then some 62
  else if c = 0x2F then some 63
  else none

/-- The padding symbol `=`. -/
def base64Pad : UInt8 := 0x3D

/-- `base64.StdEncoding.EncodeToString`: each three bytes give four symbols, and a last group
of one or two bytes is padded. -/
def base64Encode : List UInt8 → List UInt8
  | a :: b :: c :: rest =>
    let n := a.toNat * 65536 + b.toNat * 256 + c.toNat
    base64Symbol (n / 262144) :: base64Symbol (n / 4096 % 64) :: base64Symbol (n / 64 % 64) ::
      base64Symbol (n % 64) :: base64Encode rest
  | [a, b] =>
    let n := a.toNat * 65536 + b.toNat * 256
    [base64Symbol (n / 262144), base64Symbol (n / 4096 % 64), base64Symbol (n / 64 % 64), base64Pad]
  | [a] => [base64Symbol (a.toNat / 4), base64Symbol (a.toNat % 4 * 16), base64Pad, base64Pad]
  | [] => []

/-- `base64.StdEncoding.DecodeString` after its line breaks are skipped: quanta of four
symbols, the last possibly padded as `xx==` or `xxx=`, with nothing after the padding. The
bits below the last byte are ignored, as the non-strict encoding does. -/
def base64DecodeQuanta : List UInt8 → Option (List UInt8)
  | [] => some []
  | c0 :: c1 :: c2 :: c3 :: rest =>
    match base64Value c0, base64Value c1, base64Value c2, base64Value c3 with
    | some x0, some x1, some x2, some x3 =>
      let n := x0 * 262144 + x1 * 4096 + x2 * 64 + x3
      (base64DecodeQuanta rest).map
        (UInt8.ofNat (n / 65536) :: UInt8.ofNat (n / 256) :: UInt8.ofNat n :: ·)
    | some x0, some x1, some x2, none =>
      if c3 = base64Pad ∧ rest = [] then
        let n := x0 * 262144 + x1 * 4096 + x2 * 64
        some [UInt8.ofNat (n / 65536), UInt8.ofNat (n / 256)]
      else none
    | some x0, some x1, none, none =>
      if c2 = base64Pad ∧ c3 = base64Pad ∧ rest = [] then
        some [UInt8.ofNat ((x0 * 262144 + x1 * 4096) / 65536)]
      else none
    | _, _, _, _ => none
  | _ => none

/-- `base64.StdEncoding.DecodeString`, which skips `\r` and `\n` wherever they stand. -/
def base64Decode (s : List UInt8) : Option (List UInt8) :=
  base64DecodeQuanta (s.filter fun c => c != 0x0A && c != 0x0D)

theorem base64Value_base64Symbol {i : Nat} (small : i < 64) :
    base64Value (base64Symbol i) = some i := by
  have table : ∀ e : Fin 64, base64Value (base64Symbol e) = some e := by decide
  exact table ⟨i, small⟩

/-- Every symbol is ASCII and no line break, beyond the alphabet too (`+` and `/`). -/
theorem base64Symbol_kept (i : Nat) :
    (base64Symbol i != 0x0A && base64Symbol i != 0x0D) = true ∧ (base64Symbol i).toNat < 0x80 := by
  by_cases small : i < 64
  · have table : ∀ e : Fin 64, (base64Symbol e != 0x0A && base64Symbol e != 0x0D) = true ∧
        (base64Symbol e).toNat < 0x80 := by
      decide
    exact table ⟨i, small⟩
  · rw [base64Symbol, if_neg (by omega), if_neg (by omega), if_neg (by omega), if_neg (by omega)]
    decide

/-- The symbols of the encoding: each a symbol of the alphabet or the padding. -/
theorem mem_base64Encode {b : List UInt8} {c : UInt8} (member : c ∈ base64Encode b) :
    c = base64Pad ∨ ∃ i, c = base64Symbol i := by
  induction b using base64Encode.induct with
  | case1 a b d rest ih =>
    simp only [base64Encode, List.mem_cons] at member
    rcases member with rfl | rfl | rfl | rfl | member
    iterate 4 exact .inr ⟨_, rfl⟩
    exact ih member
  | case2 a b =>
    simp only [base64Encode, List.mem_cons, List.mem_singleton, List.not_mem_nil, or_false] at member
    rcases member with rfl | rfl | rfl | rfl
    iterate 3 exact .inr ⟨_, rfl⟩
    exact .inl rfl
  | case3 a =>
    simp only [base64Encode, List.mem_cons, List.mem_singleton, List.not_mem_nil, or_false] at member
    rcases member with rfl | rfl | rfl | rfl
    iterate 2 exact .inr ⟨_, rfl⟩
    iterate 2 exact .inl rfl
  | case4 => cases member

theorem base64Encode_ascii (b : List UInt8) : IsAscii (base64Encode b) := by
  intro c member
  rcases mem_base64Encode member with rfl | ⟨i, rfl⟩
  · decide
  · exact (base64Symbol_kept i).2

/-- The three 6-bit groups above the lowest six bits of `n` rebuild `n` without those bits. -/
private theorem base64_regroup (n : Nat) :
    n / 262144 * 262144 + n / 4096 % 64 * 4096 + n / 64 % 64 * 64 = n / 64 * 64 := by
  omega

theorem base64DecodeQuanta_base64Encode (b : List UInt8) :
    base64DecodeQuanta (base64Encode b) = some b := by
  have pad : base64Value base64Pad = none := rfl
  have group := fun (n : Nat) => base64Value_base64Symbol (Nat.mod_lt n (show 64 > 0 by norm_num))
  induction b using base64Encode.induct with
  | case1 a b c rest ih =>
    have := a.toNat_lt_size; have := b.toNat_lt_size; have := c.toNat_lt_size
    simp only [UInt8.size] at *
    simp only [base64Encode, base64DecodeQuanta, ih, Option.map_some', group,
      base64Value_base64Symbol (show (a.toNat * 65536 + b.toNat * 256 + c.toNat) / 262144 < 64 by omega)]
    rw [base64_regroup, Nat.div_add_mod', uint8_ofNat_eq (b := a) (by omega),
      uint8_ofNat_eq (b := b) (by omega), uint8_ofNat_eq (b := c) (by omega)]
  | case2 a b =>
    have := a.toNat_lt_size; have := b.toNat_lt_size
    simp only [UInt8.size] at *
    simp only [base64Encode, base64DecodeQuanta, pad, group,
      base64Value_base64Symbol (show (a.toNat * 65536 + b.toNat * 256) / 262144 < 64 by omega),
      and_self, if_true]
    rw [base64_regroup, Nat.div_mul_cancel (by omega), uint8_ofNat_eq (b := a) (by omega),
      uint8_ofNat_eq (b := b) (by omega)]
  | case3 a =>
    have := a.toNat_lt_size
    simp only [UInt8.size] at *
    simp only [base64Encode, base64DecodeQuanta, pad, group,
      base64Value_base64Symbol (show a.toNat / 4 < 64 by omega),
      base64Value_base64Symbol (show a.toNat % 4 * 16 < 64 by omega), and_self, if_true]
    rw [uint8_ofNat_eq (b := a) (by omega)]
  | case4 => rfl

/-- `base64.StdEncoding` decodes what it encodes. -/
theorem base64Decode_base64Encode (b : List UInt8) : base64Decode (base64Encode b) = some b := by
  have kept : (base64Encode b).filter (fun c => c != 0x0A && c != 0x0D) = base64Encode b := by
    refine List.filter_eq_self.mpr fun c member => ?_
    rcases mem_base64Encode member with rfl | ⟨i, rfl⟩
    · decide
    · exact (base64Symbol_kept i).1
  rw [base64Decode, kept, base64DecodeQuanta_base64Encode]

/-! ### Decimal integers -/

/-- The decimal digits of `n`, most significant first, `0` for zero. -/
def decimal (n : Nat) : List UInt8 :=
  if n = 0 then [0x30] else (Nat.digits 10 n).reverse.map fun d => UInt8.ofNat (0x30 + d)

/-- `(*big.Int).String`: `<nil>` for a nil pointer, else the sign and the decimal digits. -/
def bigIntString : Option Int → List UInt8
  | none => [0x3C, 0x6E, 0x69, 0x6C, 0x3E]
  | some (.ofNat n) => decimal n
  | some (.negSucc n) => 0x2D :: decimal (n + 1)

/-- The value of a decimal digit, none for another byte. -/
def digitValue (c : UInt8) : Option Nat :=
  if 0x30 ≤ c.toNat ∧ c.toNat ≤ 0x39 then some (c.toNat - 0x30) else none

/-- The value of the decimal digits `s` after the value `acc` read so far. -/
def parseDigits (acc : Nat) : List UInt8 → Option Nat
  | [] => some acc
  | c :: rest => (digitValue c).bind fun d => parseDigits (10 * acc + d) rest

/-- The value of a non-empty run of decimal digits. -/
def parseDecimal (s : List UInt8) : Option Nat := if s = [] then none else parseDigits 0 s

/-- `new(big.Int).SetString(s, 10)`: an optional sign and at least one decimal digit, and
nothing else. -/
def setString : List UInt8 → Option Int
  | [] => none
  | c :: rest =>
    if c = 0x2D then (parseDecimal rest).map fun n => -(n : Int)
    else if c = 0x2B then (parseDecimal rest).map Int.ofNat
    else (parseDecimal (c :: rest)).map Int.ofNat

/-- `strings.Contains(s, substr)`. -/
def stringsContains (substr : List UInt8) : List UInt8 → Bool
  | [] => substr.isEmpty
  | c :: rest => substr.isPrefixOf (c :: rest) || stringsContains substr rest

/-- `strings.Contains(s, "nil")`. -/
def containsNil (s : List UInt8) : Bool := stringsContains [0x6E, 0x69, 0x6C] s

private theorem digitValue_digit {d : Nat} (digit : d < 10) :
    digitValue (UInt8.ofNat (0x30 + d)) = some d := by
  have table : ∀ e : Fin 10, digitValue (UInt8.ofNat (0x30 + e)) = some e := by decide
  exact table ⟨d, digit⟩

private theorem parseDigits_digits (acc : Nat) (ds : List Nat) (digits : ∀ d ∈ ds, d < 10) :
    parseDigits acc (ds.map fun d => UInt8.ofNat (0x30 + d)) = some (ds.foldl (10 * · + ·) acc) := by
  induction ds generalizing acc with
  | nil => rfl
  | cons d ds ih =>
    simp only [List.map_cons, parseDigits, digitValue_digit (digits d (List.mem_cons_self d ds)),
      Option.some_bind, List.foldl_cons]
    exact ih _ fun e member => digits e (List.mem_cons_of_mem d member)

private theorem foldr_digits (ds : List Nat) :
    ds.foldr (fun d acc => 10 * acc + d) 0 = Nat.ofDigits 10 ds := by
  induction ds with
  | nil => rfl
  | cons d ds ih => rw [List.foldr_cons, ih, Nat.ofDigits_cons]; ring

private theorem decimal_ne_nil (n : Nat) : decimal n ≠ [] := by
  unfold decimal
  split_ifs with zero
  · exact List.cons_ne_nil _ _
  · simpa [Nat.digits_eq_nil_iff_eq_zero] using zero

theorem parseDecimal_decimal (n : Nat) : parseDecimal (decimal n) = some n := by
  rw [parseDecimal, if_neg (decimal_ne_nil n)]
  unfold decimal
  split_ifs with zero
  · subst zero; rfl
  · rw [parseDigits_digits 0 _ fun d member =>
        Nat.digits_lt_base (by norm_num) (List.mem_reverse.mp member),
      List.foldl_reverse, foldr_digits, Nat.ofDigits_digits]

private theorem decimal_digits (n : Nat) : ∀ c ∈ decimal n, (digitValue c).isSome := by
  intro c member
  unfold decimal at member
  split_ifs at member
  · simp only [List.mem_singleton] at member; subst member; rfl
  · obtain ⟨d, digit, rfl⟩ := List.mem_map.mp member
    rw [digitValue_digit (Nat.digits_lt_base (by norm_num) (List.mem_reverse.mp digit))]
    rfl

/-- A non-empty run of decimal digits. -/
def isDigits (s : List UInt8) : Bool := !s.isEmpty && s.all fun c => (digitValue c).isSome

theorem isDigits_decimal (n : Nat) : isDigits (decimal n) = true := by
  simp only [isDigits, Bool.and_eq_true, Bool.not_eq_true', List.isEmpty_eq_false,
    List.all_eq_true]
  exact ⟨decimal_ne_nil n, decimal_digits n⟩

/-- Only the decimal text of zero starts with `0`. -/
theorem decimal_head {n : Nat} (positive : n ≠ 0) : (decimal n).head? ≠ some 0x30 := by
  have nonempty : Nat.digits 10 n ≠ [] := Nat.digits_ne_nil_iff_ne_zero.mpr positive
  have leading := Nat.getLast_digit_ne_zero 10 positive
  have small : (Nat.digits 10 n).getLast nonempty < 10 :=
    Nat.digits_lt_base (by norm_num) (List.getLast_mem nonempty)
  rw [decimal, if_neg positive, List.head?_map, List.head?_reverse,
    List.getLast?_eq_getLast _ nonempty]
  generalize (Nat.digits 10 n).getLast nonempty = d at leading small
  have table : ∀ e : Fin 10, e.val ≠ 0 → UInt8.ofNat (0x30 + e.val) ≠ 0x30 := by decide
  simpa using table ⟨d, small⟩ leading

theorem digits_of_parseDigits {acc n : Nat} {s : List UInt8} (parsed : parseDigits acc s = some n) :
    ∀ c ∈ s, (digitValue c).isSome := by
  induction s generalizing acc with
  | nil => simp
  | cons c rest ih =>
    simp only [parseDigits] at parsed
    cases value : digitValue c with
    | none => simp [value] at parsed
    | some d =>
      rw [value, Option.some_bind] at parsed
      intro c' member
      rcases List.mem_cons.mp member with rfl | member
      · simp [value]
      · exact ih parsed c' member

theorem parseDigits_isSome {acc : Nat} {s : List UInt8} (digits : ∀ c ∈ s, (digitValue c).isSome) :
    (parseDigits acc s).isSome := by
  induction s generalizing acc with
  | nil => rfl
  | cons c rest ih =>
    obtain ⟨d, value⟩ := Option.isSome_iff_exists.mp (digits c (List.mem_cons_self c rest))
    simp only [parseDigits, value, Option.some_bind]
    exact ih fun c' member => digits c' (List.mem_cons_of_mem c member)

/-- A run of digits has a value. -/
theorem parseDecimal_isSome {s : List UInt8} (run : isDigits s = true) :
    (parseDecimal s).isSome := by
  simp only [isDigits, Bool.and_eq_true, Bool.not_eq_true', List.isEmpty_eq_false,
    List.all_eq_true] at run
  rw [parseDecimal, if_neg run.1]
  exact parseDigits_isSome run.2

/-- `SetString` reads back the text `String` gives a non-nil `big.Int`. -/
theorem setString_bigIntString (a : Int) : setString (bigIntString (some a)) = some a := by
  cases a with
  | ofNat n =>
    obtain ⟨c, rest, split⟩ := List.exists_cons_of_ne_nil (decimal_ne_nil n)
    have digit := decimal_digits n c (split ▸ List.mem_cons_self c rest)
    have notSign : c ≠ 0x2D ∧ c ≠ 0x2B := by
      constructor <;> rintro rfl <;> exact absurd digit (by decide)
    simp only [bigIntString, split, setString, notSign, if_false]
    rw [← split, parseDecimal_decimal]
    rfl
  | negSucc n =>
    simp only [bigIntString, setString, if_true, parseDecimal_decimal, Option.map_some']
    rfl

/-- The text of a non-nil `big.Int` is a sign and decimal digits. -/
theorem mem_bigIntString {a : Int} {c : UInt8} (member : c ∈ bigIntString (some a)) :
    c = 0x2D ∨ (digitValue c).isSome := by
  cases a with
  | ofNat n => exact .inr (decimal_digits n c member)
  | negSucc n =>
    rcases List.mem_cons.mp member with rfl | member
    · exact .inl rfl
    · exact .inr (decimal_digits _ c member)

/-- A byte that is neither a sign nor a digit is not in the text of a non-nil `big.Int`. -/
theorem not_mem_bigIntString {a : Int} {c : UInt8} (notSign : c ≠ 0x2D) (notDigit : digitValue c = none) :
    c ∉ bigIntString (some a) := fun member =>
  (mem_bigIntString member).elim notSign fun digit => by simp [notDigit] at digit

/-- `strings.Contains` is false when a byte of `substr` is nowhere in `s`. -/
theorem stringsContains_eq_false {substr s : List UInt8} {c : UInt8} (needed : c ∈ substr)
    (absent : c ∉ s) : stringsContains substr s = false := by
  induction s with
  | nil => simpa [stringsContains] using List.ne_nil_of_mem needed
  | cons x rest ih =>
    have notPrefix : substr.isPrefixOf (x :: rest) = false := Bool.eq_false_iff.mpr
      fun isPrefix => absent ((List.isPrefixOf_iff_prefix.mp isPrefix).subset needed)
    rw [stringsContains, notPrefix, Bool.false_or]
    exact ih fun member => absent (List.mem_cons_of_mem x member)

/-- The text of a non-nil `big.Int` does not contain `nil`. -/
theorem containsNil_bigIntString (a : Int) : containsNil (bigIntString (some a)) = false :=
  stringsContains_eq_false (c := 0x6E) (by decide) (not_mem_bigIntString (by decide) (by decide))

theorem decimal_ascii (n : Nat) : IsAscii (decimal n) := by
  intro c member
  have digit := decimal_digits n c member
  simp only [digitValue, Option.isSome_ite] at digit
  omega

theorem bigIntString_ascii (a : Option Int) : IsAscii (bigIntString a) := by
  rcases a with _ | _ | n
  · decide
  · exact decimal_ascii _
  · intro c member
    rcases List.mem_cons.mp member with rfl | member
    · decide
    · exact decimal_ascii _ c member

/-! ### `strings.Trim` and `fmt.Sscanf` -/

/-- `strings.Trim(s, "\"")`: `s` without its leading and trailing double quotes. -/
def trimQuotes (s : List UInt8) : List UInt8 :=
  ((s.dropWhile (· == 0x22)).reverse.dropWhile (· == 0x22)).reverse

/-- The blanks `fmt`'s `SkipSpace` passes over (the ASCII ones; a newline ends the scan). -/
def isScanSpace (c : UInt8) : Bool :=
  c == 0x20 || c == 0x09 || c == 0x0B || c == 0x0C || c == 0x0D

/-- `fmt.Sscanf(s, "%d", &value)` into an `int`: blanks are skipped, a newline is an error,
then an optional sign and the longest run of decimal digits (the verb `%d` takes no base prefix
and no underscores), which `strconv.ParseInt` must read in base 10 as an int64. What follows the
number is not read. -/
def sscanfInt (s : List UInt8) : Option Int :=
  match s.dropWhile isScanSpace with
  | [] => none
  | c :: rest =>
    if c = 0x0A then none
    else
      let signed : Bool × List UInt8 :=
        if c = 0x2D then (true, rest) else if c = 0x2B then (false, rest) else (false, c :: rest)
      let token := signed.2.takeWhile fun d => (digitValue d).isSome
      match parseDecimal token with
      | none => none
      | some n =>
        let value : Int := if signed.1 then -(n : Int) else n
        if -2 ^ 63 ≤ value ∧ value < 2 ^ 63 then some value else none

/-- `strings.Trim(s, "\"")` leaves a text without quotes as it is. -/
theorem trimQuotes_of_not_mem {s : List UInt8} (unquoted : 0x22 ∉ s) : trimQuotes s = s := by
  have keep : ∀ t : List UInt8, 0x22 ∉ t → t.dropWhile (· == 0x22) = t
    | [], _ => rfl
    | c :: _, absent => List.dropWhile_cons_of_neg fun quote =>
      absent (List.mem_cons.mpr (.inl (beq_iff_eq.mp quote).symm))
  rw [trimQuotes, keep s unquoted, keep _ (by simpa using unquoted), List.reverse_reverse]

/-- What `fmt.Sscanf` stores in an `int` is an int64. -/
theorem sscanfInt_inRange {s : List UInt8} {value : Int} (read : sscanfInt s = some value) :
    -2 ^ 63 ≤ value ∧ value < 2 ^ 63 := by
  unfold sscanfInt at read
  dsimp only at read
  split at read
  · cases read
  split at read
  · cases read
  split at read
  · cases read
  obtain ⟨inRange, same⟩ := Option.ite_none_right_eq_some.mp read
  exact Option.some.inj same ▸ inRange

theorem digit_not_special {c : UInt8} (digit : (digitValue c).isSome) :
    isScanSpace c = false ∧ c ≠ 0x0A ∧ c ≠ 0x2D ∧ c ≠ 0x2B := by
  simp only [isScanSpace, Bool.or_eq_false_iff, beq_eq_false_iff_ne]
  refine ⟨⟨⟨⟨⟨?_, ?_⟩, ?_⟩, ?_⟩, ?_⟩, ?_, ?_, ?_⟩ <;> rintro rfl <;> exact absurd digit (by decide)

/-- A run of digits followed by a byte that is not a digit is the longest run of digits. -/
theorem takeWhile_digits_append {digits rest : List UInt8}
    (run : ∀ c ∈ digits, (digitValue c).isSome) (stops : ∀ c ∈ rest.head?, digitValue c = none) :
    (digits ++ rest).takeWhile (fun d => (digitValue d).isSome) = digits := by
  induction digits with
  | nil =>
    cases rest with
    | nil => rfl
    | cons c rest => simp [List.takeWhile_cons, stops c rfl]
  | cons c digits ih =>
    rw [List.cons_append, List.takeWhile_cons, if_pos (run c (List.mem_cons_self c digits)),
      ih fun c' member => run c' (List.mem_cons_of_mem c member)]

/-- `fmt.Sscanf` with `%d` reads a sign and a run of digits, and stops at the first byte after
them that is not a digit; the number must be an int64. -/
theorem sscanfInt_signed (negative : Bool) {digits rest : List UInt8} {n : Nat}
    (parsed : parseDecimal digits = some n) (stops : ∀ c ∈ rest.head?, digitValue c = none) :
    sscanfInt ((if negative then [0x2D] else []) ++ digits ++ rest) =
      let value : Int := if negative then -(n : Int) else n
      if -2 ^ 63 ≤ value ∧ value < 2 ^ 63 then some value else none := by
  have nonempty : digits ≠ [] := fun empty => by simp [parseDecimal, empty] at parsed
  have run : ∀ c ∈ digits, (digitValue c).isSome := by
    rw [parseDecimal, if_neg nonempty] at parsed
    exact digits_of_parseDigits parsed
  have token := takeWhile_digits_append run stops
  cases negative with
  | true =>
    have start : (0x2D :: (digits ++ rest)).dropWhile isScanSpace = 0x2D :: (digits ++ rest) :=
      List.dropWhile_cons_of_neg (by decide)
    simp only [if_true, List.singleton_append, List.cons_append, List.nil_append, sscanfInt, start,
      if_neg (by decide : (0x2D : UInt8) ≠ 0x0A), ↓reduceIte, token, parsed]
  | false =>
    obtain ⟨c, digits', rfl⟩ := List.exists_cons_of_ne_nil nonempty
    obtain ⟨notSpace, notNewline, notMinus, notPlus⟩ :=
      digit_not_special (run c (List.mem_cons_self c digits'))
    have start : (c :: (digits' ++ rest)).dropWhile isScanSpace = c :: (digits' ++ rest) :=
      List.dropWhile_cons_of_neg (by simp [notSpace])
    simp only [Bool.false_eq_true, if_false, List.nil_append, List.cons_append, sscanfInt, start,
      notNewline, notMinus, notPlus]
    rw [← List.cons_append, token, parsed]

/-- `fmt.Sscanf` with `%d` reads back the decimal text of every int64. -/
theorem sscanfInt_bigIntString {a : Int} (inRange : -2 ^ 63 ≤ a ∧ a < 2 ^ 63) :
    sscanfInt (bigIntString (some a)) = some a := by
  have read := fun negative n =>
    @sscanfInt_signed negative (decimal n) [] n (parseDecimal_decimal n) (by simp)
  cases a with
  | ofNat n =>
    have scanned := read false n
    simp only [Bool.false_eq_true, if_false, List.nil_append, List.append_nil] at scanned
    rw [Int.ofNat_eq_coe] at inRange ⊢
    exact scanned.trans (if_pos inRange)
  | negSucc n =>
    have scanned := read true (n + 1)
    have value : -((n + 1 : Nat) : Int) = Int.negSucc n := rfl
    simp only [if_true, List.singleton_append, List.append_nil, value] at scanned
    exact scanned.trans (if_pos inRange)

end Aggkit.Encoding
