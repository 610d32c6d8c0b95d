import Mpm2Tools.Foundation.PyBytes

/-! # Python text primitives

`str` values are `List Char`. The tools read text from bytes with
`bytes.decode('ascii', errors='ignore')`, cut it with `str.split('\n')` (`List.splitOn`), trim
lines with `str.strip()`, read hexadecimal digits with `bytes.fromhex` and write them with
`format(n, '02X')`. Only ASCII characters occur: the decoder drops every other byte. -/

namespace Mpm2Tools

/-- `bytes.decode('ascii', errors='ignore')`: bytes above `0x7F` are dropped. -/
def decodeAscii (data : List UInt8) : List Char :=
  data.filterMap fun byte => if byte.toNat < 128 then some (Char.ofNat byte.toNat) else none

/-- The bytes a text file holds for an ASCII string. -/
def encodeAscii (text : List Char) : List UInt8 := text.map fun c => UInt8.ofNat c.toNat

/-- `str.isspace()` on an ASCII character: tab, line feed, vertical tab, form feed, carriage
return, the separators `0x1C`-`0x1F`, and space. -/
def isPySpace (c : Char) : Bool :=
  (9 ≤ c.toNat && c.toNat ≤ 13) || (28 ≤ c.toNat && c.toNat ≤ 32)

/-- `str.strip()`. -/
def pyStrip (text : List Char) : List Char :=
  ((text.dropWhile isPySpace).reverse.dropWhile isPySpace).reverse

/-- `Py_ISSPACE`, the whitespace `bytes.fromhex` skips before a pair of digits. -/
def isAsciiSpace (c : Char) : Bool := c = ' ' || (9 ≤ c.toNat && c.toNat ≤ 13)

/-- The value of a hexadecimal digit of either case. -/
def hexValue (c : Char) : Option Nat :=
  if '0' ≤ c ∧ c ≤ '9' then some (c.toNat - '0'.toNat)
  else if 'A' ≤ c ∧ c ≤ 'F' then some (c.toNat - 'A'.toNat + 10)
  else if 'a' ≤ c ∧ c ≤ 'f' then some (c.toNat - 'a'.toNat + 10)
  else none

/-- `bytes.fromhex` on the argument from position `pos` on: whitespace before a pair of digits is
skipped, and a character that is not a digit where one is needed raises, as does a lone last
digit (CPython 3.7 and later). -/
def fromHexFrom : Nat → List Char → Except PyError (List UInt8)
  | _, [] => pure []
  | pos, c :: rest =>
      if isAsciiSpace c then fromHexFrom (pos + 1) rest
      else match hexValue c with
        | none => throw (.fromhexNonHex pos)
        | some top => match rest with
          | [] => throw .fromhexOddDigits
          | d :: rest => match hexValue d with
            | none => throw (.fromhexNonHex (pos + 1))
            | some bot => (UInt8.ofNat (top * 16 + bot) :: ·) <$> fromHexFrom (pos + 2) rest

/-- `bytes.fromhex(text)`. -/
def fromHex (text : List Char) : Except PyError (List UInt8) := fromHexFrom 0 text

/-- The uppercase hexadecimal digit for `d < 16`. -/
def hexDigit (d : Nat) : Char := if d < 10 then Char.ofNat (48 + d) else Char.ofNat (55 + d)

/-- `format(n, 'X')`: the uppercase hexadecimal digits of `n`. -/
def formatHex (n : Nat) : List Char :=
  if n < 16 then [hexDigit n] else formatHex (n / 16) ++ [hexDigit (n % 16)]
termination_by n
decreasing_by omega

/-- `format(n, '02X')`: at least two digits, padded with zeros. -/
def formatHex02 (n : Nat) : List Char :=
  let digits := formatHex n
  List.replicate (2 - digits.length) '0' ++ digits

/-! ## Round trips -/

theorem hexValue_hexDigit : ∀ d < 16, hexValue (hexDigit d) = some d := by decide

/-- A hexadecimal digit is printable ASCII and neither whitespace nor a line feed. -/
theorem hexDigit_plain : ∀ d < 16, isAsciiSpace (hexDigit d) = false ∧
    isPySpace (hexDigit d) = false ∧ hexDigit d ≠ '\n' ∧ hexDigit d ≠ ':' ∧
    (hexDigit d).toNat < 128 := by
  decide

/-- `format(n, '02X')` writes only hexadecimal digits. -/
theorem mem_formatHex02 {n : Nat} {c : Char} (member : c ∈ formatHex02 n) :
    ∃ d < 16, hexDigit d = c := by
  have digits : ∀ m, c ∈ formatHex m → ∃ d < 16, hexDigit d = c := by
    intro m
    induction m using formatHex.induct with
    | case1 m small => rw [formatHex, if_pos small]; exact fun same => ⟨m, small, by simp_all⟩
    | case2 m large induction =>
        rw [formatHex, if_neg large, List.mem_append, List.mem_singleton]
        rintro (higher | last)
        · exact induction higher
        · exact ⟨m % 16, Nat.mod_lt _ (by decide), last.symm⟩
  rcases List.mem_append.mp member with padding | written
  · exact ⟨0, by decide, (List.eq_of_mem_replicate padding).symm⟩
  · exact digits n written

theorem formatHex02_of_lt {n : Nat} (small : n < 256) :
    formatHex02 n = [hexDigit (n / 16), hexDigit (n % 16)] := by
  unfold formatHex02
  by_cases one : n < 16
  · rw [formatHex, if_pos one, Nat.div_eq_of_lt one, Nat.mod_eq_of_lt one]
    rfl
  · rw [formatHex, if_neg one, formatHex, if_pos (by omega)]
    rfl

/-- `bytes.fromhex` reads back the digits `format(b, '02X')` writes for bytes. -/
theorem fromHexFrom_formatHex02 (pos : Nat) {values : List Nat} (small : ∀ v ∈ values, v < 256) :
    fromHexFrom pos (values.flatMap formatHex02) = .ok (values.map UInt8.ofNat) := by
  induction values generalizing pos with
  | nil => rfl
  | cons v rest induction =>
      simp only [List.mem_cons, forall_eq_or_imp] at small
      have plain := (hexDigit_plain (v / 16) (by omega)).1
      have top := hexValue_hexDigit (v / 16) (by omega)
      have bot := hexValue_hexDigit (v % 16) (by omega)
      rw [List.flatMap_cons, formatHex02_of_lt small.1, List.cons_append, List.singleton_append]
      simp only [fromHexFrom, plain, top, bot, induction _ small.2, Bool.false_eq_true, if_false,
        Nat.div_add_mod']
      rfl

theorem decodeAscii_encodeAscii {text : List Char} (ascii : ∀ c ∈ text, c.toNat < 128) :
    decodeAscii (encodeAscii text) = text := by
  induction text with
  | nil => rfl
  | cons c rest induction =>
      simp only [List.mem_cons, forall_eq_or_imp] at ascii
      have byte : (UInt8.ofNat c.toNat).toNat = c.toNat := by
        rw [UInt8.toNat_ofNat_mod]; omega
      simp only [decodeAscii, encodeAscii, List.map_cons, List.filterMap_cons, byte,
        if_pos ascii.1, Char.ofNat_toNat] at induction ⊢
      rw [induction ascii.2]

theorem pyStrip_of_plain {text : List Char} (plain : ∀ c ∈ text, isPySpace c = false) :
    pyStrip text = text := by
  have keep : ∀ chars : List Char, (∀ c ∈ chars, isPySpace c = false) →
      chars.dropWhile isPySpace = chars := by
    intro chars plainChars
    cases chars with
    | nil => rfl
    | cons c rest => exact List.dropWhile_cons_of_neg (by simp [plainChars c (.head _)])
  rw [pyStrip, keep text plain, keep _ (fun c member => plain c (List.mem_reverse.mp member)),
    List.reverse_reverse]

end Mpm2Tools
