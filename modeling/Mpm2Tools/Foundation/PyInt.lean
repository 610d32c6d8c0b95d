import Mpm2Tools.Foundation.PyText

/-! # `int(text, base)`

CPython reads a `str` in `PyLong_FromUnicodeObject`: outside ASCII, whitespace becomes a space
and any other character ends the text, and then `PyLong_FromString` reads the ASCII: whitespace, a
sign, for base 0 the base of the literal's prefix, the prefix `0x`, `0o` or `0b` of the base with
one underscore after it, digits of the base with single underscores between them, and whitespace
to the end. Anything else raises `ValueError`. Decimal digits outside ASCII, which CPython reads
as their ASCII digits, raise here. -/

namespace Mpm2Tools

/-- `str.isspace()`: the ASCII whitespace of `isPySpace`, and the whitespace outside ASCII. -/
def isStrSpace (c : Char) : Bool :=
  isPySpace c || c.toNat = 0x85 || c.toNat = 0xA0 || c.toNat = 0x1680 ||
    (0x2000 ≤ c.toNat && c.toNat ≤ 0x200A) || c.toNat = 0x2028 || c.toNat = 0x2029 ||
    c.toNat = 0x202F || c.toNat = 0x205F || c.toNat = 0x3000

/-- `str.strip()`. -/
def strStrip (text : List Char) : List Char :=
  ((text.dropWhile isStrSpace).reverse.dropWhile isStrSpace).reverse

/-- The whitespace `int()` skips around a literal: `Py_ISSPACE` in ASCII, and the whitespace
outside ASCII, which `_PyUnicode_TransformDecimalAndSpaceToASCII` turns into spaces. -/
def isIntSpace (c : Char) : Bool := isAsciiSpace c || (128 ≤ c.toNat && isStrSpace c)

/-- `_PyLong_DigitValue`: the digits, then the letters of either case from 10 to 35; 37 for any
other character. -/
def digitValue (c : Char) : Nat :=
  if '0' ≤ c ∧ c ≤ '9' then c.toNat - '0'.toNat
  else if 'a' ≤ c ∧ c ≤ 'z' then c.toNat - 'a'.toNat + 10
  else if 'A' ≤ c ∧ c ≤ 'Z' then c.toNat - 'A'.toNat + 10
  else 37

/-- The sign after the leading whitespace: whether it is `-`, and the text after it. -/
def readSign : List Char → Bool × List Char
  | '+' :: rest => (false, rest)
  | '-' :: rest => (true, rest)
  | text => (false, text)

/-- For base 0, the base of the literal's prefix, and whether a literal without a prefix must be
zero: after a leading `0`, an old-style octal literal such as `010` raises. -/
def detectBase : List Char → Nat × Bool
  | '0' :: c :: _ =>
    if c = 'x' ∨ c = 'X' then (16, false)
    else if c = 'o' ∨ c = 'O' then (8, false)
    else if c = 'b' ∨ c = 'B' then (2, false)
    else (10, true)
  | ['0'] => (10, true)
  | _ => (10, false)

/-- The prefix `0x`, `0o` or `0b` of the base, and one underscore after it. -/
def dropPrefix (base : Nat) : List Char → List Char
  | '0' :: c :: rest =>
    if base = 16 ∧ (c = 'x' ∨ c = 'X') ∨ base = 8 ∧ (c = 'o' ∨ c = 'O') ∨
        base = 2 ∧ (c = 'b' ∨ c = 'B') then
      match rest with
      | '_' :: after => after
      | _ => rest
    else '0' :: c :: rest
  | text => text

/-- The loop over the digits, from the previous character `prev`: digits of the base and single
underscores between them. A second underscore in a row, or one at the end, raises; otherwise the
digits' values and the rest of the text. -/
def scanDigits (base : Nat) (prev : Char) : List Char → Option (List Nat × List Char)
  | [] => if prev = '_' then none else some ([], [])
  | c :: rest =>
    if c = '_' then
      if prev = '_' then none else scanDigits base c rest
    else if digitValue c < base then
      (scanDigits base c rest).map fun scanned => (digitValue c :: scanned.1, scanned.2)
    else if prev = '_' then none
    else some ([], c :: rest)

/-- The value of digits in a base, the most significant first. -/
def digitsValue (base : Nat) (digits : List Nat) : Nat :=
  digits.foldl (fun value digit => value * base + digit) 0

/-- `int(text, base)`. -/
def pyInt (text : List Char) (base : Nat) : Except PyError Int := do
  if base ≠ 0 ∧ base < 2 ∨ 36 < base then throw (.intBaseOutOfRange base)
  let invalid := PyError.intInvalidLiteral base text
  let (negative, body) := readSign (text.dropWhile isIntSpace)
  let (litBase, nonzeroRefused) := if base = 0 then detectBase body else (base, false)
  let body := dropPrefix litBase body
  if body.head? = some '_' then throw invalid
  let some (digits, rest) := scanDigits litBase (Char.ofNat 0) body | throw invalid
  let value := digitsValue litBase digits
  if nonzeroRefused ∧ value ≠ 0 then throw invalid
  if digits = [] then throw invalid
  if ¬ rest.all isIntSpace then throw invalid
  return if negative then -(value : Int) else value

/-! ## Literals of digits -/

theorem digitValue_underscore : digitValue '_' = 37 := rfl

theorem toNat_of_digitValue_lt {c : Char} (digit : digitValue c < 37) :
    48 ≤ c.toNat ∧ c.toNat ≤ 57 ∨ 97 ≤ c.toNat ∧ c.toNat ≤ 122 ∨ 65 ≤ c.toNat ∧ c.toNat ≤ 90 := by
  unfold digitValue at digit
  have letters : '0'.toNat = 48 ∧ '9'.toNat = 57 ∧ 'a'.toNat = 97 ∧ 'z'.toNat = 122 ∧
      'A'.toNat = 65 ∧ 'Z'.toNat = 90 := ⟨rfl, rfl, rfl, rfl, rfl, rfl⟩
  split_ifs at digit with decimal lower upper
  · exact Or.inl (by simpa only [letters.1, letters.2.1] using decimal)
  · exact Or.inr (Or.inl (by simpa only [letters.2.2.1, letters.2.2.2.1] using lower))
  · exact Or.inr (Or.inr (by simpa only [letters.2.2.2.2.1, letters.2.2.2.2.2] using upper))
  · omega

theorem isStrSpace_of_digitValue_lt {c : Char} (digit : digitValue c < 37) :
    isStrSpace c = false := by
  have range := toNat_of_digitValue_lt digit
  simp only [isStrSpace, isPySpace]
  simp
  omega

theorem isIntSpace_of_digitValue_lt {c : Char} (digit : digitValue c < 37) : isIntSpace c = false := by
  have range := toNat_of_digitValue_lt digit
  have notSpace : c ≠ ' ' := fun same => by subst same; simp at range
  simp only [isIntSpace, isAsciiSpace, notSpace]
  simp
  omega

theorem dropPrefix_of_digits {base : Nat} {chars : List Char}
    (digits : ∀ c ∈ chars, digitValue c < base) : dropPrefix base chars = chars := by
  unfold dropPrefix
  split
  · rename_i c rest
    have digit := digits c (List.mem_cons_of_mem _ (List.mem_cons_self _ _))
    rw [if_neg]
    rintro (⟨rfl, rfl | rfl⟩ | ⟨rfl, rfl | rfl⟩ | ⟨rfl, rfl | rfl⟩) <;> revert digit <;> decide
  · rfl

theorem readSign_of_digit {first : Char} {rest : List Char} (digit : digitValue first < 37) :
    readSign (first :: rest) = (false, first :: rest) := by
  unfold readSign
  split
  · rename_i heq
    injection heq with same
    subst same
    exact absurd digit (by decide)
  · rename_i heq
    injection heq with same
    subst same
    exact absurd digit (by decide)
  · rfl

theorem scanDigits_digits {base : Nat} (small : base ≤ 36) {prev : Char} (notUnderscore : prev ≠ '_')
    {chars rest : List Char} (digits : ∀ c ∈ chars, digitValue c < base)
    (stop : ∀ c ∈ rest.head?, base ≤ digitValue c ∧ c ≠ '_') :
    scanDigits base prev (chars ++ rest) = some (chars.map digitValue, rest) := by
  induction chars generalizing prev with
  | nil =>
    cases rest with
    | nil => simp [scanDigits, notUnderscore]
    | cons c rest =>
      obtain ⟨notDigit, notSeparator⟩ := stop c rfl
      simp [scanDigits, notSeparator, notUnderscore, Nat.not_lt.mpr notDigit]
  | cons c chars induction =>
    have digit := digits c (List.mem_cons_self _ _)
    have notSeparator : c ≠ '_' := fun same => by
      rw [same, digitValue_underscore] at digit; omega
    rw [List.cons_append, scanDigits, if_neg notSeparator, if_pos digit,
      induction notSeparator fun d member => digits d (List.mem_cons_of_mem _ member)]
    rfl

/-- `int()` on a literal whose digits scan: the signed value, except that base 0 refuses a
nonzero literal with a leading `0`. -/
theorem pyInt_of_scan {text : List Char} {base : Nat} (range : base = 0 ∨ 2 ≤ base ∧ base ≤ 36)
    {negative : Bool} {body : List Char}
    (signed : readSign (text.dropWhile isIntSpace) = (negative, body))
    {litBase : Nat} {refused : Bool}
    (based : (if base = 0 then detectBase body else (base, false)) = (litBase, refused))
    {digits : List Nat} {rest : List Char}
    (separated : (dropPrefix litBase body).head? ≠ some '_')
    (scanned : scanDigits litBase (Char.ofNat 0) (dropPrefix litBase body) = some (digits, rest))
    (nonempty : digits ≠ []) (trailing : rest.all isIntSpace) :
    pyInt text base =
      if refused ∧ digitsValue litBase digits ≠ 0 then .error (.intInvalidLiteral base text)
      else .ok (if negative then -(digitsValue litBase digits : Int) else digitsValue litBase digits) := by
  have bounds : ¬ (base ≠ 0 ∧ base < 2 ∨ 36 < base) := by omega
  simp only [pyInt, bounds, signed, based, separated, scanned, nonempty, trailing]
  by_cases refusal : refused ∧ digitsValue litBase digits ≠ 0
  · simp [refusal]; rfl
  · simp [refusal]; rfl

/-- Digits of the base, nothing around them, scan whole. -/
theorem scanDigits_whole {base : Nat} (small : base ≤ 36) {chars : List Char}
    (digits : ∀ c ∈ chars, digitValue c < base) :
    scanDigits base (Char.ofNat 0) chars = some (chars.map digitValue, []) := by
  simpa using @scanDigits_digits base small (Char.ofNat 0) (by decide) chars [] digits nofun

theorem head?_ne_underscore {chars : List Char} (digits : ∀ c ∈ chars, digitValue c < 37) :
    chars.head? ≠ some '_' := by
  cases chars with
  | nil => nofun
  | cons first rest =>
    intro same
    have digit := digits first (List.mem_cons_self _ _)
    rw [Option.some.inj same, digitValue_underscore] at digit
    omega

theorem dropWhile_isIntSpace_of_digit {first : Char} {rest : List Char}
    (digit : digitValue first < 37) : (first :: rest).dropWhile isIntSpace = first :: rest :=
  List.dropWhile_cons_of_neg (by simp [isIntSpace_of_digitValue_lt digit])

/-- A literal of digits of a base from 2 to 36 reads as their value. -/
theorem pyInt_digits {base : Nat} (range : 2 ≤ base ∧ base ≤ 36) {chars : List Char}
    (nonempty : chars ≠ []) (digits : ∀ c ∈ chars, digitValue c < base) :
    pyInt chars base = .ok (digitsValue base (chars.map digitValue)) := by
  obtain ⟨first, rest, rfl⟩ := List.exists_cons_of_ne_nil nonempty
  have small : ∀ c ∈ first :: rest, digitValue c < 37 := fun c member => by
    have := digits c member; omega
  have signed : readSign ((first :: rest).dropWhile isIntSpace) = (false, first :: rest) := by
    rw [dropWhile_isIntSpace_of_digit (small first (List.mem_cons_self _ _)),
      readSign_of_digit (small first (List.mem_cons_self _ _))]
  have based : (if base = 0 then detectBase (first :: rest) else (base, false)) = (base, false) :=
    if_neg (by omega)
  rw [@pyInt_of_scan _ base (Or.inr range) false (first :: rest) signed base false based _ []
    (by rw [dropPrefix_of_digits digits]; exact head?_ne_underscore small)
    (by rw [dropPrefix_of_digits digits]; exact scanDigits_whole range.2 digits) (by simp) rfl]
  simp

/-- The digits of a literal without a prefix, in base 0: decimal, and a literal with a leading `0`
must be zero. -/
theorem detectBase_of_decimal {chars : List Char} (digits : ∀ c ∈ chars, digitValue c < 10) :
    detectBase chars = (10, decide (chars.head? = some '0')) := by
  unfold detectBase
  split
  · rename_i c rest
    have digit := digits c (List.mem_cons_of_mem _ (List.mem_cons_self _ _))
    have notPrefix : ¬ (c = 'x' ∨ c = 'X') ∧ ¬ (c = 'o' ∨ c = 'O') ∧ ¬ (c = 'b' ∨ c = 'B') := by
      refine ⟨?_, ?_, ?_⟩ <;> rintro (rfl | rfl) <;> revert digit <;> decide
    simp [notPrefix]
  · simp
  · rename_i notZero notOne
    cases chars with
    | nil => simp
    | cons first rest =>
      have other : first ≠ '0' := by
        rintro rfl
        cases rest with
        | nil => exact notOne rfl
        | cons c rest => exact notZero c rest rfl
      simp [other]

/-- A literal of decimal digits in base 0: its value, but a leading `0` allows only zero. -/
theorem pyInt_decimal {chars : List Char} (nonempty : chars ≠ [])
    (digits : ∀ c ∈ chars, digitValue c < 10) :
    pyInt chars 0 =
      if chars.head? = some '0' ∧ digitsValue 10 (chars.map digitValue) ≠ 0 then
        .error (.intInvalidLiteral 0 chars)
      else .ok (digitsValue 10 (chars.map digitValue)) := by
  obtain ⟨first, rest, rfl⟩ := List.exists_cons_of_ne_nil nonempty
  have small : ∀ c ∈ first :: rest, digitValue c < 37 := fun c member => by
    have := digits c member; omega
  have signed : readSign ((first :: rest).dropWhile isIntSpace) = (false, first :: rest) := by
    rw [dropWhile_isIntSpace_of_digit (small first (List.mem_cons_self _ _)),
      readSign_of_digit (small first (List.mem_cons_self _ _))]
  have based : (if 0 = 0 then detectBase (first :: rest) else (0, false)) =
      (10, decide ((first :: rest).head? = some '0')) := by
    rw [if_pos rfl, detectBase_of_decimal digits]
  rw [@pyInt_of_scan _ 0 (Or.inl rfl) false (first :: rest) signed 10 _ based _ []
    (by rw [dropPrefix_of_digits digits]; exact head?_ne_underscore small)
    (by rw [dropPrefix_of_digits digits]; exact scanDigits_whole (by decide) digits) (by simp) rfl]
  simp

/-- A hexadecimal literal with its prefix `0x` or `0X`, in base 16. -/
theorem pyInt_hexPrefixed {chars : List Char} (nonempty : chars ≠ [])
    (digits : ∀ c ∈ chars, digitValue c < 16) {x : Char} (prefixLetter : x = 'x' ∨ x = 'X') :
    pyInt ('0' :: x :: chars) 16 = .ok (digitsValue 16 (chars.map digitValue)) := by
  have small : ∀ c ∈ chars, digitValue c < 37 := fun c member => by
    have := digits c member; omega
  have signed : readSign (('0' :: x :: chars).dropWhile isIntSpace) = (false, '0' :: x :: chars) := by
    rw [dropWhile_isIntSpace_of_digit (by decide), readSign_of_digit (by decide)]
  have dropped : dropPrefix 16 ('0' :: x :: chars) = chars := by
    obtain ⟨first, rest, rfl⟩ := List.exists_cons_of_ne_nil nonempty
    have notSeparator : first ≠ '_' := fun same =>
      head?_ne_underscore small (by rw [same]; rfl)
    simp [dropPrefix, prefixLetter, notSeparator]
  rw [@pyInt_of_scan _ 16 (Or.inr (by decide)) false _ signed 16 false (if_neg (by decide)) _ []
    (by rw [dropped]; exact head?_ne_underscore small)
    (by rw [dropped]; exact scanDigits_whole (by decide) digits) (by simpa using nonempty) rfl]
  simp

/-- `str.strip()` keeps a text that neither starts nor ends with whitespace. -/
theorem strStrip_of_ends {text : List Char} (first : ∀ c ∈ text.head?, isStrSpace c = false)
    (last : ∀ c ∈ text.getLast?, isStrSpace c = false) : strStrip text = text := by
  cases text with
  | nil => rfl
  | cons c rest =>
    have kept : (c :: rest).dropWhile isStrSpace = c :: rest :=
      List.dropWhile_cons_of_neg (by simp [first c rfl])
    have lastKept : (c :: rest).reverse.dropWhile isStrSpace = (c :: rest).reverse := by
      cases reversed : (c :: rest).reverse with
      | nil => simp at reversed
      | cons d others =>
        have final : (c :: rest).getLast? = some d := by rw [← List.head?_reverse, reversed]; rfl
        exact List.dropWhile_cons_of_neg (by simp [last d final])
    rw [strStrip, kept, lastKept, List.reverse_reverse]

/-- `str.strip()` keeps a text without whitespace. -/
theorem strStrip_of_forall {text : List Char} (kept : ∀ c ∈ text, isStrSpace c = false) :
    strStrip text = text :=
  strStrip_of_ends (fun c first => kept c (List.mem_of_mem_head? first))
    fun c last => kept c (List.mem_of_getLast?_eq_some last)

end Mpm2Tools
