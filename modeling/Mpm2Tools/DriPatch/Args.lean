import Mpm2Tools.Foundation.PyInt
import Mpm2Tools.DriPatch.Build

/-! # The command line of `dri_patch.py`

`parse_hex_address` reads every number of the command line: a `0x` prefix or an `h` suffix makes
it hexadecimal, and so does a hexadecimal letter in a text of hexadecimal digits; any other text
goes to `int(s, 0)`, which reads decimal and the prefixes `0x`, `0o` and `0b`, and refuses a
nonzero literal with a leading zero. The specs `--base FILE@OFFSET`, `--patch ADDR:FILE` and
`--copy SRC:SRCOFF:LEN@DSTOFF` are cut at their separators, and `main` resolves each against the
files, in the order it reads them, before it lays the layer. Files are given by a function from
their names to their bytes, `none` for a file that does not exist.

Above the faithful `mainBuild` stands `resolveArgs`, every argument parsed and every file read
first: build mode on the command line succeeds exactly when the resolved arguments exist and
`buildMode` succeeds on them, with the same output. -/

namespace Mpm2Tools.DriPatch

open Mpm2Tools

/-! ## Numbers -/

/-- The characters of `'0123456789abcdefABCDEF'`. -/
def hexChars : List Char := "0123456789abcdefABCDEF".toList

/-- The characters of `'abcdefABCDEF'`. -/
def hexLetters : List Char := "abcdefABCDEF".toList

/-- `parse_hex_address(s)`. -/
def parseHexAddress (s : List Char) : Except PyError Int :=
  let s := strStrip s
  if ['0', 'x'].isPrefixOf s || ['0', 'X'].isPrefixOf s then pyInt s 16
  else if s.getLast? = some 'h' ∨ s.getLast? = some 'H' then pyInt s.dropLast 16
  else if s.all hexChars.contains && s.any hexLetters.contains then pyInt s 16
  else pyInt s 0

/-! ## Specs -/

/-- `text.split(sep, 1)` unpacked into two names: the text before the first `sep` and the text
after it; `none` for the `ValueError` of a text without `sep`. -/
def splitFirst (sep : Char) (text : List Char) : Option (List Char × List Char) :=
  match text.span (· != sep) with
  | (before, _ :: after) => some (before, after)
  | (_, []) => none

/-- `text.rsplit(sep, 1)` unpacked into two names: the text before the last `sep` and the text
after it. -/
def splitLast (sep : Char) (text : List Char) : Option (List Char × List Char) :=
  (splitFirst sep text.reverse).map fun parts => (parts.2.reverse, parts.1.reverse)

/-- `--base`: `FILE@OFFSET` cut at the last `@`, with the offset `parse_hex_address` reads; without
`@`, the whole text at offset 0. -/
def parseBaseSpec (spec : List Char) : Except PyError (List Char × Int) :=
  match splitLast '@' spec with
  | some (file, offsetStr) => do return (file, ← parseHexAddress offsetStr)
  | none => pure (spec, 0)

/-- `--patch`: `ADDR:FILE` cut at the first `:`; `none` for the `ValueError` of a spec without
`:` or of an address `parse_hex_address` refuses. -/
def parsePatchSpec (spec : List Char) : Option (Int × List Char) := do
  let (addrStr, file) ← splitFirst ':' spec
  let addr ← (parseHexAddress addrStr).toOption
  return (addr, file)

/-- Why a `--copy` spec is refused, as `main` prints it after the spec. -/
inductive CopySpecError where
  /-- `Missing @DSTOFF`. -/
  | missingDstOff
  /-- `Expected SRC:SRCOFF:LEN format`. -/
  | notThreeParts
  /-- The `ValueError` of `parse_hex_address`. -/
  | number (error : PyError)
  deriving DecidableEq, Repr

/-- `--copy`: `SRC:SRCOFF:LEN@DSTOFF` cut at the last `@`, and the part before it at every `:`
into exactly three. -/
def parseCopySpec (spec : List Char) :
    Except CopySpecError (List Char × Int × Int × Int) := do
  let some (srcPart, dstOffStr) := splitLast '@' spec | throw .missingDstOff
  match srcPart.splitOn ':' with
  | [srcFile, srcOffStr, lengthStr] =>
    let srcOff ← (parseHexAddress srcOffStr).mapError .number
    let length ← (parseHexAddress lengthStr).mapError .number
    let dstOff ← (parseHexAddress dstOffStr).mapError .number
    return (srcFile, srcOff, length, dstOff)
  | _ => throw .notThreeParts

/-- `--extract START:END` cut at every `:` into exactly two numbers; `none` for the
`ValueError` `main` turns into `Invalid extract range`. -/
def parseExtractRange (range : List Char) : Option (Int × Int) :=
  match range.splitOn ':' with
  | [startStr, endStr] => do
    let start ← (parseHexAddress startStr).toOption
    let stop ← (parseHexAddress endStr).toOption
    return (start, stop)
  | _ => none

/-! ## `main` -/

/-- The command line as `argparse` leaves it: `--size` and `--extract` are `none` when absent,
and `--start` and `--fill` default to `'0'`. -/
structure RawArgs where
  output : Option (List Char)
  base : Option (List Char)
  hex : List (List Char)
  patch : List (List Char)
  copy : List (List Char)
  size : Option (List Char)
  start : List Char
  fill : List Char
  extract : Option (List Char)
  info : Bool
  overflow : Overflow
  hexOutput : Bool
  input : List (List Char)
  deriving DecidableEq, Repr

/-- The files by name: their bytes, `none` for a file that does not exist. -/
abbrev Files := List Char → Option (List UInt8)

/-- How `main` ends with exit status 1 and the message it prints, or with an exception. -/
inductive MainError where
  /-- An error of the build, or an exception `main` lets through. -/
  | build (error : BuildError)
  /-- `Error: Output file required (-o)`. -/
  | outputRequired
  /-- `Error: Base file not found: {base_file}`. -/
  | baseNotFound (file : List Char)
  /-- `Error: HEX file not found: {hex_file}`. -/
  | hexNotFound (file : List Char)
  /-- `Error: Invalid patch spec '{patch_spec}' (use ADDR:FILE)`. -/
  | invalidPatchSpec (spec : List Char)
  /-- `Error: Patch file not found: {file_path}`. -/
  | patchNotFound (file : List Char)
  /-- `Error: Invalid copy spec '{copy_spec}' (use SRC:SRCOFF:LEN@DSTOFF): {e}`. -/
  | invalidCopySpec (spec : List Char) (error : CopySpecError)
  /-- `Error: Source file not found: {src_file}`. -/
  | srcNotFound (file : List Char)
  /-- `Error: Input file not found: {input_file}`. -/
  | inputNotFound (file : List Char)
  /-- `Error: Input file required for --extract`. -/
  | extractInputRequired
  /-- `Error: Output file required for --extract`. -/
  | extractOutputRequired
  /-- `Error: Invalid extract range '{args.extract}'`. -/
  | invalidExtractRange (range : List Char)
  deriving DecidableEq, Repr

/-- `--base`: the spec cut, the offset read (its `ValueError` goes through), and the file. -/
def resolveBase (files : Files) (spec : List Char) : Except MainError BaseArg := do
  let (file, offset) ← (parseBaseSpec spec).mapError (.build ∘ .raised)
  let some data := files file | throw (.baseNotFound file)
  return ⟨data, offset⟩

/-- `if args.base:`: a `--base` that is given and not empty. -/
def resolveBaseArg (files : Files) : Option (List Char) → Except MainError (Option BaseArg)
  | some spec@(_ :: _) => some <$> resolveBase files spec
  | _ => pure none

/-- A `--hex` file. -/
def resolveHex (files : Files) (file : List Char) : Except MainError (List UInt8) :=
  match files file with
  | some data => pure data
  | none => throw (.hexNotFound file)

/-- A `--patch` spec and its file. -/
def resolvePatch (files : Files) (spec : List Char) : Except MainError (Int × List UInt8) := do
  let some (addr, file) := parsePatchSpec spec | throw (.invalidPatchSpec spec)
  let some data := files file | throw (.patchNotFound file)
  return (addr, data)

/-- A `--copy` spec, its source file, and `f.seek(src_off)`, which raises for a negative offset. -/
def resolveCopy (files : Files) (spec : List Char) : Except MainError CopyArg := do
  let (srcFile, srcOff, length, dstOff) ← (parseCopySpec spec).mapError (.invalidCopySpec spec)
  let some data := files srcFile | throw (.srcNotFound srcFile)
  if srcOff < 0 then throw (.build (.raised (.seekNegative srcOff)))
  return ⟨data, srcOff.toNat, length, dstOff⟩

/-- An input file. -/
def resolveInput (files : Files) (file : List Char) : Except MainError (List UInt8) :=
  match files file with
  | some data => pure data
  | none => throw (.inputNotFound file)

/-- `--start`: `none` for the default `'0'`, which means `global_min or 0`. -/
def resolveStart (start : List Char) : Except PyError (Option Int) :=
  if start = ['0'] then pure none else some <$> parseHexAddress start

/-- `--size`: `none` when absent or empty, which means up to `global_max`. -/
def resolveSize : Option (List Char) → Except PyError (Option Int)
  | none | some [] => pure none
  | some text => some <$> parseHexAddress text

/-- The bodies of `main`'s layer loops once the file is read, as `BuildArgs.combine` has them:
a `--hex` file, whose exceptions go through, a `--patch` file, a `--copy` range, and an input
file, whose exceptions end the build with an error message. -/
def hexStep (overflowError : Bool) (state : BuildState) (file : List UInt8) :
    Except BuildError BuildState := do
  state.addLayer overflowError (← (loadIntelHex file).mapError .raised)

def patchStep (overflowError : Bool) (state : BuildState) (patch : Int × List UInt8) :
    Except BuildError BuildState :=
  state.addLayer overflowError (loadBinary patch.2 patch.1)

def copyStep (overflowError : Bool) (state : BuildState) (copy : CopyArg) :
    Except BuildError BuildState :=
  state.addLayer overflowError copy.layer

def inputStep (overflowError : Bool) (state : BuildState) (input : Nat × List UInt8) :
    Except BuildError BuildState :=
  match (loadIntelHex input.2).mapError .raised >>= state.addLayer overflowError with
  | .ok next => pure next
  | .error _ => throw (.inputNotHex input.1)

/-- Build mode of `main` on the command line: the base, then each `--hex`, `--patch`, `--copy`
and input file resolved and laid in turn, then `No data to write`, the numbers of the output
range, the range check and the output. -/
def mainBuild (files : Files) (raw : RawArgs) : Except MainError BuildOutput := do
  if raw.output.isNone then throw .outputRequired
  let base ← resolveBaseArg files raw.base
  let overflowError := decide (raw.overflow = .error)
  let state ← raw.hex.foldlM (fun state file => do
    (hexStep overflowError state (← resolveHex files file)).mapError .build) (.ofBase base)
  let state ← raw.patch.foldlM (fun state spec => do
    (patchStep overflowError state (← resolvePatch files spec)).mapError .build) state
  let state ← raw.copy.foldlM (fun state spec => do
    (copyStep overflowError state (← resolveCopy files spec)).mapError .build) state
  let state ← raw.input.enum.foldlM (fun state input => do
    (inputStep overflowError state (← (input.1, ·) <$> resolveInput files input.2)).mapError
      .build) state
  if state.combined = [] then throw (.build .noData)
  let start ← (resolveStart raw.start).mapError (.build ∘ .raised)
  let fill ← (parseHexAddress raw.fill).mapError (.build ∘ .raised)
  let size ← (resolveSize raw.size).mapError (.build ∘ .raised)
  let args : BuildArgs := ⟨base, [], [], [], [], start, size, fill, raw.overflow, raw.hexOutput⟩
  (args.checkRange state >>= fun () => args.output state).mapError .build

/-- `--extract`: an input file and an output are required, the range is cut and read, and the
output is the slice `data[start:end]` of the first input file, which must exist. -/
def mainExtract (files : Files) (raw : RawArgs) (range : List Char) :
    Except MainError (List UInt8) := do
  let some inputFile := raw.input.head? | throw .extractInputRequired
  if raw.output.isNone then throw .extractOutputRequired
  let some (start, stop) := parseExtractRange range | throw (.invalidExtractRange range)
  let some data := files inputFile | throw (.build (.raised (.fileNotFound inputFile)))
  return pySliceGet data start stop

/-- What `main` leaves when it returns 0. -/
inductive MainOutcome where
  /-- `--info` only prints. -/
  | info
  /-- `--extract` writes these bytes. -/
  | extracted (data : List UInt8)
  /-- Build mode writes this. -/
  | built (output : BuildOutput)
  deriving DecidableEq, Repr

/-- `main`: `--info`, else `--extract` when given and not empty, else build mode. -/
def main (files : Files) (raw : RawArgs) : Except MainError MainOutcome :=
  if raw.info then pure .info
  else match raw.extract with
    | some range@(_ :: _) => .extracted <$> mainExtract files raw range
    | _ => .built <$> mainBuild files raw

/-! ## What `parse_hex_address` reads -/

theorem hexChars_spec :
    ∀ c ∈ hexChars, digitValue c < 16 ∧ (c ∉ hexLetters → digitValue c < 10) := by
  decide

/-- A hexadecimal digit is none of what `parse_hex_address` looks for around a number:
whitespace and the markers `x`, `X`, `h` and `H`. -/
theorem not_marker_of_hexDigit {c : Char} (digit : digitValue c < 16) :
    isStrSpace c = false ∧ c ≠ 'x' ∧ c ≠ 'X' ∧ c ≠ 'h' ∧ c ≠ 'H' := by
  refine ⟨isStrSpace_of_digitValue_lt (by omega), ?_, ?_, ?_, ?_⟩ <;>
    rintro rfl <;> revert digit <;> decide

theorem marker_not_mem {chars : List Char} (digits : ∀ c ∈ chars, digitValue c < 16) {x : Char}
    (marker : x = 'x' ∨ x = 'X' ∨ x = 'h' ∨ x = 'H') : x ∉ chars := fun member => by
  have := not_marker_of_hexDigit (digits x member)
  rcases marker with rfl | rfl | rfl | rfl <;> simp at this

theorem isPrefixOf_eq_false_of_not_mem {text : List Char} {x : Char} (absent : x ∉ text) :
    ['0', x].isPrefixOf text = false := by
  rw [Bool.eq_false_iff]
  exact fun prefixed => absent ((List.isPrefixOf_iff_prefix.mp prefixed).subset (by simp))

/-- Without a marker, `parse_hex_address` reads in base 16 a text of hexadecimal digits with a
letter among them, and any other text in base 0. -/
theorem parseHexAddress_of_unmarked {chars : List Char} (digits : ∀ c ∈ chars, digitValue c < 16) :
    parseHexAddress chars =
      if chars.all hexChars.contains && chars.any hexLetters.contains then pyInt chars 16
      else pyInt chars 0 := by
  have noSuffix : ¬ (chars.getLast? = some 'h' ∨ chars.getLast? = some 'H') := by
    rintro (last | last) <;>
      exact marker_not_mem digits (by simp) (List.mem_of_getLast?_eq_some last)
  rw [parseHexAddress, strStrip_of_forall fun c member => (not_marker_of_hexDigit (digits c member)).1,
    isPrefixOf_eq_false_of_not_mem (marker_not_mem digits (by simp)),
    isPrefixOf_eq_false_of_not_mem (marker_not_mem digits (by simp)), if_neg (by decide),
    if_neg noSuffix]

/-- A text of the characters `0-9a-fA-F` is hexadecimal when a letter is among them; otherwise it
is decimal, read by `int(s, 0)`, which refuses a nonzero number with a leading `0`. -/
theorem parseHexAddress_digits {chars : List Char} (nonempty : chars ≠ [])
    (digits : ∀ c ∈ chars, c ∈ hexChars) :
    parseHexAddress chars =
      if ∃ c ∈ chars, c ∈ hexLetters then .ok (digitsValue 16 (chars.map digitValue))
      else if chars.head? = some '0' ∧ digitsValue 10 (chars.map digitValue) ≠ 0 then
        .error (.intInvalidLiteral 0 chars)
      else .ok (digitsValue 10 (chars.map digitValue)) := by
  have hex (c : Char) (member : c ∈ chars) := hexChars_spec c (digits c member)
  have all : chars.all hexChars.contains = true := by simpa using digits
  rw [parseHexAddress_of_unmarked fun c member => (hex c member).1, all, Bool.true_and]
  by_cases letter : ∃ c ∈ chars, c ∈ hexLetters
  · rw [if_pos (by simpa using letter), if_pos letter,
      pyInt_digits (by decide) nonempty fun c member => (hex c member).1]
  · rw [if_neg (by simpa using letter), if_neg letter,
      pyInt_decimal nonempty fun c member => (hex c member).2 fun l => letter ⟨c, member, l⟩]

/-- `0100` holds no letter, and base 0 refuses its leading `0`. -/
theorem parseHexAddress_0100 :
    parseHexAddress "0100".toList = .error (.intInvalidLiteral 0 "0100".toList) := by
  rw [parseHexAddress_digits (by decide) (by decide), if_neg (by decide), if_pos (by decide)]

theorem parseHexAddress_prefixed {chars : List Char} (nonempty : chars ≠ [])
    (digits : ∀ c ∈ chars, digitValue c < 16) {x : Char} (marker : x = 'x' ∨ x = 'X') :
    parseHexAddress ('0' :: x :: chars) = .ok (digitsValue 16 (chars.map digitValue)) := by
  have kept : ∀ c ∈ '0' :: x :: chars, isStrSpace c = false := by
    simp only [List.mem_cons]
    rintro c (rfl | rfl | member)
    · decide
    · rcases marker with rfl | rfl <;> decide
    · exact (not_marker_of_hexDigit (digits c member)).1
  have prefixed : (['0', 'x'].isPrefixOf ('0' :: x :: chars) ||
      ['0', 'X'].isPrefixOf ('0' :: x :: chars)) = true := by
    rcases marker with rfl | rfl <;> simp [List.isPrefixOf]
  rw [parseHexAddress, strStrip_of_forall kept, if_pos prefixed,
    pyInt_hexPrefixed nonempty digits marker]

theorem parseHexAddress_suffixed {chars : List Char} (nonempty : chars ≠ [])
    (digits : ∀ c ∈ chars, digitValue c < 16) {h : Char} (marker : h = 'h' ∨ h = 'H') :
    parseHexAddress (chars ++ [h]) = .ok (digitsValue 16 (chars.map digitValue)) := by
  have kept : ∀ c ∈ chars ++ [h], isStrSpace c = false := by
    simp only [List.mem_append, List.mem_singleton]
    rintro c (member | rfl)
    · exact (not_marker_of_hexDigit (digits c member)).1
    · rcases marker with rfl | rfl <;> decide
  have notPrefix (x : Char) (letter : x = 'x' ∨ x = 'X') : x ∉ chars ++ [h] := by
    rw [List.mem_append, List.mem_singleton, not_or]
    refine ⟨marker_not_mem digits (letter.imp_right .inl), ?_⟩
    rcases letter with rfl | rfl <;> rcases marker with rfl | rfl <;> decide
  have suffixed : (chars ++ [h]).getLast? = some 'h' ∨ (chars ++ [h]).getLast? = some 'H' := by
    rw [List.getLast?_concat]
    rcases marker with rfl | rfl <;> simp
  rw [parseHexAddress, strStrip_of_forall kept,
    isPrefixOf_eq_false_of_not_mem (notPrefix 'x' (.inl rfl)),
    isPrefixOf_eq_false_of_not_mem (notPrefix 'X' (.inr rfl)), if_neg (by decide),
    if_pos suffixed, List.dropLast_concat, pyInt_digits (by decide) nonempty digits]

/-- A number of hexadecimal digits marked as hexadecimal, by the prefix `0x` or `0X` or by the
suffix `h` or `H`, reads as their value. -/
theorem parseHexAddress_marked {chars : List Char} (nonempty : chars ≠ [])
    (digits : ∀ c ∈ chars, digitValue c < 16) :
    ∀ text ∈ ['0' :: 'x' :: chars, '0' :: 'X' :: chars, chars ++ ['h'], chars ++ ['H']],
      parseHexAddress text = .ok (digitsValue 16 (chars.map digitValue)) := by
  simp only [List.mem_cons, List.mem_singleton, List.not_mem_nil, or_false]
  rintro text (rfl | rfl | rfl | rfl)
  · exact parseHexAddress_prefixed nonempty digits (.inl rfl)
  · exact parseHexAddress_prefixed nonempty digits (.inr rfl)
  · exact parseHexAddress_suffixed nonempty digits (.inl rfl)
  · exact parseHexAddress_suffixed nonempty digits (.inr rfl)

theorem parseHexAddress_D00 :
    parseHexAddress "0xD00".toList = .ok 0xD00 ∧ parseHexAddress "0XD00".toList = .ok 0xD00 ∧
      parseHexAddress "D00h".toList = .ok 0xD00 ∧ parseHexAddress "D00H".toList = .ok 0xD00 :=
  have marked := @parseHexAddress_marked "D00".toList (by decide) (by decide)
  ⟨marked _ (by decide), marked _ (by decide), marked _ (by decide), marked _ (by decide)⟩

/-! ## Cutting the specs -/

theorem splitFirst_append_cons {sep : Char} {before after : List Char} (absent : sep ∉ before) :
    splitFirst sep (before ++ sep :: after) = some (before, after) := by
  have differ : ∀ c ∈ before, (c != sep) = true :=
    fun c member => bne_iff_ne.mpr fun same => absent (same ▸ member)
  simp [splitFirst, List.span_eq_take_drop, List.takeWhile_append_of_pos differ,
    List.dropWhile_append_of_pos differ]

theorem splitLast_append_cons {sep : Char} {before after : List Char} (absent : sep ∉ after) :
    splitLast sep (before ++ sep :: after) = some (before, after) := by
  rw [splitLast, List.reverse_append, List.reverse_cons, List.append_assoc, List.singleton_append,
    splitFirst_append_cons (by simpa using absent)]
  simp

theorem splitOn_append_cons {sep : Char} {before after : List Char} (absent : sep ∉ before) :
    (before ++ sep :: after).splitOn sep = before :: after.splitOn sep :=
  List.splitOnP_first (· == sep) before (fun _ member same => absent (eq_of_beq same ▸ member))
    sep (beq_self_eq_true sep) after

theorem splitOn_of_not_mem {sep : Char} {text : List Char} (absent : sep ∉ text) :
    text.splitOn sep = [text] :=
  List.splitOnP_eq_single (· == sep) text fun _ member same => absent (eq_of_beq same ▸ member)

/-- Each separator adds a part. -/
theorem length_splitOn (sep : Char) (text : List Char) :
    (text.splitOn sep).length = text.count sep + 1 := by
  induction text with
  | nil => rfl
  | cons c text induction =>
    rw [List.splitOn, List.splitOnP_cons, List.count_cons, ← List.splitOn]
    split_ifs <;> simp_all

/-- A `--copy` spec of a source file, an offset and a length, and a destination: it is cut at the
last `@` and at every `:` back into its parts, unless the source's name holds a `:`, a drive
letter say, which makes a fourth part. -/
theorem parseCopySpec_parts {src offStr lenStr dstStr : List Char} {srcOff length dstOff : Int}
    (off : ':' ∉ offStr) (len : ':' ∉ lenStr) (dst : '@' ∉ dstStr)
    (readOff : parseHexAddress offStr = .ok srcOff) (readLen : parseHexAddress lenStr = .ok length)
    (readDst : parseHexAddress dstStr = .ok dstOff) :
    parseCopySpec (src ++ ':' :: offStr ++ ':' :: lenStr ++ '@' :: dstStr) =
      if ':' ∈ src then .error .notThreeParts else .ok (src, srcOff, length, dstOff) := by
  have parts : src ++ ':' :: offStr ++ ':' :: lenStr = src ++ ':' :: (offStr ++ ':' :: lenStr) := by
    simp
  rw [parseCopySpec, splitLast_append_cons dst, parts]
  dsimp only
  split_ifs with drive
  · have more : 4 ≤ ((src ++ ':' :: (offStr ++ ':' :: lenStr)).splitOn ':').length := by
      have first := List.count_pos_iff.mpr drive
      rw [length_splitOn]
      simp
      omega
    generalize (src ++ ':' :: (offStr ++ ':' :: lenStr)).splitOn ':' = split at more
    match split, more with
    | _ :: _ :: _ :: _ :: _, _ => rfl
  · rw [splitOn_append_cons drive, splitOn_append_cons off, splitOn_of_not_mem len]
    simp [readOff, readLen, readDst]
    rfl

/-- A source under a drive letter makes a fourth part. -/
theorem parseCopySpec_driveLetter :
    parseCopySpec ("C:/x.spr".toList ++ ':' :: "509".toList ++ ':' :: "2".toList ++ '@' ::
      "133".toList) = .error .notThreeParts := by
  rw [parseCopySpec_parts (by decide) (by decide) (by decide)
    (show parseHexAddress "509".toList = .ok 509 by decide)
    (show parseHexAddress "2".toList = .ok 2 by decide)
    (show parseHexAddress "133".toList = .ok 133 by decide), if_pos (by decide)]

/-! ## Build mode reads every argument first -/

/-- Every argument of build mode read, in `main`'s order, before any layer is laid: the
arguments `buildMode` takes. -/
def resolveArgs (files : Files) (raw : RawArgs) : Except MainError BuildArgs := do
  if raw.output.isNone then throw .outputRequired
  let base ← resolveBaseArg files raw.base
  let hex ← raw.hex.mapM (resolveHex files)
  let patch ← raw.patch.mapM (resolvePatch files)
  let copy ← raw.copy.mapM (resolveCopy files)
  let input ← raw.input.mapM (resolveInput files)
  let start ← (resolveStart raw.start).mapError (.build ∘ .raised)
  let fill ← (parseHexAddress raw.fill).mapError (.build ∘ .raised)
  let size ← (resolveSize raw.size).mapError (.build ∘ .raised)
  return ⟨base, hex, patch, copy, input, start, size, fill, raw.overflow, raw.hexOutput⟩

/-- A loop that reads each argument and lays it succeeds exactly when reading them all and then
laying them does. -/
theorem foldlM_read_ok {α β σ ε ε' : Type} {read : α → Except ε' β}
    {step : σ → β → Except ε σ} {wrap : ε → ε'} {xs : List α} {init final : σ} :
    xs.foldlM (fun state x => read x >>= fun y => (step state y).mapError wrap) init = .ok final ↔
      ∃ ys, xs.mapM read = .ok ys ∧ ys.foldlM step init = .ok final := by
  induction xs generalizing init with
  | nil =>
    simp only [List.foldlM_nil, List.mapM_nil]
    constructor
    · rintro ⟨⟩
      exact ⟨[], rfl, rfl⟩
    · rintro ⟨_, ⟨⟩, ⟨⟩⟩
      rfl
  | cons x xs induction =>
    simp only [List.foldlM_cons, List.mapM_cons, Except.bind_eq_ok, Except.mapError_eq_ok,
      induction]
    constructor
    · rintro ⟨next, ⟨y, read, stepped⟩, ys, mapped, rest⟩
      exact ⟨y :: ys, ⟨y, read, ys, mapped, rfl⟩,
        by rw [List.foldlM_cons]; exact Except.bind_eq_ok.mpr ⟨next, stepped, rest⟩⟩
    · rintro ⟨_, ⟨y, read, ys, mapped, ⟨⟩⟩, folded⟩
      obtain ⟨next, stepped, rest⟩ := Except.bind_eq_ok.mp folded
      exact ⟨next, ⟨y, read, stepped⟩, ys, mapped, rest⟩

theorem mapM_enumFrom {α β ε : Type} (read : α → Except ε β) (n : Nat) (xs : List α) :
    (xs.enumFrom n).mapM (fun x => (x.1, ·) <$> read x.2) = List.enumFrom n <$> xs.mapM read := by
  induction xs generalizing n with
  | nil => rfl
  | cons x xs induction =>
    simp only [List.enumFrom_cons, List.mapM_cons, induction]
    cases read x <;> cases xs.mapM read <;> rfl

theorem mainBuild_ok_iff {files : Files} {raw : RawArgs} {out : BuildOutput} :
    mainBuild files raw = .ok out ↔
      ∃ args, resolveArgs files raw = .ok args ∧ buildMode args = .ok out := by
  cases output : raw.output with
  | none => simp [mainBuild, resolveArgs, output, throw, throwThe, MonadExceptOf.throw]
  | some path =>
    have enum : raw.input.enum = raw.input.enumFrom 0 := rfl
    simp only [mainBuild, resolveArgs, buildMode, output, Option.isNone_some, if_neg Bool.false_ne_true,
      pure_bind, Except.bind_eq_ok, Except.mapError_eq_ok, foldlM_read_ok, enum, mapM_enumFrom,
      Except.map_eq_ok]
    constructor
    · rintro ⟨base, baseRead, s1, ⟨hex, hexRead, hexLoop⟩, s2, ⟨patch, patchRead, patchLoop⟩, s3,
        ⟨copy, copyRead, copyLoop⟩, s4, ⟨_, ⟨input, inputRead, rfl⟩, inputLoop⟩, written⟩
      split_ifs at written with empty
      · cases written
      obtain ⟨start, startRead, fill, fillRead, size, sizeRead, final⟩ := by
        simpa only [Except.bind_eq_ok, Except.mapError_eq_ok] using written
      refine ⟨⟨base, hex, patch, copy, input, start, size, fill, raw.overflow, raw.hexOutput⟩,
        ⟨base, baseRead, hex, hexRead, patch, patchRead, copy, copyRead, input, inputRead, start,
          startRead, fill, fillRead, size, sizeRead, rfl⟩, s4, ?_, ?_⟩
      · simp only [BuildArgs.combine, Except.bind_eq_ok]
        exact ⟨s1, hexLoop, s2, patchLoop, s3, copyLoop, inputLoop⟩
      · rw [BuildArgs.write, if_neg empty]
        exact Except.bind_eq_ok.mpr final
    · rintro ⟨args, ⟨base, baseRead, hex, hexRead, patch, patchRead, copy, copyRead, input, inputRead,
        start, startRead, fill, fillRead, size, sizeRead, ⟨⟩⟩, s4, combined, written⟩
      simp only [BuildArgs.combine, Except.bind_eq_ok] at combined
      obtain ⟨s1, hexLoop, s2, patchLoop, s3, copyLoop, inputLoop⟩ := combined
      rw [BuildArgs.write] at written
      split_ifs at written with empty
      refine ⟨base, baseRead, s1, ⟨hex, hexRead, hexLoop⟩, s2, ⟨patch, patchRead, patchLoop⟩, s3,
        ⟨copy, copyRead, copyLoop⟩, s4, ⟨_, ⟨input, inputRead, rfl⟩, inputLoop⟩, ?_⟩
      rw [if_neg empty]
      simpa only [Except.bind_eq_ok, Except.mapError_eq_ok] using
        ⟨start, startRead, fill, fillRead, size, sizeRead, Except.bind_eq_ok.mp written⟩

/-- `main` ends in build mode with this output exactly when neither `--info` nor a nonempty
`--extract` is given and `buildMode` succeeds on the arguments read first: that `main` reads each
argument only when it comes to it changes which error it reports, never what it writes. -/
theorem main_built_iff {files : Files} {raw : RawArgs} {out : BuildOutput} :
    main files raw = .ok (.built out) ↔
      raw.info = false ∧ (raw.extract = none ∨ raw.extract = some []) ∧
        ∃ args, resolveArgs files raw = .ok args ∧ buildMode args = .ok out := by
  rw [← mainBuild_ok_iff]
  cases info : raw.info
  · rcases extract : raw.extract with _ | _ | ⟨c, range⟩ <;>
      simp [main, info, extract, Except.map_eq_ok]
  · simp [main, info, pure, Except.pure]

end Mpm2Tools.DriPatch
