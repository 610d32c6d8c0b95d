import Mathlib

/-! Python byte-string primitives used by the MP/M II build tools.

`bytes` and `bytearray` values are `List UInt8`. A slice read clamps its bounds, and a slice
assignment replaces the clamped range by the new bytes, so it changes the length of the array
whenever the two differ in length. Item stores and `struct` packing check their arguments and
raise instead. Every exception the tools can raise is a constructor of `PyError`. -/

namespace Mpm2Tools

/-! ## Exceptions -/

/-- The exceptions raised by the modeled code: by the Python runtime, and by `raise ValueError(...)`
in `gensys.py`, `imd2raw.py` and `dri_patch.py`. Each carries the values its message prints. -/
inductive PyError where
  /-- `ValueError: byte must be in range(0, 256)` from `bytearray[i] = value`. -/
  | byteOutOfRange (value : Int)
  /-- `IndexError: bytearray index out of range`. -/
  | indexOutOfRange (index : Nat)
  /-- `struct.error: pack_into requires a buffer of at least offset + 2 bytes`. -/
  | packBufferTooSmall (offset length : Nat)
  /-- `struct.error: 'H' format requires 0 <= number <= 65535`. -/
  | packArgumentOutOfRange (value : Int)
  /-- `struct.error: unpack requires a buffer of 2 bytes`. -/
  | unpackBufferSize (length : Nat)
  /-- `ValueError: negative count` from `bytearray(count)`. -/
  | negativeCount (count : Int)
  /-- `{path}: File too small for SPR format`. -/
  | sprFileTooSmall (name : String)
  /-- `{path}: File truncated, expected {code_end} bytes, got {len(data)}`. -/
  | sprFileTruncated (name : String) (expected got : Nat)
  /-- `XIOS common base {act:04X}H below configured common base {common_base * 256:04X}H`. -/
  | xiosCommonBaseBelow (actual configured : Int)
  /-- `Module {name} base {base:04X}H below image base {image_base:04X}H`. -/
  | moduleBelowImageBase (name : String) (base imageBase : Int)
  /-- `Module {name} extends beyond memory image`. -/
  | moduleBeyondImage (name : String)
  /-- `Invalid IMD file: no header terminator` from `imd2raw.py`. -/
  | imdNoHeaderTerminator
  /-- `non-hexadecimal number found in fromhex() arg at position {position}`. -/
  | fromhexNonHex (position : Nat)
  /-- `fromhex() arg must contain an even number of hexadecimal digits`. -/
  | fromhexOddDigits
  /-- `Line {line_num}: Bad checksum` from `dri_patch.py`. -/
  | hexBadChecksum (lineNum : Nat)
  /-- `Line {line_num}: {e}`: `parse_intel_hex` raises every exception of a record again with its
  line number. -/
  | hexLine (lineNum : Nat) (inner : PyError)
  /-- `No data records found in Intel HEX file`. -/
  | hexNoDataRecords
  /-- `ValueError: invalid literal for int() with base {base}: {text!r}`. -/
  | intInvalidLiteral (base : Nat) (text : List Char)
  /-- `ValueError: int() base must be >= 2 and <= 36, or 0`. -/
  | intBaseOutOfRange (base : Nat)
  /-- `OSError: [Errno 22] Invalid argument` from `f.seek(offset)` with a negative offset. -/
  | seekNegative (offset : Int)
  /-- `FileNotFoundError: [Errno 2] No such file or directory: {path!r}` from `open`. -/
  | fileNotFound (path : List Char)
  deriving DecidableEq, Repr

/-- Results compare by constructor and contents, so that a run on a fixed input can be decided. -/
instance instDecidableEqExcept {ε α : Type} [DecidableEq ε] [DecidableEq α] :
    DecidableEq (Except ε α)
  | .error error, .error other =>
      if same : error = other then isTrue (same ▸ rfl)
      else isFalse fun equal => same (by cases equal; rfl)
  | .ok value, .ok other =>
      if same : value = other then isTrue (same ▸ rfl)
      else isFalse fun equal => same (by cases equal; rfl)
  | .error _, .ok _ => isFalse nofun
  | .ok _, .error _ => isFalse nofun

@[simp] theorem Except.ok_bind {ε α β : Type} (a : α) (f : α → Except ε β) :
    (Except.ok a >>= f) = f a := rfl

@[simp] theorem Except.error_bind {ε α β : Type} (error : ε) (f : α → Except ε β) :
    (Except.error error >>= f) = .error error := rfl

theorem Except.bind_eq_ok {ε α β : Type} {x : Except ε α} {f : α → Except ε β} {b : β} :
    x >>= f = .ok b ↔ ∃ a, x = .ok a ∧ f a = .ok b := by
  cases x <;> simp [bind, Except.bind]

theorem Except.bind_eq_error {ε α β : Type} {x : Except ε α} {f : α → Except ε β} {e : ε} :
    x >>= f = .error e ↔ x = .error e ∨ ∃ a, x = .ok a ∧ f a = .error e := by
  cases x <;> simp [bind, Except.bind]

theorem Except.map_eq_ok {ε α β : Type} {f : α → β} {x : Except ε α} {b : β} :
    f <$> x = .ok b ↔ ∃ a, x = .ok a ∧ f a = b := by
  cases x <;> simp [Functor.map, Except.map]

/-! ## Bytes -/

/-- The byte a `bytearray` holds after storing an `int` that lies in `range(256)`. -/
def toByte (value : Int) : UInt8 := UInt8.ofNat value.toNat

theorem UInt8.toNat_ofNat_mod (value : Nat) : (UInt8.ofNat value).toNat = value % 256 :=
  BitVec.toNat_ofNat _ _

@[simp] theorem UInt8.ofNat_toNat (byte : UInt8) : UInt8.ofNat byte.toNat = byte :=
  UInt8.ext (UInt8.toNat_ofNat_of_lt byte.toNat_lt)

@[simp] theorem toNat_toByte {value : Int} (nonneg : 0 ≤ value) (small : value < 256) :
    ((toByte value).toNat : Int) = value := by
  rw [toByte, UInt8.toNat_ofNat_mod, Nat.mod_eq_of_lt (by omega)]
  omega

/-! ## Slices -/

/-- `array[start:stop]` for non-negative bounds. -/
def sliceGet {α : Type} (array : List α) (start stop : Nat) : List α :=
  (array.drop start).take (stop - start)

/-- `array[start:stop] = values` for non-negative bounds. CPython clamps both bounds to the
length and raises `stop` to `start`, so the result has the new bytes in place of the clamped
range. -/
def sliceSet {α : Type} (array : List α) (start stop : Nat) (values : List α) : List α :=
  array.take start ++ values ++ array.drop (max start stop)

/-- A slice bound as `PySlice_AdjustIndices` normalises it: a negative bound counts from the end
and is clamped at zero. Clamping at the length is left to `take` and `drop`. -/
def pyIndex (length : Nat) (index : Int) : Nat :=
  if index < 0 then (index + length).toNat else index.toNat

/-- `array[start:stop]` for bounds of either sign. -/
def pySliceGet {α : Type} (array : List α) (start stop : Int) : List α :=
  sliceGet array (pyIndex array.length start) (pyIndex array.length stop)

/-- `array[start:stop] = values` for bounds of either sign. -/
def pySliceSet {α : Type} (array : List α) (start stop : Int) (values : List α) : List α :=
  sliceSet array (pyIndex array.length start) (pyIndex array.length stop) values

variable {α : Type}

@[simp] theorem length_sliceGet (array : List α) (start stop : Nat) :
    (sliceGet array start stop).length = min (stop - start) (array.length - start) := by
  simp [sliceGet]

theorem getElem?_sliceGet (array : List α) (start stop index : Nat) :
    (sliceGet array start stop)[index]? =
      if index < stop - start then array[start + index]? else none := by
  simp [sliceGet, List.getElem?_take]

theorem sliceGet_of_le (array : List α) {start stop : Nat} (inside : stop ≤ array.length) :
    (sliceGet array start stop).length = stop - start := by
  simp only [length_sliceGet]
  omega

theorem length_sliceSet (array values : List α) (start stop : Nat) :
    (sliceSet array start stop values).length =
      min start array.length + values.length + (array.length - max start stop) := by
  simp only [sliceSet, List.length_append, List.length_take, List.length_drop]

/-- An assignment of as many bytes as the range holds, inside the array, keeps the length. -/
theorem length_sliceSet_of_fits (array values : List α) {start stop : Nat}
    (fits : values.length = stop - start) (ordered : start ≤ stop)
    (inside : stop ≤ array.length) :
    (sliceSet array start stop values).length = array.length := by
  rw [length_sliceSet]
  omega

theorem getElem?_sliceSet_of_lt (array values : List α) {start stop index : Nat}
    (below : index < start) (inside : start ≤ array.length) :
    (sliceSet array start stop values)[index]? = array[index]? := by
  rw [sliceSet, List.append_assoc, List.getElem?_append_left (by simp; omega),
    List.getElem?_take, if_pos below]

theorem getElem?_sliceSet_within (array values : List α) {start stop index : Nat}
    (above : start ≤ index) (within : index < start + values.length)
    (inside : start ≤ array.length) :
    (sliceSet array start stop values)[index]? = values[index - start]? := by
  have takeLength : (array.take start).length = start := by simp; omega
  rw [sliceSet, List.append_assoc, List.getElem?_append_right (by omega), takeLength,
    List.getElem?_append_left (by omega)]

theorem getElem?_sliceSet_of_ge (array values : List α) {start stop index : Nat}
    (fits : values.length = stop - start) (ordered : start ≤ stop)
    (inside : stop ≤ array.length) (above : stop ≤ index) :
    (sliceSet array start stop values)[index]? = array[index]? := by
  have takeLength : (array.take start).length = start := by simp; omega
  rw [sliceSet, List.append_assoc, List.getElem?_append_right (by omega), takeLength,
    List.getElem?_append_right (by omega), List.getElem?_drop, Nat.max_eq_right ordered]
  congr 1
  omega

/-- A slice depends only on the items inside it. -/
theorem sliceGet_congr {array other : List α} {start stop : Nat}
    (same : ∀ index, start ≤ index → index < stop → array[index]? = other[index]?) :
    sliceGet array start stop = sliceGet other start stop := by
  apply List.ext_getElem?
  intro index
  rw [getElem?_sliceGet, getElem?_sliceGet]
  split_ifs
  · exact same _ (by omega) (by omega)
  · rfl

theorem pyIndex_of_before {length : Nat} {index : Int} (before : index + length ≤ 0) :
    pyIndex length index = 0 := by
  unfold pyIndex
  split_ifs <;> omega

/-- Bounds that count back past the start of the array both clamp to 0: the assignment inserts
`values` in front of the array. -/
theorem pySliceSet_of_before (array values : List α) {start stop : Int}
    (startBefore : start + array.length ≤ 0) (stopBefore : stop + array.length ≤ 0) :
    pySliceSet array start stop values = values ++ array := by
  simp [pySliceSet, sliceSet, pyIndex_of_before startBefore, pyIndex_of_before stopBefore]

/-- An assignment inside the array reads back from its own range. -/
theorem sliceGet_sliceSet_self (array values : List α) {start : Nat}
    (inside : start + values.length ≤ array.length) :
    sliceGet (sliceSet array start (start + values.length) values) start
      (start + values.length) = values := by
  apply List.ext_getElem?
  intro index
  rw [getElem?_sliceGet]
  split_ifs with within
  · rw [getElem?_sliceSet_within _ _ (by omega) (by omega) (by omega), Nat.add_sub_cancel_left]
  · rw [List.getElem?_eq_none (by omega)]

/-- An assignment that fits its range leaves every slice outside that range as it was. -/
theorem sliceGet_sliceSet_of_apart (array values : List α) {start stop first last : Nat}
    (fits : values.length = stop - start) (ordered : start ≤ stop) (inside : stop ≤ array.length)
    (apart : last ≤ start ∨ stop ≤ first) :
    sliceGet (sliceSet array start stop values) first last = sliceGet array first last :=
  sliceGet_congr fun index above below => by
    rcases apart with before | after
    · exact getElem?_sliceSet_of_lt _ _ (by omega) (by omega)
    · exact getElem?_sliceSet_of_ge _ _ fits ordered inside (by omega)

/-- A window of an array read item by item: its slices are those of the window. -/
theorem sliceGet_add_of_getElem? {array values : List α} {offset : Nat}
    (same : ∀ index < values.length, array[offset + index]? = values[index]?) (start stop : Nat)
    (inside : stop ≤ values.length) :
    sliceGet array (offset + start) (offset + stop) = sliceGet values start stop := by
  apply List.ext_getElem?
  intro index
  rw [getElem?_sliceGet, getElem?_sliceGet]
  by_cases within : index < stop - start
  · rw [if_pos (by omega), if_pos within, ← same _ (by omega), Nat.add_assoc]
  · rw [if_neg (by omega), if_neg within]

theorem sliceGet_eq_of_getElem? {array values : List α} {offset count : Nat}
    (length : values.length = count)
    (same : ∀ index < count, array[offset + index]? = values[index]?) :
    sliceGet array offset (offset + count) = values := by
  subst length
  simpa [sliceGet] using sliceGet_add_of_getElem? same 0 values.length le_rfl

/-! ## Item reads -/

/-- `array[index]` for a non-negative index: raises `IndexError` past the end. -/
def getByte (array : List UInt8) (index : Nat) : Except PyError UInt8 :=
  match array[index]? with
  | some byte => .ok byte
  | none => .error (.indexOutOfRange index)

theorem getByte_ok_iff {array : List UInt8} {index : Nat} {byte : UInt8} :
    getByte array index = .ok byte ↔ array[index]? = some byte := by
  cases found : array[index]? <;> simp [getByte, found]

theorem getByte_of_lt {array : List UInt8} {index : Nat} (inside : index < array.length) :
    getByte array index = .ok array[index] := by
  simp [getByte_ok_iff, inside]

theorem getByte_of_le {array : List UInt8} {index : Nat} (outside : array.length ≤ index) :
    getByte array index = .error (.indexOutOfRange index) := by
  simp [getByte, List.getElem?_eq_none outside]

/-! ## Item stores -/

/-- `array[index] = value`: CPython checks the value first, then the index. -/
def setByte (array : List UInt8) (index : Nat) (value : Int) : Except PyError (List UInt8) :=
  if value < 0 ∨ 256 ≤ value then .error (.byteOutOfRange value)
  else if array.length ≤ index then .error (.indexOutOfRange index)
  else .ok (array.set index (toByte value))

/-- A run of item stores, in order. -/
def setBytes (array : List UInt8) : List (Nat × Int) → Except PyError (List UInt8)
  | [] => .ok array
  | (index, value) :: stores => do setBytes (← setByte array index value) stores

theorem setByte_ok_iff {array result : List UInt8} {index : Nat} {value : Int} :
    setByte array index value = .ok result ↔
      0 ≤ value ∧ value < 256 ∧ index < array.length ∧ result = array.set index (toByte value) := by
  unfold setByte
  split_ifs with range bound <;> simp only [reduceCtorEq, false_iff, not_and, Except.ok.injEq]
  · omega
  · omega
  · constructor
    · rintro rfl; exact ⟨by omega, by omega, by omega, rfl⟩
    · rintro ⟨-, -, -, rfl⟩; rfl

/-- The array after a run of successful stores. -/
def storeAll (array : List UInt8) (stores : List (Nat × Int)) : List UInt8 :=
  stores.foldl (fun array store => array.set store.1 (toByte store.2)) array

theorem setBytes_ok_iff {array result : List UInt8} {stores : List (Nat × Int)} :
    setBytes array stores = .ok result ↔
      (∀ store ∈ stores, 0 ≤ store.2 ∧ store.2 < 256 ∧ store.1 < array.length) ∧
        result = storeAll array stores := by
  induction stores generalizing array with
  | nil => simp [setBytes, storeAll, eq_comm]
  | cons store rest induction =>
      obtain ⟨index, value⟩ := store
      simp only [setBytes, Except.bind_eq_ok, setByte_ok_iff, List.mem_cons, forall_eq_or_imp,
        storeAll, List.foldl_cons]
      constructor
      · rintro ⟨_, ⟨nonneg, small, inside, rfl⟩, stored⟩
        obtain ⟨restOk, rfl⟩ := induction.mp stored
        simp only [List.length_set] at restOk
        exact ⟨⟨⟨nonneg, small, inside⟩, restOk⟩, rfl⟩
      · rintro ⟨⟨⟨nonneg, small, inside⟩, restOk⟩, rfl⟩
        exact ⟨_, ⟨nonneg, small, inside, rfl⟩, induction.mpr ⟨by simpa using restOk, rfl⟩⟩

@[simp] theorem storeAll_nil (array : List UInt8) : storeAll array [] = array := rfl

@[simp] theorem storeAll_cons (array : List UInt8) (store : Nat × Int) (rest : List (Nat × Int)) :
    storeAll array (store :: rest) = storeAll (array.set store.1 (toByte store.2)) rest := rfl

@[simp] theorem length_storeAll (array : List UInt8) (stores : List (Nat × Int)) :
    (storeAll array stores).length = array.length := by
  induction stores generalizing array with
  | nil => rfl
  | cons store rest induction => rw [storeAll_cons, induction, List.length_set]

/-- Stores elsewhere leave a byte in place. -/
theorem getElem?_storeAll_of_ne {array : List UInt8} {stores : List (Nat × Int)} {index : Nat}
    (apart : ∀ store ∈ stores, store.1 ≠ index) :
    (storeAll array stores)[index]? = array[index]? := by
  induction stores generalizing array with
  | nil => rfl
  | cons store rest induction =>
      simp only [List.mem_cons, forall_eq_or_imp] at apart
      rw [storeAll_cons, induction apart.2, List.getElem?_set_ne apart.1]

/-! ## `struct` with format `'<H'` -/

/-- The little-endian unsigned 16-bit value stored at `offset`, missing bytes read as zero. -/
def u16At (array : List UInt8) (offset : Nat) : Nat :=
  (array.getD offset 0).toNat + 256 * (array.getD (offset + 1) 0).toNat

/-- `struct.pack_into('<H', array, offset, value)`: the buffer is checked before the value. -/
def packU16 (array : List UInt8) (offset : Nat) (value : Int) : Except PyError (List UInt8) :=
  if array.length < offset + 2 then .error (.packBufferTooSmall offset array.length)
  else if value < 0 ∨ 65536 ≤ value then .error (.packArgumentOutOfRange value)
  else .ok ((array.set offset (UInt8.ofNat (value.toNat % 256))).set (offset + 1)
    (UInt8.ofNat (value.toNat / 256)))

/-- `struct.unpack('<H', buffer)[0]`. -/
def unpackU16 (buffer : List UInt8) : Except PyError Nat :=
  if buffer.length = 2 then .ok (u16At buffer 0) else .error (.unpackBufferSize buffer.length)

theorem packU16_ok_iff {array result : List UInt8} {offset : Nat} {value : Int} :
    packU16 array offset value = .ok result ↔
      offset + 2 ≤ array.length ∧ 0 ≤ value ∧ value < 65536 ∧
        result = (array.set offset (UInt8.ofNat (value.toNat % 256))).set (offset + 1)
          (UInt8.ofNat (value.toNat / 256)) := by
  unfold packU16
  split_ifs with room range <;> simp only [reduceCtorEq, false_iff, not_and, Except.ok.injEq]
  · omega
  · omega
  · constructor
    · rintro rfl; exact ⟨by omega, by omega, by omega, rfl⟩
    · rintro ⟨-, -, -, rfl⟩; rfl

/-- The two bytes `struct.pack('<H', value)` writes. -/
def u16Set (array : List UInt8) (offset value : Nat) : List UInt8 :=
  (array.set offset (UInt8.ofNat (value % 256))).set (offset + 1) (UInt8.ofNat (value / 256))

@[simp] theorem length_u16Set (array : List UInt8) (offset value : Nat) :
    (u16Set array offset value).length = array.length := by
  simp [u16Set]

theorem getElem?_u16Set_of_ne (array : List UInt8) {offset index : Nat} (value : Nat)
    (below : index ≠ offset) (above : index ≠ offset + 1) :
    (u16Set array offset value)[index]? = array[index]? := by
  simp [u16Set, List.getElem?_set, Ne.symm below, Ne.symm above]

/-- A byte pair is read from its two bytes only. -/
theorem u16At_congr {array other : List UInt8} {offset : Nat}
    (low : array[offset]? = other[offset]?) (high : array[offset + 1]? = other[offset + 1]?) :
    u16At array offset = u16At other offset := by
  simp only [u16At, List.getD_eq_getElem?_getD, low, high]

/-- A byte pair inside a buffer reads the same with more bytes after it. -/
theorem u16At_append (array rest : List UInt8) {offset : Nat} (inside : offset + 2 ≤ array.length) :
    u16At (array ++ rest) offset = u16At array offset :=
  u16At_congr (List.getElem?_append_left (by omega)) (List.getElem?_append_left (by omega))

theorem u16At_u16Set (array : List UInt8) {offset value : Nat}
    (inside : offset + 2 ≤ array.length) (small : value < 65536) :
    u16At (u16Set array offset value) offset = value := by
  have low : (UInt8.ofNat (value % 256)).toNat = value % 256 := by
    rw [UInt8.toNat_ofNat_mod]; omega
  have high : (UInt8.ofNat (value / 256)).toNat = value / 256 := by
    rw [UInt8.toNat_ofNat_mod]; omega
  simp only [u16At, u16Set, List.getD_eq_getElem?_getD, List.getElem?_set, if_true,
    show offset + 1 ≠ offset by omega, if_false, List.length_set,
    show offset < array.length by omega,
    show offset + 1 < array.length by omega, Option.getD_some, low, high]
  omega

/-- `u16Set` of a value that `struct.pack_into` accepted reads back as that value. -/
theorem u16At_u16Set_toNat (array : List UInt8) {offset : Nat} {value : Int}
    (inside : offset + 2 ≤ array.length) (nonneg : 0 ≤ value) (small : value < 65536) :
    (u16At (u16Set array offset value.toNat) offset : Int) = value := by
  rw [u16At_u16Set array inside (by omega)]
  omega

theorem u16At_lt (array : List UInt8) (offset : Nat) : u16At array offset < 65536 := by
  have low := (array.getD offset 0).toNat_lt_size
  have high := (array.getD (offset + 1) 0).toNat_lt_size
  simp only [UInt8.size] at low high
  unfold u16At
  omega

/-- A store of two bytes leaves every other byte pair in place. -/
theorem u16At_u16Set_of_disjoint (array : List UInt8) {offset other : Nat} (value : Nat)
    (apart : other + 2 ≤ offset ∨ offset + 2 ≤ other) :
    u16At (u16Set array offset value) other = u16At array other := by
  simp only [u16At, List.getD_eq_getElem?_getD,
    getElem?_u16Set_of_ne array value (show other ≠ offset by omega) (by omega),
    getElem?_u16Set_of_ne array value (show other + 1 ≠ offset by omega) (by omega)]

theorem packU16_ok_iff_u16Set {array result : List UInt8} {offset : Nat} {value : Int} :
    packU16 array offset value = .ok result ↔
      offset + 2 ≤ array.length ∧ 0 ≤ value ∧ value < 65536 ∧
        result = u16Set array offset value.toNat := packU16_ok_iff

theorem unpackU16_ok_iff {buffer : List UInt8} {value : Nat} :
    unpackU16 buffer = .ok value ↔ buffer.length = 2 ∧ value = u16At buffer 0 := by
  unfold unpackU16
  split_ifs with two <;> simp [two, eq_comm]

/-- `struct.unpack('<H', array[offset:offset + 2])`. -/
theorem unpackU16_sliceGet_ok_iff {array : List UInt8} {offset value : Nat} :
    unpackU16 (sliceGet array offset (offset + 2)) = .ok value ↔
      offset + 2 ≤ array.length ∧ value = u16At array offset := by
  rw [unpackU16_ok_iff]
  have sameValue : u16At (sliceGet array offset (offset + 2)) 0 = u16At array offset := by
    simp [u16At, getElem?_sliceGet]
  simp only [length_sliceGet, sameValue]
  omega

/-! ## Patched copies -/

/-- `code` is as long as `original` and agrees with it outside the offsets `changed`: what a run
of in-place patches leaves of a buffer. -/
def SameExcept (changed : List Nat) (code original : List UInt8) : Prop :=
  code.length = original.length ∧ ∀ index, index ∉ changed → code[index]? = original[index]?

theorem SameExcept.refl (changed : List Nat) (code : List UInt8) : SameExcept changed code code :=
  ⟨rfl, fun _ _ => rfl⟩

theorem SameExcept.trans {first second : List Nat} {code middle original : List UInt8}
    (later : SameExcept first code middle) (earlier : SameExcept second middle original) :
    SameExcept (first ++ second) code original := by
  refine ⟨later.1.trans earlier.1, fun index outside => ?_⟩
  simp only [List.mem_append, not_or] at outside
  rw [later.2 index outside.1, earlier.2 index outside.2]

theorem SameExcept.mono {changed wider : List Nat} {code original : List UInt8}
    (same : SameExcept changed code original) (within : ∀ index ∈ changed, index ∈ wider) :
    SameExcept wider code original :=
  ⟨same.1, fun index outside => same.2 index fun member => outside (within index member)⟩

theorem sameExcept_u16Set (array : List UInt8) (offset value : Nat) :
    SameExcept [offset, offset + 1] (u16Set array offset value) array := by
  refine ⟨length_u16Set .., fun index outside => ?_⟩
  simp only [List.mem_cons, List.mem_singleton, not_or, List.not_mem_nil] at outside
  exact getElem?_u16Set_of_ne array value outside.1 outside.2.1

theorem sameExcept_set (array : List UInt8) (index : Nat) (value : UInt8) :
    SameExcept [index] (array.set index value) array := by
  refine ⟨List.length_set .., fun other outside => List.getElem?_set_ne ?_⟩
  rintro rfl
  exact outside (List.mem_singleton_self _)

theorem sameExcept_storeAll (array : List UInt8) (stores : List (Nat × Int)) :
    SameExcept (stores.map (·.1)) (storeAll array stores) array :=
  ⟨length_storeAll .., fun _ outside => getElem?_storeAll_of_ne fun store member same =>
    outside (List.mem_map.mpr ⟨store, member, same⟩)⟩

/-! ## Dicts

A dict is kept as its items in insertion order. -/

section Dict

/-- `d[key] = value`: a key already present keeps its place and takes the new value. -/
def dictSet {κ β : Type} [DecidableEq κ] (items : List (κ × β)) (key : κ) (value : β) :
    List (κ × β) :=
  if key ∈ items.map Prod.fst then items.map fun item => if item.1 = key then (key, value) else item
  else items ++ [(key, value)]

variable {κ β : Type} [DecidableEq κ] {items : List (κ × β)} {key : κ} {value : β}

theorem map_fst_dictSet :
    (dictSet items key value).map Prod.fst =
      if key ∈ items.map Prod.fst then items.map Prod.fst else items.map Prod.fst ++ [key] := by
  unfold dictSet
  split_ifs
  · rw [List.map_map]
    exact List.map_congr_left fun item _ => by
      simp only [Function.comp_apply]
      split_ifs with same
      · exact same.symm
      · rfl
  · simp

theorem length_dictSet_le : (dictSet items key value).length ≤ items.length + 1 := by
  unfold dictSet
  split_ifs <;> simp

theorem mem_dictSet {item : κ × β} (member : item ∈ dictSet items key value) :
    item ∈ items ∨ item = (key, value) := by
  unfold dictSet at member
  split_ifs at member
  · obtain ⟨original, present, stored⟩ := List.mem_map.mp member
    split_ifs at stored
    · exact Or.inr stored.symm
    · exact Or.inl (stored ▸ present)
  · simpa using member

theorem lookup_map_replace {probe : κ} (other : probe ≠ key) :
    (items.map fun item => if item.1 = key then (key, value) else item).lookup probe =
      items.lookup probe := by
  induction items with
  | nil => rfl
  | cons item items induction =>
    obtain ⟨k, b⟩ := item
    by_cases same : k = key
    · subst same
      simp [List.lookup_cons, beq_false_of_ne other, induction]
    · simp [List.lookup_cons, same, induction]

/-- Reading a dict after `d[key] = value`: the new value at `key`, the old lookup elsewhere. -/
theorem lookup_dictSet (probe : κ) :
    (dictSet items key value).lookup probe = if probe = key then some value else items.lookup probe := by
  induction items with
  | nil => by_cases same : probe = key <;> simp [dictSet, List.lookup_cons, same, beq_false_of_ne]
  | cons item items induction =>
    obtain ⟨k, b⟩ := item
    by_cases same : k = key
    · subst same
      by_cases here : probe = k
      · simp [dictSet, here]
      · simp [dictSet, List.lookup_cons, here, lookup_map_replace here, beq_false_of_ne here]
    · have kept : dictSet ((k, b) :: items) key value = (k, b) :: dictSet items key value := by
        by_cases present : key ∈ items.map Prod.fst <;> simp [dictSet, same, present, Ne.symm same]
      by_cases here : probe = k
      · subst here
        simp [kept, same]
      · simp [kept, List.lookup_cons, beq_false_of_ne here, induction]

/-- With distinct keys, an item's key looks up its own value. -/
theorem lookup_of_mem {item : κ × β} (keys : (items.map Prod.fst).Nodup) (member : item ∈ items) :
    items.lookup item.1 = some item.2 := by
  induction items with
  | nil => cases member
  | cons first rest induction =>
    obtain ⟨k, b⟩ := first
    rw [List.map_cons, List.nodup_cons] at keys
    rcases List.mem_cons.mp member with rfl | later
    · exact List.lookup_cons_self
    · have other : item.1 ≠ k := fun same =>
        keys.1 (List.mem_map.mpr ⟨item, later, same⟩)
      simp [List.lookup_cons, beq_false_of_ne other, induction keys.2 later]

theorem nodup_dictSet (keys : (items.map Prod.fst).Nodup) :
    ((dictSet items key value).map Prod.fst).Nodup := by
  rw [map_fst_dictSet]
  split_ifs with present
  · exact keys
  · exact List.nodup_append.mpr
      ⟨keys, List.nodup_singleton key, List.disjoint_singleton.mpr present⟩

/-- Storing entries whose keys are distinct and new appends them in order. -/
theorem foldl_dictSet_of_fresh (entries : List (κ × β)) (distinct : (entries.map Prod.fst).Nodup)
    (fresh : ∀ entry ∈ entries, entry.1 ∉ items.map Prod.fst) :
    entries.foldl (fun items entry => dictSet items entry.1 entry.2) items = items ++ entries := by
  induction entries generalizing items with
  | nil => simp
  | cons entry entries induction =>
      rw [List.map_cons, List.nodup_cons] at distinct
      have appended : dictSet items entry.1 entry.2 = items ++ [entry] := by
        rw [dictSet, if_neg (fresh entry (.head _))]
      rw [List.foldl_cons, appended, induction distinct.2 fun other member => ?_]
      · simp
      · simp only [List.map_append, List.mem_append, List.map_singleton, List.mem_singleton,
          not_or]
        exact ⟨fresh other (.tail _ member),
          fun same => distinct.1 (same ▸ List.mem_map_of_mem _ member)⟩

end Dict

end Mpm2Tools
