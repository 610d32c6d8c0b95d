import Mpm2Tools.Foundation.PyBytes

/-! # SPR modules

`SPRModule.load` reads a relocatable module file: a 256-byte header whose bytes 1-2 hold the
code length `psize` and bytes 4-5 the data length `dsize`, then `psize` code bytes, then the
relocation bitmap, one bit per code byte, most significant bit first. `relocate` adds the base
page to every code byte the bitmap flags. The bitmap is read from the file again at that point,
and the loop tolerates a bitmap shorter than `ceil(psize / 8)` bytes: missing bits count as
clear. -/

namespace Mpm2Tools.Gensys

open Mpm2Tools

/-- A loaded module. `file` stands for the module's path: `get_bitmap` reads the file again, and
the file is never written. -/
structure SPRModule where
  name : String
  file : List UInt8
  code : List UInt8
  psize : Nat
  dsize : Nat
  base : Int
  deriving DecidableEq, Repr

namespace SPRModule

/-- `SPRModule.load`. The module's name is the file's upper-cased stem. -/
def load (name : String) (data : List UInt8) : Except PyError SPRModule := do
  if data.length < 256 then throw (.sprFileTooSmall name)
  let psize ← unpackU16 (sliceGet data 1 3)
  let dsize ← unpackU16 (sliceGet data 4 6)
  let codeStart := 256
  let codeEnd := codeStart + psize
  if data.length < codeEnd then throw (.sprFileTruncated name codeEnd data.length)
  pure { name, file := data, code := sliceGet data codeStart codeEnd, psize, dsize, base := 0 }

/-- `get_bitmap`: the `ceil(psize / 8)` bytes after the code, or fewer if the file ends. -/
def getBitmap (module : SPRModule) : List UInt8 :=
  let bitmapBytesNeeded := (module.psize + 7) / 8
  let bitmapStart := 256 + module.psize
  sliceGet module.file bitmapStart (bitmapStart + bitmapBytesNeeded)

/-- `(code[byte_idx] + base_page) & 0xFF`; on a Python `int` of either sign `& 0xFF` is `% 256`. -/
def addPage (byte : UInt8) (basePage : Int) : UInt8 :=
  toByte ((byte.toNat + basePage) % 256)

/-- The loop's test: bitmap byte `byte_idx // 8` exists and has bit `7 - byte_idx % 8` set. -/
def flagged (bitmap : List UInt8) (byteIdx : Nat) : Bool :=
  let bitmapByte := byteIdx / 8
  let bitmapBit := 7 - byteIdx % 8
  if bitmapByte < bitmap.length then
    (bitmap.getD bitmapByte 0).toNat &&& (1 <<< bitmapBit) != 0
  else false

/-- One iteration of the relocation loop. -/
def relocateStep (bitmap : List UInt8) (basePage : Int) (code : List UInt8) (byteIdx : Nat) :
    List UInt8 :=
  if flagged bitmap byteIdx then code.set byteIdx (addPage (code.getD byteIdx 0) basePage)
  else code

/-- `relocate(base_page)`: `for byte_idx in range(self.psize)` over the bitmap of the file. -/
def relocate (module : SPRModule) (basePage : Int) : SPRModule :=
  let bitmap := module.getBitmap
  { module with
    base := basePage * 256
    code := (List.range module.psize).foldl (relocateStep bitmap basePage) module.code }

/-! ## Loading -/

theorem load_ok_iff {name : String} {data : List UInt8} {module : SPRModule} :
    load name data = .ok module ↔
      256 + u16At data 1 ≤ data.length ∧
        module =
          { name := name, file := data, code := sliceGet data 256 (256 + u16At data 1),
            psize := u16At data 1, dsize := u16At data 4, base := 0 } := by
  unfold load
  by_cases short : data.length < 256
  · simp only [short, if_true]
    constructor
    · intro failed; cases failed
    · rintro ⟨long, -⟩; omega
  · have pair : ∀ start, start ≤ 4 → (sliceGet data start (start + 2)).length = 2 :=
      fun start small => by simp only [length_sliceGet]; omega
    have psizeBytes : unpackU16 (sliceGet data 1 3) = .ok (u16At data 1) := by
      rw [unpackU16_ok_iff]
      exact ⟨pair 1 (by omega), by simp [u16At, getElem?_sliceGet]⟩
    have dsizeBytes : unpackU16 (sliceGet data 4 6) = .ok (u16At data 4) := by
      rw [unpackU16_ok_iff]
      exact ⟨pair 4 (by omega), by simp [u16At, getElem?_sliceGet]⟩
    simp only [short, if_false, psizeBytes, dsizeBytes, Except.ok_bind, pure_bind]
    by_cases truncated : data.length < 256 + u16At data 1
    · simp only [truncated, if_true]
      constructor
      · intro failed; cases failed
      · rintro ⟨long, -⟩; omega
    · simp only [truncated, if_false]
      constructor
      · intro loaded; cases loaded; exact ⟨by omega, rfl⟩
      · rintro ⟨-, rfl⟩; rfl

/-! ## Relocation -/

/-- The bitmap test is the MSB-first bit of the bitmap byte. -/
theorem flagged_iff (bitmap : List UInt8) (index : Nat) :
    flagged bitmap index = true ↔
      index < 8 * bitmap.length ∧ (bitmap.getD (index / 8) 0).toNat.testBit (7 - index % 8) := by
  have inBitmap : index / 8 < bitmap.length ↔ index < 8 * bitmap.length := by omega
  simp only [flagged, List.getD_eq_getElem?_getD]
  split_ifs with present
  · simp only [bne_iff_ne, ne_eq, Nat.one_shiftLeft, inBitmap.mp present, true_and]
    constructor
    · intro nonzero
      by_contra clear
      apply nonzero
      apply Nat.eq_of_testBit_eq
      intro bit
      simp only [Nat.testBit_and, Nat.testBit_two_pow, Nat.zero_testBit]
      by_cases same : 7 - index % 8 = bit
      · subst same; simp [clear]
      · simp [same]
    · intro set zero
      have := congrArg (Nat.testBit · (7 - index % 8)) zero
      simp [Nat.testBit_and, set] at this
  · simp only [Bool.false_eq_true, false_iff, not_and]
    intro inside
    exact absurd (inBitmap.mpr inside) present

theorem length_relocateStep (bitmap : List UInt8) (basePage : Int) (code : List UInt8)
    (byteIdx : Nat) : (relocateStep bitmap basePage code byteIdx).length = code.length := by
  unfold relocateStep
  split_ifs <;> simp

theorem getElem?_relocateStep (bitmap : List UInt8) (basePage : Int) (code : List UInt8)
    (byteIdx index : Nat) :
    (relocateStep bitmap basePage code byteIdx)[index]? =
      if byteIdx = index ∧ index < code.length ∧ flagged bitmap index then
        some (addPage (code.getD index 0) basePage)
      else code[index]? := by
  unfold relocateStep
  by_cases same : byteIdx = index
  · subst same
    by_cases inside : byteIdx < code.length
    · by_cases flag : flagged bitmap byteIdx <;> simp [flag, inside, List.getElem?_set]
    · have outside : code[byteIdx]? = none := List.getElem?_eq_none (by omega)
      by_cases flag : flagged bitmap byteIdx <;> simp [flag, inside, outside, List.getElem?_set]
  · by_cases flag : flagged bitmap byteIdx <;> simp [flag, same, List.getElem?_set]

/-- After the first `count` iterations, exactly the flagged bytes below `count` are rebased. -/
theorem getElem?_foldl_relocateStep (bitmap : List UInt8) (basePage : Int) (code : List UInt8)
    (count index : Nat) :
    ((List.range count).foldl (relocateStep bitmap basePage) code)[index]? =
      if index < count ∧ index < code.length ∧ flagged bitmap index then
        some (addPage (code.getD index 0) basePage)
      else code[index]? := by
  induction count with
  | zero => simp
  | succ count induction =>
      have lengthFold : ∀ count, ((List.range count).foldl (relocateStep bitmap basePage)
          code).length = code.length := fun count => by
        induction count with
        | zero => simp
        | succ count inner => simp [List.range_succ, length_relocateStep, inner]
      rw [List.range_succ, List.foldl_append, List.foldl_cons, List.foldl_nil,
        getElem?_relocateStep, lengthFold, induction]
      by_cases same : count = index
      · subst same
        have untouched : ((List.range count).foldl (relocateStep bitmap basePage) code)[count]? =
            code[count]? := by
          simp only [induction, Nat.lt_irrefl, false_and, if_false]
        simp [untouched]
      · have notBelow : index < count + 1 ↔ index < count := by omega
        simp [same, notBelow]

@[simp] theorem relocate_base (module : SPRModule) (basePage : Int) :
    (module.relocate basePage).base = basePage * 256 := rfl

@[simp] theorem relocate_base_div (module : SPRModule) (basePage : Int) :
    (module.relocate basePage).base / 256 = basePage :=
  Int.mul_ediv_cancel _ (by decide)

@[simp] theorem relocate_psize (module : SPRModule) (basePage : Int) :
    (module.relocate basePage).psize = module.psize := rfl

@[simp] theorem relocate_dsize (module : SPRModule) (basePage : Int) :
    (module.relocate basePage).dsize = module.dsize := rfl

@[simp] theorem relocate_file (module : SPRModule) (basePage : Int) :
    (module.relocate basePage).file = module.file := rfl

@[simp] theorem relocate_name (module : SPRModule) (basePage : Int) :
    (module.relocate basePage).name = module.name := rfl

@[simp] theorem length_relocate (module : SPRModule) (basePage : Int) :
    (module.relocate basePage).code.length = module.code.length := by
  have lengthFold : ∀ count, ((List.range count).foldl
      (relocateStep module.getBitmap basePage) module.code).length = module.code.length :=
    fun count => by
      induction count with
      | zero => simp
      | succ count inner => simp [List.range_succ, length_relocateStep, inner]
  exact lengthFold module.psize

theorem getElem?_relocate (module : SPRModule) (basePage : Int) (index : Nat) :
    (module.relocate basePage).code[index]? =
      if index < module.psize ∧ index < module.code.length ∧ flagged module.getBitmap index then
        some (addPage (module.code.getD index 0) basePage)
      else module.code[index]? :=
  getElem?_foldl_relocateStep _ _ _ _ _

theorem toNat_addPage (byte : UInt8) (basePage : Int) :
    ((addPage byte basePage).toNat : Int) = (byte.toNat + basePage) % 256 :=
  toNat_toByte (Int.emod_nonneg _ (by decide)) (Int.emod_lt_of_pos _ (by decide))



/-! ## Loader and relocator contracts -/

/-- Relocating a loaded module by any base page sets `base` to `base_page * 256`, keeps `psize`
code bytes, adds the base page modulo 256 to exactly the code bytes whose MSB-first bitmap bit is
present and set, and leaves every other code byte as loaded. -/
theorem relocate_of_load {name : String} {data : List UInt8} {module : SPRModule}
    (loaded : load name data = .ok module) (basePage : Int) :
    let bitmap :=
      sliceGet data (256 + module.psize) (256 + module.psize + (module.psize + 7) / 8)
    (module.relocate basePage).base = basePage * 256 ∧
      (module.relocate basePage).code.length = module.psize ∧
      ∀ index < module.psize,
        (((module.relocate basePage).code.getD index 0).toNat : Int) =
          if index < 8 * bitmap.length ∧ (bitmap.getD (index / 8) 0).toNat.testBit (7 - index % 8)
          then ((module.code.getD index 0).toNat + basePage) % 256
          else (module.code.getD index 0).toNat := by
  obtain ⟨long, moduleEq⟩ := load_ok_iff.mp loaded
  have psizeEq : module.psize = u16At data 1 := by rw [moduleEq]
  have codeLength : module.code.length = module.psize := by
    rw [psizeEq, moduleEq, sliceGet_of_le _ long]; omega
  have bitmapEq : module.getBitmap =
      sliceGet data (256 + module.psize) (256 + module.psize + (module.psize + 7) / 8) := by
    rw [getBitmap, moduleEq]
  refine ⟨rfl, by simp [codeLength], fun index below => ?_⟩
  have flag := flagged_iff module.getBitmap index
  rw [List.getD_eq_getElem?_getD, getElem?_relocate, ← bitmapEq]
  simp only [codeLength, below, true_and]
  split_ifs with set clear clear
  · simp [toNat_addPage]
  · exact absurd (flag.mp set) clear
  · exact absurd (flag.mpr clear) set
  · simp

set_option maxRecDepth 10000 in
/-- The relocation of the four-byte module of the spec's sample, whose bitmap `0x20` flags code
byte 2, to page `0x40`. -/
theorem relocate_of_load_sample :
    let file : List UInt8 := [0, 4] ++ List.replicate 254 0 ++ [0x12, 0x34, 0x05, 0x78, 0x20]
    let module : SPRModule :=
      { name := "SAMPLE", file := file, code := [0x12, 0x34, 0x05, 0x78], psize := 4, dsize := 0,
        base := 0 }
    load "SAMPLE" file = .ok module ∧
      let bitmap :=
        sliceGet file (256 + module.psize) (256 + module.psize + (module.psize + 7) / 8)
      (module.relocate 0x40).base = 0x40 * 256 ∧
      (module.relocate 0x40).code.length = module.psize ∧
      ∀ index < module.psize,
        (((module.relocate 0x40).code.getD index 0).toNat : Int) =
          if index < 8 * bitmap.length ∧ (bitmap.getD (index / 8) 0).toNat.testBit (7 - index % 8)
          then ((module.code.getD index 0).toNat + (0x40 : Int)) % 256
          else (module.code.getD index 0).toNat :=
  have loaded := load_ok_iff.mpr ⟨by decide, by decide⟩
  ⟨loaded, relocate_of_load loaded 0x40⟩

/-- `load` rejects a file exactly when it is shorter than its header and code, `256 + psize`
bytes; a missing or short bitmap is accepted. An accepted file gives `psize` and `dsize` from
bytes 1-2 and 4-5 and the code `f[256:256+psize]`. -/
theorem load_accepts_iff (name : String) (data : List UInt8) :
    ((∃ module, load name data = .ok module) ↔ 256 + u16At data 1 ≤ data.length) ∧
      ∀ module, load name data = .ok module →
        module.psize = u16At data 1 ∧ module.dsize = u16At data 4 ∧
          module.code = sliceGet data 256 (256 + module.psize) := by
  refine ⟨⟨fun ⟨_, loaded⟩ => (load_ok_iff.mp loaded).1,
    fun long => ⟨_, load_ok_iff.mpr ⟨long, rfl⟩⟩⟩, fun module loaded => ?_⟩
  obtain ⟨-, moduleEq⟩ := load_ok_iff.mp loaded
  simp [moduleEq]

set_option maxRecDepth 10000 in
/-- A file of 257 bytes declaring one code byte has no bitmap byte, and `load` accepts it. -/
theorem load_accepts_missing_bitmap :
    let file : List UInt8 := 0 :: 1 :: List.replicate 255 0
    (∃ module, load "TRUNCATED" file = .ok module) ∧
      file.length < 256 + u16At file 1 + (u16At file 1 + 7) / 8 :=
  ⟨⟨_, load_ok_iff.mpr ⟨by decide, rfl⟩⟩, by decide⟩

end SPRModule

end Mpm2Tools.Gensys
