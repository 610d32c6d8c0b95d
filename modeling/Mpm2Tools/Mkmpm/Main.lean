import Mpm2Tools.Foundation.PyText
import Mpm2Tools.Mkmpm.ReadSpr

/-! # The fixed-layout `MPM.SYS` of `mkmpm.py`

`main` builds a 256-byte header by hand, then an image of `sys_base` (9D00H) up to FFFFH: the SPR
files relocated to fixed addresses, a generated BNKXIOS of `JP` stubs at CD00H, a page of `RET`
instructions at the XIOS jump table FC00H, and a copy of the header at the SYSTEM.DAT page FF00H.
The file is the header, with `nmb_records` filled in, followed by the image in address order.

Every SPR file is given by its bytes, `none` when it does not exist. `main` writes the file exactly
when every existing SPR file is long enough for `read_spr` to unpack, and when every SPR fits its
region the image is the layout of `main`'s comment, region by region. -/

namespace Mpm2Tools.Mkmpm

open Mpm2Tools

/-! ## The header -/

/-- `copyright_msg`. -/
def copyrightMsg : List UInt8 := encodeAscii "COPYRIGHT (C) 1981, DIGITAL RESEARCH ".toList

/-- The header fields from SYSDAT.LIT as `main` stores them, then the copyright message, the serial
number, and the remaining fields. -/
def header : List UInt8 :=
  let header := storeAll (List.replicate 256 0)
    [(0, 0xFF), (1, 0x08), (2, 0x07), (3, 0xFF), (4, 0xFF), (5, 0xFF), (6, 0xFF), (7, 0xFC),
      (8, 0xF0), (11, 0xCE), (12, 0xCE), (13, 0xCD), (14, 0xAA), (15, 0x02),
      (16, 0x00), (17, 0x80), (18, 0x00), (19, 0x00), (20, 0x00), (21, 0x80), (22, 0x00),
      (23, 0x01), (122, 60), (123, 0x00), (124, 0x80), (125, 0x00)]
  let header := sliceSet header 144 (144 + copyrightMsg.length) copyrightMsg
  let header := sliceSet header 181 187 [0x00, 0x14, 0x01, 0x00, 0x09, 0x2F]
  storeAll header
    [(187, 0x14), (188, 0x09), (241, 0xCE), (242, 0xA8), (243, 0xFE), (244, 0x9D), (247, 0xA4)]

theorem length_copyrightMsg : copyrightMsg.length = 37 := rfl

@[simp] theorem length_header : header.length = 256 := by
  unfold header
  rw [length_storeAll, length_sliceSet, length_sliceSet, length_storeAll, List.length_replicate,
    length_copyrightMsg]
  rfl

/-! ## The image -/

/-- `sys_base`. -/
def sysBase : Int := 0x9D00

/-- `sys_top`. -/
def sysTop : Int := 0xFFFF

/-- `sys_size = sys_top - sys_base + 1`. -/
def sysSize : Nat := (sysTop - sysBase + 1).toNat

/-- `place(addr, data)`: `mem[offset:offset + len(data)] = data` at `offset = addr - sys_base`,
or only a warning when the data would start below the image or end past it. -/
def place (mem : List UInt8) (addr : Int) (data : List UInt8) : List UInt8 :=
  let offset := addr - sysBase
  if offset < 0 ∨ offset + data.length > mem.length then mem
  else sliceSet mem offset.toNat (offset.toNat + data.length) data

/-- The SPR files `main` reads, by their bytes; `none` is a file that does not exist. -/
structure SprFiles where
  resbdos : Option (List UInt8)
  xdos : Option (List UInt8)
  bnkbdos : Option (List UInt8)
  bnkxdos : Option (List UInt8)
  tmp : Option (List UInt8)
  deriving DecidableEq, Repr

/-- `spr_files`: each file with its target address. -/
def SprFiles.targets (files : SprFiles) : List (Option (List UInt8) × Int) :=
  [(files.resbdos, 0xF000), (files.xdos, 0xCE00), (files.bnkbdos, 0xAA00),
    (files.bnkxdos, 0xA800), (files.tmp, 0xA400)]

/-- The loop over `spr_files`: a missing file is skipped with an error message, and every other
file is read relocated to its target (`read_spr(spr_path, target_addr)`) and placed there. -/
def loadSprs (mem : List UInt8) : List (Option (List UInt8) × Int) → Except PyError (List UInt8)
  | [] => pure mem
  | (none, _) :: rest => loadSprs mem rest
  | (some data, target) :: rest => do
      let (_, code) ← readSpr data (some target)
      loadSprs (place mem target code) rest

/-- `bnkxios_code`: 30 `JP` instructions to the emulator XIOS at `8800H + 3 i`, padded with zeros
to 256 bytes. -/
def bnkxiosCode : List UInt8 :=
  let stubs := (List.range 30).flatMap fun i =>
    let target := 0x8800 + i * 3
    [0xC3, UInt8.ofNat (target &&& 0xFF), UInt8.ofNat ((target >>> 8) &&& 0xFF)]
  stubs ++ List.replicate (256 - stubs.length) 0

/-- `xios_offset = 0xFC00 - sys_base`. -/
def xiosOffset : Nat := (0xFC00 - sysBase).toNat

/-- `sysdat_offset = 0xFF00 - sys_base`. -/
def sysdatOffset : Nat := (0xFF00 - sysBase).toNat

/-- The loop `for i in range(0x100): mem[xios_offset + i] = 0xC9`. -/
def fillRet (mem : List UInt8) : List UInt8 :=
  (List.range 0x100).foldl (fun mem i => mem.set (xiosOffset + i) 0xC9) mem

/-- `num_records = (sys_size + 127) // 128`. -/
def numRecords : Nat := (sysSize + 127) / 128

/-- `header_ba`: the header with `nmb_records` at bytes 120-121. -/
def headerBa : List UInt8 :=
  (header.set 120 (UInt8.ofNat (numRecords &&& 0xFF))).set 121
    (UInt8.ofNat ((numRecords >>> 8) &&& 0xFF))

/-- The image `main` builds: the SPR files, the BNKXIOS stubs, the `RET` page, and the header at
the SYSTEM.DAT page. -/
def memImage (files : SprFiles) : Except PyError (List UInt8) := do
  let mem ← loadSprs (List.replicate sysSize 0) files.targets
  let mem := place mem 0xCD00 bnkxiosCode
  let mem := fillRet mem
  return sliceSet mem sysdatOffset (sysdatOffset + 256) header

/-- `main`: the bytes written to `MPM_complete.SYS` and again to `MPM.SYS`. -/
def mkmpm (files : SprFiles) : Except PyError (List UInt8) := do
  let mem ← memImage files
  return headerBa ++ mem

/-! ## `place` as an overlay

`place` writes only when its check passes, and then the whole of its data. A run of placements
over an image therefore leaves at each address the byte of the last placement that writes it. -/

/-- The check `place` makes before it writes: the data starts inside an image of `size` bytes and
ends inside it. -/
def Fits (size : Nat) (addr : Int) (data : List UInt8) : Prop :=
  0 ≤ addr - sysBase ∧ addr - sysBase + data.length ≤ size

instance (size : Nat) (addr : Int) (data : List UInt8) : Decidable (Fits size addr data) :=
  inferInstanceAs (Decidable (_ ∧ _))

/-- Whether a placement `(addr, data)` writes the byte at `address` of an image of `size` bytes. -/
def Covers (size : Nat) (placement : Int × List UInt8) (address : Int) : Prop :=
  Fits size placement.1 placement.2 ∧ placement.1 ≤ address ∧
    address < placement.1 + placement.2.length

instance (size : Nat) (placement : Int × List UInt8) (address : Int) :
    Decidable (Covers size placement address) :=
  inferInstanceAs (Decidable (_ ∧ _))

@[simp] theorem length_place (mem data : List UInt8) (addr : Int) :
    (place mem addr data).length = mem.length := by
  unfold place
  dsimp only
  split_ifs with outside
  · rfl
  · exact length_sliceSet_of_fits _ _ (by omega) (by omega) (by omega)

/-- The byte at `index`, the address `sys_base + index`, after a `place`. -/
theorem getElem?_place (mem data : List UInt8) (addr : Int) (index : Nat) :
    (place mem addr data)[index]? =
      if Covers mem.length (addr, data) (sysBase + index) then
        data[(sysBase + index - addr).toNat]?
      else mem[index]? := by
  unfold place Covers Fits
  dsimp only
  by_cases fits : 0 ≤ addr - sysBase ∧ addr - sysBase + data.length ≤ mem.length
  · rw [if_neg (by omega)]
    by_cases below : sysBase + index < addr
    · rw [if_neg (by omega), getElem?_sliceSet_of_lt _ _ (by omega) (by omega)]
    by_cases above : addr + data.length ≤ sysBase + index
    · rw [if_neg (by omega), getElem?_sliceSet_of_ge _ _ (by omega) (by omega) (by omega) (by omega)]
    · rw [if_pos ⟨fits, by omega, by omega⟩,
        getElem?_sliceSet_within _ _ (by omega) (by omega) (by omega)]
      congr 1
      omega
  · rw [if_pos (by omega), if_neg fun covers => fits covers.1]

/-- `place` for each placement in turn. -/
def placeAll (mem : List UInt8) (placements : List (Int × List UInt8)) : List UInt8 :=
  placements.foldl (fun mem placement => place mem placement.1 placement.2) mem

/-- The byte at `address` after a run of placements over `below`: that of the last placement
that writes it, `below` when none does. -/
def overlayAt (size : Nat) (placements : List (Int × List UInt8)) (below : Option UInt8)
    (address : Int) : Option UInt8 :=
  placements.foldl (fun below placement =>
    if Covers size placement address then placement.2[(address - placement.1).toNat]? else below)
    below

@[simp] theorem length_placeAll (mem : List UInt8) (placements : List (Int × List UInt8)) :
    (placeAll mem placements).length = mem.length := by
  induction placements generalizing mem with
  | nil => rfl
  | cons placement rest induction => exact (induction _).trans (length_place ..)

theorem placeAll_append (mem : List UInt8) (first second : List (Int × List UInt8)) :
    placeAll mem (first ++ second) = placeAll (placeAll mem first) second :=
  List.foldl_append ..

theorem getElem?_placeAll (mem : List UInt8) (placements : List (Int × List UInt8)) (index : Nat) :
    (placeAll mem placements)[index]? =
      overlayAt mem.length placements mem[index]? (sysBase + index) := by
  induction placements generalizing mem with
  | nil => rfl
  | cons placement rest induction =>
    rw [placeAll, List.foldl_cons, ← placeAll, induction, length_place, getElem?_place]
    rfl

theorem overlayAt_of_not_covers {size : Nat} {placements : List (Int × List UInt8)}
    {address : Int} (apart : ∀ placement ∈ placements, ¬ Covers size placement address)
    (below : Option UInt8) : overlayAt size placements below address = below := by
  induction placements generalizing below with
  | nil => rfl
  | cons placement rest induction =>
    simp only [List.mem_cons, forall_eq_or_imp] at apart
    rw [overlayAt, List.foldl_cons, if_neg apart.1]
    exact induction apart.2 below

/-- The only placement that writes an address decides its byte. -/
theorem overlayAt_of_covers {size : Nat} {placements : List (Int × List UInt8)}
    {placement : Int × List UInt8} {address : Int} (member : placement ∈ placements)
    (covers : Covers size placement address)
    (unique : ∀ other ∈ placements, Covers size other address → other = placement)
    (below : Option UInt8) :
    overlayAt size placements below address = placement.2[(address - placement.1).toNat]? := by
  induction placements generalizing below with
  | nil => cases member
  | cons first rest induction =>
    simp only [List.mem_cons, forall_eq_or_imp] at unique
    rw [overlayAt, List.foldl_cons, ← overlayAt]
    by_cases later : placement ∈ rest
    · exact induction later unique.2 _
    · have here : placement = first := (List.mem_cons.mp member).resolve_right later
      subst here
      rw [if_pos covers]
      exact overlayAt_of_not_covers (fun other member covered =>
        later (unique.2 other member covered ▸ member)) _

/-! ## The image as placements

`main` reads every SPR file before it places the next, and a read that fails ends the run; the
image is the same as reading every file first and then placing the codes, the BNKXIOS stubs, the
`RET` page and the header, in that order. -/

/-- The relocated code of every SPR file that exists, with its target, in the order `main`
reads them. -/
def sprCodes : List (Option (List UInt8) × Int) → Except PyError (List (Int × List UInt8))
  | [] => pure []
  | (none, _) :: rest => sprCodes rest
  | (some data, target) :: rest => do
      let (_, code) ← readSpr data (some target)
      let codes ← sprCodes rest
      return (target, code) :: codes

/-- What `main` writes after the SPR files: the BNKXIOS stubs, the `RET` page of the XIOS jump
table, and the header at SYSTEM.DAT. -/
def fixedPlacements : List (Int × List UInt8) :=
  [(0xCD00, bnkxiosCode), (0xFC00, List.replicate 0x100 0xC9), (0xFF00, header)]

theorem placeAll_three (mem : List UInt8) (first second third : Int × List UInt8) :
    placeAll mem [first, second, third] =
      place (place (place mem first.1 first.2) second.1 second.2) third.1 third.2 :=
  rfl

theorem placeAll_fixedPlacements (mem : List UInt8) :
    placeAll mem fixedPlacements =
      place (place (place mem 0xCD00 bnkxiosCode) 0xFC00 (List.replicate 0x100 0xC9)) 0xFF00 header :=
  placeAll_three mem _ _ _

theorem loadSprs_eq (mem : List UInt8) (entries : List (Option (List UInt8) × Int)) :
    loadSprs mem entries = placeAll mem <$> sprCodes entries := by
  induction entries generalizing mem with
  | nil => rfl
  | cons entry rest induction =>
    obtain ⟨_ | data, target⟩ := entry
    · exact induction mem
    · simp only [loadSprs, sprCodes]
      cases readSpr data (some target) with
      | error error => rfl
      | ok loaded =>
        rw [Except.ok_bind, Except.ok_bind, induction]
        cases sprCodes rest <;> rfl

theorem getElem?_fillRet (mem : List UInt8) (index : Nat) :
    (fillRet mem)[index]? =
      if xiosOffset ≤ index ∧ index < xiosOffset + 0x100 then mem[index]?.map fun _ => 0xC9
      else mem[index]? := by
  suffices filled : ∀ count, ((List.range count).foldl
      (fun mem i => mem.set (xiosOffset + i) 0xC9) mem)[index]? =
      if xiosOffset ≤ index ∧ index < xiosOffset + count then mem[index]?.map fun _ => 0xC9
      else mem[index]? from filled 0x100
  intro count
  induction count with
  | zero => rw [if_neg (by omega)]; rfl
  | succ count induction =>
    rw [List.range_succ, List.foldl_append, List.foldl_cons, List.foldl_nil, List.getElem?_set',
      induction]
    by_cases last : xiosOffset + count = index
    · rw [if_pos last, if_neg (by omega), if_pos (by omega)]
      rfl
    · rw [if_neg last]
      by_cases earlier : xiosOffset ≤ index ∧ index < xiosOffset + count
      · rw [if_pos earlier, if_pos (by omega)]
      · rw [if_neg earlier, if_neg (by omega)]

/-- The `RET` loop writes the page it would write as a `place`. -/
theorem fillRet_eq_place {mem : List UInt8} (size : mem.length = sysSize) :
    fillRet mem = place mem 0xFC00 (List.replicate 0x100 0xC9) := by
  have offsets : xiosOffset = 0x5F00 ∧ sysSize = 0x6300 ∧ sysBase = 0x9D00 := ⟨rfl, rfl, rfl⟩
  apply List.ext_getElem?
  intro index
  rw [getElem?_fillRet, getElem?_place]
  simp only [Covers, Fits, List.length_replicate, size]
  by_cases page : xiosOffset ≤ index ∧ index < xiosOffset + 0x100
  · rw [if_pos page, if_pos (by omega), List.getElem?_eq_getElem (by omega : index < mem.length),
      Option.map_some', List.getElem?_replicate, if_pos (by omega)]
  · rw [if_neg page, if_neg (by omega)]

/-- The header copy at SYSTEM.DAT is a `place` that passes its check. -/
theorem place_header {mem : List UInt8} (size : mem.length = sysSize) :
    place mem 0xFF00 header = sliceSet mem sysdatOffset (sysdatOffset + 256) header := by
  have offsets : sysdatOffset = 0x6200 ∧ sysSize = 0x6300 ∧ sysBase = 0x9D00 :=
    ⟨rfl, rfl, rfl⟩
  unfold place
  dsimp only
  rw [length_header, if_neg (by omega)]
  congr 1

theorem memImage_eq (files : SprFiles) :
    memImage files = (fun codes => placeAll (List.replicate sysSize 0) (codes ++ fixedPlacements))
      <$> sprCodes files.targets := by
  unfold memImage
  rw [loadSprs_eq]
  cases sprCodes files.targets with
  | error error => rfl
  | ok codes =>
    have size : (place (placeAll (List.replicate sysSize 0) codes) 0xCD00 bnkxiosCode).length =
        sysSize := by simp
    show Except.ok (sliceSet (fillRet _) sysdatOffset (sysdatOffset + 256) header) =
      Except.ok (placeAll (List.replicate sysSize 0) (codes ++ fixedPlacements))
    rw [fillRet_eq_place size, ← place_header (by rw [length_place, size]), placeAll_append,
      placeAll_fixedPlacements]

/-- `main` is the header followed by the placements over a zero image. -/
theorem mkmpm_eq (files : SprFiles) :
    mkmpm files = (fun codes => headerBa ++
      placeAll (List.replicate sysSize 0) (codes ++ fixedPlacements)) <$> sprCodes files.targets := by
  unfold mkmpm
  rw [memImage_eq]
  cases sprCodes files.targets <;> rfl

theorem mkmpm_eq_ok_iff {files : SprFiles} {out : List UInt8} :
    mkmpm files = .ok out ↔ ∃ codes, sprCodes files.targets = .ok codes ∧
      headerBa ++ placeAll (List.replicate sysSize 0) (codes ++ fixedPlacements) = out := by
  rw [mkmpm_eq, Except.map_eq_ok]

/-! ## A run on one SPR file -/

/-- A one-page RESBDOS linked at E000H: a `JP 0E000H` and zeros, with the bitmap bit of the
jump's high byte set. -/
def sampleResbdos : List UInt8 :=
  [0x00, 0xE0, 0x01, 0x00] ++ List.replicate 252 0 ++ [0xC3, 0x00, 0xE0] ++ List.replicate 253 0 ++
    [0x20] ++ List.replicate 31 0

/-- Only RESBDOS exists. -/
def sampleFiles : SprFiles := ⟨some sampleResbdos, none, none, none, none⟩

/-- RESBDOS is relocated to F000H, its jump with it. -/
def sampleCodes : List (Int × List UInt8) := [(0xF000, [0xC3, 0x00, 0xF0] ++ List.replicate 253 0)]

set_option maxRecDepth 10000 in
theorem sampleFiles_codes : sprCodes sampleFiles.targets = .ok sampleCodes := by
  decide

theorem sampleFiles_built : ∃ out, mkmpm sampleFiles = .ok out :=
  ⟨_, mkmpm_eq_ok_iff.mpr ⟨_, sampleFiles_codes, rfl⟩⟩

@[simp] theorem length_headerBa : headerBa.length = 256 := by
  simp [headerBa]

/-- The byte of `MPM.SYS` at `address` of the image is the byte the placements leave there. -/
theorem getElem?_mkmpm (codes : List (Int × List UInt8)) {address : Int}
    (inside : sysBase ≤ address) (below : address ≤ sysTop) :
    (headerBa ++ placeAll (List.replicate sysSize 0) (codes ++ fixedPlacements))[
        256 + (address - sysBase).toNat]? =
      overlayAt sysSize (codes ++ fixedPlacements) (some 0) address := by
  have sizes : sysSize = 0x6300 ∧ sysBase = 0x9D00 ∧ sysTop = 0xFFFF := ⟨rfl, rfl, rfl⟩
  rw [List.getElem?_append_right (by simp), length_headerBa, Nat.add_sub_cancel_left,
    getElem?_placeAll, List.length_replicate, List.getElem?_replicate, if_pos (by omega)]
  congr 1
  omega

/-! ## The memory map

`main`'s comment lays the image out region by region, and its `dat_regions` name the DAT regions
in it. When every SPR file's code is no longer than its region, no placement reaches into
another region, and the image is that layout: each region holds what is placed at its address,
padded with zeros. -/

/-- The memory layout of `main`'s comment, from the top of memory down: the address and size of
SYSTEM.DAT, TMPD.DAT, USERSYS.STK, XIOSJMP.TBL, RESBDOS, XDOS, BNKXIOS, BNKBDOS, BNKXDOS, TMP,
LCKLSTS.DAT and CONSOLE.DAT. -/
def memoryLayout : List (Int × Nat) :=
  [(0xFF00, 0x0100), (0xFE00, 0x0100), (0xFD00, 0x0100), (0xFC00, 0x0100), (0xF000, 0x0C00),
    (0xCE00, 0x2200), (0xCD00, 0x0100), (0xAA00, 0x2300), (0xA800, 0x0200), (0xA400, 0x0400),
    (0xA100, 0x0300), (0x9D00, 0x0400)]

/-- Every placement is no longer than the layout's region at its address. -/
def InLayout (placements : List (Int × List UInt8)) : Prop :=
  ∀ placement ∈ placements, placement.2.length ≤ (memoryLayout.lookup placement.1).getD 0

instance : DecidablePred InLayout := fun placements =>
  inferInstanceAs (Decidable (∀ placement ∈ placements,
    placement.2.length ≤ (memoryLayout.lookup placement.1).getD 0))

/-- What a region of the layout holds: the bytes placed at its address, padded with zeros to its
size. -/
def regionBytes (placements : List (Int × List UInt8)) (region : Int × Nat) : List UInt8 :=
  let data := (placements.lookup region.1).getD []
  data ++ List.replicate (region.2 - data.length) 0

/-- The regions run down from `top` to `bottom`, each ending where the one above it begins. -/
def TilesDown (top bottom : Int) (regions : List (Int × Nat)) : Prop :=
  regions.Chain' (fun (upper lower : Int × Nat) => lower.1 + lower.2 = upper.1) ∧
    regions.head?.map (fun (region : Int × Nat) => region.1 + region.2) = some top ∧
    regions.getLast?.map Prod.fst = some bottom

/-- The layout's regions run down from the top of memory to `sys_base`: together they are the
image. -/
theorem memoryLayout_tiles : TilesDown (sysTop + 1) sysBase memoryLayout :=
  ⟨by simp [memoryLayout], by decide, by decide⟩

theorem memoryLayout_apart : memoryLayout.Pairwise fun (first second : Int × Nat) =>
    first.1 + first.2 ≤ second.1 ∨ second.1 + second.2 ≤ first.1 := by
  decide

theorem memoryLayout_within :
    ∀ region ∈ memoryLayout, sysBase ≤ region.1 ∧ region.1 + region.2 ≤ sysTop + 1 := by
  decide

theorem memoryLayout_keys : (memoryLayout.map Prod.fst).Nodup := by
  decide

/-- An address lies in one region of the layout at most. -/
theorem memoryLayout_unique {first second : Int × Nat} (firstMember : first ∈ memoryLayout)
    (secondMember : second ∈ memoryLayout) {address : Int}
    (inFirst : first.1 ≤ address ∧ address < first.1 + first.2)
    (inSecond : second.1 ≤ address ∧ address < second.1 + second.2) : first = second := by
  by_contra differ
  have apart := memoryLayout_apart.forall (fun _ _ apart => apart.symm) firstMember secondMember
    differ
  omega

/-- A placement that fits its region and writes an address sits at the address of the region
holding it. -/
theorem key_of_covers {placement : Int × List UInt8}
    (fits : placement.2.length ≤ (memoryLayout.lookup placement.1).getD 0) {size : Nat}
    {address : Int} (covers : Covers size placement address) {region : Int × Nat}
    (member : region ∈ memoryLayout) (inside : region.1 ≤ address ∧ address < region.1 + region.2) :
    placement.1 = region.1 := by
  have written := covers.2
  cases found : memoryLayout.lookup placement.1 with
  | none =>
    rw [found, Option.getD_none] at fits
    omega
  | some regionSize =>
    rw [found, Option.getD_some] at fits
    obtain ⟨_, _, layout, -⟩ := List.lookup_eq_some_iff.mp found
    have own : (placement.1, regionSize) ∈ memoryLayout := by
      rw [layout]
      exact List.mem_append_right _ (List.mem_cons_self _ _)
    exact congrArg Prod.fst (memoryLayout_unique own member ⟨written.1, by simp only; omega⟩ inside)

theorem length_regionBytes {placements : List (Int × List UInt8)} (fits : InLayout placements)
    {region : Int × Nat} (member : region ∈ memoryLayout) :
    (regionBytes placements region).length = region.2 := by
  have own : memoryLayout.lookup region.1 = some region.2 := lookup_of_mem memoryLayout_keys member
  unfold regionBytes
  cases found : placements.lookup region.1 with
  | none => simp
  | some data =>
    obtain ⟨_, _, layout, -⟩ := List.lookup_eq_some_iff.mp found
    have short := fits (region.1, data) (by rw [layout]; simp)
    simp only [own, Option.getD_some] at short
    simp only [Option.getD_some, List.length_append, List.length_replicate]
    omega

/-- With distinct addresses, each placement inside its region, every byte of a region is the
region's byte. -/
theorem overlayAt_layout {placements : List (Int × List UInt8)}
    (keys : (placements.map Prod.fst).Nodup) (fits : InLayout placements) {region : Int × Nat}
    (member : region ∈ memoryLayout) {offset : Nat} (within : offset < region.2) :
    overlayAt sysSize placements (some 0) (region.1 + offset) =
      (regionBytes placements region)[offset]? := by
  have own : memoryLayout.lookup region.1 = some region.2 := lookup_of_mem memoryLayout_keys member
  have inside : region.1 ≤ region.1 + offset ∧ region.1 + offset < region.1 + region.2 := by omega
  have atRegion : ∀ other ∈ placements, Covers sysSize other (region.1 + offset) →
      placements.lookup region.1 = some other.2 := fun other otherMember covers => by
    rw [← key_of_covers (fits other otherMember) covers member inside]
    exact lookup_of_mem keys otherMember
  unfold regionBytes
  cases found : placements.lookup region.1 with
  | none =>
    rw [overlayAt_of_not_covers (fun other otherMember covers =>
      nomatch found.symm.trans (atRegion other otherMember covers))]
    simp [List.getElem?_replicate, within]
  | some data =>
    obtain ⟨_, _, layout, -⟩ := List.lookup_eq_some_iff.mp found
    have placed : (region.1, data) ∈ placements := by rw [layout]; simp
    have short := fits _ placed
    simp only [own, Option.getD_some] at short
    have unique : ∀ other ∈ placements, Covers sysSize other (region.1 + offset) →
        other = (region.1, data) := fun other otherMember covers => by
      exact Prod.ext (key_of_covers (fits other otherMember) covers member inside)
        (Option.some.inj ((atRegion other otherMember covers).symm.trans found))
    rw [Option.getD_some]
    by_cases early : offset < data.length
    · have within := memoryLayout_within region member
      have sizes : sysSize = 0x6300 ∧ sysBase = 0x9D00 ∧ sysTop = 0xFFFF := ⟨rfl, rfl, rfl⟩
      have covers : Covers sysSize (region.1, data) (region.1 + offset) :=
        ⟨⟨by simp only; omega, by simp only; omega⟩, by simp only; omega, by simp only; omega⟩
      rw [overlayAt_of_covers placed covers unique, List.getElem?_append_left early,
        show (region.1 + offset - region.1).toNat = offset by omega]
    · rw [overlayAt_of_not_covers (fun other otherMember covers =>
          early (by have := (unique other otherMember covers ▸ covers).2.2; simp only at this; omega)),
        List.getElem?_append_right (by omega), List.getElem?_replicate, if_pos (by omega)]

theorem sprCodes_keys {entries : List (Option (List UInt8) × Int)} {codes : List (Int × List UInt8)}
    (read : sprCodes entries = .ok codes) : (codes.map Prod.fst).Sublist (entries.map Prod.snd) := by
  induction entries generalizing codes with
  | nil =>
    cases read
    exact List.Sublist.slnil
  | cons entry rest induction =>
    obtain ⟨_ | data, target⟩ := entry
    · exact (induction read).cons _
    · obtain ⟨⟨_, code⟩, -, placed⟩ := Except.bind_eq_ok.mp read
      obtain ⟨others, others_read, reread⟩ := Except.bind_eq_ok.mp placed
      cases reread
      exact (induction others_read).cons₂ _

/-- The placements of a run have distinct addresses, each the address of a region of the
layout. -/
theorem placements_keys {files : SprFiles} {codes : List (Int × List UInt8)}
    (read : sprCodes files.targets = .ok codes) :
    ((codes ++ fixedPlacements).map Prod.fst).Nodup := by
  have all : ([0xF000, 0xCE00, 0xAA00, 0xA800, 0xA400] ++ [0xCD00, 0xFC00, 0xFF00] : List Int).Nodup := by
    decide
  rw [List.map_append]
  exact all.sublist ((sprCodes_keys read).append (List.Sublist.refl _))

set_option maxRecDepth 10000 in
theorem fixedPlacements_inLayout : InLayout fixedPlacements := by
  decide

/-- When every SPR file's code fits its region, the image is the memory map: the layout's regions
tile `sys_base` to FFFFH, and each holds what is placed at its address, padded with zeros. -/
theorem mkmpm_memoryMap {files : SprFiles} {out : List UInt8} {codes : List (Int × List UInt8)}
    (built : mkmpm files = .ok out) (read : sprCodes files.targets = .ok codes)
    (fits : InLayout codes) :
    TilesDown (sysTop + 1) sysBase memoryLayout ∧ ∀ region ∈ memoryLayout,
      sliceGet out (256 + (region.1 - sysBase).toNat) (256 + (region.1 - sysBase).toNat + region.2) =
        regionBytes (codes ++ fixedPlacements) region := by
  obtain ⟨codes', read', rfl⟩ := mkmpm_eq_ok_iff.mp built
  obtain rfl : codes = codes' := Except.ok.inj (read.symm.trans read')
  refine ⟨memoryLayout_tiles, fun region member => ?_⟩
  have inLayout : InLayout (codes ++ fixedPlacements) := fun placement placed =>
    (List.mem_append.mp placed).elim (fits placement) (fixedPlacements_inLayout placement)
  have within := memoryLayout_within region member
  have sizes : sysBase = 0x9D00 ∧ sysTop = 0xFFFF := ⟨rfl, rfl⟩
  refine sliceGet_eq_of_getElem? (length_regionBytes inLayout member) fun offset small => ?_
  rw [show 256 + (region.1 - sysBase).toNat + offset = 256 + (region.1 + offset - sysBase).toNat by
      omega, getElem?_mkmpm codes (by omega) (by omega),
    overlayAt_layout (placements_keys read) inLayout member small]

set_option maxRecDepth 10000 in
theorem sampleCodes_inLayout : InLayout sampleCodes := by
  decide

theorem sampleFiles_memoryMap :
    ∃ out, mkmpm sampleFiles = .ok out ∧ sprCodes sampleFiles.targets = .ok sampleCodes ∧
      InLayout sampleCodes ∧ TilesDown (sysTop + 1) sysBase memoryLayout ∧ ∀ region ∈ memoryLayout,
        sliceGet out (256 + (region.1 - sysBase).toNat) (256 + (region.1 - sysBase).toNat + region.2) =
          regionBytes (sampleCodes ++ fixedPlacements) region := by
  obtain ⟨out, built⟩ := sampleFiles_built
  exact ⟨out, built, sampleFiles_codes, sampleCodes_inLayout,
    mkmpm_memoryMap built sampleFiles_codes sampleCodes_inLayout⟩

/-! ## When `main` stops -/

/-- `read_spr` raises only when the file is too short for the two words of its header. -/
theorem readSpr_ok_iff {data : List UInt8} {targetAddr : Option Int} :
    (∃ loaded, readSpr data targetAddr = .ok loaded) ↔ 4 ≤ data.length := by
  constructor
  · rintro ⟨loaded, read⟩
    obtain ⟨_, -, rest⟩ := Except.bind_eq_ok.mp read
    obtain ⟨_, second, -⟩ := Except.bind_eq_ok.mp rest
    exact (unpackU16_sliceGet_ok_iff.mp second).1
  · intro long
    have first : unpackU16 (sliceGet data 0 2) = .ok (u16At data 0) :=
      unpackU16_sliceGet_ok_iff.mpr ⟨by omega, rfl⟩
    have second : unpackU16 (sliceGet data 2 4) = .ok (u16At data 2) :=
      unpackU16_sliceGet_ok_iff.mpr ⟨by omega, rfl⟩
    unfold readSpr
    rw [first, Except.ok_bind, second, Except.ok_bind]
    cases targetAddr with
    | none => exact ⟨_, rfl⟩
    | some target =>
      dsimp only
      split_ifs <;> exact ⟨_, rfl⟩

theorem sprCodes_ok_iff {entries : List (Option (List UInt8) × Int)} :
    (∃ codes, sprCodes entries = .ok codes) ↔ ∀ entry ∈ entries, ∀ data ∈ entry.1, 4 ≤ data.length := by
  induction entries with
  | nil => exact ⟨fun _ _ => nofun, fun _ => ⟨_, rfl⟩⟩
  | cons entry rest induction =>
    rw [List.forall_mem_cons, ← induction]
    obtain ⟨_ | data, target⟩ := entry
    · exact ⟨fun read => ⟨(fun _ member => by cases member), read⟩, fun read => read.2⟩
    · simp only [Option.mem_def, Option.some.injEq, forall_eq', ← @readSpr_ok_iff data (some target)]
      constructor
      · rintro ⟨codes, read⟩
        obtain ⟨loaded, first, placed⟩ := Except.bind_eq_ok.mp read
        obtain ⟨others, second, -⟩ := Except.bind_eq_ok.mp placed
        exact ⟨⟨loaded, first⟩, others, second⟩
      · rintro ⟨⟨loaded, first⟩, others, second⟩
        exact ⟨_, by simp only [sprCodes, first, Except.ok_bind, second]; rfl⟩

theorem unpackU16_error {buffer : List UInt8} {e : PyError}
    (raised : unpackU16 buffer = .error e) : buffer.length ≠ 2 ∧ e = .unpackBufferSize buffer.length := by
  unfold unpackU16 at raised
  split_ifs at raised with two
  exact ⟨two, (Except.error.inj raised).symm⟩

/-- `read_spr` raises only `struct.error` on a header word cut short. -/
theorem readSpr_error {data : List UInt8} {targetAddr : Option Int} {e : PyError}
    (raised : readSpr data targetAddr = .error e) : ∃ length < 2, e = .unpackBufferSize length := by
  have short (start : Nat) (cut : unpackU16 (sliceGet data start (start + 2)) = .error e) :
      ∃ length < 2, e = .unpackBufferSize length := by
    obtain ⟨notTwo, rfl⟩ := unpackU16_error cut
    simp only [length_sliceGet] at notTwo ⊢
    exact ⟨_, by omega, rfl⟩
  rcases Except.bind_eq_error.mp raised with first | ⟨_, -, rest⟩
  · exact short 0 first
  rcases Except.bind_eq_error.mp rest with second | ⟨_, -, tail⟩
  · exact short 2 second
  cases targetAddr with
  | none => cases tail
  | some target =>
      dsimp only at tail
      split_ifs at tail <;> cases tail

theorem sprCodes_error {entries : List (Option (List UInt8) × Int)} {e : PyError}
    (raised : sprCodes entries = .error e) : ∃ length < 2, e = .unpackBufferSize length := by
  induction entries with
  | nil => cases raised
  | cons entry rest induction =>
    obtain ⟨_ | data, target⟩ := entry
    · exact induction raised
    · rcases Except.bind_eq_error.mp raised with first | ⟨_, -, others⟩
      · exact readSpr_error first
      rcases Except.bind_eq_error.mp others with second | ⟨_, -, done⟩
      · exact induction second
      · cases done

/-- `main` stops only on an SPR file too short for its header words, with `struct.error` from
`read_spr`; a missing SPR file is skipped. -/
theorem mkmpm_succeeds_iff (files : SprFiles) :
    ((∃ out, mkmpm files = .ok out) ↔
      ∀ entry ∈ files.targets, ∀ data ∈ entry.1, 4 ≤ data.length) ∧
    ∀ e, mkmpm files = .error e → ∃ length < 2, e = .unpackBufferSize length := by
  refine ⟨?_, fun e raised => ?_⟩
  · rw [← sprCodes_ok_iff]
    constructor
    · rintro ⟨out, built⟩
      obtain ⟨codes, read, -⟩ := mkmpm_eq_ok_iff.mp built
      exact ⟨codes, read⟩
    · rintro ⟨codes, read⟩
      exact ⟨_, mkmpm_eq_ok_iff.mpr ⟨codes, read, rfl⟩⟩
  · rw [mkmpm_eq] at raised
    cases read : sprCodes files.targets with
    | error e' =>
        rw [read] at raised
        cases raised
        exact sprCodes_error read
    | ok codes =>
        rw [read] at raised
        cases raised

end Mpm2Tools.Mkmpm
