import Mpm2Tools.Gensys.SprModule

/-! # `mkmpm.read_spr`

The older image builder `mkmpm.py` reads SPR files with its own header layout: bytes 0-1 are a
base address and bytes 2-3 a code length in pages. It relocates only when the target differs
from a nonzero base, by the page difference `(target - base) // 256`, with the same MSB-first
bitmap rule as `gensys.py`. -/

namespace Mpm2Tools.Mkmpm

open Mpm2Tools Mpm2Tools.Gensys

/-- The loop's test: bitmap byte `byte_idx // 8` exists and `reloc_bitmap[..] & (0x80 >> bit)`. -/
def readSprFlagged (relocBitmap : List UInt8) (byteIdx : Nat) : Bool :=
  let bitmapByte := byteIdx / 8
  let bitmapBit := byteIdx % 8
  if bitmapByte < relocBitmap.length then
    (relocBitmap.getD bitmapByte 0).toNat &&& (0x80 >>> bitmapBit) != 0
  else false

/-- One iteration of `read_spr`'s relocation loop. -/
def readSprStep (relocBitmap : List UInt8) (deltaPages : Int) (code : List UInt8)
    (byteIdx : Nat) : List UInt8 :=
  if readSprFlagged relocBitmap byteIdx then
    code.set byteIdx (SPRModule.addPage (code.getD byteIdx 0) deltaPages)
  else code

/-- `read_spr(filename, target_addr)`, returning `(base, code)`. -/
def readSpr (data : List UInt8) (targetAddr : Option Int) : Except PyError (Nat × List UInt8) := do
  let base ← unpackU16 (sliceGet data 0 2)
  let codePages ← unpackU16 (sliceGet data 2 4)
  let codeLen := codePages * 256
  let code := sliceGet data 256 (256 + codeLen)
  let bitmapStart := 256 + codeLen
  let bitmapLen := (codeLen + 7) / 8
  let relocBitmap := sliceGet data bitmapStart (bitmapStart + bitmapLen)
  match targetAddr with
  | some target =>
      if base ≠ 0 ∧ (base : Int) ≠ target then
        let deltaPages := (target - base) / 256
        pure (base, (List.range codeLen).foldl (readSprStep relocBitmap deltaPages) code)
      else pure (base, code)
  | none => pure (base, code)

end Mpm2Tools.Mkmpm
