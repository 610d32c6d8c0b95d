import Mpm2Tools.Gensys.System

/-! # `SystemGenerator.generate`

`generate` is one long method; here each of its commented sections is a function on the
generator, in the source's order. Modules are placed downward from `cur_base`, relocated at
once, and patched with bytes of modules placed before them. The RSPs are chained by their first
word, their bank-0 companions (BRS) by their second word. Last, the memory image from `cur_base`
to the control block is assembled, cut into 128-byte records and written in reverse record
order after the control block. -/

namespace Mpm2Tools.Gensys

open Mpm2Tools

namespace SystemGenerator

/-- RESBDOS: place it, record its page, keep its relocated bytes 9-11 and 12-17. -/
def generateResbdos (s : SystemGenerator) : Except PyError SystemGenerator := do
  let (resbdos, base, _) := loadAndRelocateModule s.curBase s.resbdos
  let systemData ← setByte s.systemData 8 base
  pure { s with
    resbdos := resbdos, curBase := base, systemData := systemData,
    resbdos009 := sliceGet resbdos.code 9 12, resbdos012 := sliceGet resbdos.code 12 18 }

/-- XDOS: place it and patch bytes 9-11 with RESBDOS's, 12-13 with the control block address. -/
def generateXdos (s : SystemGenerator) : Except PyError SystemGenerator := do
  let (xdos, base, _) := loadAndRelocateModule s.curBase s.xdos
  let systemData ← setByte s.systemData 11 base
  let code := sliceSet xdos.code 9 12 s.resbdos009
  let sysdatadr ← setBytes s.sysdatadr [(0, 0), (1, s.config.memTop)]
  let code := sliceSet code 12 14 sysdatadr
  pure { s with
    xdos := { xdos with code := code }, curBase := base, systemData := systemData,
    sysdatadr := sysdatadr, xdos003 := sliceGet code 3 9 }

/-- One iteration of the RSP loop: place the RSP and link it to the previously placed one. -/
def placeRsp (curBase prevRspAddr : Int) (rsp : RSPModule) : Except PyError (RSPModule × Int) := do
  let (module, base, _) := loadAndRelocateModule curBase rsp.rsp
  let code ← packU16 module.code 0 prevRspAddr
  pure ({ rsp with rsp := { module with code := code }, rspBase := base * 256 }, base)

/-- The RSP loop from a given `cur_base`, `prev_rsp_addr` and `rsp_link`; returns the placed
RSPs and the final `cur_base`, `prev_rsp_addr` and `rsp_link`. -/
def generateRspLoop : Int → Int → Int → List RSPModule →
    Except PyError (List RSPModule × Int × Int × Int)
  | curBase, prevRspAddr, rspLink, [] => pure ([], curBase, prevRspAddr, rspLink)
  | curBase, prevRspAddr, _, rsp :: rest => do
      let (rsp, base) ← placeRsp curBase prevRspAddr rsp
      let (rest, curBase, prevRspAddr, rspLink) ←
        generateRspLoop base (base * 256) (base * 256) rest
      pure (rsp :: rest, curBase, prevRspAddr, rspLink)

/-- The RSPs, highest first, then the lowest RSP page (or XDOS's) as `rsp_base`. -/
def generateRsps (s : SystemGenerator) : Except PyError SystemGenerator := do
  let (rsps, curBase, _, rspLink) ← generateRspLoop s.curBase 0 0 s.rsps
  let systemData ← setByte s.systemData 12 curBase
  pure { s with rsps := rsps, curBase := curBase, rspLink := rspLink, systemData := systemData }

/-- The XIOS common base: the relocated target of the `JP` at BNKXIOS bytes 1-2, or the
module base when that target lies below common memory and the module lies in it. -/
def actualXiosCommonBase (config : SystemConfig) (base : Int) (jumpTarget : Nat) :
    Except PyError Int :=
  if (jumpTarget : Int) < config.commonBase * 256 then
    if base ≥ config.commonBase then pure (base * 256)
    else throw (.xiosCommonBaseBelow jumpTarget (config.commonBase * 256))
  else pure jumpTarget

/-- The BNKXIOS patches at `COMMONBASE + 3 .. + 17`, applied only when the code reaches
`offset + 17`: SWTUSER and SWTSYS from RESBDOS, PDISP and XDOS from XDOS, and the control block
address. -/
def patchCommonBase (code resbdos012 xdos003 sysdatadr : List UInt8) (offset : Int) :
    List UInt8 :=
  if offset + 17 ≤ code.length then
    let code := pySliceSet code (offset + 3) (offset + 9) resbdos012
    let code := pySliceSet code (offset + 9) (offset + 15) xdos003
    pySliceSet code (offset + 15) (offset + 17) sysdatadr
  else code

/-- BNKXIOS: place it, find its common base, patch it, and keep its first 256 bytes as the XIOS
jump table. -/
def generateBnkxios (s : SystemGenerator) : Except PyError SystemGenerator := do
  let (bnkxios, base, _) := loadAndRelocateModule s.curBase s.bnkxios
  let systemData ← setByte s.systemData 13 base
  let jumpTarget ← unpackU16 (sliceGet bnkxios.code 1 3)
  let actXiosCommonBase ← actualXiosCommonBase s.config base jumpTarget
  let offset := actXiosCommonBase - base * 256
  let code := patchCommonBase bnkxios.code s.resbdos012 s.xdos003 s.sysdatadr offset
  pure { s with
    bnkxios := { bnkxios with code := code }, curBase := base, systemData := systemData,
    actXiosCommonBase := actXiosCommonBase, bnkxios000 := sliceGet code 0 256 }

/-- BNKBDOS: place it and record its page. -/
def generateBnkbdos (s : SystemGenerator) : Except PyError SystemGenerator := do
  let (bnkbdos, base, _) := loadAndRelocateModule s.curBase s.bnkbdos
  let systemData ← setByte s.systemData 14 base
  pure { s with bnkbdos := bnkbdos, curBase := base, systemData := systemData }

/-- BNKXDOS: place it, patch its bytes 0-1, and copy its bytes 4-43 to XDOS bytes 14-53. -/
def generateBnkxdos (s : SystemGenerator) : Except PyError SystemGenerator := do
  let (bnkxdos, base, _) := loadAndRelocateModule s.curBase s.bnkxdos
  let systemData ← setByte s.systemData 242 base
  let code := sliceSet bnkxdos.code 0 2 s.sysdatadr
  let cmnXdosJmpTbl := sliceGet code 4 44
  pure { s with
    bnkxdos := { bnkxdos with code := code },
    xdos := { s.xdos with code := sliceSet s.xdos.code 14 54 cmnXdosJmpTbl },
    curBase := base, systemData := systemData }

/-- TMP, when there are consoles: place it and patch its bytes 0-1. -/
def generateTmp (s : SystemGenerator) : Except PyError SystemGenerator :=
  match s.tmp with
  | none => pure s
  | some tmp => do
      let (tmp, base, _) := loadAndRelocateModule s.curBase tmp
      let systemData ← setBytes s.systemData [(243, s.tmpdBase), (247, base)]
      pure { s with
        tmp := some { tmp with code := sliceSet tmp.code 0 2 s.sysdatadr }, curBase := base,
        systemData := systemData }

/-- One iteration of the BRS loop for an RSP with a companion: place the BRS, read its initial
stack pointer, then overwrite bytes 0-1 with the RSP's address and 2-3 with the previous BRS,
and store the stack pointer in the RSP's bytes 6-7. The loop's read-backs for its debug lines
cannot fail once the writes succeeded and are not modeled. -/
def placeBrs (curBase brspl : Int) (rsp : RSPModule) (brs : SPRModule) :
    Except PyError (RSPModule × Int) := do
  let (brs, base, _) := loadAndRelocateModule curBase brs
  let stackPtr ← unpackU16 (sliceGet brs.code 2 4)
  let code ← packU16 brs.code 0 rsp.rspBase
  let code ← packU16 code 2 brspl
  let rspCode ← packU16 rsp.rsp.code 6 stackPtr
  pure ({ rsp with brs := some { brs with code := code }, rsp := { rsp.rsp with code := rspCode } },
    base)

/-- The BRS loop from a given `cur_base`, `brspl`, `brsp_base` and `nmb_brsps`. -/
def generateBrsLoop : Int → Int → Int → Nat → List RSPModule →
    Except PyError (List RSPModule × Int × Int × Int × Nat)
  | curBase, brspl, brspBase, nmbBrsps, [] => pure ([], curBase, brspl, brspBase, nmbBrsps)
  | curBase, brspl, brspBase, nmbBrsps, rsp :: rest =>
      match rsp.brs with
      | none => do
          let (rest, state) ← generateBrsLoop curBase brspl brspBase nmbBrsps rest
          pure (rsp :: rest, state)
      | some brs => do
          let (rsp, base) ← placeBrs curBase brspl rsp brs
          let (rest, state) ← generateBrsLoop base (base * 256) base (nmbBrsps + 1) rest
          pure (rsp :: rest, state)

/-- The BRS modules in RSP order, then their count, lowest page and list head. -/
def generateBrss (s : SystemGenerator) : Except PyError SystemGenerator := do
  let (rsps, curBase, brspl, brspBase, nmbBrsps) ← generateBrsLoop s.curBase 0 0 0 s.rsps
  let systemData ← setByte s.systemData 248 nmbBrsps
  let systemData ← if nmbBrsps > 0 then do
      let systemData ← setByte systemData 249 brspBase
      packU16 systemData 250 brspl
    else pure systemData
  pure { s with
    rsps := rsps, curBase := curBase, brspl := brspl, brspBase := brspBase, nmbBrsps := nmbBrsps,
    systemData := systemData }

/-- The lock table: ten bytes per locked record and open file. -/
def generateLockTable (s : SystemGenerator) : Except PyError SystemGenerator := do
  let cfg := s.config
  let totalListItems := cfg.totalLockedRecords + cfg.totalOpenFiles
  let lockPages := (totalListItems * 10 + 255) / 256
  let curBase := s.curBase - lockPages
  let lockFreeSpace := curBase * 256
  let systemData ← packU16 s.systemData 191 lockFreeSpace
  pure { s with curBase := curBase, lockFreeSpace := lockFreeSpace, systemData := systemData }

/-- The console data region, one page per console. -/
def generateConsoleData (s : SystemGenerator) : Except PyError SystemGenerator :=
  if s.config.numConsoles > 0 then do
    let curBase := s.curBase - s.config.numConsoles
    let systemData ← setByte s.systemData 244 curBase
    pure { s with curBase := curBase, consoleDatBase := curBase, systemData := systemData }
  else pure s

/-- The memory image from `cur_base` up to the control block: every module, then a copy of the
first 256 bytes of BNKXIOS at the XIOS jump table page. -/
def generateMemoryImage (s : SystemGenerator) : Except PyError SystemGenerator := do
  let cfg := s.config
  let imageBase := s.curBase * 256
  let imageSize := cfg.memTop * 256 - imageBase
  if imageSize < 0 then throw (.negativeCount imageSize)
  let memImage := List.replicate imageSize.toNat 0
  let memImage ← writeModules imageBase memImage s.modulesToWrite
  let xiosTblOffset := s.xiosJmpTblBase * 256 - imageBase
  let memImage :=
    if xiosTblOffset ≥ 0 ∧ xiosTblOffset + 256 ≤ memImage.length then
      sliceSet memImage xiosTblOffset.toNat (xiosTblOffset + 256).toNat s.bnkxios000
    else memImage
  pure { s with imageBase := imageBase, memImage := memImage }

/-- The 128-byte records of the padded image, last record first. -/
def reverseRecords (paddedImage : List UInt8) : List UInt8 :=
  let numRecords := paddedImage.length / 128
  (List.range numRecords).reverse.flatMap fun i => sliceGet paddedImage (i * 128) ((i + 1) * 128)

/-- The record count, the RSP count and list head, and the output file: the control block, then
the image padded to whole records in reverse record order. -/
def generateOutput (s : SystemGenerator) : Except PyError SystemGenerator := do
  let recordCount := (256 + s.memImage.length + 127) / 128
  let systemData ← packU16 s.systemData 120 recordCount
  let systemData ← setByte systemData 125 s.rsps.length
  let systemData ← if s.rsps ≠ [] then packU16 systemData 254 s.rspLink else pure systemData
  let paddedImage := s.memImage ++ List.replicate ((-(s.memImage.length : Int)) % 128).toNat 0
  let output := systemData ++ reverseRecords paddedImage
  pure { s with systemData := systemData, output := output, recordCount := output.length / 128 }

end SystemGenerator

/-- `SystemGenerator(config).generate()`: the generator after a normal return, or the
exception it raises. -/
def generate (config : SystemConfig) (files : SystemFiles) : Except PyError SystemGenerator := do
  let s ← SystemGenerator.loadModules config files
  let s ← s.setupSystemData
  let s ← s.calculateMemoryLayout
  let s ← s.generateResbdos
  let s ← s.generateXdos
  let s ← s.generateRsps
  let s ← s.generateBnkxios
  let s ← s.generateBnkbdos
  let s ← s.generateBnkxdos
  let s ← s.generateTmp
  let s ← s.generateBrss
  let s ← s.generateLockTable
  let s ← s.generateConsoleData
  let s ← s.setupMemorySegments
  let s ← s.generateMemoryImage
  s.generateOutput

end Mpm2Tools.Gensys
