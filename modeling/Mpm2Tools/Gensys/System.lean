import Mpm2Tools.Gensys.SprModule

/-! # The system generator's state and its helper methods

`SystemGenerator` holds the configuration, the loaded modules and the layout fields of the
Python object; the control block `system_data` is a 256-byte array filled in place. The methods
here are the ones `generate` calls: `load_modules`, `setup_system_data`,
`calculate_memory_layout`, `load_and_relocate_module`, `setup_memory_segments` and
`write_module`. Console output is not modeled. -/

namespace Mpm2Tools.Gensys

open Mpm2Tools

/-- The recognised options of `SystemConfig`, with the dataclass defaults. The file-name options
are replaced by the files' contents in `SystemFiles`. -/
structure SystemConfig where
  memTop : Int := 0xFF
  commonBase : Int := 0xC0
  numConsoles : Int := 4
  numPrinters : Int := 1
  bankSwitched : Bool := true
  z80Cpu : Bool := true
  sysCallStks : Bool := true
  bankedBdos : Bool := true
  dayFile : Bool := true
  ticksPerSecond : Int := 60
  systemDrive : Int := 1
  tempFileDrive : Int := 1
  maxLockedRecords : Int := 16
  totalLockedRecords : Int := 32
  maxOpenFiles : Int := 16
  totalOpenFiles : Int := 32
  numMemSegments : Int := 7
  breakpointRst : Int := 6
  deriving DecidableEq, Repr

/-- An SPR file as `load_modules` finds it: the module name (the upper-cased stem) and bytes. -/
structure SprFile where
  name : String
  data : List UInt8
  deriving DecidableEq, Repr

/-- One entry of `config.rsps` with the files it names; `none` is a file that does not exist. -/
structure RspEntry where
  name : String
  rsp : Option SprFile
  brs : Option SprFile
  deriving DecidableEq, Repr

/-- The files `load_modules` reads. The TMP file is read only when there are consoles. -/
structure SystemFiles where
  resbdos : SprFile
  xdos : SprFile
  bnkxios : SprFile
  bnkbdos : SprFile
  bnkxdos : SprFile
  tmp : SprFile
  rsps : List RspEntry
  deriving DecidableEq, Repr

/-- `RSPModule`: a resident system process and its optional bank-0 companion. -/
structure RSPModule where
  name : String
  rsp : SPRModule
  brs : Option SPRModule
  rspBase : Int
  deriving DecidableEq, Repr

/-- The fields of a `SystemGenerator` that `generate` reads or writes, the loop variables of
`generate` that outlive their loop (`rsp_link`, `brspl`, `brsp_base`, `nmb_brsps`), and the
call-stack base `usersys_stk_base` of `calculate_memory_layout`, which only its printout reads. -/
structure SystemGenerator where
  config : SystemConfig
  resbdos : SPRModule
  xdos : SPRModule
  bnkxios : SPRModule
  bnkbdos : SPRModule
  bnkxdos : SPRModule
  tmp : Option SPRModule
  rsps : List RSPModule
  curBase : Int
  xiosJmpTblBase : Int
  tmpdBase : Int
  usersysStkBase : Int
  consoleDatBase : Int
  lockFreeSpace : Int
  output : List UInt8
  recordCount : Nat
  memImage : List UInt8
  imageBase : Int
  systemData : List UInt8
  resbdos009 : List UInt8
  resbdos012 : List UInt8
  xdos003 : List UInt8
  sysdatadr : List UInt8
  bnkxios000 : List UInt8
  actXiosCommonBase : Int
  rspLink : Int
  brspl : Int
  brspBase : Int
  nmbBrsps : Nat
  deriving DecidableEq, Repr

namespace SystemGenerator

/-- `SystemGenerator.__init__` followed by the module assignments of `load_modules`. -/
def init (config : SystemConfig) (resbdos xdos bnkxios bnkbdos bnkxdos : SPRModule)
    (tmp : Option SPRModule) (rsps : List RSPModule) : SystemGenerator :=
  { config := config, resbdos := resbdos, xdos := xdos, bnkxios := bnkxios, bnkbdos := bnkbdos,
    bnkxdos := bnkxdos, tmp := tmp, rsps := rsps, curBase := config.memTop,
    xiosJmpTblBase := 0, tmpdBase := 0, usersysStkBase := 0, consoleDatBase := 0,
    lockFreeSpace := 0, output := [], recordCount := 0, memImage := [], imageBase := 0,
    systemData := List.replicate 256 0,
    resbdos009 := List.replicate 3 0, resbdos012 := List.replicate 6 0,
    xdos003 := List.replicate 6 0, sysdatadr := List.replicate 2 0,
    bnkxios000 := List.replicate 256 0, actXiosCommonBase := 0, rspLink := 0, brspl := 0,
    brspBase := 0, nmbBrsps := 0 }

/-! ## Loading -/

/-- One iteration of the RSP loop of `load_modules`: a missing `.rsp` file is skipped, a
missing `.brs` file leaves the RSP without companion. -/
def loadRsp (entry : RspEntry) : Except PyError (Option RSPModule) :=
  match entry.rsp with
  | none => pure none
  | some rspFile => do
      let rsp ← SPRModule.load rspFile.name rspFile.data
      let brs ← match entry.brs with
        | none => pure none
        | some brsFile => some <$> SPRModule.load brsFile.name brsFile.data
      pure (some { name := entry.name.toUpper, rsp := rsp, brs := brs, rspBase := 0 })

def loadRsps : List RspEntry → Except PyError (List RSPModule)
  | [] => pure []
  | entry :: rest => do
      let loaded ← loadRsp entry
      let rsps ← loadRsps rest
      pure (loaded.toList ++ rsps)

/-- `load_modules` on a fresh generator. -/
def loadModules (config : SystemConfig) (files : SystemFiles) : Except PyError SystemGenerator :=
  do
  let resbdos ← SPRModule.load files.resbdos.name files.resbdos.data
  let xdos ← SPRModule.load files.xdos.name files.xdos.data
  let bnkxios ← SPRModule.load files.bnkxios.name files.bnkxios.data
  let bnkbdos ← SPRModule.load files.bnkbdos.name files.bnkbdos.data
  let bnkxdos ← SPRModule.load files.bnkxdos.name files.bnkxdos.data
  let tmp ← if config.numConsoles > 0 then
      some <$> SPRModule.load files.tmp.name files.tmp.data
    else pure none
  let rsps ← loadRsps files.rsps
  pure (init config resbdos xdos bnkxios bnkbdos bnkxdos tmp rsps)

/-! ## The control block -/

/-- `COPYRIGHT_OFFSET`, `COPYRIGHT_LEN`, `SERIAL_OFFSET` and `SERIAL_LEN`. -/
def copyrightOffset : Nat := 0xD4
def copyrightLen : Nat := 37
def serialOffset : Nat := 0xF9
def serialLen : Nat := 6

/-- `0xFF if flag else 0`. -/
def flagByte (flag : Bool) : Int := if flag then 0xFF else 0

/-- `setup_system_data`. The copyright and serial slices are read from the unrelocated RESBDOS
code; a slice cut short by a small RESBDOS shrinks `system_data`. -/
def setupSystemData (s : SystemGenerator) : Except PyError SystemGenerator := do
  let cfg := s.config
  let systemData : List UInt8 := List.replicate 256 0
  let systemData ← setBytes systemData
    [(0, cfg.memTop), (1, cfg.numConsoles), (2, cfg.breakpointRst), (3, flagByte cfg.sysCallStks),
      (4, flagByte cfg.bankSwitched), (5, flagByte cfg.z80Cpu), (6, flagByte cfg.bankedBdos),
      (15, cfg.numMemSegments), (122, cfg.ticksPerSecond), (123, cfg.systemDrive),
      (124, cfg.commonBase)]
  let copyrightBytes := sliceGet s.resbdos.code copyrightOffset (copyrightOffset + copyrightLen)
  let systemData := sliceSet systemData 144 (144 + copyrightLen) copyrightBytes
  let serialBytes := sliceGet s.resbdos.code serialOffset (serialOffset + serialLen)
  let systemData := sliceSet systemData 181 (181 + serialLen) serialBytes
  let systemData ← setBytes systemData [(187, cfg.maxLockedRecords), (188, cfg.maxOpenFiles)]
  let systemData ← packU16 systemData 189 (cfg.totalLockedRecords + cfg.totalOpenFiles)
  let systemData ← setBytes systemData
    [(193, cfg.totalLockedRecords), (194, cfg.totalOpenFiles), (195, flagByte cfg.dayFile),
      (196, cfg.tempFileDrive), (197, cfg.numPrinters)]
  pure { s with systemData := systemData }

/-- The user stack loop of `calculate_memory_layout`:
`user_stacks(j) = tmpd_base * 256 - j * 64` at offset `80 + 2 j`. -/
def packUserStacks (tmpdBase : Int) (systemData : List UInt8) :
    List Nat → Except PyError (List UInt8)
  | [] => pure systemData
  | j :: rest => do
      let systemData ← packU16 systemData (80 + j * 2) (tmpdBase * 256 - j * 64)
      packUserStacks tmpdBase systemData rest

/-- `calculate_memory_layout`: the control block page at `mem_top`, then TMPD (one page, two
above four consoles), the user stacks (one page, two above four segments) and the XIOS jump
table, growing downward. -/
def calculateMemoryLayout (s : SystemGenerator) : Except PyError SystemGenerator := do
  let cfg := s.config
  let curBase := cfg.memTop
  let (curBase, tmpdBase) :=
    if cfg.numConsoles > 0 then
      let curBase := curBase - 1
      let curBase := if cfg.numConsoles > 4 then curBase - 1 else curBase
      (curBase, curBase)
    else (curBase, s.tmpdBase)
  let (curBase, usersysStkBase) :=
    if cfg.sysCallStks then
      let curBase := curBase - 1
      let curBase := if cfg.numMemSegments > 4 then curBase - 1 else curBase
      (curBase, curBase)
    else (curBase, 0)
  let curBase := curBase - 1
  let xiosJmpTblBase := curBase
  let systemData ← setByte s.systemData 7 xiosJmpTblBase
  let systemData ← if cfg.sysCallStks then
      packUserStacks tmpdBase systemData (List.range (min cfg.numMemSegments 8).toNat)
    else pure systemData
  pure { s with
    curBase := curBase, tmpdBase := tmpdBase, usersysStkBase := usersysStkBase,
    xiosJmpTblBase := xiosJmpTblBase, systemData := systemData }

/-- `load_and_relocate_module`: the module takes `ceil((psize + dsize) / 256)` pages below
`cur_base` and is relocated there. Returns the relocated module, its base page, which is the new
`cur_base`, and its page count. -/
def loadAndRelocateModule (curBase : Int) (module : SPRModule) : SPRModule × Int × Nat :=
  let totalSize := module.psize + module.dsize
  let pagesNeeded := (totalSize + 255) / 256
  let basePage := curBase - pagesNeeded
  (module.relocate basePage, basePage, pagesNeeded)

/-- The user segment loop of `setup_memory_segments`, with its `break` at offset 48. -/
def fillUserSegments (commonBase : Int) :
    List Nat → List UInt8 → Nat → Except PyError (List UInt8 × Nat)
  | [], systemData, totalSegments => pure (systemData, totalSegments)
  | i :: rest, systemData, totalSegments =>
      let segOffset := 16 + i * 4
      if segOffset ≥ 48 then pure (systemData, totalSegments)
      else do
        let systemData ← setBytes systemData
          [(segOffset, 0), (segOffset + 1, commonBase), (segOffset + 2, 0), (segOffset + 3, i)]
        fillUserSegments commonBase rest systemData (totalSegments + 1)

/-- `setup_memory_segments`: the system segment from `cur_base` to the top of memory, then one
user segment per bank below common memory, at most seven. -/
def setupMemorySegments (s : SystemGenerator) : Except PyError SystemGenerator := do
  let cfg := s.config
  let systemData ← setBytes s.systemData
    [(16, s.curBase), (17, 0xFF - s.curBase + 1), (18, 0x80), (19, 0)]
  let (systemData, totalSegments) ←
    fillUserSegments cfg.commonBase (List.range' 1 cfg.numMemSegments.toNat) systemData 1
  let systemData ← setByte systemData 15 totalSegments
  pure { s with systemData := systemData }

/-! ## The memory image -/

/-- `write_module`: copies the code to `base - image_base`, returning the image and the record
number. -/
def writeModule (memImage : List UInt8) (imageBase : Int) (module : SPRModule) :
    Except PyError (List UInt8 × Int) := do
  let offset := module.base - imageBase
  if offset < 0 then throw (.moduleBelowImageBase module.name module.base imageBase)
  let endOffset := offset + module.code.length
  if endOffset > memImage.length then throw (.moduleBeyondImage module.name)
  pure (sliceSet memImage offset.toNat endOffset.toNat module.code, (256 + offset) / 128)

/-- `modules_to_write`: `generate` appends a reference to each module as it places it and reads
them when it writes the image, so the list holds the modules in their final state. -/
def modulesToWrite (s : SystemGenerator) : List SPRModule :=
  [s.resbdos, s.xdos] ++ s.rsps.map (·.rsp) ++ [s.bnkxios, s.bnkbdos, s.bnkxdos] ++
    s.tmp.toList ++ s.rsps.filterMap (·.brs)

/-- `for module in modules_to_write: self.write_module(module)`. -/
def writeModules (imageBase : Int) : List UInt8 → List SPRModule → Except PyError (List UInt8)
  | memImage, [] => pure memImage
  | memImage, module :: rest => do
      let (memImage, _) ← writeModule memImage imageBase module
      writeModules imageBase memImage rest

end SystemGenerator

end Mpm2Tools.Gensys
