import Mpm2Tools.Gensys.Generate
import Mpm2Tools.Gensys.Allocation

/-! # What each phase of `generate` does

From a normal return of a phase, one lemma gives the checks the phase passed and the generator
it returned. The loops get their own lemmas, by induction over the RSP list. Later proofs use
these and never unfold a phase. -/

namespace Mpm2Tools.Gensys

open Mpm2Tools

namespace SPRModule

/-- The pages `load_and_relocate_module` reserves, `ceil((psize + dsize) / 256)`. -/
def pages (module : SPRModule) : Nat := (module.psize + module.dsize + 255) / 256

/-- The module's code as loaded from its file and relocated to its final base. -/
def relocatedCode (module : SPRModule) : List UInt8 :=
  ({ module with code := sliceGet module.file 256 (256 + module.psize) }.relocate
    (module.base / 256)).code

@[simp] theorem pages_relocate (module : SPRModule) (basePage : Int) :
    (module.relocate basePage).pages = module.pages := rfl

@[simp] theorem relocatedCode_withCode (module : SPRModule) (code : List UInt8) :
    { module with code := code }.relocatedCode = module.relocatedCode := rfl

@[simp] theorem pages_withCode (module : SPRModule) (code : List UInt8) :
    { module with code := code }.pages = module.pages := rfl

/-- A module as `load` returns it: its code is the file's code region, `psize` bytes long. -/
structure Fresh (module : SPRModule) : Prop where
  code_eq : module.code = sliceGet module.file 256 (256 + module.psize)
  length_code : module.code.length = module.psize

theorem fresh_of_load {name : String} {data : List UInt8} {module : SPRModule}
    (loaded : load name data = .ok module) : module.Fresh := by
  obtain ⟨long, moduleEq⟩ := load_ok_iff.mp loaded
  refine ⟨by simp only [moduleEq], ?_⟩
  simp only [moduleEq, length_sliceGet]
  omega

/-- The relocated code is as long as the code the file holds. -/
theorem length_relocatedCode (module : SPRModule) :
    module.relocatedCode.length = (sliceGet module.file 256 (256 + module.psize)).length := by
  rw [relocatedCode, length_relocate]

theorem length_relocatedCode_relocate {module : SPRModule} (fresh : module.Fresh) (basePage : Int) :
    (module.relocate basePage).relocatedCode.length = module.psize := by
  rw [length_relocatedCode, relocate_file, relocate_psize, ← fresh.code_eq, fresh.length_code]

/-- Relocating a fresh module gives its `relocatedCode`, and patches that keep the file, size
and base keep it. -/
theorem relocatedCode_relocate {module : SPRModule} (fresh : module.Fresh) (basePage : Int) :
    (module.relocate basePage).relocatedCode = (module.relocate basePage).code := by
  have page : basePage * 256 / 256 = basePage := Int.mul_ediv_cancel _ (by decide)
  simp only [relocatedCode, relocate_file, relocate_psize, relocate_base, page, ← fresh.code_eq]
  rfl

end SPRModule

/-- Pages of the TMPD region: one, two above four consoles, none without consoles. -/
def tmpdPages (config : SystemConfig) : Nat :=
  if 0 < config.numConsoles then if 4 < config.numConsoles then 2 else 1 else 0

/-- Pages of the user call-stack region: one, two above four memory segments. -/
def stackPages (config : SystemConfig) : Nat :=
  if config.sysCallStks then if 4 < config.numMemSegments then 2 else 1 else 0

namespace SystemGenerator

variable {s t : SystemGenerator}

/-! ## Loading and the control block -/

/-- A module as the loader returns it: fresh and not yet relocated. -/
def Loaded (module : SPRModule) : Prop := module.Fresh ∧ module.base = 0

theorem loaded_of_load {name : String} {data : List UInt8} {module : SPRModule}
    (loaded : SPRModule.load name data = .ok module) : Loaded module :=
  ⟨SPRModule.fresh_of_load loaded, by rw [(SPRModule.load_ok_iff.mp loaded).2]⟩

/-- An RSP as `load_modules` returns it: both modules loaded and no base yet. -/
def RspLoaded (rsp : RSPModule) : Prop :=
  Loaded rsp.rsp ∧ (∀ brs, rsp.brs = some brs → Loaded brs) ∧ rsp.rspBase = 0

theorem loadRsps_ok {entries : List RspEntry} {rsps : List RSPModule}
    (loaded : loadRsps entries = .ok rsps) : ∀ rsp ∈ rsps, RspLoaded rsp := by
  induction entries generalizing rsps with
  | nil =>
      cases loaded
      simp
  | cons entry rest induction =>
      simp only [loadRsps, Except.bind_eq_ok] at loaded
      obtain ⟨first, firstOk, restRsps, restOk, done⟩ := loaded
      cases done
      intro rsp member
      rcases List.mem_append.mp member with here | later
      · unfold loadRsp at firstOk
        split at firstOk
        · cases firstOk
          simp at here
        · simp only [Except.bind_eq_ok] at firstOk
          obtain ⟨module, moduleOk, companionOk⟩ := firstOk
          split at companionOk
          · cases companionOk
            simp only [Option.mem_toList, Option.mem_def, Option.some.injEq] at here
            subst here
            exact ⟨loaded_of_load moduleOk, fun brs present => absurd present (by simp), rfl⟩
          · simp only [Except.bind_eq_ok, Except.map_eq_ok] at companionOk
            obtain ⟨_, ⟨companion, companionLoaded, rfl⟩, done⟩ := companionOk
            cases done
            simp only [Option.mem_toList, Option.mem_def, Option.some.injEq] at here
            subst here
            refine ⟨loaded_of_load moduleOk, fun brs present => ?_, rfl⟩
            cases present
            exact loaded_of_load companionLoaded
      · exact induction restOk rsp later

theorem loadModules_ok {config : SystemConfig} {files : SystemFiles} {s : SystemGenerator}
    (loaded : SystemGenerator.loadModules config files = .ok s) :
    ∃ resbdos xdos bnkxios bnkbdos bnkxdos tmp rsps,
      (Loaded resbdos ∧ Loaded xdos ∧ Loaded bnkxios ∧ Loaded bnkbdos ∧ Loaded bnkxdos) ∧
      (∀ module, tmp = some module → Loaded module) ∧ (tmp.isSome ↔ 0 < config.numConsoles) ∧
      loadRsps files.rsps = .ok rsps ∧
      s = SystemGenerator.init config resbdos xdos bnkxios bnkbdos bnkxdos tmp rsps := by
  simp only [SystemGenerator.loadModules, Except.bind_eq_ok] at loaded
  obtain ⟨resbdos, resbdosOk, xdos, xdosOk, bnkxios, bnkxiosOk, bnkbdos, bnkbdosOk, bnkxdos,
    bnkxdosOk, rest⟩ := loaded
  have modules : Loaded resbdos ∧ Loaded xdos ∧ Loaded bnkxios ∧ Loaded bnkbdos ∧
      Loaded bnkxdos :=
    ⟨loaded_of_load resbdosOk, loaded_of_load xdosOk, loaded_of_load bnkxiosOk,
      loaded_of_load bnkbdosOk, loaded_of_load bnkxdosOk⟩
  split_ifs at rest with consoles
  · simp only [Except.bind_eq_ok, Except.map_eq_ok] at rest
    obtain ⟨_, ⟨tmp, tmpOk, rfl⟩, rsps, rspsOk, done⟩ := rest
    cases done
    exact ⟨_, _, _, _, _, some tmp, rsps, modules,
      fun module present => by cases present; exact loaded_of_load tmpOk,
      by simpa using consoles, rspsOk, rfl⟩
  · simp only [Except.bind_eq_ok] at rest
    obtain ⟨_, ⟨⟩, rsps, rspsOk, done⟩ := rest
    cases done
    exact ⟨_, _, _, _, _, none, rsps, modules, fun _ present => Option.noConfusion present,
      by simpa using consoles, rspsOk, rfl⟩

/-- The options `setup_system_data` stores as single bytes each lie in `range(256)`. -/
def ByteFields (config : SystemConfig) : Prop :=
  ∀ value ∈ [config.memTop, config.numConsoles, config.breakpointRst, config.numMemSegments,
    config.ticksPerSecond, config.systemDrive, config.commonBase, config.maxLockedRecords,
    config.maxOpenFiles, config.totalLockedRecords, config.totalOpenFiles, config.tempFileDrive,
    config.numPrinters], 0 ≤ value ∧ value < 256

theorem setupSystemData_ok (generated : s.setupSystemData = .ok t) :
    let cfg := s.config
    let header := storeAll (List.replicate 256 0)
      [(0, cfg.memTop), (1, cfg.numConsoles), (2, cfg.breakpointRst), (3, flagByte cfg.sysCallStks),
        (4, flagByte cfg.bankSwitched), (5, flagByte cfg.z80Cpu), (6, flagByte cfg.bankedBdos),
        (15, cfg.numMemSegments), (122, cfg.ticksPerSecond), (123, cfg.systemDrive),
        (124, cfg.commonBase)]
    let copied := sliceSet (sliceSet header 144 (144 + copyrightLen)
        (sliceGet s.resbdos.code copyrightOffset (copyrightOffset + copyrightLen)))
      181 (181 + serialLen) (sliceGet s.resbdos.code serialOffset (serialOffset + serialLen))
    let limits := storeAll copied [(187, cfg.maxLockedRecords), (188, cfg.maxOpenFiles)]
    ByteFields cfg ∧ 198 ≤ copied.length ∧
      t = { s with
        systemData := storeAll (u16Set limits 189 (cfg.totalLockedRecords + cfg.totalOpenFiles).toNat)
          [(193, cfg.totalLockedRecords), (194, cfg.totalOpenFiles), (195, flagByte cfg.dayFile),
            (196, cfg.tempFileDrive), (197, cfg.numPrinters)] } := by
  simp only [setupSystemData, Except.bind_eq_ok, setBytes_ok_iff, packU16_ok_iff_u16Set,
    List.mem_cons, List.mem_singleton, List.not_mem_nil, or_false, forall_eq_or_imp, forall_eq,
    length_storeAll, length_u16Set, List.length_replicate] at generated
  generalize (List.replicate 256 0 : List UInt8) = zeros at generated ⊢
  obtain ⟨header, ⟨⟨⟨memTop, memTop', -⟩, ⟨consoles, consoles', -⟩, ⟨rst, rst', -⟩, -, -, -, -,
      ⟨segments, segments', -⟩, ⟨ticks, ticks', -⟩, ⟨drive, drive', -⟩, common, common', -⟩,
      headerEq⟩, limits, ⟨⟨⟨locked, locked', -⟩, opened, opened', -⟩, limitsEq⟩, packed,
    ⟨-, -, -, packedEq⟩, totals, ⟨⟨⟨totalLocked, totalLocked', -⟩, ⟨totalOpen, totalOpen', -⟩, -,
      ⟨temp, temp', -⟩, printers, printers', last⟩, totalsEq⟩, done⟩ := generated
  cases done
  rw [packedEq, length_u16Set, limitsEq, length_storeAll, headerEq] at last
  refine ⟨?_, last, by rw [totalsEq, packedEq, limitsEq, headerEq]⟩
  simp only [ByteFields, List.mem_cons, List.mem_singleton, List.not_mem_nil, or_false,
    forall_eq_or_imp, forall_eq]
  exact ⟨⟨memTop, memTop'⟩, ⟨consoles, consoles'⟩, ⟨rst, rst'⟩, ⟨segments, segments'⟩,
    ⟨ticks, ticks'⟩, ⟨drive, drive'⟩, ⟨common, common'⟩, ⟨locked, locked'⟩, ⟨opened, opened'⟩,
    ⟨totalLocked, totalLocked'⟩, ⟨totalOpen, totalOpen'⟩, ⟨temp, temp'⟩, ⟨printers, printers'⟩⟩

theorem calculateMemoryLayout_ok (generated : s.calculateMemoryLayout = .ok t) :
    let cfg := s.config
    let tmpdBase := if 0 < cfg.numConsoles then cfg.memTop - tmpdPages cfg else s.tmpdBase
    let xiosJmpTblBase := cfg.memTop - tmpdPages cfg - stackPages cfg - 1
    let withTable := s.systemData.set 7 (toByte xiosJmpTblBase)
    ∃ systemData, 0 ≤ xiosJmpTblBase ∧ xiosJmpTblBase < 256 ∧ 7 < s.systemData.length ∧
      (if cfg.sysCallStks then
        packUserStacks tmpdBase withTable (List.range (min cfg.numMemSegments 8).toNat) =
          .ok systemData
      else systemData = withTable) ∧
      t = { s with
        curBase := xiosJmpTblBase, tmpdBase := tmpdBase,
        usersysStkBase :=
          if cfg.sysCallStks then cfg.memTop - tmpdPages cfg - stackPages cfg else 0,
        xiosJmpTblBase := xiosJmpTblBase, systemData := systemData } := by
  unfold calculateMemoryLayout at generated
  by_cases consoles : 0 < s.config.numConsoles <;> by_cases many : 4 < s.config.numConsoles <;>
    by_cases withStacks : s.config.sysCallStks = true <;>
    by_cases segments : 4 < s.config.numMemSegments <;>
    simp only [tmpdPages, stackPages, consoles, many, withStacks, segments, gt_iff_lt, if_true,
      if_false, Bool.false_eq_true, Except.bind_eq_ok, setByte_ok_iff, Int.Nat.cast_ofNat_Int,
      Int.ofNat_one, Int.ofNat_zero, Int.sub_sub, Int.sub_zero, Int.reduceAdd] at generated ⊢
  all_goals
    obtain ⟨_, ⟨nonneg, small, inside, rfl⟩, systemData, stored, done⟩ := generated
    cases done
    first
      | exact ⟨_, nonneg, small, inside, stored, rfl⟩
      | cases stored; exact ⟨_, nonneg, small, inside, rfl, rfl⟩

@[simp] theorem loadAndRelocateModule_eq (curBase : Int) (module : SPRModule) :
    loadAndRelocateModule curBase module =
      (module.relocate (curBase - module.pages), curBase - module.pages, module.pages) := rfl

theorem generateResbdos_ok (generated : s.generateResbdos = .ok t) :
    let base := s.curBase - s.resbdos.pages
    let resbdos := s.resbdos.relocate base
    0 ≤ base ∧ base < 256 ∧ 8 < s.systemData.length ∧
      t = { s with
        resbdos := resbdos, curBase := base, systemData := s.systemData.set 8 (toByte base),
        resbdos009 := sliceGet resbdos.code 9 12, resbdos012 := sliceGet resbdos.code 12 18 } := by
  simp only [generateResbdos, loadAndRelocateModule_eq, Except.bind_eq_ok,
    setByte_ok_iff] at generated
  obtain ⟨_, ⟨nonneg, small, inside, rfl⟩, done⟩ := generated
  cases done
  exact ⟨nonneg, small, inside, rfl⟩

theorem generateXdos_ok (generated : s.generateXdos = .ok t) :
    let base := s.curBase - s.xdos.pages
    let xdos := s.xdos.relocate base
    let sysdatadr := storeAll s.sysdatadr [(0, 0), (1, s.config.memTop)]
    let code := sliceSet (sliceSet xdos.code 9 12 s.resbdos009) 12 14 sysdatadr
    0 ≤ base ∧ base < 256 ∧ 11 < s.systemData.length ∧ 0 ≤ s.config.memTop ∧
      s.config.memTop < 256 ∧ 2 ≤ s.sysdatadr.length ∧
      t = { s with
        xdos := { xdos with code := code }, curBase := base,
        systemData := s.systemData.set 11 (toByte base), sysdatadr := sysdatadr,
        xdos003 := sliceGet code 3 9 } := by
  simp only [generateXdos, loadAndRelocateModule_eq, Except.bind_eq_ok, setByte_ok_iff,
    setBytes_ok_iff, List.mem_cons, List.mem_singleton, List.not_mem_nil, or_false,
    forall_eq_or_imp, forall_eq] at generated
  obtain ⟨_, ⟨nonneg, small, inside, rfl⟩, _, ⟨⟨⟨-, -, -⟩, memTopNonneg, memTopSmall, two⟩, rfl⟩,
    done⟩ := generated
  cases done
  exact ⟨nonneg, small, inside, memTopNonneg, memTopSmall, two, rfl⟩

/-! ## The RSP loop -/

theorem placeRsp_ok {curBase prev : Int} {rsp placed : RSPModule} {base : Int}
    (placedOk : placeRsp curBase prev rsp = .ok (placed, base)) :
    let relocated := rsp.rsp.relocate base
    base = curBase - rsp.rsp.pages ∧ 2 ≤ rsp.rsp.code.length ∧ 0 ≤ prev ∧ prev < 65536 ∧
      placed = { rsp with
        rsp := { relocated with code := u16Set relocated.code 0 prev.toNat },
        rspBase := base * 256 } := by
  simp only [placeRsp, loadAndRelocateModule_eq, Except.bind_eq_ok, packU16_ok_iff_u16Set,
    SPRModule.length_relocate] at placedOk
  obtain ⟨_, ⟨room, nonneg, small, rfl⟩, done⟩ := placedOk
  cases done
  exact ⟨rfl, by omega, nonneg, small, rfl⟩

/-- What the RSP loop does to one RSP: it relocates it to some page and writes a link into its
first word. -/
def RspPlaced (rsp placed : RSPModule) : Prop :=
  ∃ base link : Int, 2 ≤ rsp.rsp.code.length ∧ 0 ≤ link ∧ link < 65536 ∧
    placed = { rsp with
      rsp := { rsp.rsp.relocate base with code := u16Set (rsp.rsp.relocate base).code 0 link.toNat },
      rspBase := base * 256 }

/-- The RSP loop places the RSPs downward from `cur_base` in list order and links each to the one
placed before it, the first to `prev_rsp_addr`; `rsp_link` ends as the last one's address. -/
theorem generateRspLoop_ok {curBase prev link lastBase lastPrev lastLink : Int}
    {rsps placed : List RSPModule}
    (looped : generateRspLoop curBase prev link rsps = .ok (placed, lastBase, lastPrev, lastLink)) :
    let bases := allocateDown curBase (rsps.map (·.rsp.pages))
    List.Forall₂ RspPlaced rsps placed ∧
      placed.map (·.rsp.base) = bases.map (· * 256) ∧
      placed.map (fun rsp => (u16At rsp.rsp.code 0 : Int)) = (prev :: bases.map (· * 256)).dropLast ∧
      lastBase = curBase - ((rsps.map (·.rsp.pages)).sum : Nat) ∧
      lastLink = ((bases.map (· * 256)).getLast?).getD link := by
  induction rsps generalizing curBase prev link placed with
  | nil =>
      simp only [generateRspLoop, pure, Except.pure, Except.ok.injEq, Prod.mk.injEq] at looped
      obtain ⟨rfl, rfl, -, rfl⟩ := looped
      simp
  | cons rsp rest induction =>
      simp only [generateRspLoop, Except.bind_eq_ok] at looped
      obtain ⟨⟨first, base⟩, placedOk, ⟨restPlaced, restBase, restPrev, restLink⟩, restOk, done⟩ :=
        looped
      simp only [pure, Except.pure, Except.ok.injEq, Prod.mk.injEq] at done
      obtain ⟨rfl, rfl, rfl, rfl⟩ := done
      obtain ⟨baseEq, room, nonneg, small, rfl⟩ := placeRsp_ok placedOk
      obtain ⟨restRelated, restBases, restLinks, restLast, restLinkEq⟩ := induction restOk
      have firstLink :
          (u16At (u16Set (rsp.rsp.relocate base).code 0 prev.toNat) 0 : Int) = prev := by
        rw [u16At_u16Set _ (by simp; omega) (by omega)]
        omega
      subst baseEq
      refine ⟨.cons ⟨_, prev, room, nonneg, small, rfl⟩ restRelated, ?_, ?_, ?_, ?_⟩
      · simp [restBases]
      · simp only [List.map_cons, restLinks, firstLink, allocateDown_cons]
        cases rest <;> simp
      · simp only [restLast, List.map_cons, List.sum_cons, Int.natCast_add]
        omega
      · simp only [restLinkEq, List.map_cons, allocateDown_cons, List.getLast?_cons,
          Option.getD_some]

theorem generateRsps_ok (generated : s.generateRsps = .ok t) :
    ∃ rsps curBase lastPrev rspLink,
      generateRspLoop s.curBase 0 0 s.rsps = .ok (rsps, curBase, lastPrev, rspLink) ∧
      0 ≤ curBase ∧ curBase < 256 ∧ 12 < s.systemData.length ∧
      t = { s with
        rsps := rsps, curBase := curBase, rspLink := rspLink,
        systemData := s.systemData.set 12 (toByte curBase) } := by
  simp only [generateRsps, Except.bind_eq_ok, setByte_ok_iff] at generated
  obtain ⟨⟨rsps, curBase, lastPrev, rspLink⟩, looped, _, ⟨nonneg, small, inside, rfl⟩, done⟩ :=
    generated
  cases done
  exact ⟨rsps, curBase, lastPrev, rspLink, looped, nonneg, small, inside, rfl⟩

theorem generateBnkxios_ok (generated : s.generateBnkxios = .ok t) :
    let base := s.curBase - s.bnkxios.pages
    let bnkxios := s.bnkxios.relocate base
    ∃ act, 0 ≤ base ∧ base < 256 ∧ 13 < s.systemData.length ∧ 3 ≤ s.bnkxios.code.length ∧
      actualXiosCommonBase s.config base (u16At bnkxios.code 1) = .ok act ∧
      let code := patchCommonBase bnkxios.code s.resbdos012 s.xdos003 s.sysdatadr (act - base * 256)
      t = { s with
        bnkxios := { bnkxios with code := code }, curBase := base,
        systemData := s.systemData.set 13 (toByte base), actXiosCommonBase := act,
        bnkxios000 := sliceGet code 0 256 } := by
  simp only [generateBnkxios, loadAndRelocateModule_eq, Except.bind_eq_ok, setByte_ok_iff,
    @unpackU16_sliceGet_ok_iff _ 1 _, SPRModule.length_relocate] at generated
  obtain ⟨_, ⟨nonneg, small, inside, rfl⟩, _, ⟨room, rfl⟩, act, common, done⟩ := generated
  cases done
  exact ⟨act, nonneg, small, inside, room, common, rfl⟩

theorem generateBnkbdos_ok (generated : s.generateBnkbdos = .ok t) :
    let base := s.curBase - s.bnkbdos.pages
    0 ≤ base ∧ base < 256 ∧ 14 < s.systemData.length ∧
      t = { s with
        bnkbdos := s.bnkbdos.relocate base, curBase := base,
        systemData := s.systemData.set 14 (toByte base) } := by
  simp only [generateBnkbdos, loadAndRelocateModule_eq, Except.bind_eq_ok, setByte_ok_iff]
    at generated
  obtain ⟨_, ⟨nonneg, small, inside, rfl⟩, done⟩ := generated
  cases done
  exact ⟨nonneg, small, inside, rfl⟩

theorem generateBnkxdos_ok (generated : s.generateBnkxdos = .ok t) :
    let base := s.curBase - s.bnkxdos.pages
    let bnkxdos := s.bnkxdos.relocate base
    let code := sliceSet bnkxdos.code 0 2 s.sysdatadr
    0 ≤ base ∧ base < 256 ∧ 242 < s.systemData.length ∧
      t = { s with
        bnkxdos := { bnkxdos with code := code },
        xdos := { s.xdos with code := sliceSet s.xdos.code 14 54 (sliceGet code 4 44) },
        curBase := base, systemData := s.systemData.set 242 (toByte base) } := by
  simp only [generateBnkxdos, loadAndRelocateModule_eq, Except.bind_eq_ok, setByte_ok_iff]
    at generated
  obtain ⟨_, ⟨nonneg, small, inside, rfl⟩, done⟩ := generated
  cases done
  exact ⟨nonneg, small, inside, rfl⟩

theorem generateTmp_ok (generated : s.generateTmp = .ok t) :
    let place := fun tmp : SPRModule =>
      let relocated := tmp.relocate (s.curBase - tmp.pages)
      { relocated with code := sliceSet relocated.code 0 2 s.sysdatadr }
    (∀ tmp ∈ s.tmp, 0 ≤ s.tmpdBase ∧ s.tmpdBase < 256 ∧ 0 ≤ s.curBase - tmp.pages ∧
      s.curBase - tmp.pages < 256 ∧ 247 < s.systemData.length) ∧
      t = { s with
        tmp := s.tmp.map place, curBase := s.curBase - (s.tmp.map SPRModule.pages).getD 0,
        systemData := match s.tmp with
          | none => s.systemData
          | some tmp => storeAll s.systemData [(243, s.tmpdBase), (247, s.curBase - tmp.pages)] } := by
  unfold generateTmp at generated
  split at generated
  · rename_i absent
    cases generated
    refine ⟨by simp [absent], ?_⟩
    cases s
    cases absent
    simp
  · rename_i tmp present
    simp only [loadAndRelocateModule_eq, Except.bind_eq_ok, setBytes_ok_iff, List.mem_cons,
      List.mem_singleton, List.not_mem_nil, or_false, forall_eq_or_imp, forall_eq] at generated
    obtain ⟨_, ⟨⟨⟨tmpdNonneg, tmpdSmall, -⟩, nonneg, small, inside⟩, rfl⟩, done⟩ := generated
    cases done
    refine ⟨fun module member => ?_, by simp [present]⟩
    cases present ▸ member
    exact ⟨tmpdNonneg, tmpdSmall, nonneg, small, inside⟩

theorem generateLockTable_ok (generated : s.generateLockTable = .ok t) :
    let cfg := s.config
    let curBase := s.curBase - ((cfg.totalLockedRecords + cfg.totalOpenFiles) * 10 + 255) / 256
    0 ≤ curBase ∧ curBase < 256 ∧ 193 ≤ s.systemData.length ∧
      t = { s with
        curBase := curBase, lockFreeSpace := curBase * 256,
        systemData := u16Set s.systemData 191 (curBase * 256).toNat } := by
  simp only [generateLockTable, Except.bind_eq_ok, packU16_ok_iff_u16Set] at generated
  obtain ⟨_, ⟨room, nonneg, small, rfl⟩, done⟩ := generated
  cases done
  exact ⟨by omega, by omega, room, rfl⟩

theorem generateConsoleData_ok (generated : s.generateConsoleData = .ok t) :
    let consoles := s.config.numConsoles
    (0 < consoles → 0 ≤ s.curBase - consoles ∧ s.curBase - consoles < 256 ∧
      244 < s.systemData.length) ∧
      t = { s with
        curBase := if 0 < consoles then s.curBase - consoles else s.curBase,
        consoleDatBase := if 0 < consoles then s.curBase - consoles else s.consoleDatBase,
        systemData :=
          if 0 < consoles then s.systemData.set 244 (toByte (s.curBase - consoles))
          else s.systemData } := by
  unfold generateConsoleData at generated
  split_ifs at generated with consoles
  · simp only [Except.bind_eq_ok, setByte_ok_iff] at generated
    obtain ⟨_, ⟨nonneg, small, inside, rfl⟩, done⟩ := generated
    cases done
    exact ⟨fun _ => ⟨nonneg, small, inside⟩, by simp [consoles]⟩
  · cases generated
    exact ⟨fun positive => absurd positive consoles, by simp [consoles]⟩

/-! ## The BRS loop -/

theorem placeBrs_ok {curBase brspl : Int} {rsp placed : RSPModule} {brs : SPRModule} {base : Int}
    (placedOk : placeBrs curBase brspl rsp brs = .ok (placed, base)) :
    let relocated := brs.relocate base
    base = curBase - brs.pages ∧ 4 ≤ brs.code.length ∧ 8 ≤ rsp.rsp.code.length ∧
      0 ≤ rsp.rspBase ∧ rsp.rspBase < 65536 ∧ 0 ≤ brspl ∧ brspl < 65536 ∧
      placed = { rsp with
        brs := some { relocated with
          code := u16Set (u16Set relocated.code 0 rsp.rspBase.toNat) 2 brspl.toNat },
        rsp := { rsp.rsp with code := u16Set rsp.rsp.code 6 (u16At relocated.code 2) } } := by
  simp only [placeBrs, loadAndRelocateModule_eq, Except.bind_eq_ok, packU16_ok_iff_u16Set,
    @unpackU16_sliceGet_ok_iff _ 2 _, SPRModule.length_relocate, length_u16Set,
    Int.toNat_ofNat] at placedOk
  obtain ⟨_, ⟨room, rfl⟩, _, ⟨-, baseNonneg, baseSmall, rfl⟩, _, ⟨-, linkNonneg, linkSmall, rfl⟩, _,
    ⟨rspRoom, -, -, rfl⟩, done⟩ := placedOk
  cases done
  exact ⟨rfl, room, rspRoom, baseNonneg, baseSmall, linkNonneg, linkSmall, rfl⟩

/-- What the BRS loop does to one RSP: nothing without a companion; otherwise it relocates the
companion to some page, writes the RSP's address and a link into its first two words, and moves
the companion's relocated second word into the RSP's bytes 6-7. -/
def BrsPlaced (rsp placed : RSPModule) : Prop :=
  (rsp.brs = none ∧ placed = rsp) ∨
    ∃ (brs : SPRModule) (base link : Int), rsp.brs = some brs ∧ 4 ≤ brs.code.length ∧ 8 ≤ rsp.rsp.code.length ∧
      0 ≤ rsp.rspBase ∧ rsp.rspBase < 65536 ∧ 0 ≤ link ∧ link < 65536 ∧
      placed = { rsp with
        brs := some { brs.relocate base with
          code := u16Set (u16Set (brs.relocate base).code 0 rsp.rspBase.toNat) 2 link.toNat },
        rsp := { rsp.rsp with code := u16Set rsp.rsp.code 6 (u16At (brs.relocate base).code 2) } }

/-- The BRS loop places the companions downward from `cur_base` in RSP order and links each to
the one placed before it, the first to `brspl`; it counts them and ends with the last one's page
and address. -/
theorem generateBrsLoop_ok {curBase brspl brspBase lastBase lastBrspl lastBrspBase : Int}
    {count lastCount : Nat} {rsps placed : List RSPModule}
    (looped : generateBrsLoop curBase brspl brspBase count rsps =
      .ok (placed, lastBase, lastBrspl, lastBrspBase, lastCount)) :
    let brss := rsps.filterMap (·.brs)
    let bases := allocateDown curBase (brss.map (·.pages))
    List.Forall₂ BrsPlaced rsps placed ∧
      (placed.filterMap (·.brs)).map (·.base) = bases.map (· * 256) ∧
      (placed.filterMap (·.brs)).map (fun brs => (u16At brs.code 2 : Int)) =
        (brspl :: bases.map (· * 256)).dropLast ∧
      lastBase = curBase - ((brss.map (·.pages)).sum : Nat) ∧ lastCount = count + brss.length ∧
      lastBrspl = ((bases.map (· * 256)).getLast?).getD brspl ∧
      lastBrspBase = bases.getLast?.getD brspBase := by
  induction rsps generalizing curBase brspl brspBase count placed with
  | nil =>
      simp only [generateBrsLoop, pure, Except.pure, Except.ok.injEq, Prod.mk.injEq] at looped
      obtain ⟨rfl, rfl, rfl, rfl, rfl⟩ := looped
      simp
  | cons rsp rest induction =>
      cases companion : rsp.brs with
      | none =>
          simp only [generateBrsLoop, companion, Except.bind_eq_ok] at looped
          obtain ⟨⟨restPlaced, state⟩, restOk, done⟩ := looped
          simp only [pure, Except.pure, Except.ok.injEq, Prod.mk.injEq] at done
          obtain ⟨rfl, rfl⟩ := done
          obtain ⟨restRelated, restBases, restLinks, restLast, restCount, restBrspl,
            restBrspBase⟩ :=
            induction restOk
          simp only [List.filterMap_cons_none companion]
          exact ⟨.cons (.inl ⟨companion, rfl⟩) restRelated, restBases, restLinks, restLast,
            restCount, restBrspl, restBrspBase⟩
      | some brs =>
          simp only [generateBrsLoop, companion, Except.bind_eq_ok] at looped
          obtain ⟨⟨first, base⟩, placedOk, ⟨restPlaced, state⟩, restOk, done⟩ := looped
          simp only [pure, Except.pure, Except.ok.injEq, Prod.mk.injEq] at done
          obtain ⟨rfl, rfl⟩ := done
          obtain ⟨baseEq, room, rspRoom, baseNonneg, baseSmall, linkNonneg, linkSmall, rfl⟩ :=
            placeBrs_ok placedOk
          obtain ⟨restRelated, restBases, restLinks, restLast, restCount, restBrspl,
            restBrspBase⟩ :=
            induction restOk
          have firstLink : (u16At (u16Set (u16Set (brs.relocate base).code 0 rsp.rspBase.toNat) 2
              brspl.toNat) 2 : Int) = brspl := by
            rw [u16At_u16Set _ (by simp; omega) (by omega)]
            omega
          subst baseEq
          refine ⟨.cons (.inr ⟨brs, _, brspl, companion, room, rspRoom, baseNonneg, baseSmall,
            linkNonneg, linkSmall, rfl⟩) restRelated, ?_, ?_, ?_, ?_, ?_, ?_⟩
          · simp [companion, restBases]
          · simp only [List.filterMap_cons, companion, List.map_cons, restLinks, firstLink,
              allocateDown_cons]
            cases (rest.filterMap (·.brs)) <;> simp
          · simp only [restLast, List.filterMap_cons, companion, List.map_cons, List.sum_cons,
              Int.natCast_add]
            omega
          · simp only [restCount, List.filterMap_cons, companion, List.length_cons]
            omega
          · simp only [restBrspl, List.filterMap_cons, companion, List.map_cons, allocateDown_cons,
              List.getLast?_cons, Option.getD_some]
          · simp only [restBrspBase, List.filterMap_cons, companion, List.map_cons,
              allocateDown_cons, List.getLast?_cons, Option.getD_some]

theorem generateBrss_ok (generated : s.generateBrss = .ok t) :
    ∃ rsps curBase brspl brspBase count,
      generateBrsLoop s.curBase 0 0 0 s.rsps = .ok (rsps, curBase, brspl, brspBase, count) ∧
      count < 256 ∧ 248 < s.systemData.length ∧
      (0 < count → 0 ≤ brspBase ∧ brspBase < 256 ∧ 0 ≤ brspl ∧ brspl < 65536 ∧
        252 ≤ s.systemData.length) ∧
      t = { s with
        rsps := rsps, curBase := curBase, brspl := brspl, brspBase := brspBase, nmbBrsps := count,
        systemData :=
          let counted := s.systemData.set 248 (toByte count)
          if 0 < count then u16Set (counted.set 249 (toByte brspBase)) 250 brspl.toNat
          else counted } := by
  simp only [generateBrss, Except.bind_eq_ok, setByte_ok_iff] at generated
  obtain ⟨⟨rsps, curBase, brspl, brspBase, count⟩, looped, _, ⟨-, small, inside, rfl⟩, done⟩ :=
    generated
  dsimp only at small done
  refine ⟨rsps, curBase, brspl, brspBase, count, looped, by omega, inside, ?_⟩
  split_ifs at done with some
  · simp only [Except.bind_eq_ok, setByte_ok_iff, packU16_ok_iff_u16Set, pure, Except.pure,
      Except.ok.injEq] at done
    obtain ⟨_, ⟨baseNonneg, baseSmall, -, rfl⟩, _, ⟨room, linkNonneg, linkSmall, rfl⟩, rfl⟩ := done
    exact ⟨fun _ => ⟨baseNonneg, baseSmall, linkNonneg, linkSmall, by simpa using room⟩,
      by simp [some]⟩
  · cases done
    exact ⟨fun positive => absurd positive some, by simp [some]⟩

/-- The user segment loop, started past entry 0, writes only entries 1-7 (bytes 20-47) and
keeps the length. -/
theorem fillUserSegments_frame {commonBase : Int} {indices : List Nat} {data out : List UInt8}
    {count total : Nat} (filled : fillUserSegments commonBase indices data count = .ok (out, total))
    (positive : ∀ i ∈ indices, 1 ≤ i) :
    out.length = data.length ∧ ∀ index, index < 20 ∨ 48 ≤ index → out[index]? = data[index]? := by
  induction indices generalizing data count with
  | nil =>
      cases filled
      exact ⟨rfl, fun _ _ => rfl⟩
  | cons i rest induction =>
      simp only [List.mem_cons, forall_eq_or_imp] at positive
      simp only [fillUserSegments] at filled
      split_ifs at filled with stop
      · cases filled
        exact ⟨rfl, fun _ _ => rfl⟩
      · simp only [Except.bind_eq_ok, setBytes_ok_iff] at filled
        obtain ⟨_, ⟨-, rfl⟩, looped⟩ := filled
        obtain ⟨length, frame⟩ := induction looped positive.2
        refine ⟨by rw [length, length_storeAll], fun index outside => ?_⟩
        rw [frame index outside, getElem?_storeAll_of_ne]
        simp only [List.mem_cons, List.mem_singleton, List.not_mem_nil, or_false]
        rintro _ (rfl | rfl | rfl | rfl) <;> dsimp only <;> omega

theorem setupMemorySegments_ok (generated : s.setupMemorySegments = .ok t) :
    ∃ systemData total,
      fillUserSegments s.config.commonBase (List.range' 1 s.config.numMemSegments.toNat)
        (storeAll s.systemData [(16, s.curBase), (17, 0xFF - s.curBase + 1), (18, 0x80), (19, 0)])
        1 = .ok (systemData, total) ∧
      1 ≤ s.curBase ∧ s.curBase < 256 ∧ 20 ≤ s.systemData.length ∧ total < 256 ∧
      15 < systemData.length ∧
      t = { s with systemData := systemData.set 15 (toByte total) } := by
  simp only [setupMemorySegments, Except.bind_eq_ok, setBytes_ok_iff, setByte_ok_iff,
    List.mem_cons, List.mem_singleton, List.not_mem_nil, or_false, forall_eq_or_imp,
    forall_eq] at generated
  obtain ⟨_, ⟨⟨⟨nonneg, small, -⟩, ⟨-, sizeSmall, -⟩, -, -, -, inside⟩, rfl⟩,
    ⟨systemData, total⟩, filled, _, ⟨-, totalSmall, room, rfl⟩, done⟩ := generated
  cases done
  exact ⟨systemData, total, filled, by omega, small, by omega, by omega, room, rfl⟩

theorem generateMemoryImage_ok (generated : s.generateMemoryImage = .ok t) :
    let imageBase := s.curBase * 256
    let imageSize := s.config.memTop * 256 - imageBase
    ∃ memImage, 0 ≤ imageSize ∧
      writeModules imageBase (List.replicate imageSize.toNat 0) s.modulesToWrite = .ok memImage ∧
      let xiosTblOffset := s.xiosJmpTblBase * 256 - imageBase
      t = { s with
        imageBase := imageBase,
        memImage :=
          if 0 ≤ xiosTblOffset ∧ xiosTblOffset + 256 ≤ memImage.length then
            sliceSet memImage xiosTblOffset.toNat (xiosTblOffset + 256).toNat s.bnkxios000
          else memImage } := by
  simp only [generateMemoryImage] at generated
  split_ifs at generated with negative
  · cases generated
  · simp only [Except.bind_eq_ok] at generated
    obtain ⟨_, -, memImage, written, done⟩ := generated
    cases done
    exact ⟨memImage, by omega, written, rfl⟩

theorem generateOutput_ok (generated : s.generateOutput = .ok t) :
    let recordCount := (256 + s.memImage.length + 127) / 128
    let counted := (u16Set s.systemData 120 recordCount).set 125 (toByte s.rsps.length)
    let systemData := if s.rsps ≠ [] then u16Set counted 254 s.rspLink.toNat else counted
    let paddedImage :=
      s.memImage ++ List.replicate ((-(s.memImage.length : Int)) % 128).toNat 0
    recordCount < 65536 ∧ 125 < s.systemData.length ∧ s.rsps.length < 256 ∧
      (s.rsps ≠ [] → 256 ≤ s.systemData.length ∧ 0 ≤ s.rspLink ∧ s.rspLink < 65536) ∧
      t = { s with
        systemData := systemData, output := systemData ++ reverseRecords paddedImage,
        recordCount := (systemData ++ reverseRecords paddedImage).length / 128 } := by
  simp only [generateOutput, Except.bind_eq_ok, packU16_ok_iff_u16Set, setByte_ok_iff,
    Int.toNat_ofNat] at generated
  obtain ⟨_, ⟨-, -, recordsSmall, rfl⟩, _, ⟨-, countSmall, inside, rfl⟩, done⟩ := generated
  refine ⟨by omega, by simpa using inside, by omega, ?_⟩
  split_ifs at done with some
  · simp only [Except.bind_eq_ok, packU16_ok_iff_u16Set, pure, Except.pure, Except.ok.injEq]
      at done
    obtain ⟨_, ⟨room, nonneg, small, rfl⟩, rfl⟩ := done
    exact ⟨fun _ => ⟨by simpa using room, nonneg, small⟩, by simp [some]⟩
  · cases done
    exact ⟨fun present => absurd present some, by simp [some]⟩

/-! ## What the last phases keep of the control block -/

theorem generateLockTable_frame (generated : s.generateLockTable = .ok t) :
    SameExcept [191, 192] t.systemData s.systemData := by
  obtain ⟨-, -, -, rfl⟩ := generateLockTable_ok generated
  exact sameExcept_u16Set _ _ _

theorem generateConsoleData_frame (generated : s.generateConsoleData = .ok t) :
    SameExcept [244] t.systemData s.systemData := by
  obtain ⟨-, rfl⟩ := generateConsoleData_ok generated
  dsimp only
  split_ifs
  · exact sameExcept_set _ _ _
  · exact SameExcept.refl _ _

/-- `setup_memory_segments` writes only the segment count and the segment table, bytes 15-47. -/
theorem setupMemorySegments_frame (generated : s.setupMemorySegments = .ok t) :
    SameExcept (List.range' 15 33) t.systemData s.systemData := by
  obtain ⟨systemData, total, filled, -, -, -, -, -, rfl⟩ := setupMemorySegments_ok generated
  obtain ⟨length, frame⟩ :=
    fillUserSegments_frame filled fun i member => (List.mem_range'_1.mp member).1
  have table : SameExcept (List.range' 20 28) systemData _ :=
    ⟨length, fun index outside => frame index (by simp only [List.mem_range'_1] at outside; omega)⟩
  refine ((sameExcept_set _ 15 _).trans (table.trans (sameExcept_storeAll _ _))).mono
    fun index member => ?_
  simp only [List.mem_append, List.mem_singleton, List.mem_range'_1, List.map_cons, List.map_nil,
    List.mem_cons, List.not_mem_nil, or_false] at member ⊢
  omega

theorem generateMemoryImage_systemData (generated : s.generateMemoryImage = .ok t) :
    t.systemData = s.systemData := by
  obtain ⟨_, -, -, rfl⟩ := generateMemoryImage_ok generated
  rfl

theorem generateOutput_frame (generated : s.generateOutput = .ok t) :
    SameExcept [120, 121, 125, 254, 255] t.systemData s.systemData := by
  obtain ⟨-, -, -, -, rfl⟩ := generateOutput_ok generated
  dsimp only
  split_ifs
  · exact (((sameExcept_u16Set _ 254 _).trans (sameExcept_set _ 125 _)).trans
      (sameExcept_u16Set _ 120 _)).mono (by simp)
  · exact ((sameExcept_set _ 125 _).trans (sameExcept_u16Set _ 120 _)).mono (by simp)

/-! ## When the image phases succeed -/

theorem writeModule_succeeds {memImage : List UInt8} {imageBase : Int} {module : SPRModule}
    (above : imageBase ≤ module.base)
    (inside : module.base - imageBase + module.code.length ≤ memImage.length) :
    ∃ written, writeModule memImage imageBase module = .ok written ∧
      written.1.length = memImage.length := by
  unfold writeModule
  rw [if_neg (by omega), if_neg (by omega)]
  exact ⟨_, rfl, length_sliceSet_of_fits _ _ (by omega) (by omega) (by omega)⟩

theorem writeModules_succeeds {imageBase : Int} {memImage : List UInt8} {modules : List SPRModule}
    (fits : ∀ module ∈ modules, imageBase ≤ module.base ∧
      module.base - imageBase + module.code.length ≤ memImage.length) :
    ∃ written, writeModules imageBase memImage modules = .ok written ∧
      written.length = memImage.length := by
  induction modules generalizing memImage with
  | nil => exact ⟨memImage, rfl, rfl⟩
  | cons module rest induction =>
      simp only [List.mem_cons, forall_eq_or_imp] at fits
      obtain ⟨⟨written, record⟩, wrote, length⟩ := writeModule_succeeds fits.1.1 fits.1.2
      obtain ⟨final, wroteRest, finalLength⟩ :=
        @induction written fun other member => length ▸ fits.2 other member
      exact ⟨final, by simp only [writeModules, wrote, Except.ok_bind, wroteRest],
        finalLength.trans length⟩

/-- `write_module` succeeds exactly when the module lies inside the image, and then copies its
code to its offset. -/
theorem writeModule_ok {memImage : List UInt8} {imageBase : Int} {module : SPRModule}
    {written : List UInt8 × Int} (wrote : writeModule memImage imageBase module = .ok written) :
    imageBase ≤ module.base ∧ module.base - imageBase + module.code.length ≤ memImage.length ∧
      written.1 = sliceSet memImage (module.base - imageBase).toNat
        (module.base - imageBase + module.code.length).toNat module.code := by
  unfold writeModule at wrote
  by_cases below : module.base - imageBase < 0
  · rw [if_pos below] at wrote
    cases wrote
  by_cases beyond : module.base - imageBase + module.code.length > memImage.length
  · rw [if_neg below, if_pos beyond] at wrote
    cases wrote
  rw [if_neg below, if_neg beyond] at wrote
  cases wrote
  exact ⟨by omega, by omega, rfl⟩

theorem length_writeModules {imageBase : Int} {memImage written : List UInt8}
    {modules : List SPRModule} (wrote : writeModules imageBase memImage modules = .ok written) :
    written.length = memImage.length := by
  induction modules generalizing memImage with
  | nil => cases wrote; rfl
  | cons module rest induction =>
      simp only [writeModules, Except.bind_eq_ok] at wrote
      obtain ⟨image, step, restWrote⟩ := wrote
      obtain ⟨above, inside, imageEq⟩ := writeModule_ok step
      rw [induction restWrote, imageEq, length_sliceSet_of_fits _ _ (by omega) (by omega) (by omega)]

/-- The image phase succeeds when every module to write lies between the image base and
`mem_top`; the image it builds is at most one jump-table copy longer than the range. -/
theorem generateMemoryImage_succeeds (nonneg : s.curBase * 256 ≤ s.config.memTop * 256)
    (fits : ∀ module ∈ s.modulesToWrite, s.curBase * 256 ≤ module.base ∧
      module.base - s.curBase * 256 + module.code.length ≤
        s.config.memTop * 256 - s.curBase * 256) :
    ∃ t, s.generateMemoryImage = .ok t ∧
      t.memImage.length ≤ (s.config.memTop * 256 - s.curBase * 256).toNat + s.bnkxios000.length ∧
      t.systemData = s.systemData ∧ t.rsps = s.rsps ∧ t.rspLink = s.rspLink := by
  have size : ((s.config.memTop * 256 - s.curBase * 256).toNat : Int) =
      s.config.memTop * 256 - s.curBase * 256 := Int.toNat_of_nonneg (by omega)
  have fitsImage : ∀ module ∈ s.modulesToWrite, s.curBase * 256 ≤ module.base ∧
      module.base - s.curBase * 256 + module.code.length ≤
        (List.replicate (s.config.memTop * 256 - s.curBase * 256).toNat (0 : UInt8)).length :=
    fun module member => by rw [List.length_replicate, size]; exact fits module member
  obtain ⟨memImage, wrote, length⟩ := writeModules_succeeds fitsImage
  simp only [List.length_replicate] at length
  simp only [generateMemoryImage,
    if_neg (show ¬s.config.memTop * 256 - s.curBase * 256 < 0 by omega),
    wrote, Except.ok_bind, pure_bind]
  refine ⟨_, rfl, ?_, rfl, rfl, rfl⟩
  dsimp only
  split_ifs
  · rw [length_sliceSet]
    omega
  · omega

/-- The output phase succeeds when the record count fits 16 bits, the control block reaches
the RSP count, the RSP count fits a byte and, when there are RSPs, the control block is whole and
the RSP list head fits 16 bits. -/
theorem generateOutput_succeeds (records : (256 + s.memImage.length + 127) / 128 < 65536)
    (room : 126 ≤ s.systemData.length) (rspCount : s.rsps.length < 256)
    (head : s.rsps ≠ [] → 256 ≤ s.systemData.length ∧ 0 ≤ s.rspLink ∧ s.rspLink < 65536) :
    ∃ t, s.generateOutput = .ok t := by
  have counted : packU16 s.systemData 120 ((256 + s.memImage.length + 127) / 128 : Nat) =
      .ok (u16Set s.systemData 120 ((256 + s.memImage.length + 127) / 128)) :=
    packU16_ok_iff_u16Set.mpr ⟨by omega, by omega, by omega, by rw [Int.toNat_ofNat]⟩
  have stored : setByte (u16Set s.systemData 120 ((256 + s.memImage.length + 127) / 128)) 125
      s.rsps.length = .ok ((u16Set s.systemData 120 ((256 + s.memImage.length + 127) / 128)).set
        125 (toByte s.rsps.length)) :=
    setByte_ok_iff.mpr ⟨by omega, by omega, by simp; omega, rfl⟩
  simp only [generateOutput, counted, stored, Except.ok_bind]
  split_ifs with nonempty
  · obtain ⟨whole, linkNonneg, linkSmall⟩ := head nonempty
    refine ⟨_, Except.bind_eq_ok.mpr ⟨_, packU16_ok_iff_u16Set.mpr ⟨?_, linkNonneg, linkSmall,
      rfl⟩, rfl⟩⟩
    simp only [List.length_set, length_u16Set]
    omega
  · exact ⟨_, rfl⟩

end SystemGenerator

end Mpm2Tools.Gensys
