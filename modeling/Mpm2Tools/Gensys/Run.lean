import Mpm2Tools.Gensys.Phases

/-! # A successful run of `generate`

`Run config files s` collects what a normal return of `generate` leaves in the generator: where each
region was placed, what each module's final code is in terms of its relocated code, how the RSPs
and their companions were linked, and what the control block holds. Everything is stated about
the final generator alone: a module keeps its file, sizes and base, so its relocated code can be
recomputed from it (`relocatedCode`). `generate_run` proves it by chaining the phase lemmas once;
the contracts of the generator are read off it. -/

namespace Mpm2Tools.Gensys

open Mpm2Tools

/-! ## Region sizes -/

/-- Pages of the lock table, ten bytes per locked record and open file. -/
def lockPages (config : SystemConfig) : Nat :=
  (((config.totalLockedRecords + config.totalOpenFiles) * 10 + 255) / 256).toNat

/-- Pages of the console data region, one per console. -/
def consolePages (config : SystemConfig) : Nat :=
  if 0 < config.numConsoles then config.numConsoles.toNat else 0

namespace SystemGenerator

/-- A module whose relocated code is as long as its `psize`: the file holds all of its code. -/
def CodeComplete (module : SPRModule) : Prop := module.relocatedCode.length = module.psize

/-- Pages of TMP, when it was loaded. -/
def tmpPages (s : SystemGenerator) : Nat := (s.tmp.map SPRModule.pages).getD 0

/-- The RSPs' bank-0 companions in RSP order. -/
def brsModules (s : SystemGenerator) : List SPRModule := s.rsps.filterMap (·.brs)

/-- XDOS after its own patches at bytes 9-13, before BNKXDOS's jump table is copied in: the
bytes the BNKXIOS patch copies from. -/
def xdosPatched (s : SystemGenerator) : List UInt8 :=
  sliceSet (sliceSet s.xdos.relocatedCode 9 12 (sliceGet s.resbdos.relocatedCode 9 12)) 12 14
    s.sysdatadr

/-- The bytes of an RSP's code that the loops patch: the link word, and the stack pointer word
when it has a companion. -/
def rspPatched (rsp : RSPModule) : List Nat :=
  match rsp.brs with
  | none => [0, 1]
  | some _ => [0, 1, 6, 7]

/-- An RSP and its companion as the two loops leave them: each is its relocated code with only
the patched words changed, the RSP's address is noted, and the companion points back to the RSP
and has handed its relocated stack pointer word over to it. -/
structure RspFinal (rsp : RSPModule) : Prop where
  psize_ge : 2 ≤ rsp.rsp.psize
  rspBase_eq : rsp.rspBase = rsp.rsp.base
  code : SameExcept (rspPatched rsp) rsp.rsp.code rsp.rsp.relocatedCode
  companion : ∀ brs ∈ rsp.brs, 8 ≤ rsp.rsp.psize ∧ 4 ≤ brs.psize ∧
    SameExcept [0, 1, 2, 3] brs.code brs.relocatedCode ∧ (u16At brs.code 0 : Int) = rsp.rsp.base ∧
    u16At rsp.rsp.code 6 = u16At brs.relocatedCode 2

end SystemGenerator

open SystemGenerator

/-- What placing an RSP keeps of the module loaded for it: its name, its RSP file and its
companion's file. -/
def rspFiles (rsp : RSPModule) : String × List UInt8 × Option (List UInt8) :=
  (rsp.name, rsp.rsp.file, rsp.brs.map (·.file))

/-- What a normal return of `generate config files` leaves in the generator `s`. -/
structure Run (config : SystemConfig) (files : SystemFiles) (s : SystemGenerator) : Prop where
  config_eq : s.config = config
  byteFields : ByteFields config
  /- Regions, downward from `mem_top`. -/
  tmpdBase_eq : 0 < config.numConsoles → s.tmpdBase = config.memTop - tmpdPages config
  usersysStkBase_eq :
    config.sysCallStks → s.usersysStkBase = config.memTop - tmpdPages config - stackPages config
  xiosJmpTblBase_eq :
    s.xiosJmpTblBase = config.memTop - tmpdPages config - stackPages config - 1
  resbdos_base : s.resbdos.base = (s.xiosJmpTblBase - s.resbdos.pages) * 256
  xdos_base : s.xdos.base = (s.resbdos.base / 256 - s.xdos.pages) * 256
  rsps_base : s.rsps.map (·.rsp.base) =
    (allocateDown (s.xdos.base / 256) (s.rsps.map (·.rsp.pages))).map (· * 256)
  bnkxios_base : s.bnkxios.base =
    (s.xdos.base / 256 - ((s.rsps.map (·.rsp.pages)).sum : Nat) - s.bnkxios.pages) * 256
  bnkbdos_base : s.bnkbdos.base = (s.bnkxios.base / 256 - s.bnkbdos.pages) * 256
  bnkxdos_base : s.bnkxdos.base = (s.bnkbdos.base / 256 - s.bnkxdos.pages) * 256
  tmp_isSome : s.tmp.isSome ↔ 0 < config.numConsoles
  tmp_base : ∀ tmp ∈ s.tmp, tmp.base = (s.bnkxdos.base / 256 - tmp.pages) * 256
  brss_base : (brsModules s).map (·.base) =
    (allocateDown (s.bnkxdos.base / 256 - tmpPages s) ((brsModules s).map (·.pages))).map (· * 256)
  lockFreeSpace_eq : s.lockFreeSpace = (s.bnkxdos.base / 256 - tmpPages s -
    (((brsModules s).map (·.pages)).sum : Nat) - lockPages config) * 256
  consoleDatBase_eq :
    0 < config.numConsoles → s.consoleDatBase = s.lockFreeSpace / 256 - config.numConsoles
  curBase_eq : s.curBase = s.lockFreeSpace / 256 - consolePages config
  curBase_pos : 1 ≤ s.curBase
  imageBase_eq : s.imageBase = s.curBase * 256
  /- Final code of the system modules. -/
  sysdatadr_eq : s.sysdatadr = [0, toByte config.memTop]
  resbdos_code : s.resbdos.code = s.resbdos.relocatedCode
  xdos_code : s.xdos.code = sliceSet (xdosPatched s) 14 54 (sliceGet s.bnkxdos.code 4 44)
  actXiosCommonBase_eq : actualXiosCommonBase config (s.bnkxios.base / 256)
    (u16At s.bnkxios.relocatedCode 1) = .ok s.actXiosCommonBase
  bnkxios_code : s.bnkxios.code = patchCommonBase s.bnkxios.relocatedCode
    (sliceGet s.resbdos.relocatedCode 12 18) (sliceGet (xdosPatched s) 3 9) s.sysdatadr
    (s.actXiosCommonBase - s.bnkxios.base)
  bnkxios000_eq : s.bnkxios000 = sliceGet s.bnkxios.code 0 256
  bnkbdos_code : s.bnkbdos.code = s.bnkbdos.relocatedCode
  bnkxdos_code : s.bnkxdos.code = sliceSet s.bnkxdos.relocatedCode 0 2 s.sysdatadr
  tmp_code : ∀ tmp ∈ s.tmp, tmp.code = sliceSet tmp.relocatedCode 0 2 s.sysdatadr
  codeComplete : ∀ module ∈ s.modulesToWrite, CodeComplete module
  /- The RSP list and the BRS list. -/
  rsps_loaded : ∃ loaded, loadRsps files.rsps = .ok loaded ∧
    s.rsps.map rspFiles = loaded.map rspFiles
  rsps_final : ∀ rsp ∈ s.rsps, RspFinal rsp
  rsps_link : s.rsps.map (fun rsp => (u16At rsp.rsp.code 0 : Int)) =
    (0 :: s.rsps.map (·.rsp.base)).dropLast
  rspLink_eq : s.rspLink = ((s.rsps.map (·.rsp.base)).getLast?).getD 0
  brss_link : (brsModules s).map (fun brs => (u16At brs.code 2 : Int)) =
    (0 :: (brsModules s).map (·.base)).dropLast
  brspl_eq : s.brspl = (((brsModules s).map (·.base)).getLast?).getD 0
  /- The list heads in the control block, and the output file. -/
  rspl_stored :
    s.rsps ≠ [] → 256 ≤ s.systemData.length ∧ (u16At s.systemData 254 : Int) = s.rspLink
  brspl_stored :
    brsModules s ≠ [] → 252 ≤ s.systemData.length ∧ (u16At s.systemData 250 : Int) = s.brspl
  memImage_eq : ∃ written,
    writeModules s.imageBase (List.replicate (config.memTop * 256 - s.imageBase).toNat 0)
      s.modulesToWrite = .ok written ∧
    s.memImage =
      if 0 ≤ s.xiosJmpTblBase * 256 - s.imageBase ∧
          s.xiosJmpTblBase * 256 - s.imageBase + 256 ≤ written.length then
        sliceSet written (s.xiosJmpTblBase * 256 - s.imageBase).toNat
          (s.xiosJmpTblBase * 256 - s.imageBase + 256).toNat s.bnkxios000
      else written
  output_eq : s.output = s.systemData ++
    reverseRecords (s.memImage ++ List.replicate ((-(s.memImage.length : Int)) % 128).toNat 0)

/-! ## The loops, element by element -/

theorem map_eq_map_of_forall₂ {α β γ : Type} {related : α → β → Prop} {f : α → γ} {g : β → γ}
    {left : List α} {right : List β} (both : List.Forall₂ related left right)
    (same : ∀ a b, related a b → f a = g b) : left.map f = right.map g := by
  induction both with
  | nil => rfl
  | cons head _ induction => simp [same _ _ head, induction]

namespace SystemGenerator

theorem ByteFields.lockPages_eq {config : SystemConfig} (fields : ByteFields config) :
    (lockPages config : Int) =
      ((config.totalLockedRecords + config.totalOpenFiles) * 10 + 255) / 256 := by
  have locked := fields config.totalLockedRecords (by simp)
  have opened := fields config.totalOpenFiles (by simp)
  rw [lockPages, Int.toNat_of_nonneg (by omega)]

theorem RspPlaced.pages_eq {rsp placed : RSPModule} (related : RspPlaced rsp placed) :
    placed.rsp.pages = rsp.rsp.pages := by
  obtain ⟨_, _, _, _, _, rfl⟩ := related
  rfl

theorem BrsPlaced.rsp_base_eq {rsp placed : RSPModule} (related : BrsPlaced rsp placed) :
    placed.rsp.base = rsp.rsp.base := by
  rcases related with ⟨-, rfl⟩ | ⟨_, _, _, _, _, _, _, _, _, _, rfl⟩ <;> rfl

theorem BrsPlaced.rsp_pages_eq {rsp placed : RSPModule} (related : BrsPlaced rsp placed) :
    placed.rsp.pages = rsp.rsp.pages := by
  rcases related with ⟨-, rfl⟩ | ⟨_, _, _, _, _, _, _, _, _, _, rfl⟩ <;> rfl

theorem BrsPlaced.brs_pages_eq {rsp placed : RSPModule} (related : BrsPlaced rsp placed) :
    placed.brs.map SPRModule.pages = rsp.brs.map SPRModule.pages := by
  rcases related with ⟨-, rfl⟩ | ⟨_, _, _, present, _, _, _, _, _, _, rfl⟩
  · rfl
  · simp [present, SPRModule.pages]

theorem filterMap_brs_pages {rsps placed : List RSPModule}
    (related : List.Forall₂ BrsPlaced rsps placed) :
    (placed.filterMap (·.brs)).map SPRModule.pages =
      (rsps.filterMap (·.brs)).map SPRModule.pages := by
  induction related with
  | nil => rfl
  | @cons rsp placedRsp _ _ head _ induction =>
      have same := head.brs_pages_eq
      cases companion : rsp.brs <;> cases placedCompanion : placedRsp.brs <;>
        simp_all

theorem exists_of_forall₂ {α β : Type} {related : α → β → Prop} {left : List α} {right : List β}
    (both : List.Forall₂ related left right) {b : β} (member : b ∈ right) :
    ∃ a ∈ left, related a b := by
  induction both with
  | nil => cases member
  | @cons a b' _ _ head _ induction =>
      rcases List.mem_cons.mp member with rfl | later
      · exact ⟨a, List.mem_cons_self _ _, head⟩
      · obtain ⟨a', member', related'⟩ := induction later
        exact ⟨a', List.mem_cons_of_mem _ member', related'⟩

theorem Loaded.codeComplete_relocate {module : SPRModule} (loaded : Loaded module)
    (basePage : Int) (code : List UInt8) :
    CodeComplete { module.relocate basePage with code := code } :=
  SPRModule.length_relocatedCode_relocate loaded.1 basePage

theorem codeComplete_withCode {module : SPRModule} (complete : CodeComplete module)
    (code : List UInt8) : CodeComplete { module with code := code } := complete

theorem RspPlaced.codeComplete {rsp placed : RSPModule} (related : RspPlaced rsp placed)
    (loaded : RspLoaded rsp) :
    CodeComplete placed.rsp ∧ ∀ brs ∈ placed.brs, Loaded brs := by
  obtain ⟨base, link, -, -, -, rfl⟩ := related
  exact ⟨loaded.1.codeComplete_relocate _ _, loaded.2.1⟩

theorem BrsPlaced.codeComplete {rsp placed : RSPModule} (related : BrsPlaced rsp placed)
    (complete : CodeComplete rsp.rsp ∧ ∀ brs ∈ rsp.brs, Loaded brs) :
    CodeComplete placed.rsp ∧ ∀ brs ∈ placed.brs, CodeComplete brs := by
  rcases related with ⟨absent, rfl⟩ | ⟨brs, base, link, present, -, -, -, -, -, -, rfl⟩
  · exact ⟨complete.1, by simp [absent]⟩
  · refine ⟨codeComplete_withCode complete.1 _, fun placedBrs member => ?_⟩
    cases member
    exact (complete.2 brs present).codeComplete_relocate _ _

/-- What the two loops do to one loaded RSP. -/
theorem rspFinal_of_placed {rsp middle placed : RSPModule} (loaded : RspLoaded rsp)
    (rspRelated : RspPlaced rsp middle) (brsRelated : BrsPlaced middle placed) :
    RspFinal placed := by
  obtain ⟨base, link, room, -, linkSmall, rfl⟩ := rspRelated
  have fresh := loaded.1.1
  have length := fresh.length_code
  have linked : SameExcept [0, 1] (u16Set (rsp.rsp.relocate base).code 0 link.toNat)
      (rsp.rsp.relocate base).relocatedCode := by
    rw [SPRModule.relocatedCode_relocate fresh]
    exact sameExcept_u16Set _ _ _
  rcases brsRelated with ⟨absent, rfl⟩ | ⟨brs, brsBase, brsLink, present, brsRoom, rspRoom,
    baseNonneg, baseSmall, -, brsLinkSmall, rfl⟩
  · dsimp only at absent
    refine ⟨by simp; omega, by simp, ?_, fun brs member => by simp [absent] at member⟩
    simp only [rspPatched, absent, SPRModule.relocatedCode_withCode]
    exact linked
  · dsimp only at present rspRoom baseNonneg baseSmall
    have brsFresh := (loaded.2.1 brs present).1
    have brsLength := brsFresh.length_code
    simp only [length_u16Set, SPRModule.length_relocate] at rspRoom
    refine ⟨by simp; omega, by simp, ?_, fun placedBrs member => ?_⟩
    · simp only [rspPatched, present, SPRModule.relocatedCode_withCode]
      exact (sameExcept_u16Set _ 6 _).trans linked |>.mono (by simp)
    · cases member
      simp only [SPRModule.relocatedCode_withCode]
      simp only [SPRModule.relocatedCode_relocate brsFresh, SPRModule.relocate_psize,
        SPRModule.relocate_base]
      refine ⟨by omega, by omega, ((sameExcept_u16Set _ 2 _).trans (sameExcept_u16Set _ 0 _)).mono
        (by simp), ?_, ?_⟩
      · rw [u16At_u16Set_of_disjoint _ _ (by omega), u16At_u16Set _ (by simp; omega) (by omega)]
        omega
      · rw [u16At_u16Set _ (by simp; omega) (u16At_lt _ _)]

theorem BrsPlaced.u16At_zero {rsp placed : RSPModule} (related : BrsPlaced rsp placed) :
    u16At placed.rsp.code 0 = u16At rsp.rsp.code 0 := by
  rcases related with ⟨-, rfl⟩ | ⟨_, _, _, _, _, _, _, _, _, _, rfl⟩
  · rfl
  · exact u16At_u16Set_of_disjoint _ _ (by omega)

theorem RspPlaced.rspFiles_eq {rsp placed : RSPModule} (related : RspPlaced rsp placed) :
    rspFiles placed = rspFiles rsp := by
  obtain ⟨_, _, _, _, _, rfl⟩ := related
  simp [rspFiles]

theorem BrsPlaced.rspFiles_eq {rsp placed : RSPModule} (related : BrsPlaced rsp placed) :
    rspFiles placed = rspFiles rsp := by
  rcases related with ⟨-, rfl⟩ | ⟨brs, _, _, present, _, _, _, _, _, _, rfl⟩
  · rfl
  · simp [rspFiles, present]

end SystemGenerator

/-! ## The run -/

theorem generate_run {config : SystemConfig} {files : SystemFiles} {s : SystemGenerator}
    (generated : generate config files = .ok s) : Run config files s := by
  simp only [generate, Except.bind_eq_ok] at generated
  obtain ⟨s0, loaded, s1, setup, s2, layout, s3, resbdos, s4, xdos, s5, rsps, s6, bnkxios, s7,
    bnkbdos, s8, bnkxdos, s9, tmp, s10, brss, s11, lock, s12, console, s13, segments, s14, image,
    output⟩ := generated
  obtain ⟨R, X, BI, BB, BX, T, Rs, ⟨loadedR, loadedX, loadedBI, loadedBB, loadedBX⟩, loadedT,
    tmpPresent, rsLoaded, rfl⟩ := loadModules_ok loaded
  have loadedRs := loadRsps_ok rsLoaded
  obtain ⟨fields, room, h1⟩ := setupSystemData_ok setup
  obtain ⟨stacked, tableNonneg, tableSmall, tableInside, stackTable, h2⟩ :=
    calculateMemoryLayout_ok layout
  obtain ⟨resbdosNonneg, resbdosSmall, resbdosInside, h3⟩ := generateResbdos_ok resbdos
  obtain ⟨xdosNonneg, xdosSmall, xdosInside, memTopNonneg, memTopSmall, -, h4⟩ :=
    generateXdos_ok xdos
  obtain ⟨placed, rspBottom, lastPrev, rspLink, rspLoop, rspNonneg, rspSmall, rspInside, h5⟩ :=
    generateRsps_ok rsps
  obtain ⟨act, bnkxiosNonneg, bnkxiosSmall, bnkxiosInside, bnkxiosRoom, common, h6⟩ :=
    generateBnkxios_ok bnkxios
  obtain ⟨bnkbdosNonneg, bnkbdosSmall, bnkbdosInside, h7⟩ := generateBnkbdos_ok bnkbdos
  obtain ⟨bnkxdosNonneg, bnkxdosSmall, bnkxdosInside, h8⟩ := generateBnkxdos_ok bnkxdos
  obtain ⟨tmpFits, h9⟩ := generateTmp_ok tmp
  obtain ⟨final, brsBottom, brspl, brspBase, count, brsLoop, countSmall, countInside, brsFits,
    h10⟩ :=
    generateBrss_ok brss
  obtain ⟨lockNonneg, lockSmall, lockInside, h11⟩ := generateLockTable_ok lock
  obtain ⟨consoleFits, h12⟩ := generateConsoleData_ok console
  obtain ⟨segmented, total, filled, curPos, curSmall, segmentsInside, totalSmall, totalInside,
    h13⟩ :=
    setupMemorySegments_ok segments
  obtain ⟨memImage, sizeNonneg, written, h14⟩ := generateMemoryImage_ok image
  obtain ⟨recordsSmall, outputInside, rspsSmall, headInside, h15⟩ := generateOutput_ok output
  obtain ⟨rspsRelated, rspsBase, rspsLinks, rspBottomEq, rspLinkEq⟩ := generateRspLoop_ok rspLoop
  obtain ⟨brssRelated, brssBase, brssLinks, brsBottomEq, countEq, brsplEq, brspBaseEq⟩ :=
    generateBrsLoop_ok brsLoop
  have kept : SameExcept ([120, 121, 125, 254, 255] ++ (List.range' 15 33 ++ ([244] ++ [191, 192])))
      s.systemData s10.systemData := by
    refine (generateOutput_frame output).trans ?_
    rw [generateMemoryImage_systemData image]
    exact (setupMemorySegments_frame segments).trans
      ((generateConsoleData_frame console).trans (generateLockTable_frame lock))
  clear setup layout resbdos xdos rsps bnkxios bnkbdos bnkxdos tmp brss lock console segments image
    output rspLoop brsLoop
  subst h1 h2 h3 h4 h5 h6 h7 h8 h9 h10 h11 h12 h13 h14 h15
  dsimp only [SystemGenerator.init] at rspsRelated rspsBase rspsLinks rspBottomEq rspLinkEq
  dsimp only [SystemGenerator.init] at brssRelated brssBase brssLinks brsBottomEq brsplEq brspBaseEq
  dsimp only [SystemGenerator.init] at fields
  have rspPages : final.map (·.rsp.pages) = Rs.map (·.rsp.pages) :=
    ((map_eq_map_of_forall₂ rspsRelated fun _ _ related => related.pages_eq.symm).trans
      (map_eq_map_of_forall₂ brssRelated fun _ _ related => related.rsp_pages_eq.symm)).symm
  have rspBases : final.map (·.rsp.base) = placed.map (·.rsp.base) :=
    (map_eq_map_of_forall₂ brssRelated fun _ _ related => related.rsp_base_eq.symm).symm
  have sameFiles : final.map rspFiles = Rs.map rspFiles :=
    ((map_eq_map_of_forall₂ rspsRelated fun _ _ related => related.rspFiles_eq.symm).trans
      (map_eq_map_of_forall₂ brssRelated fun _ _ related => related.rspFiles_eq.symm)).symm
  have finals : ∀ rsp ∈ final, RspFinal rsp := by
    intro rsp member
    obtain ⟨middle, middleMember, brsRelated⟩ := exists_of_forall₂ brssRelated member
    obtain ⟨loadedRsp, loadedMember, rspRelated⟩ := exists_of_forall₂ rspsRelated middleMember
    exact rspFinal_of_placed (loadedRs _ loadedMember) rspRelated brsRelated
  refine
    { config_eq := rfl
      byteFields := fields
      tmpdBase_eq := ?tmpdBase_eq
      usersysStkBase_eq := ?usersysStkBase_eq
      xiosJmpTblBase_eq := ?xiosJmpTblBase_eq
      resbdos_base := ?resbdos_base
      xdos_base := ?xdos_base
      rsps_base := ?rsps_base
      bnkxios_base := ?bnkxios_base
      bnkbdos_base := ?bnkbdos_base
      bnkxdos_base := ?bnkxdos_base
      tmp_isSome := ?tmp_isSome
      tmp_base := ?tmp_base
      brss_base := ?brss_base
      lockFreeSpace_eq := ?lockFreeSpace_eq
      consoleDatBase_eq := ?consoleDatBase_eq
      curBase_eq := ?curBase_eq
      curBase_pos := ?curBase_pos
      imageBase_eq := ?imageBase_eq
      sysdatadr_eq := ?sysdatadr_eq
      resbdos_code := ?resbdos_code
      xdos_code := ?xdos_code
      actXiosCommonBase_eq := ?actXiosCommonBase_eq
      bnkxios_code := ?bnkxios_code
      bnkxios000_eq := ?bnkxios000_eq
      bnkbdos_code := ?bnkbdos_code
      bnkxdos_code := ?bnkxdos_code
      tmp_code := ?tmp_code
      codeComplete := ?codeComplete
      rsps_loaded := ⟨Rs, rsLoaded, sameFiles⟩
      rsps_final := finals
      rsps_link := ?rsps_link
      rspLink_eq := ?rspLink_eq
      brss_link := ?brss_link
      brspl_eq := ?brspl_eq
      rspl_stored := ?rspl_stored
      brspl_stored := ?brspl_stored
      memImage_eq := ⟨memImage, written, rfl⟩
      output_eq := rfl }
  all_goals dsimp only [SystemGenerator.init]
  case tmpdBase_eq => intro consoles; simp [consoles]
  case usersysStkBase_eq => intro withStacks; simp [withStacks]
  case resbdos_base => simp
  case xdos_base => simp [SPRModule.pages]
  case rsps_base =>
    simp only [rspBases, rspsBase, rspPages, SPRModule.relocate_base_div]
  case bnkxios_base =>
    simp only [rspPages, rspBottomEq]
    simp [SPRModule.pages]
  case bnkbdos_base => simp [SPRModule.pages]
  case bnkxdos_base => simp [SPRModule.pages]
  case tmp_isSome => simpa using tmpPresent
  case tmp_base =>
    intro tmp member
    simp only [Option.mem_def, Option.map_eq_some'] at member
    obtain ⟨loadedTmp, -, rfl⟩ := member
    simp [SPRModule.pages]
  case brss_base =>
    simp only [brsModules, tmpPages, brssBase, filterMap_brs_pages brssRelated]
    simp [SPRModule.pages, Option.map_map, Function.comp_def]
    rfl
  case lockFreeSpace_eq =>
    simp only [brsModules, tmpPages, filterMap_brs_pages brssRelated, brsBottomEq,
      fields.lockPages_eq]
    simp [SPRModule.pages, Option.map_map, Function.comp_def]
    rfl
  case consoleDatBase_eq => intro consoles; simp [consoles]
  case curBase_eq =>
    by_cases consoles : 0 < config.numConsoles
    · simp only [consolePages, consoles, if_true, Int.toNat_of_nonneg (Int.le_of_lt consoles)]
      simp [consoles]
    · simp [consoles, consolePages]
  case curBase_pos => simpa using curPos
  case sysdatadr_eq => rfl
  case resbdos_code => exact (SPRModule.relocatedCode_relocate loadedR.1 _).symm
  case xdos_code =>
    simp only [xdosPatched, SPRModule.relocatedCode_withCode,
      SPRModule.relocatedCode_relocate loadedX.1, SPRModule.relocatedCode_relocate loadedR.1]
  case actXiosCommonBase_eq =>
    simp only [SPRModule.relocatedCode_withCode, SPRModule.relocatedCode_relocate loadedBI.1,
      SPRModule.relocate_base_div]
    exact common
  case bnkxios_code =>
    simp only [xdosPatched, SPRModule.relocatedCode_withCode,
      SPRModule.relocatedCode_relocate loadedBI.1, SPRModule.relocatedCode_relocate loadedX.1,
      SPRModule.relocatedCode_relocate loadedR.1]
    simp only [SPRModule.relocate_base]
  case bnkbdos_code => exact (SPRModule.relocatedCode_relocate loadedBB.1 _).symm
  case bnkxdos_code =>
    simp only [SPRModule.relocatedCode_withCode, SPRModule.relocatedCode_relocate loadedBX.1]
  case tmp_code =>
    intro tmp member
    simp only [Option.mem_def, Option.map_eq_some'] at member
    obtain ⟨loadedTmp, present, rfl⟩ := member
    simp only [SPRModule.relocatedCode_withCode,
      SPRModule.relocatedCode_relocate (loadedT _ present).1]
  case codeComplete =>
    have rsps : ∀ rsp ∈ final, CodeComplete rsp.rsp ∧ ∀ brs ∈ rsp.brs, CodeComplete brs := by
      intro rsp member
      obtain ⟨middle, middleMember, brsRelated⟩ := exists_of_forall₂ brssRelated member
      obtain ⟨loadedRsp, loadedMember, rspRelated⟩ := exists_of_forall₂ rspsRelated middleMember
      exact brsRelated.codeComplete (rspRelated.codeComplete (loadedRs _ loadedMember))
    intro module member
    simp only [modulesToWrite, List.mem_append, List.mem_cons, List.mem_map, List.mem_filterMap,
      Option.mem_toList, Option.mem_def, Option.map_eq_some', List.not_mem_nil, or_false] at member
    rcases member with ((((rfl | rfl) | ⟨rsp, member, rfl⟩) | (rfl | rfl | rfl)) |
      ⟨tmp, present, rfl⟩) | ⟨rsp, member, present⟩
    · exact loadedR.codeComplete_relocate _ _
    · exact loadedX.codeComplete_relocate _ _
    · exact (rsps rsp member).1
    · exact loadedBI.codeComplete_relocate _ _
    · exact loadedBB.codeComplete_relocate _ _
    · exact loadedBX.codeComplete_relocate _ _
    · exact (loadedT tmp present).codeComplete_relocate _ _
    · exact (rsps rsp member).2 module present
  case rsps_link =>
    have links : placed.map (fun rsp => (u16At rsp.rsp.code 0 : Int)) =
        final.map (fun rsp => (u16At rsp.rsp.code 0 : Int)) :=
      map_eq_map_of_forall₂ brssRelated fun _ _ related => by rw [related.u16At_zero]
    rw [← links, rspsLinks, ← rspsBase, rspBases]
  case rspLink_eq => rw [rspLinkEq, ← rspsBase, rspBases]
  case brss_link => rw [brsModules, brssLinks, brssBase]
  case brspl_eq => rw [brsModules, brssBase, brsplEq]
  case rspl_stored =>
    intro nonempty
    obtain ⟨room, nonneg, small⟩ := headInside nonempty
    simp only [if_pos nonempty, length_u16Set, List.length_set] at room ⊢
    exact ⟨room, u16At_u16Set_toNat _ (by simpa using room) nonneg small⟩
  case brspl_stored =>
    intro present
    have counted : 0 < count := by
      have lengths := congrArg List.length (filterMap_brs_pages brssRelated)
      simp only [List.length_map] at lengths
      rw [countEq, Nat.zero_add, ← lengths]
      exact List.length_pos.mpr (present : final.filterMap (·.brs) ≠ [])
    obtain ⟨-, -, linkNonneg, linkSmall, room⟩ := brsFits counted
    dsimp only [SystemGenerator.init] at kept
    rw [kept.1, u16At_congr (kept.2 250 (by decide)) (kept.2 251 (by decide))]
    simp only [if_pos counted, length_u16Set, List.length_set]
    exact ⟨room, u16At_u16Set_toNat _ (by simpa using room) linkNonneg linkSmall⟩

end Mpm2Tools.Gensys
