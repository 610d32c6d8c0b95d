import Mpm2Tools.Gensys.Run

/-! # The memory layout `generate` plans

The regions of a successful run, top down, as (base page, page count) pairs read off the final
generator: TMPD, the user call stacks, the XIOS jump table, the modules, the lock table and the
console data. They are exactly the downward allocation of their page counts from `mem_top`, so
the general facts about `regionsDown` give disjointness and bounds. -/

namespace Mpm2Tools.Gensys

open Mpm2Tools SystemGenerator

/-- A module's region: its base page and its page count. -/
def moduleRegion (module : SPRModule) : Int × Nat := (module.base / 256, module.pages)

/-- The regions of the final generator `s`, top down; TMPD and the console data only with
consoles, the call stacks only with `sys_call_stks`. -/
def plannedRegions (config : SystemConfig) (s : SystemGenerator) : List (Int × Nat) :=
  (if 0 < config.numConsoles then [(s.tmpdBase, tmpdPages config)] else []) ++
    (if config.sysCallStks then [(s.usersysStkBase, stackPages config)] else []) ++
    [(s.xiosJmpTblBase, 1), moduleRegion s.resbdos, moduleRegion s.xdos] ++
    s.rsps.map (fun rsp => moduleRegion rsp.rsp) ++
    [moduleRegion s.bnkxios, moduleRegion s.bnkbdos, moduleRegion s.bnkxdos] ++
    s.tmp.toList.map moduleRegion ++ (brsModules s).map moduleRegion ++
    [(s.lockFreeSpace / 256, lockPages config)] ++
    (if 0 < config.numConsoles then [(s.consoleDatBase, consolePages config)] else [])

/-! ## Stacked regions -/

/-- Regions laid out downward from page `top` to page `bottom`, each directly below the one
before it: the bases are the downward allocation of the page counts. -/
def Stacked (top bottom : Int) (regions : List (Int × Nat)) : Prop :=
  regions.map (·.1) = allocateDown top (regions.map (·.2)) ∧
    bottom = top - ((regions.map (·.2)).sum : Nat)

theorem stacked_nil (top : Int) : Stacked top top [] := by
  simp [Stacked]

theorem Stacked.cons {top base bottom : Int} {pages : Nat} {rest : List (Int × Nat)}
    (below : base = top - pages) (lower : Stacked base bottom rest) :
    Stacked top bottom ((base, pages) :: rest) := by
  obtain ⟨bases, bottomEq⟩ := lower
  subst below
  refine ⟨by simp [bases], ?_⟩
  simp only [bottomEq, List.map_cons, List.sum_cons, Int.natCast_add]
  omega

theorem Stacked.append {top middle bottom : Int} {first rest : List (Int × Nat)}
    (upper : Stacked top middle first) (lower : Stacked middle bottom rest) :
    Stacked top bottom (first ++ rest) := by
  obtain ⟨firstBases, middleEq⟩ := upper
  obtain ⟨restBases, bottomEq⟩ := lower
  subst middleEq
  refine ⟨by rw [List.map_append, List.map_append, allocateDown_append, firstBases, restBases], ?_⟩
  simp only [bottomEq, List.map_append, List.sum_append, Int.natCast_add]
  omega

/-- Modules placed by `allocateDown` from `top`, at the addresses `bases` gives. -/
theorem stacked_modules {top : Int} {modules : List SPRModule}
    (bases : modules.map (·.base) = (allocateDown top (modules.map (·.pages))).map (· * 256)) :
    Stacked top (top - ((modules.map (·.pages)).sum : Nat)) (modules.map moduleRegion) := by
  induction modules generalizing top with
  | nil => simpa using stacked_nil top
  | cons module rest induction =>
      simp only [List.map_cons, allocateDown_cons, List.cons.injEq] at bases
      have page : module.base / 256 = top - module.pages := by
        rw [bases.1, Int.mul_ediv_cancel _ (by decide)]
      have bottom : top - ((module.pages :: rest.map (·.pages)).sum : Nat) =
          module.base / 256 - ((rest.map (·.pages)).sum : Nat) := by
        simp only [page, List.sum_cons, Int.natCast_add]
        omega
      rw [List.map_cons, List.map_cons, bottom]
      exact .cons page (page ▸ induction bases.2)

/-- A region that is present only under `present`, with no pages when absent. -/
theorem stacked_optional {top base : Int} {pages : Nat} (present : Prop) [Decidable present]
    (below : present → base = top - pages) (empty : ¬ present → pages = 0) :
    Stacked top (top - pages) (if present then [(base, pages)] else []) := by
  split_ifs with holds
  · exact .cons (below holds) (by rw [below holds]; exact stacked_nil _)
  · simpa [empty holds] using stacked_nil top

/-! ## The layout of a run -/

theorem tmpdPages_of_not_pos {config : SystemConfig} (none : ¬ 0 < config.numConsoles) :
    tmpdPages config = 0 := by
  simp [tmpdPages, none]

theorem stackPages_of_not {config : SystemConfig} (none : config.sysCallStks ≠ true) :
    stackPages config = 0 := by
  simp [stackPages, none]

theorem consolePages_cast {config : SystemConfig} (consoles : 0 < config.numConsoles) :
    (consolePages config : Int) = config.numConsoles := by
  simp only [consolePages, consoles, if_true, Int.toNat_of_nonneg (Int.le_of_lt consoles)]

/-- A module placed `pages` below `top` has its region's base there. -/
theorem moduleRegion_base {top : Int} {module : SPRModule}
    (base : module.base = (top - module.pages) * 256) : module.base / 256 = top - module.pages := by
  rw [base, Int.mul_ediv_cancel _ (by decide)]

namespace Run

variable {config : SystemConfig} {files : SystemFiles} {s : SystemGenerator}

/-- The RSPs' and companions' regions, as module lists. -/
theorem stacked_rsps (run : Run config files s) :
    Stacked (s.xdos.base / 256) (s.xdos.base / 256 - ((s.rsps.map (·.rsp.pages)).sum : Nat))
      (s.rsps.map fun rsp => moduleRegion rsp.rsp) := by
  have placed := @stacked_modules _ (s.rsps.map (·.rsp))
    (by simpa only [List.map_map, Function.comp_def] using run.rsps_base)
  simpa only [List.map_map, Function.comp_def] using placed

theorem stacked_tmp (run : Run config files s) :
    Stacked (s.bnkxdos.base / 256) (s.bnkxdos.base / 256 - tmpPages s)
      (s.tmp.toList.map moduleRegion) := by
  have placed := run.tmp_base
  unfold tmpPages
  cases present : s.tmp with
  | none => simpa using stacked_nil _
  | some tmp =>
      have page := moduleRegion_base (placed tmp present)
      exact .cons page (by rw [page]; exact stacked_nil _)

/-- The regions of a run lie stacked from `mem_top` down to the final `cur_base`. -/
theorem stacked (run : Run config files s) :
    Stacked config.memTop s.curBase (plannedRegions config s) := by
  simp only [plannedRegions, List.append_assoc, List.cons_append, List.singleton_append]
  refine (stacked_optional _ run.tmpdBase_eq tmpdPages_of_not_pos).append ?_
  refine (stacked_optional _ run.usersysStkBase_eq stackPages_of_not).append ?_
  refine .cons run.xiosJmpTblBase_eq ?_
  refine .cons (moduleRegion_base run.resbdos_base) ?_
  refine .cons (moduleRegion_base run.xdos_base) ?_
  refine run.stacked_rsps.append ?_
  refine .cons (moduleRegion_base run.bnkxios_base) ?_
  refine .cons (moduleRegion_base run.bnkbdos_base) ?_
  refine .cons (moduleRegion_base run.bnkxdos_base) ?_
  refine run.stacked_tmp.append ?_
  refine (stacked_modules run.brss_base).append ?_
  refine .cons (by rw [run.lockFreeSpace_eq, Int.mul_ediv_cancel _ (by decide)]) ?_
  rw [run.curBase_eq]
  refine stacked_optional _ (fun consoles => ?_) (fun none => by simp [consolePages, none])
  rw [run.consoleDatBase_eq consoles, consolePages_cast consoles]

end Run

theorem Stacked.eq_regionsDown {top bottom : Int} {regions : List (Int × Nat)}
    (stacked : Stacked top bottom regions) : regions = regionsDown top (regions.map (·.2)) := by
  conv_lhs => rw [← List.zip_unzip regions]
  rw [regionsDown, ← stacked.1, List.unzip_fst, List.unzip_snd]

/-- Every region of a stack lies between its bottom and its top. -/
theorem Stacked.bounds {top bottom : Int} {regions : List (Int × Nat)}
    (stacked : Stacked top bottom regions) {region : Int × Nat} (member : region ∈ regions) :
    bottom ≤ region.1 ∧ region.1 + region.2 ≤ top := by
  rw [stacked.eq_regionsDown] at member
  rw [stacked.2]
  exact mem_regionsDown_bounds member

/-- Every planned region lies between the final `cur_base`, which is page 1 or higher, and
`mem_top`. -/
theorem Run.region_bounds {config : SystemConfig} {files : SystemFiles} {s : SystemGenerator}
    (run : Run config files s)
    {region : Int × Nat} (member : region ∈ plannedRegions config s) :
    s.curBase ≤ region.1 ∧ 1 ≤ region.1 ∧ region.1 + region.2 ≤ config.memTop := by
  have := run.stacked.bounds member
  have := run.curBase_pos
  omega

/-! ## The layout contract -/

/-- The regions of a successful run are stacked downward from page `mem_top` in the order of
`plannedRegions`: TMPD takes one page (two above four consoles), the call stacks one page (two
above four memory segments), the XIOS jump table one page, each module `ceil((psize + dsize) /
256)` pages, the lock table `ceil(10 * (total_locked_records + total_open_files) / 256)` pages and
the console data one page per console. The image starts at the lowest of them, the regions are
pairwise disjoint and lie in `[image_base, mem_top * 256)`. -/
theorem generate_layout {config : SystemConfig} {files : SystemFiles} {s : SystemGenerator}
    (generated : generate config files = .ok s) :
    let regions := plannedRegions config s
    regions = regionsDown config.memTop (regions.map (·.2)) ∧
      s.imageBase = (config.memTop - ((regions.map (·.2)).sum : Nat)) * 256 ∧
      (∀ i j : Nat, i ≠ j → ∀ first second : Int × Nat, regions[i]? = some first →
        regions[j]? = some second →
        first.1 + first.2 ≤ second.1 ∨ second.1 + second.2 ≤ first.1) ∧
      ∀ region ∈ regions,
        s.imageBase ≤ region.1 * 256 ∧ (region.1 + region.2) * 256 ≤ config.memTop * 256 := by
  have run := generate_run generated
  have stacked := run.stacked
  have layout := stacked.eq_regionsDown
  dsimp only
  refine ⟨layout, by rw [run.imageBase_eq, stacked.2], fun i j different first second firstAt
    secondAt => ?_, fun region member => ?_⟩
  · rw [layout] at firstAt secondAt
    rcases Nat.lt_or_gt_of_ne different with before | after
    · exact .inr (regionsDown_below before firstAt secondAt)
    · exact .inl (regionsDown_below after secondAt firstAt)
  · rw [layout] at member
    have bounds := mem_regionsDown_bounds member
    rw [run.imageBase_eq, stacked.2]
    omega

/-! ## When generate returns -/

/-- `generate` up to `setup_memory_segments`: the phases that plan the system before the image
is built. -/
def planSystem (config : SystemConfig) (files : SystemFiles) : Except PyError SystemGenerator := do
  let s ← SystemGenerator.loadModules config files
  let s ← s.setupSystemData
  let s ← s.calculateMemoryLayout
  let s ← s.generateResbdos
  let s ← s.generateXdos
  let s ← s.generateRsps
  let s ← s.generateBnkxios
  let s ← s.generateBnkbdos
  let s ← s.generateBnkxdos
  let s ← s.generateTmp
  let s ← s.generateBrss
  let s ← s.generateLockTable
  let s ← s.generateConsoleData
  s.setupMemorySegments

theorem generate_eq_planSystem (config : SystemConfig) (files : SystemFiles) :
    generate config files = planSystem config files >>= fun s =>
      s.generateMemoryImage >>= SystemGenerator.generateOutput := by
  simp only [generate, planSystem, bind_assoc]

/-- What the image and output phases need of a planned system: every module between the image
base and `mem_top`, a record count that fits 16 bits, a control block that reaches the RSP
count, an RSP count that fits a byte and, when there are RSPs, a whole control block and an RSP
list head that fits 16 bits. -/
def ImagePhasesFit (s : SystemGenerator) : Prop :=
  s.curBase * 256 ≤ s.config.memTop * 256 ∧
    (∀ module ∈ s.modulesToWrite, s.curBase * 256 ≤ module.base ∧
      module.base - s.curBase * 256 + module.code.length ≤
        s.config.memTop * 256 - s.curBase * 256) ∧
    (256 + ((s.config.memTop * 256 - s.curBase * 256).toNat + s.bnkxios000.length) + 127) / 128 <
      65536 ∧
    126 ≤ s.systemData.length ∧ s.rsps.length < 256 ∧
    (s.rsps ≠ [] → 256 ≤ s.systemData.length ∧ 0 ≤ s.rspLink ∧ s.rspLink < 65536)

instance (s : SystemGenerator) : Decidable (ImagePhasesFit s) := by
  unfold ImagePhasesFit
  infer_instance

/-- A planned system that fits the image and output phases is generated. -/
theorem generate_ok_of_plan {config : SystemConfig} {files : SystemFiles} {s : SystemGenerator}
    (planned : planSystem config files = .ok s) (fit : ImagePhasesFit s) :
    ∃ t, generate config files = .ok t := by
  obtain ⟨bases, modules, records, room, rspCount, head⟩ := fit
  obtain ⟨imaged, image, length, systemData, rsps, rspLink⟩ :=
    SystemGenerator.generateMemoryImage_succeeds bases modules
  have counted : (256 + imaged.memImage.length + 127) / 128 < 65536 := by omega
  obtain ⟨t, output⟩ := SystemGenerator.generateOutput_succeeds counted (systemData ▸ room)
    (rsps ▸ rspCount) (by rw [systemData, rsps, rspLink]; exact head)
  exact ⟨t, by rw [generate_eq_planSystem, planned, Except.ok_bind, image, Except.ok_bind, output]⟩

/-- The image and output phases keep everything planned but the image, the control block's
record count, RSP count and RSP list head, and the output. -/
theorem generate_of_planSystem {config : SystemConfig} {files : SystemFiles}
    {p s : SystemGenerator} (planned : planSystem config files = .ok p)
    (generated : generate config files = .ok s) :
    ∃ memImage systemData output recordCount, systemData.length = p.systemData.length ∧
      s = { p with
        imageBase := p.curBase * 256, memImage := memImage, systemData := systemData,
        output := output, recordCount := recordCount } := by
  rw [generate_eq_planSystem, planned, Except.ok_bind, Except.bind_eq_ok] at generated
  obtain ⟨t, image, output⟩ := generated
  obtain ⟨_, -, -, rfl⟩ := SystemGenerator.generateMemoryImage_ok image
  obtain ⟨-, -, -, -, rfl⟩ := SystemGenerator.generateOutput_ok output
  refine ⟨_, _, _, _, ?_, rfl⟩
  split_ifs <;> simp

/-! ## A sample system -/

/-- An SPR file holding `code` and the relocation bitmap `bitmap`, with no data and an otherwise
empty header. -/
def sampleSpr (name : String) (code bitmap : List UInt8) : SprFile :=
  { name := name
    data := [0, UInt8.ofNat (code.length % 256), UInt8.ofNat (code.length / 256)] ++
      List.replicate 253 0 ++ code ++ bitmap }

/-- A small system: one console, call stacks but no memory segments, no lock-table entries, and
common memory from page 0. -/
def sampleConfig : SystemConfig :=
  { memTop := 12, commonBase := 0, numConsoles := 1, numMemSegments := 0,
    totalLockedRecords := 0, totalOpenFiles := 0 }

/-- Its modules: a RESBDOS holding bytes `0xD4..0xFE`, XDOS and BNKXDOS as long as their
patches, a BNKXIOS whose relocated `JP` at byte 0 targets its own base, an empty BNKBDOS, a
two-byte TMP and one RSP with a BRS companion. -/
def sampleFiles : SystemFiles :=
  { resbdos := sampleSpr "RESBDOS" (List.replicate 255 0x20) (List.replicate 32 0)
    xdos := sampleSpr "XDOS" (List.replicate 54 0) (List.replicate 7 0)
    bnkxios := sampleSpr "BNKXIOS" ([0xC3, 0, 0] ++ List.replicate 14 0) [0x20, 0, 0]
    bnkbdos := sampleSpr "BNKBDOS" [] []
    bnkxdos := sampleSpr "BNKXDOS" (List.replicate 44 0) (List.replicate 6 0)
    tmp := sampleSpr "TMP" [0, 0] [0]
    rsps := [⟨"SAMPLE", some (sampleSpr "SAMPLE" (List.replicate 8 0) [0]),
      some (sampleSpr "SAMPLE" (List.replicate 4 0) [0])⟩] }

set_option maxRecDepth 100000 in
theorem sample_generate_ok : ∃ s, generate sampleConfig sampleFiles = .ok s := by
  have planned : (planSystem sampleConfig sampleFiles).map (fun s => decide (ImagePhasesFit s)) =
      .ok true := by decide
  obtain ⟨s, plan, fit⟩ := Except.map_eq_ok.mp planned
  exact generate_ok_of_plan plan (of_decide_eq_true fit)

theorem generate_layout_sample :
    ∃ s, generate sampleConfig sampleFiles = .ok s ∧
      let regions := plannedRegions sampleConfig s
      regions = regionsDown sampleConfig.memTop (regions.map (·.2)) ∧
        s.imageBase = (sampleConfig.memTop - ((regions.map (·.2)).sum : Nat)) * 256 ∧
        (∀ i j : Nat, i ≠ j → ∀ first second : Int × Nat, regions[i]? = some first →
        regions[j]? = some second →
          first.1 + first.2 ≤ second.1 ∨ second.1 + second.2 ≤ first.1) ∧
        ∀ region ∈ regions,
          s.imageBase ≤ region.1 * 256 ∧ (region.1 + region.2) * 256 ≤ sampleConfig.memTop * 256 :=
  let ⟨s, generated⟩ := sample_generate_ok
  ⟨s, generated, generate_layout generated⟩

/-- The sample system with nine consoles, in 24 pages. -/
def nineConsolesConfig : SystemConfig := { sampleConfig with memTop := 24, numConsoles := 9 }

set_option maxRecDepth 100000 in
/-- Nine consoles need `ceil(9 / 4) = 3` TMPD pages, the size `calculate_memory_layout` prints,
but it moves `cur_base` down by two: TMPD gets pages `mem_top - 2` and `mem_top - 1`, and the
call stacks, one page for no memory segments, take the page right below. -/
theorem generate_nine_consoles_tmpd :
    (nineConsolesConfig.numConsoles + 3) / 4 = 3 ∧
      (nineConsolesConfig.numMemSegments + 3) / 4 = 0 ∧
      ∃ s, generate nineConsolesConfig sampleFiles = .ok s ∧
        (plannedRegions nineConsolesConfig s).take 2 =
          [(nineConsolesConfig.memTop - 2, 2), (nineConsolesConfig.memTop - 3, 1)] := by
  have planned : (planSystem nineConsolesConfig sampleFiles).map (fun p =>
      decide (ImagePhasesFit p)) = .ok true := by
    decide
  obtain ⟨p, plan, fit⟩ := Except.map_eq_ok.mp planned
  obtain ⟨s, generated⟩ := generate_ok_of_plan plan (of_decide_eq_true fit)
  have run := generate_run generated
  refine ⟨rfl, rfl, s, generated, ?_⟩
  have callStacks : nineConsolesConfig.sysCallStks = true := rfl
  rw [plannedRegions, if_pos (by decide), if_pos callStacks, run.tmpdBase_eq (by decide),
    run.usersysStkBase_eq callStacks]
  rfl

end Mpm2Tools.Gensys
