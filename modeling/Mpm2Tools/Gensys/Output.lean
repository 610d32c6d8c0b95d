import Mpm2Tools.Gensys.ProcessLists

/-! # The output file

`generate` writes the control block, then the memory image from `image_base` up to `mem_top`,
padded to whole 128-byte records and cut into records in reverse order. The boot loader reads
the file from the front: the control block, then record `k` to `mem_top * 256 - 128 * (k + 1)`,
so the image lands downward from `mem_top` (`bootLoad`).

Two slice assignments can change the shape of what it loads. The XIOS jump table is copied into
the image as BNKXIOS's first 256 bytes: a BNKXIOS shorter than 256 bytes shrinks the image, and
the records no longer reach down to `image_base`. And `setup_system_data` copies RESBDOS bytes
`0xD4..0xFE` into the control block: a RESBDOS shorter than 255 bytes shrinks the control block.
The BNKXIOS patch at its common base is guarded only by `c + 17 <= len(code)`: a common base
below the module makes `c` negative, the guard holds, and the patches are inserted in front of
the code, which grows. -/

namespace Mpm2Tools.Gensys

open Mpm2Tools SystemGenerator

/-- The boot loader: after the 256-byte control block, the `k`-th 128-byte record of `file` is
loaded to `mem_top * 256 - 128 * (k + 1)`. The byte it leaves at `address`, when some whole
record of the file covers that address. -/
def bootLoad (memTop : Int) (file : List UInt8) (address : Int) : Option UInt8 :=
  let records := (file.length - 256) / 128
  if memTop * 256 - 128 * records ≤ address ∧ address < memTop * 256 then
    let below := (memTop * 256 - 1 - address).toNat
    file[256 + 128 * (below / 128) + (127 - below % 128)]?
  else none

/-! ## Lengths -/

theorem length_reverseRecords (paddedImage : List UInt8) :
    (reverseRecords paddedImage).length = paddedImage.length / 128 * 128 := by
  have records : ∀ i ∈ (List.range (paddedImage.length / 128)).reverse,
      (List.length ∘ fun i => sliceGet paddedImage (i * 128) ((i + 1) * 128)) i = 128 := by
    intro i member
    simp only [List.mem_reverse, List.mem_range] at member
    simp only [Function.comp_apply, length_sliceGet]
    omega
  rw [reverseRecords, List.length_flatMap, List.map_congr_left records, List.map_const',
    List.sum_replicate, List.length_reverse, List.length_range, smul_eq_mul]

namespace Run

variable {config : SystemConfig} {files : SystemFiles} {s : SystemGenerator}

/-- The output is the control block and the image padded to whole records. -/
theorem output_length (run : Run config files s) :
    s.output.length = s.systemData.length + (s.memImage.length + 127) / 128 * 128 := by
  rw [run.output_eq, List.length_append, length_reverseRecords, List.length_append,
    List.length_replicate]
  omega

/-- The XIOS jump table page lies inside the image. -/
theorem xiosTable_inside (run : Run config files s) :
    0 ≤ s.xiosJmpTblBase * 256 - s.imageBase ∧
      s.xiosJmpTblBase * 256 - s.imageBase + 256 ≤ config.memTop * 256 - s.imageBase := by
  have member : (s.xiosJmpTblBase, 1) ∈ plannedRegions config s :=
    List.mem_append_left _ <| List.mem_append_left _ <| List.mem_append_left _ <|
    List.mem_append_left _ <| List.mem_append_left _ <| List.mem_append_left _ <|
    List.mem_append_right _ <| List.mem_cons_self _ _
  have table := run.region_bounds member
  have := run.imageBase_eq
  dsimp only at table
  omega

/-- The image is as long as `[image_base, mem_top * 256)` with the XIOS jump table page
replaced by BNKXIOS's first 256 bytes, however many there are. -/
theorem memImage_length (run : Run config files s) :
    s.memImage.length + 256 =
      (config.memTop * 256 - s.imageBase).toNat + min 256 s.bnkxios.code.length := by
  obtain ⟨written, wrote, memImageEq⟩ := run.memImage_eq
  have writtenLength := length_writeModules wrote
  rw [List.length_replicate] at writtenLength
  have table := run.xiosTable_inside
  rw [memImageEq, if_pos ⟨table.1, by omega⟩, length_sliceSet, run.bnkxios000_eq,
    length_sliceGet]
  omega

end Run

/-! ## Where the shape changes -/

set_option maxRecDepth 100000 in
/-- The sample system has a 17-byte BNKXIOS. Its jump table copy shrinks the image by 239 bytes,
so the file's records stop short of `image_base`: the boot loader loads nothing there. -/
theorem generate_sample_image_short :
    ∃ s, generate sampleConfig sampleFiles = .ok s ∧ s.bnkxios.code.length = 17 ∧
      s.memImage.length + (256 - 17) = (sampleConfig.memTop * 256 - s.imageBase).toNat ∧
      bootLoad sampleConfig.memTop s.output s.imageBase = none := by
  have planned : (planSystem sampleConfig sampleFiles).map (fun p => decide (ImagePhasesFit p ∧
      p.bnkxios.code.length = 17 ∧ p.curBase = 1 ∧ p.systemData.length = 256)) = .ok true := by
    decide
  obtain ⟨p, plan, fit⟩ := Except.map_eq_ok.mp planned
  obtain ⟨fits, short, bottom, whole⟩ := of_decide_eq_true fit
  obtain ⟨s, generated⟩ := generate_ok_of_plan plan fits
  have run := generate_run generated
  obtain ⟨memImage, systemData, output, recordCount, sameLength, rfl⟩ :=
    generate_of_planSystem plan generated
  have imageLength := run.memImage_length
  have outputLength := run.output_length
  have top : sampleConfig.memTop = 12 := rfl
  dsimp only at imageLength outputLength
  rw [short, bottom, top] at imageLength
  refine ⟨_, generated, short, ?_, ?_⟩
  · dsimp only
    rw [bottom, top]
    omega
  · dsimp only
    rw [bootLoad, if_neg]
    rw [outputLength, bottom, top]
    omega

/-- The sample system with a 254-byte RESBDOS and no RSPs. -/
def shortResbdosFiles : SystemFiles :=
  { sampleFiles with
    resbdos := sampleSpr "RESBDOS" (List.replicate 254 0x20) (List.replicate 32 0), rsps := [] }

set_option maxRecDepth 100000 in
/-- A 254-byte RESBDOS holds five of the six serial number bytes: the slice assignment at control
block offsets 181-186 takes five bytes, the control block ends one byte short, and the run still
returns normally. -/
theorem generate_short_resbdos_control_block :
    ∃ s, generate sampleConfig shortResbdosFiles = .ok s ∧ s.resbdos.psize = 254 ∧
      s.systemData.length = 255 := by
  have planned : (planSystem sampleConfig shortResbdosFiles).map (fun p =>
      decide (ImagePhasesFit p ∧ p.resbdos.psize = 254 ∧ p.systemData.length = 255)) =
        .ok true := by
    decide
  obtain ⟨p, plan, fit⟩ := Except.map_eq_ok.mp planned
  obtain ⟨fits, size, short⟩ := of_decide_eq_true fit
  obtain ⟨s, generated⟩ := generate_ok_of_plan plan fits
  obtain ⟨memImage, systemData, output, recordCount, sameLength, rfl⟩ :=
    generate_of_planSystem plan generated
  exact ⟨_, generated, size, sameLength.trans short⟩

/-- With a common base more than the patched code's length below BNKXIOS, every patch bound
counts back past the start of the code: the guard `c + 17 <= len(code)` holds, each slice
clamps to `[0:0]`, and the three patches are inserted in front of the code, the last one first. -/
theorem patchCommonBase_of_below {code resbdos012 xdos003 sysdatadr : List UInt8} {offset : Int}
    (below : offset + 17 + code.length + resbdos012.length + xdos003.length ≤ 0) :
    patchCommonBase code resbdos012 xdos003 sysdatadr offset =
      sysdatadr ++ xdos003 ++ resbdos012 ++ code := by
  have first : pySliceSet code (offset + 3) (offset + 9) resbdos012 = resbdos012 ++ code :=
    pySliceSet_of_before _ _ (by omega) (by omega)
  have second : pySliceSet (resbdos012 ++ code) (offset + 9) (offset + 15) xdos003 =
      xdos003 ++ (resbdos012 ++ code) :=
    pySliceSet_of_before _ _ (by push_cast [List.length_append]; omega)
      (by push_cast [List.length_append]; omega)
  have third : pySliceSet (xdos003 ++ (resbdos012 ++ code)) (offset + 15) (offset + 17)
      sysdatadr = sysdatadr ++ (xdos003 ++ (resbdos012 ++ code)) :=
    pySliceSet_of_before _ _ (by push_cast [List.length_append]; omega)
      (by push_cast [List.length_append]; omega)
  rw [patchCommonBase, if_pos (by omega)]
  dsimp only
  rw [first, second, third]
  simp only [List.append_assoc]

/-- The sample system with a 250-byte BNKXIOS whose `JP` at byte 0 is left unrelocated: it
targets address 0, below the module. -/
def slipXiosFiles : SystemFiles :=
  { sampleFiles with
    bnkxios := sampleSpr "BNKXIOS" ([0xC3, 0, 0] ++ List.replicate 247 0) (List.replicate 32 0) }

set_option maxRecDepth 100000 in
/-- A BNKXIOS whose common base lies below it: with `common_base` 0 the target is accepted, the
offset `c` is negative, `c + 17 <= len(code)` holds, and the patches land in front of the code.
`generate` returns normally with BNKXIOS 14 bytes longer than its `psize`, past the end of its
one-page region. -/
theorem generate_grows_bnkxios :
    ∃ s, generate sampleConfig slipXiosFiles = .ok s ∧ s.actXiosCommonBase < s.bnkxios.base ∧
      s.bnkxios.code = s.sysdatadr ++ sliceGet (xdosPatched s) 3 9 ++
        sliceGet s.resbdos.relocatedCode 12 18 ++ s.bnkxios.relocatedCode ∧
      s.bnkxios.code.length = s.bnkxios.psize + 14 ∧
      s.bnkxios.pages * 256 < s.bnkxios.code.length := by
  have planned : (planSystem sampleConfig slipXiosFiles).map (fun p => decide (ImagePhasesFit p ∧
      p.actXiosCommonBase - p.bnkxios.base + 29 + p.bnkxios.relocatedCode.length ≤ 0 ∧
      p.bnkxios.code.length = p.bnkxios.psize + 14 ∧
      p.bnkxios.pages * 256 < p.bnkxios.code.length)) = .ok true := by
    decide
  obtain ⟨p, plan, fit⟩ := Except.map_eq_ok.mp planned
  obtain ⟨fits, below, grown, overflows⟩ := of_decide_eq_true fit
  obtain ⟨s, generated⟩ := generate_ok_of_plan plan fits
  have patched := (generate_run generated).bnkxios_code
  obtain ⟨memImage, systemData, output, recordCount, -, rfl⟩ :=
    generate_of_planSystem plan generated
  rw [patchCommonBase_of_below (by simp only [length_sliceGet]; omega)] at patched
  exact ⟨_, generated, show p.actXiosCommonBase < p.bnkxios.base by omega, patched, grown,
    overflows⟩

end Mpm2Tools.Gensys
