import Mpm2Tools.Gensys.Output

/-! # What the boot loader loads

The file `generate` writes is meant to be read from the front by the loader: after the control
block, record `k` goes to `mem_top * 256 - 128 * (k + 1)` (`bootLoad`). Since the image is cut into
records in reverse order, this puts every byte of the image back at its own address. The law
holds when the file has the shape the loader expects: a whole 256-byte control block, and an image
that reaches `image_base`, which needs a BNKXIOS of at least 256 bytes for the jump table copy
(`Output.lean` shows what a shorter one does). The control block's record count then counts every
record of the file.

The read-back goes in layers: a flattened list of equal chunks, then `reverseRecords`, then any
file made of a control block and reversed records, then the file of a run of `generate`. -/

namespace Mpm2Tools.Gensys

open Mpm2Tools SystemGenerator

/-! ## Reading records back -/

/-- The `j`-th element of the `k`-th chunk of a list of chunks of one width. -/
theorem getElem?_flatten_of_uniform {α : Type} {width : Nat} {chunks : List (List α)}
    (uniform : ∀ chunk ∈ chunks, chunk.length = width) {k j : Nat} (inside : j < width) :
    chunks.flatten[width * k + j]? = chunks[k]?.bind (·[j]?) := by
  induction chunks generalizing k with
  | nil => simp
  | cons chunk rest induction =>
    have length : chunk.length = width := uniform chunk (List.mem_cons_self _ _)
    have rest_uniform : ∀ chunk ∈ rest, chunk.length = width :=
      fun chunk member => uniform chunk (List.mem_cons_of_mem _ member)
    cases k with
    | zero => simp [List.getElem?_append_left (show j < chunk.length by omega)]
    | succ k =>
      have shifted : width * (k + 1) + j - chunk.length = width * k + j := by
        rw [length, Nat.mul_succ]; omega
      rw [List.flatten_cons, List.getElem?_append_right (by rw [length, Nat.mul_succ]; omega),
        shifted, induction rest_uniform, List.getElem?_cons_succ]

/-- Byte `j` of record `k` of the file is byte `j` of the image's `k`-th record from the top. -/
theorem getElem?_reverseRecords {paddedImage : List UInt8} {k j : Nat}
    (record : k < paddedImage.length / 128) (inside : j < 128) :
    (reverseRecords paddedImage)[128 * k + j]? =
      paddedImage[128 * (paddedImage.length / 128 - 1 - k) + j]? := by
  have uniform : ∀ chunk ∈ (List.range (paddedImage.length / 128)).reverse.map
      (fun i => sliceGet paddedImage (i * 128) ((i + 1) * 128)), chunk.length = 128 := by
    simp only [List.mem_map, List.mem_reverse, List.mem_range]
    rintro _ ⟨i, below, rfl⟩
    simp only [length_sliceGet]
    omega
  rw [reverseRecords, List.flatMap_def, getElem?_flatten_of_uniform uniform inside,
    List.getElem?_map, List.getElem?_reverse (by simpa using record), List.length_range,
    List.getElem?_range (by omega)]
  simp only [Option.map_some', Option.some_bind, getElem?_sliceGet]
  rw [if_pos (by omega), Nat.mul_comm]

/-- A loader reading a control block and reversed records puts the padded image back just below
`mem_top`. -/
theorem bootLoad_reverseRecords (memTop : Int) {controlBlock paddedImage : List UInt8}
    (block : controlBlock.length = 256) (whole : paddedImage.length % 128 = 0) (address : Int) :
    bootLoad memTop (controlBlock ++ reverseRecords paddedImage) address =
      if memTop * 256 - paddedImage.length ≤ address ∧ address < memTop * 256 then
        paddedImage[(address - (memTop * 256 - paddedImage.length)).toNat]?
      else none := by
  have records : ((controlBlock ++ reverseRecords paddedImage).length - 256) / 128 =
      paddedImage.length / 128 := by
    rw [List.length_append, length_reverseRecords, block]
    omega
  dsimp only [bootLoad]
  rw [records]
  by_cases window : memTop * 256 - paddedImage.length ≤ address ∧ address < memTop * 256
  · rw [if_pos ⟨by omega, window.2⟩, if_pos window, List.getElem?_append_right (by omega), block,
      show ∀ k j : Nat, 256 + k + j - 256 = k + j from fun _ _ => by omega,
      getElem?_reverseRecords (by omega) (by omega)]
    congr 1
    omega
  · rw [if_neg (by omega), if_neg window]

/-! ## The file of a run -/

section Run

variable {config : SystemConfig} {files : SystemFiles} {s : SystemGenerator}

/-- With a whole control block and a BNKXIOS that fills the XIOS jump table page, the loader
loads the memory image onto `[image_base, mem_top * 256)`, byte for byte, and nothing else. -/
theorem generate_bootLoad (generated : generate config files = .ok s)
    (controlBlock : s.systemData.length = 256) (fullXios : 256 ≤ s.bnkxios.code.length)
    (address : Int) :
    bootLoad config.memTop s.output address =
      if s.imageBase ≤ address ∧ address < config.memTop * 256 then
        s.memImage[(address - s.imageBase).toNat]?
      else none := by
  have run := generate_run generated
  have imageLength := run.memImage_length
  have table := run.xiosTable_inside
  have base := run.imageBase_eq
  rw [min_eq_left fullXios] at imageLength
  have whole : (s.memImage.length : Int) = config.memTop * 256 - s.imageBase := by omega
  have noPadding : ((-(s.memImage.length : Int)) % 128).toNat = 0 := by omega
  rw [run.output_eq, noPadding, List.replicate_zero, List.append_nil,
    bootLoad_reverseRecords _ controlBlock (by omega), whole, sub_sub_cancel]

/-- The last phase of a run is `generate_output`. -/
theorem generate_output_phase (generated : generate config files = .ok s) :
    ∃ t : SystemGenerator, t.generateOutput = .ok s := by
  rw [generate_eq_planSystem, Except.bind_eq_ok] at generated
  obtain ⟨_, -, imaged⟩ := generated
  obtain ⟨t, -, output⟩ := Except.bind_eq_ok.mp imaged
  exact ⟨t, output⟩

/-- `nmb_records` at control block bytes 120-121 is the record count of the control block and the
padded image; with a whole control block it is the number of records in the file, the count
`generate` reports. -/
theorem generate_nmbRecords (generated : generate config files = .ok s) :
    u16At s.output 120 = (256 + s.memImage.length + 127) / 128 ∧
      (s.systemData.length = 256 →
        u16At s.output 120 = s.recordCount ∧ s.output.length = 128 * s.recordCount) := by
  have outputLength := (generate_run generated).output_length
  obtain ⟨t, output⟩ := generate_output_phase generated
  obtain ⟨small, room, -, -, rfl⟩ := generateOutput_ok output
  dsimp only at outputLength ⊢
  have counted : u16At ((u16Set t.systemData 120 ((256 + t.memImage.length + 127) / 128)).set 125
      (toByte t.rsps.length)) 120 = (256 + t.memImage.length + 127) / 128 := by
    rw [u16At_congr (List.getElem?_set_ne (by omega)) (List.getElem?_set_ne (by omega)),
      u16At_u16Set _ (by omega) small]
  split_ifs at outputLength ⊢
  · rw [u16At_append _ _ (by simp; omega), u16At_u16Set_of_disjoint _ _ (by omega), counted]
    exact ⟨rfl, fun controlBlock => by rw [outputLength, controlBlock]; omega⟩
  · rw [u16At_append _ _ (by simp; omega), counted]
    exact ⟨rfl, fun controlBlock => by rw [outputLength, controlBlock]; omega⟩

/-! ## The memory segment table

`setup_memory_segments` fills control block bytes 15-47, which MPMLDR reads: the number of
segments, the system segment from `cur_base` up, and one user segment per bank below common
memory, at most seven. The two phases after it write only the record count, the RSP count and the
RSP list head. -/

/-- Four stores `[(o, a), (o + 1, b), (o + 2, c), (o + 3, d)]` read back as their four bytes. -/
theorem sliceGet_storeAll_four {data : List UInt8} {offset : Nat} (a b c d : Int)
    (inside : offset + 3 < data.length) :
    sliceGet (storeAll data [(offset, a), (offset + 1, b), (offset + 2, c), (offset + 3, d)])
      offset (offset + 4) = [toByte a, toByte b, toByte c, toByte d] := by
  apply List.ext_getElem?
  intro j
  rw [getElem?_sliceGet]
  split_ifs with within
  · simp only [storeAll_cons, storeAll_nil, List.getElem?_set]
    have : j < 4 := by omega
    interval_cases j <;> simp [inside, show offset < data.length by omega,
      show offset + 1 < data.length by omega, show offset + 2 < data.length by omega]
  · exact (List.getElem?_eq_none (by simp; omega)).symm

/-- The user segment loop over banks `start, start + 1, ...`: it counts the banks below 8, writes
bank `i`'s entry at `16 + 4 * i`, and leaves every byte below the first entry in place. -/
theorem fillUserSegments_table {commonBase : Int} {start n count total : Nat}
    {data out : List UInt8} (positive : 1 ≤ start)
    (filled : fillUserSegments commonBase (List.range' start n) data count = .ok (out, total)) :
    total = count + min n (8 - start) ∧ (∀ index < 16 + 4 * start, out[index]? = data[index]?) ∧
      ∀ i, start ≤ i → i < start + min n (8 - start) →
        sliceGet out (16 + 4 * i) (20 + 4 * i) = [0, toByte commonBase, 0, toByte i] := by
  induction n generalizing start data count with
  | zero =>
    cases filled
    exact ⟨by simp, fun _ _ => rfl, fun i _ _ => by omega⟩
  | succ n induction =>
    rw [List.range'_succ] at filled
    simp only [fillUserSegments] at filled
    split_ifs at filled with stop
    · cases filled
      exact ⟨by omega, fun _ _ => rfl, fun i _ _ => by omega⟩
    · obtain ⟨stored, wrote, rest⟩ := Except.bind_eq_ok.mp filled
      obtain ⟨fits, rfl⟩ := setBytes_ok_iff.mp wrote
      obtain ⟨counted, below, table⟩ := induction (by omega) rest
      have room := (fits (16 + start * 4 + 3, start) (by simp)).2.2
      have kept : ∀ index < 16 + 4 * start, out[index]? = data[index]? := fun index small => by
        rw [below index (by omega), getElem?_storeAll_of_ne]
        simp only [List.mem_cons, List.mem_singleton, List.not_mem_nil, or_false]
        rintro _ (rfl | rfl | rfl | rfl) <;> dsimp only <;> omega
      refine ⟨by omega, kept, fun i low high => ?_⟩
      by_cases first : i = start
      · subst first
        rw [sliceGet_congr fun index _ stopBelow => below index (by omega),
          show 20 + 4 * i = 16 + i * 4 + 4 by omega, show 16 + 4 * i = 16 + i * 4 by omega,
          sliceGet_storeAll_four _ _ _ _ (by omega)]
        rfl
      · exact table i (by omega) (by omega)

/-- The last phases of a run: the segment table is set up, and the memory image and the output
phases keep the generator's base and configuration and the control block but for the record
count, the RSP count and the RSP list head. -/
theorem generate_last_phases {config : SystemConfig} {files : SystemFiles} {s : SystemGenerator}
    (generated : generate config files = .ok s) :
    ∃ q p : SystemGenerator, q.setupMemorySegments = .ok p ∧ s.curBase = p.curBase ∧
      s.config = p.config ∧ SameExcept [120, 121, 125, 254, 255] s.systemData p.systemData := by
  rw [generate_eq_planSystem, Except.bind_eq_ok] at generated
  obtain ⟨p, planned, imaged⟩ := generated
  obtain ⟨t, image, output⟩ := Except.bind_eq_ok.mp imaged
  simp only [planSystem, Except.bind_eq_ok] at planned
  obtain ⟨_, -, _, -, _, -, _, -, _, -, _, -, _, -, _, -, _, -, _, -, _, -, _, -, q, -,
    segments⟩ := planned
  have frame := generateOutput_frame output
  rw [generateMemoryImage_systemData image] at frame
  obtain ⟨_, -, -, rfl⟩ := generateMemoryImage_ok image
  obtain ⟨-, -, -, -, rfl⟩ := generateOutput_ok output
  exact ⟨q, p, segments, rfl, rfl, frame⟩

/-- When `generate` returns, the control block holds MP/M's memory segment table: the count of
segments at byte 15, the pre-allocated system segment from `cur_base` to the top of memory in bank
0 at bytes 16-19, and for each bank `i` up to `num_mem_segments` but at most 7, a user segment
from page 0 to `common_base` at bytes `16 + 4 * i` to `19 + 4 * i`. -/
theorem generate_segmentTable {config : SystemConfig} {files : SystemFiles} {s : SystemGenerator}
    (generated : generate config files = .ok s) :
    s.systemData[15]? = some (toByte (1 + min config.numMemSegments.toNat 7 : Nat)) ∧
      sliceGet s.systemData 16 20 = [toByte s.curBase, toByte (0xFF - s.curBase + 1), 0x80, 0] ∧
      ∀ i, 1 ≤ i → i ≤ min config.numMemSegments.toNat 7 →
        sliceGet s.systemData (16 + 4 * i) (20 + 4 * i) =
          [0, toByte config.commonBase, 0, toByte i] := by
  have configEq := (generate_run generated).config_eq
  obtain ⟨q, p, segments, base, sameConfig, frame⟩ := generate_last_phases generated
  obtain ⟨data, total, filled, -, -, room, -, inside, rfl⟩ := setupMemorySegments_ok segments
  obtain ⟨counted, below, table⟩ := fillUserSegments_table le_rfl filled
  have length := (fillUserSegments_frame filled fun i member => (List.mem_range'_1.mp member).1).1
  rw [length_storeAll] at length
  dsimp only at base sameConfig frame
  rw [configEq] at sameConfig
  subst sameConfig
  have table_kept : ∀ index, 15 < index → index < 48 →
      s.systemData[index]? = data[index]? := fun index low high => by
    rw [frame.2 index (by simp; omega), List.getElem?_set_ne (by omega)]
  refine ⟨?_, ?_, fun i low high => ?_⟩
  · rw [frame.2 15 (by simp), List.getElem?_set_self (by omega), counted]
  · rw [sliceGet_congr fun index above stop => (table_kept index (by omega) (by omega)).trans
      (below index (by omega)), base, show (20 : Nat) = 16 + 4 by rfl,
      sliceGet_storeAll_four _ _ _ _ (by omega)]
    rfl
  · rw [sliceGet_congr fun index above stop => table_kept index (by omega) (by omega),
      table i low (by omega)]

/-! ## A system of the loader's shape -/

/-- The sample system with a whole 256-byte BNKXIOS, its `JP` at byte 0 relocated as before. -/
def fullXiosFiles : SystemFiles :=
  { sampleFiles with
    bnkxios := sampleSpr "BNKXIOS" ([0xC3, 0, 0] ++ List.replicate 253 0)
      ([0x20] ++ List.replicate 31 0) }

set_option maxRecDepth 100000 in
theorem generate_fullXios :
    ∃ s, generate sampleConfig fullXiosFiles = .ok s ∧ s.systemData.length = 256 ∧
      s.bnkxios.code.length = 256 := by
  have planned : (planSystem sampleConfig fullXiosFiles).map (fun p => decide (ImagePhasesFit p ∧
      p.systemData.length = 256 ∧ p.bnkxios.code.length = 256)) = .ok true := by
    decide
  obtain ⟨p, plan, fit⟩ := Except.map_eq_ok.mp planned
  obtain ⟨fits, block, xios⟩ := of_decide_eq_true fit
  obtain ⟨s, generated⟩ := generate_ok_of_plan plan fits
  obtain ⟨memImage, systemData, output, recordCount, sameLength, rfl⟩ :=
    generate_of_planSystem plan generated
  exact ⟨_, generated, sameLength.trans block, xios⟩

theorem fullXios_bootLoad :
    ∃ s, generate sampleConfig fullXiosFiles = .ok s ∧ s.systemData.length = 256 ∧
      256 ≤ s.bnkxios.code.length ∧ ∀ address, bootLoad sampleConfig.memTop s.output address =
        if s.imageBase ≤ address ∧ address < sampleConfig.memTop * 256 then
          s.memImage[(address - s.imageBase).toNat]?
        else none := by
  obtain ⟨s, generated, block, xios⟩ := generate_fullXios
  exact ⟨s, generated, block, xios.ge, generate_bootLoad generated block xios.ge⟩

theorem fullXios_segmentTable :
    ∃ s, generate sampleConfig fullXiosFiles = .ok s ∧
      s.systemData[15]? = some (toByte (1 + min sampleConfig.numMemSegments.toNat 7 : Nat)) ∧
      sliceGet s.systemData 16 20 = [toByte s.curBase, toByte (0xFF - s.curBase + 1), 0x80, 0] ∧
      ∀ i, 1 ≤ i → i ≤ min sampleConfig.numMemSegments.toNat 7 →
        sliceGet s.systemData (16 + 4 * i) (20 + 4 * i) =
          [0, toByte sampleConfig.commonBase, 0, toByte i] := by
  obtain ⟨s, generated, -, -⟩ := generate_fullXios
  exact ⟨s, generated, generate_segmentTable generated⟩

theorem fullXios_nmbRecords :
    ∃ s, generate sampleConfig fullXiosFiles = .ok s ∧ s.systemData.length = 256 ∧
      u16At s.output 120 = s.recordCount ∧ s.output.length = 128 * s.recordCount := by
  obtain ⟨s, generated, block, -⟩ := generate_fullXios
  exact ⟨s, generated, block, (generate_nmbRecords generated).2 block⟩

end Run

end Mpm2Tools.Gensys
