import Mpm2Tools.DriPatch.Args

/-! # `post_build_mpmldr` of `build.py`

MPMLDR is linked from its own sources and then given DRI's loader BDOS. `post_build_mpmldr` cuts
LDRBDOS once from DRI's `MPMLDR.COM`, the file offsets `[0xC00, 0x1680)` that load at `0xD00`,
keeps the linked loader as `.linked`, and runs `dri_patch.py` with the linked loader as the base at
`0x100` and LDRBDOS as a patch at `0xD00`, writing the result over the linked loader. Files are a
function from names to bytes, as for `dri_patch.py`.

The combined loader holds DRI's bytes in LDRBDOS's window, at the file offsets they have in DRI's
`MPMLDR.COM`, and the linked loader's bytes everywhere else, with zeros between a short linked
loader and the window. -/

namespace Mpm2Tools.Build

open Mpm2Tools DriPatch

/-- `ldrbdos_offset = 0xD00 - 0x100`: LDRBDOS loads at `0xD00`, the file at `0x100`. -/
def ldrbdosOffset : Nat := 0xD00 - 0x100

/-- `ldrbdos_size = 0xA80`. -/
def ldrbdosSize : Nat := 0xA80

/-- `data[ldrbdos_offset:ldrbdos_offset + ldrbdos_size]`. -/
def extractLdrbdos (data : List UInt8) : List UInt8 :=
  sliceGet data ldrbdosOffset (ldrbdosOffset + ldrbdosSize)

/-- The paths `post_build_mpmldr` reads and writes. -/
structure MpmldrPaths where
  /-- `output_file`: the linked loader, replaced by the combined one. -/
  outputFile : List Char
  /-- `output_file.with_suffix('.linked')`. -/
  linkedOutput : List Char
  /-- `LDRBDOS_BIN`. -/
  ldrbdosBin : List Char
  /-- `DRI_MPMLDR`. -/
  driMpmldr : List Char
  deriving DecidableEq, Repr

/-- The command line `post_build_mpmldr` gives `dri_patch.py`:
`--base LINKED@0x100 --patch 0xD00:LDRBDOS_BIN -o OUTPUT_FILE`, the rest at their defaults. -/
def mpmldrCommand (paths : MpmldrPaths) : RawArgs where
  output := some paths.outputFile
  base := some (paths.linkedOutput ++ "@0x100".toList)
  hex := []
  patch := ["0xD00:".toList ++ paths.ldrbdosBin]
  copy := []
  size := none
  start := "0".toList
  fill := "0".toList
  extract := none
  info := false
  overflow := .error
  hexOutput := false
  input := []

/-- A file written whole. -/
def writeFile (files : Files) (path : List Char) (data : List UInt8) : Files :=
  fun name => if name = path then some data else files name

/-- `if not LDRBDOS_BIN.exists()`: LDRBDOS cut from `DRI_MPMLDR` into `LDRBDOS_BIN`; `none` when
neither exists. -/
def withLdrbdos (paths : MpmldrPaths) (files : Files) : Option Files :=
  match files paths.ldrbdosBin with
  | some _ => some files
  | none => (files paths.driMpmldr).map fun dri =>
      writeFile files paths.ldrbdosBin (extractLdrbdos dri)

/-- `post_build_mpmldr(output_file)`: the files it leaves, `none` where it returns `False` or
raises. `dri_patch.py` writes its output only when `main` returns 0. -/
def postBuildMpmldr (paths : MpmldrPaths) (files : Files) : Option Files := do
  let files ← withLdrbdos paths files
  let linked ← files paths.outputFile
  let files := writeFile files paths.linkedOutput linked
  match main files (mpmldrCommand paths) with
  | .ok (.built (.binary data)) => pure (writeFile files paths.outputFile data)
  | _ => none

/-- The loader `post_build_mpmldr` is meant to leave: DRI's bytes at LDRBDOS's file offsets
`[0xC00, 0x1680)`, the linked loader's bytes elsewhere, zeros where neither reaches, as long as
the longer of the two. -/
def combinedLoader (linked dri : List UInt8) : List UInt8 :=
  (List.range (max linked.length 0x1680)).map fun i =>
    if 0xC00 ≤ i ∧ i < 0x1680 then dri.getD i 0 else linked.getD i 0

/-! ## The arguments `main` reads -/

/-- The build `main` runs for `mpmldrCommand`: the linked loader as the base at `0x100`, LDRBDOS
as a patch at `0xD00`, the default window and fill. -/
def mpmldrArgs (linked ldrbdos : List UInt8) : BuildArgs :=
  ⟨some ⟨linked, 0x100⟩, [], [(0xD00, ldrbdos)], [], [], none, none, 0, .error, false⟩

@[simp] theorem writeFile_same (files : Files) (path : List Char) (data : List UInt8) :
    writeFile files path data path = some data := if_pos rfl

theorem writeFile_other (files : Files) {path name : List Char} (data : List UInt8)
    (other : name ≠ path) : writeFile files path data name = files name := if_neg other

theorem resolveBaseArg_some (files : Files) {spec : List Char} (nonempty : spec ≠ []) :
    resolveBaseArg files (some spec) = some <$> resolveBase files spec := by
  obtain ⟨c, rest, rfl⟩ := List.exists_cons_of_ne_nil nonempty
  rfl

theorem resolveArgs_mpmldrCommand {paths : MpmldrPaths} {files : Files}
    {linked ldrbdos : List UInt8} (base : files paths.linkedOutput = some linked)
    (patch : files paths.ldrbdosBin = some ldrbdos) :
    resolveArgs files (mpmldrCommand paths) = .ok (mpmldrArgs linked ldrbdos) := by
  have baseRead : resolveBase files (paths.linkedOutput ++ "@0x100".toList) = .ok ⟨linked, 0x100⟩ := by
    have spec : parseBaseSpec (paths.linkedOutput ++ '@' :: "0x100".toList) =
        .ok (paths.linkedOutput, 0x100) := by
      rw [parseBaseSpec, splitLast_append_cons (by decide)]
      exact congrArg (fun offset => Except.ok (paths.linkedOutput, offset))
        (Except.ok.inj (by decide : parseHexAddress "0x100".toList = .ok 0x100))
    rw [resolveBase, show "@0x100".toList = '@' :: "0x100".toList from rfl, spec]
    simp only [Except.mapError, Except.ok_bind, base]
    rfl
  have patchRead : resolvePatch files ("0xD00:".toList ++ paths.ldrbdosBin) = .ok (0xD00, ldrbdos) := by
    have spec : parsePatchSpec ("0xD00".toList ++ ':' :: paths.ldrbdosBin) =
        some (0xD00, paths.ldrbdosBin) := by
      rw [parsePatchSpec, splitFirst_append_cons (by decide)]
      rfl
    rw [resolvePatch, show "0xD00:".toList ++ paths.ldrbdosBin = "0xD00".toList ++ ':' :: paths.ldrbdosBin
      from rfl, spec]
    simp only [patch]
    rfl
  have named : paths.linkedOutput ++ "@0x100".toList ≠ [] := by simp
  simp only [resolveArgs, mpmldrCommand, resolveBaseArg_some files named, baseRead, patchRead,
    List.mapM_nil, List.mapM_cons, show resolveStart "0".toList = .ok none from rfl,
    show parseHexAddress "0".toList = .ok 0 by decide]
  rfl

/-! ## The build -/

/-- A binary build with the default window and a fill byte succeeds once its loops have laid some
data: it writes the layers' image from their least bound to their greatest. -/
theorem buildMode_of_defaultWindow {args : BuildArgs} {state : BuildState} {layers : List Layer}
    (start : args.start = none) (size : args.size = none) (fill : 0 ≤ args.fill ∧ args.fill < 256)
    (binary : args.hexOutput = false) (combined : args.combine = .ok state)
    (represents : state.Represents layers) (nonempty : state.combined ≠ []) {lo hi : Int}
    (least : (layers.map Layer.minAddr).min? = some lo)
    (greatest : (layers.map Layer.maxAddr).max? = some hi) :
    buildMode args = .ok (.binary ((List.range (hi - lo + 1).toNat).map fun (i : Nat) =>
      (image layers (lo + i)).getD (toByte args.fill))) := by
  have startAddr : args.startAddr state = lo := by
    simp [BuildArgs.startAddr, start, represents.globalMin_eq, least]
  have outputSize : args.outputSize state = hi - lo + 1 := by
    simp [BuildArgs.outputSize, size, startAddr, represents.globalMax_eq, greatest]
  have inside : args.checkRange state = .ok () := by
    unfold BuildArgs.checkRange
    split_ifs
    · rw [List.find?_eq_none.mpr fun addr member => ?_]
      · rfl
      obtain ⟨lo', hi', least', greatest', low, high⟩ := represents.within member
      rw [represents.globalMin_eq, least, Option.some_inj] at least'
      rw [represents.globalMax_eq, greatest, Option.some_inj] at greatest'
      simp only [startAddr, outputSize, decide_eq_true_eq]
      omega
    · rfl
  rw [buildMode, combined, Except.ok_bind, BuildArgs.write, if_neg nonempty, inside, Except.ok_bind,
    BuildArgs.output, if_neg (by simp [binary]), dictToBinary_eq represents.nodup, if_neg (by omega)]
  simp only [windowBytes, startAddr, outputSize, represents.lookup_eq]
  rfl

theorem length_extractLdrbdos {dri : List UInt8} (full : 0x1680 ≤ dri.length) :
    (extractLdrbdos dri).length = 0xA80 :=
  sliceGet_of_le dri (by simpa [ldrbdosOffset, ldrbdosSize] using full)

theorem getElem?_extractLdrbdos (dri : List UInt8) {index : Nat} (inside : index < 0xA80) :
    (extractLdrbdos dri)[index]? = dri[0xC00 + index]? := by
  rw [extractLdrbdos, getElem?_sliceGet, if_pos (by simpa [ldrbdosOffset, ldrbdosSize] using inside)]
  rfl

/-- A binary load holds each byte of the file at its offset from the load address. -/
theorem lookup_loadBinary (data : List UInt8) (offset addr : Int) :
    (loadBinary data offset).dict.lookup addr =
      if offset ≤ addr then data[(addr - offset).toNat]? else none := by
  rw [loadBinary, lookup_storeFrom]
  split_ifs with inside below
  · rfl
  · omega
  · exact (List.getElem?_eq_none (by omega)).symm
  · rfl

/-- The two layers at the file offset `i`: DRI's byte in LDRBDOS's window, else the linked
loader's. -/
theorem image_mpmldrLayers (linked : List UInt8) {dri : List UInt8} (full : 0x1680 ≤ dri.length)
    (i : Nat) :
    image [loadBinary linked 0x100, loadBinary (extractLdrbdos dri) 0xD00] (0x100 + i) =
      if 0xC00 ≤ i ∧ i < 0x1680 then dri[i]? else linked[i]? := by
  have ldrbdosLength := length_extractLdrbdos full
  simp only [image, List.foldl_cons, List.foldl_nil, Option.or_none, lookup_loadBinary,
    if_pos (by omega : (0x100 : Int) ≤ 0x100 + i), show (0x100 + (i : Int) - 0x100).toNat = i by omega]
  split_ifs with below window window
  · have index : (0x100 + (i : Int) - 0xD00).toNat = i - 0xC00 := by omega
    rw [index, getElem?_extractLdrbdos dri (by omega), show 0xC00 + (i - 0xC00) = i by omega,
      List.getElem?_eq_getElem (by omega)]
    rfl
  · rw [List.getElem?_eq_none (by omega), Option.none_or]
  · omega
  · rw [Option.none_or]

/-- The two layers: the linked loader, which does not read as Intel HEX, as binary at `0x100`,
and LDRBDOS at `0xD00`. -/
theorem layers_mpmldrArgs {linked : List UInt8} (notHex : ∃ e, loadIntelHex linked = .error e)
    (ldrbdos : List UInt8) :
    (mpmldrArgs linked ldrbdos).layers = .ok [loadBinary linked 0x100, loadBinary ldrbdos 0xD00] := by
  obtain ⟨e, failed⟩ := notHex
  simp [BuildArgs.layers, mpmldrArgs, loadBase, failed]
  rfl

theorem combine_mpmldrArgs (linked ldrbdos : List UInt8) :
    ∃ state, (mpmldrArgs linked ldrbdos).combine = .ok state :=
  ⟨_, Eq.trans (by simp only [BuildArgs.combine, mpmldrArgs, List.foldlM_nil, List.foldlM_cons,
    List.enum_nil, pure_bind, bind_pure, decide_True]) (BuildState.addLayer_eq
      (BuildState.ofBase (some ⟨linked, 0x100⟩)) true (loadBinary ldrbdos 0xD00))⟩

/-- The later end of the two layers is that of the linked loader or of LDRBDOS at `0x177F`. -/
theorem maxAddr_mpmldrLayers (linked : List UInt8) {dri : List UInt8} (full : 0x1680 ≤ dri.length) :
    ([loadBinary linked 0x100, loadBinary (extractLdrbdos dri) 0xD00].map Layer.maxAddr).max? =
      some (0x100 + (max linked.length 0x1680 : Nat) - 1 : Int) := by
  have ldrbdosLength := length_extractLdrbdos full
  have notEmpty : extractLdrbdos dri ≠ [] := List.ne_nil_of_length_pos (by omega)
  show some (max (loadBinary linked 0x100).maxAddr (loadBinary (extractLdrbdos dri) 0xD00).maxAddr) = _
  simp only [loadBinary, if_neg notEmpty, ldrbdosLength]
  congr 1
  split_ifs with empty
  · simp only [empty, List.length_nil]
    omega
  · omega

/-- The build of `mpmldrArgs`: LDRBDOS laid over the linked loader, in the window from `0x100` to
the end of the later of the two. -/
theorem buildMode_mpmldrArgs {linked dri : List UInt8} (notHex : ∃ e, loadIntelHex linked = .error e)
    (full : 0x1680 ≤ dri.length) :
    buildMode (mpmldrArgs linked (extractLdrbdos dri)) = .ok (.binary (combinedLoader linked dri)) := by
  obtain ⟨state, combined⟩ := combine_mpmldrArgs linked (extractLdrbdos dri)
  obtain ⟨layers, layered, represents⟩ := BuildArgs.combine_represents combined
  rw [layers_mpmldrArgs notHex, Except.ok.injEq] at layered
  subst layered
  have nonempty : state.combined ≠ [] := fun empty => by
    have held := represents.lookup_eq (0x100 + (0xC00 : Nat))
    rw [empty, image_mpmldrLayers linked full, if_pos (by decide),
      List.getElem?_eq_getElem (by omega)] at held
    cases held
  rw [@buildMode_of_defaultWindow _ state _ rfl rfl (show (0 : Int) ≤ 0 ∧ (0 : Int) < 256 by decide)
    rfl combined represents nonempty 0x100 _ rfl (maxAddr_mpmldrLayers linked full),
    show ((0x100 + (max linked.length 0x1680 : Nat) - 1 : Int) - 0x100 + 1).toNat =
      max linked.length 0x1680 by omega]
  refine congrArg (Except.ok ∘ BuildOutput.binary) (List.map_congr_left fun i _ => ?_)
  rw [image_mpmldrLayers linked full]
  split_ifs <;> rw [List.getD_eq_getElem?_getD] <;> rfl

/-! ## What `post_build_mpmldr` leaves -/

theorem withLdrbdos_cut {paths : MpmldrPaths} {files : Files} {linked dri : List UInt8}
    (output : files paths.outputFile = some linked)
    (ldrbdos : files paths.ldrbdosBin = none ∧ files paths.driMpmldr = some dri ∨
      files paths.ldrbdosBin = some (extractLdrbdos dri)) :
    ∃ cut, withLdrbdos paths files = some cut ∧ cut paths.outputFile = some linked ∧
      cut paths.ldrbdosBin = some (extractLdrbdos dri) := by
  rcases ldrbdos with ⟨absent, image⟩ | present
  · have other : paths.outputFile ≠ paths.ldrbdosBin := fun same => by
      rw [same, absent] at output
      cases output
    refine ⟨_, by rw [withLdrbdos, absent, image]; rfl, ?_, writeFile_same _ _ _⟩
    rw [writeFile_other _ _ other, output]
  · exact ⟨files, by rw [withLdrbdos, present], output, present⟩

/-- After `post_build_mpmldr` the loader file holds DRI's bytes at LDRBDOS's file offsets
`[0xC00, 0x1680)` and the linked loader's bytes everywhere else, whether LDRBDOS is cut now or was
cut from the same `MPMLDR.COM` by an earlier build. The linked loader must not read as Intel HEX,
which `dri_patch.py` tries first, and its backup must not be `LDRBDOS_BIN`. -/
theorem postBuildMpmldr_output {paths : MpmldrPaths} {files : Files} {linked dri : List UInt8}
    (output : files paths.outputFile = some linked) (notHex : ∃ e, loadIntelHex linked = .error e)
    (ldrbdos : files paths.ldrbdosBin = none ∧ files paths.driMpmldr = some dri ∨
      files paths.ldrbdosBin = some (extractLdrbdos dri))
    (full : 0x1680 ≤ dri.length) (apart : paths.linkedOutput ≠ paths.ldrbdosBin) :
    ∃ after, postBuildMpmldr paths files = some after ∧
      after paths.outputFile = some (combinedLoader linked dri) := by
  obtain ⟨cut, cutOk, cutOutput, cutLdrbdos⟩ := withLdrbdos_cut output ldrbdos
  have resolved := @resolveArgs_mpmldrCommand paths (writeFile cut paths.linkedOutput linked) _ _
    (writeFile_same _ _ _) (by rw [writeFile_other _ _ (Ne.symm apart), cutLdrbdos])
  have built : main (writeFile cut paths.linkedOutput linked) (mpmldrCommand paths) =
      .ok (.built (.binary (combinedLoader linked dri))) :=
    Except.map_eq_ok.mpr ⟨_, mainBuild_ok_iff.mpr ⟨_, resolved, buildMode_mpmldrArgs notHex full⟩,
      rfl⟩
  refine ⟨writeFile (writeFile cut paths.linkedOutput linked) paths.outputFile
    (combinedLoader linked dri), ?_, writeFile_same _ _ _⟩
  simp only [postBuildMpmldr, cutOk, Option.bind_eq_bind, Option.some_bind, cutOutput, built]
  rfl

/-- A first build: a linked loader of one jump, DRI's `MPMLDR.COM` all zeros, no `LDRBDOS_BIN`
yet. -/
def sampleMpmldrPaths : MpmldrPaths :=
  ⟨"MPMLDR.COM".toList, "MPMLDR.linked".toList, "ldrbdos.bin".toList, "DRI.COM".toList⟩

def sampleMpmldrFiles : Files := fun name =>
  if name = "MPMLDR.COM".toList then some [0xC3, 0x00, 0x01]
  else if name = "DRI.COM".toList then some (List.replicate 0x1680 0)
  else none

theorem sampleMpmldr_output :
    ∃ after, postBuildMpmldr sampleMpmldrPaths sampleMpmldrFiles = some after ∧
      after sampleMpmldrPaths.outputFile =
        some (combinedLoader [0xC3, 0x00, 0x01] (List.replicate 0x1680 0)) :=
  postBuildMpmldr_output rfl ⟨.hexNoDataRecords, by decide⟩ (.inl ⟨rfl, rfl⟩)
    (List.length_replicate _ _).ge (by decide)

end Mpm2Tools.Build
