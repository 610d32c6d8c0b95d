import Mpm2Tools.DriPatch.RoundTrip

/-! # Build mode of `dri_patch.py`

Without `--info` or `--extract`, `main` combines layers into one image: a base file (Intel HEX if
it parses, else binary at its offset), the `--hex` files, the `--patch` binaries at their
addresses, the `--copy` ranges of other files, and the input files read as Intel HEX. Every layer
is a dict from addresses to bytes with the least and the greatest address its loader reports;
`apply_patch` lays it over `combined` and `update_bounds` widens `global_min` and `global_max`.
The image is written as the bytes `dict_to_binary` lays into `[start, start + size)`, or as Intel
HEX.

Files are given by their bytes, and `--start`, `--size`, `--fill` and the addresses of `--patch`
and `--copy` by the integers `parse_hex_address` reads from them. Above the faithful model stands
what the build is for: the layers in order (`BuildArgs.layers`) and the image they make when each
is laid over the ones before (`image`). `BuildState.Represents` relates the loops' locals to it,
and each loop keeps the relation. -/

namespace Mpm2Tools.DriPatch

open Mpm2Tools

/-! ## Loading layers -/

/-- What a load returns: the dict from addresses to bytes, `min_addr` and `max_addr`. -/
structure Layer where
  dict : List (Int × UInt8)
  minAddr : Int
  maxAddr : Int
  deriving DecidableEq, Repr

/-- `result[offset + i] = byte` for `i, byte in enumerate(data)`: the loop of `load_binary`, and
the loop that builds the dict of a `--copy`. -/
def storeFrom (result : List (Int × UInt8)) (offset : Int) : List UInt8 → List (Int × UInt8)
  | [] => result
  | byte :: data => storeFrom (dictSet result offset byte) (offset + 1) data

/-- `load_binary(filepath, offset)` on the file's bytes. -/
def loadBinary (data : List UInt8) (offset : Int) : Layer :=
  ⟨storeFrom [] offset data, offset, if data = [] then offset else offset + data.length - 1⟩

/-- `load_intel_hex(filepath)` on the file's bytes; the dict's keys become Python integers. -/
def loadIntelHex (data : List UInt8) : Except PyError Layer := do
  let (result, minAddr, maxAddr) ← parseIntelHex data
  return ⟨result.map fun item => ((item.1 : Int), item.2), minAddr, maxAddr⟩

/-- `--base FILE@OFFSET` with the file's bytes; the offset is 0 without `@`. -/
structure BaseArg where
  file : List UInt8
  offset : Int
  deriving DecidableEq, Repr

/-- The base is read as Intel HEX if that returns, and otherwise, whatever was raised, as binary at
its offset. -/
def loadBase (base : BaseArg) : Layer :=
  match loadIntelHex base.file with
  | .ok layer => layer
  | .error _ => loadBinary base.file base.offset

/-- `--copy SRC:SRCOFF:LEN@DSTOFF` with the source file's bytes. -/
structure CopyArg where
  src : List UInt8
  srcOff : Nat
  length : Int
  dstOff : Int
  deriving DecidableEq, Repr

/-- `f.seek(src_off); src_bytes = f.read(length)`: a negative length reads to the end. -/
def CopyArg.srcBytes (copy : CopyArg) : List UInt8 :=
  if copy.length < 0 then copy.src.drop copy.srcOff
  else (copy.src.drop copy.srcOff).take copy.length.toNat

/-- The dict of a `--copy` and its bounds `dst_off`, `dst_off + len(src_bytes) - 1`. -/
def CopyArg.layer (copy : CopyArg) : Layer :=
  ⟨storeFrom [] copy.dstOff copy.srcBytes, copy.dstOff, copy.dstOff + copy.srcBytes.length - 1⟩

/-! ## Combining layers -/

/-- How build mode ends without writing its output. -/
inductive BuildError where
  /-- An exception `main` lets through, ending in Python's traceback. -/
  | raised (e : PyError)
  /-- `ValueError: Patch address 0x{addr:04X} exceeds max 0x{max_addr:04X}` from `apply_patch`. -/
  | patchAddressExceedsMax (addr maxAddr : Int)
  /-- `Error: Could not parse {input_file} as Intel HEX`, exit status 1: the input's position. -/
  | inputNotHex (index : Nat)
  /-- `Error: No data to write`, exit status 1. -/
  | noData
  /-- `Error: Data at 0x{addr:04X} outside output range 0x{start_addr:04X}-0x{last:04X}`, exit
  status 1. -/
  | outsideRange (addr startAddr last : Int)
  deriving DecidableEq, Repr

/-- `apply_patch(base, patch, overflow_error, max_addr=max_addr)`: from `result = base.copy()`,
`result[addr] = byte` for every patch item; an address above `max_addr` raises, or with
`overflow_error` false is skipped after a warning. -/
def applyPatch (result : List (Int × UInt8)) (overflowError : Bool) (maxAddr : Option Int) :
    List (Int × UInt8) → Except BuildError (List (Int × UInt8))
  | [] => pure result
  | (addr, byte) :: patch =>
      match maxAddr with
      | some limit =>
          if addr > limit then
            if overflowError then throw (.patchAddressExceedsMax addr limit)
            else applyPatch result overflowError maxAddr patch
          else applyPatch (dictSet result addr byte) overflowError maxAddr patch
      | none => applyPatch (dictSet result addr byte) overflowError maxAddr patch

/-- The locals of build mode's loops. -/
structure BuildState where
  combined : List (Int × UInt8)
  globalMin : Option Int
  globalMax : Option Int
  deriving DecidableEq, Repr

/-- `update_bounds(min_a, max_a)`. -/
def BuildState.updateBounds (state : BuildState) (minA maxA : Int) : BuildState :=
  { state with
    globalMin := if state.globalMin.all (minA < ·) then some minA else state.globalMin
    globalMax := if state.globalMax.all (maxA > ·) then some maxA else state.globalMax }

/-- The locals after the base, if any: `combined, min_a, max_a = ...`, then `update_bounds`. -/
def BuildState.ofBase : Option BaseArg → BuildState
  | none => ⟨[], none, none⟩
  | some base =>
      let layer := loadBase base
      BuildState.updateBounds ⟨layer.dict, none, none⟩ layer.minAddr layer.maxAddr

/-- The body of each layer loop once its layer is loaded: `combined = apply_patch(combined,
addr_dict, overflow_error=...)`, then `update_bounds(min_a, max_a)`. -/
def BuildState.addLayer (state : BuildState) (overflowError : Bool) (layer : Layer) :
    Except BuildError BuildState := do
  let combined ← applyPatch state.combined overflowError none layer.dict
  return BuildState.updateBounds { state with combined := combined } layer.minAddr layer.maxAddr

/-- What `--overflow` does with data outside the output range. -/
inductive Overflow where
  | error
  | warn
  | ignore
  deriving DecidableEq, Repr

/-- The arguments of build mode. `start` is `none` for the default string `'0'`, and `size` for
no `--size`. -/
structure BuildArgs where
  base : Option BaseArg
  hex : List (List UInt8)
  patch : List (Int × List UInt8)
  copy : List CopyArg
  input : List (List UInt8)
  start : Option Int
  size : Option Int
  fill : Int
  overflow : Overflow
  hexOutput : Bool
  deriving DecidableEq, Repr

/-- The layer loops: `--hex` files, whose exceptions `main` lets through, `--patch` files,
`--copy` ranges, and input files, whose exceptions end the build with an error message. -/
def BuildArgs.combine (args : BuildArgs) : Except BuildError BuildState := do
  let overflowError := decide (args.overflow = .error)
  let state ← args.hex.foldlM (fun state file => do
    state.addLayer overflowError (← (loadIntelHex file).mapError .raised)) (.ofBase args.base)
  let state ← args.patch.foldlM (fun state patch =>
    state.addLayer overflowError (loadBinary patch.2 patch.1)) state
  let state ← args.copy.foldlM (fun state copy => state.addLayer overflowError copy.layer) state
  args.input.enum.foldlM (fun state input =>
    match (loadIntelHex input.2).mapError .raised >>= state.addLayer overflowError with
    | .ok next => pure next
    | .error _ => throw (.inputNotHex input.1)) state

/-! ## Writing the output -/

/-- `bytearray(values)`: every value must be a byte. -/
def bytearrayOf (values : List Int) : Except PyError (List UInt8) :=
  values.mapM fun value =>
    if 0 ≤ value ∧ value < 256 then pure (toByte value) else throw (.byteOutOfRange value)

/-- The body of `dict_to_binary`'s loop: `result[addr - start] = byte` when the address falls
inside the window. -/
def placeByte (start size : Int) (result : List UInt8) (item : Int × UInt8) : List UInt8 :=
  if 0 ≤ item.1 - start ∧ item.1 - start < size then result.set (item.1 - start).toNat item.2
  else result

/-- `dict_to_binary(addr_dict, start, size, fill)`: `size` fill bytes, then the loop over the
dict's items. -/
def dictToBinary (addrDict : List (Int × UInt8)) (start size fill : Int) :
    Except PyError (List UInt8) := do
  let result ← bytearrayOf (List.replicate size.toNat fill)
  return addrDict.foldl (placeByte start size) result

/-- What build mode writes: the bytes of `dict_to_binary`, or the dict `write_intel_hex` writes. -/
inductive BuildOutput where
  | binary (data : List UInt8)
  | hex (combined : List (Int × UInt8))
  deriving DecidableEq, Repr

/-- `start_addr`: `--start`, or `global_min or 0`. -/
def BuildArgs.startAddr (args : BuildArgs) (state : BuildState) : Int :=
  args.start.getD (state.globalMin.getD 0)

/-- `output_size`: `--size`, or `(global_max or 0) - start_addr + 1`. -/
def BuildArgs.outputSize (args : BuildArgs) (state : BuildState) : Int :=
  args.size.getD (state.globalMax.getD 0 - args.startAddr state + 1)

/-- The loop `for addr in combined.keys()` under `--overflow error`: the first key outside the
window ends the build. Under `warn` and `ignore` it only prints. -/
def BuildArgs.checkRange (args : BuildArgs) (state : BuildState) : Except BuildError Unit :=
  if args.overflow = .error then
    match (state.combined.map Prod.fst).find? fun addr =>
        addr < args.startAddr state ∨ args.startAddr state + args.outputSize state ≤ addr with
    | some addr => throw (.outsideRange addr (args.startAddr state)
        (args.startAddr state + args.outputSize state - 1))
    | none => pure ()
  else pure ()

/-- The output: the dict for `--hex-output`, else the bytes of `dict_to_binary`. -/
def BuildArgs.output (args : BuildArgs) (state : BuildState) : Except BuildError BuildOutput :=
  if args.hexOutput then pure (.hex state.combined)
  else .binary <$> (dictToBinary state.combined (args.startAddr state) (args.outputSize state)
    args.fill).mapError .raised

/-- After the loops: `No data to write`, the range check, and the output. -/
def BuildArgs.write (args : BuildArgs) (state : BuildState) : Except BuildError BuildOutput :=
  if state.combined = [] then throw .noData
  else args.checkRange state >>= fun () => args.output state

/-- Build mode of `main`. -/
def buildMode (args : BuildArgs) : Except BuildError BuildOutput :=
  args.combine >>= args.write

/-! ## Dicts read as lookups -/

theorem mem_keys_iff_isSome {κ β : Type} [DecidableEq κ] {items : List (κ × β)} {key : κ} :
    key ∈ items.map Prod.fst ↔ (items.lookup key).isSome := by
  rw [List.lookup_isSome_iff, List.mem_map]
  constructor
  · rintro ⟨item, member, rfl⟩
    exact ⟨item, member, beq_self_eq_true _⟩
  · rintro ⟨item, member, same⟩
    exact ⟨item, member, (beq_iff_eq.mp same).symm⟩

theorem lookup_storeFrom (result : List (Int × UInt8)) (offset : Int) (data : List UInt8)
    (addr : Int) :
    (storeFrom result offset data).lookup addr =
      if offset ≤ addr ∧ addr < offset + data.length then data[(addr - offset).toNat]?
      else result.lookup addr := by
  induction data generalizing result offset with
  | nil => rw [storeFrom, if_neg (by simp)]
  | cons byte data induction =>
    rw [storeFrom, induction, lookup_dictSet, List.length_cons, Nat.cast_succ]
    by_cases later : offset + 1 ≤ addr ∧ addr < offset + 1 + data.length
    · have index : (addr - offset).toNat = (addr - (offset + 1)).toNat + 1 := by omega
      rw [if_pos later, if_pos (by omega), index, List.getElem?_cons_succ]
    · rw [if_neg later]
      by_cases here : addr = offset
      · rw [if_pos here, if_pos (by omega), here, sub_self, Int.toNat_zero,
          List.getElem?_cons_zero]
      · rw [if_neg here, if_neg (by omega)]

theorem nodup_storeFrom {result : List (Int × UInt8)} (nodup : (result.map Prod.fst).Nodup)
    (offset : Int) (data : List UInt8) : ((storeFrom result offset data).map Prod.fst).Nodup := by
  induction data generalizing result offset with
  | nil => exact nodup
  | cons byte data induction => exact induction (nodup_dictSet nodup) _

theorem mem_keys_storeFrom {offset addr : Int} {data : List UInt8}
    (member : addr ∈ (storeFrom [] offset data).map Prod.fst) :
    offset ≤ addr ∧ addr < offset + data.length := by
  rw [mem_keys_iff_isSome, lookup_storeFrom] at member
  split_ifs at member with inside
  · exact inside
  · simp at member

/-! ## What the loaders return -/

/-- A loaded layer: no address twice, and every address between the bounds its loader reports. -/
structure Layer.Valid (layer : Layer) : Prop where
  nodup : (layer.dict.map Prod.fst).Nodup
  within : ∀ addr ∈ layer.dict.map Prod.fst, layer.minAddr ≤ addr ∧ addr ≤ layer.maxAddr

theorem loadBinary_valid (data : List UInt8) (offset : Int) : (loadBinary data offset).Valid := by
  refine ⟨@nodup_storeFrom [] List.nodup_nil offset data, fun addr member => ?_⟩
  have inside := mem_keys_storeFrom member
  dsimp only [loadBinary]
  split_ifs with empty
  · subst empty
    simp at inside
    omega
  · omega

theorem CopyArg.layer_valid (copy : CopyArg) : copy.layer.Valid :=
  ⟨@nodup_storeFrom [] List.nodup_nil _ _, fun _ member => by
    have := mem_keys_storeFrom member
    dsimp only [CopyArg.layer]
    omega⟩

theorem Except.mapError_eq_ok {ε ε' α : Type} {f : ε → ε'} {x : Except ε α} {a : α} :
    x.mapError f = .ok a ↔ x = .ok a := by
  cases x <;> simp [Except.mapError]

theorem loadIntelHex_ok {data : List UInt8} {layer : Layer} (loaded : loadIntelHex data = .ok layer) :
    ∃ result low high, parseIntelHex data = .ok (result, low, high) ∧
      layer = ⟨result.map fun item => ((item.1 : Int), item.2), low, high⟩ := by
  simp only [loadIntelHex, bind, Except.bind, pure, Except.pure] at loaded
  split at loaded
  · cases loaded
  · rename_i parsed
    cases loaded
    exact ⟨_, _, _, parsed, rfl⟩

theorem loadIntelHex_valid {data : List UInt8} {layer : Layer}
    (loaded : loadIntelHex data = .ok layer) : layer.Valid := by
  obtain ⟨result, low, high, parsed, rfl⟩ := loadIntelHex_ok loaded
  obtain ⟨-, least, greatest⟩ := parseIntelHex_bounds parsed
  have keys : (result.map fun item => ((item.1 : Int), item.2)).map Prod.fst =
      (result.map Prod.fst).map Nat.cast := by simp
  refine ⟨keys ▸ (parseIntelHex_nodup parsed).map Nat.cast_injective, fun addr member => ?_⟩
  rw [keys] at member
  obtain ⟨key, present, rfl⟩ := List.mem_map.mp member
  have := (List.min?_eq_some_iff'.mp least).2 key present
  have := (List.max?_eq_some_iff'.mp greatest).2 key present
  dsimp only
  omega

theorem loadBase_valid (base : BaseArg) : (loadBase base).Valid := by
  unfold loadBase
  split
  · exact loadIntelHex_valid ‹_›
  · exact loadBinary_valid _ _

/-! ## Laying one layer over the others -/

/-- `result[addr] = byte` for every item of `patch` in order: `apply_patch` without `max_addr`. -/
def storeItems (result patch : List (Int × UInt8)) : List (Int × UInt8) :=
  patch.foldl (fun result item => dictSet result item.1 item.2) result

theorem applyPatch_none (result : List (Int × UInt8)) (overflowError : Bool)
    (patch : List (Int × UInt8)) :
    applyPatch result overflowError none patch = .ok (storeItems result patch) := by
  induction patch generalizing result with
  | nil => rfl
  | cons item patch induction =>
    obtain ⟨addr, byte⟩ := item
    exact induction _

/-- With `max_addr` and `overflow_error` false, `apply_patch` lays exactly the items at or below
`max_addr`. -/
theorem applyPatch_skip (result patch : List (Int × UInt8)) (limit : Int) :
    applyPatch result false (some limit) patch =
      .ok (storeItems result (patch.filter fun item => item.1 ≤ limit)) := by
  induction patch generalizing result with
  | nil => rfl
  | cons item patch induction =>
    obtain ⟨addr, byte⟩ := item
    by_cases above : addr > limit
    · rw [applyPatch, if_pos above, if_neg Bool.false_ne_true, induction,
        List.filter_cons_of_neg (by simpa using above)]
    · rw [applyPatch, if_neg above, induction, List.filter_cons_of_pos (by simpa using above)]
      rfl

/-- With `max_addr` and `overflow_error` true, `apply_patch` raises at the first item above
`max_addr`, and lays every item when there is none. -/
theorem applyPatch_raise (result patch : List (Int × UInt8)) (limit : Int) :
    applyPatch result true (some limit) patch =
      match patch.find? fun item => item.1 > limit with
      | some item => .error (.patchAddressExceedsMax item.1 limit)
      | none => .ok (storeItems result patch) := by
  induction patch generalizing result with
  | nil => rfl
  | cons item patch induction =>
    obtain ⟨addr, byte⟩ := item
    by_cases above : addr > limit
    · rw [applyPatch, if_pos above, if_pos rfl, List.find?_cons_of_pos _ (by simpa using above)]
      rfl
    · rw [applyPatch, if_neg above, induction, List.find?_cons_of_neg _ (by simpa using above)]
      rfl

theorem nodup_storeItems {result : List (Int × UInt8)} (nodup : (result.map Prod.fst).Nodup)
    (patch : List (Int × UInt8)) : ((storeItems result patch).map Prod.fst).Nodup := by
  induction patch generalizing result with
  | nil => exact nodup
  | cons item patch induction => exact induction (nodup_dictSet nodup)

/-- A patch with no address twice wins wherever it holds a byte. -/
theorem lookup_storeItems (result : List (Int × UInt8)) {patch : List (Int × UInt8)}
    (nodup : (patch.map Prod.fst).Nodup) (addr : Int) :
    (storeItems result patch).lookup addr = (patch.lookup addr).or (result.lookup addr) := by
  induction patch generalizing result with
  | nil => rfl
  | cons item patch induction =>
    obtain ⟨key, byte⟩ := item
    rw [List.map_cons, List.nodup_cons] at nodup
    change (storeItems (dictSet result key byte) patch).lookup addr = _
    rw [induction _ nodup.2, lookup_dictSet]
    by_cases here : addr = key
    · subst here
      have absent : patch.lookup addr = none :=
        Option.not_isSome_iff_eq_none.mp (mt mem_keys_iff_isSome.mpr nodup.1)
      simp [absent]
    · simp [List.lookup_cons, beq_false_of_ne here, here]

/-- The image of layers laid over each other in order: at each address, the byte of the last
layer that holds it. -/
def image (layers : List Layer) (addr : Int) : Option UInt8 :=
  layers.foldl (fun below layer => (layer.dict.lookup addr).or below) none

theorem image_append_singleton (layers : List Layer) (layer : Layer) (addr : Int) :
    image (layers ++ [layer]) addr = (layer.dict.lookup addr).or (image layers addr) := by
  simp [image]

/-- The image holds a byte only where some layer does. -/
theorem exists_of_image_isSome {layers : List Layer} {addr : Int}
    (found : (image layers addr).isSome) : ∃ layer ∈ layers, (layer.dict.lookup addr).isSome := by
  induction layers using List.reverseRecOn with
  | nil => simp [image] at found
  | append_singleton layers layer induction =>
    rw [image_append_singleton, Option.isSome_or, Bool.or_eq_true] at found
    rcases found with here | earlier
    · exact ⟨layer, by simp, here⟩
    · obtain ⟨below, member, holds⟩ := induction earlier
      exact ⟨below, by simp [member], holds⟩

/-- The layers of a build in the order `main` lays them: the base, the `--hex` files, the
`--patch` files, the `--copy` ranges and the input files. A HEX file that does not load ends the
build with the error `main` reports for it. -/
def BuildArgs.layers (args : BuildArgs) : Except BuildError (List Layer) := do
  let hex ← args.hex.mapM fun file => (loadIntelHex file).mapError .raised
  let patch ← args.patch.mapM fun patch => pure (loadBinary patch.2 patch.1)
  let copy ← args.copy.mapM fun copy => pure copy.layer
  let input ← args.input.enum.mapM fun input =>
    (loadIntelHex input.2).mapError fun _ => .inputNotHex input.1
  return (args.base.map loadBase).toList ++ hex ++ patch ++ copy ++ input

/-! ## The loops refine the layers' image -/

/-- Build mode's locals after laying `layers`, all valid loads: `combined` is a dict whose lookup
is their image, and `global_min`, `global_max` are the least `min_a` and the greatest `max_a`. -/
structure BuildState.Represents (state : BuildState) (layers : List Layer) : Prop where
  valid : ∀ layer ∈ layers, layer.Valid
  nodup : (state.combined.map Prod.fst).Nodup
  lookup_eq : ∀ addr, state.combined.lookup addr = image layers addr
  globalMin_eq : state.globalMin = (layers.map Layer.minAddr).min?
  globalMax_eq : state.globalMax = (layers.map Layer.maxAddr).max?

theorem updateBounds_globalMin (state : BuildState) {mins : List Int}
    (least : state.globalMin = mins.min?) (minA maxA : Int) :
    (state.updateBounds minA maxA).globalMin = (mins ++ [minA]).min? := by
  simp only [BuildState.updateBounds, least]
  cases mins with
  | nil => rfl
  | cons first mins =>
    simp only [List.min?, List.cons_append, List.foldl_append, List.foldl_cons, List.foldl_nil,
      Option.all_some, decide_eq_true_eq, Int.min_def]
    split_ifs <;> congr 1 <;> omega

theorem updateBounds_globalMax (state : BuildState) {maxes : List Int}
    (greatest : state.globalMax = maxes.max?) (minA maxA : Int) :
    (state.updateBounds minA maxA).globalMax = (maxes ++ [maxA]).max? := by
  simp only [BuildState.updateBounds, greatest]
  cases maxes with
  | nil => rfl
  | cons first maxes =>
    simp only [List.max?, List.cons_append, List.foldl_append, List.foldl_cons, List.foldl_nil,
      Option.all_some, decide_eq_true_eq, Int.max_def]
    split_ifs <;> congr 1 <;> omega

theorem BuildState.represents_ofBase (base : Option BaseArg) :
    (BuildState.ofBase base).Represents (base.map loadBase).toList := by
  cases base with
  | none => exact ⟨by simp, List.nodup_nil, fun _ => rfl, rfl, rfl⟩
  | some base =>
    have valid := loadBase_valid base
    exact ⟨by simpa using valid, valid.nodup, fun _ => by simp [BuildState.ofBase,
      BuildState.updateBounds, image],
      updateBounds_globalMin _ (show _ = ([] : List Int).min? from rfl) _ _,
      updateBounds_globalMax _ (show _ = ([] : List Int).max? from rfl) _ _⟩

/-- A layer step never fails: `apply_patch` is called without `max_addr`. -/
theorem BuildState.addLayer_eq (state : BuildState) (overflowError : Bool) (layer : Layer) :
    state.addLayer overflowError layer = .ok (BuildState.updateBounds
      { state with combined := storeItems state.combined layer.dict } layer.minAddr layer.maxAddr) := by
  simp only [BuildState.addLayer, applyPatch_none]
  rfl

/-- One layer step keeps the relation. -/

theorem BuildState.Represents.addLayer {state next : BuildState} {layers : List Layer}
    {layer : Layer} {overflowError : Bool} (represents : state.Represents layers)
    (valid : layer.Valid) (added : state.addLayer overflowError layer = .ok next) :
    next.Represents (layers ++ [layer]) := by
  rw [BuildState.addLayer_eq] at added
  cases added
  refine ⟨fun below member => ?_, nodup_storeItems represents.nodup _, fun addr => ?_, ?_, ?_⟩
  · rcases List.mem_append.mp member with earlier | here
    · exact represents.valid below earlier
    · exact (List.mem_singleton.mp here) ▸ valid
  · simp only [BuildState.updateBounds]
    rw [lookup_storeItems _ valid.nodup, represents.lookup_eq, image_append_singleton]
  · rw [List.map_append, List.map_singleton]
    exact updateBounds_globalMin _ represents.globalMin_eq _ layer.maxAddr
  · rw [List.map_append, List.map_singleton]
    exact updateBounds_globalMax _ represents.globalMax_eq layer.minAddr _

/-- A layer loop keeps the relation when each of its steps loads a valid layer and adds it; the
layers it adds are those `load` returns. -/
theorem BuildState.Represents.foldlM {α : Type} (load : α → Except BuildError Layer)
    {step : BuildState → α → Except BuildError BuildState} {overflowError : Bool}
    (adds : ∀ state x next, step state x = .ok next →
      ∃ layer, load x = .ok layer ∧ layer.Valid ∧ state.addLayer overflowError layer = .ok next)
    {xs : List α} {state final : BuildState} {layers : List Layer}
    (represents : state.Represents layers) (looped : xs.foldlM step state = .ok final) :
    ∃ loaded, xs.mapM load = .ok loaded ∧ final.Represents (layers ++ loaded) := by
  induction xs generalizing state layers with
  | nil =>
    cases looped
    exact ⟨[], rfl, by simpa using represents⟩
  | cons x xs induction =>
    obtain ⟨next, stepped, rest⟩ := Except.bind_eq_ok.mp looped
    obtain ⟨layer, loaded, valid, added⟩ := adds state x next stepped
    obtain ⟨more, mapped, final⟩ := induction (represents.addLayer valid added) rest
    exact ⟨layer :: more, by rw [List.mapM_cons, loaded, mapped]; rfl, by simpa using final⟩

/-- The loops' locals at the end represent the layers of the build. -/
theorem BuildArgs.combine_represents {args : BuildArgs} {state : BuildState}
    (combined : args.combine = .ok state) :
    ∃ layers, args.layers = .ok layers ∧ state.Represents layers := by
  simp only [BuildArgs.combine, Except.bind_eq_ok] at combined
  obtain ⟨afterHex, hexLoop, afterPatch, patchLoop, afterCopy, copyLoop, inputLoop⟩ := combined
  obtain ⟨hex, hexMapped, hexRep⟩ := BuildState.Represents.foldlM
    (fun file => (loadIntelHex file).mapError .raised) (fun state file next stepped => by
      obtain ⟨layer, loaded, added⟩ := Except.bind_eq_ok.mp stepped
      exact ⟨layer, loaded, loadIntelHex_valid (Except.mapError_eq_ok.mp loaded), added⟩)
    (BuildState.represents_ofBase args.base) hexLoop
  obtain ⟨patch, patchMapped, patchRep⟩ := BuildState.Represents.foldlM
    (fun (patch : Int × List UInt8) => pure (loadBinary patch.2 patch.1))
    (fun state patch next added => ⟨_, rfl, loadBinary_valid _ _, added⟩) hexRep patchLoop
  obtain ⟨copy, copyMapped, copyRep⟩ := BuildState.Represents.foldlM
    (fun (copy : CopyArg) => pure copy.layer)
    (fun state copy next added => ⟨_, rfl, copy.layer_valid, added⟩) patchRep copyLoop
  obtain ⟨input, inputMapped, inputRep⟩ := BuildState.Represents.foldlM
    (fun (input : Nat × List UInt8) =>
      (loadIntelHex input.2).mapError fun _ => BuildError.inputNotHex input.1)
    (fun state input next stepped => by
      revert stepped
      cases attempt : (loadIntelHex input.2).mapError BuildError.raised >>=
          state.addLayer (decide (args.overflow = .error)) with
      | error => exact fun stepped => by cases stepped
      | ok =>
        rintro ⟨⟩
        obtain ⟨layer, loaded, added⟩ := Except.bind_eq_ok.mp attempt
        have loaded := Except.mapError_eq_ok.mp loaded
        exact ⟨layer, Except.mapError_eq_ok.mpr loaded, loadIntelHex_valid loaded, added⟩)
    copyRep inputLoop
  refine ⟨_, ?_, inputRep⟩
  simp only [BuildArgs.layers, hexMapped, patchMapped, copyMapped, inputMapped, Except.ok_bind]
  rfl

/-! ## The output window -/

theorem bytearrayOf_replicate (count : Nat) (fill : Int) :
    bytearrayOf (List.replicate count fill) =
      if 0 < count ∧ ¬(0 ≤ fill ∧ fill < 256) then .error (.byteOutOfRange fill)
      else .ok (List.replicate count (toByte fill)) := by
  induction count with
  | zero => rfl
  | succ count induction =>
    rw [bytearrayOf, List.replicate_succ, List.mapM_cons, ← bytearrayOf, induction]
    by_cases byte : 0 ≤ fill ∧ fill < 256
    · simp [byte, List.replicate_succ]
    · have empty : 0 < count + 1 ∧ ¬(0 ≤ fill ∧ fill < 256) := ⟨Nat.succ_pos count, byte⟩
      rw [if_neg byte, if_pos empty]
      rfl

theorem length_foldl_placeByte (start size : Int) (addrDict : List (Int × UInt8))
    (result : List UInt8) : (addrDict.foldl (placeByte start size) result).length = result.length := by
  induction addrDict generalizing result with
  | nil => rfl
  | cons item addrDict induction =>
    rw [List.foldl_cons, induction, placeByte]
    split_ifs <;> simp

/-- Inside the window, the loop leaves the dict's byte where it holds one. -/
theorem getElem?_foldl_placeByte {start size : Int} {addrDict : List (Int × UInt8)}
    (nodup : (addrDict.map Prod.fst).Nodup) {result : List UInt8}
    (length : result.length = size.toNat) {i : Nat} (inside : i < size.toNat) :
    (addrDict.foldl (placeByte start size) result)[i]? =
      (addrDict.lookup (start + i)).or result[i]? := by
  induction addrDict generalizing result with
  | nil => rfl
  | cons item addrDict induction =>
    obtain ⟨addr, byte⟩ := item
    rw [List.map_cons, List.nodup_cons] at nodup
    have placed : (placeByte start size result (addr, byte)).length = size.toNat := by
      rw [placeByte]; split_ifs <;> simp [length]
    rw [List.foldl_cons, induction nodup.2 placed]
    by_cases here : start + i = addr
    · subst here
      have absent : addrDict.lookup (start + i) = none :=
        Option.not_isSome_iff_eq_none.mp (mt mem_keys_iff_isSome.mpr nodup.1)
      rw [absent, placeByte, if_pos (by omega), List.lookup_cons_self]
      simp [show (start + i - start).toNat = i by omega, length, inside]
    · rw [List.lookup_cons, beq_false_of_ne here, placeByte]
      split_ifs
      · rw [List.getElem?_set_ne (by omega)]
      · rfl

/-- The window `[start, start + size)` of a dict: its byte at each address, `fill` where it has
none. -/
def windowBytes (addrDict : List (Int × UInt8)) (start size : Int) (fill : UInt8) : List UInt8 :=
  (List.range size.toNat).map fun (i : Nat) => (addrDict.lookup (start + i)).getD fill

/-- `dict_to_binary` raises exactly when the window is not empty and the fill value is not a
byte; otherwise its loop writes the window of the dict. -/
theorem dictToBinary_eq {addrDict : List (Int × UInt8)} (nodup : (addrDict.map Prod.fst).Nodup)
    (start size fill : Int) :
    dictToBinary addrDict start size fill =
      if 0 < size ∧ ¬(0 ≤ fill ∧ fill < 256) then .error (.byteOutOfRange fill)
      else .ok (windowBytes addrDict start size (toByte fill)) := by
  rw [dictToBinary, bytearrayOf_replicate]
  simp only [Int.lt_toNat, Nat.cast_zero]
  split_ifs
  · rfl
  · refine congrArg Except.ok (List.ext_getElem? fun i => ?_)
    by_cases inside : i < size.toNat
    · rw [getElem?_foldl_placeByte nodup (List.length_replicate _ _) inside, windowBytes,
        List.getElem?_map, List.getElem?_range inside, List.getElem?_replicate_of_lt inside,
        Option.map_some']
      cases addrDict.lookup (start + i) <;> rfl
    · rw [List.getElem?_eq_none (by simpa [length_foldl_placeByte] using inside),
        List.getElem?_eq_none (by simpa [windowBytes] using inside)]

/-- Every address of `combined` lies between the bounds, which are then both set. -/
theorem BuildState.Represents.within {state : BuildState} {layers : List Layer}
    (represents : state.Represents layers) {addr : Int}
    (member : addr ∈ state.combined.map Prod.fst) :
    ∃ lo hi, state.globalMin = some lo ∧ state.globalMax = some hi ∧ lo ≤ addr ∧ addr ≤ hi := by
  rw [mem_keys_iff_isSome, represents.lookup_eq] at member
  obtain ⟨layer, present, holds⟩ := exists_of_image_isSome member
  obtain ⟨low, high⟩ :=
    (represents.valid layer present).within addr (mem_keys_iff_isSome.mpr holds)
  have mins := List.mem_map_of_mem Layer.minAddr present
  have maxes := List.mem_map_of_mem Layer.maxAddr present
  obtain ⟨lo, least⟩ := Option.isSome_iff_exists.mp (List.isSome_min?_of_mem mins)
  obtain ⟨hi, greatest⟩ := Option.isSome_iff_exists.mp (List.isSome_max?_of_mem maxes)
  have below := (List.le_min?_iff (fun _ _ _ => le_min_iff) least).mp le_rfl _ mins
  have above := (List.max?_le_iff (fun _ _ _ => max_le_iff) greatest).mp le_rfl _ maxes
  exact ⟨lo, hi, represents.globalMin_eq.trans least, represents.globalMax_eq.trans greatest,
    by omega, by omega⟩

/-! ## The writing phase -/

theorem BuildArgs.write_ok {args : BuildArgs} {state : BuildState} {out : BuildOutput}
    (written : args.write state = .ok out) :
    state.combined ≠ [] ∧ (args.hexOutput = true → out = .hex state.combined) ∧
      (args.hexOutput = false → ∃ data, dictToBinary state.combined (args.startAddr state)
        (args.outputSize state) args.fill = .ok data ∧ out = .binary data) := by
  unfold BuildArgs.write at written
  by_cases empty : state.combined = []
  · rw [if_pos empty] at written
    cases written
  · rw [if_neg empty] at written
    obtain ⟨-, -, output⟩ := Except.bind_eq_ok.mp written
    unfold BuildArgs.output at output
    refine ⟨empty, fun hex => ?_, fun binary => ?_⟩
    · rw [if_pos hex] at output
      exact (Except.ok.inj output).symm
    · rw [if_neg (by simp [binary])] at output
      obtain ⟨data, converted, rfl⟩ := Except.map_eq_ok.mp output
      exact ⟨data, Except.mapError_eq_ok.mp converted, rfl⟩

theorem BuildArgs.write_error {args : BuildArgs} {state : BuildState} {e : BuildError}
    (failed : args.write state = .error e) :
    e = .noData ∨ (∃ p, e = .raised p) ∨ ∃ addr ∈ state.combined.map Prod.fst,
      (addr < args.startAddr state ∨ args.startAddr state + args.outputSize state ≤ addr) ∧
      e = .outsideRange addr (args.startAddr state)
        (args.startAddr state + args.outputSize state - 1) := by
  unfold BuildArgs.write at failed
  by_cases empty : state.combined = []
  · rw [if_pos empty] at failed
    cases failed
    exact .inl rfl
  · rw [if_neg empty] at failed
    cases checked : args.checkRange state with
    | error =>
      rw [checked] at failed
      cases failed
      unfold BuildArgs.checkRange at checked
      split_ifs at checked
      · split at checked
        · rename_i addr found
          cases checked
          exact .inr (.inr ⟨addr, List.mem_of_find?_eq_some found,
            by simpa using List.find?_some found, rfl⟩)
        · cases checked
      · cases checked
    | ok =>
      rw [checked] at failed
      unfold BuildArgs.output at failed
      split_ifs at failed
      · cases failed
      · cases converted : dictToBinary state.combined (args.startAddr state)
          (args.outputSize state) args.fill with
        | error p =>
          rw [converted] at failed
          cases failed
          exact .inr (.inl ⟨p, rfl⟩)
        | ok =>
          rw [converted] at failed
          cases failed

/-! ## What build mode does -/

/-- A loop fails only as one of its steps does. -/
theorem foldlM_error {α : Type} {step : BuildState → α → Except BuildError BuildState}
    {P : BuildError → Prop} (stepError : ∀ state x e, step state x = .error e → P e)
    {xs : List α} {state : BuildState} {e : BuildError}
    (failed : xs.foldlM step state = .error e) : P e := by
  induction xs generalizing state with
  | nil => cases failed
  | cons x xs induction =>
    rcases Except.bind_eq_error.mp failed with stepped | ⟨next, -, rest⟩
    · exact stepError _ _ _ stepped
    · exact induction rest

/-- The loops fail only by an exception of a `--hex` file or by an input file that is not Intel
HEX. -/
theorem BuildArgs.combine_error {args : BuildArgs} {e : BuildError}
    (failed : args.combine = .error e) :
    (∃ p, e = .raised p) ∨ ∃ index, e = .inputNotHex index := by
  have never : ∀ (state : BuildState) (layer : Layer) (e : BuildError),
      state.addLayer (decide (args.overflow = .error)) layer ≠ .error e :=
    fun state layer e added => by rw [BuildState.addLayer_eq] at added; cases added
  let Allowed (e : BuildError) : Prop := (∃ p, e = .raised p) ∨ ∃ index, e = .inputNotHex index
  show Allowed e
  simp only [BuildArgs.combine] at failed
  rcases Except.bind_eq_error.mp failed with failed | ⟨_, -, failed⟩
  · refine foldlM_error (fun state file e stepped => ?_) failed
    rcases Except.bind_eq_error.mp stepped with loaded | ⟨layer, -, added⟩
    · cases loading : loadIntelHex file with
      | error p => rw [loading] at loaded; cases loaded; exact .inl ⟨p, rfl⟩
      | ok => rw [loading] at loaded; cases loaded
    · exact absurd added (never _ _ _)
  rcases Except.bind_eq_error.mp failed with failed | ⟨_, -, failed⟩
  · exact foldlM_error (fun state _ e added => absurd added (never _ _ _)) failed
  rcases Except.bind_eq_error.mp failed with failed | ⟨_, -, failed⟩
  · exact foldlM_error (fun state _ e added => absurd added (never _ _ _)) failed
  · refine foldlM_error (fun state input e stepped => ?_) failed
    revert stepped
    cases (loadIntelHex input.2).mapError BuildError.raised >>=
        state.addLayer (decide (args.overflow = .error)) with
    | error => exact fun stepped => by cases stepped; exact .inr ⟨_, rfl⟩
    | ok => exact fun stepped => by cases stepped

/-- A binary build writes the window `[start, start + size)` of the layers' image: at each offset
the byte of the last layer that holds the address, and the fill byte where none does. The window
starts at `--start` or at the least bound of the layers, and is `--size` long or reaches the
greatest bound. -/
theorem buildMode_binary {args : BuildArgs} {data : List UInt8}
    (built : buildMode args = .ok (.binary data)) :
    ∃ layers lo hi, args.layers = .ok layers ∧ (layers.map Layer.minAddr).min? = some lo ∧
      (layers.map Layer.maxAddr).max? = some hi ∧
      data = (List.range (args.size.getD (hi - args.start.getD lo + 1)).toNat).map
        fun (i : Nat) => (image layers (args.start.getD lo + i)).getD (toByte args.fill) := by
  obtain ⟨state, combined, written⟩ := Except.bind_eq_ok.mp built
  obtain ⟨layers, layered, represents⟩ := BuildArgs.combine_represents combined
  obtain ⟨nonempty, hex, binary⟩ := BuildArgs.write_ok written
  obtain ⟨key, member⟩ := List.exists_mem_of_ne_nil _ (by simpa using nonempty :
    state.combined.map Prod.fst ≠ [])
  obtain ⟨lo, hi, least, greatest, -, -⟩ := represents.within member
  have notHex : args.hexOutput = false := by
    cases hexOutput : args.hexOutput
    · rfl
    · cases hex hexOutput
  obtain ⟨bytes, converted, same⟩ := binary notHex
  cases same
  rw [dictToBinary_eq represents.nodup] at converted
  split_ifs at converted
  cases converted
  refine ⟨layers, lo, hi, layered, represents.globalMin_eq.symm.trans least,
    represents.globalMax_eq.symm.trans greatest, ?_⟩
  simp only [windowBytes, BuildArgs.outputSize, BuildArgs.startAddr, least, greatest,
    Option.getD_some, represents.lookup_eq]

/-- With the default `--start` and `--size`, build mode never reports data outside the output
range: it fails only by an exception, by an input file that is not Intel HEX, or for want of
data. Whatever the window, every address of the combined dict lies between the least and the
greatest bound of the layers. -/
theorem buildMode_default_window_error {args : BuildArgs} (start : args.start = none)
    (size : args.size = none) :
    (∀ e, buildMode args = .error e →
      (∃ p, e = .raised p) ∨ (∃ index, e = .inputNotHex index) ∨ e = .noData) ∧
    ∀ state, args.combine = .ok state → ∃ layers, args.layers = .ok layers ∧
      ∀ addr ∈ state.combined.map Prod.fst, ∃ lo hi, (layers.map Layer.minAddr).min? = some lo ∧
        (layers.map Layer.maxAddr).max? = some hi ∧ lo ≤ addr ∧ addr ≤ hi := by
  refine ⟨fun e failed => ?_, fun state combined => ?_⟩
  · rcases Except.bind_eq_error.mp failed with combined | ⟨state, combined, written⟩
    · exact (BuildArgs.combine_error combined).imp_right .inl
    obtain ⟨layers, -, represents⟩ := BuildArgs.combine_represents combined
    rcases BuildArgs.write_error written with noData | raised | ⟨addr, member, outside, -⟩
    · exact .inr (.inr noData)
    · exact .inl raised
    · obtain ⟨lo, hi, least, greatest, low, high⟩ := represents.within member
      simp only [BuildArgs.outputSize, BuildArgs.startAddr, start, size, least, greatest,
        Option.getD_some, Option.getD_none] at outside
      omega
  · obtain ⟨layers, loaded, represents⟩ := BuildArgs.combine_represents combined
    refine ⟨layers, loaded, fun addr member => ?_⟩
    obtain ⟨lo, hi, least, greatest, bounded⟩ := represents.within member
    exact ⟨lo, hi, represents.globalMin_eq.symm.trans least,
      represents.globalMax_eq.symm.trans greatest, bounded⟩

/-- `write_intel_hex` on the combined dict, its keys read as natural numbers. -/
theorem lookup_map_toNat {items : List (Int × UInt8)}
    (nonneg : ∀ addr ∈ items.map Prod.fst, 0 ≤ addr) (addr : Nat) :
    (items.map fun item => (item.1.toNat, item.2)).lookup addr = items.lookup (addr : Int) := by
  induction items with
  | nil => rfl
  | cons item items induction =>
    obtain ⟨key, byte⟩ := item
    have keyNonneg := nonneg key (List.mem_cons_self _ _)
    have rest := induction fun other member => nonneg other (List.mem_cons_of_mem _ member)
    by_cases same : (addr : Int) = key
    · have natSame : addr = key.toNat := by omega
      simp only [List.map_cons, List.lookup_cons, beq_iff_eq.mpr natSame, beq_iff_eq.mpr same]
    · have natOther : addr ≠ key.toNat := by omega
      simp only [List.map_cons, List.lookup_cons, beq_false_of_ne same, beq_false_of_ne natOther,
        rest]

/-- A HEX build whose addresses all fit 16 bits writes a file that `parse_intel_hex` reads back to
the layers' image. -/
theorem buildMode_hex_readBack {args : BuildArgs} {combined : List (Int × UInt8)}
    (built : buildMode args = .ok (.hex combined))
    (small : ∀ addr ∈ combined.map Prod.fst, 0 ≤ addr ∧ addr < 0x10000) :
    ∃ layers, args.layers = .ok layers ∧ ∃ text,
      writeIntelHex (combined.map fun item => (item.1.toNat, item.2)) 16 = some text ∧
      ∃ result low high, parseIntelHex (encodeAscii text) = .ok (result, low, high) ∧
        ∀ addr : Nat, result.lookup addr = image layers addr := by
  obtain ⟨state, combinedOk, written⟩ := Except.bind_eq_ok.mp built
  obtain ⟨layers, layered, represents⟩ := BuildArgs.combine_represents combinedOk
  obtain ⟨nonempty, hex, binary⟩ := BuildArgs.write_ok written
  have isHex : args.hexOutput = true := by
    cases hexOutput : args.hexOutput
    · obtain ⟨_, -, same⟩ := binary hexOutput
      cases same
    · rfl
  cases hex isHex
  have natSmall : ∀ addr ∈ (state.combined.map fun item => (item.1.toNat, item.2)).map Prod.fst,
      addr < 0x10000 := by
    simp only [List.map_map, List.mem_map] at small ⊢
    rintro _ ⟨item, member, rfl⟩
    have := small item.1 ⟨item, member, rfl⟩
    simp only [Function.comp_apply]
    omega
  obtain ⟨text, wrote, result, low, high, -, -, parsed, same⟩ :=
    writeIntelHex_roundTrip (by simpa using nonempty) natSmall (by decide : 0 < 16)
      (by decide : 16 < 256)
  refine ⟨layers, layered, text, wrote, result, low, high, parsed, fun addr => ?_⟩
  rw [same, lookup_map_toNat (fun addr member => (small addr member).1), represents.lookup_eq]

/-! ## Builds on fixed inputs -/

/-- Two `--patch` files, the second laid over the first at `0x101`, with the default window. -/
def samplePatches : BuildArgs :=
  ⟨none, [], [(0x100, [1, 2, 3]), (0x101, [9])], [], [], none, none, 0, .error, false⟩

theorem samplePatches_binary :
    buildMode samplePatches = .ok (.binary [1, 9, 3]) ∧ ∃ layers lo hi,
      samplePatches.layers = .ok layers ∧ (layers.map Layer.minAddr).min? = some lo ∧
      (layers.map Layer.maxAddr).max? = some hi ∧
      [1, 9, 3] = (List.range (samplePatches.size.getD
        (hi - samplePatches.start.getD lo + 1)).toNat).map fun (i : Nat) =>
          (image layers (samplePatches.start.getD lo + i)).getD (toByte samplePatches.fill) :=
  have built : buildMode samplePatches = .ok (.binary [1, 9, 3]) := by decide
  ⟨built, buildMode_binary built⟩

/-- The sample with a `--hex` file that holds no data record. -/
def sampleEmptyHex : BuildArgs := { samplePatches with hex := [[]] }

theorem sampleEmptyHex_error :
    sampleEmptyHex.start = none ∧ sampleEmptyHex.size = none ∧
      buildMode sampleEmptyHex = .error (.raised .hexNoDataRecords) ∧
      ((∀ e, buildMode sampleEmptyHex = .error e →
        (∃ p, e = .raised p) ∨ (∃ index, e = .inputNotHex index) ∨ e = .noData) ∧
      ∀ state, sampleEmptyHex.combine = .ok state → ∃ layers, sampleEmptyHex.layers = .ok layers ∧
        ∀ addr ∈ state.combined.map Prod.fst, ∃ lo hi, (layers.map Layer.minAddr).min? = some lo ∧
          (layers.map Layer.maxAddr).max? = some hi ∧ lo ≤ addr ∧ addr ≤ hi) :=
  ⟨rfl, rfl, by decide, buildMode_default_window_error rfl rfl⟩

/-- The sample written as Intel HEX. -/
def sampleHexOutput : BuildArgs := { samplePatches with hexOutput := true }

theorem sampleHexOutput_readBack :
    buildMode sampleHexOutput = .ok (.hex [(0x100, 1), (0x101, 9), (0x102, 3)]) ∧
      ∃ layers, sampleHexOutput.layers = .ok layers ∧ ∃ text,
        writeIntelHex ([(0x100, 1), (0x101, 9), (0x102, 3)].map fun (item : Int × UInt8) =>
          (item.1.toNat, item.2)) 16 = some text ∧
        ∃ result low high, parseIntelHex (encodeAscii text) = .ok (result, low, high) ∧
          ∀ addr : Nat, result.lookup addr = image layers addr :=
  have built : buildMode sampleHexOutput = .ok (.hex [(0x100, 1), (0x101, 9), (0x102, 3)]) := by
    decide
  ⟨built, buildMode_hex_readBack built (by decide)⟩

end Mpm2Tools.DriPatch
