import Mpm2Tools.Foundation.PyText

/-! # Intel HEX in `dri_patch.py`

`parse_intel_hex` reads an Intel HEX file into a dict from addresses to bytes and returns it with
the least and the greatest address it stored. `write_intel_hex` writes such a dict back: one data
record for each run of present addresses, cut every `bytes_per_line` bytes, then an EOF record.

Dicts are item lists (`dictSet`); the writer reads its dict with `List.lookup`. A file's text is
`List Char`, and its bytes are `encodeAscii` of that text. -/

namespace Mpm2Tools.DriPatch

/-! ## The parser -/

/-- The locals `parse_intel_hex` carries from line to line. -/
structure HexParse where
  result : List (Nat × UInt8)
  minAddr : Option Nat
  maxAddr : Option Nat
  extendedAddr : Nat
  deriving DecidableEq, Repr

/-- The locals before the first line. -/
def HexParse.init : HexParse := ⟨[], none, none, 0⟩

/-- `result[addr] = byte`, then the updates of `min_addr` and `max_addr` that follow it. -/
def HexParse.store (state : HexParse) (addr : Nat) (byte : UInt8) : HexParse :=
  { state with
    result := dictSet state.result addr byte
    minAddr := if state.minAddr.all (addr < ·) then some addr else state.minAddr
    maxAddr := if state.maxAddr.all (addr > ·) then some addr else state.maxAddr }

/-- The loop over `enumerate(hex_data[4:4+byte_count])` of a data record: byte `i` goes to
`full_addr + i`. -/
def HexParse.storeBytes (state : HexParse) (fullAddr : Nat) : List UInt8 → HexParse
  | [] => state
  | byte :: bytes => (state.store fullAddr byte).storeBytes (fullAddr + 1) bytes

/-- `((hex_data[4] << 8) | hex_data[5]) << shift`, the base an extended address record sets. -/
def extendedBase (hexData : List UInt8) (shift : Nat) : Except PyError Nat := do
  let high ← getByte hexData 4
  let low ← getByte hexData 5
  return ((high.toNat <<< 8) ||| low.toNat) <<< shift

/-- The body of the `try` block for a line `:` + `record`. `none` is the `break` at an EOF record;
record types other than 00, 01, 02 and 04 leave the locals as they are. -/
def parseRecord (lineNum : Nat) (state : HexParse) (record : List Char) :
    Except PyError (Option HexParse) := do
  let hexData ← fromHex record
  let byteCount ← getByte hexData 0
  let addrHigh ← getByte hexData 1
  let addrLow ← getByte hexData 2
  let address := (addrHigh.toNat <<< 8) ||| addrLow.toNat
  let recordType ← getByte hexData 3
  let checksum := (hexData.map UInt8.toNat).sum &&& 0xFF
  if checksum ≠ 0 then throw (.hexBadChecksum lineNum)
  if recordType = 0x00 then
    let fullAddr := state.extendedAddr + address
    return some (state.storeBytes fullAddr (sliceGet hexData 4 (4 + byteCount.toNat)))
  else if recordType = 0x01 then
    return none
  else if recordType = 0x02 then
    return some { state with extendedAddr := ← extendedBase hexData 4 }
  else if recordType = 0x04 then
    return some { state with extendedAddr := ← extendedBase hexData 16 }
  else
    return some state

/-- The loop `for line_num, line in enumerate(lines, 1)`: blank lines and lines that do not start
with `:` are skipped, every exception of a record is raised again with its line number, and an
EOF record ends the loop. -/
def parseLines (lineNum : Nat) (state : HexParse) : List (List Char) → Except PyError HexParse
  | [] => pure state
  | line :: lines =>
      let line := pyStrip line
      if line = [] then parseLines (lineNum + 1) state lines
      else if line.head? ≠ some ':' then parseLines (lineNum + 1) state lines
      else match parseRecord lineNum state line.tail with
        | .error e => throw (.hexLine lineNum e)
        | .ok none => pure state
        | .ok (some next) => parseLines (lineNum + 1) next lines

/-- `parse_intel_hex(data)`: the dict and `min_addr or 0`, `max_addr or 0`. -/
def parseIntelHex (data : List UInt8) : Except PyError (List (Nat × UInt8) × Nat × Nat) := do
  let final ← parseLines 1 HexParse.init ((decodeAscii data).splitOn '\n')
  if final.result = [] then throw .hexNoDataRecords
  return (final.result, final.minAddr.getD 0, final.maxAddr.getD 0)

/-- A record whose byte count (2) is larger than the data bytes it holds (1) is accepted: the
slice `hex_data[4:4+byte_count]` reaches the checksum byte, which is stored as data, and the
checksum test still passes since it sums the bytes present. -/
theorem parseIntelHex_reads_checksum_as_data :
    fromHex "0200000001FD".toList = .ok [2, 0, 0, 0, 1, 0xFD] ∧
    parseIntelHex (encodeAscii ":0200000001FD\n".toList) = .ok ([(0, 1), (1, 0xFD)], 0, 1) := by
  decide

/-! ## What a normal return holds

`min_addr` and `max_addr` follow the keys of `result`: every store keeps them the least and the
greatest key, and every record either stores bytes or changes only `extended_addr`. -/

/-- `min_addr` and `max_addr` are the least and the greatest key of `result`, both `None` while it
is empty. -/
def HexParse.Bounded (state : HexParse) : Prop :=
  state.minAddr = (state.result.map Prod.fst).min? ∧
    state.maxAddr = (state.result.map Prod.fst).max?

theorem min?_concat (keys : List Nat) (addr : Nat) :
    (keys ++ [addr]).min? = some (keys.min?.elim addr (min · addr)) := by
  cases keys <;> simp [List.min?, List.foldl_append]

theorem max?_concat (keys : List Nat) (addr : Nat) :
    (keys ++ [addr]).max? = some (keys.max?.elim addr (max · addr)) := by
  cases keys <;> simp [List.max?, List.foldl_append]

theorem HexParse.Bounded.store {state : HexParse} (bounded : state.Bounded) (addr : Nat)
    (byte : UInt8) : (state.store addr byte).Bounded := by
  obtain ⟨low, high⟩ := bounded
  simp only [Bounded, HexParse.store, map_fst_dictSet, low, high]
  by_cases present : addr ∈ state.result.map Prod.fst
  · obtain ⟨least, leastEq⟩ := Option.isSome_iff_exists.mp (List.isSome_min?_of_mem present)
    obtain ⟨greatest, greatestEq⟩ := Option.isSome_iff_exists.mp (List.isSome_max?_of_mem present)
    have below := (List.min?_eq_some_iff'.mp leastEq).2 addr present
    have above := (List.max?_eq_some_iff'.mp greatestEq).2 addr present
    simp [present, leastEq, greatestEq]
    omega
  · rw [if_neg present, min?_concat, max?_concat]
    cases (state.result.map Prod.fst).min? <;> cases (state.result.map Prod.fst).max? <;>
      simp only [Option.all_some, Option.all_none, Option.elim, min_def, max_def,
        decide_eq_true_eq, gt_iff_lt] <;> split_ifs <;> simp <;> omega

theorem HexParse.Bounded.storeBytes {state : HexParse} (bounded : state.Bounded)
    (fullAddr : Nat) (bytes : List UInt8) : (state.storeBytes fullAddr bytes).Bounded := by
  induction bytes generalizing state fullAddr with
  | nil => exact bounded
  | cons byte bytes induction => exact induction (bounded.store fullAddr byte) (fullAddr + 1)

/-- A record that does not end the loop either stores bytes or sets `extended_addr`. -/
theorem parseRecord_some {lineNum : Nat} {state next : HexParse} {record : List Char}
    (parsed : parseRecord lineNum state record = .ok (some next)) :
    (∃ fullAddr bytes, next = state.storeBytes fullAddr bytes) ∨
      ∃ base, next = { state with extendedAddr := base } := by
  simp only [parseRecord, bind, Except.bind, pure, Except.pure, throw, throwThe,
    MonadExceptOf.throw] at parsed
  repeat' split at parsed
  all_goals cases parsed
  all_goals first | exact .inl ⟨_, _, rfl⟩ | exact .inr ⟨_, rfl⟩

theorem HexParse.Bounded.parseRecord {lineNum : Nat} {state next : HexParse}
    {record : List Char} (bounded : state.Bounded)
    (parsed : parseRecord lineNum state record = .ok (some next)) : next.Bounded := by
  rcases parseRecord_some parsed with ⟨fullAddr, bytes, rfl⟩ | ⟨base, rfl⟩
  · exact bounded.storeBytes fullAddr bytes
  · exact bounded

theorem HexParse.Bounded.parseLines {lineNum : Nat} {state final : HexParse}
    {lines : List (List Char)} (bounded : state.Bounded)
    (parsed : DriPatch.parseLines lineNum state lines = .ok final) : final.Bounded := by
  induction lines generalizing lineNum state with
  | nil => cases parsed; exact bounded
  | cons line lines induction =>
      simp only [DriPatch.parseLines] at parsed
      split_ifs at parsed
      · exact induction bounded parsed
      · exact induction bounded parsed
      · split at parsed
        · cases parsed
        · cases parsed; exact bounded
        · rename_i recorded
          exact induction (bounded.parseRecord recorded) parsed

/-- Whatever the input, a normal return holds at least one byte, and the two addresses returned
are the least and the greatest key of the dict. -/
theorem parseIntelHex_bounds {data : List UInt8} {result : List (Nat × UInt8)} {low high : Nat}
    (parsed : parseIntelHex data = .ok (result, low, high)) :
    result ≠ [] ∧ (result.map Prod.fst).min? = some low ∧
      (result.map Prod.fst).max? = some high := by
  simp only [parseIntelHex, bind, Except.bind, pure, Except.pure, throw, throwThe,
    MonadExceptOf.throw] at parsed
  split at parsed
  · cases parsed
  · rename_i final lined
    split_ifs at parsed with empty
    cases parsed
    obtain ⟨least, greatest⟩ := (HexParse.Bounded.parseLines ⟨rfl, rfl⟩ lined : final.Bounded)
    have keys : final.result.map Prod.fst ≠ [] := by simpa using empty
    obtain ⟨lo, loEq⟩ := Option.ne_none_iff_exists'.mp (mt List.min?_eq_none_iff.mp keys)
    obtain ⟨hi, hiEq⟩ := Option.ne_none_iff_exists'.mp (mt List.max?_eq_none_iff.mp keys)
    simp [least, greatest, loEq, hiEq, empty]

/-- A property of the locals that every store keeps and that a new `extended_addr` does not break
holds after the line loop. -/
theorem parseLines_preserves (P : HexParse → Prop)
    (store : ∀ state addr byte, P state → P (state.store addr byte))
    (extended : ∀ state base, P state → P { state with extendedAddr := base })
    {lineNum : Nat} {state final : HexParse} {lines : List (List Char)} (holds : P state)
    (parsed : parseLines lineNum state lines = .ok final) : P final := by
  have storeBytes : ∀ state fullAddr bytes, P state → P (state.storeBytes fullAddr bytes) := by
    intro state fullAddr bytes holds
    induction bytes generalizing state fullAddr with
    | nil => exact holds
    | cons byte bytes induction => exact induction _ _ (store _ _ _ holds)
  induction lines generalizing lineNum state with
  | nil => cases parsed; exact holds
  | cons line lines induction =>
      simp only [parseLines] at parsed
      split_ifs at parsed
      · exact induction holds parsed
      · exact induction holds parsed
      · split at parsed
        · cases parsed
        · cases parsed; exact holds
        · rename_i recorded
          rcases parseRecord_some recorded with ⟨fullAddr, bytes, rfl⟩ | ⟨base, rfl⟩
          · exact induction (storeBytes _ _ _ holds) parsed
          · exact induction (extended _ _ holds) parsed

/-- The dict `parse_intel_hex` returns holds no address twice. -/
theorem parseIntelHex_nodup {data : List UInt8} {result : List (Nat × UInt8)} {low high : Nat}
    (parsed : parseIntelHex data = .ok (result, low, high)) : (result.map Prod.fst).Nodup := by
  simp only [parseIntelHex, bind, Except.bind, pure, Except.pure, throw, throwThe,
    MonadExceptOf.throw] at parsed
  split at parsed
  · cases parsed
  · rename_i final lined
    split_ifs at parsed
    cases parsed
    exact parseLines_preserves (fun state => (state.result.map Prod.fst).Nodup)
      (fun _ _ _ keys => nodup_dictSet keys) (fun _ _ keys => keys) (by exact List.nodup_nil) lined

/-! ## The writer -/

/-- `hex_str` of a data record: `format(b, '02X')` of every entry of
`record = [byte_count, addr_hi, addr_lo, 0x00] + line_bytes`, then of the checksum
`(-sum(record)) & 0xFF`, which on Python's integers is the remainder modulo 256. -/
def hexStr (lineStart : Nat) (lineBytes : List UInt8) : List Char :=
  let record := [lineBytes.length, (lineStart >>> 8) &&& 0xFF, lineStart &&& 0xFF, 0x00] ++
    lineBytes.map UInt8.toNat
  let checksum := ((-(record.sum : Int)) % 256).toNat
  record.flatMap formatHex02 ++ formatHex02 checksum

/-- The inner `while` loop of `write_intel_hex`: from `addr`, gather the bytes of one line into
`line_bytes`, skipping absent addresses while the line is still empty and ending it at the first
absent one after that. Returns the final `addr`, `line_start` and `line_bytes`. -/
def collectLine (addrDict : List (Nat × UInt8)) (maxAddr bytesPerLine : Nat) (addr lineStart : Nat)
    (lineBytes : List UInt8) : Nat × Nat × List UInt8 :=
  if addr ≤ maxAddr ∧ lineBytes.length < bytesPerLine then
    match addrDict.lookup addr with
    | some byte =>
        collectLine addrDict maxAddr bytesPerLine (addr + 1) lineStart (lineBytes ++ [byte])
    | none =>
        if lineBytes ≠ [] then (addr, lineStart, lineBytes)
        else collectLine addrDict maxAddr bytesPerLine (addr + 1) (addr + 1) lineBytes
  else (addr, lineStart, lineBytes)
termination_by maxAddr + 1 - addr

/-- The outer `while addr <= max_addr` loop: the data records from `addr` on. It is `none` where
the loop never ends: when the inner loop cannot move (`bytes_per_line` is 0), the locals repeat. -/
def writeLines (addrDict : List (Nat × UInt8)) (maxAddr bytesPerLine : Nat) (addr : Nat) :
    Option (List Char) :=
  if addr ≤ maxAddr then
    let (nextAddr, lineStart, lineBytes) := collectLine addrDict maxAddr bytesPerLine addr addr []
    if nextAddr ≤ addr then none
    else
      let record := if lineBytes = [] then [] else (':' :: hexStr lineStart lineBytes) ++ ['\n']
      (record ++ ·) <$> writeLines addrDict maxAddr bytesPerLine nextAddr
  else some []
termination_by maxAddr + 1 - addr
decreasing_by omega

/-- The EOF record that ends every file. -/
def eofRecord : List Char := ":00000001FF\n".toList

/-- `write_intel_hex(addr_dict, filepath, bytes_per_line)`: the text of the file, `none` where the
writer never returns. The keys have a least and a greatest element exactly when the dict is not
empty. -/
def writeIntelHex (addrDict : List (Nat × UInt8)) (bytesPerLine : Nat) : Option (List Char) :=
  match (addrDict.map Prod.fst).min?, (addrDict.map Prod.fst).max? with
  | some minAddr, some maxAddr =>
      (· ++ eofRecord) <$> writeLines addrDict maxAddr bytesPerLine minAddr
  | _, _ => some eofRecord

end Mpm2Tools.DriPatch
