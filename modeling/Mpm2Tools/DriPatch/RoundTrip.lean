import Mpm2Tools.DriPatch.IntelHex

/-! # Reading back what `write_intel_hex` writes

The writer's two loops cut the present addresses from `min_addr` to `max_addr` into records: the
inner loop (`collectLine`) keeps the line holding exactly the entries it has passed, and the outer
loop (`writeLines`) therefore writes records whose entries, one after the other, are all the
entries of the dict in address order. The parser reads each record back to its entries, so it
rebuilds the dict, and the bounds it returns are the dict's least and greatest address. -/

namespace Mpm2Tools.DriPatch

/-! ## Entries in address order -/

/-- The entries of `addrDict` at the addresses from `first` up to `stop`, in address order. -/
def entriesBetween (addrDict : List (Nat × UInt8)) (first stop : Nat) : List (Nat × UInt8) :=
  (List.range' first (stop - first)).filterMap fun addr => (addrDict.lookup addr).map (addr, ·)

/-- The entries of one data record: `line_bytes` at consecutive addresses from `line_start`. -/
def lineEntries (line : Nat × List UInt8) : List (Nat × UInt8) :=
  (List.range' line.1 line.2.length).zip line.2

section Entries

variable (addrDict : List (Nat × UInt8))

@[simp] theorem entriesBetween_self (addr : Nat) : entriesBetween addrDict addr addr = [] := by
  simp [entriesBetween]

theorem entriesBetween_succ {first addr : Nat} (le : first ≤ addr) :
    entriesBetween addrDict first (addr + 1) =
      entriesBetween addrDict first addr ++ ((addrDict.lookup addr).map (addr, ·)).toList := by
  rw [entriesBetween, entriesBetween, show addr + 1 - first = addr - first + 1 by omega,
    List.range'_1_concat, List.filterMap_append, Nat.add_sub_cancel' le]
  simp only [List.filterMap_cons, List.filterMap_nil]
  cases addrDict.lookup addr <;> rfl

theorem entriesBetween_append {first middle stop : Nat} (le : first ≤ middle)
    (le' : middle ≤ stop) :
    entriesBetween addrDict first middle ++ entriesBetween addrDict middle stop =
      entriesBetween addrDict first stop := by
  have split := List.range'_append_1 first (middle - first) (stop - middle)
  rw [Nat.add_sub_cancel' le, show stop - middle + (middle - first) = stop - first by omega]
    at split
  rw [entriesBetween, entriesBetween, entriesBetween, ← List.filterMap_append, split]

theorem lookup_entriesBetween (first stop addr : Nat) :
    (entriesBetween addrDict first stop).lookup addr =
      if first ≤ addr ∧ addr < stop then addrDict.lookup addr else none := by
  induction stop with
  | zero => simp [entriesBetween]
  | succ stop induction =>
      by_cases le : first ≤ stop
      · rw [entriesBetween_succ addrDict le, List.lookup_append, induction]
        by_cases same : addr = stop
        · subst same
          cases addrDict.lookup addr <;> simp [le]
        · have past : (((addrDict.lookup stop).map (stop, ·)).toList).lookup addr = none := by
            cases addrDict.lookup stop <;> simp [List.lookup_cons, beq_false_of_ne same]
          have range : (first ≤ addr ∧ addr < stop) ↔ (first ≤ addr ∧ addr < stop + 1) := by
            omega
          simp only [past, Option.or_none, range]
      · have empty : entriesBetween addrDict first (stop + 1) = [] := by
          simp [entriesBetween, show stop + 1 - first = 0 by omega]
        rw [empty, if_neg (by omega)]
        rfl

/-- The addresses of the entries are strictly increasing. -/
theorem pairwise_entriesBetween (first stop : Nat) :
    ((entriesBetween addrDict first stop).map Prod.fst).Pairwise (· < ·) := by
  rw [List.pairwise_map]
  refine (List.pairwise_lt_range' first (stop - first)).filterMap _ ?_
  intro addr addr' lt entry member entry' member'
  simp only [Option.mem_def, Option.map_eq_some'] at member member'
  obtain ⟨_, _, rfl⟩ := member
  obtain ⟨_, _, rfl⟩ := member'
  exact lt

end Entries

/-! ## The writer's loops -/

section Writer

variable (addrDict : List (Nat × UInt8)) (maxAddr bytesPerLine : Nat)

/-- What the inner loop keeps on a line it began at `first`: the line holds the entries from
`first` up to `addr`, at consecutive addresses from `lineStart`, and is not longer than
`bytesPerLine`. -/
structure LineInvariant (first addr lineStart : Nat) (lineBytes : List UInt8) : Prop where
  first_le : first ≤ lineStart
  filled : lineStart + lineBytes.length = addr
  entries : lineEntries (lineStart, lineBytes) = entriesBetween addrDict first addr
  short : lineBytes.length ≤ bytesPerLine
  bounded : addr ≤ maxAddr + 1

variable {addrDict maxAddr bytesPerLine}

theorem LineInvariant.start {first : Nat} (first_le : first ≤ maxAddr + 1) :
    LineInvariant addrDict maxAddr bytesPerLine first first first [] :=
  ⟨le_rfl, rfl, by simp [lineEntries], Nat.zero_le _, first_le⟩

/-- A present address joins the line. -/
theorem LineInvariant.append {first addr lineStart : Nat} {lineBytes : List UInt8} {byte : UInt8}
    (holds : LineInvariant addrDict maxAddr bytesPerLine first addr lineStart lineBytes)
    (inside : addr ≤ maxAddr) (room : lineBytes.length < bytesPerLine)
    (found : addrDict.lookup addr = some byte) :
    LineInvariant addrDict maxAddr bytesPerLine first (addr + 1) lineStart (lineBytes ++ [byte]) :=
  have filled := holds.filled
  { first_le := holds.first_le
    filled := by simp only [List.length_append, List.length_singleton]; omega
    entries := by
      rw [entriesBetween_succ addrDict (by have := holds.first_le; omega), ← holds.entries,
        found]
      simp only [lineEntries, List.length_append, List.length_singleton, List.range'_1_concat,
        List.zip_append (List.length_range' _ _ _), filled]
      rfl
    short := by simp only [List.length_append, List.length_singleton]; omega
    bounded := by omega }

/-- An absent address before the line's first byte moves the line's start past it. -/
theorem LineInvariant.skip {first addr lineStart : Nat}
    (holds : LineInvariant addrDict maxAddr bytesPerLine first addr lineStart [])
    (inside : addr ≤ maxAddr) (absent : addrDict.lookup addr = none) :
    LineInvariant addrDict maxAddr bytesPerLine first (addr + 1) (addr + 1) [] :=
  have filled := holds.filled
  { first_le := by have := holds.first_le; simp only [List.length_nil] at filled; omega
    filled := rfl
    entries := by
      rw [entriesBetween_succ addrDict (by have := holds.first_le; simp at filled; omega),
        ← holds.entries, absent]
      rfl
    short := Nat.zero_le _
    bounded := by omega }

/-- The inner loop keeps the invariant to its end. -/
theorem LineInvariant.collectLine {first addr lineStart : Nat} {lineBytes : List UInt8}
    (holds : LineInvariant addrDict maxAddr bytesPerLine first addr lineStart lineBytes) :
    let line := DriPatch.collectLine addrDict maxAddr bytesPerLine addr lineStart lineBytes
    LineInvariant addrDict maxAddr bytesPerLine first line.1 line.2.1 line.2.2 := by
  induction addr, lineStart, lineBytes using collectLine.induct addrDict maxAddr bytesPerLine with
  | case1 addr lineStart lineBytes room byte found induction =>
      rw [DriPatch.collectLine, if_pos room, found]
      exact induction (holds.append room.1 room.2 found)
  | case2 addr lineStart lineBytes room absent nonempty =>
      rw [DriPatch.collectLine, if_pos room, absent, if_pos nonempty]
      exact holds
  | case3 addr lineStart lineBytes room absent empty induction =>
      rw [DriPatch.collectLine, if_pos room, absent, if_neg empty]
      rw [not_not] at empty
      subst empty
      exact induction (holds.skip room.1 absent)
  | case4 addr lineStart lineBytes stopped =>
      rw [DriPatch.collectLine, if_neg stopped]
      exact holds

theorem le_collectLine (addr lineStart : Nat) (lineBytes : List UInt8) :
    addr ≤ (collectLine addrDict maxAddr bytesPerLine addr lineStart lineBytes).1 := by
  induction addr, lineStart, lineBytes using collectLine.induct addrDict maxAddr bytesPerLine with
  | case1 addr lineStart lineBytes room byte found induction =>
      rw [collectLine, if_pos room, found]
      exact Nat.le_of_succ_le induction
  | case2 addr lineStart lineBytes room absent nonempty =>
      rw [collectLine, if_pos room, absent, if_pos nonempty]
  | case3 addr lineStart lineBytes room absent empty induction =>
      rw [collectLine, if_pos room, absent, if_neg empty]
      exact Nat.le_of_succ_le induction
  | case4 addr lineStart lineBytes stopped =>
      rw [collectLine, if_neg stopped]

/-- With room for a byte, the inner loop passes at least one address. -/
theorem lt_collectLine {addr : Nat} (inside : addr ≤ maxAddr) (positive : 0 < bytesPerLine) :
    addr < (collectLine addrDict maxAddr bytesPerLine addr addr []).1 := by
  rw [collectLine, if_pos ⟨inside, positive⟩]
  cases addrDict.lookup addr <;> exact le_collectLine _ _ _

/-- The inner loop stops at a full line, past `max_addr`, or at an absent address. -/
theorem collectLine_stops (addr lineStart : Nat) {lineBytes : List UInt8}
    (short : lineBytes.length ≤ bytesPerLine) :
    let line := collectLine addrDict maxAddr bytesPerLine addr lineStart lineBytes
    line.2.2.length = bytesPerLine ∨ maxAddr < line.1 ∨ addrDict.lookup line.1 = none := by
  induction addr, lineStart, lineBytes using collectLine.induct addrDict maxAddr bytesPerLine with
  | case1 addr lineStart lineBytes room byte found induction =>
      rw [collectLine, if_pos room, found]
      exact induction (by simp only [List.length_append, List.length_singleton]; omega)
  | case2 addr lineStart lineBytes room absent nonempty =>
      rw [collectLine, if_pos room, absent, if_pos nonempty]
      exact .inr (.inr absent)
  | case3 addr lineStart lineBytes room absent empty induction =>
      rw [collectLine, if_pos room, absent, if_neg empty]
      exact induction short
  | case4 addr lineStart lineBytes stopped =>
      rw [collectLine, if_neg stopped]
      dsimp only
      omega

/-- A data record's line as the parser sees it once the text is split at line feeds. -/
def recordLine (line : Nat × List UInt8) : List Char := ':' :: hexStr line.1 line.2

/-- From `addr` on, the writer writes one record for each line of a list whose entries, one after
the other, are the dict's entries from `addr` to `max_addr`. Every line holds between one and
`bytes_per_line` bytes, ends by `max_addr`, and is full or followed by an address past `max_addr`
or absent from the dict. -/
theorem writeLines_records (positive : 0 < bytesPerLine) {addr : Nat}
    (bounded : addr ≤ maxAddr + 1) :
    ∃ lines : List (Nat × List UInt8),
      writeLines addrDict maxAddr bytesPerLine addr =
        some (lines.flatMap fun line => recordLine line ++ ['\n']) ∧
      lines.flatMap lineEntries = entriesBetween addrDict addr (maxAddr + 1) ∧
      ∀ line ∈ lines, line.2 ≠ [] ∧ line.2.length ≤ bytesPerLine ∧
        line.1 + line.2.length ≤ maxAddr + 1 ∧
        (line.2.length = bytesPerLine ∨ maxAddr < line.1 + line.2.length ∨
          addrDict.lookup (line.1 + line.2.length) = none) := by
  induction addr using writeLines.induct addrDict maxAddr bytesPerLine with
  | case1 addr inside nextAddr lineStart lineBytes collected stuck =>
      have moved : addr < (collectLine addrDict maxAddr bytesPerLine addr addr []).1 :=
        lt_collectLine inside positive
      rw [collected] at moved
      exact absurd stuck (Nat.not_le.mpr moved)
  | case2 addr inside nextAddr lineStart lineBytes collected moved induction =>
      have holds := (LineInvariant.start bounded :
        LineInvariant addrDict maxAddr bytesPerLine addr addr addr []).collectLine
      rw [collected] at holds
      have passed : addr ≤ nextAddr := by have := holds.first_le; have := holds.filled; omega
      have split := entriesBetween_append addrDict passed holds.bounded
      obtain ⟨lines, written, entries, valid⟩ := induction holds.bounded
      rw [writeLines, if_pos inside, collected]
      simp only [if_neg moved, written, Option.map_eq_map, Option.map_some']
      by_cases empty : lineBytes = []
      · refine ⟨lines, by simp [empty], ?_, valid⟩
        rw [entries, ← split, ← holds.entries, empty]
        rfl
      · refine ⟨(lineStart, lineBytes) :: lines, by simp [empty, recordLine], ?_, ?_⟩
        · rw [List.flatMap_cons, entries, holds.entries, split]
        · rintro line (_ | ⟨_, member⟩)
          · have stops := @collectLine_stops addrDict maxAddr bytesPerLine addr addr [] (Nat.zero_le _)
            rw [collected] at stops
            exact ⟨empty, holds.short, holds.filled ▸ holds.bounded, holds.filled ▸ stops⟩
          · exact valid line member
  | case3 addr outside =>
      refine ⟨[], by rw [writeLines, if_neg outside]; rfl, ?_, by simp⟩
      rw [show addr = maxAddr + 1 by omega, entriesBetween_self]
      rfl

end Writer

/-- A dict that is not empty has a least and a greatest address. -/
theorem exists_min?_max? {addrDict : List (Nat × UInt8)} (nonempty : addrDict ≠ []) :
    ∃ low high, (addrDict.map Prod.fst).min? = some low ∧
      (addrDict.map Prod.fst).max? = some high := by
  have keys : addrDict.map Prod.fst ≠ [] := by simpa using nonempty
  obtain ⟨low, lowEq⟩ := Option.ne_none_iff_exists'.mp (mt List.min?_eq_none_iff.mp keys)
  obtain ⟨high, highEq⟩ := Option.ne_none_iff_exists'.mp (mt List.max?_eq_none_iff.mp keys)
  exact ⟨low, high, lowEq, highEq⟩

theorem min?_le_max? {keys : List Nat} {low high : Nat} (lowEq : keys.min? = some low)
    (highEq : keys.max? = some high) : low ≤ high :=
  (List.min?_eq_some_iff'.mp lowEq).2 high (List.max?_eq_some_iff'.mp highEq).1

/-- `write_intel_hex` never returns exactly when the dict is not empty and `bytes_per_line` is 0. -/
theorem writeIntelHex_eq_none_iff {addrDict : List (Nat × UInt8)} {bytesPerLine : Nat} :
    writeIntelHex addrDict bytesPerLine = none ↔ addrDict ≠ [] ∧ bytesPerLine = 0 := by
  by_cases empty : addrDict = []
  · simp [writeIntelHex, empty]
  obtain ⟨low, high, lowEq, highEq⟩ := exists_min?_max? empty
  have ordered := min?_le_max? lowEq highEq
  simp only [writeIntelHex, lowEq, highEq, Option.map_eq_map, Option.map_eq_none', empty,
    ne_eq, not_false_eq_true, true_and]
  rcases Nat.eq_zero_or_pos bytesPerLine with zero | positive
  · subst zero
    rw [writeLines, if_pos ordered, collectLine, if_neg (by simp)]
    simp
  · obtain ⟨lines, written, -⟩ :=
      @writeLines_records addrDict high bytesPerLine positive low (Nat.le_succ_of_le ordered)
    simp only [written, reduceCtorEq, false_iff]
    omega

/-! ## Reading one record back -/

theorem and_0xFF (x : Nat) : x &&& 0xFF = x % 256 := Nat.and_pow_two_sub_one_eq_mod x 8

theorem shiftLeft_or_of_lt {high low : Nat} (small : low < 256) :
    (high <<< 8) ||| low = high * 256 + low := by
  rw [Nat.shiftLeft_eq, Nat.mul_comm, ← Nat.mul_add_lt_is_or small]

/-- `bytes.fromhex` reads a record's `hex_str` back to the record and a checksum byte that brings
the sum of all bytes to a multiple of 256. -/
theorem fromHex_hexStr {lineStart : Nat} {lineBytes : List UInt8} (short : lineBytes.length < 256)
    (low : lineStart < 0x10000) :
    ∃ check : UInt8, fromHex (hexStr lineStart lineBytes) =
        .ok (UInt8.ofNat lineBytes.length :: UInt8.ofNat (lineStart / 256) ::
          UInt8.ofNat (lineStart % 256) :: 0 :: (lineBytes ++ [check])) ∧
      (lineBytes.length + lineStart / 256 + lineStart % 256 + (lineBytes.map UInt8.toNat).sum +
        check.toNat) % 256 = 0 := by
  have high : (lineStart >>> 8) &&& 0xFF = lineStart / 256 := by
    rw [and_0xFF, Nat.shiftRight_eq_div_pow]
    omega
  let record := [lineBytes.length, lineStart / 256, lineStart % 256, 0] ++
    lineBytes.map UInt8.toNat
  let checksum := ((-(record.sum : Int)) % 256).toNat
  have digits : hexStr lineStart lineBytes = (record ++ [checksum]).flatMap formatHex02 := by
    simp [hexStr, record, checksum, high, and_0xFF]
  have small : ∀ v ∈ record ++ [checksum], v < 256 := by
    intro v member
    simp only [record, checksum, List.mem_append, List.mem_cons, List.mem_map,
      List.mem_singleton, List.not_mem_nil, or_false] at member
    rcases member with ((rfl | rfl | rfl | rfl) | ⟨byte, -, rfl⟩) | rfl
    all_goals first | omega | exact byte.toNat_lt
  refine ⟨UInt8.ofNat checksum, ?_, ?_⟩
  · have bytes : UInt8.ofNat ∘ UInt8.toNat = id := funext UInt8.ofNat_toNat
    rw [fromHex, digits, fromHexFrom_formatHex02 0 small]
    simp [record, bytes]
  · have below : checksum < 256 := small _ (by simp)
    rw [UInt8.toNat_ofNat_mod, Nat.mod_eq_of_lt below]
    simp only [checksum, record, List.sum_append, List.sum_cons, List.sum_nil] at below ⊢
    omega

/-- A data record written at a 16-bit address stores its bytes from that address. -/
theorem parseRecord_hexStr (lineNum : Nat) {state : HexParse} (base : state.extendedAddr = 0)
    {lineStart : Nat} {lineBytes : List UInt8} (short : lineBytes.length < 256)
    (low : lineStart < 0x10000) :
    parseRecord lineNum state (hexStr lineStart lineBytes) =
      .ok (some (state.storeBytes lineStart lineBytes)) := by
  obtain ⟨check, decoded, summed⟩ := fromHex_hexStr short low
  have address : ((UInt8.ofNat (lineStart / 256)).toNat <<< 8) |||
      (UInt8.ofNat (lineStart % 256)).toNat = lineStart := by
    rw [UInt8.toNat_ofNat_mod, UInt8.toNat_ofNat_mod, shiftLeft_or_of_lt (by omega)]
    omega
  have count : (UInt8.ofNat lineBytes.length).toNat = lineBytes.length := by
    rw [UInt8.toNat_ofNat_mod]
    omega
  simp [parseRecord, decoded, getByte, address, count, base, sliceGet, bind, Except.bind, pure,
    Except.pure]
  rw [and_0xFF, UInt8.toNat_ofNat_mod, UInt8.toNat_ofNat_mod]
  omega

/-- Storing at an address above every key appends the entry. -/
theorem HexParse.store_result {state : HexParse} {addr : Nat} (byte : UInt8)
    (above : ∀ key ∈ state.result.map Prod.fst, key < addr) :
    (state.store addr byte).result = state.result ++ [(addr, byte)] := by
  rw [HexParse.store, dictSet, if_neg fun present => Nat.lt_irrefl _ (above addr present)]

/-- The bytes of a record stored above every key extend the dict by the record's entries. -/
theorem HexParse.storeBytes_result {state : HexParse} {fullAddr : Nat} (bytes : List UInt8)
    (above : ∀ key ∈ state.result.map Prod.fst, key < fullAddr) :
    (state.storeBytes fullAddr bytes).result = state.result ++ lineEntries (fullAddr, bytes) ∧
      (state.storeBytes fullAddr bytes).extendedAddr = state.extendedAddr := by
  induction bytes generalizing state fullAddr with
  | nil => exact ⟨by simp [HexParse.storeBytes, lineEntries], rfl⟩
  | cons byte bytes induction =>
      have stored := HexParse.store_result byte above
      have above' :
          ∀ key ∈ (state.store fullAddr byte).result.map Prod.fst, key < fullAddr + 1 := by
        intro key member
        rw [stored, List.map_append, List.mem_append, List.map_singleton, List.mem_singleton]
          at member
        rcases member with before | rfl
        · exact Nat.lt_succ_of_lt (above key before)
        · exact Nat.lt_succ_self _
      obtain ⟨result, base⟩ := induction above'
      refine ⟨?_, base⟩
      rw [HexParse.storeBytes, result, stored]
      simp [lineEntries, List.range'_succ]

/-! ## Reading the file back -/

/-- Every character of a record's line is `:` or a hexadecimal digit, so it is printable ASCII,
neither whitespace nor a line feed. -/
theorem recordLine_plain (line : Nat × List UInt8) :
    ∀ c ∈ recordLine line, c.toNat < 128 ∧ isPySpace c = false ∧ c ≠ '\n' := by
  intro c member
  rcases List.mem_cons.mp member with rfl | written
  · decide
  · have digit : ∃ d < 16, hexDigit d = c := by
      simp only [hexStr, List.mem_append, List.mem_flatMap] at written
      rcases written with ⟨v, -, written⟩ | written <;> exact mem_formatHex02 written
    obtain ⟨d, small, rfl⟩ := digit
    have plain := hexDigit_plain d small
    exact ⟨plain.2.2.2.2, plain.2.1, plain.2.2.1⟩

theorem map_fst_lineEntries (line : Nat × List UInt8) :
    (lineEntries line).map Prod.fst = List.range' line.1 line.2.length :=
  List.map_fst_zip _ _ (by simp)

/-- The file's text splits at line feeds into the records' lines, the EOF record's line, and the
empty text after the last line feed. -/
theorem splitOn_records (lines : List (Nat × List UInt8)) :
    ((lines.flatMap fun line => recordLine line ++ ['\n']) ++ eofRecord).splitOn '\n' =
      lines.map recordLine ++ [":00000001FF".toList, []] := by
  induction lines with
  | nil => rfl
  | cons line lines induction =>
      have noFeed : ∀ c ∈ recordLine line, ¬(c == '\n') = true := fun c member => by
        simpa using (recordLine_plain line c member).2.2
      rw [List.flatMap_cons, List.append_assoc, List.append_assoc, List.singleton_append,
        List.splitOn, List.splitOnP_first _ _ noFeed _ (by decide), ← List.splitOn, induction]
      rfl

/-- The parser reads the records' lines up to the EOF record, each above every address it has
stored, into the dict extended by their entries. -/
theorem parseLines_records (lineNum : Nat) {state : HexParse} (base : state.extendedAddr = 0)
    {lines : List (Nat × List UInt8)} (rest : List (List Char))
    (valid : ∀ line ∈ lines, line.2 ≠ [] ∧ line.2.length < 256 ∧ line.1 < 0x10000)
    (sorted : ((state.result ++ lines.flatMap lineEntries).map Prod.fst).Pairwise (· < ·)) :
    ∃ final, parseLines lineNum state (lines.map recordLine ++ ":00000001FF".toList :: rest) =
        .ok final ∧ final.result = state.result ++ lines.flatMap lineEntries := by
  induction lines generalizing lineNum state with
  | nil => exact ⟨state, rfl, by simp⟩
  | cons line lines induction =>
      obtain ⟨nonempty, short, low⟩ := valid line (.head _)
      rw [List.flatMap_cons, ← List.append_assoc] at sorted ⊢
      have above : ∀ key ∈ state.result.map Prod.fst, key < line.1 := by
        intro key member
        rw [List.map_append, List.map_append, List.pairwise_append, List.pairwise_append] at sorted
        refine sorted.1.2.2 key member line.1 ?_
        rw [map_fst_lineEntries, List.mem_range'_1]
        exact ⟨le_rfl, Nat.lt_add_of_pos_right (List.length_pos.mpr nonempty)⟩
      obtain ⟨stored, kept⟩ := HexParse.storeBytes_result line.2 above
      have stripped : pyStrip (recordLine line) = recordLine line :=
        pyStrip_of_plain fun c member => (recordLine_plain line c member).2.1
      obtain ⟨final, parsed, result⟩ := induction (lineNum + 1) (kept.trans base)
        (fun other member => valid other (.tail _ member)) (by rwa [stored])
      refine ⟨final, ?_, by rw [result, stored]⟩
      rw [← parsed]
      simp only [List.map_cons, List.cons_append, parseLines, stripped]
      simp [recordLine, parseRecord_hexStr lineNum base short low]

/-- The parser reads a file of records, each above the ones before it, back to the records'
entries, with their least and greatest address. -/
theorem parseIntelHex_records {lines : List (Nat × List UInt8)} {low high : Nat}
    (valid : ∀ line ∈ lines, line.2 ≠ [] ∧ line.2.length < 256 ∧ line.1 < 0x10000)
    (sorted : ((lines.flatMap lineEntries).map Prod.fst).Pairwise (· < ·))
    (least : ((lines.flatMap lineEntries).map Prod.fst).min? = some low)
    (greatest : ((lines.flatMap lineEntries).map Prod.fst).max? = some high) :
    parseIntelHex (encodeAscii ((lines.flatMap fun line => recordLine line ++ ['\n']) ++
      eofRecord)) = .ok (lines.flatMap lineEntries, low, high) := by
  have plain : ∀ c ∈ (lines.flatMap fun line => recordLine line ++ ['\n']) ++ eofRecord,
      c.toNat < 128 := by
    simp only [List.mem_append, List.mem_flatMap, List.mem_singleton]
    rintro c (⟨line, -, (member | rfl)⟩ | eof)
    · exact (recordLine_plain line c member).1
    · decide
    · revert c; decide
  obtain ⟨final, parsed, result⟩ := @parseLines_records 1 HexParse.init rfl lines [[]] valid sorted
  obtain ⟨lowest, highest⟩ := (HexParse.Bounded.parseLines ⟨rfl, rfl⟩ parsed : final.Bounded)
  rw [HexParse.init, List.nil_append] at result
  have stored : lines.flatMap lineEntries ≠ [] := by
    rintro empty
    simp [empty] at least
  rw [parseIntelHex, decodeAscii_encodeAscii plain, splitOn_records, parsed]
  simp [stored, lowest, highest, result, least, greatest, bind, Except.bind, pure, Except.pure]

theorem mem_keys_iff {items : List (Nat × UInt8)} {key : Nat} :
    key ∈ items.map Prod.fst ↔ (items.lookup key).isSome := by
  rw [List.lookup_isSome_iff, List.mem_map]
  constructor
  · rintro ⟨item, member, rfl⟩
    exact ⟨item, member, beq_self_eq_true _⟩
  · rintro ⟨item, member, same⟩
    exact ⟨item, member, (beq_iff_eq.mp same).symm⟩

/-- The entries between two bounds of every key are the whole dict. -/
theorem lookup_entriesBetween_of_within {addrDict : List (Nat × UInt8)} {first stop : Nat}
    (within : ∀ addr ∈ addrDict.map Prod.fst, first ≤ addr ∧ addr < stop) (addr : Nat) :
    (entriesBetween addrDict first stop).lookup addr = addrDict.lookup addr := by
  rw [lookup_entriesBetween]
  split_ifs with inside
  · rfl
  · exact (Option.not_isSome_iff_eq_none.mp fun found =>
      inside (within addr (mem_keys_iff.mpr found))).symm

theorem min?_eq_of_mem_iff {xs ys : List Nat} (same : ∀ x, x ∈ xs ↔ x ∈ ys) :
    xs.min? = ys.min? := by
  cases least : ys.min? with
  | none => simpa [List.eq_nil_iff_forall_not_mem, same] using least
  | some m =>
      obtain ⟨member, le⟩ := List.min?_eq_some_iff'.mp least
      exact List.min?_eq_some_iff'.mpr ⟨(same m).mpr member, fun x mx => le x ((same x).mp mx)⟩

theorem max?_eq_of_mem_iff {xs ys : List Nat} (same : ∀ x, x ∈ xs ↔ x ∈ ys) :
    xs.max? = ys.max? := by
  cases greatest : ys.max? with
  | none => simpa [List.eq_nil_iff_forall_not_mem, same] using greatest
  | some m =>
      obtain ⟨member, le⟩ := List.max?_eq_some_iff'.mp greatest
      exact List.max?_eq_some_iff'.mpr ⟨(same m).mpr member, fun x mx => le x ((same x).mp mx)⟩

/-! ## The round trip -/

/-- For every dict of bytes at 16-bit addresses that is not empty and every line length from 1 to
255, `write_intel_hex` returns, and `parse_intel_hex` reads its file back to the same dict, with
the dict's least and greatest address. -/
theorem writeIntelHex_roundTrip {addrDict : List (Nat × UInt8)} {bytesPerLine : Nat}
    (nonempty : addrDict ≠ []) (small : ∀ addr ∈ addrDict.map Prod.fst, addr < 0x10000)
    (positive : 0 < bytesPerLine) (short : bytesPerLine < 256) :
    ∃ text, writeIntelHex addrDict bytesPerLine = some text ∧ ∃ result low high,
      (addrDict.map Prod.fst).min? = some low ∧ (addrDict.map Prod.fst).max? = some high ∧
      parseIntelHex (encodeAscii text) = .ok (result, low, high) ∧
      ∀ addr, result.lookup addr = addrDict.lookup addr := by
  obtain ⟨low, high, lowEq, highEq⟩ := exists_min?_max? nonempty
  have highKey := (List.max?_eq_some_iff'.mp highEq).1
  have within : ∀ addr ∈ addrDict.map Prod.fst, low ≤ addr ∧ addr < high + 1 :=
    fun addr member => ⟨(List.min?_eq_some_iff'.mp lowEq).2 addr member,
      Nat.lt_succ_of_le ((List.max?_eq_some_iff'.mp highEq).2 addr member)⟩
  obtain ⟨lines, written, entries, valid⟩ :=
    @writeLines_records addrDict high bytesPerLine positive low
      (Nat.le_succ_of_le (within high highKey).1)
  have sameLookup : ∀ addr, (lines.flatMap lineEntries).lookup addr = addrDict.lookup addr :=
    fun addr => by rw [entries, lookup_entriesBetween_of_within within]
  have sameKeys : ∀ addr, addr ∈ (lines.flatMap lineEntries).map Prod.fst ↔
      addr ∈ addrDict.map Prod.fst := fun addr => by rw [mem_keys_iff, mem_keys_iff, sameLookup]
  refine ⟨_, by simp [writeIntelHex, lowEq, highEq, written], lines.flatMap lineEntries, low,
    high, lowEq, highEq, parseIntelHex_records (fun line member => ?_) ?_ ?_ ?_, sameLookup⟩
  · obtain ⟨nonempty, fits, ends⟩ := valid line member
    have := List.length_pos.mpr nonempty
    have := small high highKey
    exact ⟨nonempty, by omega, by omega⟩
  · rw [entries]
    exact pairwise_entriesBetween addrDict low (high + 1)
  · rwa [min?_eq_of_mem_iff sameKeys]
  · rwa [max?_eq_of_mem_iff sameKeys]

/-! ## Checksums -/

/-- An Intel HEX line a checksum-verifying reader accepts: `:` and two uppercase hexadecimal digits
for each byte of a record whose bytes, checksum included, sum to a multiple of 256. -/
def Checksummed (line : List Char) : Prop :=
  ∃ values : List Nat, (∀ v ∈ values, v < 256) ∧ line = ':' :: values.flatMap formatHex02 ∧
    values.sum % 256 = 0

/-- A data record of at most 255 bytes carries its checksum at any address: the address field
holds the address's low 16 bits, and the checksum is computed over what is written. -/
theorem recordLine_checksummed (line : Nat × List UInt8) (short : line.2.length < 256) :
    Checksummed (recordLine line) := by
  let record := [line.2.length, (line.1 >>> 8) &&& 0xFF, line.1 &&& 0xFF, 0] ++
    line.2.map UInt8.toNat
  let checksum := ((-(record.sum : Int)) % 256).toNat
  refine ⟨record ++ [checksum], fun v member => ?_, ?_, ?_⟩
  · simp only [record, checksum, List.mem_append, List.mem_cons, List.mem_map,
      List.mem_singleton, List.not_mem_nil, or_false, and_0xFF] at member
    rcases member with ((rfl | rfl | rfl | rfl) | ⟨byte, -, rfl⟩) | rfl
    all_goals first | omega | exact byte.toNat_lt
  · simp [recordLine, hexStr, record, checksum]
  · simp only [List.sum_append, List.sum_cons, List.sum_nil, checksum]
    omega

theorem eofRecord_checksummed : Checksummed ":00000001FF".toList :=
  ⟨[0, 0, 0, 1, 0xFF], by decide, by simp [formatHex02_of_lt, hexDigit], by decide⟩

/-- Every line of a file `write_intel_hex` writes with 1 to 255 bytes a line is a record whose
checksum a reader accepts, whatever its address, and the file ends with a line feed. -/
theorem writeIntelHex_checksums (addrDict : List (Nat × UInt8)) {bytesPerLine : Nat}
    (positive : 0 < bytesPerLine) (short : bytesPerLine < 256) :
    ∃ text, writeIntelHex addrDict bytesPerLine = some text ∧ ∃ lines,
      text.splitOn '\n' = lines ++ [[]] ∧ ∀ line ∈ lines, Checksummed line := by
  by_cases empty : addrDict = []
  · subst empty
    exact ⟨eofRecord, rfl, [":00000001FF".toList], by decide, by simpa using eofRecord_checksummed⟩
  obtain ⟨low, high, lowEq, highEq⟩ := exists_min?_max? empty
  obtain ⟨lines, written, -, valid⟩ := @writeLines_records addrDict high bytesPerLine positive low
    (Nat.le_succ_of_le (min?_le_max? lowEq highEq))
  refine ⟨(lines.flatMap fun line => recordLine line ++ ['\n']) ++ eofRecord,
    by simp [writeIntelHex, lowEq, highEq, written], lines.map recordLine ++
    [":00000001FF".toList], by rw [splitOn_records]; simp, fun line member => ?_⟩
  rcases List.mem_append.mp member with record | eof
  · obtain ⟨line, listed, rfl⟩ := List.mem_map.mp record
    exact recordLine_checksummed line (by have := (valid line listed).2.1; omega)
  · rw [List.mem_singleton.mp eof]
    exact eofRecord_checksummed

/-- A dict with a run, a gap and the last 16-bit address. -/
def sampleAddrDict : List (Nat × UInt8) := [(0, 1), (1, 2), (5, 3), (0xFFFF, 9)]

theorem sampleAddrDict_checksums :
    ∃ text, writeIntelHex sampleAddrDict 16 = some text ∧ ∃ lines,
      text.splitOn '\n' = lines ++ [[]] ∧ ∀ line ∈ lines, Checksummed line :=
  writeIntelHex_checksums sampleAddrDict (by decide) (by decide)

/-! ## The file `write_intel_hex` writes -/

/-- For every dict of bytes at 16-bit addresses that is not empty, `write_intel_hex` with the 16
bytes per line every caller uses writes one record for each line of a list whose entries, one
after the other, are the dict's entries in address order, then the EOF record. Every line holds 1
to 16 bytes at consecutive addresses, is full or followed by an address absent from the dict, and
carries its checksum. `parse_intel_hex` reads the file back to the same dict, with the dict's least
and greatest address. -/
theorem parseIntelHex_writeIntelHex (addrDict : List (Nat × UInt8)) (nonempty : addrDict ≠ [])
    (small : ∀ addr ∈ addrDict.map Prod.fst, addr < 0x10000) :
    ∃ low high, (addrDict.map Prod.fst).min? = some low ∧
      (addrDict.map Prod.fst).max? = some high ∧ ∃ lines : List (Nat × List UInt8),
        writeIntelHex addrDict 16 =
          some ((lines.flatMap fun line => recordLine line ++ ['\n']) ++ eofRecord) ∧
        lines.flatMap lineEntries = entriesBetween addrDict low (high + 1) ∧
        (∀ line ∈ lines, line.2 ≠ [] ∧ line.2.length ≤ 16 ∧
          (line.2.length = 16 ∨ addrDict.lookup (line.1 + line.2.length) = none) ∧
          Checksummed (recordLine line)) ∧
        ∃ result, parseIntelHex (encodeAscii
            ((lines.flatMap fun line => recordLine line ++ ['\n']) ++ eofRecord)) =
              .ok (result, low, high) ∧
          ∀ addr, result.lookup addr = addrDict.lookup addr := by
  obtain ⟨text, written, result, low, high, lowEq, highEq, parsed, lookups⟩ :=
    @writeIntelHex_roundTrip addrDict 16 nonempty small (by decide) (by decide)
  have highest := (List.max?_eq_some_iff'.mp highEq).2
  obtain ⟨lines, linesWritten, entries, valid⟩ := @writeLines_records addrDict high 16 (by decide)
    low (Nat.le_succ_of_le (min?_le_max? lowEq highEq))
  have file : writeIntelHex addrDict 16 =
      some ((lines.flatMap fun line => recordLine line ++ ['\n']) ++ eofRecord) := by
    simp [writeIntelHex, lowEq, highEq, linesWritten]
  obtain rfl := Option.some.inj (written.symm.trans file)
  refine ⟨low, high, lowEq, highEq, lines, file, entries, fun line member => ?_, result, parsed,
    lookups⟩
  obtain ⟨filled, fits, -, stops⟩ := valid line member
  refine ⟨filled, fits, ?_, recordLine_checksummed line (by omega)⟩
  rcases stops with full | past | absent
  · exact .inl full
  · exact .inr (Option.not_isSome_iff_eq_none.mp fun found =>
      absurd (highest _ (mem_keys_iff.mpr found)) (Nat.not_le.mpr past))
  · exact .inr absent

theorem parseIntelHex_writeIntelHex_sample :
    ∃ low high, (sampleAddrDict.map Prod.fst).min? = some low ∧
      (sampleAddrDict.map Prod.fst).max? = some high ∧ ∃ lines : List (Nat × List UInt8),
        writeIntelHex sampleAddrDict 16 =
          some ((lines.flatMap fun line => recordLine line ++ ['\n']) ++ eofRecord) ∧
        lines.flatMap lineEntries = entriesBetween sampleAddrDict low (high + 1) ∧
        (∀ line ∈ lines, line.2 ≠ [] ∧ line.2.length ≤ 16 ∧
          (line.2.length = 16 ∨ sampleAddrDict.lookup (line.1 + line.2.length) = none) ∧
          Checksummed (recordLine line)) ∧
        ∃ result, parseIntelHex (encodeAscii
            ((lines.flatMap fun line => recordLine line ++ ['\n']) ++ eofRecord)) =
              .ok (result, low, high) ∧
          ∀ addr, result.lookup addr = sampleAddrDict.lookup addr :=
  parseIntelHex_writeIntelHex sampleAddrDict (by decide) (by decide)

/-! ## Addresses past 64K

The address field of a data record holds only the low 16 bits of `line_start`, and the writer
writes no extended address record, so it writes the same file for a dict and for the dict moved
down by a multiple of 64K. The reader then puts every byte of a dict in bank `b` at an address
64K·`b` lower. -/

/-- The dict with every address moved down by `base`. -/
def shiftDown (base : Nat) (addrDict : List (Nat × UInt8)) : List (Nat × UInt8) :=
  addrDict.map fun entry => (entry.1 - base, entry.2)

section Shift

variable {addrDict : List (Nat × UInt8)} {base : Nat}
  (above : ∀ key ∈ addrDict.map Prod.fst, base ≤ key)
include above

theorem lookup_shiftDown (addr : Nat) :
    (shiftDown base addrDict).lookup addr = addrDict.lookup (addr + base) := by
  induction addrDict with
  | nil => rfl
  | cons entry rest induction =>
      obtain ⟨key, byte⟩ := entry
      have same : (addr == key - base) = (addr + base == key) := by
        have low : base ≤ key := above key (.head _)
        rw [Bool.eq_iff_iff, beq_iff_eq, beq_iff_eq]
        omega
      simp only [shiftDown, List.map_cons, List.lookup_cons, same]
      cases addr + base == key
      · exact induction fun key member => above key (.tail _ member)
      · rfl

theorem keys_shiftDown :
    addrDict.map Prod.fst = ((shiftDown base addrDict).map Prod.fst).map (· + base) := by
  rw [shiftDown, List.map_map, List.map_map]
  exact (List.map_congr_left fun entry member =>
    Nat.sub_add_cancel (above entry.1 (List.mem_map_of_mem _ member))).symm

/-- The inner loop over the dict at `base` and up passes the same addresses as over the dict moved
down, each `base` higher, and gathers the same bytes. -/
theorem collectLine_shiftDown (maxAddr bytesPerLine addr lineStart : Nat)
    (lineBytes : List UInt8) :
    collectLine addrDict (maxAddr + base) bytesPerLine (addr + base) (lineStart + base) lineBytes =
      let line :=
        collectLine (shiftDown base addrDict) maxAddr bytesPerLine addr lineStart lineBytes
      (line.1 + base, line.2.1 + base, line.2.2) := by
  induction addr, lineStart, lineBytes
    using collectLine.induct (shiftDown base addrDict) maxAddr bytesPerLine with
  | case1 addr lineStart lineBytes room byte found induction =>
      rw [collectLine.eq_1 (shiftDown base addrDict), if_pos room, found, collectLine.eq_1 addrDict]
      simp only [Nat.add_le_add_iff_right, if_pos room, ← lookup_shiftDown above, found]
      rw [Nat.add_right_comm, induction]
  | case2 addr lineStart lineBytes room absent nonempty =>
      rw [collectLine.eq_1 (shiftDown base addrDict), if_pos room, absent,
        collectLine.eq_1 addrDict]
      simp only [Nat.add_le_add_iff_right, if_pos room, ← lookup_shiftDown above, absent,
        if_pos nonempty]
  | case3 addr lineStart lineBytes room absent empty induction =>
      rw [collectLine.eq_1 (shiftDown base addrDict), if_pos room, absent,
        collectLine.eq_1 addrDict]
      simp only [Nat.add_le_add_iff_right, if_pos room, ← lookup_shiftDown above, absent,
        if_neg empty]
      rw [Nat.add_right_comm, induction]
  | case4 addr lineStart lineBytes stopped =>
      rw [collectLine.eq_1 (shiftDown base addrDict), if_neg stopped, collectLine.eq_1 addrDict]
      simp only [Nat.add_le_add_iff_right, if_neg stopped]

end Shift

/-- A record's address field is the same for line starts a multiple of 64K apart. -/
theorem hexStr_add_bank (lineStart : Nat) (lineBytes : List UInt8) {base : Nat}
    (bank : base % 0x10000 = 0) :
    hexStr (lineStart + base) lineBytes = hexStr lineStart lineBytes := by
  have high : (lineStart + base) >>> 8 &&& 0xFF = lineStart >>> 8 &&& 0xFF := by
    simp only [Nat.shiftRight_eq_div_pow, and_0xFF, Nat.reducePow]
    omega
  have low : (lineStart + base) &&& 0xFF = lineStart &&& 0xFF := by
    simp only [and_0xFF]
    omega
  simp only [hexStr, high, low]

theorem writeLines_shiftDown {addrDict : List (Nat × UInt8)} {base : Nat}
    (above : ∀ key ∈ addrDict.map Prod.fst, base ≤ key) (bank : base % 0x10000 = 0)
    (maxAddr bytesPerLine addr : Nat) :
    writeLines addrDict (maxAddr + base) bytesPerLine (addr + base) =
      writeLines (shiftDown base addrDict) maxAddr bytesPerLine addr := by
  induction addr using writeLines.induct (shiftDown base addrDict) maxAddr bytesPerLine with
  | case1 addr inside nextAddr lineStart lineBytes collected stuck =>
      rw [writeLines.eq_1 (shiftDown base addrDict), if_pos inside, collected,
        writeLines.eq_1 addrDict]
      simp only [Nat.add_le_add_iff_right, if_pos inside, collectLine_shiftDown above, collected,
        if_pos stuck]
  | case2 addr inside nextAddr lineStart lineBytes collected moved induction =>
      rw [writeLines.eq_1 (shiftDown base addrDict), if_pos inside, collected,
        writeLines.eq_1 addrDict]
      simp only [Nat.add_le_add_iff_right, if_pos inside, collectLine_shiftDown above, collected,
        if_neg moved, induction, hexStr_add_bank _ _ bank]
  | case3 addr outside =>
      rw [writeLines.eq_1 (shiftDown base addrDict), if_neg outside, writeLines.eq_1 addrDict]
      simp only [Nat.add_le_add_iff_right, if_neg outside]

theorem min?_map_add (xs : List Nat) (c : Nat) : (xs.map (· + c)).min? = xs.min?.map (· + c) := by
  cases least : xs.min? with
  | none => simp [List.min?_eq_none_iff.mp least]
  | some m =>
      obtain ⟨member, le⟩ := List.min?_eq_some_iff'.mp least
      exact List.min?_eq_some_iff'.mpr ⟨List.mem_map_of_mem _ member,
        List.forall_mem_map.mpr fun x listed => Nat.add_le_add_right (le x listed) c⟩

theorem max?_map_add (xs : List Nat) (c : Nat) : (xs.map (· + c)).max? = xs.max?.map (· + c) := by
  cases greatest : xs.max? with
  | none => simp [List.max?_eq_none_iff.mp greatest]
  | some m =>
      obtain ⟨member, le⟩ := List.max?_eq_some_iff'.mp greatest
      exact List.max?_eq_some_iff'.mpr ⟨List.mem_map_of_mem _ member,
        List.forall_mem_map.mpr fun x listed => Nat.add_le_add_right (le x listed) c⟩

/-- `write_intel_hex` writes the same file for a dict at `base` and up, `base` a multiple of 64K,
as for the dict moved down by `base`. -/
theorem writeIntelHex_shiftDown {addrDict : List (Nat × UInt8)} {base : Nat}
    (above : ∀ key ∈ addrDict.map Prod.fst, base ≤ key) (bank : base % 0x10000 = 0)
    (bytesPerLine : Nat) :
    writeIntelHex addrDict bytesPerLine = writeIntelHex (shiftDown base addrDict) bytesPerLine := by
  rw [writeIntelHex, writeIntelHex, keys_shiftDown above, min?_map_add, max?_map_add]
  cases ((shiftDown base addrDict).map Prod.fst).min? <;>
    cases ((shiftDown base addrDict).map Prod.fst).max? <;>
    simp only [Option.map_some', Option.map_none', writeLines_shiftDown above bank]

/-- For every dict whose addresses all lie in one 64K bank `bank` and every line length from 1 to
255, `write_intel_hex` writes the same file as for the dict moved down to bank 0, and the file
reads back with every byte `bank`·64K lower, and with bounds `bank`·64K below the dict's least and
greatest address: a dict above 64K does not read back to itself. -/
theorem writeIntelHex_bank {addrDict : List (Nat × UInt8)} {bank bytesPerLine : Nat}
    (nonempty : addrDict ≠ []) (inBank : ∀ addr ∈ addrDict.map Prod.fst, addr / 0x10000 = bank)
    (positive : 0 < bytesPerLine) (short : bytesPerLine < 256) :
    writeIntelHex addrDict bytesPerLine =
      writeIntelHex (shiftDown (bank * 0x10000) addrDict) bytesPerLine ∧
    ∃ text, writeIntelHex addrDict bytesPerLine = some text ∧ ∃ result low high,
      (addrDict.map Prod.fst).min? = some (low + bank * 0x10000) ∧
      (addrDict.map Prod.fst).max? = some (high + bank * 0x10000) ∧
      parseIntelHex (encodeAscii text) = .ok (result, low, high) ∧
      ∀ addr, result.lookup addr = addrDict.lookup (addr + bank * 0x10000) := by
  have above : ∀ key ∈ addrDict.map Prod.fst, bank * 0x10000 ≤ key := fun key member => by
    have := inBank key member
    omega
  have small : ∀ addr ∈ (shiftDown (bank * 0x10000) addrDict).map Prod.fst, addr < 0x10000 := by
    rw [shiftDown, List.map_map, List.forall_mem_map]
    intro entry member
    have := inBank entry.1 (List.mem_map_of_mem _ member)
    simp only [Function.comp_apply]
    omega
  obtain ⟨text, written, result, low, high, least, greatest, parsed, lookups⟩ :=
    writeIntelHex_roundTrip (by simpa [shiftDown] using nonempty) small positive short
  have same := writeIntelHex_shiftDown above (Nat.mul_mod_left bank 0x10000) bytesPerLine
  refine ⟨same, text, same.trans written, result, low, high, ?_, ?_, parsed,
    fun addr => (lookups addr).trans (lookup_shiftDown above addr)⟩
  · rw [keys_shiftDown above, min?_map_add, least]
    rfl
  · rw [keys_shiftDown above, max?_map_add, greatest]
    rfl

/-- A dict in the second 64K bank, with its first and last address. -/
def bankAddrDict : List (Nat × UInt8) := [(0x10000, 1), (0x10001, 2), (0x1FFFF, 3)]

theorem bankAddrDict_readsLower :
    writeIntelHex bankAddrDict 16 = writeIntelHex (shiftDown (1 * 0x10000) bankAddrDict) 16 ∧
    ∃ text, writeIntelHex bankAddrDict 16 = some text ∧ ∃ result low high,
      (bankAddrDict.map Prod.fst).min? = some (low + 1 * 0x10000) ∧
      (bankAddrDict.map Prod.fst).max? = some (high + 1 * 0x10000) ∧
      parseIntelHex (encodeAscii text) = .ok (result, low, high) ∧
      ∀ addr, result.lookup addr = bankAddrDict.lookup (addr + 1 * 0x10000) :=
  @writeIntelHex_bank bankAddrDict 1 16 (by decide) (by decide) (by decide) (by decide)

end Mpm2Tools.DriPatch
