import Mpm2Tools.Foundation.PyBytes

/-! # Parsing ImageDisk files

`imd2raw.parse_imd` reads an ImageDisk (IMD) file: an ASCII header ended by `0x1A`, then one
record per track. A track record is a five-byte header (mode, cylinder, head, sector count, size
code), the sector number map, an optional cylinder map and head map, and one record per sector:
a type byte followed by `sector_size` data bytes (types 1, 3, 5, 7), by one fill byte (types 2, 4,
6, 8), or by nothing.

The parse stops quietly at a truncated track header, sector map or sector record, with one
exception: the fill byte of a compressed sector is read without a length check, so a file that
ends right after the type byte of a compressed sector raises `IndexError`. -/

namespace Mpm2Tools.Imd2raw

open Mpm2Tools

/-- A track as `parse_imd` returns it, the dict with keys `cyl`, `head`, `sectors`,
`sector_size` and `num_sectors`. `sectors` is the dict from sector number to sector data, kept as
its items in insertion order. -/
structure Track where
  cyl : Nat
  head : Nat
  sectors : List (Nat × List UInt8)
  sectorSize : Nat
  numSectors : Nat
  deriving DecidableEq, Repr

/-- `sector_sizes`, indexed by the size code. -/
def sectorSizes : List Nat := [128, 256, 512, 1024, 2048, 4096, 8192]

/-- One sector record at `pos`, whose type byte the caller has checked to exist: the sector data
and the position after the record. -/
def readSector (data : List UInt8) (sectorSize pos : Nat) : Except PyError (List UInt8 × Nat) := do
  let stype ← getByte data pos
  let pos := pos + 1
  if stype = 0 then
    pure (List.replicate sectorSize 0xE5, pos)
  else if stype = 1 then
    pure (sliceGet data pos (pos + sectorSize), pos + sectorSize)
  else if stype = 2 then
    let fill ← getByte data pos
    pure (List.replicate sectorSize fill, pos + 1)
  else if stype ∈ [3, 4, 5, 6, 7, 8] then
    if stype ∈ [1, 3, 5, 7] then
      pure (sliceGet data pos (pos + sectorSize), pos + sectorSize)
    else
      let fill ← getByte data pos
      pure (List.replicate sectorSize fill, pos + 1)
  else
    pure (List.replicate sectorSize 0xE5, pos)

/-- The loop `for i in range(num_sectors)`, which stores sector `i` under `sector_map[i]` and
stops early at the end of the data. `sector_map` has `num_sectors` entries, so the loop walks
it. -/
def readSectors (data : List UInt8) (sectorSize : Nat) :
    List UInt8 → Nat → List (Nat × List UInt8) → Except PyError (List (Nat × List UInt8) × Nat)
  | [], pos, sectors => pure (sectors, pos)
  | number :: sectorMap, pos, sectors =>
      if data.length ≤ pos then pure (sectors, pos)
      else do
        let (sectorData, pos) ← readSector data sectorSize pos
        readSectors data sectorSize sectorMap pos (dictSet sectors number.toNat sectorData)

/-- The body of the loop `while pos < len(data)`: `none` where it breaks, otherwise the track and
the position after it. The cylinder and head maps are skipped; their contents are never used. -/
def readTrack (data : List UInt8) (pos : Nat) : Except PyError (Option (Track × Nat)) := do
  if data.length < pos + 5 then return none
  let _mode ← getByte data pos
  let cyl ← getByte data (pos + 1)
  let head ← getByte data (pos + 2)
  let numSectors ← getByte data (pos + 3)
  let sizeCode ← getByte data (pos + 4)
  let pos := pos + 5
  let hasCylMap := head.toNat &&& 0x80 ≠ 0
  let hasHeadMap := head.toNat &&& 0x40 ≠ 0
  let head := head.toNat &&& 0x3F
  let some sectorSize := sectorSizes[sizeCode.toNat]? | return none
  if data.length < pos + numSectors.toNat then return none
  let sectorMap := sliceGet data pos (pos + numSectors.toNat)
  let pos := pos + numSectors.toNat
  let pos := if hasCylMap then pos + numSectors.toNat else pos
  let pos := if hasHeadMap then pos + numSectors.toNat else pos
  let (sectors, pos) ← readSectors data sectorSize sectorMap pos []
  return some ({ cyl := cyl.toNat, head, sectors, sectorSize, numSectors := numSectors.toNat }, pos)


/-- The invariant of the sector dict while a track is read: the sector numbers are distinct, and
no sector's data is longer than `sector_size`. -/
def SectorsWithin (sectorSize : Nat) (sectors : List (Nat × List UInt8)) : Prop :=
  (sectors.map Prod.fst).Nodup ∧ ∀ sector ∈ sectors, sector.2.length ≤ sectorSize

theorem SectorsWithin.dictSet {sectorSize : Nat} {sectors : List (Nat × List UInt8)} {key : Nat}
    {sectorData : List UInt8} (within : SectorsWithin sectorSize sectors)
    (short : sectorData.length ≤ sectorSize) :
    SectorsWithin sectorSize (Mpm2Tools.dictSet sectors key sectorData) := by
  refine ⟨nodup_dictSet within.1, fun sector member => ?_⟩
  rcases mem_dictSet member with old | rfl
  · exact within.2 sector old
  · exact short

/-- What `parse_imd` guarantees of each track it returns: a dict of sectors as `SectorsWithin`
says, holding at most `num_sectors` sectors. -/
def Track.WellFormed (track : Track) : Prop :=
  SectorsWithin track.sectorSize track.sectors ∧ track.sectors.length ≤ track.numSectors

/-! ## The exceptions of a parse -/

/-- Every exception `result` can carry is `IndexError` at index `len(data)`: a read one byte past
the end of the data. -/
def RaisesAtEnd {α : Type} (data : List UInt8) (result : Except PyError α) : Prop :=
  ∀ error, result = .error error → error = .indexOutOfRange data.length

theorem raisesAtEnd_pure {α : Type} (data : List UInt8) (value : α) :
    RaisesAtEnd data (pure value) := by
  intro _ raised
  cases raised

theorem RaisesAtEnd.bind {α β : Type} {data : List UInt8} {first : Except PyError α}
    {rest : α → Except PyError β} (raises : RaisesAtEnd data first)
    (continues : ∀ value, first = .ok value → RaisesAtEnd data (rest value)) :
    RaisesAtEnd data (first >>= rest) := by
  cases first with
  | error error => intro _ raised; cases raised; exact raises error rfl
  | ok value => exact continues value rfl

theorem raisesAtEnd_getByte {data : List UInt8} {index : Nat} (within : index ≤ data.length) :
    RaisesAtEnd data (getByte data index) := by
  intro error raised
  by_cases inside : index < data.length
  · rw [getByte_of_lt inside] at raised
    cases raised
  · rw [getByte_of_le (by omega)] at raised
    cases raised
    congr 1
    omega

/-! ## One record -/

/-- A sector record whose type byte exists raises only at the end of the data; read, it advances
the position and yields at most `sector_size` bytes. -/
theorem readSector_spec {data : List UInt8} {sectorSize pos : Nat} (inside : pos < data.length) :
    RaisesAtEnd data (readSector data sectorSize pos) ∧
      ∀ sectorData next, readSector data sectorSize pos = .ok (sectorData, next) →
        pos < next ∧ sectorData.length ≤ sectorSize := by
  have fill := raisesAtEnd_getByte (show pos + 1 ≤ data.length by omega)
  have filled : ∀ {fill : Except PyError UInt8} {sectorData next},
      (fill >>= fun fill => pure (List.replicate sectorSize fill, pos + 1 + 1)) =
        .ok (sectorData, next) → pos < next ∧ sectorData.length ≤ sectorSize := fun read => by
    obtain ⟨fill, -, stored⟩ := Except.bind_eq_ok.mp read
    cases stored
    exact ⟨by omega, by simp⟩
  unfold readSector
  refine ⟨(raisesAtEnd_getByte inside.le).bind fun stype _ => ?_, fun sectorData next read => ?_⟩
  · split_ifs <;> first
      | exact raisesAtEnd_pure _ _
      | exact fill.bind fun _ _ => raisesAtEnd_pure _ _
  · obtain ⟨stype, -, read⟩ := Except.bind_eq_ok.mp read
    split_ifs at read <;> first
      | exact filled read
      | (cases read; exact ⟨by omega, by simp only [length_sliceGet, List.length_replicate]; omega⟩)

/-- The sector loop raises only at the end of the data; done, it has not moved back, keeps the
dict invariant, and has added at most one sector per map entry. -/
theorem readSectors_spec (data : List UInt8) (sectorSize : Nat) (sectorMap : List UInt8)
    (pos : Nat) (sectors : List (Nat × List UInt8)) :
    RaisesAtEnd data (readSectors data sectorSize sectorMap pos sectors) ∧
      ∀ result next, readSectors data sectorSize sectorMap pos sectors = .ok (result, next) →
        SectorsWithin sectorSize sectors →
          pos ≤ next ∧ SectorsWithin sectorSize result ∧
            result.length ≤ sectors.length + sectorMap.length := by
  induction sectorMap generalizing pos sectors with
  | nil =>
      refine ⟨raisesAtEnd_pure _ _, fun result next read within => ?_⟩
      cases read
      exact ⟨le_rfl, within, by simp⟩
  | cons number sectorMap induction =>
      rw [readSectors]
      split_ifs with finished
      · refine ⟨raisesAtEnd_pure _ _, fun result next read within => ?_⟩
        cases read
        exact ⟨le_rfl, within, by simp⟩
      · have record := @readSector_spec data sectorSize pos (by omega)
        refine ⟨record.1.bind fun _ _ => (induction _ _).1, fun result next read within => ?_⟩
        obtain ⟨⟨sectorData, after⟩, recordRead, rest⟩ := Except.bind_eq_ok.mp read
        obtain ⟨advanced, short⟩ := record.2 _ _ recordRead
        obtain ⟨moved, within', length⟩ := (induction _ _).2 _ _ rest (within.dictSet short)
        have grown : (dictSet sectors number.toNat sectorData).length ≤ sectors.length + 1 :=
          length_dictSet_le
        exact ⟨by omega, within', by simp only [List.length_cons]; omega⟩

/-- A track record raises only at the end of the data; read, it ends at least five bytes further
on, and its track is well formed. -/
theorem readTrack_spec (data : List UInt8) (pos : Nat) :
    RaisesAtEnd data (readTrack data pos) ∧
      ∀ track next, readTrack data pos = .ok (some (track, next)) →
        pos + 5 ≤ next ∧ track.WellFormed := by
  unfold readTrack
  split_ifs with short
  · exact ⟨raisesAtEnd_pure _ _, fun _ _ read => by cases read⟩
  · simp only [getByte_of_lt (show pos + 4 < data.length by omega),
      getByte_of_lt (show pos + 3 < data.length by omega),
      getByte_of_lt (show pos + 2 < data.length by omega),
      getByte_of_lt (show pos + 1 < data.length by omega),
      getByte_of_lt (show pos < data.length by omega), Except.ok_bind, pure_bind]
    split
    · by_cases shortMap : data.length < pos + 5 + data[pos + 3].toNat
      · simp only [shortMap, if_true]
        exact ⟨raisesAtEnd_pure _ _, fun _ _ read => by cases read⟩
      · simp only [shortMap, if_false, pure_bind]
        refine ⟨(readSectors_spec _ _ _ _ _).1.bind fun _ _ => raisesAtEnd_pure _ _,
          fun track next read => ?_⟩
        obtain ⟨⟨sectors, after⟩, sectorsRead, stored⟩ := Except.bind_eq_ok.mp read
        simp only [pure, Except.pure, Except.ok.injEq, Option.some.injEq, Prod.mk.injEq] at stored
        obtain ⟨rfl, rfl⟩ := stored
        obtain ⟨moved, within, length⟩ :=
          (readSectors_spec _ _ _ _ _).2 _ _ sectorsRead ⟨List.nodup_nil, nofun⟩
        simp only [List.length_nil, length_sliceGet, Nat.zero_add] at length
        exact ⟨by split_ifs at moved <;> omega, within,
          show sectors.length ≤ data[pos + 3].toNat by omega⟩
    · exact ⟨raisesAtEnd_pure _ _, fun _ _ read => by cases read⟩

/-- The loop `while pos < len(data)` from `pos`: the tracks it appends. -/
def parseTracks (data : List UInt8) (pos : Nat) : Except PyError (List Track) :=
  if pos < data.length then
    match read : readTrack data pos with
    | .error error => .error error
    | .ok none => .ok []
    | .ok (some (track, next)) =>
        have := ((readTrack_spec data pos).2 track next read).1
        do
          let tracks ← parseTracks data next
          pure (track :: tracks)
  else .ok []
termination_by data.length - pos

/-- `parse_imd`. The header ends at the first `0x1A` byte (`data.find(b'\x1a')`); the header text
is only printed. -/
def parseImd (data : List UInt8) : Except PyError (List Track) :=
  match data.findIdx? (· == 0x1A) with
  | none => .error .imdNoHeaderTerminator
  | some headerEnd => parseTracks data (headerEnd + 1)

/-! ## The whole file -/

section Loop

variable {data : List UInt8} {pos : Nat}

theorem parseTracks_of_le (done : data.length ≤ pos) : parseTracks data pos = .ok [] := by
  rw [parseTracks, if_neg (by omega)]

theorem parseTracks_of_error {error : PyError} (inside : pos < data.length)
    (read : readTrack data pos = .error error) : parseTracks data pos = .error error := by
  rw [parseTracks, if_pos inside]
  split <;> simp_all

theorem parseTracks_of_none (inside : pos < data.length) (read : readTrack data pos = .ok none) :
    parseTracks data pos = .ok [] := by
  rw [parseTracks, if_pos inside]
  split <;> simp_all

theorem parseTracks_of_some {track : Track} {next : Nat} (inside : pos < data.length)
    (read : readTrack data pos = .ok (some (track, next))) :
    parseTracks data pos = (do
      let tracks ← parseTracks data next
      pure (track :: tracks)) := by
  rw [parseTracks, if_pos inside]
  split <;> simp_all

end Loop

/-- The track loop raises only at the end of the data, and every track it returns is well
formed. -/
theorem parseTracks_spec (data : List UInt8) (pos : Nat) :
    RaisesAtEnd data (parseTracks data pos) ∧
      ∀ tracks, parseTracks data pos = .ok tracks → ∀ track ∈ tracks, track.WellFormed := by
  by_cases inside : pos < data.length
  · have record := readTrack_spec data pos
    match read : readTrack data pos with
    | .error error =>
        rw [parseTracks_of_error inside read]
        exact ⟨fun _ raised => by cases raised; exact record.1 error read, fun _ failed => by
          cases failed⟩
    | .ok none =>
        rw [parseTracks_of_none inside read]
        exact ⟨raisesAtEnd_pure _ _, fun _ parsed => by cases parsed; simp⟩
    | .ok (some (track, next)) =>
        obtain ⟨advanced, wellFormed⟩ := record.2 track next read
        have rest := parseTracks_spec data next
        rw [parseTracks_of_some inside read]
        refine ⟨rest.1.bind fun _ _ => raisesAtEnd_pure _ _, fun tracks parsed => ?_⟩
        obtain ⟨later, laterParsed, stored⟩ := Except.bind_eq_ok.mp parsed
        cases stored
        simpa [wellFormed] using rest.2 later laterParsed
  · rw [parseTracks_of_le (by omega)]
    exact ⟨raisesAtEnd_pure _ _, fun _ parsed => by cases parsed; simp⟩
termination_by data.length - pos

/-- `parse_imd` terminates on every byte string, and the only exceptions it raises are the
missing header terminator and `IndexError` one byte past the end of the data. -/
theorem parseImd_raises (data : List UInt8) (error : PyError)
    (raised : parseImd data = .error error) :
    error = .imdNoHeaderTerminator ∨ error = .indexOutOfRange data.length := by
  unfold parseImd at raised
  split at raised
  · cases raised
    exact Or.inl rfl
  · exact Or.inr ((parseTracks_spec data _).1 error raised)

/-- Every track `parse_imd` returns is well formed. -/
theorem parseImd_wellFormed {data : List UInt8} {tracks : List Track}
    (parsed : parseImd data = .ok tracks) : ∀ track ∈ tracks, track.WellFormed := by
  unfold parseImd at parsed
  split at parsed
  · cases parsed
  · exact (parseTracks_spec data _).2 tracks parsed

/-- A file whose one track holds one compressed sector (type 2) and ends right after the sector's
type byte: reading the fill byte raises `IndexError` at index 8, the length of the data. -/
theorem parseImd_truncated_fill :
    parseImd [0x1A, 0, 0, 0, 1, 0, 1, 2] = .error (.indexOutOfRange 8) := by
  have read : readTrack [0x1A, 0, 0, 0, 1, 0, 1, 2] 1 = .error (.indexOutOfRange 8) := by decide
  exact parseTracks_of_error (by decide) read

end Mpm2Tools.Imd2raw
