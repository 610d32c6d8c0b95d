import Mpm2Tools.Imd2raw.Parse

/-! # Reading back an ImageDisk file

An ImageDisk file is an ASCII header ended by `0x1A` and one record per track: the five-byte
track header (mode, cylinder, head, sector count, size code), the sector number map, the
cylinder map when bit 7 of the head byte is set, the head map when bit 6 is, and one sector
record per sector. `TrackImage` is such a track record with what the format asks of it carried
as fields; `TrackImage.encode` lays it out.

`parse_imd` reads every file laid out this way back to its tracks: each read lemma below takes
its record at position `before.length` in `before ++ record ++ after`, so the loops over the
sectors and over the tracks follow by induction over the records. -/

namespace Mpm2Tools.Imd2raw

open Mpm2Tools

/-! ## Positions in the middle of the data -/

section Middle

variable {α : Type}

theorem sliceGet_middle (before middle after : List α) :
    sliceGet (before ++ middle ++ after) before.length (before.length + middle.length) =
      middle := by
  simp [sliceGet]

theorem getByte_within (before rest : List UInt8) {index : Nat} (inside : index < rest.length) :
    getByte (before ++ rest) (before.length + index) = .ok rest[index] :=
  getByte_ok_iff.mpr (by rw [List.getElem?_append_right (by omega)]; simp [inside])

theorem getByte_middle (before after : List UInt8) (byte : UInt8) :
    getByte (before ++ byte :: after) before.length = .ok byte :=
  getByte_ok_iff.mpr (by rw [List.getElem?_append_right le_rfl]; simp)

end Middle

/-! ## Sector records -/

/-- A sector record as the format defines it: no data (type 0), the sector's bytes (types 1, 3,
5 and 7), or one byte repeated over the sector (types 2, 4, 6 and 8). Within a group the types
differ only in the deleted-data and data-error flags, which `flags` selects. -/
inductive SectorRecord where
  | unavailable
  | normal (flags : Fin 4) (bytes : List UInt8)
  | compressed (flags : Fin 4) (fill : UInt8)
  deriving DecidableEq, Repr

namespace SectorRecord

/-- The record in the file: its type byte and what follows it. -/
def encode : SectorRecord → List UInt8
  | unavailable => [0]
  | normal flags bytes => (2 * flags.val + 1).toUInt8 :: bytes
  | compressed flags fill => [(2 * flags.val + 2).toUInt8, fill]

/-- The sector data `parse_imd` keeps for the record. -/
def contents (sectorSize : Nat) : SectorRecord → List UInt8
  | unavailable => List.replicate sectorSize 0xE5
  | normal _ bytes => bytes
  | compressed _ fill => List.replicate sectorSize fill

/-- The record fills a sector of `sectorSize` bytes. -/
def Fits (sectorSize : Nat) : SectorRecord → Prop
  | normal _ bytes => bytes.length = sectorSize
  | _ => True

instance (sectorSize : Nat) (record : SectorRecord) : Decidable (record.Fits sectorSize) := by
  cases record <;> unfold Fits <;> infer_instance

theorem normal_type (flags : Fin 4) :
    (2 * flags.val + 1).toUInt8 ∈ ([1, 3, 5, 7] : List UInt8) := by
  revert flags
  decide

theorem compressed_type (flags : Fin 4) :
    (2 * flags.val + 2).toUInt8 ∈ ([2, 4, 6, 8] : List UInt8) := by
  revert flags
  decide

end SectorRecord

section Sector

variable {data : List UInt8} {sectorSize pos : Nat} {stype : UInt8}

/-- Types 1, 3, 5 and 7 read `sector_size` bytes after the type byte. -/
theorem readSector_of_bytes (read : getByte data pos = .ok stype)
    (odd : stype ∈ ([1, 3, 5, 7] : List UInt8)) :
    readSector data sectorSize pos =
      .ok (sliceGet data (pos + 1) (pos + 1 + sectorSize), pos + 1 + sectorSize) := by
  simp only [List.mem_cons, List.mem_singleton, List.not_mem_nil, or_false] at odd
  rw [readSector, read]
  rcases odd with rfl | rfl | rfl | rfl <;> rfl

/-- Types 2, 4, 6 and 8 repeat the byte after the type byte over the sector. -/
theorem readSector_of_fill {fill : UInt8} (read : getByte data pos = .ok stype)
    (even : stype ∈ ([2, 4, 6, 8] : List UInt8)) (readFill : getByte data (pos + 1) = .ok fill) :
    readSector data sectorSize pos = .ok (List.replicate sectorSize fill, pos + 1 + 1) := by
  simp only [List.mem_cons, List.mem_singleton, List.not_mem_nil, or_false] at even
  rw [readSector, read]
  rcases even with rfl | rfl | rfl | rfl <;> simp [readFill]

end Sector

/-- A record read at its place in the data gives its contents and ends where the record does. -/
theorem readSector_encode (before after : List UInt8) {record : SectorRecord} {sectorSize : Nat}
    (fits : record.Fits sectorSize) :
    readSector (before ++ record.encode ++ after) sectorSize before.length =
      .ok (record.contents sectorSize, before.length + record.encode.length) := by
  cases record with
  | unavailable =>
      rw [readSector, List.append_assoc, SectorRecord.encode, List.singleton_append,
        getByte_middle]
      rfl
  | normal flags bytes =>
      simp only [SectorRecord.Fits] at fits
      subst fits
      have read := getByte_middle before (bytes ++ after) (2 * flags.val + 1).toUInt8
      have slice := sliceGet_middle (before ++ [(2 * flags.val + 1).toUInt8]) bytes after
      simp only [List.length_append, List.length_singleton, List.append_assoc,
        List.singleton_append, List.cons_append, List.nil_append] at slice
      simp only [SectorRecord.encode, List.append_assoc, List.cons_append]
      rw [readSector_of_bytes read (SectorRecord.normal_type flags), slice]
      simp only [SectorRecord.contents, List.length_cons, Nat.add_right_comm, Nat.add_assoc]
  | compressed flags fill =>
      have read := getByte_middle before (fill :: after) (2 * flags.val + 2).toUInt8
      have readFill := getByte_middle (before ++ [(2 * flags.val + 2).toUInt8]) after fill
      simp only [List.length_append, List.length_singleton, List.append_assoc,
        List.singleton_append] at readFill
      simp only [SectorRecord.encode, List.append_assoc, List.cons_append, List.singleton_append,
        List.nil_append]
      rw [readSector_of_fill read (SectorRecord.compressed_type flags) readFill]
      rfl

theorem SectorRecord.length_encode_pos (record : SectorRecord) : 0 < record.encode.length := by
  cases record <;> simp [SectorRecord.encode]

/-! ## The sector loop -/

/-- The sector loop over records laid out one after the other reads each record's contents into
the dict under its sector number, and ends after the last record. -/
theorem readSectors_encode (after : List UInt8) {sectorSize : Nat}
    (records : List (UInt8 × SectorRecord)) (fits : ∀ record ∈ records, record.2.Fits sectorSize)
    (before : List UInt8) (sectors : List (Nat × List UInt8)) :
    readSectors (before ++ records.flatMap (·.2.encode) ++ after) sectorSize
        (records.map Prod.fst) before.length sectors =
      .ok (records.foldl (fun sectors record =>
          dictSet sectors record.1.toNat (record.2.contents sectorSize)) sectors,
        before.length + (records.flatMap (·.2.encode)).length) := by
  induction records generalizing before sectors with
  | nil => simp [readSectors, pure, Except.pure]
  | cons record records induction =>
      have data : before ++ (record :: records).flatMap (·.2.encode) ++ after =
          before ++ record.2.encode ++ (records.flatMap (·.2.encode) ++ after) := by simp
      have next := induction (fun other member => fits other (.tail _ member))
        (before ++ record.2.encode) (dictSet sectors record.1.toNat (record.2.contents sectorSize))
      simp only [List.length_append, List.append_assoc] at next
      have inside := record.2.length_encode_pos
      rw [List.map_cons, readSectors, if_neg (by simp only [data, List.length_append]; omega),
        data, readSector_encode before _ (fits record (.head _)), Except.ok_bind]
      simp only [List.append_assoc] at next ⊢
      rw [next, List.foldl_cons, List.flatMap_cons, List.length_append, Nat.add_assoc]

/-! ## Track records -/

/-- A track record as the format defines it, with what `parse_imd` needs to read it back: a head
number of six bits, the upper two bits of the head byte flagging the maps; a size code within
`sector_sizes`; at most 255 sectors with distinct numbers, each record filling its sector; and
maps as long as the sector number map. -/
structure TrackImage where
  mode : UInt8
  cyl : UInt8
  head : Fin 0x40
  sizeCode : Fin 7
  cylMap : Option (List UInt8)
  headMap : Option (List UInt8)
  sectors : List (UInt8 × SectorRecord)
  count_lt : sectors.length < 0x100
  cylMap_length : ∀ map ∈ cylMap, map.length = sectors.length
  headMap_length : ∀ map ∈ headMap, map.length = sectors.length
  distinct : (sectors.map Prod.fst).Nodup
  fits : ∀ sector ∈ sectors, sector.2.Fits (sectorSizes.getD sizeCode 0)

namespace TrackImage

/-- `sector_sizes[size_code]`. -/
def sectorSize (track : TrackImage) : Nat := sectorSizes.getD track.sizeCode 0

/-- The head number with bit 7 set when the cylinder map is present and bit 6 when the head map
is. -/
def headByte (track : TrackImage) : UInt8 :=
  (track.head.val + (if track.cylMap.isSome then 0x80 else 0) +
    (if track.headMap.isSome then 0x40 else 0)).toUInt8

/-- The five-byte track header. -/
def header (track : TrackImage) : List UInt8 :=
  [track.mode, track.cyl, track.headByte, track.sectors.length.toUInt8, track.sizeCode.val.toUInt8]

/-- The record in the file. -/
def encode (track : TrackImage) : List UInt8 :=
  track.header ++ track.sectors.map Prod.fst ++ track.cylMap.getD [] ++ track.headMap.getD [] ++
    track.sectors.flatMap (·.2.encode)

/-- The track `parse_imd` returns for the record. -/
def toTrack (track : TrackImage) : Track where
  cyl := track.cyl.toNat
  head := track.head
  sectors := track.sectors.map fun sector => (sector.1.toNat, sector.2.contents track.sectorSize)
  sectorSize := track.sectorSize
  numSectors := track.sectors.length

theorem headByte_bits (track : TrackImage) :
    (track.headByte.toNat &&& 0x80 ≠ 0 ↔ track.cylMap.isSome = true) ∧
      (track.headByte.toNat &&& 0x40 ≠ 0 ↔ track.headMap.isSome = true) ∧
      track.headByte.toNat &&& 0x3F = track.head.val := by
  have bits : ∀ (head : Fin 0x40) (cylMap headMap : Bool),
      let byte := (head.val + (if cylMap then 0x80 else 0) + (if headMap then 0x40 else 0)).toUInt8
      (byte.toNat &&& 0x80 ≠ 0 ↔ cylMap = true) ∧ (byte.toNat &&& 0x40 ≠ 0 ↔ headMap = true) ∧
        byte.toNat &&& 0x3F = head.val := by
    decide
  exact bits track.head track.cylMap.isSome track.headMap.isSome

theorem sectorSizes_sizeCode (sizeCode : Fin 7) :
    sectorSizes[sizeCode.val.toUInt8.toNat]? = some (sectorSizes.getD sizeCode 0) := by
  revert sizeCode
  decide

theorem length_getD_of_forall {map : Option (List UInt8)} {count : Nat}
    (length : ∀ bytes ∈ map, bytes.length = count) :
    (map.getD []).length = if map.isSome then count else 0 := by
  cases map <;> simp_all

theorem sectors_foldl_dictSet (track : TrackImage) :
    track.sectors.foldl (fun sectors sector =>
        dictSet sectors sector.1.toNat (sector.2.contents track.sectorSize)) [] =
      track.toTrack.sectors := by
  have stored := @foldl_dictSet_of_fresh _ _ _ []
    (track.sectors.map fun sector => (sector.1.toNat, sector.2.contents track.sectorSize)) ?_
    fun _ _ => List.not_mem_nil _
  · rw [List.foldl_map, List.nil_append] at stored
    exact stored
  · have keys := List.Nodup.map (fun _ _ same => UInt8.toNat.inj same) track.distinct
    rw [List.map_map] at keys ⊢
    exact keys

end TrackImage

/-- A track record read at its place in the data gives its track and ends where the record does. -/
theorem readTrack_encode (before after : List UInt8) (track : TrackImage) :
    readTrack (before ++ track.encode ++ after) before.length =
      .ok (some (track.toTrack, before.length + track.encode.length)) := by
  have count : track.sectors.length.toUInt8.toNat = track.sectors.length := by
    rw [Nat.toUInt8, UInt8.toNat_ofNat_mod, Nat.mod_eq_of_lt track.count_lt]
  have headerLength : track.header.length = 5 := rfl
  have read (index : Nat) (inside : index < 5) :
      getByte (before ++ (track.encode ++ after)) (before.length + index) =
        .ok (track.header.getD index 0) := by
    rw [getByte_within before _ (by simp [TrackImage.encode]; omega)]
    interval_cases index <;> rfl
  have readMode : getByte (before ++ (track.encode ++ after)) before.length = .ok track.mode :=
    read 0 (by decide)
  have numbers := sliceGet_middle (before ++ track.header) (track.sectors.map Prod.fst)
    (track.cylMap.getD [] ++ track.headMap.getD [] ++ track.sectors.flatMap (·.2.encode) ++ after)
  have sectors := readSectors_encode after track.sectors track.fits
    (before ++ track.header ++ track.sectors.map Prod.fst ++ track.cylMap.getD [] ++
      track.headMap.getD []) []
  have length : (before ++ (track.encode ++ after)).length =
      before.length + (track.encode.length + after.length) := by simp
  have data : before ++ (track.encode ++ after) = before ++ (track.header ++
      (track.sectors.map Prod.fst ++ (track.cylMap.getD [] ++ (track.headMap.getD [] ++
        (track.sectors.flatMap (·.2.encode) ++ after))))) := by simp [TrackImage.encode]
  simp only [List.append_assoc, List.length_append, List.length_map, headerLength]
    at numbers sectors
  rw [← data] at numbers sectors
  rw [List.append_assoc]
  generalize before ++ (track.encode ++ after) = bytes at *
  have cylMap := TrackImage.length_getD_of_forall track.cylMap_length
  have headMap := TrackImage.length_getD_of_forall track.headMap_length
  have sectorsAt (pos : Nat) (atRecords : pos = before.length + (5 + (track.sectors.length +
      ((track.cylMap.getD []).length + (track.headMap.getD []).length)))) :=
    atRecords ▸ sectors
  simp only [readTrack, readMode, read 1 (by decide), read 2 (by decide), read 3 (by decide),
    read 4 (by decide), Except.ok_bind, pure_bind, List.getD_cons_succ, List.getD_cons_zero,
    TrackImage.header, count, TrackImage.sectorSizes_sizeCode, (TrackImage.headByte_bits track).1,
    (TrackImage.headByte_bits track).2.1, (TrackImage.headByte_bits track).2.2, numbers]
  have encodeLength : track.encode.length = 5 + (track.sectors.length +
      ((track.cylMap.getD []).length + ((track.headMap.getD []).length +
        (track.sectors.flatMap (·.2.encode)).length))) := by
    simp [TrackImage.encode, headerLength, Nat.add_assoc]
  rw [if_neg (by omega), if_neg (by omega),
    sectorsAt _ (by rw [cylMap, headMap]; split_ifs <;> omega), Except.ok_bind]
  simp only [pure, Except.pure, Except.ok.injEq, Option.some.injEq, Prod.mk.injEq]
  refine ⟨?_, ?_⟩
  · have stored := TrackImage.sectors_foldl_dictSet track
    simp only [TrackImage.toTrack, TrackImage.sectorSize] at stored ⊢
    rw [stored]
  · rw [encodeLength, cylMap, headMap]
    split_ifs <;> omega

/-! ## The whole file -/

theorem TrackImage.length_encode_pos (track : TrackImage) : 0 < track.encode.length := by
  simp [TrackImage.encode, TrackImage.header]

/-- The track loop over track records laid out one after the other up to the end of the data
reads each record's track. -/
theorem parseTracks_encode (tracks : List TrackImage) (before : List UInt8) :
    parseTracks (before ++ tracks.flatMap TrackImage.encode) before.length =
      .ok (tracks.map TrackImage.toTrack) := by
  induction tracks generalizing before with
  | nil => exact parseTracks_of_le (by simp)
  | cons track tracks induction =>
      have next := induction (before ++ track.encode)
      have inside := track.length_encode_pos
      rw [List.append_assoc, List.length_append] at next
      rw [List.flatMap_cons, ← List.append_assoc,
        parseTracks_of_some (by simp only [List.length_append]; omega)
          (readTrack_encode before _ track), List.append_assoc, next]
      rfl

/-- For every header without a `0x1A` byte and every list of track records, `parse_imd` reads
the file they make back to the records' tracks, in order. -/
theorem parseImd_encode (header : List UInt8) (noTerminator : 0x1A ∉ header)
    (tracks : List TrackImage) :
    parseImd (header ++ 0x1A :: tracks.flatMap TrackImage.encode) =
      .ok (tracks.map TrackImage.toTrack) := by
  have unmarked : header.findIdx? (· == 0x1A) = none :=
    List.findIdx?_eq_none_iff.mpr fun byte member =>
      beq_false_of_ne fun same => noTerminator (same ▸ member)
  have found : (header ++ 0x1A :: tracks.flatMap TrackImage.encode).findIdx? (· == 0x1A) =
      some header.length := by
    simp [unmarked]
  have read := parseTracks_encode tracks (header ++ [0x1A])
  rw [List.append_assoc, List.singleton_append, List.length_append, List.length_singleton] at read
  rw [parseImd, found]
  exact read

/-- A two-track image: on track 0 a compressed sector, a sector of no data and a deleted-data
sector; on track 1, with a cylinder map, one compressed sector with a data error. -/
def sampleTracks : List TrackImage :=
  [⟨5, 0, 0, 0, none, none,
      [(1, .compressed 0 0xE5), (2, .unavailable), (3, .normal 1 (List.replicate 128 7))],
      by decide, nofun, nofun, by decide, by simp [SectorRecord.Fits, sectorSizes]⟩,
    ⟨5, 1, 0, 1, some [1], none, [(1, .compressed 2 0)], by decide, by simp, nofun, by decide,
      by decide⟩]

theorem sampleTracks_read :
    parseImd ("IMD 1.18".toList.map (·.toNat.toUInt8) ++
        0x1A :: sampleTracks.flatMap TrackImage.encode) =
      .ok (sampleTracks.map TrackImage.toTrack) :=
  parseImd_encode _ (by decide) sampleTracks

end Mpm2Tools.Imd2raw
