import Mpm2Tools.Imd2raw.Parse

/-! # Raw disk images

`imd2raw.imd_to_raw` lays the sectors that `parse_imd` read into a raw image. Every track gets the
first track's sector size and sector count; the tracks follow each other in cylinder-major order
with `max_head + 1` heads per cylinder, and sector `sec_num` goes to index `sec_num - 1` of its
track (index 0 for sector 0). The image starts filled with `0xE5`, and a sector that would end
past the image is dropped.

Sector numbers 0 and 1 both go to index 0 of their track, so when a track holds both sectors the
later one overwrites the earlier. Without that pair, and with one geometry, one track per
(cylinder, head) and sector numbers up to the sector count, every sector lands inside its own
track and reads back from the image. -/

namespace Mpm2Tools.Imd2raw

open Mpm2Tools

/-- `max(field(t) for t in tracks)`, for a list `tracks` whose first element is `first`. -/
def maxOf (field : Track → Nat) (first : Track) (tracks : List Track) : Nat :=
  tracks.foldl (fun maximum track => max maximum (field track)) (field first)

/-- `sec_idx`: sectors are numbered from 1, and sector 0 is taken as index 0. -/
def secIdx (secNum : Nat) : Nat := if secNum > 0 then secNum - 1 else secNum

/-- The byte offset of sector `secNum` of the track at (`cyl`, `head`). -/
def sectorOffset (maxHead sectorsPerTrack sectorSize cyl head secNum : Nat) : Nat :=
  ((cyl * (maxHead + 1) + head) * sectorsPerTrack + secIdx secNum) * sectorSize

/-- `image[offset:offset + len(sec_data)] = sec_data`, skipped when the sector would end past the
image. -/
def writeSector (image : List UInt8) (offset : Nat) (secData : List UInt8) : List UInt8 :=
  if offset + secData.length ≤ image.length then
    sliceSet image offset (offset + secData.length) secData
  else image

/-- The loops `for track in tracks` and `for sec_num, sec_data in track['sectors'].items()`. -/
def writeTracks (image : List UInt8) (maxHead sectorsPerTrack sectorSize : Nat)
    (tracks : List Track) : List UInt8 :=
  tracks.foldl (fun image track =>
    track.sectors.foldl (fun image sector =>
      writeSector image
        (sectorOffset maxHead sectorsPerTrack sectorSize track.cyl track.head sector.1) sector.2)
      image) image

/-- `imd_to_raw`: the bytes written to `raw_file` with the returned `(sector_size,
sectors_per_track, max_cyl + 1)`, or `none` where no track was found. -/
def imdToRaw (data : List UInt8) : Except PyError (Option (List UInt8 × Nat × Nat × Nat)) := do
  let tracks ← parseImd data
  match tracks with
  | [] => pure none
  | first :: _ =>
      let maxCyl := maxOf Track.cyl first tracks
      let maxHead := maxOf Track.head first tracks
      let sectorSize := first.sectorSize
      let sectorsPerTrack := first.numSectors
      let totalSize := (maxCyl + 1) * (maxHead + 1) * sectorsPerTrack * sectorSize
      let image := List.replicate totalSize (0xE5 : UInt8)
      let image := writeTracks image maxHead sectorsPerTrack sectorSize tracks
      pure (some (image, sectorSize, sectorsPerTrack, maxCyl + 1))

/-! ## Runs of writes -/

/-- The sector writes of `writeTracks`, in order: each sector's offset and data. -/
def sectorWrites (maxHead sectorsPerTrack sectorSize : Nat) (tracks : List Track) :
    List (Nat × List UInt8) :=
  tracks.flatMap fun track => track.sectors.map fun sector =>
    (sectorOffset maxHead sectorsPerTrack sectorSize track.cyl track.head sector.1, sector.2)

/-- The ranges of two writes do not overlap. -/
def Apart (write other : Nat × List UInt8) : Prop :=
  write.1 + write.2.length ≤ other.1 ∨ other.1 + other.2.length ≤ write.1

/-- A run of writes, in order. -/
def writeAll (image : List UInt8) (writes : List (Nat × List UInt8)) : List UInt8 :=
  writes.foldl (fun image write => writeSector image write.1 write.2) image

theorem writeTracks_eq_writeAll (image : List UInt8) (maxHead sectorsPerTrack sectorSize : Nat)
    (tracks : List Track) :
    writeTracks image maxHead sectorsPerTrack sectorSize tracks =
      writeAll image (sectorWrites maxHead sectorsPerTrack sectorSize tracks) := by
  induction tracks generalizing image with
  | nil => rfl
  | cons track tracks induction =>
      simp only [writeTracks, sectorWrites, writeAll, List.flatMap_cons, List.foldl_append,
        List.foldl_map, List.foldl_cons] at induction ⊢
      exact induction _

@[simp] theorem length_writeSector (image : List UInt8) (offset : Nat) (secData : List UInt8) :
    (writeSector image offset secData).length = image.length := by
  unfold writeSector
  split_ifs with fits
  · exact length_sliceSet_of_fits _ _ (by omega) (by omega) fits
  · rfl

@[simp] theorem length_writeAll (image : List UInt8) (writes : List (Nat × List UInt8)) :
    (writeAll image writes).length = image.length := by
  induction writes generalizing image with
  | nil => rfl
  | cons write writes induction => rw [writeAll, List.foldl_cons, ← writeAll, induction,
      length_writeSector]

theorem sliceGet_writeSector_of_apart (image : List UInt8) {offset first last : Nat}
    {secData : List UInt8} (apart : last ≤ offset ∨ offset + secData.length ≤ first) :
    sliceGet (writeSector image offset secData) first last = sliceGet image first last := by
  unfold writeSector
  split_ifs with fits
  · exact sliceGet_sliceSet_of_apart _ _ (by omega) (by omega) fits apart
  · rfl

/-- A run of writes that all miss a range leaves the slice of that range as it was. -/
theorem sliceGet_writeAll_of_apart (image : List UInt8) {writes : List (Nat × List UInt8)}
    {first last : Nat}
    (apart : ∀ write ∈ writes, last ≤ write.1 ∨ write.1 + write.2.length ≤ first) :
    sliceGet (writeAll image writes) first last = sliceGet image first last := by
  induction writes generalizing image with
  | nil => rfl
  | cons write writes induction =>
      simp only [List.mem_cons, forall_eq_or_imp] at apart
      rw [writeAll, List.foldl_cons, ← writeAll, induction _ apart.2,
        sliceGet_writeSector_of_apart _ apart.1]

/-- In a run of writes that fit the image and are pairwise apart, every write reads back. -/
theorem sliceGet_writeAll (image : List UInt8) {writes : List (Nat × List UInt8)}
    (fits : ∀ write ∈ writes, write.1 + write.2.length ≤ image.length)
    (apart : writes.Pairwise Apart) :
    ∀ write ∈ writes, sliceGet (writeAll image writes) write.1 (write.1 + write.2.length) =
      write.2 := by
  induction writes generalizing image with
  | nil => nofun
  | cons write writes induction =>
      simp only [List.mem_cons, forall_eq_or_imp] at fits ⊢
      rw [List.pairwise_cons] at apart
      rw [writeAll, List.foldl_cons, ← writeAll]
      refine ⟨?_, induction _ (fun later member => ?_) apart.2⟩
      · rw [sliceGet_writeAll_of_apart _ apart.1,
          writeSector, if_pos fits.1, sliceGet_sliceSet_self _ _ fits.1]
      · rw [length_writeSector]
        exact fits.2 later member

/-! ## Placement arithmetic -/

theorem le_foldl_max (field : Track → Nat) (tracks : List Track) (init : Nat) :
    init ≤ tracks.foldl (fun maximum track => max maximum (field track)) init ∧
      ∀ track ∈ tracks,
        field track ≤ tracks.foldl (fun maximum track => max maximum (field track)) init := by
  induction tracks generalizing init with
  | nil => simp
  | cons track tracks induction =>
      obtain ⟨above, each⟩ := induction (max init (field track))
      simp only [List.foldl_cons, List.mem_cons, forall_eq_or_imp]
      exact ⟨by omega, by omega, each⟩

theorem le_maxOf (field : Track → Nat) (first : Track) {tracks : List Track} {track : Track}
    (member : track ∈ tracks) : field track ≤ maxOf field first tracks :=
  (le_foldl_max field tracks (field first)).2 track member

/-- Slot `slot` of `slots`, each `size` bytes long, ends inside the `slots * size` bytes. -/
theorem slot_fits {slot slots size length : Nat} (inside : slot < slots) (short : length ≤ size) :
    slot * size + length ≤ slots * size := by
  have step := Nat.mul_le_mul_right size (show slot + 1 ≤ slots from inside)
  rw [Nat.succ_mul] at step
  omega

theorem mixedRadix_lt {high low radix bound : Nat} (lowSmall : low < radix)
    (highSmall : high < bound) :
    high * radix + low < bound * radix := by
  have step := Nat.mul_le_mul_right radix (show high + 1 ≤ bound from highSmall)
  rw [Nat.succ_mul] at step
  omega

theorem mixedRadix_eq {high low other otherLow radix : Nat} (lowSmall : low < radix)
    (otherSmall : otherLow < radix) (same : high * radix + low = other * radix + otherLow) :
    high = other ∧ low = otherLow := by
  rcases Nat.lt_trichotomy high other with less | rfl | greater
  · have := mixedRadix_lt lowSmall less
    omega
  · omega
  · have := mixedRadix_lt otherSmall greater
    omega

/-- Sectors in different slots of the same size do not overlap. -/
theorem apart_of_slots {slot other size : Nat} {data otherData : List UInt8} (differ : slot ≠ other)
    (short : data.length ≤ size) (otherShort : otherData.length ≤ size) :
    Apart (slot * size, data) (other * size, otherData) := by
  rcases Nat.lt_or_gt_of_ne differ with less | greater
  · exact Or.inl (slot_fits less short)
  · exact Or.inr (slot_fits greater otherShort)

/-- A slot of a block of `count` slots lies inside the block. -/
theorem slot_within_block (block : Nat) {index count size length : Nat} (inside : index < count)
    (short : length ≤ size) :
    block * (count * size) ≤ (block * count + index) * size ∧
      (block * count + index) * size + length ≤ block * (count * size) + count * size := by
  have step := slot_fits inside short
  rw [Nat.add_mul, Nat.mul_assoc]
  constructor <;> omega

theorem secIdx_lt {secNum sectorsPerTrack : Nat} (numbered : secNum ≤ sectorsPerTrack)
    (nonempty : 0 < sectorsPerTrack) : secIdx secNum < sectorsPerTrack := by
  unfold secIdx
  split_ifs <;> omega

/-- Only sectors 0 and 1 share an index. -/
theorem secIdx_eq {secNum other : Nat} (same : secIdx secNum = secIdx other) :
    secNum = other ∨ secNum = 0 ∧ other = 1 ∨ secNum = 1 ∧ other = 0 := by
  unfold secIdx at same
  split_ifs at same <;> omega

/-! ## Where the sectors go -/

/-- What `imd_to_raw` should make of the sectors of `tracks`, with the geometry of `first`: no two
sectors' ranges overlap, and every sector lies inside its own track's `N * size` bytes and reads
back from `image` at its offset. -/
def SectorsPlaced (image : List UInt8) (first : Track) (tracks : List Track) : Prop :=
  let maxHead := maxOf Track.head first tracks
  let trackBytes := first.numSectors * first.sectorSize
  (sectorWrites maxHead first.numSectors first.sectorSize tracks).Pairwise Apart ∧
    ∀ track ∈ tracks, ∀ sector ∈ track.sectors,
      let offset :=
        sectorOffset maxHead first.numSectors first.sectorSize track.cyl track.head sector.1
      let trackStart := (track.cyl * (maxHead + 1) + track.head) * trackBytes
      trackStart ≤ offset ∧ offset + sector.2.length ≤ trackStart + trackBytes ∧
        sliceGet image offset (offset + sector.2.length) = sector.2

/-- A sector of a well-formed track with the first track's geometry and a number up to the sector
count has an index inside the track and no more than `sector_size` bytes. -/
theorem sector_slot {first track : Track} {sector : Nat × List UInt8}
    (wellFormed : track.WellFormed)
    (sameGeometry : track.sectorSize = first.sectorSize ∧ track.numSectors = first.numSectors)
    (numbered : sector.1 ≤ first.numSectors) (member : sector ∈ track.sectors) :
    secIdx sector.1 < first.numSectors ∧ sector.2.length ≤ first.sectorSize := by
  have nonempty := List.length_pos_of_mem member
  exact ⟨secIdx_lt numbered (by have := wellFormed.2; omega),
    sameGeometry.1 ▸ wellFormed.1.2 sector member⟩

/-- The image `imd_to_raw` builds from well-formed tracks of one geometry, one per (cylinder,
head), with sector numbers up to the sector count and never both 0 and 1 in a track, holds every
sector in its place. -/
theorem sectorsPlaced_writeTracks {first : Track} {tracks : List Track}
    (wellFormed : ∀ track ∈ tracks, track.WellFormed)
    (sameGeometry : ∀ track ∈ tracks,
      track.sectorSize = first.sectorSize ∧ track.numSectors = first.numSectors)
    (distinctTracks : (tracks.map fun track => (track.cyl, track.head)).Nodup)
    (numbered : ∀ track ∈ tracks, ∀ sector ∈ track.sectors, sector.1 ≤ first.numSectors)
    (notBoth : ∀ track ∈ tracks,
      ¬(0 ∈ track.sectors.map Prod.fst ∧ 1 ∈ track.sectors.map Prod.fst)) :
    let maxCyl := maxOf Track.cyl first tracks
    let maxHead := maxOf Track.head first tracks
    SectorsPlaced
      (writeTracks (List.replicate ((maxCyl + 1) * (maxHead + 1) * first.numSectors *
        first.sectorSize) 0xE5) maxHead first.numSectors first.sectorSize tracks) first tracks := by
  intro maxCyl maxHead
  have slot : ∀ track ∈ tracks, ∀ sector ∈ track.sectors,
      secIdx sector.1 < first.numSectors ∧ sector.2.length ≤ first.sectorSize :=
    fun track member sector inTrack => sector_slot (wellFormed track member)
      (sameGeometry track member) (numbered track member sector inTrack) inTrack
  have heads : ∀ track ∈ tracks, track.head < maxHead + 1 :=
    fun track member => Nat.lt_succ_of_le (le_maxOf _ _ member)
  have apart : (sectorWrites maxHead first.numSectors first.sectorSize tracks).Pairwise Apart := by
    refine List.pairwise_flatMap.mpr ⟨fun track member => ?_, ?_⟩
    · have keys := (wellFormed track member).1.1
      rw [List.Nodup, List.pairwise_map] at keys
      refine List.pairwise_map.mpr (keys.imp_of_mem fun {sector other} inTrack otherInTrack
        differ => apart_of_slots (fun same => ?_) (slot track member sector inTrack).2
          (slot track member other otherInTrack).2)
      have found : ∀ {number}, sector.1 = number → number ∈ track.sectors.map Prod.fst :=
        fun found => List.mem_map.mpr ⟨sector, inTrack, found⟩
      have otherFound : ∀ {number}, other.1 = number → number ∈ track.sectors.map Prod.fst :=
        fun found => List.mem_map.mpr ⟨other, otherInTrack, found⟩
      rcases secIdx_eq (mixedRadix_eq (slot track member sector inTrack).1
          (slot track member other otherInTrack).1 same).2 with equal | ⟨zero, one⟩ | ⟨one, zero⟩
      · exact differ equal
      · exact notBoth track member ⟨found zero, otherFound one⟩
      · exact notBoth track member ⟨otherFound zero, found one⟩
    · rw [List.Nodup, List.pairwise_map] at distinctTracks
      refine distinctTracks.imp_of_mem fun {track other} member otherMember differ => ?_
      intro write written otherWrite otherWritten
      obtain ⟨sector, inTrack, rfl⟩ := List.mem_map.mp written
      obtain ⟨otherSector, otherInTrack, rfl⟩ := List.mem_map.mp otherWritten
      obtain ⟨index, short⟩ := slot track member sector inTrack
      obtain ⟨otherIndex, otherShort⟩ := slot other otherMember otherSector otherInTrack
      refine apart_of_slots (fun same => differ ?_) short otherShort
      obtain ⟨sameCyl, sameHead⟩ := mixedRadix_eq (heads track member) (heads other otherMember)
        (mixedRadix_eq index otherIndex same).1
      rw [sameCyl, sameHead]
  have fits : ∀ write ∈ sectorWrites maxHead first.numSectors first.sectorSize tracks,
      write.1 + write.2.length ≤
        ((maxCyl + 1) * (maxHead + 1) * first.numSectors * first.sectorSize) := by
    intro write written
    obtain ⟨track, member, written⟩ := List.mem_flatMap.mp written
    obtain ⟨sector, inTrack, rfl⟩ := List.mem_map.mp written
    obtain ⟨index, short⟩ := slot track member sector inTrack
    have cylinder := Nat.lt_succ_of_le (le_maxOf Track.cyl first member)
    exact slot_fits (mixedRadix_lt index (mixedRadix_lt (heads track member) cylinder)) short
  refine ⟨apart, fun track member sector inTrack => ?_⟩
  obtain ⟨index, short⟩ := slot track member sector inTrack
  obtain ⟨start, stop⟩ := slot_within_block (track.cyl * (maxHead + 1) + track.head) index short
  refine ⟨start, stop, ?_⟩
  rw [writeTracks_eq_writeAll]
  exact sliceGet_writeAll _ (by simpa using fits) apart (_, sector.2)
    (List.mem_flatMap.mpr ⟨track, member, List.mem_map.mpr ⟨sector, inTrack, rfl⟩⟩)

/-! ## Conversion contracts -/

set_option maxRecDepth 10000 in
/-- A one-track file whose two compressed sectors are numbered 0 and 1 and filled with `0xAA` and
`0xBB`. Both sectors go to offset 0, so the image holds sector 1 twice over sector 0's place and
sector 0's data is lost. -/
theorem imdToRaw_sector_zero_overwritten :
    let data : List UInt8 := [0x1A, 0, 0, 0, 2, 0, 0, 1, 2, 0xAA, 2, 0xBB]
    let track : Track :=
      { cyl := 0, head := 0,
        sectors := [(0, List.replicate 128 0xAA), (1, List.replicate 128 0xBB)],
        sectorSize := 128, numSectors := 2 }
    parseImd data = .ok [track] ∧ sectorOffset 0 2 128 0 0 0 = sectorOffset 0 2 128 0 0 1 ∧
      imdToRaw data =
        .ok (some (List.replicate 128 0xBB ++ List.replicate 128 0xE5, 128, 2, 1)) := by
  intro data track
  have read : readTrack data 1 = .ok (some (track, 12)) := by decide
  have parsed : parseImd data = .ok [track] := by
    show parseTracks data 1 = _
    rw [parseTracks_of_some (by decide) read, parseTracks_of_le (by decide)]
    rfl
  refine ⟨parsed, rfl, ?_⟩
  simp only [imdToRaw, parsed, Except.ok_bind]
  decide

/-- For a file `parse_imd` accepts with at least one track, all tracks of the first track's sector
size and count `N`, no two tracks at one (cylinder, head), every sector number in `0..N`, and no
track holding both sector 0 and sector 1: `imd_to_raw` writes the image and returns the geometry,
and in the image every sector lies inside its own track's `N * size` bytes and reads back at its
offset, with no two sectors' ranges overlapping. -/
theorem imdToRaw_places_sectors {data : List UInt8} {first : Track} {rest : List Track}
    (parsed : parseImd data = .ok (first :: rest))
    (sameGeometry : ∀ track ∈ first :: rest,
      track.sectorSize = first.sectorSize ∧ track.numSectors = first.numSectors)
    (distinctTracks : ((first :: rest).map fun track => (track.cyl, track.head)).Nodup)
    (numbered : ∀ track ∈ first :: rest, ∀ sector ∈ track.sectors, sector.1 ≤ first.numSectors)
    (notBoth : ∀ track ∈ first :: rest,
      ¬(0 ∈ track.sectors.map Prod.fst ∧ 1 ∈ track.sectors.map Prod.fst)) :
    ∃ image, imdToRaw data = .ok (some (image, first.sectorSize, first.numSectors,
      maxOf Track.cyl first (first :: rest) + 1)) ∧ SectorsPlaced image first (first :: rest) :=
  ⟨_, by simp only [imdToRaw, parsed, Except.ok_bind]; rfl,
    sectorsPlaced_writeTracks (parseImd_wellFormed parsed) sameGeometry distinctTracks numbered
      notBoth⟩

set_option maxRecDepth 10000 in
/-- The same file with its sectors numbered 1 and 2. -/
theorem imdToRaw_places_sectors_sample :
    let data : List UInt8 := [0x1A, 0, 0, 0, 2, 0, 1, 2, 2, 0xAA, 2, 0xBB]
    let first : Track :=
      { cyl := 0, head := 0,
        sectors := [(1, List.replicate 128 0xAA), (2, List.replicate 128 0xBB)],
        sectorSize := 128, numSectors := 2 }
    parseImd data = .ok [first] ∧
      ∃ image, imdToRaw data = .ok (some (image, 128, 2, 1)) ∧
        SectorsPlaced image first [first] := by
  intro data first
  have read : readTrack data 1 = .ok (some (first, 12)) := by decide
  have parsed : parseImd data = .ok [first] := by
    show parseTracks data 1 = _
    rw [parseTracks_of_some (by decide) read, parseTracks_of_le (by decide)]
    rfl
  exact ⟨parsed, imdToRaw_places_sectors parsed (by decide) (by decide) (by decide) (by decide)⟩

/-! ## The blank image -/

theorem getElem?_writeSector_of_outside (image : List UInt8) {offset index : Nat}
    {secData : List UInt8} (outside : index < offset ∨ offset + secData.length ≤ index) :
    (writeSector image offset secData)[index]? = image[index]? := by
  unfold writeSector
  split_ifs with fits
  · rcases outside with below | above
    · exact getElem?_sliceSet_of_lt _ _ below (by omega)
    · exact getElem?_sliceSet_of_ge _ _ (by omega) (by omega) fits above
  · rfl

/-- A byte that no write of a run covers keeps its value. -/
theorem getElem?_writeAll_of_outside (image : List UInt8) {writes : List (Nat × List UInt8)}
    {index : Nat} (outside : ∀ write ∈ writes, index < write.1 ∨ write.1 + write.2.length ≤ index) :
    (writeAll image writes)[index]? = image[index]? := by
  induction writes generalizing image with
  | nil => rfl
  | cons write writes induction =>
    simp only [List.mem_cons, forall_eq_or_imp] at outside
    rw [writeAll, List.foldl_cons, ← writeAll, induction _ outside.2,
      getElem?_writeSector_of_outside _ outside.1]

/-- For every file `parse_imd` reads to at least one track, `imd_to_raw` returns the first track's
sector size and sector count and `max_cyl + 1` cylinders, and writes an image of exactly that
geometry: `max_cyl + 1` cylinders of `max_head + 1` tracks of the first track's sector count and
size. Every byte that no sector write covers is `0xE5`, so a sector the file lacks reads as a
blank one. -/
theorem imdToRaw_geometry {data : List UInt8} {first : Track} {rest : List Track}
    (parsed : parseImd data = .ok (first :: rest)) :
    let maxCyl := maxOf Track.cyl first (first :: rest)
    let maxHead := maxOf Track.head first (first :: rest)
    ∃ image, imdToRaw data =
        .ok (some (image, first.sectorSize, first.numSectors, maxCyl + 1)) ∧
      image.length = (maxCyl + 1) * (maxHead + 1) * first.numSectors * first.sectorSize ∧
      ∀ index < image.length, (∀ write ∈ sectorWrites maxHead first.numSectors first.sectorSize
        (first :: rest), index < write.1 ∨ write.1 + write.2.length ≤ index) →
          image[index]? = some 0xE5 := by
  refine ⟨_, by rw [imdToRaw, parsed, Except.ok_bind]; rfl, ?_, fun index inside outside => ?_⟩
  · rw [writeTracks_eq_writeAll, length_writeAll, List.length_replicate]
  · rw [writeTracks_eq_writeAll, length_writeAll, List.length_replicate] at inside
    rw [writeTracks_eq_writeAll, getElem?_writeAll_of_outside _ outside,
      List.getElem?_replicate_of_lt inside]

/-- One track of two sectors, one of each fill. -/
def sampleTrack : Track :=
  { cyl := 0, head := 0, sectors := [(1, List.replicate 128 0xAA), (2, List.replicate 128 0xBB)],
    sectorSize := 128, numSectors := 2 }

set_option maxRecDepth 10000 in
theorem imdToRaw_geometry_sample :
    let data : List UInt8 := [0x1A, 0, 0, 0, 2, 0, 1, 2, 2, 0xAA, 2, 0xBB]
    parseImd data = .ok [sampleTrack] ∧
    ∃ image, imdToRaw data =
        .ok (some (image, 128, 2, maxOf Track.cyl sampleTrack [sampleTrack] + 1)) ∧
      image.length = (maxOf Track.cyl sampleTrack [sampleTrack] + 1) *
        (maxOf Track.head sampleTrack [sampleTrack] + 1) * 2 * 128 ∧
      ∀ index < image.length, (∀ write ∈ sectorWrites (maxOf Track.head sampleTrack [sampleTrack])
        2 128 [sampleTrack], index < write.1 ∨ write.1 + write.2.length ≤ index) →
          image[index]? = some 0xE5 := by
  intro data
  have read : readTrack data 1 = .ok (some (sampleTrack, 12)) := by decide
  have parsed : parseImd data = .ok [sampleTrack] := by
    show parseTracks data 1 = _
    rw [parseTracks_of_some (by decide) read, parseTracks_of_le (by decide)]
    rfl
  exact ⟨parsed, imdToRaw_geometry parsed⟩

end Mpm2Tools.Imd2raw
