import Mpm2Tools.Gensys.SprModule

/-! # Relocation by instruction scan

`SPRModule._relocate_by_instruction` relocates a module that has no bitmap: it walks the code,
decodes the Z80 instructions that carry a 16-bit absolute address, and rebases the high byte of
the address when it lies below the base page. `generate` never calls it.

After an `ED` prefix the scan moves `i` past the prefix and then still takes the high byte at
offset 3 from there. The byte it rebases is therefore four bytes after the prefix: the byte after
the instruction, not the high byte of its operand. -/

namespace Mpm2Tools.Gensys

open Mpm2Tools

namespace SPRModule

/-- The one-byte opcodes followed by a 16-bit address, in the order the source tests them:
`JP nn`, `CALL nn`, `JP cc,nn`, `CALL cc,nn`, `LD rr,nn`, `LD A,(nn)`, `LD (nn),A`,
`LD HL,(nn)` and `LD (nn),HL`. -/
def addressOpcodes : List UInt8 :=
  [0xC3, 0xCD, 0xC2, 0xCA, 0xD2, 0xDA, 0xE2, 0xEA, 0xF2, 0xFA, 0xC4, 0xCC, 0xD4, 0xDC, 0xE4,
    0xEC, 0xF4, 0xFC, 0x01, 0x11, 0x21, 0x31, 0x3A, 0x32, 0x2A, 0x22]

/-- The second bytes of `ED 4B/5B/7B nn nn` (`LD rr,(nn)`) and `ED 43/53/73 nn nn`
(`LD (nn),rr`). -/
def edAddressOpcodes : List UInt8 := [0x4B, 0x5B, 0x7B, 0x43, 0x53, 0x73]

/-- The opcode tests at scan position `i`. The result is the number of prefix bytes the scan
skips (the `i += 1` of the `ED` branch) and `addr_offset`, the offset of the address high byte
from the position after the skip; `none` stands for the source's `-1`. -/
def decodeAt (code : List UInt8) (psize i : Nat) : Except PyError (Nat × Option Nat) := do
  let opcode ← getByte code i
  if opcode ∈ addressOpcodes then pure (0, some 2)
  else if opcode = 0xED ∧ i + 3 < psize then
    let edOpcode ← getByte code (i + 1)
    if edOpcode ∈ edAddressOpcodes then pure (1, some 3) else pure (0, none)
  else pure (0, none)

/-- The loop body for a decoded address whose high byte is at `highByteIdx`. Unless the bitmap
already relocated that byte, it reads both address bytes and rebases the high byte when it lies
below `base_page`. -/
def relocateAddress (code : List UInt8) (basePage : Int) (alreadyRelocated : List Nat)
    (highByteIdx : Nat) : Except PyError (List UInt8) :=
  if highByteIdx ∈ alreadyRelocated then pure code
  else do
    let _lo ← getByte code (highByteIdx - 1)
    let hi ← getByte code highByteIdx
    if (hi.toNat : Int) < basePage then setByte code highByteIdx ((hi.toNat + basePage) % 256)
    else pure code

/-- The loop `while i < self.psize - 2` from scan position `i`. -/
def relocateByInstructionFrom (code : List UInt8) (psize : Nat) (basePage : Int)
    (alreadyRelocated : List Nat) (i : Nat) : Except PyError (List UInt8) :=
  if i + 2 < psize then do
    let (skip, addrOffset) ← decodeAt code psize i
    match addrOffset with
    | some addrOffset =>
        if i + skip + addrOffset < psize then do
          let code ← relocateAddress code basePage alreadyRelocated (i + skip + addrOffset)
          relocateByInstructionFrom code psize basePage alreadyRelocated
            (i + skip + addrOffset + 1)
        else relocateByInstructionFrom code psize basePage alreadyRelocated (i + skip + 1)
    | none => relocateByInstructionFrom code psize basePage alreadyRelocated (i + skip + 1)
  else pure code
termination_by psize - i

/-- `_relocate_by_instruction(base_page, already_relocated)`. The scan rewrites `self.code` in
place; a missing `already_relocated` is the empty set. -/
def relocateByInstruction (module : SPRModule) (basePage : Int)
    (alreadyRelocated : Option (List Nat)) : Except PyError SPRModule := do
  let alreadyRelocated := alreadyRelocated.getD []
  let code ← relocateByInstructionFrom module.code module.psize basePage alreadyRelocated 0
  pure { module with code }

/-! ## What one scan may change -/

/-- `index` is the byte the scan rebases for an instruction decoded at `position`: two bytes after
a listed opcode, or four bytes after an `ED` prefix whose second byte is listed. -/
def OperandHighAt (code : List UInt8) (position index : Nat) : Prop :=
  (∃ opcode ∈ addressOpcodes, code[position]? = some opcode) ∧ index = position + 2 ∨
    code[position]? = some 0xED ∧
      (∃ edOpcode ∈ edAddressOpcodes, code[position + 1]? = some edOpcode) ∧ index = position + 4

/-- The change the scan may make at `index`: a byte outside `alreadyRelocated` and below
`basePage` becomes itself plus `basePage` modulo 256. -/
def RebasedAt (code result : List UInt8) (basePage : Int) (alreadyRelocated : List Nat)
    (index : Nat) : Prop :=
  index ∉ alreadyRelocated ∧ ∃ byte, code[index]? = some byte ∧ (byte.toNat : Int) < basePage ∧
    result[index]? = some (addPage byte basePage)

theorem OperandHighAt.congr {code other : List UInt8} {position index : Nat}
    (at0 : code[position]? = other[position]?) (at1 : code[position + 1]? = other[position + 1]?)
    (decoded : OperandHighAt code position index) : OperandHighAt other position index := by
  unfold OperandHighAt at decoded ⊢
  rwa [← at0, ← at1]

theorem RebasedAt.congr {code other result : List UInt8} {basePage : Int}
    {alreadyRelocated : List Nat} {index : Nat} (same : code[index]? = other[index]?)
    (rebased : RebasedAt code result basePage alreadyRelocated index) :
    RebasedAt other result basePage alreadyRelocated index := by
  unfold RebasedAt at rebased ⊢
  rwa [← same]

/-! ## One step -/

section Step

variable {code : List UInt8} {psize : Nat} {basePage : Int} {alreadyRelocated : List Nat} {i : Nat}

theorem relocateByInstructionFrom_of_le (done : psize ≤ i + 2) :
    relocateByInstructionFrom code psize basePage alreadyRelocated i = .ok code := by
  rw [relocateByInstructionFrom, if_neg (by omega)]
  rfl

theorem relocateByInstructionFrom_of_address {skip addrOffset : Nat} {patched : List UInt8}
    (scanning : i + 2 < psize) (decoded : decodeAt code psize i = .ok (skip, some addrOffset))
    (fits : i + skip + addrOffset < psize)
    (patch : relocateAddress code basePage alreadyRelocated (i + skip + addrOffset) = .ok patched) :
    relocateByInstructionFrom code psize basePage alreadyRelocated i =
      relocateByInstructionFrom patched psize basePage alreadyRelocated
        (i + skip + addrOffset + 1) := by
  rw [relocateByInstructionFrom, if_pos scanning]
  simp only [decoded, Except.ok_bind, if_pos fits, patch]

end Step

theorem decodeAt_spec {code : List UInt8} {psize i : Nat} (scanning : i + 2 < psize)
    (inside : psize ≤ code.length) :
    ∃ skip addrOffset, decodeAt code psize i = .ok (skip, addrOffset) ∧ skip ≤ 1 ∧
      ∀ offset, addrOffset = some offset → OperandHighAt code i (i + skip + offset) := by
  have opcodeAt := getByte_of_lt (show i < code.length by omega)
  have edOpcodeAt := getByte_of_lt (show i + 1 < code.length by omega)
  have found : code[i]? = some code[i] := List.getElem?_eq_getElem _
  have edFound : code[i + 1]? = some code[i + 1] := List.getElem?_eq_getElem _
  unfold decodeAt
  simp only [opcodeAt, Except.ok_bind]
  split_ifs with listed prefixed
  · exact ⟨0, some 2, rfl, by omega, fun _ two => Or.inl ⟨⟨_, listed, found⟩, by cases two; rfl⟩⟩
  · simp only [edOpcodeAt, Except.ok_bind]
    split_ifs with edListed
    · refine ⟨1, some 3, rfl, le_rfl, fun _ three => Or.inr ?_⟩
      cases three
      exact ⟨prefixed.1 ▸ found, ⟨_, edListed, edFound⟩, by omega⟩
    · exact ⟨0, none, rfl, by omega, nofun⟩
  · exact ⟨0, none, rfl, by omega, nofun⟩

theorem relocateAddress_spec (code : List UInt8) (basePage : Int) (alreadyRelocated : List Nat)
    {highByteIdx : Nat} (inside : highByteIdx < code.length) :
    ∃ result, relocateAddress code basePage alreadyRelocated highByteIdx = .ok result ∧
      result.length = code.length ∧ ∀ index, result[index]? ≠ code[index]? →
        index = highByteIdx ∧ RebasedAt code result basePage alreadyRelocated index := by
  unfold relocateAddress
  split_ifs with skipped
  · exact ⟨code, rfl, rfl, fun _ changed => absurd rfl changed⟩
  · simp only [getByte_of_lt (show highByteIdx - 1 < code.length by omega), getByte_of_lt inside,
      Except.ok_bind]
    split_ifs with below
    · have nonneg : 0 ≤ ((code[highByteIdx].toNat : Int) + basePage) % 256 :=
        Int.emod_nonneg _ (by decide)
      have small : ((code[highByteIdx].toNat : Int) + basePage) % 256 < 256 :=
        Int.emod_lt_of_pos _ (by decide)
      refine ⟨_, setByte_ok_iff.mpr ⟨nonneg, small, inside, rfl⟩, by simp, ?_⟩
      intro index changed
      by_cases same : index = highByteIdx
      · subst same
        exact ⟨rfl, skipped, _, List.getElem?_eq_getElem _, below, by simp [addPage, inside]⟩
      · exact absurd (List.getElem?_set_ne (Ne.symm same)) changed
    · exact ⟨code, rfl, rfl, fun _ changed => absurd rfl changed⟩

/-! ## The whole scan -/

/-- The scan from position `i` over a buffer of at least `psize` bytes raises nothing, keeps the
length, and changes only bytes below `psize` that an instruction decoded at or after `i` names as
its address high byte (see `OperandHighAt`), each by the rebase of `RebasedAt`. -/
theorem relocateByInstructionFrom_spec (code : List UInt8) (psize : Nat) (basePage : Int)
    (alreadyRelocated : List Nat) (i : Nat) (inside : psize ≤ code.length) :
    ∃ result, relocateByInstructionFrom code psize basePage alreadyRelocated i = .ok result ∧
      result.length = code.length ∧ ∀ index, result[index]? ≠ code[index]? →
        index < psize ∧ RebasedAt code result basePage alreadyRelocated index ∧
          ∃ position, i ≤ position ∧ OperandHighAt code position index := by
  rw [relocateByInstructionFrom]
  split_ifs with scanning
  · obtain ⟨skip, addrOffset, decoded, skipSmall, operand⟩ := decodeAt_spec scanning inside
    simp only [decoded, Except.ok_bind]
    have unchanged : ∀ next, i < next →
        ∃ result, relocateByInstructionFrom code psize basePage alreadyRelocated next = .ok result ∧
          result.length = code.length ∧ ∀ index, result[index]? ≠ code[index]? →
            index < psize ∧ RebasedAt code result basePage alreadyRelocated index ∧
              ∃ position, i ≤ position ∧ OperandHighAt code position index := fun next later => by
      obtain ⟨result, run, length, changes⟩ :=
        relocateByInstructionFrom_spec code psize basePage alreadyRelocated next inside
      refine ⟨result, run, length, fun index changed => ?_⟩
      obtain ⟨below, rebased, position, after, decodedAt⟩ := changes index changed
      exact ⟨below, rebased, position, by omega, decodedAt⟩
    cases addrOffset with
    | none => exact unchanged _ (by omega)
    | some offset =>
        simp only
        split_ifs with fits
        · obtain ⟨patched, patch, patchedLength, patchChanges⟩ :=
            relocateAddress_spec code basePage alreadyRelocated
              (show i + skip + offset < code.length by omega)
          obtain ⟨result, run, length, changes⟩ := relocateByInstructionFrom_spec patched psize
            basePage alreadyRelocated (i + skip + offset + 1) (by omega)
          have keeps : ∀ index, index ≠ i + skip + offset → patched[index]? = code[index]? :=
            fun index other => by_contra fun changed => other (patchChanges index changed).1
          refine ⟨result, by rw [patch]; exact run, length.trans patchedLength,
            fun index changed => ?_⟩
          by_cases later : result[index]? = patched[index]?
          · obtain ⟨rfl, rebased⟩ := patchChanges index (later ▸ changed)
            refine ⟨fits, ?_, i, le_rfl, operand offset rfl⟩
            exact ⟨rebased.1, rebased.2.imp fun _ ⟨found, small, stored⟩ =>
              ⟨found, small, later ▸ stored⟩⟩
          · obtain ⟨below, rebased, position, after, decodedAt⟩ := changes index later
            have apart : index ≠ i + skip + offset := by
              rcases decodedAt with ⟨-, rfl⟩ | ⟨-, -, rfl⟩ <;> omega
            refine ⟨below, rebased.congr (keeps index apart), position, by omega, ?_⟩
            exact decodedAt.congr (keeps _ (by omega)) (keeps _ (by omega))
        · exact unchanged _ (by omega)
  · exact ⟨code, rfl, rfl, fun _ changed => absurd rfl changed⟩
termination_by psize - i

/-- `_relocate_by_instruction` on a module whose code is `psize` bytes long raises nothing, keeps
the code length, and changes only code bytes outside `already_relocated` that lie below
`base_page`, each by adding `base_page` modulo 256. The bytes it changes are two bytes after a
listed one-byte opcode, or four bytes after an `ED` prefix with a listed second byte. -/
theorem relocateByInstruction_spec (module : SPRModule) (basePage : Int)
    (alreadyRelocated : Option (List Nat)) (sized : module.code.length = module.psize) :
    ∃ relocated, module.relocateByInstruction basePage alreadyRelocated = .ok relocated ∧
      relocated = { module with code := relocated.code } ∧
      relocated.code.length = module.psize ∧ ∀ index,
        relocated.code[index]? ≠ module.code[index]? →
          RebasedAt module.code relocated.code basePage (alreadyRelocated.getD []) index ∧
            ∃ position, OperandHighAt module.code position index := by
  obtain ⟨code, run, length, changes⟩ := relocateByInstructionFrom_spec module.code module.psize
    basePage (alreadyRelocated.getD []) 0 sized.ge
  refine ⟨{ module with code }, by simp [relocateByInstruction, run], rfl, length.trans sized,
    fun index changed => ?_⟩
  obtain ⟨-, rebased, position, -, decodedAt⟩ := changes index changed
  exact ⟨rebased, position, decodedAt⟩

/-- `LD BC,(0010H)` and a `NOP`, in a five-byte module relocated to page 1. The scan leaves the
operand's high byte, byte 3, at 0 and rebases byte 4, turning the `NOP` into `LD BC,nn`. -/
theorem relocateByInstruction_ed_prefixed :
    let module : SPRModule :=
      { name := "SAMPLE", file := [], code := [0xED, 0x4B, 0x10, 0x00, 0x00], psize := 5,
        dsize := 0, base := 0 }
    (module.relocateByInstruction 1 none).map SPRModule.code =
      .ok [0xED, 0x4B, 0x10, 0x00, 0x01] := by
  have decoded : decodeAt [0xED, 0x4B, 0x10, 0x00, 0x00] 5 0 = .ok (1, some 3) := by decide
  have patch : relocateAddress [0xED, 0x4B, 0x10, 0x00, 0x00] 1 [] 4 =
      .ok [0xED, 0x4B, 0x10, 0x00, 0x01] := by decide
  simp only [relocateByInstruction, Option.getD_none,
    relocateByInstructionFrom_of_address (by decide) decoded (by decide) patch,
    relocateByInstructionFrom_of_le (show 5 ≤ 0 + 1 + 3 + 1 + 2 by decide)]
  rfl

end SPRModule

end Mpm2Tools.Gensys
