import Mpm2Tools.Gensys.Layout

/-! # The RSP list and the BRS list

`generate` chains the resident system processes (RSPs) through the first word of each and their
bank-0 companions (BRS) through the second word of each: the first module loaded links to 0 and
every later one to the one loaded before it. The control block holds the last one's address, at
offset 254 for the RSPs and at offset 250 for the companions. MP/M walks these lists from the
head; `followLinks` is that walk. Modules are loaded downward, so on a successful run the walk
from a head visits every module of its list once, in ascending address order, and ends at the
link 0. -/

namespace Mpm2Tools.Gensys

open Mpm2Tools SystemGenerator

/-! ## Walking a linked list -/

/-- Follows a list through `nodes`, given as (address, link) pairs: from `address` the node at
that address, then the node its link names, up to the link 0. `none` when an address holds no
node or the walk needs more than `fuel` steps. -/
def followLinks (nodes : List (Int × Int)) : Nat → Int → Option (List Int)
  | 0, address => if address = 0 then some [] else none
  | fuel + 1, address =>
      if address = 0 then some []
      else (nodes.find? fun node => node.1 == address).bind fun node =>
        (followLinks nodes fuel node.2).map (address :: ·)

/-- The (address, link) pairs of modules at `bases`, each linked to the one before it and the
first to `prev`: what both loops of `generate` build. -/
def linkedBack : Int → List Int → List (Int × Int)
  | _, [] => []
  | prev, base :: rest => (base, prev) :: linkedBack base rest

theorem zip_dropLast_eq_linkedBack (prev : Int) (bases : List Int) :
    bases.zip (prev :: bases).dropLast = linkedBack prev bases := by
  induction bases generalizing prev with
  | nil => rfl
  | cons base rest induction =>
      cases rest with
      | nil => rfl
      | cons next rest => rw [List.dropLast_cons₂, List.zip_cons_cons, induction]; rfl

theorem linkedBack_append_singleton (prev : Int) (bases : List Int) (last : Int) :
    linkedBack prev (bases ++ [last]) =
      linkedBack prev bases ++ [(last, bases.getLast?.getD prev)] := by
  induction bases generalizing prev with
  | nil => rfl
  | cons base rest induction => simp [linkedBack, induction, List.getLast?_cons]

/-- With distinct addresses, the search for an address finds the one node placed there. -/
theorem find?_eq_of_nodup {nodes : List (Int × Int)} (distinct : (nodes.map (·.1)).Nodup)
    {node : Int × Int} (member : node ∈ nodes) {address : Int} (at_ : node.1 = address) :
    nodes.find? (fun other => other.1 == address) = some node := by
  induction nodes with
  | nil => cases member
  | cons head rest induction =>
      rw [List.map_cons, List.nodup_cons] at distinct
      rcases List.mem_cons.mp member with rfl | later
      · exact List.find?_cons_of_pos _ (by simp [at_])
      · have different : head.1 ≠ address := fun same =>
          distinct.1 (same ▸ at_ ▸ List.mem_map_of_mem _ later)
        rw [List.find?_cons_of_neg _ (by simpa using different)]
        exact induction distinct.2 later

/-- Walking a list built by `linkedBack 0` from its last node visits the nodes in reverse order
and ends at the link 0. -/
theorem followLinks_linkedBack {nodes : List (Int × Int)} (distinct : (nodes.map (·.1)).Nodup)
    {bases : List Int} (nonzero : ∀ base ∈ bases, base ≠ 0)
    (linked : ∀ node ∈ linkedBack 0 bases, node ∈ nodes) :
    followLinks nodes bases.length (bases.getLast?.getD 0) = some bases.reverse := by
  induction bases using List.reverseRecOn with
  | nil => rfl
  | append_singleton init last induction =>
      simp only [List.mem_append, List.mem_singleton] at nonzero
      rw [linkedBack_append_singleton] at linked
      have lastNode : (last, init.getLast?.getD 0) ∈ nodes := linked _ (by simp)
      have rest := induction (fun base member => nonzero base (.inl member))
        fun node member => linked node (List.mem_append_left _ member)
      simp only [List.length_append, List.length_singleton, List.getLast?_concat, Option.getD_some,
        followLinks, nonzero last (.inr rfl), if_false, find?_eq_of_nodup distinct lastNode rfl,
        Option.some_bind, rest, Option.map_some', List.reverse_append, List.reverse_singleton,
        List.singleton_append]

/-! ## The lists of a run -/

namespace Run

variable {config : SystemConfig} {files : SystemFiles} {s : SystemGenerator}

theorem rspNodes_eq (run : Run config files s) :
    s.rsps.map (fun rsp => (rsp.rsp.base, (u16At rsp.rsp.code 0 : Int))) =
      linkedBack 0 (s.rsps.map (·.rsp.base)) := by
  rw [← zip_dropLast_eq_linkedBack, ← run.rsps_link, List.zip_map']

theorem brsNodes_eq (run : Run config files s) :
    (brsModules s).map (fun brs => (brs.base, (u16At brs.code 2 : Int))) =
      linkedBack 0 ((brsModules s).map (·.base)) := by
  rw [← zip_dropLast_eq_linkedBack, ← run.brss_link, List.zip_map']

theorem rsp_pages_pos (run : Run config files s) {rsp : RSPModule} (member : rsp ∈ s.rsps) :
    0 < rsp.rsp.pages := by
  have := (run.rsps_final rsp member).psize_ge
  unfold SPRModule.pages
  omega

theorem brs_pages_pos (run : Run config files s) {brs : SPRModule} (member : brs ∈ brsModules s) :
    4 ≤ brs.psize ∧ 0 < brs.pages := by
  obtain ⟨rsp, rspMember, present⟩ := List.mem_filterMap.mp member
  have := ((run.rsps_final rsp rspMember).companion brs present).2.1
  unfold SPRModule.pages
  omega

/-- The RSPs are loaded at strictly decreasing addresses. -/
theorem rspBases_pairwise (run : Run config files s) : (s.rsps.map (·.rsp.base)).Pairwise (· > ·) := by
  rw [run.rsps_base, List.pairwise_map]
  refine (pairwise_allocateDown fun pages member => ?_).imp fun greater => by omega
  obtain ⟨rsp, rspMember, rfl⟩ := List.mem_map.mp member
  exact run.rsp_pages_pos rspMember

/-- The companions are loaded at strictly decreasing addresses. -/
theorem brsBases_pairwise (run : Run config files s) :
    ((brsModules s).map (·.base)).Pairwise (· > ·) := by
  rw [run.brss_base, List.pairwise_map]
  refine (pairwise_allocateDown fun pages member => ?_).imp fun greater => by omega
  obtain ⟨brs, brsMember, rfl⟩ := List.mem_map.mp member
  exact (run.brs_pages_pos brsMember).2

theorem rsp_base_pos (run : Run config files s) {rsp : RSPModule} (member : rsp ∈ s.rsps) :
    0 < rsp.rsp.base := by
  have region := run.region_bounds (List.mem_append_left _ <| List.mem_append_left _ <|
    List.mem_append_left _ <| List.mem_append_left _ <| List.mem_append_left _ <|
    List.mem_append_right _ <| List.mem_map_of_mem (fun rsp => moduleRegion rsp.rsp) member)
  simp only [moduleRegion] at region
  omega

theorem brs_base_pos (run : Run config files s) {brs : SPRModule} (member : brs ∈ brsModules s) :
    0 < brs.base := by
  have region := run.region_bounds (List.mem_append_left _ <| List.mem_append_left _ <|
    List.mem_append_right _ <| List.mem_map_of_mem moduleRegion member)
  simp only [moduleRegion] at region
  omega

/-- Every companion region lies below every RSP: the RSPs are placed above BNKXIOS, the
companions below BNKXDOS and TMP. -/
theorem brs_below_rsp (run : Run config files s) {rsp : RSPModule} {brs : SPRModule}
    (rspMember : rsp ∈ s.rsps) (brsMember : brs ∈ brsModules s) :
    brs.base + brs.pages * 256 ≤ rsp.rsp.base := by
  have upper := run.stacked_rsps.bounds
    (List.mem_map_of_mem (fun rsp => moduleRegion rsp.rsp) rspMember)
  have lower := (stacked_modules run.brss_base).bounds (List.mem_map_of_mem moduleRegion brsMember)
  obtain ⟨rspPage, -, rspPageEq⟩ :=
    List.mem_map.mp (run.rsps_base ▸ List.mem_map_of_mem (fun rsp : RSPModule => rsp.rsp.base)
      rspMember)
  obtain ⟨brsPage, -, brsPageEq⟩ :=
    List.mem_map.mp (run.brss_base ▸ List.mem_map_of_mem SPRModule.base brsMember)
  have := run.bnkxios_base
  have := run.bnkbdos_base
  have := run.bnkxdos_base
  simp only [moduleRegion] at upper lower rspPageEq brsPageEq
  omega

theorem map_fst_linkedBack (prev : Int) (bases : List Int) :
    (linkedBack prev bases).map (·.1) = bases := by
  induction bases generalizing prev with
  | nil => rfl
  | cons base rest induction => simp [linkedBack, induction]

/-- The walk from the last address of a run's list. -/
theorem followLinks_of_pairwise {bases : List Int} (decreasing : bases.Pairwise (· > ·))
    (positive : ∀ base ∈ bases, 0 < base) :
    followLinks (linkedBack 0 bases) bases.length (bases.getLast?.getD 0) = some bases.reverse :=
  followLinks_linkedBack (by rw [map_fst_linkedBack]; exact decreasing.imp ne_of_gt)
    (fun base member => (positive base member).ne') fun _ member => member

end Run

/-! ## The lists contract -/

/-- On a normal return of `generate`, `s.rsps` are the RSPs `load_rsps` loaded, one for each and
in their order (the same name, RSP file and companion file). With `R1..Rn` these RSPs and
`B1..Bm` their companions, both in list order: `R1` links to 0 and every later RSP to the one
before it, the control block's word at offset 254 (when there are RSPs) holds `Rn`'s address,
and walking from there visits every RSP once, in ascending address order, ending at the link 0.
The same holds of the companions through their second word and the control block's word at
offset 250. Each companion points back to its RSP; an RSP with a companion holds the
companion's relocated second word (its initial stack pointer) at bytes 6-7, and one without
keeps its relocated bytes 6-7. Every companion lies below every RSP. -/
theorem generate_process_lists {config : SystemConfig} {files : SystemFiles} {s : SystemGenerator}
    (generated : generate config files = .ok s) :
    let rspBases := s.rsps.map (·.rsp.base)
    let brsBases := (brsModules s).map (·.base)
    (∃ loaded, loadRsps files.rsps = .ok loaded ∧ s.rsps.map rspFiles = loaded.map rspFiles) ∧
    s.rsps.map (fun rsp => (u16At rsp.rsp.code 0 : Int)) = (0 :: rspBases).dropLast ∧
      (s.rsps ≠ [] → (u16At s.output 254 : Int) = rspBases.getLast?.getD 0 ∧
        followLinks (s.rsps.map fun rsp => (rsp.rsp.base, (u16At rsp.rsp.code 0 : Int)))
          s.rsps.length (u16At s.output 254) = some rspBases.reverse) ∧
      rspBases.reverse.Pairwise (· < ·) ∧
      (brsModules s).map (fun brs => (u16At brs.code 2 : Int)) = (0 :: brsBases).dropLast ∧
      (brsModules s ≠ [] → (u16At s.output 250 : Int) = brsBases.getLast?.getD 0 ∧
        followLinks ((brsModules s).map fun brs => (brs.base, (u16At brs.code 2 : Int)))
          (brsModules s).length (u16At s.output 250) = some brsBases.reverse) ∧
      brsBases.reverse.Pairwise (· < ·) ∧
      (∀ rsp ∈ s.rsps, ∀ brs ∈ rsp.brs, (u16At brs.code 0 : Int) = rsp.rsp.base ∧
        u16At rsp.rsp.code 6 = u16At brs.relocatedCode 2) ∧
      (∀ rsp ∈ s.rsps, rsp.brs = none →
        rsp.rsp.code[6]? = rsp.rsp.relocatedCode[6]? ∧
          rsp.rsp.code[7]? = rsp.rsp.relocatedCode[7]?) ∧
      ∀ rsp ∈ s.rsps, ∀ brs ∈ brsModules s, brs.base < rsp.rsp.base := by
  have run := generate_run generated
  refine ⟨run.rsps_loaded, run.rsps_link, fun nonempty => ?_,
    List.pairwise_reverse.mpr run.rspBases_pairwise,
    run.brss_link, fun present => ?_, List.pairwise_reverse.mpr run.brsBases_pairwise,
    fun rsp member brs present => ?_, fun rsp member absent => ?_,
    fun rsp rspMember brs brsMember => ?_⟩
  · obtain ⟨room, head⟩ := run.rspl_stored nonempty
    have read : (u16At s.output 254 : Int) = (s.rsps.map (·.rsp.base)).getLast?.getD 0 := by
      rw [run.output_eq, u16At_append _ _ room, head, run.rspLink_eq]
    have walk := Run.followLinks_of_pairwise run.rspBases_pairwise fun base member => by
      obtain ⟨rsp, rspMember, rfl⟩ := List.mem_map.mp member
      exact run.rsp_base_pos rspMember
    rw [List.length_map, ← read, ← run.rspNodes_eq] at walk
    exact ⟨read, walk⟩
  · obtain ⟨room, head⟩ := run.brspl_stored present
    have read : (u16At s.output 250 : Int) = ((brsModules s).map (·.base)).getLast?.getD 0 := by
      rw [run.output_eq, u16At_append _ _ room, head, run.brspl_eq]
    have walk := Run.followLinks_of_pairwise run.brsBases_pairwise fun base member => by
      obtain ⟨brs, brsMember, rfl⟩ := List.mem_map.mp member
      exact run.brs_base_pos brsMember
    rw [List.length_map, ← read, ← run.brsNodes_eq] at walk
    exact ⟨read, walk⟩
  · obtain ⟨-, -, -, back, stack⟩ := (run.rsps_final rsp member).companion brs present
    exact ⟨back, stack⟩
  · have same := (run.rsps_final rsp member).code
    simp only [rspPatched, absent] at same
    exact ⟨same.2 6 (by decide), same.2 7 (by decide)⟩
  · have below := run.brs_below_rsp rspMember brsMember
    have := (run.brs_pages_pos brsMember).2
    omega

theorem generate_process_lists_sample :
    ∃ s, generate sampleConfig sampleFiles = .ok s ∧
      let rspBases := s.rsps.map (·.rsp.base)
      let brsBases := (brsModules s).map (·.base)
      (∃ loaded, loadRsps sampleFiles.rsps = .ok loaded ∧
        s.rsps.map rspFiles = loaded.map rspFiles) ∧
      s.rsps.map (fun rsp => (u16At rsp.rsp.code 0 : Int)) = (0 :: rspBases).dropLast ∧
        (s.rsps ≠ [] → (u16At s.output 254 : Int) = rspBases.getLast?.getD 0 ∧
          followLinks (s.rsps.map fun rsp => (rsp.rsp.base, (u16At rsp.rsp.code 0 : Int)))
            s.rsps.length (u16At s.output 254) = some rspBases.reverse) ∧
        rspBases.reverse.Pairwise (· < ·) ∧
        (brsModules s).map (fun brs => (u16At brs.code 2 : Int)) = (0 :: brsBases).dropLast ∧
        (brsModules s ≠ [] → (u16At s.output 250 : Int) = brsBases.getLast?.getD 0 ∧
          followLinks ((brsModules s).map fun brs => (brs.base, (u16At brs.code 2 : Int)))
            (brsModules s).length (u16At s.output 250) = some brsBases.reverse) ∧
        brsBases.reverse.Pairwise (· < ·) ∧
        (∀ rsp ∈ s.rsps, ∀ brs ∈ rsp.brs, (u16At brs.code 0 : Int) = rsp.rsp.base ∧
          u16At rsp.rsp.code 6 = u16At brs.relocatedCode 2) ∧
        (∀ rsp ∈ s.rsps, rsp.brs = none →
          rsp.rsp.code[6]? = rsp.rsp.relocatedCode[6]? ∧
            rsp.rsp.code[7]? = rsp.rsp.relocatedCode[7]?) ∧
        ∀ rsp ∈ s.rsps, ∀ brs ∈ brsModules s, brs.base < rsp.rsp.base :=
  let ⟨s, generated⟩ := sample_generate_ok
  ⟨s, generated, generate_process_lists generated⟩

end Mpm2Tools.Gensys
