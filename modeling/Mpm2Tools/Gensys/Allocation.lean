import Mathlib

/-! # Downward allocation

The layout `gensys.py` plans, stated without the generator: regions of given page counts laid
out from a top page downward, each directly below the previous one. The layout lemmas of the
generator say that its bases are `allocateDown` of the spec's page counts; everything about
disjointness and bounds is proved once here. -/

namespace Mpm2Tools.Gensys

/-- The base pages of regions of the given page counts laid out downward from page `top`. -/
def allocateDown : Int → List Nat → List Int
  | _, [] => []
  | top, pages :: rest => (top - pages) :: allocateDown (top - pages) rest

/-- The region list as (base page, page count) pairs. -/
def regionsDown (top : Int) (sizes : List Nat) : List (Int × Nat) :=
  (allocateDown top sizes).zip sizes

@[simp] theorem allocateDown_nil (top : Int) : allocateDown top [] = [] := rfl

@[simp] theorem allocateDown_cons (top : Int) (pages : Nat) (rest : List Nat) :
    allocateDown top (pages :: rest) = (top - pages) :: allocateDown (top - pages) rest := rfl

@[simp] theorem length_allocateDown (top : Int) (sizes : List Nat) :
    (allocateDown top sizes).length = sizes.length := by
  induction sizes generalizing top with
  | nil => rfl
  | cons pages rest induction => simp [induction]

theorem allocateDown_append (top : Int) (first second : List Nat) :
    allocateDown top (first ++ second) =
      allocateDown top first ++ allocateDown (top - first.sum) second := by
  induction first generalizing top with
  | nil => simp
  | cons pages rest induction =>
      have bottom : top - pages - (rest.sum : Int) = top - ((pages :: rest).sum : Nat) := by
        simp only [List.sum_cons, Int.natCast_add]; omega
      simp only [List.cons_append, allocateDown_cons, induction, bottom]

/-- Regions of at least one page each start strictly below the top. -/
theorem allocateDown_lt {top : Int} {sizes : List Nat} (nonempty : ∀ pages ∈ sizes, 0 < pages) :
    ∀ base ∈ allocateDown top sizes, base < top := by
  induction sizes generalizing top with
  | nil => nofun
  | cons pages rest induction =>
      simp only [List.mem_cons, forall_eq_or_imp] at nonempty
      simp only [allocateDown_cons, List.mem_cons, forall_eq_or_imp]
      exact ⟨by omega, fun base member => by have := induction nonempty.2 base member; omega⟩

/-- Regions of at least one page each have strictly decreasing bases. -/
theorem pairwise_allocateDown {top : Int} {sizes : List Nat}
    (nonempty : ∀ pages ∈ sizes, 0 < pages) : (allocateDown top sizes).Pairwise (· > ·) := by
  induction sizes generalizing top with
  | nil => exact List.Pairwise.nil
  | cons pages rest induction =>
      simp only [List.mem_cons, forall_eq_or_imp] at nonempty
      exact List.Pairwise.cons (allocateDown_lt nonempty.2) (induction nonempty.2)

/-- Every region lies between the bottom `top - sum` and `top`. -/
theorem mem_regionsDown_bounds {top : Int} {sizes : List Nat} {region : Int × Nat}
    (member : region ∈ regionsDown top sizes) :
    top - sizes.sum ≤ region.1 ∧ region.1 + region.2 ≤ top := by
  induction sizes generalizing top with
  | nil => simp [regionsDown] at member
  | cons pages rest induction =>
      simp only [regionsDown, allocateDown_cons, List.zip_cons_cons, List.mem_cons] at member
      rcases member with rfl | member
      · simp only [List.sum_cons, Int.natCast_add]
        have := Int.ofNat_nonneg rest.sum
        omega
      · have := induction member
        simp only [List.sum_cons, Int.natCast_add]
        omega

/-- A region listed after another lies entirely below it. -/
theorem regionsDown_below {top : Int} {sizes : List Nat} {i j : Nat} (before : i < j)
    {upper lower : Int × Nat} (upperAt : (regionsDown top sizes)[i]? = some upper)
    (lowerAt : (regionsDown top sizes)[j]? = some lower) :
    lower.1 + lower.2 ≤ upper.1 := by
  induction sizes generalizing top i j with
  | nil => simp [regionsDown] at upperAt
  | cons pages rest induction =>
      cases j with
      | zero => omega
      | succ j =>
          simp only [regionsDown, allocateDown_cons, List.zip_cons_cons,
            List.getElem?_cons_succ] at upperAt lowerAt
          have lowerMember : lower ∈ regionsDown (top - pages) rest :=
            List.getElem?_mem lowerAt
          cases i with
          | zero =>
              simp only [List.getElem?_cons_zero, Option.some.injEq] at upperAt
              subst upper
              exact (mem_regionsDown_bounds lowerMember).2
          | succ i =>
              simp only [List.getElem?_cons_succ] at upperAt
              exact induction (by omega) upperAt lowerAt

end Mpm2Tools.Gensys
