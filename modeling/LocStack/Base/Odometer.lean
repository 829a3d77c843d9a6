/-
# `LocStack.Base.Odometer` — a counter that starts over, and its readers

Several readers share a counter, which starts from 0 again now and then.
Each keeps the value at which it joined the counter since, and what it had
read before that:

    total c  =  base + (c - offset)

`Agree` says that the readers' totals are what they should be.  Each thing
that happens to the counter or to a reader is stated with exactly what it
takes for them to stay so.  The values need to be of an additive group only,
and so may wrap.
-/
import Mathlib.Algebra.Group.Basic

namespace LocStack.Base

open Function

variable {G ι : Type*} [AddCommGroup G]

structure Reader (G : Type*) where
  (offset base : G)

namespace Reader

def total (r : Reader G) (c : G) : G := r.base + (c - r.offset)

/-- The counter starts over at `c`, from where all is kept in `base`. -/
def rebase (r : Reader G) (c : G) : Reader G := ⟨0, r.total c⟩

variable {r : Reader G} {c c' d : G}

theorem total_join (c : G) : (⟨c, 0⟩ : Reader G).total c = 0 := by
  rw [total, sub_self, add_zero]

theorem total_add (r : Reader G) (c d : G) : r.total (c + d) = r.total c + d := by
  rw [total, total, add_sub_right_comm, add_assoc]

theorem total_inj : r.total c = r.total c' ↔ c = c' := by
  rw [total, total, add_right_inj, sub_left_inj]

theorem total_zero_eq (b : G) (c : G) : (⟨0, b⟩ : Reader G).total c = b + c := by
  rw [total, sub_zero]

end Reader

/-- Every reader there is has the total it should. -/
def Agree (readers : ι → Option (Reader G)) (c : G) (totals : ι → G) : Prop :=
  ∀ i r, readers i = some r → r.total c = totals i

namespace Agree

variable {readers : ι → Option (Reader G)} {c : G} {totals : ι → G}

section

variable (h : Agree readers c totals)
include h

theorem run (d : G) : Agree readers (c + d) fun i => totals i + d := by
  intro i r hr
  rw [Reader.total_add, h i r hr]

theorem stand_iff (d : G) :
    (Agree readers c fun i => totals i + d) ↔ (∀ i, readers i = none) ∨ d = 0 := by
  constructor
  · intro hnew
    by_contra hnot
    obtain ⟨hsome, hd⟩ := not_or.mp hnot
    obtain ⟨i, hi⟩ := not_forall.mp hsome
    obtain ⟨r, hr⟩ := Option.ne_none_iff_exists'.mp hi
    have heq := hnew i r hr
    rw [h i r hr] at heq
    exact hd (left_eq_add.mp heq)
  · rintro (hnone | rfl)
    · intro i r hr
      rw [hnone i] at hr
      cases hr
    · intro i r hr
      exact (h i r hr).trans (add_zero _).symm

/-- The counter is set to another value. -/
theorem set_iff (c' : G) : Agree readers c' totals ↔ (∀ i, readers i = none) ∨ c' = c := by
  constructor
  · intro hnew
    by_contra hnot
    obtain ⟨hsome, hc⟩ := not_or.mp hnot
    obtain ⟨i, hi⟩ := not_forall.mp hsome
    obtain ⟨r, hr⟩ := Option.ne_none_iff_exists'.mp hi
    exact hc (Reader.total_inj.mp ((hnew i r hr).trans (h i r hr).symm))
  · rintro (hnone | rfl)
    · intro i r hr
      rw [hnone i] at hr
      cases hr
    · exact h

theorem rebase_iff (a : G) : Agree (fun i => (readers i).map fun r => r.rebase a) 0 totals ↔
      (∀ i, readers i = none) ∨ a = c := by
  rw [← h.set_iff a]
  constructor
  · intro hnew i r hr
    have htotal := hnew i (r.rebase a) (Option.map_eq_some_iff.mpr ⟨r, hr, rfl⟩)
    rwa [Reader.rebase, Reader.total_zero_eq, add_zero] at htotal
  · intro hnew i r' hr'
    obtain ⟨r, hr, rfl⟩ := Option.map_eq_some_iff.mp hr'
    rw [Reader.rebase, Reader.total_zero_eq, add_zero]
    exact hnew i r hr

end

variable [DecidableEq ι]

theorem join (h : Agree readers c totals) (i : ι) :
    Agree (update readers i (some ⟨c, 0⟩)) c (update totals i 0) := by
  intro j r hr
  rcases eq_or_ne j i with rfl | hj
  · rw [update_self] at hr ⊢
    cases hr
    exact Reader.total_join c
  · rw [update_of_ne hj] at hr ⊢
    exact h j r hr

theorem join_zero_iff {i : ι} :
    Agree (update readers i (some ⟨0, 0⟩)) c (update totals i 0) ↔
      c = 0 ∧ ∀ j r, j ≠ i → readers j = some r → r.total c = totals j := by
  constructor
  · intro hnew
    constructor
    · have htotal := hnew i ⟨0, 0⟩ (update_self ..)
      rwa [Reader.total_zero_eq, zero_add, update_self] at htotal
    · intro j r hj hr
      have htotal := hnew j r ((update_of_ne hj ..).trans hr)
      rwa [update_of_ne hj] at htotal
  · rintro ⟨rfl, hothers⟩ j r hr
    rcases eq_or_ne j i with rfl | hj
    · rw [update_self] at hr ⊢
      cases hr
      exact Reader.total_join 0
    · rw [update_of_ne hj] at hr ⊢
      exact hothers j r hj hr

end Agree

end LocStack.Base
