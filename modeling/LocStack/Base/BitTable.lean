/-
# `LocStack.Base.BitTable` — words of flags, and the tables that translate them

A table of bit tests reads a word row by row: where the word has a bit of the
left side, the result gets the bits of the right side.

    apply          what the whole table finds in a word
    IsJoinHom      0 goes to 0 and ||| to |||, as with every table

Such maps compose, and two of them that agree on the single bits are equal
(`IsJoinHom.ext`).  What a table does to every word is therefore seen from the
single bits (`IsJoinHom.eq_and`).
-/
import Mathlib.Data.List.Basic

namespace LocStack.Base

variable {w v u : ℕ}

/-! ## Maps that keep joins -/

structure IsJoinHom (f : BitVec w → BitVec v) : Prop where
  zero : f 0#w = 0#v
  or : ∀ m n, f (m ||| n) = f m ||| f n

namespace IsJoinHom

variable {f g : BitVec w → BitVec v}

theorem comp {h : BitVec v → BitVec u} (hh : IsJoinHom h) (hf : IsJoinHom f) :
    IsJoinHom fun m => h (f m) where
  zero := by rw [hf.zero, hh.zero]
  or m n := by rw [hf.or, hh.or]

theorem const_zero : IsJoinHom fun _ : BitVec w => 0#v where
  zero := rfl
  or _ _ := (BitVec.or_self).symm

theorem and_const (c : BitVec w) : IsJoinHom fun m => m &&& c where
  zero := BitVec.zero_and
  or _ _ := BitVec.and_or_distrib_right

theorem join (hf : IsJoinHom f) (hg : IsJoinHom g) : IsJoinHom fun m => f m ||| g m where
  zero := by rw [hf.zero, hg.zero, BitVec.or_self]
  or m n := by
    rw [hf.or, hg.or]
    ac_rfl

theorem row (a : BitVec w) (b : BitVec v) :
    IsJoinHom fun m => if m &&& a ≠ 0#w then b else 0#v where
  zero := by rw [BitVec.zero_and, if_neg (not_not_intro rfl)]
  or m n := by
    have hor : (m ||| n) &&& a = 0#w ↔ m &&& a = 0#w ∧ n &&& a = 0#w := by
      rw [BitVec.and_or_distrib_right, BitVec.or_eq_zero_iff]
    by_cases hm : m &&& a = 0#w <;> by_cases hn : n &&& a = 0#w <;> simp [hor, hm, hn]

/-- A word is put together of its bits from below; the maps agree on what there
is of it after each. -/
theorem ext (hf : IsJoinHom f) (hg : IsJoinHom g)
    (hbits : ∀ i < w, f (BitVec.twoPow w i) = g (BitVec.twoPow w i)) (m : BitVec w) :
    f m = g m := by
  have hlow : ∀ k ≤ w, f ((m.setWidth k).setWidth w) = g ((m.setWidth k).setWidth w) := by
    intro k
    induction k with
    | zero =>
      intro _
      have hzero : (m.setWidth 0).setWidth w = 0#w := by
        rw [BitVec.of_length_zero (x := m.setWidth 0)]
        exact BitVec.setWidth_zero w 0
      rw [hzero, hf.zero, hg.zero]
    | succ k ih =>
      intro hk
      cases hbit : m.getLsbD k with
      | false =>
        rw [BitVec.setWidth_setWidth_succ_eq_setWidth_setWidth_of_getLsbD_false hbit]
        exact ih (Nat.le_of_succ_le hk)
      | true =>
        rw [BitVec.setWidth_setWidth_succ_eq_setWidth_setWidth_or_twoPow_of_getLsbD_true hbit,
          hf.or, hg.or, ih (Nat.le_of_succ_le hk), hbits k hk]
  have hall := hlow w (Nat.le_refl w)
  simp only [BitVec.setWidth_eq] at hall
  exact hall

/-- A map that keeps some of the single bits and drops the others masks. -/
theorem eq_and {f : BitVec w → BitVec w} (hf : IsJoinHom f) {c : BitVec w}
    (hbits : ∀ i < w, f (BitVec.twoPow w i) = BitVec.twoPow w i &&& c) (m : BitVec w) :
    f m = m &&& c :=
  hf.ext (and_const c) hbits m

end IsJoinHom

/-! ## Tables -/

abbrev BitTable (w v : ℕ) : Type := List (BitVec w × BitVec v)

namespace BitTable

/-- The tests of the table one after the other, from what has been found. -/
def onto : BitTable w v → BitVec w → BitVec v → BitVec v
  | [], _, found => found
  | row :: table, m, found =>
    onto table m (if m &&& row.1 ≠ 0#w then found ||| row.2 else found)

def apply (table : BitTable w v) (m : BitVec w) : BitVec v := table.onto m 0#v

theorem onto_eq (table : BitTable w v) (m : BitVec w) (found : BitVec v) :
    table.onto m found = found ||| table.apply m := by
  induction table generalizing found with
  | nil => exact BitVec.or_zero.symm
  | cons row table ih =>
    show onto table m _ = found ||| onto table m _
    rw [ih, ih (if m &&& row.1 ≠ 0#w then 0#v ||| row.2 else 0#v), ← BitVec.or_assoc]
    split
    · rw [BitVec.zero_or]
    · rw [BitVec.or_zero]

theorem apply_cons (row : BitVec w × BitVec v) (table : BitTable w v) (m : BitVec w) :
    BitTable.apply (row :: table) m =
      (if m &&& row.1 ≠ 0#w then row.2 else 0#v) ||| BitTable.apply table m := by
  show onto table m _ = _
  rw [onto_eq, BitVec.zero_or]

theorem isJoinHom_apply (table : BitTable w v) : IsJoinHom table.apply := by
  induction table with
  | nil => exact IsJoinHom.const_zero
  | cons row table ih =>
    have hcons : BitTable.apply (row :: table) =
        fun m => (if m &&& row.1 ≠ 0#w then row.2 else 0#v) ||| BitTable.apply table m :=
      funext (apply_cons row table)
    rw [hcons]
    exact (IsJoinHom.row row.1 row.2).join ih

theorem apply_and_ne_zero_iff {table : BitTable w v} {m : BitVec w} {b : BitVec v} :
    table.apply m &&& b ≠ 0#v ↔ ∃ row ∈ table, m &&& row.1 ≠ 0#w ∧ row.2 &&& b ≠ 0#v := by
  induction table with
  | nil =>
    refine iff_of_false (not_not_intro ?_) fun ⟨_, hrow, _⟩ => absurd hrow List.not_mem_nil
    exact BitVec.zero_and
  | cons row table ih =>
    rw [apply_cons, BitVec.and_or_distrib_right, ne_eq, BitVec.or_eq_zero_iff, not_and_or,
      List.exists_mem_cons_iff]
    refine or_congr ?_ ih
    by_cases hm : m &&& row.1 = 0#w
    · rw [if_neg (not_not_intro hm)]
      exact iff_of_false (not_not_intro BitVec.zero_and) fun h => h.1 hm
    · rw [if_pos hm]
      exact ⟨fun h => ⟨hm, h⟩, And.right⟩

theorem isJoinHom_onto_zero (table : BitTable w v) {found : BitVec v} (h : found = 0#v) :
    IsJoinHom fun m => table.onto m found := by
  subst h
  exact table.isJoinHom_apply

end BitTable

/-! ## Words without some bits -/

theorem and_not_and_self (m c : BitVec w) : m &&& ~~~c &&& c = 0#w := by
  rw [BitVec.and_assoc, BitVec.not_and_self]
  exact BitVec.and_zero

/-- Nothing is lost where there is nothing to lose. -/
theorem eq_and_not_iff (m c : BitVec w) : m = m &&& ~~~c ↔ m &&& c = 0#w := by
  constructor
  · intro h
    rw [h]
    exact and_not_and_self m c
  · intro h
    calc m = m &&& (~~~c ||| c) := by rw [BitVec.not_or_self, BitVec.and_allOnes]
      _ = m &&& ~~~c ||| m &&& c := BitVec.and_or_distrib_left
      _ = m &&& ~~~c := by rw [h, BitVec.or_zero]

end LocStack.Base
