/-
# `LocStack.Base.Tally` — counters that stand for a list of keys

A map has a counter for each key of a list that it stands for, and no entry
for the others:

    tally l k        the times `k` is in `l`, if it is

A key that comes adds one, a key that goes takes one off and its entry with
the last (`tally_cons`, `tally_of_cons`); the order of the list does not
matter, and all the keys it has are read off the counters (`expand_tally`).
-/
import Mathlib.Data.List.Count

namespace LocStack.Base

open List Function

variable {κ : Type*} [DecidableEq κ] {l l' : List κ} {k : κ}

/-- The counters of a list of keys. -/
def tally (l : List κ) (k : κ) : Option Int :=
  if l.count k = 0 then none else some (l.count k)

@[simp] theorem tally_nil : tally ([] : List κ) = fun _ => none := rfl

theorem getD_tally (l : List κ) (k : κ) : (tally l k).getD 0 = l.count k := by
  unfold tally
  split
  · next h => rw [h]; rfl
  · rfl

theorem tally_perm (h : l.Perm l') : tally l = tally l' := by
  funext k
  unfold tally
  rw [h.count_eq k]

/-- A key comes. -/
theorem tally_cons (k : κ) (l : List κ) :
    tally (k :: l) = update (tally l) k (some ((tally l k).getD 0 + 1)) := by
  funext k'
  rw [getD_tally]
  rcases eq_or_ne k' k with rfl | hne
  · rw [update_self]
    unfold tally
    rw [count_cons_self, if_neg (Nat.succ_ne_zero _)]
    rfl
  · rw [update_of_ne hne]
    unfold tally
    rw [count_cons_of_ne hne.symm]

theorem tally_cons_self (k : κ) (l : List κ) :
    tally (k :: l) k = some ((l.count k : Int) + 1) := by
  rw [tally_cons, update_self, getD_tally]

/-- A key goes. -/
theorem tally_of_cons (k : κ) (l : List κ) : tally l = update (tally (k :: l)) k
      (if (l.count k : Int) > 0 then some (l.count k : Int) else none) := by
  funext k'
  rcases eq_or_ne k' k with rfl | hne
  · rw [update_self]
    unfold tally
    split
    · next h => rw [if_neg (by omega)]
    · next h => rw [if_pos (by omega)]
  · rw [update_of_ne hne, tally_cons, update_of_ne hne]

variable {all : List κ}

theorem count_flatMap_replicate (hnodup : all.Nodup) (n : κ → Nat) (k : κ) :
    (all.flatMap fun k => List.replicate (n k) k).count k = if k ∈ all then n k else 0 := by
  induction all with
  | nil => rfl
  | cons k' all ih =>
    obtain ⟨hk', hnodup⟩ := nodup_cons.mp hnodup
    rw [flatMap_cons, count_append, ih hnodup, count_replicate]
    rcases eq_or_ne k' k with rfl | hne
    · simp [hk']
    · simp [hne, hne.symm]

/-- The keys, read off the counters. -/
theorem expand_tally (hnodup : all.Nodup) (hall : ∀ k, k ∈ all) (l : List κ) :
    (all.flatMap fun k => List.replicate ((tally l k).getD 0).toNat k).Perm l := by
  rw [perm_iff_count]
  intro k
  rw [count_flatMap_replicate hnodup, if_pos (hall k), getD_tally, Int.toNat_natCast]

end LocStack.Base
