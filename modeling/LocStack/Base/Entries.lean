/-
# `LocStack.Base.Entries` — a vector with one entry for each key

A vector is searched from its front for the entry of a key.  A new entry goes
in the place of the one there is, or behind the last; the entries that are not
wanted any more are swapped to the back, and cut off there:

    entryOf key k l     the entry of `k`
    put key a l         with `a` for the entry of its key
    sweep keep l        the entries that are to be kept, in some order

The order of the vector means nothing as long as no key has two entries, which
`put` and `sweep` both see to: `entryOf_put` and `entryOf_sweep` say what is
found afterwards.
-/
import Mathlib.Data.List.Nodup
import Mathlib.Data.List.Perm.Basic

namespace LocStack.Base

open List

variable {α κ : Type*} [DecidableEq κ] {key : α → κ} {k : κ} {l l' : List α} {a b : α}

def entryOf (key : α → κ) (k : κ) (l : List α) : Option α := l.find? (key · = k)

def put (key : α → κ) (a : α) : List α → List α
  | [] => [a]
  | b :: l => if key b = key a then a :: l else b :: put key a l

@[simp] theorem entryOf_nil : entryOf key k [] = none := rfl

theorem entryOf_cons_self (h : key a = k) : entryOf key k (a :: l) = some a :=
  List.find?_cons_of_pos (decide_eq_true h)

theorem entryOf_cons_of_ne (h : key a ≠ k) : entryOf key k (a :: l) = entryOf key k l :=
  List.find?_cons_of_neg (by simpa using h)

theorem key_of_entryOf (h : entryOf key k l = some a) : key a = k :=
  of_decide_eq_true (List.find?_some (p := fun a => decide (key a = k)) h)

theorem mem_of_entryOf (h : entryOf key k l = some a) : a ∈ l := mem_of_find?_eq_some h

theorem entryOf_eq_none : entryOf key k l = none ↔ k ∉ l.map key := by
  simp only [entryOf, List.find?_eq_none, decide_eq_true_iff, mem_map, not_exists, not_and]

theorem mem_keys_iff : k ∈ l.map key ↔ ∃ a, entryOf key k l = some a := by
  rw [← Option.isSome_iff_exists, ← not_iff_not, ← entryOf_eq_none, Option.not_isSome_iff_eq_none]

/-! ## A new entry -/

theorem entryOf_put_self (a : α) (l : List α) : entryOf key (key a) (put key a l) = some a := by
  induction l with
  | nil => exact entryOf_cons_self rfl
  | cons b l ih =>
    by_cases h : key b = key a
    · rw [put, if_pos h]
      exact entryOf_cons_self rfl
    · rw [put, if_neg h, entryOf_cons_of_ne h]
      exact ih

theorem entryOf_put_of_ne (h : key a ≠ k) (l : List α) :
    entryOf key k (put key a l) = entryOf key k l := by
  induction l with
  | nil => exact entryOf_cons_of_ne h
  | cons b l ih =>
    by_cases hb : key b = key a
    · have hbk : key b ≠ k := fun hk => h (hb.symm.trans hk)
      rw [put, if_pos hb, entryOf_cons_of_ne h, entryOf_cons_of_ne hbk]
    · rw [put, if_neg hb]
      by_cases hbk : key b = k
      · rw [entryOf_cons_self hbk, entryOf_cons_self hbk]
      · rw [entryOf_cons_of_ne hbk, entryOf_cons_of_ne hbk]
        exact ih

theorem entryOf_put (k : κ) (a : α) (l : List α) :
    entryOf key k (put key a l) = if key a = k then some a else entryOf key k l := by
  by_cases h : key a = k
  · subst h
    rw [if_pos rfl]
    exact entryOf_put_self a l
  · rw [if_neg h]
    exact entryOf_put_of_ne h l

theorem nodup_put (a : α) (h : (l.map key).Nodup) : ((put key a l).map key).Nodup := by
  induction l with
  | nil => exact nodup_singleton _
  | cons b l ih =>
    rw [map_cons, nodup_cons] at h
    by_cases hb : key b = key a
    · rw [put, if_pos hb, map_cons, nodup_cons, ← hb]
      exact h
    · rw [put, if_neg hb, map_cons, nodup_cons]
      refine ⟨?_, ih h.2⟩
      rw [← entryOf_eq_none, entryOf_put_of_ne fun hk => hb hk.symm, entryOf_eq_none]
      exact h.1

/-! ## Where no key has two -/

section

variable (hnd : (l.map key).Nodup)
include hnd

theorem entryOf_of_mem (h : a ∈ l) : entryOf key (key a) l = some a := by
  obtain ⟨b, hb⟩ := mem_keys_iff.mp (mem_map_of_mem (f := key) h)
  rw [hb, inj_on_of_nodup_map hnd (mem_of_entryOf hb) h (key_of_entryOf hb)]

theorem entryOf_eq_some_iff : entryOf key k l = some a ↔ a ∈ l ∧ key a = k := by
  constructor
  · intro h
    exact ⟨mem_of_entryOf h, key_of_entryOf h⟩
  · rintro ⟨hmem, rfl⟩
    exact entryOf_of_mem hnd hmem

/-- Which of two orders makes no difference. -/
theorem entryOf_perm (h : l.Perm l') (k : κ) : entryOf key k l = entryOf key k l' := by
  refine Option.ext fun a => ?_
  rw [entryOf_eq_some_iff hnd, entryOf_eq_some_iff ((h.map key).nodup_iff.mp hnd), h.mem_iff]

theorem entryOf_filter (keep : α → Bool) (k : κ) :
    entryOf key k (l.filter keep) = (entryOf key k l).filter keep := by
  have hnd' : ((l.filter keep).map key).Nodup := (filter_sublist.map key).nodup hnd
  refine Option.ext fun a => ?_
  rw [entryOf_eq_some_iff hnd', Option.filter_eq_some_iff, entryOf_eq_some_iff hnd, mem_filter]
  exact and_right_comm

end

/-! ## Swapping to the back -/

/-- What lies between two iterators, `n` apart: an entry that is not wanted
changes places with the last one, which is then left out. -/
def sweepFrom (keep : α → Bool) : Nat → List α → List α
  | n + 1, a :: l =>
    if keep a then a :: sweepFrom keep n l
    else
      match l.getLast? with
      | none => []
      | some b => sweepFrom keep n (b :: l.dropLast)
  | _, _ => []

def sweep (keep : α → Bool) (l : List α) : List α := sweepFrom keep l.length l

theorem perm_sweepFrom (keep : α → Bool) {n : Nat} (h : l.length = n) :
    (sweepFrom keep n l).Perm (l.filter keep) := by
  induction n generalizing l with
  | zero =>
    rw [length_eq_zero_iff.mp h]
    exact .nil
  | succ n ih =>
    cases l with
    | nil => cases h
    | cons a l =>
      have hn : l.length = n := Nat.succ.inj h
      rw [sweepFrom]
      cases hk : keep a with
      | true =>
        rw [if_pos rfl, filter_cons_of_pos hk]
        exact (ih hn).cons a
      | false =>
        rw [if_neg Bool.false_ne_true, filter_cons_of_neg (by rw [hk]; exact nofun)]
        cases hlast : l.getLast? with
        | none =>
          rw [List.getLast?_eq_none_iff.mp hlast]
          exact .nil
        | some b =>
          obtain ⟨front, rfl⟩ := List.getLast?_eq_some_iff.mp hlast
          rw [dropLast_concat]
          have hperm : (b :: front).Perm (front ++ [b]) :=
            (perm_append_singleton b front).symm
          exact (ih (hperm.length_eq.trans hn)).trans (hperm.filter keep)

/-- What is left is what is kept. -/
theorem perm_sweep (keep : α → Bool) (l : List α) : (sweep keep l).Perm (l.filter keep) :=
  perm_sweepFrom keep rfl

omit [DecidableEq κ] in
theorem nodup_sweep (keep : α → Bool) (hnd : (l.map key).Nodup) :
    ((sweep keep l).map key).Nodup :=
  ((perm_sweep keep l).map key).nodup_iff.mpr ((filter_sublist.map key).nodup hnd)

theorem entryOf_sweep (hnd : (l.map key).Nodup) (keep : α → Bool) (k : κ) :
    entryOf key k (sweep keep l) = (entryOf key k l).filter keep := by
  rw [entryOf_perm (nodup_sweep keep hnd) (perm_sweep keep l), entryOf_filter hnd]

end LocStack.Base
