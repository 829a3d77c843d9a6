/-
# `LocStack.Base.Chunks` — a list in pieces of one length, and two counts of it

A list that is printed so many items to a line is cut into chunks,

    chunk n xs j    the items from n * j on, n of them if there are as many

and the lines have the list again if there are enough of them
(`flatMap_chunk`).  Lists that bear names are found again in the list that
they are put together to (`filter_flatMap`).  Where the number of lines was
counted beforehand, by one predicate, and the items are picked by another, the
two agree on a list exactly if they agree on its members (`countP_eq_countP_iff`).
-/
import Mathlib.Data.List.Basic

namespace LocStack.Base

open List

variable {α : Type*}

/-- The `j`th piece of `xs`. -/
def chunk (n : Nat) (xs : List α) (j : Nat) : List α := (xs.drop (n * j)).take n

@[simp] theorem length_chunk (n : Nat) (xs : List α) (j : Nat) :
    (chunk n xs j).length = min n (xs.length - n * j) := by
  simp [chunk]

/-- The first piece, and those that follow it. -/
theorem chunk_succ (n : Nat) (xs : List α) (j : Nat) :
    chunk n xs (j + 1) = chunk n (xs.drop n) j := by
  rw [chunk, chunk, drop_drop, Nat.mul_succ, Nat.add_comm]

/-- So many pieces have so much of the list. -/
theorem flatMap_chunk (n : Nat) (xs : List α) (count : Nat) :
    (List.range count).flatMap (chunk n xs) = xs.take (n * count) := by
  induction count generalizing xs with
  | zero => simp
  | succ count ih =>
    rw [range_succ_eq_map, flatMap_cons, flatMap_map]
    simp only [chunk_succ]
    rw [ih (xs.drop n), Nat.mul_succ, Nat.add_comm, take_add]
    rfl

variable {xs : List α}

theorem filter_flatMap {β κ : Type*} [DecidableEq κ] {name : α → κ} {nameOf : β → κ}
    {f : α → List β} (hname : ∀ x ∈ xs, ∀ y ∈ f x, nameOf y = name x) (hnodup : (xs.map name).Nodup)
    {x : α} (hx : x ∈ xs) : (xs.flatMap f).filter (fun y => nameOf y = name x) = f x := by
  induction xs with
  | nil => exact absurd hx not_mem_nil
  | cons z zs ih =>
    have hzs : ∀ x ∈ zs, ∀ y ∈ f x, nameOf y = name x := fun x hx =>
      hname x (mem_cons_of_mem _ hx)
    obtain ⟨hz, hnodup⟩ := nodup_cons.mp hnodup
    rw [flatMap_cons, filter_append]
    rcases mem_cons.mp hx with rfl | hx
    · have hself : (f x).filter (fun y => nameOf y = name x) = f x :=
        filter_eq_self.mpr fun y hy => decide_eq_true (hname x mem_cons_self y hy)
      have hrest : (zs.flatMap f).filter (fun y => nameOf y = name x) = [] := by
        refine filter_eq_nil_iff.mpr fun y hy heq => ?_
        obtain ⟨z, hz', hyz⟩ := mem_flatMap.mp hy
        have hsame : name z = name x :=
          (hzs z hz' y hyz).symm.trans (of_decide_eq_true heq)
        exact hz (hsame ▸ mem_map_of_mem hz')
      rw [hself, hrest, append_nil]
    · have hhead : (f z).filter (fun y => nameOf y = name x) = [] := by
        refine filter_eq_nil_iff.mpr fun y hy heq => ?_
        have hsame : name x = name z :=
          (of_decide_eq_true heq).symm.trans (hname z mem_cons_self y hy)
        exact hz (hsame ▸ mem_map_of_mem hx)
      rw [hhead, nil_append]
      exact ih hzs hnodup hx

theorem countP_eq_countP_iff {p q : α → Bool} (hpq : ∀ x ∈ xs, p x = true → q x = true) :
    xs.countP p = xs.countP q ↔ ∀ x ∈ xs, q x = true → p x = true := by
  constructor
  · intro hcount x hx hq
    induction xs with
    | nil => exact absurd hx not_mem_nil
    | cons y ys ih =>
      have hys : ∀ x ∈ ys, p x = true → q x = true := fun x hx =>
        hpq x (mem_cons_of_mem _ hx)
      have hle : ys.countP p ≤ ys.countP q := countP_mono_left hys
      have hhead : p y = true → q y = true := hpq y mem_cons_self
      simp only [countP_cons] at hcount
      rcases mem_cons.mp hx with rfl | hx
      · by_contra hp
        rw [if_pos hq, if_neg hp] at hcount
        omega
      · refine ih hys ?_ hx
        by_cases hp : p y = true
        · rw [if_pos hp, if_pos (hhead hp)] at hcount
          omega
        · rw [if_neg hp] at hcount
          split at hcount <;> omega
  · intro hqp
    exact countP_congr fun x hx => ⟨hpq x hx, hqp x hx⟩

end LocStack.Base
