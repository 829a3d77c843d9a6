/-
# `LocStack.Base.Keyed` — calls that are answered key by key

Calls wait in one list, the oldest first, and each has a key.  The calls of
one key are answered in their order, those of different keys in any:

    ofKey key k calls     the calls of `k`
    settle key k calls    the calls without the oldest of `k`

What the answer to one key leaves of the others is as it was, so a queue
that is kept for one key follows `ofKey`, and one that is kept for all of
them follows `calls` as long as the oldest of all is the one that is
settled.
-/
import Mathlib.Data.List.Basic

namespace LocStack.Base

open List

variable {κ α β : Type*} [DecidableEq κ] {key : α → κ} {k k' : κ} {calls : List α} {c : α}

/-- The calls of one key, the oldest first. -/
def ofKey (key : α → κ) (k : κ) (calls : List α) : List α := calls.filter (key · = k)

/-- The oldest call of one key is settled, and waits no longer. -/
def settle (key : α → κ) (k : κ) (calls : List α) : List α := calls.eraseP (key · = k)

@[simp] theorem ofKey_nil : ofKey key k [] = [] := rfl

theorem mem_ofKey : c ∈ ofKey key k calls ↔ c ∈ calls ∧ key c = k := by
  unfold ofKey
  rw [mem_filter, decide_eq_true_iff]

theorem ofKey_cons_self (h : key c = k) : ofKey key k (c :: calls) = c :: ofKey key k calls :=
  filter_cons_of_pos (decide_eq_true h)

theorem ofKey_cons_of_ne (h : key c ≠ k) : ofKey key k (c :: calls) = ofKey key k calls :=
  filter_cons_of_neg (by simpa using h)

theorem ofKey_append (calls calls' : List α) :
    ofKey key k (calls ++ calls') = ofKey key k calls ++ ofKey key k calls' := by
  unfold ofKey
  exact filter_append ..

theorem ofKey_concat_self (key : α → κ) (h : key c = k) :
    ofKey key k (calls ++ [c]) = ofKey key k calls ++ [c] := by
  rw [ofKey_append, ofKey_cons_self h, ofKey_nil]

theorem ofKey_concat_of_ne (key : α → κ) (h : key c ≠ k) :
    ofKey key k (calls ++ [c]) = ofKey key k calls := by
  rw [ofKey_append, ofKey_cons_of_ne h, ofKey_nil, append_nil]

theorem ofKey_eq_nil : ofKey key k calls = [] ↔ ∀ c ∈ calls, key c ≠ k := by
  unfold ofKey
  simp only [filter_eq_nil_iff, decide_eq_true_iff, ne_eq]

theorem mem_of_mem_settle (h : c ∈ settle key k calls) : c ∈ calls := mem_of_mem_eraseP h

theorem settle_cons_self (h : key c = k) : settle key k (c :: calls) = calls :=
  eraseP_cons_of_pos (decide_eq_true h)

theorem settle_cons_of_ne (h : key c ≠ k) :
    settle key k (c :: calls) = c :: settle key k calls :=
  eraseP_cons_of_neg (by simpa using h)

theorem ofKey_settle_self (k : κ) (calls : List α) :
    ofKey key k (settle key k calls) = (ofKey key k calls).tail := by
  induction calls with
  | nil => rfl
  | cons c calls ih =>
    rcases eq_or_ne (key c) k with h | h
    · rw [settle_cons_self h, ofKey_cons_self h, tail_cons]
    · rw [settle_cons_of_ne h, ofKey_cons_of_ne h, ofKey_cons_of_ne h]
      exact ih

theorem ofKey_settle_of_ne (hne : k' ≠ k) (calls : List α) :
    ofKey key k' (settle key k calls) = ofKey key k' calls := by
  induction calls with
  | nil => rfl
  | cons c calls ih =>
    rcases eq_or_ne (key c) k with h | h
    · have h' : key c ≠ k' := by
        rintro rfl
        exact hne h
      rw [settle_cons_self h, ofKey_cons_of_ne h']
    · rw [settle_cons_of_ne h]
      rcases eq_or_ne (key c) k' with h' | h'
      · rw [ofKey_cons_self h', ofKey_cons_self h', ih]
      · rw [ofKey_cons_of_ne h', ofKey_cons_of_ne h', ih]

theorem perm_settle (h : (ofKey key k calls).head? = some c) :
    calls.Perm (c :: settle key k calls) := by
  induction calls with
  | nil => cases h
  | cons d calls ih =>
    rcases eq_or_ne (key d) k with hd | hd
    · rw [ofKey_cons_self hd] at h
      cases h
      rw [settle_cons_self hd]
    · rw [ofKey_cons_of_ne hd] at h
      rw [settle_cons_of_ne hd]
      exact ((ih h).cons d).trans (.swap c d _)

section FilterMap

variable {f : α → Option β}

theorem filterMap_settle_of_none (h : (ofKey key k calls).head? = some c) (hf : f c = none) :
    (settle key k calls).filterMap f = calls.filterMap f := by
  induction calls with
  | nil => rfl
  | cons d calls ih =>
    rcases eq_or_ne (key d) k with hd | hd
    · rw [ofKey_cons_self hd] at h
      cases h
      rw [settle_cons_self hd, filterMap_cons_none hf]
    · rw [ofKey_cons_of_ne hd] at h
      rw [settle_cons_of_ne hd, filterMap_cons, filterMap_cons, ih h]

theorem filterMap_settle_of_first (h : (ofKey key k calls).head? = some c)
    (hfirst : calls.find? (fun d => (f d).isSome) = some c) :
    (settle key k calls).filterMap f = (calls.filterMap f).tail := by
  induction calls with
  | nil => rfl
  | cons d calls ih =>
    rcases eq_or_ne (key d) k with hd | hd
    · rw [ofKey_cons_self hd] at h
      cases h
      have hsome := List.find?_some (p := fun d => (f d).isSome) hfirst
      obtain ⟨b, hb⟩ := Option.isSome_iff_exists.mp hsome
      rw [settle_cons_self hd, filterMap_cons_some hb, tail_cons]
    · rw [ofKey_cons_of_ne hd] at h
      have hkey := (mem_ofKey.mp (mem_of_head? h)).2
      have hnone : f d = none := by
        cases hb : f d with
        | none => rfl
        | some b =>
          rw [List.find?_cons_of_pos (by rw [hb]; rfl)] at hfirst
          cases hfirst
          exact absurd hkey hd
      rw [List.find?_cons_of_neg (by rw [hnone]; exact Bool.false_ne_true)] at hfirst
      rw [settle_cons_of_ne hd, filterMap_cons_none hnone, filterMap_cons_none hnone]
      exact ih h hfirst

theorem head?_filterMap_eq (f : α → Option β) (calls : List α) :
    (calls.filterMap f).head? = (calls.find? fun d => (f d).isSome).bind f := by
  induction calls with
  | nil => rfl
  | cons d calls ih =>
    cases hb : f d with
    | none =>
      rw [filterMap_cons_none hb, List.find?_cons_of_neg (by rw [hb]; exact Bool.false_ne_true), ih]
    | some b =>
      rw [filterMap_cons_some hb, List.find?_cons_of_pos (by rw [hb]; rfl)]
      exact hb.symm

end FilterMap

theorem mem_of_head?_ofKey (h : (ofKey key k calls).head? = some c) : c ∈ calls ∧ key c = k :=
  mem_ofKey.mp (mem_of_head? h)

end LocStack.Base
