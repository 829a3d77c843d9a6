/-
# `LocStack.Base.Compact` — a table of slots without holes

A table has as many slots as it has, some of them free; it is compact if no
slot in use comes after a free one.  What is in use is `live`.

    compact_iff            a compact table is its live part and free slots
    live_append            and the other way round
    exists_swapRemove      the last live slot moved to where one is removed
    zip_filterMap_iff      an array made compact, read beside one that is not
-/
import Mathlib.Data.List.Perm.Basic

namespace LocStack.Base

open List

variable {α : Type*} {free : α → Prop}

/-- No slot in use after a free one. -/
def Compact (free : α → Prop) (slots : List α) : Prop :=
  slots.Pairwise fun x y => free x → free y

theorem compact_append {l rest : List α} (hl : ∀ x ∈ l, ¬ free x)
    (hrest : ∀ x ∈ rest, free x) : Compact free (l ++ rest) := by
  refine pairwise_append.mpr ⟨?_, ?_, fun x hx _ _ hfree => absurd hfree (hl x hx)⟩
  · exact pairwise_of_forall_mem_list fun x hx _ _ hfree => absurd hfree (hl x hx)
  · exact pairwise_of_forall_mem_list fun _ _ y hy _ => hrest y hy

section Live

variable [DecidablePred free]

/-- The slots in use, in their order. -/
def live (free : α → Prop) [DecidablePred free] (slots : List α) : List α :=
  slots.filter fun x => ¬ free x

variable {slots : List α}

@[simp] theorem mem_live {x : α} : x ∈ live free slots ↔ x ∈ slots ∧ ¬ free x := by
  simp [live]

theorem live_append {l rest : List α} (hl : ∀ x ∈ l, ¬ free x) (hrest : ∀ x ∈ rest, free x) :
    live free (l ++ rest) = l := by
  have h₁ : l.filter (fun x => ¬ free x) = l :=
    filter_eq_self.mpr fun x hx => decide_eq_true (hl x hx)
  have h₂ : rest.filter (fun x => ¬ free x) = [] :=
    filter_eq_nil_iff.mpr fun x hx => by simpa using hrest x hx
  rw [live, filter_append, h₁, h₂, append_nil]

theorem compact_iff :
    Compact free slots ↔ ∃ rest, slots = live free slots ++ rest ∧ ∀ x ∈ rest, free x := by
  constructor
  · intro h
    induction slots with
    | nil => exact ⟨[], rfl, fun _ hx => absurd hx not_mem_nil⟩
    | cons a slots ih =>
      obtain ⟨ha, hslots⟩ := pairwise_cons.mp h
      by_cases hfree : free a
      · -- everything from here on is free
        have hall : ∀ x ∈ a :: slots, free x := by
          intro x hx
          rcases mem_cons.mp hx with rfl | hx
          · exact hfree
          · exact ha x hx hfree
        have hnil : live free (a :: slots) = [] := live_append (l := []) (by simp) hall
        exact ⟨a :: slots, by rw [hnil, nil_append], hall⟩
      · obtain ⟨rest, hrest, hall⟩ := ih hslots
        refine ⟨rest, ?_, hall⟩
        have hcons : live free (a :: slots) = a :: live free slots :=
          filter_cons_of_pos (by simpa using hfree)
        rw [hcons, cons_append, ← hrest]
  · rintro ⟨rest, hslots, hrest⟩
    rw [hslots]
    exact compact_append (fun x hx => (mem_live.mp hx).2) hrest

end Live

/-- The slot `i` gets what is in slot `last`, which becomes `blank`. -/
def swapRemove (slots : List α) (i last : Nat) (blank : α) : List α :=
  match slots[last]? with
  | some x => (slots.set i x).set last blank
  | none => slots

@[simp] theorem length_swapRemove (slots : List α) (i last : Nat) (blank : α) :
    (swapRemove slots i last blank).length = slots.length := by
  unfold swapRemove
  split
  · rw [length_set, length_set]
  · rfl

/-- What is removed is the entry `i`; what is left is in another order. -/
theorem exists_swapRemove {l : List α} {i : Nat} (hi : i < l.length) (rest : List α) (blank : α) :
    ∃ l', swapRemove (l ++ rest) i (l.length - 1) blank = l' ++ blank :: rest ∧
      l'.Perm (l.eraseIdx i) := by
  obtain ⟨init, x, rfl⟩ : ∃ init x, l = init ++ [x] :=
    ⟨l.dropLast, l.getLast (ne_nil_of_length_pos (by omega)), (dropLast_append_getLast _).symm⟩
  have hlast : (init ++ [x]).length - 1 = init.length := by
    rw [length_append, length_singleton, Nat.add_sub_cancel]
  have hget : ((init ++ [x]) ++ rest)[init.length]? = some x := by
    rw [append_assoc, List.getElem?_append_right (Nat.le_refl _), Nat.sub_self]
    rfl
  rw [hlast]
  rw [length_append, length_singleton] at hi
  have hswap : swapRemove ((init ++ [x]) ++ rest) i init.length blank =
      ((init ++ ([x] ++ rest)).set i x).set init.length blank := by
    rw [swapRemove, hget, append_assoc]
  rw [hswap]
  rcases Nat.lt_or_ge i init.length with hlt | hge
  · -- the last one moves into the gap
    refine ⟨init.set i x, ?_, ?_⟩
    · rw [set_append_left _ _ hlt, set_append_right _ _ (by simp)]
      simp
    · rw [eraseIdx_append_of_lt_length hlt]
      exact (set_perm_cons_eraseIdx hlt x).trans (perm_append_singleton x _).symm
  · obtain rfl : i = init.length := by omega
    refine ⟨init, ?_, ?_⟩
    · rw [set_append_right _ _ (Nat.le_refl _), set_append_right _ _ (Nat.le_refl _)]
      simp
    · rw [eraseIdx_append_of_length_le (Nat.le_refl _)]
      simp

/-! ## One of two arrays is compacted

An array is made of what `f` has for the items, and what it has nothing
for is left out; the other has `g` of every item.  The two are read by the
same index. -/

section Aligned

variable {β γ : Type*} {f : α → Option β} {g : α → γ}

/-- Each is read with its own exactly if the item that stands where it
comes to stand has the same under `g`. -/
theorem zip_filterMap_iff (l : List α) (gs : List γ) :
    (l.filterMap f).zip gs = l.filterMap (fun x => (f x).map (·, g x)) ↔
      ∀ i x, l[i]? = some x → (f x).isSome →
        gs[(l.take i).countP fun y => (f y).isSome]? = some (g x) := by
  induction l generalizing gs with
  | nil => exact iff_of_true rfl fun i x hx => nomatch hx
  | cons a l ih =>
    cases ha : f a with
    | none =>
      -- the item is left out of both
      have hcount : ∀ i, ((a :: l).take (i + 1)).countP (fun y => (f y).isSome) =
          (l.take i).countP fun y => (f y).isSome := by
        intro i
        rw [take_succ_cons, countP_cons_of_neg]
        rw [ha]
        exact Bool.false_ne_true
      rw [filterMap_cons_none ha, filterMap_cons_none (by rw [ha]; rfl), ih gs]
      constructor
      · intro h i x hx hsome
        cases i with
        | zero =>
          cases hx
          rw [ha] at hsome
          cases hsome
        | succ i =>
          rw [hcount]
          exact h i x hx hsome
      · intro h i x hx hsome
        rw [← hcount]
        exact h (i + 1) x hx hsome
    | some b =>
      have hcount : ∀ i, ((a :: l).take (i + 1)).countP (fun y => (f y).isSome) =
          ((l.take i).countP fun y => (f y).isSome) + 1 := by
        intro i
        rw [take_succ_cons, countP_cons_of_pos]
        rw [ha]
        rfl
      rw [filterMap_cons_some ha,
        filterMap_cons_some (b := (b, g a)) (by rw [ha]; rfl)]
      cases gs with
      | nil =>
        refine iff_of_false (fun h => nomatch h) fun h => ?_
        have hzero := h 0 a rfl (by rw [ha]; rfl)
        cases hzero
      | cons c gs =>
        rw [zip_cons_cons, List.cons.injEq, Prod.mk.injEq, and_iff_right rfl, ih gs]
        constructor
        · rintro ⟨rfl, h⟩ i x hx hsome
          cases i with
          | zero =>
            cases hx
            rfl
          | succ i =>
            rw [hcount]
            exact h i x hx hsome
        · intro h
          refine ⟨Option.some.inj (h 0 a rfl (by rw [ha]; rfl)), fun i x hx hsome => ?_⟩
          have hsucc := h (i + 1) x hx hsome
          rw [hcount] at hsucc
          exact hsucc

end Aligned

end LocStack.Base
