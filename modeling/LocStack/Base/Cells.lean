/-
# `LocStack.Base.Cells` — arrays of a fixed capacity, and the loops that fill them

A cell that was never written has no value (`none`).  Reading one that is not
there or was never written, and writing one that is not there, is a fault; a
computation that may come to a fault has an `Option` for its result.

    forTo count body d    for (i = 0; i < count; i++) d = body(d, i)
    fill count value      for (i = 0; i < count; i++) a[i] = value(i)
    gather count value    for (i = 0; i < count; i++) xs.add(value(i))

`forTo_eq` is the rule of the loop: given are the states it goes through, and
which of its turns do not fault.
-/
import Mathlib.Data.Fintype.Fin

namespace LocStack.Base

open Function Option

variable {α β δ : Type*} {n count : ℕ}

/-! ## Loops -/

def forTo (count : ℕ) (body : δ → ℕ → Option δ) (d : δ) : Option δ :=
  (List.range count).foldlM body d

section Loop

variable {body : δ → ℕ → Option δ}

theorem forTo_succ (count : ℕ) (d : δ) :
    forTo (count + 1) body d = (forTo count body d).bind fun d => body d count := by
  unfold forTo
  rw [List.range_succ, List.foldlM_append]
  refine congrArg (Option.bind _) (funext fun d => ?_)
  exact bind_pure (body d count)

/-- The loop goes through `state`, and faults at the first turn that is not
`ok`. -/
theorem forTo_eq (state : ℕ → δ) (ok : ℕ → Prop) [DecidablePred ok]
    (hbody : ∀ i, body (state i) i = if ok i then some (state (i + 1)) else none) :
    forTo count body (state 0) = if ∀ i < count, ok i then some (state count) else none := by
  induction count with
  | zero => exact (if_pos fun i hi => absurd hi i.not_lt_zero).symm
  | succ count ih =>
    rw [forTo_succ, ih]
    by_cases hall : ∀ i < count, ok i
    · rw [if_pos hall]
      refine (hbody count).trans (ite_congr (propext ⟨fun hlast i hi => ?_, ?_⟩)
        (fun _ => rfl) fun _ => rfl)
      · rcases Nat.lt_succ_iff_lt_or_eq.mp hi with hlt | rfl
        · exact hall i hlt
        · exact hlast
      · exact fun h => h count count.lt_succ_self
    · rw [if_neg hall, if_neg fun h => hall fun i hi => h i (Nat.lt_succ_of_lt hi)]
      rfl

end Loop

/-! ## Cells -/

@[ext] structure Cells (n : ℕ) (α : Type*) where
  cell : Fin n → Option α

namespace Cells

def empty : Cells n α := ⟨fun _ => none⟩

def read (a : Cells n α) (i : ℕ) : Option α := if h : i < n then a.cell ⟨i, h⟩ else none

def write (a : Cells n α) (i : ℕ) (v : α) : Option (Cells n α) :=
  if h : i < n then some ⟨update a.cell ⟨i, h⟩ (some v)⟩ else none

/-- How many cells have been written. -/
def written (a : Cells n α) : ℕ := (Finset.univ.filter fun i => (a.cell i).isSome).card

/-- The first cells, with these values as far as there are any. -/
def firsts (count : ℕ) (value : ℕ → Option α) : Cells n α :=
  ⟨fun i => if i.val < count then value i.val else none⟩

/-- The first cells of an array. -/
def upTo (a : Cells n α) (count : ℕ) : Cells n α := firsts count a.read

/-- The first cells are there and have been written. -/
def Known (a : Cells n α) (count : ℕ) : Prop := ∀ i < count, (a.read i).isSome

def fill (count : ℕ) (value : ℕ → Option α) (a : Cells n α) : Option (Cells n α) :=
  forTo count (fun a i => (value i).bind (a.write i)) a

def gather (count : ℕ) (value : ℕ → Option α) : Option (List α) :=
  forTo count (fun xs i => (value i).map fun v => xs ++ [v]) []

variable {a : Cells n α} {i : ℕ} {v : α} {f : ℕ → α}

theorem read_of_write {a' : Cells n α} {j : ℕ} (h : a.write i v = some a') (hj : j ≠ i) :
    a'.read j = a.read j := by
  unfold write at h
  split at h
  · cases h
    unfold read
    split
    · exact update_of_ne (fun heq => hj (congrArg Fin.val heq)) _ _
    · rfl
  · cases h

theorem exists_write (a : Cells n α) (v : α) (hi : i < n) :
    ∃ a', a.write i v = some a' ∧ a'.read i = some v :=
  ⟨_, dif_pos hi, (dif_pos hi).trans (update_self ..)⟩

/-- An array whose cells all have values. -/
def ofFun (f : ℕ → α) : Cells n α := ⟨fun i => some (f i.val)⟩

theorem read_ofFun (hi : i < n) : (ofFun f : Cells n α).read i = some (f i) :=
  dif_pos hi

theorem write_ofFun (hi : i < n) (v : α) :
    (ofFun f : Cells n α).write i v = some (ofFun (update f i v)) := by
  unfold write
  rw [dif_pos hi]
  refine congrArg some (Cells.ext (funext fun j => ?_))
  show update (ofFun f : Cells n α).cell ⟨i, hi⟩ (some v) j = some (update f i v j.val)
  rcases eq_or_ne j ⟨i, hi⟩ with rfl | hne
  · rw [update_self, update_self]
  · have hval : j.val ≠ i := fun h => hne (Fin.ext h)
    rw [update_of_ne hne, update_of_ne hval]
    rfl

/-- What a loop writes from the start of an array. -/
theorem forTo_write {v : ℕ → α} (hcount : count ≤ n) {body : Cells n α → ℕ → Option (Cells n α)}
    (hbody : ∀ a i, i < n → body a i = a.write i (v i)) :
    forTo count body (.ofFun f) = some (.ofFun fun j => if j < count then v j else f j) := by
  induction count with
  | zero => exact congrArg some (congrArg Cells.ofFun (funext fun j => (if_neg j.not_lt_zero).symm))
  | succ count ih =>
    rw [forTo_succ, ih (by omega), bind_some, hbody _ _ hcount, Cells.write_ofFun hcount]
    refine congrArg some (congrArg Cells.ofFun (funext fun j => ?_))
    rcases eq_or_ne j count with rfl | hne
    · rw [update_self, if_pos j.lt_succ_self]
    · rw [update_of_ne hne]
      have hiff : j < count ↔ j < count + 1 := by omega
      simp only [hiff]

variable {value : ℕ → Option α}

theorem read_firsts (hi : i < count) (hle : count ≤ n) :
    (firsts count value : Cells n α).read i = value i := by
  unfold read
  rw [dif_pos (hi.trans_le hle)]
  exact if_pos hi

theorem Known.le (h : a.Known count) : count ≤ n := by
  refine le_of_forall_lt fun i hi => ?_
  have hread := h i hi
  unfold read at hread
  split at hread
  · next hlt => exact hlt
  · cases hread

theorem write_firsts (hi : i < n) (hv : value i = some v) :
    (firsts i value : Cells n α).write i v = some (firsts (i + 1) value) := by
  unfold write
  rw [dif_pos hi]
  refine congrArg some (Cells.ext (funext fun j => ?_))
  show update (firsts i value).cell ⟨i, hi⟩ (some v) j =
    if j.val < i + 1 then value j.val else none
  rcases eq_or_ne j ⟨i, hi⟩ with rfl | hne
  · rw [update_self, if_pos i.lt_succ_self, hv]
  · have hval : j.val ≠ i := fun h => hne (Fin.ext h)
    rw [update_of_ne hne]
    show (if j.val < i then _ else _) = _
    simp only [Nat.lt_succ_iff_lt_or_eq, hval, or_false]

theorem turn_firsts (i : ℕ) : (value i).bind ((firsts i value : Cells n α).write i) =
      if i < n ∧ (value i).isSome then some (firsts (i + 1) value) else none := by
  cases hv : value i with
  | none => rw [if_neg fun h => absurd h.2 Bool.false_ne_true, bind_none]
  | some v =>
    rw [bind_some]
    by_cases hi : i < n
    · rw [if_pos ⟨hi, rfl⟩]
      exact write_firsts hi hv
    · rw [if_neg fun h => hi h.1]
      exact dif_neg hi

theorem fill_eq (count : ℕ) (value : ℕ → Option α) : fill count value (empty : Cells n α) =
      if ∀ i < count, i < n ∧ (value i).isSome then some (firsts count value) else none :=
  forTo_eq (fun i => firsts i value) _ turn_firsts

theorem written_firsts (h : ∀ i < count, i < n ∧ (value i).isSome) :
    (firsts count value : Cells n α).written = count := by
  have hle : count ≤ n := le_of_forall_lt fun i hi => (h i hi).1
  have hcell : ∀ i : Fin n,
      ((firsts count value : Cells n α).cell i).isSome = true ↔ i.val < count := by
    intro i
    show (if i.val < count then value i.val else none).isSome = true ↔ _
    split
    · next hi => exact iff_of_true (h i.val hi).2 hi
    · next hi => exact iff_of_false Bool.false_ne_true hi
  rw [written, Finset.filter_congr fun i _ => hcell i, Fin.card_filter_val_lt, min_eq_right hle]

theorem gather_succ (count : ℕ) (value : ℕ → Option α) : gather (count + 1) value =
      (gather count value).bind fun xs => (value count).map fun v => xs ++ [v] :=
  forTo_succ count []

theorem isSome_gather (h : ∀ i < count, (value i).isSome) : (gather count value).isSome := by
  induction count with
  | zero => rfl
  | succ count ih =>
    obtain ⟨xs, hxs⟩ := isSome_iff_exists.mp (ih fun i hi => h i (Nat.lt_succ_of_lt hi))
    rw [gather_succ, hxs, bind_some, isSome_map]
    exact h count count.lt_succ_self

/-- A repeated field gets the values in their order. -/
theorem of_gather {xs : List α} (h : gather count value = some xs) :
    xs.length = count ∧ ∀ i < count, xs[i]? = value i := by
  induction count generalizing xs with
  | zero =>
    cases h
    exact ⟨rfl, fun i hi => absurd hi i.not_lt_zero⟩
  | succ count ih =>
    rw [gather_succ] at h
    obtain ⟨ys, hys, hlast⟩ := bind_eq_some_iff.mp h
    obtain ⟨v, hv, rfl⟩ := map_eq_some_iff.mp hlast
    obtain ⟨hlength, hget⟩ := ih hys
    refine ⟨?_, fun i hi => ?_⟩
    · rw [List.length_append, hlength]
      rfl
    · rcases Nat.lt_succ_iff_lt_or_eq.mp hi with hlt | rfl
      · rw [List.getElem?_append_left (hlength ▸ hlt)]
        exact hget i hlt
      · rw [hv, ← hlength]
        exact List.getElem?_concat_length

theorem gather_eq (h : ∀ i < count, value i = some (f i)) :
    gather count value = some ((List.range count).map f) := by
  obtain ⟨xs, hxs⟩ := isSome_iff_exists.mp
    (isSome_gather fun i hi => isSome_iff_exists.mpr ⟨f i, h i hi⟩)
  obtain ⟨hlength, hget⟩ := of_gather hxs
  rw [hxs]
  refine congrArg some (List.ext_getElem? fun i => ?_)
  by_cases hi : i < count
  · rw [hget i hi, h i hi, List.getElem?_map, List.getElem?_range hi, map_some]
  · rw [List.getElem?_eq_none (hlength ▸ Nat.le_of_not_lt hi), List.getElem?_eq_none]
    simpa using Nat.le_of_not_lt hi

theorem exists_gather (h : ∀ i < count, (value i).isSome) :
    ∃ xs, gather count value = some xs ∧ xs.length = count ∧ ∀ i < count, xs[i]? = value i := by
  obtain ⟨xs, hxs⟩ := isSome_iff_exists.mp (isSome_gather h)
  exact ⟨xs, hxs, of_gather hxs⟩

/-! ## From a repeated field, and back -/

section Repeated

variable {β : Type*} {f : β → α} {xs : List β}

/-- The values of a repeated field. -/
def each (xs : List β) (f : β → α) (i : ℕ) : Option α := xs[i]?.map f

theorem isSome_each : (each xs f i).isSome ↔ i < xs.length := by
  rw [each, isSome_map, isSome_getElem?]

theorem fill_each (count : ℕ) (xs : List β) (f : β → α) :
    fill count (each xs f) (empty : Cells n α) =
      if count ≤ n ∧ count ≤ xs.length then some (firsts count (each xs f)) else none := by
  rw [fill_eq]
  refine ite_congr (propext ?_) (fun _ => rfl) fun _ => rfl
  simp only [isSome_each]
  constructor
  · exact fun h =>
      ⟨le_of_forall_lt fun i hi => (h i hi).1, le_of_forall_lt fun i hi => (h i hi).2⟩
  · exact fun h i hi => ⟨hi.trans_le h.1, hi.trans_le h.2⟩

theorem written_firsts_each (h : count ≤ n ∧ count ≤ xs.length) :
    (firsts count (each xs f) : Cells n α).written = count :=
  written_firsts fun _ hi => ⟨hi.trans_le h.1, isSome_each.mpr (hi.trans_le h.2)⟩

theorem exists_gather_fill {g : α → β} (h : a.Known count)
    (hfg : ∀ i v, a.read i = some v → i < count → f (g v) = v) :
    ∃ xs, gather count (fun i => (a.read i).map g) = some xs ∧ xs.length = count ∧
      fill count (each xs f) (empty : Cells n α) = some (a.upTo count) := by
  obtain ⟨xs, hxs, hlength, hget⟩ :=
    have hsome : ∀ i < count, ((a.read i).map g).isSome := fun i hi => by
      rw [isSome_map]
      exact h i hi
    exists_gather hsome
  refine ⟨xs, hxs, hlength, ?_⟩
  rw [fill_each, if_pos ⟨h.le, hlength.ge⟩]
  refine congrArg some (Cells.ext (funext fun i => ?_))
  show (if i.val < count then each xs f i.val else none) =
    if i.val < count then a.read i.val else none
  split
  · next hi =>
      obtain ⟨v, hv⟩ := isSome_iff_exists.mp (h i.val hi)
      rw [each, hget i.val hi, hv]
      exact congrArg some (hfg i.val v hv hi)
  · rfl

end Repeated

end Cells

end LocStack.Base
