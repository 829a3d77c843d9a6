/-
# `LocStack.Base.Least` — the least value over the objects of a map

`LeastAt objects f m` says that `m` is the least of the values `f o` of the
objects there are, and that there is one.  The first part has what becomes of
it when objects come, go or change.

A loop that looks for the least value may have no value to start from, and
take one that stands for none (`recordLeast`).  It finds the least as long as
that one is not among the values.
-/
import Mathlib.Data.Set.Basic
import Mathlib.Order.Bounds.Defs

namespace LocStack.Base

open Function

variable {ι ο α : Type*} [LE α]

def LeastAt (objects : ι → Option ο) (f : ο → α) (m : α) : Prop :=
  IsLeast {a | ∃ i o, objects i = some o ∧ f o = a} m

namespace LeastAt

variable {objects objects' : ι → Option ο} {f g : ο → α} {m m' : α} {i : ι} {o : ο}

theorem le (h : LeastAt objects f m) (ho : objects i = some o) : m ≤ f o :=
  h.2 ⟨i, o, ho, rfl⟩

theorem mk_of (ho : objects i = some o) (hm : f o = m)
    (hle : ∀ i o, objects i = some o → m ≤ f o) : LeastAt objects f m := by
  refine ⟨⟨i, o, ho, hm⟩, ?_⟩
  rintro _ ⟨j, o', ho', rfl⟩
  exact hle j o' ho'

theorem congr (h : LeastAt objects f m) (hfg : ∀ i o, objects i = some o → f o = g o) :
    LeastAt objects g m := by
  obtain ⟨⟨i, o, ho, hm⟩, -⟩ := id h
  refine mk_of ho ((hfg i o ho).symm.trans hm) ?_
  intro j o' ho'
  rw [← hfg j o' ho']
  exact h.le ho'

theorem map_iff (change : ο → ο) :
    LeastAt (fun i => (objects i).map change) f m ↔ LeastAt objects (fun o => f (change o)) m := by
  constructor
  · intro h
    obtain ⟨⟨i, o', ho', hm⟩, -⟩ := id h
    obtain ⟨o, ho, rfl⟩ := Option.map_eq_some_iff.mp ho'
    exact mk_of ho hm fun j o' ho' => h.le (Option.map_eq_some_iff.mpr ⟨o', ho', rfl⟩)
  · intro h
    obtain ⟨⟨i, o, ho, hm⟩, -⟩ := id h
    refine mk_of (Option.map_eq_some_iff.mpr ⟨o, ho, rfl⟩) hm ?_
    intro j o' ho'
    obtain ⟨p, hp, rfl⟩ := Option.map_eq_some_iff.mp ho'
    exact h.le hp

theorem comp (h : LeastAt objects f m) (change : α → α)
    (hchange : ∀ a, m ≤ a → change m ≤ change a) :
    LeastAt objects (fun o => change (f o)) (change m) := by
  obtain ⟨⟨i, o, ho, hm⟩, -⟩ := id h
  exact mk_of ho (congrArg change hm) fun j p hp => hchange _ (h.le hp)

theorem le_of_left (h : LeastAt objects f m) (h' : LeastAt objects' f m')
    (hleft : ∀ i o', objects' i = some o' → ∃ o, objects i = some o ∧ f o = f o') : m ≤ m' := by
  obtain ⟨i, o', ho', rfl⟩ := h'.1
  obtain ⟨o, ho, hf⟩ := hleft i o' ho'
  rw [← hf]
  exact h.le ho

theorem insert_of_le [DecidableEq ι] (h : LeastAt objects f m) (hi : objects i = none)
    (hle : m ≤ f o) : LeastAt (update objects i (some o)) f m := by
  obtain ⟨⟨j, p, hp, hm⟩, -⟩ := id h
  have hj : j ≠ i := by
    rintro rfl
    rw [hi] at hp
    cases hp
  refine mk_of ((update_of_ne hj ..).trans hp) hm ?_
  intro k q hq
  rcases eq_or_ne k i with rfl | hk
  · rw [update_self] at hq
    cases hq
    exact hle
  · rw [update_of_ne hk] at hq
    exact h.le hq

variable [Std.IsLinearOrder α]

theorem single (ho : objects i = some o) (honly : ∀ j, j ≠ i → objects j = none) :
    LeastAt objects f (f o) := by
  refine mk_of ho rfl ?_
  intro j o' ho'
  have hj : j = i := by
    by_contra hne
    rw [honly j hne] at ho'
    cases ho'
  rw [hj, ho] at ho'
  cases ho'
  exact Std.le_refl _

theorem insert_least [DecidableEq ι] (hle : ∀ j p, objects j = some p → f o ≤ f p) :
    LeastAt (update objects i (some o)) f (f o) := by
  refine mk_of (update_self ..) rfl ?_
  intro k q hq
  rcases eq_or_ne k i with rfl | hk
  · rw [update_self] at hq
    cases hq
    exact Std.le_refl _
  · rw [update_of_ne hk] at hq
    exact hle k q hq

theorem insert_of_lt [DecidableEq ι] [LT α] [Std.LawfulOrderLT α] (h : LeastAt objects f m)
    (hlt : f o < m) : LeastAt (update objects i (some o)) f (f o) :=
  insert_least fun _ _ hp => Std.le_trans (Std.le_of_lt hlt) (h.le hp)

theorem eq_or_gone (h : LeastAt objects f m) (h' : LeastAt objects' f m')
    (hleft : ∀ i o', objects' i = some o' → ∃ o, objects i = some o ∧ f o = f o') :
    m = m' ∨ ∃ i o, objects i = some o ∧ f o = m ∧ ∀ o', objects' i = some o' → f o' ≠ m := by
  by_cases heq : m = m'
  · exact .inl heq
  · obtain ⟨i, o, ho, hm⟩ := h.1
    refine .inr ⟨i, o, ho, hm, ?_⟩
    intro o' ho' hm'
    refine heq (Std.le_antisymm (h.le_of_left h' hleft) ?_)
    rw [← hm']
    exact h'.le ho'

end LeastAt

/-! ## The loop -/

section Loop

variable [LT α] [DecidableEq α] [DecidableLT α]

/-- One round; `zero` stands for no value yet. -/
def recordLeast (zero least a : α) : α :=
  if least = zero ∨ a < least then a else least

variable [Std.IsLinearOrder α] [Std.LawfulOrderLT α] {zero least a : α} {seen : Set α}

theorem isLeast_recordLeast (h : IsLeast seen least) (hzero : least ≠ zero) :
    IsLeast {b | b = a ∨ b ∈ seen} (recordLeast zero least a) := by
  rw [recordLeast]
  split
  · rename_i hless
    have hlt := hless.resolve_left hzero
    refine ⟨.inl rfl, ?_⟩
    rintro b (rfl | hb)
    · exact Std.le_refl _
    · exact Std.le_trans (Std.le_of_lt hlt) (h.2 hb)
  · rename_i hless
    have hle : least ≤ a := Std.not_lt.mp fun hlt => hless (.inr hlt)
    refine ⟨.inr h.1, ?_⟩
    rintro b (rfl | hb)
    · exact hle
    · exact h.2 hb

theorem isLeast_foldl_of_isLeast (values : List α) (h : IsLeast seen least)
    (hvalues : zero ∉ values) (hseen : zero ∉ seen) :
    IsLeast {a | a ∈ values ∨ a ∈ seen} (values.foldl (recordLeast zero) least) := by
  induction values generalizing seen least with
  | nil =>
    have hset : {a | a ∈ ([] : List α) ∨ a ∈ seen} = seen := by
      ext a
      simp
    rw [hset]
    exact h
  | cons b values ih =>
    have hleast : least ≠ zero := fun heq => hseen (heq ▸ h.1)
    have hset : {a | a ∈ b :: values ∨ a ∈ seen} =
        {a | a ∈ values ∨ a ∈ {c | c = b ∨ c ∈ seen}} := by
      ext a
      simp [or_assoc, or_left_comm]
    rw [hset]
    refine ih (isLeast_recordLeast h hleast) (fun hmem => hvalues (List.mem_cons_of_mem _ hmem)) ?_
    rintro (heq | hmem)
    · exact hvalues (heq ▸ List.mem_cons_self)
    · exact hseen hmem

theorem isLeast_foldl (values : List α) (hvalues : values ≠ []) (hzero : zero ∉ values) :
    IsLeast {a | a ∈ values} (values.foldl (recordLeast zero) zero) := by
  cases values with
  | nil => exact absurd rfl hvalues
  | cons b values =>
    have hfirst : recordLeast zero zero b = b := if_pos (.inl rfl)
    have hone : IsLeast {c | c = b} b := ⟨rfl, fun c hc => hc ▸ Std.le_refl _⟩
    have hset : {a | a ∈ b :: values} = {a | a ∈ values ∨ a ∈ {c | c = b}} := by
      ext a
      simp [or_comm]
    rw [hset, List.foldl_cons, hfirst]
    exact isLeast_foldl_of_isLeast values hone (fun hmem => hzero (List.mem_cons_of_mem _ hmem))
      fun heq => hzero (heq ▸ List.mem_cons_self)

end Loop

end LocStack.Base
