/-
# `LocStack.Base.TwoMaps` — a map and the map back

Objects are kept under an index, and the indices under the key that each
object carries:

    objects : ι → Option ο        ids : κ → Option ι        key : ο → κ

`Inverse` says that the two lead to each other.  Each update of either map
is stated with exactly what it takes to stay inverse, so that a program
that makes the updates in different places can be held to it one by one.

`markedNames` is for the other way to keep two maps: the keys have names,
and some entries are marked.  It is the set of the names of these.
-/
import Mathlib.Data.Set.Insert
import Std.Data.TreeMap

namespace LocStack.Base

open Function

variable {κ ι ο : Type*} {key : ο → κ} {ids : κ → Option ι} {objects : ι → Option ο}

/-- Every id leads to an object of its key, and every object's key to it. -/
structure Inverse (key : ο → κ) (ids : κ → Option ι) (objects : ι → Option ο) : Prop where
  object : ∀ k i, ids k = some i → ∃ o, objects i = some o ∧ key o = k
  id : ∀ i o, objects i = some o → ids (key o) = some i

namespace Inverse

theorem empty : Inverse key (fun _ => none) (fun _ => none : ι → Option ο) where
  object _ _ h := by cases h
  id _ _ h := by cases h

theorem key_injective (h : Inverse key ids objects) {i j : ι} {o o' : ο}
    (ho : objects i = some o) (ho' : objects j = some o') (hkey : key o = key o') : i = j := by
  have hi := h.id i o ho
  rw [hkey, h.id j o' ho'] at hi
  exact (Option.some.inj hi).symm

section Update

variable [DecidableEq ι]

/-- An object goes from under its index only. -/
theorem erase_object_iff (h : Inverse key ids objects) (i : ι) :
    Inverse key ids (update objects i none) ↔ objects i = none := by
  constructor
  · intro hnew
    rw [Option.eq_none_iff_forall_not_mem]
    intro o ho
    obtain ⟨o', ho', -⟩ := hnew.object _ _ (h.id i o ho)
    rw [update_self] at ho'
    cases ho'
  · intro hnone
    rw [← hnone, update_eq_self]
    exact h

theorem modify (h : Inverse key ids objects) {i : ι} {o o' : ο} (ho : objects i = some o)
    (hkey : key o' = key o) : Inverse key ids (update objects i (some o')) := by
  constructor
  · intro k j hj
    obtain ⟨p, hp, hkp⟩ := h.object k j hj
    rcases eq_or_ne j i with rfl | hji
    · rw [ho] at hp
      cases hp
      exact ⟨o', update_self .., hkey.trans hkp⟩
    · exact ⟨p, (update_of_ne hji ..).trans hp, hkp⟩
  · intro j p hp
    rcases eq_or_ne j i with rfl | hji
    · rw [update_self] at hp
      cases hp
      rw [hkey]
      exact h.id j o ho
    · rw [update_of_ne hji] at hp
      exact h.id j p hp

variable [DecidableEq κ]

/-- An object is saved in both: nothing else may be under its index, nor
its key lead elsewhere. -/
theorem save_iff (h : Inverse key ids objects) (i : ι) (o : ο) :
    Inverse key (update ids (key o) (some i)) (update objects i (some o)) ↔
      (∀ o', objects i = some o' → key o' = key o) ∧ ∀ j, ids (key o) = some j → j = i := by
  constructor
  · intro hnew
    constructor
    · intro o' ho'
      by_contra hne
      have hid : update ids (key o) (some i) (key o') = some i := by
        rw [update_of_ne hne]
        exact h.id i o' ho'
      obtain ⟨o'', ho'', hkey⟩ := hnew.object _ _ hid
      rw [update_self] at ho''
      cases ho''
      exact hne hkey.symm
    · intro j hj
      by_contra hne
      obtain ⟨o', ho', hkey⟩ := h.object _ _ hj
      have hobject : update objects i (some o) j = some o' := by
        rw [update_of_ne hne]
        exact ho'
      have hid := hnew.id _ _ hobject
      rw [hkey, update_self] at hid
      exact hne (Option.some.inj hid).symm
  · rintro ⟨hindex, hkey⟩
    constructor
    · intro k j hj
      rcases eq_or_ne k (key o) with rfl | hk
      · rw [update_self] at hj
        cases hj
        exact ⟨o, update_self .., rfl⟩
      · rw [update_of_ne hk] at hj
        obtain ⟨o', ho', hko'⟩ := h.object k j hj
        have hji : j ≠ i := by
          rintro rfl
          exact hk (hko'.symm.trans (hindex o' ho'))
        exact ⟨o', (update_of_ne hji ..).trans ho', hko'⟩
    · intro j o' ho'
      rcases eq_or_ne j i with rfl | hj
      · rw [update_self] at ho'
        cases ho'
        exact update_self ..
      · rw [update_of_ne hj] at ho'
        have hid := h.id j o' ho'
        have hk : key o' ≠ key o := by
          intro hk
          rw [hk] at hid
          exact hj (hkey j hid)
        rw [update_of_ne hk]
        exact hid

theorem erase (h : Inverse key ids objects) {i : ι} {o : ο} (ho : objects i = some o) :
    Inverse key (update ids (key o) none) (update objects i none) := by
  constructor
  · intro k j hj
    have hk : k ≠ key o := by
      rintro rfl
      rw [update_self] at hj
      cases hj
    rw [update_of_ne hk] at hj
    obtain ⟨o', ho', hko'⟩ := h.object k j hj
    have hji : j ≠ i := by
      rintro rfl
      rw [ho] at ho'
      cases ho'
      exact hk hko'.symm
    exact ⟨o', (update_of_ne hji ..).trans ho', hko'⟩
  · intro j o' ho'
    have hji : j ≠ i := by
      rintro rfl
      rw [update_self] at ho'
      cases ho'
    rw [update_of_ne hji] at ho'
    have hk : key o' ≠ key o := fun hk => hji (h.key_injective ho' ho hk)
    rw [update_of_ne hk]
    exact h.id j o' ho'

end Update

theorem forget_iff (h : Inverse key ids objects) (p : κ → Prop) [DecidablePred p] :
    Inverse key (fun k => if p k then none else ids k) objects ↔ ∀ k, p k → ids k = none := by
  constructor
  · intro hnew k hk
    rw [Option.eq_none_iff_forall_not_mem]
    intro i hi
    obtain ⟨o, ho, hko⟩ := h.object k i hi
    have hid := hnew.id i o ho
    rw [hko, if_pos hk] at hid
    cases hid
  · intro hnone
    have hsame : (fun k => if p k then none else ids k) = ids := by
      funext k
      split
      · rename_i hk
        exact (hnone k hk).symm
      · rfl
    rw [hsame]
    exact h

end Inverse

/-! ## The names of the marked entries -/

section Marked

variable {name : κ → ι} {p : ο → Prop} {m : κ → Option ο} {k : κ}

def markedNames (name : κ → ι) (p : ο → Prop) (m : κ → Option ο) : Set ι :=
  {i | ∃ k o, m k = some o ∧ p o ∧ name k = i}

variable [DecidableEq κ]

theorem markedNames_mark {o : ο} (ho : p o) :
    markedNames name p (update m k (some o)) = insert (name k) (markedNames name p m) := by
  ext i
  constructor
  · rintro ⟨k', o', ho', hp, rfl⟩
    rcases eq_or_ne k' k with rfl | hk
    · exact Set.mem_insert ..
    · rw [update_of_ne hk] at ho'
      exact Set.mem_insert_of_mem _ ⟨k', o', ho', hp, rfl⟩
  · intro hi
    rcases Set.mem_insert_iff.mp hi with rfl | ⟨k', o', ho', hp, rfl⟩
    · exact ⟨k, o, update_self .., ho, rfl⟩
    · rcases eq_or_ne k' k with rfl | hk
      · exact ⟨k', o, update_self .., ho, rfl⟩
      · exact ⟨k', o', (update_of_ne hk ..).trans ho', hp, rfl⟩

/-- The entry is erased, or left without a mark.  No other may have its
name. -/
theorem markedNames_unmark {v : Option ο} (hv : ∀ o ∈ v, ¬ p o)
    (hname : ∀ k' o, m k' = some o → name k' = name k → k' = k) :
    markedNames name p (update m k v) = markedNames name p m \ {name k} := by
  ext i
  constructor
  · rintro ⟨k', o, ho, hp, rfl⟩
    rcases eq_or_ne k' k with rfl | hk
    · rw [update_self] at ho
      exact absurd hp (hv o ho)
    · rw [update_of_ne hk] at ho
      exact ⟨⟨k', o, ho, hp, rfl⟩, fun hi => hk (hname k' o ho hi)⟩
  · rintro ⟨⟨k', o, ho, hp, rfl⟩, hi⟩
    have hk : k' ≠ k := by
      rintro rfl
      exact hi rfl
    exact ⟨k', o, (update_of_ne hk ..).trans ho, hp, rfl⟩

end Marked

/-! ## The updates of a `TreeMap`, on the function it stands for -/

section TreeMap

variable {α β : Type*} [Ord α] [Std.TransOrd α] [Std.LawfulEqOrd α] [DecidableEq α]

theorem getElem?_insert_eq (m : Std.TreeMap α β) (a : α) (b : β) :
    (fun k => (m.insert a b)[k]?) = update (fun k => m[k]?) a (some b) := by
  funext k
  rw [Std.TreeMap.getElem?_insert, update_apply]
  simp only [Std.compare_eq_iff_eq, eq_comm (a := a)]

theorem getElem?_erase_eq (m : Std.TreeMap α β) (a : α) :
    (fun k => (m.erase a)[k]?) = update (fun k => m[k]?) a none := by
  funext k
  rw [Std.TreeMap.getElem?_erase, update_apply]
  simp only [Std.compare_eq_iff_eq, eq_comm (a := a)]

end TreeMap

end LocStack.Base
