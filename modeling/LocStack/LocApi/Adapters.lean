/-
# `LocStack.LocApi.Adapters` — the adapters of LocApiBase

`mLocAdapters` is an array that ends with its first null pointer, or when it is
full.  An adapter that is added comes behind the others; for one that is removed
the last one comes in its place.
-/
import LocStack.Base.Compact
import LocStack.Base.Run
import Mathlib.Data.List.Basic

namespace LocStack.LocApi.Adapters

open Base List

variable {α : Type*} [DecidableEq α]

def MAX_ADAPTERS : ℕ := 10

/-- What is sent to the message task. -/
inductive AdapterMsg (α : Type*) where
  | LocOpenMsg (adapter : Option α)
  | LocCloseMsg
  deriving DecidableEq

/-- `addAdapter`, from a slot on. -/
def addAdapter (adapter : α) : List (Option α) → List (Option α) × List (AdapterMsg α)
  | [] => ([], [])
  | none :: slots => (some adapter :: slots, [.LocOpenMsg adapter])
  | some a :: slots =>
    if a = adapter then (some a :: slots, [])
    else (some a :: (addAdapter adapter slots).1, (addAdapter adapter slots).2)

/-- The last slot in use of those from `i` on. -/
def lastFrom (slots : List (Option α)) (i : ℕ) : ℕ :=
  i + ((slots.drop (i + 1)).takeWhile Option.isSome).length

/-- The loop of `removeAdapter`, from slot `i` on. -/
def removeAdapter (adapter : α) (slots : List (Option α)) (i : ℕ) :
    List (Option α) × List (AdapterMsg α) :=
  match h : slots[i]? with
  | some (some a) =>
    have : i < slots.length := (List.getElem?_eq_some_iff.mp h).1
    if a = adapter then
      let last := lastFrom slots i
      let r := removeAdapter adapter (swapRemove slots i last none) (last + 1)
      (r.1, (if last = 0 then .LocCloseMsg else .LocOpenMsg none) :: r.2)
    else removeAdapter adapter slots (i + 1)
  | _ => (slots, [])
termination_by slots.length - i
decreasing_by
  · simp [lastFrom]
    omega
  · omega

/-- Whom TO_ALL_LOCADAPTERS reaches. -/
def dispatched (slots : List (Option α)) : List α := (slots.takeWhile Option.isSome).reduceOption

/-- The array, and who should be in it. -/
structure WatchedAdapters (α : Type*) where
  mLocAdapters : List (Option α)
  registered : List α

inductive AdapterEvent (α : Type*) where
  | addAdapter (adapter : α)
  | removeAdapter (adapter : α)

namespace WatchedAdapters

def new : WatchedAdapters α := ⟨replicate MAX_ADAPTERS none, []⟩

def step (w : WatchedAdapters α) : AdapterEvent α → WatchedAdapters α × List (AdapterMsg α)
  | .addAdapter a =>
    let r := addAdapter a w.mLocAdapters
    (⟨r.1, if a ∈ w.registered ∨ w.registered.length = MAX_ADAPTERS then w.registered
      else w.registered ++ [a]⟩, r.2)
  | .removeAdapter a =>
    let r := removeAdapter a w.mLocAdapters 0
    (⟨r.1, w.registered.erase a⟩, r.2)

/-- Nobody is behind a null pointer, and everybody is reached, once. -/
structure Right (w : WatchedAdapters α) : Prop where
  length : w.mLocAdapters.length = MAX_ADAPTERS
  compact : Compact (· = none) w.mLocAdapters
  nodup : (dispatched w.mLocAdapters).Nodup
  registered : (dispatched w.mLocAdapters).Perm w.registered

/-- A close is asked for if the last one goes, and only then. -/
def ClosesRight (w : WatchedAdapters α) (e : AdapterEvent α) : Prop :=
  .LocCloseMsg ∈ (w.step e).2 ↔ w.registered ≠ [] ∧ (w.step e).1.registered = []

end WatchedAdapters

/-! ## The array -/

section Array

variable {a b : α} {l rest : List α} {k i : ℕ}

omit [DecidableEq α] in
@[simp] theorem dispatched_append_none (l : List α) (k : ℕ) :
    dispatched (l.map some ++ replicate k none) = l := by
  have htake : (l.map some ++ replicate k none).takeWhile Option.isSome = l.map some := by simp
  rw [dispatched, htake]
  exact filterMap_map.trans filterMap_some

theorem addAdapter_eq (a : α) (l : List α) (k : ℕ) : addAdapter a (l.map some ++ replicate k none) =
      if a ∈ l ∨ k = 0 then (l.map some ++ replicate k none, [])
      else ((l ++ [a]).map some ++ replicate (k - 1) none, [.LocOpenMsg a]) := by
  induction l with
  | nil => cases k <;> simp [addAdapter, replicate_succ]
  | cons b l ih =>
    by_cases hb : b = a
    · simp [addAdapter, hb]
    · have hne : ¬ a = b := fun h => hb h.symm
      by_cases hmem : a ∈ l ∨ k = 0
      · simp [addAdapter, ih, hb, hne, hmem]
      · simp [addAdapter, ih, hb, hne, hmem]

theorem removeAdapter_behind (l : List α) (k : ℕ) (h : l.length ≤ i) :
    removeAdapter a (l.map some ++ replicate k none) i = (l.map some ++ replicate k none, []) := by
  have hslot : ∀ b, (l.map some ++ replicate k none)[i]? ≠ some (some b) := by
    intro b
    rw [getElem?_append_right (by simpa using h)]
    simp [getElem?_replicate]
  rw [removeAdapter]
  split
  · exact absurd ‹_› (hslot _)
  · rfl

theorem removeAdapter_skip {slots : List (Option α)} (hslot : slots[i]? = some (some b))
    (h : b ≠ a) : removeAdapter a slots i = removeAdapter a slots (i + 1) := by
  rw [removeAdapter]
  split
  · rename_i c hc
    obtain rfl : b = c := by simpa [hslot] using hc
    rw [if_neg h]
  · simp_all

theorem removeAdapter_append (h : a ∉ l) (rest : List α) (k : ℕ) :
    removeAdapter a ((l ++ rest).map some ++ replicate k none) 0 =
      removeAdapter a ((l ++ rest).map some ++ replicate k none) l.length := by
  induction l using reverseRecOn generalizing rest with
  | nil => rfl
  | append_singleton l b ih =>
    rw [mem_append, not_or, mem_singleton] at h
    rw [append_assoc, ih h.1, length_append, length_singleton]
    exact removeAdapter_skip (by simp) (Ne.symm h.2)

omit [DecidableEq α] in
theorem exists_map_some {slots : List (Option α)} (h : ∀ x ∈ slots, x ≠ none) :
    ∃ l : List α, slots = l.map some := by
  induction slots with
  | nil => exact ⟨[], rfl⟩
  | cons x slots ih =>
    obtain ⟨l, rfl⟩ := ih fun y hy => h y (mem_cons_of_mem _ hy)
    obtain ⟨b, rfl⟩ := Option.ne_none_iff_exists'.mp (h x mem_cons_self)
    exact ⟨b :: l, rfl⟩

theorem removeAdapter_of_mem (h : a ∉ l) (rest : List α) (k : ℕ) :
    ∃ l' : List α, l'.Perm (l ++ rest) ∧
      removeAdapter a ((l ++ a :: rest).map some ++ replicate k none) 0 =
      (l'.map some ++ replicate (k + 1) none,
        [if l ++ rest = [] then .LocCloseMsg else .LocOpenMsg none]) := by
  have hlast : lastFrom ((l ++ a :: rest).map some ++ replicate k none) l.length =
      l.length + rest.length := by
    simp [lastFrom, drop_append, drop_eq_nil_of_le]
  obtain ⟨slots, hswap, hperm⟩ := exists_swapRemove (l := (l ++ a :: rest).map some)
    (i := l.length) (by simp) (replicate k none) none
  have herase : ((l ++ a :: rest).map some).eraseIdx l.length = (l ++ rest).map some := by
    simp [eraseIdx_append_of_length_le]
  have hindex : ((l ++ a :: rest).map some).length - 1 = l.length + rest.length := by
    simp
  rw [herase] at hperm
  rw [hindex] at hswap
  obtain ⟨l', rfl⟩ := exists_map_some fun x hx hnone => by
    simpa [hnone] using hperm.mem_iff.mp hx
  have hperm' : l'.Perm (l ++ rest) := (map_perm_map_iff fun _ _ => Option.some.inj).mp hperm
  have hlength : l'.length = l.length + rest.length := by simpa using hperm'.length_eq
  refine ⟨l', hperm', ?_⟩
  rw [removeAdapter_append h, removeAdapter]
  split
  · rename_i b hb
    obtain rfl : a = b := by simpa using hb
    dsimp only
    rw [if_pos rfl, hlast, hswap, ← replicate_succ, removeAdapter_behind l' (k + 1) (by omega)]
    simp
  · simp_all

end Array

namespace WatchedAdapters

/-- How the array is, with who should be in it. -/
def Inv (w : WatchedAdapters α) : Prop :=
  ∃ (l : List α) (k : ℕ), w.mLocAdapters = l.map some ++ replicate k none ∧
    l.length + k = MAX_ADAPTERS ∧
    l.Nodup ∧ l.Perm w.registered

variable {w : WatchedAdapters α}

omit [DecidableEq α] in
theorem Inv.right (h : w.Inv) : w.Right := by
  obtain ⟨l, k, hslots, hlength, hnodup, hperm⟩ := h
  have hcompact : Compact (· = none) (l.map some ++ replicate k none) :=
    compact_append (by simp) (by simp)
  exact ⟨by simp [hslots, hlength], hslots ▸ hcompact, by simpa [hslots], by simpa [hslots]⟩

theorem Inv.step (h : w.Inv) (e : AdapterEvent α) : (w.step e).1.Inv ∧ w.ClosesRight e := by
  obtain ⟨l, k, hslots, hlength, hnodup, hperm⟩ := h
  cases e with
  | addAdapter a =>
    have hkeep : a ∈ w.registered ∨ w.registered.length = MAX_ADAPTERS ↔ a ∈ l ∨ k = 0 :=
      or_congr hperm.mem_iff.symm (by rw [← hperm.length_eq]; omega)
    by_cases h : a ∈ l ∨ k = 0
    · refine ⟨⟨l, k, ?_, hlength, hnodup, ?_⟩, ?_⟩
      · simp [WatchedAdapters.step, hslots, addAdapter_eq, h]
      · simpa only [WatchedAdapters.step, hkeep, if_pos h] using hperm
      · simp [ClosesRight, WatchedAdapters.step, hslots, addAdapter_eq, hkeep, h]
    · refine ⟨⟨l ++ [a], k - 1, ?_, ?_, ?_, ?_⟩, ?_⟩
      · simp only [WatchedAdapters.step, hslots, addAdapter_eq, if_neg h]
      · rw [length_append, length_singleton]
        omega
      · exact nodup_append.mpr ⟨hnodup, by simp, by grind⟩
      · simpa only [WatchedAdapters.step, hkeep, if_neg h] using hperm.append_right [a]
      · simp only [ClosesRight, WatchedAdapters.step, hslots, addAdapter_eq, hkeep, if_neg h]
        simp
  | removeAdapter a =>
    by_cases hmem : a ∈ l
    · obtain ⟨init, rest, hinit, rfl, herase⟩ := exists_erase_eq hmem
      obtain ⟨l', hl', heq⟩ := removeAdapter_of_mem hinit rest k
      have hrest : (init ++ rest).Perm (w.registered.erase a) := herase ▸ hperm.erase a
      refine ⟨⟨l', k + 1, ?_, ?_, ?_, hl'.trans hrest⟩, ?_⟩
      · simp only [WatchedAdapters.step, hslots, heq]
      · rw [hl'.length_eq, ← hlength, length_append, length_append, length_cons]
        omega
      · exact hl'.nodup_iff.mpr (herase ▸ hnodup.erase a)
      · have hne : w.registered ≠ [] := ne_nil_of_mem (hperm.mem_iff.mp hmem)
        have hnil : init ++ rest = [] ↔ w.registered.erase a = [] :=
          ⟨fun h => (h ▸ hrest).nil_eq.symm, fun h => (h ▸ hrest).eq_nil⟩
        simp only [ClosesRight, WatchedAdapters.step, hslots, heq, ← hnil]
        by_cases h : init ++ rest = [] <;> simp [h, hne]
    · have hnone : a ∉ w.registered := fun h => hmem (hperm.mem_iff.mpr h)
      have heq := removeAdapter_append hmem [] k
      rw [append_nil, removeAdapter_behind l k (Nat.le_refl _)] at heq
      refine ⟨⟨l, k, ?_, hlength, hnodup, ?_⟩, ?_⟩
      · simp only [WatchedAdapters.step, hslots, heq]
      · simpa only [WatchedAdapters.step, erase_of_not_mem hnone] using hperm
      · simp [ClosesRight, WatchedAdapters.step, hslots, heq, erase_of_not_mem hnone]

/-- In every run of additions and removals. -/
theorem adapters_right (es : List (AdapterEvent α)) :
    StatesMeet step Right (new : WatchedAdapters α) es ∧
      StepsMeet step ClosesRight (new : WatchedAdapters α) es := by
  have hnew : (new : WatchedAdapters α).Inv := ⟨[], MAX_ADAPTERS, rfl, rfl, nodup_nil, .nil⟩
  have hstep : ∀ (w : WatchedAdapters α) e, w.Inv → (w.step e).1.Inv := fun w e h => (h.step e).1
  exact ⟨(statesMeet_of_invariant hstep hnew es).mono fun w h => h.right,
    stepsMeet_of_invariant hstep (fun w e h => (h.step e).2) hnew es⟩

end WatchedAdapters

end LocStack.LocApi.Adapters
