/-
# `LocStack.Base.LastWrite` — what a list of messages writes last

A message writes a register or leaves it alone: `f m` is what `m` writes.
Of a list of messages only the last that writes counts,

    lastWrite f l      what the last message of `l` that writes has written

so that a list may stand for another one if, register by register, the last
that writes is the same; where all that write write the same, their order
makes no difference (`lastWrite_of_agree`).  Registers written in groups
are the case of `f m = (g m).bind part`: the last group decides, if it has
every part that any group has (`lastWrite_bind_eq`).
-/
import Mathlib.Data.List.Induction

namespace LocStack.Base

open List Option

variable {μ α β : Type*} {f : μ → Option β} {l : List μ}

/-- What the last message of a list that writes a register has written. -/
def lastWrite (f : μ → Option β) (l : List μ) : Option β :=
  l.foldl (fun v m => (f m).or v) none

@[simp] theorem lastWrite_nil : lastWrite f [] = none := rfl

@[simp] theorem lastWrite_concat (l : List μ) (m : μ) :
    lastWrite f (l ++ [m]) = (f m).or (lastWrite f l) := foldl_append ..

@[simp] theorem lastWrite_append (l l' : List μ) :
    lastWrite f (l ++ l') = (lastWrite f l').or (lastWrite f l) := by
  induction l' using List.reverseRecOn with
  | nil => simp
  | append_singleton l' m ih =>
    rw [← List.append_assoc, lastWrite_concat, lastWrite_concat, ih, Option.or_assoc]

@[simp] theorem lastWrite_singleton (m : μ) : lastWrite f [m] = f m := by
  show (f m).or none = f m
  exact or_none

theorem lastWrite_map (f : α → Option β) (g : μ → α) (l : List μ) :
    lastWrite f (l.map g) = lastWrite (fun m => f (g m)) l := foldl_map ..

theorem lastWrite_eq_none : lastWrite f l = none ↔ ∀ m ∈ l, f m = none := by
  induction l using List.reverseRecOn with
  | nil => simp
  | append_singleton l m ih =>
    rw [lastWrite_concat, or_eq_none_iff, ih]
    constructor
    · rintro ⟨hm, hl⟩ m' hm'
      rcases mem_append.mp hm' with h | h
      · exact hl m' h
      · rwa [mem_singleton.mp h]
    · intro h
      exact ⟨h m (by simp), fun m' hm' => h m' (mem_append_left _ hm')⟩

variable {v : β} {m : μ}

theorem exists_of_lastWrite (h : lastWrite f l = some v) : ∃ m ∈ l, f m = some v := by
  induction l using List.reverseRecOn with
  | nil => cases h
  | append_singleton l m ih =>
    rw [lastWrite_concat] at h
    cases hm : f m with
    | none =>
      rw [hm] at h
      obtain ⟨m', hm', hv⟩ := ih h
      exact ⟨m', mem_append_left _ hm', hv⟩
    | some w =>
      rw [hm] at h
      exact ⟨m, by simp, hm.trans h⟩

theorem mem_of_lastWrite (mk : β → μ) (hmk : ∀ m v, f m = some v → mk v = m)
    (h : lastWrite f l = some v) : mk v ∈ l := by
  obtain ⟨m, hm, hv⟩ := exists_of_lastWrite h
  rwa [hmk m v hv]

theorem exists_lastWrite_of_mem (hm : m ∈ l) (hw : (f m).isSome = true) :
    ∃ v, lastWrite f l = some v := by
  rw [← isSome_iff_exists, ← ne_none_iff_isSome]
  intro hnone
  rw [lastWrite_eq_none.mp hnone m hm] at hw
  cases hw

theorem lastWrite_of_agree (hm : m ∈ l) (hv : f m = some v)
    (h : ∀ m ∈ l, ∀ w, f m = some w → w = v) : lastWrite f l = some v := by
  obtain ⟨w, hw⟩ := exists_lastWrite_of_mem hm (f := f) (by rw [hv]; rfl)
  obtain ⟨m', hm', hfm⟩ := exists_of_lastWrite hw
  rw [hw, h m' hm' w hfm]

/-- Registers that are written in groups: the last group decides exactly if
it has the part, or none has it. -/
theorem lastWrite_bind_eq {g : μ → Option α} {part : α → Option β} :
    lastWrite (fun m => (g m).bind part) l = (lastWrite g l).bind part ↔
      ∀ m ∈ l, ∀ a, g m = some a → (part a).isSome = true →
        ((lastWrite g l).bind part).isSome = true := by
  constructor
  · intro h m hm a ha hpart
    rw [← h]
    obtain ⟨v, hv⟩ := exists_lastWrite_of_mem (f := fun m => (g m).bind part) hm (by
      show ((g m).bind part).isSome = true
      rw [ha]
      exact hpart)
    rw [hv]
    rfl
  · intro h
    cases hlast : (lastWrite g l).bind part with
    | none =>
      rw [lastWrite_eq_none]
      intro m hm
      cases ha : g m with
      | none => rfl
      | some a =>
        have hnone := h m hm a ha
        rw [hlast] at hnone
        exact not_isSome_iff_eq_none.mp fun hsome => (by cases hnone hsome)
    | some v =>
      clear h
      induction l using List.reverseRecOn with
      | nil => cases hlast
      | append_singleton l m ih =>
        rw [lastWrite_concat] at hlast ⊢
        cases ha : g m with
        | none =>
          rw [ha] at hlast
          exact ih hlast
        | some a =>
          rw [ha] at hlast
          show (part a).or _ = _
          rw [show part a = some v from hlast]
          rfl

end LocStack.Base
