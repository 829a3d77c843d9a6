/-
# `LocStack.Base.Slots` — answers that are told apart by their place

A request asks several things at once and is answered by one list, the
answer to the i-th thing in the i-th place.  Where the answers are written
by code that walks over the things in an order of its own, with an index it
advances by hand, they come out as

    fillSlots s n answers    n places, the first of them the answers in the
                             order of the walk, the rest `s`

`map_fillSlots` and `idxOf_eq_of_fillSlots` say what it takes that this is
the answers in the order of the request: each thing whose answer is not `s`
comes in the walk where it comes in the request.  For a walk over a part of
an ascending request, `idxOf_filter_eq_iff` says what that means.
-/
import Mathlib.Data.List.Nodup

namespace LocStack.Base

open List

variable {α ε : Type*}

/-- `n` places, filled from the front. -/
def fillSlots (s : ε) (n : Nat) (answers : List ε) : List ε :=
  answers ++ List.replicate (n - answers.length) s

section FillSlots

variable {s : ε} {n : Nat} {answers : List ε}

theorem length_fillSlots (h : answers.length ≤ n) : (fillSlots s n answers).length = n := by
  simp only [fillSlots, length_append, length_replicate]
  omega

theorem getElem?_fillSlots (s : ε) (answers : List ε) {i : Nat} (hi : i < n) :
    (fillSlots s n answers)[i]? = some (answers[i]?.getD s) := by
  rcases Nat.lt_or_ge i answers.length with hlt | hge
  · rw [fillSlots, List.getElem?_append_left hlt]
    simp [List.getElem?_eq_getElem hlt]
  · rw [fillSlots, List.getElem?_append_right hge, List.getElem?_replicate, if_pos (by omega)]
    simp [List.getElem?_eq_none hge]

end FillSlots

section Order

variable [DecidableEq α] {walk request : List α} {answer : α → ε} {s : ε}

theorem idxOf_eq_of_fillSlots (hlen : walk.length ≤ request.length) (hnd : request.Nodup)
    (h : fillSlots s request.length (walk.map answer) = request.map answer) {x : α}
    (hx : x ∈ walk) (halone : ∀ y ∈ request, answer y = answer x → y = x) :
    walk.idxOf x = request.idxOf x := by
  have hlt := idxOf_lt_length_iff.mpr hx
  have hi : walk.idxOf x < request.length := Nat.lt_of_lt_of_le hlt hlen
  have hplace := getElem?_fillSlots s (walk.map answer) hi
  have hleft : (walk.map answer)[walk.idxOf x]? = some (answer x) := by
    simp [List.getElem?_eq_getElem hlt]
  rw [h, hleft, List.getElem?_map, List.getElem?_eq_getElem hi] at hplace
  have hsame := halone _ (getElem_mem hi) (Option.some.inj hplace)
  have hback := hnd.idxOf_getElem _ hi
  rw [hsame] at hback
  exact hback.symm

theorem fillSlots_eq_map (hlen : walk.length ≤ request.length) (hwalk : walk.Nodup)
    (hnd : request.Nodup) (hsub : ∀ x ∈ walk, x ∈ request)
    (h : ∀ x ∈ request, answer x ≠ s → x ∈ walk ∧ walk.idxOf x = request.idxOf x) :
    fillSlots s request.length (walk.map answer) = request.map answer := by
  apply ext_getElem?
  intro i
  rcases Nat.lt_or_ge i request.length with hi | hi
  · rw [getElem?_fillSlots s _ hi, List.getElem?_map, List.getElem?_map,
      List.getElem?_eq_getElem hi, Option.map_some, Option.some.injEq]
    by_cases hs : answer request[i] = s
    · cases hw : walk[i]? with
      | none => exact hs.symm
      | some x =>
        rw [hs, Option.map_some, Option.getD_some]
        by_contra hx
        obtain ⟨hiw, rfl⟩ := List.getElem?_eq_some_iff.mp hw
        have hin := hsub _ (getElem_mem hiw)
        obtain ⟨-, hidx⟩ := h _ hin hx
        rw [hwalk.idxOf_getElem] at hidx
        have hat := getElem_idxOf (idxOf_lt_length_iff.mpr hin)
        simp only [← hidx] at hat
        rw [hat] at hs
        exact hx hs
    · obtain ⟨hmem, hidx⟩ := h _ (getElem_mem hi) hs
      have hback := hnd.idxOf_getElem _ hi
      rw [hback] at hidx
      have hlt := idxOf_lt_length_iff.mpr hmem
      have hat := getElem_idxOf hlt
      simp only [hidx] at hlt hat
      rw [List.getElem?_eq_getElem hlt, hat]
      rfl
  · rw [List.getElem?_eq_none, List.getElem?_eq_none]
    · simpa using hi
    · rw [length_fillSlots (by simpa using hlen)]
      exact hi

end Order

section Ascending

variable {request : List Nat} {counted : Nat → Bool} {x : Nat}

/-- In an ascending list a thing's place is the number of smaller ones. -/
theorem idxOf_eq_length_filter (h : request.Pairwise (· < ·)) (hx : x ∈ request) :
    request.idxOf x = (request.filter (· < x)).length := by
  induction request with
  | nil => cases hx
  | cons y rest ih =>
    obtain ⟨hy, hrest⟩ := pairwise_cons.mp h
    rcases mem_cons.mp hx with rfl | hx
    · have hnone : rest.filter (· < x) = [] := by
        rw [filter_eq_nil_iff]
        intro z hz
        have hlt := hy z hz
        simp only [decide_eq_true_eq]
        omega
      simp [hnone]
    · have hlt := hy x hx
      rw [idxOf_cons_ne _ (Nat.ne_of_lt hlt), ih hrest hx]
      simp [hlt]

/-- What is left out of an ascending list moves `x` exactly if it is below. -/
theorem idxOf_filter_eq_iff (h : request.Pairwise (· < ·)) (hx : x ∈ request.filter counted) :
    (request.filter counted).idxOf x = request.idxOf x ↔
      ∀ y ∈ request, y < x → counted y = true := by
  rw [idxOf_eq_length_filter (h.filter _) hx, idxOf_eq_length_filter h (mem_filter.mp hx).1,
    filter_comm, length_filter_eq_length_iff]
  simp only [mem_filter, decide_eq_true_eq, and_imp]

end Ascending

end LocStack.Base
