/-
# `LocStack.Base.Chain` — pointer chains

A linked structure is a successor function `next : ι → Option ι` on the
nodes, `none` being the null pointer.  `Seg next p l q` says that from the
pointer `p` the links run through the nodes `l`, in this order, and arrive
at `q`; a list that ends is a segment with `q = none`.

A doubly linked list is two such chains: `next` runs through `l` from its
head, `prev` through `l.reverse` from its tail.

    Seg.concat      link a new node behind the last one
    Seg.unlink      cut one node out, wherever it stands
    walk            follow the links, with fuel for the loop
-/
import Mathlib.Data.List.Basic

namespace LocStack.Base

open List Function

variable {ι : Type*}

/-- From `p` the links run through `l` and arrive at `q`. -/
def Seg (next : ι → Option ι) : Option ι → List ι → Option ι → Prop
  | p, [], q => p = q
  | p, a :: l, q => p = some a ∧ Seg next (next a) l q

/-- The nodes met from `p` to the null pointer; `none` when the fuel is not
enough. -/
def walk (next : ι → Option ι) : Nat → Option ι → Option (List ι)
  | _, none => some []
  | 0, some _ => none
  | fuel + 1, some a => (walk next fuel (next a)).map (a :: ·)

section Segments

variable {next next' : ι → Option ι} {p q : Option ι} {l m : List ι}

@[simp] theorem seg_nil : Seg next p [] q ↔ p = q := Iff.rfl

variable {a : ι}

@[simp] theorem seg_cons : Seg next p (a :: l) q ↔ p = some a ∧ Seg next (next a) l q :=
  Iff.rfl

theorem seg_append : Seg next p (l ++ m) q ↔ ∃ r, Seg next p l r ∧ Seg next r m q := by
  induction l generalizing p with
  | nil =>
    constructor
    · exact fun h => ⟨p, rfl, h⟩
    · rintro ⟨r, rfl, h⟩
      exact h
  | cons a l ih =>
    constructor
    · rintro ⟨hp, h⟩
      obtain ⟨r, hl, hm⟩ := ih.mp h
      exact ⟨r, ⟨hp, hl⟩, hm⟩
    · rintro ⟨r, ⟨hp, hl⟩, hm⟩
      exact ⟨hp, ih.mpr ⟨r, hl, hm⟩⟩

/-- Only the links out of `l` matter. -/
theorem Seg.congr (h : Seg next p l q) (heq : ∀ a ∈ l, next' a = next a) : Seg next' p l q := by
  induction l generalizing p with
  | nil => exact h
  | cons a l ih =>
    refine ⟨h.1, ?_⟩
    rw [heq a mem_cons_self]
    exact ih h.2 fun b hb => heq b (mem_cons_of_mem _ hb)

/-- A link changed outside the segment. -/
theorem Seg.update [DecidableEq ι] (h : Seg next p l q) (ha : a ∉ l) (v : Option ι) :
    Seg (update next a v) p l q :=
  h.congr fun _ hb => update_of_ne (ne_of_mem_of_not_mem hb ha) _ _

theorem Seg.head_eq (h : Seg next p l none) : p = l.head? := by
  cases l with
  | nil => exact h
  | cons a l => exact h.1

theorem Seg.next_eq (h : Seg next p (l ++ a :: m) none) : next a = m.head? := by
  obtain ⟨r, -, -, hm⟩ := seg_append.mp h
  exact hm.head_eq

theorem walk_of_seg (h : Seg next p l none) {fuel : Nat} (hfuel : l.length ≤ fuel) :
    walk next fuel p = some l := by
  induction l generalizing p fuel with
  | nil =>
    obtain rfl : p = none := h
    cases fuel <;> rfl
  | cons a l ih =>
    obtain ⟨rfl, h⟩ := h
    cases fuel with
    | zero => exact absurd hfuel (by simp)
    | succ fuel =>
      show (walk next fuel (next a)).map (a :: ·) = _
      rw [ih h (Nat.le_of_succ_le_succ hfuel)]
      rfl

end Segments

section Links

variable [DecidableEq ι] {next : ι → Option ι} {p : Option ι} {pre post : List ι} {a b : ι}

theorem Seg.concat (h : Seg next p (pre ++ [a]) none) (hnodup : (pre ++ [a, b]).Nodup) :
    Seg (Function.update (Function.update next b none) a (some b)) p (pre ++ [a, b]) none := by
  obtain ⟨r, hpre, hr, -⟩ := seg_append.mp h
  have hdisj := (nodup_append.mp hnodup).2.2
  have ha : a ∉ pre := fun hmem => hdisj a hmem a mem_cons_self rfl
  have hb : b ∉ pre := fun hmem => hdisj b hmem b (by simp) rfl
  have hab : b ≠ a := by
    rintro rfl
    exact absurd (nodup_append.mp hnodup).2.1 (by simp)
  refine seg_append.mpr ⟨r, (hpre.update hb _).update ha _, hr, ?_⟩
  rw [update_self]
  refine ⟨rfl, ?_⟩
  rw [update_of_ne hab, update_self]
  rfl

/-- The pointer that leads to `a`, which is a link or the head, is made to
lead to what `a` leads to. -/
def unlinked (next : ι → Option ι) (before : Option ι) (a : ι) : ι → Option ι :=
  match before with
  | none => next
  | some b => update next b (next a)

theorem unlinked_apply (before : Option ι) (c : ι) :
    unlinked next before a c = if before = some c then next a else next c := by
  cases before with
  | none => rfl
  | some b =>
    by_cases hc : c = b
    · simp [unlinked, hc]
    · simp [unlinked, hc, Ne.symm hc]

theorem Seg.unlink (h : Seg next p (pre ++ a :: post) none)
    (hnodup : (pre ++ a :: post).Nodup) :
    Seg (unlinked next pre.getLast? a) (if pre = [] then next a else p) (pre ++ post) none := by
  rcases eq_nil_or_concat pre with rfl | ⟨init, b, rfl⟩
  · exact h.2
  · rw [concat_eq_append] at h hnodup ⊢
    rw [List.getLast?_concat, if_neg (by simp)]
    rw [append_assoc] at h hnodup ⊢
    obtain ⟨r, hinit, hr, -, hpost⟩ := seg_append.mp h
    obtain ⟨-, hrest, hdisj⟩ := nodup_append.mp hnodup
    have hb : b ∉ init := fun hmem => hdisj b hmem b mem_cons_self rfl
    have hbpost : b ∉ post := fun hmem =>
      (nodup_cons.mp hrest).1 (mem_cons_of_mem _ hmem)
    refine seg_append.mpr ⟨r, hinit.update hb _, hr, ?_⟩
    show Seg _ (Function.update next b (next a) b) post none
    rw [update_self]
    exact hpost.update hbpost _

end Links

end LocStack.Base
