/-
# `LocStack.Base.Masks` — families of words of bits

A structure whose members are all masks is a word for each of their names
(`Masks`), and says which numbers are in which of them (`Masks.Has`).

    add       one bit in one mask
    addAll    the same bit in several
    shl       1 << n, which is undefined if n is negative or not below the width

A loop that adds to what has been found finds what one of its turns finds
(`found_foldlM`).
-/
import Mathlib.Data.List.Basic
import Mathlib.Data.Int.Notation

namespace LocStack.Base

open List

variable {ι : Type*} {w n k : ℕ} {i j : ι}

/-! ## Shifts -/

/-- `1 << count` in a word of `w` bits. -/
def shl (w : ℕ) (count : ℤ) : Option (BitVec w) :=
  if 0 ≤ count ∧ count < w then some (BitVec.twoPow w count.toNat) else none

theorem shl_natCast (hn : n < w) : shl w n = some (BitVec.twoPow w n) :=
  if_pos ⟨Int.natCast_nonneg n, Int.ofNat_lt.mpr hn⟩

theorem getLsbD_twoPow_iff (hn : n < w) : (BitVec.twoPow w n).getLsbD k = true ↔ k = n := by
  rw [BitVec.getLsbD_twoPow, Bool.and_eq_true, decide_eq_true_eq, decide_eq_true_eq]
  exact ⟨fun h => h.2.symm, fun h => ⟨hn, h.symm⟩⟩

theorem and_twoPow_ne_zero (m : BitVec w) (hk : k < w) :
    m &&& BitVec.twoPow w k ≠ 0#w ↔ m.getLsbD k = true := by
  rw [BitVec.and_twoPow]
  cases m.getLsbD k with
  | false => exact iff_of_false (not_not_intro rfl) Bool.false_ne_true
  | true =>
    refine iff_of_true (fun hzero => ?_) rfl
    have hbit := (getLsbD_twoPow_iff hk).mpr rfl
    rw [if_pos rfl] at hzero
    rw [hzero, BitVec.getLsbD_zero] at hbit
    cases hbit

theorem twoPow_inj (hn : n < w) (hk : k < w) :
    BitVec.twoPow w n = BitVec.twoPow w k ↔ n = k := by
  constructor
  · intro h
    have hbit := (getLsbD_twoPow_iff hn).mpr rfl
    rw [h] at hbit
    exact (getLsbD_twoPow_iff hk).mp hbit
  · rintro rfl
    rfl

theorem twoPow_and_twoPow_ne_zero (hn : n < w) (hk : k < w) :
    BitVec.twoPow w n &&& BitVec.twoPow w k ≠ 0#w ↔ BitVec.twoPow w n = BitVec.twoPow w k := by
  rw [and_twoPow_ne_zero _ hk, getLsbD_twoPow_iff hn, twoPow_inj hn hk]
  exact eq_comm

theorem getLsbD_foldl_or {β : Type*} (word : β → BitVec w) (rows : List β) {m : BitVec w} :
    (rows.foldl (fun mask row => mask ||| word row) m).getLsbD k = true ↔
      m.getLsbD k = true ∨ ∃ row ∈ rows, (word row).getLsbD k = true := by
  induction rows generalizing m with
  | nil => exact (or_iff_left fun ⟨_, hmem, _⟩ => not_mem_nil hmem).symm
  | cons row rows ih =>
    rw [foldl_cons, ih, BitVec.getLsbD_or, Bool.or_eq_true, or_assoc, exists_mem_cons_iff]

/-! ## Families -/

abbrev Masks (ι : Type*) (w : ℕ) : Type _ := ι → BitVec w

namespace Masks

variable [DecidableEq ι] {a : Masks ι w}

def none : Masks ι w := fun _ => 0#w

def add (a : Masks ι w) (i : ι) (bit : BitVec w) : Masks ι w :=
  Function.update a i (a i ||| bit)

def addAll (a : Masks ι w) (is : List ι) (bit : BitVec w) : Masks ι w :=
  is.foldl (fun a i => add a i bit) a

/-- The number is in the mask of that name. -/
def Has (a : Masks ι w) (i : ι) (k : ℕ) : Prop := (a i).getLsbD k = true

omit [DecidableEq ι] in
theorem not_has_none : ¬ Has (none : Masks ι w) i k := by
  show ¬ (0#w).getLsbD k = true
  rw [BitVec.getLsbD_zero]
  exact Bool.false_ne_true

theorem has_add (hn : n < w) :
    Has (add a i (BitVec.twoPow w n)) j k ↔ Has a j k ∨ (j = i ∧ k = n) := by
  unfold Has add
  rcases eq_or_ne j i with rfl | hne
  · rw [Function.update_self, BitVec.getLsbD_or, Bool.or_eq_true, getLsbD_twoPow_iff hn,
      and_iff_right rfl]
  · rw [Function.update_of_ne hne, or_iff_left fun h => hne h.1]

theorem has_addAll (hn : n < w) (is : List ι) :
    Has (addAll a is (BitVec.twoPow w n)) j k ↔ Has a j k ∨ (j ∈ is ∧ k = n) := by
  induction is generalizing a with
  | nil => exact (or_iff_left fun h => not_mem_nil h.1).symm
  | cons i is ih =>
    show Has (addAll (add a i (BitVec.twoPow w n)) is (BitVec.twoPow w n)) j k ↔ _
    rw [ih, has_add hn, or_assoc, mem_cons, or_and_right]

end Masks

/-! ## Loops that find -/

section Found

variable {σ ε κ : Type*} {f : σ → ε → Option σ} {Has : σ → κ → Prop} {At : ε → κ → Prop}
  {es : List ε}

theorem found_foldlM (hf : ∀ s, ∀ e ∈ es, ∃ s', f s e = some s' ∧ ∀ x, Has s' x ↔ Has s x ∨ At e x)
    (s : σ) : ∃ s', es.foldlM f s = some s' ∧ ∀ x, Has s' x ↔ Has s x ∨ ∃ e ∈ es, At e x := by
  induction es generalizing s with
  | nil => exact ⟨s, rfl, fun x => (or_iff_left fun ⟨_, he, _⟩ => not_mem_nil he).symm⟩
  | cons e es ih =>
    obtain ⟨s₁, hs₁, hhas₁⟩ := hf s e (mem_cons_self ..)
    obtain ⟨s₂, hs₂, hhas₂⟩ := ih (fun s e' he' => hf s e' (mem_cons_of_mem _ he')) s₁
    refine ⟨s₂, ?_, fun x => ?_⟩
    · rw [foldlM_cons, hs₁]
      exact hs₂
    · rw [hhas₂, hhas₁, or_assoc, exists_mem_cons_iff]

/-- A turn that fails ends the loop. -/
theorem foldlM_eq_none {e : ε} (he : e ∈ es) (hf : ∀ s, f s e = Option.none) (s : σ) :
    es.foldlM f s = Option.none := by
  induction es generalizing s with
  | nil => exact absurd he not_mem_nil
  | cons e' es ih =>
    rw [foldlM_cons]
    rcases mem_cons.mp he with rfl | he
    · rw [hf]
      rfl
    · cases f s e' with
      | none => rfl
      | some s' => exact ih he s'

end Found

end LocStack.Base
