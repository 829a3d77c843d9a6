/-
# `LocStack.Base.Find` — searching in strings

    find pat s pos       std::string::find: where `pat` first occurs in `s`, from `pos` on
    nthFrom c s n pos    from an occurrence of `c` at `pos` to the one `n` behind it

The one is decided by the text in front of what is found
(`find_append_cons`), the other by how many `c` stand in front of it
(`nthFrom_append_cons`).  Splitting at `c` gives a part more than there are
`c` (`length_splitOn`).
-/
import Mathlib.Data.List.Basic
import Mathlib.Data.List.Count

namespace LocStack.Base

open List

variable {α : Type*} [DecidableEq α] {pat s t : List α} {c : α} {i n : ℕ}

/-! ## Patterns -/

/-- The first occurrence. -/
def findIn (pat : List α) : List α → Option ℕ
  | [] => if pat <+: [] then some 0 else none
  | c :: s => if pat <+: c :: s then some 0 else (findIn pat s).map (· + 1)

def find (pat s : List α) (pos : ℕ) : Option ℕ := (findIn pat (s.drop pos)).map (pos + ·)

theorem findIn_eq_some_iff :
    findIn pat s = some i ↔ pat <+: s.drop i ∧ ∀ j < i, ¬ pat <+: s.drop j := by
  induction s generalizing i with
  | nil =>
    unfold findIn
    by_cases h : pat <+: []
    · rw [if_pos h, Option.some.injEq]
      constructor
      · rintro rfl
        exact ⟨h, fun j hj => absurd hj (Nat.not_lt_zero j)⟩
      · rintro ⟨-, hfirst⟩
        by_contra hne
        exact hfirst 0 (Nat.pos_of_ne_zero fun h => hne h.symm) h
    · rw [if_neg h]
      refine iff_of_false (Option.some_ne_none i).symm fun hocc => h ?_
      rw [drop_nil] at hocc
      exact hocc.1
  | cons c s ih =>
    unfold findIn
    by_cases h : pat <+: c :: s
    · rw [if_pos h, Option.some.injEq]
      constructor
      · rintro rfl
        exact ⟨h, fun j hj => absurd hj (Nat.not_lt_zero j)⟩
      · rintro ⟨-, hfirst⟩
        by_contra hne
        exact hfirst 0 (Nat.pos_of_ne_zero fun h => hne h.symm) h
    · rw [if_neg h, Option.map_eq_some_iff]
      constructor
      · rintro ⟨i, hi, rfl⟩
        obtain ⟨hocc, hfirst⟩ := ih.mp hi
        refine ⟨hocc, fun j hj => ?_⟩
        cases j with
        | zero => exact h
        | succ j => exact hfirst j (Nat.lt_of_succ_lt_succ hj)
      · rintro ⟨hocc, hfirst⟩
        cases i with
        | zero => exact absurd hocc h
        | succ i =>
          exact ⟨i, ih.mpr ⟨hocc, fun j hj => hfirst (j + 1) (Nat.succ_lt_succ hj)⟩, rfl⟩

theorem find_zero : find pat s 0 = findIn pat s := by
  unfold find
  rw [drop_zero]
  cases findIn pat s with
  | none => rfl
  | some i => exact congrArg some (Nat.zero_add i)

omit [DecidableEq α] in
/-- A pattern does not reach over a character that it does not have. -/
theorem prefix_of_prefix_append_cons (hc : c ∉ pat) (h : pat <+: s ++ c :: t) : pat <+: s := by
  induction s generalizing pat with
  | nil =>
    cases pat with
    | nil => exact nil_prefix
    | cons d pat => exact absurd (mem_cons.mpr (.inl (cons_prefix_cons.mp h).1.symm)) hc
  | cons e s ih =>
    cases pat with
    | nil => exact nil_prefix
    | cons d pat =>
      obtain ⟨heq, htail⟩ := cons_prefix_cons.mp h
      have hprefix := ih (fun hmem => hc (mem_cons_of_mem d hmem)) htail
      exact cons_prefix_cons.mpr ⟨heq, hprefix⟩

/-! ## Characters -/

theorem findIn_append_cons (h : c ∉ s) : findIn [c] (s ++ c :: t) = some s.length := by
  induction s with
  | nil => exact if_pos (cons_prefix_cons.mpr ⟨rfl, nil_prefix⟩)
  | cons d s ih =>
    have hne : ¬ [c] <+: d :: (s ++ c :: t) := fun hocc =>
      h (mem_cons.mpr (.inl (cons_prefix_cons.mp hocc).1))
    show (if [c] <+: d :: (s ++ c :: t) then some 0
      else (findIn [c] (s ++ c :: t)).map (· + 1)) = _
    rw [if_neg hne, ih fun hmem => h (mem_cons_of_mem d hmem)]
    rfl

theorem findIn_of_not_mem (h : c ∉ s) : findIn [c] s = none := by
  induction s with
  | nil => rfl
  | cons d s ih =>
    have hne : ¬ [c] <+: d :: s := fun hocc =>
      h (mem_cons.mpr (.inl (cons_prefix_cons.mp hocc).1))
    show (if [c] <+: d :: s then some 0 else (findIn [c] s).map (· + 1)) = none
    rw [if_neg hne, ih fun hmem => h (mem_cons_of_mem d hmem)]
    rfl

theorem mem_of_findIn (h : findIn [c] s = some i) : c ∈ s := by
  by_contra hnot
  cases (findIn_of_not_mem hnot).symm.trans h

/-- A character is found behind the text without it. -/
theorem find_append_cons (pre : List α) (h : c ∉ s) :
    find [c] (pre ++ (s ++ c :: t)) pre.length = some (pre.length + s.length) := by
  unfold find
  rw [drop_left, findIn_append_cons h]
  rfl

theorem find_append_of_not_mem (pre : List α) (h : c ∉ s) :
    find [c] (pre ++ s) pre.length = none := by
  unfold find
  rw [drop_left, findIn_of_not_mem h]
  rfl

/-! ## Counting characters -/

/-- What is found at last, and how many of the `n` are left then. -/
def nthFrom (c : α) (s : List α) : ℕ → Option ℕ → Option ℕ × ℕ
  | 0, pos => (pos, 0)
  | n + 1, none => (none, n + 1)
  | n + 1, some pos => nthFrom c s n (find [c] s (pos + 1))

/-- The first of more than `n` that has `n` in front of it. -/
theorem exists_append_cons_of_lt_count (h : n < s.count c) :
    ∃ a b, s = a ++ c :: b ∧ a.count c = n := by
  induction s generalizing n with
  | nil => exact absurd h (Nat.not_lt_zero n)
  | cons d s ih =>
    by_cases hd : d = c
    · subst hd
      cases n with
      | zero => exact ⟨[], s, rfl, rfl⟩
      | succ n =>
        rw [count_cons_self] at h
        obtain ⟨a, b, rfl, ha⟩ := ih (Nat.lt_of_succ_lt_succ h)
        exact ⟨d :: a, b, rfl, by rw [count_cons_self, ha]⟩
    · rw [count_cons_of_ne hd] at h
      obtain ⟨a, b, rfl, ha⟩ := ih h
      exact ⟨d :: a, b, rfl, by rw [count_cons_of_ne hd, ha]⟩

theorem exists_first_of_mem (h : c ∈ s) : ∃ a b, s = a ++ c :: b ∧ c ∉ a := by
  obtain ⟨a, b, hs, ha⟩ := exists_append_cons_of_lt_count (count_pos_iff.mpr h)
  exact ⟨a, b, hs, count_eq_zero.mp ha⟩

theorem nthFrom_append_cons {a b : List α} (pre : List α) (h : a.count c = n) :
    nthFrom c (pre ++ (a ++ c :: b)) n (find [c] (pre ++ (a ++ c :: b)) pre.length) =
      (some (pre.length + a.length), 0) := by
  induction n generalizing pre a with
  | zero =>
    rw [find_append_cons pre (count_eq_zero.mp h)]
    rfl
  | succ n ih =>
    have hmem : c ∈ a := count_pos_iff.mp (h ▸ Nat.succ_pos n)
    obtain ⟨d, a, rfl, hd⟩ := exists_first_of_mem hmem
    rw [count_append, count_eq_zero.mpr hd, count_cons_self, Nat.zero_add] at h
    have hrest := ih (pre ++ (d ++ [c])) (Nat.succ.inj h)
    simp only [append_assoc, cons_append, nil_append, length_append,
      length_cons, length_nil] at hrest ⊢
    rw [find_append_cons pre hd]
    show nthFrom c _ n (find [c] _ (pre.length + d.length + 1)) = _
    rw [Nat.add_assoc pre.length d.length 1]
    refine hrest.trans ?_
    rw [Nat.add_assoc, Nat.add_assoc, Nat.add_comm 1]

theorem nthFrom_of_count_le (pre : List α) (h : s.count c ≤ n) :
    nthFrom c (pre ++ s) n (find [c] (pre ++ s) pre.length) = (none, n - s.count c) := by
  induction n generalizing pre s with
  | zero =>
    rw [find_append_of_not_mem pre (count_eq_zero.mp (Nat.le_zero.mp h)), Nat.zero_sub]
    rfl
  | succ n ih =>
    by_cases hmem : c ∈ s
    · obtain ⟨d, s, rfl, hd⟩ := exists_first_of_mem hmem
      rw [count_append, count_eq_zero.mpr hd, count_cons_self, Nat.zero_add] at h ⊢
      have hrest := ih (pre ++ (d ++ [c])) (Nat.le_of_succ_le_succ h)
      simp only [append_assoc, cons_append, nil_append, length_append,
        length_cons, length_nil] at hrest ⊢
      rw [find_append_cons pre hd]
      show nthFrom c _ n (find [c] _ (pre.length + d.length + 1)) = _
      rw [Nat.add_assoc pre.length d.length 1, Nat.succ_sub_succ]
      exact hrest
    · rw [find_append_of_not_mem pre hmem, count_eq_zero.mpr hmem]
      rfl

theorem length_splitOn (c : α) (s : List α) : (s.splitOn c).length = s.count c + 1 := by
  induction s with
  | nil => rfl
  | cons d s ih =>
    rw [splitOn_cons_eq_if_modifyHead]
    by_cases hd : d = c
    · rw [if_pos (beq_iff_eq.mpr hd), length_cons, ih, hd, count_cons_self]
    · rw [if_neg fun h => hd (beq_iff_eq.mp h), length_modifyHead, ih, count_cons_of_ne hd]

/-- The part between two of them. -/
theorem getElem?_splitOn {a q b : List α} (hq : c ∉ q) :
    ((a ++ c :: (q ++ c :: b)).splitOn c)[a.count c + 1]? = some q := by
  rw [splitOn_append_cons_self, splitOn_append_cons_self_of_not_mem hq,
    ← length_splitOn, List.getElem?_append_right (Nat.le_refl _), Nat.sub_self]
  rfl

end LocStack.Base
