/-
# `LocStack.Utils.SplitString` — the strings of a string

loc_util_split_string ends the strings between the delimiters where they are and
points to them; loc_util_trim_space moves a string to the left over its blanks.
A C string is the list of its characters, without the NUL behind them.
-/
import LocStack.Base.CNumbers
import Mathlib.Data.List.DropRight

namespace LocStack.Utils

open Base List

/-- What is pointed to, and what is returned. -/
structure Split where
  split_strings : List (List Char)
  num_split_strings : ℕ
  deriving DecidableEq

/-- The loop over `rest`, with `left` turns to `raw_string_length`: `done` has
the strings that have ended, and `cur` what there is of the one that is last
pointed to. -/
def splitLoop (max_num_substrings : ℤ) (delimiter : Char) :
    ℕ → List (List Char) → List Char → List Char → Split
  | 0, done, cur, rest => ⟨done ++ [cur ++ rest], done.length⟩
  | _ + 1, done, cur, [] => ⟨done ++ [cur], done.length + 1⟩
  | left + 1, done, cur, c :: rest =>
    if c = delimiter then
      if left ≠ 0 ∧ done.length + 1 < max_num_substrings then
        splitLoop max_num_substrings delimiter left (done ++ [cur]) [] rest
      else ⟨done ++ [cur], done.length + 1⟩
    else splitLoop max_num_substrings delimiter left done (cur ++ [c]) rest

/-- An int: strlen + 1 -/
def raw_string_length (raw_string : List Char) : ℤ :=
  (raw_string.length + 1 : ℤ).bmod 4294967296

def loc_util_split_string (raw_string : List Char) (max_num_substrings : ℤ) (delimiter : Char) :
    Split :=
  splitLoop max_num_substrings delimiter (raw_string_length raw_string).toNat [] [] raw_string

/-- One turn of `loc_util_trim_space`: what is written, and how far there is
something that is not blank. -/
def trimOne (s : List Char × ℕ) (c : Char) : List Char × ℕ :=
  if isSpace c ∧ s.1 = [] then s else (s.1 ++ [c], if isSpace c then s.2 else s.1.length + 1)

def loc_util_trim_space (org_string : List Char) : List Char :=
  let s := org_string.foldl trimOne ([], 0)
  if s.2 = 0 then org_string else s.1.take s.2

/-! ## Blanks -/

section Trim

variable {s : List Char}

/-- Without the blanks at both ends. -/
def trimmed (s : List Char) : List Char := (s.dropWhile isSpace).rdropWhile isSpace

theorem foldl_trimOne (s : List Char) :
    s.foldl trimOne ([], 0) = (s.dropWhile isSpace, (trimmed s).length) := by
  induction s using reverseRecOn with
  | nil => rfl
  | append_singleton s c ih =>
    rw [foldl_append, ih, foldl_cons, foldl_nil, trimmed]
    by_cases hall : s.dropWhile isSpace = []
    · have hblank := dropWhile_eq_nil_iff.mp hall
      have hdrop : (s ++ [c]).dropWhile isSpace = [c].dropWhile isSpace :=
        dropWhile_append_of_pos hblank
      by_cases hc : isSpace c <;> simp [trimOne, trimmed, hall, hdrop, hc, rdropWhile_singleton]
    · have hdrop : (s ++ [c]).dropWhile isSpace = s.dropWhile isSpace ++ [c] := by
        rw [dropWhile_append, if_neg (by simpa using hall)]
      by_cases hc : isSpace c <;> simp [trimOne, trimmed, hall, hdrop, hc]

theorem trimmed_eq_nil_iff : trimmed s = [] ↔ ∀ c ∈ s, isSpace c := by
  rw [trimmed, rdropWhile_eq_nil_iff]
  constructor
  · intro h
    by_contra hnot
    have hne : s.dropWhile isSpace ≠ [] := fun h => hnot (dropWhile_eq_nil_iff.mp h)
    exact absurd (h _ (head_mem hne)) (by simpa using head_dropWhile_not isSpace hne)
  · intro h c hc
    exact h c ((dropWhile_sublist _).subset hc)

theorem trim_space_eq_iff :
    loc_util_trim_space s = trimmed s ↔ s = [] ∨ ¬ ∀ c ∈ s, isSpace c := by
  rw [← trimmed_eq_nil_iff, loc_util_trim_space, foldl_trimOne]
  by_cases h : trimmed s = []
  · simp [h]
  · have hprefix : trimmed s <+: s.dropWhile isSpace := rdropWhile_prefix _ _
    simp [h, ← prefix_iff_eq_take.mp hprefix]

end Trim

/-! ## The loop -/

section Loop

variable {delimiter : Char} {left m : ℕ} {done : List (List Char)} {cur rest : List Char}

/-- What the loop returns; its strings are the fields unless it ends before the
string does, and before there are as many as there may be. -/
theorem splitLoop_eq (hcur : delimiter ∉ cur) (hroom : done.length < m) :
    (splitLoop m delimiter left done cur rest).num_split_strings =
        min (done.length + (rest.take left).count delimiter +
          if rest.length < left then 1 else 0) m ∧
      (splitLoop m delimiter left done cur rest).split_strings.length ≤ m ∧
      (rest.length < left ∨ m ≤ done.length + (rest.take left).count delimiter →
        (splitLoop m delimiter left done cur rest).split_strings =
          (done ++ (cur ++ rest).splitOn delimiter).take m) := by
  induction left generalizing done cur rest with
  | zero =>
    simp only [splitLoop, take_zero, count_nil, length_append, length_singleton, Nat.not_lt_zero,
      if_false, false_or]
    omega
  | succ left ih =>
    cases rest with
    | nil =>
      have hone : (done ++ [cur]).length ≤ m := by
        rw [length_append, length_singleton]
        omega
      simp [splitLoop, splitOn_eq_singleton hcur, take_of_length_le hone]
      omega
    | cons c rest =>
      by_cases hc : c = delimiter
      · have hsplit : (cur ++ c :: rest).splitOn delimiter = cur :: rest.splitOn delimiter := by
          rw [hc, splitOn_append_cons_self_of_not_mem hcur]
        by_cases hmore : left ≠ 0 ∧ done.length + 1 < m
        · have hgo := @ih (done ++ [cur]) [] rest not_mem_nil (by simpa using hmore.2)
          have hcond : left ≠ 0 ∧ (done.length : ℤ) + 1 < m := by omega
          simp only [length_append, length_singleton, append_assoc, singleton_append,
            nil_append] at hgo
          simp only [splitLoop, hc, if_true, if_pos hcond, take_succ_cons, count_cons_self,
            length_cons, hc ▸ hsplit]
          refine ⟨hgo.1.trans ?_, hgo.2.1, fun h => hgo.2.2 (by omega)⟩
          simp only [Nat.add_lt_add_iff_right]
          omega
        · -- the bound, or the end of an int, is reached here
          have hcond : ¬ (left ≠ 0 ∧ (done.length : ℤ) + 1 < m) := by omega
          have hnone : left = 0 → (rest.take left).count delimiter = 0 ∧ ¬ rest.length < left := by
            rintro rfl
            simp
          simp only [splitLoop, hc, if_true, if_neg hcond, take_succ_cons, count_cons_self,
            length_cons, hc ▸ hsplit]
          refine ⟨by grind, by simpa using Nat.succ_le_of_lt hroom, fun h => ?_⟩
          have hm : m = (done ++ [cur]).length := by grind
          rw [hm, append_cons done cur (rest.splitOn delimiter), take_left]
      · have hgo := @ih done (cur ++ [c]) rest (by grind) hroom
        simp only [append_assoc, singleton_append] at hgo
        simpa [splitLoop, hc] using hgo

/-! ## The fields -/

/-- A caller that wants the strings trimmed does so for each of them. -/
def Split.strings (split : Split) (trim : Bool) : List (List Char) :=
  if trim then split.split_strings.map loc_util_trim_space else split.split_strings

/-- There are no more strings than there may be; they are the first fields, and
as many as is returned. -/
def SplitsRight (s : List Char) (max : ℤ) (delimiter : Char) (trim : Bool) : Prop :=
  let split := loc_util_split_string s max delimiter
  let fields := (s.splitOn delimiter).take max.toNat
  (split.split_strings.length : ℤ) ≤ max ∧
    (split.num_split_strings : ℤ) = min (s.count delimiter + 1 : ℤ) max ∧
    split.strings trim = if trim then fields.map trimmed else fields

/-- There may be one, the string is not longer than an int says or has as many
delimiters up to there, and no field of only blanks is to be trimmed. -/
def Fits (s : List Char) (max : ℤ) (delimiter : Char) (trim : Bool) : Prop :=
  1 ≤ max ∧ (s.length + 1 < 2147483648 ∨
      max ≤ (s.take (raw_string_length s).toNat).count delimiter) ∧
    (trim → ∀ f ∈ (s.splitOn delimiter).take max.toNat, f = [] ∨ ¬ ∀ c ∈ f, isSpace c)

theorem splitLoop_ne_nil {max : ℤ} :
    (splitLoop max delimiter left done cur rest).split_strings ≠ [] := by
  fun_induction splitLoop <;> simp_all

theorem lt_bmod_iff {n : ℕ} :
    n < ((n + 1 : ℤ).bmod 4294967296).toNat ↔ n + 1 < 2147483648 := by
  have hmod := @Int.bmod_def (n + 1) 4294967296
  omega

theorem lt_raw_string_length_iff {s : List Char} :
    s.length < (raw_string_length s).toNat ↔ s.length + 1 < 2147483648 :=
  lt_bmod_iff

theorem splitsRight_iff_fits (s : List Char) (max : ℤ) (delimiter : Char) (trim : Bool) :
    SplitsRight s max delimiter trim ↔ Fits s max delimiter trim := by
  have hpos : 0 < (loc_util_split_string s max delimiter).split_strings.length :=
    length_pos_of_ne_nil splitLoop_ne_nil
  by_cases hmax : 1 ≤ max
  · obtain ⟨m, rfl⟩ := Int.eq_ofNat_of_zero_le (by omega : 0 ≤ max)
    obtain ⟨hnum, hlength, hstrings⟩ := @splitLoop_eq delimiter (raw_string_length s).toNat m []
      [] s not_mem_nil (by simp; omega)
    have hcount := (take_sublist (raw_string_length s).toNat s).count_le delimiter
    simp only [length_nil, Nat.zero_add, nil_append, lt_raw_string_length_iff] at hnum hstrings
    have hends : (loc_util_split_string s m delimiter).num_split_strings =
        (min (s.count delimiter + 1 : ℤ) m) ↔ s.length + 1 < 2147483648 ∨
          (m : ℤ) ≤ (s.take (raw_string_length s).toNat).count delimiter := by
      rw [loc_util_split_string, hnum]
      by_cases hint : s.length + 1 < 2147483648
      · have htake := take_of_length_le (Nat.le_of_lt (lt_raw_string_length_iff.mpr hint))
        rw [if_pos hint, htake]
        omega
      · rw [if_neg hint]
        omega
    have htrim : s.length + 1 < 2147483648 ∨
          (m : ℤ) ≤ (s.take (raw_string_length s).toNat).count delimiter →
        (Split.strings (loc_util_split_string s m delimiter) trim =
            (if trim then ((s.splitOn delimiter).take m).map trimmed
              else (s.splitOn delimiter).take m) ↔
          (trim → ∀ f ∈ (s.splitOn delimiter).take m, f = [] ∨ ¬ ∀ c ∈ f, isSpace c)) := by
      intro h
      have heq := hstrings (h.imp_right Int.ofNat_le.mp)
      cases trim with
      | false => simp [Split.strings, loc_util_split_string, heq]
      | true =>
        simp only [Split.strings, loc_util_split_string, if_true, heq, map_inj_left,
          trim_space_eq_iff, forall_const]
    simp only [Fits, SplitsRight, and_iff_right hmax, Int.toNat_natCast]
    rw [← and_congr_right htrim, ← hends]
    exact and_iff_right (Int.ofNat_le.mpr hlength)
  · refine iff_of_false (fun h => ?_) fun h => hmax h.1
    have hle := h.1
    omega

end Loop

/-- A blank string is not trimmed. -/
theorem not_splitsRight_blank : ¬ SplitsRight ['a', ',', ' '] 20 ',' true := by
  rintro ⟨-, -, h⟩
  revert h
  decide

end LocStack.Utils
