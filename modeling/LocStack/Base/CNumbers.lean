/-
# `LocStack.Base.CNumbers` — numbers, as the C library reads them

    number radix s       what the text s begins with, blanks, sign and 0x skipped
    strtol, strtoull     the same, bounded by the type
    atoi                 (int) strtol

Each of them is the number of the text if the types on the way can hold it, and
not otherwise (`toNat_strtol_iff`, `toNat_atoi_iff`, `toInt_atoi_iff`,
`toNat_strtoull_iff`).  How wide a `long` is, and what `atof` does, is left to
the library (`CLib`).

A number that is not whole is made an integer by leaving out what is behind the
point (`truncate`).
-/
import Mathlib.Algebra.Order.Ring.Int

namespace LocStack.Base

/-! ## Texts -/

def isSpace (c : Char) : Bool := c = ' ' ∨ ('\t' ≤ c ∧ c ≤ '\r')

/-- 36 for what is no digit. -/
def digitValue (c : Char) : ℕ :=
  if '0' ≤ c ∧ c ≤ '9' then c.toNat - 48
  else if 'a' ≤ c ∧ c ≤ 'z' then c.toNat - 87
  else if 'A' ≤ c ∧ c ≤ 'Z' then c.toNat - 55
  else 36

/-- The number of the digits that come first. -/
def magnitude (radix : ℕ) (s : List Char) : ℕ :=
  ((s.map digitValue).takeWhile (· < radix)).foldl (fun v d => radix * v + d) 0

/-- Behind `0x`. -/
def skipPrefix (radix : ℕ) (s : List Char) : List Char :=
  match s with
  | '0' :: x :: d :: rest =>
    if radix = 16 ∧ (x = 'x' ∨ x = 'X') ∧ digitValue d < 16 then d :: rest else s
  | s => s

def number (radix : ℕ) (s : List Char) : ℤ :=
  match s.dropWhile isSpace with
  | '-' :: s => -magnitude radix (skipPrefix radix s)
  | '+' :: s => magnitude radix (skipPrefix radix s)
  | s => magnitude radix (skipPrefix radix s)

/-! ## Types -/

/-- What a C library has of its own. -/
structure CLib where
  /-- LONG_MAX -/
  longMax : ℤ
  int_le : 2147483647 ≤ longMax
  atof : List Char → Float

def strtoull (radix : ℕ) (s : List Char) : BitVec 64 :=
  if (number radix s).natAbs < 18446744073709551616 then BitVec.ofInt 64 (number radix s)
  else BitVec.allOnes 64

namespace CLib

variable (C : CLib)

def strtol (radix : ℕ) (s : List Char) : ℤ :=
  max (-C.longMax - 1) (min (number radix s) C.longMax)

def atoi (s : List Char) : BitVec 32 := BitVec.ofInt 32 (C.strtol 10 s)

variable {C} {w radix : ℕ} {s : List Char}

theorem toNat_ofInt_eq (i : ℤ) : ((BitVec.ofInt w i).toNat : ℤ) = i % 2 ^ w := by
  have hpos : (0 : ℤ) < 2 ^ w := pow_pos (by decide) w
  have hcast : ((2 ^ w : ℕ) : ℤ) = 2 ^ w := Nat.cast_pow 2 w
  rw [BitVec.toNat_ofInt, Int.toNat_of_nonneg]
  · rw [hcast]
  · rw [hcast]
    exact Int.emod_nonneg i hpos.ne'

/-- An unsigned word of what strtol returns. -/
theorem toNat_strtol_iff : ((BitVec.ofInt w (C.strtol radix s)).toNat : ℤ) = number radix s ↔
      0 ≤ number radix s ∧ number radix s < 2 ^ w ∧ number radix s ≤ C.longMax := by
  have hlong := C.int_le
  have hpos : (0 : ℤ) < 2 ^ w := pow_pos (by decide) w
  rw [toNat_ofInt_eq]
  unfold strtol
  generalize number radix s = v
  constructor
  · intro h
    have hnonneg : 0 ≤ v := h ▸ Int.emod_nonneg _ hpos.ne'
    have hlt : v < 2 ^ w := h ▸ Int.emod_lt_of_pos _ hpos
    refine ⟨hnonneg, hlt, ?_⟩
    by_contra hgt
    -- what is too large for a long is read as LONG_MAX, which the word can hold
    rw [min_eq_right (by omega), max_eq_right (by omega), Int.emod_eq_of_lt (by omega)
      (by omega)] at h
    omega
  · rintro ⟨hnonneg, hlt, hle⟩
    rw [min_eq_left hle, max_eq_right (by omega), Int.emod_eq_of_lt hnonneg hlt]

theorem setWidth_atoi (hw : w ≤ 32) :
    (C.atoi s).setWidth w = BitVec.ofInt w (C.strtol 10 s) := by
  apply BitVec.eq_of_toNat_eq
  apply Int.ofNat_inj.mp
  unfold atoi
  rw [BitVec.toNat_setWidth, Int.natCast_emod, toNat_ofInt_eq, toNat_ofInt_eq, Nat.cast_pow]
  exact Int.emod_emod_of_dvd _ (pow_dvd_pow 2 hw)

theorem toNat_atoi_iff (hw : w ≤ 32) : (((C.atoi s).setWidth w).toNat : ℤ) = number 10 s ↔
      0 ≤ number 10 s ∧ number 10 s < 2 ^ w ∧ number 10 s ≤ C.longMax := by
  rw [setWidth_atoi hw]
  exact toNat_strtol_iff

theorem toInt_atoi_iff :
    (C.atoi s).toInt = number 10 s ↔ -2147483648 ≤ number 10 s ∧ number 10 s ≤ 2147483647 := by
  have hlong := C.int_le
  unfold atoi strtol
  rw [BitVec.toInt_ofInt]
  generalize number 10 s = v
  constructor
  · intro h
    have hle := Int.le_bmod (x := max (-C.longMax - 1) (min v C.longMax)) (m := 2 ^ 32) (by decide)
    have hlt := Int.bmod_lt (x := max (-C.longMax - 1) (min v C.longMax)) (m := 2 ^ 32) (by decide)
    rw [h] at hle hlt
    constructor <;> omega
  · rintro ⟨hle, hlt⟩
    rw [min_eq_left (by omega), max_eq_right (by omega)]
    exact Int.bmod_eq_of_le (by omega) (by omega)

end CLib

theorem toNat_strtoull_iff {radix : ℕ} {s : List Char} :
    ((strtoull radix s).toNat : ℤ) = number radix s ↔
      0 ≤ number radix s ∧ number radix s < 18446744073709551616 := by
  unfold strtoull
  split
  · rename_i hlt
    rw [CLib.toNat_ofInt_eq]
    constructor
    · intro h
      rw [← h]
      exact ⟨Int.emod_nonneg _ (by decide), Int.emod_lt_of_pos _ (by decide)⟩
    · rintro ⟨hnonneg, hbound⟩
      exact Int.emod_eq_of_lt hnonneg hbound
  · rename_i hge
    refine iff_of_false (fun h => ?_) fun h => hge (by omega)
    have htop : ((BitVec.allOnes 64).toNat : ℤ) = 18446744073709551615 := rfl
    rw [htop] at h
    omega

/-! ## From floating point -/

/-- The conversion to an integer type, towards zero. -/
def truncate (x : Rat) : ℤ := x.num.tdiv x.den

theorem truncate_of_nonneg {x : Rat} (h : 0 ≤ x) : truncate x = x.floor := by
  rw [truncate, Rat.floor_def, Int.tdiv_eq_ediv_of_nonneg (Rat.num_nonneg.mpr h)]

end LocStack.Base
