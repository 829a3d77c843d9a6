/-
# `LocStack.Base.CString` — bytes, as the C library reads them

A buffer is a list of bytes; what is read behind its end is NUL, which is
how a C string ends.

    strncmpEq n a b    strncmp(a, b, n) == 0
    decimal n          std::to_string(n)
    paddedDecimal w n  snprintf of %0<w>d
    scanZu s           what sscanf(s, "%zu", ..) stores: blanks, a sign and
                       decimal digits, converted as strtoul does

`scanZu_take_decimal` reads a number back, also one that is cut off behind;
`length_digits_le_of_scanZu` bounds what a text of a given length can say.
-/
import Mathlib.Data.List.TakeWhile
import Mathlib.Data.Nat.Digits.Lemmas

namespace LocStack.Base

open List

/-- The bytes of an ASCII text. -/
def ascii (text : List Char) : List UInt8 := text.map Char.toUInt8

/-- `strncmp(a, b, n) == 0`: the comparison ends at a NUL. -/
def strncmpEq : Nat → List UInt8 → List UInt8 → Bool
  | 0, _, _ => true
  | n + 1, a, b =>
    if a.headD 0 ≠ b.headD 0 then false
    else if a.headD 0 = 0 then true
    else strncmpEq n a.tail b.tail

theorem strncmpEq_append_self (a b : List UInt8) : strncmpEq a.length (a ++ b) a = true := by
  induction a with
  | nil => rfl
  | cons c a ih =>
    show (if c ≠ c then false else if c = 0 then true else strncmpEq a.length (a ++ b) a) = true
    rw [if_neg (fun h => h rfl), ih]
    split <;> rfl

variable {a b ds s : List UInt8} {n d k width : Nat} {c : UInt8}

/-- What compares equal to all of a string without a NUL is not shorter. -/
theorem length_le_of_strncmpEq (hb : 0 ∉ b) (h : strncmpEq b.length a b = true) :
    b.length ≤ a.length := by
  induction b generalizing a with
  | nil => exact Nat.zero_le _
  | cons c b ih =>
    have hc : c ≠ 0 := fun hc => hb (hc ▸ mem_cons_self)
    cases a with
    | nil =>
      have hne : strncmpEq (c :: b).length [] (c :: b) = false := if_pos (Ne.symm hc)
      exact absurd (hne.symm.trans h) Bool.false_ne_true
    | cons e a =>
      change (if e ≠ c then false else if e = 0 then true else strncmpEq b.length a b) = true at h
      split at h
      · cases h
      · rename_i heq
        rw [not_not] at heq
        rw [if_neg (heq ▸ hc)] at h
        exact Nat.succ_le_succ (ih (fun hmem => hb (mem_cons_of_mem _ hmem)) h)

theorem strncmpEq_cons_ne {d : UInt8} (h : c ≠ d) :
    strncmpEq (n + 1) (c :: a) (d :: b) = false := if_pos h

/-! ## Decimal numbers -/

/-- The character of a digit. -/
def digitByte (d : Nat) : UInt8 := UInt8.ofNat (48 + d)

/-- `std::to_string`. -/
def decimal (n : Nat) : List UInt8 :=
  if n = 0 then [digitByte 0] else ((Nat.digits 10 n).map digitByte).reverse

def isDigit (c : UInt8) : Bool := 48 ≤ c.toNat && c.toNat ≤ 57

def isBlank (c : UInt8) : Bool := c.toNat == 32 || (9 ≤ c.toNat && c.toNat ≤ 13)

/-- The number that the digits say. -/
def decValue (ds : List UInt8) : Nat := ds.foldl (fun v c => 10 * v + (c.toNat - 48)) 0

/-- The sign and the digits that a text begins with, behind its blanks. -/
def numeral (s : List UInt8) : Bool × List UInt8 :=
  let s := s.dropWhile isBlank
  if s.head? = some 45 then (true, s.tail.takeWhile isDigit)
  else if s.head? = some 43 then (false, s.tail.takeWhile isDigit)
  else (false, s.takeWhile isDigit)

/-- The conversion of `strtoul`: what does not fit is clamped, and a minus
sign negates modulo the width. -/
def strtoul (negative : Bool) (ds : List UInt8) : Nat :=
  if 2 ^ 64 ≤ decValue ds then 2 ^ 64 - 1
  else if negative then (2 ^ 64 - decValue ds) % 2 ^ 64
  else decValue ds

/-- `sscanf(s, "%zu", ..)`; `none` when nothing is stored. -/
def scanZu (s : List UInt8) : Option Nat :=
  if (numeral s).2 = [] then none else some (strtoul (numeral s).1 (numeral s).2)

theorem toNat_digitByte (hd : d < 10) : (digitByte d).toNat = 48 + d := by
  unfold digitByte
  rw [UInt8.toNat_ofNat']
  omega

theorem isDigit_digitByte (hd : d < 10) : isDigit (digitByte d) = true := by
  unfold isDigit
  rw [toNat_digitByte hd]
  simp
  omega

theorem decValue_append (ds : List UInt8) (c : UInt8) :
    decValue (ds ++ [c]) = 10 * decValue ds + (c.toNat - 48) := by
  unfold decValue
  rw [foldl_append]
  rfl

/-- The digits, the least first, and their text. -/
theorem decValue_reverse_map {ds : List Nat} (hds : ∀ d ∈ ds, d < 10) :
    decValue (ds.map digitByte).reverse = Nat.ofDigits 10 ds := by
  induction ds with
  | nil => rfl
  | cons d ds ih =>
    rw [map_cons, reverse_cons, decValue_append, ih fun e he => hds e (mem_cons_of_mem _ he),
      toNat_digitByte (hds d mem_cons_self), Nat.ofDigits_cons]
    simp
    omega

theorem decValue_lt (hds : ∀ c ∈ ds, isDigit c = true) : decValue ds < 10 ^ ds.length := by
  induction ds using List.reverseRecOn with
  | nil => decide
  | append_singleton ds c ih =>
    have hc : isDigit c = true := hds c (mem_append_right _ mem_cons_self)
    have hrest := ih fun e he => hds e (mem_append_left _ he)
    unfold isDigit at hc
    simp at hc
    rw [decValue_append, length_append, length_singleton, Nat.pow_succ]
    omega

theorem length_decimal (hn : 0 < n) : (decimal n).length = (Nat.digits 10 n).length := by
  rw [decimal, if_neg (by omega), length_reverse, length_map]

theorem numeral_digits (hds : ∀ c ∈ ds, isDigit c = true) : numeral ds = (false, ds) := by
  cases ds with
  | nil => rfl
  | cons c ds =>
    have hc := hds c mem_cons_self
    unfold isDigit at hc
    simp at hc
    have hblank : isBlank c = false := by
      unfold isBlank
      simp
      omega
    have hminus : (c :: ds).head? ≠ some 45 := by
      rintro ⟨⟩
      exact absurd hc.1 (by decide)
    have hplus : (c :: ds).head? ≠ some 43 := by
      rintro ⟨⟩
      exact absurd hc.1 (by decide)
    have hdrop : (c :: ds).dropWhile isBlank = c :: ds :=
      dropWhile_cons_of_neg (by rw [hblank]; exact Bool.false_ne_true)
    unfold numeral
    rw [hdrop]
    simp only
    rw [if_neg hminus, if_neg hplus, takeWhile_eq_self_iff.mpr hds]

theorem numeral_sublist (s : List UInt8) : (numeral s).2.Sublist s := by
  have hdrop : (s.dropWhile isBlank).Sublist s := dropWhile_sublist _
  have htail := (tail_sublist (s.dropWhile isBlank)).trans hdrop
  unfold numeral
  simp only
  split
  · exact (takeWhile_sublist _).trans htail
  split
  · exact (takeWhile_sublist _).trans htail
  · exact (takeWhile_sublist _).trans hdrop

theorem isDigit_of_mem_numeral (hc : c ∈ (numeral s).2) : isDigit c = true := by
  unfold numeral at hc
  simp only at hc
  split at hc
  · exact mem_takeWhile_imp hc
  split at hc
  · exact mem_takeWhile_imp hc
  · exact mem_takeWhile_imp hc

theorem scanZu_take_decimal {i : Nat} (hn : 0 < n) (hwidth : n < 2 ^ 64)
    (hi : i < (decimal n).length) :
    scanZu ((decimal n).take ((decimal n).length - i)) = some (n / 10 ^ i) := by
  have hlen := length_decimal hn
  have hpos : n ≠ 0 := by omega
  have hds : ∀ d ∈ Nat.digits 10 n, d < 10 := fun d hd => Nat.digits_lt_base (by decide) hd
  have htake : (decimal n).take ((decimal n).length - i) =
      (((Nat.digits 10 n).drop i).map digitByte).reverse := by
    rw [hlen, decimal, if_neg hpos, take_reverse, length_map, map_drop]
    congr 2
    omega
  have hdrop : ∀ d ∈ (Nat.digits 10 n).drop i, d < 10 := fun d hd =>
    hds d (mem_of_mem_drop hd)
  have hall : ∀ c ∈ (((Nat.digits 10 n).drop i).map digitByte).reverse,
      ∃ d < 10, c = digitByte d := by
    intro c hc
    obtain ⟨d, hd, rfl⟩ := mem_map.mp (mem_reverse.mp hc)
    exact ⟨d, hdrop d hd, rfl⟩
  have hvalue : decValue (((Nat.digits 10 n).drop i).map digitByte).reverse = n / 10 ^ i := by
    rw [decValue_reverse_map hdrop]
    exact (Nat.self_div_pow_eq_ofDigits_drop i n (by decide)).symm
  have hne : (((Nat.digits 10 n).drop i).map digitByte).reverse ≠ [] := by
    intro hnil
    have hzero := congrArg List.length hnil
    rw [length_reverse, length_map, length_drop, length_nil] at hzero
    omega
  rw [htake]
  generalize (((Nat.digits 10 n).drop i).map digitByte).reverse = ds at hall hvalue hne ⊢
  have hdigit : ∀ c ∈ ds, isDigit c = true := fun c hc => by
    obtain ⟨d, hd, rfl⟩ := hall c hc
    exact isDigit_digitByte hd
  have hle : n / 10 ^ i ≤ n := Nat.div_le_self _ _
  rw [scanZu, numeral_digits hdigit, if_neg hne, strtoul, hvalue, if_neg (by omega)]
  rfl

/-- A text says a number of no more digits than it has characters, unless the
number is far from small: a sign can only negate modulo the width. -/
theorem length_digits_le_of_scanZu (h : scanZu s = some k) (hk : k < 2 ^ 32) :
    (Nat.digits 10 k).length ≤ s.length := by
  have hlen := (numeral_sublist s).length_le
  have hlt := decValue_lt fun c (hc : c ∈ (numeral s).2) => isDigit_of_mem_numeral hc
  refine le_trans ?_ hlen
  unfold scanZu at h
  split at h
  · cases h
  · obtain rfl := Option.some.inj h
    generalize (numeral s).1 = negative at hk ⊢
    generalize (numeral s).2 = ds at hlt hk ⊢
    refine (Nat.digits_length_le_iff (by decide) _).mpr ?_
    unfold strtoul at hk ⊢
    split
    · rw [if_pos (by assumption)] at hk
      omega
    · rename_i hfits
      rw [if_neg hfits] at hk
      cases negative with
      | false => exact hlt
      | true =>
        -- the negative of a small number is far from small
        simp only [if_true] at hk ⊢
        omega

/-! ## Padded numbers -/

/-- `%0<width>d`: the zeros stand behind the sign. -/
def paddedDecimal (width : Nat) (n : Int) : List UInt8 :=
  let digits := decimal n.natAbs
  if n < 0 then 45 :: (List.replicate (width - 1 - digits.length) (digitByte 0) ++ digits)
  else List.replicate (width - digits.length) (digitByte 0) ++ digits

theorem length_decimal_le (hk : 0 < k) (h : n < 10 ^ k) : (decimal n).length ≤ k := by
  unfold decimal
  split
  · exact hk
  · rw [length_reverse, length_map]
    exact (Nat.digits_length_le_iff (by decide) n).mpr h

theorem length_paddedDecimal_le {n : Int} (hk : 0 < k) (h : n.natAbs < 10 ^ k)
    (hwidth : width ≤ k + 1) : (paddedDecimal width n).length ≤ k + 1 := by
  have hdigits := length_decimal_le hk h
  unfold paddedDecimal
  split
  · simp only [length_cons, length_append, length_replicate]
    omega
  · simp only [length_append, length_replicate]
    omega

theorem length_paddedDecimal_nat_le (hk : 0 < k) (h : n < 10 ^ k) (hwidth : width ≤ k) :
    (paddedDecimal width n).length ≤ k := by
  have hdigits := length_decimal_le hk h
  unfold paddedDecimal
  rw [if_neg (by omega)]
  simp only [Int.natAbs_natCast, length_append, length_replicate]
  omega

/-- The character of a hexadecimal digit, a capital from ten on. -/
def hexByte (d : Nat) : UInt8 := if d < 10 then UInt8.ofNat (48 + d) else UInt8.ofNat (55 + d)

/-- `%X` -/
def hexadecimal (n : Nat) : List UInt8 :=
  if n = 0 then [hexByte 0] else ((Nat.digits 16 n).map hexByte).reverse

end LocStack.Base
