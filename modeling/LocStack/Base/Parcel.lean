/-
# `LocStack.Base.Parcel` — what is written into an untyped stream, and read from it

A parcel is a sequence of bytes with objects between them.  Nothing in it
says what kind of item comes next, so that what is read depends on how much
was read before:

    int32, int64    4 or 8 bytes, the least significant first
    cstring         the bytes, a NUL, and zeros up to a multiple of 4
    object          one cell

A scalar that is not there is read as 0, a string or an object as `none`, and
nothing is skipped then.

`Undoes read x items`: `read` gives back `x` where the items were written, and
leaves what follows.  It is closed under reading one item and going on
(`Undoes.cons`), so that a reader is checked against a writer item by item.
-/
import Mathlib.Algebra.Group.Nat.Defs
import Mathlib.Data.List.TakeWhile

namespace LocStack.Base

open List

/-- A C string: it has no NUL in it. -/
abbrev CStr := { s : List UInt8 // 0 ∉ s }

/-! ## Bytes of a number -/

/-- The `n` least significant bytes, the least significant first. -/
def leBytes : Nat → Nat → List UInt8
  | 0, _ => []
  | n + 1, v => UInt8.ofNat v :: leBytes n (v / 256)

def leValue : List UInt8 → Nat
  | [] => 0
  | b :: bs => b.toNat + 256 * leValue bs

@[simp] theorem length_leBytes (n v : Nat) : (leBytes n v).length = n := by
  induction n generalizing v with
  | zero => rfl
  | succ n ih => exact congrArg (· + 1) (ih _)

theorem leValue_leBytes {n v : Nat} (h : v < 256 ^ n) : leValue (leBytes n v) = v := by
  induction n generalizing v with
  | zero => exact (Nat.lt_one_iff.mp h).symm
  | succ n ih =>
    have hdiv : v / 256 < 256 ^ n :=
      Nat.div_lt_of_lt_mul (by rw [Nat.pow_succ'] at h; exact h)
    show (UInt8.ofNat v).toNat + 256 * leValue (leBytes n (v / 256)) = v
    rw [ih hdiv, UInt8.toNat_ofNat']
    exact Nat.mod_add_div v 256

/-! ## Parcels -/

variable {ο α β : Type}

inductive Cell (ο : Type) where
  | byte (b : UInt8)
  | object (x : ο)

def Cell.byte? : Cell ο → Option UInt8
  | .byte b => some b
  | .object _ => none

abbrev Parcel (ο : Type) := List (Cell ο)

inductive Item (ο : Type) where
  | int32 (v : Int32)
  | int64 (v : Int64)
  | cstring (s : CStr)
  | object (x : ο)

/-- A size that is rounded up to a multiple of 4. -/
def padSize (n : Nat) : Nat := n + (4 - n % 4) % 4

def Item.cells : Item ο → Parcel ο
  | .int32 v => (leBytes 4 v.toUInt32.toNat).map .byte
  | .int64 v => (leBytes 8 v.toUInt64.toNat).map .byte
  | .cstring s =>
    (s.val ++ List.replicate (padSize (s.val.length + 1) - s.val.length) 0).map .byte
  | .object x => [.object x]

namespace Parcel

def write (items : List (Item ο)) : Parcel ο := items.flatMap Item.cells

/-! ## Reading -/

abbrev Reads (ο α : Type) := StateM (Parcel ο) α

/-- A number of `n` bytes. -/
def readScalar (n : Nat) : Reads ο Nat := fun p =>
  match (p.take n).mapM Cell.byte? with
  | some bs => if bs.length = n then (leValue bs, p.drop n) else (0, p)
  | none => (0, p)

def readInt32 : Reads ο Int32 := (fun n => (UInt32.ofNat n).toInt32) <$> readScalar 4

def readInt64 : Reads ο Int64 := (fun n => (UInt64.ofNat n).toInt64) <$> readScalar 8

/-- The bytes up to the first NUL. -/
def untilNul (p : Parcel ο) : CStr :=
  ⟨(p.map Cell.byte?).reduceOption.takeWhile (· ≠ 0),
    fun h => absurd (mem_takeWhile_imp h) (by decide)⟩

def readCString : Reads ο (Option CStr) := fun p =>
  let s := untilNul p
  if p[s.val.length]?.bind Cell.byte? = some 0 then
    (some s, p.drop (padSize (s.val.length + 1)))
  else (none, p)

def readObject : Reads ο (Option ο)
  | .object x :: p => (some x, p)
  | p => (none, p)

/-! ## What a read gives back -/

/-- `read` gives back `x` where `items` were written, whatever follows. -/
def Undoes (read : Reads ο α) (x : α) (items : List (Item ο)) : Prop :=
  ∀ p, read (write items ++ p) = (x, p)

theorem Undoes.pure (x : α) : Undoes (Pure.pure x : Reads ο α) x [] := fun _ => rfl

theorem Undoes.cons {read : Reads ο α} {next : α → Reads ο β} {x : α} {y : β} {item : Item ο}
    {items : List (Item ο)} (h : Undoes read x [item]) (hnext : Undoes (next x) y items) :
    Undoes (read >>= next) y (item :: items) := by
  intro p
  have hcells : write (item :: items) ++ p = write [item] ++ (write items ++ p) := by
    unfold write
    rw [flatMap_cons, flatMap_cons, flatMap_nil, append_nil, append_assoc]
  show (match read (write (item :: items) ++ p) with | (a, q) => next a q) = (y, p)
  rw [hcells, h]
  exact hnext p

theorem mapM_byte (bs : List UInt8) : (bs.map (Cell.byte (ο := ο))).mapM Cell.byte? = some bs := by
  induction bs with
  | nil => rfl
  | cons b bs ih => rw [map_cons, mapM_cons, ih]; rfl

theorem readScalar_append {n v : Nat} (h : v < 256 ^ n) (p : Parcel ο) :
    readScalar n ((leBytes n v).map .byte ++ p) = (v, p) := by
  have hlen : ((leBytes n v).map (Cell.byte (ο := ο))).length = n := by
    rw [length_map, length_leBytes]
  unfold readScalar
  rw [take_left' hlen, drop_left' hlen, mapM_byte]
  simp only [length_leBytes, if_true, leValue_leBytes h]

theorem write_singleton (item : Item ο) : write [item] = item.cells := append_nil _

theorem map_apply (f : α → β) (read : Reads ο α) (p : Parcel ο) :
    (f <$> read) p = (f (read p).1, (read p).2) := rfl

theorem undoes_int32 (v : Int32) : Undoes (readInt32 : Reads ο Int32) v [.int32 v] := by
  intro p
  have hlt : v.toUInt32.toNat < 256 ^ 4 := v.toUInt32.toNat_lt.trans_eq (by decide)
  rw [write_singleton, Item.cells, readInt32, map_apply, readScalar_append hlt,
    UInt32.ofNat_toNat, Int32.toInt32_toUInt32]

theorem undoes_int64 (v : Int64) : Undoes (readInt64 : Reads ο Int64) v [.int64 v] := by
  intro p
  have hlt : v.toUInt64.toNat < 256 ^ 8 := v.toUInt64.toNat_lt.trans_eq (by decide)
  rw [write_singleton, Item.cells, readInt64, map_apply, readScalar_append hlt,
    UInt64.ofNat_toNat, Int64.toInt64_toUInt64]

theorem reduceOption_byte (bs : List UInt8) (p : Parcel ο) :
    ((bs.map Cell.byte ++ p).map Cell.byte?).reduceOption =
      bs ++ (p.map Cell.byte?).reduceOption := by
  induction bs with
  | nil => rfl
  | cons b bs ih => exact congrArg (b :: ·) ih

theorem lt_padSize (n : Nat) : n < padSize (n + 1) := by
  unfold padSize
  omega

theorem untilNul_append (s : CStr) (k : Nat) (p : Parcel ο) :
    untilNul ((s.val ++ List.replicate (k + 1) 0).map Cell.byte ++ p) = s := by
  refine Subtype.ext ?_
  unfold untilNul
  simp only [reduceOption_byte, append_assoc]
  rw [takeWhile_append_of_pos]
  · exact append_nil _
  · intro b hb
    exact decide_eq_true fun h0 => s.property (h0 ▸ hb)

/-- The string ends at the NUL that is written behind it. -/
theorem undoes_cstring (s : CStr) : Undoes (readCString : Reads ο (Option CStr)) (some s)
    [.cstring s] := by
  intro p
  obtain ⟨k, hk⟩ := Nat.exists_eq_add_of_lt (lt_padSize s.val.length)
  have hpad : padSize (s.val.length + 1) - s.val.length = k + 1 := by omega
  have hlen : ((s.val ++ List.replicate (k + 1) 0).map (Cell.byte (ο := ο))).length =
      padSize (s.val.length + 1) := by
    rw [length_map, length_append, length_replicate, ← Nat.add_assoc, hk]
  rw [write_singleton, Item.cells, hpad]
  unfold readCString
  simp only [untilNul_append]
  rw [drop_left' hlen, if_pos]
  rw [map_append, append_assoc, List.getElem?_append_right (by simp)]
  simp [replicate_succ, Cell.byte?]

end Parcel

end LocStack.Base
