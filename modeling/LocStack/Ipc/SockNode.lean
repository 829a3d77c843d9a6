/-
# `LocStack.Ipc.SockNode` — the names of sockets in LocationApiMsg.h

`SockNode::create` looks for the second dot from the right, and reads the two ids
behind it; what is in front of it is the prefix.  Through the overload for a
string the search begins at the terminator, through the other one in front of it.
-/
import LocStack.Base.CString
import Mathlib.Data.Int.Init

namespace LocStack.Ipc

open Base List

structure SockNode where
  (mId1 mId2 : BitVec 32)
  mNodePathnamePrefix : List UInt8
  deriving DecidableEq

/-- `std::to_string` of an int. -/
def to_string (i : BitVec 32) : List UInt8 :=
  if i.toInt < 0 then 45 :: decimal i.toInt.natAbs else decimal i.toInt.natAbs

def SockNode.getNodePathname (node : SockNode) : List UInt8 :=
  node.mNodePathnamePrefix ++ 46 :: (to_string node.mId1 ++ 46 :: to_string node.mId2)

/-- Behind the blanks, the sign and the digits. -/
def afterNumeral (s : List UInt8) : List UInt8 :=
  ((s.dropWhile isBlank).dropWhile (fun c => c = 45 ∨ c = 43)).dropWhile isDigit

/-- `%d`: the number, converted as strtol does, and what is behind it. -/
def scanD (s : List UInt8) : Option (BitVec 32 × List UInt8) :=
  let (negative, ds) := numeral s
  let value : Int := if negative then -decValue ds else decValue ds
  if ds = [] then none
  else some (BitVec.ofInt 32 (max (-9223372036854775808) (min value 9223372036854775807)),
    afterNumeral s)

/-- `sscanf(s, "%d.%d", ..)`, from -1 and -1 -/
def scanIds (s : List UInt8) : BitVec 32 × BitVec 32 :=
  match scanD s with
  | some (id1, 46 :: rest) => (id1, ((scanD rest).map Prod.fst).getD (-1))
  | some (id1, _) => (id1, -1)
  | none => (-1, -1)

/-- The loop, with `indx + 1`; what it ends with, and the places it reads. -/
def scanBack (fullPathName : List UInt8) : Nat → Nat → Nat × Nat × List Nat
  | count, 0 => (count, 0, [])
  | count, indx + 1 =>
    if count < 2 then
      let dot := fullPathName.getD indx 0 = 46
      let (count', indx', read) := scanBack fullPathName (if dot then count + 1 else count) indx
      (count', indx', indx :: read)
    else (count, indx + 1, [])

def int32 (i : Int) : Int := i.bmod 4294967296

/-- `indx + 1` before the loop; strlen ends at a NUL. -/
def startIndx (fullPathName : List UInt8) (length : Int) : Nat :=
  ((if length < 0 then int32 ((fullPathName.takeWhile (· ≠ 0)).length - 1) else length) + 1).toNat

/-- `fullPathName` is what is in front of the terminator. -/
def create (fullPathName : List UInt8) (length : Int) : SockNode :=
  let (count, indx, _) := scanBack fullPathName 0 (startIndx fullPathName length)
  if count = 2 then
    let (id1, id2) := scanIds (fullPathName.drop (indx + 1))
    ⟨id1, id2, fullPathName.take indx⟩
  else ⟨-1, -1, []⟩

/-- The overload for a string; the size is converted to an int. -/
def createString (fullPathName : List UInt8) : SockNode :=
  create fullPathName (int32 fullPathName.length)

/-- The overload for a C string, with the length that is not given. -/
def createCString (fullPathName : List UInt8) : SockNode := create fullPathName (-1)

/-! ## The scan -/

section Scan

variable {a b c name : List UInt8} {count indx k : Nat}

theorem lt_of_mem_scanBack (h : k ∈ (scanBack name count indx).2.2) : k < indx := by
  induction indx generalizing count with
  | zero => exact absurd h not_mem_nil
  | succ indx ih =>
    rw [scanBack] at h
    split at h
    · rcases mem_cons.mp h with rfl | h
      · exact Nat.lt_succ_self _
      · exact (ih h).trans (Nat.lt_succ_self _)
    · exact absurd h not_mem_nil

theorem scanBack_le : (scanBack name count indx).2.1 ≤ indx := by
  induction indx generalizing count with
  | zero => exact Nat.le_refl _
  | succ indx ih =>
    rw [scanBack]
    split
    · exact ih.trans (Nat.le_succ _)
    · exact Nat.le_refl _

/-- What is found, without the places that are read. -/
def found (name : List UInt8) (count indx : Nat) : Nat × Nat :=
  ((scanBack name count indx).1, (scanBack name count indx).2.1)

theorem found_succ (hcount : count < 2) : found name count (indx + 1) =
    found name (if name.getD indx 0 = 46 then count + 1 else count) indx := by
  simp only [found, scanBack, if_pos hcount]

theorem found_two : found name 2 indx = (2, indx) := by
  cases indx <;> rfl

theorem found_skip (hb : 46 ∉ b) (hcount : count < 2) :
    found (a ++ (b ++ c)) count (a.length + b.length) = found (a ++ (b ++ c)) count a.length := by
  induction b using reverseRecOn generalizing c with
  | nil => rfl
  | append_singleton b e ih =>
    have hread : (a ++ (b ++ [e] ++ c)).getD (a.length + b.length) 0 = e := by
      simp [getD_eq_getElem?_getD]
    have he : e ≠ 46 := fun h => hb (by simp [h])
    rw [length_append, length_singleton, ← Nat.add_assoc, found_succ hcount, hread, if_neg he,
      append_assoc b [e] c]
    exact ih fun h => hb (mem_append_left _ h)

theorem found_dot (hcount : count < 2) :
    found (a ++ 46 :: c) count (a.length + 1) = found (a ++ 46 :: c) (count + 1) a.length := by
  have hread : (a ++ 46 :: c).getD a.length 0 = 46 := by
    simp [getD_eq_getElem?_getD]
  rw [found_succ hcount, hread, if_pos rfl]

theorem found_second (hb : 46 ∉ b) (hc : 46 ∉ c) :
    found (a ++ 46 :: (b ++ 46 :: c)) 0 (a ++ 46 :: (b ++ 46 :: c)).length = (2, a.length) := by
  have hlast := found_skip (a := a ++ 46 :: (b ++ [46])) (c := []) hc (by decide : 0 < 2)
  have hdot := found_dot (a := a ++ 46 :: b) (c := c) (by decide : 0 < 2)
  have hmid := found_skip (a := a ++ [46]) (c := 46 :: c) hb (by decide : 1 < 2)
  have hfirst := found_dot (a := a) (c := b ++ 46 :: c) (by decide : 1 < 2)
  simp only [append_assoc, cons_append, nil_append, append_nil, length_append, length_cons,
    length_nil] at hlast hdot hmid hfirst ⊢
  grind [found_two]

end Scan

/-! ## The numbers -/

section Numbers

variable {rest ds : List UInt8} {n : Nat}

theorem decimal_spec (n : Nat) :
    (∀ c ∈ decimal n, isDigit c) ∧ decimal n ≠ [] ∧ decValue (decimal n) = n := by
  have hdigits : ∀ d ∈ Nat.digits 10 n, d < 10 := fun d hd => Nat.digits_lt_base (by decide) hd
  by_cases hn : n = 0
  · subst hn
    exact ⟨by simp [decimal, digitByte, isDigit], by simp [decimal], rfl⟩
  · rw [decimal, if_neg hn, decValue_reverse_map hdigits, Nat.ofDigits_digits]
    refine ⟨fun c hc => ?_, by simpa [Nat.digits_eq_nil_iff_eq_zero] using hn, rfl⟩
    obtain ⟨d, hd, rfl⟩ := mem_map.mp (mem_reverse.mp hc)
    exact isDigit_digitByte (hdigits d hd)

theorem numeral_append (hds : ∀ c ∈ ds, isDigit c) (hne : ds ≠ [])
    (hrest : ∀ c ∈ rest.head?, isDigit c = false) :
    numeral (ds ++ rest) = (false, ds) ∧ numeral (45 :: (ds ++ rest)) = (true, ds) ∧
      afterNumeral (ds ++ rest) = rest ∧ afterNumeral (45 :: (ds ++ rest)) = rest := by
  obtain ⟨c, ds, rfl⟩ := exists_cons_of_ne_nil hne
  have hc := hds c mem_cons_self
  have hblank : isBlank c = false := by
    simp only [isDigit, isBlank, Bool.and_eq_true, decide_eq_true_eq] at hc ⊢
    simp
    omega
  have hminus : c ≠ 45 := by
    rintro rfl
    exact absurd hc (by decide)
  have hplus : c ≠ 43 := by
    rintro rfl
    exact absurd hc (by decide)
  have htake : rest.takeWhile isDigit = [] := by
    cases rest <;> simp_all
  have hdrop : rest.dropWhile isDigit = rest := by
    cases rest <;> simp_all
  have hminusBlank : isBlank 45 = false := by decide
  have htakeAll := @takeWhile_append_of_pos _ isDigit _ rest hds
  have hdropAll := @dropWhile_append_of_pos _ isDigit _ rest hds
  rw [cons_append] at htakeAll hdropAll
  simp [numeral, afterNumeral, hblank, hminus, hplus, hminusBlank, htake, hdrop, htakeAll, hdropAll]

theorem scanD_to_string (i : BitVec 32) (hrest : ∀ c ∈ rest.head?, isDigit c = false) :
    scanD (to_string i ++ rest) = some (i, rest) := by
  obtain ⟨hds, hne, hvalue⟩ := decimal_spec i.toInt.natAbs
  obtain ⟨hnum, hnumNeg, hafter, hafterNeg⟩ := numeral_append hds hne hrest
  have hlo := i.le_toInt
  have hhi := i.toInt_lt
  have hclamp : max (-9223372036854775808) (min i.toInt 9223372036854775807) = i.toInt := by
    omega
  by_cases hneg : i.toInt < 0
  · simp [scanD, to_string, hneg, hnumNeg, hafterNeg, hne, hvalue, hclamp, abs_of_neg hneg]
  · have hi : (i.toInt.natAbs : Int) = i.toInt := by omega
    simp only [scanD, to_string, hneg, if_false, hnum, hafter, hne, hvalue, hi, hclamp,
      Bool.false_eq_true, BitVec.ofInt_toInt]

theorem not_mem_to_string {c : UInt8} (i : BitVec 32) (hdigit : isDigit c = false)
    (hminus : c ≠ 45) : c ∉ to_string i := by
  have hc : c ∉ decimal i.toInt.natAbs := fun h => by
    simp [(decimal_spec i.toInt.natAbs).1 c h] at hdigit
  unfold to_string
  split
  · simp [hc, hminus]
  · exact hc

end Numbers

/-! ## Names -/

variable {node : SockNode}

theorem create_getNodePathname {length : Int}
    (hstart : startIndx node.getNodePathname length = node.getNodePathname.length ∨
      startIndx node.getNodePathname length = node.getNodePathname.length + 1) :
    create node.getNodePathname length = node := by
  obtain ⟨id1, id2, s⟩ := node
  have hdot : ∀ i, 46 ∉ to_string i := fun i => not_mem_to_string i (by decide) (by decide)
  have hname : SockNode.getNodePathname ⟨id1, id2, s⟩ =
      s ++ 46 :: (to_string id1 ++ 46 :: to_string id2) := rfl
  have hids : scanIds (to_string id1 ++ 46 :: to_string id2) = (id1, id2) := by
    have hfirst := @scanD_to_string (46 :: to_string id2) id1 (by simp; decide)
    have hlast := @scanD_to_string [] id2 (by simp)
    rw [append_nil] at hlast
    simp [scanIds, hfirst, hlast]
  have hfound := found_second (a := s) (hdot id1) (hdot id2)
  rw [hname] at hstart ⊢
  have hfound' : found (s ++ 46 :: (to_string id1 ++ 46 :: to_string id2)) 0
      (startIndx (s ++ 46 :: (to_string id1 ++ 46 :: to_string id2)) length) = (2, s.length) := by
    rcases hstart with hstart | hstart
    · rw [hstart, hfound]
    · -- the terminator is no dot
      rw [hstart, found_succ (by decide), if_neg (by simp [getD_eq_getElem?_getD]), hfound]
  simp only [found, Prod.mk.injEq] at hfound'
  simp [create, hfound', drop_append, drop_eq_nil_of_le (Nat.le_succ s.length), hids]

theorem length_create_le (name : List UInt8) (length : Int) :
    (create name length).mNodePathnamePrefix.length ≤ startIndx name length := by
  simp only [create]
  split
  · exact (length_take_le _ _).trans scanBack_le
  · exact Nat.zero_le _

/-- Both overloads give the node back. -/
def RoundTrip (node : SockNode) : Prop :=
  createString node.getNodePathname = node ∧ createCString node.getNodePathname = node

theorem bmod_le {i : Int} (h : -1 ≤ i) :
    i.bmod 4294967296 ≤ i ∧ (i < 2147483648 → i.bmod 4294967296 = i) := by
  have hmod := @Int.bmod_def i 4294967296
  omega

theorem int32_le {i : Int} (h : -1 ≤ i) : int32 i ≤ i := (bmod_le h).1

theorem int32_of_lt {i : Int} (h : -1 ≤ i) (hlt : i < 2147483648) : int32 i = i :=
  (bmod_le h).2 hlt

theorem startIndx_le {name : List UInt8} {length : Int} (h : length ≤ name.length) :
    startIndx name length ≤ name.length + 1 := by
  have hstrlen := (takeWhile_sublist (l := name) (· ≠ 0)).length_le
  have hle := @int32_le ((name.takeWhile (· ≠ 0)).length - 1) (by omega)
  unfold startIndx
  split <;> omega

/-- A name that an int can be the size of is read back, from a C string if there
is no NUL in it; the scan of any name reads nothing behind its terminator. -/
theorem create_spec (node : SockNode) : (node.getNodePathname.length < 2147483648 →
        createString node.getNodePathname = node ∧
          (0 ∉ node.mNodePathnamePrefix → createCString node.getNodePathname = node)) ∧
      ∀ (name : List UInt8), ∀ length ∈ [int32 name.length, -1],
        ∀ k ∈ (scanBack name 0 (startIndx name length)).2.2, k ≤ name.length := by
  refine ⟨fun hlt => ⟨?_, fun hnul => ?_⟩, fun name length hlength k hk => ?_⟩
  · refine create_getNodePathname (Or.inr ?_)
    rw [int32_of_lt (by omega) (by omega), startIndx, if_neg (by omega)]
    omega
  · refine create_getNodePathname (Or.inl ?_)
    have hall : 0 ∉ node.getNodePathname := by
      have hids : ∀ i, 0 ∉ to_string i := fun i => not_mem_to_string i (by decide) (by decide)
      simp [SockNode.getNodePathname, hnul, hids]
    have hstrlen : node.getNodePathname.takeWhile (· ≠ 0) = node.getNodePathname := by
      rw [takeWhile_eq_self_iff]
      intro c hc
      exact decide_eq_true (ne_of_mem_of_not_mem hc hall)
    rw [startIndx, if_pos (by decide), hstrlen, int32_of_lt (by omega) (by omega)]
    omega
  · have hle : length ≤ name.length := by
      rcases mem_pair.mp hlength with h | h
      · exact h.le.trans (int32_le (by omega))
      · omega
    have hstart := startIndx_le hle
    have hread := lt_of_mem_scanBack hk
    omega

theorem create_spec_dots :
    createString (SockNode.getNodePathname ⟨-5, 7, [46, 49]⟩) = ⟨-5, 7, [46, 49]⟩ :=
  ((create_spec ⟨-5, 7, [46, 49]⟩).1 (by decide)).1

/-- A C string ends at a NUL, and a size that is no int is another one. -/
theorem not_roundTrip : ¬ RoundTrip ⟨1, 2, [0]⟩ ∧
    ¬ RoundTrip ⟨1, 2, replicate 4294967296 97⟩ := by
  refine ⟨fun h => absurd h.2 (by decide), fun h => ?_⟩
  generalize hs : replicate 4294967296 (97 : UInt8) = s at h
  have hlength : s.length = 4294967296 := hs ▸ length_replicate
  have hname : (SockNode.getNodePathname ⟨1, 2, s⟩).length = 4294967300 := by
    have hids : to_string 1 = [49] ∧ to_string 2 = [50] := by decide
    rw [SockNode.getNodePathname, hids.1, hids.2]
    simp [hlength]
  -- the prefix that is found is not longer than where the scan begins
  have hprefix := congrArg (fun node => node.mNodePathnamePrefix.length) h.1
  have hle := length_create_le (SockNode.getNodePathname ⟨1, 2, s⟩) (int32 4294967300)
  rw [createString, hname] at hprefix
  have hstart : startIndx (SockNode.getNodePathname ⟨1, 2, s⟩) (int32 4294967300) = 5 := by
    have h4 : int32 4294967300 = 4 := by decide
    simp [startIndx, h4]
  simp only [Nat.cast_ofNat, hlength] at hprefix
  omega

end LocStack.Ipc
