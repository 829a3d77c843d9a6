/-
# `LocStack.Core.NetworkInfo` — the network info that SystemStatus caches

Every NetworkInfo data item says of one network that it is connected or
disconnected.  `setIteminReport` collates it with the latest entry of the
cache, whose table of handles and mask of types thus stand for all networks:

    collate    connected      puts the handle in the first free slot
               disconnected   moves the last handle to the slot of this one
    equals     nothing to store: table, mConnected and mApn as before

Three things are not as they should be for every sequence of items.  The
first item is stored as it is, a disconnected one as well.  Where other
handles of the type of a disconnected one are left, the mask of the entry is
the bit of this type alone, and the other types are lost.  And the handle of
a type unknown is not looked for at all.

`latestRight_iff`: what the cache says is right throughout a run if and only
if every item meets `Kept`.
-/
import LocStack.Base.Run
import LocStack.Base.Compact
import Mathlib.Data.Finset.Card

namespace LocStack.Core

open Base List

/-! ## The cache of a status item -/

/-- What the templates of SystemStatus.cpp use of an item. -/
class SystemStatusItem (τ : Type*) where
  ignore : τ → Bool
  collate : τ → τ → τ
  equals : τ → τ → Bool
  mUtcReported : τ → Nat
  setUtcReported : τ → Nat → τ

def maxItem : Nat := 5

section Report

variable {τ : Type*} [SystemStatusItem τ]

open SystemStatusItem

/-- `report.push_back(s)`, with what stands in front of `maxItem` erased. -/
def pushReport (report : List τ) (s : τ) : List τ :=
  let report := report ++ [s]
  if report.length > maxItem then report.tail else report

def setIteminReport (report : List τ) (s : τ) : List τ × Bool :=
  if ignore s then (report, false)
  else
    match report.getLast? with
    | some back =>
      let s := collate s back
      if equals back s then
        (report.dropLast ++ [setUtcReported back (mUtcReported s)], false)
      else (pushReport report s, true)
    | none => (pushReport report s, true)

/-- The latest entry after an item. -/
def latestAfter (latest : Option τ) (s : τ) : τ :=
  match latest with
  | some back =>
    if equals back (collate s back) then
      setUtcReported back (mUtcReported (collate s back))
    else collate s back
  | none => s

omit [SystemStatusItem τ] in
theorem getLast?_pushReport (report : List τ) (s : τ) :
    (pushReport report s).getLast? = some s := by
  by_cases hlong : (report ++ [s]).length > maxItem
  · cases report with
    | nil => exact absurd hlong (by simp [maxItem])
    | cons r report => exact (congrArg List.getLast? (if_pos hlong)).trans List.getLast?_concat
  · exact (congrArg List.getLast? (if_neg hlong)).trans List.getLast?_concat

theorem getLast?_setIteminReport (report : List τ) {s : τ} (h : ignore s = false) :
    (setIteminReport report s).1.getLast? = some (latestAfter report.getLast? s) := by
  unfold setIteminReport latestAfter
  rw [h]
  cases report.getLast? with
  | none => exact getLast?_pushReport report s
  | some back =>
    cases h : equals back (collate s back) with
    | true => simp [h]
    | false => simp [h, getLast?_pushReport]

end Report

/-! ## Network info -/

/-- A `NetworkType` is any value that an `int32_t` is cast to. -/
abbrev NetworkType := Int

def TYPE_MOBILE : NetworkType := 0
def TYPE_UNKNOWN : NetworkType := 10

abbrev NetworkHandle := BitVec 64

def NETWORK_HANDLE_UNKNOWN : NetworkHandle := ~~~0#64

def MAX_NETWORK_HANDLES : Nat := 10

structure NetworkInfoType where
  networkHandle : NetworkHandle
  networkType : NetworkType
  deriving DecidableEq

/-- The constructor without arguments. -/
def NetworkInfoType.unknown : NetworkInfoType := ⟨NETWORK_HANDLE_UNKNOWN, TYPE_UNKNOWN⟩

/-- A slot without a real handle. -/
def NetworkInfoType.Free (x : NetworkInfoType) : Prop :=
  x.networkHandle = NETWORK_HANDLE_UNKNOWN
  deriving Decidable

/-- `mAllNetworkHandles`. -/
@[ext] structure NetworkHandles where
  slots : List NetworkInfoType
  size : slots.length = MAX_NETWORK_HANDLES

/-- `NetworkInfoDataItemBase`, what collate and equals read of it. -/
structure NetworkInfoDataItemBase where
  mAllTypes : BitVec 64
  mType : NetworkType
  mConnected : Bool
  mAllNetworkHandles : NetworkHandles
  mNetworkHandle : NetworkHandle
  mApn : String

def typeToAllTypes (type : NetworkType) : BitVec 64 :=
  if type ≥ TYPE_UNKNOWN ∨ type < TYPE_MOBILE then 0#64 else 1#64 <<< type.toNat

/-- What a data item is made of. -/
structure NetworkItem where
  (initialType type : NetworkType)
  connected : Bool
  networkHandle : NetworkHandle
  apn : String
  utc : Nat

/-- The constructor of `NetworkInfoDataItemBase`. -/
def NetworkInfoDataItemBase.new (e : NetworkItem) : NetworkInfoDataItemBase where
  mAllTypes := typeToAllTypes e.initialType
  mType := e.type
  mConnected := e.connected
  mAllNetworkHandles :=
    ⟨⟨e.networkHandle, e.initialType⟩ :: List.replicate (MAX_NETWORK_HANDLES - 1) .unknown, rfl⟩
  mNetworkHandle := e.networkHandle
  mApn := e.apn

structure SystemStatusNetworkInfo extends NetworkInfoDataItemBase where
  mUtcReported : Nat

/-- The constructor from a data item, at the time `utc`. -/
def SystemStatusNetworkInfo.ofItem (itemBase : NetworkInfoDataItemBase) (utc : Nat) :
    SystemStatusNetworkInfo :=
  { itemBase with mUtcReported := utc }

/-- The loop of a connected item: a handle already in the table stays where
it is, a new one goes to the first free slot. -/
def putHandle (mNetworkHandle : NetworkHandle) (mType : NetworkType) :
    List NetworkInfoType → List NetworkInfoType
  | [] => []
  | x :: xs =>
    if mNetworkHandle = x.networkHandle then x :: xs
    else if NETWORK_HANDLE_UNKNOWN = x.networkHandle then ⟨mNetworkHandle, mType⟩ :: xs
    else x :: putHandle mNetworkHandle mType xs

/-- The three counters of the loop of a disconnected item. -/
structure Counted where
  (deletedIndex lastValidIndex typeCount : Nat)

/-- The loop of a disconnected item. -/
def countHandles (mNetworkHandle : NetworkHandle) (mType : NetworkType) :
    List NetworkInfoType → Counted → Counted
  | [], c => c
  | x :: xs, c =>
    if NETWORK_HANDLE_UNKNOWN = x.networkHandle then c
    else
      let c' :=
        if mType = x.networkType then
          if mNetworkHandle = x.networkHandle then { c with deletedIndex := c.lastValidIndex }
          else { c with typeCount := c.typeCount + 1 }
        else c
      countHandles mNetworkHandle mType xs { c' with lastValidIndex := c.lastValidIndex + 1 }

theorem length_putHandle (h : NetworkHandle) (t : NetworkType) (slots : List NetworkInfoType) :
    (putHandle h t slots).length = slots.length := by
  induction slots with
  | nil => rfl
  | cons x xs ih =>
    unfold putHandle
    split
    · rfl
    · split
      · rfl
      · exact congrArg (· + 1) ih

namespace NetworkHandles

def put (table : NetworkHandles) (h : NetworkHandle) (t : NetworkType) : NetworkHandles where
  slots := putHandle h t table.slots
  size := (length_putHandle h t table.slots).trans table.size

def count (table : NetworkHandles) (h : NetworkHandle) (t : NetworkType) : Counted :=
  countHandles h t table.slots ⟨MAX_NETWORK_HANDLES, 0, 0⟩

/-- The slot of the handle gets the last entry.  `lastValidIndex` is counted
down once, unless it is 0. -/
def delete (table : NetworkHandles) (h : NetworkHandle) (t : NetworkType) : NetworkHandles :=
  let c := table.count h t
  if MAX_NETWORK_HANDLES ≠ c.deletedIndex then
    ⟨swapRemove table.slots c.deletedIndex (c.lastValidIndex - 1) .unknown,
      (length_swapRemove ..).trans table.size⟩
  else table

end NetworkHandles

namespace SystemStatusNetworkInfo

def equals (s peer : SystemStatusNetworkInfo) : Bool :=
  peer.mConnected == s.mConnected
    && decide (s.mAllNetworkHandles.slots = peer.mAllNetworkHandles.slots)
    && peer.mApn == s.mApn

def collate (s cur : SystemStatusNetworkInfo) : SystemStatusNetworkInfo :=
  let allTypes := cur.mAllTypes
  let apn := cur.mApn
  let s := { s with mAllNetworkHandles := cur.mAllNetworkHandles }
  let s := if TYPE_MOBILE ≠ s.mType ∧ apn ≠ "" then { s with mApn := apn } else s
  if s.mConnected then
    { s with
      mAllTypes := s.mAllTypes ||| allTypes
      mAllNetworkHandles := s.mAllNetworkHandles.put s.mNetworkHandle s.mType }
  else if s.mAllTypes ≠ 0#64 then
    { s with
      mAllTypes :=
        if (s.mAllNetworkHandles.count s.mNetworkHandle s.mType).typeCount = 0 then
          allTypes &&& ~~~s.mAllTypes
        else s.mAllTypes
      mAllNetworkHandles := s.mAllNetworkHandles.delete s.mNetworkHandle s.mType }
  else s

end SystemStatusNetworkInfo

instance : SystemStatusItem SystemStatusNetworkInfo where
  ignore := fun _ => false
  collate := SystemStatusNetworkInfo.collate
  equals := SystemStatusNetworkInfo.equals
  mUtcReported := SystemStatusNetworkInfo.mUtcReported
  setUtcReported := fun s utc => { s with mUtcReported := utc }

/-- What `collate` leaves in the data item that it came with (`mSrcObjPtr`). -/
def writeBack (report : List SystemStatusNetworkInfo) (itemBase : NetworkInfoDataItemBase)
    (s : SystemStatusNetworkInfo) : NetworkInfoDataItemBase :=
  match report.getLast? with
  | some back =>
    { itemBase with
      mAllTypes := (s.collate back).mAllTypes
      mAllNetworkHandles := (s.collate back).mAllNetworkHandles }
  | none => itemBase

/-- The case NETWORKINFO_DATA_ITEM_ID of `SystemStatus::eventDataItemNotify`:
the cache, what is returned and the data item afterwards. -/
def eventNetworkInfo (mNetworkInfo : List SystemStatusNetworkInfo) (e : NetworkItem) :
    List SystemStatusNetworkInfo × Bool × NetworkInfoDataItemBase :=
  let itemBase := NetworkInfoDataItemBase.new e
  let s := SystemStatusNetworkInfo.ofItem itemBase e.utc
  let (report, ret) := setIteminReport mNetworkInfo s
  (report, ret, writeBack mNetworkInfo itemBase s)

/-! ## What a step does to the table -/

section Table

variable {h : NetworkHandle} {t : NetworkType} {used rest slots : List NetworkInfoType}

/-- The entries of the table, those with a real handle. -/
abbrev entries (slots : List NetworkInfoType) : List NetworkInfoType :=
  live NetworkInfoType.Free slots

/-- The real handles of the table. -/
def handles (slots : List NetworkInfoType) : List NetworkHandle :=
  (entries slots).map NetworkInfoType.networkHandle

theorem mem_handles_of_mem {x : NetworkInfoType} (hx : x ∈ entries slots) :
    x.networkHandle ∈ handles slots := mem_map_of_mem hx

/-- A handle is put nowhere if it is in the table or none, or if the table is
full. -/
def Fits (slots : List NetworkInfoType) (h : NetworkHandle) : Prop :=
  h ≠ NETWORK_HANDLE_UNKNOWN ∧ h ∉ handles slots ∧ (entries slots).length < slots.length
  deriving Decidable

theorem putHandle_append (hused : ∀ x ∈ used, h ≠ x.networkHandle ∧ ¬ x.Free) :
    putHandle h t (used ++ rest) = used ++ putHandle h t rest := by
  induction used with
  | nil => rfl
  | cons x xs ih =>
    have hx := hused x mem_cons_self
    have hfree : NETWORK_HANDLE_UNKNOWN ≠ x.networkHandle := fun heq => hx.2 heq.symm
    have hstep : putHandle h t (x :: (xs ++ rest)) = x :: putHandle h t (xs ++ rest) :=
      (if_neg hx.1).trans (if_neg hfree)
    exact hstep.trans (congrArg (x :: ·) (ih fun y hy => hused y (mem_cons_of_mem _ hy)))

theorem putHandle_of_mem (hused : ∀ x ∈ used, ¬ x.Free)
    (hmem : h ∈ used.map NetworkInfoType.networkHandle) :
    putHandle h t (used ++ rest) = used ++ rest := by
  induction used with
  | nil => exact absurd hmem not_mem_nil
  | cons x xs ih =>
    by_cases hx : h = x.networkHandle
    · exact if_pos hx
    · have hfree : NETWORK_HANDLE_UNKNOWN ≠ x.networkHandle := fun heq =>
        hused x mem_cons_self heq.symm
      have hstep : putHandle h t (x :: (xs ++ rest)) = x :: putHandle h t (xs ++ rest) :=
        (if_neg hx).trans (if_neg hfree)
      have hmem' : h ∈ xs.map NetworkInfoType.networkHandle :=
        (mem_cons.mp hmem).resolve_left hx
      exact hstep.trans (congrArg (x :: ·) (ih (fun y hy => hused y (mem_cons_of_mem _ hy)) hmem'))

theorem putHandle_of_fits (hc : Compact NetworkInfoType.Free slots) (hfits : Fits slots h) :
    Compact NetworkInfoType.Free (putHandle h t slots) ∧
      entries (putHandle h t slots) = entries slots ++ [⟨h, t⟩] := by
  obtain ⟨rest, hslots, hrest⟩ := compact_iff.mp hc
  have hused : ∀ x ∈ entries slots, h ≠ x.networkHandle ∧ ¬ x.Free := fun x hx =>
    ⟨fun heq => hfits.2.1 (heq ▸ mem_handles_of_mem hx), (mem_live.mp hx).2⟩
  cases rest with
  | nil =>
    have hlen := congrArg List.length hslots
    rw [append_nil] at hlen
    exact absurd hfits.2.2 (Nat.not_lt.mpr (Nat.le_of_eq hlen))
  | cons x xs =>
    have hx : NETWORK_HANDLE_UNKNOWN = x.networkHandle := (hrest x mem_cons_self).symm
    have hput : putHandle h t (x :: xs) = ⟨h, t⟩ :: xs :=
      (if_neg fun heq => hfits.1 (heq.trans hx.symm)).trans (if_pos hx)
    have hall : putHandle h t slots = (entries slots ++ [⟨h, t⟩]) ++ xs := by
      calc putHandle h t slots
          = putHandle h t (entries slots ++ x :: xs) := congrArg _ hslots
        _ = entries slots ++ putHandle h t (x :: xs) := putHandle_append hused
        _ = entries slots ++ (⟨h, t⟩ :: xs) := congrArg _ hput
        _ = (entries slots ++ [⟨h, t⟩]) ++ xs := (append_cons ..)
    have hreal : ∀ y ∈ entries slots ++ [(⟨h, t⟩ : NetworkInfoType)], ¬ y.Free := by
      intro y hy
      rcases mem_append.mp hy with hy | hy
      · exact (hused y hy).2
      · obtain rfl := mem_singleton.mp hy
        exact hfits.1
    have hfree : ∀ y ∈ xs, y.Free := fun y hy => hrest y (mem_cons_of_mem _ hy)
    rw [hall]
    exact ⟨compact_append hreal hfree, live_append hreal hfree⟩

theorem putHandle_of_not_fits (hc : Compact NetworkInfoType.Free slots)
    (hfits : ¬ Fits slots h) : putHandle h t slots = slots := by
  obtain ⟨rest, hslots, hrest⟩ := compact_iff.mp hc
  have hreal : ∀ x ∈ entries slots, ¬ x.Free := fun x hx => (mem_live.mp hx).2
  rw [hslots]
  by_cases hmem : h ∈ handles slots
  · exact putHandle_of_mem hreal hmem
  · have hused : ∀ x ∈ entries slots, h ≠ x.networkHandle ∧ ¬ x.Free := fun x hx =>
      ⟨fun heq => hmem (heq ▸ mem_handles_of_mem hx), hreal x hx⟩
    rw [putHandle_append hused]
    cases rest with
    | nil => rfl
    | cons x xs =>
      have hx : x.networkHandle = NETWORK_HANDLE_UNKNOWN := hrest x mem_cons_self
      have hh : h = x.networkHandle := by
        by_contra hne
        refine hfits ⟨fun heq => hne (heq.trans hx.symm), hmem, ?_⟩
        have hlen : slots.length = (entries slots).length + (xs.length + 1) :=
          (congrArg List.length hslots).trans length_append
        omega
      exact congrArg (entries slots ++ ·) (if_pos hh)

/-- Another entry of the type. -/
def Sibling (h : NetworkHandle) (t : NetworkType) (x : NetworkInfoType) : Prop :=
  x.networkType = t ∧ x.networkHandle ≠ h
  deriving Decidable

theorem countHandles_append (hused : ∀ x ∈ used, ¬ x.Free) (hrest : ∀ x ∈ rest, x.Free)
    (hnd : used.Nodup) (c : Counted) :
    (countHandles h t (used ++ rest) c).lastValidIndex = c.lastValidIndex + used.length ∧
      (countHandles h t (used ++ rest) c).typeCount = c.typeCount + used.countP (Sibling h t) ∧
      (countHandles h t (used ++ rest) c).deletedIndex =
        if ⟨h, t⟩ ∈ used then c.lastValidIndex + used.idxOf ⟨h, t⟩ else c.deletedIndex := by
  induction used generalizing c with
  | nil =>
    have hstop : countHandles h t rest c = c := by
      cases rest with
      | nil => rfl
      | cons x xs => exact if_pos (hrest x mem_cons_self).symm
    simp [hstop]
  | cons x xs ih =>
    have hx : NETWORK_HANDLE_UNKNOWN ≠ x.networkHandle := fun heq =>
      hused x mem_cons_self heq.symm
    obtain ⟨hnot, hnd'⟩ := nodup_cons.mp hnd
    have ih' := ih (fun y hy => hused y (mem_cons_of_mem _ hy)) hnd'
    have hstep : countHandles h t (x :: xs ++ rest) c = countHandles h t (xs ++ rest) _ :=
      if_neg hx
    rw [hstep]
    refine ⟨(ih' _).1.trans ?_, (ih' _).2.1.trans ?_, (ih' _).2.2.trans ?_⟩
    · rw [length_cons, Nat.add_assoc, Nat.add_comm 1]
    · by_cases ht : t = x.networkType
      · by_cases hh : h = x.networkHandle
        · have hcount : (x :: xs).countP (Sibling h t) = xs.countP (Sibling h t) :=
            countP_cons_of_neg (fun hs => (of_decide_eq_true hs).2 hh.symm)
          rw [hcount, if_pos ht, if_pos hh]
        · have hcount : (x :: xs).countP (Sibling h t) = xs.countP (Sibling h t) + 1 :=
            countP_cons_of_pos (decide_eq_true ⟨ht.symm, fun heq => hh heq.symm⟩)
          rw [hcount, if_pos ht, if_neg hh]
          show c.typeCount + 1 + _ = _
          omega
      · have hcount : (x :: xs).countP (Sibling h t) = xs.countP (Sibling h t) :=
          countP_cons_of_neg (fun hs => ht (of_decide_eq_true hs).1.symm)
        rw [hcount, if_neg ht]
    · by_cases heq : x = ⟨h, t⟩
      · -- this is the one, and no other is
        subst heq
        simp [hnot]
      · have hne : (⟨h, t⟩ : NetworkInfoType) ≠ x := fun he => heq he.symm
        have hmem : (⟨h, t⟩ : NetworkInfoType) ∈ x :: xs ↔ ⟨h, t⟩ ∈ xs :=
          mem_cons.trans (or_iff_right hne)
        have hidx : (x :: xs).idxOf ⟨h, t⟩ = xs.idxOf ⟨h, t⟩ + 1 :=
          idxOf_cons_ne xs heq
        have hkept : (if t = x.networkType then
            if h = x.networkHandle then { c with deletedIndex := c.lastValidIndex }
            else { c with typeCount := c.typeCount + 1 }
            else c).deletedIndex = c.deletedIndex := by
          split
          · rename_i ht
            have hh : h ≠ x.networkHandle := by
              rintro rfl
              exact hne (ht ▸ rfl)
            rw [if_neg hh]
          · rfl
        simp only [hmem, hidx, hkept]
        split
        · omega
        · rfl

theorem nodup_entries (hnd : (handles slots).Nodup) : (entries slots).Nodup :=
  List.Nodup.of_map _ hnd

namespace NetworkHandles

variable {table : NetworkHandles}

variable (hc : Compact NetworkInfoType.Free table.slots) (hnd : (handles table.slots).Nodup)
include hc hnd

theorem count_eq : (table.count h t).lastValidIndex = (entries table.slots).length ∧
      (table.count h t).typeCount = (entries table.slots).countP (Sibling h t) ∧
      (table.count h t).deletedIndex =
        if ⟨h, t⟩ ∈ entries table.slots then (entries table.slots).idxOf ⟨h, t⟩
        else MAX_NETWORK_HANDLES := by
  obtain ⟨rest, hslots, hrest⟩ := compact_iff.mp hc
  have hcount := countHandles_append (h := h) (t := t) (fun x hx => (mem_live.mp hx).2) hrest
    (nodup_entries hnd) ⟨MAX_NETWORK_HANDLES, 0, 0⟩
  have hall : table.count h t =
      countHandles h t (entries table.slots ++ rest) ⟨MAX_NETWORK_HANDLES, 0, 0⟩ :=
    congrArg (fun slots => countHandles h t slots ⟨MAX_NETWORK_HANDLES, 0, 0⟩) hslots
  rw [hall]
  simpa only [Nat.zero_add] using hcount

theorem delete_of_mem (hmem : ⟨h, t⟩ ∈ entries table.slots) :
    Compact NetworkInfoType.Free (table.delete h t).slots ∧
      (entries (table.delete h t).slots).Perm ((entries table.slots).erase ⟨h, t⟩) := by
  obtain ⟨hlast, -, hdel⟩ := count_eq (h := h) (t := t) hc hnd
  rw [if_pos hmem] at hdel
  have hi : (entries table.slots).idxOf ⟨h, t⟩ < (entries table.slots).length :=
    idxOf_lt_length_iff.mpr hmem
  obtain ⟨rest, hslots, hrest⟩ := compact_iff.mp hc
  have hlen : table.slots.length = (entries table.slots).length + rest.length :=
    (congrArg List.length hslots).trans length_append
  obtain ⟨used, hswap, hperm⟩ := exists_swapRemove hi rest NetworkInfoType.unknown
  have hdelete : (table.delete h t).slots = used ++ NetworkInfoType.unknown :: rest := by
    have hne : MAX_NETWORK_HANDLES ≠ (table.count h t).deletedIndex := by
      have hsize := table.size
      omega
    calc (table.delete h t).slots = swapRemove table.slots (table.count h t).deletedIndex
            ((table.count h t).lastValidIndex - 1) .unknown :=
          congrArg NetworkHandles.slots (if_pos hne)
      _ = swapRemove (entries table.slots ++ rest) ((entries table.slots).idxOf ⟨h, t⟩)
            ((entries table.slots).length - 1) .unknown := by rw [hdel, hlast, ← hslots]
      _ = used ++ NetworkInfoType.unknown :: rest := hswap
  have herase : (entries table.slots).eraseIdx ((entries table.slots).idxOf ⟨h, t⟩) =
      (entries table.slots).erase ⟨h, t⟩ := (erase_eq_eraseIdx_of_idxOf rfl).symm
  have hused : ∀ x ∈ used, ¬ x.Free := fun x hx =>
    (mem_live.mp (mem_of_mem_eraseIdx (hperm.mem_iff.mp hx))).2
  have hfree : ∀ x ∈ NetworkInfoType.unknown :: rest, x.Free := by
    intro x hx
    rcases mem_cons.mp hx with rfl | hx
    · rfl
    · exact hrest x hx
  rw [hdelete]
  refine ⟨compact_append hused hfree, ?_⟩
  rw [entries, live_append hused hfree, ← herase]
  exact hperm

theorem delete_of_not_mem (hmem : ⟨h, t⟩ ∉ entries table.slots) : table.delete h t = table := by
  have hdel := (count_eq (h := h) (t := t) hc hnd).2.2
  rw [if_neg hmem] at hdel
  exact if_neg (fun hne => hne hdel.symm)

end NetworkHandles

end Table

/-! ## The mask of types -/

section Mask

variable {mask mask' : BitVec 64} {t u : Int}

/-- The mask has the bit of a type. -/
def HasBit (mask : BitVec 64) (t : NetworkType) : Prop := mask &&& typeToAllTypes t ≠ 0#64
  deriving Decidable

variable (ht : typeToAllTypes t ≠ 0#64)
include ht

theorem typeToAllTypes_of_ne : 0 ≤ t ∧ t < 10 ∧ typeToAllTypes t = BitVec.twoPow 64 t.toNat := by
  by_cases h : t ≥ TYPE_UNKNOWN ∨ t < TYPE_MOBILE
  · exact absurd (if_pos h) ht
  · have hbounds : 0 ≤ t ∧ t < 10 := by
      change ¬ (t ≥ 10 ∨ t < 0) at h
      omega
    exact ⟨hbounds.1, hbounds.2, if_neg h⟩

theorem hasBit_iff : HasBit mask t ↔ mask.getLsbD t.toNat = true := by
  obtain ⟨h0, h10, heq⟩ := typeToAllTypes_of_ne ht
  rw [HasBit, heq, BitVec.and_twoPow]
  have hne : BitVec.twoPow 64 t.toNat ≠ 0#64 := heq ▸ ht
  split
  · rename_i hbit
    exact ⟨fun _ => hbit, fun _ => hne⟩
  · rename_i hbit
    exact ⟨fun h => absurd rfl h, fun h => absurd h hbit⟩

omit ht in
theorem hasBit_typeToAllTypes (hu : typeToAllTypes u ≠ 0#64) :
    HasBit (typeToAllTypes t) u ↔ t = u := by
  rw [hasBit_iff hu]
  obtain ⟨hu0, hu10, -⟩ := typeToAllTypes_of_ne hu
  by_cases ht : typeToAllTypes t = 0#64
  · have hne : t ≠ u := fun heq => hu (heq ▸ ht)
    simp [ht, hne]
  · obtain ⟨ht0, ht10, heq⟩ := typeToAllTypes_of_ne ht
    simp only [heq, BitVec.getLsbD_twoPow, Bool.and_eq_true, decide_eq_true_eq]
    omega

theorem hasBit_or : HasBit (mask ||| mask') t ↔ HasBit mask t ∨ HasBit mask' t := by
  rw [hasBit_iff ht, hasBit_iff ht, hasBit_iff ht, BitVec.getLsbD_or, Bool.or_eq_true]

theorem hasBit_and_not : HasBit (mask &&& ~~~mask') t ↔ HasBit mask t ∧ ¬ HasBit mask' t := by
  obtain ⟨h0, h10, -⟩ := typeToAllTypes_of_ne ht
  have hlt : t.toNat < 64 := by omega
  rw [hasBit_iff ht, hasBit_iff ht, hasBit_iff ht, BitVec.getLsbD_and, BitVec.getLsbD_not]
  simp [hlt]

end Mask

/-! ## What the latest entry says -/

/-- The table has a handle of the type. -/
def HasType (slots : List NetworkInfoType) (t : NetworkType) : Prop :=
  ∃ x ∈ entries slots, x.networkType = t
  deriving Decidable

/-- Table and mask are those of the handles `connected`. -/
structure Right (slots : List NetworkInfoType) (mAllTypes : BitVec 64)
    (connected : Finset NetworkHandle) : Prop where
  compact : Compact NetworkInfoType.Free slots
  nodup : (handles slots).Nodup
  exactly : connected.card ≤ MAX_NETWORK_HANDLES → ∀ h, h ∈ handles slots ↔ h ∈ connected
  types : ∀ t, typeToAllTypes t ≠ 0#64 → (HasBit mAllTypes t ↔ HasType slots t)

/-- The cache, and the handles connected and not since disconnected. -/
structure Watched where
  mNetworkInfo : List SystemStatusNetworkInfo
  connected : Finset NetworkHandle

def connectedAfter (connected : Finset NetworkHandle) (e : NetworkItem) : Finset NetworkHandle :=
  if e.networkHandle = NETWORK_HANDLE_UNKNOWN then connected
  else if e.connected then insert e.networkHandle connected
  else connected.erase e.networkHandle

namespace Watched

/-- An empty cache. -/
def empty : Watched := ⟨[], ∅⟩

def step (w : Watched) (e : NetworkItem) : Watched × List (Bool × NetworkInfoDataItemBase) :=
  (⟨(eventNetworkInfo w.mNetworkInfo e).1, connectedAfter w.connected e⟩,
    [(eventNetworkInfo w.mNetworkInfo e).2])

/-- The latest entry is right; nothing is connected while there is none. -/
def LatestRight (w : Watched) : Prop :=
  match w.mNetworkInfo.getLast? with
  | some s => Right s.mAllNetworkHandles.slots s.mAllTypes w.connected
  | none => w.connected = ∅

end Watched

/-! ## The items that keep it right -/

/-- A disconnected item takes its handle out of the table. -/
def TakesOut (slots : List NetworkInfoType) (e : NetworkItem) : Prop :=
  typeToAllTypes e.initialType ≠ 0#64 ∧ ⟨e.networkHandle, e.type⟩ ∈ entries slots
  deriving Decidable

/-- The table stays as it is. -/
def TableKept (slots : List NetworkInfoType) (e : NetworkItem) : Prop :=
  if e.connected then ¬ Fits slots e.networkHandle else ¬ TakesOut slots e

/-- The item repeats the latest entry: nothing of it is stored. -/
def Repeats (s : SystemStatusNetworkInfo) (e : NetworkItem) : Prop :=
  TableKept s.mAllNetworkHandles.slots e ∧ s.mConnected = e.connected ∧
    ((TYPE_MOBILE ≠ e.type ∧ s.mApn ≠ "") ∨ s.mApn = e.apn)

/-- The type has no bit, or a handle in the table. -/
def Held (slots : List NetworkInfoType) (t : NetworkType) : Prop :=
  typeToAllTypes t = 0#64 ∨ HasType slots t

/-- No type but `t` has a bit and a handle in the table. -/
def OnlyType (slots : List NetworkInfoType) (t : NetworkType) : Prop :=
  ∀ u, typeToAllTypes u ≠ 0#64 → HasType slots u → u = t

/-- What an item does to the mask that it does not do to the table, it does
not store, or it does not matter. -/
def TypesKept (s : SystemStatusNetworkInfo) (e : NetworkItem) : Prop :=
  let slots := s.mAllNetworkHandles.slots
  Repeats s e ∨
    if e.connected then
      if Fits slots e.networkHandle then
        e.initialType = e.type ∨ (Held slots e.initialType ∧ Held slots e.type)
      else Held slots e.initialType
    else if typeToAllTypes e.initialType = 0#64 then OnlyType slots e.initialType
    else if ∃ x ∈ entries slots, Sibling e.networkHandle e.type x then
      HasType slots e.initialType ∧ OnlyType slots e.initialType
    else
      e.initialType = e.type ∨
        (¬ HasType slots e.initialType ∧ (TakesOut slots e → typeToAllTypes e.type = 0#64))

/-- Where at most `MAX_NETWORK_HANDLES` remain connected, a disconnected item
finds the others in the table, and its own only under its type. -/
def HandlesKept (slots : List NetworkInfoType) (connected : Finset NetworkHandle)
    (e : NetworkItem) : Prop :=
  e.connected = false → (connectedAfter connected e).card ≤ MAX_NETWORK_HANDLES →
    (∀ h, h ≠ e.networkHandle → (h ∈ handles slots ↔ h ∈ connected)) ∧
      (e.networkHandle ∈ handles slots → TakesOut slots e)

/-- The first item is of a connection, with a handle or without handle and
type; every later one leaves handles and types as they should be. -/
def Watched.Kept (w : Watched) (e : NetworkItem) : Prop :=
  match w.mNetworkInfo.getLast? with
  | some s => HandlesKept s.mAllNetworkHandles.slots w.connected e ∧ TypesKept s e
  | none =>
    if e.networkHandle = NETWORK_HANDLE_UNKNOWN then typeToAllTypes e.initialType = 0#64
    else e.connected = true

/-! ## One item -/

/-- The item as it is stored. -/
abbrev itemOf (e : NetworkItem) : SystemStatusNetworkInfo := .ofItem (.new e) e.utc

/-- The table after an item. -/
def tableAfter (table : NetworkHandles) (e : NetworkItem) : NetworkHandles :=
  if e.connected then table.put e.networkHandle e.type
  else if typeToAllTypes e.initialType ≠ 0#64 then table.delete e.networkHandle e.type
  else table

/-- The mask after an item that is stored. -/
def maskAfter (s : SystemStatusNetworkInfo) (e : NetworkItem) : BitVec 64 :=
  if e.connected then typeToAllTypes e.initialType ||| s.mAllTypes
  else if typeToAllTypes e.initialType ≠ 0#64 then
    if (s.mAllNetworkHandles.count e.networkHandle e.type).typeCount = 0 then
      s.mAllTypes &&& ~~~typeToAllTypes e.initialType
    else typeToAllTypes e.initialType
  else 0#64

section Step

variable {s : SystemStatusNetworkInfo} {e : NetworkItem} {connected : Finset NetworkHandle}

theorem collate_eq : (itemOf e).collate s = { itemOf e with
      mApn := if TYPE_MOBILE ≠ e.type ∧ s.mApn ≠ "" then s.mApn else e.apn
      mAllTypes := maskAfter s e
      mAllNetworkHandles := tableAfter s.mAllNetworkHandles e } := by
  unfold SystemStatusNetworkInfo.collate maskAfter tableAfter
  by_cases hapn : TYPE_MOBILE ≠ e.type ∧ s.mApn ≠ "" <;> cases hcon : e.connected <;>
    by_cases ht : typeToAllTypes e.initialType = 0#64 <;>
      simp [SystemStatusNetworkInfo.ofItem, NetworkInfoDataItemBase.new, hapn, hcon, ht]

section Table

variable {table : NetworkHandles} {slots : List NetworkInfoType}

theorem tableKept_iff_of_connected (hcon : e.connected = true) :
    TableKept slots e ↔ ¬ Fits slots e.networkHandle := iff_of_eq (if_pos hcon)

theorem tableKept_iff_of_disconnected (hcon : e.connected = false) :
    TableKept slots e ↔ ¬ TakesOut slots e :=
  iff_of_eq (if_neg (hcon ▸ Bool.false_ne_true))

variable (hc : Compact NetworkInfoType.Free table.slots)
include hc

theorem tableAfter_of_kept (hnd : (handles table.slots).Nodup) (hkept : TableKept table.slots e) :
    tableAfter table e = table := by
  unfold tableAfter
  cases hcon : e.connected with
  | true =>
    rw [tableKept_iff_of_connected hcon] at hkept
    rw [if_pos rfl]
    exact NetworkHandles.ext (putHandle_of_not_fits hc hkept)
  | false =>
    rw [tableKept_iff_of_disconnected hcon] at hkept
    rw [if_neg Bool.false_ne_true]
    split
    · rename_i ht
      exact NetworkHandles.delete_of_not_mem hc hnd fun hmem => hkept ⟨ht, hmem⟩
    · rfl

theorem tableAfter_of_fits (hcon : e.connected = true) (hfits : Fits table.slots e.networkHandle) :
    Compact NetworkInfoType.Free (tableAfter table e).slots ∧
      entries (tableAfter table e).slots = entries table.slots ++ [⟨e.networkHandle, e.type⟩] := by
  have hput : (tableAfter table e).slots = putHandle e.networkHandle e.type table.slots :=
    congrArg NetworkHandles.slots (if_pos hcon)
  rw [hput]
  exact putHandle_of_fits hc hfits

theorem tableAfter_of_takesOut (hnd : (handles table.slots).Nodup) (hcon : e.connected = false)
    (hout : TakesOut table.slots e) :
    Compact NetworkInfoType.Free (tableAfter table e).slots ∧
      (entries (tableAfter table e).slots).Perm
        ((entries table.slots).erase ⟨e.networkHandle, e.type⟩) := by
  have hdel : tableAfter table e = table.delete e.networkHandle e.type :=
    (if_neg (hcon ▸ Bool.false_ne_true)).trans (if_pos hout.1)
  rw [hdel]
  exact NetworkHandles.delete_of_mem hc hnd hout.2

theorem tableAfter_cases (hnd : (handles table.slots).Nodup) :
    (e.connected = true ∧ Fits table.slots e.networkHandle ∧
        Compact NetworkInfoType.Free (tableAfter table e).slots ∧
        entries (tableAfter table e).slots = entries table.slots ++ [⟨e.networkHandle, e.type⟩]) ∨
      (e.connected = false ∧ TakesOut table.slots e ∧
        Compact NetworkInfoType.Free (tableAfter table e).slots ∧
        (entries (tableAfter table e).slots).Perm
          ((entries table.slots).erase ⟨e.networkHandle, e.type⟩)) ∨
      (TableKept table.slots e ∧ tableAfter table e = table) := by
  by_cases hkept : TableKept table.slots e
  · exact Or.inr (Or.inr ⟨hkept, tableAfter_of_kept hc hnd hkept⟩)
  · cases hcon : e.connected with
    | true =>
      rw [tableKept_iff_of_connected hcon, not_not] at hkept
      exact Or.inl ⟨rfl, hkept, tableAfter_of_fits hc hcon hkept⟩
    | false =>
      rw [tableKept_iff_of_disconnected hcon, not_not] at hkept
      exact Or.inr (Or.inl ⟨rfl, hkept, tableAfter_of_takesOut hc hnd hcon hkept⟩)

end Table

theorem mem_erase_iff {slots : List NetworkInfoType} {h : NetworkHandle} {t : NetworkType}
    (hnd : (handles slots).Nodup) (hmem : ⟨h, t⟩ ∈ entries slots) {x : NetworkInfoType} :
    x ∈ (entries slots).erase ⟨h, t⟩ ↔ x ∈ entries slots ∧ x.networkHandle ≠ h := by
  rw [(nodup_entries hnd).mem_erase_iff]
  constructor
  · rintro ⟨hne, hx⟩
    exact ⟨hx, fun heq => hne (inj_on_of_nodup_map hnd hx hmem heq)⟩
  · rintro ⟨hx, hne⟩
    exact ⟨fun heq => hne (heq ▸ rfl), hx⟩

theorem equals_iff (hc : Compact NetworkInfoType.Free s.mAllNetworkHandles.slots)
    (hnd : (handles s.mAllNetworkHandles.slots).Nodup) :
    s.equals ((itemOf e).collate s) = true ↔ Repeats s e := by
  have htable : s.mAllNetworkHandles.slots = (tableAfter s.mAllNetworkHandles e).slots ↔
      TableKept s.mAllNetworkHandles.slots e := by
    constructor
    · intro heq
      rcases tableAfter_cases (e := e) hc hnd with ⟨-, -, -, hent⟩ | ⟨-, hout, -, hent⟩ | ⟨hk, -⟩
      · rw [← heq] at hent
        have hlen := congrArg List.length hent
        rw [length_append, length_singleton] at hlen
        omega
      · rw [← heq] at hent
        have hlen := hent.length_eq
        have hpos := length_pos_of_mem hout.2
        rw [length_erase_of_mem hout.2] at hlen
        omega
      · exact hk
    · intro hk
      rw [tableAfter_of_kept hc hnd hk]
  have happ : ((if TYPE_MOBILE ≠ e.type ∧ s.mApn ≠ "" then s.mApn else e.apn) = s.mApn) ↔
      ((TYPE_MOBILE ≠ e.type ∧ s.mApn ≠ "") ∨ s.mApn = e.apn) := by
    split
    · rename_i h
      exact ⟨fun _ => Or.inl h, fun _ => rfl⟩
    · rename_i h
      exact ⟨fun heq => Or.inr heq.symm, fun hor => (hor.resolve_left h).symm⟩
  rw [collate_eq]
  simp only [SystemStatusNetworkInfo.equals, Bool.and_eq_true, beq_iff_eq, decide_eq_true_eq,
    htable, happ, Repeats]
  constructor
  · rintro ⟨⟨hcon, hk⟩, hapn⟩
    exact ⟨hk, hcon.symm, hapn⟩
  · rintro ⟨hk, hcon, hapn⟩
    exact ⟨⟨hcon.symm, hk⟩, hapn⟩

section After

variable {table : NetworkHandles}

theorem nodup_after (hc : Compact NetworkInfoType.Free table.slots)
    (hnd : (handles table.slots).Nodup) :
    Compact NetworkInfoType.Free (tableAfter table e).slots ∧
      (handles (tableAfter table e).slots).Nodup := by
  rcases tableAfter_cases (e := e) hc hnd with ⟨-, hf, hc', hent⟩ | ⟨-, -, hc', hent⟩ | ⟨-, h⟩
  · refine ⟨hc', ?_⟩
    unfold handles
    rw [hent, map_append]
    refine List.Nodup.append hnd (nodup_singleton _) ?_
    intro x hx hx'
    obtain rfl := mem_singleton.mp hx'
    exact hf.2.1 hx
  · refine ⟨hc', (hent.map _).nodup_iff.mpr ?_⟩
    exact hnd.sublist (erase_sublist.map _)
  · rw [h]
    exact ⟨hc, hnd⟩

variable {h : NetworkHandle} {u : NetworkType}

section

variable (hc : Compact NetworkInfoType.Free table.slots)
include hc

theorem mem_handles_of_fits (hcon : e.connected = true) (hfits : Fits table.slots e.networkHandle) :
    h ∈ handles (tableAfter table e).slots ↔ h ∈ handles table.slots ∨ h = e.networkHandle := by
  unfold handles
  rw [(tableAfter_of_fits hc hcon hfits).2]
  simp

theorem mem_handles_of_takesOut (hnd : (handles table.slots).Nodup) (hcon : e.connected = false)
    (hout : TakesOut table.slots e) :
    h ∈ handles (tableAfter table e).slots ↔ h ∈ handles table.slots ∧ h ≠ e.networkHandle := by
  have hperm := (tableAfter_of_takesOut hc hnd hcon hout).2
  unfold handles
  rw [(hperm.map _).mem_iff, mem_map, mem_map]
  constructor
  · rintro ⟨x, hx, rfl⟩
    have hx' := (mem_erase_iff hnd hout.2).mp hx
    exact ⟨⟨x, hx'.1, rfl⟩, hx'.2⟩
  · rintro ⟨⟨x, hx, rfl⟩, hne⟩
    exact ⟨x, (mem_erase_iff hnd hout.2).mpr ⟨hx, hne⟩, rfl⟩

theorem hasType_of_fits (hcon : e.connected = true) (hfits : Fits table.slots e.networkHandle) :
    HasType (tableAfter table e).slots u ↔ HasType table.slots u ∨ u = e.type := by
  unfold HasType
  rw [(tableAfter_of_fits hc hcon hfits).2]
  simp only [mem_append, mem_singleton, or_and_right, exists_or, exists_eq_left]
  exact or_congr_right eq_comm

theorem hasType_of_takesOut (hnd : (handles table.slots).Nodup) (hcon : e.connected = false)
    (hout : TakesOut table.slots e) :
    HasType (tableAfter table e).slots u ↔
      ∃ x ∈ entries table.slots, x.networkHandle ≠ e.networkHandle ∧ x.networkType = u := by
  have hperm := (tableAfter_of_takesOut hc hnd hcon hout).2
  constructor
  · rintro ⟨x, hx, hu⟩
    have hx' := (mem_erase_iff hnd hout.2).mp (hperm.mem_iff.mp hx)
    exact ⟨x, hx'.1, hx'.2, hu⟩
  · rintro ⟨x, hx, hne, hu⟩
    exact ⟨x, hperm.mem_iff.mpr ((mem_erase_iff hnd hout.2).mpr ⟨hx, hne⟩), hu⟩

end

theorem type_of_takesOut {slots : List NetworkInfoType} (hnd : (handles slots).Nodup)
    (hout : TakesOut slots e) {x : NetworkInfoType} (hx : x ∈ entries slots)
    (hh : x.networkHandle = e.networkHandle) : x.networkType = e.type :=
  congrArg NetworkInfoType.networkType (inj_on_of_nodup_map hnd hx hout.2 hh)

end After

/-! ### The handles -/

variable {h : NetworkHandle} {mask : BitVec 64} {table : NetworkHandles}

theorem mem_connectedAfter_of_connected (hcon : e.connected = true) :
    h ∈ connectedAfter connected e ↔
      h ∈ connected ∨ (h = e.networkHandle ∧ h ≠ NETWORK_HANDLE_UNKNOWN) := by
  unfold connectedAfter
  split
  · rename_i hu
    constructor
    · exact Or.inl
    · rintro (hmem | ⟨rfl, hne⟩)
      · exact hmem
      · exact absurd hu hne
  · rename_i hu
    rw [Finset.mem_insert]
    constructor
    · rintro (rfl | hmem)
      · exact Or.inr ⟨rfl, hu⟩
      · exact Or.inl hmem
    · rintro (hmem | ⟨rfl, -⟩)
      · exact Or.inr hmem
      · exact Or.inl rfl

theorem mem_connectedAfter_of_disconnected (hreal : NETWORK_HANDLE_UNKNOWN ∉ connected)
    (hcon : e.connected = false) :
    h ∈ connectedAfter connected e ↔ h ∈ connected ∧ h ≠ e.networkHandle := by
  unfold connectedAfter
  split
  · rename_i hu
    constructor
    · intro hmem
      exact ⟨hmem, fun heq => hreal (hu ▸ heq ▸ hmem)⟩
    · exact And.left
  · rw [if_neg (hcon ▸ Bool.false_ne_true), Finset.mem_erase]
    exact and_comm

theorem unknown_notMem_connectedAfter (hreal : NETWORK_HANDLE_UNKNOWN ∉ connected) :
    NETWORK_HANDLE_UNKNOWN ∉ connectedAfter connected e := by
  intro hmem
  cases hcon : e.connected with
  | true =>
    rcases (mem_connectedAfter_of_connected hcon).mp hmem with h | ⟨-, hne⟩
    · exact hreal h
    · exact hne rfl
  | false => exact hreal ((mem_connectedAfter_of_disconnected hreal hcon).mp hmem).1

theorem exactly_of_connected (hr : Right table.slots mask connected) (hcon : e.connected = true)
    (hcard : (connectedAfter connected e).card ≤ MAX_NETWORK_HANDLES) (h : NetworkHandle) :
    h ∈ handles (tableAfter table e).slots ↔ h ∈ connectedAfter connected e := by
  have hsub : connected ⊆ connectedAfter connected e := fun x hx =>
    (mem_connectedAfter_of_connected hcon).mpr (Or.inl hx)
  have hexact := hr.exactly ((Finset.card_le_card hsub).trans hcard)
  rw [mem_connectedAfter_of_connected hcon]
  by_cases hfits : Fits table.slots e.networkHandle
  · rw [mem_handles_of_fits hr.compact hcon hfits, hexact h]
    refine or_congr_right (and_iff_left_of_imp ?_).symm
    rintro rfl
    exact hfits.1
  · have hkept : TableKept table.slots e := (tableKept_iff_of_connected hcon).mpr hfits
    rw [tableAfter_of_kept hr.compact hr.nodup hkept, hexact h]
    refine (or_iff_left_of_imp ?_).symm
    rintro ⟨rfl, hu⟩
    by_contra hnot
    -- the table is full
    have hfull : MAX_NETWORK_HANDLES ≤ (handles table.slots).length := by
      rw [handles, length_map, ← table.size]
      by_contra hlt
      exact hfits ⟨hu, fun hmem => hnot ((hexact _).mp hmem), Nat.not_le.mp hlt⟩
    have hset : connected = (handles table.slots).toFinset := by
      ext x
      rw [mem_toFinset, hexact x]
    have hcard' : connected.card = (handles table.slots).length := by
      rw [hset, toFinset_card_of_nodup hr.nodup]
    have hss : connected ⊂ connectedAfter connected e :=
      Finset.ssubset_iff_subset_ne.mpr ⟨hsub, fun heq => hnot
        (heq ▸ (mem_connectedAfter_of_connected hcon).mpr (Or.inr ⟨rfl, hu⟩))⟩
    have hlt := Finset.card_lt_card hss
    omega

theorem exactly_iff (hr : Right table.slots mask connected)
    (hreal : NETWORK_HANDLE_UNKNOWN ∉ connected) :
    ((connectedAfter connected e).card ≤ MAX_NETWORK_HANDLES →
        ∀ h, h ∈ handles (tableAfter table e).slots ↔ h ∈ connectedAfter connected e) ↔
      HandlesKept table.slots connected e := by
  cases hcon : e.connected with
  | true =>
    refine ⟨fun _ hfalse => ?_, fun _ hcard h => exactly_of_connected hr hcon hcard h⟩
    exact absurd (hcon.symm.trans hfalse) (by decide)
  | false =>
    have hmem : ∀ h, h ∈ connectedAfter connected e ↔ h ∈ connected ∧ h ≠ e.networkHandle :=
      fun h => mem_connectedAfter_of_disconnected hreal hcon
    unfold HandlesKept
    simp only [hcon, true_implies, hmem]
    refine imp_congr_right fun _ => ?_
    by_cases hout : TakesOut table.slots e
    · simp only [mem_handles_of_takesOut hr.compact hr.nodup hcon hout]
      constructor
      · intro h
        refine ⟨fun x hx => ?_, fun _ => hout⟩
        exact ⟨fun hin => ((h x).mp ⟨hin, hx⟩).1, fun hin => ((h x).mpr ⟨hin, hx⟩).1⟩
      · rintro ⟨h, -⟩ x
        exact and_congr_left (h x)
    · have hkept : TableKept table.slots e :=
        (tableKept_iff_of_disconnected hcon).mpr hout
      rw [tableAfter_of_kept hr.compact hr.nodup hkept]
      constructor
      · intro h
        refine ⟨fun x hx => (h x).trans (and_iff_left hx), fun hin => ?_⟩
        exact absurd rfl ((h _).mp hin).2
      · rintro ⟨h, hown⟩ x
        by_cases hx : x = e.networkHandle
        · subst hx
          exact ⟨fun hin => absurd (hown hin) hout, fun hin => absurd rfl hin.2⟩
        · exact (h x hx).trans (and_iff_left hx).symm

end Step

/-! ### The types -/

theorem hasBit_zero {u : NetworkType} : ¬ HasBit 0#64 u := fun h => h BitVec.zero_and

theorem agree_or_iff {slots : List NetworkInfoType} {t t' : NetworkType} :
    (∀ u, typeToAllTypes u ≠ 0#64 → (t = u ∨ HasType slots u ↔ HasType slots u ∨ u = t')) ↔
      t = t' ∨ (Held slots t ∧ Held slots t') := by
  constructor
  · intro h
    by_cases heq : t = t'
    · exact Or.inl heq
    · refine Or.inr ⟨?_, ?_⟩
      · by_cases ht : typeToAllTypes t = 0#64
        · exact Or.inl ht
        · exact Or.inr (((h t ht).mp (Or.inl rfl)).resolve_right heq)
      · by_cases ht : typeToAllTypes t' = 0#64
        · exact Or.inl ht
        · exact Or.inr (((h t' ht).mpr (Or.inr rfl)).resolve_left heq)
  · rintro (rfl | ⟨ht, ht'⟩) u hu
    · exact ⟨fun h => h.symm.imp_right Eq.symm, fun h => h.symm.imp_left Eq.symm⟩
    · constructor
      · rintro (rfl | h)
        · exact Or.inl (ht.resolve_left hu)
        · exact Or.inl h
      · rintro (h | rfl)
        · exact Or.inr h
        · exact Or.inr (ht'.resolve_left hu)

section Types

variable {s : SystemStatusNetworkInfo} {e : NetworkItem} {connected : Finset NetworkHandle}

variable (hr : Right s.mAllNetworkHandles.slots s.mAllTypes connected)
include hr

theorem types_of_connected (hcon : e.connected = true) :
    (∀ u, typeToAllTypes u ≠ 0#64 → (HasBit (maskAfter s e) u ↔
        HasType (tableAfter s.mAllNetworkHandles e).slots u)) ↔
      if Fits s.mAllNetworkHandles.slots e.networkHandle then
        e.initialType = e.type ∨ (Held s.mAllNetworkHandles.slots e.initialType ∧
          Held s.mAllNetworkHandles.slots e.type)
      else Held s.mAllNetworkHandles.slots e.initialType := by
  have hmask : maskAfter s e = typeToAllTypes e.initialType ||| s.mAllTypes := if_pos hcon
  have hbit : ∀ u, typeToAllTypes u ≠ 0#64 → (HasBit (maskAfter s e) u ↔
      e.initialType = u ∨ HasType s.mAllNetworkHandles.slots u) := fun u hu => by
    rw [hmask, hasBit_or hu, hasBit_typeToAllTypes hu, hr.types u hu]
  split
  · rename_i hfits
    rw [← agree_or_iff]
    refine forall_congr' fun u => imp_congr_right fun hu => ?_
    rw [hbit u hu, hasType_of_fits hr.compact hcon hfits]
  · rename_i hfits
    have hkept : TableKept s.mAllNetworkHandles.slots e :=
      (tableKept_iff_of_connected hcon).mpr hfits
    rw [tableAfter_of_kept hr.compact hr.nodup hkept]
    constructor
    · intro h
      by_cases ht : typeToAllTypes e.initialType = 0#64
      · exact Or.inl ht
      · exact Or.inr ((h _ ht).mp ((hbit _ ht).mpr (Or.inl rfl)))
    · intro h u hu
      refine (hbit u hu).trans (or_iff_right_of_imp ?_)
      rintro rfl
      exact h.resolve_left hu

theorem types_of_no_type (hcon : e.connected = false) (ht : typeToAllTypes e.initialType = 0#64) :
    (∀ u, typeToAllTypes u ≠ 0#64 → (HasBit (maskAfter s e) u ↔
        HasType (tableAfter s.mAllNetworkHandles e).slots u)) ↔
      OnlyType s.mAllNetworkHandles.slots e.initialType := by
  have hcon' : ¬ e.connected = true := hcon ▸ Bool.false_ne_true
  have hmask : maskAfter s e = 0#64 := (if_neg hcon').trans (if_neg (not_not.mpr ht))
  have hkept : TableKept s.mAllNetworkHandles.slots e :=
    (tableKept_iff_of_disconnected hcon).mpr fun hout => hout.1 ht
  rw [tableAfter_of_kept hr.compact hr.nodup hkept, hmask]
  constructor
  · intro h u hu hhas
    exact absurd ((h u hu).mpr hhas) hasBit_zero
  · intro h u hu
    refine ⟨fun hbit => absurd hbit hasBit_zero, fun hhas => ?_⟩
    exact absurd (h u hu hhas ▸ ht) hu

theorem typeCount_eq_zero : (s.mAllNetworkHandles.count e.networkHandle e.type).typeCount = 0 ↔
      ¬ ∃ x ∈ entries s.mAllNetworkHandles.slots, Sibling e.networkHandle e.type x := by
  rw [(NetworkHandles.count_eq hr.compact hr.nodup).2.1, countP_eq_zero]
  simp only [decide_eq_true_eq, not_exists, not_and]

theorem types_of_sibling (hcon : e.connected = false) (ht : typeToAllTypes e.initialType ≠ 0#64)
    (hsib : ∃ x ∈ entries s.mAllNetworkHandles.slots, Sibling e.networkHandle e.type x) :
    (∀ u, typeToAllTypes u ≠ 0#64 → (HasBit (maskAfter s e) u ↔
        HasType (tableAfter s.mAllNetworkHandles e).slots u)) ↔
      HasType s.mAllNetworkHandles.slots e.initialType ∧
        OnlyType s.mAllNetworkHandles.slots e.initialType := by
  have hcon' : ¬ e.connected = true := hcon ▸ Bool.false_ne_true
  have hmask : maskAfter s e = typeToAllTypes e.initialType :=
    ((if_neg hcon').trans (if_pos ht)).trans (if_neg fun h0 => (typeCount_eq_zero hr).mp h0 hsib)
  have hsame : ∀ u, HasType (tableAfter s.mAllNetworkHandles e).slots u ↔
      HasType s.mAllNetworkHandles.slots u := by
    intro u
    rcases tableAfter_cases (e := e) hr.compact hr.nodup with
      ⟨h, -, -, -⟩ | ⟨-, hout, -, -⟩ | ⟨-, h⟩
    · exact absurd h hcon'
    · rw [hasType_of_takesOut hr.compact hr.nodup hcon hout]
      constructor
      · rintro ⟨x, hx, -, hu⟩
        exact ⟨x, hx, hu⟩
      · rintro ⟨x, hx, hu⟩
        by_cases hh : x.networkHandle = e.networkHandle
        · -- the entry taken out has a sibling that stays
          obtain ⟨y, hy, hyt, hyh⟩ := hsib
          exact ⟨y, hy, hyh, (hyt.trans (type_of_takesOut hr.nodup hout hx hh).symm).trans hu⟩
        · exact ⟨x, hx, hh, hu⟩
    · rw [h]
  simp only [hmask, hsame]
  constructor
  · intro h
    refine ⟨(h _ ht).mp ((hasBit_typeToAllTypes ht).mpr rfl), fun u hu hhas => ?_⟩
    exact ((hasBit_typeToAllTypes hu).mp ((h u hu).mpr hhas)).symm
  · rintro ⟨hhas, honly⟩ u hu
    rw [hasBit_typeToAllTypes hu]
    exact ⟨fun heq => heq ▸ hhas, fun h => (honly u hu h).symm⟩

theorem types_of_alone (hcon : e.connected = false) (ht : typeToAllTypes e.initialType ≠ 0#64)
    (hsib : ¬ ∃ x ∈ entries s.mAllNetworkHandles.slots, Sibling e.networkHandle e.type x) :
    (∀ u, typeToAllTypes u ≠ 0#64 → (HasBit (maskAfter s e) u ↔
        HasType (tableAfter s.mAllNetworkHandles e).slots u)) ↔
      (e.initialType = e.type ∨ (¬ HasType s.mAllNetworkHandles.slots e.initialType ∧
        (TakesOut s.mAllNetworkHandles.slots e → typeToAllTypes e.type = 0#64))) := by
  have hcon' : ¬ e.connected = true := hcon ▸ Bool.false_ne_true
  have hmask : maskAfter s e = s.mAllTypes &&& ~~~typeToAllTypes e.initialType :=
    ((if_neg hcon').trans (if_pos ht)).trans (if_pos ((typeCount_eq_zero hr).mpr hsib))
  have hbit : ∀ u, typeToAllTypes u ≠ 0#64 → (HasBit (maskAfter s e) u ↔
      HasType s.mAllNetworkHandles.slots u ∧ e.initialType ≠ u) := fun u hu => by
    rw [hmask, hasBit_and_not hu, hasBit_typeToAllTypes hu, hr.types u hu]
  have hown : ∀ x ∈ entries s.mAllNetworkHandles.slots, x.networkType = e.type →
      x.networkHandle = e.networkHandle := fun x hx hxt => by
    by_contra hne
    exact hsib ⟨x, hx, hxt, hne⟩
  by_cases hout : TakesOut s.mAllNetworkHandles.slots e
  · have hgone : ∀ u, HasType (tableAfter s.mAllNetworkHandles e).slots u ↔
        HasType s.mAllNetworkHandles.slots u ∧ u ≠ e.type := by
      intro u
      rw [hasType_of_takesOut hr.compact hr.nodup hcon hout]
      constructor
      · rintro ⟨x, hx, hne, rfl⟩
        exact ⟨⟨x, hx, rfl⟩, fun hxt => hne (hown x hx hxt)⟩
      · rintro ⟨⟨x, hx, rfl⟩, hne⟩
        exact ⟨x, hx, fun hh => hne (type_of_takesOut hr.nodup hout hx hh), rfl⟩
    have hhas : HasType s.mAllNetworkHandles.slots e.type := ⟨_, hout.2, rfl⟩
    constructor
    · intro h
      by_cases heq : e.initialType = e.type
      · exact Or.inl heq
      · refine Or.inr ⟨fun hinit => ?_, fun _ => ?_⟩
        · exact ((hbit _ ht).mp ((h _ ht).mpr ((hgone _).mpr ⟨hinit, heq⟩))).2 rfl
        · by_contra hty
          exact ((hgone _).mp ((h _ hty).mp ((hbit _ hty).mpr ⟨hhas, heq⟩))).2 rfl
    · rintro (heq | ⟨hinit, hty⟩) u hu
      · rw [hbit u hu, hgone u, heq]
        exact and_congr_right fun _ => ne_comm
      · rw [hbit u hu, hgone u]
        refine and_congr_right fun hhas => ⟨fun _ heq => ?_, fun _ heq => ?_⟩
        · exact hu (heq ▸ hty hout)
        · exact hinit (heq ▸ hhas)
  · have hkept : TableKept s.mAllNetworkHandles.slots e :=
      (tableKept_iff_of_disconnected hcon).mpr hout
    have hno : ¬ HasType s.mAllNetworkHandles.slots e.type := by
      rintro ⟨x, hx, hxt⟩
      have hx' : x = ⟨e.networkHandle, e.type⟩ :=
        congr (congrArg NetworkInfoType.mk (hown x hx hxt)) hxt
      exact hout ⟨ht, hx' ▸ hx⟩
    rw [tableAfter_of_kept hr.compact hr.nodup hkept]
    constructor
    · intro h
      refine Or.inr ⟨fun hinit => ?_, fun hfalse => absurd hfalse hout⟩
      exact ((hbit _ ht).mp ((h _ ht).mpr hinit)).2 rfl
    · intro hor u hu
      have hinit : ¬ HasType s.mAllNetworkHandles.slots e.initialType := by
        rcases hor with heq | ⟨hinit, -⟩
        · rw [heq]
          exact hno
        · exact hinit
      rw [hbit u hu]
      exact and_iff_left_of_imp fun hhas heq => hinit (heq ▸ hhas)

theorem types_iff (hstored : ¬ Repeats s e) :
    (∀ u, typeToAllTypes u ≠ 0#64 → (HasBit (maskAfter s e) u ↔
        HasType (tableAfter s.mAllNetworkHandles e).slots u)) ↔ TypesKept s e := by
  unfold TypesKept
  rw [or_iff_right hstored]
  cases hcon : e.connected with
  | true => exact types_of_connected hr hcon
  | false =>
    rw [if_neg Bool.false_ne_true]
    by_cases ht : typeToAllTypes e.initialType = 0#64
    · rw [if_pos ht]
      exact types_of_no_type hr hcon ht
    · rw [if_neg ht]
      split
      · rename_i hsib
        exact types_of_sibling hr hcon ht hsib
      · rename_i hsib
        exact types_of_alone hr hcon ht hsib

end Types

/-! ## Runs -/

namespace Watched

variable {w : Watched} {e : NetworkItem}

theorem getLast?_step : (w.step e).1.mNetworkInfo.getLast? =
    some (latestAfter w.mNetworkInfo.getLast? (itemOf e)) :=
  getLast?_setIteminReport w.mNetworkInfo rfl

theorem right_first (e : NetworkItem) :
    Right (itemOf e).mAllNetworkHandles.slots (itemOf e).mAllTypes (connectedAfter ∅ e) ↔
      if e.networkHandle = NETWORK_HANDLE_UNKNOWN then typeToAllTypes e.initialType = 0#64
      else e.connected = true := by
  have hslots : (itemOf e).mAllNetworkHandles.slots = ⟨e.networkHandle, e.initialType⟩ ::
      List.replicate (MAX_NETWORK_HANDLES - 1) .unknown := rfl
  have hrest : ∀ x ∈ List.replicate (MAX_NETWORK_HANDLES - 1) NetworkInfoType.unknown, x.Free :=
    fun x hx => eq_of_mem_replicate hx ▸ rfl
  have hbit : ∀ u, typeToAllTypes u ≠ 0#64 →
      (HasBit (itemOf e).mAllTypes u ↔ e.initialType = u) := fun u hu =>
    hasBit_typeToAllTypes hu
  rw [hslots]
  by_cases hu : e.networkHandle = NETWORK_HANDLE_UNKNOWN
  · -- no handle: the table is empty
    have hall : ∀ x ∈ (⟨e.networkHandle, e.initialType⟩ : NetworkInfoType) ::
        List.replicate (MAX_NETWORK_HANDLES - 1) .unknown, x.Free := by
      intro x hx
      rcases mem_cons.mp hx with rfl | hx
      · exact hu
      · exact hrest x hx
    have hnone : entries (⟨e.networkHandle, e.initialType⟩ ::
        List.replicate (MAX_NETWORK_HANDLES - 1) .unknown) = [] :=
      live_append (fun _ hx => absurd hx not_mem_nil) hall
    have hcompact := compact_append (fun x hx => absurd hx not_mem_nil) hall
    rw [if_pos hu]
    constructor
    · intro h
      by_contra ht
      obtain ⟨x, hx, -⟩ := (h.types _ ht).mp ((hbit _ ht).mpr rfl)
      rw [hnone] at hx
      cases hx
    · intro ht
      refine ⟨hcompact, ?_, fun _ h => ?_, fun u hu' => ?_⟩
      · rw [handles, hnone]
        exact nodup_nil
      · rw [handles, hnone, connectedAfter, if_pos hu]
        simp
      · rw [hbit u hu', HasType, hnone]
        refine ⟨fun heq => absurd (heq ▸ ht) hu', ?_⟩
        rintro ⟨x, hx, -⟩
        cases hx
  · have hone : ∀ x ∈ [(⟨e.networkHandle, e.initialType⟩ : NetworkInfoType)], ¬ x.Free := by
      intro x hx
      obtain rfl := mem_singleton.mp hx
      exact hu
    have hent : entries (⟨e.networkHandle, e.initialType⟩ ::
        List.replicate (MAX_NETWORK_HANDLES - 1) .unknown) = [⟨e.networkHandle, e.initialType⟩] :=
      live_append hone hrest
    rw [if_neg hu]
    constructor
    · intro h
      by_contra hcon
      have hcon' : e.connected = false := Bool.eq_false_iff.mpr hcon
      have hempty : connectedAfter ∅ e = ∅ := by
        ext x
        rw [mem_connectedAfter_of_disconnected (Finset.notMem_empty _) hcon']
        simp
      have hmem := (h.exactly (by simp [hempty]) e.networkHandle).mp (by simp [handles, hent])
      rw [hempty] at hmem
      cases hmem
    · intro hcon
      refine ⟨compact_append hone hrest, ?_, fun _ h => ?_, fun u hu' => ?_⟩
      · rw [handles, hent]
        exact nodup_singleton _
      · rw [mem_connectedAfter_of_connected hcon, handles, hent]
        simp only [map_cons, map_nil, mem_singleton, Finset.notMem_empty, false_or]
        refine (and_iff_left_of_imp ?_).symm
        rintro rfl
        exact hu
      · rw [hbit u hu', HasType, hent]
        simp

theorem right_next {s : SystemStatusNetworkInfo} {connected : Finset NetworkHandle}
    (hr : Right s.mAllNetworkHandles.slots s.mAllTypes connected)
    (hreal : NETWORK_HANDLE_UNKNOWN ∉ connected) :
    Right (latestAfter (some s) (itemOf e)).mAllNetworkHandles.slots
        (latestAfter (some s) (itemOf e)).mAllTypes (connectedAfter connected e) ↔
      HandlesKept s.mAllNetworkHandles.slots connected e ∧ TypesKept s e := by
  have hexact := exactly_iff (e := e) hr hreal
  by_cases hrep : Repeats s e
  · have hlatest : latestAfter (some s) (itemOf e) =
        { s with mUtcReported := ((itemOf e).collate s).mUtcReported } :=
      if_pos ((equals_iff hr.compact hr.nodup).mpr hrep)
    rw [hlatest]
    rw [tableAfter_of_kept hr.compact hr.nodup hrep.1] at hexact
    constructor
    · intro h
      exact ⟨hexact.mp h.exactly, Or.inl hrep⟩
    · rintro ⟨h, -⟩
      exact ⟨hr.compact, hr.nodup, hexact.mpr h, hr.types⟩
  · have hlatest : latestAfter (some s) (itemOf e) = (itemOf e).collate s :=
      if_neg fun heq => hrep ((equals_iff hr.compact hr.nodup).mp heq)
    have htypes := types_iff hr hrep
    rw [hlatest, collate_eq]
    constructor
    · intro h
      exact ⟨hexact.mp h.exactly, htypes.mp h.types⟩
    · rintro ⟨hh, ht⟩
      obtain ⟨hc, hnd⟩ := nodup_after (e := e) hr.compact hr.nodup
      exact ⟨hc, hnd, hexact.mpr hh, htypes.mpr ht⟩

theorem latestRight_step (hreal : NETWORK_HANDLE_UNKNOWN ∉ w.connected) (hr : w.LatestRight) :
    (w.step e).1.LatestRight ↔ w.Kept e := by
  unfold LatestRight Kept
  rw [getLast?_step]
  unfold LatestRight at hr
  cases hlast : w.mNetworkInfo.getLast? with
  | none =>
    rw [hlast] at hr
    show Right _ _ (connectedAfter w.connected e) ↔ _
    rw [hr]
    exact right_first e
  | some s =>
    rw [hlast] at hr
    exact right_next hr hreal

/-- Over every sequence of data items: the latest entry is right throughout,
compact, without duplicates, with the handles connected and the types they
have, if and only if every item is one of those that keep it so. -/
theorem latestRight_iff (es : List NetworkItem) :
    StatesMeet step LatestRight empty es ↔ StepsMeet step Kept empty es :=
  statesMeet_iff_stepsMeet (Q := fun w => NETWORK_HANDLE_UNKNOWN ∉ w.connected)
    (fun _ _ hreal => unknown_notMem_connectedAfter hreal)
    (fun _ _ hreal hr => latestRight_step hreal hr) (Finset.notMem_empty _) rfl

/-- Two handles of Wi-Fi and one of a mobile network are connected; when one
of Wi-Fi goes, the mask loses the mobile network. -/
theorem not_latestRight_siblings :
    ¬ ∀ es : List NetworkItem, StatesMeet step LatestRight empty es := by
  intro h
  have hlast := (h [⟨1, 1, true, 1#64, "", 0⟩, ⟨1, 1, true, 2#64, "", 1⟩,
    ⟨0, 0, true, 3#64, "", 2⟩, ⟨1, 1, false, 1#64, "", 3⟩]).last
  have htype : HasType [⟨3#64, 0⟩, ⟨2#64, 1⟩] 0 := by decide
  have hbit := (hlast.types 0 (by decide)).mpr htype
  exact absurd hbit (by decide)

end Watched

end LocStack.Core
