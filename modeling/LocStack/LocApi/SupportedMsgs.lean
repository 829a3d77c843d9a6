/-
# `LocStack.LocApi.SupportedMsgs` — which messages the modem supports

The modem answers with a bit map of its messages, bit `b` of byte `k` for the
message 8k + b.  checkQmiMsgsSupported makes of it a mask of 64 bits, bit `i`
for the message at position `i` of an array.

    loopSize       counts positions, and is bounded by the bytes
    1 << idx       is an int: the position 31 sets all bits from there on,
                   and for those behind it is undefined

`checkQmiMsgsSupported_right_iff`: the mask is right if and only if the
supported messages all stand at positions below 31 and below the number of
bytes, or bits set by the sign are those of messages that are supported.
-/
import LocStack.Base.Masks
import LocStack.LocApi.SyncReq

namespace LocStack.LocApi.SupportedMsgs

open Base Option

/-! ## The bit map -/

/-- The bytes that are announced. -/
abbrev MsgMap := List (BitVec 8)

/-- Bit `b` of byte `k` stands for the message 8k + b. -/
def MsgMap.Contains (msgs : MsgMap) (reqId : UInt32) : Prop :=
  ∃ byte, msgs[reqId.toNat / 8]? = some byte ∧ byte.getLsbD (reqId.toNat % 8) = true

/-- The test in the loop. -/
def MsgMap.tests (msgs : MsgMap) (reqId : UInt32) : Bool :=
  match msgs[(reqId >>> 3).toNat]? with
  | none => false
  | some byte => byte &&& BitVec.twoPow 8 (reqId &&& 7).toNat ≠ 0#8

theorem MsgMap.tests_iff (msgs : MsgMap) (reqId : UInt32) :
    msgs.tests reqId = true ↔ msgs.Contains reqId := by
  have hbyte : (reqId >>> 3).toNat = reqId.toNat / 8 := by
    rw [UInt32.toNat_shiftRight, Nat.shiftRight_eq_div_pow]
    rfl
  have hbit : (reqId &&& 7).toNat = reqId.toNat % 8 := by
    rw [UInt32.toNat_and]
    exact Nat.and_two_pow_sub_one_eq_mod reqId.toNat 3
  rw [MsgMap.tests, MsgMap.Contains, hbyte, hbit]
  cases msgs[reqId.toNat / 8]? with
  | none => exact iff_of_false Bool.false_ne_true fun ⟨_, h, _⟩ => nomatch h
  | some byte =>
    rw [decide_eq_true_iff, and_twoPow_ne_zero byte (Nat.mod_lt _ (by decide))]
    exact ⟨fun h => ⟨byte, rfl, h⟩, fun ⟨_, h, hbit⟩ => some.inj h ▸ hbit⟩

/-! ## The code -/

/-- `result |= (1 << idx)`, if the shift is defined. -/
def setResult (result : BitVec 64) (idx : Nat) : Option (BitVec 64) :=
  (shl 32 idx).map fun bit => result ||| bit.signExtend 64

def loopSize (reqIdArray : List UInt32) (msgs : MsgMap) : Nat :=
  let size := reqIdArray.length
  let size := if size < msgs.length then size else msgs.length
  if size < 64 then size else 64

/-- `none` is a bit map that is not valid, and as the result an undefined one. -/
def checkQmiMsgsSupported (reqIdArray : List UInt32) (supported_msgs : Option MsgMap) :
    Option (BitVec 64) :=
  match supported_msgs with
  | none => some 0
  | some msgs =>
    ((reqIdArray.take (loopSize reqIdArray msgs)).zipIdx).foldlM
      (fun result item => if msgs.tests item.1 then setResult result item.2 else some result) 0

structure SupportMsgsResp where
  /-- `resp.result == QMI_RESULT_SUCCESS_V01` -/
  success : Bool
  supported_msgs : Option MsgMap

/-- The statics of `locClientSupportMsgCheck`. -/
structure Checked where
  isCheckedAlready : Bool
  supportedMsgChecked : BitVec 64
  deriving DecidableEq

def Checked.initial : Checked := ⟨false, 0⟩

open LocClientStatus

/-- `resp` is `none` if the request could not be sent; the handle is valid.
The mask is the one at `supportedMsg`. -/
def locClientSupportMsgCheck (s : Checked) (msgArray : List UInt32)
    (resp : Option SupportMsgsResp) (supportedMsg : BitVec 64) :
    Option (LocClientStatus × Checked × BitVec 64) :=
  if s.isCheckedAlready then some (eLOC_CLIENT_SUCCESS, s, s.supportedMsgChecked)
  else
    match resp with
    | none => some (eLOC_CLIENT_FAILURE_GENERAL, s, supportedMsg)
    | some resp =>
      if resp.success then
        (checkQmiMsgsSupported msgArray resp.supported_msgs).map fun mask =>
          (eLOC_CLIENT_SUCCESS, ⟨true, mask⟩, mask)
      else some (eLOC_CLIENT_FAILURE_GENERAL, s, supportedMsg)

/-! ## What the mask is to be -/

/-- Position `i` holds a message that is in the bit map. -/
def SupportedAt (reqIdArray : List UInt32) (supported_msgs : Option MsgMap) (i : Nat) : Prop :=
  ∃ msgs ∈ supported_msgs, ∃ reqId ∈ reqIdArray[i]?, MsgMap.Contains msgs reqId

/-- The bit of each position, and no others. -/
def MaskRight (reqIdArray : List UInt32) (supported_msgs : Option MsgMap) (mask : BitVec 64) :
    Prop :=
  ∀ i, mask.getLsbD i = true ↔ SupportedAt reqIdArray supported_msgs i

/-- The supported messages are at positions that are tested and have a bit; or
all messages from position 31 on are supported, which has the bits of all. -/
def MaskFits (reqIdArray : List UInt32) (supported_msgs : Option MsgMap) : Prop :=
  ∀ msgs ∈ supported_msgs,
    (∀ i, SupportedAt reqIdArray supported_msgs i → i < 31 ∧ i < msgs.length) ∨
      (msgs.length = 32 ∧ ∀ i, 31 ≤ i → i < 64 → SupportedAt reqIdArray supported_msgs i)

/-! ## The loop -/

theorem getLsbD_signExtend_twoPow {idx k : Nat} (hidx : idx < 32) :
    ((BitVec.twoPow 32 idx).signExtend 64).getLsbD k = true ↔
      idx = k ∨ (idx = 31 ∧ 31 ≤ k ∧ k < 64) := by
  rw [BitVec.getLsbD_signExtend, BitVec.msb_twoPow, Bool.and_eq_true, decide_eq_true_eq]
  by_cases hk : k < 32
  · rw [if_pos hk, getLsbD_twoPow_iff hidx]
    omega
  · rw [if_neg hk, Bool.and_eq_true, decide_eq_true_eq, decide_eq_true_eq]
    omega

section Loop

variable {reqIdArray : List UInt32} {msgs : MsgMap} {i : Nat}

theorem supportedAt_some_iff : SupportedAt reqIdArray (some msgs) i ↔
    ∃ reqId, reqIdArray[i]? = some reqId ∧ msgs.tests reqId = true := by
  simp only [MsgMap.tests_iff]
  constructor
  · rintro ⟨msgs', hmsgs, reqId, hreqId, hcontains⟩
    obtain rfl := some.inj hmsgs
    exact ⟨reqId, hreqId, hcontains⟩
  · rintro ⟨reqId, hreqId, hcontains⟩
    exact ⟨msgs, rfl, reqId, hreqId, hcontains⟩

theorem SupportedAt.lt_length {supported_msgs : Option MsgMap}
    (h : SupportedAt reqIdArray supported_msgs i) : i < reqIdArray.length := by
  obtain ⟨-, -, reqId, hreqId, -⟩ := h
  exact (List.getElem?_eq_some_iff.mp hreqId).1

theorem mem_items_iff {n : Nat} {item : UInt32 × Nat} :
    item ∈ (reqIdArray.take n).zipIdx ↔ item.2 < n ∧ reqIdArray[item.2]? = some item.1 := by
  rw [← List.mk_mem_zipIdx_iff_getElem?, List.mk_mem_zipIdx_iff_getElem?,
    List.mk_mem_zipIdx_iff_getElem?, List.getElem?_take]
  by_cases h : item.2 < n
  · rw [if_pos h, and_iff_right h]
  · rw [if_neg h]
    exact iff_of_false (fun heq => nomatch heq) fun heq => h heq.1

/-- Where all shifts are defined, the bits are those that the tested positions
set. -/
theorem checkQmiMsgsSupported_eq
    (hdef : ∀ i < loopSize reqIdArray msgs, SupportedAt reqIdArray (some msgs) i → i < 32) :
    ∃ mask, checkQmiMsgsSupported reqIdArray (some msgs) = some mask ∧
      ∀ k, mask.getLsbD k = true ↔ ∃ i < loopSize reqIdArray msgs,
        SupportedAt reqIdArray (some msgs) i ∧ (i = k ∨ (i = 31 ∧ 31 ≤ k ∧ k < 64)) := by
  have hturn : ∀ result : BitVec 64, ∀ item ∈ (reqIdArray.take (loopSize reqIdArray msgs)).zipIdx,
        ∃ result', (if msgs.tests item.1 then setResult result item.2 else some result) =
            some result' ∧
          ∀ k, result'.getLsbD k = true ↔ result.getLsbD k = true ∨
            (msgs.tests item.1 = true ∧ (item.2 = k ∨ (item.2 = 31 ∧ 31 ≤ k ∧ k < 64))) := by
    intro result item hmem
    obtain ⟨hlt, hreqId⟩ := mem_items_iff.mp hmem
    by_cases htest : msgs.tests item.1
    · have hidx := hdef item.2 hlt (supportedAt_some_iff.mpr ⟨_, hreqId, htest⟩)
      refine ⟨result ||| (BitVec.twoPow 32 item.2).signExtend 64, ?_, fun k => ?_⟩
      · rw [if_pos htest, setResult, shl_natCast hidx]
        rfl
      · rw [BitVec.getLsbD_or, Bool.or_eq_true, getLsbD_signExtend_twoPow hidx, and_iff_right htest]
    · exact ⟨result, if_neg htest, fun k => (or_iff_left fun h => htest h.1).symm⟩
  obtain ⟨mask, hmask, hbits⟩ := found_foldlM hturn 0
  refine ⟨mask, hmask, fun k => (hbits k).trans ?_⟩
  rw [BitVec.ofNat_eq_ofNat, BitVec.getLsbD_zero, or_iff_right Bool.false_ne_true]
  constructor
  · rintro ⟨item, hmem, htest, hk⟩
    obtain ⟨hlt, hreqId⟩ := mem_items_iff.mp hmem
    exact ⟨item.2, hlt, supportedAt_some_iff.mpr ⟨_, hreqId, htest⟩, hk⟩
  · rintro ⟨i, hlt, hi, hk⟩
    obtain ⟨reqId, hreqId, htest⟩ := supportedAt_some_iff.mp hi
    exact ⟨(reqId, i), mem_items_iff.mpr ⟨hlt, hreqId⟩, htest, hk⟩

theorem checkQmiMsgsSupported_undefined (hlt : i < loopSize reqIdArray msgs) (hi : 32 ≤ i)
    (h : SupportedAt reqIdArray (some msgs) i) :
    checkQmiMsgsSupported reqIdArray (some msgs) = none := by
  obtain ⟨reqId, hreqId, htest⟩ := supportedAt_some_iff.mp h
  have hmem : (reqId, i) ∈ (reqIdArray.take (loopSize reqIdArray msgs)).zipIdx :=
    mem_items_iff.mpr ⟨hlt, hreqId⟩
  refine foldlM_eq_none hmem ?_ 0
  intro result
  have hshl : shl 32 (i : Int) = none := if_neg fun h => by omega
  rw [if_pos htest, setResult, hshl]
  rfl

end Loop

theorem loopSize_eq (reqIdArray : List UInt32) (msgs : MsgMap) :
    loopSize reqIdArray msgs = min (min reqIdArray.length msgs.length) 64 := by
  simp only [loopSize]
  split <;> split <;> omega

/-- The mask is right exactly for the arrays and bit maps that fit. -/
theorem checkQmiMsgsSupported_right_iff (reqIdArray : List UInt32)
    (supported_msgs : Option MsgMap) (hlength : reqIdArray.length ≤ 64) :
    (∃ mask, checkQmiMsgsSupported reqIdArray supported_msgs = some mask ∧
        MaskRight reqIdArray supported_msgs mask) ↔
      MaskFits reqIdArray supported_msgs := by
  cases supported_msgs with
  | none =>
    refine iff_of_true ⟨0, rfl, fun i => ?_⟩ fun _ h => nomatch h
    exact iff_of_false (by simp) fun ⟨_, h, _⟩ => nomatch h
  | some msgs =>
    have hsize : loopSize reqIdArray msgs = min reqIdArray.length msgs.length := by
      rw [loopSize_eq]
      omega
    constructor
    · rintro ⟨mask, hmask, hright⟩ msgs' hmsgs
      obtain rfl := some.inj hmsgs
      have hdef : ∀ i < loopSize reqIdArray msgs,
          SupportedAt reqIdArray (some msgs) i → i < 32 := by
        intro i hlt hi
        by_contra hge
        rw [checkQmiMsgsSupported_undefined hlt (Nat.le_of_not_lt hge) hi] at hmask
        cases hmask
      obtain ⟨mask', hmask', hbits⟩ := checkQmiMsgsSupported_eq hdef
      obtain rfl := some.inj (hmask'.symm.trans hmask)
      have hset : ∀ k, SupportedAt reqIdArray (some msgs) k ↔
          ∃ i < loopSize reqIdArray msgs, SupportedAt reqIdArray (some msgs) i ∧
            (i = k ∨ (i = 31 ∧ 31 ≤ k ∧ k < 64)) := fun k => (hright k).symm.trans (hbits k)
      by_cases hsign : 31 < loopSize reqIdArray msgs ∧ SupportedAt reqIdArray (some msgs) 31
      · -- the sign has set all bits from 31 on, and a byte more would be undefined
        have hall : ∀ i, 31 ≤ i → i < 64 → SupportedAt reqIdArray (some msgs) i :=
          fun i hge hlt => (hset i).mpr ⟨31, hsign.1, hsign.2, .inr ⟨rfl, hge, hlt⟩⟩
        have h63 := (hall 63 (by decide) (by decide)).lt_length
        have hbytes : ¬ 32 < loopSize reqIdArray msgs := fun hlt =>
          Nat.lt_irrefl _ (hdef 32 hlt (hall 32 (by decide) (by decide)))
        exact .inr ⟨by omega, hall⟩
      · refine .inl fun i hi => ?_
        obtain ⟨j, hlt, hj, heq⟩ := (hset i).mp hi
        have hne : j ≠ 31 := by
          rintro rfl
          exact hsign ⟨hlt, hj⟩
        have hj32 := hdef j hlt hj
        omega
    · intro h
      rcases h msgs rfl with hlow | ⟨hbytes, hall⟩
      · have hdef : ∀ i < loopSize reqIdArray msgs,
            SupportedAt reqIdArray (some msgs) i → i < 32 :=
          fun i _ hi => Nat.lt_trans (hlow i hi).1 (by decide)
        obtain ⟨mask, hmask, hbits⟩ := checkQmiMsgsSupported_eq hdef
        refine ⟨mask, hmask, fun k => (hbits k).trans ?_⟩
        constructor
        · rintro ⟨i, -, hi, rfl | ⟨rfl, -⟩⟩
          · exact hi
          · exact absurd (hlow 31 hi).1 (Nat.lt_irrefl 31)
        · intro hk
          have hlength := hk.lt_length
          have hbyte := (hlow k hk).2
          exact ⟨k, by omega, hk, .inl rfl⟩
      · have h63 := (hall 63 (by decide) (by decide)).lt_length
        have hdef : ∀ i < loopSize reqIdArray msgs,
            SupportedAt reqIdArray (some msgs) i → i < 32 := fun i hlt _ => by omega
        obtain ⟨mask, hmask, hbits⟩ := checkQmiMsgsSupported_eq hdef
        refine ⟨mask, hmask, fun k => (hbits k).trans ?_⟩
        constructor
        · rintro ⟨i, -, hi, rfl | ⟨-, hge, hlt⟩⟩
          · exact hi
          · exact hall k hge hlt
        · intro hk
          have hlength := hk.lt_length
          rcases Nat.lt_or_ge k 31 with hlt | hge
          · exact ⟨k, by omega, hk, .inl rfl⟩
          · exact ⟨31, by omega, hall 31 (by decide) (by decide), .inr ⟨rfl, hge, by omega⟩⟩

/-- The messages 0 and 8 of three. -/
theorem checkQmiMsgsSupported_right_threeMsgs : [0, 1, 8].length ≤ 64 ∧
      ∃ mask, checkQmiMsgsSupported [0, 1, 8] (some [0x1, 0x1, 0x0]) = some mask ∧
        MaskRight [0, 1, 8] (some [0x1, 0x1, 0x0]) mask := by
  refine ⟨by decide, (checkQmiMsgsSupported_right_iff _ _ (by decide)).mpr ?_⟩
  intro msgs hmsgs
  obtain rfl := some.inj hmsgs
  exact .inl fun i hi => ⟨Nat.lt_trans hi.lt_length (by decide), hi.lt_length⟩

/-- In one byte there are two messages, but only the first position is tested. -/
theorem not_checkQmiMsgsSupported_right_oneByte :
    ¬ ∃ mask, checkQmiMsgsSupported [0, 1] (some [0x3]) = some mask ∧
      MaskRight [0, 1] (some [0x3]) mask := by
  rintro ⟨mask, hmask, hright⟩
  have hone : checkQmiMsgsSupported [0, 1] (some [0x3]) = some 1 := by decide
  obtain rfl := some.inj (hone.symm.trans hmask)
  have hbit := (hright 1).mpr ⟨_, rfl, 1, rfl, 0x3, rfl, by decide⟩
  revert hbit
  decide

end LocStack.LocApi.SupportedMsgs
