/-
# `LocStack.LocApi.EngineCapabilities` — what `open` tells the adapters

When LocApiV02 is opened it asks the modem which messages it supports and,
if it supports batching, what it is capable of.

    locClientSupportMsgCheck    batching, breaches and distance based tracking
    QUERY_AON_CONFIG            four features, each a bit of aonCapability

The bits are tested with `|` in place of `&`: every mask that is valid has all
four features (`openCapabilities_right_iff`).
-/
import LocStack.LocApi.SupportedMsgs

namespace LocStack.LocApi.EngineCapabilities

open Base LocApi.SupportedMsgs Option
open LocClientStatus

/-! ## The messages -/

inductive LocCheckingMessagesID where
  | LOC_API_ADAPTER_MESSAGE_LOCATION_BATCHING | LOC_API_ADAPTER_MESSAGE_BATCHED_GENFENCE_BREACH
  | LOC_API_ADAPTER_MESSAGE_DISTANCE_BASE_TRACKING
  | LOC_API_ADAPTER_MESSAGE_ADAPTIVE_LOCATION_BATCHING
  | LOC_API_ADAPTER_MESSAGE_DISTANCE_BASE_LOCATION_BATCHING
  | LOC_API_ADAPTER_MESSAGE_UPDATE_TBF_ON_THE_FLY | LOC_API_ADAPTER_MESSAGE_OUTDOOR_TRIP_BATCHING

open LocCheckingMessagesID

/-- `1 << msgID` -/
def LocCheckingMessagesID.bit (msgID : LocCheckingMessagesID) : BitVec 64 :=
  BitVec.twoPow 64 msgID.ctorIdx

/-- The test that the adapters make. -/
def isMessageSupported (sSupportedMsgMask : BitVec 64) (msgID : LocCheckingMessagesID) : Bool :=
  msgID.bit &&& sSupportedMsgMask = msgID.bit

theorem isMessageSupported_iff (mask : BitVec 64) (msgID : LocCheckingMessagesID) :
    isMessageSupported mask msgID = true ↔ mask.getLsbD msgID.ctorIdx = true := by
  have hlt : msgID.ctorIdx < 64 := by
    cases msgID <;> decide
  rw [isMessageSupported, decide_eq_true_iff, LocCheckingMessagesID.bit, BitVec.and_comm,
    BitVec.and_twoPow]
  cases mask.getLsbD msgID.ctorIdx with
  | true => exact iff_of_true rfl rfl
  | false =>
    refine iff_of_false (fun hzero => ?_) Bool.false_ne_true
    have hbit := (getLsbD_twoPow_iff hlt).mpr rfl
    rw [← hzero] at hbit
    simp at hbit

/-! ## The code -/

def QMI_LOC_GET_BATCH_SIZE_REQ_V02 : UInt32 := 0x0075

def QMI_LOC_EVENT_GEOFENCE_BATCHED_BREACH_NOTIFICATION_IND_V02 : UInt32 := 0x0080

def QMI_LOC_START_DBT_REQ_V02 : UInt32 := 0x0092

def msgArray : List UInt32 :=
  [QMI_LOC_GET_BATCH_SIZE_REQ_V02, QMI_LOC_EVENT_GEOFENCE_BATCHED_BREACH_NOTIFICATION_IND_V02,
    QMI_LOC_START_DBT_REQ_V02]

def QMI_LOC_MASK_AON_AUTO_BATCHING_SUPPORTED : BitVec 32 := 0x01

def QMI_LOC_MASK_AON_DISTANCE_BASED_BATCHING_SUPPORTED : BitVec 32 := 0x02

def QMI_LOC_MASK_AON_UPDATE_TBF_SUPPORTED : BitVec 32 := 0x10

def QMI_LOC_MASK_AON_OUTDOOR_TRIP_BATCHING_SUPPORTED : BitVec 32 := 0x20

def aonRows : List (BitVec 32 × LocCheckingMessagesID) :=
  [(QMI_LOC_MASK_AON_AUTO_BATCHING_SUPPORTED, LOC_API_ADAPTER_MESSAGE_ADAPTIVE_LOCATION_BATCHING),
    (QMI_LOC_MASK_AON_DISTANCE_BASED_BATCHING_SUPPORTED,
      LOC_API_ADAPTER_MESSAGE_DISTANCE_BASE_LOCATION_BATCHING),
    (QMI_LOC_MASK_AON_UPDATE_TBF_SUPPORTED, LOC_API_ADAPTER_MESSAGE_UPDATE_TBF_ON_THE_FLY),
    (QMI_LOC_MASK_AON_OUTDOOR_TRIP_BATCHING_SUPPORTED,
      LOC_API_ADAPTER_MESSAGE_OUTDOOR_TRIP_BATCHING)]

/-- What comes of QUERY_AON_CONFIG; a mask that is not valid is `none`. -/
structure AonAnswer where
  status : LocClientStatus
  /-- `queryAonConfigInd.status == eQMI_LOC_SUCCESS_V02` -/
  indSuccess : Bool
  aonCapability : Option (BitVec 32)

/-- The tests of the mask, as they are in the code. -/
def addCapabilities (aonCapability : BitVec 32) (supportedMsgList : BitVec 64) : BitVec 64 :=
  aonRows.foldl (fun list row => if aonCapability ||| row.1 ≠ 0 then list ||| row.2.bit else list)
    supportedMsgList

def queryAonConfig (answer : AonAnswer) (supportedMsgList : BitVec 64) : BitVec 64 :=
  if answer.status = eLOC_CLIENT_FAILURE_UNSUPPORTED then supportedMsgList
  else if answer.status ≠ eLOC_CLIENT_SUCCESS ∨ answer.indSuccess = false then supportedMsgList
  else
    match answer.aonCapability with
    | none => supportedMsgList
    | some aonCapability => addCapabilities aonCapability supportedMsgList

/-- How the queries of one `open` are answered, the second if it is made. -/
structure OpenAnswers where
  supportMsgs : Option SupportMsgsResp
  aonConfig : AonAnswer

/-- The list that is passed to `setEngineCapabilities`. -/
def openCapabilities (s : Checked) (answers : OpenAnswers) : Option (Checked × BitVec 64) :=
  (locClientSupportMsgCheck s msgArray answers.supportMsgs 0).map fun (_, s, supportedMsgList) =>
    (s, if isMessageSupported supportedMsgList LOC_API_ADAPTER_MESSAGE_LOCATION_BATCHING then
        queryAonConfig answers.aonConfig supportedMsgList
      else supportedMsgList)

/-- An `open` leaves the statics behind. -/
def step (s : Checked) (answers : OpenAnswers) : Checked × List (BitVec 64) :=
  match openCapabilities s answers with
  | none => (s, [])
  | some (s, supportedMsgList) => (s, [supportedMsgList])

/-! ## What the list is to be -/

/-- The messages of the features, by the bits of aonCapability. -/
def featureMask : LocCheckingMessagesID → Option (BitVec 32)
  | LOC_API_ADAPTER_MESSAGE_ADAPTIVE_LOCATION_BATCHING =>
    some QMI_LOC_MASK_AON_AUTO_BATCHING_SUPPORTED
  | LOC_API_ADAPTER_MESSAGE_DISTANCE_BASE_LOCATION_BATCHING =>
    some QMI_LOC_MASK_AON_DISTANCE_BASED_BATCHING_SUPPORTED
  | LOC_API_ADAPTER_MESSAGE_UPDATE_TBF_ON_THE_FLY => some QMI_LOC_MASK_AON_UPDATE_TBF_SUPPORTED
  | LOC_API_ADAPTER_MESSAGE_OUTDOOR_TRIP_BATCHING =>
    some QMI_LOC_MASK_AON_OUTDOOR_TRIP_BATCHING_SUPPORTED
  | _ => none

/-- Batching is known to be supported, or is now found to be. -/
def AsksAon (s : Checked) (answers : OpenAnswers) : Prop :=
  if s.isCheckedAlready then s.supportedMsgChecked.getLsbD 0 = true
  else ∃ resp ∈ answers.supportMsgs, resp.success = true ∧
    ∃ msgs ∈ resp.supported_msgs, MsgMap.Contains msgs QMI_LOC_GET_BATCH_SIZE_REQ_V02

/-- The mask of a successful answer, if it is valid. -/
def AonAnswer.capability (answer : AonAnswer) : Option (BitVec 32) :=
  if answer.status = eLOC_CLIENT_SUCCESS ∧ answer.indSuccess = true then answer.aonCapability
  else none

/-- Of the features, exactly those are in the list whose bit the modem set. -/
def ListRight (s : Checked) (answers : OpenAnswers) (supportedMsgList : BitVec 64) : Prop :=
  ∀ msgID, ∀ mask ∈ featureMask msgID, isMessageSupported supportedMsgList msgID = true ↔
    AsksAon s answers ∧ ∃ capability ∈ answers.aonConfig.capability, capability &&& mask ≠ 0#32

/-- Where there is a mask, all four features are in it. -/
def AllOrNothing (s : Checked) (answers : OpenAnswers) : Prop :=
  AsksAon s answers → ∀ capability ∈ answers.aonConfig.capability,
    ∀ row ∈ aonRows, capability &&& row.1 ≠ 0#32

/-! ## The first query -/

/-- The statics never have a bit of a feature. -/
def Low (s : Checked) : Prop := ∀ k, s.supportedMsgChecked.getLsbD k = true → k < 3

theorem low_initial : Low Checked.initial := by
  intro k hk
  simp [Checked.initial] at hk

theorem checkQmiMsgsSupported_msgArray (supported_msgs : Option MsgMap) :
    ∃ mask, checkQmiMsgsSupported msgArray supported_msgs = some mask ∧
      ∀ k, mask.getLsbD k = true ↔ SupportedAt msgArray supported_msgs k ∧
        ∀ msgs ∈ supported_msgs, k < msgs.length := by
  cases supported_msgs with
  | none =>
    refine ⟨0, rfl, fun k => iff_of_false (by simp) ?_⟩
    exact fun ⟨⟨_, h, _⟩, _⟩ => nomatch h
  | some msgs =>
    have hlength : msgArray.length = 3 := rfl
    have hdef : ∀ i < loopSize msgArray msgs, SupportedAt msgArray (some msgs) i → i < 32 := by
      intro i _ hi
      have hlt := hi.lt_length
      omega
    obtain ⟨mask, hmask, hbits⟩ := checkQmiMsgsSupported_eq hdef
    refine ⟨mask, hmask, fun k => (hbits k).trans ?_⟩
    rw [loopSize_eq]
    constructor
    · rintro ⟨i, hlt, hi, heq⟩
      have hlt' := hi.lt_length
      obtain rfl : i = k := by omega
      refine ⟨hi, fun msgs' hmsgs => ?_⟩
      obtain rfl := some.inj hmsgs
      omega
    · rintro ⟨hk, hbyte⟩
      have hlt := hk.lt_length
      have hbyte := hbyte msgs rfl
      exact ⟨k, by omega, hk, .inl rfl⟩

theorem locClientSupportMsgCheck_eq {s : Checked} (h : Low s) (answers : OpenAnswers) :
    ∃ status s' mask, locClientSupportMsgCheck s msgArray answers.supportMsgs 0 =
        some (status, s', mask) ∧ Low s' ∧ (∀ k, mask.getLsbD k = true → k < 3) ∧
      (mask.getLsbD 0 = true ↔ AsksAon s answers) := by
  unfold locClientSupportMsgCheck AsksAon
  cases hchecked : s.isCheckedAlready with
  | true => exact ⟨_, _, _, rfl, h, h, Iff.rfl⟩
  | false =>
    have hzero : ∀ k, (0 : BitVec 64).getLsbD k ≠ true := by simp
    simp only [Bool.false_eq_true, if_false]
    cases hresp : answers.supportMsgs with
    | none =>
      refine ⟨_, _, _, rfl, h, fun k hk => absurd hk (hzero k), ?_⟩
      exact iff_of_false (hzero 0) fun ⟨_, h, _⟩ => nomatch h
    | some resp =>
      cases hsuccess : resp.success with
      | false =>
        simp only [hsuccess, Bool.false_eq_true, if_false]
        refine ⟨_, _, _, rfl, h, fun k hk => absurd hk (hzero k), ?_⟩
        refine iff_of_false (hzero 0) fun ⟨resp', hmem, hsuccess', _⟩ => ?_
        rw [← some.inj hmem, hsuccess] at hsuccess'
        cases hsuccess'
      | true =>
        obtain ⟨mask, hmask, hbits⟩ := checkQmiMsgsSupported_msgArray resp.supported_msgs
        have hlow : ∀ k, mask.getLsbD k = true → k < 3 := fun k hk =>
          ((hbits k).mp hk).1.lt_length
        simp only [hsuccess, if_true, hmask, map_some]
        refine ⟨_, ⟨true, mask⟩, mask, rfl, hlow, hlow, (hbits 0).trans ?_⟩
        constructor
        · rintro ⟨⟨msgs, hmsgs, reqId, hreqId, hcontains⟩, -⟩
          obtain rfl := some.inj hreqId
          exact ⟨resp, rfl, hsuccess, msgs, hmsgs, hcontains⟩
        · rintro ⟨resp', hmem, -, msgs, hmsgs, hcontains⟩
          obtain rfl := some.inj hmem
          refine ⟨⟨msgs, hmsgs, _, rfl, hcontains⟩, fun msgs' hmsgs' => ?_⟩
          obtain rfl := some.inj (hmsgs.symm.trans hmsgs')
          obtain ⟨byte, hbyte, -⟩ := hcontains
          exact Nat.zero_lt_of_lt (List.getElem?_eq_some_iff.mp hbyte).1

/-! ## The second query -/

theorem addCapabilities_iff (aonCapability : BitVec 32) (list : BitVec 64) (k : Nat) :
    (addCapabilities aonCapability list).getLsbD k = true ↔
      list.getLsbD k = true ∨ ∃ row ∈ aonRows, k = row.2.ctorIdx := by
  have hmask : ∀ row ∈ aonRows, row.1 ≠ 0#32 := by decide
  have hne : ∀ row ∈ aonRows, aonCapability ||| row.1 ≠ 0 := fun row hrow hzero =>
    hmask row hrow (BitVec.or_eq_zero_iff.mp hzero).2
  have hadd : addCapabilities aonCapability list =
      aonRows.foldl (fun list row => list ||| row.2.bit) list := by
    refine List.foldl_ext _ _ _ fun list row hrow => ?_
    exact if_pos (hne row hrow)
  rw [hadd, getLsbD_foldl_or]
  refine or_congr_right (exists_congr fun row => and_congr_right fun hrow => ?_)
  refine getLsbD_twoPow_iff ?_
  revert row
  decide

theorem queryAonConfig_eq (answer : AonAnswer) (list : BitVec 64) : queryAonConfig answer list =
      match answer.capability with
      | none => list
      | some aonCapability => addCapabilities aonCapability list := by
  obtain ⟨status, indSuccess, aonCapability⟩ := answer
  cases status <;> cases indSuccess <;> rfl

/-! ## The list -/

theorem featureMask_eq_some {msgID : LocCheckingMessagesID} {mask : BitVec 32} :
    mask ∈ featureMask msgID ↔ (mask, msgID) ∈ aonRows := by
  cases msgID <;> simp [featureMask, aonRows, eq_comm]

theorem Low.step {s : Checked} (h : Low s) (answers : OpenAnswers) : Low (step s answers).1 := by
  obtain ⟨status, s', mask, hcheck, hlow, -⟩ := locClientSupportMsgCheck_eq h answers
  rw [EngineCapabilities.step, openCapabilities, hcheck]
  exact hlow

theorem isMessageSupported_query {mask : BitVec 64} (hbits : ∀ k, mask.getLsbD k = true → k < 3)
    (answer : AonAnswer) : ∀ row ∈ aonRows, isMessageSupported
        (if isMessageSupported mask LOC_API_ADAPTER_MESSAGE_LOCATION_BATCHING then
          queryAonConfig answer mask
        else mask) row.2 = true ↔
      mask.getLsbD 0 = true ∧ answer.capability ≠ none := by
  intro row hrow
  have hfeature : ∀ row ∈ aonRows, 3 ≤ row.2.ctorIdx := by decide
  have hclear : ¬ mask.getLsbD row.2.ctorIdx = true := fun hset =>
    Nat.not_lt_of_le (hfeature row hrow) (hbits _ hset)
  have hbatching : isMessageSupported mask LOC_API_ADAPTER_MESSAGE_LOCATION_BATCHING = true ↔
      mask.getLsbD 0 = true := isMessageSupported_iff mask _
  rw [isMessageSupported_iff, queryAonConfig_eq]
  by_cases hasks : mask.getLsbD 0 = true
  · rw [if_pos (hbatching.mpr hasks), and_iff_right hasks]
    cases answer.capability with
    | none => exact iff_of_false hclear fun h => h rfl
    | some aonCapability =>
      refine iff_of_true ?_ (some_ne_none aonCapability)
      exact (addCapabilities_iff aonCapability mask _).mpr (.inr ⟨row, hrow, rfl⟩)
  · rw [if_neg fun h => hasks (hbatching.mp h)]
    exact iff_of_false hclear fun h => hasks h.1

/-- The list of an `open`, in any history of them. -/
theorem openCapabilities_right_iff (history : List OpenAnswers) (answers : OpenAnswers) :
    let s := after step Checked.initial history
    (∃ s' supportedMsgList, openCapabilities s answers = some (s', supportedMsgList) ∧
        ListRight s answers supportedMsgList) ↔
      AllOrNothing s answers := by
  intro s
  have hlow : Low s :=
    invariant_after (P := Low) (fun s answers h => h.step answers) low_initial history
  obtain ⟨status, s', mask, hcheck, -, hbits, hasks⟩ := locClientSupportMsgCheck_eq hlow answers
  have hopen := congrArg (Option.map fun r => (r.2.1,
    if isMessageSupported r.2.2 LOC_API_ADAPTER_MESSAGE_LOCATION_BATCHING then
      queryAonConfig answers.aonConfig r.2.2
    else r.2.2)) hcheck
  have hlist := isMessageSupported_query hbits answers.aonConfig
  rw [hasks] at hlist
  constructor
  · rintro ⟨s'', list, heq, hright⟩ hask capability hcapability row hrow
    obtain ⟨-, rfl⟩ := Prod.mk.inj (some.inj (heq.symm.trans hopen))
    have hset := (hlist _ hrow).mpr ⟨hask, fun hnone => nomatch hnone ▸ hcapability⟩
    obtain ⟨-, capability', hcapability', hne⟩ :=
      (hright row.2 row.1 (featureMask_eq_some.mpr hrow)).mp hset
    exact some.inj (hcapability'.symm.trans hcapability) ▸ hne
  · intro hall
    refine ⟨_, _, hopen, fun msgID aonMask hmask => ?_⟩
    have hrow := featureMask_eq_some.mp hmask
    refine (hlist _ hrow).trans (and_congr_right fun hask => ?_)
    rw [ne_none_iff_exists']
    exact ⟨fun ⟨capability, h⟩ => ⟨capability, h, hall hask capability h _ hrow⟩,
      fun ⟨capability, h, _⟩ => ⟨capability, h⟩⟩

/-- The modem supports batching, and automatic batching alone of the features. -/
def onlyAuto : OpenAnswers where
  supportMsgs := some ⟨true, some (List.replicate 14 0x00 ++ [0x20])⟩
  aonConfig := ⟨eLOC_CLIENT_SUCCESS, true, some 0x1⟩

theorem not_openCapabilities_right_onlyAuto : ¬ ∃ s supportedMsgList,
      openCapabilities Checked.initial onlyAuto = some (s, supportedMsgList) ∧
        ListRight Checked.initial onlyAuto supportedMsgList := by
  rintro ⟨s, list, heq, hright⟩
  have hopen : openCapabilities Checked.initial onlyAuto = some (⟨true, 0x1⟩, 0x79) := by decide
  obtain ⟨-, rfl⟩ := Prod.mk.inj (some.inj (hopen.symm.trans heq))
  obtain ⟨-, capability, hcapability, hne⟩ :=
    (hright LOC_API_ADAPTER_MESSAGE_OUTDOOR_TRIP_BATCHING _ rfl).mp (by decide)
  obtain rfl := some.inj hcapability
  exact hne (by decide)

end LocStack.LocApi.EngineCapabilities
