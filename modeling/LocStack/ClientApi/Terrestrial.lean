/-
# `LocStack.ClientApi.Terrestrial` — the single terrestrial position of a client

A client asks the daemon for one position.  What stands for the request is a
pair of callbacks, mSingleTerrestrialPosCb and mSingleTerrestrialPosRespCb;
neither the request nor the answer has a number.  A call with a position
callback asks, one without cancels.

    a call with one             the pair is set, and stays if nothing is sent
    a call without              mSingleTerrestrialPosCb is cleared
    an answer                   invokes what the pair holds, and clears it
    the daemon has restarted    (the pair stays)

Beside the pair the model keeps which call waits for an answer, what the
daemon has still to answer, and what the callbacks are owed.  A call that is
cancelled, and one whose daemon is gone, are owed nothing.

`terrestrial_iff`: the callbacks are invoked as they are owed, and a call is
refused as already in progress only while another waits, if and only if

* what is asked for can be sent;
* an answer that comes while a call waits is the answer to it, and not the
  late one to a call that was cancelled;
* the daemon restarts only while no call waits.
-/
import LocStack.ClientApi.Geofences
import LocStack.Daemon.Terrestrial

namespace LocStack.ClientApi

open Base Option
open Daemon (Location)
open Tracking (LocationError)

/-! ## The client -/

/-- What becomes of the message of a request. -/
inductive GtpSending where
  | sent | notSent | notSerialized
  deriving DecidableEq

structure GtpParams where
  (timeoutMsec techMask : UInt32)
  /-- the bits of the float -/
  horQoS : UInt32
  deriving DecidableEq

/-- What the application sees, and what is sent for it. -/
inductive GtpOut where
  | responseCb (cb : Callback) (response : LocationResponse)
  | positionCb (cb : Callback) (location : Location)
  | request (params : GtpParams)
  deriving DecidableEq

/-- A call that waits for its answer. -/
structure GtpCall where
  id : Nat
  terrestrialPositionCallback : Callback
  responseCallback : Option Callback

structure TerrestrialClient where
  mHalRegistered : Bool
  (mSingleTerrestrialPosCb mSingleTerrestrialPosRespCb : Option Callback)
  /-- the call that has set the pair -/
  setBy : Nat
  /-- how many calls there were -/
  calls : Nat
  /-- the calls that the daemon has still to answer, in order -/
  unanswered : List Nat
  waiting : Option GtpCall
  /-- what was invoked, each with the call that it was invoked for -/
  invoked : List (Nat × GtpOut)
  /-- what should have been -/
  owed : List (Nat × GtpOut)

inductive GtpEvent where
  | getSingleTerrestrialPos (params : GtpParams) (terrestrialPositionCallback : Option Callback)
      (responseCallback : Option Callback) (sending : GtpSending)
  | capabilities | halReady
  /-- the daemon's answer to the first call that it has still to answer -/
  | answer (mErrorCode : LocationError) (mLocation : Location)

/-- `if (mResponseCb) mResponseCb(response)` -/
def respond (responseCallback : Option Callback) (response : LocationResponse) : List GtpOut :=
  responseCallback.toList.map (.responseCb · response)

/-- What an answer invokes, of a pair of callbacks. -/
def answerOuts (posCb : Callback) (respCb : Option Callback) (mErrorCode : LocationError)
    (mLocation : Location) : List GtpOut :=
  respond respCb (parseLocationError mErrorCode) ++
    if mErrorCode = .success then [.positionCb posCb mLocation] else []

namespace TerrestrialClient

def new : TerrestrialClient where
  mHalRegistered := false
  mSingleTerrestrialPosCb := none
  mSingleTerrestrialPosRespCb := none
  setBy := 0
  calls := 0
  unanswered := []
  waiting := none
  invoked := []
  owed := []

variable (s : TerrestrialClient)

/-- `GetSingleTerrestrialPosReq::proc` -/
def getSingleTerrestrialPos (params : GtpParams) (terrestrialPositionCallback : Option Callback)
    (responseCallback : Option Callback) (sending : GtpSending) :
    TerrestrialClient × List GtpOut :=
  if s.mSingleTerrestrialPosCb = none ∧ terrestrialPositionCallback = none then
    (s, respond responseCallback .LOCATION_RESPONSE_PARAM_INVALID)
  else if s.mSingleTerrestrialPosCb ≠ none ∧ terrestrialPositionCallback ≠ none then
    (s, respond responseCallback .LOCATION_RESPONSE_REQUEST_ALREADY_IN_PROGRESS)
  else if ¬ s.mHalRegistered then
    (s, respond responseCallback .LOCATION_RESPONSE_SYSTEM_NOT_READY)
  else
    let s := { s with
      mSingleTerrestrialPosCb := terrestrialPositionCallback
      mSingleTerrestrialPosRespCb := responseCallback
      setBy := s.calls }
    if terrestrialPositionCallback = none then
      (s, respond responseCallback .LOCATION_RESPONSE_SUCCESS)
    else match sending with
      | .sent => ({ s with unanswered := s.unanswered ++ [s.calls] }, [.request params])
      | .notSent => (s, respond responseCallback .LOCATION_RESPONSE_UNKOWN_FAILURE)
      | .notSerialized => (s, [])

/-- `E_LOCAPI_GET_SINGLE_TERRESTRIAL_POS_RESP_MSG_ID` -/
def answer (mErrorCode : LocationError) (mLocation : Location) :
    TerrestrialClient × List GtpOut :=
  match s.mSingleTerrestrialPosCb with
  | none => (s, [])
  | some posCb =>
    ({ s with mSingleTerrestrialPosRespCb := none, mSingleTerrestrialPosCb := none },
      answerOuts posCb s.mSingleTerrestrialPosRespCb mErrorCode mLocation)

/-! ## What is owed -/

/-- What a call is owed at once, and the call that waits after it. -/
def owedToCall (terrestrialPositionCallback : Option Callback)
    (responseCallback : Option Callback) (sending : GtpSending) :
    Option GtpCall × List GtpOut :=
  match s.waiting, terrestrialPositionCallback with
  | none, none => (none, respond responseCallback .LOCATION_RESPONSE_PARAM_INVALID)
  | some _, none => (none, respond responseCallback .LOCATION_RESPONSE_SUCCESS)
  | some call, some _ =>
    (some call, respond responseCallback .LOCATION_RESPONSE_REQUEST_ALREADY_IN_PROGRESS)
  | none, some posCb =>
    if ¬ s.mHalRegistered then
      (none, respond responseCallback .LOCATION_RESPONSE_SYSTEM_NOT_READY)
    else if sending = .sent then (some ⟨s.calls, posCb, responseCallback⟩, [])
    else (none, respond responseCallback .LOCATION_RESPONSE_UNKOWN_FAILURE)

/-- The same for the answer to the call `id`. -/
def owedToAnswer (id : Nat) (mErrorCode : LocationError) (mLocation : Location) :
    Option GtpCall × List GtpOut :=
  match s.waiting with
  | none => (none, [])
  | some call =>
    if call.id = id then
      (none, answerOuts call.terrestrialPositionCallback call.responseCallback mErrorCode mLocation)
    else (some call, [])

/-! ## Steps -/

/-- The callbacks among what a step puts out, each with the call `id`. -/
def callbacksFor (id : Nat) (outs : List GtpOut) : List (Nat × GtpOut) :=
  (outs.filter fun out => out matches .responseCb .. | .positionCb ..).map (id, ·)

/-- A call, with what it is owed. -/
def placed (params : GtpParams) (posCb respCb : Option Callback) (sending : GtpSending) :
    TerrestrialClient × List GtpOut :=
  let t := s.getSingleTerrestrialPos params posCb respCb sending
  let due := s.owedToCall posCb respCb sending
  ({ t.1 with
    calls := s.calls + 1
    waiting := due.1
    invoked := s.invoked ++ callbacksFor s.calls t.2
    owed := s.owed ++ callbacksFor s.calls due.2 }, t.2)

/-- The answer to the call `id`, which the daemon is to answer no more. -/
def answered (id : Nat) (unanswered : List Nat) (mErrorCode : LocationError)
    (mLocation : Location) : TerrestrialClient × List GtpOut :=
  let t := s.answer mErrorCode mLocation
  let due := s.owedToAnswer id mErrorCode mLocation
  ({ t.1 with
    unanswered
    waiting := due.1
    invoked := s.invoked ++ callbacksFor s.setBy t.2
    owed := s.owed ++ callbacksFor id due.2 }, t.2)

def step : GtpEvent → TerrestrialClient × List GtpOut
  | .getSingleTerrestrialPos params terrestrialPositionCallback responseCallback sending =>
    s.placed params terrestrialPositionCallback responseCallback sending
  | .capabilities => ({ s with mHalRegistered := true }, [])
  | .halReady => ({ s with mHalRegistered := false, unanswered := [], waiting := none }, [])
  | .answer mErrorCode mLocation => match s.unanswered with
      | [] => (s, [])
      | id :: unanswered => s.answered id unanswered mErrorCode mLocation

/-- Whether a call for a position is refused as already in progress. -/
def busy : Prop := s.mSingleTerrestrialPosCb.isSome
  deriving Decidable

structure InStep : Prop where
  invoked_eq : s.invoked = s.owed
  busy_iff : s.busy ↔ s.waiting.isSome

/-- What is asked of a step. -/
def Fits : GtpEvent → Prop
  | .getSingleTerrestrialPos _ terrestrialPositionCallback _ sending =>
    s.waiting = none → terrestrialPositionCallback ≠ none → s.mHalRegistered = true →
      sending = .sent
  | .capabilities => True
  | .halReady => s.waiting = none
  | .answer _ _ => ∀ call, s.waiting = some call →
      ∀ id, s.unanswered.head? = some id → id = call.id

end TerrestrialClient

namespace TerrestrialClient

variable {s : TerrestrialClient} {params : GtpParams} {posCb respCb : Option Callback}
  {sending : GtpSending} {mErrorCode : LocationError} {mLocation : Location}

/-! ## A call -/

theorem call_of_free_cancel (h : s.mSingleTerrestrialPosCb = none) :
    s.getSingleTerrestrialPos params none respCb sending =
      (s, respond respCb .LOCATION_RESPONSE_PARAM_INVALID) :=
  if_pos ⟨h, rfl⟩

variable {cb : Callback} {call : GtpCall}

theorem call_of_busy {cb' : Callback} (h : s.mSingleTerrestrialPosCb = some cb) :
    s.getSingleTerrestrialPos params (some cb') respCb sending =
      (s, respond respCb .LOCATION_RESPONSE_REQUEST_ALREADY_IN_PROGRESS) := by
  unfold getSingleTerrestrialPos
  rw [if_neg fun hfree => some_ne_none cb' hfree.2, if_pos]
  rw [h]
  exact ⟨some_ne_none cb, some_ne_none cb'⟩

theorem call_of_cancel (h : s.mSingleTerrestrialPosCb = some cb) (hreg : s.mHalRegistered = true) :
    s.getSingleTerrestrialPos params none respCb sending = ({ s with
        mSingleTerrestrialPosCb := none
        mSingleTerrestrialPosRespCb := respCb
        setBy := s.calls }, respond respCb .LOCATION_RESPONSE_SUCCESS) := by
  unfold getSingleTerrestrialPos
  rw [if_neg fun hfree => some_ne_none cb (h.symm.trans hfree.1),
    if_neg fun hbusy => hbusy.2 rfl, if_neg (not_not.mpr hreg)]
  rfl

theorem call_of_unregistered (h : s.mSingleTerrestrialPosCb = none)
    (hreg : ¬ s.mHalRegistered = true) :
    s.getSingleTerrestrialPos params (some cb) respCb sending =
      (s, respond respCb .LOCATION_RESPONSE_SYSTEM_NOT_READY) := by
  unfold getSingleTerrestrialPos
  rw [if_neg fun hfree => some_ne_none cb hfree.2, if_neg fun hbusy => hbusy.1 h, if_pos hreg]

theorem call_of_free (h : s.mSingleTerrestrialPosCb = none) (hreg : s.mHalRegistered = true) :
    s.getSingleTerrestrialPos params (some cb) respCb sending = ({ s with
        mSingleTerrestrialPosCb := some cb
        mSingleTerrestrialPosRespCb := respCb
        setBy := s.calls
        unanswered := s.unanswered ++ if sending = .sent then [s.calls] else [] },
        match sending with
        | .sent => [.request params]
        | .notSent => respond respCb .LOCATION_RESPONSE_UNKOWN_FAILURE
        | .notSerialized => []) := by
  unfold getSingleTerrestrialPos
  rw [if_neg fun hfree => some_ne_none cb hfree.2, if_neg fun hbusy => hbusy.1 h,
    if_neg (not_not.mpr hreg)]
  cases sending <;> simp

/-! ## The pair and the call that waits -/

/-- While a call waits the pair holds its callbacks, and is free otherwise. -/
structure Paired (s : TerrestrialClient) : Prop where
  invoked_eq : s.invoked = s.owed
  posCb_eq : s.mSingleTerrestrialPosCb = s.waiting.map GtpCall.terrestrialPositionCallback
  of_waiting : ∀ call, s.waiting = some call → s.mHalRegistered = true ∧
    s.mSingleTerrestrialPosRespCb = call.responseCallback ∧ s.setBy = call.id

theorem Paired.inStep (h : s.Paired) : s.InStep where
  invoked_eq := h.invoked_eq
  busy_iff := by
    unfold busy
    rw [h.posCb_eq, isSome_map]

theorem paired_new : Paired new := ⟨rfl, rfl, nofun⟩

theorem Paired.free (h : s.Paired) (hw : s.waiting = none) :
    s.mSingleTerrestrialPosCb = none := by
  rw [h.posCb_eq, hw]
  rfl

theorem Paired.held (h : s.Paired) (hw : s.waiting = some call) :
    s.mSingleTerrestrialPosCb = some call.terrestrialPositionCallback := by
  rw [h.posCb_eq, hw]
  rfl

theorem Paired.placed_same (h : s.Paired) {outs : List GtpOut}
    (hcall : s.getSingleTerrestrialPos params posCb respCb sending = (s, outs))
    (howed : s.owedToCall posCb respCb sending = (s.waiting, outs)) :
    (s.placed params posCb respCb sending).1.Paired := by
  unfold placed
  rw [hcall, howed]
  refine ⟨?_, h.posCb_eq, h.of_waiting⟩
  exact congrArg (· ++ _) h.invoked_eq

theorem Paired.placed (h : s.Paired)
    (hok : s.waiting = none → posCb ≠ none → s.mHalRegistered = true → sending = .sent) :
    (s.placed params posCb respCb sending).1.Paired := by
  cases hw : s.waiting with
  | none =>
    cases posCb with
    | none =>
      refine h.placed_same (call_of_free_cancel (h.free hw)) ?_
      simp only [owedToCall, hw]
    | some cb =>
      by_cases hreg : s.mHalRegistered = true
      · obtain rfl := hok hw (some_ne_none cb) hreg
        unfold TerrestrialClient.placed
        rw [call_of_free (h.free hw) hreg]
        simp only [owedToCall, hw, hreg]
        refine ⟨congrArg (· ++ _) h.invoked_eq, rfl, ?_⟩
        rintro call ⟨⟩
        exact ⟨rfl, rfl, rfl⟩
      · refine h.placed_same (call_of_unregistered (h.free hw) hreg) ?_
        simp only [owedToCall, hw, if_pos hreg]
  | some call =>
    cases posCb with
    | none =>
      unfold TerrestrialClient.placed
      rw [call_of_cancel (h.held hw) (h.of_waiting call hw).1]
      simp only [owedToCall, hw]
      exact ⟨congrArg (· ++ _) h.invoked_eq, rfl, nofun⟩
    | some cb =>
      refine h.placed_same (call_of_busy (h.held hw)) ?_
      simp only [owedToCall, hw]

theorem Paired.answered_free (h : s.Paired) (hw : s.waiting = none) (id : Nat)
    (unanswered : List Nat) :
    (s.answered id unanswered mErrorCode mLocation).1.Paired := by
  unfold answered TerrestrialClient.answer owedToAnswer
  rw [h.free hw, hw]
  exact ⟨congrArg (· ++ _) h.invoked_eq, h.free hw, nofun⟩

theorem Paired.answered (h : s.Paired) (hw : s.waiting = some call) (unanswered : List Nat) :
    (s.answered call.id unanswered mErrorCode mLocation).1.Paired := by
  obtain ⟨-, hresp, hset⟩ := h.of_waiting call hw
  unfold TerrestrialClient.answered TerrestrialClient.answer owedToAnswer
  rw [h.held hw, hw, hset, hresp]
  simp only [if_true]
  exact ⟨congrArg (· ++ _) h.invoked_eq, rfl, nofun⟩

theorem Paired.step (h : s.Paired) (e : GtpEvent) (hok : s.Fits e) : (s.step e).1.Paired := by
  cases e with
  | getSingleTerrestrialPos params posCb respCb sending => exact h.placed hok
  | capabilities =>
    exact ⟨h.invoked_eq, h.posCb_eq, fun call hw => ⟨rfl, (h.of_waiting call hw).2⟩⟩
  | halReady => exact ⟨h.invoked_eq, h.free hok, nofun⟩
  | answer mErrorCode mLocation =>
    unfold TerrestrialClient.step
    cases hun : s.unanswered with
    | nil => exact h
    | cons id unanswered =>
      cases hw : s.waiting with
      | none => exact h.answered_free hw id unanswered
      | some call =>
        obtain rfl := hok call hw id (by rw [hun]; rfl)
        exact h.answered hw unanswered

/-! ## Where it breaks -/

theorem Paired.sent (h : s.Paired)
    (hstep : (s.placed params posCb respCb sending).1.InStep) (hw : s.waiting = none)
    (hcb : posCb ≠ none) (hreg : s.mHalRegistered = true) : sending = .sent := by
  by_contra hsent
  obtain ⟨cb, rfl⟩ := ne_none_iff_exists'.mp hcb
  have hbusy := hstep.busy_iff
  unfold TerrestrialClient.placed at hbusy
  rw [call_of_free (h.free hw) hreg] at hbusy
  simp [busy, owedToCall, hw, hreg, hsent] at hbusy

theorem Paired.of_answered (h : s.Paired) (hw : s.waiting = some call) {id : Nat}
    {unanswered : List Nat} (hstep : (s.answered id unanswered mErrorCode mLocation).1.InStep) :
    id = call.id := by
  by_contra hne
  have hbusy := hstep.busy_iff
  unfold TerrestrialClient.answered TerrestrialClient.answer owedToAnswer at hbusy
  rw [h.held hw, hw] at hbusy
  simp [busy, Ne.symm hne] at hbusy

theorem Paired.of_halReady (h : s.Paired) (hstep : (s.step .halReady).1.InStep) :
    s.Fits .halReady := by
  have hbusy : ¬ s.busy := fun hb => Bool.false_ne_true (hstep.busy_iff.mp hb)
  exact not_isSome_iff_eq_none.mp fun hw => hbusy (h.inStep.busy_iff.mpr hw)

theorem Paired.fits (h : s.Paired) (e : GtpEvent) (hstep : (s.step e).1.InStep) : s.Fits e := by
  cases e with
  | getSingleTerrestrialPos params posCb respCb sending => exact h.sent hstep
  | capabilities => trivial
  | halReady => exact h.of_halReady hstep
  | answer mErrorCode mLocation =>
    intro call hw id hid
    obtain ⟨unanswered, hun⟩ := List.head?_eq_some_iff.mp hid
    unfold TerrestrialClient.step at hstep
    rw [hun] at hstep
    exact h.of_answered hw hstep

/-- In every run whose steps fit, and only there, the callbacks are invoked as
they are owed and a call is refused as in progress only while another waits. -/
theorem terrestrial_iff (es : List GtpEvent) :
    StatesMeet step InStep new es ↔ StepsMeet step Fits new es :=
  statesMeet_iff_stepsMeet_of_inv Paired (fun _ h => h.inStep) (fun _ e h hok => h.step e hok)
    (fun _ e h hstep => h.fits e hstep) paired_new es

def anyParams : GtpParams := ⟨1000, 1, 0⟩

/-- A call is cancelled and another one asks; the answer to the first is what
the second is told. -/
theorem late_answer_invokes : ¬ StatesMeet step InStep new [.capabilities,
      .getSingleTerrestrialPos anyParams (some 1) (some 2) .sent,
      .getSingleTerrestrialPos anyParams none none .sent,
      .getSingleTerrestrialPos anyParams (some 3) (some 4) .sent,
      .answer .timeout ⟨0, []⟩] := by
  intro h
  exact absurd h.last.invoked_eq (by decide)

end TerrestrialClient

end LocStack.ClientApi
