/-
# `LocStack.ClientApi.Responses` — which call a response is delivered to

There is one slot for a response callback and one flag that says that it waits
for a response.  A call that starts something fills the slot and sets the
flag; the next response that is not to a STOP of tracking is delivered to it,
whichever request that is to, and clears the flag.

Here every message is an errand, which says which response callback the call
that it is of is owed.  An answer is on the errand of the request that it is
to.

`answered_of_fits`: once all is taken and answered each callback has been
invoked exactly once for each of its calls, with the answer to the request of
that call, in every run in which

* the slot is not filled while the flag is set, except with the callback that
  it has, or with no answer outstanding but to the STOP of tracking;
* no other answer is outstanding when the flag is set for a call with a
  callback;
* the message that starts such a session is sent as START or UPDATE, or asks
  for the session that there is.
-/
import LocStack.ClientApi.Batching

namespace LocStack.ClientApi

open Base List
open Daemon (LocationCallbacks)

/-! ## Errands -/

/-- A message, and the response callback of the call that it is of. -/
structure Errand where
  msg : ClientMsg
  owner : Option Callback

/-- The calls for a position session and for a batching session. -/
inductive SessionCall where
  | startPosition (session : PositionSession) (responseCallback : Option Callback)
  | startTripBatching (minInterval tripDistance : UInt32) (batchingCallback : Callback)
      (responseCallback : Option Callback)
  | startRoutineBatching (minInterval minDistance : UInt32) (batchingCallback : Callback)
      (responseCallback : Option Callback)
  | stopPosition | stopBatching

namespace SessionCall

def messages : SessionCall → List ClientMsg
  | .startPosition session responseCallback => startPositionSession session responseCallback
  | .startTripBatching minInterval tripDistance batchingCallback responseCallback =>
    startTripBatchingSession minInterval tripDistance batchingCallback responseCallback
  | .startRoutineBatching minInterval minDistance batchingCallback responseCallback =>
    startRoutineBatchingSession minInterval minDistance batchingCallback responseCallback
  | .stopPosition => stopPositionSession
  | .stopBatching => stopBatchingSession

def responseCallback : SessionCall → Option Callback
  | .startPosition _ responseCallback => responseCallback
  | .startTripBatching _ _ _ responseCallback => responseCallback
  | .startRoutineBatching _ _ _ responseCallback => responseCallback
  | .stopPosition | .stopBatching => none

def errands (c : SessionCall) : List Errand := c.messages.map fun msg => ⟨msg, c.responseCallback⟩

end SessionCall

/-- A request that the daemon has still to answer. -/
structure Unanswered where
  msgId : ResponseMsgId
  owner : Option Callback

/-- What the daemon answers a request with. -/
def DaemonRequest.responseMsgId : DaemonRequest → Option ResponseMsgId
  | .clientRegister | .updateCallbacks _ => none
  | .startTracking _ => some .E_LOCAPI_START_TRACKING_MSG_ID
  | .updateTrackingOptions _ => some .E_LOCAPI_UPDATE_TRACKING_OPTIONS_MSG_ID
  | .stopTracking => some .E_LOCAPI_STOP_TRACKING_MSG_ID
  | .startBatching _ => some .E_LOCAPI_START_BATCHING_MSG_ID
  | .updateBatchingOptions _ => some .E_LOCAPI_UPDATE_BATCHING_OPTIONS_MSG_ID
  | .stopBatching => some .E_LOCAPI_STOP_BATCHING_MSG_ID

/-- What the daemon has to answer among the outputs of the task. -/
def responseMsgIds (outs : List Out) : List ResponseMsgId :=
  outs.filterMap fun out => match out with
    | .send request => request.responseMsgId
    | .post _ | .invoke _ _ => none

/-- The callbacks among the outputs of the task. -/
def invocations (outs : List Out) : List (Callback × LocationResponse) :=
  outs.filterMap fun out => match out with
    | .invoke cb response => some (cb, response)
    | .send _ | .post _ => none

/-- The message of a call that starts a session, or updates it. -/
def ClientMsg.isStart : ClientMsg → Bool
  | .startTracking _ | .startBatching _ => true
  | _ => false

/-- The result of a message's own request, once the message is taken: the
answer, if it is one; and success for a start that makes no request. -/
def ClientMsg.result (outs : List Out) : ClientMsg → Option LocationResponse
  | .response _ err => some err
  | msg => if msg.isStart ∧ responseMsgIds outs = [] ∧ posts outs = [] then
      some .LOCATION_RESPONSE_SUCCESS else none

/-- The request that a message answers. -/
def Errand.answer (e : Errand) : Option Unanswered :=
  match e.msg with
  | .response msgId _ => some ⟨msgId, e.owner⟩
  | _ => none

/-! ## The client and the daemon's answers -/

structure AnsweredClient where
  impl : LocationClientApiImpl
  /-- what the call that is made has still to put into the queue -/
  calling : List Errand
  /-- the message task's -/
  queue : List Errand
  unanswered : List Unanswered
  /-- each callback with the result of the request of its call -/
  results : List (Callback × LocationResponse)
  invoked : List (Callback × LocationResponse)

inductive AnswerEvent where
  | call (c : SessionCall)
  /-- the call that is made puts its next message into the queue -/
  | put
  | take
  /-- the daemon answers the oldest request that it has not answered -/
  | answer (err : LocationResponse)

namespace AnsweredClient

/-- A client that is registered. -/
def new : AnsweredClient :=
  ⟨{ LocationClientApiImpl.new with mHalRegistered := true }, [], [], [], [], []⟩

variable (s : AnsweredClient)

/-- The message is taken from a queue that has `rest` behind it. -/
def process (e : Errand) (rest : List Errand) : AnsweredClient :=
  let (impl, outs) := s.impl.proc e.msg
  { s with
    impl
    queue := rest ++ (posts outs).map fun msg => ⟨msg, e.owner⟩
    unanswered := s.unanswered ++ (responseMsgIds outs).map fun msgId => ⟨msgId, e.owner⟩
    results := s.results ++ ((e.owner.bind fun cb => (e.msg.result outs).map (cb, ·))).toList
    invoked := s.invoked ++ invocations outs }

def step : AnswerEvent → AnsweredClient × List Empty
  | .call c => (if s.calling = [] then { s with calling := c.errands } else s, [])
  | .put => match s.calling with
      | [] => (s, [])
      | e :: rest => ({ s with calling := rest, queue := s.queue ++ [e] }, [])
  | .take => match s.queue with
      | [] => (s, [])
      | e :: rest => (s.process e rest, [])
  | .answer err => match s.unanswered with
      | [] => (s, [])
      | u :: rest =>
        ({ s with
            unanswered := rest
            queue := s.queue ++ [⟨.response u.msgId err, u.owner⟩] }, [])

/-! ## As it should be -/

/-- Once all is taken and answered, each callback has been invoked for the
results of its own requests. -/
def Answered : Prop :=
  s.calling = [] → s.queue = [] → s.unanswered = [] → s.invoked.Perm s.results

/-- What is still to be answered or still to be taken, in this order. -/
def awaited : List Unanswered := s.queue.filterMap Errand.answer ++ s.unanswered

end AnsweredClient

/-- Nothing that could be taken for an answer to a start. -/
def Clear (us : List Unanswered) : Prop :=
  ∀ u ∈ us, u.msgId = .E_LOCAPI_STOP_TRACKING_MSG_ID
  deriving Decidable

/-- What is asked of a message when it is taken, with this awaited. -/
def ClientMsg.Fits (impl : LocationClientApiImpl) (us : List Unanswered) : ClientMsg → Prop
  | .updateCallbackFunctions cbs _ => impl.mPositionSessionResponseCbPending = true →
      impl.mResponseCb = cbs.responsecb ∨ Clear us
  | .updateCallbacks _ => impl.mResponseCb ≠ none → Clear us
  | .startTracking option => impl.mResponseCb ≠ none →
      if impl.mSessionId then option.passive → impl.mLocationOptions.passive else ¬ option.passive
  | .startBatching _ => impl.mResponseCb ≠ none → impl.mSessionId = false
  | _ => True

instance (impl : LocationClientApiImpl) (us : List Unanswered) :
    DecidablePred (ClientMsg.Fits impl us)
  | .updateCallbackFunctions _ _ => inferInstanceAs (Decidable (_ → _ ∨ Clear us))
  | .updateCallbacks _ => inferInstanceAs (Decidable (_ → Clear us))
  | .startTracking _ => inferInstanceAs (Decidable (_ → ite _ (_ → _) (¬ _)))
  | .startBatching _ => inferInstanceAs (Decidable (_ → _ = false))
  | .stopTracking | .updateBatchingOptions _ | .stopBatching | .capabilities | .halReady
  | .clientRegister | .response _ _ => .isTrue trivial

/-- What is asked of a step. -/
def AnsweredClient.Fits (s : AnsweredClient) : AnswerEvent → Prop
  | .take => ∀ e ∈ s.queue.head?, e.msg.Fits s.impl s.awaited
  | _ => True

instance (s : AnsweredClient) : DecidablePred s.Fits
  | .take => inferInstanceAs (Decidable (∀ e ∈ s.queue.head?, e.msg.Fits s.impl s.awaited))
  | .call _ | .put | .answer _ => .isTrue trivial

/-! ## What is owed -/

/-- Nothing of what is awaited is owed to a call. -/
def Unowed (us : List Unanswered) : Prop := ∀ u ∈ us, u.owner = none

/-- The next answer that is not to a STOP of tracking is owed to a callback,
and no other one is owed to any. -/
def DueTo (cb : Callback) : List Unanswered → Prop
  | [] => False
  | u :: us =>
    if u.msgId = .E_LOCAPI_STOP_TRACKING_MSG_ID then u.owner = none ∧ DueTo cb us
    else u.owner = some cb ∧ Unowed us

/-- What is owed if this callback waits. -/
def Due : Option Callback → List Unanswered → Prop
  | none => Unowed
  | some cb => DueTo cb

namespace Due

variable {cb : Callback} {waiting : Option Callback} {u : Unanswered} {us : List Unanswered}

theorem cons_stop (hstop : u.msgId = .E_LOCAPI_STOP_TRACKING_MSG_ID) :
    Due waiting (u :: us) ↔ u.owner = none ∧ Due waiting us := by
  cases waiting with
  | none => exact forall_mem_cons
  | some cb =>
    change (if _ then _ else _) ↔ _
    rw [if_pos hstop]
    rfl

theorem cons_answer (hstop : u.msgId ≠ .E_LOCAPI_STOP_TRACKING_MSG_ID) :
    Due waiting (u :: us) ↔ u.owner = waiting ∧ Due none us := by
  cases waiting with
  | none => exact forall_mem_cons
  | some cb =>
    change (if _ then _ else _) ↔ _
    rw [if_neg hstop]
    rfl

theorem append {vs : List Unanswered} (h : Due waiting us) (hvs : Unowed vs) :
    Due waiting (us ++ vs) := by
  induction us generalizing waiting with
  | nil =>
    cases waiting with
    | none => exact hvs
    | some cb => exact h.elim
  | cons v us ih =>
    rw [cons_append]
    by_cases hstop : v.msgId = .E_LOCAPI_STOP_TRACKING_MSG_ID
    · rw [cons_stop hstop] at h ⊢
      exact ⟨h.1, ih h.2⟩
    · rw [cons_answer hstop] at h ⊢
      exact ⟨h.1, ih h.2⟩

theorem none_of_clear (h : Due waiting us) (hclear : Clear us) : Due none us := by
  induction us with
  | nil => exact fun _ hu => absurd hu not_mem_nil
  | cons v us ih =>
    obtain ⟨hstop, hclear⟩ := forall_mem_cons.mp hclear
    rw [cons_stop hstop] at h ⊢
    exact ⟨h.1, ih h.2 hclear⟩

theorem append_first (h : Due none us) (hclear : Clear us) (hu : u.owner = some cb)
    (hmsgId : u.msgId ≠ .E_LOCAPI_STOP_TRACKING_MSG_ID) : Due (some cb) (us ++ [u]) := by
  induction us with
  | nil => exact (cons_answer hmsgId).mpr ⟨hu, fun _ hv => absurd hv not_mem_nil⟩
  | cons v us ih =>
    obtain ⟨hstop, hclear⟩ := forall_mem_cons.mp hclear
    rw [cons_append]
    rw [cons_stop hstop] at h ⊢
    exact ⟨h.1, ih h.2 hclear⟩

end Due

/-! ## The task -/

namespace LocationClientApiImpl

variable {s : LocationClientApiImpl}

/-- The callback that the next answer is delivered to. -/
def waiting (s : LocationClientApiImpl) : Option Callback :=
  if s.mPositionSessionResponseCbPending then s.mResponseCb else none

theorem waiting_of_pending (h : s.mPositionSessionResponseCbPending = true) :
    s.waiting = s.mResponseCb := if_pos h

theorem waiting_of_not_pending (h : s.mPositionSessionResponseCbPending = false) :
    s.waiting = none := if_neg (by rw [h]; exact Bool.false_ne_true)

theorem waiting_of_slot (h : s.mResponseCb = none) : s.waiting = none := by
  unfold waiting
  rw [h, ite_self]

/-- The slot and the flag stay as they are, and no callback is invoked. -/
structure Keeps (s : LocationClientApiImpl) (p : LocationClientApiImpl × List Out) : Prop where
  slot : p.1.mResponseCb = s.mResponseCb
  pending : p.1.mPositionSessionResponseCbPending = s.mPositionSessionResponseCbPending
  posts : posts p.2 = []
  invocations : invocations p.2 = []

theorem Keeps.waiting {p : LocationClientApiImpl × List Out} (h : Keeps s p) :
    p.1.waiting = s.waiting := by
  unfold LocationClientApiImpl.waiting
  rw [h.slot, h.pending]

/-- A request is sent that has an answer, or the session that is asked for is
there. -/
def Answerable (s : LocationClientApiImpl) (p : LocationClientApiImpl × List Out) : Prop :=
  (∃ msgId, Keeps s p ∧ responseMsgIds p.2 = [msgId] ∧ msgId ≠ .E_LOCAPI_STOP_TRACKING_MSG_ID) ∨
    p = s.invokePositionSessionResponseCb .LOCATION_RESPONSE_SUCCESS

section

variable (hregistered : s.mHalRegistered = true)
include hregistered

theorem keeps_startTracking (option : TrackingOptions) : Keeps s (s.startTracking option) ∨
      s.startTracking option = s.invokePositionSessionResponseCb .LOCATION_RESPONSE_SUCCESS := by
  unfold startTracking
  rw [if_neg (by rw [hregistered]; exact nofun)]
  split
  · refine .inl ⟨rfl, rfl, ?_, ?_⟩ <;> dsimp only <;> split <;> rfl
  split
  · refine .inl ⟨rfl, rfl, ?_, ?_⟩ <;> dsimp only [updateTrackingOptionsSync] <;> split <;>
      first | rfl | split <;> rfl
  · exact .inr rfl

theorem answerable_startTracking {option : TrackingOptions}
    (hfits : if s.mSessionId then option.passive → s.mLocationOptions.passive
      else ¬ option.passive) : Answerable s (s.startTracking option) := by
  unfold startTracking
  rw [if_neg (by rw [hregistered]; exact nofun)]
  split
  · rename_i hinactive
    rw [if_neg (by rw [hinactive]; exact Bool.false_ne_true)] at hfits
    rw [if_neg hfits]
    exact .inl ⟨_, ⟨rfl, rfl, rfl, rfl⟩, rfl, nofun⟩
  rename_i hactive
  rw [if_pos (eq_true_of_ne_false hactive)] at hfits
  split
  · unfold updateTrackingOptionsSync
    rw [if_neg fun h => h.2 (hfits h.1)]
    split <;> exact .inl ⟨_, ⟨rfl, rfl, rfl, rfl⟩, rfl, nofun⟩
  · exact .inr rfl

theorem keeps_startBatching (options : BatchOptions) : Keeps s (s.startBatching options) := by
  cases hactive : s.mSessionId with
  | true =>
    rw [startBatching_tracking hregistered hactive]
    exact ⟨rfl, rfl, rfl, rfl⟩
  | false =>
    rw [startBatching_alone hregistered hactive]
    exact ⟨rfl, rfl, rfl, rfl⟩

theorem answerable_startBatching {options : BatchOptions} (hfits : s.mSessionId = false) :
    Answerable s (s.startBatching options) := by
  rw [startBatching_alone hregistered hfits]
  exact .inl ⟨_, ⟨rfl, rfl, rfl, rfl⟩, rfl, nofun⟩

end

theorem keeps_stopTracking : Keeps s s.stopTracking := by
  unfold stopTracking
  split
  · refine ⟨rfl, rfl, ?_, ?_⟩ <;> dsimp only <;> split <;> rfl
  · exact ⟨rfl, rfl, rfl, rfl⟩

theorem keeps_stopBatching : Keeps s s.stopBatching := by
  unfold stopBatching
  split <;> exact ⟨rfl, rfl, rfl, rfl⟩

theorem invoke_spec (responseCode : LocationResponse) :
    (s.invokePositionSessionResponseCb responseCode).1.waiting = none ∧
      (s.invokePositionSessionResponseCb responseCode).1.mResponseCb = s.mResponseCb ∧
      responseMsgIds (s.invokePositionSessionResponseCb responseCode).2 = [] ∧
      invocations (s.invokePositionSessionResponseCb responseCode).2 =
        (s.waiting.map (·, responseCode)).toList := by
  unfold invokePositionSessionResponseCb
  split
  · rename_i hpending
    rw [waiting_of_pending hpending]
    cases s.mResponseCb <;> exact ⟨rfl, rfl, rfl, rfl⟩
  · rename_i hpending
    rw [waiting_of_not_pending (eq_false_of_ne_true hpending)]
    exact ⟨rfl, rfl, rfl, rfl⟩

end LocationClientApiImpl

open LocationClientApiImpl

/-! ## The calls, as they are taken -/

/-- The errands of calls of which nothing has been taken. -/
def Whole (l : List Errand) : Prop := ∃ cs : List SessionCall, l = cs.flatMap SessionCall.errands

theorem Whole.nil : Whole [] := ⟨[], rfl⟩

theorem Whole.append {l : List Errand} (h : Whole l) (c : SessionCall) :
    Whole (l ++ c.errands) := by
  obtain ⟨cs, rfl⟩ := h
  refine ⟨cs ++ [c], ?_⟩
  rw [flatMap_append, flatMap_singleton]

theorem SessionCall.errands_cases (c : SessionCall) :
    (∃ cbs reportCbType callbacks start, start.isStart = true ∧ c.errands =
      [⟨.updateCallbackFunctions cbs reportCbType, cbs.responsecb⟩,
        ⟨.updateCallbacks callbacks, cbs.responsecb⟩, ⟨start, cbs.responsecb⟩]) ∨
      c.errands = [⟨.stopTracking, none⟩] ∨ c.errands = [⟨.stopBatching, none⟩] := by
  cases c with
  | startPosition session responseCallback =>
    cases session <;> exact .inl ⟨_, _, _, _, rfl, rfl⟩
  | startTripBatching => exact .inl ⟨_, _, _, _, rfl, rfl⟩
  | startRoutineBatching => exact .inl ⟨_, _, _, _, rfl, rfl⟩
  | stopPosition => exact .inr (.inl rfl)
  | stopBatching => exact .inr (.inr rfl)

/-- How far the call at the head of what is left has been taken, and what is
owed then. -/
inductive Phase (impl : LocationClientApiImpl) (us : List Unanswered) : List Errand → Prop where
  | between {l : List Errand} (due : Due impl.waiting us) (whole : Whole l) : Phase impl us l
  /-- the slot is filled -/
  | filled {callbacks : LocationCallbacks} {start : ClientMsg} {cb : Option Callback}
      {l : List Errand} (slot : impl.mResponseCb = cb) (isStart : start.isStart = true)
      (due : Due impl.waiting us ∨ Clear us ∧ Unowed us) (whole : Whole l) :
      Phase impl us (⟨.updateCallbacks callbacks, cb⟩ :: ⟨start, cb⟩ :: l)
  /-- and the flag is set -/
  | flagged {start : ClientMsg} {cb : Option Callback} {l : List Errand}
      (slot : impl.mResponseCb = cb) (isStart : start.isStart = true) (unowed : Unowed us)
      (first : cb = none ∨ impl.mPositionSessionResponseCbPending = true ∧ Clear us)
      (whole : Whole l) : Phase impl us (⟨start, cb⟩ :: l)

namespace Phase

variable {impl : LocationClientApiImpl} {us : List Unanswered} {l : List Errand}

theorem append (h : Phase impl us l) (c : SessionCall) : Phase impl us (l ++ c.errands) := by
  cases h with
  | between due whole => exact .between due (whole.append c)
  | filled slot isStart due whole => exact .filled slot isStart due (whole.append c)
  | flagged slot isStart unowed first whole =>
    exact .flagged slot isStart unowed first (whole.append c)

theorem answer {u : Unanswered} (h : Phase impl (u :: us) l) (err : LocationResponse) :
    Phase (impl.proc (.response u.msgId err)).1 us l ∧
      invocations (impl.proc (.response u.msgId err)).2 = (u.owner.map (·, err)).toList := by
  by_cases hstop : u.msgId = .E_LOCAPI_STOP_TRACKING_MSG_ID
  · have hproc : impl.proc (.response u.msgId err) = (impl, []) := if_neg (not_not.mpr hstop)
    rw [hproc]
    cases h with
    | between due whole =>
      obtain ⟨howner, hdue⟩ := (Due.cons_stop hstop).mp due
      rw [howner]
      exact ⟨.between hdue whole, rfl⟩
    | filled slot isStart due whole =>
      have howner : u.owner = none ∧ (Due impl.waiting us ∨ Clear us ∧ Unowed us) := by
        cases due with
        | inl hdue => exact ((Due.cons_stop hstop).mp hdue).imp_right .inl
        | inr hclear =>
          obtain ⟨howner, hunowed⟩ := forall_mem_cons.mp hclear.2
          exact ⟨howner, .inr ⟨(forall_mem_cons.mp hclear.1).2, hunowed⟩⟩
      rw [howner.1]
      exact ⟨.filled slot isStart howner.2 whole, rfl⟩
    | flagged slot isStart unowed first whole =>
      obtain ⟨howner, hunowed⟩ := forall_mem_cons.mp unowed
      rw [howner]
      refine ⟨.flagged slot isStart hunowed (first.imp_right fun h => ⟨h.1, ?_⟩) whole, rfl⟩
      exact (forall_mem_cons.mp h.2).2
  · have hproc : impl.proc (.response u.msgId err) = impl.invokePositionSessionResponseCb err :=
      if_pos hstop
    obtain ⟨hwaiting, hslot, -, hinvoked⟩ := invoke_spec (s := impl) err
    rw [hproc, hinvoked]
    have hclear : ¬ Clear (u :: us) := fun h => hstop (forall_mem_cons.mp h).1
    cases h with
    | between due whole =>
      obtain ⟨howner, hunowed⟩ := (Due.cons_answer hstop).mp due
      rw [howner]
      refine ⟨.between ?_ whole, rfl⟩
      rw [hwaiting]
      exact hunowed
    | filled slot isStart due whole =>
      obtain hdue | ⟨h, -⟩ := due
      · obtain ⟨howner, hunowed⟩ := (Due.cons_answer hstop).mp hdue
        rw [howner]
        refine ⟨.filled (hslot.trans slot) isStart (.inl ?_) whole, rfl⟩
        rw [hwaiting]
        exact hunowed
      · exact absurd h hclear
    | flagged slot isStart unowed first whole =>
      obtain hnone | ⟨-, h⟩ := first
      · obtain ⟨howner, hunowed⟩ := forall_mem_cons.mp unowed
        rw [howner, waiting_of_slot (slot.trans hnone)]
        exact ⟨.flagged (hslot.trans slot) isStart hunowed (.inl hnone) whole, rfl⟩
      · exact absurd h hclear

end Phase

theorem Whole.of_cons {e : Errand} {l : List Errand} (h : Whole (e :: l)) :
    (∃ cbs reportCbType callbacks start rest,
      e = ⟨.updateCallbackFunctions cbs reportCbType, cbs.responsecb⟩ ∧
      l = ⟨.updateCallbacks callbacks, cbs.responsecb⟩ :: ⟨start, cbs.responsecb⟩ :: rest ∧
        start.isStart = true ∧ Whole rest) ∨
      (e = ⟨.stopTracking, none⟩ ∨ e = ⟨.stopBatching, none⟩) ∧ Whole l := by
  obtain ⟨cs, hcs⟩ := h
  cases cs with
  | nil => cases hcs
  | cons c cs =>
    rw [flatMap_cons] at hcs
    obtain ⟨cbs, reportCbType, callbacks, start, hstart, hc⟩ | hc | hc := c.errands_cases
    · rw [hc] at hcs
      obtain ⟨rfl, rfl⟩ := List.cons.inj hcs
      exact .inl ⟨cbs, reportCbType, callbacks, start, _, rfl, rfl, hstart, cs, rfl⟩
    · rw [hc] at hcs
      obtain ⟨rfl, rfl⟩ := List.cons.inj hcs
      exact .inr ⟨.inl rfl, cs, rfl⟩
    · rw [hc] at hcs
      obtain ⟨rfl, rfl⟩ := List.cons.inj hcs
      exact .inr ⟨.inr rfl, cs, rfl⟩

namespace LocationClientApiImpl

variable {s : LocationClientApiImpl}

theorem updateCallbackFunctions_spec (cbs : ClientCallbacks) (reportCbType : ReportCbEnumType) :
    (s.updateCallbackFunctions cbs reportCbType).mResponseCb = cbs.responsecb ∧
      (s.updateCallbackFunctions cbs reportCbType).mPositionSessionResponseCbPending =
        s.mPositionSessionResponseCbPending := by
  cases reportCbType <;> exact ⟨rfl, rfl⟩

theorem updateCallbacks_spec (callbacks : LocationCallbacks) :
    (s.updateCallbacks callbacks).1.mResponseCb = s.mResponseCb ∧
      (s.updateCallbacks callbacks).1.mPositionSessionResponseCbPending = true ∧
      posts (s.updateCallbacks callbacks).2 = [] ∧
      responseMsgIds (s.updateCallbacks callbacks).2 = [] ∧
      invocations (s.updateCallbacks callbacks).2 = [] := by
  unfold updateCallbacks
  dsimp only
  split
  · split <;> exact ⟨rfl, rfl, rfl, rfl, rfl⟩
  · exact ⟨rfl, rfl, rfl, rfl, rfl⟩

variable {msg : ClientMsg}

theorem keeps_start (hregistered : s.mHalRegistered = true) (hmsg : msg.isStart = true) :
    Keeps s (s.proc msg) ∨
      s.proc msg = s.invokePositionSessionResponseCb .LOCATION_RESPONSE_SUCCESS := by
  cases msg with
  | startTracking option => exact keeps_startTracking hregistered option
  | startBatching batchOptions => exact .inl (keeps_startBatching hregistered batchOptions)
  | _ => cases hmsg

theorem answerable_start {us : List Unanswered} (hregistered : s.mHalRegistered = true)
    (hmsg : msg.isStart = true) (hfits : msg.Fits s us) (hslot : s.mResponseCb ≠ none) :
    Answerable s (s.proc msg) := by
  cases msg with
  | startTracking option => exact answerable_startTracking hregistered (hfits hslot)
  | startBatching batchOptions => exact answerable_startBatching hregistered (hfits hslot)
  | _ => cases hmsg

end LocationClientApiImpl

/-- What an errand adds to the results. -/
def Errand.results (e : Errand) (outs : List Out) : List (Callback × LocationResponse) :=
  (e.owner.bind fun cb => (e.msg.result outs).map (cb, ·)).toList

theorem Errand.results_of_none {e : Errand} {outs : List Out} (h : e.msg.result outs = none) :
    e.results outs = [] := by
  unfold results
  rw [h]
  cases e.owner <;> rfl

theorem ClientMsg.result_of_start {msg : ClientMsg} (h : msg.isStart = true) (outs : List Out) :
    msg.result outs = if responseMsgIds outs = [] ∧ posts outs = [] then
      some .LOCATION_RESPONSE_SUCCESS else none := by
  cases msg with
  | startTracking => exact if_congr (and_iff_right rfl) rfl rfl
  | startBatching => exact if_congr (and_iff_right rfl) rfl rfl
  | _ => cases h

/-- What the requests of an errand add to what is awaited. -/
def Errand.requests (e : Errand) (outs : List Out) : List Unanswered :=
  (responseMsgIds outs).map (⟨·, e.owner⟩)

/-- A message of a call is taken as it should be. -/
structure Taken (impl : LocationClientApiImpl) (us : List Unanswered) (e : Errand)
    (l : List Errand) : Prop where
  posts : posts (impl.proc e.msg).2 = []
  phase : Phase (impl.proc e.msg).1 (us ++ e.requests (impl.proc e.msg).2) l
  delivered : invocations (impl.proc e.msg).2 = e.results (impl.proc e.msg).2

namespace Phase

variable {impl : LocationClientApiImpl} {us : List Unanswered} {l : List Errand} {e : Errand}
  {callbacks : LocationCallbacks} {start : ClientMsg} {cb : Option Callback}

theorem unowed_requests (h : e.owner = none) (outs : List Out) : Unowed (e.requests outs) := by
  intro u hu
  obtain ⟨msgId, -, rfl⟩ := mem_map.mp hu
  exact h

theorem taken_stop {msg : ClientMsg} (hkeeps : Keeps impl (impl.proc msg))
    (due : Due impl.waiting us) (whole : Whole l) : Taken impl us ⟨msg, none⟩ l where
  posts := hkeeps.posts
  phase := by
    refine .between ?_ whole
    rw [hkeeps.waiting]
    exact due.append (unowed_requests rfl _)
  delivered := hkeeps.invocations

theorem taken_fill {cbs : ClientCallbacks} {reportCbType : ReportCbEnumType}
    (hstart : start.isStart = true) (due : Due impl.waiting us) (whole : Whole l)
    (hfits : (ClientMsg.updateCallbackFunctions cbs reportCbType).Fits impl us) :
    Taken impl us ⟨.updateCallbackFunctions cbs reportCbType, cbs.responsecb⟩
      (⟨.updateCallbacks callbacks, cbs.responsecb⟩ :: ⟨start, cbs.responsecb⟩ :: l) where
  posts := rfl
  phase := by
    obtain ⟨hslot, hpending⟩ := updateCallbackFunctions_spec (s := impl) cbs reportCbType
    change Phase (impl.updateCallbackFunctions cbs reportCbType) (us ++ []) _
    rw [append_nil]
    refine .filled hslot hstart ?_ whole
    cases hbefore : impl.mPositionSessionResponseCbPending with
    | false =>
      rw [waiting_of_not_pending hbefore] at due
      rw [waiting_of_not_pending (hpending.trans hbefore)]
      exact .inl due
    | true =>
      obtain hsame | hclear := hfits hbefore
      · rw [waiting_of_pending hbefore, hsame] at due
        rw [waiting_of_pending (hpending.trans hbefore), hslot]
        exact .inl due
      · exact .inr ⟨hclear, due.none_of_clear hclear⟩
  delivered := (Errand.results_of_none rfl).symm

theorem taken_flag (slot : impl.mResponseCb = cb) (hstart : start.isStart = true)
    (due : Due impl.waiting us ∨ Clear us ∧ Unowed us) (whole : Whole l)
    (hfits : (ClientMsg.updateCallbacks callbacks).Fits impl us) :
    Taken impl us ⟨.updateCallbacks callbacks, cb⟩ (⟨start, cb⟩ :: l) := by
  obtain ⟨hslot, hpending, hposts, hids, hinvoked⟩ := updateCallbacks_spec (s := impl) callbacks
  refine ⟨hposts, ?_, ?_⟩
  · change Phase (impl.updateCallbacks callbacks).1
      (us ++ (responseMsgIds (impl.updateCallbacks callbacks).2).map (⟨·, cb⟩)) _
    rw [hids, map_nil, append_nil]
    cases cb with
    | none =>
      refine .flagged (hslot.trans slot) hstart ?_ (.inl rfl) whole
      obtain hdue | ⟨-, hunowed⟩ := due
      · rw [waiting_of_slot slot] at hdue
        exact hdue
      · exact hunowed
    | some cb =>
      have hclear : Clear us := hfits (by rw [slot]; exact Option.some_ne_none cb)
      refine .flagged (hslot.trans slot) hstart ?_ (.inr ⟨hpending, hclear⟩) whole
      obtain hdue | ⟨-, hunowed⟩ := due
      · exact hdue.none_of_clear hclear
      · exact hunowed
  · exact hinvoked.trans (Errand.results_of_none rfl).symm

theorem taken_start (slot : impl.mResponseCb = cb) (hstart : start.isStart = true)
    (unowed : Unowed us)
    (first : cb = none ∨ impl.mPositionSessionResponseCbPending = true ∧ Clear us) (whole : Whole l)
    (hregistered : impl.mHalRegistered = true) (hfits : start.Fits impl us) :
    Taken impl us ⟨start, cb⟩ l := by
  cases cb with
  | none =>
    obtain hkeeps | hrepeats := keeps_start hregistered hstart
    · refine ⟨hkeeps.posts, .between ?_ whole, hkeeps.invocations⟩
      rw [hkeeps.waiting, waiting_of_slot slot]
      exact Due.append (show Due none us from unowed) (unowed_requests rfl _)
    · obtain ⟨hwaiting, -, -, hinvoked⟩ :=
        invoke_spec (s := impl) .LOCATION_RESPONSE_SUCCESS
      rw [waiting_of_slot slot] at hinvoked
      refine ⟨?_, .between ?_ whole, ?_⟩
      · exact (congrArg (fun p => posts p.2) hrepeats).trans (posts_invoke _)
      · change Due (impl.proc start).1.waiting _
        rw [hrepeats, hwaiting]
        exact Due.append (show Due none us from unowed) (unowed_requests rfl _)
      · exact (congrArg (fun p => invocations p.2) hrepeats).trans hinvoked
  | some cb =>
    obtain hnone | ⟨hpending, hclear⟩ := first
    · exact absurd hnone (Option.some_ne_none cb)
    have hslot : impl.mResponseCb ≠ none := by
      rw [slot]
      exact Option.some_ne_none cb
    have hcb : impl.waiting = some cb := (waiting_of_pending hpending).trans slot
    obtain ⟨msgId, hkeeps, hids, hmsgId⟩ | hrepeats :=
      answerable_start hregistered hstart hfits hslot
    · -- the answer to what is sent is the one that waits
      refine ⟨hkeeps.posts, .between ?_ whole, ?_⟩
      · change Due (impl.proc start).1.waiting (us ++ (responseMsgIds (impl.proc start).2).map _)
        rw [hkeeps.waiting, hcb, hids]
        exact Due.append_first unowed hclear rfl hmsgId
      · refine hkeeps.invocations.trans (Errand.results_of_none ?_).symm
        refine (start.result_of_start hstart _).trans (if_neg fun h => ?_)
        exact cons_ne_nil _ _ (hids.symm.trans h.1)
    · -- the callback is invoked at once
      obtain ⟨hwaiting, -, hids, hinvoked⟩ := invoke_spec (s := impl) .LOCATION_RESPONSE_SUCCESS
      have hposts := posts_invoke (s := impl) .LOCATION_RESPONSE_SUCCESS
      refine ⟨?_, .between ?_ whole, ?_⟩
      · exact (congrArg (fun p => posts p.2) hrepeats).trans hposts
      · change Due (impl.proc start).1.waiting (us ++ (responseMsgIds (impl.proc start).2).map _)
        rw [hrepeats, hwaiting, hids, map_nil, append_nil]
        exact unowed
      · change invocations (impl.proc start).2 =
          ((start.result (impl.proc start).2).map (cb, ·)).toList
        rw [start.result_of_start hstart, hrepeats, if_pos ⟨hids, hposts⟩, hinvoked, hcb]
        rfl

theorem taken (h : Phase impl us (e :: l)) (hregistered : impl.mHalRegistered = true)
    (hfits : e.msg.Fits impl us) : Taken impl us e l := by
  cases h with
  | between due whole =>
    obtain ⟨cbs, reportCbType, callbacks, start, rest, rfl, rfl, hstart, hrest⟩ |
      ⟨hstop, hrest⟩ := whole.of_cons
    · exact taken_fill hstart due hrest hfits
    · obtain rfl | rfl := hstop
      · exact taken_stop keeps_stopTracking due hrest
      · exact taken_stop keeps_stopBatching due hrest
  | filled slot isStart due whole => exact taken_flag slot isStart due whole hfits
  | flagged slot isStart unowed first whole =>
    exact taken_start slot isStart unowed first whole hregistered hfits

theorem of_call (h : Phase impl us (e :: l)) : e.msg ≠ .capabilities ∧ e.msg ≠ .halReady := by
  cases h with
  | between due whole =>
    obtain ⟨cbs, reportCbType, callbacks, start, rest, rfl, -⟩ | ⟨rfl | rfl, -⟩ := whole.of_cons
    all_goals exact ⟨nofun, nofun⟩
  | filled => exact ⟨nofun, nofun⟩
  | @flagged start cb l slot isStart =>
    refine ⟨?_, ?_⟩ <;> rintro (rfl : start = _) <;> cases isStart

end Phase

namespace AnsweredClient

variable {s : AnsweredClient} {e : Errand} {rest : List Errand}

/-- What is left of the calls that have been made. -/
def errands (s : AnsweredClient) : List Errand :=
  (s.queue ++ s.calling).filter fun e => e.answer.isNone

/-- What the state is in before a message is taken. -/
structure InTurn (s : AnsweredClient) : Prop where
  registered : s.impl.mHalRegistered = true
  calls : ∀ e ∈ s.calling, e.answer = none
  delivered : s.invoked = s.results
  phase : Phase s.impl s.awaited s.errands

theorem InTurn.answered (h : InTurn s) : Answered s :=
  fun _ _ _ => h.delivered ▸ List.Perm.refl _

theorem InTurn.new : InTurn new :=
  ⟨rfl, fun _ he => absurd he not_mem_nil, rfl, .between (fun _ hu => absurd hu not_mem_nil) .nil⟩

theorem awaited_process (hposts : posts (s.impl.proc e.msg).2 = []) : (s.process e rest).awaited =
      rest.filterMap Errand.answer ++ (s.unanswered ++ e.requests (s.impl.proc e.msg).2) := by
  change (rest ++ (posts (s.impl.proc e.msg).2).map _).filterMap Errand.answer ++ _ = _
  rw [hposts, map_nil, append_nil]
  rfl

theorem errands_process (hposts : posts (s.impl.proc e.msg).2 = []) :
    (s.process e rest).errands = (rest ++ s.calling).filter fun e => e.answer.isNone := by
  change ((rest ++ (posts (s.impl.proc e.msg).2).map _) ++ s.calling).filter _ = _
  rw [hposts, map_nil, append_nil]

theorem InTurn.process_message (h : InTurn s) (hqueue : s.queue = e :: rest)
    (hanswer : e.answer = none) (hfits : e.msg.Fits s.impl s.awaited) :
    InTurn (s.process e rest) := by
  have hawaited : s.awaited = rest.filterMap Errand.answer ++ s.unanswered := by
    unfold awaited
    rw [hqueue, filterMap_cons_none hanswer]
  have herrands : s.errands = e :: (rest ++ s.calling).filter fun e => e.answer.isNone := by
    unfold errands
    rw [hqueue, cons_append, filter_cons_of_pos]
    rw [hanswer]
    rfl
  have hphase := h.phase
  rw [herrands] at hphase
  obtain ⟨hposts, htaken, hdelivered⟩ := hphase.taken h.registered hfits
  refine ⟨?_, h.calls, ?_, ?_⟩
  · exact (registered_proc hphase.of_call.1 hphase.of_call.2).trans h.registered
  · change s.invoked ++ invocations (s.impl.proc e.msg).2 = s.results ++ _
    rw [hdelivered, h.delivered]
    rfl
  · rw [awaited_process hposts, errands_process hposts, ← append_assoc, ← hawaited]
    exact htaken

variable {err : LocationResponse}

theorem InTurn.process_answer {msgId : ResponseMsgId} {owner : Option Callback} (h : InTurn s)
    (hqueue : s.queue = ⟨.response msgId err, owner⟩ :: rest) :
    InTurn (s.process ⟨.response msgId err, owner⟩ rest) := by
  have hawaited : s.awaited = ⟨msgId, owner⟩ :: (rest.filterMap Errand.answer ++ s.unanswered) := by
    unfold awaited
    rw [hqueue]
    rfl
  have herrands : s.errands = (rest ++ s.calling).filter fun e => e.answer.isNone := by
    unfold errands
    rw [hqueue]
    rfl
  have hphase := h.phase
  rw [hawaited] at hphase
  obtain ⟨hafter, hinvoked⟩ := hphase.answer err
  have hquiet : posts (s.impl.proc (.response msgId err)).2 = [] ∧
      responseMsgIds (s.impl.proc (.response msgId err)).2 = [] := by
    by_cases hstop : msgId = .E_LOCAPI_STOP_TRACKING_MSG_ID
    · rw [show s.impl.proc (.response msgId err) = (s.impl, []) from if_neg (not_not.mpr hstop)]
      exact ⟨rfl, rfl⟩
    · rw [show s.impl.proc (.response msgId err) = s.impl.invokePositionSessionResponseCb err from
        if_pos hstop]
      exact ⟨posts_invoke err, (invoke_spec err).2.2.1⟩
  have hregistered : (s.impl.proc (.response msgId err)).1.mHalRegistered = s.impl.mHalRegistered :=
    registered_proc nofun nofun
  refine ⟨hregistered.trans h.registered, h.calls, ?_, ?_⟩
  · change s.invoked ++ invocations (s.impl.proc (.response msgId err)).2 =
      s.results ++ (owner.bind fun cb => some (cb, err)).toList
    rw [hinvoked, h.delivered]
    cases owner <;> rfl
  · rw [awaited_process hquiet.1, errands_process hquiet.1, ← herrands]
    change Phase _ (_ ++ (s.unanswered ++ (responseMsgIds _).map _)) _
    rw [hquiet.2, map_nil, append_nil]
    exact hafter

theorem answer_of_call {c : SessionCall} (he : e ∈ c.errands) : e.answer = none := by
  obtain ⟨cbs, reportCbType, callbacks, start, hstart, hc⟩ | hc | hc := c.errands_cases
  · rw [hc] at he
    have hanswer : (⟨start, cbs.responsecb⟩ : Errand).answer = none := by
      cases start with
      | response => cases hstart
      | _ => rfl
    obtain rfl | he := mem_cons.mp he
    · rfl
    obtain rfl | he := mem_cons.mp he
    · rfl
    obtain rfl := mem_singleton.mp he
    exact hanswer
  · rw [hc] at he
    obtain rfl := mem_singleton.mp he
    rfl
  · rw [hc] at he
    obtain rfl := mem_singleton.mp he
    rfl

theorem InTurn.call (h : InTurn s) (hcalling : s.calling = []) (c : SessionCall) :
    InTurn { s with calling := c.errands } := by
  refine ⟨h.registered, fun e he => answer_of_call he, h.delivered, ?_⟩
  have herrands : ({ s with calling := c.errands } : AnsweredClient).errands =
      s.errands ++ c.errands := by
    have hcall : c.errands.filter (fun e => e.answer.isNone) = c.errands :=
      filter_eq_self.mpr fun e he => by rw [answer_of_call he]; rfl
    unfold errands
    dsimp only
    rw [hcalling, append_nil, filter_append, hcall]
  rw [herrands]
  exact h.phase.append c

theorem InTurn.put (h : InTurn s) (hcalling : s.calling = e :: rest) :
    InTurn { s with calling := rest, queue := s.queue ++ [e] } := by
  have hcalls := h.calls
  rw [hcalling] at hcalls
  obtain ⟨he, hrest⟩ := forall_mem_cons.mp hcalls
  refine ⟨h.registered, hrest, h.delivered, ?_⟩
  have hawaited : ({ s with calling := rest, queue := s.queue ++ [e] } : AnsweredClient).awaited =
      s.awaited := by
    unfold awaited
    dsimp only
    rw [filterMap_append, filterMap_cons_none he, filterMap_nil, append_nil]
  have herrands : ({ s with calling := rest, queue := s.queue ++ [e] } : AnsweredClient).errands =
      s.errands := by
    unfold errands
    dsimp only
    rw [hcalling, append_assoc, singleton_append]
  rw [hawaited, herrands]
  exact h.phase

theorem InTurn.answer {u : Unanswered} {us : List Unanswered} (h : InTurn s)
    (hunanswered : s.unanswered = u :: us) :
    InTurn { s with
      unanswered := us, queue := s.queue ++ [⟨.response u.msgId err, u.owner⟩] } := by
  refine ⟨h.registered, h.calls, h.delivered, ?_⟩
  have hawaited : ({ s with
      unanswered := us
      queue := s.queue ++ [⟨.response u.msgId err, u.owner⟩] } : AnsweredClient).awaited =
        s.awaited := by
    unfold awaited
    dsimp only
    rw [filterMap_append, hunanswered, append_assoc]
    rfl
  have herrands : ({ s with
      unanswered := us
      queue := s.queue ++ [⟨.response u.msgId err, u.owner⟩] } : AnsweredClient).errands =
        s.errands := by
    unfold errands
    dsimp only
    rw [filter_append, filter_append, filter_append]
    exact congrArg (· ++ _) (append_nil _)
  rw [hawaited, herrands]
  exact h.phase

theorem InTurn.step {event : AnswerEvent} (h : InTurn s) (hfits : s.Fits event) :
    InTurn (s.step event).1 := by
  cases event with
  | call c =>
    unfold AnsweredClient.step
    dsimp only
    split
    · rename_i hcalling
      exact h.call hcalling c
    · exact h
  | put =>
    unfold AnsweredClient.step
    dsimp only
    split
    · exact h
    · rename_i hcalling
      exact h.put hcalling
  | take =>
    unfold AnsweredClient.step
    dsimp only
    split
    · exact h
    · rename_i e rest hqueue
      have hmsg : e.msg.Fits s.impl s.awaited := hfits e (by rw [hqueue]; rfl)
      cases hanswer : e.answer with
      | none => exact h.process_message hqueue hanswer hmsg
      | some u =>
        obtain ⟨msg, owner⟩ := e
        cases msg with
        | response msgId err => exact h.process_answer hqueue
        | _ => cases hanswer
  | answer err =>
    unfold AnsweredClient.step
    dsimp only
    split
    · exact h
    · rename_i hunanswered
      exact h.answer hunanswered

/-- In a run whose steps all fit, each callback is invoked exactly once for
each of its calls, with the result of the request of that call. -/
theorem answered_of_fits (es : List AnswerEvent) (h : StepsMeet step Fits new es) :
    StatesMeet step Answered new es :=
  (statesMeet_of_stepsMeet (P := InTurn) (fun _ _ hs hfits => hs.step hfits) InTurn.new h).mono
    fun _ hs => hs.answered

/-- A session that is started, updated and asked for again, each once the one
before is answered; then a stop, and the start of another session before that
has been answered. -/
def oneAtATime : List AnswerEvent :=
  [.call (.startPosition (.location 1000 0 1) (some 5)), .put, .put, .take, .put, .take, .take,
    .answer .LOCATION_RESPONSE_SUCCESS, .take,
    .call (.startPosition (.location 500 0 1) (some 6)), .put, .put, .put, .take, .take, .take,
    .answer .LOCATION_RESPONSE_PARAM_INVALID, .take,
    .call (.startPosition (.location 500 0 1) (some 7)), .put, .put, .put, .take, .take, .take,
    .call .stopPosition, .put, .take,
    .call (.startRoutineBatching 2000 0 3 (some 8)), .put, .put, .put, .take, .take, .take,
    .answer .LOCATION_RESPONSE_SUCCESS, .answer .LOCATION_RESPONSE_NOT_SUPPORTED, .take, .take]

theorem answered_oneAtATime : StatesMeet step Answered new oneAtATime :=
  answered_of_fits oneAtATime (by decide)

/-- A start while an earlier one waits for its answer. -/
def overlapping : List AnswerEvent :=
  [.call (.startPosition (.location 1000 0 1) (some 5)), .put, .put, .put, .take, .take, .take,
    .call (.startPosition (.location 500 0 1) (some 6)), .put, .put, .put, .take, .take, .take,
    .answer .LOCATION_RESPONSE_SUCCESS, .take, .answer .LOCATION_RESPONSE_PARAM_INVALID, .take]

/-- The second callback gets the answer of the first, and that one is not
invoked. -/
theorem not_answered_overlapping : ¬ StatesMeet step Answered new overlapping := by
  intro h
  have hperm : (after step new overlapping).invoked.Perm (after step new overlapping).results :=
    h.last rfl rfl rfl
  exact absurd hperm (by decide)

end AnsweredClient

end LocStack.ClientApi
