/-
# `LocStack.Gnss.Odcpi` — the ODCPI requests of GnssAdapter.cpp

The modem asks for on-demand position injection with START and STOP; the
adapter passes the requests on to the framework, a START at most once every
ten seconds:

    requestOdcpi           START and STOP from the modem
    timeOut                OdcpiTimer has run out; LocTimer's thread sends
                           MsgOdcpiTimerExpire
    odcpiTimerExpire       that message is processed, and the stored request
                           forwarded again while a request is active
    handleEngineUpEvent    the modem has restarted

What a session is, and which callbacks were made in it, is kept beside the
adapter (`Watched`).  Two things are asked of the callbacks of a session:
those the timer makes while it is an emergency session are emergency
requests (`Forwards`), and any two are ten seconds apart, the escalation to
emergency excepted (`Spaced`).

Both fail.  `mOdcpiRequest = request` stands after the three branches of a
START and not in them, so a non-emergency START replaces the request of an
emergency session; and an expiry message that was sent before an escalation
restarted the timer is processed as if the new timer had run out.  Without
such requests and such messages both hold (`odcpi_calls_of_stepsMeet`).
-/
import LocStack.Adapter.PendingMsgs

namespace LocStack.Gnss

open Base Adapter Option

/-! ## The adapter -/

inductive OdcpiRequestType where
  | start | stop
  deriving DecidableEq

structure OdcpiRequestInfo where
  size : UInt32
  type : OdcpiRequestType
  tbfMillis : UInt32
  isEmergencyMode : Bool

inductive OdcpiPrioritytype where
  | low | high

def OdcpiPrioritytype.toNat : OdcpiPrioritytype → Nat
  | .low => 0
  | .high => 1

def ODCPI_EXPECTED_INJECTION_TIME_MS : Nat := 10000

/-- `mTimer` is the time at which the LocTimer below will call back. -/
structure OdcpiTimer where
  mActive : Bool
  mTimer : Option Nat

namespace OdcpiTimer

/-- `LocTimer::start` leaves a timer that is running as it is. -/
def start (t : OdcpiTimer) (now : Nat) : OdcpiTimer :=
  { mActive := true, mTimer := some (t.mTimer.getD (now + ODCPI_EXPECTED_INJECTION_TIME_MS)) }

def stop (_ : OdcpiTimer) : OdcpiTimer := { mActive := false, mTimer := none }

def restart (t : OdcpiTimer) (now : Nat) : OdcpiTimer := t.stop.start now

theorem restart_eq (t : OdcpiTimer) (now : Nat) :
    t.restart now = ⟨true, some (now + ODCPI_EXPECTED_INJECTION_TIME_MS)⟩ := rfl

end OdcpiTimer

/-- The part of GnssAdapter that is about ODCPI.  Callbacks are numbers. -/
structure OdcpiAdapter where
  /-- CLOCK_BOOTTIME, in milliseconds -/
  now : Nat
  mOdcpiRequestCb : Option Nat
  mCallbackPriority : OdcpiPrioritytype
  mOdcpiRequestActive : Bool
  mOdcpiRequest : OdcpiRequestInfo
  mOdcpiTimer : OdcpiTimer
  /-- How many MsgOdcpiTimerExpire are sent and not yet processed. -/
  expireMsgs : Nat

/-- A call of `mOdcpiRequestCb`. -/
structure OdcpiCall where
  callback : Nat
  request : OdcpiRequestInfo

inductive OdcpiEvent where
  | initOdcpi (callback : Nat) (priority : OdcpiPrioritytype)
  | requestOdcpi (request : OdcpiRequestInfo)
  /-- LocTimer's thread stops the timer and calls `timeOutCallback`. -/
  | timeOut
  | odcpiTimerExpire
  | handleEngineUpEvent (engineLockState : EngineLockState)
  /-- The boot clock moves on. -/
  | tick (millis : Nat)

namespace OdcpiAdapter

def new : OdcpiAdapter where
  now := 0
  mOdcpiRequestCb := none
  mCallbackPriority := .low
  mOdcpiRequestActive := false
  mOdcpiRequest := ⟨0, .start, 0, false⟩
  mOdcpiTimer := ⟨false, none⟩
  expireMsgs := 0

def initOdcpi (s : OdcpiAdapter) (callback : Nat) (priority : OdcpiPrioritytype) : OdcpiAdapter :=
  if s.mCallbackPriority.toNat ≤ priority.toNat then
    { s with mOdcpiRequestCb := some callback, mCallbackPriority := priority }
  else s

/-- The branch of `requestOdcpi` for a START. -/
def requestOdcpiStart (s : OdcpiAdapter) (callback : Nat) (request : OdcpiRequestInfo) :
    OdcpiAdapter × List OdcpiCall :=
  if s.mOdcpiRequestActive = false ∧ s.mOdcpiTimer.mActive = false then
    ({ s with
        mOdcpiRequestActive := true
        mOdcpiTimer := s.mOdcpiTimer.start s.now
        mOdcpiRequest := request }, [⟨callback, request⟩])
  -- if the current active odcpi session is non-emergency, and the new
  -- odcpi request is emergency, replace the odcpi request with new request
  -- and restart the timer
  else if s.mOdcpiRequest.isEmergencyMode = false ∧ request.isEmergencyMode = true then
    ({ s with
        mOdcpiRequestActive := true
        mOdcpiTimer :=
          if s.mOdcpiTimer.mActive = true then s.mOdcpiTimer.restart s.now
          else s.mOdcpiTimer.start s.now
        mOdcpiRequest := request }, [⟨callback, request⟩])
  else if s.mOdcpiRequestActive = false ∧ s.mOdcpiTimer.mActive = true then
    ({ s with mOdcpiRequestActive := true, mOdcpiRequest := request }, [])
  else ({ s with mOdcpiRequest := request }, [])

def requestOdcpi (s : OdcpiAdapter) (request : OdcpiRequestInfo) :
    OdcpiAdapter × List OdcpiCall :=
  match s.mOdcpiRequestCb with
  | none => (s, [])
  | some callback =>
    match request.type with
    | .start => s.requestOdcpiStart callback request
    | .stop => ({ s with mOdcpiRequestActive := false }, [⟨callback, request⟩])

def odcpiTimerExpire (s : OdcpiAdapter) : OdcpiAdapter × List OdcpiCall :=
  if s.mOdcpiRequestActive = true then
    ({ s with mOdcpiTimer := s.mOdcpiTimer.restart s.now },
      s.mOdcpiRequestCb.toList.map fun callback => ⟨callback, s.mOdcpiRequest⟩)
  else ({ s with mOdcpiTimer := s.mOdcpiTimer.stop }, [])

/-- `restartSessions(true)`, which only an enabled engine lock lets happen. -/
def handleEngineUpEvent (s : OdcpiAdapter) (engineLockState : EngineLockState) : OdcpiAdapter :=
  if engineLockState = .enabled then { s with mOdcpiRequestActive := false }
  else s

def step (s : OdcpiAdapter) : OdcpiEvent → OdcpiAdapter × List OdcpiCall
  | .initOdcpi callback priority => (s.initOdcpi callback priority, [])
  | .requestOdcpi request => s.requestOdcpi request
  | .timeOut =>
    match s.mOdcpiTimer.mTimer with
    | none => (s, [])
    | some _ =>
      ({ s with
          mOdcpiTimer := { s.mOdcpiTimer with mTimer := none }
          expireMsgs := s.expireMsgs + 1 }, [])
  | .odcpiTimerExpire =>
    if s.expireMsgs = 0 then (s, [])
    else { s with expireMsgs := s.expireMsgs - 1 }.odcpiTimerExpire
  | .handleEngineUpEvent engineLockState => (s.handleEngineUpEvent engineLockState, [])
  | .tick millis => ({ s with now := s.now + millis }, [])

end OdcpiAdapter

/-! ## Sessions -/

/-- A START callback made in a session. -/
structure SessionCall where
  time : Nat
  request : OdcpiRequestInfo
  byTimer : Bool
  /-- The session was an emergency one when the call was made. -/
  inEmergency : Bool
  /-- The call is the session's escalation to emergency. -/
  escalation : Bool

/-- From a START to the next STOP or modem restart; `calls` has the latest
first. -/
structure OdcpiSession where
  isEmergency : Bool
  calls : List SessionCall

namespace OdcpiSession

/-- What the timer forwards while an emergency session is active is an
emergency request. -/
def Forwards (session : OdcpiSession) : Prop :=
  ∀ call ∈ session.calls,
    call.byTimer = true → call.inEmergency = true → call.request.isEmergencyMode = true
  deriving Decidable

/-- Ten seconds from each call to every later one that does not escalate. -/
def Spaced (session : OdcpiSession) : Prop :=
  session.calls.Pairwise fun call prior =>
    call.escalation = false → prior.time + ODCPI_EXPECTED_INJECTION_TIME_MS ≤ call.time
  deriving Decidable

end OdcpiSession

/-- The adapter with the session that is active, if one is. -/
structure WatchedOdcpi where
  adapter : OdcpiAdapter
  session : Option OdcpiSession

namespace WatchedOdcpi

def new : WatchedOdcpi := ⟨.new, none⟩

def wasEmergency (w : WatchedOdcpi) : Bool := w.session.any (·.isEmergency)

/-- The calls made in the session so far. -/
def calls (w : WatchedOdcpi) : List SessionCall := (w.session.map (·.calls)).getD []

/-- The session after the modem's request, of which `called` were passed on.
A request that finds no callback is not taken up. -/
def afterRequest (w : WatchedOdcpi) (request : OdcpiRequestInfo) (called : List OdcpiCall) :
    Option OdcpiSession :=
  match w.adapter.mOdcpiRequestCb, request.type with
  | none, _ => w.session
  | some _, .stop => none
  | some _, .start =>
    some {
      isEmergency := w.wasEmergency || request.isEmergencyMode
      calls := (called.map fun c => {
          time := w.adapter.now
          request := c.request
          byTimer := false
          inEmergency := w.wasEmergency || request.isEmergencyMode
          escalation := w.session.isSome && !w.wasEmergency && request.isEmergencyMode }) ++
        w.calls }

/-- The session after an expiry message, for which `called` were forwarded. -/
def afterExpire (w : WatchedOdcpi) (called : List OdcpiCall) : Option OdcpiSession :=
  w.session.map fun session =>
    { session with
      calls := (called.map fun c => {
          time := w.adapter.now
          request := c.request
          byTimer := true
          inEmergency := session.isEmergency
          escalation := false }) ++ session.calls }

def step (w : WatchedOdcpi) (e : OdcpiEvent) : WatchedOdcpi × List OdcpiCall :=
  let stepped := w.adapter.step e
  ({ adapter := stepped.1
     session :=
       match e with
       | .requestOdcpi request => w.afterRequest request stepped.2
       | .odcpiTimerExpire => w.afterExpire stepped.2
       | .handleEngineUpEvent _ => none
       | _ => w.session }, stepped.2)

def Forwards (w : WatchedOdcpi) : Prop := ∀ session ∈ w.session, session.Forwards
  deriving Decidable

def Spaced (w : WatchedOdcpi) : Prop := ∀ session ∈ w.session, session.Spaced
  deriving Decidable

end WatchedOdcpi

/-! ## What a START does -/

namespace WatchedOdcpi

/-- The events that keep out of the way of the two slips, and a LocTimer
that does not call back early. -/
def Undisturbed (w : WatchedOdcpi) : OdcpiEvent → Prop
  | .requestOdcpi request =>
    request.type = .start → w.wasEmergency = true → request.isEmergencyMode = true
  | .odcpiTimerExpire =>
    0 < w.adapter.expireMsgs → w.adapter.mOdcpiRequestActive = true →
      w.adapter.mOdcpiTimer.mTimer = none
  | .timeOut => ∀ t ∈ w.adapter.mOdcpiTimer.mTimer, t ≤ w.adapter.now
  | _ => True

instance (w : WatchedOdcpi) (e : OdcpiEvent) : Decidable (w.Undisturbed e) := by
  cases e <;> unfold Undisturbed <;> infer_instance

/-- The invariant that carries the two properties of the calls: the next
call of the timer is ten seconds after every call of the session. -/
structure Orderly (w : WatchedOdcpi) : Prop where
  running : ∀ t ∈ w.adapter.mOdcpiTimer.mTimer, w.adapter.mOdcpiTimer.mActive = true
  supported : ∀ session ∈ w.session, w.adapter.mOdcpiRequestCb ≠ none
  taken_up : ∀ session ∈ w.session, w.adapter.mOdcpiRequestActive = true
  stored : w.wasEmergency = true → w.adapter.mOdcpiRequest.isEmergencyMode = true
  past : ∀ session ∈ w.session, ∀ call ∈ session.calls, call.time ≤ w.adapter.now
  due : ∀ session ∈ w.session, ∀ call ∈ session.calls,
    call.time + ODCPI_EXPECTED_INJECTION_TIME_MS ≤ w.adapter.mOdcpiTimer.mTimer.getD w.adapter.now
  forwards : w.Forwards
  spaced : w.Spaced

theorem orderly_new : Orderly new where
  running _ h := by cases h
  supported _ h := by cases h
  taken_up _ h := by cases h
  stored h := by cases h
  past _ h := by cases h
  due _ h := by cases h
  forwards _ h := by cases h
  spaced _ h := by cases h

variable {w : WatchedOdcpi}

/-- A START is passed on with the timer at ten seconds, if it is the first
of a session or escalates one; or it is stored only. -/
theorem Orderly.requestOdcpiStart (h : w.Orderly) (callback : Nat) (request : OdcpiRequestInfo) :
    (w.adapter.requestOdcpiStart callback request = ({ w.adapter with
            mOdcpiRequestActive := true
            mOdcpiTimer := ⟨true, some (w.adapter.now + ODCPI_EXPECTED_INJECTION_TIME_MS)⟩
            mOdcpiRequest := request }, [⟨callback, request⟩]) ∧
      (w.session = none ∨ w.wasEmergency = false ∧ request.isEmergencyMode = true)) ∨
    w.adapter.requestOdcpiStart callback request =
      ({ w.adapter with mOdcpiRequestActive := true, mOdcpiRequest := request }, []) := by
  have hstopped : w.adapter.mOdcpiTimer.mActive = false → w.adapter.mOdcpiTimer.mTimer = none := by
    intro hactive
    rw [eq_none_iff_forall_not_mem]
    intro t ht
    have hrun := h.running t ht
    rw [hactive] at hrun
    cases hrun
  unfold OdcpiAdapter.requestOdcpiStart
  split
  · rename_i hidle
    refine Or.inl ⟨by simp [OdcpiTimer.start, hstopped hidle.2], Or.inl ?_⟩
    rw [eq_none_iff_forall_not_mem]
    intro session hsession
    have hactive := h.taken_up session hsession
    rw [hidle.1] at hactive
    cases hactive
  · rename_i hidle
    split
    · rename_i hescalates
      refine Or.inl ⟨?_, Or.inr ⟨?_, hescalates.2⟩⟩
      · split
        · rfl
        · rename_i hactive
          simp [OdcpiTimer.start, hstopped (Bool.eq_false_iff.mpr hactive)]
      · rw [Bool.eq_false_iff]
        intro hwas
        have hstored := h.stored hwas
        rw [hescalates.1] at hstored
        cases hstored
    · right
      split
      · rfl
      · rename_i hwaiting
        have hactive : w.adapter.mOdcpiRequestActive = true := by
          cases ha : w.adapter.mOdcpiRequestActive with
          | true => rfl
          | false =>
            cases hb : w.adapter.mOdcpiTimer.mActive with
            | true => exact absurd ⟨ha, hb⟩ hwaiting
            | false => exact absurd ⟨ha, hb⟩ hidle
        rw [← hactive]

/-! ## What each event preserves -/

theorem calls_of_none (h : w.session = none) : w.calls = [] := by simp [calls, h]

theorem calls_of_some {session : OdcpiSession} (h : w.session = some session) :
    w.calls = session.calls := by
  simp [calls, h]

theorem forall_mem_calls {P : SessionCall → Prop}
    (h : ∀ session ∈ w.session, ∀ call ∈ session.calls, P call) : ∀ call ∈ w.calls, P call := by
  intro call hcall
  cases hs : w.session with
  | none =>
    rw [calls_of_none hs] at hcall
    cases hcall
  | some session =>
    rw [calls_of_some hs] at hcall
    exact h session hs call hcall

theorem Orderly.pairwise_calls (h : w.Orderly) : w.calls.Pairwise fun call prior =>
      call.escalation = false → prior.time + ODCPI_EXPECTED_INJECTION_TIME_MS ≤ call.time := by
  cases hs : w.session with
  | none =>
    rw [calls_of_none hs]
    exact List.Pairwise.nil
  | some session =>
    rw [calls_of_some hs]
    exact h.spaced session hs

variable {adapter : OdcpiAdapter}

theorem Orderly.called (h : w.Orderly) {call : SessionCall} {emergency : Bool}
    (hnow : adapter.now = w.adapter.now) (hcb : adapter.mOdcpiRequestCb ≠ none)
    (hactive : adapter.mOdcpiRequestActive = true) (htimer : adapter.mOdcpiTimer =
      ⟨true, some (w.adapter.now + ODCPI_EXPECTED_INJECTION_TIME_MS)⟩)
    (hstored : emergency = true → adapter.mOdcpiRequest.isEmergencyMode = true)
    (htime : call.time = w.adapter.now) (hforwards : call.byTimer = true → call.inEmergency = true →
      call.request.isEmergencyMode = true) (hspaced : call.escalation = false → ∀ prior ∈ w.calls,
      prior.time + ODCPI_EXPECTED_INJECTION_TIME_MS ≤ w.adapter.now) :
    Orderly ⟨adapter, some ⟨emergency, call :: w.calls⟩⟩ where
  running t _ := by rw [htimer]
  supported _ _ := hcb
  taken_up _ _ := hactive
  stored := hstored
  past session hs c hc := by
    cases hs
    simp only at hnow ⊢
    rw [hnow]
    rcases List.mem_cons.mp hc with rfl | hc
    · exact Nat.le_of_eq htime
    · exact forall_mem_calls h.past c hc
  due session hs c hc := by
    cases hs
    simp only [htimer, getD_some]
    refine Nat.add_le_add_right ?_ _
    rcases List.mem_cons.mp hc with rfl | hc
    · exact Nat.le_of_eq htime
    · exact forall_mem_calls h.past c hc
  forwards session hs c hc := by
    cases hs
    rcases List.mem_cons.mp hc with rfl | hc
    · exact hforwards
    · exact forall_mem_calls h.forwards c hc
  spaced session hs := by
    cases hs
    refine List.pairwise_cons.mpr ⟨?_, h.pairwise_calls⟩
    intro prior hprior hescalation
    rw [htime]
    exact hspaced hescalation prior hprior

theorem Orderly.step_requestOdcpi (h : w.Orderly) {request : OdcpiRequestInfo}
    (hok : w.Undisturbed (.requestOdcpi request)) : (w.step (.requestOdcpi request)).1.Orderly := by
  simp only [step, OdcpiAdapter.step, OdcpiAdapter.requestOdcpi, afterRequest]
  cases hcb : w.adapter.mOdcpiRequestCb with
  | none => exact h
  | some callback =>
    cases htype : request.type with
    | stop =>
      exact {
        running := h.running
        supported := fun _ hs => by cases hs
        taken_up := fun _ hs => by cases hs
        stored := fun hwas => by cases hwas
        past := fun _ hs => by cases hs
        due := fun _ hs => by cases hs
        forwards := fun _ hs => by cases hs
        spaced := fun _ hs => by cases hs }
    | start =>
      have hstored : (w.wasEmergency || request.isEmergencyMode) = true →
          request.isEmergencyMode = true := by
        intro hem
        rcases Bool.or_eq_true_iff.mp hem with hwas | hem
        · exact hok htype hwas
        · exact hem
      rcases h.requestOdcpiStart callback request with ⟨heq, hfirst⟩ | heq
      · simp only [heq]
        refine h.called rfl (by simp [hcb]) rfl rfl hstored rfl (fun htimer => by cases htimer) ?_
        intro hescalation prior hprior
        rcases hfirst with hnone | ⟨hwas, hem⟩
        · rw [calls_of_none hnone] at hprior
          cases hprior
        · cases hs : w.session with
          | none =>
            rw [calls_of_none hs] at hprior
            cases hprior
          | some session => simp [hs, hwas, hem] at hescalation
      · simp only [heq]
        exact {
          running := h.running
          supported := fun _ _ => by
            rw [hcb]
            exact some_ne_none _
          taken_up := fun _ _ => rfl
          stored := hstored
          past := fun session hs => by
            cases hs
            exact forall_mem_calls h.past
          due := fun session hs => by
            cases hs
            exact forall_mem_calls h.due
          forwards := fun session hs => by
            cases hs
            exact forall_mem_calls h.forwards
          spaced := fun session hs => by
            cases hs
            exact h.pairwise_calls }

theorem orderly_of_none
    (hrun : ∀ t ∈ adapter.mOdcpiTimer.mTimer, adapter.mOdcpiTimer.mActive = true) :
    Orderly ⟨adapter, none⟩ where
  running := hrun
  supported _ hs := by cases hs
  taken_up _ hs := by cases hs
  stored hwas := by cases hwas
  past _ hs := by cases hs
  due _ hs := by cases hs
  forwards _ hs := by cases hs
  spaced _ hs := by cases hs

theorem Orderly.step_odcpiTimerExpire (h : w.Orderly) (hok : w.Undisturbed .odcpiTimerExpire) :
    (w.step .odcpiTimerExpire).1.Orderly := by
  obtain ⟨adapter, session⟩ := w
  simp only [step, OdcpiAdapter.step]
  split
  · cases session <;> exact h
  · rename_i hmsgs
    simp only [OdcpiAdapter.odcpiTimerExpire]
    split
    · rename_i hactive
      have hdone := hok (Nat.pos_of_ne_zero hmsgs) hactive
      cases session with
      | none => exact orderly_of_none fun _ _ => rfl
      | some session =>
        cases hcb : adapter.mOdcpiRequestCb with
        | none => exact absurd hcb (h.supported session rfl)
        | some callback =>
          refine h.called rfl (some_ne_none _) hactive (OdcpiTimer.restart_eq _ _)
            h.stored rfl (fun _ hem => h.stored hem) ?_
          intro _ prior hprior
          have hdue := h.due session rfl prior hprior
          rw [hdone] at hdue
          exact hdue
    · rename_i hidle
      cases session with
      | none => exact orderly_of_none fun _ ht => by cases ht
      | some session => exact absurd (h.taken_up session rfl) hidle

theorem Orderly.step_timeOut (h : w.Orderly) (hok : w.Undisturbed .timeOut) :
    (w.step .timeOut).1.Orderly := by
  simp only [step, OdcpiAdapter.step]
  cases ht : w.adapter.mOdcpiTimer.mTimer with
  | none => exact h
  | some t =>
    refine { h with running := ?_, due := ?_ }
    · intro _ hnone
      cases hnone
    intro session hs call hcall
    have hdue := h.due session hs call hcall
    rw [ht] at hdue
    exact Nat.le_trans hdue (hok t ht)

theorem Orderly.step (h : w.Orderly) {e : OdcpiEvent} (hok : w.Undisturbed e) :
    (w.step e).1.Orderly := by
  cases e with
  | requestOdcpi request => exact h.step_requestOdcpi hok
  | odcpiTimerExpire => exact h.step_odcpiTimerExpire hok
  | timeOut => exact h.step_timeOut hok
  | initOdcpi callback priority =>
    simp only [WatchedOdcpi.step, OdcpiAdapter.step, OdcpiAdapter.initOdcpi]
    split
    · exact { h with supported := fun _ _ => some_ne_none _ }
    · exact h
  | handleEngineUpEvent engineLockState =>
    simp only [WatchedOdcpi.step, OdcpiAdapter.step, OdcpiAdapter.handleEngineUpEvent]
    split <;> exact orderly_of_none h.running
  | tick millis =>
    refine { h with past := ?_, due := ?_ }
    · intro session hs call hcall
      exact Nat.le_add_right_of_le (h.past session hs call hcall)
    · intro session hs call hcall
      have hdue := h.due session hs call hcall
      cases ht : w.adapter.mOdcpiTimer.mTimer with
      | none =>
        rw [ht] at hdue
        simp only [WatchedOdcpi.step, OdcpiAdapter.step, ht]
        exact Nat.le_add_right_of_le hdue
      | some t =>
        rw [ht] at hdue
        simp only [WatchedOdcpi.step, OdcpiAdapter.step, ht]
        exact hdue

/-! ## Whole runs -/

/-- Where no non-emergency START comes into an emergency session, and no
expiry message is left over when the timer has been started again, both
properties hold throughout. -/
theorem odcpi_calls_of_stepsMeet {es : List OdcpiEvent} (h : StepsMeet step Undisturbed new es) :
    StatesMeet step (fun w => w.Forwards ∧ w.Spaced) new es := by
  have horderly : StatesMeet step Orderly new es :=
    statesMeet_of_stepsMeet (fun _ _ h hok => Orderly.step h hok) orderly_new h
  exact horderly.mono fun _ h => ⟨h.forwards, h.spaced⟩

/-- An emergency session of thirty seconds, the first ten of them with a
session that is not one. -/
theorem odcpi_calls_escalated : StatesMeet step (fun w => w.Forwards ∧ w.Spaced) new
      [.initOdcpi 1 .low, .requestOdcpi ⟨16, .start, 1000, false⟩, .tick 4000,
        .requestOdcpi ⟨16, .start, 1000, true⟩, .tick 10000, .timeOut, .odcpiTimerExpire,
        .tick 10000, .timeOut, .odcpiTimerExpire] :=
  odcpi_calls_of_stepsMeet (by decide)

/-- A START without emergency comes in while an emergency session is active,
and ten seconds later the timer forwards it. -/
def downgraded : List OdcpiEvent :=
  [.initOdcpi 1 .low, .requestOdcpi ⟨16, .start, 1000, true⟩, .tick 4000,
    .requestOdcpi ⟨16, .start, 1000, false⟩, .tick 6000, .timeOut, .odcpiTimerExpire]

/-- The timer runs out; before its message is processed the session is
escalated and the timer started again. -/
def staleExpiry : List OdcpiEvent :=
  [.initOdcpi 1 .low, .requestOdcpi ⟨16, .start, 1000, false⟩, .tick 10000, .timeOut,
    .requestOdcpi ⟨16, .start, 1000, true⟩, .odcpiTimerExpire]

theorem odcpi_calls_fail :
    ¬ (after step new downgraded).Forwards ∧ (after step new downgraded).Spaced ∧
      (after step new staleExpiry).Forwards ∧ ¬ (after step new staleExpiry).Spaced := by
  decide

end WatchedOdcpi

end LocStack.Gnss
