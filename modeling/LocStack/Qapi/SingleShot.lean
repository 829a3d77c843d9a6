/-
# `LocStack.Qapi.SingleShot` — tracking and single shots over one position session

The QAPI keeps one LocationClientApi with one position session, and one
timer.  A single shot starts the session and the timer; that the timer is
running is what tells the location that answers a single shot from one of a
tracking session, and either ends the session:

    location, timer running       stop session and timer, singleShotCb
    location, timer not running   trackingCb
    timer expired                 stop session, singleShotCb with TIMEOUT
    cancelled, timer running      stop session and timer

The calls of LocationClientApi are put into the queue of its message task, as
is what the daemon reports; its deletion is the last message (`ApiMsg`).  The
three messages of `startPositionSession` are one here, and the responses of
the daemon are left out.

`qapi_iff`: a run meets the contract (`Right`) if and only if

* no single shot is asked for while tracking, and none is cancelled, timed
  out or answered while tracking has been started over it;
* it is the only one when it is answered, and singleShotCb is given;
* no location that was received before the deletion is taken after
  qapi_Loc_Deinit, and the timer does not expire after it;
* trackingCb is given when a location of a tracking session is taken.
-/
import LocStack.Base.Run

namespace LocStack.Qapi

open Base

/-! ## The client API underneath -/

/-- `qapi_Location_Options_t` -/
structure Options where
  (minInterval minDistance : UInt32)
  deriving DecidableEq

/-- Which of the two callbacks a session was started with. -/
inductive LocationCallback where
  | location_tracking_callback | gnss_location_tracking_callback
  deriving DecidableEq

structure PositionSession where
  callback : LocationCallback
  options : Options
  deriving DecidableEq

def PositionSession.tracking (options : Options) : PositionSession :=
  ⟨.location_tracking_callback, options⟩

def PositionSession.singleShot : PositionSession :=
  ⟨.gnss_location_tracking_callback, ⟨1000, 0⟩⟩

/-- The messages of the LocationClientApi's task. -/
inductive ApiMsg where
  | startPositionSession (session : PositionSession)
  | stopPositionSession
  /-- a location, valid if its flags are not zero -/
  | location (flags : UInt32)
  | destroy

/-- The session that a message leaves. -/
def ApiMsg.onSession : ApiMsg → Option PositionSession → Option PositionSession
  | .startPositionSession session, _ => some session
  | .stopPositionSession, _ | .destroy, _ => none
  | .location _, session => session

/-! ## The QAPI -/

inductive Error where
  | QAPI_LOCATION_ERROR_SUCCESS | QAPI_LOCATION_ERROR_GENERAL_FAILURE
  | QAPI_LOCATION_ERROR_INVALID_PARAMETER | QAPI_LOCATION_ERROR_ID_UNKNOWN
  deriving DecidableEq

inductive PowerLevel where
  | QAPI_LOCATION_POWER_HIGH | QAPI_LOCATION_POWER_LOW | QAPI_LOCATION_POWER_MED
  deriving DecidableEq

/-- The optional callbacks, if they are given. -/
structure Callbacks where
  (trackingCb singleShotCb : Bool)

inductive Out where
  | trackingCb
  | singleShotCb (timeout : Bool)
  /-- `pLocClientApi->stopPositionSession()` of a null pointer -/
  | nullCall

structure QapiState where
  qLocationCallbacks : Callbacks
  /-- whether pLocClientApi is set -/
  pLocClientApi : Bool
  /-- `mStarted` of mTimer -/
  mTimer : Bool
  /-- what the message task of the LocationClientApi has not taken yet -/
  queue : List ApiMsg
  /-- of the LocationClientApi, with a valid mSessionId -/
  session : Option PositionSession

namespace QapiState

/-- After `qapi_Loc_Init`. -/
def init (callbacks : Callbacks) : QapiState := ⟨callbacks, true, false, [], none⟩

variable (s : QapiState)

def post (msg : ApiMsg) : QapiState := { s with queue := s.queue ++ [msg] }

/-- `pLocClientApi->stopPositionSession()`, if it is not null. -/
def stopSession : QapiState := if s.pLocClientApi then s.post .stopPositionSession else s

def startTracking : Option Options → QapiState × Error
  | none => (s, .QAPI_LOCATION_ERROR_INVALID_PARAMETER)
  | some options =>
    if s.pLocClientApi then
      (s.post (.startPositionSession (.tracking options)), .QAPI_LOCATION_ERROR_SUCCESS)
    else (s, .QAPI_LOCATION_ERROR_GENERAL_FAILURE)

def stopTracking : QapiState × Error :=
  if s.pLocClientApi then (s.post .stopPositionSession, .QAPI_LOCATION_ERROR_SUCCESS)
  else (s, .QAPI_LOCATION_ERROR_GENERAL_FAILURE)

def getSingleShot (powerLevel : PowerLevel) : QapiState × Error :=
  if powerLevel ≠ .QAPI_LOCATION_POWER_HIGH ∧ powerLevel ≠ .QAPI_LOCATION_POWER_LOW then
    (s, .QAPI_LOCATION_ERROR_INVALID_PARAMETER)
  else if s.pLocClientApi then
    -- a timer that is running is not started again
    ({ s.post (.startPositionSession .singleShot) with mTimer := true },
      .QAPI_LOCATION_ERROR_SUCCESS)
  else (s, .QAPI_LOCATION_ERROR_GENERAL_FAILURE)

def cancelSingleShot : QapiState × Error :=
  (if s.mTimer then { s.stopSession with mTimer := false } else s, .QAPI_LOCATION_ERROR_SUCCESS)

def deinit : QapiState × Error :=
  if s.pLocClientApi then
    ({ s.post .destroy with pLocClientApi := false }, .QAPI_LOCATION_ERROR_SUCCESS)
  else (s, .QAPI_LOCATION_ERROR_ID_UNKNOWN)

/-- `location_tracking_callback` and `gnss_location_tracking_callback`, which
do the same. -/
def trackingCallback (flags : UInt32) : QapiState × List Out :=
  if flags = 0 then (s, [])
  else if s.mTimer then
    ({ s.stopSession with mTimer := false },
      if s.qLocationCallbacks.singleShotCb then [.singleShotCb false] else [])
  else (s, if s.qLocationCallbacks.trackingCb then [.trackingCb] else [])

/-- The message task takes a message; a location is for a session. -/
def take : QapiState × List Out :=
  match s.queue with
  | [] => (s, [])
  | .location flags :: rest =>
    let s := { s with queue := rest }
    if s.session.isSome then s.trackingCallback flags else (s, [])
  | msg :: rest => ({ s with queue := rest, session := msg.onSession s.session }, [])

/-- The location that is taken next, in a session. -/
def next : Option (UInt32 × PositionSession) :=
  match s.queue, s.session with
  | .location flags :: _, some session => some (flags, session)
  | _, _ => none

/-- `timeOutCallback` -/
def expire : QapiState × List Out :=
  if s.mTimer then
    let s := { s with mTimer := false }
    (s.stopSession, (if s.pLocClientApi then [] else [.nullCall]) ++
        if s.qLocationCallbacks.singleShotCb then [.singleShotCb true] else [])
  else (s, [])

/-- The session that there will be when the queue is empty. -/
def target : Option PositionSession :=
  s.queue.foldl (fun session msg => msg.onSession session) s.session

end QapiState

/-! ## What the client has asked for -/

inductive Event where
  | startTracking (pOptions : Option Options)
  | stopTracking
  | getSingleShot (powerLevel : PowerLevel)
  | cancelSingleShot | deinit
  /-- the LocationClientApi receives a location -/
  | receive (flags : UInt32)
  | take | expire

structure Client where
  qapi : QapiState
  /-- the tracking session that was started and not stopped -/
  tracking : Option Options
  /-- single shots that returned success and are neither answered nor cancelled -/
  outstanding : Nat

def Out.answers : Out → Bool
  | .singleShotCb _ => true
  | .trackingCb | .nullCall => false

namespace Client

def init (callbacks : Callbacks) : Client := ⟨.init callbacks, none, 0⟩

variable (s : Client)

/-- Each singleShotCb answers one. -/
def told (r : QapiState × List Out) : Client × List Out :=
  ({ s with qapi := r.1, outstanding := s.outstanding - r.2.countP Out.answers }, r.2)

def step : Event → Client × List Out
  | .startTracking pOptions =>
    let (qapi, err) := s.qapi.startTracking pOptions
    ({ s with
        qapi
        tracking := if err = .QAPI_LOCATION_ERROR_SUCCESS then pOptions else s.tracking }, [])
  | .stopTracking =>
    let (qapi, err) := s.qapi.stopTracking
    ({ s with
        qapi
        tracking := if err = .QAPI_LOCATION_ERROR_SUCCESS then none else s.tracking }, [])
  | .getSingleShot powerLevel =>
    let (qapi, err) := s.qapi.getSingleShot powerLevel
    ({ s with
        qapi
        outstanding := if err = .QAPI_LOCATION_ERROR_SUCCESS then s.outstanding + 1
          else s.outstanding }, [])
  | .cancelSingleShot => ({ s with qapi := s.qapi.cancelSingleShot.1, outstanding := 0 }, [])
  | .deinit => ({ qapi := s.qapi.deinit.1, tracking := none, outstanding := 0 }, [])
  | .receive flags => ({ s with qapi := s.qapi.post (.location flags) }, [])
  | .take => s.told s.qapi.take
  | .expire => s.told s.qapi.expire

/-! ## The contract -/

/-- Without the timer running no single shot is waited for, and the tracking
session is the one that runs. -/
structure Kept : Prop where
  answered : s.qapi.mTimer = false → s.outstanding = 0
  running : s.tracking = none ∨ s.qapi.target = s.tracking.map .tracking

/-- A valid location of a tracking session is taken. -/
def Tracks : Event → Bool
  | .take => s.qapi.next.any fun (flags, session) =>
    flags ≠ 0 ∧ s.tracking.isSome ∧ session.callback = .location_tracking_callback
  | _ => false

structure Right (e : Event) : Prop where
  /-- after qapi_Loc_Deinit -/
  silent : s.qapi.pLocClientApi = false → (s.step e).2 = []
  /-- no single shot is answered twice, or after it was cancelled -/
  once : (s.step e).2.countP Out.answers ≤ s.outstanding
  tracked : s.Tracks e = true → .trackingCb ∈ (s.step e).2
  kept : (s.step e).1.Kept

/-- There is one single shot to be answered, by a callback that is given, and
no tracking. -/
structure Answerable : Prop where
  client : s.qapi.pLocClientApi = true
  alone : s.outstanding = 1
  given : s.qapi.qLocationCallbacks.singleShotCb = true
  no_tracking : s.tracking = none

/-- What is asked of a valid location that is taken in a session. -/
def FitsLocation (session : PositionSession) : Prop :=
  if s.qapi.mTimer then
    s.Answerable ∨ s.qapi.pLocClientApi = false ∧ s.qapi.qLocationCallbacks.singleShotCb = false
  else
    (s.qapi.pLocClientApi = false → s.qapi.qLocationCallbacks.trackingCb = false) ∧
    (s.tracking.isSome → session.callback = .location_tracking_callback →
      s.qapi.qLocationCallbacks.trackingCb = true)

def Fits : Event → Prop
  | .getSingleShot powerLevel =>
    (s.qapi.getSingleShot powerLevel).2 = .QAPI_LOCATION_ERROR_SUCCESS → s.tracking = none
  | .cancelSingleShot => s.qapi.mTimer = true → s.tracking = none
  | .take => ∀ flags session, s.qapi.next = some (flags, session) → flags ≠ 0 →
      s.FitsLocation session
  | .expire => s.qapi.mTimer = true → s.Answerable
  | _ => True

/-! ## Step by step -/

/-- What holds in every run. -/
structure Inv : Prop where
  armed : s.qapi.pLocClientApi = true → s.qapi.mTimer = true → 1 ≤ s.outstanding
  ended : s.qapi.pLocClientApi = false → s.outstanding = 0 ∧ s.tracking = none

end Client

namespace QapiState

variable {s : QapiState}

theorem target_post (msg : ApiMsg) : (s.post msg).target = msg.onSession s.target := by
  unfold target post
  rw [List.foldl_append]
  rfl

theorem target_stopSession (h : s.pLocClientApi = true) : s.stopSession.target = none := by
  rw [stopSession, if_pos h, target_post]
  rfl

@[simp] theorem stopSession_pLocClientApi : s.stopSession.pLocClientApi = s.pLocClientApi := by
  unfold stopSession
  split <;> rfl

@[simp] theorem stopSession_mTimer : s.stopSession.mTimer = s.mTimer := by
  unfold stopSession
  split <;> rfl

theorem take_cases (s : QapiState) :
    (∃ flags rest session, s.next = some (flags, session) ∧ s.queue = .location flags :: rest ∧
      s.take = { s with queue := rest }.trackingCallback flags) ∨
    (s.next = none ∧ ∃ queue session, s.take = ({ s with queue, session }, []) ∧
      { s with queue, session }.target = s.target) := by
  obtain ⟨callbacks, client, timer, queue, session⟩ := s
  cases queue with
  | nil => exact Or.inr ⟨rfl, _, _, rfl, rfl⟩
  | cons msg rest =>
    cases msg with
    | startPositionSession session => exact Or.inr ⟨rfl, _, _, rfl, rfl⟩
    | stopPositionSession => exact Or.inr ⟨rfl, _, _, rfl, rfl⟩
    | destroy => exact Or.inr ⟨rfl, _, _, rfl, rfl⟩
    | location flags =>
      cases session with
      | none => exact Or.inr ⟨rfl, _, _, rfl, rfl⟩
      | some session => exact Or.inl ⟨flags, rest, session, rfl, rfl, rfl⟩

theorem getSingleShot_cases (s : QapiState) (powerLevel : PowerLevel) :
    (s.pLocClientApi = true ∧ s.getSingleShot powerLevel =
      ({ s.post (.startPositionSession .singleShot) with mTimer := true },
        .QAPI_LOCATION_ERROR_SUCCESS)) ∨
    ((s.getSingleShot powerLevel).1 = s ∧
      (s.getSingleShot powerLevel).2 ≠ .QAPI_LOCATION_ERROR_SUCCESS) := by
  unfold getSingleShot
  split
  · exact Or.inr ⟨rfl, fun h => (by cases h)⟩
  split
  · rename_i hclient
    exact Or.inl ⟨hclient, rfl⟩
  · exact Or.inr ⟨rfl, fun h => (by cases h)⟩

end QapiState

namespace Client

variable {s : Client} {e : Event} {flags : UInt32} {rest : List ApiMsg}

theorem right_iff_kept (houts : (s.step e).2 = []) (htracks : s.Tracks e = false) :
    s.Right e ↔ (s.step e).1.Kept := by
  refine ⟨Right.kept, fun h => ⟨fun _ => houts, ?_, ?_, h⟩⟩
  · rw [houts]
    exact Nat.zero_le _
  · rw [htracks]
    exact fun hfalse => absurd hfalse Bool.false_ne_true

theorem right_startTracking (h : s.Kept) (pOptions : Option Options) :
    s.Right (.startTracking pOptions) := by
  refine (right_iff_kept rfl rfl).mpr ?_
  cases pOptions with
  | none => exact h
  | some options =>
    rcases Bool.eq_false_or_eq_true s.qapi.pLocClientApi with hclient | hclient
    · have hstart : s.qapi.startTracking (some options) =
          (s.qapi.post (.startPositionSession (.tracking options)),
            .QAPI_LOCATION_ERROR_SUCCESS) := if_pos hclient
      simp only [step, hstart]
      exact ⟨h.answered, Or.inr (QapiState.target_post _)⟩
    · have hstart : s.qapi.startTracking (some options) =
          (s.qapi, .QAPI_LOCATION_ERROR_GENERAL_FAILURE) :=
        if_neg (by rw [hclient]; exact Bool.false_ne_true)
      simp only [step, hstart]
      exact h

theorem right_stopTracking (h : s.Kept) : s.Right .stopTracking := by
  refine (right_iff_kept rfl rfl).mpr ?_
  rcases Bool.eq_false_or_eq_true s.qapi.pLocClientApi with hclient | hclient
  · simp only [step, QapiState.stopTracking, hclient, if_true]
    exact ⟨h.answered, Or.inl rfl⟩
  · simp only [step, QapiState.stopTracking, hclient]
    exact h

theorem right_deinit : s.Right .deinit :=
  (right_iff_kept rfl rfl).mpr ⟨fun _ => rfl, Or.inl rfl⟩

theorem right_receive (h : s.Kept) (flags : UInt32) : s.Right (.receive flags) := by
  refine (right_iff_kept rfl rfl).mpr ⟨h.answered, ?_⟩
  show s.tracking = none ∨ (s.qapi.post (.location flags)).target = _
  rw [QapiState.target_post]
  exact h.running

theorem right_getSingleShot_iff (h : s.Kept) (powerLevel : PowerLevel) :
    s.Right (.getSingleShot powerLevel) ↔ s.Fits (.getSingleShot powerLevel) := by
  rw [right_iff_kept rfl rfl]
  rcases s.qapi.getSingleShot_cases powerLevel with ⟨-, hstart⟩ | ⟨hsame, hfails⟩
  · have htarget : (s.step (.getSingleShot powerLevel)).1.qapi.target = some .singleShot := by
      simp only [step, hstart]
      exact QapiState.target_post (s := s.qapi) (.startPositionSession .singleShot)
    constructor
    · intro hkept _
      rcases hkept.running with hnone | hsame
      · exact hnone
      · rw [htarget] at hsame
        change some _ = s.tracking.map _ at hsame
        cases htracking : s.tracking with
        | none => rfl
        | some options =>
          rw [htracking] at hsame
          cases hsame
    · intro hfits
      refine ⟨fun htimer => ?_, Or.inl (hfits (congrArg Prod.snd hstart))⟩
      simp only [step, hstart] at htimer
      cases htimer
  · have hstep : (s.step (.getSingleShot powerLevel)).1 = s := by
      simp only [step, hsame, if_neg hfails]
    rw [hstep]
    exact iff_of_true h fun hok => absurd hok hfails

theorem right_cancelSingleShot_iff (h : s.Kept) (hinv : s.Inv) :
    s.Right .cancelSingleShot ↔ s.Fits .cancelSingleShot := by
  rw [right_iff_kept rfl rfl]
  rcases Bool.eq_false_or_eq_true s.qapi.mTimer with htimer | htimer
  · rcases Bool.eq_false_or_eq_true s.qapi.pLocClientApi with hclient | hclient
    · have htarget : (s.step .cancelSingleShot).1.qapi.target = none := by
        simp only [step, QapiState.cancelSingleShot, htimer, if_true]
        exact QapiState.target_stopSession hclient
      constructor
      · intro hkept _
        rcases hkept.running with hnone | hsame
        · exact hnone
        · rw [htarget] at hsame
          exact Option.map_eq_none_iff.mp hsame.symm
      · exact fun hfits => ⟨fun _ => rfl, Or.inl (hfits htimer)⟩
    · have hover := (hinv.ended hclient).2
      exact iff_of_true ⟨fun _ => rfl, Or.inl hover⟩ fun _ => hover
  · have hstep : (s.step .cancelSingleShot).1 = { s with outstanding := 0 } := by
      simp only [step, QapiState.cancelSingleShot, htimer]
      rfl
    rw [hstep]
    exact iff_of_true ⟨fun _ => rfl, h.running⟩ fun htrue =>
      absurd (htimer.symm.trans htrue) Bool.false_ne_true

/-! ## The answer to a single shot -/

/-- What is called when the timer is found running, or expires: the session
is stopped, and the client is told if it has given the callback. -/
theorem right_ended_iff (hinv : s.Inv) (q : QapiState) (timeout : Bool)
    (htimer : s.qapi.mTimer = true) (hclient : s.qapi.pLocClientApi = true)
    (hstep : s.step e = s.told ({ q.stopSession with mTimer := false },
      if s.qapi.qLocationCallbacks.singleShotCb then [.singleShotCb timeout] else []))
    (hq : q.pLocClientApi = true) (htracks : s.Tracks e = true → s.tracking.isSome = true) :
    s.Right e ↔ s.Answerable := by
  have hpos := hinv.armed hclient htimer
  have htarget : (s.step e).1.qapi.target = none := by
    rw [hstep]
    exact QapiState.target_stopSession hq
  constructor
  · intro hright
    have hnone : s.tracking = none := by
      rcases hright.kept.running with hnone | hsame
      · rw [hstep] at hnone
        exact hnone
      · rw [htarget, hstep] at hsame
        exact Option.map_eq_none_iff.mp hsame.symm
    have hanswered := hright.kept.answered (by rw [hstep]; rfl)
    rw [hstep] at hanswered
    rcases Bool.eq_false_or_eq_true s.qapi.qLocationCallbacks.singleShotCb with hgiven | hgiven
    · rw [hgiven] at hanswered
      change s.outstanding - 1 = 0 at hanswered
      exact ⟨hclient, by omega, hgiven, hnone⟩
    · rw [hgiven] at hanswered
      change s.outstanding - 0 = 0 at hanswered
      omega
  · intro hans
    have hone : s.step e = ({ s with
        qapi := { q.stopSession with mTimer := false }, outstanding := 0 },
        [.singleShotCb timeout]) := by
      rw [hstep, if_pos hans.given]
      show (({ s with qapi := _, outstanding := s.outstanding - 1 } : Client), _) = _
      rw [hans.alone]
    refine ⟨fun hnull => ?_, ?_, fun htrue => ?_, ?_⟩
    · exact absurd (hnull.symm.trans hclient) Bool.false_ne_true
    · rw [hone, hans.alone]
      exact Nat.le_refl 1
    · have hsome := htracks htrue
      rw [hans.no_tracking] at hsome
      cases hsome
    · rw [hone]
      exact ⟨fun _ => rfl, Or.inl hans.no_tracking⟩

theorem right_expire_iff (h : s.Kept) (hinv : s.Inv) : s.Right .expire ↔ s.Fits .expire := by
  rcases Bool.eq_false_or_eq_true s.qapi.mTimer with htimer | htimer
  · have hfits : s.Fits .expire ↔ s.Answerable := forall_prop_of_true htimer
    rw [hfits]
    rcases Bool.eq_false_or_eq_true s.qapi.pLocClientApi with hclient | hclient
    · refine right_ended_iff hinv { s.qapi with mTimer := false } true htimer hclient ?_ hclient
        fun htrue => by cases htrue
      simp only [step, QapiState.expire, htimer, hclient, if_true, List.nil_append]
      rfl
    · -- the null pointer is called through
      refine iff_of_false (fun hright => ?_) fun hans =>
        absurd (hclient.symm.trans hans.client) Bool.false_ne_true
      have hsilent := hright.silent hclient
      simp only [step, told, QapiState.expire, htimer, hclient] at hsilent
      cases hsilent
  · have hstep : s.step .expire = (s, []) := by
      simp only [step, QapiState.expire, htimer]
      rfl
    refine iff_of_true ((right_iff_kept (by rw [hstep]) rfl).mpr (by rw [hstep]; exact h))
      fun htrue =>
      absurd (htimer.symm.trans htrue) Bool.false_ne_true

theorem step_take_location
    (htake : s.qapi.take = { s.qapi with queue := rest }.trackingCallback flags) :
    s.step .take = s.told ({ s.qapi with queue := rest }.trackingCallback flags) := by
  rw [← htake]
  rfl

theorem target_rest (hqueue : s.qapi.queue = .location flags :: rest) :
    ({ s.qapi with queue := rest } : QapiState).target = s.qapi.target := by
  unfold QapiState.target
  rw [hqueue]
  rfl

theorem right_take_location_iff (h : s.Kept) (hinv : s.Inv) {session : PositionSession}
    (hnext : s.qapi.next = some (flags, session)) (hqueue : s.qapi.queue = .location flags :: rest)
    (htake : s.qapi.take = { s.qapi with queue := rest }.trackingCallback flags) :
    s.Right .take ↔ (flags ≠ 0 → s.FitsLocation session) := by
  have hstep := step_take_location htake
  have htracks : s.Tracks .take = true ↔ flags ≠ 0 ∧ s.tracking.isSome = true ∧
      session.callback = .location_tracking_callback := by
    simp only [Tracks, hnext, Option.any_some, decide_eq_true_eq]
  have hpassed : ∀ outs, s.step .take = s.told ({ s.qapi with queue := rest }, outs) →
      outs.countP Out.answers = 0 → (s.step .take).1.Kept := by
    intro outs hpass hcount
    rw [hpass]
    refine ⟨fun htimer => ?_, ?_⟩
    · show s.outstanding - outs.countP Out.answers = 0
      rw [h.answered htimer, Nat.zero_sub]
    · show s.tracking = none ∨ ({ s.qapi with queue := rest } : QapiState).target = _
      rw [target_rest hqueue]
      exact h.running
  by_cases hflags : flags = 0
  · -- an invalid location is ignored
    have hsame : s.step .take = s.told ({ s.qapi with queue := rest }, []) := by
      rw [hstep, QapiState.trackingCallback, if_pos hflags]
    have htracks' : s.Tracks .take = false := by
      rw [← Bool.not_eq_true, htracks]
      exact fun hvalid => hvalid.1 hflags
    refine iff_of_true ((right_iff_kept (by rw [hsame]; rfl) htracks').mpr
      (hpassed [] hsame rfl)) fun hvalid => absurd hflags hvalid
  · rw [forall_prop_of_true hflags, FitsLocation]
    rcases Bool.eq_false_or_eq_true s.qapi.mTimer with htimer | htimer
    · rw [if_pos htimer]
      have hanswer : s.step .take = s.told
          ({ ({ s.qapi with queue := rest } : QapiState).stopSession with mTimer := false },
            if s.qapi.qLocationCallbacks.singleShotCb then [.singleShotCb false] else []) := by
        rw [hstep, QapiState.trackingCallback, if_neg hflags, if_pos htimer]
      rcases Bool.eq_false_or_eq_true s.qapi.pLocClientApi with hclient | hclient
      · rw [right_ended_iff hinv { s.qapi with queue := rest } false htimer hclient hanswer hclient
          fun htrue => (htracks.mp htrue).2.1]
        refine ⟨Or.inl, fun hor => hor.elim id fun hover => ?_⟩
        exact absurd (hclient.symm.trans hover.1) Bool.noConfusion
      · obtain ⟨hnone, hover⟩ := hinv.ended hclient
        constructor
        · intro hright
          have hsilent := hright.silent hclient
          rw [hanswer] at hsilent
          rcases Bool.eq_false_or_eq_true s.qapi.qLocationCallbacks.singleShotCb with hcb | hcb
          · rw [hcb] at hsilent
            cases hsilent
          · exact Or.inr ⟨hclient, hcb⟩
        · rintro (hans | ⟨-, hcb⟩)
          · exact absurd (hclient.symm.trans hans.client) Bool.false_ne_true
          · rw [hcb] at hanswer
            have htracks' : s.Tracks .take = false := by
              rw [← Bool.not_eq_true, htracks, hover]
              exact fun hvalid => absurd hvalid.2.1 Bool.false_ne_true
            refine (right_iff_kept (by rw [hanswer]; rfl) htracks').mpr ?_
            rw [hanswer]
            refine ⟨fun _ => ?_, Or.inl hover⟩
            show s.outstanding - 0 = 0
            rw [hnone]
    · rw [if_neg (by rw [htimer]; exact Bool.false_ne_true)]
      have hpass : s.step .take = s.told ({ s.qapi with queue := rest },
          if s.qapi.qLocationCallbacks.trackingCb then [.trackingCb] else []) := by
        rw [hstep, QapiState.trackingCallback, if_neg hflags,
          if_neg (by rw [htimer]; exact Bool.false_ne_true)]
      have hcount : (if s.qapi.qLocationCallbacks.trackingCb = true then [Out.trackingCb]
          else []).countP Out.answers = 0 := by
        split <;> rfl
      have houts : (s.step .take).2 =
          if s.qapi.qLocationCallbacks.trackingCb = true then [Out.trackingCb] else [] := by
        rw [hpass]
        rfl
      constructor
      · intro hright
        refine ⟨fun hclient => ?_, fun hsome hcallback => ?_⟩
        · have hsilent := hright.silent hclient
          rw [houts] at hsilent
          rw [← Bool.not_eq_true]
          intro hcb
          rw [if_pos hcb] at hsilent
          cases hsilent
        · have hmem := hright.tracked (htracks.mpr ⟨hflags, hsome, hcallback⟩)
          rw [houts] at hmem
          by_contra hcb
          rw [if_neg hcb] at hmem
          exact absurd hmem List.not_mem_nil
      · rintro ⟨hsilent, hgiven⟩
        refine ⟨fun hclient => ?_, ?_, fun htrue => ?_, hpassed _ hpass hcount⟩
        · rw [houts, hsilent hclient]
          rfl
        · rw [houts, hcount]
          exact Nat.zero_le _
        · obtain ⟨-, hsome, hcallback⟩ := htracks.mp htrue
          rw [houts, hgiven hsome hcallback]
          exact List.mem_singleton_self _

theorem right_take_iff (h : s.Kept) (hinv : s.Inv) : s.Right .take ↔ s.Fits .take := by
  rcases s.qapi.take_cases with ⟨flags, rest, session, hnext, hqueue, htake⟩ |
    ⟨hnext, queue, session, htake, htarget⟩
  · rw [right_take_location_iff h hinv hnext hqueue htake]
    constructor
    · intro hfits flags' session' hnext'
      cases hnext.symm.trans hnext'
      exact hfits
    · exact fun hfits => hfits flags session hnext
  · have hstep : s.step .take = ({ s with qapi := { s.qapi with queue, session } }, []) := by
      show s.told s.qapi.take = _
      rw [htake]
      rfl
    have htracks : s.Tracks .take = false := by
      simp only [Tracks, hnext, Option.any_none]
    have hfits : s.Fits .take := fun flags session hsome =>
      absurd (hnext.symm.trans hsome) (Option.some_ne_none _).symm
    refine iff_of_true ((right_iff_kept (by rw [hstep]) htracks).mpr ?_) hfits
    rw [hstep]
    refine ⟨h.answered, ?_⟩
    show s.tracking = none ∨ ({ s.qapi with queue, session } : QapiState).target = _
    rw [htarget]
    exact h.running

theorem right_step_iff (h : s.Kept) (hinv : s.Inv) (e : Event) : s.Right e ↔ s.Fits e := by
  cases e with
  | startTracking pOptions => exact iff_of_true (right_startTracking h pOptions) trivial
  | stopTracking => exact iff_of_true (right_stopTracking h) trivial
  | getSingleShot powerLevel => exact right_getSingleShot_iff h powerLevel
  | cancelSingleShot => exact right_cancelSingleShot_iff h hinv
  | deinit => exact iff_of_true right_deinit trivial
  | receive flags => exact iff_of_true (right_receive h flags) trivial
  | take => exact right_take_iff h hinv
  | expire => exact right_expire_iff h hinv

/-! ## Whole runs -/

section

variable (hinv : s.Inv)
include hinv

theorem inv_told {r : QapiState × List Out} (hclient : r.1.pLocClientApi = s.qapi.pLocClientApi)
    (harmed : r.1.mTimer = true → s.qapi.mTimer = true ∧ r.2.countP Out.answers = 0) :
    (s.told r).1.Inv where
  armed := by
    intro htrue htimer
    obtain ⟨hold, hnone⟩ := harmed htimer
    show 1 ≤ s.outstanding - r.2.countP Out.answers
    rw [hnone]
    exact hinv.armed (hclient.symm.trans htrue) hold
  ended := by
    intro hfalse
    obtain ⟨hnone, htracking⟩ := hinv.ended (hclient.symm.trans hfalse)
    refine ⟨?_, htracking⟩
    show s.outstanding - r.2.countP Out.answers = 0
    rw [hnone, Nat.zero_sub]

theorem inv_startTracking (pOptions : Option Options) :
    (s.step (.startTracking pOptions)).1.Inv := by
  cases pOptions with
  | none => exact ⟨hinv.armed, hinv.ended⟩
  | some options =>
    simp only [step, QapiState.startTracking]
    split
    · rename_i hclient
      exact ⟨hinv.armed, fun hfalse => absurd (hclient.symm.trans hfalse) Bool.noConfusion⟩
    · exact ⟨hinv.armed, hinv.ended⟩

theorem inv_stopTracking : (s.step .stopTracking).1.Inv := by
  simp only [step, QapiState.stopTracking]
  split
  · rename_i hclient
    exact ⟨hinv.armed, fun hfalse => absurd (hclient.symm.trans hfalse) Bool.noConfusion⟩
  · exact ⟨hinv.armed, hinv.ended⟩

theorem inv_getSingleShot (powerLevel : PowerLevel) :
    (s.step (.getSingleShot powerLevel)).1.Inv := by
  rcases s.qapi.getSingleShot_cases powerLevel with ⟨hclient, hstart⟩ | ⟨hsame, hfails⟩
  · simp only [step, hstart, if_true]
    refine ⟨fun _ _ => Nat.le_add_left 1 _, fun hfalse => ?_⟩
    exact absurd (hclient.symm.trans hfalse) Bool.noConfusion
  · simp only [step, hsame, if_neg hfails]
    exact hinv

theorem inv_cancelSingleShot : (s.step .cancelSingleShot).1.Inv := by
  simp only [step, QapiState.cancelSingleShot]
  split
  · refine ⟨fun _ htimer => (by cases htimer), fun hfalse => ⟨rfl, ?_⟩⟩
    change s.qapi.stopSession.pLocClientApi = false at hfalse
    rw [QapiState.stopSession_pLocClientApi] at hfalse
    exact (hinv.ended hfalse).2
  · rename_i htimer
    exact ⟨fun _ htrue => absurd htrue htimer, fun hfalse => ⟨rfl, (hinv.ended hfalse).2⟩⟩

omit hinv in
theorem inv_deinit : (s.step .deinit).1.Inv := by
  refine ⟨fun htrue => ?_, fun _ => ⟨rfl, rfl⟩⟩
  change s.qapi.deinit.1.pLocClientApi = true at htrue
  unfold QapiState.deinit at htrue
  split at htrue
  · cases htrue
  · rename_i hfalse
    exact absurd htrue hfalse

theorem inv_trackingCallback (flags : UInt32) (rest : List ApiMsg) :
    (s.told ({ s.qapi with queue := rest }.trackingCallback flags)).1.Inv := by
  unfold QapiState.trackingCallback
  split
  · exact inv_told hinv rfl fun htimer => ⟨htimer, rfl⟩
  split
  · exact inv_told hinv QapiState.stopSession_pLocClientApi fun htimer => (by cases htimer)
  · refine inv_told hinv rfl fun htimer => ⟨htimer, ?_⟩
    show (if _ then [Out.trackingCb] else []).countP Out.answers = 0
    split <;> rfl

theorem inv_take : (s.step .take).1.Inv := by
  rcases s.qapi.take_cases with ⟨flags, rest, session, -, -, htake⟩ | ⟨-, queue, session, htake, -⟩
  · rw [step_take_location htake]
    exact inv_trackingCallback hinv flags rest
  · show (s.told s.qapi.take).1.Inv
    rw [htake]
    exact inv_told hinv rfl fun htimer => ⟨htimer, rfl⟩

theorem inv_expire : (s.step .expire).1.Inv := by
  show (s.told s.qapi.expire).1.Inv
  unfold QapiState.expire
  split
  · refine inv_told hinv QapiState.stopSession_pLocClientApi fun htimer => ?_
    change QapiState.mTimer (QapiState.stopSession _) = true at htimer
    rw [QapiState.stopSession_mTimer] at htimer
    cases htimer
  · exact inv_told hinv rfl fun htimer => ⟨htimer, rfl⟩

theorem inv_step (e : Event) : (s.step e).1.Inv := by
  cases e with
  | startTracking pOptions => exact inv_startTracking hinv pOptions
  | stopTracking => exact inv_stopTracking hinv
  | getSingleShot powerLevel => exact inv_getSingleShot hinv powerLevel
  | cancelSingleShot => exact inv_cancelSingleShot hinv
  | deinit => exact inv_deinit
  | receive flags => exact ⟨hinv.armed, hinv.ended⟩
  | take => exact inv_take hinv
  | expire => exact inv_expire hinv

end

/-- A run meets the contract exactly if each step fits. -/
theorem qapi_iff (callbacks : Callbacks) (es : List Event) :
    StepsMeet step Right (init callbacks) es ↔ StepsMeet step Fits (init callbacks) es := by
  have hkept : (init callbacks).Kept := ⟨fun _ => rfl, Or.inl rfl⟩
  have hinv : (init callbacks).Inv :=
    ⟨fun _ htimer => (by cases htimer), fun hfalse => (by cases hfalse)⟩
  refine stepsMeet_congr (fun s => s.Kept ∧ s.Inv) ?_ ?_ ⟨hkept, hinv⟩ es
  · intro s e hs hfits
    exact ⟨((right_step_iff hs.1 hs.2 e).mpr hfits).kept, inv_step hs.2 e⟩
  · exact fun s e hs => right_step_iff hs.1 hs.2 e

/-- A tracking session that was asked for, and the single shot that ends it:
its first location goes to singleShotCb, and the session is stopped. -/
def overlap : List Event := [ .startTracking (some ⟨1000, 0⟩), .take,
  .getSingleShot .QAPI_LOCATION_POWER_HIGH, .take,
  .receive 1, .take, .take]

theorem not_right_overlap : ¬ StepsMeet step Right (init ⟨true, true⟩) overlap ∧
      (after step (init ⟨true, true⟩) overlap).tracking = some ⟨1000, 0⟩ ∧
      (after step (init ⟨true, true⟩) overlap).qapi.session = none := by
  refine ⟨fun h => ?_, by decide, by decide⟩
  have hright := stepsMeet_iff.mp h (overlap.take 5) .take [.take] rfl
  have hkept := hright.kept.running
  exact absurd hkept (by decide)

end Client

end LocStack.Qapi
