/-
# `LocStack.Tracking.Ntrip` — the NTRIP source beside the tracking sessions

An enabled NTRIP source is started at the Xtra observer while there is a
time based session, and stopped with the last of them.  Three bits of the
adapter say how far it is,

    enableNtripCommand      an enable is in force
    noNmeaPending           no GGA sentence has to be awaited
    ntripSessionStarted     the source was started

and the message thread changes them at the NTRIP commands, at GGA sentences
and wherever a time based fix is started, answered, suspended or stopped.
The tracking machine is the adapter's; `dgnssCalls` says where its steps
come past the source.

An enable with other parameters clears `ntripSessionStarted` without a word
to the observer.  `source_iff`: the source runs only while it is enabled,
with the parameters of the last enable and beside a session, throughout a
run, if and only if no such enable awaits a sentence while the source runs,
and no engine's answer erases the last session.

How the GGA sentence is found in what is reported is in `Gga`.
-/
import LocStack.Tracking.Orderly

namespace LocStack.Tracking

open Base List Option

open Adapter (EngineLockState)

/-! ## The source -/

/-- `size` is for the command to test, and is not kept. -/
structure GnssNtripConnectionParams where
  useSSL : Bool
  hostNameOrIp : String
  port : UInt32
  (mountPoint username password : String)
  requiresNmeaLocation : Bool
  deriving DecidableEq

structure StartDgnssNtripParams where
  ntripParams : GnssNtripConnectionParams
  nmea : String
  deriving DecidableEq

/-- What the Xtra observer hears. -/
inductive XtraCall where
  | startDgnssSource (params : StartDgnssNtripParams)
  | stopDgnssSource
  | updateNmeaToDgnssServer (nmea : String)

/-- The source that runs, where `source` did before the calls. -/
def sourceAfter (source : Option StartDgnssNtripParams) :
    List XtraCall → Option StartDgnssNtripParams
  | [] => source
  | .startDgnssSource params :: calls => sourceAfter (some params) calls
  | .stopDgnssSource :: calls => sourceAfter none calls
  | .updateNmeaToDgnssServer _ :: calls => sourceAfter source calls

theorem sourceAfter_append (source : Option StartDgnssNtripParams) (calls more : List XtraCall) :
    sourceAfter source (calls ++ more) = sourceAfter (sourceAfter source calls) more := by
  induction calls generalizing source with
  | nil => rfl
  | cons call calls ih => cases call <;> exact ih _

def DGNSS_RANGE_UPDATE_TIME_10MIN_IN_MILLI : UInt64 := 600000

/-- `mDgnssState`, bit by bit. -/
structure DgnssState where
  (enableNtripCommand noNmeaPending ntripSessionStarted : Bool)
  deriving DecidableEq

structure Dgnss where
  mDgnssState : DgnssState
  mStartDgnssNtripParams : StartDgnssNtripParams
  mSendNmeaConsent : Bool
  mDgnssLastNmeaBootTimeMilli : UInt64
  /-- `getBootTimeMilliSec()` -/
  bootTime : UInt64

namespace Dgnss

variable (d : Dgnss)

def new : Dgnss where
  mDgnssState := ⟨false, false, false⟩
  mStartDgnssNtripParams := ⟨⟨false, "", 0, "", "", "", false⟩, ""⟩
  mSendNmeaConsent := false
  mDgnssLastNmeaBootTimeMilli := 0
  bootTime := 0

def isDgnssNmeaRequired : Bool :=
  d.mSendNmeaConsent && d.mStartDgnssNtripParams.ntripParams.requiresNmeaLocation

def checkUpdateDgnssNtrip (isInSession isLocationValid : Bool) : Dgnss × List XtraCall :=
  if isInSession = true then
    if d.mDgnssState = ⟨true, true, false⟩ then
      ({ d with
          mDgnssState := ⟨true, true, true⟩
          mDgnssLastNmeaBootTimeMilli :=
            if d.isDgnssNmeaRequired = true then d.bootTime else d.mDgnssLastNmeaBootTimeMilli },
        [.startDgnssSource d.mStartDgnssNtripParams])
    else if d.mDgnssState.ntripSessionStarted = true ∧ isLocationValid = true ∧
        d.isDgnssNmeaRequired = true ∧
        DGNSS_RANGE_UPDATE_TIME_10MIN_IN_MILLI < d.bootTime - d.mDgnssLastNmeaBootTimeMilli then
      ({ d with mDgnssLastNmeaBootTimeMilli := d.bootTime },
        [.updateNmeaToDgnssServer d.mStartDgnssNtripParams.nmea])
    else (d, [])
  else (d, [])

def stopDgnssNtrip : Dgnss × List XtraCall :=
  ({ d with
      mStartDgnssNtripParams := { d.mStartDgnssNtripParams with nmea := "" }
      mDgnssState := { d.mDgnssState with ntripSessionStarted := false } },
    if d.mDgnssState.ntripSessionStarted = true then [.stopDgnssSource] else [])

def handleEnablePPENtrip (isInSession : Bool) (params : GnssNtripConnectionParams) :
    Dgnss × List XtraCall :=
  if d.mStartDgnssNtripParams.ntripParams = params ∧ d.mDgnssState.enableNtripCommand = true then
    (d, [])
  else
    let d : Dgnss := { d with mStartDgnssNtripParams := ⟨params, ""⟩ }
    if d.mSendNmeaConsent = true ∧ params.requiresNmeaLocation = true then
      ({ d with mDgnssState := ⟨true, false, false⟩, mDgnssLastNmeaBootTimeMilli := 0 }, [])
    else
      { d with mDgnssState := ⟨true, true, false⟩ : Dgnss }.checkUpdateDgnssNtrip isInSession false

def handleDisablePPENtrip : Dgnss × List XtraCall :=
  { d with mDgnssState :=
      { d.mDgnssState with enableNtripCommand := false, noNmeaPending := true }
    : Dgnss }.stopDgnssNtrip

/-- `reportGGAToNtrip` and the end of `reportPosition`, once they have the
sentence. -/
def reportGGA (isInSession : Bool) (nmea : String) (isLocationValid : Bool) :
    Dgnss × List XtraCall :=
  if d.isDgnssNmeaRequired = true then
    { d with
      mDgnssState := { d.mDgnssState with noNmeaPending := true }
      mStartDgnssNtripParams := { d.mStartDgnssNtripParams with nmea := nmea }
      : Dgnss }.checkUpdateDgnssNtrip isInSession isLocationValid
  else (d, [])

/-- What `stopTracking` and `suspendSessions` do of the source. -/
def stopTracking : Dgnss × List XtraCall :=
  { d with mDgnssState :=
      { d.mDgnssState with
        noNmeaPending := !d.isDgnssNmeaRequired && d.mDgnssState.noNmeaPending }
    : Dgnss }.stopDgnssNtrip

end Dgnss

/-! ## Where tracking comes past the source -/

/-- The key that an answer erases. -/
def ResponseFn.erases (engineLockState : EngineLockState) (err : LocationError) :
    ResponseFn → Option LocationSessionKey
  | .startTimeBased key | .startDistanceBased key =>
    if engineLockState = .enabled ∧ err ≠ .success then some key else none
  | .stopDistanceBased key =>
    if engineLockState = .disabled ∨ err = .success then some key else none
  | .stopClientSession key => if err = .success then some key else none
  | _ => none

/-- The key that a message erases without stopping its fix: that of a
distance based session, which may be time based as well. -/
def GnssAdapter.msgErases (a : GnssAdapter) : TrackingMsg → Option LocationSessionKey
  | .updateTrackingOptions key options =>
    if a.isDistanceBasedTrackingSession key = true ∧ options.size ≠ 0 ∧
        options.minDistance = 0 then some key
    else none
  | _ => none

/-- The key that an event erases while the fix goes on. -/
def GnssAdapter.erases (a : GnssAdapter) : TrackingEvent → Option LocationSessionKey
  | .proc msg => a.msgErases msg
  | .respond i err =>
    match a.mLocApi.unanswered[i]? with
    | some r => r.fn.erases a.mLocApi.engineLockState err
    | none => none
  | .engineLockState _ => none

inductive DgnssCall where
  | stopTracking
  | checkUpdateDgnssNtrip (isInSession : Bool)

namespace GnssAdapter

def isInSession (a : GnssAdapter) : Bool := !a.mTimeBasedTrackingSessions.isEmpty

/-- The key is that of the only session. -/
def IsLast (a : GnssAdapter) (key : LocationSessionKey) : Prop :=
  a.mTimeBasedTrackingSessions.size = 1 ∧ key ∈ a.mTimeBasedTrackingSessions

/-- Of `stopTimeBasedTrackingMultiplex`. -/
def multiplexCalls (a : GnssAdapter) : List DgnssCall :=
  if a.mTimeBasedTrackingSessions.size = 1 then [.stopTracking] else []

/-- Of the first loop of `stopClientSessions`. -/
def stopClientCalls : GnssAdapter → List LocationSessionKey → List DgnssCall
  | _, [] => []
  | a, key :: keys => a.multiplexCalls ++ stopClientCalls (a.stopTimeBasedSession key) keys

def msgCalls (a : GnssAdapter) : TrackingMsg → List DgnssCall
  | .addClient .. | .startTracking .. => []
  | .updateTrackingOptions key options =>
    if !a.mIsEngineCapabilitiesKnown && 0 < options.minDistance then []
    else if a.isTimeBasedTrackingSession key = true ∧ options.size ≠ 0 ∧ 0 < options.minDistance
    then a.multiplexCalls
    else []
  | .stopTracking key =>
    if a.isTimeBasedTrackingSession key = true then a.multiplexCalls else []
  | .removeClient client =>
    a.stopClientCalls (a.mTimeBasedTrackingSessions.keys.filter fun key => key.client = client)
  | .engineUp =>
    if a.mLocApi.engineLockState = .enabled ∧ a.isInSession = true then
      [.checkUpdateDgnssNtrip true]
    else []

def responseCalls (a : GnssAdapter) (err : LocationError) : ResponseFn → List DgnssCall
  | .startTimeBased _ =>
    if a.mLocApi.engineLockState = .enabled ∧ err ≠ .success then []
    else [.checkUpdateDgnssNtrip a.isInSession]
  | _ => []

def dgnssCalls (a : GnssAdapter) : TrackingEvent → List DgnssCall
  | .proc msg => (a.begin msg).msgCalls msg
  | .respond i err =>
    match a.mLocApi.unanswered[i]? with
    | some r => (a.take i r).responseCalls err r.fn
    | none => []
  | .engineLockState _ => []

def suspendSessions (a : GnssAdapter) : GnssAdapter :=
  if a.mTimeBasedTrackingSessions.isEmpty then a
  else
    { a with
      mLocApi := { a.mLocApi with fixStarted := false }
      mSPEAlreadyRunningAtHighestInterval := false }

end GnssAdapter

namespace Dgnss

def call (d : Dgnss) : DgnssCall → Dgnss × List XtraCall
  | .stopTracking => d.stopTracking
  | .checkUpdateDgnssNtrip isInSession => d.checkUpdateDgnssNtrip isInSession false

def calls : Dgnss → List DgnssCall → Dgnss × List XtraCall
  | d, [] => (d, [])
  | d, c :: cs => ((calls (d.call c).1 cs).1, (d.call c).2 ++ (calls (d.call c).1 cs).2)

end Dgnss

/-! ## The adapter with its source -/

inductive NtripEvent where
  | updateNTRIPGGAConsent (consentAccepted : Bool)
  | enablePPENtripStream (size : UInt32) (params : GnssNtripConnectionParams)
  | disablePPENtripStream
  | reportGGA (nmea : String) (isLocationValid : Bool)
  | tracking (e : TrackingEvent)
  | suspendSessions | restartSessions
  | bootTime (milliSec : UInt64)

/-- The parameters that `enablePPENtripStreamCommand` passes on. -/
def GnssNtripConnectionParams.Valid (size : UInt32) (params : GnssNtripConnectionParams) : Prop :=
  size ≠ 0 ∧ params.hostNameOrIp ≠ "" ∧ params.mountPoint ≠ "" ∧ params.username ≠ "" ∧
    params.password ≠ ""
  deriving Decidable

structure NtripAdapter where
  adapter : GnssAdapter
  dgnss : Dgnss

namespace NtripAdapter

def new (supported nHzNeeded capabilitiesKnown : Bool) : NtripAdapter :=
  ⟨.new supported nHzNeeded capabilitiesKnown, .new⟩

def step (n : NtripAdapter) : NtripEvent → NtripAdapter × List XtraCall
  | .updateNTRIPGGAConsent consentAccepted =>
    (⟨n.adapter, { n.dgnss with mSendNmeaConsent := consentAccepted }⟩, [])
  | .enablePPENtripStream size params =>
    if params.Valid size then
      let r := n.dgnss.handleEnablePPENtrip n.adapter.isInSession params
      (⟨n.adapter, r.1⟩, r.2)
    else (n, [])
  | .disablePPENtripStream =>
    (⟨n.adapter, n.dgnss.handleDisablePPENtrip.1⟩, n.dgnss.handleDisablePPENtrip.2)
  | .reportGGA nmea isLocationValid =>
    let r := n.dgnss.reportGGA n.adapter.isInSession nmea isLocationValid
    (⟨n.adapter, r.1⟩, r.2)
  | .tracking e =>
    let r := n.dgnss.calls (n.adapter.dgnssCalls e)
    (⟨n.adapter.next e, r.1⟩, r.2)
  | .suspendSessions =>
    let r := n.dgnss.calls (if n.adapter.isInSession = true then [.stopTracking] else [])
    (⟨n.adapter.suspendSessions, r.1⟩, r.2)
  | .restartSessions =>
    let r := n.dgnss.calls
      (if n.adapter.isInSession = true then [.checkUpdateDgnssNtrip true] else [])
    (⟨n.adapter.checkAndRestartSPESession, r.1⟩, r.2)
  | .bootTime milliSec => (⟨n.adapter, { n.dgnss with bootTime := milliSec }⟩, [])

end NtripAdapter

/-! ## What has been commanded -/

/-- The adapter, the source that runs and the enable in force. -/
structure NtripRun where
  ntrip : NtripAdapter
  source : Option StartDgnssNtripParams
  inForce : Option GnssNtripConnectionParams

namespace NtripRun

variable (n : NtripRun)

def new (supported nHzNeeded capabilitiesKnown : Bool) : NtripRun :=
  ⟨.new supported nHzNeeded capabilitiesKnown, none, none⟩

/-- The enable in force after a command. -/
def commanded : NtripEvent → Option GnssNtripConnectionParams
  | .enablePPENtripStream size params => if params.Valid size then some params else n.inForce
  | .disablePPENtripStream => none
  | _ => n.inForce

def step (e : NtripEvent) : NtripRun × List XtraCall :=
  (⟨(n.ntrip.step e).1, sourceAfter n.source (n.ntrip.step e).2, n.commanded e⟩, (n.ntrip.step e).2)

/-- A source that runs is the one last enabled, and there is a session. -/
def Rightful : Prop :=
  ∀ source ∈ n.source, n.inForce = some source.ntripParams ∧ n.ntrip.adapter.isInSession = true

/-- The last session is erased while the fix goes on. -/
def ErasesLast : NtripEvent → Prop
  | .tracking e => ∃ key ∈ n.ntrip.adapter.erases e, n.ntrip.adapter.IsLast key
  | _ => False

/-- An enable that has a sentence awaited for other parameters than those in
force. -/
def Awaits : NtripEvent → Prop
  | .enablePPENtripStream size params =>
    params.Valid size ∧ n.inForce ≠ some params ∧ n.ntrip.dgnss.mSendNmeaConsent = true ∧
      params.requiresNmeaLocation = true
  | _ => False

/-- While the source runs it is told what it has to be. -/
def Fits (e : NtripEvent) : Prop := n.source ≠ none → ¬ n.ErasesLast e ∧ ¬ n.Awaits e

end NtripRun

/-! ## When a session is left -/

namespace GnssAdapter

variable {a b : GnssAdapter} {key : LocationSessionKey}

theorem isInSession_congr (h : b.mTimeBasedTrackingSessions = a.mTimeBasedTrackingSessions) :
    b.isInSession = a.isInSession := by
  unfold isInSession
  rw [h]

theorem left_iff_of_none {erased : Option LocationSessionKey} (hb : b.isInSession = true)
    (hnone : erased = none) : b.isInSession = false ↔ ∃ key ∈ erased, a.IsLast key := by
  rw [hnone, hb]
  simp

variable {options : TrackingOptions} {keys : List LocationSessionKey} {c : DgnssCall}
  {err : LocationError} {fn : ResponseFn} {e : TrackingEvent}

section

variable (h : a.isInSession = true)
include h

theorem isInSession_save : (a.saveTrackingSession key options).isInSession = true := by
  unfold isInSession at h ⊢
  rw [saveTrackingSession_timeBased]
  split
  · exact h
  · simp

theorem isInSession_erase : (a.eraseTrackingSession key).isInSession = false ↔ a.IsLast key := by
  unfold isInSession at h ⊢
  unfold IsLast
  have hempty : a.mTimeBasedTrackingSessions.isEmpty = false := by simpa using h
  rw [eraseTrackingSession_timeBased]
  cases hkey : a.isTimeBasedTrackingSession key with
  | true =>
    have hmem := isTimeBasedTrackingSession_iff.mp hkey
    simp [hempty, Std.TreeMap.isEmpty_erase, hmem]
  | false =>
    have hmem : key ∉ a.mTimeBasedTrackingSessions := fun hmem =>
      absurd (isTimeBasedTrackingSession_iff.mpr hmem) (by simp [hkey])
    simp [hempty, hmem]

theorem isInSession_stopTimeBasedSession (hcalls : DgnssCall.stopTracking ∉ a.multiplexCalls) :
    (a.stopTimeBasedSession key).isInSession = true := by
  have hsame : SameButFix a (a.stopTimeBasedTrackingMultiplex key).1 :=
    stopTimeBasedTrackingMultiplex_same
  have hin : (a.stopTimeBasedTrackingMultiplex key).1.isInSession = true :=
    (isInSession_congr hsame.timeBased).trans h
  refine eq_true_of_ne_false fun hfalse => hcalls ?_
  have hsize := ((isInSession_erase hin).mp hfalse).1
  rw [hsame.timeBased] at hsize
  rw [multiplexCalls, if_pos hsize]
  exact mem_singleton_self _

theorem isInSession_stopTimeBasedSessions
    (hcalls : DgnssCall.stopTracking ∉ a.stopClientCalls keys) :
    (keys.foldl stopTimeBasedSession a).isInSession = true := by
  induction keys generalizing a with
  | nil => exact h
  | cons key keys ih =>
    simp only [stopClientCalls, mem_append, not_or] at hcalls
    exact ih (isInSession_stopTimeBasedSession h hcalls.1) hcalls.2

end

theorem stopDistanceBasedSessions_timeBased (keys : List LocationSessionKey)
    (fn : LocationSessionKey → ResponseFn) :
    (keys.foldl (fun a key => a.stopDistanceBasedTracking key (fn key)) a).mTimeBasedTrackingSessions
      = a.mTimeBasedTrackingSessions := by
  induction keys generalizing a with
  | nil => rfl
  | cons key keys ih => exact ih

theorem checkAndRestartSPESession_timeBased :
    a.checkAndRestartSPESession.mTimeBasedTrackingSessions = a.mTimeBasedTrackingSessions := by
  have hloop : ∀ (sessions : List (LocationSessionKey × LocationOptions)) (b : GnssAdapter),
      (sessions.foldl (fun a session => a.startDistanceBasedTracking session.1 session.2 .ignore)
        b).mTimeBasedTrackingSessions = b.mTimeBasedTrackingSessions := by
    intro sessions
    induction sessions with
    | nil => exact fun _ => rfl
    | cons session sessions ih => exact fun b => ih _
  exact (hloop _ _).trans checkAndRestartTimeBasedSession_same.timeBased

theorem handleEngineUpEvent_timeBased :
    a.handleEngineUpEvent.mTimeBasedTrackingSessions = a.mTimeBasedTrackingSessions := by
  simp only [handleEngineUpEvent]
  split
  · exact checkAndRestartSPESession_timeBased
  · rfl

section

variable (h : a.isInSession = true)
include h

theorem isInSession_startTimeBasedSession :
    (a.startTimeBasedSession key options).isInSession = true := by
  have hsame : SameButFix a (a.startTimeBasedTrackingMultiplex key options).1 :=
    startTimeBasedTrackingMultiplex_same
  have hin := (isInSession_congr hsame.timeBased).trans h
  exact (isInSession_congr reportIf_timeBased).trans (isInSession_save hin)

/-- A session that becomes distance based is the last only where the fix is
stopped; where that is not supported it stays. -/
theorem isInSession_switchToDistanceBased (hcalls : DgnssCall.stopTracking ∉ a.multiplexCalls) :
    (a.switchToDistanceBased key options).isInSession = true := by
  refine (isInSession_congr (a := GnssAdapter.saveTrackingSession _ key options) rfl).trans ?_
  refine isInSession_save ((isInSession_congr reportIf_timeBased).trans ?_)
  exact isInSession_stopTimeBasedSession h hcalls

theorem isInSession_updateTimeBasedSession :
    (a.updateTimeBasedSession key options).isInSession = true := by
  have hsame : SameButFix a (a.updateTrackingMultiplex key options).1 :=
    updateTrackingMultiplex_same
  have hin := (isInSession_congr hsame.timeBased).trans h
  exact (isInSession_congr reportIf_timeBased).trans (isInSession_save hin)

theorem isInSession_update
    (hcalls : DgnssCall.stopTracking ∉ a.msgCalls (.updateTrackingOptions key options)) :
    (a.updateTrackingOptionsCommand key options).isInSession = false ↔
      ∃ k ∈ a.msgErases (.updateTrackingOptions key options), a.IsLast k := by
  have hstays : ∀ {b : GnssAdapter}, b.isInSession = true →
      ¬ (a.isDistanceBasedTrackingSession key = true ∧ options.size ≠ 0 ∧
        options.minDistance = 0) → (b.isInSession = false ↔
        ∃ k ∈ a.msgErases (.updateTrackingOptions key options), a.IsLast k) :=
    fun hb hnone => left_iff_of_none hb (if_neg hnone)
  have hreport : ∀ err, (a.reportResponse key err).isInSession = true := fun err =>
    (isInSession_congr reportResponse_timeBased).trans h
  simp only [updateTrackingOptionsCommand]
  split
  · -- parked, and so distance based
    rename_i hparked
    simp only [Bool.and_eq_true, decide_eq_true_eq] at hparked
    exact hstays h fun hnone => hparked.2.ne' hnone.2.2
  rename_i hnotParked
  split
  · rename_i hunknown
    simp only [Bool.and_eq_true, Bool.not_eq_true'] at hunknown
    exact hstays (hreport _) fun hnone => absurd (hunknown.2.symm.trans hnone.1) (by decide)
  split
  · rename_i hsize
    exact hstays (hreport _) fun hnone => hnone.2.1 hsize
  rename_i hsize
  split
  · rename_i htoDistance
    simp only [Bool.and_eq_true, decide_eq_true_eq, TrackingOptions.clampInterval_minDistance,
      TrackingOptions.fallBackToM2_minDistance] at htoDistance
    rw [msgCalls, if_neg hnotParked, if_pos ⟨htoDistance.1, hsize, htoDistance.2⟩] at hcalls
    refine hstays (isInSession_switchToDistanceBased h hcalls) fun hnone => ?_
    exact htoDistance.2.ne' hnone.2.2
  split
  · rename_i htoTime
    simp only [Bool.and_eq_true, beq_iff_eq, TrackingOptions.clampInterval_minDistance,
      TrackingOptions.fallBackToM2_minDistance] at htoTime
    rw [msgErases, if_pos ⟨htoTime.1, hsize, htoTime.2⟩]
    exact (isInSession_erase h).trans (by simp)
  rename_i htoTime
  simp only [Bool.and_eq_true, beq_iff_eq, TrackingOptions.clampInterval_minDistance,
    TrackingOptions.fallBackToM2_minDistance] at htoTime
  have hnone : ¬ (a.isDistanceBasedTrackingSession key = true ∧ options.size ≠ 0 ∧
      options.minDistance = 0) := fun hnone => htoTime ⟨hnone.1, hnone.2.2⟩
  split
  · exact hstays (isInSession_updateTimeBasedSession h) hnone
  · exact hstays h hnone

theorem isInSession_procMsg (msg : TrackingMsg) (hcalls : DgnssCall.stopTracking ∉ a.msgCalls msg) :
    (a.procMsg msg).isInSession = false ↔ ∃ key ∈ a.msgErases msg, a.IsLast key := by
  cases msg with
  | addClient client callbacks => exact left_iff_of_none h rfl
  | startTracking key options =>
    refine left_iff_of_none ?_ rfl
    simp only [procMsg, startTrackingCommand]
    split_ifs
    · exact h
    · exact h
    · exact h
    · exact isInSession_save h
    · exact isInSession_startTimeBasedSession h
  | updateTrackingOptions key options => exact isInSession_update h hcalls
  | stopTracking key =>
    refine left_iff_of_none ?_ rfl
    simp only [procMsg, stopTrackingCommand]
    split
    · rename_i hkey
      rw [msgCalls, if_pos hkey] at hcalls
      exact (isInSession_congr reportIf_timeBased).trans (isInSession_stopTimeBasedSession h hcalls)
    · split
      · exact h
      · exact (isInSession_congr reportResponse_timeBased).trans h
  | removeClient client =>
    have hstop := isInSession_stopTimeBasedSessions h hcalls
    exact left_iff_of_none
      ((isInSession_congr (stopDistanceBasedSessions_timeBased _ _)).trans hstop) rfl
  | engineUp =>
    exact left_iff_of_none ((isInSession_congr handleEngineUpEvent_timeBased).trans h) rfl

theorem isInSession_procResponse (err : LocationError) (fn : ResponseFn) :
    (a.procResponse err fn).isInSession = false ↔
      ∃ key ∈ fn.erases a.mLocApi.engineLockState err, a.IsLast key := by
  have herases : ∀ {key : LocationSessionKey}, fn.erases a.mLocApi.engineLockState err = some key →
      ((a.eraseTrackingSession key).isInSession = false ↔
        ∃ key ∈ fn.erases a.mLocApi.engineLockState err, a.IsLast key) := by
    intro key hkey
    rw [hkey, isInSession_erase h]
    simp
  cases fn with
  | ignore => exact left_iff_of_none h rfl
  | startTimeBased key | startDistanceBased key =>
    simp only [procResponse]
    rw [isInSession_congr reportResponse_timeBased]
    split
    · rename_i hfails
      exact herases (if_pos hfails)
    · rename_i hfails
      exact left_iff_of_none h (if_neg hfails)
  | updateTracking key oldOptions =>
    simp only [procResponse]
    rw [isInSession_congr reportResponse_timeBased]
    split
    · exact left_iff_of_none (isInSession_save h) rfl
    · exact left_iff_of_none h rfl
  | switchToTimeBased key options =>
    exact left_iff_of_none (isInSession_startTimeBasedSession h) rfl
  | stoppedToRestart key options =>
    simp only [procResponse]
    split
    · exact left_iff_of_none h rfl
    · exact left_iff_of_none h rfl
  | restarted key options =>
    simp only [procResponse]
    rw [isInSession_congr reportResponse_timeBased]
    split
    · exact left_iff_of_none (isInSession_save h) rfl
    · exact left_iff_of_none h rfl
  | stopFix key => exact left_iff_of_none ((isInSession_congr reportResponse_timeBased).trans h) rfl
  | stopDistanceBased key =>
    simp only [procResponse]
    rw [isInSession_congr reportResponse_timeBased]
    split
    · rename_i hdone
      exact herases (if_pos hdone)
    · rename_i hdone
      exact left_iff_of_none h (if_neg hdone)
  | stopClientSession key =>
    simp only [procResponse]
    split
    · rename_i hdone
      exact herases (if_pos hdone)
    · rename_i hdone
      exact left_iff_of_none h (if_neg hdone)

theorem isInSession_next (e : TrackingEvent) (hcalls : DgnssCall.stopTracking ∉ a.dgnssCalls e) :
    (a.next e).isInSession = false ↔ ∃ key ∈ a.erases e, a.IsLast key := by
  cases e with
  | proc msg => exact isInSession_procMsg (a := a.begin msg) h msg hcalls
  | respond i err =>
    cases hr : a.mLocApi.unanswered[i]? with
    | none =>
      simp only [next, erases, hr]
      exact left_iff_of_none h rfl
    | some r =>
      simp only [next, erases, hr]
      exact isInSession_procResponse (a := a.take i r) h err r.fn
  | engineLockState state => exact left_iff_of_none h rfl

end

theorem eq_of_mem_multiplexCalls (h : c ∈ a.multiplexCalls) : c = .stopTracking := by
  unfold multiplexCalls at h
  split at h
  · exact mem_singleton.mp h
  · exact absurd h not_mem_nil

theorem eq_of_mem_stopClientCalls (h : c ∈ a.stopClientCalls keys) : c = .stopTracking := by
  induction keys generalizing a with
  | nil => exact absurd h not_mem_nil
  | cons key keys ih =>
    rcases mem_append.mp h with h | h
    · exact eq_of_mem_multiplexCalls h
    · exact ih h

theorem isInSession_of_msgCheck {msg : TrackingMsg}
    (h : DgnssCall.checkUpdateDgnssNtrip true ∈ a.msgCalls msg) :
    (a.procMsg msg).isInSession = true := by
  cases msg with
  | addClient client callbacks => exact absurd h not_mem_nil
  | startTracking key options => exact absurd h not_mem_nil
  | updateTrackingOptions key options =>
    simp only [msgCalls] at h
    split_ifs at h
    · exact absurd h not_mem_nil
    · exact nomatch eq_of_mem_multiplexCalls h
    · exact absurd h not_mem_nil
  | stopTracking key =>
    simp only [msgCalls] at h
    split_ifs at h
    · exact nomatch eq_of_mem_multiplexCalls h
    · exact absurd h not_mem_nil
  | removeClient client => exact nomatch eq_of_mem_stopClientCalls h
  | engineUp =>
    simp only [msgCalls] at h
    split_ifs at h with hup
    · exact (isInSession_congr handleEngineUpEvent_timeBased).trans hup.2
    · exact absurd h not_mem_nil

theorem isInSession_of_responseCheck
    (h : DgnssCall.checkUpdateDgnssNtrip true ∈ a.responseCalls err fn) :
    (a.procResponse err fn).isInSession = true := by
  cases fn with
  | startTimeBased key =>
    simp only [responseCalls] at h
    split_ifs at h with hfails
    · exact absurd h not_mem_nil
    · have hin := DgnssCall.checkUpdateDgnssNtrip.inj (mem_singleton.mp h)
      simp only [procResponse, if_neg hfails]
      exact (isInSession_congr reportResponse_timeBased).trans hin.symm
  | _ => exact absurd h not_mem_nil

theorem isInSession_of_check (h : DgnssCall.checkUpdateDgnssNtrip true ∈ a.dgnssCalls e) :
    (a.next e).isInSession = true := by
  cases e with
  | proc msg => exact isInSession_of_msgCheck h
  | respond i err =>
    cases hr : a.mLocApi.unanswered[i]? with
    | none => simp only [dgnssCalls, hr, not_mem_nil] at h
    | some r =>
      simp only [dgnssCalls, hr] at h
      simp only [next, hr]
      exact isInSession_of_responseCheck h
  | engineLockState state => exact absurd h not_mem_nil

theorem responseCalls_of_erases (h : fn.erases a.mLocApi.engineLockState err = some key) :
    a.responseCalls err fn = [] := by
  cases fn with
  | startTimeBased k =>
    simp only [ResponseFn.erases] at h
    split_ifs at h with hfails
    exact if_pos hfails
  | _ => rfl

theorem dgnssCalls_of_erases (h : a.erases e = some key) : a.dgnssCalls e = [] := by
  cases e with
  | proc msg =>
    cases msg with
    | updateTrackingOptions k options =>
      simp only [erases, msgErases] at h
      split_ifs at h with hzero
      simp [dgnssCalls, msgCalls, hzero.2.2]
    | _ => exact nomatch h
  | respond i err =>
    cases hr : a.mLocApi.unanswered[i]? with
    | none => simp only [dgnssCalls, hr]
    | some r =>
      simp only [erases, hr] at h
      simp only [dgnssCalls, hr]
      exact responseCalls_of_erases (a := a.take i r) h
  | engineLockState state => rfl

end GnssAdapter

/-! ## The bits and the source -/

/-- The bits say what runs, and what runs is the enable in force. -/
structure Dgnss.Tracks (d : Dgnss) (source : Option StartDgnssNtripParams)
    (inForce : Option GnssNtripConnectionParams) : Prop where
  enabled : d.mDgnssState.enableNtripCommand = inForce.isSome
  params : ∀ p ∈ inForce, d.mStartDgnssNtripParams.ntripParams = p
  started : d.mDgnssState.ntripSessionStarted = source.isSome
  rightful : ∀ src ∈ source, inForce = some src.ntripParams

namespace Dgnss.Tracks

variable {d : Dgnss} {source : Option StartDgnssNtripParams}
  {inForce : Option GnssNtripConnectionParams}

variable (h : d.Tracks source inForce)
include h

theorem inForce_eq (henabled : d.mDgnssState.enableNtripCommand = true) :
    inForce = some d.mStartDgnssNtripParams.ntripParams := by
  obtain ⟨p, hp⟩ := isSome_iff_exists.mp (h.enabled.symm.trans henabled)
  rw [hp, h.params p hp]

theorem check (isInSession isLocationValid : Bool) :
    (d.checkUpdateDgnssNtrip isInSession isLocationValid).1.Tracks
        (sourceAfter source (d.checkUpdateDgnssNtrip isInSession isLocationValid).2) inForce ∧
      (isInSession = false →
        sourceAfter source (d.checkUpdateDgnssNtrip isInSession isLocationValid).2 = source) := by
  simp only [checkUpdateDgnssNtrip]
  split
  · rename_i hin
    split
    · rename_i hstart
      have henabled : d.mDgnssState.enableNtripCommand = true := by rw [hstart]
      have hforce := h.inForce_eq henabled
      refine ⟨⟨?_, h.params, rfl, ?_⟩, fun hout => absurd (hin.symm.trans hout) (by decide)⟩
      · rw [hforce]
        rfl
      · intro src hsrc
        obtain rfl := some.inj hsrc
        exact hforce
    · split
      · exact ⟨⟨h.enabled, h.params, h.started, h.rightful⟩, fun _ => rfl⟩
      · exact ⟨h, fun _ => rfl⟩
  · exact ⟨h, fun _ => rfl⟩

theorem stop :
    d.stopDgnssNtrip.1.Tracks none inForce ∧ sourceAfter source d.stopDgnssNtrip.2 = none := by
  refine ⟨⟨h.enabled, h.params, rfl, nofun⟩, ?_⟩
  unfold stopDgnssNtrip
  cases hstarted : d.mDgnssState.ntripSessionStarted with
  | true => rfl
  | false =>
    have hnone := isSome_eq_false_iff.mp (h.started.symm.trans hstarted)
    exact isNone_iff_eq_none.mp hnone

theorem stopTracking :
    d.stopTracking.1.Tracks none inForce ∧ sourceAfter source d.stopTracking.2 = none :=
  Tracks.stop ⟨h.enabled, h.params, h.started, h.rightful⟩

theorem disable : d.handleDisablePPENtrip.1.Tracks none none ∧
      sourceAfter source d.handleDisablePPENtrip.2 = none := by
  refine ⟨⟨rfl, nofun, rfl, nofun⟩, ?_⟩
  unfold handleDisablePPENtrip stopDgnssNtrip
  cases hstarted : d.mDgnssState.ntripSessionStarted with
  | true => simp [sourceAfter]
  | false =>
    have hnone := isSome_eq_false_iff.mp (h.started.symm.trans hstarted)
    simpa [hstarted, sourceAfter] using hnone

theorem reportGGA (isInSession : Bool) (nmea : String) (isLocationValid : Bool) :
    (d.reportGGA isInSession nmea isLocationValid).1.Tracks
        (sourceAfter source (d.reportGGA isInSession nmea isLocationValid).2) inForce ∧
      (isInSession = false →
        sourceAfter source (d.reportGGA isInSession nmea isLocationValid).2 = source) := by
  simp only [Dgnss.reportGGA]
  split
  · refine Tracks.check ⟨?_, ?_, ?_, ?_⟩ isInSession isLocationValid
    · exact h.enabled
    · exact h.params
    · exact h.started
    · exact h.rightful
  · exact ⟨h, fun _ => rfl⟩

theorem call (c : DgnssCall) : (d.call c).1.Tracks (sourceAfter source (d.call c).2) inForce ∧
      (sourceAfter source (d.call c).2 ≠ none →
        c = .checkUpdateDgnssNtrip true ∨ source ≠ none ∧ c ≠ .stopTracking) := by
  cases c with
  | stopTracking =>
    obtain ⟨htracks, hnone⟩ := h.stopTracking
    show (d.stopTracking.1.Tracks (sourceAfter source d.stopTracking.2) inForce) ∧ _
    rw [hnone]
    exact ⟨htracks, fun hne => absurd hnone hne⟩
  | checkUpdateDgnssNtrip isInSession =>
    obtain ⟨htracks, hsame⟩ := h.check isInSession false
    refine ⟨htracks, fun hne => ?_⟩
    cases isInSession with
    | true => exact Or.inl rfl
    | false => exact Or.inr ⟨hsame rfl ▸ hne, nofun⟩

theorem calls (cs : List DgnssCall) :
    (d.calls cs).1.Tracks (sourceAfter source (d.calls cs).2) inForce ∧
      (sourceAfter source (d.calls cs).2 ≠ none →
        .checkUpdateDgnssNtrip true ∈ cs ∨ source ≠ none ∧ .stopTracking ∉ cs) := by
  induction cs generalizing d source with
  | nil => exact ⟨h, fun hne => Or.inr ⟨hne, not_mem_nil⟩⟩
  | cons c cs ih =>
    obtain ⟨hfirst, hfrom⟩ := h.call c
    obtain ⟨hrest, hthen⟩ := ih hfirst
    simp only [Dgnss.calls, sourceAfter_append]
    refine ⟨hrest, fun hne => ?_⟩
    rcases hthen hne with hcheck | ⟨hsource, hstop⟩
    · exact Or.inl (mem_cons_of_mem _ hcheck)
    · rcases hfrom hsource with rfl | ⟨hbefore, hc⟩
      · exact Or.inl mem_cons_self
      · refine Or.inr ⟨hbefore, fun hmem => ?_⟩
        rcases mem_cons.mp hmem with rfl | hmem
        · exact hc rfl
        · exact hstop hmem

theorem inForce_eq_iff (params : GnssNtripConnectionParams) :
    d.mStartDgnssNtripParams.ntripParams = params ∧ d.mDgnssState.enableNtripCommand = true ↔
      inForce = some params := by
  constructor
  · rintro ⟨rfl, henabled⟩
    exact h.inForce_eq henabled
  · intro hforce
    refine ⟨h.params params hforce, ?_⟩
    rw [h.enabled, hforce]
    rfl

theorem enable {isInSession : Bool} (hin : source ≠ none → isInSession = true)
    (params : GnssNtripConnectionParams)
    (hfits : source ≠ none → ¬ (inForce ≠ some params ∧ d.mSendNmeaConsent = true ∧
      params.requiresNmeaLocation = true)) :
    (d.handleEnablePPENtrip isInSession params).1.Tracks
        (sourceAfter source (d.handleEnablePPENtrip isInSession params).2) (some params) ∧
      (sourceAfter source (d.handleEnablePPENtrip isInSession params).2 ≠ none →
        isInSession = true) := by
  simp only [handleEnablePPENtrip]
  split
  · rename_i hsame
    rw [h.inForce_eq_iff] at hsame
    rw [← hsame]
    exact ⟨h, hin⟩
  rename_i hother
  rw [h.inForce_eq_iff] at hother
  have hparams : ∀ p ∈ some params, params = p := fun p hp => some.inj hp
  split
  · rename_i hawaits
    have hnone : source = none := not_ne_iff.mp fun hne => hfits hne ⟨hother, hawaits⟩
    refine ⟨⟨rfl, hparams, ?_, ?_⟩, hin⟩
    · rw [hnone]
      rfl
    · rw [hnone]
      exact nofun
  · cases isInSession with
    | true => exact ⟨⟨rfl, hparams, rfl, fun src hsrc => some.inj hsrc ▸ rfl⟩, fun _ => rfl⟩
    | false =>
      have hnone : source = none := not_ne_iff.mp fun hne => nomatch hin hne
      refine ⟨⟨rfl, hparams, ?_, ?_⟩, hin⟩
      · rw [hnone]
        rfl
      · rw [hnone]
        exact nofun

theorem enable_awaits (isInSession : Bool) {params : GnssNtripConnectionParams}
    (hother : inForce ≠ some params)
    (hawaits : d.mSendNmeaConsent = true ∧ params.requiresNmeaLocation = true) :
    (d.handleEnablePPENtrip isInSession params).2 = [] := by
  have hnot := mt (h.inForce_eq_iff params).mp hother
  simp only [handleEnablePPENtrip, if_neg hnot]
  rw [if_pos hawaits]

end Dgnss.Tracks

/-! ## Runs -/

namespace NtripRun

variable {n : NtripRun}

structure Inv (n : NtripRun) : Prop where
  tracks : n.ntrip.dgnss.Tracks n.source n.inForce
  inSession : n.source ≠ none → n.ntrip.adapter.isInSession = true

theorem Inv.rightful (h : n.Inv) : n.Rightful := by
  intro src hsrc
  refine ⟨h.tracks.rightful src hsrc, h.inSession ?_⟩
  exact ne_none_iff_exists'.mpr ⟨src, hsrc⟩

theorem inv_new (supported nHzNeeded capabilitiesKnown : Bool) :
    (new supported nHzNeeded capabilitiesKnown).Inv where
  tracks := ⟨rfl, nofun, rfl, nofun⟩
  inSession := fun hne => absurd rfl hne

/-- A step of tracking keeps the source right unless it erases the last
session while the fix goes on. -/
theorem Inv.tracking (h : n.Inv) (e : TrackingEvent) (hfits : n.Fits (.tracking e)) :
    (n.step (.tracking e)).1.Inv := by
  obtain ⟨htracks, hfrom⟩ := h.tracks.calls (n.ntrip.adapter.dgnssCalls e)
  refine ⟨htracks, fun hne => ?_⟩
  rcases hfrom hne with hcheck | ⟨hsource, hstop⟩
  · exact GnssAdapter.isInSession_of_check hcheck
  · have hnext := GnssAdapter.isInSession_next (h.inSession hsource) e hstop
    exact eq_true_of_ne_false fun hfalse => (hfits hsource).1 (hnext.mp hfalse)

theorem Inv.step (h : n.Inv) (e : NtripEvent) (hfits : n.Fits e) : (n.step e).1.Inv := by
  cases e with
  | updateNTRIPGGAConsent consentAccepted =>
    exact ⟨⟨h.tracks.enabled, h.tracks.params, h.tracks.started, h.tracks.rightful⟩, h.inSession⟩
  | bootTime milliSec =>
    exact ⟨⟨h.tracks.enabled, h.tracks.params, h.tracks.started, h.tracks.rightful⟩, h.inSession⟩
  | enablePPENtripStream size params =>
    simp only [NtripRun.step, NtripAdapter.step, commanded]
    split
    · rename_i hvalid
      obtain ⟨htracks, hin⟩ := h.tracks.enable h.inSession params fun hne hawaits =>
        (hfits hne).2 ⟨hvalid, hawaits⟩
      exact ⟨htracks, hin⟩
    · exact h
  | disablePPENtripStream =>
    obtain ⟨htracks, hnone⟩ := h.tracks.disable
    simp only [NtripRun.step, NtripAdapter.step, commanded, hnone]
    exact ⟨htracks, fun hne => absurd rfl hne⟩
  | reportGGA nmea isLocationValid =>
    obtain ⟨htracks, hsame⟩ :=
      h.tracks.reportGGA n.ntrip.adapter.isInSession nmea isLocationValid
    refine ⟨htracks, fun hne => eq_true_of_ne_false fun hfalse => ?_⟩
    have hsource : n.source ≠ none := hsame hfalse ▸ hne
    exact absurd ((h.inSession hsource).symm.trans hfalse) (by decide)
  | tracking e => exact h.tracking e hfits
  | suspendSessions =>
    obtain ⟨htracks, hfrom⟩ := h.tracks.calls
      (if n.ntrip.adapter.isInSession = true then [.stopTracking] else [])
    refine ⟨htracks, fun hne => ?_⟩
    rcases hfrom hne with hcheck | ⟨hsource, hstop⟩
    · split at hcheck <;> simp at hcheck
    · rw [if_pos (h.inSession hsource)] at hstop
      exact absurd (mem_singleton_self _) hstop
  | restartSessions =>
    obtain ⟨htracks, hfrom⟩ := h.tracks.calls
      (if n.ntrip.adapter.isInSession = true then [.checkUpdateDgnssNtrip true] else [])
    refine ⟨htracks, fun hne => ?_⟩
    refine (GnssAdapter.isInSession_congr GnssAdapter.checkAndRestartSPESession_timeBased).trans ?_
    rcases hfrom hne with hcheck | ⟨hsource, -⟩
    · split at hcheck
      · rename_i hin
        exact hin
      · exact absurd hcheck not_mem_nil
    · exact h.inSession hsource

theorem Inv.fits (h : n.Inv) {e : NtripEvent} (hnext : (n.step e).1.Rightful) : n.Fits e := by
  intro hne
  obtain ⟨src, hsrc⟩ := ne_none_iff_exists'.mp hne
  refine ⟨fun herases => ?_, fun hawaits => ?_⟩
  · cases e with
    | tracking e =>
      obtain ⟨key, hkey, hlast⟩ := herases
      have hcalls := GnssAdapter.dgnssCalls_of_erases hkey
      have hsource : (n.step (.tracking e)).1.source = some src := by
        show sourceAfter n.source (n.ntrip.dgnss.calls (n.ntrip.adapter.dgnssCalls e)).2 = _
        rw [hcalls]
        exact hsrc
      have hleft := (GnssAdapter.isInSession_next (h.inSession hne) e
        (hcalls ▸ not_mem_nil)).mpr ⟨key, hkey, hlast⟩
      exact absurd ((hnext src hsource).2.symm.trans hleft) (by decide)
    | _ => exact herases
  · cases e with
    | enablePPENtripStream size params =>
      obtain ⟨hvalid, hother, hwaits⟩ := hawaits
      have hcalls := h.tracks.enable_awaits n.ntrip.adapter.isInSession hother hwaits
      have hsource : (n.step (.enablePPENtripStream size params)).1.source = some src := by
        simp only [NtripRun.step, NtripAdapter.step, if_pos hvalid, hcalls]
        exact hsrc
      have hforce : (n.step (.enablePPENtripStream size params)).1.inForce = some params :=
        if_pos hvalid
      have hsame := hforce.symm.trans (hnext src hsource).1
      exact hother ((h.tracks.rightful src hsrc).trans hsame.symm)
    | _ => exact hawaits

/-- The source runs only while it is enabled, with the parameters of the
last enable, and beside a time based session, in every state of a run, if
and only if in every step that finds it running no enable has a sentence
awaited for other parameters, and no session is erased as the last while the
fix goes on. -/
theorem source_iff (supported nHzNeeded capabilitiesKnown : Bool) (es : List NtripEvent) :
    StatesMeet step Rightful (new supported nHzNeeded capabilitiesKnown) es ↔
      StepsMeet step Fits (new supported nHzNeeded capabilitiesKnown) es :=
  statesMeet_iff_stepsMeet_of_inv Inv (fun _ h => h.rightful) (fun _ e h => h.step e)
    (fun _ _ h => h.fits) (inv_new supported nHzNeeded capabilitiesKnown) es

def someServer (requiresNmeaLocation : Bool) : GnssNtripConnectionParams :=
  ⟨false, "ntrip", 2101, "rtcm", "user", "password", requiresNmeaLocation⟩

/-- The source runs when it is enabled anew, for a server that wants to know
the location; it is disabled before there is one. -/
def neverStopped : List NtripEvent :=
  [.updateNTRIPGGAConsent true, .tracking (.proc (.addClient 1 .all)),
    .tracking (.proc (.startTracking ⟨1, 1⟩ (.request 1000 0 .m2))),
    .tracking (.respond 0 .success), .enablePPENtripStream 176 (someServer false),
    .enablePPENtripStream 176 (someServer true), .disablePPENtripStream]

/-- It runs on. -/
theorem not_rightful_neverStopped :
    ¬ StatesMeet step Rightful (new false false true) neverStopped := by
  intro h
  have hsource : (after step (new false false true) neverStopped).source =
      some ⟨someServer false, ""⟩ := by
    decide
  exact nomatch (h.last _ hsource).1

end NtripRun

end LocStack.Tracking
