/-
# `LocStack.Tracking.Model` — GnssAdapter's tracking sessions

The message thread of GnssAdapter processes tracking commands and the
responses of LocApi one at a time.  A session is in one of two maps,

    mTimeBasedTrackingSessions       all of them share one LocApi fix, whose
                                     options the adapter multiplexes
    mDistanceBasedTrackingSessions   each has a LocApi fix of its own, known
                                     to LocApi by the session id alone

and a command may move it between them.  Every LocApi call carries a
response object, a closure over the key and the options of the moment of
the call; it runs when the engine answers, in whatever order and however
many commands later.  An event of the machine is a message, a response to
one of the unanswered calls, or a change of the engine lock.

`LocApi` keeps what it was last told, so that what the adapter asks for can
be compared with what its maps say.  The answer of `isMessageSupported` is
fixed at boot, and session ids come with the commands: generateSessionId
counts for all adapters together.  Left out are the engine hub, DGNSS, the
NMEA time stamps and what engine up does for other parts of the adapter.
-/
import LocStack.Adapter.PendingMsgs
import LocStack.Tracking.Options

namespace LocStack.Tracking

open Adapter (EngineLockState)

/-! ## Messages and responses -/

inductive LocationError where
  | success | generalFailure | callbackMissing | invalidParameter | idExists | idUnknown
  | alreadyStarted | geofencesAtMax | notSupported | timeout | gnssDisabled
  deriving DecidableEq

/-- Which of a client's callbacks are set; of LocationCallbacks only those
that tracking asks about. -/
structure LocationCallbacks where
  (trackingCb gnssLocationInfoCb engineLocationsInfoCb gnssMeasurementsCb gnssDataCb : Bool)
  (gnssSvCb gnssNmeaCb responseCb : Bool)
  deriving DecidableEq

/-- A client that has set them all. -/
def LocationCallbacks.all : LocationCallbacks :=
  ⟨true, true, true, true, true, true, true, true⟩

/-- The messages, under the names of the commands that send them. -/
inductive TrackingMsg where
  | addClient (client : Nat) (callbacks : LocationCallbacks)
  | startTracking (key : LocationSessionKey) (options : TrackingOptions)
  | updateTrackingOptions (key : LocationSessionKey) (options : TrackingOptions)
  | stopTracking (key : LocationSessionKey)
  | removeClient (client : Nat)
  | engineUp
  deriving DecidableEq

/-- A message together with how many were processed before it. -/
structure Cause where
  msg : TrackingMsg
  number : Nat

/-- The closures handed to LocApi, with what they capture. -/
inductive ResponseFn where
  /-- `[] (LocationError) {}` -/
  | ignore
  /-- of `startTimeBasedTracking` -/
  | startTimeBased (key : LocationSessionKey)
  /-- of `updateTracking` -/
  | updateTracking (key : LocationSessionKey) (oldOptions : TrackingOptions)
  /-- of `startTrackingCommand` -/
  | startDistanceBased (key : LocationSessionKey)
  /-- of `updateTrackingOptionsCommand`, from distance to time based -/
  | switchToTimeBased (key : LocationSessionKey) (options : TrackingOptions)
  /-- of `updateTrackingOptionsCommand`, distance based: of the stop -/
  | stoppedToRestart (key : LocationSessionKey) (options : TrackingOptions)
  /-- of `updateTrackingOptionsCommand`, distance based: of the start -/
  | restarted (key : LocationSessionKey) (options : TrackingOptions)
  /-- of `stopTracking` -/
  | stopFix (key : LocationSessionKey)
  /-- of `stopTrackingCommand` -/
  | stopDistanceBased (key : LocationSessionKey)
  /-- of `stopClientSessions` -/
  | stopClientSession (key : LocationSessionKey)

/-- `cause` is the message the call goes back to. -/
structure LocApiResponse where
  cause : Cause
  fn : ResponseFn

/-! ## LocApi -/

structure LocApi where
  engineLockState : EngineLockState
  /-- The options last handed to `startTimeBasedTracking`. -/
  timeBased : Option TrackingOptions
  /-- Was the last time based call a start? -/
  fixStarted : Bool
  /-- By session id, the `startDistanceBasedTracking` not stopped since. -/
  distanceBased : Std.TreeMap Nat LocationOptions
  /-- The calls not yet answered. -/
  unanswered : List LocApiResponse

namespace LocApi

def startTimeBasedTracking (api : LocApi) (options : TrackingOptions)
    (adapterResponse : Option LocApiResponse) : LocApi :=
  { api with
    timeBased := some options
    fixStarted := true
    unanswered := api.unanswered ++ adapterResponse.toList }

def stopFix (api : LocApi) (adapterResponse : LocApiResponse) : LocApi :=
  { api with
    fixStarted := false
    unanswered := api.unanswered ++ [adapterResponse] }

def startDistanceBasedTracking (api : LocApi) (sessionId : Nat) (options : LocationOptions)
    (adapterResponse : LocApiResponse) : LocApi :=
  { api with
    distanceBased := api.distanceBased.insert sessionId options
    unanswered := api.unanswered ++ [adapterResponse] }

def stopDistanceBasedTracking (api : LocApi) (sessionId : Nat)
    (adapterResponse : LocApiResponse) : LocApi :=
  { api with
    distanceBased := api.distanceBased.erase sessionId
    unanswered := api.unanswered ++ [adapterResponse] }

end LocApi

/-! ## The adapter -/

/-- What others hear from the adapter. -/
inductive Report where
  /-- A client's `responseCb`. -/
  | response (client : Nat) (err : LocationError) (sessionId : Nat)
  /-- `mPowerStateCb` -/
  | powerState (on : Bool)
  /-- A parked message is sent again. -/
  | resent (msg : TrackingMsg)
  deriving DecidableEq

structure GnssAdapter where
  mClientData : Std.TreeMap Nat LocationCallbacks
  mTimeBasedTrackingSessions : TrackingSessions
  mDistanceBasedTrackingSessions : DistanceSessions
  mPendingMsgs : List TrackingMsg
  mIsEngineCapabilitiesKnown : Bool
  /-- `isMessageSupported(LOC_API_ADAPTER_MESSAGE_DISTANCE_BASE_TRACKING)` -/
  isMessageSupported : Bool
  (mNHzNeeded mSPEAlreadyRunningAtHighestInterval mPowerOn : Bool)
  mLocApi : LocApi
  /-- The message being processed, or the one the response goes back to. -/
  current : Cause
  /-- How many messages have been processed. -/
  processed : Nat
  /-- What has been reported during this event. -/
  reports : List Report

namespace GnssAdapter

/-- A new adapter, on an engine that is not locked. -/
def new (supported nHzNeeded capabilitiesKnown : Bool) : GnssAdapter where
  mClientData := ∅
  mTimeBasedTrackingSessions := ∅
  mDistanceBasedTrackingSessions := ∅
  mPendingMsgs := []
  mIsEngineCapabilitiesKnown := capabilitiesKnown
  isMessageSupported := supported
  mNHzNeeded := nHzNeeded
  mSPEAlreadyRunningAtHighestInterval := false
  mPowerOn := false
  mLocApi :=
    { engineLockState := .enabled
      timeBased := none
      fixStarted := false
      distanceBased := ∅
      unanswered := [] }
  current := ⟨.engineUp, 0⟩
  processed := 0
  reports := []

def report (a : GnssAdapter) (r : Report) : GnssAdapter :=
  { a with reports := a.reports ++ [r] }

def reportResponse (a : GnssAdapter) (key : LocationSessionKey) (err : LocationError) :
    GnssAdapter :=
  match a.mClientData[key.client]? with
  | some callbacks =>
    if callbacks.responseCb then a.report (.response key.client err key.id) else a
  | none => a

/-- `if (reportToClientWithNoWait) reportResponse(.., LOCATION_ERROR_SUCCESS, ..)` -/
def reportIf (a : GnssAdapter) (reportToClientWithNoWait : Bool) (key : LocationSessionKey) :
    GnssAdapter :=
  if reportToClientWithNoWait then a.reportResponse key .success else a

/-- A new response object. -/
def response (a : GnssAdapter) (fn : ResponseFn) : LocApiResponse := ⟨a.current, fn⟩

def startDistanceBasedTracking (a : GnssAdapter) (key : LocationSessionKey)
    (options : LocationOptions) (fn : ResponseFn) : GnssAdapter :=
  { a with mLocApi := a.mLocApi.startDistanceBasedTracking key.id options (a.response fn) }

def stopDistanceBasedTracking (a : GnssAdapter) (key : LocationSessionKey) (fn : ResponseFn) :
    GnssAdapter :=
  { a with mLocApi := a.mLocApi.stopDistanceBasedTracking key.id (a.response fn) }

/-! ### The sessions -/

def isTimeBasedTrackingSession (a : GnssAdapter) (key : LocationSessionKey) : Bool :=
  a.mTimeBasedTrackingSessions.contains key

def isDistanceBasedTrackingSession (a : GnssAdapter) (key : LocationSessionKey) : Bool :=
  a.mDistanceBasedTrackingSessions.contains key

def hasCallbacksToStartTracking (a : GnssAdapter) (client : Nat) : Bool :=
  match a.mClientData[client]? with
  | some callbacks =>
    callbacks.trackingCb || callbacks.gnssLocationInfoCb || callbacks.engineLocationsInfoCb ||
      callbacks.gnssMeasurementsCb || callbacks.gnssDataCb || callbacks.gnssSvCb ||
      callbacks.gnssNmeaCb
  | none => false

def reportPowerStateIfChanged (a : GnssAdapter) : GnssAdapter :=
  let newPowerOn := !a.mTimeBasedTrackingSessions.isEmpty ||
    !a.mDistanceBasedTrackingSessions.isEmpty
  if newPowerOn != a.mPowerOn then { a.report (.powerState newPowerOn) with mPowerOn := newPowerOn }
  else a

/-- The test of `startTrackingCommand` and `saveTrackingSession`. -/
def isDistanceBased (a : GnssAdapter) (options : TrackingOptions) : Bool :=
  0 < options.minDistance && a.isMessageSupported

def saveTrackingSession (a : GnssAdapter) (key : LocationSessionKey) (options : TrackingOptions) :
    GnssAdapter :=
  if a.isDistanceBased options then
    { a with mDistanceBasedTrackingSessions :=
        a.mDistanceBasedTrackingSessions.insert key options.toLocationOptions
      : GnssAdapter }.reportPowerStateIfChanged
  else
    { a with mTimeBasedTrackingSessions := a.mTimeBasedTrackingSessions.insert key options
      : GnssAdapter }.reportPowerStateIfChanged

def eraseTrackingSession (a : GnssAdapter) (key : LocationSessionKey) : GnssAdapter :=
  if a.isTimeBasedTrackingSession key then
    { a with mTimeBasedTrackingSessions := a.mTimeBasedTrackingSessions.erase key
      : GnssAdapter }.reportPowerStateIfChanged
  else
    { a with mDistanceBasedTrackingSessions := a.mDistanceBasedTrackingSessions.erase key
      : GnssAdapter }.reportPowerStateIfChanged

/-! ### The time based fix -/

/-- The options as they may be changed, and is the fix running as it is? -/
def checkAndSetSPEToRunforNHz (a : GnssAdapter) (out : TrackingOptions) :
    GnssAdapter × TrackingOptions × Bool :=
  if !a.mNHzNeeded then (a, out, false)
  else if a.mSPEAlreadyRunningAtHighestInterval then (a, out, true)
  else if MIN_TRACKING_INTERVAL < out.minInterval then
    ({ a with mSPEAlreadyRunningAtHighestInterval := true },
      { out with minInterval := MIN_TRACKING_INTERVAL }, false)
  else (a, out, false)

/-- The common end of `startTimeBasedTracking` and `updateTracking`. -/
def runTimeBased (a : GnssAdapter) (key : LocationSessionKey) (trackingOptions : TrackingOptions)
    (fn : ResponseFn) : GnssAdapter :=
  match a.checkAndSetSPEToRunforNHz trackingOptions with
  | (a, _, true) => a.reportResponse key .success
  | (a, tempOptions, false) =>
    { a with mLocApi := a.mLocApi.startTimeBasedTracking tempOptions (a.response fn) }

def startTimeBasedTracking (a : GnssAdapter) (key : LocationSessionKey)
    (trackingOptions : TrackingOptions) : GnssAdapter :=
  a.runTimeBased key trackingOptions (.startTimeBased key)

def updateTracking (a : GnssAdapter) (key : LocationSessionKey)
    (updatedOptions oldOptions : TrackingOptions) : GnssAdapter :=
  a.runTimeBased key updatedOptions (.updateTracking key oldOptions)

def stopTracking (a : GnssAdapter) (key : LocationSessionKey) : GnssAdapter :=
  { a with
    mLocApi := a.mLocApi.stopFix (a.response (.stopFix key))
    mSPEAlreadyRunningAtHighestInterval := false }

/-! ### The multiplexers -/

/-- The flag of the result is `reportToClientWithNoWait`. -/
def startTimeBasedTrackingMultiplex (a : GnssAdapter) (key : LocationSessionKey)
    (options : TrackingOptions) : GnssAdapter × Bool :=
  if a.mTimeBasedTrackingSessions.isEmpty then (a.startTimeBasedTracking key options, false)
  else
    let m := multiplexAll a.mTimeBasedTrackingSessions
    if m.updateOptions options then (a.startTimeBasedTracking key (m.lowered options), false)
    else (a, true)

/-- The callers have found the session in the map. -/
def updateTrackingMultiplex (a : GnssAdapter) (key : LocationSessionKey)
    (trackingOptions : TrackingOptions) : GnssAdapter × Bool :=
  match a.mTimeBasedTrackingSessions[key]? with
  | none => (a, true)
  | some oldOptions =>
    if oldOptions.minInterval ≠ trackingOptions.minInterval ∨
        oldOptions.powerMode ≠ trackingOptions.powerMode then
      let m := multiplexOthers a.mTimeBasedTrackingSessions key
      if a.mTimeBasedTrackingSessions.size = 1 then
        (a.updateTracking key trackingOptions oldOptions, false)
      else if m.updateOptions trackingOptions then
        (a.updateTracking key (m.lowered trackingOptions) oldOptions, false)
      else (a, true)
    else (a, true)

def stopTimeBasedTrackingMultiplex (a : GnssAdapter) (key : LocationSessionKey) :
    GnssAdapter × Bool :=
  if a.mTimeBasedTrackingSessions.size = 1 then (a.stopTracking key, false)
  else
    match a.mTimeBasedTrackingSessions[key]? with
    | none => (a, true)
    | some options =>
      let m := multiplexOthers a.mTimeBasedTrackingSessions key
      if m.updateOptions options then
        (a.startTimeBasedTracking key { m.options with powerMode := m.powerMode }, false)
      else (a, true)

def checkAndRestartTimeBasedSession (a : GnssAdapter) : GnssAdapter :=
  if a.mTimeBasedTrackingSessions.isEmpty then a
  else
    match a.checkAndSetSPEToRunforNHz (restartOptions a.mTimeBasedTrackingSessions) with
    | (a, _, true) => a
    | (a, options, false) => { a with mLocApi := a.mLocApi.startTimeBasedTracking options none }

/-! ### The commands -/

/-- The end of a start, and of a switch from distance to time based. -/
def startTimeBasedSession (a : GnssAdapter) (key : LocationSessionKey)
    (options : TrackingOptions) : GnssAdapter :=
  let r := a.startTimeBasedTrackingMultiplex key options
  (r.1.saveTrackingSession key options).reportIf r.2 key

def park (a : GnssAdapter) (msg : TrackingMsg) : GnssAdapter :=
  { a with mPendingMsgs := a.mPendingMsgs ++ [msg] }

/-- `MsgStartTracking::proc`.  The two errors are reported to nobody. -/
def startTrackingCommand (a : GnssAdapter) (key : LocationSessionKey) (options : TrackingOptions) :
    GnssAdapter :=
  if !a.mIsEngineCapabilitiesKnown && 0 < options.minDistance then
    a.park (.startTracking key options)
  else if !a.hasCallbacksToStartTracking key.client then a
  else if options.size = 0 then a
  else
    let options := options.clampInterval
    if a.isDistanceBased options then
      (a.saveTrackingSession key options).startDistanceBasedTracking key options.toLocationOptions
        (.startDistanceBased key)
    else a.startTimeBasedSession key options.fallBackToM2

/-- `MsgUpdateTracking::proc` -/
def updateTrackingOptionsCommand (a : GnssAdapter) (key : LocationSessionKey)
    (options : TrackingOptions) : GnssAdapter :=
  if !a.mIsEngineCapabilitiesKnown && 0 < options.minDistance then
    a.park (.updateTrackingOptions key options)
  else
    let isTimeBased := a.isTimeBasedTrackingSession key
    let isDistanceBased := a.isDistanceBasedTrackingSession key
    if !isTimeBased && !isDistanceBased then a.reportResponse key .idUnknown
    else if options.size = 0 then a.reportResponse key .invalidParameter
    else
      let options := options.fallBackToM2.clampInterval
      if isTimeBased && 0 < options.minDistance then
        -- whether distance based tracking is supported is not asked
        let r := a.stopTimeBasedTrackingMultiplex key
        (((r.1.eraseTrackingSession key).reportIf r.2 key).saveTrackingSession key
          options).startDistanceBasedTracking key options.toLocationOptions .ignore
      else if isDistanceBased && options.minDistance == 0 then
        (a.eraseTrackingSession key).stopDistanceBasedTracking key (.switchToTimeBased key options)
      else if isTimeBased then
        let r := a.updateTrackingMultiplex key options
        (r.1.saveTrackingSession key options).reportIf r.2 key
      else a.stopDistanceBasedTracking key (.stoppedToRestart key options)

/-- `MsgStopTracking::proc` -/
def stopTrackingCommand (a : GnssAdapter) (key : LocationSessionKey) : GnssAdapter :=
  if a.isTimeBasedTrackingSession key then
    let r := a.stopTimeBasedTrackingMultiplex key
    (r.1.eraseTrackingSession key).reportIf r.2 key
  else if a.isDistanceBasedTrackingSession key then
    a.stopDistanceBasedTracking key (.stopDistanceBased key)
  else a.reportResponse key .idUnknown

/-- The body of the first loop of `stopClientSessions`. -/
def stopTimeBasedSession (a : GnssAdapter) (key : LocationSessionKey) : GnssAdapter :=
  (a.stopTimeBasedTrackingMultiplex key).1.eraseTrackingSession key

def stopClientSessions (a : GnssAdapter) (client : Nat) : GnssAdapter :=
  let vTimeBasedTrackingClient :=
    a.mTimeBasedTrackingSessions.keys.filter fun key => key.client = client
  let a := vTimeBasedTrackingClient.foldl stopTimeBasedSession a
  (a.mDistanceBasedTrackingSessions.keys.filter fun key => key.client = client).foldl
    (fun a key => a.stopDistanceBasedTracking key (.stopClientSession key)) a

/-- `MsgRemoveClient::proc` -/
def removeClientCommand (a : GnssAdapter) (client : Nat) : GnssAdapter :=
  let a := a.stopClientSessions client
  { a with mClientData := a.mClientData.erase client }

def checkAndRestartSPESession (a : GnssAdapter) : GnssAdapter :=
  let a : GnssAdapter := { a with mSPEAlreadyRunningAtHighestInterval := false }
  let a := a.checkAndRestartTimeBasedSession
  a.mDistanceBasedTrackingSessions.toList.foldl
    (fun a session => a.startDistanceBasedTracking session.1 session.2 .ignore) a

/-- `MsgHandleEngineUpEvent::proc`.  What is sent again is processed as a
message of its own. -/
def handleEngineUpEvent (a : GnssAdapter) : GnssAdapter :=
  let a : GnssAdapter := { a with mIsEngineCapabilitiesKnown := true }
  if a.mLocApi.engineLockState = .enabled then
    let a := a.checkAndRestartSPESession
    { a with reports := a.reports ++ a.mPendingMsgs.map .resent }
  else a

def procMsg (a : GnssAdapter) : TrackingMsg → GnssAdapter
  | .addClient client callbacks => { a with mClientData := a.mClientData.insert client callbacks }
  | .startTracking key options => a.startTrackingCommand key options
  | .updateTrackingOptions key options => a.updateTrackingOptionsCommand key options
  | .stopTracking key => a.stopTrackingCommand key
  | .removeClient client => a.removeClientCommand client
  | .engineUp => a.handleEngineUpEvent

/-! ### The responses -/

def procResponse (a : GnssAdapter) (err : LocationError) : ResponseFn → GnssAdapter
  | .ignore => a
  | .startTimeBased key | .startDistanceBased key =>
    let a := if a.mLocApi.engineLockState = .enabled ∧ err ≠ .success then
      a.eraseTrackingSession key else a
    a.reportResponse key err
  | .updateTracking key oldOptions =>
    let a := if a.mLocApi.engineLockState = .enabled ∧ err ≠ .success then
      a.saveTrackingSession key oldOptions else a
    a.reportResponse key err
  | .switchToTimeBased key options => a.startTimeBasedSession key options
  | .stoppedToRestart key options =>
    if err = .success then
      a.startDistanceBasedTracking key options.toLocationOptions (.restarted key options)
    else a
  | .restarted key options =>
    let a := if a.mLocApi.engineLockState = .disabled ∨ err = .success then
      a.saveTrackingSession key options else a
    a.reportResponse key err
  | .stopFix key => a.reportResponse key err
  | .stopDistanceBased key =>
    let a := if a.mLocApi.engineLockState = .disabled ∨ err = .success then
      a.eraseTrackingSession key else a
    a.reportResponse key err
  | .stopClientSession key => if err = .success then a.eraseTrackingSession key else a

end GnssAdapter

/-! ## The machine -/

inductive TrackingEvent where
  | proc (msg : TrackingMsg)
  /-- The engine answers the `i`th of the unanswered calls. -/
  | respond (i : Nat) (err : LocationError)
  | engineLockState (state : EngineLockState)

namespace GnssAdapter

/-- `a` when it begins with a message. -/
def begin (a : GnssAdapter) (msg : TrackingMsg) : GnssAdapter :=
  { a with current := ⟨msg, a.processed⟩, processed := a.processed + 1, reports := [] }

/-- `a` when it begins with the response to its `i`th unanswered call. -/
def take (a : GnssAdapter) (i : Nat) (r : LocApiResponse) : GnssAdapter :=
  { a with
    current := r.cause
    reports := []
    mLocApi := { a.mLocApi with unanswered := a.mLocApi.unanswered.eraseIdx i } }

def next (a : GnssAdapter) : TrackingEvent → GnssAdapter
  | .proc msg => (a.begin msg).procMsg msg
  | .respond i err =>
    match a.mLocApi.unanswered[i]? with
    | some r => (a.take i r).procResponse err r.fn
    | none => { a with reports := [] }
  | .engineLockState state =>
    { a with mLocApi := { a.mLocApi with engineLockState := state }, reports := [] }

def step (a : GnssAdapter) (e : TrackingEvent) : GnssAdapter × List Report :=
  (a.next e, (a.next e).reports)

end GnssAdapter

end LocStack.Tracking
