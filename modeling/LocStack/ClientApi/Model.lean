/-
# `LocStack.ClientApi.Model` — a client of the location client API, and its daemon

What an application calls on a LocationClientApi is put into the queue of
its message task, and so is what the daemon sends to it; the task takes one
message after the other (`LocationClientApiImpl.proc`).  Taking one can

    send      a request to the daemon
    post      a message at the end of the queue
    invoke    the response callback

The other side is what the daemon keeps for the client, a subscription mask,
a tracking and a batching session (`DaemonClient.serve`).

mSessionId and mBatchingId are mClientId or LOCATION_CLIENT_SESSION_ID_INVALID,
so that here they say whether they are valid.  A callback is a number, by
which it can be told from others; of those that the daemon is never given,
whether they are set is enough.  A request is taken to be sent, and one to
LocationAPI to be accepted.
-/
import LocStack.Batching.Model
import LocStack.Daemon.Subscription

namespace LocStack.ClientApi

open Daemon
open Batching (BatchingMode)

/-! ## What is asked for -/

abbrev Callback := Nat

structure GnssReportCbs where
  (gnssLocationCallback gnssSvCallback gnssNmeaCallback gnssDataCallback : Option Callback)
  gnssMeasurementsCallback : Option Callback
  deriving DecidableEq

structure EngineReportCbs where
  (engLocationsCallback gnssSvCallback gnssNmeaCallback gnssDataCallback : Option Callback)
  gnssMeasurementsCallback : Option Callback
  deriving DecidableEq

def GnssReportCbs.none : GnssReportCbs := ⟨.none, .none, .none, .none, .none⟩

def EngineReportCbs.none : EngineReportCbs := ⟨.none, .none, .none, .none, .none⟩

structure ClientCallbacks where
  (responsecb collectivecb locationcb batchingcb gfbreachcb : Option Callback)
  gnssreportcbs : GnssReportCbs
  engreportcbs : EngineReportCbs
  deriving DecidableEq

/-- `ClientCallbacks cbs = {0}` -/
def ClientCallbacks.zero : ClientCallbacks :=
  ⟨none, none, none, none, none, .none, .none⟩

inductive ReportCbEnumType where
  | REPORT_CB_TYPE_NONE | REPORT_CB_GNSS_INFO | REPORT_CB_ENGINE_INFO
  deriving DecidableEq

/-- The options that requests differ in. -/
structure TrackingOptions where
  /-- in milliseconds -/
  minInterval : UInt32
  /-- in meters -/
  minDistance : UInt32
  locReqEngTypeMask : UInt32
  deriving DecidableEq

/-- Neither an interval nor a distance: the client listens to the sessions of
others. -/
def TrackingOptions.passive (o : TrackingOptions) : Prop := o.minInterval = 0 ∧ o.minDistance = 0
  deriving Decidable

structure BatchOptions where
  (minInterval minDistance : UInt32)
  batchingMode : BatchingMode
  deriving DecidableEq

/-- `mBatchingOptions = {}` -/
def BatchOptions.zero : BatchOptions := ⟨0, 0, .routine⟩

inductive LocationResponse where
  | LOCATION_RESPONSE_SUCCESS | LOCATION_RESPONSE_UNKOWN_FAILURE | LOCATION_RESPONSE_NOT_SUPPORTED
  | LOCATION_RESPONSE_PARAM_INVALID | LOCATION_RESPONSE_TIMEOUT
  | LOCATION_RESPONSE_REQUEST_ALREADY_IN_PROGRESS | LOCATION_RESPONSE_SYSTEM_NOT_READY
  deriving DecidableEq

/-! ## Messages -/

/-- What is sent to the daemon. -/
inductive DaemonRequest where
  | clientRegister
  | updateCallbacks (locationCallbacks : UInt32)
  | startTracking (locOptions : TrackingOptions)
  | updateTrackingOptions (locOptions : TrackingOptions)
  | stopTracking
  | startBatching (options : BatchOptions)
  | updateBatchingOptions (options : BatchOptions)
  | stopBatching

/-- The requests that the daemon answers with a generic response. -/
inductive ResponseMsgId where
  | E_LOCAPI_START_TRACKING_MSG_ID | E_LOCAPI_UPDATE_TRACKING_OPTIONS_MSG_ID
  | E_LOCAPI_STOP_TRACKING_MSG_ID | E_LOCAPI_START_BATCHING_MSG_ID | E_LOCAPI_STOP_BATCHING_MSG_ID
  | E_LOCAPI_UPDATE_BATCHING_OPTIONS_MSG_ID
  deriving DecidableEq

/-- The messages of the task: those of the calls, then those received. -/
inductive ClientMsg where
  | updateCallbackFunctions (cbs : ClientCallbacks) (reportCbType : ReportCbEnumType)
  | updateCallbacks (callbacks : LocationCallbacks)
  | startTracking (option : TrackingOptions)
  | stopTracking
  | startBatching (batchOptions : BatchOptions)
  | updateBatchingOptions (batchOptions : BatchOptions)
  | stopBatching | capabilities | halReady | clientRegister
  | response (msgId : ResponseMsgId) (err : LocationResponse)
  deriving DecidableEq

inductive Out where
  | send (request : DaemonRequest)
  | post (msg : ClientMsg)
  | invoke (cb : Callback) (response : LocationResponse)

/-! ## The calls of LocationClientApi -/

/-- `startPositionSession`, of which there are three.  A null callback for
locations is refused. -/
inductive PositionSession where
  | location (intervalInMs distanceInMeters : UInt32) (locationCallback : Callback)
  | gnss (intervalInMs : UInt32) (gnssReportCallbacks : GnssReportCbs)
  | engine (intervalInMs locEngReqMask : UInt32) (engReportCallbacks : EngineReportCbs)

namespace PositionSession

def options : PositionSession → TrackingOptions
  | .location intervalInMs distanceInMeters _ => ⟨intervalInMs, distanceInMeters, 0⟩
  | .gnss intervalInMs _ => ⟨intervalInMs, 0, 0⟩
  | .engine intervalInMs locEngReqMask _ => ⟨intervalInMs, 0, locEngReqMask⟩

def reportCbType : PositionSession → ReportCbEnumType
  | .location .. => .REPORT_CB_TYPE_NONE
  | .gnss .. => .REPORT_CB_GNSS_INFO
  | .engine .. => .REPORT_CB_ENGINE_INFO

def cbs (responseCallback : Option Callback) : PositionSession → ClientCallbacks
  | .location _ _ locationCallback =>
    { ClientCallbacks.zero with
      responsecb := responseCallback, locationcb := some locationCallback }
  | .gnss _ gnssReportCallbacks =>
    { ClientCallbacks.zero with
      responsecb := responseCallback, gnssreportcbs := gnssReportCallbacks }
  | .engine _ _ engReportCallbacks =>
    { ClientCallbacks.zero with
      responsecb := responseCallback, engreportcbs := engReportCallbacks }

def callbacksOption : PositionSession → LocationCallbacks
  | .location _ distanceInMeters _ =>
    { LocationCallbacks.none with
      responseCb := true
      -- only register for trackingCb if distance is not 0
      trackingCb := distanceInMeters ≠ 0
      gnssLocationInfoCb := distanceInMeters = 0 }
  | .gnss _ cbs =>
    { LocationCallbacks.none with
      responseCb := true
      gnssLocationInfoCb := cbs.gnssLocationCallback.isSome
      gnssSvCb := cbs.gnssSvCallback.isSome
      gnssNmeaCb := cbs.gnssNmeaCallback.isSome
      gnssDataCb := cbs.gnssDataCallback.isSome
      gnssMeasurementsCb := cbs.gnssMeasurementsCallback.isSome }
  | .engine _ _ cbs =>
    { LocationCallbacks.none with
      responseCb := true
      engineLocationsInfoCb := cbs.engLocationsCallback.isSome
      gnssSvCb := cbs.gnssSvCallback.isSome
      gnssNmeaCb := cbs.gnssNmeaCallback.isSome
      gnssDataCb := cbs.gnssDataCallback.isSome
      gnssMeasurementsCb := cbs.gnssMeasurementsCallback.isSome }

end PositionSession

def startPositionSession (session : PositionSession) (responseCallback : Option Callback) :
    List ClientMsg := [
  .updateCallbackFunctions (session.cbs responseCallback) session.reportCbType,
  .updateCallbacks session.callbacksOption,
  .startTracking session.options]

def stopPositionSession : List ClientMsg := [.stopTracking]

/-- What the two kinds of batching have in common; a null callback is
refused. -/
def startBatchingSession (batchingMode : BatchingMode) (minInterval minDistance : UInt32)
    (callbacksOption : LocationCallbacks) (batchingCallback : Callback)
    (responseCallback : Option Callback) : List ClientMsg := [
  .updateCallbackFunctions { ClientCallbacks.zero with
    responsecb := responseCallback, batchingcb := some batchingCallback } .REPORT_CB_TYPE_NONE,
  .updateCallbacks callbacksOption,
  .startBatching ⟨minInterval, minDistance, batchingMode⟩]

def startTripBatchingSession (minInterval tripDistance : UInt32) :
    Callback → Option Callback → List ClientMsg :=
  startBatchingSession .trip minInterval tripDistance
    { LocationCallbacks.none with responseCb := true, batchingCb := true, batchingStatusCb := true }

def startRoutineBatchingSession (minInterval minDistance : UInt32) :
    Callback → Option Callback → List ClientMsg :=
  startBatchingSession .routine minInterval minDistance
    { LocationCallbacks.none with responseCb := true, batchingCb := true }

def stopBatchingSession : List ClientMsg := [.stopBatching]

/-- What `addGeofences` asks for besides the geofences; a null callback for
breaches is refused. -/
def addGeofencesCallbacks (gfBreachCb : Callback) (responseCallback : Option Callback) :
    List ClientMsg := [
  .updateCallbackFunctions { ClientCallbacks.zero with
    collectivecb := responseCallback, gfbreachcb := some gfBreachCb } .REPORT_CB_TYPE_NONE,
  .updateCallbacks { LocationCallbacks.none with
    responseCb := true, collectiveResponseCb := true, geofenceBreachCb := true }]

/-! ## The client -/

structure LocationClientApiImpl where
  (mSessionId mBatchingId mHalRegistered : Bool)
  mCallbacksMask : UInt32
  mLocationOptions : TrackingOptions
  mBatchingOptions : BatchOptions
  mResponseCb : Option Callback
  mPositionSessionResponseCbPending : Bool
  (mCollectiveResCb mLocationCb mBatchingCb mGfBreachCb mGnssLocationCb : Option Callback)
  (mEngLocationsCb mGnssSvCb mGnssNmeaCb mGnssDataCb mGnssMeasurementsCb : Option Callback)
  /-- whether it is set -/
  mLocationSysInfoCb : Bool

/-- Callbacks to callback bits, for a client with these two callbacks. -/
def maskOf (mLocationCb mLocationSysInfoCb : Bool) (callbacks : LocationCallbacks) : UInt32 :=
  let bit (set : Bool) (mask : UInt32) : UInt32 := if set then mask else 0
  bit callbacks.trackingCb E_LOC_CB_DISTANCE_BASED_TRACKING_BIT |||
  bit callbacks.gnssLocationInfoCb (if mLocationCb then E_LOC_CB_SIMPLE_LOCATION_INFO_BIT
      else E_LOC_CB_GNSS_LOCATION_INFO_BIT) |||
  bit callbacks.engineLocationsInfoCb E_LOC_CB_ENGINE_LOCATIONS_INFO_BIT |||
  bit callbacks.gnssSvCb E_LOC_CB_GNSS_SV_BIT |||
  bit callbacks.gnssNmeaCb E_LOC_CB_GNSS_NMEA_BIT |||
  bit callbacks.gnssDataCb E_LOC_CB_GNSS_DATA_BIT |||
  bit callbacks.gnssMeasurementsCb E_LOC_CB_GNSS_MEAS_BIT |||
  -- what is not related to a fix session
  bit mLocationSysInfoCb E_LOC_CB_SYSTEM_INFO_BIT |||
  bit callbacks.batchingCb E_LOC_CB_BATCHING_BIT |||
  bit callbacks.batchingStatusCb E_LOC_CB_BATCHING_STATUS_BIT |||
  bit callbacks.geofenceBreachCb E_LOC_CB_GEOFENCE_BREACH_BIT

namespace LocationClientApiImpl

/-- The constructor. -/
def new : LocationClientApiImpl where
  mSessionId := false
  mBatchingId := false
  mHalRegistered := false
  mCallbacksMask := 0
  mLocationOptions := ⟨0, 0, 0⟩
  mBatchingOptions := .zero
  mResponseCb := none
  mPositionSessionResponseCbPending := false
  mCollectiveResCb := none
  mLocationCb := none
  mBatchingCb := none
  mGfBreachCb := none
  mGnssLocationCb := none
  mEngLocationsCb := none
  mGnssSvCb := none
  mGnssNmeaCb := none
  mGnssDataCb := none
  mGnssMeasurementsCb := none
  mLocationSysInfoCb := false

variable (s : LocationClientApiImpl)

def updateCallbackFunctions (cbs : ClientCallbacks) (reportCbType : ReportCbEnumType) :
    LocationClientApiImpl :=
  let s := { s with
    mResponseCb := cbs.responsecb
    mCollectiveResCb := cbs.collectivecb
    mLocationCb := cbs.locationcb
    mBatchingCb := cbs.batchingcb
    mGfBreachCb := cbs.gfbreachcb }
  match reportCbType with
  | .REPORT_CB_GNSS_INFO => { s with
      mGnssLocationCb := cbs.gnssreportcbs.gnssLocationCallback
      mGnssSvCb := cbs.gnssreportcbs.gnssSvCallback
      mGnssNmeaCb := cbs.gnssreportcbs.gnssNmeaCallback
      mGnssDataCb := cbs.gnssreportcbs.gnssDataCallback
      mGnssMeasurementsCb := cbs.gnssreportcbs.gnssMeasurementsCallback }
  | .REPORT_CB_ENGINE_INFO => { s with
      mEngLocationsCb := cbs.engreportcbs.engLocationsCallback
      mGnssSvCb := cbs.engreportcbs.gnssSvCallback
      mGnssNmeaCb := cbs.engreportcbs.gnssNmeaCallback
      mGnssDataCb := cbs.engreportcbs.gnssDataCallback
      mGnssMeasurementsCb := cbs.engreportcbs.gnssMeasurementsCallback }
  | .REPORT_CB_TYPE_NONE => s

/-- The bits that `updateCallbacks` asks for. -/
def callBacksMask (callbacks : LocationCallbacks) : UInt32 :=
  maskOf s.mLocationCb.isSome s.mLocationSysInfoCb callbacks

def updateCallbacks (callbacks : LocationCallbacks) : LocationClientApiImpl × List Out :=
  let s := { s with mPositionSessionResponseCbPending := true }
  let callBacksMask := s.callBacksMask callbacks
  -- update callback only when changed
  if s.mCallbacksMask ≠ callBacksMask then
    ({ s with mCallbacksMask := callBacksMask },
      if s.mHalRegistered then [.send (.updateCallbacks callBacksMask)] else [])
  else (s, [])

def invokePositionSessionResponseCb (responseCode : LocationResponse) :
    LocationClientApiImpl × List Out :=
  if s.mPositionSessionResponseCbPending then
    ({ s with mPositionSessionResponseCbPending := false },
      s.mResponseCb.elim [] fun cb => [.invoke cb responseCode])
  else (s, [])

def updateTrackingOptionsSync (option : TrackingOptions) : LocationClientApiImpl × List Out :=
  ({ s with mLocationOptions := option },
    if option.passive ∧ ¬ s.mLocationOptions.passive then [.send .stopTracking]
    else if ¬ option.passive ∧ s.mLocationOptions.passive then [.send (.startTracking option)]
    else [.send (.updateTrackingOptions option)])

def startTracking (option : TrackingOptions) : LocationClientApiImpl × List Out :=
  if s.mHalRegistered = false then
    -- the session id is set so that the session can be resumed
    ({ s with mLocationOptions := option, mSessionId := true }, [])
  else if s.mSessionId = false then
    ({ s with mLocationOptions := option, mSessionId := true },
      if option.passive then [] else [.send (.startTracking option)])
  else if s.mLocationOptions ≠ option then s.updateTrackingOptionsSync option
  else s.invokePositionSessionResponseCb .LOCATION_RESPONSE_SUCCESS

def sysInfoMask : UInt32 := if s.mLocationSysInfoCb then E_LOC_CB_SYSTEM_INFO_BIT else 0

def stopTracking : LocationClientApiImpl × List Out :=
  if s.mSessionId then
    ({ s with
        mLocationOptions := { s.mLocationOptions with minInterval := 0, minDistance := 0 }
        mCallbacksMask := s.sysInfoMask
        mSessionId := false },
      if s.mHalRegistered ∧ ¬ s.mLocationOptions.passive then [.send .stopTracking] else [])
  else (s, [])

/-- What is asked of the message task, if the options are not those that are
stored. -/
def updateBatchingOptions (batchOptions : BatchOptions) : List Out :=
  if s.mBatchingOptions ≠ batchOptions then [.post (.updateBatchingOptions batchOptions)] else []

def startBatching (batchOptions : BatchOptions) : LocationClientApiImpl × List Out :=
  let s := { s with mBatchingOptions := batchOptions }
  if s.mHalRegistered = false then (s, [])
  else if s.mSessionId = false then
    ({ s with mBatchingId := true }, [.send (.startBatching s.mBatchingOptions)])
  else (s, s.updateBatchingOptions batchOptions)

def stopBatching : LocationClientApiImpl × List Out :=
  if s.mBatchingId then
    ({ s with mBatchingOptions := .zero, mBatchingId := false }, [.send .stopBatching])
  else (s, [])

def capabilitesCallback : LocationClientApiImpl × List Out :=
  let s := { s with mHalRegistered := true }
  let update : List Out :=
    if s.mCallbacksMask ≠ 0 then [.send (.updateCallbacks s.mCallbacksMask)] else []
  -- the session is resumed if the daemon was restarted in the middle of it
  if s.mSessionId then
    ({ s with mSessionId := false }, update ++ [.post (.startTracking s.mLocationOptions)])
  else (s, update)

/-- The message task takes a message. -/
def proc : ClientMsg → LocationClientApiImpl × List Out
  | .updateCallbackFunctions cbs reportCbType => (s.updateCallbackFunctions cbs reportCbType, [])
  | .updateCallbacks callbacks => s.updateCallbacks callbacks
  | .startTracking option => s.startTracking option
  | .stopTracking => s.stopTracking
  | .startBatching batchOptions => s.startBatching batchOptions
  | .updateBatchingOptions batchOptions =>
    ({ s with mBatchingOptions := batchOptions }, [.send (.updateBatchingOptions batchOptions)])
  | .stopBatching => s.stopBatching
  | .capabilities => s.capabilitesCallback
  | .halReady => ({ s with mHalRegistered := false }, [.post .clientRegister])
  | .clientRegister => (s, [.send .clientRegister])
  | .response msgId err =>
    if msgId ≠ .E_LOCAPI_STOP_TRACKING_MSG_ID then s.invokePositionSessionResponseCb err
    else (s, [])

/-- The messages one after the other, for what they leave of the client. -/
def procAll (msgs : List ClientMsg) : LocationClientApiImpl :=
  msgs.foldl (fun s msg => (s.proc msg).1) s

variable {s} {callbacks : LocationCallbacks}

theorem updateCallbacks_of_ne (h : s.mCallbacksMask ≠ s.callBacksMask callbacks) :
    s.updateCallbacks callbacks = ({ s with
          mPositionSessionResponseCbPending := true
          mCallbacksMask := s.callBacksMask callbacks },
        if s.mHalRegistered then [.send (.updateCallbacks (s.callBacksMask callbacks))] else []) :=
  if_pos h

theorem updateCallbacks_of_eq (h : s.mCallbacksMask = s.callBacksMask callbacks) :
    s.updateCallbacks callbacks = ({ s with mPositionSessionResponseCbPending := true }, []) :=
  if_neg (not_not.mpr h)

theorem updateCallbacks_fst (callbacks : LocationCallbacks) : (s.updateCallbacks callbacks).1 =
      { s with
        mPositionSessionResponseCbPending := true
        mCallbacksMask := s.callBacksMask callbacks } := by
  by_cases hsame : s.mCallbacksMask = s.callBacksMask callbacks
  · rw [updateCallbacks_of_eq hsame, ← hsame]
  · rw [updateCallbacks_of_ne hsame]

end LocationClientApiImpl

/-! ## The daemon -/

/-- What one incarnation of the daemon keeps for the client. -/
structure DaemonClient where
  mSubscriptionMask : UInt32
  /-- the options of the session, while there is one -/
  tracking : Option TrackingOptions
  batching : Option BatchOptions

namespace DaemonClient

def new : DaemonClient := ⟨0, none, none⟩

variable (d : DaemonClient)

/-- A request of the client, as LocationApiService serves it. -/
def serve : DaemonRequest → DaemonClient
  | .clientRegister => d
  | .updateCallbacks locationCallbacks => { d with mSubscriptionMask := locationCallbacks }
  | .startTracking locOptions =>
    if d.tracking = none then { d with tracking := some locOptions } else d
  | .updateTrackingOptions locOptions =>
    if d.tracking ≠ none then { d with tracking := some locOptions } else d
  | .stopTracking => { d with
      mSubscriptionMask := d.mSubscriptionMask &&& ~~~LOCATION_SESSON_ALL_INFO_MASK
      tracking := none }
  | .startBatching options =>
    if d.batching = none then { d with batching := some options } else d
  | .updateBatchingOptions options =>
    if d.batching ≠ none then { d with batching := some options } else d
  | .stopBatching => { d with mSubscriptionMask := 0, batching := none }

/-- What a client sends, in this order. -/
def receive (outs : List Out) : DaemonClient :=
  outs.foldl (fun d out => match out with
    | .send request => d.serve request
    | .post _ | .invoke _ _ => d) d

end DaemonClient

/-- The messages among the outputs of the task. -/
def posts (outs : List Out) : List ClientMsg :=
  outs.filterMap fun out => match out with
    | .post msg => some msg
    | .send _ | .invoke _ _ => none

end LocStack.ClientApi
