/-
# `LocStack.Batching.Model` — the batching sessions of BatchingAdapter.cpp

The sessions are in `mBatchingSessions`, under their keys and with the
options they were given.  All trip sessions share one outdoor trip batch of
the engine, and each has besides an entry in `mTripSessions`, by session id:

    accumulatedDistanceOngoingBatch    the counter of the batch when the
                                       session joined it
    accumulatedDistanceOnTripRestart   what it had covered before the batch
    accumulatedDistanceThisTrip        what was last known of all that

The engine's batch has one distance and one interval, which the adapter
keeps as `mOngoingTripDistance` and `mOngoingTripTBFInterval`; a restart of
the batch sets its counter back to 0.

The message thread processes messages and the responses of LocApi one at a
time.  Every call carries a closure over what it captures, and is answered
in whatever order and however many messages later; the engine does what the
call asks for when it answers.  `moved` moves the vehicle, which only a
running batch counts.  Distances and intervals are of 32 bits, and wrap.
Left out are the reports of locations, and the timeout, accuracy and batch
sizes, which are handed through.
-/
import LocStack.Tracking.Model

namespace LocStack.Batching

open Adapter (EngineLockState)
open Tracking (GnssSuplMode LocationError LocationSessionKey)

/-! ## The types -/

inductive BatchingMode where
  | routine | trip | noAutoReport
  /-- a value above BATCHING_MODE_NO_AUTO_REPORT -/
  | other
  deriving DecidableEq

structure BatchingOptions where
  size : UInt32
  /-- in milliseconds -/
  minInterval : UInt32
  /-- in meters -/
  minDistance : UInt32
  mode : GnssSuplMode
  locReqEngTypeMask : UInt32
  batchingMode : BatchingMode
  deriving DecidableEq

/-- As `BatchingOptions()` leaves them. -/
def BatchingOptions.default : BatchingOptions where
  size := 0
  minInterval := 0
  minDistance := 0
  mode := .standalone
  locReqEngTypeMask := 0
  batchingMode := .routine

structure TripSessionStatus where
  (accumulatedDistanceOngoingBatch accumulatedDistanceThisTrip : UInt32)
  (accumulatedDistanceOnTripRestart tripDistance tripTBFInterval : UInt32)

/-- Of LocationCallbacks, those that batching asks about. -/
structure LocationCallbacks where
  (batchingCb batchingStatusCb responseCb : Bool)

inductive BatchingMsg where
  | startBatching (key : LocationSessionKey) (options : BatchingOptions)
  | updateBatching (key : LocationSessionKey) (options : BatchingOptions)
  | stopBatching (key : LocationSessionKey)

/-- The closures handed to LocApi, with what they capture.  Those of calls
that give the engine a distance and an interval come with these. -/
inductive ResponseFn where
  /-- `[] (LocationError) {}`, of a call about a routine session -/
  | ignore
  /-- of `startBatching` -/
  | startBatching (key : LocationSessionKey) (options : BatchingOptions)
      (pendingMsg : Option BatchingMsg)
  /-- of `stopBatching` -/
  | stopBatching (key : LocationSessionKey) (flpOptions : BatchingOptions) (restartNeeded : Bool)
      (batchOptions : BatchingOptions)
  /-- of `startOutdoorTripBatching` in `startTripBatchingMultiplex` -/
  | startTrip (key : LocationSessionKey) (options : BatchingOptions)
  /-- of `queryAccumulatedTripDistance` there -/
  | joinTrip (key : LocationSessionKey) (options : BatchingOptions)
  /-- of `reStartOutdoorTripBatching` there -/
  | joinedTrip (key : LocationSessionKey)
  /-- of `stopOutdoorTripBatching` in `stopTripBatchingMultiplex` -/
  | stopTrip (key : LocationSessionKey) (restartNeeded : Bool) (batchOptions : BatchingOptions)
  /-- of `stopOutdoorTripBatching` in `restartTripBatching` -/
  | stopLastTrip
  /-- of `queryAccumulatedTripDistance` there -/
  | queryTrips (queryAccumulatedDistance : Bool) (minRemainingDistance minTBFInterval : UInt32)
      (accDist : UInt32)
  /-- of `reStartOutdoorTripBatching` there -/
  | restartTrips (accumulatedDistance ongoingTripDistance ongoingTripInterval : UInt32)
  /-- of `startOutdoorTripBatching` in `restartSessions` -/
  | restartSessions

inductive Output where
  /-- `responseCb` -/
  | response (client : Nat) (err : LocationError) (sessionId : Nat)
  /-- `batchingStatusCb`, with the trips completed -/
  | tripsCompleted (client : Nat) (sessionIds : List Nat)
  /-- A parked message is sent again. -/
  | resent (msg : BatchingMsg)

/-! ## The engine -/

/-- The outdoor trip batch. -/
structure TripBatch where
  running : Bool
  accumulatedDistance : UInt32
  /-- What startOutdoorTripBatching or reStartOutdoorTripBatching was last
  called with. -/
  tripDistance : UInt32
  tripTBFInterval : UInt32

namespace TripBatch

def start (b : TripBatch) : TripBatch := { b with running := true, accumulatedDistance := 0 }

def stop (b : TripBatch) : TripBatch := { b with running := false, accumulatedDistance := 0 }

def move (b : TripBatch) (distance : UInt32) : TripBatch :=
  if b.running then { b with accumulatedDistance := b.accumulatedDistance + distance } else b

/-- The engine does what a call asks for.  reStartOutdoorTripBatching stops
the batch before it starts it. -/
def answer (b : TripBatch) (fn : ResponseFn) (err : LocationError) : TripBatch :=
  match fn with
  | .startTrip _ _ => if err = .success then b.start else b
  | .restartSessions => if err = .success then b.start else b
  | .joinedTrip _ => if err = .success then b.start else b.stop
  | .restartTrips _ _ _ => if err = .success then b.start else b.stop
  | .stopTrip _ _ _ => if err = .success then b.stop else b
  | .stopLastTrip => if err = .success then b.stop else b
  | _ => b

end TripBatch

/-! ## A trip session and the counter of the batch -/

namespace TripSessionStatus

/-- What the session is found to have covered at this value of the counter. -/
def count (status : TripSessionStatus) (accumulatedDistance : UInt32) : TripSessionStatus :=
  { status with
    accumulatedDistanceThisTrip := status.accumulatedDistanceOnTripRestart +
      (accumulatedDistance - status.accumulatedDistanceOngoingBatch) }

def completed (status : TripSessionStatus) : Bool :=
  decide (status.tripDistance ≤ status.accumulatedDistanceThisTrip)

/-- What a restart of the batch, at this value of its counter, makes of it. -/
def restart (status : TripSessionStatus) (accumulatedDistance : UInt32) : TripSessionStatus :=
  let thisTrip := status.accumulatedDistanceOnTripRestart +
    (accumulatedDistance - status.accumulatedDistanceOngoingBatch)
  { status with
    accumulatedDistanceThisTrip := thisTrip
    accumulatedDistanceOngoingBatch := 0
    accumulatedDistanceOnTripRestart := thisTrip }

/-- What a restart for a new trip makes of it. -/
def rejoin (status : TripSessionStatus) : TripSessionStatus :=
  { status with
    accumulatedDistanceOngoingBatch := 0
    accumulatedDistanceOnTripRestart := status.accumulatedDistanceThisTrip }

end TripSessionStatus

/-! ## The adapter -/

abbrev BatchingSessionMap := Std.TreeMap LocationSessionKey BatchingOptions

abbrev TripSessionStatusMap := Std.TreeMap Nat TripSessionStatus

structure BatchingAdapter where
  mClientData : Std.TreeMap Nat LocationCallbacks
  mBatchingSessions : BatchingSessionMap
  mTripSessions : TripSessionStatusMap
  (mOngoingTripDistance mOngoingTripTBFInterval : UInt32)
  (mTripWithOngoingTBFDropped mTripWithOngoingTripDistanceDropped : Bool)
  /-- LOC_API_ADAPTER_BIT_BATCH_FULL is set in `mEvtMask`. -/
  batchFull : Bool
  engineCapabilitiesKnown : Bool
  /-- Of LOC_API_ADAPTER_MESSAGE_DISTANCE_BASE_LOCATION_BATCHING. -/
  isMessageSupported : Bool
  engineLockState : EngineLockState
  (mPendingMsgs mPendingGnssEnabledMsgs : List BatchingMsg)
  /-- The calls not yet answered. -/
  unanswered : List ResponseFn
  engine : TripBatch

namespace BatchingAdapter

/-- Once the engine is up. -/
def new : BatchingAdapter where
  mClientData := ∅
  mBatchingSessions := ∅
  mTripSessions := ∅
  mOngoingTripDistance := 0
  mOngoingTripTBFInterval := 0
  mTripWithOngoingTBFDropped := false
  mTripWithOngoingTripDistanceDropped := false
  batchFull := false
  engineCapabilitiesKnown := true
  isMessageSupported := true
  engineLockState := .enabled
  mPendingMsgs := []
  mPendingGnssEnabledMsgs := []
  unanswered := []
  engine := ⟨false, 0, 0, 0⟩

/-! ### Utilities -/

def hasBatchingCallback (s : BatchingAdapter) (client : Nat) : Bool :=
  s.mClientData[client]?.any LocationCallbacks.batchingCb

def isBatchingSession (s : BatchingAdapter) (key : LocationSessionKey) : Bool :=
  s.mBatchingSessions.contains key

def isTripSession (s : BatchingAdapter) (sessionId : Nat) : Bool :=
  s.mTripSessions.contains sessionId

theorem size_eq_zero_iff (s : BatchingAdapter) :
    s.mTripSessions.size = 0 ↔ ∀ id, id ∉ s.mTripSessions := by
  rw [← beq_iff_eq, ← Std.TreeMap.isEmpty_eq_size_eq_zero, Std.TreeMap.isEmpty_iff_forall_not_mem]

def saveBatchingSession (s : BatchingAdapter) (key : LocationSessionKey)
    (options : BatchingOptions) : BatchingAdapter :=
  { s with mBatchingSessions := s.mBatchingSessions.insert key options }

def eraseBatchingSession (s : BatchingAdapter) (key : LocationSessionKey) : BatchingAdapter :=
  { s with mBatchingSessions := s.mBatchingSessions.erase key }

theorem getElem?_saveBatchingSession (s : BatchingAdapter) (key : LocationSessionKey)
    (options : BatchingOptions) (key' : LocationSessionKey) :
    (s.saveBatchingSession key options).mBatchingSessions[key']? =
      if key = key' then some options else s.mBatchingSessions[key']? := by
  rw [saveBatchingSession, Std.TreeMap.getElem?_insert]
  simp only [Std.compare_eq_iff_eq]

theorem getElem?_eraseBatchingSession (s : BatchingAdapter) (key key' : LocationSessionKey) :
    (s.eraseBatchingSession key).mBatchingSessions[key']? =
      if key = key' then none else s.mBatchingSessions[key']? := by
  rw [eraseBatchingSession, Std.TreeMap.getElem?_erase]
  simp only [Std.compare_eq_iff_eq]

def reportResponse (s : BatchingAdapter) (client : Nat) (err : LocationError)
    (sessionId : Nat) : List Output :=
  if s.mClientData[client]?.any LocationCallbacks.responseCb then
    [.response client err sessionId]
  else []

/-- Trips count in both maps. -/
def autoReportBatchingSessionsCount (s : BatchingAdapter) : Nat :=
  s.mBatchingSessions.toList.countP (·.2.batchingMode ≠ .noAutoReport) + s.mTripSessions.size

/-- A call that the engine has yet to answer. -/
def call (s : BatchingAdapter) (fn : ResponseFn) : BatchingAdapter :=
  { s with unanswered := s.unanswered ++ [fn] }

/-- startOutdoorTripBatching and reStartOutdoorTripBatching. -/
def callTrip (s : BatchingAdapter) (tripDistance tripTBFInterval : UInt32) (fn : ResponseFn) :
    BatchingAdapter :=
  { s with
    engine := { s.engine with tripDistance := tripDistance, tripTBFInterval := tripTBFInterval }
    unanswered := s.unanswered ++ [fn] }

/-- `if (0 == autoReportBatchingSessionsCount())`, the event is registered. -/
def registerIfNone (s : BatchingAdapter) : BatchingAdapter :=
  if s.autoReportBatchingSessionsCount = 0 then { s with batchFull := true } else s

/-- The same for the opposite. -/
def unregisterIfNone (s : BatchingAdapter) : BatchingAdapter :=
  if s.autoReportBatchingSessionsCount = 0 then { s with batchFull := false } else s

theorem registerIfNone_eq (s : BatchingAdapter) : s.registerIfNone =
      { s with batchFull := s.batchFull || decide (s.autoReportBatchingSessionsCount = 0) } := by
  rw [registerIfNone]
  split
  · rename_i hnone
    simp only [hnone, decide_true, Bool.or_true]
  · rename_i hsome
    simp only [hsome, decide_false, Bool.or_false]

theorem unregisterIfNone_eq (s : BatchingAdapter) : s.unregisterIfNone =
      { s with batchFull := s.batchFull && decide (s.autoReportBatchingSessionsCount ≠ 0) } := by
  rw [unregisterIfNone]
  split
  · rename_i hnone
    simp only [hnone, ne_eq, not_true_eq_false, decide_false, Bool.and_false]
  · rename_i hsome
    simp only [ne_eq, hsome, not_false_eq_true, decide_true, Bool.and_true]

/-! ### Trip distances -/

/-- One round of the loops that look for the smallest remaining distance and
the smallest interval; 0 stands for none so far. -/
def recordMin (min : UInt32 × UInt32) (status : TripSessionStatus) : UInt32 × UInt32 :=
  let remaining := status.tripDistance - status.accumulatedDistanceThisTrip
  (if min.1 = 0 ∨ remaining < min.1 then remaining else min.1,
    if min.2 = 0 ∨ status.tripTBFInterval < min.2 then status.tripTBFInterval else min.2)

/-- Over all trip sessions. -/
def recordMins (s : BatchingAdapter) : UInt32 × UInt32 :=
  (s.mTripSessions.toList.map Prod.snd).foldl recordMin (0, 0)

def restartTripBatching (s : BatchingAdapter) (queryAccumulatedDistance : Bool)
    (accDist : UInt32) : BatchingAdapter :=
  if s.mTripSessions.size = 0 then
    { s.call .stopLastTrip with
      mOngoingTripDistance := 0, mOngoingTripTBFInterval := 0 }.unregisterIfNone
  else
    let min := s.recordMins
    s.call (.queryTrips queryAccumulatedDistance min.1 min.2 accDist)

/-- The distance for the batch, and whether it is to be restarted for it. -/
def distanceForTrips (s : BatchingAdapter) (minRemainingDistance accumulatedDistance : UInt32) :
    UInt32 × Bool :=
  if s.mTripWithOngoingTripDistanceDropped = false ∧
      s.mOngoingTripDistance - accumulatedDistance ≠ 0 then
    if minRemainingDistance < s.mOngoingTripDistance - accumulatedDistance then
      (minRemainingDistance, true)
    else (s.mOngoingTripDistance, false)
  else if minRemainingDistance ≠ 0 then (minRemainingDistance, true)
  else (s.mOngoingTripDistance, false)

/-- The interval for the batch, and whether it is to be restarted for it. -/
def intervalForTrips (s : BatchingAdapter) (minTBFInterval : UInt32) : UInt32 × Bool :=
  if minTBFInterval < s.mOngoingTripTBFInterval ∨
      (minTBFInterval ≠ s.mOngoingTripTBFInterval ∧ s.mTripWithOngoingTBFDropped = true) then
    (minTBFInterval, true)
  else (s.mOngoingTripTBFInterval, false)

/-- The batch is restarted if its distance or its interval is to change. -/
def restartForTrips (s : BatchingAdapter)
    (minRemainingDistance minTBFInterval accumulatedDistance : UInt32) : BatchingAdapter :=
  let distance := s.distanceForTrips minRemainingDistance accumulatedDistance
  let interval := s.intervalForTrips minTBFInterval
  if distance.2 || interval.2 then
    s.callTrip distance.1 interval.1 (.restartTrips accumulatedDistance distance.1 interval.1)
  else s

/-- `data` is what the query returned. -/
def queryTripsResponse (s : BatchingAdapter) (queryAccumulatedDistance : Bool)
    (minRemainingDistance minTBFInterval accDist data : UInt32) : BatchingAdapter :=
  s.restartForTrips minRemainingDistance minTBFInterval
    (if queryAccumulatedDistance then data else accDist)

def restartTripsResponse (s : BatchingAdapter)
    (accumulatedDistance ongoingTripDistance ongoingTripInterval : UInt32) (err : LocationError) :
    BatchingAdapter :=
  if err = .success then
    { s with
      mTripSessions := s.mTripSessions.map fun _ status => status.restart accumulatedDistance
      mOngoingTripDistance := ongoingTripDistance
      mOngoingTripTBFInterval := ongoingTripInterval }
  else s

/-! ### Starting a session -/

def startBatching (s : BatchingAdapter) (key : LocationSessionKey) (options : BatchingOptions)
    (pendingMsg : Option BatchingMsg) : BatchingAdapter :=
  let s := if options.batchingMode ≠ .noAutoReport then s.registerIfNone else s
  (s.saveBatchingSession key options).call (.startBatching key options pendingMsg)

def startBatchingResponse (s : BatchingAdapter) (key : LocationSessionKey)
    (options : BatchingOptions) (pendingMsg : Option BatchingMsg) (err : LocationError) :
    BatchingAdapter × List Output :=
  let s :=
    if s.engineLockState = .enabled ∧ err ≠ .success then s.eraseBatchingSession key else s
  let s :=
    if err ≠ .success ∧ options.batchingMode ≠ .noAutoReport then s.unregisterIfNone else s
  let s :=
    if err = .gnssDisabled then
      { s with mPendingGnssEnabledMsgs := s.mPendingGnssEnabledMsgs ++ pendingMsg.toList }
    else s
  (s, s.reportResponse key.client err key.id)

def saveTrip (s : BatchingAdapter) (sessionId : Nat) (options : BatchingOptions)
    (accumulatedDistanceOngoingBatch : UInt32) : BatchingAdapter :=
  { s with
    mTripSessions := s.mTripSessions.insert sessionId
      ⟨accumulatedDistanceOngoingBatch, 0, 0, options.minDistance, options.minInterval⟩ }

def startTripBatchingMultiplex (s : BatchingAdapter) (key : LocationSessionKey)
    (options : BatchingOptions) : BatchingAdapter :=
  if s.mTripSessions.size = 0 then
    ((s.registerIfNone.saveBatchingSession key options).saveTrip key.id options 0).callTrip
      options.minDistance options.minInterval (.startTrip key options)
  else s.call (.joinTrip key options)

def startTripResponse (s : BatchingAdapter) (key : LocationSessionKey)
    (options : BatchingOptions) (err : LocationError) : BatchingAdapter × List Output :=
  let s :=
    if s.engineLockState = .disabled ∨ err = .success then
      { s with
        mOngoingTripDistance := options.minDistance
        mOngoingTripTBFInterval := options.minInterval }
    else
      { s.eraseBatchingSession key with
        mTripSessions := s.mTripSessions.erase key.id }.unregisterIfNone
  (s, s.reportResponse key.client err key.id)

/-- What the batch has to be restarted with for a new trip, if at all. -/
def restartForTrip (s : BatchingAdapter) (options : BatchingOptions) (err : LocationError)
    (accumulatedDistance : UInt32) : Option (UInt32 × UInt32) :=
  let shorter := options.minInterval < s.mOngoingTripTBFInterval
  let interval := if shorter then options.minInterval else s.mOngoingTripTBFInterval
  -- unable to query accumulated distance, assume remaining distance in
  -- ongoing batch is mongoingTripDistance.
  let remaining :=
    if err = .success then s.mOngoingTripDistance - accumulatedDistance
    else s.mOngoingTripDistance
  if options.minDistance < remaining then some (options.minDistance, interval)
  else if shorter then some (remaining, interval)
  else none

def rejoinAll (s : BatchingAdapter) (distance interval : UInt32) : BatchingAdapter :=
  { s with
    mOngoingTripDistance := distance
    mOngoingTripTBFInterval := interval
    mTripSessions := s.mTripSessions.map fun _ status => status.rejoin }

def joinTripResponse (s : BatchingAdapter) (key : LocationSessionKey)
    (options : BatchingOptions) (err : LocationError) (data : UInt32) :
    BatchingAdapter × List Output :=
  let t := if err = .success then s.saveTrip key.id options data else s
  match s.restartForTrip options err data with
  | some (distance, interval) =>
    ((t.rejoinAll distance interval).callTrip distance interval (.joinedTrip key), [])
  | none => (t, t.reportResponse key.client .success key.id)

/-- The session that an update is restarted as. -/
def restartAs (s : BatchingAdapter) (key : LocationSessionKey) (options : BatchingOptions) :
    BatchingAdapter :=
  match options.batchingMode with
  | .routine => s.startBatching key options none
  | .noAutoReport => s.startBatching key options none
  | .trip => s.startTripBatchingMultiplex key options
  | .other => s

/-! ### Stopping a session -/

def stopBatching (s : BatchingAdapter) (key : LocationSessionKey) (restartNeeded : Bool)
    (batchOptions : BatchingOptions) : BatchingAdapter :=
  match s.mBatchingSessions[key]? with
  | none => s
  | some flpOptions =>
    (s.eraseBatchingSession key).call (.stopBatching key flpOptions restartNeeded batchOptions)

def stopBatchingResponse (s : BatchingAdapter) (key : LocationSessionKey)
    (flpOptions : BatchingOptions) (restartNeeded : Bool) (batchOptions : BatchingOptions)
    (err : LocationError) : BatchingAdapter × List Output :=
  let s :=
    if s.engineLockState = .enabled ∧ err ≠ .success then
      s.saveBatchingSession key batchOptions
    else
      let s := if flpOptions.batchingMode ≠ .noAutoReport then s.unregisterIfNone else s
      if restartNeeded then s.restartAs key batchOptions else s
  (s, s.reportResponse key.client err key.id)

/-- What is read of a session that `find` does not find counts as zeros. -/
def dropTrip (s : BatchingAdapter) (sessionId : Nat) : BatchingAdapter :=
  let tripSess := s.mTripSessions[sessionId]?.getD ⟨0, 0, 0, 0, 0⟩
  { s with
    mTripWithOngoingTBFDropped :=
      s.mTripWithOngoingTBFDropped || decide (tripSess.tripTBFInterval = s.mOngoingTripTBFInterval)
    mTripWithOngoingTripDistanceDropped :=
      s.mTripWithOngoingTripDistanceDropped ||
        decide (tripSess.tripDistance = s.mOngoingTripDistance)
    mTripSessions := s.mTripSessions.erase sessionId }

def restartRemaining (s : BatchingAdapter) : BatchingAdapter :=
  if s.mTripSessions.size = 0 then
    { s with mOngoingTripDistance := 0, mOngoingTripTBFInterval := 0 }
  else s.restartTripBatching true 0

def stopTripBatchingMultiplexCommon (s : BatchingAdapter) (err : LocationError)
    (key : LocationSessionKey) (restartNeeded : Bool) (batchOptions : BatchingOptions) :
    BatchingAdapter × List Output :=
  let t := (s.dropTrip key.id).restartRemaining
  let t := if restartNeeded then (t.eraseBatchingSession key).restartAs key batchOptions else t
  (t, t.reportResponse key.client err key.id)

def stopTripBatchingMultiplex (s : BatchingAdapter) (key : LocationSessionKey)
    (restartNeeded : Bool) (batchOptions : BatchingOptions) : BatchingAdapter × List Output :=
  if s.mTripSessions.size = 1 then (s.call (.stopTrip key restartNeeded batchOptions), [])
  else s.stopTripBatchingMultiplexCommon .success key restartNeeded batchOptions

/-- A trip counts in both maps, so that the one being stopped is never alone
with 1. -/
def stopTripResponse (s : BatchingAdapter) (key : LocationSessionKey) (restartNeeded : Bool)
    (batchOptions : BatchingOptions) (err : LocationError) : BatchingAdapter × List Output :=
  let s :=
    if err = .success ∧ s.autoReportBatchingSessionsCount = 1 then { s with batchFull := false }
    else s
  s.stopTripBatchingMultiplexCommon err key restartNeeded batchOptions

/-! ### Messages -/

def procStartBatching (s : BatchingAdapter) (key : LocationSessionKey)
    (options : BatchingOptions) : BatchingAdapter × List Output :=
  let msg := BatchingMsg.startBatching key options
  if s.engineCapabilitiesKnown = false then
    ({ s with mPendingMsgs := s.mPendingMsgs ++ [msg] }, [])
  else if s.hasBatchingCallback key.client = true ∧ options.size ≠ 0 ∧
      s.isMessageSupported = true then
    match options.batchingMode with
    | .routine => (s.startBatching key options (some msg), [])
    | .noAutoReport => (s.startBatching key options (some msg), [])
    | .trip => (s.startTripBatchingMultiplex key options, [])
    | .other => (s, s.reportResponse key.client .invalidParameter key.id)
  -- the error is not reported
  else (s, [])

def procUpdateBatching (s : BatchingAdapter) (key : LocationSessionKey)
    (options : BatchingOptions) : BatchingAdapter × List Output :=
  if s.engineCapabilitiesKnown = false then
    ({ s with mPendingMsgs := s.mPendingMsgs ++ [.updateBatching key options] }, [])
  else if s.isBatchingSession key = true ∧ options.size ≠ 0 ∧ options.batchingMode ≠ .other then
    if s.isTripSession key.id = true then s.stopTripBatchingMultiplex key true options
    else (s.stopBatching key true options, [])
  else (s, [])

def procStopBatching (s : BatchingAdapter) (key : LocationSessionKey) :
    BatchingAdapter × List Output :=
  if s.engineCapabilitiesKnown = false then
    ({ s with mPendingMsgs := s.mPendingMsgs ++ [.stopBatching key] }, [])
  else if s.isBatchingSession key = true then
    if s.isTripSession key.id = true then s.stopTripBatchingMultiplex key false .default
    else (s.stopBatching key false .default, [])
  else (s, [])

def proc (s : BatchingAdapter) : BatchingMsg → BatchingAdapter × List Output
  | .startBatching key options => s.procStartBatching key options
  | .updateBatching key options => s.procUpdateBatching key options
  | .stopBatching key => s.procStopBatching key

def completedTrips (s : BatchingAdapter) (accumulatedDistance : UInt32) : TripSessionStatusMap :=
  (s.mTripSessions.map fun _ status => status.count accumulatedDistance).filter
    fun _ status => status.completed

/-- The loop over the trips.  The reference to a session that is erased is
used after it. -/
def countTrips (s : BatchingAdapter) (accumulatedDistance : UInt32) : BatchingAdapter :=
  let statuses := (s.completedTrips accumulatedDistance).toList.map Prod.snd
  { s with
    mTripSessions :=
      (s.mTripSessions.map fun _ status => status.count accumulatedDistance).filter
        fun _ status => !status.completed
    mTripWithOngoingTBFDropped := s.mTripWithOngoingTBFDropped ||
      statuses.any (·.tripTBFInterval = s.mOngoingTripTBFInterval)
    mTripWithOngoingTripDistanceDropped := s.mTripWithOngoingTripDistanceDropped ||
      statuses.any (·.tripDistance = s.mOngoingTripDistance) }

def reportCompletedTrips (s : BatchingAdapter) (accumulatedDistance : UInt32) :
    BatchingAdapter × List Output :=
  if (s.completedTrips accumulatedDistance).isEmpty then (s.countTrips accumulatedDistance, [])
  else
    ((s.countTrips accumulatedDistance).restartTripBatching false accumulatedDistance,
      (s.mClientData.toList.filter (·.2.batchingStatusCb)).map fun client =>
        .tripsCompleted client.1 (s.completedTrips accumulatedDistance).keys)

/-! ### Clients, engine lock, engine up -/

def updateClientsEventMask (s : BatchingAdapter) : BatchingAdapter :=
  { s with batchFull := decide (0 < s.autoReportBatchingSessionsCount) }

def stopClientSession (s : BatchingAdapter × List Output) (key : LocationSessionKey)
    (mode : BatchingMode) : BatchingAdapter × List Output :=
  if mode ≠ .trip then (s.1.stopBatching key false .default, s.2)
  else
    let t := s.1.stopTripBatchingMultiplex key false .default
    (t.1, s.2 ++ t.2)

def stopClientSessions (s : BatchingAdapter) (client : Nat) : BatchingAdapter × List Output :=
  let sessions := s.mBatchingSessions.toList.filter (·.1.client = client)
  sessions.foldl (fun s entry => stopClientSession s entry.1 entry.2.batchingMode) (s, [])

def removeClient (s : BatchingAdapter) (client : Nat) : BatchingAdapter × List Output :=
  let t := s.stopClientSessions client
  ({ t.1 with mClientData := t.1.mClientData.erase client }.updateClientsEventMask, t.2)

def handleEngineLockStatus (s : BatchingAdapter) (state : EngineLockState) :
    BatchingAdapter × List Output :=
  let s := { s with engineLockState := state }
  if state = .enabled then
    ({ s with mPendingGnssEnabledMsgs := [] }, s.mPendingGnssEnabledMsgs.map .resent)
  else (s, [])

def restartRoutines (s : BatchingAdapter) : BatchingAdapter :=
  let routines := s.mBatchingSessions.toList.filter (·.2.batchingMode ≠ .trip)
  { s with unanswered := s.unanswered ++ routines.map fun _ => .ignore }

/-- The loop over the trips is over copies: that it resets
`accumulatedDistanceOngoingBatch` is lost. -/
def restartTrips (s : BatchingAdapter) : BatchingAdapter :=
  if 0 < s.mTripSessions.size then
    let min := s.recordMins
    { s with
      mOngoingTripDistance := min.1
      mOngoingTripTBFInterval := min.2 }.callTrip min.1 min.2 .restartSessions
  else s

def restartSessions (s : BatchingAdapter) : BatchingAdapter :=
  let s :=
    if 0 < s.autoReportBatchingSessionsCount then { s with batchFull := true } else s
  s.restartRoutines.restartTrips

def restartSessionsResponse (s : BatchingAdapter) (err : LocationError) : BatchingAdapter :=
  if err ≠ .success then { s with mOngoingTripDistance := 0, mOngoingTripTBFInterval := 0 } else s

/-- The modem has restarted, without the batch. -/
def handleEngineUpEvent (s : BatchingAdapter) : BatchingAdapter × List Output :=
  let s := { s with engine := s.engine.stop, engineCapabilitiesKnown := true }
  if s.engineLockState = .enabled then
    ({ s.restartSessions with mPendingMsgs := [] }, s.mPendingMsgs.map .resent)
  else (s, [])

/-! ### Steps -/

def respond (s : BatchingAdapter) (fn : ResponseFn) (err : LocationError) (data : UInt32) :
    BatchingAdapter × List Output :=
  match fn with
  | .ignore => (s, [])
  | .startBatching key options pendingMsg => s.startBatchingResponse key options pendingMsg err
  | .stopBatching key flpOptions restartNeeded batchOptions =>
    s.stopBatchingResponse key flpOptions restartNeeded batchOptions err
  | .startTrip key options => s.startTripResponse key options err
  | .joinTrip key options => s.joinTripResponse key options err data
  | .joinedTrip key => (s, s.reportResponse key.client err key.id)
  | .stopTrip key restartNeeded batchOptions =>
    s.stopTripResponse key restartNeeded batchOptions err
  | .stopLastTrip => (s, [])
  | .queryTrips queryAccumulatedDistance minRemainingDistance minTBFInterval accDist =>
    (s.queryTripsResponse queryAccumulatedDistance minRemainingDistance minTBFInterval accDist
      data, [])
  | .restartTrips accumulatedDistance distance interval =>
    (s.restartTripsResponse accumulatedDistance distance interval err, [])
  | .restartSessions => (s.restartSessionsResponse err, [])

/-- What a query returns: where it failed, whatever was in `data`. -/
def queried (s : BatchingAdapter) (err : LocationError) (data : UInt32) : UInt32 :=
  if err = .success then s.engine.accumulatedDistance else data

end BatchingAdapter

inductive BatchingEvent where
  | addClient (client : Nat) (callbacks : LocationCallbacks)
  | removeClient (client : Nat)
  | proc (msg : BatchingMsg)
  | reportCompletedTrips (accumulatedDistance : UInt32)
  | engineLockState (state : EngineLockState)
  | handleEngineUpEvent
  /-- The engine answers the call `n`. -/
  | response (n : Nat) (err : LocationError) (data : UInt32)
  /-- The vehicle moves. -/
  | moved (distance : UInt32)

/-- The adapter when the engine has done what the call `n` asks for. -/
def BatchingAdapter.answered (s : BatchingAdapter) (n : Nat) (fn : ResponseFn)
    (err : LocationError) : BatchingAdapter :=
  { s with
    unanswered := s.unanswered.eraseIdx n
    engine := s.engine.answer fn err }

def step (s : BatchingAdapter) : BatchingEvent → BatchingAdapter × List Output
  | .addClient client callbacks =>
    ({ s with mClientData := s.mClientData.insert client callbacks }.updateClientsEventMask, [])
  | .removeClient client => s.removeClient client
  | .proc msg => s.proc msg
  | .reportCompletedTrips accumulatedDistance => s.reportCompletedTrips accumulatedDistance
  | .engineLockState state => s.handleEngineLockStatus state
  | .handleEngineUpEvent => s.handleEngineUpEvent
  | .response n err data =>
    match s.unanswered[n]? with
    | none => (s, [])
    | some fn => (s.answered n fn err).respond fn err (s.queried err data)
  | .moved distance => ({ s with engine := s.engine.move distance }, [])

end LocStack.Batching
