/-
# `LocStack.LocApi.Answers` — what a command answers

A command makes one request or several, and answers its adapter.  Of a request
there are two statuses: that of sending it and waiting, and the one in its
indication.

    rv of LOC_SEND_SYNC_REQ        both are looked at
    startFix                       the mode's indication is, the answer is not
    setConstellationControl        only logged, so is the reset
    startDistanceBasedTracking     neither, nor by the stop
    deleteAidingData               the first one is asked about two failures
    getBatchedLocations            a read that fails ends the reading

What a request carries, and the ones that locSyncSendReq keeps to send again
when the engine is off, have no part in the answer and are left out.

`success_iff`: the answer is success only if the modem has accepted what the
command announces, if and only if the second status is not lost in these ways.
-/
import LocStack.Base.Dialogue
import LocStack.LocApi.SyncReq
import LocStack.Tracking.Model

namespace LocStack.LocApi

open Base List Option
open Base.Dialogue
open Tracking (LocationError)
open LocClientStatus

/-! ## Requests and replies -/

inductive QmiLocStatus where
  | eQMI_LOC_SUCCESS_V02 | eQMI_LOC_GENERAL_FAILURE_V02 | eQMI_LOC_UNSUPPORTED_V02
  | eQMI_LOC_INVALID_PARAMETER_V02 | eQMI_LOC_ENGINE_BUSY_V02 | eQMI_LOC_PHONE_OFFLINE_V02
  | eQMI_LOC_TIMEOUT_V02 | eQMI_LOC_CONFIG_NOT_SUPPORTED_V02 | eQMI_LOC_INSUFFICIENT_MEMORY_V02
  | eQMI_LOC_MAX_GEOFENCE_PROGRAMMED_V02 | eQMI_LOC_XTRA_VERSION_CHECK_FAILURE_V02
  | eQMI_LOC_GNSS_DISABLED_V02
  /-- what a later modem may send -/
  | other (value : Int32)
  deriving DecidableEq

inductive QmiLocBatchingType where
  | eQMI_LOC_LOCATION_BATCHING_V02 | eQMI_LOC_OUTDOOR_TRIP_BATCHING_V02
  deriving DecidableEq

open QmiLocStatus QmiLocBatchingType

inductive QmiRequest where
  | SET_OPERATION_MODE | START | STOP | START_DBT | STOP_DBT | SET_CONSTELLATION_CONTROL
  | DELETE_GNSS_SERVICE_DATA | DELETE_ASSIST_DATA | SET_BLACKLIST_SV
  | GET_BATCH_SIZE (batchType : QmiLocBatchingType)
  | START_BATCHING
  | STOP_BATCHING (batchType : QmiLocBatchingType)
  | START_OUTDOOR_TRIP_BATCHING
  | RELEASE_BATCH (batchType : QmiLocBatchingType)
  | READ_FROM_BATCH (batchType : QmiLocBatchingType)
  | QUERY_OTB_ACCUMULATED_DISTANCE | ADD_CIRCULAR_GEOFENCE | DELETE_GEOFENCE | EDIT_GEOFENCE
  | SET_CONSTRAINED_TUNC_MODE | ENABLE_POSITION_ASSISTED_CLOCK_EST | SET_ROBUST_LOCATION_CONFIG
  | GET_ROBUST_LOCATION_CONFIG | SET_MIN_GPS_WEEK_NUMBER | GET_MIN_GPS_WEEK_NUMBER | GET_PARAMETER
  | SET_MULTIBAND_CONFIG | GET_MULTIBAND_CONFIG

open QmiRequest

/-- START and STOP have no indication. -/
def QmiRequest.hasInd : QmiRequest → Bool
  | START | STOP => false
  | _ => true

/-- What is read of the indications, each of which has some of these. -/
structure QmiInd where
  status : QmiLocStatus
  /-- the optional field that is asked for is there -/
  valid : Bool
  (batchSize numberOfEntries batchedPosition : UInt32)

structure Reply where
  status : LocClientStatus
  ind : QmiInd

def Reply.accepted (q : QmiRequest) (r : Reply) : Bool :=
  r.status == eLOC_CLIENT_SUCCESS && (!q.hasInd || r.ind.status == eQMI_LOC_SUCCESS_V02)

abbrev Transcript := List (QmiRequest × Reply)

abbrev Talk := Dialogue QmiRequest Reply

/-- What is kept from one command to the next. -/
structure Remembered where
  isNewApiSupported : Bool
  (mBatchSize mTripBatchSize : UInt64)

/-! ## Positioning sessions -/

def locSyncSendReq (req_id : QmiRequest) : Talk Reply := .request req_id

def locClientSendReq (req_id : QmiRequest) : Talk LocClientStatus := do
  return (← .request req_id).status

/-- The macro, with its rv and ind. -/
def LOC_SEND_SYNC_REQ (req_id : QmiRequest) : Talk (Bool × QmiInd) := do
  let r ← locSyncSendReq req_id
  return (r.status == eLOC_CLIENT_SUCCESS && r.ind.status == eQMI_LOC_SUCCESS_V02, r.ind)

def errorOf (rv : Bool) : LocationError := if rv then .success else .generalFailure

/-- Where one request is made, and its rv is the answer. -/
def oneRequest (req_id : QmiRequest) : Talk LocationError := do
  return errorOf (← LOC_SEND_SYNC_REQ req_id).1

/-- If the mode is refused, its own status is the one that counts. -/
def startFix : Talk LocationError := do
  let mode ← locSyncSendReq SET_OPERATION_MODE
  let status ←
    if (mode.status ≠ eLOC_CLIENT_SUCCESS ∧ mode.status ≠ eLOC_CLIENT_FAILURE_TIMEOUT) ∨
        mode.ind.status ≠ eQMI_LOC_SUCCESS_V02 then
      pure mode.status
    else locClientSendReq START
  return errorOf (status == eLOC_CLIENT_SUCCESS)

def stopFix : Talk LocationError := do
  return errorOf ((← locClientSendReq STOP) == eLOC_CLIENT_SUCCESS)

def setOperationMode : Talk Unit := do
  let _ ← locSyncSendReq SET_OPERATION_MODE

def startTimeBasedTracking : Talk LocationError := do
  setOperationMode
  return errorOf ((← locClientSendReq START) == eLOC_CLIENT_SUCCESS)

def stopTimeBasedTracking : Talk LocationError := do
  return errorOf ((← locClientSendReq STOP) == eLOC_CLIENT_SUCCESS)

/-- What goes wrong is logged. -/
def startDistanceBasedTracking : Talk LocationError := do
  let _ ← locSyncSendReq START_DBT
  return .success

def stopDistanceBasedTracking : Talk LocationError := do
  let _ ← locSyncSendReq STOP_DBT
  return .success

/-! ## Constellations, satellites, aiding data -/

def setConstellationControl (enabledSvTypesMask : UInt64) : Talk LocationError := do
  if enabledSvTypesMask = 0 then
    return .success
  else
    return errorOf ((← locSyncSendReq SET_CONSTELLATION_CONTROL).status == eLOC_CLIENT_SUCCESS)

def resetConstellationControl : Talk LocationError := do
  return errorOf ((← locSyncSendReq SET_CONSTELLATION_CONTROL).status == eLOC_CLIENT_SUCCESS)

def setBlacklistSv : Talk LocationError := oneRequest SET_BLACKLIST_SV

/-- The old request is made where the new one is not known. -/
def deleteAidingData (isNewApiSupported : Bool) : Talk (Bool × LocationError) := do
  let status ←
    if isNewApiSupported then
      pure (← locSyncSendReq DELETE_GNSS_SERVICE_DATA).status
    else pure eLOC_CLIENT_FAILURE_UNSUPPORTED
  if status = eLOC_CLIENT_FAILURE_UNSUPPORTED ∨ status = eLOC_CLIENT_FAILURE_INTERNAL then
    return (false, ← oneRequest DELETE_ASSIST_DATA)
  else
    return (isNewApiSupported, .success)

/-! ## Batching -/

/-- The error and the size.  A trip that is refused for its size is asked for
again with the one that is offered. -/
def queryBatchBuffer (batchType : QmiLocBatchingType) : Talk (LocationError × UInt64) := do
  let (rv, ind) ← LOC_SEND_SYNC_REQ (GET_BATCH_SIZE batchType)
  if rv then
    return (errorOf (ind.batchSize != 0), ind.batchSize.toUInt64)
  else if batchType = eQMI_LOC_OUTDOOR_TRIP_BATCHING_V02 ∧
      ind.status = eQMI_LOC_INVALID_PARAMETER_V02 ∧ 0 < ind.batchSize then
    let (rv, ind) ← LOC_SEND_SYNC_REQ (GET_BATCH_SIZE batchType)
    return if rv then (errorOf (ind.batchSize != 0), ind.batchSize.toUInt64)
      else (.generalFailure, 0)
  else
    return (.generalFailure, 0)

/-- The size that is known, or the one that is asked for now. -/
def batchBuffer (size : UInt64) (batchType : QmiLocBatchingType) :
    Talk (LocationError × UInt64) :=
  if size = 0 then queryBatchBuffer batchType else pure (.success, size)

def startBatching (mBatchSize : UInt64) : Talk (UInt64 × LocationError) := do
  setOperationMode
  let (err, size) ← batchBuffer mBatchSize eQMI_LOC_LOCATION_BATCHING_V02
  if err ≠ .success then
    return (size, .generalFailure)
  else
    let (rv, ind) ← LOC_SEND_SYNC_REQ START_BATCHING
    return (size, if rv then .success
      else if ind.status = eQMI_LOC_GNSS_DISABLED_V02 then .gnssDisabled else .generalFailure)

def stopBatching : Talk LocationError :=
  oneRequest (STOP_BATCHING eQMI_LOC_LOCATION_BATCHING_V02)

def startOutdoorTripBatchingSync (mTripBatchSize : UInt64) : Talk (UInt64 × LocationError) := do
  let (err, size) ← batchBuffer mTripBatchSize eQMI_LOC_OUTDOOR_TRIP_BATCHING_V02
  if err ≠ .success then
    return (size, .generalFailure)
  else
    return (size, ← oneRequest START_OUTDOOR_TRIP_BATCHING)

/-- Whatever is released, the size of a trip is forgotten. -/
def releaseBatchBuffer (mTripBatchSize : UInt64) (batchType : QmiLocBatchingType) :
    Talk (UInt64 × LocationError) := do
  let (rv, _) ← LOC_SEND_SYNC_REQ (RELEASE_BATCH batchType)
  return (if rv then 0 else mTripBatchSize, errorOf rv)

def stopOutdoorTripBatchingSync (mTripBatchSize : UInt64) (deallocBatchBuffer : Bool) :
    Talk (UInt64 × LocationError) := do
  let (rv, _) ← LOC_SEND_SYNC_REQ (STOP_BATCHING eQMI_LOC_OUTDOOR_TRIP_BATCHING_V02)
  if rv ∧ deallocBatchBuffer then
    releaseBatchBuffer mTripBatchSize eQMI_LOC_OUTDOOR_TRIP_BATCHING_V02
  else
    return (mTripBatchSize, errorOf rv)

abbrev QMI_LOC_READ_FROM_BATCH_MAX_SIZE : UInt64 := 5

/-- How many entries there are. -/
def readModemLocations (batchType : QmiLocBatchingType) : Talk UInt64 := do
  let (rv, ind) ← LOC_SEND_SYNC_REQ (READ_FROM_BATCH batchType)
  return if rv ∧ ind.valid then ind.numberOfEntries.toUInt64 else 0

/-- The loop, which ends when nothing comes or is wanted, with the number of
entries; `none` while it goes on.  What is wanted wraps when too many come. -/
def readLoop (batchType : QmiLocBatchingType) (entriesToReadInTotal : UInt64) :
    Nat → UInt64 → Talk (Option UInt64)
  | 0, _ => pure none
  | fuel + 1, entriesGotInTotal => do
      let each ← readModemLocations batchType
      let got := entriesGotInTotal + each
      if 0 < each ∧ 0 < min (entriesToReadInTotal - got) QMI_LOC_READ_FROM_BATCH_MAX_SIZE then
        readLoop batchType entriesToReadInTotal fuel got
      else
        return some got

/-- For the adapters there is a report of the locations, and success. -/
def getBatchedLocationsSync (fuel : Nat) (batchType : QmiLocBatchingType) (size count : UInt64) :
    Talk (Option LocationError) := do
  let entriesToReadInTotal := min size count
  if entriesToReadInTotal = 0 then
    return some .success
  else
    return (← readLoop batchType entriesToReadInTotal fuel 0).map fun _ => .success

/-- The number of positions is 0 if the query fails. -/
def queryAccumulatedTripDistanceSync : Talk (UInt32 × LocationError) := do
  let (rv, ind) ← LOC_SEND_SYNC_REQ QUERY_OTB_ACCUMULATED_DISTANCE
  return (if rv then ind.batchedPosition else 0, errorOf rv)

/-- What has been batched, if anything has. -/
def readBatched (fuel : Nat) (mTripBatchSize : UInt64) (numOfBatchedPositions : UInt32) :
    Talk (Option LocationError) :=
  if numOfBatchedPositions ≠ 0 then
    getBatchedLocationsSync fuel eQMI_LOC_OUTDOOR_TRIP_BATCHING_V02 mTripBatchSize
      numOfBatchedPositions.toUInt64
  else pure (some .success)

def reStartOutdoorTripBatching (fuel : Nat) (mTripBatchSize : UInt64) :
    Talk (UInt64 × Option LocationError) := do
  let (numOfBatchedPositions, _) ← queryAccumulatedTripDistanceSync
  match ← readBatched fuel mTripBatchSize numOfBatchedPositions with
  | none => return (mTripBatchSize, none)
  | some _ =>
    let _ ← stopOutdoorTripBatchingSync mTripBatchSize false
    let (size, err) ← startOutdoorTripBatchingSync mTripBatchSize
    return (size, some err)

/-! ## Geofences -/

def addGeofence : Talk LocationError := do
  let (rv, ind) ← LOC_SEND_SYNC_REQ ADD_CIRCULAR_GEOFENCE
  return if rv ∧ ind.valid then .success
    else if ind.status = eQMI_LOC_MAX_GEOFENCE_PROGRAMMED_V02 then .geofencesAtMax
    else .generalFailure

def removeGeofence : Talk LocationError := oneRequest DELETE_GEOFENCE

def pauseGeofence : Talk LocationError := oneRequest EDIT_GEOFENCE

def resumeGeofence : Talk LocationError := oneRequest EDIT_GEOFENCE

def modifyGeofence : Talk LocationError := oneRequest EDIT_GEOFENCE

/-! ## Configuration -/

def configError (status : LocClientStatus) : LocationError :=
  if status = eLOC_CLIENT_FAILURE_UNSUPPORTED ∨
    status = eLOC_CLIENT_FAILURE_INVALID_MESSAGE_ID then .notSupported else .generalFailure

def setConstrainedTuncMode : Talk LocationError := oneRequest SET_CONSTRAINED_TUNC_MODE

def setPositionAssistedClockEstimatorMode : Talk LocationError :=
  oneRequest ENABLE_POSITION_ASSISTED_CLOCK_EST

def configure (req_id : QmiRequest) : Talk LocationError := do
  let r ← locSyncSendReq req_id
  return if r.status ≠ eLOC_CLIENT_SUCCESS ∨ r.ind.status ≠ eQMI_LOC_SUCCESS_V02 then
    configError r.status else .success

def configRobustLocation : Talk LocationError := configure SET_ROBUST_LOCATION_CONFIG

def configMinGpsWeek : Talk LocationError := configure SET_MIN_GPS_WEEK_NUMBER

def configConstellationMultiBand : Talk LocationError := configure SET_MULTIBAND_CONFIG

/-! ## Commands -/

inductive Command where
  | startFix | stopFix | startTimeBasedTracking | stopTimeBasedTracking | startDistanceBasedTracking
  | stopDistanceBasedTracking
  | setConstellationControl (enabledSvTypesMask : UInt64)
  | resetConstellationControl | setBlacklistSv | deleteAidingData | startBatching | stopBatching
  | startOutdoorTripBatching | reStartOutdoorTripBatching
  | stopOutdoorTripBatching (deallocBatchBuffer : Bool)
  | getBatchedLocations (count : UInt64)
  | getBatchedTripLocations (count : UInt64)
  | queryAccumulatedTripDistance | addGeofence | removeGeofence | pauseGeofence | resumeGeofence
  | modifyGeofence | setConstrainedTuncMode | setPositionAssistedClockEstimatorMode
  | configRobustLocation | configMinGpsWeek | configConstellationMultiBand

/-- Only the answer is of interest. -/
def answered (s : Remembered) (talk : Talk LocationError) :
    Talk (Remembered × Option LocationError) := do
  return (s, some (← talk))

/-- A command, with what is remembered after it and its answer, which is `none`
while it still reads. -/
def perform (fuel : Nat) (s : Remembered) : Command → Talk (Remembered × Option LocationError)
  | .startFix => answered s startFix
  | .stopFix => answered s stopFix
  | .startTimeBasedTracking => answered s startTimeBasedTracking
  | .stopTimeBasedTracking => answered s stopTimeBasedTracking
  | .startDistanceBasedTracking => answered s startDistanceBasedTracking
  | .stopDistanceBasedTracking => answered s stopDistanceBasedTracking
  | .setConstellationControl mask => answered s (setConstellationControl mask)
  | .resetConstellationControl => answered s resetConstellationControl
  | .setBlacklistSv => answered s setBlacklistSv
  | .deleteAidingData => do
      let (isNewApiSupported, err) ← deleteAidingData s.isNewApiSupported
      return ({ s with isNewApiSupported }, some err)
  | .startBatching => do
      let (mBatchSize, err) ← startBatching s.mBatchSize
      return ({ s with mBatchSize }, some err)
  | .stopBatching => answered s stopBatching
  | .startOutdoorTripBatching => do
      let (mTripBatchSize, err) ← startOutdoorTripBatchingSync s.mTripBatchSize
      return ({ s with mTripBatchSize }, some err)
  | .reStartOutdoorTripBatching => do
      let (mTripBatchSize, err) ← reStartOutdoorTripBatching fuel s.mTripBatchSize
      return ({ s with mTripBatchSize }, err)
  | .stopOutdoorTripBatching dealloc => do
      let (mTripBatchSize, err) ← stopOutdoorTripBatchingSync s.mTripBatchSize dealloc
      return ({ s with mTripBatchSize }, some err)
  | .getBatchedLocations count => do
      return (s, ← getBatchedLocationsSync fuel eQMI_LOC_LOCATION_BATCHING_V02 s.mBatchSize count)
  | .getBatchedTripLocations count => do
      return (s,
        ← getBatchedLocationsSync fuel eQMI_LOC_OUTDOOR_TRIP_BATCHING_V02 s.mTripBatchSize count)
  | .queryAccumulatedTripDistance => do
      return (s, some (← queryAccumulatedTripDistanceSync).2)
  | .addGeofence => answered s addGeofence
  | .removeGeofence => answered s removeGeofence
  | .pauseGeofence => answered s pauseGeofence
  | .resumeGeofence => answered s resumeGeofence
  | .modifyGeofence => answered s modifyGeofence
  | .setConstrainedTuncMode => answered s setConstrainedTuncMode
  | .setPositionAssistedClockEstimatorMode => answered s setPositionAssistedClockEstimatorMode
  | .configRobustLocation => answered s configRobustLocation
  | .configMinGpsWeek => answered s configMinGpsWeek
  | .configConstellationMultiBand => answered s configConstellationMultiBand

/-! ## What is announced, and what is heeded -/

/-- The request was sent, and accepted if it has an indication. -/
def Carried (log : Transcript) (q : QmiRequest) : Prop := ∃ r, (q, r) ∈ log ∧ r.accepted q = true

/-- Each time it was made, the request was carried out. -/
def NeverRefused (log : Transcript) (q : QmiRequest) : Prop :=
  ∀ r, (q, r) ∈ log → r.accepted q = true

/-- What success announces.  `all` says whether the requests that a command
makes on its way are meant as well: the operation mode of a session or of
batching, and the end of the trip that is started again. -/
def Command.Announced (all : Bool) (log : Transcript) : Command → Prop
  | startFix => (Carried log SET_OPERATION_MODE ∨
      ∃ r, (SET_OPERATION_MODE, r) ∈ log ∧ r.status = eLOC_CLIENT_FAILURE_TIMEOUT) ∧
        Carried log START
  | stopFix | stopTimeBasedTracking => Carried log STOP
  | startTimeBasedTracking =>
    Carried log START ∧ (all = true → Carried log SET_OPERATION_MODE)
  | startDistanceBasedTracking => Carried log START_DBT
  | stopDistanceBasedTracking => Carried log STOP_DBT
  | setConstellationControl mask => mask ≠ 0 → Carried log SET_CONSTELLATION_CONTROL
  | resetConstellationControl => Carried log SET_CONSTELLATION_CONTROL
  | setBlacklistSv => Carried log SET_BLACKLIST_SV
  | deleteAidingData => Carried log DELETE_GNSS_SERVICE_DATA ∨ Carried log DELETE_ASSIST_DATA
  | startBatching =>
    Carried log START_BATCHING ∧ (all = true → Carried log SET_OPERATION_MODE)
  | stopBatching => Carried log (STOP_BATCHING eQMI_LOC_LOCATION_BATCHING_V02)
  | startOutdoorTripBatching => Carried log START_OUTDOOR_TRIP_BATCHING
  | reStartOutdoorTripBatching => Carried log START_OUTDOOR_TRIP_BATCHING ∧
      (all = true → Carried log (STOP_BATCHING eQMI_LOC_OUTDOOR_TRIP_BATCHING_V02))
  | stopOutdoorTripBatching dealloc =>
    Carried log (STOP_BATCHING eQMI_LOC_OUTDOOR_TRIP_BATCHING_V02) ∧
      (dealloc = true → Carried log (RELEASE_BATCH eQMI_LOC_OUTDOOR_TRIP_BATCHING_V02))
  | getBatchedLocations _ => NeverRefused log (READ_FROM_BATCH eQMI_LOC_LOCATION_BATCHING_V02)
  | getBatchedTripLocations _ =>
    NeverRefused log (READ_FROM_BATCH eQMI_LOC_OUTDOOR_TRIP_BATCHING_V02)
  | queryAccumulatedTripDistance => Carried log QUERY_OTB_ACCUMULATED_DISTANCE
  | addGeofence => Carried log ADD_CIRCULAR_GEOFENCE
  | removeGeofence => Carried log DELETE_GEOFENCE
  | pauseGeofence | resumeGeofence | modifyGeofence => Carried log EDIT_GEOFENCE
  | setConstrainedTuncMode => Carried log SET_CONSTRAINED_TUNC_MODE
  | setPositionAssistedClockEstimatorMode => Carried log ENABLE_POSITION_ASSISTED_CLOCK_EST
  | configRobustLocation => Carried log SET_ROBUST_LOCATION_CONFIG
  | configMinGpsWeek => Carried log SET_MIN_GPS_WEEK_NUMBER
  | configConstellationMultiBand => Carried log SET_MULTIBAND_CONFIG

/-- No indication refuses the request once it is sent. -/
def NotRefused (log : Transcript) (q : QmiRequest) : Prop :=
  ∀ r, (q, r) ∈ log → r.status = eLOC_CLIENT_SUCCESS → r.ind.status = eQMI_LOC_SUCCESS_V02

/-- What is asked of the replies. -/
def Command.Heeded (all : Bool) (log : Transcript) : Command → Prop
  | startFix => NotRefused log SET_OPERATION_MODE
  | setConstellationControl _ | resetConstellationControl =>
    NotRefused log SET_CONSTELLATION_CONTROL
  | startDistanceBasedTracking => NeverRefused log START_DBT
  | stopDistanceBasedTracking => NeverRefused log STOP_DBT
  | deleteAidingData => ∀ r, (DELETE_GNSS_SERVICE_DATA, r) ∈ log →
      r.accepted DELETE_GNSS_SERVICE_DATA = true ∨
        r.status = eLOC_CLIENT_FAILURE_UNSUPPORTED ∨ r.status = eLOC_CLIENT_FAILURE_INTERNAL
  | getBatchedLocations _ => NeverRefused log (READ_FROM_BATCH eQMI_LOC_LOCATION_BATCHING_V02)
  | getBatchedTripLocations _ =>
    NeverRefused log (READ_FROM_BATCH eQMI_LOC_OUTDOOR_TRIP_BATCHING_V02)
  | startTimeBasedTracking =>
    all = true → Carried log START → NeverRefused log SET_OPERATION_MODE
  | startBatching =>
    all = true → Carried log START_BATCHING → NeverRefused log SET_OPERATION_MODE
  | reStartOutdoorTripBatching => all = true → Carried log START_OUTDOOR_TRIP_BATCHING →
      NeverRefused log (STOP_BATCHING eQMI_LOC_OUTDOOR_TRIP_BATCHING_V02)
  | _ => True

/-! ## The transcript -/

section Transcript

variable {q q' : QmiRequest} {r : Reply} {log : Transcript}

@[simp, grind =] theorem carried_nil : Carried [] q ↔ False :=
  iff_of_false (by rintro ⟨r, hr, -⟩; exact absurd hr not_mem_nil) id

@[simp, grind =] theorem carried_cons :
    Carried ((q', r) :: log) q ↔ (q = q' ∧ r.accepted q = true) ∨ Carried log q := by
  constructor
  · rintro ⟨r', hr', hacc⟩
    rcases mem_cons.mp hr' with heq | hr'
    · obtain ⟨rfl, rfl⟩ := Prod.mk.inj heq
      exact Or.inl ⟨rfl, hacc⟩
    · exact Or.inr ⟨r', hr', hacc⟩
  · rintro (⟨rfl, hacc⟩ | ⟨r', hr', hacc⟩)
    · exact ⟨r, mem_cons_self, hacc⟩
    · exact ⟨r', mem_cons_of_mem _ hr', hacc⟩

theorem forall_mem_cons_pair {p : Reply → Prop} :
    (∀ r', (q, r') ∈ (q', r) :: log → p r') ↔
      (q = q' → p r) ∧ ∀ r', (q, r') ∈ log → p r' := by
  constructor
  · intro h
    exact ⟨by rintro rfl; exact h r mem_cons_self, fun r' hr' => h r' (mem_cons_of_mem _ hr')⟩
  · rintro ⟨hhead, htail⟩ r' hr'
    rcases mem_cons.mp hr' with heq | hr'
    · obtain ⟨rfl, rfl⟩ := Prod.mk.inj heq
      exact hhead rfl
    · exact htail r' hr'

variable {log' : Transcript}

@[simp, grind =] theorem carried_append :
    Carried (log ++ log') q ↔ Carried log q ∨ Carried log' q := by
  constructor
  · rintro ⟨r, hr, hacc⟩
    exact (mem_append.mp hr).imp (fun hr => ⟨r, hr, hacc⟩) fun hr => ⟨r, hr, hacc⟩
  · rintro (⟨r, hr, hacc⟩ | ⟨r, hr, hacc⟩)
    · exact ⟨r, mem_append_left _ hr, hacc⟩
    · exact ⟨r, mem_append_right _ hr, hacc⟩

@[simp, grind .] theorem neverRefused_nil : NeverRefused [] q :=
  fun _ hr => absurd hr not_mem_nil

@[simp, grind =] theorem neverRefused_cons : NeverRefused ((q', r) :: log) q ↔
    (q = q' → r.accepted q = true) ∧ NeverRefused log q := forall_mem_cons_pair

@[simp, grind =] theorem neverRefused_append :
    NeverRefused (log ++ log') q ↔ NeverRefused log q ∧ NeverRefused log' q := by
  constructor
  · intro h
    exact ⟨fun r hr => h r (mem_append_left _ hr), fun r hr => h r (mem_append_right _ hr)⟩
  · rintro ⟨h, h'⟩ r hr
    exact (mem_append.mp hr).elim (h r) (h' r)

/-- Nothing else is asked for. -/
def Only (q : QmiRequest) (log : Transcript) : Prop := ∀ entry ∈ log, entry.1 = q

theorem Only.not_carried (h : Only q' log) (hne : q ≠ q') : ¬ Carried log q := by
  rintro ⟨r, hr, -⟩
  exact hne (h _ hr)

theorem Only.neverRefused (h : Only q' log) (hne : q ≠ q') : NeverRefused log q :=
  fun _ hr => absurd (h _ hr) hne

theorem Only.append (h : Only q log) (h' : Only q log') : Only q (log ++ log') :=
  fun entry hentry => (mem_append.mp hentry).elim (h entry) (h' entry)

@[simp, grind .] theorem notRefused_nil : NotRefused [] q := fun _ hr => absurd hr not_mem_nil

@[simp, grind =] theorem notRefused_cons : NotRefused ((q', r) :: log) q ↔
    (q = q' → r.status = eLOC_CLIENT_SUCCESS → r.ind.status = eQMI_LOC_SUCCESS_V02) ∧
      NotRefused log q := forall_mem_cons_pair

end Transcript

/-! ## What is said of one request -/

@[simp, grind =] theorem errorOf_eq_success {rv : Bool} : errorOf rv = .success ↔ rv = true := by
  cases rv <;> simp [errorOf]

variable {q : QmiRequest} {r : Reply} {c : Command}

theorem accepted_iff (hq : q.hasInd = true) :
    r.accepted q = (r.status == eLOC_CLIENT_SUCCESS && r.ind.status == eQMI_LOC_SUCCESS_V02) := by
  simp [Reply.accepted, hq]

@[simp] theorem wp_LOC_SEND_SYNC_REQ {post : Transcript → Bool × QmiInd → Prop} :
    (LOC_SEND_SYNC_REQ q).wp post ↔ ∀ r : Reply, post [(q, r)]
      (r.status == eLOC_CLIENT_SUCCESS && r.ind.status == eQMI_LOC_SUCCESS_V02, r.ind) := Iff.rfl

theorem wp_answered {s : Remembered} {talk : Talk LocationError}
    {post : Transcript → Remembered × Option LocationError → Prop} :
    (answered s talk).wp post ↔ talk.wp fun log err => post log (s, some err) :=
  wp_bind_pure talk fun err => (s, some err)

/-- Success is answered only if what is announced was done, and the replies are
as is asked. -/
def Command.Truthful (c : Command) (all : Bool) (log : Transcript) (err : Option LocationError) :
    Prop :=
  (err = some .success → c.Announced all log) ↔ c.Heeded all log

theorem truthful_oneRequest (hq : q.hasInd = true) (all : Bool)
    (hann : ∀ log, c.Announced all log ↔ Carried log q) (hheed : ∀ log, c.Heeded all log) :
    (oneRequest q).wp fun log err => c.Truthful all log (some err) := by
  intro r
  refine iff_of_true (fun herr => ?_) (hheed _)
  have hok := errorOf_eq_success.mp (some.inj herr)
  exact (hann _).mpr ⟨r, mem_singleton_self _, (accepted_iff hq).trans hok⟩

attribute [grind] Reply.accepted QmiRequest.hasInd

/-! ## Each command -/

theorem truthful_startFix (all : Bool) :
    startFix.wp fun log err => Command.startFix.Truthful all log (some err) := by
  simp only [startFix, wp_bind, locSyncSendReq, wp_request]
  intro mode
  split
  case isTrue hbad =>
    show (some (errorOf (mode.status == eLOC_CLIENT_SUCCESS)) = some .success →
      (Carried _ _ ∨ _) ∧ Carried [(SET_OPERATION_MODE, mode)] START) ↔ NotRefused [(_, mode)] _
    grind
  case isFalse hgood =>
    intro r
    show (some (errorOf (r.status == eLOC_CLIENT_SUCCESS)) = some .success →
      (Carried _ _ ∨ _) ∧ Carried [(SET_OPERATION_MODE, mode), (START, r)] START) ↔
        NotRefused [(_, mode), (START, r)] _
    grind

theorem truthful_stop (all : Bool) (hann : ∀ log, c.Announced all log ↔ Carried log STOP)
    (hheed : ∀ log, c.Heeded all log) :
    stopFix.wp fun log err => c.Truthful all log (some err) := by
  intro r
  refine iff_of_true (fun herr => ?_) (hheed _)
  have hok := errorOf_eq_success.mp (some.inj herr)
  exact (hann _).mpr ⟨r, mem_singleton_self _, (Bool.and_true _).trans hok⟩

theorem truthful_startTimeBasedTracking (all : Bool) : startTimeBasedTracking.wp fun log err =>
      Command.startTimeBasedTracking.Truthful all log (some err) := by
  intro mode r
  show (some (errorOf (r.status == eLOC_CLIENT_SUCCESS)) = some .success →
    Carried [(SET_OPERATION_MODE, mode), (START, r)] START ∧ (all = true → Carried _ _)) ↔
      (all = true → Carried _ _ → NeverRefused _ _)
  grind

theorem truthful_always (all : Bool) (hann : ∀ log, c.Announced all log ↔ Carried log q)
    (hheed : ∀ log, c.Heeded all log ↔ NeverRefused log q) (r : Reply) :
    c.Truthful all [(q, r)] (some .success) := by
  simp only [Command.Truthful, hann, hheed]
  grind

theorem truthful_logged (all : Bool) (log : Transcript)
    (hann : c.Announced all log ↔ Carried log SET_CONSTELLATION_CONTROL)
    (hheed : c.Heeded all log ↔ NotRefused log SET_CONSTELLATION_CONTROL)
    (hlog : log = [(SET_CONSTELLATION_CONTROL, r)]) :
    c.Truthful all log (some (errorOf (r.status == eLOC_CLIENT_SUCCESS))) := by
  simp only [Command.Truthful, hlog]
  grind

theorem truthful_setConstellationControl (mask : UInt64) (all : Bool) :
    (setConstellationControl mask).wp fun log err =>
      (Command.setConstellationControl mask).Truthful all log (some err) := by
  simp only [setConstellationControl]
  split
  case isTrue hmask => exact iff_of_true (fun _ hne => absurd hmask hne) notRefused_nil
  case isFalse hmask =>
    intro r
    have hann := forall_prop_of_true (q := fun _ => Carried [(SET_CONSTELLATION_CONTROL, r)]
      SET_CONSTELLATION_CONTROL) hmask
    exact truthful_logged (c := .setConstellationControl mask) all _ hann Iff.rfl rfl

theorem truthful_deleteAidingData (isNewApiSupported all : Bool) :
    (deleteAidingData isNewApiSupported).wp fun log res =>
      Command.deleteAidingData.Truthful all log (some res.2) := by
  cases isNewApiSupported with
  | false =>
    intro r
    show (some (errorOf _) = _ → Carried _ _ ∨ Carried [(DELETE_ASSIST_DATA, r)] _) ↔ ∀ _, _
    grind
  | true =>
    intro r
    show (ite _ _ _ : Talk _).wp _
    split
    case isTrue hold =>
      intro r'
      show (some (errorOf _) = _ → Carried _ _ ∨
        Carried [(DELETE_GNSS_SERVICE_DATA, r), (DELETE_ASSIST_DATA, r')] _) ↔ ∀ _, _
      grind
    case isFalse hnew =>
      show (some LocationError.success = _ →
        Carried [(DELETE_GNSS_SERVICE_DATA, r)] _ ∨ Carried _ _) ↔ ∀ _, _
      grind

theorem only_queryBatchBuffer (t : QmiLocBatchingType) :
    (queryBatchBuffer t).wp fun log _ => Only (GET_BATCH_SIZE t) log := by
  have hone (r : Reply) : Only (GET_BATCH_SIZE t) [(GET_BATCH_SIZE t, r)] := by
    intro entry hentry
    rw [mem_singleton.mp hentry]
  simp only [queryBatchBuffer, wp_bind, wp_LOC_SEND_SYNC_REQ]
  intro r
  split
  · exact hone r
  · split
    · intro r'
      exact forall_mem_cons.mpr ⟨rfl, hone r'⟩
    · exact hone r

theorem only_batchBuffer (size : UInt64) (t : QmiLocBatchingType) :
    (batchBuffer size t).wp fun log _ => Only (GET_BATCH_SIZE t) log := by
  simp only [batchBuffer]
  split
  · exact only_queryBatchBuffer t
  · exact fun _ hentry => absurd hentry not_mem_nil

theorem truthful_startBatching (size : UInt64) (all : Bool) : (startBatching size).wp fun log res =>
      Command.startBatching.Truthful all log (some res.2) := by
  intro mode
  show (batchBuffer _ _ >>= _ : Talk _).wp _
  rw [wp_bind]
  refine wp_mono (fun log res honly => ?_) (only_batchBuffer size _)
  have hstart := honly.not_carried (q := START_BATCHING) nofun
  have hmode := honly.not_carried (q := SET_OPERATION_MODE) nofun
  have hmode' := honly.neverRefused (q := SET_OPERATION_MODE) nofun
  show (ite _ _ _ : Talk _).wp _
  split
  case isTrue herr =>
    show (some LocationError.generalFailure = _ → Carried (_ :: (log ++ [])) _ ∧ _) ↔
      (all = true → Carried ((SET_OPERATION_MODE, mode) :: (log ++ [])) _ → NeverRefused _ _)
    grind
  case isFalse herr =>
    intro r
    show (some (ite _ _ _) = some LocationError.success →
      Carried (_ :: (log ++ [(START_BATCHING, r)])) _ ∧ (_ → Carried _ _)) ↔
        (all = true → Carried ((SET_OPERATION_MODE, mode) :: (log ++ _)) _ → NeverRefused _ _)
    grind

theorem startOutdoorTripBatchingSync_spec (size : UInt64) :
    (startOutdoorTripBatchingSync size).wp fun log res =>
      (∀ t, ¬ Carried log (STOP_BATCHING t) ∧ NeverRefused log (STOP_BATCHING t)) ∧
        (res.2 = .success ↔ Carried log START_OUTDOOR_TRIP_BATCHING) := by
  show (batchBuffer _ _ >>= _ : Talk _).wp _
  rw [wp_bind]
  refine wp_mono (fun log res honly => ?_) (only_batchBuffer size _)
  have hstart := honly.not_carried (q := START_OUTDOOR_TRIP_BATCHING) nofun
  have hstop (t) := honly.not_carried (q := STOP_BATCHING t) nofun
  have hstop' (t) := honly.neverRefused (q := STOP_BATCHING t) nofun
  show (ite _ _ _ : Talk _).wp _
  split
  case isTrue herr =>
    show (∀ t, ¬ Carried (log ++ []) _ ∧ NeverRefused (log ++ []) _) ∧
      (LocationError.generalFailure = _ ↔ Carried (log ++ []) _)
    grind
  case isFalse herr =>
    intro r
    show (∀ t, ¬ Carried (log ++ [(START_OUTDOOR_TRIP_BATCHING, r)]) _ ∧ NeverRefused _ _) ∧
      (errorOf _ = _ ↔ Carried _ _)
    grind

theorem truthful_stopOutdoorTripBatchingSync (size : UInt64) (dealloc all : Bool) :
    (stopOutdoorTripBatchingSync size dealloc).wp fun log res =>
      (Command.stopOutdoorTripBatching dealloc).Truthful all log (some res.2) := by
  intro r
  show (ite _ _ _ : Talk _).wp _
  split
  case isTrue hrelease =>
    intro r'
    refine iff_of_true (fun herr => ?_) trivial
    have hok := errorOf_eq_success.mp (some.inj herr)
    exact ⟨⟨r, mem_cons_self, hrelease.1⟩,
      fun _ => ⟨r', mem_cons_of_mem _ (mem_singleton_self _), hok⟩⟩
  case isFalse hno =>
    refine iff_of_true (fun herr => ?_) trivial
    have hok := errorOf_eq_success.mp (some.inj herr)
    exact ⟨⟨r, mem_singleton_self _, hok⟩, fun hdealloc => absurd ⟨hok, hdealloc⟩ hno⟩

theorem readModemLocations_spec (t : QmiLocBatchingType) :
    (readModemLocations t).wp fun log each => Only (READ_FROM_BATCH t) log ∧
      (0 < each → NeverRefused log (READ_FROM_BATCH t)) := by
  intro r
  refine ⟨forall_mem_cons.mpr ⟨rfl, fun _ hentry => absurd hentry not_mem_nil⟩,
    fun heach => neverRefused_cons.mpr ⟨fun _ => ?_, neverRefused_nil⟩⟩
  by_contra hrefused
  rw [if_neg fun hand => hrefused hand.1] at heach
  exact absurd heach (UInt64.lt_irrefl _)

theorem readLoop_spec (t : QmiLocBatchingType) (total : UInt64) (fuel : Nat) (got : UInt64) :
    (readLoop t total fuel got).wp fun log res => Only (READ_FROM_BATCH t) log ∧
      (res = none → NeverRefused log (READ_FROM_BATCH t)) := by
  induction fuel generalizing got with
  | zero => exact ⟨fun _ hentry => absurd hentry not_mem_nil, fun _ => neverRefused_nil⟩
  | succ fuel ih =>
    simp only [readLoop, wp_bind]
    refine wp_mono (fun log each h => ?_) (readModemLocations_spec t)
    split
    case isTrue hmore =>
      refine wp_mono (fun log' res h' => ?_) (ih _)
      exact ⟨h.1.append h'.1, fun hres => neverRefused_append.mpr ⟨h.2 hmore.1, h'.2 hres⟩⟩
    case isFalse hend =>
      rw [wp_pure, append_nil]
      exact ⟨h.1, fun hnone => absurd hnone (some_ne_none _)⟩

theorem getBatchedLocationsSync_spec (fuel : Nat) (t : QmiLocBatchingType) (size count : UInt64) :
    (getBatchedLocationsSync fuel t size count).wp fun log res =>
      Only (READ_FROM_BATCH t) log ∧ (res = none ∨ res = some .success) ∧
        (res = none → NeverRefused log (READ_FROM_BATCH t)) := by
  simp only [getBatchedLocationsSync]
  split
  · exact ⟨fun _ hentry => absurd hentry not_mem_nil, Or.inr rfl, nofun⟩
  · rw [wp_bind]
    refine wp_mono (fun log res h => ?_) (readLoop_spec t _ fuel 0)
    rw [wp_pure, append_nil]
    cases res with
    | none => exact ⟨h.1, Or.inl rfl, fun _ => h.2 rfl⟩
    | some _ => exact ⟨h.1, Or.inr rfl, nofun⟩

theorem truthful_getBatchedLocations {t : QmiLocBatchingType} (fuel : Nat) (size count : UInt64)
    (all : Bool) (hann : ∀ log, c.Announced all log ↔ NeverRefused log (READ_FROM_BATCH t))
    (hheed : ∀ log, c.Heeded all log ↔ NeverRefused log (READ_FROM_BATCH t)) :
    (getBatchedLocationsSync fuel t size count).wp fun log res => c.Truthful all log res := by
  refine wp_mono (fun log res h => ?_) (getBatchedLocationsSync_spec fuel t size count)
  simp only [Command.Truthful, hann, hheed]
  obtain ⟨-, rfl | rfl, hnone⟩ := h
  · exact iff_of_true nofun (hnone rfl)
  · exact forall_prop_of_true rfl

theorem only_readBatched (fuel : Nat) (size : UInt64) (n : UInt32) :
    (readBatched fuel size n).wp fun log _ =>
      Only (READ_FROM_BATCH eQMI_LOC_OUTDOOR_TRIP_BATCHING_V02) log := by
  simp only [readBatched]
  split
  · exact wp_mono (fun _ _ h => h.1) (getBatchedLocationsSync_spec fuel _ size _)
  · exact fun _ hentry => absurd hentry not_mem_nil

theorem stopOutdoorTripBatchingSync_spec (size : UInt64) :
    (stopOutdoorTripBatchingSync size false).wp fun log _ =>
      ∃ r, log = [(STOP_BATCHING eQMI_LOC_OUTDOOR_TRIP_BATCHING_V02, r)] := by
  intro r
  show (ite _ _ _ : Talk _).wp _
  split
  case isTrue hrelease => exact absurd hrelease.2 nofun
  case isFalse => exact ⟨r, rfl⟩

theorem truthful_reStartOutdoorTripBatching (fuel : Nat) (size : UInt64) (all : Bool) :
    (reStartOutdoorTripBatching fuel size).wp fun log res =>
      Command.reStartOutdoorTripBatching.Truthful all log res.2 := by
  intro query
  show (readBatched fuel size _ >>= _ : Talk _).wp _
  rw [wp_bind]
  refine wp_mono (fun log res honly => ?_) (only_readBatched fuel size _)
  have hstart := honly.not_carried (q := START_OUTDOOR_TRIP_BATCHING) nofun
  have hstop (t) := honly.not_carried (q := STOP_BATCHING t) nofun
  have hstop' (t) := honly.neverRefused (q := STOP_BATCHING t) nofun
  cases res with
  | none =>
    show (none = some LocationError.success → _) ↔ (all = true →
      Carried ((QUERY_OTB_ACCUMULATED_DISTANCE, query) :: (log ++ [])) _ → NeverRefused _ _)
    grind
  | some _ =>
    show (stopOutdoorTripBatchingSync size false >>= _ : Talk _).wp _
    rw [wp_bind]
    refine wp_mono (fun log₁ _ hlog => ?_) (stopOutdoorTripBatchingSync_spec size)
    obtain ⟨stop, rfl⟩ := hlog
    rw [wp_bind]
    refine wp_mono (fun log' res' h => ?_) (startOutdoorTripBatchingSync_spec size)
    obtain ⟨hquiet, hres⟩ := h
    show (some res'.2 = some LocationError.success → Carried _ _ ∧ (_ → Carried _ _)) ↔
      (all = true → Carried ((QUERY_OTB_ACCUMULATED_DISTANCE, query) :: (log ++
        (STOP_BATCHING eQMI_LOC_OUTDOOR_TRIP_BATCHING_V02, stop) :: (log' ++ []))) _ →
          NeverRefused _ _)
    grind

theorem truthful_addGeofence (all : Bool) :
    addGeofence.wp fun log err => Command.addGeofence.Truthful all log (some err) := by
  intro r
  refine iff_of_true (fun herr => ⟨r, mem_singleton_self _, ?_⟩) trivial
  by_contra hrefused
  have herr := some.inj herr
  rw [if_neg fun hand => hrefused hand.1] at herr
  split at herr
  · exact absurd herr nofun
  · exact absurd herr nofun

theorem truthful_configure (hq : q.hasInd = true) (all : Bool)
    (hann : ∀ log, c.Announced all log ↔ Carried log q) (hheed : ∀ log, c.Heeded all log) :
    (configure q).wp fun log err => c.Truthful all log (some err) := by
  intro r
  refine iff_of_true (fun herr => ?_) (hheed _)
  refine (hann _).mpr ⟨r, mem_singleton_self _, (accepted_iff hq).trans ?_⟩
  have herr := some.inj herr
  split at herr
  case isTrue hbad =>
    simp only [configError] at herr
    split at herr
    · exact absurd herr nofun
    · exact absurd herr nofun
  case isFalse hgood =>
    rw [not_or, not_not, not_not] at hgood
    rw [hgood.1, hgood.2]
    rfl

/-! ## All of them -/

theorem truthful_result {α : Type} {all : Bool} (talk : Talk α) (f : α → Remembered)
    (g : α → Option LocationError) (h : talk.wp fun log a => c.Truthful all log (g a)) :
    (talk >>= fun a => pure (f a, g a)).wp fun log res => c.Truthful all log res.2 :=
  (wp_bind_pure talk fun a => (f a, g a)).mpr h

theorem truthful_perform (all : Bool) (fuel : Nat) (s : Remembered) (c : Command) :
    (perform fuel s c).wp fun log res => c.Truthful all log res.2 := by
  cases c with
  | startFix => exact wp_answered.mpr (truthful_startFix all)
  | stopFix => exact wp_answered.mpr (truthful_stop all (fun _ => Iff.rfl) fun _ => trivial)
  | startTimeBasedTracking => exact wp_answered.mpr (truthful_startTimeBasedTracking all)
  | stopTimeBasedTracking =>
    exact wp_answered.mpr (truthful_stop all (fun _ => Iff.rfl) fun _ => trivial)
  | startDistanceBasedTracking =>
    exact fun r => truthful_always all (fun _ => Iff.rfl) (fun _ => Iff.rfl) r
  | stopDistanceBasedTracking =>
    exact fun r => truthful_always all (fun _ => Iff.rfl) (fun _ => Iff.rfl) r
  | setConstellationControl mask =>
    exact wp_answered.mpr (truthful_setConstellationControl mask all)
  | resetConstellationControl => exact fun r => truthful_logged all _ Iff.rfl Iff.rfl rfl
  | setBlacklistSv =>
    exact wp_answered.mpr (truthful_oneRequest rfl all (fun _ => Iff.rfl) fun _ => trivial)
  | deleteAidingData =>
    exact truthful_result (deleteAidingData s.isNewApiSupported)
      (fun res => { s with isNewApiSupported := res.1 }) (fun res => some res.2)
      (truthful_deleteAidingData s.isNewApiSupported all)
  | startBatching =>
    exact truthful_result (startBatching s.mBatchSize)
      (fun res => { s with mBatchSize := res.1 }) (fun res => some res.2)
      (truthful_startBatching s.mBatchSize all)
  | stopBatching =>
    exact wp_answered.mpr (truthful_oneRequest rfl all (fun _ => Iff.rfl) fun _ => trivial)
  | startOutdoorTripBatching =>
    refine truthful_result (startOutdoorTripBatchingSync s.mTripBatchSize)
      (fun res => { s with mTripBatchSize := res.1 }) (fun res => some res.2)
      (wp_mono (fun log res h => ?_) (startOutdoorTripBatchingSync_spec s.mTripBatchSize))
    exact iff_of_true (fun herr => h.2.mp (some.inj herr)) trivial
  | reStartOutdoorTripBatching =>
    exact truthful_result (reStartOutdoorTripBatching fuel s.mTripBatchSize)
      (fun res => { s with mTripBatchSize := res.1 }) (fun res => res.2)
      (truthful_reStartOutdoorTripBatching fuel s.mTripBatchSize all)
  | stopOutdoorTripBatching dealloc =>
    exact truthful_result (stopOutdoorTripBatchingSync s.mTripBatchSize dealloc)
      (fun res => { s with mTripBatchSize := res.1 }) (fun res => some res.2)
      (truthful_stopOutdoorTripBatchingSync s.mTripBatchSize dealloc all)
  | getBatchedLocations count =>
    exact truthful_result _ (fun _ => s) (fun res => res)
      (truthful_getBatchedLocations fuel _ count all (fun _ => Iff.rfl) fun _ => Iff.rfl)
  | getBatchedTripLocations count =>
    exact truthful_result _ (fun _ => s) (fun res => res)
      (truthful_getBatchedLocations fuel _ count all (fun _ => Iff.rfl) fun _ => Iff.rfl)
  | queryAccumulatedTripDistance =>
    intro r
    refine iff_of_true (fun herr => ?_) trivial
    exact ⟨r, mem_singleton_self _, errorOf_eq_success.mp (some.inj herr)⟩
  | addGeofence => exact wp_answered.mpr (truthful_addGeofence all)
  | removeGeofence | pauseGeofence | resumeGeofence | modifyGeofence | setConstrainedTuncMode
  | setPositionAssistedClockEstimatorMode =>
    exact wp_answered.mpr (truthful_oneRequest rfl all (fun _ => Iff.rfl) fun _ => trivial)
  | configRobustLocation | configMinGpsWeek | configConstellationMultiBand =>
    exact wp_answered.mpr (truthful_configure rfl all (fun _ => Iff.rfl) fun _ => trivial)

/-- Success is answered only if the modem has accepted what the command
announces, exactly if its replies are heeded. -/
theorem success_iff (all : Bool) (fuel : Nat) (s : Remembered) (c : Command)
    (answers : Nat → Reply) :
    (((perform fuel s c).run answers).2.2 = some .success →
      c.Announced all ((perform fuel s c).run answers).1) ↔
        c.Heeded all ((perform fuel s c).run answers).1 :=
  run_of_wp (truthful_perform all fuel s c) answers

/-- A modem that takes every request and refuses it. -/
def refusal : Reply := ⟨eLOC_CLIENT_SUCCESS, ⟨eQMI_LOC_GENERAL_FAILURE_V02, false, 0, 0, 0⟩⟩

theorem not_announced_resetConstellationControl :
    ¬ ∀ (fuel : Nat) (s : Remembered) (c : Command) (answers : Nat → Reply),
      ((perform fuel s c).run answers).2.2 = some .success →
        c.Announced false ((perform fuel s c).run answers).1 := by
  intro h
  obtain ⟨r, hr, hacc⟩ := h 0 ⟨true, 0, 0⟩ .resetConstellationControl (fun _ => refusal) rfl
  obtain ⟨-, rfl⟩ := Prod.mk.inj (mem_singleton.mp hr)
  exact absurd hacc (by decide)

end LocStack.LocApi
