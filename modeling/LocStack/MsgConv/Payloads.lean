/-
# `LocStack.MsgConv.Payloads` — batches, geofences and their answers in the messages

The decoders for what goes between the client API and the daemon around a
session.  The arrays they fill are declared with one cell, as the end of a
structure that is allocated for its count, or with MAX_GEOFENCE_ENTRY:

    CollectiveResPayload                resp[1]
    LocAPIBatchNotification             location[1]
    LocAPIGeofenceBreachNotification    id[1]
    GeofencesAddedReqPayload            gfPayload[MAX_GEOFENCE_ENTRY]
    GeofencesReqClientIdPayload         gfIds[MAX_GEOFENCE_ENTRY]

A decoder gets the structure as it is declared.
-/
import LocStack.MsgConv.Fixes

namespace LocStack.MsgConv

open Base

def MAX_GEOFENCE_ENTRY : ℕ := 20

/-! ## Answers -/

structure GeofenceResponse where
  clientId : UInt32
  error : Open LocationError

structure CollectiveResPayload where
  count : UInt32
  resp : Cells 1 GeofenceResponse

structure PBGeofenceResponse where
  clientId : UInt32
  error : Open PBLocationError

structure PBCollectiveResPayload where
  resp : List PBGeofenceResponse

def pbConvertToGeofenceResponse (pbResp : PBGeofenceResponse) : GeofenceResponse where
  clientId := pbResp.clientId
  error := .member (getEnumForPBLocationError pbResp.error)

def pbConvertToCollectiveResPayload (pbClctResPayload : PBCollectiveResPayload) :
    Option CollectiveResPayload := do
  let count := pbClctResPayload.resp.length
  let resp ← Cells.fill count (Cells.each pbClctResPayload.resp pbConvertToGeofenceResponse)
    Cells.empty
  return { count := count.toUInt32, resp := resp }

/-! ## Batches -/

structure LocAPIBatchNotification where
  count : UInt32
  status : Open BatchingStatus
  location : Cells 1 Location

structure PBLocAPIBatchNotification where
  status : Open PBBatchingStatus
  location : List PBLocation

def pbConvertToLocAPIBatchNotification (pbLocBatchNotif : PBLocAPIBatchNotification) :
    Option LocAPIBatchNotification := do
  let count := pbLocBatchNotif.location.length
  let location ← Cells.fill count (Cells.each pbLocBatchNotif.location pbConvertToLocation)
    Cells.empty
  return {
    count := count.toUInt32
    status := .member (getEnumForPBBatchingStatus pbLocBatchNotif.status)
    location := location }

/-! ## Breaches -/

/-- The ids are as many as the structure was allocated for. -/
structure LocAPIGeofenceBreachNotification (n : ℕ) where
  /-- `none` if nothing has been assigned to it -/
  count : Option UInt32
  timestamp : UInt64
  type : BitVec 16
  location : Location
  id : Cells n UInt32

structure PBLocAPIGeofenceBreachNotification where
  timestamp : UInt64
  breachtype : BitVec 32
  location : PBLocation
  id : List UInt32

/-- breachtype is the type as it is. -/
def convertLocAPIGfBreachNotifToPB {n : ℕ}
    (locApiGfBreachNotif : LocAPIGeofenceBreachNotification n) :
    Option PBLocAPIGeofenceBreachNotification := do
  let count ← locApiGfBreachNotif.count
  let id ← Cells.gather count.toNat locApiGfBreachNotif.id.read
  return {
    timestamp := locApiGfBreachNotif.timestamp
    breachtype := locApiGfBreachNotif.type.setWidth 32
    location := convertLocationToPB locApiGfBreachNotif.location
    id := id }

/-- One id is taken, and no count is set. -/
def pbConvertToLocAPIGfBreachNotification
    (pbLocApiGfBreachNotif : PBLocAPIGeofenceBreachNotification) :
    Option (LocAPIGeofenceBreachNotification 1) := do
  let first ← pbLocApiGfBreachNotif.id[0]?
  let id ← Cells.empty.write 0 first
  return {
    count := none
    timestamp := pbLocApiGfBreachNotif.timestamp
    type := (getGfBreachTypeMaskFromPB pbLocApiGfBreachNotif.breachtype).setWidth 16
    location := pbConvertToLocation pbLocApiGfBreachNotif.location
    id := id }

theorem pbConvertToLocAPIGfBreachNotification_cons {timestamp : UInt64} {breachtype : BitVec 32}
    {location : PBLocation} (first : UInt32) (rest : List UInt32) :
    pbConvertToLocAPIGfBreachNotification ⟨timestamp, breachtype, location, first :: rest⟩ = some {
        count := none
        timestamp := timestamp
        type := (getGfBreachTypeMaskFromPB breachtype).setWidth 16
        location := pbConvertToLocation location
        id := ⟨Function.update (fun _ => none) 0 (some first)⟩ } :=
  rfl

theorem count_eq_none {pb : PBLocAPIGeofenceBreachNotification}
    {d : LocAPIGeofenceBreachNotification 1}
    (h : pbConvertToLocAPIGfBreachNotification pb = some d) : d.count = none := by
  obtain ⟨timestamp, breachtype, location, id⟩ := pb
  cases id with
  | nil => cases h
  | cons first rest =>
    rw [pbConvertToLocAPIGfBreachNotification_cons] at h
    cases h
    rfl

/-! ## Requests -/

structure GeofenceOption where
  breachTypeMask : BitVec 16
  (responsiveness dwellTime : UInt32)

structure GeofenceInfo where
  (latitude longitude radius : Float)

structure GeofencePayload where
  gfClientId : UInt32
  gfOption : GeofenceOption
  gfInfo : GeofenceInfo

structure GeofencesAddedReqPayload where
  count : UInt32
  gfPayload : Cells MAX_GEOFENCE_ENTRY GeofencePayload

structure GeofencesReqClientIdPayload where
  count : UInt32
  gfIds : Cells MAX_GEOFENCE_ENTRY UInt32

structure PBGeofenceOption where
  breachTypeMask : BitVec 32
  (responsiveness dwellTime : UInt32)

structure PBGeofenceInfo where
  (latitude longitude radius : Float)

structure PBGeofencePayload where
  gfClientId : UInt32
  gfOption : PBGeofenceOption
  gfInfo : PBGeofenceInfo

structure PBGeofencesAddedReqPayload where
  gfPayload : List PBGeofencePayload

structure PBGeofencesReqClientIdPayload where
  gfIds : List UInt32

def pbConvertToGeofenceOption (pbGfOpt : PBGeofenceOption) : GeofenceOption where
  breachTypeMask := (getGfBreachTypeMaskFromPB pbGfOpt.breachTypeMask).setWidth 16
  responsiveness := pbGfOpt.responsiveness
  dwellTime := pbGfOpt.dwellTime

def pbConvertToGeofenceInfo (pbGfInfo : PBGeofenceInfo) : GeofenceInfo :=
  ⟨pbGfInfo.latitude, pbGfInfo.longitude, pbGfInfo.radius⟩

/-- One turn of the loop in pbConvertToGfAddReqPayload. -/
def pbConvertToGeofencePayload (pbGfPayload : PBGeofencePayload) : GeofencePayload where
  gfClientId := pbGfPayload.gfClientId
  gfOption := pbConvertToGeofenceOption pbGfPayload.gfOption
  gfInfo := pbConvertToGeofenceInfo pbGfPayload.gfInfo

def pbConvertToGfAddReqPayload (pbGfAddReqPload : PBGeofencesAddedReqPayload) :
    Option GeofencesAddedReqPayload := do
  let gfCount := pbGfAddReqPload.gfPayload.length
  let gfPayload ← Cells.fill gfCount
    (Cells.each pbGfAddReqPload.gfPayload pbConvertToGeofencePayload) Cells.empty
  return { count := gfCount.toUInt32, gfPayload := gfPayload }

def pbConvertToGfReqClientIdPayload (pbGfReqClientIdPload : PBGeofencesReqClientIdPayload) :
    Option GeofencesReqClientIdPayload := do
  let gfCount := pbGfReqClientIdPload.gfIds.length
  let gfIds ← Cells.fill gfCount (Cells.each pbGfReqClientIdPload.gfIds id) Cells.empty
  return { count := gfCount.toUInt32, gfIds := gfIds }

end LocStack.MsgConv
