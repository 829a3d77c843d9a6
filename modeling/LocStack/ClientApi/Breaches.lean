/-
# `LocStack.ClientApi.Breaches` — a breach from LocationAPI to the application

    LocationAPI    sessions, type of the breach
        onGeofenceBreachCb           ids of the client, mask
    message        put together in zeroed bytes
        serializeToProtobuf          a list of ids
    IPC
        the constructor              id[1], no count
    client         onReceive         geofences, by mGeofenceMap

The bytes of the message are zeroed and never constructed in: the message has
no converter, and there is nothing to send (`not_delivered`).
-/
import LocStack.ClientApi.Geofences
import LocStack.Daemon.GeofenceIds
import LocStack.MsgConv.Payloads
import LocStack.MsgConv.RoundTrip

namespace LocStack.ClientApi

open Base
open Daemon (GeofencesHandler Visits)
open MsgConv (LocAPIGeofenceBreachNotification PBLocAPIGeofenceBreachNotification Open Bits
  ELocMsgID PBELocMsgID GeofenceBreachTypeBits LocationFlagsBits LocationTechnologyBits)

namespace Breaches

/-! ## Positions of the client API -/

/-- LOCATION_HAS_*_BIT -/
inductive LocationFlagsMask where
  | LAT_LONG | ALTITUDE | SPEED | BEARING | ACCURACY | VERTICAL_ACCURACY | SPEED_ACCURACY
  | BEARING_ACCURACY | TIMESTAMP

instance : Bits LocationFlagsMask := ⟨fun e => 1 <<< e.ctorIdx⟩

/-- LOCATION_TECHNOLOGY_*_BIT -/
inductive LocationTechnologyMask where
  | GNSS | CELL | WIFI | SENSORS | REFERENCE_LOCATION | INJECTED_COARSE_POSITION | AFLT | HYBRID
  | PPE | VEH | VIS

instance : Bits LocationTechnologyMask := ⟨fun e => 1 <<< e.ctorIdx⟩

/-- GEOFENCE_BREACH_*_BIT -/
inductive GeofenceBreachTypeMask where
  | ENTER | EXIT | DWELL_IN | DWELL_OUT

instance : Bits GeofenceBreachTypeMask := ⟨fun e => 1 <<< e.ctorIdx⟩

structure Location where
  flags : BitVec 32
  timestamp : UInt64
  (latitude longitude altitude : Float)
  (speed bearing horizontalAccuracy verticalAccuracy speedAccuracy bearingAccuracy : Float32)
  techMask : BitVec 32

def parseLocationFlags (timestamp : UInt64) (flags : BitVec 16) : BitVec 32 :=
  (MsgConv.flags LocationFlagsBits LocationFlagsMask
    [(.LAT_LONG_BIT, .LAT_LONG), (.ALTITUDE_BIT, .ALTITUDE), (.SPEED_BIT, .SPEED),
     (.BEARING_BIT, .BEARING), (.ACCURACY_BIT, .ACCURACY),
     (.VERTICAL_ACCURACY_BIT, .VERTICAL_ACCURACY), (.SPEED_ACCURACY_BIT, .SPEED_ACCURACY),
     (.BEARING_ACCURACY_BIT, .BEARING_ACCURACY)]).onto flags
    (if timestamp ≠ 0 then MsgConv.word [LocationFlagsMask.TIMESTAMP] else 0)

def parseTechMask (techMask : BitVec 16) : BitVec 32 :=
  MsgConv.translate LocationTechnologyBits LocationTechnologyMask
    [(.GNSS, .GNSS), (.CELL, .CELL), (.WIFI, .WIFI), (.SENSORS, .SENSORS),
     (.REFERENCE_LOCATION, .REFERENCE_LOCATION),
     (.INJECTED_COARSE_POSITION, .INJECTED_COARSE_POSITION), (.AFLT, .AFLT), (.HYBRID, .HYBRID),
     (.PPE, .PPE), (.VEH, .VEH), (.VIS, .VIS)] techMask

def parseLocation (halLocation : MsgConv.Location) : Location where
  flags := parseLocationFlags halLocation.timestamp halLocation.flags
  timestamp := halLocation.timestamp
  latitude := halLocation.latitude
  longitude := halLocation.longitude
  altitude := halLocation.altitude
  speed := halLocation.speed
  bearing := halLocation.bearing
  horizontalAccuracy := halLocation.accuracy
  verticalAccuracy := halLocation.verticalAccuracy
  speedAccuracy := halLocation.speedAccuracy
  bearingAccuracy := halLocation.bearingAccuracy
  techMask := parseTechMask halLocation.techMask

/-! ## The daemon -/

/-- GEOFENCE_BREACH_* -/
inductive GeofenceBreachType where
  | ENTER | EXIT | DWELL_IN | DWELL_OUT | UNKNOWN

/-- What LocationAPI reports.  The ids are its sessions. -/
structure GeofenceBreachNotification where
  ids : List UInt32
  location : MsgConv.Location
  type : GeofenceBreachType
  timestamp : UInt64

def parseClientGeofenceBreachType : GeofenceBreachType → BitVec 16
  | .ENTER => MsgConv.word [GeofenceBreachTypeBits.ENTER]
  | .EXIT => MsgConv.word [GeofenceBreachTypeBits.EXIT]
  | .DWELL_IN => MsgConv.word [GeofenceBreachTypeBits.DWELL_IN]
  | .DWELL_OUT => MsgConv.word [GeofenceBreachTypeBits.DWELL_OUT]
  | .UNKNOWN => 0

def SERVICE_NAME : String := "locapiservice"

def LOCATION_REMOTE_API_MSG_VERSION : UInt32 := 1

/-- A message, allocated for `n` ids. -/
structure LocAPIGeofenceBreachIndMsg (n : ℕ) where
  mSocketName : String
  msgId : Open ELocMsgID
  msgVersion : UInt32
  /-- not null -/
  pLocApiPbMsgConv : Bool
  gfBreachNotification : LocAPIGeofenceBreachNotification n

/-- What goes over IPC, with the breach as its payload. -/
structure PBLocAPIMsgHeader where
  msocketname : String
  msgid : PBELocMsgID
  msgversion : UInt32
  payload : PBLocAPIGeofenceBreachNotification

/-- `serializeToProtobuf`; `none` where it returns 0, or comes to a fault. -/
def LocAPIGeofenceBreachIndMsg.serializeToProtobuf {n : ℕ} (msg : LocAPIGeofenceBreachIndMsg n) :
    Option PBLocAPIMsgHeader :=
  if msg.pLocApiPbMsgConv then do
    let payload ← MsgConv.convertLocAPIGfBreachNotifToPB msg.gfBreachNotification
    return {
      msocketname := msg.mSocketName
      msgid := MsgConv.getPBEnumForELocMsgID msg.msgId
      msgversion := msg.msgVersion
      payload := payload }
  else none

/-- Of a LocHalDaemonClientHandler, what breaches are about. -/
structure BreachHandler extends GeofencesHandler where
  mSubscriptionMask : UInt32

/-- The memory of the message is set to 0, and these members are assigned to
it. -/
def BreachHandler.breachMsg (h : BreachHandler) (visits : Visits)
    (gfBreachNotif : GeofenceBreachNotification) :
    LocAPIGeofenceBreachIndMsg gfBreachNotif.ids.length :=
  let clientIds := h.getClientIds visits gfBreachNotif.ids
  { mSocketName := SERVICE_NAME
    msgId := .member .LOCAPI_GEOFENCE_BREACH
    msgVersion := LOCATION_REMOTE_API_MSG_VERSION
    -- nobody has assigned to it
    pLocApiPbMsgConv := false
    gfBreachNotification := {
      count := some gfBreachNotif.ids.length.toUInt32
      timestamp := gfBreachNotif.timestamp
      type := parseClientGeofenceBreachType gfBreachNotif.type
      location := gfBreachNotif.location
      id := Cells.firsts gfBreachNotif.ids.length fun i => clientIds[i]? } }

/-- What is sent.  `getClientIds` is null for no ids. -/
def BreachHandler.onGeofenceBreachCb (h : BreachHandler) (visits : Visits)
    (gfBreachNotif : GeofenceBreachNotification) : Option PBLocAPIMsgHeader :=
  if h.mIpcSender ∧ h.mSubscriptionMask &&& Daemon.E_LOC_CB_GEOFENCE_BREACH_BIT ≠ 0 ∧
      gfBreachNotif.ids.length > 0 then
    (h.breachMsg visits gfBreachNotif).serializeToProtobuf
  else none

/-! ## The client -/

/-- What the application gets. -/
structure GfBreachCall where
  cb : Callback
  geofences : List Geofence
  location : Location
  type : BitVec 32
  timestamp : UInt64

/-- `*(id + i)`, and the geofence that it is. -/
def geofenceAt (mGeofenceMap : GeofenceMap) (id : Cells 1 UInt32) (i : ℕ) : Option Geofence :=
  (id.read i).bind mGeofenceMap

/-- The case of a breach.  The message is decoded into memory that holds
`stack` where the count is.  `none`: something is read that is not there, or
`at` throws. -/
def breachCase (c : GeofencingClient) (stack : UInt32)
    (payload : PBLocAPIGeofenceBreachNotification) : Option (List GfBreachCall) :=
  if c.impl.mCallbacksMask &&& Daemon.E_LOC_CB_GEOFENCE_BREACH_BIT ≠ 0 then do
    let notif ← MsgConv.pbConvertToLocAPIGfBreachNotification payload
    let count := notif.count.getD stack
    let geofences ← Cells.gather count.toNat (geofenceAt c.mGeofenceMap notif.id)
    return (c.impl.mGfBreachCb.map fun cb =>
      ⟨cb, geofences, parseLocation notif.location, notif.type.setWidth 32, notif.timestamp⟩).toList
  else some []

/-- The breaches that are reported; the other messages report none. -/
def onReceive (c : GeofencingClient) (stack : UInt32) (pbLocApiMsg : PBLocAPIMsgHeader) :
    Option (List GfBreachCall) :=
  if pbLocApiMsg.msocketname = SERVICE_NAME then
    match MsgConv.getEnumForPBELocMsgID (.member pbLocApiMsg.msgid) with
    | .LOCAPI_GEOFENCE_BREACH => breachCase c stack pbLocApiMsg.payload
    | _ => some []
  else some []

/-! ## What the messages leave as it is -/

/-- The flag of the client API with the name of the type. -/
def GeofenceBreachType.mask : GeofenceBreachType → BitVec 32
  | .ENTER => MsgConv.word [GeofenceBreachTypeMask.ENTER]
  | .EXIT => MsgConv.word [GeofenceBreachTypeMask.EXIT]
  | .DWELL_IN => MsgConv.word [GeofenceBreachTypeMask.DWELL_IN]
  | .DWELL_OUT => MsgConv.word [GeofenceBreachTypeMask.DWELL_OUT]
  | .UNKNOWN => 0

/-! ## Delivered -/

/-- The geofence of the application that a session is of. -/
def IsGeofenceOf (h : BreachHandler) (c : GeofencingClient) (session : UInt32) (g : Geofence) :
    Prop :=
  ∃ id, h.mGfIdsMap.lookup id = some session ∧
    (∀ id', h.mGfIdsMap.lookup id' = some session → id' = id) ∧ c.mGeofenceMap id = some g

/-- The application gets these geofences, with what LocationAPI has reported of
them. -/
def Reaches (c : GeofencingClient) (stack : UInt32) (gfBreachNotif : GeofenceBreachNotification)
    (geofences : List Geofence) (sent : Option PBLocAPIMsgHeader) : Prop :=
  ∃ pbLocApiMsg cb, sent = some pbLocApiMsg ∧ c.impl.mGfBreachCb = some cb ∧
    onReceive c stack pbLocApiMsg =
      some [⟨cb, geofences, parseLocation gfBreachNotif.location, gfBreachNotif.type.mask,
        gfBreachNotif.timestamp⟩]

def Delivered (h : BreachHandler) (visits : Visits) (c : GeofencingClient) (stack : UInt32)
    (gfBreachNotif : GeofenceBreachNotification) (geofences : List Geofence) : Prop :=
  Reaches c stack gfBreachNotif geofences (h.onGeofenceBreachCb visits gfBreachNotif)

/-- Handler and client want breaches, and know the geofences of this one. -/
structure Ready (h : BreachHandler) (c : GeofencingClient)
    (gfBreachNotif : GeofenceBreachNotification) (geofences : List Geofence) : Prop where
  sender : h.mIpcSender = true
  subscribed : h.mSubscriptionMask &&& Daemon.E_LOC_CB_GEOFENCE_BREACH_BIT ≠ 0
  ids : gfBreachNotif.ids ≠ []
  type : gfBreachNotif.type ≠ .UNKNOWN
  known : List.Forall₂ (IsGeofenceOf h c) gfBreachNotif.ids geofences
  asked : c.impl.mCallbacksMask &&& Daemon.E_LOC_CB_GEOFENCE_BREACH_BIT ≠ 0
  callback : c.impl.mGfBreachCb.isSome

variable {h : BreachHandler} {visits : Visits} {c : GeofencingClient} {stack : UInt32}
  {gfBreachNotif : GeofenceBreachNotification} {geofences : List Geofence}

/-! ## As it is -/

theorem onGeofenceBreachCb_eq_none (h : BreachHandler) (visits : Visits)
    (gfBreachNotif : GeofenceBreachNotification) :
    h.onGeofenceBreachCb visits gfBreachNotif = none :=
  ite_self none

/-- No breach is delivered. -/
theorem not_delivered (h : BreachHandler) (visits : Visits) (c : GeofencingClient)
    (stack : UInt32) (gfBreachNotif : GeofenceBreachNotification) (geofences : List Geofence) :
    ¬ Delivered h visits c stack gfBreachNotif geofences := by
  rintro ⟨msg, -, hmsg, -⟩
  rw [onGeofenceBreachCb_eq_none] at hmsg
  cases hmsg

/-- The first geofence of an application. -/
def firstFence : Geofence := ⟨some 1, 48, 11, 100, 1, 0, 0⟩

/-- A handler with the geofence 1 as session 11, and breaches subscribed to. -/
def firstHandler : BreachHandler where
  toGeofencesHandler := { GeofencesHandler.new true true with
    mGfIdsMap := AList.insert 1 11 ∅ }
  mSubscriptionMask := Daemon.E_LOC_CB_GEOFENCE_BREACH_BIT

/-- Its client. -/
def firstClient : GeofencingClient :=
  { GeofencingClient.new with
    impl := { LocationClientApiImpl.new with
      mCallbacksMask := Daemon.E_LOC_CB_GEOFENCE_BREACH_BIT
      mGfBreachCb := some 5 }
    mGeofenceMap := GeofenceMap.insert (fun _ => none) 1 firstFence }

def firstBreach : GeofenceBreachNotification where
  ids := [11]
  location := ⟨1, 1000, 48, 11, 500, 1, 90, 3, 4, 5, 6, 1⟩
  type := .ENTER
  timestamp := 1000

theorem ready_first : Ready firstHandler firstClient firstBreach [firstFence] where
  sender := rfl
  subscribed := by decide
  ids := List.cons_ne_nil 11 []
  type := GeofenceBreachType.noConfusion
  known := by
    refine .cons ⟨1, AList.lookup_insert _, fun id' hid' => ?_, rfl⟩ .nil
    by_contra hne
    have hnone : firstHandler.mGfIdsMap.lookup id' = none :=
      (AList.lookup_insert_ne hne).trans (AList.lookup_empty id')
    rw [hnone] at hid'
    cases hid'
  asked := by decide
  callback := rfl

/-- An entry into the one geofence that there is. -/
theorem not_delivered_first :
    ¬ ∀ (h : BreachHandler) (visits : Visits) (c : GeofencingClient) (stack : UInt32)
      (gfBreachNotif : GeofenceBreachNotification) (geofences : List Geofence),
      Ready h c gfBreachNotif geofences →
        Delivered h visits c stack gfBreachNotif geofences := by
  intro hall
  obtain ⟨msg, -, hmsg, -⟩ := hall _ .inOrder _ 1 _ _ ready_first
  rw [onGeofenceBreachCb_eq_none] at hmsg
  cases hmsg

end Breaches

end LocStack.ClientApi
