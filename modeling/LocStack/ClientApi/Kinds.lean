/-
# `LocStack.ClientApi.Kinds` — position session, batching and geofences at once

A client has one set of callbacks and one mask for all that it runs, and a
start of any kind replaces both by those of its own:

    updateCallbackFunctions    every callback, null where it is not given
    updateCallbacks            the bits of what is given, and no others
    stopTracking               no bits at all

`framed_iff`: each kind keeps its callbacks and bits while it is in force,
and its indications are delivered to the callbacks registered for it, if and
only if

* a session of one kind is started only while no other kind is in force that
  has asked for anything;
* a position session is stopped only while neither batching nor geofences
  are in force.
-/
import LocStack.ClientApi.Mask

namespace LocStack.ClientApi

open Base Daemon Option

/-! ## What a kind has of the client -/

inductive SessionKind where
  | position | batching | geofences
  deriving DecidableEq

def SessionKind.bits : SessionKind → UInt32
  | .position => LOCATION_SESSON_ALL_INFO_MASK
  | .batching => batchingMask
  | .geofences => E_LOC_CB_GEOFENCE_BREACH_BIT

/-- The callbacks of a kind, and its bits of the mask. -/
structure Share where
  callbacks : List (Option Callback)
  bits : UInt32

/-- What is received for a session that is in force. -/
inductive Indication where
  | location | locationInfo | engineLocationsInfo | satelliteVehicle | nmea | data | meas | batching
  | geofenceBreach

def Indication.kind : Indication → SessionKind
  | .batching => .batching
  | .geofenceBreach => .geofences
  | _ => .position

/-- The bits that let an indication through. -/
def Indication.bits : Indication → UInt32
  | .location => E_LOC_CB_DISTANCE_BASED_TRACKING_BIT ||| E_LOC_CB_SIMPLE_LOCATION_INFO_BIT
  | .locationInfo => E_LOC_CB_GNSS_LOCATION_INFO_BIT
  | .engineLocationsInfo => E_LOC_CB_ENGINE_LOCATIONS_INFO_BIT
  | .satelliteVehicle => E_LOC_CB_GNSS_SV_BIT
  | .nmea => E_LOC_CB_GNSS_NMEA_BIT
  | .data => E_LOC_CB_GNSS_DATA_BIT
  | .meas => E_LOC_CB_GNSS_MEAS_BIT
  | .batching => E_LOC_CB_BATCHING_BIT
  | .geofenceBreach => E_LOC_CB_GEOFENCE_BREACH_BIT

/-- Whether an indication is for a position session that is active. -/
def Indication.needsSession : Indication → Bool
  | .satelliteVehicle | .batching | .geofenceBreach => false
  | _ => true

namespace LocationClientApiImpl

variable (s : LocationClientApiImpl)

def kindCallbacks : SessionKind → List (Option Callback)
  | .position => [s.mLocationCb, s.mGnssLocationCb, s.mEngLocationsCb, s.mGnssSvCb, s.mGnssNmeaCb,
      s.mGnssDataCb, s.mGnssMeasurementsCb]
  | .batching => [s.mBatchingCb]
  | .geofences => [s.mGfBreachCb, s.mCollectiveResCb]

def share (kind : SessionKind) : Share := ⟨s.kindCallbacks kind, s.mCallbacksMask &&& kind.bits⟩

def callback : Indication → Option Callback
  | .location => s.mLocationCb
  | .locationInfo => s.mGnssLocationCb
  | .engineLocationsInfo => s.mEngLocationsCb
  | .satelliteVehicle => s.mGnssSvCb
  | .nmea => s.mGnssNmeaCb
  | .data => s.mGnssDataCb
  | .meas => s.mGnssMeasurementsCb
  | .batching => s.mBatchingCb
  | .geofenceBreach => s.mGfBreachCb

/-- The callback that is invoked when an indication is received. -/
def deliver (i : Indication) : Option Callback :=
  if (i.needsSession = true → s.mSessionId = true) ∧ s.mCallbacksMask &&& i.bits ≠ 0 then
    s.callback i
  else none

end LocationClientApiImpl

/-! ## The calls -/

inductive KindCall where
  | startPosition (session : PositionSession) (responseCallback : Option Callback)
  | stopPosition
  | startTripBatching (minInterval tripDistance : UInt32) (batchingCallback : Callback)
      (responseCallback : Option Callback)
  | startRoutineBatching (minInterval minDistance : UInt32) (batchingCallback : Callback)
      (responseCallback : Option Callback)
  | stopBatching
  | addGeofences (gfBreachCb : Callback) (responseCallback : Option Callback)
  /-- of all that there are -/
  | removeGeofences

namespace KindCall

def kind : KindCall → SessionKind
  | .startPosition .. | .stopPosition => .position
  | .startTripBatching .. | .startRoutineBatching .. | .stopBatching => .batching
  | .addGeofences .. | .removeGeofences => .geofences

def starts : KindCall → Bool
  | .startPosition .. | .startTripBatching .. | .startRoutineBatching .. | .addGeofences .. => true
  | .stopPosition | .stopBatching | .removeGeofences => false

/-- The messages that change what is stored for the sessions. -/
def messages : KindCall → List ClientMsg
  | .startPosition session responseCallback => startPositionSession session responseCallback
  | .stopPosition => stopPositionSession
  | .startTripBatching minInterval tripDistance batchingCallback responseCallback =>
    startTripBatchingSession minInterval tripDistance batchingCallback responseCallback
  | .startRoutineBatching minInterval minDistance batchingCallback responseCallback =>
    startRoutineBatchingSession minInterval minDistance batchingCallback responseCallback
  | .stopBatching => stopBatchingSession
  | .addGeofences gfBreachCb responseCallback => addGeofencesCallbacks gfBreachCb responseCallback
  | .removeGeofences => []

end KindCall

/-- The callbacks that a position session is started with. -/
def PositionSession.registers : PositionSession → Indication → Option Callback
  | .location _ _ locationCallback, .location => some locationCallback
  | .gnss _ cbs, .locationInfo => cbs.gnssLocationCallback
  | .gnss _ cbs, .satelliteVehicle => cbs.gnssSvCallback
  | .gnss _ cbs, .nmea => cbs.gnssNmeaCallback
  | .gnss _ cbs, .data => cbs.gnssDataCallback
  | .gnss _ cbs, .meas => cbs.gnssMeasurementsCallback
  | .engine _ _ cbs, .engineLocationsInfo => cbs.engLocationsCallback
  | .engine _ _ cbs, .satelliteVehicle => cbs.gnssSvCallback
  | .engine _ _ cbs, .nmea => cbs.gnssNmeaCallback
  | .engine _ _ cbs, .data => cbs.gnssDataCallback
  | .engine _ _ cbs, .meas => cbs.gnssMeasurementsCallback
  | _, _ => none

def KindCall.registers : KindCall → Indication → Option Callback
  | .startPosition session _, i => session.registers i
  | .startTripBatching _ _ batchingCallback _, .batching => some batchingCallback
  | .startRoutineBatching _ _ batchingCallback _, .batching => some batchingCallback
  | .addGeofences gfBreachCb _, .geofenceBreach => some gfBreachCb
  | _, _ => none

/-- A client, with what the last start of each kind that is in force has left
of it, and the callbacks registered by it. -/
structure KindsClient where
  impl : LocationClientApiImpl
  kept : SessionKind → Option Share
  registered : Indication → Option Callback

namespace KindsClient

/-- Before any session; registered with the daemon or not, with a listener to
the system information or not. -/
def new (mHalRegistered mLocationSysInfoCb : Bool) : KindsClient where
  impl := { LocationClientApiImpl.new with mHalRegistered, mLocationSysInfoCb }
  kept := fun _ => none
  registered := fun _ => none

variable (s : KindsClient)

/-- The messages of a call are taken. -/
def serve (c : KindCall) : KindsClient :=
  let impl := s.impl.procAll c.messages
  { impl
    kept := Function.update s.kept c.kind (if c.starts then some (impl.share c.kind) else none)
    registered := fun i => if i.kind = c.kind then c.registers i else s.registered i }

def step (c : KindCall) : KindsClient × List Empty := (s.serve c, [])

/-- Every kind in force has what it was left with, and what is received for
it is delivered to the callback registered for it. -/
structure Framed : Prop where
  kept : ∀ kind share, s.kept kind = some share → s.impl.share kind = share
  delivered : ∀ i cb, s.registered i = some cb → s.impl.deliver i = some cb

/-- Not in force, or without anything asked for. -/
def Silent (kind : SessionKind) : Prop := ∀ share, s.kept kind = some share → share.bits = 0

def Fits : KindCall → Prop
  | .startPosition .. => s.kept .batching = none ∧ s.kept .geofences = none
  | .stopPosition => s.impl.mSessionId = true → s.kept .batching = none ∧ s.kept .geofences = none
  | .startTripBatching .. | .startRoutineBatching .. =>
    s.Silent .position ∧ s.kept .geofences = none
  | .addGeofences .. => s.Silent .position ∧ s.kept .batching = none
  | .stopBatching | .removeGeofences => True

end KindsClient

/-! ## What a message leaves alone -/

namespace LocationClientApiImpl

variable {a b s : LocationClientApiImpl}

/-- The callbacks for reports and the mask are the same. -/
structure SameReports (a b : LocationClientApiImpl) : Prop where
  callback : ∀ i, a.callback i = b.callback i
  collective : a.mCollectiveResCb = b.mCollectiveResCb
  mask : a.mCallbacksMask = b.mCallbacksMask

theorem SameReports.share (h : SameReports a b) (kind : SessionKind) :
    a.share kind = b.share kind := by
  have hcallbacks : a.kindCallbacks kind = b.kindCallbacks kind := by
    have hlocation : a.mLocationCb = b.mLocationCb := h.callback .location
    have hinfo : a.mGnssLocationCb = b.mGnssLocationCb := h.callback .locationInfo
    have hengine : a.mEngLocationsCb = b.mEngLocationsCb := h.callback .engineLocationsInfo
    have hsv : a.mGnssSvCb = b.mGnssSvCb := h.callback .satelliteVehicle
    have hnmea : a.mGnssNmeaCb = b.mGnssNmeaCb := h.callback .nmea
    have hdata : a.mGnssDataCb = b.mGnssDataCb := h.callback .data
    have hmeas : a.mGnssMeasurementsCb = b.mGnssMeasurementsCb := h.callback .meas
    have hbatching : a.mBatchingCb = b.mBatchingCb := h.callback .batching
    have hbreach : a.mGfBreachCb = b.mGfBreachCb := h.callback .geofenceBreach
    unfold kindCallbacks
    rw [hlocation, hinfo, hengine, hsv, hnmea, hdata, hmeas, hbatching, hbreach, h.collective]
  unfold LocationClientApiImpl.share
  rw [hcallbacks, h.mask]

theorem sameReports_invoke (responseCode : LocationResponse) :
    SameReports (s.invokePositionSessionResponseCb responseCode).1 s ∧
      (s.invokePositionSessionResponseCb responseCode).1.mSessionId = s.mSessionId := by
  unfold invokePositionSessionResponseCb
  split <;> exact ⟨⟨fun i => by cases i <;> rfl, rfl, rfl⟩, rfl⟩

theorem sameReports_startTracking (option : TrackingOptions) :
    SameReports (s.startTracking option).1 s ∧ (s.startTracking option).1.mSessionId = true := by
  unfold startTracking
  split
  · exact ⟨⟨fun i => by cases i <;> rfl, rfl, rfl⟩, rfl⟩
  split
  · exact ⟨⟨fun i => by cases i <;> rfl, rfl, rfl⟩, rfl⟩
  rename_i hactive
  rw [Bool.not_eq_false] at hactive
  split
  · exact ⟨⟨fun i => by cases i <;> rfl, rfl, rfl⟩, hactive⟩
  · obtain ⟨hreports, hsession⟩ := sameReports_invoke (s := s) .LOCATION_RESPONSE_SUCCESS
    exact ⟨hreports, hsession.trans hactive⟩

theorem sameReports_startBatching (batchOptions : BatchOptions) :
    SameReports (s.startBatching batchOptions).1 s ∧
      (s.startBatching batchOptions).1.mSessionId = s.mSessionId := by
  unfold startBatching
  dsimp only
  split
  · exact ⟨⟨fun i => by cases i <;> rfl, rfl, rfl⟩, rfl⟩
  split <;> exact ⟨⟨fun i => by cases i <;> rfl, rfl, rfl⟩, rfl⟩

theorem sameReports_stopBatching :
    SameReports s.stopBatching.1 s ∧ s.stopBatching.1.mSessionId = s.mSessionId := by
  unfold stopBatching
  split <;> exact ⟨⟨fun i => by cases i <;> rfl, rfl, rfl⟩, rfl⟩

/-! ## What is delivered -/

theorem bits_of_kind (i : Indication) : i.kind.bits &&& i.bits = i.bits := by
  cases i <;> decide

variable {i : Indication}

theorem deliver_congr (hshare : a.share i.kind = b.share i.kind)
    (hsession : i.needsSession = true → a.mSessionId = b.mSessionId) :
    a.deliver i = b.deliver i := by
  have hbits : a.mCallbacksMask &&& i.bits = b.mCallbacksMask &&& i.bits := by
    have hkind : a.mCallbacksMask &&& i.kind.bits = b.mCallbacksMask &&& i.kind.bits :=
      congrArg Share.bits hshare
    rw [← bits_of_kind i, ← UInt32.and_assoc, ← UInt32.and_assoc, hkind]
  have hcallback : a.callback i = b.callback i := by
    have hkind : a.kindCallbacks i.kind = b.kindCallbacks i.kind := congrArg Share.callbacks hshare
    cases i <;> simp_all [Indication.kind, kindCallbacks, callback]
  have hneeds : (i.needsSession = true → a.mSessionId = true) ↔
      (i.needsSession = true → b.mSessionId = true) :=
    forall_congr' fun hi => by rw [hsession hi]
  unfold deliver
  simp only [hbits, hcallback, hneeds]

theorem deliver_eq (hsession : i.needsSession = true → s.mSessionId = true)
    (hbits : s.mCallbacksMask &&& i.bits ≠ 0) : s.deliver i = s.callback i :=
  if_pos ⟨hsession, hbits⟩

end LocationClientApiImpl

/-! ## What a start asks for -/

def batchingCallbacks (batchingStatusCb : Bool) : LocationCallbacks :=
  { LocationCallbacks.none with responseCb := true, batchingCb := true, batchingStatusCb }

def geofenceCallbacks : LocationCallbacks :=
  { LocationCallbacks.none with
    responseCb := true, collectiveResponseCb := true, geofenceBreachCb := true }

namespace KindCall

/-- The mask of a client with nothing but what the call asks for. -/
def mask (mLocationSysInfoCb : Bool) : KindCall → UInt32
  | .startPosition session _ => session.mask mLocationSysInfoCb
  | .startTripBatching .. => maskOf false mLocationSysInfoCb (batchingCallbacks true)
  | .startRoutineBatching .. => maskOf false mLocationSysInfoCb (batchingCallbacks false)
  | .addGeofences .. => maskOf false mLocationSysInfoCb geofenceCallbacks
  | .stopPosition | .stopBatching | .removeGeofences => sysInfoBit mLocationSysInfoCb

theorem sysInfoBit_and (mLocationSysInfoCb : Bool) (kind : SessionKind) :
    sysInfoBit mLocationSysInfoCb &&& kind.bits = 0 := by
  cases mLocationSysInfoCb <;> cases kind <;> decide

variable {kind : SessionKind}

theorem position_and (mLocationSysInfoCb : Bool) (session : PositionSession)
    (hkind : kind ≠ .position) : session.mask mLocationSysInfoCb &&& kind.bits = 0 := by
  have hbits : ~~~LOCATION_SESSON_ALL_INFO_MASK &&& kind.bits = kind.bits := by
    cases kind with
    | position => exact absurd rfl hkind
    | batching => decide
    | geofences => decide
  rw [← hbits, ← UInt32.and_assoc, PositionSession.mask_and, sysInfoBit_and]

theorem batching_and (mLocationSysInfoCb batchingStatusCb : Bool) (hkind : kind ≠ .batching) :
    maskOf false mLocationSysInfoCb (batchingCallbacks batchingStatusCb) &&& kind.bits = 0 := by
  cases kind with
  | batching => exact absurd rfl hkind
  | position => cases mLocationSysInfoCb <;> cases batchingStatusCb <;> decide
  | geofences => cases mLocationSysInfoCb <;> cases batchingStatusCb <;> decide

theorem geofences_and (mLocationSysInfoCb : Bool) (hkind : kind ≠ .geofences) :
    maskOf false mLocationSysInfoCb geofenceCallbacks &&& kind.bits = 0 := by
  cases kind with
  | geofences => exact absurd rfl hkind
  | position => cases mLocationSysInfoCb <;> decide
  | batching => cases mLocationSysInfoCb <;> decide

theorem mask_and (mLocationSysInfoCb : Bool) (c : KindCall) (hkind : kind ≠ c.kind) :
    c.mask mLocationSysInfoCb &&& kind.bits = 0 := by
  cases c with
  | startPosition session => exact position_and mLocationSysInfoCb session hkind
  | startTripBatching => exact batching_and mLocationSysInfoCb true hkind
  | startRoutineBatching => exact batching_and mLocationSysInfoCb false hkind
  | addGeofences => exact geofences_and mLocationSysInfoCb hkind
  | _ => exact sysInfoBit_and mLocationSysInfoCb kind

end KindCall

namespace KindCall

def cbs : KindCall → ClientCallbacks
  | .startPosition session responseCallback => session.cbs responseCallback
  | .startTripBatching _ _ batchingCallback responseCallback
  | .startRoutineBatching _ _ batchingCallback responseCallback =>
    { ClientCallbacks.zero with
      responsecb := responseCallback, batchingcb := some batchingCallback }
  | .addGeofences gfBreachCb responseCallback =>
    { ClientCallbacks.zero with collectivecb := responseCallback, gfbreachcb := some gfBreachCb }
  | .stopPosition | .stopBatching | .removeGeofences => .zero

def reportCbType : KindCall → ReportCbEnumType
  | .startPosition session _ => session.reportCbType
  | _ => .REPORT_CB_TYPE_NONE

end KindCall

namespace LocationClientApiImpl

variable {s : LocationClientApiImpl} {c : KindCall} {kind : SessionKind} {i : Indication}

/-- The callbacks and the mask that a start puts in place. -/
def asked (s : LocationClientApiImpl) (c : KindCall) : LocationClientApiImpl :=
  { s.updateCallbackFunctions c.cbs c.reportCbType with
    mCallbacksMask := c.mask s.mLocationSysInfoCb }

theorem sysInfo_functions (cbs : ClientCallbacks) (reportCbType : ReportCbEnumType) :
    (s.updateCallbackFunctions cbs reportCbType).mLocationSysInfoCb = s.mLocationSysInfoCb ∧
      (s.updateCallbackFunctions cbs reportCbType).mLocationCb = cbs.locationcb ∧
      (s.updateCallbackFunctions cbs reportCbType).mSessionId = s.mSessionId := by
  cases reportCbType <;> exact ⟨rfl, rfl, rfl⟩

theorem sameReports_asked (callbacks : LocationCallbacks)
    (hmask : maskOf c.cbs.locationcb.isSome s.mLocationSysInfoCb callbacks =
      c.mask s.mLocationSysInfoCb) :
    SameReports ((s.updateCallbackFunctions c.cbs c.reportCbType).updateCallbacks callbacks).1
        (s.asked c) ∧
      ((s.updateCallbackFunctions c.cbs c.reportCbType).updateCallbacks callbacks).1.mSessionId =
        s.mSessionId := by
  obtain ⟨hsysInfo, hlocation, hsession⟩ := sysInfo_functions (s := s) c.cbs c.reportCbType
  have hbits : (s.updateCallbackFunctions c.cbs c.reportCbType).callBacksMask callbacks =
      c.mask s.mLocationSysInfoCb := by
    unfold callBacksMask
    rw [hsysInfo, hlocation, hmask]
  rw [updateCallbacks_fst]
  exact ⟨⟨fun i => by cases i <;> rfl, rfl, hbits⟩, hsession⟩

theorem SameReports.trans {a b c : LocationClientApiImpl} (hab : SameReports a b)
    (hbc : SameReports b c) : SameReports a c :=
  ⟨fun i => (hab.callback i).trans (hbc.callback i), hab.collective.trans hbc.collective,
    hab.mask.trans hbc.mask⟩

theorem sameReports_start (hc : c.starts = true) : SameReports (s.procAll c.messages) (s.asked c) ∧
      (s.procAll c.messages).mSessionId = (s.mSessionId || decide (c.kind = .position)) := by
  cases c with
  | startPosition session responseCallback =>
    have hmask : maskOf (session.cbs responseCallback).locationcb.isSome s.mLocationSysInfoCb
        session.callbacksOption = session.mask s.mLocationSysInfoCb := by
      cases session <;> rfl
    obtain ⟨hasked, -⟩ := sameReports_asked
      (c := .startPosition session responseCallback) session.callbacksOption hmask
    obtain ⟨hreports, hsession⟩ := sameReports_startTracking
      (s := ((s.updateCallbackFunctions (session.cbs responseCallback)
        session.reportCbType).updateCallbacks session.callbacksOption).1) session.options
    exact ⟨hreports.trans hasked, hsession.trans (Bool.or_true _).symm⟩
  | startTripBatching minInterval tripDistance batchingCallback responseCallback =>
    obtain ⟨hasked, hkeeps⟩ := sameReports_asked (s := s)
      (c := .startTripBatching minInterval tripDistance batchingCallback responseCallback)
      (batchingCallbacks true) rfl
    obtain ⟨hreports, hsession⟩ := sameReports_startBatching
      (s := ((s.updateCallbackFunctions _ _).updateCallbacks (batchingCallbacks true)).1)
      ⟨minInterval, tripDistance, .trip⟩
    exact ⟨hreports.trans hasked, hsession.trans (hkeeps.trans (Bool.or_false _).symm)⟩
  | startRoutineBatching minInterval minDistance batchingCallback responseCallback =>
    obtain ⟨hasked, hkeeps⟩ := sameReports_asked (s := s)
      (c := .startRoutineBatching minInterval minDistance batchingCallback responseCallback)
      (batchingCallbacks false) rfl
    obtain ⟨hreports, hsession⟩ := sameReports_startBatching
      (s := ((s.updateCallbackFunctions _ _).updateCallbacks (batchingCallbacks false)).1)
      ⟨minInterval, minDistance, .routine⟩
    exact ⟨hreports.trans hasked, hsession.trans (hkeeps.trans (Bool.or_false _).symm)⟩
  | addGeofences gfBreachCb responseCallback =>
    obtain ⟨hasked, hkeeps⟩ := sameReports_asked (s := s)
      (c := .addGeofences gfBreachCb responseCallback) geofenceCallbacks rfl
    exact ⟨hasked, hkeeps.trans (Bool.or_false _).symm⟩
  | stopPosition => cases hc
  | stopBatching => cases hc
  | removeGeofences => cases hc

theorem bits_of_start (hc : c.starts = true) (hkind : kind ≠ c.kind) :
    ((s.procAll c.messages).share kind).bits = 0 := by
  rw [(sameReports_start hc).1.share]
  exact c.mask_and s.mLocationSysInfoCb hkind

/-- What a position session has is left alone if it is nothing that a start
replaces. -/
theorem share_position_of_start (hc : c.starts = true) (hkind : c.kind ≠ .position)
    (hlocation : s.mLocationCb = none) (hbits : (s.share .position).bits = 0) :
    (s.procAll c.messages).share .position = s.share .position := by
  have hafter := bits_of_start (s := s) hc (Ne.symm hkind)
  have hcallbacks : ((s.procAll c.messages).share .position).callbacks =
      (s.share .position).callbacks := by
    rw [(sameReports_start hc).1.share]
    cases c with
    | startPosition => exact absurd rfl hkind
    | stopPosition => cases hc
    | stopBatching => cases hc
    | removeGeofences => cases hc
    | _ =>
      unfold share kindCallbacks
      rw [hlocation]
      rfl
  unfold share at hafter hcallbacks hbits ⊢
  rw [Share.mk.injEq]
  exact ⟨hcallbacks, hafter.trans hbits.symm⟩

end LocationClientApiImpl

/-! ## What is registered is delivered -/

namespace KindCall

theorem location_delivers : ∀ time sysInfo : Bool, maskOf true sysInfo { LocationCallbacks.none with
      responseCb := true, trackingCb := !time, gnssLocationInfoCb := time } &&&
        Indication.location.bits ≠ 0 := by
  decide

theorem gnss_delivers : ∀ location sv nmea data meas sysInfo : Bool,
    let bits := maskOf false sysInfo { LocationCallbacks.none with
      responseCb := true, gnssLocationInfoCb := location, gnssSvCb := sv, gnssNmeaCb := nmea
      gnssDataCb := data, gnssMeasurementsCb := meas }
    (location = true → bits &&& Indication.locationInfo.bits ≠ 0) ∧
      (sv = true → bits &&& Indication.satelliteVehicle.bits ≠ 0) ∧
      (nmea = true → bits &&& Indication.nmea.bits ≠ 0) ∧
      (data = true → bits &&& Indication.data.bits ≠ 0) ∧
      (meas = true → bits &&& Indication.meas.bits ≠ 0) := by
  decide

theorem engine_delivers : ∀ location sv nmea data meas sysInfo : Bool,
    let bits := maskOf false sysInfo { LocationCallbacks.none with
      responseCb := true, engineLocationsInfoCb := location, gnssSvCb := sv, gnssNmeaCb := nmea
      gnssDataCb := data, gnssMeasurementsCb := meas }
    (location = true → bits &&& Indication.engineLocationsInfo.bits ≠ 0) ∧
      (sv = true → bits &&& Indication.satelliteVehicle.bits ≠ 0) ∧
      (nmea = true → bits &&& Indication.nmea.bits ≠ 0) ∧
      (data = true → bits &&& Indication.data.bits ≠ 0) ∧
      (meas = true → bits &&& Indication.meas.bits ≠ 0) := by
  decide

variable {i : Indication} {cb : Callback} {c : KindCall}

theorem bits_of_session {session : PositionSession} (sysInfo : Bool)
    (h : session.registers i = some cb) : session.mask sysInfo &&& i.bits ≠ 0 := by
  cases session with
  | location intervalInMs distanceInMeters locationCallback =>
    have hbits := location_delivers (distanceInMeters = 0) sysInfo
    rw [← decide_not] at hbits
    cases i <;> cases h
    exact hbits
  | gnss intervalInMs cbs =>
    have hbits := gnss_delivers cbs.gnssLocationCallback.isSome cbs.gnssSvCallback.isSome
      cbs.gnssNmeaCallback.isSome cbs.gnssDataCallback.isSome
      cbs.gnssMeasurementsCallback.isSome sysInfo
    have hsome := isSome_of_mem (mem_def.mpr h)
    cases i with
    | locationInfo => exact hbits.1 hsome
    | satelliteVehicle => exact hbits.2.1 hsome
    | nmea => exact hbits.2.2.1 hsome
    | data => exact hbits.2.2.2.1 hsome
    | meas => exact hbits.2.2.2.2 hsome
    | _ => cases h
  | engine intervalInMs locEngReqMask cbs =>
    have hbits := engine_delivers cbs.engLocationsCallback.isSome cbs.gnssSvCallback.isSome
      cbs.gnssNmeaCallback.isSome cbs.gnssDataCallback.isSome
      cbs.gnssMeasurementsCallback.isSome sysInfo
    have hsome := isSome_of_mem (mem_def.mpr h)
    cases i with
    | engineLocationsInfo => exact hbits.1 hsome
    | satelliteVehicle => exact hbits.2.1 hsome
    | nmea => exact hbits.2.2.1 hsome
    | data => exact hbits.2.2.2.1 hsome
    | meas => exact hbits.2.2.2.2 hsome
    | _ => cases h

theorem bits_of_registers (sysInfo : Bool) (h : c.registers i = some cb) :
    c.mask sysInfo &&& i.bits ≠ 0 := by
  cases c with
  | startPosition session responseCallback => exact bits_of_session sysInfo h
  | startTripBatching =>
    cases i <;> cases h
    change maskOf false sysInfo (batchingCallbacks true) &&& E_LOC_CB_BATCHING_BIT ≠ 0
    cases sysInfo <;> decide
  | startRoutineBatching =>
    cases i <;> cases h
    change maskOf false sysInfo (batchingCallbacks false) &&& E_LOC_CB_BATCHING_BIT ≠ 0
    cases sysInfo <;> decide
  | addGeofences =>
    cases i <;> cases h
    change maskOf false sysInfo geofenceCallbacks &&& E_LOC_CB_GEOFENCE_BREACH_BIT ≠ 0
    cases sysInfo <;> decide
  | stopPosition => cases i <;> cases h
  | stopBatching => cases i <;> cases h
  | removeGeofences => cases i <;> cases h

theorem registers_starts (h : c.registers i = some cb) : c.starts = true ∧ c.kind = i.kind := by
  cases c with
  | startPosition session responseCallback =>
    cases session <;> cases i <;> first | exact ⟨rfl, rfl⟩ | cases h
  | _ => cases i <;> first | exact ⟨rfl, rfl⟩ | cases h

end KindCall

namespace LocationClientApiImpl

variable {s : LocationClientApiImpl} {c : KindCall} {i : Indication} {cb : Callback}

theorem callback_asked (h : c.registers i = some cb) : (s.asked c).callback i = some cb := by
  cases c with
  | startPosition session responseCallback =>
    cases session <;> cases i <;> first | exact h | cases h
  | _ => cases i <;> first | exact h | cases h

theorem delivers_of_start (h : c.registers i = some cb) :
    (s.procAll c.messages).deliver i = some cb := by
  obtain ⟨hc, hkind⟩ := KindCall.registers_starts h
  obtain ⟨hreports, hsession⟩ := sameReports_start (s := s) hc
  have hbits : (s.procAll c.messages).mCallbacksMask &&& i.bits ≠ 0 := by
    rw [hreports.mask]
    exact KindCall.bits_of_registers s.mLocationSysInfoCb h
  have hneeds : i.needsSession = true → (s.procAll c.messages).mSessionId = true := by
    intro hneeds
    have hposition : i.kind = .position := by cases i <;> first | rfl | cases hneeds
    rw [hsession, hkind, hposition]
    exact Bool.or_true _
  rw [deliver_eq hneeds hbits, hreports.callback, callback_asked h]

end LocationClientApiImpl

/-! ## Between two calls -/

namespace KindsClient

open LocationClientApiImpl

variable {s : KindsClient} {c : KindCall} {kind : SessionKind} {i : Indication} {share : Share}

structure InForce (s : KindsClient) : Prop where
  framed : s.Framed
  active : s.kept .position ≠ none → s.impl.mSessionId = true
  silent : ∀ share, s.kept .position = some share → share.bits = 0 → s.impl.mLocationCb = none
  /-- batching and geofences have asked for something -/
  asked : ∀ kind share, kind ≠ .position → s.kept kind = some share → share.bits ≠ 0
  registered : ∀ i, s.kept i.kind = none → s.registered i = none

theorem inForce_new (mHalRegistered mLocationSysInfoCb : Bool) :
    InForce (new mHalRegistered mLocationSysInfoCb) where
  framed := ⟨nofun, nofun⟩
  active := fun h => absurd rfl h
  silent := nofun
  asked := nofun
  registered := fun _ _ => rfl

theorem kept_serve_other (hkind : kind ≠ c.kind) : (s.serve c).kept kind = s.kept kind :=
  Function.update_of_ne hkind _ _

theorem kept_serve_self : (s.serve c).kept c.kind =
    if c.starts then some ((s.serve c).impl.share c.kind) else none :=
  Function.update_self _ _ _

theorem registered_serve_other (hkind : i.kind ≠ c.kind) :
    (s.serve c).registered i = s.registered i := if_neg hkind

theorem registered_serve_self (hkind : i.kind = c.kind) :
    (s.serve c).registered i = c.registers i := if_pos hkind

theorem position_of_fits (hfits : s.Fits c) (hc : c.starts = true)
    (hkind : kind ≠ c.kind) (hkept : s.kept kind = some share) :
    kind = .position ∧ share.bits = 0 := by
  have hnone : ∀ {k : SessionKind}, s.kept k = none → k ≠ kind := by
    rintro k hk rfl
    exact some_ne_none share (hkept.symm.trans hk)
  cases c with
  | startPosition =>
    cases kind with
    | position => exact absurd rfl hkind
    | batching => exact absurd rfl (hnone hfits.1)
    | geofences => exact absurd rfl (hnone hfits.2)
  | startTripBatching =>
    cases kind with
    | position => exact ⟨rfl, hfits.1 share hkept⟩
    | batching => exact absurd rfl hkind
    | geofences => exact absurd rfl (hnone hfits.2)
  | startRoutineBatching =>
    cases kind with
    | position => exact ⟨rfl, hfits.1 share hkept⟩
    | batching => exact absurd rfl hkind
    | geofences => exact absurd rfl (hnone hfits.2)
  | addGeofences =>
    cases kind with
    | position => exact ⟨rfl, hfits.1 share hkept⟩
    | batching => exact absurd rfl (hnone hfits.2)
    | geofences => exact absurd rfl hkind
  | stopPosition => cases hc
  | stopBatching => cases hc
  | removeGeofences => cases hc

theorem InForce.frame (h : InForce s) (hfits : s.Fits c) (hkind : kind ≠ c.kind)
    (hkept : s.kept kind = some share) :
    (s.serve c).impl.share kind = s.impl.share kind ∧
      (kind = .position → (s.serve c).impl.mSessionId = true) := by
  have hactive : kind = .position → s.impl.mSessionId = true := by
    rintro rfl
    exact h.active (by rw [hkept]; exact some_ne_none _)
  cases hc : c.starts with
  | true =>
    obtain ⟨rfl, hbits⟩ := position_of_fits hfits hc hkind hkept
    have hsilent : (s.impl.share .position).bits = 0 := by
      rw [h.framed.kept _ _ hkept]
      exact hbits
    refine ⟨share_position_of_start hc (Ne.symm hkind) (h.silent share hkept hbits) hsilent,
      fun _ => ?_⟩
    rw [show (s.serve c).impl = s.impl.procAll c.messages from rfl, (sameReports_start hc).2,
      hactive rfl]
    rfl
  | false =>
    cases c with
    | stopPosition =>
      cases hsession : s.impl.mSessionId with
      | true =>
        obtain ⟨hbatching, hgeofences⟩ := hfits hsession
        cases kind with
        | position => exact absurd rfl hkind
        | batching => exact absurd (hkept.symm.trans hbatching) (some_ne_none _)
        | geofences => exact absurd (hkept.symm.trans hgeofences) (some_ne_none _)
      | false =>
        have hsame : s.impl.stopTracking.1 = s.impl := by
          unfold stopTracking
          rw [hsession]
          rfl
        refine ⟨congrArg (LocationClientApiImpl.share · kind) hsame, fun hposition => ?_⟩
        exact absurd hposition hkind
    | stopBatching =>
      obtain ⟨hreports, hsession⟩ := sameReports_stopBatching (s := s.impl)
      exact ⟨hreports.share kind, fun hposition => hsession.trans (hactive hposition)⟩
    | removeGeofences => exact ⟨rfl, hactive⟩
    | _ => cases hc

theorem bits_ne_of_registers {cb : Callback} (h : c.registers i = some cb) :
    ((s.serve c).impl.share i.kind).bits ≠ 0 := by
  intro hzero
  have hmask := KindCall.bits_of_registers s.impl.mLocationSysInfoCb h
  obtain ⟨hc, -⟩ := KindCall.registers_starts h
  have hbits : (s.impl.procAll c.messages).mCallbacksMask &&& i.kind.bits = 0 := hzero
  rw [(sameReports_start hc).1.mask] at hbits
  refine hmask ?_
  change c.mask s.impl.mLocationSysInfoCb &&& i.kind.bits = 0 at hbits
  rw [← bits_of_kind i, ← UInt32.and_assoc, hbits, UInt32.zero_and]

theorem exists_registers (hc : c.starts = true) (hkind : c.kind ≠ .position) :
    ∃ i cb, i.kind = c.kind ∧ c.registers i = some cb := by
  cases c with
  | startPosition => exact absurd rfl hkind
  | startTripBatching _ _ batchingCallback => exact ⟨.batching, batchingCallback, rfl, rfl⟩
  | startRoutineBatching _ _ batchingCallback => exact ⟨.batching, batchingCallback, rfl, rfl⟩
  | addGeofences gfBreachCb => exact ⟨.geofenceBreach, gfBreachCb, rfl, rfl⟩
  | stopPosition => cases hc
  | stopBatching => cases hc
  | removeGeofences => cases hc

theorem InForce.framed_serve (h : InForce s) (hfits : s.Fits c) : (s.serve c).Framed where
  kept := by
    intro kind share hkept
    by_cases hkind : kind = c.kind
    · subst hkind
      rw [kept_serve_self] at hkept
      split at hkept
      · exact some.inj hkept
      · cases hkept
    · rw [kept_serve_other hkind] at hkept
      exact (h.frame hfits hkind hkept).1.trans (h.framed.kept kind share hkept)
  delivered := by
    intro i cb hregistered
    by_cases hkind : i.kind = c.kind
    · rw [registered_serve_self hkind] at hregistered
      exact delivers_of_start hregistered
    · rw [registered_serve_other hkind] at hregistered
      cases hkept : s.kept i.kind with
      | none => exact absurd (hregistered.symm.trans (h.registered i hkept)) (some_ne_none _)
      | some share =>
        obtain ⟨hshare, hsession⟩ := h.frame hfits hkind hkept
        rw [deliver_congr hshare ?_]
        · exact h.framed.delivered i cb hregistered
        · intro hneeds
          have hposition : i.kind = .position := by cases i <;> first | rfl | cases hneeds
          have hactive : s.impl.mSessionId = true :=
            h.active (by rw [← hposition, hkept]; exact some_ne_none _)
          exact (hsession hposition).trans hactive.symm

theorem InForce.silent_serve (h : InForce s) (hfits : s.Fits c)
    (hkept : (s.serve c).kept .position = some share) (hbits : share.bits = 0) :
    (s.serve c).impl.mLocationCb = none := by
  by_cases hkind : SessionKind.position = c.kind
  · rw [hkind, kept_serve_self] at hkept
    split at hkept
    · rename_i hc
      obtain rfl := some.inj hkept
      cases c with
      | startPosition session responseCallback =>
        cases session with
        | location intervalInMs distanceInMeters locationCallback =>
          exact absurd hbits (bits_ne_of_registers (s := s) (i := .location)
            (c := .startPosition (.location intervalInMs distanceInMeters locationCallback)
              responseCallback) rfl)
        | gnss => exact (sameReports_start (s := s.impl) hc).1.callback .location
        | engine => exact (sameReports_start (s := s.impl) hc).1.callback .location
      | startTripBatching => exact absurd hkind nofun
      | startRoutineBatching => exact absurd hkind nofun
      | addGeofences => exact absurd hkind nofun
      | stopPosition => cases hc
      | stopBatching => cases hc
      | removeGeofences => cases hc
    · cases hkept
  · rw [kept_serve_other hkind] at hkept
    have hshare := (h.frame hfits hkind hkept).1
    have hlocation : (s.serve c).impl.mLocationCb = s.impl.mLocationCb :=
      (List.cons.inj (congrArg Share.callbacks hshare)).1
    exact hlocation.trans (h.silent share hkept hbits)

theorem InForce.serve (h : InForce s) (hfits : s.Fits c) : InForce (s.serve c) where
  framed := h.framed_serve hfits
  active := by
    intro hkept
    by_cases hkind : SessionKind.position = c.kind
    · rw [hkind, kept_serve_self] at hkept
      split at hkept
      · rename_i hc
        rw [show (s.serve c).impl = s.impl.procAll c.messages from rfl, (sameReports_start hc).2,
          ← hkind]
        exact Bool.or_true _
      · exact absurd rfl hkept
    · rw [kept_serve_other hkind] at hkept
      obtain ⟨share, hshare⟩ := ne_none_iff_exists'.mp hkept
      exact (h.frame hfits hkind hshare).2 rfl
  silent := fun _ hkept hbits => h.silent_serve hfits hkept hbits
  asked := by
    intro kind share hne hkept
    by_cases hkind : kind = c.kind
    · subst hkind
      rw [kept_serve_self] at hkept
      split at hkept
      · rename_i hc
        obtain rfl := some.inj hkept
        obtain ⟨i, cb, hi, hregisters⟩ := exists_registers hc hne
        rw [← hi]
        exact bits_ne_of_registers hregisters
      · cases hkept
    · rw [kept_serve_other hkind] at hkept
      exact h.asked kind share hne hkept
  registered := by
    intro i hkept
    by_cases hkind : i.kind = c.kind
    · rw [registered_serve_self hkind]
      rw [hkind, kept_serve_self] at hkept
      split at hkept
      · cases hkept
      · rename_i hc
        refine eq_none_iff_forall_ne_some.mpr fun cb hregisters => ?_
        exact hc (KindCall.registers_starts hregisters).1
    · rw [registered_serve_other hkind]
      rw [kept_serve_other hkind] at hkept
      exact h.registered i hkept

/-- A kind that keeps what it has through a start of another one has nothing
that counts. -/
theorem bits_of_framed_start (hframed : (s.serve c).Framed) (hc : c.starts = true)
    (hkind : kind ≠ c.kind) (hkept : s.kept kind = some share) : share.bits = 0 := by
  have hkept' := (kept_serve_other hkind).trans hkept
  rw [← hframed.kept kind share hkept']
  exact bits_of_start hc hkind

theorem silent_of_framed_start (hframed : (s.serve c).Framed) (hc : c.starts = true)
    (hkind : SessionKind.position ≠ c.kind) : s.Silent .position :=
  fun _ hkept => bits_of_framed_start hframed hc hkind hkept

theorem InForce.none_of_framed_start (h : InForce s) (hframed : (s.serve c).Framed)
    (hc : c.starts = true) (hkind : kind ≠ c.kind) (hne : kind ≠ .position) :
    s.kept kind = none := by
  refine eq_none_iff_forall_ne_some.mpr fun share hkept => ?_
  exact h.asked kind share hne hkept (bits_of_framed_start hframed hc hkind hkept)

theorem InForce.fits_of_framed (h : InForce s) (hframed : (s.serve c).Framed) : s.Fits c := by
  cases c with
  | startPosition =>
    exact ⟨h.none_of_framed_start hframed rfl nofun nofun,
      h.none_of_framed_start hframed rfl nofun nofun⟩
  | startTripBatching =>
    exact ⟨silent_of_framed_start hframed rfl nofun, h.none_of_framed_start hframed rfl nofun nofun⟩
  | startRoutineBatching =>
    exact ⟨silent_of_framed_start hframed rfl nofun, h.none_of_framed_start hframed rfl nofun nofun⟩
  | addGeofences =>
    exact ⟨silent_of_framed_start hframed rfl nofun, h.none_of_framed_start hframed rfl nofun nofun⟩
  | stopPosition =>
    intro hsession
    have hnone : ∀ kind : SessionKind, kind ≠ .position → s.kept kind = none := by
      intro kind hne
      refine eq_none_iff_forall_ne_some.mpr fun share hkept => ?_
      have hkept' := (kept_serve_other (c := .stopPosition) hne).trans hkept
      have hshare := hframed.kept kind share hkept'
      refine h.asked kind share hne hkept ?_
      rw [← hshare]
      change s.impl.stopTracking.1.mCallbacksMask &&& kind.bits = 0
      unfold stopTracking
      rw [if_pos hsession]
      exact KindCall.sysInfoBit_and s.impl.mLocationSysInfoCb kind
    exact ⟨hnone .batching nofun, hnone .geofences nofun⟩
  | stopBatching => trivial
  | removeGeofences => trivial

/-- Every kind in force keeps what it has, and has its indications delivered,
throughout a run if and only if every call fits. -/
theorem framed_iff (mHalRegistered mLocationSysInfoCb : Bool) (cs : List KindCall) :
    StatesMeet step Framed (new mHalRegistered mLocationSysInfoCb) cs ↔
      StepsMeet step Fits (new mHalRegistered mLocationSysInfoCb) cs :=
  statesMeet_iff_stepsMeet_of_inv (fun s : KindsClient => InForce s) (fun _ hs => hs.framed)
    (fun _ _ hs hfits => hs.serve hfits) (fun _ _ hs hframed => hs.fits_of_framed hframed)
    (inForce_new mHalRegistered mLocationSysInfoCb) cs

/-- A position session, and then batching. -/
def batchingBeside : List KindCall :=
  [.startPosition (.location 1000 0 7) none, .startRoutineBatching 1000 0 8 none]

/-- The locations of the session are not delivered any more. -/
theorem not_framed_batchingBeside : ¬ StatesMeet step Framed (new true false) batchingBeside := by
  intro h
  have hlocation : (after step (new true false) batchingBeside).impl.deliver .location = some 7 :=
    h.last.delivered .location 7 rfl
  exact absurd hlocation (by decide)

end KindsClient

end LocStack.ClientApi
