/-
# `LocStack.LocApi.EventMask` — the events registered with the modem

What the adapters want to be told is translated (convertMask) and registered
with the modem, without the events that make sense in a session only while
there is none, and without NMEA while the engine is off.  Six entry points
decide for themselves whether to register again:

    open                        unless there is no connection to do it on
    startFix, startTimeBasedTracking         always
    stopFix, stopTimeBasedTracking           unless the engine is on
    an engine state report                   always

close forgets the masks and the session, and does not forget mEngineOn, so
that the next modem is taken to have its engine on until it says otherwise.

`registered_right_iff`: what is registered is right along a run exactly where
no session starts, ends or is given another mask, while mEngineOn is what an
earlier modem said, that would have to leave something out.
-/
import LocStack.Base.BitTable
import LocStack.Base.Run

namespace LocStack.LocApi

open Base

/-! ## Events -/

/-- loc_api_adapter_event_index, in its order. -/
inductive AdapterEvent where
  | LOC_API_ADAPTER_REPORT_POSITION | LOC_API_ADAPTER_REPORT_SATELLITE
  | LOC_API_ADAPTER_REPORT_NMEA_1HZ | LOC_API_ADAPTER_REPORT_NMEA_POSITION
  | LOC_API_ADAPTER_REQUEST_NI_NOTIFY_VERIFY | LOC_API_ADAPTER_REQUEST_ASSISTANCE_DATA
  | LOC_API_ADAPTER_REQUEST_LOCATION_SERVER | LOC_API_ADAPTER_REPORT_IOCTL
  | LOC_API_ADAPTER_REPORT_STATUS | LOC_API_ADAPTER_REQUEST_WIFI
  | LOC_API_ADAPTER_SENSOR_STATUS | LOC_API_ADAPTER_REQUEST_TIME_SYNC
  | LOC_API_ADAPTER_REPORT_SPI | LOC_API_ADAPTER_REPORT_NI_GEOFENCE
  | LOC_API_ADAPTER_GEOFENCE_GEN_ALERT | LOC_API_ADAPTER_REPORT_GENFENCE_BREACH
  | LOC_API_ADAPTER_PEDOMETER_CTRL | LOC_API_ADAPTER_MOTION_CTRL
  | LOC_API_ADAPTER_REQUEST_WIFI_AP_DATA | LOC_API_ADAPTER_BATCH_FULL
  | LOC_API_ADAPTER_BATCHED_POSITION_REPORT | LOC_API_ADAPTER_BATCHED_GENFENCE_BREACH_REPORT
  | LOC_API_ADAPTER_GNSS_MEASUREMENT_REPORT | LOC_API_ADAPTER_GNSS_SV_POLYNOMIAL_REPORT
  | LOC_API_ADAPTER_GDT_UPLOAD_BEGIN_REQ | LOC_API_ADAPTER_GDT_UPLOAD_END_REQ
  | LOC_API_ADAPTER_GNSS_MEASUREMENT | LOC_API_ADAPTER_REQUEST_TIMEZONE
  | LOC_API_ADAPTER_REPORT_GENFENCE_DWELL_REPORT | LOC_API_ADAPTER_REQUEST_SRN_DATA
  | LOC_API_ADAPTER_REQUEST_POSITION_INJECTION | LOC_API_ADAPTER_BATCH_STATUS
  | LOC_API_ADAPTER_FDCL_SERVICE_REQ | LOC_API_ADAPTER_REPORT_UNPROPAGATED_POSITION
  | LOC_API_ADAPTER_BS_OBS_DATA_SERVICE_REQ | LOC_API_ADAPTER_GNSS_SV_EPHEMERIS_REPORT
  | LOC_API_ADAPTER_LOC_SYSTEM_INFO | LOC_API_ADAPTER_GNSS_NHZ_MEASUREMENT_REPORT
  | LOC_API_ADAPTER_EVENT_REPORT_INFO | LOC_API_ADAPTER_LATENCY_INFORMATION_REPORT

/-- The events of the location service of the modem, in the order of their bits. -/
inductive QmiEvent where
  | POSITION_REPORT | GNSS_SV_INFO | NMEA | NI_NOTIFY_VERIFY_REQ | INJECT_TIME_REQ
  | INJECT_PREDICTED_ORBITS_REQ | INJECT_POSITION_REQ | ENGINE_STATE | FIX_SESSION_STATE
  | WIFI_REQ | SENSOR_STREAMING_READY_STATUS | TIME_SYNC_REQ | SET_SPI_STREAMING_REPORT
  | LOCATION_SERVER_CONNECTION_REQ | NI_GEOFENCE_NOTIFICATION | GEOFENCE_GEN_ALERT
  | GEOFENCE_BREACH_NOTIFICATION | PEDOMETER_CONTROL | MOTION_DATA_CONTROL
  | BATCH_FULL_NOTIFICATION | LIVE_BATCHED_POSITION_REPORT | INJECT_WIFI_AP_DATA_REQ
  | GEOFENCE_BATCH_BREACH_NOTIFICATION | VEHICLE_DATA_READY_STATUS | GNSS_MEASUREMENT_REPORT
  | GNSS_SV_POLYNOMIAL_REPORT | GEOFENCE_PROXIMITY_NOTIFICATION | GDT_UPLOAD_BEGIN_REQ
  | GDT_UPLOAD_END_REQ | GEOFENCE_BATCH_DWELL_NOTIFICATION | GET_TIME_ZONE_REQ | BATCHING_STATUS
  | INTERNAL_STATUS_REPORT | INJECT_SRN_AP_DATA_REQ | GNSS_ONLY_POSITION_REPORT
  | FDCL_SERVICE_REQ | DC_REPORT | ENGINE_LOCK_STATE | UNPROPAGATED_POSITION_REPORT
  | BS_OBS_DATA_SERVICE_REQ | EPHEMERIS_REPORT | NEXT_LS_INFO_REPORT
  | GET_BAND_MEASUREMENT_METRICS | GNSS_NHZ_MEASUREMENT_REPORT | GNSS_EVENT_REPORT
  | QUERY_XTRA_INFO | SAP_INS_PARAMETERS_REPORT | LATENCY_INFORMATION_REPORT

/-- The word of these LOC_API_ADAPTER_BIT_*. -/
def adapterMask (events : List AdapterEvent) : BitVec 64 :=
  events.foldr (fun e mask => BitVec.twoPow 64 e.ctorIdx ||| mask) 0#64

/-- The word of these QMI_LOC_EVENT_MASK_*_V02. -/
def qmiMask (events : List QmiEvent) : BitVec 64 :=
  events.foldr (fun e mask => BitVec.twoPow 64 e.ctorIdx ||| mask) 0#64

/-- The tests of convertMask: for any of these, all of those. -/
def eventRows (batchedBreach : Bool) : List (List AdapterEvent × List QmiEvent) :=
  [([.LOC_API_ADAPTER_REPORT_POSITION], [.POSITION_REPORT]),
    ([.LOC_API_ADAPTER_REPORT_UNPROPAGATED_POSITION], [.UNPROPAGATED_POSITION_REPORT]),
    ([.LOC_API_ADAPTER_REPORT_SATELLITE], [.GNSS_SV_INFO]),
    ([.LOC_API_ADAPTER_REPORT_NMEA_POSITION, .LOC_API_ADAPTER_REPORT_NMEA_1HZ],
      [.NMEA, .ENGINE_STATE]),
    ([.LOC_API_ADAPTER_REQUEST_NI_NOTIFY_VERIFY], [.NI_NOTIFY_VERIFY_REQ]),
    ([.LOC_API_ADAPTER_REQUEST_ASSISTANCE_DATA], [.INJECT_PREDICTED_ORBITS_REQ, .INJECT_TIME_REQ]),
    ([.LOC_API_ADAPTER_REQUEST_POSITION_INJECTION], [.INJECT_POSITION_REQ]),
    ([.LOC_API_ADAPTER_REPORT_STATUS], [.ENGINE_STATE]),
    ([.LOC_API_ADAPTER_REQUEST_LOCATION_SERVER], [.LOCATION_SERVER_CONNECTION_REQ]),
    ([.LOC_API_ADAPTER_REQUEST_WIFI], [.WIFI_REQ]),
    ([.LOC_API_ADAPTER_SENSOR_STATUS], [.SENSOR_STREAMING_READY_STATUS]),
    ([.LOC_API_ADAPTER_REQUEST_TIME_SYNC], [.TIME_SYNC_REQ]),
    ([.LOC_API_ADAPTER_REPORT_SPI], [.SET_SPI_STREAMING_REPORT]),
    ([.LOC_API_ADAPTER_REPORT_NI_GEOFENCE], [.NI_GEOFENCE_NOTIFICATION]),
    ([.LOC_API_ADAPTER_GEOFENCE_GEN_ALERT], [.GEOFENCE_GEN_ALERT]),
    ([.LOC_API_ADAPTER_REPORT_GENFENCE_BREACH], [.GEOFENCE_BREACH_NOTIFICATION]),
    ([.LOC_API_ADAPTER_BATCHED_GENFENCE_BREACH_REPORT],
      [if batchedBreach then .GEOFENCE_BATCH_BREACH_NOTIFICATION
        else .GEOFENCE_BREACH_NOTIFICATION]),
    ([.LOC_API_ADAPTER_PEDOMETER_CTRL], [.PEDOMETER_CONTROL]),
    ([.LOC_API_ADAPTER_REPORT_GENFENCE_DWELL_REPORT], [.GEOFENCE_BATCH_DWELL_NOTIFICATION]),
    ([.LOC_API_ADAPTER_MOTION_CTRL], [.MOTION_DATA_CONTROL]),
    ([.LOC_API_ADAPTER_REQUEST_WIFI_AP_DATA], [.INJECT_WIFI_AP_DATA_REQ]),
    ([.LOC_API_ADAPTER_BATCH_FULL], [.BATCH_FULL_NOTIFICATION]),
    ([.LOC_API_ADAPTER_BATCH_STATUS], [.BATCHING_STATUS]),
    ([.LOC_API_ADAPTER_BATCHED_POSITION_REPORT], [.LIVE_BATCHED_POSITION_REPORT]),
    ([.LOC_API_ADAPTER_GNSS_MEASUREMENT_REPORT], [.GNSS_MEASUREMENT_REPORT]),
    ([.LOC_API_ADAPTER_GNSS_SV_POLYNOMIAL_REPORT], [.GNSS_SV_POLYNOMIAL_REPORT]),
    ([.LOC_API_ADAPTER_GNSS_SV_EPHEMERIS_REPORT], [.EPHEMERIS_REPORT]),
    ([.LOC_API_ADAPTER_GDT_UPLOAD_BEGIN_REQ], [.GDT_UPLOAD_BEGIN_REQ]),
    ([.LOC_API_ADAPTER_GDT_UPLOAD_END_REQ], [.GDT_UPLOAD_END_REQ]),
    ([.LOC_API_ADAPTER_GNSS_MEASUREMENT], [.GNSS_MEASUREMENT_REPORT]),
    ([.LOC_API_ADAPTER_REQUEST_TIMEZONE], [.GET_TIME_ZONE_REQ]),
    ([.LOC_API_ADAPTER_REQUEST_SRN_DATA], [.INJECT_SRN_AP_DATA_REQ]),
    ([.LOC_API_ADAPTER_FDCL_SERVICE_REQ], [.FDCL_SERVICE_REQ]),
    ([.LOC_API_ADAPTER_BS_OBS_DATA_SERVICE_REQ], [.BS_OBS_DATA_SERVICE_REQ]),
    ([.LOC_API_ADAPTER_LOC_SYSTEM_INFO], [.NEXT_LS_INFO_REPORT]),
    ([.LOC_API_ADAPTER_EVENT_REPORT_INFO], [.GNSS_EVENT_REPORT]),
    ([.LOC_API_ADAPTER_GNSS_NHZ_MEASUREMENT_REPORT], [.GNSS_NHZ_MEASUREMENT_REPORT]),
    ([.LOC_API_ADAPTER_LATENCY_INFORMATION_REPORT], [.LATENCY_INFORMATION_REPORT])]

def eventTable (batchedBreach : Bool) : BitTable 64 64 :=
  (eventRows batchedBreach).map fun row => (adapterMask row.1, qmiMask row.2)

def convertMask (batchedBreach : Bool) (mask : BitVec 64) : BitVec 64 :=
  (eventTable batchedBreach).apply mask

/-- What is left out while no session runs. -/
def sessionOnly : BitVec 64 :=
  qmiMask [.POSITION_REPORT, .UNPROPAGATED_POSITION_REPORT, .GNSS_SV_INFO, .NMEA, .ENGINE_STATE,
    .GNSS_MEASUREMENT_REPORT, .GNSS_NHZ_MEASUREMENT_REPORT, .GNSS_SV_POLYNOMIAL_REPORT,
    .EPHEMERIS_REPORT, .GNSS_EVENT_REPORT, .NEXT_LS_INFO_REPORT, .LATENCY_INFORMATION_REPORT]

/-- What is left out while the engine is off. -/
def engineOnly : BitVec 64 := qmiMask [.NMEA]

/-- What NMEA is registered for. -/
def nmeaEvents : BitVec 64 :=
  adapterMask [.LOC_API_ADAPTER_REPORT_NMEA_1HZ, .LOC_API_ADAPTER_REPORT_NMEA_POSITION]

/-! ## The state and its events -/

/-- Of a LocApiV02, what the mask that is registered depends on. -/
structure Registration where
  /-- clientHandle is not LOC_CLIENT_INVALID_HANDLE_VALUE -/
  connected : Bool
  (mMask mQmiMask : BitVec 64)
  (mInSession mEngineOn : Bool)
  /-- what setEngineCapabilities was first told of
  LOC_API_ADAPTER_MESSAGE_BATCHED_GENFENCE_BREACH -/
  supportedMsg : Option Bool
  /-- the mask last registered on this connection -/
  registered : BitVec 64
  /-- the last engine state report on this connection was on -/
  engineOn : Bool

inductive MaskEvent where
  /-- with the mask of the adapters; whether locClientOpen succeeds, and
  locClientSupportMsgCheck, and what the latter says of batched breaches -/
  | locOpen (mask : BitVec 64) (opened checked supported : Bool)
  | locClose | startFix | startTimeBasedTracking | stopFix | stopTimeBasedTracking
  | reportEngineState (on : Bool)

namespace Registration

variable (s : Registration)

def init : Registration := ⟨false, 0#64, 0#64, false, false, none, 0#64, false⟩

/-- What mMask is translated to. -/
def convertMask (mask : BitVec 64) : BitVec 64 :=
  LocApi.convertMask (s.supportedMsg.getD false) mask

def adjustMaskIfNoSessionOrEngineOff (mask : BitVec 64) : BitVec 64 :=
  if s.mInSession = false then mask &&& ~~~sessionOnly
  else if s.mEngineOn = false then mask &&& ~~~engineOnly
  else mask

/-- locClientRegisterEventMask succeeds if there is a connection. -/
def registerEventMask (mask : BitVec 64) : Registration :=
  let qmiMask := s.adjustMaskIfNoSessionOrEngineOff (s.convertMask mask)
  let s := if qmiMask ≠ s.mQmiMask ∧ s.connected = true then
    { s with mQmiMask := qmiMask, registered := qmiMask } else s
  { s with mMask := mask }

/-- A new connection, on which nothing is registered. -/
def openClient (supported : Bool) : Registration :=
  { s with
    connected := true
    supportedMsg := some (s.supportedMsg.getD supported)
    registered := 0#64
    engineOn := false }

def locOpen (mExcludedMask mask : BitVec 64) (opened checked supported : Bool) : Registration :=
  let newMask := mask &&& ~~~mExcludedMask
  if s.connected then s.registerEventMask newMask
  else if opened then
    let s := s.openClient supported
    if checked then s.registerEventMask newMask else s
  else { s with mMask := 0#64, mQmiMask := 0#64 }

def locClose : Registration :=
  { s with
    connected := false
    mMask := 0#64
    mQmiMask := 0#64
    mInSession := false
    registered := 0#64
    engineOn := false }

def startSession : Registration :=
  let s := { s with mInSession := true }
  s.registerEventMask s.mMask

def stopSession : Registration :=
  let s := { s with mInSession := false }
  if s.mEngineOn then s else s.registerEventMask s.mMask

def updateEngineState (on : Bool) : Registration :=
  let s := { s with mEngineOn := on, engineOn := on && s.connected }
  s.registerEventMask s.mMask

/-- stopTimeBasedTracking does nothing where its request is not sent. -/
def step (mExcludedMask : BitVec 64) (s : Registration) : MaskEvent → Registration × List Empty
  | .locOpen mask opened checked supported =>
    (s.locOpen mExcludedMask mask opened checked supported, [])
  | .locClose => (s.locClose, [])
  | .startFix | .startTimeBasedTracking => (s.startSession, [])
  | .stopFix => (s.stopSession, [])
  | .stopTimeBasedTracking => (if s.connected then s.stopSession else s, [])
  | .reportEngineState on => (s.updateEngineState on, [])

/-! ## What is to be registered, and when it is -/

/-- In a session what the adapters want, without NMEA if the engine is not on;
else nothing of a session, if the engine is not on. -/
def Right : Prop :=
  s.connected = true → (s.mInSession = true → s.registered =
      if s.engineOn then s.convertMask s.mMask else s.convertMask s.mMask &&& ~~~engineOnly) ∧
    (s.mInSession = false → s.engineOn = false → s.registered &&& sessionOnly = 0#64)

/-- mEngineOn is what an earlier modem said. -/
def Stale : Prop := s.mEngineOn = true ∧ s.engineOn = false
  deriving Decidable

/-- There is a connection to register on when open is done. -/
def opens (opened checked : Bool) : Bool := s.connected || opened && checked

def Sound (mExcludedMask : BitVec 64) (s : Registration) : MaskEvent → Prop
  | .locOpen mask opened checked _ => s.Stale → s.mInSession = true →
      s.opens opened checked = true → mask &&& ~~~mExcludedMask &&& nmeaEvents = 0#64
  | .startFix | .startTimeBasedTracking => s.Stale → s.mMask &&& nmeaEvents = 0#64
  | .stopFix | .stopTimeBasedTracking => s.Stale → s.registered &&& sessionOnly = 0#64
  | .locClose | .reportEngineState _ => True

instance (mExcludedMask : BitVec 64) : ∀ e, Decidable (Sound mExcludedMask s e)
  | .locOpen _ _ _ _ => inferInstanceAs (Decidable (_ → _))
  | .startFix | .startTimeBasedTracking => inferInstanceAs (Decidable (_ → _))
  | .stopFix | .stopTimeBasedTracking => inferInstanceAs (Decidable (_ → _))
  | .locClose | .reportEngineState _ => .isTrue trivial

end Registration

/-! ## Masks -/

theorem convertMask_zero (batchedBreach : Bool) : convertMask batchedBreach 0#64 = 0#64 :=
  (eventTable batchedBreach).isJoinHom_apply.zero

theorem convertMask_engineOnly (batchedBreach : Bool) (mask : BitVec 64) :
    convertMask batchedBreach mask &&& engineOnly = 0#64 ↔ mask &&& nmeaEvents = 0#64 := by
  have hrow : convertMask batchedBreach mask &&& engineOnly =
      if mask &&& nmeaEvents ≠ 0#64 then engineOnly else 0#64 := by
    refine IsJoinHom.ext (f := fun m => convertMask batchedBreach m &&& engineOnly)
      ((IsJoinHom.and_const engineOnly).comp (eventTable batchedBreach).isJoinHom_apply)
      (IsJoinHom.row nmeaEvents engineOnly) ?_ mask
    cases batchedBreach <;> decide +kernel
  rw [hrow, ite_not]
  by_cases hmask : mask &&& nmeaEvents = 0#64
  · simp only [hmask, if_true]
  · simp only [hmask, if_false, iff_false]
    decide

namespace Registration

variable {s : Registration} {mExcludedMask : BitVec 64}

/-! ## One step -/

/-- What the fields say of each other in every state, whatever is registered. -/
structure Linked (s : Registration) : Prop where
  mQmiMask_eq : s.mQmiMask = s.registered
  mMask_eq : s.connected = false → s.mMask = 0#64
  registered_eq : s.connected = false → s.registered = 0#64
  engineOn_connected : s.engineOn = true → s.connected = true
  engineOn_known : s.engineOn = true → s.mEngineOn = true

theorem linked_init : init.Linked where
  mQmiMask_eq := rfl
  mMask_eq _ := rfl
  registered_eq _ := rfl
  engineOn_connected := nofun
  engineOn_known := nofun

theorem registerEventMask_connected (hlinked : s.mQmiMask = s.registered)
    (hconn : s.connected = true) (mask : BitVec 64) :
    s.registerEventMask mask = { s with
        mMask := mask
        mQmiMask := s.adjustMaskIfNoSessionOrEngineOff (s.convertMask mask)
        registered := s.adjustMaskIfNoSessionOrEngineOff (s.convertMask mask) } := by
  simp only [registerEventMask, hconn, and_true]
  split
  · rfl
  · rename_i hsame
    rw [not_not.mp hsame, ← hlinked, hconn]

theorem registerEventMask_disconnected (hconn : s.connected = false) (mask : BitVec 64) :
    s.registerEventMask mask = { s with mMask := mask } := by
  simp only [registerEventMask, hconn, Bool.false_eq_true, and_false, if_false]

theorem Linked.registerEventMask (h : s.Linked) (mask : BitVec 64)
    (hmask : s.connected = false → mask = 0#64) : (s.registerEventMask mask).Linked := by
  cases hconn : s.connected with
  | true =>
    rw [registerEventMask_connected h.mQmiMask_eq hconn]
    exact ⟨rfl, fun hoff => absurd (hconn.symm.trans hoff) nofun,
      fun hoff => absurd (hconn.symm.trans hoff) nofun, h.engineOn_connected, h.engineOn_known⟩
  | false =>
    rw [registerEventMask_disconnected hconn]
    exact ⟨h.mQmiMask_eq, fun _ => hmask hconn, h.registered_eq, h.engineOn_connected,
      h.engineOn_known⟩

theorem Linked.openClient (h : s.Linked) (hconn : s.connected = false) (supported : Bool) :
    (s.openClient supported).Linked where
  mQmiMask_eq := h.mQmiMask_eq.trans (h.registered_eq hconn)
  mMask_eq := nofun
  registered_eq := nofun
  engineOn_connected := nofun
  engineOn_known := nofun

theorem Linked.inSession (h : s.Linked) (running : Bool) :
    { s with mInSession := running }.Linked :=
  ⟨h.mQmiMask_eq, h.mMask_eq, h.registered_eq, h.engineOn_connected, h.engineOn_known⟩

theorem Linked.engineState (h : s.Linked) (on : Bool) :
    { s with mEngineOn := on, engineOn := on && s.connected }.Linked where
  mQmiMask_eq := h.mQmiMask_eq
  mMask_eq := h.mMask_eq
  registered_eq := h.registered_eq
  engineOn_connected hon := ((Bool.and_eq_true _ _).mp hon).2
  engineOn_known hon := ((Bool.and_eq_true _ _).mp hon).1

theorem right_of_disconnected (hconn : s.connected = false) : s.Right :=
  fun hon => absurd (hconn.symm.trans hon) nofun

section

variable (h : s.Linked)
include h

theorem right_registerEventMask (mask : BitVec 64) :
    (s.registerEventMask mask).Right ↔ (s.connected = true → s.Stale →
      s.mInSession = true → mask &&& nmeaEvents = 0#64) := by
  rcases Bool.eq_false_or_eq_true s.connected with hconn | hconn
  · rw [registerEventMask_connected h.mQmiMask_eq hconn]
    simp only [Right, Stale, Registration.convertMask, adjustMaskIfNoSessionOrEngineOff, hconn,
      true_implies]
    cases hrun : s.mInSession with
    | false =>
      simp only [if_true, Bool.false_eq_true, false_implies, true_implies, implies_true,
        true_and, iff_true]
      intro _
      exact and_not_and_self _ _
    | true =>
      simp only [Bool.true_eq_false, if_false, true_implies, false_implies, and_true]
      cases hon : s.engineOn with
      | true =>
        simp only [h.engineOn_known hon, Bool.true_eq_false, if_false, if_true, and_false,
          false_implies]
      | false =>
        simp only [Bool.false_eq_true, if_false]
        cases hmine : s.mEngineOn with
        | true =>
          simp only [Bool.true_eq_false, if_false, true_and, true_implies]
          rw [eq_and_not_iff]
          exact convertMask_engineOnly _ _
        | false => simp only [if_true, Bool.false_eq_true, false_and, false_implies]
  · rw [registerEventMask_disconnected hconn]
    exact iff_of_true (right_of_disconnected hconn) fun hon => absurd (hconn.symm.trans hon) nofun

theorem linked_step (e : MaskEvent) : (step mExcludedMask s e).1.Linked := by
  have hstop : s.stopSession.Linked := by
    dsimp only [stopSession]
    split
    · exact h.inSession false
    · exact (h.inSession false).registerEventMask _ h.mMask_eq
  cases e with
  | locOpen mask opened checked supported =>
    dsimp only [step, locOpen]
    split
    · rename_i hconn
      exact h.registerEventMask _ fun hoff => absurd (hconn.symm.trans hoff) nofun
    rename_i hconn
    have hoff : s.connected = false := Bool.eq_false_iff.mpr hconn
    split
    · split
      · exact (h.openClient hoff supported).registerEventMask _ nofun
      · exact h.openClient hoff supported
    · exact ⟨(h.registered_eq hoff).symm, fun _ => rfl, h.registered_eq, h.engineOn_connected,
        h.engineOn_known⟩
  | locClose => exact ⟨rfl, fun _ => rfl, fun _ => rfl, nofun, nofun⟩
  | startFix => exact (h.inSession true).registerEventMask _ h.mMask_eq
  | startTimeBasedTracking => exact (h.inSession true).registerEventMask _ h.mMask_eq
  | stopFix => exact hstop
  | stopTimeBasedTracking =>
    dsimp only [step]
    split
    · exact hstop
    · exact h
  | reportEngineState on => exact (h.engineState on).registerEventMask _ h.mMask_eq

theorem right_startSession : s.startSession.Right ↔ (s.Stale → s.mMask &&& nmeaEvents = 0#64) := by
  refine (right_registerEventMask (h.inSession true) s.mMask).trans ?_
  refine ⟨fun hmask hstale => ?_, fun hmask _ hstale _ => hmask hstale⟩
  rcases Bool.eq_false_or_eq_true s.connected with hconn | hconn
  · exact hmask hconn hstale rfl
  · rw [h.mMask_eq hconn, BitVec.zero_and]

theorem right_stopSession :
    s.stopSession.Right ↔ (s.Stale → s.registered &&& sessionOnly = 0#64) := by
  rcases Bool.eq_false_or_eq_true s.mEngineOn with hmine | hmine
  · have hstop : s.stopSession = { s with mInSession := false } := if_pos hmine
    rw [hstop]
    refine ⟨fun hright hstale => ?_, fun hreg _ => ⟨nofun, fun _ hoff => hreg ⟨hmine, hoff⟩⟩⟩
    rcases Bool.eq_false_or_eq_true s.connected with hconn | hconn
    · exact (hright hconn).2 rfl hstale.2
    · rw [h.registered_eq hconn, BitVec.zero_and]
  · have hstop : s.stopSession = { s with mInSession := false }.registerEventMask s.mMask :=
      if_neg (Bool.eq_false_iff.mp hmine)
    rw [hstop]
    refine iff_of_true ?_ fun hstale => absurd (hmine.symm.trans hstale.1) nofun
    exact (right_registerEventMask (h.inSession false) s.mMask).mpr fun _ _ => nofun

theorem right_updateEngineState (on : Bool) : (s.updateEngineState on).Right := by
  refine (right_registerEventMask (h.engineState on) s.mMask).mpr ?_
  intro hconn hstale
  have hoff : (on && s.connected) = false := hstale.2
  rw [show s.connected = true from hconn, Bool.and_true] at hoff
  exact absurd (hoff.symm.trans hstale.1) nofun

theorem right_locOpen {mask : BitVec 64} {opened checked supported : Bool} :
    (s.locOpen mExcludedMask mask opened checked supported).Right ↔
      Sound mExcludedMask s (.locOpen mask opened checked supported) := by
  dsimp only [locOpen, Sound]
  cases hconn : s.connected with
  | true =>
    simp only [if_true, opens, hconn, Bool.true_or, true_implies]
    exact (right_registerEventMask h _).trans ⟨fun hmask => hmask hconn, fun hmask _ => hmask⟩
  | false =>
    have hoff : s.engineOn = false := by
      cases hon : s.engineOn with
      | false => rfl
      | true => exact absurd (hconn.symm.trans (h.engineOn_connected hon)) nofun
    have hstale : (s.openClient supported).Stale ↔ s.Stale :=
      and_congr_right fun _ => (iff_of_true rfl hoff)
    simp only [Bool.false_eq_true, if_false, opens, hconn, Bool.false_or]
    cases opened with
    | false =>
      simp only [Bool.false_eq_true, if_false, Bool.false_and, false_implies, implies_true,
        iff_true]
      exact right_of_disconnected rfl
    | true =>
      cases checked with
      | true =>
        simp only [if_true, Bool.and_self, true_implies]
        rw [right_registerEventMask (h.openClient hconn supported), hstale]
        exact ⟨fun hmask => hmask rfl, fun hmask _ => hmask⟩
      | false =>
        simp only [if_true, Bool.false_eq_true, if_false, Bool.and_false, false_implies,
          implies_true, iff_true]
        -- nothing is registered, and mMask says so
        intro _
        have hnone : (s.openClient supported).convertMask s.mMask = 0#64 := by
          rw [h.mMask_eq hconn]
          exact convertMask_zero _
        refine ⟨fun _ => ?_, fun _ _ => BitVec.zero_and⟩
        show 0#64 = (s.openClient supported).convertMask s.mMask &&& ~~~engineOnly
        rw [hnone, BitVec.zero_and]

theorem right_step (hright : s.Right) (e : MaskEvent) :
    (step mExcludedMask s e).1.Right ↔ Sound mExcludedMask s e := by
  cases e with
  | locOpen mask opened checked supported => exact right_locOpen h
  | locClose => exact iff_of_true nofun trivial
  | startFix => exact right_startSession h
  | startTimeBasedTracking => exact right_startSession h
  | stopFix => exact right_stopSession h
  | stopTimeBasedTracking =>
    dsimp only [step]
    cases hconn : s.connected with
    | true => exact right_stopSession h
    | false =>
      refine iff_of_true hright fun _ => ?_
      rw [h.registered_eq hconn, BitVec.zero_and]
  | reportEngineState on => exact iff_of_true (right_updateEngineState h on) trivial

end

/-! ## Runs -/

/-- What is registered is right in every state of a run exactly where, while
mEngineOn is stale, no session starts with NMEA wanted, none ends with events
of a session registered, and none is given a mask with NMEA. -/
theorem registered_right_iff (mExcludedMask : BitVec 64) (es : List MaskEvent) :
    StatesMeet (step mExcludedMask) Right init es ↔
      StepsMeet (step mExcludedMask) (Sound mExcludedMask) init es := by
  refine statesMeet_iff_stepsMeet_of_inv (fun s => Linked s ∧ Right s) (fun s h => h.2) ?_ ?_
    ⟨linked_init, right_of_disconnected rfl⟩ es
  · intro s e h hok
    exact ⟨linked_step h.1 e, (right_step h.1 h.2 e).mpr hok⟩
  · intro s e h hright
    exact (right_step h.1 h.2 e).mp hright

/-- The modem restarts while its engine is on; the events of a session that
ends before the engine of the next one is on stay registered. -/
theorem not_right_restarted : ¬ StatesMeet (step 0#64) Right init
      (let mask := adapterMask [.LOC_API_ADAPTER_REPORT_POSITION, .LOC_API_ADAPTER_REPORT_STATUS]
      [.locOpen mask true true true, .startFix, .reportEngineState true, .locClose,
        .locOpen mask true true true, .startFix, .stopFix]) := by
  intro hright
  have hidle := (hright.last rfl).2 rfl rfl
  exact absurd hidle (by decide)

end Registration

end LocStack.LocApi
