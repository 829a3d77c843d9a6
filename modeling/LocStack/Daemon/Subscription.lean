/-
# `LocStack.Daemon.Subscription` — the callbacks a client of the daemon has

A client of the location hal daemon subscribes with a mask.  Its handler
keeps the mask and the callbacks that it registers with LocationAPI, which
are set or cleared one by one from the bits, and stopping a session takes
bits out of the mask:

    updateSubscription    the mask of the request
    stopTracking          the mask without LOCATION_SESSON_ALL_INFO_MASK
    stopBatching          0

`subscribed_iff`: after every request each callback is registered exactly
if its bit is in the mask, and stopping a session clears the bits of its
kind and no others, if and only if a client that has once subscribed to
trackingCb keeps its bit, and one that stops batching has batching bits
only.

The constructor registers gnssLocationInfoCb for a client that has not
subscribed to anything, so what is said of the callbacks is said from the
first request on.
-/
import LocStack.Base.Run

namespace LocStack.Daemon

open Base

/-! ## The callbacks and their bits -/

def E_LOC_CB_DISTANCE_BASED_TRACKING_BIT : UInt32 := 1
def E_LOC_CB_GNSS_LOCATION_INFO_BIT : UInt32 := 2
def E_LOC_CB_GNSS_SV_BIT : UInt32 := 4
def E_LOC_CB_GNSS_NMEA_BIT : UInt32 := 8
def E_LOC_CB_GNSS_DATA_BIT : UInt32 := 16
def E_LOC_CB_SYSTEM_INFO_BIT : UInt32 := 32
def E_LOC_CB_BATCHING_BIT : UInt32 := 64
def E_LOC_CB_BATCHING_STATUS_BIT : UInt32 := 128
def E_LOC_CB_GEOFENCE_BREACH_BIT : UInt32 := 256
def E_LOC_CB_ENGINE_LOCATIONS_INFO_BIT : UInt32 := 512
def E_LOC_CB_SIMPLE_LOCATION_INFO_BIT : UInt32 := 1024
def E_LOC_CB_GNSS_MEAS_BIT : UInt32 := 2048

/-- What is tied to a position session and unsubscribed when it is stopped. -/
def LOCATION_SESSON_ALL_INFO_MASK : UInt32 :=
  E_LOC_CB_DISTANCE_BASED_TRACKING_BIT ||| E_LOC_CB_GNSS_LOCATION_INFO_BIT |||
    E_LOC_CB_GNSS_SV_BIT ||| E_LOC_CB_GNSS_NMEA_BIT ||| E_LOC_CB_GNSS_DATA_BIT |||
    E_LOC_CB_GNSS_MEAS_BIT ||| E_LOC_CB_ENGINE_LOCATIONS_INFO_BIT |||
    E_LOC_CB_SIMPLE_LOCATION_INFO_BIT

/-- What is tied to a batching session. -/
def batchingMask : UInt32 := E_LOC_CB_BATCHING_BIT ||| E_LOC_CB_BATCHING_STATUS_BIT

/-- Which callbacks are set. -/
structure LocationCallbacks where
  (capabilitiesCb responseCb collectiveResponseCb trackingCb batchingCb batchingStatusCb : Bool)
  (geofenceBreachCb gnssLocationInfoCb engineLocationsInfoCb gnssSvCb gnssNmeaCb gnssDataCb : Bool)
  (gnssMeasurementsCb locationSystemInfoCb gnssNiCb geofenceStatusCb : Bool)
  deriving DecidableEq

/-- `mCallbacks{}`. -/
def LocationCallbacks.none : LocationCallbacks where
  capabilitiesCb := false
  responseCb := false
  collectiveResponseCb := false
  trackingCb := false
  batchingCb := false
  batchingStatusCb := false
  geofenceBreachCb := false
  gnssLocationInfoCb := false
  engineLocationsInfoCb := false
  gnssSvCb := false
  gnssNmeaCb := false
  gnssDataCb := false
  gnssMeasurementsCb := false
  locationSystemInfoCb := false
  gnssNiCb := false
  geofenceStatusCb := false

/-- The callbacks that a client subscribes to. -/
inductive Subscribed where
  | trackingCb | batchingCb | batchingStatusCb | geofenceBreachCb | gnssLocationInfoCb
  | engineLocationsInfoCb | gnssSvCb | gnssNmeaCb | gnssDataCb | gnssMeasurementsCb
  | locationSystemInfoCb

/-- The bits of a callback, of which one is enough. -/
def Subscribed.bits : Subscribed → UInt32
  | .trackingCb => E_LOC_CB_DISTANCE_BASED_TRACKING_BIT
  | .batchingCb => E_LOC_CB_BATCHING_BIT
  | .batchingStatusCb => E_LOC_CB_BATCHING_STATUS_BIT
  | .geofenceBreachCb => E_LOC_CB_GEOFENCE_BREACH_BIT
  | .gnssLocationInfoCb => E_LOC_CB_GNSS_LOCATION_INFO_BIT ||| E_LOC_CB_SIMPLE_LOCATION_INFO_BIT
  | .engineLocationsInfoCb => E_LOC_CB_ENGINE_LOCATIONS_INFO_BIT
  | .gnssSvCb => E_LOC_CB_GNSS_SV_BIT
  | .gnssNmeaCb => E_LOC_CB_GNSS_NMEA_BIT
  | .gnssDataCb => E_LOC_CB_GNSS_DATA_BIT
  | .gnssMeasurementsCb => E_LOC_CB_GNSS_MEAS_BIT
  | .locationSystemInfoCb => E_LOC_CB_SYSTEM_INFO_BIT

def LocationCallbacks.has (cbs : LocationCallbacks) : Subscribed → Bool
  | .trackingCb => cbs.trackingCb
  | .batchingCb => cbs.batchingCb
  | .batchingStatusCb => cbs.batchingStatusCb
  | .geofenceBreachCb => cbs.geofenceBreachCb
  | .gnssLocationInfoCb => cbs.gnssLocationInfoCb
  | .engineLocationsInfoCb => cbs.engineLocationsInfoCb
  | .gnssSvCb => cbs.gnssSvCb
  | .gnssNmeaCb => cbs.gnssNmeaCb
  | .gnssDataCb => cbs.gnssDataCb
  | .gnssMeasurementsCb => cbs.gnssMeasurementsCb
  | .locationSystemInfoCb => cbs.locationSystemInfoCb

/-! ## The handler -/

structure Subscriber where
  mSubscriptionMask : UInt32
  mCallbacks : LocationCallbacks
  /-- null, or the callbacks that LocationAPI has been given -/
  mLocationApi : Option LocationCallbacks

inductive SubscriberRequest where
  | updateSubscription (locationCallbacks : UInt32)
  | stopTracking | stopBatching

namespace Subscriber

variable (s : Subscriber)

/-- Every callback but trackingCb is cleared where its bit is not set. -/
def updateSubscription (mask : UInt32) : Subscriber :=
  let mCallbacks : LocationCallbacks :=
    { capabilitiesCb := true
      responseCb := true
      collectiveResponseCb := true
      trackingCb :=
        if mask &&& E_LOC_CB_DISTANCE_BASED_TRACKING_BIT ≠ 0 then true
        else s.mCallbacks.trackingCb
      batchingCb := mask &&& E_LOC_CB_BATCHING_BIT ≠ 0
      batchingStatusCb := mask &&& E_LOC_CB_BATCHING_STATUS_BIT ≠ 0
      geofenceBreachCb := mask &&& E_LOC_CB_GEOFENCE_BREACH_BIT ≠ 0
      gnssLocationInfoCb :=
        mask &&& (E_LOC_CB_GNSS_LOCATION_INFO_BIT ||| E_LOC_CB_SIMPLE_LOCATION_INFO_BIT) ≠ 0
      engineLocationsInfoCb := mask &&& E_LOC_CB_ENGINE_LOCATIONS_INFO_BIT ≠ 0
      gnssSvCb := mask &&& E_LOC_CB_GNSS_SV_BIT ≠ 0
      gnssNmeaCb := mask &&& E_LOC_CB_GNSS_NMEA_BIT ≠ 0
      gnssDataCb := mask &&& E_LOC_CB_GNSS_DATA_BIT ≠ 0
      gnssMeasurementsCb := mask &&& E_LOC_CB_GNSS_MEAS_BIT ≠ 0
      locationSystemInfoCb := mask &&& E_LOC_CB_SYSTEM_INFO_BIT ≠ 0
      gnssNiCb := false
      geofenceStatusCb := false }
  { s with
    mSubscriptionMask := mask
    mCallbacks := mCallbacks
    -- call location API if already created
    mLocationApi := s.mLocationApi.map fun _ => mCallbacks }

def unsubscribeLocationSessionCb : Subscriber :=
  s.updateSubscription (s.mSubscriptionMask &&& ~~~LOCATION_SESSON_ALL_INFO_MASK)

/-- The constructor.  Only a client of the location client API gets a
LocationAPI. -/
def new (locationClientApi : Bool) : Subscriber :=
  let s : Subscriber := ⟨0, .none, none⟩
  if locationClientApi then
    let s := s.updateSubscription E_LOC_CB_GNSS_LOCATION_INFO_BIT
    -- client has not yet subscribed to anything yet
    { s with mSubscriptionMask := 0, mLocationApi := some s.mCallbacks }
  else s

/-- What LocationApiService does of a request to the subscription. -/
def serve : SubscriberRequest → Subscriber
  | .updateSubscription locationCallbacks => s.updateSubscription locationCallbacks
  | .stopTracking => s.unsubscribeLocationSessionCb
  | .stopBatching => s.updateSubscription 0

def step (r : SubscriberRequest) : Subscriber × List Empty := (s.serve r, [])

/-! ## Subscribed -/

/-- What LocationAPI has is what the mask says. -/
def Registered : Prop :=
  ∀ cbs, s.mLocationApi = some cbs →
    ∀ cb : Subscribed, cbs.has cb = true ↔ s.mSubscriptionMask &&& cb.bits ≠ 0

/-- The mask, where the bits of one kind are cleared, and no others. -/
def Clears : SubscriberRequest → Prop
  | .updateSubscription locationCallbacks =>
    (s.serve (.updateSubscription locationCallbacks)).mSubscriptionMask = locationCallbacks
  | .stopTracking => (s.serve .stopTracking).mSubscriptionMask =
      s.mSubscriptionMask &&& ~~~LOCATION_SESSON_ALL_INFO_MASK
  | .stopBatching => (s.serve .stopBatching).mSubscriptionMask =
      s.mSubscriptionMask &&& ~~~batchingMask

/-- A request is as it should be. -/
def Right (r : SubscriberRequest) : Prop := (s.serve r).Registered ∧ s.Clears r

/-- A client of LocationAPI that has had trackingCb asks for it again, and a
client stops batching only if all its bits are of batching. -/
def Fits : SubscriberRequest → Prop
  | .updateSubscription locationCallbacks =>
    s.mLocationApi ≠ none → s.mCallbacks.trackingCb = true →
      locationCallbacks &&& E_LOC_CB_DISTANCE_BASED_TRACKING_BIT ≠ 0
  | .stopTracking => s.mLocationApi ≠ none → s.mCallbacks.trackingCb = false
  | .stopBatching => (s.mLocationApi ≠ none → s.mCallbacks.trackingCb = false) ∧
      s.mSubscriptionMask &&& ~~~batchingMask = 0

variable {s}

theorem has_updateSubscription (mask : UInt32) (cb : Subscribed) (hcb : cb ≠ .trackingCb) :
    (s.updateSubscription mask).mCallbacks.has cb = true ↔ mask &&& cb.bits ≠ 0 := by
  cases cb with
  | trackingCb => exact absurd rfl hcb
  | _ => exact decide_eq_true_iff

theorem trackingCb_updateSubscription (mask : UInt32) :
    (s.updateSubscription mask).mCallbacks.trackingCb = true ↔
      mask &&& E_LOC_CB_DISTANCE_BASED_TRACKING_BIT ≠ 0 ∨ s.mCallbacks.trackingCb = true := by
  show (if mask &&& E_LOC_CB_DISTANCE_BASED_TRACKING_BIT ≠ 0 then true
    else s.mCallbacks.trackingCb) = true ↔ _
  split
  · rename_i hbit
    exact iff_of_true rfl (Or.inl hbit)
  · rename_i hbit
    exact (or_iff_right hbit).symm

theorem registered_updateSubscription (mask : UInt32) : (s.updateSubscription mask).Registered ↔
      (s.mLocationApi ≠ none → s.mCallbacks.trackingCb = true →
        mask &&& E_LOC_CB_DISTANCE_BASED_TRACKING_BIT ≠ 0) := by
  cases hapi : s.mLocationApi with
  | none =>
    have hnone : (s.updateSubscription mask).mLocationApi = none := by
      show s.mLocationApi.map _ = none
      rw [hapi]
      rfl
    exact iff_of_true (fun cbs hcbs => nomatch hnone.symm.trans hcbs) fun hne => absurd rfl hne
  | some old =>
    have hsome : (s.updateSubscription mask).mLocationApi =
        some (s.updateSubscription mask).mCallbacks := by
      show s.mLocationApi.map _ = some _
      rw [hapi]
      rfl
    constructor
    · intro hreg _ htracking
      have htracking' := (trackingCb_updateSubscription mask).mpr (Or.inr htracking)
      exact (hreg _ hsome .trackingCb).mp htracking'
    · intro hkeeps cbs hcbs cb
      obtain rfl := Option.some.inj (hsome.symm.trans hcbs)
      rcases eq_or_ne cb .trackingCb with rfl | hcb
      · refine (trackingCb_updateSubscription mask).trans (or_iff_left_of_imp ?_)
        exact hkeeps (Option.some_ne_none old)
      · exact has_updateSubscription mask cb hcb

theorem registered_of_no_tracking {mask : UInt32}
    (hmask : mask &&& E_LOC_CB_DISTANCE_BASED_TRACKING_BIT = 0) :
    (s.updateSubscription mask).Registered ↔
      (s.mLocationApi ≠ none → s.mCallbacks.trackingCb = false) := by
  refine (registered_updateSubscription mask).trans (forall_congr' fun _ => ?_)
  constructor
  · intro hkeeps
    exact eq_false_of_ne_true fun htracking => hkeeps htracking hmask
  · intro hfalse htracking
    exact absurd (htracking.symm.trans hfalse) Bool.true_eq_false.mp

theorem sessionMask_no_tracking (mask : UInt32) :
    mask &&& ~~~LOCATION_SESSON_ALL_INFO_MASK &&& E_LOC_CB_DISTANCE_BASED_TRACKING_BIT = 0 := by
  have hbit : ~~~LOCATION_SESSON_ALL_INFO_MASK &&& E_LOC_CB_DISTANCE_BASED_TRACKING_BIT = 0 := by
    decide
  rw [UInt32.and_assoc, hbit]
  exact UInt32.and_zero

theorem right_iff (r : SubscriberRequest) : s.Right r ↔ s.Fits r := by
  cases r with
  | updateSubscription locationCallbacks =>
    exact (and_iff_left rfl).trans (registered_updateSubscription locationCallbacks)
  | stopTracking =>
    exact (and_iff_left rfl).trans
      (registered_of_no_tracking (sessionMask_no_tracking s.mSubscriptionMask))
  | stopBatching =>
    exact and_congr (registered_of_no_tracking UInt32.zero_and) eq_comm

/-- After every request of a client the callbacks are what the mask says,
and stopping a session clears the bits of its kind, if and only if every
request fits. -/
theorem subscribed_iff (locationClientApi : Bool) (rs : List SubscriberRequest) :
    StepsMeet step Right (new locationClientApi) rs ↔
      StepsMeet step Fits (new locationClientApi) rs :=
  ⟨fun h => h.mono fun _ r => (right_iff r).mp, fun h => h.mono fun _ r => (right_iff r).mpr⟩

/-- Stopping batching takes the geofence breaches with it. -/
theorem not_right_stopBatching : ¬ StepsMeet step Right (new true)
      [.updateSubscription (E_LOC_CB_BATCHING_BIT ||| E_LOC_CB_GEOFENCE_BREACH_BIT),
        .stopBatching] := by
  rintro ⟨-, ⟨-, hclears⟩, -⟩
  have hmask : (0 : UInt32) =
      (E_LOC_CB_BATCHING_BIT ||| E_LOC_CB_GEOFENCE_BREACH_BIT) &&& ~~~batchingMask := hclears
  revert hmask
  decide

end Subscriber

end LocStack.Daemon
