/-
# `LocStack.ClientApi.Mask` — the callback mask, at the client and at the daemon

The client stores the mask that it has sent and does not send it again.
Both ends change it on their own where a session ends:

    the client    stopTracking, whether a message is sent or not
    the daemon    a STOP message, whether the session ends or listens on

`masks_iff`: the two masks agree throughout a run of starts and stops of
position sessions if and only if neither happens without the other where it
matters,

* no session that asks for reports is switched to passive listening;
* no passive session that has asked for reports is stopped.
-/
import LocStack.ClientApi.Model

namespace LocStack.ClientApi

open Base Daemon

/-- A client whose messages have all been taken, and the daemon that has
served what they sent. -/
structure LinkedClient where
  impl : LocationClientApiImpl
  daemon : DaemonClient

inductive PositionCall where
  | start (session : PositionSession) (responseCallback : Option Callback)
  | stop

def PositionCall.messages : PositionCall → List ClientMsg
  | .start session responseCallback => startPositionSession session responseCallback
  | .stop => stopPositionSession

/-- A session without a callback for reports. -/
def PositionSession.silent : PositionSession → Prop
  | .location .. => False
  | .gnss _ gnssReportCallbacks => gnssReportCallbacks = .none
  | .engine _ _ engReportCallbacks => engReportCallbacks = .none

namespace LinkedClient

variable (s : LinkedClient)

/-- A message is taken, and what it sends is served. -/
def take (msg : ClientMsg) : LinkedClient where
  impl := (s.impl.proc msg).1
  daemon := s.daemon.receive (s.impl.proc msg).2

def takeAll (msgs : List ClientMsg) : LinkedClient := msgs.foldl take s

/-- Registered, before any session; there may be a listener to the system
information. -/
def registered (mLocationSysInfoCb : Bool) : LinkedClient :=
  let impl := { LocationClientApiImpl.new with mHalRegistered := true, mLocationSysInfoCb }
  { impl := { impl with mCallbacksMask := impl.sysInfoMask }
    daemon := { DaemonClient.new with mSubscriptionMask := impl.sysInfoMask } }

def step (c : PositionCall) : LinkedClient × List Empty := (s.takeAll c.messages, [])

/-- The mask that the client believes to be in force is the daemon's. -/
def Agrees : Prop := s.impl.mCallbacksMask = s.daemon.mSubscriptionMask

def Fits : PositionCall → Prop
  | .start session _ =>
    s.impl.mSessionId = true → ¬ s.impl.mLocationOptions.passive → session.options.passive →
      session.silent
  | .stop =>
    s.impl.mSessionId = true → s.impl.mLocationOptions.passive →
      s.impl.mCallbacksMask = s.impl.sysInfoMask

end LinkedClient

/-! ## The mask of a session -/

def sysInfoBit (mLocationSysInfoCb : Bool) : UInt32 :=
  if mLocationSysInfoCb then E_LOC_CB_SYSTEM_INFO_BIT else 0

namespace PositionSession

/-- The bits of a session, and of the listener to the system information. -/
def mask (mLocationSysInfoCb : Bool) (session : PositionSession) : UInt32 :=
  maskOf (session.cbs none).locationcb.isSome mLocationSysInfoCb session.callbacksOption

theorem gnss_bits : ∀ location sv nmea data meas sysInfo : Bool,
    let bits := maskOf false sysInfo { LocationCallbacks.none with
      responseCb := true, gnssLocationInfoCb := location, gnssSvCb := sv, gnssNmeaCb := nmea
      gnssDataCb := data, gnssMeasurementsCb := meas }
    bits &&& ~~~LOCATION_SESSON_ALL_INFO_MASK = sysInfoBit sysInfo ∧ (bits = sysInfoBit sysInfo ↔
        location = false ∧ sv = false ∧ nmea = false ∧ data = false ∧ meas = false) := by
  decide

theorem engine_bits : ∀ location sv nmea data meas sysInfo : Bool,
    let bits := maskOf false sysInfo { LocationCallbacks.none with
      responseCb := true, engineLocationsInfoCb := location, gnssSvCb := sv, gnssNmeaCb := nmea
      gnssDataCb := data, gnssMeasurementsCb := meas }
    bits &&& ~~~LOCATION_SESSON_ALL_INFO_MASK = sysInfoBit sysInfo ∧ (bits = sysInfoBit sysInfo ↔
        location = false ∧ sv = false ∧ nmea = false ∧ data = false ∧ meas = false) := by
  decide

theorem location_bits : ∀ time sysInfo : Bool,
    let bits := maskOf true sysInfo { LocationCallbacks.none with
      responseCb := true, trackingCb := !time, gnssLocationInfoCb := time }
    bits &&& ~~~LOCATION_SESSON_ALL_INFO_MASK = sysInfoBit sysInfo ∧ bits ≠ sysInfoBit sysInfo := by
  decide

theorem mask_and (sysInfo : Bool) (session : PositionSession) :
    session.mask sysInfo &&& ~~~LOCATION_SESSON_ALL_INFO_MASK = sysInfoBit sysInfo := by
  cases session with
  | location intervalInMs distanceInMeters locationCallback =>
    have hbits := (location_bits (distanceInMeters = 0) sysInfo).1
    rw [← decide_not] at hbits
    exact hbits
  | gnss intervalInMs cbs => exact (gnss_bits _ _ _ _ _ sysInfo).1
  | engine intervalInMs locEngReqMask cbs => exact (engine_bits _ _ _ _ _ sysInfo).1

theorem mask_eq_iff (sysInfo : Bool) (session : PositionSession) :
    session.mask sysInfo = sysInfoBit sysInfo ↔ session.silent := by
  cases session with
  | location intervalInMs distanceInMeters locationCallback =>
    have hbits := (location_bits (distanceInMeters = 0) sysInfo).2
    rw [← decide_not] at hbits
    exact iff_of_false hbits id
  | gnss intervalInMs cbs =>
    refine (gnss_bits _ _ _ _ _ sysInfo).2.trans ?_
    obtain ⟨a, b, c, d, e⟩ := cbs
    simp [silent, GnssReportCbs.none]
  | engine intervalInMs locEngReqMask cbs =>
    refine (engine_bits _ _ _ _ _ sysInfo).2.trans ?_
    obtain ⟨a, b, c, d, e⟩ := cbs
    simp [silent, EngineReportCbs.none]

end PositionSession

/-! ## What a message does to the masks -/

namespace LocationClientApiImpl

variable {s : LocationClientApiImpl} {d : DaemonClient}

/-- The masks are the same, before and after. -/
def SameMask (s : LocationClientApiImpl) (d : DaemonClient)
    (p : LocationClientApiImpl × List Out) : Prop :=
  p.1.mCallbacksMask = s.mCallbacksMask ∧ p.1.mLocationSysInfoCb = s.mLocationSysInfoCb ∧
    p.1.mHalRegistered = s.mHalRegistered ∧
    (d.receive p.2).mSubscriptionMask = d.mSubscriptionMask

theorem sameMask_invoke (responseCode : LocationResponse) :
    SameMask s d (s.invokePositionSessionResponseCb responseCode) := by
  unfold invokePositionSessionResponseCb
  split
  · cases s.mResponseCb <;> exact ⟨rfl, rfl, rfl, rfl⟩
  · exact ⟨rfl, rfl, rfl, rfl⟩

theorem mask_serve_tracking (options : TrackingOptions) :
    (d.serve (.startTracking options)).mSubscriptionMask = d.mSubscriptionMask ∧
      (d.serve (.updateTrackingOptions options)).mSubscriptionMask = d.mSubscriptionMask := by
  unfold DaemonClient.serve
  constructor <;> dsimp only <;> split <;> rfl

theorem mask_updateCallbacks (callbacks : LocationCallbacks) (hregistered : s.mHalRegistered = true)
    (hagrees : s.mCallbacksMask = d.mSubscriptionMask) :
    (s.updateCallbacks callbacks).1.mCallbacksMask = s.callBacksMask callbacks ∧
      (d.receive (s.updateCallbacks callbacks).2).mSubscriptionMask = s.callBacksMask callbacks := by
  by_cases hsame : s.mCallbacksMask = s.callBacksMask callbacks
  · rw [updateCallbacks_of_eq hsame]
    exact ⟨hsame, hagrees.symm.trans hsame⟩
  · rw [updateCallbacks_of_ne hsame, if_pos hregistered]
    exact ⟨rfl, rfl⟩

theorem fields_updateCallbacks (callbacks : LocationCallbacks) :
    (s.updateCallbacks callbacks).1.mSessionId = s.mSessionId ∧
      (s.updateCallbacks callbacks).1.mLocationOptions = s.mLocationOptions ∧
      (s.updateCallbacks callbacks).1.mLocationSysInfoCb = s.mLocationSysInfoCb ∧
      (s.updateCallbacks callbacks).1.mHalRegistered = s.mHalRegistered := by
  rw [updateCallbacks_fst]
  exact ⟨rfl, rfl, rfl, rfl⟩

/-- A session that listens on without asking for fixes. -/
def Switches (s : LocationClientApiImpl) (option : TrackingOptions) : Prop :=
  s.mSessionId = true ∧ ¬ s.mLocationOptions.passive ∧ option.passive

variable {option : TrackingOptions}

theorem sameMask_startTracking (hregistered : s.mHalRegistered = true)
    (hswitches : ¬ s.Switches option) : SameMask s d (s.startTracking option) := by
  unfold startTracking
  rw [if_neg (by rw [hregistered]; decide)]
  split
  · split
    · exact ⟨rfl, rfl, rfl, rfl⟩
    · exact ⟨rfl, rfl, rfl, (mask_serve_tracking option).1⟩
  rename_i hactive
  rw [Bool.not_eq_false] at hactive
  split
  · unfold updateTrackingOptionsSync
    split
    · rename_i hstop
      exact absurd ⟨hactive, hstop.2, hstop.1⟩ hswitches
    split
    · exact ⟨rfl, rfl, rfl, (mask_serve_tracking option).1⟩
    · exact ⟨rfl, rfl, rfl, (mask_serve_tracking option).2⟩
  · exact sameMask_invoke _

theorem startTracking_of_switches (hregistered : s.mHalRegistered = true)
    (hswitches : s.Switches option) :
    s.startTracking option = ({ s with mLocationOptions := option }, [.send .stopTracking]) := by
  obtain ⟨hactive, hold, hnew⟩ := hswitches
  unfold startTracking
  rw [if_neg (by rw [hregistered]; decide), if_neg (by rw [hactive]; decide), if_pos]
  · unfold updateTrackingOptionsSync
    rw [if_pos ⟨hnew, hold⟩]
  · rintro rfl
    exact hold hnew

end LocationClientApiImpl

/-! ## The two masks -/

namespace LinkedClient

open LocationClientApiImpl

variable {s : LinkedClient}

/-- What is known between two calls. -/
structure InForce (s : LinkedClient) : Prop where
  agrees : s.Agrees
  registered : s.impl.mHalRegistered = true
  /-- nothing but position sessions asks for reports -/
  bits : s.impl.mCallbacksMask &&& ~~~LOCATION_SESSON_ALL_INFO_MASK = s.impl.sysInfoMask

theorem inForce_registered (mLocationSysInfoCb : Bool) :
    InForce (registered mLocationSysInfoCb) := by
  cases mLocationSysInfoCb <;> exact ⟨rfl, rfl, rfl⟩

theorem InForce.callbacks (h : InForce s) (session : PositionSession)
    (responseCallback : Option Callback) :
    ∃ t : LinkedClient, s.takeAll (startPositionSession session responseCallback) =
        t.take (.startTracking session.options) ∧
      t.Agrees ∧ t.impl.mHalRegistered = true ∧
      t.impl.mCallbacksMask = session.mask s.impl.mLocationSysInfoCb ∧
      t.impl.mLocationSysInfoCb = s.impl.mLocationSysInfoCb ∧
      t.impl.mSessionId = s.impl.mSessionId ∧
      t.impl.mLocationOptions = s.impl.mLocationOptions := by
  let t₁ := s.take (.updateCallbackFunctions (session.cbs responseCallback) session.reportCbType)
  let t₂ := t₁.take (.updateCallbacks session.callbacksOption)
  have hagrees : t₁.impl.mCallbacksMask = t₁.daemon.mSubscriptionMask := by
    cases session <;> exact h.agrees
  have hregistered : t₁.impl.mHalRegistered = true := by
    cases session <;> exact h.registered
  have hsysInfo : t₁.impl.mLocationSysInfoCb = s.impl.mLocationSysInfoCb := by
    cases session <;> rfl
  have hsessionId : t₁.impl.mSessionId = s.impl.mSessionId := by
    cases session <;> rfl
  have hoptions : t₁.impl.mLocationOptions = s.impl.mLocationOptions := by
    cases session <;> rfl
  have hmask : t₁.impl.callBacksMask session.callbacksOption =
      session.mask s.impl.mLocationSysInfoCb := by
    cases session <;> rfl
  obtain ⟨hclient, hdaemon⟩ := mask_updateCallbacks session.callbacksOption hregistered hagrees
  obtain ⟨hkeepsId, hkeepsOptions, hkeepsSysInfo, hkeepsRegistered⟩ :=
    fields_updateCallbacks (s := t₁.impl) session.callbacksOption
  exact ⟨t₂, rfl, hclient.trans hdaemon.symm, hkeepsRegistered.trans hregistered,
    hclient.trans hmask, hkeepsSysInfo.trans hsysInfo, hkeepsId.trans hsessionId,
    hkeepsOptions.trans hoptions⟩

theorem InForce.agrees_start (h : InForce s) (session : PositionSession)
    (responseCallback : Option Callback) :
    (s.takeAll (startPositionSession session responseCallback)).Agrees ↔
      s.Fits (.start session responseCallback) := by
  obtain ⟨t, heq, hagrees, hregistered, hmask, hsysInfo, hsessionId, hoptions⟩ :=
    h.callbacks session responseCallback
  have hfits : s.Fits (.start session responseCallback) ↔
      (t.impl.Switches session.options → session.silent) := by
    unfold Fits Switches
    dsimp only
    rw [hsessionId, hoptions]
    exact ⟨fun h hs => h hs.1 hs.2.1 hs.2.2, fun h h1 h2 h3 => h ⟨h1, h2, h3⟩⟩
  rw [heq, hfits]
  by_cases hswitches : t.impl.Switches session.options
  · have hstep := startTracking_of_switches hregistered hswitches
    have hafter : (t.take (.startTracking session.options)).Agrees ↔ t.impl.mCallbacksMask =
        t.daemon.mSubscriptionMask &&& ~~~LOCATION_SESSON_ALL_INFO_MASK := by
      unfold Agrees take
      change (t.impl.startTracking session.options).1.mCallbacksMask =
        (t.daemon.receive (t.impl.startTracking session.options).2).mSubscriptionMask ↔ _
      rw [hstep]
      rfl
    rw [hafter, ← show t.impl.mCallbacksMask = t.daemon.mSubscriptionMask from hagrees, hmask,
      PositionSession.mask_and, PositionSession.mask_eq_iff]
    exact ⟨fun hsilent _ => hsilent, fun hfits => hfits hswitches⟩
  · obtain ⟨hclient, -, -, hdaemon⟩ :=
      sameMask_startTracking (d := t.daemon) hregistered hswitches
    exact iff_of_true (hclient.trans (hagrees.trans hdaemon.symm)) fun h => absurd h hswitches

theorem InForce.start (h : InForce s) {session : PositionSession}
    {responseCallback : Option Callback} (hfits : s.Fits (.start session responseCallback)) :
    InForce (s.takeAll (startPositionSession session responseCallback)) := by
  have hafter := (h.agrees_start session responseCallback).mpr hfits
  obtain ⟨t, heq, hagrees, hregistered, hmask, hsysInfo, -, -⟩ :=
    h.callbacks session responseCallback
  rw [heq] at hafter ⊢
  have hkeeps : (t.take (.startTracking session.options)).impl.mCallbacksMask =
        t.impl.mCallbacksMask ∧
      (t.take (.startTracking session.options)).impl.mLocationSysInfoCb =
        t.impl.mLocationSysInfoCb ∧
      (t.take (.startTracking session.options)).impl.mHalRegistered = t.impl.mHalRegistered := by
    change (t.impl.startTracking session.options).1.mCallbacksMask = _ ∧
      (t.impl.startTracking session.options).1.mLocationSysInfoCb = _ ∧
      (t.impl.startTracking session.options).1.mHalRegistered = _
    by_cases hswitches : t.impl.Switches session.options
    · rw [startTracking_of_switches hregistered hswitches]
      exact ⟨rfl, rfl, rfl⟩
    · obtain ⟨hclient, hclientSysInfo, hclientRegistered, -⟩ :=
        sameMask_startTracking (d := t.daemon) hregistered hswitches
      exact ⟨hclient, hclientSysInfo, hclientRegistered⟩
  refine ⟨hafter, hkeeps.2.2.trans hregistered, ?_⟩
  rw [hkeeps.1, hmask, PositionSession.mask_and]
  exact congrArg sysInfoBit (hsysInfo.symm.trans hkeeps.2.1.symm)

theorem InForce.agrees_stop (h : InForce s) :
    (s.takeAll stopPositionSession).Agrees ↔ s.Fits .stop := by
  change s.impl.stopTracking.1.mCallbacksMask =
    (s.daemon.receive s.impl.stopTracking.2).mSubscriptionMask ↔ _
  unfold stopTracking Fits
  dsimp only
  split
  · rename_i hactive
    by_cases hpassive : s.impl.mLocationOptions.passive
    · rw [if_neg fun h => h.2 hpassive]
      change s.impl.sysInfoMask = s.daemon.mSubscriptionMask ↔ _
      rw [← show s.impl.mCallbacksMask = s.daemon.mSubscriptionMask from h.agrees]
      exact ⟨fun heq _ _ => heq.symm, fun hfits => (hfits hactive hpassive).symm⟩
    · rw [if_pos ⟨h.registered, hpassive⟩]
      change s.impl.sysInfoMask =
        s.daemon.mSubscriptionMask &&& ~~~LOCATION_SESSON_ALL_INFO_MASK ↔ _
      rw [← show s.impl.mCallbacksMask = s.daemon.mSubscriptionMask from h.agrees, h.bits]
      exact iff_of_true rfl fun _ h => absurd h hpassive
  · rename_i hinactive
    exact iff_of_true h.agrees fun h => absurd h hinactive

theorem InForce.stop (h : InForce s) (hfits : s.Fits .stop) :
    InForce (s.takeAll stopPositionSession) := by
  refine ⟨h.agrees_stop.mpr hfits, ?_, ?_⟩
  · change s.impl.stopTracking.1.mHalRegistered = true
    unfold stopTracking
    split <;> exact h.registered
  · change s.impl.stopTracking.1.mCallbacksMask &&& ~~~LOCATION_SESSON_ALL_INFO_MASK =
      s.impl.stopTracking.1.sysInfoMask
    unfold stopTracking
    split
    · change sysInfoBit s.impl.mLocationSysInfoCb &&& ~~~LOCATION_SESSON_ALL_INFO_MASK =
        sysInfoBit s.impl.mLocationSysInfoCb
      cases s.impl.mLocationSysInfoCb <;> decide
    · exact h.bits

/-- The masks agree after every call if and only if every call fits. -/
theorem masks_iff (mLocationSysInfoCb : Bool) (cs : List PositionCall) :
    StatesMeet step Agrees (registered mLocationSysInfoCb) cs ↔
      StepsMeet step Fits (registered mLocationSysInfoCb) cs := by
  refine statesMeet_iff_stepsMeet_of_inv (fun s : LinkedClient => InForce s) (fun s hs => hs.agrees)
    ?_ ?_ (inForce_registered mLocationSysInfoCb) cs
  · intro s c hs hfits
    cases c with
    | start session responseCallback => exact hs.start hfits
    | stop => exact hs.stop hfits
  · intro s c hs hagrees
    cases c with
    | start session responseCallback =>
      exact (hs.agrees_start session responseCallback).mp hagrees
    | stop => exact hs.agrees_stop.mp hagrees

/-- The reports that a session asked for. -/
def positions : PositionSession := .location 1000 0 7

/-- A client that listens on no longer has its reports sent. -/
theorem not_agrees_listensOn : ¬ StatesMeet step Agrees (registered false)
      [.start positions none, .start (.location 0 0 7) none] := by
  intro h
  have hmasks : E_LOC_CB_SIMPLE_LOCATION_INFO_BIT = 0 := h.last
  exact absurd hmasks (by decide)

end LinkedClient

end LocStack.ClientApi
