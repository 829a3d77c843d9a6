/-
# `LocStack.Daemon.Suspend` — tracking over suspends and resumes of the system

The daemon stops the tracking sessions of all clients when the system goes
down and starts them again, with the options each handler has preserved,
when it comes up; deleting aiding data does both.  What a client has asked
for is in three places,

    mTracking     start succeeded, and not stopped since
    mSessionId    the session that LocationAPI runs for it
    mOptions      the options to start it with again

and a request changes them on its own terms: a start takes its options only
without a session, an update only with one, and it keeps the interval as it
was asked for, where a start keeps the one that is supported.

`tracking_iff`: throughout a run every client whose last request is not a
stop has a session with the options of that request, and none has one while
the system is down, if and only if every step meets `Fits`: a request comes
when its options are taken, and what is resumed is what was asked for last.
-/
import LocStack.Daemon.PendingMessages

namespace LocStack.Daemon

open Base List Option
open Tracking (GnssSuplMode LocationOptions TrackingOptions)

/-! ## Power events -/

inductive PowerStateType where
  | unknown | suspend | resume | shutdown
  deriving DecidableEq

/-- `power_state_t.sys_state`. -/
inductive SysState where
  | suspend | resume | shutdown
  /-- any other value -/
  | other

/-- `PowerEvtHandler::pwrStateCb`: what it passes on to the service. -/
def SysState.powerState : SysState → PowerStateType
  | .suspend => .suspend
  | .resume => .resume
  | .shutdown => .shutdown
  | .other => .unknown

/-! ## A client, its sessions and what it asks for -/

/-- What LocationAPI returns for a session that it starts. -/
abbrev SessionId := { id : UInt32 // id ≠ 0 }

/-- The sessions that LocationAPI runs, and the options each was last given,
after a call; `id` is what it returns for a start. -/
def ApiCall.run (id : UInt32) (sessions : List (UInt32 × TrackingOptions)) :
    ApiCall → List (UInt32 × TrackingOptions)
  | .startTracking options => sessions ++ [(id, options)]
  | .stopTracking id' => sessions.filter (·.1 ≠ id')
  | .updateTrackingOptions id' options =>
    sessions.map fun p => if p.1 = id' then (id', options) else p
  | _ => sessions

theorem ApiCall.run_stopTracking (id id' : UInt32) (options : TrackingOptions) :
    [ApiCall.stopTracking id'].foldl (ApiCall.run id) [(id', options)] = [] := by
  simp [ApiCall.run]

theorem ApiCall.run_updateTrackingOptions (id id' : UInt32) (before options : TrackingOptions) :
    [ApiCall.updateTrackingOptions id' options].foldl (ApiCall.run id) [(id', before)] =
      [(id', options)] := by
  simp [ApiCall.run]

/-- The options of the last tracking request, none if it was a stop. -/
def Request.asked (before : Option LocationOptions) : Request → Option LocationOptions
  | .startTracking locOptions => some locOptions
  | .stopTracking => none
  | .updateTrackingOptions locOptions => some locOptions
  | _ => before

/-- A handler, the sessions that LocationAPI runs for it, and the options
that its client has asked for last. -/
structure Tracked where
  handler : LocHalDaemonClientHandler
  sessions : List (UInt32 × TrackingOptions)
  requested : Option LocationOptions

/-- The interval that the engine supports. -/
def supported (o : TrackingOptions) : TrackingOptions :=
  { o with minInterval := LocHalDaemonClientHandler.getSupportedTbf o.minInterval }

/-- Without the size of the structure, which is that of LocationOptions in
one request and that of TrackingOptions in another. -/
def unsized (o : TrackingOptions) : TrackingOptions := { o with size := 0 }

/-- The options of a session that is as a request asks for.  The mode is the
master position mode. -/
def asGiven (mPositionMode : GnssSuplMode) (locOptions : LocationOptions) : TrackingOptions :=
  unsized (supported (trackingOptionsOf { locOptions with mode := mPositionMode }))

namespace Tracked

variable (t : Tracked)

def new (locationClientApi mIpcSender : Bool) : Tracked :=
  ⟨.new locationClientApi mIpcSender, [], none⟩

/-- The handler after some calls. -/
def after (id : UInt32) (p : LocHalDaemonClientHandler × List ApiCall) : Tracked :=
  { t with handler := p.1, sessions := p.2.foldl (ApiCall.run id) t.sessions }

def ask (mPositionMode : GnssSuplMode) (id : UInt32) (r : Request) : Tracked :=
  { t.after id (t.handler.serve mPositionMode id r) with requested := r.asked t.requested }

/-- One turn of the loop of `suspendAllTrackingSessions`. -/
def suspend : Tracked :=
  if t.handler.mTracking then
    let (h, calls) := t.handler.stopTracking
    t.after 0 (h.push .stopTracking, calls)
  else t

/-- One turn of the loop of `resumeAllTrackingSessions`, if the session
starts. -/
def resume (id : UInt32) : Tracked :=
  if t.handler.mTracking then
    let (h, calls) := t.handler.startTracking id
    t.after id (h.push .startTracking, calls)
  else t

end Tracked

/-! ## The service -/

/-- An insertion into `mClients`, an `unordered_map`, may leave it in any
order. -/
structure Rehashing where
  arrange : List (String × Tracked) → List (String × Tracked)
  perm : ∀ mClients, (arrange mClients).Perm mClients

def Rehashing.none : Rehashing := ⟨id, fun _ => .refl _⟩

structure TrackingService where
  mClients : List (String × Tracked)
  mPositionMode : GnssSuplMode
  mPowerState : PowerStateType

inductive TrackingEvent where
  | request (mSocketName : String) (r : Request) (id : SessionId)
  | newClient (clientname : String) (locationClientApi mIpcSender : Bool) (rehash : Rehashing)
  | deleteClient (clientname : String)
  | pwrStateCb (sys_state : SysState) (ids : String → SessionId)
  | configAidingDataDeletion (ids : String → SessionId)

/-- The loop of `resumeAllTrackingSessions`: a session that does not start
ends it. -/
def resumeTracked (ids : String → SessionId) : List (String × Tracked) → List (String × Tracked)
  | [] => []
  | (clientname, t) :: rest =>
    if t.handler.mTracking then
      let (h, calls) := t.handler.startTracking (ids clientname)
      if h.mSessionId = 0 then (clientname, t.after (ids clientname) (h, calls)) :: rest
      else
        (clientname, t.after (ids clientname) (h.push .startTracking, calls)) ::
          resumeTracked ids rest
    else (clientname, t) :: resumeTracked ids rest

namespace TrackingService

variable (s : TrackingService)

/-- The system is down. -/
def suspended : Bool := s.mPowerState = .suspend ∨ s.mPowerState = .shutdown

def suspendAllTrackingSessions : TrackingService :=
  { s with mClients := s.mClients.map fun p => (p.1, p.2.suspend) }

def resumeAllTrackingSessions (ids : String → SessionId) : TrackingService :=
  { s with mClients := resumeTracked ids s.mClients }

def onPowerEvent (powerState : PowerStateType) (ids : String → SessionId) : TrackingService :=
  let s := { s with mPowerState := powerState }
  match powerState with
  | .suspend => s.suspendAllTrackingSessions
  | .shutdown => s.suspendAllTrackingSessions
  | .resume => s.resumeAllTrackingSessions ids
  | .unknown => s

def configAidingDataDeletion (ids : String → SessionId) : TrackingService :=
  let s := s.suspendAllTrackingSessions
  if s.mPowerState = .suspend ∨ s.mPowerState = .shutdown then s
  else s.resumeAllTrackingSessions ids

def newClient (clientname : String) (locationClientApi mIpcSender : Bool) (rehash : Rehashing) :
    TrackingService :=
  if clientname ∈ s.mClients.map Prod.fst then s
  else
    { s with
      mClients :=
        rehash.arrange (s.mClients ++ [(clientname, .new locationClientApi mIpcSender)]) }

def handle : TrackingEvent → TrackingService
  | .request mSocketName r id =>
    { s with
      mClients := s.mClients.map fun p =>
        (p.1, if p.1 = mSocketName then p.2.ask s.mPositionMode id r else p.2) }
  | .newClient clientname locationClientApi mIpcSender rehash =>
    s.newClient clientname locationClientApi mIpcSender rehash
  | .deleteClient clientname =>
    { s with mClients := s.mClients.filter (·.1 ≠ clientname) }
  | .pwrStateCb sys_state ids =>
    if sys_state.powerState = .unknown then s else s.onPowerEvent sys_state.powerState ids
  | .configAidingDataDeletion ids => s.configAidingDataDeletion ids

def step (e : TrackingEvent) : TrackingService × List Empty := (s.handle e, [])

/-- The constructor; with `autoStart` a default client has started. -/
def new (mPositionMode : GnssSuplMode) (autoStart : Option (LocationOptions × SessionId)) :
    TrackingService where
  mClients :=
    match autoStart with
    | none => []
    | some (locationOption, id) =>
      [(AUTO_START_CLIENT_NAME,
        (Tracked.new true true).ask mPositionMode id (.startTracking locationOption))]
  mPositionMode := mPositionMode
  mPowerState := .unknown

end TrackingService

/-! ## What is to hold, and when it does -/

namespace Tracked

variable (mode : GnssSuplMode) (down : Bool) (t : Tracked)

/-- Down, there is no session; else there is one with the options of the
last request, if that was not a stop. -/
def Right : Prop :=
  if down then t.sessions = []
  else ∀ locOptions, t.requested = some locOptions →
    ∃ id options, t.sessions = [(id, options)] ∧ unsized options = asGiven mode locOptions

/-- A start comes while the system is up and the client has a LocationAPI,
and asks for nothing new if there is a session; an update comes when there
is one.  While the system is down an update is not heard. -/
def Hears : Request → Prop
  | .startTracking locOptions =>
    if down then t.handler.mLocationApi = false
    else t.handler.mLocationApi = true ∧ (t.handler.mSessionId ≠ 0 →
      ∀ last, t.requested = some last → asGiven mode last = asGiven mode locOptions)
  | .updateTrackingOptions _ => down = false → t.handler.mSessionId ≠ 0
  | _ => True

/-- The interval that is preserved is one that is supported. -/
def SupportsInterval : Prop :=
  LocHalDaemonClientHandler.getSupportedTbf t.handler.mOptions.minInterval =
    t.handler.mOptions.minInterval

/-- The options that are preserved are not those of an older request, and
have an interval that is supported. -/
def Preserves : Prop :=
  ∀ locOptions, t.requested = some locOptions → t.handler.mTracking = true ∧
    unsized (supported t.handler.mOptions) = asGiven mode locOptions ∧ t.SupportsInterval

/-- What is known of a client as long as every step fits. -/
structure Kept : Prop where
  started : t.handler.mTracking = true → t.handler.mLocationApi = true ∧ t.requested ≠ none
  idle : t.handler.mSessionId = 0 → t.sessions = []
  up : t.handler.mSessionId ≠ 0 → down = false ∧ t.handler.mTracking = true
  runs : down = false → ∀ locOptions, t.requested = some locOptions → t.handler.mSessionId ≠ 0 ∧
      (∃ options, t.sessions = [(t.handler.mSessionId, options)] ∧
        unsized options = asGiven mode locOptions) ∧
      unsized (supported t.handler.mOptions) = asGiven mode locOptions

end Tracked

namespace TrackingService

variable (s : TrackingService)

def Right : Prop := ∀ p ∈ s.mClients, p.2.Right s.mPositionMode s.suspended

def Kept : Prop := ∀ p ∈ s.mClients, p.2.Kept s.mPositionMode s.suspended

/-- A request is heard; and what has no session when the system comes up, or
loses it for a deletion, is preserved as it was asked for. -/
def Fits : TrackingEvent → Prop
  | .request mSocketName r _ => ∀ p ∈ s.mClients, p.1 = mSocketName →
      p.2.Hears s.mPositionMode s.suspended r
  | .pwrStateCb .resume _ => ∀ p ∈ s.mClients, p.2.handler.mSessionId = 0 →
      p.2.Preserves s.mPositionMode
  | .configAidingDataDeletion _ => s.suspended = false → ∀ p ∈ s.mClients,
      p.2.handler.mTracking = true → p.2.SupportsInterval
  | _ => True

end TrackingService

/-! ## The interval -/

theorem getSupportedTbf_idem (tbfMsec : Nat) : LocHalDaemonClientHandler.getSupportedTbf
      (LocHalDaemonClientHandler.getSupportedTbf tbfMsec) =
        LocHalDaemonClientHandler.getSupportedTbf tbfMsec := by
  grind [LocHalDaemonClientHandler.getSupportedTbf, UINT32_MAX]

/-! ## What the handler does of a request -/

namespace LocHalDaemonClientHandler

variable {h : LocHalDaemonClientHandler} (mode : GnssSuplMode) (locOptions : LocationOptions)

/-- The options with which a start is called. -/
def startOptions : TrackingOptions :=
  supported (trackingOptionsOf { locOptions with mode := mode })

/-- The options with which an update is called. -/
def updateOptions : TrackingOptions :=
  supported (TrackingOptions.zero.setLocationOptions { locOptions with mode := mode })

theorem serve_start_of_idle (hid : h.mSessionId = 0) (hapi : h.mLocationApi = true)
    (id : SessionId) : h.serve mode id (.startTracking locOptions) = (({ h with
          mOptions := startOptions mode locOptions
          mSessionId := id
          mTracking := true } : LocHalDaemonClientHandler).push .startTracking,
        [.startTracking (startOptions mode locOptions)]) := by
  have hstart : h.startTrackingWith { locOptions with mode := mode } id =
      ({ h with mOptions := startOptions mode locOptions, mSessionId := id },
        [.startTracking (startOptions mode locOptions)]) := if_pos ⟨hid, hapi⟩
  simp only [serve, hstart, if_neg id.2]

theorem serve_start_of_session (hid : h.mSessionId ≠ 0) (id : UInt32) :
    h.serve mode id (.startTracking locOptions) =
      (({ h with mTracking := true } : LocHalDaemonClientHandler).push .startTracking, []) := by
  have hstart : h.startTrackingWith { locOptions with mode := mode } id = (h, []) :=
    if_neg fun hand => hid hand.1
  simp only [serve, hstart, if_neg hid]

theorem serve_start_of_no_api (hid : h.mSessionId = 0) (hapi : h.mLocationApi = false)
    (id : UInt32) : h.serve mode id (.startTracking locOptions) = (h, []) := by
  have hstart : h.startTrackingWith { locOptions with mode := mode } id = (h, []) :=
    if_neg fun hand => Bool.false_ne_true (hapi.symm.trans hand.2)
  simp only [serve, hstart, if_pos hid]

theorem stopTracking_of_idle (hid : h.mSessionId = 0) : h.stopTracking = (h, []) :=
  if_neg fun hand => hand.1 hid

theorem stopTracking_of_session (hid : h.mSessionId ≠ 0) (hapi : h.mLocationApi = true) :
    h.stopTracking = ({ h with mSessionId := 0 }, [.stopTracking h.mSessionId]) :=
  if_pos ⟨hid, hapi⟩

theorem serve_update_of_idle (hid : h.mSessionId = 0) (id : UInt32) :
    h.serve mode id (.updateTrackingOptions locOptions) =
      (h.push .updateTrackingOptions, []) := by
  have hupdate : h.updateTrackingOptions { locOptions with mode := mode } = (h, []) :=
    if_neg fun hand => hand.1 hid
  simp only [serve, hupdate]

theorem serve_update_of_session (hid : h.mSessionId ≠ 0) (hapi : h.mLocationApi = true)
    (id : UInt32) : h.serve mode id (.updateTrackingOptions locOptions) =
      (({ h with mOptions := trackingOptionsOf { locOptions with mode := mode } } :
          LocHalDaemonClientHandler).push .updateTrackingOptions,
        [.updateTrackingOptions h.mSessionId (updateOptions mode locOptions)]) := by
  have hupdate : h.updateTrackingOptions { locOptions with mode := mode } =
      ({ h with mOptions := trackingOptionsOf { locOptions with mode := mode } },
        [.updateTrackingOptions h.mSessionId (updateOptions mode locOptions)]) :=
    if_pos ⟨hid, hapi⟩
  simp only [serve, hupdate]

theorem serve_batching (id : UInt32) {r : Request} (hr : ∀ before, r.asked before = before)
    (sessions : List (UInt32 × TrackingOptions)) :
    (h.serve mode id r).1.mTracking = h.mTracking ∧
      (h.serve mode id r).1.mLocationApi = h.mLocationApi ∧
      (h.serve mode id r).1.mSessionId = h.mSessionId ∧
      (h.serve mode id r).1.mOptions = h.mOptions ∧
      (h.serve mode id r).2.foldl (ApiCall.run id) sessions = sessions := by
  cases r with
  | startTracking locOptions => cases hr none
  | stopTracking => cases hr (some TrackingOptions.zero.toLocationOptions)
  | updateTrackingOptions locOptions => cases hr none
  | startBatching intervalInMs distanceInMeters batchingMode =>
    simp only [serve, startBatching]
    grind [push, ApiCall.run]
  | stopBatching =>
    simp only [serve, stopBatching]
    grind [push, ApiCall.run]
  | updateBatchingOptions intervalInMs distanceInMeters batchingMode =>
    simp only [serve, updateBatchingOptions]
    grind [push, ApiCall.run]

end LocHalDaemonClientHandler

/-! ## One client -/

namespace Tracked

variable {mode : GnssSuplMode} {down : Bool} {t : Tracked}

theorem supported_mOptions (h : t.SupportsInterval) :
    supported t.handler.mOptions = t.handler.mOptions :=
  congrArg (fun minInterval => { t.handler.mOptions with minInterval := minInterval }) h

theorem unsized_mOptions_iff (locOptions : LocationOptions) :
    unsized t.handler.mOptions = asGiven mode locOptions ↔
      unsized (supported t.handler.mOptions) = asGiven mode locOptions ∧ t.SupportsInterval := by
  constructor
  · intro h
    have hinterval : t.handler.mOptions.minInterval =
        LocHalDaemonClientHandler.getSupportedTbf locOptions.minInterval :=
      congrArg (fun o => o.minInterval) h
    have hsupports : t.SupportsInterval := by
      show LocHalDaemonClientHandler.getSupportedTbf _ = _
      rw [hinterval]
      exact getSupportedTbf_idem _
    exact ⟨(congrArg unsized (supported_mOptions hsupports)).trans h, hsupports⟩
  · rintro ⟨h, hsupports⟩
    exact (congrArg unsized (supported_mOptions hsupports)).symm.trans h

theorem kept_new (locationClientApi mIpcSender : Bool) :
    (new locationClientApi mIpcSender).Kept mode down where
  started h := nomatch h
  idle _ := rfl
  up h := absurd rfl h
  runs _ _ h := nomatch h

theorem Kept.right (h : t.Kept mode down) : t.Right mode down := by
  cases down with
  | true => exact h.idle (by_contra fun hne => Bool.false_ne_true (h.up hne).1.symm)
  | false =>
    intro locOptions hreq
    obtain ⟨-, ⟨options, hsessions, hgiven⟩, -⟩ := h.runs rfl locOptions hreq
    exact ⟨_, options, hsessions, hgiven⟩

theorem Kept.of_eq {t' : Tracked} (h : t.Kept mode down)
    (htracking : t'.handler.mTracking = t.handler.mTracking)
    (hapi : t'.handler.mLocationApi = t.handler.mLocationApi)
    (hid : t'.handler.mSessionId = t.handler.mSessionId)
    (hoptions : t'.handler.mOptions = t.handler.mOptions) (hsessions : t'.sessions = t.sessions)
    (hreq : t'.requested = t.requested) : t'.Kept mode down where
  started := by
    rw [htracking, hapi, hreq]
    exact h.started
  idle := by
    rw [hid, hsessions]
    exact h.idle
  up := by
    rw [hid, htracking]
    exact h.up
  runs := by
    rw [hid, hsessions, hoptions, hreq]
    exact h.runs

theorem Kept.of_idle (hid : t.handler.mSessionId = 0) (hsessions : t.sessions = [])
    (hstarted : t.handler.mTracking = true → t.handler.mLocationApi = true ∧ t.requested ≠ none)
    (hreq : down = false → t.requested = none) : t.Kept mode down where
  started := hstarted
  idle _ := hsessions
  up hne := absurd hid hne
  runs hup _ h := nomatch h.symm.trans (hreq hup)

variable {locOptions : LocationOptions}

theorem Kept.of_session {options : TrackingOptions} (hid : t.handler.mSessionId ≠ 0)
    (htracking : t.handler.mTracking = true) (hapi : t.handler.mLocationApi = true)
    (hreq : t.requested = some locOptions)
    (hsessions : t.sessions = [(t.handler.mSessionId, options)])
    (hgiven : unsized options = asGiven mode locOptions)
    (hoptions : unsized (supported t.handler.mOptions) = asGiven mode locOptions) :
    t.Kept mode false where
  started _ := ⟨hapi, hreq ▸ some_ne_none locOptions⟩
  idle h := absurd h hid
  up _ := ⟨rfl, htracking⟩
  runs _ last hlast := by
    obtain rfl := some.inj (hreq.symm.trans hlast)
    exact ⟨hid, ⟨options, hsessions, hgiven⟩, hoptions⟩

/-! ### A request -/

theorem ask_eq {id : UInt32} {r : Request} {h' : LocHalDaemonClientHandler}
    {calls : List ApiCall} (hserve : t.handler.serve mode id r = (h', calls)) :
    t.ask mode id r = ⟨h', calls.foldl (ApiCall.run id) t.sessions, r.asked t.requested⟩ := by
  unfold ask after
  rw [hserve]

theorem Kept.mSessionId_of_down (h : t.Kept mode true) : t.handler.mSessionId = 0 :=
  by_contra fun hne => Bool.false_ne_true (h.up hne).1.symm

theorem Kept.mLocationApi (h : t.Kept mode down) (hid : t.handler.mSessionId ≠ 0) :
    t.handler.mLocationApi = true := (h.started (h.up hid).2).1

theorem Kept.exists_requested (h : t.Kept mode down) (hid : t.handler.mSessionId ≠ 0) :
    ∃ locOptions, t.requested = some locOptions :=
  ne_none_iff_exists'.mp (h.started (h.up hid).2).2

theorem not_right_of_no_session (hsessions : t.sessions = [])
    (hreq : t.requested = some locOptions) : ¬ t.Right mode false := by
  intro hright
  obtain ⟨id, options, hone, -⟩ := hright locOptions hreq
  exact nomatch hsessions.symm.trans hone

section

variable (h : t.Kept mode down) (id : SessionId)
include h id

theorem ask_start_iff (locOptions : LocationOptions) :
    (t.Hears mode down (.startTracking locOptions) →
        (t.ask mode id (.startTracking locOptions)).Kept mode down) ∧
      ((t.ask mode id (.startTracking locOptions)).Right mode down →
        t.Hears mode down (.startTracking locOptions)) := by
  by_cases hid : t.handler.mSessionId = 0
  · cases hapi : t.handler.mLocationApi with
    | false =>
      -- nothing is called
      have heq := ask_eq (t := t)
        (LocHalDaemonClientHandler.serve_start_of_no_api mode locOptions hid hapi id)
      rw [heq]
      cases down with
      | true =>
        refine ⟨fun _ => .of_idle hid (h.idle hid) (fun htracking => ?_) (fun hup => nomatch hup),
          fun _ => hapi⟩
        exact ⟨(h.started htracking).1, some_ne_none _⟩
      | false =>
        refine ⟨fun hhears => ?_, fun hright => ?_⟩
        · exact absurd (hapi.symm.trans hhears.1) Bool.false_ne_true
        · exact absurd hright (not_right_of_no_session (h.idle hid) rfl)
    | true =>
      have heq := ask_eq (t := t)
        (LocHalDaemonClientHandler.serve_start_of_idle mode locOptions hid hapi id)
      rw [heq, h.idle hid]
      cases down with
      | true =>
        -- a session while the system is down
        refine ⟨fun hhears => ?_, fun hright => ?_⟩
        · exact absurd (hapi.symm.trans hhears) Bool.true_eq_false.mp
        · exact nomatch hright
      | false =>
        refine ⟨fun _ => .of_session id.2 rfl hapi rfl rfl rfl ?_,
          fun _ => ⟨hapi, fun hne => absurd hid hne⟩⟩
        exact congrArg (fun minInterval =>
          { asGiven mode locOptions with minInterval := minInterval })
            (getSupportedTbf_idem locOptions.minInterval)
  · -- the session goes on as it is
    obtain ⟨rfl, htracking⟩ := h.up hid
    obtain ⟨last, hlast⟩ := h.exists_requested hid
    obtain ⟨-, ⟨options, hsessions, hgiven⟩, hoptions⟩ := h.runs rfl last hlast
    have heq := ask_eq (t := t)
      (LocHalDaemonClientHandler.serve_start_of_session mode locOptions hid id)
    rw [heq]
    refine ⟨fun hhears => ?_, fun hright => ⟨h.mLocationApi hid, fun _ last' hlast' => ?_⟩⟩
    · have hsame := hhears.2 hid last hlast
      exact .of_session hid rfl (h.mLocationApi hid) rfl hsessions (hgiven.trans hsame)
        (hoptions.trans hsame)
    · obtain rfl := some.inj (hlast.symm.trans hlast')
      obtain ⟨id', options', hone, hgiven'⟩ := hright locOptions rfl
      obtain ⟨hpair, -⟩ := List.cons.inj (hsessions.symm.trans hone)
      obtain ⟨-, rfl⟩ := Prod.mk.inj hpair
      exact hgiven.symm.trans hgiven'

theorem kept_ask_stop : (t.ask mode id .stopTracking).Kept mode down := by
  by_cases hid : t.handler.mSessionId = 0
  · have hserve : t.handler.serve mode id .stopTracking =
        (({ t.handler with mTracking := false } : LocHalDaemonClientHandler).push .stopTracking,
          []) := by
      simp only [LocHalDaemonClientHandler.serve, LocHalDaemonClientHandler.stopTracking_of_idle
          (h := { t.handler with mTracking := false }) hid]
    rw [ask_eq hserve]
    exact .of_idle hid (h.idle hid) (fun htracking => nomatch htracking) fun _ => rfl
  · obtain ⟨rfl, -⟩ := h.up hid
    obtain ⟨last, hlast⟩ := h.exists_requested hid
    obtain ⟨-, ⟨options, hsessions, -⟩, -⟩ := h.runs rfl last hlast
    have hserve : t.handler.serve mode id .stopTracking =
        (({ t.handler with mTracking := false, mSessionId := 0 } :
            LocHalDaemonClientHandler).push .stopTracking,
          [.stopTracking t.handler.mSessionId]) := by
      simp only [LocHalDaemonClientHandler.serve, LocHalDaemonClientHandler.stopTracking_of_session
          (h := { t.handler with mTracking := false }) hid (h.mLocationApi hid)]
    rw [ask_eq hserve, hsessions]
    exact .of_idle rfl (ApiCall.run_stopTracking id _ _) (fun htracking => nomatch htracking)
      fun _ => rfl

theorem ask_update_iff (locOptions : LocationOptions) :
    (t.Hears mode down (.updateTrackingOptions locOptions) →
        (t.ask mode id (.updateTrackingOptions locOptions)).Kept mode down) ∧
      ((t.ask mode id (.updateTrackingOptions locOptions)).Right mode down →
        t.Hears mode down (.updateTrackingOptions locOptions)) := by
  by_cases hid : t.handler.mSessionId = 0
  · rw [ask_eq (LocHalDaemonClientHandler.serve_update_of_idle mode locOptions hid id)]
    cases down with
    | true =>
      refine ⟨fun _ => .of_idle hid (h.idle hid) (fun htracking => ?_) (fun hup => nomatch hup),
        fun _ hup => nomatch hup⟩
      exact ⟨(h.started htracking).1, some_ne_none _⟩
    | false =>
      refine ⟨fun hhears => absurd hid (hhears rfl), fun hright => ?_⟩
      exact absurd hright (not_right_of_no_session (h.idle hid) rfl)
  · obtain ⟨rfl, htracking⟩ := h.up hid
    obtain ⟨last, hlast⟩ := h.exists_requested hid
    obtain ⟨-, ⟨options, hsessions, -⟩, -⟩ := h.runs rfl last hlast
    rw [ask_eq (LocHalDaemonClientHandler.serve_update_of_session mode locOptions hid
      (h.mLocationApi hid) id), hsessions]
    refine ⟨fun _ => ?_, fun _ _ => hid⟩
    exact .of_session hid htracking (h.mLocationApi hid) rfl
      (ApiCall.run_updateTrackingOptions id _ options _) rfl rfl

theorem ask_iff (r : Request) : (t.Hears mode down r → (t.ask mode id r).Kept mode down) ∧
      ((t.ask mode id r).Right mode down → t.Hears mode down r) := by
  have hbatching : (∀ before, r.asked before = before) → (t.ask mode id r).Kept mode down := by
    intro hr
    obtain ⟨htracking, hapi, hid, hoptions, hsessions⟩ :=
      LocHalDaemonClientHandler.serve_batching (h := t.handler) mode id hr t.sessions
    exact h.of_eq htracking hapi hid hoptions hsessions (hr t.requested)
  cases r with
  | startTracking locOptions => exact ask_start_iff h id locOptions
  | stopTracking => exact ⟨fun _ => kept_ask_stop h id, fun _ => trivial⟩
  | updateTrackingOptions locOptions => exact ask_update_iff h id locOptions
  | startBatching intervalInMs distanceInMeters batchingMode =>
    exact ⟨fun _ => hbatching fun _ => rfl, fun _ => trivial⟩
  | stopBatching => exact ⟨fun _ => hbatching fun _ => rfl, fun _ => trivial⟩
  | updateBatchingOptions intervalInMs distanceInMeters batchingMode =>
    exact ⟨fun _ => hbatching fun _ => rfl, fun _ => trivial⟩

end

/-! ### The loops -/

theorem suspend_kept (h : t.Kept mode down) : t.suspend.Kept mode true ∧
    t.suspend.requested = t.requested ∧ t.suspend.handler.mTracking = t.handler.mTracking ∧
    t.suspend.handler.mOptions = t.handler.mOptions := by
  by_cases htracking : t.handler.mTracking = true
  · by_cases hid : t.handler.mSessionId = 0
    · have heq : t.suspend = { t with handler := t.handler.push .stopTracking } := by
        simp only [suspend, if_pos htracking, after,
          LocHalDaemonClientHandler.stopTracking_of_idle hid, foldl_nil]
      rw [heq]
      exact ⟨.of_idle hid (h.idle hid) h.started (fun hup => nomatch hup), rfl, rfl, rfl⟩
    · obtain ⟨rfl, -⟩ := h.up hid
      obtain ⟨last, hlast⟩ := h.exists_requested hid
      obtain ⟨-, ⟨options, hsessions, -⟩, -⟩ := h.runs rfl last hlast
      have heq : t.suspend = { t with
          handler := ({ t.handler with mSessionId := 0 } :
            LocHalDaemonClientHandler).push .stopTracking
          sessions := [.stopTracking t.handler.mSessionId].foldl (ApiCall.run 0) t.sessions } := by
        simp only [suspend, if_pos htracking, after,
          LocHalDaemonClientHandler.stopTracking_of_session hid (h.mLocationApi hid)]
      rw [heq, hsessions]
      exact ⟨.of_idle rfl (ApiCall.run_stopTracking 0 _ _) h.started (fun hup => nomatch hup),
        rfl, rfl, rfl⟩
  · have heq : t.suspend = t := if_neg htracking
    have hid : t.handler.mSessionId = 0 := by_contra fun hne => htracking (h.up hne).2
    rw [heq]
    exact ⟨.of_idle hid (h.idle hid) h.started (fun hup => nomatch hup), rfl, rfl, rfl⟩

theorem resume_iff (h : t.Kept mode down) (id : SessionId) :
    ((t.handler.mSessionId = 0 → t.Preserves mode) → (t.resume id).Kept mode false) ∧
      ((t.resume id).Right mode false → t.handler.mSessionId = 0 → t.Preserves mode) := by
  by_cases htracking : t.handler.mTracking = true
  · obtain ⟨hapi, hreq⟩ := h.started htracking
    obtain ⟨last, hlast⟩ := ne_none_iff_exists'.mp hreq
    by_cases hid : t.handler.mSessionId = 0
    · have hstart : t.handler.startTracking id =
          ({ t.handler with mSessionId := id }, [.startTracking t.handler.mOptions]) :=
        if_pos ⟨hid, hapi⟩
      have heq : t.resume id = { t with
          handler := ({ t.handler with mSessionId := id } :
            LocHalDaemonClientHandler).push .startTracking
          sessions := t.sessions ++ [(id.1, t.handler.mOptions)] } := by
        simp only [resume, if_pos htracking, after, hstart]
        rfl
      rw [heq, h.idle hid]
      constructor
      · intro hpreserves
        obtain ⟨-, hoptions, hsupports⟩ := hpreserves hid last hlast
        exact .of_session id.2 htracking hapi hlast rfl
          ((unsized_mOptions_iff last).mpr ⟨hoptions, hsupports⟩) hoptions
      · intro hright _ locOptions hlast'
        obtain ⟨id', options, hone, hgiven⟩ := hright locOptions hlast'
        obtain ⟨hpair, -⟩ := List.cons.inj hone
        obtain ⟨-, rfl⟩ := Prod.mk.inj hpair
        exact ⟨htracking, (unsized_mOptions_iff locOptions).mp hgiven⟩
    · have hstart : t.handler.startTracking id = (t.handler, []) :=
        if_neg fun hand => hid hand.1
      have heq : t.resume id = { t with handler := t.handler.push .startTracking } := by
        simp only [resume, if_pos htracking, after, hstart, foldl_nil]
      obtain ⟨rfl, -⟩ := h.up hid
      rw [heq]
      exact ⟨fun _ => h.of_eq rfl rfl rfl rfl rfl rfl, fun _ hzero => absurd hzero hid⟩
  · have heq : t.resume id = t := if_neg htracking
    have hid : t.handler.mSessionId = 0 := by_contra fun hne => htracking (h.up hne).2
    rw [heq]
    constructor
    · intro hpreserves
      refine .of_idle hid (h.idle hid) (fun h' => absurd h' htracking) fun _ => ?_
      refine eq_none_iff_forall_not_mem.mpr fun locOptions hreq => ?_
      exact htracking (hpreserves hid locOptions hreq).1
    · intro hright _ locOptions hreq
      exact absurd hright (not_right_of_no_session (h.idle hid) hreq)

end Tracked

/-! ## All clients -/

theorem resumeTracked_eq_map (ids : String → SessionId) {mClients : List (String × Tracked)}
    (h : ∀ p ∈ mClients, p.2.handler.mTracking = true → p.2.handler.mLocationApi = true) :
    resumeTracked ids mClients = mClients.map fun p => (p.1, p.2.resume (ids p.1)) := by
  induction mClients with
  | nil => rfl
  | cons p rest ih =>
    obtain ⟨clientname, t⟩ := p
    obtain ⟨hapi, hrest⟩ := forall_mem_cons.mp h
    have ih := ih hrest
    by_cases htracking : t.handler.mTracking = true
    · have hstarted : (t.handler.startTracking (ids clientname)).1.mSessionId ≠ 0 := by
        obtain ⟨-, -, hid⟩ :=
          LocHalDaemonClientHandler.startTracking_calls (h := t.handler) (ids clientname)
        rw [hid]
        split
        · exact (ids clientname).2
        · rename_i hno
          exact fun hzero => hno ⟨hzero, hapi htracking⟩
      have hturn : t.resume (ids clientname) = t.after (ids clientname)
          ((t.handler.startTracking (ids clientname)).1.push .startTracking,
            (t.handler.startTracking (ids clientname)).2) := if_pos htracking
      rw [map_cons, hturn, ← ih]
      exact (if_pos htracking).trans (if_neg hstarted)
    · have hturn : t.resume (ids clientname) = t := if_neg htracking
      rw [map_cons, hturn, ← ih]
      exact if_neg htracking

namespace TrackingService

variable {s : TrackingService}

theorem Kept.right (h : s.Kept) : s.Right := fun p hp => (h p hp).right

variable {down : Bool}

theorem kept_suspendAllTrackingSessions (h : ∀ p ∈ s.mClients, p.2.Kept s.mPositionMode down) :
    ∀ p ∈ s.suspendAllTrackingSessions.mClients, p.2.Kept s.mPositionMode true :=
  forall_mem_map.mpr fun p hp => (Tracked.suspend_kept (h p hp)).1

section

variable (ids : String → SessionId) (h : ∀ p ∈ s.mClients, p.2.Kept s.mPositionMode down)
include ids h

theorem mClients_resumeAllTrackingSessions : (s.resumeAllTrackingSessions ids).mClients =
      s.mClients.map fun p => (p.1, p.2.resume (ids p.1)) :=
  resumeTracked_eq_map ids fun p hp htracking => ((h p hp).started htracking).1

theorem resumeAll_iff :
    ((∀ p ∈ s.mClients, p.2.handler.mSessionId = 0 → p.2.Preserves s.mPositionMode) →
        ∀ p ∈ (s.resumeAllTrackingSessions ids).mClients, p.2.Kept s.mPositionMode false) ∧
      ((∀ p ∈ (s.resumeAllTrackingSessions ids).mClients, p.2.Right s.mPositionMode false) →
        ∀ p ∈ s.mClients, p.2.handler.mSessionId = 0 → p.2.Preserves s.mPositionMode) := by
  rw [mClients_resumeAllTrackingSessions ids h]
  constructor
  · intro hpreserves
    exact forall_mem_map.mpr fun p hp =>
      (Tracked.resume_iff (h p hp) (ids p.1)).1 (hpreserves p hp)
  · intro hright p hp
    exact (Tracked.resume_iff (h p hp) (ids p.1)).2 (forall_mem_map.mp hright p hp)

end

theorem preserves_suspend {t : Tracked} (h : t.Kept s.mPositionMode false) :
    (t.suspend.handler.mSessionId = 0 → t.suspend.Preserves s.mPositionMode) ↔
      (t.handler.mTracking = true → t.SupportsInterval) := by
  obtain ⟨hkept, hreq, htracking, hoptions⟩ := Tracked.suspend_kept h
  constructor
  · intro hpreserves htrue
    obtain ⟨last, hlast⟩ := ne_none_iff_exists'.mp (h.started htrue).2
    obtain ⟨-, -, hsupports⟩ := hpreserves hkept.mSessionId_of_down last (hreq.trans hlast)
    have hsame : t.suspend.SupportsInterval ↔ t.SupportsInterval := by
      unfold Tracked.SupportsInterval
      rw [hoptions]
    exact hsame.mp hsupports
  · intro hsupports _ locOptions hlast
    obtain ⟨hid, -, hgiven⟩ := h.runs rfl locOptions (hreq.symm.trans hlast)
    have htrue := (h.up hid).2
    refine ⟨htracking.trans htrue, ?_, ?_⟩
    · rw [hoptions]
      exact hgiven
    · unfold Tracked.SupportsInterval
      rw [hoptions]
      exact hsupports htrue

/-- After a deletion of aiding data the clients go on as they were if their
preserved intervals are supported ones; while the system is down, all stay
suspended. -/
theorem configAidingDataDeletion_iff (h : s.Kept) (ids : String → SessionId) :
    (s.Fits (.configAidingDataDeletion ids) → (s.configAidingDataDeletion ids).Kept) ∧
      ((s.configAidingDataDeletion ids).Right → s.Fits (.configAidingDataDeletion ids)) := by
  have hsuspended := kept_suspendAllTrackingSessions h
  by_cases hdown : s.mPowerState = .suspend ∨ s.mPowerState = .shutdown
  · have heq : s.configAidingDataDeletion ids = s.suspendAllTrackingSessions := if_pos hdown
    have hflag : s.suspended = true := decide_eq_true hdown
    have hflag' : s.suspendAllTrackingSessions.suspended = true := hflag
    rw [heq]
    refine ⟨fun _ => ?_, fun _ hup => absurd (hflag.symm.trans hup) Bool.true_eq_false.mp⟩
    unfold Kept
    rw [hflag']
    exact hsuspended
  · have heq : s.configAidingDataDeletion ids =
        s.suspendAllTrackingSessions.resumeAllTrackingSessions ids := if_neg hdown
    have hflag : s.suspended = false := decide_eq_false hdown
    have hflag' : (s.suspendAllTrackingSessions.resumeAllTrackingSessions ids).suspended =
        false := hflag
    have hiff := resumeAll_iff ids hsuspended
    have hpreserves : (∀ p ∈ s.suspendAllTrackingSessions.mClients,
        p.2.handler.mSessionId = 0 → p.2.Preserves s.mPositionMode) ↔
          s.Fits (.configAidingDataDeletion ids) := by
      have hfits : s.Fits (.configAidingDataDeletion ids) ↔ ∀ p ∈ s.mClients,
          p.2.handler.mTracking = true → p.2.SupportsInterval := forall_prop_of_true hflag
      refine forall_mem_map.trans (Iff.trans (forall₂_congr fun p hp => ?_) hfits.symm)
      have hp' := h p hp
      rw [hflag] at hp'
      exact preserves_suspend hp'
    rw [heq]
    unfold Kept Right
    rw [hflag']
    exact ⟨fun hfits => hiff.1 (hpreserves.mpr hfits), fun hright =>
      hpreserves.mp (hiff.2 hright)⟩

theorem kept_handle (h : s.Kept) (e : TrackingEvent) :
    (s.Fits e → (s.handle e).Kept) ∧ ((s.handle e).Right → s.Fits e) := by
  cases e with
  | request mSocketName r id =>
    constructor
    · intro hfits
      refine forall_mem_map.mpr fun p hp => ?_
      show (if p.1 = mSocketName then p.2.ask s.mPositionMode id r else p.2).Kept _ _
      split
      · rename_i hname
        exact (Tracked.ask_iff (h p hp) id r).1 (hfits p hp hname)
      · exact h p hp
    · intro hright p hp hname
      have hp' := forall_mem_map.mp hright p hp
      rw [if_pos hname] at hp'
      exact (Tracked.ask_iff (h p hp) id r).2 hp'
  | newClient clientname locationClientApi mIpcSender rehash =>
    refine ⟨fun _ => ?_, fun _ => trivial⟩
    show (s.newClient clientname locationClientApi mIpcSender rehash).Kept
    unfold newClient
    split
    · exact h
    · intro p hp
      rcases mem_append.mp ((rehash.perm _).mem_iff.mp hp) with hp | hp
      · exact h p hp
      · rw [mem_singleton.mp hp]
        exact Tracked.kept_new locationClientApi mIpcSender
  | deleteClient clientname =>
    exact ⟨fun _ p hp => h p (mem_of_mem_filter hp), fun _ => trivial⟩
  | pwrStateCb sys_state ids =>
    cases sys_state with
    | suspend =>
      exact ⟨fun _ => kept_suspendAllTrackingSessions (s := { s with mPowerState := .suspend }) h,
        fun _ => trivial⟩
    | shutdown =>
      exact ⟨fun _ => kept_suspendAllTrackingSessions (s := { s with mPowerState := .shutdown }) h,
        fun _ => trivial⟩
    | resume => exact resumeAll_iff (s := { s with mPowerState := .resume }) ids h
    | other => exact ⟨fun _ => h, fun _ => trivial⟩
  | configAidingDataDeletion ids => exact configAidingDataDeletion_iff h ids

theorem kept_new (mPositionMode : GnssSuplMode)
    (autoStart : Option (LocationOptions × SessionId)) : (new mPositionMode autoStart).Kept := by
  cases autoStart with
  | none => exact fun p hp => absurd hp not_mem_nil
  | some start =>
    obtain ⟨locationOption, id⟩ := start
    intro p hp
    obtain rfl := mem_singleton.mp hp
    refine (Tracked.ask_iff (Tracked.kept_new true true) id _).1 ⟨rfl, fun hid => ?_⟩
    exact absurd rfl hid

/-- Throughout a run the clients have the sessions that they have asked for,
and none while the system is down, if and only if every step fits. -/
theorem tracking_iff (mPositionMode : GnssSuplMode)
    (autoStart : Option (LocationOptions × SessionId)) (es : List TrackingEvent) :
    StatesMeet step Right (new mPositionMode autoStart) es ↔
      StepsMeet step Fits (new mPositionMode autoStart) es :=
  statesMeet_iff_stepsMeet_of_inv Kept (fun _ h => h.right) (fun _ e h => (kept_handle h e).1)
    (fun _ e h => (kept_handle h e).2) (kept_new mPositionMode autoStart) es

/-- Options with an interval. -/
def everyMsec (minInterval : Nat) : LocationOptions :=
  { TrackingOptions.zero.toLocationOptions with minInterval := minInterval }

/-- A client asks for fixes every 150 milliseconds, by an update, before the
system goes down and comes up again. -/
def updateAndSuspend : List TrackingEvent :=
  [.newClient "client" true true .none,
    .request "client" (.startTracking (everyMsec 1000)) ⟨1, by decide⟩,
    .request "client" (.updateTrackingOptions (everyMsec 150)) ⟨1, by decide⟩,
    .pwrStateCb .suspend fun _ => ⟨1, by decide⟩, .pwrStateCb .resume fun _ => ⟨2, by decide⟩]

/-- The session is resumed with the interval as it was asked for, 150, which
was 100 before. -/
theorem not_right_updateAndSuspend :
    ¬ StatesMeet step Right (new .standalone none) updateAndSuspend := by
  intro h
  have hclient := h.last _ (mem_cons_self ..)
  obtain ⟨id, options, hsessions, hgiven⟩ := hclient (everyMsec 150) rfl
  obtain ⟨hpair, -⟩ := List.cons.inj hsessions
  obtain ⟨-, rfl⟩ := Prod.mk.inj hpair
  have hinterval : 150 = 100 := congrArg (fun o => o.minInterval) hgiven
  omega

end TrackingService

end LocStack.Daemon
