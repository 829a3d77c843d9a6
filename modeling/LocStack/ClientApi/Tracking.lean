/-
# `LocStack.ClientApi.Tracking` — the tracking session, at the client and at the daemon

The client keeps a copy of what the daemon runs for it: a session with the
options of the last request, or, if they ask for neither an interval nor a
distance, no session that the daemon knows of.  The copy decides which of
START, UPDATE and STOP is sent.  It is thrown away when a capability
indication is taken, since that is how a new incarnation of the daemon
answers the registration, and the request is put into the queue again, behind
whatever waits there.

`tracked_of_fits`: the messages are legal for one incarnation of the daemon,
and with the queue empty it runs what was requested last, in every run in
which

* a capability indication that is taken while there is a session is the first
  of its incarnation, or the session is passive;
* no request waits behind it, or the last of those that do is for the session
  there is;
* a passive session is not asked for again with another engine mask.

A message that is put before HAL-ready is taken belongs to the incarnation
before.
-/
import LocStack.ClientApi.Model

namespace LocStack.ClientApi

open Base Option

/-! ## What is sent, and to whom -/

/-- START only without a session, UPDATE and STOP only with one. -/
def DaemonClient.accepts (d : DaemonClient) : DaemonRequest → Bool
  | .startTracking _ => d.tracking.isNone
  | .updateTrackingOptions _ | .stopTracking => d.tracking.isSome
  | _ => true

/-- Each of what a client sends, in this order. -/
def DaemonClient.acceptsAll : DaemonClient → List Out → Bool
  | _, [] => true
  | d, .send request :: outs => d.accepts request && (d.serve request).acceptsAll outs
  | d, .post _ :: outs | d, .invoke _ _ :: outs => d.acceptsAll outs

/-- A client and its daemon, and what the calls have asked for. -/
structure TrackedClient where
  impl : LocationClientApiImpl
  /-- the message task's -/
  queue : List ClientMsg
  daemon : DaemonClient
  /-- the options of the last request; `none` after a stop -/
  requested : Option TrackingOptions
  /-- whether all that was sent was accepted -/
  legal : Bool

inductive TaskEvent where
  /-- a call, or something received -/
  | put (msg : ClientMsg)
  | take

/-- The session that a message asks for. -/
def ClientMsg.request (requested : Option TrackingOptions) : ClientMsg → Option TrackingOptions
  | .startTracking option => some option
  | .stopTracking => none
  | _ => requested

/-- Of the session or of the registration. -/
def ClientMsg.ofSession : ClientMsg → Bool
  | .startTracking _ | .stopTracking | .capabilities | .halReady => true
  | _ => false

/-- From HAL-ready on it is a new incarnation that is sent to. -/
def DaemonClient.incarnation (d : DaemonClient) (msg : ClientMsg) : DaemonClient :=
  if msg = .halReady then .new else d

namespace TrackedClient

def new : TrackedClient := ⟨.new, [], .new, none, true⟩

variable (s : TrackedClient)

/-- The message is taken from a queue that has `rest` behind it. -/
def process (msg : ClientMsg) (rest : List ClientMsg) : TrackedClient :=
  let (impl, outs) := s.impl.proc msg
  let daemon := s.daemon.incarnation msg
  { s with
    impl
    queue := rest ++ posts outs
    daemon := daemon.receive outs
    legal := s.legal && daemon.acceptsAll outs }

def step : TaskEvent → TrackedClient × List Empty
  | .put msg => ({ s with queue := s.queue ++ [msg], requested := msg.request s.requested }, [])
  | .take => match s.queue with
      | [] => (s, [])
      | msg :: rest => (s.process msg rest, [])

/-! ## As it should be -/

/-- What the daemon has to run for a request. -/
def served (requested : Option TrackingOptions) : Option TrackingOptions :=
  requested.filter fun o => ¬ o.passive

/-- Nothing was sent that was not legal; and once all is taken by a client
that is registered, the daemon runs a session exactly if one is active that
has an interval or a distance, and runs it with the options requested last. -/
structure Tracked : Prop where
  legal : s.legal = true
  running : s.impl.mHalRegistered = true → s.queue = [] → s.daemon.tracking = served s.requested
  active : s.queue = [] → s.impl.mSessionId = s.requested.isSome

/-- What is asked of a message when it is taken. -/
def Fits : TaskEvent → Prop
  | .put _ => True
  | .take => match s.queue with
      | .capabilities :: _ => s.impl.mSessionId = true →
          (s.impl.mHalRegistered = true → s.impl.mLocationOptions.passive) ∧
            s.requested = some s.impl.mLocationOptions
      | .startTracking option :: _ =>
        s.impl.mHalRegistered = true → s.impl.mSessionId = true →
          s.impl.mLocationOptions.passive → option.passive →
            option.locReqEngTypeMask = s.impl.mLocationOptions.locReqEngTypeMask
      | _ => True

end TrackedClient

/-! ## The copy that the client keeps -/

namespace LocationClientApiImpl

variable (s : LocationClientApiImpl)

/-- The session of the client. -/
def session : Option TrackingOptions := if s.mSessionId then some s.mLocationOptions else none

variable {s}

theorem session_of_active (h : s.mSessionId = true) : s.session = some s.mLocationOptions :=
  if_pos h

theorem session_of_inactive (h : s.mSessionId = false) : s.session = none := by
  unfold session
  rw [h]
  rfl

theorem session_isSome : s.session.isSome = s.mSessionId := by
  unfold session
  cases s.mSessionId <;> rfl

theorem session_invoke (responseCode : LocationResponse) :
    (s.invokePositionSessionResponseCb responseCode).1.session = s.session := by
  unfold invokePositionSessionResponseCb
  split <;> rfl

theorem posts_invoke (responseCode : LocationResponse) :
    posts (s.invokePositionSessionResponseCb responseCode).2 = [] := by
  unfold invokePositionSessionResponseCb
  split
  · cases s.mResponseCb <;> rfl
  · rfl

theorem session_startTracking (option : TrackingOptions) :
    (s.startTracking option).1.session = some option := by
  unfold startTracking
  split
  · rfl
  split
  · rfl
  rename_i hactive
  rw [Bool.not_eq_false] at hactive
  split
  · exact session_of_active hactive
  · rename_i hsame
    rw [session_invoke, session_of_active hactive, not_not.mp hsame]

theorem posts_startTracking (option : TrackingOptions) : posts (s.startTracking option).2 = [] := by
  unfold startTracking
  split
  · rfl
  split
  · dsimp only
    split <;> rfl
  split
  · unfold updateTrackingOptionsSync
    dsimp only
    split
    · rfl
    split <;> rfl
  · exact posts_invoke _

theorem session_stopTracking : s.stopTracking.1.session = none := by
  unfold stopTracking
  split
  · rfl
  · rename_i hinactive
    exact session_of_inactive (eq_false_of_ne_true hinactive)

theorem posts_stopTracking : posts s.stopTracking.2 = [] := by
  unfold stopTracking
  split
  · dsimp only
    split <;> rfl
  · rfl

/-- What is not of the session leaves it alone, and posts no request. -/
def Quiet (s : LocationClientApiImpl) (p : LocationClientApiImpl × List Out) : Prop :=
  p.1.session = s.session ∧ p.1.mHalRegistered = s.mHalRegistered ∧
    (∀ r, (posts p.2).foldl (fun r m => m.request r) r = r) ∧
    ∀ d : DaemonClient, (d.receive p.2).tracking = d.tracking ∧ d.acceptsAll p.2 = true

theorem quiet_invoke (responseCode : LocationResponse) :
    Quiet s (s.invokePositionSessionResponseCb responseCode) := by
  unfold invokePositionSessionResponseCb
  split
  · cases s.mResponseCb <;> exact ⟨rfl, rfl, fun _ => rfl, fun _ => ⟨rfl, rfl⟩⟩
  · exact ⟨rfl, rfl, fun _ => rfl, fun _ => ⟨rfl, rfl⟩⟩

theorem quiet_updateCallbacks (callbacks : Daemon.LocationCallbacks) :
    Quiet s (s.updateCallbacks callbacks) := by
  unfold updateCallbacks
  dsimp only
  split
  · split <;> exact ⟨rfl, rfl, fun _ => rfl, fun _ => ⟨rfl, rfl⟩⟩
  · exact ⟨rfl, rfl, fun _ => rfl, fun _ => ⟨rfl, rfl⟩⟩

theorem tracking_serve_batching (d : DaemonClient) (options : BatchOptions) :
    (d.serve (.startBatching options)).tracking = d.tracking ∧
      (d.serve (.updateBatchingOptions options)).tracking = d.tracking := by
  unfold DaemonClient.serve
  constructor <;> dsimp only <;> split <;> rfl

theorem quiet_startBatching (batchOptions : BatchOptions) :
    Quiet s (s.startBatching batchOptions) := by
  unfold startBatching
  dsimp only
  split
  · exact ⟨rfl, rfl, fun _ => rfl, fun _ => ⟨rfl, rfl⟩⟩
  split
  · exact ⟨rfl, rfl, fun _ => rfl, fun d => ⟨(tracking_serve_batching d batchOptions).1, rfl⟩⟩
  · -- the options have just been stored
    unfold updateBatchingOptions
    rw [if_neg (not_not.mpr rfl)]
    exact ⟨rfl, rfl, fun _ => rfl, fun _ => ⟨rfl, rfl⟩⟩

theorem quiet_stopBatching : Quiet s s.stopBatching := by
  unfold stopBatching
  split <;> exact ⟨rfl, rfl, fun _ => rfl, fun _ => ⟨rfl, rfl⟩⟩

theorem quiet_proc {msg : ClientMsg} (hmsg : msg.ofSession = false) : Quiet s (s.proc msg) := by
  cases msg with
  | updateCallbackFunctions cbs reportCbType =>
    cases reportCbType <;> exact ⟨rfl, rfl, fun _ => rfl, fun _ => ⟨rfl, rfl⟩⟩
  | updateCallbacks callbacks => exact quiet_updateCallbacks callbacks
  | startTracking option => cases hmsg
  | stopTracking => cases hmsg
  | startBatching batchOptions => exact quiet_startBatching batchOptions
  | updateBatchingOptions batchOptions =>
    exact ⟨rfl, rfl, fun _ => rfl, fun d => ⟨(tracking_serve_batching d batchOptions).2, rfl⟩⟩
  | stopBatching => exact quiet_stopBatching
  | capabilities => cases hmsg
  | halReady => cases hmsg
  | clientRegister => exact ⟨rfl, rfl, fun _ => rfl, fun _ => ⟨rfl, rfl⟩⟩
  | response msgId err =>
    unfold proc
    dsimp only
    split
    · exact quiet_invoke err
    · exact ⟨rfl, rfl, fun _ => rfl, fun _ => ⟨rfl, rfl⟩⟩

end LocationClientApiImpl

/-! ## The daemon follows -/

namespace TrackedClient

theorem served_none : served none = none := rfl

variable {o : TrackingOptions}

theorem served_passive (h : o.passive) : served (some o) = none :=
  filter_some_neg (decide_eq_false (not_not.mpr h))

theorem served_active (h : ¬ o.passive) : served (some o) = some o :=
  filter_some_pos (decide_eq_true h)

end TrackedClient

open TrackedClient

namespace LocationClientApiImpl

variable {s : LocationClientApiImpl} {d : DaemonClient}

/-- What the daemon has to run for the client, once it knows it. -/
def expected (s : LocationClientApiImpl) : Option TrackingOptions :=
  if s.mHalRegistered then served s.session else none

theorem expected_registered (h : s.mHalRegistered = true) : s.expected = served s.session :=
  if_pos h

theorem expected_unregistered (h : s.mHalRegistered = false) : s.expected = none := by
  unfold expected
  rw [h]
  rfl

/-- The daemon accepts what is sent, and runs what is expected then. -/
def Follows (d : DaemonClient) (p : LocationClientApiImpl × List Out) : Prop :=
  d.acceptsAll p.2 = true ∧ (d.receive p.2).tracking = p.1.expected

variable {p : LocationClientApiImpl × List Out} {option : TrackingOptions}

theorem follows_of_quiet (h : Quiet s p) (hd : d.tracking = s.expected) : Follows d p := by
  obtain ⟨hsession, hregistered, -, hdaemon⟩ := h
  refine ⟨(hdaemon d).2, ?_⟩
  rw [(hdaemon d).1, hd, expected, expected, hsession, hregistered]

theorem same_of_passive {a b : TrackingOptions} (ha : a.passive) (hb : b.passive)
    (hmask : b.locReqEngTypeMask = a.locReqEngTypeMask) : a = b := by
  obtain ⟨hai, had⟩ := ha
  obtain ⟨hbi, hbd⟩ := hb
  cases a
  cases b
  simp_all

theorem follows_send {request : DaemonRequest} (hout : p.2 = [.send request])
    (haccepts : d.accepts request = true) (hserve : (d.serve request).tracking = p.1.expected) :
    Follows d p := by
  unfold Follows
  rw [hout]
  refine ⟨?_, hserve⟩
  rw [DaemonClient.acceptsAll, haccepts]
  rfl

theorem follows_update (hregistered : s.mHalRegistered = true) (hactive : s.mSessionId = true)
    (hd : d.tracking = served (some s.mLocationOptions)) (hne : s.mLocationOptions ≠ option)
    (hmask : s.mLocationOptions.passive → option.passive →
      option.locReqEngTypeMask = s.mLocationOptions.locReqEngTypeMask) :
    Follows d (s.updateTrackingOptionsSync option) := by
  have hsession : (s.updateTrackingOptionsSync option).1.session = some option :=
    session_of_active hactive
  have hexpected : (s.updateTrackingOptionsSync option).1.expected = served (some option) :=
    (expected_registered (s := (s.updateTrackingOptionsSync option).1) hregistered).trans
      (congrArg served hsession)
  by_cases hold : s.mLocationOptions.passive
  · rw [served_passive hold] at hd
    have hnew : ¬ option.passive := fun hnew => hne (same_of_passive hold hnew (hmask hold hnew))
    have hout : (s.updateTrackingOptionsSync option).2 = [.send (.startTracking option)] :=
      (if_neg fun h => h.2 hold).trans (if_pos ⟨hnew, hold⟩)
    refine follows_send hout (isNone_iff_eq_none.mpr hd) ?_
    rw [hexpected, served_active hnew]
    exact congrArg DaemonClient.tracking (if_pos hd)
  · rw [served_active hold] at hd
    by_cases hnew : option.passive
    · have hout : (s.updateTrackingOptionsSync option).2 = [.send .stopTracking] :=
        if_pos ⟨hnew, hold⟩
      refine follows_send hout (isSome_of_mem hd) ?_
      rw [hexpected, served_passive hnew]
      rfl
    · have hout :
          (s.updateTrackingOptionsSync option).2 = [.send (.updateTrackingOptions option)] :=
        (if_neg fun h => hnew h.1).trans (if_neg fun h => hold h.2)
      refine follows_send hout (isSome_of_mem hd) ?_
      rw [hexpected, served_active hnew]
      exact congrArg DaemonClient.tracking (if_pos (by rw [hd]; exact some_ne_none _))

theorem follows_startTracking (hd : d.tracking = s.expected)
    (hmask : s.mHalRegistered = true → s.mSessionId = true → s.mLocationOptions.passive →
      option.passive → option.locReqEngTypeMask = s.mLocationOptions.locReqEngTypeMask) :
    Follows d (s.startTracking option) := by
  unfold startTracking
  split
  · rename_i hunregistered
    rw [expected_unregistered hunregistered] at hd
    refine ⟨rfl, hd.trans (Eq.symm ?_)⟩
    exact expected_unregistered hunregistered
  rename_i hregistered
  rw [Bool.not_eq_false] at hregistered
  have htracking := hd.trans (expected_registered hregistered)
  split
  · rename_i hinactive
    rw [session_of_inactive hinactive, served_none] at htracking
    have hexpected : ({ s with mLocationOptions := option, mSessionId := true } :
        LocationClientApiImpl).expected = served (some option) := expected_registered hregistered
    by_cases hpassive : option.passive
    · rw [if_pos hpassive]
      exact ⟨rfl, htracking.trans (hexpected.trans (served_passive hpassive)).symm⟩
    · rw [if_neg hpassive]
      refine follows_send rfl (isNone_iff_eq_none.mpr htracking) ?_
      rw [hexpected, served_active hpassive]
      exact congrArg DaemonClient.tracking (if_pos htracking)
  rename_i hactive
  rw [Bool.not_eq_false] at hactive
  split
  · rename_i hne
    rw [session_of_active hactive] at htracking
    exact follows_update hregistered hactive htracking hne (hmask hregistered hactive)
  · exact follows_of_quiet (quiet_invoke _) hd

theorem expected_of_passive
    (hpassive : s.mSessionId = true → s.mHalRegistered = true → s.mLocationOptions.passive) :
    s.expected = none := by
  cases hregistered : s.mHalRegistered with
  | false => exact expected_unregistered hregistered
  | true =>
    rw [expected_registered hregistered]
    cases hactive : s.mSessionId with
    | false => rw [session_of_inactive hactive, served_none]
    | true => rw [session_of_active hactive, served_passive (hpassive hactive hregistered)]

theorem follows_stopTracking (hd : d.tracking = s.expected) : Follows d s.stopTracking := by
  have hexpected : s.stopTracking.1.expected = none := by
    unfold expected
    rw [session_stopTracking]
    split <;> rfl
  by_cases hsend : s.mSessionId = true ∧ s.mHalRegistered = true ∧ ¬ s.mLocationOptions.passive
  · obtain ⟨hactive, hregistered, hpassive⟩ := hsend
    have hout : s.stopTracking.2 = [.send .stopTracking] := by
      unfold stopTracking
      rw [if_pos hactive]
      exact if_pos ⟨hregistered, hpassive⟩
    rw [expected_registered hregistered, session_of_active hactive, served_active hpassive] at hd
    exact follows_send hout (isSome_of_mem hd) hexpected.symm
  · have hout : s.stopTracking.2 = [] := by
      unfold stopTracking
      split
      · rename_i hactive
        exact if_neg fun h => hsend ⟨hactive, h⟩
      · rfl
    have hnone : s.expected = none := expected_of_passive fun hactive hregistered =>
      not_not.mp fun h => hsend ⟨hactive, hregistered, h⟩
    unfold Follows
    rw [hout, hexpected]
    exact ⟨rfl, hd.trans hnone⟩

/-- The first indication of an incarnation, or one without a session that the
daemon runs. -/
theorem follows_capabilites (hd : d.tracking = s.expected)
    (hpassive : s.mSessionId = true → s.mHalRegistered = true → s.mLocationOptions.passive) :
    Follows d s.capabilitesCallback := by
  have htracking : d.tracking = none := hd.trans (expected_of_passive hpassive)
  have hinactive : s.capabilitesCallback.1.mSessionId = false := by
    unfold capabilitesCallback
    dsimp only
    split
    · rfl
    · rename_i hinactive
      exact eq_false_of_ne_true hinactive
  have hexpected : s.capabilitesCallback.1.expected = none := by
    unfold expected
    rw [session_of_inactive hinactive]
    split <;> rfl
  have hquiet : d.acceptsAll s.capabilitesCallback.2 = true ∧
      (d.receive s.capabilitesCallback.2).tracking = d.tracking := by
    unfold capabilitesCallback
    dsimp only
    split <;> split <;> exact ⟨rfl, rfl⟩
  exact ⟨hquiet.1, hquiet.2.trans (htracking.trans hexpected.symm)⟩

theorem follows_halReady : Follows .new (s.proc .halReady) := ⟨rfl, rfl⟩

theorem follows_proc {msg : ClientMsg} (hd : d.tracking = s.expected)
    (hstart : ∀ option, msg = .startTracking option → s.mHalRegistered = true →
      s.mSessionId = true → s.mLocationOptions.passive → option.passive →
        option.locReqEngTypeMask = s.mLocationOptions.locReqEngTypeMask)
    (hcapabilities : msg = .capabilities → s.mSessionId = true → s.mHalRegistered = true →
      s.mLocationOptions.passive) :
    Follows (d.incarnation msg) (s.proc msg) := by
  cases msg with
  | startTracking option => exact follows_startTracking hd (hstart option rfl)
  | stopTracking => exact follows_stopTracking hd
  | capabilities => exact follows_capabilites hd (hcapabilities rfl)
  | halReady => exact follows_halReady
  | _ => exact follows_of_quiet (quiet_proc rfl) hd

end LocationClientApiImpl

/-! ## The queue -/

/-- The session that the messages of a queue ask for, from one on. -/
def requestedBy (requested : Option TrackingOptions) (queue : List ClientMsg) :
    Option TrackingOptions :=
  queue.foldl (fun r m => m.request r) requested

theorem requestedBy_append (requested : Option TrackingOptions) (queue more : List ClientMsg) :
    requestedBy requested (queue ++ more) = requestedBy (requestedBy requested queue) more :=
  List.foldl_append

namespace LocationClientApiImpl

variable {s : LocationClientApiImpl}

theorem session_proc {msg : ClientMsg} (hmsg : msg ≠ .capabilities) :
    (s.proc msg).1.session = msg.request s.session ∧
      ∀ requested, requestedBy requested (posts (s.proc msg).2) = requested := by
  cases hkind : msg.ofSession with
  | false =>
    obtain ⟨hsession, -, hposts, -⟩ := quiet_proc (s := s) hkind
    refine ⟨hsession.trans ?_, hposts⟩
    cases msg <;> first | rfl | cases hkind
  | true =>
    cases msg with
    | startTracking option =>
      refine ⟨session_startTracking option, fun requested => ?_⟩
      exact congrArg (requestedBy requested) (posts_startTracking option)
    | stopTracking =>
      refine ⟨session_stopTracking, fun requested => ?_⟩
      exact congrArg (requestedBy requested) posts_stopTracking
    | capabilities => exact absurd rfl hmsg
    | halReady => exact ⟨rfl, fun _ => rfl⟩
    | _ => cases hkind

theorem session_capabilites : (s.mSessionId = false → s.capabilitesCallback.1.session = s.session ∧
      posts s.capabilitesCallback.2 = []) ∧
    (s.mSessionId = true → posts s.capabilitesCallback.2 = [.startTracking s.mLocationOptions]) := by
  unfold capabilitesCallback
  dsimp only
  constructor
  · intro hinactive
    rw [hinactive, if_neg Bool.false_ne_true]
    refine ⟨?_, ?_⟩
    · rw [session_of_inactive hinactive]
      rfl
    · split <;> rfl
  · intro hactive
    rw [if_pos hactive]
    split <;> rfl

end LocationClientApiImpl

open LocationClientApiImpl

namespace TrackedClient

variable {s : TrackedClient}

/-- What the state has to be in before a message is taken. -/
structure InStep (s : TrackedClient) : Prop where
  legal : s.legal = true
  running : s.daemon.tracking = s.impl.expected
  requested : requestedBy s.impl.session s.queue = s.requested

theorem InStep.tracked (h : InStep s) : Tracked s where
  legal := h.legal
  running := by
    intro hregistered hqueue
    have hsession := h.requested
    rw [hqueue] at hsession
    rw [h.running, expected_registered hregistered]
    exact congrArg served hsession
  active := by
    intro hqueue
    have hsession := h.requested
    rw [hqueue] at hsession
    rw [← hsession]
    exact session_isSome.symm

theorem InStep.new : InStep new := ⟨rfl, rfl, rfl⟩

theorem InStep.requested_process {msg : ClientMsg} {rest : List ClientMsg} (h : InStep s)
    (hqueue : s.queue = msg :: rest)
    (hfits : msg = .capabilities → s.impl.mSessionId = true →
      s.requested = some s.impl.mLocationOptions) :
    requestedBy (s.impl.proc msg).1.session (rest ++ posts (s.impl.proc msg).2) = s.requested := by
  have hrequested := h.requested
  rw [hqueue] at hrequested
  rw [requestedBy_append]
  by_cases hmsg : msg = .capabilities
  · subst hmsg
    change requestedBy (requestedBy s.impl.capabilitesCallback.1.session rest)
      (posts s.impl.capabilitesCallback.2) = s.requested
    cases hactive : s.impl.mSessionId with
    | false =>
      obtain ⟨hsession, hposts⟩ := session_capabilites.1 hactive
      rw [hsession, hposts]
      exact hrequested
    | true =>
      rw [session_capabilites.2 hactive]
      exact (hfits rfl hactive).symm
  · obtain ⟨hsession, hposts⟩ := session_proc (s := s.impl) hmsg
    rw [hsession, hposts]
    exact hrequested

theorem InStep.step {e : TaskEvent} (h : InStep s) (hfits : s.Fits e) : InStep (s.step e).1 := by
  cases e with
  | put msg =>
    refine ⟨h.legal, h.running, ?_⟩
    change requestedBy s.impl.session (s.queue ++ [msg]) = msg.request s.requested
    rw [requestedBy_append, h.requested]
    rfl
  | take =>
    unfold TrackedClient.Fits at hfits
    unfold TrackedClient.step
    dsimp only at hfits ⊢
    cases hqueue : s.queue with
    | nil => exact h
    | cons msg rest =>
      rw [hqueue] at hfits
      have hstart : ∀ option, msg = .startTracking option → s.impl.mHalRegistered = true →
          s.impl.mSessionId = true → s.impl.mLocationOptions.passive → option.passive →
            option.locReqEngTypeMask = s.impl.mLocationOptions.locReqEngTypeMask := by
        rintro option rfl
        exact hfits
      have hcapabilities : msg = .capabilities → s.impl.mSessionId = true →
          (s.impl.mHalRegistered = true → s.impl.mLocationOptions.passive) ∧
            s.requested = some s.impl.mLocationOptions := by
        rintro rfl
        exact hfits
      have hfollows := follows_proc h.running hstart fun hmsg hactive =>
        (hcapabilities hmsg hactive).1
      refine ⟨?_, hfollows.2, ?_⟩
      · change (s.legal && (s.daemon.incarnation msg).acceptsAll (s.impl.proc msg).2) = true
        rw [h.legal, hfollows.1]
        rfl
      · exact h.requested_process hqueue fun hmsg hactive => (hcapabilities hmsg hactive).2

/-- In a run whose steps all fit, the messages are legal, and what the daemon
runs is what was requested last. -/
theorem tracked_of_fits (es : List TaskEvent) (h : StepsMeet step Fits new es) :
    StatesMeet step Tracked new es :=
  (statesMeet_of_stepsMeet (P := InStep) (fun _ _ hs hfits => hs.step hfits) InStep.new h).mono
    fun _ hs => hs.tracked

/-- A session that a restart of the daemon interrupts, and that is resumed
with the options of a request made in between. -/
def resumed : List TaskEvent :=
  [.put .capabilities, .take, .put (.startTracking ⟨1000, 0, 0⟩), .take, .put .halReady, .take,
    .put (.startTracking ⟨500, 0, 0⟩), .take, .take, .put .capabilities, .take, .take]

theorem tracked_resumed : StatesMeet step Tracked new resumed :=
  tracked_of_fits resumed ⟨trivial, nofun, trivial, nofun, trivial, trivial, trivial, trivial, nofun,
    trivial, fun _ => ⟨nofun, rfl⟩, nofun, trivial⟩

/-- The daemon indicates its capabilities again while it runs a session. -/
def capabilitiesAgain : List TaskEvent :=
  [.put .capabilities, .take, .put (.startTracking ⟨1000, 0, 0⟩), .take, .put .capabilities, .take,
    .take]

/-- The session is started a second time. -/
theorem not_tracked_capabilitiesAgain : ¬ StatesMeet step Tracked new capabilitiesAgain := by
  intro h
  have hlegal : (after step new capabilitiesAgain).legal = true := h.last.legal
  exact absurd hlegal (by decide)

end TrackedClient

end LocStack.ClientApi
