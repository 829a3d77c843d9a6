/-
# `LocStack.ClientBase.SessionOptions` — what is left running for an id

Starting a session of an id gives LocationAPI its mode and options, and so
does updating it, which goes by what the session was and what it becomes:

    tracking, tracking    updateTrackingOptions(options)
    batching, tracking    stopBatching, startTracking(options)
    tracking, batching    stopTracking, startBatching(batchOptions)
    batching, batching    updateBatchingOptions(batchOptions)

In the last, the values of the options are not populated.  `leftRunning_iff`:
of each id one session is left running, the one of the dictionary, as
startSession with what was given last would have it, if and only if batching
is updated to batching with the values 0 alone.

The mode and options that are given are those of a request that is
accepted: a session is started once, and only then updated.
-/
import LocStack.ClientBase.Sessions

namespace LocStack.ClientBase

open Base List Function Option
open Tracking (GnssSuplMode LocationError)

namespace LocationAPIClientBase

/-- The sessions that LocationAPI runs. -/
def sessions (c : LocationAPIClientBase) : UInt32 → Option Running :=
  (c.mLocationAPI.map LocationAPI.sessions).getD fun _ => none

theorem sessions_of {c : LocationAPIClientBase} {api : LocationAPI}
    (h : c.mLocationAPI = some api) : c.sessions = api.sessions := by
  unfold sessions
  rw [h]
  rfl

end LocationAPIClientBase

/-- The client, with what it was asked for. -/
structure SessionsClient where
  client : LocationAPIClientBase
  /-- The session mode and the options last given for an id. -/
  given : UInt32 → Option (UInt32 × TrackingOptions)
  /-- The id that LocationAPI was asked to start a session for. -/
  startedFor : UInt32 → Option UInt32

/-- Each with the id that LocationAPI returns, if it starts a session. -/
inductive SessionsEvent where
  | setCallbacks
  | startSession (id sessionMode : UInt32) (options : TrackingOptions) (session : UInt32)
  | updateSessionOptions (id sessionMode : UInt32) (options : TrackingOptions) (session : UInt32)

namespace SessionsClient

def new : SessionsClient where
  client := .new
  given := fun _ => none
  startedFor := fun _ => none

variable (s : SessionsClient)

/-- After a request, which returned `r`. -/
def requested (id sessionMode : UInt32) (options : TrackingOptions) (session : UInt32)
    (r : LocationError × LocationAPIClientBase) : SessionsClient where
  client := r.2
  given :=
    if r.1 = .success then update s.given id (some (sessionMode, options)) else s.given
  startedFor :=
    if r.2.ids = s.client.ids then s.startedFor
    else update s.startedFor session (some id)

/-- LocationAPI returns no id but a new one. -/
def request (id sessionMode : UInt32) (options : TrackingOptions) (session : UInt32)
    (r : LocationError × LocationAPIClientBase) : SessionsClient :=
  if r.2.ids = s.client.ids ∨ s.client.Returns session then
    s.requested id sessionMode options session r
  else s

def next : SessionsEvent → SessionsClient
  | .setCallbacks => { s with client := s.client.locAPISetCallbacks }
  | .startSession id sessionMode options session =>
    s.request id sessionMode options session
      (s.client.locAPIStartSession id sessionMode options session)
  | .updateSessionOptions id sessionMode options session =>
    s.request id sessionMode options session
      (s.client.locAPIUpdateSessionOptions id sessionMode options session)

def step (e : SessionsEvent) : SessionsClient × List Empty := (s.next e, [])

/-- What startSession has LocationAPI run. -/
def wanted (sessionMode : UInt32) (options : TrackingOptions) : Option Running :=
  (startCall sessionMode options).takes none

/-- Of each id that was given a mode and options one session is left
running, as it was given. -/
def LeftRunning : Prop :=
  ∀ id sessionMode options, s.given id = some (sessionMode, options) →
    ∃ session, s.client.mSessionBiDict.forward id = some session ∧
      s.client.sessions session = wanted sessionMode options ∧
        ∀ session', s.startedFor session' = some id ∧ (s.client.sessions session').isSome ↔
          session' = session

/-- From batching to batching, no values are given. -/
def Fits : SessionsEvent → Prop
  | .updateSessionOptions id sessionMode options _ =>
    ∀ sessionMode' options', s.given id = some (sessionMode', options') →
      sessionMode' ≠ SESSION_MODE_ON_FIX → sessionMode ≠ SESSION_MODE_ON_FIX →
        options.minInterval = 0 ∧ options.minDistance = 0 ∧ options.mode = .standalone
  | _ => True

end SessionsClient

/-! ## What the calls make of a session -/

def Running.isTracking : Running → Bool
  | .tracking _ => true
  | .batching _ => false

section Takes

variable {sessionMode : UInt32} {options : TrackingOptions} {running : Running}

open SessionsClient

theorem takes_startCall (o : Option Running) :
    (startCall sessionMode options).takes o = wanted sessionMode options := by
  unfold wanted startCall
  split <;> rfl

theorem wanted_eq (sessionMode : UInt32) (options : TrackingOptions) :
    ∃ running, wanted sessionMode options = some running ∧
      (running.isTracking = true ↔ sessionMode = SESSION_MODE_ON_FIX) := by
  unfold wanted startCall
  split
  · rename_i hfix
    exact ⟨_, rfl, iff_of_true rfl hfix⟩
  · rename_i hfix
    exact ⟨_, rfl, iff_of_false Bool.false_ne_true hfix⟩

theorem takes_stopCall (h : running.isTracking = true ↔ sessionMode = SESSION_MODE_ON_FIX) :
    (stopCall sessionMode).takes (some running) = none := by
  unfold stopCall
  cases running with
  | tracking options =>
    rw [if_pos (h.mp rfl)]
    rfl
  | batching options =>
    rw [if_neg fun hfix => Bool.false_ne_true (h.mpr hfix)]
    rfl

theorem takes_updateCall (options : TrackingOptions)
    (h : running.isTracking = true ↔ sessionMode = SESSION_MODE_ON_FIX) :
    ∃ running', (updateCall sessionMode options).takes (some running) = some running' ∧
      (running'.isTracking = true ↔ sessionMode = SESSION_MODE_ON_FIX) ∧
        (some running' = wanted sessionMode options ↔ (sessionMode ≠ SESSION_MODE_ON_FIX →
          options.minInterval = 0 ∧ options.minDistance = 0 ∧ options.mode = .standalone)) := by
  unfold updateCall wanted startCall
  cases running with
  | tracking o =>
    have hfix : sessionMode = SESSION_MODE_ON_FIX := h.mp rfl
    rw [if_pos hfix, if_pos hfix]
    exact ⟨.tracking options, rfl, iff_of_true rfl hfix, iff_of_true rfl fun hne => absurd hfix hne⟩
  | batching o =>
    have hfix : sessionMode ≠ SESSION_MODE_ON_FIX := fun hfix =>
      Bool.false_ne_true (h.mpr hfix)
    rw [if_neg hfix, if_neg hfix]
    refine ⟨.batching (LocationAPIClientBase.batchOptionsOf sessionMode), rfl,
      iff_of_false Bool.false_ne_true hfix, ?_⟩
    rw [forall_prop_of_true hfix]
    show some (Running.batching (LocationAPIClientBase.batchOptionsOf sessionMode)) =
      some (.batching (LocationAPIClientBase.populate
        (LocationAPIClientBase.batchOptionsOf sessionMode) options)) ↔ _
    rw [some_inj, Running.batching.injEq]
    constructor
    · intro heq
      exact ⟨(congrArg Batching.BatchingOptions.minInterval heq).symm,
        (congrArg Batching.BatchingOptions.minDistance heq).symm,
        (congrArg Batching.BatchingOptions.mode heq).symm⟩
    · rintro ⟨hinterval, hdistance, hmode⟩
      unfold LocationAPIClientBase.populate
      rw [hinterval, hdistance, hmode]
      rfl

end Takes

/-! ## The sessions that are there -/

namespace SessionsClient

/-- What every run keeps: the sessions that run are those of the ids. -/
structure Kept (s : SessionsClient) : Prop where
  registered : Registered s.client.mSessionBiDict
  given : ∀ id, s.given id = none ↔ s.client.mSessionBiDict.forward id = none
  entity : ∀ id session entity sessionMode options,
    s.client.mSessionBiDict.forward id = some session →
      s.client.mSessionBiDict.ext session = some entity →
        s.given id = some (sessionMode, options) → entity.sessionMode = sessionMode
  kind : ∀ id session sessionMode options, s.client.mSessionBiDict.forward id = some session →
    s.given id = some (sessionMode, options) → ∃ running, s.client.sessions session = some running ∧
        (running.isTracking = true ↔ sessionMode = SESSION_MODE_ON_FIX)
  started : ∀ id session, s.client.mSessionBiDict.forward id = some session →
    s.startedFor session = some id
  only : ∀ session, (s.client.sessions session).isSome →
    ∃ id, s.client.mSessionBiDict.forward id = some session
  known : ∀ id session, s.client.mSessionBiDict.forward id = some session → session ∈ s.client.ids

/-- The options too are as they were given. -/
def AsGiven (s : SessionsClient) : Prop :=
  ∀ id session sessionMode options, s.client.mSessionBiDict.forward id = some session →
    s.given id = some (sessionMode, options) →
      s.client.sessions session = wanted sessionMode options

theorem kept_new : new.Kept where
  registered := .new
  given id := iff_of_true rfl (congrFun BiDict.forward_new id)
  entity id session entity sessionMode options _ _ hgiven := nomatch hgiven
  kind id session sessionMode options _ hgiven := nomatch hgiven
  started id session hforward := by
    have hnone : new.client.mSessionBiDict.forward id = none := congrFun BiDict.forward_new id
    rw [hnone] at hforward
    cases hforward
  only session hsome := nomatch hsome
  known id session hforward := by
    have hnone : new.client.mSessionBiDict.forward id = none := congrFun BiDict.forward_new id
    rw [hnone] at hforward
    cases hforward

variable {s s' : SessionsClient}

theorem Kept.given_of_none (h : s.Kept) (hapi : s.client.mLocationAPI = none) (id : UInt32) :
    s.given id = none := by
  rw [h.given id]
  refine eq_none_iff_forall_ne_some.mpr fun session hforward => ?_
  have hmem := h.known id session hforward
  unfold LocationAPIClientBase.ids at hmem
  rw [hapi] at hmem
  cases hmem

theorem leftRunning_iff_asGiven (h : s.Kept) : s.LeftRunning ↔ s.AsGiven := by
  constructor
  · intro hleft id session sessionMode options hforward hgiven
    obtain ⟨session', hforward', hwanted, -⟩ := hleft id sessionMode options hgiven
    rw [hforward] at hforward'
    cases hforward'
    exact hwanted
  · intro has id sessionMode options hgiven
    have hne : s.client.mSessionBiDict.forward id ≠ none := by
      intro hnone
      rw [← h.given id, hgiven] at hnone
      cases hnone
    obtain ⟨session, hforward⟩ := ne_none_iff_exists'.mp hne
    refine ⟨session, hforward, has id session sessionMode options hforward hgiven, ?_⟩
    intro session'
    constructor
    · rintro ⟨hstarted, hrunning⟩
      obtain ⟨id', hforward'⟩ := h.only session' hrunning
      rw [h.started id' session' hforward'] at hstarted
      cases hstarted
      rw [hforward] at hforward'
      exact (some.inj hforward').symm
    · rintro rfl
      obtain ⟨running, hrunning, -⟩ := h.kind id session' sessionMode options hforward hgiven
      exact ⟨h.started id session' hforward, isSome_of_eq_some hrunning⟩

/-- What a request that is accepted does: the session of the id is `n` from
here on, with a mode and options, and what it was before is stopped. -/
structure Moved (s s' : SessionsClient) (id n sessionMode : UInt32) (options : TrackingOptions)
    (running : Running) : Prop where
  registered : Registered s'.client.mSessionBiDict
  forward : s'.client.mSessionBiDict.forward = update s.client.mSessionBiDict.forward id (some n)
  entity : ∃ entity, s'.client.mSessionBiDict.ext n = some entity ∧ entity.sessionMode = sessionMode
  ext : ∀ t, t ≠ n → s.client.mSessionBiDict.forward id ≠ some t →
    s'.client.mSessionBiDict.ext t = s.client.mSessionBiDict.ext t
  given : s'.given = update s.given id (some (sessionMode, options))
  startedFor : s'.startedFor = update s.startedFor n (some id)
  session : s'.client.sessions n = some running
  kind : running.isTracking = true ↔ sessionMode = SESSION_MODE_ON_FIX
  stopped : ∀ t, t ≠ n → s.client.mSessionBiDict.forward id = some t → s'.client.sessions t = none
  sessions : ∀ t, t ≠ n → s.client.mSessionBiDict.forward id ≠ some t →
    s'.client.sessions t = s.client.sessions t
  own : ∀ id', id' ≠ id → s.client.mSessionBiDict.forward id' ≠ some n
  known : n ∈ s'.client.ids ∧ ∀ t ∈ s.client.ids, t ∈ s'.client.ids

namespace Moved

variable {id n sessionMode : UInt32} {options : TrackingOptions} {running : Running} {id' : UInt32}

theorem other (hk : s.Kept) (h : Moved s s' id n sessionMode options running) {t : UInt32}
    (hne : id' ≠ id) (hforward : s.client.mSessionBiDict.forward id' = some t) :
    t ≠ n ∧ s.client.mSessionBiDict.forward id ≠ some t := by
  constructor
  · rintro rfl
    exact h.own id' hne hforward
  · intro hid
    have hback := hk.registered.inverse.backward_of_forward hforward
    rw [hk.registered.inverse.backward_of_forward hid] at hback
    exact hne (some.inj hback).symm

variable (h : Moved s s' id n sessionMode options running)
include h

theorem forward_of_ne (hne : id' ≠ id) :
    s'.client.mSessionBiDict.forward id' = s.client.mSessionBiDict.forward id' := by
  rw [h.forward, update_of_ne hne]

theorem forward_self : s'.client.mSessionBiDict.forward id = some n := by
  rw [h.forward, update_self]

theorem given_of_ne (hne : id' ≠ id) : s'.given id' = s.given id' := by
  rw [h.given, update_of_ne hne]

theorem given_self : s'.given id = some (sessionMode, options) := by
  rw [h.given, update_self]

theorem kept (hk : s.Kept) : s'.Kept where
  registered := h.registered
  given id' := by
    rcases eq_or_ne id' id with rfl | hne
    · rw [h.given_self, h.forward_self]
      exact iff_of_false (some_ne_none _) (some_ne_none _)
    · rw [h.given_of_ne hne, h.forward_of_ne hne]
      exact hk.given id'
  entity id' t entity m o hforward hext hgiven := by
    rcases eq_or_ne id' id with rfl | hne
    · rw [h.forward_self] at hforward
      rw [h.given_self] at hgiven
      cases hforward
      cases hgiven
      obtain ⟨entity', hext', hmode⟩ := h.entity
      rw [hext'] at hext
      cases hext
      exact hmode
    · rw [h.forward_of_ne hne] at hforward
      rw [h.given_of_ne hne] at hgiven
      obtain ⟨hn, hid⟩ := h.other hk hne hforward
      rw [h.ext t hn hid] at hext
      exact hk.entity id' t entity m o hforward hext hgiven
  kind id' t m o hforward hgiven := by
    rcases eq_or_ne id' id with rfl | hne
    · rw [h.forward_self] at hforward
      rw [h.given_self] at hgiven
      cases hforward
      cases hgiven
      exact ⟨running, h.session, h.kind⟩
    · rw [h.forward_of_ne hne] at hforward
      rw [h.given_of_ne hne] at hgiven
      obtain ⟨hn, hid⟩ := h.other hk hne hforward
      rw [h.sessions t hn hid]
      exact hk.kind id' t m o hforward hgiven
  started id' t hforward := by
    rcases eq_or_ne id' id with rfl | hne
    · rw [h.forward_self] at hforward
      cases hforward
      rw [h.startedFor, update_self]
    · rw [h.forward_of_ne hne] at hforward
      rw [h.startedFor, update_of_ne (h.other hk hne hforward).1]
      exact hk.started id' t hforward
  only t hrunning := by
    rcases eq_or_ne t n with rfl | hn
    · exact ⟨id, h.forward_self⟩
    · have hid : s.client.mSessionBiDict.forward id ≠ some t := by
        intro hid
        rw [h.stopped t hn hid] at hrunning
        cases hrunning
      rw [h.sessions t hn hid] at hrunning
      obtain ⟨id', hforward⟩ := hk.only t hrunning
      have hne : id' ≠ id := by
        rintro rfl
        exact hid hforward
      exact ⟨id', (h.forward_of_ne hne).trans hforward⟩
  known id' t hforward := by
    rcases eq_or_ne id' id with rfl | hne
    · rw [h.forward_self] at hforward
      cases hforward
      exact h.known.1
    · rw [h.forward_of_ne hne] at hforward
      exact h.known.2 t (hk.known id' t hforward)

theorem asGiven_iff (hk : s.Kept) (has : s.AsGiven) :
    s'.AsGiven ↔ some running = wanted sessionMode options := by
  constructor
  · intro has'
    rw [← h.session]
    exact has' id n sessionMode options h.forward_self h.given_self
  · intro hwanted id' t m o hforward hgiven
    rcases eq_or_ne id' id with rfl | hne
    · rw [h.forward_self] at hforward
      rw [h.given_self] at hgiven
      cases hforward
      cases hgiven
      rw [h.session, hwanted]
    · rw [h.forward_of_ne hne] at hforward
      rw [h.given_of_ne hne] at hgiven
      obtain ⟨hn, hid⟩ := h.other hk hne hforward
      rw [h.sessions t hn hid]
      exact has id' t m o hforward hgiven

end Moved

/-! ## The requests -/

section Requests

variable {id sessionMode session : UInt32} {options : TrackingOptions}
  {r : LocationError × LocationAPIClientBase}

theorem request_refused (error : LocationError) (herror : error ≠ .success) :
    s.request id sessionMode options session (error, s.client) = s := by
  unfold request requested
  rw [if_pos (.inl rfl), if_neg herror, if_pos rfl]

variable {api : LocationAPI} {kind : RequestKind} {entity : SessionEntity} {running : Running}
  {old : UInt32}

theorem request_started {call : ApiCall} {request : Option LocationAPIRequest} {base : LocationAPI}
    (hapi : r.2.mLocationAPI = some (api.start session call request))
    (hbase : s.client.mLocationAPI = some base) (hids : api.ids = base.ids) :
    s.request id sessionMode options session r =
      if s.client.Returns session then s.requested id sessionMode options session r else s := by
  have hne : r.2.ids ≠ s.client.ids := by
    rw [LocationAPIClientBase.ids_of hapi, LocationAPIClientBase.ids_of hbase]
    show session :: api.ids ≠ base.ids
    rw [hids]
    exact cons_ne_self _ _
  unfold SessionsClient.request
  simp only [hne, false_or]

theorem Kept.forward_of_new (hk : s.Kept) (hnew : s.client.Returns session) (id : UInt32) :
    s.client.mSessionBiDict.forward id ≠ some session := fun hforward =>
  hnew.2 (hk.known id session hforward)

theorem Kept.backward_of_new (hk : s.Kept) (hnew : s.client.Returns session) :
    s.client.mSessionBiDict.backward session = none := by
  refine eq_none_iff_forall_ne_some.mpr fun id hback => hk.forward_of_new hnew id ?_
  exact hk.registered.inverse.forward_of_backward hback

theorem moved_start (hk : s.Kept) (hapi : s.client.mLocationAPI = some api)
    (hnew : s.client.Returns session) (hid : s.client.mSessionBiDict.forward id = none)
    (hsuccess : r.1 = .success) (hown : entity.own = session)
    (hmode : entity.sessionMode = sessionMode) (hasked : s.client.Asked kind
      (api.start session (startCall sessionMode options) (some (s.client.request kind)))
      (s.client.mSessionBiDict.set id session entity) r.2)
    (hwanted : wanted sessionMode options = some running)
    (hkind : running.isTracking = true ↔ sessionMode = SESSION_MODE_ON_FIX) :
    Moved s (s.requested id sessionMode options session r) id session sessionMode options
      running := by
  have hids : r.2.ids = session :: s.client.ids := by
    rw [LocationAPIClientBase.ids_of hasked.mLocationAPI, LocationAPIClientBase.ids_of hapi]
    rfl
  have hsessions : r.2.sessions = update s.client.sessions session (some running) := by
    rw [LocationAPIClientBase.sessions_of hasked.mLocationAPI,
      LocationAPIClientBase.sessions_of hapi, ← hwanted, ← takes_startCall]
    rfl
  have hdict : r.2.mSessionBiDict = s.client.mSessionBiDict.set id session entity :=
    hasked.mSessionBiDict
  constructor
  · show Registered r.2.mSessionBiDict
    rw [hdict]
    exact hk.registered.set hid (hk.backward_of_new hnew) hnew.1 hown
  · show r.2.mSessionBiDict.forward = _
    rw [hdict, BiDict.forward_set]
  · refine ⟨entity, ?_, hmode⟩
    show r.2.mSessionBiDict.ext session = _
    rw [hdict, BiDict.ext_set, update_self]
  · intro t hn _
    show r.2.mSessionBiDict.ext t = _
    rw [hdict, BiDict.ext_set, update_of_ne hn]
  · exact if_pos hsuccess
  · refine if_neg ?_
    rw [hids]
    exact cons_ne_self _ _
  · show r.2.sessions session = _
    rw [hsessions, update_self]
  · exact hkind
  · intro t _ hforward
    rw [hid] at hforward
    cases hforward
  · intro t hn _
    show r.2.sessions t = _
    rw [hsessions, update_of_ne hn]
  · exact fun id' _ => hk.forward_of_new hnew id'
  · show session ∈ r.2.ids ∧ ∀ t ∈ s.client.ids, t ∈ r.2.ids
    rw [hids]
    exact ⟨mem_cons_self .., fun t ht => mem_cons_of_mem _ ht⟩

theorem moved_continue (hk : s.Kept) (session : UInt32) (hapi : s.client.mLocationAPI = some api)
    (hid : s.client.mSessionBiDict.forward id = some old) (hsuccess : r.1 = .success)
    (hown : entity.own = old) (hmode : entity.sessionMode = sessionMode)
    (hasked : s.client.Asked kind
      (api.call old (updateCall sessionMode options) (some (s.client.request kind)))
      ((s.client.mSessionBiDict.rmById id).set id old entity) r.2)
    (hrunning : (updateCall sessionMode options).takes (s.client.sessions old) = some running)
    (hkind : running.isTracking = true ↔ sessionMode = SESSION_MODE_ON_FIX) :
    Moved s (s.requested id sessionMode options session r) id old sessionMode options
      running := by
  have hids : r.2.ids = s.client.ids := by
    rw [LocationAPIClientBase.ids_of hasked.mLocationAPI, LocationAPIClientBase.ids_of hapi]
    rfl
  have hsessions : r.2.sessions = update s.client.sessions old (some running) := by
    rw [LocationAPIClientBase.sessions_of hasked.mLocationAPI, ← hrunning,
      LocationAPIClientBase.sessions_of hapi]
    rfl
  obtain ⟨hpos, -⟩ := hk.registered.entity id old hid
  have hdict : r.2.mSessionBiDict = (s.client.mSessionBiDict.rmById id).set id old entity :=
    hasked.mSessionBiDict
  constructor
  · show Registered r.2.mSessionBiDict
    rw [hdict]
    exact hk.registered.replace hid (.inl rfl) hpos hown
  · show r.2.mSessionBiDict.forward = _
    rw [hdict, BiDict.forward_set, BiDict.forward_rmById, update_idem]
  · refine ⟨entity, ?_, hmode⟩
    show r.2.mSessionBiDict.ext old = _
    rw [hdict, BiDict.ext_set, update_self]
  · intro t hn _
    show r.2.mSessionBiDict.ext t = _
    rw [hdict, BiDict.ext_set, update_of_ne hn, BiDict.ext_rmById hid, update_of_ne hn]
  · exact if_pos hsuccess
  · refine (if_pos hids).trans ?_
    rw [← hk.started id old hid, update_eq_self]
  · show r.2.sessions old = _
    rw [hsessions, update_self]
  · exact hkind
  · intro t hn hforward
    rw [hid] at hforward
    exact absurd (some.inj hforward).symm hn
  · intro t hn _
    show r.2.sessions t = _
    rw [hsessions, update_of_ne hn]
  · intro id' hne hforward
    have hback := hk.registered.inverse.backward_of_forward hforward
    rw [hk.registered.inverse.backward_of_forward hid] at hback
    exact hne (some.inj hback).symm
  · show old ∈ r.2.ids ∧ ∀ t ∈ s.client.ids, t ∈ r.2.ids
    rw [hids]
    exact ⟨hk.known id old hid, fun t ht => ht⟩

theorem moved_switch (hk : s.Kept) (hapi : s.client.mLocationAPI = some api)
    (hnew : s.client.Returns session) (hid : s.client.mSessionBiDict.forward id = some old)
    (hsuccess : r.1 = .success) {sessionMode' : UInt32} (hown : entity.own = session)
    (hmode : entity.sessionMode = sessionMode) (hasked : s.client.Asked kind
      ((api.call old (stopCall sessionMode') none).start session
        (startCall sessionMode options) (some (s.client.request kind)))
      ((s.client.mSessionBiDict.rmById id).set id session entity) r.2)
    (hstopped : (stopCall sessionMode').takes (s.client.sessions old) = none)
    (hwanted : wanted sessionMode options = some running)
    (hkind : running.isTracking = true ↔ sessionMode = SESSION_MODE_ON_FIX) :
    Moved s (s.requested id sessionMode options session r) id session sessionMode options
      running := by
  have hids : r.2.ids = session :: s.client.ids := by
    rw [LocationAPIClientBase.ids_of hasked.mLocationAPI, LocationAPIClientBase.ids_of hapi]
    rfl
  have hsessions : r.2.sessions =
      update (update s.client.sessions old none) session (some running) := by
    rw [LocationAPIClientBase.sessions_of hasked.mLocationAPI, ← hstopped, ← hwanted,
      LocationAPIClientBase.sessions_of hapi, ← takes_startCall]
    rfl
  have hdict : r.2.mSessionBiDict = (s.client.mSessionBiDict.rmById id).set id session entity :=
    hasked.mSessionBiDict
  constructor
  · show Registered r.2.mSessionBiDict
    rw [hdict]
    exact hk.registered.replace hid (.inr (hk.backward_of_new hnew)) hnew.1 hown
  · show r.2.mSessionBiDict.forward = _
    rw [hdict, BiDict.forward_set, BiDict.forward_rmById, update_idem]
  · refine ⟨entity, ?_, hmode⟩
    show r.2.mSessionBiDict.ext session = _
    rw [hdict, BiDict.ext_set, update_self]
  · intro t hn hforward
    have hold : t ≠ old := by
      rintro rfl
      exact hforward hid
    show r.2.mSessionBiDict.ext t = _
    rw [hdict, BiDict.ext_set, update_of_ne hn, BiDict.ext_rmById hid, update_of_ne hold]
  · exact if_pos hsuccess
  · refine if_neg ?_
    rw [hids]
    exact cons_ne_self _ _
  · show r.2.sessions session = _
    rw [hsessions, update_self]
  · exact hkind
  · intro t hn hforward
    obtain rfl : old = t := some.inj (hid.symm.trans hforward)
    show r.2.sessions old = _
    rw [hsessions, update_of_ne hn, update_self]
  · intro t hn hforward
    have hold : t ≠ old := by
      rintro rfl
      exact hforward hid
    show r.2.sessions t = _
    rw [hsessions, update_of_ne hn, update_of_ne hold]
  · exact fun id' _ => hk.forward_of_new hnew id'
  · show session ∈ r.2.ids ∧ ∀ t ∈ s.client.ids, t ∈ r.2.ids
    rw [hids]
    exact ⟨mem_cons_self .., fun t ht => mem_cons_of_mem _ ht⟩

end Requests

/-! ## Every run -/

theorem kept_setCallbacks (h : s.Kept) :
    ({ s with client := s.client.locAPISetCallbacks } : SessionsClient).Kept ∧
      (({ s with client := s.client.locAPISetCallbacks } : SessionsClient).AsGiven ↔
        s.AsGiven) := by
  obtain ⟨hdict, hsessions, hids⟩ :
      s.client.locAPISetCallbacks.mSessionBiDict = s.client.mSessionBiDict ∧
        s.client.locAPISetCallbacks.sessions = s.client.sessions ∧
          s.client.locAPISetCallbacks.ids = s.client.ids := by
    unfold LocationAPIClientBase.locAPISetCallbacks
    split
    · rename_i hnone
      unfold LocationAPIClientBase.sessions LocationAPIClientBase.ids
      rw [hnone]
      exact ⟨rfl, rfl, rfl⟩
    · exact ⟨rfl, rfl, rfl⟩
  have hasGiven : ({ s with client := s.client.locAPISetCallbacks } : SessionsClient).AsGiven ↔
      s.AsGiven := by
    unfold AsGiven
    rw [hdict, hsessions]
  refine ⟨?_, hasGiven⟩
  constructor
  · rw [hdict]
    exact h.registered
  · rw [hdict]
    exact h.given
  · rw [hdict]
    exact h.entity
  · rw [hdict, hsessions]
    exact h.kind
  · rw [hdict]
    exact h.started
  · rw [hdict, hsessions]
    exact h.only
  · rw [hdict, hids]
    exact h.known

theorem startSession_step (h : s.Kept) (id sessionMode : UInt32)
    (options : TrackingOptions) (session : UInt32) :
    (s.next (.startSession id sessionMode options session)).Kept ∧
      (s.AsGiven → (s.next (.startSession id sessionMode options session)).AsGiven) := by
  show (s.request id sessionMode options session
    (s.client.locAPIStartSession id sessionMode options session)).Kept ∧ (_ →
      (s.request id sessionMode options session
        (s.client.locAPIStartSession id sessionMode options session)).AsGiven)
  cases hapi : s.client.mLocationAPI with
  | none =>
    rw [LocationAPIClientBase.locAPIStartSession_of_none hapi,
      request_refused .generalFailure (by decide)]
    exact ⟨h, fun has => has⟩
  | some api =>
    rcases LocationAPIClientBase.locAPIStartSession_cases hapi id sessionMode options session with
      ⟨-, heq⟩ | ⟨hid, hsuccess, kind, entity, hown, hmode, hasked⟩
    · rw [heq, request_refused .alreadyStarted (by decide)]
      exact ⟨h, fun has => has⟩
    · rw [request_started hasked.mLocationAPI hapi rfl]
      split
      · rename_i hnew
        obtain ⟨running, hwanted, hkind⟩ := wanted_eq sessionMode options
        have hmoved := moved_start h hapi hnew hid hsuccess hown hmode hasked hwanted hkind
        exact ⟨hmoved.kept h, fun has => (hmoved.asGiven_iff h has).mpr hwanted.symm⟩
      · exact ⟨h, fun has => has⟩

theorem updateSessionOptions_step (h : s.Kept) (id sessionMode : UInt32)
    (options : TrackingOptions) (session : UInt32) :
    (s.next (.updateSessionOptions id sessionMode options session)).Kept ∧
      (s.AsGiven → ((s.next (.updateSessionOptions id sessionMode options session)).AsGiven ↔
        s.Fits (.updateSessionOptions id sessionMode options session))) := by
  show (s.request id sessionMode options session
    (s.client.locAPIUpdateSessionOptions id sessionMode options session)).Kept ∧ (_ →
      ((s.request id sessionMode options session
        (s.client.locAPIUpdateSessionOptions id sessionMode options session)).AsGiven ↔ _))
  cases hapi : s.client.mLocationAPI with
  | none =>
    rw [LocationAPIClientBase.locAPIUpdateSessionOptions_of_none hapi,
      request_refused .generalFailure (by decide)]
    refine ⟨h, fun has => iff_of_true has fun m o hgiven => ?_⟩
    rw [h.given_of_none hapi id] at hgiven
    cases hgiven
  | some api =>
    rcases LocationAPIClientBase.locAPIUpdateSessionOptions_cases h.registered hapi id
        sessionMode options session with
      ⟨hid, heq⟩ | ⟨old, entity, hid, hext, hsuccess, kind, entity', hmode, hcases⟩
    · rw [heq, request_refused .idUnknown (by decide)]
      refine ⟨h, fun has => iff_of_true has fun m o hgiven => ?_⟩
      rw [(h.given id).mpr hid] at hgiven
      cases hgiven
    · obtain ⟨⟨m, o⟩, hgiven⟩ := ne_none_iff_exists'.mp fun hnone =>
        some_ne_none _ (hid.symm.trans ((h.given id).mp hnone))
      obtain rfl := h.entity id old entity m o hid hext hgiven
      obtain ⟨running, hrunning, hkind⟩ := h.kind id old entity.sessionMode o hid hgiven
      have hfits : s.Fits (.updateSessionOptions id sessionMode options session) ↔
          (entity.sessionMode ≠ SESSION_MODE_ON_FIX → sessionMode ≠ SESSION_MODE_ON_FIX →
            options.minInterval = 0 ∧ options.minDistance = 0 ∧
              options.mode = .standalone) := by
        constructor
        · intro hfits
          exact hfits entity.sessionMode o hgiven
        · intro hcond m' o' hgiven'
          rw [hgiven] at hgiven'
          cases hgiven'
          exact hcond
      rcases hcases with ⟨hsame, hown, hasked⟩ | ⟨hswitch, hown, hasked⟩
      · have hids : (s.client.locAPIUpdateSessionOptions id sessionMode options session).2.ids =
            s.client.ids := by
          rw [LocationAPIClientBase.ids_of hasked.mLocationAPI, LocationAPIClientBase.ids_of hapi]
          rfl
        obtain ⟨running', hupdated, hkind', hwanted⟩ :=
          takes_updateCall options (hkind.trans hsame)
        rw [← hrunning] at hupdated
        have hmoved := moved_continue h session hapi hid hsuccess hown hmode hasked hupdated hkind'
        unfold request
        rw [if_pos (.inl hids)]
        refine ⟨hmoved.kept h, fun has =>
          (hmoved.asGiven_iff h has).trans (hwanted.trans ?_)⟩
        rw [hfits]
        constructor
        · exact fun hcond _ => hcond
        · exact fun hcond hfix => hcond (fun hfix' => hfix (hsame.mp hfix')) hfix
      · have hfit : s.Fits (.updateSessionOptions id sessionMode options session) :=
          hfits.mpr fun hfix hfix' => absurd (iff_of_false hfix hfix') hswitch
        rw [request_started hasked.mLocationAPI hapi rfl]
        split
        · rename_i hnew
          have hstopped : (stopCall entity.sessionMode).takes (s.client.sessions old) = none := by
            rw [hrunning]
            exact takes_stopCall hkind
          obtain ⟨running', hwanted, hkind'⟩ := wanted_eq sessionMode options
          have hmoved := moved_switch h hapi hnew hid hsuccess hown hmode hasked hstopped hwanted
            hkind'
          exact ⟨hmoved.kept h, fun has =>
            iff_of_true ((hmoved.asGiven_iff h has).mpr hwanted.symm) hfit⟩
        · exact ⟨h, fun has => iff_of_true has hfit⟩

theorem next_step (h : s.Kept) (e : SessionsEvent) :
    (s.next e).Kept ∧ (s.AsGiven → ((s.next e).AsGiven ↔ s.Fits e)) := by
  cases e with
  | setCallbacks =>
    obtain ⟨hkept, hiff⟩ := kept_setCallbacks h
    exact ⟨hkept, fun has => iff_of_true (hiff.mpr has) trivial⟩
  | startSession id sessionMode options session =>
    obtain ⟨hkept, hstarted⟩ := startSession_step h id sessionMode options session
    exact ⟨hkept, fun has => iff_of_true (hstarted has) trivial⟩
  | updateSessionOptions id sessionMode options session =>
    exact updateSessionOptions_step h id sessionMode options session

/-- Of each id one session is left running, as it was given last, all
through a run, if and only if every step fits. -/
theorem leftRunning_iff (es : List SessionsEvent) :
    StatesMeet step LeftRunning new es ↔ StepsMeet step Fits new es := by
  have hnew : new.LeftRunning := fun id sessionMode options hgiven => nomatch hgiven
  refine statesMeet_iff_stepsMeet (fun s e (h : s.Kept) => (next_step h e).1) ?_ kept_new hnew
  intro s e h hleft
  obtain ⟨hkept, hexact⟩ := next_step h e
  exact (leftRunning_iff_asGiven hkept).trans (hexact ((leftRunning_iff_asGiven h).mp hleft))

/-- Batching is updated to another interval, and goes on with 0. -/
theorem not_leftRunning_update : ¬ StatesMeet step LeftRunning new
      [.setCallbacks, .startSession 1 SESSION_MODE_ON_FULL (.timeBased 1000) 1,
        .updateSessionOptions 1 SESSION_MODE_ON_FULL (.timeBased 5000) 1] := by
  intro h
  obtain ⟨session, hforward, hwanted, -⟩ :=
    h.last 1 SESSION_MODE_ON_FULL (.timeBased 5000) (by decide)
  have hsession : session = 1 := some.inj (hforward.symm.trans (by decide))
  rw [hsession] at hwanted
  exact absurd hwanted (by decide)

end SessionsClient

end LocStack.ClientBase
