/-
# `LocStack.ClientBase.Tracking` — are the tracking calls of a client answered?

A client has one tracking session at a time, and its requests wait in the
queue of that session.  A new session empties the queue, and an answer is
looked for only under the session that is there:

    requestTracking.mSession    the session started last
    requestTracking.mQueue      the unanswered requests about it

so what is known of the queue, whatever happens, is `Waits`: it is the
unanswered calls of the last session.  `tracked_iff`: every answer invokes
the callback of its own request, and no start is reported a success when
the session has failed, if and only if an answer comes before the next
session, and stopTracking between a start that failed and the next one.
-/
import LocStack.ClientBase.Model

namespace LocStack.ClientBase

open Base List
open Tracking (LocationError)

/-- The client and LocationAPI's answers, with what came of the last start. -/
structure TrackingClient extends Answered where
  /-- The session started last has failed to start. -/
  failed : Bool
  /-- What startTracking has just returned. -/
  returned : Option LocationError

inductive TrackingEvent where
  | setCallbacks
  /-- with the id that LocationAPI returns, if it is called -/
  | startTracking (options : TrackingOptions) (session : UInt32)
  | updateTrackingOptions (options : TrackingOptions)
  | stopTracking
  /-- The oldest call about the session is answered. -/
  | respond (session : UInt32) (error : LocationError)

namespace TrackingClient

def new : TrackingClient where
  toAnswered := .new
  failed := false
  returned := none

variable (s : TrackingClient)

/-- A session that LocationAPI has started since has not failed. -/
def startTracking (options : TrackingOptions) (session : UInt32) : TrackingClient :=
  let r := s.client.locAPIStartTracking options session
  { s with
    client := r.2
    failed := s.failed && decide (r.2.ids = s.client.ids)
    returned := some r.1 }

/-- The answer is that the session started last has failed. -/
def Fails (session : UInt32) (error : LocationError) : Prop :=
  error ≠ .success ∧ s.client.ids.head? = some session ∧ (s.oldest session).any (·.call.starts)
  deriving Decidable

def next : TrackingEvent → TrackingClient
  | .setCallbacks => { s with client := s.client.locAPISetCallbacks, returned := none }
  | .startTracking options session =>
    if s.client.mTracking = true ∨ s.client.Returns session then s.startTracking options session
    else s
  | .updateTrackingOptions options =>
    { s with client := s.client.locAPIUpdateTrackingOptions options, returned := none }
  | .stopTracking => { s with client := s.client.locAPIStopTracking, returned := none }
  | .respond session error =>
    { toAnswered := s.respond session error
      failed := s.failed || decide (s.Fails session error)
      returned := none }

def step (e : TrackingEvent) : TrackingClient × List Empty := (s.next e, [])

/-- The callbacks are those of the calls that were answered, and a success
is reported only with a session. -/
def Tracked : Prop := s.Matched ∧ (s.returned = some .success → s.failed = false)

/-- An answer is about the session that was started last, and a session
that failed was stopped before the next start. -/
def Fits : TrackingEvent → Prop
  | .startTracking _ _ => s.client.mTracking = true → s.failed = false
  | .respond session _ =>
    (s.oldest session).isSome → s.client.requestTracking.mSession = session
  | _ => True

end TrackingClient

/-! ## The queue and the calls -/

namespace LocationAPIClientBase

/-- What is known of a client that is only asked to track. -/
structure Waits (c : LocationAPIClientBase) : Prop where
  /-- The queue is the unanswered calls of its session. -/
  queue : (ofKey Call.session c.requestTracking.mSession c.unanswered).map Call.request =
    c.requestTracking.mQueue.map some
  requested : ∀ call ∈ c.unanswered, call.request.isSome
  known : ∀ call ∈ c.unanswered, call.session ∈ c.ids
  session : c.requestTracking.mSession > 0 → c.requestTracking.mSession ∈ c.ids
  niResponse : c.requestNiResponse = .new
  dictionary : c.mSessionBiDict = .new
  /-- Without LocationAPI there is nothing to track. -/
  idle : c.mLocationAPI = none → c.mTracking = false

variable {c : LocationAPIClientBase} {api : LocationAPI}

theorem waits_new : new.Waits where
  queue := rfl
  requested := forall_mem_nil _
  known := forall_mem_nil _
  session h := absurd h (by decide)
  niResponse := rfl
  dictionary := rfl
  idle _ := rfl

theorem Waits.setCallbacks (h : c.Waits) : c.locAPISetCallbacks.Waits := by
  rcases c.locAPISetCallbacks_cases with heq | ⟨heq, hunanswered, hids⟩
  · rw [heq]
    exact h
  · have hqueue := h.queue
    have hsession := h.session
    rw [hunanswered] at hqueue
    rw [hids] at hsession
    rw [heq]
    exact ⟨hqueue, forall_mem_nil _, forall_mem_nil _, hsession, h.niResponse,
      h.dictionary, fun hapi => nomatch hapi⟩

variable {session : UInt32}

theorem Waits.startTracking (h : c.Waits) (options : TrackingOptions)
    (hsession : c.mTracking = true ∨ c.Returns session) :
    (c.locAPIStartTracking options session).2.Waits := by
  unfold locAPIStartTracking
  split
  · exact h
  · rename_i api hapi
    split
    · exact h
    · rename_i hidle
      obtain ⟨hpos, hnew⟩ := hsession.resolve_left hidle
      have hknown := h.known
      have hrequested := h.requested
      rw [ids_of hapi] at hnew hknown
      rw [unanswered_of hapi] at hknown hrequested
      have hnone : ofKey Call.session session api.unanswered = [] := by
        rw [ofKey_eq_nil]
        rintro call hcall rfl
        exact hnew (hknown call hcall)
      constructor
      · show (ofKey Call.session session (api.unanswered ++ [_])).map Call.request = _
        rw [ofKey_session_concat, hnone]
        rfl
      · exact forall_mem_append.mpr ⟨hrequested, forall_mem_singleton.mpr rfl⟩
      · refine forall_mem_append.mpr ⟨fun call hcall => ?_, forall_mem_singleton.mpr ?_⟩
        · exact mem_cons_of_mem _ (hknown call hcall)
        · exact mem_cons_self ..
      · exact fun _ => mem_cons_self ..
      · exact h.niResponse
      · exact h.dictionary
      · exact fun hapi' => nomatch hapi'

theorem Waits.call (h : c.Waits) (hapi : c.mLocationAPI = some api)
    (hpos : c.requestTracking.mSession > 0) (call : ApiCall) (kind : RequestKind)
    (mTracking : Bool) :
    Waits { c with
      mLocationAPI := some (api.call c.requestTracking.mSession call (some (c.request kind)))
      requestTracking := c.requestTracking.push (c.request kind)
      made := c.made + 1
      mTracking } := by
  have hqueue := h.queue
  have hknown := h.known
  have hrequested := h.requested
  have hsession := h.session
  rw [ids_of hapi] at hknown hsession
  rw [unanswered_of hapi] at hqueue hknown hrequested
  constructor
  · show (ofKey Call.session c.requestTracking.mSession (api.unanswered ++ [_])).map
      Call.request = (c.requestTracking.mQueue ++ [_]).map some
    rw [ofKey_session_concat, map_append, map_append, hqueue]
    rfl
  · exact forall_mem_append.mpr ⟨hrequested, forall_mem_singleton.mpr rfl⟩
  · exact forall_mem_append.mpr ⟨hknown, forall_mem_singleton.mpr (hsession hpos)⟩
  · exact hsession
  · exact h.niResponse
  · exact h.dictionary
  · exact fun hapi' => nomatch hapi'

theorem Waits.updateTrackingOptions (h : c.Waits) (options : TrackingOptions) :
    (c.locAPIUpdateTrackingOptions options).Waits := by
  unfold locAPIUpdateTrackingOptions
  split
  · exact h
  · rename_i api hapi
    dsimp only
    split
    · rename_i hpos
      exact h.call hapi hpos _ _ _
    · exact h

theorem Waits.stopTracking (h : c.Waits) : c.locAPIStopTracking.Waits := by
  unfold locAPIStopTracking
  split
  · exact h
  · rename_i api hapi
    dsimp only
    split
    · rename_i hpos
      exact h.call hapi hpos _ _ _
    · exact h

/-! ## The answer to a call -/

theorem removeSession_new (h : c.mSessionBiDict = .new) (session : UInt32) :
    c.removeSession session = c := by
  unfold removeSession
  rw [h]
  exact if_neg Bool.false_ne_true

theorem onResponse_new (h : c.mSessionBiDict = .new) (request : LocationAPIRequest)
    (error : LocationError) (id : UInt32) :
    c.onResponse request error id = { c with callbacks := c.callbacks ++ [(request, error)] } := by
  unfold onResponse
  cases request.kind <;> simp only [removeSession_new h, ite_self]

theorem onResponseCb_of_tracking (error : LocationError) {request : LocationAPIRequest}
    {rest : List LocationAPIRequest} (hdict : c.mSessionBiDict = .new)
    (hsession : c.requestTracking.mSession = session)
    (hqueue : c.requestTracking.mQueue = request :: rest) :
    c.onResponseCb error session = { c with
        requestTracking := { c.requestTracking with mQueue := rest }
        callbacks := c.callbacks ++ [(request, error)] } := by
  have hpop : c.requestTracking.pop =
      (some request, { c.requestTracking with mQueue := rest }) := by
    unfold RequestQueue.pop
    rw [hqueue]
    rfl
  have hget : c.getRequestBySession session =
      (some request, { c with requestTracking := { c.requestTracking with mQueue := rest } }) := by
    unfold getRequestBySession popBySession
    rw [if_pos hsession, hpop]
  rw [onResponseCb_of_some hget]
  exact onResponse_new
    (c := { c with requestTracking := { c.requestTracking with mQueue := rest } }) hdict request
    error session

theorem onResponseCb_of_other (error : LocationError) (hdict : c.mSessionBiDict = .new)
    (hni : c.requestNiResponse = .new) (hsession : c.requestTracking.mSession ≠ session) :
    c.onResponseCb error session = c := by
  have hpop : c.popBySession session = (none, c) := by
    unfold popBySession
    rw [if_neg hsession]
    split
    · have hpop : c.requestNiResponse.pop = (none, c.requestNiResponse) := by
        rw [hni]
        rfl
      rw [hpop]
    · rfl
  have hget : c.getRequestBySession session = (none, c) := by
    unfold getRequestBySession
    rw [hpop]
    show (if c.mSessionBiDict.hasSession session then _ else _) = _
    rw [hdict]
    exact if_neg Bool.false_ne_true
  exact onResponseCb_of_none hget error

variable (h : c.Waits) (hapi : c.mLocationAPI = some api)
include h hapi

theorem Waits.answered {call : Call} (error : LocationError) {mQueue : List LocationAPIRequest}
    (hqueue : (ofKey Call.session c.requestTracking.mSession
      (settle Call.session call.session api.unanswered)).map Call.request = mQueue.map some)
    (callbacks : List (LocationAPIRequest × LocationError)) :
    Waits { c with
      mLocationAPI := some (api.answer call error)
      requestTracking := { c.requestTracking with mQueue }
      callbacks } := by
  have hknown := h.known
  have hrequested := h.requested
  have hsession := h.session
  rw [ids_of hapi] at hknown hsession
  rw [unanswered_of hapi] at hknown hrequested
  constructor
  · exact hqueue
  · exact fun call' hcall' => hrequested call' (mem_of_mem_settle hcall')
  · exact fun call' hcall' => hknown call' (mem_of_mem_settle hcall')
  · exact hsession
  · exact h.niResponse
  · exact h.dictionary
  · exact fun hapi' => nomatch hapi'

theorem Waits.answer {call : Call} (hcall : call.session = c.requestTracking.mSession)
    (error : LocationError) (callbacks : List (LocationAPIRequest × LocationError)) :
    Waits { c with
      mLocationAPI := some (api.answer call error)
      requestTracking := { c.requestTracking with mQueue := c.requestTracking.mQueue.tail }
      callbacks } := by
  refine h.answered hapi error ?_ callbacks
  rw [hcall, ofKey_settle_self, map_tail, ← unanswered_of hapi, h.queue, map_tail]

theorem Waits.answer_other {call : Call} (hcall : c.requestTracking.mSession ≠ call.session)
    (error : LocationError) : Waits { c with mLocationAPI := some (api.answer call error) } := by
  refine h.answered hapi error ?_ c.callbacks
  rw [ofKey_settle_of_ne hcall, ← unanswered_of hapi, h.queue]

end LocationAPIClientBase

/-! ## Every answer and every start -/

namespace TrackingClient

variable {s : TrackingClient}

theorem respond_cases (h : s.client.Waits) {session : UInt32} {call : Call}
    (hcall : s.oldest session = some call) (error : LocationError) :
    (s.respond session error).client.Waits ∧
      ∃ request, (s.respond session error).answers = s.answers ++ [(some request, error)] ∧
        (s.respond session error).client.callbacks = s.client.callbacks ++
          if s.client.requestTracking.mSession = session then [(request, error)] else [] := by
  obtain ⟨api, hapi⟩ := Answered.exists_api hcall
  obtain ⟨hmem, hsession⟩ := mem_of_head?_ofKey hcall
  obtain ⟨request, hrequest⟩ := Option.isSome_iff_exists.mp (h.requested call hmem)
  rw [Answered.respond_eq hapi hcall, hrequest]
  by_cases hlast : s.client.requestTracking.mSession = session
  · -- the request is the oldest of the queue
    have hqueue : s.client.requestTracking.mQueue =
        request :: s.client.requestTracking.mQueue.tail := by
      have hhead := congrArg List.head? h.queue
      rw [hlast, List.head?_map, List.head?_map] at hhead
      have hoption : some (some request) = s.client.requestTracking.mQueue.head?.map some := by
        rw [← hhead, ← hrequest]
        exact congrArg (Option.map Call.request) hcall.symm
      cases hq : s.client.requestTracking.mQueue with
      | nil =>
        rw [hq] at hoption
        cases hoption
      | cons r rest =>
        rw [hq] at hoption
        cases hoption
        rfl
    have hresponse := LocationAPIClientBase.onResponseCb_of_tracking
      (c := { s.client with mLocationAPI := some (api.answer call error) }) error
      h.dictionary hlast hqueue
    rw [hresponse]
    refine ⟨h.answer hapi (hsession.trans hlast.symm) error _, request, rfl, ?_⟩
    rw [if_pos hlast]
  · have hresponse := LocationAPIClientBase.onResponseCb_of_other
      (c := { s.client with mLocationAPI := some (api.answer call error) }) error
      h.dictionary h.niResponse hlast
    rw [hresponse]
    refine ⟨h.answer_other hapi (fun heq => hlast (heq.trans hsession)) error, request, rfl, ?_⟩
    rw [if_neg hlast, append_nil]

theorem waits_next (h : s.client.Waits) (e : TrackingEvent) : (s.next e).client.Waits := by
  cases e with
  | setCallbacks => exact h.setCallbacks
  | startTracking options session =>
    show (if _ then _ else _ : TrackingClient).client.Waits
    split
    · rename_i hsession
      exact h.startTracking options hsession
    · exact h
  | updateTrackingOptions options => exact h.updateTrackingOptions options
  | stopTracking => exact h.stopTracking
  | respond session error =>
    show (s.respond session error).client.Waits
    cases hcall : s.oldest session with
    | none =>
      rw [Answered.respond_of_none hcall]
      exact h
    | some call => exact (respond_cases h hcall error).1

theorem matched_respond (h : s.client.Waits) (hm : s.Matched) (session : UInt32)
    (error : LocationError) :
    (s.respond session error).Matched ↔ s.Fits (.respond session error) := by
  cases hcall : s.oldest session with
  | none =>
    rw [Answered.respond_of_none hcall]
    refine iff_of_true hm fun hsome => ?_
    rw [hcall] at hsome
    cases hsome
  | some call =>
    obtain ⟨-, request, hanswers, hcallbacks⟩ := respond_cases h hcall error
    have hfits : s.Fits (.respond session error) ↔
        s.client.requestTracking.mSession = session := by
      refine forall_prop_of_true ?_
      rw [hcall]
      rfl
    unfold Answered.Matched at hm ⊢
    rw [hfits, hanswers, hcallbacks, filterMap_append, ← hm, append_cancel_left_eq]
    split
    · rename_i hlast
      exact iff_of_true rfl hlast
    · rename_i hlast
      exact iff_of_false (fun heq => nomatch heq) hlast

theorem tracked_startTracking (h : s.client.Waits) (ht : s.Tracked) (options : TrackingOptions)
    (session : UInt32) :
    (s.startTracking options session).Tracked ↔
      (s.client.mTracking = true → s.failed = false) := by
  obtain ⟨hm, -⟩ := ht
  cases hapi : s.client.mLocationAPI with
  | none =>
    have heq : s.client.locAPIStartTracking options session = (.generalFailure, s.client) := by
      unfold LocationAPIClientBase.locAPIStartTracking
      rw [hapi]
    have hidle : s.client.mTracking = false := h.idle hapi
    unfold startTracking
    rw [heq]
    refine iff_of_true ⟨hm, fun hsuccess => nomatch hsuccess⟩ fun htracking => ?_
    exact absurd (hidle.symm.trans htracking) Bool.false_ne_true
  | some api =>
    by_cases htracking : s.client.mTracking = true
    · have heq : s.client.locAPIStartTracking options session = (.success, s.client) := by
        unfold LocationAPIClientBase.locAPIStartTracking
        rw [hapi]
        exact if_pos htracking
      have hfailed : (s.failed && decide (s.client.ids = s.client.ids)) = s.failed := by
        rw [decide_eq_true rfl, Bool.and_true]
      unfold startTracking
      rw [heq]
      show (s.Matched ∧ (_ → (s.failed && decide (s.client.ids = s.client.ids)) = false)) ↔ _
      rw [and_iff_right hm, forall_prop_of_true rfl, forall_prop_of_true htracking, hfailed]
    · have heq : s.client.locAPIStartTracking options session = (.success, { s.client with
              mLocationAPI := some
                (api.start session (.startTracking options) (some (s.client.request .startTracking)))
              requestTracking := (s.client.requestTracking.reset session).push
                (s.client.request .startTracking)
              made := s.client.made + 1
              mTracking := true }) := by
        unfold LocationAPIClientBase.locAPIStartTracking
        rw [hapi]
        exact if_neg htracking
      have hnew : ¬ session :: api.ids = s.client.ids := by
        rw [LocationAPIClientBase.ids_of hapi]
        exact cons_ne_self _ _
      have hfailed : (s.failed && decide (session :: api.ids = s.client.ids)) = false := by
        rw [decide_eq_false hnew, Bool.and_false]
      unfold startTracking
      rw [heq]
      exact iff_of_true ⟨hm, fun _ => hfailed⟩ fun htracking' => absurd htracking' htracking

theorem callbacks_locAPIUpdateTrackingOptions (c : LocationAPIClientBase)
    (options : TrackingOptions) :
    (c.locAPIUpdateTrackingOptions options).callbacks = c.callbacks := by
  unfold LocationAPIClientBase.locAPIUpdateTrackingOptions
  split
  · rfl
  · dsimp only
    split <;> rfl

theorem callbacks_locAPIStopTracking (c : LocationAPIClientBase) :
    c.locAPIStopTracking.callbacks = c.callbacks := by
  unfold LocationAPIClientBase.locAPIStopTracking
  split
  · rfl
  · dsimp only
    split <;> rfl

theorem tracked_next (h : s.client.Waits) (ht : s.Tracked) (e : TrackingEvent) :
    (s.next e).Tracked ↔ s.Fits e := by
  cases e with
  | setCallbacks =>
    refine iff_of_true ⟨?_, fun hsuccess => nomatch hsuccess⟩ trivial
    exact (LocationAPIClientBase.callbacks_locAPISetCallbacks s.client).trans ht.1
  | startTracking options session =>
    show (if _ then _ else _ : TrackingClient).Tracked ↔ _
    split
    · exact tracked_startTracking h ht options session
    · rename_i hsession
      exact iff_of_true ht fun htracking => absurd (.inl htracking) hsession
  | updateTrackingOptions options =>
    refine iff_of_true ⟨?_, fun hsuccess => nomatch hsuccess⟩ trivial
    exact (callbacks_locAPIUpdateTrackingOptions s.client options).trans ht.1
  | stopTracking =>
    refine iff_of_true ⟨?_, fun hsuccess => nomatch hsuccess⟩ trivial
    exact (callbacks_locAPIStopTracking s.client).trans ht.1
  | respond session error =>
    refine Iff.trans ?_ (matched_respond h ht.1 session error)
    exact and_iff_left fun hsuccess => nomatch hsuccess

/-- Every call is answered with its own callback and every start is of a
session, all through a run, if and only if every step fits. -/
theorem tracked_iff (es : List TrackingEvent) :
    StatesMeet step Tracked new es ↔ StepsMeet step Fits new es :=
  statesMeet_iff_stepsMeet (Q := fun s => s.client.Waits) (fun _ e h => waits_next h e)
    (fun _ e h ht => tracked_next h ht e) LocationAPIClientBase.waits_new
    ⟨rfl, fun hsuccess => nomatch hsuccess⟩

/-- A session is stopped, and the next is started before the answer. -/
theorem not_tracked_restart : ¬ StatesMeet step Tracked new
      [.setCallbacks, .startTracking (.timeBased 1000) 1, .respond 1 .success, .stopTracking,
        .startTracking (.timeBased 1000) 2, .respond 1 .success] :=
  fun h => absurd h.last.1 (by unfold Answered.Matched; decide)

end TrackingClient

end LocStack.ClientBase
