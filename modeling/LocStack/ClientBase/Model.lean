/-
# `LocStack.ClientBase.Model` — LocationAPIClientBase, its tracking and its sessions

The base class of the clients of LocationAPI.  Each call that it makes of
LocationAPI is answered later, with the session it was about, and the
request that was pushed for the call is then found again and its callback
invoked:

    requestTracking    the requests about the one tracking session
    requestSession     those about the sessions of all ids
    mSessionBiDict     which session is whose

The answer to a session that is not the tracking session takes whatever
request is oldest in the queue that all the sessions have together.

LocationAPI is kept beside the client, with the calls it has not answered
and the sessions it runs; the ids it returns are new ones, and not 0.
-/
import LocStack.Base.Keyed
import LocStack.Batching.Model
import LocStack.ClientBase.BiDict

namespace LocStack.ClientBase

open Base
open Batching (BatchingMode BatchingOptions)
open Tracking (GnssPowerMode GnssSuplMode LocationError)

/-! ## The queues -/

/-- A queue of requests.  An array is known by its address. -/
structure RequestQueue (ρ : Type*) where
  mSession : UInt32
  mSessionArrayPtr : Option Nat
  mQueue : List ρ

namespace RequestQueue

variable {ρ : Type*} (q : RequestQueue ρ)

def new : RequestQueue ρ where
  mSession := 0
  mSessionArrayPtr := none
  mQueue := []

def setSession (session : UInt32) : RequestQueue ρ := { q with mSession := session }

/-- `reset(uint32_t)`: the requests that are there are deleted. -/
def reset (session : UInt32) : RequestQueue ρ := { q with mSession := session, mQueue := [] }

/-- `reset(uint32_t*)` -/
def resetArray (sessionArrayPtr : Nat) : RequestQueue ρ :=
  { q.reset 0 with mSessionArrayPtr := some sessionArrayPtr }

def push (request : ρ) : RequestQueue ρ := { q with mQueue := q.mQueue ++ [request] }

def pop : Option ρ × RequestQueue ρ := (q.mQueue.head?, { q with mQueue := q.mQueue.tail })

end RequestQueue

/-! ## Requests and calls -/

/-- The callback of a request goes by the name of its class. -/
inductive RequestKind where
  | startTracking | stopTracking | updateTrackingOptions | startBatching | stopBatching
  | updateBatchingOptions | getBatchedLocations | gnssNiResponse
  deriving DecidableEq

/-- A request is an object of its own: `object` counts those made before. -/
structure LocationAPIRequest where
  object : Nat
  kind : RequestKind
  deriving DecidableEq

structure TrackingOptions where
  (size minInterval minDistance : UInt32)
  mode : GnssSuplMode
  locReqEngTypeMask : UInt32
  powerMode : GnssPowerMode
  tbm : UInt32
  deriving DecidableEq

/-- Options that ask for a fix each interval. -/
def TrackingOptions.timeBased (minInterval : UInt32) : TrackingOptions where
  size := 28
  minInterval := minInterval
  minDistance := 0
  mode := .standalone
  locReqEngTypeMask := 0
  powerMode := .m2
  tbm := 0

inductive ApiCall where
  | startTracking (options : TrackingOptions)
  | updateTrackingOptions (options : TrackingOptions)
  | stopTracking
  | startBatching (options : BatchingOptions)
  | updateBatchingOptions (options : BatchingOptions)
  | stopBatching
  | getBatchedLocations (count : Nat)

/-- A call about a session, and the request that was pushed for it.  A
session is stopped to go on as one of the other kind without a request. -/
structure Call where
  session : UInt32
  call : ApiCall
  request : Option LocationAPIRequest

theorem ofKey_session_concat (calls : List Call) (session : UInt32) (call : ApiCall)
    (request : Option LocationAPIRequest) :
    ofKey Call.session session (calls ++ [⟨session, call, request⟩]) =
      ofKey Call.session session calls ++ [⟨session, call, request⟩] :=
  ofKey_concat_self Call.session rfl

/-- What a session of LocationAPI is. -/
inductive Running where
  | tracking (options : TrackingOptions)
  | batching (options : BatchingOptions)
  deriving DecidableEq

/-- What a call makes of the session it is about. -/
def ApiCall.takes : ApiCall → Option Running → Option Running
  | .startTracking options, _ => some (.tracking options)
  | .updateTrackingOptions options, some (.tracking _) => some (.tracking options)
  | .stopTracking, some (.tracking _) => none
  | .startBatching options, _ => some (.batching options)
  | .updateBatchingOptions options, some (.batching _) => some (.batching options)
  | .stopBatching, some (.batching _) => none
  | _, running => running

def ApiCall.starts : ApiCall → Bool
  | .startTracking _ | .startBatching _ => true
  | _ => false

/-! ## LocationAPI -/

structure LocationAPI where
  /-- The ids it has returned. -/
  ids : List UInt32
  /-- The calls it has not answered, the oldest first. -/
  unanswered : List Call
  sessions : UInt32 → Option Running

namespace LocationAPI

variable (api : LocationAPI)

def new : LocationAPI where
  ids := []
  unanswered := []
  sessions := fun _ => none

def call (session : UInt32) (call : ApiCall) (request : Option LocationAPIRequest) : LocationAPI :=
  { api with
    unanswered := api.unanswered ++ [⟨session, call, request⟩]
    sessions := Function.update api.sessions session (call.takes (api.sessions session)) }

/-- A call that starts a session returns its id. -/
def start (session : UInt32) (call : ApiCall) (request : Option LocationAPIRequest) :
    LocationAPI :=
  { api.call session call request with ids := session :: api.ids }

/-- The oldest call about a session is answered.  A session that failed to
start is none. -/
def answer (c : Call) (error : LocationError) : LocationAPI :=
  { api with
    unanswered := settle Call.session c.session api.unanswered
    sessions :=
      if error ≠ LocationError.success ∧ c.call.starts then
        Function.update api.sessions c.session none
      else api.sessions }

end LocationAPI

/-! ## The client -/

def SESSION_MODE_NONE : UInt32 := 0
def SESSION_MODE_ON_FULL : UInt32 := 1
def SESSION_MODE_ON_FIX : UInt32 := 2
def SESSION_MODE_ON_TRIP_COMPLETED : UInt32 := 3

structure SessionEntity where
  (id trackingSession batchingSession sessionMode : UInt32)

/-- After `memset(&ret, 0, sizeof(T))`. -/
def SessionEntity.zero : SessionEntity where
  id := 0
  trackingSession := 0
  batchingSession := 0
  sessionMode := 0

structure LocationAPIClientBase where
  /-- null, or the instance that was created -/
  mLocationAPI : Option LocationAPI
  /-- `mRequestQueues[REQUEST_TRACKING]`, and the others in the same way -/
  requestTracking : RequestQueue LocationAPIRequest
  (requestSession requestNiResponse : RequestQueue LocationAPIRequest)
  mSessionBiDict : BiDict SessionEntity
  mTracking : Bool
  /-- How many requests it has made. -/
  made : Nat
  /-- The requests whose callback was invoked, and with what. -/
  callbacks : List (LocationAPIRequest × LocationError)

namespace LocationAPIClientBase

def new : LocationAPIClientBase where
  mLocationAPI := none
  requestTracking := .new
  requestSession := .new
  requestNiResponse := .new
  mSessionBiDict := .new
  mTracking := false
  made := 0
  callbacks := []

variable (c : LocationAPIClientBase)

/-- createInstance returns null for want of a mandatory callback only, and
these are set here. -/
def locAPISetCallbacks : LocationAPIClientBase :=
  match c.mLocationAPI with
  | none => { c with mLocationAPI := some .new }
  | some _ => c

/-- The ids that LocationAPI has returned. -/
def ids : List UInt32 := (c.mLocationAPI.map LocationAPI.ids).getD []

/-- The calls that LocationAPI has not answered. -/
def unanswered : List Call := (c.mLocationAPI.map LocationAPI.unanswered).getD []

/-- An id that LocationAPI may return. -/
def Returns (session : UInt32) : Prop := session ≠ 0 ∧ session ∉ c.ids
  deriving Decidable

section Called

variable {c} {api : LocationAPI}

theorem unanswered_of (h : c.mLocationAPI = some api) : c.unanswered = api.unanswered := by
  unfold unanswered
  rw [h]
  rfl

theorem ids_of (h : c.mLocationAPI = some api) : c.ids = api.ids := by
  unfold ids
  rw [h]
  rfl

theorem locAPISetCallbacks_cases (c : LocationAPIClientBase) : c.locAPISetCallbacks = c ∨
      c.locAPISetCallbacks = { c with mLocationAPI := some .new } ∧ c.unanswered = [] ∧
        c.ids = [] := by
  unfold locAPISetCallbacks
  split
  · rename_i hnone
    unfold unanswered ids
    rw [hnone]
    exact .inr ⟨rfl, rfl, rfl⟩
  · exact .inl rfl

theorem callbacks_locAPISetCallbacks (c : LocationAPIClientBase) :
    c.locAPISetCallbacks.callbacks = c.callbacks := by
  unfold locAPISetCallbacks
  split <;> rfl

end Called

/-- `new XRequest(*this)` -/
def request (kind : RequestKind) : LocationAPIRequest := ⟨c.made, kind⟩

/-! ### Tracking -/

/-- `session` is what `startTracking` returns, if it is called. -/
def locAPIStartTracking (options : TrackingOptions) (session : UInt32) :
    LocationError × LocationAPIClientBase :=
  match c.mLocationAPI with
  | none => (.generalFailure, c)
  | some api =>
    if c.mTracking then (.success, c)
    else
      let request := c.request .startTracking
      (.success, { c with
          mLocationAPI := some (api.start session (.startTracking options) (some request))
          requestTracking := (c.requestTracking.reset session).push request
          made := c.made + 1
          mTracking := true })

def locAPIStopTracking : LocationAPIClientBase :=
  match c.mLocationAPI with
  | none => c
  | some api =>
    let session := c.requestTracking.mSession
    if session > 0 then
      let request := c.request .stopTracking
      { c with
        mLocationAPI := some (api.call session .stopTracking (some request))
        requestTracking := c.requestTracking.push request
        made := c.made + 1
        mTracking := false }
    else c

def locAPIUpdateTrackingOptions (options : TrackingOptions) : LocationAPIClientBase :=
  match c.mLocationAPI with
  | none => c
  | some api =>
    let session := c.requestTracking.mSession
    if session > 0 then
      let request := c.request .updateTrackingOptions
      { c with
        mLocationAPI := some (api.call session (.updateTrackingOptions options) (some request))
        requestTracking := c.requestTracking.push request
        made := c.made + 1 }
    else c

/-! ### Sessions -/

/-- The switch on the session mode. -/
def batchingModeOf (sessionMode : UInt32) : BatchingMode :=
  if sessionMode = SESSION_MODE_ON_FULL then .routine
  else if sessionMode = SESSION_MODE_ON_TRIP_COMPLETED then .trip
  else .noAutoReport

/-- `sizeof(BatchingOptions)`: six 32-bit members. -/
def sizeofBatchingOptions : UInt32 := 24

/-- `batchOptions`, with its size and its batching mode filled in. -/
def batchOptionsOf (sessionMode : UInt32) : BatchingOptions :=
  { BatchingOptions.default with
    size := sizeofBatchingOptions
    batchingMode := batchingModeOf sessionMode }

/-- "Populate location option values" -/
def populate (batchOptions : BatchingOptions) (options : TrackingOptions) : BatchingOptions :=
  { batchOptions with
    minDistance := options.minDistance
    minInterval := options.minInterval
    mode := options.mode }

/-- `session` is what LocationAPI returns for the session that is started. -/
def locAPIStartSession (id sessionMode : UInt32) (options : TrackingOptions) (session : UInt32) :
    LocationError × LocationAPIClientBase :=
  match c.mLocationAPI with
  | none => (.generalFailure, c)
  | some api =>
    if c.mSessionBiDict.hasId id then (.alreadyStarted, c)
    else if sessionMode = SESSION_MODE_ON_FIX then
      let request := c.request .startTracking
      (.success, { c with
          mLocationAPI := some (api.start session (.startTracking options) (some request))
          requestSession := c.requestSession.push request
          made := c.made + 1
          mSessionBiDict := c.mSessionBiDict.set id session
            { id, trackingSession := session, batchingSession := 0, sessionMode } })
    else
      let batchOptions := populate (batchOptionsOf sessionMode) options
      let request := c.request .startBatching
      (.success, { c with
          mLocationAPI := some (api.start session (.startBatching batchOptions) (some request))
          requestSession := (c.requestSession.setSession session).push request
          made := c.made + 1
          mSessionBiDict := c.mSessionBiDict.set id session
            { id, trackingSession := 0, batchingSession := session, sessionMode } })

def locAPIStopSession (id : UInt32) : LocationError × LocationAPIClientBase :=
  match c.mLocationAPI with
  | none => (.generalFailure, c)
  | some api =>
    if c.mSessionBiDict.hasId id then
      let entity := c.mSessionBiDict.getExtById id .zero
      if entity.sessionMode = SESSION_MODE_ON_FIX then
        let request := c.request .stopTracking
        (.success, { c with
            mLocationAPI := some (api.call entity.trackingSession .stopTracking (some request))
            requestSession := c.requestSession.push request
            made := c.made + 1 })
      else
        let request := c.request .stopBatching
        (.success, { c with
            mLocationAPI := some (api.call entity.batchingSession .stopBatching (some request))
            requestSession := c.requestSession.push request
            made := c.made + 1 })
    else (.idUnknown, c)

/-- The session of an id is another one from here on. -/
def replaced (id : UInt32) (entity : SessionEntity) (session : UInt32) : BiDict SessionEntity :=
  (c.mSessionBiDict.rmById id).set id session entity

/-- `session` is what LocationAPI returns, if a session is started. -/
def locAPIUpdateSessionOptions (id sessionMode : UInt32) (options : TrackingOptions)
    (session : UInt32) : LocationError × LocationAPIClientBase :=
  match c.mLocationAPI with
  | none => (.generalFailure, c)
  | some api =>
    if c.mSessionBiDict.hasId id then
      let entity := c.mSessionBiDict.getExtById id .zero
      let trackingSession := entity.trackingSession
      let batchingSession := entity.batchingSession
      if sessionMode = SESSION_MODE_ON_FIX then
        let request := c.request .updateTrackingOptions
        if entity.sessionMode = SESSION_MODE_ON_FIX then
          (.success, { c with
              mLocationAPI := some
                (api.call trackingSession (.updateTrackingOptions options) (some request))
              requestSession := c.requestSession.push request
              made := c.made + 1
              mSessionBiDict := c.replaced id { entity with sessionMode } trackingSession })
        else
          (.success, { c with
              mLocationAPI := some ((api.call batchingSession .stopBatching none).start session
                  (.startTracking options) (some request))
              requestSession := (c.requestSession.push request).setSession 0
              made := c.made + 1
              mSessionBiDict := c.replaced id
                { entity with trackingSession := session, batchingSession := 0, sessionMode }
                session })
      else
        let request := c.request .updateBatchingOptions
        let batchOptions := batchOptionsOf sessionMode
        if entity.sessionMode = SESSION_MODE_ON_FIX then
          (.success, { c with
              mLocationAPI := some ((api.call trackingSession .stopTracking none).start session
                  (.startBatching (populate batchOptions options)) (some request))
              requestSession := (c.requestSession.push request).setSession session
              made := c.made + 1
              mSessionBiDict := c.replaced id
                { entity with trackingSession := 0, batchingSession := session, sessionMode }
                session })
        else
          (.success, { c with
              mLocationAPI := some
                (api.call batchingSession (.updateBatchingOptions batchOptions) (some request))
              requestSession := c.requestSession.push request
              made := c.made + 1
              mSessionBiDict := c.replaced id { entity with sessionMode } batchingSession })
    else (.idUnknown, c)

def locAPIGetBatchedLocations (id : UInt32) (count : Nat) :
    LocationError × LocationAPIClientBase :=
  match c.mLocationAPI with
  | none => (.generalFailure, c)
  | some api =>
    if c.mSessionBiDict.hasId id then
      let entity := c.mSessionBiDict.getExtById id .zero
      if entity.sessionMode ≠ SESSION_MODE_ON_FIX then
        let request := c.request .getBatchedLocations
        (.success, { c with
            mLocationAPI := some
              (api.call entity.batchingSession (.getBatchedLocations count) (some request))
            requestSession := c.requestSession.push request
            made := c.made + 1 })
      else (.notSupported, c)
    else (.idUnknown, c)

/-! ### Answers -/

def removeSession (session : UInt32) : LocationAPIClientBase :=
  if c.mSessionBiDict.hasSession session then
    { c with mSessionBiDict := c.mSessionBiDict.rmBySession session }
  else c

/-- The loop over the queues other than those of the geofences and of the
sessions: the first of the session is left, also when it is empty. -/
def popBySession (session : UInt32) : Option LocationAPIRequest × LocationAPIClientBase :=
  if c.requestTracking.mSession = session then
    (c.requestTracking.pop.1, { c with requestTracking := c.requestTracking.pop.2 })
  else if c.requestNiResponse.mSession = session then
    (c.requestNiResponse.pop.1, { c with requestNiResponse := c.requestNiResponse.pop.2 })
  else (none, c)

def getRequestBySession (session : UInt32) : Option LocationAPIRequest × LocationAPIClientBase :=
  match c.popBySession session with
  | (some request, c) => (some request, c)
  | (none, c) =>
    if c.mSessionBiDict.hasSession session then
      (c.requestSession.pop.1, { c with requestSession := c.requestSession.pop.2 })
    else (none, c)

/-- `request->onResponse(error, id)`: what it does of itself, and its
callback. -/
def onResponse (request : LocationAPIRequest) (error : LocationError) (id : UInt32) :
    LocationAPIClientBase :=
  let c := match request.kind with
    | .startTracking | .startBatching =>
      if error ≠ LocationError.success then c.removeSession id else c
    | .stopTracking | .stopBatching =>
      if error = LocationError.success then c.removeSession id else c
    | _ => c
  { c with callbacks := c.callbacks ++ [(request, error)] }

def onResponseCb (error : LocationError) (id : UInt32) : LocationAPIClientBase :=
  match c.getRequestBySession id with
  | (some request, c) => c.onResponse request error id
  | (none, c) => c

section Answers

variable {c} {c' : LocationAPIClientBase} {session : UInt32} {request : LocationAPIRequest}

theorem onResponseCb_of_some (h : c.getRequestBySession session = (some request, c'))
    (error : LocationError) :
    c.onResponseCb error session = c'.onResponse request error session := by
  unfold onResponseCb
  rw [h]

theorem onResponseCb_of_none (h : c.getRequestBySession session = (none, c'))
    (error : LocationError) : c.onResponseCb error session = c' := by
  unfold onResponseCb
  rw [h]

end Answers

end LocationAPIClientBase

/-! ## The answers of LocationAPI -/

/-- The client, and what LocationAPI has answered: each time the request
that the call was made for. -/
structure Answered where
  client : LocationAPIClientBase
  answers : List (Option LocationAPIRequest × LocationError)

namespace Answered

variable (s : Answered)

def new : Answered := ⟨.new, []⟩

/-- The oldest call about a session that is not answered. -/
def oldest (session : UInt32) : Option Call :=
  (ofKey Call.session session s.client.unanswered).head?

/-- It is answered. -/
def respond (session : UInt32) (error : LocationError) : Answered :=
  match s.client.mLocationAPI, s.oldest session with
  | some api, some call =>
    { client := { s.client with mLocationAPI := some (api.answer call error) }.onResponseCb
        error session
      answers := s.answers ++ [(call.request, error)] }
  | _, _ => s

/-- Every answer about a call that a request was pushed for invokes the
callback of that request, and nothing else does. -/
def Matched : Prop :=
  s.client.callbacks = s.answers.filterMap fun x => x.1.map (·, x.2)

variable {s} {session : UInt32} {error : LocationError} {call : Call}

theorem respond_eq {api : LocationAPI} (hapi : s.client.mLocationAPI = some api)
    (hcall : s.oldest session = some call) :
    s.respond session error =
      { client := { s.client with mLocationAPI := some (api.answer call error) }.onResponseCb
          error session
        answers := s.answers ++ [(call.request, error)] } := by
  unfold respond
  rw [hapi, hcall]

theorem respond_of_none (hcall : s.oldest session = none) : s.respond session error = s := by
  unfold respond
  rw [hcall]
  cases s.client.mLocationAPI <;> rfl

theorem exists_api (hcall : s.oldest session = some call) :
    ∃ api, s.client.mLocationAPI = some api := by
  rcases Option.eq_none_or_eq_some s.client.mLocationAPI with h | h
  · unfold oldest LocationAPIClientBase.unanswered at hcall
    rw [h] at hcall
    cases hcall
  · exact h

end Answered

end LocStack.ClientBase
