/-
# `LocStack.Daemon.PendingMessages` — whose answer a response of the daemon is

The location hal daemon makes LocationAPI calls for its clients.  The answer
of a call is a callback without a word of what it answers, so the handler of
each client keeps a queue of message ids, `mPendingMessages`, and the
response sent to the client has the id at its front.

The id is pushed by the service and the call made by the handler, each on
its own terms:

    startTracking    called if there is no session; pushed if there is one then
    stopTracking     called if there is a session; pushed
    updateTracking   called if there is a session; pushed

and the same for batching, and for suspend and resume of all sessions.  So
an id may be pushed without a call, or a call made without an id.

`answered_iff`: the queues are the calls that are not answered throughout a
run, and every response has the id of the call it answers, if and only if
every step meets `Fits`: it makes the call that it pushes the id of.
-/
import LocStack.Batching.Model

namespace LocStack.Daemon

open Base List
open Tracking (GnssSuplMode LocationError LocationOptions TrackingOptions)
open Batching (BatchingMode BatchingOptions)

/-! ## The handler of a client -/

/-- The ids that mPendingMessages holds. -/
inductive ELocMsgID where
  | startTracking | stopTracking | updateTrackingOptions | startBatching | stopBatching
  | updateBatchingOptions

/-- The calls of LocationAPI that it answers by `responseCb`. -/
inductive ApiCall where
  | startTracking (options : TrackingOptions)
  | stopTracking (id : UInt32)
  | updateTrackingOptions (id : UInt32) (options : TrackingOptions)
  | startBatching (options : BatchingOptions)
  | stopBatching (id : UInt32)
  | updateBatchingOptions (id : UInt32) (options : BatchingOptions)

/-- The id of the request that a call is made for. -/
def ApiCall.msgId : ApiCall → ELocMsgID
  | .startTracking _ => .startTracking
  | .stopTracking _ => .stopTracking
  | .updateTrackingOptions _ _ => .updateTrackingOptions
  | .startBatching _ => .startBatching
  | .stopBatching _ => .stopBatching
  | .updateBatchingOptions _ _ => .updateBatchingOptions

structure LocHalDaemonClientHandler where
  (mTracking mBatching : Bool)
  mBatchingMode : BatchingMode
  mPendingMessages : List ELocMsgID
  (mSessionId mBatchingId : UInt32)
  /-- not null -/
  mLocationApi : Bool
  mOptions : TrackingOptions
  mBatchOptions : BatchingOptions
  /-- not null -/
  mIpcSender : Bool

/-- `TrackingOptions(const LocationOptions&)`. -/
def trackingOptionsOf (options : LocationOptions) : TrackingOptions :=
  { options with powerMode := .invalid, tbm := 0 }

def UINT32_MAX : Nat := 4294967295

namespace LocHalDaemonClientHandler

/-- The constructor.  Only a client of the location client API gets a
LocationAPI. -/
def new (locationClientApi mIpcSender : Bool) : LocHalDaemonClientHandler where
  mTracking := false
  mBatching := false
  mBatchingMode := .noAutoReport
  mPendingMessages := []
  mSessionId := 0
  mBatchingId := 0
  mLocationApi := locationClientApi
  mOptions := .zero
  mBatchOptions := .default
  mIpcSender := mIpcSender

def getSupportedTbf (tbfMsec : Nat) : Nat :=
  if tbfMsec < 200 then 100
  else if tbfMsec < 500 then 200
  else if tbfMsec < 1000 then 500
  else if tbfMsec > UINT32_MAX - 999 then UINT32_MAX / 1000 * 1000
  else (tbfMsec + 999) / 1000 * 1000

variable (h : LocHalDaemonClientHandler)

/-- `mPendingMessages.push(msgId)`. -/
def push (msgId : ELocMsgID) : LocHalDaemonClientHandler :=
  { h with mPendingMessages := h.mPendingMessages ++ [msgId] }

/-- `startTracking()`, with the options there are; `id` is what LocationAPI
returns if it is called. -/
def startTracking (id : UInt32) : LocHalDaemonClientHandler × List ApiCall :=
  if h.mSessionId = 0 ∧ h.mLocationApi then
    ({ h with mSessionId := id }, [.startTracking h.mOptions])
  else (h, [])

/-- `startTracking(locOptions)`. -/
def startTrackingWith (locOptions : LocationOptions) (id : UInt32) :
    LocHalDaemonClientHandler × List ApiCall :=
  if h.mSessionId = 0 ∧ h.mLocationApi then
    let mOptions := trackingOptionsOf locOptions
    let mOptions := { mOptions with minInterval := getSupportedTbf mOptions.minInterval }
    ({ h with mOptions := mOptions, mSessionId := id }, [.startTracking mOptions])
  else (h, [])

def stopTracking : LocHalDaemonClientHandler × List ApiCall :=
  if h.mSessionId ≠ 0 ∧ h.mLocationApi then
    ({ h with mSessionId := 0 }, [.stopTracking h.mSessionId])
  else (h, [])

def updateTrackingOptions (locOptions : LocationOptions) :
    LocHalDaemonClientHandler × List ApiCall :=
  if h.mSessionId ≠ 0 ∧ h.mLocationApi then
    let trackingOption := TrackingOptions.zero.setLocationOptions locOptions
    let trackingOption :=
      { trackingOption with minInterval := getSupportedTbf trackingOption.minInterval }
    ({ h with mOptions := trackingOptionsOf locOptions },
      [.updateTrackingOptions h.mSessionId trackingOption])
  else (h, [])

/-- mBatchOptions as a request of batching sets it. -/
def batchOptions (minInterval minDistance : UInt32) (batchMode : BatchingMode) :
    BatchingOptions :=
  { h.mBatchOptions with
    size := 24
    batchingMode := batchMode
    minInterval := minInterval
    minDistance := minDistance
    mode := .standalone }

def startBatching (minInterval minDistance : UInt32) (batchMode : BatchingMode) (id : UInt32) :
    LocHalDaemonClientHandler × List ApiCall :=
  if h.mBatchingId = 0 ∧ h.mLocationApi then
    let mBatchOptions := h.batchOptions minInterval minDistance batchMode
    ({ h with mBatchOptions := mBatchOptions, mBatchingId := id }, [.startBatching mBatchOptions])
  else (h, [])

def stopBatching : LocHalDaemonClientHandler × List ApiCall :=
  if h.mBatchingId ≠ 0 ∧ h.mLocationApi then
    ({ h with mBatchingId := 0 }, [.stopBatching h.mBatchingId])
  else (h, [])

def updateBatchingOptions (minInterval minDistance : UInt32) (batchMode : BatchingMode) :
    LocHalDaemonClientHandler × List ApiCall :=
  if h.mBatchingId ≠ 0 ∧ h.mLocationApi then
    let mBatchOptions := h.batchOptions minInterval minDistance batchMode
    ({ h with mBatchOptions := mBatchOptions },
      [.updateBatchingOptions h.mBatchingId mBatchOptions])
  else (h, [])

/-- `onResponseCb`: the id of the response that is sent.  Without a pending
id none is sent, and without a sender nothing is done. -/
def onResponseCb : LocHalDaemonClientHandler × Option ELocMsgID :=
  if h.mIpcSender then
    match h.mPendingMessages with
    | [] => (h, none)
    | pendingMsgId :: rest => ({ h with mPendingMessages := rest }, some pendingMsgId)
  else (h, none)

end LocHalDaemonClientHandler

/-! ## The service -/

/-- The requests of a client. -/
inductive Request where
  | startTracking (locOptions : LocationOptions)
  | stopTracking
  | updateTrackingOptions (locOptions : LocationOptions)
  | startBatching (intervalInMs distanceInMeters : UInt32) (batchingMode : BatchingMode)
  | stopBatching
  | updateBatchingOptions (intervalInMs distanceInMeters : UInt32) (batchingMode : BatchingMode)

/-- What LocationApiService does for a request: the handler makes the call,
and the service pushes the id. -/
def LocHalDaemonClientHandler.serve (h : LocHalDaemonClientHandler) (mPositionMode : GnssSuplMode)
    (id : UInt32) : Request → LocHalDaemonClientHandler × List ApiCall
  | .startTracking locOptions =>
    let (h, calls) := h.startTrackingWith { locOptions with mode := mPositionMode } id
    if h.mSessionId = 0 then (h, calls)
    else ({ h with mTracking := true }.push .startTracking, calls)
  | .stopTracking =>
    let (h, calls) := { h with mTracking := false }.stopTracking
    (h.push .stopTracking, calls)
  | .updateTrackingOptions locOptions =>
    let (h, calls) := h.updateTrackingOptions { locOptions with mode := mPositionMode }
    (h.push .updateTrackingOptions, calls)
  | .startBatching intervalInMs distanceInMeters batchingMode =>
    let (h, calls) := h.startBatching intervalInMs distanceInMeters batchingMode id
    if h.mBatchingId = 0 then (h, calls)
    else ({ h with mBatching := true, mBatchingMode := batchingMode }.push .startBatching, calls)
  | .stopBatching =>
    let (h, calls) := { h with mBatching := false, mBatchingMode := .noAutoReport }.stopBatching
    (h.push .stopBatching, calls)
  | .updateBatchingOptions intervalInMs distanceInMeters batchingMode =>
    let (h, calls) := h.updateBatchingOptions intervalInMs distanceInMeters batchingMode
    (h.push .updateBatchingOptions, calls)

/-- A handler, and the calls it has made that are not answered, oldest
first. -/
structure Client where
  handler : LocHalDaemonClientHandler
  unanswered : List ApiCall

/-- The handler after some calls. -/
def Client.after (c : Client) (p : LocHalDaemonClientHandler × List ApiCall) : Client :=
  ⟨p.1, c.unanswered ++ p.2⟩

/-- mClients is an `unordered_map`; its loops take the order of the list.
An insertion may leave it in any order. -/
structure Rehash where
  arrange : List (String × Client) → List (String × Client)
  perm : ∀ mClients, (arrange mClients).Perm mClients

def Rehash.none : Rehash := ⟨id, fun _ => .refl _⟩

structure LocationApiService where
  mClients : List (String × Client)
  mPositionMode : GnssSuplMode
  names : (mClients.map Prod.fst).Nodup

/-- What becomes of a response that is to be sent. -/
inductive Delivery where
  | sent | notSerialized
  /-- the client is purged -/
  | failed

inductive Event where
  /-- a request, and what LocationAPI returns if a session is started -/
  | request (mSocketName : String) (r : Request) (id : UInt32)
  | newClient (clientname : String) (locationClientApi mIpcSender : Bool) (rehash : Rehash)
  | deleteClient (clientname : String)
  | suspendAllTrackingSessions
  | resumeAllTrackingSessions (ids : String → UInt32)
  /-- LocationAPI answers the oldest call of the client -/
  | onResponseCb (clientname : String) (err : LocationError) (delivery : Delivery)

/-- What a client is sent. -/
structure GenericResp where
  clientname : String
  msgId : ELocMsgID
  err : LocationError

def AUTO_START_CLIENT_NAME : String := "default"

/-- A client is changed in its place in mClients. -/
def modifyClient (clientname : String) (f : Client → Client) (mClients : List (String × Client)) :
    List (String × Client) :=
  mClients.map fun p => if p.1 = clientname then (p.1, f p.2) else p

theorem names_modifyClient (clientname : String) (f : Client → Client)
    (mClients : List (String × Client)) :
    (modifyClient clientname f mClients).map Prod.fst = mClients.map Prod.fst := by
  unfold modifyClient
  rw [map_map]
  refine map_congr_left fun p _ => ?_
  show (if p.1 = clientname then (p.1, f p.2) else p).1 = p.1
  split
  · rfl
  · rfl

/-- One turn of the loop of `suspendAllTrackingSessions`. -/
def Client.suspend (c : Client) : Client :=
  if c.handler.mTracking then
    let (h, calls) := c.handler.stopTracking
    c.after (h.push .stopTracking, calls)
  else c

/-- The loop of `resumeAllTrackingSessions`: a session that does not start
ends it. -/
def resumeClients (ids : String → UInt32) : List (String × Client) → List (String × Client)
  | [] => []
  | (clientname, c) :: rest =>
    if c.handler.mTracking then
      let (h, calls) := c.handler.startTracking (ids clientname)
      if h.mSessionId = 0 then (clientname, c.after (h, calls)) :: rest
      else (clientname, c.after (h.push .startTracking, calls)) :: resumeClients ids rest
    else (clientname, c) :: resumeClients ids rest

theorem names_resumeClients (ids : String → UInt32) (mClients : List (String × Client)) :
    (resumeClients ids mClients).map Prod.fst = mClients.map Prod.fst := by
  induction mClients with
  | nil => rfl
  | cons p rest ih =>
    obtain ⟨clientname, c⟩ := p
    unfold resumeClients
    split
    · dsimp only
      split
      · rfl
      · exact congrArg (clientname :: ·) ih
    · exact congrArg (clientname :: ·) ih

namespace LocationApiService

variable (s : LocationApiService)

def getClient (clientname : String) : Option Client := s.mClients.lookup clientname

def modify (clientname : String) (f : Client → Client) : LocationApiService :=
  { s with
    mClients := modifyClient clientname f s.mClients
    names := (names_modifyClient clientname f s.mClients).symm ▸ s.names }

def newClient (clientname : String) (locationClientApi mIpcSender : Bool) (rehash : Rehash) :
    LocationApiService :=
  if h : clientname ∈ s.mClients.map Prod.fst then s
  else
    { s with
      mClients :=
        rehash.arrange (s.mClients ++ [(clientname, ⟨.new locationClientApi mIpcSender, []⟩)])
      names := by
        rw [((rehash.perm _).map Prod.fst).nodup_iff, map_append]
        refine List.Nodup.append s.names (nodup_singleton _) ?_
        intro n hn hn'
        obtain rfl := mem_singleton.mp hn'
        exact h hn }

def deleteClientbyName (clientname : String) : LocationApiService :=
  { s with
    mClients := s.mClients.filter (·.1 ≠ clientname)
    names := s.names.sublist (filter_sublist.map _) }

def suspendAllTrackingSessions : LocationApiService :=
  { s with
    mClients := s.mClients.map fun p => (p.1, p.2.suspend)
    names := by
      rw [map_map]
      exact s.names }

def resumeAllTrackingSessions (ids : String → UInt32) : LocationApiService :=
  { s with
    mClients := resumeClients ids s.mClients
    names := (names_resumeClients ids s.mClients).symm ▸ s.names }

/-- The oldest call of a client is answered. -/
def onResponseCb (clientname : String) (err : LocationError) (delivery : Delivery) :
    LocationApiService × List GenericResp :=
  match s.getClient clientname with
  | none => (s, [])
  | some c =>
    match c.unanswered with
    | [] => (s, [])
    | _ :: rest =>
      let (h, msgId) := c.handler.onResponseCb
      let s' := s.modify clientname fun _ => ⟨h, rest⟩
      match msgId, delivery with
      | none, _ => (s', [])
      | some msgId, .sent => (s', [⟨clientname, msgId, err⟩])
      | some _, .notSerialized => (s', [])
      | some _, .failed => (s'.deleteClientbyName clientname, [])

def step : Event → LocationApiService × List GenericResp
  | .request mSocketName r id =>
    (s.modify mSocketName fun c => c.after (c.handler.serve s.mPositionMode id r), [])
  | .newClient clientname locationClientApi mIpcSender rehash =>
    (s.newClient clientname locationClientApi mIpcSender rehash, [])
  | .deleteClient clientname => (s.deleteClientbyName clientname, [])
  | .suspendAllTrackingSessions => (s.suspendAllTrackingSessions, [])
  | .resumeAllTrackingSessions ids => (s.resumeAllTrackingSessions ids, [])
  | .onResponseCb clientname err delivery => s.onResponseCb clientname err delivery

/-- The constructor; with `autoStart` there is a default client with a
session. -/
def new (mPositionMode : GnssSuplMode) (autoStart : Option (LocationOptions × UInt32)) :
    LocationApiService where
  mClients :=
    match autoStart with
    | none => []
    | some (locationOption, id) =>
      let c : Client := ⟨.new true true, []⟩
      let (h, calls) :=
        c.handler.startTrackingWith { locationOption with mode := mPositionMode } id
      [(AUTO_START_CLIENT_NAME,
        c.after ({ h with mTracking := true }.push .startTracking, calls))]
  mPositionMode := mPositionMode
  names := by
    cases autoStart with
    | none => exact nodup_nil
    | some p => exact nodup_singleton _

end LocationApiService

/-! ## In step -/

/-- The queue of the client is the ids of its calls that are not answered. -/
def Client.InStep (c : Client) : Prop :=
  c.handler.mPendingMessages = c.unanswered.map ApiCall.msgId

/-- So are those of all clients. -/
def LocationApiService.InStep (s : LocationApiService) : Prop :=
  ∀ p ∈ s.mClients, p.2.InStep

/-- A response that is sent has the id of the call that was answered, which
is the oldest of its client. -/
def LocationApiService.Answered (s : LocationApiService) (e : Event) : Prop :=
  ∀ resp ∈ (s.step e).2, e = .onResponseCb resp.clientname resp.err .sent ∧
    ∃ c call rest, s.getClient resp.clientname = some c ∧ c.unanswered = call :: rest ∧
      resp.msgId = call.msgId

/-- The handler makes the call whose id the service pushes: it starts what
does not run, and is told that it does, or updates or stops what runs. -/
def LocHalDaemonClientHandler.Calls (h : LocHalDaemonClientHandler) (id : UInt32) : Request → Prop
  | .startTracking _ => h.mSessionId = 0 ∧ (h.mLocationApi = true → id ≠ 0)
  | .stopTracking => h.mSessionId ≠ 0 ∧ h.mLocationApi = true
  | .updateTrackingOptions _ => h.mSessionId ≠ 0 ∧ h.mLocationApi = true
  | .startBatching _ _ _ => h.mBatchingId = 0 ∧ (h.mLocationApi = true → id ≠ 0)
  | .stopBatching => h.mBatchingId ≠ 0 ∧ h.mLocationApi = true
  | .updateBatchingOptions _ _ _ => h.mBatchingId ≠ 0 ∧ h.mLocationApi = true

/-- Every session to be resumed is stopped and starts again, up to one of a
client without LocationAPI, which ends the loop. -/
def Resumable (ids : String → UInt32) : List (String × Client) → Prop
  | [] => True
  | (clientname, c) :: rest =>
    if c.handler.mTracking then
      c.handler.mSessionId = 0 ∧
        (c.handler.mLocationApi = true → ids clientname ≠ 0 ∧ Resumable ids rest)
    else Resumable ids rest

/-- Every id that is pushed is that of a call made then, and what is answered
can be sent. -/
def LocationApiService.Fits (s : LocationApiService) : Event → Prop
  | .request mSocketName r id => ∀ c, s.getClient mSocketName = some c → c.handler.Calls id r
  | .suspendAllTrackingSessions => ∀ p ∈ s.mClients, p.2.handler.mTracking = true →
      p.2.handler.mSessionId ≠ 0 ∧ p.2.handler.mLocationApi = true
  | .resumeAllTrackingSessions ids => Resumable ids s.mClients
  | .onResponseCb clientname _ _ => ∀ c, s.getClient clientname = some c → c.unanswered ≠ [] →
      c.handler.mIpcSender = true
  | _ => True

/-! ## One client -/

section Handler

variable {h h' : LocHalDaemonClientHandler} {calls : List ApiCall} {msgId : ELocMsgID}

theorem push_iff {called : Prop} [Decidable called]
    (hpending : h'.mPendingMessages = h.mPendingMessages)
    (hcalls : calls.map ApiCall.msgId = if called then [msgId] else []) :
    (h'.push msgId).mPendingMessages = h.mPendingMessages ++ calls.map ApiCall.msgId ↔ called := by
  have hpush : (h'.push msgId).mPendingMessages = h.mPendingMessages ++ [msgId] :=
    congrArg (· ++ [msgId]) hpending
  rw [hpush, hcalls, append_cancel_left_eq]
  split
  · rename_i hyes
    exact iff_of_true rfl hyes
  · rename_i hno
    exact iff_of_false (cons_ne_nil _ _) hno

theorem start_iff {sessionId id sessionId' : UInt32} {mLocationApi : Bool}
    {h₀ h₁ : LocHalDaemonClientHandler}
    (hpending₀ : h₀.mPendingMessages = h.mPendingMessages)
    (hpending₁ : h₁.mPendingMessages = h.mPendingMessages)
    (hcalls : calls.map ApiCall.msgId = if sessionId = 0 ∧ mLocationApi then [msgId] else [])
    (hid : sessionId' = if sessionId = 0 ∧ mLocationApi then id else sessionId) :
    (if sessionId' = 0 then (h₀, calls) else (h₁.push msgId, calls)).1.mPendingMessages =
        h.mPendingMessages ++ (if sessionId' = 0 then (h₀, calls) else (h₁.push msgId, calls)).2.map
            ApiCall.msgId ↔
      sessionId = 0 ∧ (mLocationApi = true → id ≠ 0) := by
  by_cases hstarted : sessionId' = 0
  · -- not pushed: there must not have been a call
    rw [if_pos hstarted, hpending₀, hcalls]
    by_cases hcalled : sessionId = 0 ∧ mLocationApi
    · rw [if_pos hcalled] at hid ⊢
      refine iff_of_false (fun heq => ?_) fun hfits => hfits.2 hcalled.2 (hid ▸ hstarted)
      exact cons_ne_nil _ _ (self_eq_append_right.mp heq)
    · rw [if_neg hcalled] at hid ⊢
      rw [append_nil]
      have hzero : sessionId = 0 := hid ▸ hstarted
      exact iff_of_true rfl ⟨hzero, fun hapi => absurd ⟨hzero, hapi⟩ hcalled⟩
  · rw [if_neg hstarted, push_iff hpending₁ hcalls]
    constructor
    · intro hcalled
      rw [if_pos hcalled] at hid
      exact ⟨hcalled.1, fun _ => hid ▸ hstarted⟩
    · rintro ⟨hzero, -⟩
      by_contra hno
      rw [if_neg hno] at hid
      exact hstarted (hid.trans hzero)

namespace LocHalDaemonClientHandler

/-- What the functions of the handler leave of the queue, and which calls
they make. -/
theorem startTracking_calls (id : UInt32) :
    (h.startTracking id).1.mPendingMessages = h.mPendingMessages ∧
      (h.startTracking id).2.map ApiCall.msgId =
        (if h.mSessionId = 0 ∧ h.mLocationApi then [.startTracking] else []) ∧
      (h.startTracking id).1.mSessionId =
        if h.mSessionId = 0 ∧ h.mLocationApi then id else h.mSessionId := by
  unfold startTracking
  split
  · exact ⟨rfl, rfl, rfl⟩
  · exact ⟨rfl, rfl, rfl⟩

theorem startTrackingWith_calls (locOptions : LocationOptions) (id : UInt32) :
    (h.startTrackingWith locOptions id).1.mPendingMessages = h.mPendingMessages ∧
      (h.startTrackingWith locOptions id).2.map ApiCall.msgId =
        (if h.mSessionId = 0 ∧ h.mLocationApi then [.startTracking] else []) ∧
      (h.startTrackingWith locOptions id).1.mSessionId =
        if h.mSessionId = 0 ∧ h.mLocationApi then id else h.mSessionId := by
  unfold startTrackingWith
  split
  · exact ⟨rfl, rfl, rfl⟩
  · exact ⟨rfl, rfl, rfl⟩

theorem stopTracking_calls : h.stopTracking.1.mPendingMessages = h.mPendingMessages ∧
    h.stopTracking.2.map ApiCall.msgId =
      if h.mSessionId ≠ 0 ∧ h.mLocationApi then [.stopTracking] else [] := by
  unfold stopTracking
  split
  · exact ⟨rfl, rfl⟩
  · exact ⟨rfl, rfl⟩

theorem updateTrackingOptions_calls (locOptions : LocationOptions) :
    (h.updateTrackingOptions locOptions).1.mPendingMessages = h.mPendingMessages ∧
      (h.updateTrackingOptions locOptions).2.map ApiCall.msgId =
        if h.mSessionId ≠ 0 ∧ h.mLocationApi then [.updateTrackingOptions] else [] := by
  unfold updateTrackingOptions
  split
  · exact ⟨rfl, rfl⟩
  · exact ⟨rfl, rfl⟩

theorem startBatching_calls (minInterval minDistance : UInt32) (batchMode : BatchingMode)
    (id : UInt32) :
    (h.startBatching minInterval minDistance batchMode id).1.mPendingMessages = h.mPendingMessages ∧
      (h.startBatching minInterval minDistance batchMode id).2.map ApiCall.msgId =
        (if h.mBatchingId = 0 ∧ h.mLocationApi then [.startBatching] else []) ∧
      (h.startBatching minInterval minDistance batchMode id).1.mBatchingId =
        if h.mBatchingId = 0 ∧ h.mLocationApi then id else h.mBatchingId := by
  unfold startBatching
  split
  · exact ⟨rfl, rfl, rfl⟩
  · exact ⟨rfl, rfl, rfl⟩

theorem stopBatching_calls : h.stopBatching.1.mPendingMessages = h.mPendingMessages ∧
    h.stopBatching.2.map ApiCall.msgId =
      if h.mBatchingId ≠ 0 ∧ h.mLocationApi then [.stopBatching] else [] := by
  unfold stopBatching
  split
  · exact ⟨rfl, rfl⟩
  · exact ⟨rfl, rfl⟩

theorem updateBatchingOptions_calls (minInterval minDistance : UInt32)
    (batchMode : BatchingMode) :
    (h.updateBatchingOptions minInterval minDistance batchMode).1.mPendingMessages =
        h.mPendingMessages ∧
      (h.updateBatchingOptions minInterval minDistance batchMode).2.map ApiCall.msgId =
        if h.mBatchingId ≠ 0 ∧ h.mLocationApi then [.updateBatchingOptions] else [] := by
  unfold updateBatchingOptions
  split
  · exact ⟨rfl, rfl⟩
  · exact ⟨rfl, rfl⟩

theorem serve_iff (mPositionMode : GnssSuplMode) (id : UInt32) (r : Request) :
    (h.serve mPositionMode id r).1.mPendingMessages =
        h.mPendingMessages ++ (h.serve mPositionMode id r).2.map ApiCall.msgId ↔
      h.Calls id r := by
  cases r with
  | startTracking locOptions =>
    obtain ⟨hpending, hcalls, hid⟩ :=
      startTrackingWith_calls (h := h) { locOptions with mode := mPositionMode } id
    exact start_iff hpending hpending hcalls hid
  | stopTracking =>
    have hcalls := stopTracking_calls (h := { h with mTracking := false })
    have hiff := push_iff hcalls.1 hcalls.2
    exact hiff
  | updateTrackingOptions locOptions =>
    have hcalls := updateTrackingOptions_calls (h := h) { locOptions with mode := mPositionMode }
    have hiff := push_iff hcalls.1 hcalls.2
    exact hiff
  | startBatching intervalInMs distanceInMeters batchingMode =>
    obtain ⟨hpending, hcalls, hid⟩ :=
      startBatching_calls (h := h) intervalInMs distanceInMeters batchingMode id
    exact start_iff hpending hpending hcalls hid
  | stopBatching =>
    have hcalls := stopBatching_calls
      (h := { h with mBatching := false, mBatchingMode := .noAutoReport })
    have hiff := push_iff hcalls.1 hcalls.2
    exact hiff
  | updateBatchingOptions intervalInMs distanceInMeters batchingMode =>
    have hcalls := updateBatchingOptions_calls (h := h) intervalInMs distanceInMeters batchingMode
    have hiff := push_iff hcalls.1 hcalls.2
    exact hiff

end LocHalDaemonClientHandler

end Handler

namespace Client

variable {c : Client} {p : LocHalDaemonClientHandler × List ApiCall}

theorem inStep_after (hc : c.InStep) : (c.after p).InStep ↔
    p.1.mPendingMessages = c.handler.mPendingMessages ++ p.2.map ApiCall.msgId := by
  unfold InStep after
  rw [map_append, hc]

theorem inStep_suspend (hc : c.InStep) : c.suspend.InStep ↔
    (c.handler.mTracking = true → c.handler.mSessionId ≠ 0 ∧ c.handler.mLocationApi = true) := by
  have hcalls := LocHalDaemonClientHandler.stopTracking_calls (h := c.handler)
  unfold suspend
  by_cases htracking : c.handler.mTracking = true
  · rw [if_pos htracking]
    exact ((inStep_after hc).trans (push_iff hcalls.1 hcalls.2)).trans
      (forall_prop_of_true htracking).symm
  · rw [if_neg htracking]
    exact iff_of_true hc fun h => absurd h htracking

variable {call : ApiCall} {rest : List ApiCall}

theorem inStep_answer (hc : c.InStep) (hcall : c.unanswered = call :: rest) :
    InStep ⟨c.handler.onResponseCb.1, rest⟩ ↔ c.handler.mIpcSender = true := by
  have hpending : c.handler.mPendingMessages = call.msgId :: rest.map ApiCall.msgId := by
    rw [hc, hcall]
    rfl
  unfold LocHalDaemonClientHandler.onResponseCb
  split
  · rename_i hsender
    rw [hpending]
    exact iff_of_true rfl hsender
  · rename_i hsender
    refine iff_of_false (fun h => ?_) hsender
    have hsame : c.handler.mPendingMessages = rest.map ApiCall.msgId := h
    have hlen := congrArg List.length (hpending.symm.trans hsame)
    rw [length_cons] at hlen
    omega

theorem onResponseCb_msgId (hc : c.InStep) (hcall : c.unanswered = call :: rest) :
    c.handler.onResponseCb.2 = if c.handler.mIpcSender then some call.msgId else none := by
  have hpending : c.handler.mPendingMessages = call.msgId :: rest.map ApiCall.msgId := by
    rw [hc, hcall]
    rfl
  unfold LocHalDaemonClientHandler.onResponseCb
  split
  · rw [hpending]
  · rfl

end Client

/-! ## All clients -/

theorem inStep_resumeClients (ids : String → UInt32) {mClients : List (String × Client)}
    (h : ∀ p ∈ mClients, p.2.InStep) :
    (∀ p ∈ resumeClients ids mClients, p.2.InStep) ↔ Resumable ids mClients := by
  induction mClients with
  | nil => exact iff_of_true h trivial
  | cons p rest ih =>
    obtain ⟨clientname, c⟩ := p
    obtain ⟨hc, hrest⟩ := forall_mem_cons.mp h
    have hrest' := ih hrest
    by_cases htracking : c.handler.mTracking = true
    · obtain ⟨hpending, hcalls, hid⟩ :=
        LocHalDaemonClientHandler.startTracking_calls (h := c.handler) (ids clientname)
      have hiff := start_iff hpending hpending hcalls hid
      have hfits : Resumable ids ((clientname, c) :: rest) ↔ c.handler.mSessionId = 0 ∧
          (c.handler.mLocationApi = true → ids clientname ≠ 0 ∧ Resumable ids rest) :=
        iff_of_eq (if_pos htracking)
      rw [hfits]
      by_cases hstarted : (c.handler.startTracking (ids clientname)).1.mSessionId = 0
      · -- the loop ends here
        have hstep : resumeClients ids ((clientname, c) :: rest) =
            (clientname, c.after (c.handler.startTracking (ids clientname))) :: rest :=
          (if_pos htracking).trans (if_pos hstarted)
        rw [if_pos hstarted] at hiff
        rw [hstep, forall_mem_cons, Client.inStep_after hc]
        refine (and_iff_left hrest).trans (hiff.trans ?_)
        refine and_congr_right fun hzero => ?_
        have hno : ¬ (c.handler.mLocationApi = true ∧ ids clientname ≠ 0) := by
          rintro ⟨hapi, hne⟩
          rw [if_pos ⟨hzero, hapi⟩] at hid
          exact hne (hid ▸ hstarted)
        exact ⟨fun hne hapi => absurd ⟨hapi, hne hapi⟩ hno, fun hall hapi => (hall hapi).1⟩
      · have hstep : resumeClients ids ((clientname, c) :: rest) =
            (clientname, c.after ((c.handler.startTracking (ids clientname)).1.push
              .startTracking, (c.handler.startTracking (ids clientname)).2)) ::
              resumeClients ids rest :=
          (if_pos htracking).trans (if_neg hstarted)
        rw [if_neg hstarted] at hiff
        rw [hstep, forall_mem_cons, Client.inStep_after hc, hrest']
        refine (and_congr_left' hiff).trans ?_
        constructor
        · rintro ⟨⟨hzero, hne⟩, hres⟩
          exact ⟨hzero, fun hapi => ⟨hne hapi, hres⟩⟩
        · rintro ⟨hzero, hall⟩
          have hapi : c.handler.mLocationApi = true := by
            by_contra hapi
            rw [if_neg fun hand => hapi hand.2] at hid
            exact hstarted (hid.trans hzero)
          exact ⟨⟨hzero, fun _ => (hall hapi).1⟩, (hall hapi).2⟩
    · have hstep : resumeClients ids ((clientname, c) :: rest) =
          (clientname, c) :: resumeClients ids rest := if_neg htracking
      have hfits : Resumable ids ((clientname, c) :: rest) ↔ Resumable ids rest :=
        iff_of_eq (if_neg htracking)
      rw [hstep, forall_mem_cons, hfits, ← hrest']
      exact and_iff_right hc

namespace LocationApiService

variable {s : LocationApiService} {clientname : String} {c : Client}

theorem getClient_eq_some_iff :
    s.getClient clientname = some c ↔ (clientname, c) ∈ s.mClients := by
  have hlookup : ∀ l : List (String × Client), (l.map Prod.fst).Nodup →
      (l.lookup clientname = some c ↔ (clientname, c) ∈ l) := by
    intro l
    induction l with
    | nil => exact fun _ => iff_of_false (fun h => nomatch h) not_mem_nil
    | cons p l ih =>
      intro hnd
      obtain ⟨hnot, hnd'⟩ := nodup_cons.mp hnd
      obtain ⟨n, c'⟩ := p
      by_cases hn : clientname = n
      · subst hn
        rw [lookup_cons_self, mem_cons, Option.some.injEq]
        constructor
        · rintro rfl
          exact Or.inl rfl
        · rintro (heq | hmem)
          · exact (Prod.mk.inj heq).2.symm
          · exact absurd (mem_map_of_mem hmem) hnot
      · have hbeq : (clientname == n) = false := beq_false_of_ne hn
        rw [lookup_cons, hbeq, mem_cons]
        refine (ih hnd').trans (or_iff_right fun heq => hn (Prod.mk.inj heq).1).symm
  exact hlookup s.mClients s.names

section

variable (h : s.InStep)
include h

theorem inStep_modify (f : Client → Client) :
    (s.modify clientname f).InStep ↔ ∀ c, s.getClient clientname = some c → (f c).InStep := by
  have hall : (s.modify clientname f).InStep ↔
      ∀ p ∈ s.mClients, (if p.1 = clientname then (p.1, f p.2) else p).2.InStep :=
    forall_mem_map
  rw [hall]
  constructor
  · intro hmod c hc
    have hmem := hmod _ (getClient_eq_some_iff.mp hc)
    rw [if_pos rfl] at hmem
    exact hmem
  · rintro hf ⟨n, c⟩ hp
    by_cases hn : n = clientname
    · subst hn
      rw [if_pos rfl]
      exact hf c (getClient_eq_some_iff.mpr hp)
    · rw [if_neg hn]
      exact h _ hp

theorem inStep_deleteClientbyName (clientname : String) :
    (s.deleteClientbyName clientname).InStep := fun p hp => h p (mem_of_mem_filter hp)

theorem inStep_newClient (clientname : String) (locationClientApi mIpcSender : Bool)
    (rehash : Rehash) : (s.newClient clientname locationClientApi mIpcSender rehash).InStep := by
  unfold newClient
  split
  · exact h
  · intro p hp
    rcases mem_append.mp ((rehash.perm _).mem_iff.mp hp) with hp | hp
    · exact h p hp
    · rw [mem_singleton.mp hp]
      rfl

/-- A client whose response cannot be sent is purged, and in step or not
after the answer, is not there. -/
theorem inStep_purge (f : Client → Client) :
    ((s.modify clientname f).deleteClientbyName clientname).InStep := by
  intro p hp
  obtain ⟨hmem, hne⟩ := mem_filter.mp hp
  obtain ⟨q, hq, rfl⟩ := mem_map.mp hmem
  by_cases hn : q.1 = clientname
  · rw [if_pos hn] at hne
    exact absurd hn (of_decide_eq_true hne)
  · rw [if_neg hn]
    exact h q hq

omit h in
theorem onResponseCb_idle (hidle : ∀ c, s.getClient clientname = some c → c.unanswered = [])
    (err : LocationError) (delivery : Delivery) :
    s.onResponseCb clientname err delivery = (s, []) := by
  unfold onResponseCb
  cases hc : s.getClient clientname with
  | none => rfl
  | some c =>
    dsimp only
    rw [hidle c hc]

omit h in
theorem onResponseCb_eq (hc : s.getClient clientname = some c) {call : ApiCall}
    {rest : List ApiCall} (hcalls : c.unanswered = call :: rest) (err : LocationError)
    (delivery : Delivery) :
    s.onResponseCb clientname err delivery =
      match c.handler.onResponseCb.2, delivery with
      | none, _ => (s.modify clientname fun _ => ⟨c.handler.onResponseCb.1, rest⟩, [])
      | some msgId, .sent =>
        (s.modify clientname fun _ => ⟨c.handler.onResponseCb.1, rest⟩, [⟨clientname, msgId, err⟩])
      | some _, .notSerialized =>
        (s.modify clientname fun _ => ⟨c.handler.onResponseCb.1, rest⟩, [])
      | some _, .failed =>
        ((s.modify clientname fun _ =>
          ⟨c.handler.onResponseCb.1, rest⟩).deleteClientbyName clientname, []) := by
  unfold onResponseCb
  rw [hc]
  dsimp only
  rw [hcalls]

theorem inStep_onResponseCb (err : LocationError) (delivery : Delivery) :
    (s.onResponseCb clientname err delivery).1.InStep ↔
      s.Fits (.onResponseCb clientname err delivery) := by
  show _ ↔ ∀ c, s.getClient clientname = some c → c.unanswered ≠ [] → c.handler.mIpcSender = true
  cases hc : s.getClient clientname with
  | none =>
    rw [onResponseCb_idle fun c hc' => nomatch hc.symm.trans hc']
    exact iff_of_true h fun c hc' => nomatch hc'
  | some c =>
    have hin : c.InStep := h _ (getClient_eq_some_iff.mp hc)
    cases hcalls : c.unanswered with
    | nil =>
      have hidle : ∀ c', s.getClient clientname = some c' → c'.unanswered = [] := by
        intro c' hc'
        obtain rfl := Option.some.inj (hc.symm.trans hc')
        exact hcalls
      rw [onResponseCb_idle hidle, ← hc]
      exact iff_of_true h fun c' hc' hne => absurd (hidle c' hc') hne
    | cons call rest =>
      have hfits : (∀ c', some c = some c' → c'.unanswered ≠ [] →
          c'.handler.mIpcSender = true) ↔ c.handler.mIpcSender = true := by
        constructor
        · intro hall
          exact hall c rfl (hcalls ▸ cons_ne_nil call rest)
        · intro hsender c' hc' _
          exact Option.some.inj hc' ▸ hsender
      have hmod : (s.modify clientname fun _ => ⟨c.handler.onResponseCb.1, rest⟩).InStep ↔
          c.handler.mIpcSender = true := by
        rw [inStep_modify h, ← Client.inStep_answer hin hcalls]
        exact ⟨fun hall => hall c hc, fun hans _ _ => hans⟩
      have hid := Client.onResponseCb_msgId hin hcalls
      rw [hfits, onResponseCb_eq hc hcalls]
      by_cases hsender : c.handler.mIpcSender = true
      · rw [if_pos hsender] at hid
        rw [hid]
        cases delivery with
        | sent => exact hmod
        | notSerialized => exact hmod
        | failed => exact iff_of_true (inStep_purge h _) hsender
      · rw [if_neg hsender] at hid
        rw [hid]
        exact hmod

theorem inStep_suspendAllTrackingSessions :
    s.suspendAllTrackingSessions.InStep ↔ s.Fits .suspendAllTrackingSessions := by
  have hall : s.suspendAllTrackingSessions.InStep ↔ ∀ p ∈ s.mClients, p.2.suspend.InStep :=
    forall_mem_map
  rw [hall]
  exact forall₂_congr fun p hp => Client.inStep_suspend (h p hp)

theorem inStep_step (e : Event) : (s.step e).1.InStep ↔ s.Fits e := by
  cases e with
  | request mSocketName r id =>
    refine (inStep_modify h _).trans (forall₂_congr fun c hc => ?_)
    exact (Client.inStep_after (h _ (getClient_eq_some_iff.mp hc))).trans
      (LocHalDaemonClientHandler.serve_iff s.mPositionMode id r)
  | newClient clientname locationClientApi mIpcSender rehash =>
    exact iff_of_true (inStep_newClient h clientname locationClientApi mIpcSender rehash) trivial
  | deleteClient clientname => exact iff_of_true (inStep_deleteClientbyName h clientname) trivial
  | suspendAllTrackingSessions => exact inStep_suspendAllTrackingSessions h
  | resumeAllTrackingSessions ids => exact inStep_resumeClients ids h
  | onResponseCb clientname err delivery => exact inStep_onResponseCb h err delivery

theorem answered_onResponseCb (err : LocationError) (delivery : Delivery) :
    s.Answered (.onResponseCb clientname err delivery) := by
  intro resp hresp
  have hresp' : resp ∈ (s.onResponseCb clientname err delivery).2 := hresp
  by_cases hidle : ∀ c, s.getClient clientname = some c → c.unanswered = []
  · rw [onResponseCb_idle hidle] at hresp'
    exact absurd hresp' not_mem_nil
  · push Not at hidle
    obtain ⟨c, hc, hne⟩ := hidle
    obtain ⟨call, rest, hcalls⟩ := exists_cons_of_ne_nil hne
    have hid := Client.onResponseCb_msgId (h _ (getClient_eq_some_iff.mp hc)) hcalls
    rw [onResponseCb_eq hc hcalls] at hresp'
    by_cases hsender : c.handler.mIpcSender = true
    · rw [if_pos hsender] at hid
      rw [hid] at hresp'
      cases delivery with
      | sent =>
        obtain rfl := mem_singleton.mp hresp'
        exact ⟨rfl, c, call, rest, hc, hcalls, rfl⟩
      | notSerialized => exact absurd hresp' not_mem_nil
      | failed => exact absurd hresp' not_mem_nil
    · rw [if_neg hsender] at hid
      rw [hid] at hresp'
      exact absurd hresp' not_mem_nil

theorem answered_step (e : Event) : s.Answered e := by
  cases e with
  | onResponseCb clientname err delivery => exact answered_onResponseCb h err delivery
  | _ => exact fun resp hresp => absurd hresp not_mem_nil

end

/-- The session of the default client is called for once, and its id pushed,
whether it starts or not. -/
theorem inStep_new (mPositionMode : GnssSuplMode)
    (autoStart : Option (LocationOptions × UInt32)) : (new mPositionMode autoStart).InStep := by
  cases autoStart with
  | none => exact fun p hp => absurd hp not_mem_nil
  | some start =>
    intro p hp
    obtain rfl := mem_singleton.mp hp
    rfl

end LocationApiService

/-- A client stops tracking before it has started. -/
def stopTrackingFirst : List Event :=
  [.newClient "client" true true .none, .request "client" .stopTracking 0,
    .request "client" (.startTracking TrackingOptions.zero.toLocationOptions) 1]

end LocStack.Daemon
