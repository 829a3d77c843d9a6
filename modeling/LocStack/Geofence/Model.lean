/-
# `LocStack.Geofence.Model` — the geofences of GeofenceAdapter.cpp

The message thread of the adapter processes commands, and the responses of
LocApi, one at a time.  A geofence is known by the key of its client and by
the hardware id the modem gave it, and the adapter keeps

    mGeofences     hwId to geofence
    mGeofenceIds   key to hwId

A command is a list of items.  Each goes through LocApi's queue
(`addToCallQueue`) and then, unless it is refused there, into a call of its
own; the response of the last item sends the aggregated one.  A call carries
a closure, which runs when the engine answers, in whatever order and however
many messages later.  An event of the machine is a message, an answer to one
of the unanswered calls, or a change of the engine lock.

`engine` is what the modem was last told about each hardware id.  A
geofence is in it from the answer to its add on, which is where its hardware
id comes from.  Doubles are only copied, and stand as their bits.  The
arrays that a command frees once it is answered are kept: nothing is said of
what a late response finds in them.
-/
import LocStack.Tracking.Model

namespace LocStack.Geofence

open Adapter (EngineLockState)
open Tracking (LocationError LocationSessionKey)

/-! ## The types -/

/-- It has the members of LocationSessionKey, and the same order. -/
abbrev GeofenceKey := LocationSessionKey

structure GeofenceOption where
  (breachTypeMask responsiveness dwellTime : UInt32)
  deriving DecidableEq

/-- A double, by its bits. -/
abbrev Double := UInt64

structure GeofenceInfo where
  (latitude longitude radius : Double)
  deriving DecidableEq

structure GeofenceObject where
  key : GeofenceKey
  (breachMask responsiveness dwellTime : UInt32)
  (latitude longitude radius : Double)
  paused : Bool
  deriving DecidableEq

def GeofenceObject.options (object : GeofenceObject) : GeofenceOption :=
  ⟨object.breachMask, object.responsiveness, object.dwellTime⟩

def GeofenceObject.info (object : GeofenceObject) : GeofenceInfo :=
  ⟨object.latitude, object.longitude, object.radius⟩

/-- As `saveGeofenceItem` builds it. -/
def GeofenceObject.new (key : GeofenceKey) (options : GeofenceOption) (info : GeofenceInfo) :
    GeofenceObject where
  key := key
  breachMask := options.breachTypeMask
  responsiveness := options.responsiveness
  dwellTime := options.dwellTime
  latitude := info.latitude
  longitude := info.longitude
  radius := info.radius
  paused := false

/-- Of LocationCallbacks, whether the one is set that commands are answered
through. -/
structure LocationCallbacks where
  collectiveResponseCb : Bool
  deriving DecidableEq

/-! ## Messages and responses -/

/-- The commands, with the arrays that come with them; NULL is `none`. -/
inductive GeofencesCommand where
  | addGeofences (options : Option (List GeofenceOption)) (infos : Option (List GeofenceInfo))
  | removeGeofences | pauseGeofences | resumeGeofences
  | modifyGeofences (options : Option (List GeofenceOption))
  deriving DecidableEq

/-- No array that the items need is NULL. -/
def GeofencesCommand.hasParameters : GeofencesCommand → Bool
  | .addGeofences options infos => options.isSome && infos.isSome
  | .removeGeofences => true
  | .pauseGeofences => true
  | .resumeGeofences => true
  | .modifyGeofences options => options.isSome

/-- `mOptions[i]` -/
def GeofencesCommand.option (c : GeofencesCommand) (i : Nat) : GeofenceOption :=
  match c with
  | .addGeofences (some options) _ => options.getD i ⟨0, 0, 0⟩
  | .modifyGeofences (some options) => options.getD i ⟨0, 0, 0⟩
  | _ => ⟨0, 0, 0⟩

/-- `mInfos[i]` -/
def GeofencesCommand.info (c : GeofencesCommand) (i : Nat) : GeofenceInfo :=
  match c with
  | .addGeofences _ (some infos) => infos.getD i ⟨0, 0, 0⟩
  | _ => ⟨0, 0, 0⟩

/-- A message of one of the commands.  `number` tells it, and the array
`errs` it allocates, from those of the other commands. -/
structure GeofencesMsg where
  number : Nat
  command : GeofencesCommand
  mClient : Nat
  mIds : List Nat
  deriving DecidableEq

def GeofencesMsg.mCount (msg : GeofencesMsg) : Nat := msg.mIds.length

/-- Of the item `i`. -/
def GeofencesMsg.key (msg : GeofencesMsg) (i : Nat) : GeofenceKey :=
  ⟨msg.mClient, msg.mIds.getD i 0⟩

/-- The closures handed to LocApi, with what they capture. -/
inductive ResponseFn where
  /-- of `addToCallQueue`, for the item `i` -/
  | callQueue (msg : GeofencesMsg) (i : Nat)
  /-- of `addGeofence` -/
  | addGeofence (msg : GeofencesMsg) (i : Nat)
  /-- of the call that the other commands make for the item -/
  | geofence (msg : GeofencesMsg) (i : Nat) (hwId : Nat)
  /-- of `removeGeofence` in `stopClientSessions` -/
  | stopClientSessions (hwId : Nat)
  /-- of `addGeofence` in `restartGeofences` -/
  | restartGeofences (object : GeofenceObject)
  /-- `[] (LocationError err ) {}`, of the `pauseGeofence` there -/
  | ignore

/-- A call of `collectiveResponseCb`: of the client that gave the command
`number`.  What `new` leaves in `errs` is `none`. -/
structure CollectiveResponse where
  (number client : Nat)
  errs : List (Option LocationError)
  ids : List Nat
  deriving DecidableEq

/-! ## The adapter -/

structure EngineGeofence where
  options : GeofenceOption
  info : GeofenceInfo
  paused : Bool

structure GeofenceAdapter where
  mClientData : Std.TreeMap Nat LocationCallbacks
  mGeofences : Std.TreeMap Nat GeofenceObject
  mGeofenceIds : Std.TreeMap GeofenceKey Nat
  /-- `mLocApi->getEngineLockState()` -/
  engineLockState : EngineLockState
  /-- The arrays `errs`, each under the number of its command. -/
  errs : List (List (Option LocationError))
  /-- The calls not yet answered. -/
  unanswered : List ResponseFn
  engine : Std.TreeMap Nat EngineGeofence

namespace GeofenceAdapter

def new : GeofenceAdapter where
  mClientData := ∅
  mGeofences := ∅
  mGeofenceIds := ∅
  engineLockState := .enabled
  errs := []
  unanswered := []
  engine := ∅

/-! ### The two maps -/

def getHwIdFromClient (s : GeofenceAdapter) (key : GeofenceKey) : Option Nat :=
  s.mGeofenceIds[key]?

def getGeofenceKeyFromHwId (s : GeofenceAdapter) (hwId : Nat) : Option GeofenceKey :=
  s.mGeofences[hwId]?.map GeofenceObject.key

def saveGeofenceItem (s : GeofenceAdapter) (key : GeofenceKey) (hwId : Nat)
    (options : GeofenceOption) (info : GeofenceInfo) : GeofenceAdapter :=
  { s with
    mGeofences := s.mGeofences.insert hwId (.new key options info)
    mGeofenceIds := s.mGeofenceIds.insert key hwId }

def removeGeofenceItem (s : GeofenceAdapter) (hwId : Nat) : GeofenceAdapter :=
  match s.getGeofenceKeyFromHwId hwId with
  | none => s
  | some key =>
    if s.mGeofenceIds.contains key then
      { s with
        mGeofenceIds := s.mGeofenceIds.erase key
        mGeofences := s.mGeofences.erase hwId }
    else s

/-- What pause, resume and modify do to the item that `find` finds. -/
def updateGeofenceItem (s : GeofenceAdapter) (hwId : Nat)
    (f : GeofenceObject → GeofenceObject) : GeofenceAdapter :=
  match s.mGeofences[hwId]? with
  | none => s
  | some object => { s with mGeofences := s.mGeofences.insert hwId (f object) }

def pauseGeofenceItem (s : GeofenceAdapter) (hwId : Nat) : GeofenceAdapter :=
  s.updateGeofenceItem hwId fun object => { object with paused := true }

def resumeGeofenceItem (s : GeofenceAdapter) (hwId : Nat) : GeofenceAdapter :=
  s.updateGeofenceItem hwId fun object => { object with paused := false }

def modifyGeofenceItem (s : GeofenceAdapter) (hwId : Nat) (options : GeofenceOption) :
    GeofenceAdapter :=
  s.updateGeofenceItem hwId fun object =>
    { object with
      breachMask := options.breachTypeMask
      responsiveness := options.responsiveness
      dwellTime := options.dwellTime }

/-! ### LocApi -/

/-- A call that the engine has yet to answer. -/
def call (s : GeofenceAdapter) (fn : ResponseFn) : GeofenceAdapter :=
  { s with unanswered := s.unanswered ++ [fn] }

/-- What the engine is told of the geofence `hwId`. -/
def command (s : GeofenceAdapter) (hwId : Nat) (f : EngineGeofence → EngineGeofence) :
    GeofenceAdapter :=
  match s.engine[hwId]? with
  | none => s
  | some fence => { s with engine := s.engine.insert hwId (f fence) }

def removeGeofence (s : GeofenceAdapter) (hwId : Nat) (fn : ResponseFn) : GeofenceAdapter :=
  { s with engine := s.engine.erase hwId }.call fn

def pauseGeofence (s : GeofenceAdapter) (hwId : Nat) (fn : ResponseFn) : GeofenceAdapter :=
  (s.command hwId fun fence => { fence with paused := true }).call fn

def resumeGeofence (s : GeofenceAdapter) (hwId : Nat) (fn : ResponseFn) : GeofenceAdapter :=
  (s.command hwId fun fence => { fence with paused := false }).call fn

def modifyGeofence (s : GeofenceAdapter) (hwId : Nat) (options : GeofenceOption)
    (fn : ResponseFn) : GeofenceAdapter :=
  (s.command hwId fun fence => { fence with options := options }).call fn

/-- The engine has answered an add: with SUCCESS, the geofence is its
`hwId`. -/
def geofenceAdded (s : GeofenceAdapter) (err : LocationError) (hwId : Nat)
    (options : GeofenceOption) (info : GeofenceInfo) : GeofenceAdapter :=
  if err = .success then { s with engine := s.engine.insert hwId ⟨options, info, false⟩ } else s

/-! ### Commands -/

def reportResponse (s : GeofenceAdapter) (response : CollectiveResponse) :
    List CollectiveResponse :=
  match s.mClientData[response.client]? with
  | some callbacks => if callbacks.collectiveResponseCb then [response] else []
  | none => []

/-- `errs[i] = err` -/
def setErr (s : GeofenceAdapter) (msg : GeofencesMsg) (i : Nat) (err : LocationError) :
    GeofenceAdapter :=
  { s with errs := s.errs.modify msg.number fun errs => errs.set i (some err) }

/-- Send aggregated response on last item. -/
def reportOnLast (s : GeofenceAdapter) (msg : GeofencesMsg) (i : Nat) :
    GeofenceAdapter × List CollectiveResponse :=
  if i + 1 = msg.mCount then
    (s, s.reportResponse ⟨msg.number, msg.mClient, s.errs.getD msg.number [], msg.mIds⟩)
  else (s, [])

/-- `proc` of the messages.  With no ids the command returns before there
is a message: there is then nothing to loop over. -/
def procCommand (s : GeofenceAdapter) (command : GeofencesCommand) (client : Nat)
    (ids : List Nat) : GeofenceAdapter :=
  let msg : GeofencesMsg := ⟨s.errs.length, command, client, ids⟩
  if command.hasParameters then
    { s with
      errs := s.errs ++ [List.replicate ids.length none]
      unanswered := s.unanswered ++ (List.range ids.length).map (.callQueue msg) }
  else
    { s with errs := s.errs ++ [List.replicate ids.length (some .invalidParameter)] }

/-- The queue has come to an item of a command that is not an add, and
`getHwIdFromClient` found it. -/
def callGeofence (s : GeofenceAdapter) (msg : GeofencesMsg) (i hwId : Nat) : GeofenceAdapter :=
  let fn := ResponseFn.geofence msg i hwId
  match msg.command with
  | .addGeofences _ _ => s
  | .removeGeofences => s.removeGeofence hwId fn
  | .pauseGeofences => s.pauseGeofence hwId fn
  | .resumeGeofences => s.resumeGeofence hwId fn
  | .modifyGeofences _ => s.modifyGeofence hwId (msg.command.option i) fn

/-- The queue has come to the item `i`. -/
def callQueueResponse (s : GeofenceAdapter) (msg : GeofencesMsg) (i : Nat) :
    GeofenceAdapter × List CollectiveResponse :=
  match msg.command with
  | .addGeofences _ _ => (s.call (.addGeofence msg i), [])
  | _ =>
    match s.getHwIdFromClient (msg.key i) with
    | some hwId => ((s.setErr msg i .success).callGeofence msg i hwId, [])
    | none => (s.setErr msg i .idUnknown).reportOnLast msg i

def addGeofenceResponse (s : GeofenceAdapter) (msg : GeofencesMsg) (i : Nat)
    (err : LocationError) (hwId : Nat) : GeofenceAdapter × List CollectiveResponse :=
  let options := msg.command.option i
  let info := msg.command.info i
  let s := s.geofenceAdded err hwId options info
  let s :=
    if s.engineLockState = .disabled ∨ err = .success then
      s.saveGeofenceItem (msg.key i) hwId options info
    else s
  (s.setErr msg i err).reportOnLast msg i

/-- The engine has answered the call made for an item.  The four closures
differ in what they do when it failed: only the one of remove and the one
of pause store every `err`, and the one of resume does nothing. -/
def geofenceResponse (s : GeofenceAdapter) (msg : GeofencesMsg) (i hwId : Nat)
    (err : LocationError) : GeofenceAdapter × List CollectiveResponse :=
  match msg.command with
  | .addGeofences _ _ => (s, [])
  | .removeGeofences =>
    let s :=
      if s.engineLockState = .disabled ∨ err = .success then s.removeGeofenceItem hwId else s
    (s.setErr msg i err).reportOnLast msg i
  | .pauseGeofences =>
    let s := if err = .success then s.pauseGeofenceItem hwId else s
    (s.setErr msg i err).reportOnLast msg i
  | .resumeGeofences =>
    if err = .success then
      ((s.setErr msg i err).resumeGeofenceItem hwId).reportOnLast msg i
    else (s, [])
  | .modifyGeofences _ =>
    let s :=
      if s.engineLockState = .disabled ∨ err = .success then
        (s.setErr msg i err).modifyGeofenceItem hwId (msg.command.option i)
      else s
    s.reportOnLast msg i

/-! ### Clients and restarts -/

/-- One entry of `mGeofenceIds`. -/
def stopClientSession (client : Nat) (s : GeofenceAdapter) (entry : GeofenceKey × Nat) :
    GeofenceAdapter :=
  if client = entry.1.client then
    { s with mGeofenceIds := s.mGeofenceIds.erase entry.1 }.removeGeofence entry.2
      (.stopClientSessions entry.2)
  else s

def stopClientSessions (s : GeofenceAdapter) (client : Nat) : GeofenceAdapter :=
  s.mGeofenceIds.toList.foldl (stopClientSession client) s

def stopClientSessionsResponse (s : GeofenceAdapter) (hwId : Nat) (err : LocationError) :
    GeofenceAdapter :=
  if err = .success then { s with mGeofences := s.mGeofences.erase hwId } else s

def restartGeofences (s : GeofenceAdapter) : GeofenceAdapter :=
  if s.mGeofences.isEmpty then s
  else
    { s with
      mGeofences := ∅
      mGeofenceIds := ∅
      unanswered := s.unanswered ++ s.mGeofences.toList.map fun entry => .restartGeofences entry.2 }

def restartGeofencesResponse (s : GeofenceAdapter) (object : GeofenceObject)
    (err : LocationError) (hwId : Nat) : GeofenceAdapter :=
  let s := s.geofenceAdded err hwId object.options object.info
  if err = .success then
    let s := if object.paused = true then s.pauseGeofence hwId .ignore else s
    s.saveGeofenceItem object.key hwId object.options object.info
  else s

/-- The modem has restarted, without its geofences. -/
def handleEngineUpEvent (s : GeofenceAdapter) : GeofenceAdapter :=
  let s := { s with engine := ∅ }
  if s.engineLockState = .enabled then s.restartGeofences else s

/-! ### Steps -/

def respond (s : GeofenceAdapter) (fn : ResponseFn) (err : LocationError) (hwId : Nat) :
    GeofenceAdapter × List CollectiveResponse :=
  match fn with
  | .callQueue msg i => s.callQueueResponse msg i
  | .addGeofence msg i => s.addGeofenceResponse msg i err hwId
  | .geofence msg i hwId => s.geofenceResponse msg i hwId err
  | .stopClientSessions hwId => (s.stopClientSessionsResponse hwId err, [])
  | .restartGeofences object => (s.restartGeofencesResponse object err hwId, [])
  | .ignore => (s, [])

end GeofenceAdapter

inductive GeofenceEvent where
  | addClient (client : Nat) (callbacks : LocationCallbacks)
  | removeClient (client : Nat)
  | command (command : GeofencesCommand) (client : Nat) (ids : List Nat)
  | engineLockState (state : EngineLockState)
  | handleEngineUpEvent
  /-- The engine answers the call `n`, an add with `hwId`: in
  LocApiGeofenceData that is set only where the add succeeded. -/
  | response (n : Nat) (err : LocationError) (hwId : Nat)

def step (s : GeofenceAdapter) : GeofenceEvent → GeofenceAdapter × List CollectiveResponse
  | .addClient client callbacks =>
    ({ s with mClientData := s.mClientData.insert client callbacks }, [])
  | .removeClient client =>
    let s := s.stopClientSessions client
    ({ s with mClientData := s.mClientData.erase client }, [])
  | .command command client ids => (s.procCommand command client ids, [])
  | .engineLockState state => ({ s with engineLockState := state }, [])
  | .handleEngineUpEvent => (s.handleEngineUpEvent, [])
  | .response n err hwId =>
    match s.unanswered[n]? with
    | none => (s, [])
    | some fn => { s with unanswered := s.unanswered.eraseIdx n }.respond fn err hwId

end LocStack.Geofence
