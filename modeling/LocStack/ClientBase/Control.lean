/-
# `LocStack.ClientBase.Control` — LocationAPIControlClient

The client of LocationControlAPI keeps four queues of requests.  That of the
deletions and that of enable and disable go by a session; those of the
configuration go by the address of the array that was returned:

    deleteAidingData    the session of the newest deletion
    control             the session of the newest enable
    configUpdate        the array of the newest update
    configGet           the array of the newest read

A new deletion, and a new enable, delete the requests that wait in their
queue.  The address of an array is stored where one is stored already, so it
never is, and no answer about a configuration finds its request.
-/
import LocStack.ClientBase.Model
import LocStack.Gnss.Config

namespace LocStack.ClientBase

open Base
open Gnss (GnssAssistanceType GnssSvIdSource GnssSvTypeConfig)
open Tracking (LocationError)

/-! ## The configuration -/

structure GnssConfigSetAssistanceServer where
  type : GnssAssistanceType
  hostName : Option String
  port : UInt32

def GnssConfigSetAssistanceServer.equals (s config : GnssConfigSetAssistanceServer) : Bool :=
  config.type == s.type && config.port == s.port && config.hostName == s.hostName

structure GnssConfigRobustLocationVersion where
  major : UInt8
  minor : UInt16
  deriving DecidableEq

structure GnssConfigRobustLocation where
  validMask : UInt32
  (enabled enabledForE911 : Bool)
  version : GnssConfigRobustLocationVersion
  deriving DecidableEq

structure GnssConfig where
  (flags gpsLock suplVersion : UInt32)
  assistanceServer : GnssConfigSetAssistanceServer
  (lppProfileMask lppeControlPlaneMask lppeUserPlaneMask aGlonassPositionProtocolMask : UInt32)
  (emergencyPdnForEmergencySupl suplEmergencyServices suplModeMask : UInt32)
  blacklistedSvIds : List GnssSvIdSource
  emergencyExtensionSeconds : UInt32
  robustLocationConfig : GnssConfigRobustLocation
  minGpsWeek : UInt16
  minSvElevation : UInt8
  secondaryBandConfig : GnssSvTypeConfig

/-- After `memset(&mConfig, 0, sizeof(GnssConfig))`. -/
def GnssConfig.zero : GnssConfig where
  flags := 0
  gpsLock := 0
  suplVersion := 0
  assistanceServer := { type := .supl, hostName := none, port := 0 }
  lppProfileMask := 0
  lppeControlPlaneMask := 0
  lppeUserPlaneMask := 0
  aGlonassPositionProtocolMask := 0
  emergencyPdnForEmergencySupl := 0
  suplEmergencyServices := 0
  suplModeMask := 0
  blacklistedSvIds := []
  emergencyExtensionSeconds := 0
  robustLocationConfig :=
    { validMask := 0, enabled := false, enabledForE911 := false, version := ⟨0, 0⟩ }
  minGpsWeek := 0
  minSvElevation := 0
  secondaryBandConfig := ⟨0, 0, 0⟩

def GnssConfig.equals (c config : GnssConfig) : Bool :=
  c.flags == config.flags &&
  c.gpsLock == config.gpsLock &&
  c.suplVersion == config.suplVersion &&
  c.assistanceServer.equals config.assistanceServer &&
  c.lppProfileMask == config.lppProfileMask &&
  c.lppeControlPlaneMask == config.lppeControlPlaneMask &&
  c.lppeUserPlaneMask == config.lppeUserPlaneMask &&
  c.aGlonassPositionProtocolMask == config.aGlonassPositionProtocolMask &&
  c.emergencyPdnForEmergencySupl == config.emergencyPdnForEmergencySupl &&
  c.suplEmergencyServices == config.suplEmergencyServices &&
  c.suplModeMask == config.suplModeMask &&
  c.blacklistedSvIds == config.blacklistedSvIds &&
  c.emergencyExtensionSeconds == config.emergencyExtensionSeconds &&
  c.robustLocationConfig == config.robustLocationConfig &&
  c.minGpsWeek == config.minGpsWeek &&
  c.minSvElevation == config.minSvElevation &&
  c.secondaryBandConfig == config.secondaryBandConfig

structure GnssAidingData where
  deleteAll : Bool
  (svMask svTypeMask commonMask dreAidingDataMask posEngineMask : UInt32)

/-- All aiding data, whatever else is said. -/
def GnssAidingData.all : GnssAidingData where
  deleteAll := true
  svMask := 0
  svTypeMask := 0
  commonMask := 0
  dreAidingDataMask := 0
  posEngineMask := 0

inductive LocationTechnologyType where
  | gnss

/-! ## Requests and calls -/

/-- The callback of a request goes by the name of its class. -/
inductive ControlRequestKind where
  | gnssDeleteAidingData | enable | disable | gnssUpdateConfig | gnssGetConfig

/-- A request is known by the call it was made in: `object` counts those
before. -/
structure ControlRequest where
  object : Nat
  kind : ControlRequestKind

inductive ControlApiCall where
  | gnssDeleteAidingData (data : GnssAidingData)
  | enable (techType : LocationTechnologyType)
  | disable
  | gnssUpdateConfig (config : GnssConfig)
  | gnssGetConfig (mask : UInt32)

/-- What a call is answered by: a session, or the ids of an array. -/
inductive ControlIds where
  | session (id : UInt32)
  | array (ids : List UInt32)
  deriving DecidableEq

/-- A call, and the request that was pushed for it. -/
structure ControlCall where
  ids : ControlIds
  call : ControlApiCall
  request : ControlRequest

/-- An array that LocationControlAPI returns: where it is, and the ids. -/
structure IdArray where
  ptr : Nat
  ids : List UInt32

/-! ## LocationControlAPI -/

structure LocationControlAPI where
  /-- The sessions of the deletions, the newest first. -/
  deletions : List UInt32
  /-- Those of the enable calls, the newest first. -/
  controls : List UInt32
  /-- The calls it has not answered, the oldest first. -/
  unanswered : List ControlCall

namespace LocationControlAPI

variable (api : LocationControlAPI)

def new : LocationControlAPI where
  deletions := []
  controls := []
  unanswered := []

def call (c : ControlCall) : LocationControlAPI :=
  { api with unanswered := api.unanswered ++ [c] }

def gnssDeleteAidingData (data : GnssAidingData) (session : UInt32) (request : ControlRequest) :
    LocationControlAPI :=
  { api.call ⟨.session session, .gnssDeleteAidingData data, request⟩ with
    deletions := session :: api.deletions }

def enable (techType : LocationTechnologyType) (session : UInt32) (request : ControlRequest) :
    LocationControlAPI :=
  { api.call ⟨.session session, .enable techType, request⟩ with
    controls := session :: api.controls }

/-- The oldest call of these ids is answered. -/
def answer (ids : ControlIds) : LocationControlAPI :=
  { api with unanswered := settle ControlCall.ids ids api.unanswered }

end LocationControlAPI

/-! ## The client -/

/-- What a callback is invoked with. -/
inductive ControlAnswer where
  | response (error : LocationError)
  | collective (errors : List LocationError) (ids : List UInt32)

structure LocationAPIControlClient where
  /-- null, or the instance that was created -/
  mLocationControlAPI : Option LocationControlAPI
  /-- `mRequestQueues[CTRL_REQUEST_DELETEAIDINGDATA]`, and the others in the
  same way -/
  deleteAidingData : RequestQueue ControlRequest
  (control configUpdate configGet : RequestQueue ControlRequest)
  mEnabled : Bool
  mConfig : GnssConfig
  /-- How many calls were made of it. -/
  calls : Nat
  /-- The requests whose callback was invoked, and with what. -/
  callbacks : List (ControlRequest × ControlAnswer)

namespace LocationAPIControlClient

/-- `created` says if there is a gnss interface, and no other instance of
LocationControlAPI. -/
def new (created : Bool) : LocationAPIControlClient where
  mLocationControlAPI := if created then some .new else none
  deleteAidingData := .new
  control := .new
  configUpdate := .new
  configGet := .new
  mEnabled := false
  mConfig := .zero
  calls := 0
  callbacks := []

variable (c : LocationAPIControlClient)

def deletions : List UInt32 := (c.mLocationControlAPI.map LocationControlAPI.deletions).getD []

def controls : List UInt32 := (c.mLocationControlAPI.map LocationControlAPI.controls).getD []

def unanswered : List ControlCall :=
  (c.mLocationControlAPI.map LocationControlAPI.unanswered).getD []

/-- A session that LocationControlAPI may return: a new one, and not 0. -/
def Returns (session : UInt32) : Prop :=
  session ≠ 0 ∧ session ∉ c.deletions ∧ session ∉ c.controls
  deriving Decidable

/-- An answer about these ids is due. -/
def Due (ids : ControlIds) : Prop := ∃ call ∈ c.unanswered, call.ids = ids
  deriving Decidable

/-- How many requests are in the queues. -/
def queued : Nat :=
  c.deleteAidingData.mQueue.length + c.control.mQueue.length +
    c.configUpdate.mQueue.length + c.configGet.mQueue.length

/-- `new XRequest(*this)` -/
def request (kind : ControlRequestKind) : ControlRequest := ⟨c.calls, kind⟩

/-- `session` is what LocationControlAPI returns. -/
def locAPIGnssDeleteAidingData (data : GnssAidingData) (session : UInt32) :
    LocationError × LocationAPIControlClient :=
  match c.mLocationControlAPI with
  | none => (.generalFailure, c)
  | some api =>
    let request := c.request .gnssDeleteAidingData
    (.success, { c with
        mLocationControlAPI := some (api.gnssDeleteAidingData data session request)
        deleteAidingData := (c.deleteAidingData.reset session).push request })

/-- `session` is what LocationControlAPI returns, if it is called. -/
def locAPIEnable (techType : LocationTechnologyType) (session : UInt32) :
    LocationError × LocationAPIControlClient :=
  if c.mEnabled then (.success, c)
  else
    match c.mLocationControlAPI with
    | none => (.generalFailure, c)
    | some api =>
      let request := c.request .enable
      (.success, { c with
          mLocationControlAPI := some (api.enable techType session request)
          control := (c.control.reset session).push request
          mEnabled := true })

def locAPIDisable : LocationAPIControlClient :=
  match c.mEnabled, c.mLocationControlAPI with
  | true, some api =>
    let session := c.control.mSession
    if session > 0 then
      let request := c.request .disable
      { c with
        mLocationControlAPI := some (api.call ⟨.session session, .disable, request⟩)
        control := c.control.push request
        mEnabled := false }
    else c
  | _, _ => c

/-- "if (nullptr != getSessionArrayPtr()) reset(idArray)", and the push. -/
def pushArray (q : RequestQueue ControlRequest) (idArray : IdArray) (request : ControlRequest) :
    RequestQueue ControlRequest :=
  (match q.mSessionArrayPtr with
    | none => q
    | some _ => q.resetArray idArray.ptr).push request

/-- `idArray` is what LocationControlAPI returns, if it is called. -/
def locAPIGnssUpdateConfig (config : GnssConfig) (idArray : Option IdArray) :
    LocationError × LocationAPIControlClient :=
  match c.mLocationControlAPI with
  | none => (.generalFailure, c)
  | some api =>
    if c.mConfig.equals config then (.success, c)
    else
      let c := { c with mConfig := config }
      match idArray with
      | none => (.generalFailure, c)
      | some idArray =>
        let request := c.request .gnssUpdateConfig
        (.success, { c with
            mLocationControlAPI := some
              (api.call ⟨.array idArray.ids, .gnssUpdateConfig config, request⟩)
            configUpdate := pushArray c.configUpdate idArray request })

/-- `idArray` is what LocationControlAPI returns, if it is called. -/
def locAPIGnssGetConfig (mask : UInt32) (idArray : Option IdArray) :
    LocationError × LocationAPIControlClient :=
  match c.mLocationControlAPI with
  | none => (.generalFailure, c)
  | some api =>
    match idArray with
    | none => (.generalFailure, c)
    | some idArray =>
      let request := c.request .gnssGetConfig
      (.success, { c with
          mLocationControlAPI := some (api.call ⟨.array idArray.ids, .gnssGetConfig mask, request⟩)
          configGet := pushArray c.configGet idArray request })

/-! ### Answers -/

/-- LocationControlAPI has answered a call. -/
def answered (ids : ControlIds) : LocationAPIControlClient :=
  { c with mLocationControlAPI := c.mLocationControlAPI.map fun api => api.answer ids }

def getRequestBySession (session : UInt32) : Option ControlRequest × LocationAPIControlClient :=
  if c.deleteAidingData.mSession = session then
    (c.deleteAidingData.pop.1, { c with deleteAidingData := c.deleteAidingData.pop.2 })
  else if c.control.mSession = session then
    (c.control.pop.1, { c with control := c.control.pop.2 })
  else (none, c)

def getRequestBySessionArrayPtr (sessionArrayPtr : Nat) :
    Option ControlRequest × LocationAPIControlClient :=
  if c.configUpdate.mSessionArrayPtr = some sessionArrayPtr then
    (c.configUpdate.pop.1, { c with configUpdate := c.configUpdate.pop.2 })
  else if c.configGet.mSessionArrayPtr = some sessionArrayPtr then
    (c.configGet.pop.1, { c with configGet := c.configGet.pop.2 })
  else (none, c)

def invoked (request : ControlRequest) (answer : ControlAnswer) : LocationAPIControlClient :=
  { c with callbacks := c.callbacks ++ [(request, answer)] }

/-- `request->onResponse(error, id)`: those of the configuration have none
of their own. -/
def onResponse (request : ControlRequest) (error : LocationError) : LocationAPIControlClient :=
  match request.kind with
  | .gnssDeleteAidingData | .enable | .disable => c.invoked request (.response error)
  | .gnssUpdateConfig | .gnssGetConfig => c

/-- `request->onCollectiveResponse(count, errors, ids)`: those of the
configuration only have one. -/
def onCollectiveResponse (request : ControlRequest) (errors : List LocationError)
    (ids : List UInt32) : LocationAPIControlClient :=
  match request.kind with
  | .gnssUpdateConfig | .gnssGetConfig => c.invoked request (.collective errors ids)
  | .gnssDeleteAidingData | .enable | .disable => c

def onCtrlResponseCb (error : LocationError) (id : UInt32) : LocationAPIControlClient :=
  match c.getRequestBySession id with
  | (some request, c) => c.onResponse request error
  | (none, c) => c

def onCtrlCollectiveResponseCb (errors : List LocationError) (ids : IdArray) :
    LocationAPIControlClient :=
  match c.getRequestBySessionArrayPtr ids.ptr with
  | (some request, c) => c.onCollectiveResponse request errors ids.ids
  | (none, c) => c

end LocationAPIControlClient

/-! ## Runs -/

/-- The client, and the calls that returned success, each as the request that
is made for it.  A disable returns nothing, and is one when LocationControlAPI
is called. -/
structure Controlled where
  client : LocationAPIControlClient
  succeeded : List ControlRequest

inductive ControlEvent where
  | gnssDeleteAidingData (data : GnssAidingData) (session : UInt32)
  | enable (techType : LocationTechnologyType) (session : UInt32)
  | disable
  | gnssUpdateConfig (config : GnssConfig) (idArray : Option IdArray)
  | gnssGetConfig (mask : UInt32) (idArray : Option IdArray)
  /-- LocationControlAPI answers the oldest call of a session. -/
  | response (session : UInt32) (error : LocationError)
  /-- It answers the call of an array: from an array that may be another,
  with the same ids. -/
  | collectiveResponse (ids : IdArray) (errors : List LocationError)

namespace Controlled

def new (created : Bool) : Controlled := ⟨.new created, []⟩

variable (s : Controlled)

/-- A call was made, and returned. -/
def called (kind : ControlRequestKind) (result : LocationError × LocationAPIControlClient) :
    Controlled where
  client := { result.2 with calls := result.2.calls + 1 }
  succeeded :=
    if result.1 = LocationError.success then s.succeeded ++ [s.client.request kind]
    else s.succeeded

/-- `locAPIDisable` calls LocationControlAPI. -/
def disables : Bool :=
  s.client.mEnabled && s.client.mLocationControlAPI.isSome && 0 < s.client.control.mSession

def next : ControlEvent → Controlled
  | .gnssDeleteAidingData data session =>
    if s.client.Returns session then
      s.called .gnssDeleteAidingData (s.client.locAPIGnssDeleteAidingData data session)
    else s
  | .enable techType session =>
    if s.client.Returns session then s.called .enable (s.client.locAPIEnable techType session)
    else s
  | .disable =>
    s.called .disable (if s.disables then .success else .generalFailure, s.client.locAPIDisable)
  | .gnssUpdateConfig config idArray =>
    s.called .gnssUpdateConfig (s.client.locAPIGnssUpdateConfig config idArray)
  | .gnssGetConfig mask idArray =>
    s.called .gnssGetConfig (s.client.locAPIGnssGetConfig mask idArray)
  | .response session error =>
    if s.client.Due (.session session) then
      { s with client := (s.client.answered (.session session)).onCtrlResponseCb error session }
    else s
  | .collectiveResponse ids errors =>
    if s.client.Due (.array ids.ids) then
      { s with client := (s.client.answered (.array ids.ids)).onCtrlCollectiveResponseCb errors ids }
    else s

def step (s : Controlled) (e : ControlEvent) : Controlled × List Unit := (s.next e, [])

/-- Each call that returned success has its callback invoked once, or is
still to be answered, and no other callback is invoked; there are no more
requests in the queues than calls to be answered. -/
def Served : Prop :=
  s.succeeded.Perm
      (s.client.callbacks.map Prod.fst ++ s.client.unanswered.map ControlCall.request) ∧
    s.client.queued ≤ s.client.unanswered.length

/-- Nothing is enabled that is, nor configured as it was; what is answered
is not about a configuration, and about the newest deletion or the newest
enable. -/
def Fits : ControlEvent → Prop
  | .enable _ session => s.client.Returns session → s.client.mEnabled = false
  | .gnssUpdateConfig config _ =>
    s.client.mLocationControlAPI.isSome → s.client.mConfig.equals config = false
  | .response session _ =>
    s.client.Due (.session session) →
      s.client.deletions.head? = some session ∨ s.client.controls.head? = some session
  | .collectiveResponse ids _ => ¬ s.client.Due (.array ids.ids)
  | _ => True

instance : ∀ e, Decidable (s.Fits e)
  | .enable .. | .gnssUpdateConfig .. => inferInstanceAs (Decidable (_ → _ = _))
  | .response .. => inferInstanceAs (Decidable (_ → _ ∨ _))
  | .collectiveResponse .. => inferInstanceAs (Decidable (¬ _))
  | .gnssDeleteAidingData .. | .disable | .gnssGetConfig .. => .isTrue trivial

end Controlled

end LocStack.ClientBase
