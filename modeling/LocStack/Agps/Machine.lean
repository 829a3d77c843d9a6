/-
# `LocStack.Agps.Machine` — the AGPS state machine and its manager

`Agps.cpp`, function by function.  An `AgpsStateMachine` owns one data
connection of the framework and shares it among *subscribers*, the
connection handles the modem has asked for.  It is driven by five events:

    event         comes from                      source
    subscribe     the modem opens a handle         AgpsManager::requestATL
    unsubscribe   the modem closes a handle        AgpsManager::releaseATL
    granted       the framework opened             AgpsManager::reportAtlOpenSuccess
    denied        the framework refused            AgpsManager::reportAtlOpenFailed
    released      the framework closed             AgpsManager::reportAtlClosed

and by `handleModemSSR`, which empties the subscriber list from outside the
event handlers.  What the machine says goes to two parties: open and close
statuses to the modem, REQUEST and RELEASE commands to the framework.  Every
function here returns the new machine and what it said, in order.

The subscriber list is a list of pointers, and `mCurrentSubscriber` points
into it while an unsubscribe is processed: the write to its `mIsInactive`
is a write to the list (`setInactive`).  The invalid members of the three
enumerations are never assigned and are left out, and with them the
`default` branches that only log.
-/
import LocStack.Base.Run

namespace LocStack.Agps

inductive AgpsState where
  | released | pending | acquired | releasing
  deriving DecidableEq

inductive AgpsEvent where
  | subscribe | unsubscribe | granted | released | denied

inductive AgpsNotificationType where
  | forAllSubscribers | forInactiveSubscribers | forActiveSubscribers

/-- `AGpsExtType`, a signed byte. -/
abbrev AGpsExtType := Int

def LOC_AGPS_TYPE_INVALID : AGpsExtType := -1
def LOC_AGPS_TYPE_SUPL : AGpsExtType := 1
def LOC_AGPS_TYPE_WWAN_ANY : AGpsExtType := 3
def LOC_AGPS_TYPE_SUPL_ES : AGpsExtType := 5

abbrev AGpsBearerType := Int

def AGPS_APN_BEARER_INVALID : AGpsBearerType := 0

abbrev LocApnTypeMask := BitVec 32

def LOC_APN_TYPE_MASK_SUPL : LocApnTypeMask := 0x00000010
def LOC_APN_TYPE_MASK_EMERGENCY : LocApnTypeMask := 0x00000200

def MAX_APN_LEN : Nat := 100

/-- The bytes of a C string, the terminator not among them. -/
abbrev CString := List UInt8

/-- `AgpsSubscriber`: one AGPS request of the modem. -/
structure AgpsSubscriber where
  mConnHandle : Int
  /-- The subscriber waits for the data call to close before it is notified;
  while it waits it is inactive. -/
  mWaitForCloseComplete : Bool
  mIsInactive : Bool
  mApnTypeMask : LocApnTypeMask
  deriving DecidableEq

def AgpsSubscriber.equals (a b : AgpsSubscriber) : Bool :=
  a.mConnHandle == b.mConnHandle

/-- Which subscribers a notification type is for. -/
def AgpsNotificationType.isFor (notificationType : AgpsNotificationType)
    (subscriber : AgpsSubscriber) : Bool :=
  match notificationType with
  | .forAllSubscribers => true
  | .forInactiveSubscribers => subscriber.mIsInactive
  | .forActiveSubscribers => !subscriber.mIsInactive

/-- The command in an `AGnssExtStatusIpV4`. -/
inductive LocAGpsStatusValue where
  | requestAgpsDataConn | releaseAgpsDataConn
  deriving DecidableEq

/-- `AGnssExtStatusIpV4`; the address is always zero here. -/
structure AGnssExtStatusIpV4 where
  type : AGpsExtType
  apnTypeMask : LocApnTypeMask
  status : LocAGpsStatusValue

/-- What a state machine says: `mAtlOpenStatusCb` and `mAtlCloseStatusCb`
to the modem, `mFrameworkStatusV4Cb` to the framework. -/
inductive AgpsOut where
  | atlOpenStatus (handle : Int) (isSuccess : Bool) (apn : Option CString)
      (apnLen : Nat) (bearerType : AGpsBearerType) (agpsType : AGpsExtType)
      (mask : LocApnTypeMask)
  | atlCloseStatus (handle : Int) (isSuccess : Bool)
  | frameworkStatusV4 (status : AGnssExtStatusIpV4)

structure AgpsStateMachine where
  mSubscriberList : List AgpsSubscriber
  mState : AgpsState
  mAgpsType : AGpsExtType
  mApnTypeMask : LocApnTypeMask
  mAPN : Option CString
  mAPNLen : Nat
  mBearer : AGpsBearerType
  deriving DecidableEq

namespace AgpsStateMachine

/-- The constructor.  It leaves `mApnTypeMask` unset; `requestATL` sets it
before anything reads it, so the value here is immaterial. -/
def new (agpsType : AGpsExtType) : AgpsStateMachine where
  mSubscriberList := []
  mState := .released
  mAgpsType := agpsType
  mApnTypeMask := 0
  mAPN := none
  mAPNLen := 0
  mBearer := AGPS_APN_BEARER_INVALID

/-- `AgpsStateMachine::setAPN`; `len` arrives as an unsigned int. -/
def setAPN (sm : AgpsStateMachine) (apn : Option CString) (len : Nat) : AgpsStateMachine :=
  match apn with
  | none => { sm with mAPN := none, mAPNLen := 0 }
  | some a =>
    if len > MAX_APN_LEN ∨ a.length ≠ len then { sm with mAPN := none, mAPNLen := 0 }
    else { sm with mAPN := some a, mAPNLen := len }

def getSubscriber (sm : AgpsStateMachine) (connHandle : Int) : Option AgpsSubscriber :=
  sm.mSubscriberList.find? (fun s => s.mConnHandle == connHandle)

def anyActiveSubscribers (sm : AgpsStateMachine) : Bool :=
  sm.mSubscriberList.any (fun s => !s.mIsInactive)

def transitionState (sm : AgpsStateMachine) (newState : AgpsState) : AgpsStateMachine :=
  { sm with mState := newState }

/-- `AgpsStateMachine::addSubscriber`: a clone goes to the back of the list,
unless a subscriber with that handle is there already. -/
def addSubscriber (sm : AgpsStateMachine) (subscriberToAdd : AgpsSubscriber) :
    AgpsStateMachine :=
  if sm.mSubscriberList.any (fun s => s.equals subscriberToAdd) then sm
  else { sm with mSubscriberList := sm.mSubscriberList ++ [subscriberToAdd] }

def deleteSubscriber (sm : AgpsStateMachine) (subscriberToDelete : AgpsSubscriber) :
    AgpsStateMachine :=
  { sm with mSubscriberList :=
      sm.mSubscriberList.filter (fun s => !s.equals subscriberToDelete) }

def dropAllSubscribers (sm : AgpsStateMachine) : AgpsStateMachine :=
  { sm with mSubscriberList := [] }

/-- Mark the first subscriber with this handle inactive. -/
def markInactive (connHandle : Int) : List AgpsSubscriber → List AgpsSubscriber
  | [] => []
  | s :: rest =>
    if s.mConnHandle == connHandle then { s with mIsInactive := true } :: rest
    else s :: markInactive connHandle rest

/-- `mCurrentSubscriber->mIsInactive = true`, where `mCurrentSubscriber` is
the pointer `getSubscriber` returned: the first in the list with its handle. -/
def setInactive (sm : AgpsStateMachine) (current : AgpsSubscriber) : AgpsStateMachine :=
  { sm with mSubscriberList := markInactive current.mConnHandle sm.mSubscriberList }

def requestOrReleaseDataConn (sm : AgpsStateMachine) (request : Bool) : List AgpsOut :=
  [.frameworkStatusV4
    { type := sm.mAgpsType
      apnTypeMask := sm.mApnTypeMask
      status := if request then .requestAgpsDataConn else .releaseAgpsDataConn }]

/-- The switch of `AgpsStateMachine::notifyEventToSubscriber`: the status one
subscriber is sent for an event. -/
def statusFor (sm : AgpsStateMachine) (event : AgpsEvent) (subscriberToNotify : AgpsSubscriber) :
    List AgpsOut :=
  match event with
  | .granted =>
    [.atlOpenStatus subscriberToNotify.mConnHandle true sm.mAPN sm.mAPNLen sm.mBearer
      sm.mAgpsType sm.mApnTypeMask]
  | .denied =>
    [.atlOpenStatus subscriberToNotify.mConnHandle false sm.mAPN sm.mAPNLen sm.mBearer
      sm.mAgpsType sm.mApnTypeMask]
  | .unsubscribe | .released => [.atlCloseStatus subscriberToNotify.mConnHandle true]
  | .subscribe => []

def notifyEventToSubscriber (sm : AgpsStateMachine) (event : AgpsEvent)
    (subscriberToNotify : AgpsSubscriber) (deleteSubscriberPostNotify : Bool) :
    AgpsStateMachine × List AgpsOut :=
  (if deleteSubscriberPostNotify then sm.deleteSubscriber subscriberToNotify else sm,
    sm.statusFor event subscriberToNotify)

/-- The loop of `AgpsStateMachine::notifyAllSubscribers`: what is left of
the list behind the iterator, and what was said while walking it. -/
def notifyLoop (sm : AgpsStateMachine) (event : AgpsEvent) (deleteSubscriberPostNotify : Bool)
    (notificationType : AgpsNotificationType) :
    List AgpsSubscriber → List AgpsSubscriber × List AgpsOut
  | [] => ([], [])
  | subscriber :: rest =>
    let (rest', out) := notifyLoop sm event deleteSubscriberPostNotify notificationType rest
    if notificationType.isFor subscriber then
      (if deleteSubscriberPostNotify then rest' else subscriber :: rest',
        (sm.notifyEventToSubscriber event subscriber false).2 ++ out)
    else (subscriber :: rest', out)

def notifyAllSubscribers (sm : AgpsStateMachine) (event : AgpsEvent)
    (deleteSubscriberPostNotify : Bool) (notificationType : AgpsNotificationType) :
    AgpsStateMachine × List AgpsOut :=
  let (list, out) :=
    sm.notifyLoop event deleteSubscriberPostNotify notificationType sm.mSubscriberList
  ({ sm with mSubscriberList := list }, out)

def processAgpsEventSubscribe (sm : AgpsStateMachine) (current : AgpsSubscriber) :
    AgpsStateMachine × List AgpsOut :=
  match sm.mState with
  | .released =>
    let sm := sm.addSubscriber current
    (sm.transitionState .pending, sm.requestOrReleaseDataConn true)
  | .pending => (sm.addSubscriber current, [])
  | .acquired =>
    let (sm, out) := sm.notifyEventToSubscriber .granted current false
    (sm.addSubscriber current, out)
  | .releasing => (sm.addSubscriber current, [])

/-- The part `processAgpsEventUnsubscribe` repeats in three states: a
subscriber that waits for the close goes inactive, any other is notified and
deleted. -/
def unsubscribeCurrent (sm : AgpsStateMachine) (current : AgpsSubscriber) :
    AgpsStateMachine × List AgpsOut :=
  if current.mWaitForCloseComplete then (sm.setInactive current, [])
  else sm.notifyEventToSubscriber .unsubscribe current true

def processAgpsEventUnsubscribe (sm : AgpsStateMachine) (current : AgpsSubscriber) :
    AgpsStateMachine × List AgpsOut :=
  match sm.mState with
  | .released => sm.notifyEventToSubscriber .unsubscribe current false
  | .pending | .acquired =>
    let (sm, out) := sm.unsubscribeCurrent current
    if sm.mSubscriberList.isEmpty then
      (sm.transitionState .released, out ++ sm.requestOrReleaseDataConn false)
    else if !sm.anyActiveSubscribers then
      (sm.transitionState .releasing, out ++ sm.requestOrReleaseDataConn false)
    else (sm, out)
  | .releasing =>
    -- the data connection has been released already, only the state moves
    let (sm, out) := sm.unsubscribeCurrent current
    if sm.mSubscriberList.isEmpty then (sm.transitionState .released, out) else (sm, out)

def processAgpsEventGranted (sm : AgpsStateMachine) : AgpsStateMachine × List AgpsOut :=
  match sm.mState with
  | .released | .acquired | .releasing => (sm, [])
  | .pending =>
    (sm.transitionState .acquired).notifyAllSubscribers .granted false .forActiveSubscribers

/-- What `processAgpsEventReleased` and `processAgpsEventDenied` both do in
the releasing state: the inactive subscribers are told and dropped; the
active ones that came in meanwhile need a connection of their own. -/
def finishReleasing (sm : AgpsStateMachine) : AgpsStateMachine × List AgpsOut :=
  let (sm, out) := sm.notifyAllSubscribers .released true .forInactiveSubscribers
  if sm.anyActiveSubscribers then
    (sm.transitionState .pending, out ++ sm.requestOrReleaseDataConn true)
  else (sm.transitionState .released, out)

def processAgpsEventReleased (sm : AgpsStateMachine) : AgpsStateMachine × List AgpsOut :=
  match sm.mState with
  | .released => (sm, [])
  | .acquired =>
    -- a forced release: every subscriber is told and dropped
    (sm.transitionState .released).notifyAllSubscribers .released true .forAllSubscribers
  | .releasing => sm.finishReleasing
  | .pending => (sm, [])

def processAgpsEventDenied (sm : AgpsStateMachine) : AgpsStateMachine × List AgpsOut :=
  match sm.mState with
  | .released => (sm, [])
  | .acquired => (sm, [])
  | .releasing => sm.finishReleasing
  | .pending =>
    (sm.transitionState .released).notifyAllSubscribers .denied true .forAllSubscribers

/-- `AgpsStateMachine::processAgpsEvent`; `current` is `mCurrentSubscriber`. -/
def processAgpsEvent (sm : AgpsStateMachine) (event : AgpsEvent) (current : AgpsSubscriber) :
    AgpsStateMachine × List AgpsOut :=
  match event with
  | .subscribe => sm.processAgpsEventSubscribe current
  | .unsubscribe => sm.processAgpsEventUnsubscribe current
  | .granted => sm.processAgpsEventGranted
  | .released => sm.processAgpsEventReleased
  | .denied => sm.processAgpsEventDenied

end AgpsStateMachine

/-! ## The events of one machine

What the manager's calls do to the machine they are routed to. -/

/-- One event of a machine, with the data its caller hands in. -/
inductive SmEvent where
  | subscribe (connHandle : Int) (agpsType : AGpsExtType) (apnTypeMask : LocApnTypeMask)
  | unsubscribe (connHandle : Int)
  | granted (apn : Option CString) (apnLen : Nat) (bearerType : AGpsBearerType)
  | released | denied | modemSSR
  deriving DecidableEq

namespace AgpsStateMachine

/-- The subscriber `requestATL` builds: active, and waiting for the close to
complete once it is released. -/
def newSubscriber (connHandle : Int) (apnTypeMask : LocApnTypeMask) : AgpsSubscriber where
  mConnHandle := connHandle
  mWaitForCloseComplete := true
  mIsInactive := false
  mApnTypeMask := apnTypeMask

/-- The tail of `AgpsManager::requestATL`. -/
def subscribe (sm : AgpsStateMachine) (connHandle : Int) (agpsType : AGpsExtType)
    (apnTypeMask : LocApnTypeMask) : AgpsStateMachine × List AgpsOut :=
  let sm := { sm with mAgpsType := agpsType, mApnTypeMask := apnTypeMask }
  sm.processAgpsEventSubscribe (newSubscriber connHandle apnTypeMask)

/-- The tail of `AgpsManager::releaseATL`, which sends no event to a machine
that does not know the handle. -/
def unsubscribe (sm : AgpsStateMachine) (connHandle : Int) :
    AgpsStateMachine × List AgpsOut :=
  match sm.getSubscriber connHandle with
  | none => (sm, [])
  | some subscriber => sm.processAgpsEventUnsubscribe subscriber

/-- The tail of `AgpsManager::reportAtlOpenSuccess`. -/
def grant (sm : AgpsStateMachine) (apn : Option CString) (apnLen : Nat)
    (bearerType : AGpsBearerType) : AgpsStateMachine × List AgpsOut :=
  ({ sm with mBearer := bearerType }.setAPN apn apnLen).processAgpsEventGranted

/-- One event of one machine. -/
def step (sm : AgpsStateMachine) : SmEvent → AgpsStateMachine × List AgpsOut
  | .subscribe connHandle agpsType apnTypeMask => sm.subscribe connHandle agpsType apnTypeMask
  | .unsubscribe connHandle => sm.unsubscribe connHandle
  | .granted apn apnLen bearerType => sm.grant apn apnLen bearerType
  | .released => sm.processAgpsEventReleased
  | .denied => sm.processAgpsEventDenied
  | .modemSSR => (sm.dropAllSubscribers, [])

end AgpsStateMachine

/-! ## The manager -/

def AGPS_ATL_TYPE_SUPL : BitVec 32 := 0x00000001
def AGPS_ATL_TYPE_SUPL_ES : BitVec 32 := 0x00000002
def AGPS_ATL_TYPE_WWAN : BitVec 32 := 0x00000004

def LOC_GPS_CAPABILITY_MSB : BitVec 32 := 0x00000002
def LOC_GPS_CAPABILITY_MSA : BitVec 32 := 0x00000004

/-- The two members of `ContextBase::mGps_conf` the manager reads. -/
structure GpsConf where
  (CAPABILITIES USE_EMERGENCY_PDN_FOR_EMERGENCY_SUPL : BitVec 32)

/-- The machines of a manager: `mAgnssNif` and `mInternetNif`. -/
inductive Nif where
  | agnss | internet
  deriving DecidableEq

structure AgpsManager where
  mGpsConf : GpsConf
  (mAgnssNif mInternetNif : Option AgpsStateMachine)

/-- What the manager says, and through which machine: the one status it
sends of its own, when there is no machine, has no `nif`. -/
structure ManagerOut where
  nif : Option Nif
  out : AgpsOut

/-- The calls of a manager. -/
inductive AgpsCall where
  | createAgpsStateMachines (atlType : BitVec 32)
  | requestATL (connHandle : Int) (agpsType : AGpsExtType) (apnTypeMask : LocApnTypeMask)
  | releaseATL (connHandle : Int)
  | reportAtlOpenSuccess (agpsType : AGpsExtType) (apnName : Option CString) (apnLen : Nat)
      (bearerType : AGpsBearerType)
  | reportAtlOpenFailed (agpsType : AGpsExtType)
  | reportAtlClosed (agpsType : AGpsExtType)
  | handleModemSSR

namespace AgpsManager

def new (conf : GpsConf) : AgpsManager where
  mGpsConf := conf
  mAgnssNif := none
  mInternetNif := none

/-- The machine behind a name. -/
def machine (m : AgpsManager) : Nif → Option AgpsStateMachine
  | .agnss => m.mAgnssNif
  | .internet => m.mInternetNif

def setMachine (m : AgpsManager) (nif : Nif) (sm : AgpsStateMachine) : AgpsManager :=
  match nif with
  | .agnss => { m with mAgnssNif := some sm }
  | .internet => { m with mInternetNif := some sm }

/-- The switch of `AgpsManager::getAgpsStateMachine`. -/
def nifFor (agpsType : AGpsExtType) : Nif :=
  if agpsType = LOC_AGPS_TYPE_INVALID ∨ agpsType = LOC_AGPS_TYPE_SUPL ∨
      agpsType = LOC_AGPS_TYPE_SUPL_ES then .agnss
  else .internet

def createAgpsStateMachines (m : AgpsManager) (atlType : BitVec 32) : AgpsManager :=
  let agpsCapable :=
    m.mGpsConf.CAPABILITIES &&& LOC_GPS_CAPABILITY_MSA ≠ 0 ∨
      m.mGpsConf.CAPABILITIES &&& LOC_GPS_CAPABILITY_MSB ≠ 0
  let m :=
    if m.mInternetNif.isNone ∧ atlType &&& AGPS_ATL_TYPE_WWAN ≠ 0 then
      { m with mInternetNif := some (.new LOC_AGPS_TYPE_WWAN_ANY) }
    else m
  if agpsCapable ∧ m.mAgnssNif.isNone ∧ atlType &&& AGPS_ATL_TYPE_SUPL ≠ 0 ∧
      atlType &&& AGPS_ATL_TYPE_SUPL_ES ≠ 0 then
    { m with mAgnssNif := some (.new LOC_AGPS_TYPE_SUPL) }
  else m

/-- One event for one machine; a machine that does not exist processes
nothing. -/
def dispatch (m : AgpsManager) (nif : Nif) (event : SmEvent) :
    AgpsManager × List ManagerOut :=
  match m.machine nif with
  | none => (m, [])
  | some sm =>
    let (sm, out) := sm.step event
    (m.setMachine nif sm, out.map fun o => { nif := some nif, out := o })

/-- The type and mask a request is made with: an emergency request without
an emergency PDN is an ordinary SUPL request. -/
def requestType (m : AgpsManager) (agpsType : AGpsExtType) (apnTypeMask : LocApnTypeMask) :
    AGpsExtType × LocApnTypeMask :=
  if m.mGpsConf.USE_EMERGENCY_PDN_FOR_EMERGENCY_SUPL = 0 ∧ agpsType = LOC_AGPS_TYPE_SUPL_ES then
    (LOC_AGPS_TYPE_SUPL,
      (apnTypeMask &&& ~~~LOC_APN_TYPE_MASK_EMERGENCY) ||| LOC_APN_TYPE_MASK_SUPL)
  else (agpsType, apnTypeMask)

def requestATL (m : AgpsManager) (connHandle : Int) (agpsType : AGpsExtType)
    (apnTypeMask : LocApnTypeMask) : AgpsManager × List ManagerOut :=
  let (agpsType, apnTypeMask) := m.requestType agpsType apnTypeMask
  match m.machine (nifFor agpsType) with
  | none =>
    (m, [{ nif := none
           out := .atlOpenStatus connHandle false none 0 AGPS_APN_BEARER_INVALID agpsType
            apnTypeMask }])
  | some _ => m.dispatch (nifFor agpsType) (.subscribe connHandle agpsType apnTypeMask)

/-- `AgpsManager::releaseATL`: the first machine that knows the handle. -/
def releaseATL (m : AgpsManager) (connHandle : Int) : AgpsManager × List ManagerOut :=
  if (m.mAgnssNif.bind (·.getSubscriber connHandle)).isSome then
    m.dispatch .agnss (.unsubscribe connHandle)
  else if (m.mInternetNif.bind (·.getSubscriber connHandle)).isSome then
    m.dispatch .internet (.unsubscribe connHandle)
  else (m, [])

def handleModemSSR (m : AgpsManager) : AgpsManager × List ManagerOut :=
  let (m, out) := m.dispatch .agnss .modemSSR
  let (m, out') := m.dispatch .internet .modemSSR
  (m, out ++ out')

/-- One call.  The three reports dereference the machine without a check, so
a report for a type without one is no run of the source; here it is a call
without effect. -/
def step (m : AgpsManager) : AgpsCall → AgpsManager × List ManagerOut
  | .createAgpsStateMachines atlType => (m.createAgpsStateMachines atlType, [])
  | .requestATL connHandle agpsType apnTypeMask => m.requestATL connHandle agpsType apnTypeMask
  | .releaseATL connHandle => m.releaseATL connHandle
  | .reportAtlOpenSuccess agpsType apnName apnLen bearerType =>
    m.dispatch (nifFor agpsType) (.granted apnName apnLen bearerType)
  | .reportAtlOpenFailed agpsType => m.dispatch (nifFor agpsType) .denied
  | .reportAtlClosed agpsType => m.dispatch (nifFor agpsType) .released
  | .handleModemSSR => m.handleModemSSR

end AgpsManager

end LocStack.Agps
