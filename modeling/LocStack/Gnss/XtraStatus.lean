/-
# `LocStack.Gnss.XtraStatus` — what the XTRA daemon knows of the system

XtraSystemStatusObserver keeps the lock, the connections, the TAC, the
MCC-MNC and the throttle, and tells the XTRA daemon about them in two ways:

    an update     the item alone, once the daemon has asked for the first time
    the answer    respondStatus: the lock, the connections, the network
                  handles, TAC and MCC-MNC, in one message

and the DGNSS source by the text that started it, which is sent again with
every answer.  A daemon that restarts knows nothing, and messages to it are
lost until it has asked (`XtraDaemon`); an answer may also be taken by a
daemon that asked after the request it answers.  What was given to the
observer is kept beside it (`XtraItems`).

`xtra_iff`: from its answer on the daemon holds every item that was given,
and the source that runs, if and only if

* a TAC or an MCC-MNC that is set while it has been answered has no NUL;
* when an answer comes, the throttle is one that was never set or that it has
  been told before, for the answer leaves it out; and so are connections that
  are all ones, which stand for none.
-/
import LocStack.Core.NetworkInfo
import LocStack.Tracking.Ntrip

namespace LocStack.Gnss

open Base
open LocStack.Core (NetworkHandles NetworkInfoType)
open Tracking (StartDgnssNtripParams)

/-! ## The messages -/

/-- `const char*` of a string: it ends at the first NUL. -/
def c_str (s : String) : String := String.ofList (s.toList.takeWhile fun c => c ≠ Char.ofNat 0)

def endl : String := "\n"

def handleText (h : NetworkInfoType) : String :=
  toString h.networkHandle.toNat ++ ":" ++ toString (h.networkType % 4294967296)

structure RespondStatus where
  /-- an empty line for -1 -/
  gpsLock : Option Int32
  /-- an empty line for all ones -/
  connections : Option (BitVec 64)
  networkHandle : NetworkHandles
  (tac mccmnc : String)
  isConnectivityStatusKnown : Bool

/-- A message to the XTRA daemon. -/
inductive XtraMsg where
  | gpslock (gpsLock : Int32)
  | connection (connections : BitVec 64) (networkHandle : NetworkHandles)
  | tac (tac : String)
  | mncmcc (mccmnc : String)
  | xtrathrottle (enabled : Bool)
  | respondStatus (status : RespondStatus)
  /-- the text that starts the DGNSS source -/
  | startDgnssSource (text : String)
  | stopDgnssSource

/-- What is sent. -/
def XtraMsg.text : XtraMsg → String
  | .gpslock gpsLock => "gpslock " ++ toString gpsLock.toInt
  | .connection connections networkHandle =>
    endl.intercalate ("connection" :: toString connections.toNat ::
      networkHandle.slots.map handleText)
  | .tac value => "tac " ++ value
  | .mncmcc value => "mncmcc " ++ value
  | .xtrathrottle enabled => "xtrathrottle " ++ if enabled then "1" else "0"
  | .respondStatus status =>
    endl.intercalate ("respondStatus" ::
      (status.gpsLock.elim "" fun gpsLock => toString gpsLock.toInt) ::
      (status.connections.elim "" fun connections => toString connections.toNat) ::
      status.networkHandle.slots.map handleText ++
      [status.tac, status.mccmnc, if status.isConnectivityStatusKnown then "1" else "0"])
  | .startDgnssSource text => text
  | .stopDgnssSource => "stopDgnssSource"

/-- The text of startDgnssSource. -/
def ntripText (params : StartDgnssNtripParams) : String :=
  "startDgnssSource" ++ endl ++ (if params.ntripParams.useSSL then "1" else "0") ++ endl ++
    c_str params.ntripParams.hostNameOrIp ++ endl ++
    toString params.ntripParams.port.toNat ++ endl ++
    c_str params.ntripParams.mountPoint ++ endl ++
    c_str params.ntripParams.username ++ endl ++
    c_str params.ntripParams.password ++ endl ++
    if params.ntripParams.requiresNmeaLocation && !params.nmea.isEmpty then
      c_str params.nmea ++ endl
    else ""

/-! ## The observer -/

structure XtraSystemStatusObserver where
  mGpsLock : Int32
  mConnections : BitVec 64
  mNetworkHandle : NetworkHandles
  (mTac mMccmnc : String)
  (mXtraThrottle mReqStatusReceived mIsConnectivityStatusKnown : Bool)
  mNtripParamsString : String

namespace XtraSystemStatusObserver

def GNSS_CONFIG_GPS_LOCK_NI : Int32 := 2

/-- For XTRA a lock is the lock of MO. -/
def withoutNi (lock : Int32) : Int32 := lock &&& ~~~GNSS_CONFIG_GPS_LOCK_NI

variable (s : XtraSystemStatusObserver)

def init : XtraSystemStatusObserver where
  mGpsLock := -1
  mConnections := ~~~0#64
  mNetworkHandle := ⟨List.replicate 10 .unknown, rfl⟩
  mTac := ""
  mMccmnc := ""
  mXtraThrottle := true
  mReqStatusReceived := false
  mIsConnectivityStatusKnown := false
  mNtripParamsString := ""

/-- Nothing is sent to a daemon that has never asked. -/
def told (msg : XtraMsg) : List XtraMsg := if s.mReqStatusReceived then [msg] else []

def updateLockStatus (lock : Int32) : XtraSystemStatusObserver × List XtraMsg :=
  let mGpsLock := withoutNi lock
  ({ s with mGpsLock := mGpsLock }, s.told (.gpslock mGpsLock))

def updateConnections (allConnections : BitVec 64) (networkHandleInfo : NetworkHandles) :
    XtraSystemStatusObserver × List XtraMsg :=
  ({ s with
    mIsConnectivityStatusKnown := true
    mConnections := allConnections
    mNetworkHandle := networkHandleInfo },
    s.told (.connection allConnections networkHandleInfo))

def updateTac (tac : String) : XtraSystemStatusObserver × List XtraMsg :=
  ({ s with mTac := tac }, s.told (.tac (c_str tac)))

def updateMccMnc (mccmnc : String) : XtraSystemStatusObserver × List XtraMsg :=
  ({ s with mMccmnc := mccmnc }, s.told (.mncmcc (c_str mccmnc)))

def updateXtraThrottle (enabled : Bool) : XtraSystemStatusObserver × List XtraMsg :=
  ({ s with mXtraThrottle := enabled }, s.told (.xtrathrottle enabled))

def respondStatus : RespondStatus where
  gpsLock := if s.mGpsLock = -1 then none else some s.mGpsLock
  connections := if s.mConnections = ~~~0#64 then none else some s.mConnections
  networkHandle := s.mNetworkHandle
  tac := s.mTac
  mccmnc := s.mMccmnc
  isConnectivityStatusKnown := s.mIsConnectivityStatusKnown

def onStatusRequested (xtraStatusUpdated : Bool) : XtraSystemStatusObserver × List XtraMsg :=
  ({ s with mReqStatusReceived := true },
    if xtraStatusUpdated then [] else [.respondStatus s.respondStatus])

def startDgnssSource (params : StartDgnssNtripParams) :
    XtraSystemStatusObserver × List XtraMsg :=
  let text := ntripText params
  ({ s with mNtripParamsString := text }, [.startDgnssSource text])

def restartDgnssSource : List XtraMsg :=
  if s.mNtripParamsString.isEmpty then [] else [.startDgnssSource s.mNtripParamsString]

def stopDgnssSource : XtraSystemStatusObserver × List XtraMsg :=
  ({ s with mNtripParamsString := "" }, [.stopDgnssSource])

/-- `HandleStatusRequestMsg::proc` -/
def handleStatusRequest (xtraStatusUpdated : Bool) : XtraSystemStatusObserver × List XtraMsg :=
  let r := s.onStatusRequested xtraStatusUpdated
  (r.1, r.2 ++ r.1.restartDgnssSource)

end XtraSystemStatusObserver

/-! ## The daemon -/

/-- The items, as far as they are known. -/
structure XtraItems where
  gpsLock : Option Int32
  connections : Option (BitVec 64 × NetworkHandles)
  (tac mccmnc : Option String)
  throttle : Option Bool

def XtraItems.none : XtraItems := ⟨.none, .none, .none, .none, .none⟩

/-- The daemon that runs: whether it has asked, and has had a full answer;
what it has been told. -/
structure XtraDaemon where
  (asked answered : Bool)
  items : XtraItems
  source : Option String

namespace XtraDaemon

def start : XtraDaemon := ⟨false, false, .none, none⟩

/-- A message is read; an empty line says nothing. -/
def read (d : XtraDaemon) : XtraMsg → XtraDaemon
  | .gpslock gpsLock => { d with items.gpsLock := some gpsLock }
  | .connection connections networkHandle =>
    { d with items.connections := some (connections, networkHandle) }
  | .tac value => { d with items.tac := some value }
  | .mncmcc value => { d with items.mccmnc := some value }
  | .xtrathrottle enabled => { d with items.throttle := some enabled }
  | .respondStatus status =>
    { d with
      answered := true
      items :=
        { gpsLock := status.gpsLock.or d.items.gpsLock
          connections :=
            (status.connections.map fun c => (c, status.networkHandle)).or d.items.connections
          tac := some status.tac
          mccmnc := some status.mccmnc
          throttle := d.items.throttle } }
  | .startDgnssSource text => { d with source := some text }
  | .stopDgnssSource => { d with source := none }

/-- The messages arrive if the daemon has asked. -/
def deliver (d : XtraDaemon) (msgs : List XtraMsg) : XtraDaemon :=
  if d.asked then msgs.foldl read d else d

end XtraDaemon

/-! ## Both together -/

inductive XtraEvent where
  | updateLockStatus (lock : Int32)
  | updateConnections (allConnections : BitVec 64) (networkHandleInfo : NetworkHandles)
  | updateTac (tac : String)
  | updateMccMnc (mccmnc : String)
  | updateXtraThrottle (enabled : Bool)
  | startDgnssSource (params : StartDgnssNtripParams)
  | stopDgnssSource
  /-- The daemon sends requestStatus, with the mark only if it has had an answer. -/
  | request (xtraStatusUpdated : Bool)
  /-- The oldest request is taken. -/
  | handle
  | restart

/-- The observer and its queue of requests, the daemon; and what was given to
the observer. -/
structure XtraSys where
  observer : XtraSystemStatusObserver
  requests : List Bool
  daemon : XtraDaemon
  given : XtraItems
  source : Option StartDgnssNtripParams

namespace XtraSys

variable (s : XtraSys)

def init : XtraSys := ⟨.init, [], .start, .none, none⟩

/-- The observer is called, and what it sends is delivered. -/
def send (r : XtraSystemStatusObserver × List XtraMsg) : XtraSys :=
  { s with observer := r.1, daemon := s.daemon.deliver r.2 }

def step : XtraEvent → XtraSys × List XtraMsg
  | .updateLockStatus lock =>
    let r := s.observer.updateLockStatus lock
    ({ s.send r with given.gpsLock := some (XtraSystemStatusObserver.withoutNi lock) }, r.2)
  | .updateConnections allConnections networkHandleInfo =>
    let r := s.observer.updateConnections allConnections networkHandleInfo
    ({ s.send r with given.connections := some (allConnections, networkHandleInfo) }, r.2)
  | .updateTac tac =>
    let r := s.observer.updateTac tac
    ({ s.send r with given.tac := some tac }, r.2)
  | .updateMccMnc mccmnc =>
    let r := s.observer.updateMccMnc mccmnc
    ({ s.send r with given.mccmnc := some mccmnc }, r.2)
  | .updateXtraThrottle enabled =>
    let r := s.observer.updateXtraThrottle enabled
    ({ s.send r with given.throttle := some enabled }, r.2)
  | .startDgnssSource params =>
    let r := s.observer.startDgnssSource params
    ({ s.send r with source := some params }, r.2)
  | .stopDgnssSource =>
    let r := s.observer.stopDgnssSource
    ({ s.send r with source := none }, r.2)
  | .request xtraStatusUpdated =>
    if xtraStatusUpdated && !s.daemon.answered then (s, [])
    else
      ({ s with daemon.asked := true, requests := s.requests ++ [xtraStatusUpdated] }, [])
  | .handle =>
    match s.requests with
    | [] => (s, [])
    | xtraStatusUpdated :: requests =>
      let r := s.observer.handleStatusRequest xtraStatusUpdated
      ({ s with requests := requests }.send r, r.2)
  | .restart => ({ s with daemon := .start }, [])

/-! ## The contract -/

/-- An item that was given is held as it was given. -/
def Holds {β : Type} (given held : Option β) : Prop := ∀ v, given = some v → held = some v

/-- A daemon that has been answered holds what was given, and the source that
runs. -/
structure Synced (s : XtraSys) : Prop where
  gpsLock : Holds s.given.gpsLock s.daemon.items.gpsLock
  connections : Holds s.given.connections s.daemon.items.connections
  tac : Holds s.given.tac s.daemon.items.tac
  mccmnc : Holds s.given.mccmnc s.daemon.items.mccmnc
  throttle : Holds s.given.throttle s.daemon.items.throttle
  source : s.daemon.source = s.source.map ntripText

def Right (s : XtraSys) : Prop := s.daemon.answered = true → s.Synced

/-- What an answer leaves out is held before; and what is sent as a C string
is one. -/
def Fits (s : XtraSys) : XtraEvent → Prop
  | .updateTac tac => s.daemon.answered = true → c_str tac = tac
  | .updateMccMnc mccmnc => s.daemon.answered = true → c_str mccmnc = mccmnc
  | .handle =>
    s.requests.head? = some false → s.daemon.asked = true →
      Holds s.given.throttle s.daemon.items.throttle ∧
        ∀ networkHandleInfo, s.given.connections = some (~~~0#64, networkHandleInfo) →
          s.daemon.items.connections = some (~~~0#64, networkHandleInfo)
  | _ => True

/-! ## One step -/

section Steps

variable {s : XtraSys}

/-- The observer has what was given to it; a daemon that has been answered
has asked. -/
structure Inv (s : XtraSys) : Prop where
  answered : s.daemon.answered = true → s.daemon.asked = true ∧ s.observer.mReqStatusReceived = true
  gpsLock : ∀ v, s.given.gpsLock = some v → s.observer.mGpsLock = v ∧ v ≠ -1
  connections : ∀ v, s.given.connections = some v →
    (s.observer.mConnections, s.observer.mNetworkHandle) = v
  tac : ∀ v, s.given.tac = some v → s.observer.mTac = v
  mccmnc : ∀ v, s.given.mccmnc = some v → s.observer.mMccmnc = v
  source : s.observer.mNtripParamsString = (s.source.map ntripText).getD ""
  /-- No other source than the one that runs is known. -/
  known : s.daemon.source = none ∨ s.daemon.asked = true ∧ s.source.isSome

theorem holds_some {β : Type} {v : β} {held : Option β} :
    Holds (some v) held ↔ held = some v := by
  constructor
  · exact fun h => h v rfl
  · intro h w hw
    rw [h, hw]

theorem withoutNi_ne (lock : Int32) : XtraSystemStatusObserver.withoutNi lock ≠ -1 := by
  intro h
  have hbit := congrArg (fun x : Int32 => x.toBitVec.getLsbD 1) h
  simp [XtraSystemStatusObserver.withoutNi,
    XtraSystemStatusObserver.GNSS_CONFIG_GPS_LOCK_NI] at hbit

theorem ntripText_isEmpty (params : StartDgnssNtripParams) :
    (ntripText params).isEmpty = false := by
  rw [← Bool.not_eq_true, String.isEmpty_iff]
  intro h
  -- its equations are dear, for the texts are long
  delta ntripText at h
  simp only [String.append_assoc] at h
  have hstart := (String.append_eq_empty_iff.mp h).1
  exact absurd hstart (by decide)

theorem restartDgnssSource_eq (hinv : s.Inv) : s.observer.restartDgnssSource =
      (s.source.map fun params => XtraMsg.startDgnssSource (ntripText params)).toList := by
  unfold XtraSystemStatusObserver.restartDgnssSource
  rw [hinv.source]
  cases s.source with
  | none => rfl
  | some params =>
    show (if (ntripText params).isEmpty = true then _ else _) = _
    rw [ntripText_isEmpty]
    rfl

/-! ### What the daemon is told -/

theorem deliver_told (o : XtraSystemStatusObserver) (d : XtraDaemon) (msg : XtraMsg) :
    d.deliver (o.told msg) =
      if d.asked && o.mReqStatusReceived then d.read msg else d := by
  unfold XtraDaemon.deliver XtraSystemStatusObserver.told
  cases d.asked <;> cases o.mReqStatusReceived <;> rfl

theorem deliver_told_of_answered (hinv : s.Inv) (h : s.daemon.answered = true) (msg : XtraMsg) :
    s.daemon.deliver (s.observer.told msg) = s.daemon.read msg := by
  obtain ⟨hasked, hreceived⟩ := hinv.answered h
  rw [deliver_told, hasked, hreceived]
  rfl

theorem handle_daemon (hinv : s.Inv) (xtraStatusUpdated : Bool) :
    s.daemon.deliver (s.observer.handleStatusRequest xtraStatusUpdated).2 =
      if s.daemon.asked then
        { (if xtraStatusUpdated then s.daemon
            else s.daemon.read (.respondStatus s.observer.respondStatus)) with
          source := (s.source.map ntripText).or s.daemon.source }
      else s.daemon := by
  have hsource := restartDgnssSource_eq hinv
  simp only [XtraSystemStatusObserver.handleStatusRequest,
    XtraSystemStatusObserver.onStatusRequested]
  show XtraDaemon.deliver s.daemon (_ ++ s.observer.restartDgnssSource) = _
  rw [hsource, XtraDaemon.deliver]
  split
  · cases xtraStatusUpdated <;> cases s.source <;> rfl
  · rfl

theorem told_keeps (o : XtraSystemStatusObserver) (d : XtraDaemon) (msg : XtraMsg)
    (h : (d.read msg).asked = d.asked ∧ (d.read msg).answered = d.answered ∧
      (d.read msg).source = d.source) :
    (d.deliver (o.told msg)).asked = d.asked ∧ (d.deliver (o.told msg)).answered = d.answered ∧
      (d.deliver (o.told msg)).source = d.source := by
  rw [deliver_told]
  split
  · exact h
  · exact ⟨rfl, rfl, rfl⟩

/-! ### The other steps, in full -/

theorem step_start (params : StartDgnssNtripParams) : (s.step (.startDgnssSource params)).1 =
      { s with
        observer.mNtripParamsString := ntripText params
        daemon.source := if s.daemon.asked then some (ntripText params) else s.daemon.source
        source := some params } := by
  show { s.send _ with source := some params } = _
  unfold send XtraDaemon.deliver XtraSystemStatusObserver.startDgnssSource
  cases s.daemon.asked <;> rfl

theorem step_stop : (s.step .stopDgnssSource).1 = { s with
        observer.mNtripParamsString := ""
        daemon.source := if s.daemon.asked then none else s.daemon.source
        source := none } := by
  show { s.send _ with source := none } = _
  unfold send XtraDaemon.deliver XtraSystemStatusObserver.stopDgnssSource
  cases s.daemon.asked <;> rfl

variable {requests : List Bool} {o : XtraSystemStatusObserver} {given : XtraItems}

theorem step_handle {xtraStatusUpdated : Bool} (hinv : s.Inv)
    (hrequests : s.requests = xtraStatusUpdated :: requests) :
    (s.step .handle).1 = { s with
        observer.mReqStatusReceived := true
        requests := requests
        daemon :=
          if s.daemon.asked then
            { (if xtraStatusUpdated then s.daemon
                else s.daemon.read (.respondStatus s.observer.respondStatus)) with
              source := (s.source.map ntripText).or s.daemon.source }
          else s.daemon } := by
  rw [← handle_daemon hinv]
  show (match s.requests with | [] => _ | _ :: _ => _ : XtraSys × _).1 = _
  rw [hrequests]
  rfl

/-! ### What every step keeps -/

theorem inv_told (hinv : s.Inv) (msg : XtraMsg)
    (hkeeps : (s.daemon.read msg).asked = s.daemon.asked ∧
      (s.daemon.read msg).answered = s.daemon.answered ∧
      (s.daemon.read msg).source = s.daemon.source)
    (hreceived : o.mReqStatusReceived = s.observer.mReqStatusReceived)
    (hsource : o.mNtripParamsString = s.observer.mNtripParamsString)
    (gpsLock : ∀ v, given.gpsLock = some v → o.mGpsLock = v ∧ v ≠ -1)
    (connections : ∀ v, given.connections = some v → (o.mConnections, o.mNetworkHandle) = v)
    (tac : ∀ v, given.tac = some v → o.mTac = v)
    (mccmnc : ∀ v, given.mccmnc = some v → o.mMccmnc = v) :
    Inv { s with
      observer := o
      daemon := s.daemon.deliver (s.observer.told msg)
      given := given } := by
  obtain ⟨hasked, hanswered, hknown⟩ := told_keeps s.observer s.daemon msg hkeeps
  refine ⟨fun h => ?_, gpsLock, connections, tac, mccmnc, hsource.trans hinv.source, ?_⟩
  · rw [hasked, hreceived]
    exact hinv.answered (hanswered ▸ h)
  · rw [hasked, hknown]
    exact hinv.known

theorem inv_step (hinv : s.Inv) (e : XtraEvent) : Inv (s.step e).1 := by
  have ⟨hanswered, hgpsLock, hconnections, htac, hmccmnc, hsource, hknown⟩ := hinv
  cases e with
  | updateLockStatus lock =>
    refine inv_told hinv (.gpslock _) ⟨rfl, rfl, rfl⟩ rfl rfl ?_ hconnections htac hmccmnc
    rintro v ⟨⟩
    exact ⟨rfl, withoutNi_ne lock⟩
  | updateConnections allConnections networkHandleInfo =>
    refine inv_told hinv (.connection _ _) ⟨rfl, rfl, rfl⟩ rfl rfl hgpsLock ?_ htac hmccmnc
    rintro v ⟨⟩
    rfl
  | updateTac tac =>
    refine inv_told hinv (.tac _) ⟨rfl, rfl, rfl⟩ rfl rfl hgpsLock hconnections ?_ hmccmnc
    rintro v ⟨⟩
    rfl
  | updateMccMnc mccmnc =>
    refine inv_told hinv (.mncmcc _) ⟨rfl, rfl, rfl⟩ rfl rfl hgpsLock hconnections htac ?_
    rintro v ⟨⟩
    rfl
  | updateXtraThrottle enabled =>
    exact inv_told hinv (.xtrathrottle _) ⟨rfl, rfl, rfl⟩ rfl rfl hgpsLock hconnections htac hmccmnc
  | startDgnssSource params =>
    rw [step_start]
    refine ⟨hanswered, hgpsLock, hconnections, htac, hmccmnc, rfl, ?_⟩
    rcases Bool.eq_false_or_eq_true s.daemon.asked with h | h
    · exact .inr ⟨h, rfl⟩
    · rcases hknown with hnone | ⟨hasked, -⟩
      · exact .inl (by rw [h]; exact hnone)
      · exact absurd (h.symm.trans hasked) Bool.false_ne_true
  | stopDgnssSource =>
    rw [step_stop]
    refine ⟨hanswered, hgpsLock, hconnections, htac, hmccmnc, rfl, .inl ?_⟩
    show (if s.daemon.asked = true then none else s.daemon.source) = none
    split
    · rfl
    · next h => exact hknown.resolve_right fun hasked => h hasked.1
  | request xtraStatusUpdated =>
    show Inv (if _ then (s, []) else _).1
    split
    · exact hinv
    · refine ⟨fun h => ⟨rfl, (hanswered h).2⟩, hgpsLock, hconnections, htac, hmccmnc, hsource, ?_⟩
      exact hknown.imp_right fun h => ⟨rfl, h.2⟩
  | handle =>
    cases hrequests : s.requests with
    | nil =>
      show Inv (match s.requests with | [] => _ | _ :: _ => _ : XtraSys × _).1
      rw [hrequests]
      exact hinv
    | cons xtraStatusUpdated requests =>
      rw [step_handle hinv hrequests]
      refine ⟨fun h => ⟨?_, rfl⟩, hgpsLock, hconnections, htac, hmccmnc, hsource, ?_⟩
      · show (if s.daemon.asked = true then _ else s.daemon).asked = true
        split
        · next hasked => cases xtraStatusUpdated <;> exact hasked
        · next hasked =>
            rw [if_neg hasked] at h
            exact (hanswered h).1
      · show (if s.daemon.asked = true then _ else s.daemon).source = none ∨
          (if s.daemon.asked = true then _ else s.daemon).asked = true ∧ _
        split
        · next hasked =>
            cases hs : s.source with
            | some params => exact .inr ⟨by cases xtraStatusUpdated <;> exact hasked, rfl⟩
            | none =>
              rcases hknown with hnone | ⟨-, hsome⟩
              · exact .inl hnone
              · rw [hs] at hsome
                cases hsome
        · exact hknown
  | restart =>
    refine ⟨fun h => ?_, hgpsLock, hconnections, htac, hmccmnc, hsource, .inl rfl⟩
    cases h

/-! ### What a step does to the daemon's copy -/

theorem right_told (hinv : s.Inv) (msg : XtraMsg)
    (hkeeps : (s.daemon.read msg).asked = s.daemon.asked ∧
      (s.daemon.read msg).answered = s.daemon.answered ∧
      (s.daemon.read msg).source = s.daemon.source) :
    Right { s with
        observer := o
        daemon := s.daemon.deliver (s.observer.told msg)
        given := given } ↔
      (s.daemon.answered = true →
        Synced { s with observer := o, daemon := s.daemon.read msg, given := given }) := by
  have hanswered := (told_keeps s.observer s.daemon msg hkeeps).2.1
  constructor
  · intro h hans
    have hsynced := h (hanswered.trans hans)
    rw [deliver_told_of_answered hinv hans] at hsynced
    exact hsynced
  · intro h hans
    have hans := hanswered.symm.trans hans
    rw [deliver_told_of_answered hinv hans]
    exact h hans

theorem gpsLock_answer (hinv : s.Inv) (held : Option Int32) :
    Holds s.given.gpsLock (s.observer.respondStatus.gpsLock.or held) := by
  intro v hv
  obtain ⟨rfl, hne⟩ := hinv.gpsLock v hv
  show Option.or (if s.observer.mGpsLock = -1 then none else some s.observer.mGpsLock) held = _
  rw [if_neg hne]
  rfl

theorem connections_answer (hinv : s.Inv) (held : Option (BitVec 64 × NetworkHandles)) :
    Holds s.given.connections ((s.observer.respondStatus.connections.map
          fun c => (c, s.observer.respondStatus.networkHandle)).or held) ↔
      ∀ networkHandleInfo, s.given.connections = some (~~~0#64, networkHandleInfo) →
        held = some (~~~0#64, networkHandleInfo) := by
  show Holds _ (Option.or (Option.map _ (if s.observer.mConnections = ~~~0#64 then none else
    some s.observer.mConnections)) held) ↔ _
  split
  · next hones =>
      constructor
      · exact fun h networkHandleInfo hgiven => h _ hgiven
      · intro h v hgiven
        have hv := hinv.connections v hgiven
        rw [hones] at hv
        subst hv
        exact h _ hgiven
  · next hones =>
      constructor
      · intro _ networkHandleInfo hgiven
        exact absurd (congrArg Prod.fst (hinv.connections _ hgiven)) hones
      · intro _ v hgiven
        exact congrArg some (hinv.connections v hgiven)

theorem synced_answer (hinv : s.Inv) : Synced { s with
        observer.mReqStatusReceived := true
        requests := requests
        daemon := { s.daemon.read (.respondStatus s.observer.respondStatus) with
          source := (s.source.map ntripText).or s.daemon.source } } ↔
      Holds s.given.throttle s.daemon.items.throttle ∧
        ∀ networkHandleInfo, s.given.connections = some (~~~0#64, networkHandleInfo) →
          s.daemon.items.connections = some (~~~0#64, networkHandleInfo) := by
  constructor
  · exact fun h => ⟨h.throttle, (connections_answer hinv _).mp h.connections⟩
  · rintro ⟨hthrottle, hconnections⟩
    refine ⟨gpsLock_answer hinv _, (connections_answer hinv _).mpr hconnections, ?_, ?_,
      hthrottle, ?_⟩
    · exact fun v hv => congrArg some (hinv.tac v hv)
    · exact fun v hv => congrArg some (hinv.mccmnc v hv)
    · show (s.source.map ntripText).or s.daemon.source = s.source.map ntripText
      cases hs : s.source with
      | some params => rfl
      | none =>
        rcases hinv.known with hnone | ⟨-, hsome⟩
        · exact hnone
        · rw [hs] at hsome
          cases hsome

theorem right_handle (hinv : s.Inv) (hright : s.Right) :
    Right (s.step .handle).1 ↔ s.Fits .handle := by
  cases hrequests : s.requests with
  | nil =>
    have hstep : (s.step .handle).1 = s := by
      show (match s.requests with | [] => _ | _ :: _ => _ : XtraSys × _).1 = s
      rw [hrequests]
    rw [hstep]
    refine iff_of_true hright fun h => ?_
    rw [hrequests] at h
    cases h
  | cons xtraStatusUpdated requests =>
    rw [step_handle hinv hrequests]
    rcases Bool.eq_false_or_eq_true s.daemon.asked with hasked | hasked
    · rw [if_pos hasked]
      cases xtraStatusUpdated with
      | true =>
        refine iff_of_true (fun hans => ?_) fun h => ?_
        · have hsource := (hright hans).source
          refine { hright hans with source := ?_ }
          show (s.source.map ntripText).or s.daemon.source = _
          rw [hsource, Option.or_self]
        · rw [hrequests] at h
          cases h
      | false =>
        have hsynced := @synced_answer s requests hinv
        constructor
        · exact fun h _ _ => hsynced.mp (h rfl)
        · exact fun h _ => hsynced.mpr (h (by rw [hrequests]; rfl) hasked)
    · rw [if_neg (by rw [hasked]; decide)]
      refine iff_of_true (fun hans => ?_) fun _ h => ?_
      · exact absurd (hasked.symm.trans (hinv.answered hans).1) Bool.false_ne_true
      · exact absurd (hasked.symm.trans h) Bool.false_ne_true

theorem right_step (hinv : s.Inv) (hright : s.Right) (e : XtraEvent) :
    Right (s.step e).1 ↔ s.Fits e := by
  cases e with
  | updateLockStatus lock =>
    refine (right_told hinv (.gpslock _) ⟨rfl, rfl, rfl⟩).trans (iff_of_true ?_ trivial)
    exact fun hans => { hright hans with gpsLock := holds_some.mpr rfl }
  | updateConnections allConnections networkHandleInfo =>
    refine (right_told hinv (.connection _ _) ⟨rfl, rfl, rfl⟩).trans (iff_of_true ?_ trivial)
    exact fun hans => { hright hans with connections := holds_some.mpr rfl }
  | updateTac tac =>
    refine (right_told hinv (.tac _) ⟨rfl, rfl, rfl⟩).trans (forall_congr' fun hans => ?_)
    constructor
    · exact fun h => Option.some.inj (holds_some.mp h.tac)
    · exact fun h => { hright hans with tac := holds_some.mpr (congrArg some h) }
  | updateMccMnc mccmnc =>
    refine (right_told hinv (.mncmcc _) ⟨rfl, rfl, rfl⟩).trans (forall_congr' fun hans => ?_)
    constructor
    · exact fun h => Option.some.inj (holds_some.mp h.mccmnc)
    · exact fun h => { hright hans with mccmnc := holds_some.mpr (congrArg some h) }
  | updateXtraThrottle enabled =>
    refine (right_told hinv (.xtrathrottle _) ⟨rfl, rfl, rfl⟩).trans (iff_of_true ?_ trivial)
    exact fun hans => { hright hans with throttle := holds_some.mpr rfl }
  | startDgnssSource params =>
    rw [step_start]
    refine iff_of_true (fun hans => ?_) trivial
    exact { hright hans with source := if_pos (hinv.answered hans).1 }
  | stopDgnssSource =>
    rw [step_stop]
    refine iff_of_true (fun hans => ?_) trivial
    exact { hright hans with source := if_pos (hinv.answered hans).1 }
  | request xtraStatusUpdated =>
    refine iff_of_true ?_ trivial
    show Right (if _ then (s, []) else _).1
    split
    · exact hright
    · exact fun hans => { hright hans with }
  | handle => exact right_handle hinv hright
  | restart => exact iff_of_true (fun hans => (by cases hans)) trivial

end Steps

theorem inv_init : Inv init := by
  refine ⟨fun h => ?_, ?_, ?_, ?_, ?_, rfl, .inl rfl⟩
  · cases h
  all_goals
    intro v hv
    cases hv

/-- From its answer on the daemon has what was given, at every moment of the
run, exactly if no answer leaves out what it has not been told, and no C
string cuts what it is told. -/
theorem xtra_iff (es : List XtraEvent) :
    StatesMeet step Right init es ↔ StepsMeet step Fits init es := by
  refine statesMeet_iff_stepsMeet_of_inv (fun s => Inv s ∧ Right s) (fun s h => h.2) ?_ ?_
    ⟨inv_init, fun h => absurd h Bool.false_ne_true⟩ es
  · exact fun s e h hfits => ⟨inv_step h.1 e, (right_step h.1 h.2 e).mpr hfits⟩
  · exact fun s e h hright => (right_step h.1 h.2 e).mp hright

/-- The throttle is lifted before the daemon starts, and the answer does not
say so. -/
theorem not_right_unthrottled :
    ¬ StatesMeet step Right init [.updateXtraThrottle false, .request false, .handle] := by
  intro h
  have hsynced : Synced _ := h.last rfl
  have hheld := hsynced.throttle false rfl
  cases hheld

end XtraSys

end LocStack.Gnss
