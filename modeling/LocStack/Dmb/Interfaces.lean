/-
# `LocStack.Dmb.Interfaces` — the binder interfaces of the television service

IDmb, IDmbClient and IDmbService are each written twice: as a proxy, whose
methods fill a parcel and send it under a transaction code, and as a switch
over the code, which takes the arguments out again and calls the method of
the same name.

    descriptor    the interface token that stands first in a parcel
    code, args    what the proxy of a method sends
    read          what the case of a code takes out, in its order
    kind          what a method returns, and so what its reply holds

`faithful`: what arrives is the call that was made, and what is returned is
what the implementation returned, for every method of the three interfaces.

A binder or a file is known by a number, and a descriptor is taken to arrive
under the number that it had.  A path is taken to be a C string; a null one
is not sent, since writeCString has no length for it.
-/
import LocStack.Base.Parcel

namespace LocStack.Dmb

open Base
open Parcel

/-! ## Parcels with binders -/

abbrev Binder := Nat

/-- What is not plain data in a parcel. -/
inductive Obj where
  | token (descriptor : String)
  /-- null is written as a binder, too -/
  | binder (b : Option Binder)
  | fileDescriptor (fd : Int32)

def NO_ERROR : Int32 := 0
def PERMISSION_DENIED : Int32 := -1
def DEAD_OBJECT : Int32 := -32
def UNKNOWN_TRANSACTION : Int32 := -74
def BAD_TYPE : Int32 := -2147483647

def readStrongBinder : Reads Obj (Option Binder) := fun p =>
  match readObject p with
  | (some (.binder b), q) => (b, q)
  | _ => (none, p)

def readFileDescriptor : Reads Obj Int32 := fun p =>
  match readObject p with
  | (some (.fileDescriptor fd), q) => (fd, q)
  | _ => (BAD_TYPE, p)

/-- `CHECK_INTERFACE` -/
def checkInterface (descriptor : String) : Reads Obj Bool := fun p =>
  match readObject p with
  | (some (.token d), q) => (d = descriptor, q)
  | _ => (false, p)

/-- What a method returns. -/
inductive RetKind where
  | void | int32 | int64 | binder

abbrev RetKind.Value : RetKind → Type
  | .void => Unit
  | .int32 => Int32
  | .int64 => Int64
  | .binder => Option Binder

/-- What the case of a method writes into the reply. -/
def writeReply : (k : RetKind) → k.Value → Parcel Obj
  | .void, _ => []
  | .int32, v => write [.int32 v]
  | .int64, v => write [.int64 v]
  | .binder, b => write [.object (.binder b)]

/-- What the proxy of a method takes from the reply. -/
def readReply : (k : RetKind) → Parcel Obj → k.Value
  | .void, _ => ()
  | .int32, reply => (readInt32 reply).1
  | .int64, reply => (readInt64 reply).1
  | .binder, reply => (readStrongBinder reply).1

/-! ## An interface -/

/-- Proxy and switch of an interface whose calls are `χ`. -/
structure Interface (χ : Type) where
  descriptor : String
  code : χ → Nat
  /-- `none` where writeCString is given null -/
  args : χ → Option (List (Item Obj))
  kind : χ → RetKind
  read : Nat → Option (Reads Obj χ)

/-- What a transaction leaves: the calls that were made, its status, the reply. -/
structure Served (χ : Type) where
  invoked : List χ
  status : Int32
  reply : Parcel Obj

/-- What `transact` gives back to a proxy. -/
abbrev Transact := Nat → Parcel Obj → Int32 × Parcel Obj

namespace Interface

variable {χ : Type} (iface : Interface χ)

/-- The parcel that the proxy of a call fills. -/
def request (c : χ) : Option (Parcel Obj) :=
  (iface.args c).map fun items => write (.object (.token iface.descriptor) :: items)

/-- The proxy of a call: the status that transact returns is not looked at. -/
def call (transact : Transact) (c : χ) : Option (iface.kind c).Value :=
  (iface.request c).map fun data =>
    readReply (iface.kind c) (transact (iface.code c) data).2

/-- The call is made, and what it returns is the reply. -/
def invoke (impl : (c : χ) → (iface.kind c).Value) (c : χ) : Served χ :=
  ⟨[c], NO_ERROR, writeReply (iface.kind c) (impl c)⟩

def onTransact (impl : (c : χ) → (iface.kind c).Value) (code : Nat) (data : Parcel Obj) :
    Served χ :=
  match iface.read code with
  | none => ⟨[], UNKNOWN_TRANSACTION, []⟩
  | some read =>
    let (ok, data) := checkInterface iface.descriptor data
    if ok then iface.invoke impl (read data).1 else ⟨[], PERMISSION_DENIED, []⟩

/-- The transactions that the switch serves, as the proxy sees them. -/
def serve (impl : (c : χ) → (iface.kind c).Value) : Transact := fun code data =>
  ((iface.onTransact impl code data).status, (iface.onTransact impl code data).reply)

/-- A call arrives as it was made, and returns what the implementation does. -/
def Faithful (c : χ) : Prop :=
  ∀ impl : (c : χ) → (iface.kind c).Value, ∃ data, iface.request c = some data ∧
    (iface.onTransact impl (iface.code c) data).invoked = [c] ∧
    (iface.onTransact impl (iface.code c) data).status = NO_ERROR ∧
    iface.call (iface.serve impl) c = some (impl c)

end Interface

/-! ## IDmb -/

structure SelectParam where
  (opMode freq serviceId netId transportId oriNetId channelId serviceType pmtPid videoPid : Int32)
  (audioPid emmPid ecmPid serviceId1Seg : Int32)

/-- The methods of IDmb, with their arguments; a long has 32 bits. -/
inductive DmbCall where
  | disconnect
  | connect (client : Option Binder)
  | init (mode arg : Int32)
  | exit
  | find (mode : Int32)
  | select (p : SelectParam)
  | play (mode : Int32) (path : Option CStr) (position : Int64) (arg1 arg2 : Int32)
  | stopPlay
  | record (mode : Int32) (path : Option CStr) (duration : Int64)
  | recordFd (mode fd : Int32) (duration : Int64)
  | cancelRecord | stopRecord
  | setDataService (type arg : Int32)
  | getDuration
  | setVideoDimension (x y width height rotation : Int32) (bufferProducer : Option Binder)
  | setAudio (arg1 arg2 arg3 : Int32)
  | setMuteStatus (mute : Int32)
  | pause
  | resume (arg : Int32)
  | pauseForBackgroundRecord (arg : Int32)
  | resumeForBackgroundRecord (arg : Int32)
  | getPosition | getPCR
  | fastForward (speed : Int32)
  | rewind (speed : Int32)
  | getCASStatus
  | getDeviceID (type : Int32)
  | clearCASDB
  | setKd (arg1 arg2 : Int32)
  | autoServiceChange (arg1 arg2 : Int32)

@[match_pattern] abbrev DISCONNECT := 1
@[match_pattern] abbrev CONNECT := 2
@[match_pattern] abbrev INIT := 3
@[match_pattern] abbrev EXIT := 4
@[match_pattern] abbrev FIND := 5
@[match_pattern] abbrev SELECT := 6
@[match_pattern] abbrev PLAY := 7
@[match_pattern] abbrev STOP_PLAY := 9
@[match_pattern] abbrev RECORD := 10
@[match_pattern] abbrev RECORD_FD := 11
@[match_pattern] abbrev CANCEL_RECORD := 12
@[match_pattern] abbrev STOP_RECORD := 13
@[match_pattern] abbrev SET_DATA_SERVICE := 14
@[match_pattern] abbrev GET_DURATION := 15
@[match_pattern] abbrev SET_VIDEO_DIMENSION := 16
@[match_pattern] abbrev SET_AUDIO := 17
@[match_pattern] abbrev SET_MUTE_STATUS := 18
@[match_pattern] abbrev PAUSE := 19
@[match_pattern] abbrev RESUME := 20
@[match_pattern] abbrev PAUSE_FOR_BACKGROUND_RECORD := 21
@[match_pattern] abbrev RESUME_FOR_BACKGROUND_RECORD := 22
@[match_pattern] abbrev GET_POSITION := 23
@[match_pattern] abbrev FAST_FORWARD := 24
@[match_pattern] abbrev REWIND := 25
@[match_pattern] abbrev GET_CAS_STATUS := 26
@[match_pattern] abbrev GET_DEVICE_ID := 27
@[match_pattern] abbrev CLEAR_CAS_DB := 28
@[match_pattern] abbrev SET_KD := 29
@[match_pattern] abbrev AUTO_SERVICE_CHANGE := 30
@[match_pattern] abbrev GET_PCR := 31

namespace DmbCall

def code : DmbCall → Nat
  | disconnect => DISCONNECT
  | connect .. => CONNECT
  | init .. => INIT
  | exit => EXIT
  | find .. => FIND
  | select .. => SELECT
  | play .. => PLAY
  | stopPlay => STOP_PLAY
  | record .. => RECORD
  | recordFd .. => RECORD_FD
  | cancelRecord => CANCEL_RECORD
  | stopRecord => STOP_RECORD
  | setDataService .. => SET_DATA_SERVICE
  | getDuration => GET_DURATION
  | setVideoDimension .. => SET_VIDEO_DIMENSION
  | setAudio .. => SET_AUDIO
  | setMuteStatus .. => SET_MUTE_STATUS
  | pause => PAUSE
  | resume .. => RESUME
  | pauseForBackgroundRecord .. => PAUSE_FOR_BACKGROUND_RECORD
  | resumeForBackgroundRecord .. => RESUME_FOR_BACKGROUND_RECORD
  | getPosition => GET_POSITION
  | getPCR => GET_PCR
  | fastForward .. => FAST_FORWARD
  | rewind .. => REWIND
  | getCASStatus => GET_CAS_STATUS
  | getDeviceID .. => GET_DEVICE_ID
  | clearCASDB => CLEAR_CAS_DB
  | setKd .. => SET_KD
  | autoServiceChange .. => AUTO_SERVICE_CHANGE

/-- What BpDmb writes behind the token. -/
def args : DmbCall → Option (List (Item Obj))
  | disconnect | exit | stopPlay | cancelRecord | stopRecord | getDuration | pause | getPosition
  | getPCR | getCASStatus | clearCASDB => some []
  | connect client => some [.object (.binder client)]
  | init mode arg => some [.int32 mode, .int32 arg]
  | find mode => some [.int32 mode]
  | select p => some [.int32 p.opMode, .int32 p.freq, .int32 p.serviceId, .int32 p.netId,
      .int32 p.transportId, .int32 p.oriNetId, .int32 p.channelId, .int32 p.serviceType,
      .int32 p.pmtPid, .int32 p.videoPid, .int32 p.audioPid, .int32 p.emmPid, .int32 p.ecmPid,
      .int32 p.serviceId1Seg]
  | play mode path position arg1 arg2 => path.map fun path =>
    [.int32 mode, .cstring path, .int64 position, .int32 arg1, .int32 arg2]
  | record mode path duration => path.map fun path =>
    [.int32 mode, .cstring path, .int64 duration]
  | recordFd mode fd duration =>
    some [.int32 mode, .object (.fileDescriptor fd), .int64 duration]
  | setDataService type arg => some [.int32 type, .int32 arg]
  | setVideoDimension x y width height rotation bufferProducer =>
    some [.int32 x, .int32 y, .int32 width, .int32 height, .int32 rotation,
      .object (.binder bufferProducer)]
  | setAudio arg1 arg2 arg3 => some [.int32 arg1, .int32 arg2, .int32 arg3]
  | setMuteStatus mute => some [.int32 mute]
  | resume arg => some [.int32 arg]
  | pauseForBackgroundRecord arg => some [.int32 arg]
  | resumeForBackgroundRecord arg => some [.int32 arg]
  | fastForward speed => some [.int32 speed]
  | rewind speed => some [.int32 speed]
  | getDeviceID type => some [.int32 type]
  | setKd arg1 arg2 => some [.int32 arg1, .int32 arg2]
  | autoServiceChange arg1 arg2 => some [.int32 arg1, .int32 arg2]

/-- What BpDmb returns: nothing through `call`, an int through `callInt`. -/
def kind : DmbCall → RetKind
  | connect .. | record .. | recordFd .. | getDuration | setMuteStatus .. | resume ..
  | pauseForBackgroundRecord .. | resumeForBackgroundRecord .. | getPosition | fastForward ..
  | rewind .. | getCASStatus => .int32
  | getPCR => .int64
  | _ => .void

/-- `BnDmb::onTransact` -/
def read : Nat → Option (Reads Obj DmbCall)
  | DISCONNECT => some <| return disconnect
  | CONNECT => some do
      let client ← readStrongBinder
      return connect client
  | INIT => some do
      let mode ← readInt32
      let arg ← readInt32
      return init mode arg
  | EXIT => some <| return exit
  | FIND => some do
      let mode ← readInt32
      return find mode
  | SELECT => some do
      let opMode ← readInt32
      let freq ← readInt32
      let serviceId ← readInt32
      let netId ← readInt32
      let transportId ← readInt32
      let oriNetId ← readInt32
      let channelId ← readInt32
      let serviceType ← readInt32
      let pmtPid ← readInt32
      let videoPid ← readInt32
      let audioPid ← readInt32
      let emmPid ← readInt32
      let ecmPid ← readInt32
      let serviceId1Seg ← readInt32
      return select ⟨opMode, freq, serviceId, netId, transportId, oriNetId, channelId,
        serviceType, pmtPid, videoPid, audioPid, emmPid, ecmPid, serviceId1Seg⟩
  | PLAY => some do
      let mode ← readInt32
      let path ← readCString
      let position ← readInt64
      let arg1 ← readInt32
      let arg2 ← readInt32
      return play mode path position arg1 arg2
  | STOP_PLAY => some <| return stopPlay
  | RECORD => some do
      let mode ← readInt32
      let path ← readCString
      let duration ← readInt64
      return record mode path duration
  | RECORD_FD => some do
      let mode ← readInt32
      let fd ← readFileDescriptor
      let duration ← readInt64
      return recordFd mode fd duration
  | CANCEL_RECORD => some <| return cancelRecord
  | STOP_RECORD => some <| return stopRecord
  | SET_DATA_SERVICE => some do
      let type ← readInt32
      let arg ← readInt32
      return setDataService type arg
  | GET_DURATION => some <| return getDuration
  | SET_VIDEO_DIMENSION => some do
      let x ← readInt32
      let y ← readInt32
      let width ← readInt32
      let height ← readInt32
      let rotation ← readInt32
      let bp ← readStrongBinder
      return setVideoDimension x y width height rotation bp
  | SET_AUDIO => some do
      let a ← readInt32
      let b ← readInt32
      let c ← readInt32
      return setAudio a b c
  | SET_MUTE_STATUS => some do
      let mute ← readInt32
      return setMuteStatus mute
  | PAUSE => some <| return pause
  | RESUME => some do
      let arg ← readInt32
      return resume arg
  | PAUSE_FOR_BACKGROUND_RECORD => some do
      let arg ← readInt32
      return pauseForBackgroundRecord arg
  | RESUME_FOR_BACKGROUND_RECORD => some do
      let arg ← readInt32
      return resumeForBackgroundRecord arg
  | GET_POSITION => some <| return getPosition
  | FAST_FORWARD => some do
      let speed ← readInt32
      return fastForward speed
  | REWIND => some do
      let speed ← readInt32
      return rewind speed
  | GET_CAS_STATUS => some <| return getCASStatus
  | GET_DEVICE_ID => some do
      let type ← readInt32
      return getDeviceID type
  | CLEAR_CAS_DB => some <| return clearCASDB
  | SET_KD => some do
      let a ← readInt32
      let b ← readInt32
      return setKd a b
  | AUTO_SERVICE_CHANGE => some do
      let a ← readInt32
      let b ← readInt32
      return autoServiceChange a b
  | GET_PCR => some <| return getPCR
  | _ => none

/-- No path is null. -/
def PathSet : DmbCall → Prop
  | play _ path .. => path.isSome
  | record _ path _ => path.isSome
  | _ => True

end DmbCall

def dmb : Interface DmbCall where
  descriptor := "android.broadcast.IDmb"
  code := DmbCall.code
  args := DmbCall.args
  kind := DmbCall.kind
  read := DmbCall.read

/-! ## IDmbClient and IDmbService -/

inductive DmbClientCall where
  | notifyCallback (msg ext1 ext2 : Int32)
  | dataCallback (msg ext1 : Int32) (mem : Option Binder)

@[match_pattern] abbrev NOTIFY_CALLBACK := 1
@[match_pattern] abbrev DATA_CALLBACK := 2

namespace DmbClientCall

def code : DmbClientCall → Nat
  | notifyCallback .. => NOTIFY_CALLBACK
  | dataCallback .. => DATA_CALLBACK

def args : DmbClientCall → Option (List (Item Obj))
  | notifyCallback msg ext1 ext2 => some [.int32 msg, .int32 ext1, .int32 ext2]
  | dataCallback msg ext1 mem => some [.int32 msg, .int32 ext1, .object (.binder mem)]

/-- `BnDmbClient::onTransact` -/
def read : Nat → Option (Reads Obj DmbClientCall)
  | NOTIFY_CALLBACK => some do
      let msg ← readInt32
      let ext1 ← readInt32
      let ext2 ← readInt32
      return notifyCallback msg ext1 ext2
  | DATA_CALLBACK => some do
      let msg ← readInt32
      let ext1 ← readInt32
      let mem ← readStrongBinder
      return dataCallback msg ext1 mem
  | _ => none

end DmbClientCall

def dmbClient : Interface DmbClientCall where
  descriptor := "android.broadcast.IDmbClient"
  code := DmbClientCall.code
  args := DmbClientCall.args
  kind := fun _ => .void
  read := DmbClientCall.read

inductive DmbServiceCall where
  | connect (client : Option Binder)

@[match_pattern] abbrev SERVICE_CONNECT := 1

namespace DmbServiceCall

def code : DmbServiceCall → Nat
  | connect .. => SERVICE_CONNECT

def args : DmbServiceCall → Option (List (Item Obj))
  | connect client => some [.object (.binder client)]

/-- `BnDmbService::onTransact` -/
def read : Nat → Option (Reads Obj DmbServiceCall)
  | SERVICE_CONNECT => some do
      let client ← readStrongBinder
      return connect client
  | _ => none

end DmbServiceCall

def dmbService : Interface DmbServiceCall where
  descriptor := "android.broadcast.IDmbService"
  code := DmbServiceCall.code
  args := DmbServiceCall.args
  kind := fun _ => .binder
  read := DmbServiceCall.read

/-! ## What is written is read -/

theorem undoes_binder (b : Option Binder) :
    Undoes readStrongBinder b [.object (.binder b)] := fun _ => rfl

theorem undoes_fileDescriptor (fd : Int32) :
    Undoes readFileDescriptor fd [.object (.fileDescriptor fd)] := fun _ => rfl

theorem readReply_writeReply (k : RetKind) (v : k.Value) : readReply k (writeReply k v) = v := by
  cases k with
  | void => rfl
  | int32 =>
    have h := undoes_int32 (ο := Obj) v []
    rw [List.append_nil] at h
    exact congrArg Prod.fst h
  | int64 =>
    have h := undoes_int64 (ο := Obj) v []
    rw [List.append_nil] at h
    exact congrArg Prod.fst h
  | binder => rfl

namespace Interface

variable {χ : Type} {iface : Interface χ} {c : χ} {items : List (Item Obj)}
  {read : Reads Obj χ}

theorem faithful_of_undoes (hargs : iface.args c = some items)
    (hread : iface.read (iface.code c) = some read) (h : Undoes read c items) :
    iface.Faithful c := by
  intro impl
  have hreq : iface.request c = some (write (.object (.token iface.descriptor) :: items)) := by
    unfold request
    rw [hargs]
    rfl
  have hcheck : checkInterface iface.descriptor
      (write (.object (.token iface.descriptor) :: items)) = (true, write items) := by
    show (decide (iface.descriptor = iface.descriptor), _) = _
    rw [decide_eq_true rfl]
    rfl
  have htake : (read (write items)).1 = c := by
    have htake := h []
    rw [List.append_nil] at htake
    rw [htake]
  have hserved : iface.onTransact impl (iface.code c)
      (write (.object (.token iface.descriptor) :: items)) = iface.invoke impl c := by
    unfold onTransact
    simp only [hread, hcheck, if_true, htake]
  refine ⟨_, hreq, ?_, ?_, ?_⟩
  · rw [hserved]
    rfl
  · rw [hserved]
    rfl
  · unfold call serve
    rw [hreq, Option.map_some, hserved]
    exact congrArg some (readReply_writeReply _ _)

end Interface

namespace DmbCall

theorem undoes (c : DmbCall) (h : c.PathSet) :
    ∃ items read, c.args = some items ∧ DmbCall.read c.code = some read ∧
      Undoes read c items := by
  cases c with
  | disconnect | exit | stopPlay | cancelRecord | stopRecord | getDuration | pause | getPosition
  | getPCR | getCASStatus | clearCASDB => exact ⟨_, _, rfl, rfl, .pure _⟩
  | connect client => exact ⟨_, _, rfl, rfl, (undoes_binder client).cons (.pure _)⟩
  | find a | setMuteStatus a | resume a | pauseForBackgroundRecord a
  | resumeForBackgroundRecord a | fastForward a | rewind a | getDeviceID a =>
    exact ⟨_, _, rfl, rfl, (undoes_int32 a).cons (.pure _)⟩
  | init a b | setDataService a b | setKd a b | autoServiceChange a b =>
    exact ⟨_, _, rfl, rfl, (undoes_int32 a).cons ((undoes_int32 b).cons (.pure _))⟩
  | setAudio a b c =>
    refine ⟨_, _, rfl, rfl, (undoes_int32 a).cons ?_⟩
    exact (undoes_int32 b).cons ((undoes_int32 c).cons (.pure _))
  | select p =>
    refine ⟨_, _, rfl, rfl, (undoes_int32 p.opMode).cons ((undoes_int32 p.freq).cons ?_)⟩
    refine (undoes_int32 p.serviceId).cons ((undoes_int32 p.netId).cons ?_)
    refine (undoes_int32 p.transportId).cons ((undoes_int32 p.oriNetId).cons ?_)
    refine (undoes_int32 p.channelId).cons ((undoes_int32 p.serviceType).cons ?_)
    refine (undoes_int32 p.pmtPid).cons ((undoes_int32 p.videoPid).cons ?_)
    refine (undoes_int32 p.audioPid).cons ((undoes_int32 p.emmPid).cons ?_)
    exact (undoes_int32 p.ecmPid).cons ((undoes_int32 p.serviceId1Seg).cons (.pure _))
  | play mode path position arg1 arg2 =>
    obtain ⟨path, rfl⟩ := Option.isSome_iff_exists.mp h
    refine ⟨_, _, rfl, rfl, (undoes_int32 mode).cons ((undoes_cstring path).cons ?_)⟩
    refine (undoes_int64 position).cons ?_
    exact (undoes_int32 arg1).cons ((undoes_int32 arg2).cons (.pure _))
  | record mode path duration =>
    obtain ⟨path, rfl⟩ := Option.isSome_iff_exists.mp h
    refine ⟨_, _, rfl, rfl, (undoes_int32 mode).cons ((undoes_cstring path).cons ?_)⟩
    exact (undoes_int64 duration).cons (.pure _)
  | recordFd mode fd duration =>
    refine ⟨_, _, rfl, rfl, (undoes_int32 mode).cons ((undoes_fileDescriptor fd).cons ?_)⟩
    exact (undoes_int64 duration).cons (.pure _)
  | setVideoDimension x y width height rotation bufferProducer =>
    refine ⟨_, _, rfl, rfl, (undoes_int32 x).cons ((undoes_int32 y).cons ?_)⟩
    refine (undoes_int32 width).cons ((undoes_int32 height).cons ?_)
    exact (undoes_int32 rotation).cons ((undoes_binder bufferProducer).cons (.pure _))

end DmbCall

theorem DmbClientCall.undoes (c : DmbClientCall) :
    ∃ items read, c.args = some items ∧ DmbClientCall.read c.code = some read ∧
      Undoes read c items := by
  cases c with
  | notifyCallback msg ext1 ext2 =>
    refine ⟨_, _, rfl, rfl, (undoes_int32 msg).cons ?_⟩
    exact (undoes_int32 ext1).cons ((undoes_int32 ext2).cons (.pure _))
  | dataCallback msg ext1 mem =>
    refine ⟨_, _, rfl, rfl, (undoes_int32 msg).cons ?_⟩
    exact (undoes_int32 ext1).cons ((undoes_binder mem).cons (.pure _))

theorem DmbServiceCall.undoes (c : DmbServiceCall) :
    ∃ items read, c.args = some items ∧ DmbServiceCall.read c.code = some read ∧
      Undoes read c items := by
  cases c with
  | connect client => exact ⟨_, _, rfl, rfl, (undoes_binder client).cons (.pure _)⟩

theorem dmb_faithful {c : DmbCall} (h : c.PathSet) : dmb.Faithful c := by
  obtain ⟨items, read, hargs, hread, hundoes⟩ := c.undoes h
  exact Interface.faithful_of_undoes hargs hread hundoes

theorem dmbClient_faithful (c : DmbClientCall) : dmbClient.Faithful c := by
  obtain ⟨items, read, hargs, hread, hundoes⟩ := c.undoes
  exact Interface.faithful_of_undoes hargs hread hundoes

theorem dmbService_faithful (c : DmbServiceCall) : dmbService.Faithful c := by
  obtain ⟨items, read, hargs, hread, hundoes⟩ := c.undoes
  exact Interface.faithful_of_undoes hargs hread hundoes

/-- Every method of the three interfaces arrives as it was called, and returns
what its implementation does. -/
theorem faithful (c : DmbCall) (h : c.PathSet) (d : DmbClientCall) (e : DmbServiceCall) :
    dmb.Faithful c ∧ dmbClient.Faithful d ∧ dmbService.Faithful e :=
  ⟨dmb_faithful h, dmbClient_faithful d, dmbService_faithful e⟩

/-- A recording that is asked for by path, and not by descriptor. -/
theorem faithful_recordPath : dmb.Faithful (.record 1 (some ⟨[47, 97], by decide⟩) (-1)) ∧
      dmbClient.Faithful (.notifyCallback 2073 0 0) ∧ dmbService.Faithful (.connect (some 7)) :=
  faithful (.record 1 (some ⟨[47, 97], by decide⟩) (-1)) rfl (.notifyCallback 2073 0 0)
    (.connect (some 7))

end LocStack.Dmb
