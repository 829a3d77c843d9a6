/-
# `LocStack.Adapter.PendingMsgs` — messages parked until capabilities are known

GnssAdapter, GeofenceAdapter and BatchingAdapter share the storage of
LocAdapterBase: a message whose `proc` needs the engine's capabilities puts
a copy of itself on `mPendingMsgs` while they are unknown, and each
adapter's own handler of the engine-up event sends what is parked there to
the message queue again.  The three handlers are

    GnssAdapter      restart the sessions, send all of mPendingMsgs
    GeofenceAdapter  restart the geofences, send all of mPendingMsgs
    BatchingAdapter  restart the sessions, send all of mPendingMsgs, clear it

and each does this only if the engine lock is ENABLED when the event is
handled.  `resentOnce_iff` says when every parked message is re-sent, and
processed, once: with BatchingAdapter one engine-up handled unlocked is
enough, with the other two there must be exactly one.

Modelled are the message queue, the two lists and the engine lock.  What a
message does once its `proc` is past the capability test is left to the
event that processes it.
-/
import Mathlib.Data.List.Nodup
import LocStack.Base.Run

namespace LocStack.Adapter

open Base List

/-! ## The adapters and their messages -/

/-- EngineLockState of gps_extended_c.h. -/
inductive EngineLockState where
  | invalid | enabled | disabled
  deriving DecidableEq

/-- The adapters that override `handleEngineUpEvent`. -/
inductive AdapterKind where
  | gnss | geofence | batching
  deriving DecidableEq

/-- The messages that client commands post, under their structs' names; of
their fields only those that decide about parking. -/
inductive ClientMsg where
  | requestCapabilities
  | startTracking (minDistance : UInt32)
  | updateTracking (minDistance : UInt32)
  | gnssUpdateConfig | gnssGetConfig | gnssUpdateSvTypeConfig | gnssGetSvTypeConfig
  | gnssResetSvTypeConfig | startBatching | updateBatching | stopBatching | getBatchedLocations
  /-- Any command whose `proc` does not ask for the capabilities. -/
  | other
  deriving DecidableEq

/-- Which adapter's commands post this message. -/
def ClientMsg.postedBy : ClientMsg → AdapterKind → Bool
  | .requestCapabilities, _ | .other, _ => true
  | .startTracking _, k | .updateTracking _, k | .gnssUpdateConfig, k | .gnssGetConfig, k
  | .gnssUpdateSvTypeConfig, k | .gnssGetSvTypeConfig, k | .gnssResetSvTypeConfig, k => k == .gnss
  | .startBatching, k | .updateBatching, k | .stopBatching, k
  | .getBatchedLocations, k => k == .batching

/-- The test with which `proc` begins, without the capabilities: tracking
waits for them only if it is distance based. -/
def ClientMsg.needsCapabilities : ClientMsg → Bool
  | .startTracking minDistance | .updateTracking minDistance => 0 < minDistance
  | .other => false
  | _ => true

/-- A message object.  `id` is the object: `new Msg(*this)` has the fields
of the old message and an id of its own. -/
structure MsgObj where
  id : Nat
  msg : ClientMsg
  deriving DecidableEq

/-- What is in the message queue. -/
inductive LocMsg where
  | client (obj : MsgObj)
  /-- MsgHandleEngineUpEvent, MsgSSREvent -/
  | engineUp
  /-- MsgEngineLockStateEvent -/
  | engineLockState (state : EngineLockState)
  deriving DecidableEq

structure LocAdapter where
  kind : AdapterKind
  mIsEngineCapabilitiesKnown : Bool
  (mPendingMsgs mPendingGnssEnabledMsgs : List MsgObj)
  /-- `mLocApi->getEngineLockState()` -/
  mEngineLockState : EngineLockState
  /-- The queue of `mMsgTask`. -/
  mMsgTask : List LocMsg
  /-- The `pendingMsg`s held by the unanswered `startBatching` requests. -/
  pendingStarts : List MsgObj
  /-- The next object. -/
  nextId : Nat

/-- What is seen of an adapter from outside. -/
inductive AdapterOut where
  /-- `mPendingMsgs.push_back` of this object -/
  | parked (id : Nat)
  /-- this object, sent from `mPendingMsgs` -/
  | resent (id : Nat)
  /-- `proc` of this object got past the capability test -/
  | handled (id : Nat)

namespace LocAdapter

/-- A new adapter; `known` is ContextBase::sIsEngineCapabilitiesKnown. -/
def new (kind : AdapterKind) (known : Bool) : LocAdapter where
  kind := kind
  mIsEngineCapabilitiesKnown := known
  mPendingMsgs := []
  mPendingGnssEnabledMsgs := []
  mEngineLockState := .enabled
  mMsgTask := []
  pendingStarts := []
  nextId := 0

def setEngineCapabilitiesKnown (a : LocAdapter) (value : Bool) : LocAdapter :=
  { a with mIsEngineCapabilitiesKnown := value }

def sendMsg (a : LocAdapter) (msg : LocMsg) : LocAdapter :=
  { a with mMsgTask := a.mMsgTask ++ [msg] }

/-- `for (auto msg: mPendingMsgs) sendMsg(msg)` -/
def sendPendingMsgs (a : LocAdapter) : LocAdapter × List AdapterOut :=
  (a.mPendingMsgs.foldl (fun a obj => a.sendMsg (.client obj)) a,
    a.mPendingMsgs.map fun obj => .resent obj.id)

/-- `MsgHandleEngineUpEvent::proc` of GnssAdapter. -/
def gnssHandleEngineUp (a : LocAdapter) : LocAdapter × List AdapterOut :=
  let a := a.setEngineCapabilitiesKnown true
  if a.mEngineLockState = .enabled then a.sendPendingMsgs else (a, [])

/-- `MsgSSREvent::proc` of GeofenceAdapter. -/
def geofenceHandleEngineUp (a : LocAdapter) : LocAdapter × List AdapterOut :=
  let a := a.setEngineCapabilitiesKnown true
  if a.mEngineLockState = .enabled then a.sendPendingMsgs else (a, [])

/-- `MsgSSREvent::proc` of BatchingAdapter. -/
def batchingHandleEngineUp (a : LocAdapter) : LocAdapter × List AdapterOut :=
  let a := a.setEngineCapabilitiesKnown true
  if a.mEngineLockState = .enabled then
    ({ a.sendPendingMsgs.1 with mPendingMsgs := [] }, a.sendPendingMsgs.2)
  else (a, [])

def handleEngineUp (a : LocAdapter) : LocAdapter × List AdapterOut :=
  match a.kind with
  | .gnss => a.gnssHandleEngineUp
  | .geofence => a.geofenceHandleEngineUp
  | .batching => a.batchingHandleEngineUp

/-- The same in all three adapters. -/
def handleEngineLockStatus (a : LocAdapter) (engineLockState : EngineLockState) : LocAdapter :=
  if engineLockState = .enabled then
    { a.mPendingGnssEnabledMsgs.foldl (fun a obj => a.sendMsg (.client obj)) a with
      mPendingGnssEnabledMsgs := [] }
  else a

/-- `proc` of a client's message.  `starts` says whether a start batching
message reaches `BatchingAdapter::startBatching`, which is handed a copy of
the message to park should the engine be disabled. -/
def procClient (a : LocAdapter) (starts : Bool) (obj : MsgObj) : LocAdapter × List AdapterOut :=
  if !a.mIsEngineCapabilitiesKnown && obj.msg.needsCapabilities then
    ({ a with
        mPendingMsgs := a.mPendingMsgs ++ [⟨a.nextId, obj.msg⟩]
        nextId := a.nextId + 1 }, [.parked a.nextId])
  else if starts && obj.msg == .startBatching then
    ({ a with
        pendingStarts := a.pendingStarts ++ [⟨a.nextId, obj.msg⟩]
        nextId := a.nextId + 1 }, [.handled obj.id])
  else (a, [.handled obj.id])

def proc (a : LocAdapter) (starts : Bool) : LocMsg → LocAdapter × List AdapterOut
  | .client obj => a.procClient starts obj
  | .engineUp => a.handleEngineUp
  | .engineLockState state => (a.handleEngineLockStatus state, [])

/-- The response to a `startBatching` request: its `pendingMsg` is parked if
the engine is disabled and deleted otherwise. -/
def startBatchingResponse (a : LocAdapter) (id : Nat) (gnssDisabled : Bool) : LocAdapter :=
  match a.pendingStarts.find? (·.id == id) with
  | none => a
  | some obj =>
    { a with
      pendingStarts := a.pendingStarts.filter (·.id != id)
      mPendingGnssEnabledMsgs :=
        if gnssDisabled then a.mPendingGnssEnabledMsgs ++ [obj] else a.mPendingGnssEnabledMsgs }

end LocAdapter

/-- What happens to an adapter, in any order. -/
inductive AdapterEvent where
  /-- A client's command posts a message. -/
  | command (msg : ClientMsg)
  /-- LocApiBase calls `handleEngineUpEvent`. -/
  | handleEngineUpEvent
  /-- LocApiBase calls `handleEngineLockStatusEvent`. -/
  | handleEngineLockStatusEvent (state : EngineLockState)
  | setEngineLockState (state : EngineLockState)
  | startBatchingResponse (id : Nat) (gnssDisabled : Bool)
  /-- The message task takes the next message. -/
  | process (starts : Bool)

namespace LocAdapter

def step (a : LocAdapter) : AdapterEvent → LocAdapter × List AdapterOut
  | .command msg =>
    if msg.postedBy a.kind then
      ({ a.sendMsg (.client ⟨a.nextId, msg⟩) with nextId := a.nextId + 1 }, [])
    else (a, [])
  | .handleEngineUpEvent => (a.sendMsg .engineUp, [])
  | .handleEngineLockStatusEvent state => (a.sendMsg (.engineLockState state), [])
  | .setEngineLockState state => ({ a with mEngineLockState := state }, [])
  | .startBatchingResponse id gnssDisabled => (a.startBatchingResponse id gnssDisabled, [])
  | .process starts =>
    match a.mMsgTask with
    | [] => (a, [])
    | msg :: rest => { a with mMsgTask := rest }.proc starts msg

theorem foldl_sendMsg (objs : List MsgObj) (a : LocAdapter) :
    objs.foldl (fun a obj => a.sendMsg (.client obj)) a =
      { a with mMsgTask := a.mMsgTask ++ objs.map .client } := by
  induction objs generalizing a with
  | nil => simp
  | cons obj objs ih =>
    rw [foldl_cons, ih]
    simp [sendMsg]

theorem handleEngineUp_eq (a : LocAdapter) : a.handleEngineUp =
      if a.mEngineLockState = .enabled then
        ({ a with
            mIsEngineCapabilitiesKnown := true
            mPendingMsgs := if a.kind = .batching then [] else a.mPendingMsgs
            mMsgTask := a.mMsgTask ++ a.mPendingMsgs.map .client },
          a.mPendingMsgs.map fun obj => .resent obj.id)
      else ({ a with mIsEngineCapabilitiesKnown := true }, []) := by
  rcases a with ⟨kind, known, pending, pendingEnabled, lock, queue, starts, nextId⟩
  cases kind with
  | gnss =>
    simp [handleEngineUp, gnssHandleEngineUp, setEngineCapabilitiesKnown, sendPendingMsgs,
      foldl_sendMsg]
  | geofence =>
    simp [handleEngineUp, geofenceHandleEngineUp, setEngineCapabilitiesKnown, sendPendingMsgs,
      foldl_sendMsg]
  | batching =>
    simp [handleEngineUp, batchingHandleEngineUp, setEngineCapabilitiesKnown, sendPendingMsgs,
      foldl_sendMsg]

theorem handleEngineLockStatus_eq (a : LocAdapter) (state : EngineLockState) :
    a.handleEngineLockStatus state =
      if state = .enabled then
        { a with
          mPendingGnssEnabledMsgs := []
          mMsgTask := a.mMsgTask ++ a.mPendingGnssEnabledMsgs.map .client }
      else a := by
  unfold handleEngineLockStatus
  rw [foldl_sendMsg]

end LocAdapter

/-! ## What is counted -/

def AdapterOut.parkedId : AdapterOut → Option Nat
  | .parked id => some id
  | _ => none

def AdapterOut.resentId : AdapterOut → Option Nat
  | .resent id => some id
  | _ => none

def AdapterOut.handledId : AdapterOut → Option Nat
  | .handled id => some id
  | _ => none

def LocMsg.clientId : LocMsg → Option Nat
  | .client obj => some obj.id
  | _ => none

/-- The objects put on `mPendingMsgs`. -/
def parkedIds (out : List AdapterOut) : List Nat := out.filterMap (·.parkedId)

/-- The objects sent from `mPendingMsgs`, as often as they were. -/
def resentIds (out : List AdapterOut) : List Nat := out.filterMap (·.resentId)

/-- The objects processed past the capability test, as often as they were. -/
def handledIds (out : List AdapterOut) : List Nat := out.filterMap (·.handledId)

section Counts

variable (out out' : List AdapterOut)

@[simp] theorem parkedIds_append : parkedIds (out ++ out') = parkedIds out ++ parkedIds out' :=
  filterMap_append

@[simp] theorem resentIds_append : resentIds (out ++ out') = resentIds out ++ resentIds out' :=
  filterMap_append

@[simp] theorem handledIds_append :
    handledIds (out ++ out') = handledIds out ++ handledIds out' :=
  filterMap_append

end Counts

namespace LocAdapter

/-- The objects in the message queue. -/
def queuedIds (a : LocAdapter) : List Nat := a.mMsgTask.filterMap (·.clientId)

/-- The step parks the message it processes. -/
def Parks : LocAdapter × AdapterEvent → Bool
  | (a, .process _) =>
    match a.mMsgTask with
    | .client obj :: _ => !a.mIsEngineCapabilitiesKnown && obj.msg.needsCapabilities
    | _ => false
  | _ => false

/-- The step handles an engine-up event. -/
def HandlesEngineUp : LocAdapter × AdapterEvent → Bool
  | (a, .process _) => a.mMsgTask.head? == some .engineUp
  | _ => false

/-- The step handles an engine-up event and finds the engine lock enabled. -/
def HandlesUnlocked (p : LocAdapter × AdapterEvent) : Bool :=
  HandlesEngineUp p && p.1.mEngineLockState == .enabled

/-! ## What a step can do -/

/-- The objects held for a retry once the engine is enabled. -/
def strayIds (a : LocAdapter) : List Nat :=
  a.pendingStarts.map (·.id) ++ a.mPendingGnssEnabledMsgs.map (·.id)

/-- `a'` parks what `a` does, and what it has queued and held beyond `a` is
new or was held by `a`. -/
structure Quiet (a a' : LocAdapter) : Prop where
  kind : a'.kind = a.kind
  known : a'.mIsEngineCapabilitiesKnown = a.mIsEngineCapabilitiesKnown
  pending : a'.mPendingMsgs = a.mPendingMsgs
  nextId : a.nextId ≤ a'.nextId
  stray : ∀ id ∈ a'.strayIds, id ∈ a.strayIds ∨ (a.nextId ≤ id ∧ id < a'.nextId)
  queued : ∀ id ∈ a'.queuedIds,
    id ∈ a.queuedIds ∨ id ∈ a.strayIds ∨ (a.nextId ≤ id ∧ id < a'.nextId)
  count : ∀ id, id < a.nextId → id ∉ a.strayIds → a'.queuedIds.count id = a.queuedIds.count id

theorem Quiet.refl (a : LocAdapter) : a.Quiet a where
  kind := rfl
  known := rfl
  pending := rfl
  nextId := Nat.le_refl _
  stray _ h := Or.inl h
  queued _ h := Or.inl h
  count _ _ _ := rfl

theorem quiet_command (a : LocAdapter) (msg : ClientMsg) :
    a.Quiet { a.sendMsg (.client ⟨a.nextId, msg⟩) with nextId := a.nextId + 1 } where
  kind := rfl
  known := rfl
  pending := rfl
  nextId := Nat.le_succ _
  stray _ h := Or.inl h
  queued id h := by
    simp only [queuedIds, sendMsg, filterMap_append, mem_append] at h
    rcases h with h | h
    · exact Or.inl h
    · have hid : id = a.nextId := by simpa [LocMsg.clientId] using h
      exact Or.inr (Or.inr ⟨Nat.le_of_eq hid.symm, hid ▸ Nat.lt_succ_self _⟩)
  count id hid _ := by
    have hne : a.nextId ≠ id := by omega
    simp [queuedIds, sendMsg, LocMsg.clientId, hne]

theorem quiet_sendMsg (a : LocAdapter) {msg : LocMsg} (h : msg.clientId = none) :
    a.Quiet (a.sendMsg msg) := by
  have hq : (a.sendMsg msg).queuedIds = a.queuedIds := by
    simp [queuedIds, sendMsg, h]
  exact ⟨rfl, rfl, rfl, Nat.le_refl _, fun _ h => Or.inl h, fun _ h => Or.inl (hq ▸ h),
    fun _ _ _ => by rw [hq]⟩

theorem quiet_startBatchingResponse (a : LocAdapter) (id : Nat) (gnssDisabled : Bool) :
    a.Quiet (a.startBatchingResponse id gnssDisabled) := by
  unfold startBatchingResponse
  split
  · exact .refl a
  · rename_i obj hfind
    refine ⟨rfl, rfl, rfl, Nat.le_refl _, fun i hi => Or.inl ?_, fun _ h => Or.inl h,
      fun _ _ _ => rfl⟩
    have hobj : obj.id ∈ a.pendingStarts.map (·.id) :=
      mem_map_of_mem (mem_of_find?_eq_some hfind)
    simp only [strayIds, mem_append] at hi ⊢
    rcases hi with hi | hi
    · obtain ⟨o, ho, rfl⟩ := mem_map.mp hi
      exact Or.inl (mem_map_of_mem (mem_filter.mp ho).1)
    · split at hi
      · rw [map_append, mem_append] at hi
        rcases hi with hi | hi
        · exact Or.inr hi
        · rw [map_singleton, mem_singleton] at hi
          exact Or.inl (hi ▸ hobj)
      · exact Or.inr hi

theorem filterMap_client (objs : List MsgObj) :
    (objs.map LocMsg.client).filterMap (·.clientId) = objs.map (·.id) := by
  induction objs with
  | nil => rfl
  | cons obj objs ih =>
    rw [map_cons, filterMap_cons, ih]
    rfl

theorem quiet_handleEngineLockStatus {a : LocAdapter} {state : EngineLockState}
    {rest : List LocMsg} (h : a.mMsgTask = .engineLockState state :: rest) :
    a.Quiet ({ a with mMsgTask := rest }.handleEngineLockStatus state) := by
  have hq : rest.filterMap (·.clientId) = a.queuedIds := by
    rw [queuedIds, h]
    rfl
  rw [handleEngineLockStatus_eq]
  split
  · refine ⟨rfl, rfl, rfl, Nat.le_refl _, fun id hid => Or.inl ?_, fun id hid => ?_,
      fun id _ hid => ?_⟩
    · simp only [strayIds, map_nil, append_nil] at hid
      exact mem_append_left _ hid
    · simp only [queuedIds, filterMap_append, filterMap_client, hq, mem_append] at hid
      rcases hid with hid | hid
      · exact Or.inl hid
      · exact Or.inr (Or.inl (mem_append_right _ hid))
    · have hnot : id ∉ a.mPendingGnssEnabledMsgs.map (·.id) :=
        fun hmem => hid (mem_append_right _ hmem)
      simp only [queuedIds, filterMap_append, filterMap_client, hq, count_append,
        count_eq_zero_of_not_mem hnot, Nat.add_zero]
  · refine ⟨rfl, rfl, rfl, Nat.le_refl _, fun _ h => Or.inl h, fun id hid => Or.inl ?_,
      fun id _ _ => ?_⟩
    · rw [← hq]
      exact hid
    · rw [← hq]
      rfl

theorem quiet_pendingStart (a : LocAdapter) (msg : ClientMsg) : a.Quiet { a with
      pendingStarts := a.pendingStarts ++ [⟨a.nextId, msg⟩]
      nextId := a.nextId + 1 } where
  kind := rfl
  known := rfl
  pending := rfl
  nextId := Nat.le_succ _
  stray id h := by
    simp only [strayIds, map_append, mem_append] at h ⊢
    rcases h with (h | h) | h
    · exact Or.inl (Or.inl h)
    · have hid : id = a.nextId := by simpa using h
      exact Or.inr (by omega)
    · exact Or.inl (Or.inr h)
  queued _ h := Or.inl h
  count _ _ _ := rfl

theorem step_cases (a : LocAdapter) (e : AdapterEvent) :
    (a.Quiet (a.step e).1 ∧ (a.step e).2 = [] ∧ Parks (a, e) = false ∧
        HandlesEngineUp (a, e) = false) ∨
      (∃ obj rest, a.mMsgTask = .client obj :: rest ∧
        Quiet { a with mMsgTask := rest } (a.step e).1 ∧ (a.step e).2 = [.handled obj.id] ∧
        Parks (a, e) = false ∧ HandlesEngineUp (a, e) = false ∧
        (a.mIsEngineCapabilitiesKnown = true ∨ obj.msg.needsCapabilities = false)) ∨
      (∃ obj rest, a.mMsgTask = .client obj :: rest ∧ (a.step e).1 = { a with
          mMsgTask := rest
          mPendingMsgs := a.mPendingMsgs ++ [⟨a.nextId, obj.msg⟩]
          nextId := a.nextId + 1 } ∧
        (a.step e).2 = [.parked a.nextId] ∧ Parks (a, e) = true ∧
        HandlesEngineUp (a, e) = false ∧ a.mIsEngineCapabilitiesKnown = false) ∨
      (∃ rest, a.mMsgTask = .engineUp :: rest ∧
        a.step e = { a with mMsgTask := rest }.handleEngineUp ∧ Parks (a, e) = false ∧
        HandlesEngineUp (a, e) = true) := by
  cases e with
  | command msg =>
    refine Or.inl ?_
    simp only [step]
    split
    · exact ⟨quiet_command a msg, rfl, rfl, rfl⟩
    · exact ⟨.refl a, rfl, rfl, rfl⟩
  | handleEngineUpEvent => exact Or.inl ⟨quiet_sendMsg a rfl, rfl, rfl, rfl⟩
  | handleEngineLockStatusEvent state => exact Or.inl ⟨quiet_sendMsg a rfl, rfl, rfl, rfl⟩
  | setEngineLockState state =>
    exact Or.inl ⟨⟨rfl, rfl, rfl, Nat.le_refl _, fun _ h => Or.inl h, fun _ h => Or.inl h,
      fun _ _ _ => rfl⟩, rfl, rfl, rfl⟩
  | startBatchingResponse id gnssDisabled =>
    exact Or.inl ⟨quiet_startBatchingResponse a id gnssDisabled, rfl, rfl, rfl⟩
  | process starts =>
    cases hq : a.mMsgTask with
    | nil =>
      refine Or.inl ⟨?_, ?_, by simp [Parks, hq], by simp [HandlesEngineUp, hq]⟩
      · simpa only [step, hq] using Quiet.refl a
      · simp only [step, hq]
    | cons msg rest =>
      have hstep : a.step (.process starts) = { a with mMsgTask := rest }.proc starts msg := by
        simp only [step, hq]
      rw [hstep]
      cases msg with
      | engineUp =>
        exact Or.inr (Or.inr (Or.inr
          ⟨rest, rfl, rfl, by simp [Parks, hq], by simp [HandlesEngineUp, hq]⟩))
      | engineLockState state =>
        exact Or.inl ⟨quiet_handleEngineLockStatus hq, rfl, by simp [Parks, hq],
          by simp [HandlesEngineUp, hq]⟩
      | client obj =>
        have hup : HandlesEngineUp (a, .process starts) = false := by
          simp [HandlesEngineUp, hq]
        have hparks : Parks (a, .process starts) =
            (!a.mIsEngineCapabilitiesKnown && obj.msg.needsCapabilities) := by
          simp only [Parks, hq]
        simp only [proc, procClient]
        cases hp : !a.mIsEngineCapabilitiesKnown && obj.msg.needsCapabilities with
        | true =>
          have hknown : a.mIsEngineCapabilitiesKnown = false := by
            simp only [Bool.and_eq_true, Bool.not_eq_true'] at hp
            exact hp.1
          exact Or.inr (Or.inr (Or.inl ⟨obj, rest, rfl, rfl, rfl, hparks.trans hp, hup, hknown⟩))
        | false =>
          have hok : a.mIsEngineCapabilitiesKnown = true ∨
              obj.msg.needsCapabilities = false := by
            cases hk : a.mIsEngineCapabilitiesKnown with
            | true => exact Or.inl rfl
            | false => exact Or.inr (by simpa [hk] using hp)
          refine Or.inr (Or.inl ⟨obj, rest, rfl, ?_⟩)
          rw [if_neg Bool.false_ne_true]
          split
          · exact ⟨quiet_pendingStart _ _, rfl, hparks.trans hp, hup, hok⟩
          · exact ⟨.refl _, rfl, hparks.trans hp, hup, hok⟩

/-! ## The books of a run -/

/-- How often a parked message has been sent again after `n` engine-ups
that found the engine unlocked. -/
def sendsAfter (kind : AdapterKind) (n : Nat) : Nat :=
  if kind = .batching then min 1 n else n

/-- What is known of an adapter after a run in which `parkings` messages
were parked and `ups` engine-ups handled, `unlocked` of them with the engine
unlocked; `out` is what the adapter said. -/
structure Accounts (kind : AdapterKind) (parkings ups unlocked : Nat) (a : LocAdapter)
    (out : List AdapterOut) : Prop where
  kind_eq : a.kind = kind
  pending : a.mPendingMsgs.map (·.id) =
    if kind = .batching ∧ 0 < unlocked then [] else parkedIds out
  known : a.mIsEngineCapabilitiesKnown = false → ups = 0
  unlocked_le : unlocked ≤ ups
  length : (parkedIds out).length = parkings
  nodup : (parkedIds out).Nodup
  parked_lt : ∀ id ∈ parkedIds out, id < a.nextId
  queued_lt : ∀ id ∈ a.queuedIds, id < a.nextId
  stray_lt : ∀ id ∈ a.strayIds, id < a.nextId
  handled_lt : ∀ id ∈ handledIds out, id < a.nextId
  stray : ∀ id ∈ a.strayIds, id ∉ parkedIds out
  resent_parked : ∀ id ∈ resentIds out, id ∈ parkedIds out
  resent : ∀ id ∈ parkedIds out, (resentIds out).count id = sendsAfter kind unlocked
  conserved : ∀ id ∈ parkedIds out,
    (handledIds out).count id + a.queuedIds.count id = (resentIds out).count id

theorem accounts_new (kind : AdapterKind) (known : Bool) :
    Accounts kind 0 0 0 (new kind known) [] where
  kind_eq := rfl
  pending := by
    rw [if_neg (by simp)]
    rfl
  known _ := rfl
  unlocked_le := Nat.le_refl _
  length := rfl
  nodup := nodup_nil
  parked_lt _ h := nomatch h
  queued_lt _ h := nomatch h
  stray_lt _ h := nomatch h
  handled_lt _ h := nomatch h
  stray _ h := nomatch h
  resent_parked _ h := nomatch h
  resent _ h := nomatch h
  conserved _ h := nomatch h

section Step

variable {kind : AdapterKind} {parkings ups unlocked : Nat} {a a' : LocAdapter}
  {out : List AdapterOut} {obj : MsgObj} {rest : List LocMsg}

theorem Accounts.quiet (h : Accounts kind parkings ups unlocked a out) (hq : a.Quiet a') :
    Accounts kind parkings ups unlocked a' out where
  kind_eq := hq.kind.trans h.kind_eq
  pending := hq.pending ▸ h.pending
  known hk := h.known (hq.known ▸ hk)
  unlocked_le := h.unlocked_le
  length := h.length
  nodup := h.nodup
  parked_lt id hid := Nat.lt_of_lt_of_le (h.parked_lt id hid) hq.nextId
  queued_lt id hid := by
    rcases hq.queued id hid with hid | hid | hid
    · exact Nat.lt_of_lt_of_le (h.queued_lt id hid) hq.nextId
    · exact Nat.lt_of_lt_of_le (h.stray_lt id hid) hq.nextId
    · exact hid.2
  stray_lt id hid := by
    rcases hq.stray id hid with hid | hid
    · exact Nat.lt_of_lt_of_le (h.stray_lt id hid) hq.nextId
    · exact hid.2
  handled_lt id hid := Nat.lt_of_lt_of_le (h.handled_lt id hid) hq.nextId
  stray id hid hp := by
    rcases hq.stray id hid with hid | hid
    · exact h.stray id hid hp
    · exact absurd (h.parked_lt id hp) (Nat.not_lt.mpr hid.1)
  resent_parked := h.resent_parked
  resent := h.resent
  conserved id hid := by
    rw [hq.count id (h.parked_lt id hid) fun hs => h.stray id hs hid]
    exact h.conserved id hid

theorem queuedIds_of_client (hqueue : a.mMsgTask = .client obj :: rest) :
    a.queuedIds = obj.id :: rest.filterMap (·.clientId) := by
  rw [queuedIds, hqueue]
  rfl

section

variable (h : Accounts kind parkings ups unlocked a out)
include h

theorem Accounts.handled (hqueue : a.mMsgTask = .client obj :: rest) :
    Accounts kind parkings ups unlocked { a with mMsgTask := rest }
      (out ++ [.handled obj.id]) := by
  have hids := queuedIds_of_client hqueue
  have hparked : parkedIds (out ++ [.handled obj.id]) = parkedIds out := by
    rw [parkedIds_append]
    exact append_nil _
  have hresent : resentIds (out ++ [.handled obj.id]) = resentIds out := by
    rw [resentIds_append]
    exact append_nil _
  have hhandled : handledIds (out ++ [.handled obj.id]) = handledIds out ++ [obj.id] := by
    rw [handledIds_append]
    rfl
  have hin : obj.id ∈ a.queuedIds := hids ▸ mem_cons_self
  constructor
  case kind_eq => exact h.kind_eq
  case pending => rw [hparked]; exact h.pending
  case known => exact h.known
  case unlocked_le => exact h.unlocked_le
  case length => rw [hparked]; exact h.length
  case nodup => rw [hparked]; exact h.nodup
  case parked_lt => rw [hparked]; exact h.parked_lt
  case queued_lt => exact fun id hid => h.queued_lt id (hids ▸ mem_cons_of_mem _ hid)
  case stray_lt => exact h.stray_lt
  case handled_lt =>
    intro id hid
    rw [hhandled, mem_append, mem_singleton] at hid
    rcases hid with hid | rfl
    · exact h.handled_lt id hid
    · exact h.queued_lt _ hin
  case stray => rw [hparked]; exact h.stray
  case resent_parked => rw [hparked, hresent]; exact h.resent_parked
  case resent => rw [hparked, hresent]; exact h.resent
  case conserved =>
    intro id hid
    rw [hparked] at hid
    have hold := h.conserved id hid
    rw [hids, count_cons] at hold
    rw [hresent, hhandled, count_append, count_singleton, ← hold]
    show _ + (rest.filterMap (·.clientId)).count id = _
    omega

theorem Accounts.parked (hqueue : a.mMsgTask = .client obj :: rest)
    (hknown : a.mIsEngineCapabilitiesKnown = false) :
    Accounts kind (parkings + 1) ups unlocked { a with
        mMsgTask := rest
        mPendingMsgs := a.mPendingMsgs ++ [⟨a.nextId, obj.msg⟩]
        nextId := a.nextId + 1 }
      (out ++ [.parked a.nextId]) := by
  have hids := queuedIds_of_client hqueue
  have hparked : parkedIds (out ++ [.parked a.nextId]) = parkedIds out ++ [a.nextId] := by
    rw [parkedIds_append]
    rfl
  have hresent : resentIds (out ++ [.parked a.nextId]) = resentIds out := by
    rw [resentIds_append]
    exact append_nil _
  have hhandled : handledIds (out ++ [.parked a.nextId]) = handledIds out := by
    rw [handledIds_append]
    exact append_nil _
  -- while the capabilities are unknown nothing has been sent from the list
  have hups : ups = 0 := h.known hknown
  have hun : unlocked = 0 := Nat.le_zero.mp (hups ▸ h.unlocked_le)
  have hzero : sendsAfter kind unlocked = 0 := by
    rw [hun, sendsAfter]
    split <;> rfl
  have hnew : a.nextId ∉ parkedIds out := fun hmem => absurd (h.parked_lt _ hmem) (Nat.lt_irrefl _)
  constructor
  case kind_eq => exact h.kind_eq
  case pending =>
    have hpend := h.pending
    rw [if_neg (by omega)] at hpend ⊢
    rw [hparked, map_append, hpend]
    rfl
  case known => exact fun _ => hups
  case unlocked_le => exact h.unlocked_le
  case length => rw [hparked, length_append, h.length]; rfl
  case nodup =>
    rw [hparked]
    exact h.nodup.append (nodup_singleton _) (disjoint_singleton.mpr hnew)
  case parked_lt =>
    intro id hid
    rw [hparked, mem_append, mem_singleton] at hid
    rcases hid with hid | rfl
    · exact Nat.lt_succ_of_lt (h.parked_lt id hid)
    · exact Nat.lt_succ_self _
  case queued_lt =>
    exact fun id hid => Nat.lt_succ_of_lt (h.queued_lt id (hids ▸ mem_cons_of_mem _ hid))
  case stray_lt => exact fun id hid => Nat.lt_succ_of_lt (h.stray_lt id hid)
  case handled_lt =>
    rw [hhandled]
    exact fun id hid => Nat.lt_succ_of_lt (h.handled_lt id hid)
  case stray =>
    intro id hid hmem
    rw [hparked, mem_append, mem_singleton] at hmem
    rcases hmem with hmem | rfl
    · exact h.stray id hid hmem
    · exact absurd (h.stray_lt _ hid) (Nat.lt_irrefl _)
  case resent_parked =>
    rw [hparked, hresent]
    exact fun id hid => mem_append_left _ (h.resent_parked id hid)
  case resent =>
    intro id hid
    rw [hparked, mem_append, mem_singleton] at hid
    rw [hresent]
    rcases hid with hid | rfl
    · exact h.resent id hid
    · rw [hzero, count_eq_zero]
      exact fun hmem => hnew (h.resent_parked _ hmem)
  case conserved =>
    intro id hid
    rw [hparked, mem_append, mem_singleton] at hid
    rw [hresent, hhandled]
    rcases hid with hid | rfl
    · have hold := h.conserved id hid
      have hres := h.resent id hid
      rw [hids, count_cons] at hold
      show _ + (rest.filterMap (·.clientId)).count id = _
      omega
    · have hc : (handledIds out).count a.nextId = 0 :=
        count_eq_zero.mpr fun hmem => absurd (h.handled_lt _ hmem) (Nat.lt_irrefl _)
      have hr : (resentIds out).count a.nextId = 0 :=
        count_eq_zero.mpr fun hmem => hnew (h.resent_parked _ hmem)
      rw [hc, hr, Nat.zero_add, count_eq_zero]
      exact fun hmem =>
        absurd (h.queued_lt _ (hids ▸ mem_cons_of_mem _ hmem)) (Nat.lt_irrefl _)

theorem Accounts.locked :
    Accounts kind parkings (ups + 1) unlocked { a with mIsEngineCapabilitiesKnown := true } out :=
  { h with
    known := fun hk => nomatch hk
    unlocked_le := Nat.le_succ_of_le h.unlocked_le }

end

theorem parkedIds_map_resent (objs : List MsgObj) :
    parkedIds (objs.map fun obj => .resent obj.id) = [] := by
  induction objs with
  | nil => rfl
  | cons obj objs ih => exact ih

theorem handledIds_map_resent (objs : List MsgObj) :
    handledIds (objs.map fun obj => .resent obj.id) = [] := by
  induction objs with
  | nil => rfl
  | cons obj objs ih => exact ih

theorem resentIds_map_resent (objs : List MsgObj) :
    resentIds (objs.map fun obj => .resent obj.id) = objs.map (·.id) := by
  induction objs with
  | nil => rfl
  | cons obj objs ih => exact congrArg (obj.id :: ·) ih

theorem sendsAfter_succ (kind : AdapterKind) (n : Nat) :
    sendsAfter kind (n + 1) = sendsAfter kind n + if kind = .batching ∧ 0 < n then 0 else 1 := by
  unfold sendsAfter
  by_cases hk : kind = .batching
  · rw [if_pos hk, if_pos hk]
    by_cases hn : 0 < n
    · rw [if_pos ⟨hk, hn⟩]
      omega
    · rw [if_neg fun h => hn h.2]
      omega
  · rw [if_neg hk, if_neg hk, if_neg fun h => hk h.1]

theorem Accounts.flushed (h : Accounts kind parkings ups unlocked a out) :
    Accounts kind parkings (ups + 1) (unlocked + 1) { a with
        mIsEngineCapabilitiesKnown := true
        mPendingMsgs := if a.kind = .batching then [] else a.mPendingMsgs
        mMsgTask := a.mMsgTask ++ a.mPendingMsgs.map .client }
      (out ++ a.mPendingMsgs.map fun obj => .resent obj.id) := by
  have hparked : parkedIds (out ++ a.mPendingMsgs.map fun obj => .resent obj.id) =
      parkedIds out := by
    rw [parkedIds_append, parkedIds_map_resent, append_nil]
  have hhandled : handledIds (out ++ a.mPendingMsgs.map fun obj => .resent obj.id) =
      handledIds out := by
    rw [handledIds_append, handledIds_map_resent, append_nil]
  have hresent : resentIds (out ++ a.mPendingMsgs.map fun obj => .resent obj.id) =
      resentIds out ++ a.mPendingMsgs.map (·.id) := by
    rw [resentIds_append, resentIds_map_resent]
  have hqueue : ∀ p k, ({ a with
        mIsEngineCapabilitiesKnown := k
        mPendingMsgs := p
        mMsgTask := a.mMsgTask ++ a.mPendingMsgs.map .client } : LocAdapter).queuedIds =
      a.queuedIds ++ a.mPendingMsgs.map (·.id) := by
    intro p k
    rw [queuedIds, filterMap_append, filterMap_client]
    rfl
  -- what is in the list is what was parked, or nothing
  have hsub : ∀ id ∈ a.mPendingMsgs.map (·.id), id ∈ parkedIds out := by
    intro id hid
    rw [h.pending] at hid
    split at hid
    · exact absurd hid not_mem_nil
    · exact hid
  have hcount : ∀ id ∈ parkedIds out, (a.mPendingMsgs.map (·.id)).count id =
      if kind = .batching ∧ 0 < unlocked then 0 else 1 := by
    intro id hid
    rw [h.pending]
    split
    · rfl
    · exact count_eq_one_of_mem h.nodup hid
  constructor
  case kind_eq => exact h.kind_eq
  case pending =>
    show (if a.kind = .batching then [] else a.mPendingMsgs).map (·.id) = _
    rw [hparked, h.kind_eq]
    by_cases hk : kind = .batching
    · rw [if_pos hk, if_pos ⟨hk, Nat.succ_pos _⟩]
      rfl
    · rw [if_neg hk, if_neg fun hb => hk hb.1, h.pending, if_neg fun hb => hk hb.1]
  case known => exact fun hk => nomatch hk
  case unlocked_le => exact Nat.succ_le_succ h.unlocked_le
  case length => rw [hparked]; exact h.length
  case nodup => rw [hparked]; exact h.nodup
  case parked_lt => rw [hparked]; exact h.parked_lt
  case queued_lt =>
    intro id hid
    rw [hqueue, mem_append] at hid
    rcases hid with hid | hid
    · exact h.queued_lt id hid
    · exact h.parked_lt id (hsub id hid)
  case stray_lt => exact h.stray_lt
  case handled_lt => rw [hhandled]; exact h.handled_lt
  case stray => rw [hparked]; exact h.stray
  case resent_parked =>
    intro id hid
    rw [hresent, mem_append] at hid
    rw [hparked]
    rcases hid with hid | hid
    · exact h.resent_parked id hid
    · exact hsub id hid
  case resent =>
    intro id hid
    rw [hparked] at hid
    rw [hresent, count_append, h.resent id hid, hcount id hid, sendsAfter_succ]
  case conserved =>
    intro id hid
    rw [hparked] at hid
    rw [hhandled, hresent, hqueue, count_append, count_append, ← Nat.add_assoc, h.conserved id hid]

theorem Accounts.step (h : Accounts kind parkings ups unlocked a out) (e : AdapterEvent) :
    Accounts kind (parkings + (Parks (a, e)).toNat) (ups + (HandlesEngineUp (a, e)).toNat)
      (unlocked + (HandlesUnlocked (a, e)).toNat) (a.step e).1 (out ++ (a.step e).2) := by
  rcases step_cases a e with ⟨hq, hout, hparks, hup⟩ |
    ⟨obj, rest, hqueue, hq, hout, hparks, hup, -⟩ |
    ⟨obj, rest, hqueue, hst, hout, hparks, hup, hknown⟩ | ⟨rest, hqueue, hst, hparks, hup⟩
  · rw [hout, hparks, HandlesUnlocked, hup, append_nil]
    exact h.quiet hq
  · rw [hout, hparks, HandlesUnlocked, hup]
    exact (h.handled hqueue).quiet hq
  · rw [hst, hout, hparks, HandlesUnlocked, hup]
    exact h.parked hqueue hknown
  · have hpop : Accounts kind parkings ups unlocked { a with mMsgTask := rest } out := by
      have hids : rest.filterMap (·.clientId) = a.queuedIds := by
        rw [queuedIds, hqueue]
        rfl
      exact h.quiet ⟨rfl, rfl, rfl, Nat.le_refl _, fun _ hid => Or.inl hid,
        fun _ hid => Or.inl (hids ▸ hid), fun id _ _ => congrArg (List.count id) hids⟩
    rw [hst, handleEngineUp_eq, hparks, hup]
    by_cases hlock : a.mEngineLockState = .enabled
    · have hun : HandlesUnlocked (a, e) = true := by simp [HandlesUnlocked, hup, hlock]
      rw [if_pos hlock, hun]
      exact hpop.flushed
    · have hun : HandlesUnlocked (a, e) = false := by simp [HandlesUnlocked, hlock]
      rw [if_neg hlock, hun, append_nil]
      exact hpop.locked

end Step

theorem accounts_after (kind : AdapterKind) (known : Bool) (es : List AdapterEvent) :
    Accounts kind ((taken step (new kind known) es).countP Parks)
      ((taken step (new kind known) es).countP HandlesEngineUp)
      ((taken step (new kind known) es).countP HandlesUnlocked)
      (after step (new kind known) es) (outs step (new kind known) es) := by
  refine recorded_after (R := fun a tr out => Accounts kind (tr.countP Parks)
    (tr.countP HandlesEngineUp) (tr.countP HandlesUnlocked) a out) ?_ (accounts_new kind known) es
  intro a e tr out h
  have hone : ∀ p : LocAdapter × AdapterEvent → Bool,
      (tr ++ [(a, e)]).countP p = tr.countP p + (p (a, e)).toNat := by
    intro p
    rw [countP_append, countP_singleton]
    cases p (a, e) <;> rfl
  rw [hone, hone, hone]
  exact h.step e

/-! ## Parked messages are sent once -/

/-- If an engine-up event has been handled, every message parked before has
been sent again once, and has been processed once or still is in the
queue. -/
def ResentOnce (kind : AdapterKind) (known : Bool) (es : List AdapterEvent) : Prop :=
  0 < (taken step (new kind known) es).countP HandlesEngineUp →
    ∀ id ∈ parkedIds (outs step (new kind known) es),
      (resentIds (outs step (new kind known) es)).count id = 1 ∧
        (handledIds (outs step (new kind known) es)).count id +
          (after step (new kind known) es).queuedIds.count id = 1

/-- In a run that parked a message and handled an engine-up event, every
parked message is sent again once exactly if the unlocked engine-ups were as
many as the adapter's handler allows: at least one where it clears the list,
one where it does not. -/
theorem resentOnce_iff (kind : AdapterKind) (known : Bool) (es : List AdapterEvent) :
    ResentOnce kind known es ↔ (taken step (new kind known) es).countP Parks = 0 ∨
        (taken step (new kind known) es).countP HandlesEngineUp = 0 ∨
        if kind = .batching then 0 < (taken step (new kind known) es).countP HandlesUnlocked
        else (taken step (new kind known) es).countP HandlesUnlocked = 1 := by
  have h := accounts_after kind known es
  unfold ResentOnce
  generalize (taken step (new kind known) es).countP Parks = parkings at h ⊢
  generalize (taken step (new kind known) es).countP HandlesEngineUp = ups at h ⊢
  generalize (taken step (new kind known) es).countP HandlesUnlocked = unlocked at h ⊢
  have hsends : sendsAfter kind unlocked = 1 ↔
      if kind = .batching then 0 < unlocked else unlocked = 1 := by
    unfold sendsAfter
    split <;> omega
  rw [← hsends]
  constructor
  · intro hall
    rcases Nat.eq_zero_or_pos parkings with hp | hp
    · exact Or.inl hp
    rcases Nat.eq_zero_or_pos ups with hu | hu
    · exact Or.inr (Or.inl hu)
    obtain ⟨id, hid⟩ := exists_mem_of_length_pos (h.length ▸ hp)
    exact Or.inr (Or.inr ((h.resent id hid).symm.trans (hall hu id hid).1))
  · rintro (hp | hu | hs) hups id hid
    · rw [length_eq_zero_iff.mp (h.length.trans hp)] at hid
      exact absurd hid not_mem_nil
    · exact absurd hu (Nat.pos_iff_ne_zero.mp hups)
    · have hone := (h.resent id hid).trans hs
      exact ⟨hone, (h.conserved id hid).trans hone⟩

/-- A client asks for the capabilities before they are known, and the modem
comes up twice. -/
theorem not_resentOnce_of_restart :
    ¬ ∀ (kind : AdapterKind) (known : Bool) (es : List AdapterEvent), ResentOnce kind known es := by
  intro hall
  have h := hall .gnss false
    [.command .requestCapabilities, .process false, .handleEngineUpEvent, .process false,
      .handleEngineUpEvent, .process false, .process false] (by decide) 1 (by decide)
  exact absurd h.1 (by decide)

end LocAdapter

end LocStack.Adapter
