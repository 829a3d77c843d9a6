/-
# `LocStack.LocApi.SyncReq` — requests that wait for their indication

loc_sync_send_req takes one of eight slots, sends a request and waits for an
indication; loc_sync_process_ind, on another thread, looks for the slots that
wait for the one that has come.  A step here is what a thread does under a
mutex, or one call of locClientSendReq:

    loc_sync_send_req    the lowest free slot is taken             allocated
    select               what is waited for is stored in it        selected
    send                 locClientSendReq                          sent
    wait                 it has arrived, or the thread waits       waiting
    wake                 it was signalled, or the time is out      ended
    free                 the slot is cleared, the call returns     returned

loc_sync_process_ind goes over the slots from the lowest on, and stops behind
the first that it copies a payload for.  `hit` says which ones it has served.

`justified_iff`: what succeeds was sent and has had its indication, and in_use
says whether a slot is in use, if and only if every call finds a free slot.
-/
import LocStack.Base.Run
import Mathlib.Data.List.FinRange

namespace LocStack.LocApi

open Base List Function Option

/-! ## Slots and calls -/

inductive LocClientStatus where
  | eLOC_CLIENT_SUCCESS | eLOC_CLIENT_FAILURE_GENERAL | eLOC_CLIENT_FAILURE_UNSUPPORTED
  | eLOC_CLIENT_FAILURE_INVALID_PARAMETER | eLOC_CLIENT_FAILURE_ENGINE_BUSY
  | eLOC_CLIENT_FAILURE_PHONE_OFFLINE | eLOC_CLIENT_FAILURE_TIMEOUT
  | eLOC_CLIENT_FAILURE_SERVICE_NOT_PRESENT | eLOC_CLIENT_FAILURE_SERVICE_VERSION_UNSUPPORTED
  | eLOC_CLIENT_FAILURE_CLIENT_VERSION_UNSUPPORTED | eLOC_CLIENT_FAILURE_INVALID_HANDLE
  | eLOC_CLIENT_FAILURE_INTERNAL | eLOC_CLIENT_FAILURE_NOT_INITIALIZED
  | eLOC_CLIENT_FAILURE_NOT_ENOUGH_MEMORY | eLOC_CLIENT_FAILURE_INVALID_MESSAGE_ID
  deriving DecidableEq

open LocClientStatus

abbrev LOC_SYNC_REQ_BUFFER_SIZE : Nat := 8

abbrev SlotId := Fin LOC_SYNC_REQ_BUFFER_SIZE

/-- A handle, by a number; 0 is LOC_CLIENT_INVALID_HANDLE_VALUE. -/
abbrev ClientHandle := Nat

structure Indication where
  client_handle : ClientHandle
  ind_id : UInt32
  payload : Option (List UInt8)

/-- What there is to be copied. -/
def Indication.bytes (ind : Indication) : List UInt8 := ind.payload.getD []

/-- A slot, with whether it is in use. -/
structure SyncSlot where
  slot_in_use : Bool
  client_handle : ClientHandle
  (ind_is_selected ind_is_waiting ind_has_arrived : Bool)
  req_id : UInt32
  /-- the call whose buffer it is -/
  recv_ind_payload_ptr : Option Nat
  recv_ind_id : UInt32
  /-- whether the thread that waits has been signalled -/
  signalled : Bool
  /-- the call that the slot was given to -/
  holder : Option Nat

def SyncSlot.cleared : SyncSlot := ⟨false, 0, false, false, false, 0, none, 0, false, none⟩

/-- Whether an indication is one that the slot waits for. -/
def SyncSlot.waitsFor (slot : SyncSlot) (ind : Indication) : Prop :=
  slot.slot_in_use = true ∧ slot.client_handle = ind.client_handle ∧
    ind.ind_id = slot.recv_ind_id ∧ slot.ind_has_arrived = false
  deriving Decidable

/-- Whether its payload is copied, and the search ends there. -/
def SyncSlot.consumes (slot : SyncSlot) (ind : Indication) : Prop :=
  slot.recv_ind_payload_ptr.isSome ∧ ind.bytes ≠ []
  deriving Decidable

inductive Phase where
  | allocated (select_id : SlotId)
  | selected (select_id : SlotId)
  | sent (select_id : SlotId)
  | waiting (select_id : SlotId)
  | ended (select_id : SlotId) (status : LocClientStatus)
  | returned (status : LocClientStatus)
  deriving DecidableEq

/-- The slot that has not been freed. -/
def Phase.slot? : Phase → Option SlotId
  | allocated i | selected i | sent i | waiting i | ended i _ => some i
  | returned _ => none

structure SyncCall where
  client_handle : ClientHandle
  (req_id ind_id : UInt32)
  /-- what ind_payload_ptr points to -/
  buffer : Option (List UInt8)
  phase : Phase
  /-- whether locClientSendReq has taken the request -/
  sent : Bool
  /-- how many indications had come before it began -/
  since : Nat
  deriving DecidableEq

namespace SyncCall

variable (call : SyncCall)

def memcpy (bytes : List UInt8) : SyncCall :=
  { call with buffer := call.buffer.map fun buf => bytes ++ buf.drop bytes.length }

def goto (phase : Phase) : SyncCall := { call with phase }

end SyncCall

structure SyncArray where
  in_use : Bool
  slots : SlotId → SyncSlot
  calls : Nat → Option SyncCall
  /-- how many calls there were -/
  made : Nat
  /-- the indications that have come -/
  inds : List Indication
  /-- the requests that were sent and are not answered, in the order of sending -/
  owed : List Nat
  /-- for each indication the request that it answers, and the calls it has hit -/
  hit : List (Option Nat × List (Option Nat))

inductive SyncEvent where
  | loc_sync_send_req (client_handle : ClientHandle) (req_id ind_id : UInt32)
      (buffer : Option (List UInt8))
  | select (c : Nat)
  | send (c : Nat) (status : LocClientStatus)
  | wait (c : Nat)
  | wake (c : Nat) (timedOut : Bool)
  | free (c : Nat)
  /-- an indication, and the request that it answers -/
  | loc_sync_process_ind (ind : Indication) (answers : Option Nat)

namespace SyncArray

def new : SyncArray where
  in_use := false
  slots := fun _ => .cleared
  calls := fun _ => none
  made := 0
  inds := []
  owed := []
  hit := []

variable (s : SyncArray)

def setSlot (i : SlotId) (slot : SyncSlot) : SyncArray :=
  { s with slots := update s.slots i slot }

def setCall (c : Nat) (call : SyncCall) : SyncArray :=
  { s with calls := update s.calls c (some call) }

def firstFree : Option SlotId :=
  (List.finRange LOC_SYNC_REQ_BUFFER_SIZE).find? fun i => !(s.slots i).slot_in_use

/-- `loc_alloc_slot`.  Without a free slot the call returns the status that it
has been initialized with. -/
def begin (client_handle : ClientHandle) (req_id ind_id : UInt32) (buffer : Option (List UInt8)) :
    SyncArray :=
  let call (phase : Phase) : SyncCall :=
    ⟨client_handle, req_id, ind_id, buffer, phase, false, s.inds.length⟩
  let t := { s with made := s.made + 1 }
  match s.firstFree with
  | none => t.setCall s.made (call (.returned eLOC_CLIENT_SUCCESS))
  | some i =>
    let t := t.setSlot i { s.slots i with slot_in_use := true, holder := some s.made }
    { t.setCall s.made (call (.allocated i)) with in_use := true }

/-- `loc_sync_select_ind` -/
def select (c : Nat) (call : SyncCall) (i : SlotId) : SyncArray :=
  (s.setSlot i { s.slots i with
    client_handle := call.client_handle
    ind_is_selected := true
    ind_is_waiting := false
    ind_has_arrived := false
    recv_ind_id := call.ind_id
    req_id := call.req_id
    recv_ind_payload_ptr := call.buffer.map fun _ => c }).setCall c (call.goto (.selected i))

def send (c : Nat) (call : SyncCall) (i : SlotId) (status : LocClientStatus) : SyncArray :=
  if status = eLOC_CLIENT_SUCCESS then
    { s.setCall c { call with phase := .sent i, sent := true } with owed := s.owed ++ [c] }
  else s.setCall c (call.goto (.ended i status))

/-- `loc_sync_wait_for_ind`, until the thread waits. -/
def wait (c : Nat) (call : SyncCall) (i : SlotId) : SyncArray :=
  if (s.slots i).slot_in_use = false then
    s.setCall c (call.goto (.returned eLOC_CLIENT_FAILURE_INTERNAL))
  else if (s.slots i).ind_has_arrived then s.setCall c (call.goto (.ended i eLOC_CLIENT_SUCCESS))
  else if (s.slots i).ind_is_waiting then
    s.setCall c (call.goto (.ended i eLOC_CLIENT_FAILURE_INTERNAL))
  else
    (s.setSlot i { s.slots i with ind_is_waiting := true, signalled := false }).setCall c
      (call.goto (.waiting i))

/-- A wait that has not timed out ends when it is signalled. -/
def wake (c : Nat) (call : SyncCall) (i : SlotId) (timedOut : Bool) : SyncArray :=
  let t := s.setSlot i { s.slots i with ind_is_waiting := false }
  if timedOut then t.setCall c (call.goto (.ended i eLOC_CLIENT_FAILURE_TIMEOUT))
  else if (s.slots i).signalled then t.setCall c (call.goto (.ended i eLOC_CLIENT_SUCCESS))
  else s

/-- `loc_free_slot` -/
def free (c : Nat) (call : SyncCall) (i : SlotId) (status : LocClientStatus) : SyncArray :=
  let t := (s.setSlot i .cleared).setCall c (call.goto (.returned status))
  if ∀ j, (t.slots j).slot_in_use = false then { t with in_use := false } else t

/-! ## An indication -/

/-- What it does to a slot that waits for it. -/
def deliver (ind : Indication) (i : SlotId) : SyncArray :=
  let slot := s.slots i
  { s.setSlot i (if slot.ind_is_waiting then
        { slot with recv_ind_id := ind.ind_id, signalled := true }
      else { slot with ind_has_arrived := true }) with
    calls := if slot.consumes ind then
        slot.recv_ind_payload_ptr.elim s.calls fun d =>
          update s.calls d ((s.calls d).map (·.memcpy ind.bytes))
      else s.calls }

/-- The loop over the slots: the array, in_use, and the slots that are hit. -/
def scan (ind : Indication) : SyncArray → Bool → List SlotId → SyncArray × Bool × List SlotId
  | s, in_use, [] => (s, in_use, [])
  | s, in_use, i :: is =>
    let in_use := in_use || (s.slots i).slot_in_use
    if (s.slots i).waitsFor ind then
      if (s.slots i).consumes ind then (s.deliver ind i, in_use, [i])
      else
        let (t, in_use, hits) := scan ind (s.deliver ind i) in_use is
        (t, in_use, i :: hits)
    else scan ind s in_use is

/-- The array after an indication, and the slots that it has hit. -/
def processInd (ind : Indication) : SyncArray × List SlotId :=
  if s.in_use = false then (s, [])
  else
    let (t, in_use, hits) := scan ind s false (List.finRange LOC_SYNC_REQ_BUFFER_SIZE)
    (if in_use then t else { t with in_use := false }, hits)

/-! ## Steps -/

/-- The next step of a thread, where `next` has one for the phase it is in. -/
def thread (c : Nat) (next : SyncCall → Phase → Option SyncArray) : SyncArray :=
  match s.calls c with
  | none => s
  | some call => (next call call.phase).getD s

def step : SyncEvent → SyncArray × List Empty
  | .loc_sync_send_req client_handle req_id ind_id buffer =>
    (s.begin client_handle req_id ind_id buffer, [])
  | .select c => (s.thread c fun call => fun
      | .allocated i => some (s.select c call i)
      | _ => none, [])
  | .send c status => (s.thread c fun call => fun
      | .selected i => some (s.send c call i status)
      | _ => none, [])
  | .wait c => (s.thread c fun call => fun
      | .sent i => some (s.wait c call i)
      | _ => none, [])
  | .wake c timedOut => (s.thread c fun call => fun
      | .waiting i => some (s.wake c call i timedOut)
      | _ => none, [])
  | .free c => (s.thread c fun call => fun
      | .ended i status => some (s.free c call i status)
      | _ => none, [])
  | .loc_sync_process_ind ind answers =>
    let (t, hits) := { s with inds := s.inds ++ [ind] }.processInd ind
    ({ t with
      owed := answers.elim s.owed s.owed.erase
      hit := s.hit ++ [(answers, hits.map fun i => (s.slots i).holder)] }, [])

/-! ## As it should be -/

/-- An indication that the call waits for has come since it began, and what it
has brought is in the buffer. -/
def Heard (call : SyncCall) : Prop :=
  ∃ ind ∈ s.inds.drop call.since, ind.client_handle = call.client_handle ∧
    ind.ind_id = call.ind_id ∧ ∀ buf, call.buffer = some buf → ind.bytes <+: buf

structure Justified : Prop where
  of_success : ∀ c call, s.calls c = some call → call.phase = .returned eLOC_CLIENT_SUCCESS →
    call.sent = true ∧ s.Heard call
  in_use_iff : s.in_use = true ↔ ∃ i, (s.slots i).slot_in_use = true

/-- What is asked of a step. -/
def FindsSlot : SyncEvent → Prop
  | .loc_sync_send_req .. => ∃ i, (s.slots i).slot_in_use = false
  | _ => True

/-! ## What a call has of its slot -/

def Holds (c : Nat) (i : SlotId) : Prop :=
  (s.slots i).slot_in_use = true ∧ (s.slots i).holder = some c

/-- The slot says what the call waits for. -/
structure Filled (c : Nat) (call : SyncCall) (i : SlotId) : Prop where
  holds : s.Holds c i
  client_handle_eq : (s.slots i).client_handle = call.client_handle
  recv_ind_id_eq : (s.slots i).recv_ind_id = call.ind_id
  ptr_eq : (s.slots i).recv_ind_payload_ptr = call.buffer.map fun _ => c

/-- What is known of a call, by its phase. -/
def CallOk (c : Nat) (call : SyncCall) : Prop :=
  match call.phase with
  | .allocated i => s.Holds c i
  | .selected i => s.Filled c call i ∧ ((s.slots i).ind_has_arrived = true → s.Heard call)
  | .sent i => s.Filled c call i ∧ call.sent = true ∧
      ((s.slots i).ind_has_arrived = true → s.Heard call)
  | .waiting i => s.Filled c call i ∧ call.sent = true ∧
      ((s.slots i).signalled = true → s.Heard call)
  | .ended i status => s.Filled c call i ∧
      (status = eLOC_CLIENT_SUCCESS → call.sent = true ∧ s.Heard call)
  | .returned status => status = eLOC_CLIENT_SUCCESS → call.sent = true ∧ s.Heard call

/-- Every slot in use has been given to one call, and points into its buffer
only. -/
structure Threads : Prop where
  fresh : ∀ c, s.made ≤ c → s.calls c = none
  since_le : ∀ c call, s.calls c = some call → call.since ≤ s.inds.length
  ok : ∀ c call, s.calls c = some call → s.CallOk c call
  of_holder : ∀ i c, (s.slots i).holder = some c →
    ∃ call, s.calls c = some call ∧ call.phase.slot? = some i
  of_ptr : ∀ i c, (s.slots i).recv_ind_payload_ptr = some c → (s.slots i).holder = some c

theorem threads_new : new.Threads :=
  ⟨fun _ _ => rfl, nofun, nofun, nofun, nofun⟩

variable {s} {t : SyncArray} {c : Nat} {call call' : SyncCall} {i : SlotId} {slot : SyncSlot}
  {ind : Indication}

theorem CallOk.holds (h : s.CallOk c call) (hi : call.phase.slot? = some i) : s.Holds c i := by
  unfold CallOk at h
  split at h <;> rename_i hphase <;> rw [hphase] at hi
  · exact some.inj hi ▸ h
  · exact some.inj hi ▸ h.1.holds
  · exact some.inj hi ▸ h.1.holds
  · exact some.inj hi ▸ h.1.holds
  · exact some.inj hi ▸ h.1.holds
  · cases hi

theorem CallOk.congr (h : s.CallOk c call) (hheard : s.Heard call → t.Heard call)
    (hslot : ∀ i, call.phase.slot? = some i → t.slots i = s.slots i) : t.CallOk c call := by
  have hholds : ∀ i, t.slots i = s.slots i → s.Holds c i → t.Holds c i := by
    intro i hi hholds
    unfold Holds
    rw [hi]
    exact hholds
  have hfilled : ∀ i, t.slots i = s.slots i → s.Filled c call i → t.Filled c call i := by
    intro i hi hfilled
    obtain ⟨hh, h1, h2, h3⟩ := hfilled
    exact ⟨hholds i hi hh, hi ▸ h1, hi ▸ h2, hi ▸ h3⟩
  unfold CallOk at h ⊢
  split at h <;> rename_i hphase <;> simp only [hphase] at hslot ⊢
  · exact hholds _ (hslot _ rfl) h
  · refine ⟨hfilled _ (hslot _ rfl) h.1, ?_⟩
    rw [hslot _ rfl]
    exact fun ha => hheard (h.2 ha)
  · refine ⟨hfilled _ (hslot _ rfl) h.1, h.2.1, ?_⟩
    rw [hslot _ rfl]
    exact fun ha => hheard (h.2.2 ha)
  · refine ⟨hfilled _ (hslot _ rfl) h.1, h.2.1, ?_⟩
    rw [hslot _ rfl]
    exact fun ha => hheard (h.2.2 ha)
  · exact ⟨hfilled _ (hslot _ rfl) h.1, fun hst => ⟨(h.2 hst).1, hheard (h.2 hst).2⟩⟩
  · exact fun hst => ⟨(h hst).1, hheard (h hst).2⟩

variable {d : Nat} {other : SyncCall} {j : SlotId} {status : LocClientStatus}

theorem Threads.slot_ne (h : s.Threads) (hcall : s.calls c = some call)
    (hi : call.phase.slot? = some i) (hd : s.calls d = some other) (hne : d ≠ c)
    (hj : other.phase.slot? = some j) : j ≠ i := by
  rintro rfl
  have hc := ((h.ok c call hcall).holds hi).2
  have hd := ((h.ok d other hd).holds hj).2
  exact hne (some.inj (hd.symm.trans hc))

theorem Heard.congr (h : s.Heard call) (hinds : t.inds = s.inds) : t.Heard call := by
  unfold Heard
  rw [hinds]
  exact h

theorem Threads.congr (h : s.Threads) (hcalls : t.calls = s.calls) (hslots : t.slots = s.slots)
    (hinds : t.inds = s.inds) (hmade : t.made = s.made) : t.Threads where
  fresh := by rw [hcalls, hmade]; exact h.fresh
  since_le := by rw [hcalls, hinds]; exact h.since_le
  ok c call hcall := by
    rw [hcalls] at hcall
    exact (h.ok c call hcall).congr (·.congr hinds) fun i _ => by rw [hslots]
  of_holder := by rw [hcalls, hslots]; exact h.of_holder
  of_ptr := by rw [hslots]; exact h.of_ptr

/-! ## One slot and one call -/

@[simp] theorem slots_setSlot_self (s : SyncArray) (i : SlotId) (slot : SyncSlot) :
    (s.setSlot i slot).slots i = slot := update_self _ _ _

theorem slots_setSlot_of_ne (h : j ≠ i) :
    (s.setSlot i slot).slots j = s.slots j := update_of_ne h _ _

@[simp] theorem slots_setCall (s : SyncArray) (c : Nat) (call : SyncCall) :
    (s.setCall c call).slots = s.slots := rfl

@[simp] theorem calls_setCall_self (s : SyncArray) (c : Nat) (call : SyncCall) :
    (s.setCall c call).calls c = some call := update_self _ _ _

theorem calls_setCall_of_ne (h : d ≠ c) :
    (s.setCall c call).calls d = s.calls d := update_of_ne h _ _

@[simp] theorem setSlot_self (s : SyncArray) (i : SlotId) : s.setSlot i (s.slots i) = s := by
  unfold setSlot
  rw [update_eq_self]

theorem Threads.act (h : s.Threads) (hcall : s.calls c = some call)
    (hi : call.phase.slot? = some i) (hsince : call'.since = call.since)
    (hholder : ∀ d, slot.holder = some d → d = c ∧ call'.phase.slot? = some i)
    (hptr : ∀ d, slot.recv_ind_payload_ptr = some d → slot.holder = some d)
    (hok : ((s.setSlot i slot).setCall c call').CallOk c call') :
    ((s.setSlot i slot).setCall c call').Threads where
  fresh d hd := by
    have hne : d ≠ c := by
      rintro rfl
      exact some_ne_none call (hcall.symm.trans (h.fresh d hd))
    rw [calls_setCall_of_ne hne]
    exact h.fresh d hd
  since_le d other hd := by
    by_cases hdc : d = c
    · subst hdc
      rw [calls_setCall_self] at hd
      obtain rfl := some.inj hd
      exact hsince ▸ h.since_le d call hcall
    · rw [calls_setCall_of_ne hdc] at hd
      exact h.since_le d other hd
  ok d other hd := by
    by_cases hdc : d = c
    · subst hdc
      rw [calls_setCall_self] at hd
      obtain rfl := some.inj hd
      exact hok
    · rw [calls_setCall_of_ne hdc] at hd
      refine (h.ok d other hd).congr id fun j hj => ?_
      exact slots_setSlot_of_ne (h.slot_ne hcall hi hd hdc hj)
  of_holder j d hj := by
    rw [slots_setCall] at hj
    by_cases hji : j = i
    · subst hji
      rw [slots_setSlot_self] at hj
      obtain ⟨rfl, hslot⟩ := hholder d hj
      exact ⟨call', calls_setCall_self _ _ _, hslot⟩
    · rw [slots_setSlot_of_ne hji] at hj
      obtain ⟨other, hd, hslot⟩ := h.of_holder j d hj
      have hdc : d ≠ c := by
        rintro rfl
        obtain rfl := some.inj (hcall.symm.trans hd)
        exact hji (some.inj (hslot.symm.trans hi))
      exact ⟨other, (calls_setCall_of_ne hdc).trans hd, hslot⟩
  of_ptr j d hj := by
    rw [slots_setCall] at hj ⊢
    by_cases hji : j = i
    · subst hji
      rw [slots_setSlot_self] at hj ⊢
      exact hptr d hj
    · rw [slots_setSlot_of_ne hji] at hj ⊢
      exact h.of_ptr j d hj

/-! ## The steps of a thread -/

theorem Threads.act_kept (h : s.Threads) (slot : SyncSlot) (hcall : s.calls c = some call)
    (hi : call.phase.slot? = some i) (hsince : call'.since = call.since)
    (hphase : call'.phase.slot? = some i) (hholder : slot.holder = (s.slots i).holder)
    (hptr : slot.recv_ind_payload_ptr = (s.slots i).recv_ind_payload_ptr)
    (hok : ((s.setSlot i slot).setCall c call').CallOk c call') :
    ((s.setSlot i slot).setCall c call').Threads := by
  have hc := ((h.ok c call hcall).holds hi).2
  refine h.act hcall hi hsince (fun d hd => ?_) (fun d hd => ?_) hok
  · rw [hholder, hc] at hd
    exact ⟨(some.inj hd).symm, hphase⟩
  · rw [hholder]
    rw [hptr] at hd
    exact h.of_ptr i d hd

theorem Threads.act_call (h : s.Threads) (hcall : s.calls c = some call)
    (hi : call.phase.slot? = some i) (hsince : call'.since = call.since)
    (hphase : call'.phase.slot? = some i) (hok : (s.setCall c call').CallOk c call') :
    (s.setCall c call').Threads := by
  have hact := h.act_kept (s.slots i) hcall hi hsince hphase rfl rfl
  rw [setSlot_self] at hact
  exact hact hok

theorem Threads.select (h : s.Threads) (hcall : s.calls c = some call)
    (hphase : call.phase = .allocated i) : (s.select c call i).Threads := by
  have hi : call.phase.slot? = some i := by rw [hphase]; rfl
  have hholds := (h.ok c call hcall).holds hi
  refine h.act hcall hi rfl (fun d hd => ?_) (fun d hd => ?_) ?_
  · exact ⟨some.inj (hd.symm.trans hholds.2), rfl⟩
  · obtain ⟨buf, -, rfl⟩ := map_eq_some_iff.mp hd
    exact hholds.2
  · refine ⟨⟨⟨?_, ?_⟩, ?_, ?_, ?_⟩, ?_⟩ <;>
      simp only [slots_setCall, slots_setSlot_self, SyncCall.goto]
    · exact hholds.1
    · exact hholds.2
    · exact nofun

theorem CallOk.filled_of_selected (h : s.CallOk c call) (hphase : call.phase = .selected i) :
    s.Filled c call i ∧ ((s.slots i).ind_has_arrived = true → s.Heard call) := by
  unfold CallOk at h
  rw [hphase] at h
  exact h

theorem CallOk.of_sent (h : s.CallOk c call) (hphase : call.phase = .sent i) :
    s.Filled c call i ∧ call.sent = true ∧
      ((s.slots i).ind_has_arrived = true → s.Heard call) := by
  unfold CallOk at h
  rw [hphase] at h
  exact h

theorem CallOk.of_waiting (h : s.CallOk c call) (hphase : call.phase = .waiting i) :
    s.Filled c call i ∧ call.sent = true ∧ ((s.slots i).signalled = true → s.Heard call) := by
  unfold CallOk at h
  rw [hphase] at h
  exact h

theorem CallOk.of_ended (h : s.CallOk c call) (hphase : call.phase = .ended i status) :
    s.Filled c call i ∧ (status = eLOC_CLIENT_SUCCESS → call.sent = true ∧ s.Heard call) := by
  unfold CallOk at h
  rw [hphase] at h
  exact h

section

variable (h : s.Threads) (hcall : s.calls c = some call)
include h hcall

theorem Threads.send (hphase : call.phase = .selected i) (status : LocClientStatus) :
    (s.send c call i status).Threads := by
  have hi : call.phase.slot? = some i := by rw [hphase]; rfl
  obtain ⟨⟨hholds, h1, h2, h3⟩, hheard⟩ := (h.ok c call hcall).filled_of_selected hphase
  unfold SyncArray.send
  split
  · have hact : (s.setCall c { call with phase := .sent i, sent := true }).Threads :=
      h.act_call hcall hi rfl rfl ⟨⟨hholds, h1, h2, h3⟩, rfl, hheard⟩
    exact hact.congr rfl rfl rfl rfl
  · rename_i hstatus
    exact h.act_call hcall hi rfl rfl ⟨⟨hholds, h1, h2, h3⟩, fun heq => absurd heq hstatus⟩

theorem Threads.wait (hphase : call.phase = .sent i) : (s.wait c call i).Threads := by
  have hi : call.phase.slot? = some i := by rw [hphase]; rfl
  obtain ⟨⟨hholds, h1, h2, h3⟩, hsent, hheard⟩ := (h.ok c call hcall).of_sent hphase
  unfold SyncArray.wait
  rw [if_neg (by rw [hholds.1]; nofun)]
  split
  · rename_i harrived
    exact h.act_call hcall hi rfl rfl ⟨⟨hholds, h1, h2, h3⟩, fun _ => ⟨hsent, hheard harrived⟩⟩
  · split
    · exact h.act_call hcall hi rfl rfl ⟨⟨hholds, h1, h2, h3⟩, nofun⟩
    · refine h.act_kept _ hcall hi rfl rfl rfl rfl ⟨⟨⟨?_, ?_⟩, ?_, ?_, ?_⟩, hsent, ?_⟩ <;>
        simp only [slots_setCall, slots_setSlot_self, SyncCall.goto]
      · exact hholds.1
      · exact hholds.2
      · exact h1
      · exact h2
      · exact h3
      · exact nofun

theorem Threads.wake (hphase : call.phase = .waiting i) (timedOut : Bool) :
    (s.wake c call i timedOut).Threads := by
  have hi : call.phase.slot? = some i := by rw [hphase]; rfl
  obtain ⟨⟨hholds, h1, h2, h3⟩, hsent, hheard⟩ := (h.ok c call hcall).of_waiting hphase
  have hfilled : ∀ call' : SyncCall, call'.client_handle = call.client_handle →
      call'.ind_id = call.ind_id → call'.buffer = call.buffer →
      ((s.setSlot i { s.slots i with ind_is_waiting := false }).setCall c call').Filled c
        call' i := by
    intro call' hhandle hid hbuffer
    refine ⟨⟨?_, ?_⟩, ?_, ?_, ?_⟩ <;> simp only [slots_setCall, slots_setSlot_self]
    · exact hholds.1
    · exact hholds.2
    · exact h1.trans hhandle.symm
    · exact h2.trans hid.symm
    · rw [hbuffer]
      exact h3
  unfold SyncArray.wake
  split
  · exact h.act_kept _ hcall hi rfl rfl rfl rfl ⟨hfilled _ rfl rfl rfl, nofun⟩
  · split
    · rename_i hsignalled
      exact h.act_kept _ hcall hi rfl rfl rfl rfl
        ⟨hfilled _ rfl rfl rfl, fun _ => ⟨hsent, hheard hsignalled⟩⟩
    · exact h

theorem Threads.free (hphase : call.phase = .ended i status) :
    (s.free c call i status).Threads := by
  have hi : call.phase.slot? = some i := by rw [hphase]; rfl
  have hdone := ((h.ok c call hcall).of_ended hphase).2
  have hact : ((s.setSlot i .cleared).setCall c (call.goto (.returned status))).Threads :=
    h.act hcall hi rfl nofun nofun hdone
  unfold SyncArray.free
  simp only
  split
  · exact hact.congr rfl rfl rfl rfl
  · exact hact

end

/-! ## A new call -/

theorem firstFree_spec (h : s.firstFree = some i) : (s.slots i).slot_in_use = false := by
  have hi := List.find?_some h
  simpa using hi

theorem firstFree_isSome (h : (s.slots i).slot_in_use = false) : s.firstFree ≠ none := by
  intro hnone
  have hi := List.find?_eq_none.mp hnone i (mem_finRange i)
  simp [h] at hi

theorem Threads.holder_of_free (h : s.Threads) (hi : (s.slots i).slot_in_use = false) :
    (s.slots i).holder = none := by
  by_contra hne
  obtain ⟨c, hc⟩ := ne_none_iff_exists'.mp hne
  obtain ⟨call, hcall, hslot⟩ := h.of_holder i c hc
  have huse := ((h.ok c call hcall).holds hslot).1
  rw [hi] at huse
  cases huse

theorem Threads.ptr_of_free (h : s.Threads) (hi : (s.slots i).slot_in_use = false) :
    (s.slots i).recv_ind_payload_ptr = none := by
  by_contra hne
  obtain ⟨d, hd⟩ := ne_none_iff_exists'.mp hne
  exact some_ne_none d ((h.of_ptr i d hd).symm.trans (h.holder_of_free hi))

theorem Threads.allocate (h : s.Threads) (hfree : (s.slots i).slot_in_use = false)
    (hphase : call.phase = .allocated i) (hsince : call.since = s.inds.length)
    (hslots : t.slots = (s.setSlot i { s.slots i with
      slot_in_use := true, holder := some s.made }).slots)
    (hcalls : t.calls = (s.setCall s.made call).calls) (hmade : t.made = s.made + 1)
    (hinds : t.inds = s.inds) : t.Threads where
  fresh d hd := by
    rw [hmade] at hd
    rw [hcalls, calls_setCall_of_ne (Nat.ne_of_gt hd)]
    exact h.fresh d (Nat.le_of_succ_le hd)
  since_le d other hd := by
    rw [hcalls] at hd
    rw [hinds]
    by_cases hdc : d = s.made
    · subst hdc
      rw [calls_setCall_self] at hd
      exact some.inj hd ▸ hsince.le
    · rw [calls_setCall_of_ne hdc] at hd
      exact h.since_le d other hd
  ok d other hd := by
    rw [hcalls] at hd
    by_cases hdc : d = s.made
    · subst hdc
      rw [calls_setCall_self] at hd
      obtain rfl := some.inj hd
      unfold CallOk
      rw [hphase]
      show t.Holds s.made i
      unfold Holds
      rw [hslots, slots_setSlot_self]
      exact ⟨rfl, rfl⟩
    · rw [calls_setCall_of_ne hdc] at hd
      refine (h.ok d other hd).congr (·.congr hinds) fun j hj => ?_
      have hji : j ≠ i := by
        rintro rfl
        have huse := ((h.ok d other hd).holds hj).1
        rw [hfree] at huse
        cases huse
      rw [hslots, slots_setSlot_of_ne hji]
  of_holder j d hj := by
    rw [hslots] at hj
    rw [hcalls]
    by_cases hji : j = i
    · subst hji
      rw [slots_setSlot_self] at hj
      obtain rfl := some.inj hj
      exact ⟨call, calls_setCall_self _ _ _, by rw [hphase]; rfl⟩
    · rw [slots_setSlot_of_ne hji] at hj
      obtain ⟨other, hd, hslot⟩ := h.of_holder j d hj
      have hdc : d ≠ s.made := by
        rintro rfl
        exact some_ne_none other (hd.symm.trans (h.fresh _ le_rfl))
      exact ⟨other, (calls_setCall_of_ne hdc).trans hd, hslot⟩
  of_ptr j d hj := by
    rw [hslots] at hj ⊢
    by_cases hji : j = i
    · subst hji
      rw [slots_setSlot_self] at hj
      exact absurd ((h.ptr_of_free hfree).symm.trans hj) nofun
    · rw [slots_setSlot_of_ne hji] at hj ⊢
      exact h.of_ptr j d hj

theorem Threads.begin (h : s.Threads) (hfree : ∃ i, (s.slots i).slot_in_use = false)
    (client_handle : ClientHandle) (req_id ind_id : UInt32) (buffer : Option (List UInt8)) :
    (s.begin client_handle req_id ind_id buffer).Threads := by
  obtain ⟨j, hj⟩ := hfree
  obtain ⟨i, hi⟩ := ne_none_iff_exists'.mp (firstFree_isSome hj)
  unfold SyncArray.begin
  simp only [hi]
  exact h.allocate (firstFree_spec hi) rfl rfl rfl rfl rfl rfl

/-! ## An indication -/

theorem slots_deliver_of_ne (h : j ≠ i) :
    (s.deliver ind i).slots j = s.slots j := slots_setSlot_of_ne h

theorem slots_deliver_self (hw : (s.slots i).waitsFor ind) :
    ((s.deliver ind i).slots i).slot_in_use = (s.slots i).slot_in_use ∧
      ((s.deliver ind i).slots i).holder = (s.slots i).holder ∧
      ((s.deliver ind i).slots i).client_handle = (s.slots i).client_handle ∧
      ((s.deliver ind i).slots i).recv_ind_id = (s.slots i).recv_ind_id ∧
      ((s.deliver ind i).slots i).recv_ind_payload_ptr = (s.slots i).recv_ind_payload_ptr := by
  have hself : (s.deliver ind i).slots i = if (s.slots i).ind_is_waiting then
      { s.slots i with recv_ind_id := ind.ind_id, signalled := true }
      else { s.slots i with ind_has_arrived := true } := update_self _ _ _
  rw [hself]
  split
  · exact ⟨rfl, rfl, rfl, hw.2.2.1, rfl⟩
  · exact ⟨rfl, rfl, rfl, rfl, rfl⟩

theorem calls_deliver_eq (s : SyncArray) (ind : Indication) (i : SlotId) : (s.deliver ind i).calls =
      if (s.slots i).consumes ind then
        (s.slots i).recv_ind_payload_ptr.elim s.calls fun d =>
          update s.calls d ((s.calls d).map (·.memcpy ind.bytes))
      else s.calls := rfl

theorem calls_deliver_of_ptr (h : (s.slots i).recv_ind_payload_ptr ≠ some c) :
    (s.deliver ind i).calls c = s.calls c := by
  rw [calls_deliver_eq]
  split
  · cases hptr : (s.slots i).recv_ind_payload_ptr with
    | none => rfl
    | some d => exact update_of_ne (fun hc : c = d => h (hc ▸ hptr)) _ _
  · rfl

theorem memcpy_nil (call : SyncCall) : call.memcpy [] = call := by
  cases call with
  | mk _ _ _ buffer => cases buffer <;> rfl

theorem memcpy_of_none (h : call.buffer = none) (bytes : List UInt8) :
    call.memcpy bytes = call := by
  unfold SyncCall.memcpy
  rw [h, map_none, ← h]

theorem calls_deliver (hcall : s.calls c = some call)
    (hptr : (s.slots i).recv_ind_payload_ptr = call.buffer.map fun _ => c) :
    (s.deliver ind i).calls c = some (call.memcpy ind.bytes) := by
  cases hbuffer : call.buffer with
  | none =>
    rw [hbuffer] at hptr
    rw [calls_deliver_of_ptr (hptr ▸ nofun), memcpy_of_none hbuffer, hcall]
  | some buf =>
    rw [hbuffer, map_some] at hptr
    by_cases hbytes : ind.bytes = []
    · have hcons : ¬ (s.slots i).consumes ind := fun hcons => hcons.2 hbytes
      rw [hbytes, memcpy_nil, ← hcall]
      rw [calls_deliver_eq, if_neg hcons]
    · have hcons : (s.slots i).consumes ind := ⟨hptr ▸ rfl, hbytes⟩
      rw [calls_deliver_eq, if_pos hcons, hptr]
      show update s.calls c ((s.calls c).map _) c = _
      rw [update_self, hcall]
      rfl

theorem Filled.heard (h : s.Filled c call i) (hw : (s.slots i).waitsFor ind)
    (hrecent : ind ∈ t.inds.drop call.since) : t.Heard (call.memcpy ind.bytes) := by
  refine ⟨ind, hrecent, ?_, ?_, ?_⟩
  · exact hw.2.1.symm.trans h.client_handle_eq
  · exact hw.2.2.1.trans h.recv_ind_id_eq
  · intro buf hbuf
    obtain ⟨old, -, rfl⟩ := map_eq_some_iff.mp hbuf
    exact prefix_append _ _

theorem CallOk.deliver (h : s.CallOk c call) (hw : (s.slots i).waitsFor ind)
    (hi : call.phase.slot? = some i) (hrecent : ind ∈ s.inds.drop call.since) :
    (s.deliver ind i).CallOk c (call.memcpy ind.bytes) := by
  obtain ⟨huse, hholder, hhandle, hid, hptr⟩ := slots_deliver_self hw
  have hholds : s.Holds c i → (s.deliver ind i).Holds c i :=
    fun hc => ⟨huse.trans hc.1, hholder.trans hc.2⟩
  have hfilled : s.Filled c call i → (s.deliver ind i).Filled c (call.memcpy ind.bytes) i := by
    intro hf
    refine ⟨hholds hf.holds, hhandle.trans hf.client_handle_eq, hid.trans hf.recv_ind_id_eq, ?_⟩
    rw [hptr, hf.ptr_eq]
    unfold SyncCall.memcpy
    cases call.buffer <;> rfl
  have hheard : s.Filled c call i → (s.deliver ind i).Heard (call.memcpy ind.bytes) :=
    fun hf => hf.heard hw hrecent
  have hphase : (call.memcpy ind.bytes).phase = call.phase := rfl
  have hsent : (call.memcpy ind.bytes).sent = call.sent := rfl
  unfold CallOk at h ⊢
  rw [hphase, hsent]
  split at h <;> rename_i hp <;> rw [hp] at hi <;> try obtain rfl := some.inj hi
  · exact hholds h
  · exact ⟨hfilled h.1, fun _ => hheard h.1⟩
  · exact ⟨hfilled h.1, h.2.1, fun _ => hheard h.1⟩
  · exact ⟨hfilled h.1, h.2.1, fun _ => hheard h.1⟩
  · exact ⟨hfilled h.1, fun hst => ⟨(h.2 hst).1, hheard h.1⟩⟩
  · cases hi

/-- An indication that came after every call began. -/
def Recent (s : SyncArray) (ind : Indication) : Prop :=
  ∀ c call, s.calls c = some call → ind ∈ s.inds.drop call.since

theorem calls_deliver_or (s : SyncArray) (ind : Indication) (i : SlotId) (c : Nat) :
    (s.deliver ind i).calls c = s.calls c ∨
      (s.deliver ind i).calls c = (s.calls c).map (·.memcpy ind.bytes) := by
  rw [calls_deliver_eq]
  split
  · cases (s.slots i).recv_ind_payload_ptr with
    | none => exact .inl rfl
    | some d =>
      by_cases hcd : c = d
      · subst hcd
        exact .inr (update_self _ _ _)
      · exact .inl (update_of_ne hcd _ _)
  · exact .inl rfl

theorem exists_of_calls_deliver (h : (s.deliver ind i).calls c = some other) :
    ∃ call, s.calls c = some call ∧ other.phase = call.phase ∧ other.since = call.since := by
  rcases calls_deliver_or s ind i c with hsame | hcopy
  · exact ⟨other, hsame ▸ h, rfl, rfl⟩
  · obtain ⟨call, hcall, rfl⟩ := map_eq_some_iff.mp (hcopy ▸ h)
    exact ⟨call, hcall, rfl, rfl⟩

theorem CallOk.filled (h : s.CallOk c call) (hi : call.phase.slot? = some i)
    (hne : call.phase ≠ .allocated i) : s.Filled c call i := by
  unfold CallOk at h
  split at h <;> rename_i hp <;> rw [hp] at hi hne <;> try obtain rfl := some.inj hi
  · exact absurd rfl hne
  · exact h.1
  · exact h.1
  · exact h.1
  · exact h.1
  · cases hi

theorem Threads.deliver (h : s.Threads) (hw : (s.slots i).waitsFor ind) (hrecent : s.Recent ind) :
    (s.deliver ind i).Threads := by
  obtain ⟨huse, hholder, -, -, hptr⟩ := slots_deliver_self hw
  refine ⟨fun c hc => ?_, fun c other hc => ?_, fun c other hc => ?_, fun j c hj => ?_,
    fun j c hj => ?_⟩
  · rcases calls_deliver_or s ind i c with hsame | hcopy
    · exact hsame.trans (h.fresh c hc)
    · rw [hcopy, h.fresh c hc]
      rfl
  · obtain ⟨call, hcall, -, hsince⟩ := exists_of_calls_deliver hc
    exact hsince ▸ h.since_le c call hcall
  · obtain ⟨call, hcall, hphase, -⟩ := exists_of_calls_deliver hc
    have hok := h.ok c call hcall
    by_cases hi : call.phase.slot? = some i
    · by_cases halloc : call.phase = .allocated i
      · have hholds := hok.holds hi
        unfold CallOk
        rw [hphase, halloc]
        exact ⟨huse.trans hholds.1, hholder.trans hholds.2⟩
      · rw [calls_deliver hcall (hok.filled hi halloc).ptr_eq] at hc
        obtain rfl := some.inj hc
        exact hok.deliver hw hi (hrecent c call hcall)
    · have hnot : (s.slots i).recv_ind_payload_ptr ≠ some c := by
        intro hc
        obtain ⟨call', hcall', hslot⟩ := h.of_holder i c (h.of_ptr i c hc)
        obtain rfl := some.inj (hcall.symm.trans hcall')
        exact hi hslot
      rw [calls_deliver_of_ptr hnot, hcall] at hc
      obtain rfl := some.inj hc
      refine hok.congr id fun j hj => slots_deliver_of_ne ?_
      rintro rfl
      exact hi hj
  · have hj : (s.slots j).holder = some c := by
      by_cases hji : j = i
      · subst hji
        exact hholder.symm.trans hj
      · exact slots_deliver_of_ne hji ▸ hj
    obtain ⟨call, hcall, hslot⟩ := h.of_holder j c hj
    rcases calls_deliver_or s ind i c with hsame | hcopy
    · exact ⟨call, hsame.trans hcall, hslot⟩
    · exact ⟨call.memcpy ind.bytes, by rw [hcopy, hcall]; rfl, hslot⟩
  · by_cases hji : j = i
    · subst hji
      rw [hholder]
      exact h.of_ptr j c (hptr.symm.trans hj)
    · rw [slots_deliver_of_ne hji] at hj ⊢
      exact h.of_ptr j c hj

/-- The array when an indication has come. -/
def arrive (s : SyncArray) (ind : Indication) : SyncArray := { s with inds := s.inds ++ [ind] }

theorem Threads.arrive (h : s.Threads) (ind : Indication) : (s.arrive ind).Threads := by
  refine ⟨h.fresh, fun c call hcall => ?_, fun c call hcall => ?_, h.of_holder, h.of_ptr⟩
  · show call.since ≤ (s.inds ++ [ind]).length
    rw [length_append]
    exact Nat.le_add_right_of_le (h.since_le c call hcall)
  · refine (h.ok c call hcall).congr ?_ fun _ _ => rfl
    rintro ⟨old, hold, hrest⟩
    refine ⟨old, ?_, hrest⟩
    show old ∈ (s.inds ++ [ind]).drop call.since
    rw [drop_append_of_le_length (h.since_le c call hcall)]
    exact mem_append_left _ hold

theorem Threads.recent (h : s.Threads) (ind : Indication) : (s.arrive ind).Recent ind := by
  intro c call hcall
  show ind ∈ (s.inds ++ [ind]).drop call.since
  rw [drop_append_of_le_length (h.since_le c call hcall)]
  exact mem_append_right _ mem_cons_self

theorem Recent.deliver (h : s.Recent ind) (i : SlotId) : (s.deliver ind i).Recent ind := by
  intro c other hc
  obtain ⟨call, hcall, -, hsince⟩ := exists_of_calls_deliver hc
  rw [hsince]
  exact h c call hcall

theorem slot_in_use_deliver (hw : (s.slots i).waitsFor ind) (j : SlotId) :
    ((s.deliver ind i).slots j).slot_in_use = (s.slots j).slot_in_use := by
  by_cases hji : j = i
  · subst hji
    exact (slots_deliver_self hw).1
  · rw [slots_deliver_of_ne hji]

/-- The loop keeps what is known of the threads, and which slots are in use;
if it says that none is, it has seen them all. -/
theorem scan_spec (is : List SlotId) (in_use : Bool) (h : s.Threads) (hrecent : s.Recent ind) :
    (scan ind s in_use is).1.Threads ∧
      (∀ j, ((scan ind s in_use is).1.slots j).slot_in_use = (s.slots j).slot_in_use) ∧
      (scan ind s in_use is).1.in_use = s.in_use ∧
      ((scan ind s in_use is).2.1 = false → in_use = false ∧
        ∀ j ∈ is, (s.slots j).slot_in_use = false) := by
  induction is generalizing s in_use with
  | nil => exact ⟨h, fun _ => rfl, rfl, fun h => ⟨h, nofun⟩⟩
  | cons i is ih =>
    unfold scan
    by_cases hw : (s.slots i).waitsFor ind
    · have huse : (in_use || (s.slots i).slot_in_use) = true := by rw [hw.1, Bool.or_true]
      rw [if_pos hw]
      by_cases hcons : (s.slots i).consumes ind
      · rw [if_pos hcons]
        exact ⟨h.deliver hw hrecent, slot_in_use_deliver hw, rfl,
          fun hfalse => absurd (huse.symm.trans hfalse) nofun⟩
      · rw [if_neg hcons]
        obtain ⟨h1, h2, h3, h4⟩ := ih (in_use || (s.slots i).slot_in_use)
          (h.deliver hw hrecent) (hrecent.deliver i)
        exact ⟨h1, fun j => (h2 j).trans (slot_in_use_deliver hw j), h3,
          fun hfalse => absurd (huse.symm.trans (h4 hfalse).1) nofun⟩
    · rw [if_neg hw]
      obtain ⟨h1, h2, h3, h4⟩ := ih (in_use || (s.slots i).slot_in_use) h hrecent
      refine ⟨h1, h2, h3, fun hfalse => ?_⟩
      obtain ⟨hor, his⟩ := h4 hfalse
      obtain ⟨hin, hi⟩ := Bool.or_eq_false_iff.mp hor
      exact ⟨hin, forall_mem_cons.mpr ⟨hi, his⟩⟩

/-! ## Whether a slot is in use -/

def InUse (s : SyncArray) : Prop := s.in_use = true ↔ ∃ i, (s.slots i).slot_in_use = true

theorem InUse.congr (h : s.InUse) (hin : t.in_use = s.in_use)
    (hslots : ∀ j, (t.slots j).slot_in_use = (s.slots j).slot_in_use) : t.InUse := by
  unfold InUse
  simp only [hin, hslots]
  exact h

theorem inUse_of_none (hin : s.in_use = false) (h : ∀ i, (s.slots i).slot_in_use = false) :
    s.InUse := by
  unfold InUse
  simp [hin, h]

theorem processInd_spec (h : s.Threads) (hin : s.InUse) (hrecent : s.Recent ind) :
    (s.processInd ind).1.Threads ∧ (s.processInd ind).1.InUse := by
  unfold processInd
  split
  · exact ⟨h, hin⟩
  · obtain ⟨h1, h2, h3, h4⟩ := scan_spec (List.finRange LOC_SYNC_REQ_BUFFER_SIZE) false h hrecent
    simp only
    split
    · exact ⟨h1, hin.congr h3 h2⟩
    · rename_i hfalse
      have hnone := (h4 (Bool.eq_false_iff.mpr hfalse)).2
      refine ⟨h1.congr rfl rfl rfl rfl, inUse_of_none rfl fun i => ?_⟩
      exact (h2 i).trans (hnone i (mem_finRange i))

theorem InUse.act (h : s.InUse) (hslot : slot.slot_in_use = (s.slots i).slot_in_use) :
    ((s.setSlot i slot).setCall c call').InUse := by
  refine h.congr rfl fun j => ?_
  rw [slots_setCall]
  by_cases hji : j = i
  · subst hji
    rw [slots_setSlot_self, hslot]
  · rw [slots_setSlot_of_ne hji]

theorem InUse.begin (h : s.InUse) (client_handle : ClientHandle) (req_id ind_id : UInt32)
    (buffer : Option (List UInt8)) : (s.begin client_handle req_id ind_id buffer).InUse := by
  unfold SyncArray.begin
  cases hfree : s.firstFree with
  | none => exact h.congr rfl fun _ => rfl
  | some i => exact iff_of_true rfl ⟨i, by simp⟩

theorem InUse.free (h : s.InUse) (hi : (s.slots i).slot_in_use = true) :
    (s.free c call i status).InUse := by
  unfold SyncArray.free
  simp only
  split
  · rename_i hnone
    exact inUse_of_none rfl hnone
  · rename_i hsome
    refine iff_of_true (h.mpr ⟨i, hi⟩) ?_
    obtain ⟨j, hj⟩ := not_forall.mp hsome
    exact ⟨j, Bool.eq_true_of_not_eq_false hj⟩

/-! ## Every run -/

/-- Where a step leads: a thread that is not where the step begins stays. -/
inductive StepsTo (s : SyncArray) : SyncEvent → SyncArray → Prop
  | begin (client_handle : ClientHandle) (req_id ind_id : UInt32) (buffer : Option (List UInt8)) :
      StepsTo s (.loc_sync_send_req client_handle req_id ind_id buffer)
        (s.begin client_handle req_id ind_id buffer)
  | stays (e : SyncEvent) : StepsTo s e s
  | select {c : Nat} {call : SyncCall} {i : SlotId} (hcall : s.calls c = some call)
      (hphase : call.phase = .allocated i) : StepsTo s (.select c) (s.select c call i)
  | send {c : Nat} {call : SyncCall} {i : SlotId} (status : LocClientStatus)
      (hcall : s.calls c = some call) (hphase : call.phase = .selected i) :
      StepsTo s (.send c status) (s.send c call i status)
  | wait {c : Nat} {call : SyncCall} {i : SlotId} (hcall : s.calls c = some call)
      (hphase : call.phase = .sent i) : StepsTo s (.wait c) (s.wait c call i)
  | wake {c : Nat} {call : SyncCall} {i : SlotId} (timedOut : Bool)
      (hcall : s.calls c = some call) (hphase : call.phase = .waiting i) :
      StepsTo s (.wake c timedOut) (s.wake c call i timedOut)
  | free {c : Nat} {call : SyncCall} {i : SlotId} {status : LocClientStatus}
      (hcall : s.calls c = some call) (hphase : call.phase = .ended i status) :
      StepsTo s (.free c) (s.free c call i status)
  | process (ind : Indication) (answers : Option Nat) :
      StepsTo s (.loc_sync_process_ind ind answers) { ((s.arrive ind).processInd ind).1 with
          owed := answers.elim s.owed s.owed.erase
          hit := s.hit ++ [(answers, ((s.arrive ind).processInd ind).2.map
            fun i => (s.slots i).holder)] }

theorem StepsTo.thread {e : SyncEvent} {next : SyncCall → Phase → Option SyncArray}
    (hnext : ∀ call t, s.calls c = some call → next call call.phase = some t → s.StepsTo e t) :
    s.StepsTo e (s.thread c next) := by
  unfold SyncArray.thread
  cases hcall : s.calls c with
  | none => exact .stays e
  | some call =>
    cases ht : next call call.phase with
    | none =>
      simp only [ht, getD_none]
      exact .stays e
    | some t =>
      simp only [ht, getD_some]
      exact hnext call t hcall ht

theorem stepsTo (s : SyncArray) (e : SyncEvent) : s.StepsTo e (s.step e).1 := by
  cases e with
  | loc_sync_send_req client_handle req_id ind_id buffer => exact .begin ..
  | select c =>
    dsimp only [SyncArray.step]
    refine StepsTo.thread fun call t hcall ht => ?_
    split at ht
    · rename_i i hphase
      obtain rfl := some.inj ht
      exact .select hcall hphase
    · cases ht
  | send c status =>
    dsimp only [SyncArray.step]
    refine StepsTo.thread fun call t hcall ht => ?_
    split at ht
    · rename_i i hphase
      obtain rfl := some.inj ht
      exact .send status hcall hphase
    · cases ht
  | wait c =>
    dsimp only [SyncArray.step]
    refine StepsTo.thread fun call t hcall ht => ?_
    split at ht
    · rename_i i hphase
      obtain rfl := some.inj ht
      exact .wait hcall hphase
    · cases ht
  | wake c timedOut =>
    dsimp only [SyncArray.step]
    refine StepsTo.thread fun call t hcall ht => ?_
    split at ht
    · rename_i i hphase
      obtain rfl := some.inj ht
      exact .wake timedOut hcall hphase
    · cases ht
  | free c =>
    dsimp only [SyncArray.step]
    refine StepsTo.thread fun call t hcall ht => ?_
    split at ht
    · rename_i i status hphase
      obtain rfl := some.inj ht
      exact .free hcall hphase
    · cases ht
  | loc_sync_process_ind ind answers => exact .process ind answers

structure Kept (s : SyncArray) : Prop where
  threads : s.Threads
  inUse : s.InUse

theorem Kept.justified (h : s.Kept) : s.Justified where
  of_success c call hcall hphase := by
    have hok := h.threads.ok c call hcall
    unfold CallOk at hok
    rw [hphase] at hok
    exact hok rfl
  in_use_iff := h.inUse

theorem kept_new : new.Kept := ⟨threads_new, inUse_of_none rfl fun _ => rfl⟩

theorem Kept.step (h : s.Kept) (e : SyncEvent) (hok : s.FindsSlot e) : (s.step e).1.Kept := by
  have hto := s.stepsTo e
  generalize (s.step e).1 = t at hto ⊢
  cases hto with
  | begin => exact ⟨h.threads.begin hok .., h.inUse.begin ..⟩
  | stays => exact h
  | select hcall hphase => exact ⟨h.threads.select hcall hphase, h.inUse.act rfl⟩
  | send status hcall hphase =>
    refine ⟨h.threads.send hcall hphase status, ?_⟩
    unfold SyncArray.send
    split <;> exact h.inUse.congr rfl fun _ => rfl
  | wait hcall hphase =>
    refine ⟨h.threads.wait hcall hphase, ?_⟩
    unfold SyncArray.wait
    split
    · exact h.inUse.congr rfl fun _ => rfl
    · split
      · exact h.inUse.congr rfl fun _ => rfl
      · split
        · exact h.inUse.congr rfl fun _ => rfl
        · exact h.inUse.act rfl
  | wake timedOut hcall hphase =>
    refine ⟨h.threads.wake hcall hphase timedOut, ?_⟩
    unfold SyncArray.wake
    split
    · exact h.inUse.act rfl
    · split
      · exact h.inUse.act rfl
      · exact h.inUse
  | free hcall hphase =>
    have hholds := ((h.threads.ok _ _ hcall).of_ended hphase).1.holds
    exact ⟨h.threads.free hcall hphase, h.inUse.free hholds.1⟩
  | process ind answers =>
    obtain ⟨h1, h2⟩ := processInd_spec (h.threads.arrive ind) (h.inUse.congr rfl fun _ => rfl)
      (h.threads.recent ind)
    exact ⟨h1.congr rfl rfl rfl rfl, h2.congr rfl fun _ => rfl⟩

theorem calls_begin_of_full (hfull : ¬ ∃ i, (s.slots i).slot_in_use = false)
    (client_handle : ClientHandle) (req_id ind_id : UInt32) (buffer : Option (List UInt8)) :
    (s.begin client_handle req_id ind_id buffer).calls s.made =
      some ⟨client_handle, req_id, ind_id, buffer, .returned eLOC_CLIENT_SUCCESS, false,
        s.inds.length⟩ := by
  have hnone : s.firstFree = none := by
    by_contra hne
    obtain ⟨i, hi⟩ := ne_none_iff_exists'.mp hne
    exact hfull ⟨i, firstFree_spec hi⟩
  unfold SyncArray.begin
  simp only [hnone]
  exact calls_setCall_self _ _ _

theorem findsSlot_of_justified (e : SyncEvent) (hstep : (s.step e).1.Justified) :
    s.FindsSlot e := by
  cases e with
  | loc_sync_send_req client_handle req_id ind_id buffer =>
    by_contra hfull
    have hcall := calls_begin_of_full hfull client_handle req_id ind_id buffer
    exact Bool.false_ne_true (hstep.of_success _ _ hcall rfl).1
  | select | send | wait | wake | free | loc_sync_process_ind => trivial

/-- In every run in which each call finds a free slot, and only there, what
succeeds was sent and has had its indication. -/
theorem justified_iff (es : List SyncEvent) :
    StatesMeet step Justified new es ↔ StepsMeet step FindsSlot new es :=
  statesMeet_iff_stepsMeet_of_inv Kept (fun _ h => h.justified) (fun _ e h hok => h.step e hok)
    (fun _ e _ hstep => findsSlot_of_justified e hstep) kept_new es

/-- Nine calls begin, and none has been sent yet. -/
theorem not_justified_ninth :
    ¬ StatesMeet step Justified new (List.replicate 9 (.loc_sync_send_req 1 40 40 none)) := by
  intro h
  exact absurd (h.last.of_success 8 ⟨1, 40, 40, none, .returned eLOC_CLIENT_SUCCESS, false, 0⟩
    (by decide) rfl).1 (by decide)

end SyncArray

end LocStack.LocApi
