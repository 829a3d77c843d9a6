/-
# `LocStack.Utils.MsgQ` — the message queue of msg_q.c

A msg_q is a linked list under a lock.  `msg_q_snd` adds at the head,
`msg_q_rcv` and `msg_q_rmv` take at the tail; `msg_q_rcv` waits while there is
nothing to take.  The wait gives the lock away, so a receive is two events:
the call, and each time its thread comes out of `pthread_cond_wait`, which
POSIX allows to happen at any time.  Every other call is one event.

`msg_q_destroy` takes no lock: it is for its caller to see that no call is
under way, and no event while a receive waits.  An init of a queue in use
makes another queue and leaves this one alone.  The list may also be searched
under the lock, with any predicate, and what matches be taken out.

    Moves        what one event does to the messages in the queue
    run_accounted  over every run: the list is well formed; each message sent is
                 received, taken out by a search, flushed or still there; the
                 received ones are in the order of the sends; after unblock
                 only a receive that was waiting may return a message
    not_silent   and such a receive does
-/
import LocStack.Base.Run
import LocStack.Utils.LinkedList
import Mathlib.Algebra.Order.Group.Multiset
import Mathlib.Tactic.Abel

namespace LocStack.Utils

open Base List

/-- What the calls return.  `msg_q_rmv` answers an empty list with a value of
the list's own enumeration. -/
inductive MsqQErr where
  | SUCCESS | FAILURE_GENERAL | INVALID_PARAMETER | INVALID_HANDLE | UNAVAILABLE_RESOURCE
  | INSUFFICIENT_BUFFER | LINKED_LIST_EMPTY

def convert_linked_list_err_type : LinkedListErr → MsqQErr
  | .SUCCESS => .SUCCESS
  | .INVALID_PARAMETER => .INVALID_PARAMETER
  | .INVALID_HANDLE => .INVALID_HANDLE
  | .UNAVAILABLE_RESOURCE => .UNAVAILABLE_RESOURCE
  | .INSUFFICIENT_BUFFER => .INSUFFICIENT_BUFFER
  | .FAILURE_GENERAL => .FAILURE_GENERAL
  | .EMPTY => .FAILURE_GENERAL

variable {μ : Type*}

/-- A `msg_q`; `waiting` are the threads in `pthread_cond_wait`. -/
structure MsgQ (μ : Type*) where
  msg_list : ListState μ
  unblocked : Bool
  waiting : List Nat

/-- The handle of the queue; `undefined` once a call has followed a pointer
to where no element is. -/
inductive Handle (μ : Type*) where
  | null
  | queue (q : MsgQ μ)
  | undefined

/-- The events.  A pointer argument that may be NULL is an `Option`, or a
`Bool` when it is only written through; `created` and `elem` are what the
allocator answers. -/
inductive QEvent (μ : Type*) where
  | init (created : Bool)
  | destroy
  | snd (msg_obj : Option μ) (dealloc : Bool) (elem : Option Nat)
  | rcv (thread : Nat) (msg_obj : Bool)
  | wake (thread : Nat)
  | rmv (msg_obj : Bool)
  | search (equal : μ → Bool) (data_p rm_if_found : Bool)
  | flush | unblock

/-- What the events give: the answers of the calls, and what became of the
elements that left the list without an answer. -/
inductive QOut (μ : Type*) where
  | done (rv : MsqQErr)
  | sent (rv : MsqQErr) (msg : Option μ)
  | received (rv : MsqQErr) (msg : Option μ)
  | found (rv : LinkedListErr) (data : Option μ)
  | removed (msg : μ) (deallocated : Bool)
  | flushed (msg : μ) (deallocated : Bool)

namespace MsgQ

def flushedOuts (flushed : List (μ × Bool)) : List (QOut μ) :=
  flushed.map fun m => .flushed m.1 m.2

/-- `msg_q_snd` with the lock held. -/
def snd (q : MsgQ μ) (msg : μ) (dealloc : Bool) (elem : Option Nat) :
    Handle μ × List (QOut μ) :=
  if q.unblocked then (.queue q, [.sent .UNAVAILABLE_RESOURCE (some msg)])
  else
    match q.msg_list.add msg dealloc elem with
    | none => (.undefined, [])
    | some (list, rv) =>
      (.queue { q with msg_list := list }, [.sent (convert_linked_list_err_type rv) (some msg)])

/-- `linked_list_remove` on the queue's list, its data returned. -/
def takeOldest (q : MsgQ μ) : Handle μ × List (QOut μ) :=
  match q.msg_list.remove with
  | none => (.undefined, [])
  | some (list, rv, msg) =>
    (.queue { q with msg_list := list }, [.received (convert_linked_list_err_type rv) msg])

/-- `msg_q_rcv` from the test of its loop on. -/
def rcvLoop (q : MsgQ μ) (thread : Nat) : Handle μ × List (QOut μ) :=
  if q.msg_list.empty && !q.unblocked then
    (.queue { q with waiting := thread :: q.waiting }, [])
  else q.takeOldest

/-- `msg_q_rcv` with the lock held. -/
def rcv (q : MsgQ μ) (thread : Nat) : Handle μ × List (QOut μ) :=
  if q.unblocked then (.queue q, [.received .UNAVAILABLE_RESOURCE none])
  else q.rcvLoop thread

/-- `msg_q_rmv` with the lock held. -/
def rmv (q : MsgQ μ) : Handle μ × List (QOut μ) :=
  if q.unblocked then (.queue q, [.received .UNAVAILABLE_RESOURCE none])
  else if q.msg_list.empty then (.queue q, [.received .LINKED_LIST_EMPTY none])
  else q.takeOldest

/-- `linked_list_search` on the queue's list.  An element taken out is
deallocated if its data is not copied out and there is a function for it. -/
def search (q : MsgQ μ) (equal : μ → Bool) (data_p rm_if_found : Bool) :
    Handle μ × List (QOut μ) :=
  match q.msg_list.search equal rm_if_found with
  | none => (.undefined, [])
  | some (list, rv, e) =>
    (.queue { q with msg_list := list },
      .found rv (if data_p then e.map (·.data_ptr) else none) ::
        if rm_if_found then
          e.toList.map fun e => .removed e.data_ptr (!data_p && e.dealloc_func)
        else [])

/-- `msg_q_flush` with the lock held. -/
def flush (q : MsgQ μ) : Handle μ × List (QOut μ) :=
  match q.msg_list.flush with
  | none => (.undefined, [])
  | some (list, flushed) =>
    (.queue { q with msg_list := list }, flushedOuts flushed ++ [.done .SUCCESS])

/-- `msg_q_destroy`: the list is flushed too. -/
def destroy (q : MsgQ μ) : Handle μ × List (QOut μ) :=
  match q.msg_list.flush with
  | none => (.undefined, [])
  | some (_, flushed) => (.null, flushedOuts flushed ++ [.done .SUCCESS])

/-- `msg_q_unblock` with the lock held; what it broadcasts, the waiters may
hear at any time anyway. -/
def unblock (q : MsgQ μ) : Handle μ × List (QOut μ) :=
  if q.unblocked then (.queue q, [.done .UNAVAILABLE_RESOURCE])
  else (.queue { q with unblocked := true }, [.done .SUCCESS])

/-- The events, on a queue. -/
def step (q : MsgQ μ) : QEvent μ → Handle μ × List (QOut μ)
  | .init _ => (.queue q, [])
  | .destroy => if q.waiting = [] then q.destroy else (.queue q, [])
  | .snd none _ _ => (.queue q, [.sent .INVALID_PARAMETER none])
  | .snd (some msg) dealloc elem =>
    -- malloc answers with memory that is not in use
    if (elem.bind q.msg_list.mem).isSome then (.queue q, [])
    else q.snd msg dealloc elem
  | .rcv thread msg_obj =>
    -- a thread that waits makes no other call
    if thread ∈ q.waiting then (.queue q, [])
    else if msg_obj then q.rcv thread
    else (.queue q, [.received .INVALID_PARAMETER none])
  | .wake thread =>
    if thread ∈ q.waiting then { q with waiting := q.waiting.erase thread }.rcvLoop thread
    else (.queue q, [])
  | .rmv msg_obj => if msg_obj then q.rmv else (.queue q, [.received .INVALID_PARAMETER none])
  | .search equal data_p rm_if_found => q.search equal data_p rm_if_found
  | .flush => q.flush
  | .unblock => q.unblock

end MsgQ

namespace Handle

/-- The events on a NULL handle: the calls refuse it. -/
def stepNull : QEvent μ → Handle μ × List (QOut μ)
  | .init true => (.queue ⟨.init, false, []⟩, [.done .SUCCESS])
  | .init false => (.null, [.done .FAILURE_GENERAL])
  | .snd msg _ _ => (.null, [.sent .INVALID_HANDLE msg])
  | .rcv _ _ | .rmv _ => (.null, [.received .INVALID_HANDLE none])
  | .flush | .unblock => (.null, [.done .INVALID_HANDLE])
  | .destroy | .wake _ | .search .. => (.null, [])

def step : Handle μ → QEvent μ → Handle μ × List (QOut μ)
  | .null, e => stepNull e
  | .queue q, e => q.step e
  | .undefined, _ => (.undefined, [])

end Handle

/-! ## What became of the messages -/

namespace QOut

/-- The messages whose send succeeded, in order. -/
def sentMsgs (os : List (QOut μ)) : List μ :=
  os.filterMap fun
    | .sent .SUCCESS msg => msg
    | _ => none

/-- The messages that a receive or a remove returned, in order. -/
def receivedMsgs (os : List (QOut μ)) : List μ :=
  os.filterMap fun
    | .received _ msg => msg
    | _ => none

/-- The messages that a search took out. -/
def removedMsgs (os : List (QOut μ)) : List μ :=
  os.filterMap fun
    | .removed msg _ => some msg
    | _ => none

def flushedMsgs (os : List (QOut μ)) : List μ :=
  os.filterMap fun
    | .flushed msg _ => some msg
    | _ => none

end QOut

open QOut

/-- The queue is well formed and has these messages, the oldest first. -/
def Handle.Holds (h : Handle μ) (msgs : List μ) : Prop :=
  match h with
  | .null => msgs = []
  | .queue q =>
    ∃ l, ListState.Linked q.msg_list l ∧ msgs = ((q.msg_list.contents l).map Prod.fst).reverse
  | .undefined => False

/-- What is sent goes to the end, what is received comes from the front; a
search or a flush takes messages from anywhere. -/
structure Moves (msgs : List μ) (os : List (QOut μ)) (msgs' : List μ) : Prop where
  conserved : ((msgs ++ sentMsgs os : List μ) : Multiset μ) =
    ((receivedMsgs os ++ removedMsgs os ++ flushedMsgs os ++ msgs' : List μ) : Multiset μ)
  inOrder : (receivedMsgs os ++ msgs').Sublist (msgs ++ sentMsgs os)

/-- An event goes well: the queue stays well formed, and the messages move as
they may. -/
def Goes (msgs : List μ) (r : Handle μ × List (QOut μ)) : Prop :=
  ∃ msgs', r.1.Holds msgs' ∧ Moves msgs r.2 msgs'

theorem Moves.same {msgs : List μ} {os : List (QOut μ)} (hs : sentMsgs os = [])
    (hr : receivedMsgs os = []) (hm : removedMsgs os = []) (hf : flushedMsgs os = []) :
    Moves msgs os msgs := by
  constructor
  · rw [hs, hr, hm, hf, append_nil]
    rfl
  · rw [hs, hr, append_nil]
    exact List.Sublist.refl _

theorem Moves.sent (msgs : List μ) (msg : μ) :
    Moves msgs [.sent .SUCCESS (some msg)] (msgs ++ [msg]) :=
  ⟨rfl, List.Sublist.refl _⟩

theorem Moves.received (msgs : List μ) (rv : MsqQErr) (msg : μ) :
    Moves (msg :: msgs) [.received rv (some msg)] msgs := by
  constructor
  · show ((msg :: msgs ++ [] : List μ) : Multiset μ) = _
    rw [append_nil]
    rfl
  · show (msg :: msgs).Sublist (msg :: msgs ++ [])
    rw [append_nil]

theorem Moves.removed (before behind : List μ) (rv : LinkedListErr) (data : Option μ) (msg : μ)
    (deallocated : Bool) :
    Moves (before ++ msg :: behind) [.found rv data, .removed msg deallocated]
      (before ++ behind) := by
  constructor
  · show ((before ++ msg :: behind ++ [] : List μ) : Multiset μ) = _
    rw [append_nil]
    exact Multiset.coe_eq_coe.mpr perm_middle
  · show (before ++ behind).Sublist (before ++ msg :: behind ++ [])
    rw [append_nil]
    exact (sublist_cons_self msg behind).append_left before

theorem Moves.flushed (flushed : List (μ × Bool)) (rv : MsqQErr) :
    Moves (flushed.map Prod.fst).reverse (MsgQ.flushedOuts flushed ++ [QOut.done rv]) [] := by
  have hnone : ∀ f : QOut μ → Option μ, (∀ m d, f (.flushed m d) = none) → f (.done rv) = none →
      (MsgQ.flushedOuts flushed ++ [QOut.done rv]).filterMap f = [] := by
    intro f hf hd
    refine filterMap_eq_nil_iff.mpr fun o ho => ?_
    rcases mem_append.mp ho with ho | ho
    · obtain ⟨m, -, rfl⟩ := mem_map.mp ho
      exact hf m.1 m.2
    · rw [mem_singleton.mp ho]
      exact hd
  have hs : sentMsgs (MsgQ.flushedOuts flushed ++ [QOut.done rv]) = [] :=
    hnone _ (fun _ _ => rfl) rfl
  have hr : receivedMsgs (MsgQ.flushedOuts flushed ++ [QOut.done rv]) = [] :=
    hnone _ (fun _ _ => rfl) rfl
  have hm : removedMsgs (MsgQ.flushedOuts flushed ++ [QOut.done rv]) = [] :=
    hnone _ (fun _ _ => rfl) rfl
  have hf : flushedMsgs (MsgQ.flushedOuts flushed ++ [QOut.done rv]) = flushed.map Prod.fst := by
    unfold flushedMsgs MsgQ.flushedOuts
    rw [filterMap_append, filterMap_map]
    show flushed.filterMap (some ∘ Prod.fst) ++ [] = _
    rw [append_nil, filterMap_eq_map]
  constructor
  · rw [hs, hr, hm, hf, append_nil, append_nil]
    exact Multiset.coe_eq_coe.mpr (reverse_perm _)
  · rw [hr]
    exact nil_sublist _

namespace MsgQ

variable {q : MsgQ μ} {msgs : List μ} {l : List Nat}

variable (h : (Handle.queue q).Holds msgs)
include h

/-- What is taken is the oldest message, if there is one. -/
theorem takeOldest_eq :
    (msgs = [] ∧ q.msg_list.empty = true ∧
        q.takeOldest = (.queue q, [.received .UNAVAILABLE_RESOURCE none])) ∨
      ∃ msg rest list, msgs = msg :: rest ∧ q.msg_list.empty = false ∧
        (Handle.queue { q with msg_list := list }).Holds rest ∧
        q.takeOldest = (.queue { q with msg_list := list }, [.received .SUCCESS (some msg)]) := by
  obtain ⟨l, hl, rfl⟩ := h
  have hempty : q.msg_list.empty = l.head?.isNone := by rw [← hl.fwd.head_eq]; rfl
  unfold takeOldest
  rw [hempty]
  cases l using List.reverseRecOn with
  | nil =>
    have hremove : q.msg_list.remove = some (q.msg_list, .UNAVAILABLE_RESOURCE, none) := by
      unfold ListState.remove
      rw [hl.p_tail_eq]
      rfl
    rw [hremove]
    exact .inl ⟨rfl, rfl, rfl⟩
  | append_singleton init a =>
    obtain ⟨list, e, hremove, hlinked, hcontents⟩ := hl.remove
    rw [hremove, hcontents, map_append, reverse_append]
    exact .inr ⟨_, _, list, rfl, by simp, ⟨init, hlinked, rfl⟩, rfl⟩

theorem takeOldest_goes : Goes msgs q.takeOldest := by
  rcases takeOldest_eq h with ⟨-, -, heq⟩ | ⟨msg, rest, list, rfl, -, hrest, heq⟩
  · rw [heq]
    exact ⟨msgs, h, .same rfl rfl rfl rfl⟩
  · rw [heq]
    exact ⟨rest, hrest, .received _ _ _⟩

variable (msg : μ) (dealloc : Bool) {elem : Option Nat}
  (helem : elem.bind q.msg_list.mem = none)
include helem

theorem snd_eq :
    (∃ rv, rv ≠ .SUCCESS ∧ q.snd msg dealloc elem = (.queue q, [.sent rv (some msg)])) ∨
      q.unblocked = false ∧ ∃ list, (Handle.queue { q with msg_list := list }).Holds
        (msgs ++ [msg]) ∧ q.snd msg dealloc elem =
          (.queue { q with msg_list := list }, [.sent .SUCCESS (some msg)]) := by
  obtain ⟨l, hl, rfl⟩ := h
  unfold snd
  split
  · exact .inl ⟨.UNAVAILABLE_RESOURCE, nofun, rfl⟩
  · rename_i hopen
    cases elem with
    | none => exact .inl ⟨.FAILURE_GENERAL, nofun, rfl⟩
    | some a =>
      obtain ⟨list, hadd, hlinked, hcontents⟩ := hl.add helem msg dealloc
      rw [hadd]
      refine .inr ⟨Bool.eq_false_of_not_eq_true hopen, list, ⟨a :: l, hlinked, ?_⟩, rfl⟩
      rw [hcontents, map_cons, reverse_cons]

theorem snd_goes : Goes msgs (q.snd msg dealloc elem) := by
  rcases snd_eq h msg dealloc helem with ⟨rv, hrv, heq⟩ | ⟨-, list, hlist, heq⟩
  · rw [heq]
    exact ⟨msgs, h, .same (by cases rv <;> first | rfl | exact absurd rfl hrv) rfl rfl rfl⟩
  · rw [heq]
    exact ⟨_, hlist, .sent _ msg⟩

omit helem

theorem rcvLoop_goes (thread : Nat) : Goes msgs (q.rcvLoop thread) := by
  unfold rcvLoop
  split
  · exact ⟨msgs, h, .same rfl rfl rfl rfl⟩
  · exact takeOldest_goes h

theorem search_goes (equal : μ → Bool) (data_p rm_if_found : Bool) :
    Goes msgs (q.search equal data_p rm_if_found) := by
  obtain ⟨l, hl, rfl⟩ := h
  unfold search
  rcases hl.search equal rm_if_found with
    ⟨err, heq, -⟩ | ⟨pre, a, post, e, s', rfl, he, -, -, heq, hs'⟩
  · rw [heq]
    exact ⟨_, ⟨l, hl, rfl⟩, by cases rm_if_found <;> exact .same rfl rfl rfl rfl⟩
  · rw [heq]
    cases rm_if_found with
    | false =>
      obtain rfl : s' = q.msg_list := hs'
      exact ⟨_, ⟨_, hl, rfl⟩, .same rfl rfl rfl rfl⟩
    | true =>
      obtain ⟨hlinked, hitem⟩ := hs'
      refine ⟨_, ⟨pre ++ post, hlinked, rfl⟩, ?_⟩
      have hitemA : q.msg_list.item a = some (e.data_ptr, e.dealloc_func) := by
        rw [ListState.item, he]
        rfl
      rw [ListState.contents_congr hitem]
      unfold ListState.contents
      rw [filterMap_append, filterMap_append, filterMap_cons, hitemA]
      rw [map_append, map_append, map_cons, reverse_append,
        reverse_append, reverse_cons, append_assoc]
      exact .removed _ _ _ _ _ _

theorem flush_eq : ∃ s' flushed, q.msg_list.flush = some (s', flushed) ∧ ListState.Linked s' [] ∧
      msgs = (flushed.map Prod.fst).reverse := by
  obtain ⟨l, hl, rfl⟩ := h
  obtain ⟨s', heq, hlinked⟩ := hl.flush
  exact ⟨s', _, heq, hlinked, rfl⟩

theorem flush_goes : Goes msgs q.flush := by
  obtain ⟨s', flushed, heq, hlinked, rfl⟩ := flush_eq h
  unfold flush
  rw [heq]
  exact ⟨[], ⟨[], hlinked, rfl⟩, .flushed flushed _⟩

theorem destroy_goes : Goes msgs q.destroy := by
  obtain ⟨s', flushed, heq, -, rfl⟩ := flush_eq h
  unfold destroy
  rw [heq]
  exact ⟨[], rfl, .flushed flushed _⟩

theorem step_goes (e : QEvent μ) : Goes msgs (q.step e) := by
  have hstay : Goes msgs (.queue q, []) := ⟨msgs, h, .same rfl rfl rfl rfl⟩
  have hrefuse : ∀ rv, Goes msgs (.queue q, [.received rv none]) := fun rv =>
    ⟨msgs, h, .same rfl rfl rfl rfl⟩
  cases e with
  | init created => exact hstay
  | destroy =>
    show Goes msgs (if _ then _ else _)
    split
    · exact destroy_goes h
    · exact hstay
  | snd msg_obj dealloc elem =>
    cases msg_obj with
    | none => exact ⟨msgs, h, .same rfl rfl rfl rfl⟩
    | some msg =>
      show Goes msgs (if _ then _ else _)
      split
      · exact hstay
      · rename_i hfree
        exact snd_goes h msg dealloc (Option.not_isSome_iff_eq_none.mp hfree)
  | rcv thread msg_obj =>
    show Goes msgs (if _ then _ else if _ then _ else _)
    split
    · exact hstay
    split
    · unfold rcv
      split
      · exact hrefuse _
      · exact rcvLoop_goes h thread
    · exact hrefuse _
  | wake thread =>
    show Goes msgs (if _ then _ else _)
    split
    · have hwoken : (Handle.queue { q with waiting := q.waiting.erase thread }).Holds msgs := h
      exact rcvLoop_goes hwoken thread
    · exact hstay
  | rmv msg_obj =>
    show Goes msgs (if _ then _ else _)
    split
    · unfold rmv
      split
      · exact hrefuse _
      split
      · exact hrefuse _
      · exact takeOldest_goes h
    · exact hrefuse _
  | search equal data_p rm_if_found => exact search_goes h equal data_p rm_if_found
  | flush => exact flush_goes h
  | unblock =>
    show Goes msgs q.unblock
    unfold unblock
    split
    · exact ⟨msgs, h, .same rfl rfl rfl rfl⟩
    · exact ⟨msgs, h, .same rfl rfl rfl rfl⟩

end MsgQ

/-! ## Runs -/

variable {h : Handle μ} {msgs : List μ}

theorem Handle.step_goes (hh : h.Holds msgs) (e : QEvent μ) : Goes msgs (h.step e) := by
  cases h with
  | null =>
    obtain rfl : msgs = [] := hh
    have hstay : ∀ rv, Goes (μ := μ) [] (.null, [.done rv]) := fun rv =>
      ⟨[], rfl, .same rfl rfl rfl rfl⟩
    cases e with
    | init created =>
      cases created with
      | true => exact ⟨[], ⟨[], ListState.linked_init, rfl⟩, .same rfl rfl rfl rfl⟩
      | false => exact hstay _
    | flush | unblock => exact hstay _
    | snd msg _ _ => exact ⟨[], rfl, .same rfl rfl rfl rfl⟩
    | rcv | rmv => exact ⟨[], rfl, .same rfl rfl rfl rfl⟩
    | destroy | wake | search => exact ⟨[], rfl, .same rfl rfl rfl rfl⟩
  | queue q => exact MsgQ.step_goes hh e
  | undefined => exact hh.elim

/-- What has become of the messages after a run. -/
structure Accounted (h : Handle μ) (os : List (QOut μ)) (msgs : List μ) : Prop where
  holds : h.Holds msgs
  once : (sentMsgs os).Perm (receivedMsgs os ++ removedMsgs os ++ flushedMsgs os ++ msgs)
  inOrder : (receivedMsgs os ++ msgs).Sublist (sentMsgs os)

theorem Accounted.step {os : List (QOut μ)} (hacc : Accounted h os msgs) (e : QEvent μ) :
    ∃ msgs', Accounted (h.step e).1 (os ++ (h.step e).2) msgs' := by
  obtain ⟨msgs', hholds, hmoves⟩ := Handle.step_goes hacc.holds e
  refine ⟨msgs', hholds, ?_, ?_⟩
  · have hbefore := Multiset.coe_eq_coe.mpr hacc.once
    have hstep := hmoves.conserved
    rw [← Multiset.coe_eq_coe]
    simp only [sentMsgs, receivedMsgs, removedMsgs, flushedMsgs, filterMap_append,
      ← Multiset.coe_add] at hbefore hstep ⊢
    rw [hbefore, add_assoc, hstep]
    abel
  · have hbefore := hacc.inOrder.append_right (sentMsgs (h.step e).2)
    have hstep := hmoves.inOrder.append_left (receivedMsgs os)
    rw [sentMsgs, filterMap_append, receivedMsgs, filterMap_append, append_assoc]
    rw [append_assoc] at hbefore
    exact hstep.trans hbefore

/-- On a queue that is unblocked no send succeeds, and only a receive that
waits already returns a message; no receive starts to wait. -/
def Stopped (h : Handle μ) (e : QEvent μ) : Prop :=
  match h with
  | .queue q =>
    q.unblocked = true → sentMsgs (h.step e).2 = [] ∧
      (receivedMsgs (h.step e).2 ≠ [] → ∃ thread ∈ q.waiting, e = .wake thread) ∧
      ∀ q', (h.step e).1 = .queue q' → q'.unblocked = true ∧ q'.waiting ⊆ q.waiting
  | _ => True

/-- An answer that gives no message, and a queue that stays unblocked. -/
structure Quiet (q : MsgQ μ) (r : Handle μ × List (QOut μ)) : Prop where
  sent : sentMsgs r.2 = []
  received : receivedMsgs r.2 = []
  stays : ∀ q', r.1 = .queue q' → q'.unblocked = true ∧ q'.waiting ⊆ q.waiting

section Stopped

variable {q : MsgQ μ} {os : List (QOut μ)}

variable (hq : q.unblocked = true)
include hq

theorem Quiet.same (hs : sentMsgs os = []) (hr : receivedMsgs os = []) :
    Quiet q (.queue q, os) := by
  refine ⟨hs, hr, fun q' heq => ?_⟩
  injection heq with heq
  exact heq ▸ ⟨hq, fun _ ht => ht⟩

theorem Quiet.list (hs : ∀ o ∈ os, sentMsgs [o] = [] ∧ receivedMsgs [o] = [])
    (hh : ∀ q', h = .queue q' → q'.unblocked = q.unblocked ∧ q'.waiting = q.waiting) :
    Quiet q (h, os) := by
  refine ⟨?_, ?_, fun q' heq => ?_⟩
  · induction os with
    | nil => rfl
    | cons o os ih =>
      rw [sentMsgs, ← singleton_append, filterMap_append]
      exact append_eq_nil_iff.mpr ⟨(hs o mem_cons_self).1,
        ih fun o' ho' => hs o' (mem_cons_of_mem _ ho')⟩
  · induction os with
    | nil => rfl
    | cons o os ih =>
      rw [receivedMsgs, ← singleton_append, filterMap_append]
      exact append_eq_nil_iff.mpr ⟨(hs o mem_cons_self).2,
        ih fun o' ho' => hs o' (mem_cons_of_mem _ ho')⟩
  · obtain ⟨hu, hw⟩ := hh q' heq
    exact ⟨hu.trans hq, hw ▸ fun _ ht => ht⟩

theorem quiet_flushed (flushed : List (μ × Bool))
    (hh : ∀ q', h = .queue q' → q'.unblocked = q.unblocked ∧ q'.waiting = q.waiting) :
    Quiet q (h, MsgQ.flushedOuts flushed ++ [.done .SUCCESS]) := by
  refine .list hq (fun o ho => ?_) hh
  rcases mem_append.mp ho with ho | ho
  · obtain ⟨m, -, rfl⟩ := mem_map.mp ho
    exact ⟨rfl, rfl⟩
  · rw [mem_singleton.mp ho]
    exact ⟨rfl, rfl⟩

theorem quiet_step (e : QEvent μ) (he : ∀ thread ∈ q.waiting, e ≠ .wake thread) :
    Quiet q (q.step e) := by
  have hstay : ∀ os : List (QOut μ), sentMsgs os = [] → receivedMsgs os = [] →
      Quiet q (.queue q, os) := fun os hs hr => .same hq hs hr
  have hlist : ∀ (list : ListState μ) (q' : MsgQ μ),
      Handle.queue { q with msg_list := list } = .queue q' →
        q'.unblocked = q.unblocked ∧ q'.waiting = q.waiting := by
    intro list q' heq
    injection heq with heq
    exact heq ▸ ⟨rfl, rfl⟩
  cases e with
  | init created => exact hstay _ rfl rfl
  | destroy =>
    show Quiet q (if _ then _ else _)
    split
    · unfold MsgQ.destroy
      split
      · exact .list hq (fun _ ho => absurd ho not_mem_nil) fun _ heq => nomatch heq
      · exact quiet_flushed hq _ fun _ heq => nomatch heq
    · exact hstay _ rfl rfl
  | snd msg_obj dealloc elem =>
    cases msg_obj with
    | none => exact hstay _ rfl rfl
    | some msg =>
      show Quiet q (if _ then _ else _)
      split
      · exact hstay _ rfl rfl
      · rw [MsgQ.snd, if_pos hq]
        exact hstay _ rfl rfl
  | rcv thread msg_obj =>
    show Quiet q (if _ then _ else if _ then _ else _)
    split
    · exact hstay _ rfl rfl
    split
    · rw [MsgQ.rcv, if_pos hq]
      exact hstay _ rfl rfl
    · exact hstay _ rfl rfl
  | wake thread =>
    show Quiet q (if _ then _ else _)
    rw [if_neg fun ht => he thread ht rfl]
    exact hstay _ rfl rfl
  | rmv msg_obj =>
    show Quiet q (if _ then _ else _)
    split
    · rw [MsgQ.rmv, if_pos hq]
      exact hstay _ rfl rfl
    · exact hstay _ rfl rfl
  | search equal data_p rm_if_found =>
    show Quiet q (q.search equal data_p rm_if_found)
    unfold MsgQ.search
    split
    · exact .list hq (fun _ ho => absurd ho not_mem_nil) fun _ heq => nomatch heq
    · refine .list hq (fun o ho => ?_) (hlist _)
      rcases mem_cons.mp ho with rfl | ho
      · exact ⟨rfl, rfl⟩
      · split at ho
        · obtain ⟨e, -, rfl⟩ := mem_map.mp ho
          exact ⟨rfl, rfl⟩
        · cases ho
  | flush =>
    show Quiet q q.flush
    unfold MsgQ.flush
    split
    · exact .list hq (fun _ ho => absurd ho not_mem_nil) fun _ heq => nomatch heq
    · exact quiet_flushed hq _ (hlist _)
  | unblock =>
    show Quiet q q.unblock
    rw [MsgQ.unblock, if_pos hq]
    exact hstay _ rfl rfl

end Stopped

theorem stopped (h : Handle μ) (e : QEvent μ) : Stopped h e := by
  cases h with
  | null | undefined => trivial
  | queue q =>
    intro hq
    by_cases he : ∃ thread ∈ q.waiting, e = .wake thread
    · obtain ⟨thread, ht, rfl⟩ := he
      have hstep : q.step (.wake thread) =
          MsgQ.takeOldest { q with waiting := q.waiting.erase thread } := by
        show (if thread ∈ q.waiting then _ else _) = _
        rw [if_pos ht, MsgQ.rcvLoop, hq, Bool.not_true, Bool.and_false]
        rfl
      refine ⟨?_, fun _ => ⟨thread, ht, rfl⟩, ?_⟩
      · show sentMsgs (q.step (.wake thread)).2 = []
        rw [hstep]
        unfold MsgQ.takeOldest
        split <;> rfl
      · intro q' heq
        change (q.step (.wake thread)).1 = _ at heq
        rw [hstep] at heq
        unfold MsgQ.takeOldest at heq
        split at heq
        · cases heq
        · injection heq with heq
          exact heq ▸ ⟨hq, erase_subset⟩
    · have hquiet := quiet_step hq e fun thread ht heq => he ⟨thread, ht, heq⟩
      exact ⟨hquiet.sent, fun hr => absurd hquiet.received hr, hquiet.stays⟩

/-- After every run: the queue's list is well formed, every message sent was
received, searched out, flushed or is there still, once each, the received
ones in the order of the sends; and at every step after unblock no send
succeeds and no receive returns a message but one that was waiting. -/
theorem run_accounted (es : List (QEvent μ)) :
    (∃ msgs, Accounted (after Handle.step .null es) (outs Handle.step .null es) msgs) ∧
      StepsMeet Handle.step Stopped .null es := by
  constructor
  · have hstep : ∀ (h : Handle μ) (e : QEvent μ) (_ : List (Handle μ × QEvent μ)) os,
        (∃ msgs, Accounted h os msgs) →
          ∃ msgs, Accounted (h.step e).1 (os ++ (h.step e).2) msgs := by
      rintro h e - os ⟨msgs, hacc⟩
      exact hacc.step e
    have hstart : Accounted (μ := μ) .null [] [] := ⟨rfl, .refl _, List.Sublist.refl _⟩
    exact recorded_after (R := fun h _ os => ∃ msgs, Accounted h os msgs) hstep ⟨[], hstart⟩ es
  · exact stepsMeet_iff.mpr fun _ e _ _ => stopped _ e

/-- On a queue that is unblocked nothing is sent or received. -/
def Silent (h : Handle μ) (e : QEvent μ) : Prop :=
  match h with
  | .queue q =>
    q.unblocked = true → sentMsgs (h.step e).2 = [] ∧ receivedMsgs (h.step e).2 = []
  | _ => True

/-- A receive waits, a message is sent, and before the receive has the lock
again the queue is unblocked: it returns the message. -/
theorem not_silent : ¬ ∀ es : List (QEvent Nat), StepsMeet Handle.step Silent .null es := by
  intro h
  have hwake := (h [.init true, .rcv 1 true, .snd (some 7) false (some 0), .unblock,
    .wake 1]).2.2.2.2.1
  exact absurd (hwake rfl).2 (cons_ne_nil 7 [])

end LocStack.Utils
