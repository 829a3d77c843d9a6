/-
# `LocStack.Utils.MsgTask` — the thread that works off a queue of messages

The thread of a task takes messages from the task's queue one by one, has each do
its work and deletes it.  When it cannot receive it ends, and the queue goes with
it.  Anyone may send, at any time before that; to stop the task is to unblock the
queue.

    Move         what one event does to the task, seen as a list of messages
    accounted    the messages the queue took are processed in the order of the
                 sends, at work, in the queue, or flushed at the end
    ends         once stopped, the task takes no message, processes one at most,
                 and its thread is gone in four turns

`sendMsg` ignores what the queue answers: a message it does not take is leaked.
-/
import LocStack.Utils.MsgQ

namespace LocStack.Utils

open Base List

variable {μ : Type*}

/-- Where the thread of an `MTRunnable` is: before `msg_q_rcv`, in its wait, at a
message, out of its loop, or gone, with the queue. -/
inductive Worker (μ : Type*) where
  | running | receiving
  | processing (msg : μ)
  | ended | destroyed

structure MsgTask (μ : Type*) where
  mQ : Handle μ
  worker : Worker μ

/-- `elem` is where the list's element is, if there is memory. -/
inductive TaskEvent (μ : Type*) where
  | sendMsg (msg : μ) (elem : Option Nat)
  | run | wake | proc | stop | finish

inductive TaskOut (μ : Type*) where
  | sent (msg : μ) | processed (msg : μ) | flushed (msg : μ)

def TaskOut.ofQueue : QOut μ → Option (TaskOut μ)
  | .sent .SUCCESS (some msg) => some (.sent msg)
  | .flushed msg _ => some (.flushed msg)
  | _ => none

/-- `MTRunnable::run` behind its `msg_q_rcv`, which waits if it says nothing. -/
def Worker.ofReceive : List (QOut μ) → Worker μ
  | [] => .receiving
  | [.received .SUCCESS (some msg)] => .processing msg
  | _ => .ended

namespace MsgTask

def new : MsgTask μ := ⟨.queue ⟨.init, false, []⟩, .running⟩

/-- A call of the queue, as long as it is there, and where the thread is then. -/
def call (s : MsgTask μ) (e : QEvent μ) (next : List (QOut μ) → Worker μ) :
    MsgTask μ × List (TaskOut μ) :=
  match s.mQ with
  | .queue q =>
    let r := q.step e
    (⟨r.1, next r.2⟩, r.2.filterMap TaskOut.ofQueue)
  | _ => (s, [])

/-- `run`, `wake`, `proc` and `finish` are the thread's own. -/
def step (s : MsgTask μ) (e : TaskEvent μ) : MsgTask μ × List (TaskOut μ) :=
  match e, s.worker with
  | .sendMsg msg elem, w => s.call (.snd (some msg) true elem) fun _ => w
  | .stop, w => s.call .unblock fun _ => w
  | .run, .running => s.call (.rcv 0 true) .ofReceive
  | .wake, .receiving => s.call (.wake 0) .ofReceive
  | .proc, .processing msg => (⟨s.mQ, .running⟩, [.processed msg])
  | .finish, .ended =>
    let r := s.call .flush fun _ => .ended
    let r' := r.1.call .destroy fun _ => .destroyed
    (r'.1, r.2 ++ r'.2)
  | _, _ => (s, [])

/-- The event is the thread's next. -/
def turn (s : MsgTask μ) (e : TaskEvent μ) : Bool :=
  match e, s.worker with
  | .run, .running | .wake, .receiving | .proc, .processing _ | .finish, .ended => true
  | _, _ => false

/-- The turns of the thread in a run. -/
def turns : MsgTask μ → List (TaskEvent μ) → Nat
  | _, [] => 0
  | s, e :: es => (s.turn e).toNat + turns (s.step e).1 es

end MsgTask

/-! ## What one event does -/

section Outs

variable (os : List (TaskOut μ))

def sentOf : List μ := os.filterMap fun
  | .sent msg => some msg
  | _ => none

def processedOf : List μ := os.filterMap fun
  | .processed msg => some msg
  | _ => none

def flushedOf : List μ := os.filterMap fun
  | .flushed msg => some msg
  | _ => none

end Outs

namespace Worker

def atWork : Worker μ → List μ
  | .processing msg => [msg]
  | _ => []

/-- It is the thread 0 of the queue, and the only one. -/
def waits : Worker μ → List Nat
  | .receiving => [0]
  | _ => []

/-- What it may still process of a queue that is unblocked. -/
def due : Worker μ → Nat
  | .receiving | .processing _ => 1
  | _ => 0

def turnsLeft : Worker μ → Nat
  | .receiving => 4
  | .processing _ => 3
  | .running => 2
  | .ended => 1
  | .destroyed => 0

end Worker

/-- A task without the list under its queue: the messages, the oldest first. -/
structure TaskView (μ : Type*) where
  worker : Worker μ
  unblocked : Bool
  msgs : List μ

/-- What an event does, and whether it is the thread's turn. -/
inductive Move : Bool → TaskView μ → List (TaskOut μ) → TaskView μ → Prop
  | idle (t) : Move false t [] t
  | sent (w msgs msg) : Move false ⟨w, false, msgs⟩ [.sent msg] ⟨w, false, msgs ++ [msg]⟩
  | stopped (w u msgs) : Move false ⟨w, u, msgs⟩ [] ⟨w, true, msgs⟩
  | waits (w) (hw : w = .running ∨ w = .receiving) :
    Move true ⟨w, false, []⟩ [] ⟨.receiving, false, []⟩
  | received (w u msg msgs) (hw : w = .running ∧ u = false ∨ w = .receiving) :
    Move true ⟨w, u, msg :: msgs⟩ [] ⟨.processing msg, u, msgs⟩
  | ended (w msgs) (hw : w = .running ∨ w = .receiving) :
    Move true ⟨w, true, msgs⟩ [] ⟨.ended, true, msgs⟩
  | processed (u msg msgs) :
    Move true ⟨.processing msg, u, msgs⟩ [.processed msg] ⟨.running, u, msgs⟩
  | finished (u msgs) :
    Move true ⟨.ended, u, msgs⟩ (msgs.reverse.map .flushed) ⟨.destroyed, u, []⟩

section Moves

variable {b : Bool} {t t' : TaskView μ} {os : List (TaskOut μ)} (h : Move b t os t')
include h

theorem Move.order {sent done gone : List μ}
    (hsent : sent = done ++ t.worker.atWork ++ gone.reverse ++ t.msgs)
    (hgone : t.worker = .destroyed ∨ gone = []) :
    sent ++ sentOf os = done ++ processedOf os ++ t'.worker.atWork ++
        (gone ++ flushedOf os).reverse ++ t'.msgs ∧
      (t'.worker = .destroyed ∨ gone ++ flushedOf os = []) := by
  subst hsent
  cases h with
  | waits w hw | ended w msgs hw =>
    rcases hw with rfl | rfl <;> simp_all [sentOf, processedOf, flushedOf, Worker.atWork]
  | received w u msg msgs hw =>
    rcases hw with ⟨rfl, rfl⟩ | rfl <;> simp_all [sentOf, processedOf, flushedOf, Worker.atWork]
  | _ => simp_all [sentOf, processedOf, flushedOf, Worker.atWork, filterMap_map]

theorem Move.due_le (hu : t.unblocked = true) : t'.unblocked = true ∧ sentOf os = [] ∧
    (processedOf os).length + t'.worker.due ≤ t.worker.due ∧
      b.toNat + t'.worker.turnsLeft ≤ t.worker.turnsLeft := by
  cases h with
  | received w u msg msgs hw =>
    obtain rfl : w = .receiving := hw.resolve_left fun h => Bool.noConfusion (h.2.symm.trans hu)
    exact ⟨hu, rfl, Nat.le_refl _, Nat.le_refl _⟩
  | ended w msgs hw =>
    rcases hw with rfl | rfl <;> simp [sentOf, processedOf, Worker.due, Worker.turnsLeft]
  | _ => simp_all [sentOf, processedOf, Worker.due, Worker.turnsLeft, filterMap_map]

end Moves

/-- The task has its queue, with the messages of the view, until both are gone. -/
inductive MsgTask.Seen : MsgTask μ → TaskView μ → Prop
  | live {q msgs w} (h : (Handle.queue q).Holds msgs) (hwaiting : q.waiting = w.waits) :
    Seen ⟨.queue q, w⟩ ⟨w, q.unblocked, msgs⟩
  | gone (u) : Seen ⟨.null, .destroyed⟩ ⟨.destroyed, u, []⟩

namespace MsgTask

/-- From the test in `msg_q_rcv` on. -/
theorem seen_rcvLoop {q : MsgQ μ} {msgs : List μ} (h : (Handle.queue q).Holds msgs)
    (hwaiting : q.waiting = []) {w : Worker μ}
    (hw : w = .running ∧ q.unblocked = false ∨ w = .receiving) :
    ∃ t, Move true ⟨w, q.unblocked, msgs⟩ ((q.rcvLoop 0).2.filterMap TaskOut.ofQueue) t ∧
      Seen ⟨(q.rcvLoop 0).1, .ofReceive (q.rcvLoop 0).2⟩ t := by
  have hw' : w = .running ∨ w = .receiving := hw.imp_left And.left
  unfold MsgQ.rcvLoop
  rcases MsgQ.takeOldest_eq h with
    ⟨rfl, hempty, htake⟩ | ⟨msg, rest, list, rfl, hempty, hrest, htake⟩
  · rw [hempty, htake]
    cases hunblocked : q.unblocked with
    | false => exact ⟨_, .waits w hw', .live h (by rw [hwaiting]; rfl)⟩
    | true =>
      have hseen := @Seen.live _ q [] .ended h hwaiting
      rw [hunblocked] at hseen
      exact ⟨_, .ended w [] hw', hseen⟩
  · rw [hempty, htake]
    exact ⟨_, .received w _ msg rest hw, .live hrest hwaiting⟩

/-- The queue is flushed before it is destroyed. -/
theorem step_finish {q : MsgQ μ} {msgs : List μ} (h : (Handle.queue q).Holds msgs)
    (hwaiting : q.waiting = []) : step ⟨.queue q, .ended⟩ .finish =
      (⟨.null, .destroyed⟩, msgs.reverse.map .flushed) := by
  obtain ⟨list, flushed, hflush, hlinked, rfl⟩ := MsgQ.flush_eq h
  obtain ⟨list', hflush', -⟩ := hlinked.flush
  have hstep : q.step .flush = (.queue { q with msg_list := list },
      MsgQ.flushedOuts flushed ++ [.done .SUCCESS]) := by
    show q.flush = _
    rw [MsgQ.flush, hflush]
  have hdestroy : MsgQ.step { q with msg_list := list } .destroy = (.null, [.done .SUCCESS]) := by
    show (if q.waiting = [] then MsgQ.destroy _ else _) = _
    rw [if_pos hwaiting, MsgQ.destroy, hflush']
    rfl
  have hflushed : (MsgQ.flushedOuts flushed).filterMap TaskOut.ofQueue =
      (flushed.map Prod.fst).map .flushed := by
    rw [MsgQ.flushedOuts, filterMap_map, map_map, ← filterMap_eq_map]
    rfl
  simp [step, call, hstep, hdestroy, hflushed, TaskOut.ofQueue]

variable {s : MsgTask μ} {t : TaskView μ}

theorem Seen.worker (h : s.Seen t) : s.worker = t.worker := by
  cases h <;> rfl

theorem Seen.holds (h : s.Seen t) : s.mQ.Holds t.msgs := by
  cases h with
  | live hq => exact hq
  | gone => rfl

theorem Seen.stop (h : s.Seen t) :
    (s.step .stop).2 = [] ∧ (s.step .stop).1.Seen { t with unblocked := true } := by
  cases h with
  | gone u => exact ⟨rfl, .gone true⟩
  | @live q msgs w hq hwaiting =>
    have hunblock : q.step .unblock = q.unblock := rfl
    simp only [MsgTask.step, call, hunblock, MsgQ.unblock]
    split
    · rename_i hunblocked
      exact ⟨rfl, hunblocked ▸ .live hq hwaiting⟩
    · exact ⟨rfl, @Seen.live _ { q with unblocked := true } _ _ hq hwaiting⟩

theorem Seen.step (h : s.Seen t) (e : TaskEvent μ) :
    ∃ t', Move (s.turn e) t (s.step e).2 t' ∧ (s.step e).1.Seen t' := by
  cases h with
  | gone u => cases e <;> exact ⟨_, .idle _, .gone u⟩
  | @live q msgs w hq hwaiting =>
    have hidle : ∃ t', Move false ⟨w, q.unblocked, msgs⟩ [] t' ∧ Seen ⟨.queue q, w⟩ t' :=
      ⟨_, .idle _, .live hq hwaiting⟩
    cases e with
    | sendMsg msg elem =>
      have hsnd : q.step (.snd (some msg) true elem) =
          if (elem.bind q.msg_list.mem).isSome then (.queue q, []) else q.snd msg true elem := rfl
      simp only [turn, MsgTask.step, call, hsnd]
      split
      · exact hidle
      · rename_i hfree
        rcases MsgQ.snd_eq hq msg true (Option.not_isSome_iff_eq_none.mp hfree) with
          ⟨rv, hrv, heq⟩ | ⟨hopen, list, hlist, heq⟩
        · rw [heq]
          cases rv <;> first | exact hidle | exact absurd rfl hrv
        · rw [heq, hopen]
          exact ⟨_, .sent w msgs msg, hopen ▸ .live hlist hwaiting⟩
    | stop =>
      obtain ⟨hnone, hseen⟩ := (Seen.live hq hwaiting).stop
      rw [hnone]
      exact ⟨_, .stopped w _ msgs, hseen⟩
    | run =>
      cases w with
      | running =>
        have hrcv : q.step (.rcv 0 true) = q.rcv 0 := by
          show (if 0 ∈ q.waiting then _ else _) = _
          rw [hwaiting]
          rfl
        simp only [MsgTask.step, call, hrcv, MsgQ.rcv]
        split
        · rename_i hunblocked
          rw [hunblocked]
          exact ⟨_, .ended _ msgs (.inl rfl), hunblocked ▸ .live hq hwaiting⟩
        · rename_i hopen
          exact seen_rcvLoop hq hwaiting (.inl ⟨rfl, Bool.eq_false_of_not_eq_true hopen⟩)
      | _ => exact hidle
    | wake =>
      cases w with
      | receiving =>
        have hwake : q.step (.wake 0) = MsgQ.rcvLoop { q with waiting := [] } 0 := by
          show (if 0 ∈ q.waiting then MsgQ.rcvLoop { q with waiting := q.waiting.erase 0 } 0
            else _) = _
          rw [hwaiting]
          rfl
        simp only [MsgTask.step, call, hwake]
        exact @seen_rcvLoop _ { q with waiting := [] } _ hq rfl _ (.inr rfl)
      | _ => exact hidle
    | proc =>
      cases w with
      | processing msg => exact ⟨_, .processed _ msg msgs, .live hq hwaiting⟩
      | _ => exact hidle
    | finish =>
      cases w with
      | ended =>
        rw [step_finish hq hwaiting]
        exact ⟨_, .finished _ msgs, .gone _⟩
      | _ => exact hidle

/-! ## Runs -/

/-- What has become of the messages; `left` are in the queue. -/
structure Accounts (s : MsgTask μ) (os : List (TaskOut μ)) (left : List μ) : Prop where
  order : sentOf os = processedOf os ++ s.worker.atWork ++ (flushedOf os).reverse ++ left
  holds : s.mQ.Holds left
  flushed : s.worker = .destroyed ∨ flushedOf os = []

theorem Seen.accounts (h : s.Seen t) {os : List (TaskOut μ)} (hacc : s.Accounts os t.msgs)
    (e : TaskEvent μ) : ∃ t', (s.step e).1.Seen t' ∧
      (s.step e).1.Accounts (os ++ (s.step e).2) t'.msgs := by
  obtain ⟨t', hmove, hseen⟩ := h.step e
  obtain ⟨horder, -, hflushed⟩ := hacc
  rw [h.worker] at horder hflushed
  obtain ⟨horder', hflushed'⟩ := hmove.order horder hflushed
  rw [← hseen.worker] at horder' hflushed'
  refine ⟨t', hseen, ?_, hseen.holds, ?_⟩
  · rw [sentOf, filterMap_append, processedOf, filterMap_append, flushedOf, filterMap_append]
    exact horder'
  · rw [flushedOf, filterMap_append]
    exact hflushed'

theorem seen_after (es : List (TaskEvent μ)) :
    ∃ t, (after step new es).Seen t ∧ (after step new es).Accounts (outs step new es) t.msgs :=
  recorded_after (R := fun s _ os => ∃ t, Seen s t ∧ s.Accounts os t.msgs)
    (fun _ e _ _ ⟨_, h, hacc⟩ => h.accounts hacc e)
    ⟨⟨.running, false, []⟩, .live (q := ⟨.init, false, []⟩) ⟨[], ListState.linked_init, rfl⟩ rfl,
      rfl, ⟨[], ListState.linked_init, rfl⟩, .inr rfl⟩ es

/-- The messages the queue took are processed in the order of the sends; then come
the one at work and those in the queue, or those flushed with it. -/
theorem accounted (es : List (TaskEvent μ)) :
    ∃ left, (after step new es).Accounts (outs step new es) left := by
  obtain ⟨t, -, h⟩ := seen_after es
  exact ⟨t.msgs, h⟩

theorem Seen.unblocked_after (h : s.Seen t) (hu : t.unblocked = true) (es : List (TaskEvent μ)) :
    sentOf (outs MsgTask.step s es) = [] ∧
      (processedOf (outs MsgTask.step s es)).length ≤ s.worker.due ∧
      turns s es + (after MsgTask.step s es).worker.turnsLeft ≤ s.worker.turnsLeft := by
  induction es generalizing s t with
  | nil => exact ⟨rfl, Nat.zero_le _, (Nat.zero_add _).le⟩
  | cons e es ih =>
    obtain ⟨t', hmove, hseen⟩ := h.step e
    obtain ⟨hu', hsent, hdue, hturns⟩ := hmove.due_le hu
    obtain ⟨hsent', hdue', hturns'⟩ := ih hseen hu'
    rw [← h.worker, ← hseen.worker] at hdue hturns
    rw [outs_cons, after_cons, turns]
    refine ⟨?_, ?_, by omega⟩
    · rw [sentOf, filterMap_append, append_eq_nil_iff]
      exact ⟨hsent, hsent'⟩
    · rw [processedOf, filterMap_append, length_append]
      exact (Nat.add_le_add_left hdue' _).trans hdue

theorem exists_turn (h : s.worker ≠ .destroyed) : ∃ e, s.turn e = true := by
  obtain ⟨mQ, w⟩ := s
  cases w with
  | running => exact ⟨.run, rfl⟩
  | receiving => exact ⟨.wake, rfl⟩
  | processing msg => exact ⟨.proc, rfl⟩
  | ended => exact ⟨.finish, rfl⟩
  | destroyed => exact absurd rfl h

/-- Whatever comes after the stop, nothing more is sent, one message at most is
processed, and the thread has no more than four turns, each of which it can take
until it is gone. -/
theorem ends (es es' : List (TaskEvent μ)) :
    let s := after step (new : MsgTask μ) (es ++ [.stop])
    sentOf (outs step s es') = [] ∧ (processedOf (outs step s es')).length ≤ 1 ∧
      turns s es' ≤ 4 ∧
      ((after step s es').worker = .destroyed ∨ ∃ e, (after step s es').turn e = true) := by
  intro s
  obtain ⟨t, hseen, -⟩ := @seen_after μ es
  have hstop : s.Seen { t with unblocked := true } := by
    show (after step new (es ++ [.stop])).Seen _
    rw [after_append]
    exact hseen.stop.2
  obtain ⟨hsent, hprocessed, hturns⟩ := hstop.unblocked_after rfl es'
  have hdue : s.worker.due ≤ 1 := by cases s.worker <;> simp [Worker.due]
  have hleft : s.worker.turnsLeft ≤ 4 := by cases s.worker <;> simp [Worker.turnsLeft]
  exact ⟨hsent, by omega, by omega, or_iff_not_imp_left.mpr exists_turn⟩

end MsgTask

end LocStack.Utils
