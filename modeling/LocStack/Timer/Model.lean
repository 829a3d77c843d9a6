/-
# `LocStack.Timer.Model` — the timers of LocTimer.cpp

A client's LocTimer owns at most one LocTimerDelegate, from `start` to
`stop`; the delegates that are ticking sit in one of two containers, a heap
of delegates with one timer fd.  Four parties act on this:

    clients      start and stop LocTimers, under the LocTimer's lock
    kernel       moves the boot clock, wakes the poll thread when a polled
                 fd has expired
    poll thread  for each expired fd: disarms it, removes it from the poll,
                 sends MsgTimerExpire
    MsgTask      processes MsgTimerPush, MsgTimerRemove and MsgTimerExpire
                 in the order sent; only it touches the heaps

MsgTimerExpire is processed in steps, since clients run between them: the
boot clock is read once, at the first; each timer popped is expired in two,
the reading of its `mClient` and, after whatever clients did meanwhile,
`client->stop()` with the callback.  Delegates are deleted where the source
deletes them; that a deleted one is never looked at again is not part of
the model, where its fields stay as `destroyLocked` left them.
-/
import LocStack.Base.Run
import LocStack.Heap.LocHeap

namespace LocStack.Timer

open Base Heap Function

/-! ## Times -/

/-- `struct timespec`. -/
structure Timespec where
  (tv_sec tv_nsec : Int)
  deriving DecidableEq

namespace Timespec

/-- What the kernel's clocks read. -/
def Normalized (t : Timespec) : Prop := 0 ≤ t.tv_sec ∧ 0 ≤ t.tv_nsec ∧ t.tv_nsec < 1000000000
  deriving Decidable

/-- `t` is not later than `u`. -/
def NotAfter (t u : Timespec) : Prop :=
  t.tv_sec < u.tv_sec ∨ (t.tv_sec = u.tv_sec ∧ t.tv_nsec ≤ u.tv_nsec)
  deriving Decidable

theorem NotAfter.refl (t : Timespec) : t.NotAfter t := Or.inr ⟨rfl, Int.le_refl _⟩

theorem NotAfter.trans {t u v : Timespec} (h : t.NotAfter u) (h' : u.NotAfter v) :
    t.NotAfter v := by
  unfold NotAfter at *
  omega

theorem NotAfter.sec_le {t u : Timespec} (h : t.NotAfter u) : t.tv_sec ≤ u.tv_sec := by
  unfold NotAfter at h
  omega

end Timespec

/-- The conversion of a difference of times to a 32-bit `int`. -/
def toInt (x : Int) : Int := (x + 2147483648) % 4294967296 - 2147483648

/-! ## Delegates and containers -/

/-- A LocTimerDelegate: its address and the time it was created with.  Its
`mClient` and `mContainer`, which change, are kept in `Timers`. -/
structure LocTimerDelegate where
  id : Nat
  mFutureTime : Timespec
  deriving DecidableEq

namespace LocTimerDelegate

def ranks (self timer : LocTimerDelegate) : Int :=
  let rank := toInt (timer.mFutureTime.tv_sec - self.mFutureTime.tv_sec)
  if rank = 0 then toInt (timer.mFutureTime.tv_nsec - self.mFutureTime.tv_nsec) else rank

def outRanks (self timer : LocTimerDelegate) : Bool := 0 < self.ranks timer

end LocTimerDelegate

structure LocTimerContainer where
  mTree : LocHeapNode LocTimerDelegate
  /-- What `timerfd_settime` last set `mDevFd` to; none disarms it. -/
  armed : Option Timespec
  /-- `mDevFd` is in the set that is polled. -/
  polled : Bool

namespace LocTimerContainer

def new : LocTimerContainer := ⟨.null, none, false⟩

def getSoonestTimer (c : LocTimerContainer) : Option LocTimerDelegate := c.mTree.peek

def push (c : LocTimerContainer) (timer : LocTimerDelegate) : LocTimerContainer :=
  { c with mTree := c.mTree.push LocTimerDelegate.outRanks timer }

/-- `LocHeap::remove`, with the element removed. -/
def heapRemove (c : LocTimerContainer) (timer : LocTimerDelegate) :
    LocTimerContainer × Option LocTimerDelegate :=
  let removed := c.mTree.remove LocTimerDelegate.outRanks timer
  ({ c with mTree := removed.1 }, removed.2)

def pop (c : LocTimerContainer) : LocTimerContainer × Option LocTimerDelegate :=
  let popped := c.mTree.pop LocTimerDelegate.outRanks
  ({ c with mTree := popped.1 }, popped.2)

/-- `popIfOutRanks(timerOfNow)`. -/
def popIfOutRanks (c : LocTimerContainer) (timer : LocTimerDelegate) :
    LocTimerContainer × Option LocTimerDelegate :=
  match c.getSoonestTimer with
  | none => (c, none)
  | some top => if !timer.outRanks top then c.pop else (c, none)

def updateSoonestTime (c : LocTimerContainer) (priorTop : Option LocTimerDelegate) :
    LocTimerContainer :=
  let curTop := c.getSoonestTimer
  -- check if top has changed
  if curTop ≠ priorTop then
    match curTop with
    -- if tree is empty now, we remove poll and disarm timer
    | none => { c with polled := false, armed := none }
    | some top =>
      match priorTop with
      | none => { c with polled := true, armed := some top.mFutureTime }
      | some prior =>
        if top.outRanks prior then
          { c with polled := true, armed := some top.mFutureTime }
        else c
  else c

/-- `MsgTimerPush::proc`. -/
def procPush (c : LocTimerContainer) (timer : LocTimerDelegate) : LocTimerContainer :=
  (c.push timer).updateSoonestTime c.getSoonestTimer

/-- `MsgTimerRemove::proc`. -/
def procRemove (c : LocTimerContainer) (timer : LocTimerDelegate) : LocTimerContainer :=
  let removed := c.heapRemove timer
  if c.getSoonestTimer = removed.2 then removed.1.updateSoonestTime none else removed.1

end LocTimerContainer

/-! ## The threads -/

/-- In all of these the container is `LocTimerContainer::get(wakeOnExpire)`. -/
inductive TimerMsg where
  | push (wakeOnExpire : Bool) (timer : LocTimerDelegate)
  | remove (wakeOnExpire : Bool) (timer : LocTimerDelegate)
  | expire (wakeOnExpire : Bool)

/-- How far the poll thread is with `expire()` of a container. -/
inductive ExpirePc where
  | setTime | removePoll | sendMsg
  deriving DecidableEq

inductive PollThread where
  | epollWait
  | expire (pc : ExpirePc) (wakeOnExpire : Bool) (rest : List Bool)
  deriving DecidableEq

/-- The message task: between messages, or in the loop of MsgTimerExpire,
about to pop the next timer or holding one and the client read from it. -/
inductive MsgTask where
  | idle
  | popNext (wakeOnExpire : Bool) (now : Timespec)
  | popped (wakeOnExpire : Bool) (now : Timespec) (timer : LocTimerDelegate) (client : Option Nat)

/-- LocTimers are numbers; so are delegates, in `mClient` and `mContainer`. -/
structure Timers where
  /-- CLOCK_BOOTTIME -/
  now : Timespec
  mTimer : Nat → Option LocTimerDelegate
  mClient : Nat → Option Nat
  mContainer : Nat → Option Bool
  container : Bool → LocTimerContainer
  mMsgTask : List TimerMsg
  task : MsgTask
  pollThread : PollThread
  /-- The next delegate. -/
  nextId : Nat

/-- What a client does and sees; the delegate is the start it belongs to. -/
inductive TimerOut where
  | started (client : Nat) (timer : LocTimerDelegate)
  /-- A client's `stop()` returned true. -/
  | stopped (client : Nat) (timer : LocTimerDelegate)
  | timeOutCallback (client : Nat) (timer : LocTimerDelegate) (now : Timespec)
  deriving DecidableEq

/-- The expiry time `LocTimer::start` computes. -/
def LocTimer.futureTime (now : Timespec) (timeOutInMs : UInt32) : Timespec :=
  let tv_sec := now.tv_sec + (timeOutInMs.toNat / 1000 : Nat)
  let tv_nsec := now.tv_nsec + (timeOutInMs.toNat % 1000 : Nat) * 1000000
  if 1000000000 ≤ tv_nsec then ⟨tv_sec + tv_nsec / 1000000000, tv_nsec % 1000000000⟩
  else ⟨tv_sec, tv_nsec⟩

namespace Timers

def new : Timers where
  now := ⟨0, 0⟩
  mTimer _ := none
  mClient _ := none
  mContainer _ := none
  container _ := .new
  mMsgTask := []
  task := .idle
  pollThread := .epollWait
  nextId := 0

def sendMsg (s : Timers) (msg : TimerMsg) : Timers :=
  { s with mMsgTask := s.mMsgTask ++ [msg] }

def setContainer (s : Timers) (wakeOnExpire : Bool) (c : LocTimerContainer) : Timers :=
  { s with container := update s.container wakeOnExpire c }

/-- `LocTimer::start`, and the delegate it made. -/
def start (s : Timers) (client : Nat) (timeOutInMs : UInt32) (wakeOnExpire : Bool) :
    Timers × Option LocTimerDelegate :=
  match s.mTimer client with
  | some _ => (s, none)
  | none =>
    let timer : LocTimerDelegate := ⟨s.nextId, LocTimer.futureTime s.now timeOutInMs⟩
    ({ s with
        mTimer := update s.mTimer client (some timer)
        mClient := update s.mClient timer.id (some client)
        mContainer := update s.mContainer timer.id (some wakeOnExpire)
        mMsgTask := s.mMsgTask ++ [.push wakeOnExpire timer]
        nextId := s.nextId + 1 }, some timer)

def destroyLocked (s : Timers) (timer : LocTimerDelegate) : Timers :=
  let s := { s with mClient := update s.mClient timer.id none }
  match s.mContainer timer.id with
  | none => s
  | some wakeOnExpire =>
    { s with mContainer := update s.mContainer timer.id none }.sendMsg
      (.remove wakeOnExpire timer)

/-- `LocTimer::stop`, and the delegate it destroyed. -/
def stop (s : Timers) (client : Nat) : Timers × Option LocTimerDelegate :=
  match s.mTimer client with
  | none => (s, none)
  | some timer =>
    ({ s with mTimer := update s.mTimer client none }.destroyLocked timer, some timer)

/-- The end of one turn of the loop in `MsgTimerExpire::proc`: what was
popped is looked at, or the loop is over. -/
def afterPop (s : Timers) (wakeOnExpire : Bool) (now : Timespec)
    (popped : LocTimerContainer × Option LocTimerDelegate) : Timers :=
  match popped.2 with
  | some timer =>
    { s.setContainer wakeOnExpire popped.1 with
      task := .popped wakeOnExpire now timer (s.mClient timer.id) }
  | none =>
    { s.setContainer wakeOnExpire (popped.1.updateSoonestTime none) with task := .idle }

/-- The message task goes on. -/
def taskStep (s : Timers) : Timers × List TimerOut :=
  match s.task with
  | .idle =>
    match s.mMsgTask with
    | [] => (s, [])
    | .push wakeOnExpire timer :: rest =>
      ({ s.setContainer wakeOnExpire ((s.container wakeOnExpire).procPush timer) with
          mMsgTask := rest }, [])
    | .remove wakeOnExpire timer :: rest =>
      ({ s.setContainer wakeOnExpire ((s.container wakeOnExpire).procRemove timer) with
          mMsgTask := rest }, [])
    | .expire wakeOnExpire :: rest =>
      ({ s with mMsgTask := rest }.afterPop wakeOnExpire s.now (s.container wakeOnExpire).pop,
        [])
  | .popNext wakeOnExpire now =>
    (s.afterPop wakeOnExpire now ((s.container wakeOnExpire).popIfOutRanks ⟨s.nextId, now⟩), [])
  | .popped wakeOnExpire now _ none => ({ s with task := .popNext wakeOnExpire now }, [])
  | .popped wakeOnExpire now _ (some client) =>
    ({ (s.stop client).1 with task := .popNext wakeOnExpire now },
      (s.stop client).2.toList.map fun stopped => .timeOutCallback client stopped now)

/-- The fd has expired and is polled. -/
def Readable (s : Timers) (wakeOnExpire : Bool) : Prop :=
  (s.container wakeOnExpire).polled = true ∧
    ∃ t ∈ (s.container wakeOnExpire).armed, t.NotAfter s.now
  deriving Decidable

/-- Go on with the next of the events that `epoll_wait` returned. -/
def nextEvent (s : Timers) : List Bool → Timers
  | [] => { s with pollThread := .epollWait }
  | wakeOnExpire :: rest => { s with pollThread := .expire .setTime wakeOnExpire rest }

/-- The poll thread goes on with `LocTimerContainer::expire`. -/
def pollStep (s : Timers) : Timers :=
  match s.pollThread with
  | .epollWait => s
  | .expire .setTime wakeOnExpire rest =>
    { s.setContainer wakeOnExpire { s.container wakeOnExpire with armed := none } with
      pollThread := .expire .removePoll wakeOnExpire rest }
  | .expire .removePoll wakeOnExpire rest =>
    { s.setContainer wakeOnExpire { s.container wakeOnExpire with polled := false } with
      pollThread := .expire .sendMsg wakeOnExpire rest }
  | .expire .sendMsg wakeOnExpire rest => (s.sendMsg (.expire wakeOnExpire)).nextEvent rest

end Timers

inductive TimerEvent where
  /-- The boot clock moves on to `t`. -/
  | tick (t : Timespec)
  | start (client : Nat) (timeOutInMs : UInt32) (wakeOnExpire : Bool)
  | stop (client : Nat)
  /-- `epoll_wait` returns these containers. -/
  | epollWake (ready : List Bool)
  | pollStep | taskStep

namespace Timers

def step (s : Timers) : TimerEvent → Timers × List TimerOut
  | .tick t => if s.now.NotAfter t ∧ t.Normalized then ({ s with now := t }, []) else (s, [])
  | .start client timeOutInMs wakeOnExpire =>
    ((s.start client timeOutInMs wakeOnExpire).1,
      (s.start client timeOutInMs wakeOnExpire).2.toList.map (.started client))
  | .stop client => ((s.stop client).1, (s.stop client).2.toList.map (.stopped client))
  | .epollWake ready =>
    if s.pollThread = .epollWait ∧ ready.Nodup ∧ ∀ w ∈ ready, s.Readable w then
      (s.nextEvent ready, [])
    else (s, [])
  | .pollStep => (s.pollStep, [])
  | .taskStep => s.taskStep

end Timers

end LocStack.Timer
