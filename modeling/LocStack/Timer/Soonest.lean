/-
# `LocStack.Timer.Soonest` — what the timer fd is armed with

`updateSoonestTime` is to keep the fd of a container armed with the time of
its soonest timer, and disarmed while there is none.  It compares the top it
finds with the prior top it is handed, and after a removal or an expiry it is
handed NULL for "set it in any case"; with the heap empty NULL is also the
top it finds, and it does nothing.  So the fd stays armed where a removal, or
the end of an expiry, leaves the heap empty while the fd is armed.

`fdRight` says that nothing else goes wrong: in a run without such a step,
and within the seconds that an `int` can tell apart, the fd of a container
for which nothing is in flight is as it should be.
-/
import LocStack.Timer.Expire

namespace LocStack.Timer

open Base Heap List Function Option

/-! ## Ranks as an order -/

/-- Up to this second `futureTime` stays below 2³¹. -/
def maxBootSec : Int := 2143188680

/-- A time the ranking can compare with any other such time. -/
def LocTimerDelegate.InRange (d : LocTimerDelegate) : Prop :=
  d.mFutureTime.Normalized ∧ d.mFutureTime.tv_sec < 2147483648

theorem LocTimerDelegate.outRanks_eq_false {a b : LocTimerDelegate} (ha : a.InRange)
    (hb : b.InRange) : a.outRanks b = false ↔ b.mFutureTime.NotAfter a.mFutureTime := by
  obtain ⟨⟨ha₁, ha₂, ha₃⟩, ha₄⟩ := ha
  obtain ⟨⟨hb₁, hb₂, hb₃⟩, hb₄⟩ := hb
  unfold outRanks ranks toInt Timespec.NotAfter
  simp only [decide_eq_false_iff_not, Int.not_lt]
  split <;> omega

theorem LocTimerDelegate.ranksWell : LocHeapNode.RanksWell InRange outRanks where
  asymm a b ha hb h := by
    rw [outRanks_eq_false hb ha]
    have hnot : ¬ b.mFutureTime.NotAfter a.mFutureTime := by
      rw [← outRanks_eq_false ha hb, h]
      decide
    unfold Timespec.NotAfter at hnot ⊢
    omega
  trans a b c ha hb hc hab hbc := by
    rw [outRanks_eq_false ha hb] at hab
    rw [outRanks_eq_false hb hc] at hbc
    rw [outRanks_eq_false ha hc]
    exact hbc.trans hab

/-! ## One container -/

namespace LocTimerContainer

variable {c : LocTimerContainer} {timer : LocTimerDelegate}

/-- Disarmed if the heap is empty; otherwise armed with the time of a timer
of the heap that none of the heap comes before. -/
def FdRight (c : LocTimerContainer) : Prop :=
  (c.timers = [] → c.armed = none) ∧
    (c.timers ≠ [] → ∃ d ∈ c.timers, (∀ d' ∈ c.timers, d.mFutureTime.NotAfter d'.mFutureTime) ∧
      c.armed = some d.mFutureTime)

/-- The heap is one, of times in range. -/
structure HeapRight (c : LocTimerContainer) : Prop where
  ordered : c.mTree.Ordered LocTimerDelegate.outRanks
  inRange : ∀ d ∈ c.timers, d.InRange

/-- The fd is set to the top, or to nothing. -/
def ArmedRight (c : LocTimerContainer) : Prop :=
  c.armed = c.getSoonestTimer.map (·.mFutureTime)

theorem timers_eq_nil : c.timers = [] ↔ c.getSoonestTimer = none :=
  LocHeapNode.data_eq_nil.trans LocHeapNode.peek_eq_none.symm

theorem fdRight_of_armedRight (h : c.ArmedRight) (hheap : c.HeapRight) : c.FdRight := by
  refine ⟨fun hnil => ?_, fun hne => ?_⟩
  · rw [h, timers_eq_nil.mp hnil]
    rfl
  · cases htop : c.getSoonestTimer with
    | none => exact absurd (timers_eq_nil.mpr htop) hne
    | some top =>
      have hmem := c.getSoonestTimer_mem htop
      refine ⟨top, hmem, fun d hd => ?_, by rw [h, htop]; rfl⟩
      have hfirst := hheap.ordered.peek_first LocTimerDelegate.ranksWell hheap.inRange htop d hd
      exact (LocTimerDelegate.outRanks_eq_false (hheap.inRange d hd)
        (hheap.inRange top hmem)).mp hfirst

theorem heapRight_new : new.HeapRight where
  ordered := trivial
  inRange _ h := absurd h not_mem_nil

theorem HeapRight.of_mTree {c' : LocTimerContainer} (h : c.HeapRight) (ht : c'.mTree = c.mTree) :
    c'.HeapRight where
  ordered := ht ▸ h.ordered
  inRange := by
    unfold timers
    rw [ht]
    exact h.inRange

theorem HeapRight.procPush (h : c.HeapRight) (ht : timer.InRange) :
    (c.procPush timer).HeapRight where
  ordered := by
    unfold LocTimerContainer.procPush
    rw [updateSoonestTime_mTree]
    exact h.ordered.push LocTimerDelegate.ranksWell h.inRange ht
  inRange d hd := by
    rcases c.mem_procPush.mp hd with rfl | hd
    · exact ht
    · exact h.inRange d hd

theorem HeapRight.pop (h : c.HeapRight) : c.pop.1.HeapRight where
  ordered := h.ordered.pop LocTimerDelegate.ranksWell h.inRange
  inRange d hd := h.inRange d (c.mem_of_pop hd)

theorem HeapRight.procRemove (h : c.HeapRight) (timer : LocTimerDelegate) :
    (c.procRemove timer).HeapRight where
  ordered := by
    have hord := h.ordered.remove LocTimerDelegate.ranksWell h.inRange timer
    unfold LocTimerContainer.procRemove
    simp only
    split
    · rw [updateSoonestTime_mTree]
      exact hord
    · exact hord
  inRange d hd := h.inRange d (c.mem_of_procRemove hd)

theorem updateSoonestTime_none (c : LocTimerContainer) : c.updateSoonestTime none =
      match c.getSoonestTimer with
      | none => c
      | some top => { c with polled := true, armed := some top.mFutureTime } := by
  unfold updateSoonestTime
  cases htop : c.getSoonestTimer with
  | none => rfl
  | some top => rfl

theorem armedRight_updateSoonestTime (h : c.getSoonestTimer = none → c.armed = none) :
    (c.updateSoonestTime none).ArmedRight := by
  unfold ArmedRight getSoonestTimer
  rw [updateSoonestTime_mTree, updateSoonestTime_none]
  cases htop : c.getSoonestTimer with
  | none =>
    rw [h htop]
    show none = Option.map _ c.getSoonestTimer
    rw [htop]
    rfl
  | some top =>
    show some top.mFutureTime = Option.map _ c.getSoonestTimer
    rw [htop]
    rfl

theorem ArmedRight.procPush (h : c.ArmedRight) (timer : LocTimerDelegate) :
    (c.procPush timer).ArmedRight := by
  have hpeek : (c.push timer).getSoonestTimer =
      some (c.getSoonestTimer.elim timer fun top => if timer.outRanks top then timer else top) :=
    LocHeapNode.push_peek c.mTree timer
  unfold ArmedRight getSoonestTimer LocTimerContainer.procPush
  rw [updateSoonestTime_mTree]
  show ((c.push timer).updateSoonestTime c.getSoonestTimer).armed =
    (c.push timer).getSoonestTimer.map (·.mFutureTime)
  unfold updateSoonestTime
  simp only [hpeek]
  unfold ArmedRight at h
  cases htop : c.getSoonestTimer with
  | none => rfl
  | some top =>
    rw [htop] at h
    by_cases hr : timer.outRanks top = true
    · by_cases heq : timer = top
      · subst heq
        simpa [hr, push] using h
      · simp [hr, heq]
    · simpa [hr, push] using h

theorem ArmedRight.procRemove (h : c.ArmedRight) (timer : LocTimerDelegate)
    (hempty : (c.heapRemove timer).1.getSoonestTimer = none → c.armed = none) :
    (c.procRemove timer).ArmedRight := by
  unfold LocTimerContainer.procRemove
  simp only
  split
  · exact armedRight_updateSoonestTime hempty
  · rename_i hne
    show c.armed = ((c.heapRemove timer).1.getSoonestTimer).map (·.mFutureTime)
    rw [h]
    cases htop : c.getSoonestTimer with
    | none =>
      -- there was nothing to remove
      rw [htop] at hne
      have hnull : c.mTree = .null := LocHeapNode.peek_eq_none.mp htop
      refine absurd ?_ hne
      show none = (c.mTree.remove LocTimerDelegate.outRanks timer).2
      rw [hnull]
      rfl
    | some top =>
      have hother : timer ≠ top := by
        rintro rfl
        have hnode := htop
        unfold getSoonestTimer at hnode
        refine hne (htop.trans ?_)
        show some timer = (c.mTree.remove LocTimerDelegate.outRanks timer).2
        cases ht : c.mTree with
        | null =>
          rw [ht] at hnode
          cases hnode
        | node s l r d =>
          rw [ht] at hnode
          injection hnode with hd
          subst hd
          unfold LocHeapNode.remove
          rw [if_pos rfl, LocHeapNode.pop_snd]
          rfl
      have hpeek : (c.heapRemove timer).1.getSoonestTimer = some top :=
        LocHeapNode.remove_peek htop hother
      rw [hpeek]

end LocTimerContainer

/-! ## Messages in flight -/

/-- The container a message is for. -/
def TimerMsg.wakeOnExpire : TimerMsg → Bool
  | .push w _ | .remove w _ | .expire w => w

/-- The poll thread has an event of the container in hand. -/
def PollThread.Has (w : Bool) : PollThread → Prop
  | .epollWait => False
  | .expire _ w' rest => w' = w ∨ w ∈ rest

/-- The poll thread has disarmed the fd and not sent the message yet. -/
def PollThread.Disarmed (w : Bool) : PollThread → Prop
  | .expire .removePoll w' _ | .expire .sendMsg w' _ => w' = w
  | _ => False

namespace Timers

variable {s : Timers} {w : Bool}

/-- No message for the container and no event of it is in flight. -/
def Quiescent (s : Timers) (w : Bool) : Prop :=
  (∀ msg ∈ s.mMsgTask, msg.wakeOnExpire ≠ w) ∧ (∀ now, ¬ s.Expiring w now) ∧ ¬ s.pollThread.Has w

/-- An expire message for the container is sent, being sent or being
processed: at its end it sets the fd again. -/
def PendingExpire (s : Timers) (w : Bool) : Prop :=
  .expire w ∈ s.mMsgTask ∨ (∃ now, s.Expiring w now) ∨ s.pollThread.Disarmed w

theorem Quiescent.not_pendingExpire (h : s.Quiescent w) : ¬ s.PendingExpire w := by
  rintro (hmsg | ⟨now, hexp⟩ | hdis)
  · exact h.1 _ hmsg rfl
  · exact h.2.1 now hexp
  · refine h.2.2 ?_
    cases hp : s.pollThread with
    | epollWait =>
      rw [hp] at hdis
      exact hdis
    | expire pc w' rest =>
      rw [hp] at hdis
      cases pc with
      | setTime => exact hdis.elim
      | removePoll => exact Or.inl hdis
      | sendMsg => exact Or.inl hdis

/-- The step does not leave the heap empty under an armed fd: a removal, and
the end of an expiry, that leaves nothing in the heap finds the fd disarmed.
Nor does it take the boot clock to where an `int` overflows. -/
def keepsFd (s : Timers) : TimerEvent → Bool
  | .tick t => t.tv_sec < maxBootSec
  | .taskStep =>
    match s.task, s.mMsgTask with
    | .idle, .remove w timer :: _ =>
      ((s.container w).heapRemove timer).1.getSoonestTimer.isSome || (s.container w).armed.isNone
    | .idle, .expire w :: _ =>
      (s.container w).getSoonestTimer.isSome || (s.container w).armed.isNone
    | .popNext w _, _ =>
      (s.container w).getSoonestTimer.isSome || (s.container w).armed.isNone
    | _, _ => true
  | _ => true

/-! ## The invariant -/

/-- Unless an expire message is to come, the fd is set to the top. -/
structure FdKept (s : Timers) : Prop where
  now : s.now.Normalized
  nowLt : s.now.tv_sec < maxBootSec
  inPlay : ∀ d, s.InPlay d → d.InRange
  heap : ∀ w, (s.container w).HeapRight
  armed : ∀ w, s.PendingExpire w ∨ (s.container w).ArmedRight

theorem fdKept_new : new.FdKept where
  now := by decide
  nowLt := by decide
  inPlay d h := by
    rcases h with ⟨w, hw⟩ | ⟨w, hw⟩ | ⟨_, _, _, ht⟩
    · exact absurd hw not_mem_nil
    · exact absurd hw not_mem_nil
    · cases ht
  heap _ := LocTimerContainer.heapRight_new
  armed _ := Or.inr rfl

variable {s' : Timers} {now : Timespec} {l : List TimerMsg} {timer : LocTimerDelegate}
  {client : Option Nat}

theorem FdKept.frame (h : s.FdKept) (hnow : s'.now.Normalized) (hlt : s'.now.tv_sec < maxBootSec)
    (hcont : s'.container = s.container) (hplay : ∀ d, s'.InPlay d → s.InPlay d ∨ d.InRange)
    (hpend : ∀ w, s.PendingExpire w → s'.PendingExpire w) : s'.FdKept where
  now := hnow
  nowLt := hlt
  inPlay d hd := (hplay d hd).elim (h.inPlay d) id
  heap w := hcont ▸ h.heap w
  armed w := by
    rcases h.armed w with hp | ha
    · exact Or.inl (hpend w hp)
    · exact Or.inr (hcont ▸ ha)

theorem FdKept.update {c : LocTimerContainer} (h : s.FdKept) (hnow : s'.now = s.now)
    (hcont : s'.container = update s.container w c) (hplay : ∀ d, s'.InPlay d → s.InPlay d)
    (hheap : c.HeapRight) (hself : s'.PendingExpire w ∨ c.ArmedRight)
    (hpend : ∀ w', w' ≠ w → s.PendingExpire w' → s'.PendingExpire w') : s'.FdKept := by
  refine ⟨hnow ▸ h.now, hnow ▸ h.nowLt, fun d hd => h.inPlay d (hplay d hd), fun w' => ?_,
    fun w' => ?_⟩
  · rw [hcont]
    by_cases hw : w' = w
    · subst hw
      rwa [update_self]
    · rw [update_of_ne hw]
      exact h.heap w'
  · rw [hcont]
    by_cases hw : w' = w
    · subst hw
      rwa [update_self]
    · rw [update_of_ne hw]
      exact (h.armed w').imp (hpend w' hw) id

theorem PendingExpire.of_rest {msg : TimerMsg} {rest : List TimerMsg} (hp : s.PendingExpire w)
    (hq : s.mMsgTask = msg :: rest) (hmsg : msg ≠ .expire w) (hq' : s'.mMsgTask = rest)
    (htask : s'.task = s.task) (hpoll : s'.pollThread = s.pollThread) : s'.PendingExpire w := by
  rcases hp with hp | ⟨now, hp⟩ | hp
  · rw [hq] at hp
    rcases mem_cons.mp hp with hp | hp
    · exact absurd hp.symm hmsg
    · exact Or.inl (hq' ▸ hp)
  · refine Or.inr (Or.inl ⟨now, ?_⟩)
    unfold Expiring at hp ⊢
    rwa [htask]
  · exact Or.inr (Or.inr (hpoll ▸ hp))

theorem FdKept.afterPop {s₀ : Timers} {r : LocTimerContainer × Option LocTimerDelegate}
    (h : s.FdKept) (hnow : s₀.now = s.now) (hcont : s₀.container = s.container)
    (hplay : ∀ d, (s₀.afterPop w now r).InPlay d → s.InPlay d) (hheap : r.1.HeapRight)
    (hempty : r.2 = none → r.1.getSoonestTimer = none → r.1.armed = none)
    (hpend : ∀ w', w' ≠ w → s.PendingExpire w' → .expire w' ∈ s₀.mMsgTask ∨
      s₀.pollThread.Disarmed w') : (s₀.afterPop w now r).FdKept := by
  cases hr : r.2 with
  | none =>
    rw [afterPop_none hr] at hplay ⊢
    refine h.update (w := w) hnow ?_ hplay
      (hheap.of_mTree (LocTimerContainer.updateSoonestTime_mTree _ _))
      (Or.inr (LocTimerContainer.armedRight_updateSoonestTime (hempty hr))) fun w' hw hp => ?_
    · show Function.update s₀.container w _ = _
      rw [hcont]
    · rcases hpend w' hw hp with hp | hp
      · exact Or.inl hp
      · exact Or.inr (Or.inr hp)
  | some d =>
    rw [afterPop_some hr] at hplay ⊢
    refine h.update (w := w) hnow ?_ hplay hheap
      (Or.inl (Or.inr (Or.inl ⟨now, Or.inr ⟨d, _, rfl⟩⟩))) fun w' hw hp => ?_
    · show Function.update s₀.container w _ = _
      rw [hcont]
    · rcases hpend w' hw hp with hp | hp
      · exact Or.inl hp
      · exact Or.inr (Or.inr hp)

theorem stop_queue (s : Timers) (client : Nat) :
    (∃ l, (s.stop client).1.mMsgTask = s.mMsgTask ++ l) ∧
      (s.stop client).1.pollThread = s.pollThread := by
  cases ht : s.mTimer client with
  | none =>
    rw [stop_of_none ht]
    exact ⟨⟨[], (append_nil _).symm⟩, rfl⟩
  | some d =>
    rw [stop_of_some ht, destroyLocked_eq]
    exact ⟨⟨_, rfl⟩, rfl⟩

theorem not_expiring_of_idle (ht : s.task = .idle) (w : Bool) (now : Timespec) :
    ¬ s.Expiring w now := by
  rintro (he | ⟨_, _, he⟩)
  · rw [ht] at he
    cases he
  · rw [ht] at he
    cases he

theorem FdKept.taskStep_idle (h : s.FdKept) (hok : s.keepsFd .taskStep = true)
    (htask : s.task = .idle) : s.taskStep.1.FdKept := by
  have hplay : ∀ d, s.taskStep.1.InPlay d → s.InPlay d := fun d hd => inPlay_taskStep hd
  cases hq : s.mMsgTask with
  | nil =>
    rw [taskStep_nil htask hq]
    exact h
  | cons msg rest =>
    cases msg with
    | push w timer =>
      have hin : timer.InRange :=
        h.inPlay timer (Or.inr (Or.inl ⟨w, hq ▸ mem_cons_self⟩))
      rw [taskStep_push htask hq] at hplay ⊢
      refine h.update rfl rfl hplay ((h.heap w).procPush hin) ?_ fun w' _ hp => ?_
      · rcases h.armed w with hp | ha
        · exact Or.inl (hp.of_rest hq (fun he => nomatch he) rfl rfl rfl)
        · exact Or.inr (ha.procPush timer)
      · exact hp.of_rest hq (fun he => nomatch he) rfl rfl rfl
    | remove w timer =>
      rw [taskStep_remove htask hq] at hplay ⊢
      refine h.update rfl rfl hplay ((h.heap w).procRemove timer) ?_ fun w' _ hp => ?_
      · rcases h.armed w with hp | ha
        · exact Or.inl (hp.of_rest hq (fun he => nomatch he) rfl rfl rfl)
        · refine Or.inr (ha.procRemove timer fun hnone => ?_)
          simp only [keepsFd, htask, hq, hnone, isSome_none, Bool.false_or] at hok
          exact isNone_iff_eq_none.mp hok
      · exact hp.of_rest hq (fun he => nomatch he) rfl rfl rfl
    | expire w =>
      rw [taskStep_expire htask hq] at hplay ⊢
      refine h.afterPop rfl rfl hplay (h.heap w).pop (fun hnone _ => ?_) fun w' hw hp => ?_
      · rw [LocTimerContainer.pop_snd] at hnone
        simp only [keepsFd, htask, hq, hnone, isSome_none, Bool.false_or] at hok
        exact isNone_iff_eq_none.mp hok
      · rcases hp with hp | ⟨now, hp⟩ | hp
        · rw [hq] at hp
          rcases mem_cons.mp hp with hp | hp
          · injection hp with hp
            exact absurd hp hw
          · exact Or.inl hp
        · exact absurd hp (not_expiring_of_idle htask w' now)
        · exact Or.inr hp

theorem FdKept.taskStep_popNext (h : s.FdKept) (hok : s.keepsFd .taskStep = true)
    (htask : s.task = .popNext w now) : s.taskStep.1.FdKept := by
  have hplay : ∀ d, s.taskStep.1.InPlay d → s.InPlay d := fun d hd => inPlay_taskStep hd
  have hpend : ∀ w', w' ≠ w → s.PendingExpire w' →
      .expire w' ∈ s.mMsgTask ∨ s.pollThread.Disarmed w' := by
    rintro w' hw (hp | ⟨now', he | ⟨_, _, he⟩⟩ | hp)
    · exact Or.inl hp
    · rw [htask] at he
      injection he with he _
      exact absurd he.symm hw
    · rw [htask] at he
      cases he
    · exact Or.inr hp
  rw [Timers.taskStep_popNext htask] at hplay ⊢
  rcases (s.container w).popIfOutRanks_cases ⟨s.nextId, now⟩ with ⟨heq, -⟩ | ⟨top, htop, -, heq⟩
  · rw [heq] at hplay ⊢
    show (s.afterPop w now (s.container w, none)).FdKept
    refine h.afterPop rfl rfl hplay (h.heap w) (fun _ hnone => ?_) hpend
    have hnone : (s.container w).getSoonestTimer = none := hnone
    simp only [keepsFd, htask, hnone, isSome_none, Bool.false_or] at hok
    exact isNone_iff_eq_none.mp hok
  · rw [heq] at hplay ⊢
    refine h.afterPop rfl rfl hplay (h.heap w).pop (fun hnone _ => ?_) hpend
    rw [LocTimerContainer.pop_snd, htop] at hnone
    cases hnone

theorem PendingExpire.of_popped {w' : Bool} (hp : s.PendingExpire w')
    (htask : s.task = .popped w now timer client) (hq : s'.mMsgTask = s.mMsgTask ++ l)
    (hpoll : s'.pollThread = s.pollThread) (htask' : s'.task = .popNext w now) :
    s'.PendingExpire w' := by
  rcases hp with hp | ⟨now', he | ⟨_, _, he⟩⟩ | hp
  · exact Or.inl (hq ▸ mem_append_left _ hp)
  · rw [htask] at he
    cases he
  · rw [htask] at he
    injection he with hw _ _ _
    exact Or.inr (Or.inl ⟨now, Or.inl (hw ▸ htask')⟩)
  · exact Or.inr (Or.inr (hpoll ▸ hp))

theorem FdKept.taskStep_popped (h : s.FdKept) (htask : s.task = .popped w now timer client) :
    s.taskStep.1.FdKept := by
  have hplay : ∀ d, s.taskStep.1.InPlay d → s.InPlay d := fun d hd => inPlay_taskStep hd
  cases client with
  | none =>
    rw [taskStep_skip htask] at hplay ⊢
    exact h.frame h.now h.nowLt rfl (fun d hd => Or.inl (hplay d hd))
      fun w' hp => hp.of_popped htask (append_nil _).symm rfl rfl
  | some client =>
    rw [taskStep_callback htask] at hplay ⊢
    obtain ⟨hnow, hcont, -⟩ := stop_frame s client
    obtain ⟨⟨l, hq⟩, hpoll⟩ := stop_queue s client
    exact h.frame ((congrArg Timespec.Normalized hnow).mpr h.now)
      ((congrArg (·.tv_sec < maxBootSec) hnow).mpr h.nowLt) hcont
      (fun d hd => Or.inl (hplay d hd)) fun w' hp => hp.of_popped htask hq hpoll rfl

theorem FdKept.taskStep (h : s.FdKept) (hok : s.keepsFd .taskStep = true) :
    s.taskStep.1.FdKept := by
  cases htask : s.task with
  | idle => exact h.taskStep_idle hok htask
  | popNext w now => exact h.taskStep_popNext hok htask
  | popped w now timer client => exact h.taskStep_popped htask

theorem PendingExpire.of_append (hp : s.PendingExpire w) (hq : s'.mMsgTask = s.mMsgTask ++ l)
    (htask : s'.task = s.task) (hpoll : s'.pollThread = s.pollThread) : s'.PendingExpire w := by
  rcases hp with hp | ⟨now, hp⟩ | hp
  · exact Or.inl (hq ▸ mem_append_left _ hp)
  · refine Or.inr (Or.inl ⟨now, ?_⟩)
    unfold Expiring at hp ⊢
    rwa [htask]
  · exact Or.inr (Or.inr (hpoll ▸ hp))

theorem FdKept.pollStep (h : s.FdKept) : s.pollStep.FdKept := by
  have hplay : ∀ d, s.pollStep.InPlay d → s.InPlay d := fun d hd => inPlay_pollStep hd
  unfold Timers.pollStep at hplay ⊢
  cases hp : s.pollThread with
  | epollWait => exact h
  | expire pc w rest =>
    -- another container's message is neither sent nor lost
    have hother : ∀ s' : Timers, (∀ msg ∈ s.mMsgTask, msg ∈ s'.mMsgTask) → s'.task = s.task →
        ∀ w', w' ≠ w → s.PendingExpire w' → s'.PendingExpire w' := by
      rintro s' hq htask w' hw (hp' | ⟨now, he⟩ | hdis)
      · exact Or.inl (hq _ hp')
      · refine Or.inr (Or.inl ⟨now, ?_⟩)
        unfold Expiring at he ⊢
        rwa [htask]
      · rw [hp] at hdis
        cases pc with
        | setTime => exact hdis.elim
        | removePoll => exact absurd hdis.symm hw
        | sendMsg => exact absurd hdis.symm hw
    simp only [hp] at hplay ⊢
    cases pc with
    | setTime =>
      exact h.update (w := w) rfl rfl hplay ((h.heap w).of_mTree rfl)
        (Or.inl (Or.inr (Or.inr rfl))) (hother _ (fun _ hm => hm) rfl)
    | removePoll =>
      exact h.update (w := w) rfl rfl hplay ((h.heap w).of_mTree rfl)
        (Or.inl (Or.inr (Or.inr rfl))) (hother _ (fun _ hm => hm) rfl)
    | sendMsg =>
      have hself : s.container = Function.update s.container w (s.container w) :=
        (update_eq_self _ _).symm
      have hsent : .expire w ∈ s.mMsgTask ++ [.expire w] :=
        mem_append_right _ mem_cons_self
      have hkeep : ∀ msg ∈ s.mMsgTask, msg ∈ s.mMsgTask ++ [.expire w] :=
        fun _ hm => mem_append_left _ hm
      cases rest with
      | nil =>
        exact h.update (w := w) rfl hself hplay (h.heap w) (Or.inl (Or.inl hsent))
          (hother _ hkeep rfl)
      | cons w' rest =>
        exact h.update (w := w) rfl hself hplay (h.heap w) (Or.inl (Or.inl hsent))
          (hother _ hkeep rfl)

theorem FdKept.step (h : s.FdKept) (e : TimerEvent) (hok : s.keepsFd e = true) :
    (s.step e).1.FdKept := by
  cases e with
  | tick t =>
    simp only [Timers.step]
    split
    · rename_i hc
      have hlt : t.tv_sec < maxBootSec := of_decide_eq_true hok
      exact h.frame hc.2 hlt rfl (fun d hd => Or.inl hd) fun w hp => hp
    · exact h
  | start client ms w =>
    show (s.start client ms w).1.FdKept
    cases ht : s.mTimer client with
    | some d =>
      rw [start_of_some ht]
      exact h
    | none =>
      have hplay : ∀ d, (s.start client ms w).1.InPlay d → s.InPlay d ∨ d = _ :=
        fun d hd => inPlay_start ht hd
      rw [start_of_none ht] at hplay ⊢
      refine h.frame h.now h.nowLt rfl (fun d hd => ?_) fun w' hp =>
        hp.of_append rfl rfl rfl
      rcases hplay d hd with hd | rfl
      · exact Or.inl hd
      · obtain ⟨hnorm, hsec⟩ := LocTimer.futureTime_spec h.now ms
        have hlt := h.nowLt
        refine Or.inr ⟨hnorm, ?_⟩
        unfold maxTimeOutSec at hsec
        unfold maxBootSec at hlt
        show (LocTimer.futureTime s.now ms).tv_sec < 2147483648
        omega
  | stop client =>
    show (s.stop client).1.FdKept
    obtain ⟨hnow, hcont, htask⟩ := stop_frame s client
    obtain ⟨⟨l, hq⟩, hpoll⟩ := stop_queue s client
    exact h.frame (hnow ▸ h.now) (hnow ▸ h.nowLt) hcont (fun d hd => Or.inl (inPlay_stop hd))
      fun w hp => hp.of_append hq htask hpoll
  | epollWake ready =>
    simp only [Timers.step]
    split
    · rename_i hc
      -- the poll thread was waiting, so no message was being sent
      have hpend : ∀ s' : Timers, s'.mMsgTask = s.mMsgTask → s'.task = s.task →
          ∀ w, s.PendingExpire w → s'.PendingExpire w := by
        rintro s' hq htask w (hp | ⟨now, he⟩ | hdis)
        · exact Or.inl (hq ▸ hp)
        · refine Or.inr (Or.inl ⟨now, ?_⟩)
          unfold Expiring at he ⊢
          rwa [htask]
        · rw [hc.1] at hdis
          exact hdis.elim
      cases ready with
      | nil =>
        exact h.frame h.now h.nowLt rfl (fun d hd => Or.inl hd) (hpend _ rfl rfl)
      | cons w ready =>
        exact h.frame h.now h.nowLt rfl (fun d hd => Or.inl hd) (hpend _ rfl rfl)
    · exact h
  | pollStep => exact h.pollStep
  | taskStep => exact h.taskStep hok

/-- In every run whose steps keep the fd, whenever nothing is in flight for
a container its fd is disarmed or armed with its soonest time. -/
theorem fdRight (es : List TimerEvent)
    (h : StepsMeet step (fun s e => s.keepsFd e = true) new es) :
    StatesMeet step (fun s => ∀ w, s.Quiescent w → (s.container w).FdRight) new es := by
  have hkept : StatesMeet step FdKept new es :=
    statesMeet_of_stepsMeet (fun _ e hs hok => hs.step e hok) fdKept_new h
  refine hkept.mono fun s hs w hq => ?_
  rcases hs.armed w with hp | ha
  · exact absurd hp hq.not_pendingExpire
  · exact LocTimerContainer.fdRight_of_armedRight ha (hs.heap w)

/-- Of two timers the sooner is stopped, then runs out the other. -/
theorem fdRight_two : StatesMeet step (fun s => ∀ w, s.Quiescent w → (s.container w).FdRight) new
      [.start 1 100 false, .start 2 500 false, .taskStep, .taskStep, .stop 1, .taskStep,
        .tick ⟨1, 0⟩, .epollWake [false], .pollStep, .pollStep, .pollStep, .taskStep, .taskStep,
        .taskStep, .taskStep] :=
  fdRight _ (by decide)

/-- The only timer is stopped before it runs out. -/
theorem not_fdRight_of_stop : ¬ ∀ es : List TimerEvent,
      StatesMeet step (fun s => ∀ w, s.Quiescent w → (s.container w).FdRight) new es := by
  intro hall
  have h := (hall [.start 1 100 false, .taskStep, .stop 1, .taskStep]).last false
    ⟨by decide, ?_, fun hf => hf⟩
  · exact absurd (h.1 (by decide)) (by decide)
  · rintro now (he | ⟨_, _, he⟩)
    · cases he
    · cases he

end Timers

end LocStack.Timer
