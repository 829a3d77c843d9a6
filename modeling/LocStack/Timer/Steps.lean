/-
# `LocStack.Timer.Steps` — what the timers' steps touch

The frame of each operation, and what holds of the timers in any run
(`Owned`): a LocTimer and its delegate point at each other until
`destroyLocked`, and every delegate that is in a heap, in a push message or
in the hand of MsgTimerExpire is the only one of its address.
-/
import LocStack.Timer.Model

namespace LocStack.Timer

open Base Heap List Function Option

/-! ## Containers -/

namespace LocTimerContainer

variable (c : LocTimerContainer)

/-- What the container holds. -/
def timers : List LocTimerDelegate := c.mTree.data

@[simp] theorem updateSoonestTime_mTree (priorTop : Option LocTimerDelegate) :
    (c.updateSoonestTime priorTop).mTree = c.mTree := by
  unfold updateSoonestTime
  simp only
  split
  · split
    · rfl
    split
    · rfl
    split
    · rfl
    · rfl
  · rfl

@[simp] theorem timers_updateSoonestTime (priorTop : Option LocTimerDelegate) :
    (c.updateSoonestTime priorTop).timers = c.timers := by
  simp [timers]

variable {timer d : LocTimerDelegate}

theorem mem_procPush : d ∈ (c.procPush timer).timers ↔ d = timer ∨ d ∈ c.timers := by
  unfold procPush
  rw [timers_updateSoonestTime]
  exact (LocHeapNode.push_perm _ _).mem_iff.trans mem_cons

theorem mem_of_procRemove (h : d ∈ (c.procRemove timer).timers) : d ∈ c.timers := by
  have hmem : d ∈ (c.heapRemove timer).1.timers := by
    unfold procRemove at h
    simp only at h
    split at h
    · exact timers_updateSoonestTime _ _ ▸ h
    · exact h
  rcases LocHeapNode.remove_perm LocTimerDelegate.outRanks c.mTree timer with
    ⟨-, hperm⟩ | ⟨-, hsame⟩
  · exact hperm.mem_iff.mpr (mem_cons_of_mem _ hmem)
  · have htimers : (c.heapRemove timer).1.timers = c.timers := congrArg LocHeapNode.data hsame
    exact htimers ▸ hmem

theorem pop_snd : c.pop.2 = c.getSoonestTimer := LocHeapNode.pop_snd _

theorem mem_of_pop (h : d ∈ c.pop.1.timers) : d ∈ c.timers := by
  cases ht : c.mTree with
  | null =>
    have hnil : c.pop.1.mTree = .null := by
      show (c.mTree.pop LocTimerDelegate.outRanks).1 = .null
      rw [ht]
      rfl
    unfold timers at h
    rw [hnil] at h
    exact absurd h not_mem_nil
  | node s l r top =>
    have hpeek : c.mTree.peek = some top := by rw [ht]; rfl
    exact (LocHeapNode.pop_perm hpeek).mem_iff.mpr (mem_cons_of_mem _ h)

theorem getSoonestTimer_mem (h : c.getSoonestTimer = some d) : d ∈ c.timers :=
  LocHeapNode.peek_mem h

theorem popIfOutRanks_cases (timer : LocTimerDelegate) : (c.popIfOutRanks timer = (c, none) ∧
        ∀ top, c.getSoonestTimer = some top → timer.outRanks top = true) ∨
      ∃ top, c.getSoonestTimer = some top ∧ timer.outRanks top = false ∧
        c.popIfOutRanks timer = c.pop := by
  unfold popIfOutRanks
  cases htop : c.getSoonestTimer with
  | none => exact Or.inl ⟨rfl, fun _ h => nomatch h⟩
  | some top =>
    cases hr : timer.outRanks top with
    | true => exact Or.inl ⟨by simp [hr], fun t ht => by rw [← some.inj ht, hr]⟩
    | false => exact Or.inr ⟨top, rfl, hr, by simp [hr]⟩

end LocTimerContainer

/-! ## Clients -/

namespace Timers

variable {s : Timers} {client : Nat} {d : LocTimerDelegate} {ms : UInt32} {w : Bool}

theorem start_of_some (h : s.mTimer client = some d) : s.start client ms w = (s, none) := by
  unfold start
  rw [h]

theorem start_of_none (h : s.mTimer client = none) : s.start client ms w = ({ s with
          mTimer := update s.mTimer client (some ⟨s.nextId, LocTimer.futureTime s.now ms⟩)
          mClient := update s.mClient s.nextId (some client)
          mContainer := update s.mContainer s.nextId (some w)
          mMsgTask := s.mMsgTask ++ [.push w ⟨s.nextId, LocTimer.futureTime s.now ms⟩]
          nextId := s.nextId + 1 }, some ⟨s.nextId, LocTimer.futureTime s.now ms⟩) := by
  unfold start
  rw [h]

theorem stop_of_none (h : s.mTimer client = none) : s.stop client = (s, none) := by
  unfold stop
  rw [h]

theorem stop_of_some (h : s.mTimer client = some d) : s.stop client =
      ({ s with mTimer := update s.mTimer client none }.destroyLocked d, some d) := by
  unfold stop
  rw [h]

theorem destroyLocked_eq (s : Timers) (timer : LocTimerDelegate) : s.destroyLocked timer = { s with
        mClient := update s.mClient timer.id none
        mContainer := update s.mContainer timer.id none
        mMsgTask := s.mMsgTask ++
          ((s.mContainer timer.id).toList.map fun w => .remove w timer) } := by
  unfold destroyLocked
  cases hc : s.mContainer timer.id with
  | none =>
    have hsame : update s.mContainer timer.id none = s.mContainer := by
      rw [← hc]
      exact update_eq_self _ _
    simp only [hc, hsame, toList_none, map_nil, append_nil]
  | some w =>
    simp only [hc]
    rfl

section Frame

variable (w : Bool) (now : Timespec) (r : LocTimerContainer × Option LocTimerDelegate)

@[simp] theorem afterPop_now : (s.afterPop w now r).now = s.now := by
  unfold afterPop
  split <;> rfl

@[simp] theorem afterPop_mTimer : (s.afterPop w now r).mTimer = s.mTimer := by
  unfold afterPop
  split <;> rfl

@[simp] theorem afterPop_mClient : (s.afterPop w now r).mClient = s.mClient := by
  unfold afterPop
  split <;> rfl

@[simp] theorem afterPop_nextId : (s.afterPop w now r).nextId = s.nextId := by
  unfold afterPop
  split <;> rfl

end Frame

variable {w : Bool} {now : Timespec} {r : LocTimerContainer × Option LocTimerDelegate}

theorem afterPop_none (h : r.2 = none) : s.afterPop w now r =
      { s.setContainer w (r.1.updateSoonestTime none) with task := .idle } := by
  simp only [afterPop, h]

theorem afterPop_some (h : r.2 = some d) : s.afterPop w now r =
      { s.setContainer w r.1 with task := .popped w now d (s.mClient d.id) } := by
  simp only [afterPop, h]

@[simp] theorem setContainer_self (w : Bool) (c : LocTimerContainer) :
    (s.setContainer w c).container w = c := update_self _ _ _

/-! ## Delegates in play -/

/-- The message task still has to do with `d`. -/
def InPlay (s : Timers) (d : LocTimerDelegate) : Prop :=
  (∃ w, d ∈ (s.container w).timers) ∨ (∃ w, .push w d ∈ s.mMsgTask) ∨
    ∃ w now client, s.task = .popped w now d client

theorem mem_timers_setContainer {c : LocTimerContainer} {w' : Bool}
    (h : d ∈ ((s.setContainer w c).container w').timers) :
    d ∈ c.timers ∨ d ∈ (s.container w').timers := by
  by_cases hw : w' = w
  · subst hw
    refine Or.inl ?_
    simpa [setContainer] using h
  · refine Or.inr ?_
    simpa [setContainer, update_of_ne hw] using h

theorem inPlay_afterPop (hfst : ∀ x ∈ r.1.timers, x ∈ (s.container w).timers)
    (hsnd : ∀ x, r.2 = some x → x ∈ (s.container w).timers) (h : (s.afterPop w now r).InPlay d) :
    s.InPlay d := by
  unfold afterPop at h
  split at h
  · rename_i top htop
    rcases h with ⟨w', hw⟩ | ⟨w', hw⟩ | ⟨w', now', client, ht⟩
    · rcases mem_timers_setContainer hw with hw | hw
      · exact Or.inl ⟨w, hfst d hw⟩
      · exact Or.inl ⟨w', hw⟩
    · exact Or.inr (Or.inl ⟨w', hw⟩)
    · injection ht with _ _ htd _
      exact Or.inl ⟨w, htd ▸ hsnd top htop⟩
  · rcases h with ⟨w', hw⟩ | ⟨w', hw⟩ | ⟨w', now', client, ht⟩
    · rcases mem_timers_setContainer hw with hw | hw
      · rw [LocTimerContainer.timers_updateSoonestTime] at hw
        exact Or.inl ⟨w, hfst d hw⟩
      · exact Or.inl ⟨w', hw⟩
    · exact Or.inr (Or.inl ⟨w', hw⟩)
    · cases ht

theorem inPlay_stop (h : (s.stop client).1.InPlay d) : s.InPlay d := by
  cases ht : s.mTimer client with
  | none => rwa [stop_of_none ht] at h
  | some timer =>
    rw [stop_of_some ht, destroyLocked_eq] at h
    rcases h with ⟨w, hw⟩ | ⟨w, hw⟩ | hw
    · exact Or.inl ⟨w, hw⟩
    · refine Or.inr (Or.inl ⟨w, ?_⟩)
      rcases mem_append.mp hw with hw | hw
      · exact hw
      · obtain ⟨w', -, heq⟩ := mem_map.mp hw
        cases heq
    · exact Or.inr (Or.inr hw)

/-! ### The steps of the message task -/

section TaskStep

variable {rest : List TimerMsg} {w : Bool} {now : Timespec} {timer : LocTimerDelegate}

theorem taskStep_nil (ht : s.task = .idle) (hq : s.mMsgTask = []) : s.taskStep = (s, []) := by
  simp only [taskStep, ht, hq]

theorem taskStep_push (ht : s.task = .idle) (hq : s.mMsgTask = .push w timer :: rest) : s.taskStep =
      ({ s.setContainer w ((s.container w).procPush timer) with mMsgTask := rest }, []) := by
  simp only [taskStep, ht, hq]

theorem taskStep_remove (ht : s.task = .idle) (hq : s.mMsgTask = .remove w timer :: rest) :
    s.taskStep =
      ({ s.setContainer w ((s.container w).procRemove timer) with mMsgTask := rest }, []) := by
  simp only [taskStep, ht, hq]

theorem taskStep_expire (ht : s.task = .idle) (hq : s.mMsgTask = .expire w :: rest) :
    s.taskStep = ({ s with mMsgTask := rest }.afterPop w s.now (s.container w).pop, []) := by
  simp only [taskStep, ht, hq]

theorem taskStep_popNext (ht : s.task = .popNext w now) :
    s.taskStep = (s.afterPop w now ((s.container w).popIfOutRanks ⟨s.nextId, now⟩), []) := by
  simp only [taskStep, ht]

theorem taskStep_skip (ht : s.task = .popped w now timer none) :
    s.taskStep = ({ s with task := .popNext w now }, []) := by
  simp only [taskStep, ht]

theorem taskStep_callback (ht : s.task = .popped w now timer (some client)) :
    s.taskStep = ({ (s.stop client).1 with task := .popNext w now },
      (s.stop client).2.toList.map fun stopped => .timeOutCallback client stopped now) := by
  simp only [taskStep, ht]

end TaskStep

theorem inPlay_pop {rest : List TimerMsg} {w : Bool} {now : Timespec}
    (hrest : ∀ w, .push w d ∈ rest → .push w d ∈ s.mMsgTask)
    (h : ({ s with mMsgTask := rest }.afterPop w now (s.container w).pop).InPlay d) :
    s.InPlay d := by
  have hpop := inPlay_afterPop (s := { s with mMsgTask := rest })
    (fun x hx => LocTimerContainer.mem_of_pop _ hx)
    (fun x hx => LocTimerContainer.getSoonestTimer_mem _
      ((LocTimerContainer.pop_snd _).symm.trans hx)) h
  rcases hpop with hw | ⟨w', hw⟩ | hw
  · exact Or.inl hw
  · exact Or.inr (Or.inl ⟨w', hrest w' hw⟩)
  · exact Or.inr (Or.inr hw)

theorem inPlay_taskStep (h : s.taskStep.1.InPlay d) : s.InPlay d := by
  have hlose : ∀ (s' : Timers) w now, ({ s' with task := .popNext w now } : Timers).InPlay d →
      s'.InPlay d := by
    rintro s' w now (hw | hw | ⟨_, _, _, ht⟩)
    · exact Or.inl hw
    · exact Or.inr (Or.inl hw)
    · cases ht
  cases htask : s.task with
  | idle =>
    cases hq : s.mMsgTask with
    | nil => rwa [taskStep_nil htask hq] at h
    | cons msg rest =>
      -- what the rest of the queue pushes, the queue pushes
      have hrest : ∀ w, .push w d ∈ rest → .push w d ∈ s.mMsgTask := fun w hw =>
        hq ▸ mem_cons_of_mem _ hw
      cases msg with
      | push w timer =>
        rw [taskStep_push htask hq] at h
        rcases h with ⟨w', hw⟩ | ⟨w', hw⟩ | hw
        · rcases mem_timers_setContainer hw with hw | hw
          · rcases (LocTimerContainer.mem_procPush _).mp hw with rfl | hw
            · exact Or.inr (Or.inl ⟨w, hq ▸ mem_cons_self⟩)
            · exact Or.inl ⟨w, hw⟩
          · exact Or.inl ⟨w', hw⟩
        · exact Or.inr (Or.inl ⟨w', hrest w' hw⟩)
        · exact Or.inr (Or.inr hw)
      | remove w timer =>
        rw [taskStep_remove htask hq] at h
        rcases h with ⟨w', hw⟩ | ⟨w', hw⟩ | hw
        · rcases mem_timers_setContainer hw with hw | hw
          · exact Or.inl ⟨w, LocTimerContainer.mem_of_procRemove _ hw⟩
          · exact Or.inl ⟨w', hw⟩
        · exact Or.inr (Or.inl ⟨w', hrest w' hw⟩)
        · exact Or.inr (Or.inr hw)
      | expire w =>
        rw [taskStep_expire htask hq] at h
        exact inPlay_pop hrest h
  | popNext w now =>
    rw [taskStep_popNext htask] at h
    rcases (s.container w).popIfOutRanks_cases ⟨s.nextId, now⟩ with ⟨heq, -⟩ | ⟨top, -, -, heq⟩
    · rw [heq] at h
      have hnone : (s.afterPop w now (s.container w, none)).InPlay d := h
      refine inPlay_afterPop (fun _ hx => hx) (fun _ hx => ?_) hnone
      cases hx
    · rw [heq] at h
      exact inPlay_pop (fun _ hw => hw) h
  | popped w now timer client =>
    cases client with
    | none =>
      rw [taskStep_skip htask] at h
      exact hlose s w now h
    | some client =>
      rw [taskStep_callback htask] at h
      exact inPlay_stop (hlose _ w now h)

/-! ## Whose delegates they are -/

/-- A LocTimer and its delegate point at each other, and addresses tell
delegates apart. -/
structure Owned (s : Timers) : Prop where
  fresh : ∀ client d, s.mTimer client = some d → d.id < s.nextId
  client : ∀ client d, s.mTimer client = some d → s.mClient d.id = some client
  timer : ∀ i client, s.mClient i = some client → ∃ d, s.mTimer client = some d ∧ d.id = i
  inPlay_lt : ∀ d, s.InPlay d → d.id < s.nextId
  inPlay_eq : ∀ d client d', s.InPlay d → s.mTimer client = some d' → d'.id = d.id → d' = d

theorem owned_new : new.Owned where
  fresh _ _ h := nomatch h
  client _ _ h := nomatch h
  timer _ _ h := nomatch h
  inPlay_lt d h := by
    rcases h with ⟨w, hw⟩ | ⟨w, hw⟩ | ⟨_, _, _, ht⟩
    · exact absurd hw not_mem_nil
    · exact absurd hw not_mem_nil
    · cases ht
  inPlay_eq _ _ _ _ h := nomatch h

theorem Owned.frame {s' : Timers} (h : s.Owned) (htimer : s'.mTimer = s.mTimer)
    (hclient : s'.mClient = s.mClient) (hnext : s'.nextId = s.nextId)
    (hplay : ∀ d, s'.InPlay d → s.InPlay d) : s'.Owned where
  fresh k d hk := hnext ▸ h.fresh k d (htimer ▸ hk)
  client k d hk := hclient ▸ h.client k d (htimer ▸ hk)
  timer i k hi := htimer ▸ h.timer i k (hclient ▸ hi)
  inPlay_lt d hd := hnext ▸ h.inPlay_lt d (hplay d hd)
  inPlay_eq d k d' hd hk := h.inPlay_eq d k d' (hplay d hd) (htimer ▸ hk)

theorem Owned.stop (h : s.Owned) (client : Nat) : (s.stop client).1.Owned := by
  cases ht : s.mTimer client with
  | none => rwa [stop_of_none ht]
  | some timer =>
    have hplay : ∀ d, (s.stop client).1.InPlay d → s.InPlay d := fun d hd => inPlay_stop hd
    rw [stop_of_some ht, destroyLocked_eq] at hplay ⊢
    -- another LocTimer has another delegate
    have hne : ∀ k d, update s.mTimer client none k = some d →
        s.mTimer k = some d ∧ d.id ≠ timer.id := by
      intro k d hk
      by_cases hkc : k = client
      · subst hkc
        rw [update_self] at hk
        cases hk
      · rw [update_of_ne hkc] at hk
        refine ⟨hk, fun hid => hkc ?_⟩
        have hk' := h.client k d hk
        rw [hid, h.client client timer ht] at hk'
        exact (some.inj hk').symm
    constructor
    case fresh => exact fun k d hk => h.fresh k d (hne k d hk).1
    case client =>
      intro k d hk
      obtain ⟨hk, hid⟩ := hne k d hk
      exact (update_of_ne hid _ _).trans (h.client k d hk)
    case timer =>
      intro i k hi
      have hi : update s.mClient timer.id none i = some k := hi
      by_cases hit : i = timer.id
      · subst hit
        rw [update_self] at hi
        cases hi
      · rw [update_of_ne hit] at hi
        obtain ⟨d, hd, hdi⟩ := h.timer i k hi
        refine ⟨d, ?_, hdi⟩
        have hkc : k ≠ client := by
          rintro rfl
          rw [ht] at hd
          exact hit (hdi ▸ congrArg LocTimerDelegate.id (some.inj hd).symm)
        exact (update_of_ne hkc _ _).trans hd
    case inPlay_lt => exact fun d hd => h.inPlay_lt d (hplay d hd)
    case inPlay_eq =>
      exact fun d k d' hd hk => h.inPlay_eq d k d' (hplay d hd) (hne k d' hk).1

theorem inPlay_start {ms : UInt32} {w : Bool} (ht : s.mTimer client = none)
    (h : (s.start client ms w).1.InPlay d) :
    s.InPlay d ∨ d = ⟨s.nextId, LocTimer.futureTime s.now ms⟩ := by
  rw [start_of_none ht] at h
  rcases h with hw | ⟨w', hw⟩ | hw
  · exact Or.inl (Or.inl hw)
  · rcases mem_append.mp hw with hw | hw
    · exact Or.inl (Or.inr (Or.inl ⟨w', hw⟩))
    · rw [mem_singleton] at hw
      injection hw with _ hd
      exact Or.inr hd
  · exact Or.inl (Or.inr (Or.inr hw))

theorem Owned.start (h : s.Owned) (client : Nat) (ms : UInt32) (w : Bool) :
    (s.start client ms w).1.Owned := by
  cases ht : s.mTimer client with
  | some d => rwa [start_of_some ht]
  | none =>
    have hplay : ∀ d, (s.start client ms w).1.InPlay d → s.InPlay d ∨ d = _ :=
      fun d hd => inPlay_start ht hd
    rw [start_of_none ht] at hplay ⊢
    generalize LocTimer.futureTime s.now ms = future at hplay ⊢
    have hcases : ∀ k d, update s.mTimer client (some ⟨s.nextId, future⟩) k = some d →
        (k = client ∧ d = ⟨s.nextId, future⟩) ∨ (k ≠ client ∧ s.mTimer k = some d) := by
      intro k d hk
      by_cases hkc : k = client
      · subst hkc
        rw [update_self] at hk
        exact Or.inl ⟨rfl, (some.inj hk).symm⟩
      · rw [update_of_ne hkc] at hk
        exact Or.inr ⟨hkc, hk⟩
    constructor
    case fresh =>
      intro k d hk
      rcases hcases k d hk with ⟨-, rfl⟩ | ⟨-, hk⟩
      · exact Nat.lt_succ_self _
      · exact Nat.lt_succ_of_lt (h.fresh k d hk)
    case client =>
      intro k d hk
      rcases hcases k d hk with ⟨rfl, rfl⟩ | ⟨-, hk⟩
      · exact update_self _ _ _
      · have hid : d.id ≠ s.nextId := Nat.ne_of_lt (h.fresh k d hk)
        exact (update_of_ne hid _ _).trans (h.client k d hk)
    case timer =>
      intro i k hi
      have hi : update s.mClient s.nextId (some client) i = some k := hi
      by_cases hin : i = s.nextId
      · subst hin
        rw [update_self] at hi
        obtain rfl := some.inj hi
        exact ⟨_, update_self _ _ _, rfl⟩
      · rw [update_of_ne hin] at hi
        obtain ⟨d, hd, hdi⟩ := h.timer i k hi
        have hkc : k ≠ client := by
          rintro rfl
          rw [ht] at hd
          cases hd
        exact ⟨d, (update_of_ne hkc _ _).trans hd, hdi⟩
    case inPlay_lt =>
      intro d hd
      rcases hplay d hd with hd | rfl
      · exact Nat.lt_succ_of_lt (h.inPlay_lt d hd)
      · exact Nat.lt_succ_self _
    case inPlay_eq =>
      intro d k d' hd hk hid
      rcases hplay d hd with hd | rfl
      · rcases hcases k d' hk with ⟨-, rfl⟩ | ⟨-, hk⟩
        · exact absurd hid (Nat.ne_of_gt (h.inPlay_lt d hd))
        · exact h.inPlay_eq d k d' hd hk hid
      · rcases hcases k d' hk with ⟨-, rfl⟩ | ⟨-, hk⟩
        · rfl
        · exact absurd hid (Nat.ne_of_lt (h.fresh k d' hk))

theorem taskStep_frame (s : Timers) : (s.taskStep.1.now = s.now ∧ s.taskStep.1.mTimer = s.mTimer ∧
        s.taskStep.1.mClient = s.mClient ∧ s.taskStep.1.nextId = s.nextId ∧ s.taskStep.2 = []) ∨
      ∃ w now timer client, s.task = .popped w now timer (some client) := by
  cases htask : s.task with
  | idle =>
    refine Or.inl ?_
    cases hq : s.mMsgTask with
    | nil =>
      rw [taskStep_nil htask hq]
      exact ⟨rfl, rfl, rfl, rfl, rfl⟩
    | cons msg rest =>
      cases msg with
      | push w timer =>
        rw [taskStep_push htask hq]
        exact ⟨rfl, rfl, rfl, rfl, rfl⟩
      | remove w timer =>
        rw [taskStep_remove htask hq]
        exact ⟨rfl, rfl, rfl, rfl, rfl⟩
      | expire w =>
        rw [taskStep_expire htask hq]
        exact ⟨afterPop_now _ _ _, afterPop_mTimer _ _ _, afterPop_mClient _ _ _,
          afterPop_nextId _ _ _, rfl⟩
  | popNext w now =>
    rw [taskStep_popNext htask]
    exact Or.inl ⟨afterPop_now _ _ _, afterPop_mTimer _ _ _, afterPop_mClient _ _ _,
      afterPop_nextId _ _ _, rfl⟩
  | popped w now timer client =>
    cases client with
    | none =>
      rw [taskStep_skip htask]
      exact Or.inl ⟨rfl, rfl, rfl, rfl, rfl⟩
    | some client => exact Or.inr ⟨w, now, timer, client, rfl⟩

theorem Owned.taskStep (h : s.Owned) : s.taskStep.1.Owned := by
  rcases taskStep_frame s with ⟨-, htimer, hclient, hnext, -⟩ | ⟨w, now, timer, client, ht⟩
  · exact h.frame htimer hclient hnext fun d hd => inPlay_taskStep hd
  · rw [taskStep_callback ht]
    refine (h.stop client).frame rfl rfl rfl ?_
    rintro d (hw | hw | ⟨_, _, _, ht⟩)
    · exact Or.inl hw
    · exact Or.inr (Or.inl hw)
    · cases ht

theorem pollStep_frame (s : Timers) :
    s.pollStep.now = s.now ∧ s.pollStep.mTimer = s.mTimer ∧ s.pollStep.mClient = s.mClient ∧
      s.pollStep.nextId = s.nextId ∧ s.pollStep.task = s.task ∧
      (∀ w, (s.pollStep.container w).mTree = (s.container w).mTree) ∧
      ∀ w timer, .push w timer ∈ s.pollStep.mMsgTask → .push w timer ∈ s.mMsgTask := by
  have hset : ∀ (w : Bool) (c : LocTimerContainer), c.mTree = (s.container w).mTree →
      ∀ w', ((s.setContainer w c).container w').mTree = (s.container w').mTree := by
    intro w c hc w'
    by_cases hw : w' = w
    · subst hw
      simpa [setContainer] using hc
    · simp [setContainer, update_of_ne hw]
  unfold pollStep
  split
  · exact ⟨rfl, rfl, rfl, rfl, rfl, fun _ => rfl, fun _ _ h => h⟩
  · exact ⟨rfl, rfl, rfl, rfl, rfl, hset _ _ rfl, fun _ _ h => h⟩
  · exact ⟨rfl, rfl, rfl, rfl, rfl, hset _ _ rfl, fun _ _ h => h⟩
  · rename_i w rest _
    have hsend : ∀ w' timer, .push w' timer ∈ s.mMsgTask ++ [.expire w] →
        .push w' timer ∈ s.mMsgTask := by
      intro w' timer h
      rcases mem_append.mp h with h | h
      · exact h
      · rw [mem_singleton] at h
        cases h
    cases rest with
    | nil => exact ⟨rfl, rfl, rfl, rfl, rfl, fun _ => rfl, hsend⟩
    | cons w' rest => exact ⟨rfl, rfl, rfl, rfl, rfl, fun _ => rfl, hsend⟩

theorem inPlay_pollStep (h : s.pollStep.InPlay d) : s.InPlay d := by
  obtain ⟨-, -, -, -, htask, htree, hpush⟩ := pollStep_frame s
  rcases h with ⟨w, hw⟩ | ⟨w, hw⟩ | ⟨w, now, client, ht⟩
  · refine Or.inl ⟨w, ?_⟩
    unfold LocTimerContainer.timers at hw ⊢
    rwa [htree] at hw
  · exact Or.inr (Or.inl ⟨w, hpush w d hw⟩)
  · exact Or.inr (Or.inr ⟨w, now, client, htask ▸ ht⟩)

theorem owned_step (h : s.Owned) (e : TimerEvent) : (s.step e).1.Owned := by
  cases e with
  | tick t =>
    simp only [step]
    split
    · exact h.frame rfl rfl rfl fun d hd => hd
    · exact h
  | start client ms w => exact h.start client ms w
  | stop client => exact h.stop client
  | epollWake ready =>
    simp only [step]
    split
    · cases ready with
      | nil => exact h.frame rfl rfl rfl fun d hd => hd
      | cons w ready => exact h.frame rfl rfl rfl fun d hd => hd
    · exact h
  | pollStep =>
    obtain ⟨-, htimer, hclient, hnext, -⟩ := pollStep_frame s
    exact h.frame htimer hclient hnext fun d hd => inPlay_pollStep hd
  | taskStep => exact h.taskStep

end Timers

end LocStack.Timer
