/-
# `LocStack.Timer.Expire` — when timeOutCallback runs

MsgTimerExpire pops the top of its heap first and looks at the time only
before it pops again, so a timer that came to the top after the wake-up was
sent is expired early.  And it reads the client of the timer it holds before
it stops that client, so a LocTimer stopped and started again in between is
stopped, and called back, for the new start.

`callbacksRight` excludes the two (`undisturbed`) and nothing else: then
every callback comes no earlier than its timer's `mFutureTime`, a start has
at most one, and none after a stop.  The last two hold of every run
(`endsOnce_after`).
-/
import LocStack.Timer.Steps

namespace LocStack.Timer

open Base Heap List Function Option

/-! ## A start ends once -/

/-- The output ends the start `d`: a stop or a callback. -/
def TimerOut.ends (d : LocTimerDelegate) : TimerOut → Bool
  | .started _ _ => false
  | .stopped _ d' => d' == d
  | .timeOutCallback _ d' _ => d' == d

namespace Timers

/-- What `out` ended is no LocTimer's delegate and was ended once. -/
structure EndsOnce (s : Timers) (out : List TimerOut) : Prop where
  owned : s.Owned
  once : ∀ d, out.countP (·.ends d) ≤ 1
  live : ∀ client d, s.mTimer client = some d → out.countP (·.ends d) = 0
  fresh : ∀ d, s.nextId ≤ d.id → out.countP (·.ends d) = 0

variable {s : Timers} {out : List TimerOut} {client : Nat} {d : LocTimerDelegate}

theorem endsOnce_new : new.EndsOnce [] where
  owned := owned_new
  once _ := Nat.zero_le _
  live _ _ _ := rfl
  fresh _ _ := rfl

theorem EndsOnce.frame {s' : Timers} (h : s.EndsOnce out) (howned : s'.Owned)
    (htimer : s'.mTimer = s.mTimer) (hnext : s'.nextId = s.nextId) : s'.EndsOnce out where
  owned := howned
  once := h.once
  live k d hk := h.live k d (htimer ▸ hk)
  fresh d hd := h.fresh d (hnext ▸ hd)

theorem stop_nextId (s : Timers) (client : Nat) : (s.stop client).1.nextId = s.nextId := by
  cases ht : s.mTimer client with
  | none => rw [stop_of_none ht]
  | some d => rw [stop_of_some ht, destroyLocked_eq]

theorem stop_mTimer (s : Timers) (client : Nat) :
    (s.stop client).1.mTimer = update s.mTimer client none := by
  cases ht : s.mTimer client with
  | none =>
    rw [stop_of_none ht, ← ht]
    exact (update_eq_self _ _).symm
  | some d => rw [stop_of_some ht, destroyLocked_eq]

theorem EndsOnce.stop (h : s.EndsOnce out) (client : Nat) (f : LocTimerDelegate → TimerOut)
    (hf : ∀ d d', (f d).ends d' = (d == d')) :
    (s.stop client).1.EndsOnce (out ++ (s.stop client).2.toList.map f) := by
  have howned := h.owned.stop client
  have htimer := stop_mTimer s client
  have hnext := stop_nextId s client
  cases ht : s.mTimer client with
  | none =>
    rw [stop_of_none ht]
    show s.EndsOnce (out ++ [])
    rwa [append_nil]
  | some timer =>
    have hout : (s.stop client).2.toList.map f = [f timer] := by
      rw [stop_of_some ht]
      rfl
    have hone : ∀ d, [f timer].countP (·.ends d) = if timer = d then 1 else 0 := by
      intro d
      rw [countP_singleton, hf]
      simp only [beq_iff_eq]
    rw [hout]
    constructor
    case owned => exact howned
    case once =>
      intro d
      rw [countP_append, hone]
      split
      · rename_i htd
        have hlive := h.live client d (htd ▸ ht)
        omega
      · exact h.once d
    case live =>
      intro k d hk
      rw [htimer] at hk
      have hkc : k ≠ client := by
        rintro rfl
        rw [update_self] at hk
        cases hk
      rw [update_of_ne hkc] at hk
      have hne : timer ≠ d := by
        rintro rfl
        have hk' := h.owned.client k timer hk
        rw [h.owned.client client timer ht] at hk'
        exact hkc (some.inj hk').symm
      rw [countP_append, hone, if_neg hne, h.live k d hk]
    case fresh =>
      intro d hd
      rw [hnext] at hd
      have hne : timer ≠ d := by
        rintro rfl
        exact absurd (h.owned.fresh client timer ht) (Nat.not_lt.mpr hd)
      rw [countP_append, hone, if_neg hne, h.fresh d hd]

theorem endsOnce_step (h : s.EndsOnce out) (e : TimerEvent) :
    (s.step e).1.EndsOnce (out ++ (s.step e).2) := by
  have howned := owned_step h.owned e
  cases e with
  | tick t =>
    simp only [step] at howned ⊢
    split at howned
    · rename_i hc
      rw [if_pos hc, append_nil]
      exact h.frame howned rfl rfl
    · rename_i hc
      rw [if_neg hc, append_nil]
      exact h
  | start client ms w =>
    have hnone : ∀ o ∈ (s.step (.start client ms w)).2, ∀ d, o.ends d = false := by
      intro o ho d
      obtain ⟨d', -, rfl⟩ := mem_map.mp ho
      rfl
    have hcount : ∀ d, (out ++ (s.step (.start client ms w)).2).countP (·.ends d) =
        out.countP (·.ends d) := by
      intro d
      have hzero : (s.step (.start client ms w)).2.countP (·.ends d) = 0 :=
        countP_eq_zero.mpr fun o ho => by simp [hnone o ho d]
      rw [countP_append, hzero, Nat.add_zero]
    refine ⟨howned, fun d => hcount d ▸ h.once d, fun k d hk => ?_, fun d hd => ?_⟩
    · rw [hcount]
      have hk : (s.start client ms w).1.mTimer k = some d := hk
      cases ht : s.mTimer client with
      | some d' =>
        rw [start_of_some ht] at hk
        exact h.live k d hk
      | none =>
        rw [start_of_none ht] at hk
        have hk : update s.mTimer client _ k = some d := hk
        by_cases hkc : k = client
        · subst hkc
          rw [update_self] at hk
          obtain rfl := some.inj hk
          exact h.fresh _ (Nat.le_refl _)
        · rw [update_of_ne hkc] at hk
          exact h.live k d hk
    · rw [hcount]
      have hd : (s.start client ms w).1.nextId ≤ d.id := hd
      refine h.fresh d (Nat.le_trans ?_ hd)
      cases ht : s.mTimer client with
      | some d' =>
        have hnext : (s.start client ms w).1.nextId = s.nextId := by rw [start_of_some ht]
        exact Nat.le_of_eq hnext.symm
      | none =>
        rw [start_of_none ht]
        exact Nat.le_succ _
  | stop client => exact h.stop client _ fun _ _ => rfl
  | epollWake ready =>
    simp only [step] at howned ⊢
    split at howned
    · rename_i hc
      rw [if_pos hc, append_nil]
      cases ready with
      | nil => exact h.frame howned rfl rfl
      | cons w ready => exact h.frame howned rfl rfl
    · rename_i hc
      rw [if_neg hc, append_nil]
      exact h
  | pollStep =>
    obtain ⟨-, htimer, -, hnext, -⟩ := pollStep_frame s
    show s.pollStep.EndsOnce (out ++ [])
    rw [append_nil]
    exact h.frame howned htimer hnext
  | taskStep =>
    have howned : s.taskStep.1.Owned := howned
    show s.taskStep.1.EndsOnce (out ++ s.taskStep.2)
    rcases taskStep_frame s with ⟨-, htimer, -, hnext, hout⟩ | ⟨w, now, timer, client, ht⟩
    · rw [hout, append_nil]
      exact h.frame howned htimer hnext
    · rw [taskStep_callback ht] at howned ⊢
      exact (h.stop client _ fun _ _ => rfl).frame howned rfl rfl

/-- In every run each start ends at most once, by a stop or by a callback. -/
theorem endsOnce_after (es : List TimerEvent) :
    (after step new es).EndsOnce (outs step new es) :=
  recorded_after (R := fun (s : Timers) _ out => s.EndsOnce out)
    (fun _ e _ _ h => endsOnce_step h e)
    endsOnce_new es

end Timers

/-! ## No callback comes early -/

/-- No `unsigned int` of milliseconds is longer than this many seconds. -/
def maxTimeOutSec : Int := 4294968

variable {now : Timespec}

theorem LocTimer.futureTime_spec (h : now.Normalized) (ms : UInt32) :
    (futureTime now ms).Normalized ∧
      (futureTime now ms).tv_sec ≤ now.tv_sec + maxTimeOutSec := by
  obtain ⟨hsec, hnsec, hlt⟩ := h
  have hms := UInt32.toNat_lt ms
  unfold futureTime Timespec.Normalized maxTimeOutSec
  simp only
  split
  · refine ⟨⟨?_, ?_, ?_⟩, ?_⟩ <;> dsimp only <;> omega
  · refine ⟨⟨?_, ?_, ?_⟩, ?_⟩ <;> dsimp only <;> omega

/-- What `popIfOutRanks` pops is due, for times that far apart at most: then
the difference of the seconds, if it is positive, is one as an `int`. -/
theorem LocTimerDelegate.notAfter_of_not_outRanks {d : LocTimerDelegate} {id : Nat}
    (hd : d.mFutureTime.Normalized) (hnow : now.Normalized)
    (hle : d.mFutureTime.tv_sec ≤ now.tv_sec + maxTimeOutSec) (h : outRanks ⟨id, now⟩ d = false) :
    d.mFutureTime.NotAfter now := by
  obtain ⟨hdsec, hdnsec, hdlt⟩ := hd
  obtain ⟨hsec, hnsec, hlt⟩ := hnow
  unfold maxTimeOutSec at hle
  have hranks : ranks ⟨id, now⟩ d ≤ 0 := by
    have h0 := of_decide_eq_false h
    omega
  unfold ranks toInt at hranks
  unfold Timespec.NotAfter
  simp only at hranks
  split at hranks <;> omega

namespace Timers

variable {s : Timers} {client : Nat} {d : LocTimerDelegate}

/-- The step is not one of the two that let a callback come early: an
expire message whose first timer is neither due nor stopped, and the start
of a LocTimer whose delegate MsgTimerExpire holds. -/
def undisturbed (s : Timers) : TimerEvent → Bool
  | .taskStep =>
    match s.task, s.mMsgTask with
    | .idle, .expire w :: _ =>
      match (s.container w).getSoonestTimer with
      | some top => (s.mClient top.id).isNone || decide (top.mFutureTime.NotAfter s.now)
      | none => true
    | _, _ => true
  | .start client _ _ =>
    match s.task with
    | .popped _ _ _ (some held) => held != client || (s.mTimer client).isSome
    | _ => true
  | _ => true

/-- The loop of MsgTimerExpire for `w` has read `now`. -/
def Expiring (s : Timers) (w : Bool) (now : Timespec) : Prop :=
  s.task = .popNext w now ∨ ∃ timer client, s.task = .popped w now timer client

/-- Nothing is about to be expired early. -/
structure OnTime (s : Timers) : Prop where
  owned : s.Owned
  now : s.now.Normalized
  inPlay : ∀ d, s.InPlay d →
    d.mFutureTime.Normalized ∧ d.mFutureTime.tv_sec ≤ s.now.tv_sec + maxTimeOutSec
  expiring : ∀ w now, s.Expiring w now → now.Normalized ∧ now.NotAfter s.now ∧
    ∀ d ∈ (s.container w).timers, d.mFutureTime.tv_sec ≤ now.tv_sec + maxTimeOutSec
  popped : ∀ w now d client, s.task = .popped w now d (some client) →
    d.mFutureTime.NotAfter now ∧ ∀ d', s.mTimer client = some d' → d' = d

theorem onTime_new : new.OnTime where
  owned := owned_new
  now := by decide
  inPlay d h := by
    rcases h with ⟨w, hw⟩ | ⟨w, hw⟩ | ⟨_, _, _, ht⟩
    · exact absurd hw not_mem_nil
    · exact absurd hw not_mem_nil
    · cases ht
  expiring w now h := by
    rcases h with h | ⟨_, _, h⟩
    · cases h
    · cases h
  popped _ _ _ _ h := nomatch h

variable {s' : Timers} {w : Bool} {now : Timespec}

theorem OnTime.frame (h : s.OnTime) (howned : s'.Owned) (hnow : s.now.NotAfter s'.now)
    (hnorm : s'.now.Normalized) (htask : s'.task = s.task)
    (htimers : ∀ w, (s'.container w).timers = (s.container w).timers)
    (hplay : ∀ d, s'.InPlay d → s.InPlay d ∨
      (d.mFutureTime.Normalized ∧ d.mFutureTime.tv_sec ≤ s.now.tv_sec + maxTimeOutSec))
    (htimer : ∀ w now d client d', s.task = .popped w now d (some client) →
      s'.mTimer client = some d' → s.mTimer client = some d') : s'.OnTime where
  owned := howned
  now := hnorm
  inPlay d hd := by
    have hsec := hnow.sec_le
    rcases hplay d hd with hd | hd
    · exact ⟨(h.inPlay d hd).1, Int.le_trans (h.inPlay d hd).2 (by omega)⟩
    · exact ⟨hd.1, Int.le_trans hd.2 (by omega)⟩
  expiring w now he := by
    obtain ⟨h₁, h₂, h₃⟩ := h.expiring w now (by unfold Expiring at he ⊢; rwa [htask] at he)
    exact ⟨h₁, h₂.trans hnow, htimers w ▸ h₃⟩
  popped w now d client ht := by
    rw [htask] at ht
    obtain ⟨h₁, h₂⟩ := h.popped w now d client ht
    exact ⟨h₁, fun d' hd' => h₂ d' (htimer w now d client d' ht hd')⟩

theorem Owned.held (h : s.Owned) {d d' : LocTimerDelegate} (hd : s.InPlay d)
    (hc : s.mClient d.id = some client) (hd' : s.mTimer client = some d') : d' = d := by
  obtain ⟨d'', hd'', hid⟩ := h.timer d.id client hc
  rw [hd'] at hd''
  obtain rfl := some.inj hd''
  exact h.inPlay_eq d client d' hd hd' hid

theorem OnTime.afterPop {s₀ : Timers} (h : s.OnTime)
    {r : LocTimerContainer × Option LocTimerDelegate} (hclient : s₀.mClient = s.mClient)
    (htimer : s₀.mTimer = s.mTimer) (hs₀ : s₀.now = s.now) (howned : (s₀.afterPop w now r).Owned)
    (hplay : ∀ d, (s₀.afterPop w now r).InPlay d → s.InPlay d) (hnorm : now.Normalized)
    (hnow : now.NotAfter s.now)
    (hsub : ∀ d ∈ r.1.timers, d.mFutureTime.tv_sec ≤ now.tv_sec + maxTimeOutSec)
    (hpop : ∀ d, r.2 = some d → s.InPlay d ∧
      (s.mClient d.id ≠ none → d.mFutureTime.NotAfter now)) : (s₀.afterPop w now r).OnTime := by
  refine ⟨howned, ?_, fun d hd => ?_, fun w' now' he => ?_, fun w' now' d client ht => ?_⟩
  · rw [afterPop_now, hs₀]
    exact h.now
  · rw [afterPop_now, hs₀]
    exact h.inPlay d (hplay d hd)
  · rw [afterPop_now, hs₀]
    cases hr : r.2 with
    | none =>
      rw [afterPop_none hr] at he
      rcases he with he | ⟨_, _, he⟩
      · cases he
      · cases he
    | some timer =>
      rw [afterPop_some hr] at he ⊢
      rcases he with he | ⟨_, _, he⟩
      · cases he
      · injection he with hw hn _ _
        subst hw hn
        refine ⟨hnorm, hnow, ?_⟩
        show ∀ d ∈ ((s₀.setContainer w r.1).container w).timers, _
        rw [setContainer_self]
        exact hsub
  · cases hr : r.2 with
    | none =>
      rw [afterPop_none hr] at ht
      cases ht
    | some timer =>
      rw [afterPop_mTimer, htimer]
      rw [afterPop_some hr] at ht
      injection ht with _ hn hd hc
      subst hn hd
      rw [hclient] at hc
      obtain ⟨hin, hdue⟩ := hpop timer hr
      exact ⟨hdue (hc ▸ some_ne_none client), fun d' hd' => h.owned.held hin hc hd'⟩

section

variable (h : s.OnTime) (howned : s'.Owned) (hnow : s'.now = s.now)
  (hplay : ∀ d, s'.InPlay d → s.InPlay d)
include h howned hnow hplay

theorem OnTime.idle (htask : s'.task = .idle) : s'.OnTime where
  owned := howned
  now := hnow ▸ h.now
  inPlay d hd := hnow ▸ h.inPlay d (hplay d hd)
  expiring w now he := by
    rcases he with he | ⟨_, _, he⟩
    · rw [htask] at he
      cases he
    · rw [htask] at he
      cases he
  popped w now d client ht := by
    rw [htask] at ht
    cases ht

theorem OnTime.popNext (hexp : s.Expiring w now) (htask : s'.task = .popNext w now)
    (hcont : s'.container = s.container) : s'.OnTime where
  owned := howned
  now := hnow ▸ h.now
  inPlay d hd := hnow ▸ h.inPlay d (hplay d hd)
  expiring w' now' he := by
    have hsame : w' = w ∧ now' = now := by
      rcases he with he | ⟨_, _, he⟩
      · rw [htask] at he
        injection he with hw hn
        exact ⟨hw.symm, hn.symm⟩
      · rw [htask] at he
        cases he
    obtain ⟨rfl, rfl⟩ := hsame
    rw [hnow, hcont]
    exact h.expiring w' now' hexp
  popped w' now' d client ht := by
    rw [htask] at ht
    cases ht

end

theorem stop_frame (s : Timers) (client : Nat) :
    (s.stop client).1.now = s.now ∧ (s.stop client).1.container = s.container ∧
      (s.stop client).1.task = s.task := by
  cases ht : s.mTimer client with
  | none =>
    rw [stop_of_none ht]
    exact ⟨rfl, rfl, rfl⟩
  | some d =>
    rw [stop_of_some ht, destroyLocked_eq]
    exact ⟨rfl, rfl, rfl⟩

theorem OnTime.taskStep (h : s.OnTime) (hok : s.undisturbed .taskStep = true) :
    s.taskStep.1.OnTime := by
  have howned := h.owned.taskStep
  have hplay : ∀ d, s.taskStep.1.InPlay d → s.InPlay d := fun d hd => inPlay_taskStep hd
  cases htask : s.task with
  | idle =>
    cases hq : s.mMsgTask with
    | nil =>
      rw [taskStep_nil htask hq]
      exact h
    | cons msg rest =>
      cases msg with
      | push w timer =>
        rw [taskStep_push htask hq] at howned hplay ⊢
        exact h.idle howned rfl hplay htask
      | remove w timer =>
        rw [taskStep_remove htask hq] at howned hplay ⊢
        exact h.idle howned rfl hplay htask
      | expire w =>
        rw [taskStep_expire htask hq] at howned hplay ⊢
        refine h.afterPop rfl rfl rfl howned hplay h.now (.refl _) (fun d hd => ?_) fun d hd => ?_
        · exact (h.inPlay d (Or.inl ⟨w, LocTimerContainer.mem_of_pop _ hd⟩)).2
        · -- the first pop does not look at the time: the step is undisturbed
          rw [LocTimerContainer.pop_snd] at hd
          refine ⟨Or.inl ⟨w, LocTimerContainer.getSoonestTimer_mem _ hd⟩, fun hc => ?_⟩
          simp only [undisturbed, htask, hq, hd] at hok
          rcases Bool.or_eq_true _ _ ▸ hok with hok | hok
          · exact absurd (isNone_iff_eq_none.mp hok) hc
          · exact of_decide_eq_true hok
  | popNext w now =>
    obtain ⟨hnorm, hnow, hrange⟩ := h.expiring w now (Or.inl htask)
    rw [taskStep_popNext htask] at howned hplay ⊢
    refine h.afterPop rfl rfl rfl howned hplay hnorm hnow (fun d hd => ?_) fun d hd => ?_
    · rcases (s.container w).popIfOutRanks_cases ⟨s.nextId, now⟩ with ⟨heq, -⟩ | ⟨_, _, _, heq⟩
      · rw [heq] at hd
        exact hrange d hd
      · rw [heq] at hd
        exact hrange d (LocTimerContainer.mem_of_pop _ hd)
    · rcases (s.container w).popIfOutRanks_cases ⟨s.nextId, now⟩ with
        ⟨heq, -⟩ | ⟨top, htop, hr, heq⟩
      · rw [heq] at hd
        cases hd
      · rw [heq, LocTimerContainer.pop_snd, htop] at hd
        obtain rfl := some.inj hd
        have hmem := LocTimerContainer.getSoonestTimer_mem _ htop
        have hin : s.InPlay top := Or.inl ⟨w, hmem⟩
        exact ⟨hin, fun _ => LocTimerDelegate.notAfter_of_not_outRanks (h.inPlay top hin).1
          hnorm (hrange top hmem) hr⟩
  | popped w now timer client =>
    have hexp : s.Expiring w now := Or.inr ⟨timer, client, htask⟩
    cases client with
    | none =>
      rw [taskStep_skip htask] at howned hplay ⊢
      exact h.popNext howned rfl hplay hexp rfl rfl
    | some client =>
      rw [taskStep_callback htask] at howned hplay ⊢
      obtain ⟨hnow, hcont, -⟩ := stop_frame s client
      exact h.popNext howned hnow hplay hexp rfl hcont

theorem OnTime.step (h : s.OnTime) (e : TimerEvent) (hok : s.undisturbed e = true) :
    (s.step e).1.OnTime := by
  have howned := owned_step h.owned e
  cases e with
  | tick t =>
    simp only [Timers.step] at howned ⊢
    split at howned
    · rename_i hc
      rw [if_pos hc]
      exact h.frame howned hc.1 hc.2 rfl (fun _ => rfl) (fun d hd => Or.inl hd)
        fun _ _ _ _ _ _ hd' => hd'
    · rename_i hc
      rw [if_neg hc]
      exact h
  | start client ms w =>
    have howned : (s.start client ms w).1.Owned := howned
    show (s.start client ms w).1.OnTime
    cases ht : s.mTimer client with
    | some d =>
      rw [start_of_some ht]
      exact h
    | none =>
      have hplay : ∀ d, (s.start client ms w).1.InPlay d → s.InPlay d ∨ d = _ :=
        fun d hd => inPlay_start ht hd
      rw [start_of_none ht] at howned hplay ⊢
      refine h.frame howned (.refl _) h.now rfl (fun _ => rfl) (fun d hd => ?_)
        fun w' now' d k d' htask hd' => ?_
      · rcases hplay d hd with hd | rfl
        · exact Or.inl hd
        · exact Or.inr (LocTimer.futureTime_spec h.now ms)
      · -- the LocTimer whose delegate is held is not the one started
        have hne : k ≠ client := by
          rintro rfl
          simp [undisturbed, htask, ht] at hok
        exact (update_of_ne hne _ _).symm.trans hd'
  | stop client =>
    have howned : (s.stop client).1.Owned := howned
    show (s.stop client).1.OnTime
    obtain ⟨hnow, hcont, htask⟩ := stop_frame s client
    refine h.frame howned (hnow ▸ .refl _) (hnow ▸ h.now) htask (fun w => by rw [hcont])
      (fun d hd => Or.inl (inPlay_stop hd)) fun w now d k d' _ hd' => ?_
    rw [stop_mTimer] at hd'
    by_cases hk : k = client
    · subst hk
      rw [update_self] at hd'
      cases hd'
    · rwa [update_of_ne hk] at hd'
  | epollWake ready =>
    simp only [Timers.step] at howned ⊢
    split at howned
    · rename_i hc
      rw [if_pos hc]
      cases ready with
      | nil =>
        exact h.frame howned (.refl _) h.now rfl (fun _ => rfl) (fun d hd => Or.inl hd)
          fun _ _ _ _ _ _ hd' => hd'
      | cons w ready =>
        exact h.frame howned (.refl _) h.now rfl (fun _ => rfl) (fun d hd => Or.inl hd)
          fun _ _ _ _ _ _ hd' => hd'
    · rename_i hc
      rw [if_neg hc]
      exact h
  | pollStep =>
    obtain ⟨hnow, htimer, -, -, htask, htree, -⟩ := pollStep_frame s
    have htimers : ∀ w, (s.pollStep.container w).timers = (s.container w).timers :=
      fun w => congrArg LocHeapNode.data (htree w)
    exact h.frame howned (hnow ▸ .refl _) (hnow ▸ h.now) htask htimers
      (fun d hd => Or.inl (inPlay_pollStep hd))
      fun _ _ _ _ _ _ hd' => htimer ▸ hd'
  | taskStep => exact h.taskStep hok

/-- The callback, if the output is one, comes when its timer is due. -/
def Due : TimerOut → Prop
  | .timeOutCallback _ d now => d.mFutureTime.NotAfter now
  | _ => True

theorem OnTime.due (h : s.OnTime) (e : TimerEvent) : ∀ o ∈ (s.step e).2, Due o := by
  cases e with
  | tick t =>
    simp only [Timers.step]
    split <;> exact fun o ho => absurd ho not_mem_nil
  | start client ms w =>
    intro o ho
    obtain ⟨d, -, rfl⟩ := mem_map.mp ho
    trivial
  | stop client =>
    intro o ho
    obtain ⟨d, -, rfl⟩ := mem_map.mp ho
    trivial
  | epollWake ready =>
    simp only [Timers.step]
    split <;> exact fun o ho => absurd ho not_mem_nil
  | pollStep => exact fun o ho => absurd ho not_mem_nil
  | taskStep =>
    show ∀ o ∈ s.taskStep.2, Due o
    rcases taskStep_frame s with ⟨-, -, -, -, hout⟩ | ⟨w, now, timer, client, ht⟩
    · rw [hout]
      exact fun o ho => absurd ho not_mem_nil
    · rw [taskStep_callback ht]
      intro o ho
      obtain ⟨d, hd, rfl⟩ := mem_map.mp ho
      have hstopped : s.mTimer client = some d := by
        cases hm : s.mTimer client with
        | none =>
          rw [stop_of_none hm] at hd
          exact absurd hd not_mem_nil
        | some d' =>
          rw [stop_of_some hm] at hd
          rw [mem_singleton.mp hd]
      obtain ⟨hdue, hheld⟩ := h.popped w now timer client ht
      rw [hheld d hstopped]
      exact hdue

end Timers

/-! ## Whole runs -/

/-- The callback of the start `d`. -/
def TimerOut.isCallback (d : LocTimerDelegate) : TimerOut → Bool
  | .timeOutCallback _ d' _ => d' == d
  | _ => false

/-- A callback comes no earlier than its timer's `mFutureTime`, by the boot
time read for the expire message; a start has at most one, and none once a
client has stopped it. -/
def CallbacksRight (out : List TimerOut) : Prop :=
  (∀ client d now, .timeOutCallback client d now ∈ out → d.mFutureTime.NotAfter now) ∧
    (∀ d, out.countP (·.isCallback d) ≤ 1) ∧
    ∀ pre post client d now, out = pre ++ .timeOutCallback client d now :: post →
      ∀ client', .stopped client' d ∉ pre

namespace Timers

/-- In every run whose steps are undisturbed all callbacks are right. -/
theorem callbacksRight (es : List TimerEvent)
    (h : StepsMeet step (fun s e => s.undisturbed e = true) new es) :
    CallbacksRight (outs step new es) := by
  have hends := endsOnce_after es
  refine ⟨fun client d now hmem => ?_, fun d => ?_, fun pre post client d now heq client' hs => ?_⟩
  · have hdue := forall_outs_of_stepsMeet (P := OnTime) (Q := Due) (fun _ e hs hok => hs.step e hok)
      (fun _ e hs _ => hs.due e) onTime_new h
    exact hdue _ hmem
  · refine Nat.le_trans (countP_mono_left fun o _ ho => ?_) (hends.once d)
    cases o with
    | started => cases ho
    | stopped => cases ho
    | timeOutCallback => exact ho
  · -- the stop and the callback would end the start twice
    have honce := hends.once d
    obtain ⟨a, b, rfl⟩ := append_of_mem hs
    rw [heq] at honce
    simp [countP_append, TimerOut.ends] at honce
    omega

/-- A timer of half a second runs out. -/
theorem callbacksRight_one : CallbacksRight (outs step new
      [.start 1 500 false, .taskStep, .tick ⟨1, 0⟩, .epollWake [false], .pollStep, .pollStep,
        .pollStep, .taskStep, .taskStep, .taskStep, .taskStep]) :=
  callbacksRight _ (by decide)

/-- The first of two timers is stopped between the wake-up and the expire
message: the second is expired nine seconds early. -/
theorem not_callbacksRight_of_stop :
    ¬ ∀ es : List TimerEvent, CallbacksRight (outs step new es) := by
  intro hall
  have h := (hall [.start 1 100 false, .start 2 10000 false, .taskStep, .taskStep, .tick ⟨1, 0⟩,
      .epollWake [false], .pollStep, .pollStep, .stop 1, .pollStep, .taskStep, .taskStep,
      .taskStep]).1 2 ⟨1, ⟨10, 0⟩⟩ ⟨1, 0⟩ (by decide)
  exact absurd h (by decide)

end Timers

end LocStack.Timer
