/-
# `LocStack.Agps.Closing` — what a released subscriber is still sent

A subscriber that `releaseATL` has released stays in the list, inactive,
until the connection is gone.  From its release to its removal it should be
sent one close status and no open status (`ClosedOnce`).  Three steps break
this, and no other does (`Hurts`):

    DENIED while pending       the refusal goes to all subscribers, the
                               inactive ones among them, and removes them;
                               they are sent an open status and no close
    requestATL while acquired  of a handle that is inactive: its handle is
                               sent an open status and stays inactive
    modem restart              removes the inactive without a word

`closedOnce_iff` says so for whole runs.
-/
import LocStack.Agps.Steps

namespace LocStack.Agps

open Base List

namespace AgpsOut

/-- An open status for this handle. -/
def opensHandle (h : Int) : AgpsOut → Bool
  | .atlOpenStatus handle _ _ _ _ _ _ => handle == h
  | _ => false

/-- A close status for this handle. -/
def closesHandle (h : Int) : AgpsOut → Bool
  | .atlCloseStatus handle _ => handle == h
  | _ => false

end AgpsOut

/-- How many open statuses `h` is sent. -/
def opens (h : Int) (out : List AgpsOut) : Nat := out.countP (·.opensHandle h)

/-- How many close statuses `h` is sent. -/
def closes (h : Int) (out : List AgpsOut) : Nat := out.countP (·.closesHandle h)

@[simp] theorem opens_nil (h : Int) : opens h [] = 0 := rfl

@[simp] theorem closes_nil (h : Int) : closes h [] = 0 := rfl

@[simp] theorem opens_append (h : Int) (out out' : List AgpsOut) :
    opens h (out ++ out') = opens h out + opens h out' := countP_append

@[simp] theorem closes_append (h : Int) (out out' : List AgpsOut) :
    closes h (out ++ out') = closes h out + closes h out' := countP_append

namespace AgpsStateMachine

theorem statuses_released (sm : AgpsStateMachine) (l : List AgpsSubscriber) (h : Int) :
    opens h (l.flatMap (sm.statusFor .released)) = 0 ∧
      closes h (l.flatMap (sm.statusFor .released)) = (l.map (·.mConnHandle)).count h := by
  induction l with
  | nil => exact ⟨rfl, rfl⟩
  | cons s rest ih =>
    rw [flatMap_cons, opens_append, closes_append, ih.1, ih.2, map_cons, count_cons]
    refine ⟨rfl, ?_⟩
    simp [closes, statusFor, countP_cons, AgpsOut.closesHandle, Nat.add_comm]

theorem statuses_verdict (sm : AgpsStateMachine) (l : List AgpsSubscriber) (h : Int)
    {e : AgpsEvent} (he : e = .granted ∨ e = .denied) :
    opens h (l.flatMap (sm.statusFor e)) = (l.map (·.mConnHandle)).count h ∧
      closes h (l.flatMap (sm.statusFor e)) = 0 := by
  induction l with
  | nil => exact ⟨rfl, rfl⟩
  | cons s rest ih =>
    rw [flatMap_cons, opens_append, closes_append, ih.1, ih.2, map_cons, count_cons]
    rcases he with rfl | rfl
    · exact ⟨by simp [opens, statusFor, countP_cons, AgpsOut.opensHandle, Nat.add_comm], rfl⟩
    · exact ⟨by simp [opens, statusFor, countP_cons, AgpsOut.opensHandle, Nat.add_comm], rfl⟩

/-! ## One step -/

/-- A step after which some released subscriber has been treated wrongly. -/
def Hurts (sm : AgpsStateMachine) (e : SmEvent) : Prop :=
  (e = .denied ∧ sm.mState = .pending ∧ ∃ h, sm.IsInactive h) ∨
    (∃ h t mask, e = .subscribe h t mask ∧ sm.mState = .acquired ∧ sm.IsInactive h) ∨
    (e = .modemSSR ∧ ∃ h, sm.IsInactive h)

/-- The statuses `h` is sent while `mid` is processed are no open and, once
it has left the list, one close. -/
def SentOnce (sm : AgpsStateMachine) (mid : List SmEvent) (h : Int) : Prop :=
  opens h (outs step sm mid) = 0 ∧
    closes h (outs step sm mid) = if h ∈ (after step sm mid).handles then 0 else 1

variable {sm : AgpsStateMachine} {e : SmEvent} {h : Int} {mid : List SmEvent}

theorem sentOnce_single : sm.SentOnce [e] h ↔ opens h (sm.step e).2 = 0 ∧
        closes h (sm.step e).2 = if h ∈ (sm.step e).1.handles then 0 else 1 := by
  unfold SentOnce
  rw [outs_cons, outs_nil, append_nil, after_cons, after_nil]

theorem isInactive_mem (hin : sm.IsInactive h) : h ∈ sm.handles :=
  mem_handles_iff.mpr (Or.inr hin)

theorem finishReleasing_closes (hwf : sm.WellFormed) (hin : sm.IsInactive h) :
    opens h sm.finishReleasing.2 = 0 ∧ closes h sm.finishReleasing.2 = 1 ∧
      h ∉ sm.finishReleasing.1.handles := by
  have hcmd :
      opens h (if sm.anyActiveSubscribers then sm.requestOrReleaseDataConn true else []) = 0 ∧
      closes h (if sm.anyActiveSubscribers then sm.requestOrReleaseDataConn true else []) = 0 := by
    split <;> exact ⟨rfl, rfl⟩
  rw [finishReleasing_eq, opens_append, closes_append, hcmd.1, hcmd.2, (statuses_released _ _ h).1,
    (statuses_released _ _ h).2]
  obtain ⟨s, hs, rfl, hi⟩ := hin
  refine ⟨rfl, ?_, ?_⟩
  · have hnd : ((sm.mSubscriberList.filter fun s => s.mIsInactive).map (·.mConnHandle)).Nodup :=
      hwf.handles_nodup.sublist (filter_sublist.map _)
    exact count_eq_one_of_mem hnd
      (mem_map_of_mem (f := (·.mConnHandle)) (mem_filter.mpr ⟨hs, hi⟩))
  · intro hmem
    obtain ⟨t, ht, hth⟩ := mem_map.mp hmem
    obtain ⟨ht, hti⟩ := mem_filter.mp ht
    have : t = s := inj_on_of_nodup_map hwf.handles_nodup ht hs hth
    rw [this, hi] at hti
    cases hti

/-- A step that hurts nobody sends a released subscriber nothing while it
keeps it, and one close when it lets it go. -/
theorem sentOnce_step (hwf : sm.WellFormed) (hin : sm.IsInactive h) (he : ¬ sm.Hurts e) :
    sm.SentOnce [e] h ∧ (h ∈ (sm.step e).1.handles → (sm.step e).1.IsInactive h) := by
  rw [sentOnce_single]
  have hh := isInactive_mem hin
  have hne : sm.mState ≠ .released := by
    intro hst
    obtain ⟨s, hs, -⟩ := hin
    rw [hwf.released_empty hst] at hs
    exact absurd hs not_mem_nil
  -- the shape of every step that keeps the subscriber and says nothing to it
  have hkeep : ∀ r : AgpsStateMachine × List AgpsOut, r.1.IsInactive h → opens h r.2 = 0 →
      closes h r.2 = 0 → (opens h r.2 = 0 ∧ closes h r.2 = if h ∈ r.1.handles then 0 else 1) ∧
        (h ∈ r.1.handles → r.1.IsInactive h) := by
    intro r hr ho hc
    exact ⟨⟨ho, by rw [if_pos (isInactive_mem hr), hc]⟩, fun _ => hr⟩
  have hfin := finishReleasing_closes hwf hin
  cases e with
  | subscribe h' t mask =>
    rw [step_subscribe]
    have hin' : ({ sm.withRequest t mask with
        mSubscriberList := sm.listWith h' mask
        mState := if sm.mState = .released then .pending else sm.mState } :
        AgpsStateMachine).IsInactive h := by
      obtain ⟨s, hs, hsh, hi⟩ := hin
      exact ⟨s, mem_listWith.mpr (Or.inl hs), hsh, hi⟩
    cases hst : sm.mState with
    | released => exact absurd hst hne
    | pending | releasing => exact hkeep _ (by simpa [hst] using hin') rfl rfl
    | acquired =>
      have hne' : h' ≠ h := by
        rintro rfl
        exact he (Or.inr (Or.inl ⟨h', t, mask, rfl, hst, hin⟩))
      refine hkeep _ (by simpa [hst] using hin') ?_ rfl
      simp [opens, statusFor, newSubscriber, AgpsOut.opensHandle, hne']
  | unsubscribe h' =>
    rw [step_unsubscribe hwf]
    by_cases hh' : h' ∈ sm.handles
    · have hin' : ({ sm with mSubscriberList := markInactive h' sm.mSubscriberList } :
          AgpsStateMachine).IsInactive h := by
        obtain ⟨s, hs, hsh, hi⟩ := hin
        by_cases hs' : s.mConnHandle = h'
        · exact ⟨{ s with mIsInactive := true },
            (mem_markInactive hwf.handles_nodup).mpr (Or.inr ⟨s, hs, hs', rfl⟩), hsh, rfl⟩
        · exact ⟨s, (mem_markInactive hwf.handles_nodup).mpr (Or.inl ⟨hs, hs'⟩), hsh, hi⟩
      simp only [if_pos hh']
      split
      · exact hkeep _ hin' rfl rfl
      · exact hkeep _ hin' rfl rfl
    · simp only [if_neg hh']
      exact hkeep (sm, []) hin rfl rfl
  | granted apn apnLen bearerType =>
    rw [step_granted]
    have hin' : (sm.withConnection apn apnLen bearerType).IsInactive h := by
      unfold IsInactive
      rw [withConnection_mSubscriberList]
      exact hin
    split
    · refine hkeep _ hin' ?_ (statuses_verdict _ _ h (Or.inl rfl)).2
      rw [(statuses_verdict _ _ h (Or.inl rfl)).1, count_eq_zero]
      intro hmem
      obtain ⟨t, ht, hth⟩ := mem_map.mp hmem
      obtain ⟨ht, hti⟩ := mem_filter.mp ht
      obtain ⟨s, hs, hsh, hi⟩ := hin
      have : t = s := inj_on_of_nodup_map hwf.handles_nodup ht hs (hth.trans hsh.symm)
      rw [this, hi] at hti
      cases hti
    · exact hkeep _ hin' rfl rfl
  | released =>
    rw [step_released]
    cases hst : sm.mState with
    | released => exact absurd hst hne
    | pending => exact hkeep (sm, []) hin rfl rfl
    | releasing =>
      exact ⟨⟨hfin.1, by rw [if_neg hfin.2.2, hfin.2.1]⟩, fun hmem => absurd hmem hfin.2.2⟩
    | acquired =>
      refine ⟨⟨(statuses_released _ _ h).1, ?_⟩, ?_⟩
      · rw [(statuses_released _ _ h).2, if_neg (by simp [handles])]
        exact count_eq_one_of_mem hwf.handles_nodup hh
      · intro hmem
        cases hmem
  | denied =>
    rw [step_denied]
    cases hst : sm.mState with
    | released => exact absurd hst hne
    | acquired => exact hkeep (sm, []) hin rfl rfl
    | releasing =>
      exact ⟨⟨hfin.1, by rw [if_neg hfin.2.2, hfin.2.1]⟩, fun hmem => absurd hmem hfin.2.2⟩
    | pending => exact absurd (Or.inl ⟨rfl, hst, h, hin⟩) he
  | modemSSR => exact absurd (Or.inr (Or.inr ⟨rfl, h, hin⟩)) he

theorem not_sentOnce_of_hurts (hwf : sm.WellFormed) (he : sm.Hurts e) :
    ∃ h, sm.IsInactive h ∧ ¬ sm.SentOnce [e] h := by
  rcases he with ⟨rfl, hst, h, hin⟩ | ⟨h, t, mask, rfl, hst, hin⟩ | ⟨rfl, h, hin⟩
  · refine ⟨h, hin, fun hs => ?_⟩
    have hopen := (sentOnce_single.mp hs).1
    have hone : (sm.mSubscriberList.map (·.mConnHandle)).count h = 1 :=
      count_eq_one_of_mem hwf.handles_nodup (isInactive_mem hin)
    rw [step_denied, hst, (statuses_verdict _ _ h (Or.inr rfl)).1, hone] at hopen
    cases hopen
  · refine ⟨h, hin, fun hs => ?_⟩
    have hopen := (sentOnce_single.mp hs).1
    rw [step_subscribe, hst] at hopen
    simp [opens, statusFor, newSubscriber, AgpsOut.opensHandle] at hopen
  · refine ⟨h, hin, fun hs => ?_⟩
    have hclose := (sentOnce_single.mp hs).2
    simp [step_modemSSR, handles] at hclose

/-! ## Whole runs -/

/-- `h` is in the list before each event of `mid`. -/
def StaysUntilLast (sm : AgpsStateMachine) (h : Int) (mid : List SmEvent) : Prop :=
  ∀ p, p <+: mid → p ≠ mid → h ∈ (after step sm p).handles

/-- In every stretch of the run that begins with the release of `h`, or
after it, and goes on at most to its removal, `h` is sent no open status,
and one close status if the stretch removes it. -/
def ClosedOnce (sm : AgpsStateMachine) (es : List SmEvent) : Prop :=
  ∀ pre mid post h, es = pre ++ mid ++ post → ((after step sm pre).IsInactive h ∨
      (h ∈ (after step sm pre).handles ∧ ∃ mid', mid = .unsubscribe h :: mid')) →
    (after step sm pre).StaysUntilLast h mid → (after step sm pre).SentOnce mid h

theorem StaysUntilLast.tail (hs : sm.StaysUntilLast h (e :: mid)) :
    (sm.step e).1.StaysUntilLast h mid := by
  intro p hp hne
  exact hs (e :: p) (cons_prefix_cons.mpr ⟨rfl, hp⟩) (fun heq => hne (List.cons.inj heq).2)

theorem sentOnce_run (hwf : sm.WellFormed) (hin : sm.IsInactive h) (hstay : sm.StaysUntilLast h mid)
    (hok : StepsMeet step (fun sm e => ¬ sm.Hurts e) sm mid) : sm.SentOnce mid h := by
  induction mid generalizing sm with
  | nil => exact ⟨rfl, by simp [isInactive_mem hin]⟩
  | cons e mid ih =>
    obtain ⟨hone, hnext⟩ := sentOnce_step hwf hin hok.1
    rw [sentOnce_single] at hone
    cases mid with
    | nil => exact sentOnce_single.mpr hone
    | cons e' mid =>
      have hmem : h ∈ (sm.step e).1.handles :=
        hstay [e] ⟨e' :: mid, rfl⟩ (by simp)
      obtain ⟨ho, hc⟩ := ih (wellFormed_step hwf e) (hnext hmem) hstay.tail hok.2
      rw [if_pos hmem] at hone
      refine ⟨?_, ?_⟩
      · rw [outs_cons, opens_append, hone.1, ho]
      · rw [outs_cons, closes_append, hone.2, hc, Nat.zero_add]
        rfl

theorem step_unsubscribe_marks (hwf : sm.WellFormed) (hh : h ∈ sm.handles) :
    (sm.step (.unsubscribe h)).1.IsInactive h ∧ opens h (sm.step (.unsubscribe h)).2 = 0 ∧
      closes h (sm.step (.unsubscribe h)).2 = 0 := by
  have hin : ({ sm with mSubscriberList := markInactive h sm.mSubscriberList } :
      AgpsStateMachine).IsInactive h := by
    obtain ⟨s, hs, rfl⟩ := mem_handles.mp hh
    exact ⟨{ s with mIsInactive := true },
      (mem_markInactive hwf.handles_nodup).mpr (Or.inr ⟨s, hs, rfl, rfl⟩), rfl, rfl⟩
  rw [step_unsubscribe hwf, if_pos hh]
  simp only
  split
  · exact ⟨hin, rfl, rfl⟩
  · exact ⟨hin, rfl, rfl⟩

/-- In a run of a machine every released subscriber is closed once and never
opened exactly if no step of the run hurts. -/
theorem closedOnce_iff (agpsType : AGpsExtType) (es : List SmEvent) : (new agpsType).ClosedOnce es ↔
      StepsMeet step (fun sm e => ¬ sm.Hurts e) (new agpsType) es := by
  constructor
  · intro h
    rw [stepsMeet_iff]
    intro pre e post heq hhurts
    obtain ⟨h', hin, hnot⟩ := not_sentOnce_of_hurts (wellFormed_after agpsType pre) hhurts
    refine hnot (h pre [e] post h' (by simp [heq]) (Or.inl hin) fun p hp hne => ?_)
    rcases prefix_cons_iff.mp hp with rfl | ⟨t, rfl, ht⟩
    · exact isInactive_mem hin
    · rw [prefix_nil.mp ht] at hne
      exact absurd rfl hne
  · intro hok pre mid post h heq hrel hstay
    have hwf := wellFormed_after agpsType pre
    have hmid : StepsMeet step (fun sm e => ¬ sm.Hurts e) (after step (new agpsType) pre) mid := by
      rw [stepsMeet_iff] at hok ⊢
      intro p e q hpq
      rw [← after_append]
      exact hok (pre ++ p) e (q ++ post) (by simp [heq, hpq])
    rcases hrel with hin | ⟨hh, mid', rfl⟩
    · exact sentOnce_run hwf hin hstay hmid
    · obtain ⟨hin, ho, hc⟩ := step_unsubscribe_marks hwf hh
      obtain ⟨ho', hc'⟩ := sentOnce_run (wellFormed_step hwf _) hin hstay.tail hmid.2
      refine ⟨?_, ?_⟩
      · rw [outs_cons, opens_append, ho, ho']
      · rw [outs_cons, closes_append, hc, hc', Nat.zero_add]
        rfl

/-- The framework refuses a connection one of whose two subscribers has been
released: the released one is told that its connection failed. -/
theorem not_closedOnce_of_denied :
    ¬ ∀ (agpsType : AGpsExtType) (es : List SmEvent), (new agpsType).ClosedOnce es := by
  intro hall
  have h := hall LOC_AGPS_TYPE_SUPL [.subscribe 1 LOC_AGPS_TYPE_SUPL LOC_APN_TYPE_MASK_SUPL,
      .subscribe 2 LOC_AGPS_TYPE_SUPL LOC_APN_TYPE_MASK_SUPL, .unsubscribe 1, .denied]
    [.subscribe 1 LOC_AGPS_TYPE_SUPL LOC_APN_TYPE_MASK_SUPL,
      .subscribe 2 LOC_AGPS_TYPE_SUPL LOC_APN_TYPE_MASK_SUPL]
    [.unsubscribe 1, .denied] [] 1 rfl (Or.inr ⟨by decide, [.denied], rfl⟩) ?_
  · exact absurd h.1 (by decide)
  · intro p hp hne
    rcases prefix_cons_iff.mp hp with rfl | ⟨t, rfl, ht⟩
    · decide
    · rcases prefix_cons_iff.mp ht with rfl | ⟨t', rfl, ht'⟩
      · decide
      · rw [prefix_nil.mp ht'] at hne
        exact absurd rfl hne

end AgpsStateMachine

end LocStack.Agps
