/-
# `LocStack.Agps.Invariant` — the state of an AGPS machine and its subscribers

Each state of the machine says something about its subscriber list
(`SubscriberInvariant`):

    RELEASED            nobody is subscribed
    PENDING, ACQUIRED   somebody active is
    RELEASING           somebody is, and each is inactive or waits

Every event handler keeps this: a handler that takes the last active
subscriber away moves the state with it.  `dropAllSubscribers` empties the
list and leaves the state, so a modem restart keeps the invariant in the
released state and breaks it in every other.  That is the whole story:
`statesMeet_subscriberInvariant_iff` says a run keeps the invariant exactly
if each of its restarts finds the machine released.
-/
import LocStack.Agps.Steps

namespace LocStack.Agps

open Base

namespace AgpsStateMachine

/-- What each state of the machine says about the subscribers. -/
structure SubscriberInvariant (sm : AgpsStateMachine) : Prop where
  released_empty : sm.mState = .released → sm.mSubscriberList = []
  pending_active : sm.mState = .pending → ∃ s ∈ sm.mSubscriberList, s.mIsInactive = false
  acquired_active : sm.mState = .acquired → ∃ s ∈ sm.mSubscriberList, s.mIsInactive = false
  releasing_nonempty : sm.mState = .releasing → sm.mSubscriberList ≠ []
  releasing_waits : sm.mState = .releasing →
    ∀ s ∈ sm.mSubscriberList, s.mIsInactive = true ∨ s.mWaitForCloseComplete = true
  handles_distinct : (sm.mSubscriberList.map (·.mConnHandle)).Nodup

variable {sm : AgpsStateMachine}

theorem subscriberInvariant_iff (hwf : sm.WellFormed) : sm.SubscriberInvariant ↔
      (sm.mState = .pending → ∃ s ∈ sm.mSubscriberList, s.mIsInactive = false) ∧
        (sm.mState = .acquired → ∃ s ∈ sm.mSubscriberList, s.mIsInactive = false) ∧
        (sm.mState = .releasing → sm.mSubscriberList ≠ []) := by
  constructor
  · intro h
    exact ⟨h.pending_active, h.acquired_active, h.releasing_nonempty⟩
  · rintro ⟨hp, ha, hr⟩
    exact ⟨hwf.released_empty, hp, ha, hr, fun _ s hs => Or.inr (hwf.waits s hs), hwf.handles_nodup⟩

theorem exists_active_listWith {h : Int} {mask : LocApnTypeMask}
    (hact : ∃ s ∈ sm.mSubscriberList, s.mIsInactive = false) :
    ∃ s ∈ sm.listWith h mask, s.mIsInactive = false := by
  obtain ⟨s, hs, hi⟩ := hact
  exact ⟨s, mem_listWith.mpr (Or.inl hs), hi⟩

theorem subscriberInvariant_finishReleasing (hwf : sm.WellFormed) :
    sm.finishReleasing.1.SubscriberInvariant := by
  rw [subscriberInvariant_iff (wellFormed_finishReleasing hwf), finishReleasing_eq]
  refine ⟨fun hst => ?_, fun hst => ?_, fun hst => ?_⟩
  · cases hact : sm.anyActiveSubscribers with
    | false => simp [hact] at hst
    | true =>
      obtain ⟨s, hs, hi⟩ := anyActiveSubscribers_iff.mp hact
      exact ⟨s, List.mem_filter.mpr ⟨hs, by simp [hi]⟩, hi⟩
  · cases hact : sm.anyActiveSubscribers <;> simp [hact] at hst
  · cases hact : sm.anyActiveSubscribers <;> simp [hact] at hst

theorem subscriberInvariant_of_empty (h : sm.mSubscriberList = []) :
    sm.SubscriberInvariant ↔ sm.mState = .released := by
  rw [subscriberInvariant_iff (wellFormed_of_empty h), h]
  cases sm.mState <;> simp

theorem subscriberInvariant_step (hwf : sm.WellFormed) (hinv : sm.SubscriberInvariant) {e : SmEvent}
    (he : e ≠ .modemSSR) : (sm.step e).1.SubscriberInvariant := by
  rw [subscriberInvariant_iff (wellFormed_step hwf e)]
  cases e with
  | subscribe h agpsType mask =>
    rw [step_subscribe]
    cases hst : sm.mState with
    | released =>
      refine ⟨fun _ => ⟨newSubscriber h mask, ?_, rfl⟩, ?_, ?_⟩
      · have hnil := hwf.released_empty hst
        exact mem_listWith.mpr (Or.inr ⟨by simp [handles, hnil], rfl⟩)
      · simp
      · simp
    | pending => simpa using exists_active_listWith (hinv.pending_active hst)
    | acquired => simpa using exists_active_listWith (hinv.acquired_active hst)
    | releasing =>
      obtain ⟨s, hs⟩ := List.exists_mem_of_ne_nil _ (hinv.releasing_nonempty hst)
      have hmem : s ∈ sm.listWith h mask := mem_listWith.mpr (Or.inl hs)
      simpa using List.ne_nil_of_mem hmem
  | unsubscribe h =>
    rw [step_unsubscribe hwf]
    split
    · rename_i hh
      have hne : markInactive h sm.mSubscriberList ≠ [] := by
        intro hnil
        have := map_markInactive h sm.mSubscriberList
        rw [hnil] at this
        exact List.ne_nil_of_mem hh this.symm
      simp only
      split
      · refine ⟨?_, ?_, fun _ => hne⟩
        · intro hst
          cases hst
        · intro hst
          cases hst
      · rename_i hno
        -- not all inactive, or not a state that has a connection
        have hact : sm.mState = .pending ∨ sm.mState = .acquired →
            ∃ s ∈ markInactive h sm.mSubscriberList, s.mIsInactive = false := by
          intro hst
          by_contra hall
          refine hno ⟨hst, anyActiveSubscribers_eq_false.mpr fun s hs => ?_⟩
          by_contra hs'
          exact hall ⟨s, hs, by simpa using hs'⟩
        exact ⟨fun hst => hact (Or.inl hst), fun hst => hact (Or.inr hst), fun _ => hne⟩
    · exact (subscriberInvariant_iff hwf).mp hinv
  | granted apn apnLen bearerType =>
    rw [step_granted]
    split
    · rename_i hst
      refine ⟨?_, fun _ => ?_, ?_⟩
      · intro hst'
        cases hst'
      · rw [withConnection_mSubscriberList]
        exact hinv.pending_active hst
      · intro hst'
        cases hst'
    · rw [withConnection_mSubscriberList, withConnection_mState]
      exact (subscriberInvariant_iff hwf).mp hinv
  | released =>
    rw [step_released]
    split
    · simp
    · exact (subscriberInvariant_iff (wellFormed_finishReleasing hwf)).mp
        (subscriberInvariant_finishReleasing hwf)
    · exact (subscriberInvariant_iff hwf).mp hinv
  | denied =>
    rw [step_denied]
    split
    · simp
    · exact (subscriberInvariant_iff (wellFormed_finishReleasing hwf)).mp
        (subscriberInvariant_finishReleasing hwf)
    · exact (subscriberInvariant_iff hwf).mp hinv
  | modemSSR => exact absurd rfl he

/-- A run of a machine keeps the invariant in every state exactly if every
modem restart in it finds the machine released. -/
theorem statesMeet_subscriberInvariant_iff (agpsType : AGpsExtType) (es : List SmEvent) :
    StatesMeet step SubscriberInvariant (new agpsType) es ↔
      StepsMeet step (fun sm e => e = .modemSSR → sm.mState = .released) (new agpsType) es := by
  refine statesMeet_iff_stepsMeet (Q := WellFormed) (fun _ e h => wellFormed_step h e)
    (fun sm e hwf hinv => ?_) (wellFormed_new agpsType)
    ((subscriberInvariant_of_empty rfl).mpr rfl)
  by_cases he : e = .modemSSR
  · subst he
    rw [step_modemSSR, subscriberInvariant_of_empty rfl]
    simp
  · exact ⟨fun _ h => absurd h he, fun _ => subscriberInvariant_step hwf hinv he⟩

/-- One request and a restart: the machine waits for a connection nobody
wants. -/
theorem not_subscriberInvariant_after_modemSSR : ¬ ∀ (agpsType : AGpsExtType) (es : List SmEvent),
      StatesMeet step SubscriberInvariant (new agpsType) es := by
  intro h
  have hinv := (h LOC_AGPS_TYPE_SUPL
    [.subscribe 1 LOC_AGPS_TYPE_SUPL LOC_APN_TYPE_MASK_SUPL, .modemSSR]).last
  obtain ⟨s, hs, -⟩ := hinv.pending_active rfl
  exact absurd hs List.not_mem_nil

end AgpsStateMachine

end LocStack.Agps
