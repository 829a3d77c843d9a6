/-
# `LocStack.Agps.Requests` — which `requestATL` calls are answered

A request for a handle `h` is *accounted for* if `h` is sent an open status
at once, or is in the list of the machine the request goes to as an active
subscriber that waits for the framework.  What "waits" is worth is spelled
out in `AwaitsAnswer`: no sequence of framework answers takes the
subscriber out of the list without an open status; GRANTED and DENIED answer
it when they find the machine pending; and a releasing machine goes pending
with the next RELEASED or DENIED.

`addSubscriber` refuses a handle that is in the list, active or not.  So a
request for a handle that was released and is still waiting for the close
adds nothing: an acquired machine has answered it before that, a pending or
releasing machine has not, and the request is lost (`accounted_iff`).
-/
import LocStack.Agps.Routing

namespace LocStack.Agps

open Base List

/-- An open status for this handle, success or failure. -/
def AgpsOut.isOpenStatus (h : Int) : AgpsOut → Bool
  | .atlOpenStatus handle _ _ _ _ _ _ => handle == h
  | _ => false

/-- An event with which the framework answers: granted, denied, released. -/
def SmEvent.isAnswer : SmEvent → Bool
  | .granted _ _ _ | .released | .denied => true
  | _ => false

/-- The framework says whether the connection is there. -/
def SmEvent.isVerdict : SmEvent → Bool
  | .granted _ _ _ | .denied => true
  | _ => false

/-- `h` is sent an open status. -/
def OpenSent (h : Int) (out : List AgpsOut) : Prop := ∃ o ∈ out, o.isOpenStatus h = true

theorem openSent_append {h : Int} {out out' : List AgpsOut} :
    OpenSent h (out ++ out') ↔ OpenSent h out ∨ OpenSent h out' := by
  simp [OpenSent, or_and_right, exists_or]

namespace AgpsStateMachine

/-- `h` is an active subscriber the framework's next answers will reach. -/
structure AwaitsAnswer (sm : AgpsStateMachine) (h : Int) : Prop where
  active : sm.IsActive h
  /-- No sequence of answers loses it. -/
  kept : ∀ es : List SmEvent, (∀ e ∈ es, e.isAnswer = true) →
    OpenSent h (outs step sm es) ∨ (after step sm es).IsActive h
  /-- The first verdict on a pending machine is its answer. -/
  answered : ∀ (es : List SmEvent) (e : SmEvent), (∀ x ∈ es, x.isAnswer = true) →
    (after step sm es).mState = .pending → e.isVerdict = true →
      OpenSent h (outs step sm (es ++ [e]))
  /-- A releasing machine is pending once the old connection is gone. -/
  moves : sm.mState = .releasing → ∀ e, e = .released ∨ e = .denied →
    (sm.step e).1.mState = .pending

/-- What carries `AwaitsAnswer` through a run of answers. -/
def Waiting (sm : AgpsStateMachine) (h : Int) : Prop :=
  sm.IsActive h ∧ (sm.mState = .pending ∨ sm.mState = .releasing)

variable {sm : AgpsStateMachine} {h : Int} {e : SmEvent}

theorem openSent_statusFor {l : List AgpsSubscriber} {e : AgpsEvent}
    (he : e = .granted ∨ e = .denied) (hs : ∃ s ∈ l, s.mConnHandle = h) :
    OpenSent h (l.flatMap (sm.statusFor e)) := by
  obtain ⟨s, hs, rfl⟩ := hs
  rcases he with rfl | rfl
  · exact ⟨_, mem_flatMap.mpr ⟨s, hs, mem_singleton_self _⟩,
      by simp [AgpsOut.isOpenStatus]⟩
  · exact ⟨_, mem_flatMap.mpr ⟨s, hs, mem_singleton_self _⟩,
      by simp [AgpsOut.isOpenStatus]⟩

/-- The answer of the framework to a pending machine reaches every active
subscriber. -/
theorem openSent_of_verdict (hact : sm.IsActive h) (hst : sm.mState = .pending)
    (he : e.isVerdict = true) : OpenSent h (sm.step e).2 := by
  obtain ⟨s, hs, hh, hi⟩ := hact
  cases e with
  | granted apn apnLen bearerType =>
    rw [step_granted, if_pos hst]
    exact openSent_statusFor (Or.inl rfl) ⟨s, mem_filter.mpr ⟨hs, by simp [hi]⟩, hh⟩
  | denied =>
    rw [step_denied, hst]
    exact openSent_statusFor (Or.inr rfl) ⟨s, hs, hh⟩
  | subscribe _ _ _ | unsubscribe _ | released | modemSSR => cases he

theorem finishReleasing_of_active (hact : sm.IsActive h) :
    sm.finishReleasing.1.IsActive h ∧ sm.finishReleasing.1.mState = .pending := by
  obtain ⟨s, hs, hh, hi⟩ := hact
  have hany : sm.anyActiveSubscribers = true := anyActiveSubscribers_iff.mpr ⟨s, hs, hi⟩
  rw [finishReleasing_eq]
  exact ⟨⟨s, mem_filter.mpr ⟨hs, by simp [hi]⟩, hh, hi⟩, by simp [hany]⟩

theorem waiting_step (hw : sm.Waiting h) (he : e.isAnswer = true) :
    OpenSent h (sm.step e).2 ∨ (sm.step e).1.Waiting h := by
  obtain ⟨hact, hst | hst⟩ := hw
  · cases e with
    | granted apn apnLen bearerType => exact Or.inl (openSent_of_verdict hact hst rfl)
    | denied => exact Or.inl (openSent_of_verdict hact hst rfl)
    | released => right; rw [step_released, hst]; exact ⟨hact, Or.inl hst⟩
    | subscribe _ _ _ | unsubscribe _ | modemSSR => cases he
  · obtain ⟨hact', hst'⟩ := finishReleasing_of_active hact
    cases e with
    | granted apn apnLen bearerType =>
      right
      rw [step_granted, if_neg (by simp [hst])]
      refine ⟨?_, Or.inr (by rw [withConnection_mState]; exact hst)⟩
      unfold IsActive
      rw [withConnection_mSubscriberList]
      exact hact
    | denied => right; rw [step_denied, hst]; exact ⟨hact', Or.inl hst'⟩
    | released => right; rw [step_released, hst]; exact ⟨hact', Or.inl hst'⟩
    | subscribe _ _ _ | unsubscribe _ | modemSSR => cases he

theorem waiting_run {es : List SmEvent} (hes : ∀ e ∈ es, e.isAnswer = true) (hw : sm.Waiting h) :
    OpenSent h (outs step sm es) ∨ (after step sm es).Waiting h := by
  induction es generalizing sm with
  | nil => exact Or.inr hw
  | cons e es ih =>
    rw [outs_cons, after_cons, openSent_append]
    rcases waiting_step hw (hes e mem_cons_self) with hsent | hw'
    · exact Or.inl (Or.inl hsent)
    · rcases ih (fun x hx => hes x (mem_cons_of_mem _ hx)) hw' with hsent | hw''
      · exact Or.inl (Or.inr hsent)
      · exact Or.inr hw''

theorem awaitsAnswer_of_waiting (hw : sm.Waiting h) : sm.AwaitsAnswer h where
  active := hw.1
  kept := fun es hes => (waiting_run hes hw).imp_right (·.1)
  answered := fun es e hes hst he => by
    rw [outs_append, openSent_append]
    rcases waiting_run hes hw with hsent | hw'
    · exact Or.inl hsent
    · right
      rw [outs_cons, openSent_append]
      exact Or.inl (openSent_of_verdict hw'.1 hst he)
  moves := fun hst e he => by
    rcases he with rfl | rfl
    · rw [step_released, hst]; exact (finishReleasing_of_active hw.1).2
    · rw [step_denied, hst]; exact (finishReleasing_of_active hw.1).2

theorem not_isActive_of_isInactive (hwf : sm.WellFormed) (hin : sm.IsInactive h) :
    ¬ sm.IsActive h := by
  rintro ⟨s, hs, rfl, hi⟩
  obtain ⟨t, ht, hh, hi'⟩ := hin
  have : t = s := inj_on_of_nodup_map hwf.handles_nodup ht hs hh
  rw [this, hi] at hi'
  cases hi'

theorem subscribe_accounted (hwf : sm.WellFormed) (h : Int) (t : AGpsExtType)
    (mask : LocApnTypeMask)
    (hno : ¬ ((sm.mState = .pending ∨ sm.mState = .releasing) ∧ sm.IsInactive h)) :
    OpenSent h (sm.step (.subscribe h t mask)).2 ∨
      (sm.step (.subscribe h t mask)).1.AwaitsAnswer h := by
  have hadd : sm.IsInactive h ∨ ∃ s ∈ sm.listWith h mask,
      s.mConnHandle = h ∧ s.mIsInactive = false := by
    by_cases hh : h ∈ sm.handles
    · rcases mem_handles_iff.mp hh with ⟨s, hs, hsh, hi⟩ | hin
      · exact Or.inr ⟨s, mem_listWith.mpr (Or.inl hs), hsh, hi⟩
      · exact Or.inl hin
    · exact Or.inr ⟨newSubscriber h mask, mem_listWith.mpr (Or.inr ⟨hh, rfl⟩), rfl, rfl⟩
  rw [step_subscribe]
  cases hst : sm.mState with
  | acquired =>
    exact Or.inl ⟨_, mem_singleton_self _, by simp [AgpsOut.isOpenStatus, newSubscriber]⟩
  | released =>
    have hnin : ¬ sm.IsInactive h := by
      rintro ⟨s, hs, -⟩
      rw [hwf.released_empty hst] at hs
      exact absurd hs not_mem_nil
    exact Or.inr (awaitsAnswer_of_waiting ⟨hadd.resolve_left hnin, Or.inl rfl⟩)
  | pending =>
    have hnin : ¬ sm.IsInactive h := fun hin => hno ⟨Or.inl hst, hin⟩
    exact Or.inr (awaitsAnswer_of_waiting ⟨hadd.resolve_left hnin, Or.inl rfl⟩)
  | releasing =>
    have hnin : ¬ sm.IsInactive h := fun hin => hno ⟨Or.inr hst, hin⟩
    exact Or.inr (awaitsAnswer_of_waiting ⟨hadd.resolve_left hnin, Or.inr rfl⟩)

/-- A request for a handle that is waiting for its close, made while the
machine is pending or releasing, leaves no trace. -/
theorem subscribe_lost (hwf : sm.WellFormed) (t : AGpsExtType) (mask : LocApnTypeMask)
    (hst : sm.mState = .pending ∨ sm.mState = .releasing) (hin : sm.IsInactive h) :
    (sm.step (.subscribe h t mask)).2 = [] ∧
      ¬ (sm.step (.subscribe h t mask)).1.IsActive h := by
  have hh : h ∈ sm.handles := mem_handles_iff.mpr (Or.inr hin)
  have hlist : sm.listWith h mask = sm.mSubscriberList := if_pos hh
  have hactive := not_isActive_of_isInactive hwf hin
  rw [step_subscribe, hlist]
  refine ⟨?_, hactive⟩
  rcases hst with hst | hst <;> rw [hst]

end AgpsStateMachine

namespace AgpsManager

/-- The machine a request is routed to. -/
def requestNif (m : AgpsManager) (t : AGpsExtType) (mask : LocApnTypeMask) : Nif :=
  nifFor (m.requestType t mask).1

/-- The request is answered at once, or its handle awaits the answer in the
machine the request went to. -/
def Accounted (m : AgpsManager) (h : Int) (t : AGpsExtType) (mask : LocApnTypeMask) : Prop :=
  (∃ o ∈ (m.requestATL h t mask).2, o.out.isOpenStatus h = true) ∨
    ∃ sm, (m.requestATL h t mask).1.machine (m.requestNif t mask) = some sm ∧ sm.AwaitsAnswer h

/-- The handle was released, and its machine neither has the connection nor
has told it that it is closed. -/
def StillClosing (m : AgpsManager) (h : Int) (t : AGpsExtType) (mask : LocApnTypeMask) : Prop :=
  ∃ sm, m.machine (m.requestNif t mask) = some sm ∧
    (sm.mState = .pending ∨ sm.mState = .releasing) ∧ sm.IsInactive h

variable {m : AgpsManager} {h : Int} {t : AGpsExtType} {mask : LocApnTypeMask}
  {sm : AgpsStateMachine}

theorem accounted_iff_of_machine (hm : m.machine (m.requestNif t mask) = some sm) :
    m.Accounted h t mask ↔
      OpenSent h (sm.step (.subscribe h (m.requestType t mask).1 (m.requestType t mask).2)).2 ∨
        (sm.step (.subscribe h (m.requestType t mask).1
          (m.requestType t mask).2)).1.AwaitsAnswer h := by
  have hreq : m.requestATL h t mask = m.dispatch (m.requestNif t mask)
        (.subscribe h (m.requestType t mask).1 (m.requestType t mask).2) := by
    have hm' := hm
    unfold requestNif at hm'
    simp only [requestATL, requestNif, hm']
  unfold Accounted
  rw [hreq]
  simp [dispatch, hm, OpenSent]

theorem accounted_of_no_machine (hm : m.machine (m.requestNif t mask) = none) :
    m.Accounted h t mask := by
  left
  unfold requestNif at hm
  simp [requestATL, hm, AgpsOut.isOpenStatus]

theorem wellFormed_machine (conf : GpsConf) (calls : List AgpsCall) {nif : Nif}
    (h : (after AgpsManager.step (.new conf) calls).machine nif = some sm) : sm.WellFormed := by
  rw [machine_after conf calls h]
  exact AgpsStateMachine.wellFormed_after _ _

theorem not_accounted_of_stillClosing (hwf : ∀ nif sm, m.machine nif = some sm → sm.WellFormed)
    (hc : m.StillClosing h t mask) : ¬ m.Accounted h t mask := by
  obtain ⟨sm, hm, hst, hin⟩ := hc
  obtain ⟨hnone, hnact⟩ := AgpsStateMachine.subscribe_lost (hwf _ sm hm)
    (m.requestType t mask).1 (m.requestType t mask).2 hst hin
  rw [accounted_iff_of_machine hm]
  rintro (⟨o, ho, -⟩ | hawaits)
  · rw [hnone] at ho
    exact absurd ho not_mem_nil
  · exact hnact hawaits.active

/-- In every state a manager can reach, a request is accounted for unless
its handle is still closing. -/
theorem accounted_iff (conf : GpsConf) (calls : List AgpsCall) (h : Int) (t : AGpsExtType)
    (mask : LocApnTypeMask) :
    (after AgpsManager.step (.new conf) calls).Accounted h t mask ↔
      ¬ (after AgpsManager.step (.new conf) calls).StillClosing h t mask := by
  have hwf : ∀ nif sm, (after AgpsManager.step (.new conf) calls).machine nif = some sm →
      sm.WellFormed := fun _ _ => wellFormed_machine conf calls
  generalize after AgpsManager.step (.new conf) calls = m at hwf ⊢
  refine ⟨fun hacc hc => not_accounted_of_stillClosing hwf hc hacc, fun hc => ?_⟩
  cases hm : m.machine (m.requestNif t mask) with
  | none => exact accounted_of_no_machine hm
  | some sm =>
    rw [accounted_iff_of_machine hm]
    refine AgpsStateMachine.subscribe_accounted (hwf _ sm hm) _ _ _ fun hcl => ?_
    exact hc ⟨sm, hm, hcl⟩

/-- Two handles ask, the first is released and asks again while the
connection is still pending. -/
theorem not_accounted_of_request_again :
    ¬ ∀ (conf : GpsConf) (calls : List AgpsCall) (h : Int) (t : AGpsExtType)
      (mask : LocApnTypeMask), (after AgpsManager.step (.new conf) calls).Accounted h t mask := by
  intro hall
  let conf : GpsConf := ⟨LOC_GPS_CAPABILITY_MSB, 0⟩
  let calls : List AgpsCall :=
    [.createAgpsStateMachines 7, .requestATL 1 LOC_AGPS_TYPE_SUPL LOC_APN_TYPE_MASK_SUPL,
      .requestATL 2 LOC_AGPS_TYPE_SUPL LOC_APN_TYPE_MASK_SUPL, .releaseATL 1]
  refine not_accounted_of_stillClosing (fun nif sm => wellFormed_machine conf calls) ?_
    (hall conf calls 1 LOC_AGPS_TYPE_SUPL LOC_APN_TYPE_MASK_SUPL)
  refine ⟨(after AgpsManager.step (.new conf) calls).mAgnssNif.getD (.new 0), by decide,
    Or.inl (by decide), ⟨⟨1, true, true, LOC_APN_TYPE_MASK_SUPL⟩, by decide, rfl, rfl⟩⟩

end AgpsManager

end LocStack.Agps
