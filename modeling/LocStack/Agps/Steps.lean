/-
# `LocStack.Agps.Steps` — what each event does to an AGPS machine

Two facts hold of a machine whatever happens to it, a modem restart
included (`WellFormed`): every subscriber waits for the close, because
`requestATL` builds no other kind, and no two subscribers have one handle,
because `addSubscriber` refuses the second.  Under the first the branches of
`processAgpsEventUnsubscribe` that notify and delete are dead, and every
event has one short equation.  The facts about the machine are read off
these equations; no later proof unfolds an event handler.
-/
import LocStack.Agps.Machine
import Mathlib.Data.List.Nodup

namespace LocStack.Agps

open Base List

namespace AgpsStateMachine

/-! ## The subscriber list -/

/-- The handles in the list, in order. -/
def handles (sm : AgpsStateMachine) : List Int := sm.mSubscriberList.map (·.mConnHandle)

/-- Some subscriber with this handle is active. -/
def IsActive (sm : AgpsStateMachine) (connHandle : Int) : Prop :=
  ∃ s ∈ sm.mSubscriberList, s.mConnHandle = connHandle ∧ s.mIsInactive = false

/-- Some subscriber with this handle has been released and is still there. -/
def IsInactive (sm : AgpsStateMachine) (connHandle : Int) : Prop :=
  ∃ s ∈ sm.mSubscriberList, s.mConnHandle = connHandle ∧ s.mIsInactive = true

variable {sm : AgpsStateMachine} {h : Int} {s : AgpsSubscriber}

theorem mem_handles : h ∈ sm.handles ↔ ∃ s ∈ sm.mSubscriberList, s.mConnHandle = h := by
  simp [handles]

theorem mem_handles_iff : h ∈ sm.handles ↔ sm.IsActive h ∨ sm.IsInactive h := by
  rw [mem_handles]
  constructor
  · rintro ⟨s, hs, rfl⟩
    cases hi : s.mIsInactive with
    | false => exact Or.inl ⟨s, hs, rfl, hi⟩
    | true => exact Or.inr ⟨s, hs, rfl, hi⟩
  · rintro (⟨s, hs, hh, _⟩ | ⟨s, hs, hh, _⟩)
    · exact ⟨s, hs, hh⟩
    · exact ⟨s, hs, hh⟩

theorem anyActiveSubscribers_iff :
    sm.anyActiveSubscribers = true ↔ ∃ s ∈ sm.mSubscriberList, s.mIsInactive = false := by
  simp [anyActiveSubscribers]

theorem anyActiveSubscribers_eq_false :
    sm.anyActiveSubscribers = false ↔ ∀ s ∈ sm.mSubscriberList, s.mIsInactive = true := by
  simp [anyActiveSubscribers]

theorem getSubscriber_eq_none : sm.getSubscriber h = none ↔ h ∉ sm.handles := by
  simp [getSubscriber, handles]

theorem getSubscriber_mem (hs : sm.getSubscriber h = some s) :
    s ∈ sm.mSubscriberList ∧ s.mConnHandle = h := by
  have hp := List.find?_some hs
  exact ⟨mem_of_find?_eq_some hs, by simpa using hp⟩

theorem map_markInactive (h : Int) (l : List AgpsSubscriber) :
    (markInactive h l).map (·.mConnHandle) = l.map (·.mConnHandle) := by
  induction l with
  | nil => rfl
  | cons s rest ih =>
    rw [markInactive]
    split
    · rfl
    · rw [map_cons, map_cons, ih]

theorem mem_markInactive {l : List AgpsSubscriber} (hnd : (l.map (·.mConnHandle)).Nodup) :
    s ∈ markInactive h l ↔ (s ∈ l ∧ s.mConnHandle ≠ h) ∨
        ∃ t ∈ l, t.mConnHandle = h ∧ s = { t with mIsInactive := true } := by
  induction l with
  | nil => simp [markInactive]
  | cons a rest ih =>
    obtain ⟨ha, hrest⟩ := nodup_cons.mp hnd
    rw [markInactive]
    split
    · rename_i hah
      have hah : a.mConnHandle = h := by simpa using hah
      have hne : ∀ t ∈ rest, t.mConnHandle ≠ h := by
        intro t ht hth
        exact ha (mem_map.mpr ⟨t, ht, hth.trans hah.symm⟩)
      constructor
      · intro hs
        rcases mem_cons.mp hs with rfl | hs
        · exact Or.inr ⟨a, mem_cons_self, hah, rfl⟩
        · exact Or.inl ⟨mem_cons_of_mem _ hs, hne s hs⟩
      · rintro (⟨hs, hsh⟩ | ⟨t, ht, hth, rfl⟩)
        · rcases mem_cons.mp hs with rfl | hs
          · exact absurd hah hsh
          · exact mem_cons_of_mem _ hs
        · rcases mem_cons.mp ht with rfl | ht
          · exact mem_cons_self
          · exact absurd hth (hne t ht)
    · rename_i hah
      have hah : a.mConnHandle ≠ h := by simpa using hah
      rw [mem_cons, ih hrest]
      constructor
      · rintro (rfl | ⟨hs, hsh⟩ | ⟨t, ht, hth, rfl⟩)
        · exact Or.inl ⟨mem_cons_self, hah⟩
        · exact Or.inl ⟨mem_cons_of_mem _ hs, hsh⟩
        · exact Or.inr ⟨t, mem_cons_of_mem _ ht, hth, rfl⟩
      · rintro (⟨hs, hsh⟩ | ⟨t, ht, hth, rfl⟩)
        · rcases mem_cons.mp hs with rfl | hs
          · exact Or.inl rfl
          · exact Or.inr (Or.inl ⟨hs, hsh⟩)
        · rcases mem_cons.mp ht with rfl | ht
          · exact absurd hth hah
          · exact Or.inr (Or.inr ⟨t, ht, hth, rfl⟩)

@[simp] theorem isFor_all :
    AgpsNotificationType.forAllSubscribers.isFor = fun _ => true := rfl

@[simp] theorem isFor_inactive :
    AgpsNotificationType.forInactiveSubscribers.isFor = fun s => s.mIsInactive := rfl

@[simp] theorem isFor_active :
    AgpsNotificationType.forActiveSubscribers.isFor = fun s => !s.mIsInactive := rfl

theorem notifyLoop_eq (sm : AgpsStateMachine) (event : AgpsEvent) (del : Bool)
    (type : AgpsNotificationType) (l : List AgpsSubscriber) :
    sm.notifyLoop event del type l = (if del then l.filter (fun s => !type.isFor s) else l,
        (l.filter type.isFor).flatMap (sm.statusFor event)) := by
  induction l with
  | nil => cases del <;> rfl
  | cons s rest ih =>
    rw [notifyLoop, ih]
    cases hs : type.isFor s <;> cases del <;> simp [hs, notifyEventToSubscriber]

/-! ## The invariant no event can break -/

/-- What holds of every machine the manager can build and drive. -/
structure WellFormed (sm : AgpsStateMachine) : Prop where
  waits : ∀ s ∈ sm.mSubscriberList, s.mWaitForCloseComplete = true
  handles_nodup : sm.handles.Nodup
  released_empty : sm.mState = .released → sm.mSubscriberList = []

theorem wellFormed_new (agpsType : AGpsExtType) : (new agpsType).WellFormed where
  waits := fun _ hs => nomatch hs
  handles_nodup := nodup_nil
  released_empty := fun _ => rfl

/-! ## One equation for each event -/

section Equations

variable {sm : AgpsStateMachine}

/-- The machine as `requestATL` leaves it before the event: type and mask are
the new request's. -/
def withRequest (sm : AgpsStateMachine) (agpsType : AGpsExtType) (mask : LocApnTypeMask) :
    AgpsStateMachine :=
  { sm with mAgpsType := agpsType, mApnTypeMask := mask }

/-- The list after `addSubscriber`. -/
def listWith (sm : AgpsStateMachine) (h : Int) (mask : LocApnTypeMask) : List AgpsSubscriber :=
  if h ∈ sm.handles then sm.mSubscriberList
  else sm.mSubscriberList ++ [newSubscriber h mask]

theorem addSubscriber_newSubscriber (h : Int) (mask : LocApnTypeMask) :
    sm.addSubscriber (newSubscriber h mask) =
      { sm with mSubscriberList := sm.listWith h mask } := by
  have hiff : sm.mSubscriberList.any (fun s => s.equals (newSubscriber h mask)) = true ↔
      h ∈ sm.handles := by
    simp [AgpsSubscriber.equals, newSubscriber, handles]
  unfold addSubscriber listWith
  by_cases hh : h ∈ sm.handles
  · rw [if_pos (hiff.mpr hh), if_pos hh]
  · rw [if_neg (fun hc => hh (hiff.mp hc)), if_neg hh]

theorem step_subscribe (h : Int) (agpsType : AGpsExtType) (mask : LocApnTypeMask) :
    sm.step (.subscribe h agpsType mask) = ({ sm.withRequest agpsType mask with
          mSubscriberList := sm.listWith h mask
          mState := if sm.mState = .released then .pending else sm.mState },
        match sm.mState with
        | .released => (sm.withRequest agpsType mask).requestOrReleaseDataConn true
        | .acquired =>
          (sm.withRequest agpsType mask).statusFor .granted (newSubscriber h mask)
        | _ => []) := by
  have hlist : (sm.withRequest agpsType mask).listWith h mask = sm.listWith h mask := rfl
  have hstate : (sm.withRequest agpsType mask).mState = sm.mState := rfl
  show (sm.withRequest agpsType mask).processAgpsEventSubscribe (newSubscriber h mask) = _
  cases hst : sm.mState <;>
    simp [processAgpsEventSubscribe, hstate, hst, addSubscriber_newSubscriber, hlist,
      transitionState, notifyEventToSubscriber, requestOrReleaseDataConn]

/-- A release of an unknown handle reaches no machine; of a known one, it
marks the subscriber, and lets the connection go when nobody is left
active. -/
theorem step_unsubscribe (hwf : sm.WellFormed) (h : Int) : sm.step (.unsubscribe h) =
      if h ∈ sm.handles then
        let sm' := { sm with mSubscriberList := markInactive h sm.mSubscriberList }
        if (sm.mState = .pending ∨ sm.mState = .acquired) ∧ sm'.anyActiveSubscribers = false then
          ({ sm' with mState := .releasing }, sm.requestOrReleaseDataConn false)
        else (sm', [])
      else (sm, []) := by
  show sm.unsubscribe h = _
  unfold unsubscribe
  cases hs : sm.getSubscriber h with
  | none => rw [if_neg (getSubscriber_eq_none.mp hs)]
  | some s =>
    obtain ⟨hmem, rfl⟩ := getSubscriber_mem hs
    have hh : s.mConnHandle ∈ sm.handles := mem_handles.mpr ⟨s, hmem, rfl⟩
    have hne : markInactive s.mConnHandle sm.mSubscriberList ≠ [] := by
      intro hnil
      have := map_markInactive s.mConnHandle sm.mSubscriberList
      rw [hnil] at this
      exact ne_nil_of_mem hh this.symm
    rw [if_pos hh]
    cases hst : sm.mState with
    | released => rw [hwf.released_empty hst] at hmem; exact absurd hmem not_mem_nil
    | pending | acquired =>
      cases hact : ({ sm with
          mSubscriberList := markInactive s.mConnHandle sm.mSubscriberList } :
          AgpsStateMachine).anyActiveSubscribers <;>
        simp_all [processAgpsEventUnsubscribe, unsubscribeCurrent, hwf.waits s hmem,
          setInactive, transitionState, requestOrReleaseDataConn]
    | releasing =>
      simp_all [processAgpsEventUnsubscribe, unsubscribeCurrent, hwf.waits s hmem, setInactive]

/-- The machine as `reportAtlOpenSuccess` leaves it before the event. -/
def withConnection (sm : AgpsStateMachine) (apn : Option CString) (apnLen : Nat)
    (bearerType : AGpsBearerType) : AgpsStateMachine :=
  { sm with mBearer := bearerType }.setAPN apn apnLen

section

variable (apn : Option CString) (apnLen : Nat) (bearerType : AGpsBearerType)
include apn apnLen bearerType

theorem withConnection_mSubscriberList :
    (sm.withConnection apn apnLen bearerType).mSubscriberList = sm.mSubscriberList := by
  unfold withConnection setAPN
  split
  · rfl
  · split <;> rfl

theorem withConnection_mState : (sm.withConnection apn apnLen bearerType).mState = sm.mState := by
  unfold withConnection setAPN
  split
  · rfl
  · split <;> rfl

theorem withConnection_request :
    (sm.withConnection apn apnLen bearerType).mAgpsType = sm.mAgpsType ∧
      (sm.withConnection apn apnLen bearerType).mApnTypeMask = sm.mApnTypeMask := by
  unfold withConnection setAPN
  split
  · exact ⟨rfl, rfl⟩
  · split <;> exact ⟨rfl, rfl⟩

theorem step_granted : sm.step (.granted apn apnLen bearerType) =
      if sm.mState = .pending then
        ({ sm.withConnection apn apnLen bearerType with mState := .acquired },
          (sm.mSubscriberList.filter (fun s => !s.mIsInactive)).flatMap
            ((sm.withConnection apn apnLen bearerType).statusFor .granted))
      else (sm.withConnection apn apnLen bearerType, []) := by
  show (sm.withConnection apn apnLen bearerType).processAgpsEventGranted = _
  unfold processAgpsEventGranted
  rw [withConnection_mState]
  cases hst : sm.mState with
  | pending =>
    simp [notifyAllSubscribers, notifyLoop_eq, transitionState, withConnection_mSubscriberList]
    rfl
  | released | acquired | releasing => simp

end

theorem finishReleasing_eq : sm.finishReleasing = ({ sm with
          mSubscriberList := sm.mSubscriberList.filter (fun s => !s.mIsInactive)
          mState := if sm.anyActiveSubscribers then .pending else .released },
        (sm.mSubscriberList.filter (fun s => s.mIsInactive)).flatMap (sm.statusFor .released) ++
          if sm.anyActiveSubscribers then sm.requestOrReleaseDataConn true else []) := by
  have hact : ({ sm with
      mSubscriberList := sm.mSubscriberList.filter (fun s => !s.mIsInactive) } :
      AgpsStateMachine).anyActiveSubscribers = sm.anyActiveSubscribers := by
    simp [anyActiveSubscribers, any_filter]
  unfold finishReleasing notifyAllSubscribers
  simp only [notifyLoop_eq, isFor_inactive, if_true, hact]
  cases sm.anyActiveSubscribers <;> simp [transitionState, requestOrReleaseDataConn]

theorem step_released : sm.step .released =
      match sm.mState with
      | .acquired =>
        ({ sm with mSubscriberList := [], mState := .released },
          sm.mSubscriberList.flatMap (sm.statusFor .released))
      | .releasing => sm.finishReleasing
      | _ => (sm, []) := by
  show sm.processAgpsEventReleased = _
  unfold processAgpsEventReleased
  cases hst : sm.mState with
  | acquired =>
    simp [notifyAllSubscribers, notifyLoop_eq, transitionState]
    rfl
  | released | pending | releasing => rfl

theorem step_denied : sm.step .denied =
      match sm.mState with
      | .pending =>
        ({ sm with mSubscriberList := [], mState := .released },
          sm.mSubscriberList.flatMap (sm.statusFor .denied))
      | .releasing => sm.finishReleasing
      | _ => (sm, []) := by
  show sm.processAgpsEventDenied = _
  unfold processAgpsEventDenied
  cases hst : sm.mState with
  | pending =>
    simp [notifyAllSubscribers, notifyLoop_eq, transitionState]
    rfl
  | released | acquired | releasing => rfl

theorem step_modemSSR :
    sm.step .modemSSR = ({ sm with mSubscriberList := [] }, []) := rfl

end Equations

/-! ## The invariant, step by step -/

theorem mem_listWith {sm : AgpsStateMachine} {h : Int} {mask : LocApnTypeMask}
    {s : AgpsSubscriber} :
    s ∈ sm.listWith h mask ↔
      s ∈ sm.mSubscriberList ∨ (h ∉ sm.handles ∧ s = newSubscriber h mask) := by
  unfold listWith
  by_cases hh : h ∈ sm.handles
  · simp [hh]
  · simp [hh]

theorem map_listWith (sm : AgpsStateMachine) (h : Int) (mask : LocApnTypeMask) :
    (sm.listWith h mask).map (·.mConnHandle) =
      if h ∈ sm.handles then sm.handles else sm.handles ++ [h] := by
  unfold listWith
  split
  · rfl
  · rw [map_append]; rfl

theorem wellFormed_finishReleasing {sm : AgpsStateMachine} (hwf : sm.WellFormed) :
    sm.finishReleasing.1.WellFormed := by
  rw [finishReleasing_eq]
  refine ⟨fun s hs => hwf.waits s (mem_filter.mp hs).1, ?_, fun hst => ?_⟩
  · exact hwf.handles_nodup.sublist (filter_sublist.map _)
  · cases hact : sm.anyActiveSubscribers with
    | true => simp [hact] at hst
    | false =>
      refine filter_eq_nil_iff.mpr fun s hs => ?_
      simp [anyActiveSubscribers_eq_false.mp hact s hs]

theorem wellFormed_of_empty {sm : AgpsStateMachine} (h : sm.mSubscriberList = []) :
    sm.WellFormed where
  waits := by simp [h]
  handles_nodup := by simp [handles, h]
  released_empty := fun _ => h

theorem wellFormed_step {sm : AgpsStateMachine} (hwf : sm.WellFormed) (e : SmEvent) :
    (sm.step e).1.WellFormed := by
  cases e with
  | subscribe h agpsType mask =>
    rw [step_subscribe]
    refine ⟨fun s hs => ?_, ?_, fun hst => ?_⟩
    · rcases mem_listWith.mp hs with hs | ⟨-, rfl⟩
      · exact hwf.waits s hs
      · rfl
    · show ((sm.listWith h mask).map (·.mConnHandle)).Nodup
      rw [map_listWith]
      split
      · exact hwf.handles_nodup
      · rename_i hh
        exact nodup_append_comm.mp (nodup_cons.mpr ⟨hh, hwf.handles_nodup⟩)
    · cases hst' : sm.mState <;> simp [hst'] at hst
  | unsubscribe h =>
    rw [step_unsubscribe hwf]
    split
    · have hmarked : ({ sm with mSubscriberList := markInactive h sm.mSubscriberList } :
          AgpsStateMachine).WellFormed := by
        refine ⟨fun s hs => ?_, ?_, fun hst => ?_⟩
        · rcases (mem_markInactive hwf.handles_nodup).mp hs with ⟨hs, -⟩ | ⟨t, ht, -, rfl⟩
          · exact hwf.waits s hs
          · exact hwf.waits t ht
        · show ((markInactive h sm.mSubscriberList).map (·.mConnHandle)).Nodup
          rw [map_markInactive]
          exact hwf.handles_nodup
        · show markInactive h sm.mSubscriberList = []
          rw [hwf.released_empty hst, markInactive]
      simp only
      split
      · exact ⟨hmarked.waits, hmarked.handles_nodup, fun hst => nomatch hst⟩
      · exact hmarked
    · exact hwf
  | granted apn apnLen bearerType =>
    rw [step_granted]
    split
    · refine ⟨?_, ?_, fun hst => nomatch hst⟩
      · rw [withConnection_mSubscriberList]; exact hwf.waits
      · unfold handles; rw [withConnection_mSubscriberList]; exact hwf.handles_nodup
    · refine ⟨?_, ?_, ?_⟩
      · rw [withConnection_mSubscriberList]; exact hwf.waits
      · unfold handles; rw [withConnection_mSubscriberList]; exact hwf.handles_nodup
      · rw [withConnection_mSubscriberList, withConnection_mState]; exact hwf.released_empty
  | released =>
    rw [step_released]
    split
    · exact wellFormed_of_empty rfl
    · exact wellFormed_finishReleasing hwf
    · exact hwf
  | denied =>
    rw [step_denied]
    split
    · exact wellFormed_of_empty rfl
    · exact wellFormed_finishReleasing hwf
    · exact hwf
  | modemSSR => exact wellFormed_of_empty rfl

theorem wellFormed_after (agpsType : AGpsExtType) (es : List SmEvent) :
    (after step (new agpsType) es).WellFormed :=
  invariant_after (P := WellFormed) (fun _ e h => wellFormed_step h e) (wellFormed_new agpsType) es

end AgpsStateMachine

end LocStack.Agps
