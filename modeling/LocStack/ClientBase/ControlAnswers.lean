/-
# `LocStack.ClientBase.ControlAnswers` — every call that returned success has its callback

A call that returned success is in one of two places: among the calls that
LocationControlAPI has not answered, or among the callbacks that were
invoked.  Counting is enough to see where this fails: a success without a
call is in neither, and an answer that finds no request takes its call from
the first and adds it to none.

`served_iff` says in which runs each call has its callback once, when it is
answered, and the queues hold no more than what is to be answered.
-/
import LocStack.ClientBase.ControlQueues

namespace LocStack.ClientBase

open Base List
open Tracking (LocationError)

/-! ## Who is served -/

namespace Controlled

open LocationAPIControlClient (Kept)

variable {s : Controlled} {c : LocationAPIControlClient}

theorem Served.length (h : s.Served) : s.succeeded.length =
    s.client.callbacks.length + s.client.unanswered.length := by
  have hlength := h.1.length_eq
  rw [length_append, length_map, length_map] at hlength
  exact hlength

variable {kind : ControlRequestKind} {result : LocationError × LocationAPIControlClient}
  {ids : ControlIds} {call : ControlCall}

theorem served_called (hs : s.Served) (h : s.client.Asked kind result) :
    (s.called kind result).Served := by
  obtain ⟨call, hrequest, hcalls⟩ := h.calls
  have hsucceeded : (s.called kind result).succeeded = s.succeeded ++ [call.request] := by
    unfold called
    rw [h.success, hrequest]
    rfl
  constructor
  · rw [hsucceeded]
    show (s.succeeded ++ [call.request]).Perm
      (result.2.callbacks.map Prod.fst ++ result.2.unanswered.map ControlCall.request)
    rw [h.callbacks, hcalls, map_append, ← append_assoc]
    exact hs.1.append_right _
  · show result.2.queued ≤ result.2.unanswered.length
    rw [hcalls, length_append, length_singleton]
    exact h.queued.trans (Nat.add_le_add_right hs.2 1)

theorem served_refused (hs : s.Served) (h : s.client.Refused result) :
    (s.called kind result).Served := by
  have hsucceeded : (s.called kind result).succeeded = s.succeeded := if_neg h.error
  constructor
  · rw [hsucceeded]
    show s.succeeded.Perm
      (result.2.callbacks.map Prod.fst ++ result.2.unanswered.map ControlCall.request)
    rw [h.callbacks, h.unanswered]
    exact hs.1
  · show result.2.queued ≤ result.2.unanswered.length
    rw [h.queued, h.unanswered]
    exact hs.2

theorem not_served_called (hs : s.Served) : ¬ (s.called kind (.success, s.client)).Served := by
  intro h
  have hlength := h.length
  have hbefore := hs.length
  have hsucceeded : (s.called kind (.success, s.client)).succeeded =
      s.succeeded ++ [s.client.request kind] := rfl
  rw [hsucceeded, length_append, length_singleton, hbefore] at hlength
  exact absurd hlength (Nat.succ_ne_self _)

section

variable (hs : s.Served) (hcall : (ofKey ControlCall.ids ids s.client.unanswered).head? = some call)
include hs hcall

theorem served_found {answer : ControlAnswer}
    (h : LocationAPIControlClient.Found s.client ids call.request answer c) :
    (⟨c, s.succeeded⟩ : Controlled).Served := by
  have hperm := perm_settle hcall
  constructor
  · show s.succeeded.Perm (c.callbacks.map Prod.fst ++ c.unanswered.map ControlCall.request)
    rw [h.callbacks, h.unanswered, map_append, append_assoc]
    exact hs.1.trans ((hperm.map ControlCall.request).append_left _)
  · show c.queued ≤ c.unanswered.length
    have hlength := hperm.length_eq
    have hbound := hs.2
    have hqueued := h.queued
    rw [length_cons] at hlength
    rw [h.unanswered]
    omega

theorem not_served_settled (hcallbacks : c.callbacks = s.client.callbacks)
    (hcalls : c.unanswered = settle ControlCall.ids ids s.client.unanswered) :
    ¬ (⟨c, s.succeeded⟩ : Controlled).Served := by
  intro h
  have hafter : s.succeeded.length = c.callbacks.length + c.unanswered.length := h.length
  have hbefore := hs.length
  have hlength := (perm_settle hcall).length_eq
  rw [length_cons] at hlength
  rw [hcallbacks, hcalls] at hafter
  omega

end

theorem exists_oldest (h : c.Due ids) :
    ∃ call, (ofKey ControlCall.ids ids c.unanswered).head? = some call := by
  obtain ⟨call, hcall, hids⟩ := h
  cases hof : ofKey ControlCall.ids ids c.unanswered with
  | nil => exact absurd hids (ofKey_eq_nil.mp hof call hcall)
  | cons first rest => exact ⟨first, rfl⟩

/-! ## Steps -/

/-- What holds along a run whose steps fit. -/
structure Inv (s : Controlled) : Prop where
  kept : s.client.Kept
  served : s.Served
  counted : ∀ request ∈ s.succeeded, request.object < s.client.calls
  distinct : s.succeeded.Nodup

theorem kept_called (h : result.2.Kept) : (s.called kind result).client.Kept :=
  ⟨h.deleteSession, h.controlSession, h.deletes, h.controls, h.updateArray, h.getArray, h.known,
    h.apart, h.nonzero⟩

section

variable (h : s.Inv)
include h

theorem Inv.asked (hresult : s.client.Asked kind result) : (s.called kind result).Inv := by
  have hsucceeded : (s.called kind result).succeeded =
      s.succeeded ++ [s.client.request kind] := if_pos hresult.success
  have hcalls : (s.called kind result).client.calls = s.client.calls + 1 :=
    congrArg (· + 1) hresult.counted
  refine ⟨kept_called hresult.kept, served_called h.served hresult, ?_, ?_⟩
  · rw [hsucceeded, hcalls]
    intro request hrequest
    rcases mem_append.mp hrequest with hold | hlast
    · exact Nat.lt_succ_of_lt (h.counted request hold)
    · cases mem_singleton.mp hlast
      exact Nat.lt_succ_self _
  · rw [hsucceeded]
    refine nodup_append.mpr ⟨h.distinct, nodup_singleton _, ?_⟩
    intro request hold request' hlast heq
    have hlt := h.counted request hold
    rw [heq, mem_singleton.mp hlast] at hlt
    exact Nat.lt_irrefl _ hlt

theorem Inv.refused (hresult : s.client.Refused result) : (s.called kind result).Inv := by
  have hsucceeded : (s.called kind result).succeeded = s.succeeded := if_neg hresult.error
  have hcalls : (s.called kind result).client.calls = s.client.calls + 1 :=
    congrArg (· + 1) hresult.counted
  refine ⟨kept_called hresult.kept, served_refused h.served hresult, ?_, ?_⟩
  · rw [hsucceeded, hcalls]
    exact fun request hrequest => Nat.lt_succ_of_lt (h.counted request hrequest)
  · rw [hsucceeded]
    exact h.distinct

theorem Inv.gnssDeleteAidingData (data : GnssAidingData) (session : UInt32) :
    (s.next (.gnssDeleteAidingData data session)).Inv := by
  show (if _ then _ else _ : Controlled).Inv
  split
  · rename_i hnew
    rcases Option.eq_none_or_eq_some s.client.mLocationControlAPI with hapi | ⟨api, hapi⟩
    · have heq : s.client.locAPIGnssDeleteAidingData data session =
          (.generalFailure, s.client) := by
        unfold LocationAPIControlClient.locAPIGnssDeleteAidingData
        rw [hapi]
      rw [heq]
      exact h.refused h.kept.refused
    · exact h.asked (h.kept.gnssDeleteAidingData hapi hnew data)
  · exact h

theorem enable_step (techType : LocationTechnologyType) (session : UInt32) :
    (s.Fits (.enable techType session) → (s.next (.enable techType session)).Inv) ∧
      ((s.next (.enable techType session)).Served → s.Fits (.enable techType session)) := by
  by_cases hnew : s.client.Returns session
  · have hnext : s.next (.enable techType session) =
        s.called .enable (s.client.locAPIEnable techType session) := if_pos hnew
    rw [hnext]
    cases henabled : s.client.mEnabled with
    | true =>
      have heq : s.client.locAPIEnable techType session = (.success, s.client) := by
        unfold LocationAPIControlClient.locAPIEnable
        exact if_pos henabled
      rw [heq]
      refine ⟨fun hfits => ?_, fun hserved => absurd hserved (not_served_called h.served)⟩
      have hdisabled := hfits hnew
      rw [henabled] at hdisabled
      cases hdisabled
    | false =>
      refine ⟨fun _ => ?_, fun _ _ => henabled⟩
      rcases Option.eq_none_or_eq_some s.client.mLocationControlAPI with hapi | ⟨api, hapi⟩
      · have heq : s.client.locAPIEnable techType session = (.generalFailure, s.client) := by
          unfold LocationAPIControlClient.locAPIEnable
          rw [henabled, hapi]
          rfl
        rw [heq]
        exact h.refused h.kept.refused
      · exact h.asked (h.kept.enable hapi hnew henabled techType)
  · have hnext : s.next (.enable techType session) = s := if_neg hnew
    rw [hnext]
    exact ⟨fun _ => h, fun _ hnew' => absurd hnew' hnew⟩

theorem Inv.disable : (s.next .disable).Inv := by
  show (s.called .disable (if s.disables then .success else .generalFailure, _)).Inv
  cases hdisables : s.disables with
  | true =>
    -- LocationControlAPI is called
    obtain ⟨⟨henabled, hsome⟩, hsession⟩ :
        (s.client.mEnabled = true ∧ s.client.mLocationControlAPI.isSome = true) ∧
          0 < s.client.control.mSession := by
      simpa only [disables, Bool.and_eq_true, decide_eq_true_eq] using hdisables
    obtain ⟨api, hapi⟩ := Option.isSome_iff_exists.mp hsome
    exact h.asked (h.kept.disable hapi henabled hsession)
  | false =>
    have heq : s.client.locAPIDisable = s.client := by
      unfold LocationAPIControlClient.locAPIDisable
      split
      · rename_i henabled hapi
        refine if_neg fun hsession => ?_
        have htrue : s.disables = true := by
          unfold disables
          rw [henabled, hapi]
          exact decide_eq_true hsession
        rw [hdisables] at htrue
        cases htrue
      · rfl
    rw [heq]
    exact h.refused h.kept.refused

theorem gnssUpdateConfig_step (config : GnssConfig) (idArray : Option IdArray) :
    (s.Fits (.gnssUpdateConfig config idArray) → (s.next (.gnssUpdateConfig config idArray)).Inv) ∧
      ((s.next (.gnssUpdateConfig config idArray)).Served →
        s.Fits (.gnssUpdateConfig config idArray)) := by
  show (_ → (s.called .gnssUpdateConfig _).Inv) ∧ ((s.called .gnssUpdateConfig _).Served → _)
  rcases Option.eq_none_or_eq_some s.client.mLocationControlAPI with hapi | ⟨api, hapi⟩
  · have heq : s.client.locAPIGnssUpdateConfig config idArray = (.generalFailure, s.client) := by
      unfold LocationAPIControlClient.locAPIGnssUpdateConfig
      rw [hapi]
    rw [heq]
    refine ⟨fun _ => h.refused h.kept.refused, fun _ hsome => ?_⟩
    rw [hapi] at hsome
    cases hsome
  · cases hconfig : s.client.mConfig.equals config with
    | true =>
      have heq : s.client.locAPIGnssUpdateConfig config idArray = (.success, s.client) := by
        unfold LocationAPIControlClient.locAPIGnssUpdateConfig
        rw [hapi]
        exact if_pos hconfig
      rw [heq]
      refine ⟨fun hfits => ?_, fun hserved => absurd hserved (not_served_called h.served)⟩
      have hdiffers := hfits (hapi ▸ rfl)
      rw [hconfig] at hdiffers
      cases hdiffers
    | false =>
      refine ⟨fun _ => ?_, fun _ _ => hconfig⟩
      cases idArray with
      | none => exact h.refused (h.kept.gnssUpdateConfig_none hapi hconfig)
      | some idArray => exact h.asked (h.kept.gnssUpdateConfig hapi hconfig idArray)

theorem Inv.gnssGetConfig (mask : UInt32) (idArray : Option IdArray) :
    (s.next (.gnssGetConfig mask idArray)).Inv := by
  show (s.called .gnssGetConfig _).Inv
  rcases Option.eq_none_or_eq_some s.client.mLocationControlAPI with hapi | ⟨api, hapi⟩
  · have heq : s.client.locAPIGnssGetConfig mask idArray = (.generalFailure, s.client) := by
      unfold LocationAPIControlClient.locAPIGnssGetConfig
      rw [hapi]
    rw [heq]
    exact h.refused h.kept.refused
  · cases idArray with
    | none =>
      have heq : s.client.locAPIGnssGetConfig mask none = (.generalFailure, s.client) := by
        unfold LocationAPIControlClient.locAPIGnssGetConfig
        rw [hapi]
      rw [heq]
      exact h.refused h.kept.refused
    | some idArray => exact h.asked (h.kept.gnssGetConfig hapi mask idArray)

theorem response_step (session : UInt32) (error : LocationError) :
    (s.Fits (.response session error) → (s.next (.response session error)).Inv) ∧
      ((s.next (.response session error)).Served → s.Fits (.response session error)) := by
  by_cases hdue : s.client.Due (.session session)
  · have hnext : s.next (.response session error) =
        ⟨(s.client.answered (.session session)).onCtrlResponseCb error session,
          s.succeeded⟩ := if_pos hdue
    rw [hnext]
    obtain ⟨call, hcall⟩ := exists_oldest hdue
    have hsession := h.kept.due_ne hdue
    have hdelete := h.kept.deleteSession_iff hsession
    have hcontrol := h.kept.controlSession_iff hsession
    by_cases hnewest : s.client.deletions.head? = some session ∨
      s.client.controls.head? = some session
    · have hfound : LocationAPIControlClient.Found s.client (.session session) call.request
          (.response error)
          ((s.client.answered (.session session)).onCtrlResponseCb error session) := by
        rcases hnewest with hnewest | hnewest
        · exact h.kept.response_deletion hsession (hdelete.mpr hnewest) hcall error
        · exact h.kept.response_control hsession (hcontrol.mpr hnewest) hcall error
      refine ⟨fun _ => ?_, fun _ _ => hnewest⟩
      refine ⟨hfound.kept, served_found h.served hcall hfound, ?_, h.distinct⟩
      exact fun request hrequest => hfound.counted.symm ▸ h.counted request hrequest
    · obtain ⟨hdeletions, hcontrols⟩ := not_or.mp hnewest
      have heq := LocationAPIControlClient.response_of_ne
        (c := s.client.answered (.session session)) (mt hdelete.mp hdeletions)
        (mt hcontrol.mp hcontrols) error
      rw [heq]
      refine ⟨fun hfits => absurd (hfits hdue) hnewest, fun hserved => ?_⟩
      exact absurd hserved
        (not_served_settled h.served hcall rfl LocationAPIControlClient.unanswered_answered)
  · have hnext : s.next (.response session error) = s := if_neg hdue
    rw [hnext]
    exact ⟨fun _ => h, fun _ hdue' => absurd hdue' hdue⟩

theorem collectiveResponse_step (ids : IdArray) (errors : List LocationError) :
    (s.Fits (.collectiveResponse ids errors) → (s.next (.collectiveResponse ids errors)).Inv) ∧
      ((s.next (.collectiveResponse ids errors)).Served →
        s.Fits (.collectiveResponse ids errors)) := by
  by_cases hdue : s.client.Due (.array ids.ids)
  · have hnext : s.next (.collectiveResponse ids errors) =
        ⟨(s.client.answered (.array ids.ids)).onCtrlCollectiveResponseCb errors ids,
          s.succeeded⟩ := if_pos hdue
    rw [hnext]
    obtain ⟨call, hcall⟩ := exists_oldest hdue
    have heq := LocationAPIControlClient.collectiveResponse_eq
      (c := s.client.answered (.array ids.ids)) h.kept.updateArray h.kept.getArray errors ids
    rw [heq]
    refine ⟨fun hfits => absurd hdue hfits, fun hserved => ?_⟩
    exact absurd hserved
      (not_served_settled h.served hcall rfl LocationAPIControlClient.unanswered_answered)
  · have hnext : s.next (.collectiveResponse ids errors) = s := if_neg hdue
    rw [hnext]
    exact ⟨fun _ => h, fun _ => hdue⟩

theorem next_inv (e : ControlEvent) :
    (s.Fits e → (s.next e).Inv) ∧ ((s.next e).Served → s.Fits e) := by
  cases e with
  | gnssDeleteAidingData data session =>
    exact ⟨fun _ => h.gnssDeleteAidingData data session, fun _ => trivial⟩
  | enable techType session => exact enable_step h techType session
  | disable => exact ⟨fun _ => h.disable, fun _ => trivial⟩
  | gnssUpdateConfig config idArray => exact gnssUpdateConfig_step h config idArray
  | gnssGetConfig mask idArray => exact ⟨fun _ => h.gnssGetConfig mask idArray, fun _ => trivial⟩
  | response session error => exact response_step h session error
  | collectiveResponse ids errors => exact collectiveResponse_step h ids errors

end

theorem inv_new (created : Bool) : (new created).Inv where
  kept := LocationAPIControlClient.kept_new created
  served := by cases created <;> exact ⟨.nil, Nat.le_refl _⟩
  counted := fun _ h => nomatch h
  distinct := .nil

/-- All through a run, each call that returned success has its callback once,
when it is answered, and the queues hold no more than the calls to be
answered, if and only if every step fits. -/
theorem served_iff (created : Bool) (es : List ControlEvent) :
    StatesMeet step Served (new created) es ↔ StepsMeet step Fits (new created) es := by
  exact statesMeet_iff_stepsMeet_of_inv Inv (fun _ h => h.served)
    (fun _ e h => (next_inv h e).1) (fun _ e h => (next_inv h e).2) (inv_new created) es

/-- A configuration is updated, and LocationControlAPI answers. -/
theorem not_served_update : ¬ StatesMeet step Served (new true)
      [.gnssUpdateConfig { GnssConfig.zero with flags := 1, gpsLock := 1 } (some ⟨4096, [1]⟩),
        .collectiveResponse ⟨8192, [1]⟩ [.success]] := by
  intro h
  have hlength := h.last.length
  revert hlength
  decide

end Controlled

end LocStack.ClientBase
