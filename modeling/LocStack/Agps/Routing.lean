/-
# `LocStack.Agps.Routing` — a run of the manager is a run of each machine

A call of the manager is at most one event for each of its machines
(`eventFor`), and what a machine says for its event is what the manager
says through it.  So a run of the manager, seen from one machine, is a run
of that machine on the events routed to it (`eventsOf`), from the state it
is created in; before it is created there is no event and no output.  Every
theorem about all runs of a machine is thereby one about all runs of the
manager, for each machine (`machine_after`, `outs_nif`).
-/
import LocStack.Agps.Steps

namespace LocStack.Agps

open Base

/-- The type a machine is created with. -/
def Nif.agpsType : Nif → AGpsExtType
  | .agnss => LOC_AGPS_TYPE_SUPL
  | .internet => LOC_AGPS_TYPE_WWAN_ANY

/-- What the manager says through one machine. -/
def nifOuts (nif : Nif) (out : List ManagerOut) : List AgpsOut :=
  (out.filter fun o => o.nif = some nif).map (·.out)

@[simp] theorem nifOuts_nil (nif : Nif) : nifOuts nif [] = [] := rfl

@[simp] theorem nifOuts_append (nif : Nif) (out out' : List ManagerOut) :
    nifOuts nif (out ++ out') = nifOuts nif out ++ nifOuts nif out' := by
  simp [nifOuts]

theorem nifOuts_tagged (nif nif' : Nif) (out : List AgpsOut) :
    nifOuts nif (out.map fun o => { nif := some nif', out := o }) =
      if nif' = nif then out else [] := by
  by_cases h : nif' = nif
  · subst h
    simp [nifOuts, List.filter_map, Function.comp_def]
  · simp [nifOuts, List.filter_map, Function.comp_def, h]

namespace AgpsManager

/-- The event a call is for the machine `nif`, if there is such a machine
and the call concerns it. -/
def eventFor (m : AgpsManager) (nif : Nif) (call : AgpsCall) : Option SmEvent :=
  if (m.machine nif).isNone then none
  else
    match call with
    | .createAgpsStateMachines _ => none
    | .requestATL connHandle agpsType apnTypeMask =>
      let (agpsType, apnTypeMask) := m.requestType agpsType apnTypeMask
      if nifFor agpsType = nif then some (.subscribe connHandle agpsType apnTypeMask) else none
    | .releaseATL connHandle =>
      if (m.mAgnssNif.bind (·.getSubscriber connHandle)).isSome then
        if nif = .agnss then some (.unsubscribe connHandle) else none
      else if (m.mInternetNif.bind (·.getSubscriber connHandle)).isSome then
        if nif = .internet then some (.unsubscribe connHandle) else none
      else none
    | .reportAtlOpenSuccess agpsType apnName apnLen bearerType =>
      if nifFor agpsType = nif then some (.granted apnName apnLen bearerType) else none
    | .reportAtlOpenFailed agpsType => if nifFor agpsType = nif then some .denied else none
    | .reportAtlClosed agpsType => if nifFor agpsType = nif then some .released else none
    | .handleModemSSR => some .modemSSR

/-- The events a run of the manager routes to one machine. -/
def eventsOf (nif : Nif) : AgpsManager → List AgpsCall → List SmEvent
  | _, [] => []
  | m, call :: calls => (m.eventFor nif call).toList ++ eventsOf nif (m.step call).1 calls

@[simp] theorem machine_setMachine (m : AgpsManager) (nif nif' : Nif) (sm : AgpsStateMachine) :
    (m.setMachine nif' sm).machine nif = if nif' = nif then some sm else m.machine nif := by
  cases nif <;> cases nif' <;> rfl

theorem dispatch_machine (m : AgpsManager) (nif nif' : Nif) (e : SmEvent) :
    (m.dispatch nif' e).1.machine nif =
        (if nif' = nif then (m.machine nif).map (fun sm => (sm.step e).1) else m.machine nif) ∧
      nifOuts nif (m.dispatch nif' e).2 =
        if nif' = nif then ((m.machine nif).map (fun sm => (sm.step e).2)).getD [] else [] := by
  unfold dispatch
  cases hm : m.machine nif' with
  | none =>
    by_cases h : nif' = nif
    · subst h; simp [hm]
    · simp [h]
  | some sm =>
    by_cases h : nif' = nif
    · subst h; simp [hm, nifOuts_tagged]
    · simp [h, nifOuts_tagged]

/-- Creation fills a missing machine or leaves it missing; it never touches
one that is there. -/
theorem createAgpsStateMachines_machine (m : AgpsManager) (atlType : BitVec 32) (nif : Nif) :
    (m.createAgpsStateMachines atlType).machine nif = m.machine nif ∨ m.machine nif = none ∧
        (m.createAgpsStateMachines atlType).machine nif = some (.new nif.agpsType) := by
  unfold createAgpsStateMachines
  by_cases hc : m.mInternetNif.isNone = true ∧ atlType &&& AGPS_ATL_TYPE_WWAN ≠ 0
  · cases nif with
    | agnss =>
      simp only [machine, if_pos hc]
      split
      · rename_i h
        exact Or.inr ⟨Option.isNone_iff_eq_none.mp h.2.1, rfl⟩
      · exact Or.inl rfl
    | internet =>
      right
      simp only [machine, if_pos hc]
      refine ⟨Option.isNone_iff_eq_none.mp hc.1, ?_⟩
      split <;> rfl
  · cases nif with
    | agnss =>
      simp only [machine, if_neg hc]
      split
      · rename_i h
        exact Or.inr ⟨Option.isNone_iff_eq_none.mp h.2.1, rfl⟩
      · exact Or.inl rfl
    | internet =>
      left
      simp only [machine, if_neg hc]
      split <;> rfl

variable {m : AgpsManager} {nif : Nif} {sm : AgpsStateMachine}

/-- One call, seen from a machine that exists: its event, if the call is one
for it, and nothing otherwise. -/
theorem step_machine (hm : m.machine nif = some sm) (call : AgpsCall) :
    (m.step call).1.machine nif = some (after AgpsStateMachine.step sm
        (m.eventFor nif call).toList) ∧
      nifOuts nif (m.step call).2 =
        outs AgpsStateMachine.step sm (m.eventFor nif call).toList := by
  have hsome : ¬ (m.machine nif).isNone = true := by simp [hm]
  have hdisp := fun nif' e => m.dispatch_machine nif nif' e
  cases call with
  | createAgpsStateMachines atlType =>
    refine ⟨?_, by simp [AgpsManager.step, eventFor]⟩
    rcases m.createAgpsStateMachines_machine atlType nif with hkeep | ⟨hnone, -⟩
    · simpa [AgpsManager.step, eventFor] using hkeep.trans hm
    · rw [hm] at hnone; cases hnone
  | requestATL h t mask =>
    simp only [AgpsManager.step, AgpsManager.requestATL, eventFor, if_neg hsome]
    generalize m.requestType t mask = req
    obtain ⟨t', mask'⟩ := req
    cases hm' : m.machine (nifFor t') with
    | none =>
      have hne : nifFor t' ≠ nif := by
        rintro rfl
        rw [hm] at hm'
        cases hm'
      simp [hne, hm, nifOuts]
    | some sm' =>
      simp only [(hdisp _ _).1, (hdisp _ _).2, hm]
      by_cases hn : nifFor t' = nif
      · simp [hn]
      · simp [hn]
  | releaseATL h =>
    simp only [AgpsManager.step, AgpsManager.releaseATL, eventFor, if_neg hsome]
    split
    · simp only [(hdisp _ _).1, (hdisp _ _).2, hm]
      cases nif <;> simp
    · split
      · simp only [(hdisp _ _).1, (hdisp _ _).2, hm]
        cases nif <;> simp
      · simp [hm]
  | reportAtlOpenSuccess t apn len b =>
    simp only [AgpsManager.step, eventFor, (hdisp _ _).1, (hdisp _ _).2, hm]
    by_cases hn : nifFor t = nif
    · simp [hn]
    · simp [hn]
  | reportAtlOpenFailed t =>
    simp only [AgpsManager.step, eventFor, (hdisp _ _).1, (hdisp _ _).2, hm]
    by_cases hn : nifFor t = nif
    · simp [hn]
    · simp [hn]
  | reportAtlClosed t =>
    simp only [AgpsManager.step, eventFor, (hdisp _ _).1, (hdisp _ _).2, hm]
    by_cases hn : nifFor t = nif
    · simp [hn]
    · simp [hn]
  | handleModemSSR =>
    have hssr := (m.dispatch .agnss .modemSSR).1.dispatch_machine nif .internet .modemSSR
    simp only [AgpsManager.step, AgpsManager.handleModemSSR, eventFor,
      nifOuts_append, hssr.1, hssr.2, (hdisp _ _).1, (hdisp _ _).2, hm]
    cases nif <;> simp

theorem step_no_machine (hm : m.machine nif = none) (call : AgpsCall) :
    ((m.step call).1.machine nif = none ∨ (m.step call).1.machine nif = some (.new nif.agpsType)) ∧
      nifOuts nif (m.step call).2 = [] ∧ m.eventFor nif call = none := by
  have hdisp := fun nif' e => m.dispatch_machine nif nif' e
  refine ⟨?_, ?_, by simp [eventFor, hm]⟩
  · cases call with
    | createAgpsStateMachines atlType =>
      rcases m.createAgpsStateMachines_machine atlType nif with hkeep | ⟨-, hnew⟩
      · exact Or.inl (hkeep.trans hm)
      · exact Or.inr hnew
    | requestATL h t mask =>
      left
      simp only [AgpsManager.step, AgpsManager.requestATL]
      split
      · exact hm
      · rw [(hdisp _ _).1, hm]; simp
    | releaseATL h =>
      left
      simp only [AgpsManager.step, AgpsManager.releaseATL]
      split
      · rw [(hdisp _ _).1, hm]; simp
      · split
        · rw [(hdisp _ _).1, hm]; simp
        · exact hm
    | reportAtlOpenSuccess t apn len b => left; rw [AgpsManager.step, (hdisp _ _).1, hm]; simp
    | reportAtlOpenFailed t => left; rw [AgpsManager.step, (hdisp _ _).1, hm]; simp
    | reportAtlClosed t => left; rw [AgpsManager.step, (hdisp _ _).1, hm]; simp
    | handleModemSSR =>
      left
      have hssr := (m.dispatch .agnss .modemSSR).1.dispatch_machine nif .internet .modemSSR
      simp only [AgpsManager.step, AgpsManager.handleModemSSR, hssr.1, (hdisp _ _).1, hm]
      simp
  · cases call with
    | createAgpsStateMachines atlType => rfl
    | requestATL h t mask =>
      simp only [AgpsManager.step, AgpsManager.requestATL]
      split
      · simp [nifOuts]
      · rw [(hdisp _ _).2, hm]; simp
    | releaseATL h =>
      simp only [AgpsManager.step, AgpsManager.releaseATL]
      split
      · rw [(hdisp _ _).2, hm]; simp
      · split
        · rw [(hdisp _ _).2, hm]; simp
        · rfl
    | reportAtlOpenSuccess t apn len b => rw [AgpsManager.step, (hdisp _ _).2, hm]; simp
    | reportAtlOpenFailed t => rw [AgpsManager.step, (hdisp _ _).2, hm]; simp
    | reportAtlClosed t => rw [AgpsManager.step, (hdisp _ _).2, hm]; simp
    | handleModemSSR =>
      have hssr := (m.dispatch .agnss .modemSSR).1.dispatch_machine nif .internet .modemSSR
      simp only [AgpsManager.step, AgpsManager.handleModemSSR, nifOuts_append, hssr.2,
        (hdisp _ _).1, (hdisp _ _).2, hm]
      simp

/-! ## Whole runs -/

theorem run_machine (calls : List AgpsCall) (hm : m.machine nif = some sm) :
    (after AgpsManager.step m calls).machine nif =
        some (after AgpsStateMachine.step sm (eventsOf nif m calls)) ∧
      nifOuts nif (outs AgpsManager.step m calls) =
        outs AgpsStateMachine.step sm (eventsOf nif m calls) := by
  induction calls generalizing m sm with
  | nil => exact ⟨hm, rfl⟩
  | cons call calls ih =>
    obtain ⟨hstate, hout⟩ := step_machine hm call
    obtain ⟨ihs, iho⟩ := ih hstate
    simp only [after_cons, outs_cons, eventsOf, after_append, outs_append, nifOuts_append]
    exact ⟨ihs, by rw [hout, iho]⟩

theorem run_no_machine (calls : List AgpsCall) (hm : m.machine nif = none) :
    ((after AgpsManager.step m calls).machine nif = none ∨
        (after AgpsManager.step m calls).machine nif =
          some (after AgpsStateMachine.step (.new nif.agpsType) (eventsOf nif m calls))) ∧
      nifOuts nif (outs AgpsManager.step m calls) =
        outs AgpsStateMachine.step (.new nif.agpsType) (eventsOf nif m calls) := by
  induction calls generalizing m with
  | nil => exact ⟨Or.inl hm, rfl⟩
  | cons call calls ih =>
    obtain ⟨hstate, hout, hev⟩ := step_no_machine hm call
    simp only [after_cons, outs_cons, eventsOf, nifOuts_append, hout, hev, Option.toList_none,
      List.nil_append]
    rcases hstate with hnone | hnew
    · exact ih hnone
    · obtain ⟨hs, ho⟩ := run_machine calls hnew
      exact ⟨Or.inr hs, ho⟩

theorem machine_after (conf : GpsConf) (calls : List AgpsCall)
    (h : (after AgpsManager.step (.new conf) calls).machine nif = some sm) :
    sm = after AgpsStateMachine.step (.new nif.agpsType) (eventsOf nif (.new conf) calls) := by
  have hm : (AgpsManager.new conf).machine nif = none := by cases nif <;> rfl
  rcases (run_no_machine calls hm).1 with hnone | hsome
  · rw [hnone] at h; cases h
  · rw [hsome] at h; exact (Option.some.inj h).symm

theorem eventsOf_eq_nil (calls : List AgpsCall) (hm : m.machine nif = none)
    (h : (after AgpsManager.step m calls).machine nif = none) : eventsOf nif m calls = [] := by
  induction calls generalizing m with
  | nil => rfl
  | cons call calls ih =>
    obtain ⟨hstate, -, hev⟩ := step_no_machine hm call
    rw [eventsOf, hev]
    rcases hstate with hnone | hnew
    · exact ih hnone h
    · -- a machine that is created stays
      have hsome := (run_machine calls hnew).1.symm.trans h
      cases hsome

theorem outs_nif (conf : GpsConf) (calls : List AgpsCall) (nif : Nif) :
    nifOuts nif (outs AgpsManager.step (.new conf) calls) =
      outs AgpsStateMachine.step (.new nif.agpsType) (eventsOf nif (.new conf) calls) :=
  (run_no_machine calls (by cases nif <;> rfl)).2

/-- The manager is its machines, and no more: each is missing, as long as there
is no event for it, or in the state of its own run on the events for it; that
state is well formed; and through it the manager has said what that run says. -/
theorem run_refines (conf : GpsConf) (calls : List AgpsCall) (nif : Nif) :
    let m := after AgpsManager.step (.new conf) calls
    let es := eventsOf nif (.new conf) calls
    let sm := after AgpsStateMachine.step (.new nif.agpsType) es
    (m.machine nif = none ∧ es = [] ∨ m.machine nif = some sm) ∧ sm.WellFormed ∧
      nifOuts nif (outs AgpsManager.step (.new conf) calls) =
        outs AgpsStateMachine.step (.new nif.agpsType) es := by
  intro m es sm
  have hm : (AgpsManager.new conf).machine nif = none := by cases nif <;> rfl
  obtain ⟨hstate, hout⟩ := run_no_machine calls hm
  refine ⟨?_, AgpsStateMachine.wellFormed_after _ es, hout⟩
  rcases hstate with hnone | hsome
  · exact .inl ⟨hnone, eventsOf_eq_nil calls hm hnone⟩
  · exact .inr hsome

end AgpsManager

end LocStack.Agps
