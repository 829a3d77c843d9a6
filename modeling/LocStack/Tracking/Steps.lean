/-
# `LocStack.Tracking.Steps` — what each operation of GnssAdapter changes

Reports and the power state never matter to the sessions, and the calls
about the time based fix never touch the maps: `SameButFix` is the frame of
those calls, `fix_*` what becomes of the fix.  With these the commands are
read as a few changes of four things,

    mTimeBasedTrackingSessions, mDistanceBasedTrackingSessions,
    what LocApi was last told, and `pending`,

`pending` being the unanswered calls whose answers change the distance based
sessions.  Their keys are `ResponseFn.switches`.
-/
import Mathlib.Data.List.Perm.Basic
import LocStack.Tracking.Model

namespace LocStack.Tracking

open List

open Adapter (EngineLockState)

/-! ## Reports -/

namespace GnssAdapter

variable {a : GnssAdapter} {key : LocationSessionKey} {err : LocationError}

theorem reportResponse_eq (a : GnssAdapter) (key : LocationSessionKey) (err : LocationError) :
    a.reportResponse key err = { a with reports := (a.reportResponse key err).reports } := by
  simp only [reportResponse]
  split
  · split <;> rfl
  · rfl

@[simp] theorem reportResponse_timeBased : (a.reportResponse key err).mTimeBasedTrackingSessions
    = a.mTimeBasedTrackingSessions := by
  rw [reportResponse_eq]

@[simp] theorem reportResponse_distanceBased :
    (a.reportResponse key err).mDistanceBasedTrackingSessions
      = a.mDistanceBasedTrackingSessions := by
  rw [reportResponse_eq]

@[simp] theorem reportResponse_supported :
    (a.reportResponse key err).isMessageSupported = a.isMessageSupported := by
  rw [reportResponse_eq]

@[simp] theorem reportResponse_nHzNeeded :
    (a.reportResponse key err).mNHzNeeded = a.mNHzNeeded := by
  rw [reportResponse_eq]

@[simp] theorem reportResponse_spe : (a.reportResponse key err).mSPEAlreadyRunningAtHighestInterval
    = a.mSPEAlreadyRunningAtHighestInterval := by
  rw [reportResponse_eq]

@[simp] theorem reportResponse_locApi : (a.reportResponse key err).mLocApi = a.mLocApi := by
  rw [reportResponse_eq]

variable {b : Bool}

@[simp] theorem reportIf_timeBased :
    (a.reportIf b key).mTimeBasedTrackingSessions = a.mTimeBasedTrackingSessions := by
  simp only [reportIf]
  split <;> simp

@[simp] theorem reportIf_distanceBased :
    (a.reportIf b key).mDistanceBasedTrackingSessions = a.mDistanceBasedTrackingSessions := by
  simp only [reportIf]
  split <;> simp

@[simp] theorem reportIf_supported :
    (a.reportIf b key).isMessageSupported = a.isMessageSupported := by
  simp only [reportIf]
  split <;> simp

@[simp] theorem reportIf_nHzNeeded : (a.reportIf b key).mNHzNeeded = a.mNHzNeeded := by
  simp only [reportIf]
  split <;> simp

@[simp] theorem reportIf_spe : (a.reportIf b key).mSPEAlreadyRunningAtHighestInterval
      = a.mSPEAlreadyRunningAtHighestInterval := by
  simp only [reportIf]
  split <;> simp

@[simp] theorem reportIf_locApi : (a.reportIf b key).mLocApi = a.mLocApi := by
  simp only [reportIf]
  split <;> simp

/-! ## Saving and erasing -/

theorem reportPowerStateIfChanged_eq (a : GnssAdapter) : a.reportPowerStateIfChanged = { a with
        mPowerOn := a.reportPowerStateIfChanged.mPowerOn
        reports := a.reportPowerStateIfChanged.reports } := by
  simp only [reportPowerStateIfChanged]
  split <;> rfl

section Save

variable {options : TrackingOptions}

@[simp] theorem saveTrackingSession_timeBased :
    (a.saveTrackingSession key options).mTimeBasedTrackingSessions
      = if a.isDistanceBased options then a.mTimeBasedTrackingSessions
        else a.mTimeBasedTrackingSessions.insert key options := by
  simp only [saveTrackingSession]
  split <;> rw [reportPowerStateIfChanged_eq]

@[simp] theorem saveTrackingSession_distanceBased :
    (a.saveTrackingSession key options).mDistanceBasedTrackingSessions
      = if a.isDistanceBased options then
          a.mDistanceBasedTrackingSessions.insert key options.toLocationOptions
        else a.mDistanceBasedTrackingSessions := by
  simp only [saveTrackingSession]
  split <;> rw [reportPowerStateIfChanged_eq]

@[simp] theorem saveTrackingSession_supported :
    (a.saveTrackingSession key options).isMessageSupported = a.isMessageSupported := by
  simp only [saveTrackingSession]
  split <;> rw [reportPowerStateIfChanged_eq]

@[simp] theorem saveTrackingSession_nHzNeeded :
    (a.saveTrackingSession key options).mNHzNeeded = a.mNHzNeeded := by
  simp only [saveTrackingSession]
  split <;> rw [reportPowerStateIfChanged_eq]

@[simp] theorem saveTrackingSession_spe :
    (a.saveTrackingSession key options).mSPEAlreadyRunningAtHighestInterval
      = a.mSPEAlreadyRunningAtHighestInterval := by
  simp only [saveTrackingSession]
  split <;> rw [reportPowerStateIfChanged_eq]

@[simp] theorem saveTrackingSession_locApi :
    (a.saveTrackingSession key options).mLocApi = a.mLocApi := by
  simp only [saveTrackingSession]
  split <;> rw [reportPowerStateIfChanged_eq]

@[simp] theorem eraseTrackingSession_timeBased :
    (a.eraseTrackingSession key).mTimeBasedTrackingSessions
      = if a.isTimeBasedTrackingSession key then a.mTimeBasedTrackingSessions.erase key
        else a.mTimeBasedTrackingSessions := by
  simp only [eraseTrackingSession]
  split <;> rw [reportPowerStateIfChanged_eq]

@[simp] theorem eraseTrackingSession_distanceBased :
    (a.eraseTrackingSession key).mDistanceBasedTrackingSessions
      = if a.isTimeBasedTrackingSession key then a.mDistanceBasedTrackingSessions
        else a.mDistanceBasedTrackingSessions.erase key := by
  simp only [eraseTrackingSession]
  split <;> rw [reportPowerStateIfChanged_eq]

@[simp] theorem eraseTrackingSession_supported :
    (a.eraseTrackingSession key).isMessageSupported = a.isMessageSupported := by
  simp only [eraseTrackingSession]
  split <;> rw [reportPowerStateIfChanged_eq]

@[simp] theorem eraseTrackingSession_nHzNeeded :
    (a.eraseTrackingSession key).mNHzNeeded = a.mNHzNeeded := by
  simp only [eraseTrackingSession]
  split <;> rw [reportPowerStateIfChanged_eq]

@[simp] theorem eraseTrackingSession_spe :
    (a.eraseTrackingSession key).mSPEAlreadyRunningAtHighestInterval
      = a.mSPEAlreadyRunningAtHighestInterval := by
  simp only [eraseTrackingSession]
  split <;> rw [reportPowerStateIfChanged_eq]

@[simp] theorem eraseTrackingSession_locApi :
    (a.eraseTrackingSession key).mLocApi = a.mLocApi := by
  simp only [eraseTrackingSession]
  split <;> rw [reportPowerStateIfChanged_eq]

end Save

theorem isTimeBasedTrackingSession_iff :
    a.isTimeBasedTrackingSession key = true ↔ key ∈ a.mTimeBasedTrackingSessions :=
  Std.TreeMap.contains_iff_mem

theorem isDistanceBasedTrackingSession_iff :
    a.isDistanceBasedTrackingSession key = true ↔ key ∈ a.mDistanceBasedTrackingSessions :=
  Std.TreeMap.contains_iff_mem

theorem isDistanceBased_iff {options : TrackingOptions} :
    a.isDistanceBased options = true ↔ 0 < options.minDistance ∧ a.isMessageSupported = true := by
  simp [isDistanceBased]

end GnssAdapter

/-! ## Pending answers -/

/-- The session whose kind, or whose fix, an answer has yet to settle. -/
def ResponseFn.switches : ResponseFn → Option LocationSessionKey
  | .switchToTimeBased key _ | .stoppedToRestart key _ | .restarted key _
  | .stopDistanceBased key | .stopClientSession key => some key
  | .ignore | .startTimeBased _ | .updateTracking _ _ | .startDistanceBased _ | .stopFix _ => none

def LocApi.pending (api : LocApi) : List ResponseFn :=
  (api.unanswered.map (·.fn)).filter (·.switches.isSome)

namespace LocApi

variable {api : LocApi} {r : LocApiResponse}

@[simp] theorem pending_startTimeBasedTracking {options : TrackingOptions}
    {o : Option LocApiResponse} (ho : ∀ r ∈ o, r.fn.switches = none) :
    (api.startTimeBasedTracking options o).pending = api.pending := by
  cases o with
  | none => simp [pending, startTimeBasedTracking]
  | some r => simp [pending, startTimeBasedTracking, ho r rfl]

@[simp] theorem pending_stopFix (hr : r.fn.switches = none) :
    (api.stopFix r).pending = api.pending := by
  simp [pending, stopFix, hr]

theorem pending_startDistanceBasedTracking {id : Nat} {options : LocationOptions} :
    (api.startDistanceBasedTracking id options r).pending
      = api.pending ++ [r.fn].filter (·.switches.isSome) := by
  simp only [pending, startDistanceBasedTracking, map_append, filter_append]
  rfl

theorem pending_stopDistanceBasedTracking {id : Nat} :
    (api.stopDistanceBasedTracking id r).pending
      = api.pending ++ [r.fn].filter (·.switches.isSome) := by
  simp only [pending, stopDistanceBasedTracking, map_append, filter_append]
  rfl

end LocApi

variable {a : GnssAdapter} {i : Nat} {r : LocApiResponse}

@[simp] theorem GnssAdapter.take_timeBased :
    (a.take i r).mTimeBasedTrackingSessions = a.mTimeBasedTrackingSessions := rfl

@[simp] theorem GnssAdapter.take_distanceBased :
    (a.take i r).mDistanceBasedTrackingSessions = a.mDistanceBasedTrackingSessions := rfl

theorem GnssAdapter.pending_take (hr : a.mLocApi.unanswered[i]? = some r) :
    ([r.fn].filter (·.switches.isSome) ++ (a.take i r).mLocApi.pending).Perm a.mLocApi.pending := by
  obtain ⟨hi, rfl⟩ := List.getElem?_eq_some_iff.mp hr
  have hperm := getElem_cons_eraseIdx_perm hi
  have hmap := (hperm.map (·.fn)).filter (·.switches.isSome)
  rw [map_cons, ← singleton_append, filter_append] at hmap
  exact hmap

/-! ## Calls about the fix -/

/-- `b` is `a` but for the time based fix and what has been reported. -/
structure SameButFix (a b : GnssAdapter) : Prop where
  timeBased : b.mTimeBasedTrackingSessions = a.mTimeBasedTrackingSessions
  distanceBased : b.mDistanceBasedTrackingSessions = a.mDistanceBasedTrackingSessions
  supported : b.isMessageSupported = a.isMessageSupported
  nHzNeeded : b.mNHzNeeded = a.mNHzNeeded
  fixes : b.mLocApi.distanceBased = a.mLocApi.distanceBased
  pending : b.mLocApi.pending = a.mLocApi.pending

namespace SameButFix

theorem refl (a : GnssAdapter) : SameButFix a a := ⟨rfl, rfl, rfl, rfl, rfl, rfl⟩

theorem trans {a b c : GnssAdapter} (h : SameButFix a b) (h' : SameButFix b c) : SameButFix a c :=
  ⟨h'.1.trans h.1, h'.2.trans h.2, h'.3.trans h.3, h'.4.trans h.4, h'.5.trans h.5, h'.6.trans h.6⟩

end SameButFix

namespace GnssAdapter

variable {a : GnssAdapter} {key : LocationSessionKey}

theorem reportResponse_same {err : LocationError} : SameButFix a (a.reportResponse key err) := by
  constructor <;> simp

variable {out options : TrackingOptions}

theorem checkAndSetSPEToRunforNHz_same : SameButFix a (a.checkAndSetSPEToRunforNHz out).1 := by
  simp only [checkAndSetSPEToRunforNHz]
  split
  · exact .refl a
  · split
    · exact .refl a
    · split
      · exact ⟨rfl, rfl, rfl, rfl, rfl, rfl⟩
      · exact .refl a

@[simp] theorem checkAndSetSPEToRunforNHz_locApi :
    (a.checkAndSetSPEToRunforNHz out).1.mLocApi = a.mLocApi := by
  simp only [checkAndSetSPEToRunforNHz]
  split
  · rfl
  · split
    · rfl
    · split <;> rfl

theorem runTimeBased_same {fn : ResponseFn} (hfn : fn.switches = none) :
    SameButFix a (a.runTimeBased key options fn) := by
  have hspe : SameButFix a (a.checkAndSetSPEToRunforNHz options).1 :=
    checkAndSetSPEToRunforNHz_same
  simp only [runTimeBased]
  split
  case h_1 a' _ h =>
    rw [h] at hspe
    exact hspe.trans reportResponse_same
  case h_2 a' options' h =>
    rw [h] at hspe
    refine hspe.trans ⟨rfl, rfl, rfl, rfl, rfl, ?_⟩
    exact LocApi.pending_startTimeBasedTracking fun r hr => by
      obtain rfl := Option.mem_some.mp hr
      exact hfn

theorem stopTracking_same : SameButFix a (a.stopTracking key) :=
  ⟨rfl, rfl, rfl, rfl, rfl, LocApi.pending_stopFix rfl⟩

theorem startTimeBasedTrackingMultiplex_same :
    SameButFix a (a.startTimeBasedTrackingMultiplex key options).1 := by
  simp only [startTimeBasedTrackingMultiplex]
  split
  · exact runTimeBased_same rfl
  · split
    · exact runTimeBased_same rfl
    · exact .refl a

theorem updateTrackingMultiplex_same : SameButFix a (a.updateTrackingMultiplex key options).1 := by
  simp only [updateTrackingMultiplex]
  split
  · exact .refl a
  · split
    · split
      · exact runTimeBased_same rfl
      · split
        · exact runTimeBased_same rfl
        · exact .refl a
    · exact .refl a

theorem stopTimeBasedTrackingMultiplex_same :
    SameButFix a (a.stopTimeBasedTrackingMultiplex key).1 := by
  simp only [stopTimeBasedTrackingMultiplex]
  split
  · exact stopTracking_same
  · split
    · exact .refl a
    · split
      · exact runTimeBased_same rfl
      · exact .refl a

theorem checkAndRestartTimeBasedSession_same :
    SameButFix a a.checkAndRestartTimeBasedSession := by
  simp only [checkAndRestartTimeBasedSession]
  split
  · exact .refl a
  · have hspe : SameButFix a
        (a.checkAndSetSPEToRunforNHz (restartOptions a.mTimeBasedTrackingSessions)).1 :=
      checkAndSetSPEToRunforNHz_same
    split
    case h_1 a' _ h =>
      rw [h] at hspe
      exact hspe
    case h_2 a' options' h =>
      rw [h] at hspe
      refine hspe.trans ⟨rfl, rfl, rfl, rfl, rfl, ?_⟩
      exact LocApi.pending_startTimeBasedTracking fun r hr => absurd hr (Option.not_mem_none r)

end GnssAdapter

end LocStack.Tracking
