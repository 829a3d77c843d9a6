/-
# `LocStack.Batching.FailedStop` — a stop that the engine refuses

stopBatching erases the session, assumes that the stop will be OK and says it
restores the session if not.  The closure captures the options that the session
had and those that it may be restarted with, and restores the wrong ones:

    flpOptions      of the session, read to unregister the event
    batchOptions    of the restart, and saved: BatchingOptions() for a stop

`failedStop_iff`: the session is as it was before if and only if the two are the
same.  Without the engine lock a failed stop counts as done; then the session is
back only by the restart, or because it was started again meanwhile.
-/
import LocStack.Batching.Model

namespace LocStack.Batching.BatchingAdapter

open Base
open Adapter (EngineLockState)
open Tracking (LocationError LocationSessionKey)

variable {s : BatchingAdapter} {key : LocationSessionKey}
  {flpOptions batchOptions : BatchingOptions}

/-- The session is stored by its restart. -/
def restartStores (s : BatchingAdapter) (batchOptions : BatchingOptions) : Bool :=
  match batchOptions.batchingMode with
  | .routine | .noAutoReport => true
  | .trip => s.mTripSessions.size = 0
  | .other => false

/-- When the stop fails in `s`, the options that are stored for the session are
those it had: its own are the ones that are saved, or it is there without
that. -/
def RestoresStopped (s : BatchingAdapter) (key : LocationSessionKey)
    (flpOptions : BatchingOptions) (restartNeeded : Bool) (batchOptions : BatchingOptions) : Prop :=
  if s.engineLockState = .enabled ∨ (restartNeeded ∧ s.restartStores batchOptions) then
    batchOptions = flpOptions
  else s.mBatchingSessions[key]? = some flpOptions

theorem getElem?_restartAs (s : BatchingAdapter) (key : LocationSessionKey)
    (options : BatchingOptions) :
    (s.restartAs key options).mBatchingSessions[key]? =
      if s.restartStores options then some options else s.mBatchingSessions[key]? := by
  have hsaved : ∀ t : BatchingAdapter,
      (t.saveBatchingSession key options).mBatchingSessions[key]? = some options :=
    fun t => (t.getElem?_saveBatchingSession ..).trans (if_pos rfl)
  rcases options with ⟨size, minInterval, minDistance, mode, mask, batchingMode⟩
  cases batchingMode with
  | routine => exact hsaved _
  | noAutoReport => exact hsaved _
  | other => rfl
  | trip =>
    simp only [restartAs, restartStores, startTripBatchingMultiplex, decide_eq_true_iff]
    split
    · exact hsaved _
    · rfl

theorem getElem?_stopBatchingResponse {err : LocationError} (herr : err ≠ .success)
    (restartNeeded : Bool) :
    (s.stopBatchingResponse key flpOptions restartNeeded batchOptions err).1.mBatchingSessions[key]?
        = some flpOptions ↔
      s.RestoresStopped key flpOptions restartNeeded batchOptions := by
  unfold stopBatchingResponse RestoresStopped
  by_cases hlock : s.engineLockState = .enabled
  · rw [if_pos ⟨hlock, herr⟩, if_pos (Or.inl hlock)]
    rw [getElem?_saveBatchingSession, if_pos rfl, Option.some.injEq]
  · rw [if_neg fun h => hlock h.1]
    have hunregistered : ∃ batchFull,
        (if flpOptions.batchingMode ≠ .noAutoReport then s.unregisterIfNone else s) =
          { s with batchFull } := by
      split
      · exact ⟨_, s.unregisterIfNone_eq⟩
      · exact ⟨_, rfl⟩
    obtain ⟨batchFull, hs⟩ := hunregistered
    simp only [hs, hlock, false_or]
    cases restartNeeded with
    | false => rfl
    | true =>
      simp only [if_true, true_and, getElem?_restartAs]
      change (if s.restartStores batchOptions = true then _ else _) = _ ↔ _
      split
      · rw [Option.some.injEq]
      · rfl

/-- A session is stopped in `s`, whatever happens next, and then the engine
answers that it failed: whether its entry is the one that it had. -/
theorem failedStop_iff (h : s.mBatchingSessions[key]? = some flpOptions) (restartNeeded : Bool)
    (batchOptions : BatchingOptions) (es : List BatchingEvent) :
    let t := after step (s.stopBatching key restartNeeded batchOptions) es
    ∀ n, t.unanswered[n]? = some (.stopBatching key flpOptions restartNeeded batchOptions) →
      ∀ err ≠ LocationError.success, ∀ data,
        ((step t (.response n err data)).1.mBatchingSessions[key]? = s.mBatchingSessions[key]? ↔
          t.RestoresStopped key flpOptions restartNeeded batchOptions) := by
  intro t n hcall err herr data
  rw [h]
  simp only [step, hcall]
  exact getElem?_stopBatchingResponse (s := t.answered n _ err) herr restartNeeded

/-- A session in routine mode, every second. -/
def routineOptions : BatchingOptions := ⟨10, 1000, 0, .standalone, 0, .routine⟩

def oneRoutine : BatchingAdapter := new.saveBatchingSession ⟨1, 1⟩ routineOptions

theorem failedStop_sameOptions : (step (oneRoutine.stopBatching ⟨1, 1⟩ true routineOptions)
        (.response 0 .generalFailure 0)).1.mBatchingSessions[(⟨1, 1⟩ : LocationSessionKey)]? =
      oneRoutine.mBatchingSessions[(⟨1, 1⟩ : LocationSessionKey)]? :=
  (failedStop_iff (s := oneRoutine) rfl true routineOptions [] 0 rfl _ (by decide) 0).mpr rfl

theorem not_failedStop_plain : (step (oneRoutine.proc (.stopBatching ⟨1, 1⟩)).1
        (.response 0 .generalFailure 0)).1.mBatchingSessions[(⟨1, 1⟩ : LocationSessionKey)]? ≠
      oneRoutine.mBatchingSessions[(⟨1, 1⟩ : LocationSessionKey)]? := by
  decide

end LocStack.Batching.BatchingAdapter
