/-
# `LocStack.LocApi.ElapsedTime` — fixes in boot time

ElapsedRealtimeEstimator says at what time since boot a fix was made.  It keeps
how far the AP's clock is from the modem's, and moves that on by as much as the
AP's clock was set between two fixes that it trusts:

    estimate  =  reported time + mCurrentClockDiff - (utc - boot)

so that from the fix on that made it stable the sum behind the time is the same.
-/
import LocStack.Base.Run

namespace LocStack.LocApi

open Base

structure ElapsedRealtimeEstimator where
  (mCurrentClockDiff mPrevDataTimeNanos mPrevUtcTimeNanos mPrevBootTimeNanos : Int)
  (mFixTimeStablizationThreshold mInitialTravelTime : Int)

/-- A fix, and what the clocks of the AP read; `none` if one of them cannot be read. -/
structure EstimatedFix where
  curDataTimeNanos : Int
  isCurDataTimeTrustable : Bool
  tbf : Int
  /-- of the day, and since boot -/
  currentTime : Option (Int × Int)

namespace ElapsedRealtimeEstimator

variable (e : ElapsedRealtimeEstimator) (fix : EstimatedFix)

/-- The data time has jumped. -/
def Jumps : Prop := fix.tbf > 0 ∧ fix.tbf ≠ fix.curDataTimeNanos - e.mPrevDataTimeNanos
  deriving Decidable

def getElapsedRealtimeEstimateNanos : ElapsedRealtimeEstimator × Int :=
  match fix.currentTime with
  | none => (e, -1)
  | some (currentTimeNanos, sinceBootTimeNanos) =>
    if fix.isCurDataTimeTrustable then
      let threshold := if e.Jumps fix then 5 else e.mFixTimeStablizationThreshold
      let (mCurrentClockDiff, currentTravelTimeNanos) :=
        if threshold = 0 then
          (currentTimeNanos - fix.curDataTimeNanos - e.mInitialTravelTime, e.mInitialTravelTime)
        else if threshold < 0 then
          let mCurrentClockDiff := e.mCurrentClockDiff + (currentTimeNanos - sinceBootTimeNanos) -
            (e.mPrevUtcTimeNanos - e.mPrevBootTimeNanos)
          (mCurrentClockDiff, currentTimeNanos - fix.curDataTimeNanos - mCurrentClockDiff)
        else (e.mCurrentClockDiff, e.mInitialTravelTime)
      ({ e with
          mCurrentClockDiff
          mPrevUtcTimeNanos := currentTimeNanos
          mPrevBootTimeNanos := sinceBootTimeNanos
          mPrevDataTimeNanos := fix.curDataTimeNanos
          mFixTimeStablizationThreshold := threshold - 1 },
        sinceBootTimeNanos - currentTravelTimeNanos)
    else (e, sinceBootTimeNanos - e.mInitialTravelTime)

/-- A fix with what is returned for it, if it is trusted and there is a time. -/
def step : ElapsedRealtimeEstimator × List (EstimatedFix × Int) :=
  let r := e.getElapsedRealtimeEstimateNanos fix
  (r.1, if fix.isCurDataTimeTrustable && fix.currentTime.isSome then [(fix, r.2)] else [])

/-- A trusted fix does not start the estimator anew. -/
def Steady : Prop := fix.isCurDataTimeTrustable → ¬ e.Jumps fix
  deriving Decidable

/-- What is added to a reported time. -/
def offset : Int := e.mCurrentClockDiff - (e.mPrevUtcTimeNanos - e.mPrevBootTimeNanos)

variable {e : ElapsedRealtimeEstimator} {fix : EstimatedFix} {fixes : List EstimatedFix}

/-- What a fix does: nothing, or its estimate has the offset that is there
behind it, which is the one before if there was one. -/
theorem step_cases (hsteady : e.Steady fix) (h : e.mFixTimeStablizationThreshold ≤ 0) :
    e.step fix = (e, []) ∨ ∃ e', e.step fix = (e', [(fix, fix.curDataTimeNanos + e'.offset)]) ∧
        e'.mFixTimeStablizationThreshold < 0 ∧
        (e.mFixTimeStablizationThreshold < 0 → e'.offset = e.offset) := by
  cases htrust : fix.isCurDataTimeTrustable with
  | false => cases htime : fix.currentTime <;>
      simp [step, getElapsedRealtimeEstimateNanos, htrust, htime]
  | true =>
    cases htime : fix.currentTime with
    | none => simp [step, getElapsedRealtimeEstimateNanos, htrust, htime]
    | some time =>
      have hjump := hsteady htrust
      refine .inr ⟨(e.step fix).1, ?_⟩
      by_cases hzero : e.mFixTimeStablizationThreshold = 0
      · simp [step, getElapsedRealtimeEstimateNanos, htrust, htime, hjump, hzero, offset]
        omega
      · have hneg : e.mFixTimeStablizationThreshold < 0 := by omega
        simp [step, getElapsedRealtimeEstimateNanos, htrust, htime, hjump, hzero, hneg, offset]
        omega

theorem estimate_eq_of_stable (h : e.mFixTimeStablizationThreshold < 0)
    (hrun : StepsMeet step Steady e fixes) :
    ∀ r ∈ outs step e fixes, r.2 = r.1.curDataTimeNanos + e.offset := by
  refine forall_outs_of_stepsMeet
    (P := fun s => s.mFixTimeStablizationThreshold < 0 ∧ s.offset = e.offset) ?_ ?_ ⟨h, rfl⟩ hrun
  · intro s fix hs hsteady
    rcases step_cases hsteady (Int.le_of_lt hs.1) with heq | ⟨s', heq, hneg, hoffset⟩
    · rw [heq]
      exact hs
    · rw [heq]
      exact ⟨hneg, (hoffset hs.1).trans hs.2⟩
  · intro s fix hs hsteady r hr
    rcases step_cases hsteady (Int.le_of_lt hs.1) with heq | ⟨s', heq, -, hoffset⟩
    · simp [heq] at hr
    · simp [heq] at hr
      simp [hr, hoffset hs.1, hs.2]

theorem exists_estimate_eq (h : e.mFixTimeStablizationThreshold ≤ 0)
    (hrun : StepsMeet step Steady e fixes) :
    ∃ offset, ∀ r ∈ outs step e fixes, r.2 = r.1.curDataTimeNanos + offset := by
  induction fixes with
  | nil => simp
  | cons fix fixes ih =>
    obtain ⟨hsteady, hrest⟩ := hrun
    rcases step_cases hsteady h with heq | ⟨e', heq, hneg, -⟩
    · simp only [heq] at hrest
      simpa [heq] using ih hrest
    · simp only [heq] at hrest
      have hstable := estimate_eq_of_stable hneg hrest
      exact ⟨e'.offset, by simpa [heq] using hstable⟩

/-- Estimates differ as the reported times do, whatever the clock of the AP was
set to and however many other fixes there were. -/
theorem estimates_differ_as_data (h : e.mFixTimeStablizationThreshold ≤ 0)
    (hrun : StepsMeet step Steady e fixes) :
    ∀ a ∈ outs step e fixes, ∀ b ∈ outs step e fixes,
      b.2 - a.2 = b.1.curDataTimeNanos - a.1.curDataTimeNanos := by
  obtain ⟨offset, hall⟩ := exists_estimate_eq h hrun
  intro a ha b hb
  rw [hall a ha, hall b hb]
  omega

/-- The clock is set between two fixes, of which the second comes behind another. -/
theorem estimates_differ_clockSet :
    let e : ElapsedRealtimeEstimator := ⟨0, 0, 0, 0, 0, 5⟩
    let fixes := [⟨1000, true, 0, some (9000, 200)⟩, ⟨1700, false, 0, some (9500, 700)⟩,
      ⟨2000, true, 1000, some (3000, 1300)⟩]
    ∀ a ∈ outs step e fixes, ∀ b ∈ outs step e fixes,
      b.2 - a.2 = b.1.curDataTimeNanos - a.1.curDataTimeNanos :=
  estimates_differ_as_data (by decide) (by decide)

end ElapsedRealtimeEstimator

end LocStack.LocApi
