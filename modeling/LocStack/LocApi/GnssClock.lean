/-
# `LocStack.LocApi.GnssClock` — the discontinuities of the receiver clock

The record of an epoch has one clock, from the first GPS message.  Its time is
the frame count of the modem, and hwClockDiscontinuityCount says which of these
times can be compared:

    the session has begun since          the count is one more
    the modem has reset its clock        the count is one more
    the frame count has not grown        the count is one more

except in full power mode.  What these are told by is static: the frame count
and the resets of the last message that had both, in whatever session.  A clock
without them has no count.

`clocks_consistent`: two clocks with the same count are of one session and of
one count of resets, and the later one has the later time.
-/
import LocStack.Base.CNumbers
import LocStack.LocApi.Measurements
import LocStack.Tracking.Options
import Mathlib.Data.Rat.Defs

namespace LocStack.LocApi

open Base List
open Tracking (GnssPowerMode)

abbrev C_GPS_WEEK_UNKNOWN : UInt16 := 65535

abbrev WEEK_MSECS : Int := 60 * 60 * 24 * 7 * 1000

def MPS_TO_NSPS : Rat := 1000000000 / 299792458

def GNSS_MEASUREMENTS_CLOCK_FLAGS_LEAP_SECOND_BIT : UInt32 := 0x01

def GNSS_MEASUREMENTS_CLOCK_FLAGS_FULL_BIAS_BIT : UInt32 := 0x08

def GNSS_MEASUREMENTS_CLOCK_FLAGS_BIAS_BIT : UInt32 := 0x10

def GNSS_MEASUREMENTS_CLOCK_FLAGS_BIAS_UNCERTAINTY_BIT : UInt32 := 0x20

def GNSS_MEASUREMENTS_CLOCK_FLAGS_DRIFT_BIT : UInt32 := 0x40

def GNSS_MEASUREMENTS_CLOCK_FLAGS_DRIFT_UNCERTAINTY_BIT : UInt32 := 0x80

structure SystemTime where
  valid : Bool
  systemWeek : UInt16
  systemMsec : UInt32
  (systemClkTimeBias systemClkTimeUncMs : Rat)
  deriving DecidableEq

structure LeapSecondInfo where
  (leapSec leapSecUnc : UInt8)
  deriving DecidableEq

structure RcvrClockFrequency where
  (clockDrift clockDriftUnc : Rat)
  deriving DecidableEq

/-- The message, with what is read for the clock. -/
structure SvClockInfo extends SvMeasInfo where
  numClockResets : Option UInt32
  systemTime : SystemTime
  leapSecondInfo : Option LeapSecondInfo
  rcvrClockFrequencyInfo : Option RcvrClockFrequency
  deriving DecidableEq

/-- The floating point numbers are exact here. -/
structure GnssMeasurementsClock where
  flags : UInt32
  (leapSecond timeNs : Int)
  timeUncertaintyNs : Rat
  fullBiasNs : Int
  (biasNs biasUncertaintyNs driftNsps driftUncertaintyNsps : Rat)
  hwClockDiscontinuityCount : UInt32

namespace GnssMeasurementsClock

def zero : GnssMeasurementsClock := ⟨0, 0, 0, 0, 0, 0, 0, 0, 0, 0⟩

variable (clock : GnssMeasurementsClock)

def setTime (refFCount hwClockDiscontinuityCount : UInt32) : GnssMeasurementsClock :=
  { clock with
    timeNs := refFCount.toNat * 1000000
    hwClockDiscontinuityCount := hwClockDiscontinuityCount
    timeUncertaintyNs := 0 }

/-- The bias, where the system time is good enough; `leapSec` is what the header
of the record has. -/
def setBias (time : SystemTime) (leapSec : Option UInt8) : GnssMeasurementsClock :=
  let isTimeValid := time.systemClkTimeUncMs ≤ 16
  if time.valid = true ∧ time.systemWeek ≠ C_GPS_WEEK_UNKNOWN ∧ isTimeValid then
    let totalMs := time.systemWeek.toNat * WEEK_MSECS + time.systemMsec.toNat
    let biasNs := time.systemClkTimeBias * 1000000
    let gpsTimeNs := totalMs * 1000000 - truncate biasNs
    let clock :=
      { clock with
        fullBiasNs := clock.timeNs - gpsTimeNs
        biasNs := biasNs - truncate biasNs
        biasUncertaintyNs := time.systemClkTimeUncMs * 1000000
        flags := clock.flags ||| GNSS_MEASUREMENTS_CLOCK_FLAGS_FULL_BIAS_BIT |||
          GNSS_MEASUREMENTS_CLOCK_FLAGS_BIAS_BIT |||
          GNSS_MEASUREMENTS_CLOCK_FLAGS_BIAS_UNCERTAINTY_BIT }
    match leapSec with
    | some leapSec =>
      { clock with
        leapSecond := leapSec.toNat
        flags := clock.flags ||| GNSS_MEASUREMENTS_CLOCK_FLAGS_LEAP_SECOND_BIT }
    | none => clock
  else clock

def setDrift (frequency : Option RcvrClockFrequency) : GnssMeasurementsClock :=
  match frequency with
  | some frequency =>
    { clock with
      driftNsps := frequency.clockDrift * MPS_TO_NSPS
      driftUncertaintyNsps := frequency.clockDriftUnc * MPS_TO_NSPS
      flags := clock.flags ||| GNSS_MEASUREMENTS_CLOCK_FLAGS_DRIFT_BIT |||
        GNSS_MEASUREMENTS_CLOCK_FLAGS_DRIFT_UNCERTAINTY_BIT }
  | none => clock

theorem time_setBias (time : SystemTime) (leapSec : Option UInt8) :
    (clock.setBias time leapSec).timeNs = clock.timeNs ∧
      (clock.setBias time leapSec).hwClockDiscontinuityCount = clock.hwClockDiscontinuityCount := by
  rw [setBias]
  split
  · cases leapSec <;> exact ⟨rfl, rfl⟩
  · exact ⟨rfl, rfl⟩

theorem time_setDrift (frequency : Option RcvrClockFrequency) :
    (clock.setDrift frequency).timeNs = clock.timeNs ∧
      (clock.setDrift frequency).hwClockDiscontinuityCount =
        clock.hwClockDiscontinuityCount := by
  cases frequency <;> exact ⟨rfl, rfl⟩

end GnssMeasurementsClock

/-! ## The machine -/

structure ClockAssembly where
  assembly : Assembly
  mGPSreceived : Bool
  mMsInWeek : Int
  /-- of the header of the record -/
  leapSec : Option UInt8
  mMeasurementsStarted : Bool
  mPowerMode : GnssPowerMode
  (oldRefFCount oldDiscCount localDiscCount : UInt32)
  /-- how often the count has grown -/
  discontinuities : Nat

/-- A clock in the record, the session it is of, and how many discontinuities
there have been up to it. -/
structure Clocked where
  (session discontinuities : Nat)
  report : SvClockInfo
  clock : GnssMeasurementsClock

namespace ClockAssembly

def init : ClockAssembly := ⟨.init, false, -1, none, false, .invalid, 0, 0, 0, 0⟩

variable (s : ClockAssembly) (report : SvClockInfo)

def resetSvMeasurementReport : ClockAssembly :=
  { s with mGPSreceived := false, mMsInWeek := -1, leapSec := none }

/-- Whether a clock cannot be compared to those before it. -/
def restarts (newRefFCount newDiscCount : UInt32) : Bool :=
  s.mMeasurementsStarted || s.oldDiscCount != newDiscCount || newRefFCount ≤ s.oldRefFCount

def countDiscontinuity (newRefFCount newDiscCount : UInt32) : ClockAssembly :=
  let s' :=
    if s.restarts newRefFCount newDiscCount then
      let s' := { s with mMeasurementsStarted := false }
      if s.mPowerMode ≠ .m1 then
        { s' with
          localDiscCount := s.localDiscCount + 1
          discontinuities := s.discontinuities + 1 }
      else s'
    else s
  { s' with oldDiscCount := newDiscCount, oldRefFCount := newRefFCount }

/-- The clock, and the millisecond of the week. -/
def convertGnssClock (clock : GnssMeasurementsClock) :
    ClockAssembly × GnssMeasurementsClock × Int :=
  let clock := { clock with flags := 0 }
  match report.systemTimeExt_valid, report.numClockResets with
  | true, some numClockResets =>
    let s := s.countDiscontinuity report.refFCount numClockResets
    let clock := clock.setTime report.refFCount s.localDiscCount
    let clock := clock.setBias report.systemTime s.leapSec
    (s, clock.setDrift report.rcvrClockFrequencyInfo, report.systemTime.systemMsec.toNat)
  | _, _ => (s, clock.setDrift report.rcvrClockFrequencyInfo, -1)

def allocate : ClockAssembly :=
  let s' := if s.assembly.mGnssMeasurements.isNone then s.resetSvMeasurementReport else s
  { s' with assembly := s.assembly.allocate }

def openEpoch : ClockAssembly :=
  let s' :=
    if s.assembly.opens report.toSvMeasInfo && s.assembly.newMeasProcessed then
      s.resetSvMeasurementReport
    else s
  { s' with assembly := ((s.assembly.openEpoch report.toSvMeasInfo).1.note report.toSvMeasInfo) }

/-- A leap second is known if there is no uncertainty. -/
def convertGnssMeasurementsHeader : ClockAssembly :=
  match report.leapSecondInfo with
  | some info => if info.leapSecUnc = 0 then { s with leapSec := some info.leapSec } else s
  | none => s

def takeIn : ClockAssembly :=
  let s' := if report.subSeqNums.1 ≤ 1 then s.convertGnssMeasurementsHeader report else s
  { s' with assembly := s.assembly.takeIn report.toSvMeasInfo }

/-- The GPS clock time reading. -/
def readClock : ClockAssembly × List Clocked :=
  if report.system = .eQMI_LOC_SV_SYSTEM_GPS_V02 ∧ report.subSeqNums.1 ≤ 1 ∧
      s.mGPSreceived = false then
    let r := s.convertGnssClock report .zero
    ({ r.1 with mGPSreceived := true, mMsInWeek := r.2.2 },
      [⟨s.assembly.session, r.1.discontinuities, report, r.2.1⟩])
  else (s, [])

def closeEpoch : ClockAssembly :=
  let s' := if report.closes then s.resetSvMeasurementReport else s
  { s' with assembly := (s.assembly.closeEpoch report.toSvMeasInfo).1 }

def reportGnssMeasurementData : ClockAssembly × List Clocked :=
  let s := s.allocate
  if report.wellNumbered then
    let s := s.openEpoch report
    if report.known then
      let r := (s.takeIn report).readClock report
      (r.1.closeEpoch report, r.2)
    else (s, [])
  else (s, [])

end ClockAssembly

inductive ClockEvent where
  /-- with the power mode, unless the operation mode could not be set -/
  | startFix (powerMode : Option GnssPowerMode)
  | startTimeBasedTracking | stopFix
  | stopTimeBasedTracking (sent : Bool)
  | gnssMeasurementReport (report : SvClockInfo)
  deriving DecidableEq

def ClockEvent.toMeasEvent : ClockEvent → MeasEvent
  | startFix _ => .startFix
  | startTimeBasedTracking => .startTimeBasedTracking
  | stopFix => .stopFix
  | stopTimeBasedTracking sent => .stopTimeBasedTracking sent
  | gnssMeasurementReport report => .gnssMeasurementReport report.toSvMeasInfo

namespace ClockAssembly

variable (s : ClockAssembly)

/-- What an event of a session does besides. -/
def control : ClockEvent → ClockAssembly
  | .startFix powerMode =>
    { s with mMeasurementsStarted := true, mPowerMode := powerMode.getD s.mPowerMode }
  | .startTimeBasedTracking => { s with mMeasurementsStarted := true }
  | .stopFix => { s with mPowerMode := .invalid }
  | .stopTimeBasedTracking sent => if sent then { s with mPowerMode := .invalid } else s
  | .gnssMeasurementReport _ => s

def step : ClockEvent → ClockAssembly × List Clocked
  | .gnssMeasurementReport report =>
    if s.assembly.mInSession then s.reportGnssMeasurementData report else (s, [])
  | e => ({ s.control e with assembly := (s.assembly.step e.toMeasEvent).1 }, [])

end ClockAssembly

/-! ## What the counts are to say -/

namespace Clocked

/-- Its message has a frame count and a count of resets. -/
def Counted (c : Clocked) : Prop :=
  c.report.systemTimeExt_valid = true ∧ c.report.numClockResets.isSome = true
  deriving Decidable

/-- Of two clocks, the later one `c'`. -/
def Consistent (c c' : Clocked) : Prop :=
  c.clock.hwClockDiscontinuityCount = c'.clock.hwClockDiscontinuityCount →
    c.session = c'.session ∧ c.report.numClockResets = c'.report.numClockResets ∧
      c.clock.timeNs < c'.clock.timeNs

end Clocked

def ClockEvent.FullPower (e : ClockEvent) : Prop := e = .startFix (some .m1)
  deriving Decidable

/-! ## The clocks so far -/

namespace ClockAssembly

/-- Of the clocks with the count of now: what was noted of the last of them
still stands, unless a session has begun. -/
structure Ledger (s : ClockAssembly) (out : List Clocked) : Prop where
  mode : s.mPowerMode ≠ .m1
  count : s.localDiscCount = UInt32.ofNat s.discontinuities
  stamped : ∀ c ∈ out, c.Counted →
    c.clock.hwClockDiscontinuityCount = UInt32.ofNat c.discontinuities ∧
      c.clock.timeNs = c.report.refFCount.toNat * 1000000
  le : ∀ c ∈ out, c.discontinuities ≤ s.discontinuities
  current : ∀ c ∈ out, c.Counted → c.discontinuities = s.discontinuities →
    s.mMeasurementsStarted = false →
      c.session = s.assembly.session ∧ c.report.numClockResets = some s.oldDiscCount ∧
        c.report.refFCount ≤ s.oldRefFCount
  pairwise : out.Pairwise fun c c' => c.Counted → c'.Counted →
    c.discontinuities = c'.discontinuities →
      c.session = c'.session ∧ c.report.numClockResets = c'.report.numClockResets ∧
        c.report.refFCount < c'.report.refFCount

variable {s : ClockAssembly} {out : List Clocked}

theorem ledger_init : init.Ledger [] where
  mode := nofun
  count := rfl
  stamped := forall_mem_nil _
  le := forall_mem_nil _
  current := forall_mem_nil _
  pairwise := .nil

namespace Ledger

theorem resetSvMeasurementReport (h : s.Ledger out) : s.resetSvMeasurementReport.Ledger out :=
  ⟨h.mode, h.count, h.stamped, h.le, h.current, h.pairwise⟩

variable {a : Assembly}

theorem withAssembly (h : s.Ledger out) (ha : a.session = s.assembly.session) :
    Ledger { s with assembly := a } out :=
  ⟨h.mode, h.count, h.stamped, h.le, ha ▸ h.current, h.pairwise⟩

theorem started (h : s.Ledger out) {powerMode : GnssPowerMode} (hmode : powerMode ≠ .m1) :
    Ledger { s with assembly := a, mMeasurementsStarted := true, mPowerMode := powerMode } out :=
  ⟨hmode, h.count, h.stamped, h.le, fun _ _ _ _ hstarted => (nomatch hstarted), h.pairwise⟩

theorem allocate (h : s.Ledger out) : s.allocate.Ledger out := by
  rw [ClockAssembly.allocate]
  split
  · exact h.resetSvMeasurementReport.withAssembly s.assembly.session_allocate
  · exact h.withAssembly s.assembly.session_allocate

section Message

variable (report : SvClockInfo)

theorem openEpoch (h : s.Ledger out) : (s.openEpoch report).Ledger out := by
  have hsession : ((s.assembly.openEpoch report.toSvMeasInfo).1.note report.toSvMeasInfo).session =
      s.assembly.session := s.assembly.session_openEpoch report.toSvMeasInfo
  rw [ClockAssembly.openEpoch]
  split
  · exact h.resetSvMeasurementReport.withAssembly hsession
  · exact h.withAssembly hsession

theorem takeIn (h : s.Ledger out) : (s.takeIn report).Ledger out := by
  have hheader : (s.convertGnssMeasurementsHeader report).Ledger out ∧
      (s.convertGnssMeasurementsHeader report).assembly = s.assembly := by
    rw [convertGnssMeasurementsHeader]
    split
    · split
      · exact ⟨⟨h.mode, h.count, h.stamped, h.le, h.current, h.pairwise⟩, rfl⟩
      · exact ⟨h, rfl⟩
    · exact ⟨h, rfl⟩
  rw [ClockAssembly.takeIn]
  split
  · exact hheader.1.withAssembly (congrArg Assembly.session hheader.2).symm
  · exact h.withAssembly rfl

theorem closeEpoch (h : s.Ledger out) : (s.closeEpoch report).Ledger out := by
  have hsession := s.assembly.session_closeEpoch report.toSvMeasInfo
  rw [ClockAssembly.closeEpoch]
  split
  · exact h.resetSvMeasurementReport.withAssembly hsession
  · exact h.withAssembly hsession

end Message

variable {c : Clocked}

variable (h : s.Ledger out)
include h

theorem concat_of_not_counted (hc : ¬ c.Counted) (hle : c.discontinuities ≤ s.discontinuities) :
    s.Ledger (out ++ [c]) where
  mode := h.mode
  count := h.count
  stamped := forall_mem_append.mpr ⟨h.stamped, forall_mem_singleton.mpr fun hc' => absurd hc' hc⟩
  le := forall_mem_append.mpr ⟨h.le, forall_mem_singleton.mpr hle⟩
  current := forall_mem_append.mpr ⟨h.current, forall_mem_singleton.mpr fun hc' => absurd hc' hc⟩
  pairwise := pairwise_append.mpr ⟨h.pairwise, pairwise_singleton .., fun _ _ _ hd _ hd' =>
      absurd (mem_singleton.mp hd ▸ hd') hc⟩

theorem concat {f d : UInt32} (hsession : c.session = s.assembly.session)
    (hdisc : c.discontinuities = (s.countDiscontinuity f d).discontinuities)
    (hresets : c.report.numClockResets = some d) (hframe : c.report.refFCount = f)
    (hcount : c.clock.hwClockDiscontinuityCount = (s.countDiscontinuity f d).localDiscCount)
    (htime : c.clock.timeNs = c.report.refFCount.toNat * 1000000) :
    (s.countDiscontinuity f d).Ledger (out ++ [c]) := by
  cases hre : s.restarts f d with
  | true =>
    have hs' : s.countDiscontinuity f d = { s with
          mMeasurementsStarted := false
          localDiscCount := s.localDiscCount + 1
          discontinuities := s.discontinuities + 1
          oldDiscCount := d
          oldRefFCount := f } := by
      rw [countDiscontinuity, hre, if_pos rfl]
      dsimp only
      rw [if_pos h.mode]
    rw [hs'] at hdisc hcount ⊢
    have hnew : s.localDiscCount + 1 = UInt32.ofNat (s.discontinuities + 1) := by
      rw [h.count, UInt32.ofNat_add]
      rfl
    have hold : ∀ c' ∈ out, c'.discontinuities ≠ s.discontinuities + 1 := by
      intro c' hc' heq
      have := h.le c' hc'
      omega
    exact {
      mode := h.mode
      count := hnew
      stamped := forall_mem_append.mpr ⟨h.stamped, forall_mem_singleton.mpr fun _ =>
          ⟨by rw [hcount, hdisc]; exact hnew, htime⟩⟩
      le := forall_mem_append.mpr ⟨fun c' hc' => Nat.le_succ_of_le (h.le c' hc'),
          forall_mem_singleton.mpr (Nat.le_of_eq hdisc)⟩
      current := forall_mem_append.mpr ⟨fun c' hc' _ heq => absurd heq (hold c' hc'),
          forall_mem_singleton.mpr fun _ _ _ =>
            ⟨hsession, hresets, UInt32.le_of_eq hframe⟩⟩
      pairwise := pairwise_append.mpr
        ⟨h.pairwise, pairwise_singleton .., fun c' hc' c'' hc'' _ _ heq => by
          rw [mem_singleton.mp hc'', hdisc] at heq
          exact absurd heq (hold c' hc')⟩ }
  | false =>
    have hs' : s.countDiscontinuity f d = { s with oldDiscCount := d, oldRefFCount := f } := by
      rw [countDiscontinuity, hre, if_neg Bool.false_ne_true]
    rw [hs'] at hdisc hcount ⊢
    simp only [restarts, Bool.or_eq_false_iff, bne_eq_false_iff_eq, decide_eq_false_iff_not,
      UInt32.not_le] at hre
    obtain ⟨⟨hstarted, hd⟩, hlt⟩ := hre
    have hold : ∀ c' ∈ out, c'.Counted → c'.discontinuities = s.discontinuities →
        c'.session = s.assembly.session ∧ c'.report.numClockResets = some d ∧
          c'.report.refFCount < f := by
      intro c' hc' hcounted heq
      obtain ⟨h1, h2, h3⟩ := h.current c' hc' hcounted heq hstarted
      exact ⟨h1, hd ▸ h2, UInt32.lt_of_le_of_lt h3 hlt⟩
    exact {
      mode := h.mode
      count := h.count
      stamped := forall_mem_append.mpr ⟨h.stamped, forall_mem_singleton.mpr fun _ =>
          ⟨by rw [hcount, hdisc]; exact h.count, htime⟩⟩
      le := forall_mem_append.mpr ⟨h.le, forall_mem_singleton.mpr (Nat.le_of_eq hdisc)⟩
      current := forall_mem_append.mpr ⟨fun c' hc' hcounted heq _ =>
            have hc := hold c' hc' hcounted heq
            ⟨hc.1, hc.2.1, UInt32.le_of_lt hc.2.2⟩,
          forall_mem_singleton.mpr fun _ _ _ =>
            ⟨hsession, hresets, UInt32.le_of_eq hframe⟩⟩
      pairwise := pairwise_append.mpr
        ⟨h.pairwise, pairwise_singleton .., fun c' hc' c'' hc'' hcounted _ heq => by
          obtain rfl := mem_singleton.mp hc''
          obtain ⟨h1, h2, h3⟩ := hold c' hc' hcounted (heq.trans hdisc)
          exact ⟨h1.trans hsession.symm, h2.trans hresets.symm, hframe ▸ h3⟩⟩ }

theorem convertGnssClock (report : SvClockInfo) : (s.convertGnssClock report .zero).1.Ledger
      (out ++ [⟨s.assembly.session, (s.convertGnssClock report .zero).1.discontinuities, report,
        (s.convertGnssClock report .zero).2.1⟩]) := by
  rw [ClockAssembly.convertGnssClock]
  split
  · next numClockResets _ hresets =>
      dsimp only
      have hdrift := fun clock =>
        GnssMeasurementsClock.time_setDrift clock report.rcvrClockFrequencyInfo
      have hbias := fun clock => GnssMeasurementsClock.time_setBias clock report.systemTime
      refine h.concat rfl rfl hresets rfl ?_ ?_
      · exact (hdrift _).2.trans (hbias _ _).2
      · exact (hdrift _).1.trans (hbias _ _).1
  · next hboth =>
      refine h.concat_of_not_counted (fun hc => ?_) (Nat.le_refl _)
      obtain ⟨numClockResets, hsome⟩ := Option.isSome_iff_exists.mp hc.2
      exact hboth numClockResets hc.1 hsome

theorem readClock (report : SvClockInfo) :
    (s.readClock report).1.Ledger (out ++ (s.readClock report).2) := by
  rw [ClockAssembly.readClock]
  split
  · have h' := h.convertGnssClock report
    exact ⟨h'.mode, h'.count, h'.stamped, h'.le, h'.current, h'.pairwise⟩
  · rw [append_nil]
    exact h

theorem reportMeasurementData (report : SvClockInfo) : (s.reportGnssMeasurementData report).1.Ledger
      (out ++ (s.reportGnssMeasurementData report).2) := by
  have hnone : out ++ [] = out := append_nil out
  simp only [reportGnssMeasurementData]
  split
  · split
    · exact (((h.allocate.openEpoch report).takeIn report).readClock report).closeEpoch report
    · exact hnone.symm ▸ h.allocate.openEpoch report
  · exact hnone.symm ▸ h.allocate

theorem step {e : ClockEvent} (he : ¬ e.FullPower) : (s.step e).1.Ledger (out ++ (s.step e).2) := by
  cases e with
  | gnssMeasurementReport report =>
    rw [ClockAssembly.step]
    split
    · exact h.reportMeasurementData report
    · rw [append_nil]
      exact h
  | startFix powerMode =>
    show Ledger _ (out ++ [])
    rw [append_nil]
    refine h.started ?_
    cases powerMode with
    | none => exact h.mode
    | some mode =>
      rintro rfl
      exact he rfl
  | startTimeBasedTracking =>
    show Ledger _ (out ++ [])
    rw [append_nil]
    exact h.started h.mode
  | stopFix =>
    show Ledger _ (out ++ [])
    rw [append_nil]
    exact ⟨nofun, h.count, h.stamped, h.le, h.current, h.pairwise⟩
  | stopTimeBasedTracking sent =>
    show Ledger _ (out ++ [])
    rw [append_nil]
    cases sent with
    | true => exact ⟨nofun, h.count, h.stamped, h.le, h.current, h.pairwise⟩
    | false => exact h

end Ledger

end ClockAssembly

/-! ## Whole runs -/

section Runs

open ClockAssembly

/-- The clocks with a frame count and a count of resets, where the count of
discontinuities does not come round. -/
theorem clocks_consistent {es : List ClockEvent} (hmode : ∀ e ∈ es, ¬ e.FullPower)
    (hfew : (after step init es).discontinuities < 2 ^ 32) :
    ((outs step init es).filter Clocked.Counted).Pairwise Clocked.Consistent := by
  have h : (after step init es).Ledger (outs step init es) :=
    recorded_after_of_forall (fun _ _ _ h he => h.step he) ledger_init hmode
  refine pairwise_filter.mpr (h.pairwise.imp_of_mem ?_)
  intro c c' hc hc' hpair hcounted hcounted' hcount
  have hcounted := of_decide_eq_true hcounted
  have hcounted' := of_decide_eq_true hcounted'
  obtain ⟨hstamp, htime⟩ := h.stamped c hc hcounted
  obtain ⟨hstamp', htime'⟩ := h.stamped c' hc' hcounted'
  have heq : c.discontinuities = c'.discontinuities := by
    have hle := h.le c hc
    have hle' := h.le c' hc'
    have hmod := congrArg UInt32.toNat (hstamp.symm.trans (hcount.trans hstamp'))
    rwa [UInt32.toNat_ofNat', UInt32.toNat_ofNat', Nat.mod_eq_of_lt (by omega),
      Nat.mod_eq_of_lt (by omega)] at hmod
  obtain ⟨hsession, hresets, hframe⟩ := hpair hcounted hcounted' heq
  refine ⟨hsession, hresets, ?_⟩
  have hlt := UInt32.lt_iff_toNat_lt.mp hframe
  rw [htime, htime']
  omega

/-- An epoch of one GPS message without measurements. -/
def clockOnly (refFCount : UInt32) : ClockEvent :=
  .gnssMeasurementReport
    { seqNum := 1
      maxMessageNum := 1
      subSeq := (none, none)
      system := .eQMI_LOC_SV_SYSTEM_GPS_V02
      systemTimeExt_valid := true
      refFCount := refFCount
      nHzMeasurement := none
      svMeasurement := none
      extSvMeasurement := none
      numClockResets := some 3
      systemTime := ⟨true, 2300, 1000, 0, 1⟩
      leapSecondInfo := none
      rcvrClockFrequencyInfo := none }

theorem twoSessions_consistent :
    ((outs step init [.startTimeBasedTracking, clockOnly 10, clockOnly 11,
      .stopTimeBasedTracking true, .startFix (some .m2), clockOnly 12]).filter
        Clocked.Counted).Pairwise Clocked.Consistent :=
  clocks_consistent (by decide) (by decide +kernel)

end Runs

end LocStack.LocApi
