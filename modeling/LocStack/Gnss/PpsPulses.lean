/-
# `LocStack.Gnss.PpsPulses` — which pulses of the receiver are reported

read_pps fetches the time that the kernel has put on a pulse, and keeps it, with
the time of the fetch, for getPPS.  On the way it is decided

    whether the pulse is one of skipPPSPulseCnt to be skipped
    of which clock its time is           within 100 ms of the clock's
    whether the real time has jumped     its offset by more than 10 ms

`follows_pulses`: over any run the times kept are those of the pulses that `Pulses`
takes, an account of the pulses by counts and offsets in nanoseconds.  The clock is
a guess: a time in real time that is within 100 ms of the boot time is not shifted.

The conversions to milliseconds, of type double, are rational here.
-/
import Mathlib.Algebra.Order.Field.Basic
import Mathlib.Algebra.Order.Field.Rat
import Mathlib.Tactic.Ring
import LocStack.Base.Run

namespace LocStack.Gnss.PpsPulses

open Base

/-! ## Times -/

structure PpsSyncTime where
  (tv_sec tv_nsec : ℤ)
  deriving DecidableEq

def BILLION_NSEC : ℤ := 1000000000

def MAX_REALTIME_OFFSET_DELTA_DIFFERENCE : ℤ := 10

def MAX_PPS_KERNEL_TO_USERSPACE_LATENCY : ℤ := 100

namespace PpsSyncTime

/-- As the kernel gives times. -/
def Normal (t : PpsSyncTime) : Prop := 0 ≤ t.tv_nsec ∧ t.tv_nsec < BILLION_NSEC
  deriving Decidable

/-- In nanoseconds. -/
def ns (t : PpsSyncTime) : ℤ := t.tv_sec * BILLION_NSEC + t.tv_nsec

/-- `time2 - time1` -/
def calculateTimeDifference (time1 time2 : PpsSyncTime) : PpsSyncTime :=
  if time2.tv_nsec < time1.tv_nsec then
    ⟨time2.tv_sec - 1 - time1.tv_sec, BILLION_NSEC + time2.tv_nsec - time1.tv_nsec⟩
  else ⟨time2.tv_sec - time1.tv_sec, time2.tv_nsec - time1.tv_nsec⟩

def ppsSyncTimeAdd (time1 time2 : PpsSyncTime) : PpsSyncTime :=
  if time2.tv_nsec + time1.tv_nsec ≥ BILLION_NSEC then
    ⟨time2.tv_sec + time1.tv_sec + 1, time2.tv_nsec + time1.tv_nsec - BILLION_NSEC⟩
  else ⟨time2.tv_sec + time1.tv_sec, time2.tv_nsec + time1.tv_nsec⟩

def convertTimeToMilliSec (t : PpsSyncTime) : ℚ := t.tv_sec * 1000 + t.tv_nsec * (1 / 1000000)

def isTimeOffsetOk (offsetTime : PpsSyncTime) : Bool :=
  |offsetTime.convertTimeToMilliSec| ≤ MAX_REALTIME_OFFSET_DELTA_DIFFERENCE

end PpsSyncTime

/-- A time of the kernel. -/
abbrev KernelTime := { t : PpsSyncTime // t.Normal }

inductive KernelReportedTime where
  | BOOTTIME | REALTIME | UNKNOWN

open PpsSyncTime

def getReportedTimeType (userBootTs userRealTs kernelTs : PpsSyncTime) : KernelReportedTime :=
  if |userBootTs.convertTimeToMilliSec - kernelTs.convertTimeToMilliSec| ≤
      MAX_PPS_KERNEL_TO_USERSPACE_LATENCY then .BOOTTIME
  else if |userRealTs.convertTimeToMilliSec - kernelTs.convertTimeToMilliSec| ≤
      MAX_PPS_KERNEL_TO_USERSPACE_LATENCY then .REALTIME
  else .UNKNOWN

/-! ## read_pps -/

structure PpsConf where
  skipPPSPulseCnt : ℕ
  gnssOutageInSec : ℤ

/-- The static variables. -/
structure Pps where
  (drsyncKernelTs drsyncUserTs prevDrsyncKernelTs time_offset : PpsSyncTime)
  isFirstPulseReceived : Bool
  skipPulseCnt : ℕ

/-- What a call meets: the time that the ioctl gives, unless it fails, and those of
the clocks.  That the time is of the real-time clock nobody says. -/
structure PpsCall where
  (ioctl bootTime realTime : Option KernelTime)
  inRealTime : Bool

/-- The time of the pulse in boot time, in nanoseconds. -/
def PpsCall.inBootTime (c : PpsCall) : Option ℤ :=
  match c.ioctl, c.bootTime, c.realTime with
  | some t, some boot, some real =>
    some (t.1.ns + if c.inRealTime then boot.1.ns - real.1.ns else 0)
  | _, _, _ => none

def EINTR : ℤ := 4

/-- The result and the infobuf, which a failed ioctl, of result -1, leaves undefined. -/
def ppsFetch (ioctl : Option KernelTime) : ℤ × PpsSyncTime :=
  match ioctl with
  | some t => (0, t)
  | none => (-1, ⟨0, 0⟩)

namespace Pps

def new : Pps := ⟨⟨0, 0⟩, ⟨0, 0⟩, ⟨0, 0⟩, ⟨0, 0⟩, false, 0⟩

def computeRealToBootTime (s : Pps) (bootTime realTime : Option KernelTime)
    (ppsFetchTime : PpsSyncTime) : Pps :=
  match bootTime, realTime with
  | some userBootTs, some userRealTs =>
    match getReportedTimeType userBootTs userRealTs ppsFetchTime with
    | .BOOTTIME => { s with drsyncKernelTs := ppsFetchTime, drsyncUserTs := userBootTs }
    | .REALTIME =>
      let deltaRealToBootTime := calculateTimeDifference userRealTs userBootTs
      let deltaOffsetTime := calculateTimeDifference s.time_offset deltaRealToBootTime
      if s.time_offset = ⟨0, 0⟩ ∨ isTimeOffsetOk deltaOffsetTime then
        { s with
          drsyncUserTs := userBootTs
          drsyncKernelTs := ppsSyncTimeAdd ppsFetchTime deltaRealToBootTime
          time_offset := deltaRealToBootTime }
      else { s with time_offset := deltaRealToBootTime }
    | .UNKNOWN => s
  | _, _ => s

/-- The pulses that are to be skipped, with the one that is fetched. -/
def startSkipping (conf : PpsConf) (s : Pps) (infobuf : PpsSyncTime) : Pps :=
  if ¬ s.isFirstPulseReceived ∧ conf.skipPPSPulseCnt > 0 then
    { s with skipPulseCnt := conf.skipPPSPulseCnt, isFirstPulseReceived := true }
  else if s.isFirstPulseReceived ∧ conf.skipPPSPulseCnt > 0 ∧
      infobuf.tv_sec - s.prevDrsyncKernelTs.tv_sec > conf.gnssOutageInSec then
    { s with skipPulseCnt := conf.skipPPSPulseCnt }
  else s

def readPps (conf : PpsConf) (s : Pps) (c : PpsCall) : Pps :=
  let (ret, infobuf) := ppsFetch c.ioctl
  if ret < 0 ∧ ret ≠ -EINTR then s
  else
    let s := { s.startSkipping conf infobuf with prevDrsyncKernelTs := infobuf }
    if s.skipPulseCnt > 0 then { s with skipPulseCnt := s.skipPulseCnt - 1 }
    else s.computeRealToBootTime c.bootTime c.realTime infobuf

end Pps

/-! ## What it is for -/

/-- What the pulses so far come to. -/
structure Pulses where
  /-- the second of the last one -/
  last : Option ℤ
  /-- how many there are from the one on that has started a skipping -/
  since : ℕ
  /-- by which the boot time was ahead of the real time, at the last look -/
  offset : Option ℤ
  /-- the times of the last one that was taken, in boot time -/
  kernel : ℤ
  user : PpsSyncTime

namespace Pulses

def new : Pulses := ⟨none, 0, none, 0, ⟨0, 0⟩⟩

/-- The first pulse starts a skipping, and each after an outage. -/
def count (gnssOutageInSec : ℤ) (p : Pulses) (t : PpsSyncTime) : Pulses :=
  { p with
    last := some t.tv_sec
    since := if ∀ last ∈ p.last, gnssOutageInSec < t.tv_sec - last then 1 else p.since + 1 }

/-- A pulse that is not skipped: it is taken as it is, or shifted, or refused after
a jump of the offset. -/
def take (p : Pulses) (t boot real : PpsSyncTime) : Pulses :=
  if |boot.ns - t.ns| ≤ 100 * 1000000 then { p with kernel := t.ns, user := boot }
  else if |real.ns - t.ns| ≤ 100 * 1000000 then
    let offset := boot.ns - real.ns
    if ∀ old ∈ p.offset, |offset - old| ≤ 10 * 1000000 then
      { p with offset := some offset, kernel := t.ns + offset, user := boot }
    else { p with offset := some offset }
  else p

def next (conf : PpsConf) (p : Pulses) (c : PpsCall) : Pulses :=
  match c.ioctl with
  | none => p
  | some t =>
    let p := p.count conf.gnssOutageInSec t
    if p.since ≤ conf.skipPPSPulseCnt then p
    else
      match c.bootTime, c.realTime with
      | some boot, some real => p.take t boot real
      | _, _ => p

end Pulses

/-- The variables beside the account. -/
structure WatchedPps where
  pps : Pps
  pulses : Pulses

namespace WatchedPps

def new : WatchedPps := ⟨.new, .new⟩

def step (conf : PpsConf) (w : WatchedPps) (c : PpsCall) : WatchedPps × List Empty :=
  (⟨w.pps.readPps conf c, w.pulses.next conf c⟩, [])

/-- The times kept are those of the account. -/
def Right (w : WatchedPps) : Prop :=
  w.pps.drsyncKernelTs.Normal ∧ w.pps.drsyncKernelTs.ns = w.pulses.kernel ∧
    w.pps.drsyncUserTs = w.pulses.user

end WatchedPps

/-! ## Times in nanoseconds -/

namespace PpsSyncTime

variable {t u : PpsSyncTime}

theorem calculateTimeDifference_normal (ht : t.Normal) (hu : u.Normal) :
    (calculateTimeDifference t u).Normal ∧ (calculateTimeDifference t u).ns = u.ns - t.ns := by
  unfold Normal ns BILLION_NSEC at *
  unfold calculateTimeDifference BILLION_NSEC
  split <;> dsimp only <;> omega

theorem ppsSyncTimeAdd_normal (ht : t.Normal) (hu : u.Normal) :
    (ppsSyncTimeAdd t u).Normal ∧ (ppsSyncTimeAdd t u).ns = t.ns + u.ns := by
  unfold Normal ns BILLION_NSEC at *
  unfold ppsSyncTimeAdd BILLION_NSEC
  split <;> dsimp only <;> omega

theorem convertTimeToMilliSec_eq (t : PpsSyncTime) : t.convertTimeToMilliSec = t.ns / 1000000 := by
  unfold convertTimeToMilliSec ns BILLION_NSEC
  push_cast
  ring

theorem abs_milliSec_le {x m : ℤ} : |(x : ℚ) / 1000000| ≤ m ↔ |x| ≤ m * 1000000 := by
  rw [abs_div, abs_of_pos (by norm_num : (0 : ℚ) < 1000000), div_le_iff₀ (by norm_num)]
  exact_mod_cast Iff.rfl

theorem abs_sub_convert_le {m : ℤ} :
    |t.convertTimeToMilliSec - u.convertTimeToMilliSec| ≤ m ↔ |t.ns - u.ns| ≤ m * 1000000 := by
  rw [convertTimeToMilliSec_eq, convertTimeToMilliSec_eq, ← sub_div, ← Int.cast_sub,
    abs_milliSec_le]

theorem isTimeOffsetOk_iff : t.isTimeOffsetOk = true ↔ |t.ns| ≤ 10 * 1000000 := by
  unfold isTimeOffsetOk
  rw [decide_eq_true_iff, convertTimeToMilliSec_eq, abs_milliSec_le]
  rfl

end PpsSyncTime

/-! ## The account is followed -/

/-- In the times, and in the offset, which is never 0 once there is one: of clocks
that agree a pulse is in boot time. -/
structure Reports (s : Pps) (p : Pulses) : Prop where
  normal : s.drsyncKernelTs.Normal
  kernel : s.drsyncKernelTs.ns = p.kernel
  user : s.drsyncUserTs = p.user
  unseen : p.offset = none → s.time_offset = ⟨0, 0⟩
  seen : ∀ old ∈ p.offset, s.time_offset.Normal ∧ s.time_offset.ns = old ∧ old ≠ 0

/-- In what is skipped. -/
structure Counts (conf : PpsConf) (s : Pps) (p : Pulses) : Prop where
  first : p.last = none → s.isFirstPulseReceived = false ∧ s.skipPulseCnt = 0
  later : ∀ last ∈ p.last, s.prevDrsyncKernelTs.tv_sec = last ∧
    s.isFirstPulseReceived = decide (conf.skipPPSPulseCnt > 0) ∧
    s.skipPulseCnt = conf.skipPPSPulseCnt - p.since

variable {conf : PpsConf} {s : Pps} {p : Pulses} {t : PpsSyncTime}

theorem Reports.take (h : Reports s p) (ht : t.Normal) (boot real : KernelTime) :
    Reports (s.computeRealToBootTime (some boot) (some real) t) (p.take t boot real) := by
  unfold Pps.computeRealToBootTime getReportedTimeType Pulses.take
  simp only [abs_sub_convert_le, MAX_PPS_KERNEL_TO_USERSPACE_LATENCY]
  by_cases hboot : |boot.1.ns - t.ns| ≤ 100 * 1000000
  · rw [if_pos hboot, if_pos hboot]
    exact ⟨ht, rfl, rfl, h.unseen, h.seen⟩
  · by_cases hreal : |real.1.ns - t.ns| ≤ 100 * 1000000
    · obtain ⟨hnormal, hns⟩ := calculateTimeDifference_normal real.2 boot.2
      obtain ⟨haddNormal, hadd⟩ := ppsSyncTimeAdd_normal ht hnormal
      have hne : boot.1.ns - real.1.ns ≠ 0 := by
        intro heq
        rw [sub_eq_zero.mp heq] at hboot
        exact hboot hreal
      have hjump : s.time_offset = ⟨0, 0⟩ ∨ (calculateTimeDifference s.time_offset
          (calculateTimeDifference real.1 boot.1)).isTimeOffsetOk = true ↔
          ∀ old ∈ p.offset, |boot.1.ns - real.1.ns - old| ≤ 10 * 1000000 := by
        cases hoffset : p.offset with
        | none => exact iff_of_true (.inl (h.unseen hoffset)) nofun
        | some old =>
          obtain ⟨hold, rfl, hold0⟩ := h.seen old hoffset
          have hset : s.time_offset ≠ ⟨0, 0⟩ := by
            intro heq
            rw [heq] at hold0
            exact hold0 rfl
          rw [or_iff_right hset, isTimeOffsetOk_iff,
            (calculateTimeDifference_normal hold hnormal).2, hns]
          simp
      have hseen : ∀ old ∈ some (boot.1.ns - real.1.ns),
          (calculateTimeDifference real.1 boot.1).Normal ∧
            (calculateTimeDifference real.1 boot.1).ns = old ∧ old ≠ 0 := by
        rintro old ⟨⟩
        exact ⟨hnormal, hns, hne⟩
      rw [if_neg hboot, if_neg hboot, if_pos hreal, if_pos hreal]
      dsimp only
      by_cases hok : ∀ old ∈ p.offset, |boot.1.ns - real.1.ns - old| ≤ 10 * 1000000
      · rw [if_pos (hjump.mpr hok), if_pos hok]
        exact ⟨haddNormal, hadd.trans (congrArg _ hns), rfl, nofun, hseen⟩
      · rw [if_neg (hjump.not.mpr hok), if_neg hok]
        exact ⟨h.normal, h.kernel, h.user, nofun, hseen⟩
    · rw [if_neg hboot, if_neg hboot, if_neg hreal, if_neg hreal]
      exact h

theorem Counts.take (h : Counts conf s p) (t : PpsSyncTime) (boot real : KernelTime) :
    Counts conf (s.computeRealToBootTime (some boot) (some real) t) (p.take t boot real) := by
  have htake : (p.take t boot real).last = p.last ∧ (p.take t boot real).since = p.since := by
    unfold Pulses.take
    dsimp only
    split_ifs <;> exact ⟨rfl, rfl⟩
  obtain ⟨hprev, hfirst, hskip⟩ :
      (s.computeRealToBootTime (some boot) (some real) t).prevDrsyncKernelTs =
        s.prevDrsyncKernelTs ∧
      (s.computeRealToBootTime (some boot) (some real) t).isFirstPulseReceived =
        s.isFirstPulseReceived ∧
      (s.computeRealToBootTime (some boot) (some real) t).skipPulseCnt = s.skipPulseCnt := by
    unfold Pps.computeRealToBootTime
    dsimp only
    cases getReportedTimeType boot real t with
    | BOOTTIME | UNKNOWN => exact ⟨rfl, rfl, rfl⟩
    | REALTIME =>
      dsimp only
      split_ifs <;> exact ⟨rfl, rfl, rfl⟩
  constructor
  · rw [htake.1, hfirst, hskip]
    exact h.first
  · rw [htake.1, htake.2, hprev, hfirst, hskip]
    exact h.later

theorem Counts.startSkipping (h : Counts conf s p) (t : PpsSyncTime) :
    (s.startSkipping conf t).isFirstPulseReceived = decide (conf.skipPPSPulseCnt > 0) ∧
      (s.startSkipping conf t).skipPulseCnt =
        conf.skipPPSPulseCnt + 1 - (p.count conf.gnssOutageInSec t).since := by
  have hpos : 0 < (p.count conf.gnssOutageInSec t).since := by
    unfold Pulses.count
    dsimp only
    split
    · exact Nat.zero_lt_one
    · exact Nat.succ_pos _
  rcases Nat.eq_zero_or_pos conf.skipPPSPulseCnt with hnone | hcnt
  · have hold : s.isFirstPulseReceived = false ∧ s.skipPulseCnt = 0 := by
      cases hlast : p.last with
      | none => exact h.first hlast
      | some last =>
        obtain ⟨-, hfirst, hskip⟩ := h.later last hlast
        rw [hnone] at hfirst hskip
        exact ⟨hfirst, hskip.trans (Nat.zero_sub _)⟩
    have hstart : s.startSkipping conf t = s := by simp [Pps.startSkipping, hnone]
    rw [hstart, hnone]
    exact ⟨hold.1, by omega⟩
  · unfold Pps.startSkipping Pulses.count
    cases hlast : p.last with
    | none => simp [hcnt, (h.first hlast).1]
    | some last =>
      obtain ⟨rfl, hfirst, hskip⟩ := h.later last hlast
      by_cases hout : conf.gnssOutageInSec < t.tv_sec - s.prevDrsyncKernelTs.tv_sec
      · simp [hcnt, hout, hfirst]
      · simp [hcnt, hout, hfirst, hskip]

theorem Reports.startSkipping (h : Reports s p) (conf : PpsConf) (t : PpsSyncTime) :
    Reports { s.startSkipping conf t with prevDrsyncKernelTs := t }
      (p.count conf.gnssOutageInSec t) := by
  unfold Pps.startSkipping
  split_ifs <;> exact ⟨h.normal, h.kernel, h.user, h.unseen, h.seen⟩

theorem Pps.readPps_none {c : PpsCall} (h : c.ioctl = none) : s.readPps conf c = s := by
  unfold readPps
  rw [h]
  exact if_pos (by decide)

theorem Pps.readPps_some {c : PpsCall} {t : KernelTime} (h : c.ioctl = some t) :
    s.readPps conf c =
      let s := { s.startSkipping conf t with prevDrsyncKernelTs := t }
      if s.skipPulseCnt > 0 then { s with skipPulseCnt := s.skipPulseCnt - 1 }
      else s.computeRealToBootTime c.bootTime c.realTime t := by
  unfold readPps
  rw [h]
  exact if_neg (by decide)

namespace WatchedPps

/-- The account is followed. -/
def Follows (conf : PpsConf) (w : WatchedPps) : Prop :=
  Reports w.pps w.pulses ∧ Counts conf w.pps w.pulses

theorem follows_new (conf : PpsConf) : new.Follows conf :=
  ⟨⟨by decide, rfl, rfl, fun _ => rfl, nofun⟩, fun _ => ⟨rfl, rfl⟩, nofun⟩

theorem Follows.step {w : WatchedPps} (h : w.Follows conf) (c : PpsCall) :
    (w.step conf c).1.Follows conf := by
  obtain ⟨s, p⟩ := w
  obtain ⟨hr, hc⟩ : Reports s p ∧ Counts conf s p := h
  show Reports (s.readPps conf c) (p.next conf c) ∧ Counts conf (s.readPps conf c) (p.next conf c)
  unfold Pulses.next
  cases hioctl : c.ioctl with
  | none =>
    rw [Pps.readPps_none hioctl]
    exact ⟨hr, hc⟩
  | some t =>
    obtain ⟨hfirst, hskip⟩ := hc.startSkipping t.1
    have hr' := hr.startSkipping conf t.1
    have hc' : ∀ left, left = conf.skipPPSPulseCnt - (p.count conf.gnssOutageInSec t).since →
        Counts conf { s.startSkipping conf t with
          prevDrsyncKernelTs := t, skipPulseCnt := left } (p.count conf.gnssOutageInSec t) := by
      rintro left rfl
      refine ⟨nofun, ?_⟩
      rintro last ⟨⟩
      exact ⟨rfl, hfirst, rfl⟩
    rw [Pps.readPps_some hioctl]
    dsimp only
    by_cases hleft : (p.count conf.gnssOutageInSec t).since ≤ conf.skipPPSPulseCnt
    · rw [if_pos hleft, if_pos (by rw [hskip]; omega)]
      exact ⟨⟨hr'.normal, hr'.kernel, hr'.user, hr'.unseen, hr'.seen⟩, hc' _ (by rw [hskip]; omega)⟩
    · have hnow := hc' (s.startSkipping conf t).skipPulseCnt (by rw [hskip]; omega)
      rw [if_neg hleft, if_neg (by rw [hskip]; omega)]
      unfold Pps.computeRealToBootTime
      cases c.bootTime with
      | none => exact ⟨hr', hnow⟩
      | some boot =>
        cases c.realTime with
        | none => exact ⟨hr', hnow⟩
        | some real => exact ⟨hr'.take t.2 boot real, hnow.take t boot real⟩

/-- Over any run of calls the two times are those of the last pulse that the account
takes, and a fetch that fails changes nothing. -/
theorem follows_pulses (conf : PpsConf) (calls : List PpsCall) :
    StatesMeet (step conf) Right new calls ∧
      StepsMeet (step conf) (fun w c => c.ioctl = none → (step conf w c).1 = w) new calls := by
  refine ⟨?_, stepsMeet_iff.mpr fun pre c post _ hfail => ?_⟩
  · have hfollows : StatesMeet (step conf) (Follows conf) new calls :=
      statesMeet_of_invariant (fun w c h => h.step c) (follows_new conf) calls
    exact hfollows.mono fun w h => ⟨h.1.normal, h.1.kernel, h.1.user⟩
  · unfold step Pulses.next
    rw [Pps.readPps_none hfail, hfail]

/-- The clocks are 40 ms apart; the pulse is in real time. -/
def closeClocks : PpsCall where
  ioctl := some ⟨⟨1000, 10000000⟩, by decide⟩
  bootTime := some ⟨⟨1000, 60000000⟩, by decide⟩
  realTime := some ⟨⟨1000, 20000000⟩, by decide⟩
  inRealTime := true

/-- It is taken as it is. -/
theorem not_shifted_closeClocks : ¬ ∀ (conf : PpsConf) (calls : List PpsCall),
      StepsMeet (step conf) (fun w c =>
        (step conf w c).1.pps.drsyncKernelTs ≠ w.pps.drsyncKernelTs →
          ∀ ns ∈ c.inBootTime, (step conf w c).1.pps.drsyncKernelTs.ns = ns) new calls := by
  intro h
  have hkernel : (step ⟨0, 1⟩ new closeClocks).1.pps.drsyncKernelTs.ns = 1000010000000 :=
    ((follows_new _).step closeClocks).1.kernel
  have hmoved : (step ⟨0, 1⟩ new closeClocks).1.pps.drsyncKernelTs ≠ ⟨0, 0⟩ := by
    intro hsame
    rw [hsame] at hkernel
    exact absurd hkernel (by decide)
  have hshifted := (h ⟨0, 1⟩ [closeClocks]).1 hmoved 1000050000000 rfl
  exact absurd (hkernel.symm.trans hshifted) (by decide)

end WatchedPps

end LocStack.Gnss.PpsPulses
