/-
# `LocStack.LocApi.Measurements` — the record of an epoch

The modem sends the measurements of an epoch in several messages, one or more
for each satellite system.  reportGnssMeasurementData puts them together in one
buffer and hands it over with the last message, or with the first one of what
comes next:

    maxMessageNum = seqNum      the epoch is complete
    seqNum = 1                  the last message was lost
    another refFCount           the first one was lost as well

stopFix is to free the buffer, but tests it the wrong way round, so what was
collected when a session ends is still there in the next one.  isNhz is taken
from a message that opens an epoch only, and is cleared with the buffer, which
a message of an unknown system does not fill.

`records_right`: the records are right in every run where nothing is left from
a session that has ended, nor isNhz from an epoch of unknown systems, where the
messages of an epoch agree on it and the extended measurements come behind
others.
-/
import LocStack.Base.Run
import Mathlib.Data.List.Flatten
import Mathlib.Data.List.Nodup

namespace LocStack.LocApi

open Base List Option

/-! ## Messages -/

inductive QmiLocSvSystem where
  | eQMI_LOC_SV_SYSTEM_GPS_V02 | eQMI_LOC_SV_SYSTEM_GALILEO_V02 | eQMI_LOC_SV_SYSTEM_SBAS_V02
  | eQMI_LOC_SV_SYSTEM_COMPASS_V02 | eQMI_LOC_SV_SYSTEM_GLONASS_V02 | eQMI_LOC_SV_SYSTEM_BDS_V02
  | eQMI_LOC_SV_SYSTEM_QZSS_V02 | eQMI_LOC_SV_SYSTEM_NAVIC_V02
  /-- what a later modem may send -/
  | other (value : Int32)
  deriving DecidableEq

inductive GnssLocSvSystem where
  | GNSS_LOC_SV_SYSTEM_UNKNOWN | GNSS_LOC_SV_SYSTEM_GPS | GNSS_LOC_SV_SYSTEM_GALILEO
  | GNSS_LOC_SV_SYSTEM_SBAS | GNSS_LOC_SV_SYSTEM_GLONASS | GNSS_LOC_SV_SYSTEM_BDS
  | GNSS_LOC_SV_SYSTEM_QZSS | GNSS_LOC_SV_SYSTEM_NAVIC
  deriving DecidableEq

inductive GnssSvType where
  | GNSS_SV_TYPE_UNKNOWN | GNSS_SV_TYPE_GPS | GNSS_SV_TYPE_SBAS | GNSS_SV_TYPE_GLONASS
  | GNSS_SV_TYPE_QZSS | GNSS_SV_TYPE_BEIDOU | GNSS_SV_TYPE_GALILEO | GNSS_SV_TYPE_NAVIC
  deriving DecidableEq

open QmiLocSvSystem GnssLocSvSystem GnssSvType

def getLocApiSvSystemType : QmiLocSvSystem → GnssLocSvSystem
  | eQMI_LOC_SV_SYSTEM_GPS_V02 => GNSS_LOC_SV_SYSTEM_GPS
  | eQMI_LOC_SV_SYSTEM_GALILEO_V02 => GNSS_LOC_SV_SYSTEM_GALILEO
  | eQMI_LOC_SV_SYSTEM_SBAS_V02 => GNSS_LOC_SV_SYSTEM_SBAS
  | eQMI_LOC_SV_SYSTEM_GLONASS_V02 => GNSS_LOC_SV_SYSTEM_GLONASS
  | eQMI_LOC_SV_SYSTEM_BDS_V02 | eQMI_LOC_SV_SYSTEM_COMPASS_V02 => GNSS_LOC_SV_SYSTEM_BDS
  | eQMI_LOC_SV_SYSTEM_QZSS_V02 => GNSS_LOC_SV_SYSTEM_QZSS
  | eQMI_LOC_SV_SYSTEM_NAVIC_V02 => GNSS_LOC_SV_SYSTEM_NAVIC
  | other _ => GNSS_LOC_SV_SYSTEM_UNKNOWN

abbrev QMI_LOC_SV_MEAS_LIST_MAX_SIZE : Nat := 16

abbrev QMI_LOC_EXT_SV_MEAS_LIST_MAX_SIZE : Nat := 8

abbrev GNSS_MEASUREMENTS_MAX : Nat := 128

def QMI_LOC_MASK_MEAS_STATUS_GNSS_FRESH_MEAS_STAT_BIT_VALID : UInt64 := 0x08000000

def QMI_LOC_MASK_MEAS_STATUS_GNSS_FRESH_MEAS_VALID : UInt64 := 0x08000000

structure QmiLocSVMeasurement where
  gnssSvId : UInt16
  (validMeasStatusMask measurementStatus : UInt64)
  deriving DecidableEq

def QmiLocSVMeasurement.fresh (sv : QmiLocSVMeasurement) : Bool :=
  sv.validMeasStatusMask &&& QMI_LOC_MASK_MEAS_STATUS_GNSS_FRESH_MEAS_STAT_BIT_VALID != 0 &&
    sv.measurementStatus &&& QMI_LOC_MASK_MEAS_STATUS_GNSS_FRESH_MEAS_VALID != 0

/-- A qmiLocEventGnssSvMeasInfoIndMsgT_v02; of an optional field that is not
valid nothing is read. -/
structure SvMeasInfo where
  (seqNum maxMessageNum : UInt8)
  /-- subSeqNum and maxSubSeqNum -/
  subSeq : Option UInt8 × Option UInt8
  system : QmiLocSvSystem
  systemTimeExt_valid : Bool
  refFCount : UInt32
  nHzMeasurement : Option UInt8
  (svMeasurement extSvMeasurement : Option (List QmiLocSVMeasurement))
  deriving DecidableEq

namespace SvMeasInfo

variable (report : SvMeasInfo)

/-- Both are taken, or neither. -/
def subSeqNums : UInt8 × UInt8 :=
  match report.subSeq with
  | (some subSeqNum, some maxSubSeqNum) => (subSeqNum, maxSubSeqNum)
  | _ => (0, 0)

def wellNumbered : Bool :=
  !(report.seqNum > report.maxMessageNum || report.subSeqNums.1 > report.subSeqNums.2)

/-- It is the last message of its epoch. -/
def closes : Bool :=
  report.maxMessageNum == report.seqNum && report.subSeqNums.2 == report.subSeqNums.1

def announcesNhz : Bool := report.nHzMeasurement.any (· != 0)

def known : Bool := getLocApiSvSystemType report.system != GNSS_LOC_SV_SYSTEM_UNKNOWN

end SvMeasInfo

/-! ## The buffer -/

structure GnssMeasurementsData where
  svId : UInt16
  svType : GnssSvType

structure GnssSVMeasurement where
  gnssSystem : GnssLocSvSystem
  gnssSvId : UInt16
  validMeasStatusMask : UInt64

/-- A deprecated COMPASS is BDS in the one list and unknown in the other. -/
def svTypeOf : QmiLocSvSystem → GnssSvType
  | eQMI_LOC_SV_SYSTEM_GPS_V02 => GNSS_SV_TYPE_GPS
  | eQMI_LOC_SV_SYSTEM_GALILEO_V02 => GNSS_SV_TYPE_GALILEO
  | eQMI_LOC_SV_SYSTEM_SBAS_V02 => GNSS_SV_TYPE_SBAS
  | eQMI_LOC_SV_SYSTEM_GLONASS_V02 => GNSS_SV_TYPE_GLONASS
  | eQMI_LOC_SV_SYSTEM_BDS_V02 => GNSS_SV_TYPE_BEIDOU
  | eQMI_LOC_SV_SYSTEM_QZSS_V02 => GNSS_SV_TYPE_QZSS
  | eQMI_LOC_SV_SYSTEM_NAVIC_V02 => GNSS_SV_TYPE_NAVIC
  | eQMI_LOC_SV_SYSTEM_COMPASS_V02 | other _ => GNSS_SV_TYPE_UNKNOWN

/-- What both lists are given of a measurement. -/
def convertGnssMeasurements (system : QmiLocSvSystem) (sv : QmiLocSVMeasurement) :
    GnssMeasurementsData × GnssSVMeasurement :=
  (⟨sv.gnssSvId, svTypeOf system⟩,
    ⟨getLocApiSvSystemType system, sv.gnssSvId, sv.validMeasStatusMask⟩)

structure GnssMeasurements where
  count : Nat
  measurements : List GnssMeasurementsData
  svMeas : List GnssSVMeasurement
  svMeasCount : Nat
  isNhz : Bool

namespace GnssMeasurements

def reset : GnssMeasurements := ⟨0, [], [], 0, false⟩

variable (buf : GnssMeasurements)

def add (system : QmiLocSvSystem) (sv : QmiLocSVMeasurement) : GnssMeasurements :=
  let entry := convertGnssMeasurements system sv
  { buf with
    count := buf.count + 1
    measurements := buf.measurements ++ [entry.1]
    svMeas := buf.svMeas ++ [entry.2] }

/-- The loop over one of the two arrays of a message. -/
def collect (system : QmiLocSvSystem) : GnssMeasurements → List QmiLocSVMeasurement →
    GnssMeasurements
  | buf, [] => buf
  | buf, sv :: svs =>
    if buf.count < GNSS_MEASUREMENTS_MAX then
      collect system (if sv.fresh then buf.add system sv else buf) svs
    else buf

/-- The extended array is looked at behind the other one only. -/
def collectAll (report : SvMeasInfo) : GnssMeasurements :=
  match report.svMeasurement with
  | none => buf
  | some svs =>
    if svs.length ≠ 0 ∧ svs.length ≤ QMI_LOC_SV_MEAS_LIST_MAX_SIZE then
      let buf := buf.collect report.system svs
      match report.extSvMeasurement with
      | none => buf
      | some ext =>
        if ext.length ≠ 0 ∧ ext.length ≤ QMI_LOC_EXT_SV_MEAS_LIST_MAX_SIZE then
          buf.collect report.system ext
        else buf
    else buf

end GnssMeasurements

/-! ## Putting an epoch together -/

/-- A fresh measurement that has come, with the session and the epoch it came
in, its message and its place there. -/
structure Received where
  session : Nat
  refFCount : UInt32
  (arrival index : Nat)
  system : QmiLocSvSystem
  sv : QmiLocSVMeasurement

/-- An epoch: what has been announced for it, and what has come that is in no
record yet. -/
structure Epoch where
  session : Nat
  refFCount : UInt32
  isNhz : Bool
  pending : List Received

/-- A record that the adapters are given, the session that runs then, and the
epoch it is for. -/
structure Handed where
  record : GnssMeasurements
  session : Nat
  epoch : Epoch

structure Assembly where
  mInSession : Bool
  mGnssMeasurements : Option GnssMeasurements
  prevRefFCount : UInt32
  newMeasProcessed : Bool
  /-- how many sessions have begun -/
  session : Nat
  /-- how many messages have been taken -/
  arrivals : Nat
  epoch : Epoch
  received : List Received

namespace Assembly

def init : Assembly := ⟨false, none, 0, false, 0, 0, ⟨0, 0, false, []⟩, []⟩

variable (s : Assembly) (report : SvMeasInfo)

def reportSvMeasurementInternal : List Handed :=
  match s.mGnssMeasurements with
  | none => []
  | some buf => [⟨{ buf with svMeasCount := buf.count }, s.session, s.epoch⟩]

def resetSvMeasurementReport : Assembly :=
  { s with mGnssMeasurements := some .reset }

/-- The record goes out, and what was pending is in it. -/
def handOver : Assembly × List Handed :=
  ({ s.resetSvMeasurementReport with
      newMeasProcessed := false
      epoch := { s.epoch with pending := [] } },
    s.reportSvMeasurementInternal)

def allocate : Assembly :=
  match s.mGnssMeasurements with
  | none => { s.resetSvMeasurementReport with newMeasProcessed := false }
  | some _ => s

def opens : Bool :=
  (report.seqNum == 1 && report.subSeqNums.1 ≤ 1) ||
    (report.systemTimeExt_valid && report.refFCount != s.prevRefFCount)

/-- What a message that opens an epoch does first. -/
def openEpoch : Assembly × List Handed :=
  if s.opens report then
    let r := if s.newMeasProcessed then s.handOver else (s, [])
    ({ r.1 with
        prevRefFCount := report.refFCount
        mGnssMeasurements := r.1.mGnssMeasurements.map fun buf =>
          if report.announcesNhz then { buf with isNhz := true } else buf }, r.2)
  else (s, [])

def SameEpoch : Prop :=
  s.epoch.session = s.session ∧ s.epoch.refFCount = report.refFCount
  deriving Decidable

/-- The fresh measurements of a message of a known system. -/
def incoming : List Received :=
  if report.known then
    ((report.svMeasurement.getD [] ++ report.extSvMeasurement.getD []).zipIdx.filter
        fun p => p.1.fresh).map
      fun p => ⟨s.session, report.refFCount, s.arrivals, p.2, report.system, p.1⟩
  else []

/-- The message is noted with its epoch. -/
def note : Assembly :=
  let epoch := if s.SameEpoch report then s.epoch else ⟨s.session, report.refFCount, false, []⟩
  { s with
    arrivals := s.arrivals + 1
    received := s.received ++ s.incoming report
    epoch :=
      { epoch with
        isNhz := epoch.isNhz || report.announcesNhz
        pending := epoch.pending ++ s.incoming report } }

def takeIn : Assembly :=
  { s with
    newMeasProcessed := true
    mGnssMeasurements := s.mGnssMeasurements.map (·.collectAll report) }

def closeEpoch : Assembly × List Handed :=
  if report.closes then s.handOver else (s, [])

def reportGnssMeasurementData : Assembly × List Handed :=
  let s := s.allocate
  if report.wellNumbered then
    let r := s.openEpoch report
    let s := r.1.note report
    if report.known then
      let q := (s.takeIn report).closeEpoch report
      (q.1, r.2 ++ q.2)
    else (s, r.2)
  else (s, [])

end Assembly

inductive MeasEvent where
  | startFix | startTimeBasedTracking | stopFix
  /-- with whether the request was sent -/
  | stopTimeBasedTracking (sent : Bool)
  | gnssMeasurementReport (report : SvMeasInfo)

namespace Assembly

variable (s : Assembly)

def startSession : Assembly :=
  { s with
    mInSession := true
    session := if s.mInSession then s.session else s.session + 1 }

/-- The buffer is freed if there is none. -/
def stopFix : Assembly :=
  { s with
    mInSession := false
    mGnssMeasurements := if s.mGnssMeasurements.isNone then none else s.mGnssMeasurements }

def step : MeasEvent → Assembly × List Handed
  | .startFix | .startTimeBasedTracking => (s.startSession, [])
  | .stopFix => (s.stopFix, [])
  | .stopTimeBasedTracking sent => (if sent then { s with mInSession := false } else s, [])
  | .gnssMeasurementReport report =>
    if s.mInSession then s.reportGnssMeasurementData report else (s, [])

end Assembly

/-! ## What a record is to be -/

/-- What the conversion is given of a measurement. -/
def Received.source (r : Received) : QmiLocSvSystem × QmiLocSVMeasurement := (r.system, r.sv)

/-- Both lists of the buffer are of these measurements, as far as they go. -/
structure GnssMeasurements.Holds (buf : GnssMeasurements)
    (ps : List (QmiLocSvSystem × QmiLocSVMeasurement)) : Prop where
  count_eq : buf.count = (ps.take GNSS_MEASUREMENTS_MAX).length
  measurements_eq : buf.measurements =
    (ps.take GNSS_MEASUREMENTS_MAX).map fun p => (convertGnssMeasurements p.1 p.2).1
  svMeas_eq : buf.svMeas =
    (ps.take GNSS_MEASUREMENTS_MAX).map fun p => (convertGnssMeasurements p.1 p.2).2

/-- What is in the record. -/
def Handed.reported (handed : Handed) : List Received :=
  handed.epoch.pending.take GNSS_MEASUREMENTS_MAX

structure Handed.Right (handed : Handed) : Prop where
  running : handed.epoch.session = handed.session
  one_frame : ∀ r ∈ handed.epoch.pending,
    r.session = handed.session ∧ r.refFCount = handed.epoch.refFCount
  holds : handed.record.Holds (handed.epoch.pending.map Received.source)
  svMeasCount_eq : handed.record.svMeasCount = handed.record.count
  isNhz_eq : handed.record.isNhz = handed.epoch.isNhz

/-- The modem sends a frame count, and no list is longer than its array. -/
structure SvMeasInfo.WellFormed (report : SvMeasInfo) : Prop where
  framed : report.systemTimeExt_valid = true
  svMeasurement_le : (report.svMeasurement.getD []).length ≤ QMI_LOC_SV_MEAS_LIST_MAX_SIZE
  extSvMeasurement_le : (report.extSvMeasurement.getD []).length ≤ QMI_LOC_EXT_SV_MEAS_LIST_MAX_SIZE

instance (report : SvMeasInfo) : Decidable report.WellFormed :=
  decidable_of_iff (_ ∧ _ ∧ _) ⟨fun h => ⟨h.1, h.2.1, h.2.2⟩, fun h => ⟨h.1, h.2, h.3⟩⟩

def MeasEvent.WellFormed : MeasEvent → Prop
  | gnssMeasurementReport report => report.WellFormed
  | _ => True

instance : ∀ e : MeasEvent, Decidable e.WellFormed
  | .gnssMeasurementReport report => inferInstanceAs (Decidable report.WellFormed)
  | .startFix | .startTimeBasedTracking | .stopFix | .stopTimeBasedTracking _ => .isTrue trivial

namespace Assembly

variable (s : Assembly) (report : SvMeasInfo)

/-- What the buffer says now. -/
def isNhz : Bool := s.mGnssMeasurements.any (·.isNhz)

/-- What is asked of a message. -/
def InTurn : Prop :=
  (s.newMeasProcessed = true → s.epoch.session = s.session) ∧
  (s.SameEpoch report → report.announcesNhz = s.epoch.isNhz) ∧
  (s.newMeasProcessed = false → s.isNhz = true → report.announcesNhz = true) ∧
  (s.newMeasProcessed = false → report.announcesNhz = true →
    s.isNhz = true ∨ s.opens report = true) ∧
  ((report.extSvMeasurement.getD []).any (·.fresh) = true → report.svMeasurement.getD [] ≠ [])
  deriving Decidable

def Orderly : MeasEvent → Prop
  | .gnssMeasurementReport report =>
    s.mInSession = true → report.wellNumbered = true → s.InTurn report
  | _ => True

instance : ∀ e, Decidable (s.Orderly e)
  | .gnssMeasurementReport _ => inferInstanceAs (Decidable (_ → _))
  | .startFix | .startTimeBasedTracking | .stopFix | .stopTimeBasedTracking _ => .isTrue trivial

end Assembly

/-! ## The loops -/

namespace GnssMeasurements

variable {buf : GnssMeasurements} {ps : List (QmiLocSvSystem × QmiLocSVMeasurement)}
  {system : QmiLocSvSystem} {sv : QmiLocSVMeasurement} {report : SvMeasInfo}

theorem holds_reset : reset.Holds [] := ⟨rfl, rfl, rfl⟩

theorem Holds.add (h : buf.Holds ps) (hroom : ps.length < GNSS_MEASUREMENTS_MAX) :
    (buf.add system sv).Holds (ps ++ [(system, sv)]) := by
  have hps : ps.take GNSS_MEASUREMENTS_MAX = ps := take_of_length_le (Nat.le_of_lt hroom)
  have hlast : (ps ++ [(system, sv)]).take GNSS_MEASUREMENTS_MAX = ps ++ [(system, sv)] :=
    take_of_length_le (by rw [length_append]; exact hroom)
  obtain ⟨hcount, hmeas, hsv⟩ := h
  constructor
  · show buf.count + 1 = _
    rw [hcount, hps, hlast, length_append, length_singleton]
  · show buf.measurements ++ [_] = _
    rw [hmeas, hps, hlast, map_append, map_singleton]
  · show buf.svMeas ++ [_] = _
    rw [hsv, hps, hlast, map_append, map_singleton]

theorem Holds.append (h : buf.Holds ps) (hfull : GNSS_MEASUREMENTS_MAX ≤ ps.length)
    (qs : List (QmiLocSvSystem × QmiLocSVMeasurement)) : buf.Holds (ps ++ qs) := by
  have hsame : (ps ++ qs).take GNSS_MEASUREMENTS_MAX = ps.take GNSS_MEASUREMENTS_MAX :=
    take_append_of_le_length hfull
  constructor
  · rw [hsame]
    exact h.count_eq
  · rw [hsame]
    exact h.measurements_eq
  · rw [hsame]
    exact h.svMeas_eq

theorem Holds.count_lt_iff (h : buf.Holds ps) :
    buf.count < GNSS_MEASUREMENTS_MAX ↔ ps.length < GNSS_MEASUREMENTS_MAX := by
  rw [h.count_eq, length_take]
  omega

theorem Holds.collect (h : buf.Holds ps) (svs : List QmiLocSVMeasurement) :
    (buf.collect system svs).Holds (ps ++ (svs.filter (·.fresh)).map (system, ·)) := by
  induction svs generalizing buf ps with
  | nil =>
    show buf.Holds (ps ++ [])
    rw [append_nil]
    exact h
  | cons sv svs ih =>
    by_cases hroom : buf.count < GNSS_MEASUREMENTS_MAX
    · simp only [GnssMeasurements.collect, if_pos hroom]
      cases hfresh : sv.fresh with
      | false =>
        rw [filter_cons_of_neg (by simp [hfresh])]
        exact ih h
      | true =>
        rw [filter_cons_of_pos (by simp [hfresh]), map_cons, append_cons]
        exact ih (h.add (h.count_lt_iff.mp hroom))
    · simp only [GnssMeasurements.collect, if_neg hroom]
      exact h.append (Nat.le_of_not_lt fun hlt => hroom (h.count_lt_iff.mpr hlt)) _

@[simp] theorem collect_isNhz (svs : List QmiLocSVMeasurement) :
    (buf.collect system svs).isNhz = buf.isNhz := by
  induction svs generalizing buf with
  | nil => rfl
  | cons sv svs ih =>
    simp only [collect]
    split
    · rw [ih]
      split <;> rfl
    · rfl

@[simp] theorem collectAll_isNhz : (buf.collectAll report).isNhz = buf.isNhz := by
  simp only [collectAll]
  split
  · rfl
  · split
    · split
      · exact collect_isNhz _
      · split
        · rw [collect_isNhz, collect_isNhz]
        · exact collect_isNhz _
    · rfl

/-- The fresh measurements of both arrays, if the extended one comes behind
another. -/
theorem Holds.collectAll (h : buf.Holds ps) (hwf : report.WellFormed)
    (hext : (report.extSvMeasurement.getD []).any (·.fresh) = true →
      report.svMeasurement.getD [] ≠ []) :
    (buf.collectAll report).Holds
      (ps ++ ((report.svMeasurement.getD [] ++ report.extSvMeasurement.getD []).filter
        (·.fresh)).map (report.system, ·)) := by
  have hstale : report.svMeasurement.getD [] = [] →
      (report.extSvMeasurement.getD []).filter (·.fresh) = [] := by
    intro hnil
    rw [filter_eq_nil_iff]
    intro sv hsv hfresh
    exact hext (any_eq_true.mpr ⟨sv, hsv, hfresh⟩) hnil
  rw [filter_append, map_append, ← append_assoc]
  simp only [GnssMeasurements.collectAll]
  cases hsv : report.svMeasurement with
  | none =>
    rw [hstale (by rw [hsv]; rfl)]
    simpa using h
  | some svs =>
    have hle : svs.length ≤ QMI_LOC_SV_MEAS_LIST_MAX_SIZE := by
      simpa [hsv] using hwf.svMeasurement_le
    simp only [getD_some]
    by_cases hnil : svs.length ≠ 0
    · rw [if_pos ⟨hnil, hle⟩]
      cases hex : report.extSvMeasurement with
      | none => simpa using h.collect svs
      | some ext =>
        have hle' : ext.length ≤ QMI_LOC_EXT_SV_MEAS_LIST_MAX_SIZE := by
          simpa [hex] using hwf.extSvMeasurement_le
        simp only [getD_some]
        by_cases hnil' : ext.length ≠ 0
        · rw [if_pos ⟨hnil', hle'⟩]
          exact (h.collect svs).collect ext
        · rw [if_neg fun hand => hnil' hand.1, length_eq_zero_iff.mp (not_not.mp hnil')]
          simpa using h.collect svs
    · have hsvs : svs = [] := length_eq_zero_iff.mp (not_not.mp hnil)
      rw [if_neg fun hand => hnil hand.1, hstale (by rw [hsv, hsvs]; rfl), hsvs]
      simpa using h

end GnssMeasurements

/-! ## One message -/

namespace Assembly

variable {s t : Assembly} {report : SvMeasInfo}

/-- The buffer holds what is pending for the epoch. -/
structure Assembled (s : Assembly) : Prop where
  isSome : s.newMeasProcessed = true → s.mGnssMeasurements.isSome = true
  holds : ∀ buf, s.mGnssMeasurements = some buf → buf.Holds (s.epoch.pending.map Received.source)
  isNhz_eq : s.newMeasProcessed = true → s.isNhz = s.epoch.isNhz
  none_pending : s.newMeasProcessed = false → s.epoch.pending = []
  prev_eq : s.newMeasProcessed = true → s.prevRefFCount = s.epoch.refFCount
  one_frame : ∀ r ∈ s.epoch.pending, r.session = s.epoch.session ∧ r.refFCount = s.epoch.refFCount

theorem assembled_init : init.Assembled where
  isSome h := absurd h nofun
  holds _ h := absurd h nofun
  isNhz_eq h := absurd h nofun
  none_pending _ := rfl
  prev_eq h := absurd h nofun
  one_frame _ hr := absurd hr not_mem_nil

theorem source_incoming (report : SvMeasInfo) (hknown : report.known = true) :
    (s.incoming report).map Received.source =
      ((report.svMeasurement.getD [] ++ report.extSvMeasurement.getD []).filter
        (·.fresh)).map (report.system, ·) := by
  generalize hl : report.svMeasurement.getD [] ++ report.extSvMeasurement.getD [] = l
  have hfst : (l.zipIdx.filter fun p => p.1.fresh).map Prod.fst = l.filter (·.fresh) := by
    rw [← List.zipIdx_map_fst 0 l, List.filter_map, List.zipIdx_map_fst 0 l]
    rfl
  simp only [incoming, if_pos hknown, hl]
  rw [← hfst, List.map_map, List.map_map]
  rfl

theorem mem_incoming {r : Received} (hr : r ∈ s.incoming report) :
    r.session = s.session ∧ r.refFCount = report.refFCount ∧ r.arrival = s.arrivals := by
  simp only [incoming] at hr
  split at hr
  · obtain ⟨p, -, rfl⟩ := mem_map.mp hr
    exact ⟨rfl, rfl, rfl⟩
  · exact absurd hr not_mem_nil

theorem Assembled.newMeasProcessed_of_none (h : s.Assembled) (hnone : s.mGnssMeasurements = none) :
    s.newMeasProcessed = false := by
  refine Bool.eq_false_iff.mpr fun hnew => ?_
  have hsome := h.isSome hnew
  rw [hnone] at hsome
  exact absurd hsome nofun

theorem Assembled.right (h : s.Assembled) (hnew : s.newMeasProcessed = true)
    (hrun : s.epoch.session = s.session) :
    ∀ handed ∈ s.reportSvMeasurementInternal, handed.Right := by
  intro handed hmem
  simp only [reportSvMeasurementInternal] at hmem
  cases hbuf : s.mGnssMeasurements with
  | none =>
    rw [hbuf] at hmem
    exact absurd hmem not_mem_nil
  | some buf =>
    rw [hbuf] at hmem
    obtain rfl := mem_singleton.mp hmem
    obtain ⟨hcount, hmeas, hsv⟩ := h.holds buf hbuf
    have hnhz := h.isNhz_eq hnew
    simp only [isNhz, hbuf, any_some] at hnhz
    exact {
      running := hrun
      one_frame := fun r hr =>
        ⟨(h.one_frame r hr).1.trans hrun, (h.one_frame r hr).2⟩
      holds := ⟨hcount, hmeas, hsv⟩
      svMeasCount_eq := rfl
      isNhz_eq := hnhz }

theorem Assembled.handOver (s : Assembly) : s.handOver.1.Assembled where
  isSome h := absurd h nofun
  holds buf h := by
    obtain rfl := some.inj h
    exact GnssMeasurements.holds_reset
  isNhz_eq h := absurd h nofun
  none_pending _ := rfl
  prev_eq h := absurd h nofun
  one_frame _ hr := absurd hr not_mem_nil

theorem Assembled.allocate (h : s.Assembled) : s.allocate.Assembled := by
  simp only [Assembly.allocate]
  split
  case h_2 => exact h
  case h_1 hnone =>
    have hnew := h.newMeasProcessed_of_none hnone
    have hpending := h.none_pending hnew
    exact {
      isSome := nofun
      holds := fun buf hbuf => by
        obtain rfl := some.inj hbuf
        show GnssMeasurements.reset.Holds (s.epoch.pending.map _)
        rw [hpending]
        exact GnssMeasurements.holds_reset
      isNhz_eq := nofun
      none_pending := fun _ => hpending
      prev_eq := nofun
      one_frame := h.one_frame }

theorem isSome_allocate (s : Assembly) : s.allocate.mGnssMeasurements.isSome = true := by
  simp only [Assembly.allocate]
  split
  · rfl
  · next h => rw [h]; rfl

theorem Assembled.allocate_new (h : s.Assembled) :
    s.allocate.newMeasProcessed = s.newMeasProcessed ∧ s.allocate.isNhz = s.isNhz := by
  simp only [Assembly.allocate]
  split
  case h_2 => exact ⟨rfl, rfl⟩
  case h_1 hnone =>
    have hnew := h.newMeasProcessed_of_none hnone
    exact ⟨hnew.symm, by simp only [isNhz, hnone]; rfl⟩

theorem allocate_epoch (s : Assembly) : s.allocate.epoch = s.epoch ∧
    s.allocate.session = s.session ∧ s.allocate.prevRefFCount = s.prevRefFCount := by
  simp only [Assembly.allocate]
  split <;> exact ⟨rfl, rfl, rfl⟩

theorem Assembled.inTurn_allocate (h : s.Assembled) (hturn : s.InTurn report) :
    s.allocate.InTurn report := by
  obtain ⟨hnew, hnhz⟩ := h.allocate_new
  obtain ⟨hepoch, hsession, hprev⟩ := s.allocate_epoch
  simpa only [InTurn, SameEpoch, opens, hnew, hnhz, hepoch, hsession, hprev] using hturn

/-- An epoch has been opened for the message, or is open. -/
structure Opened (s : Assembly) (report : SvMeasInfo) : Prop where
  isSome : s.mGnssMeasurements.isSome = true
  holds : ∀ buf, s.mGnssMeasurements = some buf → buf.Holds (s.epoch.pending.map Received.source)
  same : s.newMeasProcessed = true → s.SameEpoch report
  none_pending : s.newMeasProcessed = false → s.epoch.pending = []
  prev_eq : s.prevRefFCount = report.refFCount
  agrees : s.SameEpoch report → report.announcesNhz = s.epoch.isNhz
  isNhz_eq : s.isNhz = report.announcesNhz
  one_frame : ∀ r ∈ s.epoch.pending, r.session = s.epoch.session ∧ r.refFCount = s.epoch.refFCount

variable {buf : Option GnssMeasurements}

theorem holds_marked {mark : Bool} {new : GnssMeasurements}
    {ps : List (QmiLocSvSystem × QmiLocSVMeasurement)} (h : ∀ buf', buf = some buf' → buf'.Holds ps)
    (hnew : (buf.map fun b => if mark then { b with isNhz := true } else b) = some new) :
    new.Holds ps := by
  obtain ⟨old, hold, rfl⟩ := map_eq_some_iff.mp hnew
  obtain ⟨hcount, hmeas, hsv⟩ := h old hold
  cases mark with
  | false => exact ⟨hcount, hmeas, hsv⟩
  | true => exact ⟨hcount, hmeas, hsv⟩

theorem any_marked (mark : Bool) (h : buf.isSome = true) :
    (buf.map fun b => if mark then { b with isNhz := true } else b).any (·.isNhz) =
      (mark || buf.any (·.isNhz)) := by
  obtain ⟨b, rfl⟩ := isSome_iff_exists.mp h
  cases mark with
  | false => rfl
  | true => rfl

theorem Assembled.openEpoch (h : s.Assembled) (hsome : s.mGnssMeasurements.isSome = true)
    (hwf : report.WellFormed) (hturn : s.InTurn report) :
    (s.openEpoch report).1.Opened report := by
  obtain ⟨hrun, hagrees, hcleared, hmark, -⟩ := hturn
  simp only [Assembly.openEpoch]
  cases hopens : s.opens report with
  | true =>
    rw [if_pos rfl]
    cases hnew : s.newMeasProcessed with
    | true =>
      rw [if_pos rfl]
      exact {
        isSome := rfl
        holds := fun buf hbuf => holds_marked (Assembled.handOver s).holds hbuf
        same := fun h => absurd h nofun
        none_pending := fun _ => rfl
        prev_eq := rfl
        agrees := hagrees
        isNhz_eq := by
          show (if report.announcesNhz then _ else GnssMeasurements.reset).isNhz = _
          cases report.announcesNhz with
          | false => rfl
          | true => rfl
        one_frame := fun _ hr => absurd hr not_mem_nil }
    | false =>
      rw [if_neg nofun]
      exact {
        isSome := by simpa using hsome
        holds := fun buf hbuf => holds_marked h.holds hbuf
        same := fun hnew' => absurd (hnew.symm.trans hnew') nofun
        none_pending := fun _ => h.none_pending hnew
        prev_eq := rfl
        agrees := hagrees
        isNhz_eq := by
          refine (any_marked report.announcesNhz hsome).trans ?_
          cases hann : report.announcesNhz with
          | true => rfl
          | false =>
            refine Bool.eq_false_iff.mpr fun hnhz => ?_
            exact absurd ((hcleared hnew hnhz).symm.trans hann) nofun
        one_frame := h.one_frame }
  | false =>
    rw [if_neg nofun]
    have hprev : s.prevRefFCount = report.refFCount := by
      simp only [opens, hwf.framed, Bool.true_and, Bool.or_eq_false_iff, bne_eq_false_iff_eq]
        at hopens
      exact hopens.2.symm
    exact {
      isSome := hsome
      holds := h.holds
      same := fun hnew => ⟨hrun hnew, (h.prev_eq hnew).symm.trans hprev⟩
      none_pending := h.none_pending
      prev_eq := hprev
      agrees := hagrees
      isNhz_eq := by
        cases hnew : s.newMeasProcessed with
        | true =>
          have hsame : s.SameEpoch report := ⟨hrun hnew, (h.prev_eq hnew).symm.trans hprev⟩
          exact (h.isNhz_eq hnew).trans (hagrees hsame).symm
        | false =>
          cases hann : report.announcesNhz with
          | true =>
            rcases hmark hnew hann with hnhz | hopens'
            · exact hnhz
            · exact absurd (hopens.symm.trans hopens') nofun
          | false =>
            refine Bool.eq_false_iff.mpr fun hnhz => ?_
            exact absurd ((hcleared hnew hnhz).symm.trans hann) nofun
      one_frame := h.one_frame }

theorem Assembled.right_openEpoch (h : s.Assembled) (hturn : s.InTurn report) :
    ∀ handed ∈ (s.openEpoch report).2, handed.Right := by
  simp only [Assembly.openEpoch]
  split
  · cases hnew : s.newMeasProcessed with
    | true => exact h.right hnew (hturn.1 hnew)
    | false => exact fun _ hmem => absurd hmem not_mem_nil
  · exact fun _ hmem => absurd hmem not_mem_nil

theorem Opened.note (h : s.Opened report) :
    (s.note report).epoch = ⟨s.session, report.refFCount, s.isNhz,
      s.epoch.pending ++ s.incoming report⟩ := by
  simp only [Assembly.note]
  by_cases hsame : s.SameEpoch report
  · rw [if_pos hsame, ← h.agrees hsame, Bool.or_self, h.isNhz_eq, ← hsame.1, ← hsame.2]
  · have hpending : s.epoch.pending = [] := by
      cases hnew : s.newMeasProcessed with
      | true => exact absurd (h.same hnew) hsame
      | false => exact h.none_pending hnew
    rw [if_neg hsame, Bool.false_or, h.isNhz_eq, hpending]

theorem Opened.one_frame_note (h : s.Opened report) : ∀ r ∈ s.epoch.pending ++ s.incoming report,
      r.session = s.session ∧ r.refFCount = report.refFCount := by
  intro r hr
  rcases mem_append.mp hr with hold | hnew
  · cases hproc : s.newMeasProcessed with
    | true =>
      obtain ⟨hsession, hframe⟩ := h.same hproc
      obtain ⟨hs, hf⟩ := h.one_frame r hold
      exact ⟨hs.trans hsession, hf.trans hframe⟩
    | false =>
      rw [h.none_pending hproc] at hold
      exact absurd hold not_mem_nil
  · obtain ⟨hs, hf, -⟩ := mem_incoming hnew
    exact ⟨hs, hf⟩

theorem Opened.assembled_note (h : s.Opened report) (hknown : report.known = false) :
    (s.note report).Assembled := by
  have hincoming : s.incoming report = [] := by
    simp only [incoming, hknown, Bool.false_eq_true, if_false]
  have hepoch := h.note
  have hframe := h.one_frame_note
  rw [hincoming, append_nil] at hepoch hframe
  exact {
    isSome := fun _ => h.isSome
    holds := fun buf hbuf => by
      rw [hepoch]
      exact h.holds buf hbuf
    isNhz_eq := fun _ => by
      rw [hepoch]
      rfl
    none_pending := fun hnew => by
      rw [hepoch]
      exact h.none_pending hnew
    prev_eq := fun _ => by
      rw [hepoch]
      exact h.prev_eq
    one_frame := by
      rw [hepoch]
      exact hframe }

theorem Opened.assembled_takeIn (h : s.Opened report) (hwf : report.WellFormed)
    (hknown : report.known = true)
    (hext : (report.extSvMeasurement.getD []).any (·.fresh) = true →
      report.svMeasurement.getD [] ≠ []) :
    ((s.note report).takeIn report).Assembled := by
  have hepoch : ((s.note report).takeIn report).epoch = _ := h.note
  obtain ⟨old, hold⟩ := isSome_iff_exists.mp h.isSome
  have hbuf : ((s.note report).takeIn report).mGnssMeasurements =
      some (old.collectAll report) := by
    show (s.mGnssMeasurements.map (·.collectAll report)) = _
    rw [hold]
    rfl
  exact {
    isSome := fun _ => by rw [hbuf]; rfl
    holds := fun buf hnew => by
      obtain rfl := some.inj (hbuf.symm.trans hnew)
      rw [hepoch, map_append, source_incoming report hknown]
      exact (h.holds old hold).collectAll hwf hext
    isNhz_eq := fun _ => by
      rw [hepoch]
      show Option.any _ ((s.note report).takeIn report).mGnssMeasurements = s.isNhz
      rw [hbuf, isNhz, hold, any_some, any_some, GnssMeasurements.collectAll_isNhz]
    none_pending := nofun
    prev_eq := fun _ => by
      rw [hepoch]
      exact h.prev_eq
    one_frame := by
      rw [hepoch]
      exact h.one_frame_note }

theorem Assembled.reportGnssMeasurementData (h : s.Assembled) (hwf : report.WellFormed)
    (hturn : report.wellNumbered = true → s.InTurn report) :
    (s.reportGnssMeasurementData report).1.Assembled ∧
      ∀ handed ∈ (s.reportGnssMeasurementData report).2, handed.Right := by
  simp only [Assembly.reportGnssMeasurementData]
  cases hnum : report.wellNumbered with
  | false => exact ⟨h.allocate, fun _ hmem => absurd hmem not_mem_nil⟩
  | true =>
    have hturn' := h.inTurn_allocate (hturn hnum)
    have hopened := h.allocate.openEpoch s.isSome_allocate hwf hturn'
    have hlate := h.allocate.right_openEpoch hturn'
    rw [if_pos rfl]
    cases hknown : report.known with
    | false => exact ⟨hopened.assembled_note hknown, hlate⟩
    | true =>
      have htaken := hopened.assembled_takeIn hwf hknown hturn'.2.2.2.2
      rw [if_pos rfl]
      simp only [closeEpoch]
      cases report.closes with
      | false =>
        refine ⟨htaken, fun handed hmem => ?_⟩
        rw [if_neg nofun, append_nil] at hmem
        exact hlate handed hmem
      | true =>
        refine ⟨Assembled.handOver _, fun handed hmem => ?_⟩
        rcases mem_append.mp hmem with hmem | hmem
        · exact hlate handed hmem
        · refine htaken.right rfl ?_ handed hmem
          exact congrArg Epoch.session hopened.note

end Assembly

/-! ## The session -/

namespace Assembly

theorem session_openEpoch (s : Assembly) (report : SvMeasInfo) :
    (s.openEpoch report).1.session = s.session := by
  simp only [Assembly.openEpoch]
  split
  · split <;> rfl
  · rfl

theorem session_closeEpoch (s : Assembly) (report : SvMeasInfo) :
    (s.closeEpoch report).1.session = s.session := by
  rw [Assembly.closeEpoch]
  split <;> rfl

theorem session_allocate (s : Assembly) : s.allocate.session = s.session := by
  rw [Assembly.allocate]
  split <;> rfl

theorem session_le_step (s : Assembly) (e : MeasEvent)
    (he : ∀ r, e ≠ .gnssMeasurementReport r) : s.session ≤ (s.step e).1.session := by
  cases e with
  | gnssMeasurementReport r => exact absurd rfl (he r)
  | startFix | startTimeBasedTracking =>
    show s.session ≤ if s.mInSession then s.session else s.session + 1
    split <;> omega
  | stopFix => exact Nat.le_refl _
  | stopTimeBasedTracking sent => cases sent <;> exact Nat.le_refl _

end Assembly

/-! ## Whole runs -/

namespace Assembly

variable {s : Assembly}

theorem stopFix_eq (s : Assembly) : s.stopFix = { s with mInSession := false } := by
  obtain ⟨_, buf, _⟩ := s
  cases buf with
  | none => rfl
  | some _ => rfl

theorem Assembled.step {e : MeasEvent} (h : s.Assembled) (hwf : e.WellFormed)
    (hok : s.Orderly e) :
    (s.step e).1.Assembled ∧ ∀ handed ∈ (s.step e).2, handed.Right := by
  have hnone : ∀ handed ∈ ([] : List Handed), handed.Right :=
    fun _ hmem => absurd hmem not_mem_nil
  have hstart : s.startSession.Assembled := ⟨h.1, h.2, h.3, h.4, h.5, h.6⟩
  cases e with
  | startFix => exact ⟨hstart, hnone⟩
  | startTimeBasedTracking => exact ⟨hstart, hnone⟩
  | stopFix =>
    show s.stopFix.Assembled ∧ _
    rw [stopFix_eq]
    exact ⟨⟨h.1, h.2, h.3, h.4, h.5, h.6⟩, hnone⟩
  | stopTimeBasedTracking sent =>
    cases sent with
    | false => exact ⟨h, hnone⟩
    | true => exact ⟨⟨h.1, h.2, h.3, h.4, h.5, h.6⟩, hnone⟩
  | gnssMeasurementReport report =>
    dsimp only [Assembly.step]
    cases hin : s.mInSession with
    | false => exact ⟨h, hnone⟩
    | true => exact h.reportGnssMeasurementData hwf (hok hin)

/-! ### No measurement twice -/

/-- What is handed over and what is pending has come, in this order. -/
structure Accounted (s : Assembly) (out : List Handed) : Prop where
  sublist : (out.flatMap Handed.reported ++ s.epoch.pending).Sublist s.received
  nodup : s.received.Nodup
  arrival_lt : ∀ r ∈ s.received, r.arrival < s.arrivals

theorem nodup_incoming (s : Assembly) (report : SvMeasInfo) : (s.incoming report).Nodup := by
  simp only [incoming]
  split
  · refine List.Nodup.map_on ?_ (List.Nodup.filter _ (List.Nodup.of_map Prod.snd ?_))
    case refine_2 =>
      rw [zipIdx_map_snd]
      exact nodup_range'
    intro p _ q _ heq
    exact Prod.ext (Received.mk.inj heq).2.2.2.2.2 (Received.mk.inj heq).2.2.2.1
  · exact nodup_nil

variable {out : List Handed}

theorem Accounted.handOver (h : s.Accounted out) :
    s.handOver.1.Accounted (out ++ s.handOver.2) where
  sublist := by
    have hreported : (s.handOver.2.flatMap Handed.reported).Sublist s.epoch.pending := by
      show (s.reportSvMeasurementInternal.flatMap Handed.reported).Sublist _
      simp only [reportSvMeasurementInternal]
      split
      · exact nil_sublist _
      · rw [flatMap_singleton]
        exact take_sublist _ _
    show ((out ++ s.handOver.2).flatMap Handed.reported ++ []).Sublist s.received
    rw [append_nil, flatMap_append]
    exact (hreported.append_left _).trans h.sublist
  nodup := h.nodup
  arrival_lt := h.arrival_lt

theorem Accounted.note (h : s.Accounted out) (report : SvMeasInfo) :
    (s.note report).Accounted out where
  sublist := by
    show (out.flatMap Handed.reported ++ ((if s.SameEpoch report then s.epoch else
      ⟨s.session, report.refFCount, false, []⟩ : Epoch).pending ++ s.incoming report)).Sublist
        (s.received ++ s.incoming report)
    rw [← append_assoc]
    refine List.Sublist.append_right ?_ _
    split
    · exact h.sublist
    · rw [append_nil]
      exact (sublist_append_left _ _).trans h.sublist
  nodup := by
    refine nodup_append'.mpr ⟨h.nodup, nodup_incoming s report, ?_⟩
    intro r hold hnew
    have hlt := h.arrival_lt r hold
    rw [(mem_incoming hnew).2.2] at hlt
    exact absurd hlt (Nat.lt_irrefl _)
  arrival_lt := by
    intro r hr
    show r.arrival < s.arrivals + 1
    rcases mem_append.mp hr with hold | hnew
    · exact Nat.lt_succ_of_lt (h.arrival_lt r hold)
    · rw [(mem_incoming hnew).2.2]
      exact Nat.lt_succ_self _

theorem Accounted.reportGnssMeasurementData (h : s.Accounted out) (report : SvMeasInfo) :
    (s.reportGnssMeasurementData report).1.Accounted
      (out ++ (s.reportGnssMeasurementData report).2) := by
  have hallocate : s.allocate.Accounted out := by
    simp only [Assembly.allocate]
    split <;> exact ⟨h.1, h.2, h.3⟩
  have hopen : (s.allocate.openEpoch report).1.Accounted
      (out ++ (s.allocate.openEpoch report).2) := by
    simp only [Assembly.openEpoch]
    split
    · split
      · have hover := hallocate.handOver
        exact ⟨hover.1, hover.2, hover.3⟩
      · rw [append_nil]
        exact ⟨hallocate.1, hallocate.2, hallocate.3⟩
    · rw [append_nil]
      exact hallocate
  simp only [Assembly.reportGnssMeasurementData]
  split
  · split
    · have hnote := hopen.note report
      simp only [closeEpoch]
      split
      · rw [← append_assoc]
        exact Accounted.handOver ⟨hnote.1, hnote.2, hnote.3⟩
      · rw [append_nil]
        exact ⟨hnote.1, hnote.2, hnote.3⟩
    · exact hopen.note report
  · rw [append_nil]
    exact hallocate

theorem Accounted.step (h : s.Accounted out) (e : MeasEvent) :
    (s.step e).1.Accounted (out ++ (s.step e).2) := by
  have hkeep : ∀ t : Assembly, t.epoch = s.epoch → t.received = s.received →
      t.arrivals = s.arrivals → t.Accounted (out ++ []) := by
    rintro t hepoch hreceived harrivals
    rw [append_nil]
    exact ⟨by rw [hepoch, hreceived]; exact h.1, by rw [hreceived]; exact h.2,
      by rw [hreceived, harrivals]; exact h.3⟩
  cases e with
  | startFix => exact hkeep _ rfl rfl rfl
  | startTimeBasedTracking => exact hkeep _ rfl rfl rfl
  | stopFix => exact hkeep _ rfl rfl rfl
  | stopTimeBasedTracking sent =>
    cases sent with
    | false => exact hkeep _ rfl rfl rfl
    | true => exact hkeep _ rfl rfl rfl
  | gnssMeasurementReport report =>
    dsimp only [Assembly.step]
    split
    · exact h.reportGnssMeasurementData report
    · exact hkeep _ rfl rfl rfl

theorem accounted_after (es : List MeasEvent) :
    (after step init es).Accounted (outs step init es) :=
  recorded_after (R := fun s _ out => Accounted s out) (fun _ e _ _ h => Accounted.step h e)
    (s := init) ⟨nil_sublist _, nodup_nil, fun _ hr => absurd hr not_mem_nil⟩ es

theorem nodup_reported (es : List MeasEvent) :
    ((outs step init es).flatMap Handed.reported).Nodup :=
  ((sublist_append_left _ _).trans (accounted_after es).sublist).nodup (accounted_after es).nodup

end Assembly

/-- The records are right, and no measurement is reported twice. -/
def RecordsRight (es : List MeasEvent) : Prop :=
  (∀ handed ∈ outs Assembly.step Assembly.init es, handed.Right) ∧
    ((outs Assembly.step Assembly.init es).flatMap Handed.reported).Nodup

open Assembly

theorem records_right (es : List MeasEvent) (hwf : ∀ e ∈ es, e.WellFormed)
    (hok : StepsMeet step Orderly init es) : RecordsRight es := by
  have hboth : StepsMeet step (fun s e => e.WellFormed ∧ s.Orderly e) init es :=
    (stepsMeet_of_forall hwf _).and hok
  exact ⟨forall_outs_of_stepsMeet (fun _ _ h hand => (h.step hand.1 hand.2).1)
    (fun _ _ h hand => (h.step hand.1 hand.2).2) assembled_init hboth, nodup_reported es⟩

/-- Two fresh measurements and one that is not. -/
def measured : List QmiLocSVMeasurement :=
  [⟨3, 0x08000000, 0x08000001⟩, ⟨4, 0x08000000, 1⟩, ⟨7, 0x0800000f, 0x0800000f⟩]

/-- The message of a system, with what is `measured`. -/
def messageOf (seqNum maxMessageNum : UInt8) (system : QmiLocSvSystem) (refFCount : UInt32)
    (nHz : UInt8) : MeasEvent :=
  .gnssMeasurementReport ⟨seqNum, maxMessageNum, (none, none), system, true, refFCount, some nHz,
    some measured, none⟩

/-- An epoch of two messages, one that loses its last message and one its first. -/
theorem recordsRight_lost :
    let es := [.startFix, messageOf 1 2 eQMI_LOC_SV_SYSTEM_GPS_V02 100 1,
      messageOf 2 2 eQMI_LOC_SV_SYSTEM_GLONASS_V02 100 1,
      messageOf 1 2 eQMI_LOC_SV_SYSTEM_GPS_V02 200 0,
      messageOf 2 2 eQMI_LOC_SV_SYSTEM_BDS_V02 300 0, .stopFix]
    RecordsRight es ∧
      (outs step init es).map (fun handed => (handed.record.count, handed.record.isNhz)) =
        [(4, true), (2, false), (2, false)] :=
  ⟨records_right _ (by decide) (by decide), by decide⟩

/-- What a session that was stopped had collected goes out in the next one. -/
theorem not_recordsRight_stopped :
    ¬ ∀ es : List MeasEvent, (∀ e ∈ es, e.WellFormed) → RecordsRight es := by
  intro h
  have hright := (h [.startFix, messageOf 1 2 eQMI_LOC_SV_SYSTEM_GPS_V02 100 0, .stopFix,
    .startFix, messageOf 1 2 eQMI_LOC_SV_SYSTEM_GPS_V02 200 0] (by decide)).1
  have hlen : (outs step init [.startFix, messageOf 1 2 eQMI_LOC_SV_SYSTEM_GPS_V02 100 0,
    .stopFix, .startFix, messageOf 1 2 eQMI_LOC_SV_SYSTEM_GPS_V02 200 0]).map
      (fun handed => (handed.epoch.session, handed.session)) = [(1, 2)] := by decide
  obtain ⟨handed, hmem, heq⟩ := mem_map.mp (hlen ▸ mem_singleton_self (1, 2))
  have hrunning := (hright handed hmem).running
  rw [(Prod.mk.inj heq).1, (Prod.mk.inj heq).2] at hrunning
  exact absurd hrunning (by decide)

end LocStack.LocApi
