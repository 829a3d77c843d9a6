/-
# `LocStack.LocApi.ReceivedTime` — the time of a satellite

What the receiver knows of the time of a satellite depends on how far it is
synchronised with its signal.  A measurement says so in its state, and gives
the time as far as it is known:

    TOW decoded     the time
    bit sync        the time, modulo 20 ms
    code lock       the time, modulo 1 ms
    none            0

The code goes by the measurement status, in this order.  With bit sync it takes
the remainder by 20, of nanoseconds.

`receivedTime_right_iff`: so the time is right if and only if, with bit sync
only, the satellite is within 20 ns of the beginning of a bit.
-/
import LocStack.Base.CNumbers
import LocStack.LocApi.Measurements

namespace LocStack.LocApi

open Base
open QmiLocSvSystem GnssSvType

def QMI_LOC_MASK_MEAS_STATUS_SM_VALID : UInt64 := 0x00000001

def QMI_LOC_MASK_MEAS_STATUS_SB_VALID : UInt64 := 0x00000002

def QMI_LOC_MASK_MEAS_STATUS_MS_VALID : UInt64 := 0x00000004

def QMI_LOC_MASK_MEAS_STATUS_BE_CONFIRM : UInt64 := 0x00000008

def QMI_LOC_MASK_MEAS_STATUS_100MS_STAT_BIT_VALID : UInt64 := 0x40000000

def QMI_LOC_MASK_MEAS_STATUS_2S_STAT_BIT_VALID : UInt64 := 0x80000000

def QMI_LOC_MASK_GNSS_SIGNAL_TYPE_GPS_L5_Q : UInt64 := 0x08

def QMI_LOC_MASK_GNSS_SIGNAL_TYPE_GLONASS_G1 : UInt64 := 0x10

def QMI_LOC_MASK_GNSS_SIGNAL_TYPE_GALILEO_E1_C : UInt64 := 0x40

def QMI_LOC_MASK_GNSS_SIGNAL_TYPE_GALILEO_E5A_Q : UInt64 := 0x80

def FIRST_BDS_D2_SV_PRN : UInt16 := 1

def LAST_BDS_D2_SV_PRN : UInt16 := 5

/-! ## The state -/

def GNSS_MEASUREMENTS_STATE_UNKNOWN_BIT : UInt32 := 0

def GNSS_MEASUREMENTS_STATE_CODE_LOCK_BIT : UInt32 := 0x00001

def GNSS_MEASUREMENTS_STATE_BIT_SYNC_BIT : UInt32 := 0x00002

def GNSS_MEASUREMENTS_STATE_SUBFRAME_SYNC_BIT : UInt32 := 0x00004

def GNSS_MEASUREMENTS_STATE_TOW_DECODED_BIT : UInt32 := 0x00008

def GNSS_MEASUREMENTS_STATE_SYMBOL_SYNC_BIT : UInt32 := 0x00020

def GNSS_MEASUREMENTS_STATE_GLO_STRING_SYNC_BIT : UInt32 := 0x00040

def GNSS_MEASUREMENTS_STATE_GLO_TOD_DECODED_BIT : UInt32 := 0x00080

def GNSS_MEASUREMENTS_STATE_BDS_D2_BIT_SYNC_BIT : UInt32 := 0x00100

def GNSS_MEASUREMENTS_STATE_BDS_D2_SUBFRAME_SYNC_BIT : UInt32 := 0x00200

def GNSS_MEASUREMENTS_STATE_GAL_E1BC_CODE_LOCK_BIT : UInt32 := 0x00400

def GNSS_MEASUREMENTS_STATE_GAL_E1C_2ND_CODE_LOCK_BIT : UInt32 := 0x00800

def GNSS_MEASUREMENTS_STATE_GAL_E1B_PAGE_SYNC_BIT : UInt32 := 0x01000

def GNSS_MEASUREMENTS_STATE_TOW_KNOWN_BIT : UInt32 := 0x04000

def GNSS_MEASUREMENTS_STATE_GLO_TOD_KNOWN_BIT : UInt32 := 0x08000

def GNSS_MEASUREMENTS_STATE_2ND_CODE_LOCK_BIT : UInt32 := 0x10000

/-- `e1` is whether it is a Galileo E1 signal. -/
def galSVstateMask (e1 known100ms known2s : Bool) : UInt32 :=
  if e1 then
    let mask := GNSS_MEASUREMENTS_STATE_GAL_E1BC_CODE_LOCK_BIT
    let mask :=
      if known100ms then mask ||| GNSS_MEASUREMENTS_STATE_GAL_E1C_2ND_CODE_LOCK_BIT else mask
    if known2s then mask ||| GNSS_MEASUREMENTS_STATE_GAL_E1B_PAGE_SYNC_BIT else mask
  else 0

/-- Sub-frame decode and TOW decode. -/
def towDecodedMask (glonass bdsGeo l5 : Bool) (gal : UInt32) : UInt32 :=
  let mask := GNSS_MEASUREMENTS_STATE_UNKNOWN_BIT |||
    (GNSS_MEASUREMENTS_STATE_SUBFRAME_SYNC_BIT ||| GNSS_MEASUREMENTS_STATE_TOW_DECODED_BIT |||
      GNSS_MEASUREMENTS_STATE_TOW_KNOWN_BIT ||| GNSS_MEASUREMENTS_STATE_BIT_SYNC_BIT |||
      GNSS_MEASUREMENTS_STATE_CODE_LOCK_BIT)
  let mask :=
    if glonass then
      mask ||| (GNSS_MEASUREMENTS_STATE_GLO_TOD_KNOWN_BIT |||
        GNSS_MEASUREMENTS_STATE_GLO_TOD_DECODED_BIT |||
        GNSS_MEASUREMENTS_STATE_GLO_STRING_SYNC_BIT)
    else mask
  let mask := mask ||| gal
  let mask :=
    if bdsGeo then
      mask ||| (GNSS_MEASUREMENTS_STATE_BDS_D2_BIT_SYNC_BIT |||
        GNSS_MEASUREMENTS_STATE_BDS_D2_SUBFRAME_SYNC_BIT)
    else mask
  if l5 then mask ||| GNSS_MEASUREMENTS_STATE_2ND_CODE_LOCK_BIT else mask

def bitSyncMask (l5 : Bool) (gal : UInt32) : UInt32 :=
  let mask := GNSS_MEASUREMENTS_STATE_UNKNOWN_BIT |||
    (GNSS_MEASUREMENTS_STATE_BIT_SYNC_BIT ||| GNSS_MEASUREMENTS_STATE_SYMBOL_SYNC_BIT |||
      GNSS_MEASUREMENTS_STATE_CODE_LOCK_BIT)
  let mask := mask ||| gal
  if l5 then mask ||| GNSS_MEASUREMENTS_STATE_2ND_CODE_LOCK_BIT else mask

def codeLockMask (gal : UInt32) : UInt32 :=
  GNSS_MEASUREMENTS_STATE_UNKNOWN_BIT ||| GNSS_MEASUREMENTS_STATE_CODE_LOCK_BIT ||| gal

/-! ## The time -/

/-- A measurement, with what is read for the time; the floating point numbers
are exact. -/
structure SvTime extends QmiLocSVMeasurement where
  svTimeMs : UInt32
  (svTimeSubMs svTimeUncMs : Rat)

structure ReceivedTime where
  stateMask : UInt32
  (receivedSvTimeNs receivedSvTimeUncertaintyNs : Int)

namespace SvTime

variable (sv : SvTime)

def validMeasStatus : UInt64 := sv.measurementStatus &&& sv.validMeasStatusMask

def bitSynMask : UInt64 :=
  QMI_LOC_MASK_MEAS_STATUS_BE_CONFIRM ||| QMI_LOC_MASK_MEAS_STATUS_SB_VALID

def timeNs : Int := sv.svTimeMs.toNat * 1000000 + truncate (sv.svTimeSubMs * 1000000)

/-- The signal type, where it is valid, is this one. -/
def isBand (gnssSignalType : Option UInt64) (band : UInt64) : Bool :=
  gnssSignalType.all (band == ·)

/-- The part of convertGnssMeasurements that is about the time. -/
def convert (system : QmiLocSvSystem) (gnssSignalType : Option UInt64) : ReceivedTime :=
  let svType := svTypeOf system
  let known100ms := sv.measurementStatus &&& QMI_LOC_MASK_MEAS_STATUS_100MS_STAT_BIT_VALID != 0
  let known2s := sv.measurementStatus &&& QMI_LOC_MASK_MEAS_STATUS_2S_STAT_BIT_VALID != 0
  let gal := galSVstateMask (svType == GNSS_SV_TYPE_GALILEO &&
      isBand gnssSignalType QMI_LOC_MASK_GNSS_SIGNAL_TYPE_GALILEO_E1_C) known100ms known2s
  let bIsL5orE5 :=
    (svType == GNSS_SV_TYPE_GPS && isBand gnssSignalType QMI_LOC_MASK_GNSS_SIGNAL_TYPE_GPS_L5_Q) ||
      (svType == GNSS_SV_TYPE_GALILEO &&
        isBand gnssSignalType QMI_LOC_MASK_GNSS_SIGNAL_TYPE_GALILEO_E5A_Q)
  let glonass := svType == GNSS_SV_TYPE_GLONASS &&
    isBand gnssSignalType QMI_LOC_MASK_GNSS_SIGNAL_TYPE_GLONASS_G1
  let bdsGeo := svType == GNSS_SV_TYPE_BEIDOU && sv.gnssSvId ≤ LAST_BDS_D2_SV_PRN &&
    sv.gnssSvId ≥ FIRST_BDS_D2_SV_PRN
  let gpsTowUncNs := sv.svTimeUncMs * 1000000
  if sv.validMeasStatus &&& QMI_LOC_MASK_MEAS_STATUS_MS_VALID ≠ 0 then
    { stateMask := towDecodedMask glonass bdsGeo bIsL5orE5 gal
      receivedSvTimeNs := sv.timeNs
      receivedSvTimeUncertaintyNs := truncate gpsTowUncNs }
  else if sv.validMeasStatus &&& bitSynMask = bitSynMask then
    { stateMask := bitSyncMask bIsL5orE5 gal
      receivedSvTimeNs := sv.timeNs.tmod 20
      receivedSvTimeUncertaintyNs := truncate gpsTowUncNs }
  else if sv.validMeasStatus &&& QMI_LOC_MASK_MEAS_STATUS_SM_VALID ≠ 0 then
    { stateMask := codeLockMask gal
      receivedSvTimeNs := truncate (sv.svTimeSubMs * 1000000)
      receivedSvTimeUncertaintyNs := truncate gpsTowUncNs }
  else
    { stateMask := GNSS_MEASUREMENTS_STATE_UNKNOWN_BIT
      receivedSvTimeNs := 0
      receivedSvTimeUncertaintyNs := 0 }

end SvTime

/-! ## What the time is to be -/

/-- The strongest synchronisation. -/
inductive SyncState where
  | towDecoded | bitSync | codeLock | none
  deriving DecidableEq

namespace SyncState

def ofMask (stateMask : UInt32) : SyncState :=
  if stateMask &&& GNSS_MEASUREMENTS_STATE_TOW_DECODED_BIT ≠ 0 then towDecoded
  else if stateMask &&& GNSS_MEASUREMENTS_STATE_BIT_SYNC_BIT ≠ 0 then bitSync
  else if stateMask &&& GNSS_MEASUREMENTS_STATE_CODE_LOCK_BIT ≠ 0 then codeLock
  else none

/-- In nanoseconds. -/
def ambiguity : SyncState → Option Int
  | bitSync => some 20000000
  | codeLock => some 1000000
  | towDecoded | none => Option.none

/-- A time, as far as it is known. -/
def reduce (time : Int) : SyncState → Int
  | towDecoded => time
  | bitSync => time % 20000000
  | codeLock => time % 1000000
  | none => 0

theorem reduce_of_ambiguity {state : SyncState} {n : Int} (h : state.ambiguity = some n)
    (time : Int) : state.reduce time = time % n ∧ 0 < n := by
  cases state with
  | bitSync | codeLock =>
    obtain rfl := Option.some.inj h
    exact ⟨rfl, by decide⟩
  | towDecoded | none => cases h

end SyncState

/-- The time of the satellite in nanoseconds, rounded down. -/
def SvTime.trueTimeNs (sv : SvTime) : Int :=
  ((sv.svTimeMs.toNat + sv.svTimeSubMs) * 1000000).floor

structure ReceivedTime.Right (t : ReceivedTime) (trueTimeNs : Int) : Prop where
  reduced : t.receivedSvTimeNs = (SyncState.ofMask t.stateMask).reduce trueTimeNs
  congruent : ∀ n, (SyncState.ofMask t.stateMask).ambiguity = some n →
    t.receivedSvTimeNs % n = trueTimeNs % n ∧ 0 ≤ t.receivedSvTimeNs ∧ t.receivedSvTimeNs < n

theorem ReceivedTime.right_iff {t : ReceivedTime} {time : Int} :
    t.Right time ↔ t.receivedSvTimeNs = (SyncState.ofMask t.stateMask).reduce time := by
  refine ⟨Right.reduced, fun h => ⟨h, fun n hn => ?_⟩⟩
  obtain ⟨hreduce, hpos⟩ := SyncState.reduce_of_ambiguity hn time
  rw [h, hreduce]
  exact ⟨Int.emod_emod_of_dvd time (Int.dvd_refl n), Int.emod_nonneg time (Int.ne_of_gt hpos),
    Int.emod_lt_of_pos time hpos⟩

/-! ## The states -/

theorem ofMask_towDecoded (glonass bdsGeo l5 e1 known100ms known2s : Bool) :
    SyncState.ofMask (towDecodedMask glonass bdsGeo l5 (galSVstateMask e1 known100ms known2s)) =
      .towDecoded := by
  revert glonass bdsGeo l5 e1 known100ms known2s
  decide

theorem ofMask_bitSync (l5 e1 known100ms known2s : Bool) :
    SyncState.ofMask (bitSyncMask l5 (galSVstateMask e1 known100ms known2s)) = .bitSync := by
  revert l5 e1 known100ms known2s
  decide

theorem ofMask_codeLock (e1 known100ms known2s : Bool) :
    SyncState.ofMask (codeLockMask (galSVstateMask e1 known100ms known2s)) = .codeLock := by
  revert e1 known100ms known2s
  decide

/-! ## Within a millisecond -/

namespace SvTime

variable {sv : SvTime}

theorem subNs_bounds (h0 : 0 ≤ sv.svTimeSubMs) (h1 : sv.svTimeSubMs < 1) :
    0 ≤ (sv.svTimeSubMs * 1000000).floor ∧ (sv.svTimeSubMs * 1000000).floor < 1000000 := by
  constructor
  · refine Rat.le_floor_iff.mpr ?_
    exact Rat.mul_nonneg h0 (by decide)
  · refine Rat.floor_lt_iff.mpr ?_
    have h := Rat.mul_lt_mul_of_pos_right h1 (show (0 : Rat) < 1000000 by decide)
    rwa [Rat.one_mul] at h

theorem timeNs_eq (h0 : 0 ≤ sv.svTimeSubMs) : sv.timeNs = sv.trueTimeNs := by
  have hsub : 0 ≤ sv.svTimeSubMs * 1000000 := Rat.mul_nonneg h0 (by decide)
  have hsplit : ((sv.svTimeMs.toNat : Rat) + sv.svTimeSubMs) * 1000000 =
      sv.svTimeSubMs * 1000000 + ((sv.svTimeMs.toNat * 1000000 : Int) : Rat) := by
    rw [Rat.add_mul, Rat.add_comm]
    push_cast
    rfl
  rw [timeNs, trueTimeNs, truncate_of_nonneg hsub, hsplit, Rat.floor_add_intCast, Int.add_comm]

/-- Neither TOW nor less than bit sync. -/
def BitSyncOnly (sv : SvTime) : Prop :=
  sv.validMeasStatus &&& QMI_LOC_MASK_MEAS_STATUS_MS_VALID = 0 ∧
    sv.validMeasStatus &&& bitSynMask = bitSynMask
  deriving Decidable

/-- The time is right if and only if, with bit sync only, it is in the first 20
nanoseconds of a bit. -/
theorem receivedTime_right_iff (system : QmiLocSvSystem) (gnssSignalType : Option UInt64)
    (h0 : 0 ≤ sv.svTimeSubMs) (h1 : sv.svTimeSubMs < 1) :
    (sv.convert system gnssSignalType).Right sv.trueTimeNs ↔
      (sv.BitSyncOnly → sv.trueTimeNs % 20000000 < 20) := by
  obtain ⟨hlow, hhigh⟩ := subNs_bounds h0 h1
  have htime := timeNs_eq h0
  have hsum : sv.trueTimeNs = sv.svTimeMs.toNat * 1000000 + (sv.svTimeSubMs * 1000000).floor := by
    rw [← htime, timeNs, truncate_of_nonneg (Rat.mul_nonneg h0 (by decide))]
  rw [ReceivedTime.right_iff]
  simp only [convert, BitSyncOnly]
  split
  · next hms =>
      rw [ofMask_towDecoded]
      exact ⟨fun _ hbit => absurd hbit.1 hms, fun _ => htime⟩
  · next hms =>
      have hms := Classical.not_not.mp hms
      split
      · next hbit =>
          rw [ofMask_bitSync]
          show sv.timeNs.tmod 20 = sv.trueTimeNs % 20000000 ↔ _
          have hnonneg : 0 ≤ sv.trueTimeNs := by omega
          rw [htime, Int.tmod_eq_emod_of_nonneg hnonneg]
          constructor
          · intro h _
            omega
          · intro h
            have := h ⟨hms, hbit⟩
            omega
      · next hbit =>
          refine iff_of_true ?_ fun h => absurd h.2 hbit
          split
          · rw [ofMask_codeLock]
            show truncate _ = sv.trueTimeNs % 1000000
            rw [truncate_of_nonneg (Rat.mul_nonneg h0 (by decide))]
            omega
          · rfl

/-- A GPS satellite 19 ms into a bit, or 10 ns. -/
def bitSynced (svTimeMs : UInt32) (svTimeSubMs : Rat) : SvTime where
  gnssSvId := 5
  validMeasStatusMask := bitSynMask
  measurementStatus := bitSynMask
  svTimeMs := svTimeMs
  svTimeSubMs := svTimeSubMs
  svTimeUncMs := 0

theorem receivedTime_right_atEdge :
    ((bitSynced 40 (1 / 100000)).convert eQMI_LOC_SV_SYSTEM_GPS_V02 none).Right
      (bitSynced 40 (1 / 100000)).trueTimeNs :=
  (receivedTime_right_iff eQMI_LOC_SV_SYSTEM_GPS_V02 none (by decide +kernel)
    (by decide +kernel)).mpr (by decide +kernel)

theorem not_receivedTime_right_insideBit : 0 ≤ (bitSynced 19 0).svTimeSubMs ∧
    (bitSynced 19 0).svTimeSubMs < 1 ∧
      ¬ ((bitSynced 19 0).convert eQMI_LOC_SV_SYSTEM_GPS_V02 none).Right
        (bitSynced 19 0).trueTimeNs := by
  refine ⟨by decide +kernel, by decide +kernel, fun hright => ?_⟩
  exact absurd hright.reduced (by decide +kernel)

end SvTime

end LocStack.LocApi
