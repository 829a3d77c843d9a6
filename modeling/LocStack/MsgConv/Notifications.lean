/-
# `LocStack.MsgConv.Notifications` — a notification sent and decoded

For each structure: `Fits`, its masks have only flags the message has, and its
counts are those of cells that are there; `Named`, its enumerations have members
the message has; and that it then comes back as it was.

Of an array come back as many cells as are counted (`Cells.upTo`); the others
mean nothing.

`comes_back` puts the four together that are sent on their own.  A fix of an engine
that the messages do not know comes back as one of the fused engine
(`not_comes_back_vpe`).
-/
import LocStack.MsgConv.RoundTrip
import LocStack.MsgConv.Satellites

namespace LocStack.MsgConv

open Base Option
open Gnss (GnssSvIdConfig)

/-! ## Masks and enumerations -/

/-- Only flags that the message has. -/
def MaskKind.Fits (k : MaskKind) (mask : BitVec k.width) : Prop := mask &&& k.carried = mask
  deriving Decidable

/-- A mask of 16 bits, which the converters widen. -/
def MaskKind.Fits16 (k : MaskKind) (mask : BitVec 16) : Prop := k.Fits (mask.setWidth k.width)
  deriving Decidable

variable {k : MaskKind}

theorem MaskKind.back {mask : BitVec k.width} (h : k.Fits mask) : k.decode (k.encode mask) = mask :=
  (k.decode_encode mask).trans h

theorem MaskKind.back16 {mask : BitVec 16} (h : k.Fits16 mask) (hwidth : 16 ≤ k.width) :
    (k.decode (k.encode (mask.setWidth k.width))).setWidth 16 = mask := by
  rw [MaskKind.back h, BitVec.setWidth_setWidth_of_le mask hwidth, BitVec.setWidth_eq]

theorem EnumKind.back {k : EnumKind} {x : Open k.Hal} (h : k.hasMember x = true) :
    k.decode (.member (k.encode x)) = x :=
  (k.decode_encode x).trans (if_pos h)

/-! ## Positions -/

structure Location.Fits (location : Location) : Prop where
  flags : MaskKind.locationFlags.Fits16 location.flags
  techMask : MaskKind.locationTechnology.Fits16 location.techMask

theorem Location.back {location : Location} (h : location.Fits) :
    pbConvertToLocation (convertLocationToPB location) = location := by
  have hflags := MaskKind.back16 h.flags (by decide)
  have htech := MaskKind.back16 h.techMask (by decide)
  exact congrArg₂ (fun flags techMask =>
    { location with flags := flags, techMask := techMask }) hflags htech

/-! ## Satellites used, and the body frame -/

structure GnssMeasUsageInfo.Fits (info : GnssMeasUsageInfo) : Prop where
  gnssSignalType : MaskKind.gnssSignalType.Fits info.gnssSignalType

structure GnssMeasUsageInfo.Named (info : GnssMeasUsageInfo) : Prop where
  gnssConstellation : EnumKind.gnssLocSvSystem.hasMember info.gnssConstellation = true

theorem GnssMeasUsageInfo.back {info : GnssMeasUsageInfo} (h : info.Fits) (hnamed : info.Named) :
    pbConvertToGnssMeasUsageInfo (convertGnssMeasUsageInfoToPB info) = info := by
  have hsignal := MaskKind.back h.gnssSignalType
  have hconstellation := EnumKind.back hnamed.gnssConstellation
  simp only [pbConvertToGnssMeasUsageInfo, convertGnssMeasUsageInfoToPB, UInt16.toUInt16_toUInt32]
  exact congrArg₂ (fun signal constellation =>
    { info with gnssSignalType := signal, gnssConstellation := constellation })
    hsignal hconstellation

structure GnssLocationPositionDynamics.Fits (dyn : GnssLocationPositionDynamics) : Prop where
  bodyFrameDataMask :
    dyn.bodyFrameDataMask &&& allBut GnssLocationPosDataBits.PITCH_UNC [] = dyn.bodyFrameDataMask

structure GnssLocationPositionDynamicsExt.Fits (ext : GnssLocationPositionDynamicsExt) : Prop where
  bodyFrameDataMask :
    ext.bodyFrameDataMask &&& allBut GnssLocationPosDataBitsExt.YAW_UNC [] = ext.bodyFrameDataMask

theorem GnssLocationPositionDynamics.back {dyn : GnssLocationPositionDynamics} (h : dyn.Fits)
    (ext : GnssLocationPositionDynamicsExt) :
    pbConvertToGnssLocationPositionDynamics (convertGnssLocationPositionDynamicsToPB dyn ext) =
      dyn := by
  have hmask := (posData_decode_encode dyn.bodyFrameDataMask ext.bodyFrameDataMask).trans
    h.bodyFrameDataMask
  exact congrArg (fun mask => { dyn with bodyFrameDataMask := mask }) hmask

theorem GnssLocationPositionDynamicsExt.back {ext : GnssLocationPositionDynamicsExt}
    (h : ext.Fits) (dyn : GnssLocationPositionDynamics) :
    pbConvertToGnssLocationPositionDynamicsExt (convertGnssLocationPositionDynamicsToPB dyn ext) =
      ext := by
  have hmask := (posDataExt_decode_encode dyn.bodyFrameDataMask ext.bodyFrameDataMask).trans
    h.bodyFrameDataMask
  exact congrArg (fun mask => { ext with bodyFrameDataMask := mask }) hmask

/-! ## The time of the constellation -/

structure GnssSystemTimeStructType.Fits (time : GnssSystemTimeStructType) : Prop where
  validityMask : MaskKind.gnssSystemTimeStructType.Fits time.validityMask

structure GnssGloTimeStructType.Fits (time : GnssGloTimeStructType) : Prop where
  validityMask : MaskKind.gnssGloTimeStructType.Fits time.validityMask

theorem GnssSystemTimeStructType.back {time : GnssSystemTimeStructType} (h : time.Fits) :
    pbConvertToGnssSystemTimeStructType (convertGnssSystemTimeStructTypeToPB time) = time := by
  have hmask := MaskKind.back h.validityMask
  simp only [pbConvertToGnssSystemTimeStructType, convertGnssSystemTimeStructTypeToPB,
    UInt16.toUInt16_toUInt32]
  exact congrArg (fun mask => { time with validityMask := mask }) hmask

theorem GnssGloTimeStructType.back {time : GnssGloTimeStructType} (h : time.Fits) :
    pbConvertToGnssGloTimeStructType (convertGnssGloTimeStructTypeToPB time) = time := by
  have hmask := MaskKind.back h.validityMask
  simp only [pbConvertToGnssGloTimeStructType, convertGnssGloTimeStructTypeToPB,
    UInt16.toUInt16_toUInt32, UInt8.toUInt8_toUInt32]
  exact congrArg (fun mask => { time with validityMask := mask }) hmask

/-- The member the source goes with. -/
def SystemTimeStructUnion.Fits : {src : Open Gnss_LocSvSystemEnumType} →
    SystemTimeStructUnion src → Prop
  | .member .GPS, u | .member .GALILEO, u | .member .BDS, u | .member .QZSS, u
  | .member .NAVIC, u => GnssSystemTimeStructType.Fits u
  | .member .GLONASS, u => GnssGloTimeStructType.Fits u
  | .member .UNKNOWN, _ | .member .SBAS, _ | .other _, _ => True

structure GnssSystemTime.Fits (time : GnssSystemTime) : Prop where
  u : SystemTimeStructUnion.Fits time.u

structure GnssSystemTime.Named (time : GnssSystemTime) : Prop where
  gnssSystemTimeSrc : EnumKind.gnssLocSvSystem.hasMember time.gnssSystemTimeSrc = true

theorem GnssSystemTime.back {time : GnssSystemTime} (h : time.Fits) (hnamed : time.Named) :
    pbConvertToGnssSystemTime (convertGnssSystemTimeToPB time) = time := by
  obtain ⟨src, u⟩ := time
  cases src with
  | other value => exact absurd hnamed.gnssSystemTimeSrc Bool.false_ne_true
  | member e =>
    cases e with
    | GPS | GALILEO | BDS | QZSS | NAVIC =>
      exact congrArg (GnssSystemTime.mk _) (GnssSystemTimeStructType.back h.u)
    | GLONASS => exact congrArg (GnssSystemTime.mk _) (GnssGloTimeStructType.back h.u)
    | UNKNOWN | SBAS => rfl

/-! ## The fix -/

structure GnssLocationInfoNotification.Fits (v : GnssLocationInfoNotification) : Prop where
  location : v.location.Fits
  flags : v.flags &&& allBut GnssLocationInfoFlagBits.SESSION_STATUS [.SV_SOURCE_INFO] = v.flags
  navSolutionMask : MaskKind.gnssLocationNavSolution.Fits v.navSolutionMask
  bodyFrameData : v.bodyFrameData.Fits
  bodyFrameDataExt : v.bodyFrameDataExt.Fits
  gnssSystemTime : v.gnssSystemTime.Fits
  calibrationStatus : MaskKind.drCalibrationStatus.Fits16 v.calibrationStatus
  locOutputEngMask : MaskKind.positioningEngine.Fits v.locOutputEngMask
  drSolutionStatusMask : MaskKind.drSolutionStatus.Fits v.drSolutionStatusMask
  numOfMeasReceived : v.measUsageInfo.Known v.numOfMeasReceived.toNat
  measUsageInfo : ∀ i info, v.measUsageInfo.read i = some info →
    i < v.numOfMeasReceived.toNat → info.Fits
  enuVelocityVRPBased : v.enuVelocityVRPBased.Known 3

structure GnssLocationInfoNotification.Named (v : GnssLocationInfoNotification) : Prop where
  horReliability : EnumKind.locationReliability.hasMember v.horReliability = true
  verReliability : EnumKind.locationReliability.hasMember v.verReliability = true
  gnssSystemTime : v.gnssSystemTime.Named
  measUsageInfo : ∀ i info, v.measUsageInfo.read i = some info →
    i < v.numOfMeasReceived.toNat → info.Named
  locOutputEngType : EnumKind.locOutputEngineType.hasMember v.locOutputEngType = true
  sessionStatus : EnumKind.locSessionStatus.hasMember v.sessionStatus = true

/-- What is left of it in the message. -/
def GnssLocationInfoNotification.sent (v : GnssLocationInfoNotification) :
    GnssLocationInfoNotification :=
  { v with
    measUsageInfo := v.measUsageInfo.upTo v.numOfMeasReceived.toNat
    enuVelocityVRPBased := v.enuVelocityVRPBased.upTo 3 }

theorem GnssLocationInfoNotification.back {v : GnssLocationInfoNotification} (h : v.Fits)
    (hnamed : v.Named) :
    (convertGnssLocInfoNotifToPB v).bind pbConvertToGnssLocInfoNotif = some v.sent := by
  obtain ⟨meas, hmeas, hlength, hfill⟩ := Cells.exists_gather_fill h.numOfMeasReceived
    fun i info hi hlt => GnssMeasUsageInfo.back (h.measUsageInfo i info hi hlt)
      (hnamed.measUsageInfo i info hi hlt)
  obtain ⟨enu, henu, -, hfill3⟩ := Cells.exists_gather_fill (g := id) (f := id)
    h.enuVelocityVRPBased fun _ _ _ _ => rfl
  simp only [map_id, id] at henu
  have hcount : min v.numOfMeasReceived.toNat GNSS_SV_MAX = v.numOfMeasReceived.toNat :=
    min_eq_left h.numOfMeasReceived.le
  have hlocation := Location.back h.location
  have hflags := (infoFlags_decode_encode v.flags).trans h.flags
  have hhor : Open.member (getEnumForPBLocReliability
      (.member (getPBEnumForLocationReliability v.horReliability))) = v.horReliability :=
    EnumKind.back hnamed.horReliability
  have hver : Open.member (getEnumForPBLocReliability
      (.member (getPBEnumForLocationReliability v.verReliability))) = v.verReliability :=
    EnumKind.back hnamed.verReliability
  have hnav : getGnssLocationNavSolutionMaskFromPB
      (getPBMaskForGnssLocationNavSolutionMask v.navSolutionMask) = v.navSolutionMask :=
    MaskKind.back h.navSolutionMask
  have hbody := GnssLocationPositionDynamics.back h.bodyFrameData v.bodyFrameDataExt
  have hext := GnssLocationPositionDynamicsExt.back h.bodyFrameDataExt v.bodyFrameData
  have htime := GnssSystemTime.back h.gnssSystemTime hnamed.gnssSystemTime
  have hcalibration : (getDrCalibrationStatusMaskFromPB
      (getPBMaskForDrCalibrationStatusMask (v.calibrationStatus.setWidth 32))).setWidth 16 =
        v.calibrationStatus :=
    MaskKind.back16 h.calibrationStatus (by decide)
  have htype : Open.member (getEnumForPBLocOutputEngineType
      (.member (getPBEnumForLocOutputEngineType v.locOutputEngType))) = v.locOutputEngType :=
    EnumKind.back hnamed.locOutputEngType
  have hengines : getEnumForPBPositioningEngineMask
      (getPBMaskForPositioningEngineMask v.locOutputEngMask) = v.locOutputEngMask :=
    MaskKind.back h.locOutputEngMask
  have hsolution : getDrSolutionStatusMaskFromPB
      (getPBMaskForDrSolutionStatusMask v.drSolutionStatusMask) = v.drSolutionStatusMask :=
    MaskKind.back h.drSolutionStatusMask
  have hsession : Open.member (getLocSessionStatusFromPB
      (.member (getPBEnumForLocSessionStatus v.sessionStatus))) = v.sessionStatus :=
    EnumKind.back hnamed.sessionStatus
  simp only [convertGnssLocInfoNotifToPB, hmeas, henu, bind_eq_bind, bind_some,
    pure_def, pbConvertToGnssLocInfoNotif, UInt8.toNat_toUInt32, hcount, hfill, hfill3]
  simp only [hlocation, hflags, hhor, hver, hnav, hbody, hext, htime, hcalibration, htype,
    hengines, hsolution, hsession, UInt16.toUInt16_toUInt32, UInt8.toUInt8_toUInt32,
    Nat.toUInt8_eq, UInt8.ofNat_toNat]
  rfl

/-! ## Satellites -/

structure GnssSv.Fits (sv : GnssSv) : Prop where
  gnssSvOptionsMask : MaskKind.gnssSvOptions.Fits16 sv.gnssSvOptionsMask
  gnssSignalTypeMask : MaskKind.gnssSignalType.Fits sv.gnssSignalTypeMask

structure GnssSv.Named (sv : GnssSv) : Prop where
  type : EnumKind.gnssSvType.hasMember sv.type = true

theorem GnssSv.back {sv : GnssSv} (h : sv.Fits) (hnamed : sv.Named) :
    pbConvertToGnssSv (convertGnssSvToPB sv) = sv := by
  have htype : Open.member (getGnssSvTypeFromPBGnssLocSvSystemEnumType
      (.member (getPBGnssLocSvSysEnumFromGnssSvType sv.type))) = sv.type :=
    EnumKind.back hnamed.type
  have hoptions : (getGnssSvOptionsMaskFromPB
      (getPBMaskForGnssSvOptionsMask (sv.gnssSvOptionsMask.setWidth 32))).setWidth 16 =
        sv.gnssSvOptionsMask :=
    MaskKind.back16 h.gnssSvOptionsMask (by decide)
  have hsignal : getGnssSignalTypeMaskFromPB
      (getPBMaskForGnssSignalTypeMask sv.gnssSignalTypeMask) = sv.gnssSignalTypeMask :=
    MaskKind.back h.gnssSignalTypeMask
  simp only [pbConvertToGnssSv, convertGnssSvToPB, htype, hoptions, hsignal,
    UInt16.toUInt16_toUInt32]

structure GnssSvNotification.Fits (v : GnssSvNotification) : Prop where
  count : v.gnssSvs.Known v.count.toNat
  gnssSvs : ∀ i sv, v.gnssSvs.read i = some sv → i < v.count.toNat → sv.Fits

structure GnssSvNotification.Named (v : GnssSvNotification) : Prop where
  gnssSvs : ∀ i sv, v.gnssSvs.read i = some sv → i < v.count.toNat → sv.Named

def GnssSvNotification.sent (v : GnssSvNotification) : GnssSvNotification :=
  { v with gnssSvs := v.gnssSvs.upTo v.count.toNat }

theorem GnssSvNotification.back {v : GnssSvNotification} (h : v.Fits) (hnamed : v.Named) :
    (convertGnssSvNotifToPB v).bind pbConvertToGnssSvNotif = some v.sent := by
  obtain ⟨svs, hsvs, hlength, hfill⟩ := Cells.exists_gather_fill h.count
    fun i sv hi hlt => GnssSv.back (h.gnssSvs i sv hi hlt) (hnamed.gnssSvs i sv hi hlt)
  have hcount : min svs.length GNSS_SV_MAX = v.count.toNat := by
    rw [hlength]
    exact min_eq_left h.count.le
  simp only [convertGnssSvNotifToPB, hsvs, bind_eq_bind, bind_some, pure_def,
    pbConvertToGnssSvNotif, hcount, hfill, Nat.toUInt32_eq, UInt32.ofNat_toNat]
  rfl

/-! ## Measurements -/

structure GnssMeasurementsData.Fits (data : GnssMeasurementsData) : Prop where
  flags : MaskKind.gnssMeasurementsDataFlags.Fits data.flags
  stateMask : MaskKind.gnssMeasurementsState.Fits data.stateMask
  adrStateMask : MaskKind.gnssMeasurementsAdrState.Fits16 data.adrStateMask
  gnssSignalType : MaskKind.gnssSignalType.Fits data.gnssSignalType

structure GnssMeasurementsData.Named (data : GnssMeasurementsData) : Prop where
  svType : EnumKind.gnssSvType.hasMember data.svType = true
  multipathIndicator : EnumKind.gnssMeasMultipathIndic.hasMember data.multipathIndicator = true

theorem GnssMeasurementsData.back {data : GnssMeasurementsData} (h : data.Fits)
    (hnamed : data.Named) :
    pbConvertToGnssMeasurementsData (convertGnssMeasDataToPB data) = data := by
  have hflags : getGnssMeasurementsDataFlagsMaskFromPB
      (getPBMaskForGnssMeasurementsDataFlagsMask data.flags) = data.flags :=
    MaskKind.back h.flags
  have htype : Open.member (getGnssSvTypeFromPBGnssLocSvSystemEnumType
      (.member (getPBGnssLocSvSysEnumFromGnssSvType data.svType))) = data.svType :=
    EnumKind.back hnamed.svType
  have hstate : getPBMaskForGnssMeasurementsStateMask data.stateMask = data.stateMask :=
    MaskKind.back h.stateMask
  have hadr : (getGnssMeasurementsAdrStateMaskFromPB
      (getPBMaskForGnssMeasurementsAdrStateMask (data.adrStateMask.setWidth 32))).setWidth 16 =
        data.adrStateMask :=
    MaskKind.back16 h.adrStateMask (by decide)
  have hmultipath : Open.member (getEnumForPBGnssMeasMultipathIndic
      (.member (getPBEnumForGnssMeasMultiPathIndic data.multipathIndicator))) =
        data.multipathIndicator :=
    EnumKind.back hnamed.multipathIndicator
  have hsignal : getGnssSignalTypeMaskFromPB
      (getPBMaskForGnssSignalTypeMask data.gnssSignalType) = data.gnssSignalType :=
    MaskKind.back h.gnssSignalType
  simp only [pbConvertToGnssMeasurementsData, convertGnssMeasDataToPB, hflags, htype, hstate, hadr,
    hmultipath, hsignal, Int16.toInt16_toInt32, UInt8.toUInt8_toUInt32]

structure GnssMeasurementsClock.Fits (clock : GnssMeasurementsClock) : Prop where
  flags : MaskKind.gnssMeasurementsClockFlags.Fits clock.flags

theorem GnssMeasurementsClock.back {clock : GnssMeasurementsClock} (h : clock.Fits) :
    pbConvertToGnssMeasurementsClock (convertGnssMeasClockToPB clock) = clock := by
  have hflags : getGnssMeasurementsClockFlagsMaskFromPB
      (getPBMaskForGnssMeasurementsClockFlagsMask clock.flags) = clock.flags :=
    MaskKind.back h.flags
  simp only [pbConvertToGnssMeasurementsClock, convertGnssMeasClockToPB, hflags,
    Int16.toInt16_toInt32]

structure GnssMeasurementsNotification.Fits (v : GnssMeasurementsNotification) : Prop where
  count : v.measurements.Known v.count.toNat
  measurements : ∀ i data, v.measurements.read i = some data → i < v.count.toNat → data.Fits
  clock : v.clock.Fits

structure GnssMeasurementsNotification.Named (v : GnssMeasurementsNotification) : Prop where
  measurements : ∀ i data, v.measurements.read i = some data → i < v.count.toNat → data.Named

def GnssMeasurementsNotification.sent (v : GnssMeasurementsNotification) :
    GnssMeasurementsNotification :=
  { v with measurements := v.measurements.upTo v.count.toNat }

theorem GnssMeasurementsNotification.back {v : GnssMeasurementsNotification} (h : v.Fits)
    (hnamed : v.Named) :
    (convertGnssMeasNotifToPB v).bind pbConvertToGnssMeasNotification = some v.sent := by
  obtain ⟨data, hdata, hlength, hfill⟩ := Cells.exists_gather_fill h.count
    fun i d hi hlt => GnssMeasurementsData.back (h.measurements i d hi hlt)
      (hnamed.measurements i d hi hlt)
  simp only [convertGnssMeasNotifToPB, hdata, bind_eq_bind, bind_some,
    pure_def, pbConvertToGnssMeasNotification, hlength, hfill,
    GnssMeasurementsClock.back h.clock, Nat.toUInt32_eq, UInt32.ofNat_toNat]
  rfl

/-! ## Together -/

/-- What is sent on its own. -/
inductive Notification where
  | fix (v : GnssLocationInfoNotification)
  | satellites (v : GnssSvNotification)
  | measurements (v : GnssMeasurementsNotification)
  | blacklist (config : GnssSvIdConfig)

namespace Notification

/-- The masks have only flags that the message has, and the cells that are
counted are there. -/
def Fits : Notification → Prop
  | fix v => v.Fits
  | satellites v => v.Fits
  | measurements v => v.Fits
  | blacklist _ => True

/-- The enumerations have members that the message has. -/
def Named : Notification → Prop
  | fix v => v.Named
  | satellites v => v.Named
  | measurements v => v.Named
  | blacklist _ => True

/-- What is decoded is what was sent; the size of the blacklist is set anew. -/
def RoundTrips : Notification → Prop
  | fix v => (convertGnssLocInfoNotifToPB v).bind pbConvertToGnssLocInfoNotif = some v.sent
  | satellites v => (convertGnssSvNotifToPB v).bind pbConvertToGnssSvNotif = some v.sent
  | measurements v =>
    (convertGnssMeasNotifToPB v).bind pbConvertToGnssMeasNotification = some v.sent
  | blacklist config =>
    pbConvertToGnssSvIdConfig (convertGnssSvIdConfigToPB config) =
      { config with size := GnssSvIdConfig.sizeof }

/-- A notification comes back as it was. -/
theorem comes_back (n : Notification) (h : n.Fits) (hnamed : n.Named) : n.RoundTrips := by
  cases n with
  | fix v => exact GnssLocationInfoNotification.back h hnamed
  | satellites v => exact GnssSvNotification.back h hnamed
  | measurements v => exact GnssMeasurementsNotification.back h hnamed
  | blacklist config => rfl

/-- A fix of the modem, with the time of GLONASS and one satellite. -/
def speFix : GnssLocationInfoNotification where
  location := ⟨1, 1000, 48, 11, 500, 1, 90, 3, 4, 5, 6, 1⟩
  flags := 3
  altitudeMeanSeaLevel := 450
  pdop := 1
  hdop := 2
  vdop := 3
  gdop := 4
  tdop := 5
  magneticDeviation := 6
  horReliability := .member .HIGH
  verReliability := .member .LOW
  horUncEllipseSemiMajor := 1
  horUncEllipseSemiMinor := 2
  horUncEllipseOrientAzimuth := 3
  northStdDeviation := 4
  eastStdDeviation := 5
  northVelocity := 6
  eastVelocity := 7
  upVelocity := 8
  northVelocityStdDeviation := 9
  eastVelocityStdDeviation := 10
  upVelocityStdDeviation := 11
  numSvUsedInPosition := 1
  svUsedInPosition := ⟨1, 0, 0, 0, 0, 0⟩
  navSolutionMask := 1
  bodyFrameData := ⟨1, 1, 2, 3, 4, 5, 6, 7, 8, 9, 10⟩
  gnssSystemTime := ⟨.member .GLONASS, (⟨1, 1, 2, 3, 4, 5, 6, 7⟩ : GnssGloTimeStructType)⟩
  numOfMeasReceived := 1
  measUsageInfo := Cells.firsts 1 fun _ => some ⟨1, .member .GPS, 7⟩
  leapSeconds := 18
  timeUncMs := 1
  calibrationConfidence := 50
  calibrationStatus := 1
  locOutputEngType := .member .SPE
  locOutputEngMask := 1
  conformityIndex := 1
  bodyFrameDataExt := ⟨1, 1, 2, 3, 4, 5, 6, 7, 8⟩
  llaVRPBased := ⟨48, 11, 500⟩
  enuVelocityVRPBased := Cells.firsts 3 fun _ => some 1
  drSolutionStatusMask := 1
  altitudeAssumed := true
  sessionStatus := .member .SUCCESS

variable {i : ℕ}

theorem speFix_read (hi : i < 1) : speFix.measUsageInfo.read i = some ⟨1, .member .GPS, 7⟩ :=
  @Cells.read_firsts GnssMeasUsageInfo GNSS_SV_MAX 1 i (fun _ => some ⟨1, .member .GPS, 7⟩) hi
    (by decide)

theorem speFix_info {info : GnssMeasUsageInfo} (hi : i < 1)
    (hread : speFix.measUsageInfo.read i = some info) : info = ⟨1, .member .GPS, 7⟩ :=
  (some.inj ((speFix_read hi).symm.trans hread)).symm

theorem speFix_enu (hi : i < 3) : speFix.enuVelocityVRPBased.read i = some 1 :=
  @Cells.read_firsts _ 3 3 i (fun _ => some 1) hi le_rfl

theorem speFix_fits : speFix.Fits where
  location := ⟨by decide, by decide⟩
  flags := by decide
  navSolutionMask := rfl
  bodyFrameData := ⟨by decide⟩
  bodyFrameDataExt := ⟨by decide⟩
  gnssSystemTime := ⟨⟨rfl⟩⟩
  calibrationStatus := by decide
  locOutputEngMask := rfl
  drSolutionStatusMask := rfl
  numOfMeasReceived i hi := congrArg Option.isSome (speFix_read hi)
  measUsageInfo i info hread hi := by
    rw [speFix_info hi hread]
    exact ⟨rfl⟩
  enuVelocityVRPBased i hi := congrArg Option.isSome (speFix_enu hi)

theorem speFix_named : speFix.Named where
  horReliability := rfl
  verReliability := rfl
  gnssSystemTime := ⟨rfl⟩
  measUsageInfo i info hread hi := by
    rw [speFix_info hi hread]
    exact ⟨rfl⟩
  locOutputEngType := rfl
  sessionStatus := rfl

theorem comes_back_speFix : RoundTrips (fix speFix) :=
  comes_back (fix speFix) speFix_fits speFix_named

/-- The same of an engine that the messages have no member for. -/
def vpeFix : GnssLocationInfoNotification := { speFix with locOutputEngType := .member .VPE }

theorem vpeFix_fits : vpeFix.Fits := { speFix_fits with }

/-- It comes back as a fused one. -/
theorem not_comes_back_vpe : ¬ ∀ n : Notification, n.Fits → n.RoundTrips := by
  intro h
  have hvpe : RoundTrips (fix vpeFix) := h _ vpeFix_fits
  have hengine := congrArg (Option.map fun v => v.locOutputEngType) hvpe
  have hfused : Option.map (fun v => v.locOutputEngType)
      ((convertGnssLocInfoNotifToPB vpeFix).bind pbConvertToGnssLocInfoNotif) =
        some (.member .FUSED) := rfl
  rw [hfused] at hengine
  cases hengine

end Notification

end LocStack.MsgConv
