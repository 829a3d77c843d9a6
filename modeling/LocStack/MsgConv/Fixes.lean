/-
# `LocStack.MsgConv.Fixes` — a fix on its way into a message and back

The converters of LocationApiPbMsgConv for GnssLocationInfoNotification and
what is in it.  The structures have the members that go into the messages; the
size of a structure, which every decoder sets, is not one of them.

Message fields are read by the accessors, so a message or a member of it that
was not sent is what the accessor gives: all zeros.  An element of a repeated
field that is not there, and a cell of an array that is not there, is a fault
(`none`), and so is a cell that was never written where it is read.
-/
import LocStack.Base.Cells
import LocStack.MsgConv.Enums
import LocStack.MsgConv.Masks

namespace LocStack.MsgConv

open Base

/-! ## Positions -/

structure Location where
  flags : BitVec 16
  timestamp : UInt64
  (latitude longitude altitude : Float)
  (speed bearing accuracy verticalAccuracy speedAccuracy bearingAccuracy : Float32)
  techMask : BitVec 16

structure PBLocation where
  flags : BitVec 32
  timestamp : UInt64
  (latitude longitude altitude : Float)
  (speed bearing horizontalAccuracy verticalAccuracy speedAccuracy bearingAccuracy : Float32)
  techMask : BitVec 32

def convertLocationToPB (location : Location) : PBLocation where
  flags := getPBMaskForLocationFlagsMask (location.flags.setWidth 32)
  timestamp := location.timestamp
  latitude := location.latitude
  longitude := location.longitude
  altitude := location.altitude
  speed := location.speed
  bearing := location.bearing
  horizontalAccuracy := location.accuracy
  verticalAccuracy := location.verticalAccuracy
  speedAccuracy := location.speedAccuracy
  bearingAccuracy := location.bearingAccuracy
  techMask := getPBMaskForLocationTechnologyMask (location.techMask.setWidth 32)

def pbConvertToLocation (pbLoc : PBLocation) : Location where
  flags := (getLocationFlagsMaskFromPB pbLoc.flags).setWidth 16
  timestamp := pbLoc.timestamp
  latitude := pbLoc.latitude
  longitude := pbLoc.longitude
  altitude := pbLoc.altitude
  speed := pbLoc.speed
  bearing := pbLoc.bearing
  accuracy := pbLoc.horizontalAccuracy
  verticalAccuracy := pbLoc.verticalAccuracy
  speedAccuracy := pbLoc.speedAccuracy
  bearingAccuracy := pbLoc.bearingAccuracy
  techMask := (getLocationTechnologyMaskFromPB pbLoc.techMask).setWidth 16

structure LLAInfo where
  (latitude longitude : Float)
  altitude : Float32

structure PBLLAInfo where
  (latitude longitude : Float)
  altitude : Float32

def convertLLAInfoToPB (llaInfo : LLAInfo) : PBLLAInfo :=
  ⟨llaInfo.latitude, llaInfo.longitude, llaInfo.altitude⟩

def pbConvertToLLAInfo (pbLlaInfo : PBLLAInfo) : LLAInfo :=
  ⟨pbLlaInfo.latitude, pbLlaInfo.longitude, pbLlaInfo.altitude⟩

/-! ## Satellites used -/

structure GnssLocationSvUsedInPosition where
  (gpsSvUsedIdsMask gloSvUsedIdsMask galSvUsedIdsMask bdsSvUsedIdsMask : BitVec 64)
  (qzssSvUsedIdsMask navicSvUsedIdsMask : BitVec 64)

structure PBGnssLocationSvUsedInPosition where
  (gpsSvUsedIdsMask gloSvUsedIdsMask galSvUsedIdsMask bdsSvUsedIdsMask : BitVec 64)
  (qzssSvUsedIdsMask navicSvUsedIdsMask : BitVec 64)

def convertGnssLocSvUsedInPosToPB (gnssLocSvUsedInPos : GnssLocationSvUsedInPosition) :
    PBGnssLocationSvUsedInPosition where
  gpsSvUsedIdsMask := gnssLocSvUsedInPos.gpsSvUsedIdsMask
  gloSvUsedIdsMask := gnssLocSvUsedInPos.gloSvUsedIdsMask
  galSvUsedIdsMask := gnssLocSvUsedInPos.galSvUsedIdsMask
  bdsSvUsedIdsMask := gnssLocSvUsedInPos.bdsSvUsedIdsMask
  qzssSvUsedIdsMask := gnssLocSvUsedInPos.qzssSvUsedIdsMask
  navicSvUsedIdsMask := gnssLocSvUsedInPos.navicSvUsedIdsMask

def pbConvertToGnssLocationSvUsedInPosition
    (pbGnssLocSvUsedInPos : PBGnssLocationSvUsedInPosition) : GnssLocationSvUsedInPosition where
  gpsSvUsedIdsMask := pbGnssLocSvUsedInPos.gpsSvUsedIdsMask
  gloSvUsedIdsMask := pbGnssLocSvUsedInPos.gloSvUsedIdsMask
  galSvUsedIdsMask := pbGnssLocSvUsedInPos.galSvUsedIdsMask
  bdsSvUsedIdsMask := pbGnssLocSvUsedInPos.bdsSvUsedIdsMask
  qzssSvUsedIdsMask := pbGnssLocSvUsedInPos.qzssSvUsedIdsMask
  navicSvUsedIdsMask := pbGnssLocSvUsedInPos.navicSvUsedIdsMask

structure GnssMeasUsageInfo where
  gnssSignalType : BitVec 32
  gnssConstellation : Open Gnss_LocSvSystemEnumType
  gnssSvId : UInt16

structure PBGnssMeasUsageInfo where
  gnssConstellation : Open PBLocApiGnss_LocSvSystemEnumType
  gnssSvId : UInt32
  gnssSignalType : BitVec 32

def convertGnssMeasUsageInfoToPB (gnssMeasUsageInfo : GnssMeasUsageInfo) : PBGnssMeasUsageInfo where
  gnssConstellation := .member (getPBEnumForGnssLocSvSystem gnssMeasUsageInfo.gnssConstellation)
  gnssSvId := gnssMeasUsageInfo.gnssSvId.toUInt32
  gnssSignalType := getPBMaskForGnssSignalTypeMask gnssMeasUsageInfo.gnssSignalType

def pbConvertToGnssMeasUsageInfo (pbGnssMeasUsageInfo : PBGnssMeasUsageInfo) :
    GnssMeasUsageInfo where
  gnssConstellation :=
    .member (getEnumForPBGnssLocSvSystem pbGnssMeasUsageInfo.gnssConstellation)
  gnssSvId := pbGnssMeasUsageInfo.gnssSvId.toUInt16
  gnssSignalType := getGnssSignalTypeMaskFromPB pbGnssMeasUsageInfo.gnssSignalType

/-! ## The body frame -/

structure GnssLocationPositionDynamics where
  bodyFrameDataMask : BitVec 32
  (longAccel latAccel vertAccel yawRate pitch longAccelUnc latAccelUnc vertAccelUnc : Float32)
  (yawRateUnc pitchUnc : Float32)

structure GnssLocationPositionDynamicsExt where
  bodyFrameDataMask : BitVec 32
  (pitchRate pitchRateUnc roll rollUnc rollRate rollRateUnc yaw yawUnc : Float32)

structure PBLocApiGnssLocationPositionDynamics where
  bodyFrameDataMask : BitVec 32
  (longAccel latAccel vertAccel longAccelUnc latAccelUnc vertAccelUnc pitch pitchUnc : Float32)
  (pitchRate pitchRateUnc roll rollUnc rollRate rollRateUnc yaw yawUnc yawRate yawRateUnc : Float32)

def convertGnssLocationPositionDynamicsToPB (gnssLocPosDyn : GnssLocationPositionDynamics)
    (gnssLocPosDynExt : GnssLocationPositionDynamicsExt) :
    PBLocApiGnssLocationPositionDynamics where
  bodyFrameDataMask := getPBMaskForGnssLocationPosDataMask gnssLocPosDyn.bodyFrameDataMask
    gnssLocPosDynExt.bodyFrameDataMask
  longAccel := gnssLocPosDyn.longAccel
  latAccel := gnssLocPosDyn.latAccel
  vertAccel := gnssLocPosDyn.vertAccel
  longAccelUnc := gnssLocPosDyn.longAccelUnc
  latAccelUnc := gnssLocPosDyn.latAccelUnc
  vertAccelUnc := gnssLocPosDyn.vertAccelUnc
  pitch := gnssLocPosDyn.pitch
  pitchUnc := gnssLocPosDyn.pitchUnc
  pitchRate := gnssLocPosDynExt.pitchRate
  pitchRateUnc := gnssLocPosDynExt.pitchRateUnc
  roll := gnssLocPosDynExt.roll
  rollUnc := gnssLocPosDynExt.rollUnc
  rollRate := gnssLocPosDynExt.rollRate
  rollRateUnc := gnssLocPosDynExt.rollRateUnc
  yaw := gnssLocPosDynExt.yaw
  yawUnc := gnssLocPosDynExt.yawUnc
  yawRate := gnssLocPosDyn.yawRate
  yawRateUnc := gnssLocPosDyn.yawRateUnc

/-- The first of the two structures pbConvertToGnssLocationPositionDynamics
fills. -/
def pbConvertToGnssLocationPositionDynamics
    (pbGnssLocPosDyn : PBLocApiGnssLocationPositionDynamics) : GnssLocationPositionDynamics where
  bodyFrameDataMask := getGnssLocationPosDataMaskFromPB pbGnssLocPosDyn.bodyFrameDataMask
  longAccel := pbGnssLocPosDyn.longAccel
  latAccel := pbGnssLocPosDyn.latAccel
  vertAccel := pbGnssLocPosDyn.vertAccel
  longAccelUnc := pbGnssLocPosDyn.longAccelUnc
  latAccelUnc := pbGnssLocPosDyn.latAccelUnc
  vertAccelUnc := pbGnssLocPosDyn.vertAccelUnc
  pitch := pbGnssLocPosDyn.pitch
  pitchUnc := pbGnssLocPosDyn.pitchUnc
  yawRate := pbGnssLocPosDyn.yawRate
  yawRateUnc := pbGnssLocPosDyn.yawRateUnc

/-- The other one. -/
def pbConvertToGnssLocationPositionDynamicsExt
    (pbGnssLocPosDyn : PBLocApiGnssLocationPositionDynamics) :
    GnssLocationPositionDynamicsExt where
  bodyFrameDataMask := getGnssLocationPosDataMaskExtFromPB pbGnssLocPosDyn.bodyFrameDataMask
  pitchRate := pbGnssLocPosDyn.pitchRate
  pitchRateUnc := pbGnssLocPosDyn.pitchRateUnc
  roll := pbGnssLocPosDyn.roll
  rollUnc := pbGnssLocPosDyn.rollUnc
  rollRate := pbGnssLocPosDyn.rollRate
  rollRateUnc := pbGnssLocPosDyn.rollRateUnc
  yaw := pbGnssLocPosDyn.yaw
  yawUnc := pbGnssLocPosDyn.yawUnc

/-! ## The time of the constellation -/

structure GnssSystemTimeStructType where
  validityMask : BitVec 32
  systemWeek : UInt16
  systemMsec : UInt32
  (systemClkTimeBias systemClkTimeUncMs : Float32)
  (refFCount numClockResets : UInt32)

structure PBLocApiGnssSystemTimeStructType where
  validityMask : BitVec 32
  (systemWeek systemMsec : UInt32)
  (systemClkTimeBiasMs systemClkTimeBiasUncMs : Float32)
  (refFCount numClockResets : UInt32)

def convertGnssSystemTimeStructTypeToPB (gnssSysTimeStructType : GnssSystemTimeStructType) :
    PBLocApiGnssSystemTimeStructType where
  validityMask := getPBMaskForGnssSystemTimeStructTypeFlags gnssSysTimeStructType.validityMask
  systemWeek := gnssSysTimeStructType.systemWeek.toUInt32
  systemMsec := gnssSysTimeStructType.systemMsec
  systemClkTimeBiasMs := gnssSysTimeStructType.systemClkTimeBias
  systemClkTimeBiasUncMs := gnssSysTimeStructType.systemClkTimeUncMs
  refFCount := gnssSysTimeStructType.refFCount
  numClockResets := gnssSysTimeStructType.numClockResets

def pbConvertToGnssSystemTimeStructType (pbGnssSysTimeStrct : PBLocApiGnssSystemTimeStructType) :
    GnssSystemTimeStructType where
  validityMask := getGnssSystemTimeStructTypeFlagsFromPB pbGnssSysTimeStrct.validityMask
  systemWeek := pbGnssSysTimeStrct.systemWeek.toUInt16
  systemMsec := pbGnssSysTimeStrct.systemMsec
  systemClkTimeBias := pbGnssSysTimeStrct.systemClkTimeBiasMs
  systemClkTimeUncMs := pbGnssSysTimeStrct.systemClkTimeBiasUncMs
  refFCount := pbGnssSysTimeStrct.refFCount
  numClockResets := pbGnssSysTimeStrct.numClockResets

structure GnssGloTimeStructType where
  gloDays : UInt16
  validityMask : BitVec 32
  gloMsec : UInt32
  (gloClkTimeBias gloClkTimeUncMs : Float32)
  (refFCount numClockResets : UInt32)
  gloFourYear : UInt8

structure PBLocApiGnssGloTimeStructType where
  validityMask : BitVec 32
  (gloFourYear gloDays gloMsec : UInt32)
  (gloClkTimeBias gloClkTimeUncMs : Float32)
  (refFCount numClockResets : UInt32)

def convertGnssGloTimeStructTypeToPB (gnssGloTime : GnssGloTimeStructType) :
    PBLocApiGnssGloTimeStructType where
  validityMask := getPBMaskForGnssGloTimeStructTypeFlags gnssGloTime.validityMask
  gloFourYear := gnssGloTime.gloFourYear.toUInt32
  gloDays := gnssGloTime.gloDays.toUInt32
  gloMsec := gnssGloTime.gloMsec
  gloClkTimeBias := gnssGloTime.gloClkTimeBias
  gloClkTimeUncMs := gnssGloTime.gloClkTimeUncMs
  refFCount := gnssGloTime.refFCount
  numClockResets := gnssGloTime.numClockResets

def pbConvertToGnssGloTimeStructType (pbGnssGloTime : PBLocApiGnssGloTimeStructType) :
    GnssGloTimeStructType where
  validityMask := getGnssGloTimeStructTypeFlagsFromPB pbGnssGloTime.validityMask
  gloFourYear := pbGnssGloTime.gloFourYear.toUInt8
  gloDays := pbGnssGloTime.gloDays.toUInt16
  gloMsec := pbGnssGloTime.gloMsec
  gloClkTimeBias := pbGnssGloTime.gloClkTimeBias
  gloClkTimeUncMs := pbGnssGloTime.gloClkTimeUncMs
  refFCount := pbGnssGloTime.refFCount
  numClockResets := pbGnssGloTime.numClockResets

/-- The union, as the source of the time says it is to be read; for the other
sources it has no member. -/
def SystemTimeStructUnion : Open Gnss_LocSvSystemEnumType → Type
  | .member .GPS | .member .GALILEO | .member .BDS | .member .QZSS | .member .NAVIC =>
    GnssSystemTimeStructType
  | .member .GLONASS => GnssGloTimeStructType
  | _ => Unit

/-- sysTimeUnion has one member, or none. -/
inductive PBLocApiSystemTimeStructUnion where
  | notSet
  | gpsSystemTime (time : PBLocApiGnssSystemTimeStructType)
  | galSystemTime (time : PBLocApiGnssSystemTimeStructType)
  | bdsSystemTime (time : PBLocApiGnssSystemTimeStructType)
  | qzssSystemTime (time : PBLocApiGnssSystemTimeStructType)
  | gloSystemTime (time : PBLocApiGnssGloTimeStructType)
  | navicSystemTime (time : PBLocApiGnssSystemTimeStructType)

namespace PBLocApiSystemTimeStructUnion

def noSystemTime : PBLocApiGnssSystemTimeStructType := ⟨0, 0, 0, 0, 0, 0, 0⟩

def noGloTime : PBLocApiGnssGloTimeStructType := ⟨0, 0, 0, 0, 0, 0, 0, 0⟩

def gpssystemtime : PBLocApiSystemTimeStructUnion → PBLocApiGnssSystemTimeStructType
  | gpsSystemTime time => time
  | _ => noSystemTime

def galsystemtime : PBLocApiSystemTimeStructUnion → PBLocApiGnssSystemTimeStructType
  | galSystemTime time => time
  | _ => noSystemTime

def bdssystemtime : PBLocApiSystemTimeStructUnion → PBLocApiGnssSystemTimeStructType
  | bdsSystemTime time => time
  | _ => noSystemTime

def qzsssystemtime : PBLocApiSystemTimeStructUnion → PBLocApiGnssSystemTimeStructType
  | qzssSystemTime time => time
  | _ => noSystemTime

def glosystemtime : PBLocApiSystemTimeStructUnion → PBLocApiGnssGloTimeStructType
  | gloSystemTime time => time
  | _ => noGloTime

def navicsystemtime : PBLocApiSystemTimeStructUnion → PBLocApiGnssSystemTimeStructType
  | navicSystemTime time => time
  | _ => noSystemTime

end PBLocApiSystemTimeStructUnion

def convertSystemTimeStructUnionToPB : (gnssLocSvSysEnumType : Open Gnss_LocSvSystemEnumType) →
    SystemTimeStructUnion gnssLocSvSysEnumType → PBLocApiSystemTimeStructUnion
  | .member .GPS, u => .gpsSystemTime (convertGnssSystemTimeStructTypeToPB u)
  | .member .GALILEO, u => .galSystemTime (convertGnssSystemTimeStructTypeToPB u)
  | .member .BDS, u => .bdsSystemTime (convertGnssSystemTimeStructTypeToPB u)
  | .member .QZSS, u => .qzssSystemTime (convertGnssSystemTimeStructTypeToPB u)
  | .member .GLONASS, u => .gloSystemTime (convertGnssGloTimeStructTypeToPB u)
  | .member .NAVIC, u => .navicSystemTime (convertGnssSystemTimeStructTypeToPB u)
  | .member .UNKNOWN, _ | .member .SBAS, _ | .other _, _ => .notSet

def pbConvertToSystemTimeStructUnion (pb : PBLocApiSystemTimeStructUnion) :
    (gnssLocSvSysEnumType : Gnss_LocSvSystemEnumType) →
      SystemTimeStructUnion (.member gnssLocSvSysEnumType)
  | .GPS => pbConvertToGnssSystemTimeStructType pb.gpssystemtime
  | .GALILEO => pbConvertToGnssSystemTimeStructType pb.galsystemtime
  | .BDS => pbConvertToGnssSystemTimeStructType pb.bdssystemtime
  | .QZSS => pbConvertToGnssSystemTimeStructType pb.qzsssystemtime
  | .GLONASS => pbConvertToGnssGloTimeStructType pb.glosystemtime
  | .NAVIC => pbConvertToGnssSystemTimeStructType pb.navicsystemtime
  | .UNKNOWN | .SBAS => ()

structure GnssSystemTime where
  gnssSystemTimeSrc : Open Gnss_LocSvSystemEnumType
  u : SystemTimeStructUnion gnssSystemTimeSrc

structure PBLocApiGnssSystemTime where
  gnssSystemTimeSrc : Open PBLocApiGnss_LocSvSystemEnumType
  u : PBLocApiSystemTimeStructUnion

def convertGnssSystemTimeToPB (gnssSysTime : GnssSystemTime) : PBLocApiGnssSystemTime where
  gnssSystemTimeSrc := .member (getPBEnumForGnssLocSvSystem gnssSysTime.gnssSystemTimeSrc)
  u := convertSystemTimeStructUnionToPB gnssSysTime.gnssSystemTimeSrc gnssSysTime.u

def pbConvertToGnssSystemTime (pbGnssSysTime : PBLocApiGnssSystemTime) : GnssSystemTime where
  gnssSystemTimeSrc := .member (getEnumForPBGnssLocSvSystem pbGnssSysTime.gnssSystemTimeSrc)
  u := pbConvertToSystemTimeStructUnion pbGnssSysTime.u
    (getEnumForPBGnssLocSvSystem pbGnssSysTime.gnssSystemTimeSrc)

/-! ## The notification -/

def GNSS_SV_MAX : ℕ := 128

structure GnssLocationInfoNotification where
  location : Location
  flags : BitVec 64
  (altitudeMeanSeaLevel pdop hdop vdop gdop tdop magneticDeviation : Float32)
  (horReliability verReliability : Open LocationReliability)
  (horUncEllipseSemiMajor horUncEllipseSemiMinor horUncEllipseOrientAzimuth : Float32)
  (northStdDeviation eastStdDeviation northVelocity eastVelocity upVelocity : Float32)
  (northVelocityStdDeviation eastVelocityStdDeviation upVelocityStdDeviation : Float32)
  numSvUsedInPosition : UInt16
  svUsedInPosition : GnssLocationSvUsedInPosition
  navSolutionMask : BitVec 32
  bodyFrameData : GnssLocationPositionDynamics
  gnssSystemTime : GnssSystemTime
  numOfMeasReceived : UInt8
  measUsageInfo : Cells GNSS_SV_MAX GnssMeasUsageInfo
  leapSeconds : UInt8
  timeUncMs : Float32
  calibrationConfidence : UInt8
  calibrationStatus : BitVec 16
  locOutputEngType : Open LocOutputEngineType
  locOutputEngMask : BitVec 32
  conformityIndex : Float32
  bodyFrameDataExt : GnssLocationPositionDynamicsExt
  llaVRPBased : LLAInfo
  enuVelocityVRPBased : Cells 3 Float32
  drSolutionStatusMask : BitVec 32
  altitudeAssumed : Bool
  sessionStatus : Open LocSessStatus

structure PBGnssLocationInfoNotification where
  location : PBLocation
  flags : BitVec 32
  (altitudeMeanSeaLevel pdop hdop vdop gdop tdop magneticDeviation : Float32)
  (horReliability verReliability : Open PBLocationReliability)
  (horUncEllipseSemiMajor horUncEllipseSemiMinor horUncEllipseOrientAzimuth : Float32)
  (northStdDeviation eastStdDeviation northVelocity eastVelocity upVelocity : Float32)
  (northVelocityStdDeviation eastVelocityStdDeviation upVelocityStdDeviation : Float32)
  numSvUsedInPosition : UInt32
  svUsedInPosition : PBGnssLocationSvUsedInPosition
  navSolutionMask : BitVec 32
  bodyFrameData : PBLocApiGnssLocationPositionDynamics
  gnssSystemTime : PBLocApiGnssSystemTime
  numOfMeasReceived : UInt32
  measUsageInfo : List PBGnssMeasUsageInfo
  leapSeconds : UInt32
  timeUncMs : Float32
  calibrationConfidence : UInt32
  calibrationStatus : BitVec 32
  locOutputEngType : Open PBLocApiOutputEngineType
  locOutputEngMask : BitVec 32
  conformityIndex : Float32
  llaVRPBased : PBLLAInfo
  enuVelocityVRPBased : List Float32
  (drSolutionStatusMask extFlags : BitVec 32)
  altitudeAssumed : Bool
  sessionStatus : Open PBLocationSessionStatus

def convertGnssLocInfoNotifToPB (gnssLocInfoNotif : GnssLocationInfoNotification) :
    Option PBGnssLocationInfoNotification := do
  let count := gnssLocInfoNotif.numOfMeasReceived.toNat
  let measUsageInfo ← Cells.gather count fun iter =>
    (gnssLocInfoNotif.measUsageInfo.read iter).map convertGnssMeasUsageInfoToPB
  let enuVelocityVRPBased ← Cells.gather 3 fun i => gnssLocInfoNotif.enuVelocityVRPBased.read i
  return {
    location := convertLocationToPB gnssLocInfoNotif.location
    flags := getPBMaskForGnssLocationInfoFlagMask gnssLocInfoNotif.flags
    altitudeMeanSeaLevel := gnssLocInfoNotif.altitudeMeanSeaLevel
    pdop := gnssLocInfoNotif.pdop
    hdop := gnssLocInfoNotif.hdop
    vdop := gnssLocInfoNotif.vdop
    gdop := gnssLocInfoNotif.gdop
    tdop := gnssLocInfoNotif.tdop
    magneticDeviation := gnssLocInfoNotif.magneticDeviation
    horReliability := .member (getPBEnumForLocationReliability gnssLocInfoNotif.horReliability)
    verReliability := .member (getPBEnumForLocationReliability gnssLocInfoNotif.verReliability)
    horUncEllipseSemiMajor := gnssLocInfoNotif.horUncEllipseSemiMajor
    horUncEllipseSemiMinor := gnssLocInfoNotif.horUncEllipseSemiMinor
    horUncEllipseOrientAzimuth := gnssLocInfoNotif.horUncEllipseOrientAzimuth
    northStdDeviation := gnssLocInfoNotif.northStdDeviation
    eastStdDeviation := gnssLocInfoNotif.eastStdDeviation
    northVelocity := gnssLocInfoNotif.northVelocity
    eastVelocity := gnssLocInfoNotif.eastVelocity
    upVelocity := gnssLocInfoNotif.upVelocity
    northVelocityStdDeviation := gnssLocInfoNotif.northVelocityStdDeviation
    eastVelocityStdDeviation := gnssLocInfoNotif.eastVelocityStdDeviation
    upVelocityStdDeviation := gnssLocInfoNotif.upVelocityStdDeviation
    numSvUsedInPosition := gnssLocInfoNotif.numSvUsedInPosition.toUInt32
    svUsedInPosition := convertGnssLocSvUsedInPosToPB gnssLocInfoNotif.svUsedInPosition
    navSolutionMask := getPBMaskForGnssLocationNavSolutionMask gnssLocInfoNotif.navSolutionMask
    bodyFrameData := convertGnssLocationPositionDynamicsToPB gnssLocInfoNotif.bodyFrameData
      gnssLocInfoNotif.bodyFrameDataExt
    gnssSystemTime := convertGnssSystemTimeToPB gnssLocInfoNotif.gnssSystemTime
    numOfMeasReceived := gnssLocInfoNotif.numOfMeasReceived.toUInt32
    measUsageInfo := measUsageInfo
    leapSeconds := gnssLocInfoNotif.leapSeconds.toUInt32
    timeUncMs := gnssLocInfoNotif.timeUncMs
    calibrationConfidence := gnssLocInfoNotif.calibrationConfidence.toUInt32
    calibrationStatus :=
      getPBMaskForDrCalibrationStatusMask (gnssLocInfoNotif.calibrationStatus.setWidth 32)
    locOutputEngType :=
      .member (getPBEnumForLocOutputEngineType gnssLocInfoNotif.locOutputEngType)
    locOutputEngMask := getPBMaskForPositioningEngineMask gnssLocInfoNotif.locOutputEngMask
    conformityIndex := gnssLocInfoNotif.conformityIndex
    llaVRPBased := convertLLAInfoToPB gnssLocInfoNotif.llaVRPBased
    enuVelocityVRPBased := enuVelocityVRPBased
    drSolutionStatusMask :=
      getPBMaskForDrSolutionStatusMask gnssLocInfoNotif.drSolutionStatusMask
    extFlags := getPBMaskForGnssLocationInfoExtFlagMask gnssLocInfoNotif.flags
    altitudeAssumed := gnssLocInfoNotif.altitudeAssumed
    sessionStatus := .member (getPBEnumForLocSessionStatus gnssLocInfoNotif.sessionStatus) }

def pbConvertToGnssLocInfoNotif (pbGnssLocInfoNotif : PBGnssLocationInfoNotification) :
    Option GnssLocationInfoNotification := do
  let numOfMeasReceived := min pbGnssLocInfoNotif.numOfMeasReceived.toNat GNSS_SV_MAX
  let measUsageInfo ← Cells.fill numOfMeasReceived
    (Cells.each pbGnssLocInfoNotif.measUsageInfo pbConvertToGnssMeasUsageInfo) Cells.empty
  let enuVelocityVRPBased ← Cells.fill 3
    (Cells.each pbGnssLocInfoNotif.enuVelocityVRPBased id) Cells.empty
  return {
    location := pbConvertToLocation pbGnssLocInfoNotif.location
    flags :=
      getGnssLocationInfoFlagMaskFromPB pbGnssLocInfoNotif.flags pbGnssLocInfoNotif.extFlags
    altitudeMeanSeaLevel := pbGnssLocInfoNotif.altitudeMeanSeaLevel
    pdop := pbGnssLocInfoNotif.pdop
    hdop := pbGnssLocInfoNotif.hdop
    vdop := pbGnssLocInfoNotif.vdop
    gdop := pbGnssLocInfoNotif.gdop
    tdop := pbGnssLocInfoNotif.tdop
    magneticDeviation := pbGnssLocInfoNotif.magneticDeviation
    horReliability := .member (getEnumForPBLocReliability pbGnssLocInfoNotif.horReliability)
    verReliability := .member (getEnumForPBLocReliability pbGnssLocInfoNotif.verReliability)
    horUncEllipseSemiMajor := pbGnssLocInfoNotif.horUncEllipseSemiMajor
    horUncEllipseSemiMinor := pbGnssLocInfoNotif.horUncEllipseSemiMinor
    horUncEllipseOrientAzimuth := pbGnssLocInfoNotif.horUncEllipseOrientAzimuth
    northStdDeviation := pbGnssLocInfoNotif.northStdDeviation
    eastStdDeviation := pbGnssLocInfoNotif.eastStdDeviation
    northVelocity := pbGnssLocInfoNotif.northVelocity
    eastVelocity := pbGnssLocInfoNotif.eastVelocity
    upVelocity := pbGnssLocInfoNotif.upVelocity
    northVelocityStdDeviation := pbGnssLocInfoNotif.northVelocityStdDeviation
    eastVelocityStdDeviation := pbGnssLocInfoNotif.eastVelocityStdDeviation
    upVelocityStdDeviation := pbGnssLocInfoNotif.upVelocityStdDeviation
    numSvUsedInPosition := pbGnssLocInfoNotif.numSvUsedInPosition.toUInt16
    svUsedInPosition :=
      pbConvertToGnssLocationSvUsedInPosition pbGnssLocInfoNotif.svUsedInPosition
    navSolutionMask := getGnssLocationNavSolutionMaskFromPB pbGnssLocInfoNotif.navSolutionMask
    bodyFrameData := pbConvertToGnssLocationPositionDynamics pbGnssLocInfoNotif.bodyFrameData
    gnssSystemTime := pbConvertToGnssSystemTime pbGnssLocInfoNotif.gnssSystemTime
    numOfMeasReceived := numOfMeasReceived.toUInt8
    measUsageInfo := measUsageInfo
    leapSeconds := pbGnssLocInfoNotif.leapSeconds.toUInt8
    timeUncMs := pbGnssLocInfoNotif.timeUncMs
    calibrationConfidence := pbGnssLocInfoNotif.calibrationConfidence.toUInt8
    calibrationStatus :=
      (getDrCalibrationStatusMaskFromPB pbGnssLocInfoNotif.calibrationStatus).setWidth 16
    locOutputEngType :=
      .member (getEnumForPBLocOutputEngineType pbGnssLocInfoNotif.locOutputEngType)
    locOutputEngMask := getEnumForPBPositioningEngineMask pbGnssLocInfoNotif.locOutputEngMask
    conformityIndex := pbGnssLocInfoNotif.conformityIndex
    bodyFrameDataExt :=
      pbConvertToGnssLocationPositionDynamicsExt pbGnssLocInfoNotif.bodyFrameData
    llaVRPBased := pbConvertToLLAInfo pbGnssLocInfoNotif.llaVRPBased
    enuVelocityVRPBased := enuVelocityVRPBased
    drSolutionStatusMask :=
      getDrSolutionStatusMaskFromPB pbGnssLocInfoNotif.drSolutionStatusMask
    altitudeAssumed := pbGnssLocInfoNotif.altitudeAssumed
    sessionStatus := .member (getLocSessionStatusFromPB pbGnssLocInfoNotif.sessionStatus) }

end LocStack.MsgConv
