/-
# `LocStack.MsgConv.Satellites` — satellites and measurements in the messages

The converters of LocationApiPbMsgConv for GnssSvNotification,
GnssMeasurementsNotification, GnssDataNotification and GnssSvIdConfig, as those
for a fix are in `Fixes`.  The decoders differ in what they take for a bound:

    pbConvertToGnssSvNotif           the elements, at most GNSS_SV_MAX
    pbConvertToGnssMeasNotification  the elements
    pbConvertToGnssDataNotification  a count of the message, at most
                                     GNSS_LOC_MAX_NUMBER_OF_SIGNAL_TYPES

The size of a repeated field is an int, which a uint32_t counts as it is.
-/
import LocStack.Gnss.SvConfig
import LocStack.MsgConv.Fixes

namespace LocStack.MsgConv

open Base
open Gnss (GnssSvIdConfig)

/-! ## Satellites -/

structure GnssSv where
  svId : UInt16
  type : Open GnssSvType
  (cN0Dbhz elevation azimuth : Float32)
  gnssSvOptionsMask : BitVec 16
  carrierFrequencyHz : Float32
  gnssSignalTypeMask : BitVec 32
  basebandCarrierToNoiseDbHz : Float
  gloFrequency : UInt16

structure PBLocApiGnssSv where
  svId : UInt32
  type : Open PBLocApiGnss_LocSvSystemEnumType
  (cN0Dbhz elevation azimuth : Float32)
  gnssSvOptionsMask : BitVec 32
  carrierFrequencyHz : Float32
  gnssSignalTypeMask : BitVec 32
  basebandCarrierToNoiseDbHz : Float
  gloFrequency : UInt32

def convertGnssSvToPB (gnssSv : GnssSv) : PBLocApiGnssSv where
  svId := gnssSv.svId.toUInt32
  type := .member (getPBGnssLocSvSysEnumFromGnssSvType gnssSv.type)
  cN0Dbhz := gnssSv.cN0Dbhz
  elevation := gnssSv.elevation
  azimuth := gnssSv.azimuth
  gnssSvOptionsMask := getPBMaskForGnssSvOptionsMask (gnssSv.gnssSvOptionsMask.setWidth 32)
  carrierFrequencyHz := gnssSv.carrierFrequencyHz
  gnssSignalTypeMask := getPBMaskForGnssSignalTypeMask gnssSv.gnssSignalTypeMask
  basebandCarrierToNoiseDbHz := gnssSv.basebandCarrierToNoiseDbHz
  gloFrequency := gnssSv.gloFrequency.toUInt32

/-- One turn of the loop in pbConvertToGnssSvNotif. -/
def pbConvertToGnssSv (pPbGnssSv : PBLocApiGnssSv) : GnssSv where
  svId := pPbGnssSv.svId.toUInt16
  type := .member (getGnssSvTypeFromPBGnssLocSvSystemEnumType pPbGnssSv.type)
  cN0Dbhz := pPbGnssSv.cN0Dbhz
  elevation := pPbGnssSv.elevation
  azimuth := pPbGnssSv.azimuth
  gnssSvOptionsMask := (getGnssSvOptionsMaskFromPB pPbGnssSv.gnssSvOptionsMask).setWidth 16
  carrierFrequencyHz := pPbGnssSv.carrierFrequencyHz
  gnssSignalTypeMask := getGnssSignalTypeMaskFromPB pPbGnssSv.gnssSignalTypeMask
  basebandCarrierToNoiseDbHz := pPbGnssSv.basebandCarrierToNoiseDbHz
  gloFrequency := pPbGnssSv.gloFrequency.toUInt16

structure GnssSvNotification where
  count : UInt32
  gnssSignalTypeMaskValid : Bool
  gnssSvs : Cells GNSS_SV_MAX GnssSv

structure PBLocApiGnssSvNotification where
  gnssSignalTypeMaskValid : Bool
  gnssSvs : List PBLocApiGnssSv

def convertGnssSvNotifToPB (gnssSvNotif : GnssSvNotification) :
    Option PBLocApiGnssSvNotification := do
  let gnssSvs ← Cells.gather gnssSvNotif.count.toNat fun i =>
    (gnssSvNotif.gnssSvs.read i).map convertGnssSvToPB
  return { gnssSignalTypeMaskValid := gnssSvNotif.gnssSignalTypeMaskValid, gnssSvs := gnssSvs }

def pbConvertToGnssSvNotif (pbGnssSvNotif : PBLocApiGnssSvNotification) :
    Option GnssSvNotification := do
  let count := min pbGnssSvNotif.gnssSvs.length GNSS_SV_MAX
  let gnssSvs ← Cells.fill count (Cells.each pbGnssSvNotif.gnssSvs pbConvertToGnssSv) Cells.empty
  return {
    count := count.toUInt32
    gnssSignalTypeMaskValid := pbGnssSvNotif.gnssSignalTypeMaskValid
    gnssSvs := gnssSvs }

/-! ## Measurements -/

def GNSS_MEASUREMENTS_MAX : ℕ := 128

structure GnssMeasurementsData where
  flags : BitVec 32
  svId : Int16
  svType : Open GnssSvType
  timeOffsetNs : Float
  stateMask : BitVec 32
  (receivedSvTimeNs receivedSvTimeUncertaintyNs : Int64)
  (carrierToNoiseDbHz pseudorangeRateMps pseudorangeRateUncertaintyMps : Float)
  adrStateMask : BitVec 16
  (adrMeters adrUncertaintyMeters : Float)
  carrierFrequencyHz : Float32
  carrierCycles : Int64
  (carrierPhase carrierPhaseUncertainty : Float)
  multipathIndicator : Open GnssMeasurementsMultipathIndicator
  (signalToNoiseRatioDb agcLevelDb basebandCarrierToNoiseDbHz : Float)
  gnssSignalType : BitVec 32
  (fullInterSignalBiasNs fullInterSignalBiasUncertaintyNs : Float)
  cycleSlipCount : UInt8

structure PBGnssMeasurementsData where
  flags : BitVec 32
  svId : Int32
  svType : Open PBLocApiGnss_LocSvSystemEnumType
  timeOffsetNs : Float
  stateMask : BitVec 32
  (receivedSvTimeNs receivedSvTimeUncertaintyNs : Int64)
  (carrierToNoiseDbHz pseudorangeRateMps pseudorangeRateUncertaintyMps : Float)
  adrStateMask : BitVec 32
  (adrMeters adrUncertaintyMeters : Float)
  carrierFrequencyHz : Float32
  carrierCycles : Int64
  (carrierPhase carrierPhaseUncertainty : Float)
  multipathIndicator : Open PBGnssMeasurementsMultipathIndicator
  (signalToNoiseRatioDb agcLevelDb basebandCarrierToNoiseDbHz : Float)
  gnssSignalType : BitVec 32
  (fullInterSignalBiasNs fullInterSignalBiasUncertaintyNs : Float)
  cycleSlipCount : UInt32

def convertGnssMeasDataToPB (gnssMeasData : GnssMeasurementsData) : PBGnssMeasurementsData where
  flags := getPBMaskForGnssMeasurementsDataFlagsMask gnssMeasData.flags
  svId := gnssMeasData.svId.toInt32
  svType := .member (getPBGnssLocSvSysEnumFromGnssSvType gnssMeasData.svType)
  timeOffsetNs := gnssMeasData.timeOffsetNs
  stateMask := getPBMaskForGnssMeasurementsStateMask gnssMeasData.stateMask
  receivedSvTimeNs := gnssMeasData.receivedSvTimeNs
  receivedSvTimeUncertaintyNs := gnssMeasData.receivedSvTimeUncertaintyNs
  carrierToNoiseDbHz := gnssMeasData.carrierToNoiseDbHz
  pseudorangeRateMps := gnssMeasData.pseudorangeRateMps
  pseudorangeRateUncertaintyMps := gnssMeasData.pseudorangeRateUncertaintyMps
  adrStateMask := getPBMaskForGnssMeasurementsAdrStateMask (gnssMeasData.adrStateMask.setWidth 32)
  adrMeters := gnssMeasData.adrMeters
  adrUncertaintyMeters := gnssMeasData.adrUncertaintyMeters
  carrierFrequencyHz := gnssMeasData.carrierFrequencyHz
  carrierCycles := gnssMeasData.carrierCycles
  carrierPhase := gnssMeasData.carrierPhase
  carrierPhaseUncertainty := gnssMeasData.carrierPhaseUncertainty
  multipathIndicator :=
    .member (getPBEnumForGnssMeasMultiPathIndic gnssMeasData.multipathIndicator)
  signalToNoiseRatioDb := gnssMeasData.signalToNoiseRatioDb
  agcLevelDb := gnssMeasData.agcLevelDb
  basebandCarrierToNoiseDbHz := gnssMeasData.basebandCarrierToNoiseDbHz
  gnssSignalType := getPBMaskForGnssSignalTypeMask gnssMeasData.gnssSignalType
  fullInterSignalBiasNs := gnssMeasData.fullInterSignalBiasNs
  fullInterSignalBiasUncertaintyNs := gnssMeasData.fullInterSignalBiasUncertaintyNs
  cycleSlipCount := gnssMeasData.cycleSlipCount.toUInt32

/-- stateMask is copied as it is. -/
def pbConvertToGnssMeasurementsData (pbGnssMeasData : PBGnssMeasurementsData) :
    GnssMeasurementsData where
  flags := getGnssMeasurementsDataFlagsMaskFromPB pbGnssMeasData.flags
  svId := pbGnssMeasData.svId.toInt16
  svType := .member (getGnssSvTypeFromPBGnssLocSvSystemEnumType pbGnssMeasData.svType)
  timeOffsetNs := pbGnssMeasData.timeOffsetNs
  stateMask := pbGnssMeasData.stateMask
  receivedSvTimeNs := pbGnssMeasData.receivedSvTimeNs
  receivedSvTimeUncertaintyNs := pbGnssMeasData.receivedSvTimeUncertaintyNs
  carrierToNoiseDbHz := pbGnssMeasData.carrierToNoiseDbHz
  pseudorangeRateMps := pbGnssMeasData.pseudorangeRateMps
  pseudorangeRateUncertaintyMps := pbGnssMeasData.pseudorangeRateUncertaintyMps
  adrStateMask := (getGnssMeasurementsAdrStateMaskFromPB pbGnssMeasData.adrStateMask).setWidth 16
  adrMeters := pbGnssMeasData.adrMeters
  adrUncertaintyMeters := pbGnssMeasData.adrUncertaintyMeters
  carrierFrequencyHz := pbGnssMeasData.carrierFrequencyHz
  carrierCycles := pbGnssMeasData.carrierCycles
  carrierPhase := pbGnssMeasData.carrierPhase
  carrierPhaseUncertainty := pbGnssMeasData.carrierPhaseUncertainty
  multipathIndicator :=
    .member (getEnumForPBGnssMeasMultipathIndic pbGnssMeasData.multipathIndicator)
  signalToNoiseRatioDb := pbGnssMeasData.signalToNoiseRatioDb
  agcLevelDb := pbGnssMeasData.agcLevelDb
  basebandCarrierToNoiseDbHz := pbGnssMeasData.basebandCarrierToNoiseDbHz
  gnssSignalType := getGnssSignalTypeMaskFromPB pbGnssMeasData.gnssSignalType
  fullInterSignalBiasNs := pbGnssMeasData.fullInterSignalBiasNs
  fullInterSignalBiasUncertaintyNs := pbGnssMeasData.fullInterSignalBiasUncertaintyNs
  cycleSlipCount := pbGnssMeasData.cycleSlipCount.toUInt8

structure GnssMeasurementsClock where
  flags : BitVec 32
  leapSecond : Int16
  timeNs : Int64
  timeUncertaintyNs : Float
  fullBiasNs : Int64
  (biasNs biasUncertaintyNs driftNsps driftUncertaintyNsps : Float)
  hwClockDiscontinuityCount : UInt32

structure PBGnssMeasurementsClock where
  flags : BitVec 32
  leapSecond : Int32
  timeNs : Int64
  timeUncertaintyNs : Float
  fullBiasNs : Int64
  (biasNs biasUncertaintyNs driftNsps driftUncertaintyNsps : Float)
  hwClockDiscontinuityCount : UInt32

def convertGnssMeasClockToPB (gnssMeasClock : GnssMeasurementsClock) : PBGnssMeasurementsClock where
  flags := getPBMaskForGnssMeasurementsClockFlagsMask gnssMeasClock.flags
  leapSecond := gnssMeasClock.leapSecond.toInt32
  timeNs := gnssMeasClock.timeNs
  timeUncertaintyNs := gnssMeasClock.timeUncertaintyNs
  fullBiasNs := gnssMeasClock.fullBiasNs
  biasNs := gnssMeasClock.biasNs
  biasUncertaintyNs := gnssMeasClock.biasUncertaintyNs
  driftNsps := gnssMeasClock.driftNsps
  driftUncertaintyNsps := gnssMeasClock.driftUncertaintyNsps
  hwClockDiscontinuityCount := gnssMeasClock.hwClockDiscontinuityCount

def pbConvertToGnssMeasurementsClock (pbGnssMeasClock : PBGnssMeasurementsClock) :
    GnssMeasurementsClock where
  flags := getGnssMeasurementsClockFlagsMaskFromPB pbGnssMeasClock.flags
  leapSecond := pbGnssMeasClock.leapSecond.toInt16
  timeNs := pbGnssMeasClock.timeNs
  timeUncertaintyNs := pbGnssMeasClock.timeUncertaintyNs
  fullBiasNs := pbGnssMeasClock.fullBiasNs
  biasNs := pbGnssMeasClock.biasNs
  biasUncertaintyNs := pbGnssMeasClock.biasUncertaintyNs
  driftNsps := pbGnssMeasClock.driftNsps
  driftUncertaintyNsps := pbGnssMeasClock.driftUncertaintyNsps
  hwClockDiscontinuityCount := pbGnssMeasClock.hwClockDiscontinuityCount

structure GnssMeasurementsNotification where
  count : UInt32
  measurements : Cells GNSS_MEASUREMENTS_MAX GnssMeasurementsData
  clock : GnssMeasurementsClock

structure PBGnssMeasurementsNotification where
  measurements : List PBGnssMeasurementsData
  clock : PBGnssMeasurementsClock

def convertGnssMeasNotifToPB (gnssMeasNotif : GnssMeasurementsNotification) :
    Option PBGnssMeasurementsNotification := do
  let measurements ← Cells.gather gnssMeasNotif.count.toNat fun i =>
    (gnssMeasNotif.measurements.read i).map convertGnssMeasDataToPB
  return {
    measurements := measurements
    clock := convertGnssMeasClockToPB gnssMeasNotif.clock }

def pbConvertToGnssMeasNotification (pbGnssMeasNotif : PBGnssMeasurementsNotification) :
    Option GnssMeasurementsNotification := do
  let count := pbGnssMeasNotif.measurements.length
  let measurements ← Cells.fill count
    (Cells.each pbGnssMeasNotif.measurements pbConvertToGnssMeasurementsData) Cells.empty
  return {
    count := count.toUInt32
    measurements := measurements
    clock := pbConvertToGnssMeasurementsClock pbGnssMeasNotif.clock }

/-! ## Signals -/

def GNSS_LOC_MAX_NUMBER_OF_SIGNAL_TYPES : ℕ := 20

structure GnssDataNotification where
  gnssDataMask : Cells GNSS_LOC_MAX_NUMBER_OF_SIGNAL_TYPES (BitVec 64)
  (jammerInd agc : Cells GNSS_LOC_MAX_NUMBER_OF_SIGNAL_TYPES Float)

structure PBGnssDataNotification where
  numberSignalTypes : UInt32
  gnssDataMask : List (BitVec 64)
  (jammerInd agc : List Float)

/-- One turn of the loop in pbConvertToGnssDataNotification. -/
def pbConvertToGnssData (pbGnssDataNotif : PBGnssDataNotification)
    (gnssDataNotif : GnssDataNotification) (i : ℕ) : Option GnssDataNotification := do
  let mask ← pbGnssDataNotif.gnssDataMask[i]?
  let gnssDataMask ← gnssDataNotif.gnssDataMask.write i (getGnssDataMaskFromPB mask)
  let jammer ← pbGnssDataNotif.jammerInd[i]?
  let jammerInd ← gnssDataNotif.jammerInd.write i jammer
  let gain ← pbGnssDataNotif.agc[i]?
  let agc ← gnssDataNotif.agc.write i gain
  return { gnssDataMask := gnssDataMask, jammerInd := jammerInd, agc := agc }

def pbConvertToGnssDataNotification (pbGnssDataNotif : PBGnssDataNotification) :
    Option GnssDataNotification :=
  let arrMaxLen :=
    min pbGnssDataNotif.numberSignalTypes.toNat GNSS_LOC_MAX_NUMBER_OF_SIGNAL_TYPES
  forTo arrMaxLen (pbConvertToGnssData pbGnssDataNotif) ⟨Cells.empty, Cells.empty, Cells.empty⟩

/-! ## The blacklist -/

structure PBGnssSvIdConfig where
  (gloBlacklistSvMask bdsBlacklistSvMask qzssBlacklistSvMask galBlacklistSvMask : BitVec 64)
  (sbasBlacklistSvMask navicBlacklistSvMask : BitVec 64)

def convertGnssSvIdConfigToPB (gnssSvIdCfg : GnssSvIdConfig) : PBGnssSvIdConfig where
  gloBlacklistSvMask := gnssSvIdCfg.gloBlacklistSvMask
  bdsBlacklistSvMask := gnssSvIdCfg.bdsBlacklistSvMask
  qzssBlacklistSvMask := gnssSvIdCfg.qzssBlacklistSvMask
  galBlacklistSvMask := gnssSvIdCfg.galBlacklistSvMask
  sbasBlacklistSvMask := gnssSvIdCfg.sbasBlacklistSvMask
  navicBlacklistSvMask := gnssSvIdCfg.navicBlacklistSvMask

def pbConvertToGnssSvIdConfig (pbGnssSvIdConfig : PBGnssSvIdConfig) : GnssSvIdConfig where
  size := GnssSvIdConfig.sizeof
  gloBlacklistSvMask := pbGnssSvIdConfig.gloBlacklistSvMask
  bdsBlacklistSvMask := pbGnssSvIdConfig.bdsBlacklistSvMask
  qzssBlacklistSvMask := pbGnssSvIdConfig.qzssBlacklistSvMask
  galBlacklistSvMask := pbGnssSvIdConfig.galBlacklistSvMask
  sbasBlacklistSvMask := pbGnssSvIdConfig.sbasBlacklistSvMask
  navicBlacklistSvMask := pbGnssSvIdConfig.navicBlacklistSvMask

end LocStack.MsgConv
