/-
# `LocStack.MsgConv.RoundTrip` — what a message gives back

A mask comes back as it was without the flags that the message has none for,
and no flag comes back as another.  So do the two masks that change the number
of their words on the way:

    info flags             64 bits, sent as flags and extFlags
    position dynamics      bodyFrameDataMask and its extension, sent as one

An enumeration comes back as it was, or as its default where the message has
no member for it; which is so for some errors and engines, and for what is
no member.  Message ids come back in both directions.
-/
import LocStack.MsgConv.Masks
import LocStack.MsgConv.Enums

namespace LocStack.MsgConv

open Base

/-! ## Masks -/

/-- The masks that go as one word. -/
inductive MaskKind where
  | terrestrialTech | locationCallbacks | locationCapabilities | locReqEngineType
  | geofenceBreachType | geofenceBreachNotification
  | locationFlags | locationTechnology | gnssLocationNavSolution | drCalibrationStatus
  | drSolutionStatus | positioningEngine | gnssSystemTimeStructType | gnssGloTimeStructType
  | gnssSvOptions | gnssSignalType | gnssSvTypes | gnssData | gnssDataNotification
  | gnssMeasurementsDataFlags | gnssMeasurementsState | gnssMeasurementsAdrState
  | gnssMeasurementsClockFlags | locSysInfo | leapSecondSysInfo
  | gnssCfgRobustLocValid | gnssAidingDataSv | drEngineAidingData | leverArmType
  | deadReckoningEngineConfigValid

namespace MaskKind

def width : MaskKind → ℕ
  | .locationCapabilities | .gnssSvTypes | .gnssData | .gnssDataNotification
  | .deadReckoningEngineConfigValid => 64
  | _ => 32

/-- Three masks are copied into the message. -/
def encode : (k : MaskKind) → BitVec k.width → BitVec k.width
  | .terrestrialTech => getPBMaskForTerrestrialTechMask
  | .locationCallbacks => getPBMaskForLocationCallbacksMask
  | .locationCapabilities => getPBMaskForLocationCapabilitiesMask
  | .locReqEngineType => getPBMaskForLocReqEngineTypeMask
  | .geofenceBreachType => getPBMaskForGeofenceBreachTypeMask
  | .geofenceBreachNotification => id
  | .locationFlags => getPBMaskForLocationFlagsMask
  | .locationTechnology => getPBMaskForLocationTechnologyMask
  | .gnssLocationNavSolution => getPBMaskForGnssLocationNavSolutionMask
  | .drCalibrationStatus => getPBMaskForDrCalibrationStatusMask
  | .drSolutionStatus => getPBMaskForDrSolutionStatusMask
  | .positioningEngine => getPBMaskForPositioningEngineMask
  | .gnssSystemTimeStructType => getPBMaskForGnssSystemTimeStructTypeFlags
  | .gnssGloTimeStructType => getPBMaskForGnssGloTimeStructTypeFlags
  | .gnssSvOptions => getPBMaskForGnssSvOptionsMask
  | .gnssSignalType => getPBMaskForGnssSignalTypeMask
  | .gnssSvTypes => id
  | .gnssData => getPBMaskForGnssDataMask
  | .gnssDataNotification => id
  | .gnssMeasurementsDataFlags => getPBMaskForGnssMeasurementsDataFlagsMask
  | .gnssMeasurementsState => getPBMaskForGnssMeasurementsStateMask
  | .gnssMeasurementsAdrState => getPBMaskForGnssMeasurementsAdrStateMask
  | .gnssMeasurementsClockFlags => getPBMaskForGnssMeasurementsClockFlagsMask
  | .locSysInfo => getPBMaskForLocSysInfoMask
  | .leapSecondSysInfo => getPBMaskForLeapSecondSysInfoMask
  | .gnssCfgRobustLocValid => getPBMaskForGnssCfgRobustLocValidMask
  | .gnssAidingDataSv => getPBMaskForGnssAidingDataSvMask
  | .drEngineAidingData => getPBMaskForDrEngineAidingDataMask
  | .leverArmType => getPBMaskForLeverArmTypeMask
  | .deadReckoningEngineConfigValid => getPBMaskForDeadReckoningEngineConfigValidMask

/-- One mask is copied out of the message. -/
def decode : (k : MaskKind) → BitVec k.width → BitVec k.width
  | .terrestrialTech => getTerrestrialTechMaskFromPB
  | .locationCallbacks => getLocationCallbacksMaskFromPB
  | .locationCapabilities => getLocationCapabilitiesMaskFromPB
  | .locReqEngineType => getLocReqEngineTypeMaskFromPB
  | .geofenceBreachType | .geofenceBreachNotification => getGfBreachTypeMaskFromPB
  | .locationFlags => getLocationFlagsMaskFromPB
  | .locationTechnology => getLocationTechnologyMaskFromPB
  | .gnssLocationNavSolution => getGnssLocationNavSolutionMaskFromPB
  | .drCalibrationStatus => getDrCalibrationStatusMaskFromPB
  | .drSolutionStatus => getDrSolutionStatusMaskFromPB
  | .positioningEngine => getEnumForPBPositioningEngineMask
  | .gnssSystemTimeStructType => getGnssSystemTimeStructTypeFlagsFromPB
  | .gnssGloTimeStructType => getGnssGloTimeStructTypeFlagsFromPB
  | .gnssSvOptions => getGnssSvOptionsMaskFromPB
  | .gnssSignalType => getGnssSignalTypeMaskFromPB
  | .gnssSvTypes => getGnssSvTypesMaskFromPB
  | .gnssData | .gnssDataNotification => getGnssDataMaskFromPB
  | .gnssMeasurementsDataFlags => getGnssMeasurementsDataFlagsMaskFromPB
  | .gnssMeasurementsState => id
  | .gnssMeasurementsAdrState => getGnssMeasurementsAdrStateMaskFromPB
  | .gnssMeasurementsClockFlags => getGnssMeasurementsClockFlagsMaskFromPB
  | .locSysInfo => getLocationSystemInfoMaskFromPB
  | .leapSecondSysInfo => getLeapSecSysInfoMaskFromPB
  | .gnssCfgRobustLocValid => getGnssConfigRobustLocationValidMaskFromPB
  | .gnssAidingDataSv => getGnssAidingDataSvMaskFromPB
  | .drEngineAidingData => getDrEngineAidingDataMaskFromPB
  | .leverArmType => getLeverArmTypeMaskFromPB
  | .deadReckoningEngineConfigValid => getDeadReckoningEngineConfigValidMaskFromPB

end MaskKind

/-- All flags up to the last, but these. -/
def allBut {E : Type} {w : ℕ} [Bits E] (last : E) (lacking : List E) : BitVec w :=
  BitVec.ofNat w (2 * Bits.value last - 1) &&& ~~~word lacking

/-- The flags of the HAL with one in the message. -/
def MaskKind.carried : (k : MaskKind) → BitVec k.width
  | .terrestrialTech => allBut TerrestrialTechMask.GTP_WWAN []
  | .locationCallbacks => allBut ELocationCallbacksOption.GNSS_MEAS []
  | .locationCapabilities => allBut LocationCapabilitiesBits.QWES_QDR3
      [.GNSS_MSB_BIT, .GNSS_MSA_BIT, .DEBUG_NMEA_BIT, .AGPM_BIT, .PRIVACY_BIT,
        .MEASUREMENTS_CORRECTION_BIT, .CONFORMITY_INDEX_BIT, .EDGNSS_BIT, .QWES_SV_EPHEMERIS_BIT]
  | .locReqEngineType => allBut LocReqEngineTypeMask.VPE [.VPE]
  | .geofenceBreachType | .geofenceBreachNotification => allBut GeofenceBreachTypeBits.DWELL_OUT []
  | .locationFlags => allBut LocationFlagsBits.CONFORMITY_INDEX_BIT
      [.SPOOF_MASK, .ELAPSED_REAL_TIME, .CONFORMITY_INDEX_BIT]
  | .locationTechnology => allBut LocationTechnologyBits.DGNSS [.DGNSS]
  | .gnssLocationNavSolution =>
    allBut GnssLocationNavSolutionBits.NAV_CORRECTION_ONLY_SBAS_CORRECTED_SV_USED []
  | .drCalibrationStatus => allBut DrCalibrationStatusBits.GYRO_CALIBRATION_NEEDED []
  | .drSolutionStatus => allBut DrSolutionStatusMask.USED []
  | .positioningEngine =>
    allBut PositioningEngineBits.VP_POSITIONING_ENGINE [.VP_POSITIONING_ENGINE]
  | .gnssSystemTimeStructType => allBut GnssSystemTimeTypeBits.NUM_CLOCK_RESETS_VALID []
  | .gnssGloTimeStructType => allBut GnssGloTimeTypeBits.GLO_FOUR_YEAR_VALID []
  | .gnssSvOptions => allBut GnssSvOptionsBits.HAS_GNSS_SIGNAL_TYPE []
  | .gnssSignalType => allBut GnssSignalTypeBits.BEIDOU_B2AQ []
  | .gnssSvTypes => allBut GnssSvTypesMaskBits.GPS []
  | .gnssData | .gnssDataNotification => allBut GnssDataBits.AGC []
  | .gnssMeasurementsDataFlags => allBut GnssMeasurementsDataFlagsBits.CYCLE_SLIP_COUNT
      [.SATELLITE_ISB, .SATELLITE_ISB_UNCERTAINTY]
  | .gnssMeasurementsState => allBut GnssMeasurementsStateBits.STATE_2ND_CODE_LOCK
      [.TOW_KNOWN, .GLO_TOD_KNOWN, .STATE_2ND_CODE_LOCK]
  | .gnssMeasurementsAdrState =>
    allBut GnssMeasurementsAdrStateBits.HALF_CYCLE_RESOLVED [.HALF_CYCLE_RESOLVED]
  | .gnssMeasurementsClockFlags =>
    allBut GnssMeasurementsClockFlagsBits.ELAPSED_REAL_TIME [.ELAPSED_REAL_TIME]
  | .locSysInfo => allBut LocationSystemInfoDataBits.LEAP_SECOND []
  | .leapSecondSysInfo => allBut LeapSecondSysInfoDataBits.LEAP_SECOND_CHANGE []
  | .gnssCfgRobustLocValid => allBut GnssConfigRobustLocationValidMask.VERSION_VALID []
  | .gnssAidingDataSv => allBut GnssAidingDataSvBits.POLY_BIT
      [.ALMANAC_BIT, .HEALTH_BIT, .DIRECTION_BIT, .STEER_BIT, .ALMANAC_CORR_BIT, .BLACKLIST_BIT,
        .SA_DATA_BIT, .NO_EXIST_BIT, .IONOSPHERE_BIT, .TIME_BIT, .MB_DATA, .POLY_BIT]
  | .drEngineAidingData => allBut DrEngineAidingDataBits.CALIBRATION []
  | .leverArmType => allBut LeverArmTypeBits.VEPP_IMU_TO_GNSS []
  | .deadReckoningEngineConfigValid =>
    allBut DeadReckoningEngineConfigValidBit.GYRO_SCALE_FACTOR_UNC []

theorem MaskKind.isJoinHom_encode (k : MaskKind) : IsJoinHom k.encode := by
  cases k
  case geofenceBreachNotification | gnssSvTypes | gnssDataNotification =>
    exact ⟨rfl, fun _ _ => rfl⟩
  case terrestrialTech => exact BitTable.isJoinHom_onto_zero _ rfl
  all_goals exact BitTable.isJoinHom_apply _

theorem MaskKind.isJoinHom_decode (k : MaskKind) : IsJoinHom k.decode := by
  cases k
  case gnssMeasurementsState => exact ⟨rfl, fun _ _ => rfl⟩
  case locSysInfo => exact BitTable.isJoinHom_onto_zero _ rfl
  all_goals exact BitTable.isJoinHom_apply _

theorem MaskKind.decode_encode (k : MaskKind) (mask : BitVec k.width) :
    k.decode (k.encode mask) = mask &&& k.carried := by
  refine (k.isJoinHom_decode.comp k.isJoinHom_encode).eq_and ?_ mask
  cases k <;> decide +kernel

/-! ## Masks of two words -/

theorem infoFlags_decode_encode (mask : BitVec 64) :
    getGnssLocationInfoFlagMaskFromPB (getPBMaskForGnssLocationInfoFlagMask mask)
        (getPBMaskForGnssLocationInfoExtFlagMask mask) =
      mask &&& allBut GnssLocationInfoFlagBits.SESSION_STATUS [.SV_SOURCE_INFO] := by
  have hjoin : IsJoinHom fun mask =>
      getGnssLocationInfoFlagMaskFromPB (getPBMaskForGnssLocationInfoFlagMask mask)
        (getPBMaskForGnssLocationInfoExtFlagMask mask) := by
    simp only [getGnssLocationInfoFlagMaskFromPB, BitTable.onto_eq]
    exact ((BitTable.isJoinHom_apply _).comp (BitTable.isJoinHom_apply _)).join
      ((BitTable.isJoinHom_apply _).comp (BitTable.isJoinHom_apply _))
  exact hjoin.eq_and (by decide +kernel) mask

theorem posData_eq (mask ext : BitVec 32) : getPBMaskForGnssLocationPosDataMask mask ext =
      getPBMaskForGnssLocationPosDataMask mask 0#32 |||
        getPBMaskForGnssLocationPosDataMask 0#32 ext := by
  simp only [getPBMaskForGnssLocationPosDataMask, translate, BitTable.onto_eq,
    (BitTable.isJoinHom_apply _).zero, BitVec.or_zero, BitVec.zero_or]

theorem isJoinHom_posData :
    IsJoinHom fun mask => getPBMaskForGnssLocationPosDataMask mask 0#32 := by
  simp only [getPBMaskForGnssLocationPosDataMask, BitTable.onto_eq,
    (BitTable.isJoinHom_apply _).zero, BitVec.or_zero]
  exact BitTable.isJoinHom_apply _

theorem isJoinHom_posDataExt :
    IsJoinHom fun ext => getPBMaskForGnssLocationPosDataMask 0#32 ext :=
  BitTable.isJoinHom_onto_zero _ (BitTable.isJoinHom_apply _).zero

theorem posData_decode_encode (mask ext : BitVec 32) :
    getGnssLocationPosDataMaskFromPB (getPBMaskForGnssLocationPosDataMask mask ext) =
      mask &&& allBut GnssLocationPosDataBits.PITCH_UNC [] := by
  have hdec : IsJoinHom getGnssLocationPosDataMaskFromPB := BitTable.isJoinHom_apply _
  have hmask := (hdec.comp isJoinHom_posData).eq_and
    (c := allBut GnssLocationPosDataBits.PITCH_UNC []) (by decide +kernel) mask
  have hext := (hdec.comp isJoinHom_posDataExt).ext IsJoinHom.const_zero (by decide +kernel) ext
  rw [posData_eq, hdec.or, hmask, hext, BitVec.or_zero]

theorem posDataExt_decode_encode (mask ext : BitVec 32) :
    getGnssLocationPosDataMaskExtFromPB (getPBMaskForGnssLocationPosDataMask mask ext) =
      ext &&& allBut GnssLocationPosDataBitsExt.YAW_UNC [] := by
  have hdec : IsJoinHom getGnssLocationPosDataMaskExtFromPB := BitTable.isJoinHom_apply _
  have hmask := (hdec.comp isJoinHom_posData).ext IsJoinHom.const_zero (by decide +kernel) mask
  have hext := (hdec.comp isJoinHom_posDataExt).eq_and
    (c := allBut GnssLocationPosDataBitsExt.YAW_UNC []) (by decide +kernel) ext
  rw [posData_eq, hdec.or, hmask, hext, BitVec.zero_or]

/-! ## Enumerations -/

inductive EnumKind where
  | clientType | gnssSuplMode | batchingMode | batchingStatus | locationError | locSessionStatus
  | locOutputEngineType | locEngineRunState | locationReliability | gnssMeasMultipathIndic
  | gnssLocSvSystem | gnssSvType

namespace EnumKind

def Hal : EnumKind → Type
  | .clientType => ClientType
  | .gnssSuplMode => GnssSuplMode
  | .batchingMode => BatchingMode
  | .batchingStatus => BatchingStatus
  | .locationError => LocationError
  | .locSessionStatus => LocSessStatus
  | .locOutputEngineType => LocOutputEngineType
  | .locEngineRunState => LocEngineRunState
  | .locationReliability => LocationReliability
  | .gnssMeasMultipathIndic => GnssMeasurementsMultipathIndicator
  | .gnssLocSvSystem => Gnss_LocSvSystemEnumType
  | .gnssSvType => GnssSvType

def Wire : EnumKind → Type
  | .clientType => PBClientType
  | .gnssSuplMode => PBGnssSuplMode
  | .batchingMode => PBBatchingMode
  | .batchingStatus => PBBatchingStatus
  | .locationError => PBLocationError
  | .locSessionStatus => PBLocationSessionStatus
  | .locOutputEngineType => PBLocApiOutputEngineType
  | .locEngineRunState => PBLocEngineRunState
  | .locationReliability => PBLocationReliability
  | .gnssMeasMultipathIndic => PBGnssMeasurementsMultipathIndicator
  | .gnssLocSvSystem | .gnssSvType => PBLocApiGnss_LocSvSystemEnumType

def encode : (k : EnumKind) → Open k.Hal → k.Wire
  | .clientType => getPBEnumForClientType
  | .gnssSuplMode => getPBEnumForGnssSuplMode
  | .batchingMode => getPBEnumForBatchingMode
  | .batchingStatus => getPBEnumForBatchingStatus
  | .locationError => getPBEnumForLocationError
  | .locSessionStatus => getPBEnumForLocSessionStatus
  | .locOutputEngineType => getPBEnumForLocOutputEngineType
  | .locEngineRunState => getPBEnumForLocEngineRunState
  | .locationReliability => getPBEnumForLocationReliability
  | .gnssMeasMultipathIndic => getPBEnumForGnssMeasMultiPathIndic
  | .gnssLocSvSystem => getPBEnumForGnssLocSvSystem
  | .gnssSvType => getPBGnssLocSvSysEnumFromGnssSvType

def decode : (k : EnumKind) → Open k.Wire → Open k.Hal
  | .clientType => fun pb => .member (getEnumForPBClientType pb)
  | .gnssSuplMode => fun pb => .member (getEnumForPBGnssSuplMode pb)
  | .batchingMode => fun pb => .member (getEnumForPBBatchingMode pb)
  | .batchingStatus => fun pb => .member (getEnumForPBBatchingStatus pb)
  | .locationError => fun pb => .member (getEnumForPBLocationError pb)
  | .locSessionStatus => fun pb => .member (getLocSessionStatusFromPB pb)
  | .locOutputEngineType => fun pb => .member (getEnumForPBLocOutputEngineType pb)
  | .locEngineRunState => getEnumForPBLocEngineRunState
  | .locationReliability => fun pb => .member (getEnumForPBLocReliability pb)
  | .gnssMeasMultipathIndic => fun pb => .member (getEnumForPBGnssMeasMultipathIndic pb)
  | .gnssLocSvSystem => fun pb => .member (getEnumForPBGnssLocSvSystem pb)
  | .gnssSvType => fun pb => .member (getGnssSvTypeFromPBGnssLocSvSystemEnumType pb)

/-- The members of the HAL with one in the message. -/
def hasMember : (k : EnumKind) → Open k.Hal → Bool
  | _, .other _ => false
  | .locationError, .member e => match e with
      | .SUCCESS | .GENERAL_FAILURE | .INVALID_PARAMETER | .NOT_SUPPORTED | .TIMEOUT => true
      | _ => false
  | .locOutputEngineType, .member e => match e with
      | .FUSED | .SPE | .PPE => true
      | .VPE | .COUNT => false
  | _, .member _ => true

/-- What is given for all others. -/
def default : (k : EnumKind) → Open k.Hal
  | .clientType => .member ClientType.INTEGRATION_API
  | .gnssSuplMode => .member GnssSuplMode.STANDALONE
  | .batchingMode => .member BatchingMode.ROUTINE
  | .batchingStatus => .member BatchingStatus.POSITION_UNAVAILABLE
  | .locationError => .member LocationError.GENERAL_FAILURE
  | .locSessionStatus => .member LocSessStatus.FAILURE
  | .locOutputEngineType => .member LocOutputEngineType.FUSED
  | .locEngineRunState => .other 0
  | .locationReliability => .member LocationReliability.NOT_SET
  | .gnssMeasMultipathIndic => .member GnssMeasurementsMultipathIndicator.UNKNOWN
  | .gnssLocSvSystem => .member Gnss_LocSvSystemEnumType.UNKNOWN
  | .gnssSvType => .member GnssSvType.UNKNOWN

theorem decode_encode (k : EnumKind) (x : Open k.Hal) :
    k.decode (.member (k.encode x)) = if k.hasMember x then x else k.default := by
  cases x with
  | other value => cases k <;> rfl
  | member e => cases k <;> cases e <;> rfl

end EnumKind

theorem eLocMsgID_decode_encode (id : ELocMsgID) :
    getEnumForPBELocMsgID (.member (getPBEnumForELocMsgID (.member id))) = id := by
  cases id <;> rfl

theorem eLocMsgID_encode_decode (pbId : PBELocMsgID) :
    getPBEnumForELocMsgID (.member (getEnumForPBELocMsgID (.member pbId))) = pbId := by
  cases pbId <;> rfl

/-! ## Together -/

/-- What a message gives back: of a mask the flags it has one for, of the
masks of two words each its own, of an enumeration the members it has one for,
and every message id. -/
theorem decode_after_encode : (∀ (k : MaskKind) (mask : BitVec k.width),
      k.decode (k.encode mask) = mask &&& k.carried) ∧
    (∀ mask : BitVec 64,
      getGnssLocationInfoFlagMaskFromPB (getPBMaskForGnssLocationInfoFlagMask mask)
          (getPBMaskForGnssLocationInfoExtFlagMask mask) =
        mask &&& allBut GnssLocationInfoFlagBits.SESSION_STATUS [.SV_SOURCE_INFO]) ∧
    (∀ mask ext : BitVec 32,
      getGnssLocationPosDataMaskFromPB (getPBMaskForGnssLocationPosDataMask mask ext) =
          mask &&& allBut GnssLocationPosDataBits.PITCH_UNC [] ∧
        getGnssLocationPosDataMaskExtFromPB (getPBMaskForGnssLocationPosDataMask mask ext) =
          ext &&& allBut GnssLocationPosDataBitsExt.YAW_UNC []) ∧
    (∀ (k : EnumKind) (x : Open k.Hal),
      k.decode (.member (k.encode x)) = if k.hasMember x then x else k.default) ∧
    (∀ id : ELocMsgID, getEnumForPBELocMsgID (.member (getPBEnumForELocMsgID (.member id))) = id) ∧
    (∀ pbId : PBELocMsgID,
      getPBEnumForELocMsgID (.member (getEnumForPBELocMsgID (.member pbId))) = pbId) :=
  ⟨MaskKind.decode_encode, infoFlags_decode_encode,
    fun mask ext => ⟨posData_decode_encode mask ext, posDataExt_decode_encode mask ext⟩,
    EnumKind.decode_encode, eLocMsgID_decode_encode, eLocMsgID_encode_decode⟩

end LocStack.MsgConv
