/-
# `LocStack.MsgConv.Flags` — the flags of the HAL and of the messages

A mask of the HAL has an enumeration of its flags, and the messages that carry
it have another (PB..).  A flag can have another value there, and some flags of
the HAL are in none of the messages.

The flags are consecutive bits in the order of their declaration, in some
enumerations after a member that is 0.  They go by their names without what
all have in common.
-/
import Mathlib.Data.List.Basic

namespace LocStack.MsgConv

/-- The values of an enumeration of flags. -/
class Bits (E : Type) where
  value : E → ℕ

/-- 0, then the bits. -/
def afterZero : ℕ → ℕ
  | 0 => 0
  | i + 1 => 1 <<< i

/-! ## Sessions and what they report -/

/-- TERRESTRIAL_TECH_* -/
inductive TerrestrialTechMask where
  | GTP_WWAN

instance : Bits TerrestrialTechMask := ⟨fun e => 1 <<< e.ctorIdx⟩

/-- PB_TERRESTRIAL_TECH_* -/
inductive PBTerrestrialTechMask where
  | INVALID | GTP_WWAN

instance : Bits PBTerrestrialTechMask := ⟨fun e => afterZero e.ctorIdx⟩

/-- E_LOC_CB_*_BIT -/
inductive ELocationCallbacksOption where
  | DISTANCE_BASED_TRACKING | GNSS_LOCATION_INFO | GNSS_SV | GNSS_NMEA | GNSS_DATA | SYSTEM_INFO
  | BATCHING | BATCHING_STATUS | GEOFENCE_BREACH | ENGINE_LOCATIONS_INFO | SIMPLE_LOCATION_INFO
  | GNSS_MEAS

instance : Bits ELocationCallbacksOption := ⟨fun e => 1 <<< e.ctorIdx⟩

/-- PB_E_LOC_CB_*_BIT -/
inductive PBLocationCallbacksMask where
  | INVALID | DISTANCE_BASED_TRACKING | GNSS_LOCATION_INFO | GNSS_SV | GNSS_NMEA | GNSS_DATA
  | SYSTEM_INFO | BATCHING | BATCHING_STATUS | GEOFENCE_BREACH | ENGINE_LOCATIONS_INFO
  | SIMPLE_LOCATION_INFO | GNSS_MEAS

instance : Bits PBLocationCallbacksMask := ⟨fun e => afterZero e.ctorIdx⟩

/-- LOCATION_CAPABILITIES_* -/
inductive LocationCapabilitiesBits where
  | TIME_BASED_TRACKING_BIT | TIME_BASED_BATCHING_BIT | DISTANCE_BASED_TRACKING_BIT
  | DISTANCE_BASED_BATCHING_BIT | GEOFENCE_BIT | GNSS_MEASUREMENTS_BIT | GNSS_MSB_BIT | GNSS_MSA_BIT
  | DEBUG_NMEA_BIT | OUTDOOR_TRIP_BATCHING_BIT | CONSTELLATION_ENABLEMENT_BIT | AGPM_BIT
  | PRIVACY_BIT | MEASUREMENTS_CORRECTION_BIT | CONFORMITY_INDEX_BIT | EDGNSS_BIT
  | QWES_CARRIER_PHASE_BIT | QWES_SV_POLYNOMIAL_BIT | QWES_SV_EPHEMERIS_BIT
  | QWES_GNSS_SINGLE_FREQUENCY | QWES_GNSS_MULTI_FREQUENCY | QWES_VPE | QWES_CV2X_LOCATION_BASIC
  | QWES_CV2X_LOCATION_PREMIUM | QWES_PPE | QWES_QDR2 | QWES_QDR3

instance : Bits LocationCapabilitiesBits := ⟨fun e => 1 <<< e.ctorIdx⟩

/-- PB_LOCATION_CAPS_* -/
inductive PBLocationCapabilitiesMask where
  | INVALID | TIME_BASED_TRACKING_BIT | TIME_BASED_BATCHING_BIT | DISTANCE_BASED_TRACKING_BIT
  | DISTANCE_BASED_BATCHING_BIT | GEOFENCE_BIT | OUTDOOR_TRIP_BATCHING_BIT | GNSS_MEASUREMENTS_BIT
  | CONSTELLATION_ENABLEMENT_BIT | QWES_CARRIER_PHASE_BIT | QWES_SV_POLYNOMIAL_BIT
  | QWES_GNSS_SINGLE_FREQUENCY | QWES_GNSS_MULTI_FREQUENCY | QWES_VPE | QWES_CV2X_LOCATION_BASIC
  | QWES_CV2X_LOCATION_PREMIUM | QWES_PPE | QWES_QDR2 | QWES_QDR3

instance : Bits PBLocationCapabilitiesMask := ⟨fun e => afterZero e.ctorIdx⟩

/-- LOC_REQ_ENGINE_*_BIT -/
inductive LocReqEngineTypeMask where
  | FUSED | SPE | PPE | VPE

instance : Bits LocReqEngineTypeMask := ⟨fun e => 1 <<< e.ctorIdx⟩

/-- PB_LOC_REQ_ENGINE_*_BIT -/
inductive PBLocReqEngineTypeMask where
  | INVALID | FUSED | SPE | PPE

instance : Bits PBLocReqEngineTypeMask := ⟨fun e => afterZero e.ctorIdx⟩

/-- GEOFENCE_BREACH_*_BIT -/
inductive GeofenceBreachTypeBits where
  | ENTER | EXIT | DWELL_IN | DWELL_OUT

instance : Bits GeofenceBreachTypeBits := ⟨fun e => 1 <<< e.ctorIdx⟩

/-- PB_GEOFENCE_BREACH_*_BIT -/
inductive PBGeofenceBreachTypeMask where
  | INVALID | ENTER | EXIT | DWELL_IN | DWELL_OUT

instance : Bits PBGeofenceBreachTypeMask := ⟨fun e => afterZero e.ctorIdx⟩

/-! ## Fixes -/

/-- LOCATION_HAS_* -/
inductive LocationFlagsBits where
  | LAT_LONG_BIT | ALTITUDE_BIT | SPEED_BIT | BEARING_BIT | ACCURACY_BIT | VERTICAL_ACCURACY_BIT
  | SPEED_ACCURACY_BIT | BEARING_ACCURACY_BIT | SPOOF_MASK | ELAPSED_REAL_TIME
  | CONFORMITY_INDEX_BIT

instance : Bits LocationFlagsBits := ⟨fun e => 1 <<< e.ctorIdx⟩

/-- PB_LOCATION_HAS_*_BIT -/
inductive PBLocationFlagsMask where
  | FLAGS_INVALID | LAT_LONG | ALTITUDE | SPEED | BEARING | ACCURACY | VERTICAL_ACCURACY
  | SPEED_ACCURACY | BEARING_ACCURACY | TIMESTAMP

instance : Bits PBLocationFlagsMask := ⟨fun e => afterZero e.ctorIdx⟩

/-- LOCATION_TECHNOLOGY_*_BIT -/
inductive LocationTechnologyBits where
  | GNSS | CELL | WIFI | SENSORS | REFERENCE_LOCATION | INJECTED_COARSE_POSITION | AFLT | HYBRID
  | PPE | VEH | VIS | DGNSS

instance : Bits LocationTechnologyBits := ⟨fun e => 1 <<< e.ctorIdx⟩

/-- PB_LOCATION_TECHNOLOGY_*_BIT -/
inductive PBLocationTechnologyMask where
  | INVALID | GNSS | CELL | WIFI | SENSORS | REFERENCE_LOCATION | INJECTED_COARSE_POSITION | AFLT
  | HYBRID | PPE | VEH | VIS

instance : Bits PBLocationTechnologyMask := ⟨fun e => afterZero e.ctorIdx⟩

/-- GNSS_LOCATION_INFO_*_BIT -/
inductive GnssLocationInfoFlagBits where
  | ALTITUDE_MEAN_SEA_LEVEL | DOP | MAGNETIC_DEVIATION | HOR_RELIABILITY | VER_RELIABILITY
  | HOR_ACCURACY_ELIP_SEMI_MAJOR | HOR_ACCURACY_ELIP_SEMI_MINOR | HOR_ACCURACY_ELIP_AZIMUTH
  | GNSS_SV_USED_DATA | NAV_SOLUTION_MASK | SV_SOURCE_INFO | POS_DYNAMICS_DATA | EXT_DOP
  | NORTH_STD_DEV | EAST_STD_DEV | NORTH_VEL | EAST_VEL | UP_VEL | NORTH_VEL_UNC | EAST_VEL_UNC
  | UP_VEL_UNC | LEAP_SECONDS | TIME_UNC | NUM_SV_USED_IN_POSITION | CALIBRATION_CONFIDENCE
  | CALIBRATION_STATUS | OUTPUT_ENG_TYPE | OUTPUT_ENG_MASK | CONFORMITY_INDEX | LLA_VRP_BASED
  | ENU_VELOCITY_VRP_BASED | DR_SOLUTION_STATUS_MASK | ALTITUDE_ASSUMED | SESSION_STATUS

instance : Bits GnssLocationInfoFlagBits := ⟨fun e => 1 <<< e.ctorIdx⟩

/-- PB_GNSS_LOCATION_INFO_*_BIT -/
inductive PBGnssLocationInfoFlagMask where
  | INVALID | ALTITUDE_MEAN_SEA_LEVEL | DOP | EXT_DOP | MAGNETIC_DEVIATION | HOR_RELIABILITY
  | VER_RELIABILITY | HOR_ACCURACY_ELIP_SEMI_MAJOR | HOR_ACCURACY_ELIP_SEMI_MINOR
  | HOR_ACCURACY_ELIP_AZIMUTH | GNSS_SV_USED_DATA | NAV_SOLUTION_MASK | POS_DYNAMICS_DATA
  | NORTH_STD_DEV | EAST_STD_DEV | NORTH_VEL | EAST_VEL | UP_VEL | NORTH_VEL_UNC | EAST_VEL_UNC
  | UP_VEL_UNC | LEAP_SECONDS | TIME_UNC | NUM_SV_USED_IN_POSITION | CALIBRATION_CONFIDENCE_PERCENT
  | CALIBRATION_STATUS | OUTPUT_ENG_TYPE | OUTPUT_ENG_MASK | CONFORMITY_INDEX | LLA_VRP_BASED
  | ENU_VELOCITY_VRP_BASED | DR_SOLUTION_STATUS_MASK

instance : Bits PBGnssLocationInfoFlagMask := ⟨fun e => afterZero e.ctorIdx⟩

/-- PB_GNSS_LOCATION_INFO_*_BIT -/
inductive PBGnssLocationInfoExtFlagMask where
  | EXT_INVALID | ALTITUDE_ASSUMED | SESSION_STATUS

instance : Bits PBGnssLocationInfoExtFlagMask := ⟨fun e => afterZero e.ctorIdx⟩

/-- LOCATION_*_BIT -/
inductive GnssLocationNavSolutionBits where
  | SBAS_CORRECTION_IONO | SBAS_CORRECTION_FAST | SBAS_CORRECTION_LONG | SBAS_INTEGRITY
  | NAV_CORRECTION_DGNSS | NAV_CORRECTION_RTK | NAV_CORRECTION_PPP | NAV_CORRECTION_RTK_FIXED
  | NAV_CORRECTION_ONLY_SBAS_CORRECTED_SV_USED

instance : Bits GnssLocationNavSolutionBits := ⟨fun e => 1 <<< e.ctorIdx⟩

/-- PB_LOCATION_*_BIT -/
inductive PBGnssLocationNavSolutionMask where
  | NAV_SOLUTION_MASK_INVALID | SBAS_CORRECTION_IONO | SBAS_CORRECTION_FAST | SBAS_CORRECTION_LONG
  | SBAS_INTEGRITY | NAV_CORRECTION_DGNSS | NAV_CORRECTION_RTK | NAV_CORRECTION_PPP
  | NAV_CORRECTION_RTK_FIXED | NAV_CORRECTION_ONLY_SBAS_CORRECTED_SV_USED

instance : Bits PBGnssLocationNavSolutionMask := ⟨fun e => afterZero e.ctorIdx⟩

/-- LOCATION_NAV_DATA_HAS_*_BIT -/
inductive GnssLocationPosDataBits where
  | LONG_ACCEL | LAT_ACCEL | VERT_ACCEL | YAW_RATE | PITCH | LONG_ACCEL_UNC | LAT_ACCEL_UNC
  | VERT_ACCEL_UNC | YAW_RATE_UNC | PITCH_UNC

instance : Bits GnssLocationPosDataBits := ⟨fun e => 1 <<< e.ctorIdx⟩

/-- LOCATION_NAV_DATA_HAS_*_BIT -/
inductive GnssLocationPosDataBitsExt where
  | PITCH_RATE | PITCH_RATE_UNC | ROLL | ROLL_UNC | ROLL_RATE | ROLL_RATE_UNC | YAW | YAW_UNC

instance : Bits GnssLocationPosDataBitsExt := ⟨fun e => 1 <<< e.ctorIdx⟩

/-- PB_LOCATION_NAV_DATA_HAS_*_BIT -/
inductive PBLocApiGnssLocationPosDataMask where
  | INVALID | LONG_ACCEL | LAT_ACCEL | VERT_ACCEL | YAW_RATE | YAW_RATE_UNC | YAW | YAW_UNC | PITCH
  | PITCH_UNC | PITCH_RATE | PITCH_RATE_UNC | LONG_ACCEL_UNC | LAT_ACCEL_UNC | VERT_ACCEL_UNC | ROLL
  | ROLL_UNC | ROLL_RATE | ROLL_RATE_UNC

instance : Bits PBLocApiGnssLocationPosDataMask := ⟨fun e => afterZero e.ctorIdx⟩

/-- DR_* -/
inductive DrCalibrationStatusBits where
  | ROLL_CALIBRATION_NEEDED | PITCH_CALIBRATION_NEEDED | YAW_CALIBRATION_NEEDED
  | ODO_CALIBRATION_NEEDED | GYRO_CALIBRATION_NEEDED

instance : Bits DrCalibrationStatusBits := ⟨fun e => 1 <<< e.ctorIdx⟩

/-- PB_DR_* -/
inductive PBLocApiDrCalibrationStatusMask where
  | CALIBRATION_INVALID | ROLL_CALIBRATION_NEEDED | PITCH_CALIBRATION_NEEDED
  | YAW_CALIBRATION_NEEDED | ODO_CALIBRATION_NEEDED | GYRO_CALIBRATION_NEEDED

instance : Bits PBLocApiDrCalibrationStatusMask := ⟨fun e => afterZero e.ctorIdx⟩

/-- VEHICLE_SENSOR_SPEED_INPUT_* -/
inductive DrSolutionStatusMask where
  | DETECTED | USED

instance : Bits DrSolutionStatusMask := ⟨fun e => 1 <<< e.ctorIdx⟩

/-- PB_VEHICLE_SENSOR_SPEED_INPUT_* -/
inductive PBDrSolutionStatusMask where
  | DRSOLUTION_INVALID | DETECTED | USED

instance : Bits PBDrSolutionStatusMask := ⟨fun e => afterZero e.ctorIdx⟩

inductive PositioningEngineBits where
  | STANDARD_POSITIONING_ENGINE | DEAD_RECKONING_ENGINE | PRECISE_POSITIONING_ENGINE
  | VP_POSITIONING_ENGINE

instance : Bits PositioningEngineBits := ⟨fun e => 1 <<< e.ctorIdx⟩

/-- PB_* -/
inductive PBLocApiPositioningEngineMask where
  | POS_ENG_MASK_INVALID | STANDARD_POSITIONING_ENGINE | DEAD_RECKONING_ENGINE
  | PRECISE_POSITIONING_ENGINE

instance : Bits PBLocApiPositioningEngineMask := ⟨fun e => afterZero e.ctorIdx⟩

/-- GNSS_SYSTEM_* -/
inductive GnssSystemTimeTypeBits where
  | TIME_WEEK_VALID | TIME_WEEK_MS_VALID | CLK_TIME_BIAS_VALID | CLK_TIME_BIAS_UNC_VALID
  | REF_FCOUNT_VALID | NUM_CLOCK_RESETS_VALID

instance : Bits GnssSystemTimeTypeBits := ⟨fun e => 1 <<< e.ctorIdx⟩

/-- PB_GNSS_SYSTEM_* -/
inductive PBLocApiGnssSystemTimeStructTypeFlags where
  | TIME_FLAG_INVALID | TIME_WEEK_VALID | TIME_WEEK_MS_VALID | CLK_TIME_BIAS_VALID
  | CLK_TIME_BIAS_UNC_VALID | REF_FCOUNT_VALID | NUM_CLOCK_RESETS_VALID

instance : Bits PBLocApiGnssSystemTimeStructTypeFlags := ⟨fun e => afterZero e.ctorIdx⟩

/-- GNSS_* -/
inductive GnssGloTimeTypeBits where
  | CLO_DAYS_VALID | GLO_MSEC_VALID | GLO_CLK_TIME_BIAS_VALID | GLO_CLK_TIME_BIAS_UNC_VALID
  | GLO_REF_FCOUNT_VALID | GLO_NUM_CLOCK_RESETS_VALID | GLO_FOUR_YEAR_VALID

instance : Bits GnssGloTimeTypeBits := ⟨fun e => 1 <<< e.ctorIdx⟩

/-- PB_GNSS_* -/
inductive PBGnssGloTimeStructTypeFlags where
  | CLO_TIME_UNKNOWN | GLO_FOUR_YEAR_VALID | CLO_DAYS_VALID | GLO_MSEC_VALID
  | GLO_CLK_TIME_BIAS_VALID | GLO_CLK_TIME_BIAS_UNC_VALID | GLO_REF_FCOUNT_VALID
  | GLO_NUM_CLOCK_RESETS_VALID

instance : Bits PBGnssGloTimeStructTypeFlags := ⟨fun e => afterZero e.ctorIdx⟩

/-! ## Satellites and measurements -/

/-- GNSS_SV_OPTIONS_*_BIT -/
inductive GnssSvOptionsBits where
  | HAS_EPHEMER | HAS_ALMANAC | USED_IN_FIX | HAS_CARRIER_FREQUENCY | HAS_GNSS_SIGNAL_TYPE

instance : Bits GnssSvOptionsBits := ⟨fun e => 1 <<< e.ctorIdx⟩

/-- PB_GNSS_SV_OPTIONS_*_BIT -/
inductive PBLocApiGnssSvOptionsMask where
  | INVALID | HAS_EPHEMER | HAS_ALMANAC | USED_IN_FIX | HAS_CARRIER_FREQUENCY | HAS_GNSS_SIGNAL_TYPE

instance : Bits PBLocApiGnssSvOptionsMask := ⟨fun e => afterZero e.ctorIdx⟩

/-- GNSS_SIGNAL_* -/
inductive GnssSignalTypeBits where
  | GPS_L1CA | GPS_L1C | GPS_L2 | GPS_L5 | GLONASS_G1 | GLONASS_G2 | GALILEO_E1 | GALILEO_E5A
  | GALILEO_E5B | BEIDOU_B1 | BEIDOU_B2 | QZSS_L1CA | QZSS_L1S | QZSS_L2 | QZSS_L5 | SBAS_L1
  | BEIDOU_B1I | BEIDOU_B1C | BEIDOU_B2I | BEIDOU_B2AI | NAVIC_L5 | BEIDOU_B2AQ

instance : Bits GnssSignalTypeBits := ⟨fun e => 1 <<< e.ctorIdx⟩

/-- PB_GNSS_SIGNAL_*_BIT -/
inductive PBGnssSignalTypeMask where
  | TYPE_MASK_INVALID | GPS_L1CA | GPS_L1C | GPS_L2 | GPS_L5 | GLONASS_G1 | GLONASS_G2 | GALILEO_E1
  | GALILEO_E5A | GALILEO_E5B | BEIDOU_B1 | BEIDOU_B2 | QZSS_L1CA | QZSS_L1S | QZSS_L2 | QZSS_L5
  | SBAS_L1 | BEIDOU_B1I | BEIDOU_B1C | BEIDOU_B2I | BEIDOU_B2AI | NAVIC_L5 | BEIDOU_B2AQ

instance : Bits PBGnssSignalTypeMask := ⟨fun e => afterZero e.ctorIdx⟩

/-- GNSS_SV_TYPES_MASK_*_BIT -/
inductive GnssSvTypesMaskBits where
  | GLO | BDS | QZSS | GAL | NAVIC | GPS

instance : Bits GnssSvTypesMaskBits := ⟨fun e => 1 <<< e.ctorIdx⟩

/-- PB_GNSS_SV_TYPES_MASK_*_BIT -/
inductive PBGnssSvTypesMask where
  | INVALID | GLO | BDS | QZSS | GAL | NAVIC | GPS

instance : Bits PBGnssSvTypesMask := ⟨fun e => afterZero e.ctorIdx⟩

/-- GNSS_LOC_DATA_*_BIT -/
inductive GnssDataBits where
  | JAMMER_IND | AGC

instance : Bits GnssDataBits := ⟨fun e => 1 <<< e.ctorIdx⟩

/-- PB_GNSS_LOC_DATA_*_BIT -/
inductive PBGnssDataMask where
  | INVALID | JAMMER_IND | AGC

instance : Bits PBGnssDataMask := ⟨fun e => afterZero e.ctorIdx⟩

/-- GNSS_MEASUREMENTS_DATA_*_BIT -/
inductive GnssMeasurementsDataFlagsBits where
  | SV_ID | SV_TYPE | STATE | RECEIVED_SV_TIME | RECEIVED_SV_TIME_UNCERTAINTY | CARRIER_TO_NOISE
  | PSEUDORANGE_RATE | PSEUDORANGE_RATE_UNCERTAINTY | ADR_STATE | ADR | ADR_UNCERTAINTY
  | CARRIER_FREQUENCY | CARRIER_CYCLES | CARRIER_PHASE | CARRIER_PHASE_UNCERTAINTY
  | MULTIPATH_INDICATOR | SIGNAL_TO_NOISE_RATIO_BIT | AUTOMATIC_GAIN_CONTROL | FULL_ISB
  | FULL_ISB_UNCERTAINTY | SATELLITE_ISB | SATELLITE_ISB_UNCERTAINTY | CYCLE_SLIP_COUNT

instance : Bits GnssMeasurementsDataFlagsBits := ⟨fun e => 1 <<< e.ctorIdx⟩

/-- PB_GNSS_MEASUREMENTS_DATA_*_BIT -/
inductive PBGnssMeasurementsDataFlagsMask where
  | INVALID | SV_ID | SV_TYPE | STATE | RECEIVED_SV_TIME | RECEIVED_SV_TIME_UNCERTAINTY
  | CARRIER_TO_NOISE | PSEUDORANGE_RATE | PSEUDORANGE_RATE_UNCERTAINTY | ADR_STATE | ADR
  | ADR_UNCERTAINTY | CARRIER_FREQUENCY | CARRIER_CYCLES | CARRIER_PHASE | CARRIER_PHASE_UNCERTAINTY
  | MULTIPATH_INDICATOR | SIGNAL_TO_NOISE_RATIO_BIT | AUTOMATIC_GAIN_CONTROL | FULL_ISB
  | FULL_ISB_UNCERTAINTY | CYCLE_SLIP_COUNT

instance : Bits PBGnssMeasurementsDataFlagsMask := ⟨fun e => afterZero e.ctorIdx⟩

/-- GNSS_MEASUREMENTS_STATE_*_BIT -/
inductive GnssMeasurementsStateBits where
  | UNKNOWN_BIT | CODE_LOCK | BIT_SYNC | SUBFRAME_SYNC | TOW_DECODED | MSEC_AMBIGUOUS | SYMBOL_SYNC
  | GLO_STRING_SYNC | GLO_TOD_DECODED | BDS_D2_BIT_SYNC | BDS_D2_SUBFRAME_SYNC | GAL_E1BC_CODE_LOCK
  | GAL_E1C_2ND_CODE_LOCK | GAL_E1B_PAGE_SYNC | SBAS_SYNC | TOW_KNOWN | GLO_TOD_KNOWN
  | STATE_2ND_CODE_LOCK

instance : Bits GnssMeasurementsStateBits := ⟨fun e => afterZero e.ctorIdx⟩

/-- PB_GNSS_MEASUREMENTS_STATE_*_BIT -/
inductive PBGnssMeasurementsStateMask where
  | UNKNOWN_BIT | CODE_LOCK | BIT_SYNC | SUBFRAME_SYNC | TOW_DECODED | MSEC_AMBIGUOUS | SYMBOL_SYNC
  | GLO_STRING_SYNC | GLO_TOD_DECODED | BDS_D2_BIT_SYNC | BDS_D2_SUBFRAME_SYNC | GAL_E1BC_CODE_LOCK
  | GAL_E1C_2ND_CODE_LOCK | GAL_E1B_PAGE_SYNC | SBAS_SYNC

instance : Bits PBGnssMeasurementsStateMask := ⟨fun e => afterZero e.ctorIdx⟩

/-- GNSS_MEASUREMENTS_ACCUMULATED_DELTA_RANGE_STATE_*_BIT -/
inductive GnssMeasurementsAdrStateBits where
  | UNKNOWN | VALID | RESET | CYCLE_SLIP | HALF_CYCLE_RESOLVED

instance : Bits GnssMeasurementsAdrStateBits := ⟨fun e => afterZero e.ctorIdx⟩

/-- PB_GNSS_MEASUREMENTS_ACCUMULATED_DELTA_RANGE_STATE_*_BIT -/
inductive PBGnssMeasurementsAdrStateMask where
  | UNKNOWN | VALID | RESET | CYCLE_SLIP

instance : Bits PBGnssMeasurementsAdrStateMask := ⟨fun e => afterZero e.ctorIdx⟩

/-- GNSS_MEASUREMENTS_CLOCK_FLAGS_*_BIT -/
inductive GnssMeasurementsClockFlagsBits where
  | LEAP_SECOND | TIME | TIME_UNCERTAINTY | FULL_BIAS | BIAS | BIAS_UNCERTAINTY | DRIFT
  | DRIFT_UNCERTAINTY | HW_CLOCK_DISCONTINUITY_COUNT | ELAPSED_REAL_TIME

instance : Bits GnssMeasurementsClockFlagsBits := ⟨fun e => 1 <<< e.ctorIdx⟩

/-- PB_GNSS_MEASUREMENTS_CLOCK_FLAGS_*_BIT -/
inductive PBGnssMeasurementsClockFlagsMask where
  | INVALID | LEAP_SECOND | TIME | TIME_UNCERTAINTY | FULL_BIAS | BIAS | BIAS_UNCERTAINTY | DRIFT
  | DRIFT_UNCERTAINTY | HW_CLOCK_DISCONTINUITY_COUNT

instance : Bits PBGnssMeasurementsClockFlagsMask := ⟨fun e => afterZero e.ctorIdx⟩

/-- LOCATION_SYS_INFO_* -/
inductive LocationSystemInfoDataBits where
  | LEAP_SECOND

instance : Bits LocationSystemInfoDataBits := ⟨fun e => 1 <<< e.ctorIdx⟩

/-- PB_LOCATION_SYS_INFO_* -/
inductive PBLocationSystemInfoMask where
  | INVALID | LEAP_SECOND

instance : Bits PBLocationSystemInfoMask := ⟨fun e => afterZero e.ctorIdx⟩

/-- LEAP_SECOND_SYS_INFO_*_BIT -/
inductive LeapSecondSysInfoDataBits where
  | CURRENT_LEAP_SECONDS | LEAP_SECOND_CHANGE

instance : Bits LeapSecondSysInfoDataBits := ⟨fun e => 1 <<< e.ctorIdx⟩

/-- PB_LEAP_SECOND_SYS_INFO_*_BIT -/
inductive PBLeapSecondSysInfoMask where
  | INVALID | CURRENT_LEAP_SECONDS | LEAP_SECOND_CHANGE

instance : Bits PBLeapSecondSysInfoMask := ⟨fun e => afterZero e.ctorIdx⟩

/-! ## Configuration -/

/-- GNSS_CONFIG_ROBUST_LOCATION_*_BIT -/
inductive GnssConfigRobustLocationValidMask where
  | ENABLED_VALID | ENABLED_FOR_E911_VALID | VERSION_VALID

instance : Bits GnssConfigRobustLocationValidMask := ⟨fun e => 1 <<< e.ctorIdx⟩

/-- PB_GNSS_CONFIG_ROBUST_LOCATION_*_BIT -/
inductive PBGnssConfigRobustLocationValidMask where
  | INVALID | ENABLED_VALID | ENABLED_FOR_E911_VALID | VERSION_VALID

instance : Bits PBGnssConfigRobustLocationValidMask := ⟨fun e => afterZero e.ctorIdx⟩

/-- GNSS_AIDING_DATA_SV_* -/
inductive GnssAidingDataSvBits where
  | EPHEMERIS_BIT | ALMANAC_BIT | HEALTH_BIT | DIRECTION_BIT | STEER_BIT | ALMANAC_CORR_BIT
  | BLACKLIST_BIT | SA_DATA_BIT | NO_EXIST_BIT | IONOSPHERE_BIT | TIME_BIT | MB_DATA | POLY_BIT

instance : Bits GnssAidingDataSvBits := ⟨fun e => 1 <<< e.ctorIdx⟩

/-- PB_AIDING_DATA_SV_*_BIT -/
inductive PBLocApiGnssAidingDataSvMask where
  | MASK_INVALID | EPHEMERIS

instance : Bits PBLocApiGnssAidingDataSvMask := ⟨fun e => afterZero e.ctorIdx⟩

/-- DR_ENGINE_AIDING_DATA_*_BIT -/
inductive DrEngineAidingDataBits where
  | CALIBRATION

instance : Bits DrEngineAidingDataBits := ⟨fun e => 1 <<< e.ctorIdx⟩

/-- PB_DR_ENGINE_AIDING_DATA_*_BIT -/
inductive PBDrEngineAidingDataMask where
  | INVALID | CALIBRATION

instance : Bits PBDrEngineAidingDataMask := ⟨fun e => afterZero e.ctorIdx⟩

/-- LEVER_ARM_TYPE_*_BIT -/
inductive LeverArmTypeBits where
  | GNSS_TO_VRP | DR_IMU_TO_GNSS | VEPP_IMU_TO_GNSS

instance : Bits LeverArmTypeBits := ⟨fun e => 1 <<< e.ctorIdx⟩

/-- PB_LEVER_ARM_TYPE_*_BIT -/
inductive PBLIALeverArmTypeMask where
  | INVALID | GNSS_TO_VRP | DR_IMU_TO_GNSS | VEPP_IMU_TO_GNSS

instance : Bits PBLIALeverArmTypeMask := ⟨fun e => afterZero e.ctorIdx⟩

/-- *_BIT -/
inductive DeadReckoningEngineConfigValidBit where
  | BODY_TO_SENSOR_MOUNT_PARAMS | VEHICLE_SPEED_SCALE_FACTOR | VEHICLE_SPEED_SCALE_FACTOR_UNC
  | GYRO_SCALE_FACTOR | GYRO_SCALE_FACTOR_UNC

instance : Bits DeadReckoningEngineConfigValidBit := ⟨fun e => 1 <<< e.ctorIdx⟩

/-- PB_*_BIT -/
inductive PBDeadReckoningEngineConfigValidMask where
  | DR_RECKON_ENGINE_CONFIG_INVALID | BODY_TO_SENSOR_MOUNT_PARAMS | VEHICLE_SPEED_SCALE_FACTOR
  | VEHICLE_SPEED_SCALE_FACTOR_UNC | GYRO_SCALE_FACTOR | GYRO_SCALE_FACTOR_UNC

instance : Bits PBDeadReckoningEngineConfigValidMask := ⟨fun e => afterZero e.ctorIdx⟩

end LocStack.MsgConv
