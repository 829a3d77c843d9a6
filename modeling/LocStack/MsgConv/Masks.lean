/-
# `LocStack.MsgConv.Masks` — the masks on their way into the messages and back

LocationApiPbMsgConv translates a mask by one test after the other, each for
one flag and setting one flag (flags).  Most of its functions are nothing else
(translate).  The info flags of a fix go as two masks, and the two masks of its
position dynamics as one.
-/
import LocStack.Base.BitTable
import LocStack.MsgConv.Flags

namespace LocStack.MsgConv

open Base

variable {w v : ℕ}

/-- These flags. -/
def word {E : Type} [Bits E] (members : List E) : BitVec w :=
  members.foldr (fun e mask => BitVec.ofNat w (Bits.value e) ||| mask) 0#w

/-- For each row a test of its first flag, which sets the second. -/
def flags (E F : Type) [Bits E] [Bits F] (rows : List (E × F)) : BitTable w v :=
  rows.map fun row => (BitVec.ofNat w (Bits.value row.1), BitVec.ofNat v (Bits.value row.2))

def translate (E F : Type) [Bits E] [Bits F] (rows : List (E × F)) (mask : BitVec w) : BitVec v :=
  (flags E F rows).apply mask

/-! ## Sessions and what they report -/

def getPBMaskForTerrestrialTechMask (terrestrialTechMask : BitVec 32) : BitVec 32 :=
  (flags TerrestrialTechMask PBTerrestrialTechMask [(.GTP_WWAN, .GTP_WWAN)]).onto
    terrestrialTechMask (word [PBTerrestrialTechMask.INVALID])

def getTerrestrialTechMaskFromPB (pbTerrestrialTechMask : BitVec 32) : BitVec 32 :=
  translate PBTerrestrialTechMask TerrestrialTechMask [(.GTP_WWAN, .GTP_WWAN)] pbTerrestrialTechMask

def getPBMaskForLocationCallbacksMask (locCbMask : BitVec 32) : BitVec 32 :=
  translate ELocationCallbacksOption PBLocationCallbacksMask
    [(.DISTANCE_BASED_TRACKING, .DISTANCE_BASED_TRACKING),
     (.GNSS_LOCATION_INFO, .GNSS_LOCATION_INFO), (.GNSS_SV, .GNSS_SV), (.GNSS_NMEA, .GNSS_NMEA),
     (.GNSS_DATA, .GNSS_DATA), (.SYSTEM_INFO, .SYSTEM_INFO), (.BATCHING, .BATCHING),
     (.BATCHING_STATUS, .BATCHING_STATUS), (.GEOFENCE_BREACH, .GEOFENCE_BREACH),
     (.ENGINE_LOCATIONS_INFO, .ENGINE_LOCATIONS_INFO),
     (.SIMPLE_LOCATION_INFO, .SIMPLE_LOCATION_INFO), (.GNSS_MEAS, .GNSS_MEAS)] locCbMask

def getLocationCallbacksMaskFromPB (pbLocCbMask : BitVec 32) : BitVec 32 :=
  translate PBLocationCallbacksMask ELocationCallbacksOption
    [(.DISTANCE_BASED_TRACKING, .DISTANCE_BASED_TRACKING),
     (.GNSS_LOCATION_INFO, .GNSS_LOCATION_INFO), (.GNSS_SV, .GNSS_SV), (.GNSS_NMEA, .GNSS_NMEA),
     (.GNSS_DATA, .GNSS_DATA), (.SYSTEM_INFO, .SYSTEM_INFO), (.BATCHING, .BATCHING),
     (.BATCHING_STATUS, .BATCHING_STATUS), (.GEOFENCE_BREACH, .GEOFENCE_BREACH),
     (.ENGINE_LOCATIONS_INFO, .ENGINE_LOCATIONS_INFO),
     (.SIMPLE_LOCATION_INFO, .SIMPLE_LOCATION_INFO), (.GNSS_MEAS, .GNSS_MEAS)] pbLocCbMask

def getPBMaskForLocationCapabilitiesMask (locCapabMask : BitVec 64) : BitVec 64 :=
  translate LocationCapabilitiesBits PBLocationCapabilitiesMask
    [(.TIME_BASED_TRACKING_BIT, .TIME_BASED_TRACKING_BIT),
     (.TIME_BASED_BATCHING_BIT, .TIME_BASED_BATCHING_BIT),
     (.DISTANCE_BASED_TRACKING_BIT, .DISTANCE_BASED_TRACKING_BIT),
     (.DISTANCE_BASED_BATCHING_BIT, .DISTANCE_BASED_BATCHING_BIT), (.GEOFENCE_BIT, .GEOFENCE_BIT),
     (.OUTDOOR_TRIP_BATCHING_BIT, .OUTDOOR_TRIP_BATCHING_BIT),
     (.GNSS_MEASUREMENTS_BIT, .GNSS_MEASUREMENTS_BIT),
     (.CONSTELLATION_ENABLEMENT_BIT, .CONSTELLATION_ENABLEMENT_BIT),
     (.QWES_CARRIER_PHASE_BIT, .QWES_CARRIER_PHASE_BIT),
     (.QWES_SV_POLYNOMIAL_BIT, .QWES_SV_POLYNOMIAL_BIT),
     (.QWES_GNSS_SINGLE_FREQUENCY, .QWES_GNSS_SINGLE_FREQUENCY),
     (.QWES_GNSS_MULTI_FREQUENCY, .QWES_GNSS_MULTI_FREQUENCY), (.QWES_VPE, .QWES_VPE),
     (.QWES_CV2X_LOCATION_BASIC, .QWES_CV2X_LOCATION_BASIC),
     (.QWES_CV2X_LOCATION_PREMIUM, .QWES_CV2X_LOCATION_PREMIUM), (.QWES_PPE, .QWES_PPE),
     (.QWES_QDR2, .QWES_QDR2), (.QWES_QDR3, .QWES_QDR3)] locCapabMask

def getLocationCapabilitiesMaskFromPB (pbLocCapabMask : BitVec 64) : BitVec 64 :=
  translate PBLocationCapabilitiesMask LocationCapabilitiesBits
    [(.TIME_BASED_TRACKING_BIT, .TIME_BASED_TRACKING_BIT),
     (.TIME_BASED_BATCHING_BIT, .TIME_BASED_BATCHING_BIT),
     (.DISTANCE_BASED_TRACKING_BIT, .DISTANCE_BASED_TRACKING_BIT),
     (.DISTANCE_BASED_BATCHING_BIT, .DISTANCE_BASED_BATCHING_BIT), (.GEOFENCE_BIT, .GEOFENCE_BIT),
     (.OUTDOOR_TRIP_BATCHING_BIT, .OUTDOOR_TRIP_BATCHING_BIT),
     (.GNSS_MEASUREMENTS_BIT, .GNSS_MEASUREMENTS_BIT),
     (.CONSTELLATION_ENABLEMENT_BIT, .CONSTELLATION_ENABLEMENT_BIT),
     (.QWES_CARRIER_PHASE_BIT, .QWES_CARRIER_PHASE_BIT),
     (.QWES_SV_POLYNOMIAL_BIT, .QWES_SV_POLYNOMIAL_BIT),
     (.QWES_GNSS_SINGLE_FREQUENCY, .QWES_GNSS_SINGLE_FREQUENCY),
     (.QWES_GNSS_MULTI_FREQUENCY, .QWES_GNSS_MULTI_FREQUENCY), (.QWES_VPE, .QWES_VPE),
     (.QWES_CV2X_LOCATION_BASIC, .QWES_CV2X_LOCATION_BASIC),
     (.QWES_CV2X_LOCATION_PREMIUM, .QWES_CV2X_LOCATION_PREMIUM), (.QWES_PPE, .QWES_PPE),
     (.QWES_QDR2, .QWES_QDR2), (.QWES_QDR3, .QWES_QDR3)] pbLocCapabMask

def getPBMaskForLocReqEngineTypeMask (locReqEngTypeMask : BitVec 32) : BitVec 32 :=
  translate LocReqEngineTypeMask PBLocReqEngineTypeMask
    [(.FUSED, .FUSED), (.SPE, .SPE), (.PPE, .PPE)] locReqEngTypeMask

def getLocReqEngineTypeMaskFromPB (pbLocReqEngTypeMask : BitVec 32) : BitVec 32 :=
  translate PBLocReqEngineTypeMask LocReqEngineTypeMask
    [(.FUSED, .FUSED), (.SPE, .SPE), (.PPE, .PPE)] pbLocReqEngTypeMask

def getPBMaskForGeofenceBreachTypeMask (gfBreachTypeMask : BitVec 32) : BitVec 32 :=
  translate GeofenceBreachTypeBits PBGeofenceBreachTypeMask
    [(.ENTER, .ENTER), (.EXIT, .EXIT), (.DWELL_IN, .DWELL_IN), (.DWELL_OUT, .DWELL_OUT)]
    gfBreachTypeMask

def getGfBreachTypeMaskFromPB (pbGfBreackTypMask : BitVec 32) : BitVec 32 :=
  translate PBGeofenceBreachTypeMask GeofenceBreachTypeBits
    [(.ENTER, .ENTER), (.EXIT, .EXIT), (.DWELL_IN, .DWELL_IN), (.DWELL_OUT, .DWELL_OUT)]
    pbGfBreackTypMask

/-! ## Fixes -/

def getPBMaskForLocationFlagsMask (locFlagsMask : BitVec 32) : BitVec 32 :=
  translate LocationFlagsBits PBLocationFlagsMask
    [(.LAT_LONG_BIT, .LAT_LONG), (.ALTITUDE_BIT, .ALTITUDE), (.SPEED_BIT, .SPEED),
     (.BEARING_BIT, .BEARING), (.ACCURACY_BIT, .ACCURACY),
     (.VERTICAL_ACCURACY_BIT, .VERTICAL_ACCURACY), (.SPEED_ACCURACY_BIT, .SPEED_ACCURACY),
     (.BEARING_ACCURACY_BIT, .BEARING_ACCURACY)] locFlagsMask

def getLocationFlagsMaskFromPB (pbLocFlagsMask : BitVec 32) : BitVec 32 :=
  translate PBLocationFlagsMask LocationFlagsBits
    [(.LAT_LONG, .LAT_LONG_BIT), (.ALTITUDE, .ALTITUDE_BIT), (.SPEED, .SPEED_BIT),
     (.BEARING, .BEARING_BIT), (.ACCURACY, .ACCURACY_BIT),
     (.VERTICAL_ACCURACY, .VERTICAL_ACCURACY_BIT), (.SPEED_ACCURACY, .SPEED_ACCURACY_BIT),
     (.BEARING_ACCURACY, .BEARING_ACCURACY_BIT)] pbLocFlagsMask

def getPBMaskForLocationTechnologyMask (locTechMask : BitVec 32) : BitVec 32 :=
  translate LocationTechnologyBits PBLocationTechnologyMask
    [(.GNSS, .GNSS), (.CELL, .CELL), (.WIFI, .WIFI), (.SENSORS, .SENSORS),
     (.REFERENCE_LOCATION, .REFERENCE_LOCATION),
     (.INJECTED_COARSE_POSITION, .INJECTED_COARSE_POSITION), (.AFLT, .AFLT), (.HYBRID, .HYBRID),
     (.PPE, .PPE), (.VEH, .VEH), (.VIS, .VIS)] locTechMask

def getLocationTechnologyMaskFromPB (pbLocTechMask : BitVec 32) : BitVec 32 :=
  translate PBLocationTechnologyMask LocationTechnologyBits
    [(.GNSS, .GNSS), (.CELL, .CELL), (.WIFI, .WIFI), (.SENSORS, .SENSORS),
     (.REFERENCE_LOCATION, .REFERENCE_LOCATION),
     (.INJECTED_COARSE_POSITION, .INJECTED_COARSE_POSITION), (.AFLT, .AFLT), (.HYBRID, .HYBRID),
     (.PPE, .PPE), (.VEH, .VEH), (.VIS, .VIS)] pbLocTechMask

def getPBMaskForGnssLocationInfoFlagMask (gnssLocInfoFlagMask : BitVec 64) : BitVec 32 :=
  translate GnssLocationInfoFlagBits PBGnssLocationInfoFlagMask
    [(.ALTITUDE_MEAN_SEA_LEVEL, .ALTITUDE_MEAN_SEA_LEVEL), (.DOP, .DOP),
     (.MAGNETIC_DEVIATION, .MAGNETIC_DEVIATION), (.HOR_RELIABILITY, .HOR_RELIABILITY),
     (.VER_RELIABILITY, .VER_RELIABILITY),
     (.HOR_ACCURACY_ELIP_SEMI_MAJOR, .HOR_ACCURACY_ELIP_SEMI_MAJOR),
     (.HOR_ACCURACY_ELIP_SEMI_MINOR, .HOR_ACCURACY_ELIP_SEMI_MINOR),
     (.HOR_ACCURACY_ELIP_AZIMUTH, .HOR_ACCURACY_ELIP_AZIMUTH),
     (.GNSS_SV_USED_DATA, .GNSS_SV_USED_DATA), (.NAV_SOLUTION_MASK, .NAV_SOLUTION_MASK),
     (.POS_DYNAMICS_DATA, .POS_DYNAMICS_DATA), (.EXT_DOP, .EXT_DOP),
     (.NORTH_STD_DEV, .NORTH_STD_DEV), (.EAST_STD_DEV, .EAST_STD_DEV), (.NORTH_VEL, .NORTH_VEL),
     (.EAST_VEL, .EAST_VEL), (.UP_VEL, .UP_VEL), (.NORTH_VEL_UNC, .NORTH_VEL_UNC),
     (.EAST_VEL_UNC, .EAST_VEL_UNC), (.UP_VEL_UNC, .UP_VEL_UNC), (.LEAP_SECONDS, .LEAP_SECONDS),
     (.TIME_UNC, .TIME_UNC), (.NUM_SV_USED_IN_POSITION, .NUM_SV_USED_IN_POSITION),
     (.CALIBRATION_CONFIDENCE, .CALIBRATION_CONFIDENCE_PERCENT),
     (.CALIBRATION_STATUS, .CALIBRATION_STATUS), (.OUTPUT_ENG_TYPE, .OUTPUT_ENG_TYPE),
     (.OUTPUT_ENG_MASK, .OUTPUT_ENG_MASK), (.CONFORMITY_INDEX, .CONFORMITY_INDEX),
     (.LLA_VRP_BASED, .LLA_VRP_BASED), (.ENU_VELOCITY_VRP_BASED, .ENU_VELOCITY_VRP_BASED),
     (.DR_SOLUTION_STATUS_MASK, .DR_SOLUTION_STATUS_MASK)] gnssLocInfoFlagMask

def getPBMaskForGnssLocationInfoExtFlagMask (gnssLocInfoFlagMask : BitVec 64) : BitVec 32 :=
  translate GnssLocationInfoFlagBits PBGnssLocationInfoExtFlagMask
    [(.ALTITUDE_ASSUMED, .ALTITUDE_ASSUMED), (.SESSION_STATUS, .SESSION_STATUS)] gnssLocInfoFlagMask

/-- PB_GNSS_LOCATION_INFO_DOP_BIT is tested and set, for GNSS_LOCATION_INFO_DOP_BIT, which is the
same bit. -/
def getGnssLocationInfoFlagMaskFromPB (pbGnssLocInfoFlagMask pbGnssLocInfoExtFlagMask : BitVec 32) :
    BitVec 64 :=
  let rows : BitTable 32 64 :=
    flags PBGnssLocationInfoFlagMask GnssLocationInfoFlagBits
        [(.ALTITUDE_MEAN_SEA_LEVEL, .ALTITUDE_MEAN_SEA_LEVEL)] ++
      flags PBGnssLocationInfoFlagMask PBGnssLocationInfoFlagMask [(.DOP, .DOP)] ++
      flags PBGnssLocationInfoFlagMask GnssLocationInfoFlagBits
        [(.MAGNETIC_DEVIATION, .MAGNETIC_DEVIATION), (.HOR_RELIABILITY, .HOR_RELIABILITY),
         (.VER_RELIABILITY, .VER_RELIABILITY),
         (.HOR_ACCURACY_ELIP_SEMI_MAJOR, .HOR_ACCURACY_ELIP_SEMI_MAJOR),
         (.HOR_ACCURACY_ELIP_SEMI_MINOR, .HOR_ACCURACY_ELIP_SEMI_MINOR),
         (.HOR_ACCURACY_ELIP_AZIMUTH, .HOR_ACCURACY_ELIP_AZIMUTH),
         (.GNSS_SV_USED_DATA, .GNSS_SV_USED_DATA), (.NAV_SOLUTION_MASK, .NAV_SOLUTION_MASK),
         (.POS_DYNAMICS_DATA, .POS_DYNAMICS_DATA), (.EXT_DOP, .EXT_DOP),
         (.NORTH_STD_DEV, .NORTH_STD_DEV), (.EAST_STD_DEV, .EAST_STD_DEV), (.NORTH_VEL, .NORTH_VEL),
         (.EAST_VEL, .EAST_VEL), (.UP_VEL, .UP_VEL), (.NORTH_VEL_UNC, .NORTH_VEL_UNC),
         (.EAST_VEL_UNC, .EAST_VEL_UNC), (.UP_VEL_UNC, .UP_VEL_UNC), (.LEAP_SECONDS, .LEAP_SECONDS),
         (.TIME_UNC, .TIME_UNC), (.NUM_SV_USED_IN_POSITION, .NUM_SV_USED_IN_POSITION),
         (.CALIBRATION_CONFIDENCE_PERCENT, .CALIBRATION_CONFIDENCE),
         (.CALIBRATION_STATUS, .CALIBRATION_STATUS), (.OUTPUT_ENG_TYPE, .OUTPUT_ENG_TYPE),
         (.OUTPUT_ENG_MASK, .OUTPUT_ENG_MASK), (.CONFORMITY_INDEX, .CONFORMITY_INDEX),
         (.LLA_VRP_BASED, .LLA_VRP_BASED), (.ENU_VELOCITY_VRP_BASED, .ENU_VELOCITY_VRP_BASED),
         (.DR_SOLUTION_STATUS_MASK, .DR_SOLUTION_STATUS_MASK)]
  (flags PBGnssLocationInfoExtFlagMask GnssLocationInfoFlagBits
    [(.ALTITUDE_ASSUMED, .ALTITUDE_ASSUMED), (.SESSION_STATUS, .SESSION_STATUS)]).onto
    pbGnssLocInfoExtFlagMask (rows.apply pbGnssLocInfoFlagMask)

def getPBMaskForGnssLocationNavSolutionMask (gnssLocNavSolnMask : BitVec 32) : BitVec 32 :=
  translate GnssLocationNavSolutionBits PBGnssLocationNavSolutionMask
    [(.SBAS_CORRECTION_IONO, .SBAS_CORRECTION_IONO), (.SBAS_CORRECTION_FAST, .SBAS_CORRECTION_FAST),
     (.SBAS_CORRECTION_LONG, .SBAS_CORRECTION_LONG), (.SBAS_INTEGRITY, .SBAS_INTEGRITY),
     (.NAV_CORRECTION_DGNSS, .NAV_CORRECTION_DGNSS), (.NAV_CORRECTION_RTK, .NAV_CORRECTION_RTK),
     (.NAV_CORRECTION_PPP, .NAV_CORRECTION_PPP),
     (.NAV_CORRECTION_RTK_FIXED, .NAV_CORRECTION_RTK_FIXED),
     (.NAV_CORRECTION_ONLY_SBAS_CORRECTED_SV_USED, .NAV_CORRECTION_ONLY_SBAS_CORRECTED_SV_USED)]
    gnssLocNavSolnMask

def getGnssLocationNavSolutionMaskFromPB (pbGnssLocNavSoln : BitVec 32) : BitVec 32 :=
  translate PBGnssLocationNavSolutionMask GnssLocationNavSolutionBits
    [(.SBAS_CORRECTION_IONO, .SBAS_CORRECTION_IONO), (.SBAS_CORRECTION_FAST, .SBAS_CORRECTION_FAST),
     (.SBAS_CORRECTION_LONG, .SBAS_CORRECTION_LONG), (.SBAS_INTEGRITY, .SBAS_INTEGRITY),
     (.NAV_CORRECTION_DGNSS, .NAV_CORRECTION_DGNSS), (.NAV_CORRECTION_RTK, .NAV_CORRECTION_RTK),
     (.NAV_CORRECTION_PPP, .NAV_CORRECTION_PPP),
     (.NAV_CORRECTION_RTK_FIXED, .NAV_CORRECTION_RTK_FIXED),
     (.NAV_CORRECTION_ONLY_SBAS_CORRECTED_SV_USED, .NAV_CORRECTION_ONLY_SBAS_CORRECTED_SV_USED)]
    pbGnssLocNavSoln

def getPBMaskForGnssLocationPosDataMask (gnssLocPosDataMask gnssLocPosDataMaskExt : BitVec 32) :
    BitVec 32 :=
  let pbGnssLocPosDataMask :=
    translate GnssLocationPosDataBits PBLocApiGnssLocationPosDataMask
      [(.LONG_ACCEL, .LONG_ACCEL), (.LAT_ACCEL, .LAT_ACCEL), (.VERT_ACCEL, .VERT_ACCEL),
       (.YAW_RATE, .YAW_RATE), (.PITCH, .PITCH), (.LONG_ACCEL_UNC, .LONG_ACCEL_UNC),
       (.LAT_ACCEL_UNC, .LAT_ACCEL_UNC), (.VERT_ACCEL_UNC, .VERT_ACCEL_UNC),
       (.YAW_RATE_UNC, .YAW_RATE_UNC), (.PITCH_UNC, .PITCH_UNC)] gnssLocPosDataMask
  (flags GnssLocationPosDataBitsExt PBLocApiGnssLocationPosDataMask
    [(.PITCH_RATE, .PITCH_RATE), (.PITCH_RATE_UNC, .PITCH_RATE_UNC), (.ROLL, .ROLL),
     (.ROLL_UNC, .ROLL_UNC), (.ROLL_RATE, .ROLL_RATE), (.ROLL_RATE_UNC, .ROLL_RATE_UNC),
     (.YAW, .YAW), (.YAW_UNC, .YAW_UNC)]).onto
    gnssLocPosDataMaskExt pbGnssLocPosDataMask

def getGnssLocationPosDataMaskFromPB (pbGnssLocPosDataMask : BitVec 32) : BitVec 32 :=
  translate PBLocApiGnssLocationPosDataMask GnssLocationPosDataBits
    [(.LONG_ACCEL, .LONG_ACCEL), (.LAT_ACCEL, .LAT_ACCEL), (.VERT_ACCEL, .VERT_ACCEL),
     (.YAW_RATE, .YAW_RATE), (.PITCH, .PITCH), (.LONG_ACCEL_UNC, .LONG_ACCEL_UNC),
     (.LAT_ACCEL_UNC, .LAT_ACCEL_UNC), (.VERT_ACCEL_UNC, .VERT_ACCEL_UNC),
     (.YAW_RATE_UNC, .YAW_RATE_UNC), (.PITCH_UNC, .PITCH_UNC)] pbGnssLocPosDataMask

def getGnssLocationPosDataMaskExtFromPB (pbGnssLocPosDataMask : BitVec 32) : BitVec 32 :=
  translate PBLocApiGnssLocationPosDataMask GnssLocationPosDataBitsExt
    [(.PITCH_RATE, .PITCH_RATE), (.PITCH_RATE_UNC, .PITCH_RATE_UNC), (.ROLL, .ROLL),
     (.ROLL_UNC, .ROLL_UNC), (.ROLL_RATE, .ROLL_RATE), (.ROLL_RATE_UNC, .ROLL_RATE_UNC),
     (.YAW, .YAW), (.YAW_UNC, .YAW_UNC)] pbGnssLocPosDataMask

def getPBMaskForDrCalibrationStatusMask (drCalibStatusMask : BitVec 32) : BitVec 32 :=
  translate DrCalibrationStatusBits PBLocApiDrCalibrationStatusMask
    [(.ROLL_CALIBRATION_NEEDED, .ROLL_CALIBRATION_NEEDED),
     (.PITCH_CALIBRATION_NEEDED, .PITCH_CALIBRATION_NEEDED),
     (.YAW_CALIBRATION_NEEDED, .YAW_CALIBRATION_NEEDED),
     (.ODO_CALIBRATION_NEEDED, .ODO_CALIBRATION_NEEDED),
     (.GYRO_CALIBRATION_NEEDED, .GYRO_CALIBRATION_NEEDED)] drCalibStatusMask

def getDrCalibrationStatusMaskFromPB (pbDrCalibStatus : BitVec 32) : BitVec 32 :=
  translate PBLocApiDrCalibrationStatusMask DrCalibrationStatusBits
    [(.ROLL_CALIBRATION_NEEDED, .ROLL_CALIBRATION_NEEDED),
     (.PITCH_CALIBRATION_NEEDED, .PITCH_CALIBRATION_NEEDED),
     (.YAW_CALIBRATION_NEEDED, .YAW_CALIBRATION_NEEDED),
     (.ODO_CALIBRATION_NEEDED, .ODO_CALIBRATION_NEEDED),
     (.GYRO_CALIBRATION_NEEDED, .GYRO_CALIBRATION_NEEDED)] pbDrCalibStatus

def getPBMaskForDrSolutionStatusMask (drSolnStatusMask : BitVec 32) : BitVec 32 :=
  translate DrSolutionStatusMask PBDrSolutionStatusMask
    [(.DETECTED, .DETECTED), (.USED, .USED)] drSolnStatusMask

def getDrSolutionStatusMaskFromPB (pbDrSolnStatusMask : BitVec 32) : BitVec 32 :=
  translate PBDrSolutionStatusMask DrSolutionStatusMask
    [(.DETECTED, .DETECTED), (.USED, .USED)] pbDrSolnStatusMask

def getPBMaskForPositioningEngineMask (posEngMask : BitVec 32) : BitVec 32 :=
  translate PositioningEngineBits PBLocApiPositioningEngineMask
    [(.STANDARD_POSITIONING_ENGINE, .STANDARD_POSITIONING_ENGINE),
     (.DEAD_RECKONING_ENGINE, .DEAD_RECKONING_ENGINE),
     (.PRECISE_POSITIONING_ENGINE, .PRECISE_POSITIONING_ENGINE)] posEngMask

def getEnumForPBPositioningEngineMask (pbPosEngMask : BitVec 32) : BitVec 32 :=
  translate PBLocApiPositioningEngineMask PositioningEngineBits
    [(.STANDARD_POSITIONING_ENGINE, .STANDARD_POSITIONING_ENGINE),
     (.PRECISE_POSITIONING_ENGINE, .PRECISE_POSITIONING_ENGINE),
     (.DEAD_RECKONING_ENGINE, .DEAD_RECKONING_ENGINE)] pbPosEngMask

def getPBMaskForGnssSystemTimeStructTypeFlags (gnssSysTimeStructTypeFlg : BitVec 32) : BitVec 32 :=
  translate GnssSystemTimeTypeBits PBLocApiGnssSystemTimeStructTypeFlags
    [(.TIME_WEEK_VALID, .TIME_WEEK_VALID), (.TIME_WEEK_MS_VALID, .TIME_WEEK_MS_VALID),
     (.CLK_TIME_BIAS_VALID, .CLK_TIME_BIAS_VALID),
     (.CLK_TIME_BIAS_UNC_VALID, .CLK_TIME_BIAS_UNC_VALID), (.REF_FCOUNT_VALID, .REF_FCOUNT_VALID),
     (.NUM_CLOCK_RESETS_VALID, .NUM_CLOCK_RESETS_VALID)] gnssSysTimeStructTypeFlg

def getGnssSystemTimeStructTypeFlagsFromPB (pbGnssSysTimeStrctType : BitVec 32) : BitVec 32 :=
  translate PBLocApiGnssSystemTimeStructTypeFlags GnssSystemTimeTypeBits
    [(.TIME_WEEK_VALID, .TIME_WEEK_VALID), (.TIME_WEEK_MS_VALID, .TIME_WEEK_MS_VALID),
     (.CLK_TIME_BIAS_VALID, .CLK_TIME_BIAS_VALID),
     (.CLK_TIME_BIAS_UNC_VALID, .CLK_TIME_BIAS_UNC_VALID), (.REF_FCOUNT_VALID, .REF_FCOUNT_VALID),
     (.NUM_CLOCK_RESETS_VALID, .NUM_CLOCK_RESETS_VALID)] pbGnssSysTimeStrctType

def getPBMaskForGnssGloTimeStructTypeFlags (gnssGloTimeStructTypeFlags : BitVec 32) : BitVec 32 :=
  translate GnssGloTimeTypeBits PBGnssGloTimeStructTypeFlags
    [(.CLO_DAYS_VALID, .CLO_DAYS_VALID), (.GLO_MSEC_VALID, .GLO_MSEC_VALID),
     (.GLO_CLK_TIME_BIAS_VALID, .GLO_CLK_TIME_BIAS_VALID),
     (.GLO_CLK_TIME_BIAS_UNC_VALID, .GLO_CLK_TIME_BIAS_UNC_VALID),
     (.GLO_REF_FCOUNT_VALID, .GLO_REF_FCOUNT_VALID),
     (.GLO_NUM_CLOCK_RESETS_VALID, .GLO_NUM_CLOCK_RESETS_VALID),
     (.GLO_FOUR_YEAR_VALID, .GLO_FOUR_YEAR_VALID)] gnssGloTimeStructTypeFlags

def getGnssGloTimeStructTypeFlagsFromPB (pbGnssGloTimeStruct : BitVec 32) : BitVec 32 :=
  translate PBGnssGloTimeStructTypeFlags GnssGloTimeTypeBits
    [(.CLO_DAYS_VALID, .CLO_DAYS_VALID), (.GLO_MSEC_VALID, .GLO_MSEC_VALID),
     (.GLO_CLK_TIME_BIAS_VALID, .GLO_CLK_TIME_BIAS_VALID),
     (.GLO_CLK_TIME_BIAS_UNC_VALID, .GLO_CLK_TIME_BIAS_UNC_VALID),
     (.GLO_REF_FCOUNT_VALID, .GLO_REF_FCOUNT_VALID),
     (.GLO_NUM_CLOCK_RESETS_VALID, .GLO_NUM_CLOCK_RESETS_VALID),
     (.GLO_FOUR_YEAR_VALID, .GLO_FOUR_YEAR_VALID)] pbGnssGloTimeStruct

/-! ## Satellites and measurements -/

def getPBMaskForGnssSvOptionsMask (gnssSvOptMask : BitVec 32) : BitVec 32 :=
  translate GnssSvOptionsBits PBLocApiGnssSvOptionsMask
    [(.HAS_EPHEMER, .HAS_EPHEMER), (.HAS_ALMANAC, .HAS_ALMANAC), (.USED_IN_FIX, .USED_IN_FIX),
     (.HAS_CARRIER_FREQUENCY, .HAS_CARRIER_FREQUENCY),
     (.HAS_GNSS_SIGNAL_TYPE, .HAS_GNSS_SIGNAL_TYPE)] gnssSvOptMask

def getGnssSvOptionsMaskFromPB (pbGnssSvOptMask : BitVec 32) : BitVec 32 :=
  translate PBLocApiGnssSvOptionsMask GnssSvOptionsBits
    [(.HAS_EPHEMER, .HAS_EPHEMER), (.HAS_ALMANAC, .HAS_ALMANAC), (.USED_IN_FIX, .USED_IN_FIX),
     (.HAS_CARRIER_FREQUENCY, .HAS_CARRIER_FREQUENCY),
     (.HAS_GNSS_SIGNAL_TYPE, .HAS_GNSS_SIGNAL_TYPE)] pbGnssSvOptMask

def getPBMaskForGnssSignalTypeMask (gnssSignalTypeMask : BitVec 32) : BitVec 32 :=
  translate GnssSignalTypeBits PBGnssSignalTypeMask
    [(.GPS_L1CA, .GPS_L1CA), (.GPS_L1C, .GPS_L1C), (.GPS_L2, .GPS_L2), (.GPS_L5, .GPS_L5),
     (.GLONASS_G1, .GLONASS_G1), (.GLONASS_G2, .GLONASS_G2), (.GALILEO_E1, .GALILEO_E1),
     (.GALILEO_E5A, .GALILEO_E5A), (.GALILEO_E5B, .GALILEO_E5B), (.BEIDOU_B1, .BEIDOU_B1),
     (.BEIDOU_B2, .BEIDOU_B2), (.QZSS_L1CA, .QZSS_L1CA), (.QZSS_L1S, .QZSS_L1S),
     (.QZSS_L2, .QZSS_L2), (.QZSS_L5, .QZSS_L5), (.SBAS_L1, .SBAS_L1), (.BEIDOU_B1I, .BEIDOU_B1I),
     (.BEIDOU_B1C, .BEIDOU_B1C), (.BEIDOU_B2I, .BEIDOU_B2I), (.BEIDOU_B2AI, .BEIDOU_B2AI),
     (.NAVIC_L5, .NAVIC_L5), (.BEIDOU_B2AQ, .BEIDOU_B2AQ)] gnssSignalTypeMask

def getGnssSignalTypeMaskFromPB (pbGnssSignalTypeMask : BitVec 32) : BitVec 32 :=
  translate PBGnssSignalTypeMask GnssSignalTypeBits
    [(.GPS_L1CA, .GPS_L1CA), (.GPS_L1C, .GPS_L1C), (.GPS_L2, .GPS_L2), (.GPS_L5, .GPS_L5),
     (.GLONASS_G1, .GLONASS_G1), (.GLONASS_G2, .GLONASS_G2), (.GALILEO_E1, .GALILEO_E1),
     (.GALILEO_E5A, .GALILEO_E5A), (.GALILEO_E5B, .GALILEO_E5B), (.BEIDOU_B1, .BEIDOU_B1),
     (.BEIDOU_B2, .BEIDOU_B2), (.QZSS_L1CA, .QZSS_L1CA), (.QZSS_L1S, .QZSS_L1S),
     (.QZSS_L2, .QZSS_L2), (.QZSS_L5, .QZSS_L5), (.SBAS_L1, .SBAS_L1), (.BEIDOU_B1I, .BEIDOU_B1I),
     (.BEIDOU_B1C, .BEIDOU_B1C), (.BEIDOU_B2I, .BEIDOU_B2I), (.BEIDOU_B2AI, .BEIDOU_B2AI),
     (.NAVIC_L5, .NAVIC_L5), (.BEIDOU_B2AQ, .BEIDOU_B2AQ)] pbGnssSignalTypeMask

def getGnssSvTypesMaskFromPB (pbGnssSvTypesMask : BitVec 64) : BitVec 64 :=
  translate PBGnssSvTypesMask GnssSvTypesMaskBits
    [(.GLO, .GLO), (.BDS, .BDS), (.QZSS, .QZSS), (.GAL, .GAL), (.NAVIC, .NAVIC), (.GPS, .GPS)]
    pbGnssSvTypesMask

def getPBMaskForGnssDataMask (gnssDataMask : BitVec 64) : BitVec 64 :=
  translate GnssDataBits PBGnssDataMask [(.JAMMER_IND, .JAMMER_IND), (.AGC, .AGC)] gnssDataMask

def getGnssDataMaskFromPB (pbGnssDataMask : BitVec 64) : BitVec 64 :=
  translate PBGnssDataMask GnssDataBits [(.JAMMER_IND, .JAMMER_IND), (.AGC, .AGC)] pbGnssDataMask

def getPBMaskForGnssMeasurementsDataFlagsMask (gnssMeasDataFlagsMask : BitVec 32) : BitVec 32 :=
  translate GnssMeasurementsDataFlagsBits PBGnssMeasurementsDataFlagsMask
    [(.SV_ID, .SV_ID), (.SV_TYPE, .SV_TYPE), (.STATE, .STATE),
     (.RECEIVED_SV_TIME, .RECEIVED_SV_TIME),
     (.RECEIVED_SV_TIME_UNCERTAINTY, .RECEIVED_SV_TIME_UNCERTAINTY),
     (.CARRIER_TO_NOISE, .CARRIER_TO_NOISE), (.PSEUDORANGE_RATE, .PSEUDORANGE_RATE),
     (.PSEUDORANGE_RATE_UNCERTAINTY, .PSEUDORANGE_RATE_UNCERTAINTY), (.ADR_STATE, .ADR_STATE),
     (.ADR, .ADR), (.ADR_UNCERTAINTY, .ADR_UNCERTAINTY), (.CARRIER_FREQUENCY, .CARRIER_FREQUENCY),
     (.CARRIER_CYCLES, .CARRIER_CYCLES), (.CARRIER_PHASE, .CARRIER_PHASE),
     (.CARRIER_PHASE_UNCERTAINTY, .CARRIER_PHASE_UNCERTAINTY),
     (.MULTIPATH_INDICATOR, .MULTIPATH_INDICATOR),
     (.SIGNAL_TO_NOISE_RATIO_BIT, .SIGNAL_TO_NOISE_RATIO_BIT),
     (.AUTOMATIC_GAIN_CONTROL, .AUTOMATIC_GAIN_CONTROL), (.FULL_ISB, .FULL_ISB),
     (.FULL_ISB_UNCERTAINTY, .FULL_ISB_UNCERTAINTY), (.CYCLE_SLIP_COUNT, .CYCLE_SLIP_COUNT)]
    gnssMeasDataFlagsMask

def getGnssMeasurementsDataFlagsMaskFromPB (pbGnssMeasDataFlgMask : BitVec 32) : BitVec 32 :=
  translate PBGnssMeasurementsDataFlagsMask GnssMeasurementsDataFlagsBits
    [(.SV_ID, .SV_ID), (.SV_TYPE, .SV_TYPE), (.STATE, .STATE),
     (.RECEIVED_SV_TIME, .RECEIVED_SV_TIME),
     (.RECEIVED_SV_TIME_UNCERTAINTY, .RECEIVED_SV_TIME_UNCERTAINTY),
     (.CARRIER_TO_NOISE, .CARRIER_TO_NOISE), (.PSEUDORANGE_RATE, .PSEUDORANGE_RATE),
     (.PSEUDORANGE_RATE_UNCERTAINTY, .PSEUDORANGE_RATE_UNCERTAINTY), (.ADR_STATE, .ADR_STATE),
     (.ADR, .ADR), (.ADR_UNCERTAINTY, .ADR_UNCERTAINTY), (.CARRIER_FREQUENCY, .CARRIER_FREQUENCY),
     (.CARRIER_CYCLES, .CARRIER_CYCLES), (.CARRIER_PHASE, .CARRIER_PHASE),
     (.CARRIER_PHASE_UNCERTAINTY, .CARRIER_PHASE_UNCERTAINTY),
     (.MULTIPATH_INDICATOR, .MULTIPATH_INDICATOR),
     (.SIGNAL_TO_NOISE_RATIO_BIT, .SIGNAL_TO_NOISE_RATIO_BIT),
     (.AUTOMATIC_GAIN_CONTROL, .AUTOMATIC_GAIN_CONTROL), (.FULL_ISB, .FULL_ISB),
     (.FULL_ISB_UNCERTAINTY, .FULL_ISB_UNCERTAINTY), (.CYCLE_SLIP_COUNT, .CYCLE_SLIP_COUNT)]
    pbGnssMeasDataFlgMask

def getPBMaskForGnssMeasurementsStateMask (gnssMeasStateMask : BitVec 32) : BitVec 32 :=
  translate GnssMeasurementsStateBits PBGnssMeasurementsStateMask
    [(.UNKNOWN_BIT, .UNKNOWN_BIT), (.CODE_LOCK, .CODE_LOCK), (.BIT_SYNC, .BIT_SYNC),
     (.SUBFRAME_SYNC, .SUBFRAME_SYNC), (.TOW_DECODED, .TOW_DECODED),
     (.MSEC_AMBIGUOUS, .MSEC_AMBIGUOUS), (.SYMBOL_SYNC, .SYMBOL_SYNC),
     (.GLO_STRING_SYNC, .GLO_STRING_SYNC), (.GLO_TOD_DECODED, .GLO_TOD_DECODED),
     (.BDS_D2_BIT_SYNC, .BDS_D2_BIT_SYNC), (.BDS_D2_SUBFRAME_SYNC, .BDS_D2_SUBFRAME_SYNC),
     (.GAL_E1BC_CODE_LOCK, .GAL_E1BC_CODE_LOCK), (.GAL_E1C_2ND_CODE_LOCK, .GAL_E1C_2ND_CODE_LOCK),
     (.GAL_E1B_PAGE_SYNC, .GAL_E1B_PAGE_SYNC), (.SBAS_SYNC, .SBAS_SYNC)] gnssMeasStateMask

def getPBMaskForGnssMeasurementsAdrStateMask (gnssMeasAdrStateMask : BitVec 32) : BitVec 32 :=
  translate GnssMeasurementsAdrStateBits PBGnssMeasurementsAdrStateMask
    [(.UNKNOWN, .UNKNOWN), (.VALID, .VALID), (.RESET, .RESET), (.CYCLE_SLIP, .CYCLE_SLIP)]
    gnssMeasAdrStateMask

def getGnssMeasurementsAdrStateMaskFromPB (pbGnssMeasAdrStateMask : BitVec 32) : BitVec 32 :=
  translate PBGnssMeasurementsAdrStateMask GnssMeasurementsAdrStateBits
    [(.VALID, .VALID), (.RESET, .RESET), (.CYCLE_SLIP, .CYCLE_SLIP)] pbGnssMeasAdrStateMask

def getPBMaskForGnssMeasurementsClockFlagsMask (gnssMeasClockFlagsMask : BitVec 32) : BitVec 32 :=
  translate GnssMeasurementsClockFlagsBits PBGnssMeasurementsClockFlagsMask
    [(.LEAP_SECOND, .LEAP_SECOND), (.TIME, .TIME), (.TIME_UNCERTAINTY, .TIME_UNCERTAINTY),
     (.FULL_BIAS, .FULL_BIAS), (.BIAS, .BIAS), (.BIAS_UNCERTAINTY, .BIAS_UNCERTAINTY),
     (.DRIFT, .DRIFT), (.DRIFT_UNCERTAINTY, .DRIFT_UNCERTAINTY),
     (.HW_CLOCK_DISCONTINUITY_COUNT, .HW_CLOCK_DISCONTINUITY_COUNT)] gnssMeasClockFlagsMask

def getGnssMeasurementsClockFlagsMaskFromPB (pbGnssMeasClockFlgMask : BitVec 32) : BitVec 32 :=
  translate PBGnssMeasurementsClockFlagsMask GnssMeasurementsClockFlagsBits
    [(.LEAP_SECOND, .LEAP_SECOND), (.TIME, .TIME), (.TIME_UNCERTAINTY, .TIME_UNCERTAINTY),
     (.FULL_BIAS, .FULL_BIAS), (.BIAS, .BIAS), (.BIAS_UNCERTAINTY, .BIAS_UNCERTAINTY),
     (.DRIFT, .DRIFT), (.DRIFT_UNCERTAINTY, .DRIFT_UNCERTAINTY),
     (.HW_CLOCK_DISCONTINUITY_COUNT, .HW_CLOCK_DISCONTINUITY_COUNT)] pbGnssMeasClockFlgMask

def getPBMaskForLocSysInfoMask (locSysInfoMask : BitVec 32) : BitVec 32 :=
  translate LocationSystemInfoDataBits PBLocationSystemInfoMask
    [(.LEAP_SECOND, .LEAP_SECOND)] locSysInfoMask

def getLocationSystemInfoMaskFromPB (pbLocSysInfoMask : BitVec 32) : BitVec 32 :=
  (flags PBLocationSystemInfoMask LocationSystemInfoDataBits [(.LEAP_SECOND, .LEAP_SECOND)]).onto
    pbLocSysInfoMask (word [PBLocationSystemInfoMask.INVALID])

def getPBMaskForLeapSecondSysInfoMask (leapSecSysInfoMask : BitVec 32) : BitVec 32 :=
  translate LeapSecondSysInfoDataBits PBLeapSecondSysInfoMask
    [(.CURRENT_LEAP_SECONDS, .CURRENT_LEAP_SECONDS), (.LEAP_SECOND_CHANGE, .LEAP_SECOND_CHANGE)]
    leapSecSysInfoMask

def getLeapSecSysInfoMaskFromPB (pbLeapSecSysInfoMask : BitVec 32) : BitVec 32 :=
  translate PBLeapSecondSysInfoMask LeapSecondSysInfoDataBits
    [(.CURRENT_LEAP_SECONDS, .CURRENT_LEAP_SECONDS), (.LEAP_SECOND_CHANGE, .LEAP_SECOND_CHANGE)]
    pbLeapSecSysInfoMask

/-! ## Configuration -/

def getPBMaskForGnssCfgRobustLocValidMask (gnssCfgRobustLocValidMask : BitVec 32) : BitVec 32 :=
  translate GnssConfigRobustLocationValidMask PBGnssConfigRobustLocationValidMask
    [(.ENABLED_VALID, .ENABLED_VALID), (.ENABLED_FOR_E911_VALID, .ENABLED_FOR_E911_VALID),
     (.VERSION_VALID, .VERSION_VALID)] gnssCfgRobustLocValidMask

def getGnssConfigRobustLocationValidMaskFromPB (pbGnssCfgRobstLocValidMask : BitVec 32) :
    BitVec 32 :=
  translate PBGnssConfigRobustLocationValidMask GnssConfigRobustLocationValidMask
    [(.ENABLED_VALID, .ENABLED_VALID), (.ENABLED_FOR_E911_VALID, .ENABLED_FOR_E911_VALID),
     (.VERSION_VALID, .VERSION_VALID)] pbGnssCfgRobstLocValidMask

def getPBMaskForGnssAidingDataSvMask (gnssAidDataSvMask : BitVec 32) : BitVec 32 :=
  translate GnssAidingDataSvBits PBLocApiGnssAidingDataSvMask
    [(.EPHEMERIS_BIT, .EPHEMERIS)] gnssAidDataSvMask

def getGnssAidingDataSvMaskFromPB (pbGnssAidDataSvMask : BitVec 32) : BitVec 32 :=
  translate PBLocApiGnssAidingDataSvMask GnssAidingDataSvBits
    [(.EPHEMERIS, .EPHEMERIS_BIT)] pbGnssAidDataSvMask

def getPBMaskForDrEngineAidingDataMask (drEngAidDataMask : BitVec 32) : BitVec 32 :=
  translate DrEngineAidingDataBits PBDrEngineAidingDataMask
    [(.CALIBRATION, .CALIBRATION)] drEngAidDataMask

def getDrEngineAidingDataMaskFromPB (pbDrEngAidDataMask : BitVec 32) : BitVec 32 :=
  translate PBDrEngineAidingDataMask DrEngineAidingDataBits
    [(.CALIBRATION, .CALIBRATION)] pbDrEngAidDataMask

def getPBMaskForLeverArmTypeMask (leverArmTypeMask : BitVec 32) : BitVec 32 :=
  translate LeverArmTypeBits PBLIALeverArmTypeMask
    [(.GNSS_TO_VRP, .GNSS_TO_VRP), (.DR_IMU_TO_GNSS, .DR_IMU_TO_GNSS),
     (.VEPP_IMU_TO_GNSS, .VEPP_IMU_TO_GNSS)] leverArmTypeMask

def getLeverArmTypeMaskFromPB (pbLeverTypeMask : BitVec 32) : BitVec 32 :=
  translate PBLIALeverArmTypeMask LeverArmTypeBits
    [(.GNSS_TO_VRP, .GNSS_TO_VRP), (.DR_IMU_TO_GNSS, .DR_IMU_TO_GNSS),
     (.VEPP_IMU_TO_GNSS, .VEPP_IMU_TO_GNSS)] pbLeverTypeMask

def getPBMaskForDeadReckoningEngineConfigValidMask (drEngCfgValidMask : BitVec 64) : BitVec 64 :=
  translate DeadReckoningEngineConfigValidBit PBDeadReckoningEngineConfigValidMask
    [(.BODY_TO_SENSOR_MOUNT_PARAMS, .BODY_TO_SENSOR_MOUNT_PARAMS),
     (.VEHICLE_SPEED_SCALE_FACTOR, .VEHICLE_SPEED_SCALE_FACTOR),
     (.VEHICLE_SPEED_SCALE_FACTOR_UNC, .VEHICLE_SPEED_SCALE_FACTOR_UNC),
     (.GYRO_SCALE_FACTOR, .GYRO_SCALE_FACTOR), (.GYRO_SCALE_FACTOR_UNC, .GYRO_SCALE_FACTOR_UNC)]
    drEngCfgValidMask

def getDeadReckoningEngineConfigValidMaskFromPB (pbDrEngCfgVldMask : BitVec 64) : BitVec 64 :=
  translate PBDeadReckoningEngineConfigValidMask DeadReckoningEngineConfigValidBit
    [(.BODY_TO_SENSOR_MOUNT_PARAMS, .BODY_TO_SENSOR_MOUNT_PARAMS),
     (.VEHICLE_SPEED_SCALE_FACTOR, .VEHICLE_SPEED_SCALE_FACTOR),
     (.VEHICLE_SPEED_SCALE_FACTOR_UNC, .VEHICLE_SPEED_SCALE_FACTOR_UNC),
     (.GYRO_SCALE_FACTOR, .GYRO_SCALE_FACTOR), (.GYRO_SCALE_FACTOR_UNC, .GYRO_SCALE_FACTOR_UNC)]
    pbDrEngCfgVldMask

end LocStack.MsgConv
