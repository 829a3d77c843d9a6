/-
# `LocStack.MsgConv.Enums` — the enumerations on their way into the messages and back

A variable of an enumeration, in the HAL as in a message, can have a value
that no member has (Open).  A function that translates one has a member to
give for those, and for the members it does not name.

Members go by their names without what all have in common.
-/
import Mathlib.Data.List.Basic

namespace LocStack.MsgConv

/-- What a variable of an enumeration can be. -/
inductive Open (E : Type) where
  | member (e : E)
  | other (value : Int32)

/-! ## Sessions -/

/-- LOCATION_* -/
inductive ClientType where
  | CLIENT_API | INTEGRATION_API

/-- PB_LOCATION_* -/
inductive PBClientType where
  | CLIENT_TYPE_INVALID | CLIENT_API | INTEGRATION_API

def getPBEnumForClientType : Open ClientType → PBClientType
  | .member .CLIENT_API => .CLIENT_API
  | _ => .INTEGRATION_API

def getEnumForPBClientType : Open PBClientType → ClientType
  | .member .INTEGRATION_API => .INTEGRATION_API
  | _ => .CLIENT_API

/-- GNSS_SUPL_MODE_* -/
inductive GnssSuplMode where
  | STANDALONE | MSB | MSA

/-- PB_GNSS_SUPL_MODE_* -/
inductive PBGnssSuplMode where
  | STANDALONE | MSB | MSA

def getPBEnumForGnssSuplMode : Open GnssSuplMode → PBGnssSuplMode
  | .member .STANDALONE => .STANDALONE
  | .member .MSB => .MSB
  | .member .MSA => .MSA
  | _ => .STANDALONE

def getEnumForPBGnssSuplMode : Open PBGnssSuplMode → GnssSuplMode
  | .member .MSB => .MSB
  | .member .MSA => .MSA
  | _ => .STANDALONE

/-- BATCHING_MODE_* -/
inductive BatchingMode where
  | ROUTINE | TRIP | NO_AUTO_REPORT

/-- PB_BATCHING_MODE_* -/
inductive PBBatchingMode where
  | ROUTINE | TRIP | NO_AUTO_REPORT

def getPBEnumForBatchingMode : Open BatchingMode → PBBatchingMode
  | .member .ROUTINE => .ROUTINE
  | .member .TRIP => .TRIP
  | .member .NO_AUTO_REPORT => .NO_AUTO_REPORT
  | _ => .ROUTINE

def getEnumForPBBatchingMode : Open PBBatchingMode → BatchingMode
  | .member .TRIP => .TRIP
  | .member .NO_AUTO_REPORT => .NO_AUTO_REPORT
  | _ => .ROUTINE

/-- BATCHING_STATUS_* -/
inductive BatchingStatus where
  | TRIP_COMPLETED | POSITION_AVAILABE | POSITION_UNAVAILABLE

/-- PB_BATCHING_STATUS_* -/
inductive PBBatchingStatus where
  | TRIP_COMPLETED | POSITION_AVAILABE | POSITION_UNAVAILABLE

def getPBEnumForBatchingStatus : Open BatchingStatus → PBBatchingStatus
  | .member .TRIP_COMPLETED => .TRIP_COMPLETED
  | .member .POSITION_AVAILABE => .POSITION_AVAILABE
  | .member .POSITION_UNAVAILABLE => .POSITION_UNAVAILABLE
  | _ => .POSITION_UNAVAILABLE

def getEnumForPBBatchingStatus : Open PBBatchingStatus → BatchingStatus
  | .member .TRIP_COMPLETED => .TRIP_COMPLETED
  | .member .POSITION_AVAILABE => .POSITION_AVAILABE
  | .member .POSITION_UNAVAILABLE => .POSITION_UNAVAILABLE
  | _ => .POSITION_UNAVAILABLE

/-- LOCATION_ERROR_* -/
inductive LocationError where
  | SUCCESS | GENERAL_FAILURE | CALLBACK_MISSING | INVALID_PARAMETER | ID_EXISTS | ID_UNKNOWN
  | ALREADY_STARTED | GEOFENCES_AT_MAX | NOT_SUPPORTED | TIMEOUT | GNSS_DISABLED

/-- PB_LOCATION_ERROR_* -/
inductive PBLocationError where
  | SUCCESS | INVALID_PARAMETER | NOT_SUPPORTED | GENERAL_FAILURE | TIMEOUT

def getPBEnumForLocationError : Open LocationError → PBLocationError
  | .member .SUCCESS => .SUCCESS
  | .member .INVALID_PARAMETER => .INVALID_PARAMETER
  | .member .NOT_SUPPORTED => .NOT_SUPPORTED
  | .member .TIMEOUT => .TIMEOUT
  | _ => .GENERAL_FAILURE

def getEnumForPBLocationError : Open PBLocationError → LocationError
  | .member .SUCCESS => .SUCCESS
  | .member .INVALID_PARAMETER => .INVALID_PARAMETER
  | .member .NOT_SUPPORTED => .NOT_SUPPORTED
  | .member .TIMEOUT => .TIMEOUT
  | _ => .GENERAL_FAILURE

/-- LOC_SESS_* -/
inductive LocSessStatus where
  | SUCCESS | INTERMEDIATE | FAILURE

/-- PB_LOCATION_SESS_* -/
inductive PBLocationSessionStatus where
  | SUCCESS | INTERMEDIATE | FAILURE

def getPBEnumForLocSessionStatus : Open LocSessStatus → PBLocationSessionStatus
  | .member .SUCCESS => .SUCCESS
  | .member .INTERMEDIATE => .INTERMEDIATE
  | _ => .FAILURE

def getLocSessionStatusFromPB : Open PBLocationSessionStatus → LocSessStatus
  | .member .SUCCESS => .SUCCESS
  | .member .INTERMEDIATE => .INTERMEDIATE
  | _ => .FAILURE

/-! ## Engines -/

/-- LOC_OUTPUT_ENGINE_*; COUNT is the length of an array with one place for each. -/
inductive LocOutputEngineType where
  | FUSED | SPE | PPE | VPE | COUNT

/-- PB_LOC_OUTPUT_ENGINE_* -/
inductive PBLocApiOutputEngineType where
  | FUSED | SPE | PPE | COUNT

def getPBEnumForLocOutputEngineType : Open LocOutputEngineType → PBLocApiOutputEngineType
  | .member .FUSED => .FUSED
  | .member .SPE => .SPE
  | .member .PPE => .PPE
  | _ => .FUSED

def getEnumForPBLocOutputEngineType : Open PBLocApiOutputEngineType → LocOutputEngineType
  | .member .FUSED => .FUSED
  | .member .SPE => .SPE
  | .member .PPE => .PPE
  | _ => .FUSED

/-- LOC_ENGINE_RUN_STATE_* -/
inductive LocEngineRunState where
  | PAUSE | RESUME

/-- PB_LOC_ENGINE_RUN_STATE_* -/
inductive PBLocEngineRunState where
  | INVALID | PAUSE | RESUME

def getPBEnumForLocEngineRunState : Open LocEngineRunState → PBLocEngineRunState
  | .member .PAUSE => .PAUSE
  | .member .RESUME => .RESUME
  | _ => .INVALID

/-- No member of the HAL enumeration is 0. -/
def getEnumForPBLocEngineRunState : Open PBLocEngineRunState → Open LocEngineRunState
  | .member .PAUSE => .member .PAUSE
  | .member .RESUME => .member .RESUME
  | _ => .other 0

/-! ## Fixes, satellites and measurements -/

/-- LOCATION_RELIABILITY_* -/
inductive LocationReliability where
  | NOT_SET | VERY_LOW | LOW | MEDIUM | HIGH

/-- PB_LOCATION_RELIABILITY_* -/
inductive PBLocationReliability where
  | NOT_SET | VERY_LOW | LOW | MEDIUM | HIGH

def getPBEnumForLocationReliability : Open LocationReliability → PBLocationReliability
  | .member .NOT_SET => .NOT_SET
  | .member .VERY_LOW => .VERY_LOW
  | .member .LOW => .LOW
  | .member .MEDIUM => .MEDIUM
  | .member .HIGH => .HIGH
  | _ => .NOT_SET

def getEnumForPBLocReliability : Open PBLocationReliability → LocationReliability
  | .member .NOT_SET => .NOT_SET
  | .member .VERY_LOW => .VERY_LOW
  | .member .LOW => .LOW
  | .member .MEDIUM => .MEDIUM
  | .member .HIGH => .HIGH
  | _ => .NOT_SET

/-- GNSS_MEASUREMENTS_MULTIPATH_INDICATOR_* -/
inductive GnssMeasurementsMultipathIndicator where
  | UNKNOWN | PRESENT | NOT_PRESENT

/-- PB_GNSS_MEASUREMENTS_MULTIPATH_INDICATOR_* -/
inductive PBGnssMeasurementsMultipathIndicator where
  | UNKNOWN | PRESENT | NOT_PRESENT

def getPBEnumForGnssMeasMultiPathIndic :
    Open GnssMeasurementsMultipathIndicator → PBGnssMeasurementsMultipathIndicator
  | .member .UNKNOWN => .UNKNOWN
  | .member .PRESENT => .PRESENT
  | .member .NOT_PRESENT => .NOT_PRESENT
  | _ => .UNKNOWN

def getEnumForPBGnssMeasMultipathIndic :
    Open PBGnssMeasurementsMultipathIndicator → GnssMeasurementsMultipathIndicator
  | .member .UNKNOWN => .UNKNOWN
  | .member .PRESENT => .PRESENT
  | .member .NOT_PRESENT => .NOT_PRESENT
  | _ => .UNKNOWN

/-- GNSS_LOC_SV_SYSTEM_*, of which MIN is GPS and MAX is NAVIC. -/
inductive Gnss_LocSvSystemEnumType where
  | UNKNOWN | GPS | GALILEO | SBAS | GLONASS | BDS | QZSS | NAVIC

/-- GNSS_SV_TYPE_* -/
inductive GnssSvType where
  | UNKNOWN | GPS | SBAS | GLONASS | QZSS | BEIDOU | GALILEO | NAVIC

/-- PB_GNSS_LOC_SV_SYSTEM_* -/
inductive PBLocApiGnss_LocSvSystemEnumType where
  | INVALID | GPS | GALILEO | SBAS | GLONASS | BDS | QZSS | NAVIC

def getPBEnumForGnssLocSvSystem : Open Gnss_LocSvSystemEnumType → PBLocApiGnss_LocSvSystemEnumType
  | .member .GPS => .GPS
  | .member .GALILEO => .GALILEO
  | .member .SBAS => .SBAS
  | .member .GLONASS => .GLONASS
  | .member .BDS => .BDS
  | .member .QZSS => .QZSS
  | .member .NAVIC => .NAVIC
  | _ => .INVALID

def getEnumForPBGnssLocSvSystem : Open PBLocApiGnss_LocSvSystemEnumType → Gnss_LocSvSystemEnumType
  | .member .INVALID => .UNKNOWN
  | .member .GPS => .GPS
  | .member .GALILEO => .GALILEO
  | .member .SBAS => .SBAS
  | .member .GLONASS => .GLONASS
  | .member .BDS => .BDS
  | .member .QZSS => .QZSS
  | .member .NAVIC => .NAVIC
  | _ => .UNKNOWN

def getPBGnssLocSvSysEnumFromGnssSvType : Open GnssSvType → PBLocApiGnss_LocSvSystemEnumType
  | .member .UNKNOWN => .INVALID
  | .member .GPS => .GPS
  | .member .SBAS => .SBAS
  | .member .GLONASS => .GLONASS
  | .member .QZSS => .QZSS
  | .member .BEIDOU => .BDS
  | .member .GALILEO => .GALILEO
  | .member .NAVIC => .NAVIC
  | _ => .INVALID

def getGnssSvTypeFromPBGnssLocSvSystemEnumType : Open PBLocApiGnss_LocSvSystemEnumType → GnssSvType
  | .member .GPS => .GPS
  | .member .GALILEO => .GALILEO
  | .member .SBAS => .SBAS
  | .member .GLONASS => .GLONASS
  | .member .BDS => .BEIDOU
  | .member .QZSS => .QZSS
  | .member .NAVIC => .NAVIC
  | _ => .UNKNOWN

/-! ## Message ids -/

/-- E_*_MSG_ID -/
inductive ELocMsgID where
  | LOCAPI_UNDEFINED | LOCAPI_CLIENT_REGISTER | LOCAPI_CLIENT_DEREGISTER | LOCAPI_CAPABILILTIES
  | LOCAPI_HAL_READY | LOCAPI_START_TRACKING | LOCAPI_STOP_TRACKING | LOCAPI_UPDATE_CALLBACKS
  | LOCAPI_UPDATE_TRACKING_OPTIONS | LOCAPI_CONTROL_UPDATE_CONFIG
  | LOCAPI_CONTROL_DELETE_AIDING_DATA | LOCAPI_CONTROL_UPDATE_NETWORK_AVAILABILITY | LOCAPI_LOCATION
  | LOCAPI_LOCATION_INFO | LOCAPI_SATELLITE_VEHICLE | LOCAPI_NMEA | LOCAPI_DATA
  | LOCAPI_GET_GNSS_ENGERY_CONSUMED | LOCAPI_LOCATION_SYSTEM_INFO | LOCAPI_ENGINE_LOCATIONS_INFO
  | LOCAPI_START_BATCHING | LOCAPI_STOP_BATCHING | LOCAPI_UPDATE_BATCHING_OPTIONS | LOCAPI_BATCHING
  | LOCAPI_ADD_GEOFENCES | LOCAPI_REMOVE_GEOFENCES | LOCAPI_MODIFY_GEOFENCES
  | LOCAPI_PAUSE_GEOFENCES | LOCAPI_RESUME_GEOFENCES | LOCAPI_GEOFENCE_BREACH | LOCAPI_MEAS
  | LOCAPI_GET_SINGLE_TERRESTRIAL_POS_REQ | LOCAPI_GET_SINGLE_TERRESTRIAL_POS_RESP | LOCAPI_PINGTEST
  | INTAPI_CONFIG_CONSTRAINTED_TUNC | INTAPI_CONFIG_POSITION_ASSISTED_CLOCK_ESTIMATOR
  | INTAPI_CONFIG_SV_CONSTELLATION | INTAPI_CONFIG_AIDING_DATA_DELETION | INTAPI_CONFIG_LEVER_ARM
  | INTAPI_CONFIG_ROBUST_LOCATION | INTAPI_CONFIG_MIN_GPS_WEEK | INTAPI_CONFIG_DEAD_RECKONING_ENGINE
  | INTAPI_CONFIG_MIN_SV_ELEVATION | INTAPI_CONFIG_CONSTELLATION_SECONDARY_BAND
  | INTAPI_CONFIG_ENGINE_RUN_STATE | INTAPI_CONFIG_USER_CONSENT_TERRESTRIAL_POSITIONING
  | INTAPI_GET_ROBUST_LOCATION_CONFIG_REQ | INTAPI_GET_ROBUST_LOCATION_CONFIG_RESP
  | INTAPI_GET_MIN_GPS_WEEK_REQ | INTAPI_GET_MIN_GPS_WEEK_RESP | INTAPI_GET_MIN_SV_ELEVATION_REQ
  | INTAPI_GET_MIN_SV_ELEVATION_RESP | INTAPI_GET_CONSTELLATION_SECONDARY_BAND_CONFIG_REQ
  | INTAPI_GET_CONSTELLATION_SECONDARY_BAND_CONFIG_RESP

/-- PB_E_*_MSG_ID -/
inductive PBELocMsgID where
  | LOCAPI_UNDEFINED | LOCAPI_CLIENT_REGISTER | LOCAPI_CLIENT_DEREGISTER | LOCAPI_CAPABILILTIES
  | LOCAPI_HAL_READY | LOCAPI_START_TRACKING | LOCAPI_STOP_TRACKING | LOCAPI_UPDATE_CALLBACKS
  | LOCAPI_UPDATE_TRACKING_OPTIONS | LOCAPI_CONTROL_UPDATE_CONFIG
  | LOCAPI_CONTROL_DELETE_AIDING_DATA | LOCAPI_CONTROL_UPDATE_NETWORK_AVAILABILITY | LOCAPI_LOCATION
  | LOCAPI_LOCATION_INFO | LOCAPI_SATELLITE_VEHICLE | LOCAPI_NMEA | LOCAPI_DATA
  | LOCAPI_GET_GNSS_ENGERY_CONSUMED | LOCAPI_LOCATION_SYSTEM_INFO | LOCAPI_ENGINE_LOCATIONS_INFO
  | LOCAPI_START_BATCHING | LOCAPI_STOP_BATCHING | LOCAPI_UPDATE_BATCHING_OPTIONS | LOCAPI_BATCHING
  | LOCAPI_ADD_GEOFENCES | LOCAPI_REMOVE_GEOFENCES | LOCAPI_MODIFY_GEOFENCES
  | LOCAPI_PAUSE_GEOFENCES | LOCAPI_RESUME_GEOFENCES | LOCAPI_GEOFENCE_BREACH | LOCAPI_MEAS
  | LOCAPI_GET_SINGLE_TERRESTRIAL_POS_REQ | LOCAPI_GET_SINGLE_TERRESTRIAL_POS_RESP | LOCAPI_PINGTEST
  | INTAPI_CONFIG_CONSTRAINTED_TUNC | INTAPI_CONFIG_POSITION_ASSISTED_CLOCK_ESTIMATOR
  | INTAPI_CONFIG_SV_CONSTELLATION | INTAPI_CONFIG_AIDING_DATA_DELETION | INTAPI_CONFIG_LEVER_ARM
  | INTAPI_CONFIG_ROBUST_LOCATION | INTAPI_CONFIG_MIN_GPS_WEEK | INTAPI_CONFIG_DEAD_RECKONING_ENGINE
  | INTAPI_CONFIG_MIN_SV_ELEVATION | INTAPI_CONFIG_CONSTELLATION_SECONDARY_BAND
  | INTAPI_CONFIG_ENGINE_RUN_STATE | INTAPI_CONFIG_USER_CONSENT_TERRESTRIAL_POSITIONING
  | INTAPI_GET_ROBUST_LOCATION_CONFIG_REQ | INTAPI_GET_ROBUST_LOCATION_CONFIG_RESP
  | INTAPI_GET_MIN_GPS_WEEK_REQ | INTAPI_GET_MIN_GPS_WEEK_RESP | INTAPI_GET_MIN_SV_ELEVATION_REQ
  | INTAPI_GET_MIN_SV_ELEVATION_RESP | INTAPI_GET_CONSTELLATION_SECONDARY_BAND_CONFIG_REQ
  | INTAPI_GET_CONSTELLATION_SECONDARY_BAND_CONFIG_RESP

def getPBEnumForELocMsgID : Open ELocMsgID → PBELocMsgID
  | .member .LOCAPI_CLIENT_REGISTER => .LOCAPI_CLIENT_REGISTER
  | .member .LOCAPI_CLIENT_DEREGISTER => .LOCAPI_CLIENT_DEREGISTER
  | .member .LOCAPI_CAPABILILTIES => .LOCAPI_CAPABILILTIES
  | .member .LOCAPI_HAL_READY => .LOCAPI_HAL_READY
  | .member .LOCAPI_START_TRACKING => .LOCAPI_START_TRACKING
  | .member .LOCAPI_STOP_TRACKING => .LOCAPI_STOP_TRACKING
  | .member .LOCAPI_UPDATE_CALLBACKS => .LOCAPI_UPDATE_CALLBACKS
  | .member .LOCAPI_UPDATE_TRACKING_OPTIONS => .LOCAPI_UPDATE_TRACKING_OPTIONS
  | .member .LOCAPI_CONTROL_UPDATE_CONFIG => .LOCAPI_CONTROL_UPDATE_CONFIG
  | .member .LOCAPI_CONTROL_DELETE_AIDING_DATA => .LOCAPI_CONTROL_DELETE_AIDING_DATA
  | .member .LOCAPI_CONTROL_UPDATE_NETWORK_AVAILABILITY =>
    .LOCAPI_CONTROL_UPDATE_NETWORK_AVAILABILITY
  | .member .LOCAPI_LOCATION => .LOCAPI_LOCATION
  | .member .LOCAPI_LOCATION_INFO => .LOCAPI_LOCATION_INFO
  | .member .LOCAPI_SATELLITE_VEHICLE => .LOCAPI_SATELLITE_VEHICLE
  | .member .LOCAPI_NMEA => .LOCAPI_NMEA
  | .member .LOCAPI_DATA => .LOCAPI_DATA
  | .member .LOCAPI_GET_GNSS_ENGERY_CONSUMED => .LOCAPI_GET_GNSS_ENGERY_CONSUMED
  | .member .LOCAPI_LOCATION_SYSTEM_INFO => .LOCAPI_LOCATION_SYSTEM_INFO
  | .member .LOCAPI_ENGINE_LOCATIONS_INFO => .LOCAPI_ENGINE_LOCATIONS_INFO
  | .member .LOCAPI_START_BATCHING => .LOCAPI_START_BATCHING
  | .member .LOCAPI_STOP_BATCHING => .LOCAPI_STOP_BATCHING
  | .member .LOCAPI_UPDATE_BATCHING_OPTIONS => .LOCAPI_UPDATE_BATCHING_OPTIONS
  | .member .LOCAPI_BATCHING => .LOCAPI_BATCHING
  | .member .LOCAPI_ADD_GEOFENCES => .LOCAPI_ADD_GEOFENCES
  | .member .LOCAPI_REMOVE_GEOFENCES => .LOCAPI_REMOVE_GEOFENCES
  | .member .LOCAPI_MODIFY_GEOFENCES => .LOCAPI_MODIFY_GEOFENCES
  | .member .LOCAPI_PAUSE_GEOFENCES => .LOCAPI_PAUSE_GEOFENCES
  | .member .LOCAPI_RESUME_GEOFENCES => .LOCAPI_RESUME_GEOFENCES
  | .member .LOCAPI_GEOFENCE_BREACH => .LOCAPI_GEOFENCE_BREACH
  | .member .LOCAPI_MEAS => .LOCAPI_MEAS
  | .member .LOCAPI_GET_SINGLE_TERRESTRIAL_POS_REQ => .LOCAPI_GET_SINGLE_TERRESTRIAL_POS_REQ
  | .member .LOCAPI_GET_SINGLE_TERRESTRIAL_POS_RESP => .LOCAPI_GET_SINGLE_TERRESTRIAL_POS_RESP
  | .member .LOCAPI_PINGTEST => .LOCAPI_PINGTEST
  | .member .INTAPI_CONFIG_CONSTRAINTED_TUNC => .INTAPI_CONFIG_CONSTRAINTED_TUNC
  | .member .INTAPI_CONFIG_POSITION_ASSISTED_CLOCK_ESTIMATOR =>
    .INTAPI_CONFIG_POSITION_ASSISTED_CLOCK_ESTIMATOR
  | .member .INTAPI_CONFIG_SV_CONSTELLATION => .INTAPI_CONFIG_SV_CONSTELLATION
  | .member .INTAPI_CONFIG_AIDING_DATA_DELETION => .INTAPI_CONFIG_AIDING_DATA_DELETION
  | .member .INTAPI_CONFIG_LEVER_ARM => .INTAPI_CONFIG_LEVER_ARM
  | .member .INTAPI_CONFIG_ROBUST_LOCATION => .INTAPI_CONFIG_ROBUST_LOCATION
  | .member .INTAPI_CONFIG_MIN_GPS_WEEK => .INTAPI_CONFIG_MIN_GPS_WEEK
  | .member .INTAPI_CONFIG_DEAD_RECKONING_ENGINE => .INTAPI_CONFIG_DEAD_RECKONING_ENGINE
  | .member .INTAPI_CONFIG_MIN_SV_ELEVATION => .INTAPI_CONFIG_MIN_SV_ELEVATION
  | .member .INTAPI_CONFIG_CONSTELLATION_SECONDARY_BAND =>
    .INTAPI_CONFIG_CONSTELLATION_SECONDARY_BAND
  | .member .INTAPI_CONFIG_ENGINE_RUN_STATE => .INTAPI_CONFIG_ENGINE_RUN_STATE
  | .member .INTAPI_CONFIG_USER_CONSENT_TERRESTRIAL_POSITIONING =>
    .INTAPI_CONFIG_USER_CONSENT_TERRESTRIAL_POSITIONING
  | .member .INTAPI_GET_ROBUST_LOCATION_CONFIG_REQ => .INTAPI_GET_ROBUST_LOCATION_CONFIG_REQ
  | .member .INTAPI_GET_ROBUST_LOCATION_CONFIG_RESP => .INTAPI_GET_ROBUST_LOCATION_CONFIG_RESP
  | .member .INTAPI_GET_MIN_GPS_WEEK_REQ => .INTAPI_GET_MIN_GPS_WEEK_REQ
  | .member .INTAPI_GET_MIN_GPS_WEEK_RESP => .INTAPI_GET_MIN_GPS_WEEK_RESP
  | .member .INTAPI_GET_MIN_SV_ELEVATION_REQ => .INTAPI_GET_MIN_SV_ELEVATION_REQ
  | .member .INTAPI_GET_MIN_SV_ELEVATION_RESP => .INTAPI_GET_MIN_SV_ELEVATION_RESP
  | .member .INTAPI_GET_CONSTELLATION_SECONDARY_BAND_CONFIG_REQ =>
    .INTAPI_GET_CONSTELLATION_SECONDARY_BAND_CONFIG_REQ
  | .member .INTAPI_GET_CONSTELLATION_SECONDARY_BAND_CONFIG_RESP =>
    .INTAPI_GET_CONSTELLATION_SECONDARY_BAND_CONFIG_RESP
  | _ => .LOCAPI_UNDEFINED

def getEnumForPBELocMsgID : Open PBELocMsgID → ELocMsgID
  | .member .LOCAPI_UNDEFINED => .LOCAPI_UNDEFINED
  | .member .LOCAPI_CLIENT_REGISTER => .LOCAPI_CLIENT_REGISTER
  | .member .LOCAPI_CLIENT_DEREGISTER => .LOCAPI_CLIENT_DEREGISTER
  | .member .LOCAPI_CAPABILILTIES => .LOCAPI_CAPABILILTIES
  | .member .LOCAPI_HAL_READY => .LOCAPI_HAL_READY
  | .member .LOCAPI_START_TRACKING => .LOCAPI_START_TRACKING
  | .member .LOCAPI_STOP_TRACKING => .LOCAPI_STOP_TRACKING
  | .member .LOCAPI_UPDATE_CALLBACKS => .LOCAPI_UPDATE_CALLBACKS
  | .member .LOCAPI_UPDATE_TRACKING_OPTIONS => .LOCAPI_UPDATE_TRACKING_OPTIONS
  | .member .LOCAPI_CONTROL_UPDATE_CONFIG => .LOCAPI_CONTROL_UPDATE_CONFIG
  | .member .LOCAPI_CONTROL_DELETE_AIDING_DATA => .LOCAPI_CONTROL_DELETE_AIDING_DATA
  | .member .LOCAPI_CONTROL_UPDATE_NETWORK_AVAILABILITY =>
    .LOCAPI_CONTROL_UPDATE_NETWORK_AVAILABILITY
  | .member .LOCAPI_LOCATION => .LOCAPI_LOCATION
  | .member .LOCAPI_LOCATION_INFO => .LOCAPI_LOCATION_INFO
  | .member .LOCAPI_SATELLITE_VEHICLE => .LOCAPI_SATELLITE_VEHICLE
  | .member .LOCAPI_NMEA => .LOCAPI_NMEA
  | .member .LOCAPI_DATA => .LOCAPI_DATA
  | .member .LOCAPI_GET_GNSS_ENGERY_CONSUMED => .LOCAPI_GET_GNSS_ENGERY_CONSUMED
  | .member .LOCAPI_LOCATION_SYSTEM_INFO => .LOCAPI_LOCATION_SYSTEM_INFO
  | .member .LOCAPI_ENGINE_LOCATIONS_INFO => .LOCAPI_ENGINE_LOCATIONS_INFO
  | .member .LOCAPI_START_BATCHING => .LOCAPI_START_BATCHING
  | .member .LOCAPI_STOP_BATCHING => .LOCAPI_STOP_BATCHING
  | .member .LOCAPI_UPDATE_BATCHING_OPTIONS => .LOCAPI_UPDATE_BATCHING_OPTIONS
  | .member .LOCAPI_BATCHING => .LOCAPI_BATCHING
  | .member .LOCAPI_ADD_GEOFENCES => .LOCAPI_ADD_GEOFENCES
  | .member .LOCAPI_REMOVE_GEOFENCES => .LOCAPI_REMOVE_GEOFENCES
  | .member .LOCAPI_MODIFY_GEOFENCES => .LOCAPI_MODIFY_GEOFENCES
  | .member .LOCAPI_PAUSE_GEOFENCES => .LOCAPI_PAUSE_GEOFENCES
  | .member .LOCAPI_RESUME_GEOFENCES => .LOCAPI_RESUME_GEOFENCES
  | .member .LOCAPI_GEOFENCE_BREACH => .LOCAPI_GEOFENCE_BREACH
  | .member .LOCAPI_MEAS => .LOCAPI_MEAS
  | .member .LOCAPI_GET_SINGLE_TERRESTRIAL_POS_REQ => .LOCAPI_GET_SINGLE_TERRESTRIAL_POS_REQ
  | .member .LOCAPI_GET_SINGLE_TERRESTRIAL_POS_RESP => .LOCAPI_GET_SINGLE_TERRESTRIAL_POS_RESP
  | .member .LOCAPI_PINGTEST => .LOCAPI_PINGTEST
  | .member .INTAPI_CONFIG_CONSTRAINTED_TUNC => .INTAPI_CONFIG_CONSTRAINTED_TUNC
  | .member .INTAPI_CONFIG_POSITION_ASSISTED_CLOCK_ESTIMATOR =>
    .INTAPI_CONFIG_POSITION_ASSISTED_CLOCK_ESTIMATOR
  | .member .INTAPI_CONFIG_SV_CONSTELLATION => .INTAPI_CONFIG_SV_CONSTELLATION
  | .member .INTAPI_CONFIG_AIDING_DATA_DELETION => .INTAPI_CONFIG_AIDING_DATA_DELETION
  | .member .INTAPI_CONFIG_LEVER_ARM => .INTAPI_CONFIG_LEVER_ARM
  | .member .INTAPI_CONFIG_ROBUST_LOCATION => .INTAPI_CONFIG_ROBUST_LOCATION
  | .member .INTAPI_CONFIG_MIN_GPS_WEEK => .INTAPI_CONFIG_MIN_GPS_WEEK
  | .member .INTAPI_CONFIG_DEAD_RECKONING_ENGINE => .INTAPI_CONFIG_DEAD_RECKONING_ENGINE
  | .member .INTAPI_CONFIG_MIN_SV_ELEVATION => .INTAPI_CONFIG_MIN_SV_ELEVATION
  | .member .INTAPI_CONFIG_CONSTELLATION_SECONDARY_BAND =>
    .INTAPI_CONFIG_CONSTELLATION_SECONDARY_BAND
  | .member .INTAPI_CONFIG_ENGINE_RUN_STATE => .INTAPI_CONFIG_ENGINE_RUN_STATE
  | .member .INTAPI_CONFIG_USER_CONSENT_TERRESTRIAL_POSITIONING =>
    .INTAPI_CONFIG_USER_CONSENT_TERRESTRIAL_POSITIONING
  | .member .INTAPI_GET_ROBUST_LOCATION_CONFIG_REQ => .INTAPI_GET_ROBUST_LOCATION_CONFIG_REQ
  | .member .INTAPI_GET_ROBUST_LOCATION_CONFIG_RESP => .INTAPI_GET_ROBUST_LOCATION_CONFIG_RESP
  | .member .INTAPI_GET_MIN_GPS_WEEK_REQ => .INTAPI_GET_MIN_GPS_WEEK_REQ
  | .member .INTAPI_GET_MIN_GPS_WEEK_RESP => .INTAPI_GET_MIN_GPS_WEEK_RESP
  | .member .INTAPI_GET_MIN_SV_ELEVATION_REQ => .INTAPI_GET_MIN_SV_ELEVATION_REQ
  | .member .INTAPI_GET_MIN_SV_ELEVATION_RESP => .INTAPI_GET_MIN_SV_ELEVATION_RESP
  | .member .INTAPI_GET_CONSTELLATION_SECONDARY_BAND_CONFIG_REQ =>
    .INTAPI_GET_CONSTELLATION_SECONDARY_BAND_CONFIG_REQ
  | .member .INTAPI_GET_CONSTELLATION_SECONDARY_BAND_CONFIG_RESP =>
    .INTAPI_GET_CONSTELLATION_SECONDARY_BAND_CONFIG_RESP
  | _ => .LOCAPI_UNDEFINED

end LocStack.MsgConv
