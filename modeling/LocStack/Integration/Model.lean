/-
# `LocStack.Integration.Model` — the requests of LocationIntegrationApiImpl

A call of the integration API becomes a message to the location HAL daemon,
sent by the task of the API.  Nine of the calls are settings, and what they
set is kept for a daemon that restarts:

    CONFIG_CONSTELLATIONS                   mSvConfigInfo
    CONFIG_CONSTELLATION_SECONDARY_BAND     mSvConfigInfo, under the same isValid
    CONFIG_LEVER_ARM                        mLeverArmConfigInfo, replaced as a whole
    CONFIG_ENGINE_RUN_STATE                 mEngRunStateConfigMap, a state for each
                                            mask of engines
    CONFIG_CONSTRAINED_TIME_UNCERTAINTY, CONFIG_POSITION_ASSISTED_CLOCK_ESTIMATOR,
    CONFIG_ROBUST_LOCATION, CONFIG_DEAD_RECKONING_ENGINE,
    CONFIG_USER_CONSENT_TERRESTRIAL_POSITIONING
                                            a structure each, with an isValid

`processHalReadyMsg` sends what is kept to the new daemon (`cachedMsgs`),
through the same `sendConfigMsgToHalDaemon` as the calls: it counts the
message as a request in mConfigReqCntMap, or has configCb told that it was
not sent.  Serialisation is taken to succeed, floats are their bits, and the
requests carry the fields that are sent but for the aiding data.
-/
import LocStack.Gnss.SvConfig
import LocStack.MsgConv.Enums

namespace LocStack.Integration

open Gnss (GnssSvTypeConfig GnssSvIdConfig)
open MsgConv (LocationError)

/-! ## Data types -/

/-- A float, by its bits. -/
abbrev Float32 := BitVec 32

inductive LocConfigTypeEnum where
  | CONFIG_CONSTELLATIONS | CONFIG_CONSTRAINED_TIME_UNCERTAINTY
  | CONFIG_POSITION_ASSISTED_CLOCK_ESTIMATOR | CONFIG_AIDING_DATA_DELETION | CONFIG_LEVER_ARM
  | CONFIG_ROBUST_LOCATION | CONFIG_MIN_GPS_WEEK | CONFIG_DEAD_RECKONING_ENGINE
  | CONFIG_MIN_SV_ELEVATION | CONFIG_CONSTELLATION_SECONDARY_BAND | CONFIG_ENGINE_RUN_STATE
  | CONFIG_USER_CONSENT_TERRESTRIAL_POSITIONING | GET_ROBUST_LOCATION_CONFIG | GET_MIN_GPS_WEEK
  | GET_MIN_SV_ELEVATION | GET_CONSTELLATION_SECONDARY_BAND_CONFIG
  deriving DecidableEq

inductive LocIntegrationResponse where
  | SUCCESS | FAILURE | NOT_SUPPORTED | PARAM_INVALID

/-- E_INTAPI_*_MSG_ID -/
inductive ELocMsgID where
  | CONFIG_CONSTRAINTED_TUNC | CONFIG_POSITION_ASSISTED_CLOCK_ESTIMATOR | CONFIG_SV_CONSTELLATION
  | CONFIG_AIDING_DATA_DELETION | CONFIG_LEVER_ARM | CONFIG_ROBUST_LOCATION | CONFIG_MIN_GPS_WEEK
  | CONFIG_DEAD_RECKONING_ENGINE | CONFIG_MIN_SV_ELEVATION | CONFIG_CONSTELLATION_SECONDARY_BAND
  | CONFIG_ENGINE_RUN_STATE | CONFIG_USER_CONSENT_TERRESTRIAL_POSITIONING
  | GET_ROBUST_LOCATION_CONFIG_REQ | GET_ROBUST_LOCATION_CONFIG_RESP | GET_MIN_GPS_WEEK_REQ
  | GET_MIN_GPS_WEEK_RESP | GET_MIN_SV_ELEVATION_REQ | GET_MIN_SV_ELEVATION_RESP
  | GET_CONSTELLATION_SECONDARY_BAND_CONFIG_REQ | GET_CONSTELLATION_SECONDARY_BAND_CONFIG_RESP

structure LeverArmParams where
  (forwardOffsetMeters sidewaysOffsetMeters upOffsetMeters : Float32)
  deriving DecidableEq

inductive LeverArmType where
  | GNSS_TO_VRP | DR_IMU_TO_GNSS | VEPP_IMU_TO_GNSS

def LeverArmType.bit : LeverArmType → BitVec 32
  | .GNSS_TO_VRP => 1#32
  | .DR_IMU_TO_GNSS => 2#32
  | .VEPP_IMU_TO_GNSS => 4#32

structure LeverArmConfigInfo where
  leverArmValidMask : BitVec 32
  (gnssToVRP drImuToGnss veppImuToGnss : LeverArmParams)
  deriving DecidableEq

structure BodyToSensorMountParams where
  (rollOffset yawOffset pitchOffset offsetUnc : Float32)
  deriving DecidableEq

structure DeadReckoningEngineConfig where
  validMask : BitVec 64
  bodyToSensorMountParams : BodyToSensorMountParams
  (vehicleSpeedScaleFactor vehicleSpeedScaleFactorUnc gyroScaleFactor gyroScaleFactorUnc : Float32)
  deriving DecidableEq

abbrev PositioningEngineMask := BitVec 32

inductive PositioningEngine where
  | STANDARD_POSITIONING_ENGINE | DEAD_RECKONING_ENGINE | PRECISE_POSITIONING_ENGINE
  | VP_POSITIONING_ENGINE

def PositioningEngine.bit : PositioningEngine → PositioningEngineMask
  | .STANDARD_POSITIONING_ENGINE => 1#32
  | .DEAD_RECKONING_ENGINE => 2#32
  | .PRECISE_POSITIONING_ENGINE => 4#32
  | .VP_POSITIONING_ENGINE => 8#32

/-- LOC_ENGINE_RUN_STATE_* -/
inductive LocEngineRunState where
  | PAUSE | RESUME
  deriving DecidableEq

/-! ## The calls, and the messages they send -/

/-- A call of the API, and the request message it sends. -/
inductive ConfigReq where
  | configConstellations (constellationEnablementConfig : GnssSvTypeConfig)
      (blacklistSvConfig : GnssSvIdConfig)
  | configConstellationSecondaryBand (secondaryBandConfig : GnssSvTypeConfig)
  | configConstrainedTimeUncertainty (enable : Bool) (tuncThreshold : Float32)
      (energyBudget : UInt32)
  | configPositionAssistedClockEstimator (enable : Bool)
  | gnssDeleteAidingData
  | configLeverArm (configInfo : LeverArmConfigInfo)
  | configRobustLocation (enable enableForE911 : Bool)
  | configMinGpsWeek (minGpsWeek : UInt16)
  | configDeadReckoningEngineParams (dreConfig : DeadReckoningEngineConfig)
  | configMinSvElevation (minSvElevation : UInt8)
  | configEngineRunState (engType : PositioningEngineMask) (engState : LocEngineRunState)
  | setUserConsentForTerrestrialPositioning (userConsent : Bool)
  | getRobustLocationConfig | getMinGpsWeek | getMinSvElevation
  | getConstellationSecondaryBandConfig
  deriving DecidableEq

/-- The type a request is sent under. -/
def ConfigReq.configType : ConfigReq → LocConfigTypeEnum
  | .configConstellations .. => .CONFIG_CONSTELLATIONS
  | .configConstellationSecondaryBand .. => .CONFIG_CONSTELLATION_SECONDARY_BAND
  | .configConstrainedTimeUncertainty .. => .CONFIG_CONSTRAINED_TIME_UNCERTAINTY
  | .configPositionAssistedClockEstimator .. => .CONFIG_POSITION_ASSISTED_CLOCK_ESTIMATOR
  | .gnssDeleteAidingData => .CONFIG_AIDING_DATA_DELETION
  | .configLeverArm .. => .CONFIG_LEVER_ARM
  | .configRobustLocation .. => .CONFIG_ROBUST_LOCATION
  | .configMinGpsWeek .. => .CONFIG_MIN_GPS_WEEK
  | .configDeadReckoningEngineParams .. => .CONFIG_DEAD_RECKONING_ENGINE
  | .configMinSvElevation .. => .CONFIG_MIN_SV_ELEVATION
  | .configEngineRunState .. => .CONFIG_ENGINE_RUN_STATE
  | .setUserConsentForTerrestrialPositioning .. => .CONFIG_USER_CONSENT_TERRESTRIAL_POSITIONING
  | .getRobustLocationConfig => .GET_ROBUST_LOCATION_CONFIG
  | .getMinGpsWeek => .GET_MIN_GPS_WEEK
  | .getMinSvElevation => .GET_MIN_SV_ELEVATION
  | .getConstellationSecondaryBandConfig => .GET_CONSTELLATION_SECONDARY_BAND_CONFIG

/-- The id the constructor of the request message gives it, which is that of
the answer too. -/
def ConfigReq.msgId : ConfigReq → ELocMsgID
  | .configConstellations .. => .CONFIG_SV_CONSTELLATION
  | .configConstellationSecondaryBand .. => .CONFIG_CONSTELLATION_SECONDARY_BAND
  | .configConstrainedTimeUncertainty .. => .CONFIG_CONSTRAINTED_TUNC
  | .configPositionAssistedClockEstimator .. => .CONFIG_POSITION_ASSISTED_CLOCK_ESTIMATOR
  | .gnssDeleteAidingData => .CONFIG_AIDING_DATA_DELETION
  | .configLeverArm .. => .CONFIG_LEVER_ARM
  | .configRobustLocation .. => .CONFIG_ROBUST_LOCATION
  | .configMinGpsWeek .. => .CONFIG_MIN_GPS_WEEK
  | .configDeadReckoningEngineParams .. => .CONFIG_DEAD_RECKONING_ENGINE
  | .configMinSvElevation .. => .CONFIG_MIN_SV_ELEVATION
  | .configEngineRunState .. => .CONFIG_ENGINE_RUN_STATE
  | .setUserConsentForTerrestrialPositioning .. => .CONFIG_USER_CONSENT_TERRESTRIAL_POSITIONING
  | .getRobustLocationConfig => .GET_ROBUST_LOCATION_CONFIG_REQ
  | .getMinGpsWeek => .GET_MIN_GPS_WEEK_REQ
  | .getMinSvElevation => .GET_MIN_SV_ELEVATION_REQ
  | .getConstellationSecondaryBandConfig => .GET_CONSTELLATION_SECONDARY_BAND_CONFIG_REQ

def getLocConfigTypeFromMsgId : ELocMsgID → LocConfigTypeEnum
  | .CONFIG_CONSTRAINTED_TUNC => .CONFIG_CONSTRAINED_TIME_UNCERTAINTY
  | .CONFIG_POSITION_ASSISTED_CLOCK_ESTIMATOR => .CONFIG_POSITION_ASSISTED_CLOCK_ESTIMATOR
  | .CONFIG_SV_CONSTELLATION => .CONFIG_CONSTELLATIONS
  | .CONFIG_CONSTELLATION_SECONDARY_BAND => .CONFIG_CONSTELLATION_SECONDARY_BAND
  | .CONFIG_AIDING_DATA_DELETION => .CONFIG_AIDING_DATA_DELETION
  | .CONFIG_LEVER_ARM => .CONFIG_LEVER_ARM
  | .CONFIG_ROBUST_LOCATION => .CONFIG_ROBUST_LOCATION
  | .CONFIG_MIN_GPS_WEEK => .CONFIG_MIN_GPS_WEEK
  | .CONFIG_DEAD_RECKONING_ENGINE => .CONFIG_DEAD_RECKONING_ENGINE
  | .CONFIG_MIN_SV_ELEVATION => .CONFIG_MIN_SV_ELEVATION
  | .CONFIG_ENGINE_RUN_STATE => .CONFIG_ENGINE_RUN_STATE
  | .CONFIG_USER_CONSENT_TERRESTRIAL_POSITIONING => .CONFIG_USER_CONSENT_TERRESTRIAL_POSITIONING
  | .GET_ROBUST_LOCATION_CONFIG_REQ | .GET_ROBUST_LOCATION_CONFIG_RESP =>
    .GET_ROBUST_LOCATION_CONFIG
  | .GET_MIN_GPS_WEEK_REQ | .GET_MIN_GPS_WEEK_RESP => .GET_MIN_GPS_WEEK
  | .GET_MIN_SV_ELEVATION_REQ | .GET_MIN_SV_ELEVATION_RESP => .GET_MIN_SV_ELEVATION
  | .GET_CONSTELLATION_SECONDARY_BAND_CONFIG_REQ
  | .GET_CONSTELLATION_SECONDARY_BAND_CONFIG_RESP => .GET_CONSTELLATION_SECONDARY_BAND_CONFIG

def getLocIntegrationResponse : LocationError → LocIntegrationResponse
  | .SUCCESS => .SUCCESS
  | .NOT_SUPPORTED => .NOT_SUPPORTED
  | .INVALID_PARAMETER => .PARAM_INVALID
  | _ => .FAILURE

theorem getLocConfigTypeFromMsgId_msgId (req : ConfigReq) :
    getLocConfigTypeFromMsgId req.msgId = req.configType := by
  cases req <;> rfl

/-- Which callbacks the application has given. -/
structure LocIntegrationCbs where
  (configCb getRobustLocationConfigCb getMinGpsWeekCb getMinSvElevationCb : Bool)
  getConstellationSecondaryBandConfigCb : Bool

/-- What a call returns: a read request without its callback is an error. -/
def LocIntegrationCbs.returns (mIntegrationCbs : LocIntegrationCbs) : ConfigReq → UInt32
  | .getRobustLocationConfig => if mIntegrationCbs.getRobustLocationConfigCb then 0 else 1
  | .getMinGpsWeek => if mIntegrationCbs.getMinGpsWeekCb then 0 else 1
  | .getMinSvElevation => if mIntegrationCbs.getMinSvElevationCb then 0 else 1
  | .getConstellationSecondaryBandConfig =>
    if mIntegrationCbs.getConstellationSecondaryBandConfigCb then 0 else 1
  | _ => 0

/-- Whether a call puts its request on the task. -/
def LocIntegrationCbs.queues (mIntegrationCbs : LocIntegrationCbs) : ConfigReq → Bool
  | .configLeverArm configInfo => decide (configInfo.leverArmValidMask ≠ 0#32)
  | .getRobustLocationConfig => mIntegrationCbs.getRobustLocationConfigCb
  | .getMinGpsWeek => mIntegrationCbs.getMinGpsWeekCb
  | .getMinSvElevation => mIntegrationCbs.getMinSvElevationCb
  | .getConstellationSecondaryBandConfig =>
    mIntegrationCbs.getConstellationSecondaryBandConfigCb
  | _ => true

/-! ## What is kept for a restart -/

structure TuncConfigInfo where
  (isValid enable : Bool)
  tuncThresholdMs : Float32
  energyBudget : UInt32

structure PaceConfigInfo where
  (isValid enable : Bool)

structure SvConfigInfo where
  isValid : Bool
  constellationEnablementConfig : GnssSvTypeConfig
  blacklistSvConfig : GnssSvIdConfig
  secondaryBandConfig : GnssSvTypeConfig

structure RobustLocationConfigInfo where
  (isValid enable enableForE911 : Bool)

structure DeadReckoningEngineConfigInfo where
  isValid : Bool
  dreConfig : DeadReckoningEngineConfig

structure GtpUserConsentConfigInfo where
  (isValid userConsent : Bool)

/-- `unordered_map<PositioningEngineMask, LocEngineRunState>`, with one entry
for a mask; its order is not what the map is walked in. -/
abbrev LocConfigEngRunStateMap := List (PositioningEngineMask × LocEngineRunState)

/-- `emplace`, or the new state under a mask that is there. -/
def LocConfigEngRunStateMap.set (engType : PositioningEngineMask) (engState : LocEngineRunState) :
    LocConfigEngRunStateMap → LocConfigEngRunStateMap
  | [] => [(engType, engState)]
  | e :: map =>
    if e.1 = engType then (engType, engState) :: map
    else e :: LocConfigEngRunStateMap.set engType engState map

/-- The cached configuration, to be used when the daemon restarts. -/
structure CachedConfig where
  mTuncConfigInfo : TuncConfigInfo
  mPaceConfigInfo : PaceConfigInfo
  mSvConfigInfo : SvConfigInfo
  mLeverArmConfigInfo : LeverArmConfigInfo
  mRobustLocationConfigInfo : RobustLocationConfigInfo
  mDreConfigInfo : DeadReckoningEngineConfigInfo
  mEngRunStateConfigMap : LocConfigEngRunStateMap
  mGtpUserConsentConfigInfo : GtpUserConsentConfigInfo

def noSvTypes : GnssSvTypeConfig := ⟨0, 0#64, 0#64⟩
def noSvIds : GnssSvIdConfig := ⟨0, 0#64, 0#64, 0#64, 0#64, 0#64, 0#64⟩
def noLeverArm : LeverArmConfigInfo :=
  ⟨0#32, ⟨0#32, 0#32, 0#32⟩, ⟨0#32, 0#32, 0#32⟩, ⟨0#32, 0#32, 0#32⟩⟩
def noDreConfig : DeadReckoningEngineConfig :=
  ⟨0#64, ⟨0#32, 0#32, 0#32, 0#32⟩, 0#32, 0#32, 0#32, 0#32⟩

/-- As the constructor leaves it: everything is zero. -/
def CachedConfig.init : CachedConfig where
  mTuncConfigInfo := ⟨false, false, 0#32, 0⟩
  mPaceConfigInfo := ⟨false, false⟩
  mSvConfigInfo := ⟨false, noSvTypes, noSvIds, noSvTypes⟩
  mLeverArmConfigInfo := noLeverArm
  mRobustLocationConfigInfo := ⟨false, false, false⟩
  mDreConfigInfo := ⟨false, noDreConfig⟩
  mEngRunStateConfigMap := []
  mGtpUserConsentConfigInfo := ⟨false, false⟩

/-- What the `proc` of a request keeps of it. -/
def CachedConfig.keep (c : CachedConfig) : ConfigReq → CachedConfig
  | .configConstellations constellationEnablementConfig blacklistSvConfig =>
    { c with
      mSvConfigInfo.isValid := true
      mSvConfigInfo.constellationEnablementConfig := constellationEnablementConfig
      mSvConfigInfo.blacklistSvConfig := blacklistSvConfig }
  | .configConstellationSecondaryBand secondaryBandConfig =>
    { c with
      mSvConfigInfo.isValid := true
      mSvConfigInfo.secondaryBandConfig := secondaryBandConfig }
  | .configConstrainedTimeUncertainty enable tuncThreshold energyBudget =>
    { c with mTuncConfigInfo := ⟨true, enable, tuncThreshold, energyBudget⟩ }
  | .configPositionAssistedClockEstimator enable =>
    { c with mPaceConfigInfo := ⟨true, enable⟩ }
  | .configLeverArm configInfo => { c with mLeverArmConfigInfo := configInfo }
  | .configRobustLocation enable enableForE911 =>
    { c with mRobustLocationConfigInfo := ⟨true, enable, enableForE911⟩ }
  | .configDeadReckoningEngineParams dreConfig => { c with mDreConfigInfo := ⟨true, dreConfig⟩ }
  | .configEngineRunState engType engState =>
    { c with mEngRunStateConfigMap := c.mEngRunStateConfigMap.set engType engState }
  | .setUserConsentForTerrestrialPositioning userConsent =>
    { c with mGtpUserConsentConfigInfo := ⟨true, userConsent⟩ }
  | .gnssDeleteAidingData | .configMinGpsWeek _ | .configMinSvElevation _
  | .getRobustLocationConfig | .getMinGpsWeek | .getMinSvElevation
  | .getConstellationSecondaryBandConfig => c

/-- What `processHalReadyMsg` sends, with the map of the engines walked in
the order of `engines`. -/
def CachedConfig.cachedMsgs (c : CachedConfig) (engines : LocConfigEngRunStateMap) :
    List ConfigReq :=
  (if c.mSvConfigInfo.isValid then
    [.configConstellations c.mSvConfigInfo.constellationEnablementConfig
      c.mSvConfigInfo.blacklistSvConfig] else []) ++
  (if c.mSvConfigInfo.secondaryBandConfig.size ≠ 0 then
    [.configConstellationSecondaryBand c.mSvConfigInfo.secondaryBandConfig] else []) ++
  (if c.mTuncConfigInfo.isValid then
    [.configConstrainedTimeUncertainty c.mTuncConfigInfo.enable c.mTuncConfigInfo.tuncThresholdMs
      c.mTuncConfigInfo.energyBudget] else []) ++
  (if c.mPaceConfigInfo.isValid then
    [.configPositionAssistedClockEstimator c.mPaceConfigInfo.enable] else []) ++
  (if c.mLeverArmConfigInfo.leverArmValidMask ≠ 0#32 then
    [.configLeverArm c.mLeverArmConfigInfo] else []) ++
  (if c.mRobustLocationConfigInfo.isValid then
    [.configRobustLocation c.mRobustLocationConfigInfo.enable
      c.mRobustLocationConfigInfo.enableForE911] else []) ++
  (if c.mDreConfigInfo.isValid then
    [.configDeadReckoningEngineParams c.mDreConfigInfo.dreConfig] else []) ++
  (if c.mGtpUserConsentConfigInfo.isValid then
    [.setUserConsentForTerrestrialPositioning c.mGtpUserConsentConfigInfo.userConsent] else []) ++
  engines.map fun e => .configEngineRunState e.1 e.2

end LocStack.Integration
