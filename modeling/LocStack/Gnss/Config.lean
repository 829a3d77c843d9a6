/-
# `LocStack.Gnss.Config` — setting and getting the GNSS configuration

A GnssConfig has a flag for each parameter that is to be set.  The caller
gets one id for each flag, from low bits to high bits, and the responses go
by those ids.  The errors are collected in an order that is written out by
hand, three times:

    gnssUpdateConfigCommand   what the adapter finds wrong itself
    gnssUpdateConfig          what the engine answers; this is reported
    gnssGetConfigCommand      the same for a GET

The walk of `gnssUpdateConfig` has the assistance server before the SUPL
version and passes over the parameters that the engine is not asked about,
without advancing its index; that of `gnssGetConfigCommand` gives the index
it has come to to all of the last three.  `config_answers_iff` says for
which flags the responses are right whatever the engine answers.
-/
import LocStack.Base.Slots
import LocStack.Gnss.SvConfig
import LocStack.Tracking.Model

namespace LocStack.Gnss

open Base Tracking

/-! ## Parameters -/

/-! The flags, by the numbers of their bits. -/

@[match_pattern] def GNSS_CONFIG_FLAGS_GPS_LOCK_VALID_BIT : Nat := 0
@[match_pattern] def GNSS_CONFIG_FLAGS_SUPL_VERSION_VALID_BIT : Nat := 1
@[match_pattern] def GNSS_CONFIG_FLAGS_SET_ASSISTANCE_DATA_VALID_BIT : Nat := 2
@[match_pattern] def GNSS_CONFIG_FLAGS_LPP_PROFILE_VALID_BIT : Nat := 3
@[match_pattern] def GNSS_CONFIG_FLAGS_LPPE_CONTROL_PLANE_VALID_BIT : Nat := 4
@[match_pattern] def GNSS_CONFIG_FLAGS_LPPE_USER_PLANE_VALID_BIT : Nat := 5
@[match_pattern] def GNSS_CONFIG_FLAGS_AGLONASS_POSITION_PROTOCOL_VALID_BIT : Nat := 6
@[match_pattern] def GNSS_CONFIG_FLAGS_EM_PDN_FOR_EM_SUPL_VALID_BIT : Nat := 7
@[match_pattern] def GNSS_CONFIG_FLAGS_SUPL_EM_SERVICES_BIT : Nat := 8
@[match_pattern] def GNSS_CONFIG_FLAGS_SUPL_MODE_BIT : Nat := 9
@[match_pattern] def GNSS_CONFIG_FLAGS_BLACKLISTED_SV_IDS_BIT : Nat := 10
@[match_pattern] def GNSS_CONFIG_FLAGS_EMERGENCY_EXTENSION_SECONDS_BIT : Nat := 11
@[match_pattern] def GNSS_CONFIG_FLAGS_ROBUST_LOCATION_BIT : Nat := 12
@[match_pattern] def GNSS_CONFIG_FLAGS_MIN_GPS_WEEK_BIT : Nat := 13
@[match_pattern] def GNSS_CONFIG_FLAGS_MIN_SV_ELEVATION_BIT : Nat := 14
@[match_pattern] def GNSS_CONFIG_FLAGS_CONSTELLATION_SECONDARY_BAND_BIT : Nat := 15

/-- The flags that are set, from low bits to high bits. -/
def flagsSet (flags : BitVec 32) : List Nat := (List.range 32).filter flags.getLsbD

/-- `flags & ~(...)`. -/
def clearFlags (flags : BitVec 32) (bits : List Nat) : BitVec 32 :=
  bits.foldl (fun flags bit => flags &&& ~~~BitVec.twoPow 32 bit) flags

inductive GnssAssistanceType where
  | supl | c2k | suplEims | suplIms
  deriving DecidableEq

structure GnssConfigSetAssistanceServer where
  type : GnssAssistanceType
  hostName : String
  port : UInt32

def GNSS_CONFIG_GPS_LOCK_NONE : BitVec 32 := 0
def GNSS_CONFIG_GPS_LOCK_MO : BitVec 32 := 1

/-- The parameters the engine is asked to set. -/
structure GnssConfig where
  (flags gpsLock : BitVec 32)
  suplVersion : UInt32
  assistanceServer : GnssConfigSetAssistanceServer
  (lppProfileMask lppeControlPlaneMask lppeUserPlaneMask aGlonassPositionProtocolMask : UInt32)
  blacklistedSvIds : List GnssSvIdSource
  emergencyExtensionSeconds : UInt32
  minSvElevation : UInt8

/-- A call of LocApi that waits for the engine's answer. -/
inductive EngineCall where
  | setGpsLockSync (lock : BitVec 32)
  | setServerSync (url : String)
  | setServerIpSync (hostName : String) (port : UInt32)
  | setSUPLVersionSync (version : UInt32)
  | setLPPConfigSync (mask : UInt32)
  | setLPPeProtocolCpSync (mask : UInt32)
  | setLPPeProtocolUpSync (mask : UInt32)
  | setAGLONASSProtocolSync (mask : UInt32)
  | setBlacklistSvSync (config : GnssSvIdConfig)
  | setEmergencyExtensionWindowSync (seconds : UInt32)
  | setParameterSync (minSvElevation : UInt8)
  | getRobustLocationConfig | getMinGpsWeek | getParameter
  deriving DecidableEq

/-- What else decides the answers: the configuration files, the features of
the modem, the servers, and whether a host name is known or an address. -/
structure ConfigContext where
  (AGPS_CONFIG_INJECT constellationEnablement : Bool)
  serverUrl : String
  (gethostbyname inet_aton : Bool)

/-! ## Errors, in the order of a walk -/

/-- The index of a walk and the errors so far. -/
structure ErrsList where
  index : Nat
  errs : List LocationError

/-- One test of the walk in `gnssUpdateConfig`: the flag it is for, and the
error to be stored, if one is. -/
structure FlagTest where
  flag : Nat
  err : Option LocationError

/-- A requested flag's error is stored, and the index advanced. -/
def ErrsList.test (count : Nat) (requested : BitVec 32) (l : ErrsList) (t : FlagTest) : ErrsList :=
  if requested.getLsbD t.flag = true then
    { index := l.index + 1
      errs :=
        match t.err with
        | none => l.errs
        | some err => if l.index < count then l.errs.set l.index err else l.errs }
  else l

/-- The tests of `gnssUpdateConfig`, from top to bottom. -/
def flagTests (context : ConfigContext) (engine : EngineCall → LocationError)
    (gnssConfigRequested gnssConfigNeedEngineUpdate : GnssConfig) : List FlagTest :=
  let req := gnssConfigRequested
  let need (flag : Nat) (call : EngineCall) : FlagTest :=
    ⟨flag, if gnssConfigNeedEngineUpdate.flags.getLsbD flag = true then some (engine call)
      else none⟩
  let server := gnssConfigNeedEngineUpdate.assistanceServer
  [need GNSS_CONFIG_FLAGS_GPS_LOCK_VALID_BIT (.setGpsLockSync req.gpsLock),
    ⟨GNSS_CONFIG_FLAGS_SET_ASSISTANCE_DATA_VALID_BIT,
      if gnssConfigNeedEngineUpdate.flags.getLsbD
          GNSS_CONFIG_FLAGS_SET_ASSISTANCE_DATA_VALID_BIT = true then
        match server.type with
        | .supl => some (engine (.setServerSync context.serverUrl))
        | .c2k =>
          -- where the name is an address and DNS does not know it, nothing is sent
          if context.gethostbyname = true ∨ context.inet_aton = false then
            some (engine (.setServerIpSync server.hostName server.port))
          else none
        | .suplEims | .suplIms => none
      else none⟩,
    need GNSS_CONFIG_FLAGS_SUPL_VERSION_VALID_BIT (.setSUPLVersionSync req.suplVersion),
    need GNSS_CONFIG_FLAGS_LPP_PROFILE_VALID_BIT (.setLPPConfigSync req.lppProfileMask),
    need GNSS_CONFIG_FLAGS_LPPE_CONTROL_PLANE_VALID_BIT
      (.setLPPeProtocolCpSync req.lppeControlPlaneMask),
    need GNSS_CONFIG_FLAGS_LPPE_USER_PLANE_VALID_BIT (.setLPPeProtocolUpSync req.lppeUserPlaneMask),
    need GNSS_CONFIG_FLAGS_AGLONASS_POSITION_PROTOCOL_VALID_BIT
      (.setAGLONASSProtocolSync req.aGlonassPositionProtocolMask),
    ⟨GNSS_CONFIG_FLAGS_BLACKLISTED_SV_IDS_BIT, some (if context.constellationEnablement = true then
        engine (.setBlacklistSvSync (SvAdapter.converted req.blacklistedSvIds).1)
      else .notSupported)⟩,
    need GNSS_CONFIG_FLAGS_EMERGENCY_EXTENSION_SECONDS_BIT
      (.setEmergencyExtensionWindowSync req.emergencyExtensionSeconds),
    ⟨GNSS_CONFIG_FLAGS_MIN_SV_ELEVATION_BIT, some (engine (.setParameterSync req.minSvElevation))⟩]

/-- The flags that are cleared where AGPS configurations are not injected. -/
def agpsFlags : List Nat :=
  [GNSS_CONFIG_FLAGS_SET_ASSISTANCE_DATA_VALID_BIT, GNSS_CONFIG_FLAGS_SUPL_VERSION_VALID_BIT,
    GNSS_CONFIG_FLAGS_AGLONASS_POSITION_PROTOCOL_VALID_BIT, GNSS_CONFIG_FLAGS_LPP_PROFILE_VALID_BIT]

def gnssUpdateConfig (context : ConfigContext) (engine : EngineCall → LocationError)
    (gnssConfigRequested gnssConfigNeedEngineUpdate : GnssConfig) (count : Nat) :
    List LocationError :=
  let requested : GnssConfig :=
    if context.AGPS_CONFIG_INJECT = false then
      { gnssConfigRequested with flags := clearFlags gnssConfigRequested.flags agpsFlags }
    else gnssConfigRequested
  let errsList : ErrsList := ⟨0, List.replicate (count + 1) .success⟩
  ((flagTests context engine requested gnssConfigNeedEngineUpdate).foldl
    (ErrsList.test count requested.flags) errsList).errs

/-! ## The commands -/

/-- What the control client is told. -/
inductive ControlResponse where
  | collective (errs : List LocationError) (ids : List Nat)
  | single (err : LocationError) (id : Nat)
  deriving DecidableEq

/-- The errors and the ids they are for. -/
def ControlResponse.answers : ControlResponse → List (Nat × LocationError)
  | .collective errs ids => ids.zip errs
  | .single err id => [(id, err)]

/-- The part of GnssAdapter that the commands read and write.  The counter
is put back before it reaches its last value. -/
structure ConfigAdapter where
  engineCapabilitiesKnown : Bool
  mSessionIdCounter : Fin 0xFFFFFFFF
  afwControlId : Nat
  mSupportNfwControl : Bool

/-- What the counter becomes, which is the id. -/
def generateSessionId (mSessionIdCounter : Fin 0xFFFFFFFF) : Fin 0xFFFFFFFF :=
  if h : mSessionIdCounter.val + 1 < 0xFFFFFFFF then ⟨mSessionIdCounter.val + 1, h⟩ else 1

/-- `count` ids, one after the other. -/
def generateSessionIds : (count : Nat) → Fin 0xFFFFFFFF → List Nat
  | 0, _ => []
  | count + 1, mSessionIdCounter =>
    let id := generateSessionId mSessionIdCounter
    id.val :: generateSessionIds count id

/-- What is captured for LocApi's thread, which calls `gnssUpdateConfig`. -/
structure UpdateMsg where
  (gnssConfigRequested gnssConfigNeedEngineUpdate : GnssConfig)
  countOfConfigs : Nat
  sessionIds : List Nat
  /-- The adapter's own list, which nothing reads. -/
  errs : List LocationError

/-- The processing of a command: it is parked until the capabilities are
known, or leads to a message or to responses. -/
inductive Proc (μ : Type) where
  | parked
  | done (result : μ)
  deriving DecidableEq

namespace ConfigAdapter

/-- The lock that the engine is told, and whether it is told at all. -/
def newGpsLock (s : ConfigAdapter) (gpsLock : BitVec 32) : BitVec 32 × Bool :=
  if s.afwControlId ≠ 0 then
    if s.mSupportNfwControl = true then (GNSS_CONFIG_GPS_LOCK_NONE, true)
    else (gpsLock ||| GNSS_CONFIG_GPS_LOCK_MO, false)
  else (gpsLock ||| GNSS_CONFIG_GPS_LOCK_MO, true)

/-- What the processing of the command leaves to `gnssUpdateConfig`. -/
def updateMsg (s : ConfigAdapter) (mConfig : GnssConfig) (mIds : List Nat) : UpdateMsg :=
  let has (flag : Nat) : Bool := mConfig.flags.getLsbD flag
  let lock := has GNSS_CONFIG_FLAGS_GPS_LOCK_VALID_BIT
  let dropLock : List Nat :=
    if lock = true ∧ (s.newGpsLock mConfig.gpsLock).2 = false then
      [GNSS_CONFIG_FLAGS_GPS_LOCK_VALID_BIT]
    else []
  let invalidServer : Prop := has GNSS_CONFIG_FLAGS_SET_ASSISTANCE_DATA_VALID_BIT = true ∧
    mConfig.assistanceServer.type ≠ .supl
  let dropServer : List Nat :=
    if invalidServer then [GNSS_CONFIG_FLAGS_SET_ASSISTANCE_DATA_VALID_BIT] else []
  let index := lock.toNat + (has GNSS_CONFIG_FLAGS_SUPL_VERSION_VALID_BIT).toNat
  let errs := List.replicate mIds.length LocationError.success
  { gnssConfigRequested :=
      if lock = true then { mConfig with gpsLock := (s.newGpsLock mConfig.gpsLock).1 } else mConfig
    gnssConfigNeedEngineUpdate :=
      { mConfig with flags := clearFlags mConfig.flags (dropLock ++ dropServer) }
    countOfConfigs := mIds.length
    sessionIds := mIds
    errs := if invalidServer then errs.set index .invalidParameter else errs }

/-- `MsgGnssUpdateConfig::proc`. -/
def procUpdateConfig (s : ConfigAdapter) (mConfig : GnssConfig) (mIds : List Nat) :
    Proc (ConfigAdapter × UpdateMsg) :=
  if s.engineCapabilitiesKnown = false then .parked
  else
    let lock := mConfig.flags.getLsbD GNSS_CONFIG_FLAGS_GPS_LOCK_VALID_BIT
    .done ({ s with mSupportNfwControl := !lock && s.mSupportNfwControl }, s.updateMsg mConfig mIds)

/-- `gnssUpdateConfigCommand`, processed and run to its collective response.
The first part gives the ids that the caller has. -/
def gnssUpdateConfigCommand (s : ConfigAdapter) (context : ConfigContext)
    (engine : EngineCall → LocationError) (config : GnssConfig) :
    List Nat × Proc (List ControlResponse) :=
  let ids := generateSessionIds (flagsSet config.flags).length s.mSessionIdCounter
  (ids,
    if ids = [] then .done []
    else
      match s.procUpdateConfig config ids with
      | .parked => .parked
      | .done (_, msg) =>
        let errsList := gnssUpdateConfig context engine msg.gnssConfigRequested
          msg.gnssConfigNeedEngineUpdate msg.countOfConfigs
        .done [.collective (errsList.take msg.countOfConfigs)
          (msg.sessionIds.take msg.countOfConfigs)])

/-- The flags that `gnssGetConfigCommand` answers at once. -/
def getFlags : List Nat := List.range 12

/-- One test of the walk in `MsgGnssGetConfig::proc`, whose index is the
number of errors so far. -/
def getTest (context : ConfigContext) (mConfigMask : BitVec 32) (mCount : Nat)
    (errs : List LocationError) (flag : Nat) : List LocationError :=
  if mConfigMask.getLsbD flag = true ∧ errs.length < mCount then
    errs ++ [if flag = GNSS_CONFIG_FLAGS_BLACKLISTED_SV_IDS_BIT ∧
      context.constellationEnablement = true then .success else .notSupported]
  else errs

/-- `MsgGnssGetConfig::proc`, with the responses that the engine's answers
to its three calls lead to. -/
def procGetConfig (s : ConfigAdapter) (context : ConfigContext)
    (engine : EngineCall → LocationError) (mConfigMask : BitVec 32) (mIds : List Nat) :
    Proc (List ControlResponse) :=
  if s.engineCapabilitiesKnown = false then .parked
  else
    let errs := getFlags.foldl (getTest context mConfigMask mIds.length) []
    let index := errs.length
    let get (flag : Nat) (call : EngineCall) : List ControlResponse :=
      if mConfigMask.getLsbD flag = true then [.single (engine call) (mIds.getD index 0)] else []
    .done (.collective errs (mIds.take index) ::
      (get GNSS_CONFIG_FLAGS_ROBUST_LOCATION_BIT .getRobustLocationConfig ++
        get GNSS_CONFIG_FLAGS_MIN_GPS_WEEK_BIT .getMinGpsWeek ++
        get GNSS_CONFIG_FLAGS_MIN_SV_ELEVATION_BIT .getParameter))

def gnssGetConfigCommand (s : ConfigAdapter) (context : ConfigContext)
    (engine : EngineCall → LocationError) (configMask : BitVec 32) :
    List Nat × Proc (List ControlResponse) :=
  let ids := generateSessionIds (flagsSet configMask).length s.mSessionIdCounter
  (ids, if ids = [] then .done [] else s.procGetConfig context engine configMask ids)

end ConfigAdapter

end LocStack.Gnss
