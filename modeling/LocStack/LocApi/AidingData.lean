/-
# `LocStack.LocApi.AidingData` — the requests that delete aiding data

A client asks for kinds of satellite data, of some constellations, and for
kinds of data that are common to all.  There are two requests of the modem:

    deleteGNSSServiceData   the kinds and the constellations, each in a mask
    deleteAssistData        satellite by satellite, and one mask for the rest

The second one is made where the first is not known, for GPS only, and from
then on.  In the first, three constellations are mixed up:

    asked for     QZSS   BeiDou    Galileo
    named         BDS    Galileo   QZSS

`deleteAidingData_right_iff`: the requests are right if and only if all of the
three are asked for, or none, and the satellite data is not SV polynomials,
which no request can name.
-/
import LocStack.Base.BitTable
import LocStack.Base.Masks
import LocStack.LocApi.Measurements
import LocStack.LocApi.SyncReq

namespace LocStack.LocApi.AidingData

open Base List Option

/-! ## What is asked for -/

inductive GnssAidingDataSvBits where
  | GNSS_AIDING_DATA_SV_EPHEMERIS_BIT | GNSS_AIDING_DATA_SV_ALMANAC_BIT
  | GNSS_AIDING_DATA_SV_HEALTH_BIT | GNSS_AIDING_DATA_SV_DIRECTION_BIT
  | GNSS_AIDING_DATA_SV_STEER_BIT | GNSS_AIDING_DATA_SV_ALMANAC_CORR_BIT
  | GNSS_AIDING_DATA_SV_BLACKLIST_BIT | GNSS_AIDING_DATA_SV_SA_DATA_BIT
  | GNSS_AIDING_DATA_SV_NO_EXIST_BIT | GNSS_AIDING_DATA_SV_IONOSPHERE_BIT
  | GNSS_AIDING_DATA_SV_TIME_BIT | GNSS_AIDING_DATA_SV_MB_DATA | GNSS_AIDING_DATA_SV_POLY_BIT
  deriving DecidableEq

inductive GnssAidingDataSvTypeBits where
  | GNSS_AIDING_DATA_SV_TYPE_GPS_BIT | GNSS_AIDING_DATA_SV_TYPE_GLONASS_BIT
  | GNSS_AIDING_DATA_SV_TYPE_QZSS_BIT | GNSS_AIDING_DATA_SV_TYPE_BEIDOU_BIT
  | GNSS_AIDING_DATA_SV_TYPE_GALILEO_BIT | GNSS_AIDING_DATA_SV_TYPE_NAVIC_BIT

inductive GnssAidingDataCommonBits where
  | GNSS_AIDING_DATA_COMMON_POSITION_BIT | GNSS_AIDING_DATA_COMMON_TIME_BIT
  | GNSS_AIDING_DATA_COMMON_UTC_BIT | GNSS_AIDING_DATA_COMMON_RTI_BIT
  | GNSS_AIDING_DATA_COMMON_FREQ_BIAS_EST_BIT | GNSS_AIDING_DATA_COMMON_CELLDB_BIT
  deriving DecidableEq

open GnssAidingDataSvBits GnssAidingDataSvTypeBits GnssAidingDataCommonBits

/-- An enumerator stands for the bit of its place. -/
def GnssAidingDataSvBits.bit (k : GnssAidingDataSvBits) : BitVec 32 := BitVec.twoPow 32 k.ctorIdx

def GnssAidingDataSvTypeBits.bit (c : GnssAidingDataSvTypeBits) : BitVec 32 :=
  BitVec.twoPow 32 c.ctorIdx

def GnssAidingDataCommonBits.bit (k : GnssAidingDataCommonBits) : BitVec 32 :=
  BitVec.twoPow 32 k.ctorIdx

structure GnssAidingData where
  deleteAll : Bool
  (svMask svTypeMask commonMask : BitVec 32)

namespace GnssAidingData

variable (data : GnssAidingData)

def AsksSv (k : GnssAidingDataSvBits) : Prop := data.svMask &&& k.bit ≠ 0#32

def AsksType (c : GnssAidingDataSvTypeBits) : Prop := data.svTypeMask &&& c.bit ≠ 0#32

def AsksCommon (k : GnssAidingDataCommonBits) : Prop := data.commonMask &&& k.bit ≠ 0#32

instance : ∀ k, Decidable (data.AsksSv k) := fun _ => inferInstanceAs (Decidable (¬ _))

instance : ∀ c, Decidable (data.AsksType c) := fun _ => inferInstanceAs (Decidable (¬ _))

instance : ∀ k, Decidable (data.AsksCommon k) := fun _ => inferInstanceAs (Decidable (¬ _))

end GnssAidingData

/-! ## The requests -/

inductive QmiDeleteDataMask where
  | QMI_LOC_DELETE_DATA_MASK_EPHEMERIS_V02 | QMI_LOC_DELETE_DATA_MASK_ALMANAC_V02
  | QMI_LOC_DELETE_DATA_MASK_SVHEALTH_V02 | QMI_LOC_DELETE_DATA_MASK_SVDIR_V02
  | QMI_LOC_DELETE_DATA_MASK_SVSTEER_V02 | QMI_LOC_DELETE_DATA_MASK_ALM_CORR_V02
  | QMI_LOC_DELETE_DATA_MASK_BLACKLIST_V02 | QMI_LOC_DELETE_DATA_MASK_SA_DATA_V02
  | QMI_LOC_DELETE_DATA_MASK_SV_NO_EXIST_V02 | QMI_LOC_DELETE_DATA_MASK_IONO_V02
  | QMI_LOC_DELETE_DATA_MASK_TIME_V02 | QMI_LOC_DELETE_DATA_MASK_MB_DATA_V02
  | QMI_LOC_DELETE_DATA_MASK_TGD_DATA_V02

inductive QmiLocSystem where
  | QMI_LOC_SYSTEM_GPS_V02 | QMI_LOC_SYSTEM_GLO_V02 | QMI_LOC_SYSTEM_BDS_V02
  | QMI_LOC_SYSTEM_GAL_V02 | QMI_LOC_SYSTEM_QZSS_V02 | QMI_LOC_SYSTEM_NAVIC_V02
  deriving DecidableEq

inductive QmiDeleteCommonMask where
  | QMI_LOC_DELETE_COMMON_MASK_POS_V02 | QMI_LOC_DELETE_COMMON_MASK_TIME_V02
  | QMI_LOC_DELETE_COMMON_MASK_UTC_V02 | QMI_LOC_DELETE_COMMON_MASK_RTI_V02
  | QMI_LOC_DELETE_COMMON_MASK_FREQ_BIAS_EST_V02
  deriving DecidableEq

open QmiDeleteDataMask QmiLocSystem QmiDeleteCommonMask

def QmiDeleteDataMask.bit (q : QmiDeleteDataMask) : BitVec 32 := BitVec.twoPow 32 q.ctorIdx

def QmiLocSystem.bit (q : QmiLocSystem) : BitVec 32 := BitVec.twoPow 32 q.ctorIdx

def QmiDeleteCommonMask.bit (q : QmiDeleteCommonMask) : BitVec 32 := BitVec.twoPow 32 q.ctorIdx

def QMI_LOC_MASK_DELETE_GPS_SVDIR : BitVec 64 := 0x00001

def QMI_LOC_MASK_DELETE_POSITION : BitVec 64 := 0x00400

def QMI_LOC_MASK_DELETE_TIME : BitVec 64 := 0x00800

def QMI_LOC_MASK_DELETE_IONO : BitVec 64 := 0x01000

def QMI_LOC_MASK_DELETE_UTC : BitVec 64 := 0x02000

def QMI_LOC_MASK_DELETE_HEALTH : BitVec 64 := 0x04000

def QMI_LOC_MASK_DELETE_SADATA : BitVec 64 := 0x08000

def QMI_LOC_MASK_DELETE_RTI : BitVec 64 := 0x10000

/-- All of the cell database: its ten masks. -/
def deleteCellDbAll : BitVec 32 :=
  0x001 ||| 0x002 ||| 0x004 ||| 0x008 ||| 0x010 ||| 0x020 ||| 0x040 ||| 0x080 ||| 0x100 ||| 0x200

def QMI_LOC_MASK_DELETE_EPHEMERIS : BitVec 8 := 0x01

def QMI_LOC_MASK_DELETE_ALMANAC : BitVec 8 := 0x02

structure DeleteSatelliteData where
  (system deleteSatelliteDataMask : BitVec 32)

/-- A field that is not valid is `none`. -/
structure DeleteGNSSServiceDataReq where
  deleteAllFlag : Bool
  deleteSatelliteData : Option DeleteSatelliteData
  (deleteCommonDataMask deleteCellDbDataMask : Option (BitVec 32))

structure DeleteSvInfo where
  gnssSvId : UInt16
  system : QmiLocSvSystem
  deleteSvInfoMask : BitVec 8

structure DeleteAssistDataReq where
  deleteAllFlag : Bool
  deleteSvInfoList : Option (List DeleteSvInfo)
  deleteGnssDataMask : Option (BitVec 64)
  deleteCellDbDataMask : Option (BitVec 32)

inductive DeleteRequest where
  | gnssServiceData (req : DeleteGNSSServiceDataReq)
  | assistData (req : DeleteAssistDataReq)

/-! ## The code -/

def svRows : List (GnssAidingDataSvBits × QmiDeleteDataMask) :=
  [(GNSS_AIDING_DATA_SV_EPHEMERIS_BIT, QMI_LOC_DELETE_DATA_MASK_EPHEMERIS_V02),
    (GNSS_AIDING_DATA_SV_ALMANAC_BIT, QMI_LOC_DELETE_DATA_MASK_ALMANAC_V02),
    (GNSS_AIDING_DATA_SV_HEALTH_BIT, QMI_LOC_DELETE_DATA_MASK_SVHEALTH_V02),
    (GNSS_AIDING_DATA_SV_DIRECTION_BIT, QMI_LOC_DELETE_DATA_MASK_SVDIR_V02),
    (GNSS_AIDING_DATA_SV_STEER_BIT, QMI_LOC_DELETE_DATA_MASK_SVSTEER_V02),
    (GNSS_AIDING_DATA_SV_ALMANAC_CORR_BIT, QMI_LOC_DELETE_DATA_MASK_ALM_CORR_V02),
    (GNSS_AIDING_DATA_SV_BLACKLIST_BIT, QMI_LOC_DELETE_DATA_MASK_BLACKLIST_V02),
    (GNSS_AIDING_DATA_SV_SA_DATA_BIT, QMI_LOC_DELETE_DATA_MASK_SA_DATA_V02),
    (GNSS_AIDING_DATA_SV_NO_EXIST_BIT, QMI_LOC_DELETE_DATA_MASK_SV_NO_EXIST_V02),
    (GNSS_AIDING_DATA_SV_IONOSPHERE_BIT, QMI_LOC_DELETE_DATA_MASK_IONO_V02),
    (GNSS_AIDING_DATA_SV_TIME_BIT, QMI_LOC_DELETE_DATA_MASK_TIME_V02),
    (GNSS_AIDING_DATA_SV_MB_DATA, QMI_LOC_DELETE_DATA_MASK_MB_DATA_V02)]

/-- As they are in the code. -/
def typeRows : List (GnssAidingDataSvTypeBits × QmiLocSystem) :=
  [(GNSS_AIDING_DATA_SV_TYPE_GPS_BIT, QMI_LOC_SYSTEM_GPS_V02),
    (GNSS_AIDING_DATA_SV_TYPE_GLONASS_BIT, QMI_LOC_SYSTEM_GLO_V02),
    (GNSS_AIDING_DATA_SV_TYPE_QZSS_BIT, QMI_LOC_SYSTEM_BDS_V02),
    (GNSS_AIDING_DATA_SV_TYPE_BEIDOU_BIT, QMI_LOC_SYSTEM_GAL_V02),
    (GNSS_AIDING_DATA_SV_TYPE_GALILEO_BIT, QMI_LOC_SYSTEM_QZSS_V02),
    (GNSS_AIDING_DATA_SV_TYPE_NAVIC_BIT, QMI_LOC_SYSTEM_NAVIC_V02)]

def commonRows : List (GnssAidingDataCommonBits × QmiDeleteCommonMask) :=
  [(GNSS_AIDING_DATA_COMMON_POSITION_BIT, QMI_LOC_DELETE_COMMON_MASK_POS_V02),
    (GNSS_AIDING_DATA_COMMON_TIME_BIT, QMI_LOC_DELETE_COMMON_MASK_TIME_V02),
    (GNSS_AIDING_DATA_COMMON_UTC_BIT, QMI_LOC_DELETE_COMMON_MASK_UTC_V02),
    (GNSS_AIDING_DATA_COMMON_RTI_BIT, QMI_LOC_DELETE_COMMON_MASK_RTI_V02),
    (GNSS_AIDING_DATA_COMMON_FREQ_BIAS_EST_BIT, QMI_LOC_DELETE_COMMON_MASK_FREQ_BIAS_EST_V02)]

def svTable : BitTable 32 32 := svRows.map fun row => (row.1.bit, row.2.bit)

def typeTable : BitTable 32 32 := typeRows.map fun row => (row.1.bit, row.2.bit)

def commonTable : BitTable 32 32 := commonRows.map fun row => (row.1.bit, row.2.bit)

/-- A row of the table applies, so the field is valid. -/
def tested (table : BitTable 32 32) (m : BitVec 32) : Bool := table.any fun row => m &&& row.1 != 0

section Requests

variable (data : GnssAidingData)

def deleteCellDbDataMask : Option (BitVec 32) :=
  if GNSS_AIDING_DATA_COMMON_CELLDB_BIT.bit &&& data.commonMask ≠ 0 then some deleteCellDbAll
  else none

def deleteGnssReq : DeleteGNSSServiceDataReq :=
  if data.deleteAll then ⟨true, none, none, none⟩
  else
    { deleteAllFlag := false
      deleteSatelliteData :=
        if tested svTable data.svMask then
          some ⟨typeTable.apply data.svTypeMask, svTable.apply data.svMask⟩
        else none
      deleteCommonDataMask :=
        if tested commonTable data.commonMask then some (commonTable.apply data.commonMask)
        else none
      deleteCellDbDataMask := deleteCellDbDataMask data }

abbrev SV_ID_RANGE : Nat := 32

def GPS_SV_ID_OFFSET : UInt16 := 1

/-- The loop over all GPS satellites. -/
def deleteSvInfoList : Option (List DeleteSvInfo) :=
  let ephemeris := data.AsksSv GNSS_AIDING_DATA_SV_EPHEMERIS_BIT
  let almanac := data.AsksSv GNSS_AIDING_DATA_SV_ALMANAC_BIT
  if (ephemeris ∨ almanac) ∧ data.AsksType GNSS_AIDING_DATA_SV_TYPE_GPS_BIT then
    some ((List.range SV_ID_RANGE).map fun i =>
      { gnssSvId := GPS_SV_ID_OFFSET + UInt16.ofNat i
        system := .eQMI_LOC_SV_SYSTEM_GPS_V02
        deleteSvInfoMask :=
          let mask := if ephemeris then 0 ||| QMI_LOC_MASK_DELETE_EPHEMERIS else 0
          if almanac then mask ||| QMI_LOC_MASK_DELETE_ALMANAC else mask })
  else none

/-- The tests for deleteGnssDataMask, each with its mask. -/
def gnssDataTests : List (Bool × BitVec 64) :=
  let gps := data.AsksType GNSS_AIDING_DATA_SV_TYPE_GPS_BIT
  [(data.AsksCommon GNSS_AIDING_DATA_COMMON_POSITION_BIT, QMI_LOC_MASK_DELETE_POSITION),
    (data.AsksCommon GNSS_AIDING_DATA_COMMON_TIME_BIT, QMI_LOC_MASK_DELETE_TIME),
    (data.AsksSv GNSS_AIDING_DATA_SV_IONOSPHERE_BIT ∧ gps, QMI_LOC_MASK_DELETE_IONO),
    (data.AsksCommon GNSS_AIDING_DATA_COMMON_UTC_BIT, QMI_LOC_MASK_DELETE_UTC),
    (data.AsksSv GNSS_AIDING_DATA_SV_HEALTH_BIT ∧ gps, QMI_LOC_MASK_DELETE_HEALTH),
    (data.AsksSv GNSS_AIDING_DATA_SV_DIRECTION_BIT ∧ gps, QMI_LOC_MASK_DELETE_GPS_SVDIR),
    (data.AsksSv GNSS_AIDING_DATA_SV_SA_DATA_BIT ∧ gps, QMI_LOC_MASK_DELETE_SADATA),
    (data.AsksCommon GNSS_AIDING_DATA_COMMON_RTI_BIT, QMI_LOC_MASK_DELETE_RTI)]

def deleteGnssDataMask : Option (BitVec 64) :=
  let found := (gnssDataTests data).filter (·.1)
  if found = [] then none else some (found.foldl (fun mask row => mask ||| row.2) 0)

def deleteReq : DeleteAssistDataReq :=
  if data.deleteAll then ⟨true, none, none, none⟩
  else
    { deleteAllFlag := false
      deleteSvInfoList := deleteSvInfoList data
      deleteGnssDataMask := deleteGnssDataMask data
      deleteCellDbDataMask := deleteCellDbDataMask data }

open LocClientStatus

/-- The requests that are made; `answered` is how the first one is answered. -/
def deleteAidingData (isNewApiSupported : Bool) (answered : LocClientStatus) :
    Bool × List DeleteRequest :=
  let first := if isNewApiSupported then [.gnssServiceData (deleteGnssReq data)] else []
  let status := if isNewApiSupported then answered else eLOC_CLIENT_FAILURE_UNSUPPORTED
  if status = eLOC_CLIENT_FAILURE_UNSUPPORTED ∨ status = eLOC_CLIENT_FAILURE_INTERNAL then
    (false, first ++ [.assistData (deleteReq data)])
  else (isNewApiSupported, first)

end Requests

/-! ## What the masks of the modem mean -/

def QmiDeleteDataMask.kind : QmiDeleteDataMask → Option GnssAidingDataSvBits
  | QMI_LOC_DELETE_DATA_MASK_EPHEMERIS_V02 => some GNSS_AIDING_DATA_SV_EPHEMERIS_BIT
  | QMI_LOC_DELETE_DATA_MASK_ALMANAC_V02 => some GNSS_AIDING_DATA_SV_ALMANAC_BIT
  | QMI_LOC_DELETE_DATA_MASK_SVHEALTH_V02 => some GNSS_AIDING_DATA_SV_HEALTH_BIT
  | QMI_LOC_DELETE_DATA_MASK_SVDIR_V02 => some GNSS_AIDING_DATA_SV_DIRECTION_BIT
  | QMI_LOC_DELETE_DATA_MASK_SVSTEER_V02 => some GNSS_AIDING_DATA_SV_STEER_BIT
  | QMI_LOC_DELETE_DATA_MASK_ALM_CORR_V02 => some GNSS_AIDING_DATA_SV_ALMANAC_CORR_BIT
  | QMI_LOC_DELETE_DATA_MASK_BLACKLIST_V02 => some GNSS_AIDING_DATA_SV_BLACKLIST_BIT
  | QMI_LOC_DELETE_DATA_MASK_SA_DATA_V02 => some GNSS_AIDING_DATA_SV_SA_DATA_BIT
  | QMI_LOC_DELETE_DATA_MASK_SV_NO_EXIST_V02 => some GNSS_AIDING_DATA_SV_NO_EXIST_BIT
  | QMI_LOC_DELETE_DATA_MASK_IONO_V02 => some GNSS_AIDING_DATA_SV_IONOSPHERE_BIT
  | QMI_LOC_DELETE_DATA_MASK_TIME_V02 => some GNSS_AIDING_DATA_SV_TIME_BIT
  | QMI_LOC_DELETE_DATA_MASK_MB_DATA_V02 => some GNSS_AIDING_DATA_SV_MB_DATA
  | QMI_LOC_DELETE_DATA_MASK_TGD_DATA_V02 => none

def QmiLocSystem.svType : QmiLocSystem → GnssAidingDataSvTypeBits
  | QMI_LOC_SYSTEM_GPS_V02 => GNSS_AIDING_DATA_SV_TYPE_GPS_BIT
  | QMI_LOC_SYSTEM_GLO_V02 => GNSS_AIDING_DATA_SV_TYPE_GLONASS_BIT
  | QMI_LOC_SYSTEM_BDS_V02 => GNSS_AIDING_DATA_SV_TYPE_BEIDOU_BIT
  | QMI_LOC_SYSTEM_GAL_V02 => GNSS_AIDING_DATA_SV_TYPE_GALILEO_BIT
  | QMI_LOC_SYSTEM_QZSS_V02 => GNSS_AIDING_DATA_SV_TYPE_QZSS_BIT
  | QMI_LOC_SYSTEM_NAVIC_V02 => GNSS_AIDING_DATA_SV_TYPE_NAVIC_BIT

def QmiDeleteCommonMask.kind : QmiDeleteCommonMask → GnssAidingDataCommonBits
  | QMI_LOC_DELETE_COMMON_MASK_POS_V02 => GNSS_AIDING_DATA_COMMON_POSITION_BIT
  | QMI_LOC_DELETE_COMMON_MASK_TIME_V02 => GNSS_AIDING_DATA_COMMON_TIME_BIT
  | QMI_LOC_DELETE_COMMON_MASK_UTC_V02 => GNSS_AIDING_DATA_COMMON_UTC_BIT
  | QMI_LOC_DELETE_COMMON_MASK_RTI_V02 => GNSS_AIDING_DATA_COMMON_RTI_BIT
  | QMI_LOC_DELETE_COMMON_MASK_FREQ_BIAS_EST_V02 => GNSS_AIDING_DATA_COMMON_FREQ_BIAS_EST_BIT

/-- A kind of data, of a constellation or common to all. -/
inductive AidingItem where
  | sv (kind : GnssAidingDataSvBits) (svType : GnssAidingDataSvTypeBits)
  | common (kind : GnssAidingDataCommonBits)

def GnssAidingData.Asks (data : GnssAidingData) : AidingItem → Prop
  | .sv k c => data.AsksSv k ∧ data.AsksType c
  | .common k => data.AsksCommon k

/-- The bits of deleteGnssDataMask; one that names no constellation is of GPS. -/
def gnssDataItem : Nat → Option AidingItem
  | 0 => some (.sv GNSS_AIDING_DATA_SV_DIRECTION_BIT GNSS_AIDING_DATA_SV_TYPE_GPS_BIT)
  | 1 => some (.sv GNSS_AIDING_DATA_SV_STEER_BIT GNSS_AIDING_DATA_SV_TYPE_GPS_BIT)
  | 2 => some (.sv GNSS_AIDING_DATA_SV_TIME_BIT GNSS_AIDING_DATA_SV_TYPE_GPS_BIT)
  | 3 => some (.sv GNSS_AIDING_DATA_SV_ALMANAC_CORR_BIT GNSS_AIDING_DATA_SV_TYPE_GPS_BIT)
  | 4 => some (.sv GNSS_AIDING_DATA_SV_DIRECTION_BIT GNSS_AIDING_DATA_SV_TYPE_GLONASS_BIT)
  | 5 => some (.sv GNSS_AIDING_DATA_SV_STEER_BIT GNSS_AIDING_DATA_SV_TYPE_GLONASS_BIT)
  | 6 => some (.sv GNSS_AIDING_DATA_SV_TIME_BIT GNSS_AIDING_DATA_SV_TYPE_GLONASS_BIT)
  | 7 => some (.sv GNSS_AIDING_DATA_SV_ALMANAC_CORR_BIT GNSS_AIDING_DATA_SV_TYPE_GLONASS_BIT)
  | 10 => some (.common GNSS_AIDING_DATA_COMMON_POSITION_BIT)
  | 11 => some (.common GNSS_AIDING_DATA_COMMON_TIME_BIT)
  | 12 => some (.sv GNSS_AIDING_DATA_SV_IONOSPHERE_BIT GNSS_AIDING_DATA_SV_TYPE_GPS_BIT)
  | 13 => some (.common GNSS_AIDING_DATA_COMMON_UTC_BIT)
  | 14 => some (.sv GNSS_AIDING_DATA_SV_HEALTH_BIT GNSS_AIDING_DATA_SV_TYPE_GPS_BIT)
  | 15 => some (.sv GNSS_AIDING_DATA_SV_SA_DATA_BIT GNSS_AIDING_DATA_SV_TYPE_GPS_BIT)
  | 16 => some (.common GNSS_AIDING_DATA_COMMON_RTI_BIT)
  | 17 => some (.sv GNSS_AIDING_DATA_SV_NO_EXIST_BIT GNSS_AIDING_DATA_SV_TYPE_GPS_BIT)
  | 18 => some (.common GNSS_AIDING_DATA_COMMON_FREQ_BIAS_EST_BIT)
  | _ => none

/-- The bits of deleteSvInfoMask. -/
def svInfoKind : Nat → Option GnssAidingDataSvBits
  | 0 => some GNSS_AIDING_DATA_SV_EPHEMERIS_BIT
  | 1 => some GNSS_AIDING_DATA_SV_ALMANAC_BIT
  | _ => none

/-- The constellation of a satellite, if its id is in the range of it. -/
def DeleteSvInfo.svType (info : DeleteSvInfo) : Option GnssAidingDataSvTypeBits :=
  match info.system with
  | .eQMI_LOC_SV_SYSTEM_GPS_V02 =>
    if 1 ≤ info.gnssSvId ∧ info.gnssSvId ≤ 32 then some GNSS_AIDING_DATA_SV_TYPE_GPS_BIT
    else none
  | .eQMI_LOC_SV_SYSTEM_GLONASS_V02 =>
    if 65 ≤ info.gnssSvId ∧ info.gnssSvId ≤ 96 then some GNSS_AIDING_DATA_SV_TYPE_GLONASS_BIT
    else none
  | _ => none

/-! ## What the requests are to be -/

namespace DeleteGNSSServiceDataReq

variable (req : DeleteGNSSServiceDataReq)

def NamesSv (q : QmiDeleteDataMask) : Prop :=
  ∃ d ∈ req.deleteSatelliteData, d.deleteSatelliteDataMask &&& q.bit ≠ 0#32

def NamesSystem (q : QmiLocSystem) : Prop :=
  ∃ d ∈ req.deleteSatelliteData, d.system &&& q.bit ≠ 0#32

def NamesCommon (q : QmiDeleteCommonMask) : Prop :=
  ∃ m ∈ req.deleteCommonDataMask, m &&& q.bit ≠ 0#32

/-- The kinds that are asked for, all of them and no others, of the
constellations that are asked for. -/
structure Exact (data : GnssAidingData) : Prop where
  not_all : req.deleteAllFlag = false
  sv_named : ∀ q, req.NamesSv q → ∃ k, q.kind = some k ∧ data.AsksSv k
  sv_asked : ∀ k, data.AsksSv k → ∃ q, q.kind = some k ∧ req.NamesSv q
  system_iff : (∃ k, data.AsksSv k) → ∀ q, req.NamesSystem q ↔ data.AsksType q.svType
  common_iff : ∀ q, req.NamesCommon q ↔ data.AsksCommon q.kind
  cellDb_iff : req.deleteCellDbDataMask = some deleteCellDbAll ↔
    data.AsksCommon GNSS_AIDING_DATA_COMMON_CELLDB_BIT
  cellDb_all : ∀ m ∈ req.deleteCellDbDataMask, m = deleteCellDbAll

end DeleteGNSSServiceDataReq

/-- Nothing but what is asked for. -/
structure DeleteAssistDataReq.Within (req : DeleteAssistDataReq) (data : GnssAidingData) :
    Prop where
  not_all : req.deleteAllFlag = false
  svInfo : ∀ infos ∈ req.deleteSvInfoList, ∀ info ∈ infos, ∀ i,
    info.deleteSvInfoMask.getLsbD i = true →
      ∃ k c, svInfoKind i = some k ∧ info.svType = some c ∧ data.Asks (.sv k c)
  gnssData : ∀ m ∈ req.deleteGnssDataMask, ∀ i, m.getLsbD i = true →
    ∃ item, gnssDataItem i = some item ∧ data.Asks item
  cellDb : req.deleteCellDbDataMask ≠ none → data.Asks (.common GNSS_AIDING_DATA_COMMON_CELLDB_BIT)

def DeleteRequest.Right (data : GnssAidingData) : DeleteRequest → Prop
  | gnssServiceData req => req.Exact data
  | assistData req => req.Within data

/-- No SV polynomials, and of the three constellations that are mixed up all or
none. -/
def GnssAidingData.Nameable (data : GnssAidingData) : Prop :=
  ¬ data.AsksSv GNSS_AIDING_DATA_SV_POLY_BIT ∧ ((∃ k, data.AsksSv k) →
      (data.AsksType GNSS_AIDING_DATA_SV_TYPE_QZSS_BIT ↔
          data.AsksType GNSS_AIDING_DATA_SV_TYPE_BEIDOU_BIT) ∧
        (data.AsksType GNSS_AIDING_DATA_SV_TYPE_BEIDOU_BIT ↔
          data.AsksType GNSS_AIDING_DATA_SV_TYPE_GALILEO_BIT))

/-! ## The first request -/

theorem QmiDeleteDataMask.bit_and_bit (q q' : QmiDeleteDataMask) :
    q.bit &&& q'.bit ≠ 0#32 ↔ q = q' := by
  have hlt : ∀ q : QmiDeleteDataMask, q.ctorIdx < 32 := by
    intro q
    cases q <;> decide
  rw [QmiDeleteDataMask.bit, QmiDeleteDataMask.bit, twoPow_and_twoPow_ne_zero (hlt q) (hlt q'),
    twoPow_inj (hlt q) (hlt q')]
  refine ⟨fun h => ?_, congrArg _⟩
  cases q <;> cases q' <;> first | rfl | cases h

theorem QmiLocSystem.bit_and_bit (q q' : QmiLocSystem) : q.bit &&& q'.bit ≠ 0#32 ↔ q = q' := by
  cases q <;> cases q' <;> decide

theorem QmiDeleteCommonMask.bit_and_bit (q q' : QmiDeleteCommonMask) :
    q.bit &&& q'.bit ≠ 0#32 ↔ q = q' := by
  cases q <;> cases q' <;> decide

section Rows

variable {α β : Type} {a : α → BitVec 32} {b : β → BitVec 32} {rows : List (α × β)}

theorem apply_rows_iff (hb : ∀ q q', b q &&& b q' ≠ 0#32 ↔ q = q') (m : BitVec 32) (q : β) :
    BitTable.apply (rows.map fun row => (a row.1, b row.2)) m &&& b q ≠ 0#32 ↔
      ∃ k, (k, q) ∈ rows ∧ m &&& a k ≠ 0#32 := by
  rw [BitTable.apply_and_ne_zero_iff]
  constructor
  · rintro ⟨_, hrow, hm, hq⟩
    obtain ⟨⟨k, q'⟩, hmem, rfl⟩ := mem_map.mp hrow
    obtain rfl := (hb q' q).mp hq
    exact ⟨k, hmem, hm⟩
  · rintro ⟨k, hmem, hm⟩
    exact ⟨_, mem_map.mpr ⟨_, hmem, rfl⟩, hm, (hb q q).mpr rfl⟩

theorem tested_rows_iff (m : BitVec 32) : tested (rows.map fun row => (a row.1, b row.2)) m = true ↔
      ∃ row ∈ rows, m &&& a row.1 ≠ 0#32 := by
  simp only [tested, List.any_map, List.any_eq_true, Function.comp_apply, bne_iff_ne]
  exact Iff.rfl

end Rows

section First

variable {data : GnssAidingData}

theorem deleteGnssReq_eq (hall : data.deleteAll = false) : deleteGnssReq data =
    { deleteAllFlag := false
      deleteSatelliteData :=
        if tested svTable data.svMask then
          some ⟨typeTable.apply data.svTypeMask, svTable.apply data.svMask⟩
        else none
      deleteCommonDataMask :=
        if tested commonTable data.commonMask then some (commonTable.apply data.commonMask)
        else none
      deleteCellDbDataMask := deleteCellDbDataMask data } := by
  rw [deleteGnssReq, hall, if_neg Bool.false_ne_true]

theorem tested_svTable_iff :
    tested svTable data.svMask = true ↔ ∃ row ∈ svRows, data.AsksSv row.1 :=
  tested_rows_iff data.svMask

theorem namesSv_iff (hall : data.deleteAll = false) (q : QmiDeleteDataMask) :
    (deleteGnssReq data).NamesSv q ↔ ∃ k, (k, q) ∈ svRows ∧ data.AsksSv k := by
  have hrows : svTable.apply data.svMask &&& q.bit ≠ 0#32 ↔
      ∃ k, (k, q) ∈ svRows ∧ data.AsksSv k :=
    apply_rows_iff QmiDeleteDataMask.bit_and_bit data.svMask q
  rw [deleteGnssReq_eq hall]
  constructor
  · rintro ⟨d, hd, hq⟩
    obtain rfl := some.inj (mem_ite_none_right.mp hd).2
    exact hrows.mp hq
  · intro h
    obtain ⟨k, hmem, hk⟩ := h
    refine ⟨_, mem_ite_none_right.mpr ⟨tested_svTable_iff.mpr ⟨_, hmem, hk⟩, rfl⟩, ?_⟩
    exact hrows.mpr ⟨k, hmem, hk⟩

theorem namesSystem_iff (hall : data.deleteAll = false) (q : QmiLocSystem) :
    (deleteGnssReq data).NamesSystem q ↔
      (∃ row ∈ svRows, data.AsksSv row.1) ∧ ∃ c, (c, q) ∈ typeRows ∧ data.AsksType c := by
  have hrows : typeTable.apply data.svTypeMask &&& q.bit ≠ 0#32 ↔
      ∃ c, (c, q) ∈ typeRows ∧ data.AsksType c :=
    apply_rows_iff QmiLocSystem.bit_and_bit data.svTypeMask q
  rw [deleteGnssReq_eq hall]
  constructor
  · rintro ⟨d, hd, hq⟩
    obtain ⟨htested, hd⟩ := mem_ite_none_right.mp hd
    obtain rfl := some.inj hd
    exact ⟨tested_svTable_iff.mp htested, hrows.mp hq⟩
  · rintro ⟨htested, hc⟩
    exact ⟨_, mem_ite_none_right.mpr ⟨tested_svTable_iff.mpr htested, rfl⟩, hrows.mpr hc⟩

theorem namesCommon_iff (hall : data.deleteAll = false) (q : QmiDeleteCommonMask) :
    (deleteGnssReq data).NamesCommon q ↔ ∃ k, (k, q) ∈ commonRows ∧ data.AsksCommon k := by
  have hrows : commonTable.apply data.commonMask &&& q.bit ≠ 0#32 ↔
      ∃ k, (k, q) ∈ commonRows ∧ data.AsksCommon k :=
    apply_rows_iff QmiDeleteCommonMask.bit_and_bit data.commonMask q
  rw [deleteGnssReq_eq hall]
  constructor
  · rintro ⟨m, hm, hq⟩
    obtain rfl := some.inj (mem_ite_none_right.mp hm).2
    exact hrows.mp hq
  · rintro ⟨k, hmem, hk⟩
    have htested : tested commonTable data.commonMask = true :=
      (tested_rows_iff data.commonMask).mpr ⟨_, hmem, hk⟩
    exact ⟨_, mem_ite_none_right.mpr ⟨htested, rfl⟩, hrows.mpr ⟨k, hmem, hk⟩⟩

theorem deleteCellDbDataMask_eq : deleteCellDbDataMask data =
    if data.AsksCommon GNSS_AIDING_DATA_COMMON_CELLDB_BIT then some deleteCellDbAll else none := by
  rw [deleteCellDbDataMask, BitVec.and_comm]
  rfl

theorem exists_svRow (k : GnssAidingDataSvBits) (hk : k ≠ GNSS_AIDING_DATA_SV_POLY_BIT) :
    ∃ q, (k, q) ∈ svRows := by
  have hfound : ∀ k, k = GNSS_AIDING_DATA_SV_POLY_BIT ∨ k ∈ svRows.map Prod.fst := by
    intro k
    cases k <;> decide
  obtain ⟨row, hmem, rfl⟩ := mem_map.mp ((hfound k).resolve_left hk)
  exact ⟨row.2, hmem⟩

theorem svRows_kind : ∀ row ∈ svRows, row.2.kind = some row.1 := by decide

theorem commonRows_kind (k : GnssAidingDataCommonBits) (q : QmiDeleteCommonMask) :
    (k, q) ∈ commonRows ↔ q.kind = k := by
  cases q <;> cases k <;> decide

theorem deleteGnssReq_exact_iff (hall : data.deleteAll = false) :
    (deleteGnssReq data).Exact data ↔ data.Nameable := by
  constructor
  · intro h
    have hpoly : ¬ data.AsksSv GNSS_AIDING_DATA_SV_POLY_BIT := by
      intro hk
      obtain ⟨q, hq, -⟩ := h.sv_asked _ hk
      cases q <;> cases hq
    refine ⟨hpoly, fun hany => ?_⟩
    have hsystem := h.system_iff hany
    obtain ⟨k, hk⟩ := hany
    have hne : k ≠ GNSS_AIDING_DATA_SV_POLY_BIT := by
      rintro rfl
      exact hpoly hk
    obtain ⟨q₀, hq₀⟩ := exists_svRow k hne
    have hrow : ∀ q, (∃ c, (c, q) ∈ typeRows ∧ data.AsksType c) ↔ data.AsksType q.svType := by
      intro q
      rw [← hsystem q, namesSystem_iff hall]
      exact ⟨fun hc => ⟨⟨_, hq₀, hk⟩, hc⟩, And.right⟩
    have hbds := hrow QMI_LOC_SYSTEM_BDS_V02
    have hgal := hrow QMI_LOC_SYSTEM_GAL_V02
    simp only [typeRows, mem_cons, Prod.mk.injEq, reduceCtorEq, and_false, and_true,
      not_mem_nil, or_false, false_or, exists_eq_left, QmiLocSystem.svType] at hbds hgal
    exact ⟨hbds, hgal⟩
  · rintro ⟨hpoly, htypes⟩
    exact {
      not_all := by rw [deleteGnssReq_eq hall]
      sv_named := fun q hq => by
        obtain ⟨k, hmem, hk⟩ := (namesSv_iff hall q).mp hq
        exact ⟨k, svRows_kind _ hmem, hk⟩
      sv_asked := fun k hk => by
        have hne : k ≠ GNSS_AIDING_DATA_SV_POLY_BIT := by
          rintro rfl
          exact hpoly hk
        obtain ⟨q, hmem⟩ := exists_svRow k hne
        exact ⟨q, svRows_kind _ hmem, (namesSv_iff hall q).mpr ⟨k, hmem, hk⟩⟩
      system_iff := fun hany q => by
        obtain ⟨hqzss, hbeidou⟩ := htypes hany
        obtain ⟨k, hk⟩ := hany
        have hne : k ≠ GNSS_AIDING_DATA_SV_POLY_BIT := by
          rintro rfl
          exact hpoly hk
        obtain ⟨q₀, hq₀⟩ := exists_svRow k hne
        rw [namesSystem_iff hall, and_iff_right ⟨_, hq₀, hk⟩]
        cases q <;>
          simp only [typeRows, mem_cons, Prod.mk.injEq, reduceCtorEq, and_false, and_true,
            not_mem_nil, or_false, false_or, exists_eq_left, QmiLocSystem.svType]
        · exact hqzss
        · exact hbeidou
        · exact (hqzss.trans hbeidou).symm
      common_iff := fun q => by
        rw [namesCommon_iff hall]
        simp only [commonRows_kind, exists_eq_left']
      cellDb_iff := by
        rw [deleteGnssReq_eq hall, deleteCellDbDataMask_eq]
        simp only [ite_none_right_eq_some, and_true]
      cellDb_all := by
        rw [deleteGnssReq_eq hall, deleteCellDbDataMask_eq]
        intro m hm
        exact (some.inj (mem_ite_none_right.mp hm).2).symm }

end First

/-! ## The fallback -/

section Fallback

variable {data : GnssAidingData}

theorem svInfoMask_bit {e a : Prop} [Decidable e] [Decidable a] {i : Nat}
    (hbit : (let mask := if e then 0 ||| QMI_LOC_MASK_DELETE_EPHEMERIS else 0
      if a then mask ||| QMI_LOC_MASK_DELETE_ALMANAC else mask).getLsbD i = true) :
    (e ∧ i = 0) ∨ (a ∧ i = 1) := by
  have hephemeris : QMI_LOC_MASK_DELETE_EPHEMERIS.getLsbD i = true ↔ i = 0 :=
    getLsbD_twoPow_iff (w := 8) (n := 0) (by decide)
  have halmanac : QMI_LOC_MASK_DELETE_ALMANAC.getLsbD i = true ↔ i = 1 :=
    getLsbD_twoPow_iff (w := 8) (n := 1) (by decide)
  have hmask : ((if e then 0 ||| QMI_LOC_MASK_DELETE_EPHEMERIS else 0).getLsbD i = true) ↔
      e ∧ i = 0 := by
    rw [← hephemeris]
    by_cases he : e <;> simp [he]
  by_cases ha : a
  · rw [if_pos ha, BitVec.getLsbD_or, Bool.or_eq_true] at hbit
    exact hbit.imp hmask.mp fun h => ⟨ha, halmanac.mp h⟩
  · rw [if_neg ha] at hbit
    exact .inl (hmask.mp hbit)

theorem deleteSvInfoList_within {infos : List DeleteSvInfo}
    (hinfos : infos ∈ deleteSvInfoList data) {info : DeleteSvInfo} (hinfo : info ∈ infos) (i : Nat)
    (hbit : info.deleteSvInfoMask.getLsbD i = true) :
    ∃ k c, svInfoKind i = some k ∧ info.svType = some c ∧ data.Asks (.sv k c) := by
  obtain ⟨⟨-, hgps⟩, hinfos⟩ := mem_ite_none_right.mp hinfos
  obtain rfl := some.inj hinfos
  obtain ⟨n, hn, rfl⟩ := mem_map.mp hinfo
  have hrange : ∀ n ∈ List.range SV_ID_RANGE,
      1 ≤ GPS_SV_ID_OFFSET + UInt16.ofNat n ∧ GPS_SV_ID_OFFSET + UInt16.ofNat n ≤ 32 := by
    decide
  have hsystem : DeleteSvInfo.svType ⟨GPS_SV_ID_OFFSET + UInt16.ofNat n,
      .eQMI_LOC_SV_SYSTEM_GPS_V02, 0⟩ = some GNSS_AIDING_DATA_SV_TYPE_GPS_BIT :=
    if_pos (hrange n hn)
  rcases svInfoMask_bit hbit with ⟨hk, rfl⟩ | ⟨hk, rfl⟩
  · exact ⟨_, _, rfl, hsystem, hk, hgps⟩
  · exact ⟨_, _, rfl, hsystem, hk, hgps⟩

theorem gnssDataTests_within : ∀ row ∈ gnssDataTests data, row.1 = true →
    ∀ i, row.2.getLsbD i = true → ∃ item, gnssDataItem i = some item ∧ data.Asks item := by
  have hone : ∀ (n : Nat) {item : AidingItem} {p : Prop} {_ : Decidable p}, n < 64 →
      gnssDataItem n = some item → (p → data.Asks item) → decide p = true →
        ∀ i, (BitVec.twoPow 64 n).getLsbD i = true →
          ∃ item, gnssDataItem i = some item ∧ data.Asks item := by
    intro n item p _ hn hitem hasks hp i hi
    obtain rfl := (getLsbD_twoPow_iff hn).mp hi
    exact ⟨item, hitem, hasks (of_decide_eq_true hp)⟩
  simp only [gnssDataTests, forall_mem_cons]
  exact ⟨hone 10 (by decide) rfl id, hone 11 (by decide) rfl id, hone 12 (by decide) rfl id,
    hone 13 (by decide) rfl id, hone 14 (by decide) rfl id, hone 0 (by decide) rfl id,
    hone 15 (by decide) rfl id, hone 16 (by decide) rfl id, fun _ h => absurd h not_mem_nil⟩

theorem deleteGnssDataMask_within {m : BitVec 64} (hm : m ∈ deleteGnssDataMask data) (i : Nat)
    (hbit : m.getLsbD i = true) : ∃ item, gnssDataItem i = some item ∧ data.Asks item := by
  obtain ⟨-, hm⟩ := mem_ite_none_left.mp hm
  obtain rfl := some.inj hm
  rcases (getLsbD_foldl_or Prod.snd _).mp hbit with hzero | ⟨row, hrow, hi⟩
  · rw [BitVec.ofNat_eq_ofNat, BitVec.getLsbD_zero] at hzero
    cases hzero
  · obtain ⟨hmem, htest⟩ := mem_filter.mp hrow
    exact gnssDataTests_within row hmem htest i hi

theorem deleteReq_within (hall : data.deleteAll = false) : (deleteReq data).Within data := by
  have heq : deleteReq data = ⟨false, deleteSvInfoList data, deleteGnssDataMask data,
      deleteCellDbDataMask data⟩ := by
    rw [deleteReq, hall, if_neg Bool.false_ne_true]
  rw [heq]
  exact {
    not_all := rfl
    svInfo := fun infos hinfos info hinfo => deleteSvInfoList_within hinfos hinfo
    gnssData := fun m hm => deleteGnssDataMask_within hm
    cellDb := fun hsome => by
      rw [deleteCellDbDataMask_eq] at hsome
      obtain ⟨m, hm⟩ := ne_none_iff_exists'.mp hsome
      exact (mem_ite_none_right.mp hm).1 }

end Fallback

/-! ## The requests -/

/-- Whatever the answer, the requests are right if and only if the first one,
where it is made, can name what is asked for. -/
theorem deleteAidingData_right_iff (data : GnssAidingData) (isNewApiSupported : Bool)
    (answered : LocClientStatus) (hall : data.deleteAll = false) :
    (∀ req ∈ (deleteAidingData data isNewApiSupported answered).2, req.Right data) ↔
      (isNewApiSupported = true → data.Nameable) := by
  have hfallback : (DeleteRequest.assistData (deleteReq data)).Right data := deleteReq_within hall
  have hfirst : (DeleteRequest.gnssServiceData (deleteGnssReq data)).Right data ↔ data.Nameable :=
    deleteGnssReq_exact_iff hall
  rw [deleteAidingData]
  cases isNewApiSupported with
  | false =>
    simp [hfallback]
  | true =>
    simp only [if_true, forall_const, ← hfirst]
    split
    · simp [hfallback]
    · simp

/-- Ephemerides of QZSS, BeiDou and Galileo. -/
def threeTypes : GnssAidingData := ⟨false, 0x1, 0x1C, 0x0⟩

theorem deleteAidingData_right_threeTypes : threeTypes.deleteAll = false ∧
      ∀ req ∈ (deleteAidingData threeTypes true .eLOC_CLIENT_SUCCESS).2, req.Right threeTypes := by
  refine ⟨rfl, (deleteAidingData_right_iff threeTypes true _ rfl).mpr fun _ => ⟨by decide, ?_⟩⟩
  exact fun _ => ⟨by decide, by decide⟩

/-- Ephemerides of QZSS: those of BeiDou are deleted. -/
def onlyQzss : GnssAidingData := ⟨false, 0x1, 0x4, 0x0⟩

theorem not_deleteAidingData_right_onlyQzss :
    ¬ ∀ req ∈ (deleteAidingData onlyQzss true .eLOC_CLIENT_SUCCESS).2, req.Right onlyQzss := by
  intro h
  have hmade : .gnssServiceData (deleteGnssReq onlyQzss) ∈
      (deleteAidingData onlyQzss true .eLOC_CLIENT_SUCCESS).2 := by
    simp [deleteAidingData]
  have hexact : (deleteGnssReq onlyQzss).Exact onlyQzss := h _ hmade
  have hbds := hexact.system_iff ⟨GNSS_AIDING_DATA_SV_EPHEMERIS_BIT, by decide⟩
    QMI_LOC_SYSTEM_BDS_V02
  have hnamed : (deleteGnssReq onlyQzss).NamesSystem QMI_LOC_SYSTEM_BDS_V02 :=
    ⟨_, rfl, by decide⟩
  exact absurd (hbds.mp hnamed) (by decide)

end LocStack.LocApi.AidingData
