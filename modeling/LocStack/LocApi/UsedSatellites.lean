/-
# `LocStack.LocApi.UsedSatellites` — the satellites of a fix, and those in view

A position report of the modem lists the satellites that the fix was computed
from, by ids whose ranges tell the constellation.  reportPosition puts them
into masks, and if there is a list of their signals also into masks of single
signals.  reportSv makes the satellite report.

    ids      1..32   65..96   193..197   201..263   301..336   401..414
    of       GPS     GLONASS  QZSS       BeiDou     Galileo    NavIC

Of the first range the lower end is not tested.
-/
import LocStack.Base.Masks
import LocStack.LocApi.Measurements
import LocStack.MsgConv.Masks

namespace LocStack.LocApi.UsedSatellites

open Base List
open MsgConv (word GnssSignalTypeBits GnssSvOptionsBits)

/-! ## Ids and signals -/

/-- Of which there are masks, `*_sv_used_ids_mask`. -/
inductive UsedSystem where
  | gps | glo | gal | bds | qzss | navic
  deriving DecidableEq

/-- The signals of which there are. -/
inductive UsedSignal where
  | gps_l1ca | gps_l1c | gps_l2 | gps_l5 | glo_g1 | glo_g2 | gal_e1 | gal_e5a | gal_e5b | bds_b1i
  | bds_b1c | bds_b2i | bds_b2ai | qzss_l1ca | qzss_l1s | qzss_l2 | qzss_l5 | sbas_l1 | bds_b2aq
  deriving DecidableEq

abbrev GnssSvUsedInPosition : Type := Masks UsedSystem 64

abbrev GnssSvMbUsedInPosition : Type := Masks UsedSignal 64

/-- *_SV_PRN_MIN -/
def UsedSystem.prnMin : UsedSystem → ℕ
  | gps => 1
  | glo => 65
  | qzss => 193
  | bds => 201
  | gal => 301
  | navic => 401

/-- *_SV_PRN_MAX -/
def UsedSystem.prnMax : UsedSystem → ℕ
  | gps => 32
  | glo => 96
  | qzss => 197
  | bds => 263
  | gal => 336
  | navic => 414

def SBAS_SV_PRN_MIN : ℕ := 120

def SBAS_SV_PRN_MAX : ℕ := 191

def GLO_SV_PRN_SLOT_UNKNOWN : UInt16 := 255

def isValInRangeInclusive (val min max : ℕ) : Bool := min ≤ val ∧ val ≤ max

/-- GNSS_SIGNAL_* -/
def signalBit (signal : GnssSignalTypeBits) : BitVec 32 := word [signal]

/-- The cases of convertQmiGnssSignalType. -/
def qmiSignals : List (BitVec 64 × GnssSignalTypeBits) :=
  [(0x00000001, .GPS_L1CA), (0x00000002, .GPS_L1C), (0x00000004, .GPS_L2), (0x00000008, .GPS_L5),
   (0x00000010, .GLONASS_G1), (0x00000020, .GLONASS_G2), (0x00000040, .GALILEO_E1),
   (0x00000080, .GALILEO_E5A), (0x00000100, .GALILEO_E5B), (0x00000200, .BEIDOU_B1I),
   (0x00000400, .BEIDOU_B1C), (0x00000800, .BEIDOU_B2I), (0x00001000, .BEIDOU_B2AI),
   (0x00002000, .QZSS_L1CA), (0x00004000, .QZSS_L1S), (0x00008000, .QZSS_L2),
   (0x00010000, .QZSS_L5), (0x00020000, .SBAS_L1), (0x00040000, .NAVIC_L5),
   (0x00080000, .BEIDOU_B2AQ)]

def convertQmiGnssSignalType (qmiGnssSignalType : BitVec 64) : BitVec 32 :=
  match qmiSignals.lookup qmiGnssSignalType with
  | some signal => signalBit signal
  | none => 0

/-- A list of signals, `len` of them; the memory has something behind it. -/
structure QmiSignalTypeList where
  len : UInt32
  elem : ℕ → BitVec 64

/-! ## Reports of a position -/

inductive SessionStatus where
  | SUCCESS | IN_PROGRESS
  /-- the others, all of them failures -/
  | other

/-- Of the location what a report is judged by. -/
structure UlpLocation where
  unpropagatedPosition : Bool
  /-- LOC_GPS_LOCATION_HAS_ACCURACY -/
  hasAccuracy : Bool
  accuracy : Float32

/-- Of a qmiLocEventPositionReportIndMsgT_v02 what the satellites are about; of
an optional list that is not valid nothing is read.  `location` is what the
other members have made of it. -/
structure PositionReport where
  sessionStatus : SessionStatus
  location : UlpLocation
  technologyMask : BitVec 32
  (expandedGnssSvUsedList gnssSvUsedList : Option (List UInt16))
  gnssSvUsedSignalTypeList : Option QmiSignalTypeList

/-- LOC_SESS_* -/
inductive LocSessStatus where
  | SUCCESS | INTERMEDIATE | FAILURE
  deriving DecidableEq

/-- Of the configuration, with what the adapter allows of fixes without
satellites. -/
structure ReportConf where
  (INTERMEDIATE_POS ACCURACY_THRES mAllowFlpNetworkFixes : UInt32)

def LOC_POS_TECH_MASK_SATELLITE : BitVec 32 := 0x00000001

def LOC_POS_TECH_MASK_SENSORS : BitVec 32 := 0x00000008

def LOC_POS_TECH_MASK_HYBRID : BitVec 32 := 0x00000080

/-- Of a GpsLocationExtended. -/
structure GpsLocationExtended where
  (hasGnssSvUsedData hasMultiband : Bool)
  gnss_sv_used_ids : GnssSvUsedInPosition
  gnss_mb_sv_used_ids : GnssSvMbUsedInPosition

/-- Set to 0. -/
def GpsLocationExtended.zero : GpsLocationExtended := ⟨false, false, Masks.none, Masks.none⟩

/-- What the adapters get. -/
structure PositionEvent where
  ulpLocation : UlpLocation
  locationExtended : GpsLocationExtended
  status : LocSessStatus
  techMask : BitVec 32

def needReport (conf : ReportConf) (ulpLocation : UlpLocation) (status : LocSessStatus)
    (techMask : BitVec 32) : Bool :=
  match status with
  | .SUCCESS =>
    (LOC_POS_TECH_MASK_SATELLITE ||| LOC_POS_TECH_MASK_SENSORS ||| LOC_POS_TECH_MASK_HYBRID) &&&
      techMask ≠ 0
  | .INTERMEDIATE =>
    conf.INTERMEDIATE_POS = 1 ∧ ¬ (ulpLocation.hasAccuracy ∧ conf.ACCURACY_THRES ≠ 0 ∧
        ulpLocation.accuracy > conf.ACCURACY_THRES.toFloat32)
  | .FAILURE => false

/-! ## The masks of a fix -/

/-- The branch that an id takes. -/
def usedSystem (gnssSvIdUsed : UInt16) : Option UsedSystem :=
  let id := gnssSvIdUsed.toNat
  if id ≤ UsedSystem.gps.prnMax then some .gps
  else if id ≥ UsedSystem.glo.prnMin ∧ id ≤ UsedSystem.glo.prnMax then some .glo
  else if id ≥ UsedSystem.bds.prnMin ∧ id ≤ UsedSystem.bds.prnMax then some .bds
  else if id ≥ UsedSystem.gal.prnMin ∧ id ≤ UsedSystem.gal.prnMax then some .gal
  else if id ≥ UsedSystem.qzss.prnMin ∧ id ≤ UsedSystem.qzss.prnMax then some .qzss
  else if id ≥ UsedSystem.navic.prnMin ∧ id ≤ UsedSystem.navic.prnMax then some .navic
  else none

/-- How far 1 is shifted there. -/
def usedShift (gnssSvIdUsed : UInt16) (system : UsedSystem) : ℤ :=
  (gnssSvIdUsed.toNat : ℤ) - system.prnMin

/-- The tests of the signal in a branch, with the masks that they add to. -/
def signalTests : UsedSystem → List (GnssSignalTypeBits × UsedSignal)
  | .gps => [(.GPS_L1CA, .gps_l1ca), (.GPS_L1C, .gps_l1c), (.GPS_L2, .gps_l2), (.GPS_L5, .gps_l5)]
  | .glo => [(.GLONASS_G1, .glo_g1), (.GLONASS_G2, .glo_g2)]
  | .bds => [(.BEIDOU_B1I, .bds_b1i), (.BEIDOU_B1C, .bds_b1c), (.BEIDOU_B2I, .bds_b2i),
      (.BEIDOU_B2AI, .bds_b2ai), (.BEIDOU_B2AQ, .bds_b2aq)]
  | .gal => [(.GALILEO_E1, .gal_e1), (.GALILEO_E5A, .gal_e5a), (.GALILEO_E5B, .gal_e5b)]
  | .qzss => [(.QZSS_L1CA, .qzss_l1ca), (.QZSS_L1S, .qzss_l1s), (.QZSS_L2, .qzss_l2),
      (.QZSS_L5, .qzss_l5)]
  | .navic => []

/-- One turn of the loop, with an id and its signal. -/
def useOne (multiBandTypesAvailable : Bool) (locationExtended : GpsLocationExtended)
    (used : UInt16 × BitVec 32) : Option GpsLocationExtended :=
  match usedSystem used.1 with
  | none => some locationExtended
  | some system => do
      let bit ← shl 64 (usedShift used.1 system)
      let tests := (signalTests system).filter fun test => used.2 &&& signalBit test.1 ≠ 0
      return { locationExtended with
        gnss_sv_used_ids := Masks.add locationExtended.gnss_sv_used_ids system bit
        gnss_mb_sv_used_ids :=
          if multiBandTypesAvailable then
            Masks.addAll locationExtended.gnss_mb_sv_used_ids (tests.map Prod.snd) bit
          else locationExtended.gnss_mb_sv_used_ids }

namespace PositionReport

variable (r : PositionReport)

/-- The first of the lists that is valid. -/
def svUsedList : List UInt16 :=
  match r.expandedGnssSvUsedList, r.gnssSvUsedList with
  | some expanded, _ => expanded
  | none, some list => list
  | none, none => []

/-- Whether one of them is valid and not empty. -/
def hasSvUsedList : Bool :=
  r.expandedGnssSvUsedList.any (· ≠ []) || r.gnssSvUsedList.any (· ≠ [])

def multiBandTypesAvailable : Bool := r.gnssSvUsedSignalTypeList.any (·.len ≠ 0)

/-- The signal at `idx`. -/
def signalAt (idx : ℕ) : BitVec 32 :=
  match r.gnssSvUsedSignalTypeList with
  | some list => convertQmiGnssSignalType (list.elem idx)
  | none => 0

/-- The entries of a list, with their signals. -/
def entries (list : List UInt16) : List (UInt16 × BitVec 32) :=
  list.zipIdx.map fun item => (item.1, r.signalAt item.2)

/-- The loop over the list, and the flags behind it. -/
def useAll : Option GpsLocationExtended := do
  let locationExtended ← (r.entries r.svUsedList).foldlM (useOne r.multiBandTypesAvailable) .zero
  return { locationExtended with
    hasGnssSvUsedData := true
    hasMultiband := r.multiBandTypesAvailable }

def locSessStatus : LocSessStatus :=
  match r.sessionStatus with
  | .IN_PROGRESS => .INTERMEDIATE
  | .SUCCESS => .SUCCESS
  | .other => .FAILURE

/-- `reportPosition`; `none` if a shift is undefined. -/
def reportPosition (conf : ReportConf) : Option PositionEvent :=
  match r.sessionStatus with
  | .SUCCESS | .IN_PROGRESS => do
      let reported := needReport conf r.location r.locSessStatus r.technologyMask
      let locationExtended ←
        if r.hasSvUsedList ∧ (r.location.unpropagatedPosition ∨ reported) then r.useAll
        else some .zero
      return ⟨r.location, locationExtended, r.locSessStatus, r.technologyMask⟩
  | .other =>
    some ⟨⟨r.location.unpropagatedPosition, false, 0⟩, .zero, .FAILURE, 0⟩

/-- How far 1 is shifted in the turns of the loop. -/
def shifts : List ℤ :=
  r.svUsedList.filterMap fun id => (usedSystem id).map (usedShift id)

end PositionReport

/-! ## Reports of satellites -/

/-- Of a qmiLocSvInfoStructT_v02 what says which satellite it is about. -/
structure QmiLocSvInfo where
  validMask : BitVec 32
  system : QmiLocSvSystem
  gnssSvId : UInt16
  svInfoMask : BitVec 8

def QMI_LOC_SV_INFO_MASK_VALID_SYSTEM : BitVec 32 := 0x00000001

def QMI_LOC_SV_INFO_MASK_VALID_GNSS_SVID : BitVec 32 := 0x00000002

def QMI_LOC_SV_INFO_MASK_VALID_SVINFO_MASK : BitVec 32 := 0x00000010

def QMI_LOC_SVINFO_MASK_HAS_EPHEMERIS : BitVec 8 := 0x01

def QMI_LOC_SVINFO_MASK_HAS_ALMANAC : BitVec 8 := 0x02

/-- A qmiLocEventGnssSvInfoIndMsgT_v02. -/
structure SvReport where
  (svList expandedSvList : Option (List QmiLocSvInfo))
  gnssSignalTypeList : Option QmiSignalTypeList

/-- Of a GnssSv. -/
structure GnssSv where
  svId : UInt16
  type : GnssSvType
  gnssSvOptionsMask : BitVec 16
  gnssSignalTypeMask : BitVec 32

def QMI_LOC_EXPANDED_SV_INFO_LIST_MAX_SIZE : ℕ := 176

def QMI_LOC_MAX_SV_USED_LIST_LENGTH : ℕ := 80

def GNSS_SV_MAX : ℕ := 176

open QmiLocSvSystem GnssSvType

/-- `getDefaultGnssSignalTypeMask`; NavIC has none. -/
def getDefaultGnssSignalTypeMask : QmiLocSvSystem → BitVec 32
  | eQMI_LOC_SV_SYSTEM_GPS_V02 => signalBit .GPS_L1CA
  | eQMI_LOC_SV_SYSTEM_GALILEO_V02 => signalBit .GALILEO_E1
  | eQMI_LOC_SV_SYSTEM_SBAS_V02 => signalBit .SBAS_L1
  | eQMI_LOC_SV_SYSTEM_GLONASS_V02 => signalBit .GLONASS_G1
  | eQMI_LOC_SV_SYSTEM_BDS_V02 | eQMI_LOC_SV_SYSTEM_COMPASS_V02 => signalBit .BEIDOU_B1I
  | eQMI_LOC_SV_SYSTEM_QZSS_V02 => signalBit .QZSS_L1CA
  | _ => 0

def UsedSystem.inRange (system : UsedSystem) (svId : UInt16) : Bool :=
  isValInRangeInclusive svId.toNat system.prnMin system.prnMax

/-- The type and the id of a satellite; `none` if the id is not valid. -/
def svIdentity (system : QmiLocSvSystem) (gnssSvId : UInt16) : Option (GnssSvType × UInt16) :=
  let keep (type : GnssSvType) (svId : UInt16) (bSvIdIsValid : Bool) :=
    if bSvIdIsValid then some (type, svId) else none
  match system with
  | eQMI_LOC_SV_SYSTEM_GPS_V02 =>
    keep GNSS_SV_TYPE_GPS gnssSvId (UsedSystem.gps.inRange gnssSvId)
  | eQMI_LOC_SV_SYSTEM_GALILEO_V02 =>
    keep GNSS_SV_TYPE_GALILEO gnssSvId (UsedSystem.gal.inRange gnssSvId)
  | eQMI_LOC_SV_SYSTEM_SBAS_V02 =>
    keep GNSS_SV_TYPE_SBAS gnssSvId
      (isValInRangeInclusive gnssSvId.toNat SBAS_SV_PRN_MIN SBAS_SV_PRN_MAX)
  | eQMI_LOC_SV_SYSTEM_GLONASS_V02 =>
    -- from 1..32 to 65..96
    let svId :=
      if gnssSvId ≠ GLO_SV_PRN_SLOT_UNKNOWN then
        gnssSvId + UInt16.ofNat UsedSystem.glo.prnMin - 1
      else gnssSvId
    keep GNSS_SV_TYPE_GLONASS svId (UsedSystem.glo.inRange svId || svId == GLO_SV_PRN_SLOT_UNKNOWN)
  | eQMI_LOC_SV_SYSTEM_BDS_V02 | eQMI_LOC_SV_SYSTEM_COMPASS_V02 =>
    keep GNSS_SV_TYPE_BEIDOU gnssSvId (UsedSystem.bds.inRange gnssSvId)
  | eQMI_LOC_SV_SYSTEM_QZSS_V02 =>
    keep GNSS_SV_TYPE_QZSS gnssSvId (UsedSystem.qzss.inRange gnssSvId)
  | eQMI_LOC_SV_SYSTEM_NAVIC_V02 =>
    keep GNSS_SV_TYPE_NAVIC gnssSvId (UsedSystem.navic.inRange gnssSvId)
  | other _ => none

namespace SvReport

variable (s : SvReport)

/-- The satellites that are looked at. -/
def svs : List QmiLocSvInfo :=
  match s.expandedSvList, s.svList with
  | some expanded, _ => (expanded.take QMI_LOC_EXPANDED_SV_INFO_LIST_MAX_SIZE).take GNSS_SV_MAX
  | none, some list => (list.take QMI_LOC_MAX_SV_USED_LIST_LENGTH).take GNSS_SV_MAX
  | none, none => []

/-- The signal of the satellite at `i`, when `count` are in the report, and
whether its frequency is known. -/
def signal (i : ℕ) (count : UInt32) (system : QmiLocSvSystem) : BitVec 32 × Bool :=
  match s.gnssSignalTypeList with
  | some list =>
    -- the length is unsigned
    if count > list.len - 1 then (0, false)
    else if list.elem i ≠ 0 then (convertQmiGnssSignalType (list.elem i), true)
    else (0, false)
  | none => (getDefaultGnssSignalTypeMask system, true)

/-- One turn of the loop, with `count` satellites in the report. -/
def svOne (i : ℕ) (count : UInt32) (sv_info : QmiLocSvInfo) : Option GnssSv :=
  if sv_info.validMask &&& QMI_LOC_SV_INFO_MASK_VALID_SYSTEM ≠ 0 ∧
      sv_info.validMask &&& QMI_LOC_SV_INFO_MASK_VALID_GNSS_SVID ≠ 0 ∧ sv_info.gnssSvId ≠ 0 then
    (svIdentity sv_info.system sv_info.gnssSvId).map fun identity =>
      let hasInfo := sv_info.validMask &&& QMI_LOC_SV_INFO_MASK_VALID_SVINFO_MASK ≠ 0
      let signal := s.signal i count sv_info.system
      let options : List (Bool × GnssSvOptionsBits) :=
        [(hasInfo && sv_info.svInfoMask &&& QMI_LOC_SVINFO_MASK_HAS_EPHEMERIS ≠ 0, .HAS_EPHEMER),
         (hasInfo && sv_info.svInfoMask &&& QMI_LOC_SVINFO_MASK_HAS_ALMANAC ≠ 0, .HAS_ALMANAC),
         (true, .HAS_GNSS_SIGNAL_TYPE), (signal.2, .HAS_CARRIER_FREQUENCY)]
      { svId := identity.2
        type := identity.1
        gnssSvOptionsMask := word ((options.filter Prod.fst).map Prod.snd)
        gnssSignalTypeMask := signal.1 }
  else none

/-- The loop, from the satellite `i` on and behind what is in the report. -/
def svLoop (i : ℕ) (found : List GnssSv) : List QmiLocSvInfo → List GnssSv
  | [] => found
  | sv_info :: svs =>
    svLoop (i + 1) (found ++ (s.svOne i (UInt32.ofNat found.length) sv_info).toList) svs

def reportSv : List GnssSv := s.svLoop 0 [] s.svs

end SvReport

/-! ## Ranges -/

section Ranges

variable {system : UsedSystem} {id : UInt16} {k : ℕ}

theorem UsedSystem.inRange_iff :
    system.inRange id = true ↔ system.prnMin ≤ id.toNat ∧ id.toNat ≤ system.prnMax :=
  decide_eq_true_iff

theorem UsedSystem.prnMax_lt (system : UsedSystem) : system.prnMax < system.prnMin + 64 := by
  cases system <;> decide

theorem usedSystem_of_inRange (h : system.inRange id = true) : usedSystem id = some system := by
  obtain ⟨hmin, hmax⟩ := UsedSystem.inRange_iff.mp h
  unfold usedSystem
  cases system <;> simp only [UsedSystem.prnMin, UsedSystem.prnMax] at * <;> grind

theorem UsedSystem.inRange_unique {system' : UsedSystem} (h : system.inRange id = true)
    (h' : system'.inRange id = true) : system = system' :=
  Option.some.inj ((usedSystem_of_inRange h).symm.trans (usedSystem_of_inRange h'))

theorem usedShift_lt (h : usedSystem id = some system) : usedShift id system < 64 := by
  unfold usedShift
  unfold usedSystem at h
  cases system <;> simp only [UsedSystem.prnMin, UsedSystem.prnMax] at * <;> grind

/-- The id of a satellite is the `k`th of its constellation. -/
def IsKth (id : UInt16) (system : UsedSystem) (k : ℕ) : Prop :=
  system.inRange id = true ∧ id.toNat = system.prnMin + k

theorem exists_isKth (h : system.inRange id = true) : ∃ k < 64, IsKth id system k := by
  obtain ⟨hmin, hmax⟩ := UsedSystem.inRange_iff.mp h
  obtain ⟨k, hk⟩ := Nat.exists_eq_add_of_le hmin
  have hlt : id.toNat < system.prnMin + 64 := Nat.lt_of_le_of_lt hmax system.prnMax_lt
  rw [hk] at hlt
  exact ⟨k, Nat.lt_of_add_lt_add_left hlt, h, hk⟩

theorem IsKth.usedShift (h : IsKth id system k) : usedShift id system = k := by
  unfold UsedSatellites.usedShift
  rw [h.2]
  omega

theorem IsKth.unique {id' : UInt16} (h : IsKth id system k) (h' : IsKth id' system k) :
    id = id' :=
  UInt16.toNat_inj.mp (h.2.trans h'.2.symm)

end Ranges

/-! ## The signals of the masks -/

section Signals

variable {system system' : UsedSystem} {test test' : GnssSignalTypeBits × UsedSignal}

theorem signalBit_eq_twoPow (signal : GnssSignalTypeBits) :
    ∃ n < 32, signalBit signal = BitVec.twoPow 32 n := by
  refine ⟨signal.ctorIdx, ?_, ?_⟩
  · cases signal <;> decide
  · cases signal <;> rfl

/-- A word of at most one signal. -/
def IsSignal (mask : BitVec 32) : Prop := mask = 0 ∨ ∃ signal, mask = signalBit signal

theorem isSignal_convertQmiGnssSignalType (qmiGnssSignalType : BitVec 64) :
    IsSignal (convertQmiGnssSignalType qmiGnssSignalType) := by
  unfold convertQmiGnssSignalType
  cases qmiSignals.lookup qmiGnssSignalType with
  | none => exact .inl rfl
  | some signal => exact .inr ⟨signal, rfl⟩

theorem IsSignal.and_ne_zero_iff {mask : BitVec 32} (h : IsSignal mask)
    (signal : GnssSignalTypeBits) : mask &&& signalBit signal ≠ 0 ↔ mask = signalBit signal := by
  obtain ⟨k, hk, hsignal⟩ := signalBit_eq_twoPow signal
  rw [hsignal]
  rcases h with rfl | ⟨signal', rfl⟩
  · refine iff_of_false (fun hne => hne BitVec.zero_and) fun heq => ?_
    have hbit := (getLsbD_twoPow_iff hk).mpr rfl
    rw [← heq] at hbit
    exact Bool.false_ne_true (BitVec.getLsbD_zero.symm.trans hbit)
  · obtain ⟨n, hn, hsignal'⟩ := signalBit_eq_twoPow signal'
    rw [hsignal']
    exact twoPow_and_twoPow_ne_zero hn hk

theorem signalTests_inj (h : test ∈ signalTests system) (h' : test' ∈ signalTests system')
    (heq : test.2 = test'.2) : system = system' ∧ signalBit test.1 = signalBit test'.1 := by
  have hall : ∀ t ∈ signalTests system, ∀ t' ∈ signalTests system', t.2 = t'.2 →
      system = system' ∧ signalBit t.1 = signalBit t'.1 := by
    cases system <;> cases system' <;> decide
  exact hall test h test' h' heq

theorem signalTests_unique (h : test ∈ signalTests system) (h' : test' ∈ signalTests system)
    (heq : signalBit test.1 = signalBit test'.1) : test.2 = test'.2 := by
  have hall : ∀ t ∈ signalTests system, ∀ t' ∈ signalTests system,
      signalBit t.1 = signalBit t'.1 → t.2 = t'.2 := by
    cases system <;> decide
  exact hall test h test' h' heq

end Signals

/-! ## What the masks of a fix have -/

/-- A number in one of the masks. -/
inductive UsedId where
  | sv (system : UsedSystem) (k : ℕ)
  | mb (signal : UsedSignal) (k : ℕ)

def GpsLocationExtended.Has (locationExtended : GpsLocationExtended) : UsedId → Prop
  | .sv system k => Masks.Has locationExtended.gnss_sv_used_ids system k
  | .mb signal k => Masks.Has locationExtended.gnss_mb_sv_used_ids signal k

/-- An entry is found there. -/
def IsAt (multiBandTypesAvailable : Bool) (used : UInt16 × BitVec 32) : UsedId → Prop
  | .sv system k => IsKth used.1 system k
  | .mb signal k => multiBandTypesAvailable = true ∧ ∃ system, IsKth used.1 system k ∧
      ∃ test ∈ signalTests system, test.2 = signal ∧ used.2 &&& signalBit test.1 ≠ 0

theorem useOne_eq {multiBandTypesAvailable : Bool} {used : UInt16 × BitVec 32}
    (hnamed : ∃ system : UsedSystem, system.inRange used.1 = true) (e : GpsLocationExtended) :
    ∃ e', useOne multiBandTypesAvailable e used = some e' ∧
      ∀ x, e'.Has x ↔ e.Has x ∨ IsAt multiBandTypesAvailable used x := by
  obtain ⟨system, hrange⟩ := hnamed
  obtain ⟨n, hn, hkth⟩ := exists_isKth hrange
  have honly : ∀ system' k, IsKth used.1 system' k ↔ system' = system ∧ k = n := by
    intro system' k
    constructor
    · intro h
      obtain rfl := UsedSystem.inRange_unique h.1 hrange
      exact ⟨rfl, Nat.add_left_cancel (h.2.symm.trans hkth.2)⟩
    · rintro ⟨rfl, rfl⟩
      exact hkth
  have hshift : shl 64 (usedShift used.1 system) = some (BitVec.twoPow 64 n) := by
    rw [hkth.usedShift]
    exact shl_natCast hn
  unfold useOne
  rw [usedSystem_of_inRange hrange]
  dsimp only
  rw [hshift]
  refine ⟨_, rfl, fun x => ?_⟩
  cases x with
  | sv system' k => exact (Masks.has_add hn).trans (or_congr_right (honly system' k).symm)
  | mb signal k =>
    cases multiBandTypesAvailable with
    | false => exact (or_iff_left fun h => Bool.false_ne_true h.1).symm
    | true =>
      refine (Masks.has_addAll hn _).trans (or_congr_right ?_)
      constructor
      · rintro ⟨hmem, rfl⟩
        obtain ⟨test, htest, rfl⟩ := mem_map.mp hmem
        obtain ⟨htest, hbit⟩ := mem_filter.mp htest
        exact ⟨rfl, system, hkth, test, htest, rfl, of_decide_eq_true hbit⟩
      · rintro ⟨-, system', hkth', test, htest, rfl, hbit⟩
        obtain ⟨rfl, rfl⟩ := (honly system' k).mp hkth'
        exact ⟨mem_map.mpr ⟨test, mem_filter.mpr ⟨htest, decide_eq_true hbit⟩, rfl⟩,
          rfl⟩

namespace PositionReport

variable {r : PositionReport}

/-- The lists name satellites of the six constellations. -/
def Named (r : PositionReport) : Prop :=
  ∀ list, (r.expandedGnssSvUsedList = some list ∨ r.gnssSvUsedList = some list) →
    ∀ id ∈ list, ∃ system : UsedSystem, system.inRange id = true

theorem Named.svUsedList (h : r.Named) :
    ∀ id ∈ r.svUsedList, ∃ system : UsedSystem, system.inRange id = true := by
  intro id hid
  unfold PositionReport.svUsedList at hid
  cases hexpanded : r.expandedGnssSvUsedList with
  | some list =>
    rw [hexpanded] at hid
    exact h list (.inl hexpanded) id hid
  | none =>
    cases hlist : r.gnssSvUsedList with
    | some list =>
      rw [hexpanded, hlist] at hid
      exact h list (.inr hlist) id hid
    | none =>
      rw [hexpanded, hlist] at hid
      cases hid

variable {list : List UInt16} {used : UInt16 × BitVec 32}

theorem fst_mem_of_mem_entries (h : used ∈ r.entries list) : used.1 ∈ list := by
  obtain ⟨item, hitem, rfl⟩ := mem_map.mp h
  exact fst_mem_of_mem_zipIdx hitem

theorem exists_mem_entries (r : PositionReport) {id : UInt16} (h : id ∈ list) :
    ∃ used ∈ r.entries list, used.1 = id := by
  obtain ⟨idx, hidx⟩ := mem_iff_getElem?.mp h
  exact ⟨_, mem_map.mpr ⟨(id, idx), mk_mem_zipIdx_iff_getElem?.mpr hidx, rfl⟩, rfl⟩

theorem isSignal_of_mem_entries (h : used ∈ r.entries list) : IsSignal used.2 := by
  obtain ⟨item, -, rfl⟩ := mem_map.mp h
  show IsSignal (r.signalAt item.2)
  unfold signalAt
  cases r.gnssSvUsedSignalTypeList with
  | none => exact .inl rfl
  | some list => exact isSignal_convertQmiGnssSignalType (list.elem item.2)

theorem isAt_mb_iff {system : UsedSystem} {test : GnssSignalTypeBits × UsedSignal} {k : ℕ}
    (h : used ∈ r.entries list) (htest : test ∈ signalTests system) :
    IsAt true used (.mb test.2 k) ↔ IsKth used.1 system k ∧ used.2 = signalBit test.1 := by
  constructor
  · rintro ⟨-, system', hkth, test', htest', hmask, hbit⟩
    obtain ⟨rfl, hsignal⟩ := signalTests_inj htest' htest hmask
    exact ⟨hkth, (((isSignal_of_mem_entries h).and_ne_zero_iff _).mp hbit).trans hsignal⟩
  · rintro ⟨hkth, hsignal⟩
    exact ⟨rfl, system, hkth, test, htest, rfl,
      ((isSignal_of_mem_entries h).and_ne_zero_iff _).mpr hsignal⟩

theorem useAll_eq (h : r.Named) : ∃ e, r.useAll = some e ∧ e.hasGnssSvUsedData = true ∧
      e.hasMultiband = r.multiBandTypesAvailable ∧
      ∀ x, e.Has x ↔ ∃ used ∈ r.entries r.svUsedList, IsAt r.multiBandTypesAvailable used x := by
  have hone : ∀ e, ∀ used ∈ r.entries r.svUsedList, ∃ e',
      useOne r.multiBandTypesAvailable e used = some e' ∧
        ∀ x, e'.Has x ↔ e.Has x ∨ IsAt r.multiBandTypesAvailable used x :=
    fun e used hused => useOne_eq (h.svUsedList used.1 (fst_mem_of_mem_entries hused)) e
  obtain ⟨e, he, hhas⟩ := found_foldlM hone GpsLocationExtended.zero
  refine ⟨{ e with
    hasGnssSvUsedData := true
    hasMultiband := r.multiBandTypesAvailable }, ?_, rfl, rfl, fun x => ?_⟩
  · unfold useAll
    rw [he]
    rfl
  · have hzero : ¬ GpsLocationExtended.zero.Has x := by
      cases x with
      | sv system k => exact @Masks.not_has_none UsedSystem 64 k system
      | mb signal k => exact @Masks.not_has_none UsedSignal 64 k signal
    have hx : e.Has x ↔ _ := (hhas x).trans (or_iff_right hzero)
    cases x with
    | sv system k => exact hx
    | mb signal k => exact hx

theorem shifts_lt (r : PositionReport) : ∀ count ∈ r.shifts, count < 64 := by
  intro count hcount
  obtain ⟨id, -, hid⟩ := mem_filterMap.mp hcount
  obtain ⟨system, hsystem, rfl⟩ := Option.map_eq_some_iff.mp hid
  exact usedShift_lt hsystem

end PositionReport

end LocStack.LocApi.UsedSatellites
