/-
# `LocStack.Nmea.Gsv` — the GSV sentences of a satellite report

A report of satellites is printed in groups, one for each constellation and
signal, in two passes.  The first counts the satellites of each group
(`countSv`); the second goes through the report again for each group that is
not empty, and lists the satellites that it finds of it, four to a sentence:

    $<talker>GSV,<sentences>,<this one>,<satellites>{,<id>,<elev>,<azim>,<cn0>},<signal>*<checksum>

The number of sentences and of satellites in the header come from the first
pass, which tells the groups apart by the signal type mask; the second does
by the signal id that the mask is converted to.  The offset of the ids is
that of the constellation, and that of SBAS from the first SBAS satellite on.

A sentence is a record here, and `GsvSentence.text` what is printed.  The
degrees and the signal strengths of the report are taken as the integers
that they are rounded to.
-/
import LocStack.Base.CString
import LocStack.Gnss.SvConfig

namespace LocStack.Nmea

open Base Gnss

/-! ## The report -/

def GNSS_SIGNAL_GPS_L1CA : UInt32 := (1 : UInt32) <<< 0
def GNSS_SIGNAL_GPS_L2 : UInt32 := (1 : UInt32) <<< 2
def GNSS_SIGNAL_GPS_L5 : UInt32 := (1 : UInt32) <<< 3
def GNSS_SIGNAL_GLONASS_G1 : UInt32 := (1 : UInt32) <<< 4
def GNSS_SIGNAL_GLONASS_G2 : UInt32 := (1 : UInt32) <<< 5
def GNSS_SIGNAL_GALILEO_E1 : UInt32 := (1 : UInt32) <<< 6
def GNSS_SIGNAL_GALILEO_E5A : UInt32 := (1 : UInt32) <<< 7
def GNSS_SIGNAL_GALILEO_E5B : UInt32 := (1 : UInt32) <<< 8
def GNSS_SIGNAL_QZSS_L1CA : UInt32 := (1 : UInt32) <<< 11
def GNSS_SIGNAL_QZSS_L2 : UInt32 := (1 : UInt32) <<< 13
def GNSS_SIGNAL_QZSS_L5 : UInt32 := (1 : UInt32) <<< 14
def GNSS_SIGNAL_SBAS_L1 : UInt32 := (1 : UInt32) <<< 15
def GNSS_SIGNAL_BEIDOU_B1I : UInt32 := (1 : UInt32) <<< 16
def GNSS_SIGNAL_BEIDOU_B1C : UInt32 := (1 : UInt32) <<< 17
def GNSS_SIGNAL_BEIDOU_B2I : UInt32 := (1 : UInt32) <<< 18
def GNSS_SIGNAL_BEIDOU_B2AI : UInt32 := (1 : UInt32) <<< 19
def GNSS_SIGNAL_NAVIC_L5 : UInt32 := (1 : UInt32) <<< 20
def GNSS_SIGNAL_BEIDOU_B2AQ : UInt32 := (1 : UInt32) <<< 21

structure GnssSv where
  svId : UInt16
  type : GnssSvType
  gnssSignalTypeMask : UInt32
  /-- `(int)(0.5 + elevation)`, and so on -/
  elevation : Int32
  azimuth : Int32
  /-- `none` when it is not positive -/
  cN0Dbhz : Option Int32

def GNSS_SV_MAX : Nat := 128

/-- The first `count` elements of `gnssSvs`. -/
structure GnssSvNotification where
  gnssSvs : List GnssSv
  count_le : gnssSvs.length ≤ GNSS_SV_MAX

/-! ## The first pass -/

/-- The counters of `loc_sv_cache_info`. -/
inductive SvCounter where
  | gps_l1_count | gps_l5_count | gps_l2_count | glo_g1_count | glo_g2_count | gal_e1_count
  | gal_e5_count | gal_e5b_count | qzss_l1_count | qzss_l5_count | qzss_l2_count | bds_b1i_count
  | bds_b1c_count | bds_b2_count | navic_l5_count
  deriving DecidableEq

/-- The counter that a satellite is counted by. -/
def GnssSv.counter (sv : GnssSv) : Option SvCounter :=
  match sv.type with
  | .gps | .sbas =>
    if sv.gnssSignalTypeMask = GNSS_SIGNAL_GPS_L5 then some .gps_l5_count
    else if sv.gnssSignalTypeMask = GNSS_SIGNAL_GPS_L2 then some .gps_l2_count
    else some .gps_l1_count
  | .glonass =>
    if sv.gnssSignalTypeMask = GNSS_SIGNAL_GLONASS_G2 then some .glo_g2_count
    else some .glo_g1_count
  | .galileo =>
    if sv.gnssSignalTypeMask = GNSS_SIGNAL_GALILEO_E5A then some .gal_e5_count
    else if sv.gnssSignalTypeMask = GNSS_SIGNAL_GALILEO_E5B then some .gal_e5b_count
    else some .gal_e1_count
  | .qzss =>
    if sv.gnssSignalTypeMask = GNSS_SIGNAL_QZSS_L5 then some .qzss_l5_count
    else if sv.gnssSignalTypeMask = GNSS_SIGNAL_QZSS_L2 then some .qzss_l2_count
    else some .qzss_l1_count
  | .beidou =>
    if sv.gnssSignalTypeMask = GNSS_SIGNAL_BEIDOU_B2AI ∨
        sv.gnssSignalTypeMask = GNSS_SIGNAL_BEIDOU_B2AQ then some .bds_b2_count
    else if sv.gnssSignalTypeMask = GNSS_SIGNAL_BEIDOU_B1C then some .bds_b1c_count
    else some .bds_b1i_count
  | .navic => some .navic_l5_count
  | .unknown => none

abbrev SvCacheInfo := SvCounter → Nat

def countSv (sv_cache_info : SvCacheInfo) (sv : GnssSv) : SvCacheInfo := fun c =>
  if sv.counter = some c then sv_cache_info c + 1 else sv_cache_info c

def countSvs (svs : List GnssSv) : SvCacheInfo := svs.foldl countSv (fun _ => 0)

theorem countSvs_from (svs : List GnssSv) (sv_cache_info : SvCacheInfo) (c : SvCounter) :
    svs.foldl countSv sv_cache_info c =
      sv_cache_info c + svs.countP (fun sv => sv.counter = some c) := by
  induction svs generalizing sv_cache_info with
  | nil => rfl
  | cons sv svs ih =>
    rw [List.foldl_cons, ih, List.countP_cons, countSv]
    by_cases hc : sv.counter = some c
    · rw [if_pos hc, if_pos (decide_eq_true hc)]
      omega
    · rw [if_neg hc, if_neg (fun h => hc (of_decide_eq_true h))]
      rfl

theorem countSvs_eq (svs : List GnssSv) (c : SvCounter) :
    countSvs svs c = svs.countP (fun sv => sv.counter = some c) := by
  rw [countSvs, countSvs_from, Nat.zero_add]

/-! ## The groups -/

def convertSignalTypeToSignalId (signalType : UInt32) : Nat :=
  if signalType = GNSS_SIGNAL_GPS_L1CA ∨ signalType = GNSS_SIGNAL_SBAS_L1 then 1
  else if signalType = GNSS_SIGNAL_GPS_L2 then 6
  else if signalType = GNSS_SIGNAL_GPS_L5 then 8
  else if signalType = GNSS_SIGNAL_GLONASS_G1 then 1
  else if signalType = GNSS_SIGNAL_GLONASS_G2 then 3
  else if signalType = GNSS_SIGNAL_GALILEO_E1 then 7
  else if signalType = GNSS_SIGNAL_GALILEO_E5A then 1
  else if signalType = GNSS_SIGNAL_GALILEO_E5B then 2
  else if signalType = GNSS_SIGNAL_QZSS_L1CA then 1
  else if signalType = GNSS_SIGNAL_QZSS_L2 then 6
  else if signalType = GNSS_SIGNAL_QZSS_L5 then 8
  else if signalType = GNSS_SIGNAL_BEIDOU_B1I then 1
  else if signalType = GNSS_SIGNAL_BEIDOU_B1C then 3
  else if signalType = GNSS_SIGNAL_BEIDOU_B2I then 0xB
  else if signalType = GNSS_SIGNAL_BEIDOU_B2AI ∨ signalType = GNSS_SIGNAL_BEIDOU_B2AQ then 5
  else if signalType = GNSS_SIGNAL_NAVIC_L5 then 1
  else 0

/-- `1 << svType` -/
def typeBit : GnssSvType → UInt32
  | .unknown => (1 : UInt32) <<< 0
  | .gps => (1 : UInt32) <<< 1
  | .sbas => (1 : UInt32) <<< 2
  | .glonass => (1 : UInt32) <<< 3
  | .qzss => (1 : UInt32) <<< 4
  | .beidou => (1 : UInt32) <<< 5
  | .galileo => (1 : UInt32) <<< 6
  | .navic => (1 : UInt32) <<< 7

def GLONASS_SV_ID_OFFSET : Nat := 64
def SBAS_SV_ID_OFFSET : Nat := 87
def QZSS_SV_ID_OFFSET : Nat := 192
def BDS_SV_ID_OFFSET : Nat := 200
def GALILEO_SV_ID_OFFSET : Nat := 300
def NAVIC_SV_ID_OFFSET : Nat := 400

/-- What GSV reads of `loc_nmea_sv_meta`. -/
structure SvMeta where
  talker : List UInt8
  svTypeMask : UInt32
  (svCount svIdOffset signalId : Nat)

/-- `none` is the null pointer that an unexpected constellation gets. -/
def locNmeaSvMetaInit (sv_cache_info : SvCacheInfo) (svType : GnssSvType) (signalType : UInt32) :
    Option SvMeta :=
  let signalId := convertSignalTypeToSignalId signalType
  match svType with
  | .gps => some {
      talker := ascii ['G', 'P']
      svTypeMask := typeBit .gps ||| typeBit .sbas
      svCount :=
        if signalType = GNSS_SIGNAL_GPS_L1CA then sv_cache_info .gps_l1_count
        else if signalType = GNSS_SIGNAL_GPS_L5 then sv_cache_info .gps_l5_count
        else if signalType = GNSS_SIGNAL_GPS_L2 then sv_cache_info .gps_l2_count
        else 0
      svIdOffset := 0
      signalId }
  | .glonass => some {
      talker := ascii ['G', 'L']
      svTypeMask := typeBit .glonass
      svCount :=
        if signalType = GNSS_SIGNAL_GLONASS_G1 then sv_cache_info .glo_g1_count
        else if signalType = GNSS_SIGNAL_GLONASS_G2 then sv_cache_info .glo_g2_count
        else 0
      svIdOffset := GLONASS_SV_ID_OFFSET
      signalId }
  | .galileo => some {
      talker := ascii ['G', 'A']
      svTypeMask := typeBit .galileo
      svCount :=
        if signalType = GNSS_SIGNAL_GALILEO_E1 then sv_cache_info .gal_e1_count
        else if signalType = GNSS_SIGNAL_GALILEO_E5A then sv_cache_info .gal_e5_count
        else if signalType = GNSS_SIGNAL_GALILEO_E5B then sv_cache_info .gal_e5b_count
        else 0
      svIdOffset := GALILEO_SV_ID_OFFSET
      signalId }
  | .qzss => some {
      talker := ascii ['G', 'Q']
      svTypeMask := typeBit .qzss
      svCount :=
        if signalType = GNSS_SIGNAL_QZSS_L1CA then sv_cache_info .qzss_l1_count
        else if signalType = GNSS_SIGNAL_QZSS_L2 then sv_cache_info .qzss_l2_count
        else if signalType = GNSS_SIGNAL_QZSS_L5 then sv_cache_info .qzss_l5_count
        else 0
      svIdOffset := QZSS_SV_ID_OFFSET
      signalId }
  | .beidou => some {
      talker := ascii ['G', 'B']
      svTypeMask := typeBit .beidou
      svCount :=
        if signalType = GNSS_SIGNAL_BEIDOU_B1I then sv_cache_info .bds_b1i_count
        else if signalType = GNSS_SIGNAL_BEIDOU_B1C then sv_cache_info .bds_b1c_count
        else if signalType = GNSS_SIGNAL_BEIDOU_B2AI then sv_cache_info .bds_b2_count
        else 0
      svIdOffset := BDS_SV_ID_OFFSET
      signalId }
  | .navic => some {
      talker := ascii ['G', 'I']
      svTypeMask := typeBit .navic
      svCount :=
        if signalType = GNSS_SIGNAL_NAVIC_L5 then sv_cache_info .navic_l5_count else 0
      svIdOffset := NAVIC_SV_ID_OFFSET
      signalId }
  | .unknown | .sbas => none

/-! ## The sentences -/

/-- A satellite, as a sentence lists it. -/
structure SvEntry where
  /-- `none` for an id that is left out -/
  svId : Option Int
  (elevation azimuth : Int32)
  cN0Dbhz : Option Int32

/-- `",%02d,%02d,%03d,"` -/
def SvEntry.placeText (e : SvEntry) : List UInt8 :=
  ascii [','] ++ (e.svId.elim [] (paddedDecimal 2)) ++ ascii [','] ++
    paddedDecimal 2 e.elevation.toInt ++ ascii [','] ++ paddedDecimal 3 e.azimuth.toInt ++
      ascii [',']

def SvEntry.cN0Text (e : SvEntry) : List UInt8 :=
  e.cN0Dbhz.elim [] fun cN0 => paddedDecimal 2 cN0.toInt

structure GsvSentence where
  talker : List UInt8
  (sentenceCount sentenceNumber svCount : Nat)
  svs : List SvEntry
  signalId : Nat

/-- `"$%sGSV,%d,%d,%02d"` -/
def gsvHeader (talker : List UInt8) (sentenceCount sentenceNumber svCount : Nat) : List UInt8 :=
  ascii ['$'] ++ talker ++ ascii ['G', 'S', 'V', ','] ++ decimal sentenceCount ++ ascii [','] ++
    decimal sentenceNumber ++ ascii [','] ++ paddedDecimal 2 svCount

/-- `loc_nmea_put_checksum`: of what is behind the `$`. -/
def putChecksum (sentence : List UInt8) : List UInt8 :=
  let checksum := (sentence.drop 1).foldl (· ^^^ ·) 0
  sentence ++ ascii ['*'] ++ [hexByte (checksum.toNat / 16), hexByte (checksum.toNat % 16)] ++
    ascii ['\r', '\n']

def GsvSentence.text (s : GsvSentence) : List UInt8 :=
  putChecksum (gsvHeader s.talker s.sentenceCount s.sentenceNumber s.svCount ++
    s.svs.flatMap (fun e => e.placeText ++ e.cN0Text) ++ ascii [','] ++ hexadecimal s.signalId)

example : ({ talker := ascii ['G', 'P'], sentenceCount := 1, sentenceNumber := 1, svCount := 1
             svs := [{ svId := some 5, elevation := 45, azimuth := 120, cN0Dbhz := some 35 }]
             signalId := 1 } : GsvSentence).text =
    ascii "$GPGSV,1,1,01,05,45,120,35,1*54\r\n".toList := by decide

/-! ## The second pass -/

/-- The signal type of a satellite: L1, G1, E1, B1I and so on, if it is not
in the report. -/
def GnssSv.signalType (sv : GnssSv) : Option UInt32 :=
  if sv.gnssSignalTypeMask = 0 then
    match sv.type with
    | .gps => some GNSS_SIGNAL_GPS_L1CA
    | .glonass => some GNSS_SIGNAL_GLONASS_G1
    | .galileo => some GNSS_SIGNAL_GALILEO_E1
    | .qzss => some GNSS_SIGNAL_QZSS_L1CA
    | .beidou => some GNSS_SIGNAL_BEIDOU_B1I
    | .sbas => some GNSS_SIGNAL_SBAS_L1
    | .navic => some GNSS_SIGNAL_NAVIC_L5
    | .unknown => none
  else some sv.gnssSignalTypeMask

def GLO_SV_PRN_SLOT_UNKNOWN : UInt16 := 255

def GnssSv.entry (sv : GnssSv) (svIdOffset : Nat) : SvEntry where
  svId :=
    if sv.type = .glonass ∧ sv.svId = GLO_SV_PRN_SLOT_UNKNOWN then none
    else some ((sv.svId.toNat : Int) - svIdOffset)
  elevation := sv.elevation
  azimuth := sv.azimuth
  cN0Dbhz := sv.cN0Dbhz

/-- The offset of a satellite that is listed, which it leaves to the next. -/
def GnssSv.carriedOffset (sv : GnssSv) (svIdOffset : Nat) : Nat :=
  if sv.type = .sbas then SBAS_SV_ID_OFFSET else svIdOffset

/-- Of the constellation and the signal that the sentences are for. -/
def SvMeta.matches (sv_meta : SvMeta) (sv : GnssSv) (signalType : UInt32) : Bool :=
  sv_meta.svTypeMask &&& typeBit sv.type ≠ 0 ∧
    sv_meta.signalId = convertSignalTypeToSignalId signalType

/-- The variables that a sentence leaves behind. -/
structure GsvFill where
  svs : List SvEntry
  /-- from `svNumber` on -/
  rest : List GnssSv
  (svIdOffset lengthRemaining : Nat)

/-- Up to four satellites for a sentence, `i` of which are in it; `none` when
one does not fit. -/
def fillGsv (sv_meta : SvMeta) : List GnssSv → Nat → Nat → Nat → Option GsvFill
  | [], _, svIdOffset, lengthRemaining =>
    some { svs := [], rest := [], svIdOffset, lengthRemaining }
  | sv :: rest, i, svIdOffset, lengthRemaining =>
    if i < 4 then
      match sv.signalType with
      | none => fillGsv sv_meta rest i svIdOffset lengthRemaining
      | some signalType =>
        if sv_meta.matches sv signalType then
          let svIdOffset := sv.carriedOffset svIdOffset
          let e := sv.entry svIdOffset
          if lengthRemaining ≤ e.placeText.length then none
          else
            let lengthRemaining := lengthRemaining - e.placeText.length
            if e.cN0Dbhz.isSome ∧ lengthRemaining ≤ e.cN0Text.length then none
            else
              (fillGsv sv_meta rest (i + 1) svIdOffset (lengthRemaining - e.cN0Text.length)).map
                  fun fill => { fill with svs := e :: fill.svs }
        else fillGsv sv_meta rest i svIdOffset lengthRemaining
    else some { svs := [], rest := sv :: rest, svIdOffset, lengthRemaining }

/-- The sentences from `sentenceNumber` on, of which so many are left. -/
def gsvSentences (sv_meta : SvMeta) (bufSize sentenceCount : Nat) :
    Nat → Nat → List GnssSv → Nat → List GsvSentence
  | 0, _, _, _ => []
  | left + 1, sentenceNumber, svs, svIdOffset =>
    let header := gsvHeader sv_meta.talker sentenceCount sentenceNumber sv_meta.svCount
    if bufSize ≤ header.length then []
    else
      match fillGsv sv_meta svs 0 svIdOffset (bufSize - header.length) with
      | none => []
      | some fill =>
        { talker := sv_meta.talker
          sentenceCount
          sentenceNumber
          svCount := sv_meta.svCount
          svs := fill.svs
          signalId := sv_meta.signalId } ::
            gsvSentences sv_meta bufSize sentenceCount left (sentenceNumber + 1) fill.rest
              fill.svIdOffset

def NMEA_SENTENCE_MAX_LENGTH : Nat := 200

def locNmeaGenerateGsv (svNotify : GnssSvNotification) (sv_meta : SvMeta) : List GsvSentence :=
  if sv_meta.svCount = 0 then []
  else
    let svIdOffset := if typeBit .glonass &&& sv_meta.svTypeMask ≠ 0 then 0 else sv_meta.svIdOffset
    let sentenceCount := sv_meta.svCount / 4 + if sv_meta.svCount % 4 ≠ 0 then 1 else 0
    gsvSentences sv_meta NMEA_SENTENCE_MAX_LENGTH sentenceCount sentenceCount 1 svNotify.gnssSvs
      svIdOffset

/-- The groups, in the order they are printed in. -/
def gsvGroups : List (GnssSvType × UInt32) := [ (.gps, GNSS_SIGNAL_GPS_L1CA),
  (.gps, GNSS_SIGNAL_GPS_L5),
  (.gps, GNSS_SIGNAL_GPS_L2),
  (.glonass, GNSS_SIGNAL_GLONASS_G1),
  (.glonass, GNSS_SIGNAL_GLONASS_G2),
  (.galileo, GNSS_SIGNAL_GALILEO_E1),
  (.galileo, GNSS_SIGNAL_GALILEO_E5A),
  (.galileo, GNSS_SIGNAL_GALILEO_E5B),
  (.qzss, GNSS_SIGNAL_QZSS_L1CA),
  (.qzss, GNSS_SIGNAL_QZSS_L5),
  (.qzss, GNSS_SIGNAL_QZSS_L2),
  (.beidou, GNSS_SIGNAL_BEIDOU_B1I),
  (.beidou, GNSS_SIGNAL_BEIDOU_B1C),
  (.beidou, GNSS_SIGNAL_BEIDOU_B2AI),
  (.navic, GNSS_SIGNAL_NAVIC_L5)]

def locNmeaGenerateSv (svNotify : GnssSvNotification) : List GsvSentence :=
  let sv_cache_info := countSvs svNotify.gnssSvs
  gsvGroups.flatMap fun group =>
    (locNmeaSvMetaInit sv_cache_info group.1 group.2).elim [] (locNmeaGenerateGsv svNotify)

end LocStack.Nmea
