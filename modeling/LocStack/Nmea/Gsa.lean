/-
# `LocStack.Nmea.Gsa` — the GSA sentences of a position report

The satellites that a position was computed from are printed for one
constellation after the other, twelve to a sentence:

    $<talker>GSA,A,<fix type>,<id>, .. <id>,<pdop>,<hdop>,<vdop>,<system>*<checksum>

More than twelve satellites take a group of sentences, if grouping is
enabled, each of them with a tag block in front,

    \g:<this one>-<sentences>-<code>*<checksum>\

The code of the next group is a static variable (`code`).  It is compared
with the largest one within the loop, behind the first sentence that has it,
and incremented behind the loop.

A sentence is a record here, and `GsaSentence.text` what is printed of it
into a buffer; `none` is the early return for a text that does not fit.
-/
import LocStack.Nmea.Gsv

namespace LocStack.Nmea

open Base Gnss

/-! ## Printing into a buffer -/

/-- The string in a buffer, and the room from `pMarker` on. -/
structure Printed where
  text : List UInt8
  lengthRemaining : Int

/-- `length = snprintf(pMarker, lengthRemaining, ..)`, and both moved on by
it.  What does not fit is cut off; a marker that has left the buffer does not
come back, and what is written there is not in the string. -/
def Printed.snprintf (p : Printed) (t : List UInt8) : Printed where
  text := p.text ++ t.take (p.lengthRemaining - 1).toNat
  lengthRemaining := p.lengthRemaining - t.length

/-- The same, with the check that it fits. -/
def Printed.snprintfChecked (p : Printed) (t : List UInt8) : Option Printed :=
  if p.lengthRemaining ≤ t.length then none else some (p.snprintf t)

/-- `*%02X` of what is behind the first character, and what closes it. -/
def checksumText (pNmea : List UInt8) (isTagBlock : Bool) : List UInt8 :=
  let checksum := (pNmea.drop 1).foldl (· ^^^ ·) 0
  ascii ['*'] ++ [hexByte (checksum.toNat / 16), hexByte (checksum.toNat % 16)] ++
    if isTagBlock then ascii ['\\'] else ascii ['\r', '\n']

def locNmeaPutChecksum (pNmea : List UInt8) (maxSize : Int) (isTagBlock : Bool) : List UInt8 :=
  let length := (pNmea.drop 1).length
  pNmea ++ (checksumText pNmea isTagBlock).take (maxSize - length - 1 - 1).toNat

/-- `%.1f` of a `float`, by its bits: the number of tenths, ties to even. -/
def printTenths (bits : UInt32) : List UInt8 :=
  let fraction := bits.toNat % 2 ^ 23
  let exponent := bits.toNat / 2 ^ 23 % 2 ^ 8
  let sign := if bits.toNat / 2 ^ 31 = 0 then [] else ascii ['-']
  if exponent = 255 then
    sign ++ if fraction = 0 then ascii ['i', 'n', 'f'] else ascii ['n', 'a', 'n']
  else
    let significand := if exponent = 0 then fraction else fraction + 2 ^ 23
    -- the value is `significand * 2 ^ (max exponent 1) / 2 ^ 150`
    let scaled := 10 * significand * 2 ^ max exponent 1
    let floor := scaled / 2 ^ 150
    let rest := scaled % 2 ^ 150
    let tenths :=
      if 2 ^ 149 < rest ∨ rest = 2 ^ 149 ∧ floor % 2 = 1 then floor + 1 else floor
    sign ++ decimal (tenths / 10) ++ ascii ['.'] ++ decimal (tenths % 10)

example : printTenths 0x3FA00000 = ascii "1.2".toList := by decide

/-! ## The satellites in use -/

/-- The masks of `loc_sv_cache_info`. -/
structure UsedMasks where
  (gps_used_mask glo_used_mask gal_used_mask qzss_used_mask bds_used_mask navic_used_mask : UInt64)

def getSvCountFromMask : Nat → Nat → Nat
  | _, 0 => 0
  | svMask, totalSvCount + 1 =>
    (if svMask % 2 = 1 then 1 else 0) + getSvCountFromMask (svMask / 2) totalSvCount

def GPS_SV_PRN_MIN : Nat := 1
def GPS_SV_PRN_MAX : Nat := 32
def GLO_SV_PRN_MIN : Nat := 65
def GLO_SV_PRN_MAX : Nat := 96
def QZSS_SV_PRN_MIN : Nat := 193
def QZSS_SV_PRN_MAX : Nat := 197
def BDS_SV_PRN_MIN : Nat := 201
def BDS_SV_PRN_MAX : Nat := 263
def GAL_SV_PRN_MIN : Nat := 301
def GAL_SV_PRN_MAX : Nat := 336
def NAVIC_SV_PRN_MIN : Nat := 401
def NAVIC_SV_PRN_MAX : Nat := 414

def UsedMasks.totalSvUsedCount (used : UsedMasks) : Nat :=
  getSvCountFromMask used.gps_used_mask.toNat (GPS_SV_PRN_MAX - GPS_SV_PRN_MIN + 1) +
  getSvCountFromMask used.glo_used_mask.toNat (GLO_SV_PRN_MAX - GLO_SV_PRN_MIN + 1) +
  getSvCountFromMask used.gal_used_mask.toNat (GAL_SV_PRN_MAX - GAL_SV_PRN_MIN + 1) +
  getSvCountFromMask used.qzss_used_mask.toNat (QZSS_SV_PRN_MAX - QZSS_SV_PRN_MIN + 1) +
  getSvCountFromMask used.bds_used_mask.toNat (BDS_SV_PRN_MAX - BDS_SV_PRN_MIN + 1) +
  getSvCountFromMask used.navic_used_mask.toNat (NAVIC_SV_PRN_MAX - NAVIC_SV_PRN_MIN + 1)

/-- How many constellations the position was computed from. -/
def UsedMasks.constellations (used : UsedMasks) : Nat :=
  (if used.gps_used_mask ≠ 0 then 1 else 0) + (if used.glo_used_mask ≠ 0 then 1 else 0) +
  (if used.gal_used_mask ≠ 0 then 1 else 0) + (if used.qzss_used_mask ≠ 0 then 1 else 0) +
  (if used.bds_used_mask ≠ 0 then 1 else 0) + (if used.navic_used_mask ≠ 0 then 1 else 0)

def SYSTEM_ID_GPS : Nat := 1
def SYSTEM_ID_GLONASS : Nat := 2
def SYSTEM_ID_GALILEO : Nat := 3
def SYSTEM_ID_BDS : Nat := 4
def SYSTEM_ID_QZSS : Nat := 5
def SYSTEM_ID_NAVIC : Nat := 6

/-- What GSA reads of `loc_nmea_sv_meta`. -/
structure GsaMeta where
  talker : List UInt8
  svTypeMask : UInt32
  mask : UInt64
  (totalSvUsedCount svIdOffset systemId : Nat)

/-- The talker, the mask, the offset and the system id of a constellation. -/
def gsaConstellation (used : UsedMasks) : GnssSvType → Option (List UInt8 × UInt64 × Nat × Nat)
  | .gps => some (ascii ['G', 'P'], used.gps_used_mask, 0, SYSTEM_ID_GPS)
  | .glonass =>
    some (ascii ['G', 'L'], used.glo_used_mask, GLONASS_SV_ID_OFFSET, SYSTEM_ID_GLONASS)
  | .galileo =>
    some (ascii ['G', 'A'], used.gal_used_mask, GALILEO_SV_ID_OFFSET, SYSTEM_ID_GALILEO)
  | .qzss => some (ascii ['G', 'Q'], used.qzss_used_mask, QZSS_SV_ID_OFFSET, SYSTEM_ID_QZSS)
  | .beidou => some (ascii ['G', 'B'], used.bds_used_mask, BDS_SV_ID_OFFSET, SYSTEM_ID_BDS)
  | .navic => some (ascii ['G', 'I'], used.navic_used_mask, NAVIC_SV_ID_OFFSET, SYSTEM_ID_NAVIC)
  | .unknown | .sbas => none

/-- `loc_nmea_sv_meta_init` with `needCombine`. -/
def gsaMetaInit (used : UsedMasks) (svType : GnssSvType) : Option GsaMeta :=
  (gsaConstellation used svType).map fun (talker, mask, svIdOffset, systemId) =>
    { talker := if 1 < used.constellations then ascii ['G', 'N'] else talker
      svTypeMask := if svType = .gps then typeBit .gps ||| typeBit .sbas else typeBit svType
      mask
      totalSvUsedCount := used.totalSvUsedCount
      svIdOffset
      systemId }

/-- `svUsedList`, from the bit for `i` on. -/
def svUsedFrom (svIdOffset : Nat) : Nat → Nat → Nat → List Nat
  | 0, _, _ => []
  | left + 1, i, mask =>
    if mask = 0 then []
    else if mask % 2 = 1 then (i + svIdOffset) :: svUsedFrom svIdOffset left (i + 1) (mask / 2)
    else svUsedFrom svIdOffset left (i + 1) (mask / 2)

/-- Only the ids of GLONASS are moved. -/
def GsaMeta.svUsedList (sv_meta : GsaMeta) : List Nat :=
  let svIdOffset := if sv_meta.svTypeMask &&& typeBit .glonass = 0 then 0 else sv_meta.svIdOffset
  svUsedFrom svIdOffset 64 1 sv_meta.mask.toNat

/-! ## The sentences -/

/-- `"\\g:%d-%d-%d"` -/
structure TagBlock where
  (sentenceNumber sentenceCount code : Nat)

def TagBlock.body (t : TagBlock) : List UInt8 :=
  ascii ['\\', 'g', ':'] ++ decimal t.sentenceNumber ++ ascii ['-'] ++ decimal t.sentenceCount ++
    ascii ['-'] ++ decimal t.code

structure Dops where
  (pdop hdop vdop : UInt32)

/-- `"%.1f,%.1f,%.1f,"`, or only the commas without `GPS_LOCATION_EXTENDED_HAS_DOP`. -/
def dopsText : Option Dops → List UInt8
  | none => ascii [',', ',', ',']
  | some d =>
    printTenths d.pdop ++ ascii [','] ++ printTenths d.hdop ++ ascii [','] ++
      printTenths d.vdop ++ ascii [',']

structure GsaSentence where
  tag : Option TagBlock
  talker : List UInt8
  fixType : UInt8
  svs : List Nat
  dops : Option Dops
  systemId : Nat

/-- `"$%sGSA,A,%c,"` -/
def gsaHeader (talker : List UInt8) (fixType : UInt8) : List UInt8 :=
  ascii ['$'] ++ talker ++ ascii ['G', 'S', 'A', ',', 'A', ','] ++ [fixType] ++ ascii [',']

/-- So many ids, the last ones empty if there are no more. -/
def printSvs : Nat → List Nat → Printed → Option Printed
  | 0, _, p => some p
  | left + 1, [], p => (p.snprintfChecked (ascii [','])).bind (printSvs left [])
  | left + 1, sv :: svs, p =>
    (p.snprintfChecked (paddedDecimal 2 sv ++ ascii [','])).bind (printSvs left svs)

def GsaSentence.tagText (s : GsaSentence) (bufSize : Nat) : List UInt8 :=
  s.tag.elim [] fun t =>
    locNmeaPutChecksum (({ text := [], lengthRemaining := bufSize } : Printed).snprintf t.body).text
      bufSize true

def GsaSentence.text (s : GsaSentence) (bufSize : Nat) : Option (List UInt8) :=
  let tagBlock := s.tagText bufSize
  let lengthRemaining : Int := (bufSize : Int) - tagBlock.length
  (({ text := [], lengthRemaining } : Printed).snprintfChecked (gsaHeader s.talker s.fixType)).bind
    fun p => (printSvs 12 s.svs p).map fun p =>
      let p := (p.snprintf (dopsText s.dops)).snprintf (decimal s.systemId)
      tagBlock ++ locNmeaPutChecksum p.text lengthRemaining false

example : ({ tag := some { sentenceNumber := 2, sentenceCount := 2, code := 1 }
             talker := ascii ['G', 'N'], fixType := 51, svs := [13, 14], dops := none
             systemId := 1 } : GsaSentence).text 200 =
    some (ascii "\\g:2-2-1*6C\\$GNGSA,A,3,13,14,,,,,,,,,,,,,,1*18\r\n".toList) := by decide

/-! ## One constellation -/

def MAX_TAG_BLOCK_GROUP_CODE : Nat := 99999

/-- One call of `loc_nmea_generate_GSA`. -/
structure GsaCall where
  used : UsedMasks
  svType : GnssSvType
  dops : Option Dops
  isTagBlockGroupingEnabled : Bool

/-- no fix, 2D fix, 3D fix -/
def fixTypeOf (totalSvUsedCount : Nat) : UInt8 :=
  if totalSvUsedCount = 0 then 49 else if totalSvUsedCount ≤ 3 then 50 else 51

/-- What a call leaves behind. -/
structure GsaResult where
  sentences : List GsaSentence
  (code svUsedCount : Nat)

/-- What the loop reads and does not change. -/
structure GsaLoop where
  sv_meta : GsaMeta
  dops : Option Dops
  isTagBlockGroupingEnabled : Bool
  (svUsedCount sentenceCount : Nat)

def GsaLoop.tagged (l : GsaLoop) : Bool := 12 < l.svUsedCount ∧ l.isTagBlockGroupingEnabled

def GsaLoop.sentence (l : GsaLoop) (sentenceNumber : Nat) (rest : List Nat) (code : Nat) :
    GsaSentence where
  tag :=
    if l.tagged then some { sentenceNumber, sentenceCount := l.sentenceCount, code } else none
  talker := l.sv_meta.talker
  fixType := fixTypeOf l.sv_meta.totalSvUsedCount
  svs := rest.take 12
  dops := l.dops
  systemId := l.sv_meta.systemId

/-- The sentences from `sentenceNumber` on, of which so many are left; `rest`
are the satellites from `svNumber` on. -/
def gsaSentences (l : GsaLoop) (bufSize : Nat) : Nat → Nat → List Nat → Nat → GsaResult
  | 0, _, _, code =>
    { sentences := [], code := if l.tagged then code + 1 else code, svUsedCount := l.svUsedCount }
  | left + 1, sentenceNumber, rest, code =>
    let s := l.sentence sentenceNumber rest code
    let code := if l.tagged ∧ MAX_TAG_BLOCK_GROUP_CODE = code then 1 else code
    match s.text bufSize with
    | none => { sentences := [], code, svUsedCount := 0 }
    | some _ =>
      if l.isTagBlockGroupingEnabled then
        let r := gsaSentences l bufSize left (sentenceNumber + 1) (rest.drop 12) code
        { r with sentences := s :: r.sentences }
      else { sentences := [s], code, svUsedCount := l.svUsedCount }

def locNmeaGenerateGsa (code : Nat) (call : GsaCall) : GsaResult :=
  match gsaMetaInit call.used call.svType with
  | none => { sentences := [], code, svUsedCount := 0 }
  | some sv_meta =>
    let svUsedList := sv_meta.svUsedList
    let svUsedCount := svUsedList.length
    if svUsedCount = 0 then { sentences := [], code, svUsedCount := 0 }
    else
      let sentenceCount := svUsedCount / 12 + if svUsedCount % 12 ≠ 0 then 1 else 0
      gsaSentences
        { sv_meta
          dops := call.dops
          isTagBlockGroupingEnabled := call.isTagBlockGroupingEnabled
          svUsedCount
          sentenceCount }
        NMEA_SENTENCE_MAX_LENGTH sentenceCount 1 svUsedList code

/-- A call, with the static `code` as the state. -/
def gsaStep (code : Nat) (call : GsaCall) : Nat × List GsaResult :=
  let r := locNmeaGenerateGsa code call
  (r.code, [r])

end LocStack.Nmea
