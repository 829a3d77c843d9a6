/-
# `LocStack.Core.DebugNmea` — the debug sentences of the modem

A debug sentence is `$PQW`, two characters that say which one it is, and fields
up to `*`, each with a comma before it.  Nine of them are parsed, each into a
record of its own:

    PQWM1   time, clock, receiver        PQWP1   injected position
    PQWP2   best position                PQWP3   validity of XTRA data
    PQWP4   ephemeris                    PQWP5   health of satellites
    PQWP6   fix                          PQWP7   navigation data
    PQWS1   failure of a position

The parsers want a number of fields each.  That of PQWM1 reads more if there
are more, and so does that of PQWP7 for NavIC.  With too few fields the record
is left as it was in memory; that of PQWM1 is 0.

A member has a field of its own (`Member`), by the place in the sentence and by
what is to be read there.
-/
import LocStack.Base.CNumbers
import LocStack.Base.Find

namespace LocStack.Core

open Base List

namespace DebugNmea

/-! ## Sentences -/

def DEBUG_NMEA_MINSIZE : ℕ := 6

def DEBUG_NMEA_MAXSIZE : ℕ := 4096

/-- "$PQW" -/
def debugTalker : List Char := ['$', 'P', 'Q', 'W']

def loc_nmea_is_debug (nmea : List Char) (length : ℕ) : Bool :=
  length ≥ DEBUG_NMEA_MINSIZE ∧ length ≤ DEBUG_NMEA_MAXSIZE ∧ debugTalker <+: nmea

/-- What the commas end; what is found is always inside. -/
def tokenize (parser : List Char) : List (List Char) :=
  match findIn [','] parser with
  | none => []
  | some index =>
    if index < parser.length then parser.take index :: tokenize (parser.drop (index + 1)) else []
termination_by parser.length
decreasing_by
  rw [length_drop]
  omega

/-- `mField` of a SystemStatusNmeaBase. -/
def mField (str_in : List Char) (len_in : ℕ) : List (List Char) :=
  if loc_nmea_is_debug str_in len_in then
    match findIn ['*'] str_in with
    | none => []
    | some index => tokenize (str_in.set index ',')
  else []

/-- Up to the checksum mark. -/
def fields (nmea : List Char) : List (List Char) := (nmea.takeWhile (· ≠ '*')).splitOn ','

/-- The checksum, and what else there is. -/
def behindMark (nmea : List Char) : List Char := (nmea.dropWhile (· ≠ '*')).tail

theorem tokenize_eq (s : List Char) : tokenize s = (s.splitOn ',').dropLast := by
  induction s using tokenize.induct with
  | case1 s hfind =>
    have hnot : ',' ∉ s := by
      intro hmem
      obtain ⟨a, b, rfl, ha⟩ := exists_first_of_mem hmem
      cases hfind.symm.trans (findIn_append_cons ha)
    rw [tokenize, hfind, splitOn_eq_singleton hnot]
    rfl
  | case2 s index hfind hlt ih =>
    obtain ⟨a, b, rfl, ha⟩ := exists_first_of_mem (mem_of_findIn hfind)
    obtain rfl := Option.some.inj ((findIn_append_cons ha).symm.trans hfind)
    have hdrop : (a ++ ',' :: b).drop (a.length + 1) = b := by
      rw [← drop_drop, drop_left]
      rfl
    rw [hdrop] at ih
    rw [tokenize, hfind]
    dsimp only
    rw [if_pos hlt, take_left, hdrop, ih, splitOn_append_cons_self_of_not_mem ha,
      dropLast_cons_of_ne_nil (splitOn_ne_nil ',' b)]
  | case3 s index hfind hge =>
    obtain ⟨a, b, rfl, ha⟩ := exists_first_of_mem (mem_of_findIn hfind)
    obtain rfl := Option.some.inj ((findIn_append_cons ha).symm.trans hfind)
    refine absurd ?_ hge
    rw [length_append]
    exact Nat.lt_add_of_pos_right (Nat.succ_pos _)

theorem mField_eq {nmea : List Char} (h : loc_nmea_is_debug nmea nmea.length = true)
    (hmark : '*' ∈ nmea) :
    mField nmea nmea.length = fields nmea ++ ((behindMark nmea).splitOn ',').dropLast := by
  obtain ⟨a, b, rfl, ha⟩ := exists_first_of_mem hmark
  have hne : ∀ c ∈ a, decide (c ≠ '*') = true := fun c hc =>
    decide_eq_true fun heq => ha (heq ▸ hc)
  have htake : (a ++ '*' :: b).takeWhile (· ≠ '*') = a := by
    rw [takeWhile_append_of_pos hne]
    exact append_nil a
  have hbehind : behindMark (a ++ '*' :: b) = b := by
    unfold behindMark
    rw [dropWhile_append_of_pos hne]
    rfl
  have hset : (a ++ '*' :: b).set a.length ',' = a ++ ',' :: b := by
    rw [set_append_right _ _ (Nat.le_refl _), Nat.sub_self]
    rfl
  unfold mField fields
  rw [if_pos h, findIn_append_cons ha]
  dsimp only
  rw [hset, tokenize_eq, htake, hbehind, splitOn_append_cons_self,
    dropLast_append_of_ne_nil (splitOn_ne_nil ',' b)]

/-! ## Records -/

structure SystemStatusPQWM1 where
  mGpsWeek : BitVec 16
  mGpsTowMs : BitVec 32
  (mTimeValid mTimeSource : BitVec 8)
  (mTimeUnc mClockFreqBias mClockFreqBiasUnc : BitVec 32)
  mXoState : BitVec 8
  (mPgaGain mGpsBpAmpI mGpsBpAmpQ mAdcI mAdcQ mJammerGps mJammerGlo mJammerBds : BitVec 32)
  (mJammerGal mRecErrorRecovery : BitVec 32)
  (mAgcGps mAgcGlo mAgcBds mAgcGal : Float)
  (mLeapSeconds mLeapSecUnc mGloBpAmpI mGloBpAmpQ mBdsBpAmpI mBdsBpAmpQ mGalBpAmpI : BitVec 32)
  mGalBpAmpQ : BitVec 32
  mTimeUncNs : BitVec 64

structure SystemStatusPQWP1 where
  mEpiValidity : BitVec 8
  (mEpiLat mEpiLon mEpiAlt mEpiHepe mEpiAltUnc : Float32)
  mEpiSrc : BitVec 8
  deriving BEq

structure SystemStatusPQWP2 where
  (mBestLat mBestLon mBestAlt mBestHepe mBestAltUnc : Float32)
  deriving BEq

structure SystemStatusPQWP3 where
  mXtraValidMask : BitVec 8
  (mGpsXtraAge mGloXtraAge mBdsXtraAge mGalXtraAge mQzssXtraAge mNavicXtraAge : BitVec 32)
  (mGpsXtraValid mGloXtraValid : BitVec 32)
  (mBdsXtraValid mGalXtraValid : BitVec 64)
  mQzssXtraValid : BitVec 8
  mNavicXtraValid : BitVec 32
  deriving BEq

structure SystemStatusPQWP4 where
  (mGpsEpheValid mGloEpheValid : BitVec 32)
  (mBdsEpheValid mGalEpheValid : BitVec 64)
  mQzssEpheValid : BitVec 8
  deriving BEq

structure SystemStatusPQWP5 where
  (mGpsUnknownMask mGloUnknownMask : BitVec 32)
  (mBdsUnknownMask mGalUnknownMask : BitVec 64)
  mQzssUnknownMask : BitVec 8
  (mNavicUnknownMask mGpsGoodMask mGloGoodMask : BitVec 32)
  (mBdsGoodMask mGalGoodMask : BitVec 64)
  mQzssGoodMask : BitVec 8
  (mNavicGoodMask mGpsBadMask mGloBadMask : BitVec 32)
  (mBdsBadMask mGalBadMask : BitVec 64)
  mQzssBadMask : BitVec 8
  mNavicBadMask : BitVec 32

structure SystemStatusPQWP6 where
  mFixInfoMask : BitVec 32
  deriving BEq

/-- The two enumerations are ints. -/
structure SystemStatusNav where
  (mType mSource mAgeSec : BitVec 32)
  deriving BEq

def SV_ALL_NUM_MIN : ℕ := 134

def SV_ALL_NUM : ℕ := 148

structure SystemStatusPQWP7 where
  mNav : Fin SV_ALL_NUM → SystemStatusNav

structure SystemStatusPQWS1 where
  (mFixInfoMask mHepeLimit : BitVec 32)
  deriving BEq

/-! ## Parsers -/

section Parsers

variable (C : CLib) (mField : List (List Char))

/-- `mField[idx]`, where there is one. -/
def fieldAt (idx : ℕ) : List Char := mField.getD idx []

/-- `atoi` into an unsigned type. -/
def atoiAt (w idx : ℕ) : BitVec w := (C.atoi (fieldAt mField idx)).setWidth w

/-- `atoi` into an int32_t. -/
def intAt (idx : ℕ) : BitVec 32 := C.atoi (fieldAt mField idx)

/-- `strtol` with radix 16 into an unsigned type. -/
def hexAt (w idx : ℕ) : BitVec w := BitVec.ofInt w (C.strtol 16 (fieldAt mField idx))

/-- `atof` into a float. -/
def floatAt (idx : ℕ) : Float32 := (C.atof (fieldAt mField idx)).toFloat32

def SystemStatusPQWM1.zero : SystemStatusPQWM1 :=
  ⟨0, 0, 0, 0, 0, 0, 0, 0, 0, 0, 0, 0, 0, 0, 0, 0, 0, 0, 0, 0, 0, 0, 0, 0, 0, 0, 0, 0, 0, 0, 0⟩

def SystemStatusPQWM1parser : SystemStatusPQWM1 :=
  if mField.length ≤ 22 then .zero
  else
    { mGpsWeek := atoiAt C mField 16 1
      mGpsTowMs := atoiAt C mField 32 2
      mTimeValid := atoiAt C mField 8 3
      mTimeSource := atoiAt C mField 8 4
      mTimeUnc := intAt C mField 5
      mClockFreqBias := intAt C mField 6
      mClockFreqBiasUnc := intAt C mField 7
      mXoState := atoiAt C mField 8 8
      mPgaGain := intAt C mField 9
      mGpsBpAmpI := atoiAt C mField 32 10
      mGpsBpAmpQ := atoiAt C mField 32 11
      mAdcI := atoiAt C mField 32 12
      mAdcQ := atoiAt C mField 32 13
      mJammerGps := atoiAt C mField 32 14
      mJammerGlo := atoiAt C mField 32 15
      mJammerBds := atoiAt C mField 32 16
      mJammerGal := atoiAt C mField 32 17
      mRecErrorRecovery := atoiAt C mField 32 18
      mAgcGps := C.atof (fieldAt mField 19)
      mAgcGlo := C.atof (fieldAt mField 20)
      mAgcBds := C.atof (fieldAt mField 21)
      mAgcGal := C.atof (fieldAt mField 22)
      mLeapSeconds := if mField.length > 24 then intAt C mField 23 else 0
      mLeapSecUnc := if mField.length > 24 then intAt C mField 24 else 0
      mGloBpAmpI := if mField.length > 30 then atoiAt C mField 32 25 else 0
      mGloBpAmpQ := if mField.length > 30 then atoiAt C mField 32 26 else 0
      mBdsBpAmpI := if mField.length > 30 then atoiAt C mField 32 27 else 0
      mBdsBpAmpQ := if mField.length > 30 then atoiAt C mField 32 28 else 0
      mGalBpAmpI := if mField.length > 30 then atoiAt C mField 32 29 else 0
      mGalBpAmpQ := if mField.length > 30 then atoiAt C mField 32 30 else 0
      mTimeUncNs := if mField.length > 31 then strtoull 10 (fieldAt mField 31) else 0 }

/-- `memory` is what the record is not set to. -/
def SystemStatusPQWP1parser (memory : SystemStatusPQWP1) : SystemStatusPQWP1 :=
  if mField.length < 9 then memory
  else
    { mEpiValidity := hexAt C mField 8 2
      mEpiLat := floatAt C mField 3
      mEpiLon := floatAt C mField 4
      mEpiAlt := floatAt C mField 5
      -- by atoi, not atof
      mEpiHepe := Float32.ofInt (C.atoi (fieldAt mField 6)).toInt
      mEpiAltUnc := floatAt C mField 7
      mEpiSrc := atoiAt C mField 8 8 }

def SystemStatusPQWP2parser (memory : SystemStatusPQWP2) : SystemStatusPQWP2 :=
  if mField.length < 7 then memory
  else
    { mBestLat := floatAt C mField 2
      mBestLon := floatAt C mField 3
      mBestAlt := floatAt C mField 4
      mBestHepe := floatAt C mField 5
      mBestAltUnc := floatAt C mField 6 }

def SystemStatusPQWP3parser (memory : SystemStatusPQWP3) : SystemStatusPQWP3 :=
  if mField.length < 13 then memory
  else
    { mXtraValidMask := hexAt C mField 8 2
      mGpsXtraAge := atoiAt C mField 32 3
      mGloXtraAge := atoiAt C mField 32 4
      mBdsXtraAge := atoiAt C mField 32 5
      mGalXtraAge := atoiAt C mField 32 6
      mQzssXtraAge := atoiAt C mField 32 7
      mNavicXtraAge := 0
      mGpsXtraValid := hexAt C mField 32 8
      mGloXtraValid := hexAt C mField 32 9
      mBdsXtraValid := hexAt C mField 64 10
      mGalXtraValid := hexAt C mField 64 11
      mQzssXtraValid := hexAt C mField 8 12
      mNavicXtraValid := 0 }

def SystemStatusPQWP4parser (memory : SystemStatusPQWP4) : SystemStatusPQWP4 :=
  if mField.length < 7 then memory
  else
    { mGpsEpheValid := hexAt C mField 32 2
      mGloEpheValid := hexAt C mField 32 3
      mBdsEpheValid := hexAt C mField 64 4
      mGalEpheValid := hexAt C mField 64 5
      mQzssEpheValid := hexAt C mField 8 6 }

def SystemStatusPQWP5parser (memory : SystemStatusPQWP5) : SystemStatusPQWP5 :=
  if mField.length < 17 then memory
  else
    { mGpsUnknownMask := hexAt C mField 32 2
      mGloUnknownMask := hexAt C mField 32 3
      mBdsUnknownMask := hexAt C mField 64 4
      mGalUnknownMask := hexAt C mField 64 5
      mQzssUnknownMask := hexAt C mField 8 6
      mNavicUnknownMask := 0
      mGpsGoodMask := hexAt C mField 32 7
      mGloGoodMask := hexAt C mField 32 8
      mBdsGoodMask := hexAt C mField 64 9
      mGalGoodMask := hexAt C mField 64 10
      mQzssGoodMask := hexAt C mField 8 11
      mNavicGoodMask := 0
      mGpsBadMask := hexAt C mField 32 12
      mGloBadMask := hexAt C mField 32 13
      mBdsBadMask := hexAt C mField 64 14
      mGalBadMask := hexAt C mField 64 15
      mQzssBadMask := hexAt C mField 8 16
      mNavicBadMask := 0 }

def SystemStatusPQWP6parser (memory : SystemStatusPQWP6) : SystemStatusPQWP6 :=
  if mField.length < 3 then memory else { mFixInfoMask := hexAt C mField 32 2 }

/-- `svLimit` of the fields. -/
def svLimit : ℕ := if mField.length < 2 + SV_ALL_NUM * 3 then SV_ALL_NUM_MIN else SV_ALL_NUM

def SystemStatusPQWP7parser (memory : SystemStatusPQWP7) : SystemStatusPQWP7 :=
  if mField.length < 2 + SV_ALL_NUM_MIN * 3 then memory
  else
    { mNav := fun i =>
        if i < svLimit mField then
          { mType := intAt C mField (i * 3 + 2)
            mSource := intAt C mField (i * 3 + 3)
            mAgeSec := intAt C mField (i * 3 + 4) }
        else ⟨0, 0, 0⟩ }

def SystemStatusPQWS1parser (memory : SystemStatusPQWS1) : SystemStatusPQWS1 :=
  if mField.length < 4 then memory
  else { mFixInfoMask := atoiAt C mField 32 2, mHepeLimit := atoiAt C mField 32 3 }

end Parsers

/-! ## Members and their fields -/

/-- A member of a record, with the field that is its own. -/
structure Member (R : Type) where
  idx : ℕ
  /-- it is read if there are more fields -/
  behind : ℕ
  /-- it has the value of the field -/
  Says : R → List Char → Prop
  /-- the types that the value goes through can hold it -/
  Fits : List Char → Prop
  /-- the field says what a member that is not read has -/
  IsUnset : List Char → Prop

section Members

variable {R : Type} {w : ℕ} (C : CLib) (behind : ℕ)

def unsignedMember (radix : ℕ) (get : R → BitVec w) (idx : ℕ) : Member R where
  idx
  behind
  Says r field := ((get r).toNat : ℤ) = number radix field
  Fits field := 0 ≤ number radix field ∧ number radix field < 2 ^ w ∧ number radix field ≤ C.longMax
  IsUnset field := number radix field = 0

def signedMember (get : R → BitVec 32) (idx : ℕ) : Member R where
  idx
  behind
  Says r field := (get r).toInt = number 10 field
  Fits field := -2147483648 ≤ number 10 field ∧ number 10 field ≤ 2147483647
  IsUnset field := number 10 field = 0

def wideMember (get : R → BitVec 64) (idx : ℕ) : Member R where
  idx
  behind
  Says r field := ((get r).toNat : ℤ) = number 10 field
  Fits field := 0 ≤ number 10 field ∧ number 10 field < 18446744073709551616
  IsUnset field := number 10 field = 0

def doubleMember (get : R → Float) (idx : ℕ) : Member R where
  idx
  behind
  Says r field := get r = C.atof field
  Fits _ := True
  IsUnset field := C.atof field = 0

def floatMember (get : R → Float32) (idx : ℕ) : Member R where
  idx
  behind
  Says r field := get r = (C.atof field).toFloat32
  Fits _ := True
  IsUnset field := (C.atof field).toFloat32 = 0

/-- A float that atoi reads. -/
def wholeMember (get : R → Float32) (idx : ℕ) : Member R where
  idx
  behind
  Says r field := get r = (C.atof field).toFloat32
  Fits field := Float32.ofInt (C.atoi field).toInt = (C.atof field).toFloat32
  IsUnset field := (C.atof field).toFloat32 = 0

def PQWM1members : List (Member SystemStatusPQWM1) :=
  [unsignedMember C 22 10 (·.mGpsWeek) 1, unsignedMember C 22 10 (·.mGpsTowMs) 2,
   unsignedMember C 22 10 (·.mTimeValid) 3, unsignedMember C 22 10 (·.mTimeSource) 4,
   signedMember 22 (·.mTimeUnc) 5, signedMember 22 (·.mClockFreqBias) 6,
   signedMember 22 (·.mClockFreqBiasUnc) 7, unsignedMember C 22 10 (·.mXoState) 8,
   signedMember 22 (·.mPgaGain) 9, unsignedMember C 22 10 (·.mGpsBpAmpI) 10,
   unsignedMember C 22 10 (·.mGpsBpAmpQ) 11, unsignedMember C 22 10 (·.mAdcI) 12,
   unsignedMember C 22 10 (·.mAdcQ) 13, unsignedMember C 22 10 (·.mJammerGps) 14,
   unsignedMember C 22 10 (·.mJammerGlo) 15, unsignedMember C 22 10 (·.mJammerBds) 16,
   unsignedMember C 22 10 (·.mJammerGal) 17, unsignedMember C 22 10 (·.mRecErrorRecovery) 18,
   doubleMember C 22 (·.mAgcGps) 19, doubleMember C 22 (·.mAgcGlo) 20,
   doubleMember C 22 (·.mAgcBds) 21, doubleMember C 22 (·.mAgcGal) 22,
   signedMember 24 (·.mLeapSeconds) 23, signedMember 24 (·.mLeapSecUnc) 24,
   unsignedMember C 30 10 (·.mGloBpAmpI) 25, unsignedMember C 30 10 (·.mGloBpAmpQ) 26,
   unsignedMember C 30 10 (·.mBdsBpAmpI) 27, unsignedMember C 30 10 (·.mBdsBpAmpQ) 28,
   unsignedMember C 30 10 (·.mGalBpAmpI) 29, unsignedMember C 30 10 (·.mGalBpAmpQ) 30,
   wideMember 31 (·.mTimeUncNs) 31]

def PQWP1members : List (Member SystemStatusPQWP1) :=
  [unsignedMember C 8 16 (·.mEpiValidity) 2, floatMember C 8 (·.mEpiLat) 3,
   floatMember C 8 (·.mEpiLon) 4, floatMember C 8 (·.mEpiAlt) 5, wholeMember C 8 (·.mEpiHepe) 6,
   floatMember C 8 (·.mEpiAltUnc) 7, unsignedMember C 8 10 (·.mEpiSrc) 8]

def PQWP2members : List (Member SystemStatusPQWP2) :=
  [floatMember C 6 (·.mBestLat) 2, floatMember C 6 (·.mBestLon) 3, floatMember C 6 (·.mBestAlt) 4,
   floatMember C 6 (·.mBestHepe) 5, floatMember C 6 (·.mBestAltUnc) 6]

/-- There is no field for NavIC. -/
def PQWP3members : List (Member SystemStatusPQWP3) :=
  [unsignedMember C 12 16 (·.mXtraValidMask) 2, unsignedMember C 12 10 (·.mGpsXtraAge) 3,
   unsignedMember C 12 10 (·.mGloXtraAge) 4, unsignedMember C 12 10 (·.mBdsXtraAge) 5,
   unsignedMember C 12 10 (·.mGalXtraAge) 6, unsignedMember C 12 10 (·.mQzssXtraAge) 7,
   unsignedMember C 12 16 (·.mGpsXtraValid) 8, unsignedMember C 12 16 (·.mGloXtraValid) 9,
   unsignedMember C 12 16 (·.mBdsXtraValid) 10, unsignedMember C 12 16 (·.mGalXtraValid) 11,
   unsignedMember C 12 16 (·.mQzssXtraValid) 12]

def PQWP4members : List (Member SystemStatusPQWP4) :=
  [unsignedMember C 6 16 (·.mGpsEpheValid) 2, unsignedMember C 6 16 (·.mGloEpheValid) 3,
   unsignedMember C 6 16 (·.mBdsEpheValid) 4, unsignedMember C 6 16 (·.mGalEpheValid) 5,
   unsignedMember C 6 16 (·.mQzssEpheValid) 6]

/-- There is none for NavIC. -/
def PQWP5members : List (Member SystemStatusPQWP5) :=
  [unsignedMember C 16 16 (·.mGpsUnknownMask) 2, unsignedMember C 16 16 (·.mGloUnknownMask) 3,
   unsignedMember C 16 16 (·.mBdsUnknownMask) 4, unsignedMember C 16 16 (·.mGalUnknownMask) 5,
   unsignedMember C 16 16 (·.mQzssUnknownMask) 6, unsignedMember C 16 16 (·.mGpsGoodMask) 7,
   unsignedMember C 16 16 (·.mGloGoodMask) 8, unsignedMember C 16 16 (·.mBdsGoodMask) 9,
   unsignedMember C 16 16 (·.mGalGoodMask) 10, unsignedMember C 16 16 (·.mQzssGoodMask) 11,
   unsignedMember C 16 16 (·.mGpsBadMask) 12, unsignedMember C 16 16 (·.mGloBadMask) 13,
   unsignedMember C 16 16 (·.mBdsBadMask) 14, unsignedMember C 16 16 (·.mGalBadMask) 15,
   unsignedMember C 16 16 (·.mQzssBadMask) 16]

def PQWP6members : List (Member SystemStatusPQWP6) := [unsignedMember C 2 16 (·.mFixInfoMask) 2]

/-- Which fields must be there for a satellite; NavIC comes last. -/
def navBehind (i : Fin SV_ALL_NUM) : ℕ := if i < SV_ALL_NUM_MIN then 403 else 445

def navMembers (i : Fin SV_ALL_NUM) : List (Member SystemStatusPQWP7) :=
  [signedMember (navBehind i) (fun r => (r.mNav i).mType) (i * 3 + 2),
   signedMember (navBehind i) (fun r => (r.mNav i).mSource) (i * 3 + 3),
   signedMember (navBehind i) (fun r => (r.mNav i).mAgeSec) (i * 3 + 4)]

def PQWP7members : List (Member SystemStatusPQWP7) := (List.finRange SV_ALL_NUM).flatMap navMembers

def PQWS1members : List (Member SystemStatusPQWS1) :=
  [unsignedMember C 3 10 (·.mFixInfoMask) 2, unsignedMember C 3 10 (·.mHepeLimit) 3]

end Members

/-! ## What the parsers do -/

section Exact

variable {R : Type} {w : ℕ} {C : CLib} {behind idx radix : ℕ} {mField : List (List Char)} {r : R}

/-- A member has the value of its field just when the value fits, or is the
one it has without it. -/
structure Member.Exact (m : Member R) (mField : List (List Char)) (r : R) : Prop where
  read : m.behind < mField.length →
    (m.Says r (fieldAt mField m.idx) ↔ m.Fits (fieldAt mField m.idx))
  unread : ¬ m.behind < mField.length →
    (m.Says r (fieldAt mField m.idx) ↔ m.IsUnset (fieldAt mField m.idx))

variable {get : R → BitVec w}

theorem exact_hex (hlength : behind < mField.length) (hget : get r = hexAt C mField w idx) :
    (unsignedMember C behind 16 get idx).Exact mField r where
  read _ := by
    show ((get r).toNat : ℤ) = _ ↔ _
    rw [hget]
    exact CLib.toNat_strtol_iff
  unread h := absurd hlength h

theorem exact_dec (hw : w ≤ 32) (hread : behind < mField.length → get r = atoiAt C mField w idx)
    (hzero : ¬ behind < mField.length → get r = 0) :
    (unsignedMember C behind 10 get idx).Exact mField r where
  read h := by
    show ((get r).toNat : ℤ) = _ ↔ _
    rw [hread h]
    exact CLib.toNat_atoi_iff hw
  unread h := by
    show ((get r).toNat : ℤ) = _ ↔ _
    rw [hzero h]
    exact eq_comm

theorem exact_int {get : R → BitVec 32}
    (hread : behind < mField.length → get r = intAt C mField idx)
    (hzero : ¬ behind < mField.length → get r = 0) :
    (signedMember behind get idx).Exact mField r where
  read h := by
    show (get r).toInt = _ ↔ _
    rw [hread h]
    exact CLib.toInt_atoi_iff
  unread h := by
    show (get r).toInt = _ ↔ _
    rw [hzero h]
    exact eq_comm

theorem exact_wide {get : R → BitVec 64}
    (hread : behind < mField.length → get r = strtoull 10 (fieldAt mField idx))
    (hzero : ¬ behind < mField.length → get r = 0) :
    (wideMember behind get idx).Exact mField r where
  read h := by
    show ((get r).toNat : ℤ) = _ ↔ _
    rw [hread h]
    exact toNat_strtoull_iff
  unread h := by
    show ((get r).toNat : ℤ) = _ ↔ _
    rw [hzero h]
    exact eq_comm

theorem exact_double {get : R → Float} (hlength : behind < mField.length)
    (hget : get r = C.atof (fieldAt mField idx)) :
    (doubleMember C behind get idx).Exact mField r where
  read _ := iff_of_true hget trivial
  unread h := absurd hlength h

theorem exact_float {get : R → Float32} (hlength : behind < mField.length)
    (hget : get r = floatAt C mField idx) : (floatMember C behind get idx).Exact mField r where
  read _ := iff_of_true hget trivial
  unread h := absurd hlength h

theorem exact_whole {get : R → Float32} (hlength : behind < mField.length)
    (hget : get r = Float32.ofInt (C.atoi (fieldAt mField idx)).toInt) :
    (wholeMember C behind get idx).Exact mField r where
  read _ := by
    show get r = _ ↔ _
    rw [hget]
    rfl
  unread h := absurd hlength h

theorem exact_PQWM1 (h : 22 < mField.length) :
    ∀ m ∈ PQWM1members C, m.Exact mField (SystemStatusPQWM1parser C mField) := by
  have hparser : ∃ r, SystemStatusPQWM1parser C mField = r := ⟨_, rfl⟩
  obtain ⟨r, hr⟩ := hparser
  have dec {w idx : ℕ} {get : SystemStatusPQWM1 → BitVec w} (hw : w ≤ 32)
      (hget : get r = atoiAt C mField w idx) : (unsignedMember C 22 10 get idx).Exact mField r :=
    exact_dec hw (fun _ => hget) fun hnot => absurd h hnot
  have int {idx : ℕ} {get : SystemStatusPQWM1 → BitVec 32} (hget : get r = intAt C mField idx) :
      (signedMember 22 get idx).Exact mField r :=
    exact_int (fun _ => hget) fun hnot => absurd h hnot
  have more {idx : ℕ} {get : SystemStatusPQWM1 → BitVec 32}
      (hget : get r = if mField.length > 30 then atoiAt C mField 32 idx else 0) :
      (unsignedMember C 30 10 get idx).Exact mField r :=
    exact_dec (by decide) (fun hlt => hget.trans (if_pos hlt)) fun hlt => hget.trans (if_neg hlt)
  have leap {idx : ℕ} {get : SystemStatusPQWM1 → BitVec 32}
      (hget : get r = if mField.length > 24 then intAt C mField idx else 0) :
      (signedMember 24 get idx).Exact mField r :=
    exact_int (fun hlt => hget.trans (if_pos hlt)) fun hlt => hget.trans (if_neg hlt)
  rw [hr]
  unfold SystemStatusPQWM1parser at hr
  rw [if_neg (Nat.not_le_of_lt h)] at hr
  subst hr
  simp only [PQWM1members, forall_mem_cons]
  exact ⟨dec (by decide) rfl, dec (by decide) rfl, dec (by decide) rfl, dec (by decide) rfl,
    int rfl, int rfl, int rfl, dec (by decide) rfl, int rfl, dec (by decide) rfl,
    dec (by decide) rfl, dec (by decide) rfl, dec (by decide) rfl, dec (by decide) rfl,
    dec (by decide) rfl, dec (by decide) rfl, dec (by decide) rfl, dec (by decide) rfl,
    exact_double h rfl, exact_double h rfl, exact_double h rfl, exact_double h rfl,
    leap rfl, leap rfl, more rfl, more rfl, more rfl, more rfl, more rfl, more rfl,
    exact_wide (fun hlt => if_pos hlt) fun hlt => if_neg hlt,
    fun _ hm => absurd hm not_mem_nil⟩

theorem exact_PQWP1 {memory : SystemStatusPQWP1} (h : 8 < mField.length) :
    ∀ m ∈ PQWP1members C, m.Exact mField (SystemStatusPQWP1parser C mField memory) := by
  unfold SystemStatusPQWP1parser
  rw [if_neg (Nat.not_lt_of_le h)]
  simp only [PQWP1members, forall_mem_cons]
  exact ⟨exact_hex h rfl, exact_float h rfl, exact_float h rfl, exact_float h rfl,
    exact_whole h rfl, exact_float h rfl,
    exact_dec (by decide) (fun _ => rfl) fun hnot => absurd h hnot,
    fun _ hm => absurd hm not_mem_nil⟩

theorem exact_PQWP2 {memory : SystemStatusPQWP2} (h : 6 < mField.length) :
    ∀ m ∈ PQWP2members C, m.Exact mField (SystemStatusPQWP2parser C mField memory) := by
  unfold SystemStatusPQWP2parser
  rw [if_neg (Nat.not_lt_of_le h)]
  simp only [PQWP2members, forall_mem_cons]
  exact ⟨exact_float h rfl, exact_float h rfl, exact_float h rfl, exact_float h rfl,
    exact_float h rfl, fun _ hm => absurd hm not_mem_nil⟩

theorem exact_PQWP3 {memory : SystemStatusPQWP3} (h : 12 < mField.length) :
    ∀ m ∈ PQWP3members C, m.Exact mField (SystemStatusPQWP3parser C mField memory) := by
  unfold SystemStatusPQWP3parser
  rw [if_neg (Nat.not_lt_of_le h)]
  have dec {idx : ℕ} {get : SystemStatusPQWP3 → BitVec 32} {r : SystemStatusPQWP3}
      (hget : get r = atoiAt C mField 32 idx) : (unsignedMember C 12 10 get idx).Exact mField r :=
    exact_dec (by decide) (fun _ => hget) fun hnot => absurd h hnot
  simp only [PQWP3members, forall_mem_cons]
  exact ⟨exact_hex h rfl, dec rfl, dec rfl, dec rfl, dec rfl, dec rfl, exact_hex h rfl,
    exact_hex h rfl, exact_hex h rfl, exact_hex h rfl, exact_hex h rfl,
    fun _ hm => absurd hm not_mem_nil⟩

theorem exact_PQWP4 {memory : SystemStatusPQWP4} (h : 6 < mField.length) :
    ∀ m ∈ PQWP4members C, m.Exact mField (SystemStatusPQWP4parser C mField memory) := by
  unfold SystemStatusPQWP4parser
  rw [if_neg (Nat.not_lt_of_le h)]
  simp only [PQWP4members, forall_mem_cons]
  exact ⟨exact_hex h rfl, exact_hex h rfl, exact_hex h rfl, exact_hex h rfl, exact_hex h rfl,
    fun _ hm => absurd hm not_mem_nil⟩

theorem exact_PQWP5 {memory : SystemStatusPQWP5} (h : 16 < mField.length) :
    ∀ m ∈ PQWP5members C, m.Exact mField (SystemStatusPQWP5parser C mField memory) := by
  unfold SystemStatusPQWP5parser
  rw [if_neg (Nat.not_lt_of_le h)]
  simp only [PQWP5members, forall_mem_cons]
  exact ⟨exact_hex h rfl, exact_hex h rfl, exact_hex h rfl, exact_hex h rfl, exact_hex h rfl,
    exact_hex h rfl, exact_hex h rfl, exact_hex h rfl, exact_hex h rfl, exact_hex h rfl,
    exact_hex h rfl, exact_hex h rfl, exact_hex h rfl, exact_hex h rfl, exact_hex h rfl,
    fun _ hm => absurd hm not_mem_nil⟩

theorem exact_PQWP6 {memory : SystemStatusPQWP6} (h : 2 < mField.length) :
    ∀ m ∈ PQWP6members C, m.Exact mField (SystemStatusPQWP6parser C mField memory) := by
  unfold SystemStatusPQWP6parser
  rw [if_neg (Nat.not_lt_of_le h)]
  exact forall_mem_singleton.mpr (exact_hex h rfl)

theorem lt_svLimit_iff (h : 403 < mField.length) (i : Fin SV_ALL_NUM) :
    i < svLimit mField ↔ navBehind i < mField.length := by
  have hi : (i : ℕ) < 148 := i.isLt
  unfold svLimit navBehind SV_ALL_NUM SV_ALL_NUM_MIN
  split <;> split <;> omega

theorem exact_PQWP7 {memory : SystemStatusPQWP7} (h : 403 < mField.length) :
    ∀ m ∈ PQWP7members, m.Exact mField (SystemStatusPQWP7parser C mField memory) := by
  have hle : ¬ mField.length < 2 + SV_ALL_NUM_MIN * 3 := Nat.not_lt_of_le h
  unfold SystemStatusPQWP7parser
  rw [if_neg hle]
  refine forall_mem_flatMap.mpr fun i _ => ?_
  have nav {idx : ℕ} {get : SystemStatusNav → BitVec 32} {read : SystemStatusNav}
      {r : SystemStatusPQWP7} (hnav : r.mNav i = if i < svLimit mField then read else ⟨0, 0, 0⟩)
      (hget : get read = intAt C mField idx) (hzero : get ⟨0, 0, 0⟩ = 0) :
      (signedMember (navBehind i) (fun r => get (r.mNav i)) idx).Exact mField r := by
    refine exact_int (C := C) (fun hlt => ?_) fun hnot => ?_
    · rw [hnav, if_pos ((lt_svLimit_iff h i).mpr hlt)]
      exact hget
    · rw [hnav, if_neg fun hlt => hnot ((lt_svLimit_iff h i).mp hlt)]
      exact hzero
  simp only [navMembers, forall_mem_cons]
  exact ⟨nav rfl rfl rfl, nav rfl rfl rfl, nav rfl rfl rfl, fun _ hm => absurd hm not_mem_nil⟩

theorem exact_PQWS1 {memory : SystemStatusPQWS1} (h : 3 < mField.length) :
    ∀ m ∈ PQWS1members C, m.Exact mField (SystemStatusPQWS1parser C mField memory) := by
  unfold SystemStatusPQWS1parser
  rw [if_neg (Nat.not_lt_of_le h)]
  simp only [PQWS1members, forall_mem_cons]
  exact ⟨exact_dec (by decide) (fun _ => rfl) fun hnot => absurd h hnot,
    exact_dec (by decide) (fun _ => rfl) fun hnot => absurd h hnot,
    fun _ hm => absurd hm not_mem_nil⟩

end Exact

end DebugNmea

end LocStack.Core
