/-
# `LocStack.Core.DebugReports` — the reports that debug sentences leave

setNmeaString parses a debug sentence and offers what it gets to the lists of
the cache.  A list takes a report that differs from its last one, of which it
then keeps five; of one that does not it takes the time.

    offered         the record of a sentence
    setReports      what becomes of the lists
    Complete        a checksum mark, and before it all the fields that are wanted

`setNmeaString_right_iff`: a complete sentence is offered with the values of
its fields, and any other leaves the cache as it is, for exactly the sentences
that fit.  An incomplete one does not, since its record is offered all the same,
be it 0 or what was in memory; nor does a mask that does not fit into a long.
-/
import LocStack.Core.DebugNmea

namespace LocStack.Core

open Base List

namespace DebugNmea

/-! ## Lists of reports -/

structure Timespec where
  (tv_sec tv_nsec : ℤ)

/-- Of a SystemStatusItemBase. -/
class StatusItem (R : Type) where
  equals : R → R → Bool
  ignore : R → Bool := fun _ => false

structure Reported (R : Type) where
  item : R
  (mUtcTime mUtcReported : Timespec)

/-- As it is made. -/
def Reported.at (item : R) (now : Timespec) : Reported R := ⟨item, now, now⟩

def maxItem : ℕ := 5

section Reports

variable {R : Type} [StatusItem R]

def setIteminReport (report : List (Reported R)) (s : Reported R) : List (Reported R) :=
  let pushed := report ++ [s]
  let kept := if pushed.length > maxItem then pushed.tail else pushed
  if StatusItem.ignore s.item then report
  else
    match report.getLast? with
    | none => kept
    | some back =>
      if StatusItem.equals back.item s.item then
        report.dropLast ++ [{ back with mUtcReported := s.mUtcReported }]
      else kept

/-- The list does not show it. -/
def Absorbs (report : List (Reported R)) (s : Reported R) : Prop :=
  StatusItem.ignore s.item = true ∨ ∃ back, report.getLast? = some back ∧
    ((StatusItem.equals back.item s.item = true ∧ back.mUtcReported = s.mUtcReported) ∨
      (StatusItem.equals back.item s.item = false ∧ maxItem ≤ report.length ∧ ∀ r ∈ report, r = s))

variable {report : List (Reported R)} {s : Reported R}

omit [StatusItem R] in
theorem concat_eq_cons_iff {r : Reported R} :
    report ++ [s] = r :: report ↔ r = s ∧ ∀ r' ∈ report, r' = s := by
  induction report generalizing r with
  | nil =>
    refine ⟨fun h => ⟨(List.cons.inj h).1.symm, fun _ hr => absurd hr not_mem_nil⟩, ?_⟩
    rintro ⟨rfl, -⟩
    rfl
  | cons a report ih =>
    show a :: (report ++ [s]) = r :: a :: report ↔ _
    rw [List.cons.injEq, ih, forall_mem_cons]
    constructor
    · rintro ⟨rfl, rfl, hall⟩
      exact ⟨rfl, rfl, hall⟩
    · rintro ⟨rfl, rfl, hall⟩
      exact ⟨rfl, rfl, hall⟩

theorem setIteminReport_eq_self_iff : setIteminReport report s = report ↔ Absorbs report s := by
  have hpushed : (if (report ++ [s]).length > maxItem then (report ++ [s]).tail
      else report ++ [s]) = report ↔
      report ≠ [] ∧ maxItem ≤ report.length ∧ ∀ r ∈ report, r = s := by
    rw [length_append]
    cases report with
    | nil => exact iff_of_false (cons_ne_nil s []) fun h => h.1 rfl
    | cons r report =>
      split
      · rename_i hlength
        have hfull : maxItem ≤ (r :: report).length := Nat.le_of_lt_succ hlength
        rw [forall_mem_cons, and_iff_right (cons_ne_nil r report), and_iff_right hfull]
        exact concat_eq_cons_iff
      · rename_i hlength
        refine iff_of_false (fun h => ?_) fun h => hlength (Nat.lt_succ_of_le h.2.1)
        have hle := congrArg List.length h
        rw [length_append] at hle
        exact Nat.succ_ne_self _ hle
  unfold setIteminReport Absorbs
  dsimp only
  cases hignore : StatusItem.ignore s.item with
  | true => exact iff_of_true (if_pos rfl) (.inl rfl)
  | false =>
    rw [if_neg Bool.false_ne_true, or_iff_right Bool.false_ne_true]
    cases hlast : report.getLast? with
    | none =>
      refine (hpushed.trans (iff_of_false (fun h => ?_) ?_))
      · exact h.1 (List.getLast?_eq_none_iff.mp hlast)
      · rintro ⟨_, hback, -⟩
        cases hback
    | some back =>
      obtain ⟨front, rfl⟩ := List.getLast?_eq_some_iff.mp hlast
      dsimp only
      cases hequals : StatusItem.equals back.item s.item with
      | true =>
        rw [if_pos rfl, dropLast_concat]
        constructor
        · intro h
          have hback := (List.cons.inj (append_cancel_left h)).1
          exact ⟨back, rfl, .inl ⟨hequals, (congrArg Reported.mUtcReported hback).symm⟩⟩
        · rintro ⟨_, hback, ⟨-, htime⟩ | ⟨hdiffer, -⟩⟩
          · cases hback
            rw [← htime]
          · cases hback
            cases hequals.symm.trans hdiffer
      | false =>
        rw [if_neg Bool.false_ne_true, hpushed]
        constructor
        · rintro ⟨-, h⟩
          exact ⟨back, rfl, .inr ⟨hequals, h⟩⟩
        · rintro ⟨_, hback, ⟨hsame, -⟩ | ⟨-, h⟩⟩
          · cases hback
            cases hequals.symm.trans hsame
          · exact ⟨append_ne_nil_of_right_ne_nil front (cons_ne_nil back []), h⟩

end Reports

/-! ## The items of the lists -/

structure SystemStatusTimeAndClock where
  mGpsWeek : BitVec 16
  mGpsTowMs : BitVec 32
  (mTimeValid mTimeSource : BitVec 8)
  (mTimeUnc mClockFreqBias mClockFreqBiasUnc mLeapSeconds mLeapSecUnc : BitVec 32)
  mTimeUncNs : BitVec 64
  deriving BEq

structure SystemStatusXoState where
  mXoState : BitVec 8
  deriving BEq

structure SystemStatusRfAndParams where
  (mPgaGain mGpsBpAmpI mGpsBpAmpQ mAdcI mAdcQ mJammerGps mJammerGlo mJammerBds : BitVec 32)
  mJammerGal : BitVec 32
  (mAgcGps mAgcGlo mAgcBds mAgcGal : Float)
  (mGloBpAmpI mGloBpAmpQ mBdsBpAmpI mBdsBpAmpQ mGalBpAmpI mGalBpAmpQ : BitVec 32)
  deriving BEq

structure SystemStatusErrRecovery where
  mRecErrorRecovery : BitVec 32
  deriving BEq

namespace SystemStatusPQWM1

variable (nmea : SystemStatusPQWM1)

def timeAndClock : SystemStatusTimeAndClock where
  mGpsWeek := nmea.mGpsWeek
  mGpsTowMs := nmea.mGpsTowMs
  mTimeValid := nmea.mTimeValid
  mTimeSource := nmea.mTimeSource
  mTimeUnc := nmea.mTimeUnc
  mClockFreqBias := nmea.mClockFreqBias
  mClockFreqBiasUnc := nmea.mClockFreqBiasUnc
  mLeapSeconds := nmea.mLeapSeconds
  mLeapSecUnc := nmea.mLeapSecUnc
  mTimeUncNs := nmea.mTimeUncNs

def xoState : SystemStatusXoState := ⟨nmea.mXoState⟩

def rfAndParams : SystemStatusRfAndParams where
  mPgaGain := nmea.mPgaGain
  mGpsBpAmpI := nmea.mGpsBpAmpI
  mGpsBpAmpQ := nmea.mGpsBpAmpQ
  mAdcI := nmea.mAdcI
  mAdcQ := nmea.mAdcQ
  mJammerGps := nmea.mJammerGps
  mJammerGlo := nmea.mJammerGlo
  mJammerBds := nmea.mJammerBds
  mJammerGal := nmea.mJammerGal
  mAgcGps := nmea.mAgcGps
  mAgcGlo := nmea.mAgcGlo
  mAgcBds := nmea.mAgcBds
  mAgcGal := nmea.mAgcGal
  mGloBpAmpI := nmea.mGloBpAmpI
  mGloBpAmpQ := nmea.mGloBpAmpQ
  mBdsBpAmpI := nmea.mBdsBpAmpI
  mBdsBpAmpQ := nmea.mBdsBpAmpQ
  mGalBpAmpI := nmea.mGalBpAmpI
  mGalBpAmpQ := nmea.mGalBpAmpQ

def errRecovery : SystemStatusErrRecovery := ⟨nmea.mRecErrorRecovery⟩

end SystemStatusPQWM1

instance : StatusItem SystemStatusTimeAndClock where
  equals := (· == ·)

instance : StatusItem SystemStatusXoState where
  equals := (· == ·)

instance : StatusItem SystemStatusRfAndParams where
  equals := (· == ·)

instance : StatusItem SystemStatusErrRecovery where
  equals := (· == ·)
  ignore s := s.mRecErrorRecovery == 0

instance : StatusItem SystemStatusPQWP1 where
  equals := (· == ·)

instance : StatusItem SystemStatusPQWP2 where
  equals := (· == ·)

instance : StatusItem SystemStatusPQWP3 where
  equals := (· == ·)

instance : StatusItem SystemStatusPQWP4 where
  equals := (· == ·)

/-- Without NavIC. -/
instance : StatusItem SystemStatusPQWP5 where
  equals s peer :=
    s.mGpsUnknownMask == peer.mGpsUnknownMask && s.mGloUnknownMask == peer.mGloUnknownMask &&
    s.mBdsUnknownMask == peer.mBdsUnknownMask && s.mGalUnknownMask == peer.mGalUnknownMask &&
    s.mQzssUnknownMask == peer.mQzssUnknownMask && s.mGpsGoodMask == peer.mGpsGoodMask &&
    s.mGloGoodMask == peer.mGloGoodMask && s.mBdsGoodMask == peer.mBdsGoodMask &&
    s.mGalGoodMask == peer.mGalGoodMask && s.mQzssGoodMask == peer.mQzssGoodMask &&
    s.mGpsBadMask == peer.mGpsBadMask && s.mGloBadMask == peer.mGloBadMask &&
    s.mBdsBadMask == peer.mBdsBadMask && s.mGalBadMask == peer.mGalBadMask &&
    s.mQzssBadMask == peer.mQzssBadMask

instance : StatusItem SystemStatusPQWP6 where
  equals := (· == ·)

instance : StatusItem SystemStatusPQWP7 where
  equals s peer := (List.finRange SV_ALL_NUM).all fun i => s.mNav i == peer.mNav i

instance : StatusItem SystemStatusPQWS1 where
  equals := (· == ·)

/-- The lists that debug sentences come into.  From mInjectedPosition on the
items have just the members of what is parsed. -/
@[ext]
structure Cache where
  mTimeAndClock : List (Reported SystemStatusTimeAndClock)
  mXoState : List (Reported SystemStatusXoState)
  mRfAndParams : List (Reported SystemStatusRfAndParams)
  mErrRecovery : List (Reported SystemStatusErrRecovery)
  mInjectedPosition : List (Reported SystemStatusPQWP1)
  mBestPosition : List (Reported SystemStatusPQWP2)
  mXtra : List (Reported SystemStatusPQWP3)
  mEphemeris : List (Reported SystemStatusPQWP4)
  mSvHealth : List (Reported SystemStatusPQWP5)
  mPdr : List (Reported SystemStatusPQWP6)
  mNavData : List (Reported SystemStatusPQWP7)
  mPositionFailure : List (Reported SystemStatusPQWS1)

/-! ## Sentences -/

inductive DebugSentence where
  | PQWM1 | PQWP1 | PQWP2 | PQWP3 | PQWP4 | PQWP5 | PQWP6 | PQWP7 | PQWS1

namespace DebugSentence

/-- Which one it is, behind the talker. -/
def formatter : DebugSentence → List Char
  | PQWM1 => ['M', '1']
  | PQWP1 => ['P', '1']
  | PQWP2 => ['P', '2']
  | PQWP3 => ['P', '3']
  | PQWP4 => ['P', '4']
  | PQWP5 => ['P', '5']
  | PQWP6 => ['P', '6']
  | PQWP7 => ['P', '7']
  | PQWS1 => ['S', '1']

/-- The comparisons of setNmeaString, in turn. -/
def of (data : List Char) : Option DebugSentence :=
  [PQWM1, PQWP1, PQWP2, PQWP3, PQWP4, PQWP5, PQWP6, PQWP7, PQWS1].find? fun sentence =>
    debugTalker ++ sentence.formatter <+: data

def Record : DebugSentence → Type
  | PQWM1 => SystemStatusPQWM1
  | PQWP1 => SystemStatusPQWP1
  | PQWP2 => SystemStatusPQWP2
  | PQWP3 => SystemStatusPQWP3
  | PQWP4 => SystemStatusPQWP4
  | PQWP5 => SystemStatusPQWP5
  | PQWP6 => SystemStatusPQWP6
  | PQWP7 => SystemStatusPQWP7
  | PQWS1 => SystemStatusPQWS1

/-- What the memory of the parsers holds before. -/
abbrev Memory : Type := ∀ sentence : DebugSentence, sentence.Record

def parse (C : CLib) (mField : List (List Char)) (memory : Memory) :
    ∀ sentence : DebugSentence, sentence.Record
  | PQWM1 => SystemStatusPQWM1parser C mField
  | PQWP1 => SystemStatusPQWP1parser C mField (memory PQWP1)
  | PQWP2 => SystemStatusPQWP2parser C mField (memory PQWP2)
  | PQWP3 => SystemStatusPQWP3parser C mField (memory PQWP3)
  | PQWP4 => SystemStatusPQWP4parser C mField (memory PQWP4)
  | PQWP5 => SystemStatusPQWP5parser C mField (memory PQWP5)
  | PQWP6 => SystemStatusPQWP6parser C mField (memory PQWP6)
  | PQWP7 => SystemStatusPQWP7parser C mField (memory PQWP7)
  | PQWS1 => SystemStatusPQWS1parser C mField (memory PQWS1)

def members (C : CLib) : ∀ sentence : DebugSentence, List (Member sentence.Record)
  | PQWM1 => PQWM1members C
  | PQWP1 => PQWP1members C
  | PQWP2 => PQWP2members C
  | PQWP3 => PQWP3members C
  | PQWP4 => PQWP4members C
  | PQWP5 => PQWP5members C
  | PQWP6 => PQWP6members C
  | PQWP7 => PQWP7members
  | PQWS1 => PQWS1members C

/-- The fields that there must be. -/
def required : DebugSentence → ℕ
  | PQWM1 => 23
  | PQWP1 => 9
  | PQWP2 => 7
  | PQWP3 => 13
  | PQWP4 => 7
  | PQWP5 => 17
  | PQWP6 => 3
  | PQWP7 => 404
  | PQWS1 => 4

end DebugSentence

open DebugSentence (Memory)

namespace Cache

variable (c : Cache) (now : ℕ → Timespec)

/-- The record is offered; `now` is when its items are made. -/
def setReports : ∀ sentence : DebugSentence, sentence.Record → Cache
  | .PQWM1, s =>
    { c with
      mTimeAndClock := setIteminReport c.mTimeAndClock (.at s.timeAndClock (now 0))
      mXoState := setIteminReport c.mXoState (.at s.xoState (now 1))
      mRfAndParams := setIteminReport c.mRfAndParams (.at s.rfAndParams (now 2))
      mErrRecovery := setIteminReport c.mErrRecovery (.at s.errRecovery (now 3)) }
  | .PQWP1, s =>
    { c with mInjectedPosition := setIteminReport c.mInjectedPosition (.at s (now 0)) }
  | .PQWP2, s => { c with mBestPosition := setIteminReport c.mBestPosition (.at s (now 0)) }
  | .PQWP3, s => { c with mXtra := setIteminReport c.mXtra (.at s (now 0)) }
  | .PQWP4, s => { c with mEphemeris := setIteminReport c.mEphemeris (.at s (now 0)) }
  | .PQWP5, s => { c with mSvHealth := setIteminReport c.mSvHealth (.at s (now 0)) }
  | .PQWP6, s => { c with mPdr := setIteminReport c.mPdr (.at s (now 0)) }
  | .PQWP7, s => { c with mNavData := setIteminReport c.mNavData (.at s (now 0)) }
  | .PQWS1, s =>
    { c with mPositionFailure := setIteminReport c.mPositionFailure (.at s (now 0)) }

/-- No list shows it. -/
def AbsorbsRecord : ∀ sentence : DebugSentence, sentence.Record → Prop
  | .PQWM1, s =>
    Absorbs c.mTimeAndClock (.at s.timeAndClock (now 0)) ∧
      Absorbs c.mXoState (.at s.xoState (now 1)) ∧
      Absorbs c.mRfAndParams (.at s.rfAndParams (now 2)) ∧
      Absorbs c.mErrRecovery (.at s.errRecovery (now 3))
  | .PQWP1, s => Absorbs c.mInjectedPosition (.at s (now 0))
  | .PQWP2, s => Absorbs c.mBestPosition (.at s (now 0))
  | .PQWP3, s => Absorbs c.mXtra (.at s (now 0))
  | .PQWP4, s => Absorbs c.mEphemeris (.at s (now 0))
  | .PQWP5, s => Absorbs c.mSvHealth (.at s (now 0))
  | .PQWP6, s => Absorbs c.mPdr (.at s (now 0))
  | .PQWP7, s => Absorbs c.mNavData (.at s (now 0))
  | .PQWS1, s => Absorbs c.mPositionFailure (.at s (now 0))

theorem setReports_eq_self_iff {sentence : DebugSentence} {s : sentence.Record} :
    c.setReports now sentence s = c ↔ c.AbsorbsRecord now sentence s := by
  cases sentence <;>
    simp only [setReports, AbsorbsRecord, ← setIteminReport_eq_self_iff, Cache.ext_iff, and_true,
      true_and]

end Cache

/-! ## setNmeaString -/

section Sentences

variable (C : CLib) (memory : Memory) (c : Cache) (now : ℕ → Timespec) (data : List Char)

/-- The record that is offered for a sentence. -/
def offered (len : ℕ) (sentence : DebugSentence) : sentence.Record :=
  -- buf, by strlcpy
  sentence.parse C (mField (data.take DEBUG_NMEA_MAXSIZE) len) memory

def setNmeaString (len : ℕ) : Bool × Cache :=
  if loc_nmea_is_debug data len then
    match DebugSentence.of data with
    | some sentence =>
      (true, c.setReports now sentence (offered C memory data len sentence))
    | none => (true, c)
  else (false, c)

/-- The checksum mark and the fields are there. -/
def Complete (sentence : DebugSentence) : Prop :=
  '*' ∈ data ∧ sentence.required ≤ (fields data).length
  deriving Decidable

/-- Each member has the value of its own field, where there is one. -/
def Says (sentence : DebugSentence) (s : sentence.Record) : Prop :=
  ∀ m ∈ sentence.members C, ∀ field, (fields data)[m.idx]? = some field → m.Says s field

/-- What is asked of a sentence. -/
def Right : Prop :=
  match DebugSentence.of data with
  | none => (setNmeaString C memory c now data data.length).2 = c
  | some sentence =>
    if Complete data sentence then
      ∃ s, (setNmeaString C memory c now data data.length).2 = c.setReports now sentence s ∧
        s = offered C memory data data.length sentence ∧ Says C data sentence s
    else (setNmeaString C memory c now data data.length).2 = c

/-- How many fields are counted: those of the sentence, and what commas end
behind the mark. -/
def counted : ℕ := (fields data).length + (behindMark data).count ','

/-- The condition on a sentence. -/
def Fits : Prop :=
  match DebugSentence.of data with
  | none => True
  | some sentence =>
    if Complete data sentence then
      ∀ m ∈ sentence.members C, ∀ field, (fields data)[m.idx]? = some field →
        if m.behind < counted data then m.Fits field else m.IsUnset field
    else c.AbsorbsRecord now sentence (offered C memory data data.length sentence)

variable {C memory c now data} {sentence : DebugSentence}

theorem setNmeaString_eq (h : loc_nmea_is_debug data data.length = true)
    (hof : DebugSentence.of data = some sentence) :
    (setNmeaString C memory c now data data.length).2 =
      c.setReports now sentence (offered C memory data data.length sentence) := by
  unfold setNmeaString
  rw [if_pos h, hof]

theorem offered_eq (h : loc_nmea_is_debug data data.length = true) (sentence : DebugSentence) :
    offered C memory data data.length sentence =
      sentence.parse C (mField data data.length) memory := by
  unfold offered
  rw [take_of_length_le (of_decide_eq_true h).2.1]

theorem exact_parse {mField : List (List Char)} (h : sentence.required ≤ mField.length) :
    ∀ m ∈ sentence.members C, m.Exact mField (sentence.parse C mField memory) := by
  cases sentence with
  | PQWM1 => exact exact_PQWM1 h
  | PQWP1 => exact exact_PQWP1 h
  | PQWP2 => exact exact_PQWP2 h
  | PQWP3 => exact exact_PQWP3 h
  | PQWP4 => exact exact_PQWP4 h
  | PQWP5 => exact exact_PQWP5 h
  | PQWP6 => exact exact_PQWP6 h
  | PQWP7 => exact exact_PQWP7 h
  | PQWS1 => exact exact_PQWS1 h

section

variable (h : loc_nmea_is_debug data data.length = true)
include h

theorem length_mField (hmark : '*' ∈ data) : (mField data data.length).length = counted data := by
  rw [mField_eq h hmark, length_append, length_dropLast, length_splitOn]
  rfl

theorem fieldAt_mField (hmark : '*' ∈ data) {idx : ℕ} {field : List Char}
    (hfield : (fields data)[idx]? = some field) :
    fieldAt (mField data data.length) idx = field := by
  obtain ⟨hlt, -⟩ := List.getElem?_eq_some_iff.mp hfield
  unfold fieldAt
  rw [mField_eq h hmark, getD_eq_getElem?_getD, List.getElem?_append_left hlt, hfield]
  rfl

theorem says_offered_iff (hcomplete : Complete data sentence) :
    Says C data sentence (offered C memory data data.length sentence) ↔
      ∀ m ∈ sentence.members C, ∀ field, (fields data)[m.idx]? = some field →
        if m.behind < counted data then m.Fits field else m.IsUnset field := by
  obtain ⟨hmark, hrequired⟩ := hcomplete
  have hlength := length_mField h hmark
  have hle : sentence.required ≤ (mField data data.length).length := by
    rw [hlength]
    exact Nat.le_trans hrequired (Nat.le_add_right _ _)
  have hexact : ∀ m ∈ sentence.members C, m.Exact (mField data data.length)
      (sentence.parse C (mField data data.length) memory) := exact_parse hle
  unfold Says
  rw [offered_eq h]
  refine forall_congr' fun m => forall_congr' fun hm => forall_congr' fun field =>
    forall_congr' fun hfield => ?_
  have hm := hexact m hm
  obtain ⟨hread, hunread⟩ := hm
  rw [fieldAt_mField h hmark hfield, hlength] at hread hunread
  split
  · rename_i hbehind
    exact hread hbehind
  · rename_i hbehind
    exact hunread hbehind

end

/-- Complete sentences are offered with the values of their fields, and others
leave the cache as it is, for exactly the sentences that fit. -/
theorem setNmeaString_right_iff (C : CLib) (memory : Memory) (c : Cache) (now : ℕ → Timespec)
    (data : List Char) (h : loc_nmea_is_debug data data.length = true) :
    Right C memory c now data ↔ Fits C memory c now data := by
  unfold Right Fits
  cases hof : DebugSentence.of data with
  | none =>
    refine iff_of_true ?_ trivial
    dsimp only
    unfold setNmeaString
    rw [if_pos h, hof]
  | some sentence =>
    dsimp only
    rw [setNmeaString_eq h hof]
    split
    · rename_i hcomplete
      rw [← says_offered_iff h hcomplete]
      constructor
      · rintro ⟨_, -, rfl, hsays⟩
        exact hsays
      · intro hsays
        exact ⟨_, rfl, rfl, hsays⟩
    · exact c.setReports_eq_self_iff now

/-- Memory that was cleared. -/
def cleared : Memory
  | .PQWM1 => .zero
  | .PQWP1 => (⟨0, 0, 0, 0, 0, 0, 0⟩ : SystemStatusPQWP1)
  | .PQWP2 => (⟨0, 0, 0, 0, 0⟩ : SystemStatusPQWP2)
  | .PQWP3 => (⟨0, 0, 0, 0, 0, 0, 0, 0, 0, 0, 0, 0, 0⟩ : SystemStatusPQWP3)
  | .PQWP4 => (⟨0, 0, 0, 0, 0⟩ : SystemStatusPQWP4)
  | .PQWP5 => (⟨0, 0, 0, 0, 0, 0, 0, 0, 0, 0, 0, 0, 0, 0, 0, 0, 0, 0⟩ : SystemStatusPQWP5)
  | .PQWP6 => (⟨0⟩ : SystemStatusPQWP6)
  | .PQWP7 => (⟨fun _ => ⟨0, 0, 0⟩⟩ : SystemStatusPQWP7)
  | .PQWS1 => (⟨0, 0⟩ : SystemStatusPQWS1)

/-- A library with longs of 64 bits. -/
def lib64 : CLib := ⟨9223372036854775807, by decide, fun _ => 0⟩

def emptyCache : Cache := ⟨[], [], [], [], [], [], [], [], [], [], [], []⟩

/-- The start of 1970. -/
def epoch : ℕ → Timespec := fun _ => ⟨0, 0⟩

/-- A sentence with a fix. -/
def fixSentence : List Char := "$PQWP6,120000.0,1F*5A".toList

theorem fixSentence_right_iff : loc_nmea_is_debug fixSentence fixSentence.length = true ∧
      (Right lib64 cleared emptyCache epoch fixSentence ↔
        Fits lib64 cleared emptyCache epoch fixSentence) :=
  ⟨by decide, setNmeaString_right_iff lib64 cleared emptyCache epoch fixSentence (by decide)⟩

/-- One that ends before its mask. -/
def shortSentence : List Char := "$PQWP6,120000.0".toList

/-- It leaves a report, of what the memory held. -/
theorem not_right_shortSentence :
    ¬ ∀ (C : CLib) (memory : Memory) (c : Cache) (now : ℕ → Timespec) (data : List Char),
      loc_nmea_is_debug data data.length = true → Right C memory c now data := by
  intro hall
  have hdebug : loc_nmea_is_debug shortSentence shortSentence.length = true := by decide
  have hright := hall lib64 cleared emptyCache epoch shortSentence hdebug
  have hof : DebugSentence.of shortSentence = some .PQWP6 := rfl
  have hnot : ¬ Complete shortSentence .PQWP6 := by decide
  unfold Right at hright
  rw [hof] at hright
  dsimp only at hright
  rw [if_neg hnot, setNmeaString_eq hdebug hof] at hright
  cases congrArg Cache.mPdr hright

end Sentences

end DebugNmea

end LocStack.Core
