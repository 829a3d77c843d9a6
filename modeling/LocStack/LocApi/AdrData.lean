/-
# `LocStack.LocApi.AdrData` — what is remembered of the carrier phases

Whether the carrier phase of a signal goes on from the epoch before is told
from mADRdata, a vector with one entry for each signal:

    the signal is measured    its entry is searched, read and written over
    an epoch begins           mCounter is one more
    an epoch is handed over   the entries of other epochs are thrown out

Beside it stands what it is to remember, the measurements of this epoch and of
the one before, the latest first (`PhaseEpochs`), and with it how many epochs
have begun since one was handed over: what is thrown out is remembered no
longer, and where many epochs have nothing to hand over the counters come
round.

`Tracks.right_iff`: the state that a measurement gets is right if and only if
its signal, where the epoch before has it, is in order: of this session exactly
if it comes here for the first time, before the epoch is handed over.
-/
import LocStack.Base.Entries
import LocStack.LocApi.Measurements
import Mathlib.Algebra.Group.Nat.Defs

namespace LocStack.LocApi

open Base List Option

def QMI_LOC_SV_CARRIER_PHASE_VALID : UInt16 := 0x10

def QMI_LOC_SV_CYCLESLIP_COUNT_VALID : UInt16 := 0x40

def GNSS_MEASUREMENTS_ACCUMULATED_DELTA_RANGE_STATE_UNKNOWN : UInt16 := 0

def GNSS_MEASUREMENTS_ACCUMULATED_DELTA_RANGE_STATE_VALID_BIT : UInt16 := 1

def GNSS_MEASUREMENTS_ACCUMULATED_DELTA_RANGE_STATE_RESET_BIT : UInt16 := 2

def GNSS_MEASUREMENTS_ACCUMULATED_DELTA_RANGE_STATE_CYCLE_SLIP_BIT : UInt16 := 4

def GNSS_MEASUREMENTS_ACCUMULATED_DELTA_RANGE_STATE_HALF_CYCLE_RESOLVED_BIT : UInt16 := 8

/-- A signal type that is not valid is 0. -/
structure Signal where
  system : QmiLocSvSystem
  gnssSignalType : UInt64
  gnssSvId : UInt16
  deriving DecidableEq

structure AdrData where
  counter : UInt32
  system : QmiLocSvSystem
  gnssSignalType : UInt64
  (gnssSvId validMask : UInt16)
  cycleSlipCount : UInt8
  deriving DecidableEq

def AdrData.signal (e : AdrData) : Signal := ⟨e.system, e.gnssSignalType, e.gnssSvId⟩

/-- A measurement with a carrier phase, and the session it comes in. -/
structure CarrierPhase where
  signal : Signal
  session : Nat
  validMask : UInt16
  cycleSlipCount : UInt8
  deriving DecidableEq

namespace CarrierPhase

variable (p q : CarrierPhase)

def entry (counter : UInt32) : AdrData :=
  ⟨counter, p.signal.system, p.signal.gnssSignalType, p.signal.gnssSvId, p.validMask,
    p.cycleSlipCount⟩

def Valid : Prop := p.validMask &&& QMI_LOC_SV_CARRIER_PHASE_VALID ≠ 0

/-- Both cycle slip counts are valid, and they differ. -/
def Slipped : Prop :=
  q.validMask &&& QMI_LOC_SV_CYCLESLIP_COUNT_VALID ≠ 0 ∧
    p.validMask &&& QMI_LOC_SV_CYCLESLIP_COUNT_VALID ≠ 0 ∧ q.cycleSlipCount ≠ p.cycleSlipCount
  deriving Decidable

end CarrierPhase

/-! ## The vector -/

structure AdrHistory where
  (mCounter mMinInterval : UInt32)
  mADRdata : List AdrData

namespace AdrHistory

variable (s : AdrHistory) (p : CarrierPhase)

def found (signal : Signal) : Option AdrData := entryOf AdrData.signal signal s.mADRdata

/-- The entry is of the epoch before. -/
def isPrior (e : AdrData) : Bool :=
  e.validMask &&& QMI_LOC_SV_CARRIER_PHASE_VALID != 0 &&
    (s.mMinInterval ≤ 1000 && e.counter == s.mCounter - 1)

def cycleSlip (e : AdrData) : Bool :=
  (e.validMask &&& QMI_LOC_SV_CYCLESLIP_COUNT_VALID != 0 &&
      p.validMask &&& QMI_LOC_SV_CYCLESLIP_COUNT_VALID != 0) &&
    e.cycleSlipCount != p.cycleSlipCount

/-- The state of a measurement with a carrier phase; `lockPoint` is whether its
lock point is valid. -/
def adrStateMask (lockPoint : Bool) : UInt16 :=
  let mask := GNSS_MEASUREMENTS_ACCUMULATED_DELTA_RANGE_STATE_VALID_BIT
  let mask := mask ||| GNSS_MEASUREMENTS_ACCUMULATED_DELTA_RANGE_STATE_RESET_BIT
  let mask :=
    match s.found p.signal with
    | some e =>
      if s.isPrior e then
        let mask := mask &&& ~~~GNSS_MEASUREMENTS_ACCUMULATED_DELTA_RANGE_STATE_RESET_BIT
        if cycleSlip p e then
          mask ||| GNSS_MEASUREMENTS_ACCUMULATED_DELTA_RANGE_STATE_CYCLE_SLIP_BIT
        else mask
      else mask
    | none => mask
  if lockPoint then
    mask ||| GNSS_MEASUREMENTS_ACCUMULATED_DELTA_RANGE_STATE_HALF_CYCLE_RESOLVED_BIT
  else mask

/-- The entry that is found is written over; what is new goes to the end. -/
def update : AdrHistory :=
  let entry :=
    match s.found p.signal with
    | some e =>
      { e with
        counter := s.mCounter
        validMask := p.validMask
        cycleSlipCount := p.cycleSlipCount }
    | none => p.entry s.mCounter
  { s with mADRdata := put AdrData.signal entry s.mADRdata }

def beginEpoch : AdrHistory := { s with mCounter := s.mCounter + 1 }

/-- What is not of this epoch is thrown out. -/
def prune : AdrHistory :=
  { s with mADRdata := sweep (fun e => s.mCounter == e.counter) s.mADRdata }

theorem update_eq : s.update p =
    { s with mADRdata := put AdrData.signal (p.entry s.mCounter) s.mADRdata } := by
  rw [update]
  cases hfound : s.found p.signal with
  | none => rfl
  | some e =>
    have hsignal : e.signal = p.signal := key_of_entryOf hfound
    obtain ⟨hsystem, htype, hid⟩ := Signal.mk.inj hsignal
    simp only [hsystem, htype, hid, CarrierPhase.entry]

theorem found_update (signal : Signal) : (s.update p).found signal =
    if p.signal = signal then some (p.entry s.mCounter) else s.found signal := by
  rw [update_eq]
  exact entryOf_put signal (p.entry s.mCounter) s.mADRdata

end AdrHistory

/-! ## What it is to remember -/

/-- The measurements of this epoch and of the one before, the latest first, and
how many epochs have begun since one was handed over. -/
structure PhaseEpochs where
  (now before : List CarrierPhase)
  silent : Nat
  deriving DecidableEq

namespace PhaseEpochs

variable (g : PhaseEpochs) (p : CarrierPhase)

def init : PhaseEpochs := ⟨[], [], 0⟩

def beginEpoch : PhaseEpochs := ⟨[], g.now, g.silent + 1⟩

def add : PhaseEpochs := { g with now := p :: g.now }

def handOver : PhaseEpochs := { g with silent := 0 }

/-- The last that was measured of a signal in the epoch before, in the session
of `p`. -/
def preceding : Option CarrierPhase :=
  entryOf CarrierPhase.signal p.signal (g.before.filter (·.session = p.session))

/-- Where the epoch before has the signal: it is of this session exactly if it
comes in this epoch for the first time, and before that is handed over. -/
def InOrder : Prop :=
  ∀ q, entryOf CarrierPhase.signal p.signal g.before = some q →
    (q.session = p.session ↔ g.silent ≠ 0 ∧ p.signal ∉ g.now.map CarrierPhase.signal)

instance : Decidable (g.InOrder p) :=
  match h : entryOf CarrierPhase.signal p.signal g.before with
  | none => .isTrue fun _ hq => nomatch h.symm.trans hq
  | some q =>
    decidable_of_iff
      (q.session = p.session ↔ g.silent ≠ 0 ∧ p.signal ∉ g.now.map CarrierPhase.signal)
      ⟨fun hq _ hq' => some.inj (h.symm.trans hq') ▸ hq, fun hall => hall q h⟩

end PhaseEpochs

/-- What the state of a measurement is to say. -/
structure AdrRight (g : PhaseEpochs) (p : CarrierPhase) (mask : UInt16) : Prop where
  reset_iff : mask &&& GNSS_MEASUREMENTS_ACCUMULATED_DELTA_RANGE_STATE_RESET_BIT = 0 ↔
    ∃ q, g.preceding p = some q
  slip_iff : mask &&& GNSS_MEASUREMENTS_ACCUMULATED_DELTA_RANGE_STATE_CYCLE_SLIP_BIT ≠ 0 ↔
    ∃ q, g.preceding p = some q ∧ p.Slipped q

/-- The sessions follow each other. -/
structure PhaseEpochs.Ordered (g : PhaseEpochs) (session : Nat) : Prop where
  pairwise : (g.now ++ g.before).Pairwise fun p q => q.session ≤ p.session
  session_le : ∀ q ∈ g.now ++ g.before, q.session ≤ session

structure Tracks (s : AdrHistory) (g : PhaseEpochs) : Prop where
  nodup : (s.mADRdata.map AdrData.signal).Nodup
  valid : ∀ p ∈ g.now ++ g.before, p.Valid
  of_now : ∀ signal p, entryOf CarrierPhase.signal signal g.now = some p →
    s.found signal = some (p.entry s.mCounter)
  of_before : ∀ signal p, g.silent ≠ 0 → signal ∉ g.now.map CarrierPhase.signal →
    entryOf CarrierPhase.signal signal g.before = some p →
    s.found signal = some (p.entry (s.mCounter - 1))
  /-- what else is there is older -/
  older : ∀ signal e, signal ∉ g.now.map CarrierPhase.signal →
    (g.silent ≠ 0 → entryOf CarrierPhase.signal signal g.before = none) → s.found signal = some e →
    ∃ d, 2 ≤ d ∧ d ≤ g.silent ∧ e.counter + UInt32.ofNat d = s.mCounter

/-! ## The vector follows -/

namespace PhaseEpochs

variable {g : PhaseEpochs} {p q : CarrierPhase} {session session' : Nat}

theorem ordered_init (session : Nat) : init.Ordered session := ⟨.nil, forall_mem_nil _⟩

theorem Ordered.mono (h : g.Ordered session) (hle : session ≤ session') : g.Ordered session' :=
  ⟨h.pairwise, fun q hq => Nat.le_trans (h.session_le q hq) hle⟩

theorem Ordered.beginEpoch (h : g.Ordered session) : g.beginEpoch.Ordered session where
  pairwise := (pairwise_append.mp h.pairwise).1
  session_le := fun q hq => h.session_le q (mem_append_left _ hq)

theorem Ordered.add (h : g.Ordered p.session) : (g.add p).Ordered p.session where
  pairwise := pairwise_cons.mpr ⟨h.session_le, h.pairwise⟩
  session_le := by
    intro q hq
    rcases mem_cons.mp hq with rfl | hq
    · exact Nat.le_refl _
    · exact h.session_le q hq

theorem Ordered.handOver (h : g.Ordered session) : g.handOver.Ordered session :=
  ⟨h.pairwise, h.session_le⟩

end PhaseEpochs

namespace Tracks

variable {s : AdrHistory} {g : PhaseEpochs} {p q : CarrierPhase}

theorem init (mMinInterval : UInt32) : Tracks ⟨0, mMinInterval, []⟩ .init where
  nodup := .nil
  valid := forall_mem_nil _
  of_now := nofun
  of_before := nofun
  older := nofun

theorem beginEpoch (h : Tracks s g) : Tracks s.beginEpoch g.beginEpoch where
  nodup := h.nodup
  valid := fun p hp => h.valid p (mem_append_left _ hp)
  of_now := nofun
  of_before := by
    intro signal p _ _ hp
    rw [show s.beginEpoch.mCounter - 1 = s.mCounter from UInt32.add_sub_cancel s.mCounter 1]
    exact h.of_now signal p hp
  older := by
    intro signal e _ hbefore hfound
    have hnow : signal ∉ g.now.map CarrierPhase.signal :=
      entryOf_eq_none.mp (hbefore (Nat.succ_ne_zero g.silent))
    by_cases hone : g.silent ≠ 0 → entryOf CarrierPhase.signal signal g.before = none
    · obtain ⟨d, hd, hle, hsum⟩ := h.older signal e hnow hone hfound
      refine ⟨d + 1, by omega, Nat.succ_le_succ hle, ?_⟩
      rw [UInt32.ofNat_add, ← UInt32.add_assoc, hsum]
      rfl
    · obtain ⟨hsilent, hsome⟩ := Classical.not_imp.mp hone
      obtain ⟨q, hq⟩ := ne_none_iff_exists'.mp hsome
      have he := h.of_before signal q hsilent hnow hq
      obtain rfl := some.inj (hfound.symm.trans he)
      refine ⟨2, Nat.le_refl 2, by show 2 ≤ g.silent + 1; omega, ?_⟩
      show s.mCounter - 1 + 2 = s.mCounter + 1
      grind

theorem update (h : Tracks s g) (hp : p.Valid) : Tracks (s.update p) (g.add p) where
  nodup := by
    rw [AdrHistory.update_eq]
    exact nodup_put _ h.nodup
  valid := by
    intro q hq
    rcases mem_cons.mp hq with rfl | hq
    · exact hp
    · exact h.valid q hq
  of_now := by
    intro signal q hq
    rw [AdrHistory.found_update, AdrHistory.update_eq]
    by_cases hs : p.signal = signal
    · rw [PhaseEpochs.add, entryOf_cons_self hs] at hq
      rw [if_pos hs, some.inj hq]
    · rw [PhaseEpochs.add, entryOf_cons_of_ne hs] at hq
      rw [if_neg hs]
      exact h.of_now signal q hq
  of_before := by
    intro signal q hsilent hnow hq
    obtain ⟨hs, hnow⟩ := not_or.mp (mt mem_cons.mpr hnow)
    rw [AdrHistory.found_update, if_neg fun heq => hs heq.symm, AdrHistory.update_eq]
    exact h.of_before signal q hsilent hnow hq
  older := by
    intro signal e hnow hbefore hfound
    obtain ⟨hs, hnow⟩ := not_or.mp (mt mem_cons.mpr hnow)
    rw [AdrHistory.found_update, if_neg fun heq => hs heq.symm] at hfound
    rw [AdrHistory.update_eq]
    exact h.older signal e hnow hbefore hfound

/-- An entry that is as many epochs old as have begun without a report, at
most, has another counter, or the counter has come round. -/
theorem counter_ne {e : AdrData} {n d : Nat} (hle : d ≤ n) (hn : n < 2 ^ 32)
    (h : e.counter + UInt32.ofNat d = s.mCounter) (k : Nat) (hk : k < d) :
    e.counter ≠ s.mCounter - UInt32.ofNat k := by
  intro heq
  have hd : UInt32.ofNat d = UInt32.ofNat k := by
    rw [heq] at h
    grind
  have hmod := congrArg UInt32.toNat hd
  rw [UInt32.toNat_ofNat', UInt32.toNat_ofNat', Nat.mod_eq_of_lt (by omega),
    Nat.mod_eq_of_lt (by omega)] at hmod
  omega

variable (h : Tracks s g) (hquiet : g.silent < 2 ^ 32)
include h hquiet

theorem found_prune (signal : Signal) : s.prune.found signal =
      (entryOf CarrierPhase.signal signal g.now).map fun p => p.entry s.mCounter := by
  have hprune : s.prune.found signal = (s.found signal).filter fun e => s.mCounter == e.counter :=
    entryOf_sweep h.nodup _ signal
  rw [hprune]
  cases hnow : entryOf CarrierPhase.signal signal g.now with
  | some p =>
    rw [h.of_now signal p hnow]
    exact filter_some_pos (beq_self_eq_true s.mCounter)
  | none =>
    have hnow' := entryOf_eq_none.mp hnow
    refine filter_eq_none_iff.mpr fun e hfound hkeep => ?_
    have hcounter : e.counter = s.mCounter := (eq_of_beq hkeep).symm
    by_cases hone : g.silent ≠ 0 → entryOf CarrierPhase.signal signal g.before = none
    · obtain ⟨d, hd, hle, hsum⟩ := h.older signal e hnow' hone hfound
      refine counter_ne hle hquiet hsum 0 (by omega) ?_
      rw [hcounter]
      exact (UInt32.sub_zero _).symm
    · obtain ⟨hsilent, hsome⟩ := Classical.not_imp.mp hone
      obtain ⟨q, hq⟩ := ne_none_iff_exists'.mp hsome
      have he := h.of_before signal q hsilent hnow' hq
      obtain rfl := some.inj (hfound.symm.trans he)
      have hprior : s.mCounter - 1 = s.mCounter := hcounter
      grind

theorem prune : Tracks s.prune g.handOver where
  nodup := nodup_sweep _ h.nodup
  valid := h.valid
  of_now := by
    intro signal p hp
    rw [h.found_prune hquiet, show entryOf CarrierPhase.signal signal g.now = some p from hp]
    rfl
  of_before := fun _ _ hsilent => absurd rfl hsilent
  older := by
    intro signal e hnow _ hfound
    have hnone : entryOf CarrierPhase.signal signal g.now = none := entryOf_eq_none.mpr hnow
    rw [h.found_prune hquiet, hnone] at hfound
    cases hfound

theorem mem_signals_prune (signal : Signal) :
    signal ∈ s.prune.mADRdata.map AdrData.signal ↔ signal ∈ g.now.map CarrierPhase.signal := by
  rw [mem_keys_iff, mem_keys_iff]
  show (∃ e, s.prune.found signal = some e) ↔ _
  rw [h.found_prune hquiet]
  cases entryOf CarrierPhase.signal signal g.now with
  | none => exact ⟨nofun, nofun⟩
  | some p => exact ⟨fun _ => ⟨p, rfl⟩, fun _ => ⟨p.entry s.mCounter, rfl⟩⟩

end Tracks

/-! ## The state of a measurement -/

namespace AdrHistory

variable (s : AdrHistory) (p : CarrierPhase) (lockPoint : Bool)

theorem adrStateMask_reset_iff :
    s.adrStateMask p lockPoint &&& GNSS_MEASUREMENTS_ACCUMULATED_DELTA_RANGE_STATE_RESET_BIT = 0 ↔
      ∃ e, s.found p.signal = some e ∧ s.isPrior e = true := by
  simp only [adrStateMask]
  cases s.found p.signal with
  | none =>
    dsimp only
    exact ⟨fun h => absurd h (by cases lockPoint <;> decide), nofun⟩
  | some e =>
    simp only [some.injEq, exists_eq_left']
    cases s.isPrior e <;> cases cycleSlip p e <;> cases lockPoint <;> decide

theorem adrStateMask_slip_iff : s.adrStateMask p lockPoint &&&
        GNSS_MEASUREMENTS_ACCUMULATED_DELTA_RANGE_STATE_CYCLE_SLIP_BIT ≠ 0 ↔
      ∃ e, s.found p.signal = some e ∧ s.isPrior e = true ∧ cycleSlip p e = true := by
  simp only [adrStateMask]
  cases s.found p.signal with
  | none =>
    dsimp only
    exact ⟨fun h => absurd h (by cases lockPoint <;> decide), nofun⟩
  | some e =>
    simp only [some.injEq, exists_eq_left']
    cases s.isPrior e <;> cases cycleSlip p e <;> cases lockPoint <;> decide

end AdrHistory

theorem CarrierPhase.cycleSlip_iff (p q : CarrierPhase) (counter : UInt32) :
    AdrHistory.cycleSlip p (q.entry counter) = true ↔ p.Slipped q := by
  simp only [AdrHistory.cycleSlip, CarrierPhase.Slipped, CarrierPhase.entry, Bool.and_eq_true,
    bne_iff_ne, and_assoc]

namespace PhaseEpochs

variable {g : PhaseEpochs} {p q : CarrierPhase}

theorem Ordered.preceding_eq_some_iff (h : g.Ordered p.session) : g.preceding p = some q ↔
      entryOf CarrierPhase.signal p.signal g.before = some q ∧ q.session = p.session := by
  have hpair := (pairwise_append.mp h.pairwise).2.1
  have hle : ∀ q ∈ g.before, q.session ≤ p.session :=
    fun q hq => h.session_le q (mem_append_right _ hq)
  rw [preceding]
  revert hpair hle
  induction g.before with
  | nil => exact fun _ _ => ⟨nofun, nofun⟩
  | cons r before ih =>
    intro hpair hle
    obtain ⟨hr, hpair⟩ := pairwise_cons.mp hpair
    obtain ⟨hrle, hle⟩ := forall_mem_cons.mp hle
    by_cases hsession : r.session = p.session
    · rw [filter_cons_of_pos (by simpa using hsession)]
      by_cases hs : r.signal = p.signal
      · rw [entryOf_cons_self hs, entryOf_cons_self hs]
        refine ⟨?_, And.left⟩
        rintro ⟨⟩
        exact ⟨rfl, hsession⟩
      · rw [entryOf_cons_of_ne hs, entryOf_cons_of_ne hs]
        exact ih hpair hle
    · -- this one is of an earlier session, and so are all behind it
      have hnone : (r :: before).filter (·.session = p.session) = [] := by
        refine filter_eq_nil_iff.mpr fun q hq => ?_
        rw [decide_eq_true_iff]
        rcases mem_cons.mp hq with rfl | hq
        · exact hsession
        · have := hr q hq
          omega
      rw [hnone]
      refine ⟨nofun, fun ⟨hq, heq⟩ => ?_⟩
      have hmem := mem_of_entryOf hq
      rcases mem_cons.mp hmem with rfl | hmem
      · exact absurd heq hsession
      · have := hr q hmem
        omega

end PhaseEpochs

namespace Tracks

variable {s : AdrHistory} {g : PhaseEpochs} {p q : CarrierPhase} {e : AdrData}

theorem isPrior_iff (h : Tracks s g) (hinterval : s.mMinInterval ≤ 1000)
    (hquiet : g.silent < 2 ^ 32) (signal : Signal) :
    s.found signal = some e ∧ s.isPrior e = true ↔
      (g.silent ≠ 0 ∧ signal ∉ g.now.map CarrierPhase.signal) ∧
        ∃ q, entryOf CarrierPhase.signal signal g.before = some q ∧
          e = q.entry (s.mCounter - 1) := by
  simp only [AdrHistory.isPrior, Bool.and_eq_true, bne_iff_ne, decide_eq_true_iff, beq_iff_eq]
  constructor
  · rintro ⟨hfound, hvalid, -, hcounter⟩
    have hnow : signal ∉ g.now.map CarrierPhase.signal := by
      intro hmem
      obtain ⟨q, hq⟩ := mem_keys_iff.mp hmem
      obtain rfl := some.inj (hfound.symm.trans (h.of_now signal q hq))
      have hprior : s.mCounter = s.mCounter - 1 := hcounter
      grind
    by_cases hone : g.silent ≠ 0 → entryOf CarrierPhase.signal signal g.before = none
    · obtain ⟨d, hd, hle, hsum⟩ := h.older signal e hnow hone hfound
      exact absurd hcounter (counter_ne hle hquiet hsum 1 hd)
    · obtain ⟨hsilent, hsome⟩ := Classical.not_imp.mp hone
      obtain ⟨q, hq⟩ := ne_none_iff_exists'.mp hsome
      have he := h.of_before signal q hsilent hnow hq
      exact ⟨⟨hsilent, hnow⟩, q, hq, some.inj (hfound.symm.trans he)⟩
  · rintro ⟨⟨hsilent, hnow⟩, q, hq, rfl⟩
    have hvalid := h.valid q (mem_append_right _ (mem_of_entryOf hq))
    exact ⟨h.of_before signal q hsilent hnow hq, hvalid, hinterval, rfl⟩

theorem right_iff (h : Tracks s g) (hordered : g.Ordered p.session)
    (hinterval : s.mMinInterval ≤ 1000) (hquiet : g.silent < 2 ^ 32) (lockPoint : Bool) :
    AdrRight g p (s.adrStateMask p lockPoint) ↔ g.InOrder p := by
  have hprior := fun e => h.isPrior_iff (e := e) hinterval hquiet p.signal
  have hpreceding := fun q => hordered.preceding_eq_some_iff (q := q)
  constructor
  · rintro ⟨hreset, -⟩ q hq
    rw [AdrHistory.adrStateMask_reset_iff] at hreset
    constructor
    · intro hsession
      obtain ⟨e, he⟩ := hreset.mpr ⟨q, (hpreceding q).mpr ⟨hq, hsession⟩⟩
      exact ((hprior e).mp he).1
    · intro hfirst
      obtain ⟨q', hq'⟩ := hreset.mp ⟨_, (hprior _).mpr ⟨hfirst, q, hq, rfl⟩⟩
      obtain ⟨hq', hsession⟩ := (hpreceding q').mp hq'
      obtain rfl := some.inj (hq.symm.trans hq')
      exact hsession
  · intro horder
    constructor
    · rw [AdrHistory.adrStateMask_reset_iff]
      constructor
      · rintro ⟨e, he⟩
        obtain ⟨hfirst, q, hq, -⟩ := (hprior e).mp he
        exact ⟨q, (hpreceding q).mpr ⟨hq, (horder q hq).mpr hfirst⟩⟩
      · rintro ⟨q, hq⟩
        obtain ⟨hq, hsession⟩ := (hpreceding q).mp hq
        exact ⟨_, (hprior _).mpr ⟨(horder q hq).mp hsession, q, hq, rfl⟩⟩
    · rw [AdrHistory.adrStateMask_slip_iff]
      constructor
      · rintro ⟨e, hfound, he, hslip⟩
        obtain ⟨hfirst, q, hq, rfl⟩ := (hprior e).mp ⟨hfound, he⟩
        exact ⟨q, (hpreceding q).mpr ⟨hq, (horder q hq).mpr hfirst⟩, (p.cycleSlip_iff q _).mp hslip⟩
      · rintro ⟨q, hq, hslip⟩
        obtain ⟨hq, hsession⟩ := (hpreceding q).mp hq
        obtain ⟨hfound, he⟩ := (hprior _).mpr ⟨(horder q hq).mp hsession, q, hq, rfl⟩
        exact ⟨_, hfound, he, (p.cycleSlip_iff q _).mpr hslip⟩

end Tracks

end LocStack.LocApi
