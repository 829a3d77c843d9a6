/-
# `LocStack.LocApi.AdrState` — whether a carrier phase goes on

Every measurement with a valid carrier phase other than zero is given a state.
It is to say whether the phase is to be taken for the first one of its signal
(RESET), or goes on from the epoch before in the same session, and then whether
cycles have slipped.  The measurements come message by message, and the epochs
are those of the record that the messages are put together in:

    a message opens an epoch      mCounter is one more
    a measurement is taken in     the vector is read and written
    the record is handed over     the vector is pruned

What is remembered outlives its session, so the first epoch of the next one
goes on from the last of this; and a signal that comes twice in an epoch, or
behind the end of it, is not found any more where it was.

`adrState_right_iff`: the states are right, and the vector holds what it is to,
in every run whose measurements are all in order.
-/
import LocStack.LocApi.AdrData

namespace LocStack.LocApi

open Base

def QMI_LOC_MASK_MEAS_STATUS_LP_VALID : UInt64 := 0x40

structure SvPhase extends QmiLocSVMeasurement where
  validMask : UInt16
  carrierPhase : Rat
  cycleSlipCount : UInt8
  deriving DecidableEq

namespace SvPhase

variable (sv : SvPhase)

def tracked : Bool :=
  sv.validMask &&& QMI_LOC_SV_CARRIER_PHASE_VALID != 0 && sv.carrierPhase != 0

def lockPoint : Bool :=
  sv.measurementStatus &&& sv.validMeasStatusMask &&& QMI_LOC_MASK_MEAS_STATUS_LP_VALID != 0

end SvPhase

/-- The message, with what is read for the carrier phases. -/
structure SvPhaseInfo where
  (seqNum maxMessageNum : UInt8)
  subSeq : Option UInt8 × Option UInt8
  system : QmiLocSvSystem
  systemTimeExt_valid : Bool
  refFCount : UInt32
  nHzMeasurement : Option UInt8
  gnssSignalType : Option UInt64
  (svMeasurement extSvMeasurement : Option (List SvPhase))

namespace SvPhaseInfo

variable (report : SvPhaseInfo)

def toSvMeasInfo : SvMeasInfo where
  seqNum := report.seqNum
  maxMessageNum := report.maxMessageNum
  subSeq := report.subSeq
  system := report.system
  systemTimeExt_valid := report.systemTimeExt_valid
  refFCount := report.refFCount
  nHzMeasurement := report.nHzMeasurement
  svMeasurement := report.svMeasurement.map (·.map SvPhase.toQmiLocSVMeasurement)
  extSvMeasurement := report.extSvMeasurement.map (·.map SvPhase.toQmiLocSVMeasurement)

def signalOf (sv : SvPhase) : Signal :=
  ⟨report.system, report.gnssSignalType.getD 0, sv.gnssSvId⟩

end SvPhaseInfo

/-- A measurement in the record, with what there was before it. -/
structure Measured where
  sv : SvPhase
  phase : CarrierPhase
  epochs : PhaseEpochs
  adrStateMask : UInt16
  deriving DecidableEq

inductive AdrOutput where
  | measured (m : Measured)
  /-- the record is handed over: the vector then, and the epoch -/
  | reported (mADRdata : List AdrData) (epoch : List CarrierPhase)
  deriving DecidableEq

/-! ## The machine -/

structure PhaseAssembly where
  assembly : Assembly
  history : AdrHistory
  epochs : PhaseEpochs

namespace PhaseAssembly

def init : PhaseAssembly := ⟨.init, ⟨0, 1000, []⟩, .init⟩

variable (s : PhaseAssembly) (report : SvPhaseInfo)

def phaseOf (sv : SvPhase) : CarrierPhase :=
  ⟨report.signalOf sv, s.assembly.session, sv.validMask, sv.cycleSlipCount⟩

def convertGnssMeasurements (sv : SvPhase) : PhaseAssembly × List AdrOutput :=
  let phase := s.phaseOf report sv
  if sv.tracked then
    let mask := s.history.adrStateMask phase sv.lockPoint
    ({ s with history := s.history.update phase, epochs := s.epochs.add phase },
      [.measured ⟨sv, phase, s.epochs, mask⟩])
  else
    let mask := GNSS_MEASUREMENTS_ACCUMULATED_DELTA_RANGE_STATE_UNKNOWN
    (s, [.measured ⟨sv, phase, s.epochs, mask⟩])

/-- The loop over one of the two arrays, as long as there is room. -/
def collect (report : SvPhaseInfo) : Nat → PhaseAssembly → List SvPhase →
    PhaseAssembly × List AdrOutput
  | _, s, [] => (s, [])
  | count, s, sv :: svs =>
    if count < GNSS_MEASUREMENTS_MAX then
      if sv.fresh then
        let r := s.convertGnssMeasurements report sv
        let q := collect report (count + 1) r.1 svs
        (q.1, r.2 ++ q.2)
      else collect report count s svs
    else (s, [])

def collectAll (buf : GnssMeasurements) : PhaseAssembly × List AdrOutput :=
  match report.svMeasurement with
  | none => (s, [])
  | some svs =>
    if svs.length ≠ 0 ∧ svs.length ≤ QMI_LOC_SV_MEAS_LIST_MAX_SIZE then
      let r := collect report buf.count s svs
      let buf := buf.collect report.system (svs.map SvPhase.toQmiLocSVMeasurement)
      match report.extSvMeasurement with
      | none => r
      | some ext =>
        if ext.length ≠ 0 ∧ ext.length ≤ QMI_LOC_EXT_SV_MEAS_LIST_MAX_SIZE then
          let q := collect report buf.count r.1 ext
          (q.1, r.2 ++ q.2)
        else r
    else (s, [])

def takeIn : PhaseAssembly × List AdrOutput :=
  let s' := { s with assembly := s.assembly.takeIn report.toSvMeasInfo }
  match s.assembly.mGnssMeasurements with
  | none => (s', [])
  | some buf => s'.collectAll report buf

def reportSvMeasurementInternal : PhaseAssembly × List AdrOutput :=
  match s.assembly.mGnssMeasurements with
  | none => (s, [])
  | some _ =>
    ({ s with history := s.history.prune, epochs := s.epochs.handOver },
      [.reported s.history.prune.mADRdata s.epochs.now])

def openEpoch : PhaseAssembly × List AdrOutput :=
  if s.assembly.opens report.toSvMeasInfo then
    let r := if s.assembly.newMeasProcessed then s.reportSvMeasurementInternal else (s, [])
    ({ assembly := (s.assembly.openEpoch report.toSvMeasInfo).1
       history := r.1.history.beginEpoch
       epochs := r.1.epochs.beginEpoch }, r.2)
  else (s, [])

def closeEpoch : PhaseAssembly × List AdrOutput :=
  if report.toSvMeasInfo.closes then
    let r := s.reportSvMeasurementInternal
    ({ r.1 with assembly := (s.assembly.closeEpoch report.toSvMeasInfo).1 }, r.2)
  else (s, [])

def reportGnssMeasurementData : PhaseAssembly × List AdrOutput :=
  let s := { s with assembly := s.assembly.allocate }
  if report.toSvMeasInfo.wellNumbered then
    let r := s.openEpoch report
    let s := { r.1 with assembly := r.1.assembly.note report.toSvMeasInfo }
    if report.toSvMeasInfo.known then
      let q := s.takeIn report
      let c := q.1.closeEpoch report
      (c.1, r.2 ++ (q.2 ++ c.2))
    else (s, r.2)
  else (s, [])

end PhaseAssembly

inductive AdrEvent where
  /-- with the interval, unless the operation mode could not be set -/
  | startFix (minInterval : Option UInt32)
  | startTimeBasedTracking (minInterval : UInt32)
  | stopFix
  | stopTimeBasedTracking (sent : Bool)
  | gnssMeasurementReport (report : SvPhaseInfo)

namespace AdrEvent

def toMeasEvent : AdrEvent → MeasEvent
  | startFix _ => .startFix
  | startTimeBasedTracking _ => .startTimeBasedTracking
  | stopFix => .stopFix
  | stopTimeBasedTracking sent => .stopTimeBasedTracking sent
  | gnssMeasurementReport report => .gnssMeasurementReport report.toSvMeasInfo

/-- The interval that the event sets. -/
def minInterval : AdrEvent → Option UInt32
  | startFix minInterval => minInterval
  | startTimeBasedTracking minInterval => some minInterval
  | stopFix | stopTimeBasedTracking _ | gnssMeasurementReport _ => none

def Prompt (e : AdrEvent) : Prop := ∀ minInterval ∈ e.minInterval, minInterval ≤ 1000

instance (e : AdrEvent) : Decidable e.Prompt :=
  decidable_of_iff (e.minInterval.all (· ≤ 1000) = true) (by
    simp only [Option.all_eq_true, decide_eq_true_iff, Prompt, Option.mem_def])

end AdrEvent

namespace PhaseAssembly

variable (s : PhaseAssembly)

def control (e : AdrEvent) : PhaseAssembly :=
  { s with
    assembly := (s.assembly.step e.toMeasEvent).1
    history := { s.history with mMinInterval := e.minInterval.getD s.history.mMinInterval } }

def step : AdrEvent → PhaseAssembly × List AdrOutput
  | .gnssMeasurementReport report =>
    if s.assembly.mInSession then s.reportGnssMeasurementData report else (s, [])
  | e => (s.control e, [])

end PhaseAssembly

/-! ## What the states are to say -/

namespace AdrOutput

/-- The state of a carrier phase is right; the vector has no signal twice, and
those of the epoch. -/
def Right : AdrOutput → Prop
  | measured m => m.sv.tracked = true → AdrRight m.epochs m.phase m.adrStateMask
  | reported mADRdata epoch =>
    (mADRdata.map AdrData.signal).Nodup ∧
      ∀ signal, signal ∈ mADRdata.map AdrData.signal ↔ signal ∈ epoch.map CarrierPhase.signal

/-- What is asked of the measurements. -/
def InOrder : AdrOutput → Prop
  | measured m => m.sv.tracked = true → m.epochs.InOrder m.phase
  | reported .. => True

instance : ∀ o : AdrOutput, Decidable o.InOrder
  | measured m => inferInstanceAs (Decidable (m.sv.tracked = true → m.epochs.InOrder m.phase))
  | reported .. => .isTrue trivial

def Exact (o : AdrOutput) : Prop := o.Right ↔ o.InOrder

end AdrOutput

/-! ## One step -/

namespace PhaseAssembly

structure Sound (s : PhaseAssembly) : Prop where
  tracks : Tracks s.history s.epochs
  ordered : s.epochs.Ordered s.assembly.session
  interval : s.history.mMinInterval ≤ 1000

/-- What becomes of a sound state, with no more than `n` epochs since one was
handed over. -/
structure Outcome (n : Nat) (r : PhaseAssembly × List AdrOutput) : Prop where
  sound : r.1.Sound
  silent_le : r.1.epochs.silent ≤ n
  exact : ∀ o ∈ r.2, o.Exact

variable {s : PhaseAssembly} {r q : PhaseAssembly × List AdrOutput} {n : Nat}

theorem sound_init : init.Sound := ⟨.init 1000, PhaseEpochs.ordered_init 0, by decide⟩

theorem Outcome.none (h : s.Sound) (hn : s.epochs.silent ≤ n) : Outcome n (s, []) :=
  ⟨h, hn, List.forall_mem_nil _⟩

theorem Outcome.append (hr : Outcome n r) (hq : Outcome n q) : Outcome n (q.1, r.2 ++ q.2) where
  sound := hq.sound
  silent_le := hq.silent_le
  exact := List.forall_mem_append.mpr ⟨hr.exact, hq.exact⟩

theorem Sound.withAssembly (h : s.Sound) {a : Assembly} (ha : a.session = s.assembly.session) :
    Sound { s with assembly := a } :=
  ⟨h.tracks, ha ▸ h.ordered, h.interval⟩

theorem Outcome.withAssembly (h : Outcome n r) {a : Assembly}
    (ha : a.session = r.1.assembly.session) : Outcome n ({ r.1 with assembly := a }, r.2) :=
  ⟨h.sound.withAssembly ha, h.silent_le, h.exact⟩

section Message

variable (report : SvPhaseInfo)

section

variable (h : s.Sound) (hle : s.epochs.silent ≤ n) (hn : n < 2 ^ 32)
include h hle hn

theorem Sound.convert (sv : SvPhase) : Outcome n (s.convertGnssMeasurements report sv) := by
  simp only [convertGnssMeasurements]
  cases htracked : sv.tracked with
  | true =>
    have hvalid : (s.phaseOf report sv).Valid := by
      rw [SvPhase.tracked, Bool.and_eq_true, bne_iff_ne] at htracked
      exact htracked.1
    have hright := h.tracks.right_iff (p := s.phaseOf report sv) h.ordered h.interval
      (Nat.lt_of_le_of_lt hle hn) sv.lockPoint
    rw [if_pos rfl]
    refine ⟨⟨h.tracks.update hvalid, h.ordered.add, ?_⟩, hle, ?_⟩
    · rw [AdrHistory.update_eq]
      exact h.interval
    · refine List.forall_mem_singleton.mpr ?_
      exact ⟨fun hr _ => hright.mp (hr htracked), fun ho _ => hright.mpr (ho htracked)⟩
  | false =>
    rw [if_neg Bool.false_ne_true]
    refine ⟨h, hle, List.forall_mem_singleton.mpr ?_⟩
    have hno : ¬ sv.tracked = true := by rw [htracked]; exact Bool.false_ne_true
    exact ⟨fun _ ht => absurd ht hno, fun _ ht => absurd ht hno⟩

theorem Sound.collect (count : Nat) (svs : List SvPhase) :
    Outcome n (collect report count s svs) := by
  induction svs generalizing count s with
  | nil => exact .none h hle
  | cons sv svs ih =>
    rw [PhaseAssembly.collect]
    split
    · split
      · have hr := h.convert report hle hn sv
        exact hr.append (ih hr.sound hr.silent_le (count + 1))
      · exact ih h hle count
    · exact .none h hle

theorem Sound.takeIn : Outcome n (s.takeIn report) := by
  have h' := h.withAssembly (a := s.assembly.takeIn report.toSvMeasInfo) rfl
  simp only [PhaseAssembly.takeIn]
  split
  · exact .none h' hle
  · next buf _ =>
      simp only [collectAll]
      split
      · exact .none h' hle
      · next svs _ =>
          have hr := h'.collect report hle hn buf.count svs
          split
          · split
            · exact hr
            · next ext _ =>
                split
                · exact hr.append (hr.sound.collect report hr.silent_le hn _ ext)
                · exact hr
          · exact .none h' hle

theorem Sound.reportInternal : Outcome n s.reportSvMeasurementInternal := by
  have hquiet := Nat.lt_of_le_of_lt hle hn
  rw [reportSvMeasurementInternal]
  split
  · exact .none h hle
  · have hpruned := h.tracks.prune hquiet
    refine ⟨⟨hpruned, h.ordered.handOver, h.interval⟩, Nat.zero_le n, ?_⟩
    refine List.forall_mem_singleton.mpr ⟨fun _ => trivial, fun _ => ⟨hpruned.nodup, ?_⟩⟩
    exact fun signal => h.tracks.mem_signals_prune hquiet signal

end

theorem Sound.openEpoch (h : s.Sound) (hn : s.epochs.silent + 1 < 2 ^ 32) :
    Outcome (s.epochs.silent + 1) (s.openEpoch report) := by
  rw [PhaseAssembly.openEpoch]
  split
  · have hr : Outcome s.epochs.silent
        (if s.assembly.newMeasProcessed then s.reportSvMeasurementInternal else (s, [])) := by
      split
      · exact h.reportInternal (Nat.le_refl _) (Nat.lt_of_succ_lt hn)
      · exact .none h (Nat.le_refl _)
    have hsession : (if s.assembly.newMeasProcessed then s.reportSvMeasurementInternal
        else (s, [])).1.assembly = s.assembly := by
      split
      · rw [reportSvMeasurementInternal]
        split <;> rfl
      · rfl
    refine ⟨⟨hr.sound.tracks.beginEpoch, ?_, hr.sound.interval⟩,
      Nat.succ_le_succ hr.silent_le, hr.exact⟩
    have hordered := hr.sound.ordered.beginEpoch
    rw [hsession] at hordered
    show PhaseEpochs.Ordered _ (s.assembly.openEpoch _).1.session
    rw [Assembly.session_openEpoch]
    exact hordered
  · exact .none h (Nat.le_succ _)

theorem Sound.closeEpoch (h : s.Sound) (hle : s.epochs.silent ≤ n) (hn : n < 2 ^ 32) :
    Outcome n (s.closeEpoch report) := by
  rw [PhaseAssembly.closeEpoch]
  split
  · refine (h.reportInternal hle hn).withAssembly ?_
    rw [Assembly.session_closeEpoch, reportSvMeasurementInternal]
    split <;> rfl
  · exact .none h hle

theorem Sound.reportMeasurementData (h : s.Sound) (hn : s.epochs.silent + 1 < 2 ^ 32) :
    Outcome (s.epochs.silent + 1) (s.reportGnssMeasurementData report) := by
  have h' := h.withAssembly s.assembly.session_allocate
  simp only [reportGnssMeasurementData]
  split
  · have hopen := h'.openEpoch report hn
    have hnote := hopen.withAssembly
      (a := (PhaseAssembly.openEpoch _ report).1.assembly.note report.toSvMeasInfo) rfl
    split
    · have htake := hnote.sound.takeIn report hnote.silent_le hn
      exact hnote.append (htake.append (htake.sound.closeEpoch report htake.silent_le hn))
    · exact hnote
  · exact .none h' (Nat.le_succ _)

end Message

theorem Sound.control (h : s.Sound) {e : AdrEvent} (he : ∀ r, e ≠ .gnssMeasurementReport r)
    (hprompt : e.Prompt) : (s.control e).Sound where
  tracks := ⟨h.tracks.nodup, h.tracks.valid, h.tracks.of_now, h.tracks.of_before, h.tracks.older⟩
  ordered := by
    refine h.ordered.mono (s.assembly.session_le_step e.toMeasEvent fun r hr => ?_)
    cases e with
    | gnssMeasurementReport report => exact he report rfl
    | _ => cases hr
  interval := by
    show e.minInterval.getD s.history.mMinInterval ≤ 1000
    cases hinterval : e.minInterval with
    | none => exact h.interval
    | some minInterval => exact hprompt minInterval hinterval

theorem Sound.step (h : s.Sound) {e : AdrEvent} (hprompt : e.Prompt)
    (hn : s.epochs.silent + 1 < 2 ^ 32) : Outcome (s.epochs.silent + 1) (s.step e) := by
  have hcontrol := fun he => Outcome.none (h.control (e := e) he hprompt) (Nat.le_succ _)
  cases e with
  | gnssMeasurementReport report =>
    simp only [PhaseAssembly.step]
    split
    · exact h.reportMeasurementData report hn
    · exact .none h (Nat.le_succ _)
  | startFix | startTimeBasedTracking | stopFix | stopTimeBasedTracking => exact hcontrol (by simp)

end PhaseAssembly

/-! ## Whole runs -/

section Runs

open PhaseAssembly

variable {es : List AdrEvent}

/-- The states are right if and only if the measurements are in order, unless
the counter comes round. -/
theorem adrState_right_iff (hprompt : ∀ e ∈ es, e.Prompt)
    (hquiet : StepsMeet step (fun s _ => s.epochs.silent + 1 < 2 ^ 32) init es) :
    (StatesMeet step (fun s => (s.history.mADRdata.map AdrData.signal).Nodup) init es ∧
        ∀ o ∈ outs step init es, o.Right) ↔
      ∀ o ∈ outs step init es, o.InOrder := by
  have hsteps : StepsMeet step (fun s e => e.Prompt ∧ s.epochs.silent + 1 < 2 ^ 32) init es :=
    (stepsMeet_of_forall hprompt init).and hquiet
  have hkeep : ∀ s e, Sound s → e.Prompt ∧ s.epochs.silent + 1 < 2 ^ 32 → Sound (step s e).1 :=
    fun s e h hok => (h.step hok.1 hok.2).sound
  have hexact : ∀ o ∈ outs step init es, o.Exact :=
    forall_outs_of_stepsMeet hkeep (fun s e h hok => (h.step hok.1 hok.2).exact) sound_init hsteps
  constructor
  · rintro ⟨-, hright⟩ o ho
    exact (hexact o ho).mp (hright o ho)
  · intro horder
    have hsound := statesMeet_of_stepsMeet hkeep sound_init hsteps
    exact ⟨hsound.mono fun s h => h.tracks.nodup, fun o ho => (hexact o ho).mpr (horder o ho)⟩

/-- A GPS measurement with a carrier phase. -/
def svOfOne : SvPhase where
  gnssSvId := 5
  validMeasStatusMask := QMI_LOC_MASK_MEAS_STATUS_GNSS_FRESH_MEAS_STAT_BIT_VALID
  measurementStatus := QMI_LOC_MASK_MEAS_STATUS_GNSS_FRESH_MEAS_VALID
  validMask := QMI_LOC_SV_CARRIER_PHASE_VALID
  carrierPhase := 1
  cycleSlipCount := 0

/-- An epoch that has no other. -/
def epochOfOne (refFCount : UInt32) : AdrEvent :=
  .gnssMeasurementReport
    { seqNum := 1
      maxMessageNum := 1
      subSeq := (none, none)
      system := .eQMI_LOC_SV_SYSTEM_GPS_V02
      systemTimeExt_valid := true
      refFCount := refFCount
      nHzMeasurement := none
      gnssSignalType := some 1
      svMeasurement := some [svOfOne]
      extSvMeasurement := none }

def phaseOfOne (session : Nat) : CarrierPhase :=
  ⟨⟨.eQMI_LOC_SV_SYSTEM_GPS_V02, 1, 5⟩, session, QMI_LOC_SV_CARRIER_PHASE_VALID, 0⟩

theorem oneSession_right :
    StatesMeet step (fun s => (s.history.mADRdata.map AdrData.signal).Nodup) init
        [.startTimeBasedTracking 1000, epochOfOne 1, epochOfOne 2] ∧
      ∀ o ∈ outs step init [.startTimeBasedTracking 1000, epochOfOne 1, epochOfOne 2], o.Right :=
  (adrState_right_iff (by decide) (by decide +kernel)).mpr (by decide +kernel)

/-- The first epoch of a session goes on from the last of the one before. -/
def nextSession : List AdrEvent :=
  [.startTimeBasedTracking 1000, epochOfOne 1, .stopTimeBasedTracking true,
    .startTimeBasedTracking 1000, epochOfOne 2]

theorem not_right_nextSession : (∀ e ∈ nextSession, e.Prompt) ∧
    ¬ (StatesMeet step (fun s => (s.history.mADRdata.map AdrData.signal).Nodup) init nextSession ∧
      ∀ o ∈ outs step init nextSession, o.Right) := by
  refine ⟨by decide, fun ⟨_, hright⟩ => ?_⟩
  have hmem : .measured ⟨svOfOne, phaseOfOne 2, ⟨[], [phaseOfOne 1], 1⟩,
      GNSS_MEASUREMENTS_ACCUMULATED_DELTA_RANGE_STATE_VALID_BIT⟩ ∈
        outs step init nextSession := by decide +kernel
  obtain ⟨q, hq⟩ := (hright _ hmem (by decide)).reset_iff.mp (by decide)
  have hnone : PhaseEpochs.preceding ⟨[], [phaseOfOne 1], 1⟩ (phaseOfOne 2) = none := by decide
  exact Option.some_ne_none q (hq.symm.trans hnone)

end Runs

end LocStack.LocApi
