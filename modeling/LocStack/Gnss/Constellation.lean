/-
# `LocStack.Gnss.Constellation` — the constellation control the modem has

The constellations that are enabled are kept in `mGnssSvTypeConfig` and told
to the modem by setConstellationControl, or by a reset where there are none:

    gnssSvTypeConfigUpdate   stores, then sends what is stored
    gnssResetSvTypeConfig    stores that nothing is enabled, and resets
    gnssUpdateSvConfig       sends what is stored, then stores
    handleEngineUpEvent      sends what is stored

The third has the two in the wrong order, so the modem is told of the
configuration before the last.  `control_iff`: the modem has the control of
the last command throughout a run if and only if every configuration that
`gnssUpdateSvConfig` brings enables what was enabled before, and none of a
size not expected takes the place of one that enables something.
-/
import LocStack.Gnss.SvConfig

namespace LocStack.Gnss

open Base

/-- The constellation control as it was last sent; before that the modem is
as after a reset. -/
inductive ConstellationControl where
  | reset
  | set (config : GnssSvTypeConfig)

/-- The control last sent, where `control` was before the calls. -/
def controlAfter (control : ConstellationControl) : List SvApiCall → ConstellationControl
  | [] => control
  | .setBlacklistSv _ :: calls => controlAfter control calls
  | .setConstellationControl config :: calls => controlAfter (.set config) calls
  | .resetConstellationControl :: calls => controlAfter .reset calls

theorem controlAfter_append (control : ConstellationControl) (calls more : List SvApiCall) :
    controlAfter control (calls ++ more) = controlAfter (controlAfter control calls) more := by
  induction calls generalizing control with
  | nil => rfl
  | cons call calls ih => cases call <;> exact ih _

namespace GnssSvTypeConfig

/-- The configuration is set, and enables something. -/
def Enables (types : GnssSvTypeConfig) : Prop :=
  types.size = sizeof ∧ types.enabledSvTypesMask ≠ 0

/-- `config` has the constellations of `types`.  Those that are blacklisted
may be left to the blacklist of SVs. -/
def SameTypes (types config : GnssSvTypeConfig) : Prop :=
  config.enabledSvTypesMask = types.enabledSvTypesMask ∧ (config.blacklistedSvTypesMask = 0 ∨
      config.blacklistedSvTypesMask = types.blacklistedSvTypesMask)

/-- `types` asks for this control. -/
def Describes (types : GnssSvTypeConfig) : ConstellationControl → Prop
  | .reset => ¬ types.Enables
  | .set config => types.Enables ∧ types.SameTypes config

end GnssSvTypeConfig

/-- What the command stores, if it takes effect. -/
def SvAdapter.commands (s : SvAdapter) : SvEvent → Option GnssSvTypeConfig
  | .gnssUpdateSvTypeConfigCommand config => if s.Ready then some config else none
  | .gnssResetSvTypeConfigCommand =>
    if s.Ready then some ⟨GnssSvTypeConfig.sizeof, 0, 0⟩ else none
  | .gnssUpdateSvConfig constellationEnablementConfig _ => some constellationEnablementConfig
  | _ => none

structure WatchedControl where
  adapter : SvAdapter
  control : ConstellationControl
  /-- The configuration of the last command. -/
  commanded : GnssSvTypeConfig

namespace WatchedControl

def new : WatchedControl := ⟨.new, .reset, ⟨0, 0, 0⟩⟩

def step (w : WatchedControl) (e : SvEvent) : WatchedControl × List SvApiCall :=
  (⟨(w.adapter.step e).1, controlAfter w.control (w.adapter.step e).2,
    (w.adapter.commands e).getD w.commanded⟩, (w.adapter.step e).2)

/-- The modem has the control of the last command, which is what is stored. -/
def Applied (w : WatchedControl) : Prop :=
  w.adapter.mGnssSvTypeConfig = w.commanded ∧ w.adapter.mGnssSvTypeConfig.Describes w.control

/-- The configuration that is sent with the old one in its place is the same
to the modem, and what is not sent is no news. -/
def Unchanged (w : WatchedControl) : SvEvent → Prop
  | .gnssUpdateSvTypeConfigCommand config =>
    w.adapter.Ready → config.size = GnssSvTypeConfig.sizeof ∨ ¬ w.adapter.mGnssSvTypeConfig.Enables
  | .gnssUpdateSvConfig types _ =>
    if types.size = GnssSvTypeConfig.sizeof then
      types.Enables ∧ types.SameTypes w.adapter.mGnssSvTypeConfig
    else types.size = 0 ∨ ¬ w.adapter.mGnssSvTypeConfig.Enables
  | _ => True

variable {w : WatchedControl}

theorem stored_step (h : w.adapter.mGnssSvTypeConfig = w.commanded) (e : SvEvent) :
    (w.step e).1.adapter.mGnssSvTypeConfig = (w.step e).1.commanded := by
  cases e with
  | gnssUpdateSvTypeConfigCommand config =>
    by_cases hready : w.adapter.Ready
    · simp [step, SvAdapter.step, SvAdapter.commands, hready]
    · simp [step, SvAdapter.step, SvAdapter.commands, hready, h]
  | gnssResetSvTypeConfigCommand =>
    by_cases hready : w.adapter.Ready
    · simp [step, SvAdapter.step, SvAdapter.commands, hready]
    · simp [step, SvAdapter.step, SvAdapter.commands, hready, h]
  | gnssUpdateConfigCommand blacklistedSvIds =>
    by_cases hready : w.adapter.Ready
    · simp [step, SvAdapter.step, SvAdapter.commands, hready, h]
    · simp [step, SvAdapter.step, SvAdapter.commands, hready, h]
  | gnssUpdateSvConfig types ids => rfl
  | setEngineCapabilities constellationEnablement => exact h
  | handleEngineUpEvent => exact h
  | gnssSvIdConfigUpdate blacklistedSvIds => exact h

variable {types config : GnssSvTypeConfig} {control : ConstellationControl} {s : SvAdapter}
  {sendReset : Bool}

theorem describes_iff_reset (hnone : ¬ types.Enables) :
    types.Describes control ↔ control = .reset := by
  cases control with
  | reset => exact ⟨fun _ => rfl, fun _ => hnone⟩
  | set config => exact ⟨fun h => absurd h.1 hnone, fun h => nomatch h⟩

theorem describes_unsent_iff (h : types.Describes control) (hnone : ¬ config.Enables) :
    config.Describes control ↔ ¬ types.Enables := by
  rw [describes_iff_reset hnone]
  constructor
  · rintro rfl
    exact h
  · intro htypes
    exact (describes_iff_reset htypes).mp h

theorem controlAfter_gnssSvTypeConfigUpdate :
    controlAfter control (s.gnssSvTypeConfigUpdate sendReset) =
      if s.mGnssSvTypeConfig.size = GnssSvTypeConfig.sizeof then
        if s.mGnssSvTypeConfig.enabledSvTypesMask ≠ 0 then
          .set ⟨GnssSvTypeConfig.sizeof, s.mGnssSvTypeConfig.enabledSvTypesMask, 0⟩
        else if sendReset = true then .reset
        else control
      else control := by
  simp only [SvAdapter.gnssSvTypeConfigUpdate]
  split_ifs <;> rfl

theorem describes_gnssSvTypeConfigUpdate
    (hsize : s.mGnssSvTypeConfig.size = GnssSvTypeConfig.sizeof)
    (hreset : sendReset = false → s.mGnssSvTypeConfig.enabledSvTypesMask = 0 → control = .reset) :
    s.mGnssSvTypeConfig.Describes
      (controlAfter control (s.gnssSvTypeConfigUpdate sendReset)) := by
  rw [controlAfter_gnssSvTypeConfigUpdate, if_pos hsize]
  by_cases henabled : s.mGnssSvTypeConfig.enabledSvTypesMask = 0
  · rw [if_neg (not_not.mpr henabled)]
    have hnone : ¬ s.mGnssSvTypeConfig.Enables := fun h => h.2 henabled
    refine (describes_iff_reset hnone).mpr ?_
    cases sendReset with
    | true => rfl
    | false => exact hreset rfl henabled
  · rw [if_pos henabled]
    exact ⟨⟨hsize, henabled⟩, rfl, Or.inl rfl⟩

theorem enabledRemoved_of_none (h : config.enabledSvTypesMask = 0) :
    s.enabledRemoved config = s.mGnssSvTypeConfig.enabledSvTypesMask := by
  unfold SvAdapter.enabledRemoved
  rw [h]
  simp

theorem describes_gnssUpdateSvTypeConfig_iff
    (h : w.adapter.mGnssSvTypeConfig.Describes w.control) (config : GnssSvTypeConfig) :
    config.Describes (controlAfter w.control
        ({ w.adapter with mGnssSvTypeConfig := config }.gnssSvTypeConfigUpdate
          (w.adapter.enabledRemoved config ≠ 0))) ↔
      config.size = GnssSvTypeConfig.sizeof ∨ ¬ w.adapter.mGnssSvTypeConfig.Enables := by
  by_cases hsize : config.size = GnssSvTypeConfig.sizeof
  · refine iff_of_true ?_ (Or.inl hsize)
    refine describes_gnssSvTypeConfigUpdate (s := { w.adapter with mGnssSvTypeConfig := config })
      hsize fun hreset henabled => ?_
    have hbefore : w.adapter.mGnssSvTypeConfig.enabledSvTypesMask = 0 := by
      rw [← enabledRemoved_of_none (s := w.adapter) henabled]
      simpa using hreset
    have hnone : ¬ w.adapter.mGnssSvTypeConfig.Enables := fun henables => henables.2 hbefore
    exact (describes_iff_reset hnone).mp h
  · rw [controlAfter_gnssSvTypeConfigUpdate, if_neg hsize, or_iff_right hsize]
    exact describes_unsent_iff h fun henables => hsize henables.1

theorem controlAfter_gnssUpdateSvConfig (types : GnssSvTypeConfig) (ids : GnssSvIdConfig) :
    controlAfter w.control (w.adapter.step (.gnssUpdateSvConfig types ids)).2 =
      if types.size = GnssSvTypeConfig.sizeof then .set w.adapter.mGnssSvTypeConfig
      else if types.size = 0 then .reset
      else w.control := by
  simp only [SvAdapter.step, controlAfter_append]
  by_cases hsize : types.size = GnssSvTypeConfig.sizeof
  · rw [if_pos hsize, if_pos hsize, controlAfter_append]
    rfl
  · rw [if_neg hsize, if_neg hsize]
    split <;> rfl

theorem describes_gnssUpdateSvConfig_iff
    (h : w.adapter.mGnssSvTypeConfig.Describes w.control) (types : GnssSvTypeConfig)
    (ids : GnssSvIdConfig) :
    types.Describes (controlAfter w.control (w.adapter.step (.gnssUpdateSvConfig types ids)).2) ↔
      w.Unchanged (.gnssUpdateSvConfig types ids) := by
  rw [controlAfter_gnssUpdateSvConfig]
  show _ ↔ if types.size = GnssSvTypeConfig.sizeof then _ else _
  by_cases hsize : types.size = GnssSvTypeConfig.sizeof
  · rw [if_pos hsize, if_pos hsize]
    exact Iff.rfl
  · have hnone : ¬ types.Enables := fun henables => hsize henables.1
    rw [if_neg hsize, if_neg hsize]
    by_cases hzero : types.size = 0
    · rw [if_pos hzero]
      exact iff_of_true hnone (Or.inl hzero)
    · rw [if_neg hzero, or_iff_right hzero]
      exact describes_unsent_iff h hnone

/-- A step keeps the modem's control right exactly if what it sends in place
of the new configuration is the same to the modem. -/
theorem Applied.step_iff (h : w.Applied) (e : SvEvent) : (w.step e).1.Applied ↔ w.Unchanged e := by
  refine (and_iff_right (stored_step h.1 e)).trans ?_
  cases e with
  | setEngineCapabilities constellationEnablement => exact iff_of_true h.2 trivial
  | gnssSvIdConfigUpdate blacklistedSvIds =>
    refine iff_of_true ?_ trivial
    simp only [step, SvAdapter.step]
    split <;> exact h.2
  | gnssUpdateConfigCommand blacklistedSvIds =>
    refine iff_of_true ?_ trivial
    simp only [step, SvAdapter.step]
    split <;> exact h.2
  | handleEngineUpEvent =>
    refine iff_of_true ?_ trivial
    show w.adapter.mGnssSvTypeConfig.Describes
      (controlAfter w.control (w.adapter.gnssSvTypeConfigUpdate false))
    by_cases hsize : w.adapter.mGnssSvTypeConfig.size = GnssSvTypeConfig.sizeof
    · refine describes_gnssSvTypeConfigUpdate hsize fun _ henabled => ?_
      exact (describes_iff_reset fun henables => henables.2 henabled).mp h.2
    · rw [controlAfter_gnssSvTypeConfigUpdate, if_neg hsize]
      exact h.2
  | gnssResetSvTypeConfigCommand =>
    refine iff_of_true ?_ trivial
    simp only [step, SvAdapter.step]
    split
    · exact fun henables => henables.2 rfl
    · exact h.2
  | gnssUpdateSvTypeConfigCommand config =>
    simp only [step, SvAdapter.step, Unchanged]
    split
    · rename_i hready
      simp only [hready, true_implies]
      exact describes_gnssUpdateSvTypeConfig_iff h.2 config
    · rename_i hready
      exact iff_of_true h.2 fun hr => absurd hr hready
  | gnssUpdateSvConfig types ids => exact describes_gnssUpdateSvConfig_iff h.2 types ids

/-- The constellation control last sent is that of the last command, in
every state of a run, if and only if no step of the run sends the
configuration before it in its place, or none where one was. -/
theorem control_iff (es : List SvEvent) :
    StatesMeet step Applied new es ↔ StepsMeet step Unchanged new es :=
  statesMeet_iff_stepsMeet (Q := fun _ => True) (fun _ _ _ => trivial)
    (fun _ e _ h => Applied.step_iff h e) trivial ⟨rfl, fun henables => henables.2 rfl⟩

/-- BeiDou is to be enabled, and the modem is told that nothing is. -/
theorem not_applied_gnssUpdateSvConfig :
    ¬ StatesMeet step Applied new [.gnssUpdateSvConfig ⟨24, 2#64, 0#64⟩ .zero] := by
  intro h
  have hmask : 0#64 = 2#64 := h.last.2.2.1
  exact absurd hmask (by decide)

end WatchedControl

end LocStack.Gnss
