/-
# `LocStack.Geofence.Settings` — what a modified geofence is in the modem

A geofence is added with a request that has a field for everything in its
options, and modified with one that has not:

                     add                     modify
    breach mask      both kinds              both kinds
    responsiveness   CUSTOM, in seconds      HIGH, MED or LOW
    dwell            time and kinds          not in the request

After a restart of the modem the geofence is added again, with the options it
was last modified to.  Of the settings it had the breach mask alone is always
the same (`modifyGeofence_settings`): the responsiveness never is, though in
three ranges the rate is, and the dwell settings are if they were not changed.
-/
import LocStack.Geofence.Model

namespace LocStack.Geofence

/-! ## The requests -/

def GEOFENCE_BREACH_ENTER_BIT : UInt32 := 0x1

def GEOFENCE_BREACH_EXIT_BIT : UInt32 := 0x2

def GEOFENCE_BREACH_DWELL_IN_BIT : UInt32 := 0x4

def GEOFENCE_BREACH_DWELL_OUT_BIT : UInt32 := 0x8

def QMI_LOC_GEOFENCE_BREACH_ENTERING_MASK : UInt8 := 0x01

def QMI_LOC_GEOFENCE_BREACH_LEAVING_MASK : UInt8 := 0x02

def QMI_LOC_GEOFENCE_DWELL_TYPE_INSIDE_MASK : UInt8 := 0x01

def QMI_LOC_GEOFENCE_DWELL_TYPE_OUTSIDE_MASK : UInt8 := 0x02

inductive QmiLocGeofenceResponsiveness where
  | eQMI_LOC_GEOFENCE_RESPONSIVENESS_LOW_V02 | eQMI_LOC_GEOFENCE_RESPONSIVENESS_MED_V02
  | eQMI_LOC_GEOFENCE_RESPONSIVENESS_HIGH_V02 | eQMI_LOC_GEOFENCE_RESPONSIVENESS_ULTRA_HIGH_V02
  | eQMI_LOC_GEOFENCE_RESPONSIVENESS_CUSTOM_V02

inductive QmiLocGeofenceConfidence where
  | eQMI_LOC_GEOFENCE_CONFIDENCE_LOW_V02 | eQMI_LOC_GEOFENCE_CONFIDENCE_MED_V02
  | eQMI_LOC_GEOFENCE_CONFIDENCE_HIGH_V02

inductive QmiLocGeofenceState where
  | eQMI_LOC_GEOFENCE_STATE_ACTIVE_V02 | eQMI_LOC_GEOFENCE_STATE_SUSPEND_V02

open QmiLocGeofenceResponsiveness

/-- A field that is not valid is `none`. -/
structure AddCircularGeofenceReq where
  transactionId : Nat
  circularGeofenceArgs : GeofenceInfo
  breachMask : UInt8
  includePosition : Bool
  responsiveness : Option QmiLocGeofenceResponsiveness
  confidence : Option QmiLocGeofenceConfidence
  (customResponsivenessValue dwellTime : Option UInt32)
  dwellTypeMask : Option UInt8

structure EditGeofenceReq where
  (geofenceId transactionId : Nat)
  geofenceState : Option QmiLocGeofenceState
  breachMask : Option UInt8
  responsiveness : Option QmiLocGeofenceResponsiveness

namespace GeofenceOption

variable (options : GeofenceOption)

/-- Two tests of `breachTypeMask`, each with its mask. -/
def mask (bit₁ bit₂ : UInt32) (mask₁ mask₂ : UInt8) : UInt8 :=
  let found := if options.breachTypeMask &&& bit₁ ≠ 0 then 0 ||| mask₁ else 0
  if options.breachTypeMask &&& bit₂ ≠ 0 then found ||| mask₂ else found

def breachMask : UInt8 :=
  options.mask GEOFENCE_BREACH_ENTER_BIT GEOFENCE_BREACH_EXIT_BIT
    QMI_LOC_GEOFENCE_BREACH_ENTERING_MASK QMI_LOC_GEOFENCE_BREACH_LEAVING_MASK

def dwellTypeMask : UInt8 :=
  options.mask GEOFENCE_BREACH_DWELL_IN_BIT GEOFENCE_BREACH_DWELL_OUT_BIT
    QMI_LOC_GEOFENCE_DWELL_TYPE_INSIDE_MASK QMI_LOC_GEOFENCE_DWELL_TYPE_OUTSIDE_MASK

def UINT16_MAX : UInt32 := 65535

def customResponsivenessValue : UInt32 :=
  if options.responsiveness < 1000 then 1 else min (options.responsiveness / 1000) UINT16_MAX

def GF_RESPONSIVENESS_THRESHOLD_MSEC_HIGH : UInt32 := 120000

def GF_RESPONSIVENESS_THRESHOLD_MSEC_MEDIUM : UInt32 := 900000

def qmiResponsiveness : QmiLocGeofenceResponsiveness :=
  if options.responsiveness ≤ GF_RESPONSIVENESS_THRESHOLD_MSEC_HIGH then
    eQMI_LOC_GEOFENCE_RESPONSIVENESS_HIGH_V02
  else if options.responsiveness ≤ GF_RESPONSIVENESS_THRESHOLD_MSEC_MEDIUM then
    eQMI_LOC_GEOFENCE_RESPONSIVENESS_MED_V02
  else eQMI_LOC_GEOFENCE_RESPONSIVENESS_LOW_V02

end GeofenceOption

/-- Of `addGeofence`. -/
def addReq (clientId : Nat) (options : GeofenceOption) (info : GeofenceInfo) :
    AddCircularGeofenceReq where
  transactionId := clientId
  circularGeofenceArgs := info
  breachMask := options.breachMask
  includePosition := true
  responsiveness := none
  confidence := some .eQMI_LOC_GEOFENCE_CONFIDENCE_HIGH_V02
  customResponsivenessValue := some options.customResponsivenessValue
  dwellTime := if options.dwellTime > 0 then some options.dwellTime else none
  dwellTypeMask := if options.dwellTime > 0 then some options.dwellTypeMask else none

/-- Of `modifyGeofence`. -/
def editReq (hwId clientId : Nat) (options : GeofenceOption) : EditGeofenceReq where
  geofenceId := hwId
  transactionId := clientId
  geofenceState := none
  breachMask := some options.breachMask
  responsiveness := some options.qmiResponsiveness

/-! ## The modem -/

structure GeofenceSettings where
  breachMask : UInt8
  responsiveness : QmiLocGeofenceResponsiveness
  (customResponsivenessValue dwellTime : Option UInt32)
  dwellTypeMask : Option UInt8

namespace GeofenceSettings

/-- Where no field has been set. -/
def unset : GeofenceSettings := ⟨0, eQMI_LOC_GEOFENCE_RESPONSIVENESS_MED_V02, none, none, none⟩

/-- With a custom value in the request the responsiveness is always CUSTOM. -/
def add (settings : GeofenceSettings) (req : AddCircularGeofenceReq) : GeofenceSettings where
  breachMask := req.breachMask
  responsiveness :=
    if req.customResponsivenessValue.isSome then eQMI_LOC_GEOFENCE_RESPONSIVENESS_CUSTOM_V02
    else req.responsiveness.getD settings.responsiveness
  customResponsivenessValue := req.customResponsivenessValue.or settings.customResponsivenessValue
  dwellTime := req.dwellTime.or settings.dwellTime
  dwellTypeMask := req.dwellTypeMask.or settings.dwellTypeMask

def edit (settings : GeofenceSettings) (req : EditGeofenceReq) : GeofenceSettings :=
  { settings with
    breachMask := req.breachMask.getD settings.breachMask
    responsiveness := req.responsiveness.getD settings.responsiveness }

/-- How often a breach is looked for, in seconds. -/
def rate (settings : GeofenceSettings) : Option UInt32 :=
  match settings.responsiveness with
  | eQMI_LOC_GEOFENCE_RESPONSIVENESS_LOW_V02 => some 900
  | eQMI_LOC_GEOFENCE_RESPONSIVENESS_MED_V02 => some 120
  | eQMI_LOC_GEOFENCE_RESPONSIVENESS_HIGH_V02 => some 10
  | eQMI_LOC_GEOFENCE_RESPONSIVENESS_ULTRA_HIGH_V02 => some 1
  | eQMI_LOC_GEOFENCE_RESPONSIVENESS_CUSTOM_V02 => settings.customResponsivenessValue

/-- The dwell settings. -/
def dwell (settings : GeofenceSettings) : Option UInt32 × Option UInt8 :=
  (settings.dwellTime, settings.dwellTypeMask)

end GeofenceSettings

namespace GeofenceObject

variable (object : GeofenceObject)

/-- The settings of a geofence that was added. -/
def added : GeofenceSettings :=
  GeofenceSettings.unset.add (addReq object.key.id object.options object.info)

/-- As `modifyGeofenceItem` stores it. -/
def modified (options : GeofenceOption) : GeofenceObject :=
  { object with
    breachMask := options.breachTypeMask
    responsiveness := options.responsiveness
    dwellTime := options.dwellTime }

end GeofenceObject

/-! ## What is kept -/

/-- The ranges in which both requests ask for the same rate. -/
def RateKept (responsiveness : UInt32) : Prop :=
  10000 ≤ responsiveness.toNat ∧ responsiveness.toNat < 11000 ∨
    120000 < responsiveness.toNat ∧ responsiveness.toNat < 121000 ∨
      900000 < responsiveness.toNat ∧ responsiveness.toNat < 901000

/-- No dwell time in either, or the same one for the same kinds. -/
def DwellKept (o₁ o₂ : GeofenceOption) : Prop :=
  o₁.dwellTime = o₂.dwellTime ∧ (0 < o₁.dwellTime → o₁.dwellTypeMask = o₂.dwellTypeMask)

section Kept

variable (object : GeofenceObject) (hwId clientId : Nat) (options : GeofenceOption)

theorem toNat_customResponsivenessValue : options.customResponsivenessValue.toNat =
      if options.responsiveness.toNat < 1000 then 1
      else min (options.responsiveness.toNat / 1000) 65535 := by
  have hdiv : (options.responsiveness / 1000).toNat = options.responsiveness.toNat / 1000 :=
    UInt32.toNat_div _ _
  have hmin : (min (options.responsiveness / 1000) GeofenceOption.UINT16_MAX).toNat =
      min (options.responsiveness.toNat / 1000) 65535 := by
    rw [← hdiv, Nat.min_def]
    exact apply_ite UInt32.toNat _ _ _
  rw [GeofenceOption.customResponsivenessValue, apply_ite UInt32.toNat, hmin]
  rfl

/-- The rate that an edit asks for. -/
def GeofenceOption.editedRate : UInt32 :=
  if options.responsiveness ≤ GF_RESPONSIVENESS_THRESHOLD_MSEC_HIGH then 10
  else if options.responsiveness ≤ GF_RESPONSIVENESS_THRESHOLD_MSEC_MEDIUM then 120
  else 900

theorem rate_edited : (object.added.edit (editReq hwId clientId options)).rate =
    some options.editedRate := by
  show GeofenceSettings.rate ⟨_, options.qmiResponsiveness, _, _, _⟩ = _
  rw [GeofenceOption.qmiResponsiveness, GeofenceOption.editedRate]
  split
  · rfl
  · split <;> rfl

theorem rate_added : object.added.rate = some object.options.customResponsivenessValue := rfl

theorem customResponsivenessValue_eq_iff :
    options.editedRate = options.customResponsivenessValue ↔ RateKept options.responsiveness := by
  rw [← UInt32.toNat_inj, toNat_customResponsivenessValue]
  have hrate : options.editedRate.toNat =
      if options.responsiveness.toNat ≤ 120000 then 10
      else if options.responsiveness.toNat ≤ 900000 then 120 else 900 := by
    rw [GeofenceOption.editedRate, apply_ite UInt32.toNat, apply_ite UInt32.toNat]
    rfl
  rw [hrate, RateKept]
  split <;> split <;> try split
  all_goals omega

theorem dwell_added : object.added.dwell =
    if 0 < object.dwellTime then (some object.dwellTime, some object.options.dwellTypeMask)
    else (none, none) := by
  show (Option.or (if 0 < object.dwellTime then _ else _) none,
    Option.or (if 0 < object.dwellTime then _ else _) none) = _
  split <;> rfl

theorem dwell_eq_iff (object' : GeofenceObject) :
    object.added.dwell = object'.added.dwell ↔ DwellKept object.options object'.options := by
  show _ ↔ object.dwellTime = object'.dwellTime ∧ (0 < object.dwellTime → _)
  rw [dwell_added, dwell_added]
  by_cases h : 0 < object.dwellTime <;> by_cases h' : 0 < object'.dwellTime
  · rw [if_pos h, if_pos h', Prod.mk.injEq, Option.some.injEq, Option.some.injEq, imp_iff_right h]
  · rw [if_pos h, if_neg h']
    exact iff_of_false (fun heq => nomatch (Prod.mk.inj heq).1) fun heq => h' (heq.1 ▸ h)
  · rw [if_neg h, if_pos h']
    exact iff_of_false (fun heq => nomatch (Prod.mk.inj heq).1) fun heq => h (heq.1 ▸ h')
  · rw [if_neg h, if_neg h']
    have hzero : ∀ {dwellTime : UInt32}, ¬ 0 < dwellTime → dwellTime = 0 := fun hnot =>
      UInt32.le_zero_iff.mp (UInt32.not_lt.mp hnot)
    exact iff_of_true rfl ⟨(hzero h).trans (hzero h').symm, fun hpos => absurd hpos h⟩

end Kept

/-- Modified, a geofence is never what it is after a restart; but its breach
mask is, its rate in the three ranges, and its dwell settings if the options
leave them as they were. -/
theorem modifyGeofence_settings (object : GeofenceObject) (hwId : Nat)
    (options : GeofenceOption) :
    let modified := object.added.edit (editReq hwId object.key.id options)
    let restarted := (object.modified options).added
    modified ≠ restarted ∧ modified.breachMask = restarted.breachMask ∧
      (modified.rate = restarted.rate ↔ RateKept options.responsiveness) ∧
      (modified.dwell = restarted.dwell ↔ DwellKept object.options options) := by
  intro modified restarted
  have hedited : modified.responsiveness = options.qmiResponsiveness := rfl
  have hcustom : restarted.responsiveness = eQMI_LOC_GEOFENCE_RESPONSIVENESS_CUSTOM_V02 := rfl
  refine ⟨fun heq => ?_, rfl, ?_, dwell_eq_iff object (object.modified options)⟩
  · rw [heq, hcustom, GeofenceOption.qmiResponsiveness] at hedited
    split at hedited
    · cases hedited
    · split at hedited <;> cases hedited
  · rw [rate_edited, rate_added, Option.some.injEq]
    exact customResponsivenessValue_eq_iff options

/-- Every 4 s, entering only. -/
def enterFence : GeofenceObject := ⟨⟨1, 1⟩, 0x1, 4000, 0, 0, 0, 0, false⟩

/-- A dwell time that is turned on is not, until a restart. -/
theorem not_modifyGeofence_settings_enterFence :
    ¬ ∀ (object : GeofenceObject) (hwId : Nat) (options : GeofenceOption),
      object.added.edit (editReq hwId object.key.id options) =
        (object.modified options).added := by
  intro h
  have hdwell := congrArg GeofenceSettings.dwellTime (h enterFence 7 ⟨0x5, 4000, 60⟩)
  cases hdwell

end LocStack.Geofence
