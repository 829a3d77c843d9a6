/-
# `LocStack.Integration.Replay` — what a restarted daemon is configured to

The messages a daemon gets are the settings it has (`Store`): a message
overwrites the setting of its type, the lever arm for each bit of its valid
mask, the run state for each engine its mask names.  A daemon that restarts
has an empty store, and gets `cachedMsgs`.

    Store.after h            the store of a daemon that got the messages h
    CachedConfig.after h     what the client has kept of them

Both are read off the last message that writes a setting (`Store.after_eq`,
`CachedConfig.after_eq`); but what is kept of a lever arm is the last
message as a whole, and of the engines the last message for each mask.

`replayed_iff`: whatever order the map of the engines is walked in, the
restarted daemon has the store it would have had, and is sent no setting
that was never made, if and only if

* constellations are configured where the secondary band is, and the last
  configuration of the secondary band has a size (`Banded`);
* the last lever arm has every type that any lever arm had (`LeverWhole`);
* masks that name the same engine were last set to the same state
  (`EnginesAgree`).
-/
import LocStack.Base.LastWrite
import LocStack.Integration.Model
import Mathlib.Data.List.Nodup

namespace LocStack.Integration

open Base List Option
open Gnss (GnssSvTypeConfig GnssSvIdConfig)

variable {req : ConfigReq} {h : List ConfigReq} {c : CachedConfig}
  {map engines : LocConfigEngRunStateMap}

/-! ## What a message writes -/

namespace ConfigReq

def constellations? : ConfigReq → Option (GnssSvTypeConfig × GnssSvIdConfig)
  | .configConstellations enablement blacklist => some (enablement, blacklist)
  | _ => none

def secondaryBand? : ConfigReq → Option GnssSvTypeConfig
  | .configConstellationSecondaryBand config => some config
  | _ => none

def tunc? : ConfigReq → Option (Bool × Float32 × UInt32)
  | .configConstrainedTimeUncertainty enable threshold budget => some (enable, threshold, budget)
  | _ => none

def pace? : ConfigReq → Option Bool
  | .configPositionAssistedClockEstimator enable => some enable
  | _ => none

def leverArm? : ConfigReq → Option LeverArmConfigInfo
  | .configLeverArm info => some info
  | _ => none

def robust? : ConfigReq → Option (Bool × Bool)
  | .configRobustLocation enable enableForE911 => some (enable, enableForE911)
  | _ => none

def dre? : ConfigReq → Option DeadReckoningEngineConfig
  | .configDeadReckoningEngineParams config => some config
  | _ => none

def engine? : ConfigReq → Option (PositioningEngineMask × LocEngineRunState)
  | .configEngineRunState mask state => some (mask, state)
  | _ => none

def consent? : ConfigReq → Option Bool
  | .setUserConsentForTerrestrialPositioning consent => some consent
  | _ => none

end ConfigReq

def LeverArmConfigInfo.has (info : LeverArmConfigInfo) (t : LeverArmType) : Bool :=
  decide (info.leverArmValidMask &&& t.bit ≠ 0#32)

/-- The parameters of one type, if the valid mask has them. -/
def LeverArmConfigInfo.params? (info : LeverArmConfigInfo) (t : LeverArmType) :
    Option LeverArmParams :=
  if info.has t then
    some (match t with
      | .GNSS_TO_VRP => info.gnssToVRP
      | .DR_IMU_TO_GNSS => info.drImuToGnss
      | .VEPP_IMU_TO_GNSS => info.veppImuToGnss)
  else none

def PositioningEngineMask.names (mask : PositioningEngineMask) (engine : PositioningEngine) :
    Bool :=
  decide (mask &&& engine.bit ≠ 0#32)

/-- The state an entry of the map gives an engine. -/
def engineState? (engine : PositioningEngine) (e : PositioningEngineMask × LocEngineRunState) :
    Option LocEngineRunState :=
  if PositioningEngineMask.names e.1 engine then some e.2 else none

/-- The state an entry gives the mask itself. -/
def maskState? (mask : PositioningEngineMask) (e : PositioningEngineMask × LocEngineRunState) :
    Option LocEngineRunState :=
  if e.1 = mask then some e.2 else none

/-! ## The store of a daemon -/

@[ext] structure Store where
  constellations : Option (GnssSvTypeConfig × GnssSvIdConfig)
  secondaryBand : Option GnssSvTypeConfig
  tunc : Option (Bool × Float32 × UInt32)
  pace : Option Bool
  leverArm : LeverArmType → Option LeverArmParams
  robust : Option (Bool × Bool)
  dre : Option DeadReckoningEngineConfig
  engineRunState : PositioningEngine → Option LocEngineRunState
  consent : Option Bool

namespace Store

def empty : Store := ⟨none, none, none, none, fun _ => none, none, none, fun _ => none, none⟩

def apply (s : Store) : ConfigReq → Store
  | .configConstellations enablement blacklist =>
    { s with constellations := some (enablement, blacklist) }
  | .configConstellationSecondaryBand config => { s with secondaryBand := some config }
  | .configConstrainedTimeUncertainty enable threshold budget =>
    { s with tunc := some (enable, threshold, budget) }
  | .configPositionAssistedClockEstimator enable => { s with pace := some enable }
  | .configLeverArm info =>
    { s with leverArm := fun t => (info.params? t).or (s.leverArm t) }
  | .configRobustLocation enable enableForE911 =>
    { s with robust := some (enable, enableForE911) }
  | .configDeadReckoningEngineParams config => { s with dre := some config }
  | .configEngineRunState mask state =>
    { s with engineRunState := fun engine =>
      if PositioningEngineMask.names mask engine then some state else s.engineRunState engine }
  | .setUserConsentForTerrestrialPositioning consent => { s with consent := some consent }
  | _ => s

def after (h : List ConfigReq) : Store := h.foldl apply empty

theorem after_concat (h : List ConfigReq) (req : ConfigReq) :
    after (h ++ [req]) = (after h).apply req := foldl_append ..

theorem after_eq (h : List ConfigReq) : after h =
      { constellations := lastWrite ConfigReq.constellations? h
        secondaryBand := lastWrite ConfigReq.secondaryBand? h
        tunc := lastWrite ConfigReq.tunc? h
        pace := lastWrite ConfigReq.pace? h
        leverArm := fun t => lastWrite (fun req => req.leverArm?.bind (·.params? t)) h
        robust := lastWrite ConfigReq.robust? h
        dre := lastWrite ConfigReq.dre? h
        engineRunState := fun engine =>
          lastWrite (fun req => req.engine?.bind (engineState? engine)) h
        consent := lastWrite ConfigReq.consent? h } := by
  induction h using List.reverseRecOn with
  | nil => rfl
  | append_singleton h req ih =>
    rw [after_concat, ih]
    simp only [lastWrite_concat]
    cases req with
    | configEngineRunState mask state =>
      ext : 1 <;> try rfl
      funext engine
      show (if _ then _ else _) = Option.or (if _ then _ else _) _
      split <;> rfl
    | _ => rfl

end Store

/-! ## What is kept -/

namespace LocConfigEngRunStateMap

theorem map_fst_set (engType : PositioningEngineMask) (engState : LocEngineRunState)
    (map : LocConfigEngRunStateMap) :
    (map.set engType engState).map Prod.fst =
      if engType ∈ map.map Prod.fst then map.map Prod.fst else map.map Prod.fst ++ [engType] := by
  induction map with
  | nil => rfl
  | cons e map ih =>
    rw [set]
    split
    · next heq =>
        subst heq
        rw [if_pos (by simp)]
        rfl
    · next hne =>
        rw [map_cons, ih, map_cons]
        simp only [mem_cons, Ne.symm hne, false_or]
        split <;> rfl

theorem nodup_set (hkeys : (map.map Prod.fst).Nodup) (engType : PositioningEngineMask)
    (engState : LocEngineRunState) : ((map.set engType engState).map Prod.fst).Nodup := by
  rw [map_fst_set]
  split
  · exact hkeys
  · next hnew => exact nodup_append_comm.mpr (nodup_cons.mpr ⟨hnew, hkeys⟩)

theorem mem_set (hkeys : (map.map Prod.fst).Nodup) {engType : PositioningEngineMask}
    {engState : LocEngineRunState} {e : PositioningEngineMask × LocEngineRunState} :
    e ∈ map.set engType engState ↔ e = (engType, engState) ∨ e.1 ≠ engType ∧ e ∈ map := by
  induction map with
  | nil => simp [set]
  | cons x map ih =>
    obtain ⟨hx, hkeys⟩ := nodup_cons.mp hkeys
    rw [set]
    split
    · next heq =>
        have hold : e ∈ map → e.1 ≠ engType := fun he h =>
          hx (heq.trans h.symm ▸ mem_map_of_mem he)
        simp only [mem_cons]
        constructor
        · rintro (he | he)
          · exact .inl he
          · exact .inr ⟨hold he, .inr he⟩
        · rintro (he | ⟨hne, rfl | he⟩)
          · exact .inl he
          · exact absurd heq hne
          · exact .inr he
    · next hne =>
        rw [mem_cons, mem_cons, ih hkeys]
        constructor
        · rintro (rfl | he | he)
          · exact .inr ⟨hne, .inl rfl⟩
          · exact .inl he
          · exact .inr ⟨he.1, .inr he.2⟩
        · rintro (he | ⟨hne, he | he⟩)
          · exact .inr (.inl he)
          · exact .inl he
          · exact .inr (.inr ⟨hne, he⟩)

end LocConfigEngRunStateMap

namespace CachedConfig

def after (h : List ConfigReq) : CachedConfig := h.foldl keep init

theorem after_concat (h : List ConfigReq) (req : ConfigReq) :
    after (h ++ [req]) = (after h).keep req := foldl_append ..

theorem after_eq (h : List ConfigReq) : after h =
      { mTuncConfigInfo := (lastWrite ConfigReq.tunc? h).elim ⟨false, false, 0#32, 0⟩
          fun v => ⟨true, v.1, v.2.1, v.2.2⟩
        mPaceConfigInfo := (lastWrite ConfigReq.pace? h).elim ⟨false, false⟩ fun v => ⟨true, v⟩
        mSvConfigInfo :=
          { isValid := (lastWrite ConfigReq.constellations? h).isSome
              || (lastWrite ConfigReq.secondaryBand? h).isSome
            constellationEnablementConfig :=
              (lastWrite ConfigReq.constellations? h).elim noSvTypes Prod.fst
            blacklistSvConfig := (lastWrite ConfigReq.constellations? h).elim noSvIds Prod.snd
            secondaryBandConfig := (lastWrite ConfigReq.secondaryBand? h).getD noSvTypes }
        mLeverArmConfigInfo := (lastWrite ConfigReq.leverArm? h).getD noLeverArm
        mRobustLocationConfigInfo := (lastWrite ConfigReq.robust? h).elim ⟨false, false, false⟩
          fun v => ⟨true, v.1, v.2⟩
        mDreConfigInfo := (lastWrite ConfigReq.dre? h).elim ⟨false, noDreConfig⟩ fun v => ⟨true, v⟩
        mEngRunStateConfigMap := (after h).mEngRunStateConfigMap
        mGtpUserConsentConfigInfo := (lastWrite ConfigReq.consent? h).elim ⟨false, false⟩
          fun v => ⟨true, v⟩ } := by
  induction h using List.reverseRecOn with
  | nil => rfl
  | append_singleton h req ih =>
    simp only [after_concat, lastWrite_concat]
    cases req with
    | configConstellations enablement blacklist => rw [ih]; rfl
    | configConstellationSecondaryBand config =>
      rw [ih]
      simp only [keep, ConfigReq.constellations?, ConfigReq.secondaryBand?, none_or,
        some_or, isSome_some, Bool.or_true]
      rfl
    | _ => rw [ih]; rfl

theorem nodup_after (h : List ConfigReq) :
    ((after h).mEngRunStateConfigMap.map Prod.fst).Nodup := by
  induction h using List.reverseRecOn with
  | nil => exact nodup_nil
  | append_singleton h req ih =>
    rw [after_concat]
    cases req with
    | configEngineRunState mask state => exact LocConfigEngRunStateMap.nodup_set ih mask state
    | _ => exact ih

theorem mem_after {e : PositioningEngineMask × LocEngineRunState} :
    e ∈ (after h).mEngRunStateConfigMap ↔
      lastWrite (fun req => req.engine?.bind (maskState? e.1)) h = some e.2 := by
  induction h using List.reverseRecOn with
  | nil => exact ⟨fun he => absurd he not_mem_nil, fun he => (by cases he)⟩
  | append_singleton h req ih =>
    rw [after_concat, lastWrite_concat]
    cases req with
    | configEngineRunState mask state =>
      show e ∈ LocConfigEngRunStateMap.set mask state _ ↔ _
      rw [LocConfigEngRunStateMap.mem_set (nodup_after h), ih]
      show _ ↔ (if mask = e.1 then some state else none).or _ = some e.2
      split
      · next heq =>
          subst heq
          constructor
          · rintro (he | ⟨hne, -⟩)
            · rw [he]
              rfl
            · exact absurd rfl hne
          · intro hs
            exact .inl (Prod.ext rfl (some.inj hs).symm)
      · next hne =>
          rw [none_or]
          constructor
          · rintro (he | ⟨-, he⟩)
            · exact absurd (congrArg Prod.fst he).symm hne
            · exact he
          · exact fun he => .inr ⟨fun h => hne h.symm, he⟩
    | _ => exact ih

end CachedConfig

/-! ## The store of a daemon that restarted -/

theorem noLeverArm_params? (t : LeverArmType) : noLeverArm.params? t = none := by
  cases t <;> rfl

theorem LeverArmConfigInfo.isSome_params? (info : LeverArmConfigInfo) (t : LeverArmType) :
    (info.params? t).isSome = info.has t := by
  unfold params?
  cases info.has t <;> rfl

theorem LeverArmConfigInfo.params?_of_mask {info : LeverArmConfigInfo}
    (h : info.leverArmValidMask = 0#32) (t : LeverArmType) : info.params? t = none := by
  unfold params? has
  rw [h, BitVec.zero_and]
  rfl

variable {β : Type*} {state : LocEngineRunState} {band? : Option GnssSvTypeConfig}

theorem lastWrite_part (f : ConfigReq → Option β) (p : Prop) [Decidable p] (req : ConfigReq) :
    lastWrite f (if p then [req] else []) = if p then f req else none := by
  split
  · exact lastWrite_singleton req
  · rfl

theorem after_cachedMsgs (c : CachedConfig) (engines : LocConfigEngRunStateMap) :
    Store.after (c.cachedMsgs engines) =
      { constellations := if c.mSvConfigInfo.isValid
          then some (c.mSvConfigInfo.constellationEnablementConfig,
            c.mSvConfigInfo.blacklistSvConfig) else none
        secondaryBand := if c.mSvConfigInfo.secondaryBandConfig.size ≠ 0
          then some c.mSvConfigInfo.secondaryBandConfig else none
        tunc := if c.mTuncConfigInfo.isValid
          then some (c.mTuncConfigInfo.enable, c.mTuncConfigInfo.tuncThresholdMs,
            c.mTuncConfigInfo.energyBudget) else none
        pace := if c.mPaceConfigInfo.isValid then some c.mPaceConfigInfo.enable else none
        leverArm := c.mLeverArmConfigInfo.params?
        robust := if c.mRobustLocationConfigInfo.isValid
          then some (c.mRobustLocationConfigInfo.enable, c.mRobustLocationConfigInfo.enableForE911)
          else none
        dre := if c.mDreConfigInfo.isValid then some c.mDreConfigInfo.dreConfig else none
        engineRunState := fun engine => lastWrite (engineState? engine) engines
        consent := if c.mGtpUserConsentConfigInfo.isValid
          then some c.mGtpUserConsentConfigInfo.userConsent else none } := by
  have hengines {β : Type} : lastWrite (fun _ => (none : Option β)) engines = none :=
    lastWrite_eq_none.mpr fun _ _ => rfl
  have hlever (t : LeverArmType) : (if c.mLeverArmConfigInfo.leverArmValidMask ≠ 0#32
      then c.mLeverArmConfigInfo.params? t else none) = c.mLeverArmConfigInfo.params? t := by
    split
    · rfl
    · next h => exact (LeverArmConfigInfo.params?_of_mask (not_not.mp h) t).symm
  rw [Store.after_eq]
  simp only [CachedConfig.cachedMsgs, lastWrite_append, lastWrite_part, lastWrite_map,
    ConfigReq.constellations?, ConfigReq.secondaryBand?, ConfigReq.tunc?, ConfigReq.pace?,
    ConfigReq.leverArm?, ConfigReq.robust?, ConfigReq.dre?, ConfigReq.engine?, ConfigReq.consent?,
    bind_none, bind_some, none_or, or_none, ite_self, hengines, hlever]

/-! ## What a restart gives back -/

/-- The application has made a configuration of the type. -/
def Configured (h : List ConfigReq) (configType : LocConfigTypeEnum) : Prop :=
  ∃ req ∈ h, req.configType = configType

/-- The daemon that is sent what is kept of `h` is configured as after `h`,
and by no message of a type that is not in `h`. -/
structure Restored (h : List ConfigReq) (engines : LocConfigEngRunStateMap) : Prop where
  store : Store.after ((CachedConfig.after h).cachedMsgs engines) = Store.after h
  configured : ∀ req ∈ (CachedConfig.after h).cachedMsgs engines, Configured h req.configType

/-- The constellations are configured where the secondary band is, and the
last configuration of the band has a size. -/
structure Banded (h : List ConfigReq) : Prop where
  constellations : Configured h .CONFIG_CONSTELLATION_SECONDARY_BAND →
    Configured h .CONFIG_CONSTELLATIONS
  sized : ∀ config, lastWrite ConfigReq.secondaryBand? h = some config → config.size ≠ 0

/-- The last lever arm has every type that any lever arm has. -/
def LeverWhole (h : List ConfigReq) : Prop :=
  ∀ info, .configLeverArm info ∈ h → ∀ t, info.has t = true →
    ∃ last, lastWrite ConfigReq.leverArm? h = some last ∧ last.has t = true

/-- Masks that name the same engine were last set to the same state. -/
def EnginesAgree (h : List ConfigReq) : Prop :=
  ∀ mask mask' state state' engine, PositioningEngineMask.names mask engine = true →
    PositioningEngineMask.names mask' engine = true →
    lastWrite (fun req => req.engine?.bind (maskState? mask)) h = some state →
    lastWrite (fun req => req.engine?.bind (maskState? mask')) h = some state' → state = state'

theorem configured_iff {f : ConfigReq → Option β} {t : LocConfigTypeEnum}
    (hf : ∀ req, (f req).isSome = true ↔ req.configType = t) :
    Configured h t ↔ (lastWrite f h).isSome = true := by
  constructor
  · rintro ⟨req, hreq, ht⟩
    obtain ⟨v, hv⟩ := exists_lastWrite_of_mem hreq ((hf req).mpr ht)
    rw [hv]
    rfl
  · intro hsome
    obtain ⟨v, hv⟩ := isSome_iff_exists.mp hsome
    obtain ⟨req, hreq, hfv⟩ := exists_of_lastWrite hv
    exact ⟨req, hreq, (hf req).mp (by rw [hfv]; rfl)⟩

theorem configured_constellations : Configured h .CONFIG_CONSTELLATIONS ↔
      (lastWrite ConfigReq.constellations? h).isSome = true :=
  configured_iff fun req => by cases req <;> simp [ConfigReq.constellations?, ConfigReq.configType]

theorem configured_secondaryBand : Configured h .CONFIG_CONSTELLATION_SECONDARY_BAND ↔
      (lastWrite ConfigReq.secondaryBand? h).isSome = true :=
  configured_iff fun req => by cases req <;> simp [ConfigReq.secondaryBand?, ConfigReq.configType]

theorem mem_of_maskState {mask : PositioningEngineMask}
    (hlast : lastWrite (fun req => req.engine?.bind (maskState? mask)) h = some state) :
    .configEngineRunState mask state ∈ h := by
  refine mem_of_lastWrite (ConfigReq.configEngineRunState mask) (fun req v hv => ?_) hlast
  cases req with
  | configEngineRunState mask' state' =>
    change (if mask' = mask then some state' else none) = some v at hv
    split at hv
    · next heq =>
        cases hv
        rw [heq]
    · cases hv
  | _ => cases hv

/-- What is sent was sent before, but for constellations that were never
configured. -/
theorem mem_of_mem_cachedMsgs
    (hperm : engines.Perm (CachedConfig.after h).mEngRunStateConfigMap)
    (hsv : Configured h .CONFIG_CONSTELLATION_SECONDARY_BAND → Configured h .CONFIG_CONSTELLATIONS)
    (hreq : req ∈ (CachedConfig.after h).cachedMsgs engines) : req ∈ h := by
  have hpart {p : Prop} [Decidable p] {req' : ConfigReq} (hr : req ∈ if p then [req'] else []) :
      p ∧ req = req' := by
    split at hr
    · next hp => exact ⟨hp, mem_singleton.mp hr⟩
    · exact absurd hr not_mem_nil
  unfold CachedConfig.cachedMsgs at hreq
  simp only [mem_append] at hreq
  rw [CachedConfig.after_eq] at hreq
  rcases hreq with (((((((hr | hr) | hr) | hr) | hr) | hr) | hr) | hr) | hr
  · obtain ⟨hvalid, rfl⟩ := hpart hr
    rw [configured_constellations, configured_secondaryBand] at hsv
    cases hv : lastWrite ConfigReq.constellations? h with
    | none =>
      rw [hv] at hsv hvalid
      exact absurd (hsv (by simpa using hvalid)) (by decide)
    | some v =>
      exact mem_of_lastWrite (fun v => ConfigReq.configConstellations v.1 v.2)
        (fun req v hv => by cases req <;> cases hv; rfl) hv
  · obtain ⟨hsize, rfl⟩ := hpart hr
    cases hv : lastWrite ConfigReq.secondaryBand? h with
    | none =>
      rw [hv] at hsize
      exact absurd rfl hsize
    | some v =>
      exact mem_of_lastWrite ConfigReq.configConstellationSecondaryBand
        (fun req v hv => by cases req <;> cases hv; rfl) hv
  · obtain ⟨hvalid, rfl⟩ := hpart hr
    cases hv : lastWrite ConfigReq.tunc? h with
    | none =>
      rw [hv] at hvalid
      cases hvalid
    | some v =>
      exact mem_of_lastWrite (fun v => ConfigReq.configConstrainedTimeUncertainty v.1 v.2.1 v.2.2)
        (fun req v hv => by cases req <;> cases hv; rfl) hv
  · obtain ⟨hvalid, rfl⟩ := hpart hr
    cases hv : lastWrite ConfigReq.pace? h with
    | none =>
      rw [hv] at hvalid
      cases hvalid
    | some v =>
      exact mem_of_lastWrite ConfigReq.configPositionAssistedClockEstimator
        (fun req v hv => by cases req <;> cases hv; rfl) hv
  · obtain ⟨hmask, rfl⟩ := hpart hr
    cases hv : lastWrite ConfigReq.leverArm? h with
    | none =>
      rw [hv] at hmask
      exact absurd rfl hmask
    | some v =>
      exact mem_of_lastWrite ConfigReq.configLeverArm
        (fun req v hv => by cases req <;> cases hv; rfl) hv
  · obtain ⟨hvalid, rfl⟩ := hpart hr
    cases hv : lastWrite ConfigReq.robust? h with
    | none =>
      rw [hv] at hvalid
      cases hvalid
    | some v =>
      exact mem_of_lastWrite (fun v => ConfigReq.configRobustLocation v.1 v.2)
        (fun req v hv => by cases req <;> cases hv; rfl) hv
  · obtain ⟨hvalid, rfl⟩ := hpart hr
    cases hv : lastWrite ConfigReq.dre? h with
    | none =>
      rw [hv] at hvalid
      cases hvalid
    | some v =>
      exact mem_of_lastWrite ConfigReq.configDeadReckoningEngineParams
        (fun req v hv => by cases req <;> cases hv; rfl) hv
  · obtain ⟨hvalid, rfl⟩ := hpart hr
    cases hv : lastWrite ConfigReq.consent? h with
    | none =>
      rw [hv] at hvalid
      cases hvalid
    | some v =>
      exact mem_of_lastWrite ConfigReq.setUserConsentForTerrestrialPositioning
        (fun req v hv => by cases req <;> cases hv; rfl) hv
  · obtain ⟨e, he, rfl⟩ := mem_map.mp hr
    exact mem_of_maskState (CachedConfig.mem_after.mp (hperm.mem_iff.mp he))

/-! ## The engines -/

theorem lastWrite_engineState {engine : PositioningEngine}
    (hlast : lastWrite (fun req => req.engine?.bind (engineState? engine)) h = some state) :
    ∃ mask, PositioningEngineMask.names mask engine = true ∧
      lastWrite (fun req => req.engine?.bind (maskState? mask)) h = some state := by
  induction h using List.reverseRecOn with
  | nil => cases hlast
  | append_singleton h req ih =>
    rw [lastWrite_concat] at hlast
    simp only [lastWrite_concat]
    cases req with
    | configEngineRunState mask state' =>
      change (if PositioningEngineMask.names mask engine then some state' else none).or _
        = some state at hlast
      split at hlast
      · next hnames =>
          refine ⟨mask, hnames, ?_⟩
          show (if mask = mask then some state' else none).or _ = some state
          rw [if_pos rfl]
          exact hlast
      · next hnot =>
          obtain ⟨mask', hnames, hmask⟩ := ih hlast
          refine ⟨mask', hnames, ?_⟩
          show (if mask = mask' then some state' else none).or _ = some state
          rw [if_neg fun heq : mask = mask' => hnot (heq ▸ hnames)]
          exact hmask
    | _ => exact ih hlast

/-- Walked in any order, the map gives an engine the state it was set to
last, exactly if no two of its masks disagree. -/
theorem engines_iff : (∀ engines, engines.Perm (CachedConfig.after h).mEngRunStateConfigMap →
      ∀ engine, lastWrite (engineState? engine) engines =
        lastWrite (fun req => req.engine?.bind (engineState? engine)) h) ↔ EnginesAgree h := by
  constructor
  · intro hall mask mask' state state' engine hnames hnames' hmask hmask'
    -- an entry that is walked last decides
    have hdecides (e : PositioningEngineMask × LocEngineRunState)
        (hnames : PositioningEngineMask.names e.1 engine = true)
        (he : e ∈ (CachedConfig.after h).mEngRunStateConfigMap) :
        lastWrite (fun req => req.engine?.bind (engineState? engine)) h = some e.2 := by
      have hperm := (perm_append_singleton e _).trans (perm_cons_erase he).symm
      rw [← hall _ hperm engine, lastWrite_concat]
      unfold engineState?
      rw [if_pos hnames]
      rfl
    have hlast := hdecides (mask, state) hnames (CachedConfig.mem_after.mpr hmask)
    have hlast' := hdecides (mask', state') hnames' (CachedConfig.mem_after.mpr hmask')
    exact some.inj (hlast.symm.trans hlast')
  · intro hagree engines hperm engine
    have hentry (e : PositioningEngineMask × LocEngineRunState) (he : e ∈ engines) :=
      CachedConfig.mem_after.mp (hperm.mem_iff.mp he)
    cases hlast : lastWrite (fun req => req.engine?.bind (engineState? engine)) h with
    | none =>
      rw [lastWrite_eq_none] at hlast ⊢
      intro e he
      exact hlast _ (mem_of_maskState (hentry e he))
    | some state =>
      obtain ⟨mask, hnames, hmask⟩ := lastWrite_engineState hlast
      have hmem : (mask, state) ∈ engines :=
        hperm.mem_iff.mpr (CachedConfig.mem_after.mpr hmask)
      refine lastWrite_of_agree hmem (if_pos hnames) ?_
      intro e he state' hstate
      unfold engineState? at hstate
      split at hstate
      · next hnames' =>
          cases hstate
          exact hagree e.1 mask e.2 state engine hnames' hnames (hentry e he) hmask
      · cases hstate

/-! ## The other settings -/

theorem constellations_iff {enablement? : Option (GnssSvTypeConfig × GnssSvIdConfig)} :
    (if (enablement?.isSome || band?.isSome) = true
      then some (enablement?.elim noSvTypes Prod.fst, enablement?.elim noSvIds Prod.snd)
      else none) = enablement? ↔ (band?.isSome = true → enablement?.isSome = true) := by
  cases enablement? <;> cases band? <;> simp

theorem secondaryBand_iff :
    (if (band?.getD noSvTypes).size ≠ 0 then some (band?.getD noSvTypes) else none) = band? ↔
      ∀ config, band? = some config → config.size ≠ 0 := by
  cases band? with
  | none => simp [noSvTypes]
  | some config => simp

theorem leverArm_iff : ((lastWrite ConfigReq.leverArm? h).getD noLeverArm).params? =
      (fun t => lastWrite (fun req => req.leverArm?.bind (·.params? t)) h) ↔ LeverWhole h := by
  have hkept (t : LeverArmType) : ((lastWrite ConfigReq.leverArm? h).getD noLeverArm).params? t =
      (lastWrite ConfigReq.leverArm? h).bind (·.params? t) := by
    cases lastWrite ConfigReq.leverArm? h with
    | none => exact noLeverArm_params? t
    | some info => rfl
  have hhas (t : LeverArmType) : ((lastWrite ConfigReq.leverArm? h).bind (·.params? t)).isSome =
      true ↔ ∃ last, lastWrite ConfigReq.leverArm? h = some last ∧ last.has t = true := by
    cases lastWrite ConfigReq.leverArm? h with
    | none => simp
    | some info => simp [LeverArmConfigInfo.isSome_params?]
  simp only [funext_iff, hkept]
  constructor
  · intro heq info hinfo t ht
    rw [← hhas]
    refine lastWrite_bind_eq.mp (heq t).symm _ hinfo info rfl ?_
    rw [LeverArmConfigInfo.isSome_params?]
    exact ht
  · intro hwhole t
    refine (lastWrite_bind_eq.mpr fun req hreq info hinfo ht => ?_).symm
    rw [hhas]
    rw [LeverArmConfigInfo.isSome_params?] at ht
    refine hwhole info ?_ t ht
    cases req with
    | configLeverArm info' =>
      cases hinfo
      exact hreq
    | _ => cases hinfo

/-! ## The result -/

/-- What a restart can give back. -/
structure Replayable (h : List ConfigReq) : Prop where
  banded : Banded h
  whole : LeverWhole h
  agree : EnginesAgree h

theorem store_eq_iff : Store.after ((CachedConfig.after h).cachedMsgs engines) = Store.after h ↔
      ((lastWrite ConfigReq.secondaryBand? h).isSome = true →
        (lastWrite ConfigReq.constellations? h).isSome = true) ∧
      (∀ config, lastWrite ConfigReq.secondaryBand? h = some config → config.size ≠ 0) ∧
      LeverWhole h ∧
      ∀ engine, lastWrite (engineState? engine) engines =
        lastWrite (fun req => req.engine?.bind (engineState? engine)) h := by
  rw [after_cachedMsgs, Store.after_eq, Store.mk.injEq, CachedConfig.after_eq]
  constructor
  · rintro ⟨hconstellations, hband, -, -, hlever, -, -, hengines, -⟩
    exact ⟨constellations_iff.mp hconstellations, secondaryBand_iff.mp hband,
      leverArm_iff.mp hlever, congrFun hengines⟩
  · rintro ⟨hconstellations, hband, hlever, hengines⟩
    refine ⟨constellations_iff.mpr hconstellations, secondaryBand_iff.mpr hband, ?_, ?_,
      leverArm_iff.mpr hlever, ?_, ?_, funext hengines, ?_⟩
    · cases lastWrite ConfigReq.tunc? h <;> rfl
    · cases lastWrite ConfigReq.pace? h <;> rfl
    · cases lastWrite ConfigReq.robust? h <;> rfl
    · cases lastWrite ConfigReq.dre? h <;> rfl
    · cases lastWrite ConfigReq.consent? h <;> rfl

/-- Whatever order the engines are walked in, a restarted daemon is
configured as it was, exactly if the configurations are replayable. -/
theorem replayed_iff (mIntegrationCbs : LocIntegrationCbs) (calls : List ConfigReq) :
    (∀ engines, engines.Perm
        (CachedConfig.after (calls.filter mIntegrationCbs.queues)).mEngRunStateConfigMap →
      Restored (calls.filter mIntegrationCbs.queues) engines) ↔
      Replayable (calls.filter mIntegrationCbs.queues) := by
  generalize calls.filter mIntegrationCbs.queues = h
  constructor
  · intro hall
    have hstore := store_eq_iff.mp (hall _ (List.Perm.refl _)).store
    refine ⟨⟨?_, hstore.2.1⟩, hstore.2.2.1, engines_iff.mp fun engines hperm =>
      (store_eq_iff.mp (hall engines hperm).store).2.2.2⟩
    rw [configured_constellations, configured_secondaryBand]
    exact hstore.1
  · intro hreplayable engines hperm
    have hsv := hreplayable.banded.constellations
    refine ⟨store_eq_iff.mpr ⟨?_, hreplayable.banded.sized, hreplayable.whole,
      engines_iff.mpr hreplayable.agree engines hperm⟩, fun req hreq =>
        ⟨req, mem_of_mem_cachedMsgs hperm hsv hreq, rfl⟩⟩
    rwa [configured_constellations, configured_secondaryBand] at hsv

/-- The secondary band alone: the constellations are configured too, to
nothing. -/
def bandOnly : List ConfigReq := [.configConstellationSecondaryBand ⟨24, 0#64, 1#64⟩]

theorem not_restored_bandOnly :
    (¬ ∀ engines, engines.Perm (CachedConfig.after bandOnly).mEngRunStateConfigMap →
      Restored bandOnly engines) ∧
      (CachedConfig.after bandOnly).cachedMsgs [] =
        .configConstellations noSvTypes noSvIds :: bandOnly := by
  refine ⟨fun hall => ?_, by decide⟩
  have hrestored := hall [] (List.Perm.refl _)
  obtain ⟨req, hreq, ht⟩ :=
    hrestored.configured (.configConstellations noSvTypes noSvIds) (by decide)
  cases mem_singleton.mp hreq
  cases ht

end LocStack.Integration
