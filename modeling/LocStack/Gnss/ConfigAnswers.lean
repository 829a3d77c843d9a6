/-
# `LocStack.Gnss.ConfigAnswers` — which error is reported for which flag

The i-th id of a command belongs to the i-th flag that is set.  `updateCall`
and `getOutcome` say what becomes of each parameter on its own; the
responses are right if they have that, parameter by parameter, against the
ids.

For an update the walk of `gnssUpdateConfig` is compared with the flags that
are set (`LocStack.Base.Slots`): a parameter whose error can be other than
SUCCESS has to come in the walk where its flag comes among them.  For a GET
the last three parameters share one id.
-/
import Mathlib.Data.List.Perm.Subperm
import LocStack.Gnss.Config

namespace LocStack.Gnss

open Base Tracking List

/-! ## The flags that are set -/

theorem pairwise_flagsSet (flags : BitVec 32) : (flagsSet flags).Pairwise (· < ·) :=
  pairwise_lt_range.filter _

theorem nodup_flagsSet (flags : BitVec 32) : (flagsSet flags).Nodup :=
  nodup_range.filter _

variable {flags : BitVec 32} {count : Nat}

theorem mem_flagsSet {flag : Nat} : flag ∈ flagsSet flags ↔ flags.getLsbD flag = true := by
  simp only [flagsSet, mem_filter, mem_range, and_iff_right_iff_imp]
  intro h
  exact BitVec.lt_of_getLsbD h

theorem getLsbD_clearFlags {bits : List Nat} {flag : Nat} :
    (clearFlags flags bits).getLsbD flag = (flags.getLsbD flag && decide (flag ∉ bits)) := by
  induction bits generalizing flags with
  | nil => simp [clearFlags]
  | cons bit bits ih =>
    have hstep : clearFlags flags (bit :: bits) =
        clearFlags (flags &&& ~~~BitVec.twoPow 32 bit) bits := rfl
    rw [hstep, ih, BitVec.getLsbD_and, BitVec.getLsbD_not, BitVec.getLsbD_twoPow]
    rcases Nat.lt_or_ge flag 32 with hlt | hge
    · by_cases hbit : bit = flag
      · simp [hbit]
      · simp [hbit, hlt, Ne.symm hbit]
    · simp [BitVec.getLsbD_of_ge _ _ hge]

/-! ## The ids -/

theorem length_generateSessionIds (count : Nat) (c : Fin 0xFFFFFFFF) :
    (generateSessionIds count c).length = count := by
  induction count generalizing c with
  | zero => rfl
  | succ count ih => simp [generateSessionIds, ih]

theorem generateSessionId_val (c : Fin 0xFFFFFFFF) :
    (generateSessionId c).val = if c.val + 1 < 0xFFFFFFFF then c.val + 1 else 1 := by
  unfold generateSessionId
  split <;> rfl

/-- How many ids come from one counter value to another. -/
def idsBetween (c id : Nat) : Nat := if c < id then id - c else id + 4294967294 - c

theorem idsBetween_of_mem {c : Fin 0xFFFFFFFF} (hcount : count ≤ 32) {id : Nat}
    (h : id ∈ generateSessionIds count c) :
    1 ≤ idsBetween c.val id ∧ idsBetween c.val id ≤ count := by
  induction count generalizing c with
  | zero => cases h
  | succ count ih =>
    have hc := c.isLt
    simp only [generateSessionIds, mem_cons] at h
    rcases h with rfl | h
    · rw [generateSessionId_val, idsBetween]
      split_ifs <;> omega
    · have hnext := ih (by omega) h
      rw [generateSessionId_val, idsBetween] at hnext
      rw [idsBetween]
      split_ifs at hnext ⊢ <;> omega

theorem nodup_generateSessionIds (hcount : count ≤ 32) (c : Fin 0xFFFFFFFF) :
    (generateSessionIds count c).Nodup := by
  induction count generalizing c with
  | zero => exact nodup_nil
  | succ count ih =>
    refine nodup_cons.mpr ⟨?_, ih (by omega) _⟩
    intro h
    have hself := (idsBetween_of_mem (by omega) h).2
    have hlt := (generateSessionId c).isLt
    simp only [idsBetween, Nat.lt_irrefl, if_false] at hself
    omega

theorem length_flagsSet_le (flags : BitVec 32) : (flagsSet flags).length ≤ 32 := by
  have h := length_filter_le flags.getLsbD (List.range 32)
  simpa [flagsSet] using h

/-! ## What becomes of a parameter that is to be set -/

section Update

variable (s : ConfigAdapter) (context : ConfigContext) (config : GnssConfig)

/-- The call that a parameter's answer comes from, or the error that it has
without one. -/
def updateCall : Nat → Except LocationError EngineCall
  | GNSS_CONFIG_FLAGS_GPS_LOCK_VALID_BIT =>
    if (s.newGpsLock config.gpsLock).2 = true then
      .ok (.setGpsLockSync (s.newGpsLock config.gpsLock).1)
    else .error .success
  | GNSS_CONFIG_FLAGS_SUPL_VERSION_VALID_BIT =>
    if context.AGPS_CONFIG_INJECT = true then .ok (.setSUPLVersionSync config.suplVersion)
    else .error .success
  | GNSS_CONFIG_FLAGS_SET_ASSISTANCE_DATA_VALID_BIT =>
    if config.assistanceServer.type ≠ .supl then .error .invalidParameter
    else if context.AGPS_CONFIG_INJECT = true then .ok (.setServerSync context.serverUrl)
    else .error .success
  | GNSS_CONFIG_FLAGS_LPP_PROFILE_VALID_BIT =>
    if context.AGPS_CONFIG_INJECT = true then .ok (.setLPPConfigSync config.lppProfileMask)
    else .error .success
  | GNSS_CONFIG_FLAGS_LPPE_CONTROL_PLANE_VALID_BIT =>
    .ok (.setLPPeProtocolCpSync config.lppeControlPlaneMask)
  | GNSS_CONFIG_FLAGS_LPPE_USER_PLANE_VALID_BIT =>
    .ok (.setLPPeProtocolUpSync config.lppeUserPlaneMask)
  | GNSS_CONFIG_FLAGS_AGLONASS_POSITION_PROTOCOL_VALID_BIT =>
    if context.AGPS_CONFIG_INJECT = true then
      .ok (.setAGLONASSProtocolSync config.aGlonassPositionProtocolMask)
    else .error .success
  | GNSS_CONFIG_FLAGS_BLACKLISTED_SV_IDS_BIT =>
    if context.constellationEnablement = true then
      .ok (.setBlacklistSvSync (SvAdapter.converted config.blacklistedSvIds).1)
    else .error .notSupported
  | GNSS_CONFIG_FLAGS_EMERGENCY_EXTENSION_SECONDS_BIT =>
    .ok (.setEmergencyExtensionWindowSync config.emergencyExtensionSeconds)
  | GNSS_CONFIG_FLAGS_MIN_SV_ELEVATION_BIT => .ok (.setParameterSync config.minSvElevation)
  | _ => .error .success

/-- The outcome of one parameter. -/
def updateOutcome (engine : EngineCall → LocationError) (flag : Nat) : LocationError :=
  match updateCall s context config flag with
  | .ok call => engine call
  | .error err => err

/-- One id and one error for each flag that is set, the i-th error the
outcome of the i-th flag's parameter; nothing where no flag is set. -/
def UpdateAnswered (engine : EngineCall → LocationError) : Prop :=
  ∀ responses, (s.gnssUpdateConfigCommand context engine config).2 = .done responses → responses =
      if flagsSet config.flags = [] then []
      else [.collective ((flagsSet config.flags).map (updateOutcome s context config engine))
        (s.gnssUpdateConfigCommand context engine config).1]

/-- The order in which `gnssUpdateConfig` goes through the flags. -/
def walkFlags : List Nat :=
  [GNSS_CONFIG_FLAGS_GPS_LOCK_VALID_BIT, GNSS_CONFIG_FLAGS_SET_ASSISTANCE_DATA_VALID_BIT,
    GNSS_CONFIG_FLAGS_SUPL_VERSION_VALID_BIT, GNSS_CONFIG_FLAGS_LPP_PROFILE_VALID_BIT,
    GNSS_CONFIG_FLAGS_LPPE_CONTROL_PLANE_VALID_BIT, GNSS_CONFIG_FLAGS_LPPE_USER_PLANE_VALID_BIT,
    GNSS_CONFIG_FLAGS_AGLONASS_POSITION_PROTOCOL_VALID_BIT,
    GNSS_CONFIG_FLAGS_BLACKLISTED_SV_IDS_BIT, GNSS_CONFIG_FLAGS_EMERGENCY_EXTENSION_SECONDS_BIT,
    GNSS_CONFIG_FLAGS_MIN_SV_ELEVATION_BIT]

/-- `gnssUpdateConfig` advances its index for the flag. -/
def Counted (flag : Nat) : Prop :=
  flag ∈ walkFlags ∧ (context.AGPS_CONFIG_INJECT = true ∨ flag ∉ agpsFlags)
  deriving Decidable

/-- The flags for which the walk comes to the right places: the assistance
server is one for SUPL, it is not to be set together with the SUPL version,
and below a parameter with an answer of its own there is no flag that the
walk passes over. -/
def UpdateInOrder : Prop :=
  s.engineCapabilitiesKnown = true →
    (config.flags.getLsbD GNSS_CONFIG_FLAGS_SET_ASSISTANCE_DATA_VALID_BIT = true →
      config.assistanceServer.type = .supl) ∧
    ¬ (context.AGPS_CONFIG_INJECT = true ∧
      config.flags.getLsbD GNSS_CONFIG_FLAGS_SUPL_VERSION_VALID_BIT = true ∧
      config.flags.getLsbD GNSS_CONFIG_FLAGS_SET_ASSISTANCE_DATA_VALID_BIT = true) ∧
    ∀ flag ∈ flagsSet config.flags, updateCall s context config flag ≠ .error .success →
      ∀ lower ∈ flagsSet config.flags, lower < flag → Counted context lower

end Update

/-! ## The walk of `gnssUpdateConfig` -/

theorem foldl_test (requested : BitVec 32) (tests : List FlagTest) (before : List LocationError)
    (h : before.length + (tests.filter (requested.getLsbD ·.flag)).length ≤ count) :
    (tests.foldl (ErrsList.test count requested)
        ⟨before.length, before ++ List.replicate (count + 1 - before.length) .success⟩).errs =
      before ++ (tests.filter (requested.getLsbD ·.flag)).map (·.err.getD .success) ++
        List.replicate (count + 1 - before.length -
          (tests.filter (requested.getLsbD ·.flag)).length) .success := by
  induction tests generalizing before with
  | nil => simp
  | cons t tests ih =>
    rw [foldl_cons]
    by_cases ht : requested.getLsbD t.flag = true
    · have hfilter : (t :: tests).filter (requested.getLsbD ·.flag) =
          t :: tests.filter (requested.getLsbD ·.flag) := filter_cons_of_pos ht
      rw [hfilter, length_cons] at h
      have hfill : count + 1 - before.length = count + 1 - (before.length + 1) + 1 := by omega
      have hnext : ErrsList.test count requested
            ⟨before.length, before ++ List.replicate (count + 1 - before.length) .success⟩ t =
          ⟨(before ++ [t.err.getD .success]).length, (before ++ [t.err.getD .success]) ++
            List.replicate (count + 1 - (before ++ [t.err.getD .success]).length) .success⟩ := by
        unfold ErrsList.test
        rw [if_pos ht]
        cases herr : t.err with
        | none => simp [hfill, replicate_succ]
        | some err =>
          have hlt : before.length < count := by omega
          simp [hlt, hfill, replicate_succ]
      have hroom : (before ++ [t.err.getD .success]).length +
          (tests.filter (requested.getLsbD ·.flag)).length ≤ count := by
        rw [length_append, length_singleton]
        omega
      have hrest : ∀ n, count + 1 - (before ++ [t.err.getD .success]).length - n =
          count + 1 - before.length - (n + 1) := by
        intro n
        rw [length_append, length_singleton]
        omega
      rw [hnext, ih _ hroom, hfilter, hrest, length_cons, map_cons]
      simp
    · have hfilter : (t :: tests).filter (requested.getLsbD ·.flag) =
          tests.filter (requested.getLsbD ·.flag) := filter_cons_of_neg ht
      rw [hfilter] at h ⊢
      have hnext : ∀ l, ErrsList.test count requested l t = l := fun l => by
        unfold ErrsList.test
        rw [if_neg ht]
      rw [hnext]
      exact ih before h

theorem flagTests_flags (context : ConfigContext) (engine : EngineCall → LocationError)
    (requested need : GnssConfig) :
    (flagTests context engine requested need).map (·.flag) = walkFlags := rfl

theorem nodup_walkFlags : walkFlags.Nodup := by decide

section Walk

variable {s : ConfigAdapter} {context : ConfigContext} {config : GnssConfig}
  {engine : EngineCall → LocationError}

/-- The flags that the walk counts, in its order. -/
def walked (context : ConfigContext) (flags : BitVec 32) : List Nat :=
  walkFlags.filter fun flag =>
    flags.getLsbD flag && decide (context.AGPS_CONFIG_INJECT = true ∨ flag ∉ agpsFlags)

variable {flags : BitVec 32} {ids : List Nat}

theorem mem_walked {flag : Nat} :
    flag ∈ walked context flags ↔ flag ∈ flagsSet flags ∧ Counted context flag := by
  simp only [walked, mem_filter, Bool.and_eq_true, decide_eq_true_eq, mem_flagsSet, Counted]
  tauto

theorem nodup_walked (context : ConfigContext) (flags : BitVec 32) :
    (walked context flags).Nodup :=
  nodup_walkFlags.filter _

theorem length_walked_le (context : ConfigContext) (flags : BitVec 32) :
    (walked context flags).length ≤ (flagsSet flags).length := by
  refine ((nodup_walked context flags).subperm ?_).length_le
  intro flag hflag
  exact (mem_walked.mp hflag).1

theorem getLsbD_requested {flag : Nat} :
    (if context.AGPS_CONFIG_INJECT = false then clearFlags flags agpsFlags else flags).getLsbD
        flag =
      (flags.getLsbD flag && decide (context.AGPS_CONFIG_INJECT = true ∨ flag ∉ agpsFlags)) := by
  split
  · rename_i hinject
    simp [getLsbD_clearFlags, hinject]
  · rename_i hinject
    simp [Bool.eq_true_of_not_eq_false hinject]

/-- Unless both the SUPL version and the assistance server are counted, the
walk goes from low bits to high bits. -/
theorem walked_eq_filter (h : ¬ (context.AGPS_CONFIG_INJECT = true ∧
      flags.getLsbD GNSS_CONFIG_FLAGS_SUPL_VERSION_VALID_BIT = true ∧
      flags.getLsbD GNSS_CONFIG_FLAGS_SET_ASSISTANCE_DATA_VALID_BIT = true)) :
    walked context flags = (flagsSet flags).filter (Counted context ·) := by
  have halmost : (walked context flags).Pairwise fun flag next => flag < next ∨
      flag = GNSS_CONFIG_FLAGS_SET_ASSISTANCE_DATA_VALID_BIT ∧
        next = GNSS_CONFIG_FLAGS_SUPL_VERSION_VALID_BIT :=
    List.Pairwise.filter _ (by decide)
  have hascending : (walked context flags).Pairwise (· < ·) := by
    refine halmost.imp_of_mem ?_
    rintro flag next hflag hnext (hlt | ⟨rfl, rfl⟩)
    · exact hlt
    · obtain ⟨hserver, hcounted⟩ := mem_walked.mp hflag
      have hversion := (mem_walked.mp hnext).1
      rw [mem_flagsSet] at hserver hversion
      have hinject := hcounted.2.resolve_right fun hnot => hnot (by decide)
      exact absurd ⟨hinject, hversion, hserver⟩ h
  have hperm : (walked context flags).Perm ((flagsSet flags).filter (Counted context ·)) := by
    rw [perm_ext_iff_of_nodup (nodup_walked context flags) ((nodup_flagsSet flags).filter _)]
    intro flag
    rw [mem_walked, mem_filter, decide_eq_true_eq]
  exact hperm.eq_of_pairwise (fun a b _ _ hab hba => absurd hba (Nat.lt_asymm hab)) hascending
    ((pairwise_flagsSet flags).filter _)

theorem getLsbD_need {flag : Nat} :
    (s.updateMsg config ids).gnssConfigNeedEngineUpdate.flags.getLsbD flag = true ↔
      config.flags.getLsbD flag = true ∧
        (flag = GNSS_CONFIG_FLAGS_GPS_LOCK_VALID_BIT → (s.newGpsLock config.gpsLock).2 = true) ∧
        (flag = GNSS_CONFIG_FLAGS_SET_ASSISTANCE_DATA_VALID_BIT →
          config.assistanceServer.type = .supl) := by
  simp only [ConfigAdapter.updateMsg, getLsbD_clearFlags, Bool.and_eq_true, decide_eq_true_eq,
    mem_append, not_or]
  refine and_congr_right fun hflag => and_congr ?_ ?_
  · split
    · rename_i hlock
      simp [hlock.2]
    · rename_i hlock
      refine ⟨?_, fun _ hmem => by cases hmem⟩
      rintro - rfl
      exact Bool.eq_true_of_not_eq_false fun htold => hlock ⟨hflag, htold⟩
  · split
    · rename_i hinvalid
      simp [hinvalid.2]
    · rename_i hinvalid
      refine ⟨?_, fun _ hmem => by cases hmem⟩
      rintro - rfl
      exact not_not.mp fun htype => hinvalid ⟨hflag, htype⟩

theorem requested_eq (ids : List Nat) (flags : BitVec 32) :
    ∃ gpsLock, { (s.updateMsg config ids).gnssConfigRequested with flags := flags } =
        { config with flags := flags, gpsLock := gpsLock } ∧
      (config.flags.getLsbD GNSS_CONFIG_FLAGS_GPS_LOCK_VALID_BIT = true →
        gpsLock = (s.newGpsLock config.gpsLock).1) := by
  simp only [ConfigAdapter.updateMsg]
  split
  · exact ⟨_, rfl, fun _ => rfl⟩
  · rename_i hlock
    exact ⟨config.gpsLock, rfl, fun hset => absurd hset hlock⟩

theorem err_of_need {need : Bool} {flag : Nat} {call : EngineCall} (hneed : need = true)
    (hcall : updateCall s context config flag = .ok call) :
    (if need = true then some (engine call) else none).getD .success =
      updateOutcome s context config engine flag := by
  rw [if_pos hneed, updateOutcome, hcall]
  rfl

theorem err_of_flagTests (context : ConfigContext) (engine : EngineCall → LocationError)
    (ids : List Nat) (flags : BitVec 32) {gpsLock : BitVec 32}
    (hserver : config.flags.getLsbD GNSS_CONFIG_FLAGS_SET_ASSISTANCE_DATA_VALID_BIT = true →
      config.assistanceServer.type = .supl)
    (hlock : config.flags.getLsbD GNSS_CONFIG_FLAGS_GPS_LOCK_VALID_BIT = true →
      gpsLock = (s.newGpsLock config.gpsLock).1) :
    ∀ t ∈ flagTests context engine { config with flags := flags, gpsLock := gpsLock }
        (s.updateMsg config ids).gnssConfigNeedEngineUpdate,
      t.flag ∈ walked context config.flags →
        t.err.getD .success = updateOutcome s context config engine t.flag := by
  intro t ht hwalked
  obtain ⟨hset, hcounted⟩ := mem_walked.mp hwalked
  rw [mem_flagsSet] at hset
  -- a parameter other than the lock and the server is one the engine is asked to set
  have hneed : ∀ flag, config.flags.getLsbD flag = true →
      flag ≠ GNSS_CONFIG_FLAGS_GPS_LOCK_VALID_BIT →
      (s.updateMsg config ids).gnssConfigNeedEngineUpdate.flags.getLsbD flag = true := by
    intro flag hflag hne
    exact getLsbD_need.mpr ⟨hflag, fun heq => absurd heq hne, fun heq => hserver (heq ▸ hflag)⟩
  have hinject : t.flag ∈ agpsFlags → context.AGPS_CONFIG_INJECT = true := fun hagps =>
    hcounted.2.resolve_right fun hnot => hnot hagps
  simp only [flagTests, mem_cons, not_mem_nil, or_false] at ht
  rcases ht with rfl | rfl | rfl | rfl | rfl | rfl | rfl | rfl | rfl | rfl <;>
    dsimp only at hset hinject ⊢
  · by_cases htold : (s.newGpsLock config.gpsLock).2 = true
    · rw [hlock hset]
      exact err_of_need (getLsbD_need.mpr ⟨hset, fun _ => htold, fun heq => by cases heq⟩)
        (if_pos htold)
    · have hcall : updateCall s context config GNSS_CONFIG_FLAGS_GPS_LOCK_VALID_BIT =
          .error .success := if_neg htold
      rw [if_neg fun hneeded => htold ((getLsbD_need.mp hneeded).2.1 rfl), updateOutcome, hcall]
      rfl
  · have htype := hserver hset
    have hcall : updateCall s context config GNSS_CONFIG_FLAGS_SET_ASSISTANCE_DATA_VALID_BIT =
        .ok (.setServerSync context.serverUrl) :=
      (if_neg (not_not.mpr htype)).trans (if_pos (hinject (by decide)))
    have hsupl : (s.updateMsg config ids).gnssConfigNeedEngineUpdate.assistanceServer.type =
        .supl := htype
    rw [hsupl]
    exact err_of_need (hneed _ hset (by decide)) hcall
  · exact err_of_need (hneed _ hset (by decide)) (if_pos (hinject (by decide)))
  · exact err_of_need (hneed _ hset (by decide)) (if_pos (hinject (by decide)))
  · exact err_of_need (hneed _ hset (by decide)) rfl
  · exact err_of_need (hneed _ hset (by decide)) rfl
  · exact err_of_need (hneed _ hset (by decide)) (if_pos (hinject (by decide)))
  · by_cases hsupported : context.constellationEnablement = true
    · have hcall : updateCall s context config GNSS_CONFIG_FLAGS_BLACKLISTED_SV_IDS_BIT =
          .ok (.setBlacklistSvSync (SvAdapter.converted config.blacklistedSvIds).1) :=
        if_pos hsupported
      rw [if_pos hsupported, updateOutcome, hcall]
      rfl
    · have hcall : updateCall s context config GNSS_CONFIG_FLAGS_BLACKLISTED_SV_IDS_BIT =
          .error .notSupported := if_neg hsupported
      rw [if_neg hsupported, updateOutcome, hcall]
      rfl
  · exact err_of_need (hneed _ hset (by decide)) rfl
  · rfl

theorem flags_requested : (s.updateMsg config ids).gnssConfigRequested.flags = config.flags := by
  simp only [ConfigAdapter.updateMsg]
  split <;> rfl

/-- The errors that are reported: those of the counted flags, in the order
of the walk, and SUCCESS in the places that are left. -/
theorem take_gnssUpdateConfig (hids : ids.length = (flagsSet config.flags).length)
    (hserver : config.flags.getLsbD GNSS_CONFIG_FLAGS_SET_ASSISTANCE_DATA_VALID_BIT = true →
      config.assistanceServer.type = .supl) :
    (gnssUpdateConfig context engine (s.updateMsg config ids).gnssConfigRequested
        (s.updateMsg config ids).gnssConfigNeedEngineUpdate ids.length).take ids.length =
      fillSlots .success (flagsSet config.flags).length
        ((walked context config.flags).map (updateOutcome s context config engine)) := by
  have hflags : ∀ flag, (if context.AGPS_CONFIG_INJECT = false then
        { (s.updateMsg config ids).gnssConfigRequested with
          flags := clearFlags (s.updateMsg config ids).gnssConfigRequested.flags agpsFlags }
      else (s.updateMsg config ids).gnssConfigRequested).flags.getLsbD flag =
      (config.flags.getLsbD flag &&
        decide (context.AGPS_CONFIG_INJECT = true ∨ flag ∉ agpsFlags)) := by
    intro flag
    rw [← getLsbD_requested]
    split
    · exact congrArg (fun f => (clearFlags f agpsFlags).getLsbD flag) flags_requested
    · exact congrArg (·.getLsbD flag) flags_requested
  obtain ⟨flags, gpsLock, hrequested, hlock⟩ : ∃ flags gpsLock,
      (if context.AGPS_CONFIG_INJECT = false then
        { (s.updateMsg config ids).gnssConfigRequested with
          flags := clearFlags (s.updateMsg config ids).gnssConfigRequested.flags agpsFlags }
      else (s.updateMsg config ids).gnssConfigRequested) =
        { config with flags := flags, gpsLock := gpsLock } ∧
      (config.flags.getLsbD GNSS_CONFIG_FLAGS_GPS_LOCK_VALID_BIT = true →
        gpsLock = (s.newGpsLock config.gpsLock).1) := by
    split
    · exact ⟨_, requested_eq ids _⟩
    · exact ⟨_, requested_eq ids (s.updateMsg config ids).gnssConfigRequested.flags⟩
  rw [hrequested] at hflags
  have herrs := err_of_flagTests context engine ids flags hserver hlock
  rw [gnssUpdateConfig, hrequested]
  generalize hneed : (s.updateMsg config ids).gnssConfigNeedEngineUpdate = need at herrs
  generalize htests : flagTests context engine { config with flags := flags, gpsLock := gpsLock }
    need = tests at herrs
  have hwalk : (tests.filter (flags.getLsbD ·.flag)).map (·.flag) =
      walked context config.flags := by
    have hcomp : (tests.map (·.flag)).filter flags.getLsbD =
        (tests.filter (flags.getLsbD ·.flag)).map (·.flag) := filter_map
    rw [← hcomp, ← htests, flagTests_flags, walked, funext hflags]
  have hlen : (tests.filter (flags.getLsbD ·.flag)).length ≤ ids.length := by
    rw [hids, ← length_map (·.flag), hwalk]
    exact length_walked_le context config.flags
  have hmap : (tests.filter (flags.getLsbD ·.flag)).map (·.err.getD .success) =
      (walked context config.flags).map (updateOutcome s context config engine) := by
    rw [← hwalk, map_map]
    refine map_congr_left fun t ht => ?_
    have hmem : t.flag ∈ walked context config.flags := hwalk ▸ mem_map_of_mem ht
    exact herrs t (mem_filter.mp ht).1 hmem
  have hfold := foldl_test flags tests [] (by simpa using hlen)
  rw [length_nil, nil_append, nil_append, Nat.sub_zero, hmap] at hfold
  rw [hfold, fillSlots, ← hwalk, length_map, length_map, take_append,
    length_map, length_map, take_replicate, take_of_length_le, hids]
  · congr 2
    omega
  · rw [length_map, length_map]
    exact hlen

end Walk

/-! ## When an update is answered right -/

section Exact

variable {s : ConfigAdapter} {context : ConfigContext} {config : GnssConfig}

theorem updateAnswered_iff_take (hknown : s.engineCapabilitiesKnown = true)
    {engine : EngineCall → LocationError} {ids : List Nat}
    (hids : ids = generateSessionIds (flagsSet config.flags).length s.mSessionIdCounter) :
    UpdateAnswered s context config engine ↔
      (gnssUpdateConfig context engine (s.updateMsg config ids).gnssConfigRequested
          (s.updateMsg config ids).gnssConfigNeedEngineUpdate ids.length).take ids.length =
        (flagsSet config.flags).map (updateOutcome s context config engine) := by
  subst hids
  by_cases hnone : flagsSet config.flags = []
  · simp [UpdateAnswered, ConfigAdapter.gnssUpdateConfigCommand, hnone, generateSessionIds]
  · have hids : generateSessionIds (flagsSet config.flags).length s.mSessionIdCounter ≠ [] := by
      intro hnil
      have hlen := length_generateSessionIds (flagsSet config.flags).length s.mSessionIdCounter
      rw [hnil] at hlen
      exact hnone (length_eq_zero_iff.mp hlen.symm)
    simp only [UpdateAnswered, ConfigAdapter.gnssUpdateConfigCommand, hids, if_false,
      ConfigAdapter.procUpdateConfig, hknown, Bool.true_eq_false, Proc.done.injEq, forall_eq',
      hnone, List.cons.injEq, ControlResponse.collective.injEq, and_true]
    exact and_iff_left (take_of_length_le (Nat.le_refl _))

variable {count : Nat} {err : LocationError}

theorem mem_foldl_test {requested : BitVec 32} {tests : List FlagTest} {l : ErrsList}
    (h : err ∈ (tests.foldl (ErrsList.test count requested) l).errs) :
    err ∈ l.errs ∨ ∃ t ∈ tests, t.err = some err := by
  induction tests generalizing l with
  | nil => exact Or.inl h
  | cons t tests ih =>
    rcases ih h with hl | ⟨t', ht', herr⟩
    · unfold ErrsList.test at hl
      split at hl
      · cases hte : t.err with
        | none =>
          rw [hte] at hl
          exact Or.inl hl
        | some e =>
          rw [hte] at hl
          simp only at hl
          split at hl
          · rcases mem_or_eq_of_mem_set hl with hl | rfl
            · exact Or.inl hl
            · exact Or.inr ⟨t, mem_cons_self, hte⟩
          · exact Or.inl hl
      · exact Or.inl hl
    · exact Or.inr ⟨t', mem_cons_of_mem _ ht', herr⟩

theorem invalidParameter_not_mem {requested need : GnssConfig} :
    LocationError.invalidParameter ∉
      gnssUpdateConfig context (fun _ => .success) requested need count := by
  intro h
  rcases mem_foldl_test h with hinit | ⟨t, ht, herr⟩
  · have heq := eq_of_mem_replicate hinit
    cases heq
  · simp only [flagTests, mem_cons, not_mem_nil, or_false] at ht
    rcases ht with rfl | rfl | rfl | rfl | rfl | rfl | rfl | rfl | rfl | rfl <;>
      dsimp only at herr <;> repeat' split at herr
    all_goals cases herr

/-- The parameter that a call is about. -/
def EngineCall.flag : EngineCall → Nat
  | .setGpsLockSync _ => GNSS_CONFIG_FLAGS_GPS_LOCK_VALID_BIT
  | .setServerSync _ | .setServerIpSync _ _ => GNSS_CONFIG_FLAGS_SET_ASSISTANCE_DATA_VALID_BIT
  | .setSUPLVersionSync _ => GNSS_CONFIG_FLAGS_SUPL_VERSION_VALID_BIT
  | .setLPPConfigSync _ => GNSS_CONFIG_FLAGS_LPP_PROFILE_VALID_BIT
  | .setLPPeProtocolCpSync _ => GNSS_CONFIG_FLAGS_LPPE_CONTROL_PLANE_VALID_BIT
  | .setLPPeProtocolUpSync _ => GNSS_CONFIG_FLAGS_LPPE_USER_PLANE_VALID_BIT
  | .setAGLONASSProtocolSync _ => GNSS_CONFIG_FLAGS_AGLONASS_POSITION_PROTOCOL_VALID_BIT
  | .setBlacklistSvSync _ => GNSS_CONFIG_FLAGS_BLACKLISTED_SV_IDS_BIT
  | .setEmergencyExtensionWindowSync _ => GNSS_CONFIG_FLAGS_EMERGENCY_EXTENSION_SECONDS_BIT
  | .setParameterSync _ | .getParameter => GNSS_CONFIG_FLAGS_MIN_SV_ELEVATION_BIT
  | .getRobustLocationConfig => GNSS_CONFIG_FLAGS_ROBUST_LOCATION_BIT
  | .getMinGpsWeek => GNSS_CONFIG_FLAGS_MIN_GPS_WEEK_BIT

theorem flag_of_updateCall {flag : Nat} {call : EngineCall}
    (h : updateCall s context config flag = .ok call) : call.flag = flag := by
  unfold updateCall at h
  repeat' split at h
  all_goals cases h
  all_goals rfl

theorem flag_of_updateCall_error {flag : Nat} (h : updateCall s context config flag = .error err)
    (herr : err ≠ .success) :
    err = .invalidParameter ∧ flag = GNSS_CONFIG_FLAGS_SET_ASSISTANCE_DATA_VALID_BIT ∧
        config.assistanceServer.type ≠ .supl ∨
      err = .notSupported ∧ flag = GNSS_CONFIG_FLAGS_BLACKLISTED_SV_IDS_BIT := by
  unfold updateCall at h
  repeat' split at h
  all_goals cases h
  all_goals first
    | exact absurd rfl herr
    | exact Or.inr ⟨rfl, rfl⟩
    | exact Or.inl ⟨rfl, rfl, by assumption⟩

theorem counted_of_updateCall {flag : Nat} (h : updateCall s context config flag ≠ .error .success)
    (hserver : flag = GNSS_CONFIG_FLAGS_SET_ASSISTANCE_DATA_VALID_BIT →
      config.assistanceServer.type = .supl) : Counted context flag := by
  unfold updateCall at h
  unfold Counted
  split at h
  case h_3 =>
      rw [if_neg (not_not.mpr (hserver rfl))] at h
      split at h
      · exact ⟨by decide, Or.inl (by assumption)⟩
      · exact absurd rfl h
  case h_11 => exact absurd rfl h
  all_goals first
    | exact ⟨by decide, Or.inr (by decide)⟩
    | (split at h
       · exact ⟨by decide, Or.inl (by assumption)⟩
       · exact absurd rfl h)

/-- Where all is right whatever the engine answers, a parameter with an
answer of its own comes in the walk where its flag comes. -/
theorem idxOf_of_answered
    (hserver : config.flags.getLsbD GNSS_CONFIG_FLAGS_SET_ASSISTANCE_DATA_VALID_BIT = true →
      config.assistanceServer.type = .supl)
    (h : ∀ engine, fillSlots .success (flagsSet config.flags).length
        ((walked context config.flags).map (updateOutcome s context config engine)) =
      (flagsSet config.flags).map (updateOutcome s context config engine))
    {flag : Nat} (hflag : flag ∈ flagsSet config.flags)
    (hcall : updateCall s context config flag ≠ .error .success) :
    (walked context config.flags).idxOf flag = (flagsSet config.flags).idxOf flag := by
  have hcounted : Counted context flag :=
    counted_of_updateCall hcall fun heq => hserver (heq ▸ mem_flagsSet.mp hflag)
  have hwalked := mem_walked.mpr ⟨hflag, hcounted⟩
  -- an engine whose answers no other parameter can have
  cases hf : updateCall s context config flag with
  | ok call =>
    refine idxOf_eq_of_fillSlots (length_walked_le _ _) (nodup_flagsSet _)
      (h fun c => if c = call then .generalFailure else .success) hwalked ?_
    intro other _ hsame
    have hmine : updateOutcome s context config
        (fun c => if c = call then .generalFailure else .success) flag = .generalFailure := by
      simp [updateOutcome, hf]
    rw [hmine] at hsame
    cases ho : updateCall s context config other with
    | ok call' =>
      have heq : call' = call := by
        by_contra hne
        simp [updateOutcome, ho, hne] at hsame
      rw [← flag_of_updateCall ho, heq, flag_of_updateCall hf]
    | error err =>
      simp only [updateOutcome, ho] at hsame
      subst hsame
      rcases flag_of_updateCall_error ho (by decide) with ⟨herr, -⟩ | ⟨herr, -⟩ <;> cases herr
  | error err =>
    have herr : err ≠ .success := fun heq => hcall (heq ▸ hf)
    rcases flag_of_updateCall_error hf herr with ⟨-, rfl, htype⟩ | ⟨rfl, rfl⟩
    · exact absurd (hserver (mem_flagsSet.mp hflag)) htype
    · refine idxOf_eq_of_fillSlots (length_walked_le _ _) (nodup_flagsSet _)
        (h fun _ => .success) hwalked ?_
      intro other hother hsame
      have hmine : updateOutcome s context config (fun _ => .success)
          GNSS_CONFIG_FLAGS_BLACKLISTED_SV_IDS_BIT = .notSupported := by
        simp [updateOutcome, hf]
      rw [hmine] at hsame
      cases ho : updateCall s context config other with
      | ok call => simp [updateOutcome, ho] at hsame
      | error err =>
        simp only [updateOutcome, ho] at hsame
        subst hsame
        rcases flag_of_updateCall_error ho (by decide) with ⟨herr, -⟩ | ⟨-, rfl⟩
        · cases herr
        · rfl

theorem idxOf_supl_version (hinject : context.AGPS_CONFIG_INJECT = true)
    (hversion : flags.getLsbD GNSS_CONFIG_FLAGS_SUPL_VERSION_VALID_BIT = true)
    (hserver : flags.getLsbD GNSS_CONFIG_FLAGS_SET_ASSISTANCE_DATA_VALID_BIT = true) :
    (walked context flags).idxOf GNSS_CONFIG_FLAGS_SUPL_VERSION_VALID_BIT ≠
      (flagsSet flags).idxOf GNSS_CONFIG_FLAGS_SUPL_VERSION_VALID_BIT := by
  obtain ⟨rest, hrest⟩ : ∃ rest, walkFlags = GNSS_CONFIG_FLAGS_GPS_LOCK_VALID_BIT ::
      GNSS_CONFIG_FLAGS_SET_ASSISTANCE_DATA_VALID_BIT ::
        GNSS_CONFIG_FLAGS_SUPL_VERSION_VALID_BIT :: rest := ⟨_, rfl⟩
  obtain ⟨bits, hbits⟩ : ∃ bits, List.range 32 = GNSS_CONFIG_FLAGS_GPS_LOCK_VALID_BIT ::
      GNSS_CONFIG_FLAGS_SUPL_VERSION_VALID_BIT :: bits := ⟨List.range' 2 30, by decide⟩
  rw [walked, flagsSet, hrest, hbits]
  simp only [filter_cons, hversion, hserver, hinject, true_or, decide_true, Bool.and_true, if_true]
  split <;> simp [GNSS_CONFIG_FLAGS_GPS_LOCK_VALID_BIT, GNSS_CONFIG_FLAGS_SUPL_VERSION_VALID_BIT,
    GNSS_CONFIG_FLAGS_SET_ASSISTANCE_DATA_VALID_BIT]

theorem updateAnswered_iff :
    (∀ engine, UpdateAnswered s context config engine) ↔ UpdateInOrder s context config := by
  by_cases hknown : s.engineCapabilitiesKnown = true
  · simp only [updateAnswered_iff_take hknown rfl, UpdateInOrder, hknown, true_implies]
    have hids := length_generateSessionIds (flagsSet config.flags).length s.mSessionIdCounter
    constructor
    · intro h
      have hserver : config.flags.getLsbD GNSS_CONFIG_FLAGS_SET_ASSISTANCE_DATA_VALID_BIT = true →
          config.assistanceServer.type = .supl := by
        intro hset
        by_contra htype
        have hcall : updateCall s context config GNSS_CONFIG_FLAGS_SET_ASSISTANCE_DATA_VALID_BIT =
            .error .invalidParameter := if_pos htype
        have hmem : LocationError.invalidParameter ∈ (flagsSet config.flags).map
            (updateOutcome s context config fun _ => .success) := by
          refine mem_map.mpr ⟨_, mem_flagsSet.mpr hset, ?_⟩
          rw [updateOutcome, hcall]
        rw [← h] at hmem
        exact invalidParameter_not_mem (mem_of_mem_take hmem)
      simp only [take_gnssUpdateConfig hids hserver] at h
      have hswapped : ¬ (context.AGPS_CONFIG_INJECT = true ∧
          config.flags.getLsbD GNSS_CONFIG_FLAGS_SUPL_VERSION_VALID_BIT = true ∧
          config.flags.getLsbD GNSS_CONFIG_FLAGS_SET_ASSISTANCE_DATA_VALID_BIT = true) := by
        rintro ⟨hinject, hversion, hset⟩
        have hcall : updateCall s context config GNSS_CONFIG_FLAGS_SUPL_VERSION_VALID_BIT =
            .ok (.setSUPLVersionSync config.suplVersion) := if_pos hinject
        refine idxOf_supl_version hinject hversion hset
          (idxOf_of_answered hserver h (mem_flagsSet.mpr hversion) ?_)
        rw [hcall]
        intro heq
        cases heq
      refine ⟨hserver, hswapped, ?_⟩
      intro flag hflag hcall
      have hidx := idxOf_of_answered hserver h hflag hcall
      have hcounted := counted_of_updateCall hcall fun heq =>
        hserver (heq ▸ mem_flagsSet.mp hflag)
      rw [walked_eq_filter hswapped] at hidx
      have hbelow := (idxOf_filter_eq_iff (pairwise_flagsSet config.flags)
        (mem_filter.mpr ⟨hflag, decide_eq_true hcounted⟩)).mp hidx
      intro lower hlower hlt
      exact of_decide_eq_true (hbelow lower hlower hlt)
    · rintro ⟨hserver, hswapped, hbelow⟩ engine
      rw [take_gnssUpdateConfig hids hserver]
      refine fillSlots_eq_map (length_walked_le _ _) (nodup_walked _ _) (nodup_flagsSet _)
        (fun flag hflag => (mem_walked.mp hflag).1) ?_
      intro flag hflag hanswer
      have hcall : updateCall s context config flag ≠ .error .success := by
        intro hcall
        rw [updateOutcome, hcall] at hanswer
        exact hanswer rfl
      have hcounted := counted_of_updateCall hcall fun heq =>
        hserver (heq ▸ mem_flagsSet.mp hflag)
      refine ⟨mem_walked.mpr ⟨hflag, hcounted⟩, ?_⟩
      rw [walked_eq_filter hswapped, idxOf_filter_eq_iff (pairwise_flagsSet config.flags)
        (mem_filter.mpr ⟨hflag, decide_eq_true hcounted⟩)]
      intro lower hlower hlt
      exact decide_eq_true (hbelow flag hflag hcall lower hlower hlt)
  · refine ⟨fun _ hk => absurd hk hknown, fun _ engine responses hdone => ?_⟩
    have hparked : s.engineCapabilitiesKnown = false := Bool.eq_false_iff.mpr hknown
    simp only [ConfigAdapter.gnssUpdateConfigCommand, ConfigAdapter.procUpdateConfig, hparked,
      if_true] at hdone
    split at hdone
    · rename_i hids
      have hlen := length_generateSessionIds (flagsSet config.flags).length s.mSessionIdCounter
      rw [hids] at hlen
      rw [if_pos (length_eq_zero_iff.mp hlen.symm)]
      cases hdone
      rfl
    · cases hdone

end Exact

/-! ## What a GET is answered -/

section Get

variable (s : ConfigAdapter) (context : ConfigContext) (engine : EngineCall → LocationError)
  (configMask : BitVec 32)

/-- What becomes of one parameter that is asked for.  A flag that the
adapter does not know has nothing to give. -/
def getOutcome : Nat → LocationError
  | GNSS_CONFIG_FLAGS_BLACKLISTED_SV_IDS_BIT =>
    if context.constellationEnablement = true then .success else .notSupported
  | GNSS_CONFIG_FLAGS_ROBUST_LOCATION_BIT => engine .getRobustLocationConfig
  | GNSS_CONFIG_FLAGS_MIN_GPS_WEEK_BIT => engine .getMinGpsWeek
  | GNSS_CONFIG_FLAGS_MIN_SV_ELEVATION_BIT => engine .getParameter
  | _ => .notSupported

/-- Every id is answered once, in whatever order the responses come, and
with the error of its own parameter. -/
def GetAnswered : Prop :=
  ∀ responses, (s.gnssGetConfigCommand context engine configMask).2 = .done responses →
    (responses.flatMap ControlResponse.answers).Perm
      ((s.gnssGetConfigCommand context engine configMask).1.zip
        ((flagsSet configMask).map (getOutcome context engine)))

/-- The three parameters that are answered one by one. -/
def singleFlags : List Nat :=
  [GNSS_CONFIG_FLAGS_ROBUST_LOCATION_BIT, GNSS_CONFIG_FLAGS_MIN_GPS_WEEK_BIT,
    GNSS_CONFIG_FLAGS_MIN_SV_ELEVATION_BIT]

/-- At most one of these is asked for, and nothing above them. -/
def GetInOrder : Prop :=
  s.engineCapabilitiesKnown = true → (singleFlags.filter configMask.getLsbD).length ≤ 1 ∧
      ∀ flag ∈ flagsSet configMask, flag ≤ GNSS_CONFIG_FLAGS_MIN_SV_ELEVATION_BIT

end Get

section GetExact

variable {s : ConfigAdapter} {context : ConfigContext} {engine : EngineCall → LocationError}
  {configMask : BitVec 32}

/-- The flags above those that are known. -/
def unknownFlags : List Nat := List.range' 15 17

theorem flagsSet_eq (configMask : BitVec 32) :
    flagsSet configMask = ConfigAdapter.getFlags.filter configMask.getLsbD ++
      (singleFlags.filter configMask.getLsbD ++ unknownFlags.filter configMask.getLsbD) := by
  have hrange : List.range 32 = ConfigAdapter.getFlags ++ (singleFlags ++ unknownFlags) := by
    decide
  rw [flagsSet, hrange, filter_append, filter_append]

theorem getOutcome_of_getFlags {flag : Nat} (h : flag ∈ ConfigAdapter.getFlags) :
    getOutcome context engine flag =
      if flag = GNSS_CONFIG_FLAGS_BLACKLISTED_SV_IDS_BIT ∧ context.constellationEnablement = true
      then .success else .notSupported := by
  unfold getOutcome
  split
  case h_1 => simp [GNSS_CONFIG_FLAGS_BLACKLISTED_SV_IDS_BIT]
  case h_5 =>
      rename_i hother _ _ _
      rw [if_neg fun hboth => hother hboth.1]
  all_goals exact absurd h (by decide)

theorem foldl_getTest (context : ConfigContext) (engine : EngineCall → LocationError)
    (flags : List Nat) (errs : List LocationError)
    (hflags : ∀ flag ∈ flags, flag ∈ ConfigAdapter.getFlags)
    (h : errs.length + (flags.filter configMask.getLsbD).length ≤ count) :
    flags.foldl (ConfigAdapter.getTest context configMask count) errs =
      errs ++ (flags.filter configMask.getLsbD).map (getOutcome context engine) := by
  induction flags generalizing errs with
  | nil => simp
  | cons flag flags ih =>
    have hrest : ∀ f ∈ flags, f ∈ ConfigAdapter.getFlags := fun f hf =>
      hflags f (mem_cons_of_mem _ hf)
    rw [foldl_cons]
    by_cases hset : configMask.getLsbD flag = true
    · rw [filter_cons_of_pos hset, length_cons] at h
      have hlt : errs.length < count := by omega
      have hone : ConfigAdapter.getTest context configMask count errs flag =
          errs ++ [getOutcome context engine flag] := by
        rw [getOutcome_of_getFlags (hflags flag mem_cons_self)]
        exact if_pos ⟨hset, hlt⟩
      rw [hone, ih _ hrest (by simpa using by omega), filter_cons_of_pos hset]
      simp
    · rw [filter_cons_of_neg hset] at h ⊢
      have hone : ConfigAdapter.getTest context configMask count errs flag = errs :=
        if_neg fun hboth => hset hboth.1
      rw [hone]
      exact ih errs hrest h

theorem flatMap_single (context : ConfigContext) (id : Nat) :
    ((if configMask.getLsbD GNSS_CONFIG_FLAGS_ROBUST_LOCATION_BIT = true then
          [ControlResponse.single (engine .getRobustLocationConfig) id] else []) ++
        (if configMask.getLsbD GNSS_CONFIG_FLAGS_MIN_GPS_WEEK_BIT = true then
          [ControlResponse.single (engine .getMinGpsWeek) id] else []) ++
        (if configMask.getLsbD GNSS_CONFIG_FLAGS_MIN_SV_ELEVATION_BIT = true then
          [ControlResponse.single (engine .getParameter) id] else [])).flatMap
            ControlResponse.answers =
      (singleFlags.filter configMask.getLsbD).map fun flag =>
        (id, getOutcome context engine flag) := by
  simp only [singleFlags, filter_cons, filter_nil]
  cases configMask.getLsbD GNSS_CONFIG_FLAGS_ROBUST_LOCATION_BIT <;>
    cases configMask.getLsbD GNSS_CONFIG_FLAGS_MIN_GPS_WEEK_BIT <;>
      cases configMask.getLsbD GNSS_CONFIG_FLAGS_MIN_SV_ELEVATION_BIT <;> rfl

variable {ids : List Nat}

theorem procGetConfig_answers (hknown : s.engineCapabilitiesKnown = true)
    (hids : ids.length = (flagsSet configMask).length) {responses : List ControlResponse}
    (h : s.procGetConfig context engine configMask ids = .done responses) :
    responses.flatMap ControlResponse.answers =
      (ids.take (ConfigAdapter.getFlags.filter configMask.getLsbD).length).zip
          ((ConfigAdapter.getFlags.filter configMask.getLsbD).map (getOutcome context engine)) ++
        (singleFlags.filter configMask.getLsbD).map fun flag =>
          (ids.getD (ConfigAdapter.getFlags.filter configMask.getLsbD).length 0,
            getOutcome context engine flag) := by
  have hlen : (ConfigAdapter.getFlags.filter configMask.getLsbD).length ≤ ids.length := by
    rw [hids, flagsSet_eq, length_append]
    exact Nat.le_add_right _ _
  have hfold := foldl_getTest context engine ConfigAdapter.getFlags [] (fun _ hf => hf)
    (by simpa using hlen)
  unfold ConfigAdapter.procGetConfig at h
  simp only [hknown, Bool.true_eq_false, if_false, hfold, nil_append, length_map,
    Proc.done.injEq] at h
  rw [← h, flatMap_cons, flatMap_single context]
  rfl

/-- Where the answers to `mid` all go to the id after those of `low`, and
those to `high` are missing, it is once to each id only if `mid` is one at
most and `high` is empty. -/
theorem perm_zip_iff {α β : Type*} {low mid high : List α} (o : α → β)
    (hids : ids.length = (low ++ (mid ++ high)).length) (hnodup : ids.Nodup) :
    ((ids.take low.length).zip (low.map o) ++ mid.map fun x => (ids.getD low.length 0, o x)).Perm
        (ids.zip ((low ++ (mid ++ high)).map o)) ↔ mid.length ≤ 1 ∧ high = [] := by
  obtain ⟨front, tail, rfl, hfront⟩ : ∃ front tail, ids = front ++ tail ∧
      front.length = low.length := by
    refine ⟨ids.take low.length, ids.drop low.length, (take_append_drop _ _).symm, ?_⟩
    rw [length_take, hids, length_append]
    omega
  have htail : tail.length = (mid ++ high).length := by
    rw [length_append, length_append] at hids
    omega
  have hid : (front ++ tail).getD low.length 0 = tail.getD 0 0 := by
    rw [← hfront, getD_eq_getElem?_getD, List.getElem?_append_right (Nat.le_refl _),
      Nat.sub_self, ← getD_eq_getElem?_getD]
  rw [hid, ← hfront, take_left, map_append, zip_append (by simpa using hfront),
    perm_append_left_iff]
  constructor
  · intro hperm
    have hlen := hperm.length_eq
    rw [length_map, length_zip, length_map, htail, Nat.min_self, length_append] at hlen
    have hfst := hperm.map Prod.fst
    rw [map_map, map_fst_zip (by simp [htail])] at hfst
    have hrep : (mid.map (Prod.fst ∘ fun x => (tail.getD 0 0, o x))).Nodup :=
      hfst.nodup_iff.mpr (nodup_append.mp hnodup).2.1
    have hconst : mid.map (Prod.fst ∘ fun x => (tail.getD 0 0, o x)) =
        List.replicate mid.length (tail.getD 0 0) := map_const' ..
    rw [hconst, nodup_replicate] at hrep
    exact ⟨hrep, length_eq_zero_iff.mp (by omega)⟩
  · rintro ⟨hone, rfl⟩
    rw [append_nil] at htail ⊢
    match mid, tail, htail, hone with
    | [], [], _, _ => exact List.Perm.refl _
    | [x], [id], _, _ => exact List.Perm.refl _

theorem getAnswered_iff :
    (∀ engine, GetAnswered s context engine configMask) ↔ GetInOrder s configMask := by
  have hids := length_generateSessionIds (flagsSet configMask).length s.mSessionIdCounter
  have hnodup := nodup_generateSessionIds (length_flagsSet_le configMask) s.mSessionIdCounter
  by_cases hknown : s.engineCapabilitiesKnown = true
  · have hbits : (∀ flag ∈ flagsSet configMask, flag ≤ GNSS_CONFIG_FLAGS_MIN_SV_ELEVATION_BIT) ↔
        unknownFlags.filter configMask.getLsbD = [] := by
      rw [filter_eq_nil_iff]
      constructor
      · intro h flag hflag hset
        have hle := h flag (mem_flagsSet.mpr hset)
        rw [unknownFlags, mem_range'_1] at hflag
        exact absurd hle (Nat.not_le.mpr hflag.1)
      · intro h flag hflag
        by_contra hgt
        have hset := mem_flagsSet.mp hflag
        have hlt := BitVec.lt_of_getLsbD hset
        have hmem : flag ∈ unknownFlags := by
          rw [unknownFlags, mem_range'_1]
          exact ⟨Nat.lt_of_not_le hgt, hlt⟩
        exact h flag hmem hset
    have hperm : ∀ engine, GetAnswered s context engine configMask ↔
        (singleFlags.filter configMask.getLsbD).length ≤ 1 ∧
          unknownFlags.filter configMask.getLsbD = [] := by
      intro engine
      generalize hgen : generateSessionIds (flagsSet configMask).length s.mSessionIdCounter = ids
        at hids hnodup
      rw [← perm_zip_iff (getOutcome context engine) (flagsSet_eq configMask ▸ hids) hnodup,
        ← flagsSet_eq]
      simp only [GetAnswered, ConfigAdapter.gnssGetConfigCommand, hgen]
      split
      · rename_i hnil
        subst hnil
        have hnone : flagsSet configMask = [] := length_eq_zero_iff.mp hids.symm
        rw [flagsSet_eq, append_eq_nil_iff, append_eq_nil_iff] at hnone
        simp [hnone.1, hnone.2.1]
      · obtain ⟨responses, hdone⟩ : ∃ responses,
            s.procGetConfig context engine configMask ids = .done responses := by
          simp only [ConfigAdapter.procGetConfig, hknown, Bool.true_eq_false, if_false]
          exact ⟨_, rfl⟩
        simp only [hdone, Proc.done.injEq, forall_eq', procGetConfig_answers hknown hids hdone]
    simp only [hperm, GetInOrder, hknown, hbits]
    exact ⟨fun h _ => h fun _ => .success, fun h _ => h trivial⟩
  · refine ⟨fun _ hk => absurd hk hknown, fun _ engine responses hdone => ?_⟩
    have hparked : s.engineCapabilitiesKnown = false := Bool.eq_false_iff.mpr hknown
    simp only [ConfigAdapter.gnssGetConfigCommand, ConfigAdapter.procGetConfig, hparked,
      if_true] at hdone ⊢
    split at hdone
    · rename_i hnil
      cases hdone
      rw [hnil]
      rfl
    · cases hdone

end GetExact

/-! ## Both commands -/

/-- For which flags, states and files the answers are right whatever the
engine says. -/
theorem config_answers_iff (s : ConfigAdapter) (context : ConfigContext) (config : GnssConfig)
    (configMask : BitVec 32) :
    ((∀ engine, UpdateAnswered s context config engine) ↔ UpdateInOrder s context config) ∧
      ((∀ engine, GetAnswered s context engine configMask) ↔ GetInOrder s configMask) :=
  ⟨updateAnswered_iff, getAnswered_iff⟩

/-- An engine that takes everything but the SUPL version. -/
def refusesVersion : EngineCall → LocationError
  | .setSUPLVersionSync _ => .generalFailure
  | _ => .success

def knowing : ConfigAdapter := ⟨true, ⟨7, by decide⟩, 0, false⟩

def injecting : ConfigContext := ⟨true, true, "supl.host:7275", true, true⟩

/-- A SUPL version and an assistance server to be set, of this type. -/
def suplConfig (type : GnssAssistanceType) : GnssConfig :=
  ⟨6, 0, 2, ⟨type, "supl.host", 7275⟩, 0, 0, 0, 0, [], 0, 0⟩

/-- The SUPL version's failure is reported for the server, a server that is
not one for SUPL as set, and two ids of a GET that asks for robust location
and the minimum week are answered as one. -/
theorem config_answers_fail :
    (knowing.gnssUpdateConfigCommand injecting refusesVersion (suplConfig .supl)).2 =
        .done [.collective [.success, .generalFailure] [8, 9]] ∧
      ¬ UpdateAnswered knowing injecting (suplConfig .supl) refusesVersion ∧
      ¬ UpdateAnswered knowing injecting (suplConfig .c2k) (fun _ => .success) ∧
      (knowing.gnssGetConfigCommand injecting (fun _ => .success) 0x3000).2 =
        .done [.collective [] [], .single .success 8, .single .success 8] ∧
      ¬ GetAnswered knowing injecting (fun _ => .success) 0x3000 := by
  refine ⟨by decide, ?_, ?_, by decide, ?_⟩
  · intro h
    exact absurd (h [.collective [.success, .generalFailure] [8, 9]] (by decide)) (by decide)
  · intro h
    exact absurd (h [.collective [.success, .success] [8, 9]] (by decide)) (by decide)
  · intro h
    exact absurd (h [.collective [] [], .single .success 8, .single .success 8] (by decide))
      (by decide)

end LocStack.Gnss
