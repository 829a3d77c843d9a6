/-
# `LocStack.LocApi.SvSignals` — the signals of the satellites in view

What reportSv reads at the place `i` of a report, when `count` satellites of
those in front of it are reported, and the frequency it gives to the one at `i`.
A frequency is in Hz, before it is rounded to a float.
-/
import LocStack.LocApi.UsedSatellites

namespace LocStack.LocApi.UsedSatellites

open Base List QmiLocSvSystem GnssSvType
open MsgConv (GnssSignalTypeBits)

/-- `*_CARRIER_FREQUENCY`, of GLONASS with the channel -/
def frequency (gloFrequency : UInt8) : GnssSignalTypeBits → ℤ
  | .GPS_L2 | .QZSS_L2 => 1227600000
  | .GPS_L5 | .GALILEO_E5A | .BEIDOU_B2AI | .QZSS_L5 | .BEIDOU_B2AQ | .NAVIC_L5 => 1176450000
  | .GLONASS_G1 => 1602000000 + channel 562500
  | .GLONASS_G2 => 1246000000 + channel 437500
  | .GALILEO_E5B | .BEIDOU_B2I => 1207140000
  | .BEIDOU_B1I => 1561098000
  | _ => 1575420000
where
  channel (width : ℤ) : ℤ :=
    if 1 ≤ gloFrequency ∧ gloFrequency ≤ 14 then (gloFrequency.toNat - 8) * width else 0

/-- The cases are those of convertQmiGnssSignalType. -/
def convertSignalTypeToCarrierFrequency (signalType : BitVec 64) (gloFrequency : UInt8) : ℤ :=
  match qmiSignals.lookup signalType with
  | some signal => frequency gloFrequency signal
  | none => 0

def CarrierFrequencies : GnssSvType → ℤ
  | GNSS_SV_TYPE_UNKNOWN => 0
  | GNSS_SV_TYPE_GPS | GNSS_SV_TYPE_SBAS | GNSS_SV_TYPE_QZSS | GNSS_SV_TYPE_GALILEO => 1575420000
  | GNSS_SV_TYPE_GLONASS => 1602000000
  | GNSS_SV_TYPE_BEIDOU => 1561098000
  | GNSS_SV_TYPE_NAVIC => 1176450000

def QMI_LOC_SV_INFO_MASK_VALID_SNR : BitVec 32 := 0x00000080

/-- A report with the channels of the satellites and the length of the losses, and
whether what LOC_LOGv is given is evaluated. -/
structure SvIndication extends SvReport where
  expandedGloFrequency : ℕ → UInt8
  rfLoss_len : Option UInt32
  verbose : Bool

namespace SvIndication

variable (s : SvIndication) (i : ℕ) (count : UInt32) (sv_info : QmiLocSvInfo)

/-- Assigned in front of where it is used, if there are channels; 0 before. -/
def gloFrequency : UInt8 := if s.expandedSvList.isSome then s.expandedGloFrequency i else 0

/-- The test that is taken for whether there is a signal. -/
def available (list : QmiSignalTypeList) : Prop := ¬ count > list.len - 1

instance : Decidable (available count list) := inferInstanceAs (Decidable (¬ _))

def carrierFrequencyHz (type : GnssSvType) : ℤ :=
  match s.gnssSignalTypeList with
  | some list =>
    if available count list ∧ list.elem i ≠ 0 then
      convertSignalTypeToCarrierFrequency (list.elem i) (s.gloFrequency i)
    else 0
  | none => CarrierFrequencies type

def marked : Prop :=
  sv_info.validMask &&& QMI_LOC_SV_INFO_MASK_VALID_SYSTEM ≠ 0 ∧
    sv_info.validMask &&& QMI_LOC_SV_INFO_MASK_VALID_GNSS_SVID ≠ 0 ∧ sv_info.gnssSvId ≠ 0

instance : Decidable (marked sv_info) := inferInstanceAs (Decidable (_ ∧ _))

def identity : Option (GnssSvType × UInt16) :=
  if marked sv_info then svIdentity sv_info.system sv_info.gnssSvId else none

/-- The element `i` of the list of signals is read: to be logged, or for what it is. -/
def readsSignal (list : QmiSignalTypeList) : Prop :=
  marked sv_info ∧ s.verbose ∨ (identity sv_info).isSome ∧ available count list

def readsLoss : Prop :=
  (identity sv_info).isSome ∧ sv_info.validMask &&& QMI_LOC_SV_INFO_MASK_VALID_SNR ≠ 0

/-! ## Turns of the loop -/

/-- The range of the constellation, in the report of the modem. -/
def inRange : QmiLocSvSystem → ℕ → Prop
  | eQMI_LOC_SV_SYSTEM_GPS_V02, id => 1 ≤ id ∧ id ≤ 32
  | eQMI_LOC_SV_SYSTEM_GALILEO_V02, id => 301 ≤ id ∧ id ≤ 336
  | eQMI_LOC_SV_SYSTEM_SBAS_V02, id => 120 ≤ id ∧ id ≤ 191
  | eQMI_LOC_SV_SYSTEM_GLONASS_V02, id => 1 ≤ id ∧ id ≤ 32 ∨ id = 255
  | eQMI_LOC_SV_SYSTEM_BDS_V02, id | eQMI_LOC_SV_SYSTEM_COMPASS_V02, id => 201 ≤ id ∧ id ≤ 263
  | eQMI_LOC_SV_SYSTEM_QZSS_V02, id => 193 ≤ id ∧ id ≤ 197
  | eQMI_LOC_SV_SYSTEM_NAVIC_V02, id => 401 ≤ id ∧ id ≤ 414
  | other _, _ => False

def defaultSignal : QmiLocSvSystem → GnssSignalTypeBits
  | eQMI_LOC_SV_SYSTEM_GALILEO_V02 => .GALILEO_E1
  | eQMI_LOC_SV_SYSTEM_SBAS_V02 => .SBAS_L1
  | eQMI_LOC_SV_SYSTEM_GLONASS_V02 => .GLONASS_G1
  | eQMI_LOC_SV_SYSTEM_BDS_V02 | eQMI_LOC_SV_SYSTEM_COMPASS_V02 => .BEIDOU_B1I
  | eQMI_LOC_SV_SYSTEM_QZSS_V02 => .QZSS_L1CA
  | eQMI_LOC_SV_SYSTEM_NAVIC_V02 => .NAVIC_L5
  | _ => .GPS_L1CA

/-- The signal of the satellite at `i`, and its frequency. -/
def signalOf : BitVec 32 × ℤ :=
  match s.gnssSignalTypeList with
  | some list =>
    if i < list.len.toNat then
      (convertQmiGnssSignalType (list.elem i),
        convertSignalTypeToCarrierFrequency (list.elem i) (s.gloFrequency i))
    else (0, 0)
  | none => (signalBit (defaultSignal sv_info.system), frequency 0 (defaultSignal sv_info.system))

structure Right : Prop where
  reported : (identity sv_info).isSome ↔
    marked sv_info ∧ inRange sv_info.system sv_info.gnssSvId.toNat
  signal : ∀ id ∈ identity sv_info,
    ((s.signal i count sv_info.system).1, s.carrierFrequencyHz i count id.1) = s.signalOf i sv_info
  signalRead : ∀ list ∈ s.gnssSignalTypeList, s.readsSignal count sv_info list → i < list.len.toNat
  lossRead : ∀ len ∈ s.rfLoss_len, readsLoss sv_info → i < len.toNat

/-- Of those that are reported: `i` is in the list of signals, or the list is not
empty and `count` is behind it; there is a default; `i` is in the list of losses. -/
structure Fits : Prop where
  slot : marked sv_info →
    ¬ (sv_info.system = eQMI_LOC_SV_SYSTEM_GLONASS_V02 ∧ sv_info.gnssSvId = 191)
  logged : marked sv_info → s.verbose → ∀ list ∈ s.gnssSignalTypeList, i < list.len.toNat
  listed : (identity sv_info).isSome → ∀ list ∈ s.gnssSignalTypeList,
    i < list.len.toNat ∨ (0 < list.len.toNat ∧ list.len.toNat ≤ count.toNat)
  default : (identity sv_info).isSome → s.gnssSignalTypeList = none →
    sv_info.system ≠ eQMI_LOC_SV_SYSTEM_NAVIC_V02
  lossRead : ∀ len ∈ s.rfLoss_len, readsLoss sv_info → i < len.toNat

variable {s i count sv_info}

theorem svIdentity_isSome_iff {system : QmiLocSvSystem} {id : UInt16} (hid : id ≠ 0) :
    (svIdentity system id).isSome ↔
      inRange system id.toNat ∨ system = eQMI_LOC_SV_SYSTEM_GLONASS_V02 ∧ id = 191 := by
  cases system with
  | eQMI_LOC_SV_SYSTEM_GLONASS_V02 =>
    simp only [svIdentity, Option.isSome_ite]
    by_cases hslot : id = GLO_SV_PRN_SLOT_UNKNOWN
    · subst hslot
      simp [inRange, GLO_SV_PRN_SLOT_UNKNOWN]
    · have hsvId : (id + 65 - 1).toNat = (id.toNat + 64) % 65536 := by
        rw [UInt16.toNat_sub, UInt16.toNat_add]
        simp
        omega
      have hlt := id.toNat_lt
      rw [if_pos hslot]
      simp only [GLO_SV_PRN_SLOT_UNKNOWN, ← UInt16.toNat_inj] at hid hslot
      simp [inRange, UsedSystem.inRange, isValInRangeInclusive, UsedSystem.prnMin,
        UsedSystem.prnMax, GLO_SV_PRN_SLOT_UNKNOWN, ← UInt16.toNat_inj, hsvId] at hid hslot ⊢
      omega
  | other n => simp [svIdentity, inRange]
  | _ =>
    simp only [svIdentity, Option.isSome_ite]
    simp [inRange, UsedSystem.inRange, isValInRangeInclusive, UsedSystem.prnMin,
      UsedSystem.prnMax, SBAS_SV_PRN_MIN, SBAS_SV_PRN_MAX]
    exact decide_eq_true_iff

theorem available_iff {list : QmiSignalTypeList} :
    available count list ↔ list.len.toNat = 0 ∨ count.toNat < list.len.toNat := by
  have hlen := list.len.toNat_lt
  have hcount := count.toNat_lt
  simp only [available, gt_iff_lt, UInt32.lt_iff_toNat_lt, UInt32.toNat_sub]
  simp
  omega

theorem signal_eq (hfits : s.Fits i count sv_info) (hcount : count.toNat ≤ i) {type svId}
    (hid : (type, svId) ∈ identity sv_info) :
    ((s.signal i count sv_info.system).1, s.carrierFrequencyHz i count type) =
      s.signalOf i sv_info := by
  have hsome : (identity sv_info).isSome := Option.isSome_iff_exists.mpr ⟨_, hid⟩
  cases hlist : s.gnssSignalTypeList with
  | none =>
    have hnavic := hfits.default hsome hlist
    have hmark : marked sv_info := by
      by_contra hno
      simp [identity, hno] at hid
    rw [identity, if_pos hmark] at hid
    simp only [SvReport.signal, carrierFrequencyHz, signalOf, hlist]
    cases hsystem : sv_info.system <;>
      simp only [hsystem, svIdentity, Option.mem_def, Option.ite_none_right_eq_some,
        Option.some.injEq, Prod.mk.injEq, reduceCtorEq] at hid hnavic ⊢
    all_goals
      obtain ⟨-, rfl, -⟩ := hid
      first | exact absurd rfl hnavic | exact ⟨rfl, rfl⟩
  | some list =>
    have hzero : convertQmiGnssSignalType 0#64 = 0#32 ∧
        ∀ ch, convertSignalTypeToCarrierFrequency 0#64 ch = 0 := ⟨by decide, fun _ => rfl⟩
    have havail := @available_iff count list
    have hgt : count > list.len - 1 ↔ ¬ available count list := by
      rw [available, not_not]
    simp only [SvReport.signal, carrierFrequencyHz, signalOf, hlist, hgt]
    rcases hfits.listed hsome list hlist with hin | hout
    · have hlt : available count list := havail.mpr (Or.inr (by omega))
      by_cases helem : list.elem i = 0#64 <;> simp [hlt, hin, helem, hzero]
    · have hnot : ¬ available count list := fun h => by
        have hor := havail.mp h
        omega
      simp [hnot, show ¬ i < list.len.toNat by omega]

theorem turn_right_iff (hcount : count.toNat ≤ i) :
    s.Right i count sv_info ↔ s.Fits i count sv_info := by
  have hidentity : marked sv_info → ((identity sv_info).isSome ↔
      inRange sv_info.system sv_info.gnssSvId.toNat ∨
        sv_info.system = eQMI_LOC_SV_SYSTEM_GLONASS_V02 ∧ sv_info.gnssSvId = 191) := fun h => by
    rw [identity, if_pos h, svIdentity_isSome_iff h.2.2]
  constructor
  · intro h
    refine ⟨fun hm hslot => ?_, fun hm hv list hlist => ?_, fun hsome list hlist => ?_,
      fun hsome hnone hnavic => ?_, h.lossRead⟩
    · have hin := (h.reported.mp ((hidentity hm).mpr (Or.inr hslot))).2
      rw [hslot.1, hslot.2] at hin
      exact absurd hin (by simp [inRange])
    · exact h.signalRead list hlist (Or.inl ⟨hm, hv⟩)
    · by_cases havail : available count list
      · exact Or.inl (h.signalRead list hlist (Or.inr ⟨hsome, havail⟩))
      · rw [available_iff] at havail
        omega
    · obtain ⟨id, hid⟩ := Option.isSome_iff_exists.mp hsome
      have hsignal := congrArg Prod.fst (h.signal id hid)
      simp only [SvReport.signal, signalOf, hnone, hnavic] at hsignal
      exact absurd hsignal (by decide)
  · intro h
    refine ⟨?_, fun id hid => signal_eq h hcount hid, fun list hlist hread => ?_, h.lossRead⟩
    · by_cases hm : marked sv_info
      · rw [hidentity hm, or_iff_left (h.slot hm), and_iff_right hm]
      · simp [identity, hm]
    · rcases hread with ⟨hm, hv⟩ | ⟨hsome, havail⟩
      · exact h.logged hm hv list hlist
      · rw [available_iff] at havail
        rcases h.listed hsome list hlist with hin | hout <;> omega

/-! ## Reports -/

/-- The loop of `svLoop`, of which each turn is as `P` says. -/
def Turns (s : SvIndication) (P : ℕ → UInt32 → QmiLocSvInfo → Prop) :
    ℕ → List GnssSv → List QmiLocSvInfo → Prop
  | _, _, [] => True
  | i, found, sv_info :: svs =>
    let count := UInt32.ofNat found.length
    P i count sv_info ∧ Turns s P (i + 1) (found ++ (s.svOne i count sv_info).toList) svs

variable {svs : List QmiLocSvInfo} {found : List GnssSv}

theorem svOne_identity :
    (s.svOne i count sv_info).map (fun sv => (sv.type, sv.svId)) = identity sv_info := by
  unfold identity SvReport.svOne
  by_cases h : marked sv_info
  · have hmarked := h
    unfold marked at hmarked
    rw [if_pos h, if_pos hmarked, Option.map_map]
    exact Option.map_id'
  · have hmarked := h
    unfold marked at hmarked
    rw [if_neg h, if_neg hmarked]
    rfl

theorem svLoop_identity : (s.svLoop i found svs).map (fun sv => (sv.type, sv.svId)) =
    found.map (fun sv => (sv.type, sv.svId)) ++ svs.filterMap identity := by
  induction svs generalizing i found with
  | nil => simp [SvReport.svLoop]
  | cons sv_info svs ih =>
    rw [SvReport.svLoop, ih, map_append, ← Option.toList_map, svOne_identity, append_assoc,
      filterMap_cons]
    cases identity sv_info <;> rfl

theorem turns_right_iff (hfound : found.length ≤ i) :
    Turns s s.Right i found svs ↔ Turns s s.Fits i found svs := by
  induction svs generalizing i found with
  | nil => rfl
  | cons sv_info svs ih =>
    have hcount : (UInt32.ofNat found.length).toNat ≤ i :=
      Nat.le_trans (Nat.mod_le _ _) hfound
    refine and_congr (turn_right_iff hcount) (ih ?_)
    cases s.svOne i (UInt32.ofNat found.length) sv_info <;> simp <;> omega

/-- A list of one signal, and a satellite at 1 behind one that is not valid. -/
def skipped : SvIndication where
  svList := some [⟨0, eQMI_LOC_SV_SYSTEM_GPS_V02, 1, 0⟩, ⟨3, eQMI_LOC_SV_SYSTEM_GPS_V02, 2, 0⟩]
  expandedSvList := none
  gnssSignalTypeList := some ⟨1, fun _ => 1⟩
  expandedGloFrequency := fun _ => 0
  rfLoss_len := none
  verbose := false

end SvIndication

end LocStack.LocApi.UsedSatellites
