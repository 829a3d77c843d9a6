/-
# `LocStack.Gnss.SvIds` — lists of satellites and masks, there and back

    mask      bit b is of the satellite         ids of satellites
    glo       65 + b                            65 to 96
    bds       201 + b                           201 to 263
    qzss      193 + b                           193 to 197
    gal       301 + b                           301 to 336
    sbas      120 + b, from bit 39 on 183 + …   120 to 158, 183 to 191
    navic     401 + b                           401 to 414

A mask with all bits set is the id 0, except for SBAS.  From a mask to a list and
back all is as it was (`convertTo_convertFrom`).  From a list to masks the
conversion checks the width of a mask, from the first id of the range on, and not
the satellites: beyond them bits are set, and the second range of SBAS begins at
bit 39, so that 1ULL is shifted by up to 102 (`svIds_right_iff`).
-/
import LocStack.Base.Masks
import LocStack.Gnss.SvConfig
import Mathlib.Algebra.Group.Nat.Defs

namespace LocStack.Gnss

open Base List

namespace SvMask

def type : SvMask → GnssSvType
  | .glo => .glonass
  | .bds => .beidou
  | .qzss => .qzss
  | .gal => .galileo
  | .sbas => .sbas
  | .navic => .navic

/-- The satellite of a bit. -/
def bitId : SvMask → ℕ → ℕ
  | .glo, b => b + GNSS_SV_CONFIG_GLO_INITIAL_SV_ID
  | .bds, b => b + GNSS_SV_CONFIG_BDS_INITIAL_SV_ID
  | .qzss, b => b + GNSS_SV_CONFIG_QZSS_INITIAL_SV_ID
  | .gal, b => b + GNSS_SV_CONFIG_GAL_INITIAL_SV_ID
  | .sbas, b =>
    if GNSS_SV_CONFIG_SBAS_INITIAL_SV_LENGTH ≤ b then
      b - GNSS_SV_CONFIG_SBAS_INITIAL_SV_LENGTH + GNSS_SV_CONFIG_SBAS_INITIAL2_SV_ID
    else b + GNSS_SV_CONFIG_SBAS_INITIAL_SV_ID
  | .navic, b => b + GNSS_SV_CONFIG_NAVIC_INITIAL_SV_ID

/-- The ids that there are, as documented for `svId` of GnssSv. -/
def Valid : SvMask → ℕ → Prop
  | .glo, id => 65 ≤ id ∧ id ≤ 96
  | .bds, id => 201 ≤ id ∧ id ≤ 263
  | .qzss, id => 193 ≤ id ∧ id ≤ 197
  | .gal, id => 301 ≤ id ∧ id ≤ 336
  | .sbas, id => (120 ≤ id ∧ id ≤ 158) ∨ (183 ≤ id ∧ id ≤ 191)
  | .navic, id => 401 ≤ id ∧ id ≤ 414

variable {m m' : SvMask} {b b' id : ℕ}

theorem type_inj (h : m.type = m'.type) : m = m' := by
  cases m <;> cases m' <;> first | rfl | cases h

theorem bitId_inj (h : m.bitId b = m.bitId b') : b = b' := by
  cases m <;> simp only [bitId, GNSS_SV_CONFIG_SBAS_INITIAL_SV_LENGTH,
    GNSS_SV_CONFIG_SBAS_INITIAL_SV_ID, GNSS_SV_CONFIG_SBAS_INITIAL2_SV_ID] at h <;> grind

theorem bitId_lt (hb : b < 64) : m.bitId b < 2 ^ 32 := by
  cases m <;> simp only [bitId] <;> first | split <;> decide +revert | decide +revert

theorem bitId_pos : 0 < m.bitId b := by
  cases m <;> simp only [bitId] <;> first | split <;> exact Nat.succ_pos _ | exact Nat.succ_pos _

theorem Valid.exists_bit (h : m.Valid id) : ∃ b < 64, m.bitId b = id := by
  cases m with
  | sbas =>
    rcases h with h | h
    · have hlt : id - 120 < GNSS_SV_CONFIG_SBAS_INITIAL_SV_LENGTH := show _ < 39 by omega
      refine ⟨id - 120, by omega, ?_⟩
      rw [bitId, if_neg (Nat.not_le_of_lt hlt)]
      exact Nat.sub_add_cancel h.1
    · have hle : GNSS_SV_CONFIG_SBAS_INITIAL_SV_LENGTH ≤ id - 144 := show 39 ≤ _ by omega
      have hid : id - 144 - 39 + 183 = id := by omega
      refine ⟨id - 144, by omega, ?_⟩
      rw [bitId, if_pos hle]
      exact hid
  | _ => exact ⟨_, Nat.sub_lt_left_of_lt_add h.1 (Nat.lt_of_le_of_lt h.2 (by decide)),
      Nat.sub_add_cancel h.1⟩

theorem not_valid_last : ¬ m.Valid (m.bitId 63) := by
  cases m <;> simp only [Valid, bitId] <;> decide

/-- As `convertGnssSvIdMaskToList` makes them. -/
def entry (m : SvMask) (b : ℕ) : GnssSvIdSource :=
  ⟨GnssSvIdSource.sizeof, m.type, (m.bitId b).toUInt32⟩

theorem svId_entry (hb : b < 64) : (m.entry b).svId.toNat = m.bitId b :=
  Nat.mod_eq_of_lt (bitId_lt hb)

end SvMask

namespace GnssSvIdConfig

variable {config : GnssSvIdConfig} {sources : List GnssSvIdSource} {s e : GnssSvIdSource}
  {m : SvMask} {b : ℕ}

/-! ## To masks -/

theorem get_set (config : GnssSvIdConfig) (m m' : SvMask) (bits : BitVec 64) :
    (config.set m bits).get m' = if m' = m then bits else config.get m' := by
  cases m <;> cases m' <;> rfl

theorem getLsbD_allBits (hb : b < 64) :
    GNSS_SV_CONFIG_ALL_BITS_ENABLED_MASK.getLsbD b = true :=
  (BitVec.getLsbD_allOnes (v := 64)).trans (decide_eq_true hb)

/-- The source is for that bit: by its id, or by the id 0. -/
def IsFor (s : GnssSvIdSource) (m : SvMask) (b : ℕ) : Prop :=
  s.constellation = m.type ∧ (s.svId.toNat = 0 ∨ s.svId.toNat = m.bitId b)

variable {initialSvId svIndexOffset : ℕ}

theorem svMaskPtr_some (h : svMaskPtr s = some (m, initialSvId, svIndexOffset)) :
    s.constellation = m.type ∧ (s.svId.toNat ≠ 0 → ∀ b < 64, (s.svId.toNat = m.bitId b ↔
        ¬ (s.svId.toNat < initialSvId ∨ initialSvId + 64 ≤ s.svId.toNat) ∧
          s.svId.toNat + svIndexOffset - initialSvId = b)) := by
  unfold svMaskPtr at h
  cases hc : s.constellation with
  | sbas =>
    simp only [hc] at h
    simp only [GNSS_SV_CONFIG_SBAS_INITIAL2_SV_ID, GNSS_SV_CONFIG_SBAS_INITIAL_SV_ID,
      GNSS_SV_CONFIG_SBAS_INITIAL_SV_LENGTH] at h
    grind [SvMask.bitId, SvMask.type, GNSS_SV_CONFIG_SBAS_INITIAL2_SV_ID,
      GNSS_SV_CONFIG_SBAS_INITIAL_SV_ID, GNSS_SV_CONFIG_SBAS_INITIAL_SV_LENGTH]
  | unknown => simp [hc] at h
  | gps => simp [hc] at h
  | _ =>
    simp only [hc, Option.some.injEq, Prod.mk.injEq] at h
    obtain ⟨rfl, rfl, rfl⟩ := h
    refine ⟨rfl, fun _ b hb => ?_⟩
    simp only [SvMask.bitId]
    omega

theorem not_isFor_of_svMaskPtr (h : svMaskPtr s = none) : ¬ IsFor s m b := by
  unfold svMaskPtr at h
  rintro ⟨hc, hid⟩
  cases m with
  | sbas =>
    simp only [hc, SvMask.type] at h
    grind [SvMask.bitId, GNSS_SV_CONFIG_SBAS_INITIAL2_SV_ID,
      GNSS_SV_CONFIG_SBAS_INITIAL_SV_ID, GNSS_SV_CONFIG_SBAS_INITIAL_SV_LENGTH]
  | _ => simp [hc, SvMask.type] at h

theorem getLsbD_blacklistSource (config : GnssSvIdConfig) (hb : b < 64) :
    ((blacklistSource config s).get m).getLsbD b = true ↔
      (config.get m).getLsbD b = true ∨ IsFor s m b := by
  unfold blacklistSource
  cases hptr : svMaskPtr s with
  | none => exact (or_iff_left (not_isFor_of_svMaskPtr hptr)).symm
  | some found =>
    obtain ⟨m', initialSvId, svIndexOffset⟩ := found
    obtain ⟨hc, hid⟩ := svMaskPtr_some hptr
    have hm : IsFor s m b ↔ m = m' ∧ (s.svId.toNat = 0 ∨ s.svId.toNat = m'.bitId b) := by
      unfold IsFor
      rw [hc]
      constructor
      · rintro ⟨htype, h⟩
        obtain rfl := SvMask.type_inj htype
        exact ⟨rfl, h⟩
      · rintro ⟨rfl, h⟩
        exact ⟨rfl, h⟩
    rw [hm]
    by_cases hzero : s.svId.toNat = 0
    · simp only [hzero, if_true, true_or, and_true]
      rw [get_set]
      split
      · simpa [*] using getLsbD_allBits hb
      · simp [*]
    · simp only [hzero, if_false, false_or]
      rw [hid hzero b hb]
      by_cases hout : s.svId.toNat < initialSvId ∨ initialSvId + 64 ≤ s.svId.toNat
      · simp [hout]
      · simp only [hout, if_false, not_false_iff, true_and]
        rw [get_set]
        split
        · next heq =>
            rw [BitVec.getLsbD_or, Bool.or_eq_true, heq]
            refine or_congr_right ?_
            change (BitVec.twoPow 64 _).getLsbD b = true ↔ _
            simp [hb]
            omega
        · simp [*]

theorem getLsbD_convertTo (sources : List GnssSvIdSource) (m : SvMask) (hb : b < 64) :
    ((zero.convertToGnssSvIdConfig sources).1.get m).getLsbD b = true ↔
      ∃ s ∈ sources, IsFor s m b := by
  have hfold : ∀ config : GnssSvIdConfig,
      ((sources.foldl blacklistSource config).get m).getLsbD b = true ↔
        (config.get m).getLsbD b = true ∨ ∃ s ∈ sources, IsFor s m b := by
    induction sources with
    | nil => simp
    | cons s sources ih =>
      intro config
      rw [foldl_cons, ih, getLsbD_blacklistSource config hb, or_assoc, exists_mem_cons_iff]
  have hzero : (({ zero with size := sizeof } : GnssSvIdConfig).get m).getLsbD b = false := by
    cases m <;> exact BitVec.getLsbD_zero
  cases sources with
  | nil =>
    refine iff_of_false (fun h => ?_) (fun ⟨_, hmem, _⟩ => not_mem_nil hmem)
    exact Bool.false_ne_true (hzero.symm.trans h)
  | cons s sources =>
    refine (hfold { zero with size := sizeof }).trans (or_iff_right fun h => ?_)
    exact Bool.false_ne_true (hzero.symm.trans h)

theorem size_convertTo (sources : List GnssSvIdSource) :
    (zero.convertToGnssSvIdConfig sources).1.size = sizeof := by
  have hturn : ∀ (config : GnssSvIdConfig) (s : GnssSvIdSource),
      (blacklistSource config s).size = config.size := by
    have hset : ∀ (config : GnssSvIdConfig) (m : SvMask) (bits : BitVec 64),
        (config.set m bits).size = config.size := by
      intro config m bits
      cases m <;> rfl
    intro config s
    unfold blacklistSource
    split
    · rfl
    · simp only []
      split
      · exact hset ..
      · split
        · rfl
        · exact hset ..
  have hfold : ∀ (sources : List GnssSvIdSource) (config : GnssSvIdConfig),
      (sources.foldl blacklistSource config).size = config.size := by
    intro sources
    induction sources with
    | nil => exact fun _ => rfl
    | cons s sources ih => exact fun config => (ih _).trans (hturn config s)
  cases sources with
  | nil => rfl
  | cons s sources => exact hfold (s :: sources) { zero with size := sizeof }

/-! ## To lists -/

/-- The satellite of the bit `n` in the loop. -/
def turnId (initialSvId : ℕ) (svType : GnssSvType) (n : ℕ) : ℕ :=
  if svType = .sbas ∧ GNSS_SV_CONFIG_SBAS_INITIAL_SV_LENGTH ≤ n then
    n - GNSS_SV_CONFIG_SBAS_INITIAL_SV_LENGTH + GNSS_SV_CONFIG_SBAS_INITIAL2_SV_ID
  else n + initialSvId

theorem mem_maskBits (initialSvId : ℕ) (svType : GnssSvType) (turns n : ℕ) (bits : BitVec 64) :
    e ∈ maskBits initialSvId svType turns n bits ↔ ∃ i < turns, bits.getLsbD i = true ∧
        e = ⟨GnssSvIdSource.sizeof, svType, (turnId initialSvId svType (n + i)).toUInt32⟩ := by
  induction turns generalizing n bits with
  | zero => simp [maskBits]
  | succ turns ih =>
    unfold maskBits
    split
    · next hzero => simp [hzero]
    · have hbit : bits &&& 1#64 ≠ 0 ↔ bits.getLsbD 0 = true :=
        and_twoPow_ne_zero (k := 0) bits (by decide)
      rw [mem_append, ih]
      simp only [hbit, BitVec.getLsbD_ushiftRight, Nat.add_assoc]
      constructor
      · rintro (h | ⟨i, hi, hset, rfl⟩)
        · split at h
          · next hset => exact ⟨0, Nat.succ_pos _, hset, mem_singleton.mp h⟩
          · cases h
        · exact ⟨1 + i, by omega, hset, rfl⟩
      · rintro ⟨i, hi, hset, rfl⟩
        cases i with
        | zero => exact .inl (by rw [if_pos hset]; exact mem_singleton.mpr rfl)
        | succ i =>
          rw [Nat.add_comm i 1] at hset ⊢
          exact .inr ⟨i, Nat.lt_of_succ_lt_succ hi, hset, rfl⟩

/-- What is listed for a mask of these bits. -/
def Listed (m : SvMask) (bits : BitVec 64) (e : GnssSvIdSource) : Prop :=
  if m ≠ .sbas ∧ bits = GNSS_SV_CONFIG_ALL_BITS_ENABLED_MASK then
    e = ⟨GnssSvIdSource.sizeof, m.type, 0⟩
  else ∃ b < 64, bits.getLsbD b = true ∧ e = m.entry b

theorem mem_plain (hm : m ≠ .sbas) (hid : ∀ b, m.bitId b = b + initialSvId) (bits : BitVec 64) :
    e ∈ (if bits ≠ 0 then convertGnssSvIdMaskToList bits initialSvId m.type else []) ↔
      Listed m bits e := by
  have htype : m.type ≠ .sbas := fun h => hm (SvMask.type_inj h)
  unfold Listed convertGnssSvIdMaskToList
  by_cases hzero : bits = 0
  · subst hzero
    have hall : 0#64 ≠ GNSS_SV_CONFIG_ALL_BITS_ENABLED_MASK := by decide
    simp [hall]
  · by_cases hall : bits = GNSS_SV_CONFIG_ALL_BITS_ENABLED_MASK
    · rw [if_pos hzero, if_pos hall, if_pos ⟨hm, hall⟩, mem_singleton]
    · rw [if_pos hzero, if_neg hall, if_neg fun h => hall h.2, mem_maskBits]
      simp only [turnId, htype, false_and, if_false, SvMask.entry, hid, Nat.zero_add]

theorem turnId_first (b : ℕ) :
    turnId GNSS_SV_CONFIG_SBAS_INITIAL_SV_ID .sbas b = SvMask.sbas.bitId b := by
  simp only [turnId, SvMask.bitId, true_and]

theorem turnId_second (hb : b < 25) :
    turnId GNSS_SV_CONFIG_SBAS_INITIAL2_SV_ID .sbas b = SvMask.sbas.bitId (39 + b) := by
  have hlt : ¬ GNSS_SV_CONFIG_SBAS_INITIAL_SV_LENGTH ≤ b :=
    Nat.not_le_of_lt (Nat.lt_trans hb (by decide))
  have hle : GNSS_SV_CONFIG_SBAS_INITIAL_SV_LENGTH ≤ 39 + b := Nat.le_add_right ..
  rw [turnId, SvMask.bitId, if_neg fun h => hlt h.2, if_pos hle]
  exact congrArg (· + _) (Nat.add_sub_cancel_left ..).symm

theorem mem_sbas (sbas : BitVec 64) : e ∈ (if sbas ≠ 0 then
        convertGnssSvIdMaskToList (sbas <<< 25 >>> 25) GNSS_SV_CONFIG_SBAS_INITIAL_SV_ID .sbas ++
        convertGnssSvIdMaskToList (sbas >>> 39) GNSS_SV_CONFIG_SBAS_INITIAL2_SV_ID .sbas
      else []) ↔ Listed .sbas sbas e := by
  have hall : ∀ bits : BitVec 64, bits.getLsbD 63 = false →
      bits ≠ GNSS_SV_CONFIG_ALL_BITS_ENABLED_MASK := by
    rintro _ hbit rfl
    cases hbit
  have hfirst : ∀ b < 64, (sbas <<< 25 >>> 25).getLsbD b = true ↔
      b < 39 ∧ sbas.getLsbD b = true := by
    intro b hb
    rw [BitVec.getLsbD_ushiftRight, BitVec.getLsbD_shiftLeft, Nat.add_sub_cancel_left]
    simp only [Bool.and_eq_true, decide_eq_true_iff, Bool.not_eq_true', decide_eq_false_iff_not]
    exact and_congr_left' (by omega)
  have hsbas : ¬ (SvMask.sbas ≠ .sbas ∧ sbas = GNSS_SV_CONFIG_ALL_BITS_ENABLED_MASK) :=
    fun h => h.1 rfl
  unfold Listed convertGnssSvIdMaskToList
  rw [if_neg (hall (sbas <<< 25 >>> 25) (by simp)), if_neg (hall (sbas >>> 39) (by simp)),
    if_neg hsbas]
  by_cases hzero : sbas = 0
  · subst hzero
    simp
  · rw [if_pos hzero, mem_append, mem_maskBits, mem_maskBits]
    simp only [Nat.zero_add, BitVec.getLsbD_ushiftRight]
    constructor
    · rintro (⟨b, hb, hbit, rfl⟩ | ⟨b, hb, hbit, rfl⟩)
      · rw [turnId_first]
        exact ⟨b, hb, ((hfirst b hb).mp ((BitVec.getLsbD_ushiftRight ..).trans hbit)).2, rfl⟩
      · have hlt : 39 + b < 64 := BitVec.lt_of_getLsbD hbit
        rw [turnId_second (by omega)]
        exact ⟨39 + b, hlt, hbit, rfl⟩
    · rintro ⟨b, hb, hbit, rfl⟩
      rcases Nat.lt_or_ge b 39 with hlt | hge
      · refine .inl ⟨b, hb, ?_, by rw [turnId_first]; rfl⟩
        exact (BitVec.getLsbD_ushiftRight ..).symm.trans ((hfirst b hb).mpr ⟨hlt, hbit⟩)
      · obtain ⟨b, rfl⟩ := Nat.exists_eq_add_of_le hge
        exact .inr ⟨b, by omega, hbit, by rw [turnId_second (by omega)]; rfl⟩

theorem mem_convertFrom (config : GnssSvIdConfig) :
    e ∈ config.convertFromGnssSvIdConfig ↔ ∃ m, Listed m (config.get m) e := by
  have hmasks : (∃ m, Listed m (config.get m) e) ↔
      ((((Listed .bds config.bdsBlacklistSvMask e ∨ Listed .gal config.galBlacklistSvMask e) ∨
        Listed .glo config.gloBlacklistSvMask e) ∨ Listed .qzss config.qzssBlacklistSvMask e) ∨
        Listed .sbas config.sbasBlacklistSvMask e) ∨
        Listed .navic config.navicBlacklistSvMask e := by
    constructor
    · rintro ⟨m, h⟩
      cases m <;> simp only [get] at h <;> simp only [h, true_or, or_true]
    · rintro (((((h | h) | h) | h) | h) | h)
      exacts [⟨.bds, h⟩, ⟨.gal, h⟩, ⟨.glo, h⟩, ⟨.qzss, h⟩, ⟨.sbas, h⟩, ⟨.navic, h⟩]
  rw [hmasks]
  unfold convertFromGnssSvIdConfig
  simp only [mem_append (a := e)]
  exact or_congr (or_congr (or_congr (or_congr (or_congr
    (mem_plain (m := .bds) (by decide) (fun _ => rfl) _)
    (mem_plain (m := .gal) (by decide) (fun _ => rfl) _))
    (mem_plain (m := .glo) (by decide) (fun _ => rfl) _))
    (mem_plain (m := .qzss) (by decide) (fun _ => rfl) _))
    (mem_sbas _)) (mem_plain (m := .navic) (by decide) (fun _ => rfl) _)

/-! ## There and back -/

theorem exists_listed_iff (config : GnssSvIdConfig) (m : SvMask) (hb : b < 64) :
    (∃ e ∈ config.convertFromGnssSvIdConfig, IsFor e m b) ↔
      (config.get m).getLsbD b = true := by
  constructor
  · rintro ⟨e, he, htype, hid⟩
    obtain ⟨m', hlisted⟩ := (mem_convertFrom config).mp he
    unfold Listed at hlisted
    split at hlisted
    · next hall =>
        subst hlisted
        obtain rfl := SvMask.type_inj htype
        rw [hall.2]
        exact getLsbD_allBits hb
    · obtain ⟨b', hb', hbit, rfl⟩ := hlisted
      obtain rfl := SvMask.type_inj htype
      rw [SvMask.svId_entry hb'] at hid
      rwa [← SvMask.bitId_inj (hid.resolve_left (Nat.ne_of_gt SvMask.bitId_pos))]
  · intro hbit
    by_cases hall : m ≠ .sbas ∧ config.get m = GNSS_SV_CONFIG_ALL_BITS_ENABLED_MASK
    · exact ⟨_, (mem_convertFrom config).mpr ⟨m, (if_pos hall).mpr rfl⟩, rfl, .inl rfl⟩
    · exact ⟨m.entry b, (mem_convertFrom config).mpr ⟨m, (if_neg hall).mpr ⟨b, hb, hbit, rfl⟩⟩,
        rfl, .inr (SvMask.svId_entry hb)⟩

/-- All masks are as they were, when their list is converted back. -/
theorem convertTo_convertFrom (config : GnssSvIdConfig) :
    (zero.convertToGnssSvIdConfig config.convertFromGnssSvIdConfig).1 =
      { config with size := sizeof } := by
  refine ext_get.mpr ⟨?_, fun m => BitVec.eq_of_getLsbD_eq fun b hb => Bool.eq_iff_iff.mpr ?_⟩
  · exact size_convertTo _
  · rw [getLsbD_convertTo _ m hb, exists_listed_iff config m hb]
    cases m <;> rfl

/-! ## Lists of satellites -/

/-- The source is for a satellite, or with the id 0 for all. -/
def Names (s : GnssSvIdSource) (m : SvMask) (id : ℕ) : Prop :=
  s.constellation = m.type ∧ if s.svId.toNat = 0 then m.Valid id else s.svId.toNat = id

/-- The id is in the window of its range, and a bit is set. -/
def Passes (s : GnssSvIdSource) : Prop :=
  ∃ found ∈ svMaskPtr s, found.2.1 ≤ s.svId.toNat ∧ s.svId.toNat < found.2.1 + 64

/-- No shift is too wide, no bit set for another id than that of a satellite, and
what is read back are the satellites of the list. -/
structure Right (sources : List GnssSvIdSource) : Prop where
  shifts : ∀ s ∈ sources, s.svId.toNat ≠ 0 → ∀ found ∈ svMaskPtr s,
    found.2.1 ≤ s.svId.toNat → s.svId.toNat < found.2.1 + 64 →
      s.svId.toNat + found.2.2 - found.2.1 < 64
  bits : ∀ m : SvMask, ∀ b < 64, ((zero.convertToGnssSvIdConfig sources).1.get m).getLsbD b = true →
    ∃ s ∈ sources, IsFor s m b ∧ (s.svId.toNat = 0 ∨ m.Valid s.svId.toNat)
  back : ∀ m id, (∃ e ∈ (zero.convertToGnssSvIdConfig sources).1.convertFromGnssSvIdConfig,
    Names e m id) ↔ m.Valid id ∧ ∃ s ∈ sources, Names s m id

/-- SBAS is not there as a whole, and an id that passes is one of a satellite, or
all of its constellation is there, which is not SBAS. -/
structure Fits (sources : List GnssSvIdSource) : Prop where
  sbas : ∀ s ∈ sources, s.constellation = .sbas → s.svId.toNat ≠ 0
  valid : ∀ s ∈ sources, ∀ m : SvMask, s.constellation = m.type → s.svId.toNat ≠ 0 → Passes s →
    m.Valid s.svId.toNat ∨
      m ≠ .sbas ∧ ∃ all ∈ sources, all.constellation = m.type ∧ all.svId.toNat = 0

theorem offset_of_ne (h : svMaskPtr s = some (m, initialSvId, svIndexOffset)) (hm : m ≠ .sbas) :
    svIndexOffset = 0 := by
  unfold svMaskPtr at h
  cases hc : s.constellation <;> simp only [hc] at h <;> grind

theorem IsFor.passes (h : IsFor s m b) (hb : b < 64) (hs : s.svId.toNat ≠ 0) : Passes s := by
  cases hptr : svMaskPtr s with
  | none => exact absurd h (not_isFor_of_svMaskPtr hptr)
  | some found =>
    obtain ⟨m', initialSvId, svIndexOffset⟩ := found
    obtain ⟨hc, hid⟩ := svMaskPtr_some hptr
    obtain rfl := SvMask.type_inj (h.1.symm.trans hc)
    have hwindow := ((hid hs b hb).mp (h.2.resolve_left hs)).1
    exact ⟨_, hptr, Nat.le_of_not_lt fun h => hwindow (.inl h),
      Nat.lt_of_not_le fun h => hwindow (.inr h)⟩

theorem get_eq_all {all : GnssSvIdSource} (hall : all ∈ sources)
    (htype : all.constellation = m.type) (hid : all.svId.toNat = 0) :
    (zero.convertToGnssSvIdConfig sources).1.get m = GNSS_SV_CONFIG_ALL_BITS_ENABLED_MASK := by
  refine BitVec.eq_of_getLsbD_eq fun b hb => ?_
  rw [getLsbD_allBits hb]
  exact (getLsbD_convertTo sources m hb).mpr ⟨all, hall, htype, .inl hid⟩

theorem Right.fits (h : Right sources) : Fits sources := by
  have hsbas : ∀ s ∈ sources, s.constellation = .sbas → s.svId.toNat ≠ 0 := by
    intro s hs hc hid
    have hbit := (getLsbD_convertTo sources .sbas (b := 48) (by decide)).mpr ⟨s, hs, hc, .inl hid⟩
    have hlisted : Listed .sbas ((zero.convertToGnssSvIdConfig sources).1.get .sbas)
        (SvMask.sbas.entry 48) :=
      (if_neg fun h => h.1 rfl).mpr ⟨48, by decide, hbit, rfl⟩
    have hnames : Names (SvMask.sbas.entry 48) .sbas 192 := ⟨rfl, rfl⟩
    have hvalid := ((h.back .sbas 192).mp ⟨_, (mem_convertFrom _).mpr ⟨_, hlisted⟩, hnames⟩).1
    rcases hvalid with hvalid | hvalid <;> omega
  refine ⟨hsbas, ?_⟩
  rintro s hs m hc hid ⟨⟨m', initialSvId, svIndexOffset⟩, hptr, hle, hlt⟩
  obtain ⟨hc', hbits⟩ := svMaskPtr_some hptr
  obtain rfl := SvMask.type_inj (hc.symm.trans hc')
  have hb := h.shifts s hs hid _ hptr hle hlt
  have hown := (hbits hid _ hb).mpr ⟨not_or.mpr ⟨Nat.not_lt_of_le hle, Nat.not_le_of_lt hlt⟩, rfl⟩
  obtain ⟨s', hs', ⟨htype, hfor⟩, hok⟩ := h.bits m _ hb
    ((getLsbD_convertTo sources m hb).mpr ⟨s, hs, hc, .inr hown⟩)
  by_cases hzero : s'.svId.toNat = 0
  · refine .inr ⟨?_, s', hs', htype, hzero⟩
    rintro rfl
    exact hsbas s' hs' htype hzero
  · left
    rw [hown, ← hfor.resolve_left hzero]
    exact hok.resolve_left hzero

theorem Fits.right (h : Fits sources) : Right sources := by
  have hbits : ∀ m : SvMask, ∀ b < 64,
      ((zero.convertToGnssSvIdConfig sources).1.get m).getLsbD b = true →
        ∃ s ∈ sources, IsFor s m b ∧ (s.svId.toNat = 0 ∨ m.Valid s.svId.toNat) := by
    intro m b hb hbit
    obtain ⟨s, hs, hfor⟩ := (getLsbD_convertTo sources m hb).mp hbit
    by_cases hzero : s.svId.toNat = 0
    · exact ⟨s, hs, hfor, .inl hzero⟩
    · rcases h.valid s hs m hfor.1 hzero (hfor.passes hb hzero) with
        hvalid | ⟨-, all, hall, hc, hid⟩
      · exact ⟨s, hs, hfor, .inr hvalid⟩
      · exact ⟨all, hall, ⟨hc, .inl hid⟩, .inl hid⟩
  refine ⟨?_, hbits, fun m id => ⟨?_, ?_⟩⟩
  · rintro s hs hid ⟨m, initialSvId, svIndexOffset⟩ hptr hle hlt
    obtain ⟨hc, hown⟩ := svMaskPtr_some hptr
    rcases h.valid s hs m hc hid ⟨_, hptr, hle, hlt⟩ with hvalid | ⟨hm, -⟩
    · obtain ⟨b, hb, hbid⟩ := hvalid.exists_bit
      exact ((hown hid b hb).mp hbid.symm).2 ▸ hb
    · have hoffset := offset_of_ne hptr hm
      simp only at hle hlt hoffset ⊢
      omega
  · rintro ⟨e, he, hc, hid⟩
    obtain ⟨m', hlisted⟩ := (mem_convertFrom _).mp he
    unfold Listed at hlisted
    split at hlisted
    · next hall =>
        subst hlisted
        obtain rfl := SvMask.type_inj hc
        obtain ⟨s, hs, hfor, hok⟩ := hbits m' 63 (by decide)
          (hall.2 ▸ getLsbD_allBits (b := 63) (by decide))
        have hzero : s.svId.toNat = 0 := by
          by_contra hne
          refine SvMask.not_valid_last (m := m') ?_
          rw [← hfor.2.resolve_left hne]
          exact hok.resolve_left hne
        exact ⟨hid, s, hs, hfor.1, (if_pos hzero).mpr hid⟩
    · next hall =>
        obtain ⟨b, hb, hbit, rfl⟩ := hlisted
        obtain rfl := SvMask.type_inj hc
        rw [SvMask.svId_entry hb, if_neg (Nat.ne_of_gt SvMask.bitId_pos)] at hid
        obtain ⟨s, hs, hfor, hok⟩ := hbits m' b hb hbit
        have hne : s.svId.toNat ≠ 0 := by
          intro hzero
          refine hall ⟨?_, get_eq_all hs hfor.1 hzero⟩
          rintro rfl
          exact h.sbas s hs hfor.1 hzero
        have hown : s.svId.toNat = id := (hfor.2.resolve_left hne).trans hid
        exact ⟨hown ▸ hok.resolve_left hne, s, hs, hfor.1, (if_neg hne).mpr hown⟩
  · rintro ⟨hvalid, s, hs, hc, hid⟩
    obtain ⟨b, hb, rfl⟩ := hvalid.exists_bit
    have hfor : IsFor s m b := by
      refine ⟨hc, ?_⟩
      split at hid
      · exact .inl ‹_›
      · exact .inr hid
    have hbit := (getLsbD_convertTo sources m hb).mpr ⟨s, hs, hfor⟩
    by_cases hall : m ≠ .sbas ∧ (zero.convertToGnssSvIdConfig sources).1.get m =
        GNSS_SV_CONFIG_ALL_BITS_ENABLED_MASK
    · exact ⟨_, (mem_convertFrom _).mpr ⟨m, (if_pos hall).mpr rfl⟩, rfl, hvalid⟩
    · refine ⟨_, (mem_convertFrom _).mpr ⟨m, (if_neg hall).mpr ⟨b, hb, hbit, rfl⟩⟩, rfl, ?_⟩
      rw [SvMask.svId_entry hb, if_neg (Nat.ne_of_gt SvMask.bitId_pos)]

/-- For every list of sources. -/
theorem svIds_right_iff (sources : List GnssSvIdSource) : Right sources ↔ Fits sources :=
  ⟨Right.fits, Fits.right⟩

/-- 208 is shifted by 64. -/
theorem not_right_sbas208 : ¬ Right [⟨12, .sbas, 208⟩] :=
  fun h => absurd (h.shifts _ (mem_singleton.mpr rfl) (by decide) (.sbas, 183, 39) rfl
    (by decide) (by decide)) (by decide)

end GnssSvIdConfig

end LocStack.Gnss
