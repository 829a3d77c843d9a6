/-
# `LocStack.Nmea.GsvGroups` — which groups of satellites GSV prints whole

What the second pass prints is known in advance: as many sentences as the
first pass counted satellites for, with the satellites of the group cut into
fours (`locNmeaGenerateGsv_eq`), each under the id offset that the ones
before it left behind (`entriesFrom`).  The buffer is always long enough.

`gsv_right_iff`: the sentences of every group that is printed list the group,
with the ids of the constellations and the numbers of the header, if and
only if

* the two passes agree on each satellite: the signal id that its signal type
  is converted to is the one of the group that counted it (`SameSignal`);
* no GPS satellite stands behind an SBAS satellite of the same group
  (`GpsFirst`).
-/
import LocStack.Base.Chunks
import LocStack.Nmea.Gsv

namespace LocStack.Nmea

open Base Gnss List

/-! ## What a sentence holds -/

/-- The satellites that a call lists. -/
def SvMeta.lists (sv_meta : SvMeta) (sv : GnssSv) : Bool :=
  sv.signalType.any (sv_meta.matches sv)

/-- The entries of satellites, each with the offset that is carried to it. -/
def entriesFrom : Nat → List GnssSv → List SvEntry
  | _, [] => []
  | svIdOffset, sv :: svs =>
    sv.entry (sv.carriedOffset svIdOffset) :: entriesFrom (sv.carriedOffset svIdOffset) svs

theorem length_entriesFrom (svIdOffset : Nat) (svs : List GnssSv) :
    (entriesFrom svIdOffset svs).length = svs.length := by
  induction svs generalizing svIdOffset with
  | nil => rfl
  | cons sv svs ih => rw [entriesFrom, length_cons, length_cons, ih]

variable {svIdOffset i lengthRemaining sentenceCount sentenceNumber : Nat} {sv_meta : SvMeta}
  {sv : GnssSv} {svs : List GnssSv} {svNotify : GnssSvNotification} {c d : SvCounter}

theorem carriedOffset_le (sv : GnssSv) (h : svIdOffset ≤ 400) :
    sv.carriedOffset svIdOffset ≤ 400 := by
  unfold GnssSv.carriedOffset
  split
  · decide
  · exact h

theorem natAbs_toInt_lt (n : Int32) : n.toInt.natAbs < 10 ^ 10 := by
  have hlow := n.le_toInt
  have hhigh := n.toInt_lt
  omega

theorem length_svIdText_le (sv : GnssSv) (h : svIdOffset ≤ 400) :
    ((sv.entry svIdOffset).svId.elim [] (paddedDecimal 2)).length ≤ 6 := by
  unfold GnssSv.entry
  dsimp only
  split
  · exact Nat.zero_le _
  · have hid := sv.svId.toNat_lt
    have hwidth : ((sv.svId.toNat : Int) - svIdOffset).natAbs < 10 ^ 5 := by omega
    exact length_paddedDecimal_le (by decide) hwidth (by decide)

theorem length_placeText_le (sv : GnssSv) (h : svIdOffset ≤ 400) :
    (sv.entry svIdOffset).placeText.length ≤ 32 := by
  have hid := length_svIdText_le sv h
  have helevation : (paddedDecimal 2 (sv.entry svIdOffset).elevation.toInt).length ≤ 11 :=
    length_paddedDecimal_le (by decide) (natAbs_toInt_lt _) (by decide)
  have hazimuth : (paddedDecimal 3 (sv.entry svIdOffset).azimuth.toInt).length ≤ 11 :=
    length_paddedDecimal_le (by decide) (natAbs_toInt_lt _) (by decide)
  simp only [SvEntry.placeText, ascii, length_append, length_map, length_cons, length_nil]
  omega

theorem length_cN0Text_le (e : SvEntry) : e.cN0Text.length ≤ 11 := by
  unfold SvEntry.cN0Text
  cases e.cN0Dbhz with
  | none => exact Nat.zero_le _
  | some cN0 => exact length_paddedDecimal_le (by decide) (natAbs_toInt_lt _) (by decide)

theorem fillGsv_lists (rest : List GnssSv) (hlists : sv_meta.lists sv = true) (hi : i < 4)
    (hoff : svIdOffset ≤ 400) (hroom : 43 < lengthRemaining) :
    ∃ used ≤ 43, fillGsv sv_meta (sv :: rest) i svIdOffset lengthRemaining =
      (fillGsv sv_meta rest (i + 1) (sv.carriedOffset svIdOffset) (lengthRemaining - used)).map
        fun fill => { fill with svs := sv.entry (sv.carriedOffset svIdOffset) :: fill.svs } := by
  have hplace := length_placeText_le sv (carriedOffset_le sv hoff)
  have hcN0 := length_cN0Text_le (sv.entry (sv.carriedOffset svIdOffset))
  refine ⟨(sv.entry (sv.carriedOffset svIdOffset)).placeText.length +
    (sv.entry (sv.carriedOffset svIdOffset)).cN0Text.length, by omega, ?_⟩
  obtain ⟨signalType, hsignal, hmatches⟩ : ∃ signalType, sv.signalType = some signalType ∧
      sv_meta.matches sv signalType = true := by
    unfold SvMeta.lists at hlists
    cases hsignal : sv.signalType with
    | none => rw [hsignal] at hlists; cases hlists
    | some signalType => exact ⟨signalType, rfl, by rw [hsignal] at hlists; exact hlists⟩
  rw [fillGsv, if_pos hi, hsignal]
  dsimp only
  rw [if_pos hmatches, if_neg (by omega), if_neg (by rintro ⟨-, hle⟩; omega), Nat.sub_sub]

theorem fillGsv_not_lists {rest : List GnssSv} (hlists : ¬ sv_meta.lists sv = true) (hi : i < 4) :
    fillGsv sv_meta (sv :: rest) i svIdOffset lengthRemaining =
      fillGsv sv_meta rest i svIdOffset lengthRemaining := by
  rw [fillGsv, if_pos hi]
  cases hsignal : sv.signalType with
  | none => rfl
  | some signalType =>
    have hmatches : ¬ sv_meta.matches sv signalType = true := fun hmatches =>
      hlists (by rw [SvMeta.lists, hsignal]; exact hmatches)
    dsimp only
    rw [if_neg hmatches]

theorem fillGsv_eq (sv_meta : SvMeta) (svs : List GnssSv) (hi : i ≤ 4) (hoff : svIdOffset ≤ 400)
    (hroom : 43 * (4 - i) < lengthRemaining) :
    ∃ fill, fillGsv sv_meta svs i svIdOffset lengthRemaining = some fill ∧
      fill.svs = (entriesFrom svIdOffset (svs.filter sv_meta.lists)).take (4 - i) ∧
      entriesFrom fill.svIdOffset (fill.rest.filter sv_meta.lists) =
        (entriesFrom svIdOffset (svs.filter sv_meta.lists)).drop (4 - i) ∧
      fill.svIdOffset ≤ 400 := by
  induction svs generalizing i svIdOffset lengthRemaining with
  | nil => exact ⟨_, rfl, by simp [entriesFrom], by simp [entriesFrom], hoff⟩
  | cons sv rest ih =>
    rcases Nat.lt_or_ge i 4 with hlt | hge
    · by_cases hlists : sv_meta.lists sv = true
      · obtain ⟨used, hused, heq⟩ := fillGsv_lists rest hlists hlt hoff
          (show 43 < lengthRemaining by omega)
        obtain ⟨fill, hfill, hsvs, hrest, hoff'⟩ := ih hlt
          (carriedOffset_le sv hoff) (show 43 * (4 - (i + 1)) < lengthRemaining - used by omega)
        have hstep : 4 - i = (4 - (i + 1)) + 1 := by omega
        rw [heq, hfill]
        refine ⟨_, rfl, ?_, ?_, hoff'⟩
        · rw [filter_cons_of_pos hlists, entriesFrom, hstep, take_succ_cons, ← hsvs]
        · rw [filter_cons_of_pos hlists, entriesFrom, hstep, drop_succ_cons, ← hrest]
      · rw [fillGsv_not_lists hlists hlt, filter_cons_of_neg hlists]
        exact ih hi hoff hroom
    · have hfour : 4 - i = 0 := by omega
      refine ⟨_, by rw [fillGsv, if_neg (by omega)], ?_, ?_, hoff⟩
      · rw [hfour, take_zero]
      · rw [hfour, drop_zero]

/-! ## The sentences of a group -/

theorem length_gsvHeader_le {talker : List UInt8} {svCount : Nat} (htalker : talker.length ≤ 2)
    (hcount : sentenceCount < 100) (hnumber : sentenceNumber < 100) (hsvs : svCount < 1000) :
    (gsvHeader talker sentenceCount sentenceNumber svCount).length ≤ 16 := by
  have h1 : (decimal sentenceCount).length ≤ 2 := length_decimal_le (by decide) hcount
  have h2 : (decimal sentenceNumber).length ≤ 2 := length_decimal_le (by decide) hnumber
  have h3 : (paddedDecimal 2 svCount).length ≤ 3 :=
    length_paddedDecimal_nat_le (by decide) hsvs (by decide)
  simp only [gsvHeader, ascii, length_append, length_map, length_cons, length_nil]
  omega

/-- The sentence that has the `j`th four of the entries. -/
def SvMeta.sentence (sv_meta : SvMeta) (sentenceCount : Nat) (entries : List SvEntry)
    (sentenceNumber j : Nat) : GsvSentence where
  talker := sv_meta.talker
  sentenceCount := sentenceCount
  sentenceNumber := sentenceNumber + j
  svCount := sv_meta.svCount
  svs := chunk 4 entries j
  signalId := sv_meta.signalId

theorem sentence_succ (sv_meta : SvMeta) (sentenceCount : Nat) (entries : List SvEntry)
    (sentenceNumber j : Nat) :
    sv_meta.sentence sentenceCount entries sentenceNumber (j + 1) =
      sv_meta.sentence sentenceCount (entries.drop 4) (sentenceNumber + 1) j := by
  unfold SvMeta.sentence
  rw [chunk_succ, Nat.add_assoc, Nat.add_comm 1]

theorem gsvSentences_eq (htalker : sv_meta.talker.length ≤ 2) (hcount : sentenceCount < 100)
    (hsvs : sv_meta.svCount < 1000) (left : Nat) (hnumber : sentenceNumber + left ≤ 100)
    (hoff : svIdOffset ≤ 400) :
    gsvSentences sv_meta NMEA_SENTENCE_MAX_LENGTH sentenceCount left sentenceNumber svs svIdOffset =
      (List.range left).map (sv_meta.sentence sentenceCount
        (entriesFrom svIdOffset (svs.filter sv_meta.lists)) sentenceNumber) := by
  induction left generalizing sentenceNumber svIdOffset svs with
  | zero => rfl
  | succ left ih =>
    have hheader : (gsvHeader sv_meta.talker sentenceCount sentenceNumber
        sv_meta.svCount).length ≤ 16 :=
      length_gsvHeader_le htalker hcount (by omega) hsvs
    have hroom : 43 * (4 - 0) < NMEA_SENTENCE_MAX_LENGTH - (gsvHeader sv_meta.talker sentenceCount
        sentenceNumber sv_meta.svCount).length := by
      rw [NMEA_SENTENCE_MAX_LENGTH]
      omega
    obtain ⟨fill, hfill, hfirst, hrest, hoff'⟩ :=
      fillGsv_eq sv_meta svs (Nat.zero_le 4) hoff hroom
    rw [gsvSentences, if_neg (by rw [NMEA_SENTENCE_MAX_LENGTH]; omega), hfill,
      range_succ_eq_map, map_cons, map_map]
    dsimp only
    rw [ih (by omega) hoff', hrest, hfirst]
    congr 1
    exact map_congr_left fun j _ => (sentence_succ ..).symm

/-- The offset that the ids of a group begin with. -/
def firstOffset (svTypeMask : UInt32) (svIdOffset : Nat) : Nat :=
  if typeBit .glonass &&& svTypeMask ≠ 0 then 0 else svIdOffset

def SvMeta.firstOffset (sv_meta : SvMeta) : Nat :=
  Nmea.firstOffset sv_meta.svTypeMask sv_meta.svIdOffset

/-- The quarter, rounded up. -/
def quarter (n : Nat) : Nat := (n + 3) / 4

theorem quarter_eq (n : Nat) : n / 4 + (if n % 4 ≠ 0 then 1 else 0) = quarter n := by
  unfold quarter
  split <;> omega

theorem locNmeaGenerateGsv_eq (htalker : sv_meta.talker.length ≤ 2)
    (hsvs : sv_meta.svCount ≤ GNSS_SV_MAX) (hoff : sv_meta.firstOffset ≤ 400) :
    locNmeaGenerateGsv svNotify sv_meta =
      (List.range (quarter sv_meta.svCount)).map (sv_meta.sentence (quarter sv_meta.svCount)
        (entriesFrom sv_meta.firstOffset (svNotify.gnssSvs.filter sv_meta.lists)) 1) := by
  rw [GNSS_SV_MAX] at hsvs
  have hquarter : quarter sv_meta.svCount ≤ 32 := by
    unfold quarter
    omega
  unfold locNmeaGenerateGsv
  split
  · rename_i hzero
    rw [hzero]
    rfl
  · dsimp only
    rw [quarter_eq]
    exact gsvSentences_eq htalker (by omega) (by omega) _ (by omega) hoff

/-! ## The groups and their counters -/

/-- The group that a counter is for. -/
def SvCounter.group : SvCounter → GnssSvType × UInt32
  | .gps_l1_count => (.gps, GNSS_SIGNAL_GPS_L1CA)
  | .gps_l5_count => (.gps, GNSS_SIGNAL_GPS_L5)
  | .gps_l2_count => (.gps, GNSS_SIGNAL_GPS_L2)
  | .glo_g1_count => (.glonass, GNSS_SIGNAL_GLONASS_G1)
  | .glo_g2_count => (.glonass, GNSS_SIGNAL_GLONASS_G2)
  | .gal_e1_count => (.galileo, GNSS_SIGNAL_GALILEO_E1)
  | .gal_e5_count => (.galileo, GNSS_SIGNAL_GALILEO_E5A)
  | .gal_e5b_count => (.galileo, GNSS_SIGNAL_GALILEO_E5B)
  | .qzss_l1_count => (.qzss, GNSS_SIGNAL_QZSS_L1CA)
  | .qzss_l5_count => (.qzss, GNSS_SIGNAL_QZSS_L5)
  | .qzss_l2_count => (.qzss, GNSS_SIGNAL_QZSS_L2)
  | .bds_b1i_count => (.beidou, GNSS_SIGNAL_BEIDOU_B1I)
  | .bds_b1c_count => (.beidou, GNSS_SIGNAL_BEIDOU_B1C)
  | .bds_b2_count => (.beidou, GNSS_SIGNAL_BEIDOU_B2AI)
  | .navic_l5_count => (.navic, GNSS_SIGNAL_NAVIC_L5)

theorem exists_counter {group : GnssSvType × UInt32} (h : group ∈ gsvGroups) :
    ∃ c : SvCounter, c.group = group := by
  simp only [gsvGroups, mem_cons, not_mem_nil, or_false] at h
  rcases h with rfl | rfl | rfl | rfl | rfl | rfl | rfl | rfl | rfl | rfl | rfl | rfl | rfl | rfl |
    rfl
  exacts [⟨.gps_l1_count, rfl⟩, ⟨.gps_l5_count, rfl⟩, ⟨.gps_l2_count, rfl⟩, ⟨.glo_g1_count, rfl⟩,
    ⟨.glo_g2_count, rfl⟩, ⟨.gal_e1_count, rfl⟩, ⟨.gal_e5_count, rfl⟩, ⟨.gal_e5b_count, rfl⟩,
    ⟨.qzss_l1_count, rfl⟩, ⟨.qzss_l5_count, rfl⟩, ⟨.qzss_l2_count, rfl⟩, ⟨.bds_b1i_count, rfl⟩,
    ⟨.bds_b1c_count, rfl⟩, ⟨.bds_b2_count, rfl⟩, ⟨.navic_l5_count, rfl⟩]

theorem group_mem (c : SvCounter) : c.group ∈ gsvGroups := by
  cases c <;> decide

def talkerOf : GnssSvType → List UInt8
  | .gps => ascii ['G', 'P']
  | .glonass => ascii ['G', 'L']
  | .galileo => ascii ['G', 'A']
  | .qzss => ascii ['G', 'Q']
  | .beidou => ascii ['G', 'B']
  | .navic => ascii ['G', 'I']
  | .unknown | .sbas => []

/-- What the ids of a constellation are printed without. -/
def ownOffset : GnssSvType → Nat
  | .sbas => SBAS_SV_ID_OFFSET
  | .galileo => GALILEO_SV_ID_OFFSET
  | .qzss => QZSS_SV_ID_OFFSET
  | .beidou => BDS_SV_ID_OFFSET
  | .navic => NAVIC_SV_ID_OFFSET
  | .unknown | .gps | .glonass => 0

/-- Talker and signal id, by which the sentences of a group are known. -/
def groupName (group : GnssSvType × UInt32) : List UInt8 × Nat :=
  (talkerOf group.1, convertSignalTypeToSignalId group.2)

def GsvSentence.name (s : GsvSentence) : List UInt8 × Nat := (s.talker, s.signalId)

theorem groupNames_nodup : (gsvGroups.map groupName).Nodup := by decide

/-- The types of the satellites of a group. -/
def typesOf (svType : GnssSvType) : UInt32 :=
  if svType = .gps then typeBit .gps ||| typeBit .sbas else typeBit svType

theorem typesOf_and (svType type : GnssSvType) :
    typesOf svType &&& typeBit type ≠ 0 ↔ type = svType ∨ svType = .gps ∧ type = .sbas := by
  cases svType <;> cases type <;> decide

/-- What is known of a group before it is printed. -/
structure MetaOf (sv_cache_info : SvCacheInfo) (c : SvCounter) (sv_meta : SvMeta) : Prop where
  init : locNmeaSvMetaInit sv_cache_info c.group.1 c.group.2 = some sv_meta
  name : (sv_meta.talker, sv_meta.signalId) = groupName c.group
  count : sv_meta.svCount = sv_cache_info c
  offset : sv_meta.firstOffset = ownOffset c.group.1
  types : sv_meta.svTypeMask = typesOf c.group.1

theorem exists_metaOf (sv_cache_info : SvCacheInfo) (c : SvCounter) :
    ∃ sv_meta, MetaOf sv_cache_info c sv_meta := by
  cases c
  all_goals exact ⟨_, rfl, rfl, rfl, by dsimp only [SvMeta.firstOffset]; decide, rfl⟩

/-! ## The two passes -/

def GnssSv.signalId (sv : GnssSv) : Option Nat := sv.signalType.map convertSignalTypeToSignalId

/-- The satellites that the sentences of a group are for. -/
def ofGroup (group : GnssSvType × UInt32) (sv : GnssSv) : Bool :=
  (sv.type = group.1 ∨ group.1 = .gps ∧ sv.type = .sbas) ∧
    sv.signalId = some (convertSignalTypeToSignalId group.2)

theorem ofGroup_iff {group : GnssSvType × UInt32} :
    ofGroup group sv = true ↔ (sv.type = group.1 ∨ group.1 = .gps ∧ sv.type = .sbas) ∧
      sv.signalId = some (convertSignalTypeToSignalId group.2) :=
  decide_eq_true_iff

theorem lists_eq_ofGroup {sv_cache_info : SvCacheInfo} (h : MetaOf sv_cache_info c sv_meta) :
    sv_meta.lists = ofGroup c.group := by
  funext sv
  refine Bool.eq_iff_iff.mpr ?_
  have hid : sv_meta.signalId = convertSignalTypeToSignalId c.group.2 := (Prod.mk.inj h.name).2
  rw [ofGroup_iff, SvMeta.lists, Option.any_eq_true, GnssSv.signalId, Option.map_eq_some_iff]
  simp only [SvMeta.matches, decide_eq_true_iff, h.types, typesOf_and, hid]
  constructor
  · rintro ⟨signalType, hsignal, htype, heq⟩
    exact ⟨htype, signalType, hsignal, heq.symm⟩
  · rintro ⟨htype, signalType, hsignal, heq⟩
    exact ⟨signalType, hsignal, htype, heq.symm⟩

theorem constellation_unique {type : GnssSvType}
    (hc : type = c.group.1 ∨ c.group.1 = .gps ∧ type = .sbas)
    (hd : type = d.group.1 ∨ d.group.1 = .gps ∧ type = .sbas) : c.group.1 = d.group.1 := by
  have hsbas : ∀ c : SvCounter, c.group.1 ≠ .sbas := by
    intro c
    cases c <;> decide
  rcases hc with hc | ⟨hc, hc'⟩ <;> rcases hd with hd | ⟨hd, hd'⟩
  · exact hc.symm.trans hd
  · exact absurd (hc.symm.trans hd') (hsbas c)
  · exact absurd (hd.symm.trans hc') (hsbas d)
  · exact hc.trans hd.symm

theorem group_injective (h : c.group = d.group) : c = d := by
  cases c <;> cases d <;> first | rfl | exact absurd h (by decide)

theorem ofGroup_unique (hc : ofGroup c.group sv = true) (hd : ofGroup d.group sv = true) :
    c = d := by
  obtain ⟨hctype, hcid⟩ := ofGroup_iff.mp hc
  obtain ⟨hdtype, hdid⟩ := ofGroup_iff.mp hd
  have hname : groupName c.group = groupName d.group := by
    unfold groupName
    rw [constellation_unique hctype hdtype, Option.some.inj (hcid.symm.trans hdid)]
  exact group_injective (inj_on_of_nodup_map groupNames_nodup (group_mem c) (group_mem d) hname)

theorem type_of_counter (h : sv.counter = some c) :
    sv.type = c.group.1 ∨ c.group.1 = .gps ∧ sv.type = .sbas := by
  unfold GnssSv.counter at h
  cases htype : sv.type <;> rw [htype] at h <;> dsimp only at h
  case unknown => cases h
  case navic => cases h; exact Or.inl rfl
  case sbas => split_ifs at h <;> cases h <;> exact Or.inr ⟨rfl, rfl⟩
  all_goals split_ifs at h <;> cases h <;> exact Or.inl rfl

theorem exists_counter_of_type (h : sv.type ≠ .unknown) : ∃ c, sv.counter = some c := by
  unfold GnssSv.counter
  cases htype : sv.type <;> dsimp only
  case unknown => exact absurd htype h
  case navic => exact ⟨_, rfl⟩
  all_goals split_ifs <;> exact ⟨_, rfl⟩

theorem type_known (h : sv.type = c.group.1 ∨ c.group.1 = .gps ∧ sv.type = .sbas) :
    sv.type ≠ .unknown := by
  intro hunknown
  rw [hunknown] at h
  revert h
  cases c <;> decide

/-- The counter that takes what the others of the constellation do not. -/
def SvCounter.isDefault : SvCounter → Bool
  | .gps_l1_count | .glo_g1_count | .gal_e1_count | .qzss_l1_count | .bds_b1i_count
  | .navic_l5_count => true
  | _ => false

theorem default_unique (hc : c.isDefault = true) (hd : d.isDefault = true)
    (h : c.group.1 = d.group.1) : c = d := by
  cases c <;> cases hc <;> cases d <;> cases hd <;> first | rfl | exact absurd h (by decide)

theorem ofGroup_of_counter (h : sv.counter = some c) (hc : c.isDefault = false) :
    ofGroup c.group sv = true := by
  refine ofGroup_iff.mpr ⟨type_of_counter h, ?_⟩
  have hmask : ∀ mask, mask ≠ 0 → sv.gnssSignalTypeMask = mask →
      sv.signalId = some (convertSignalTypeToSignalId mask) := by
    rintro mask hne rfl
    rw [GnssSv.signalId, GnssSv.signalType, if_neg hne]
    rfl
  unfold GnssSv.counter at h
  cases htype : sv.type <;> rw [htype] at h <;> dsimp only at h
  case unknown => cases h
  case navic => cases h; cases hc
  case beidou =>
    split_ifs at h with hB2 hB1C <;> cases h
    · exact hB2.elim (hmask _ (by decide)) (hmask _ (by decide))
    · exact hmask _ (by decide) hB1C
    · cases hc
  all_goals split_ifs at h <;> cases h <;> first
    | exact absurd hc (by decide)
    | exact hmask _ (by decide) ‹_›

theorem counter_of_ofGroup (h : ofGroup c.group sv = true) (hc : c.isDefault = true) :
    sv.counter = some c := by
  obtain ⟨htype, -⟩ := ofGroup_iff.mp h
  obtain ⟨d, hd⟩ := exists_counter_of_type (type_known htype)
  cases hdefault : d.isDefault with
  | true => rw [hd, default_unique hdefault hc (constellation_unique (type_of_counter hd) htype)]
  | false => rw [hd, ofGroup_unique (ofGroup_of_counter hd hdefault) h]

/-- The two passes agree: the signal of a satellite that is counted is the
one of the group that it is counted for. -/
def SameSignal (svs : List GnssSv) : Prop :=
  ∀ sv ∈ svs, ∀ c, sv.counter = some c → sv.signalId = some (convertSignalTypeToSignalId c.group.2)

theorem SameSignal.counter_iff (h : SameSignal svs) (hsv : sv ∈ svs) (c : SvCounter) :
    sv.counter = some c ↔ ofGroup c.group sv = true := by
  have hlisted : ∀ d, sv.counter = some d → ofGroup d.group sv = true := fun d hd =>
    ofGroup_iff.mpr ⟨type_of_counter hd, h sv hsv d hd⟩
  constructor
  · exact hlisted c
  · intro hc
    obtain ⟨d, hd⟩ := exists_counter_of_type (type_known (ofGroup_iff.mp hc).1)
    rw [hd, ofGroup_unique (hlisted d hd) hc]

theorem SameSignal.countSvs_eq (h : SameSignal svs) (c : SvCounter) :
    countSvs svs c = (svs.filter (ofGroup c.group)).length := by
  rw [Nmea.countSvs_eq, ← countP_eq_length_filter]
  exact countP_congr fun sv hsv => by
    rw [decide_eq_true_iff]
    exact h.counter_iff hsv c

theorem sameSignal_of_count
    (h : ∀ c, countSvs svs c ≠ 0 → countSvs svs c = (svs.filter (ofGroup c.group)).length) :
    SameSignal svs := by
  intro sv hsv c hc
  refine (ofGroup_iff.mp ?_).2
  cases hdefault : c.isDefault with
  | false => exact ofGroup_of_counter hc hdefault
  | true =>
    have hpos : countSvs svs c ≠ 0 := by
      rw [Nmea.countSvs_eq]
      exact (countP_pos_iff.mpr ⟨sv, hsv, decide_eq_true hc⟩).ne'
    have hcount := h c hpos
    rw [Nmea.countSvs_eq, ← countP_eq_length_filter] at hcount
    have hall := (countP_eq_countP_iff fun sv _ hsv =>
      decide_eq_true (counter_of_ofGroup hsv hdefault)).mp hcount.symm
    exact hall sv hsv (decide_eq_true hc)

/-! ## The ids -/

/-- A satellite with its own id. -/
def GnssSv.ownEntry (sv : GnssSv) : SvEntry := sv.entry (ownOffset sv.type)

/-- No GPS satellite stands behind an SBAS satellite. -/
def SbasLast (svs : List GnssSv) : Prop := svs.Pairwise fun a b => a.type = .sbas → b.type ≠ .gps

theorem entry_injective {a b : Nat} (hsv : sv.type ≠ .glonass) (h : sv.entry a = sv.entry b) :
    a = b := by
  have hid := congrArg SvEntry.svId h
  unfold GnssSv.entry at hid
  dsimp only at hid
  rw [if_neg fun h => hsv h.1, if_neg fun h => hsv h.1] at hid
  have hsub := Option.some.inj hid
  omega

theorem entriesFrom_sbas (htypes : ∀ sv ∈ svs, sv.type = .gps ∨ sv.type = .sbas) :
    entriesFrom SBAS_SV_ID_OFFSET svs = svs.map GnssSv.ownEntry ↔ ∀ sv ∈ svs, sv.type ≠ .gps := by
  induction svs with
  | nil => simp [entriesFrom]
  | cons sv svs ih =>
    have hrest := ih fun sv hsv => htypes sv (mem_cons_of_mem _ hsv)
    have hcarried : sv.carriedOffset SBAS_SV_ID_OFFSET = SBAS_SV_ID_OFFSET := by
      unfold GnssSv.carriedOffset
      split <;> rfl
    rw [entriesFrom, hcarried, map_cons, List.cons.injEq, hrest, forall_mem_cons]
    refine and_congr_left fun _ => ?_
    rcases htypes sv mem_cons_self with hgps | hsbas
    · refine iff_of_false (fun heq => ?_) (fun hne => hne hgps)
      have hoff := entry_injective (by rw [hgps]; decide) heq
      rw [hgps] at hoff
      exact absurd hoff (by decide)
    · refine iff_of_true ?_ (by rw [hsbas]; decide)
      rw [GnssSv.ownEntry, hsbas]
      rfl

theorem entriesFrom_gps (htypes : ∀ sv ∈ svs, sv.type = .gps ∨ sv.type = .sbas) :
    entriesFrom 0 svs = svs.map GnssSv.ownEntry ↔ SbasLast svs := by
  induction svs with
  | nil => exact iff_of_true rfl List.Pairwise.nil
  | cons sv svs ih =>
    have hrest : ∀ sv ∈ svs, sv.type = .gps ∨ sv.type = .sbas := fun sv hsv =>
      htypes sv (mem_cons_of_mem _ hsv)
    rw [SbasLast, pairwise_cons, entriesFrom, map_cons, List.cons.injEq]
    rcases htypes sv mem_cons_self with hgps | hsbas
    · have hcarried : sv.carriedOffset 0 = 0 := if_neg (by rw [hgps]; decide)
      rw [hcarried, ih hrest]
      refine and_congr (iff_of_true ?_ ?_) Iff.rfl
      · rw [GnssSv.ownEntry, hgps]
        rfl
      · intro b _ hsbas
        rw [hgps] at hsbas
        cases hsbas
    · have hcarried : sv.carriedOffset 0 = SBAS_SV_ID_OFFSET := if_pos hsbas
      rw [hcarried, entriesFrom_sbas hrest]
      constructor
      · rintro ⟨-, hnone⟩
        exact ⟨fun b hb _ => hnone b hb, pairwise_of_forall_mem_list fun a _ b hb _ =>
          hnone b hb⟩
      · rintro ⟨hnone, -⟩
        refine ⟨?_, fun b hb => hnone b hb hsbas⟩
        rw [GnssSv.ownEntry, hsbas]
        rfl

theorem entriesFrom_own {svType : GnssSvType} (hsvType : svType ≠ .sbas)
    (htypes : ∀ sv ∈ svs, sv.type = svType) :
    entriesFrom (ownOffset svType) svs = svs.map GnssSv.ownEntry := by
  induction svs with
  | nil => rfl
  | cons sv svs ih =>
    have htype : sv.type = svType := htypes sv mem_cons_self
    have hcarried : sv.carriedOffset (ownOffset svType) = ownOffset svType :=
      if_neg (by rw [htype]; exact hsvType)
    rw [entriesFrom, hcarried, ih fun sv hsv => htypes sv (mem_cons_of_mem _ hsv),
      map_cons, GnssSv.ownEntry, htype]

theorem entriesFrom_group (svs : List GnssSv) (c : SvCounter) :
    entriesFrom (ownOffset c.group.1) (svs.filter (ofGroup c.group)) =
      (svs.filter (ofGroup c.group)).map GnssSv.ownEntry ↔
        SbasLast (svs.filter (ofGroup c.group)) := by
  have htypes : ∀ sv ∈ svs.filter (ofGroup c.group),
      sv.type = c.group.1 ∨ c.group.1 = .gps ∧ sv.type = .sbas := fun sv hsv =>
    (ofGroup_iff.mp (mem_filter.mp hsv).2).1
  by_cases hgps : c.group.1 = .gps
  · rw [hgps]
    refine entriesFrom_gps fun sv hsv => ?_
    rcases htypes sv hsv with h | ⟨-, h⟩
    · exact Or.inl (h.trans hgps)
    · exact Or.inr h
  · have hown : ∀ sv ∈ svs.filter (ofGroup c.group), sv.type = c.group.1 := fun sv hsv =>
      (htypes sv hsv).resolve_right fun h => hgps h.1
    have hsbas : c.group.1 ≠ .sbas := by cases c <;> decide
    refine iff_of_true (entriesFrom_own hsbas hown) ?_
    refine pairwise_of_forall_mem_list fun a ha b _ h => ?_
    exact absurd ((hown a ha).symm.trans h) hsbas

/-! ## The sentences of the report -/

/-- The sentences of a group. -/
def groupSentences (svNotify : GnssSvNotification) (group : GnssSvType × UInt32) :
    List GsvSentence :=
  (locNmeaGenerateSv svNotify).filter fun s => s.name = groupName group

theorem groupSentences_eq (svNotify : GnssSvNotification) (c : SvCounter) :
    ∃ sv_meta, MetaOf (countSvs svNotify.gnssSvs) c sv_meta ∧ groupSentences svNotify c.group =
        (List.range (quarter (countSvs svNotify.gnssSvs c))).map
          (sv_meta.sentence (quarter (countSvs svNotify.gnssSvs c))
            (entriesFrom (ownOffset c.group.1) (svNotify.gnssSvs.filter (ofGroup c.group))) 1) := by
  have hsentences : ∀ d sv_meta, MetaOf (countSvs svNotify.gnssSvs) d sv_meta →
      locNmeaGenerateGsv svNotify sv_meta = (List.range (quarter (countSvs svNotify.gnssSvs d))).map
          (sv_meta.sentence (quarter (countSvs svNotify.gnssSvs d))
            (entriesFrom (ownOffset d.group.1) (svNotify.gnssSvs.filter (ofGroup d.group))) 1) := by
    intro d sv_meta hmeta
    have htalker : sv_meta.talker.length ≤ 2 := by
      rw [(Prod.mk.inj hmeta.name).1]
      cases d <;> decide
    have hcount : sv_meta.svCount ≤ GNSS_SV_MAX := by
      rw [hmeta.count, countSvs_eq]
      exact countP_le_length.trans svNotify.count_le
    have hoff : sv_meta.firstOffset ≤ 400 := by
      rw [hmeta.offset]
      cases d <;> decide
    rw [locNmeaGenerateGsv_eq htalker hcount hoff, hmeta.count, hmeta.offset,
      lists_eq_ofGroup hmeta]
  obtain ⟨sv_meta, hmeta⟩ := exists_metaOf (countSvs svNotify.gnssSvs) c
  refine ⟨sv_meta, hmeta, ?_⟩
  unfold groupSentences locNmeaGenerateSv
  rw [filter_flatMap ?_ groupNames_nodup (group_mem c), hmeta.init]
  · exact hsentences c sv_meta hmeta
  · intro group hgroup s hs
    obtain ⟨d, rfl⟩ := exists_counter hgroup
    obtain ⟨sv_meta, hmeta⟩ := exists_metaOf (countSvs svNotify.gnssSvs) d
    rw [hmeta.init] at hs
    change s ∈ locNmeaGenerateGsv svNotify sv_meta at hs
    rw [hsentences d sv_meta hmeta] at hs
    obtain ⟨j, -, rfl⟩ := mem_map.mp hs
    exact hmeta.name

/-- The sentences list the satellites, four to each but the last, and their
headers say so. -/
structure Complete (svs : List GnssSv) (sentences : List GsvSentence) : Prop where
  /-- each once, in the order of the report, under the id of its constellation -/
  lists : sentences.flatMap GsvSentence.svs = svs.map GnssSv.ownEntry
  four : ∀ s ∈ sentences.dropLast, s.svs.length = 4
  most : ∀ s ∈ sentences, s.svs.length ≤ 4
  svCount : ∀ s ∈ sentences, s.svCount = svs.length
  sentenceCount : ∀ s ∈ sentences, s.sentenceCount = (svs.length + 3) / 4
  length : sentences.length = (svs.length + 3) / 4
  numbers : sentences.map GsvSentence.sentenceNumber = List.range' 1 sentences.length

/-- Every group that is printed is complete. -/
def Right (svNotify : GnssSvNotification) : Prop :=
  ∀ group ∈ gsvGroups, groupSentences svNotify group ≠ [] →
    Complete (svNotify.gnssSvs.filter (ofGroup group)) (groupSentences svNotify group)

/-- In no group. -/
def GpsFirst (svs : List GnssSv) : Prop :=
  ∀ group ∈ gsvGroups, SbasLast (svs.filter (ofGroup group))

theorem complete_sentences {entries : List SvEntry} (hcount : sv_meta.svCount = svs.length)
    (hentries : entries = svs.map GnssSv.ownEntry) :
    Complete svs ((List.range (quarter svs.length)).map
      (sv_meta.sentence (quarter svs.length) entries 1)) := by
  have hlength : entries.length = svs.length := by rw [hentries, length_map]
  have hquarter : svs.length ≤ 4 * quarter svs.length := by
    unfold quarter
    omega
  constructor
  case lists =>
    rw [flatMap_map]
    change (List.range _).flatMap (chunk 4 entries) = _
    rw [flatMap_chunk, take_of_length_le (by omega), hentries]
  case four =>
    rw [← map_dropLast]
    intro s hs
    obtain ⟨j, hj, rfl⟩ := mem_map.mp hs
    have hj : j + 1 < quarter svs.length := by
      rw [dropLast_eq_take, length_range, take_range, mem_range] at hj
      omega
    change (chunk 4 entries j).length = 4
    rw [length_chunk, hlength]
    unfold quarter at hj
    omega
  case most =>
    intro s hs
    obtain ⟨j, -, rfl⟩ := mem_map.mp hs
    change (chunk 4 entries j).length ≤ 4
    rw [length_chunk]
    exact Nat.min_le_left _ _
  case svCount =>
    intro s hs
    obtain ⟨j, -, rfl⟩ := mem_map.mp hs
    exact hcount
  case sentenceCount =>
    intro s hs
    obtain ⟨j, -, rfl⟩ := mem_map.mp hs
    rfl
  case length =>
    rw [length_map, length_range]
    rfl
  case numbers =>
    rw [map_map, length_map, length_range, List.range'_eq_map_range]
    rfl

theorem groupSentences_ne_nil :
    groupSentences svNotify c.group ≠ [] ↔ countSvs svNotify.gnssSvs c ≠ 0 := by
  obtain ⟨sv_meta, -, heq⟩ := groupSentences_eq svNotify c
  rw [heq, Ne, map_eq_nil_iff, range_eq_nil]
  unfold quarter
  omega

theorem countSvs_eq_of_complete (hne : groupSentences svNotify c.group ≠ [])
    (h : Complete svs (groupSentences svNotify c.group)) :
    countSvs svNotify.gnssSvs c = svs.length := by
  obtain ⟨sv_meta, hmeta, heq⟩ := groupSentences_eq svNotify c
  obtain ⟨s, hs⟩ := exists_mem_of_ne_nil _ hne
  have hcount := h.svCount s hs
  rw [heq] at hs
  obtain ⟨j, -, rfl⟩ := mem_map.mp hs
  exact hmeta.count.symm.trans hcount

theorem sameSignal_of_right (h : Right svNotify) : SameSignal svNotify.gnssSvs := by
  refine sameSignal_of_count fun c hc => ?_
  have hne := groupSentences_ne_nil.mpr hc
  exact countSvs_eq_of_complete hne (h c.group (group_mem c) hne)

theorem gpsFirst_of_right (h : Right svNotify) : GpsFirst svNotify.gnssSvs := by
  intro group hgroup
  obtain ⟨c, rfl⟩ := exists_counter hgroup
  rw [← entriesFrom_group]
  have hcount := (sameSignal_of_right h).countSvs_eq c
  by_cases hne : groupSentences svNotify c.group = []
  · -- nothing is counted, and nothing would be listed
    have hzero : countSvs svNotify.gnssSvs c = 0 :=
      not_not.mp fun hpos => groupSentences_ne_nil.mpr hpos hne
    rw [eq_nil_of_length_eq_zero (hcount.symm.trans hzero)]
    rfl
  · have hlists := (h c.group (group_mem c) hne).lists
    obtain ⟨sv_meta, -, heq⟩ := groupSentences_eq svNotify c
    rw [heq, flatMap_map] at hlists
    change (List.range _).flatMap (chunk 4 _) = _ at hlists
    have henough : (entriesFrom (ownOffset c.group.1) (svNotify.gnssSvs.filter
        (ofGroup c.group))).length ≤ 4 * quarter (countSvs svNotify.gnssSvs c) := by
      rw [length_entriesFrom, ← hcount, quarter]
      omega
    rw [flatMap_chunk, take_of_length_le henough] at hlists
    exact hlists

theorem right_of (hsame : SameSignal svNotify.gnssSvs) (hgps : GpsFirst svNotify.gnssSvs) :
    Right svNotify := by
  intro group hgroup _
  obtain ⟨c, rfl⟩ := exists_counter hgroup
  obtain ⟨sv_meta, hmeta, heq⟩ := groupSentences_eq svNotify c
  have hcount := hsame.countSvs_eq c
  rw [heq, hcount]
  exact complete_sentences (hmeta.count.trans hcount)
    ((entriesFrom_group svNotify.gnssSvs c).mpr (hgps c.group hgroup))

theorem gsv_right_iff (svNotify : GnssSvNotification) :
    Right svNotify ↔ SameSignal svNotify.gnssSvs ∧ GpsFirst svNotify.gnssSvs :=
  ⟨fun h => ⟨sameSignal_of_right h, gpsFirst_of_right h⟩, fun h => right_of h.1 h.2⟩

/-- An SBAS satellite and a GPS satellite, in this order. -/
def sbasFirst : GnssSvNotification where
  gnssSvs := [
    { svId := 120, type := .sbas, gnssSignalTypeMask := GNSS_SIGNAL_SBAS_L1
      elevation := 30, azimuth := 200, cN0Dbhz := some 40 },
    { svId := 5, type := .gps, gnssSignalTypeMask := GNSS_SIGNAL_GPS_L1CA
      elevation := 45, azimuth := 120, cN0Dbhz := some 35 }]
  count_le := by decide

/-- The GPS satellite is printed with the number -82. -/
theorem not_right_sbasFirst : ¬ Right sbasFirst := by
  intro h
  have hfirst := gpsFirst_of_right h _ (group_mem .gps_l1_count)
  exact absurd hfirst (by unfold SbasLast; decide)

end LocStack.Nmea
