/-
# `LocStack.Nmea.GsaGroups` — the groups of GSA sentences, call after call

What a call prints is known in advance (`locNmeaGenerateGsa_eq`): the used
satellites cut into twelves, with the header, the tag block and the DOPs.
Ids and numbers always fit into the buffer; the DOPs may be too long for it,
and then the sentence is cut off before its checksum ends (`text_eq`).

    groupCode k     the code that the group behind k other groups begins with
    Wraps k         it is the largest one, so that the rest of the group is
                    printed with the code 1

`gsaRight_iff`: every call with grouping enabled prints a group as it should
be, with codes that the group before does not have, if and only if no group
of several sentences is one that wraps, and every sentence fits.
-/
import LocStack.Base.Chunks
import LocStack.Nmea.Gsa

namespace LocStack.Nmea

open Base Gnss List

/-! ## Texts in a buffer -/

/-- All that was printed into a buffer of `size`, of which the string has
what fits. -/
structure Within (size : Nat) (printed : List UInt8) (p : Printed) : Prop where
  text : p.text = printed.take (size - 1)
  remaining : p.lengthRemaining = (size : Int) - printed.length

theorem within_nil (size : Nat) :
    Within size [] { text := [], lengthRemaining := size } where
  text := take_nil.symm
  remaining := (sub_zero _).symm

variable {size code number bufSize x k : Nat} {printed : List UInt8} {p : Printed}
  {svs rest : List Nat} {s : GsaSentence} {call : GsaCall} {sv_meta : GsaMeta} {l : GsaLoop}

theorem Within.snprintf (h : Within size printed p) (t : List UInt8) :
    Within size (printed ++ t) (p.snprintf t) where
  text := by
    have hroom : (p.lengthRemaining - 1).toNat = size - 1 - printed.length := by
      rw [h.remaining]
      omega
    rw [take_append, ← h.text, ← hroom]
    rfl
  remaining := by
    show p.lengthRemaining - t.length = _
    rw [h.remaining, length_append]
    omega

theorem Within.snprintfChecked (h : Within size printed p) {t : List UInt8}
    (hfits : (printed ++ t).length < size) :
    ∃ q, p.snprintfChecked t = some q ∧ Within size (printed ++ t) q := by
  rw [length_append] at hfits
  refine ⟨_, ?_, h.snprintf t⟩
  unfold Printed.snprintfChecked
  rw [if_neg]
  rw [h.remaining]
  omega

/-- The ids, and the commas that follow them. -/
def svsText : Nat → List Nat → List UInt8
  | 0, _ => []
  | left + 1, [] => ascii [','] ++ svsText left []
  | left + 1, sv :: svs => (paddedDecimal 2 sv ++ ascii [',']) ++ svsText left svs

theorem Within.printSvs (left : Nat) (h : Within size printed p)
    (hfits : (printed ++ svsText left svs).length < size) :
    ∃ q, printSvs left svs p = some q ∧ Within size (printed ++ svsText left svs) q := by
  induction left generalizing svs printed p with
  | zero => exact ⟨p, rfl, by rw [svsText, append_nil]; exact h⟩
  | succ left ih =>
    cases svs with
    | nil =>
      rw [svsText, ← append_assoc] at hfits ⊢
      obtain ⟨q, hq, hwithin⟩ := h.snprintfChecked
        (lt_of_le_of_lt (length_append ▸ Nat.le_add_right _ _) hfits)
      rw [Nmea.printSvs, hq]
      exact ih hwithin hfits
    | cons sv svs =>
      rw [svsText, ← append_assoc] at hfits ⊢
      obtain ⟨q, hq, hwithin⟩ := h.snprintfChecked
        (lt_of_le_of_lt (length_append ▸ Nat.le_add_right _ _) hfits)
      rw [Nmea.printSvs, hq]
      exact ih hwithin hfits

theorem length_svsText_le (left : Nat) (hsvs : ∀ sv ∈ svs, sv < 1000) :
    (svsText left svs).length ≤ 4 * left := by
  induction left generalizing svs with
  | zero => exact Nat.le_refl 0
  | succ left ih =>
    cases svs with
    | nil =>
      have hrest : (svsText left []).length ≤ 4 * left :=
        ih fun _ h => absurd h not_mem_nil
      simp only [svsText, ascii, length_append, map_cons, map_nil, length_singleton]
      omega
    | cons sv svs =>
      have hrest := ih fun sv hsv => hsvs sv (mem_cons_of_mem _ hsv)
      have hsv : (paddedDecimal 2 sv).length ≤ 3 :=
        length_paddedDecimal_nat_le (by decide) (hsvs sv mem_cons_self) (by decide)
      simp only [svsText, ascii, length_append, map_cons, map_nil, length_singleton]
      omega

/-! ## A sentence -/

/-- The characters behind the first, and their XOR behind the asterisk. -/
def closed (body closing : List UInt8) : List UInt8 :=
  let checksum := (body.drop 1).foldl (· ^^^ ·) 0
  body ++ ascii ['*'] ++ [hexByte (checksum.toNat / 16), hexByte (checksum.toNat % 16)] ++ closing

def GsaSentence.body (s : GsaSentence) : List UInt8 :=
  gsaHeader s.talker s.fixType ++ svsText 12 s.svs ++ dopsText s.dops ++ decimal s.systemId

def GsaSentence.tagBlock (s : GsaSentence) : List UInt8 :=
  s.tag.elim [] fun t => closed t.body (ascii ['\\'])

/-- The sentence with its tag block, both with their checksums. -/
def GsaSentence.fullText (s : GsaSentence) : List UInt8 :=
  s.tagBlock ++ closed s.body (ascii ['\r', '\n'])

/-- What is known of the numbers of a sentence. -/
structure GsaSentence.Small (s : GsaSentence) : Prop where
  talker : s.talker.length = 2
  svs : ∀ sv ∈ s.svs, sv < 1000
  tag : ∀ t, s.tag = some t →
    t.sentenceNumber < 10 ∧ t.sentenceCount < 10 ∧ t.code ≤ MAX_TAG_BLOCK_GROUP_CODE

theorem length_closed (body closing : List UInt8) :
    (closed body closing).length = body.length + 3 + closing.length := by
  simp only [closed, ascii, length_append, map_cons, map_nil, length_cons, length_nil]

theorem locNmeaPutChecksum_closed {body closing : List UInt8} {isTagBlock : Bool} (hne : body ≠ [])
    (hclosing : closing = if isTagBlock then ascii ['\\'] else ascii ['\r', '\n'])
    (hfits : (closed body closing).length < size) :
    locNmeaPutChecksum body size isTagBlock = closed body closing := by
  have hpos := length_pos_iff.mpr hne
  rw [length_closed] at hfits
  unfold locNmeaPutChecksum
  dsimp only
  rw [length_drop, take_of_length_le]
  · rw [closed, checksumText, hclosing, append_assoc, append_assoc, append_assoc]
  · have hlen : (checksumText body isTagBlock).length = 3 + closing.length := by
      rw [checksumText, hclosing]
      cases isTagBlock <;> rfl
    omega

theorem length_locNmeaPutChecksum_lt {body : List UInt8} (isTagBlock : Bool) (hne : body ≠ [])
    (hfits : body.length < size) : (locNmeaPutChecksum body size isTagBlock).length < size := by
  have hpos := length_pos_iff.mpr hne
  unfold locNmeaPutChecksum
  dsimp only
  rw [length_append, length_take, length_drop]
  omega

theorem length_tagBlock_le (h : s.Small) : s.tagBlock.length ≤ 16 := by
  unfold GsaSentence.tagBlock
  cases htag : s.tag with
  | none => exact Nat.zero_le _
  | some t =>
    obtain ⟨hnumber, hcount, hcode⟩ := h.tag t htag
    have h1 : (decimal t.sentenceNumber).length ≤ 1 := length_decimal_le (by decide) hnumber
    have h2 : (decimal t.sentenceCount).length ≤ 1 := length_decimal_le (by decide) hcount
    have h3 : (decimal t.code).length ≤ 5 :=
      length_decimal_le (by decide) (Nat.lt_of_le_of_lt hcode (by decide))
    show (closed t.body (ascii ['\\'])).length ≤ 16
    rw [length_closed]
    simp only [TagBlock.body, ascii, length_append, length_map, length_cons, length_nil]
    omega

theorem tagText_eq (h : s.Small) : s.tagText NMEA_SENTENCE_MAX_LENGTH = s.tagBlock := by
  have hlen := length_tagBlock_le h
  unfold GsaSentence.tagText GsaSentence.tagBlock at *
  cases htag : s.tag with
  | none => rfl
  | some t =>
    rw [htag] at hlen
    change (closed t.body _).length ≤ 16 at hlen
    have hbody : t.body.length < NMEA_SENTENCE_MAX_LENGTH := by
      rw [length_closed] at hlen
      rw [NMEA_SENTENCE_MAX_LENGTH]
      omega
    have hprinted := ((within_nil NMEA_SENTENCE_MAX_LENGTH).snprintf t.body).text
    rw [nil_append, take_of_length_le (Nat.le_sub_one_of_lt hbody)] at hprinted
    show locNmeaPutChecksum (Printed.snprintf _ t.body).text _ true = closed t.body _
    rw [hprinted]
    exact locNmeaPutChecksum_closed (cons_ne_nil _ _) rfl (Nat.lt_of_le_of_lt hlen (by decide))

theorem text_eq (h : s.Small) :
    ∃ text, s.text NMEA_SENTENCE_MAX_LENGTH = some text ∧ text.length < NMEA_SENTENCE_MAX_LENGTH ∧
      (s.fullText.length < NMEA_SENTENCE_MAX_LENGTH → text = s.fullText) := by
  have htag := length_tagBlock_le h
  obtain ⟨size, hsize⟩ : ∃ size : Nat, NMEA_SENTENCE_MAX_LENGTH = s.tagBlock.length + size :=
    ⟨_, (Nat.add_sub_of_le (htag.trans (by decide))).symm⟩
  have hroom : 184 ≤ size := by
    rw [NMEA_SENTENCE_MAX_LENGTH] at hsize
    omega
  have hremaining : (NMEA_SENTENCE_MAX_LENGTH : Int) - s.tagBlock.length = size := by
    rw [hsize]
    omega
  have hheader : (gsaHeader s.talker s.fixType).length = 11 := by
    simp only [gsaHeader, ascii, length_append, length_map, length_cons, length_nil, h.talker]
  have hsvs := length_svsText_le 12 h.svs
  obtain ⟨p, hp, hwithin⟩ := (within_nil size).snprintfChecked
    (t := gsaHeader s.talker s.fixType) (by rw [nil_append]; omega)
  obtain ⟨q, hq, hwithin⟩ := hwithin.printSvs 12
    (show ([] ++ gsaHeader s.talker s.fixType ++ svsText 12 s.svs).length < size by
      rw [nil_append, length_append]; omega)
  have hwithin := (hwithin.snprintf (dopsText s.dops)).snprintf (decimal s.systemId)
  rw [nil_append] at hwithin
  change Within size s.body _ at hwithin
  have hne : s.body.take (size - 1) ≠ [] := by
    refine length_pos_iff.mp ?_
    have hbody : 11 ≤ s.body.length := by
      simp only [GsaSentence.body, length_append]
      omega
    rw [length_take]
    omega
  refine ⟨s.tagBlock ++ locNmeaPutChecksum (s.body.take (size - 1)) size false, ?_, ?_, ?_⟩
  · unfold GsaSentence.text
    dsimp only
    rw [tagText_eq h, hremaining, hp, Option.bind_some, hq, Option.map_some, hwithin.text]
  · have hlt : (s.body.take (size - 1)).length < size := by
      rw [length_take]
      omega
    rw [length_append, hsize]
    exact Nat.add_lt_add_left (length_locNmeaPutChecksum_lt false hne hlt) _
  · intro hfits
    rw [GsaSentence.fullText, length_append, hsize] at hfits
    have hfits := Nat.lt_of_add_lt_add_left hfits
    have hwhole : s.body.take (size - 1) = s.body := by
      rw [length_closed] at hfits
      exact take_of_length_le (by omega)
    rw [hwhole] at hne ⊢
    have hput : locNmeaPutChecksum s.body size false = closed s.body (ascii ['\r', '\n']) :=
      locNmeaPutChecksum_closed hne rfl hfits
    rw [hput]
    rfl

/-! ## The satellites of a mask -/

def UsedMasks.mask (used : UsedMasks) : GnssSvType → UInt64
  | .gps => used.gps_used_mask
  | .glonass => used.glo_used_mask
  | .galileo => used.gal_used_mask
  | .qzss => used.qzss_used_mask
  | .beidou => used.bds_used_mask
  | .navic => used.navic_used_mask
  | .unknown | .sbas => 0

/-- The satellites of the mask in ascending order, by the ids they are listed under. -/
def GsaCall.satellites (call : GsaCall) : List Nat :=
  ((List.range 64).filter (call.used.mask call.svType).toNat.testBit).map fun k =>
    k + 1 + if call.svType = .glonass then GLONASS_SV_ID_OFFSET else 0

theorem svUsedFrom_eq (svIdOffset left i : Nat) {mask : Nat} (h : mask < 2 ^ left) :
    svUsedFrom svIdOffset left i mask =
      ((List.range left).filter mask.testBit).map fun k => k + i + svIdOffset := by
  induction left generalizing i mask with
  | zero => rfl
  | succ left ih =>
    have hhalf : mask / 2 < 2 ^ left := by
      rw [Nat.pow_succ] at h
      omega
    have htail : ((List.range left).map Nat.succ).filter mask.testBit =
        ((List.range left).filter (mask / 2).testBit).map Nat.succ := by
      rw [filter_map]
      congr 1
      exact filter_congr fun k _ => Nat.testBit_succ mask k
    have hshift : ((List.range left).filter (mask / 2).testBit).map (fun k => k + (i + 1) +
        svIdOffset) = (((List.range left).map Nat.succ).filter mask.testBit).map
          fun k => k + i + svIdOffset := by
      rw [htail, map_map]
      exact map_congr_left fun k _ => by simp only [Function.comp_apply]; omega
    unfold svUsedFrom
    rw [range_succ_eq_map, ih (i + 1) hhalf, hshift]
    split
    · rename_i hzero
      subst hzero
      simp
    split
    · rename_i hodd
      rw [filter_cons_of_pos (by rw [Nat.testBit_zero]; exact decide_eq_true hodd),
        map_cons, Nat.zero_add]
    · rename_i heven
      have hbit : ¬ mask.testBit 0 = true := by
        rw [Nat.testBit_zero]
        exact fun hodd => heven (of_decide_eq_true hodd)
      rw [filter_cons_of_neg hbit]

theorem length_satellites_le (call : GsaCall) : call.satellites.length ≤ 64 := by
  rw [GsaCall.satellites, length_map]
  exact (length_filter_le _ _).trans (length_range).le

theorem lt_of_mem_satellites {sv : Nat} (h : sv ∈ call.satellites) : sv < 1000 := by
  obtain ⟨k, hk, rfl⟩ := mem_map.mp h
  have hk := mem_range.mp (mem_filter.mp hk).1
  have hoff : (if call.svType = .glonass then GLONASS_SV_ID_OFFSET else 0) ≤ 64 := by
    split <;> decide
  omega

def GsaMeta.listedOffset (sv_meta : GsaMeta) : Nat :=
  if sv_meta.svTypeMask &&& typeBit .glonass = 0 then 0 else sv_meta.svIdOffset

def GsaCall.listedOffset (call : GsaCall) : Nat :=
  if call.svType = .glonass then GLONASS_SV_ID_OFFSET else 0

/-- What a constellation is initialised with. -/
structure MetaFor (call : GsaCall) (sv_meta : GsaMeta) : Prop where
  mask : sv_meta.mask = call.used.mask call.svType
  offset : sv_meta.listedOffset = call.listedOffset
  talker : sv_meta.talker.length = 2
  systemId : sv_meta.systemId < 10

theorem types_and_glonass (svType : GnssSvType) :
    (if svType = .gps then typeBit .gps ||| typeBit .sbas else typeBit svType) &&&
      typeBit .glonass = 0 ↔ svType ≠ .glonass := by
  cases svType <;> decide

theorem metaFor (h : gsaMetaInit call.used call.svType = some sv_meta) : MetaFor call sv_meta := by
  obtain ⟨used, svType, dops, enabled⟩ := call
  cases svType
  all_goals cases h
  all_goals
    constructor
    case mask => rfl
    case offset =>
      refine (if_congr (types_and_glonass _) rfl rfl).trans ?_
      rfl
    case talker =>
      dsimp only
      split <;> rfl
    case systemId => exact Nat.le_of_ble_eq_true rfl

theorem MetaFor.svUsedList (h : MetaFor call sv_meta) : sv_meta.svUsedList = call.satellites := by
  show svUsedFrom sv_meta.listedOffset 64 1 sv_meta.mask.toNat = _
  rw [h.offset, h.mask]
  exact svUsedFrom_eq _ 64 1 (UInt64.toNat_lt _)

theorem satellites_eq_nil (h : gsaMetaInit call.used call.svType = none) :
    call.satellites = [] := by
  obtain ⟨used, svType, dops, enabled⟩ := call
  have hzero : ∀ k ∈ List.range 64, ¬ (0 : UInt64).toNat.testBit k = true := fun k _ => by
    rw [UInt64.toNat_zero, Nat.zero_testBit]
    exact Bool.false_ne_true
  cases svType
  case unknown => exact map_eq_nil_iff.mpr (filter_eq_nil_iff.mpr hzero)
  case sbas => exact map_eq_nil_iff.mpr (filter_eq_nil_iff.mpr hzero)
  all_goals cases h

/-! ## The sentences of a call -/

/-- The code behind the first sentence of a group. -/
def wrapped (code : Nat) : Nat := if MAX_TAG_BLOCK_GROUP_CODE = code then 1 else code

theorem wrapped_wrapped (code : Nat) : wrapped (wrapped code) = wrapped code := by
  unfold wrapped
  by_cases hmax : MAX_TAG_BLOCK_GROUP_CODE = code
  · rw [if_pos hmax]
    rfl
  · rw [if_neg hmax, if_neg hmax]

theorem wrapped_le (h : code ≤ MAX_TAG_BLOCK_GROUP_CODE) :
    wrapped code ≤ MAX_TAG_BLOCK_GROUP_CODE := by
  unfold wrapped
  split
  · decide
  · exact h

/-- The loop, as `locNmeaGenerateGsa` enters it. -/
structure LoopFor (call : GsaCall) (l : GsaLoop) : Prop where
  dops : l.dops = call.dops
  enabled : l.isTagBlockGroupingEnabled = call.isTagBlockGroupingEnabled
  svUsedCount : l.svUsedCount = call.satellites.length
  sentenceCount : l.sentenceCount < 10
  talker : l.sv_meta.talker.length = 2
  systemId : l.sv_meta.systemId < 10

theorem small_sentence (hl : LoopFor call l) (hnumber : number < 10)
    (hrest : ∀ sv ∈ rest, sv < 1000) (hcode : code ≤ MAX_TAG_BLOCK_GROUP_CODE) :
    (l.sentence number rest code).Small where
  talker := hl.talker
  svs := fun sv hsv => hrest sv (mem_of_mem_take hsv)
  tag := by
    intro t ht
    change (if l.tagged = true then some _ else none) = some t at ht
    split at ht
    · obtain rfl := Option.some.inj ht
      exact ⟨hnumber, hl.sentenceCount, hcode⟩
    · cases ht

/-- The code of the `j`th sentence of a group. -/
def codeOf (l : GsaLoop) (code j : Nat) : Nat :=
  if j = 0 then code else if l.tagged then wrapped code else code

theorem gsaSentences_eq (hl : LoopFor call l) (henabled : call.isTagBlockGroupingEnabled = true)
    (left : Nat) (hnumber : number + left ≤ 10) (hrest : ∀ sv ∈ rest, sv < 1000)
    (hcode : code ≤ MAX_TAG_BLOCK_GROUP_CODE) :
    (gsaSentences l NMEA_SENTENCE_MAX_LENGTH left number rest code).sentences =
      (List.range left).map fun j =>
        l.sentence (number + j) (rest.drop (12 * j)) (codeOf l code j) := by
  induction left generalizing number code rest with
  | zero => rfl
  | succ left ih =>
    obtain ⟨text, htext, -, -⟩ :=
      text_eq (small_sentence hl (show number < 10 by omega) hrest hcode)
    have hwrap : (if l.tagged = true ∧ MAX_TAG_BLOCK_GROUP_CODE = code then 1 else code) =
        if l.tagged = true then wrapped code else code := by
      unfold wrapped
      by_cases htag : l.tagged = true
      · simp only [htag, true_and, if_true]
      · rw [if_neg htag, if_neg fun h => htag h.1]
    have hle : (if l.tagged = true then wrapped code else code) ≤ MAX_TAG_BLOCK_GROUP_CODE := by
      split
      · exact wrapped_le hcode
      · exact hcode
    have hshift : ∀ j, codeOf l (if l.tagged = true then wrapped code else code) j =
        codeOf l code (j + 1) := by
      intro j
      unfold codeOf
      by_cases htag : l.tagged = true
      · simp only [htag, if_true, wrapped_wrapped, ite_self, Nat.succ_ne_zero, if_false]
      · simp only [if_neg htag, ite_self]
    rw [gsaSentences]
    dsimp only
    rw [htext]
    dsimp only
    rw [hl.enabled, if_pos henabled, range_succ_eq_map, map_cons, map_map, hwrap,
      ih (by omega) (fun sv hsv => hrest sv (mem_of_mem_drop hsv)) hle]
    refine congrArg₂ List.cons rfl (map_congr_left fun j _ => ?_)
    rw [hshift j, drop_drop]
    simp only [Function.comp_apply, Nat.succ_eq_add_one, Nat.mul_succ, Nat.add_comm,
      Nat.add_left_comm]

theorem gsaSentences_code_of_not_tagged (htag : ¬ l.tagged = true) (left number : Nat)
    (rest : List Nat) (code : Nat) :
    (gsaSentences l bufSize left number rest code).code = code := by
  induction left generalizing number rest with
  | zero =>
    unfold gsaSentences
    exact if_neg htag
  | succ left ih =>
    unfold gsaSentences
    dsimp only
    rw [if_neg fun h => htag h.1]
    split
    · rfl
    split
    · exact ih _ _
    · rfl

theorem gsaSentences_code (hl : LoopFor call l) (htag : l.tagged = true) (left : Nat)
    (hnumber : number + left ≤ 10) (hrest : ∀ sv ∈ rest, sv < 1000)
    (hcode : code ≤ MAX_TAG_BLOCK_GROUP_CODE) :
    (gsaSentences l NMEA_SENTENCE_MAX_LENGTH left number rest code).code =
      (if left = 0 then code else wrapped code) + 1 := by
  induction left generalizing number code rest with
  | zero =>
    unfold gsaSentences
    exact if_pos htag
  | succ left ih =>
    obtain ⟨text, htext, -, -⟩ :=
      text_eq (small_sentence hl (show number < 10 by omega) hrest hcode)
    have hwrap : (if l.tagged = true ∧ MAX_TAG_BLOCK_GROUP_CODE = code then 1 else code) =
        wrapped code := by
      simp only [htag, true_and]
      rfl
    have henabled : l.isTagBlockGroupingEnabled = true := (of_decide_eq_true htag).2
    rw [gsaSentences]
    dsimp only
    rw [htext]
    dsimp only
    rw [if_pos henabled, hwrap]
    dsimp only
    rw [ih (by omega) (fun sv hsv => hrest sv (mem_of_mem_drop hsv)) (wrapped_le hcode),
      if_neg (Nat.succ_ne_zero left), wrapped_wrapped, ite_self]

theorem tag_of_mem_gsaSentences (left number : Nat) (rest : List Nat) (code : Nat) :
    ∀ s ∈ (gsaSentences l bufSize left number rest code).sentences, ∀ t, s.tag = some t →
      l.tagged = true ∧ (t.code = code ∨ t.code = wrapped code) := by
  have hown : ∀ (number : Nat) (rest : List Nat) (code : Nat) (t : TagBlock),
      (l.sentence number rest code).tag = some t → l.tagged = true ∧ t.code = code := by
    intro number rest code t ht
    change (if l.tagged = true then some _ else none) = some t at ht
    split at ht
    · rename_i htag
      obtain rfl := Option.some.inj ht
      exact ⟨htag, rfl⟩
    · cases ht
  induction left generalizing number rest code with
  | zero => exact fun s hs => absurd hs not_mem_nil
  | succ left ih =>
    intro s hs t ht
    unfold gsaSentences at hs
    dsimp only at hs
    split at hs
    · exact absurd hs not_mem_nil
    split at hs
    · rcases mem_cons.mp hs with rfl | hs
      · obtain ⟨htag, hcode⟩ := hown _ _ _ _ ht
        exact ⟨htag, Or.inl hcode⟩
      · obtain ⟨htag, hcode⟩ := ih _ _ _ s hs t ht
        have hwrap : (if l.tagged = true ∧ MAX_TAG_BLOCK_GROUP_CODE = code then 1 else code) =
            wrapped code := by
          simp only [htag, true_and]
          rfl
        rw [hwrap, wrapped_wrapped, or_self] at hcode
        exact ⟨htag, Or.inr hcode⟩
    · rw [mem_singleton] at hs
      subst hs
      obtain ⟨htag, hcode⟩ := hown _ _ _ _ ht
      exact ⟨htag, Or.inl hcode⟩

/-! ## A call -/

/-- More than twelve satellites, with grouping enabled. -/
def GsaCall.Grouped (call : GsaCall) : Prop :=
  12 < call.satellites.length ∧ call.isTagBlockGroupingEnabled = true
  deriving Decidable

/-- The number of sentences that twelve satellites each make. -/
def GsaCall.sentenceCount (call : GsaCall) : Nat := (call.satellites.length + 11) / 12

theorem sentenceCount_lt (call : GsaCall) : call.sentenceCount < 10 := by
  have hlen := length_satellites_le call
  unfold GsaCall.sentenceCount
  omega

theorem locNmeaGenerateGsa_eq (code : Nat) (call : GsaCall) : (call.satellites = [] ∧
      locNmeaGenerateGsa code call = { sentences := [], code, svUsedCount := 0 }) ∨
    ∃ l, LoopFor call l ∧ l.sentenceCount = call.sentenceCount ∧ (l.tagged = true ↔ call.Grouped) ∧
      0 < call.sentenceCount ∧ locNmeaGenerateGsa code call =
        gsaSentences l NMEA_SENTENCE_MAX_LENGTH call.sentenceCount 1 call.satellites code := by
  unfold locNmeaGenerateGsa
  cases hmeta : gsaMetaInit call.used call.svType with
  | none => exact Or.inl ⟨satellites_eq_nil hmeta, rfl⟩
  | some sv_meta =>
    have hfor := metaFor hmeta
    dsimp only
    rw [hfor.svUsedList]
    split
    · rename_i hzero
      exact Or.inl ⟨eq_nil_of_length_eq_zero hzero, rfl⟩
    · rename_i hpos
      have hcount : call.satellites.length / 12 +
          (if call.satellites.length % 12 ≠ 0 then 1 else 0) = call.sentenceCount := by
        unfold GsaCall.sentenceCount
        split <;> omega
      rw [hcount]
      have hcountPos : 0 < call.sentenceCount := by
        unfold GsaCall.sentenceCount
        omega
      have htagged : decide (12 < call.satellites.length ∧
          call.isTagBlockGroupingEnabled = true) = true ↔ call.Grouped := decide_eq_true_iff
      refine Or.inr ⟨_, ⟨rfl, rfl, rfl, sentenceCount_lt call, hfor.talker, hfor.systemId⟩, rfl,
        ?_, hcountPos, rfl⟩
      exact htagged

theorem locNmeaGenerateGsa_code (hcode : code ≤ MAX_TAG_BLOCK_GROUP_CODE) (call : GsaCall) :
    (locNmeaGenerateGsa code call).code = if call.Grouped then wrapped code + 1 else code := by
  rcases locNmeaGenerateGsa_eq code call with ⟨hnil, heq⟩ | ⟨l, hl, -, htagged, hpos, heq⟩
  · have hnot : ¬ call.Grouped := fun h => by
      have hlen := h.1
      rw [hnil] at hlen
      exact absurd hlen (by decide)
    rw [heq, if_neg hnot]
  · rw [heq]
    by_cases hgrouped : call.Grouped
    · have hcount := sentenceCount_lt call
      rw [gsaSentences_code hl (htagged.mpr hgrouped) _ (by omega)
        (fun sv hsv => lt_of_mem_satellites hsv) hcode, if_pos hgrouped, if_neg (by omega)]
    · rw [gsaSentences_code_of_not_tagged fun h => hgrouped (htagged.mp h), if_neg hgrouped]

/-- The codes in the tag blocks of a group. -/
def GsaResult.codes (r : GsaResult) : List Nat :=
  r.sentences.filterMap fun s => s.tag.map TagBlock.code

theorem mem_codes (h : x ∈ (locNmeaGenerateGsa code call).codes) :
    call.Grouped ∧ (x = code ∨ x = wrapped code) := by
  obtain ⟨s, hs, htag⟩ := mem_filterMap.mp h
  obtain ⟨t, ht, rfl⟩ := Option.map_eq_some_iff.mp htag
  rcases locNmeaGenerateGsa_eq code call with ⟨-, heq⟩ | ⟨l, -, -, htagged, -, heq⟩
  · rw [heq] at hs
    exact absurd hs not_mem_nil
  · rw [heq] at hs
    obtain ⟨hl, hcode⟩ := tag_of_mem_gsaSentences _ _ _ _ s hs t ht
    exact ⟨htagged.mp hl, hcode⟩

/-- A group lists the satellites of its mask, numbered and under one code. -/
structure GoodGroup (call : GsaCall) (sentences : List GsaSentence) : Prop where
  /-- each once, in ascending order -/
  lists : sentences.flatMap GsaSentence.svs = call.satellites
  twelve : ∀ s ∈ sentences.dropLast, s.svs.length = 12
  most : ∀ s ∈ sentences, 0 < s.svs.length ∧ s.svs.length ≤ 12
  oneCode : 1 < sentences.length → ∃ code, 1 ≤ code ∧ code ≤ MAX_TAG_BLOCK_GROUP_CODE ∧
    sentences.map GsaSentence.tag = (List.range sentences.length).map fun j =>
      some { sentenceNumber := j + 1, sentenceCount := sentences.length, code }
  /-- whole, with the checksums of the tag block and of the sentence -/
  checksums : ∀ s ∈ sentences, s.text NMEA_SENTENCE_MAX_LENGTH = some s.fullText

/-- The characters of the `j`th sentence of a group: the tag block, the
header, the ids, the DOPs, the system id and the checksum. -/
def GsaCall.textLength (code : Nat) (call : GsaCall) (j : Nat) : Nat :=
  (if call.Grouped then (decimal code).length + 11 else 0) + 11 +
    (svsText 12 (chunk 12 call.satellites j)).length + (dopsText call.dops).length + 6

/-- Every sentence is shorter than the buffer. -/
def Fits (code : Nat) (call : GsaCall) : Prop :=
  ∀ j < call.sentenceCount, call.textLength code j < NMEA_SENTENCE_MAX_LENGTH

theorem length_decimal_digit {n : Nat} (h : n < 10) : (decimal n).length = 1 := by
  have hall : ∀ n < 10, (decimal n).length = 1 := by decide
  exact hall n h

theorem length_fullText (hl : LoopFor call l) (htagged : l.tagged = true ↔ call.Grouped)
    (hnumber : number < 10) (code j : Nat) :
    (l.sentence number (call.satellites.drop (12 * j)) code).fullText.length =
      call.textLength code j := by
  have hheader :
      (gsaHeader l.sv_meta.talker (fixTypeOf l.sv_meta.totalSvUsedCount)).length = 11 := by
    simp only [gsaHeader, ascii, length_append, length_map, length_cons, length_nil, hl.talker]
  have htag : (l.sentence number (call.satellites.drop (12 * j)) code).tagBlock.length =
      if call.Grouped then (decimal code).length + 11 else 0 := by
    unfold GsaSentence.tagBlock GsaLoop.sentence
    dsimp only
    by_cases hgrouped : call.Grouped
    · rw [if_pos (htagged.mpr hgrouped), if_pos hgrouped, Option.elim_some, length_closed]
      simp only [TagBlock.body, ascii, length_append, length_map, length_cons,
        length_nil, length_decimal_digit hnumber, length_decimal_digit hl.sentenceCount]
      omega
    · rw [if_neg fun h => hgrouped (htagged.mp h), if_neg hgrouped]
      rfl
  rw [GsaSentence.fullText, length_append, htag, length_closed, GsaSentence.body,
    GsaCall.textLength]
  simp only [GsaLoop.sentence, ascii, length_append, map_cons, map_nil,
    length_cons, length_nil, hheader, length_decimal_digit hl.systemId, hl.dops, chunk]
  omega

/-- The sentences of a call with grouping enabled. -/
def GsaLoop.group (l : GsaLoop) (call : GsaCall) (code : Nat) : List GsaSentence :=
  (List.range call.sentenceCount).map fun j =>
    l.sentence (1 + j) (call.satellites.drop (12 * j)) (codeOf l code j)

theorem sentences_eq_group (hl : LoopFor call l) (henabled : call.isTagBlockGroupingEnabled = true)
    (hcode : code ≤ MAX_TAG_BLOCK_GROUP_CODE) :
    (gsaSentences l NMEA_SENTENCE_MAX_LENGTH call.sentenceCount 1 call.satellites code).sentences =
      l.group call code := by
  have hcount := sentenceCount_lt call
  exact gsaSentences_eq hl henabled _ (by omega) (fun sv hsv => lt_of_mem_satellites hsv) hcode

theorem codeOf_eq (h : l.tagged = true → code ≠ MAX_TAG_BLOCK_GROUP_CODE) (j : Nat) :
    codeOf l code j = code := by
  unfold codeOf
  split
  · rfl
  split
  · rename_i htag
    exact if_neg fun hmax => h htag hmax.symm
  · rfl

theorem checksums_iff (hl : LoopFor call l) (htagged : l.tagged = true ↔ call.Grouped)
    (hcode : code ≤ MAX_TAG_BLOCK_GROUP_CODE)
    (hmax : call.Grouped → code ≠ MAX_TAG_BLOCK_GROUP_CODE) :
    (∀ s ∈ l.group call code, s.text NMEA_SENTENCE_MAX_LENGTH = some s.fullText) ↔
      Fits code call := by
  have hcount := sentenceCount_lt call
  have hsmall : ∀ j < call.sentenceCount,
      (l.sentence (1 + j) (call.satellites.drop (12 * j)) code).Small := fun j hj =>
    small_sentence hl (by omega) (fun sv hsv => lt_of_mem_satellites (mem_of_mem_drop hsv)) hcode
  have hgroup : l.group call code = (List.range call.sentenceCount).map fun j =>
      l.sentence (1 + j) (call.satellites.drop (12 * j)) code :=
    map_congr_left fun j _ => by rw [codeOf_eq fun h => hmax (htagged.mp h)]
  rw [hgroup]
  constructor
  · intro h j hj
    obtain ⟨text, htext, hlt, -⟩ := text_eq (hsmall j hj)
    have hwhole := h _ (mem_map_of_mem (mem_range.mpr hj))
    obtain rfl := Option.some.inj (htext.symm.trans hwhole)
    rw [← length_fullText hl htagged (show 1 + j < 10 by omega)]
    exact hlt
  · intro h s hs
    obtain ⟨j, hj, rfl⟩ := mem_map.mp hs
    rw [mem_range] at hj
    obtain ⟨text, htext, -, hwhole⟩ := text_eq (hsmall j hj)
    have hfits := h j hj
    rw [← length_fullText hl htagged (show 1 + j < 10 by omega)] at hfits
    rw [htext, hwhole hfits]

theorem lists_group (l : GsaLoop) (call : GsaCall) (code : Nat) :
    (l.group call code).flatMap GsaSentence.svs = call.satellites := by
  rw [GsaLoop.group, flatMap_map]
  change (List.range _).flatMap (chunk 12 call.satellites) = _
  rw [flatMap_chunk, take_of_length_le]
  unfold GsaCall.sentenceCount
  omega

theorem goodGroup_group (hl : LoopFor call l) (hcount : l.sentenceCount = call.sentenceCount)
    (htagged : l.tagged = true ↔ call.Grouped) (henabled : call.isTagBlockGroupingEnabled = true)
    (hpos : 1 ≤ code) (hcode : code ≤ MAX_TAG_BLOCK_GROUP_CODE)
    (hmax : call.Grouped → code ≠ MAX_TAG_BLOCK_GROUP_CODE) (hfits : Fits code call) :
    GoodGroup call (l.group call code) := by
  have hlength : (l.group call code).length = call.sentenceCount := by
    rw [GsaLoop.group, length_map, length_range]
  constructor
  case lists => exact lists_group l call code
  case twelve =>
    rw [GsaLoop.group, ← map_dropLast]
    intro s hs
    obtain ⟨j, hj, rfl⟩ := mem_map.mp hs
    rw [dropLast_eq_take, length_range, take_range, mem_range] at hj
    change (chunk 12 call.satellites j).length = 12
    rw [length_chunk]
    unfold GsaCall.sentenceCount at hj
    omega
  case most =>
    intro s hs
    obtain ⟨j, hj, rfl⟩ := mem_map.mp hs
    rw [mem_range] at hj
    change 0 < (chunk 12 call.satellites j).length ∧ (chunk 12 call.satellites j).length ≤ 12
    rw [length_chunk]
    unfold GsaCall.sentenceCount at hj
    omega
  case oneCode =>
    rw [hlength]
    intro hseveral
    have hgrouped : call.Grouped := by
      refine ⟨?_, henabled⟩
      unfold GsaCall.sentenceCount at hseveral
      omega
    refine ⟨code, hpos, hcode, ?_⟩
    rw [GsaLoop.group, map_map]
    refine map_congr_left fun j _ => ?_
    show (if l.tagged = true then some _ else none) = _
    rw [if_pos (htagged.mpr hgrouped), codeOf_eq fun h => hmax (htagged.mp h), hcount,
      Nat.add_comm 1 j]
  case checksums => exact (checksums_iff hl htagged hcode hmax).mpr hfits

theorem not_goodGroup_max (htagged : l.tagged = true ↔ call.Grouped) (hgrouped : call.Grouped) :
    ¬ GoodGroup call (l.group call MAX_TAG_BLOCK_GROUP_CODE) := by
  intro h
  have hlength : (l.group call MAX_TAG_BLOCK_GROUP_CODE).length = call.sentenceCount := by
    rw [GsaLoop.group, length_map, length_range]
  have hseveral : 1 < call.sentenceCount := by
    have htwelve := hgrouped.1
    unfold GsaCall.sentenceCount
    omega
  obtain ⟨code, -, -, htags⟩ := h.oneCode (hlength ▸ hseveral)
  rw [hlength, GsaLoop.group, map_map] at htags
  have hcodes : ∀ j < call.sentenceCount, codeOf l MAX_TAG_BLOCK_GROUP_CODE j = code := by
    intro j hj
    have htag := (map_inj_left.mp htags) j (mem_range.mpr hj)
    change (if l.tagged = true then some _ else none) = _ at htag
    rw [if_pos (htagged.mpr hgrouped)] at htag
    exact (TagBlock.mk.inj (Option.some.inj htag)).2.2
  have hfirst := hcodes 0 (by omega)
  have hsecond := hcodes 1 hseveral
  rw [← hfirst] at hsecond
  unfold codeOf at hsecond
  rw [if_pos (htagged.mpr hgrouped)] at hsecond
  exact absurd hsecond (by decide)

theorem goodGroup_iff (henabled : call.isTagBlockGroupingEnabled = true) (hpos : 1 ≤ code)
    (hcode : code ≤ MAX_TAG_BLOCK_GROUP_CODE) :
    GoodGroup call (locNmeaGenerateGsa code call).sentences ↔
      (call.Grouped → code ≠ MAX_TAG_BLOCK_GROUP_CODE) ∧ Fits code call := by
  rcases locNmeaGenerateGsa_eq code call with ⟨hnil, heq⟩ | ⟨l, hl, hcount, htagged, hsome, heq⟩
  · rw [heq]
    have hgood : GoodGroup call [] := by
      constructor
      case lists => exact hnil.symm
      case oneCode => exact fun h => absurd h (Nat.not_lt_zero 1)
      all_goals exact fun s hs => absurd hs not_mem_nil
    refine iff_of_true hgood ⟨fun h => ?_, fun j hj => ?_⟩
    · have hlen := h.1
      rw [hnil] at hlen
      exact absurd hlen (by decide)
    · rw [GsaCall.sentenceCount, hnil] at hj
      exact absurd hj (Nat.not_lt_zero j)
  · rw [heq, sentences_eq_group hl henabled hcode]
    constructor
    · intro h
      have hmax : call.Grouped → code ≠ MAX_TAG_BLOCK_GROUP_CODE := by
        rintro hgrouped rfl
        exact not_goodGroup_max htagged hgrouped h
      exact ⟨hmax, (checksums_iff hl htagged hcode hmax).mp h.checksums⟩
    · rintro ⟨hmax, hfits⟩
      exact goodGroup_group hl hcount htagged henabled hpos hcode hmax hfits

/-! ## Call after call -/

/-- The code that a group behind `k` others begins with. -/
def groupCode (k : Nat) : Nat :=
  if k = 0 then 1 else (k - 1) % (MAX_TAG_BLOCK_GROUP_CODE - 1) + 2

/-- It is the largest one. -/
def Wraps (k : Nat) : Prop := 0 < k ∧ k % (MAX_TAG_BLOCK_GROUP_CODE - 1) = 0

theorem groupCode_pos (k : Nat) : 1 ≤ groupCode k := by
  unfold groupCode
  split <;> omega

theorem groupCode_le (k : Nat) : groupCode k ≤ MAX_TAG_BLOCK_GROUP_CODE := by
  unfold groupCode MAX_TAG_BLOCK_GROUP_CODE
  split <;> omega

theorem groupCode_eq_max (k : Nat) : groupCode k = MAX_TAG_BLOCK_GROUP_CODE ↔ Wraps k := by
  unfold groupCode Wraps MAX_TAG_BLOCK_GROUP_CODE
  split <;> omega

theorem wrapped_groupCode (k : Nat) : wrapped (groupCode k) + 1 = groupCode (k + 1) := by
  unfold wrapped
  split
  · rename_i hmax
    obtain ⟨hpos, hmod⟩ := (groupCode_eq_max k).mp hmax.symm
    rw [groupCode, if_neg (Nat.succ_ne_zero k), Nat.add_sub_cancel, hmod]
  · rename_i hmax
    have hnot := mt (groupCode_eq_max k).mpr (Ne.symm hmax)
    unfold Wraps MAX_TAG_BLOCK_GROUP_CODE at hnot
    unfold groupCode MAX_TAG_BLOCK_GROUP_CODE
    rw [if_neg (Nat.succ_ne_zero k)]
    split <;> omega

/-- The number of groups of several sentences. -/
def groupsOf (calls : List GsaCall) : Nat := calls.countP fun call => call.Grouped

theorem groupsOf_cons (call : GsaCall) (calls : List GsaCall) :
    groupsOf (call :: calls) = groupsOf calls + if call.Grouped then 1 else 0 := by
  rw [groupsOf, countP_cons]
  simp only [decide_eq_true_eq]
  rfl

theorem gsaStep_groupCode (k : Nat) (call : GsaCall) :
    (gsaStep (groupCode k) call).1 = groupCode (k + if call.Grouped then 1 else 0) := by
  show (locNmeaGenerateGsa (groupCode k) call).code = _
  rw [locNmeaGenerateGsa_code (groupCode_le k)]
  split
  · exact wrapped_groupCode k
  · rfl

theorem after_gsaStep (calls : List GsaCall) (k : Nat) :
    after gsaStep (groupCode k) calls = groupCode (k + groupsOf calls) := by
  induction calls generalizing k with
  | nil => rfl
  | cons call calls ih =>
    rw [after_cons, gsaStep_groupCode, ih, groupsOf_cons, Nat.add_assoc,
      Nat.add_comm (groupsOf calls)]

/-- The groups with tag blocks that calls print. -/
def taggedGroups (code : Nat) (calls : List GsaCall) : List GsaResult :=
  (outs gsaStep code calls).filter fun r => r.codes ≠ []

/-- No code is in both. -/
def DifferentCodes (r r' : GsaResult) : Prop := ∀ x ∈ r.codes, x ∉ r'.codes

theorem codes_ne_nil (hcode : code ≤ MAX_TAG_BLOCK_GROUP_CODE) (hgrouped : call.Grouped) :
    (locNmeaGenerateGsa code call).codes ≠ [] := by
  rcases locNmeaGenerateGsa_eq code call with ⟨hnil, -⟩ | ⟨l, hl, -, htagged, hpos, heq⟩
  · have hlen := hgrouped.1
    rw [hnil] at hlen
    exact absurd hlen (by decide)
  · refine ne_nil_of_mem (a := code) (mem_filterMap.mpr
      ⟨l.sentence (1 + 0) (call.satellites.drop (12 * 0)) (codeOf l code 0), ?_, ?_⟩)
    · rw [heq, sentences_eq_group hl hgrouped.2 hcode]
      exact mem_map_of_mem (mem_range.mpr hpos)
    · show Option.map _ (if l.tagged = true then some _ else none) = _
      rw [if_pos (htagged.mpr hgrouped)]
      rfl

theorem taggedGroups_cons (k : Nat) (call : GsaCall) (calls : List GsaCall) :
    taggedGroups (groupCode k) (call :: calls) =
      if call.Grouped then
        locNmeaGenerateGsa (groupCode k) call :: taggedGroups (groupCode (k + 1)) calls
      else taggedGroups (groupCode k) calls := by
  have houts : outs gsaStep (groupCode k) (call :: calls) = locNmeaGenerateGsa (groupCode k) call ::
        outs gsaStep (groupCode (k + if call.Grouped then 1 else 0)) calls := by
    rw [← gsaStep_groupCode]
    rfl
  unfold taggedGroups
  rw [houts]
  split
  · rename_i hgrouped
    exact filter_cons_of_pos (decide_eq_true (codes_ne_nil (groupCode_le k) hgrouped))
  · rename_i hgrouped
    have hnil : (locNmeaGenerateGsa (groupCode k) call).codes = [] :=
      eq_nil_iff_forall_not_mem.mpr fun x hx => hgrouped (mem_codes hx).1
    exact filter_cons_of_neg (by rw [hnil]; decide)

theorem codes_of_head (calls : List GsaCall) (k : Nat) :
    ∀ r ∈ (taggedGroups (groupCode k) calls).head?,
      ∀ x ∈ r.codes, x = groupCode k ∨ x = wrapped (groupCode k) := by
  induction calls generalizing k with
  | nil => exact fun r hr => absurd hr (Option.not_mem_none r)
  | cons call calls ih =>
    rw [taggedGroups_cons]
    split
    · rintro r hr x hx
      obtain rfl := Option.some.inj hr
      exact (mem_codes hx).2
    · exact ih k

theorem codes_disjoint {y : Nat} (hx : x = groupCode k ∨ x = wrapped (groupCode k))
    (hy : y = groupCode (k + 1) ∨ y = wrapped (groupCode (k + 1))) : x ≠ y := by
  have hnext := wrapped_groupCode k
  have hpos := groupCode_pos k
  unfold wrapped MAX_TAG_BLOCK_GROUP_CODE at *
  split at hx <;> split at hy <;> split at hnext <;> omega

theorem taggedGroups_isChain (calls : List GsaCall) (k : Nat) :
    (taggedGroups (groupCode k) calls).IsChain DifferentCodes := by
  induction calls generalizing k with
  | nil => exact isChain_nil
  | cons call calls ih =>
    rw [taggedGroups_cons]
    split
    · refine isChain_cons.mpr ⟨fun r hr x hx hx' => ?_, ih (k + 1)⟩
      exact codes_disjoint (mem_codes hx).2 (codes_of_head calls (k + 1) r hr x hx') rfl
    · exact ih k

/-- From the first call on: every call with grouping enabled prints a good
group, and consecutive groups have different codes. -/
def GsaRight (calls : List GsaCall) : Prop :=
  StepsMeet gsaStep (fun code call => call.isTagBlockGroupingEnabled = true →
    GoodGroup call (locNmeaGenerateGsa code call).sentences) 1 calls ∧
  (taggedGroups 1 calls).IsChain DifferentCodes

/-- No group of several sentences wraps, and every sentence fits. -/
theorem gsaRight_iff (calls : List GsaCall) : GsaRight calls ↔
      ∀ pre call post, calls = pre ++ call :: post → call.isTagBlockGroupingEnabled = true →
        (call.Grouped → ¬ Wraps (groupsOf pre)) ∧ Fits (groupCode (groupsOf pre)) call := by
  have hstep : ∀ pre call, call.isTagBlockGroupingEnabled = true →
      (GoodGroup call (locNmeaGenerateGsa (after gsaStep 1 pre) call).sentences ↔
        (call.Grouped → ¬ Wraps (groupsOf pre)) ∧ Fits (groupCode (groupsOf pre)) call) := by
    intro pre call henabled
    have hafter : after gsaStep 1 pre = groupCode (groupsOf pre) :=
      (after_gsaStep pre 0).trans (by rw [Nat.zero_add])
    rw [hafter, goodGroup_iff henabled (groupCode_pos _) (groupCode_le _), Ne, groupCode_eq_max]
  have hchain : (taggedGroups 1 calls).IsChain DifferentCodes := taggedGroups_isChain calls 0
  rw [GsaRight, stepsMeet_iff, and_iff_left hchain]
  constructor
  · intro h pre call post heq henabled
    exact (hstep pre call henabled).mp (h pre call post heq henabled)
  · intro h pre call post heq henabled
    exact (hstep pre call henabled).mpr (h pre call post heq henabled)

/-- Thirteen GPS satellites. -/
def thirteen : GsaCall where
  used :=
    { gps_used_mask := 0x1FFF, glo_used_mask := 0, gal_used_mask := 0, qzss_used_mask := 0
      bds_used_mask := 0, navic_used_mask := 0 }
  svType := .gps
  dops := none
  isTagBlockGroupingEnabled := true

theorem after_replicate_thirteen (k : Nat) :
    after gsaStep 1 (List.replicate k thirteen) = groupCode k := by
  have hgrouped : thirteen.Grouped := by decide
  have hcount : groupsOf (List.replicate k thirteen) = k := by
    rw [groupsOf, countP_replicate, if_pos (decide_eq_true hgrouped)]
  refine (after_gsaStep _ 0).trans ?_
  rw [Nat.zero_add, hcount]

theorem not_gsaRight_of_wraps (hk : groupCode k = MAX_TAG_BLOCK_GROUP_CODE) :
    ¬ GsaRight (List.replicate k thirteen ++ [thirteen]) := by
  intro h
  have hgrouped : thirteen.Grouped := by decide
  have hgood := stepsMeet_iff.mp h.1 _ thirteen [] rfl rfl
  rw [after_replicate_thirteen, hk, goodGroup_iff rfl (by decide) (Nat.le_refl _)] at hgood
  exact hgood.1 hgrouped rfl

/-- After 99998 groups the two sentences of the next one have the codes 99999 and 1. -/
theorem not_gsaRight_wrap : ¬ GsaRight (List.replicate 99998 thirteen ++ [thirteen]) :=
  not_gsaRight_of_wraps rfl

end LocStack.Nmea
