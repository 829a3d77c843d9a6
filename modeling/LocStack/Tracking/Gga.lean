/-
# `LocStack.Tracking.Gga` — the GGA sentence for the NTRIP source

An NTRIP source may want the position as a GGA sentence.  reportGGAToNtrip
takes it out of the NMEA that is reported, and keeps it if it has a fix:

    GGAString    from three characters before the first GGA on
    foundNth     commas that were found in it; the fix quality is behind six

`reportGGAToNtrip_right_iff`: it keeps the GGA sentence just when that has a
fix, and stays inside of the string, for exactly the strings that fit.  The
position of the next sentence is used as the length of this one, so that a
sentence that stands between others is cut too late; a sentence with six
commas is read in front of its end by npos; and an empty quality is one that
is not 0.
-/
import LocStack.Base.Find
import LocStack.Tracking.Ntrip

namespace LocStack.Tracking

open Base List Option

namespace Gga

/-- "GGA" -/
def gga : List Char := ['G', 'G', 'A']

def POS_OF_GGA : ℕ := 3

def COMMAS_BEFORE_VALID : ℕ := 6

/-- `GGAString`, if there is one. -/
def ggaString (nmeaString : List Char) : Option (List Char) :=
  match find gga nmeaString 0 with
  | none => none
  | some foundPos =>
    if foundPos ≥ POS_OF_GGA then
      match find ['$'] nmeaString foundPos with
      | some foundNextSentence =>
        some ((nmeaString.drop (foundPos - POS_OF_GGA)).take foundNextSentence)
      | none => some (nmeaString.drop (foundPos - POS_OF_GGA))
    else none

/-- Whether the test for the quality is passed; `none` if it throws. -/
def isValid (ggaString : List Char) : Option Bool :=
  match nthFrom ',' ggaString COMMAS_BEFORE_VALID (find [','] ggaString 0) with
  | (_, _ + 1) => some false
  | (some foundPos, 0) => ggaString[foundPos - 1]?.map (· ≠ '0')
  -- npos - 1 is behind every string
  | (none, 0) => none

/-- What is kept of a string; `none` if that throws. -/
def toKeep (nmeaString : List Char) : Option (Option (List Char)) :=
  match ggaString nmeaString with
  | none => some none
  | some ggaString => (isValid ggaString).map fun valid => if valid then some ggaString else none

end Gga

open Gga

/-- `reportGGAToNtrip`; `none` if it throws. -/
def Dgnss.reportGGAToNtrip (d : Dgnss) (isInSession : Bool) (nmea : Option (List Char)) :
    Option (Dgnss × List XtraCall) :=
  if d.isDgnssNmeaRequired = true then
    match nmea with
    | none | some [] => some (d, [])
    | some nmeaString =>
      match toKeep nmeaString with
      | none => none
      | some none => some (d, [])
      | some (some ggaString) => some (d.reportGGA isInSession (String.ofList ggaString) true)
  else some (d, [])

namespace Gga

/-! ## What is asked of it -/

/-- A GGA sentence: `$`, a talker, GGA and what there is up to the next `$`. -/
def IsGga (sentence : List Char) : Prop :=
  ∃ body, sentence = '$' :: body ∧ '$' ∉ body ∧ gga <+: body.drop 2

/-- The string ends or the next sentence begins. -/
def Ends (post : List Char) : Prop := post = [] ∨ ∃ rest, post = '$' :: rest

/-- A GGA sentence in a string, and what stands before and behind it. -/
structure IsGgaIn (nmea pre sentence post : List Char) : Prop where
  eq : nmea = pre ++ (sentence ++ post)
  isGga : IsGga sentence
  ends : Ends post

/-- The GGA sentence of a string, the first if there are several. -/
def GgaOf (nmea sentence : List Char) : Prop :=
  ∃ pre post, IsGgaIn nmea pre sentence post ∧
    ∀ pre' sentence' post', IsGgaIn nmea pre' sentence' post' → pre.length ≤ pre'.length

/-- Behind time, latitude and longitude. -/
def fixQuality (sentence : List Char) : Option (List Char) :=
  (sentence.splitOn ',')[COMMAS_BEFORE_VALID]?

/-- There is a fix quality, and it is not 0. -/
def HasFix (sentence : List Char) : Prop :=
  ∃ quality, fixQuality sentence = some quality ∧ quality ≠ [] ∧ quality ≠ ['0']

/-- Where a GGA sentence is wanted the one of the string is kept and
checkUpdateDgnssNtrip called if it has a fix, and nothing done if it has
none. -/
def Right (nmea : List Char) : Prop :=
  ∀ (d : Dgnss) (isInSession : Bool), d.isDgnssNmeaRequired = true →
    ∃ out, d.reportGGAToNtrip isInSession (some nmea) = some out ∧
      ((∃ sentence, GgaOf nmea sentence ∧ HasFix sentence ∧
          out = d.reportGGA isInSession (String.ofList sentence) true) ∨
        ((¬ ∃ sentence, GgaOf nmea sentence ∧ HasFix sentence) ∧ out = (d, [])))

/-! ## The strings that fit -/

/-- What stands from three characters before the first GGA to the next `$`. -/
structure IsFirstGga (nmea pre part post : List Char) : Prop where
  eq : nmea = pre ++ (part ++ post)
  occurs : gga <+: part.drop POS_OF_GGA
  first : ∀ j < pre.length + POS_OF_GGA, ¬ gga <+: nmea.drop j
  unbroken : '$' ∉ part.drop POS_OF_GGA
  ends : Ends post

/-- The quality can be judged by its last character. -/
def ReadsQuality (sentence : List Char) : Prop :=
  sentence.count ',' ≠ COMMAS_BEFORE_VALID ∧ ∀ quality, fixQuality sentence = some quality →
      quality ≠ [] ∧ (quality = ['0'] ∨ quality.getLast? ≠ some '0')

/-- There are too few commas, or a 0 before the seventh. -/
def NotTaken (part : List Char) : Prop :=
  part.count ',' < COMMAS_BEFORE_VALID ∨
    ∃ a b, part = a ++ '0' :: ',' :: b ∧ a.count ',' = COMMAS_BEFORE_VALID

/-- A GGA sentence, with nothing on one of its sides. -/
def IsAlone (pre part post : List Char) : Prop := IsGga part ∧ (pre = [] ∨ post = [])

def Fits (nmea : List Char) : Prop :=
  (¬ (∃ pre part post, IsFirstGga nmea pre part post) ∧
    ¬ ∃ sentence, GgaOf nmea sentence ∧ HasFix sentence) ∨
  ∃ pre part post, IsFirstGga nmea pre part post ∧ ((IsAlone pre part post ∧ ReadsQuality part) ∨
      (¬ IsAlone pre part post ∧ ¬ (∃ sentence, GgaOf nmea sentence ∧ HasFix sentence) ∧
        NotTaken (part ++ post.take pre.length)))

/-! ## The test for the quality -/

section Quality

variable {x a q b : List Char}

theorem exists_quality (h : COMMAS_BEFORE_VALID < x.count ',') :
    ∃ a q b, x = a ++ ',' :: (q ++ ',' :: b) ∧ a.count ',' = 5 ∧ ',' ∉ q := by
  obtain ⟨front, b, rfl, hfront⟩ := exists_append_cons_of_lt_count h
  have hlt : 5 < front.count ',' := by
    rw [hfront]
    decide
  obtain ⟨a, q, rfl, ha⟩ := exists_append_cons_of_lt_count hlt
  refine ⟨a, q, b, append_assoc a (',' :: q) (',' :: b), ha, ?_⟩
  rw [count_append, count_cons_self, ha] at hfront
  exact count_eq_zero.mp (Nat.add_right_cancel (Nat.add_left_cancel hfront : _ = 0 + 1))

theorem fixQuality_eq (ha : a.count ',' = 5) (hq : ',' ∉ q) :
    fixQuality (a ++ ',' :: (q ++ ',' :: b)) = some q := by
  have hget := getElem?_splitOn (a := a) (b := b) hq
  rw [ha] at hget
  exact hget

theorem fixQuality_of_count_lt (h : x.count ',' < COMMAS_BEFORE_VALID) : fixQuality x = none := by
  unfold fixQuality
  rw [List.getElem?_eq_none_iff, length_splitOn]
  exact h

theorem isValid_of_count_lt (h : x.count ',' < COMMAS_BEFORE_VALID) : isValid x = some false := by
  have hfind := nthFrom_of_count_le [] (Nat.le_of_lt h)
  rw [nil_append, length_nil] at hfind
  unfold isValid
  rw [hfind]
  obtain ⟨left, hleft⟩ := Nat.exists_eq_add_of_lt h
  rw [hleft, Nat.add_assoc, Nat.add_sub_cancel_left]

theorem isValid_of_count_eq (h : x.count ',' = COMMAS_BEFORE_VALID) : isValid x = none := by
  have hfind := nthFrom_of_count_le [] (Nat.le_of_eq h)
  rw [nil_append, length_nil, h, Nat.sub_self] at hfind
  unfold isValid
  rw [hfind]

theorem isValid_append_cons (h : a.count ',' = COMMAS_BEFORE_VALID) :
    isValid (a ++ ',' :: b) = a.getLast?.map fun c => decide (c ≠ '0') := by
  have hfind := nthFrom_append_cons (b := b) [] h
  rw [nil_append, length_nil, Nat.zero_add] at hfind
  have hpos : a.length ≠ 0 := by
    intro hlength
    rw [length_eq_zero_iff.mp hlength] at h
    cases h
  unfold isValid
  rw [hfind]
  dsimp only
  rw [List.getElem?_append_left (Nat.sub_one_lt hpos), List.getLast?_eq_getElem?]

theorem isValid_eq (ha : a.count ',' = 5) (hq : ',' ∉ q) :
    isValid (a ++ ',' :: (q ++ ',' :: b)) = some (q.getLast? != some '0') := by
  have hfront : (a ++ ',' :: q).count ',' = COMMAS_BEFORE_VALID := by
    rw [count_append, count_cons_self, count_eq_zero.mpr hq, ha]
    rfl
  have hvalid := isValid_append_cons (b := b) hfront
  rw [append_assoc] at hvalid
  refine hvalid.trans ?_
  rw [List.getLast?_append, List.getLast?_cons]
  cases q.getLast? with
  | none => rfl
  | some c =>
    show some (decide (c ≠ '0')) = some (some c != some '0')
    by_cases hc : c = '0'
    · rw [hc]
      rfl
    · rw [decide_eq_true hc, bne_iff_ne.mpr fun h => hc (some.inj h)]

theorem judged_iff :
    (∃ valid, isValid x = some valid ∧ (valid = true ↔ HasFix x)) ↔ ReadsQuality x := by
  rcases Nat.lt_trichotomy (x.count ',') COMMAS_BEFORE_VALID with hlt | heq | hgt
  · have hnone := fixQuality_of_count_lt hlt
    refine iff_of_true ⟨false, isValid_of_count_lt hlt, ?_⟩ ⟨Nat.ne_of_lt hlt, fun q hq => ?_⟩
    · refine iff_of_false Bool.false_ne_true ?_
      rintro ⟨q, hq, -⟩
      cases hnone.symm.trans hq
    · cases hnone.symm.trans hq
  · refine iff_of_false ?_ fun h => h.1 heq
    rintro ⟨valid, hvalid, -⟩
    cases (isValid_of_count_eq heq).symm.trans hvalid
  · obtain ⟨a, q, b, rfl, ha, hq⟩ := exists_quality hgt
    have hfix : HasFix (a ++ ',' :: (q ++ ',' :: b)) ↔ q ≠ [] ∧ q ≠ ['0'] := by
      unfold HasFix
      rw [fixQuality_eq ha hq]
      exact ⟨fun ⟨_, h, hne⟩ => some.inj h ▸ hne, fun h => ⟨q, rfl, h⟩⟩
    have hreads : ReadsQuality (a ++ ',' :: (q ++ ',' :: b)) ↔
        q ≠ [] ∧ (q = ['0'] ∨ q.getLast? ≠ some '0') := by
      unfold ReadsQuality
      rw [fixQuality_eq ha hq, and_iff_right (Nat.ne_of_gt hgt)]
      exact ⟨fun h => h q rfl, fun h _ hq => some.inj hq ▸ h⟩
    rw [hreads, hfix, isValid_eq ha hq]
    constructor
    · rintro ⟨valid, hvalid, hiff⟩
      cases hvalid
      rw [bne_iff_ne] at hiff
      have hne : q ≠ [] := by
        rintro rfl
        exact (hiff.mp (some_ne_none '0').symm).1 rfl
      refine ⟨hne, or_iff_not_imp_left.mpr fun hzero => hiff.mpr ⟨hne, hzero⟩⟩
    · rintro ⟨hne, hlast⟩
      refine ⟨_, rfl, ?_⟩
      rw [bne_iff_ne, and_iff_right hne]
      constructor
      · rintro h rfl
        exact h rfl
      · intro hzero
        exact hlast.resolve_left hzero

theorem isValid_eq_false_iff : isValid x = some false ↔ NotTaken x := by
  have hback : ∀ a b : List Char, a.count ',' = COMMAS_BEFORE_VALID →
      isValid (a ++ '0' :: ',' :: b) = some false := by
    intro a b ha
    have hfront : (a ++ ['0']).count ',' = COMMAS_BEFORE_VALID := by
      rw [count_append, ha]
      rfl
    have hvalid := isValid_append_cons (b := b) hfront
    rw [append_assoc, List.getLast?_concat] at hvalid
    exact hvalid
  constructor
  · intro h
    rcases Nat.lt_trichotomy (x.count ',') COMMAS_BEFORE_VALID with hlt | heq | hgt
    · exact .inl hlt
    · cases (isValid_of_count_eq heq).symm.trans h
    · obtain ⟨a, b, rfl, ha⟩ := exists_append_cons_of_lt_count hgt
      rw [isValid_append_cons ha, map_eq_some_iff] at h
      obtain ⟨c, hlast, hc⟩ := h
      obtain rfl := of_not_not (of_decide_eq_false hc)
      obtain ⟨front, rfl⟩ := List.getLast?_eq_some_iff.mp hlast
      refine .inr ⟨front, b, append_assoc front ['0'] (',' :: b), ?_⟩
      rw [count_append] at ha
      exact ha
  · rintro (hlt | ⟨a, b, rfl, ha⟩)
    · exact isValid_of_count_lt hlt
    · exact hback a b ha

end Quality

/-! ## The sentence that is cut out -/

section Cut

variable {nmea pre part post sentence : List Char} {foundPos : ℕ}

section

variable (h : IsFirstGga nmea pre part post)
include h

theorem IsFirstGga.le_length : POS_OF_GGA ≤ part.length := by
  by_contra hlt
  have hnil : part.drop POS_OF_GGA = [] := drop_of_length_le (Nat.le_of_not_le hlt)
  have hocc := h.occurs
  rw [hnil, prefix_nil] at hocc
  cases hocc

theorem IsFirstGga.split : nmea = (pre ++ part.take POS_OF_GGA) ++ (part.drop POS_OF_GGA ++ post) ∧
      (pre ++ part.take POS_OF_GGA).length = pre.length + POS_OF_GGA := by
  constructor
  · rw [append_assoc, ← append_assoc (part.take _), take_append_drop]
    exact h.eq
  · rw [length_append, length_take, Nat.min_eq_left h.le_length]

theorem IsFirstGga.findIn : findIn gga nmea = some (pre.length + POS_OF_GGA) := by
  obtain ⟨hsplit, hlength⟩ := h.split
  refine findIn_eq_some_iff.mpr ⟨?_, h.first⟩
  rw [hsplit, ← hlength, drop_left]
  exact h.occurs.trans (prefix_append _ _)

theorem ggaString_eq : ggaString nmea = some (part ++ post.take pre.length) := by
  obtain ⟨hsplit, hlength⟩ := h.split
  have hrest : nmea.drop pre.length = part ++ post := by
    rw [h.eq, drop_left]
  unfold ggaString
  rw [find_zero, h.findIn]
  dsimp only
  rw [if_pos (Nat.le_add_left _ _), Nat.add_sub_cancel, hrest]
  rcases h.ends with rfl | ⟨rest, rfl⟩
  · have hnone : find ['$'] nmea (pre.length + POS_OF_GGA) = none := by
      rw [hsplit, ← hlength, append_nil]
      exact find_append_of_not_mem _ h.unbroken
    rw [hnone, take_nil]
  · have hsome : find ['$'] nmea (pre.length + POS_OF_GGA) = some (pre.length + part.length) := by
      rw [hsplit, ← hlength, find_append_cons _ h.unbroken, hlength, length_drop,
        Nat.add_assoc, Nat.add_sub_cancel' h.le_length]
    rw [hsome]
    dsimp only
    rw [Nat.add_comm, take_length_add_append]

end

theorem exists_isFirstGga (h : findIn gga nmea = some foundPos) (hle : POS_OF_GGA ≤ foundPos) :
    ∃ pre part post, IsFirstGga nmea pre part post := by
  obtain ⟨hocc, hfirst⟩ := findIn_eq_some_iff.mp h
  obtain ⟨n, rfl⟩ := Nat.exists_eq_add_of_le' hle
  have hlt : n + POS_OF_GGA < nmea.length := by
    by_contra hge
    rw [drop_of_length_le (Nat.le_of_not_lt hge), prefix_nil] at hocc
    cases hocc
  have hpre : (nmea.take n).length = n :=
    length_take_of_le (Nat.le_trans (Nat.le_add_right _ _) (Nat.le_of_lt hlt))
  obtain ⟨text, post, htext, hunbroken, hends⟩ : ∃ text post,
      nmea.drop (n + POS_OF_GGA) = text ++ post ∧ '$' ∉ text ∧ Ends post := by
    by_cases hmem : '$' ∈ nmea.drop (n + POS_OF_GGA)
    · obtain ⟨text, rest, htext, hnot⟩ := exists_first_of_mem hmem
      exact ⟨text, '$' :: rest, htext, hnot, .inr ⟨rest, rfl⟩⟩
    · exact ⟨_, [], (append_nil _).symm, hmem, .inl rfl⟩
  have hthree : ((nmea.drop n).take POS_OF_GGA).length = POS_OF_GGA := by
    rw [length_take_of_le]
    rw [length_drop]
    omega
  have hdrop : ((nmea.drop n).take POS_OF_GGA ++ text).drop POS_OF_GGA = text := by
    rw [drop_append_of_le_length (Nat.le_of_eq hthree.symm), drop_take, Nat.sub_self,
      take_zero, nil_append]
  have hinside : gga <+: text := by
    rw [htext] at hocc
    rcases hends with rfl | ⟨rest, rfl⟩
    · rw [append_nil] at hocc
      exact hocc
    · exact prefix_of_prefix_append_cons (by decide) hocc
  refine ⟨nmea.take n, (nmea.drop n).take POS_OF_GGA ++ text, post, ?_, ?_, ?_, ?_, hends⟩
  · rw [append_assoc, ← htext, ← drop_drop, take_append_drop, take_append_drop]
  · rw [hdrop]
    exact hinside
  · rw [hpre]
    exact hfirst
  · rw [hdrop]
    exact hunbroken

theorem ggaString_of_not (h : ¬ ∃ pre part post, IsFirstGga nmea pre part post) :
    ggaString nmea = none := by
  unfold ggaString
  rw [find_zero]
  cases hfind : findIn gga nmea with
  | none => rfl
  | some foundPos => exact if_neg fun hle => h (exists_isFirstGga hfind hle)

theorem IsFirstGga.ggaOf (h : IsFirstGga nmea pre part post) (hgga : IsGga part) :
    GgaOf nmea part := by
  refine ⟨pre, post, ⟨h.eq, hgga, h.ends⟩, fun pre' sentence' post' h' => ?_⟩
  obtain ⟨body, rfl, -, hocc⟩ := h'.isGga
  by_contra hlt
  refine h.first (pre'.length + POS_OF_GGA) (by omega) ?_
  have hdrop : nmea.drop (pre'.length + POS_OF_GGA) = (body ++ post').drop 2 := by
    rw [h'.eq, ← drop_drop, drop_left]
    rfl
  rw [hdrop, drop_append]
  exact hocc.trans (prefix_append _ _)

theorem append_right_of_ends {a b post post' : List Char} (ha : '$' ∉ a) (hb : '$' ∉ b)
    (hpost : Ends post) (hpost' : Ends post') (h : a ++ post = b ++ post') : a = b := by
  have htake : ∀ (a post : List Char), '$' ∉ a → Ends post →
      (a ++ post).takeWhile (· ≠ '$') = a := by
    intro a post ha hpost
    have hall : ∀ c ∈ a, decide (c ≠ '$') = true := fun c hc =>
      decide_eq_true fun heq => ha (heq ▸ hc)
    rw [takeWhile_append_of_pos hall]
    rcases hpost with rfl | ⟨rest, rfl⟩
    · exact append_nil a
    · exact append_nil a
  rw [← htake a post ha hpost, h, htake b post' hb hpost']

theorem GgaOf.unique {sentence' : List Char} (h : GgaOf nmea sentence)
    (h' : GgaOf nmea sentence') : sentence = sentence' := by
  obtain ⟨pre, post, hin, hfirst⟩ := h
  obtain ⟨pre', post', hin', hfirst'⟩ := h'
  have hlength := Nat.le_antisymm (hfirst _ _ _ hin') (hfirst' _ _ _ hin)
  obtain ⟨-, heq⟩ := append_inj (hin.eq.symm.trans hin'.eq) hlength
  obtain ⟨body, rfl, hbody, -⟩ := hin.isGga
  obtain ⟨body', rfl, hbody', -⟩ := hin'.isGga
  have htail := (List.cons.inj heq).2
  rw [append_right_of_ends hbody hbody' hin.ends hin'.ends htail]

theorem isAlone_of_isGga (h : IsFirstGga nmea pre part post)
    (hgga : IsGga (part ++ post.take pre.length)) :
    IsAlone pre part post ∧ part ++ post.take pre.length = part := by
  have hnil : pre = [] ∨ post = [] := by
    by_contra hne
    obtain ⟨hpre, hpost⟩ := not_or.mp hne
    obtain ⟨rest, rfl⟩ := h.ends.resolve_left hpost
    obtain ⟨body, hbody, hnot, -⟩ := hgga
    cases pre with
    | nil => exact hpre rfl
    | cons p pre =>
      cases part with
      | nil => exact absurd h.le_length (by decide)
      | cons c part =>
        obtain ⟨-, rfl⟩ := List.cons.inj hbody
        refine hnot (mem_append_right part ?_)
        exact mem_cons_self
  have heq : part ++ post.take pre.length = part := by
    rcases hnil with rfl | rfl
    · exact append_nil part
    · rw [take_nil, append_nil]
  exact ⟨⟨heq ▸ hgga, hnil⟩, heq⟩

end Cut

/-! ## The whole -/

section Whole

variable {nmea : List Char}

/-- What is kept is right. -/
def KeepsRight (nmea : List Char) : Prop :=
  (∃ sentence, GgaOf nmea sentence ∧ HasFix sentence ∧ toKeep nmea = some (some sentence)) ∨
    ((¬ ∃ sentence, GgaOf nmea sentence ∧ HasFix sentence) ∧ toKeep nmea = some none)

variable {x : List Char}

theorem toKeep_eq (h : ggaString nmea = some x) :
    toKeep nmea = (isValid x).map fun valid => if valid then some x else none := by
  unfold toKeep
  rw [h]

theorem keepsRight_iff_readsQuality {sentence : List Char} (hof : GgaOf nmea sentence)
    (hcut : ggaString nmea = some sentence) : KeepsRight nmea ↔ ReadsQuality sentence := by
  have hfix : (∃ s, GgaOf nmea s ∧ HasFix s) ↔ HasFix sentence :=
    ⟨fun ⟨_, hs, hfix⟩ => hs.unique hof ▸ hfix, fun hfix => ⟨sentence, hof, hfix⟩⟩
  unfold KeepsRight
  rw [← judged_iff, toKeep_eq hcut, hfix]
  constructor
  · rintro (⟨s, hs, hs', hkeep⟩ | ⟨hno, hkeep⟩)
    · obtain ⟨valid, hvalid, hsome⟩ := map_eq_some_iff.mp hkeep
      obtain rfl := hs.unique hof
      refine ⟨valid, hvalid, iff_of_true ?_ hs'⟩
      by_contra hfalse
      rw [if_neg hfalse] at hsome
      cases hsome
    · obtain ⟨valid, hvalid, hnone⟩ := map_eq_some_iff.mp hkeep
      refine ⟨valid, hvalid, iff_of_false (fun htrue => ?_) hno⟩
      rw [if_pos htrue] at hnone
      cases hnone
  · rintro ⟨valid, hvalid, hiff⟩
    rw [hvalid]
    cases valid with
    | true => exact .inl ⟨sentence, hof, hiff.mp rfl, rfl⟩
    | false => exact .inr ⟨fun h => Bool.false_ne_true (hiff.mpr h), rfl⟩

theorem keepsRight_iff_notTaken (hno : ¬ GgaOf nmea x) (hcut : ggaString nmea = some x) :
    KeepsRight nmea ↔ (¬ ∃ s, GgaOf nmea s ∧ HasFix s) ∧ NotTaken x := by
  unfold KeepsRight
  rw [← isValid_eq_false_iff, toKeep_eq hcut]
  constructor
  · rintro (⟨s, hs, -, hkeep⟩ | ⟨hnone, hkeep⟩)
    · obtain ⟨valid, -, hsome⟩ := map_eq_some_iff.mp hkeep
      cases valid with
      | true => exact absurd (some.inj hsome ▸ hs) hno
      | false => cases hsome
    · obtain ⟨valid, hvalid, heq⟩ := map_eq_some_iff.mp hkeep
      cases valid with
      | true => cases heq
      | false => exact ⟨hnone, hvalid⟩
  · rintro ⟨hnone, hvalid⟩
    rw [hvalid]
    exact .inr ⟨hnone, rfl⟩

theorem keepsRight_iff_of_isFirstGga {pre part post : List Char}
    (h : IsFirstGga nmea pre part post) :
    KeepsRight nmea ↔ (IsAlone pre part post ∧ ReadsQuality part) ∨
      (¬ IsAlone pre part post ∧ ¬ (∃ sentence, GgaOf nmea sentence ∧ HasFix sentence) ∧
        NotTaken (part ++ post.take pre.length)) := by
  have hcut := ggaString_eq h
  by_cases halone : IsAlone pre part post
  · have heq : part ++ post.take pre.length = part := by
      rcases halone.2 with rfl | rfl
      · exact append_nil part
      · rw [take_nil, append_nil]
    rw [heq] at hcut
    rw [keepsRight_iff_readsQuality (h.ggaOf halone.1) hcut]
    exact ⟨fun hreads => .inl ⟨halone, hreads⟩,
      fun hor => (hor.resolve_right fun hr => hr.1 halone).2⟩
  · have hno : ¬ GgaOf nmea (part ++ post.take pre.length) := by
      rintro ⟨_, _, hin, -⟩
      exact halone (isAlone_of_isGga h hin.isGga).1
    rw [keepsRight_iff_notTaken hno hcut]
    exact ⟨fun hr => .inr ⟨halone, hr⟩, fun hor => (hor.resolve_left fun hl => halone hl.1).2⟩

theorem keepsRight_iff_fits : KeepsRight nmea ↔ Fits nmea := by
  constructor
  · intro hkeeps
    by_cases hpart : ∃ pre part post, IsFirstGga nmea pre part post
    · obtain ⟨pre, part, post, h⟩ := hpart
      exact .inr ⟨pre, part, post, h, (keepsRight_iff_of_isFirstGga h).mp hkeeps⟩
    · have hkeep : toKeep nmea = some none := by
        unfold toKeep
        rw [ggaString_of_not hpart]
      rcases hkeeps with ⟨_, -, -, heq⟩ | ⟨hno, -⟩
      · cases hkeep.symm.trans heq
      · exact .inl ⟨hpart, hno⟩
  · rintro (⟨hpart, hno⟩ | ⟨pre, part, post, h, hor⟩)
    · refine .inr ⟨hno, ?_⟩
      unfold toKeep
      rw [ggaString_of_not hpart]
    · exact (keepsRight_iff_of_isFirstGga h).mpr hor

theorem reportGGAToNtrip_eq {d : Dgnss} (hrequired : d.isDgnssNmeaRequired = true)
    (isInSession : Bool) (nmea : List Char) :
    d.reportGGAToNtrip isInSession (some nmea) = (toKeep nmea).map fun keep =>
      match keep with
      | none => (d, [])
      | some sentence => d.reportGGA isInSession (String.ofList sentence) true := by
  unfold Dgnss.reportGGAToNtrip
  rw [if_pos hrequired]
  cases nmea with
  | nil => rfl
  | cons c nmea =>
    dsimp only
    cases toKeep (c :: nmea) with
    | none => rfl
    | some keep => cases keep <;> rfl

/-- A source that waits for its first sentence. -/
def waiting : Dgnss :=
  { Dgnss.new with
    mSendNmeaConsent := true
    mStartDgnssNtripParams := ⟨⟨false, "", 0, "", "", "", true⟩, ""⟩ }

theorem waiting_reportGGA (sentence : String) : waiting.reportGGA false sentence true =
      ({ waiting with
        mDgnssState := ⟨false, true, false⟩
        mStartDgnssNtripParams := { waiting.mStartDgnssNtripParams with nmea := sentence } }, []) :=
  rfl

theorem right_iff_keepsRight : Right nmea ↔ KeepsRight nmea := by
  constructor
  · intro hright
    obtain ⟨out, hout, hor⟩ := hright waiting false rfl
    rw [reportGGAToNtrip_eq rfl] at hout
    obtain ⟨keep, hkeep, rfl⟩ := map_eq_some_iff.mp hout
    rcases hor with ⟨s, hs, hfix, heq⟩ | ⟨hno, heq⟩
    · refine .inl ⟨s, hs, hfix, ?_⟩
      cases keep with
      | none => cases heq
      | some sentence =>
        dsimp only at heq
        rw [waiting_reportGGA, waiting_reportGGA] at heq
        have hnmea := congrArg (fun out => out.1.mStartDgnssNtripParams.nmea) heq
        rw [hkeep, String.ofList_injective hnmea]
    · refine .inr ⟨hno, ?_⟩
      cases keep with
      | none => exact hkeep
      | some sentence => cases heq
  · intro hkeeps d isInSession hrequired
    rw [reportGGAToNtrip_eq hrequired]
    rcases hkeeps with ⟨s, hs, hfix, hkeep⟩ | ⟨hno, hkeep⟩
    · rw [hkeep]
      exact ⟨_, rfl, .inl ⟨s, hs, hfix, rfl⟩⟩
    · rw [hkeep]
      exact ⟨_, rfl, .inr ⟨hno, rfl⟩⟩

/-- The GGA sentence is kept just when it has a fix for exactly the strings
that fit; where no sentence is wanted nothing is done. -/
theorem reportGGAToNtrip_right_iff (nmea : List Char) : (Right nmea ↔ Fits nmea) ∧
      ∀ (d : Dgnss) (isInSession : Bool), d.isDgnssNmeaRequired = false →
        d.reportGGAToNtrip isInSession (some nmea) = some (d, []) := by
  refine ⟨right_iff_keepsRight.trans keepsRight_iff_fits, fun d isInSession hnot => ?_⟩
  unfold Dgnss.reportGGAToNtrip
  exact if_neg fun h => Bool.false_ne_true (hnot.symm.trans h)

/-- A sentence between two others. -/
def between : List Char := "$GPRMC,,V*31$GPGGA,1,2,N,4,E,1,8*02$GPGSA,A,1*33".toList

/-- It is kept with twelve characters of the next one. -/
theorem not_right_between : ¬ ∀ nmea : List Char, Right nmea := by
  intro hall
  obtain ⟨out, hout, hor⟩ := hall between waiting false rfl
  have hkeep : toKeep between = some (some "$GPGGA,1,2,N,4,E,1,8*02$GPGSA,A,1*3".toList) := by
    decide
  rw [reportGGAToNtrip_eq rfl, hkeep] at hout
  obtain rfl := some.inj hout
  rcases hor with ⟨s, hs, -, heq⟩ | ⟨-, heq⟩
  · have hnmea := congrArg (fun out => out.1.mStartDgnssNtripParams.nmea) heq
    obtain rfl := String.ofList_injective hnmea
    obtain ⟨_, _, hin, -⟩ := hs
    obtain ⟨body, hbody, hnot, -⟩ := hin.isGga
    obtain ⟨-, rfl⟩ := List.cons.inj hbody
    exact hnot (by decide)
  · cases heq

end Whole

end Gga

end LocStack.Tracking
