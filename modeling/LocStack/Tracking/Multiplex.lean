/-
# `LocStack.Tracking.Multiplex` — one fix for all the time based sessions

Whenever there are time based sessions, the options last handed to LocApi's
startTimeBasedTracking should have the smallest interval of all of them and
the smallest power mode that is one.  Start, update and stop each arrive at
the options by a loop of their own over the sessions, and only stop does it
right in every case: it takes the session with the smallest interval and
replaces its power mode by the smallest (`Multiplexed.Of.serves`).  Start
and update leave the power mode of that session alone unless their own
session lowers it (`Multiplexed.lowered`), compare with INVALID as if it
were the smallest mode, and update takes no notice when its session was the
one that set the pace.  `MultiplexesWell` says when none of this shows, and
`handsLeast` that then it does not, in any run.

NHz engines are taken to be off, as they force an interval of their own.
-/
import LocStack.Tracking.Orderly

namespace LocStack.Tracking

open Base

/-! ## When a session joins and changes well -/

/-- A session of these options joins sessions of the options `os`: it is of
their kind, and if its interval is below theirs, then its power mode is too,
or the first of those with their smallest interval has their smallest power
mode. -/
def JoinsWell (os : List TrackingOptions) (o : TrackingOptions) : Prop :=
  ∀ lead ∈ os.argmin (·.minInterval), (o.powerMode = .invalid ↔ lead.powerMode = .invalid) ∧
      (o.minInterval < lead.minInterval →
        (∀ x ∈ os, o.powerMode < x.powerMode) ∨ ∀ x ∈ os, lead.powerMode ≤ x.powerMode)
  deriving Decidable

/-- A session was needed for the smallest interval or power mode: without it
one of them is larger. -/
def SetsThePace (os : List TrackingOptions) (old : TrackingOptions) : Prop :=
  (∃ lead ∈ os.argmin (·.minInterval), old.minInterval < lead.minInterval) ∨
    ∀ x ∈ os, old.powerMode < x.powerMode
  deriving Decidable

/-- A session with other sessions `os` beside it changes from `old` to `o`:
nothing that matters, or as it may join them, and if it does not set the
pace afterwards then it did not before. -/
def UpdatesWell (os : List TrackingOptions) (old o : TrackingOptions) : Prop :=
  (old.minInterval = o.minInterval ∧ old.powerMode = o.powerMode) ∨ os = [] ∨
    (JoinsWell os o ∧ (SetsThePace os old → SetsThePace os o))
  deriving Decidable

/-- The same where the session is told to become distance based and stays
time based, LocApi having been told of its end: nothing that matters
changes, or the others set the pace. -/
def StaysWell (os : List TrackingOptions) (old o : TrackingOptions) : Prop :=
  (os = [] ∧ old.minInterval = o.minInterval ∧ old.powerMode = o.powerMode) ∨
    (os ≠ [] ∧ JoinsWell os o ∧ ¬ SetsThePace os o)
  deriving Decidable

/-! ## The conditions, read off the loop -/

section Loop

variable {os : List TrackingOptions} {m : Multiplexed} {o : TrackingOptions}

theorem OneKind.insert {os : Set TrackingOptions} (h : OneKind os)
    (ho : ∀ x ∈ os, (o.powerMode = .invalid ↔ x.powerMode = .invalid)) :
    OneKind (insert o os) := by
  rintro x (rfl | hx) y (rfl | hy)
  · exact Iff.rfl
  · exact ho y hy
  · exact (ho x hx).symm
  · exact h x hx y hy

theorem Multiplexed.Of.exists_powerMode {os : Set TrackingOptions} (hm : m.Of os) :
    ∃ x ∈ os, x.powerMode = m.powerMode := by
  rcases hm.power with h | ⟨hp, hall⟩
  · exact h.1.1
  · exact ⟨m.options, hm.mem, (hall _ ⟨m.options, hm.mem, rfl⟩).trans hp.symm⟩

theorem Multiplexed.Of.powerMode_le {os : Set TrackingOptions} (hm : m.Of os)
    (hkind : OneKind os) : ∀ x ∈ os, m.powerMode ≤ x.powerMode := by
  intro x hx
  rcases hm.power with h | ⟨hp, _⟩
  · refine h.2 ⟨⟨x, hx, rfl⟩, fun hinvalid => ?_⟩
    obtain ⟨y, hy, hym⟩ := hm.exists_powerMode
    exact h.1.2 (hym ▸ (hkind x hx y hy).mp hinvalid)
  · rw [hp]
    exact x.powerMode.invalid_le

theorem Multiplexed.Of.kind_iff {os : Set TrackingOptions} (hm : m.Of os) (hkind : OneKind os)
    {x : TrackingOptions} (hx : x ∈ os) :
    x.powerMode = .invalid ↔ m.powerMode = .invalid :=
  hm.power.invalid_iff hkind x hx

theorem Multiplexed.Of.lt_powerMode_iff {os : Set TrackingOptions} (hm : m.Of os)
    (hkind : OneKind os) {p : GnssPowerMode} :
    p < m.powerMode ↔ ∀ x ∈ os, p < x.powerMode := by
  constructor
  · exact fun h x hx => lt_of_lt_of_le h (hm.powerMode_le hkind x hx)
  · intro h
    obtain ⟨x, hx, hxm⟩ := hm.exists_powerMode
    exact hxm ▸ h x hx

theorem setsThePace_iff (hm : m.Of {x | x ∈ os}) (hkind : OneKind {x | x ∈ os})
    (hlead : os.argmin (·.minInterval) = some m.options) :
    SetsThePace os o ↔ m.updateOptions o = true := by
  simp only [SetsThePace, hlead, Option.mem_some_iff, exists_eq_left', Multiplexed.updateOptions,
    Bool.or_eq_true, decide_eq_true_eq]
  exact or_congr_right (hm.lt_powerMode_iff hkind).symm

variable (h : JoinsWell os o) (hm : m.Of {x | x ∈ os}) (hkind : OneKind {x | x ∈ os})
  (hlead : os.argmin (·.minInterval) = some m.options)
include h hm hkind hlead

theorem JoinsWell.kind_iff : o.powerMode = .invalid ↔ m.powerMode = .invalid :=
  (h m.options hlead).1.trans (hm.kind_iff hkind hm.mem)

theorem JoinsWell.lead (hi : o.minInterval < m.options.minInterval) :
    o.powerMode < m.powerMode ∨ m.options.powerMode = m.powerMode := by
  rcases (h m.options hlead).2 hi with hp | hp
  · exact .inl ((hm.lt_powerMode_iff hkind).mpr hp)
  · obtain ⟨x, hx, hxm⟩ := hm.exists_powerMode
    exact .inr (le_antisymm (hxm ▸ hp x hx) (hm.powerMode_le hkind m.options hm.mem))

theorem JoinsWell.oneKind : OneKind (insert o {x | x ∈ os}) :=
  hkind.insert fun _ hx => (h.kind_iff hm hkind hlead).trans (hm.kind_iff hkind hx).symm

end Loop

/-! ## The multiplexers -/

namespace GnssAdapter

variable {a b : GnssAdapter} {key : LocationSessionKey} {o options : TrackingOptions}

/-- The options last handed to startTimeBasedTracking are the least that
serve the time based sessions, if there are any. -/
def HandsLeast (a : GnssAdapter) : Prop :=
  a.mTimeBasedTrackingSessions.isEmpty = false →
    ∃ h, a.mLocApi.timeBased = some h ∧ Serves h (optionsOf a.mTimeBasedTrackingSessions)

/-- What an orderly run keeps, if the multiplexers do well. -/
structure ServesAll (a : GnssAdapter) : Prop where
  nHz : a.mNHzNeeded = false
  kind : OneKind (optionsOf a.mTimeBasedTrackingSessions)
  serves : a.mTimeBasedTrackingSessions.isEmpty = false →
    ∃ h, a.mLocApi.timeBased = some h ∧ Serves h (optionsOf a.mTimeBasedTrackingSessions)

theorem ServesAll.congr (ha : a.ServesAll)
    (ht : b.mTimeBasedTrackingSessions = a.mTimeBasedTrackingSessions)
    (hn : b.mNHzNeeded = a.mNHzNeeded) (hh : b.mLocApi.timeBased = a.mLocApi.timeBased) :
    b.ServesAll where
  nHz := hn.trans ha.nHz
  kind := ht ▸ ha.kind
  serves := by
    rw [ht, hh]
    exact ha.serves

theorem runTimeBased_handed (hn : a.mNHzNeeded = false) {fn : ResponseFn} :
    (a.runTimeBased key options fn).mLocApi.timeBased = some options := by
  simp [runTimeBased, checkAndSetSPEToRunforNHz, hn, LocApi.startTimeBasedTracking]

theorem startTimeBasedTrackingMultiplex_serves (key : LocationSessionKey)
    (ha : a.ServesAll) (hsize : Sized a.mTimeBasedTrackingSessions)
    (hjoin : JoinsWell (optionsList a.mTimeBasedTrackingSessions) o) :
    (∃ h, (a.startTimeBasedTrackingMultiplex key o).1.mLocApi.timeBased = some h ∧
      Serves h (insert o (optionsOf a.mTimeBasedTrackingSessions))) ∧
      OneKind (insert o (optionsOf a.mTimeBasedTrackingSessions)) := by
  simp only [startTimeBasedTrackingMultiplex]
  cases hempty : a.mTimeBasedTrackingSessions.isEmpty with
  | true =>
    have hnone : optionsOf a.mTimeBasedTrackingSessions = ∅ := by
      rw [← Set.not_nonempty_iff_eq_empty, optionsOf_nonempty_iff, hempty]
      exact Bool.noConfusion
    rw [hnone, insert_empty_eq, if_pos rfl]
    refine ⟨⟨o, runTimeBased_handed ha.nHz, serves_singleton o⟩, ?_⟩
    rintro x rfl y rfl
    exact Iff.rfl
  | false =>
    have hne := optionsList_ne_nil_iff.mpr hempty
    have hm := multiplexAll_of hne hsize ha.kind
    have hlead := argmin_optionsList hne hsize
    have hkind := ha.kind
    rw [← setOf_mem_optionsList] at hm hkind ⊢
    have hiff := hjoin.kind_iff hm hkind hlead
    refine ⟨?_, hjoin.oneKind hm hkind hlead⟩
    rw [if_neg Bool.false_ne_true]
    split
    case isTrue hup =>
      exact ⟨_, runTimeBased_handed ha.nHz, hm.lowered_serves hiff hup (hjoin.lead hm hkind hlead)⟩
    case isFalse hup =>
      obtain ⟨h, hh, hs⟩ := ha.serves hempty
      rw [← setOf_mem_optionsList] at hs
      exact ⟨h, hh, hm.kept_serves hs hiff (Bool.eq_false_iff.mpr hup)⟩

/-- The others are served, if there are any. -/
structure ServesOthers (b : GnssAdapter) (sessions : TrackingSessions)
    (key : LocationSessionKey) : Prop where
  serves : (sessions.erase key).isEmpty = false →
    ∃ h, b.mLocApi.timeBased = some h ∧ Serves h (optionsOf (sessions.erase key))

theorem stopTimeBasedTrackingMultiplex_serves (ha : a.ServesAll)
    (hsize : Sized a.mTimeBasedTrackingSessions) (hkey : key ∈ a.mTimeBasedTrackingSessions) :
    (a.stopTimeBasedTrackingMultiplex key).1.ServesOthers a.mTimeBasedTrackingSessions key where
  serves := by
    intro hempty
    obtain ⟨old, hold⟩ := Option.isSome_iff_exists.mp (Std.TreeMap.mem_iff_isSome_getElem?.mp hkey)
    have hsome : a.mTimeBasedTrackingSessions.isEmpty = false :=
      optionsOf_nonempty_iff.mp ⟨old, key, hold⟩
    have hone : a.mTimeBasedTrackingSessions.size ≠ 1 := by
      rw [Ne, size_eq_one_iff hkey, hempty]
      exact Bool.false_ne_true
    have hne := othersList_ne_nil_iff.mpr hempty
    have hkindAll := ha.kind
    rw [optionsOf_eq_insert hold] at hkindAll
    have hkind := hkindAll.mono (Set.subset_insert old _)
    have hm := multiplexOthers_of hne hsize hkind
    simp only [stopTimeBasedTrackingMultiplex, if_neg hone, hold]
    split
    case isTrue hup => exact ⟨_, runTimeBased_handed ha.nHz, hm.serves⟩
    case isFalse hup =>
      obtain ⟨h, hh, hs⟩ := ha.serves hsome
      rw [optionsOf_eq_insert hold] at hs
      have hiff : old.powerMode = .invalid
          ↔ (multiplexOthers a.mTimeBasedTrackingSessions key).powerMode = .invalid :=
        (hkindAll old (Set.mem_insert _ _) _ (Set.mem_insert_of_mem _ hm.mem)).trans
          (hm.kind_iff hkind hm.mem)
      exact ⟨h, hh, hm.left_serves hs hiff (Bool.eq_false_iff.mpr hup)⟩

variable {old : TrackingOptions}

theorem updateTrackingMultiplex_serves (ha : a.ServesAll)
    (hsize : Sized a.mTimeBasedTrackingSessions)
    (hold : a.mTimeBasedTrackingSessions[key]? = some old)
    (hupdate : UpdatesWell (othersList a.mTimeBasedTrackingSessions key) old o) :
    (∃ h, (a.updateTrackingMultiplex key o).1.mLocApi.timeBased = some h ∧
      Serves h (insert o (optionsOf (a.mTimeBasedTrackingSessions.erase key)))) ∧
      OneKind (insert o (optionsOf (a.mTimeBasedTrackingSessions.erase key))) := by
  have hsome : a.mTimeBasedTrackingSessions.isEmpty = false :=
    optionsOf_nonempty_iff.mp ⟨old, key, hold⟩
  have hkey : key ∈ a.mTimeBasedTrackingSessions :=
    (Std.TreeMap.getElem?_eq_some_iff.mp hold).fst
  obtain ⟨h, hh, hs⟩ := ha.serves hsome
  have hkindAll := ha.kind
  rw [optionsOf_eq_insert hold] at hs hkindAll
  have hkind := hkindAll.mono (Set.subset_insert old _)
  simp only [updateTrackingMultiplex, hold]
  by_cases hsame : old.minInterval = o.minInterval ∧ old.powerMode = o.powerMode
  · -- nothing that is multiplexed changes
    rw [if_neg (by simp [hsame])]
    have hkind' : OneKind (insert o (optionsOf (a.mTimeBasedTrackingSessions.erase key))) := by
      refine hkind.insert fun x hx => ?_
      rw [← hsame.2]
      exact hkindAll old (Set.mem_insert _ _) x (Set.mem_insert_of_mem _ hx)
    refine ⟨⟨h, hh, ?_⟩, hkind'⟩
    refine ⟨?_, ?_⟩
    · have hi := hs.interval
      rw [Set.image_insert_eq] at hi ⊢
      rwa [← hsame.1]
    · have hp := hs.power
      rw [Set.image_insert_eq] at hp ⊢
      rwa [← hsame.2]
  · rw [if_pos (by
      by_cases hi : old.minInterval = o.minInterval
      · exact .inr fun hp => hsame ⟨hi, hp⟩
      · exact .inl hi)]
    rcases eq_or_ne (othersList a.mTimeBasedTrackingSessions key) [] with hnil | hne
    · -- the only session
      have hempty : (a.mTimeBasedTrackingSessions.erase key).isEmpty = true := by
        by_contra hne
        exact othersList_ne_nil_iff.mpr (Bool.eq_false_iff.mpr hne) hnil
      have hone := (size_eq_one_iff hkey).mpr hempty
      have hnone : optionsOf (a.mTimeBasedTrackingSessions.erase key) = ∅ := by
        rw [← setOf_mem_othersList, hnil]
        simp
      rw [if_pos hone, hnone, insert_empty_eq]
      refine ⟨⟨o, runTimeBased_handed ha.nHz, serves_singleton o⟩, ?_⟩
      rintro x rfl y rfl
      exact Iff.rfl
    · obtain ⟨hjoin, hpace⟩ := (hupdate.resolve_left hsame).resolve_left hne
      have hone : a.mTimeBasedTrackingSessions.size ≠ 1 := by
        rw [Ne, size_eq_one_iff hkey, othersList_ne_nil_iff.mp hne]
        exact Bool.false_ne_true
      have hm := multiplexOthers_of hne hsize hkind
      have hlead := argmin_othersList hne hsize
      rw [← setOf_mem_othersList] at hm hkind hkindAll hs ⊢
      have hiff := hjoin.kind_iff hm hkind hlead
      refine ⟨?_, hjoin.oneKind hm hkind hlead⟩
      rw [if_neg hone]
      split
      case isTrue hup =>
        exact ⟨_, runTimeBased_handed ha.nHz,
          hm.lowered_serves hiff hup (hjoin.lead hm hkind hlead)⟩
      case isFalse hup =>
        have hpaceOld : (multiplexOthers a.mTimeBasedTrackingSessions key).updateOptions old
            = false := by
          refine Bool.eq_false_iff.mpr fun hupOld => hup ?_
          exact (setsThePace_iff hm hkind hlead).mp
            (hpace ((setsThePace_iff hm hkind hlead).mpr hupOld))
        have hiffOld : old.powerMode = .invalid
            ↔ (multiplexOthers a.mTimeBasedTrackingSessions key).powerMode = .invalid :=
          (hkindAll old (Set.mem_insert _ _) _ (Set.mem_insert_of_mem _ hm.mem)).trans
            (hm.kind_iff hkind hm.mem)
        exact ⟨h, hh, hm.kept_serves (hm.left_serves hs hiffOld hpaceOld) hiff
          (Bool.eq_false_iff.mpr hup)⟩

/-! ## The sessions -/

theorem servesAll_save {h : TrackingOptions} (hn : a.mNHzNeeded = false)
    (htime : a.isDistanceBased o = false) (hh : a.mLocApi.timeBased = some h)
    (hs : Serves h (insert o (optionsOf (a.mTimeBasedTrackingSessions.erase key))))
    (hkind : OneKind (insert o (optionsOf (a.mTimeBasedTrackingSessions.erase key)))) :
    (a.saveTrackingSession key o).ServesAll where
  nHz := by simpa
  kind := by
    rw [saveTrackingSession_timeBased, htime, if_neg Bool.false_ne_true, optionsOf_insert]
    exact hkind
  serves := by
    rw [saveTrackingSession_timeBased, saveTrackingSession_locApi, htime,
      if_neg Bool.false_ne_true, optionsOf_insert]
    exact fun _ => ⟨h, hh, hs⟩

section

variable (ha : a.ServesAll)
include ha

theorem ServesAll.reportResponse {err : LocationError} : (a.reportResponse key err).ServesAll :=
  ha.congr (by simp) (by simp) (by simp)

theorem ServesAll.reportIf {r : Bool} : (a.reportIf r key).ServesAll :=
  ha.congr (by simp) (by simp) (by simp)

variable (hsize : Sized a.mTimeBasedTrackingSessions)
include hsize

theorem ServesAll.startTimeBasedSession (hkey : key ∉ a.mTimeBasedTrackingSessions)
    (htime : a.isDistanceBased o = false)
    (hjoin : JoinsWell (optionsList a.mTimeBasedTrackingSessions) o) :
    (a.startTimeBasedSession key o).ServesAll := by
  have hsame : SameButFix a (a.startTimeBasedTrackingMultiplex key o).1 :=
    startTimeBasedTrackingMultiplex_same
  obtain ⟨⟨h, hh, hs⟩, hkind⟩ :=
    startTimeBasedTrackingMultiplex_serves key ha hsize hjoin
  have hnone : a.mTimeBasedTrackingSessions[key]? = none := Std.TreeMap.getElem?_eq_none hkey
  rw [← optionsOf_erase_of_not_mem hnone, ← hsame.timeBased] at hs hkind
  refine ServesAll.reportIf (servesAll_save ?_ ?_ hh hs hkind)
  · rw [hsame.nHzNeeded, ha.nHz]
  · rw [isDistanceBased, hsame.supported]
    exact htime

theorem ServesAll.stopTimeBasedSession (hkey : key ∈ a.mTimeBasedTrackingSessions) :
    (a.stopTimeBasedSession key).ServesAll := by
  have hsame : SameButFix a (a.stopTimeBasedTrackingMultiplex key).1 :=
    stopTimeBasedTrackingMultiplex_same
  have hothers := stopTimeBasedTrackingMultiplex_serves ha hsize hkey
  obtain ⟨ht, -, -⟩ := stopTimeBasedSession_rest hkey
  refine ⟨?_, ?_, ?_⟩
  · rw [GnssAdapter.stopTimeBasedSession, eraseTrackingSession_nHzNeeded, hsame.nHzNeeded, ha.nHz]
  · rw [ht]
    exact ha.kind.mono optionsOf_erase_subset
  · rw [ht, GnssAdapter.stopTimeBasedSession, eraseTrackingSession_locApi]
    exact hothers.serves

section

variable (hold : a.mTimeBasedTrackingSessions[key]? = some old)
include hold

theorem ServesAll.updateTimeBasedSession (hzero : o.minDistance = 0)
    (hupdate : UpdatesWell (othersList a.mTimeBasedTrackingSessions key) old o) :
    (a.updateTimeBasedSession key o).ServesAll := by
  have hsame : SameButFix a (a.updateTrackingMultiplex key o).1 :=
    updateTrackingMultiplex_same
  obtain ⟨⟨h, hh, hs⟩, hkind⟩ := updateTrackingMultiplex_serves ha hsize hold hupdate
  rw [← hsame.timeBased] at hs hkind
  refine ServesAll.reportIf (servesAll_save ?_ (not_isDistanceBased hzero) hh hs hkind)
  rw [hsame.nHzNeeded, ha.nHz]

theorem ServesAll.stay (htime : a.isDistanceBased o = false)
    (hstay : StaysWell (othersList a.mTimeBasedTrackingSessions key) old o) :
    (((a.stopTimeBasedSession key).reportIf (a.stopTimeBasedTrackingMultiplex key).2
      key).saveTrackingSession key o).ServesAll := by
  have hkey : key ∈ a.mTimeBasedTrackingSessions :=
    (Std.TreeMap.getElem?_eq_some_iff.mp hold).fst
  have hstopped := ha.stopTimeBasedSession hsize hkey
  obtain ⟨ht, -, -⟩ := stopTimeBasedSession_rest hkey
  have hgone : optionsOf ((a.stopTimeBasedSession key).mTimeBasedTrackingSessions.erase key)
      = optionsOf (a.mTimeBasedTrackingSessions.erase key) := by
    rw [ht]
    exact optionsOf_erase_of_not_mem Std.TreeMap.getElem?_erase_self
  have hkindAll := ha.kind
  rw [optionsOf_eq_insert hold] at hkindAll
  have hkind := hkindAll.mono (Set.subset_insert old _)
  have hserves : (∃ h, (a.stopTimeBasedSession key).mLocApi.timeBased = some h ∧
      Serves h (insert o (optionsOf (a.mTimeBasedTrackingSessions.erase key)))) ∧
      OneKind (insert o (optionsOf (a.mTimeBasedTrackingSessions.erase key))) := by
    rcases hstay with ⟨hnil, hi, hp⟩ | ⟨hne, hjoin, hpace⟩
    · -- the only session: LocApi has what it asked for before
      have hnone : optionsOf (a.mTimeBasedTrackingSessions.erase key) = ∅ := by
        rw [← setOf_mem_othersList, hnil]
        simp
      have hone : a.mTimeBasedTrackingSessions.size = 1 := by
        refine (size_eq_one_iff hkey).mpr ?_
        by_contra hempty
        exact othersList_ne_nil_iff.mpr (Bool.eq_false_iff.mpr hempty) hnil
      obtain ⟨h, hh, hs⟩ := ha.serves (optionsOf_nonempty_iff.mp ⟨old, key, hold⟩)
      rw [optionsOf_eq_insert hold, hnone, insert_empty_eq] at hs
      rw [hnone, insert_empty_eq]
      refine ⟨⟨h, ?_, ?_⟩, ?_⟩
      · rw [GnssAdapter.stopTimeBasedSession, eraseTrackingSession_locApi,
          stopTimeBasedTrackingMultiplex, if_pos hone]
        exact hh
      · obtain ⟨hi', hp'⟩ := hs.unique (serves_singleton old)
        exact (serves_singleton o).congr (hi'.trans hi) (hp'.trans hp)
      · rintro x rfl y rfl
        exact Iff.rfl
    · have hm := multiplexOthers_of hne hsize hkind
      have hlead := argmin_othersList hne hsize
      have hempty := othersList_ne_nil_iff.mp hne
      rw [← ht] at hempty
      obtain ⟨h, hh, hs⟩ := hstopped.serves hempty
      rw [ht] at hs
      rw [← setOf_mem_othersList] at hm hkind hs ⊢
      refine ⟨⟨h, hh, hm.kept_serves hs (hjoin.kind_iff hm hkind hlead) ?_⟩,
        hjoin.oneKind hm hkind hlead⟩
      exact Bool.eq_false_iff.mpr fun hup => hpace ((setsThePace_iff hm hkind hlead).mpr hup)
  obtain ⟨⟨h, hh, hs⟩, hk⟩ := hserves
  rw [← hgone] at hs hk
  have hsame : SameButFix a (a.stopTimeBasedTrackingMultiplex key).1 :=
    stopTimeBasedTrackingMultiplex_same
  refine servesAll_save (h := h) ?_ ?_ ?_ ?_ ?_
  · rw [reportIf_nHzNeeded]
    exact hstopped.nHz
  · rw [isDistanceBased, reportIf_supported, GnssAdapter.stopTimeBasedSession,
      eraseTrackingSession_supported, hsame.supported]
    exact htime
  · rw [reportIf_locApi]
    exact hh
  · rw [reportIf_timeBased]
    exact hs
  · rw [reportIf_timeBased]
    exact hk

theorem ServesAll.switchToDistanceBased (hpos : 0 < o.minDistance)
    (hstay : a.isMessageSupported = false →
      StaysWell (othersList a.mTimeBasedTrackingSessions key) old o) :
    (a.switchToDistanceBased key o).ServesAll := by
  cases hm : a.isMessageSupported with
  | false =>
    have htime : a.isDistanceBased o = false := by simp [isDistanceBased, hm]
    exact (ha.stay hsize hold htime (hstay hm)).congr rfl rfl rfl
  | true =>
    have hkey : key ∈ a.mTimeBasedTrackingSessions :=
      (Std.TreeMap.getElem?_eq_some_iff.mp hold).fst
    have hsame : SameButFix a (a.stopTimeBasedTrackingMultiplex key).1 :=
      stopTimeBasedTrackingMultiplex_same
    have hdistance : ((a.stopTimeBasedSession key).reportIf
        (a.stopTimeBasedTrackingMultiplex key).2 key).isDistanceBased o = true := by
      refine isDistanceBased_iff.mpr ⟨hpos, ?_⟩
      rw [reportIf_supported, GnssAdapter.stopTimeBasedSession, eraseTrackingSession_supported,
        hsame.supported]
      exact hm
    have hstopped : ((a.stopTimeBasedSession key).reportIf
        (a.stopTimeBasedTrackingMultiplex key).2 key).ServesAll :=
      (ha.stopTimeBasedSession hsize hkey).reportIf
    refine hstopped.congr ?_ ?_ ?_ <;> simp [GnssAdapter.switchToDistanceBased,
      startDistanceBasedTracking, LocApi.startDistanceBasedTracking, hdistance]

end

theorem ServesAll.restart : a.checkAndRestartTimeBasedSession.ServesAll := by
  have hsame := checkAndRestartTimeBasedSession_same (a := a)
  refine ⟨hsame.nHzNeeded.trans ha.nHz, ?_, ?_⟩
  · rw [hsame.timeBased]
    exact ha.kind
  · rw [hsame.timeBased]
    intro hempty
    refine ⟨restartOptions a.mTimeBasedTrackingSessions, ?_,
      restartOptions_serves (optionsList_ne_nil_iff.mpr hempty) hsize ha.kind⟩
    simp [checkAndRestartTimeBasedSession, hempty, checkAndSetSPEToRunforNHz, ha.nHz,
      LocApi.startTimeBasedTracking]

end

/-! ## Steps -/

end GnssAdapter

/-- The options with which the session of an answer becomes time based. -/
def ResponseFn.joins : ResponseFn → Option TrackingOptions
  | .switchToTimeBased _ options => some options
  | _ => none

namespace GnssAdapter

variable {a : GnssAdapter}

/-- The event brings no session among the time based ones, and changes none
of them, in a way the multiplexers get wrong. -/
def MultiplexesWell (a : GnssAdapter) : TrackingEvent → Prop
  | .proc (.startTracking key options) => a.startsTimeBased key options = true →
      JoinsWell (optionsList a.mTimeBasedTrackingSessions) options.clampInterval.fallBackToM2
  | .proc (.updateTrackingOptions key options) =>
    ∀ old ∈ a.mTimeBasedTrackingSessions[key]?, options.size ≠ 0 →
      if options.minDistance = 0 then
        UpdatesWell (othersList a.mTimeBasedTrackingSessions key) old
          options.fallBackToM2.clampInterval
      else a.mIsEngineCapabilitiesKnown = true → a.isMessageSupported = false →
        StaysWell (othersList a.mTimeBasedTrackingSessions key) old
          options.fallBackToM2.clampInterval
  | .respond i _ => ∀ r ∈ a.mLocApi.unanswered[i]?, ∀ options ∈ r.fn.joins,
      JoinsWell (optionsList a.mTimeBasedTrackingSessions) options
  | _ => True

instance (a : GnssAdapter) : (e : TrackingEvent) → Decidable (a.MultiplexesWell e)
  | .proc (.startTracking key options) =>
    inferInstanceAs (Decidable (a.startsTimeBased key options = true →
      JoinsWell (optionsList a.mTimeBasedTrackingSessions) options.clampInterval.fallBackToM2))
  | .proc (.updateTrackingOptions key options) =>
    inferInstanceAs (Decidable (∀ old ∈ a.mTimeBasedTrackingSessions[key]?, options.size ≠ 0 →
      if options.minDistance = 0 then
        UpdatesWell (othersList a.mTimeBasedTrackingSessions key) old
          options.fallBackToM2.clampInterval
      else a.mIsEngineCapabilitiesKnown = true → a.isMessageSupported = false →
        StaysWell (othersList a.mTimeBasedTrackingSessions key) old
          options.fallBackToM2.clampInterval))
  | .respond i _ =>
    inferInstanceAs (Decidable (∀ r ∈ a.mLocApi.unanswered[i]?, ∀ options ∈ r.fn.joins,
      JoinsWell (optionsList a.mTimeBasedTrackingSessions) options))
  | .proc (.addClient _ _) | .proc (.stopTracking _) | .proc (.removeClient _) | .proc .engineUp
  | .engineLockState _ => inferInstanceAs (Decidable True)

theorem ServesAll.procMsg {msg : TrackingMsg} (ht : a.IsTidy) (ha : a.ServesAll)
    (h : a.Undisturbed msg) (hwell : a.MultiplexesWell (.proc msg)) :
    (a.procMsg msg).ServesAll := by
  cases msg with
  | addClient client callbacks => exact ha.congr rfl rfl rfl
  | startTracking key options =>
    have hfresh := isFresh_of_usedIds h
    refine startTrackingCommand_elim (ha.congr rfl rfl rfl) ha ?_ ?_
    · intro _ hdistance
      refine ha.congr ?_ ?_ ?_ <;> simp [startDistanceBasedTracking,
        LocApi.startDistanceBasedTracking, hdistance]
    · intro htime
      exact ha.startTimeBasedSession ht.sized hfresh.timeBased (startsTimeBased_options htime).2
        (hwell htime)
  | updateTrackingOptions key options =>
    refine updateTrackingOptionsCommand_elim _ rfl (ha.congr rfl rfl rfl)
      (fun _ => ha.reportResponse) ?_ ?_ ?_ ?_
    · intro hkey hsize hpos hknown
      obtain ⟨old, hold⟩ := Option.isSome_iff_exists.mp
        (Std.TreeMap.mem_iff_isSome_getElem?.mp hkey)
      have hw := hwell old hold (by simpa using hsize)
      rw [if_neg (by simp at hpos; omega)] at hw
      exact ha.switchToDistanceBased ht.sized hold hpos (hw hknown)
    · intro hkey _ hzero
      have hnot := ht.not_timeBased hkey
      refine ha.congr ?_ ?_ ?_ <;> simp [stopDistanceBasedTracking,
        LocApi.stopDistanceBasedTracking, hnot]
    · intro hkey _ hsize hzero
      obtain ⟨old, hold⟩ := Option.isSome_iff_exists.mp
        (Std.TreeMap.mem_iff_isSome_getElem?.mp hkey)
      have hw := hwell old hold (by simpa using hsize)
      rw [if_pos (by simpa using hzero)] at hw
      exact ha.updateTimeBasedSession ht.sized hold hzero hw
    · exact fun _ _ _ => ha.congr rfl rfl rfl
  | stopTracking key =>
    refine stopTrackingCommand_elim (fun _ => ha.reportResponse) ?_ ?_
    · exact fun hkey => (ha.stopTimeBasedSession ht.sized hkey).reportIf
    · exact fun _ => ha.congr rfl rfl rfl
  | removeClient client =>
    refine (removeClientCommand_elim (P := fun b => b.IsTidy ∧ b.ServesAll) h ⟨ht, ha⟩ ?_ ?_ ?_).2
    · exact fun b key hb hkey =>
        ⟨hb.1.stopTimeBasedSession hkey, hb.2.stopTimeBasedSession hb.1.sized hkey⟩
    · exact fun b key hb hkey hp => ⟨hb.1.stopDistance hkey hp rfl hkey, hb.2.congr rfl rfl rfl⟩
    · exact fun b m hb => ⟨hb.1, hb.2.congr rfl rfl rfl⟩
  | engineUp =>
    refine (handleEngineUpEvent_elim (P := fun b => b.IsTidy ∧ b.ServesAll) h
      ⟨ht, ha.congr rfl rfl rfl⟩ ?_ ?_ ?_).2
    · intro b hb
      have ht' : IsTidy { b with mSPEAlreadyRunningAtHighestInterval := false } := hb.1
      have hs' : ServesAll { b with mSPEAlreadyRunningAtHighestInterval := false } :=
        hb.2.congr rfl rfl rfl
      exact ⟨ht'.same checkAndRestartTimeBasedSession_same, hs'.restart ht'.sized⟩
    · exact fun b key o hb _ _ => ⟨hb.1.startDistance rfl, hb.2.congr rfl rfl rfl⟩
    · exact fun b rs hb => ⟨hb.1, hb.2.congr rfl rfl rfl⟩

theorem ServesAll.next {e : TrackingEvent} (ht : a.IsTidy) (ha : a.ServesAll) (h : a.Orderly e)
    (hwell : a.MultiplexesWell e) : (a.next e).ServesAll := by
  cases e with
  | proc msg =>
    have hbegin : (a.begin msg).ServesAll := ha.congr rfl rfl rfl
    exact ServesAll.procMsg (a := a.begin msg) ht hbegin h hwell
  | engineLockState state => exact ha.congr rfl rfl rfl
  | respond i err =>
    obtain rfl : err = .success := h
    simp only [GnssAdapter.next]
    split
    case h_2 => exact ha.congr rfl rfl rfl
    case h_1 r hr =>
      have htake := take_isTidy ht hr
      have hs : (a.take i r).ServesAll := ha.congr rfl rfl rfl
      have hfinds : ∀ key, r.fn.switches = some key → a.Finds i r key := fun key => ht.finds hr
      have hjoin := hwell r hr
      obtain ⟨cause, fn⟩ := r
      cases fn with
      | switchToTimeBased key options =>
        obtain ⟨⟨hkey, _, hzero, _⟩, _, _⟩ := hfinds key rfl
        exact hs.startTimeBasedSession htake.sized hkey (not_isDistanceBased hzero)
          (hjoin options rfl)
      | stoppedToRestart key options => exact hs.congr rfl rfl rfl
      | restarted key options =>
        obtain ⟨⟨hd, hpos, _⟩, _, _⟩ := hfinds key rfl
        have hdistance : (a.take i ⟨cause, .restarted key options⟩).isDistanceBased options
            = true := isDistanceBased_iff.mpr ⟨hpos, ht.supported key hd⟩
        refine hs.congr ?_ ?_ ?_ <;> simp [procResponse, hdistance]
      | stopDistanceBased key =>
        obtain ⟨hd, _, _⟩ := hfinds key rfl
        have hnot : (a.take i ⟨cause, .stopDistanceBased key⟩).isTimeBasedTrackingSession key
            = false := ht.not_timeBased hd
        refine hs.congr ?_ ?_ ?_ <;> simp [procResponse, hnot]
      | stopClientSession key =>
        obtain ⟨hd, _, _⟩ := hfinds key rfl
        have hnot : (a.take i ⟨cause, .stopClientSession key⟩).isTimeBasedTrackingSession key
            = false := ht.not_timeBased hd
        refine hs.congr ?_ ?_ ?_ <;> simp [procResponse, hnot]
      | ignore => exact hs
      | startTimeBased key => simpa [procResponse] using hs.reportResponse
      | updateTracking key old => simpa [procResponse] using hs.reportResponse
      | startDistanceBased key => simpa [procResponse] using hs.reportResponse
      | stopFix key => exact hs.reportResponse

theorem isTidy_new (supported nHzNeeded known : Bool) : (new supported nHzNeeded known).IsTidy :=
  Tidy.empty

/-! ## Runs -/

theorem servesAll_new (supported known : Bool) : (new supported false known).ServesAll := by
  refine ⟨rfl, ?_, fun hempty => ?_⟩
  · rintro o ⟨k, hk⟩
    simp [new] at hk
  · simp [new] at hempty

/-- Along an orderly run in which no session joins or changes in a way the
multiplexers get wrong, LocApi has always been handed what the sessions
need: sessions may leave, and the engine may restart, in any way. -/
theorem handsLeast {supported known : Bool} {es : List TrackingEvent}
    (h : StepsMeet step (fun a e => a.Orderly e ∧ a.MultiplexesWell e)
      (new supported false known) es) :
    StatesMeet step HandsLeast (new supported false known) es := by
  have hrun : StatesMeet step (fun a => a.IsTidy ∧ a.ServesAll) (new supported false known) es := by
    refine statesMeet_of_stepsMeet ?_ ⟨isTidy_new _ _ _, servesAll_new _ _⟩ h
    exact fun a e ha hok => ⟨ha.1.next hok.1, ha.2.next ha.1 hok.1 hok.2⟩
  exact hrun.mono fun a ha => ha.2.serves

/-- Two sessions of one power mode, of which the second and faster leaves. -/
theorem handsLeast_twoSessions : StatesMeet step HandsLeast (new true false true)
      [.proc (.addClient 1 .all), .proc (.startTracking ⟨1, 1⟩ (.request 1000 0 .m2)),
        .respond 0 .success, .proc (.startTracking ⟨1, 2⟩ (.request 500 0 .m2)),
        .respond 0 .success, .proc (.updateTrackingOptions ⟨1, 1⟩ (.request 2000 0 .m2)),
        .proc (.stopTracking ⟨1, 2⟩), .respond 0 .success] :=
  handsLeast (by decide)

/-- The slow session has the smallest power mode when a third brings a
smaller interval: LocApi is handed the power mode of the first. -/
theorem not_handsLeast_of_start : StepsMeet step Orderly (new true false true)
      [.proc (.addClient 1 .all), .proc (.startTracking ⟨1, 1⟩ (.request 1000 0 .m4)),
        .respond 0 .success, .proc (.startTracking ⟨1, 2⟩ (.request 2000 0 .m1)),
        .respond 0 .success, .proc (.startTracking ⟨1, 3⟩ (.request 500 0 .m5)),
        .respond 0 .success] ∧
      ¬ (after step (new true false true)
        [.proc (.addClient 1 .all), .proc (.startTracking ⟨1, 1⟩ (.request 1000 0 .m4)),
          .respond 0 .success, .proc (.startTracking ⟨1, 2⟩ (.request 2000 0 .m1)),
          .respond 0 .success, .proc (.startTracking ⟨1, 3⟩ (.request 500 0 .m5)),
          .respond 0 .success]).HandsLeast := by
  refine ⟨by decide, fun hP => ?_⟩
  obtain ⟨h, hh, hs⟩ := hP (by decide)
  obtain rfl := Option.some.inj (hh.symm.trans
    (show _ = some (TrackingOptions.request 500 0 .m4) by decide))
  rcases hs.power with hp | ⟨hp, -⟩
  · have hle := hp.2 ⟨⟨.request 2000 0 .m1, ⟨⟨1, 2⟩, by decide⟩, rfl⟩, by decide⟩
    revert hle
    decide
  · cases hp

end GnssAdapter

end LocStack.Tracking
