/-
# `LocStack.Tracking.Orderly` — the maps along an orderly run

The interleavings of commands and answers are the subject of
`LocStack.Tracking.Responses`.  Here a run is *orderly*: the engine answers
every call with success, a session id is not given out while it is in use,
and the command about a session is processed when no answer is pending for
it.  The last holds in particular of the runs in which each answer is
processed before the next command (`undisturbed_of_answered`).

Along an orderly run the two maps and the pending answers stay `Tidy`,
whatever the options: no key in both maps, no two sessions of one id, and
each pending answer still finds its session where it left it.
-/
import LocStack.Tracking.Steps

namespace LocStack.Tracking

open List

/-! ## Tidy maps -/

/-- What a pending answer relies on when it arrives. -/
def ResponseFn.Fits (sessions : TrackingSessions) (distances : DistanceSessions) : ResponseFn → Prop
  | .switchToTimeBased key options =>
    key ∉ sessions ∧ key ∉ distances ∧ options.minDistance = 0 ∧ options.size ≠ 0
  | .stoppedToRestart key options | .restarted key options =>
    key ∈ distances ∧ 0 < options.minDistance ∧ options.size ≠ 0
  | .stopDistanceBased key | .stopClientSession key => key ∈ distances
  | .ignore | .startTimeBased _ | .updateTracking _ _ | .startDistanceBased _ | .stopFix _ => True

/-- The key is in use: it has a session, or will have one. -/
def Holds (sessions : TrackingSessions) (distances : DistanceSessions)
    (pending : List ResponseFn) (key : LocationSessionKey) : Prop :=
  key ∈ sessions ∨ key ∈ distances ∨ ∃ fn ∈ pending, fn.switches = some key

/-- Whoever uses the id of `key` is `key`. -/
def OwnsId (sessions : TrackingSessions) (distances : DistanceSessions)
    (pending : List ResponseFn) (key : LocationSessionKey) : Prop :=
  ∀ k, Holds sessions distances pending k → k.id = key.id → k = key

structure Tidy (supported : Bool) (sessions : TrackingSessions) (distances : DistanceSessions)
    (pending : List ResponseFn) : Prop where
  disjoint : ∀ k ∈ sessions, k ∉ distances
  supported : ∀ k ∈ distances, supported = true
  sized : Sized sessions
  owns : ∀ k, Holds sessions distances pending k → OwnsId sessions distances pending k
  fits : ∀ fn ∈ pending, fn.Fits sessions distances
  nodup : (pending.filterMap (·.switches)).Nodup

namespace Tidy

variable {supported : Bool} {sessions : TrackingSessions} {distances : DistanceSessions}
  {pending : List ResponseFn} {key : LocationSessionKey} {fn : ResponseFn}

theorem empty : Tidy supported ∅ ∅ [] where
  disjoint := by simp
  supported := by simp
  sized := by
    rintro o ⟨k, hk⟩
    simp at hk
  owns := by simp [Holds]
  fits := by simp
  nodup := nodup_nil

variable {pending' : List ResponseFn}

theorem perm (h : Tidy supported sessions distances pending) (hp : pending.Perm pending') :
    Tidy supported sessions distances pending' where
  disjoint := h.disjoint
  supported := h.supported
  sized := h.sized
  owns := by
    have howns := h.owns
    simp only [OwnsId, Holds, hp.mem_iff] at howns ⊢
    exact howns
  fits fn hfn := h.fits fn (hp.mem_iff.mpr hfn)
  nodup := (hp.filterMap _).nodup_iff.mp h.nodup

theorem ownsId_mono {sessions' : TrackingSessions} {distances' : DistanceSessions}
    (hsub : ∀ k, Holds sessions' distances' pending' k →
      k = key ∨ Holds sessions distances pending k) (hkey : OwnsId sessions distances pending key)
    (h : ∀ k, Holds sessions distances pending k → OwnsId sessions distances pending k) :
    ∀ k, Holds sessions' distances' pending' k → OwnsId sessions' distances' pending' k := by
  intro k hk k' hk' hid
  rcases hsub k hk with rfl | hk
  · rcases hsub k' hk' with rfl | hk'
    · rfl
    · exact hkey k' hk' hid
  · rcases hsub k' hk' with rfl | hk'
    · exact (hkey k hk hid.symm).symm
    · exact h k hk k' hk' hid

theorem answer (h : Tidy supported sessions distances (fn :: pending)) :
    Tidy supported sessions distances pending where
  disjoint := h.disjoint
  supported := h.supported
  sized := h.sized
  owns k hk k' hk' hid := by
    have hmono : ∀ k, Holds sessions distances pending k →
        Holds sessions distances (fn :: pending) k := by
      rintro k (hk | hk | ⟨fn', hfn', hk⟩)
      · exact .inl hk
      · exact .inr (.inl hk)
      · exact .inr (.inr ⟨fn', mem_cons_of_mem _ hfn', hk⟩)
    exact h.owns k (hmono k hk) k' (hmono k' hk') hid
  fits fn' hfn' := h.fits fn' (mem_cons_of_mem _ hfn')
  nodup := h.nodup.sublist (((sublist_cons_self fn pending).filterMap _))

theorem answered (h : Tidy supported sessions distances (fn :: pending))
    (hkey : fn.switches = some key) :
    OwnsId sessions distances pending key ∧ ∀ fn' ∈ pending, fn'.switches ≠ some key := by
  constructor
  · intro k hk hid
    refine h.owns key (.inr (.inr ⟨fn, mem_cons_self, hkey⟩)) k ?_ hid
    rcases hk with hk | hk | ⟨fn', hfn', hk⟩
    · exact .inl hk
    · exact .inr (.inl hk)
    · exact .inr (.inr ⟨fn', mem_cons_of_mem _ hfn', hk⟩)
  · intro fn' hfn' hkey'
    have hnodup := h.nodup
    rw [filterMap_cons_some hkey, nodup_cons] at hnodup
    exact hnodup.1 (mem_filterMap.mpr ⟨fn', hfn', hkey'⟩)

variable (h : Tidy supported sessions distances pending)
include h

theorem insertTimeBased {options : TrackingOptions}
    (howns : OwnsId sessions distances pending key) (hd : key ∉ distances)
    (hp : ∀ fn ∈ pending, fn.switches ≠ some key) (hsize : options.size ≠ 0) :
    Tidy supported (sessions.insert key options) distances pending where
  disjoint k hk := by
    rcases Std.TreeMap.mem_insert.mp hk with hk | hk
    · rwa [← Std.compare_eq_iff_eq.mp hk]
    · exact h.disjoint k hk
  supported := h.supported
  sized o ho := by
    rw [optionsOf_insert] at ho
    rcases ho with rfl | ho
    · exact hsize
    · exact h.sized o (optionsOf_erase_subset ho)
  owns := by
    refine ownsId_mono ?_ howns h.owns
    rintro k (hk | hk | hk)
    · rcases Std.TreeMap.mem_insert.mp hk with hk | hk
      · exact .inl (Std.compare_eq_iff_eq.mp hk).symm
      · exact .inr (.inl hk)
    · exact .inr (.inr (.inl hk))
    · exact .inr (.inr (.inr hk))
  fits fn hfn := by
    have hfits := h.fits fn hfn
    have hne := hp fn hfn
    cases fn
    case switchToTimeBased k o =>
      obtain ⟨hs, hrest⟩ := hfits
      refine ⟨fun hk => ?_, hrest⟩
      rcases Std.TreeMap.mem_insert.mp hk with hk | hk
      · exact hne (congrArg some (Std.compare_eq_iff_eq.mp hk).symm)
      · exact hs hk
    all_goals exact hfits
  nodup := h.nodup

theorem insertDistanceBased {options : LocationOptions}
    (howns : OwnsId sessions distances pending key) (hs : key ∉ sessions)
    (hp : ∀ fn ∈ pending, fn.switches ≠ some key) (hsupported : supported = true) :
    Tidy supported sessions (distances.insert key options) pending where
  disjoint k hk hk' := by
    rcases Std.TreeMap.mem_insert.mp hk' with hk' | hk'
    · exact hs (Std.compare_eq_iff_eq.mp hk' ▸ hk)
    · exact h.disjoint k hk hk'
  supported _ _ := hsupported
  sized := h.sized
  owns := by
    refine ownsId_mono ?_ howns h.owns
    rintro k (hk | hk | hk)
    · exact .inr (.inl hk)
    · rcases Std.TreeMap.mem_insert.mp hk with hk | hk
      · exact .inl (Std.compare_eq_iff_eq.mp hk).symm
      · exact .inr (.inr (.inl hk))
    · exact .inr (.inr (.inr hk))
  fits fn hfn := by
    have hfits := h.fits fn hfn
    have hne := hp fn hfn
    cases fn
    case switchToTimeBased k o =>
      obtain ⟨hs, hd, hrest⟩ := hfits
      refine ⟨hs, fun hk => ?_, hrest⟩
      rcases Std.TreeMap.mem_insert.mp hk with hk | hk
      · exact hne (congrArg some (Std.compare_eq_iff_eq.mp hk).symm)
      · exact hd hk
    case stoppedToRestart k o => exact ⟨Std.TreeMap.mem_insert.mpr (.inr hfits.1), hfits.2⟩
    case restarted k o => exact ⟨Std.TreeMap.mem_insert.mpr (.inr hfits.1), hfits.2⟩
    case stopDistanceBased k => exact Std.TreeMap.mem_insert.mpr (.inr hfits)
    case stopClientSession k => exact Std.TreeMap.mem_insert.mpr (.inr hfits)
    all_goals trivial
  nodup := h.nodup

theorem eraseTimeBased : Tidy supported (sessions.erase key) distances pending where
  disjoint k hk := h.disjoint k (Std.TreeMap.mem_of_mem_erase hk)
  supported := h.supported
  sized o ho := h.sized o (optionsOf_erase_subset ho)
  owns k hk k' hk' hid := by
    have hmono : ∀ k, Holds (sessions.erase key) distances pending k →
        Holds sessions distances pending k := by
      rintro k (hk | hk | hk)
      · exact .inl (Std.TreeMap.mem_of_mem_erase hk)
      · exact .inr (.inl hk)
      · exact .inr (.inr hk)
    exact h.owns k (hmono k hk) k' (hmono k' hk') hid
  fits fn hfn := by
    have hfits := h.fits fn hfn
    cases fn
    case switchToTimeBased k o =>
      exact ⟨fun hk => hfits.1 (Std.TreeMap.mem_of_mem_erase hk), hfits.2⟩
    all_goals exact hfits
  nodup := h.nodup

theorem eraseDistanceBased (hp : ∀ fn ∈ pending, fn.switches ≠ some key) :
    Tidy supported sessions (distances.erase key) pending where
  disjoint k hk hk' := h.disjoint k hk (Std.TreeMap.mem_of_mem_erase hk')
  supported k hk := h.supported k (Std.TreeMap.mem_of_mem_erase hk)
  sized := h.sized
  owns k hk k' hk' hid := by
    have hmono : ∀ k, Holds sessions (distances.erase key) pending k →
        Holds sessions distances pending k := by
      rintro k (hk | hk | hk)
      · exact .inl hk
      · exact .inr (.inl (Std.TreeMap.mem_of_mem_erase hk))
      · exact .inr (.inr hk)
    exact h.owns k (hmono k hk) k' (hmono k' hk') hid
  fits fn hfn := by
    have hfits := h.fits fn hfn
    have hne := hp fn hfn
    have hkeep : ∀ k, fn.switches = some k → k ∈ distances → k ∈ distances.erase key := by
      intro k hk hmem
      refine Std.TreeMap.mem_erase.mpr ⟨fun heq => ?_, hmem⟩
      exact hne (Std.compare_eq_iff_eq.mp heq ▸ hk)
    cases fn
    case switchToTimeBased k o =>
      exact ⟨hfits.1, fun hk => hfits.2.1 (Std.TreeMap.mem_of_mem_erase hk), hfits.2.2⟩
    case stoppedToRestart k o => exact ⟨hkeep k rfl hfits.1, hfits.2⟩
    case restarted k o => exact ⟨hkeep k rfl hfits.1, hfits.2⟩
    case stopDistanceBased k => exact hkeep k rfl hfits
    case stopClientSession k => exact hkeep k rfl hfits
    all_goals trivial
  nodup := h.nodup

theorem call (howns : OwnsId sessions distances pending key) (hkey : fn.switches = some key)
    (hfits : fn.Fits sessions distances) (hp : ∀ fn ∈ pending, fn.switches ≠ some key) :
    Tidy supported sessions distances (pending ++ [fn]) where
  disjoint := h.disjoint
  supported := h.supported
  sized := h.sized
  owns := by
    refine ownsId_mono ?_ howns h.owns
    rintro k (hk | hk | ⟨fn', hfn', hk⟩)
    · exact .inr (.inl hk)
    · exact .inr (.inr (.inl hk))
    · rcases mem_append.mp hfn' with hfn' | hfn'
      · exact .inr (.inr (.inr ⟨fn', hfn', hk⟩))
      · obtain rfl := mem_singleton.mp hfn'
        exact .inl (Option.some.inj (hk.symm.trans hkey))
  fits fn' hfn' := by
    rcases mem_append.mp hfn' with hfn' | hfn'
    · exact h.fits fn' hfn'
    · obtain rfl := mem_singleton.mp hfn'
      exact hfits
  nodup := by
    rw [filterMap_append, filterMap_cons_some hkey, filterMap_nil]
    refine nodup_append.mpr ⟨h.nodup, nodup_singleton key, ?_⟩
    intro k hk k' hk' heq
    obtain ⟨fn', hfn', hswitch⟩ := mem_filterMap.mp hk
    rw [mem_singleton.mp hk'] at heq
    exact hp fn' hfn' (heq ▸ hswitch)

theorem not_pending (hkey : key ∈ sessions) : ∀ fn ∈ pending, fn.switches ≠ some key := by
  intro fn hfn hswitch
  have hfits := h.fits fn hfn
  have hd := h.disjoint key hkey
  cases fn
  all_goals cases hswitch
  case switchToTimeBased => exact hfits.1 hkey
  case stoppedToRestart => exact hd hfits.1
  case restarted => exact hd hfits.1
  case stopDistanceBased => exact hd hfits
  case stopClientSession => exact hd hfits

end Tidy

/-! ## Orderly steps -/

namespace GnssAdapter

/-- The maps of the adapter and the answers it is waiting for are tidy. -/
def IsTidy (a : GnssAdapter) : Prop :=
  Tidy a.isMessageSupported a.mTimeBasedTrackingSessions a.mDistanceBasedTrackingSessions
    a.mLocApi.pending

/-- The ids in use. -/
def usedIds (a : GnssAdapter) : List Nat :=
  a.mTimeBasedTrackingSessions.keys.map (·.id) ++ a.mDistanceBasedTrackingSessions.keys.map (·.id)
    ++ (a.mLocApi.pending.filterMap (·.switches)).map (·.id)

/-- No answer is pending for a distance based session that `p` is about. -/
def NonePending (a : GnssAdapter) (p : LocationSessionKey → Bool) : Prop :=
  ∀ fn ∈ a.mLocApi.pending, ∀ key ∈ fn.switches.toList, p key →
    key ∉ a.mDistanceBasedTrackingSessions
  deriving Decidable

/-- The message does not cut in on an answer, and brings no id that is in use. -/
def Undisturbed (a : GnssAdapter) : TrackingMsg → Prop
  | .startTracking key _ => key.id ∉ a.usedIds
  | .updateTrackingOptions key _ | .stopTracking key => a.NonePending (· = key)
  | .removeClient client => a.NonePending (·.client = client)
  | .engineUp => a.NonePending fun _ => true
  | .addClient _ _ => True

instance (a : GnssAdapter) : (msg : TrackingMsg) → Decidable (a.Undisturbed msg)
  | .startTracking key _ => inferInstanceAs (Decidable (key.id ∉ a.usedIds))
  | .updateTrackingOptions key _ | .stopTracking key =>
    inferInstanceAs (Decidable (a.NonePending (· = key)))
  | .removeClient client => inferInstanceAs (Decidable (a.NonePending (·.client = client)))
  | .engineUp => inferInstanceAs (Decidable (a.NonePending fun _ => true))
  | .addClient _ _ => inferInstanceAs (Decidable True)

def Orderly (a : GnssAdapter) : TrackingEvent → Prop
  | .proc msg => a.Undisturbed msg
  | .respond _ err => err = .success
  | .engineLockState _ => True

instance (a : GnssAdapter) : (e : TrackingEvent) → Decidable (a.Orderly e)
  | .proc msg => inferInstanceAs (Decidable (a.Undisturbed msg))
  | .respond _ err => inferInstanceAs (Decidable (err = .success))
  | .engineLockState _ => inferInstanceAs (Decidable True)

/-- No time based session is told to become distance based where that is not
supported. -/
def SwitchesWell (a : GnssAdapter) : TrackingEvent → Prop
  | .proc (.updateTrackingOptions key options) =>
    key ∈ a.mTimeBasedTrackingSessions → options.size ≠ 0 → 0 < options.minDistance →
      a.mIsEngineCapabilitiesKnown = true → a.isMessageSupported = true
  | _ => True

variable {a b : GnssAdapter} {key : LocationSessionKey}

theorem holds_iff_usedIds {id : Nat} :
    id ∈ a.usedIds ↔ ∃ k, Holds a.mTimeBasedTrackingSessions a.mDistanceBasedTrackingSessions
      a.mLocApi.pending k ∧ k.id = id := by
  simp only [usedIds, Holds, mem_append, mem_map, Std.TreeMap.mem_keys, mem_filterMap]
  constructor
  · rintro ((⟨k, hk, hid⟩ | ⟨k, hk, hid⟩) | ⟨k, hk, hid⟩)
    · exact ⟨k, .inl hk, hid⟩
    · exact ⟨k, .inr (.inl hk), hid⟩
    · exact ⟨k, .inr (.inr hk), hid⟩
  · rintro ⟨k, hk | hk | hk, hid⟩
    · exact .inl (.inl ⟨k, hk, hid⟩)
    · exact .inl (.inr ⟨k, hk, hid⟩)
    · exact .inr ⟨k, hk, hid⟩

/-- What an id that is not in use means for its key. -/
structure IsFresh (a : GnssAdapter) (key : LocationSessionKey) : Prop where
  owns : OwnsId a.mTimeBasedTrackingSessions a.mDistanceBasedTrackingSessions a.mLocApi.pending key
  timeBased : key ∉ a.mTimeBasedTrackingSessions
  distanceBased : key ∉ a.mDistanceBasedTrackingSessions
  pending : ∀ fn ∈ a.mLocApi.pending, fn.switches ≠ some key

theorem isFresh_of_usedIds (h : key.id ∉ a.usedIds) : a.IsFresh key where
  owns k hk hid := absurd (holds_iff_usedIds.mpr ⟨k, hk, hid⟩) h
  timeBased hk := h (holds_iff_usedIds.mpr ⟨key, .inl hk, rfl⟩)
  distanceBased hk := h (holds_iff_usedIds.mpr ⟨key, .inr (.inl hk), rfl⟩)
  pending fn hfn hk := h (holds_iff_usedIds.mpr ⟨key, .inr (.inr ⟨fn, hfn, hk⟩), rfl⟩)

theorem NonePending.of_mem {p : LocationSessionKey → Bool} (h : a.NonePending p)
    (hp : p key = true) (hkey : key ∈ a.mDistanceBasedTrackingSessions) :
    ∀ fn ∈ a.mLocApi.pending, fn.switches ≠ some key := by
  intro fn hfn hswitch
  exact h fn hfn key (Option.mem_toList.mpr hswitch) hp hkey

/-! ### The operations -/

theorem IsTidy.same (ha : a.IsTidy) (h : SameButFix a b) : b.IsTidy := by
  rw [IsTidy, h.timeBased, h.distanceBased, h.supported, h.pending]
  exact ha

theorem IsTidy.not_timeBased (ha : a.IsTidy) (hkey : key ∈ a.mDistanceBasedTrackingSessions) :
    a.isTimeBasedTrackingSession key = false :=
  Bool.eq_false_iff.mpr fun h => ha.disjoint key (isTimeBasedTrackingSession_iff.mp h) hkey

theorem IsTidy.reportResponse (ha : a.IsTidy) {err : LocationError} :
    (a.reportResponse key err).IsTidy :=
  ha.same reportResponse_same

theorem IsTidy.reportIf (ha : a.IsTidy) {r : Bool} : (a.reportIf r key).IsTidy := by
  simp only [GnssAdapter.reportIf]
  split
  · exact ha.reportResponse
  · exact ha

variable {options : TrackingOptions} {fn : ResponseFn}

theorem IsTidy.save (ha : a.IsTidy)
    (howns : OwnsId a.mTimeBasedTrackingSessions a.mDistanceBasedTrackingSessions
      a.mLocApi.pending key) (hp : ∀ fn ∈ a.mLocApi.pending, fn.switches ≠ some key)
    (hother : if a.isDistanceBased options then key ∉ a.mTimeBasedTrackingSessions
      else key ∉ a.mDistanceBasedTrackingSessions) (hsize : options.size ≠ 0) :
    (a.saveTrackingSession key options).IsTidy := by
  rw [IsTidy, saveTrackingSession_timeBased, saveTrackingSession_distanceBased,
    saveTrackingSession_supported, saveTrackingSession_locApi]
  split at hother
  case isTrue h =>
    rw [if_pos h, if_pos h]
    exact ha.insertDistanceBased howns hother hp (isDistanceBased_iff.mp h).2
  case isFalse h =>
    rw [if_neg h, if_neg h]
    exact ha.insertTimeBased howns hother hp hsize

theorem IsTidy.erase (ha : a.IsTidy)
    (hp : key ∉ a.mTimeBasedTrackingSessions → ∀ fn ∈ a.mLocApi.pending, fn.switches ≠ some key) :
    (a.eraseTrackingSession key).IsTidy := by
  rw [IsTidy, eraseTrackingSession_timeBased, eraseTrackingSession_distanceBased,
    eraseTrackingSession_supported, eraseTrackingSession_locApi]
  split
  case isTrue h => exact ha.eraseTimeBased
  case isFalse h =>
    exact ha.eraseDistanceBased (hp fun hk => h (isTimeBasedTrackingSession_iff.mpr hk))

theorem pending_startDistance {options : LocationOptions} (hfn : fn.switches = none) :
    (a.startDistanceBasedTracking key options fn).mLocApi.pending = a.mLocApi.pending := by
  rw [startDistanceBasedTracking, LocApi.pending_startDistanceBasedTracking]
  simp [response, hfn]

theorem IsTidy.startDistance {options : LocationOptions} (ha : a.IsTidy)
    (hfn : fn.switches = none) : (a.startDistanceBasedTracking key options fn).IsTidy := by
  rw [IsTidy, pending_startDistance hfn]
  exact ha

theorem IsTidy.call (ha : a.IsTidy)
    (howns : OwnsId a.mTimeBasedTrackingSessions a.mDistanceBasedTrackingSessions
      a.mLocApi.pending key) (hkey : fn.switches = some key)
    (hfits : fn.Fits a.mTimeBasedTrackingSessions a.mDistanceBasedTrackingSessions)
    (hp : ∀ fn ∈ a.mLocApi.pending, fn.switches ≠ some key)
    (hpending : b.mLocApi.pending = a.mLocApi.pending ++ [fn])
    (hs : b.mTimeBasedTrackingSessions = a.mTimeBasedTrackingSessions)
    (hd : b.mDistanceBasedTrackingSessions = a.mDistanceBasedTrackingSessions)
    (hm : b.isMessageSupported = a.isMessageSupported) : b.IsTidy := by
  rw [IsTidy, hpending, hs, hd, hm]
  exact Tidy.call ha howns hkey hfits hp

theorem pending_stopDistance (hkey : fn.switches = some key) :
    (a.stopDistanceBasedTracking key fn).mLocApi.pending = a.mLocApi.pending ++ [fn] := by
  rw [stopDistanceBasedTracking, LocApi.pending_stopDistanceBasedTracking]
  simp [response, hkey]

theorem pending_restart : (a.startDistanceBasedTracking key options.toLocationOptions
        (.restarted key options)).mLocApi.pending
      = a.mLocApi.pending ++ [.restarted key options] := by
  rw [startDistanceBasedTracking, LocApi.pending_startDistanceBasedTracking]
  rfl

theorem IsTidy.stopDistance (ha : a.IsTidy) (hd : key ∈ a.mDistanceBasedTrackingSessions)
    (hp : ∀ fn ∈ a.mLocApi.pending, fn.switches ≠ some key) (hkey : fn.switches = some key)
    (hfits : fn.Fits a.mTimeBasedTrackingSessions a.mDistanceBasedTrackingSessions) :
    (a.stopDistanceBasedTracking key fn).IsTidy :=
  ha.call (ha.owns key (.inr (.inl hd))) hkey hfits hp (pending_stopDistance hkey) rfl rfl rfl

theorem IsTidy.startTimeBasedSession (ha : a.IsTidy) (h : a.IsFresh key)
    (htime : a.isDistanceBased options = false) (hsize : options.size ≠ 0) :
    (a.startTimeBasedSession key options).IsTidy := by
  have hsame : SameButFix a (a.startTimeBasedTrackingMultiplex key options).1 :=
    startTimeBasedTrackingMultiplex_same
  refine IsTidy.reportIf (IsTidy.save (ha.same hsame) ?_ ?_ ?_ hsize)
  · rw [hsame.timeBased, hsame.distanceBased, hsame.pending]
    exact h.owns
  · rw [hsame.pending]
    exact h.pending
  · have htime' : (a.startTimeBasedTrackingMultiplex key options).1.isDistanceBased options
        = false := by
      rw [← htime, isDistanceBased, isDistanceBased, hsame.supported]
    rw [htime', if_neg Bool.false_ne_true, hsame.distanceBased]
    exact h.distanceBased

theorem IsTidy.stopTimeBasedSession (ha : a.IsTidy) (hkey : key ∈ a.mTimeBasedTrackingSessions) :
    (a.stopTimeBasedSession key).IsTidy := by
  have hsame : SameButFix a (a.stopTimeBasedTrackingMultiplex key).1 :=
    stopTimeBasedTrackingMultiplex_same
  refine IsTidy.erase (ha.same hsame) fun hk => ?_
  rw [hsame.timeBased] at hk
  exact absurd hkey hk

/-! ### The commands, branch by branch -/

section Elim

variable {P : GnssAdapter → Prop} {options : TrackingOptions} {client : Nat}

/-- The message is put aside until the capabilities are known. -/
def isParked (a : GnssAdapter) (options : TrackingOptions) : Bool :=
  !a.mIsEngineCapabilitiesKnown && 0 < options.minDistance

/-- The start gets as far as `startTimeBasedTrackingMultiplex`. -/
def startsTimeBased (a : GnssAdapter) (key : LocationSessionKey) (options : TrackingOptions) :
    Bool :=
  !a.isParked options && a.hasCallbacksToStartTracking key.client && options.size != 0
    && !a.isDistanceBased options

theorem startTrackingCommand_elim (hpark : P (a.park (.startTracking key options))) (hnone : P a)
    (hdistance : options.size ≠ 0 → a.isDistanceBased options.clampInterval = true →
      P ((a.saveTrackingSession key options.clampInterval).startDistanceBasedTracking key
        options.clampInterval.toLocationOptions (.startDistanceBased key)))
    (htime : a.startsTimeBased key options = true →
      P (a.startTimeBasedSession key options.clampInterval.fallBackToM2)) :
    P (a.startTrackingCommand key options) := by
  simp only [startTrackingCommand]
  split
  · exact hpark
  case isFalse hknown =>
    split
    · exact hnone
    case isFalse hcallbacks =>
      split
      · exact hnone
      case isFalse hsize =>
        split
        case isTrue h => exact hdistance hsize h
        case isFalse h =>
          refine htime ?_
          simp only [isDistanceBased, TrackingOptions.clampInterval_minDistance] at h
          simp only [startsTimeBased, isParked, isDistanceBased, Bool.and_eq_true, bne_iff_ne,
            Bool.not_eq_true']
          exact ⟨⟨⟨Bool.eq_false_iff.mpr hknown, by simpa using hcallbacks⟩, hsize⟩,
            Bool.eq_false_iff.mpr h⟩

theorem startsTimeBased_options (h : a.startsTimeBased key options = true) :
    options.clampInterval.fallBackToM2.size ≠ 0 ∧
      a.isDistanceBased options.clampInterval.fallBackToM2 = false := by
  simp only [startsTimeBased, Bool.and_eq_true, bne_iff_ne, Bool.not_eq_true'] at h
  simp only [isDistanceBased, TrackingOptions.fallBackToM2_size, TrackingOptions.clampInterval_size,
    TrackingOptions.fallBackToM2_minDistance, TrackingOptions.clampInterval_minDistance]
  exact ⟨h.1.2, h.2⟩

/-- The update of a time based session that stays one. -/
def updateTimeBasedSession (a : GnssAdapter) (key : LocationSessionKey)
    (options : TrackingOptions) : GnssAdapter :=
  let r := a.updateTrackingMultiplex key options
  (r.1.saveTrackingSession key options).reportIf r.2 key

/-- The update of a time based session to distance based. -/
def switchToDistanceBased (a : GnssAdapter) (key : LocationSessionKey)
    (options : TrackingOptions) : GnssAdapter :=
  (((a.stopTimeBasedSession key).reportIf (a.stopTimeBasedTrackingMultiplex key).2
    key).saveTrackingSession key options).startDistanceBasedTracking key
      options.toLocationOptions .ignore

theorem updateTrackingOptionsCommand_elim (o : TrackingOptions)
    (ho : options.fallBackToM2.clampInterval = o)
    (hpark : P (a.park (.updateTrackingOptions key options)))
    (herr : ∀ err, P (a.reportResponse key err))
    (htoDistance : key ∈ a.mTimeBasedTrackingSessions → o.size ≠ 0 → 0 < o.minDistance →
      a.mIsEngineCapabilitiesKnown = true → P (a.switchToDistanceBased key o))
    (htoTime : key ∈ a.mDistanceBasedTrackingSessions → o.size ≠ 0 → o.minDistance = 0 →
      P ((a.eraseTrackingSession key).stopDistanceBasedTracking key (.switchToTimeBased key o)))
    (htime : key ∈ a.mTimeBasedTrackingSessions → key ∉ a.mDistanceBasedTrackingSessions →
      o.size ≠ 0 → o.minDistance = 0 → P (a.updateTimeBasedSession key o))
    (hrestart : key ∈ a.mDistanceBasedTrackingSessions → o.size ≠ 0 → 0 < o.minDistance →
      P (a.stopDistanceBasedTracking key (.stoppedToRestart key o))) :
    P (a.updateTrackingOptionsCommand key options) := by
  have hsize : o.size = options.size := by rw [← ho]; simp
  have hdist : o.minDistance = options.minDistance := by rw [← ho]; simp
  simp only [updateTrackingOptionsCommand, ho]
  split
  · exact hpark
  case isFalse hpark =>
  split
  · exact herr _
  case isFalse hknown =>
    split
    · exact herr _
    case isFalse hne =>
      rw [← hsize] at hne
      cases ht : a.isTimeBasedTrackingSession key with
      | true =>
        have hkey := isTimeBasedTrackingSession_iff.mp ht
        rcases Nat.eq_zero_or_pos o.minDistance with hzero | hpos
        · cases hd : a.isDistanceBasedTrackingSession key with
          | true =>
            simpa [hzero] using htoTime (isDistanceBasedTrackingSession_iff.mp hd) hne hzero
          | false =>
            have hnot : key ∉ a.mDistanceBasedTrackingSessions := fun h =>
              Bool.false_ne_true (hd.symm.trans (isDistanceBasedTrackingSession_iff.mpr h))
            simpa [hzero, updateTimeBasedSession] using htime hkey hnot hne hzero
        · simpa [hpos, switchToDistanceBased, stopTimeBasedSession] using
            htoDistance hkey hne hpos (by simpa [← hdist, hpos] using hpark)
      | false =>
        cases hd : a.isDistanceBasedTrackingSession key with
        | false => simp [ht, hd] at hknown
        | true =>
          have hkey := isDistanceBasedTrackingSession_iff.mp hd
          rcases Nat.eq_zero_or_pos o.minDistance with hzero | hpos
          · simpa [hzero] using htoTime hkey hne hzero
          · have hnot : (o.minDistance == 0) = false := by
              rw [beq_eq_false_iff_ne]
              omega
            simpa [hnot] using hrestart hkey hne hpos

theorem updateTrackingOptionsCommand_toDistance (hkey : key ∈ a.mTimeBasedTrackingSessions)
    (hsize : options.size ≠ 0) (hpos : 0 < options.minDistance)
    (hknown : a.mIsEngineCapabilitiesKnown = true) :
    a.updateTrackingOptionsCommand key options
      = a.switchToDistanceBased key options.fallBackToM2.clampInterval := by
  have ht := isTimeBasedTrackingSession_iff.mpr hkey
  simp [updateTrackingOptionsCommand, switchToDistanceBased, stopTimeBasedSession, ht, hsize, hpos,
    hknown]

theorem stopTrackingCommand_elim (hreport : ∀ err, P (a.reportResponse key err))
    (htime : key ∈ a.mTimeBasedTrackingSessions →
      P ((a.stopTimeBasedSession key).reportIf (a.stopTimeBasedTrackingMultiplex key).2 key))
    (hdistance : key ∈ a.mDistanceBasedTrackingSessions →
      P (a.stopDistanceBasedTracking key (.stopDistanceBased key))) :
    P (a.stopTrackingCommand key) := by
  simp only [stopTrackingCommand]
  split
  case isTrue h => exact htime (isTimeBasedTrackingSession_iff.mp h)
  case isFalse =>
    split
    case isTrue h => exact hdistance (isDistanceBasedTrackingSession_iff.mp h)
    case isFalse => exact hreport _

theorem stopTimeBasedSession_rest (hkey : key ∈ a.mTimeBasedTrackingSessions) :
    (a.stopTimeBasedSession key).mTimeBasedTrackingSessions
        = a.mTimeBasedTrackingSessions.erase key ∧
      (a.stopTimeBasedSession key).mDistanceBasedTrackingSessions
        = a.mDistanceBasedTrackingSessions ∧
      (a.stopTimeBasedSession key).mLocApi.pending = a.mLocApi.pending := by
  have hsame : SameButFix a (a.stopTimeBasedTrackingMultiplex key).1 :=
    stopTimeBasedTrackingMultiplex_same
  have htime : (a.stopTimeBasedTrackingMultiplex key).1.isTimeBasedTrackingSession key = true := by
    rw [isTimeBasedTrackingSession_iff, hsame.timeBased]
    exact hkey
  rw [stopTimeBasedSession, eraseTrackingSession_timeBased, eraseTrackingSession_distanceBased,
    eraseTrackingSession_locApi, if_pos htime, if_pos htime]
  exact ⟨by rw [hsame.timeBased], hsame.distanceBased, hsame.pending⟩

theorem stopTimeBasedSessions_induct (keys : List LocationSessionKey) (hnodup : keys.Nodup)
    (hkeys : ∀ key ∈ keys, key ∈ a.mTimeBasedTrackingSessions) (ha : P a)
    (hstop : ∀ b key, P b → key ∈ b.mTimeBasedTrackingSessions → P (b.stopTimeBasedSession key)) :
    P (keys.foldl stopTimeBasedSession a) ∧
      (keys.foldl stopTimeBasedSession a).mDistanceBasedTrackingSessions
        = a.mDistanceBasedTrackingSessions ∧
      (keys.foldl stopTimeBasedSession a).mLocApi.pending = a.mLocApi.pending := by
  induction keys generalizing a with
  | nil => exact ⟨ha, rfl, rfl⟩
  | cons key keys ih =>
    have hkey := hkeys key mem_cons_self
    obtain ⟨ht, hd, hp⟩ := stopTimeBasedSession_rest hkey
    rw [nodup_cons] at hnodup
    rw [foldl_cons, ← hd, ← hp]
    refine ih hnodup.2 (fun k hk => ?_) (hstop a key ha hkey)
    rw [ht]
    refine Std.TreeMap.mem_erase.mpr ⟨fun heq => ?_, hkeys k (mem_cons_of_mem _ hk)⟩
    exact hnodup.1 (Std.compare_eq_iff_eq.mp heq ▸ hk)

theorem stopDistanceBasedSessions_induct (keys : List LocationSessionKey) (hnodup : keys.Nodup)
    (hkeys : ∀ key ∈ keys, key ∈ a.mDistanceBasedTrackingSessions)
    (hnone : ∀ key ∈ keys, ∀ fn ∈ a.mLocApi.pending, fn.switches ≠ some key) (ha : P a)
    (hcall : ∀ b key, P b → key ∈ b.mDistanceBasedTrackingSessions →
      (∀ fn ∈ b.mLocApi.pending, fn.switches ≠ some key) →
      P (b.stopDistanceBasedTracking key (.stopClientSession key))) :
    P (keys.foldl (fun a key => a.stopDistanceBasedTracking key (.stopClientSession key)) a) := by
  induction keys generalizing a with
  | nil => exact ha
  | cons key keys ih =>
    have hkey := hkeys key mem_cons_self
    rw [nodup_cons] at hnodup
    refine ih hnodup.2 (fun k hk => hkeys k (mem_cons_of_mem _ hk)) (fun k hk fn hfn => ?_)
      (hcall a key ha hkey (hnone key mem_cons_self))
    rw [pending_stopDistance rfl] at hfn
    rcases mem_append.mp hfn with hfn | hfn
    · exact hnone k (mem_cons_of_mem _ hk) fn hfn
    · obtain rfl := mem_singleton.mp hfn
      intro heq
      exact hnodup.1 (Option.some.inj heq ▸ hk)

theorem keys_filter_nodup {β : Type} (m : Std.TreeMap LocationSessionKey β)
    (p : LocationSessionKey → Bool) : (m.keys.filter p).Nodup := by
  refine List.Nodup.filter p (m.distinct_keys.imp fun h heq => ?_)
  exact h (Std.compare_eq_iff_eq.mpr heq)

theorem removeClientCommand_elim (hnone : a.NonePending (·.client = client)) (ha : P a)
    (hstop : ∀ b key, P b → key ∈ b.mTimeBasedTrackingSessions → P (b.stopTimeBasedSession key))
    (hcall : ∀ b key, P b → key ∈ b.mDistanceBasedTrackingSessions →
      (∀ fn ∈ b.mLocApi.pending, fn.switches ≠ some key) →
      P (b.stopDistanceBasedTracking key (.stopClientSession key)))
    (hclient : ∀ b m, P b → P { b with mClientData := m }) :
    P (a.removeClientCommand client) := by
  have hfirst := stopTimeBasedSessions_induct
    (a.mTimeBasedTrackingSessions.keys.filter fun key => key.client = client)
    (keys_filter_nodup _ _) (fun key hkey => Std.TreeMap.mem_keys.mp (mem_of_mem_filter hkey))
    ha hstop
  obtain ⟨hP, hd, hp⟩ := hfirst
  refine hclient _ _ (stopDistanceBasedSessions_induct _ (keys_filter_nodup _ _) ?_ ?_ hP hcall)
  · exact fun key hkey => Std.TreeMap.mem_keys.mp (mem_of_mem_filter hkey)
  · intro key hkey fn hfn
    obtain ⟨hmem, hclientKey⟩ := mem_filter.mp hkey
    rw [hp] at hfn
    rw [hd] at hmem
    exact hnone.of_mem hclientKey (Std.TreeMap.mem_keys.mp hmem) fn hfn

theorem restartDistanceBased_induct
    (sessions : List (LocationSessionKey × LocationOptions))
    (hsessions : ∀ session ∈ sessions, session.1 ∈ a.mDistanceBasedTrackingSessions)
    (hnone : a.NonePending fun _ => true) (ha : P a)
    (hstart : ∀ b key o, P b → key ∈ b.mDistanceBasedTrackingSessions →
      (∀ fn ∈ b.mLocApi.pending, fn.switches ≠ some key) →
      P (b.startDistanceBasedTracking key o .ignore)) :
    P (sessions.foldl (fun a session => a.startDistanceBasedTracking session.1 session.2 .ignore)
      a) := by
  induction sessions generalizing a with
  | nil => exact ha
  | cons session sessions ih =>
    have hkey := hsessions session mem_cons_self
    refine ih (fun s hs => hsessions s (mem_cons_of_mem _ hs)) ?_
      (hstart a session.1 session.2 ha hkey (hnone.of_mem rfl hkey))
    rw [NonePending, pending_startDistance rfl]
    exact hnone

theorem handleEngineUpEvent_elim (hnone : a.NonePending fun _ => true)
    (hknown : P { a with mIsEngineCapabilitiesKnown := true })
    (hfix : ∀ b : GnssAdapter, P b → P
      { b with mSPEAlreadyRunningAtHighestInterval := false
        : GnssAdapter }.checkAndRestartTimeBasedSession)
    (hstart : ∀ b key o, P b → key ∈ b.mDistanceBasedTrackingSessions →
      (∀ fn ∈ b.mLocApi.pending, fn.switches ≠ some key) →
      P (b.startDistanceBasedTracking key o .ignore))
    (hreports : ∀ b rs, P b → P { b with reports := rs }) : P a.handleEngineUpEvent := by
  simp only [handleEngineUpEvent]
  split
  · refine hreports _ _ ?_
    have hsame := checkAndRestartTimeBasedSession_same
      (a := { a with
        mIsEngineCapabilitiesKnown := true
        mSPEAlreadyRunningAtHighestInterval := false })
    refine restartDistanceBased_induct _ ?_ ?_ (hfix _ hknown) hstart
    · intro session hsession
      have hentry := Std.TreeMap.mem_toList_iff_getElem?_eq_some.mp hsession
      exact (Std.TreeMap.getElem?_eq_some_iff.mp hentry).fst
    · rw [NonePending, hsame.pending, hsame.distanceBased]
      exact hnone
  · exact hknown

end Elim

/-! ### The step -/

theorem IsTidy.switchToDistanceBased {options : TrackingOptions} (ha : a.IsTidy)
    (hkey : key ∈ a.mTimeBasedTrackingSessions) (hsize : options.size ≠ 0) :
    (a.switchToDistanceBased key options).IsTidy := by
  obtain ⟨ht, hd, hp⟩ := stopTimeBasedSession_rest hkey
  have hstopped := ha.stopTimeBasedSession hkey
  refine IsTidy.startDistance (IsTidy.save hstopped.reportIf ?_ ?_ ?_ hsize) rfl
  · intro k hk hid
    refine ha.owns key (.inl hkey) k ?_ hid
    rw [reportIf_timeBased, reportIf_distanceBased, reportIf_locApi, ht, hd, hp] at hk
    rcases hk with hk | hk
    · exact .inl (Std.TreeMap.mem_of_mem_erase hk)
    · exact .inr hk
  · rw [reportIf_locApi, hp]
    exact Tidy.not_pending ha hkey
  · rw [reportIf_timeBased, reportIf_distanceBased, ht, hd]
    split
    · simp
    · exact ha.disjoint key hkey

theorem IsTidy.switchToTimeBased {options : TrackingOptions} (ha : a.IsTidy)
    (hkey : key ∈ a.mDistanceBasedTrackingSessions) (hsize : options.size ≠ 0)
    (hzero : options.minDistance = 0) (hp : ∀ fn ∈ a.mLocApi.pending, fn.switches ≠ some key) :
    ((a.eraseTrackingSession key).stopDistanceBasedTracking key
      (.switchToTimeBased key options)).IsTidy := by
  have hfalse := ha.not_timeBased hkey
  have hpending : ((a.eraseTrackingSession key).stopDistanceBasedTracking key
        (.switchToTimeBased key options)).mLocApi.pending
      = (a.eraseTrackingSession key).mLocApi.pending ++ [.switchToTimeBased key options] :=
    pending_stopDistance rfl
  refine (ha.erase fun _ => hp).call ?_ rfl ?_ ?_ hpending rfl rfl rfl
  · intro k hk hid
    refine ha.owns key (.inr (.inl hkey)) k ?_ hid
    rw [eraseTrackingSession_timeBased, eraseTrackingSession_distanceBased,
      eraseTrackingSession_locApi, hfalse] at hk
    rcases hk with hk | hk | hk
    · exact .inl hk
    · exact .inr (.inl (Std.TreeMap.mem_of_mem_erase hk))
    · exact .inr (.inr hk)
  · rw [eraseTrackingSession_timeBased, eraseTrackingSession_distanceBased, hfalse]
    refine ⟨fun h => ha.disjoint key h hkey, ?_, hzero, hsize⟩
    simp
  · rw [eraseTrackingSession_locApi]
    exact hp

theorem IsTidy.updateTimeBasedSession {options : TrackingOptions} (ha : a.IsTidy)
    (hkey : key ∈ a.mTimeBasedTrackingSessions) (hsize : options.size ≠ 0)
    (hzero : options.minDistance = 0) : (a.updateTimeBasedSession key options).IsTidy := by
  have hsame : SameButFix a (a.updateTrackingMultiplex key options).1 :=
    updateTrackingMultiplex_same
  refine IsTidy.reportIf (IsTidy.save (ha.same hsame) ?_ ?_ ?_ hsize)
  · rw [hsame.timeBased, hsame.distanceBased, hsame.pending]
    exact ha.owns key (.inl hkey)
  · rw [hsame.pending]
    exact Tidy.not_pending ha hkey
  · rw [hsame.timeBased, hsame.distanceBased, isDistanceBased, hzero]
    exact ha.disjoint key hkey

theorem not_isDistanceBased {options : TrackingOptions} (hzero : options.minDistance = 0) :
    a.isDistanceBased options = false := by
  simp [isDistanceBased, hzero]

theorem IsTidy.procMsg {msg : TrackingMsg} (ha : a.IsTidy) (h : a.Undisturbed msg) :
    (a.procMsg msg).IsTidy := by
  cases msg with
  | addClient client callbacks => exact ha
  | startTracking key options =>
    have hfresh := isFresh_of_usedIds h
    refine startTrackingCommand_elim ha ha ?_ ?_
    · intro hsize hdistance
      refine IsTidy.startDistance (ha.save hfresh.owns hfresh.pending ?_ (by simpa)) rfl
      rw [if_pos hdistance]
      exact hfresh.timeBased
    · intro htime
      obtain ⟨hsize, hdist⟩ := startsTimeBased_options htime
      exact ha.startTimeBasedSession hfresh hdist hsize
  | updateTrackingOptions key options =>
    refine updateTrackingOptionsCommand_elim _ rfl ha (fun _ => ha.reportResponse) ?_ ?_ ?_ ?_
    · exact fun hkey hsize _ _ => ha.switchToDistanceBased hkey hsize
    · exact fun hkey hsize hzero =>
        ha.switchToTimeBased hkey hsize hzero (h.of_mem (by simp) hkey)
    · exact fun hkey _ hsize hzero => ha.updateTimeBasedSession hkey hsize hzero
    · exact fun hkey hsize hpos =>
        ha.stopDistance hkey (h.of_mem (by simp) hkey) rfl ⟨hkey, hpos, hsize⟩
  | stopTracking key =>
    refine stopTrackingCommand_elim (fun _ => ha.reportResponse) ?_ ?_
    · exact fun hkey => (ha.stopTimeBasedSession hkey).reportIf
    · exact fun hkey => ha.stopDistance hkey (h.of_mem (by simp) hkey) rfl hkey
  | removeClient client =>
    refine removeClientCommand_elim h ha ?_ ?_ ?_
    · exact fun b key hb hkey => hb.stopTimeBasedSession hkey
    · exact fun b key hb hkey hp => hb.stopDistance hkey hp rfl hkey
    · exact fun b m hb => hb
  | engineUp =>
    refine handleEngineUpEvent_elim h ha ?_ ?_ ?_
    · intro b hb
      have hb' : IsTidy { b with mSPEAlreadyRunningAtHighestInterval := false } := hb
      exact hb'.same checkAndRestartTimeBasedSession_same
    · exact fun b key o hb _ _ => hb.startDistance rfl
    · exact fun b rs hb => hb

variable {i : Nat} {r : LocApiResponse}

section

variable (ha : a.IsTidy) (hr : a.mLocApi.unanswered[i]? = some r)
include ha hr

theorem IsTidy.take :
    Tidy a.isMessageSupported a.mTimeBasedTrackingSessions a.mDistanceBasedTrackingSessions
      ([r.fn].filter (·.switches.isSome) ++ (a.take i r).mLocApi.pending) :=
  ha.perm (pending_take hr).symm

theorem take_isTidy : (a.take i r).IsTidy := by
  have htake := ha.take hr
  cases hs : r.fn.switches with
  | none =>
    rw [filter_cons_of_neg (by simp [hs])] at htake
    exact htake
  | some key =>
    simp only [hs, filter_cons, Option.isSome_some, if_true, filter_nil, singleton_append] at htake
    exact htake.answer

/-- What is known of the session an answer is pending for, when it arrives. -/
structure Finds (a : GnssAdapter) (i : Nat) (r : LocApiResponse) (key : LocationSessionKey) :
    Prop where
  fits : r.fn.Fits a.mTimeBasedTrackingSessions a.mDistanceBasedTrackingSessions
  owns : OwnsId a.mTimeBasedTrackingSessions a.mDistanceBasedTrackingSessions
    (a.take i r).mLocApi.pending key
  pending : ∀ fn ∈ (a.take i r).mLocApi.pending, fn.switches ≠ some key

theorem IsTidy.finds (hkey : r.fn.switches = some key) : a.Finds i r key := by
  have htake := ha.take hr
  simp only [hkey, filter_cons, Option.isSome_some, if_true, filter_nil, singleton_append] at htake
  exact ⟨htake.fits r.fn mem_cons_self, (htake.answered hkey).1, (htake.answered hkey).2⟩

end

theorem IsTidy.next {e : TrackingEvent} (ha : a.IsTidy) (h : a.Orderly e) : (a.next e).IsTidy := by
  cases e with
  | proc msg => exact IsTidy.procMsg (a := a.begin msg) ha h
  | engineLockState state => exact ha
  | respond i err =>
    obtain rfl : err = .success := h
    simp only [GnssAdapter.next]
    split
    case h_2 => exact ha
    case h_1 r hr =>
      have htake := take_isTidy ha hr
      have hfinds : ∀ key, r.fn.switches = some key → a.Finds i r key := fun key => ha.finds hr
      obtain ⟨cause, fn⟩ := r
      cases fn with
      | ignore => exact htake
      | startTimeBased key => simpa [procResponse] using htake.reportResponse
      | startDistanceBased key => simpa [procResponse] using htake.reportResponse
      | updateTracking key old => simpa [procResponse] using htake.reportResponse
      | stopFix key => exact htake.reportResponse
      | switchToTimeBased key options =>
        obtain ⟨⟨hs, hd, hzero, hsize⟩, howns, hp⟩ := hfinds key rfl
        exact htake.startTimeBasedSession ⟨howns, hs, hd, hp⟩ (not_isDistanceBased hzero) hsize
      | stoppedToRestart key options =>
        obtain ⟨hfits, howns, hp⟩ := hfinds key rfl
        have hfits' : (ResponseFn.restarted key options).Fits a.mTimeBasedTrackingSessions
            a.mDistanceBasedTrackingSessions := hfits
        exact htake.call howns rfl hfits' hp pending_restart rfl rfl rfl
      | restarted key options =>
        obtain ⟨⟨hd, hpos, hsize⟩, howns, hp⟩ := hfinds key rfl
        have hdistance : (a.take i ⟨cause, .restarted key options⟩).isDistanceBased options
            = true := isDistanceBased_iff.mpr ⟨hpos, ha.supported key hd⟩
        have hsave : ((a.take i ⟨cause, .restarted key options⟩).saveTrackingSession key
            options).IsTidy := by
          refine htake.save howns hp ?_ hsize
          rw [if_pos hdistance]
          exact fun hs => ha.disjoint key hs hd
        simpa [procResponse] using hsave.reportResponse
      | stopDistanceBased key =>
        obtain ⟨hd, howns, hp⟩ := hfinds key rfl
        simpa [procResponse] using (htake.erase fun _ => hp).reportResponse
      | stopClientSession key =>
        obtain ⟨hd, howns, hp⟩ := hfinds key rfl
        simpa [procResponse] using htake.erase fun _ => hp

end GnssAdapter

end LocStack.Tracking
