/-
# `LocStack.Tracking.Kinds` — time based or distance based, and what runs

Which map a session is in should tell what the engine does for it.  The
test is made in five places, `minDistance > 0` and whether distance based
tracking is supported, and one of them makes half of it: an update of a time
based session to distance based stops its fix, saves it by the whole test
and starts a distance based fix by the half (`switchToDistanceBased`).
Where distance based tracking is not supported, the session stays time based
with its fix stopped, and a distance based fix runs that no session has.

`kindsAgree_iff`: along an orderly run the maps and LocApi agree in every
state if and only if no such update is processed.  Between a command and its
answers the two agree as far as they can, a session whose answer is pending
excepted.
-/
import LocStack.Tracking.Orderly

namespace LocStack.Tracking

open Base List

/-! ## The distance based fixes -/

/-- The distance based session whose fix has been stopped, and whose answer
will tell what becomes of it. -/
def ResponseFn.stopped : ResponseFn → Option LocationSessionKey
  | .stoppedToRestart key _ | .stopDistanceBased key | .stopClientSession key => some key
  | _ => none

theorem ResponseFn.switches_of_stopped {fn : ResponseFn} {key : LocationSessionKey}
    (h : fn.stopped = some key) : fn.switches = some key := by
  cases fn <;> first | exact h | cases h

/-- The fixes that run are those of the sessions, but for the stopped. -/
structure Runs (distances : DistanceSessions) (pending : List ResponseFn)
    (fixes : Std.TreeMap Nat LocationOptions) : Prop where
  runs : ∀ k ∈ distances, (k.id ∈ fixes ↔ ∀ fn ∈ pending, fn.stopped ≠ some k)
  only : ∀ id ∈ fixes, ∃ k ∈ distances, k.id = id

namespace Runs

variable {distances : DistanceSessions} {pending : List ResponseFn}
  {fixes : Std.TreeMap Nat LocationOptions} {key : LocationSessionKey} {fn : ResponseFn}
  {o o' : LocationOptions}

variable (h : Runs distances pending fixes)
include h

theorem perm {pending' : List ResponseFn} (hp : pending.Perm pending') :
    Runs distances pending' fixes := by
  refine ⟨fun k hk => ?_, h.only⟩
  simp only [← hp.mem_iff]
  exact h.runs k hk

theorem only_insert (hkey : key ∈ distances) :
    ∀ id ∈ fixes.insert key.id o, ∃ k ∈ distances, k.id = id := by
  intro id hmem
  simp only [Std.TreeMap.mem_insert, Std.compare_eq_iff_eq] at hmem
  rcases hmem with rfl | hmem
  · exact ⟨key, hkey, rfl⟩
  · exact h.only id hmem

section

variable (hid : ∀ k ∈ distances, k.id = key.id → k = key)
include hid

theorem start (hp : ∀ fn ∈ pending, fn.stopped ≠ some key) :
    Runs (distances.insert key o) pending (fixes.insert key.id o') := by
  obtain ⟨hruns, honly⟩ := h
  constructor
  · intro k hk
    simp only [Std.TreeMap.mem_insert, Std.compare_eq_iff_eq] at hk ⊢
    rcases hk with rfl | hk
    · exact ⟨fun _ => hp, fun _ => .inl rfl⟩
    · grind
  · intro id hmem
    simp only [Std.TreeMap.mem_insert, Std.compare_eq_iff_eq] at hmem ⊢
    rcases hmem with rfl | hmem
    · exact ⟨key, .inl rfl, rfl⟩
    · obtain ⟨k, hk, hkid⟩ := honly id hmem
      exact ⟨k, .inr hk, hkid⟩

omit hid in
theorem restart (hkey : key ∈ distances) (hid : ∀ k ∈ distances, k.id = key.id → k = key)
    (hp : ∀ fn ∈ pending, fn.stopped ≠ some key) :
    Runs distances pending (fixes.insert key.id o) := by
  refine ⟨fun k hk => ?_, h.only_insert hkey⟩
  have hruns := h.runs k hk
  simp only [Std.TreeMap.mem_insert, Std.compare_eq_iff_eq]
  by_cases hkk : k = key
  · subst hkk
    exact ⟨fun _ => hp, fun _ => .inl rfl⟩
  · grind

theorem stop (hfn : fn.stopped = some key) :
    Runs distances (pending ++ [fn]) (fixes.erase key.id) := by
  obtain ⟨hruns, honly⟩ := h
  constructor
  · intro k hk
    simp only [Std.TreeMap.mem_erase, ne_eq, Std.compare_eq_iff_eq, mem_append, mem_singleton]
    by_cases hkk : k = key
    · subst hkk
      exact ⟨fun hmem => absurd rfl hmem.1, fun hall => absurd hfn (hall fn (.inr rfl))⟩
    · grind
  · intro id hmem
    exact honly id (Std.TreeMap.mem_of_mem_erase hmem)

theorem leave : Runs (distances.erase key) pending (fixes.erase key.id) := by
  obtain ⟨hruns, honly⟩ := h
  constructor
  · intro k hk
    simp only [Std.TreeMap.mem_erase, ne_eq, Std.compare_eq_iff_eq] at hk ⊢
    grind
  · intro id hmem
    simp only [Std.TreeMap.mem_erase, ne_eq, Std.compare_eq_iff_eq] at hmem ⊢
    obtain ⟨k, hk, rfl⟩ := honly id hmem.2
    exact ⟨k, ⟨fun heq => hmem.1 (congrArg (·.id) heq), hk⟩, rfl⟩

end

theorem call (hfn : fn.stopped = none) : Runs distances (pending ++ [fn]) fixes := by
  refine ⟨fun k hk => (h.runs k hk).trans ?_, h.only⟩
  simp only [mem_append, mem_singleton]
  constructor
  · rintro hall fn' (hfn' | rfl)
    · exact hall fn' hfn'
    · simp [hfn]
  · exact fun hall fn' hfn' => hall fn' (.inl hfn')

omit h in
theorem answer (h : Runs distances (fn :: pending) fixes) (hfn : fn.stopped = none) :
    Runs distances pending fixes := by
  refine ⟨fun k hk => (h.runs k hk).trans ?_, h.only⟩
  simp [hfn]

omit h in
theorem answer_restart (h : Runs distances (fn :: pending) fixes) (hkey : key ∈ distances)
    (hid : ∀ k ∈ distances, k.id = key.id → k = key) (hfn : fn.stopped = some key)
    (hp : ∀ fn ∈ pending, fn.stopped ≠ some key) :
    Runs distances pending (fixes.insert key.id o) := by
  refine ⟨fun k hk => ?_, h.only_insert hkey⟩
  have hruns := h.runs k hk
  simp only [Std.TreeMap.mem_insert, Std.compare_eq_iff_eq, mem_cons] at hruns ⊢
  by_cases hkk : k = key
  · subst hkk
    exact ⟨fun _ => hp, fun _ => .inl rfl⟩
  · grind

omit h in
theorem answer_erase (h : Runs distances (fn :: pending) fixes) (hkey : key ∈ distances)
    (hfn : fn.stopped = some key) : Runs (distances.erase key) pending fixes := by
  obtain ⟨hruns, honly⟩ := h
  have hnot : key.id ∉ fixes := fun hmem =>
    (hruns key hkey).mp hmem fn mem_cons_self hfn
  constructor
  · intro k hk
    simp only [Std.TreeMap.mem_erase, ne_eq, Std.compare_eq_iff_eq] at hk
    have hk' := hruns k hk.2
    simp only [mem_cons] at hk'
    grind
  · intro id hmem
    obtain ⟨k, hk, rfl⟩ := honly id hmem
    refine ⟨k, Std.TreeMap.mem_erase.mpr ⟨fun heq => ?_, hk⟩, rfl⟩
    rw [Std.compare_eq_iff_eq] at heq
    exact hnot (heq ▸ hmem)

theorem save (hkey : key ∈ distances) : Runs (distances.insert key o) pending fixes := by
  have hmem : ∀ k, k ∈ distances.insert key o ↔ k ∈ distances := by
    intro k
    simp only [Std.TreeMap.mem_insert, Std.compare_eq_iff_eq]
    grind
  constructor
  · exact fun k hk => h.runs k ((hmem k).mp hk)
  · intro id hid
    obtain ⟨k, hk, hkid⟩ := h.only id hid
    exact ⟨k, (hmem k).mpr hk, hkid⟩

end Runs

/-! ## The time based fix -/

namespace GnssAdapter

variable {a b : GnssAdapter} {key : LocationSessionKey} {options : TrackingOptions}

/-- The fix runs if there are sessions, and if it is said to run at 100 ms. -/
structure FixRuns (a : GnssAdapter) : Prop where
  sessions : a.mTimeBasedTrackingSessions.isEmpty = false → a.mLocApi.fixStarted = true
  spe : a.mSPEAlreadyRunningAtHighestInterval = true → a.mLocApi.fixStarted = true

theorem FixRuns.congr (ha : a.FixRuns)
    (ht : b.mTimeBasedTrackingSessions = a.mTimeBasedTrackingSessions)
    (hs : b.mSPEAlreadyRunningAtHighestInterval = a.mSPEAlreadyRunningAtHighestInterval)
    (hf : b.mLocApi.fixStarted = a.mLocApi.fixStarted) : b.FixRuns := by
  refine ⟨?_, ?_⟩
  · rw [ht, hf]
    exact ha.sessions
  · rw [hs, hf]
    exact ha.spe

variable {fn : ResponseFn} {r : Bool} {e : TrackingEvent}

theorem runTimeBased_fixStarted
    (ha : a.mSPEAlreadyRunningAtHighestInterval = true → a.mLocApi.fixStarted = true) :
    (a.runTimeBased key options fn).mLocApi.fixStarted = true := by
  simp only [runTimeBased, checkAndSetSPEToRunforNHz]
  split
  case h_1 a' _ h =>
    rw [reportResponse_locApi]
    split at h
    · cases h
    · split at h
      case isTrue hspe =>
        cases h
        exact ha hspe
      case isFalse =>
        split at h <;> cases h
  case h_2 => rfl

theorem startTimeBasedTrackingMultiplex_fixStarted (ha : a.FixRuns) :
    (a.startTimeBasedTrackingMultiplex key options).1.mLocApi.fixStarted = true := by
  simp only [startTimeBasedTrackingMultiplex]
  split
  · exact runTimeBased_fixStarted ha.spe
  case isFalse hempty =>
    split
    · exact runTimeBased_fixStarted ha.spe
    · exact ha.sessions (Bool.eq_false_iff.mpr hempty)

section

variable (ha : a.FixRuns) (hkey : key ∈ a.mTimeBasedTrackingSessions)
include ha hkey

theorem updateTrackingMultiplex_fixStarted :
    (a.updateTrackingMultiplex key options).1.mLocApi.fixStarted = true := by
  have hruns := ha.sessions (Std.TreeMap.isEmpty_eq_false_iff_exists_mem.mpr ⟨key, hkey⟩)
  simp only [updateTrackingMultiplex]
  split
  · exact hruns
  · split
    · split
      · exact runTimeBased_fixStarted ha.spe
      · split
        · exact runTimeBased_fixStarted ha.spe
        · exact hruns
    · exact hruns

theorem stopTimeBasedTrackingMultiplex_fixStarted
    (hothers : (a.mTimeBasedTrackingSessions.erase key).isEmpty = false) :
    (a.stopTimeBasedTrackingMultiplex key).1.mLocApi.fixStarted = true := by
  have hone : a.mTimeBasedTrackingSessions.size ≠ 1 := by
    rw [Ne, size_eq_one_iff hkey, hothers]
    exact Bool.false_ne_true
  have hruns := ha.sessions (Std.TreeMap.isEmpty_eq_false_iff_exists_mem.mpr ⟨key, hkey⟩)
  simp only [stopTimeBasedTrackingMultiplex, if_neg hone]
  split
  · exact hruns
  · split
    · exact runTimeBased_fixStarted ha.spe
    · exact hruns

omit ha hkey in
theorem fixRuns_of_started (h : a.mLocApi.fixStarted = true) : a.FixRuns :=
  ⟨fun _ => h, fun _ => h⟩

omit ha hkey in
theorem FixRuns.startTimeBasedSession (ha : a.FixRuns) :
    (a.startTimeBasedSession key options).FixRuns := by
  refine fixRuns_of_started ?_
  rw [GnssAdapter.startTimeBasedSession, reportIf_locApi, saveTrackingSession_locApi]
  exact startTimeBasedTrackingMultiplex_fixStarted ha

theorem FixRuns.updateTimeBasedSession : (a.updateTimeBasedSession key options).FixRuns := by
  refine fixRuns_of_started ?_
  rw [GnssAdapter.updateTimeBasedSession, reportIf_locApi, saveTrackingSession_locApi]
  exact updateTrackingMultiplex_fixStarted ha hkey

theorem FixRuns.stopTimeBasedSession : (a.stopTimeBasedSession key).FixRuns := by
  obtain ⟨ht, -, -⟩ := stopTimeBasedSession_rest hkey
  cases hothers : (a.mTimeBasedTrackingSessions.erase key).isEmpty with
  | false =>
    refine fixRuns_of_started ?_
    rw [GnssAdapter.stopTimeBasedSession, eraseTrackingSession_locApi]
    exact stopTimeBasedTrackingMultiplex_fixStarted ha hkey hothers
  | true =>
    refine ⟨fun h => ?_, fun h => ?_⟩
    · rw [ht, hothers] at h
      cases h
    · rw [GnssAdapter.stopTimeBasedSession, eraseTrackingSession_spe,
        stopTimeBasedTrackingMultiplex, if_pos ((size_eq_one_iff hkey).mpr hothers)] at h
      cases h

end

theorem FixRuns.restart (ha : a.FixRuns) : FixRuns (checkAndRestartTimeBasedSession
      { a with mSPEAlreadyRunningAtHighestInterval := false }) := by
  simp only [checkAndRestartTimeBasedSession]
  split
  · refine ⟨ha.sessions, ?_⟩
    intro h
    cases h
  · split
    case h_1 h =>
      simp only [checkAndSetSPEToRunforNHz, Bool.false_eq_true, if_false] at h
      split at h
      · cases h
      · split at h <;> cases h
    case h_2 => exact fixRuns_of_started rfl

/-! ## Orderly steps -/

/-- LocApi runs what the maps say. -/
structure EngineAgrees (a : GnssAdapter) : Prop where
  fix : a.FixRuns
  runs : Runs a.mDistanceBasedTrackingSessions a.mLocApi.pending a.mLocApi.distanceBased

section

variable (ha : a.EngineAgrees)
include ha

theorem EngineAgrees.same (h : SameButFix a b) (hfix : b.FixRuns) : b.EngineAgrees := by
  refine ⟨hfix, ?_⟩
  rw [h.distanceBased, h.pending, h.fixes]
  exact ha.runs

theorem EngineAgrees.reportResponse {err : LocationError} :
    (a.reportResponse key err).EngineAgrees :=
  ha.same reportResponse_same (ha.fix.congr (by simp) (by simp) (by simp))

theorem EngineAgrees.reportIf : (a.reportIf r key).EngineAgrees := by
  simp only [GnssAdapter.reportIf]
  split
  · exact ha.reportResponse
  · exact ha

theorem EngineAgrees.saveTimeBased (hsame : SameButFix a b)
    (htime : a.isDistanceBased options = false)
    (hfix : ((b.saveTrackingSession key options).reportIf r key).FixRuns) :
    ((b.saveTrackingSession key options).reportIf r key).EngineAgrees := by
  have htime' : b.isDistanceBased options = false := by
    rw [isDistanceBased, hsame.supported]
    exact htime
  refine ⟨hfix, ?_⟩
  rw [reportIf_distanceBased, reportIf_locApi, saveTrackingSession_distanceBased,
    saveTrackingSession_locApi, htime', if_neg Bool.false_ne_true, hsame.distanceBased,
    hsame.pending, hsame.fixes]
  exact ha.runs

theorem EngineAgrees.startDistance
    (hid : ∀ k ∈ a.mDistanceBasedTrackingSessions, k.id = key.id → k = key)
    (hp : ∀ fn ∈ a.mLocApi.pending, fn.switches ≠ some key)
    (hdistance : a.isDistanceBased options = true) (hfn : fn.switches = none) :
    ((a.saveTrackingSession key options).startDistanceBasedTracking key options.toLocationOptions
      fn).EngineAgrees := by
  have hruns : Runs (a.mDistanceBasedTrackingSessions.insert key options.toLocationOptions)
      a.mLocApi.pending (a.mLocApi.distanceBased.insert key.id options.toLocationOptions) :=
    ha.runs.start hid fun fn hfn h => hp fn hfn (ResponseFn.switches_of_stopped h)
  refine ⟨ha.fix.congr ?_ ?_ ?_, ?_⟩
  · simp [startDistanceBasedTracking, hdistance]
  · simp [startDistanceBasedTracking]
  · simp [startDistanceBasedTracking, LocApi.startDistanceBasedTracking]
  · rw [pending_startDistance hfn, saveTrackingSession_locApi]
    simpa [startDistanceBasedTracking, LocApi.startDistanceBasedTracking, hdistance] using hruns

theorem EngineAgrees.stopDistance
    (hid : ∀ k ∈ a.mDistanceBasedTrackingSessions, k.id = key.id → k = key)
    (hfn : fn.stopped = some key) : (a.stopDistanceBasedTracking key fn).EngineAgrees := by
  refine ⟨ha.fix.congr rfl rfl rfl, ?_⟩
  rw [pending_stopDistance (ResponseFn.switches_of_stopped hfn)]
  exact ha.runs.stop hid hfn

theorem EngineAgrees.restartDistance {o : LocationOptions}
    (hkey : key ∈ a.mDistanceBasedTrackingSessions)
    (hid : ∀ k ∈ a.mDistanceBasedTrackingSessions, k.id = key.id → k = key)
    (hp : ∀ fn ∈ a.mLocApi.pending, fn.switches ≠ some key) :
    (a.startDistanceBasedTracking key o .ignore).EngineAgrees := by
  refine ⟨ha.fix.congr rfl rfl rfl, ?_⟩
  rw [pending_startDistance rfl]
  exact ha.runs.restart hkey hid fun fn hfn h => hp fn hfn (ResponseFn.switches_of_stopped h)

theorem EngineAgrees.stopTimeBasedSession (hkey : key ∈ a.mTimeBasedTrackingSessions) :
    (a.stopTimeBasedSession key).EngineAgrees := by
  obtain ⟨-, hd, hp⟩ := stopTimeBasedSession_rest hkey
  refine ⟨ha.fix.stopTimeBasedSession hkey, ?_⟩
  rw [hd, hp, GnssAdapter.stopTimeBasedSession, eraseTrackingSession_locApi,
    stopTimeBasedTrackingMultiplex_same.fixes]
  exact ha.runs

end

section

variable (ht : a.IsTidy) (ha : a.EngineAgrees)
include ht ha

theorem EngineAgrees.switchToDistanceBased (hkey : key ∈ a.mTimeBasedTrackingSessions)
    (hdistance : a.isDistanceBased options = true) :
    (a.switchToDistanceBased key options).EngineAgrees := by
  obtain ⟨-, hd, hp⟩ := stopTimeBasedSession_rest hkey
  refine EngineAgrees.startDistance (ha.stopTimeBasedSession hkey).reportIf ?_ ?_ ?_ rfl
  · rw [reportIf_distanceBased, hd]
    exact fun k hk => ht.owns key (.inl hkey) k (.inr (.inl hk))
  · rw [reportIf_locApi, hp]
    exact Tidy.not_pending ht hkey
  · rw [isDistanceBased, reportIf_supported, GnssAdapter.stopTimeBasedSession,
      eraseTrackingSession_supported, stopTimeBasedTrackingMultiplex_same.supported]
    exact hdistance

theorem EngineAgrees.switchToTimeBased (hkey : key ∈ a.mDistanceBasedTrackingSessions) :
    ((a.eraseTrackingSession key).stopDistanceBasedTracking key
      (.switchToTimeBased key options)).EngineAgrees := by
  have hnot := ht.not_timeBased hkey
  have hleft : Runs (a.mDistanceBasedTrackingSessions.erase key) a.mLocApi.pending
      (a.mLocApi.distanceBased.erase key.id) :=
    ha.runs.leave fun k hk => ht.owns key (.inr (.inl hkey)) k (.inr (.inl hk))
  have hruns : Runs (a.mDistanceBasedTrackingSessions.erase key)
      (a.mLocApi.pending ++ [.switchToTimeBased key options])
      (a.mLocApi.distanceBased.erase key.id) :=
    hleft.call rfl
  refine ⟨ha.fix.congr ?_ ?_ ?_, ?_⟩
  · simp [stopDistanceBasedTracking, hnot]
  · simp [stopDistanceBasedTracking]
  · simp [stopDistanceBasedTracking, LocApi.stopDistanceBasedTracking]
  · rw [pending_stopDistance rfl, eraseTrackingSession_locApi]
    simpa [stopDistanceBasedTracking, LocApi.stopDistanceBasedTracking, hnot] using hruns

theorem EngineAgrees.procMsg {msg : TrackingMsg} (h : a.Undisturbed msg)
    (hwell : a.SwitchesWell (.proc msg)) : (a.procMsg msg).EngineAgrees := by
  have howns : ∀ {key}, key ∈ a.mDistanceBasedTrackingSessions →
      ∀ k ∈ a.mDistanceBasedTrackingSessions, k.id = key.id → k = key :=
    fun hkey k hk => ht.owns _ (.inr (.inl hkey)) k (.inr (.inl hk))
  cases msg with
  | addClient client callbacks => exact ha.same ⟨rfl, rfl, rfl, rfl, rfl, rfl⟩ ⟨ha.fix.1, ha.fix.2⟩
  | startTracking key options =>
    have hfresh := isFresh_of_usedIds h
    refine startTrackingCommand_elim ?_ ha ?_ ?_
    · exact ha.same ⟨rfl, rfl, rfl, rfl, rfl, rfl⟩ ⟨ha.fix.1, ha.fix.2⟩
    · intro _ hdistance
      exact ha.startDistance (fun k hk => hfresh.owns k (.inr (.inl hk))) hfresh.pending
        hdistance rfl
    · intro htime
      exact ha.saveTimeBased startTimeBasedTrackingMultiplex_same
        (startsTimeBased_options htime).2 ha.fix.startTimeBasedSession
  | updateTrackingOptions key options =>
    refine updateTrackingOptionsCommand_elim _ rfl ?_ (fun _ => ha.reportResponse) ?_ ?_ ?_ ?_
    · exact ha.same ⟨rfl, rfl, rfl, rfl, rfl, rfl⟩ ⟨ha.fix.1, ha.fix.2⟩
    · intro hkey hsize hpos hknown
      refine ha.switchToDistanceBased ht hkey (isDistanceBased_iff.mpr ⟨hpos, ?_⟩)
      exact hwell hkey (by simpa using hsize) (by simpa using hpos) hknown
    · exact fun hkey _ _ => ha.switchToTimeBased ht hkey
    · intro hkey _ _ hzero
      exact ha.saveTimeBased updateTrackingMultiplex_same (not_isDistanceBased hzero)
        (ha.fix.updateTimeBasedSession hkey)
    · exact fun hkey _ _ => ha.stopDistance (howns hkey) rfl
  | stopTracking key =>
    refine stopTrackingCommand_elim (fun _ => ha.reportResponse) ?_ ?_
    · exact fun hkey => (ha.stopTimeBasedSession hkey).reportIf
    · exact fun hkey => ha.stopDistance (howns hkey) rfl
  | removeClient client =>
    refine (removeClientCommand_elim (P := fun b => b.IsTidy ∧ b.EngineAgrees) h ⟨ht, ha⟩
      ?_ ?_ ?_).2
    · exact fun b key hb hkey => ⟨hb.1.stopTimeBasedSession hkey, hb.2.stopTimeBasedSession hkey⟩
    · exact fun b key hb hkey hp => ⟨hb.1.stopDistance hkey hp rfl hkey,
        hb.2.stopDistance (fun k hk => hb.1.owns key (.inr (.inl hkey)) k (.inr (.inl hk))) rfl⟩
    · exact fun b m hb => ⟨hb.1, hb.2.same ⟨rfl, rfl, rfl, rfl, rfl, rfl⟩ ⟨hb.2.fix.1, hb.2.fix.2⟩⟩
  | engineUp =>
    refine (handleEngineUpEvent_elim (P := fun b => b.IsTidy ∧ b.EngineAgrees) h
      ⟨ht, ha.same ⟨rfl, rfl, rfl, rfl, rfl, rfl⟩ ⟨ha.fix.1, ha.fix.2⟩⟩ ?_ ?_ ?_).2
    · intro b hb
      have ht' : IsTidy { b with mSPEAlreadyRunningAtHighestInterval := false } := hb.1
      have hsame := checkAndRestartTimeBasedSession_same
        (a := { b with mSPEAlreadyRunningAtHighestInterval := false })
      have hb' : SameButFix b { b with mSPEAlreadyRunningAtHighestInterval := false } :=
        ⟨rfl, rfl, rfl, rfl, rfl, rfl⟩
      exact ⟨ht'.same hsame, hb.2.same (hb'.trans hsame) hb.2.fix.restart⟩
    · exact fun b key o hb hkey hp => ⟨hb.1.startDistance rfl, hb.2.restartDistance hkey
        (fun k hk => hb.1.owns key (.inr (.inl hkey)) k (.inr (.inl hk))) hp⟩
    · exact fun b rs hb => ⟨hb.1, hb.2.same ⟨rfl, rfl, rfl, rfl, rfl, rfl⟩ ⟨hb.2.fix.1, hb.2.fix.2⟩⟩

omit ht ha in
theorem EngineAgrees.take {i : Nat} {r : LocApiResponse} (ha : a.EngineAgrees)
    (hr : a.mLocApi.unanswered[i]? = some r) :
    (a.take i r).FixRuns ∧ Runs a.mDistanceBasedTrackingSessions
      ([r.fn].filter (·.switches.isSome) ++ (a.take i r).mLocApi.pending)
      (a.take i r).mLocApi.distanceBased :=
  ⟨⟨ha.fix.1, ha.fix.2⟩, ha.runs.perm (pending_take hr).symm⟩

theorem EngineAgrees.next (h : a.Orderly e) (hwell : a.SwitchesWell e) :
    (a.next e).EngineAgrees := by
  cases e with
  | proc msg =>
    have hbegin : (a.begin msg).EngineAgrees := ⟨⟨ha.fix.1, ha.fix.2⟩, ha.runs⟩
    refine EngineAgrees.procMsg (a := a.begin msg) ht hbegin h ?_
    cases msg <;> exact hwell
  | engineLockState state => exact ⟨⟨ha.fix.1, ha.fix.2⟩, ha.runs⟩
  | respond i err =>
    obtain rfl : err = .success := h
    simp only [GnssAdapter.next]
    split
    case h_2 => exact ⟨⟨ha.fix.1, ha.fix.2⟩, ha.runs⟩
    case h_1 r hr =>
      have htidy := take_isTidy ht hr
      obtain ⟨hfix, hruns⟩ := ha.take hr
      have hfinds : ∀ key, r.fn.switches = some key → a.Finds i r key := fun key => ht.finds hr
      obtain ⟨cause, fn⟩ := r
      cases fn with
      | ignore => exact ⟨hfix, hruns⟩
      | startTimeBased key =>
        have htake : EngineAgrees (a.take i ⟨cause, .startTimeBased key⟩) := ⟨hfix, hruns⟩
        simpa [procResponse] using htake.reportResponse
      | startDistanceBased key =>
        have htake : EngineAgrees (a.take i ⟨cause, .startDistanceBased key⟩) := ⟨hfix, hruns⟩
        simpa [procResponse] using htake.reportResponse
      | updateTracking key old =>
        have htake : EngineAgrees (a.take i ⟨cause, .updateTracking key old⟩) := ⟨hfix, hruns⟩
        simpa [procResponse] using htake.reportResponse
      | stopFix key =>
        have htake : EngineAgrees (a.take i ⟨cause, .stopFix key⟩) := ⟨hfix, hruns⟩
        exact htake.reportResponse
      | switchToTimeBased key options =>
        obtain ⟨⟨_, _, hzero, _⟩, _, _⟩ := hfinds key rfl
        have htake : EngineAgrees (a.take i ⟨cause, .switchToTimeBased key options⟩) :=
          ⟨hfix, hruns.answer rfl⟩
        exact htake.saveTimeBased startTimeBasedTrackingMultiplex_same
          (not_isDistanceBased hzero) hfix.startTimeBasedSession
      | stoppedToRestart key options =>
        obtain ⟨⟨hd, _⟩, howns, hp⟩ := hfinds key rfl
        refine ⟨hfix.congr rfl rfl rfl, ?_⟩
        simp only [procResponse, if_true]
        rw [pending_restart]
        exact (hruns.answer_restart hd (fun k hk => howns k (.inr (.inl hk))) rfl
          fun fn hfn h => hp fn hfn (ResponseFn.switches_of_stopped h)).call rfl
      | restarted key options =>
        obtain ⟨⟨hd, hpos, _⟩, _, _⟩ := hfinds key rfl
        have hdistance : (a.take i ⟨cause, .restarted key options⟩).isDistanceBased options
            = true := isDistanceBased_iff.mpr ⟨hpos, ht.supported key hd⟩
        refine ⟨hfix.congr ?_ ?_ ?_, ?_⟩
        · simp [procResponse, hdistance]
        · simp [procResponse]
        · simp [procResponse]
        · simpa [procResponse, hdistance] using
            (hruns.answer rfl).save (o := options.toLocationOptions) hd
      | stopDistanceBased key =>
        obtain ⟨hd, _, _⟩ := hfinds key rfl
        have hnot : (a.take i ⟨cause, .stopDistanceBased key⟩).isTimeBasedTrackingSession key
            = false := ht.not_timeBased hd
        refine ⟨hfix.congr ?_ ?_ ?_, ?_⟩
        · simp [procResponse, hnot]
        · simp [procResponse]
        · simp [procResponse]
        · simpa [procResponse, hnot] using hruns.answer_erase hd rfl
      | stopClientSession key =>
        obtain ⟨hd, _, _⟩ := hfinds key rfl
        have hnot : (a.take i ⟨cause, .stopClientSession key⟩).isTimeBasedTrackingSession key
            = false := ht.not_timeBased hd
        refine ⟨hfix.congr ?_ ?_ ?_, ?_⟩
        · simp [procResponse, hnot]
        · simp [procResponse]
        · simp [procResponse]
        · simpa [procResponse, hnot] using hruns.answer_erase hd rfl

end

/-! ## Runs -/

/-- The maps say what LocApi does.  A distance based session may be without
a fix only until a pending answer for it arrives. -/
structure KindsAgree (a : GnssAdapter) : Prop where
  oneMap : ∀ k, ¬ (k ∈ a.mTimeBasedTrackingSessions ∧ k ∈ a.mDistanceBasedTrackingSessions)
  timeBased : a.mTimeBasedTrackingSessions.isEmpty = false → a.mLocApi.fixStarted = true
  distanceBased : ∀ k ∈ a.mDistanceBasedTrackingSessions,
    (∀ fn ∈ a.mLocApi.pending, fn.switches ≠ some k) → k.id ∈ a.mLocApi.distanceBased
  noOthers : ∀ id ∈ a.mLocApi.distanceBased, ∃ k ∈ a.mDistanceBasedTrackingSessions, k.id = id

theorem EngineAgrees.kindsAgree (ht : a.IsTidy) (ha : a.EngineAgrees) : a.KindsAgree where
  oneMap k hk := ht.disjoint k hk.1 hk.2
  timeBased := ha.fix.sessions
  distanceBased k hk hp := (ha.runs.runs k hk).mpr fun fn hfn h =>
    hp fn hfn (ResponseFn.switches_of_stopped h)
  noOthers := ha.runs.only

theorem not_kindsAgree_of_switchToDistanceBased (ht : a.IsTidy)
    (hkey : key ∈ a.mTimeBasedTrackingSessions) (hm : a.isMessageSupported = false) :
    ¬ (a.switchToDistanceBased key options).KindsAgree := by
  intro h
  have hfix : key.id ∈ (a.switchToDistanceBased key options).mLocApi.distanceBased :=
    Std.TreeMap.mem_insert_self
  obtain ⟨k, hk, -⟩ := h.noOthers key.id hfix
  obtain ⟨-, hd, -⟩ := stopTimeBasedSession_rest hkey
  have hnot : ((a.stopTimeBasedSession key).reportIf (a.stopTimeBasedTrackingMultiplex key).2
      key).isDistanceBased options = false := by
    rw [isDistanceBased, reportIf_supported, stopTimeBasedSession, eraseTrackingSession_supported,
      stopTimeBasedTrackingMultiplex_same.supported, hm, Bool.and_false]
  have hmem : k ∈ a.mDistanceBasedTrackingSessions := by
    rw [← hd]
    simpa [switchToDistanceBased, startDistanceBasedTracking, hnot] using hk
  rw [ht.supported k hmem] at hm
  cases hm

theorem switchesWell_of_kindsAgree (ht : a.IsTidy) (h : (a.next e).KindsAgree) :
    a.SwitchesWell e := by
  cases e with
  | engineLockState state => trivial
  | respond i err => trivial
  | proc msg =>
    cases msg with
    | updateTrackingOptions key options =>
      intro hkey hsize hpos hknown
      by_contra hm
      rw [Bool.not_eq_true] at hm
      have hbegin : ((a.begin (.updateTrackingOptions key options)).switchToDistanceBased key
          options.fallBackToM2.clampInterval).KindsAgree := by
        rw [← updateTrackingOptionsCommand_toDistance (a := a.begin _) hkey hsize hpos hknown]
        exact h
      exact not_kindsAgree_of_switchToDistanceBased (a := a.begin _) ht hkey hm hbegin
    | _ => trivial

/-- Along an orderly run the maps say what LocApi does if and only if no
time based session is told to become distance based where that is not
supported. -/
theorem kindsAgree_iff {supported nHzNeeded known : Bool} {es : List TrackingEvent}
    (h : StepsMeet step Orderly (new supported nHzNeeded known) es) :
    StatesMeet step KindsAgree (new supported nHzNeeded known) es ↔
      StepsMeet step SwitchesWell (new supported nHzNeeded known) es := by
  have hnew : (new supported nHzNeeded known).IsTidy ∧
      (new supported nHzNeeded known).EngineAgrees := by
    refine ⟨Tidy.empty, ⟨?_, ?_⟩, ?_, ?_⟩ <;> simp [new]
  refine statesMeet_iff_stepsMeet_of_pre (fun a => a.IsTidy ∧ a.EngineAgrees) ?_ ?_ ?_ hnew h
  · exact fun a ha => ha.2.kindsAgree ha.1
  · exact fun a e ha hpre hok => ⟨ha.1.next hpre, ha.2.next ha.1 hpre hok⟩
  · exact fun a e ha _ hP => switchesWell_of_kindsAgree ha.1 hP

/-- A session starts time based and is told to become distance based, each
call being answered before the next command. -/
def toDistanceRun : List TrackingEvent :=
  [.proc (.addClient 1 .all), .proc (.startTracking ⟨1, 1⟩ (.request 1000 0 .m2)),
    .respond 0 .success, .proc (.updateTrackingOptions ⟨1, 1⟩ (.request 1000 10 .m2)),
    .respond 0 .success, .respond 0 .success]

theorem kindsAgree_iff_toDistanceRun :
    StatesMeet step KindsAgree (new true false true) toDistanceRun ↔
      StepsMeet step SwitchesWell (new true false true) toDistanceRun :=
  kindsAgree_iff (by decide)

/-- Where distance based tracking is not supported, all calls are answered
and the session is time based with its fix stopped. -/
theorem not_kindsAgree_of_update : StepsMeet step Orderly (new false false true) toDistanceRun ∧
      (after step (new false false true) toDistanceRun).mLocApi.unanswered = [] ∧
      ¬ (after step (new false false true) toDistanceRun).KindsAgree := by
  refine ⟨by decide, by decide, fun h => ?_⟩
  have hruns := h.timeBased (by decide)
  revert hruns
  decide

end GnssAdapter

end LocStack.Tracking
