/-
# `LocStack.Batching.BatchFull` — when BATCH_FULL is registered

The engine reports a full batch only while LOC_API_ADAPTER_BIT_BATCH_FULL is
registered, which it is to be as long as a session asks for such reports or
a trip goes on (`Reporting`).  Every path that starts or stops a session
decides for itself, by `autoReportBatchingSessionsCount`.

That count takes a trip twice, as an entry of `mBatchingSessions` and as one
of `mTripSessions`, so that 0 is none but 1 is never the last trip: the event
stays registered when that is stopped, and its entry is counted from then
on.  `KeepsRegistered` has the answers that do not come to that: the trip
that is stopped is not the last one, or is restarted as a session.  In a run
in which all answers are of these the event is registered as it is to be
(`registered_of_stepsMeet`).
-/
import LocStack.Batching.Sessions

namespace LocStack.Batching

open Base List
open Tracking (LocationError LocationSessionKey)

/-- A session of this mode asks for the reports, and is no trip. -/
def BatchingOptions.AutoReports (options : BatchingOptions) : Prop :=
  options.batchingMode ≠ .noAutoReport ∧ options.batchingMode ≠ .trip

namespace BatchingAdapter

/-! ## The property -/

/-- An auto-report session or a trip is there. -/
def Reporting (s : BatchingAdapter) : Prop :=
  (∃ (key : LocationSessionKey) (options : BatchingOptions),
    s.mBatchingSessions[key]? = some options ∧ options.AutoReports) ∨
      ∃ id : Nat, id ∈ s.mTripSessions

/-- A session that reports is being stopped, and the engine has not answered
yet. -/
def StopsReporting (s : BatchingAdapter) : Prop :=
  ∃ (key : LocationSessionKey) (flpOptions : BatchingOptions) (restartNeeded : Bool)
    (batchOptions : BatchingOptions),
    .stopBatching key flpOptions restartNeeded batchOptions ∈ s.unanswered ∧
      flpOptions.batchingMode ≠ .noAutoReport

/-- BATCH_FULL is registered for the sessions that report, and for no others
than these and those being stopped. -/
structure Registered (s : BatchingAdapter) : Prop where
  needed : s.Reporting → s.batchFull = true
  only : s.batchFull = true → s.Reporting ∨ s.StopsReporting

/-- The event is registered where it is needed, and an entry of mode TRIP is
there only while a trip goes on. -/
structure Orderly (s : BatchingAdapter) : Prop where
  needed : s.Reporting → s.batchFull = true
  trips : ∀ (key : LocationSessionKey) options, s.mBatchingSessions[key]? = some options →
    options.batchingMode = .trip → ∃ id : Nat, id ∈ s.mTripSessions

/-- The event is not registered for nothing. -/
def Needed (s : BatchingAdapter) : Prop :=
  s.batchFull = true → s.Reporting ∨ s.StopsReporting

variable {s t : BatchingAdapter} {key : LocationSessionKey} {fn : ResponseFn}
  {options batchOptions flpOptions : BatchingOptions} {err : LocationError}
  {restartNeeded : Bool} {pendingMsg : Option BatchingMsg} {distance interval data : UInt32}

theorem Idle.orderly (h : s.Idle) : s.Orderly := by
  have hnone : ∀ (key : LocationSessionKey) options,
      s.mBatchingSessions[key]? ≠ some options := by
    intro key options hkey
    rw [h.mBatchingSessions, Std.TreeMap.getElem?_emptyc] at hkey
    cases hkey
  constructor
  · rintro (⟨key, options, hkey, -⟩ | ⟨id, hid⟩)
    · exact absurd hkey (hnone key options)
    · rw [h.mTripSessions] at hid
      exact absurd hid Std.TreeMap.not_mem_emptyc
  · intro key options hkey
    exact absurd hkey (hnone key options)

/-! ## The count -/

theorem count_eq_zero_iff : s.autoReportBatchingSessionsCount = 0 ↔
      (∀ (key : LocationSessionKey) options, s.mBatchingSessions[key]? = some options →
        options.batchingMode = .noAutoReport) ∧ ∀ id, id ∉ s.mTripSessions := by
  rw [autoReportBatchingSessionsCount, Nat.add_eq_zero_iff, size_eq_zero_iff, countP_eq_zero]
  refine and_congr_left fun _ => ?_
  constructor
  · intro h key options hkey
    have hmem := Std.TreeMap.mem_toList_iff_getElem?_eq_some.mpr hkey
    simpa using h (key, options) hmem
  · intro h entry hmem
    simpa using h entry.1 entry.2 (Std.TreeMap.mem_toList_iff_getElem?_eq_some.mp hmem)

theorem Orderly.count_eq_zero_iff (h : s.Orderly) :
    s.autoReportBatchingSessionsCount = 0 ↔ ¬ s.Reporting := by
  rw [BatchingAdapter.count_eq_zero_iff]
  constructor
  · rintro ⟨hentries, htrips⟩ (⟨key, options, hkey, hreports⟩ | ⟨id, hid⟩)
    · exact hreports.1 (hentries key options hkey)
    · exact htrips id hid
  · intro hnot
    have htrips : ∀ id, id ∉ s.mTripSessions := fun id hid => hnot (.inr ⟨id, hid⟩)
    refine ⟨?_, htrips⟩
    intro key options hkey
    by_contra hmode
    refine hnot (.inl ⟨key, options, hkey, hmode, ?_⟩)
    intro htrip
    obtain ⟨id, hid⟩ := h.trips key options hkey htrip
    exact htrips id hid

theorem Orderly.registers (h : s.Orderly) :
    (s.batchFull || decide (s.autoReportBatchingSessionsCount = 0)) = true := by
  rcases Nat.eq_zero_or_pos s.autoReportBatchingSessionsCount with hzero | hpos
  · rw [hzero]
    simp
  · have hreporting : s.Reporting := by
      by_contra hnot
      exact absurd (h.count_eq_zero_iff.mpr hnot) (Nat.pos_iff_ne_zero.mp hpos)
    rw [h.needed hreporting]
    simp

/-! ## Steps that change no session -/

/-- The sessions, the trips and the registration are the same, and more
calls may be unanswered. -/
structure Alike (s t : BatchingAdapter) : Prop where
  sessions : t.mBatchingSessions = s.mBatchingSessions
  trips : ∀ id, id ∈ t.mTripSessions ↔ id ∈ s.mTripSessions
  batchFull : t.batchFull = s.batchFull
  unanswered : ∀ fn ∈ s.unanswered, fn ∈ t.unanswered

theorem Alike.reporting_iff (h : s.Alike t) : t.Reporting ↔ s.Reporting := by
  rw [Reporting, Reporting, h.sessions]
  simp only [h.trips]

theorem Alike.orderly (h : s.Alike t) (hs : s.Orderly) : t.Orderly := by
  constructor
  · rw [h.reporting_iff, h.batchFull]
    exact hs.needed
  · rw [h.sessions]
    simp only [h.trips]
    exact hs.trips

theorem Alike.needed (h : s.Alike t) (hs : s.Needed) : t.Needed := by
  rw [Needed, h.reporting_iff, h.batchFull]
  intro hfull
  refine (hs hfull).imp_right ?_
  rintro ⟨key, flpOptions, restartNeeded, batchOptions, hmem, hmode⟩
  exact ⟨key, flpOptions, restartNeeded, batchOptions, h.unanswered _ hmem, hmode⟩

theorem alike_call (s : BatchingAdapter) (fn : ResponseFn) : s.Alike (s.call fn) :=
  ⟨rfl, fun _ => Iff.rfl, rfl, fun _ h => mem_append_left _ h⟩

theorem alike_callTrip (s : BatchingAdapter) (distance interval : UInt32) (fn : ResponseFn) :
    s.Alike (s.callTrip distance interval fn) :=
  ⟨rfl, fun _ => Iff.rfl, rfl, fun _ h => mem_append_left _ h⟩

theorem alike_restartForTrips (s : BatchingAdapter)
    (minRemainingDistance minTBFInterval accumulatedDistance : UInt32) :
    s.Alike (s.restartForTrips minRemainingDistance minTBFInterval accumulatedDistance) := by
  rw [restartForTrips]
  split
  · exact alike_callTrip ..
  · exact ⟨rfl, fun _ => Iff.rfl, rfl, fun _ h => h⟩

theorem alike_restartRoutines (s : BatchingAdapter) : s.Alike s.restartRoutines :=
  ⟨rfl, fun _ => Iff.rfl, rfl, fun _ h => mem_append_left _ h⟩

theorem alike_restartTrips (s : BatchingAdapter) : s.Alike s.restartTrips := by
  rw [restartTrips]
  split
  · exact ⟨rfl, fun _ => Iff.rfl, rfl, fun _ h => mem_append_left _ h⟩
  · exact ⟨rfl, fun _ => Iff.rfl, rfl, fun _ h => h⟩

/-! ## Starting -/

theorem reporting_save (hreports : options.AutoReports) :
    (s.saveBatchingSession key options).Reporting :=
  .inl ⟨key, options, (getElem?_saveBatchingSession ..).trans (if_pos rfl), hreports⟩

theorem orderly_save (h : s.Orderly) (hreports : options.AutoReports)
    (hfull : s.batchFull = true) : (s.saveBatchingSession key options).Orderly := by
  refine ⟨fun _ => hfull, ?_⟩
  intro key' options' hkey' hmode'
  rw [getElem?_saveBatchingSession] at hkey'
  split at hkey'
  · cases hkey'
    exact absurd hmode' hreports.2
  · exact h.trips key' options' hkey' hmode'

theorem reporting_save_noAutoReport (hmode : options.batchingMode = .noAutoReport)
    (hkey : ∀ options, s.mBatchingSessions[key]? = some options → ¬ options.AutoReports) :
    (s.saveBatchingSession key options).Reporting ↔ s.Reporting := by
  refine or_congr_left ?_
  constructor
  · rintro ⟨key', options', hkey', hreports⟩
    rw [getElem?_saveBatchingSession] at hkey'
    split at hkey'
    · cases hkey'
      exact absurd hmode hreports.1
    · exact ⟨key', options', hkey', hreports⟩
  · rintro ⟨key', options', hkey', hreports⟩
    refine ⟨key', options', (getElem?_saveBatchingSession ..).trans ?_, hreports⟩
    rw [if_neg ?_, hkey']
    rintro rfl
    exact hkey options' hkey' hreports

theorem orderly_save_noAutoReport (h : s.Orderly) (hmode : options.batchingMode = .noAutoReport)
    (hkey : ∀ options, s.mBatchingSessions[key]? = some options → ¬ options.AutoReports) :
    (s.saveBatchingSession key options).Orderly := by
  constructor
  · rw [reporting_save_noAutoReport hmode hkey]
    exact h.needed
  · intro key' options' hkey' hmode'
    rw [getElem?_saveBatchingSession] at hkey'
    split at hkey'
    · cases hkey'
      exact absurd hmode' (hmode.trans_ne (by decide))
    · exact h.trips key' options' hkey' hmode'

/-- In order, and not registered for nothing. -/
structure Kept (s : BatchingAdapter) : Prop where
  orderly : s.Orderly
  needed : s.Needed

theorem Alike.kept (h : s.Alike t) (hs : s.Kept) : t.Kept :=
  ⟨h.orderly hs.orderly, h.needed hs.needed⟩

theorem Kept.registered (h : s.Kept) : s.Registered := ⟨h.orderly.needed, h.needed⟩

theorem kept_startBatching (h : s.Orderly) (hreports : options.AutoReports) :
    (s.startBatching key options pendingMsg).Kept := by
  refine (alike_call ..).kept ?_
  rw [if_pos hreports.1, registerIfNone_eq]
  have hregistered : { s with
      batchFull := (s.batchFull || decide (s.autoReportBatchingSessionsCount = 0)) }.Orderly :=
    ⟨fun _ => h.registers, h.trips⟩
  exact ⟨orderly_save hregistered hreports h.registers, fun _ => .inl (reporting_save hreports)⟩

theorem kept_startBatching_noAutoReport (h : s.Kept)
    (hmode : options.batchingMode = .noAutoReport)
    (hkey : ∀ options, s.mBatchingSessions[key]? = some options → ¬ options.AutoReports) :
    (s.startBatching key options pendingMsg).Kept := by
  refine (alike_call ..).kept ?_
  rw [if_neg (not_not.mpr hmode)]
  refine ⟨orderly_save_noAutoReport h.orderly hmode hkey, fun hfull => ?_⟩
  rw [reporting_save_noAutoReport hmode hkey]
  exact h.needed hfull

theorem mem_saveTrip (id : Nat) (options : BatchingOptions) (data : UInt32) :
    id ∈ (s.saveTrip id options data).mTripSessions := by
  simp [saveTrip]

theorem kept_startTripBatchingMultiplex (h : s.Orderly) :
    (s.startTripBatchingMultiplex key options).Kept := by
  rw [startTripBatchingMultiplex]
  split
  · refine (alike_callTrip ..).kept ?_
    rw [registerIfNone_eq]
    exact ⟨⟨fun _ => h.registers, fun _ _ _ _ => ⟨key.id, mem_saveTrip ..⟩⟩,
      fun _ => .inl (.inr ⟨key.id, mem_saveTrip ..⟩)⟩
  · rename_i hsize
    refine (alike_call ..).kept ⟨h, fun _ => .inl (.inr ?_)⟩
    rw [size_eq_zero_iff] at hsize
    simpa using hsize

theorem kept_restartAs (h : s.Orderly)
    (hkey : options.batchingMode = .noAutoReport →
      ∀ options, s.mBatchingSessions[key]? = some options → ¬ options.AutoReports)
    (hneeded : options.batchingMode = .routine ∨ options.batchingMode = .trip ∨ s.Needed) :
    (s.restartAs key options).Kept := by
  rw [restartAs]
  cases hmode : options.batchingMode with
  | routine =>
    refine kept_startBatching h ⟨?_, ?_⟩ <;> simp [hmode]
  | trip => exact kept_startTripBatchingMultiplex h
  | noAutoReport =>
    simp only [hmode, reduceCtorEq, false_or] at hneeded
    exact kept_startBatching_noAutoReport ⟨h, hneeded⟩ hmode (hkey hmode)
  | other =>
    simp only [hmode, reduceCtorEq, false_or] at hneeded
    exact ⟨h, hneeded⟩

/-! ## Stopping -/

theorem reporting_of_erase (h : (s.eraseBatchingSession key).Reporting) : s.Reporting := by
  refine h.imp_left ?_
  rintro ⟨key', options, hkey', hreports⟩
  rw [getElem?_eraseBatchingSession] at hkey'
  split at hkey'
  · cases hkey'
  · exact ⟨key', options, hkey', hreports⟩

theorem orderly_erase (h : s.Orderly) : (s.eraseBatchingSession key).Orderly := by
  refine ⟨fun hreporting => h.needed (reporting_of_erase hreporting), ?_⟩
  intro key' options hkey' hmode
  rw [getElem?_eraseBatchingSession] at hkey'
  split at hkey'
  · cases hkey'
  · exact h.trips key' options hkey' hmode

theorem kept_of_trip (h : s.Orderly) (htrip : ∃ id, id ∈ s.mTripSessions) : s.Kept :=
  ⟨h, fun _ => .inl (.inr htrip)⟩

theorem kept_stopBatching (h : s.Kept) :
    (s.stopBatching key restartNeeded batchOptions).Kept := by
  rw [stopBatching]
  split
  · exact h
  · rename_i flpOptions hfound
    have horderly : (s.eraseBatchingSession key).Orderly := orderly_erase h.orderly
    refine ⟨(alike_call ..).orderly horderly, fun hfull => ?_⟩
    rcases h.needed hfull with (⟨key', options, hkey', hreports⟩ | htrip) | hstops
    · rcases eq_or_ne key key' with rfl | hne
      · -- it is the one being stopped
        rw [hfound] at hkey'
        cases hkey'
        exact .inr ⟨key, flpOptions, restartNeeded, batchOptions,
          mem_append_right _ (mem_singleton_self _), hreports.1⟩
      · refine .inl (.inl ⟨key', options, ?_, hreports⟩)
        exact (getElem?_eraseBatchingSession ..).trans ((if_neg hne).trans hkey')
    · exact .inl (.inr htrip)
    · obtain ⟨key', flpOptions', restartNeeded', batchOptions', hmem, hmode⟩ := hstops
      exact .inr ⟨key', flpOptions', restartNeeded', batchOptions', mem_append_left _ hmem, hmode⟩

theorem kept_stopBatchingResponse (h : s.Orderly)
    (hneeded : flpOptions.batchingMode = .noAutoReport → s.Needed)
    (hkey : restartNeeded = true → batchOptions.batchingMode = .noAutoReport →
      ∀ options, s.mBatchingSessions[key]? = some options → ¬ options.AutoReports) :
    (s.stopBatchingResponse key flpOptions restartNeeded batchOptions .success).1.Kept := by
  rw [stopBatchingResponse, if_neg (by simp)]
  have hunregistered : ∃ t : BatchingAdapter,
      (if flpOptions.batchingMode ≠ .noAutoReport then s.unregisterIfNone else s) = t ∧ t.Kept ∧
        t.mBatchingSessions = s.mBatchingSessions := by
    refine ⟨_, rfl, ?_⟩
    rw [unregisterIfNone_eq]
    split
    · refine ⟨⟨⟨?_, h.trips⟩, ?_⟩, rfl⟩
      · intro hreporting
        have hcount : s.autoReportBatchingSessionsCount ≠ 0 :=
          fun hzero => h.count_eq_zero_iff.mp hzero hreporting
        rw [h.needed hreporting]
        simpa using hcount
      · intro hfull
        have hcount : s.autoReportBatchingSessionsCount ≠ 0 := by
          simpa using (Bool.and_eq_true_iff.mp hfull).2
        exact .inl (not_not.mp fun hnot => hcount (h.count_eq_zero_iff.mpr hnot))
    · rename_i hmode
      exact ⟨⟨h, hneeded (not_not.mp hmode)⟩, rfl⟩
  obtain ⟨t, ht, hkept, hsessions⟩ := hunregistered
  rw [ht]
  cases restartNeeded with
  | false => exact hkept
  | true =>
    refine kept_restartAs hkept.orderly ?_ (.inr (.inr hkept.needed))
    rw [hsessions]
    exact hkey rfl

theorem exists_other (hsome : ∃ id, id ∈ s.mTripSessions) (hsize : s.mTripSessions.size ≠ 1)
    (sessionId : Nat) : ∃ id ∈ s.mTripSessions, id ≠ sessionId := by
  by_contra hnone
  simp only [not_exists, not_and, not_not] at hnone
  have hall : ∀ id, id ∉ s.mTripSessions.erase sessionId := by
    intro id hid
    rw [Std.TreeMap.mem_erase, ne_eq, Std.compare_eq_iff_eq] at hid
    exact hid.1 (hnone id hid.2).symm
  obtain ⟨id, hid⟩ := hsome
  have hpos : s.mTripSessions.size ≠ 0 := fun hzero => (size_eq_zero_iff _).mp hzero id hid
  rw [hnone id hid] at hid
  have hempty : (s.mTripSessions.erase sessionId).size = 0 := by
    rw [← beq_iff_eq, ← Std.TreeMap.isEmpty_eq_size_eq_zero, Std.TreeMap.isEmpty_iff_forall_not_mem]
    exact hall
  rw [Std.TreeMap.size_erase, if_pos (Std.TreeMap.mem_iff_contains.mp hid)] at hempty
  omega

theorem dropped_other (h : ∃ id ∈ s.mTripSessions, id ≠ key.id) :
    ∃ id, id ∈ (s.dropTrip key.id).mTripSessions := by
  obtain ⟨id, hid, hne⟩ := h
  refine ⟨id, Std.TreeMap.mem_erase.mpr ⟨?_, hid⟩⟩
  rw [ne_eq, Std.compare_eq_iff_eq]
  exact hne.symm

theorem kept_stopTrip_other (h : s.Orderly) (hother : ∃ id ∈ s.mTripSessions, id ≠ key.id) :
    (s.stopTripBatchingMultiplexCommon err key restartNeeded batchOptions).1.Kept := by
  have htrip := dropped_other hother
  have hfull : s.batchFull = true := h.needed (.inr ⟨hother.choose, hother.choose_spec.1⟩)
  have hdropped : (s.dropTrip key.id).Orderly := ⟨fun _ => hfull, fun _ _ _ _ => htrip⟩
  have hsize : (s.dropTrip key.id).mTripSessions.size ≠ 0 := by
    intro hzero
    obtain ⟨id, hid⟩ := htrip
    exact (size_eq_zero_iff _).mp hzero id hid
  rw [stopTripBatchingMultiplexCommon, restartRemaining, if_neg hsize, restartTripBatching,
    if_neg hsize]
  have hcalled := (alike_call (s.dropTrip key.id)
    (.queryTrips true (s.dropTrip key.id).recordMins.1 (s.dropTrip key.id).recordMins.2 0)).kept
      (kept_of_trip hdropped htrip)
  cases restartNeeded with
  | false => exact hcalled
  | true =>
    have herased := @orderly_erase _ key hcalled.orderly
    refine kept_restartAs herased ?_ (.inr (.inr (kept_of_trip herased htrip).needed))
    intro _ options hkey
    rw [getElem?_eraseBatchingSession, if_pos rfl] at hkey
    cases hkey

/-- The answer to the stop of a trip is one with which the event stays as it
is to be.  The count is 1 only if nothing else is counted.  Else the event
stays registered, for another trip, or for a session that reports once no
entry of mode TRIP is left. -/
def KeepsRegisteredStop (s : BatchingAdapter) (key : LocationSessionKey) (restartNeeded : Bool)
    (batchOptions : BatchingOptions) : Prop :=
  if s.autoReportBatchingSessionsCount = 1 then key.id ∈ s.mTripSessions
  else
    (∃ id ∈ s.mTripSessions, id ≠ key.id) ∨
      (∀ (key' : LocationSessionKey) options, s.mBatchingSessions[key']? = some options →
          options.batchingMode = .trip → restartNeeded = true ∧ key' = key) ∧
        (restartNeeded = true ∧
            (batchOptions.batchingMode = .routine ∨ batchOptions.batchingMode = .trip) ∨
          (∃ (key' : LocationSessionKey) (options : BatchingOptions), key' ≠ key ∧
            s.mBatchingSessions[key']? = some options ∧ options.AutoReports) ∨
          s.StopsReporting)

theorem kept_of_nothing (hfull : s.batchFull = false) (htrips : ∀ id, id ∉ s.mTripSessions)
    (hsessions : ∀ (key : LocationSessionKey) options, s.mBatchingSessions[key]? = some options →
      options.batchingMode = .noAutoReport) : s.Kept := by
  refine ⟨⟨?_, ?_⟩, fun h => absurd (hfull.symm.trans h) Bool.false_ne_true⟩
  · rintro (⟨key, options, hkey, hreports⟩ | ⟨id, hid⟩)
    · exact absurd (hsessions key options hkey) hreports.1
    · exact absurd hid (htrips id)
  · intro key options hkey hmode
    exact absurd hmode ((hsessions key options hkey).trans_ne (by decide))

theorem size_dropTrip_last (hnone : ∀ id ∈ s.mTripSessions, id = key.id) :
    (s.dropTrip key.id).mTripSessions.size = 0 := by
  rw [size_eq_zero_iff]
  intro id hid
  rw [dropTrip, Std.TreeMap.mem_erase, ne_eq, Std.compare_eq_iff_eq] at hid
  exact hid.1 (hnone id hid.2).symm

theorem restartRemaining_last (hnone : ∀ id ∈ s.mTripSessions, id = key.id) :
    (s.dropTrip key.id).restartRemaining =
      { s.dropTrip key.id with mOngoingTripDistance := 0, mOngoingTripTBFInterval := 0 } := by
  rw [restartRemaining, if_pos (size_dropTrip_last hnone)]

theorem eq_of_size_eq_one (hsize : s.mTripSessions.size = 1) (htrip : key.id ∈ s.mTripSessions) :
    ∀ id ∈ s.mTripSessions, id = key.id := by
  intro id hid
  by_contra hne
  have hless : (s.dropTrip key.id).mTripSessions.size = 0 := by
    rw [dropTrip, Std.TreeMap.size_erase, if_pos (Std.TreeMap.mem_iff_contains.mp htrip), hsize]
  obtain ⟨id, hleft⟩ := dropped_other ⟨id, hid, hne⟩
  exact (size_eq_zero_iff _).mp hless id hleft

theorem only_trip_of_count (hcount : s.autoReportBatchingSessionsCount = 1)
    (htrip : key.id ∈ s.mTripSessions) :
    (∀ (key : LocationSessionKey) options, s.mBatchingSessions[key]? = some options →
      options.batchingMode = .noAutoReport) ∧ ∀ id ∈ s.mTripSessions, id = key.id := by
  rw [autoReportBatchingSessionsCount] at hcount
  have hpos : s.mTripSessions.size ≠ 0 := fun hzero => (size_eq_zero_iff _).mp hzero _ htrip
  have hentries :
      s.mBatchingSessions.toList.countP (·.2.batchingMode ≠ .noAutoReport) = 0 := by omega
  refine ⟨?_, eq_of_size_eq_one (by omega) htrip⟩
  intro key' options hkey'
  have hmem := Std.TreeMap.mem_toList_iff_getElem?_eq_some.mpr hkey'
  simpa using countP_eq_zero.mp hentries (key', options) hmem

theorem kept_stopTrip_last (hnone : ∀ id ∈ s.mTripSessions, id = key.id)
    (hkept : restartNeeded = false → (s.dropTrip key.id).Kept)
    (horderly : restartNeeded = true → ((s.dropTrip key.id).eraseBatchingSession key).Orderly)
    (hneeded : restartNeeded = true → batchOptions.batchingMode = .routine ∨
      batchOptions.batchingMode = .trip ∨ ((s.dropTrip key.id).eraseBatchingSession key).Needed) :
    (s.stopTripBatchingMultiplexCommon err key restartNeeded batchOptions).1.Kept := by
  rw [stopTripBatchingMultiplexCommon, restartRemaining_last hnone]
  have hzero : ∀ t : BatchingAdapter,
      t.Alike { t with mOngoingTripDistance := 0, mOngoingTripTBFInterval := 0 } :=
    fun t => ⟨rfl, fun _ => Iff.rfl, rfl, fun _ h => h⟩
  cases restartNeeded with
  | false => exact (hzero _).kept (hkept rfl)
  | true =>
    have hzero' := hzero ((s.dropTrip key.id).eraseBatchingSession key)
    refine kept_restartAs (hzero'.orderly (horderly rfl)) ?_
      ((hneeded rfl).imp_right (Or.imp_right hzero'.needed))
    intro _ options hkey
    have hkey' := (getElem?_eraseBatchingSession (s.dropTrip key.id) key key).symm.trans hkey
    rw [if_pos rfl] at hkey'
    cases hkey'

theorem kept_stopTripResponse (h : s.Kept)
    (hkeeps : s.KeepsRegisteredStop key restartNeeded batchOptions) :
    (s.stopTripResponse key restartNeeded batchOptions .success).1.Kept := by
  rw [stopTripResponse]
  rw [KeepsRegisteredStop] at hkeeps
  have hgone : (∀ id ∈ s.mTripSessions, id = key.id) →
      ∀ id, id ∉ (s.dropTrip key.id).mTripSessions := by
    intro hnone id hid
    rw [dropTrip, Std.TreeMap.mem_erase, ne_eq, Std.compare_eq_iff_eq] at hid
    exact hid.1 (hnone id hid.2).symm
  by_cases hcount : s.autoReportBatchingSessionsCount = 1
  · rw [if_pos hcount] at hkeeps
    obtain ⟨hentries, hnone⟩ := only_trip_of_count hcount hkeeps
    rw [if_pos ⟨rfl, hcount⟩]
    have hnothing : ({ s with batchFull := false }.dropTrip key.id).Kept :=
      kept_of_nothing rfl (hgone hnone) hentries
    have herased :
        (({ s with batchFull := false }.dropTrip key.id).eraseBatchingSession key).Kept :=
      kept_of_nothing rfl (hgone hnone) fun key' options hkey' => by
        rw [getElem?_eraseBatchingSession] at hkey'
        split at hkey'
        · cases hkey'
        · exact hentries key' options hkey'
    exact kept_stopTrip_last hnone (fun _ => hnothing) (fun _ => herased.orderly)
      fun _ => .inr (.inr herased.needed)
  · rw [if_neg hcount] at hkeeps
    rw [if_neg fun hboth => hcount hboth.2]
    by_cases hother : ∃ id ∈ s.mTripSessions, id ≠ key.id
    · exact kept_stopTrip_other h.orderly hother
    · obtain ⟨honly, hreports⟩ := hkeeps.resolve_left hother
      have hnone : ∀ id ∈ s.mTripSessions, id = key.id := by simpa using hother
      have hreporting : (s.dropTrip key.id).Reporting → s.Reporting :=
        fun hleft => .inl (hleft.resolve_right (not_exists.mpr (hgone hnone)))
      have helse : ∀ {t : BatchingAdapter}, t.unanswered = s.unanswered →
          (∀ key' : LocationSessionKey, key' ≠ key →
            t.mBatchingSessions[key']? = s.mBatchingSessions[key']?) →
          (∃ (key' : LocationSessionKey) (options : BatchingOptions), key' ≠ key ∧
            s.mBatchingSessions[key']? = some options ∧ options.AutoReports) ∨
            s.StopsReporting → t.Needed := by
        rintro t hcalls hentries (⟨key', options, hne, hkey', hauto⟩ | hstops) _
        · exact .inl (.inl ⟨key', options, (hentries key' hne).trans hkey', hauto⟩)
        · rw [StopsReporting, hcalls]
          exact .inr hstops
      refine kept_stopTrip_last hnone ?_ ?_ ?_
      · rintro rfl
        refine ⟨⟨fun hleft => h.orderly.needed (hreporting hleft), ?_⟩, ?_⟩
        · intro key' options hkey' hmode
          exact absurd (honly key' options hkey' hmode).1 Bool.false_ne_true
        · exact helse rfl (fun _ _ => rfl) (hreports.resolve_left fun hno => Bool.noConfusion hno.1)
      · intro _
        refine ⟨fun hleft => h.orderly.needed (hreporting (reporting_of_erase hleft)), ?_⟩
        intro key' options hkey' hmode
        rw [getElem?_eraseBatchingSession] at hkey'
        split at hkey'
        · cases hkey'
        · rename_i hne
          exact absurd (honly key' options hkey' hmode).2.symm hne
      · intro _
        rcases hreports with ⟨-, hroutine | htrip⟩ | hreports
        · exact .inl hroutine
        · exact .inr (.inl htrip)
        · refine .inr (.inr (helse rfl (fun key' hne => ?_) hreports))
          exact (getElem?_eraseBatchingSession ..).trans (if_neg hne.symm)

/-! ## Clients -/

theorem kept_updateClientsEventMask (h : ∀ (key : LocationSessionKey) options,
    s.mBatchingSessions[key]? = some options → options.batchingMode = .trip →
      ∃ id : Nat, id ∈ s.mTripSessions) : s.updateClientsEventMask.Kept := by
  have horderly : { s with batchFull := true }.Orderly := ⟨fun _ => rfl, h⟩
  have hcount : 0 < s.autoReportBatchingSessionsCount ↔ s.Reporting := by
    rw [Nat.pos_iff_ne_zero]
    exact not_iff_comm.mp horderly.count_eq_zero_iff.symm
  refine ⟨⟨fun hreporting => ?_, h⟩, fun hfull => .inl ?_⟩
  · exact decide_eq_true (hcount.mpr hreporting)
  · exact hcount.mp (of_decide_eq_true hfull)

theorem trips_foldl (entries : List (LocationSessionKey × BatchingOptions))
    (u : BatchingAdapter × List Output)
    (h : ∀ (key : LocationSessionKey) options, u.1.mBatchingSessions[key]? = some options →
      options.batchingMode = .trip → ∃ id : Nat, id ∈ u.1.mTripSessions) :
    ∀ (key : LocationSessionKey) options,
      (entries.foldl (fun s entry => stopClientSession s entry.1 entry.2.batchingMode)
          u).1.mBatchingSessions[key]? = some options →
        options.batchingMode = .trip → ∃ id : Nat, id ∈ (entries.foldl
            (fun s entry => stopClientSession s entry.1 entry.2.batchingMode)
              u).1.mTripSessions := by
  induction entries generalizing u with
  | nil => exact h
  | cons entry entries ih =>
    refine ih (stopClientSession u entry.1 entry.2.batchingMode) ?_
    intro key options hkey hmode
    rw [stopClientSession] at hkey ⊢
    split at hkey
    · rename_i hne
      rw [if_pos hne]
      have horderly : { u.1 with batchFull := true }.Orderly := ⟨fun _ => rfl, h⟩
      rw [stopBatching] at hkey ⊢
      split at hkey
      · exact h key options hkey hmode
      · exact (orderly_erase horderly).trips key options hkey hmode
    · rename_i hne
      rw [if_neg hne]
      obtain ⟨hsessions, htrips⟩ := stopTripBatchingMultiplex_maps u.1 entry.1 .default
      have hsome := h key options (by rw [← hsessions]; exact hkey) hmode
      show ∃ id, id ∈ (u.1.stopTripBatchingMultiplex entry.1 false .default).1.mTripSessions
      rw [htrips]
      split
      · exact hsome
      · rename_i hsize
        exact dropped_other (exists_other hsome hsize entry.1.id)

theorem kept_removeClient (h : s.Orderly) (client : Nat) : (s.removeClient client).1.Kept := by
  have hkept := kept_updateClientsEventMask
    (s := { (s.stopClientSessions client).1 with
      mClientData := (s.stopClientSessions client).1.mClientData.erase client })
    (trips_foldl (s.clientSessions client) (s, []) h.trips)
  exact hkept

/-! ## Commands -/

theorem kept_stopTripBatchingMultiplex (h : s.Kept) (htrip : key.id ∈ s.mTripSessions) :
    (s.stopTripBatchingMultiplex key restartNeeded batchOptions).1.Kept := by
  rw [stopTripBatchingMultiplex]
  split
  · exact (alike_call ..).kept h
  · rename_i hsize
    exact kept_stopTrip_other h.orderly (exists_other ⟨_, htrip⟩ hsize key.id)

theorem mem_of_isTripSession {sessionId : Nat} (h : s.isTripSession sessionId = true) :
    sessionId ∈ s.mTripSessions :=
  Std.TreeMap.mem_iff_contains.mpr h

theorem kept_proc {msg : BatchingMsg} (h : s.Kept)
    (hnew : ∀ key options, msg = .startBatching key options →
      ∀ options, s.mBatchingSessions[key]? ≠ some options) : (s.proc msg).1.Kept := by
  have hparked : ∀ msgs, s.Alike { s with mPendingMsgs := msgs } :=
    fun _ => ⟨rfl, fun _ => Iff.rfl, rfl, fun _ h => h⟩
  cases msg with
  | startBatching key options =>
    have hkey := hnew key options rfl
    rw [proc, procStartBatching]
    split
    · exact (hparked _).kept h
    · split
      · cases hmode : options.batchingMode with
        | routine =>
          refine kept_startBatching h.orderly ⟨?_, ?_⟩ <;> simp [hmode]
        | noAutoReport =>
          exact kept_startBatching_noAutoReport h hmode
            fun options hfound => absurd hfound (hkey options)
        | trip => exact kept_startTripBatchingMultiplex h.orderly
        | other => exact h
      · exact h
  | updateBatching key options =>
    rw [proc, procUpdateBatching]
    split
    · exact (hparked _).kept h
    · split
      · split
        · rename_i htrip
          exact kept_stopTripBatchingMultiplex h (mem_of_isTripSession htrip)
        · exact kept_stopBatching h
      · exact h
  | stopBatching key =>
    rw [proc, procStopBatching]
    split
    · exact (hparked _).kept h
    · split
      · split
        · rename_i htrip
          exact kept_stopTripBatchingMultiplex h (mem_of_isTripSession htrip)
        · exact kept_stopBatching h
      · exact h

theorem kept_handleEngineUpEvent (h : s.Kept) : s.handleEngineUpEvent.1.Kept := by
  have hup : s.Alike { s with engine := s.engine.stop, engineCapabilitiesKnown := true } :=
    ⟨rfl, fun _ => Iff.rfl, rfl, fun _ h => h⟩
  rw [handleEngineUpEvent]
  split
  · have hrestarted : { s with
        engine := s.engine.stop, engineCapabilitiesKnown := true }.restartSessions.Kept := by
      refine (alike_restartTrips _).kept ((alike_restartRoutines _).kept ?_)
      have hkept := hup.kept h
      split
      · rename_i hcount
        have hreporting : s.Reporting := by
          by_contra hnot
          exact absurd (h.orderly.count_eq_zero_iff.mpr hnot) (Nat.pos_iff_ne_zero.mp hcount)
        exact ⟨⟨fun _ => rfl, h.orderly.trips⟩, fun _ => .inl hreporting⟩
      · exact hkept
    have hsent : ∀ t : BatchingAdapter, t.Alike { t with mPendingMsgs := [] } :=
      fun _ => ⟨rfl, fun _ => Iff.rfl, rfl, fun _ h => h⟩
    exact (hsent _).kept hrestarted
  · exact hup.kept h

/-! ## Answers -/

/-- An answer SUCCESS with which the event stays as it is to be.  A trip
joins while the event is registered, the stop of a trip is as above, and a
session that is restarted to report no more is not there already. -/
def KeepsRegisteredResponse (s : BatchingAdapter) : ResponseFn → Prop
  | .stopBatching key _ restartNeeded batchOptions =>
    restartNeeded = true → batchOptions.batchingMode = .noAutoReport →
      ∀ options, s.mBatchingSessions[key]? = some options → ¬ options.AutoReports
  | .joinTrip _ _ => s.batchFull = true
  | .stopTrip key restartNeeded batchOptions =>
    s.KeepsRegisteredStop key restartNeeded batchOptions
  | _ => True

theorem kept_joinTripResponse (hfull : s.batchFull = true) :
    (s.joinTripResponse key options .success data).1.Kept := by
  have hsaved : (s.saveTrip key.id options data).Kept :=
    kept_of_trip ⟨fun _ => hfull, fun _ _ _ _ => ⟨key.id, mem_saveTrip ..⟩⟩
      ⟨key.id, mem_saveTrip ..⟩
  rw [joinTripResponse, if_pos rfl]
  split
  · refine (alike_callTrip ..).kept (Alike.kept (s := s.saveTrip key.id options data)
      ⟨rfl, fun _ => ?_, rfl, fun _ h => h⟩ hsaved)
    exact Std.TreeMap.mem_map
  · exact hsaved

theorem kept_respond (h : s.Orderly)
    (hneeded : (∀ key flpOptions restartNeeded batchOptions,
      fn = .stopBatching key flpOptions restartNeeded batchOptions →
        flpOptions.batchingMode = .noAutoReport) → s.Needed)
    (hkeeps : s.KeepsRegisteredResponse fn) : (s.respond fn .success data).1.Kept := by
  have hkept : (∀ key flpOptions restartNeeded batchOptions,
      fn ≠ .stopBatching key flpOptions restartNeeded batchOptions) → s.Kept :=
    fun hne => ⟨h, hneeded fun _ _ _ _ heq => absurd heq (hne _ _ _ _)⟩
  cases fn with
  | ignore => exact hkept (by simp)
  | startBatching key options pendingMsg =>
    rw [respond, startBatchingResponse_success]
    exact hkept (by simp)
  | stopBatching key flpOptions restartNeeded batchOptions =>
    refine kept_stopBatchingResponse h (fun hmode => hneeded ?_) hkeeps
    rintro _ _ _ _ ⟨⟩
    exact hmode
  | startTrip key options =>
    rw [respond, startTripResponse, if_pos (.inr rfl)]
    exact Alike.kept (s := s) ⟨rfl, fun _ => Iff.rfl, rfl, fun _ h => h⟩ (hkept (by simp))
  | joinTrip key options => exact kept_joinTripResponse hkeeps
  | joinedTrip key => exact hkept (by simp)
  | stopTrip key restartNeeded batchOptions => exact kept_stopTripResponse (hkept (by simp)) hkeeps
  | stopLastTrip => exact hkept (by simp)
  | queryTrips queryAccumulatedDistance minRemainingDistance minTBFInterval accDist =>
    exact (alike_restartForTrips ..).kept (hkept (by simp))
  | restartTrips accumulatedDistance distance interval =>
    refine Alike.kept (s := s) ⟨rfl, fun _ => ?_, rfl, fun _ h => h⟩ (hkept (by simp))
    exact Std.TreeMap.mem_map
  | restartSessions => exact hkept (by simp)

end BatchingAdapter

open BatchingAdapter

/-! ## The runs that keep the event as it is to be -/

/-- Sessions are started, under new keys, updated and stopped, and clients
removed; calls succeed.  No trip completes. -/
def StartsAndStops (s : BatchingAdapter) : BatchingEvent → Prop
  | .response _ err _ => err = .success
  | .proc msg => ∀ key options, msg = .startBatching key options →
      ∀ options, s.mBatchingSessions[key]? ≠ some options
  | .reportCompletedTrips _ => False
  | _ => True

def KeepsRegistered (s : BatchingAdapter) : BatchingEvent → Prop
  | .response n _ _ => ∀ fn, s.unanswered[n]? = some fn → s.KeepsRegisteredResponse fn
  | _ => True

variable {s : BatchingAdapter} {e : BatchingEvent}

theorem stopsReporting_answered {n : Nat} {fn : ResponseFn} (hfn : s.unanswered[n]? = some fn)
    (hno : ∀ key flpOptions restartNeeded batchOptions,
      fn = .stopBatching key flpOptions restartNeeded batchOptions →
        flpOptions.batchingMode = .noAutoReport)
    (h : s.StopsReporting) (err : LocationError) : (s.answered n fn err).StopsReporting := by
  obtain ⟨key, flpOptions, restartNeeded, batchOptions, hmem, hmode⟩ := h
  refine ⟨key, flpOptions, restartNeeded, batchOptions, ?_, hmode⟩
  refine mem_eraseIdx_iff_getElem?.mpr ?_
  obtain ⟨i, hi⟩ := mem_iff_getElem?.mp hmem
  refine ⟨i, ?_, hi⟩
  rintro rfl
  rw [hfn] at hi
  exact hmode (hno _ _ _ _ (Option.some.inj hi))

theorem kept_step (h : s.Kept) (hpre : StartsAndStops s e) (hkeeps : KeepsRegistered s e) :
    (step s e).1.Kept := by
  cases e with
  | addClient client callbacks => exact kept_updateClientsEventMask h.orderly.trips
  | removeClient client => exact kept_removeClient h.orderly client
  | proc msg => exact kept_proc h hpre
  | reportCompletedTrips accumulatedDistance => exact hpre.elim
  | engineLockState state =>
    rw [step, handleEngineLockStatus]
    split <;> exact Alike.kept (s := s) ⟨rfl, fun _ => Iff.rfl, rfl, fun _ h => h⟩ h
  | handleEngineUpEvent => exact kept_handleEngineUpEvent h
  | response n err data =>
    cases hpre
    rw [step]
    split
    · exact h
    · rename_i fn hfn
      refine kept_respond ⟨h.orderly.needed, h.orderly.trips⟩ (fun hno hfull => ?_) ?_
      · exact (h.needed hfull).imp_right fun hstops => stopsReporting_answered hfn hno hstops _
      · have hfn' := hkeeps fn hfn
        cases fn with
        | stopTrip key restartNeeded batchOptions =>
          have hstops := fun hstops : s.StopsReporting =>
            stopsReporting_answered hfn (by rintro _ _ _ _ ⟨⟩) hstops .success
          rw [KeepsRegisteredResponse, KeepsRegisteredStop] at hfn' ⊢
          split at hfn'
          · rename_i hcount
            exact (if_pos hcount).mpr hfn'
          · rename_i hcount
            refine (if_neg hcount).mpr (hfn'.imp_right (And.imp_right ?_))
            exact Or.imp_right (Or.imp_right hstops)
        | _ => exact hfn'
  | moved distance => exact Alike.kept (s := s) ⟨rfl, fun _ => Iff.rfl, rfl, fun _ h => h⟩ h

/-- In a run in which calls succeed and every answer is one with which the
event stays as it is to be, it is registered in every state exactly for the
sessions that report. -/
theorem registered_of_stepsMeet (hs : s.Idle) (hoff : s.batchFull = false)
    (es : List BatchingEvent) (hpre : StepsMeet step StartsAndStops s es)
    (hkeeps : StepsMeet step KeepsRegistered s es) : StatesMeet step Registered s es := by
  have hkept : s.Kept :=
    ⟨hs.orderly, fun hfull => absurd (hoff.symm.trans hfull) Bool.false_ne_true⟩
  have hrun : StatesMeet step Kept s es :=
    statesMeet_of_stepsMeet (fun _ _ h hok => kept_step h hok.1 hok.2) hkept (hpre.and hkeeps)
  exact hrun.mono fun _ h => h.registered

theorem keepsRegisteredStop_updatedTrip :
    (after step .new (updatedTrip.take 4)).KeepsRegisteredStop ⟨7, 1⟩ true routineOptions := by
  rw [KeepsRegisteredStop, if_neg (by decide)]
  refine .inr ⟨?_, .inl ⟨rfl, .inl rfl⟩⟩
  intro key options hkey _
  have hsessions : (after step .new (updatedTrip.take 4)).mBatchingSessions =
      (∅ : BatchingSessionMap).insert ⟨7, 1⟩ tripOptions := rfl
  rw [hsessions, Std.TreeMap.getElem?_insert] at hkey
  split at hkey
  · rename_i heq
    exact ⟨rfl, (Std.compare_eq_iff_eq.mp heq).symm⟩
  · rw [Std.TreeMap.getElem?_emptyc] at hkey
    cases hkey

theorem registered_updatedTrip : StatesMeet step Registered .new updatedTrip := by
  refine registered_of_stepsMeet idle_new rfl updatedTrip ?_ ?_
  · refine ⟨trivial, ?_, rfl, ?_, rfl, rfl, trivial⟩
    · rintro key options ⟨⟩ options' hkey
      cases hkey
    · rintro key options ⟨⟩
  · refine ⟨trivial, trivial, ?_, trivial, ?_, ?_, trivial⟩
    · rintro fn ⟨⟩
      trivial
    · rintro fn ⟨⟩
      exact keepsRegisteredStop_updatedTrip
    · rintro fn ⟨⟩
      trivial

/-- A trip, which is stopped. -/
def stoppedTrip : List BatchingEvent :=
  [.addClient 7 ⟨true, true, true⟩, .proc (.startBatching ⟨7, 1⟩ tripOptions),
    .response 0 .success 0, .proc (.stopBatching ⟨7, 1⟩), .response 0 .success 0]

/-- The event stays registered, though nothing is there to report. -/
theorem registered_fails : ¬ StatesMeet step Registered .new stoppedTrip := by
  intro h
  have hlast : (after step .new stoppedTrip).Registered := h.last
  rcases hlast.only (by decide) with (⟨key, options, hkey, hreports⟩ | ⟨id, hid⟩) | hstops
  · have hsessions : (after step .new stoppedTrip).mBatchingSessions =
        (∅ : BatchingSessionMap).insert ⟨7, 1⟩ tripOptions := rfl
    rw [hsessions, Std.TreeMap.getElem?_insert] at hkey
    split at hkey
    · cases hkey
      exact hreports.2 rfl
    · rw [Std.TreeMap.getElem?_emptyc] at hkey
      cases hkey
  · have hnone : ∀ id, id ∉ (after step .new stoppedTrip).mTripSessions :=
      (size_eq_zero_iff _).mp (by decide)
    exact hnone id hid
  · obtain ⟨key, flpOptions, restartNeeded, batchOptions, hmem, -⟩ := hstops
    have hanswered : (after step .new stoppedTrip).unanswered = [] := rfl
    rw [hanswered] at hmem
    cases hmem

end LocStack.Batching
