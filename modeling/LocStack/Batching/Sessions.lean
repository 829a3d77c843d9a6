/-
# `LocStack.Batching.Sessions` — the two maps of the trip sessions

A trip session is in `mBatchingSessions`, as one of mode TRIP, and by its id
in `mTripSessions`.  `SameTrips` says that these are the same sessions.

The first trip is put into both maps, and a restart of a session takes it
out of both.  The other paths forget one: a trip that joins a running batch
is put into `mTripSessions` only, and one that is stopped or completed goes
from there only, unless it is to be restarted.  `KeepsTrips` has the steps
that do not take such a path; `sameTrips_iff` says that a run keeps the maps
in step exactly as long as all its steps are of these.

Session ids are generated, one for each session: `owner` has the client that
each is generated for.
-/
import LocStack.Base.TwoMaps
import LocStack.Batching.Model

namespace LocStack.Batching

open Base List
open Adapter (EngineLockState)
open Tracking (LocationError LocationSessionKey)

/-- The session that a call is about. -/
def ResponseFn.key : ResponseFn → Option LocationSessionKey
  | .startBatching key _ _ => some key
  | .stopBatching key _ _ _ => some key
  | .startTrip key _ => some key
  | .joinTrip key _ => some key
  | .joinedTrip key => some key
  | .stopTrip key _ _ => some key
  | _ => none

namespace BatchingAdapter

/-! ## The property -/

def SameTrips (s : BatchingAdapter) : Prop :=
  ∀ id : Nat, id ∈ s.mTripSessions ↔ ∃ (key : LocationSessionKey) (options : BatchingOptions),
      s.mBatchingSessions[key]? = some options ∧ options.batchingMode = .trip ∧ key.id = id

/-- No session is there yet, and no call is unanswered. -/
structure Idle (s : BatchingAdapter) : Prop where
  mBatchingSessions : s.mBatchingSessions = ∅
  mTripSessions : s.mTripSessions = ∅
  unanswered : s.unanswered = []

theorem idle_new : new.Idle := ⟨rfl, rfl, rfl⟩

/-- The sessions, and those that calls are about, are of the clients that
their ids were generated for. -/
structure Owned (owner : Nat → Nat) (s : BatchingAdapter) : Prop where
  sessions : ∀ (key : LocationSessionKey) options,
    s.mBatchingSessions[key]? = some options → key.client = owner key.id
  calls : ∀ fn ∈ s.unanswered, ∀ key ∈ fn.key, key.client = owner key.id

/-- The ids of the entries of mode TRIP. -/
def tripIds (s : BatchingAdapter) : Set Nat :=
  markedNames LocationSessionKey.id (·.batchingMode = .trip) fun key => s.mBatchingSessions[key]?

def tripSessionIds (s : BatchingAdapter) : Set Nat := {id | id ∈ s.mTripSessions}

variable {owner : Nat → Nat} {s t : BatchingAdapter} {key : LocationSessionKey}
  {options batchOptions flpOptions : BatchingOptions} {fn : ResponseFn} {err : LocationError}
  {restartNeeded : Bool} {pendingMsg : Option BatchingMsg} {distance interval data : UInt32}

theorem sameTrips_iff_eq : s.SameTrips ↔ s.tripSessionIds = s.tripIds :=
  Set.ext_iff.symm

theorem SameTrips.congr (h : s.SameTrips) (hsessions : t.mBatchingSessions = s.mBatchingSessions)
    (htrips : t.tripSessionIds = s.tripSessionIds) : t.SameTrips := by
  rw [sameTrips_iff_eq] at h ⊢
  rw [htrips, h, tripIds, tripIds, hsessions]

theorem Idle.sameTrips (h : s.Idle) : s.SameTrips := by
  intro id
  rw [h.mTripSessions, h.mBatchingSessions]
  constructor
  · intro hid
    exact absurd hid Std.TreeMap.not_mem_emptyc
  · rintro ⟨key, options, hkey, -⟩
    rw [Std.TreeMap.getElem?_emptyc] at hkey
    cases hkey

theorem Idle.owned (h : s.Idle) : s.Owned owner where
  sessions key options hkey := by
    rw [h.mBatchingSessions, Std.TreeMap.getElem?_emptyc] at hkey
    cases hkey
  calls fn hfn := by
    rw [h.unanswered] at hfn
    cases hfn

/-! ## Updates of one map -/

theorem tripSessionIds_insert (status : TripSessionStatus) (id : Nat) :
    { s with mTripSessions := s.mTripSessions.insert id status }.tripSessionIds =
      insert id s.tripSessionIds := by
  ext j
  show j ∈ s.mTripSessions.insert id status ↔ _
  rw [Std.TreeMap.mem_insert, Std.compare_eq_iff_eq, eq_comm]
  rfl

theorem tripSessionIds_erase (id : Nat) :
    { s with mTripSessions := s.mTripSessions.erase id }.tripSessionIds =
      s.tripSessionIds \ {id} := by
  ext j
  show j ∈ s.mTripSessions.erase id ↔ _
  rw [Std.TreeMap.mem_erase, ne_eq, Std.compare_eq_iff_eq, eq_comm, and_comm]
  rfl

theorem tripSessionIds_map (f : Nat → TripSessionStatus → TripSessionStatus) :
    { s with mTripSessions := s.mTripSessions.map f }.tripSessionIds = s.tripSessionIds := by
  ext j
  exact Std.TreeMap.mem_map

theorem tripIds_save_trip (hmode : options.batchingMode = .trip) :
    (s.saveBatchingSession key options).tripIds = insert key.id s.tripIds := by
  rw [tripIds, saveBatchingSession, getElem?_insert_eq,
    markedNames_mark (p := fun o : BatchingOptions => o.batchingMode = .trip) hmode]
  rfl

section

variable (h : s.Owned owner) (hkey : key.client = owner key.id)
include h hkey

theorem Owned.eq_of_id : ∀ (key' : LocationSessionKey) options,
      s.mBatchingSessions[key']? = some options → key'.id = key.id → key' = key := by
  intro key' options hkey' hid
  have hclient := h.sessions key' options hkey'
  rw [hid, ← hkey] at hclient
  cases key
  cases key'
  cases hid
  cases hclient
  rfl

theorem tripIds_save (hmode : options.batchingMode ≠ .trip) :
    (s.saveBatchingSession key options).tripIds = s.tripIds \ {key.id} := by
  rw [tripIds, saveBatchingSession, getElem?_insert_eq, markedNames_unmark _ (h.eq_of_id hkey)]
  · rfl
  · rintro o ⟨⟩
    exact hmode

theorem tripIds_erase : (s.eraseBatchingSession key).tripIds = s.tripIds \ {key.id} := by
  rw [tripIds, eraseBatchingSession, getElem?_erase_eq, markedNames_unmark _ (h.eq_of_id hkey)]
  · rfl
  · rintro o ⟨⟩

omit h hkey in
theorem Owned.call (h : s.Owned owner) (hkey : ∀ key ∈ fn.key, key.client = owner key.id) :
    (s.call fn).Owned owner where
  sessions := h.sessions
  calls fn' hfn' := by
    rcases mem_append.mp hfn' with hfn' | hfn'
    · exact h.calls fn' hfn'
    · cases mem_singleton.mp hfn'
      exact hkey

omit h hkey in
theorem Owned.callTrip (h : s.Owned owner) (hkey : ∀ key ∈ fn.key, key.client = owner key.id) :
    (s.callTrip distance interval fn).Owned owner :=
  ⟨h.sessions, (h.call hkey).calls⟩

theorem Owned.save : (s.saveBatchingSession key options).Owned owner where
  sessions key' options' hkey' := by
    rw [getElem?_saveBatchingSession] at hkey'
    split at hkey'
    · rename_i heq
      rw [← heq]
      exact hkey
    · exact h.sessions key' options' hkey'
  calls := h.calls

end

theorem Owned.erase (h : s.Owned owner) : (s.eraseBatchingSession key).Owned owner where
  sessions key' options' hkey' := by
    rw [getElem?_eraseBatchingSession] at hkey'
    split at hkey'
    · cases hkey'
    · exact h.sessions key' options' hkey'
  calls := h.calls

/-! ## Starting -/

theorem owned_startBatching (h : s.Owned owner) (hkey : key.client = owner key.id) :
    (s.startBatching key options pendingMsg).Owned owner := by
  have howned : (if options.batchingMode ≠ .noAutoReport then s.registerIfNone else s).Owned
      owner := by
    split
    · rw [registerIfNone_eq]
      exact ⟨h.sessions, h.calls⟩
    · exact h
  refine Owned.call (howned.save hkey) ?_
  rintro key' ⟨⟩
  exact hkey

theorem sameTrips_startBatching (h : s.SameTrips) (howned : s.Owned owner)
    (hkey : key.client = owner key.id) (hmode : options.batchingMode ≠ .trip) :
    (s.startBatching key options pendingMsg).SameTrips ↔ key.id ∉ s.mTripSessions := by
  have htrips : (s.startBatching key options pendingMsg).tripSessionIds = s.tripSessionIds := by
    rw [startBatching, registerIfNone_eq]
    split <;> rfl
  have hsessions : (s.startBatching key options pendingMsg).tripIds = s.tripIds \ {key.id} := by
    rw [← tripIds_save howned hkey hmode, startBatching, registerIfNone_eq]
    split <;> rfl
  rw [sameTrips_iff_eq] at h
  rw [sameTrips_iff_eq, htrips, hsessions, ← h, eq_comm, sdiff_eq_left,
    Set.disjoint_singleton_right]
  rfl

theorem owned_startTripBatchingMultiplex (h : s.Owned owner) (hkey : key.client = owner key.id) :
    (s.startTripBatchingMultiplex key options).Owned owner := by
  rw [startTripBatchingMultiplex]
  split
  · refine Owned.callTrip ?_ ?_
    · rw [registerIfNone_eq]
      have hsaved : (s.saveBatchingSession key options).Owned owner := h.save hkey
      exact ⟨hsaved.sessions, hsaved.calls⟩
    · rintro key' ⟨⟩
      exact hkey
  · refine h.call ?_
    rintro key' ⟨⟩
    exact hkey

theorem SameTrips.startTripBatchingMultiplex (h : s.SameTrips)
    (hmode : options.batchingMode = .trip) :
    (s.startTripBatchingMultiplex key options).SameTrips := by
  rw [sameTrips_iff_eq] at h
  rw [BatchingAdapter.startTripBatchingMultiplex]
  split
  · rw [registerIfNone_eq, sameTrips_iff_eq]
    refine (tripSessionIds_insert (s := s) _ _).trans ?_
    rw [h, ← tripIds_save_trip hmode]
    rfl
  · exact sameTrips_iff_eq.mpr h

theorem owned_restartAs (h : s.Owned owner) (hkey : key.client = owner key.id) :
    (s.restartAs key options).Owned owner := by
  rw [restartAs]
  cases options.batchingMode with
  | routine => exact owned_startBatching h hkey
  | noAutoReport => exact owned_startBatching h hkey
  | trip => exact owned_startTripBatchingMultiplex h hkey
  | other => exact h

theorem sameTrips_restartAs (h : s.SameTrips) (howned : s.Owned owner)
    (hkey : key.client = owner key.id) :
    (s.restartAs key options).SameTrips ↔
      (options.batchingMode = .routine ∨ options.batchingMode = .noAutoReport →
        key.id ∉ s.mTripSessions) := by
  rw [restartAs]
  cases hmode : options.batchingMode with
  | routine =>
    simp only [sameTrips_startBatching h howned hkey (hmode.trans_ne (by decide)), true_or,
      true_imp_iff]
  | noAutoReport =>
    simp only [sameTrips_startBatching h howned hkey (hmode.trans_ne (by decide)), or_true,
      true_imp_iff]
  | trip => simp only [h.startTripBatchingMultiplex hmode, reduceCtorEq, or_self, false_imp_iff]
  | other => simp only [h, reduceCtorEq, or_self, false_imp_iff]

/-! ## Joining and restarting the batch -/

theorem owned_joinTripResponse (h : s.Owned owner) (hkey : key.client = owner key.id) :
    (s.joinTripResponse key options err data).1.Owned owner := by
  rw [joinTripResponse]
  split
  · refine Owned.callTrip ?_ ?_
    · split <;> exact ⟨h.sessions, h.calls⟩
    · rintro key' ⟨⟩
      exact hkey
  · split <;> exact ⟨h.sessions, h.calls⟩

theorem sameTrips_joinTripResponse (h : s.SameTrips) :
    (s.joinTripResponse key options .success data).1.SameTrips ↔ key.id ∈ s.mTripSessions := by
  have htrips : (s.joinTripResponse key options .success data).1.tripSessionIds =
      insert key.id s.tripSessionIds := by
    rw [joinTripResponse, ← tripSessionIds_insert]
    split
    · exact tripSessionIds_map _
    · rfl
  have hsessions : (s.joinTripResponse key options .success data).1.tripIds = s.tripIds := by
    rw [joinTripResponse]
    split <;> rfl
  rw [sameTrips_iff_eq] at h
  rw [sameTrips_iff_eq, htrips, hsessions, ← h, Set.insert_eq_self]
  rfl

theorem owned_restartTripBatching (h : s.Owned owner) (queryAccumulatedDistance : Bool)
    (accDist : UInt32) : (s.restartTripBatching queryAccumulatedDistance accDist).Owned owner := by
  rw [restartTripBatching]
  split
  · rw [unregisterIfNone_eq]
    have hcalled : (s.call .stopLastTrip).Owned owner := h.call (by rintro _ ⟨⟩)
    exact ⟨hcalled.sessions, hcalled.calls⟩
  · exact h.call (by rintro _ ⟨⟩)

theorem restartTripBatching_maps (queryAccumulatedDistance : Bool) (accDist : UInt32) :
    (s.restartTripBatching queryAccumulatedDistance accDist).mBatchingSessions =
        s.mBatchingSessions ∧
      (s.restartTripBatching queryAccumulatedDistance accDist).mTripSessions =
        s.mTripSessions := by
  rw [restartTripBatching, unregisterIfNone_eq]
  split <;> exact ⟨rfl, rfl⟩

theorem owned_restartForTrips (h : s.Owned owner)
    (minRemainingDistance minTBFInterval accumulatedDistance : UInt32) :
    (s.restartForTrips minRemainingDistance minTBFInterval accumulatedDistance).Owned owner := by
  rw [restartForTrips]
  split
  · exact h.callTrip (by rintro _ ⟨⟩)
  · exact h

theorem restartForTrips_maps (minRemainingDistance minTBFInterval accumulatedDistance : UInt32) :
    (s.restartForTrips minRemainingDistance minTBFInterval
        accumulatedDistance).mBatchingSessions = s.mBatchingSessions ∧
      (s.restartForTrips minRemainingDistance minTBFInterval
        accumulatedDistance).mTripSessions = s.mTripSessions := by
  rw [restartForTrips]
  split <;> exact ⟨rfl, rfl⟩

/-! ## Stopping -/

theorem owned_stopBatching (h : s.Owned owner) (hkey : key.client = owner key.id) :
    (s.stopBatching key restartNeeded batchOptions).Owned owner := by
  rw [stopBatching]
  split
  · exact h
  · refine h.erase.call ?_
    rintro key' ⟨⟩
    exact hkey

theorem sameTrips_stopBatching (h : s.SameTrips) (howned : s.Owned owner)
    (hkey : key.client = owner key.id) (hid : key.id ∉ s.mTripSessions) :
    (s.stopBatching key restartNeeded batchOptions).SameTrips := by
  rw [stopBatching]
  split
  · exact h
  · rw [sameTrips_iff_eq] at h ⊢
    have hid' : key.id ∉ s.tripSessionIds := hid
    refine Eq.trans ?_ (tripIds_erase howned hkey).symm
    rw [← h, Set.sdiff_singleton_eq_self hid']
    rfl

theorem restartRemaining_maps : s.restartRemaining.mBatchingSessions = s.mBatchingSessions ∧
      s.restartRemaining.mTripSessions = s.mTripSessions := by
  rw [restartRemaining]
  split
  · exact ⟨rfl, rfl⟩
  · exact restartTripBatching_maps ..

theorem dropped_maps (sessionId : Nat) :
    (s.dropTrip sessionId).restartRemaining.mBatchingSessions = s.mBatchingSessions ∧
      (s.dropTrip sessionId).restartRemaining.mTripSessions = s.mTripSessions.erase sessionId :=
  restartRemaining_maps

theorem owned_dropped (h : s.Owned owner) (sessionId : Nat) :
    (s.dropTrip sessionId).restartRemaining.Owned owner := by
  have hdropped : (s.dropTrip sessionId).Owned owner := ⟨h.sessions, h.calls⟩
  rw [restartRemaining]
  split
  · exact ⟨hdropped.sessions, hdropped.calls⟩
  · exact owned_restartTripBatching hdropped ..

theorem owned_stopTripBatchingMultiplexCommon (h : s.Owned owner)
    (hkey : key.client = owner key.id) :
    (s.stopTripBatchingMultiplexCommon err key restartNeeded batchOptions).1.Owned owner := by
  rw [stopTripBatchingMultiplexCommon]
  cases restartNeeded with
  | false => exact owned_dropped h _
  | true => exact owned_restartAs (owned_dropped h _).erase hkey

section

variable (h : s.SameTrips) (howned : s.Owned owner) (hkey : key.client = owner key.id)
include h howned hkey

theorem sameTrips_stopTripBatchingMultiplexCommon :
    (s.stopTripBatchingMultiplexCommon err key restartNeeded batchOptions).1.SameTrips ↔
      (restartNeeded = false → key.id ∉ s.mTripSessions) := by
  rw [stopTripBatchingMultiplexCommon]
  obtain ⟨hsessions, htrips⟩ := s.dropped_maps key.id
  have howned' := owned_dropped howned key.id
  generalize (s.dropTrip key.id).restartRemaining = t at hsessions htrips howned' ⊢
  have htripIds : t.tripIds = s.tripIds := by rw [tripIds, tripIds, hsessions]
  have htripSessionIds : t.tripSessionIds = s.tripSessionIds \ {key.id} := by
    rw [← tripSessionIds_erase, tripSessionIds, htrips]
    rfl
  rw [sameTrips_iff_eq] at h
  cases restartNeeded with
  | false =>
    have hiff : t.SameTrips ↔ key.id ∉ s.mTripSessions := by
      rw [sameTrips_iff_eq, htripIds, htripSessionIds, ← h, sdiff_eq_left,
        Set.disjoint_singleton_right]
      rfl
    exact hiff.trans ⟨fun hid _ => hid, fun hid => hid rfl⟩
  | true =>
    have herased : (t.eraseBatchingSession key).SameTrips := by
      rw [sameTrips_iff_eq, tripIds_erase howned' hkey, htripIds, ← h]
      exact htripSessionIds
    have hid : key.id ∉ (t.eraseBatchingSession key).mTripSessions := by
      intro hid
      have hmem : key.id ∈ t.tripSessionIds := hid
      rw [htripSessionIds] at hmem
      exact hmem.2 rfl
    have hrestarted : ((t.eraseBatchingSession key).restartAs key batchOptions).SameTrips :=
      (sameTrips_restartAs herased howned'.erase hkey).mpr fun _ => hid
    exact ⟨fun _ hfalse => Bool.noConfusion hfalse, fun _ => hrestarted⟩

omit h howned hkey in
theorem owned_stopTripBatchingMultiplex (h : s.Owned owner) (hkey : key.client = owner key.id) :
    (s.stopTripBatchingMultiplex key restartNeeded batchOptions).1.Owned owner := by
  rw [stopTripBatchingMultiplex]
  split
  · refine h.call ?_
    rintro key' ⟨⟩
    exact hkey
  · exact owned_stopTripBatchingMultiplexCommon h hkey

theorem sameTrips_stopTripBatchingMultiplex :
    (s.stopTripBatchingMultiplex key restartNeeded batchOptions).1.SameTrips ↔
      (restartNeeded = false → key.id ∈ s.mTripSessions → s.mTripSessions.size = 1) := by
  rw [stopTripBatchingMultiplex]
  split
  · rename_i hone
    exact ⟨fun _ _ _ => hone, fun _ => h.congr rfl rfl⟩
  · rename_i hone
    rw [sameTrips_stopTripBatchingMultiplexCommon h howned hkey]
    exact ⟨fun hid hfalse hmem => absurd hmem (hid hfalse),
      fun hid hfalse hmem => hone (hid hfalse hmem)⟩

omit h howned hkey in
theorem owned_stopTripResponse (h : s.Owned owner) (hkey : key.client = owner key.id) :
    (s.stopTripResponse key restartNeeded batchOptions err).1.Owned owner := by
  refine owned_stopTripBatchingMultiplexCommon ?_ hkey
  split
  · exact ⟨h.sessions, h.calls⟩
  · exact h

theorem sameTrips_stopTripResponse :
    (s.stopTripResponse key restartNeeded batchOptions err).1.SameTrips ↔
      (restartNeeded = false → key.id ∉ s.mTripSessions) := by
  rw [stopTripResponse]
  split
  · exact sameTrips_stopTripBatchingMultiplexCommon (h.congr rfl rfl)
      ⟨howned.sessions, howned.calls⟩ hkey
  · exact sameTrips_stopTripBatchingMultiplexCommon h howned hkey

omit h howned hkey in
theorem owned_stopBatchingResponse (h : s.Owned owner) (hkey : key.client = owner key.id) :
    (s.stopBatchingResponse key flpOptions restartNeeded batchOptions .success).1.Owned
      owner := by
  have hunregistered :
      (if flpOptions.batchingMode ≠ .noAutoReport then s.unregisterIfNone else s).Owned owner := by
    rw [unregisterIfNone_eq]
    split
    · exact ⟨h.sessions, h.calls⟩
    · exact h
  rw [stopBatchingResponse, if_neg (by simp)]
  cases restartNeeded with
  | false => exact hunregistered
  | true => exact owned_restartAs hunregistered hkey

theorem sameTrips_stopBatchingResponse :
    (s.stopBatchingResponse key flpOptions restartNeeded batchOptions .success).1.SameTrips ↔
      (restartNeeded = true →
        batchOptions.batchingMode = .routine ∨ batchOptions.batchingMode = .noAutoReport →
          key.id ∉ s.mTripSessions) := by
  rw [stopBatchingResponse, if_neg (by simp)]
  have hunregistered : ∃ t : BatchingAdapter,
        (if flpOptions.batchingMode ≠ .noAutoReport then s.unregisterIfNone else s) = t ∧
          t.SameTrips ∧ t.Owned owner ∧ t.mTripSessions = s.mTripSessions := by
    refine ⟨_, rfl, ?_⟩
    rw [unregisterIfNone_eq]
    split
    · exact ⟨h.congr rfl rfl, ⟨howned.sessions, howned.calls⟩, rfl⟩
    · exact ⟨h, howned, rfl⟩
  obtain ⟨t, ht, hsame, howned', htrips⟩ := hunregistered
  rw [ht, ← htrips]
  cases restartNeeded with
  | false => exact ⟨fun _ hfalse => Bool.noConfusion hfalse, fun _ => hsame⟩
  | true =>
    exact (sameTrips_restartAs hsame howned' hkey).trans ⟨fun hid _ => hid, fun hid => hid rfl⟩

end

/-! ## Commands -/

theorem getElem?_of_isBatchingSession (h : s.isBatchingSession key = true) :
    ∃ options, s.mBatchingSessions[key]? = some options :=
  Option.isSome_iff_exists.mp (Std.TreeMap.mem_iff_isSome_getElem?.mp
    (Std.TreeMap.mem_iff_contains.mpr h))

/-- A start is of a new session, of the client it was generated for. -/
def NewSession (owner : Nat → Nat) (s : BatchingAdapter) : BatchingMsg → Prop
  | .startBatching key _ => key.client = owner key.id ∧ key.id ∉ s.mTripSessions
  | _ => True

variable {msg : BatchingMsg} {id : Nat}

theorem owned_proc (h : s.Owned owner) (hnew : NewSession owner s msg) :
    (s.proc msg).1.Owned owner := by
  cases msg with
  | startBatching key options =>
    rw [proc, procStartBatching]
    split
    · exact ⟨h.sessions, h.calls⟩
    · split
      · cases options.batchingMode with
        | routine => exact owned_startBatching h hnew.1
        | noAutoReport => exact owned_startBatching h hnew.1
        | trip => exact owned_startTripBatchingMultiplex h hnew.1
        | other => exact h
      · exact h
  | updateBatching key options =>
    rw [proc, procUpdateBatching]
    split
    · exact ⟨h.sessions, h.calls⟩
    · split
      · rename_i hmsg
        obtain ⟨_, hfound⟩ := getElem?_of_isBatchingSession hmsg.1
        split
        · exact owned_stopTripBatchingMultiplex h (h.sessions _ _ hfound)
        · exact owned_stopBatching h (h.sessions _ _ hfound)
      · exact h
  | stopBatching key =>
    rw [proc, procStopBatching]
    split
    · exact ⟨h.sessions, h.calls⟩
    · split
      · rename_i hmsg
        obtain ⟨_, hfound⟩ := getElem?_of_isBatchingSession hmsg
        split
        · exact owned_stopTripBatchingMultiplex h (h.sessions _ _ hfound)
        · exact owned_stopBatching h (h.sessions _ _ hfound)
      · exact h

/-- A command that keeps the maps in step: it does not stop one trip of
several. -/
def KeepsTripsMsg (s : BatchingAdapter) : BatchingMsg → Prop
  | .stopBatching key =>
    s.engineCapabilitiesKnown = true → s.isBatchingSession key = true →
      key.id ∈ s.mTripSessions → s.mTripSessions.size = 1
  | _ => True

theorem sameTrips_proc (h : s.SameTrips) (howned : s.Owned owner) (hnew : NewSession owner s msg) :
    (s.proc msg).1.SameTrips ↔ s.KeepsTripsMsg msg := by
  cases msg with
  | startBatching key options =>
    refine ⟨fun _ => trivial, fun _ => ?_⟩
    rw [proc, procStartBatching]
    split
    · exact h.congr rfl rfl
    · split
      · cases hmode : options.batchingMode with
        | routine =>
          have hnot : options.batchingMode ≠ .trip := hmode.trans_ne (by decide)
          exact (sameTrips_startBatching h howned hnew.1 hnot).mpr hnew.2
        | noAutoReport =>
          have hnot : options.batchingMode ≠ .trip := hmode.trans_ne (by decide)
          exact (sameTrips_startBatching h howned hnew.1 hnot).mpr hnew.2
        | trip => exact h.startTripBatchingMultiplex hmode
        | other => exact h
      · exact h
  | updateBatching key options =>
    refine ⟨fun _ => trivial, fun _ => ?_⟩
    rw [proc, procUpdateBatching]
    split
    · exact h.congr rfl rfl
    · split
      · rename_i hmsg
        obtain ⟨_, hfound⟩ := getElem?_of_isBatchingSession hmsg.1
        have hkey := howned.sessions _ _ hfound
        split
        · exact (sameTrips_stopTripBatchingMultiplex h howned hkey).mpr
            fun hfalse => Bool.noConfusion hfalse
        · rename_i hid
          exact sameTrips_stopBatching h howned hkey fun hmem =>
            hid (Std.TreeMap.mem_iff_contains.mp hmem)
      · exact h
  | stopBatching key =>
    rw [proc, procStopBatching]
    split
    · rename_i hunknown
      exact ⟨fun _ hknown => absurd (hunknown.symm.trans hknown) Bool.false_ne_true,
        fun _ => h.congr rfl rfl⟩
    · rename_i hknown
      rw [Bool.not_eq_false] at hknown
      split
      · rename_i hmsg
        obtain ⟨_, hfound⟩ := getElem?_of_isBatchingSession hmsg
        have hkey := howned.sessions _ _ hfound
        split
        · rw [sameTrips_stopTripBatchingMultiplex h howned hkey]
          exact ⟨fun hone _ _ => hone rfl, fun hone _ => hone hknown hmsg⟩
        · rename_i hid
          rw [isTripSession, ← Std.TreeMap.mem_iff_contains] at hid
          exact ⟨fun _ _ _ hmem => absurd hmem hid,
            fun _ => sameTrips_stopBatching h howned hkey hid⟩
      · rename_i hmsg
        exact ⟨fun _ _ hfound => absurd hfound hmsg, fun _ => h⟩

/-! ## Completed trips -/

theorem owned_reportCompletedTrips (h : s.Owned owner) (accumulatedDistance : UInt32) :
    (s.reportCompletedTrips accumulatedDistance).1.Owned owner := by
  have hcounted : (s.countTrips accumulatedDistance).Owned owner := ⟨h.sessions, h.calls⟩
  rw [reportCompletedTrips]
  split
  · exact hcounted
  · exact owned_restartTripBatching hcounted ..

/-- No trip is completed at this distance. -/
def NoneCompletes (s : BatchingAdapter) (accumulatedDistance : UInt32) : Prop :=
  ∀ (id : Nat) status, s.mTripSessions[id]? = some status →
    (status.count accumulatedDistance).completed = false

theorem reportCompletedTrips_maps (accumulatedDistance : UInt32) :
    (s.reportCompletedTrips accumulatedDistance).1.mBatchingSessions = s.mBatchingSessions ∧
      (s.reportCompletedTrips accumulatedDistance).1.mTripSessions =
        (s.countTrips accumulatedDistance).mTripSessions := by
  rw [reportCompletedTrips]
  split
  · exact ⟨rfl, rfl⟩
  · exact restartTripBatching_maps ..

theorem mem_countTrips {accumulatedDistance : UInt32} :
    id ∈ (s.countTrips accumulatedDistance).mTripSessions ↔
      ∃ status, s.mTripSessions[id]? = some status ∧
        (status.count accumulatedDistance).completed = false := by
  rw [countTrips, Std.TreeMap.mem_iff_isSome_getElem?, Std.TreeMap.getElem?_filter',
    Std.TreeMap.getElem?_map]
  cases s.mTripSessions[id]? with
  | none => simp
  | some status => simp

theorem sameTrips_reportCompletedTrips (h : s.SameTrips) (accumulatedDistance : UInt32) :
    (s.reportCompletedTrips accumulatedDistance).1.SameTrips ↔
      s.NoneCompletes accumulatedDistance := by
  obtain ⟨hsessions, htrips⟩ := s.reportCompletedTrips_maps accumulatedDistance
  constructor
  · intro hafter id status hstatus
    have hmem : id ∈ s.mTripSessions :=
      Std.TreeMap.mem_iff_isSome_getElem?.mpr (Option.isSome_of_eq_some hstatus)
    have hentry := (h id).mp hmem
    rw [← hsessions] at hentry
    have hstays := (hafter id).mpr hentry
    rw [htrips] at hstays
    obtain ⟨status', hstatus', hnot⟩ := mem_countTrips.mp hstays
    rw [hstatus] at hstatus'
    cases hstatus'
    exact hnot
  · intro hnone
    refine h.congr hsessions ?_
    ext id
    show id ∈ (s.reportCompletedTrips accumulatedDistance).1.mTripSessions ↔ id ∈ s.mTripSessions
    rw [htrips, mem_countTrips]
    constructor
    · rintro ⟨status, hstatus, -⟩
      exact Std.TreeMap.mem_iff_isSome_getElem?.mpr (Option.isSome_of_eq_some hstatus)
    · intro hmem
      obtain ⟨status, hstatus⟩ :=
        Option.isSome_iff_exists.mp (Std.TreeMap.mem_iff_isSome_getElem?.mp hmem)
      exact ⟨status, hstatus, hnone id status hstatus⟩

/-! ## Removing a client -/

/-- The entries of a client, in the order in which its sessions stop. -/
def clientSessions (s : BatchingAdapter) (client : Nat) :
    List (LocationSessionKey × BatchingOptions) :=
  s.mBatchingSessions.toList.filter (·.1.client = client)

/-- What `t` has left of the sessions of `s` when it has stopped some
entries of `s`: all trip entries, and no trip that was not there. -/
structure Stopping (s t : BatchingAdapter) : Prop where
  sessions : ∀ (key : LocationSessionKey) options,
    t.mBatchingSessions[key]? = some options → s.mBatchingSessions[key]? = some options
  entries : ∀ (key : LocationSessionKey) options, options.batchingMode = .trip →
    s.mBatchingSessions[key]? = some options → t.mBatchingSessions[key]? = some options
  trips : t.mTripSessions = s.mTripSessions ∨ ∃ id ∈ s.mTripSessions, id ∉ t.mTripSessions

theorem Stopping.refl : s.Stopping s := ⟨fun _ _ h => h, fun _ _ _ h => h, .inl rfl⟩

theorem stopTripBatchingMultiplex_maps (s : BatchingAdapter) (key : LocationSessionKey)
    (batchOptions : BatchingOptions) :
    (s.stopTripBatchingMultiplex key false batchOptions).1.mBatchingSessions = s.mBatchingSessions ∧
      (s.stopTripBatchingMultiplex key false batchOptions).1.mTripSessions =
        if s.mTripSessions.size = 1 then s.mTripSessions else s.mTripSessions.erase key.id := by
  rw [stopTripBatchingMultiplex]
  split
  · exact ⟨rfl, rfl⟩
  · exact dropped_maps key.id

theorem Stopping.stopTrip (h : s.Stopping t) (hkey : key.id ∈ s.mTripSessions) :
    s.Stopping (t.stopTripBatchingMultiplex key false batchOptions).1 := by
  obtain ⟨hsessions, htrips⟩ := t.stopTripBatchingMultiplex_maps key batchOptions
  constructor
  · rw [hsessions]
    exact h.sessions
  · rw [hsessions]
    exact h.entries
  · rw [htrips]
    split
    · exact h.trips
    · rcases h.trips with _ | ⟨id, hid, hnot⟩
      · exact .inr ⟨key.id, hkey, by simp⟩
      · refine .inr ⟨id, hid, ?_⟩
        simp only [Std.TreeMap.mem_erase, not_and]
        exact fun _ => hnot

theorem Stopping.stop (h : s.Stopping t) (hkey : s.mBatchingSessions[key]? = some options)
    (hmode : options.batchingMode ≠ .trip) :
    s.Stopping (t.stopBatching key false batchOptions) := by
  rw [BatchingAdapter.stopBatching]
  split
  · exact h
  · constructor
    · intro key' options' hkey'
      have hleft := (t.getElem?_eraseBatchingSession key key').symm.trans hkey'
      split at hleft
      · cases hleft
      · exact h.sessions key' options' hleft
    · intro key' options' hmode' hkey'
      refine (t.getElem?_eraseBatchingSession key key').trans ?_
      rw [if_neg ?_]
      · exact h.entries key' options' hmode' hkey'
      · rintro rfl
        rw [hkey] at hkey'
        cases hkey'
        exact hmode hmode'
    · exact h.trips

theorem Stopping.foldl (hsame : s.SameTrips) (entries : List (LocationSessionKey × BatchingOptions))
    (hentries : ∀ entry ∈ entries, s.mBatchingSessions[entry.1]? = some entry.2)
    (u : BatchingAdapter × List Output) (h : s.Stopping u.1) :
    s.Stopping (entries.foldl
      (fun s entry => stopClientSession s entry.1 entry.2.batchingMode) u).1 := by
  induction entries generalizing u with
  | nil => exact h
  | cons entry entries ih =>
    have hentry := hentries entry mem_cons_self
    refine ih (fun entry' hentry' => hentries entry' (mem_cons_of_mem _ hentry')) _ ?_
    show s.Stopping (stopClientSession u entry.1 entry.2.batchingMode).1
    rw [stopClientSession]
    split
    · rename_i hmode
      exact h.stop hentry hmode
    · rename_i hmode
      rw [Decidable.not_not] at hmode
      exact h.stopTrip ((hsame _).mpr ⟨_, _, hentry, hmode, rfl⟩)

section

variable (entries : List (LocationSessionKey × BatchingOptions))
include entries

theorem mem_of_mem_foldl (u : BatchingAdapter × List Output)
    (h : id ∈ (entries.foldl (fun s entry => stopClientSession s entry.1 entry.2.batchingMode)
      u).1.mTripSessions) : id ∈ u.1.mTripSessions := by
  induction entries generalizing u with
  | nil => exact h
  | cons entry entries ih =>
    have hone : id ∈ (stopClientSession u entry.1 entry.2.batchingMode).1.mTripSessions :=
      ih _ h
    rw [stopClientSession] at hone
    split at hone
    · rw [BatchingAdapter.stopBatching] at hone
      split at hone <;> exact hone
    · rw [(stopTripBatchingMultiplex_maps ..).2] at hone
      split at hone
      · exact hone
      · exact (Std.TreeMap.mem_erase.mp hone).2

theorem stopClientSessions_mTripSessions (u : BatchingAdapter × List Output)
    (h : (∀ entry ∈ entries, entry.2.batchingMode ≠ .trip) ∨ u.1.mTripSessions.size = 1) :
    (entries.foldl (fun s entry => stopClientSession s entry.1 entry.2.batchingMode)
      u).1.mTripSessions = u.1.mTripSessions := by
  induction entries generalizing u with
  | nil => rfl
  | cons entry entries ih =>
    have hone : (stopClientSession u entry.1 entry.2.batchingMode).1.mTripSessions =
        u.1.mTripSessions := by
      rw [stopClientSession]
      split
      · rw [BatchingAdapter.stopBatching]
        split <;> rfl
      · rename_i hmode
        rcases h with h | h
        · exact absurd (h entry mem_cons_self) hmode
        · exact (stopTripBatchingMultiplex_maps ..).2.trans (if_pos h)
    rw [foldl_cons, ih, hone]
    rw [hone]
    exact h.imp_left fun h entry' hentry' => h entry' (mem_cons_of_mem _ hentry')

theorem owned_foldl (hentries : ∀ entry ∈ entries, entry.1.client = owner entry.1.id)
    (u : BatchingAdapter × List Output) (h : u.1.Owned owner) :
    (entries.foldl (fun s entry => stopClientSession s entry.1 entry.2.batchingMode)
      u).1.Owned owner := by
  induction entries generalizing u with
  | nil => exact h
  | cons entry entries ih =>
    have hentry := hentries entry mem_cons_self
    refine ih (fun entry' hentry' => hentries entry' (mem_cons_of_mem _ hentry')) _ ?_
    show (stopClientSession u entry.1 entry.2.batchingMode).1.Owned owner
    rw [stopClientSession]
    split
    · exact owned_stopBatching h hentry
    · exact owned_stopTripBatchingMultiplex h hentry

end

theorem mem_clientSessions {client : Nat} {entry : LocationSessionKey × BatchingOptions} :
    entry ∈ s.clientSessions client ↔
      s.mBatchingSessions[entry.1]? = some entry.2 ∧ entry.1.client = client := by
  rw [clientSessions, mem_filter, Std.TreeMap.mem_toList_iff_getElem?_eq_some, decide_eq_true_iff]

theorem owned_removeClient (h : s.Owned owner) (client : Nat) :
    (s.removeClient client).1.Owned owner := by
  have hstopped : (s.stopClientSessions client).1.Owned owner := by
    refine owned_foldl _ ?_ _ h
    intro entry hentry
    exact h.sessions _ _ (mem_clientSessions.mp hentry).1
  exact ⟨hstopped.sessions, hstopped.calls⟩

/-- The client has no trip, or the only one. -/
def KeepsTripsOf (s : BatchingAdapter) (client : Nat) : Prop :=
  (∀ entry ∈ s.clientSessions client, entry.2.batchingMode ≠ .trip) ∨ s.mTripSessions.size = 1

theorem sameTrips_removeClient (h : s.SameTrips) (client : Nat) :
    (s.removeClient client).1.SameTrips ↔ s.KeepsTripsOf client := by
  have hentries : ∀ entry ∈ s.clientSessions client,
      s.mBatchingSessions[entry.1]? = some entry.2 :=
    fun entry hentry => (mem_clientSessions.mp hentry).1
  have hstopping : s.Stopping (s.stopClientSessions client).1 :=
    Stopping.foldl h _ hentries _ .refl
  have htripIds : (s.stopClientSessions client).1.tripIds = s.tripIds := by
    ext id
    constructor
    · rintro ⟨key, options, hkey, hmode, hid⟩
      exact ⟨key, options, hstopping.sessions key options hkey, hmode, hid⟩
    · rintro ⟨key, options, hkey, hmode, hid⟩
      exact ⟨key, options, hstopping.entries key options hmode hkey, hmode, hid⟩
  have hremoved : (s.removeClient client).1.SameTrips ↔
      (s.stopClientSessions client).1.tripSessionIds = s.tripSessionIds := by
    have hs := sameTrips_iff_eq.mp h
    rw [hs, ← htripIds]
    exact sameTrips_iff_eq
  rw [hremoved]
  constructor
  · intro heq
    by_contra hnot
    obtain ⟨hentry, hsize⟩ := not_or.mp hnot
    simp only [not_forall, not_not] at hentry
    obtain ⟨entry, hmem, hmode⟩ := hentry
    -- the trip goes, unless another went before it, and nothing brings it back
    have hback : ∀ id ∈ s.mTripSessions, id ∈ (s.stopClientSessions client).1.mTripSessions :=
      fun id hid => (Set.ext_iff.mp heq id).mpr hid
    obtain ⟨before, rest, hsplit⟩ := append_of_mem hmem
    have hbefore := Stopping.foldl h before
      (fun entry' hentry' => hentries entry' (by simp [hsplit, hentry'])) (s, []) .refl
    rw [stopClientSessions, ← clientSessions, hsplit, foldl_append, foldl_cons] at hback
    generalize before.foldl _ (s, []) = u at hbefore hback
    have hleft := fun id hid => mem_of_mem_foldl _ _ (hback id hid)
    rw [stopClientSession, if_neg (not_not.mpr hmode)] at hleft
    have hleft : ∀ id ∈ s.mTripSessions, id ∈
        if u.1.mTripSessions.size = 1 then u.1.mTripSessions
        else u.1.mTripSessions.erase entry.1.id := by
      intro id hid
      rw [← (stopTripBatchingMultiplex_maps u.1 entry.1 .default).2]
      exact hleft id hid
    rcases hbefore.trips with hu | ⟨id, hid, hgone⟩
    · rw [hu, if_neg hsize] at hleft
      exact absurd (hleft _ ((h _).mpr ⟨_, _, hentries entry hmem, hmode, rfl⟩)) (by simp)
    · have hid' := hleft id hid
      split at hid'
      · exact hgone hid'
      · exact hgone (Std.TreeMap.mem_erase.mp hid').2
  · intro hkeeps
    exact congrArg (fun m : TripSessionStatusMap => {id | id ∈ m})
      (stopClientSessions_mTripSessions (s.clientSessions client) (s, []) hkeeps)

/-! ## Steps -/

theorem restartSessions_maps : s.restartSessions.mBatchingSessions = s.mBatchingSessions ∧
      s.restartSessions.mTripSessions = s.mTripSessions := by
  rw [restartSessions, restartTrips]
  split <;> split <;> exact ⟨rfl, rfl⟩

theorem handleEngineUpEvent_maps : s.handleEngineUpEvent.1.mBatchingSessions = s.mBatchingSessions ∧
      s.handleEngineUpEvent.1.mTripSessions = s.mTripSessions := by
  rw [handleEngineUpEvent]
  split
  · exact restartSessions_maps
  · exact ⟨rfl, rfl⟩

theorem owned_restartRoutines (h : s.Owned owner) : s.restartRoutines.Owned owner where
  sessions := h.sessions
  calls fn hfn := by
    rcases mem_append.mp hfn with hfn | hfn
    · exact h.calls fn hfn
    · obtain ⟨_, -, rfl⟩ := mem_map.mp hfn
      rintro _ ⟨⟩

theorem owned_restartTrips (h : s.Owned owner) : s.restartTrips.Owned owner := by
  rw [restartTrips]
  split
  · refine Owned.callTrip ⟨h.sessions, h.calls⟩ ?_
    rintro _ ⟨⟩
  · exact h

theorem owned_restartSessions (h : s.Owned owner) : s.restartSessions.Owned owner := by
  refine owned_restartTrips (owned_restartRoutines ?_)
  split
  · exact ⟨h.sessions, h.calls⟩
  · exact h

theorem owned_handleEngineUpEvent (h : s.Owned owner) : s.handleEngineUpEvent.1.Owned owner := by
  rw [handleEngineUpEvent]
  split
  · have hup : { s with engine := s.engine.stop, engineCapabilitiesKnown := true }.Owned owner :=
      ⟨h.sessions, h.calls⟩
    have hrestarted := owned_restartSessions hup
    exact ⟨hrestarted.sessions, hrestarted.calls⟩
  · exact ⟨h.sessions, h.calls⟩

theorem startBatchingResponse_success :
    (s.startBatchingResponse key options pendingMsg .success).1 = s := by
  rw [startBatchingResponse]
  simp

theorem owned_respond (h : s.Owned owner) (hkey : ∀ key ∈ fn.key, key.client = owner key.id)
    (data : UInt32) : (s.respond fn .success data).1.Owned owner := by
  cases fn with
  | ignore => exact h
  | startBatching key options pendingMsg =>
    rw [respond, startBatchingResponse_success]
    exact h
  | stopBatching key flpOptions restartNeeded batchOptions =>
    exact owned_stopBatchingResponse h (hkey key rfl)
  | startTrip key options =>
    rw [respond, startTripResponse, if_pos (.inr rfl)]
    exact ⟨h.sessions, h.calls⟩
  | joinTrip key options => exact owned_joinTripResponse h (hkey key rfl)
  | joinedTrip key => exact h
  | stopTrip key restartNeeded batchOptions => exact owned_stopTripResponse h (hkey key rfl)
  | stopLastTrip => exact h
  | queryTrips queryAccumulatedDistance minRemainingDistance minTBFInterval accDist =>
    exact owned_restartForTrips h ..
  | restartTrips accumulatedDistance distance interval => exact ⟨h.sessions, h.calls⟩
  | restartSessions => exact h

/-- An answer SUCCESS that keeps the maps in step: it adds no trip to a
running batch, stops none for good, and restarts none as another session. -/
def KeepsTripsResponse (s : BatchingAdapter) : ResponseFn → Prop
  | .stopBatching key _ restartNeeded batchOptions =>
    restartNeeded = true →
      batchOptions.batchingMode = .routine ∨ batchOptions.batchingMode = .noAutoReport →
        key.id ∉ s.mTripSessions
  | .joinTrip key _ => key.id ∈ s.mTripSessions
  | .stopTrip key restartNeeded _ => restartNeeded = false → key.id ∉ s.mTripSessions
  | _ => True

theorem sameTrips_respond (h : s.SameTrips) (howned : s.Owned owner)
    (hkey : ∀ key ∈ fn.key, key.client = owner key.id) (data : UInt32) :
    (s.respond fn .success data).1.SameTrips ↔ s.KeepsTripsResponse fn := by
  cases fn with
  | ignore => exact iff_of_true h trivial
  | startBatching key options pendingMsg =>
    rw [respond, startBatchingResponse_success]
    exact iff_of_true h trivial
  | stopBatching key flpOptions restartNeeded batchOptions =>
    exact sameTrips_stopBatchingResponse h howned (hkey key rfl)
  | startTrip key options =>
    rw [respond, startTripResponse, if_pos (.inr rfl)]
    exact iff_of_true (h.congr rfl rfl) trivial
  | joinTrip key options => exact sameTrips_joinTripResponse h
  | joinedTrip key => exact iff_of_true h trivial
  | stopTrip key restartNeeded batchOptions =>
    exact sameTrips_stopTripResponse h howned (hkey key rfl)
  | stopLastTrip => exact iff_of_true h trivial
  | queryTrips queryAccumulatedDistance minRemainingDistance minTBFInterval accDist =>
    refine iff_of_true (h.congr (restartForTrips_maps ..).1 ?_) trivial
    exact congrArg (fun m : TripSessionStatusMap => {id | id ∈ m}) (restartForTrips_maps ..).2
  | restartTrips accumulatedDistance distance interval =>
    exact iff_of_true (h.congr rfl (tripSessionIds_map _)) trivial
  | restartSessions => exact iff_of_true h trivial

end BatchingAdapter

open BatchingAdapter

/-- Engine calls succeed, and a start is of a new session. -/
def Succeeds (owner : Nat → Nat) (s : BatchingAdapter) : BatchingEvent → Prop
  | .response _ err _ => err = .success
  | .proc msg => NewSession owner s msg
  | _ => True

/-- The steps that change neither map without the other. -/
def KeepsTrips (s : BatchingAdapter) : BatchingEvent → Prop
  | .removeClient client => s.KeepsTripsOf client
  | .proc msg => s.KeepsTripsMsg msg
  | .reportCompletedTrips accumulatedDistance => s.NoneCompletes accumulatedDistance
  | .response n _ _ => ∀ fn, s.unanswered[n]? = some fn → s.KeepsTripsResponse fn
  | _ => True

variable {owner : Nat → Nat} {s : BatchingAdapter} {e : BatchingEvent}

theorem owned_answered (h : s.Owned owner) (n : Nat) (fn : ResponseFn) (err : LocationError) :
    (s.answered n fn err).Owned owner where
  sessions := h.sessions
  calls fn' hfn' := h.calls fn' (mem_of_mem_eraseIdx hfn')

theorem owned_step (h : s.Owned owner) (hpre : Succeeds owner s e) : (step s e).1.Owned owner := by
  cases e with
  | addClient client callbacks => exact ⟨h.sessions, h.calls⟩
  | removeClient client => exact owned_removeClient h client
  | proc msg => exact owned_proc h hpre
  | reportCompletedTrips accumulatedDistance => exact owned_reportCompletedTrips h _
  | engineLockState state =>
    rw [step, handleEngineLockStatus]
    split <;> exact ⟨h.sessions, h.calls⟩
  | handleEngineUpEvent => exact owned_handleEngineUpEvent h
  | response n err data =>
    cases hpre
    rw [step]
    split
    · exact h
    · rename_i fn hfn
      exact owned_respond (owned_answered h ..) (h.calls fn (mem_of_getElem? hfn)) _
  | moved distance => exact ⟨h.sessions, h.calls⟩

theorem sameTrips_step (h : s.SameTrips) (howned : s.Owned owner) (hpre : Succeeds owner s e) :
    (step s e).1.SameTrips ↔ KeepsTrips s e := by
  cases e with
  | addClient client callbacks => exact iff_of_true (h.congr rfl rfl) trivial
  | removeClient client => exact sameTrips_removeClient h client
  | proc msg => exact sameTrips_proc h howned hpre
  | reportCompletedTrips accumulatedDistance => exact sameTrips_reportCompletedTrips h _
  | engineLockState state =>
    rw [step, handleEngineLockStatus]
    split <;> exact iff_of_true (h.congr rfl rfl) trivial
  | handleEngineUpEvent =>
    refine iff_of_true (h.congr handleEngineUpEvent_maps.1 ?_) trivial
    exact congrArg (fun m : TripSessionStatusMap => {id | id ∈ m}) handleEngineUpEvent_maps.2
  | response n err data =>
    cases hpre
    rw [step]
    split
    · rename_i hnone
      refine iff_of_true h ?_
      intro fn hfn
      cases hnone.symm.trans hfn
    · rename_i fn hfn
      have hsame : (s.answered n fn .success).SameTrips := h.congr rfl rfl
      have hkeys := howned.calls fn (mem_of_getElem? hfn)
      rw [sameTrips_respond hsame (owned_answered howned ..) hkeys]
      constructor
      · intro hkeeps fn' hfn'
        cases hfn.symm.trans hfn'
        cases fn <;> exact hkeeps
      · intro hkeeps
        have hfn' := hkeeps fn hfn
        cases fn <;> exact hfn'
  | moved distance => exact iff_of_true (h.congr rfl rfl) trivial

/-! ## The runs that keep the maps in step -/

/-- In a run in which calls succeed, every state has the same trips in both
maps if and only if each step changes neither without the other. -/
theorem sameTrips_iff (owner : Nat → Nat) (hs : s.Idle) (es : List BatchingEvent)
    (hpre : StepsMeet step (Succeeds owner) s es) :
    StatesMeet step SameTrips s es ↔ StepsMeet step KeepsTrips s es :=
  statesMeet_iff_stepsMeet_of_pre (P := SameTrips) (fun s => s.SameTrips ∧ s.Owned owner)
    (fun _ h => h.1)
    (fun _ _ h hpre hok => ⟨(sameTrips_step h.1 h.2 hpre).mpr hok, owned_step h.2 hpre⟩)
    (fun _ _ h hpre hafter => (sameTrips_step h.1 h.2 hpre).mp hafter)
    ⟨hs.sameTrips, hs.owned⟩ hpre

/-- A trip of 1000 m with a fix every second, and the same as a routine
session. -/
def tripOptions : BatchingOptions :=
  { BatchingOptions.default with
    size := 24, minInterval := 1000, minDistance := 1000, batchingMode := .trip }

def routineOptions : BatchingOptions := { tripOptions with batchingMode := .routine }

/-- One trip, which becomes a routine session. -/
def updatedTrip : List BatchingEvent :=
  [.addClient 7 ⟨true, true, true⟩, .proc (.startBatching ⟨7, 1⟩ tripOptions),
    .response 0 .success 0, .proc (.updateBatching ⟨7, 1⟩ routineOptions),
    .response 0 .success 0, .response 0 .success 0]

theorem sameTrips_updatedTrip : StatesMeet step SameTrips .new updatedTrip := by
  refine (sameTrips_iff (fun _ => 7) idle_new updatedTrip ?_).mpr ?_
  · exact ⟨trivial, ⟨rfl, by decide⟩, rfl, trivial, rfl, rfl, trivial⟩
  · refine ⟨trivial, trivial, ?_, trivial, ?_, ?_, trivial⟩
    · rintro fn ⟨⟩
      trivial
    · rintro fn ⟨⟩
      exact Bool.noConfusion
    · rintro fn ⟨⟩
      trivial

/-- A second trip starts while the first is there. -/
def secondTrip : List BatchingEvent :=
  [.addClient 7 ⟨true, true, true⟩, .proc (.startBatching ⟨7, 1⟩ tripOptions),
    .response 0 .success 0, .proc (.startBatching ⟨7, 2⟩ tripOptions), .response 0 .success 0]

/-- It is not in `mBatchingSessions`, where a stop looks for it. -/
theorem sameTrips_fails : ¬ StatesMeet step SameTrips .new secondTrip := by
  intro h
  have hlast : (after step .new secondTrip).SameTrips := h.last
  obtain ⟨key, options, hkey, -, hid⟩ := (hlast 2).mp (by decide)
  have hsessions : (after step .new secondTrip).mBatchingSessions =
      (∅ : BatchingSessionMap).insert ⟨7, 1⟩ tripOptions := rfl
  rw [hsessions, Std.TreeMap.getElem?_insert] at hkey
  split at hkey
  · rename_i heq
    cases Std.compare_eq_iff_eq.mp heq
    cases hid
  · rw [Std.TreeMap.getElem?_emptyc] at hkey
    cases hkey

end LocStack.Batching
