/-
# `LocStack.Batching.Ongoing` — the distance and the interval of the batch

The batch of the engine serves all trip sessions, so that its distance is to
be the smallest that any of them has left, and its interval the smallest that
any of them asks for.  `Minimal` says so of a state, and that the engine was
last given both.  `mOngoingTripDistance` counts from the start of the batch:
what the batch has left is that less its counter, which is 0 after a restart.

The adapter does not compute them anew each time: a start compares the new
session with what is left of the batch, and a stop or a completion the
smallest values over the other sessions with those of the batch, which it
takes over only if they are smaller or the session that is gone is found to
have had those of the batch.  It looks for that one by its whole distance,
and for what the others have left by what they had covered when that was
last recorded.  `KeepsMinima` has the steps for which this comes to the same;
`minimized_of_stepsMeet` says that a run of such steps leaves the batch with
the smallest values after each start, stop and completion.
-/
import LocStack.Base.Least
import LocStack.Batching.BatchFull
import LocStack.Batching.Distance

namespace LocStack.Batching

open Base List Function Option
open Tracking (LocationError LocationSessionKey)

namespace TripSessionStatus

/-- What is left of the trip at this value of the counter. -/
def remaining (status : TripSessionStatus) (accumulatedDistance : UInt32) : UInt32 :=
  status.tripDistance - status.accounted accumulatedDistance

/-- What was left when it was last recorded. -/
def recorded (status : TripSessionStatus) : UInt32 :=
  status.tripDistance - status.accumulatedDistanceThisTrip

end TripSessionStatus

namespace BatchingAdapter

def trips (s : BatchingAdapter) (id : Nat) : Option TripSessionStatus := s.mTripSessions[id]?

/-! ## The property -/

/-- What the batch has left is the least that any trip session has left, its
interval is the least that any asks for, and the engine was given these. -/
structure Minimal (s : BatchingAdapter) : Prop where
  distance : LeastAt s.trips (·.remaining s.engine.accumulatedDistance)
    (s.mOngoingTripDistance - s.engine.accumulatedDistance)
  interval : LeastAt s.trips (·.tripTBFInterval) s.mOngoingTripTBFInterval
  given : s.engine.tripDistance = s.mOngoingTripDistance ∧
    s.engine.tripTBFInterval = s.mOngoingTripTBFInterval

end BatchingAdapter

/-- The call is about the batch. -/
def ResponseFn.isTrip : ResponseFn → Bool
  | .ignore => false
  | .startBatching _ _ _ => false
  | .stopBatching _ _ _ _ => false
  | _ => true

structure WatchedBatch where
  adapter : BatchingAdapter
  /-- The last step was an answer about the batch. -/
  answered : Bool

namespace WatchedBatch

def new : WatchedBatch := ⟨.new, false⟩

def answeredBy (s : BatchingAdapter) : BatchingEvent → Bool
  | .response n _ _ => s.unanswered[n]?.any ResponseFn.isTrip
  | _ => false

def watched (w : WatchedBatch) (e : BatchingEvent) : WatchedBatch × List Output :=
  (⟨(step w.adapter e).1, answeredBy w.adapter e⟩, (step w.adapter e).2)

/-- A start, stop or completion is over with the answer to its last call; if
trip sessions go on, the batch is as it is to be. -/
def Minimized (w : WatchedBatch) : Prop :=
  w.answered = true → w.adapter.unanswered = [] → w.adapter.mTripSessions.size ≠ 0 →
    w.adapter.Minimal

end WatchedBatch

namespace BatchingAdapter

/-! ## The conditions -/

/-- What the sessions are accounted at this value of the counter has been
recorded. -/
def UpToDate (s : BatchingAdapter) (accumulatedDistance : UInt32) : Prop :=
  ∀ id status, s.trips id = some status →
    status.accumulatedDistanceThisTrip = status.accounted accumulatedDistance

/-- The test of `restartForTrips`. -/
def restartsForTrips (s : BatchingAdapter)
    (minRemainingDistance minTBFInterval accumulatedDistance : UInt32) : Bool :=
  (s.distanceForTrips minRemainingDistance accumulatedDistance).2 ||
    (s.intervalForTrips minTBFInterval).2

/-- Some sessions are gone, at this value of the counter, and the smallest
values of the others are looked for, 0 standing for none.  If the batch is
restarted, then with a distance that is up to date; if not, its distance is
that of a session that goes on. -/
def KeepsLeast (s : BatchingAdapter) (accumulatedDistance : UInt32) : Prop :=
  (∀ id status, s.trips id = some status → status.tripTBFInterval ≠ 0) ∧
    if s.restartsForTrips s.recordMins.1 s.recordMins.2 accumulatedDistance then
      s.UpToDate accumulatedDistance ∧
        (∀ id status, s.trips id = some status → status.recorded ≠ 0) ∧
          ((s.distanceForTrips s.recordMins.1 accumulatedDistance).2 = true ∨
            s.recordMins.1 = s.mOngoingTripDistance)
    else
      s.engine.accumulatedDistance ≤ s.mOngoingTripDistance ∧
        ∃ id status, s.trips id = some status ∧ status.remaining s.engine.accumulatedDistance =
            s.mOngoingTripDistance - s.engine.accumulatedDistance

/-- A trip joins.  If the batch is restarted, what is recorded of the others
is up to date, or leaves each of them as much as the new one. -/
def KeepsLeastJoin (s : BatchingAdapter) (options : BatchingOptions) : Prop :=
  if (s.restartForTrip options .success s.engine.accumulatedDistance).isSome then
    s.UpToDate s.engine.accumulatedDistance ∧
        s.engine.accumulatedDistance ≤ s.mOngoingTripDistance ∨
      options.minDistance < s.mOngoingTripDistance - s.engine.accumulatedDistance ∧
        ∀ id status, s.trips id = some status → options.minDistance ≤ status.recorded
  else s.engine.accumulatedDistance ≤ s.mOngoingTripDistance

end BatchingAdapter

/-- The smallest values are being looked for. -/
def ResponseFn.isQuery : ResponseFn → Bool
  | .queryTrips _ _ _ _ => true
  | _ => false

open BatchingAdapter

/-- Trips start, under new ids, stop and are completed, and the calls
succeed. -/
def TripsOnly (s : BatchingAdapter) : BatchingEvent → Prop
  | .addClient _ _ => True
  | .proc (.startBatching key options) =>
    options.batchingMode = .trip ∧ key.id ∉ s.mTripSessions
  | .proc (.stopBatching _) => True
  | .reportCompletedTrips _ => True
  | .response _ err _ => err = .success
  | .moved _ => True
  | _ => False

/-- The steps that keep the values of the batch the smallest.  An operation
begins when the calls of the one before are answered; the counter does not
wrap, and stands still while the smallest values are looked for. -/
def KeepsMinima (s : BatchingAdapter) : BatchingEvent → Prop
  | .proc (.stopBatching key) =>
    s.unanswered = [] ∧
      (s.StopsBeside key → (s.dropTrip key.id).KeepsLeast s.engine.accumulatedDistance)
  | .proc _ => s.unanswered = []
  | .reportCompletedTrips accumulatedDistance =>
    s.unanswered = [] ∧ ((s.completedTrips accumulatedDistance).isEmpty = false →
        (s.countTrips accumulatedDistance).mTripSessions.size ≠ 0 →
          (s.countTrips accumulatedDistance).KeepsLeast accumulatedDistance)
  | .response n _ _ =>
    ∀ key options, s.unanswered[n]? = some (.joinTrip key options) → s.KeepsLeastJoin options
  | .moved distance =>
    s.unanswered.any ResponseFn.isQuery = false ∧
      s.engine.accumulatedDistance ≤ s.engine.accumulatedDistance + distance
  | _ => True

namespace BatchingAdapter

/-! ## The invariant -/

/-- The engine was last given the distance and the interval of the batch. -/
def Given (s : BatchingAdapter) : Prop :=
  s.engine.tripDistance = s.mOngoingTripDistance ∧
    s.engine.tripTBFInterval = s.mOngoingTripTBFInterval

/-- What holds of the batch while it goes on, until it has covered its
distance. -/
structure Ongoing (s : BatchingAdapter) : Prop where
  distance : ∀ accumulatedDistance, s.engine.accumulatedDistance ≤ accumulatedDistance →
    accumulatedDistance ≤ s.mOngoingTripDistance → LeastAt s.trips (·.remaining accumulatedDistance)
        (s.mOngoingTripDistance - accumulatedDistance)
  interval : LeastAt s.trips (·.tripTBFInterval) s.mOngoingTripTBFInterval
  given : s.Given

/-- What holds of the batch from its start. -/
structure Restarted (s : BatchingAdapter) : Prop where
  distance : LeastAt s.trips (·.remaining 0) s.mOngoingTripDistance
  interval : LeastAt s.trips (·.tripTBFInterval) s.mOngoingTripTBFInterval
  given : s.Given

def Settled (s : BatchingAdapter) : Prop := s.mTripSessions.size = 0 ∨ s.Ongoing

/-- What is left of the sessions has been recorded, as of a value of the
counter, and the smallest values are these. -/
structure Recorded (s : BatchingAdapter) (accumulatedDistance distance interval : UInt32) :
    Prop where
  upToDate : s.UpToDate accumulatedDistance
  distance : LeastAt s.trips TripSessionStatus.recorded distance
  interval : LeastAt s.trips (·.tripTBFInterval) interval

/-- What holds while the smallest values are looked for. -/
structure Queried (s : BatchingAdapter)
    (minRemainingDistance minTBFInterval accumulatedDistance : UInt32) : Prop where
  distance :
    if s.restartsForTrips minRemainingDistance minTBFInterval accumulatedDistance then
      s.UpToDate accumulatedDistance ∧
        LeastAt s.trips TripSessionStatus.recorded minRemainingDistance ∧
          ((s.distanceForTrips minRemainingDistance accumulatedDistance).2 = true ∨
            minRemainingDistance = s.mOngoingTripDistance)
    else
      s.engine.accumulatedDistance ≤ s.mOngoingTripDistance ∧
        LeastAt s.trips (·.remaining s.engine.accumulatedDistance)
          (s.mOngoingTripDistance - s.engine.accumulatedDistance)
  interval : LeastAt s.trips (·.tripTBFInterval) minTBFInterval
  below : s.mOngoingTripTBFInterval ≤ minTBFInterval
  dropped : s.mOngoingTripTBFInterval = minTBFInterval ∨ s.mTripWithOngoingTBFDropped = true
  given : s.Given

/-- What holds while a call is unanswered. -/
def Awaits (s : BatchingAdapter) : ResponseFn → Prop
  | .startTrip key options =>
    (∀ id, s.trips id =
      if key.id = id then some ⟨0, 0, 0, options.minDistance, options.minInterval⟩ else none) ∧
      s.engine.tripDistance = options.minDistance ∧ s.engine.tripTBFInterval = options.minInterval
  | .joinTrip key _ => s.Ongoing ∧ key.id ∉ s.mTripSessions
  | .joinedTrip _ => s.Restarted
  | .stopTrip key restartNeeded _ => restartNeeded = false ∧ ∀ id ∈ s.mTripSessions, id = key.id
  | .stopLastTrip => s.mTripSessions.size = 0
  | .stopBatching _ _ restartNeeded _ => restartNeeded = false ∧ s.Settled
  | .queryTrips queryAccumulatedDistance minRemainingDistance minTBFInterval accDist =>
    s.Queried minRemainingDistance minTBFInterval
      (if queryAccumulatedDistance then s.engine.accumulatedDistance else accDist)
  | .restartTrips accumulatedDistance distance interval =>
    s.Recorded accumulatedDistance distance interval ∧ s.engine.tripDistance = distance ∧
      s.engine.tripTBFInterval = interval
  | _ => False

variable {s t : BatchingAdapter} {key : LocationSessionKey} {options : BatchingOptions}
  {accumulatedDistance distance interval data : UInt32}

/-! ## What is left later -/

variable {a minTBFInterval minRemainingDistance : UInt32} {f : TripSessionStatus → UInt32}
  {id : Nat} {status : TripSessionStatus} {answered : Bool} {fn : ResponseFn}

theorem sub_le_sub_of_le {b c : UInt32} (hca : c ≤ a) (hab : a ≤ b) : a - c ≤ b - c := by
  have hcb := UInt32.le_trans hca hab
  rw [UInt32.le_iff_toNat_le] at hab ⊢
  rw [UInt32.toNat_sub_of_le _ _ hca, UInt32.toNat_sub_of_le _ _ hcb]
  omega

theorem leastAt_later {trips : Nat → Option TripSessionStatus} {least earlier later : UInt32}
    (h : LeastAt trips (·.remaining earlier) (least - earlier)) (hle : earlier ≤ later)
    (hwithin : later ≤ least) : LeastAt trips (·.remaining later) (least - later) := by
  have hsub : ∀ a : UInt32, a - earlier - (later - earlier) = a - later := by
    intro a
    grind
  have hchange : ∀ a, least - earlier ≤ a →
      least - earlier - (later - earlier) ≤ a - (later - earlier) :=
    fun a ha => sub_le_sub_of_le (sub_le_sub_of_le hle hwithin) ha
  have hcomp := h.comp (· - (later - earlier)) hchange
  rw [hsub] at hcomp
  refine hcomp.congr fun id status _ => ?_
  simp only [TripSessionStatus.remaining, TripSessionStatus.accounted]
  grind

theorem Restarted.ongoing (h : s.Restarted) : s.Ongoing := by
  have hstart : LeastAt s.trips (·.remaining 0) (s.mOngoingTripDistance - 0) := by
    rw [UInt32.sub_zero]
    exact h.distance
  exact ⟨fun _ _ hwithin => leastAt_later hstart (UInt32.zero_le ..) hwithin, h.interval, h.given⟩

theorem Ongoing.minimal (h : s.Ongoing)
    (hwithin : s.engine.accumulatedDistance ≤ s.mOngoingTripDistance) : s.Minimal :=
  ⟨h.distance _ (UInt32.le_refl _) hwithin, h.interval, h.given⟩

theorem ongoing_of_least
    (hdistance : LeastAt s.trips (·.remaining s.engine.accumulatedDistance)
      (s.mOngoingTripDistance - s.engine.accumulatedDistance))
    (hinterval : LeastAt s.trips (·.tripTBFInterval) s.mOngoingTripTBFInterval)
    (hgiven : s.Given) : s.Ongoing :=
  ⟨fun _ hle hwithin => leastAt_later hdistance hle hwithin, hinterval, hgiven⟩

theorem size_ne_zero_iff : s.mTripSessions.size ≠ 0 ↔ ∃ id status, s.trips id = some status := by
  rw [ne_eq, size_eq_zero_iff, not_forall]
  refine exists_congr fun id => ?_
  rw [not_not, Std.TreeMap.mem_iff_isSome_getElem?, isSome_iff_exists]
  rfl

/-! ## The smallest values that are recorded -/

theorem foldl_recordMin (statuses : List TripSessionStatus) (least : UInt32 × UInt32) :
    statuses.foldl recordMin least =
      ((statuses.map TripSessionStatus.recorded).foldl (recordLeast 0) least.1,
        (statuses.map TripSessionStatus.tripTBFInterval).foldl (recordLeast 0) least.2) := by
  induction statuses generalizing least with
  | nil => rfl
  | cons status statuses ih =>
    rw [foldl_cons, ih]
    rfl

theorem mem_statuses : a ∈ (s.mTripSessions.toList.map Prod.snd).map f ↔
      ∃ id status, s.trips id = some status ∧ f status = a := by
  simp only [List.map_map, List.mem_map, Prod.exists, Function.comp,
    Std.TreeMap.mem_toList_iff_getElem?_eq_some]
  rfl

theorem leastAt_statuses (hsome : s.mTripSessions.size ≠ 0)
    (hzero : ∀ id status, s.trips id = some status → f status ≠ 0) :
    LeastAt s.trips f (((s.mTripSessions.toList.map Prod.snd).map f).foldl (recordLeast 0) 0) := by
  have hset : {a | ∃ id status, s.trips id = some status ∧ f status = a} =
      {a | a ∈ (s.mTripSessions.toList.map Prod.snd).map f} := by
    ext a
    exact mem_statuses.symm
  rw [LeastAt, hset]
  refine isLeast_foldl _ ?_ ?_
  · intro hnil
    obtain ⟨id, status, hstatus⟩ := size_ne_zero_iff.mp hsome
    have hmem : f status ∈ (s.mTripSessions.toList.map Prod.snd).map f :=
      mem_statuses.mpr ⟨id, status, hstatus, rfl⟩
    rw [hnil] at hmem
    cases hmem
  · intro hmem
    obtain ⟨id, status, hstatus, hf⟩ := mem_statuses.mp hmem
    exact hzero id status hstatus hf


theorem leastAt_recordMins_fst (hsome : s.mTripSessions.size ≠ 0)
    (h : ∀ id status, s.trips id = some status → status.recorded ≠ 0) :
    LeastAt s.trips TripSessionStatus.recorded s.recordMins.1 := by
  rw [recordMins, foldl_recordMin]
  exact leastAt_statuses hsome h

theorem leastAt_recordMins_snd (hsome : s.mTripSessions.size ≠ 0)
    (h : ∀ id status, s.trips id = some status → status.tripTBFInterval ≠ 0) :
    LeastAt s.trips (·.tripTBFInterval) s.recordMins.2 := by
  rw [recordMins, foldl_recordMin]
  exact leastAt_statuses hsome h

/-! ## Stops and completions beside others -/

/-- `t` has some of the sessions of `s`, with as much left, and knows if one
that is gone had the interval of the batch. -/
structure Leaves (s t : BatchingAdapter) : Prop where
  left : ∀ id status', t.trips id = some status' → ∃ status, s.trips id = some status ∧
    status.tripTBFInterval = status'.tripTBFInterval ∧ ∀ accumulatedDistance,
        status.remaining accumulatedDistance = status'.remaining accumulatedDistance
  gone : ∀ id status, s.trips id = some status →
    (∃ status', t.trips id = some status' ∧ status'.tripTBFInterval = status.tripTBFInterval) ∨
      (status.tripTBFInterval = s.mOngoingTripTBFInterval → t.mTripWithOngoingTBFDropped = true)
  distance : t.mOngoingTripDistance = s.mOngoingTripDistance
  interval : t.mOngoingTripTBFInterval = s.mOngoingTripTBFInterval
  engine : t.engine = s.engine

theorem Leaves.given (hleaves : s.Leaves t) (h : s.Given) : t.Given := by
  rw [Given, hleaves.distance, hleaves.interval, hleaves.engine]
  exact h

theorem Leaves.leastAt (hleaves : s.Leaves t) (h : s.Ongoing) (hstatus : t.trips id = some status)
    (hwithin : t.engine.accumulatedDistance ≤ t.mOngoingTripDistance)
    (hremaining : status.remaining t.engine.accumulatedDistance =
      t.mOngoingTripDistance - t.engine.accumulatedDistance) :
    LeastAt t.trips (·.remaining t.engine.accumulatedDistance)
      (t.mOngoingTripDistance - t.engine.accumulatedDistance) := by
  refine LeastAt.mk_of hstatus hremaining fun j status' hstatus' => ?_
  obtain ⟨status, hfound, -, heq⟩ := hleaves.left j status' hstatus'
  rw [hleaves.engine, hleaves.distance] at hwithin ⊢
  rw [← heq]
  exact (h.distance _ (UInt32.le_refl _) hwithin).le hfound

theorem Leaves.queried (hleaves : s.Leaves t) (h : s.Ongoing)
    (hsome : t.mTripSessions.size ≠ 0) (hkeeps : t.KeepsLeast accumulatedDistance) :
    t.Queried t.recordMins.1 t.recordMins.2 accumulatedDistance := by
  obtain ⟨hintervals, hdistances⟩ := hkeeps
  have hinterval := leastAt_recordMins_snd hsome hintervals
  have hleast := h.interval
  rw [← hleaves.interval] at hleast
  have hleft : ∀ id status', t.trips id = some status' → ∃ status, s.trips id = some status ∧
      status.tripTBFInterval = status'.tripTBFInterval := by
    intro id status' hstatus'
    obtain ⟨status, hstatus, heq, -⟩ := hleaves.left id status' hstatus'
    exact ⟨status, hstatus, heq⟩
  refine ⟨?_, hinterval, hleast.le_of_left hinterval hleft, ?_, hleaves.given h.given⟩
  · split at hdistances
    · rename_i hrestarts
      obtain ⟨hupToDate, hrecorded, htakes⟩ := hdistances
      rw [if_pos hrestarts]
      exact ⟨hupToDate, leastAt_recordMins_fst hsome hrecorded, htakes⟩
    · rename_i hrestarts
      obtain ⟨hwithin, id, status, hstatus, hremaining⟩ := hdistances
      rw [if_neg hrestarts]
      exact ⟨hwithin, hleaves.leastAt h hstatus hwithin hremaining⟩
  · rcases hleast.eq_or_gone hinterval hleft with heq | ⟨id, status, hstatus, hmin, hgone⟩
    · exact .inl heq
    · rcases hleaves.gone id status hstatus with ⟨status', hstatus', heq⟩ | hflag
      · exact absurd (heq.trans hmin) (hgone status' hstatus')
      · exact .inr (hflag (hmin.trans hleaves.interval))

theorem trips_dropTrip (id : Nat) : (s.dropTrip id).trips = update s.trips id none :=
  getElem?_erase_eq s.mTripSessions id

theorem leaves_dropTrip (id : Nat) : s.Leaves (s.dropTrip id) := by
  refine ⟨?_, ?_, rfl, rfl, rfl⟩
  · intro j status hstatus
    rw [trips_dropTrip] at hstatus
    rcases eq_or_ne j id with rfl | hj
    · rw [update_self] at hstatus
      cases hstatus
    · rw [update_of_ne hj] at hstatus
      exact ⟨status, hstatus, rfl, fun _ => rfl⟩
  · intro j status hstatus
    rcases eq_or_ne j id with rfl | hj
    · refine .inr fun hmin => ?_
      have hfound : s.mTripSessions[j]? = some status := hstatus
      rw [dropTrip, hfound, getD_some, hmin]
      simp
    · refine .inl ⟨status, ?_, rfl⟩
      rw [trips_dropTrip, update_of_ne hj]
      exact hstatus

theorem trips_countTrips (id : Nat) : (s.countTrips accumulatedDistance).trips id =
      ((s.trips id).map fun status => status.count accumulatedDistance).filter
        fun status => !status.completed := by
  rw [trips, countTrips, Std.TreeMap.getElem?_filter', Std.TreeMap.getElem?_map]
  rfl

theorem trips_countTrips_eq_some {status' : TripSessionStatus} :
    (s.countTrips accumulatedDistance).trips id = some status' ↔
      ∃ status, s.trips id = some status ∧ status.count accumulatedDistance = status' ∧
        status'.completed = false := by
  rw [trips_countTrips, filter_eq_some_iff, map_eq_some_iff]
  simp only [Bool.not_eq_true']
  constructor
  · rintro ⟨⟨status, hstatus, heq⟩, hnot⟩
    exact ⟨status, hstatus, heq, hnot⟩
  · rintro ⟨status, hstatus, heq, hnot⟩
    exact ⟨⟨status, hstatus, heq⟩, hnot⟩

theorem leaves_countTrips (accumulatedDistance : UInt32) :
    s.Leaves (s.countTrips accumulatedDistance) := by
  refine ⟨?_, ?_, rfl, rfl, rfl⟩
  · intro id status' hstatus'
    obtain ⟨status, hstatus, rfl, -⟩ := trips_countTrips_eq_some.mp hstatus'
    exact ⟨status, hstatus, rfl, fun _ => rfl⟩
  · intro id status hstatus
    cases hcompleted : (status.count accumulatedDistance).completed with
    | false => exact .inl ⟨_, trips_countTrips_eq_some.mpr ⟨status, hstatus, rfl, hcompleted⟩, rfl⟩
    | true =>
      refine .inr fun hmin => ?_
      have hfound : (s.completedTrips accumulatedDistance)[id]? =
          some (status.count accumulatedDistance) := by
        rw [completedTrips, Std.TreeMap.getElem?_filter', Std.TreeMap.getElem?_map,
          show s.mTripSessions[id]? = some status from hstatus]
        exact if_pos hcompleted
      rw [countTrips, Bool.or_eq_true, List.any_eq_true]
      refine .inr ⟨status.count accumulatedDistance, ?_, decide_eq_true hmin⟩
      exact mem_map.mpr ⟨_, Std.TreeMap.mem_toList_iff_getElem?_eq_some.mpr hfound, rfl⟩

theorem ongoing_countTrips (h : s.Ongoing)
    (hnone : (s.completedTrips accumulatedDistance).isEmpty = true) :
    (s.countTrips accumulatedDistance).Ongoing := by
  have htrips : (s.countTrips accumulatedDistance).trips =
      fun id => (s.trips id).map fun status => status.count accumulatedDistance := by
    funext id
    rw [trips_countTrips]
    cases hstatus : s.trips id with
    | none => rfl
    | some status =>
      have hnot : (s.completedTrips accumulatedDistance)[id]? = none :=
        Std.TreeMap.getElem?_of_isEmpty hnone
      rw [completedTrips, Std.TreeMap.getElem?_filter', Std.TreeMap.getElem?_map,
        show s.mTripSessions[id]? = some status from hstatus] at hnot
      have hleft : (status.count accumulatedDistance).completed ≠ true := by
        intro hcompleted
        rw [map_some, filter_some, if_pos hcompleted] at hnot
        cases hnot
      rw [map_some, filter_some, if_pos]
      simpa using hleft
  constructor
  · intro counter hle hwithin
    rw [htrips]
    exact (LeastAt.map_iff _).mpr (h.distance counter hle hwithin)
  · rw [htrips]
    exact (LeastAt.map_iff _).mpr h.interval
  · exact h.given

/-! ## Starts and joins -/

theorem remaining_started (options : BatchingOptions) (accumulatedDistance : UInt32) :
    TripSessionStatus.remaining
      ⟨accumulatedDistance, 0, 0, options.minDistance, options.minInterval⟩ accumulatedDistance =
        options.minDistance := by
  simp only [TripSessionStatus.remaining, TripSessionStatus.accounted]
  grind

theorem trips_saveTrip (id : Nat) : (s.saveTrip id options data).trips = update s.trips id
      (some ⟨data, 0, 0, options.minDistance, options.minInterval⟩) :=
  getElem?_insert_eq s.mTripSessions id _

theorem trips_eq_none (h : id ∉ s.mTripSessions) : s.trips id = none := by
  refine not_isSome_iff_eq_none.mp ?_
  rw [trips, ← Std.TreeMap.mem_iff_isSome_getElem?]
  exact h

theorem awaits_startTrip (hnone : s.mTripSessions.size = 0) :
    (((s.registerIfNone.saveBatchingSession key options).saveTrip key.id options 0).callTrip
      options.minDistance options.minInterval (.startTrip key options)).Awaits
        (.startTrip key options) := by
  refine ⟨fun id => ?_, rfl, rfl⟩
  rw [registerIfNone_eq]
  show (s.saveTrip key.id options 0).trips id = _
  rw [trips_saveTrip, update_apply]
  simp only [eq_comm (a := id)]
  split
  · rfl
  · exact trips_eq_none ((size_eq_zero_iff s).mp hnone id)

theorem restarted_startTripResponse (h : s.Awaits (.startTrip key options)) :
    (s.startTripResponse key options .success).1.Restarted := by
  obtain ⟨htrips, hgiven⟩ := h
  have hone : s.trips key.id = some ⟨0, 0, 0, options.minDistance, options.minInterval⟩ :=
    (htrips key.id).trans (if_pos rfl)
  have honly : ∀ id, id ≠ key.id → s.trips id = none :=
    fun id hid => (htrips id).trans (if_neg hid.symm)
  have hdistance := LeastAt.single (f := (·.remaining 0)) hone honly
  rw [remaining_started] at hdistance
  rw [startTripResponse, if_pos (.inr rfl)]
  exact ⟨hdistance, LeastAt.single (f := TripSessionStatus.tripTBFInterval) hone honly, hgiven⟩

theorem ongoing_saveTrip (h : s.Ongoing) (hkey : key.id ∉ s.mTripSessions)
    (hwithin : s.engine.accumulatedDistance ≤ s.mOngoingTripDistance)
    (hdistance : s.mOngoingTripDistance - s.engine.accumulatedDistance ≤ options.minDistance)
    (hinterval : s.mOngoingTripTBFInterval ≤ options.minInterval) :
    (s.saveTrip key.id options s.engine.accumulatedDistance).Ongoing := by
  have hnone := trips_eq_none hkey
  refine ongoing_of_least ?_ ?_ h.given
  · rw [trips_saveTrip]
    refine (h.distance _ (UInt32.le_refl _) hwithin).insert_of_le hnone ?_
    rw [← remaining_started options s.engine.accumulatedDistance] at hdistance
    exact hdistance
  · rw [trips_saveTrip]
    exact h.interval.insert_of_le hnone hinterval

theorem restartForTrip_eq_none
    (h : s.restartForTrip options .success accumulatedDistance = none) :
    s.mOngoingTripDistance - accumulatedDistance ≤ options.minDistance ∧
      s.mOngoingTripTBFInterval ≤ options.minInterval := by
  rw [restartForTrip, if_pos rfl] at h
  split at h
  · cases h
  · rename_i hdistance
    split at h
    · cases h
    · rename_i hinterval
      exact ⟨UInt32.not_lt.mp hdistance, UInt32.not_lt.mp hinterval⟩

theorem restartForTrip_eq_some
    (h : s.restartForTrip options .success accumulatedDistance = some (distance, interval)) :
    distance = (if options.minDistance < s.mOngoingTripDistance - accumulatedDistance then
        options.minDistance else s.mOngoingTripDistance - accumulatedDistance) ∧
      interval = (if options.minInterval < s.mOngoingTripTBFInterval then options.minInterval
        else s.mOngoingTripTBFInterval) := by
  rw [restartForTrip, if_pos rfl] at h
  split at h
  · rename_i hdistance
    cases h
    exact ⟨(if_pos hdistance).symm, rfl⟩
  · rename_i hdistance
    rw [if_neg hdistance]
    split at h
    · rename_i hinterval
      cases h
      exact ⟨rfl, (if_pos hinterval).symm⟩
    · cases h

theorem remaining_rejoin (status : TripSessionStatus) :
    status.rejoin.remaining 0 = status.recorded := by
  simp only [TripSessionStatus.remaining, TripSessionStatus.rejoin, TripSessionStatus.accounted,
    TripSessionStatus.recorded]
  grind

theorem recorded_eq (hupToDate : s.UpToDate accumulatedDistance)
    (hstatus : s.trips id = some status) :
    status.recorded = status.remaining accumulatedDistance := by
  rw [TripSessionStatus.recorded, hupToDate id status hstatus]
  rfl

theorem trips_rejoinAll (id : Nat) :
    ((s.saveTrip id options data).rejoinAll distance interval).trips =
      update (fun id => (s.trips id).map TripSessionStatus.rejoin) id
        (some ⟨0, 0, 0, options.minDistance, options.minInterval⟩) := by
  funext j
  have hmap : ((s.saveTrip id options data).rejoinAll distance interval).trips j =
      ((s.saveTrip id options data).trips j).map TripSessionStatus.rejoin :=
    Std.TreeMap.getElem?_map
  rw [hmap, trips_saveTrip, update_apply, update_apply]
  split <;> rfl

section

variable (h : s.Ongoing) (hkey : key.id ∉ s.mTripSessions)
  (hrestarts : s.restartForTrip options .success s.engine.accumulatedDistance =
    some (distance, interval))
  (hkeeps : s.KeepsLeastJoin options)
include h hkey hrestarts hkeeps

theorem leastAt_rejoinAll :
    LeastAt ((s.saveTrip key.id options data).rejoinAll distance interval).trips (·.remaining 0)
      distance := by
  rw [KeepsLeastJoin, hrestarts, isSome_some, if_pos rfl] at hkeeps
  rw [trips_rejoinAll, (restartForTrip_eq_some hrestarts).1]
  split
  · rename_i hshorter
    have hothers : ∀ id status', (s.trips id).map TripSessionStatus.rejoin = some status' →
        TripSessionStatus.remaining ⟨0, 0, 0, options.minDistance, options.minInterval⟩ 0 ≤
          status'.remaining 0 := by
      intro id status' hstatus'
      obtain ⟨status, hstatus, rfl⟩ := map_eq_some_iff.mp hstatus'
      rw [remaining_rejoin, remaining_started]
      rcases hkeeps with ⟨hupToDate, hwithin⟩ | ⟨-, hrecorded⟩
      · rw [recorded_eq hupToDate hstatus]
        exact UInt32.le_trans (UInt32.le_of_lt hshorter)
          ((h.distance _ (UInt32.le_refl _) hwithin).le hstatus)
      · exact hrecorded id status hstatus
    have hleast := LeastAt.insert_least (f := fun status : TripSessionStatus => status.remaining 0)
      (i := key.id) hothers
    rw [remaining_started] at hleast
    exact hleast
  · rename_i hlonger
    obtain ⟨hupToDate, hwithin⟩ := hkeeps.resolve_right fun hleaves => hlonger hleaves.1
    have hnone : (fun id => (s.trips id).map TripSessionStatus.rejoin) key.id = none := by
      show (s.trips key.id).map TripSessionStatus.rejoin = none
      rw [trips_eq_none hkey]
      rfl
    have hothers : LeastAt (fun id => (s.trips id).map TripSessionStatus.rejoin) (·.remaining 0)
        (s.mOngoingTripDistance - s.engine.accumulatedDistance) := by
      rw [LeastAt.map_iff]
      refine (h.distance _ (UInt32.le_refl _) hwithin).congr fun id status hstatus => ?_
      rw [remaining_rejoin, recorded_eq hupToDate hstatus]
    refine hothers.insert_of_le hnone ?_
    rw [remaining_started]
    exact UInt32.not_lt.mp hlonger

theorem restarted_rejoinAll :
    (((s.saveTrip key.id options data).rejoinAll distance interval).callTrip distance interval
      (.joinedTrip key)).Restarted := by
  refine ⟨leastAt_rejoinAll h hkey hrestarts hkeeps, ?_, rfl, rfl⟩
  show LeastAt ((s.saveTrip key.id options data).rejoinAll distance interval).trips
    (·.tripTBFInterval) interval
  have hnone : (fun id => (s.trips id).map TripSessionStatus.rejoin) key.id = none := by
    show (s.trips key.id).map TripSessionStatus.rejoin = none
    rw [trips_eq_none hkey]
    rfl
  have hothers : LeastAt (fun id => (s.trips id).map TripSessionStatus.rejoin)
      TripSessionStatus.tripTBFInterval s.mOngoingTripTBFInterval :=
    (LeastAt.map_iff _).mpr h.interval
  rw [trips_rejoinAll, (restartForTrip_eq_some hrestarts).2]
  split
  · rename_i hshorter
    exact hothers.insert_of_lt hshorter
  · rename_i hlonger
    exact hothers.insert_of_le hnone (UInt32.not_lt.mp hlonger)

end

/-! ## Restarts for what the sessions have left -/

theorem remaining_restart (hupToDate : s.UpToDate accumulatedDistance)
    (hstatus : s.trips id = some status) :
    (status.restart accumulatedDistance).remaining 0 = status.recorded := by
  rw [recorded_eq hupToDate hstatus]
  simp only [TripSessionStatus.remaining, TripSessionStatus.restart, TripSessionStatus.accounted]
  grind

theorem restarted_restartTripsResponse
    (h : s.Awaits (.restartTrips accumulatedDistance distance interval)) :
    (s.restartTripsResponse accumulatedDistance distance interval .success).Restarted := by
  obtain ⟨hrecorded, hgiven⟩ := h
  have htrips : (s.restartTripsResponse accumulatedDistance distance interval .success).trips =
      fun id => (s.trips id).map fun status => status.restart accumulatedDistance := by
    funext id
    rw [restartTripsResponse, if_pos rfl]
    exact Std.TreeMap.getElem?_map
  rw [restartTripsResponse, if_pos rfl] at htrips ⊢
  constructor
  · rw [htrips, LeastAt.map_iff]
    exact hrecorded.distance.congr fun id status hstatus =>
      (remaining_restart hrecorded.upToDate hstatus).symm
  · rw [htrips, LeastAt.map_iff]
    exact hrecorded.interval
  · exact hgiven

theorem distanceForTrips_fst (minRemainingDistance accumulatedDistance : UInt32) :
    (s.distanceForTrips minRemainingDistance accumulatedDistance).1 =
      if (s.distanceForTrips minRemainingDistance accumulatedDistance).2 then minRemainingDistance
      else s.mOngoingTripDistance := by
  rw [distanceForTrips]
  split <;> split <;> rfl

theorem intervalForTrips_fst
    (hdropped : s.mOngoingTripTBFInterval = minTBFInterval ∨ s.mTripWithOngoingTBFDropped = true) :
    (s.intervalForTrips minTBFInterval).1 = minTBFInterval := by
  rw [intervalForTrips]
  split
  · rfl
  · rename_i hnot
    rcases hdropped with heq | hflag
    · exact heq
    · by_contra hne
      exact hnot (.inr ⟨Ne.symm hne, hflag⟩)

theorem intervalForTrips_fst_of_stays (h : (s.intervalForTrips minTBFInterval).2 ≠ true) :
    (s.intervalForTrips minTBFInterval).1 = s.mOngoingTripTBFInterval := by
  rw [intervalForTrips] at h ⊢
  split at h
  · exact absurd rfl h
  · rename_i hstays
    rw [if_neg hstays]

theorem restartForTrips_eq (minRemainingDistance minTBFInterval accumulatedDistance : UInt32) :
    s.restartForTrips minRemainingDistance minTBFInterval accumulatedDistance =
      if s.restartsForTrips minRemainingDistance minTBFInterval accumulatedDistance then
        s.callTrip (s.distanceForTrips minRemainingDistance accumulatedDistance).1
          (s.intervalForTrips minTBFInterval).1
          (.restartTrips accumulatedDistance
            (s.distanceForTrips minRemainingDistance accumulatedDistance).1
            (s.intervalForTrips minTBFInterval).1)
      else s := rfl

theorem Queried.restartForTrips
    (h : s.Queried minRemainingDistance minTBFInterval accumulatedDistance) :
    (∃ fn, (s.restartForTrips minRemainingDistance minTBFInterval
        accumulatedDistance).unanswered = s.unanswered ++ [fn] ∧
      (s.restartForTrips minRemainingDistance minTBFInterval accumulatedDistance).Awaits fn) ∨
      s.restartForTrips minRemainingDistance minTBFInterval accumulatedDistance = s ∧
        s.Ongoing ∧ s.engine.accumulatedDistance ≤ s.mOngoingTripDistance := by
  have hinterval := intervalForTrips_fst h.dropped
  have hdistance := h.distance
  rw [restartForTrips_eq]
  split at hdistance
  · rename_i hrestarts
    obtain ⟨hupToDate, hleast, htakes⟩ := hdistance
    have hfst : (s.distanceForTrips minRemainingDistance accumulatedDistance).1 =
        minRemainingDistance := by
      rw [distanceForTrips_fst]
      rcases htakes with htakes | heq
      · exact if_pos htakes
      · rw [← heq, ite_self]
    rw [if_pos hrestarts, hfst, hinterval]
    exact .inl ⟨_, rfl, ⟨hupToDate, hleast, h.interval⟩, rfl, rfl⟩
  · rename_i hnot
    obtain ⟨hwithin, hleast⟩ := hdistance
    rw [if_neg hnot]
    rw [restartsForTrips, Bool.or_eq_true, not_or] at hnot
    refine .inr ⟨rfl, ongoing_of_least hleast ?_ h.given, hwithin⟩
    rw [← intervalForTrips_fst_of_stays hnot.2, hinterval]
    exact h.interval

/-! ## One operation after the other -/

/-- All calls are answered, and what holds of the batch does; or there is one
call that is not. -/
def Serial (s : BatchingAdapter) (answered : Bool) : Prop :=
  (s.unanswered = [] ∧ s.Settled ∧ (answered = true → s.mTripSessions.size = 0 ∨
    s.engine.accumulatedDistance ≤ s.mOngoingTripDistance)) ∨
      ∃ fn, s.unanswered = [fn] ∧ s.Awaits fn

theorem Serial.minimal (h : s.Serial answered) (hanswered : answered = true)
    (hunanswered : s.unanswered = []) (hsome : s.mTripSessions.size ≠ 0) : s.Minimal := by
  rcases h with ⟨-, hsettled, hwithin⟩ | ⟨fn, hcall, -⟩
  · exact (hsettled.resolve_left hsome).minimal ((hwithin hanswered).resolve_left hsome)
  · rw [hunanswered] at hcall
    cases hcall

theorem Serial.settled (h : s.Serial answered) (hunanswered : s.unanswered = []) : s.Settled := by
  rcases h with ⟨-, hsettled, -⟩ | ⟨fn, hcall, -⟩
  · exact hsettled
  · rw [hunanswered] at hcall
    cases hcall

/-- The batch has only moved on. -/
structure Later (s t : BatchingAdapter) : Prop where
  sessions : t.mTripSessions = s.mTripSessions
  distance : t.mOngoingTripDistance = s.mOngoingTripDistance
  interval : t.mOngoingTripTBFInterval = s.mOngoingTripTBFInterval
  given : t.engine.tripDistance = s.engine.tripDistance ∧
    t.engine.tripTBFInterval = s.engine.tripTBFInterval
  counter : s.engine.accumulatedDistance ≤ t.engine.accumulatedDistance

section

variable (h : s.Later t)
include h

theorem Later.trips_eq : t.trips = s.trips := by
  funext id
  rw [trips, trips, h.sessions]

theorem Later.given_of (hs : s.Given) : t.Given := by
  rw [Given, h.given.1, h.given.2, h.distance, h.interval]
  exact hs

theorem Later.ongoing (hs : s.Ongoing) : t.Ongoing := by
  constructor
  · intro accumulatedDistance hle hwithin
    rw [h.distance] at hwithin
    rw [h.trips_eq, h.distance]
    exact hs.distance _ (UInt32.le_trans h.counter hle) hwithin
  · rw [h.trips_eq, h.interval]
    exact hs.interval
  · exact h.given_of hs.given

theorem Later.restarted (hs : s.Restarted) : t.Restarted := by
  constructor
  · rw [h.trips_eq, h.distance]
    exact hs.distance
  · rw [h.trips_eq, h.interval]
    exact hs.interval
  · exact h.given_of hs.given

theorem Later.settled (hs : s.Settled) : t.Settled := by
  rw [Settled, h.sessions]
  exact hs.imp_right h.ongoing

theorem Later.awaits (hs : s.Awaits fn) (hquery : fn.isQuery = true → t.Awaits fn) :
    t.Awaits fn := by
  cases fn with
  | startTrip key options =>
    refine ⟨fun id => ?_, h.given.1.trans hs.2.1, h.given.2.trans hs.2.2⟩
    rw [h.trips_eq]
    exact hs.1 id
  | joinTrip key options =>
    refine ⟨h.ongoing hs.1, ?_⟩
    rw [h.sessions]
    exact hs.2
  | joinedTrip key => exact h.restarted hs
  | stopTrip key restartNeeded batchOptions =>
    refine ⟨hs.1, ?_⟩
    rw [h.sessions]
    exact hs.2
  | stopLastTrip => exact (congrArg Std.TreeMap.size h.sessions).trans hs
  | stopBatching key flpOptions restartNeeded batchOptions => exact ⟨hs.1, h.settled hs.2⟩
  | queryTrips queryAccumulatedDistance minRemainingDistance minTBFInterval accDist =>
    exact hquery rfl
  | restartTrips accumulatedDistance distance interval =>
    obtain ⟨⟨hupToDate, hdistance, hinterval⟩, hgiven⟩ := hs
    rw [UpToDate, ← h.trips_eq] at hupToDate
    rw [← h.trips_eq] at hdistance hinterval
    exact ⟨⟨hupToDate, hdistance, hinterval⟩, h.given.1.trans hgiven.1, h.given.2.trans hgiven.2⟩
  | ignore => exact hs
  | startBatching key options pendingMsg => exact hs
  | restartSessions => exact hs

theorem Later.serial (hs : s.Serial answered) (hunanswered : t.unanswered = s.unanswered)
    (hquery : ∀ fn ∈ s.unanswered, fn.isQuery = true → s.Awaits fn → t.Awaits fn) :
    t.Serial false := by
  rw [Serial, hunanswered]
  rcases hs with ⟨hnone, hsettled, -⟩ | ⟨fn, hcall, hawaits⟩
  · exact .inl ⟨hnone, h.settled hsettled, fun hfalse => Bool.noConfusion hfalse⟩
  · refine .inr ⟨fn, hcall, h.awaits hawaits fun hfn => hquery fn ?_ hfn hawaits⟩
    rw [hcall]
    exact mem_singleton_self fn

end

/-! ### Commands -/

theorem serial_startTripBatchingMultiplex (h : s.Settled) (hunanswered : s.unanswered = [])
    (hkey : key.id ∉ s.mTripSessions) :
    (s.startTripBatchingMultiplex key options).Serial false := by
  rw [startTripBatchingMultiplex]
  split
  · rename_i hnone
    refine .inr ⟨.startTrip key options, ?_, awaits_startTrip hnone⟩
    rw [registerIfNone_eq]
    show s.unanswered ++ [_] = _
    rw [hunanswered]
    rfl
  · rename_i hsome
    have hongoing := h.resolve_left hsome
    refine .inr ⟨.joinTrip key options, ?_,
      ⟨hongoing.distance, hongoing.interval, hongoing.given⟩, hkey⟩
    rw [call, hunanswered]
    rfl

theorem serial_stopBatching (h : s.Settled) (hunanswered : s.unanswered = []) :
    (s.stopBatching key false options).Serial false := by
  rw [BatchingAdapter.stopBatching]
  split
  · exact .inl ⟨hunanswered, h, fun hfalse => Bool.noConfusion hfalse⟩
  · rename_i flpOptions hflp
    refine .inr ⟨.stopBatching key flpOptions false options, ?_, rfl, ?_⟩
    · show s.unanswered ++ [_] = _
      rw [hunanswered]
      rfl
    · exact h.imp_right fun hongoing => ⟨hongoing.distance, hongoing.interval, hongoing.given⟩

theorem serial_restartTripBatching (h : s.Ongoing) (hleaves : s.Leaves t)
    (hunanswered : t.unanswered = []) (hsome : t.mTripSessions.size ≠ 0)
    {queryAccumulatedDistance : Bool} {accDist : UInt32}
    (hkeeps : t.KeepsLeast
      (if queryAccumulatedDistance then t.engine.accumulatedDistance else accDist)) :
    (t.restartTripBatching queryAccumulatedDistance accDist).Serial false := by
  have hqueried := hleaves.queried h hsome hkeeps
  rw [restartTripBatching, if_neg hsome]
  refine .inr ⟨.queryTrips queryAccumulatedDistance t.recordMins.1 t.recordMins.2 accDist, ?_, ?_⟩
  · rw [call, hunanswered]
    rfl
  · exact ⟨hqueried.distance, hqueried.interval, hqueried.below, hqueried.dropped, hqueried.given⟩

section

variable (h : s.Settled) (hunanswered : s.unanswered = [])
include h hunanswered

theorem serial_stopTripBatchingMultiplex (hkey : key.id ∈ s.mTripSessions)
    (hkeeps : s.mTripSessions.size ≠ 1 →
      (s.dropTrip key.id).KeepsLeast s.engine.accumulatedDistance) :
    (s.stopTripBatchingMultiplex key false options).1.Serial false := by
  have hsome : s.mTripSessions.size ≠ 0 := fun hzero => (size_eq_zero_iff s).mp hzero _ hkey
  rw [stopTripBatchingMultiplex]
  split
  · rename_i hone
    refine .inr ⟨.stopTrip key false options, ?_, rfl, eq_of_size_eq_one hone hkey⟩
    show s.unanswered ++ [_] = _
    rw [hunanswered]
    rfl
  · rename_i hsize
    obtain ⟨id, hid⟩ := dropped_other (exists_other ⟨_, hkey⟩ hsize key.id)
    have hleft : (s.dropTrip key.id).mTripSessions.size ≠ 0 :=
      fun hzero => (size_eq_zero_iff _).mp hzero id hid
    show ((s.dropTrip key.id).restartRemaining).Serial false
    rw [restartRemaining, if_neg hleft]
    exact serial_restartTripBatching (h.resolve_left hsome) (leaves_dropTrip key.id) hunanswered
      hleft (hkeeps hsize)

theorem serial_proc {msg : BatchingMsg} (hpre : TripsOnly s (.proc msg))
    (hkeeps : KeepsMinima s (.proc msg)) : (s.proc msg).1.Serial false := by
  have hparked : ∀ msgs, { s with mPendingMsgs := msgs }.Serial false := fun _ =>
    .inl ⟨hunanswered, h.imp_right fun hongoing =>
      ⟨hongoing.distance, hongoing.interval, hongoing.given⟩, fun hfalse => Bool.noConfusion hfalse⟩
  have hsame : s.Serial false := .inl ⟨hunanswered, h, fun hfalse => Bool.noConfusion hfalse⟩
  cases msg with
  | startBatching key options =>
    obtain ⟨hmode, hkey⟩ := hpre
    rw [proc, procStartBatching]
    split
    · exact hparked _
    · split
      · rw [hmode]
        exact serial_startTripBatchingMultiplex h hunanswered hkey
      · exact hsame
  | updateBatching key options => exact hpre.elim
  | stopBatching key =>
    rw [proc, procStopBatching]
    split
    · exact hparked _
    · rename_i hknown
      split
      · rename_i hbatching
        split
        · rename_i htrip
          refine serial_stopTripBatchingMultiplex h hunanswered (mem_of_isTripSession htrip) ?_
          exact fun hsize =>
            hkeeps.2 ⟨Bool.of_not_eq_false hknown, hbatching, htrip, hsize⟩
        · exact serial_stopBatching h hunanswered
      · exact hsame

theorem serial_reportCompletedTrips
    (hkeeps : (s.completedTrips accumulatedDistance).isEmpty = false →
      (s.countTrips accumulatedDistance).mTripSessions.size ≠ 0 →
        (s.countTrips accumulatedDistance).KeepsLeast accumulatedDistance) :
    (s.reportCompletedTrips accumulatedDistance).1.Serial false := by
  have hnone : s.mTripSessions.size = 0 →
      (s.countTrips accumulatedDistance).mTripSessions.size = 0 := by
    intro hzero
    refine (size_eq_zero_iff _).mpr fun id hid => ?_
    rw [Std.TreeMap.mem_iff_isSome_getElem?] at hid
    have hcounted : (s.countTrips accumulatedDistance).trips id = _ := trips_countTrips id
    rw [trips_eq_none ((size_eq_zero_iff _).mp hzero id)] at hcounted
    rw [show (s.countTrips accumulatedDistance).mTripSessions[id]? = none from hcounted] at hid
    cases hid
  rw [reportCompletedTrips]
  split
  · rename_i hempty
    exact .inl ⟨hunanswered, h.imp hnone fun hongoing => ongoing_countTrips hongoing hempty,
      fun hfalse => Bool.noConfusion hfalse⟩
  · rename_i hcompleted
    by_cases hsome : (s.countTrips accumulatedDistance).mTripSessions.size = 0
    · show ((s.countTrips accumulatedDistance).restartTripBatching false _).Serial false
      rw [restartTripBatching, if_pos hsome, unregisterIfNone_eq]
      refine .inr ⟨.stopLastTrip, ?_, hsome⟩
      show s.unanswered ++ [_] = _
      rw [hunanswered]
      rfl
    · have hongoing := h.resolve_left fun hzero => hsome (hnone hzero)
      exact serial_restartTripBatching hongoing (leaves_countTrips _) hunanswered hsome
        (hkeeps (Bool.of_not_eq_true hcompleted) hsome)

end

/-! ### Answers -/

theorem serial_answered (h : s.Ongoing) (hunanswered : s.unanswered = [])
    (hwithin : s.engine.accumulatedDistance ≤ s.mOngoingTripDistance) (answered : Bool) :
    s.Serial answered :=
  .inl ⟨hunanswered, .inr h, fun _ => .inr hwithin⟩

theorem serial_restarted (h : s.Restarted) (hunanswered : s.unanswered = [])
    (hcounter : s.engine.accumulatedDistance = 0) (answered : Bool) : s.Serial answered := by
  refine serial_answered h.ongoing hunanswered ?_ answered
  rw [hcounter]
  exact UInt32.zero_le

section

variable (hunanswered : s.unanswered = [])
include hunanswered

theorem serial_last (h : s.mTripSessions.size = 0) (answered : Bool) : s.Serial answered :=
  .inl ⟨hunanswered, .inl h, fun _ => .inl h⟩

theorem serial_startTripResponse (h : s.Awaits (.startTrip key options))
    (hcounter : s.engine.accumulatedDistance = 0) (answered : Bool) :
    (s.startTripResponse key options .success).1.Serial answered := by
  have hrestarted := restarted_startTripResponse h
  rw [startTripResponse, if_pos (.inr rfl)] at hrestarted ⊢
  exact serial_restarted hrestarted hunanswered hcounter answered

theorem serial_joinTripResponse (h : s.Ongoing) (hkey : key.id ∉ s.mTripSessions)
    (hkeeps : s.KeepsLeastJoin options) (answered : Bool) :
    (s.joinTripResponse key options .success s.engine.accumulatedDistance).1.Serial answered := by
  rw [joinTripResponse, if_pos rfl]
  cases hrestarts : s.restartForTrip options .success s.engine.accumulatedDistance with
  | none =>
    rw [KeepsLeastJoin, hrestarts] at hkeeps
    obtain ⟨hdistance, hinterval⟩ := restartForTrip_eq_none hrestarts
    have hsaved := ongoing_saveTrip h hkey hkeeps hdistance hinterval
    exact serial_answered hsaved hunanswered hkeeps answered
  | some least =>
    refine .inr ⟨.joinedTrip key, ?_, restarted_rejoinAll h hkey hrestarts hkeeps⟩
    show s.unanswered ++ [_] = _
    rw [hunanswered]
    rfl

theorem serial_stopTripResponse (hlast : ∀ id ∈ s.mTripSessions, id = key.id)
    (err : LocationError) (answered : Bool) :
    (s.stopTripResponse key false options err).1.Serial answered := by
  have hcommon : ∀ t : BatchingAdapter, t.unanswered = [] → (∀ id ∈ t.mTripSessions, id = key.id) →
        (t.stopTripBatchingMultiplexCommon err key false options).1.Serial answered := by
    intro t hunanswered hlast
    show ((t.dropTrip key.id).restartRemaining).Serial answered
    rw [restartRemaining_last hlast]
    exact .inl ⟨hunanswered, .inl (size_dropTrip_last hlast), fun _ =>
      .inl (size_dropTrip_last hlast)⟩
  rw [stopTripResponse]
  split
  · exact hcommon _ hunanswered hlast
  · exact hcommon _ hunanswered hlast

theorem serial_restartForTrips
    (h : s.Queried minRemainingDistance minTBFInterval accumulatedDistance) (answered : Bool) :
    (s.restartForTrips minRemainingDistance minTBFInterval accumulatedDistance).Serial
      answered := by
  rcases h.restartForTrips with ⟨fn, hcall, hawaits⟩ | ⟨heq, hongoing, hwithin⟩
  · refine .inr ⟨fn, ?_, hawaits⟩
    rw [hunanswered] at hcall
    exact hcall
  · rw [heq]
    exact serial_answered hongoing hunanswered hwithin answered

theorem serial_restartTripsResponse
    (h : s.Awaits (.restartTrips accumulatedDistance distance interval))
    (hcounter : s.engine.accumulatedDistance = 0) (answered : Bool) :
    (s.restartTripsResponse accumulatedDistance distance interval .success).Serial answered := by
  have hrestarted := restarted_restartTripsResponse h
  rw [restartTripsResponse, if_pos rfl] at hrestarted ⊢
  exact serial_restarted hrestarted hunanswered hcounter answered

theorem serial_stopBatchingResponse (h : s.Settled) (flpOptions : BatchingOptions) :
    (s.stopBatchingResponse key flpOptions false options .success).1.Serial false := by
  rw [stopBatchingResponse, if_neg fun hfails => hfails.2 rfl]
  split
  · show s.unregisterIfNone.Serial false
    rw [unregisterIfNone_eq]
    exact .inl ⟨hunanswered, h.imp_right fun hongoing =>
      ⟨hongoing.distance, hongoing.interval, hongoing.given⟩, fun hfalse => Bool.noConfusion hfalse⟩
  · exact .inl ⟨hunanswered, h, fun hfalse => Bool.noConfusion hfalse⟩

end

theorem serial_respond (hunanswered : s.unanswered = [fn]) (h : s.Awaits fn)
    (hkeeps : ∀ key options, fn = .joinTrip key options → s.KeepsLeastJoin options) :
    ((s.answered 0 fn .success).respond fn .success s.engine.accumulatedDistance).1.Serial
      fn.isTrip := by
  have hnone : (s.answered 0 fn .success).unanswered = [] := by
    rw [answered, hunanswered]
    rfl
  cases fn with
  | startTrip key options =>
    exact serial_startTripResponse (s := s.answered 0 (.startTrip key options) .success) hnone h
      rfl true
  | joinTrip key options =>
    obtain ⟨hongoing, hkey⟩ := h
    exact serial_joinTripResponse (s := s.answered 0 (.joinTrip key options) .success) hnone
      ⟨hongoing.distance, hongoing.interval, hongoing.given⟩ hkey (hkeeps key options rfl) true
  | joinedTrip key =>
    exact serial_restarted (s := s.answered 0 (.joinedTrip key) .success)
      ⟨h.distance, h.interval, h.given⟩ hnone rfl true
  | stopTrip key restartNeeded batchOptions =>
    obtain ⟨rfl, hlast⟩ := h
    exact serial_stopTripResponse (s := s.answered 0 (.stopTrip key false batchOptions) .success)
      hnone hlast .success true
  | stopLastTrip => exact serial_last hnone h true
  | stopBatching key flpOptions restartNeeded batchOptions =>
    obtain ⟨rfl, hsettled⟩ := h
    exact serial_stopBatchingResponse hnone
      (hsettled.imp_right fun hongoing => ⟨hongoing.distance, hongoing.interval, hongoing.given⟩)
      flpOptions
  | queryTrips queryAccumulatedDistance minRemainingDistance minTBFInterval accDist =>
    exact serial_restartForTrips (s := s.answered 0 (.queryTrips queryAccumulatedDistance
      minRemainingDistance minTBFInterval accDist) .success) hnone
      ⟨h.distance, h.interval, h.below, h.dropped, h.given⟩ true
  | restartTrips accumulatedDistance distance interval =>
    obtain ⟨⟨hupToDate, hdistance, hinterval⟩, hgiven⟩ := h
    exact serial_restartTripsResponse
      (s := s.answered 0 (.restartTrips accumulatedDistance distance interval) .success) hnone
      ⟨⟨hupToDate, hdistance, hinterval⟩, hgiven⟩ rfl true
  | ignore => exact h.elim
  | startBatching key options pendingMsg => exact h.elim
  | restartSessions => exact h.elim

end BatchingAdapter

/-! ## The runs that keep the values of the batch the smallest -/

variable {s : BatchingAdapter} {e : BatchingEvent} {answered : Bool}

theorem serial_moved (h : s.Serial answered) {distance : UInt32}
    (hkeeps : KeepsMinima s (.moved distance)) : (step s (.moved distance)).1.Serial false := by
  obtain ⟨hquery, hcounter⟩ := hkeeps
  have hlater : s.Later (step s (.moved distance)).1 := by
    show s.Later { s with engine := s.engine.move distance }
    rw [TripBatch.move]
    split
    · exact ⟨rfl, rfl, rfl, ⟨rfl, rfl⟩, hcounter⟩
    · exact ⟨rfl, rfl, rfl, ⟨rfl, rfl⟩, UInt32.le_refl _⟩
  refine hlater.serial h rfl fun fn hfn hisQuery => ?_
  rw [List.any_eq_false] at hquery
  exact absurd hisQuery (hquery fn hfn)

theorem serial_step (h : s.Serial answered) (hpre : TripsOnly s e) (hkeeps : KeepsMinima s e) :
    (step s e).1.Serial (WatchedBatch.answeredBy s e) := by
  cases e with
  | addClient client callbacks =>
    refine Later.serial (s := s) (t := (step s (.addClient client callbacks)).1)
      ⟨rfl, rfl, rfl, ⟨rfl, rfl⟩, UInt32.le_refl _⟩ h rfl ?_
    rintro fn - hfn hawaits
    cases fn with
    | queryTrips queryAccumulatedDistance minRemainingDistance minTBFInterval accDist =>
      exact ⟨hawaits.distance, hawaits.interval, hawaits.below, hawaits.dropped, hawaits.given⟩
    | _ => cases hfn
  | proc msg =>
    have hunanswered : s.unanswered = [] := by
      cases msg with
      | startBatching key options => exact hkeeps
      | updateBatching key options => exact hkeeps
      | stopBatching key => exact hkeeps.1
    exact serial_proc (h.settled hunanswered) hunanswered hpre hkeeps
  | reportCompletedTrips accumulatedDistance =>
    exact serial_reportCompletedTrips (h.settled hkeeps.1) hkeeps.1 hkeeps.2
  | response n err data =>
    cases hpre
    rw [WatchedBatch.answeredBy, step]
    rcases h with ⟨hunanswered, hsettled, -⟩ | ⟨fn, hunanswered, hawaits⟩
    · rw [hunanswered, List.getElem?_nil]
      exact .inl ⟨hunanswered, hsettled, fun hfalse => Bool.noConfusion hfalse⟩
    · rw [KeepsMinima, hunanswered] at hkeeps
      rw [hunanswered]
      cases n with
      | zero =>
        refine serial_respond hunanswered hawaits fun key options hfn => ?_
        exact hkeeps key options (congrArg some hfn)
      | succ n => exact .inr ⟨fn, hunanswered, hawaits⟩
  | moved distance => exact serial_moved h hkeeps
  | removeClient client => exact hpre.elim
  | engineLockState state => exact hpre.elim
  | handleEngineUpEvent => exact hpre.elim

theorem BatchingAdapter.Idle.serial (h : s.Idle) (answered : Bool) : s.Serial answered := by
  refine serial_last h.unanswered ?_ answered
  rw [h.mTripSessions]
  rfl

namespace WatchedBatch

/-- In a run of starts, stops and completions in which each step keeps the
values of the batch the smallest, they are so after each of them. -/
theorem minimized_of_stepsMeet (hs : s.Idle) (es : List BatchingEvent)
    (hpre : StepsMeet watched (fun w e => TripsOnly w.adapter e) ⟨s, false⟩ es)
    (hkeeps : StepsMeet watched (fun w e => KeepsMinima w.adapter e) ⟨s, false⟩ es) :
    StatesMeet watched Minimized ⟨s, false⟩ es := by
  have hrun : StatesMeet watched (fun w => w.adapter.Serial w.answered) ⟨s, false⟩ es :=
    statesMeet_of_stepsMeet (fun _ _ h hok => serial_step h hok.1 hok.2) (hs.serial false)
      (hpre.and hkeeps)
  exact hrun.mono fun _ h hanswered hunanswered hsome => h.minimal hanswered hunanswered hsome

/-- A longer trip joins the first one after 300 m. -/
def joinedLongTrip : List BatchingEvent :=
  [.addClient 7 ⟨true, true, true⟩, .proc (.startBatching ⟨7, 1⟩ tripOptions),
    .response 0 .success 0, .moved 300, .proc (.startBatching ⟨7, 2⟩ WatchedTrips.longTrip),
    .response 0 .success 0]

theorem minimized_joinedLongTrip : StatesMeet watched Minimized new joinedLongTrip := by
  refine minimized_of_stepsMeet idle_new joinedLongTrip ?_ ?_
  · exact ⟨trivial, ⟨rfl, by decide⟩, rfl, trivial, ⟨rfl, by decide⟩, rfl, trivial⟩
  · refine ⟨trivial, rfl, ?_, ⟨rfl, by decide⟩, rfl, ?_, trivial⟩
    · rintro key options ⟨⟩
    · rintro key options ⟨⟩
      rw [KeepsLeastJoin, if_neg (by decide)]
      decide

/-- The first trip is stopped after the batch was restarted for another one. -/
def stoppedFirst : List BatchingEvent :=
  WatchedTrips.restartedForTrip ++ [.proc (.stopBatching ⟨7, 1⟩), .response 0 .success 0]

/-- The batch is left with the 700 m of the first trip, and the one that goes
on has 5000 m left. -/
theorem minimized_fails : ¬ StatesMeet watched Minimized new stoppedFirst := by
  intro h
  have hlast : (after watched new stoppedFirst).Minimized := h.last
  have hminimal := hlast rfl rfl (by decide)
  obtain ⟨hleast, -⟩ := hminimal.distance
  have hmem := mem_statuses.mpr hleast
  revert hmem
  decide

end WatchedBatch

end LocStack.Batching
