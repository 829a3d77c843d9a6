/-
# `LocStack.Batching.Distance` — the distance of a trip session

What is accounted to a trip session is what it had covered before the batch
was last restarted, and what the counter of the batch has counted since the
session joined it.  The vehicle covers a distance of its own: `travelled` has
it, for each session from its start on.

The batch may be restarted while the sessions go on, and its counter is then
at 0 again, so that each session has to be rebased at that.  A restart for a
changed minimum does so (`restart`), as of the value of the counter that the
query returned; a restart for a new trip (`rejoin`), or of the modem, does
not.  `KeepsAccounts` has the steps that lose no distance by that, and
`SubtractsLess` those none of whose subtractions underflows; `conserved_iff`
says that they are all there are.
-/
import Mathlib.Data.UInt
import LocStack.Base.Odometer
import LocStack.Batching.Sessions

namespace LocStack.Batching

open Base Function Option
open Tracking (LocationError LocationSessionKey)

namespace TripSessionStatus

/-- What is accounted to the session at this value of the counter. -/
def accounted (status : TripSessionStatus) (accumulatedDistance : UInt32) : UInt32 :=
  status.accumulatedDistanceOnTripRestart +
    (accumulatedDistance - status.accumulatedDistanceOngoingBatch)

/-- The session reads the counter of the batch. -/
def reader (status : TripSessionStatus) : Reader UInt32 where
  offset := status.accumulatedDistanceOngoingBatch
  base := status.accumulatedDistanceOnTripRestart

end TripSessionStatus

namespace BatchingAdapter

/-- To each session is accounted what it has travelled. -/
def Accounted (travelled : Nat → UInt32) (s : BatchingAdapter) : Prop :=
  ∀ (id : Nat) status, s.mTripSessions[id]? = some status →
    status.accounted s.engine.accumulatedDistance = travelled id

/-! ## The sessions that start -/

/-- `startTripBatchingMultiplex` starts the session at once. -/
def startsTrip (s : BatchingAdapter) (key : LocationSessionKey) : Option Nat :=
  if s.mTripSessions.size = 0 then some key.id else none

def restartStarts (s : BatchingAdapter) (key : LocationSessionKey) (options : BatchingOptions) :
    Option Nat :=
  if options.batchingMode = .trip then s.startsTrip key else none

/-- After the trip itself is dropped. -/
def stopStarts (s : BatchingAdapter) (key : LocationSessionKey) (restartNeeded : Bool)
    (batchOptions : BatchingOptions) : Option Nat :=
  if restartNeeded then (s.dropTrip key.id).restartStarts key batchOptions else none

/-- A command stops a trip beside others, or one that is not there. -/
def StopsBeside (s : BatchingAdapter) (key : LocationSessionKey) : Prop :=
  s.engineCapabilitiesKnown = true ∧ s.isBatchingSession key = true ∧
    s.isTripSession key.id = true ∧ s.mTripSessions.size ≠ 1
  deriving Decidable

/-- A start command that is not turned down. -/
def Accepts (s : BatchingAdapter) (key : LocationSessionKey) (options : BatchingOptions) : Prop :=
  s.engineCapabilitiesKnown = true ∧ s.hasBatchingCallback key.client = true ∧
    options.size ≠ 0 ∧ s.isMessageSupported = true
  deriving Decidable

/-- Likewise an update. -/
def AcceptsUpdate (options : BatchingOptions) : Prop :=
  options.size ≠ 0 ∧ options.batchingMode ≠ .other
  deriving Decidable

def startedByMsg (s : BatchingAdapter) : BatchingMsg → Option Nat
  | .startBatching key options =>
    if s.Accepts key options then s.restartStarts key options else none
  | .updateBatching key options =>
    if AcceptsUpdate options ∧ s.StopsBeside key then s.stopStarts key true options else none
  | .stopBatching _ => none

def startedByResponse (s : BatchingAdapter) (fn : ResponseFn) (err : LocationError) : Option Nat :=
  match fn with
  | .stopBatching key _ restartNeeded batchOptions =>
    if ¬ (s.engineLockState = .enabled ∧ err ≠ .success) ∧ restartNeeded = true then
      s.restartStarts key batchOptions
    else none
  | .joinTrip key _ => if err = .success then some key.id else none
  | .stopTrip key restartNeeded batchOptions => s.stopStarts key restartNeeded batchOptions
  | _ => none

end BatchingAdapter

/-- The trip session that starts with a step. -/
def startedBy (s : BatchingAdapter) : BatchingEvent → Option Nat
  | .proc msg => s.startedByMsg msg
  | .response n err _ => s.unanswered[n]?.bind fun fn => s.startedByResponse fn err
  | _ => none

/-! ## The subtractions -/

namespace BatchingAdapter

/-- Of the remaining distances, as pairs of what is subtracted from and what
is subtracted. -/
def remainingSubtractions (s : BatchingAdapter) : List (UInt32 × UInt32) :=
  s.mTripSessions.toList.map fun session =>
    (session.2.tripDistance, session.2.accumulatedDistanceThisTrip)

/-- Of what the sessions have covered in this batch. -/
def batchSubtractions (s : BatchingAdapter) (accumulatedDistance : UInt32) :
    List (UInt32 × UInt32) :=
  s.mTripSessions.toList.map fun session =>
    (accumulatedDistance, session.2.accumulatedDistanceOngoingBatch)

def completedSubtractions (s : BatchingAdapter) (accumulatedDistance : UInt32) :
    List (UInt32 × UInt32) :=
  s.batchSubtractions accumulatedDistance ++
    if (s.completedTrips accumulatedDistance).isEmpty then []
    else (s.countTrips accumulatedDistance).remainingSubtractions

def msgSubtractions (s : BatchingAdapter) : BatchingMsg → List (UInt32 × UInt32)
  | .startBatching _ _ => []
  | .updateBatching key options =>
    if AcceptsUpdate options ∧ s.StopsBeside key then
      (s.dropTrip key.id).remainingSubtractions
    else []
  | .stopBatching key =>
    if s.StopsBeside key then (s.dropTrip key.id).remainingSubtractions else []

/-- `data` is what a query returns. -/
def responseSubtractions (s : BatchingAdapter) (fn : ResponseFn) (err : LocationError)
    (data : UInt32) : List (UInt32 × UInt32) :=
  match fn with
  | .joinTrip _ _ => if err = .success then [(s.mOngoingTripDistance, data)] else []
  | .stopTrip key _ _ => (s.dropTrip key.id).remainingSubtractions
  | .queryTrips queryAccumulatedDistance _ _ accDist =>
    if s.mTripWithOngoingTripDistanceDropped then []
    else [(s.mOngoingTripDistance, if queryAccumulatedDistance then data else accDist)]
  | .restartTrips accumulatedDistance _ _ =>
    if err = .success then s.batchSubtractions accumulatedDistance else []
  | _ => []

end BatchingAdapter

/-- The subtractions that a step computes the distances of the trips with. -/
def subtractions (s : BatchingAdapter) : BatchingEvent → List (UInt32 × UInt32)
  | .proc msg => s.msgSubtractions msg
  | .reportCompletedTrips accumulatedDistance => s.completedSubtractions accumulatedDistance
  | .handleEngineUpEvent => if s.engineLockState = .enabled then s.remainingSubtractions else []
  | .response n err data =>
    match s.unanswered[n]? with
    | none => []
    | some fn => s.responseSubtractions fn err (s.queried err data)
  | _ => []

/-! ## The vehicle beside the adapter -/

structure WatchedTrips where
  adapter : BatchingAdapter
  /-- What the vehicle has travelled since a session started, by its id. -/
  travelled : Nat → UInt32
  /-- A subtraction has underflowed. -/
  underflowed : Bool

namespace WatchedTrips

def new : WatchedTrips := ⟨.new, fun _ => 0, false⟩

/-- What is travelled from the start of a session on. -/
def restarted (travelled : Nat → UInt32) : Option Nat → Nat → UInt32
  | none => travelled
  | some id => update travelled id 0

def travelledBy (w : WatchedTrips) : BatchingEvent → Nat → UInt32
  | .moved distance => fun id => w.travelled id + distance
  | e => restarted w.travelled (startedBy w.adapter e)

def next (w : WatchedTrips) (e : BatchingEvent) : WatchedTrips where
  adapter := (step w.adapter e).1
  travelled := w.travelledBy e
  underflowed := w.underflowed || (subtractions w.adapter e).any fun p => p.1 < p.2

def watched (w : WatchedTrips) (e : BatchingEvent) : WatchedTrips × List Output :=
  (w.next e, (step w.adapter e).2)

/-- To each session is accounted what it has travelled, and no subtraction
has underflowed. -/
def Conserved (w : WatchedTrips) : Prop :=
  w.adapter.Accounted w.travelled ∧ w.underflowed = false

end WatchedTrips

open WatchedTrips (restarted)

namespace BatchingAdapter

/-! ## The conditions -/

/-- The answer leaves the counter where it was, or no trip is there to read
it. -/
def KeepsCounter (s : BatchingAdapter) (fn : ResponseFn) (err : LocationError) : Prop :=
  s.mTripSessions.size = 0 ∨
    (s.engine.answer fn err).accumulatedDistance = s.engine.accumulatedDistance

/-- A trip that joins restarts the batch: it does so at 0, and the other
sessions are found to have covered what is accounted to them. -/
def KeepsAccountsJoin (s : BatchingAdapter) (key : LocationSessionKey) (err : LocationError) :
    Prop :=
  (err = .success → s.engine.accumulatedDistance = 0) ∧
    ∀ (id : Nat) status, s.mTripSessions[id]? = some status → (err = .success → id ≠ key.id) →
        status.accumulatedDistanceThisTrip + s.engine.accumulatedDistance =
          status.accounted s.engine.accumulatedDistance

/-- An answer that loses no distance.  A counter that is set back is read by
no session, or is at 0 already, or was at the value that the sessions are
rebased at; and a session that starts at once starts with the counter at 0. -/
def KeepsAccountsResponse (s : BatchingAdapter) (fn : ResponseFn) (err : LocationError)
    (data : UInt32) : Prop :=
  match fn with
  | .stopBatching _ _ _ _ =>
    (s.startedByResponse fn err).isSome → s.engine.accumulatedDistance = 0
  | .joinTrip key options =>
    (s.restartForTrip options err data).isSome → s.KeepsAccountsJoin key err
  | .stopTrip key _ _ =>
    (s.dropTrip key.id).KeepsCounter fn err ∧ ((s.startedByResponse fn err).isSome →
        (s.engine.answer fn err).accumulatedDistance = 0)
  | .restartTrips accumulatedDistance _ _ =>
    if err = .success then
      s.mTripSessions.size = 0 ∨ accumulatedDistance = s.engine.accumulatedDistance
    else s.KeepsCounter fn err
  | fn => s.KeepsCounter fn err

end BatchingAdapter

open BatchingAdapter

/-- The steps that lose no distance. -/
def KeepsAccounts (s : BatchingAdapter) : BatchingEvent → Prop
  | .proc msg => (s.startedByMsg msg).isSome → s.engine.accumulatedDistance = 0
  | .handleEngineUpEvent => s.mTripSessions.size = 0 ∨ s.engine.accumulatedDistance = 0
  | .response n err data =>
    ∀ fn, s.unanswered[n]? = some fn → s.KeepsAccountsResponse fn err (s.queried err data)
  | .moved distance => s.engine.running = true ∨ s.mTripSessions.size = 0 ∨ distance = 0
  | _ => True

namespace BatchingAdapter

/-- No session was found to have covered more than its distance. -/
def Within (s : BatchingAdapter) : Prop :=
  ∀ (id : Nat) status, s.mTripSessions[id]? = some status →
    status.accumulatedDistanceThisTrip ≤ status.tripDistance

/-- No session has joined the batch later than at this value of the counter. -/
def JoinedBy (s : BatchingAdapter) (accumulatedDistance : UInt32) : Prop :=
  ∀ (id : Nat) status, s.mTripSessions[id]? = some status →
    status.accumulatedDistanceOngoingBatch ≤ accumulatedDistance

/-- An answer with which nothing underflows: the batch has not covered more
than its distance, nor a session that is left. -/
def SubtractsLessResponse (s : BatchingAdapter) (fn : ResponseFn) (err : LocationError)
    (data : UInt32) : Prop :=
  match fn with
  | .joinTrip _ _ => err = .success → data ≤ s.mOngoingTripDistance
  | .stopTrip key _ _ => (s.dropTrip key.id).Within
  | .queryTrips queryAccumulatedDistance _ _ accDist =>
    s.mTripWithOngoingTripDistanceDropped = false →
      (if queryAccumulatedDistance then data else accDist) ≤ s.mOngoingTripDistance
  | .restartTrips accumulatedDistance _ _ => err = .success → s.JoinedBy accumulatedDistance
  | _ => True

end BatchingAdapter

/-- The steps in which nothing underflows. -/
def SubtractsLess (s : BatchingAdapter) : BatchingEvent → Prop
  | .proc (.updateBatching key options) =>
    AcceptsUpdate options → s.StopsBeside key → (s.dropTrip key.id).Within
  | .proc (.stopBatching key) => s.StopsBeside key → (s.dropTrip key.id).Within
  | .reportCompletedTrips accumulatedDistance => s.JoinedBy accumulatedDistance
  | .handleEngineUpEvent => s.engineLockState = .enabled → s.Within
  | .response n err data =>
    ∀ fn, s.unanswered[n]? = some fn → s.SubtractsLessResponse fn err (s.queried err data)
  | _ => True

namespace BatchingAdapter

variable {s t : BatchingAdapter} {travelled : Nat → UInt32} {key : LocationSessionKey}
  {options batchOptions flpOptions : BatchingOptions} {fn : ResponseFn} {err : LocationError}
  {restartNeeded : Bool} {pendingMsg : Option BatchingMsg} {distance interval data : UInt32}

/-! ## The readers of the counter -/

def readers (s : BatchingAdapter) (id : Nat) : Option (Reader UInt32) :=
  s.mTripSessions[id]?.map TripSessionStatus.reader

theorem accounted_iff_agree :
    s.Accounted travelled ↔ Agree s.readers s.engine.accumulatedDistance travelled := by
  constructor
  · intro h id r hr
    obtain ⟨status, hstatus, rfl⟩ := map_eq_some_iff.mp hr
    exact h id status hstatus
  · intro h id status hstatus
    exact h id status.reader (map_eq_some_iff.mpr ⟨status, hstatus, rfl⟩)

theorem readers_eq_none_iff : (∀ id, s.readers id = none) ↔ s.mTripSessions.size = 0 := by
  rw [size_eq_zero_iff]
  refine forall_congr' fun id => ?_
  rw [readers, map_eq_none_iff, Std.TreeMap.mem_iff_isSome_getElem?, not_isSome_iff_eq_none]

theorem readers_insert (id : Nat) (status : TripSessionStatus) :
    { s with mTripSessions := s.mTripSessions.insert id status }.readers =
      update s.readers id (some status.reader) := by
  funext j
  rw [readers, Std.TreeMap.getElem?_insert, update_apply]
  simp only [Std.compare_eq_iff_eq, eq_comm (a := id)]
  split <;> rfl

theorem readers_map (f : TripSessionStatus → TripSessionStatus) (id : Nat) :
    { s with mTripSessions := s.mTripSessions.map fun _ status => f status }.readers id =
      s.mTripSessions[id]?.map fun status => (f status).reader := by
  rw [readers, Std.TreeMap.getElem?_map, map_map]
  rfl

/-! ## Steps that leave the trips and the counter -/

structure SameDistances (s t : BatchingAdapter) : Prop where
  trips : t.mTripSessions = s.mTripSessions
  counter : t.engine.accumulatedDistance = s.engine.accumulatedDistance

theorem SameDistances.accounted_congr (h : s.SameDistances t) :
    t.Accounted travelled ↔ s.Accounted travelled := by
  rw [Accounted, Accounted, h.trips, h.counter]

theorem SameDistances.startsTrip_eq (h : s.SameDistances t) :
    t.startsTrip key = s.startsTrip key := by
  rw [startsTrip, startsTrip, h.trips]

theorem SameDistances.trans {u : BatchingAdapter} (h : s.SameDistances t)
    (h' : t.SameDistances u) : s.SameDistances u :=
  ⟨h'.trips.trans h.trips, h'.counter.trans h.counter⟩

theorem sameDistances_startBatching :
    s.SameDistances (s.startBatching key options pendingMsg) := by
  rw [startBatching, registerIfNone_eq]
  split <;> exact ⟨rfl, rfl⟩

theorem sameDistances_stopBatching :
    s.SameDistances (s.stopBatching key restartNeeded batchOptions) := by
  rw [stopBatching]
  split <;> exact ⟨rfl, rfl⟩

theorem sameDistances_restartTripBatching (queryAccumulatedDistance : Bool) (accDist : UInt32) :
    s.SameDistances (s.restartTripBatching queryAccumulatedDistance accDist) := by
  rw [restartTripBatching, unregisterIfNone_eq]
  split <;> exact ⟨rfl, rfl⟩

theorem sameDistances_restartForTrips
    (minRemainingDistance minTBFInterval accumulatedDistance : UInt32) :
    s.SameDistances
      (s.restartForTrips minRemainingDistance minTBFInterval accumulatedDistance) := by
  rw [restartForTrips]
  split <;> exact ⟨rfl, rfl⟩

theorem sameDistances_restartRemaining : s.SameDistances s.restartRemaining := by
  rw [restartRemaining]
  split
  · exact ⟨rfl, rfl⟩
  · exact sameDistances_restartTripBatching ..

theorem sameDistances_restartSessions : s.SameDistances s.restartSessions := by
  rw [restartSessions, restartTrips]
  split <;> split <;> exact ⟨rfl, rfl⟩

/-! ## Starting and stopping -/

theorem accounted_startTripBatchingMultiplex :
    (s.startTripBatchingMultiplex key options).Accounted (restarted travelled (s.startsTrip key)) ↔
      s.Accounted travelled ∧
        ((s.startsTrip key).isSome → s.engine.accumulatedDistance = 0) := by
  rw [startTripBatchingMultiplex, startsTrip]
  split
  · rename_i hsize
    have hnone := readers_eq_none_iff.mpr hsize
    have hreaders : ((s.registerIfNone.saveBatchingSession key options).saveTrip key.id options
        0).readers = update s.readers key.id (some ⟨0, 0⟩) := by
      rw [registerIfNone_eq]
      exact readers_insert (s := s) key.id _
    have hcounter : (s.registerIfNone.saveBatchingSession key
        options).engine.accumulatedDistance = s.engine.accumulatedDistance := by
      rw [registerIfNone_eq]
      rfl
    have hjoined : Agree (update s.readers key.id (some ⟨0, 0⟩))
        s.engine.accumulatedDistance (update travelled key.id 0) ↔
          s.engine.accumulatedDistance = 0 := by
      refine Agree.join_zero_iff.trans ⟨fun h => h.1, fun h => ⟨h, fun j r _ hr => ?_⟩⟩
      rw [hnone j] at hr
      cases hr
    have hbefore : s.Accounted travelled := by
      rw [accounted_iff_agree]
      intro j r hr
      rw [hnone j] at hr
      cases hr
    rw [accounted_iff_agree]
    refine Iff.trans ?_ (hjoined.trans ⟨fun h => ⟨hbefore, fun _ => h⟩, fun h => h.2 rfl⟩)
    rw [← hreaders, ← hcounter]
    rfl
  · have hsame : s.SameDistances (s.call (.joinTrip key options)) := ⟨rfl, rfl⟩
    rw [hsame.accounted_congr]
    exact ⟨fun h => ⟨h, fun hstarts => by cases hstarts⟩, fun h => h.1⟩

theorem accounted_restartAs :
    (s.restartAs key options).Accounted (restarted travelled (s.restartStarts key options)) ↔
      s.Accounted travelled ∧
        ((s.restartStarts key options).isSome → s.engine.accumulatedDistance = 0) := by
  have hsame : ∀ {t : BatchingAdapter}, s.SameDistances t →
      (t.Accounted (restarted travelled none) ↔ s.Accounted travelled ∧
        ((none : Option Nat).isSome → s.engine.accumulatedDistance = 0)) := by
    intro t h
    exact h.accounted_congr.trans ⟨fun h => ⟨h, fun hstarts => by cases hstarts⟩, fun h => h.1⟩
  rw [restartAs, restartStarts]
  cases options.batchingMode with
  | routine => exact hsame sameDistances_startBatching
  | noAutoReport => exact hsame sameDistances_startBatching
  | trip => exact accounted_startTripBatchingMultiplex
  | other => exact hsame ⟨rfl, rfl⟩

theorem accounted_stopTripBatchingMultiplexCommon :
    (s.stopTripBatchingMultiplexCommon err key restartNeeded batchOptions).1.Accounted
        (restarted travelled (s.stopStarts key restartNeeded batchOptions)) ↔
      (s.dropTrip key.id).Accounted travelled ∧
        ((s.stopStarts key restartNeeded batchOptions).isSome →
          s.engine.accumulatedDistance = 0) := by
  have hdropped : (s.dropTrip key.id).SameDistances (s.dropTrip key.id).restartRemaining :=
    sameDistances_restartRemaining
  rw [stopTripBatchingMultiplexCommon, stopStarts]
  cases restartNeeded with
  | false =>
    exact hdropped.accounted_congr.trans
      ⟨fun h => ⟨h, fun hstarts => by cases hstarts⟩, fun h => h.1⟩
  | true =>
    have herased : (s.dropTrip key.id).SameDistances
        ((s.dropTrip key.id).restartRemaining.eraseBatchingSession key) :=
      hdropped.trans ⟨rfl, rfl⟩
    have hstarts : ((s.dropTrip key.id).restartRemaining.eraseBatchingSession
        key).restartStarts key batchOptions =
          (s.dropTrip key.id).restartStarts key batchOptions := by
      rw [restartStarts, restartStarts, herased.startsTrip_eq]
    have hrestarted := @accounted_restartAs
      ((s.dropTrip key.id).restartRemaining.eraseBatchingSession key) travelled key batchOptions
    rw [hstarts, herased.accounted_congr, herased.counter] at hrestarted
    exact hrestarted

/-! ## Joining and restarting the batch -/

theorem sameDistances_callTrip : s.SameDistances (s.callTrip distance interval fn) := ⟨rfl, rfl⟩

section

variable (h : s.Accounted travelled)
include h

theorem accounted_saveTrip (id : Nat) (options : BatchingOptions) :
    (s.saveTrip id options s.engine.accumulatedDistance).Accounted
      (update travelled id 0) := by
  rw [accounted_iff_agree] at h ⊢
  have hreaders : (s.saveTrip id options s.engine.accumulatedDistance).readers =
      update s.readers id (some ⟨s.engine.accumulatedDistance, 0⟩) :=
    readers_insert (s := s) id _
  rw [hreaders]
  exact h.join id

/-- What the sessions of `s` read after a restart for a new trip. -/
def rejoined (s : BatchingAdapter) (id : Nat) : Option (Reader UInt32) :=
  s.mTripSessions[id]?.map fun status => status.rejoin.reader

theorem rejoined_total (id : Nat) :
    (∀ r, s.rejoined id = some r → r.total s.engine.accumulatedDistance = travelled id) ↔
      ∀ status, s.mTripSessions[id]? = some status →
        status.accumulatedDistanceThisTrip + s.engine.accumulatedDistance =
          status.accounted s.engine.accumulatedDistance := by
  have htotal : ∀ status : TripSessionStatus,
      status.rejoin.reader.total s.engine.accumulatedDistance =
        status.accumulatedDistanceThisTrip + s.engine.accumulatedDistance :=
    fun status => Reader.total_zero_eq ..
  constructor
  · intro hrejoined status hstatus
    rw [h id status hstatus, ← htotal]
    exact hrejoined _ (map_eq_some_iff.mpr ⟨status, hstatus, rfl⟩)
  · intro haccounted r hr
    obtain ⟨status, hstatus, rfl⟩ := map_eq_some_iff.mp hr
    rw [htotal, haccounted status hstatus, h id status hstatus]

theorem accounted_rejoinAll_saveTrip :
    ((s.saveTrip key.id options s.engine.accumulatedDistance).rejoinAll distance
        interval).Accounted (update travelled key.id 0) ↔
      s.KeepsAccountsJoin key .success := by
  have hreaders : ((s.saveTrip key.id options s.engine.accumulatedDistance).rejoinAll distance
      interval).readers = update s.rejoined key.id (some ⟨0, 0⟩) := by
    funext id
    refine (readers_map (s := s.saveTrip key.id options _) TripSessionStatus.rejoin id).trans ?_
    rw [saveTrip, Std.TreeMap.getElem?_insert, update_apply]
    simp only [Std.compare_eq_iff_eq, eq_comm (a := key.id)]
    split <;> rfl
  rw [accounted_iff_agree, hreaders]
  refine Agree.join_zero_iff.trans (and_congr ⟨fun hzero _ => hzero, fun hzero => hzero rfl⟩ ?_)
  constructor
  · intro hothers id status hstatus hne
    exact (rejoined_total h id).mp (fun r => hothers id r (hne rfl)) status hstatus
  · intro hothers id r hne
    exact (rejoined_total h id).mpr (fun status hstatus => hothers id status hstatus fun _ => hne) r

theorem accounted_rejoinAll (herr : err ≠ .success) :
    (s.rejoinAll distance interval).Accounted travelled ↔ s.KeepsAccountsJoin key err := by
  have hreaders : (s.rejoinAll distance interval).readers = s.rejoined :=
    funext fun id => readers_map (s := s) TripSessionStatus.rejoin id
  rw [accounted_iff_agree, hreaders]
  constructor
  · intro hall
    refine ⟨fun hsuccess => absurd hsuccess herr, ?_⟩
    intro id status hstatus _
    exact (rejoined_total h id).mp (hall id) status hstatus
  · intro hkeeps id
    exact (rejoined_total h id).mpr
      fun status hstatus => hkeeps.2 id status hstatus fun hsuccess => absurd hsuccess herr

theorem accounted_joinTripResponse (hdata : err = .success → data = s.engine.accumulatedDistance) :
    (s.joinTripResponse key options err data).1.Accounted
        (restarted travelled (if err = .success then some key.id else none)) ↔
      ((s.restartForTrip options err data).isSome → s.KeepsAccountsJoin key err) := by
  rw [joinTripResponse]
  by_cases herr : err = .success
  · cases herr
    rw [hdata rfl, if_pos rfl, if_pos rfl]
    cases s.restartForTrip options .success s.engine.accumulatedDistance with
    | none =>
      exact iff_of_true (accounted_saveTrip h key.id options) fun hrestarts => by cases hrestarts
    | some restart =>
      exact (sameDistances_callTrip.accounted_congr.trans (accounted_rejoinAll_saveTrip h)).trans
        ⟨fun hkeeps _ => hkeeps, fun hkeeps => hkeeps rfl⟩
  · rw [if_neg herr, if_neg herr]
    cases s.restartForTrip options err data with
    | none => exact iff_of_true h fun hrestarts => by cases hrestarts
    | some restart =>
      exact (sameDistances_callTrip.accounted_congr.trans (accounted_rejoinAll h herr)).trans
        ⟨fun hkeeps _ => hkeeps, fun hkeeps => hkeeps rfl⟩

theorem accounted_set_iff (htrips : t.mTripSessions = s.mTripSessions) :
    t.Accounted travelled ↔ s.mTripSessions.size = 0 ∨
      t.engine.accumulatedDistance = s.engine.accumulatedDistance := by
  have hreaders : t.readers = s.readers := by
    funext id
    rw [readers, readers, htrips]
  rw [accounted_iff_agree] at h ⊢
  rw [hreaders, h.set_iff, readers_eq_none_iff]

theorem accounted_restart_iff (accumulatedDistance : UInt32) (htrips : t.mTripSessions =
      s.mTripSessions.map fun _ status => status.restart accumulatedDistance)
    (hcounter : t.engine.accumulatedDistance = 0) :
    t.Accounted travelled ↔
      s.mTripSessions.size = 0 ∨ accumulatedDistance = s.engine.accumulatedDistance := by
  have hreaders : t.readers =
      fun id => (s.readers id).map fun r => r.rebase accumulatedDistance := by
    funext id
    rw [readers, readers, htrips, Std.TreeMap.getElem?_map, map_map, map_map]
    rfl
  rw [accounted_iff_agree] at h ⊢
  rw [hreaders, hcounter, h.rebase_iff, readers_eq_none_iff]

end

/-! ## Steps -/

section

variable (h : s.Accounted travelled)
include h

theorem accounted_of_none {o : Option Nat} (hsame : s.SameDistances t) (ho : o = none) :
    t.Accounted (restarted travelled o) ↔ (o.isSome → s.engine.accumulatedDistance = 0) := by
  cases ho
  exact iff_of_true (hsame.accounted_congr.mpr h) fun hstarts => by cases hstarts

theorem accounted_dropTrip (id : Nat) : (s.dropTrip id).Accounted travelled := by
  intro j status hstatus
  rw [dropTrip, Std.TreeMap.getElem?_erase] at hstatus
  split at hstatus
  · cases hstatus
  · exact h j status hstatus

/-- A trip is stopped by a command, which stops it at once unless it is the
only one. -/
theorem accounted_stopTripBatchingMultiplex :
    (s.stopTripBatchingMultiplex key restartNeeded batchOptions).1.Accounted
        (restarted travelled (if s.mTripSessions.size = 1 then none
          else s.stopStarts key restartNeeded batchOptions)) ↔
      ((if s.mTripSessions.size = 1 then none
          else s.stopStarts key restartNeeded batchOptions).isSome →
        s.engine.accumulatedDistance = 0) := by
  rw [stopTripBatchingMultiplex]
  split
  · exact accounted_of_none h ⟨rfl, rfl⟩ rfl
  · rw [accounted_stopTripBatchingMultiplexCommon]
    exact and_iff_right (accounted_dropTrip h _)

theorem accounted_procStartBatching : (s.procStartBatching key options).1.Accounted
        (restarted travelled (s.startedByMsg (.startBatching key options))) ↔
      ((s.startedByMsg (.startBatching key options)).isSome →
        s.engine.accumulatedDistance = 0) := by
  rw [procStartBatching]
  split
  · rename_i hunknown
    refine accounted_of_none h ⟨rfl, rfl⟩ (if_neg fun haccepts => ?_)
    exact Bool.false_ne_true (hunknown.symm.trans haccepts.1)
  · rename_i hknown
    split
    · rename_i haccepts
      have hstarted : s.startedByMsg (.startBatching key options) = s.restartStarts key options :=
        if_pos ⟨Bool.not_eq_false _ ▸ hknown, haccepts⟩
      rw [hstarted, restartStarts]
      cases options.batchingMode with
      | routine => exact accounted_of_none h sameDistances_startBatching rfl
      | noAutoReport => exact accounted_of_none h sameDistances_startBatching rfl
      | trip => exact accounted_startTripBatchingMultiplex.trans (and_iff_right h)
      | other => exact accounted_of_none h ⟨rfl, rfl⟩ rfl
    · rename_i hrefuses
      exact accounted_of_none h ⟨rfl, rfl⟩ (if_neg fun haccepts => hrefuses haccepts.2)

theorem accounted_procUpdateBatching : (s.procUpdateBatching key options).1.Accounted
        (restarted travelled (s.startedByMsg (.updateBatching key options))) ↔
      ((s.startedByMsg (.updateBatching key options)).isSome →
        s.engine.accumulatedDistance = 0) := by
  rw [procUpdateBatching]
  split
  · rename_i hunknown
    refine accounted_of_none h ⟨rfl, rfl⟩ (if_neg fun haccepts => ?_)
    exact Bool.false_ne_true (hunknown.symm.trans haccepts.2.1)
  · rename_i hknown
    split
    · rename_i haccepts
      split
      · rename_i htrip
        have hstarted : s.startedByMsg (.updateBatching key options) =
            if s.mTripSessions.size = 1 then none else s.stopStarts key true options := by
          rw [startedByMsg]
          split
          · rename_i hbeside
            rw [if_neg hbeside.2.2.2.2]
          · rename_i hbeside
            rw [if_pos]
            by_contra hsize
            exact hbeside ⟨haccepts.2, Bool.not_eq_false _ ▸ hknown, haccepts.1, htrip, hsize⟩
        rw [hstarted]
        exact accounted_stopTripBatchingMultiplex h
      · rename_i hnot
        exact accounted_of_none h sameDistances_stopBatching
          (if_neg fun hbeside => hnot hbeside.2.2.2.1)
    · rename_i hrefuses
      exact accounted_of_none h ⟨rfl, rfl⟩
        (if_neg fun hbeside => hrefuses ⟨hbeside.2.2.1, hbeside.1⟩)

theorem accounted_procStopBatching : (s.procStopBatching key).1.Accounted travelled := by
  rw [procStopBatching]
  split
  · exact h
  · split
    · split
      · have hstopped := @accounted_stopTripBatchingMultiplex s travelled key .default false h
        have hnone : (if s.mTripSessions.size = 1 then none
            else s.stopStarts key false .default) = none := by
          split <;> rfl
        rw [hnone] at hstopped
        exact hstopped.mpr fun hstarts => by cases hstarts
      · exact sameDistances_stopBatching.accounted_congr.mpr h
    · exact h

theorem accounted_proc {msg : BatchingMsg} :
    (s.proc msg).1.Accounted (restarted travelled (s.startedByMsg msg)) ↔
      ((s.startedByMsg msg).isSome → s.engine.accumulatedDistance = 0) := by
  cases msg with
  | startBatching key options => exact accounted_procStartBatching h
  | updateBatching key options => exact accounted_procUpdateBatching h
  | stopBatching key =>
    exact iff_of_true (accounted_procStopBatching h) fun hstarts => by cases hstarts

theorem accounted_reportCompletedTrips (accumulatedDistance : UInt32) :
    (s.reportCompletedTrips accumulatedDistance).1.Accounted travelled := by
  have hcounted : (s.countTrips accumulatedDistance).Accounted travelled := by
    intro id status hstatus
    rw [countTrips, Std.TreeMap.getElem?_filter', filter_eq_some_iff,
      Std.TreeMap.getElem?_map, map_eq_some_iff] at hstatus
    obtain ⟨⟨status', hstatus', rfl⟩, -⟩ := hstatus
    exact h id status' hstatus'
  rw [reportCompletedTrips]
  split
  · exact hcounted
  · exact (sameDistances_restartTripBatching ..).accounted_congr.mpr hcounted

theorem accounted_handleEngineUpEvent : s.handleEngineUpEvent.1.Accounted travelled ↔
      s.mTripSessions.size = 0 ∨ s.engine.accumulatedDistance = 0 := by
  have hup : s.handleEngineUpEvent.1.mTripSessions = s.mTripSessions ∧
      s.handleEngineUpEvent.1.engine.accumulatedDistance = 0 := by
    rw [handleEngineUpEvent]
    split
    · exact ⟨sameDistances_restartSessions.trips, sameDistances_restartSessions.counter⟩
    · exact ⟨rfl, rfl⟩
  rw [accounted_set_iff h hup.1, hup.2, eq_comm (a := (0 : UInt32))]

theorem accounted_move (distance : UInt32) :
    { s with engine := s.engine.move distance }.Accounted (fun id => travelled id + distance) ↔
      s.engine.running = true ∨ s.mTripSessions.size = 0 ∨ distance = 0 := by
  rw [accounted_iff_agree] at h
  rw [accounted_iff_agree]
  show Agree s.readers (s.engine.move distance).accumulatedDistance _ ↔ _
  rw [TripBatch.move]
  split
  · rename_i hrunning
    exact iff_of_true (h.run distance) (.inl hrunning)
  · rename_i hrunning
    rw [h.stand_iff, readers_eq_none_iff]
    exact (or_iff_right hrunning).symm

end

/-! ## Answers -/

variable {n : Nat}

theorem accounted_keepsCounter (h : s.Accounted travelled)
    (hsame : (s.answered n fn err).SameDistances t) :
    t.Accounted travelled ↔ s.KeepsCounter fn err := by
  rw [accounted_set_iff h hsame.trips, hsame.counter]
  rfl

theorem sameDistances_startBatchingResponse :
    s.SameDistances (s.startBatchingResponse key options pendingMsg err).1 := by
  rw [startBatchingResponse]
  simp only [unregisterIfNone_eq]
  split <;> split <;> split <;> exact ⟨rfl, rfl⟩

section

variable (h : s.Accounted travelled)
include h

theorem accounted_stopBatchingResponse :
    (s.stopBatchingResponse key flpOptions restartNeeded batchOptions err).1.Accounted
        (restarted travelled (s.startedByResponse
          (.stopBatching key flpOptions restartNeeded batchOptions) err)) ↔
      ((s.startedByResponse (.stopBatching key flpOptions restartNeeded batchOptions)
        err).isSome → s.engine.accumulatedDistance = 0) := by
  rw [stopBatchingResponse]
  split
  · rename_i hfailed
    exact accounted_of_none h ⟨rfl, rfl⟩ (if_neg fun hstarts => hstarts.1 hfailed)
  · rename_i hstopped
    have hunregistered : s.SameDistances
        (if flpOptions.batchingMode ≠ .noAutoReport then s.unregisterIfNone else s) := by
      rw [unregisterIfNone_eq]
      split <;> exact ⟨rfl, rfl⟩
    cases restartNeeded with
    | false =>
      exact accounted_of_none h hunregistered (if_neg fun hstarts => by cases hstarts.2)
    | true =>
      have hstarted : s.startedByResponse (.stopBatching key flpOptions true batchOptions) err =
          s.restartStarts key batchOptions := if_pos ⟨hstopped, rfl⟩
      rw [hstarted, if_pos rfl]
      generalize (if flpOptions.batchingMode ≠ .noAutoReport then s.unregisterIfNone else s) = t
        at hunregistered ⊢
      have hstarts : t.restartStarts key batchOptions = s.restartStarts key batchOptions := by
        rw [restartStarts, restartStarts, hunregistered.startsTrip_eq]
      rw [← hstarts, accounted_restartAs, hunregistered.counter]
      exact and_iff_right (hunregistered.accounted_congr.mpr h)

theorem accounted_startTripResponse :
    ((s.answered n (.startTrip key options) err).startTripResponse key options err).1.Accounted
        travelled ↔ s.KeepsCounter (.startTrip key options) err := by
  rw [startTripResponse]
  split
  · exact accounted_keepsCounter (n := n) h ⟨rfl, rfl⟩
  · rename_i hfailed
    have herr : err ≠ .success := fun hsuccess => hfailed (.inr hsuccess)
    have hcounter : (s.engine.answer (.startTrip key options) err) = s.engine := if_neg herr
    refine iff_of_true ?_ (.inr (congrArg TripBatch.accumulatedDistance hcounter))
    rw [unregisterIfNone_eq]
    intro id status hstatus
    have hbefore : (s.mTripSessions.erase key.id)[id]? = some status := hstatus
    rw [Std.TreeMap.getElem?_erase] at hbefore
    split at hbefore
    · cases hbefore
    · have haccounted := h id status hbefore
      rw [← hcounter] at haccounted
      exact haccounted

theorem accounted_stopTripResponse :
    ((s.answered n (.stopTrip key restartNeeded batchOptions) err).stopTripResponse key
        restartNeeded batchOptions err).1.Accounted
          (restarted travelled (s.stopStarts key restartNeeded batchOptions)) ↔
      (s.dropTrip key.id).KeepsCounter (.stopTrip key restartNeeded batchOptions) err ∧
        ((s.stopStarts key restartNeeded batchOptions).isSome →
          (s.engine.answer (.stopTrip key restartNeeded batchOptions) err).accumulatedDistance =
            0) := by
  have hanswered : ∀ t : BatchingAdapter, t.mTripSessions = s.mTripSessions →
      t.engine = s.engine.answer (.stopTrip key restartNeeded batchOptions) err →
      ((t.stopTripBatchingMultiplexCommon err key restartNeeded batchOptions).1.Accounted
          (restarted travelled (s.stopStarts key restartNeeded batchOptions)) ↔
        (s.dropTrip key.id).KeepsCounter (.stopTrip key restartNeeded batchOptions) err ∧
          ((s.stopStarts key restartNeeded batchOptions).isSome →
            (s.engine.answer (.stopTrip key restartNeeded batchOptions) err).accumulatedDistance =
              0)) := by
    intro t htrips hengine
    have hdropped : (t.dropTrip key.id).mTripSessions = (s.dropTrip key.id).mTripSessions := by
      rw [dropTrip, dropTrip, htrips]
    have hstarts : t.stopStarts key restartNeeded batchOptions =
        s.stopStarts key restartNeeded batchOptions := by
      rw [stopStarts, stopStarts, restartStarts, restartStarts, startsTrip, startsTrip, hdropped]
    rw [← hstarts, accounted_stopTripBatchingMultiplexCommon, hengine,
      accounted_set_iff (accounted_dropTrip h key.id) hdropped]
    have hcounter : (t.dropTrip key.id).engine =
        s.engine.answer (.stopTrip key restartNeeded batchOptions) err := hengine
    rw [hcounter]
    rfl
  rw [stopTripResponse]
  split
  · exact hanswered _ rfl rfl
  · exact hanswered _ rfl rfl

theorem accounted_respond (n : Nat) (fn : ResponseFn) (err : LocationError) (data : UInt32) :
    ((s.answered n fn err).respond fn err (s.queried err data)).1.Accounted
        (restarted travelled (s.startedByResponse fn err)) ↔
      s.KeepsAccountsResponse fn err (s.queried err data) := by
  cases fn with
  | ignore => exact accounted_keepsCounter (n := n) h ⟨rfl, rfl⟩
  | startBatching key options pendingMsg =>
    exact accounted_keepsCounter (n := n) h sameDistances_startBatchingResponse
  | stopBatching key flpOptions restartNeeded batchOptions =>
    exact accounted_stopBatchingResponse (s := s.answered n _ err) h
  | startTrip key options => exact accounted_startTripResponse h
  | joinTrip key options =>
    refine accounted_joinTripResponse (s := s.answered n _ err) h fun hsuccess => ?_
    exact if_pos hsuccess
  | joinedTrip key => exact accounted_keepsCounter (n := n) h ⟨rfl, rfl⟩
  | stopTrip key restartNeeded batchOptions => exact accounted_stopTripResponse h
  | stopLastTrip => exact accounted_keepsCounter (n := n) h ⟨rfl, rfl⟩
  | queryTrips queryAccumulatedDistance minRemainingDistance minTBFInterval accDist =>
    exact accounted_keepsCounter (n := n) h (sameDistances_restartForTrips ..)
  | restartTrips accumulatedDistance distance interval =>
    rw [KeepsAccountsResponse, respond, restartTripsResponse]
    split
    · rename_i hsuccess
      cases hsuccess
      exact accounted_restart_iff h accumulatedDistance rfl rfl
    · exact accounted_keepsCounter (n := n) h ⟨rfl, rfl⟩
  | restartSessions =>
    rw [respond, restartSessionsResponse]
    split <;> exact accounted_keepsCounter (n := n) h ⟨rfl, rfl⟩

end

/-! ## Underflows -/

/-- What is subtracted is not more than what it is subtracted from. -/
def Less (subtractions : List (UInt32 × UInt32)) : Prop := ∀ p ∈ subtractions, p.2 ≤ p.1

theorem less_nil : Less [] := fun _ h => by cases h

theorem less_ite {p : Prop} [Decidable p] {subtractions : List (UInt32 × UInt32)} :
    Less (if p then subtractions else []) ↔ (p → Less subtractions) := by
  split
  · rename_i hp
    exact ⟨fun h _ => h, fun h => h hp⟩
  · rename_i hp
    exact iff_of_true less_nil fun h => absurd h hp

theorem less_singleton {a b : UInt32} : Less [(a, b)] ↔ b ≤ a := by
  rw [Less, List.forall_mem_singleton]

theorem less_toList_map (f g : TripSessionStatus → UInt32) :
    Less (s.mTripSessions.toList.map fun session => (f session.2, g session.2)) ↔
      ∀ (id : Nat) status, s.mTripSessions[id]? = some status → g status ≤ f status := by
  rw [Less, List.forall_mem_map]
  constructor
  · intro h id status hstatus
    exact h (id, status) (Std.TreeMap.mem_toList_iff_getElem?_eq_some.mpr hstatus)
  · intro h session hmem
    exact h session.1 session.2 (Std.TreeMap.mem_toList_iff_getElem?_eq_some.mp hmem)

theorem less_remainingSubtractions : Less s.remainingSubtractions ↔ s.Within :=
  less_toList_map TripSessionStatus.tripDistance TripSessionStatus.accumulatedDistanceThisTrip

theorem less_batchSubtractions (accumulatedDistance : UInt32) :
    Less (s.batchSubtractions accumulatedDistance) ↔ s.JoinedBy accumulatedDistance :=
  less_toList_map (fun _ => accumulatedDistance) TripSessionStatus.accumulatedDistanceOngoingBatch

theorem within_countTrips (accumulatedDistance : UInt32) :
    (s.countTrips accumulatedDistance).Within := by
  intro id status hstatus
  rw [countTrips, Std.TreeMap.getElem?_filter', filter_eq_some_iff] at hstatus
  have hleft : ¬ status.tripDistance ≤ status.accumulatedDistanceThisTrip := by
    simpa [TripSessionStatus.completed] using hstatus.2
  exact UInt32.le_of_lt (UInt32.not_le.mp hleft)

theorem less_completedSubtractions (accumulatedDistance : UInt32) :
    Less (s.completedSubtractions accumulatedDistance) ↔ s.JoinedBy accumulatedDistance := by
  rw [← less_batchSubtractions, Less, completedSubtractions, List.forall_mem_append]
  refine and_iff_left ?_
  split
  · exact less_nil
  · exact less_remainingSubtractions.mpr (within_countTrips accumulatedDistance)

theorem less_responseSubtractions (fn : ResponseFn) (err : LocationError) (data : UInt32) :
    Less (s.responseSubtractions fn err data) ↔ s.SubtractsLessResponse fn err data := by
  cases fn with
  | joinTrip key options => exact less_ite.trans (imp_congr_right fun _ => less_singleton)
  | stopTrip key restartNeeded batchOptions => exact less_remainingSubtractions
  | queryTrips queryAccumulatedDistance minRemainingDistance minTBFInterval accDist =>
    rw [responseSubtractions, SubtractsLessResponse]
    cases s.mTripWithOngoingTripDistanceDropped with
    | true => exact iff_of_true less_nil fun h => by cases h
    | false => exact less_singleton.trans ⟨fun h _ => h, fun h => h rfl⟩
  | restartTrips accumulatedDistance distance interval =>
    exact less_ite.trans (imp_congr_right fun _ => less_batchSubtractions _)
  | _ => exact iff_of_true less_nil trivial

end BatchingAdapter

theorem less_subtractions {s : BatchingAdapter} {e : BatchingEvent} :
    Less (subtractions s e) ↔ SubtractsLess s e := by
  cases e with
  | proc msg =>
    cases msg with
    | startBatching key options => exact iff_of_true less_nil trivial
    | updateBatching key options =>
      exact (less_ite.trans and_imp).trans
        (imp_congr_right fun _ => imp_congr_right fun _ => less_remainingSubtractions)
    | stopBatching key =>
      exact less_ite.trans (imp_congr_right fun _ => less_remainingSubtractions)
  | reportCompletedTrips accumulatedDistance => exact less_completedSubtractions accumulatedDistance
  | handleEngineUpEvent =>
    exact less_ite.trans (imp_congr_right fun _ => less_remainingSubtractions)
  | response n err data =>
    show Less (match s.unanswered[n]? with
      | none => []
      | some fn => s.responseSubtractions fn err (s.queried err data)) ↔
        ∀ fn, s.unanswered[n]? = some fn → s.SubtractsLessResponse fn err (s.queried err data)
    split
    · rename_i hnone
      exact iff_of_true less_nil fun fn hfn => by cases hnone.symm.trans hfn
    · rename_i fn hfn
      rw [less_responseSubtractions]
      constructor
      · intro h fn' hfn'
        cases hfn.symm.trans hfn'
        exact h
      · exact fun h => h fn hfn
  | _ => exact iff_of_true less_nil trivial

/-! ## The runs that conserve the distances -/

namespace WatchedTrips

variable {w : WatchedTrips} {e : BatchingEvent}

theorem accounted_next (h : w.adapter.Accounted w.travelled)
    (hpre : ∀ client, e ≠ .removeClient client) :
    (w.next e).adapter.Accounted (w.next e).travelled ↔ KeepsAccounts w.adapter e := by
  cases e with
  | addClient client callbacks => exact iff_of_true h trivial
  | removeClient client => exact absurd rfl (hpre client)
  | proc msg => exact accounted_proc h
  | reportCompletedTrips accumulatedDistance =>
    exact iff_of_true (accounted_reportCompletedTrips h accumulatedDistance) trivial
  | engineLockState state =>
    refine iff_of_true ?_ trivial
    show (w.adapter.handleEngineLockStatus state).1.Accounted w.travelled
    rw [handleEngineLockStatus]
    split <;> exact h
  | handleEngineUpEvent => exact accounted_handleEngineUpEvent h
  | response n err data =>
    show (step w.adapter (.response n err data)).1.Accounted
      (restarted w.travelled (startedBy w.adapter (.response n err data))) ↔ _
    rw [step, startedBy, KeepsAccounts]
    split
    · rename_i hnone
      rw [hnone]
      exact iff_of_true h fun fn hfn => by cases hfn
    · rename_i fn hfn
      rw [hfn]
      refine (accounted_respond h n fn err data).trans ?_
      constructor
      · rintro hkeeps _ ⟨⟩
        exact hkeeps
      · exact fun hkeeps => hkeeps fn rfl
  | moved distance => exact accounted_move h distance

theorem underflowed_next (h : w.underflowed = false) :
    (w.next e).underflowed = false ↔ SubtractsLess w.adapter e := by
  rw [← less_subtractions, next, h, Bool.false_or, List.any_eq_false]
  simp only [decide_eq_true_eq, UInt32.not_lt]
  rfl

/-- In a run of starts, stops, completions and restarts each session is
accounted what it has travelled, and nothing underflows, if and only if no
step loses a distance or subtracts too much. -/
theorem conserved_iff (hw : w.Conserved) (es : List BatchingEvent)
    (hpre : StepsMeet watched (fun _ e => ∀ client, e ≠ .removeClient client) w es) :
    StatesMeet watched Conserved w es ↔ StepsMeet watched
        (fun w e => KeepsAccounts w.adapter e ∧ SubtractsLess w.adapter e) w es := by
  have hnext : ∀ (w : WatchedTrips) e, w.Conserved → (∀ client, e ≠ .removeClient client) →
      ((w.next e).Conserved ↔ KeepsAccounts w.adapter e ∧ SubtractsLess w.adapter e) :=
    fun w e h hpre => and_congr (accounted_next h.1 hpre) (underflowed_next h.2)
  exact statesMeet_iff_stepsMeet_of_pre (P := Conserved) Conserved (fun _ h => h)
    (fun w e h hpre hok => (hnext w e h hpre).mpr hok)
    (fun w e h hpre hafter => (hnext w e h hpre).mp hafter) hw hpre

theorem conserved_new : new.Conserved := by
  refine ⟨fun id status hstatus => ?_, rfl⟩
  rw [show new.adapter.mTripSessions = ∅ from rfl, Std.TreeMap.getElem?_emptyc] at hstatus
  cases hstatus

/-- A trip of 5000 m. -/
def longTrip : BatchingOptions := { tripOptions with minDistance := 5000 }

/-- It joins another one after 300 m, and both go on for 200 m. -/
def joinedTrip : List BatchingEvent :=
  [.addClient 7 ⟨true, true, true⟩, .proc (.startBatching ⟨7, 1⟩ tripOptions),
    .response 0 .success 0, .moved 300, .proc (.startBatching ⟨7, 2⟩ longTrip),
    .response 0 .success 0, .moved 200]

theorem conserved_joinedTrip : StatesMeet watched Conserved new joinedTrip := by
  refine (conserved_iff conserved_new joinedTrip ?_).mpr ?_
  · refine ⟨?_, ?_, ?_, ?_, ?_, ?_, ?_, trivial⟩ <;> rintro client ⟨⟩
  · refine ⟨⟨trivial, trivial⟩, ⟨fun _ => rfl, trivial⟩, ⟨?_, ?_⟩, ⟨.inl rfl, trivial⟩,
      ⟨fun hstarts => absurd hstarts (by decide), trivial⟩, ⟨?_, ?_⟩, ⟨.inl rfl, trivial⟩, trivial⟩
    · rintro fn ⟨⟩
      exact .inr rfl
    · rintro fn ⟨⟩
      trivial
    · rintro fn ⟨⟩
      exact fun hrestarts => absurd hrestarts (by decide)
    · rintro fn ⟨⟩
      exact fun _ => by decide

/-- It joins with a shorter interval, for which the batch is restarted. -/
def restartedForTrip : List BatchingEvent :=
  [.addClient 7 ⟨true, true, true⟩, .proc (.startBatching ⟨7, 1⟩ tripOptions),
    .response 0 .success 0, .moved 300,
    .proc (.startBatching ⟨7, 2⟩ { longTrip with minInterval := 500 }), .response 0 .success 0,
    .response 0 .success 0]

/-- The first trip has travelled 300 m, and is accounted none. -/
theorem conserved_fails : ¬ StatesMeet watched Conserved new restartedForTrip := by
  intro h
  have hlast : (after watched new restartedForTrip).Conserved := h.last
  have haccounted := hlast.1 1 ⟨0, 0, 0, 1000, 1000⟩ rfl
  revert haccounted
  decide

end WatchedTrips

end LocStack.Batching
