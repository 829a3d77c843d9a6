/-
# `LocStack.Tracking.Responses` — answers that come late

An answer of LocApi may be processed any number of commands after its call,
and in any order, while its closure captured the options of the moment of
the call.  Three of the closures save a session without a look at whether it
still exists:

    updateTracking      a failed update puts the options back that it replaced
    switchToTimeBased   an update from distance to time based, in any case
    restarted           an update of a distance based session

so that a session comes back that was stopped meanwhile, or whose client is
gone; and a failed update undoes a later one.  The run is watched from
outside (`Watched`) for what has been stopped and whose options are stored.
`staysOver_and_keepsLater`: in a run none of whose answers saves a session
that is over or writes over a later update, in failure, and where no session
is in both maps when it is stopped, neither happens.

Nothing is assumed of the order of commands and answers or of the outcome.
-/
import LocStack.Tracking.Orderly

namespace LocStack.Tracking

open Base List Option
open Adapter (EngineLockState)

/-! ## What an event may change -/

/-- The event of which `b` comes about from `a` goes back to one message; it
writes no session but `saved`, though it may erase any. -/
structure Follows (saved : Option LocationSessionKey) (a b : GnssAdapter) : Prop where
  current : b.current = a.current
  processed : b.processed = a.processed
  calls : ∀ r ∈ b.mLocApi.unanswered, r ∈ a.mLocApi.unanswered ∨ r.cause = a.current
  timeBased : ∀ k, saved ≠ some k →
    b.mTimeBasedTrackingSessions[k]? = a.mTimeBasedTrackingSessions[k]? ∨
      b.mTimeBasedTrackingSessions[k]? = none
  distanceBased : ∀ k, saved ≠ some k →
    b.mDistanceBasedTrackingSessions[k]? = a.mDistanceBasedTrackingSessions[k]? ∨
      b.mDistanceBasedTrackingSessions[k]? = none

namespace Follows

variable {saved : Option LocationSessionKey} {a b c : GnssAdapter}

theorem refl : Follows saved a a :=
  ⟨rfl, rfl, fun _ hr => .inl hr, fun _ _ => .inl rfl, fun _ _ => .inl rfl⟩

theorem trans (h : Follows saved a b) (h' : Follows saved b c) : Follows saved a c where
  current := h'.current.trans h.current
  processed := h'.processed.trans h.processed
  calls r hr := by
    rcases h'.calls r hr with hr | hr
    · exact h.calls r hr
    · exact .inr (hr.trans h.current)
  timeBased k hk := by
    rcases h'.timeBased k hk with hb | hb
    · rw [hb]
      exact h.timeBased k hk
    · exact .inr hb
  distanceBased k hk := by
    rcases h'.distanceBased k hk with hb | hb
    · rw [hb]
      exact h.distanceBased k hk
    · exact .inr hb

theorem of_eq (ht : b.mTimeBasedTrackingSessions = a.mTimeBasedTrackingSessions)
    (hd : b.mDistanceBasedTrackingSessions = a.mDistanceBasedTrackingSessions)
    (hc : b.current = a.current) (hp : b.processed = a.processed)
    (hcalls : ∀ r ∈ b.mLocApi.unanswered, r ∈ a.mLocApi.unanswered ∨ r.cause = a.current) :
    Follows saved a b :=
  ⟨hc, hp, hcalls, fun _ _ => .inl (by rw [ht]), fun _ _ => .inl (by rw [hd])⟩

end Follows

namespace GnssAdapter

variable {saved : Option LocationSessionKey} {a b : GnssAdapter} {key : LocationSessionKey}
  {options : TrackingOptions} {fn : ResponseFn} {err : LocationError} {msg : TrackingMsg}

theorem follows_reportResponse : Follows saved a (a.reportResponse key err) := by
  refine .of_eq reportResponse_timeBased reportResponse_distanceBased ?_ ?_ ?_
  · rw [reportResponse_eq]
  · rw [reportResponse_eq]
  · rw [reportResponse_locApi]
    exact fun _ hr => .inl hr

theorem follows_reportIf {r : Bool} : Follows saved a (a.reportIf r key) := by
  simp only [reportIf]
  split
  · exact follows_reportResponse
  · exact .refl

theorem current_reportPowerStateIfChanged :
    a.reportPowerStateIfChanged.current = a.current := by
  rw [reportPowerStateIfChanged_eq]

theorem processed_reportPowerStateIfChanged :
    a.reportPowerStateIfChanged.processed = a.processed := by
  rw [reportPowerStateIfChanged_eq]

theorem follows_save : Follows (some key) a (a.saveTrackingSession key options) where
  current := by
    simp only [saveTrackingSession]
    split <;> exact current_reportPowerStateIfChanged
  processed := by
    simp only [saveTrackingSession]
    split <;> exact processed_reportPowerStateIfChanged
  calls r hr := by
    rw [saveTrackingSession_locApi] at hr
    exact .inl hr
  timeBased k hk := by
    have hne : key ≠ k := fun h => hk (congrArg some h)
    rw [saveTrackingSession_timeBased]
    split
    · exact .inl rfl
    · exact .inl (by simp [Std.TreeMap.getElem?_insert, hne])
  distanceBased k hk := by
    have hne : key ≠ k := fun h => hk (congrArg some h)
    rw [saveTrackingSession_distanceBased]
    split
    · exact .inl (by simp [Std.TreeMap.getElem?_insert, hne])
    · exact .inl rfl

theorem follows_erase : Follows saved a (a.eraseTrackingSession key) where
  current := by
    simp only [eraseTrackingSession]
    split <;> exact current_reportPowerStateIfChanged
  processed := by
    simp only [eraseTrackingSession]
    split <;> exact processed_reportPowerStateIfChanged
  calls r hr := by
    rw [eraseTrackingSession_locApi] at hr
    exact .inl hr
  timeBased k _ := by
    rw [eraseTrackingSession_timeBased]
    split
    · rw [Std.TreeMap.getElem?_erase]
      split
      · exact .inr rfl
      · exact .inl rfl
    · exact .inl rfl
  distanceBased k _ := by
    rw [eraseTrackingSession_distanceBased]
    split
    · exact .inl rfl
    · rw [Std.TreeMap.getElem?_erase]
      split
      · exact .inr rfl
      · exact .inl rfl

theorem follows_startDistance {o : LocationOptions} :
    Follows saved a (a.startDistanceBasedTracking key o fn) := by
  refine .of_eq rfl rfl rfl rfl fun r hr => ?_
  rcases mem_append.mp hr with hr | hr
  · exact .inl hr
  · obtain rfl := mem_singleton.mp hr
    exact .inr rfl

theorem follows_stopDistance : Follows saved a (a.stopDistanceBasedTracking key fn) := by
  refine .of_eq rfl rfl rfl rfl fun r hr => ?_
  rcases mem_append.mp hr with hr | hr
  · exact .inl hr
  · obtain rfl := mem_singleton.mp hr
    exact .inr rfl

theorem follows_stopTracking : Follows saved a (a.stopTracking key) := by
  refine .of_eq rfl rfl rfl rfl fun r hr => ?_
  rcases mem_append.mp hr with hr | hr
  · exact .inl hr
  · obtain rfl := mem_singleton.mp hr
    exact .inr rfl

theorem follows_checkAndSetSPEToRunforNHz :
    Follows saved a (a.checkAndSetSPEToRunforNHz options).1 := by
  simp only [checkAndSetSPEToRunforNHz]
  split
  · exact .refl
  · split
    · exact .refl
    · split
      · exact .of_eq rfl rfl rfl rfl fun _ hr => .inl hr
      · exact .refl

theorem of_checkAndSetSPEToRunforNHz {o : TrackingOptions} {running : Bool}
    (h : a.checkAndSetSPEToRunforNHz options = (b, o, running)) : Follows saved a b := by
  have hset : Follows saved a (a.checkAndSetSPEToRunforNHz options).1 :=
    follows_checkAndSetSPEToRunforNHz
  rwa [h] at hset

theorem follows_runTimeBased : Follows saved a (a.runTimeBased key options fn) := by
  simp only [runTimeBased]
  split
  case h_1 a' _ h => exact (of_checkAndSetSPEToRunforNHz h).trans follows_reportResponse
  case h_2 a' o h =>
    refine (of_checkAndSetSPEToRunforNHz h).trans (.of_eq rfl rfl rfl rfl fun r hr => ?_)
    rcases mem_append.mp hr with hr | hr
    · exact .inl hr
    · obtain rfl := mem_singleton.mp hr
      exact .inr rfl

theorem follows_startTimeBasedTrackingMultiplex :
    Follows saved a (a.startTimeBasedTrackingMultiplex key options).1 := by
  simp only [startTimeBasedTrackingMultiplex]
  split
  · exact follows_runTimeBased
  · split
    · exact follows_runTimeBased
    · exact .refl

theorem follows_updateTrackingMultiplex :
    Follows saved a (a.updateTrackingMultiplex key options).1 := by
  simp only [updateTrackingMultiplex]
  split
  · exact .refl
  · split
    · split
      · exact follows_runTimeBased
      · split
        · exact follows_runTimeBased
        · exact .refl
    · exact .refl

theorem follows_stopTimeBasedTrackingMultiplex :
    Follows saved a (a.stopTimeBasedTrackingMultiplex key).1 := by
  simp only [stopTimeBasedTrackingMultiplex]
  split
  · exact follows_stopTracking
  · split
    · exact .refl
    · split
      · exact follows_runTimeBased
      · exact .refl

theorem follows_startTimeBasedSession :
    Follows (some key) a (a.startTimeBasedSession key options) :=
  (follows_startTimeBasedTrackingMultiplex.trans follows_save).trans follows_reportIf

theorem follows_stopTimeBasedSession : Follows saved a (a.stopTimeBasedSession key) :=
  follows_stopTimeBasedTrackingMultiplex.trans follows_erase

theorem follows_foldl {β : Type} (f : GnssAdapter → β → GnssAdapter)
    (hf : ∀ a x, Follows saved a (f a x)) (xs : List β) : Follows saved a (xs.foldl f a) := by
  induction xs generalizing a with
  | nil => exact .refl
  | cons x xs ih => exact (hf a x).trans ih

theorem follows_removeClientCommand {client : Nat} :
    Follows saved a (a.removeClientCommand client) := by
  have hfirst : Follows saved a ((a.mTimeBasedTrackingSessions.keys.filter fun key =>
      key.client = client).foldl stopTimeBasedSession a) :=
    follows_foldl _ (fun _ _ => follows_stopTimeBasedSession) _
  have hsecond : ∀ b (keys : List LocationSessionKey), Follows saved b
      (keys.foldl (fun a key => a.stopDistanceBasedTracking key (.stopClientSession key)) b) :=
    fun _ _ => follows_foldl _ (fun _ _ => follows_stopDistance) _
  have hclient : ∀ b : GnssAdapter, Follows saved b
      { b with mClientData := b.mClientData.erase client } :=
    fun _ => .of_eq rfl rfl rfl rfl fun _ hr => .inl hr
  exact (hfirst.trans (hsecond _ _)).trans (hclient _)

theorem follows_handleEngineUpEvent : Follows saved a a.handleEngineUpEvent := by
  have hknown : Follows saved a { a with mIsEngineCapabilitiesKnown := true } :=
    .of_eq rfl rfl rfl rfl fun _ hr => .inl hr
  simp only [handleEngineUpEvent]
  split
  · have hspe : Follows saved a
        { a with mIsEngineCapabilitiesKnown := true
                 mSPEAlreadyRunningAtHighestInterval := false } :=
      .of_eq rfl rfl rfl rfl fun _ hr => .inl hr
    refine (hspe.trans ?_).trans (.trans (follows_foldl _ (fun _ _ => follows_startDistance) _)
        (.of_eq rfl rfl rfl rfl fun _ hr => .inl hr))
    simp only [checkAndRestartTimeBasedSession]
    split
    · exact .refl
    · split
      case h_1 a' _ h => exact of_checkAndSetSPEToRunforNHz h
      case h_2 a' o h =>
        refine (of_checkAndSetSPEToRunforNHz h).trans (.of_eq rfl rfl rfl rfl fun r hr => ?_)
        simpa [LocApi.startTimeBasedTracking] using Or.inl hr
  · exact hknown

/-- Is the session in a map? -/
def has (a : GnssAdapter) (key : LocationSessionKey) : Bool :=
  a.isTimeBasedTrackingSession key || a.isDistanceBasedTrackingSession key

/-- The session a message saves, if it does. -/
def savedByMsg (a : GnssAdapter) : TrackingMsg → Option LocationSessionKey
  | .startTracking key options =>
    if !a.isParked options && a.hasCallbacksToStartTracking key.client && options.size != 0 then
      some key
    else none
  | .updateTrackingOptions key options =>
    if !a.isParked options && options.size != 0 && a.isTimeBasedTrackingSession key &&
        !(a.isDistanceBasedTrackingSession key && options.minDistance == 0) then some key
    else none
  | _ => none

/-- The session an answer saves, if it does. -/
def savedByResponse (engineLockState : EngineLockState) (err : LocationError) :
    ResponseFn → Option LocationSessionKey
  | .updateTracking key _ =>
    if engineLockState = .enabled ∧ err ≠ .success then some key else none
  | .switchToTimeBased key _ => some key
  | .restarted key _ => if engineLockState = .disabled ∨ err = .success then some key else none
  | _ => none

/-- The session an answer erases, if it does. -/
def erasedByResponse (engineLockState : EngineLockState) (err : LocationError) :
    ResponseFn → Option LocationSessionKey
  | .startTimeBased key | .startDistanceBased key =>
    if engineLockState = .enabled ∧ err ≠ .success then some key else none
  | .stopDistanceBased key =>
    if engineLockState = .disabled ∨ err = .success then some key else none
  | .stopClientSession key => if err = .success then some key else none
  | _ => none

/-- The session an event saves, if it does. -/
def saves (a : GnssAdapter) : TrackingEvent → Option LocationSessionKey
  | .proc msg => a.savedByMsg msg
  | .respond i err =>
    a.mLocApi.unanswered[i]?.bind fun r => savedByResponse a.mLocApi.engineLockState err r.fn
  | .engineLockState _ => none

theorem starts_or_has_of_savedByMsg (h : a.savedByMsg msg = some key) :
    (∃ options, msg = .startTracking key options) ∨ a.has key = true := by
  cases msg with
  | startTracking k options =>
    simp only [savedByMsg] at h
    split at h
    · obtain rfl := some.inj h
      exact .inl ⟨options, rfl⟩
    · cases h
  | updateTrackingOptions k options =>
    simp only [savedByMsg] at h
    split at h
    case isTrue hupdate =>
      obtain rfl := some.inj h
      refine .inr ?_
      simp only [Bool.and_eq_true] at hupdate
      simp [has, hupdate.1.2]
    case isFalse => cases h
  | _ => cases h

theorem follows_procMsg : Follows (a.savedByMsg msg) a (a.procMsg msg) := by
  cases msg with
  | addClient client callbacks => exact .of_eq rfl rfl rfl rfl fun _ hr => .inl hr
  | stopTracking key =>
    refine stopTrackingCommand_elim (fun _ => follows_reportResponse) ?_ ?_
    · exact fun _ => follows_stopTimeBasedSession.trans follows_reportIf
    · exact fun _ => follows_stopDistance
  | removeClient client => exact follows_removeClientCommand
  | engineUp => exact follows_handleEngineUpEvent
  | startTracking key options =>
    simp only [procMsg, startTrackingCommand]
    split
    · exact .of_eq rfl rfl rfl rfl fun _ hr => .inl hr
    case isFalse hpark =>
      split
      · exact .refl
      case isFalse hcallbacks =>
        split
        · exact .refl
        case isFalse hsize =>
          have hsaved : a.savedByMsg (.startTracking key options) = some key := by
            simp only [savedByMsg, isParked, Bool.eq_false_iff.mpr hpark]
            simp_all
          rw [hsaved]
          split
          · exact follows_save.trans follows_startDistance
          · exact follows_startTimeBasedSession
  | updateTrackingOptions key options =>
    have hparked : Follows (a.savedByMsg (.updateTrackingOptions key options)) a
        (a.park (.updateTrackingOptions key options)) :=
      .of_eq rfl rfl rfl rfl fun _ hr => .inl hr
    refine updateTrackingOptionsCommand_elim _ rfl hparked (fun _ => follows_reportResponse)
      ?_ ?_ ?_ ?_
    · intro hkey hsize hpos hknown
      have hsaved : a.savedByMsg (.updateTrackingOptions key options) = some key := by
        simp at hsize hpos
        have hne : (options.minDistance == 0) = false := beq_eq_false_iff_ne.mpr hpos.ne'
        simp [savedByMsg, isParked, hknown, hsize, hne, isTimeBasedTrackingSession_iff.mpr hkey]
      rw [hsaved]
      exact ((follows_stopTimeBasedSession.trans follows_reportIf).trans follows_save).trans
        follows_startDistance
    · exact fun _ _ _ => follows_erase.trans follows_stopDistance
    · intro hkey hnot hsize hzero
      have hsaved : a.savedByMsg (.updateTrackingOptions key options) = some key := by
        have hd : a.isDistanceBasedTrackingSession key = false :=
          Bool.eq_false_iff.mpr fun h => hnot (isDistanceBasedTrackingSession_iff.mp h)
        simp at hsize hzero
        simp [savedByMsg, isParked, hsize, hzero, hd, isTimeBasedTrackingSession_iff.mpr hkey]
      rw [hsaved]
      exact (follows_updateTrackingMultiplex.trans follows_save).trans follows_reportIf
    · exact fun _ _ _ => follows_stopDistance

theorem follows_procResponse {fn : ResponseFn} :
    Follows (savedByResponse a.mLocApi.engineLockState err fn) a (a.procResponse err fn) := by
  cases fn with
  | ignore => exact .refl
  | startTimeBased key =>
    simp only [procResponse]
    split
    · exact follows_erase.trans follows_reportResponse
    · exact follows_reportResponse
  | startDistanceBased key =>
    simp only [procResponse]
    split
    · exact follows_erase.trans follows_reportResponse
    · exact follows_reportResponse
  | updateTracking key old =>
    simp only [procResponse, savedByResponse]
    split
    · exact follows_save.trans follows_reportResponse
    · exact follows_reportResponse
  | switchToTimeBased key options => exact follows_startTimeBasedSession
  | stoppedToRestart key options =>
    simp only [procResponse]
    split
    · exact follows_startDistance
    · exact .refl
  | restarted key options =>
    simp only [procResponse, savedByResponse]
    split
    · exact follows_save.trans follows_reportResponse
    · exact follows_reportResponse
  | stopFix key => exact follows_reportResponse
  | stopDistanceBased key =>
    simp only [procResponse]
    split
    · exact follows_erase.trans follows_reportResponse
    · exact follows_reportResponse
  | stopClientSession key =>
    simp only [procResponse]
    split
    · exact follows_erase
    · exact .refl

/-- What the maps hold for the session. -/
def entry (a : GnssAdapter) (key : LocationSessionKey) :
    Option TrackingOptions × Option LocationOptions :=
  (a.mTimeBasedTrackingSessions[key]?, a.mDistanceBasedTrackingSessions[key]?)

theorem has_eq_false_iff : a.has key = false ↔
    a.mTimeBasedTrackingSessions[key]? = none ∧ a.mDistanceBasedTrackingSessions[key]? = none := by
  rw [has, isTimeBasedTrackingSession, isDistanceBasedTrackingSession, Bool.or_eq_false_iff,
    Std.TreeMap.contains_eq_isSome_getElem?, Std.TreeMap.contains_eq_isSome_getElem?,
    isSome_eq_false_iff, isSome_eq_false_iff, isNone_iff_eq_none,
    isNone_iff_eq_none]

theorem Follows.has (h : Follows saved a b) (hkey : saved ≠ some key) (ha : a.has key = false) :
    b.has key = false := by
  obtain ⟨ht, hd⟩ := has_eq_false_iff.mp ha
  refine has_eq_false_iff.mpr ⟨?_, ?_⟩
  · rcases h.timeBased key hkey with hb | hb
    · exact hb.trans ht
    · exact hb
  · rcases h.distanceBased key hkey with hb | hb
    · exact hb.trans hd
    · exact hb

theorem has_next {e : TrackingEvent} (hkey : a.saves e ≠ some key) (ha : a.has key = false) :
    (a.next e).has key = false := by
  cases e with
  | proc msg => exact Follows.has (a := a.begin msg) follows_procMsg hkey ha
  | engineLockState state => exact ha
  | respond i err =>
    simp only [saves] at hkey
    simp only [next]
    split
    case h_2 => exact ha
    case h_1 r hr =>
      rw [hr] at hkey
      exact Follows.has (a := a.take i r) follows_procResponse hkey ha

end GnssAdapter

/-! ## The watched adapter -/

def TrackingEvent.starts (e : TrackingEvent) (key : LocationSessionKey) : Bool :=
  match e with
  | .proc (.startTracking k _) => k = key
  | _ => false

def TrackingEvent.removes (e : TrackingEvent) (key : LocationSessionKey) : Bool :=
  match e with
  | .proc (.removeClient client) => key.client = client
  | _ => false

def TrackingEvent.stops (e : TrackingEvent) (key : LocationSessionKey) : Bool :=
  match e with
  | .proc (.stopTracking k) => k = key
  | _ => false

/-- The session an update is about. -/
def TrackingMsg.updates : TrackingMsg → Option LocationSessionKey
  | .updateTrackingOptions key _ => some key
  | _ => none

/-- The distance based session whose stop the closure is to report. -/
def ResponseFn.stopsDistance : ResponseFn → Option LocationSessionKey
  | .stopDistanceBased key => some key
  | _ => none

/-- The update whose options the closure saves, if they are its own. -/
def LocApiResponse.ownUpdate (r : LocApiResponse) : Option Nat :=
  match r.fn with
  | .updateTracking _ _ => none
  | _ => if r.cause.msg.updates.isSome then some r.cause.number else none

/-- The update whose options an event saves. -/
def GnssAdapter.savedUpdate (a : GnssAdapter) : TrackingEvent → Option Nat
  | .proc msg => if msg.updates.isSome then some a.processed else none
  | .respond i _ => a.mLocApi.unanswered[i]?.bind (·.ownUpdate)
  | .engineLockState _ => none

/-- The stop of the session has been reported as a success during the event
`a` has just been through, and it came after the first `startedAt` messages. -/
def GnssAdapter.stopSucceeded (a : GnssAdapter) (startedAt : Nat) (key : LocationSessionKey) :
    Bool :=
  a.current.msg = .stopTracking key && startedAt ≤ a.current.number &&
    a.reports.contains (.response key.client .success key.id)

/-- The adapter, and what has been seen of each session since its last start. -/
structure Watched where
  adapter : GnssAdapter
  /-- How many messages there had been with that start. -/
  startedAt : LocationSessionKey → Nat
  /-- Its client has been removed. -/
  removed : LocationSessionKey → Bool
  /-- It has been stopped with a success response, or time based and erased
  by the stop; or it was seen in no map after its client was removed. -/
  ended : LocationSessionKey → Bool
  /-- The update whose options are stored. -/
  storedBy : LocationSessionKey → Option Nat

namespace Watched

def new (supported nHzNeeded known : Bool) : Watched where
  adapter := .new supported nHzNeeded known
  startedAt _ := 0
  removed _ := false
  ended _ := false
  storedBy _ := none

def next (w : Watched) (e : TrackingEvent) : Watched :=
  let a := w.adapter.next e
  { adapter := a
    startedAt key := if e.starts key then w.adapter.processed + 1 else w.startedAt key
    removed key := !e.starts key && (w.removed key || e.removes key)
    ended key := !e.starts key && (w.ended key || a.stopSucceeded (w.startedAt key) key ||
        (e.stops key && w.adapter.isTimeBasedTrackingSession key) ||
        ((w.removed key || e.removes key) && !a.has key))
    storedBy key :=
      if w.adapter.saves e = some key then w.adapter.savedUpdate e
      else if a.has key then w.storedBy key
      else none }

def step (w : Watched) (e : TrackingEvent) : Watched × List Report :=
  (w.next e, (w.adapter.step e).2)

/-- A session that is over is in no map. -/
def StaysOver (w : Watched) : Prop :=
  ∀ key, w.ended key = true → w.adapter.has key = false

/-- A failed answer to an update leaves the session as a later update stored it. -/
def KeepsLater (w : Watched) : TrackingEvent → Prop
  | .respond i err => ∀ r ∈ w.adapter.mLocApi.unanswered[i]?, err ≠ .success →
      ∀ key ∈ r.cause.msg.updates, ∀ m ∈ w.storedBy key, r.cause.number < m →
        (w.next (.respond i err)).adapter.entry key = w.adapter.entry key
  | _ => True

/-- No session is stopped, or reported stopped, that is in both maps; no answer
saves a session that is over; and no failed answer to an update saves or
erases a session whose options a later update has stored. -/
def AnswersWell (w : Watched) : TrackingEvent → Prop
  | .proc (.stopTracking key) =>
    ¬ (key ∈ w.adapter.mTimeBasedTrackingSessions ∧ key ∈ w.adapter.mDistanceBasedTrackingSessions)
  | .respond i err => ∀ r ∈ w.adapter.mLocApi.unanswered[i]?,
      (err = .success → ∀ key ∈ r.fn.stopsDistance, ¬ (key ∈ w.adapter.mTimeBasedTrackingSessions ∧
          key ∈ w.adapter.mDistanceBasedTrackingSessions)) ∧
      (∀ key ∈ GnssAdapter.savedByResponse w.adapter.mLocApi.engineLockState err r.fn,
        w.ended key = false) ∧
      (err ≠ .success → ∀ key ∈ r.cause.msg.updates, ∀ m ∈ w.storedBy key, r.cause.number < m →
        GnssAdapter.savedByResponse w.adapter.mLocApi.engineLockState err r.fn = none ∧
          GnssAdapter.erasedByResponse w.adapter.mLocApi.engineLockState err r.fn = none)
  | _ => True

instance (w : Watched) : (e : TrackingEvent) → Decidable (w.AnswersWell e)
  | .proc (.stopTracking key) =>
    inferInstanceAs (Decidable (¬ (key ∈ w.adapter.mTimeBasedTrackingSessions ∧
      key ∈ w.adapter.mDistanceBasedTrackingSessions)))
  | .respond i err => inferInstanceAs (Decidable (∀ r ∈ w.adapter.mLocApi.unanswered[i]?,
      (err = .success → ∀ key ∈ r.fn.stopsDistance, ¬ (key ∈ w.adapter.mTimeBasedTrackingSessions ∧
          key ∈ w.adapter.mDistanceBasedTrackingSessions)) ∧
      (∀ key ∈ GnssAdapter.savedByResponse w.adapter.mLocApi.engineLockState err r.fn,
        w.ended key = false) ∧
      (err ≠ .success → ∀ key ∈ r.cause.msg.updates, ∀ m ∈ w.storedBy key, r.cause.number < m →
        GnssAdapter.savedByResponse w.adapter.mLocApi.engineLockState err r.fn = none ∧
          GnssAdapter.erasedByResponse w.adapter.mLocApi.engineLockState err r.fn = none)))
  | .proc (.addClient _ _) | .proc (.startTracking _ _) | .proc (.updateTrackingOptions _ _)
  | .proc (.removeClient _) | .proc .engineUp | .engineLockState _ =>
    inferInstanceAs (Decidable True)

/-! ## Answers to stops -/

/-- The calls made while a stop was processed, and not yet answered: unless
distance based, the session has been over since, or was started again. -/
structure StopsFound (w : Watched) : Prop where
  number : ∀ r ∈ w.adapter.mLocApi.unanswered, r.cause.number < w.adapter.processed
  stops : ∀ r ∈ w.adapter.mLocApi.unanswered, ∀ key, r.cause.msg = .stopTracking key →
    r.fn = .stopDistanceBased key ∨ ((r.fn = .startTimeBased key ∨ r.fn = .stopFix key) ∧
        (w.startedAt key ≤ r.cause.number → w.ended key = true))

end Watched

namespace GnssAdapter

variable {a : GnssAdapter} {key : LocationSessionKey} {options : TrackingOptions} {fn : ResponseFn}
  {err : LocationError} {k : LocationSessionKey}

theorem calls_runTimeBased : ∀ r ∈ (a.runTimeBased key options fn).mLocApi.unanswered,
      r ∈ a.mLocApi.unanswered ∨ r.fn = fn := by
  intro r hr
  simp only [runTimeBased] at hr
  have hspe : (a.checkAndSetSPEToRunforNHz options).1.mLocApi = a.mLocApi :=
    checkAndSetSPEToRunforNHz_locApi
  split at hr
  case h_1 a' _ h =>
    rw [h] at hspe
    rw [reportResponse_locApi, hspe] at hr
    exact .inl hr
  case h_2 a' o h =>
    rw [h] at hspe
    rcases mem_append.mp hr with hr | hr
    · rw [hspe] at hr
      exact .inl hr
    · obtain rfl := mem_singleton.mp hr
      exact .inr rfl

theorem calls_stopTimeBasedSession : ∀ r ∈ (a.stopTimeBasedSession key).mLocApi.unanswered,
    r ∈ a.mLocApi.unanswered ∨ r.fn = .startTimeBased key ∨ r.fn = .stopFix key := by
  intro r hr
  rw [stopTimeBasedSession, eraseTrackingSession_locApi] at hr
  simp only [stopTimeBasedTrackingMultiplex] at hr
  split at hr
  · rcases mem_append.mp hr with hr | hr
    · exact .inl hr
    · obtain rfl := mem_singleton.mp hr
      exact .inr (.inr rfl)
  · split at hr
    · exact .inl hr
    · split at hr
      · rcases calls_runTimeBased r hr with hr | hr
        · exact .inl hr
        · exact .inr (.inl hr)
      · exact .inl hr

theorem mem_reports_reportResponse {rep : Report} (h : rep ∈ (a.reportResponse key err).reports) :
    rep ∈ a.reports ∨ rep = .response key.client err key.id := by
  simp only [reportResponse] at h
  split at h
  · split at h
    · simpa [report] using h
    · exact .inl h
  · exact .inl h

theorem mem_reports_erase {client id : Nat}
    (h : .response client err id ∈ (a.eraseTrackingSession key).reports) :
    .response client err id ∈ a.reports := by
  simp only [eraseTrackingSession, reportPowerStateIfChanged] at h
  split at h <;> split at h <;> simpa [report] using h

@[simp] theorem has_reportResponse : (a.reportResponse key err).has k = a.has k := by
  simp [has, isTimeBasedTrackingSession, isDistanceBasedTrackingSession]

@[simp] theorem has_reportIf {r : Bool} : (a.reportIf r key).has k = a.has k := by
  simp [has, isTimeBasedTrackingSession, isDistanceBasedTrackingSession]

section

variable (h : ¬ (key ∈ a.mTimeBasedTrackingSessions ∧ key ∈ a.mDistanceBasedTrackingSessions))
include h

theorem has_erase : (a.eraseTrackingSession key).has key = false := by
  rw [has, isTimeBasedTrackingSession, isDistanceBasedTrackingSession,
    eraseTrackingSession_timeBased, eraseTrackingSession_distanceBased]
  split
  case isTrue ht =>
    have hd : a.mDistanceBasedTrackingSessions.contains key = false :=
      Bool.eq_false_iff.mpr fun hd =>
        h ⟨isTimeBasedTrackingSession_iff.mp ht, Std.TreeMap.contains_iff_mem.mp hd⟩
    simpa using hd
  case isFalse ht =>
    rw [Bool.not_eq_true] at ht
    simpa [isTimeBasedTrackingSession] using ht

theorem has_stopTimeBasedSession : (a.stopTimeBasedSession key).has key = false := by
  have hsame : SameButFix a (a.stopTimeBasedTrackingMultiplex key).1 :=
    stopTimeBasedTrackingMultiplex_same
  refine has_erase ?_
  rwa [hsame.timeBased, hsame.distanceBased]

end

theorem of_ite_some_eq_none {p : Prop} [Decidable p]
    (h : (if p then some key else none) = none) : ¬ p := by
  intro hp
  rw [if_pos hp] at h
  cases h

@[simp] theorem entry_reportResponse : (a.reportResponse key err).entry k = a.entry k := by
  simp [entry]

theorem entry_procResponse (hsaved : savedByResponse a.mLocApi.engineLockState err fn = none)
    (herased : erasedByResponse a.mLocApi.engineLockState err fn = none) :
    (a.procResponse err fn).entry key = a.entry key := by
  cases fn with
  | ignore => rfl
  | switchToTimeBased k options => cases hsaved
  | stopFix k => simp [procResponse]
  | stoppedToRestart k options =>
    simp only [procResponse]
    split <;> rfl
  | updateTracking k old =>
    have hno := of_ite_some_eq_none hsaved
    simp [procResponse, hno]
  | restarted k options =>
    have hno := of_ite_some_eq_none hsaved
    simp [procResponse, hno]
  | startTimeBased k =>
    have hno := of_ite_some_eq_none herased
    simp [procResponse, hno]
  | startDistanceBased k =>
    have hno := of_ite_some_eq_none herased
    simp [procResponse, hno]
  | stopDistanceBased k =>
    have hno := of_ite_some_eq_none herased
    simp [procResponse, hno]
  | stopClientSession k =>
    have hno := of_ite_some_eq_none herased
    simp [procResponse, hno]

theorem calls_procResponse
    (hfn : fn = .stopDistanceBased key ∨ fn = .startTimeBased key ∨ fn = .stopFix key) :
    (a.procResponse err fn).mLocApi = a.mLocApi := by
  rcases hfn with rfl | rfl | rfl
  · simp only [procResponse, reportResponse_locApi]
    split <;> simp
  · simp only [procResponse, reportResponse_locApi]
    split <;> simp
  · simp [procResponse]

end GnssAdapter

namespace Watched

variable {w : Watched} {e : TrackingEvent}

theorem stopsFound_next (hf : w.StopsFound) : (w.next e).StopsFound := by
  have hold : ∀ r ∈ w.adapter.mLocApi.unanswered, ∀ key, r.cause.msg = .stopTracking key →
      r.fn = .stopDistanceBased key ∨ ((r.fn = .startTimeBased key ∨ r.fn = .stopFix key) ∧
        ((w.next e).startedAt key ≤ r.cause.number → (w.next e).ended key = true)) := by
    intro r hr key hmsg
    refine (hf.stops r hr key hmsg).imp_right fun ⟨hfn, hover⟩ => ⟨hfn, fun hle => ?_⟩
    have hlt := hf.number r hr
    cases hs : e.starts key with
    | true =>
      simp only [next, hs, if_true] at hle
      omega
    | false =>
      simp only [next, hs, Bool.false_eq_true, if_false] at hle
      simp [next, hs, hover hle]
  cases e with
  | engineLockState state => exact ⟨hf.number, hold⟩
  | proc msg =>
    have hfollows : Follows ((w.adapter.begin msg).savedByMsg msg) (w.adapter.begin msg)
        ((w.adapter.begin msg).procMsg msg) :=
      GnssAdapter.follows_procMsg
    have hprocessed : (w.next (.proc msg)).adapter.processed = w.adapter.processed + 1 :=
      hfollows.processed
    refine ⟨fun r hr => ?_, fun r hr key hmsg => ?_⟩
    · rw [hprocessed]
      rcases hfollows.calls r hr with hr | hr
      · exact Nat.lt_succ_of_lt (hf.number r hr)
      · rw [hr]
        exact Nat.lt_succ_self _
    · rcases hfollows.calls r hr with hr' | hr'
      · exact hold r hr' key hmsg
      · have hmsg' : msg = .stopTracking key := by
          rw [hr'] at hmsg
          exact hmsg
        subst hmsg'
        have hr : r ∈ ((w.adapter.begin (.stopTracking key)).stopTrackingCommand
          key).mLocApi.unanswered := hr
        simp only [GnssAdapter.stopTrackingCommand] at hr
        split at hr
        case isTrue ht =>
          rw [GnssAdapter.reportIf_locApi] at hr
          rcases GnssAdapter.calls_stopTimeBasedSession r hr with hr | hfn
          · exact hold r hr key hmsg
          · refine .inr ⟨hfn, fun _ => ?_⟩
            have ht : w.adapter.isTimeBasedTrackingSession key = true := ht
            simp [next, TrackingEvent.starts, TrackingEvent.stops, ht]
        case isFalse =>
          split at hr
          · rcases mem_append.mp hr with hr | hr
            · exact hold r hr key hmsg
            · obtain rfl := mem_singleton.mp hr
              exact .inl rfl
          · rw [GnssAdapter.reportResponse_locApi] at hr
            exact hold r hr key hmsg
  | respond i err =>
    cases hr0 : w.adapter.mLocApi.unanswered[i]? with
    | none =>
      have hnext : (w.next (.respond i err)).adapter = { w.adapter with reports := [] } := by
        simp only [next, GnssAdapter.next, hr0]
      refine ⟨?_, ?_⟩
      · rw [hnext]
        exact hf.number
      · intro r hr
        rw [hnext] at hr
        exact hold r hr
    | some r0 =>
      have hnext : (w.next (.respond i err)).adapter
          = (w.adapter.take i r0).procResponse err r0.fn := by
        simp only [next, GnssAdapter.next, hr0]
      have hmem0 : r0 ∈ w.adapter.mLocApi.unanswered := mem_of_getElem? hr0
      have hfollows : Follows (GnssAdapter.savedByResponse
          (w.adapter.take i r0).mLocApi.engineLockState err r0.fn) (w.adapter.take i r0)
          ((w.adapter.take i r0).procResponse err r0.fn) :=
        GnssAdapter.follows_procResponse
      rw [← hnext] at hfollows
      refine ⟨fun r hr => ?_, fun r hr key hmsg => ?_⟩
      · rw [hfollows.processed]
        rcases hfollows.calls r hr with hr | hr
        · exact hf.number r (mem_of_mem_eraseIdx hr)
        · rw [hr]
          exact hf.number r0 hmem0
      · rcases hfollows.calls r hr with hr' | hr'
        · exact hold r (mem_of_mem_eraseIdx hr') key hmsg
        · -- a stop's answer calls nothing, so that `r` was there before
          have hmsg0 : r0.cause.msg = .stopTracking key := by
            rw [hr'] at hmsg
            exact hmsg
          have hfn : r0.fn = .stopDistanceBased key ∨ r0.fn = .startTimeBased key ∨
              r0.fn = .stopFix key := (hf.stops r0 hmem0 key hmsg0).imp_right (·.1)
          rw [hnext, GnssAdapter.calls_procResponse hfn] at hr
          exact hold r (mem_of_mem_eraseIdx hr) key hmsg

theorem has_of_stopSucceeded (hw : w.StaysOver) (hf : w.StopsFound) (hok : w.AnswersWell e)
    {key : LocationSessionKey}
    (h : (w.adapter.next e).stopSucceeded (w.startedAt key) key = true) :
    (w.adapter.next e).has key = false := by
  simp only [GnssAdapter.stopSucceeded, Bool.and_eq_true, decide_eq_true_eq, contains_iff_mem] at h
  obtain ⟨⟨hmsg, hstarted⟩, hreport⟩ := h
  cases e with
  | engineLockState state => cases hreport
  | proc msg =>
    have hfollows : Follows ((w.adapter.begin msg).savedByMsg msg) (w.adapter.begin msg)
        ((w.adapter.begin msg).procMsg msg) :=
      GnssAdapter.follows_procMsg
    have hmsg' : msg = .stopTracking key := by
      have hcurrent : (w.adapter.next (.proc msg)).current = (w.adapter.begin msg).current :=
        hfollows.current
      rw [hcurrent] at hmsg
      exact hmsg
    subst hmsg'
    have hreport : .response key.client .success key.id ∈
      ((w.adapter.begin (.stopTracking key)).stopTrackingCommand key).reports := hreport
    show ((w.adapter.begin (.stopTracking key)).stopTrackingCommand key).has key = false
    simp only [GnssAdapter.stopTrackingCommand] at hreport ⊢
    split
    · rw [GnssAdapter.has_reportIf]
      exact GnssAdapter.has_stopTimeBasedSession (a := w.adapter.begin _) hok
    case isFalse ht =>
      rw [if_neg ht] at hreport
      split
      case isTrue hd =>
        rw [if_pos hd] at hreport
        cases hreport
      case isFalse hd =>
        rw [if_neg hd] at hreport
        rcases GnssAdapter.mem_reports_reportResponse hreport with h | h
        · cases h
        · cases h
  | respond i err =>
    cases hr : w.adapter.mLocApi.unanswered[i]? with
    | none =>
      simp only [GnssAdapter.next, hr] at hreport
      cases hreport
    | some r =>
      have hnext : w.adapter.next (.respond i err)
          = (w.adapter.take i r).procResponse err r.fn := by
        simp only [GnssAdapter.next, hr]
      have hfollows : Follows (GnssAdapter.savedByResponse
          (w.adapter.take i r).mLocApi.engineLockState err r.fn) (w.adapter.take i r)
          ((w.adapter.take i r).procResponse err r.fn) :=
        GnssAdapter.follows_procResponse
      rw [hnext] at hmsg hreport hstarted ⊢
      rw [hfollows.current] at hmsg hstarted
      obtain ⟨hboth, -, -⟩ := hok r hr
      rcases hf.stops r (mem_of_getElem? hr) key hmsg with hfn | ⟨hfn, hover⟩
      · -- the distance based session is erased as the stop is reported
        rw [hfn] at hreport hboth ⊢
        simp only [GnssAdapter.procResponse] at hreport ⊢
        have herr : err = .success := by
          rcases GnssAdapter.mem_reports_reportResponse hreport with h | h
          · split at h
            · cases GnssAdapter.mem_reports_erase h
            · cases h
          · cases h
            rfl
        rw [if_pos (.inr herr), GnssAdapter.has_reportResponse]
        exact GnssAdapter.has_erase (a := w.adapter.take i r) (hboth herr key rfl)
      · -- the time based session has been over since the stop
        have hgone := hw key (hover hstarted)
        have hsaved : GnssAdapter.savedByResponse
            (w.adapter.take i r).mLocApi.engineLockState err r.fn ≠ some key := by
          rcases hfn with hfn | hfn
          · rw [hfn]
            exact (some_ne_none key).symm
          · rw [hfn]
            exact (some_ne_none key).symm
        exact GnssAdapter.Follows.has hfollows hsaved hgone

theorem staysOver_next (hw : w.StaysOver) (hf : w.StopsFound) (hok : w.AnswersWell e) :
    (w.next e).StaysOver := by
  intro key hover
  simp only [next, Bool.and_eq_true, Bool.or_eq_true, Bool.not_eq_true'] at hover
  obtain ⟨hstart, hover⟩ := hover
  show (w.adapter.next e).has key = false
  rcases hover with ((hover | hstopped) | ⟨hstops, htime⟩) | ⟨-, hgone⟩
  · refine GnssAdapter.has_next ?_ (hw key hover)
    cases e with
    | engineLockState state => exact (some_ne_none key).symm
    | respond i err =>
      intro hsaved
      obtain ⟨r, hr, hsaved⟩ := bind_eq_some_iff.mp hsaved
      rw [(hok r hr).2.1 key hsaved] at hover
      cases hover
    | proc msg =>
      intro hsaved
      rcases GnssAdapter.starts_or_has_of_savedByMsg hsaved with ⟨o, rfl⟩ | hhas
      · simp [TrackingEvent.starts] at hstart
      · rw [hw key hover] at hhas
        cases hhas
  · exact has_of_stopSucceeded hw hf hok hstopped
  · cases e with
    | proc msg =>
      cases msg with
      | stopTracking k =>
        obtain rfl : k = key := of_decide_eq_true hstops
        have ht : (w.adapter.begin (.stopTracking k)).isTimeBasedTrackingSession k = true :=
          htime
        show ((w.adapter.begin (.stopTracking k)).stopTrackingCommand k).has k = false
        simp only [GnssAdapter.stopTrackingCommand, ht, if_true]
        rw [GnssAdapter.has_reportIf]
        exact GnssAdapter.has_stopTimeBasedSession (a := w.adapter.begin _) hok
      | _ => cases hstops
    | _ => cases hstops
  · exact hgone

theorem keepsLater_of_answersWell (hok : w.AnswersWell e) : w.KeepsLater e := by
  cases e with
  | proc msg => trivial
  | engineLockState state => trivial
  | respond i err =>
    intro r hr herr key hkey m hm hlt
    obtain ⟨-, -, hlater⟩ := hok r hr
    obtain ⟨hsaved, herased⟩ := hlater herr key hkey m hm hlt
    have hnext : (w.next (.respond i err)).adapter =
        (w.adapter.take i r).procResponse err r.fn := by
      simp only [next, GnssAdapter.next, mem_def.mp hr]
    rw [hnext]
    exact GnssAdapter.entry_procResponse (a := w.adapter.take i r) hsaved herased

theorem staysOver_new (supported nHzNeeded known : Bool) :
    (new supported nHzNeeded known).StaysOver :=
  fun _ h => nomatch h

theorem stopsFound_new (supported nHzNeeded known : Bool) :
    (new supported nHzNeeded known).StopsFound :=
  ⟨(fun _ h => nomatch h), (fun _ h => nomatch h)⟩

/-- In a run whose answers all come well, whatever their order and outcome,
no session comes back that is over, and no failed answer to an update undoes
a later update. -/
theorem staysOver_and_keepsLater {supported nHzNeeded known : Bool} {es : List TrackingEvent}
    (h : StepsMeet step AnswersWell (new supported nHzNeeded known) es) :
    StatesMeet step StaysOver (new supported nHzNeeded known) es ∧
      StepsMeet step KeepsLater (new supported nHzNeeded known) es := by
  constructor
  · have hrun : StatesMeet step (fun w => w.StaysOver ∧ w.StopsFound)
        (new supported nHzNeeded known) es :=
      statesMeet_of_stepsMeet
        (fun w e hw hok => ⟨staysOver_next hw.1 hw.2 hok, stopsFound_next hw.2⟩)
        ⟨staysOver_new _ _ _, stopsFound_new _ _ _⟩ h
    exact hrun.mono fun _ hw => hw.1
  · exact h.mono fun _ _ hok => keepsLater_of_answersWell hok

/-- A failed update is answered before the session is stopped. -/
theorem staysOver_and_keepsLater_inOrder : StatesMeet step StaysOver (new true false true)
        [.proc (.addClient 1 .all), .proc (.startTracking ⟨1, 1⟩ (.request 1000 0 .m2)),
          .respond 0 .success, .proc (.updateTrackingOptions ⟨1, 1⟩ (.request 2000 0 .m2)),
          .respond 0 .generalFailure, .proc (.stopTracking ⟨1, 1⟩), .respond 0 .success] ∧
      StepsMeet step KeepsLater (new true false true)
        [.proc (.addClient 1 .all), .proc (.startTracking ⟨1, 1⟩ (.request 1000 0 .m2)),
          .respond 0 .success, .proc (.updateTrackingOptions ⟨1, 1⟩ (.request 2000 0 .m2)),
          .respond 0 .generalFailure, .proc (.stopTracking ⟨1, 1⟩), .respond 0 .success] :=
  staysOver_and_keepsLater (by decide)

/-- A session stopped while its update is unanswered comes back when the
update fails; and of two updates the first, failing, undoes the second. -/
theorem not_staysOver_of_update : ¬ StatesMeet step StaysOver (new true false true)
        [.proc (.addClient 1 .all), .proc (.startTracking ⟨1, 1⟩ (.request 1000 0 .m2)),
          .respond 0 .success, .proc (.updateTrackingOptions ⟨1, 1⟩ (.request 2000 0 .m2)),
          .proc (.stopTracking ⟨1, 1⟩), .respond 0 .generalFailure, .respond 0 .success] ∧
      ¬ StepsMeet step KeepsLater (new true false true)
        [.proc (.addClient 1 .all), .proc (.startTracking ⟨1, 1⟩ (.request 1000 0 .m2)),
          .respond 0 .success, .proc (.updateTrackingOptions ⟨1, 1⟩ (.request 2000 0 .m2)),
          .proc (.updateTrackingOptions ⟨1, 1⟩ (.request 3000 0 .m2)),
          .respond 0 .generalFailure, .respond 0 .success] := by
  constructor
  · intro h
    have hgone := h.last ⟨1, 1⟩ (by decide)
    revert hgone
    decide
  · intro h
    have hkeeps := stepsMeet_iff.mp h
      [.proc (.addClient 1 .all), .proc (.startTracking ⟨1, 1⟩ (.request 1000 0 .m2)),
        .respond 0 .success, .proc (.updateTrackingOptions ⟨1, 1⟩ (.request 2000 0 .m2)),
        .proc (.updateTrackingOptions ⟨1, 1⟩ (.request 3000 0 .m2))]
      (.respond 0 .generalFailure) [.respond 0 .success] rfl _ rfl (by decide) ⟨1, 1⟩
      (by decide) 3 (by decide)
      (by decide)
    revert hkeeps
    decide

end Watched

end LocStack.Tracking
