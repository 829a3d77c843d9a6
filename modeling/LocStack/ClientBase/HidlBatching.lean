/-
# `LocStack.ClientBase.HidlBatching` — the two reports of a stop and a flush

BatchingAPIClient is the HIDL client that batches.  It asks for the batched
locations when the framework flushes and when a session is stopped, and all
of the answers are calls of `onBatchingCb`, which are told apart by a state
only:

    STOPPING            stopSession was called: the report goes to the cache,
                        and the state is STOPPED
    STARTED, STOPPED    the cache and the report go to the framework

A flush of an unknown session is answered by a thread with an empty report.
The client base underneath is that of `LocStack.ClientBase.Model`;
`waiting` are the requests it has accepted that are not answered, in any
order, and `threads` the empty reports.  `convertGnssLocation` is left out:
a location stands for what it is converted to.

`batching_iff`: what is reported is what has arrived, in its order, and no
more than once; and each step answers the flushes as it has to (`Right`) if
and only if

* a flush that is answered in STOPPING finds the cache empty, and brings no
  location;
* the report that leaves nothing to wait for is not taken in STOPPING while
  the framework has not been called since the last flush.
-/
import LocStack.ClientBase.Model

namespace LocStack.ClientBase

open Base
open Tracking (LocationError GnssSuplMode)

variable {α : Type*}

/-! ## The client -/

inductive BatchingState where
  | STARTED | STOPPING | STOPPED

/-- `IGnssBatching::Options` -/
structure HidlBatchingOptions where
  periodNanos : Int64
  flags : UInt8

def WAKEUP_ON_FIFO_FULL : UInt8 := 1

def LOCATION_CAPABILITIES_GNSS_MSB_BIT : BitVec 64 := 64#64
def LOCATION_CAPABILITIES_GNSS_MSA_BIT : BitVec 64 := 128#64

def UINT_MAX : UInt32 := 0xFFFFFFFF
def SIZE_MAX : Nat := 0xFFFFFFFFFFFFFFFF

/-- `LocationOptions`, and what TrackingOptions makes of them. -/
def convertBatchOption (opts : HidlBatchingOptions) (mask : BitVec 64) : TrackingOptions where
  size := 20
  minInterval := (opts.periodNanos / 1000000).toUInt64.toUInt32
  minDistance := 0
  mode :=
    if mask &&& LOCATION_CAPABILITIES_GNSS_MSB_BIT ≠ 0#64 then .msb
    else if mask &&& LOCATION_CAPABILITIES_GNSS_MSA_BIT ≠ 0#64 then .msa
    else .standalone
  locReqEngTypeMask := 0
  powerMode := .invalid
  tbm := 0

/-- The callback interface of the framework that is called. -/
inductive BatchingCbIface where
  | V1_0 | V2_0
  deriving DecidableEq

/-- A call of gnssLocationBatchCb. -/
structure GnssLocationBatch (α : Type*) where
  iface : BatchingCbIface
  locations : List α

structure BatchingAPIClient (α : Type*) where
  base : LocationAPIClientBase
  (mGnssBatchingCbIface mGnssBatchingCbIface_2_0 : Bool)
  mLocationCapabilitiesMask : BitVec 64
  mState : BatchingState
  mBatchedLocationInCache : List α

namespace BatchingAPIClient

def mDefaultId : UInt32 := UINT_MAX

/-- The constructor of one of the callbacks, which sets the callbacks of the
client base. -/
def new (callback : BatchingCbIface) : BatchingAPIClient α where
  base := LocationAPIClientBase.new.locAPISetCallbacks
  mGnssBatchingCbIface := decide (callback = .V1_0)
  mGnssBatchingCbIface_2_0 := decide (callback = .V2_0)
  mLocationCapabilitiesMask := 0#64
  mState := .STOPPED
  mBatchedLocationInCache := []

variable (s : BatchingAPIClient α)

/-- `session` is what LocationAPI returns, if a session is started. -/
def startSession (opts : HidlBatchingOptions) (session : UInt32) : BatchingAPIClient α :=
  let options := convertBatchOption opts s.mLocationCapabilitiesMask
  let mode := if opts.flags = WAKEUP_ON_FIFO_FULL then SESSION_MODE_ON_FULL else SESSION_MODE_NONE
  { s with
    mState := .STARTED
    base := (s.base.locAPIStartSession mDefaultId mode options session).2 }

/-- With whether the locations were asked for. -/
def stopSession : LocationError × BatchingAPIClient α :=
  let r := s.base.locAPIGetBatchedLocations mDefaultId SIZE_MAX
  (r.1, { s with mState := .STOPPING, base := (r.2.locAPIStopSession mDefaultId).2 })

def getBatchedLocation (last_n_locations : Int32) : LocationError × BatchingAPIClient α :=
  let count := last_n_locations.toInt64.toUInt64.toNat
  let r := s.base.locAPIGetBatchedLocations mDefaultId count
  (r.1, { s with base := r.2 })

/-- A thread is started if the session is unknown. -/
def flushBatchedLocations : LocationError × BatchingAPIClient α :=
  let r := s.base.locAPIGetBatchedLocations mDefaultId SIZE_MAX
  (r.1, { s with base := r.2 })

def gnssLocationBatchCb (locations : List α) : List (GnssLocationBatch α) :=
  if s.mGnssBatchingCbIface_2_0 then [⟨.V2_0, locations⟩]
  else if s.mGnssBatchingCbIface then [⟨.V1_0, locations⟩]
  else []

def onBatchingCb (location : List α) : BatchingAPIClient α × List (GnssLocationBatch α) :=
  match s.mState with
  | .STOPPING =>
    ({ s with
      mState := .STOPPED
      mBatchedLocationInCache := s.mBatchedLocationInCache ++ location }, [])
  | .STARTED | .STOPPED =>
    ({ s with mBatchedLocationInCache := [] },
      s.gnssLocationBatchCb (s.mBatchedLocationInCache ++ location))

end BatchingAPIClient

/-! ## The client and what answers it -/

/-- What the batched locations were asked for. -/
inductive AskedFor where
  | flush | stop | get

inductive BatchingEvent (α : Type*) where
  | startSession (opts : HidlBatchingOptions) (session : UInt32)
  | stopSession
  | getBatchedLocation (last_n_locations : Int32)
  | flushBatchedLocations
  | capabilities (mask : BitVec 64)
  /-- LocationAPI answers a call about a session. -/
  | response (error : LocationError) (id : UInt32)
  /-- The locations of a request that waits. -/
  | locations (i : Nat) (location : List α)
  /-- The thread of a flush runs. -/
  | thread
  /-- A batch that is full is reported without being asked for. -/
  | batchFull (location : List α)

/-- The client; and, of its past, what it waits for, every location that
arrived and that was reported, and whether the framework has not been called
since the last flush. -/
structure BatchingClient (α : Type*) where
  api : BatchingAPIClient α
  waiting : List AskedFor
  threads : Nat
  (arrived reported : List α)
  owed : Bool

namespace BatchingClient

def init (callback : BatchingCbIface) : BatchingClient α where
  api := .new callback
  waiting := []
  threads := 0
  arrived := []
  reported := []
  owed := false

variable (s : BatchingClient α)

/-- A request waits if it was accepted. -/
def asked (r : LocationError × BatchingAPIClient α) (purpose : AskedFor) : BatchingClient α :=
  { s with
    api := r.2
    waiting := if r.1 = LocationError.success then s.waiting ++ [purpose] else s.waiting }

def onBatchingCb (location : List α) : BatchingClient α × List (GnssLocationBatch α) :=
  let r := s.api.onBatchingCb location
  ({ s with
    api := r.1
    arrived := s.arrived ++ location
    reported := s.reported ++ r.2.flatMap GnssLocationBatch.locations
    owed := s.owed && r.2.isEmpty }, r.2)

def step : BatchingEvent α → BatchingClient α × List (GnssLocationBatch α)
  | .startSession opts session => ({ s with api := s.api.startSession opts session }, [])
  | .stopSession => (s.asked s.api.stopSession .stop, [])
  | .getBatchedLocation last_n_locations =>
    (s.asked (s.api.getBatchedLocation last_n_locations) .get, [])
  | .flushBatchedLocations =>
    let r := s.api.flushBatchedLocations
    let threads := if r.1 = LocationError.idUnknown then s.threads + 1 else s.threads
    ({ s.asked r .flush with threads := threads, owed := true }, [])
  | .capabilities mask => ({ s with api.mLocationCapabilitiesMask := mask }, [])
  | .response error id => ({ s with api.base := s.api.base.onResponseCb error id }, [])
  | .locations i location =>
    if i < s.waiting.length then
      { s with waiting := s.waiting.eraseIdx i }.onBatchingCb location
    else (s, [])
  | .thread =>
    if s.threads > 0 then { s with threads := s.threads - 1 }.onBatchingCb []
    else (s, [])
  | .batchFull location => s.onBatchingCb location

/-! ## The contract -/

/-- The locations that an event hands to `onBatchingCb`, if it calls it. -/
def handed : BatchingEvent α → Option (List α)
  | .locations i location => if i < s.waiting.length then some location else none
  | .thread => if s.threads > 0 then some [] else none
  | .batchFull location => some location
  | _ => none

/-- The event is the answer to a flush. -/
def AnswersFlush : BatchingEvent α → Prop
  | .locations i _ => s.waiting[i]? = some .flush
  | .thread => s.threads > 0
  | _ => False

/-- Nothing is waited for. -/
def Settled : Prop := s.waiting = [] ∧ s.threads = 0

/-- What has arrived was reported in its order, up to what is in the cache;
an answered flush leaves nothing in the cache; and with all answers taken,
the framework has been called since the last flush. -/
structure Right (s : BatchingClient α) (e : BatchingEvent α) : Prop where
  inOrder : (s.step e).1.reported ++ (s.step e).1.api.mBatchedLocationInCache = (s.step e).1.arrived
  flushed : s.AnswersFlush e → (s.step e).1.api.mBatchedLocationInCache = []
  followed : (s.step e).1.Settled → (s.step e).1.owed = false

/-- A report that is taken in STOPPING is none that a flush waits for. -/
structure Fits (s : BatchingClient α) (e : BatchingEvent α) : Prop where
  flushed : ∀ location, s.handed e = some location → s.api.mState = .STOPPING →
    s.AnswersFlush e → s.api.mBatchedLocationInCache ++ location = []
  followed : ∀ location, s.handed e = some location → s.api.mState = .STOPPING →
    (s.step e).1.Settled → s.owed = false

end BatchingClient

/-! ## The client base below -/

/-- The client base of a client that batches: there is a LocationAPI, and no
session tracks. -/
structure LocationAPIClientBase.Batches (c : LocationAPIClientBase) : Prop where
  api : c.mLocationAPI.isSome = true
  modes : ∀ session entity, c.mSessionBiDict.ext session = some entity →
    entity.sessionMode ≠ SESSION_MODE_ON_FIX

namespace LocationAPIClientBase.Batches

variable {c c' : LocationAPIClientBase}

variable (h : c.Batches)
include h

theorem congr (hapi : c'.mLocationAPI.isSome = true)
    (hdict : c'.mSessionBiDict = c.mSessionBiDict) : c'.Batches :=
  ⟨hapi, by rw [hdict]; exact h.modes⟩

theorem mode (id : UInt32) :
    (c.mSessionBiDict.getExtById id .zero).sessionMode ≠ SESSION_MODE_ON_FIX := by
  unfold BiDict.getExtById
  dsimp only
  split
  · rw [Std.TreeMap.getD_eq_getD_getElem?]
    cases hext : c.mSessionBiDict.ext (c.mSessionBiDict.getSession id) with
    | none =>
      rw [show c.mSessionBiDict.mExtMap[c.mSessionBiDict.getSession id]? = none from hext]
      decide
    | some entity =>
      rw [show c.mSessionBiDict.mExtMap[c.mSessionBiDict.getSession id]? = some entity from hext]
      exact h.modes _ _ hext
  · decide

theorem start {sessionMode : UInt32} (hmode : sessionMode ≠ SESSION_MODE_ON_FIX) (id : UInt32)
    (options : TrackingOptions) (session : UInt32) :
    (c.locAPIStartSession id sessionMode options session).2.Batches := by
  obtain ⟨api, hapi⟩ := Option.isSome_iff_exists.mp h.api
  unfold locAPIStartSession
  rw [hapi]
  dsimp only
  split
  · exact h
  · refine ⟨rfl, fun session' entity hext => ?_⟩
    change (c.mSessionBiDict.set id session _).ext session' = some entity at hext
    rw [BiDict.ext_set] at hext
    rcases eq_or_ne session' session with rfl | hne
    · rw [Function.update_self] at hext
      cases hext
      exact hmode
    · rw [Function.update_of_ne hne] at hext
      exact h.modes session' entity hext

theorem stop (id : UInt32) : (c.locAPIStopSession id).2.Batches := by
  obtain ⟨api, hapi⟩ := Option.isSome_iff_exists.mp h.api
  unfold locAPIStopSession
  rw [hapi]
  dsimp only
  split
  · rw [if_neg (h.mode id)]
    exact h.congr rfl rfl
  · exact h

theorem get (id : UInt32) (count : Nat) : ((c.locAPIGetBatchedLocations id count).1 = .success ∨
      (c.locAPIGetBatchedLocations id count).1 = .idUnknown) ∧
      (c.locAPIGetBatchedLocations id count).2.Batches := by
  obtain ⟨api, hapi⟩ := Option.isSome_iff_exists.mp h.api
  unfold locAPIGetBatchedLocations
  rw [hapi]
  dsimp only
  split
  · rw [if_pos (h.mode id)]
    exact ⟨.inl rfl, h.congr rfl rfl⟩
  · exact ⟨.inr rfl, h⟩

theorem removeSession (session : UInt32) : (c.removeSession session).Batches := by
  unfold LocationAPIClientBase.removeSession
  split
  · refine ⟨h.api, fun session' entity hext => ?_⟩
    change (c.mSessionBiDict.rmBySession session).ext session' = some entity at hext
    rw [BiDict.ext_rmBySession] at hext
    rcases eq_or_ne session' session with rfl | hne
    · rw [Function.update_self] at hext
      cases hext
    · rw [Function.update_of_ne hne] at hext
      exact h.modes session' entity hext
  · exact h

theorem onResponse (request : LocationAPIRequest) (error : LocationError) (id : UInt32) :
    (c.onResponse request error id).Batches := by
  unfold LocationAPIClientBase.onResponse
  cases request.kind with
  | startTracking | startBatching | stopTracking | stopBatching =>
    dsimp only
    split
    · exact (h.removeSession id).congr (h.removeSession id).api rfl
    · exact h.congr h.api rfl
  | updateTrackingOptions | updateBatchingOptions | getBatchedLocations | gnssNiResponse =>
    exact h.congr h.api rfl

theorem popBySession (session : UInt32) : (c.popBySession session).2.Batches := by
  unfold LocationAPIClientBase.popBySession
  split
  · exact h.congr h.api rfl
  · split
    · exact h.congr h.api rfl
    · exact h

theorem getRequestBySession (session : UInt32) : (c.getRequestBySession session).2.Batches := by
  have hpop := h.popBySession session
  unfold LocationAPIClientBase.getRequestBySession
  split
  · next request c' heq =>
      rw [heq] at hpop
      exact hpop
  · next c' heq =>
      rw [heq] at hpop
      split
      · exact hpop.congr hpop.api rfl
      · exact hpop

theorem onResponseCb (error : LocationError) (id : UInt32) : (c.onResponseCb error id).Batches := by
  have hrequest := h.getRequestBySession id
  unfold LocationAPIClientBase.onResponseCb
  split
  · next request c' heq =>
      rw [heq] at hrequest
      exact hrequest.onResponse request error id
  · next c' heq =>
      rw [heq] at hrequest
      exact hrequest

end LocationAPIClientBase.Batches

/-! ## One step -/

namespace BatchingAPIClient

variable {s : BatchingAPIClient α} {location : List α}

theorem onBatchingCb_stopping (h : s.mState = .STOPPING) : s.onBatchingCb location = ({ s with
      mState := .STOPPED
      mBatchedLocationInCache := s.mBatchedLocationInCache ++ location }, []) := by
  unfold onBatchingCb
  rw [h]

theorem onBatchingCb_reports (h : s.mState ≠ .STOPPING) :
    s.onBatchingCb location = ({ s with mBatchedLocationInCache := [] },
      s.gnssLocationBatchCb (s.mBatchedLocationInCache ++ location)) := by
  unfold onBatchingCb
  cases hstate : s.mState with
  | STOPPING => exact absurd hstate h
  | STARTED => rfl
  | STOPPED => rfl

theorem gnssLocationBatchCb_eq
    (h : s.mGnssBatchingCbIface = true ∨ s.mGnssBatchingCbIface_2_0 = true) (location : List α) :
    ∃ iface, s.gnssLocationBatchCb location = [⟨iface, location⟩] := by
  unfold gnssLocationBatchCb
  split
  · exact ⟨_, rfl⟩
  · next h2 =>
      rw [if_pos (h.resolve_right h2)]
      exact ⟨_, rfl⟩

end BatchingAPIClient

namespace BatchingClient

section Steps

variable {s : BatchingClient α} {location : List α}

structure Inv (s : BatchingClient α) : Prop where
  base : s.api.base.Batches
  callback : s.api.mGnssBatchingCbIface = true ∨ s.api.mGnssBatchingCbIface_2_0 = true
  inOrder : s.reported ++ s.api.mBatchedLocationInCache = s.arrived

theorem onBatchingCb_stopping (hstate : s.api.mState = .STOPPING) (location : List α) :
    (s.onBatchingCb location).1.api.mBatchedLocationInCache =
        s.api.mBatchedLocationInCache ++ location ∧
      (s.onBatchingCb location).1.owed = s.owed := by
  unfold onBatchingCb
  rw [BatchingAPIClient.onBatchingCb_stopping hstate]
  exact ⟨rfl, Bool.and_true _⟩

theorem onBatchingCb_reports (hinv : s.Inv) (hstate : s.api.mState ≠ .STOPPING)
    (location : List α) :
    (s.onBatchingCb location).1.api.mBatchedLocationInCache = [] ∧
      (s.onBatchingCb location).1.owed = false := by
  obtain ⟨iface, hcb⟩ := BatchingAPIClient.gnssLocationBatchCb_eq hinv.callback
    (s.api.mBatchedLocationInCache ++ location)
  unfold onBatchingCb
  rw [BatchingAPIClient.onBatchingCb_reports hstate, hcb]
  exact ⟨rfl, Bool.and_false _⟩

theorem Inv.onBatchingCb (hinv : s.Inv) (location : List α) :
    (s.onBatchingCb location).1.Inv := by
  unfold BatchingClient.onBatchingCb
  rcases eq_or_ne s.api.mState .STOPPING with hstate | hstate
  · rw [BatchingAPIClient.onBatchingCb_stopping hstate]
    refine ⟨hinv.base, hinv.callback, ?_⟩
    show s.reported ++ [] ++ (s.api.mBatchedLocationInCache ++ location) = s.arrived ++ location
    rw [List.append_nil, ← List.append_assoc, hinv.inOrder]
  · obtain ⟨iface, hcb⟩ := BatchingAPIClient.gnssLocationBatchCb_eq hinv.callback
      (s.api.mBatchedLocationInCache ++ location)
    rw [BatchingAPIClient.onBatchingCb_reports hstate, hcb]
    refine ⟨hinv.base, hinv.callback, ?_⟩
    show s.reported ++ (s.api.mBatchedLocationInCache ++ location ++ []) ++ [] =
      s.arrived ++ location
    rw [List.append_nil, List.append_nil, ← List.append_assoc, hinv.inOrder]

variable {r : LocationError × BatchingAPIClient α}

theorem Inv.asked (hinv : s.Inv) (purpose : AskedFor) (hbase : r.2.base.Batches)
    (hv1 : r.2.mGnssBatchingCbIface = s.api.mGnssBatchingCbIface)
    (hv2 : r.2.mGnssBatchingCbIface_2_0 = s.api.mGnssBatchingCbIface_2_0)
    (hcache : r.2.mBatchedLocationInCache = s.api.mBatchedLocationInCache) :
    (s.asked r purpose).Inv where
  base := hbase
  callback := by
    show r.2.mGnssBatchingCbIface = true ∨ r.2.mGnssBatchingCbIface_2_0 = true
    rw [hv1, hv2]
    exact hinv.callback
  inOrder := by
    show s.reported ++ r.2.mBatchedLocationInCache = s.arrived
    rw [hcache]
    exact hinv.inOrder

theorem waiting_of_asked {purpose : AskedFor} (h : (s.asked r purpose).waiting = []) :
    s.waiting = [] := by
  unfold asked at h
  dsimp only at h
  split at h
  · exact absurd h (by simp)
  · exact h

/-- A step hands locations to `onBatchingCb`, with one answer less to wait
for, or it leaves the cache alone. -/
theorem step_cases (hinv : s.Inv) (e : BatchingEvent α) :
    (∃ location waiting threads, s.handed e = some location ∧
      s.step e = onBatchingCb { s with waiting := waiting, threads := threads } location) ∨
    (s.handed e = none ∧ ¬ s.AnswersFlush e ∧
      ((s.step e).1.Settled → s.Settled ∧ (s.step e).1.owed = s.owed)) := by
  cases e with
  | startSession opts session => exact .inr ⟨rfl, id, fun h => ⟨h, rfl⟩⟩
  | stopSession =>
    refine .inr ⟨rfl, id, fun h => ⟨⟨?_, h.2⟩, rfl⟩⟩
    exact waiting_of_asked h.1
  | getBatchedLocation last_n_locations =>
    refine .inr ⟨rfl, id, fun h => ⟨⟨?_, h.2⟩, rfl⟩⟩
    exact waiting_of_asked h.1
  | flushBatchedLocations =>
    -- it is accepted, or a thread is started
    refine .inr ⟨rfl, id, fun h => ?_⟩
    have haccepted : s.api.flushBatchedLocations.1 = .success ∨
        s.api.flushBatchedLocations.1 = .idUnknown :=
      (hinv.base.get BatchingAPIClient.mDefaultId SIZE_MAX).1
    rcases haccepted with hsuccess | hunknown
    · have hwaiting := h.1
      change (if _ then _ else _) = [] at hwaiting
      rw [if_pos hsuccess] at hwaiting
      exact absurd hwaiting (by simp)
    · have hthreads := h.2
      change (if _ then _ else _) = 0 at hthreads
      rw [if_pos hunknown] at hthreads
      exact absurd hthreads (Nat.succ_ne_zero _)
  | capabilities mask => exact .inr ⟨rfl, id, fun h => ⟨h, rfl⟩⟩
  | response error id => exact .inr ⟨rfl, fun h => h, fun h => ⟨h, rfl⟩⟩
  | locations i location =>
    unfold step handed AnswersFlush
    dsimp only
    split
    · exact .inl ⟨location, s.waiting.eraseIdx i, s.threads, rfl, rfl⟩
    · next hlength =>
        refine .inr ⟨rfl, fun hflush => ?_, fun h => ⟨h, rfl⟩⟩
        rw [List.getElem?_eq_none (Nat.le_of_not_lt hlength)] at hflush
        cases hflush
  | thread =>
    unfold step handed AnswersFlush
    dsimp only
    split
    · exact .inl ⟨[], s.waiting, s.threads - 1, rfl, rfl⟩
    · next hthreads => exact .inr ⟨rfl, hthreads, fun h => ⟨h, rfl⟩⟩
  | batchFull location => exact .inl ⟨location, s.waiting, s.threads, rfl, rfl⟩

theorem inv_step (hinv : s.Inv) (e : BatchingEvent α) : (s.step e).1.Inv := by
  have hget (count : Nat) := (hinv.base.get BatchingAPIClient.mDefaultId count).2
  rcases step_cases hinv e with ⟨location, waiting, threads, -, hstep⟩ | ⟨hnone, -, -⟩
  · have hinv' : Inv { s with waiting := waiting, threads := threads } :=
      ⟨hinv.base, hinv.callback, hinv.inOrder⟩
    rw [hstep]
    exact hinv'.onBatchingCb location
  cases e with
  | startSession opts session =>
    refine ⟨hinv.base.start ?_ _ _ _, hinv.callback, hinv.inOrder⟩
    split <;> decide
  | stopSession => exact hinv.asked .stop ((hget _).stop _) rfl rfl rfl
  | getBatchedLocation last_n_locations => exact hinv.asked .get (hget _) rfl rfl rfl
  | flushBatchedLocations =>
    have hasked := hinv.asked (r := s.api.flushBatchedLocations) .flush (hget _) rfl rfl rfl
    exact ⟨hasked.base, hasked.callback, hasked.inOrder⟩
  | capabilities mask => exact ⟨hinv.base, hinv.callback, hinv.inOrder⟩
  | response error id => exact ⟨hinv.base.onResponseCb error id, hinv.callback, hinv.inOrder⟩
  | locations i location =>
    unfold handed at hnone
    dsimp only at hnone
    split at hnone
    · cases hnone
    · next hlength =>
        unfold step
        dsimp only
        rw [if_neg hlength]
        exact hinv
  | thread =>
    unfold handed at hnone
    dsimp only at hnone
    split at hnone
    · cases hnone
    · next hthreads =>
        unfold step
        dsimp only
        rw [if_neg hthreads]
        exact hinv
  | batchFull location => cases hnone

/-- A step meets the contract exactly if it fits, from a state in which the
framework has been called for all that is settled. -/
theorem right_iff_fitting (hinv : s.Inv) (hfollowed : s.Settled → s.owed = false)
    (e : BatchingEvent α) : Right s e ↔ Fits s e := by
  have horder := (inv_step hinv e).inOrder
  rcases step_cases hinv e with ⟨location, waiting, threads, hhanded, hstep⟩ | ⟨hnone, hno, hsame⟩
  · have hinv' : Inv { s with waiting := waiting, threads := threads } :=
      ⟨hinv.base, hinv.callback, hinv.inOrder⟩
    have hloc {location' : List α} (h : s.handed e = some location') : location' = location :=
      Option.some.inj (h.symm.trans hhanded)
    rcases eq_or_ne s.api.mState .STOPPING with hstate | hstate
    · obtain ⟨hcache, howed⟩ := onBatchingCb_stopping
        (s := { s with waiting := waiting, threads := threads }) hstate location
      rw [← hstep] at hcache howed
      constructor
      · rintro ⟨-, hflushed, hfollowed⟩
        refine ⟨fun location' hlocation' _ hanswers => ?_, fun _ _ _ hsettled => ?_⟩
        · rw [hloc hlocation']
          exact hcache.symm.trans (hflushed hanswers)
        · exact howed.symm.trans (hfollowed hsettled)
      · intro hfits
        refine ⟨horder, fun hanswers => ?_, fun hsettled => ?_⟩
        · exact hcache.trans (hfits.flushed location hhanded hstate hanswers)
        · exact howed.trans (hfits.followed location hhanded hstate hsettled)
    · obtain ⟨hcache, howed⟩ := onBatchingCb_reports hinv' hstate location
      rw [← hstep] at hcache howed
      constructor
      · exact fun _ => ⟨fun _ _ h => absurd h hstate, fun _ _ h => absurd h hstate⟩
      · exact fun _ => ⟨horder, fun _ => hcache, fun _ => howed⟩
  · have hnever {location : List α} (h : s.handed e = some location) : False := by
      rw [hnone] at h
      cases h
    constructor
    · exact fun _ => ⟨fun _ h => (hnever h).elim, fun _ h => (hnever h).elim⟩
    · intro _
      refine ⟨horder, fun h => absurd h hno, fun hsettled => ?_⟩
      obtain ⟨hbefore, howed⟩ := hsame hsettled
      exact howed.trans (hfollowed hbefore)

end Steps

/-- A run meets the contract exactly if every step fits. -/
theorem batching_iff (callback : BatchingCbIface) (es : List (BatchingEvent α)) :
    StepsMeet step Right (init callback) es ↔ StepsMeet step Fits (init callback) es := by
  have hinv : (init callback : BatchingClient α).Inv := by
    refine ⟨⟨rfl, fun session entity hext => ?_⟩, ?_, rfl⟩
    · change (BiDict.new : BiDict SessionEntity).ext session = some entity at hext
      rw [BiDict.ext_new] at hext
      cases hext
    · cases callback
      · exact .inl rfl
      · exact .inr rfl
  refine stepsMeet_congr (fun s => s.Inv ∧ (s.Settled → s.owed = false)) ?_ ?_
    ⟨hinv, fun _ => rfl⟩ es
  · intro s e hs hfits
    exact ⟨inv_step hs.1 e, ((right_iff_fitting hs.1 hs.2 e).mpr hfits).followed⟩
  · exact fun s e hs => right_iff_fitting hs.1 hs.2 e

/-- A session is stopped that was never started, and a flush comes: its empty
report is taken for that of the stop. -/
def unknownStop : List (BatchingEvent Nat) := [.stopSession, .flushBatchedLocations, .thread]

theorem not_right_unknownStop : ¬ StepsMeet step Right (init .V2_0) unknownStop ∧
      outs step (init .V2_0) unknownStop = [] := by
  refine ⟨fun h => ?_, by decide⟩
  have hright := stepsMeet_iff.mp h [.stopSession, .flushBatchedLocations] .thread [] rfl
  exact absurd (hright.followed ⟨rfl, rfl⟩) (by decide)

end BatchingClient

end LocStack.ClientBase
