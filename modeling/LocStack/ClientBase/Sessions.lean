/-
# `LocStack.ClientBase.Sessions` — what a request about a session does

A client keeps one LocationAPI session for each of its ids, a tracking or
a batching one by the session mode.  `Registered` is what the dictionary
always holds; from there each request either changes nothing or pushes one
request for its last call of LocationAPI, `Asked`, in one of these ways:

    start      a new session                       the id is set to it
    continue   a call about the session of the id  it is set to the same
    switch     the session is stopped, a new one   the id is set to it
    ask        a call about the session of the id  (not touched)
-/
import LocStack.ClientBase.Model

namespace LocStack.ClientBase

open Base Function
open Tracking (LocationError)

/-! ## The dictionary -/

/-- The session of an entity, by its mode. -/
def SessionEntity.own (entity : SessionEntity) : UInt32 :=
  if entity.sessionMode = SESSION_MODE_ON_FIX then entity.trackingSession
  else entity.batchingSession

/-- Every id has a session, which is the one of its entity. -/
structure Registered (d : BiDict SessionEntity) : Prop where
  inverse : d.MutuallyInverse
  entity : ∀ id session, d.forward id = some session →
    session ≠ 0 ∧ ∃ entity, d.ext session = some entity ∧ entity.own = session

namespace Registered

variable {d : BiDict SessionEntity} {id session : UInt32} {entity : SessionEntity}

theorem new : Registered .new where
  inverse := .new
  entity id session h := by
    rw [BiDict.forward_new] at h
    cases h

variable (h : Registered d)
include h

theorem set (hid : d.forward id = none) (hsession : d.backward session = none)
    (hpos : session ≠ 0) (hown : entity.own = session) : Registered (d.set id session entity) := by
  constructor
  · exact h.inverse.set_new hid hsession entity
  · intro id' session' hforward
    rw [BiDict.forward_set] at hforward
    rw [BiDict.ext_set]
    rcases eq_or_ne id' id with rfl | hne
    · rw [update_self] at hforward
      cases hforward
      exact ⟨hpos, entity, update_self .., hown⟩
    · rw [update_of_ne hne] at hforward
      have hsession' : session' ≠ session := by
        rintro rfl
        have hback := h.inverse.backward_of_forward hforward
        rw [hsession] at hback
        cases hback
      rw [update_of_ne hsession']
      exact h.entity id' session' hforward

theorem removed {d' : BiDict SessionEntity} (hback : d.backward session = some id)
    (hinverse : d'.MutuallyInverse) (hforward' : d'.forward = update d.forward id none)
    (hext : d'.ext = update d.ext session none) : Registered d' := by
  refine ⟨hinverse, fun id' session' hforward => ?_⟩
  rw [hforward'] at hforward
  have hne : id' ≠ id := by
    rintro rfl
    rw [update_self] at hforward
    cases hforward
  rw [update_of_ne hne] at hforward
  have hsession' : session' ≠ session := by
    rintro rfl
    have hback' := h.inverse.backward_of_forward hforward
    rw [hback] at hback'
    exact hne (Option.some.inj hback').symm
  rw [hext, update_of_ne hsession']
  exact h.entity id' session' hforward

theorem rmById (hid : d.forward id = some session) : Registered (d.rmById id) :=
  h.removed (h.inverse.backward_of_forward hid) (h.inverse.rmById hid) BiDict.forward_rmById
    (BiDict.ext_rmById hid)

theorem replace {old : UInt32} (hid : d.forward id = some old)
    (hsession : session = old ∨ d.backward session = none) (hpos : session ≠ 0)
    (hown : entity.own = session) : Registered ((d.rmById id).set id session entity) := by
  refine (h.rmById hid).set ?_ ?_ hpos hown
  · rw [BiDict.forward_rmById, update_self]
  · rw [BiDict.backward_rmById hid]
    rcases eq_or_ne session old with rfl | hne
    · exact update_self ..
    · rw [update_of_ne hne]
      exact hsession.resolve_left hne

theorem rmBySession (hsession : d.backward session = some id) :
    Registered (d.rmBySession session) :=
  h.removed hsession (h.inverse.rmBySession hsession) (BiDict.forward_rmBySession hsession)
    BiDict.ext_rmBySession

theorem exists_entity (hid : d.hasId id = true) :
    ∃ session entity, d.forward id = some session ∧ d.ext session = some entity ∧
      entity.own = session ∧ d.getExtById id .zero = entity := by
  obtain ⟨session, hforward⟩ := BiDict.hasId_iff.mp hid
  obtain ⟨hpos, entity, hext, hown⟩ := h.entity id session hforward
  exact ⟨session, entity, hforward, hext, hown, BiDict.getExtById_of hforward hpos hext⟩

end Registered

/-! ## The requests -/

/-- What starts a session of the mode. -/
def startCall (sessionMode : UInt32) (options : TrackingOptions) : ApiCall :=
  if sessionMode = SESSION_MODE_ON_FIX then .startTracking options
  else .startBatching (LocationAPIClientBase.populate
    (LocationAPIClientBase.batchOptionsOf sessionMode) options)

/-- What updates one of the same kind: for batching, without the values of
the options. -/
def updateCall (sessionMode : UInt32) (options : TrackingOptions) : ApiCall :=
  if sessionMode = SESSION_MODE_ON_FIX then .updateTrackingOptions options
  else .updateBatchingOptions (LocationAPIClientBase.batchOptionsOf sessionMode)

def stopCall (sessionMode : UInt32) : ApiCall :=
  if sessionMode = SESSION_MODE_ON_FIX then .stopTracking else .stopBatching

namespace LocationAPIClientBase

/-- A request more: LocationAPI and the dictionary are as told, and what is
not about sessions is not touched. -/
structure Asked (c : LocationAPIClientBase) (kind : RequestKind) (api : LocationAPI)
    (dict : BiDict SessionEntity) (c' : LocationAPIClientBase) : Prop where
  mLocationAPI : c'.mLocationAPI = some api
  mSessionBiDict : c'.mSessionBiDict = dict
  queue : c'.requestSession.mQueue = c.requestSession.mQueue ++ [c.request kind]
  made : c'.made = c.made + 1
  callbacks : c'.callbacks = c.callbacks
  requestTracking : c'.requestTracking = c.requestTracking
  requestNiResponse : c'.requestNiResponse = c.requestNiResponse

variable {c : LocationAPIClientBase} {api : LocationAPI}

theorem forward_of_not_hasId {id : UInt32} (hid : ¬ c.mSessionBiDict.hasId id = true) :
    c.mSessionBiDict.forward id = none :=
  Option.eq_none_iff_forall_ne_some.mpr fun session hforward =>
    hid (BiDict.hasId_iff.mpr ⟨session, hforward⟩)

theorem locAPIStartSession_of_none (hapi : c.mLocationAPI = none) (id sessionMode : UInt32)
    (options : TrackingOptions) (session : UInt32) :
    c.locAPIStartSession id sessionMode options session = (.generalFailure, c) := by
  unfold locAPIStartSession
  rw [hapi]

theorem locAPIUpdateSessionOptions_of_none (hapi : c.mLocationAPI = none)
    (id sessionMode : UInt32) (options : TrackingOptions) (session : UInt32) :
    c.locAPIUpdateSessionOptions id sessionMode options session = (.generalFailure, c) := by
  unfold locAPIUpdateSessionOptions
  rw [hapi]

theorem locAPIStartSession_cases (hapi : c.mLocationAPI = some api)
    (id sessionMode : UInt32) (options : TrackingOptions) (session : UInt32) :
    c.mSessionBiDict.hasId id = true ∧
        c.locAPIStartSession id sessionMode options session = (.alreadyStarted, c) ∨
      c.mSessionBiDict.forward id = none ∧
        (c.locAPIStartSession id sessionMode options session).1 = .success ∧
          ∃ kind entity, entity.own = session ∧ entity.sessionMode = sessionMode ∧ c.Asked kind
              (api.start session (startCall sessionMode options) (some (c.request kind)))
              (c.mSessionBiDict.set id session entity)
              (c.locAPIStartSession id sessionMode options session).2 := by
  unfold locAPIStartSession
  rw [hapi]
  by_cases hid : c.mSessionBiDict.hasId id = true
  · exact .inl ⟨hid, if_pos hid⟩
  · refine .inr ⟨forward_of_not_hasId hid, ?_⟩
    dsimp only
    rw [if_neg hid]
    by_cases hfix : sessionMode = SESSION_MODE_ON_FIX
    · rw [if_pos hfix]
      refine ⟨rfl, .startTracking,
        { id, trackingSession := session, batchingSession := 0, sessionMode }, if_pos hfix, rfl,
        ⟨?_, rfl, rfl, rfl, rfl, rfl, rfl⟩⟩
      unfold startCall
      rw [if_pos hfix]
    · rw [if_neg hfix]
      refine ⟨rfl, .startBatching,
        { id, trackingSession := 0, batchingSession := session, sessionMode }, if_neg hfix, rfl,
        ⟨?_, rfl, rfl, rfl, rfl, rfl, rfl⟩⟩
      unfold startCall
      rw [if_neg hfix]

theorem locAPIUpdateSessionOptions_cases (h : Registered c.mSessionBiDict)
    (hapi : c.mLocationAPI = some api) (id sessionMode : UInt32) (options : TrackingOptions)
    (session : UInt32) :
    c.mSessionBiDict.forward id = none ∧
        c.locAPIUpdateSessionOptions id sessionMode options session = (.idUnknown, c) ∨
      ∃ old entity, c.mSessionBiDict.forward id = some old ∧
        c.mSessionBiDict.ext old = some entity ∧
          (c.locAPIUpdateSessionOptions id sessionMode options session).1 = .success ∧
            ∃ kind entity', entity'.sessionMode = sessionMode ∧
              ((entity.sessionMode = SESSION_MODE_ON_FIX ↔ sessionMode = SESSION_MODE_ON_FIX) ∧
                  entity'.own = old ∧
                  c.Asked kind
                    (api.call old (updateCall sessionMode options) (some (c.request kind)))
                    ((c.mSessionBiDict.rmById id).set id old entity')
                    (c.locAPIUpdateSessionOptions id sessionMode options session).2 ∨
                ¬ (entity.sessionMode = SESSION_MODE_ON_FIX ↔ sessionMode = SESSION_MODE_ON_FIX) ∧
                  entity'.own = session ∧
                  c.Asked kind ((api.call old (stopCall entity.sessionMode) none).start session
                      (startCall sessionMode options) (some (c.request kind)))
                    ((c.mSessionBiDict.rmById id).set id session entity')
                    (c.locAPIUpdateSessionOptions id sessionMode options session).2) := by
  unfold locAPIUpdateSessionOptions
  rw [hapi]
  by_cases hid : c.mSessionBiDict.hasId id = true
  · obtain ⟨old, entity, hforward, hext, hown, hget⟩ := h.exists_entity hid
    refine .inr ⟨old, entity, hforward, hext, ?_⟩
    dsimp only
    rw [if_pos hid, hget]
    unfold SessionEntity.own at hown
    by_cases hfix : sessionMode = SESSION_MODE_ON_FIX
    · by_cases hfix' : entity.sessionMode = SESSION_MODE_ON_FIX
      · rw [if_pos hfix'] at hown
        rw [if_pos hfix, if_pos hfix']
        refine ⟨rfl, .updateTrackingOptions, { entity with sessionMode }, rfl,
          .inl ⟨iff_of_true hfix' hfix, (if_pos hfix).trans hown, ?_⟩⟩
        rw [← hown]
        refine ⟨?_, rfl, rfl, rfl, rfl, rfl, rfl⟩
        unfold updateCall
        rw [if_pos hfix]
      · rw [if_neg hfix'] at hown
        rw [if_pos hfix, if_neg hfix']
        refine ⟨rfl, .updateTrackingOptions,
          { entity with trackingSession := session, batchingSession := 0, sessionMode }, rfl,
          .inr ⟨fun hiff => hfix' (hiff.mpr hfix), if_pos hfix, ?_⟩⟩
        rw [← hown]
        refine ⟨?_, rfl, rfl, rfl, rfl, rfl, rfl⟩
        unfold startCall stopCall
        rw [if_pos hfix, if_neg hfix']
    · by_cases hfix' : entity.sessionMode = SESSION_MODE_ON_FIX
      · rw [if_pos hfix'] at hown
        rw [if_neg hfix, if_pos hfix']
        refine ⟨rfl, .updateBatchingOptions,
          { entity with trackingSession := 0, batchingSession := session, sessionMode }, rfl,
          .inr ⟨fun hiff => hfix (hiff.mp hfix'), if_neg hfix, ?_⟩⟩
        rw [← hown]
        refine ⟨?_, rfl, rfl, rfl, rfl, rfl, rfl⟩
        unfold startCall stopCall
        rw [if_neg hfix, if_pos hfix']
      · rw [if_neg hfix'] at hown
        rw [if_neg hfix, if_neg hfix']
        refine ⟨rfl, .updateBatchingOptions, { entity with sessionMode }, rfl,
          .inl ⟨iff_of_false hfix' hfix, (if_neg hfix).trans hown, ?_⟩⟩
        rw [← hown]
        refine ⟨?_, rfl, rfl, rfl, rfl, rfl, rfl⟩
        unfold updateCall
        rw [if_neg hfix]
  · exact .inl ⟨forward_of_not_hasId hid, if_neg hid⟩

/-- A call about the session of the id, which goes on. -/
def Asks (c : LocationAPIClientBase) (api : LocationAPI) (id : UInt32)
    (c' : LocationAPIClientBase) : Prop :=
  ∃ session call kind, c.mSessionBiDict.forward id = some session ∧
    c.Asked kind (api.call session call (some (c.request kind))) c.mSessionBiDict c'

variable (h : Registered c.mSessionBiDict) (hapi : c.mLocationAPI = some api) (id : UInt32)
include h hapi id

theorem locAPIStopSession_cases :
    (c.locAPIStopSession id).2 = c ∨ c.Asks api id (c.locAPIStopSession id).2 := by
  unfold locAPIStopSession
  rw [hapi]
  by_cases hid : c.mSessionBiDict.hasId id = true
  · obtain ⟨session, entity, hforward, -, hown, hget⟩ := h.exists_entity hid
    dsimp only
    rw [if_pos hid, hget]
    unfold SessionEntity.own at hown
    by_cases hfix : entity.sessionMode = SESSION_MODE_ON_FIX
    · rw [if_pos hfix] at hown
      rw [if_pos hfix, hown]
      exact .inr ⟨session, .stopTracking, .stopTracking, hforward,
        ⟨rfl, rfl, rfl, rfl, rfl, rfl, rfl⟩⟩
    · rw [if_neg hfix] at hown
      rw [if_neg hfix, hown]
      exact .inr ⟨session, .stopBatching, .stopBatching, hforward,
        ⟨rfl, rfl, rfl, rfl, rfl, rfl, rfl⟩⟩
  · exact .inl (congrArg Prod.snd (if_neg hid))

theorem locAPIGetBatchedLocations_cases (count : Nat) :
    (c.locAPIGetBatchedLocations id count).2 = c ∨
      c.Asks api id (c.locAPIGetBatchedLocations id count).2 := by
  unfold locAPIGetBatchedLocations
  rw [hapi]
  by_cases hid : c.mSessionBiDict.hasId id = true
  · obtain ⟨session, entity, hforward, -, hown, hget⟩ := h.exists_entity hid
    dsimp only
    rw [if_pos hid, hget]
    unfold SessionEntity.own at hown
    by_cases hfix : entity.sessionMode = SESSION_MODE_ON_FIX
    · exact .inl (congrArg Prod.snd (if_neg (not_not_intro hfix)))
    · rw [if_neg hfix] at hown
      rw [if_pos hfix, hown]
      exact .inr ⟨session, .getBatchedLocations count, .getBatchedLocations, hforward,
        ⟨rfl, rfl, rfl, rfl, rfl, rfl, rfl⟩⟩
  · exact .inl (congrArg Prod.snd (if_neg hid))

end LocationAPIClientBase

end LocStack.ClientBase
