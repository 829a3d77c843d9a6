/-
# `LocStack.ClientBase.ControlQueues` — what the queues of the control client hold

Each of the two queues that go by a session holds the requests of the calls
of that session, in their order, for as long as it is the session of the
queue.  Of the two others, neither has an address.

A call is one of two things to the client: it is `Asked` of
LocationControlAPI, or it is `Refused`.  An answer finds its request
(`Found`) where its session is the newest deletion's or the newest enable's.
-/
import LocStack.ClientBase.Control

namespace LocStack.ClientBase

open Base List
open Tracking (LocationError)

namespace LocationAPIControlClient

variable (c : LocationAPIControlClient)

/-- The queue holds the requests of the calls of its session. -/
def Waits (q : RequestQueue ControlRequest) : Prop :=
  q.mQueue = (ofKey ControlCall.ids (.session q.mSession) c.unanswered).map ControlCall.request

structure Kept : Prop where
  deleteSession : c.deleteAidingData.mSession = c.deletions.headD 0
  controlSession : c.control.mSession = c.controls.headD 0
  deletes : c.Waits c.deleteAidingData
  controls : c.Waits c.control
  updateArray : c.configUpdate.mSessionArrayPtr = none
  getArray : c.configGet.mSessionArrayPtr = none
  /-- The session of a call was returned for a deletion or an enable. -/
  known : ∀ call ∈ c.unanswered, ∀ id, call.ids = .session id →
    (id ∈ c.deletions ∨ id ∈ c.controls) ∧
      call.request.kind ≠ .gnssUpdateConfig ∧ call.request.kind ≠ .gnssGetConfig
  apart : ∀ id ∈ c.deletions, id ∉ c.controls
  nonzero : 0 ∉ c.deletions ∧ 0 ∉ c.controls

theorem kept_new (created : Bool) : (new created).Kept := by
  cases created with
  | true =>
    exact ⟨rfl, rfl, rfl, rfl, rfl, rfl, (fun _ h => nomatch h), (fun _ h => nomatch h),
      (fun h => nomatch h), (fun h => nomatch h)⟩
  | false =>
    exact ⟨rfl, rfl, rfl, rfl, rfl, rfl, (fun _ h => nomatch h), (fun _ h => nomatch h),
      (fun h => nomatch h), (fun h => nomatch h)⟩

section Queues

variable {c} {q : RequestQueue ControlRequest} {c' : LocationAPIControlClient} {call : ControlCall}

theorem Waits.of_ne (h : c.Waits q) (hcalls : c'.unanswered = c.unanswered ++ [call])
    (hne : call.ids ≠ .session q.mSession) : c'.Waits q := by
  unfold Waits
  rw [hcalls, ofKey_concat_of_ne _ hne]
  exact h

theorem Waits.push (h : c.Waits q) (hcalls : c'.unanswered = c.unanswered ++ [call])
    (hids : call.ids = .session q.mSession) : c'.Waits (q.push call.request) := by
  unfold Waits
  rw [hcalls]
  show q.mQueue ++ [call.request] =
    (ofKey ControlCall.ids (.session q.mSession) (c.unanswered ++ [call])).map ControlCall.request
  rw [ofKey_concat_self _ hids, map_append, h]
  rfl

theorem waits_reset {session : UInt32} (hnew : ∀ call ∈ c.unanswered, call.ids ≠ .session session)
    (hcalls : c'.unanswered = c.unanswered ++ [call]) (hids : call.ids = .session session) :
    c'.Waits ((q.reset session).push call.request) := by
  have hempty : c.Waits (q.reset session) := by
    unfold Waits
    show [] = (ofKey ControlCall.ids (.session session) c.unanswered).map ControlCall.request
    rw [ofKey_eq_nil.mpr hnew]
    rfl
  exact hempty.push hcalls hids

theorem Waits.settle_of_ne {ids : ControlIds} (h : c.Waits q)
    (hcalls : c'.unanswered = settle ControlCall.ids ids c.unanswered)
    (hne : .session q.mSession ≠ ids) : c'.Waits q := by
  unfold Waits
  rw [hcalls, ofKey_settle_of_ne hne]
  exact h

theorem Waits.pop (h : c.Waits q)
    (hcalls : c'.unanswered = settle ControlCall.ids (.session q.mSession) c.unanswered) :
    c'.Waits q.pop.2 := by
  unfold Waits
  rw [hcalls]
  show q.mQueue.tail = (ofKey ControlCall.ids (.session q.mSession)
    (settle ControlCall.ids (.session q.mSession) c.unanswered)).map ControlCall.request
  rw [ofKey_settle_self, map_tail, h]

end Queues

section Sessions

variable {c} {session : UInt32}

theorem headD_eq_iff {sessions : List UInt32} (h : session ≠ 0) :
    sessions.headD 0 = session ↔ sessions.head? = some session := by
  cases sessions with
  | nil => exact ⟨fun h0 => absurd h0.symm h, fun hnone => nomatch hnone⟩
  | cons first rest => exact ⟨congrArg some, Option.some.inj⟩

theorem Kept.deleteSession_iff (h : c.Kept) (hsession : session ≠ 0) :
    c.deleteAidingData.mSession = session ↔ c.deletions.head? = some session := by
  rw [h.deleteSession, headD_eq_iff hsession]

theorem Kept.controlSession_iff (h : c.Kept) (hsession : session ≠ 0) :
    c.control.mSession = session ↔ c.controls.head? = some session := by
  rw [h.controlSession, headD_eq_iff hsession]

theorem Kept.deleteSession_ne (h : c.Kept) (hsession : session ≠ 0)
    (hcontrol : c.control.mSession = session) : c.deleteAidingData.mSession ≠ session := by
  intro hdelete
  have hdeletions := mem_of_head? ((h.deleteSession_iff hsession).mp hdelete)
  have hcontrols := mem_of_head? ((h.controlSession_iff hsession).mp hcontrol)
  exact h.apart session hdeletions hcontrols

theorem Kept.fresh (h : c.Kept) (hnew : c.Returns session) :
    (∀ call ∈ c.unanswered, call.ids ≠ .session session) ∧
      c.deleteAidingData.mSession ≠ session ∧ c.control.mSession ≠ session := by
  obtain ⟨hsession, hdeletions, hcontrols⟩ := hnew
  refine ⟨fun call hcall hids => ?_, fun hdelete => ?_, fun hcontrol => ?_⟩
  · exact (h.known call hcall session hids).1.elim hdeletions hcontrols
  · exact hdeletions (mem_of_head? ((h.deleteSession_iff hsession).mp hdelete))
  · exact hcontrols (mem_of_head? ((h.controlSession_iff hsession).mp hcontrol))

theorem Kept.due_ne (h : c.Kept) (hdue : c.Due (.session session)) : session ≠ 0 := by
  obtain ⟨call, hcall, hids⟩ := hdue
  rintro rfl
  exact (h.known call hcall 0 hids).1.elim h.nonzero.1 h.nonzero.2

end Sessions

section Calls

variable {c} {c' : LocationAPIControlClient} {api : LocationControlAPI} {session : UInt32}
  {call : ControlCall}

section

variable (h : c.mLocationControlAPI = some api)
include h

theorem unanswered_of : c.unanswered = api.unanswered := by
  unfold unanswered
  rw [h]
  rfl

theorem deletions_of : c.deletions = api.deletions := by
  unfold deletions
  rw [h]
  rfl

theorem controls_of : c.controls = api.controls := by
  unfold controls
  rw [h]
  rfl

end

theorem Kept.known_concat (h : c.Kept) (hcalls : c'.unanswered = c.unanswered ++ [call])
    (hdeletions : c.deletions ⊆ c'.deletions) (hcontrols : c.controls ⊆ c'.controls)
    (hcall : ∀ id, call.ids = .session id → (id ∈ c'.deletions ∨ id ∈ c'.controls) ∧
      call.request.kind ≠ .gnssUpdateConfig ∧ call.request.kind ≠ .gnssGetConfig) :
    ∀ call ∈ c'.unanswered, ∀ id, call.ids = .session id → (id ∈ c'.deletions ∨ id ∈ c'.controls) ∧
        call.request.kind ≠ .gnssUpdateConfig ∧ call.request.kind ≠ .gnssGetConfig := by
  intro call' hcall' id hids
  rw [hcalls] at hcall'
  rcases mem_append.mp hcall' with hold | hlast
  · obtain ⟨hsession, hkind⟩ := h.known call' hold id hids
    exact ⟨hsession.imp (fun hd => hdeletions hd) (fun hc => hcontrols hc), hkind⟩
  · cases mem_singleton.mp hlast
    exact hcall id hids

theorem Kept.started (h : c.Kept) (hnew : c.Returns session)
    (hcalls : c'.unanswered = c.unanswered ++ [call]) (hids : call.ids = .session session)
    (hkind : call.request.kind ≠ .gnssUpdateConfig ∧ call.request.kind ≠ .gnssGetConfig)
    (hsessions : c'.deletions = session :: c.deletions ∧ c'.controls = c.controls ∨
      c'.deletions = c.deletions ∧ c'.controls = session :: c.controls)
    (hdelete : c'.deleteAidingData.mSession = c'.deletions.headD 0)
    (hcontrol : c'.control.mSession = c'.controls.headD 0)
    (hdeletes : c'.Waits c'.deleteAidingData) (hcontrols : c'.Waits c'.control)
    (hupdate : c'.configUpdate.mSessionArrayPtr = none)
    (hget : c'.configGet.mSessionArrayPtr = none) : c'.Kept where
  deleteSession := hdelete
  controlSession := hcontrol
  deletes := hdeletes
  controls := hcontrols
  updateArray := hupdate
  getArray := hget
  known := by
    have hsub : c.deletions ⊆ c'.deletions ∧ c.controls ⊆ c'.controls ∧
        (session ∈ c'.deletions ∨ session ∈ c'.controls) := by
      rcases hsessions with ⟨hd, hc⟩ | ⟨hd, hc⟩
      · rw [hd, hc]
        exact ⟨subset_cons_self .., List.Subset.refl _, .inl (mem_cons_self ..)⟩
      · rw [hd, hc]
        exact ⟨List.Subset.refl _, subset_cons_self .., .inr (mem_cons_self ..)⟩
    refine h.known_concat hcalls hsub.1 hsub.2.1 fun id hid => ?_
    cases ControlIds.session.inj (hids.symm.trans hid)
    exact ⟨hsub.2.2, hkind⟩
  apart := by
    intro id hd hc
    rcases hsessions with ⟨hdeletions, hcontrols⟩ | ⟨hdeletions, hcontrols⟩
    · rw [hdeletions] at hd
      rw [hcontrols] at hc
      rcases mem_cons.mp hd with rfl | hd
      · exact hnew.2.2 hc
      · exact h.apart id hd hc
    · rw [hdeletions] at hd
      rw [hcontrols] at hc
      rcases mem_cons.mp hc with rfl | hc
      · exact hnew.2.1 hd
      · exact h.apart id hd hc
  nonzero := by
    have hcons : ∀ {sessions : List UInt32}, 0 ∉ sessions → 0 ∉ session :: sessions :=
      fun hold h0 => (mem_cons.mp h0).elim (fun heq => hnew.1 heq.symm) hold
    rcases hsessions with ⟨hd, hc⟩ | ⟨hd, hc⟩
    · rw [hd, hc]
      exact ⟨hcons h.nonzero.1, h.nonzero.2⟩
    · rw [hd, hc]
      exact ⟨h.nonzero.1, hcons h.nonzero.2⟩

/-- A call that LocationControlAPI gets: its request is queued, to be
answered. -/
structure Asked (kind : ControlRequestKind) (result : LocationError × LocationAPIControlClient) :
    Prop where
  success : result.1 = LocationError.success
  kept : result.2.Kept
  callbacks : result.2.callbacks = c.callbacks
  calls : ∃ call : ControlCall, call.request = c.request kind ∧
    result.2.unanswered = c.unanswered ++ [call]
  queued : result.2.queued ≤ c.queued + 1
  counted : result.2.calls = c.calls

/-- A call that it does not get, or returns nothing for. -/
structure Refused (result : LocationError × LocationAPIControlClient) : Prop where
  error : result.1 ≠ LocationError.success
  kept : result.2.Kept
  callbacks : result.2.callbacks = c.callbacks
  unanswered : result.2.unanswered = c.unanswered
  queued : result.2.queued = c.queued
  counted : result.2.calls = c.calls

theorem Kept.refused (h : c.Kept) : c.Refused (.generalFailure, c) :=
  ⟨(fun herror => nomatch herror), h, rfl, rfl, rfl, rfl⟩

variable {config : GnssConfig}

section

variable (h : c.Kept) (hapi : c.mLocationControlAPI = some api)
include h hapi

theorem Kept.gnssUpdateConfig_none (hconfig : c.mConfig.equals config = false) :
    c.Refused (c.locAPIGnssUpdateConfig config none) := by
  have heq : c.locAPIGnssUpdateConfig config none =
      (.generalFailure, { c with mConfig := config }) := by
    unfold locAPIGnssUpdateConfig
    rw [hapi, hconfig]
    rfl
  have hkept : { c with mConfig := config }.Kept :=
    ⟨h.deleteSession, h.controlSession, h.deletes, h.controls, h.updateArray, h.getArray,
      h.known, h.apart, h.nonzero⟩
  rw [heq]
  exact ⟨(fun herror => nomatch herror), hkept, rfl, rfl, rfl, rfl⟩

theorem Kept.gnssDeleteAidingData (hnew : c.Returns session) (data : GnssAidingData) :
    c.Asked .gnssDeleteAidingData (c.locAPIGnssDeleteAidingData data session) := by
  let call : ControlCall :=
    ⟨.session session, .gnssDeleteAidingData data, c.request .gnssDeleteAidingData⟩
  let c' : LocationAPIControlClient :=
    { c with
      mLocationControlAPI := some (api.gnssDeleteAidingData data session call.request)
      deleteAidingData := (c.deleteAidingData.reset session).push call.request }
  have heq : c.locAPIGnssDeleteAidingData data session = (.success, c') := by
    unfold locAPIGnssDeleteAidingData
    rw [hapi]
  have hcalls : c'.unanswered = c.unanswered ++ [call] := by
    rw [unanswered_of hapi]
    rfl
  have hdeletions : c'.deletions = session :: c.deletions := by
    rw [deletions_of hapi]
    rfl
  have hcontrols : c'.controls = c.controls := (controls_of hapi).symm
  obtain ⟨hfresh, -, hne⟩ := h.fresh hnew
  have hother : call.ids ≠ .session c.control.mSession := by
    intro hids
    exact hne (ControlIds.session.inj hids).symm
  have hkept : c'.Kept :=
    h.started hnew hcalls rfl ⟨(fun hk => nomatch hk), fun hk => nomatch hk⟩
      (.inl ⟨hdeletions, hcontrols⟩) (by rw [hdeletions]; rfl)
      (by rw [hcontrols]; exact h.controlSession) (waits_reset hfresh hcalls rfl)
      (h.controls.of_ne hcalls hother) h.updateArray h.getArray
  have hqueued : c'.queued ≤ c.queued + 1 := by
    unfold queued
    simp only [c', RequestQueue.push, RequestQueue.reset, nil_append, length_singleton]
    omega
  rw [heq]
  exact ⟨rfl, hkept, rfl, ⟨call, rfl, hcalls⟩, hqueued, rfl⟩

theorem Kept.enable (hnew : c.Returns session) (henabled : c.mEnabled = false)
    (techType : LocationTechnologyType) : c.Asked .enable (c.locAPIEnable techType session) := by
  let call : ControlCall := ⟨.session session, .enable techType, c.request .enable⟩
  let c' : LocationAPIControlClient :=
    { c with
      mLocationControlAPI := some (api.enable techType session call.request)
      control := (c.control.reset session).push call.request
      mEnabled := true }
  have heq : c.locAPIEnable techType session = (.success, c') := by
    unfold locAPIEnable
    rw [henabled, hapi]
    rfl
  have hcalls : c'.unanswered = c.unanswered ++ [call] := by
    rw [unanswered_of hapi]
    rfl
  have hdeletions : c'.deletions = c.deletions := (deletions_of hapi).symm
  have hcontrols : c'.controls = session :: c.controls := by
    rw [controls_of hapi]
    rfl
  obtain ⟨hfresh, hne, -⟩ := h.fresh hnew
  have hother : call.ids ≠ .session c.deleteAidingData.mSession := by
    intro hids
    exact hne (ControlIds.session.inj hids).symm
  have hkept : c'.Kept :=
    h.started hnew hcalls rfl ⟨(fun hk => nomatch hk), fun hk => nomatch hk⟩
      (.inr ⟨hdeletions, hcontrols⟩) (by rw [hdeletions]; exact h.deleteSession)
      (by rw [hcontrols]; rfl) (h.deletes.of_ne hcalls hother)
      (waits_reset hfresh hcalls rfl) h.updateArray h.getArray
  have hqueued : c'.queued ≤ c.queued + 1 := by
    unfold queued
    simp only [c', RequestQueue.push, RequestQueue.reset, nil_append, length_singleton]
    omega
  rw [heq]
  exact ⟨rfl, hkept, rfl, ⟨call, rfl, hcalls⟩, hqueued, rfl⟩

end

theorem Kept.asked (h : c.Kept) (hcalls : c'.unanswered = c.unanswered ++ [call])
    (hdeletions : c'.deletions = c.deletions) (hcontrols : c'.controls = c.controls)
    (hdelete : c'.deleteAidingData = c.deleteAidingData)
    (hother : call.ids ≠ .session c.deleteAidingData.mSession)
    (hsession : c'.control.mSession = c.control.mSession) (hcontrol : c'.Waits c'.control)
    (hupdate : c'.configUpdate.mSessionArrayPtr = none)
    (hget : c'.configGet.mSessionArrayPtr = none)
    (hcall : ∀ id, call.ids = .session id → (id ∈ c.deletions ∨ id ∈ c.controls) ∧
      call.request.kind ≠ .gnssUpdateConfig ∧ call.request.kind ≠ .gnssGetConfig) :
    c'.Kept where
  deleteSession := by rw [hdelete, hdeletions]; exact h.deleteSession
  controlSession := by rw [hsession, hcontrols]; exact h.controlSession
  deletes := by rw [hdelete]; exact h.deletes.of_ne hcalls hother
  controls := hcontrol
  updateArray := hupdate
  getArray := hget
  known := by
    rw [← hdeletions, ← hcontrols] at hcall
    exact h.known_concat hcalls (hdeletions ▸ List.Subset.refl _)
      (hcontrols ▸ List.Subset.refl _) hcall
  apart := by rw [hdeletions, hcontrols]; exact h.apart
  nonzero := by rw [hdeletions, hcontrols]; exact h.nonzero

theorem Kept.disable (h : c.Kept) (hapi : c.mLocationControlAPI = some api)
    (henabled : c.mEnabled = true) (hsession : 0 < c.control.mSession) :
    c.Asked .disable (.success, c.locAPIDisable) := by
  let call : ControlCall := ⟨.session c.control.mSession, .disable, c.request .disable⟩
  let c' : LocationAPIControlClient :=
    { c with
      mLocationControlAPI := some (api.call call)
      control := c.control.push call.request
      mEnabled := false }
  have heq : c.locAPIDisable = c' := by
    unfold locAPIDisable
    rw [henabled, hapi]
    exact if_pos hsession
  have hcalls : c'.unanswered = c.unanswered ++ [call] := by
    rw [unanswered_of hapi]
    rfl
  have hne : c.control.mSession ≠ 0 := (UInt32.pos_iff_ne_zero).mp hsession
  have hother : call.ids ≠ .session c.deleteAidingData.mSession := by
    intro hids
    exact h.deleteSession_ne hne rfl (ControlIds.session.inj hids).symm
  have hmem : c.control.mSession ∈ c.controls :=
    mem_of_head? ((h.controlSession_iff hne).mp rfl)
  have hkept : c'.Kept := by
    refine h.asked hcalls (deletions_of hapi).symm (controls_of hapi).symm rfl hother rfl
      (h.controls.push hcalls rfl) h.updateArray h.getArray ?_
    intro id hids
    cases ControlIds.session.inj hids
    exact ⟨.inr hmem, (fun hk => nomatch hk), (fun hk => nomatch hk)⟩
  have hqueued : c'.queued ≤ c.queued + 1 := by
    unfold queued
    simp only [c', RequestQueue.push, length_append, length_singleton]
    omega
  rw [heq]
  exact ⟨rfl, hkept, rfl, ⟨call, rfl, hcalls⟩, hqueued, rfl⟩

theorem pushArray_eq {q : RequestQueue ControlRequest} (h : q.mSessionArrayPtr = none)
    (idArray : IdArray) (request : ControlRequest) :
    pushArray q idArray request = q.push request := by
  unfold pushArray
  rw [h]

variable (h : c.Kept) (hapi : c.mLocationControlAPI = some api)
include h hapi

theorem Kept.configured (call : ControlCall) (idArray : IdArray)
    (hids : call.ids = .array idArray.ids) (configUpdate configGet : RequestQueue ControlRequest)
    (mConfig : GnssConfig) (hupdate : configUpdate.mSessionArrayPtr = none)
    (hget : configGet.mSessionArrayPtr = none) : let c' : LocationAPIControlClient :=
      { c with mLocationControlAPI := some (api.call call), configUpdate, configGet, mConfig }
    c'.unanswered = c.unanswered ++ [call] ∧ c'.Kept := by
  intro c'
  have hcalls : c'.unanswered = c.unanswered ++ [call] := by
    rw [unanswered_of hapi]
    rfl
  have hne : ∀ session, call.ids ≠ .session session := by
    intro session hsession
    exact nomatch hids.symm.trans hsession
  refine ⟨hcalls, h.asked hcalls (deletions_of hapi).symm (controls_of hapi).symm rfl (hne _) rfl
    (h.controls.of_ne hcalls (hne _)) hupdate hget ?_⟩
  intro id hsession
  exact absurd hsession (hne id)

theorem Kept.gnssUpdateConfig (hconfig : c.mConfig.equals config = false) (idArray : IdArray) :
    c.Asked .gnssUpdateConfig (c.locAPIGnssUpdateConfig config (some idArray)) := by
  let call : ControlCall :=
    ⟨.array idArray.ids, .gnssUpdateConfig config, c.request .gnssUpdateConfig⟩
  let c' : LocationAPIControlClient :=
    { c with
      mLocationControlAPI := some (api.call call)
      configUpdate := c.configUpdate.push call.request
      mConfig := config }
  have heq : c.locAPIGnssUpdateConfig config (some idArray) = (.success, c') := by
    unfold locAPIGnssUpdateConfig
    rw [hapi, hconfig]
    show (LocationError.success, _) = (LocationError.success, _)
    rw [pushArray_eq h.updateArray]
    rfl
  obtain ⟨hcalls, hkept⟩ :=
    h.configured hapi call idArray rfl (c.configUpdate.push call.request) c.configGet config
      h.updateArray h.getArray
  have hqueued : c'.queued ≤ c.queued + 1 := by
    unfold queued
    simp only [c', RequestQueue.push, length_append, length_singleton]
    omega
  rw [heq]
  exact ⟨rfl, hkept, rfl, ⟨call, rfl, hcalls⟩, hqueued, rfl⟩

theorem Kept.gnssGetConfig (mask : UInt32) (idArray : IdArray) :
    c.Asked .gnssGetConfig (c.locAPIGnssGetConfig mask (some idArray)) := by
  let call : ControlCall := ⟨.array idArray.ids, .gnssGetConfig mask, c.request .gnssGetConfig⟩
  let c' : LocationAPIControlClient :=
    { c with
      mLocationControlAPI := some (api.call call)
      configGet := c.configGet.push call.request }
  have heq : c.locAPIGnssGetConfig mask (some idArray) = (.success, c') := by
    unfold locAPIGnssGetConfig
    rw [hapi]
    show (LocationError.success, _) = (LocationError.success, _)
    rw [pushArray_eq h.getArray]
  obtain ⟨hcalls, hkept⟩ :=
    h.configured hapi call idArray rfl c.configUpdate (c.configGet.push call.request) c.mConfig
      h.updateArray h.getArray
  have hqueued : c'.queued ≤ c.queued + 1 := by
    unfold queued
    simp only [c', RequestQueue.push, length_append, length_singleton]
    omega
  rw [heq]
  exact ⟨rfl, hkept, rfl, ⟨call, rfl, hcalls⟩, hqueued, rfl⟩

end Calls

section Answers

variable {c} {session : UInt32} {call : ControlCall} {ids : ControlIds}

theorem unanswered_answered :
    (c.answered ids).unanswered = settle ControlCall.ids ids c.unanswered := by
  unfold answered unanswered
  cases c.mLocationControlAPI <;> rfl

theorem deletions_answered : (c.answered ids).deletions = c.deletions := by
  unfold answered deletions
  cases c.mLocationControlAPI <;> rfl

theorem controls_answered : (c.answered ids).controls = c.controls := by
  unfold answered controls
  cases c.mLocationControlAPI <;> rfl

/-- What an answer makes of the client, when it finds the request of its
call. -/
structure Found (c : LocationAPIControlClient) (ids : ControlIds) (request : ControlRequest)
    (answer : ControlAnswer) (c' : LocationAPIControlClient) : Prop where
  kept : c'.Kept
  callbacks : c'.callbacks = c.callbacks ++ [(request, answer)]
  unanswered : c'.unanswered = settle ControlCall.ids ids c.unanswered
  queued : c'.queued + 1 = c.queued
  counted : c'.calls = c.calls

theorem Waits.head? {q : RequestQueue ControlRequest} (h : c.Waits q)
    (hcall : (ofKey ControlCall.ids (.session q.mSession) c.unanswered).head? = some call) :
    q.mQueue.head? = some call.request := by
  rw [h, List.head?_map, hcall]
  rfl

variable {c' : LocationAPIControlClient} {request : ControlRequest}

theorem onCtrlResponseCb_of_some (h : c.getRequestBySession session = (some request, c'))
    (hupdate : request.kind ≠ .gnssUpdateConfig) (hget : request.kind ≠ .gnssGetConfig)
    (error : LocationError) :
    c.onCtrlResponseCb error session = c'.invoked request (.response error) := by
  unfold onCtrlResponseCb
  rw [h]
  show c'.onResponse request error = _
  unfold onResponse
  cases hkind : request.kind with
  | gnssUpdateConfig => exact absurd hkind hupdate
  | gnssGetConfig => exact absurd hkind hget
  | gnssDeleteAidingData => rfl
  | enable => rfl
  | disable => rfl

theorem Kept.settled (h : c.Kept) (hcalls : c'.unanswered = settle ControlCall.ids ids c.unanswered)
    (hdeletions : c'.deletions = c.deletions) (hcontrols : c'.controls = c.controls)
    (hdelete : c'.deleteAidingData.mSession = c.deleteAidingData.mSession)
    (hdeletes : c'.Waits c'.deleteAidingData) (hcontrol : c'.control.mSession = c.control.mSession)
    (hwaits : c'.Waits c'.control) (hupdate : c'.configUpdate = c.configUpdate)
    (hget : c'.configGet = c.configGet) : c'.Kept where
  deleteSession := by rw [hdelete, hdeletions]; exact h.deleteSession
  controlSession := by rw [hcontrol, hcontrols]; exact h.controlSession
  deletes := hdeletes
  controls := hwaits
  updateArray := by rw [hupdate]; exact h.updateArray
  getArray := by rw [hget]; exact h.getArray
  known := by
    rw [hcalls, hdeletions, hcontrols]
    exact fun call hcall => h.known call (mem_of_mem_settle hcall)
  apart := by rw [hdeletions, hcontrols]; exact h.apart
  nonzero := by rw [hdeletions, hcontrols]; exact h.nonzero

theorem length_tail_add_one {requests : List ControlRequest} (h : requests.head? = some request) :
    requests.tail.length + 1 = requests.length := by
  cases requests with
  | nil => cases h
  | cons first rest => rfl

theorem Kept.response_deletion (h : c.Kept) (hsession : session ≠ 0)
    (hdelete : c.deleteAidingData.mSession = session)
    (hcall : (ofKey ControlCall.ids (.session session) c.unanswered).head? = some call)
    (error : LocationError) :
    Found c (.session session) call.request (.response error)
      ((c.answered (.session session)).onCtrlResponseCb error session) := by
  obtain ⟨hmem, hids⟩ := mem_of_head?_ofKey hcall
  obtain ⟨-, hupdate, hget⟩ := h.known call hmem session hids
  have hhead : c.deleteAidingData.mQueue.head? = some call.request := by
    refine h.deletes.head? ?_
    rw [hdelete]
    exact hcall
  have hother : ControlIds.session c.control.mSession ≠ .session session := by
    intro heq
    exact h.deleteSession_ne hsession (ControlIds.session.inj heq) hdelete
  have hfound : (c.answered (.session session)).getRequestBySession session = (some call.request,
        { c.answered (.session session) with
          deleteAidingData := c.deleteAidingData.pop.2 }) := by
    rw [← hhead]
    exact if_pos hdelete
  have hlength := length_tail_add_one hhead
  rw [onCtrlResponseCb_of_some hfound hupdate hget]
  refine ⟨?_, rfl, unanswered_answered, ?_, rfl⟩
  · exact h.settled unanswered_answered deletions_answered controls_answered rfl
      (h.deletes.pop (by rw [hdelete]; exact unanswered_answered)) rfl
      (h.controls.settle_of_ne unanswered_answered hother) rfl rfl
  · unfold queued
    show c.deleteAidingData.mQueue.tail.length + c.control.mQueue.length +
      c.configUpdate.mQueue.length + c.configGet.mQueue.length + 1 = _
    omega

theorem Kept.response_control (h : c.Kept) (hsession : session ≠ 0)
    (hcontrol : c.control.mSession = session)
    (hcall : (ofKey ControlCall.ids (.session session) c.unanswered).head? = some call)
    (error : LocationError) :
    Found c (.session session) call.request (.response error)
      ((c.answered (.session session)).onCtrlResponseCb error session) := by
  obtain ⟨hmem, hids⟩ := mem_of_head?_ofKey hcall
  obtain ⟨-, hupdate, hget⟩ := h.known call hmem session hids
  have hhead : c.control.mQueue.head? = some call.request := by
    refine h.controls.head? ?_
    rw [hcontrol]
    exact hcall
  have hne := h.deleteSession_ne hsession hcontrol
  have hother : ControlIds.session c.deleteAidingData.mSession ≠ .session session :=
    fun heq => hne (ControlIds.session.inj heq)
  have hfound : (c.answered (.session session)).getRequestBySession session =
      (some call.request, { c.answered (.session session) with control := c.control.pop.2 }) := by
    rw [← hhead]
    exact (if_neg hne).trans (if_pos hcontrol)
  have hlength := length_tail_add_one hhead
  rw [onCtrlResponseCb_of_some hfound hupdate hget]
  refine ⟨?_, rfl, unanswered_answered, ?_, rfl⟩
  · exact h.settled unanswered_answered deletions_answered controls_answered rfl
      (h.deletes.settle_of_ne unanswered_answered hother) rfl
      (h.controls.pop (by rw [hcontrol]; exact unanswered_answered)) rfl rfl
  · unfold queued
    show c.deleteAidingData.mQueue.length + c.control.mQueue.tail.length +
      c.configUpdate.mQueue.length + c.configGet.mQueue.length + 1 = _
    omega

theorem response_of_ne (hdelete : c.deleteAidingData.mSession ≠ session)
    (hcontrol : c.control.mSession ≠ session) (error : LocationError) :
    c.onCtrlResponseCb error session = c := by
  have hget : c.getRequestBySession session = (none, c) := (if_neg hdelete).trans (if_neg hcontrol)
  unfold onCtrlResponseCb
  rw [hget]

theorem collectiveResponse_eq (hupdate : c.configUpdate.mSessionArrayPtr = none)
    (hget : c.configGet.mSessionArrayPtr = none) (errors : List LocationError) (ids : IdArray) :
    c.onCtrlCollectiveResponseCb errors ids = c := by
  have hget' : c.getRequestBySessionArrayPtr ids.ptr = (none, c) := by
    unfold getRequestBySessionArrayPtr
    rw [hupdate, hget]
    rfl
  unfold onCtrlCollectiveResponseCb
  rw [hget']

end Answers

end LocationAPIControlClient

end LocStack.ClientBase
