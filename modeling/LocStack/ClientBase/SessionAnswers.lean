/-
# `LocStack.ClientBase.SessionAnswers` — whose callback does an answer invoke?

The requests about all sessions wait in one queue, and an answer about a
session that the dictionary has takes the oldest of them, whichever session
that is about.  As long as the answers have found their requests the queue
is the requests of the unanswered calls, in the order of the calls:

    Queued.queue      requestSession.mQueue = unanswered.filterMap Call.request

`matched_iff`: every answer invokes the callback of the request that its
call was made for, and the answer to a call that was made for none invokes
none, if and only if each answer is to the oldest call of all that have a
request, and its session is still in the dictionary.
-/
import LocStack.ClientBase.Sessions

namespace LocStack.ClientBase

open Base List Function Option
open Tracking (LocationError)

/-- Each with the id that LocationAPI returns, if it starts a session. -/
inductive AnswersEvent where
  | setCallbacks
  | startSession (id sessionMode : UInt32) (options : TrackingOptions) (session : UInt32)
  | updateSessionOptions (id sessionMode : UInt32) (options : TrackingOptions) (session : UInt32)
  | stopSession (id : UInt32)
  | getBatchedLocations (id : UInt32) (count : Nat)
  /-- The oldest call about the session is answered. -/
  | respond (session : UInt32) (error : LocationError)

namespace Answered

variable (s : Answered)

/-- The client after a request: LocationAPI returns no id but a new one. -/
def request (session : UInt32) (c : LocationAPIClientBase) : Answered :=
  if c.ids = s.client.ids ∨ s.client.Returns session then { s with client := c } else s

def next : AnswersEvent → Answered
  | .setCallbacks => { s with client := s.client.locAPISetCallbacks }
  | .startSession id sessionMode options session =>
    s.request session (s.client.locAPIStartSession id sessionMode options session).2
  | .updateSessionOptions id sessionMode options session =>
    s.request session (s.client.locAPIUpdateSessionOptions id sessionMode options session).2
  | .stopSession id => { s with client := (s.client.locAPIStopSession id).2 }
  | .getBatchedLocations id count =>
    { s with client := (s.client.locAPIGetBatchedLocations id count).2 }
  | .respond session error => s.respond session error

def step (e : AnswersEvent) : Answered × List Empty := (s.next e, [])

/-- The oldest call of all that was made for a request. -/
def front : Option Call := s.client.unanswered.find? fun call => call.request.isSome

/-- An answer to a call that was made for a request is to the oldest of
these, and its session is in the dictionary. -/
def Fits : AnswersEvent → Prop
  | .respond session _ => ∀ call, s.oldest session = some call → call.request.isSome →
      s.client.mSessionBiDict.hasSession session = true ∧ s.front = some call
  | _ => True

end Answered

/-! ## The queue and the calls -/

namespace LocationAPIClientBase

/-- What is known of a client whose answers have found their requests. -/
structure Queued (c : LocationAPIClientBase) : Prop where
  registered : Registered c.mSessionBiDict
  queue : c.requestSession.mQueue = c.unanswered.filterMap Call.request
  made : ∀ call ∈ c.unanswered, ∀ request, call.request = some request → request.object < c.made
  distinct : ∀ call ∈ c.unanswered, ∀ call' ∈ c.unanswered, ∀ request,
    call.request = some request → call'.request = some request → call = call'
  known : ∀ call ∈ c.unanswered, call.session ∈ c.ids
  given : ∀ session id, c.mSessionBiDict.backward session = some id → session ∈ c.ids
  /-- A session that was stopped to go on as another is not in the
  dictionary. -/
  stopped : ∀ call ∈ c.unanswered, call.request = none →
    c.mSessionBiDict.backward call.session = none
  requestTracking : c.requestTracking = .new
  requestNiResponse : c.requestNiResponse = .new

variable {c c' : LocationAPIClientBase} {api api' : LocationAPI}

theorem queued_new : new.Queued where
  registered := .new
  queue := rfl
  made := forall_mem_nil _
  distinct := forall_mem_nil _
  known := forall_mem_nil _
  given session id hback := by
    have hnone : new.mSessionBiDict.backward session = none :=
      congrFun BiDict.backward_new session
    rw [hnone] at hback
    cases hback
  stopped := forall_mem_nil _
  requestTracking := rfl
  requestNiResponse := rfl

theorem Queued.setCallbacks (h : c.Queued) : c.locAPISetCallbacks.Queued := by
  rcases c.locAPISetCallbacks_cases with heq | ⟨heq, hunanswered, hids⟩
  · rw [heq]
    exact h
  · have hqueue := h.queue
    have hgiven := h.given
    rw [hunanswered] at hqueue
    rw [hids] at hgiven
    rw [heq]
    exact ⟨h.registered, hqueue, forall_mem_nil _, forall_mem_nil _,
      forall_mem_nil _, hgiven, forall_mem_nil _, h.requestTracking,
      h.requestNiResponse⟩

variable {dict : BiDict SessionEntity} {session id sessionMode : UInt32} {options : TrackingOptions}

theorem Queued.asked (h : c.Queued) (hapi : c.mLocationAPI = some api) {kind : RequestKind}
    (hasked : c.Asked kind api' dict c') (stopped : List Call) {call : ApiCall}
    (hunanswered : api'.unanswered =
      api.unanswered ++ (stopped ++ [⟨session, call, some (c.request kind)⟩]))
    (hids : ∀ t ∈ api.ids, t ∈ api'.ids) (hsession : session ∈ api'.ids)
    (hregistered : Registered dict) (hgiven : ∀ t id, dict.backward t = some id → t ∈ api'.ids)
    (hstopped : ∀ x ∈ stopped, x.request = none ∧ x.session ∈ api.ids)
    (hgone : ∀ x ∈ api.unanswered ++ stopped, x.request = none →
      dict.backward x.session = none) : c'.Queued := by
  have hqueue := h.queue
  have hmade := h.made
  have hdistinct := h.distinct
  have hknown := h.known
  rw [unanswered_of hapi] at hqueue hmade hdistinct hknown
  rw [ids_of hapi] at hknown
  have hnone : stopped.filterMap Call.request = [] :=
    filterMap_eq_nil_iff.mpr fun x hx => (hstopped x hx).1
  have hnew : ∀ x ∈ api.unanswered ++ stopped, ∀ request, x.request = some request →
      x ∈ api.unanswered ∧ request.object < c.made := by
    intro x hx request hrequest
    rcases mem_append.mp hx with hx | hx
    · exact ⟨hx, hmade x hx request hrequest⟩
    · rw [(hstopped x hx).1] at hrequest
      cases hrequest
  have hcalls : c'.unanswered =
      (api.unanswered ++ stopped) ++ [⟨session, call, some (c.request kind)⟩] := by
    rw [unanswered_of hasked.mLocationAPI, hunanswered, append_assoc]
  constructor
  · rw [hasked.mSessionBiDict]
    exact hregistered
  · rw [hasked.queue, hcalls, hqueue, filterMap_append, filterMap_append, hnone, append_nil]
    rfl
  · rw [hcalls, hasked.made]
    intro x hx request hrequest
    rcases mem_append.mp hx with hx | hx
    · exact (hnew x hx request hrequest).2.trans (Nat.lt_succ_self _)
    · obtain rfl := mem_singleton.mp hx
      cases hrequest
      exact Nat.lt_succ_self _
  · rw [hcalls]
    intro x hx y hy request hxr hyr
    rcases mem_append.mp hx with hx | hx
    · obtain ⟨hx', hlt⟩ := hnew x hx request hxr
      rcases mem_append.mp hy with hy | hy
      · exact hdistinct x hx' y (hnew y hy request hyr).1 request hxr hyr
      · obtain rfl := mem_singleton.mp hy
        cases hyr
        exact absurd hlt (Nat.lt_irrefl _)
    · obtain rfl := mem_singleton.mp hx
      cases hxr
      rcases mem_append.mp hy with hy | hy
      · exact absurd (hnew y hy _ hyr).2 (Nat.lt_irrefl _)
      · exact (mem_singleton.mp hy).symm
  · rw [hcalls, ids_of hasked.mLocationAPI]
    intro x hx
    rcases mem_append.mp hx with hx | hx
    · rcases mem_append.mp hx with hx | hx
      · exact hids _ (hknown x hx)
      · exact hids _ (hstopped x hx).2
    · obtain rfl := mem_singleton.mp hx
      exact hsession
  · rw [hasked.mSessionBiDict, ids_of hasked.mLocationAPI]
    exact hgiven
  · rw [hasked.mSessionBiDict, hcalls]
    intro x hx hxr
    rcases mem_append.mp hx with hx | hx
    · exact hgone x hx hxr
    · obtain rfl := mem_singleton.mp hx
      cases hxr
  · exact hasked.requestTracking.trans h.requestTracking
  · exact hasked.requestNiResponse.trans h.requestNiResponse

/-! ## The requests -/

theorem Queued.backward_of_new (h : c.Queued) (hnew : c.Returns session) :
    c.mSessionBiDict.backward session = none :=
  eq_none_iff_forall_ne_some.mpr fun id hback => hnew.2 (h.given session id hback)

theorem Queued.startSession (h : c.Queued)
    (hnew : (c.locAPIStartSession id sessionMode options session).2.ids = c.ids ∨
      c.Returns session) : (c.locAPIStartSession id sessionMode options session).2.Queued := by
  cases hapi : c.mLocationAPI with
  | none =>
    rw [locAPIStartSession_of_none hapi]
    exact h
  | some api =>
    rcases locAPIStartSession_cases hapi id sessionMode options session with
      ⟨-, heq⟩ | ⟨hid, -, kind, entity, hown, -, hasked⟩
    · rw [heq]
      exact h
    · have hreturns : c.Returns session := by
        refine hnew.resolve_left fun hids => ?_
        rw [ids_of hasked.mLocationAPI, ids_of hapi] at hids
        exact cons_ne_self _ _ hids
      have hback := h.backward_of_new hreturns
      have hgiven := h.given
      have hknown := h.known
      have hstopped := h.stopped
      have hpos := hreturns.2
      rw [ids_of hapi] at hgiven hknown hpos
      rw [unanswered_of hapi] at hknown hstopped
      refine h.asked hapi hasked [] rfl (fun t ht => mem_cons_of_mem _ ht)
        (mem_cons_self ..) (h.registered.set hid hback hreturns.1 hown) ?_
        (forall_mem_nil _) ?_
      · intro t id' ht
        rw [BiDict.backward_set] at ht
        rcases eq_or_ne t session with rfl | hne
        · exact mem_cons_self ..
        · rw [update_of_ne hne] at ht
          exact mem_cons_of_mem _ (hgiven t id' ht)
      · intro x hx hxr
        rw [append_nil] at hx
        have hne : x.session ≠ session := by
          rintro rfl
          exact hpos (hknown x hx)
        rw [BiDict.backward_set, update_of_ne hne]
        exact hstopped x hx hxr

theorem Queued.updateSessionOptions (h : c.Queued)
    (hnew : (c.locAPIUpdateSessionOptions id sessionMode options session).2.ids = c.ids ∨
      c.Returns session) :
    (c.locAPIUpdateSessionOptions id sessionMode options session).2.Queued := by
  cases hapi : c.mLocationAPI with
  | none =>
    rw [locAPIUpdateSessionOptions_of_none hapi]
    exact h
  | some api =>
    have hgiven := h.given
    have hknown := h.known
    have hstopped := h.stopped
    rw [ids_of hapi] at hgiven hknown
    rw [unanswered_of hapi] at hknown hstopped
    rcases locAPIUpdateSessionOptions_cases h.registered hapi id sessionMode options session with
      ⟨-, heq⟩ | ⟨old, entity, hid, -, -, kind, entity', -, hcases⟩
    · rw [heq]
      exact h
    · have hold := h.registered.inverse.backward_of_forward hid
      obtain ⟨hpos, -⟩ := h.registered.entity id old hid
      have hne : ∀ {t}, c.mSessionBiDict.backward t = none → t ≠ old := by
        rintro t hback rfl
        rw [hold] at hback
        cases hback
      rcases hcases with ⟨-, hown, hasked⟩ | ⟨-, hown, hasked⟩
      · -- the same session goes on
        refine h.asked hapi hasked [] rfl (fun t ht => ht) (hgiven old id hold)
          (h.registered.replace hid (.inl rfl) hpos hown) ?_ (forall_mem_nil _) ?_
        · intro t id' ht
          rw [BiDict.backward_set, BiDict.backward_rmById hid, update_idem] at ht
          rcases eq_or_ne t old with rfl | hne
          · exact hgiven t id hold
          · rw [update_of_ne hne] at ht
            exact hgiven t id' ht
        · intro x hx hxr
          rw [append_nil] at hx
          have hback := hstopped x hx hxr
          rw [BiDict.backward_set, BiDict.backward_rmById hid, update_idem,
            update_of_ne (hne hback)]
          exact hback
      · -- it is stopped without a request, and another is started
        have hreturns : c.Returns session := by
          refine hnew.resolve_left fun hids => ?_
          rw [ids_of hasked.mLocationAPI, ids_of hapi] at hids
          exact cons_ne_self _ _ hids
        have hback := h.backward_of_new hreturns
        have hfresh := hreturns.2
        rw [ids_of hapi] at hfresh
        have hsession : ∀ t ∈ api.ids, t ≠ session := by
          rintro t ht rfl
          exact hfresh ht
        refine h.asked hapi hasked [⟨old, stopCall entity.sessionMode, none⟩]
          (append_assoc ..) (fun t ht => mem_cons_of_mem _ ht)
          (mem_cons_self ..) (h.registered.replace hid (.inr hback) hreturns.1 hown) ?_
          (forall_mem_singleton.mpr ⟨rfl, hgiven old id hold⟩) ?_
        · intro t id' ht
          rw [BiDict.backward_set, BiDict.backward_rmById hid] at ht
          rcases eq_or_ne t session with rfl | hne
          · exact mem_cons_self ..
          · rw [update_of_ne hne] at ht
            rcases eq_or_ne t old with rfl | hne'
            · exact mem_cons_of_mem _ (hgiven t id hold)
            · rw [update_of_ne hne'] at ht
              exact mem_cons_of_mem _ (hgiven t id' ht)
        · intro x hx hxr
          rw [BiDict.backward_set, BiDict.backward_rmById hid]
          rcases mem_append.mp hx with hx | hx
          · rw [update_of_ne (hsession _ (hknown x hx))]
            have hback' := hstopped x hx hxr
            rw [update_of_ne (hne hback')]
            exact hback'
          · obtain rfl := mem_singleton.mp hx
            rw [update_of_ne (hsession old (hgiven old id hold)), update_self]

theorem Queued.asks (h : c.Queued) (hapi : c.mLocationAPI = some api)
    (hasks : c' = c ∨ c.Asks api id c') : c'.Queued := by
  rcases hasks with rfl | ⟨session, call, kind, hid, hasked⟩
  · exact h
  · have hgiven := h.given
    have hstopped := h.stopped
    rw [ids_of hapi] at hgiven
    rw [unanswered_of hapi] at hstopped
    refine h.asked hapi hasked [] rfl (fun t ht => ht)
      (hgiven session id (h.registered.inverse.backward_of_forward hid)) h.registered hgiven
      (forall_mem_nil _) ?_
    rw [append_nil]
    exact hstopped

theorem Queued.stopSession (h : c.Queued) (id : UInt32) : (c.locAPIStopSession id).2.Queued := by
  cases hapi : c.mLocationAPI with
  | none =>
    have heq : c.locAPIStopSession id = (.generalFailure, c) := by
      unfold locAPIStopSession
      rw [hapi]
    rw [heq]
    exact h
  | some api => exact h.asks hapi (locAPIStopSession_cases h.registered hapi id)

theorem Queued.getBatchedLocations (h : c.Queued) (id : UInt32) (count : Nat) :
    (c.locAPIGetBatchedLocations id count).2.Queued := by
  cases hapi : c.mLocationAPI with
  | none =>
    have heq : c.locAPIGetBatchedLocations id count = (.generalFailure, c) := by
      unfold locAPIGetBatchedLocations
      rw [hapi]
    rw [heq]
    exact h
  | some api => exact h.asks hapi (locAPIGetBatchedLocations_cases h.registered hapi id count)

/-! ## The answer to a call -/

theorem Queued.answered (h : c.Queued) (hapi : c.mLocationAPI = some api) {call : Call}
    (hcall : (ofKey Call.session session api.unanswered).head? = some call) (error : LocationError)
    (hregistered : Registered dict)
    (hdict : ∀ t id, dict.backward t = some id → c.mSessionBiDict.backward t = some id)
    {q : RequestQueue LocationAPIRequest}
    (hqueue : q.mQueue = (settle Call.session session api.unanswered).filterMap Call.request)
    (callbacks : List (LocationAPIRequest × LocationError)) :
    Queued { c with
      mLocationAPI := some (api.answer call error)
      mSessionBiDict := dict
      requestSession := q
      callbacks } := by
  have hmade := h.made
  have hdistinct := h.distinct
  have hknown := h.known
  have hgiven := h.given
  have hstopped := h.stopped
  rw [unanswered_of hapi] at hmade hdistinct hknown hstopped
  rw [ids_of hapi] at hknown hgiven
  obtain ⟨-, hsession⟩ := mem_of_head?_ofKey hcall
  have hmem : ∀ x ∈ settle Call.session call.session api.unanswered, x ∈ api.unanswered :=
    fun x hx => mem_of_mem_settle hx
  constructor
  · exact hregistered
  · show q.mQueue = (settle Call.session call.session api.unanswered).filterMap Call.request
    rw [hqueue, hsession]
  · exact fun x hx => hmade x (hmem x hx)
  · exact fun x hx y hy => hdistinct x (hmem x hx) y (hmem y hy)
  · exact fun x hx => hknown x (hmem x hx)
  · exact fun t id ht => hgiven t id (hdict t id ht)
  · intro x hx hxr
    refine eq_none_iff_forall_ne_some.mpr fun id hback => ?_
    have hnone := hstopped x (hmem x hx) hxr
    rw [hdict _ id hback] at hnone
    cases hnone
  · exact h.requestTracking
  · exact h.requestNiResponse

theorem getRequestBySession_eq (htracking : c.requestTracking = .new)
    (hni : c.requestNiResponse = .new) (session : UInt32) :
    c.getRequestBySession session =
      if c.mSessionBiDict.hasSession session then
        (c.requestSession.mQueue.head?, { c with requestSession := c.requestSession.pop.2 })
      else (none, c) := by
  have hpop : c.popBySession session = (none, c) := by
    have htracking' : c.requestTracking.pop = (none, c.requestTracking) := by
      rw [htracking]
      rfl
    have hni' : c.requestNiResponse.pop = (none, c.requestNiResponse) := by
      rw [hni]
      rfl
    unfold popBySession
    split
    · rw [htracking']
    · split
      · rw [hni']
      · rfl
  unfold getRequestBySession
  rw [hpop]
  rfl

theorem removeSession_eq (h : Registered c.mSessionBiDict) (session : UInt32) :
    ∃ dict, c.removeSession session = { c with mSessionBiDict := dict } ∧ Registered dict ∧
      ∀ t id, dict.backward t = some id → c.mSessionBiDict.backward t = some id := by
  unfold removeSession
  by_cases hsession : c.mSessionBiDict.hasSession session = true
  · obtain ⟨id, hback⟩ := BiDict.hasSession_iff.mp hsession
    refine ⟨_, if_pos hsession, h.rmBySession hback, fun t id' ht => ?_⟩
    rw [BiDict.backward_rmBySession] at ht
    rcases eq_or_ne t session with rfl | hne
    · rw [update_self] at ht
      cases ht
    · rw [update_of_ne hne] at ht
      exact ht
  · exact ⟨_, if_neg hsession, h, fun _ _ ht => ht⟩

theorem onResponse_eq (h : Registered c.mSessionBiDict) (request : LocationAPIRequest)
    (error : LocationError) (session : UInt32) :
    ∃ dict, c.onResponse request error session =
        { c with mSessionBiDict := dict, callbacks := c.callbacks ++ [(request, error)] } ∧
      Registered dict ∧
        ∀ t id, dict.backward t = some id → c.mSessionBiDict.backward t = some id := by
  obtain ⟨dict, hremove, hregistered, hdict⟩ := removeSession_eq h session
  have hresponse : ∀ c' : LocationAPIClientBase, c' = c ∨ c' = c.removeSession session →
      ∃ dict, { c' with callbacks := c'.callbacks ++ [(request, error)] } =
          { c with mSessionBiDict := dict, callbacks := c.callbacks ++ [(request, error)] } ∧
        Registered dict ∧
          ∀ t id, dict.backward t = some id → c.mSessionBiDict.backward t = some id := by
    rintro c' (rfl | rfl)
    · exact ⟨_, rfl, h, fun _ _ ht => ht⟩
    · exact ⟨dict, by rw [hremove], hregistered, hdict⟩
  unfold onResponse
  refine hresponse _ ?_
  split
  · split
    · exact .inr rfl
    · exact .inl rfl
  · split
    · exact .inr rfl
    · exact .inl rfl
  · split
    · exact .inr rfl
    · exact .inl rfl
  · split
    · exact .inr rfl
    · exact .inl rfl
  · exact .inl rfl

/-! ## No request invokes a callback -/

theorem callbacks_locAPIStartSession (c : LocationAPIClientBase) (id sessionMode : UInt32)
    (options : TrackingOptions) (session : UInt32) :
    (c.locAPIStartSession id sessionMode options session).2.callbacks = c.callbacks := by
  unfold locAPIStartSession
  split
  · rfl
  · split
    · rfl
    · split <;> rfl

theorem callbacks_locAPIUpdateSessionOptions (c : LocationAPIClientBase)
    (id sessionMode : UInt32) (options : TrackingOptions) (session : UInt32) :
    (c.locAPIUpdateSessionOptions id sessionMode options session).2.callbacks = c.callbacks := by
  unfold locAPIUpdateSessionOptions
  split
  · rfl
  · split
    · dsimp only
      split
      · split <;> rfl
      · split <;> rfl
    · rfl

theorem callbacks_locAPIStopSession (c : LocationAPIClientBase) (id : UInt32) :
    (c.locAPIStopSession id).2.callbacks = c.callbacks := by
  unfold locAPIStopSession
  split
  · rfl
  · split
    · dsimp only
      split <;> rfl
    · rfl

theorem callbacks_locAPIGetBatchedLocations (c : LocationAPIClientBase) (id : UInt32)
    (count : Nat) : (c.locAPIGetBatchedLocations id count).2.callbacks = c.callbacks := by
  unfold locAPIGetBatchedLocations
  split
  · rfl
  · split
    · dsimp only
      split <;> rfl
    · rfl

end LocationAPIClientBase

/-! ## Every answer -/

namespace Answered

variable {s : Answered}

theorem matched_append (hm : s.Matched) (x : Option LocationAPIRequest × LocationError)
    (callbacks : List (LocationAPIRequest × LocationError)) {c : LocationAPIClientBase}
    (hc : c.callbacks = s.client.callbacks ++ callbacks) :
    (⟨c, s.answers ++ [x]⟩ : Answered).Matched ↔
      callbacks = (x.1.map (·, x.2)).toList := by
  unfold Matched at hm ⊢
  show c.callbacks = (s.answers ++ [x]).filterMap _ ↔ _
  rw [hc, filterMap_append, ← hm, append_cancel_left_eq]
  cases hx : x.1 <;> simp [hx]

section Respond

variable {session : UInt32} {call : Call} {request : LocationAPIRequest}

theorem fits_respond_iff (hcall : s.oldest session = some call) (error : LocationError) :
    s.Fits (.respond session error) ↔ (call.request.isSome →
      s.client.mSessionBiDict.hasSession session = true ∧ s.front = some call) := by
  constructor
  · intro hfits
    exact hfits call hcall
  · intro hcond call' hcall'
    rw [hcall] at hcall'
    cases hcall'
    exact hcond

theorem exists_taken (h : s.client.Queued) (hmem : call ∈ s.client.unanswered)
    (hrequest : call.request = some request) :
    ∃ taken, s.client.requestSession.mQueue.head? = some taken ∧
      (s.front = some call ↔ taken = request) := by
  have hsome : (s.client.unanswered.find? fun x => x.request.isSome).isSome := by
    refine List.find?_isSome.mpr ⟨call, hmem, ?_⟩
    rw [hrequest]
    rfl
  obtain ⟨first, hfirst⟩ := isSome_iff_exists.mp hsome
  obtain ⟨taken, htaken⟩ := isSome_iff_exists.mp
    (List.find?_some (p := fun x : Call => x.request.isSome) hfirst)
  refine ⟨taken, ?_, ?_⟩
  · rw [h.queue, head?_filterMap_eq, hfirst]
    exact htaken
  · constructor
    · intro hfront
      have hcallfirst := some.inj (hfirst.symm.trans hfront)
      rw [hcallfirst, hrequest] at htaken
      exact (some.inj htaken).symm
    · rintro rfl
      rw [h.distinct call hmem first (mem_of_find?_eq_some hfirst) taken hrequest htaken]
      exact hfirst

variable (h : s.client.Queued) (hm : s.Matched) (hcall : s.oldest session = some call)
include h hm hcall

theorem respond_found (hrequest : call.request = some request)
    (hhas : s.client.mSessionBiDict.hasSession session = true) (error : LocationError) :
    (s.front = some call →
        (s.respond session error).client.Queued ∧ (s.respond session error).Matched) ∧
      ((s.respond session error).Matched → s.front = some call) := by
  obtain ⟨api, hapi⟩ := exists_api hcall
  have holdest : (ofKey Call.session session api.unanswered).head? = some call := by
    rw [← LocationAPIClientBase.unanswered_of hapi]
    exact hcall
  have hqueue := h.queue
  rw [LocationAPIClientBase.unanswered_of hapi] at hqueue
  obtain ⟨taken, hhead, hfront⟩ := exists_taken h (mem_of_head?_ofKey hcall).1 hrequest
  have hget := LocationAPIClientBase.getRequestBySession_eq
    (c := { s.client with mLocationAPI := some (api.answer call error) })
    h.requestTracking h.requestNiResponse session
  rw [if_pos hhas] at hget
  obtain ⟨dict, hresponse, hregistered, hdict⟩ := LocationAPIClientBase.onResponse_eq
    (c := { s.client with
      mLocationAPI := some (api.answer call error)
      requestSession := s.client.requestSession.pop.2 }) h.registered taken error session
  have heq : LocationAPIClientBase.onResponseCb
      { s.client with mLocationAPI := some (api.answer call error) } error session =
        { s.client with
          mLocationAPI := some (api.answer call error)
          mSessionBiDict := dict
          requestSession := s.client.requestSession.pop.2
          callbacks := s.client.callbacks ++ [(taken, error)] } :=
    (LocationAPIClientBase.onResponseCb_of_some
      (hget.trans (congrArg (·, _) hhead)) error).trans hresponse
  rw [respond_eq hapi hcall, heq, hrequest,
    matched_append hm (some request, error) [(taken, error)] rfl, hfront]
  constructor
  · rintro rfl
    refine ⟨?_, rfl⟩
    refine h.answered hapi holdest error hregistered hdict ?_ _
    have hfirst := hfront.mpr rfl
    unfold front at hfirst
    rw [LocationAPIClientBase.unanswered_of hapi] at hfirst
    rw [filterMap_settle_of_first holdest hfirst, ← hqueue]
    rfl
  · intro hmatched
    exact (Prod.mk.inj (List.cons.inj hmatched).1).1

theorem respond_not_found (hhas : ¬ s.client.mSessionBiDict.hasSession session = true)
    (error : LocationError) :
    (call.request = none →
        (s.respond session error).client.Queued ∧ (s.respond session error).Matched) ∧
      ((s.respond session error).Matched → call.request = none) := by
  obtain ⟨api, hapi⟩ := exists_api hcall
  have holdest : (ofKey Call.session session api.unanswered).head? = some call := by
    rw [← LocationAPIClientBase.unanswered_of hapi]
    exact hcall
  have hqueue := h.queue
  rw [LocationAPIClientBase.unanswered_of hapi] at hqueue
  have hget := LocationAPIClientBase.getRequestBySession_eq
    (c := { s.client with mLocationAPI := some (api.answer call error) })
    h.requestTracking h.requestNiResponse session
  rw [if_neg hhas] at hget
  rw [respond_eq hapi hcall, LocationAPIClientBase.onResponseCb_of_none hget,
    matched_append (c := { s.client with mLocationAPI := some (api.answer call error) }) hm
      (call.request, error) [] (append_nil _).symm]
  constructor
  · intro hrequest
    rw [hrequest]
    refine ⟨?_, rfl⟩
    exact h.answered hapi holdest error h.registered (fun _ _ ht => ht)
      (hqueue.trans (filterMap_settle_of_none holdest hrequest).symm) _
  · intro hmatched
    cases hrequest : call.request with
    | none => rfl
    | some request =>
      rw [hrequest] at hmatched
      cases hmatched

end Respond

theorem respond_step (h : s.client.Queued) (hm : s.Matched) (session : UInt32)
    (error : LocationError) :
    (s.Fits (.respond session error) →
        (s.respond session error).client.Queued ∧ (s.respond session error).Matched) ∧
      ((s.respond session error).Matched → s.Fits (.respond session error)) := by
  cases hcall : s.oldest session with
  | none =>
    rw [respond_of_none hcall]
    refine ⟨fun _ => ⟨h, hm⟩, fun _ call hcall' => ?_⟩
    rw [hcall] at hcall'
    cases hcall'
  | some call =>
    obtain ⟨hmem, hsession⟩ := mem_of_head?_ofKey hcall
    rw [fits_respond_iff hcall]
    by_cases hhas : s.client.mSessionBiDict.hasSession session = true
    · cases hrequest : call.request with
      | none =>
        -- the session of a call without a request is not there
        obtain ⟨id, hback⟩ := BiDict.hasSession_iff.mp hhas
        have hnone := h.stopped call hmem hrequest
        rw [hsession, hback] at hnone
        cases hnone
      | some request =>
        obtain ⟨hkept, hfirst⟩ := respond_found h hm hcall hrequest hhas error
        exact ⟨fun hfits => hkept (hfits rfl).2, fun hmatched _ => ⟨hhas, hfirst hmatched⟩⟩
    · obtain ⟨hkept, hnone⟩ := respond_not_found h hm hcall hhas error
      constructor
      · intro hfits
        refine hkept (not_isSome_iff_eq_none.mp fun hsome => ?_)
        exact hhas (hfits hsome).1
      · intro hmatched hsome
        rw [hnone hmatched] at hsome
        cases hsome

theorem next_queued (h : s.client.Queued) (hm : s.Matched) (e : AnswersEvent) :
    (s.Fits e → (s.next e).client.Queued ∧ (s.next e).Matched) ∧
      ((s.next e).Matched → s.Fits e) := by
  have hasked : ∀ c : LocationAPIClientBase, c.Queued → c.callbacks = s.client.callbacks →
      c.Queued ∧ (⟨c, s.answers⟩ : Answered).Matched := fun c hc hcallbacks =>
    ⟨hc, hcallbacks.trans hm⟩
  cases e with
  | setCallbacks =>
    exact ⟨fun _ => hasked s.client.locAPISetCallbacks h.setCallbacks
      (LocationAPIClientBase.callbacks_locAPISetCallbacks s.client), fun _ => trivial⟩
  | startSession id sessionMode options session =>
    refine ⟨fun _ => ?_, fun _ => trivial⟩
    show (s.request session _).client.Queued ∧ (s.request session _).Matched
    unfold request
    split
    · rename_i hnew
      exact hasked _ (h.startSession hnew) (LocationAPIClientBase.callbacks_locAPIStartSession ..)
    · exact ⟨h, hm⟩
  | updateSessionOptions id sessionMode options session =>
    refine ⟨fun _ => ?_, fun _ => trivial⟩
    show (s.request session _).client.Queued ∧ (s.request session _).Matched
    unfold request
    split
    · rename_i hnew
      exact hasked _ (h.updateSessionOptions hnew)
        (LocationAPIClientBase.callbacks_locAPIUpdateSessionOptions ..)
    · exact ⟨h, hm⟩
  | stopSession id =>
    exact ⟨fun _ => hasked _ (h.stopSession id)
      (LocationAPIClientBase.callbacks_locAPIStopSession ..),
      fun _ => trivial⟩
  | getBatchedLocations id count =>
    exact ⟨fun _ => hasked _ (h.getBatchedLocations id count)
      (LocationAPIClientBase.callbacks_locAPIGetBatchedLocations ..), fun _ => trivial⟩
  | respond session error => exact respond_step h hm session error

/-- Every answer invokes the callback of its own request, all through a run,
if and only if every step fits. -/
theorem matched_iff (es : List AnswersEvent) :
    StatesMeet step Matched new es ↔ StepsMeet step Fits new es := by
  have hnew : new.client.Queued ∧ new.Matched := ⟨LocationAPIClientBase.queued_new, rfl⟩
  exact statesMeet_iff_stepsMeet_of_inv (fun s : Answered => s.client.Queued ∧ s.Matched)
    (fun _ h => h.2) (fun _ e h => (next_queued h.1 h.2 e).1)
    (fun _ e h => (next_queued h.1 h.2 e).2) hnew es

/-- Two sessions are started, and the answer about the second comes first. -/
theorem not_matched_secondFirst : ¬ StatesMeet step Matched new
      [.setCallbacks, .startSession 1 SESSION_MODE_ON_FIX (.timeBased 1000) 1,
        .startSession 2 SESSION_MODE_ON_FULL (.timeBased 1000) 2, .respond 2 .success] :=
  fun h => absurd h.last (by unfold Matched; decide)

end Answered

end LocStack.ClientBase
