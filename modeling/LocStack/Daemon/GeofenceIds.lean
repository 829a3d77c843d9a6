/-
# `LocStack.Daemon.GeofenceIds` — the map of a client's geofences through its requests

Each session is of one geofence only, so the map can be read both ways; and
what a call is about is not what a later call adds, so a removal that is
answered leaves the geofences that are being added alone.  With these, an
answer has to be compared with what it erases only:

    dropped    the geofences that the answer ends
    erased     the ids that the response takes out of the map

`right_of_fits`: the map is the geofences that were added and not removed
throughout a run, and every response names the ids of its request in their
order, if every step meets `Fits`.
-/
import LocStack.Daemon.Geofences

namespace LocStack.Daemon

open Base List Option
open Geofence (GeofenceInfo GeofenceOption)
open Tracking (LocationError)

/-! ## What the loops do -/

namespace GfIdsMap

variable {m : GfIdsMap} {id session : UInt32}

theorem index_of_some (h : m.lookup id = some session) : m.index id = (session, m) := by
  unfold index
  rw [h]

theorem sessionIds_of_known {clientIds : List UInt32}
    (h : ∀ id ∈ clientIds, (m.lookup id).isSome) :
    ∃ sessions, sessionIds m clientIds = (sessions, m) ∧
      ∀ item ∈ clientIds.zip sessions, m.lookup item.1 = some item.2 := by
  induction clientIds with
  | nil => exact ⟨[], rfl, fun _ hitem => nomatch hitem⟩
  | cons id clientIds ih =>
    obtain ⟨session, hsession⟩ := isSome_iff_exists.mp (h id (mem_cons_self ..))
    obtain ⟨sessions, heq, hitems⟩ := ih fun id' hid => h id' (mem_cons_of_mem _ hid)
    refine ⟨session :: sessions, ?_, ?_⟩
    · unfold sessionIds
      rw [index_of_some hsession]
      dsimp only
      rw [heq]
    · intro item hitem
      rw [zip_cons_cons] at hitem
      rcases mem_cons.mp hitem with rfl | hitem
      · exact hsession
      · exact hitems item hitem

theorem lookup_eraseIds (clientIds : List UInt32) :
    (m.eraseIds clientIds).lookup id = if id ∈ clientIds then none else m.lookup id := by
  induction clientIds generalizing m with
  | nil => rfl
  | cons first clientIds ih =>
    have hstep : m.eraseIds (first :: clientIds) = eraseIds (m.erase first) clientIds := rfl
    rw [hstep, ih]
    rcases eq_or_ne id first with rfl | hne
    · rw [AList.lookup_erase, ite_self, if_pos (mem_cons_self ..)]
    · rw [AList.lookup_erase_ne hne]
      have hmem : id ∈ first :: clientIds ↔ id ∈ clientIds :=
        mem_cons.trans (or_iff_right hne)
      simp only [hmem]

theorem lookup_setIds {items : List (UInt32 × UInt32)} (hnodup : (items.map Prod.fst).Nodup) :
    (m.setIds items).lookup id = some session ↔
      (id, session) ∈ items ∨ (id ∉ items.map Prod.fst ∧ m.lookup id = some session) := by
  induction items generalizing m with
  | nil =>
    refine ⟨fun h => .inr ⟨not_mem_nil, h⟩, ?_⟩
    rintro (h | ⟨-, h⟩)
    · cases h
    · exact h
  | cons item items ih =>
    obtain ⟨id', session'⟩ := item
    have hstep : m.setIds ((id', session') :: items) = setIds (m.insert id' session') items := rfl
    rw [map_cons, nodup_cons] at hnodup
    rw [hstep, ih hnodup.2, map_cons, mem_cons, mem_cons, not_or]
    rcases eq_or_ne id id' with rfl | hne
    · -- the id that is set first is not among the others
      have hnot : (id, session) ∉ items := fun h =>
        hnodup.1 (mem_map.mpr ⟨_, h, rfl⟩)
      rw [AList.lookup_insert, some.injEq, Prod.mk.injEq]
      constructor
      · rintro (h | ⟨-, rfl⟩)
        · exact absurd h hnot
        · exact .inl (.inl ⟨rfl, rfl⟩)
      · rintro ((⟨-, rfl⟩ | h) | ⟨⟨hne, -⟩, -⟩)
        · exact .inr ⟨hnodup.1, rfl⟩
        · exact absurd h hnot
        · exact absurd rfl hne
    · rw [AList.lookup_insert_ne hne]
      constructor
      · rintro (h | ⟨hnot, h⟩)
        · exact .inl (.inr h)
        · exact .inr ⟨⟨hne, hnot⟩, h⟩
      · rintro ((h | h) | ⟨⟨-, hnot⟩, h⟩)
        · exact absurd (Prod.mk.inj h).1 hne
        · exact .inl h
        · exact .inr ⟨hnot, h⟩

theorem clientId_eq (visits : Visits) (h : m.lookup id = some session)
    (hone : ∀ id', m.lookup id' = some session → id' = id) : m.clientId visits session = id := by
  have hmem : (⟨id, session⟩ : Sigma fun _ : UInt32 => UInt32) ∈ visits.arrange m.entries :=
    (visits.perm m.entries).mem_iff.mpr (AList.mem_lookup_iff.mp h)
  have hall : ∀ itor ∈ visits.arrange m.entries, itor.2 = session → itor.1 = id := by
    rintro ⟨id', session'⟩ hitor rfl
    exact hone id' (AList.mem_lookup_iff.mpr ((visits.perm m.entries).mem_iff.mp hitor))
  -- from the right, the last that is visited decides
  unfold clientId
  generalize visits.arrange m.entries = itors at hmem hall
  induction itors using List.reverseRecOn with
  | nil => cases hmem
  | append_singleton itors itor ih =>
    rw [foldl_append]
    show (if itor.2 = session then itor.1 else _) = id
    split
    · rename_i hsession
      exact hall itor (mem_append_right _ (mem_singleton_self _)) hsession
    · rename_i hsession
      refine ih ?_ fun itor' hitor' => hall itor' (mem_append_left _ hitor')
      rcases mem_append.mp hmem with hmem | hmem
      · exact hmem
      · cases mem_singleton.mp hmem
        exact absurd rfl hsession

end GfIdsMap

/-! ## What is known of a client -/

namespace GeofencesClient

/-- What holds along a run whose steps fit.  A session is of one geofence
only, and what a call is about is not what a later one adds. -/
structure Inv (c : GeofencesClient) : Prop where
  right : c.Right
  distinct : (c.held.map Prod.snd).Nodup
  known : ∀ p ∈ c.held, p.2 ∈ c.ids
  asked : ∀ call ∈ c.unanswered, ∀ p ∈ call.items, p.2 ∈ c.ids
  later : c.unanswered.Pairwise fun call call' => ∀ p ∈ call.items, p ∉ call'.adds
  null : c.handler.mLocationApi = false → c.handler.mGeofenceIds = none

theorem inv_new (mLocationApi mIpcSender : Bool) : (new mLocationApi mIpcSender).Inv where
  right := by
    refine ⟨fun id session => ⟨fun h => ?_, fun h => nomatch h⟩, fun _ h => nomatch h⟩
    rw [show (new mLocationApi mIpcSender).handler.mGfIdsMap.lookup id = none from rfl] at h
    cases h
  distinct := .nil
  known := fun _ h => nomatch h
  asked := fun _ h => nomatch h
  later := .nil
  null := fun _ => rfl

variable {c c' : GeofencesClient}

theorem Inv.one (h : c.Inv) {p q : UInt32 × UInt32} (hp : p ∈ c.held) (hq : q ∈ c.held)
    (heq : p.2 = q.2) : p = q :=
  inj_on_of_nodup_map h.distinct hp hq heq

section Requests

theorem Inv.asked_of (h : c.Inv) (call : Option GfCall)
    (hmap : c'.handler.mGfIdsMap = c.handler.mGfIdsMap)
    (hapi : c'.handler.mLocationApi = c.handler.mLocationApi)
    (hids : c'.handler.mGeofenceIds = c.handler.mGeofenceIds ∨ c.handler.mLocationApi = true)
    (hreturned : c'.ids = c.ids) (hcalls : c'.unanswered = c.unanswered ++ call.toList)
    (hadded : c'.added = c.added) (hnamed : c'.named = c.named)
    (hcall : ∀ x ∈ call, x.adds = [] ∧ ∀ p ∈ x.items, p ∈ c.held) : c'.Inv := by
  have hheld : c'.held = c.held := by
    unfold held
    rw [hadded, hcalls, flatMap_append]
    cases call with
    | none => exact congrArg (c.added ++ ·) (append_nil _)
    | some x =>
      show c.added ++ (_ ++ (x.adds ++ [])) = _
      rw [(hcall x rfl).1, append_nil, append_nil]
  constructor
  · unfold Right
    rw [hmap, hheld, hnamed]
    exact h.right
  · rw [hheld]
    exact h.distinct
  · rw [hheld, hreturned]
    exact h.known
  · rw [hcalls, hreturned]
    intro x hx p hp
    rcases mem_append.mp hx with hx | hx
    · exact h.asked x hx p hp
    · exact h.known p ((hcall x (mem_toList.mp hx)).2 p hp)
  · rw [hcalls]
    refine pairwise_append.mpr ⟨h.later, ?_, ?_⟩
    · cases call with
      | none => exact .nil
      | some x => exact pairwise_singleton ..
    · intro x _ x' hx' p _ hadds
      rw [(hcall x' (mem_toList.mp hx')).1] at hadds
      cases hadds
  · rw [hapi]
    intro hnull
    rcases hids with hids | htrue
    · rw [hids]
      exact h.null hnull
    · rw [hnull] at htrue
      cases htrue

variable {gfIds : List UInt32}

theorem serveIds_eq {handler : GeofencesHandler}
    (hknown : ∀ id ∈ gfIds, (handler.mGfIdsMap.lookup id).isSome) (msgId : GfMsgID)
    (call : List UInt32 → GfApiCall) :
    ∃ pending x, handler.serveIds msgId gfIds call =
        ({ handler with mGfPendingMessages := pending }, x) ∧
      ∀ y ∈ x, (∃ sessions, y.call = call sessions) ∧
        ∀ p ∈ y.items, handler.mGfIdsMap.lookup p.1 = some p.2 := by
  obtain ⟨sessions, hsessions, hitems⟩ := GfIdsMap.sessionIds_of_known hknown
  unfold GeofencesHandler.serveIds GeofencesHandler.getSessionIds
  rw [hsessions]
  split
  · rename_i sessions' handler' heq
    split at heq
    · cases heq
      refine ⟨_, _, rfl, fun y hy => ?_⟩
      unfold GeofencesHandler.calls at hy
      split at hy
      · cases hy
        exact ⟨⟨sessions, rfl⟩, hitems⟩
      · cases hy
    · cases heq
  · rename_i handler' heq
    split at heq
    · cases heq
    · cases heq
      exact ⟨_, _, rfl, fun _ hy => nomatch hy⟩

theorem Inv.serveIds (h : c.Inv) {msgId : GfMsgID} {call : List UInt32 → GfApiCall} {r : GfRequest}
    (hserve : c.handler.serve r = c.handler.serveIds msgId gfIds call)
    (hcall : ∀ sessions, (call sessions).msgId ≠ .addGeofences)
    (hknown : ∀ id ∈ gfIds, (c.handler.mGfIdsMap.lookup id).isSome) : (c.request r).Inv := by
  obtain ⟨pending, x, heq, hx⟩ := serveIds_eq hknown msgId call
  have hadds : ∀ y ∈ x, y.adds = [] := by
    intro y hy
    obtain ⟨⟨sessions, hsessions⟩, -⟩ := hx y hy
    unfold GfCall.adds
    rw [hsessions]
    exact if_neg (hcall sessions)
  have hreturned : ((x.map GfCall.adds).getD []).map Prod.snd = [] := by
    cases x with
    | none => rfl
    | some y => exact congrArg (List.map Prod.snd) (hadds y rfl)
  unfold request
  rw [hserve, heq]
  refine h.asked_of x rfl rfl (.inl rfl) ?_ rfl rfl rfl fun y hy => ⟨hadds y hy, fun p hp => ?_⟩
  · show ((x.map GfCall.adds).getD []).map Prod.snd ++ c.ids = c.ids
    rw [hreturned, nil_append]
  · exact (h.right.1 p.1 p.2).mp ((hx y hy).2 p hp)

theorem Inv.added_of (h : c.Inv) (call : GfCall) (hcall : call.call.msgId = .addGeofences)
    (hmap : c'.handler.mGfIdsMap = GfIdsMap.setIds c.handler.mGfIdsMap call.items)
    (hapi : c'.handler.mLocationApi = true)
    (hreturned : c'.ids = call.items.map Prod.snd ++ c.ids)
    (hcalls : c'.unanswered = c.unanswered ++ [call])
    (hadded : c'.added = c.added) (hnamed : c'.named = c.named)
    (hnodup : (call.items.map Prod.fst).Nodup)
    (hfree : ∀ id ∈ call.items.map Prod.fst, c.handler.mGfIdsMap.lookup id = none)
    (hsessions : (call.items.map Prod.snd).Nodup)
    (hnew : ∀ session ∈ call.items.map Prod.snd, session ∉ c.ids) : c'.Inv := by
  have hadds : call.adds = call.items := if_pos hcall
  have hheld : c'.held = c.held ++ call.items := by
    unfold held
    rw [hadded, hcalls, flatMap_append, ← append_assoc]
    show _ ++ (call.adds ++ []) = _
    rw [append_nil, hadds]
  have hfresh : ∀ p ∈ call.items, p.2 ∉ c.ids := fun p hp =>
    hnew p.2 (mem_map_of_mem hp)
  constructor
  · refine ⟨fun id session => ?_, hnamed ▸ h.right.2⟩
    rw [hmap, GfIdsMap.lookup_setIds hnodup, hheld, mem_append, ← h.right.1 id session]
    constructor
    · rintro (hitem | ⟨-, hlookup⟩)
      · exact .inr hitem
      · exact .inl hlookup
    · rintro (hlookup | hitem)
      · refine .inr ⟨fun hid => ?_, hlookup⟩
        rw [hfree id hid] at hlookup
        cases hlookup
      · exact .inl hitem
  · rw [hheld, map_append]
    refine List.Nodup.append h.distinct hsessions fun session hold hsession => ?_
    obtain ⟨p, hp, rfl⟩ := mem_map.mp hold
    exact hnew p.2 hsession (h.known p hp)
  · rw [hheld, hreturned]
    intro p hp
    rcases mem_append.mp hp with hp | hp
    · exact mem_append_right _ (h.known p hp)
    · exact mem_append_left _ (mem_map_of_mem hp)
  · rw [hcalls, hreturned]
    intro x hx p hp
    rcases mem_append.mp hx with hx | hx
    · exact mem_append_right _ (h.asked x hx p hp)
    · cases mem_singleton.mp hx
      exact mem_append_left _ (mem_map_of_mem hp)
  · rw [hcalls]
    refine pairwise_append.mpr ⟨h.later, pairwise_singleton .., ?_⟩
    intro x hx x' hx' p hp hp'
    cases mem_singleton.mp hx'
    rw [hadds] at hp'
    exact hfresh p hp' (h.asked x hx p hp)
  · rw [hapi]
    exact fun hnull => nomatch hnull

theorem Inv.addGeofences (h : c.Inv) {geofences : List (UInt32 × GeofenceOption × GeofenceInfo)}
    {sessions : Option (List UInt32)} (hmay : c.May (.addGeofences geofences sessions))
    (hfits : c.FitsRequest (.addGeofences geofences sessions)) :
    (c.request (.addGeofences geofences sessions)).Inv := by
  unfold request
  unfold GeofencesHandler.serve
  rcases Nat.lt_or_ge MAX_GEOFENCE_COUNT geofences.length with hcount | hcount
  · dsimp only
    rw [if_pos hcount]
    exact h.asked_of none rfl rfl (.inl rfl) rfl rfl rfl rfl fun _ hx => nomatch hx
  · dsimp only
    rw [if_neg (Nat.not_lt.mpr hcount)]
    unfold GeofencesHandler.addGeofences
    by_cases hasked : (geofences.map (·.2.1)).length > 0 ∧ c.handler.mLocationApi = true
    · rw [if_pos hasked]
      cases sessions with
      | none =>
        exact h.asked_of none rfl rfl (.inr hasked.2) rfl rfl rfl rfl fun _ hx => nomatch hx
      | some l =>
        obtain ⟨hlength, hnodup, hnew⟩ := hmay l rfl
        obtain ⟨hids, hfree⟩ := hfits hcount ⟨hasked.2, rfl⟩
        have hsame : (geofences.map Prod.fst).length = l.length := by
          rw [length_map, hlength]
        have hfst : ((geofences.map Prod.fst).zip l).map Prod.fst = geofences.map Prod.fst :=
          map_fst_zip hsame.le
        have hsnd : ((geofences.map Prod.fst).zip l).map Prod.snd = l :=
          map_snd_zip hsame.ge
        refine h.added_of ⟨.addGeofences (geofences.map (·.2.1)) (geofences.map (·.2.2)),
          (geofences.map Prod.fst).zip l⟩ rfl rfl hasked.2 rfl rfl rfl rfl ?_ ?_ ?_ ?_
        · rw [hfst]
          exact hids
        · rw [hfst]
          exact hfree
        · rw [hsnd]
          exact hnodup
        · rw [hsnd]
          exact fun session hsession => (hnew session hsession).2
    · rw [if_neg hasked]
      cases hstale : c.handler.mGeofenceIds with
      | none =>
        exact h.asked_of none rfl rfl (.inl rfl) rfl rfl rfl rfl fun _ hx => nomatch hx
      | some l =>
        -- what LocationAPI returned last is taken for an answer to no geofences
        have hempty : geofences = [] := by
          rcases Nat.eq_zero_or_pos geofences.length with hzero | hpos
          · exact length_eq_zero_iff.mp hzero
          · rw [length_map] at hasked
            have hnull := h.null (Bool.eq_false_iff.mpr fun htrue => hasked ⟨hpos, htrue⟩)
            rw [hstale] at hnull
            cases hnull
        subst hempty
        exact h.asked_of none rfl rfl (.inl rfl) rfl rfl rfl rfl fun _ hx => nomatch hx

end Requests

section Responses

variable {call : GfCall} {rest : List GfCall} {errs : List LocationError}

/-- The ids that a response erases. -/
def erased (handler : GeofencesHandler) (clientIds : List UInt32) (errs : List LocationError) :
    List UInt32 :=
  ((clientIds.zip errs).filter (·.2 ≠ LocationError.success)).map Prod.fst ++
    if handler.mGfPendingMessages.head? = some .removeGeofences then clientIds else []

variable {visits : Visits} {item p : UInt32 × UInt32}

theorem onCollectiveResponseCallback_eq {handler : GeofencesHandler} {ids clientIds : List UInt32}
    (errs : List LocationError) (hsender : handler.mIpcSender = true)
    (hids : handler.getClientIds visits ids = clientIds) :
    ∃ handler' resp, handler.onCollectiveResponseCallback visits errs ids = (handler', resp) ∧
      handler'.mGfIdsMap = GfIdsMap.eraseIds handler.mGfIdsMap (erased handler clientIds errs) ∧
      handler'.mLocationApi = handler.mLocationApi ∧
      handler'.mGeofenceIds = handler.mGeofenceIds ∧
      ∀ r ∈ resp, r.resp = clientIds.zip errs := by
  unfold GeofencesHandler.onCollectiveResponseCallback erased
  rw [if_pos hsender]
  dsimp only
  split
  · rename_i hzero
    have hnil : clientIds = [] := by
      rw [← hids, length_eq_zero_iff.mp hzero]
      rfl
    rw [hnil, ite_self]
    exact ⟨_, _, rfl, rfl, rfl, rfl, fun _ hr => nomatch hr⟩
  · have hids' : { handler with mGfPendingMessages := handler.mGfPendingMessages.tail }.getClientIds
        visits ids = clientIds := hids
    rw [hids']
    cases hpending : handler.mGfPendingMessages.head? with
    | none =>
      refine ⟨_, _, rfl, ?_, rfl, rfl, fun _ hr => nomatch hr⟩
      rw [if_neg (fun hsome => nomatch hsome), append_nil]
    | some msgId =>
      cases msgId with
      | removeGeofences =>
        refine ⟨_, _, rfl, ?_, rfl, rfl, fun r hr => ?_⟩
        · rw [if_pos rfl]
          exact (foldl_append ..).symm
        · cases hr
          rfl
      | addGeofences | modifyGeofences | pauseGeofences | resumeGeofences =>
        refine ⟨_, _, rfl, ?_, rfl, rfl, fun r hr => ?_⟩
        · rw [if_neg (fun hsome => nomatch hsome), append_nil]
        · cases hr
          rfl

theorem Inv.clientIds_eq (h : c.Inv) (visits : Visits) {items : List (UInt32 × UInt32)}
    (hthere : ∀ item ∈ items, c.handler.mGfIdsMap.lookup item.1 = some item.2) :
    c.handler.getClientIds visits (items.map Prod.snd) = items.map Prod.fst := by
  unfold GeofencesHandler.getClientIds
  rw [List.map_map]
  refine map_congr_left fun item hitem => ?_
  refine GfIdsMap.clientId_eq visits (hthere item hitem) fun id' hid' => ?_
  have hone := h.one ((h.right.1 id' item.2).mp hid')
    ((h.right.1 item.1 item.2).mp (hthere item hitem)) rfl
  exact congrArg Prod.fst hone

theorem mem_answered {p : LocationError → Bool} :
    item ∈ call.answered errs p ↔ ∃ err, (item, err) ∈ call.items.zip errs ∧ p err = true := by
  unfold GfCall.answered
  rw [List.mem_map]
  constructor
  · rintro ⟨⟨item', err⟩, hmem, rfl⟩
    obtain ⟨hzip, herr⟩ := mem_filter.mp hmem
    exact ⟨err, hzip, herr⟩
  · rintro ⟨err, hzip, herr⟩
    exact ⟨(item, err), mem_filter.mpr ⟨hzip, herr⟩, rfl⟩

section

variable (hlength : errs.length = call.items.length)
include hlength

theorem zip_fst :
    (call.items.zip errs).map Prod.fst = call.items := map_fst_zip hlength.ge

theorem answered_sublist (p : LocationError → Bool) :
    (call.answered errs p).Sublist call.items := by
  have hsub : (call.answered errs p).Sublist ((call.items.zip errs).map Prod.fst) :=
    filter_sublist.map Prod.fst
  rw [zip_fst hlength] at hsub
  exact hsub

theorem exists_zip (hitem : item ∈ call.items) : ∃ err, (item, err) ∈ call.items.zip errs := by
  rw [← zip_fst hlength] at hitem
  obtain ⟨⟨item', err⟩, hmem, rfl⟩ := mem_map.mp hitem
  exact ⟨err, hmem⟩

theorem zip_one (hnodup : call.items.Nodup) {err err' : LocationError}
    (h : (item, err) ∈ call.items.zip errs) (h' : (item, err') ∈ call.items.zip errs) :
    err = err' := by
  rw [← zip_fst hlength] at hnodup
  exact congrArg Prod.snd (inj_on_of_nodup_map hnodup h h' rfl)

end

theorem map_fst_answered (p : LocationError → Bool) :
    ((((call.items.map Prod.fst).zip errs).filter fun x => p x.2).map Prod.fst) =
      (call.answered errs p).map Prod.fst := by
  unfold GfCall.answered
  rw [List.zip_map_left, List.filter_map, List.map_map, List.map_map]
  rfl

theorem Inv.answered_of (h : c.Inv) (hcalls : c.unanswered = call :: rest)
    (hrest : c'.unanswered = rest) (hreturned : c'.ids = c.ids) (hheld : c'.held.Sublist c.held)
    (hright : c'.Right) (hapi : c'.handler.mLocationApi = c.handler.mLocationApi)
    (hids : c'.handler.mGeofenceIds = c.handler.mGeofenceIds) : c'.Inv := by
  have hlater := h.later
  rw [hcalls, pairwise_cons] at hlater
  constructor
  · exact hright
  · exact h.distinct.sublist (hheld.map _)
  · rw [hreturned]
    exact fun p hp => h.known p (hheld.subset hp)
  · rw [hrest, hreturned]
    intro x hx
    refine h.asked x ?_
    rw [hcalls]
    exact mem_cons_of_mem _ hx
  · rw [hrest]
    exact hlater.2
  · rw [hapi, hids]
    exact h.null

/-- The geofences that are no longer held once the call is answered. -/
def dropped (call : GfCall) (errs : List LocationError) : List (UInt32 × UInt32) :=
  match call.call with
  | .addGeofences .. => call.answered errs (· ≠ LocationError.success)
  | .removeGeofences _ => call.answered errs (· = LocationError.success)
  | _ => []

theorem held_cons (hcalls : c.unanswered = call :: rest) :
    c.held = c.added ++ (call.adds ++ rest.flatMap GfCall.adds) := by
  unfold held
  rw [hcalls, flatMap_cons]

theorem settled_sublist (hcalls : c.unanswered = call :: rest)
    (hlength : errs.length = call.items.length) :
    (c.settled call errs ++ rest.flatMap GfCall.adds).Sublist c.held := by
  rw [held_cons hcalls, ← append_assoc]
  refine List.Sublist.append_right ?_ _
  unfold settled GfCall.adds
  cases hcall : call.call with
  | addGeofences options info => exact (answered_sublist hlength _).append_left _
  | removeGeofences ids => exact filter_sublist.trans (sublist_append_left ..)
  | modifyGeofences ids options => exact sublist_append_left ..
  | pauseGeofences ids => exact sublist_append_left ..
  | resumeGeofences ids => exact sublist_append_left ..

section

variable (h : c.Inv) (hcalls : c.unanswered = call :: rest)
include h hcalls

theorem Inv.mem_added (hadds : call.adds = call.items) (hlength : errs.length = call.items.length)
    (hp : p ∈ c.held) :
    p ∈ (c.added ++ call.answered errs (· = LocationError.success)) ++ rest.flatMap GfCall.adds ↔
      p ∉ call.answered errs (· ≠ LocationError.success) := by
  have hnodup : c.held.Nodup := .of_map _ h.distinct
  rw [held_cons hcalls, hadds] at hp hnodup
  obtain ⟨-, hnodup, hadded⟩ := nodup_append.mp hnodup
  obtain ⟨hitems, -, hothers⟩ := nodup_append.mp hnodup
  constructor
  · intro hmem hfailed
    obtain ⟨err, hzip, herr⟩ := mem_answered.mp hfailed
    have hitem : p ∈ call.items := (answered_sublist hlength _).subset hfailed
    rcases mem_append.mp hmem with hmem | hmem
    · rcases mem_append.mp hmem with hold | hsucceeded
      · exact hadded p hold p (mem_append_left _ hitem) rfl
      · obtain ⟨err', hzip', herr'⟩ := mem_answered.mp hsucceeded
        rw [zip_one hlength hitems hzip hzip'] at herr
        exact of_decide_eq_true herr (of_decide_eq_true herr')
    · exact hothers p hitem p hmem rfl
  · intro hnot
    rcases mem_append.mp hp with hold | hp
    · exact mem_append_left _ (mem_append_left _ hold)
    · rcases mem_append.mp hp with hitem | hother
      · obtain ⟨err, hzip⟩ := exists_zip hlength hitem
        refine mem_append_left _ (mem_append_right _ (mem_answered.mpr ⟨err, hzip, ?_⟩))
        refine decide_eq_true (by_contra fun herr => hnot ?_)
        exact mem_answered.mpr ⟨err, hzip, decide_eq_true herr⟩
      · exact mem_append_right _ hother

theorem Inv.mem_removed (hadds : call.adds = []) (hlength : errs.length = call.items.length)
    (hp : p ∈ c.held) :
    p ∈ c.added.filter (· ∉ call.answered errs (· = LocationError.success)) ++
        rest.flatMap GfCall.adds ↔
      p ∉ call.answered errs (· = LocationError.success) := by
  have hlater := h.later
  rw [hcalls, pairwise_cons] at hlater
  rw [held_cons hcalls, hadds, nil_append] at hp
  constructor
  · intro hmem hsucceeded
    rcases mem_append.mp hmem with hold | hother
    · exact of_decide_eq_true (mem_filter.mp hold).2 hsucceeded
    · -- a later call does not add what this one removes
      obtain ⟨x, hx, hadd⟩ := mem_flatMap.mp hother
      exact hlater.1 x hx p ((answered_sublist hlength _).subset hsucceeded) hadd
  · intro hnot
    rcases mem_append.mp hp with hold | hother
    · exact mem_append_left _ (mem_filter.mpr ⟨hold, decide_eq_true hnot⟩)
    · exact mem_append_right _ hother

theorem Inv.mem_settled (hlength : errs.length = call.items.length) (hp : p ∈ c.held) :
    p ∈ c.settled call errs ++ rest.flatMap GfCall.adds ↔ p ∉ dropped call errs := by
  have hother : call.adds = [] → (p ∈ c.added ++ rest.flatMap GfCall.adds ↔ p ∉ []) := by
    intro hadds
    rw [held_cons hcalls, hadds, nil_append] at hp
    exact iff_of_true hp not_mem_nil
  have hadds : call.adds = if call.call.msgId = .addGeofences then call.items else [] := rfl
  unfold settled dropped
  cases hcall : call.call with
  | addGeofences options info =>
    rw [hcall] at hadds
    exact h.mem_added hcalls hadds hlength hp
  | removeGeofences ids =>
    rw [hcall] at hadds
    exact h.mem_removed hcalls hadds hlength hp
  | modifyGeofences ids options =>
    rw [hcall] at hadds
    exact hother hadds
  | pauseGeofences ids =>
    rw [hcall] at hadds
    exact hother hadds
  | resumeGeofences ids =>
    rw [hcall] at hadds
    exact hother hadds

/-- Where no geofence is dropped that is not erased, nor erased that is not
dropped, the map stays what it is to be. -/
theorem Inv.lookup_iff (hlength : errs.length = call.items.length) (ids : List UInt32)
    (hids : ∀ p ∈ c.held, p.1 ∈ ids ↔ p ∈ dropped call errs) (id session : UInt32) :
    (GfIdsMap.eraseIds c.handler.mGfIdsMap ids).lookup id = some session ↔
      (id, session) ∈ c.settled call errs ++ rest.flatMap GfCall.adds := by
  rw [GfIdsMap.lookup_eraseIds]
  have hheld := h.right.1 id session
  constructor
  · intro hlookup
    split at hlookup
    · cases hlookup
    · rename_i hid
      have hp := hheld.mp hlookup
      exact (h.mem_settled hcalls hlength hp).mpr fun hdropped => hid ((hids _ hp).mpr hdropped)
  · intro hmem
    have hp := (settled_sublist hcalls hlength).subset hmem
    rw [if_neg fun hid => (h.mem_settled hcalls hlength hp).mp hmem ((hids _ hp).mp hid)]
    exact hheld.mpr hp

end

theorem Inv.erased_iff (h : c.Inv) (hsender : c.handler.mIpcSender = true)
    (hlength : errs.length = call.items.length) (hfits : c.FitsResponse call errs)
    (hp : p ∈ c.held) :
    p.1 ∈ erased c.handler (call.items.map Prod.fst) errs ↔ p ∈ dropped call errs := by
  unfold FitsResponse at hfits
  rw [if_pos hsender] at hfits
  obtain ⟨hthere, hremoval, herrs⟩ := hfits
  -- an id of the call is that of one geofence only
  have hone : ∀ items : List (UInt32 × UInt32), items ⊆ call.items →
      (p.1 ∈ items.map Prod.fst ↔ p ∈ items) := by
    intro items hitems
    refine ⟨fun hid => ?_, fun hmem => mem_map_of_mem hmem⟩
    obtain ⟨item, hitem, hfst⟩ := mem_map.mp hid
    have hlookup := hthere item (hitems hitem)
    rw [hfst, (h.right.1 p.1 p.2).mpr hp] at hlookup
    have heq : item = p := Prod.ext hfst (some.inj hlookup).symm
    exact heq ▸ hitem
  have herased : erased c.handler (call.items.map Prod.fst) errs =
      (call.answered errs (· ≠ LocationError.success)).map Prod.fst ++
        if c.handler.mGfPendingMessages.head? = some .removeGeofences then
          call.items.map Prod.fst else [] :=
    congrArg (· ++ _) (map_fst_answered (· ≠ LocationError.success))
  have hother : call.call.msgId ≠ .removeGeofences → (∀ err ∈ errs, err = LocationError.success) →
        (p.1 ∈ erased c.handler (call.items.map Prod.fst) errs ↔ p ∈ []) := by
    intro hmsgId hall
    have hnone : call.answered errs (· ≠ LocationError.success) = [] := by
      refine eq_nil_iff_forall_not_mem.mpr fun item hitem => ?_
      obtain ⟨err, hzip, herr⟩ := mem_answered.mp hitem
      exact of_decide_eq_true herr (hall err (of_mem_zip hzip).2)
    rw [herased, if_neg (mt hremoval.mp hmsgId), hnone]
    exact iff_of_false not_mem_nil not_mem_nil
  unfold dropped
  cases hcall : call.call with
  | addGeofences options info =>
    rw [hcall] at hremoval
    rw [herased, if_neg (fun hremove => nomatch hremoval.mp hremove), append_nil]
    exact hone _ (answered_sublist hlength _).subset
  | removeGeofences ids =>
    unfold GfCall.FitErrs at herrs
    rw [hcall] at hremoval herrs
    rw [herased, if_pos (hremoval.mpr rfl), mem_append]
    have hall := hone call.items (List.Subset.refl _)
    have hsucceeded := (answered_sublist (p := (· = LocationError.success)) hlength).subset
    constructor
    · rintro (hid | hid)
      · have hfailed := (answered_sublist (p := (· ≠ LocationError.success)) hlength).subset
        exact herrs p (hall.mp (map_subset _ hfailed hid))
      · exact herrs p (hall.mp hid)
    · exact fun hmem => .inr (hall.mpr (hsucceeded hmem))
  | modifyGeofences ids options =>
    unfold GfCall.FitErrs at herrs
    rw [hcall] at herrs
    exact hother (by rw [hcall]; exact fun hmsgId => nomatch hmsgId) herrs
  | pauseGeofences ids =>
    unfold GfCall.FitErrs at herrs
    rw [hcall] at herrs
    exact hother (by rw [hcall]; exact fun hmsgId => nomatch hmsgId) herrs
  | resumeGeofences ids =>
    unfold GfCall.FitErrs at herrs
    rw [hcall] at herrs
    exact hother (by rw [hcall]; exact fun hmsgId => nomatch hmsgId) herrs

theorem dropped_of_none (hsender : c.handler.mIpcSender = false)
    (hfits : c.FitsResponse call errs) : dropped call errs = [] := by
  unfold FitsResponse GfCall.SilentErrs at hfits
  rw [hsender] at hfits
  have hnone : ∀ p : LocationError → Bool, (∀ err ∈ errs, p err = false) →
      call.answered errs p = [] := by
    intro p hall
    refine eq_nil_iff_forall_not_mem.mpr fun item hitem => ?_
    obtain ⟨err, hzip, herr⟩ := mem_answered.mp hitem
    rw [hall err (of_mem_zip hzip).2] at herr
    cases herr
  unfold dropped
  cases hcall : call.call with
  | addGeofences options info =>
    rw [hcall] at hfits
    exact hnone _ fun err herr => decide_eq_false (not_not.mpr (hfits err herr))
  | removeGeofences ids =>
    rw [hcall] at hfits
    exact hnone _ fun err herr => decide_eq_false (hfits err herr)
  | modifyGeofences ids options => rfl
  | pauseGeofences ids => rfl
  | resumeGeofences ids => rfl

theorem Inv.callback (h : c.Inv) (hcalls : c.unanswered = call :: rest)
    (hlength : errs.length = call.items.length) (hfits : c.FitsResponse call errs)
    (visits : Visits) :
    ∃ handler resp, c.handler.onCollectiveResponseCallback visits errs
        (call.items.map Prod.snd) = (handler, resp) ∧
      (∀ id session, handler.mGfIdsMap.lookup id = some session ↔
        (id, session) ∈ c.settled call errs ++ rest.flatMap GfCall.adds) ∧
      handler.mLocationApi = c.handler.mLocationApi ∧
      handler.mGeofenceIds = c.handler.mGeofenceIds ∧
      ∀ r ∈ resp, r.resp.map Prod.fst = call.items.map Prod.fst := by
  cases hsender : c.handler.mIpcSender with
  | true =>
    have hthere : ∀ item ∈ call.items, c.handler.mGfIdsMap.lookup item.1 = some item.2 := by
      have hfits' := hfits
      unfold FitsResponse at hfits'
      rw [if_pos hsender] at hfits'
      exact hfits'.1
    obtain ⟨handler, resp, heq, hmap, hapi, hids, hresp⟩ :=
      onCollectiveResponseCallback_eq errs hsender (h.clientIds_eq visits hthere)
    refine ⟨handler, resp, heq, fun id session => ?_, hapi, hids, fun r hr => ?_⟩
    · rw [hmap]
      exact h.lookup_iff hcalls hlength _
        (fun p hp => h.erased_iff hsender hlength hfits hp) id session
    · rw [hresp r hr]
      refine map_fst_zip ?_
      rw [length_map, hlength]
  | false =>
    have heq : c.handler.onCollectiveResponseCallback visits errs (call.items.map Prod.snd) =
        (c.handler, none) := by
      unfold GeofencesHandler.onCollectiveResponseCallback
      rw [hsender]
      rfl
    refine ⟨_, _, heq, fun id session => ?_, rfl, rfl, fun _ hr => nomatch hr⟩
    refine h.lookup_iff hcalls hlength [] (fun p _ => ?_) id session
    rw [dropped_of_none hsender hfits]
    exact iff_of_false not_mem_nil not_mem_nil

theorem Inv.response (h : c.Inv) {delivery : Delivery}
    (hfits : c.Fits (.response errs visits delivery)) :
    ∀ c' ∈ c.response errs visits delivery, c'.Inv := by
  intro c' hc'
  unfold GeofencesClient.response at hc'
  split at hc'
  · cases hc'
    exact h
  · rename_i call rest hcalls
    split at hc'
    · rename_i hlength
      obtain ⟨handler, resp, heq, hmap, hapi, hids, hresp⟩ :=
        h.callback hcalls hlength (hfits call (by rw [hcalls]; rfl) hlength) visits
      have hsub := settled_sublist hcalls hlength
      rw [heq] at hc'
      dsimp only at hc'
      split at hc'
      · rename_i r
        cases hc'
        refine h.answered_of hcalls rfl rfl hsub ⟨hmap, fun x hx => ?_⟩ hapi hids
        rcases mem_append.mp hx with hx | hx
        · exact h.right.2 x hx
        · cases mem_singleton.mp hx
          exact hresp r rfl
      · cases hc'
      · cases hc'
        exact h.answered_of hcalls rfl rfl hsub ⟨hmap, h.right.2⟩ hapi hids
    · cases hc'
      exact h

end Responses

/-! ## Runs -/

theorem Inv.request (h : c.Inv) {r : GfRequest} (hmay : c.May r) (hfits : c.FitsRequest r) :
    (c.request r).Inv := by
  cases r with
  | addGeofences geofences sessions => exact h.addGeofences hmay hfits
  | removeGeofences gfIds =>
    exact h.serveIds rfl (fun _ hmsgId => nomatch hmsgId) hfits
  | modifyGeofences geofences =>
    rcases Nat.lt_or_ge MAX_GEOFENCE_COUNT geofences.length with hcount | hcount
    · have heq : c.handler.serve (.modifyGeofences geofences) = (c.handler, none) :=
        if_pos hcount
      unfold GeofencesClient.request
      rw [heq]
      exact h.asked_of none rfl rfl (.inl rfl) rfl rfl rfl rfl fun _ hx => nomatch hx
    · exact h.serveIds (if_neg (Nat.not_lt.mpr hcount)) (fun _ hmsgId => nomatch hmsgId)
        (hfits hcount)
  | pauseGeofences gfIds =>
    exact h.serveIds rfl (fun _ hmsgId => nomatch hmsgId) hfits
  | resumeGeofences gfIds =>
    exact h.serveIds rfl (fun _ hmsgId => nomatch hmsgId) hfits

theorem Inv.next (h : c.Inv) {e : GeofencesEvent} (hfits : c.Fits e) : ∀ c' ∈ c.next e, c'.Inv := by
  cases e with
  | request r =>
    intro c' hc'
    unfold GeofencesClient.next at hc'
    dsimp only at hc'
    split at hc'
    · rename_i hmay
      cases hc'
      exact h.request hmay (hfits hmay)
    · cases hc'
      exact h
  | response errs visits delivery => exact h.response hfits

/-- The map is the geofences that were added and not removed, all through a
run, and each response names the ids of its request, if every step fits. -/
theorem right_of_fits {mLocationApi mIpcSender : Bool} {es : List GeofencesEvent}
    (h : StepsMeet step (fun s e => ∀ c ∈ s, c.Fits e) (some (new mLocationApi mIpcSender)) es) :
    StatesMeet step (fun s => ∀ c ∈ s, c.Right) (some (new mLocationApi mIpcSender)) es := by
  have hstep : ∀ s e, (∀ c ∈ s, Inv c) → (∀ c ∈ s, c.Fits e) → ∀ c ∈ (step s e).1, c.Inv := by
    intro s e hinv hfits c' hc'
    obtain ⟨c, hc, hnext⟩ := bind_eq_some_iff.mp hc'
    exact (hinv c hc).next (hfits c hc) c' hnext
  have hnew : ∀ c ∈ some (new mLocationApi mIpcSender), c.Inv := by
    rintro c ⟨⟩
    exact inv_new mLocationApi mIpcSender
  exact (statesMeet_of_stepsMeet hstep hnew h).mono fun s hs c hc => (hs c hc).right

theorem right_of_fits_removed : StatesMeet step (fun s => ∀ c ∈ s, c.Right) (some (new true true))
      [.request (.addGeofences [(1, ⟨1, 0, 0⟩, ⟨0, 0, 0⟩), (2, ⟨1, 0, 0⟩, ⟨0, 0, 0⟩)]
          (some [11, 12])),
        .response [.success, .generalFailure] .inOrder .sent,
        .request (.modifyGeofences [(1, ⟨2, 0, 0⟩)]), .request (.removeGeofences [1]),
        .response [.success] .inOrder .sent, .response [.success] .inOrder .sent] :=
  right_of_fits (by decide)

/-- A modify fails, and the geofence is gone from the map. -/
theorem not_right_modifyFailed :
    ¬ StatesMeet step (fun s => ∀ c ∈ s, c.Right) (some (new true true))
      [.request (.addGeofences [(1, ⟨1, 0, 0⟩, ⟨0, 0, 0⟩)] (some [11])),
        .response [.success] .inOrder .sent, .request (.modifyGeofences [(1, ⟨2, 0, 0⟩)]),
        .response [.generalFailure] .inOrder .sent] := by
  intro h
  have hright := h.last _ rfl
  exact absurd ((hright.1 1 11).mpr (by decide)) (by decide)

end GeofencesClient

end LocStack.Daemon
