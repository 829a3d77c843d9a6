/-
# `LocStack.Geofence.Responses` — the collective response of a geofence command

A command is to be answered once, when all its items have come out, with
what came of each.  What came of the items is kept beside the adapter
(`WatchedGeofences`): INVALID_PARAMETER where an array is NULL, ID_UNKNOWN
where the id has no hardware id, and else what the engine answered.

The adapter does not count the items.  It takes the last item of the list
to be the last to come out, each of the lambdas on its own: an id that is
refused in the queue comes out at once, before earlier items that wait for
the engine.  A NULL array is noted in `errs` and reported by nobody, a
resume that failed is neither stored nor reported, and a modify that failed
is reported as the SUCCESS that `getHwIdFromClient` left.  Where none of
that happens commands are answered as they should be
(`answered_of_stepsMeet`).
-/
import Mathlib.Data.List.Perm.Basic
import LocStack.Geofence.Model

namespace LocStack.Geofence

open Base List Option
open Tracking (LocationError)

/-! ## Items -/

/-- The item that a closure is about. -/
def ResponseFn.item? : ResponseFn → Option (GeofencesMsg × Nat)
  | .callQueue msg i => some (msg, i)
  | .addGeofence msg i => some (msg, i)
  | .geofence msg i _ => some (msg, i)
  | .stopClientSessions _ => none
  | .restartGeofences _ => none
  | .ignore => none

/-- What comes of the item when the engine answers `err`, if it then comes
out. -/
def ResponseFn.outcome (fn : ResponseFn) (s : GeofenceAdapter) (err : LocationError) :
    Option LocationError :=
  match fn with
  | .callQueue msg i =>
    match msg.command, s.getHwIdFromClient (msg.key i) with
    | .addGeofences _ _, _ => none
    | _, some _ => none
    | _, none => some .idUnknown
  | .addGeofence _ _ => some err
  | .geofence msg _ _ =>
    match msg.command with
    | .addGeofences _ _ => none
    | _ => some err
  | _ => none

/-- The closure puts what comes of the item into `errs`. -/
def ResponseFn.Stores (fn : ResponseFn) (s : GeofenceAdapter) (err : LocationError) : Prop :=
  match fn with
  | .geofence msg _ _ =>
    match msg.command with
    | .resumeGeofences => err = .success
    | .modifyGeofences _ => s.engineLockState = .disabled ∨ err = .success
    | _ => True
  | _ => True

namespace GeofenceAdapter

/-- The items that are waiting. -/
def items (s : GeofenceAdapter) : List (GeofencesMsg × Nat) :=
  s.unanswered.filterMap ResponseFn.item?

/-- `t` differs from `s` in nothing that concerns the commands. -/
structure SameItems (s t : GeofenceAdapter) : Prop where
  errs : t.errs = s.errs
  items : t.items = s.items
  mClientData : t.mClientData = s.mClientData

variable {s t u : GeofenceAdapter} {msg : GeofencesMsg} {i hwId : Nat} {err : LocationError}

theorem SameItems.refl (s : GeofenceAdapter) : SameItems s s := ⟨rfl, rfl, rfl⟩

theorem SameItems.trans (h : SameItems s t) (h' : SameItems t u) : SameItems s u :=
  ⟨h'.errs.trans h.errs, h'.items.trans h.items, h'.mClientData.trans h.mClientData⟩

theorem items_append (s : GeofenceAdapter) (fns : List ResponseFn) :
    items { s with unanswered := s.unanswered ++ fns } =
      s.items ++ fns.filterMap ResponseFn.item? :=
  filterMap_append

theorem sameItems_append {fns : List ResponseFn} (h : fns.filterMap ResponseFn.item? = []) :
    SameItems s { s with unanswered := s.unanswered ++ fns } where
  errs := rfl
  items := by rw [items_append, h, append_nil]
  mClientData := rfl

theorem sameItems_command {f : EngineGeofence → EngineGeofence} :
    SameItems s (s.command hwId f) := by
  rw [command]
  split <;> exact ⟨rfl, rfl, rfl⟩

variable {options : GeofenceOption} {info : GeofenceInfo} {key : GeofenceKey} {fn : ResponseFn}
  {o : LocationError}

theorem sameItems_geofenceAdded : SameItems s (s.geofenceAdded err hwId options info) := by
  rw [geofenceAdded]
  split <;> exact ⟨rfl, rfl, rfl⟩

theorem sameItems_saveGeofenceItem : SameItems s (s.saveGeofenceItem key hwId options info) :=
  ⟨rfl, rfl, rfl⟩

theorem sameItems_removeGeofenceItem : SameItems s (s.removeGeofenceItem hwId) := by
  rw [removeGeofenceItem]
  split
  · exact .refl s
  · split <;> exact ⟨rfl, rfl, rfl⟩

theorem sameItems_updateGeofenceItem {f : GeofenceObject → GeofenceObject} :
    SameItems s (s.updateGeofenceItem hwId f) := by
  rw [updateGeofenceItem]
  split <;> exact ⟨rfl, rfl, rfl⟩

theorem sameItems_removeGeofence (h : fn.item? = none) :
    SameItems s (s.removeGeofence hwId fn) := by
  have hcall : SameItems { s with engine := s.engine.erase hwId } (s.removeGeofence hwId fn) :=
    sameItems_append (by simp [h])
  exact SameItems.trans (t := { s with engine := s.engine.erase hwId }) ⟨rfl, rfl, rfl⟩ hcall

theorem sameItems_pauseGeofence (h : fn.item? = none) : SameItems s (s.pauseGeofence hwId fn) :=
  sameItems_command.trans (sameItems_append (by simp [h]))

theorem sameItems_stopClientSessions (client : Nat) :
    SameItems s (s.stopClientSessions client) := by
  rw [stopClientSessions]
  generalize s.mGeofenceIds.toList = entries
  induction entries generalizing s with
  | nil => exact .refl s
  | cons entry entries ih =>
    refine SameItems.trans ?_ ih
    rw [stopClientSession]
    split
    · exact SameItems.trans (t := { s with mGeofenceIds := s.mGeofenceIds.erase entry.1 })
        ⟨rfl, rfl, rfl⟩ (sameItems_removeGeofence rfl)
    · exact .refl s

theorem sameItems_handleEngineUpEvent : SameItems s s.handleEngineUpEvent := by
  rw [handleEngineUpEvent]
  split
  · rw [restartGeofences]
    split
    · exact ⟨rfl, rfl, rfl⟩
    · refine SameItems.trans (t := { s with engine := ∅, mGeofences := ∅, mGeofenceIds := ∅ })
        ⟨rfl, rfl, rfl⟩ (sameItems_append ?_)
      rw [filterMap_map, filterMap_eq_nil_iff]
      intro entry _
      rfl
  · exact ⟨rfl, rfl, rfl⟩

theorem sameItems_restartGeofencesResponse {object : GeofenceObject} :
    SameItems s (s.restartGeofencesResponse object err hwId) := by
  rw [restartGeofencesResponse]
  have hadded : SameItems s (s.geofenceAdded err hwId object.options object.info) :=
    sameItems_geofenceAdded
  split
  · refine SameItems.trans ?_ sameItems_saveGeofenceItem
    split
    · exact hadded.trans (sameItems_pauseGeofence rfl)
    · exact hadded
  · exact hadded

theorem SameItems.setErr (h : SameItems s t) :
    SameItems (s.setErr msg i err) (t.setErr msg i err) where
  errs := by rw [GeofenceAdapter.setErr, GeofenceAdapter.setErr, h.errs]
  items := h.items
  mClientData := h.mClientData

/-! ## What an answer does -/

theorem respond_none (h : fn.item? = none) :
    SameItems s (s.respond fn err hwId).1 ∧ (s.respond fn err hwId).2 = [] := by
  cases fn with
  | callQueue => cases h
  | addGeofence => cases h
  | geofence => cases h
  | stopClientSessions hwId =>
    refine ⟨?_, rfl⟩
    show SameItems s (s.stopClientSessionsResponse hwId err)
    rw [stopClientSessionsResponse]
    split <;> exact ⟨rfl, rfl, rfl⟩
  | restartGeofences object => exact ⟨sameItems_restartGeofencesResponse, rfl⟩
  | ignore => exact ⟨.refl s, rfl⟩

theorem sameItems_addGeofence : SameItems s
      (if (s.geofenceAdded err hwId options info).engineLockState = .disabled ∨ err = .success then
        (s.geofenceAdded err hwId options info).saveGeofenceItem key hwId options info
      else s.geofenceAdded err hwId options info) := by
  split
  · exact sameItems_geofenceAdded.trans sameItems_saveGeofenceItem
  · exact sameItems_geofenceAdded

theorem geofenceResponse_outcome (ho : (ResponseFn.geofence msg i hwId).outcome s err = some o)
    (hstores : (ResponseFn.geofence msg i hwId).Stores s err) :
    ∃ t, SameItems (s.setErr msg i o) t ∧
      s.geofenceResponse msg i hwId err = t.reportOnLast msg i := by
  rw [geofenceResponse]
  rw [ResponseFn.outcome] at ho
  rw [ResponseFn.Stores] at hstores
  cases hcommand : msg.command with
  | addGeofences options infos =>
    rw [hcommand] at ho
    cases ho
  | removeGeofences =>
    rw [hcommand] at ho
    cases ho
    refine ⟨_, SameItems.setErr ?_, rfl⟩
    split
    · exact sameItems_removeGeofenceItem
    · exact .refl s
  | pauseGeofences =>
    rw [hcommand] at ho
    cases ho
    refine ⟨_, SameItems.setErr ?_, rfl⟩
    split
    · exact sameItems_updateGeofenceItem
    · exact .refl s
  | resumeGeofences =>
    rw [hcommand] at ho hstores
    cases ho
    exact ⟨_, sameItems_updateGeofenceItem, if_pos hstores⟩
  | modifyGeofences options =>
    rw [hcommand] at ho hstores
    cases ho
    refine ⟨_, ?_, rfl⟩
    rw [if_pos hstores]
    exact sameItems_updateGeofenceItem

theorem respond_outcome (h : fn.item? = some (msg, i)) (ho : fn.outcome s err = some o)
    (hstores : fn.Stores s err) :
    ∃ t, SameItems (s.setErr msg i o) t ∧ s.respond fn err hwId = t.reportOnLast msg i := by
  cases fn with
  | stopClientSessions => cases h
  | restartGeofences => cases h
  | ignore => cases h
  | callQueue msg i =>
    cases h
    refine ⟨s.setErr msg i o, .refl _, ?_⟩
    rw [respond, callQueueResponse]
    simp only [ResponseFn.outcome] at ho
    cases hcommand : msg.command <;> simp only [hcommand] at ho ⊢
    case addGeofences => cases ho
    all_goals
      cases hhwId : s.getHwIdFromClient (msg.key i) <;> simp only [hhwId] at ho ⊢
      · cases ho
        rfl
      · cases ho
  | addGeofence msg i =>
    cases h
    cases ho
    exact ⟨_, SameItems.setErr sameItems_addGeofence, rfl⟩
  | geofence msg i hwId =>
    cases h
    exact geofenceResponse_outcome ho hstores

/-- The item waits on, for the call that is now made for it; its error may
be set to what `getHwIdFromClient` returned. -/
structure WaitsOn (msg : GeofencesMsg) (i : Nat) (s t : GeofenceAdapter) : Prop where
  errs : t.errs = s.errs ∨ t.errs = (s.setErr msg i .success).errs
  items : t.items = s.items ∨ t.items = s.items ++ [(msg, i)]

theorem callGeofence_waitsOn :
    WaitsOn msg i s ((s.setErr msg i .success).callGeofence msg i hwId) := by
  have hcall : ∀ t, SameItems (s.setErr msg i .success) t →
      WaitsOn msg i s (t.call (.geofence msg i hwId)) := by
    intro t ht
    refine ⟨.inr ht.errs, .inr ?_⟩
    rw [call, items_append, ht.items]
    rfl
  rw [callGeofence]
  cases msg.command with
  | addGeofences => exact ⟨.inr rfl, .inl rfl⟩
  | removeGeofences => exact hcall { s.setErr msg i .success with engine := _ } ⟨rfl, rfl, rfl⟩
  | pauseGeofences => exact hcall _ sameItems_command
  | resumeGeofences => exact hcall _ sameItems_command
  | modifyGeofences => exact hcall _ sameItems_command

theorem respond_waitsOn (h : fn.item? = some (msg, i)) (ho : fn.outcome s err = none) :
    WaitsOn msg i s (s.respond fn err hwId).1 ∧ (s.respond fn err hwId).2 = [] := by
  cases fn with
  | stopClientSessions => cases h
  | restartGeofences => cases h
  | ignore => cases h
  | callQueue msg i =>
    cases h
    rw [respond, callQueueResponse]
    simp only [ResponseFn.outcome] at ho
    cases hcommand : msg.command <;> simp only [hcommand] at ho ⊢
    case addGeofences =>
      refine ⟨⟨.inl rfl, .inr ?_⟩, trivial⟩
      rw [call, items_append]
      rfl
    all_goals
      cases hhwId : s.getHwIdFromClient (msg.key i) <;> simp only [hhwId] at ho ⊢
      · cases ho
      · exact ⟨callGeofence_waitsOn, trivial⟩
  | addGeofence => cases ho
  | geofence msg i hwId =>
    cases h
    rw [ResponseFn.outcome] at ho
    rw [respond, geofenceResponse]
    cases hcommand : msg.command with
    | addGeofences => exact ⟨⟨.inl rfl, .inl rfl⟩, rfl⟩
    | removeGeofences =>
      rw [hcommand] at ho
      cases ho
    | pauseGeofences =>
      rw [hcommand] at ho
      cases ho
    | resumeGeofences =>
      rw [hcommand] at ho
      cases ho
    | modifyGeofences =>
      rw [hcommand] at ho
      cases ho

end GeofenceAdapter

/-! ## What came of the items -/

structure WatchedGeofences where
  adapter : GeofenceAdapter
  /-- The commands given so far, by their numbers. -/
  msgs : List GeofencesMsg
  /-- What came of an item, by the number of its command. -/
  obtained : Nat → Nat → Option LocationError
  /-- The collective responses the clients got, in order. -/
  received : List CollectiveResponse

namespace WatchedGeofences

open GeofenceAdapter

def new : WatchedGeofences where
  adapter := .new
  msgs := []
  obtained _ _ := none
  received := []

/-- The item `i` of `msg` has come out with `err`. -/
def obtain (obtained : Nat → Nat → Option LocationError) (msg : GeofencesMsg) (i : Nat)
    (err : LocationError) : Nat → Nat → Option LocationError :=
  fun n j => if n = msg.number ∧ j = i then some err else obtained n j

/-- A command with a NULL array comes to nothing at once. -/
def obtainedBy (w : WatchedGeofences) : GeofenceEvent → Nat → Nat → Option LocationError
  | .command command _ ids =>
    if command.hasParameters then w.obtained
    else fun n i =>
      if n = w.msgs.length ∧ i < ids.length then some .invalidParameter else w.obtained n i
  | .response n err _ =>
    match w.adapter.unanswered[n]? with
    | none => w.obtained
    | some fn =>
      match fn.item?, fn.outcome w.adapter err with
      | some (msg, i), some err => obtain w.obtained msg i err
      | _, _ => w.obtained
  | _ => w.obtained

def msgsBy (w : WatchedGeofences) : GeofenceEvent → List GeofencesMsg
  | .command command client ids => w.msgs ++ [⟨w.msgs.length, command, client, ids⟩]
  | _ => w.msgs

def next (w : WatchedGeofences) (e : GeofenceEvent) : WatchedGeofences where
  adapter := (step w.adapter e).1
  msgs := w.msgsBy e
  obtained := w.obtainedBy e
  received := w.received ++ (step w.adapter e).2

def watched (w : WatchedGeofences) (e : GeofenceEvent) :
    WatchedGeofences × List CollectiveResponse :=
  (w.next e, (step w.adapter e).2)

/-- All items of the command have come out. -/
def Done (w : WatchedGeofences) (msg : GeofencesMsg) : Prop :=
  ∀ i < msg.mCount, (w.obtained msg.number i).isSome

/-- The response that is due: to each id what came of it. -/
def response (w : WatchedGeofences) (msg : GeofencesMsg) : CollectiveResponse where
  number := msg.number
  client := msg.mClient
  errs := (List.range msg.mCount).map (w.obtained msg.number)
  ids := msg.mIds

/-- What the clients got for a command. -/
def receivedFor (w : WatchedGeofences) (msg : GeofencesMsg) : List CollectiveResponse :=
  w.received.filter (·.number = msg.number)

/-- The client of a command has received the response to it, once, if all
items have come out, and else none. -/
def Answered (w : WatchedGeofences) : Prop :=
  ∀ msg ∈ w.msgs, (w.Done msg → w.receivedFor msg = [w.response msg]) ∧
    (¬ w.Done msg → w.receivedFor msg = [])

/-! ## The condition -/

/-- The command has items, and the arrays for them.  The last item in the
list comes out last, and finds the client with its callback; and what comes
of an item is stored: no resume fails, and no modify while GNSS is not
disabled. -/
def LastIsLast (w : WatchedGeofences) : GeofenceEvent → Prop
  | .command command _ ids => command.hasParameters ∧ ids ≠ []
  | .response n err _ =>
    match w.adapter.unanswered[n]? with
    | none => True
    | some fn =>
      match fn.item?, fn.outcome w.adapter err with
      | some (msg, i), some _ =>
        fn.Stores w.adapter err ∧
          (i + 1 = msg.mCount → (∀ j < i, (w.obtained msg.number j).isSome) ∧
            w.adapter.mClientData[msg.mClient]? = some ⟨true⟩)
      | _, _ => True
  | _ => True

/-- The array `errs` of a command. -/
def errs (w : WatchedGeofences) (msg : GeofencesMsg) : List (Option LocationError) :=
  w.adapter.errs.getD msg.number []

/-- What the condition keeps true. -/
structure Sound (w : WatchedGeofences) : Prop where
  length : w.adapter.errs.length = w.msgs.length
  number : ∀ k (msg : GeofencesMsg), w.msgs[k]? = some msg → msg.number = k
  nonempty : ∀ msg ∈ w.msgs, 0 < msg.mCount
  size : ∀ msg ∈ w.msgs, (w.errs msg).length = msg.mCount
  nodup : w.adapter.items.Nodup
  waiting : ∀ msg i, (msg, i) ∈ w.adapter.items →
    msg ∈ w.msgs ∧ i < msg.mCount ∧ w.obtained msg.number i = none
  stored : ∀ msg ∈ w.msgs, ∀ i err, w.obtained msg.number i = some err →
    (w.errs msg)[i]? = some (some err)
  last : ∀ msg ∈ w.msgs, (w.obtained msg.number (msg.mCount - 1)).isSome → w.Done msg
  given : ∀ n i, w.msgs.length ≤ n → w.obtained n i = none
  received : ∀ r ∈ w.received, r.number < w.msgs.length
  answered : w.Answered

variable {w : WatchedGeofences}

theorem sound_new : Sound new where
  length := rfl
  number k msg hmsg := by cases hmsg
  nonempty msg hmsg := by cases hmsg
  size msg hmsg := by cases hmsg
  nodup := nodup_nil
  waiting msg i hitem := by cases hitem
  stored msg hmsg := by cases hmsg
  last msg hmsg := by cases hmsg
  given _ _ _ := rfl
  received r hr := by cases hr
  answered msg hmsg := by cases hmsg

variable {msg : GeofencesMsg} {t : GeofenceAdapter}

theorem Sound.number_lt (h : Sound w) (hmsg : msg ∈ w.msgs) : msg.number < w.msgs.length := by
  obtain ⟨k, hk⟩ := List.getElem?_of_mem hmsg
  rw [h.number k msg hk]
  exact (List.getElem?_eq_some_iff.mp hk).fst

theorem Sound.eq_of_number (h : Sound w) {msg' : GeofencesMsg} (hmsg : msg ∈ w.msgs)
    (hmsg' : msg' ∈ w.msgs) (hnumber : msg.number = msg'.number) : msg = msg' := by
  obtain ⟨k, hk⟩ := List.getElem?_of_mem hmsg
  obtain ⟨k', hk'⟩ := List.getElem?_of_mem hmsg'
  rw [h.number k msg hk, h.number k' msg' hk'] at hnumber
  rw [hnumber, hk'] at hk
  exact (some.inj hk).symm

theorem Sound.of_adapter (h : Sound w) (herrs : t.errs = w.adapter.errs)
    (hitems : t.items.Perm w.adapter.items) : Sound { w with adapter := t } where
  length := by rw [herrs]; exact h.length
  number := h.number
  nonempty := h.nonempty
  size := by simp only [errs, herrs]; exact h.size
  nodup := hitems.nodup_iff.mpr h.nodup
  waiting msg i hitem := h.waiting msg i (hitems.mem_iff.mp hitem)
  stored := by simp only [errs, herrs]; exact h.stored
  last := h.last
  given := h.given
  received := h.received
  answered := h.answered

/-! ### Commands -/

theorem Sound.give (h : Sound w) (hnumber : msg.number = w.msgs.length) (hpos : 0 < msg.mCount)
    (herrs : t.errs = w.adapter.errs ++ [List.replicate msg.mCount none])
    (hitems : t.items = w.adapter.items ++ (List.range msg.mCount).map fun i => (msg, i)) :
    Sound { w with adapter := t, msgs := w.msgs ++ [msg] } := by
  have hlength := h.length
  have hnew : ∀ i, w.obtained msg.number i = none :=
    fun i => h.given _ i (Nat.le_of_eq hnumber.symm)
  have hold : ∀ msg' ∈ w.msgs, t.errs.getD msg'.number [] = w.errs msg' := by
    intro msg' hmsg'
    have hlt : msg'.number < w.adapter.errs.length := hlength ▸ h.number_lt hmsg'
    rw [errs, herrs, getD_eq_getElem?_getD, getD_eq_getElem?_getD, List.getElem?_append_left hlt]
  have hcases : ∀ {msg'}, msg' ∈ w.msgs ++ [msg] → msg' ∈ w.msgs ∨ msg' = msg := by
    intro msg' hmsg'
    rcases mem_append.mp hmsg' with hmsg' | hmsg'
    · exact .inl hmsg'
    · exact .inr (mem_singleton.mp hmsg')
  constructor
  · show t.errs.length = (w.msgs ++ [msg]).length
    rw [herrs, length_append, length_append, hlength]
    rfl
  · intro k msg' hmsg'
    have hmsg' : (w.msgs ++ [msg])[k]? = some msg' := hmsg'
    rcases Nat.lt_or_ge k w.msgs.length with hk | hk
    · exact h.number k msg' (by rwa [List.getElem?_append_left hk] at hmsg')
    · rw [List.getElem?_append_right hk, List.getElem?_singleton] at hmsg'
      split at hmsg'
      · cases hmsg'
        omega
      · cases hmsg'
  · intro msg' hmsg'
    rcases hcases hmsg' with hmsg' | rfl
    · exact h.nonempty msg' hmsg'
    · exact hpos
  · intro msg' hmsg'
    show (t.errs.getD msg'.number []).length = msg'.mCount
    rcases hcases hmsg' with hmsg' | rfl
    · rw [hold msg' hmsg']
      exact h.size msg' hmsg'
    · simp [herrs, hnumber, ← hlength]
  · show t.items.Nodup
    rw [hitems]
    refine h.nodup.append ?_ ?_
    · exact nodup_range.map fun i j hij => congrArg Prod.snd hij
    · intro item hitem hitem'
      obtain ⟨i, -, rfl⟩ := mem_map.mp hitem'
      have hlt := h.number_lt (h.waiting msg i hitem).1
      omega
  · intro msg' i hitem
    have hitem : (msg', i) ∈ t.items := hitem
    rw [hitems] at hitem
    rcases mem_append.mp hitem with hitem | hitem
    · obtain ⟨hmsg', hi, hnone⟩ := h.waiting msg' i hitem
      exact ⟨mem_append_left _ hmsg', hi, hnone⟩
    · obtain ⟨j, hj, heq⟩ := mem_map.mp hitem
      cases heq
      exact ⟨mem_append_right _ (mem_singleton.mpr rfl), mem_range.mp hj, hnew i⟩
  · intro msg' hmsg' i err hi
    have hi : w.obtained msg'.number i = some err := hi
    rcases hcases hmsg' with hmsg' | rfl
    · show (t.errs.getD msg'.number [])[i]? = _
      rw [hold msg' hmsg']
      exact h.stored msg' hmsg' i err hi
    · rw [hnew] at hi
      cases hi
  · intro msg' hmsg' hlast
    have hlast : (w.obtained msg'.number (msg'.mCount - 1)).isSome := hlast
    rcases hcases hmsg' with hmsg' | rfl
    · exact h.last msg' hmsg' hlast
    · rw [hnew] at hlast
      cases hlast
  · intro n i hn
    have hn : (w.msgs ++ [msg]).length ≤ n := hn
    rw [length_append] at hn
    exact h.given n i (Nat.le_of_add_right_le hn)
  · intro r hr
    show r.number < (w.msgs ++ [msg]).length
    rw [length_append]
    exact Nat.lt_add_right _ (h.received r hr)
  · intro msg' hmsg'
    rcases hcases hmsg' with hmsg' | rfl
    · exact h.answered msg' hmsg'
    · constructor
      · intro hall
        have hsome : (w.obtained msg'.number 0).isSome := hall 0 hpos
        rw [hnew] at hsome
        cases hsome
      · intro _
        rw [receivedFor, filter_eq_nil_iff]
        intro r hr
        have hlt := h.received r hr
        simp only [decide_eq_true_eq]
        omega

theorem Sound.command (h : Sound w) {command : GeofencesCommand} {client : Nat} {ids : List Nat}
    (hparameters : command.hasParameters) (hids : ids ≠ []) :
    Sound (w.next (.command command client ids)) := by
  have hadapter : w.adapter.procCommand command client ids = { w.adapter with
        errs := w.adapter.errs ++ [List.replicate ids.length none]
        unanswered := w.adapter.unanswered ++ (List.range ids.length).map
          (.callQueue ⟨w.msgs.length, command, client, ids⟩) } := by
    rw [← h.length]
    exact if_pos hparameters
  have hnext : w.next (.command command client ids) = { w with
        adapter := w.adapter.procCommand command client ids
        msgs := w.msgs ++ [⟨w.msgs.length, command, client, ids⟩] } := by
    rw [next, obtainedBy, if_pos hparameters]
    simp only [step, append_nil]
    rfl
  rw [hnext]
  refine h.give rfl (length_pos_iff.mpr hids) ?_ ?_
  · rw [hadapter]
    rfl
  · rw [hadapter]
    show (w.adapter.unanswered ++ _).filterMap ResponseFn.item? = _
    rw [filterMap_append, filterMap_map]
    simp [Function.comp_def, ResponseFn.item?, items, GeofencesMsg.mCount]

/-! ### Answers -/

theorem getD_setErr {s : GeofenceAdapter} {i : Nat} {err : LocationError} (n : Nat) :
    (s.setErr msg i err).errs.getD n [] =
      if msg.number = n then (s.errs.getD n []).set i (some err) else s.errs.getD n [] := by
  rw [setErr, getD_eq_getElem?_getD, getD_eq_getElem?_getD, List.getElem?_modify]
  cases s.errs[n]? with
  | none => simp
  | some errs =>
    simp only [Option.map_eq_map, Option.map_some, Option.getD_some]

section Answer

variable {msg : GeofencesMsg} {i : Nat} {t : GeofenceAdapter} {rest : List (GeofencesMsg × Nat)}

theorem Sound.errs_set (h : Sound w) (hitem : (msg, i) ∈ w.adapter.items) {err : LocationError}
    (ht : t.errs = (w.adapter.setErr msg i err).errs) {msg' : GeofencesMsg}
    (hmsg' : msg' ∈ w.msgs) :
    errs { w with adapter := t } msg' =
      if msg' = msg then (w.errs msg).set i (some err) else w.errs msg' := by
  have hmsg := (h.waiting msg i hitem).1
  rw [errs, ht, getD_setErr]
  by_cases hsame : msg' = msg
  · rw [hsame, if_pos rfl, if_pos rfl, errs]
  · rw [if_neg hsame, if_neg fun hnumber => hsame (h.eq_of_number hmsg' hmsg hnumber.symm)]
    rfl

theorem Sound.waitsOn (h : Sound w) (hitem : ((msg, i) :: rest).Perm w.adapter.items)
    (herrs : t.errs = w.adapter.errs ∨ ∃ err, t.errs = (w.adapter.setErr msg i err).errs)
    (hitems : t.items = rest ∨ t.items = rest ++ [(msg, i)]) : Sound { w with adapter := t } := by
  have hmem : (msg, i) ∈ w.adapter.items := hitem.mem_iff.mp mem_cons_self
  have hwaiting := h.waiting msg i hmem
  have hset : ∀ msg' ∈ w.msgs, errs { w with adapter := t } msg' = w.errs msg' ∨
      msg' = msg ∧ ∃ err, errs { w with adapter := t } msg' = (w.errs msg').set i err := by
    intro msg' hmsg'
    rcases herrs with herrs | ⟨err, herrs⟩
    · exact .inl (by rw [errs, herrs]; rfl)
    · rw [h.errs_set hmem herrs hmsg']
      split
      · rename_i hsame
        exact .inr ⟨hsame, some err, by rw [hsame]⟩
      · exact .inl rfl
  have hsub : ∀ item ∈ t.items, item ∈ w.adapter.items := by
    intro item hmem'
    rw [← hitem.mem_iff]
    rcases hitems with heq | heq
    · rw [heq] at hmem'
      exact mem_cons_of_mem _ hmem'
    · rw [heq, mem_append, mem_singleton] at hmem'
      rcases hmem' with hmem' | rfl
      · exact mem_cons_of_mem _ hmem'
      · exact mem_cons_self
  constructor
  · rcases herrs with herrs | ⟨err, herrs⟩
    · rw [herrs]
      exact h.length
    · rw [herrs, setErr, length_modify]
      exact h.length
  · exact h.number
  · exact h.nonempty
  · intro msg' hmsg'
    rcases hset msg' hmsg' with heq | ⟨-, err, heq⟩
    · rw [heq]
      exact h.size msg' hmsg'
    · rw [heq, length_set]
      exact h.size msg' hmsg'
  · have hnodup := hitem.nodup_iff.mpr h.nodup
    rcases hitems with heq | heq
    · rw [heq]
      exact (nodup_cons.mp hnodup).2
    · rw [heq]
      exact (perm_append_singleton (msg, i) rest).nodup_iff.mpr hnodup
  · intro msg' j hmem'
    exact h.waiting msg' j (hsub _ hmem')
  · intro msg' hmsg' j err hj
    rcases hset msg' hmsg' with heq | ⟨hsame, err', heq⟩
    · rw [heq]
      exact h.stored msg' hmsg' j err hj
    · rw [heq, List.getElem?_set_ne]
      · exact h.stored msg' hmsg' j err hj
      · rintro rfl
        subst hsame
        have hj : w.obtained msg'.number i = some err := hj
        rw [hwaiting.2.2] at hj
        cases hj
  · exact h.last
  · exact h.given
  · exact h.received
  · exact h.answered

/-- The item comes out, the last of the list after all others. -/
structure ComesOut (w : WatchedGeofences) (msg : GeofencesMsg) (i : Nat) (err : LocationError)
    (t : GeofenceAdapter) (rest : List (GeofencesMsg × Nat)) : Prop where
  perm : ((msg, i) :: rest).Perm w.adapter.items
  errs : t.errs = (w.adapter.setErr msg i err).errs
  items : t.items = rest
  last : i + 1 = msg.mCount → ∀ j < i, (w.obtained msg.number j).isSome

/-- When it has. -/
def comeOut (w : WatchedGeofences) (msg : GeofencesMsg) (i : Nat) (err : LocationError)
    (t : GeofenceAdapter) : WatchedGeofences where
  adapter := t
  msgs := w.msgs
  obtained := obtain w.obtained msg i err
  received := w.received ++
    if i + 1 = msg.mCount then
      [⟨msg.number, msg.mClient, t.errs.getD msg.number [], msg.mIds⟩]
    else []

variable {msg' : GeofencesMsg} {j : Nat} {err o : LocationError}

theorem obtain_self : obtain w.obtained msg i err msg.number i = some err := if_pos ⟨rfl, rfl⟩

theorem obtain_ne (n : Nat) (hj : j ≠ i) :
    obtain w.obtained msg i err n j = w.obtained n j := if_neg fun h => hj h.2

theorem ComesOut.mem (hout : w.ComesOut msg i err t rest) : (msg, i) ∈ w.adapter.items :=
  hout.perm.mem_iff.mp mem_cons_self

variable (h : Sound w) (hout : w.ComesOut msg i err t rest)
include h hout

theorem ComesOut.notMem : (msg, i) ∉ rest :=
  (nodup_cons.mp (hout.perm.nodup_iff.mpr h.nodup)).1

theorem ComesOut.waiting :
    msg ∈ w.msgs ∧ i < msg.mCount ∧ w.obtained msg.number i = none := h.waiting msg i hout.mem

theorem ComesOut.not_done : ¬ w.Done msg := by
  obtain ⟨-, hi, hnone⟩ := hout.waiting h
  intro hall
  have hsome := hall i hi
  rw [hnone] at hsome
  cases hsome

theorem ComesOut.other (hmsg' : msg' ∈ w.msgs) (hne : msg' ≠ msg) (j : Nat) :
    obtain w.obtained msg i err msg'.number j = w.obtained msg'.number j := by
  obtain ⟨hmsg, -⟩ := hout.waiting h
  exact if_neg fun hj => hne (h.eq_of_number hmsg' hmsg hj.1)

theorem ComesOut.errs_eq (hmsg' : msg' ∈ w.msgs) : t.errs.getD msg'.number [] =
      if msg' = msg then (w.errs msg).set i (some err) else w.errs msg' :=
  h.errs_set hout.mem hout.errs hmsg'

theorem ComesOut.size (hmsg' : msg' ∈ w.msgs) :
    (t.errs.getD msg'.number []).length = msg'.mCount := by
  obtain ⟨hmsg, -⟩ := hout.waiting h
  rw [hout.errs_eq h hmsg']
  split
  · rename_i hsame
    rw [length_set, hsame]
    exact h.size msg hmsg
  · exact h.size msg' hmsg'

theorem ComesOut.stored (hmsg' : msg' ∈ w.msgs)
    (hj : obtain w.obtained msg i err msg'.number j = some o) :
    (t.errs.getD msg'.number [])[j]? = some (some o) := by
  obtain ⟨-, hi, -⟩ := hout.waiting h
  rw [hout.errs_eq h hmsg']
  by_cases hsame : msg' = msg
  · subst hsame
    rw [if_pos rfl]
    rcases eq_or_ne j i with rfl | hji
    · rw [obtain_self] at hj
      rw [List.getElem?_set_self (by rw [h.size msg' hmsg']; exact hi), ← hj]
    · rw [obtain_ne _ hji] at hj
      rw [List.getElem?_set_ne hji.symm]
      exact h.stored msg' hmsg' j o hj
  · rw [hout.other h hmsg' hsame] at hj
    rw [if_neg hsame]
    exact h.stored msg' hmsg' j o hj

theorem ComesOut.stillWaiting (hmem : (msg', j) ∈ rest) :
    msg' ∈ w.msgs ∧ j < msg'.mCount ∧ obtain w.obtained msg i err msg'.number j = none := by
  obtain ⟨hmsg', hj, hnone⟩ :=
    h.waiting msg' j (hout.perm.mem_iff.mp (mem_cons_of_mem _ hmem))
  refine ⟨hmsg', hj, ?_⟩
  by_cases hsame : msg' = msg
  · subst hsame
    have hji : j ≠ i := by
      rintro rfl
      exact hout.notMem h hmem
    rw [obtain_ne _ hji]
    exact hnone
  · rw [hout.other h hmsg' hsame]
    exact hnone

theorem ComesOut.all (hsome : (obtain w.obtained msg i err msg.number (msg.mCount - 1)).isSome) :
    i + 1 = msg.mCount ∧ (w.comeOut msg i err t).Done msg := by
  obtain ⟨hmsg, hi, -⟩ := hout.waiting h
  have hlast : msg.mCount - 1 = i := by
    by_contra hne
    rw [obtain_ne _ hne] at hsome
    exact hout.not_done h (h.last msg hmsg hsome)
  have hcount : i + 1 = msg.mCount := by omega
  refine ⟨hcount, fun j hj => ?_⟩
  show (obtain w.obtained msg i err msg.number j).isSome
  rcases eq_or_ne j i with rfl | hji
  · rw [obtain_self]
    rfl
  · rw [obtain_ne _ hji]
    exact hout.last hcount j (by omega)

theorem ComesOut.response_eq (hall : (w.comeOut msg i err t).Done msg) : t.errs.getD msg.number [] =
      (List.range msg.mCount).map (obtain w.obtained msg i err msg.number) := by
  obtain ⟨hmsg, -⟩ := hout.waiting h
  apply ext_getElem?
  intro j
  rcases Nat.lt_or_ge j msg.mCount with hj | hj
  · obtain ⟨o, ho⟩ := isSome_iff_exists.mp (hall j hj)
    rw [hout.stored h hmsg ho, List.getElem?_map, List.getElem?_range hj, map_some]
    exact congrArg some ho.symm
  · rw [List.getElem?_eq_none (by rw [hout.size h hmsg]; exact hj),
      List.getElem?_eq_none (by simpa using hj)]

theorem ComesOut.answered_self : ((w.comeOut msg i err t).Done msg →
      (w.comeOut msg i err t).receivedFor msg = [(w.comeOut msg i err t).response msg]) ∧
    (¬ (w.comeOut msg i err t).Done msg → (w.comeOut msg i err t).receivedFor msg = []) := by
  obtain ⟨hmsg, -⟩ := hout.waiting h
  have hnothing := (h.answered msg hmsg).2 (hout.not_done h)
  rw [receivedFor] at hnothing
  rw [receivedFor, comeOut, filter_append, hnothing, nil_append]
  constructor
  · intro hall
    have hlast := hall _ (Nat.sub_lt (h.nonempty msg hmsg) Nat.one_pos)
    rw [if_pos (hout.all h hlast).1, hout.response_eq h hall]
    simp [response]
  · intro hnot
    rw [if_neg, filter_nil]
    intro hcount
    refine hnot (hout.all h ?_).2
    rw [← hcount]
    exact obtain_self ▸ rfl

theorem ComesOut.answered_other (hmsg' : msg' ∈ w.msgs) (hne : msg' ≠ msg) :
    ((w.comeOut msg i err t).Done msg' →
      (w.comeOut msg i err t).receivedFor msg' = [(w.comeOut msg i err t).response msg']) ∧
    (¬ (w.comeOut msg i err t).Done msg' → (w.comeOut msg i err t).receivedFor msg' = []) := by
  obtain ⟨hmsg, -⟩ := hout.waiting h
  have hnumber : msg.number ≠ msg'.number :=
    fun hnumber => hne (h.eq_of_number hmsg' hmsg hnumber.symm)
  have hnothing : (if i + 1 = msg.mCount then
      [(⟨msg.number, msg.mClient, t.errs.getD msg.number [], msg.mIds⟩ : CollectiveResponse)]
      else []).filter (·.number = msg'.number) = [] := by
    split
    · simp [hnumber]
    · rfl
  have hobtained := funext (hout.other h hmsg' hne)
  have hanswered := h.answered msg' hmsg'
  rw [receivedFor] at hanswered
  rw [receivedFor, comeOut, filter_append, hnothing, append_nil, Done, response]
  simp only [hobtained]
  exact hanswered

theorem Sound.outcome : Sound (w.comeOut msg i err t) := by
  obtain ⟨hmsg, -⟩ := hout.waiting h
  constructor
  · show t.errs.length = w.msgs.length
    rw [hout.errs, setErr, length_modify]
    exact h.length
  · exact h.number
  · exact h.nonempty
  · exact fun msg' hmsg' => hout.size h hmsg'
  · show t.items.Nodup
    rw [hout.items]
    exact (nodup_cons.mp (hout.perm.nodup_iff.mpr h.nodup)).2
  · intro msg' j hmem
    have hmem : (msg', j) ∈ t.items := hmem
    rw [hout.items] at hmem
    exact hout.stillWaiting h hmem
  · exact fun msg' hmsg' j o hj => hout.stored h hmsg' hj
  · intro msg' hmsg' hsome
    have hsome : (obtain w.obtained msg i err msg'.number (msg'.mCount - 1)).isSome := hsome
    by_cases hsame : msg' = msg
    · subst hsame
      exact (hout.all h hsome).2
    · rw [hout.other h hmsg' hsame] at hsome
      intro j hj
      show (obtain w.obtained msg i err msg'.number j).isSome
      rw [hout.other h hmsg' hsame]
      exact h.last msg' hmsg' hsome j hj
  · intro n j hn
    have hne : n ≠ msg.number := Nat.ne_of_gt (Nat.lt_of_lt_of_le (h.number_lt hmsg) hn)
    exact (if_neg fun hj => hne hj.1).trans (h.given n j hn)
  · intro r hr
    rcases mem_append.mp hr with hr | hr
    · exact h.received r hr
    · split at hr
      · rw [mem_singleton.mp hr]
        exact h.number_lt hmsg
      · cases hr
  · intro msg' hmsg'
    by_cases hsame : msg' = msg
    · subst hsame
      exact hout.answered_self h
    · exact hout.answered_other h hmsg' hsame

end Answer

/-- What is unanswered, without the call that is answered now. -/
def taken (w : WatchedGeofences) (n : Nat) : GeofenceAdapter :=
  { w.adapter with unanswered := w.adapter.unanswered.eraseIdx n }

variable {n : Nat} {fn : ResponseFn} {err : LocationError} {e : GeofenceEvent}

theorem items_taken (hfn : w.adapter.unanswered[n]? = some fn) :
    (fn.item?.toList ++ (w.taken n).items).Perm w.adapter.items := by
  obtain ⟨hn, rfl⟩ := List.getElem?_eq_some_iff.mp hfn
  have hperm := (getElem_cons_eraseIdx_perm hn).filterMap ResponseFn.item?
  rw [filterMap_cons] at hperm
  cases hitem : w.adapter.unanswered[n].item? with
  | none =>
    rw [hitem] at hperm
    exact hperm
  | some item =>
    rw [hitem] at hperm
    exact hperm

theorem outcome_taken : fn.outcome (w.taken n) err = fn.outcome w.adapter err := by
  cases fn <;> rfl

theorem reportOnLast_eq {t : GeofenceAdapter} {msg : GeofencesMsg} {i : Nat}
    (hclient : i + 1 = msg.mCount → t.mClientData[msg.mClient]? = some ⟨true⟩) :
    t.reportOnLast msg i = (t, if i + 1 = msg.mCount then
      [⟨msg.number, msg.mClient, t.errs.getD msg.number [], msg.mIds⟩] else []) := by
  rw [reportOnLast]
  split
  · rename_i hcount
    rw [reportResponse, hclient hcount]
    rfl
  · rfl

theorem Sound.response (h : Sound w) {hwId : Nat} (he : w.LastIsLast (.response n err hwId)) :
    Sound (w.next (.response n err hwId)) := by
  cases hfn : w.adapter.unanswered[n]? with
  | none =>
    have hnext : w.next (.response n err hwId) = w := by
      simp only [next, msgsBy, obtainedBy, step, hfn, append_nil]
    rw [hnext]
    exact h
  | some fn =>
    have hstep : step w.adapter (.response n err hwId) = (w.taken n).respond fn err hwId := by
      simp only [step, hfn]
      rfl
    have hperm := items_taken hfn
    cases hitem : fn.item? with
    | none =>
      obtain ⟨hsame, hout⟩ : SameItems (w.taken n) ((w.taken n).respond fn err hwId).1 ∧
          ((w.taken n).respond fn err hwId).2 = [] := respond_none hitem
      have hnext : w.next (.response n err hwId) =
          { w with adapter := ((w.taken n).respond fn err hwId).1 } := by
        simp only [next, msgsBy, obtainedBy, hstep, hfn, hitem, hout, append_nil]
      rw [hnext]
      rw [hitem] at hperm
      refine h.of_adapter hsame.errs ?_
      rw [hsame.items]
      exact hperm
    | some item =>
      obtain ⟨msg, i⟩ := item
      rw [hitem] at hperm
      cases ho : fn.outcome w.adapter err with
      | none =>
        obtain ⟨hwaits, hout⟩ : WaitsOn msg i (w.taken n)
            ((w.taken n).respond fn err hwId).1 ∧ ((w.taken n).respond fn err hwId).2 = [] :=
          respond_waitsOn hitem (outcome_taken.trans ho)
        have hnext : w.next (.response n err hwId) =
            { w with adapter := ((w.taken n).respond fn err hwId).1 } := by
          simp only [next, msgsBy, obtainedBy, hstep, hfn, hitem, ho, hout, append_nil]
        rw [hnext]
        exact h.waitsOn hperm (hwaits.errs.imp_right fun herrs => ⟨_, herrs⟩) hwaits.items
      | some o =>
        simp only [LastIsLast, hfn, hitem, ho] at he
        obtain ⟨hstores, hlast⟩ := he
        have hstores : fn.Stores (w.taken n) err := by
          cases fn <;> exact hstores
        obtain ⟨t, hsame, hrespond⟩ : ∃ t, SameItems ((w.taken n).setErr msg i o) t ∧
            (w.taken n).respond fn err hwId = t.reportOnLast msg i :=
          respond_outcome hitem (outcome_taken.trans ho) hstores
        rw [reportOnLast_eq fun hcount => by
          rw [hsame.mClientData]
          exact (hlast hcount).2] at hrespond
        have hnext : w.next (.response n err hwId) = w.comeOut msg i o t := by
          simp only [next, msgsBy, obtainedBy, hstep, hfn, hitem, ho, hrespond, comeOut]
        rw [hnext]
        exact h.outcome ⟨hperm, hsame.errs, hsame.items, fun hcount => (hlast hcount).1⟩

theorem Sound.quiet (h : Sound w) (hmsgs : w.msgsBy e = w.msgs)
    (hobtained : w.obtainedBy e = w.obtained) (hout : (step w.adapter e).2 = [])
    (herrs : (step w.adapter e).1.errs = w.adapter.errs)
    (hitems : (step w.adapter e).1.items = w.adapter.items) : Sound (w.next e) := by
  have hnext : w.next e = { w with adapter := (step w.adapter e).1 } := by
    rw [next, hmsgs, hobtained, hout, append_nil]
  rw [hnext]
  exact h.of_adapter herrs (by rw [hitems])

theorem Sound.next (h : Sound w) (he : w.LastIsLast e) : Sound (w.next e) := by
  cases e with
  | addClient client callbacks => exact h.quiet rfl rfl rfl rfl rfl
  | removeClient client =>
    have hstop := sameItems_stopClientSessions (s := w.adapter) client
    exact h.quiet rfl rfl rfl hstop.errs hstop.items
  | command command client ids => exact h.command he.1 he.2
  | engineLockState state => exact h.quiet rfl rfl rfl rfl rfl
  | handleEngineUpEvent =>
    have hup := sameItems_handleEngineUpEvent (s := w.adapter)
    exact h.quiet rfl rfl rfl hup.errs hup.items
  | response n err hwId => exact h.response he

/-- In every run in which the last item of each command is the last to come
out and nothing that comes out is dropped, commands are answered once, when
all items have come out, with what came of each. -/
theorem answered_of_stepsMeet {es : List GeofenceEvent}
    (hes : StepsMeet watched LastIsLast new es) :
    StatesMeet watched Answered new es :=
  StatesMeet.mono (P := Sound) (fun _ h => h.answered)
    (statesMeet_of_stepsMeet (fun _ _ h he => h.next he) sound_new hes)

/-! ## Runs -/

instance (fn : ResponseFn) (s : GeofenceAdapter) (err : LocationError) :
    Decidable (fn.Stores s err) := by
  unfold ResponseFn.Stores
  split
  · split <;> infer_instance
  · infer_instance

instance (w : WatchedGeofences) (e : GeofenceEvent) : Decidable (w.LastIsLast e) := by
  unfold LastIsLast
  split
  · infer_instance
  · split
    · infer_instance
    · split <;> infer_instance
  · infer_instance

instance (w : WatchedGeofences) (msg : GeofencesMsg) : Decidable (w.Done msg) :=
  inferInstanceAs (Decidable (∀ i < msg.mCount, _))

instance (w : WatchedGeofences) : Decidable w.Answered :=
  inferInstanceAs (Decidable (∀ msg ∈ w.msgs, _))

/-- Client 7 adds two geofences, which get the hardware ids 5 and 6. -/
def added : List GeofenceEvent :=
  [.addClient 7 ⟨true⟩, .command (.addGeofences (some [⟨1, 1000, 0⟩, ⟨2, 1000, 0⟩])
      (some [⟨0, 0, 0⟩, ⟨0, 0, 0⟩])) 7 [1, 2],
    .response 0 .success 0, .response 0 .success 0, .response 0 .success 5, .response 0 .success 6]

theorem answered_added : StatesMeet watched Answered new added :=
  answered_of_stepsMeet (by decide)

/-- It removes the first and one that it does not have: the queue refuses
the second item while the first is waiting for the engine. -/
def removedUnknown : List GeofenceEvent :=
  added ++ [.command .removeGeofences 7 [1, 9], .response 0 .success 0, .response 0 .success 0]

/-- It pauses the first and resumes it, which the engine refuses. -/
def resumedInVain : List GeofenceEvent :=
  added ++ [.command .pauseGeofences 7 [1], .response 0 .success 0, .response 0 .success 0,
    .command .resumeGeofences 7 [1], .response 0 .success 0, .response 0 .generalFailure 0]

/-- It modifies the first, which the engine refuses. -/
def modifiedInVain : List GeofenceEvent :=
  added ++ [.command (.modifyGeofences (some [⟨2, 1000, 0⟩])) 7 [1], .response 0 .success 0,
    .response 0 .generalFailure 0]

/-- The first is answered too soon, the second never, and the third with
SUCCESS. -/
theorem answered_fails : ¬ StatesMeet watched Answered new removedUnknown ∧
      ¬ StatesMeet watched Answered new resumedInVain ∧
      ¬ StatesMeet watched Answered new modifiedInVain :=
  ⟨fun h => absurd h.last (by decide), fun h => absurd h.last (by decide),
    fun h => absurd h.last (by decide)⟩

end WatchedGeofences

end LocStack.Geofence
