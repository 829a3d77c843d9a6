/-
# `LocStack.Geofence.Maps` — mGeofences and mGeofenceIds

`mGeofenceIds` leads from the key of a geofence to its hardware id and
`mGeofences` from there to the geofence, key included; the commands go one
way and the reports of the modem the other.

Three things take the maps apart.  A removed client leaves only
`mGeofenceIds` at once, and with a failed removal `mGeofences` never; a
client's removal that is answered may take a geofence that has its hardware
id by then; and an add that failed with GNSS disabled is saved under
whatever the answer left in `data.hwId`, so the second of two takes the
place of the first.  The maps stay inverse in a run exactly if it does none
of these (`mutuallyInverse_iff`).
-/
import LocStack.Base.TwoMaps
import LocStack.Geofence.Model

namespace LocStack.Geofence

open Base
open Tracking (LocationError)

namespace GeofenceAdapter

/-! ## What the operations do to the maps -/

/-- Every key has a geofence of that key under its hardware id, and the key
of every geofence leads to it. -/
abbrev MutuallyInverse (s : GeofenceAdapter) : Prop :=
  Inverse GeofenceObject.key (fun key => s.mGeofenceIds[key]?) fun hwId => s.mGeofences[hwId]?

/-- The two maps, of which alone `MutuallyInverse` speaks. -/
def maps (s : GeofenceAdapter) :
    Std.TreeMap GeofenceKey Nat × Std.TreeMap Nat GeofenceObject :=
  (s.mGeofenceIds, s.mGeofences)

variable {s t : GeofenceAdapter} {msg : GeofencesMsg} {i hwId : Nat} {err : LocationError}

theorem mGeofenceIds_eq (h : t.maps = s.maps) : t.mGeofenceIds = s.mGeofenceIds :=
  congrArg Prod.fst h

theorem mGeofences_eq (h : t.maps = s.maps) : t.mGeofences = s.mGeofences :=
  congrArg Prod.snd h

theorem mutuallyInverse_congr (h : t.maps = s.maps) : MutuallyInverse t ↔ MutuallyInverse s := by
  rw [MutuallyInverse, MutuallyInverse, mGeofenceIds_eq h, mGeofences_eq h]

variable {fn : ResponseFn}

@[simp] theorem maps_call : (s.call fn).maps = s.maps := rfl

@[simp] theorem maps_setErr : (s.setErr msg i err).maps = s.maps := rfl

@[simp] theorem maps_command {f : EngineGeofence → EngineGeofence} :
    (s.command hwId f).maps = s.maps := by
  rw [command]
  split <;> rfl

@[simp] theorem maps_geofenceAdded {options : GeofenceOption} {info : GeofenceInfo} :
    (s.geofenceAdded err hwId options info).maps = s.maps := by
  rw [geofenceAdded]
  split <;> rfl

@[simp] theorem maps_reportOnLast : (s.reportOnLast msg i).1.maps = s.maps := by
  rw [reportOnLast]
  split <;> rfl

@[simp] theorem maps_pauseGeofence : (s.pauseGeofence hwId fn).maps = s.maps := by
  rw [pauseGeofence, maps_call, maps_command]

theorem maps_callGeofence : (s.callGeofence msg i hwId).maps = s.maps := by
  rw [callGeofence]
  cases msg.command with
  | addGeofences => rfl
  | removeGeofences => rfl
  | pauseGeofences => exact maps_pauseGeofence
  | resumeGeofences => exact maps_call.trans maps_command
  | modifyGeofences => exact maps_call.trans maps_command

theorem maps_callQueueResponse : (s.callQueueResponse msg i).1.maps = s.maps := by
  rw [callQueueResponse]
  split
  · rfl
  · split
    · exact maps_callGeofence.trans maps_setErr
    · exact maps_reportOnLast.trans maps_setErr

theorem maps_procCommand {command : GeofencesCommand} {client : Nat} {ids : List Nat} :
    (s.procCommand command client ids).maps = s.maps := by
  rw [procCommand]
  split <;> rfl

/-! ## What keeps them inverse -/

/-- No other geofence has `hwId`, and `key` no other hardware id. -/
def CanSave (s : GeofenceAdapter) (key : GeofenceKey) (hwId : Nat) : Prop :=
  (∀ object, s.mGeofences[hwId]? = some object → object.key = key) ∧
    ∀ j, s.mGeofenceIds[key]? = some j → j = hwId

theorem canSave_congr (h : t.maps = s.maps) {key : GeofenceKey} :
    t.CanSave key hwId ↔ s.CanSave key hwId := by
  rw [CanSave, CanSave, mGeofenceIds_eq h, mGeofences_eq h]

section Keep

variable (h : s.MutuallyInverse)
include h

theorem saveGeofenceItem_iff {key : GeofenceKey} {options : GeofenceOption}
    {info : GeofenceInfo} :
    (s.saveGeofenceItem key hwId options info).MutuallyInverse ↔ s.CanSave key hwId := by
  rw [MutuallyInverse, saveGeofenceItem, getElem?_insert_eq, getElem?_insert_eq]
  exact h.save_iff hwId (.new key options info)

theorem mutuallyInverse_removeGeofenceItem : (s.removeGeofenceItem hwId).MutuallyInverse := by
  rw [removeGeofenceItem, getGeofenceKeyFromHwId]
  cases hobject : s.mGeofences[hwId]? with
  | none => exact h
  | some object =>
    show MutuallyInverse (if s.mGeofenceIds.contains object.key then _ else s)
    split
    · rw [MutuallyInverse, getElem?_erase_eq, getElem?_erase_eq]
      exact h.erase hobject
    · exact h

theorem mutuallyInverse_updateGeofenceItem {f : GeofenceObject → GeofenceObject}
    (hf : ∀ object, (f object).key = object.key) :
    (s.updateGeofenceItem hwId f).MutuallyInverse := by
  rw [updateGeofenceItem]
  cases hobject : s.mGeofences[hwId]? with
  | none => exact h
  | some object =>
    show MutuallyInverse { s with mGeofences := s.mGeofences.insert hwId (f object) }
    rw [MutuallyInverse, getElem?_insert_eq]
    exact h.modify hobject (hf object)

theorem addGeofenceResponse_iff : (s.addGeofenceResponse msg i err hwId).1.MutuallyInverse ↔
      (s.engineLockState = .disabled ∨ err = .success → s.CanSave (msg.key i) hwId) := by
  rw [addGeofenceResponse, mutuallyInverse_congr maps_reportOnLast,
    mutuallyInverse_congr maps_setErr]
  have hadded : (s.geofenceAdded err hwId (msg.command.option i) (msg.command.info i)).maps =
      s.maps := maps_geofenceAdded
  have hlock : (s.geofenceAdded err hwId (msg.command.option i)
      (msg.command.info i)).engineLockState = s.engineLockState := by
    rw [geofenceAdded]
    split <;> rfl
  rw [hlock]
  split
  · rename_i hsaved
    rw [saveGeofenceItem_iff ((mutuallyInverse_congr hadded).mpr h), canSave_congr hadded]
    exact ⟨fun hcan _ => hcan, fun hcan => hcan hsaved⟩
  · rename_i hfailed
    rw [mutuallyInverse_congr hadded]
    exact ⟨fun _ hsaved => absurd hsaved hfailed, fun _ => h⟩

theorem mutuallyInverse_geofenceResponse :
    (s.geofenceResponse msg i hwId err).1.MutuallyInverse := by
  rw [geofenceResponse]
  cases msg.command with
  | addGeofences => exact h
  | removeGeofences =>
    rw [mutuallyInverse_congr maps_reportOnLast, mutuallyInverse_congr maps_setErr]
    split
    · exact mutuallyInverse_removeGeofenceItem h
    · exact h
  | pauseGeofences =>
    rw [mutuallyInverse_congr maps_reportOnLast, mutuallyInverse_congr maps_setErr]
    split
    · exact mutuallyInverse_updateGeofenceItem h fun _ => rfl
    · exact h
  | resumeGeofences =>
    show MutuallyInverse (if err = .success then _ else _ : _ × _).1
    split
    · rw [mutuallyInverse_congr maps_reportOnLast]
      exact mutuallyInverse_updateGeofenceItem ((mutuallyInverse_congr maps_setErr).mpr h)
        fun _ => rfl
    · exact h
  | modifyGeofences options =>
    rw [mutuallyInverse_congr maps_reportOnLast]
    split
    · exact mutuallyInverse_updateGeofenceItem ((mutuallyInverse_congr maps_setErr).mpr h)
        fun _ => rfl
    · exact h

theorem stopClientSessionsResponse_iff : (s.stopClientSessionsResponse hwId err).MutuallyInverse ↔
      (err = .success → s.mGeofences[hwId]? = none) := by
  rw [stopClientSessionsResponse]
  split
  · rename_i hsuccess
    rw [MutuallyInverse, getElem?_erase_eq, h.erase_object_iff hwId]
    exact ⟨fun hnone _ => hnone, fun hnone => hnone hsuccess⟩
  · rename_i hfailed
    exact ⟨fun _ hsuccess => absurd hsuccess hfailed, fun _ => h⟩

theorem restartGeofencesResponse_iff {object : GeofenceObject} :
    (s.restartGeofencesResponse object err hwId).MutuallyInverse ↔
      (err = .success → s.CanSave object.key hwId) := by
  have hadded : (s.geofenceAdded err hwId object.options object.info).maps = s.maps :=
    maps_geofenceAdded
  rw [restartGeofencesResponse]
  split
  · rename_i hsuccess
    have hpaused : (if object.paused = true then
        (s.geofenceAdded err hwId object.options object.info).pauseGeofence hwId .ignore
        else s.geofenceAdded err hwId object.options object.info).maps = s.maps := by
      split
      · exact maps_pauseGeofence.trans hadded
      · exact hadded
    rw [saveGeofenceItem_iff ((mutuallyInverse_congr hpaused).mpr h), canSave_congr hpaused]
    exact ⟨fun hcan _ => hcan, fun hcan => hcan hsuccess⟩
  · rename_i hfailed
    rw [mutuallyInverse_congr hadded]
    exact ⟨fun _ hsuccess => absurd hsuccess hfailed, fun _ => h⟩

theorem mutuallyInverse_handleEngineUpEvent : s.handleEngineUpEvent.MutuallyInverse := by
  rw [handleEngineUpEvent]
  split
  · rw [restartGeofences]
    split
    · exact h
    · exact Inverse.empty
  · exact h

end Keep

/-! ## Client removals -/

variable {client : Nat} {entry : GeofenceKey × Nat}

theorem stopClientSession_mGeofences :
    (stopClientSession client s entry).mGeofences = s.mGeofences := by
  rw [stopClientSession]
  split <;> rfl

theorem stopClientSession_mGeofenceIds (key : GeofenceKey) :
    (stopClientSession client s entry).mGeofenceIds[key]? =
      if key.client = client ∧ key = entry.1 then none else s.mGeofenceIds[key]? := by
  rw [stopClientSession]
  split
  · rename_i hclient
    show (s.mGeofenceIds.erase entry.1)[key]? = _
    rw [Std.TreeMap.getElem?_erase]
    have hiff : compare entry.1 key = .eq ↔ key.client = client ∧ key = entry.1 := by
      rw [Std.compare_eq_iff_eq]
      constructor
      · rintro rfl
        exact ⟨hclient.symm, rfl⟩
      · rintro ⟨-, rfl⟩
        rfl
    simp only [hiff]
  · rename_i hclient
    rw [if_neg]
    rintro ⟨rfl, rfl⟩
    exact hclient rfl

theorem foldl_stopClientSession_mGeofences (entries : List (GeofenceKey × Nat)) :
    (entries.foldl (stopClientSession client) s).mGeofences = s.mGeofences := by
  induction entries generalizing s with
  | nil => rfl
  | cons entry entries ih => exact ih.trans stopClientSession_mGeofences

theorem foldl_stopClientSession_mGeofenceIds (entries : List (GeofenceKey × Nat))
    (key : GeofenceKey) :
    (entries.foldl (stopClientSession client) s).mGeofenceIds[key]? =
      if key.client = client ∧ key ∈ entries.map Prod.fst then none
      else s.mGeofenceIds[key]? := by
  induction entries generalizing s with
  | nil => simp
  | cons entry entries ih =>
    rw [List.foldl_cons, ih, stopClientSession_mGeofenceIds]
    simp only [List.map_cons, List.mem_cons]
    grind

theorem stopClientSessions_mGeofences : (s.stopClientSessions client).mGeofences = s.mGeofences :=
  foldl_stopClientSession_mGeofences _

theorem stopClientSessions_mGeofenceIds (key : GeofenceKey) :
    (s.stopClientSessions client).mGeofenceIds[key]? =
      if key.client = client then none else s.mGeofenceIds[key]? := by
  rw [stopClientSessions, foldl_stopClientSession_mGeofenceIds]
  cases hkey : s.mGeofenceIds[key]? with
  | none => simp
  | some hwId =>
    have hmem : key ∈ s.mGeofenceIds.toList.map Prod.fst :=
      List.mem_map.mpr ⟨(key, hwId), Std.TreeMap.mem_toList_iff_getElem?_eq_some.mpr hkey, rfl⟩
    simp only [hmem, and_true]

theorem stopClientSessions_iff (h : s.MutuallyInverse) :
    (s.stopClientSessions client).MutuallyInverse ↔
      ∀ key : GeofenceKey, key.client = client → s.mGeofenceIds[key]? = none := by
  rw [MutuallyInverse, stopClientSessions_mGeofences, funext stopClientSessions_mGeofenceIds]
  exact h.forget_iff fun key => key.client = client

end GeofenceAdapter

/-! ## The steps that keep them -/

open GeofenceAdapter

/-- A removed client has no geofences left; what is saved gets a hardware
id of its own, and keeps the one it has; and the answer to a client's
removal finds no geofence under the hardware id. -/
def KeepsMaps (s : GeofenceAdapter) : GeofenceEvent → Prop
  | .removeClient client => ∀ key : GeofenceKey, key.client = client → s.mGeofenceIds[key]? = none
  | .response n err hwId =>
    match s.unanswered[n]? with
    | some (.addGeofence msg i) =>
      s.engineLockState = .disabled ∨ err = .success → s.CanSave (msg.key i) hwId
    | some (.restartGeofences object) => err = .success → s.CanSave object.key hwId
    | some (.stopClientSessions hwId) => err = .success → s.mGeofences[hwId]? = none
    | _ => True
  | _ => True

variable {s : GeofenceAdapter}

theorem response_iff (h : s.MutuallyInverse) (n : Nat) (err : LocationError) (hwId : Nat) :
    (step s (.response n err hwId)).1.MutuallyInverse ↔ KeepsMaps s (.response n err hwId) := by
  rw [step, KeepsMaps]
  split
  · rename_i hfn
    rw [hfn]
    exact iff_of_true h trivial
  · rename_i fn hfn
    rw [hfn]
    cases fn with
    | callQueue msg i =>
      exact iff_of_true ((mutuallyInverse_congr maps_callQueueResponse).mpr h) trivial
    | addGeofence msg i =>
      exact addGeofenceResponse_iff
        (s := { s with unanswered := s.unanswered.eraseIdx n }) h
    | geofence msg i hwId =>
      exact iff_of_true (mutuallyInverse_geofenceResponse
        (s := { s with unanswered := s.unanswered.eraseIdx n }) h) trivial
    | stopClientSessions hwId =>
      exact stopClientSessionsResponse_iff
        (s := { s with unanswered := s.unanswered.eraseIdx n }) h
    | restartGeofences object =>
      exact restartGeofencesResponse_iff
        (s := { s with unanswered := s.unanswered.eraseIdx n }) h
    | ignore => exact iff_of_true h trivial

theorem step_iff (h : s.MutuallyInverse) (e : GeofenceEvent) :
    (step s e).1.MutuallyInverse ↔ KeepsMaps s e := by
  cases e with
  | addClient client callbacks => exact iff_of_true h trivial
  | removeClient client => exact stopClientSessions_iff h
  | command command client ids =>
    exact iff_of_true ((mutuallyInverse_congr maps_procCommand).mpr h) trivial
  | engineLockState state => exact iff_of_true h trivial
  | handleEngineUpEvent => exact iff_of_true (mutuallyInverse_handleEngineUpEvent h) trivial
  | response n err hwId => exact response_iff h n err hwId

/-- The maps are mutually inverse throughout a run exactly if all its steps
keep them so. -/
theorem mutuallyInverse_iff (es : List GeofenceEvent) :
    StatesMeet step MutuallyInverse .new es ↔ StepsMeet step KeepsMaps .new es :=
  statesMeet_iff_stepsMeet (Q := fun _ => True) (fun _ _ _ => trivial)
    (fun _ e _ h => step_iff h e) trivial Inverse.empty

/-! ## Runs that do not -/

def circle : GeofencesCommand :=
  .addGeofences (some [⟨1, 1000, 0⟩]) (some [⟨0, 0, 0⟩])

/-- Two geofences of client 7 are added while GNSS is disabled, and both
adds are answered with a failure and the same `data.hwId`. -/
def addedOffline : List GeofenceEvent :=
  [.engineLockState .disabled, .command circle 7 [1], .command circle 7 [2],
    .response 0 .success 0, .response 0 .success 0,
    .response 0 .generalFailure 0, .response 0 .generalFailure 0]

/-- Client 7 is removed with its geofence, which the modem gave the
hardware id 5. -/
def removedClient : List GeofenceEvent :=
  [.command circle 7 [1], .response 0 .success 0, .response 0 .success 5, .removeClient 7]

/-- After the first run the key of the first geofence leads to the second,
after the second run the key of the geofence leads nowhere. -/
theorem mutuallyInverse_fails : ¬ StatesMeet step MutuallyInverse .new addedOffline ∧
      ¬ StatesMeet step MutuallyInverse .new removedClient := by
  constructor
  · intro h
    obtain ⟨object, hobject, hkey⟩ := h.last.object ⟨7, 1⟩ 0 (by decide)
    have hother : (after step .new addedOffline).mGeofences[0]?.map GeofenceObject.key =
        some ⟨7, 2⟩ := by decide
    rw [hobject, Option.map_some, hkey] at hother
    cases hother
  · intro h
    have hid := h.last.id 5 ⟨⟨7, 1⟩, 1, 1000, 0, 0, 0, 0, false⟩ (by decide)
    have hnone : (after step .new removedClient).mGeofenceIds[(⟨7, 1⟩ : GeofenceKey)]? = none := by
      decide
    rw [hnone] at hid
    cases hid

end LocStack.Geofence
