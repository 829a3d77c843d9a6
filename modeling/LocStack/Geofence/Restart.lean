/-
# `LocStack.Geofence.Restart` — restartGeofences

When the modem has restarted, without its geofences, the adapter clears both
maps and adds every geofence of `mGeofences` again; a geofence is saved
under its new hardware id when the engine answers.  `Restores s t` is what
the restarts are for: in `t` they have brought back what was saved in `s`.

That takes a state whose geofences can be told by their keys
(`Identified`), and in which none is paused (`Active`): a paused one is
paused in the modem again and saved as if it were not, by
`saveGeofenceItem`.  Nothing else is needed of the state, of the order of
the answers or of how many restarts there are (`restores_iff`).  The
placeholders of adds that failed with GNSS disabled need not be told apart
from the hardware ids, but two of them do from each other.
-/
import Mathlib.Algebra.GroupWithZero.Nat
import Mathlib.Data.Fintype.EquivFin
import LocStack.Geofence.Maps

namespace LocStack.Geofence

open Base List
open Tracking (LocationError)

/-- The geofence as `saveGeofenceItem` saves it. -/
def GeofenceObject.active (object : GeofenceObject) : GeofenceObject :=
  { object with paused := false }

theorem GeofenceObject.active_eq {object : GeofenceObject} (h : object.paused = false) :
    object.active = object := by
  cases object
  cases h
  rfl

namespace GeofenceAdapter

/-- The geofence that a key leads to. -/
def geofenceOf (s : GeofenceAdapter) (key : GeofenceKey) : Option GeofenceObject :=
  s.mGeofenceIds[key]?.bind fun hwId : Nat => s.mGeofences[hwId]?

/-- Whether the engine was last told to pause the geofence of a key. -/
def commandedPaused (s : GeofenceAdapter) (key : GeofenceKey) : Bool :=
  (s.mGeofenceIds[key]?.bind fun hwId : Nat => s.engine[hwId]?).any EngineGeofence.paused

def Saved (s : GeofenceAdapter) (object : GeofenceObject) : Prop :=
  ∃ hwId : Nat, s.mGeofences[hwId]? = some object

/-! ## The property, and the states that have it -/

/-- Every geofence saved in `s` is there in `t`, and the keys lead to the
same geofences, each of which the engine has as it is, paused if it was. -/
structure Restores (s t : GeofenceAdapter) : Prop where
  created : ∀ object, s.Saved object → t.geofenceOf object.key = some object
  keys : ∀ key, key ∈ t.mGeofenceIds ↔ key ∈ s.mGeofenceIds
  geofence : ∀ key, t.geofenceOf key = s.geofenceOf key
  engine : ∀ key (hwId : Nat) object, t.mGeofenceIds[key]? = some hwId →
    t.mGeofences[hwId]? = some object →
      t.engine[hwId]? = some ⟨object.options, object.info, s.commandedPaused key⟩

/-- Every key leads to a geofence of that key, and every saved geofence is
the one that its key leads to. -/
structure Identified (s : GeofenceAdapter) : Prop where
  found : ∀ key ∈ s.mGeofenceIds, ∃ object, s.geofenceOf key = some object ∧ object.key = key
  only : ∀ object, s.Saved object → s.geofenceOf object.key = some object

/-- No geofence is paused, nor is the engine to pause one. -/
structure Active (s : GeofenceAdapter) : Prop where
  saved : ∀ object, s.Saved object → object.paused = false
  commanded : ∀ key, s.commandedPaused key = false

def Restorable (s : GeofenceAdapter) : Prop :=
  s.mGeofences.isEmpty ∨ s.engineLockState = .enabled ∧ s.Identified ∧ s.Active

variable {s t : GeofenceAdapter} {key : GeofenceKey} {object : GeofenceObject} {hwId : Nat}

theorem geofenceOf_eq_some : s.geofenceOf key = some object ↔
      ∃ hwId, s.mGeofenceIds[key]? = some hwId ∧ s.mGeofences[hwId]? = some object :=
  Option.bind_eq_some_iff

theorem saved_of_geofenceOf (h : s.geofenceOf key = some object) : s.Saved object := by
  obtain ⟨hwId, -, hobject⟩ := geofenceOf_eq_some.mp h
  exact ⟨hwId, hobject⟩

theorem mem_of_geofenceOf (h : s.geofenceOf key = some object) : key ∈ s.mGeofenceIds := by
  obtain ⟨hwId, hkey, -⟩ := geofenceOf_eq_some.mp h
  exact Std.TreeMap.mem_iff_isSome_getElem?.mpr (Option.isSome_iff_exists.mpr ⟨hwId, hkey⟩)

theorem isEmpty_mGeofences_iff : s.mGeofences.isEmpty ↔ ∀ object, ¬ s.Saved object := by
  constructor
  · rintro h object ⟨hwId, hobject⟩
    rw [Std.TreeMap.getElem?_of_isEmpty h] at hobject
    cases hobject
  · intro h
    by_contra hne
    rw [Bool.not_eq_true, Std.TreeMap.isEmpty_eq_false_iff_exists_mem] at hne
    obtain ⟨hwId, hmem⟩ := hne
    exact h s.mGeofences[hwId] ⟨hwId, Std.TreeMap.getElem?_eq_some_getElem hmem⟩

theorem saved_iff_mem_toList :
    s.Saved object ↔ ∃ entry ∈ s.mGeofences.toList, entry.2 = object := by
  constructor
  · rintro ⟨hwId, hobject⟩
    exact ⟨(hwId, object), Std.TreeMap.mem_toList_iff_getElem?_eq_some.mpr hobject, rfl⟩
  · rintro ⟨entry, hmem, rfl⟩
    exact ⟨entry.1, Std.TreeMap.mem_toList_iff_getElem?_eq_some.mp hmem⟩

/-! ## One answer -/

/-- What the answer SUCCESS to the add of `object` makes of the adapter. -/
structure Readded (object : GeofenceObject) (hwId : Nat) (t u : GeofenceAdapter) : Prop where
  mGeofences : ∀ j : Nat, u.mGeofences[j]? =
    if hwId = j then some object.active else t.mGeofences[j]?
  mGeofenceIds : ∀ key, u.mGeofenceIds[key]? =
    if object.key = key then some hwId else t.mGeofenceIds[key]?
  engineLockState : u.engineLockState = t.engineLockState
  engine : ∀ j : Nat, u.engine[j]? =
    if hwId = j then some ⟨object.options, object.info, object.paused⟩ else t.engine[j]?
  unanswered : u.unanswered = t.unanswered ++ if object.paused = true then [.ignore] else []

theorem saveGeofenceItem_mGeofences (object : GeofenceObject) (hwId j : Nat) :
    (t.saveGeofenceItem object.key hwId object.options object.info).mGeofences[j]? =
      if hwId = j then some object.active else t.mGeofences[j]? := by
  rw [saveGeofenceItem, Std.TreeMap.getElem?_insert]
  simp only [Std.compare_eq_iff_eq]
  rfl

theorem saveGeofenceItem_mGeofenceIds (object : GeofenceObject) (hwId : Nat)
    (key : GeofenceKey) :
    (t.saveGeofenceItem object.key hwId object.options object.info).mGeofenceIds[key]? =
      if object.key = key then some hwId else t.mGeofenceIds[key]? := by
  rw [saveGeofenceItem, Std.TreeMap.getElem?_insert]
  simp only [Std.compare_eq_iff_eq]

theorem restartGeofencesResponse_success (object : GeofenceObject) (hwId : Nat) :
    Readded object hwId t (t.restartGeofencesResponse object .success hwId) := by
  rw [restartGeofencesResponse, if_pos rfl, geofenceAdded, if_pos rfl]
  cases hpaused : object.paused with
  | false =>
    constructor
    · exact saveGeofenceItem_mGeofences object hwId
    · exact saveGeofenceItem_mGeofenceIds object hwId
    · rfl
    · intro j
      show (t.engine.insert hwId _)[j]? = _
      rw [Std.TreeMap.getElem?_insert, hpaused]
      simp only [Std.compare_eq_iff_eq]
    · rw [hpaused]
      exact (append_nil _).symm
  | true =>
    have hcommand : ({ t with
        engine := t.engine.insert hwId ⟨object.options, object.info, false⟩ }.command hwId
          fun fence => { fence with paused := true }) =
        { t with
          engine := (t.engine.insert hwId ⟨object.options, object.info, false⟩).insert hwId
            ⟨object.options, object.info, true⟩ } := by
      rw [command, Std.TreeMap.getElem?_insert_self]
    rw [if_pos rfl, pauseGeofence, hcommand]
    constructor
    · exact saveGeofenceItem_mGeofences object hwId
    · exact saveGeofenceItem_mGeofenceIds object hwId
    · rfl
    · intro j
      show ((t.engine.insert hwId _).insert hwId _)[j]? = _
      rw [Std.TreeMap.getElem?_insert, Std.TreeMap.getElem?_insert, hpaused]
      simp only [Std.compare_eq_iff_eq]
      split <;> rfl
    · rw [hpaused]
      rfl

/-! ## What holds between the restarts -/

/-- The engine answers with SUCCESS, and an add with a hardware id that no
geofence of the modem has. -/
def Successful (t : GeofenceAdapter) : GeofenceEvent → Prop
  | .handleEngineUpEvent => True
  | .response n err hwId =>
    err = .success ∧
      ∀ object, t.unanswered[n]? = some (.restartGeofences object) → t.engine[hwId]? = none
  | _ => False

/-- Saved, or about to be. -/
def Kept (t : GeofenceAdapter) (object : GeofenceObject) : Prop :=
  t.Saved object ∨ ∃ o, .restartGeofences o ∈ t.unanswered ∧ o.active = object

/-- `t` comes about by restarts with the geofences of `s`. -/
structure Restarting (s t : GeofenceAdapter) : Prop where
  engineLockState : t.engineLockState = .enabled
  unanswered : ∀ fn ∈ t.unanswered, fn = .ignore ∨ ∃ o, fn = .restartGeofences o
  kept : ∀ object, t.Kept object ↔ ∃ o, s.Saved o ∧ o.active = object
  active : ∀ object, t.Saved object → object.paused = false
  found : ∀ key (hwId : Nat), t.mGeofenceIds[key]? = some hwId →
    ∃ object, t.mGeofences[hwId]? = some object ∧ object.key = key
  engine : ∀ hwId : Nat, t.engine[hwId]? = none ↔ t.mGeofences[hwId]? = none

/-- Besides, where `s` could be restored. -/
structure Restoring (t : GeofenceAdapter) : Prop where
  active : ∀ object, .restartGeofences object ∈ t.unanswered → object.paused = false
  only : ∀ object, t.Saved object → t.geofenceOf object.key = some object
  engine : ∀ (hwId : Nat) object, t.mGeofences[hwId]? = some object →
    t.engine[hwId]? = some ⟨object.options, object.info, false⟩

/-! ### Engine up -/

/-- The adapter after a restart that had geofences to bring back. -/
def restarted (t : GeofenceAdapter) : GeofenceAdapter :=
  { t with
    engine := ∅
    mGeofences := ∅
    mGeofenceIds := ∅
    unanswered := t.unanswered ++ t.mGeofences.toList.map fun entry => .restartGeofences entry.2 }

theorem handleEngineUpEvent_of_isEmpty (h : t.mGeofences.isEmpty) :
    t.handleEngineUpEvent = { t with engine := ∅ } := by
  rw [handleEngineUpEvent, restartGeofences, if_pos h, ite_self]

theorem handleEngineUpEvent_of_not_isEmpty (hlock : t.engineLockState = .enabled)
    (h : ¬ t.mGeofences.isEmpty) : t.handleEngineUpEvent = t.restarted := by
  rw [handleEngineUpEvent, if_pos hlock, restartGeofences, if_neg h]
  rfl

theorem not_saved_restarted : ¬ t.restarted.Saved object := by
  rintro ⟨hwId, hobject⟩
  rw [restarted, Std.TreeMap.getElem?_emptyc] at hobject
  cases hobject

theorem mem_restarted {o : GeofenceObject} :
    .restartGeofences o ∈ t.restarted.unanswered ↔
      t.Saved o ∨ .restartGeofences o ∈ t.unanswered := by
  rw [restarted, mem_append, mem_map, saved_iff_mem_toList, or_comm]
  simp only [ResponseFn.restartGeofences.injEq]

theorem restarting_restarted (hlock : t.engineLockState = .enabled)
    (hfn : ∀ fn ∈ t.unanswered, fn = .ignore ∨ ∃ o, fn = .restartGeofences o)
    (hkept : ∀ object, (∃ o, (t.Saved o ∨ .restartGeofences o ∈ t.unanswered) ∧
      o.active = object) ↔ ∃ o, s.Saved o ∧ o.active = object) :
    Restarting s t.restarted where
  engineLockState := hlock
  unanswered fn hmem := by
    rcases mem_append.mp hmem with hmem | hmem
    · exact hfn fn hmem
    · obtain ⟨entry, -, rfl⟩ := mem_map.mp hmem
      exact .inr ⟨entry.2, rfl⟩
  kept object := by
    rw [← hkept, Kept, or_iff_right not_saved_restarted]
    simp only [mem_restarted]
  active _ hsaved := absurd hsaved not_saved_restarted
  found key hwId hkey := by
    rw [restarted, Std.TreeMap.getElem?_emptyc] at hkey
    cases hkey
  engine hwId := by
    rw [restarted, Std.TreeMap.getElem?_emptyc, Std.TreeMap.getElem?_emptyc]
    exact iff_of_true rfl rfl

theorem Restarting.handleEngineUpEvent (h : Restarting s t) :
    Restarting s t.handleEngineUpEvent := by
  by_cases hempty : t.mGeofences.isEmpty
  · rw [handleEngineUpEvent_of_isEmpty hempty]
    refine ⟨h.engineLockState, h.unanswered, h.kept, h.active, h.found, fun hwId => ?_⟩
    exact iff_of_true Std.TreeMap.getElem?_emptyc (Std.TreeMap.getElem?_of_isEmpty hempty)
  · rw [handleEngineUpEvent_of_not_isEmpty h.engineLockState hempty]
    refine restarting_restarted h.engineLockState h.unanswered fun object => ?_
    rw [← h.kept, Kept]
    constructor
    · rintro ⟨o, hsaved | hmem, rfl⟩
      · rw [GeofenceObject.active_eq (h.active o hsaved)]
        exact .inl hsaved
      · exact .inr ⟨o, hmem, rfl⟩
    · rintro (hsaved | ⟨o, hmem, rfl⟩)
      · exact ⟨object,  .inl hsaved, GeofenceObject.active_eq (h.active object hsaved)⟩
      · exact ⟨o, .inr hmem, rfl⟩

theorem Restoring.handleEngineUpEvent (h : Restarting s t) (hr : Restoring t) :
    Restoring t.handleEngineUpEvent := by
  by_cases hempty : t.mGeofences.isEmpty
  · rw [handleEngineUpEvent_of_isEmpty hempty]
    have hnone := isEmpty_mGeofences_iff.mp hempty
    exact ⟨hr.active, fun object hsaved => absurd hsaved (hnone object),
      fun hwId object hobject => absurd ⟨hwId, hobject⟩ (hnone object)⟩
  · rw [handleEngineUpEvent_of_not_isEmpty h.engineLockState hempty]
    constructor
    · intro object hmem
      rcases mem_restarted.mp hmem with hsaved | hmem
      · exact h.active object hsaved
      · exact hr.active object hmem
    · intro object hsaved
      exact absurd hsaved not_saved_restarted
    · intro hwId object hobject
      exact absurd ⟨hwId, hobject⟩ not_saved_restarted

/-! ### Answers -/

theorem mem_unanswered_iff {n : Nat} {fn : ResponseFn} (hfn : t.unanswered[n]? = some fn)
    (f : ResponseFn) : f ∈ t.unanswered ↔ f = fn ∨ f ∈ t.unanswered.eraseIdx n := by
  obtain ⟨hn, rfl⟩ := List.getElem?_eq_some_iff.mp hfn
  rw [← (getElem_cons_eraseIdx_perm hn).mem_iff, mem_cons]

section Answer

variable {n : Nat}

theorem step_response_ignore (hfn : t.unanswered[n]? = some .ignore) {err : LocationError} :
    (step t (.response n err hwId)).1 = { t with unanswered := t.unanswered.eraseIdx n } := by
  rw [step]
  simp only [hfn]
  rfl

theorem step_response_restart (hfn : t.unanswered[n]? = some (.restartGeofences object)) :
    Readded object hwId { t with unanswered := t.unanswered.eraseIdx n }
      (step t (.response n .success hwId)).1 := by
  rw [step]
  simp only [hfn]
  exact restartGeofencesResponse_success object hwId

theorem Restarting.ignore (h : Restarting s t) (hfn : t.unanswered[n]? = some .ignore) :
    Restarting s { t with unanswered := t.unanswered.eraseIdx n } where
  engineLockState := h.engineLockState
  unanswered fn hmem := h.unanswered fn (mem_of_mem_eraseIdx hmem)
  kept object := by
    rw [← h.kept, Kept, Kept]
    simp only [mem_unanswered_iff hfn, reduceCtorEq, false_or]
    rfl
  active := h.active
  found := h.found
  engine := h.engine

theorem Restoring.ignore (hr : Restoring t) :
    Restoring { t with unanswered := t.unanswered.eraseIdx n } where
  active object hmem := hr.active object (mem_of_mem_eraseIdx hmem)
  only := hr.only
  engine := hr.engine

variable {u : GeofenceAdapter}

theorem ne_of_fresh (hfresh : t.mGeofences[hwId]? = none) {j : Nat}
    (hj : t.mGeofences[j]? = some object) : hwId ≠ j := by
  rintro rfl
  rw [hfresh] at hj
  cases hj

variable {o : GeofenceObject}

theorem Readded.saved_iff (hu : Readded object hwId t u) (hfresh : t.mGeofences[hwId]? = none) :
    u.Saved o ↔ o = object.active ∨ t.Saved o := by
  constructor
  · rintro ⟨j, hj⟩
    rw [hu.mGeofences] at hj
    split at hj
    · exact .inl (Option.some.inj hj).symm
    · exact .inr ⟨j, hj⟩
  · rintro (rfl | ⟨j, hj⟩)
    · exact ⟨hwId, (hu.mGeofences hwId).trans (if_pos rfl)⟩
    · refine ⟨j, ?_⟩
      rw [hu.mGeofences, if_neg (ne_of_fresh hfresh hj)]
      exact hj

theorem Readded.mem_unanswered_iff (hu : Readded object hwId t u) :
    .restartGeofences o ∈ u.unanswered ↔ .restartGeofences o ∈ t.unanswered := by
  rw [hu.unanswered, mem_append]
  split <;> simp

theorem Restarting.readded (h : Restarting s t)
    (hfn : t.unanswered[n]? = some (.restartGeofences object))
    (hfresh : t.engine[hwId]? = none)
    (hu : Readded object hwId { t with unanswered := t.unanswered.eraseIdx n } u) :
    Restarting s u := by
  have hnone := (h.engine hwId).mp hfresh
  constructor
  · rw [hu.engineLockState]
    exact h.engineLockState
  · intro fn hmem
    rw [hu.unanswered] at hmem
    rcases mem_append.mp hmem with hmem | hmem
    · exact h.unanswered fn (mem_of_mem_eraseIdx hmem)
    · split at hmem
      · exact .inl (mem_singleton.mp hmem)
      · cases hmem
  · intro o
    rw [← h.kept, Kept, Kept, hu.saved_iff hnone]
    simp only [hu.mem_unanswered_iff, GeofenceAdapter.mem_unanswered_iff hfn,
      ResponseFn.restartGeofences.injEq, or_and_right, exists_or, exists_eq_left]
    show (_ ∨ t.Saved o) ∨ _ ↔ _
    rw [or_comm (b := t.Saved o), or_assoc, eq_comm]
  · intro o hsaved
    rcases (hu.saved_iff hnone).mp hsaved with rfl | hsaved
    · rfl
    · exact h.active o hsaved
  · intro key j hkey
    rw [hu.mGeofenceIds] at hkey
    split at hkey
    · rename_i heq
      cases hkey
      exact ⟨object.active, (hu.mGeofences hwId).trans (if_pos rfl), heq⟩
    · obtain ⟨o, ho, hkeyo⟩ := h.found key j hkey
      exact ⟨o, by rw [hu.mGeofences, if_neg (ne_of_fresh hnone ho)]; exact ho, hkeyo⟩
  · intro j
    rw [hu.engine, hu.mGeofences]
    split
    · simp
    · exact h.engine j

theorem Restoring.readded (hi : s.Identified)
    (ha : ∀ object, s.Saved object → object.paused = false) (h : Restarting s t)
    (hr : Restoring t) (hfn : t.unanswered[n]? = some (.restartGeofences object))
    (hfresh : t.engine[hwId]? = none)
    (hu : Readded object hwId { t with unanswered := t.unanswered.eraseIdx n } u) :
    Restoring u := by
  have hnone := (h.engine hwId).mp hfresh
  have hmem := mem_of_getElem? hfn
  have hactive := hr.active object hmem
  -- what is kept is saved in `s`, so its key tells it
  have horigin : ∀ o, t.Kept o → s.geofenceOf o.key = some o := by
    intro o hkept
    obtain ⟨o', hsaved, rfl⟩ := (h.kept o).mp hkept
    rw [GeofenceObject.active_eq (ha o' hsaved)]
    exact hi.only o' hsaved
  have hobject := horigin object.active (.inr ⟨object, hmem, rfl⟩)
  constructor
  · intro o hmem
    exact hr.active o (mem_of_mem_eraseIdx (hu.mem_unanswered_iff.mp hmem))
  · intro o hsaved
    rw [geofenceOf_eq_some]
    by_cases hkey : o.key = object.key
    · have ho : o = object.active := by
        rcases (hu.saved_iff hnone).mp hsaved with ho | hsaved
        · exact ho
        · have hsame := horigin o (.inl hsaved)
          rw [hkey] at hsame
          exact Option.some.inj (hsame.symm.trans hobject)
      refine ⟨hwId, ?_, ?_⟩
      · rw [hu.mGeofenceIds, if_pos hkey.symm]
      · rw [hu.mGeofences, if_pos rfl, ho]
    · have hsaved : t.Saved o := by
        rcases (hu.saved_iff hnone).mp hsaved with rfl | hsaved
        · exact absurd rfl hkey
        · exact hsaved
      obtain ⟨j, hid, ho⟩ := geofenceOf_eq_some.mp (hr.only o hsaved)
      refine ⟨j, ?_, ?_⟩
      · rw [hu.mGeofenceIds, if_neg fun heq => hkey heq.symm]
        exact hid
      · rw [hu.mGeofences, if_neg (ne_of_fresh hnone ho)]
        exact ho
  · intro j o ho
    rw [hu.mGeofences] at ho
    rw [hu.engine]
    split at ho
    · cases ho
      rw [if_pos ‹_›, hactive]
      rfl
    · rw [if_neg ‹_›]
      exact hr.engine j o ho

end Answer

/-! ### Runs -/

variable {e : GeofenceEvent} {es : List GeofenceEvent}

theorem Restarting.step (h : Restarting s t) (he : Successful t e) : Restarting s (step t e).1 := by
  cases e with
  | addClient => cases he
  | removeClient => cases he
  | command => cases he
  | engineLockState => cases he
  | handleEngineUpEvent => exact h.handleEngineUpEvent
  | response n err hwId =>
    obtain ⟨rfl, hfresh⟩ := he
    cases hfn : t.unanswered[n]? with
    | none =>
      rw [Geofence.step]
      simp only [hfn]
      exact h
    | some fn =>
      rcases h.unanswered fn (mem_of_getElem? hfn) with rfl | ⟨object, rfl⟩
      · rw [step_response_ignore hfn]
        exact h.ignore hfn
      · exact h.readded hfn (hfresh object hfn) (step_response_restart hfn)

theorem Restoring.step (hi : s.Identified) (ha : ∀ object, s.Saved object → object.paused = false)
    (h : Restarting s t) (hr : Restoring t) (he : Successful t e) : Restoring (step t e).1 := by
  cases e with
  | addClient => cases he
  | removeClient => cases he
  | command => cases he
  | engineLockState => cases he
  | handleEngineUpEvent => exact hr.handleEngineUpEvent h
  | response n err hwId =>
    obtain ⟨rfl, hfresh⟩ := he
    cases hfn : t.unanswered[n]? with
    | none =>
      rw [Geofence.step]
      simp only [hfn]
      exact hr
    | some fn =>
      rcases h.unanswered fn (mem_of_getElem? hfn) with rfl | ⟨object, rfl⟩
      · rw [step_response_ignore hfn]
        exact hr.ignore
      · exact hr.readded hi ha h hfn (hfresh object hfn) (step_response_restart hfn)

theorem Restarting.after (h : Restarting s t) (hes : StepsMeet Geofence.step Successful t es) :
    Restarting s (Base.after Geofence.step t es) := by
  have hrun : StatesMeet Geofence.step (Restarting s) t es :=
    statesMeet_of_stepsMeet (fun _ _ ht he => ht.step he) h hes
  exact hrun.last

theorem Restoring.after (hi : s.Identified) (ha : ∀ object, s.Saved object → object.paused = false)
    (h : Restarting s t) (hr : Restoring t) (hes : StepsMeet Geofence.step Successful t es) :
    Restoring (Base.after Geofence.step t es) := by
  have hrun := statesMeet_of_stepsMeet (P := fun t => Restarting s t ∧ Restoring t)
    (fun _ _ ht he => ⟨ht.1.step he, ht.2.step hi ha ht.1 he⟩) ⟨h, hr⟩ hes
  exact hrun.last.2

theorem Restarting.saved_iff (ha : ∀ object, s.Saved object → object.paused = false)
    (h : Restarting s t) (hdone : t.unanswered = []) :
    t.Saved object ↔ s.Saved object := by
  have hkept : t.Kept object ↔ t.Saved object := by
    rw [Kept, hdone]
    simp
  rw [← hkept, h.kept]
  constructor
  · rintro ⟨o, hsaved, rfl⟩
    rw [GeofenceObject.active_eq (ha o hsaved)]
    exact hsaved
  · intro hsaved
    exact ⟨object, hsaved, GeofenceObject.active_eq (ha object hsaved)⟩

theorem Restarting.restores (hi : s.Identified) (ha : s.Active) (h : Restarting s t)
    (hr : Restoring t) (hdone : t.unanswered = []) : Restores s t := by
  have hgeofence : ∀ key object, t.geofenceOf key = some object ↔
      s.geofenceOf key = some object := by
    intro key object
    constructor
    · intro hkey
      obtain ⟨hwId, hid, hobject⟩ := geofenceOf_eq_some.mp hkey
      obtain ⟨o, ho, rfl⟩ := h.found key hwId hid
      rw [hobject] at ho
      cases ho
      exact hi.only object ((h.saved_iff ha.saved hdone).mp ⟨hwId, hobject⟩)
    · intro hkey
      obtain ⟨o, ho, rfl⟩ := hi.found key (mem_of_geofenceOf hkey)
      rw [hkey] at ho
      cases ho
      exact hr.only object ((h.saved_iff ha.saved hdone).mpr (saved_of_geofenceOf hkey))
  constructor
  · intro object hsaved
    exact hr.only object ((h.saved_iff ha.saved hdone).mpr hsaved)
  · intro key
    constructor
    · intro hmem
      have hid := Std.TreeMap.getElem?_eq_some_getElem hmem
      obtain ⟨object, hobject, -⟩ := h.found key _ hid
      exact mem_of_geofenceOf ((hgeofence key object).mp (geofenceOf_eq_some.mpr ⟨_, hid, hobject⟩))
    · intro hmem
      obtain ⟨object, hobject, -⟩ := hi.found key hmem
      exact mem_of_geofenceOf ((hgeofence key object).mpr hobject)
  · intro key
    exact Option.ext (hgeofence key)
  · intro key hwId object _ hobject
    rw [ha.commanded]
    exact hr.engine hwId object hobject

/-! ### A run in which everything is answered -/

/-- How many answers it still takes at most: the add of a paused geofence
is followed by a call to pause it. -/
def answers : ResponseFn → Nat
  | .restartGeofences _ => 2
  | _ => 1

theorem exists_fresh (t : GeofenceAdapter) : ∃ hwId : Nat, t.engine[hwId]? = none := by
  obtain ⟨hwId, hfresh⟩ := Infinite.exists_notMem_finset t.engine.keys.toFinset
  refine ⟨hwId, Std.TreeMap.getElem?_eq_none fun hmem => hfresh ?_⟩
  exact mem_toFinset.mpr (Std.TreeMap.mem_keys.mpr hmem)

theorem exists_successful (h : Restarting s t) (hne : t.unanswered ≠ []) : ∃ e, Successful t e ∧
      ((Geofence.step t e).1.unanswered.map answers).sum < (t.unanswered.map answers).sum := by
  obtain ⟨hwId, hfresh⟩ := exists_fresh t
  refine ⟨.response 0 .success hwId, ⟨rfl, fun _ _ => hfresh⟩, ?_⟩
  obtain ⟨fn, rest, hcons⟩ := exists_cons_of_ne_nil hne
  have hfn : t.unanswered[0]? = some fn := by rw [hcons, List.getElem?_cons_zero]
  rcases h.unanswered fn (mem_of_getElem? hfn) with rfl | ⟨object, rfl⟩
  · rw [step_response_ignore hfn, hcons]
    simp [answers]
  · have hstep : Readded object hwId { t with unanswered := t.unanswered.eraseIdx 0 }
        (Geofence.step t (.response 0 .success hwId)).1 := step_response_restart hfn
    rw [hstep.unanswered, hcons]
    split <;> simp [answers, Nat.add_comm]

theorem exists_answered (h : Restarting s t) : ∃ es, StepsMeet Geofence.step Successful t es ∧
    (after Geofence.step t es).unanswered = [] := by
  induction hn : (t.unanswered.map answers).sum using Nat.strong_induction_on generalizing t with
  | _ n ih =>
    rcases eq_or_ne t.unanswered [] with hdone | hne
    · exact ⟨[], trivial, hdone⟩
    · obtain ⟨e, he, hlt⟩ := exists_successful h hne
      obtain ⟨es, hes, hdone⟩ := ih _ (hn ▸ hlt) (h.step he) rfl
      exact ⟨e :: es, ⟨he, hes⟩, hdone⟩

/-! ## The states that are restored -/

/-- Every run of restarts from `s` that begins with one and in which the
engine answers every call, with SUCCESS, restores `s`. -/
def Restored (s : GeofenceAdapter) : Prop :=
  ∀ es, StepsMeet Geofence.step Successful s (.handleEngineUpEvent :: es) →
    (after Geofence.step s (.handleEngineUpEvent :: es)).unanswered = [] →
      Restores s (after Geofence.step s (.handleEngineUpEvent :: es))

section Restored

variable (hs : s.unanswered = [])
include hs

theorem restarting_first (hlock : s.engineLockState = .enabled) :
    Restarting s s.restarted := by
  refine restarting_restarted hlock ?_ ?_
  · rw [hs]
    intro fn hmem
    cases hmem
  · rw [hs]
    simp

theorem restoring_first (ha : ∀ object, s.Saved object → object.paused = false) :
    Restoring s.restarted := by
  constructor
  · intro object hmem
    rcases mem_restarted.mp hmem with hsaved | hmem
    · exact ha object hsaved
    · rw [hs] at hmem
      cases hmem
  · intro object hsaved
    exact absurd hsaved not_saved_restarted
  · intro hwId object hobject
    exact absurd ⟨hwId, hobject⟩ not_saved_restarted

theorem restored_of_isEmpty (hempty : s.mGeofences.isEmpty) : s.Restored := by
  intro es hes _
  -- nothing is called, so nothing changes
  have hrun : StatesMeet Geofence.step (fun t => t = s ∨ t = { s with engine := ∅ }) s
      (.handleEngineUpEvent :: es) := by
    refine statesMeet_of_stepsMeet ?_ (.inl rfl) hes
    rintro t e ht he
    have hup : t.handleEngineUpEvent = { s with engine := ∅ } := by
      rcases ht with rfl | rfl
      · exact handleEngineUpEvent_of_isEmpty hempty
      · exact handleEngineUpEvent_of_isEmpty hempty
    have hnone : t.unanswered = [] := by
      rcases ht with rfl | rfl
      · exact hs
      · exact hs
    cases e with
    | addClient => cases he
    | removeClient => cases he
    | command => cases he
    | engineLockState => cases he
    | handleEngineUpEvent => exact .inr hup
    | response n err hwId =>
      rw [Geofence.step]
      simp only [hnone, List.getElem?_nil]
      exact ht
  have hnone := isEmpty_mGeofences_iff.mp hempty
  have hmaps : ∀ t : GeofenceAdapter, t.mGeofenceIds = s.mGeofenceIds →
      t.mGeofences = s.mGeofences → Restores s t := by
    intro t hids hgeofences
    constructor
    · intro object hsaved
      exact absurd hsaved (hnone object)
    · intro key
      rw [hids]
    · intro key
      rw [geofenceOf, geofenceOf, hids, hgeofences]
    · intro key hwId object _ hobject
      rw [hgeofences] at hobject
      exact absurd ⟨hwId, hobject⟩ (hnone object)
  rcases hrun.last with heq | heq
  · exact hmaps _ (by rw [heq]) (by rw [heq])
  · exact hmaps _ (by rw [heq]) (by rw [heq])

theorem restored_of_identified (hlock : s.engineLockState = .enabled) (hi : s.Identified)
    (ha : s.Active) (hne : ¬ s.mGeofences.isEmpty) : s.Restored := by
  intro es hes hdone
  have hfirst : (Geofence.step s .handleEngineUpEvent).1 = s.restarted :=
    handleEngineUpEvent_of_not_isEmpty hlock hne
  rw [StepsMeet, hfirst] at hes
  rw [after_cons, hfirst] at hdone ⊢
  have hrestarting := restarting_first hs hlock
  have hrestoring := restoring_first hs ha.saved
  exact (hrestarting.after hes.2).restores hi ha (hrestoring.after hi ha.saved hrestarting hes.2)
    hdone

theorem enabled_of_restored (hne : ¬ s.mGeofences.isEmpty) (h : s.Restored) :
    s.engineLockState = .enabled := by
  by_contra hlock
  have hup : (Geofence.step s .handleEngineUpEvent).1 = { s with engine := ∅ } := if_neg hlock
  have hrestores := h [] ⟨trivial, trivial⟩ (by rw [after_cons, hup]; exact hs)
  rw [after_cons, hup] at hrestores
  rw [isEmpty_mGeofences_iff] at hne
  push Not at hne
  obtain ⟨object, hsaved⟩ := hne
  obtain ⟨hwId, hid, hobject⟩ := geofenceOf_eq_some.mp (hrestores.created object hsaved)
  have hengine := hrestores.engine object.key hwId object hid hobject
  rw [after_nil, Std.TreeMap.getElem?_emptyc] at hengine
  cases hengine

theorem identified_of_restored (hlock : s.engineLockState = .enabled)
    (hne : ¬ s.mGeofences.isEmpty) (h : s.Restored) : s.Identified ∧ s.Active := by
  have hfirst : (Geofence.step s .handleEngineUpEvent).1 = s.restarted :=
    handleEngineUpEvent_of_not_isEmpty hlock hne
  have hrestarting := restarting_first hs hlock
  obtain ⟨es, hes, hdone⟩ := exists_answered hrestarting
  have hrestores := h es ⟨trivial, by rw [hfirst]; exact hes⟩ (by
    rw [after_cons, hfirst]
    exact hdone)
  rw [after_cons, hfirst] at hrestores
  have hafter := hrestarting.after hes
  have hidentified : s.Identified := by
    constructor
    · intro key hmem
      have hmem' := (hrestores.keys key).mpr hmem
      have hid := Std.TreeMap.getElem?_eq_some_getElem hmem'
      obtain ⟨object, hobject, hkey⟩ := hafter.found key _ hid
      refine ⟨object, ?_, hkey⟩
      rw [← hrestores.geofence, geofenceOf_eq_some]
      exact ⟨_, hid, hobject⟩
    · intro object hsaved
      rw [← hrestores.geofence]
      exact hrestores.created object hsaved
  have hactive : ∀ object, s.Saved object → object.paused = false := by
    intro object hsaved
    exact hafter.active object (saved_of_geofenceOf (hrestores.created object hsaved))
  have hrestoring := (restoring_first hs hactive).after hidentified hactive hrestarting hes
  refine ⟨hidentified, hactive, fun key => ?_⟩
  cases hkey : s.mGeofenceIds[key]? with
  | none =>
    rw [commandedPaused, hkey]
    rfl
  | some _ =>
    have hmem : key ∈ s.mGeofenceIds := (Std.TreeMap.getElem?_eq_some_iff.mp hkey).fst
    have hid := Std.TreeMap.getElem?_eq_some_getElem ((hrestores.keys key).mpr hmem)
    obtain ⟨object, hobject, -⟩ := hafter.found key _ hid
    have hengine := hrestores.engine key _ object hid hobject
    rw [hrestoring.engine _ object hobject] at hengine
    exact (congrArg EngineGeofence.paused (Option.some.inj hengine)).symm

/-- Where nothing else is under way, the restarts bring back a set of saved
geofences exactly if it is empty, or the engine lock is enabled, the keys
identify the geofences and none is paused. -/
theorem restored_iff : s.Restored ↔ s.Restorable := by
  by_cases hempty : s.mGeofences.isEmpty
  · exact iff_of_true (restored_of_isEmpty hs hempty) (.inl hempty)
  · constructor
    · intro h
      have hlock := enabled_of_restored hs hempty h
      exact .inr ⟨hlock, identified_of_restored hs hlock hempty h⟩
    · rintro (h | ⟨hlock, hi, ha⟩)
      · exact absurd h hempty
      · exact restored_of_identified hs hlock hi ha hempty

end Restored

/-- A geofence of client 7, which the modem gave the hardware id 5. -/
def fenced : GeofenceAdapter :=
  Base.after Geofence.step .new
    [.command circle 7 [1], .response 0 .success 0, .response 0 .success 5]

theorem restored_fenced : fenced.Restored := by
  have hids : fenced.mGeofenceIds = (∅ : Std.TreeMap GeofenceKey Nat).insert ⟨7, 1⟩ 5 := rfl
  have hgeofences : fenced.mGeofences = (∅ : Std.TreeMap Nat GeofenceObject).insert 5
      ⟨⟨7, 1⟩, 1, 1000, 0, 0, 0, 0, false⟩ := rfl
  have hsaved : ∀ object, fenced.Saved object →
      object = ⟨⟨7, 1⟩, 1, 1000, 0, 0, 0, 0, false⟩ := by
    rintro object ⟨hwId, hobject⟩
    rw [hgeofences, Std.TreeMap.getElem?_insert] at hobject
    split at hobject
    · exact (Option.some.inj hobject).symm
    · rw [Std.TreeMap.getElem?_emptyc] at hobject
      cases hobject
  refine (restored_iff (s := fenced) rfl).mpr (.inr ⟨rfl, ⟨?_, ?_⟩, ⟨?_, ?_⟩⟩)
  · intro key hmem
    rw [hids, Std.TreeMap.mem_insert, Std.compare_eq_iff_eq] at hmem
    rcases hmem with rfl | hmem
    · exact ⟨_, rfl, rfl⟩
    · exact absurd hmem Std.TreeMap.not_mem_emptyc
  · intro object h
    rw [hsaved object h]
    rfl
  · intro object h
    rw [hsaved object h]
  · intro key
    rw [commandedPaused, hids, Std.TreeMap.getElem?_insert]
    split
    · rfl
    · rw [Std.TreeMap.getElem?_emptyc]
      rfl

/-- The same geofence, paused. -/
def pausedFence : GeofenceAdapter :=
  Base.after Geofence.step fenced
    [.command .pauseGeofences 7 [1], .response 0 .success 0, .response 0 .success 0]

/-- GNSS is enabled after both adds failed. -/
def offlineFences : GeofenceAdapter :=
  Base.after Geofence.step .new (addedOffline ++ [.engineLockState .enabled])

/-- The paused geofence is not paused after a restart, and of the two that
were added offline the first is gone. -/
theorem restored_fails : ¬ pausedFence.Restored ∧ ¬ offlineFences.Restored := by
  constructor
  · intro h
    have hrestores := h [.response 0 .success 9, .response 0 .success 9]
      ⟨trivial, ⟨rfl, fun _ _ => rfl⟩, ⟨rfl, fun _ hfn => by cases hfn⟩, trivial⟩ rfl
    have hsame : (some true : Option Bool) = some false := by
      calc (some true : Option Bool)
          = (pausedFence.geofenceOf ⟨7, 1⟩).map GeofenceObject.paused := rfl
        _ = some false := congrArg _ (hrestores.geofence ⟨7, 1⟩).symm
    cases hsame
  · intro h
    have hrestores := h [.response 0 .success 9] ⟨trivial, ⟨rfl, fun _ _ => rfl⟩, trivial⟩ rfl
    have hmem := (hrestores.keys ⟨7, 1⟩).mpr (by decide)
    revert hmem
    decide

end GeofenceAdapter

end LocStack.Geofence
