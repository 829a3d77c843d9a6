/-
# `LocStack.Geofence.Breaches` — a breach, to the clients of the geofences

The modem reports a breach of a list of hardware ids.  For each client the
adapter goes through all of them and collects the ids that the client knows its
own geofences by:

    clientIds[index++] = key.id     count cells, index in 32 bits

`geofenceBreach_delivers`: a client gets at most one notification, with an id for
each time one of its geofences is in the list, in that order; a client without a
breach callback, or that has left, gets none.
-/
import LocStack.Base.Cells
import LocStack.Geofence.Model

namespace LocStack.Geofence

open Base List

/-- Of a client.  The location, the type and the time are only copied, and
stand as one `report`. -/
structure BreachNotification (ρ : Type) where
  client : ℕ
  geofenceIds : List ℕ
  report : ρ

/-- What is filled for one client. -/
structure ClientIds (count : ℕ) where
  clientIds : Cells count ℕ
  index : UInt32

namespace GeofenceAdapter

variable {ρ : Type} {count : ℕ} (s : GeofenceAdapter)

/-- The turn of the hardware id `hwId`, in the loop for `client`. -/
def collectId (client : ℕ) (c : ClientIds count) (hwId : ℕ) : Option (ClientIds count) :=
  match s.getGeofenceKeyFromHwId hwId with
  | some key =>
    if key.client = client then
      (c.clientIds.write c.index.toNat key.id).map fun clientIds => ⟨clientIds, c.index + 1⟩
    else some c
  | none => some c

/-- The turn of one client; `geofenceBreachCb` says who has that callback. -/
def notifyBreach (geofenceBreachCb : ℕ → Bool) (hwIds : List ℕ) (report : ρ) (client : ℕ) :
    Option (List (BreachNotification ρ)) := do
  let c ← hwIds.foldlM (s.collectId client) (⟨.empty, 0⟩ : ClientIds hwIds.length)
  if 0 < c.index ∧ geofenceBreachCb client then
    return [⟨client, ← Cells.gather c.index.toNat c.clientIds.read, report⟩]
  else return []

/-- The notifications, or none if an array is written or read where it may not
be. -/
def geofenceBreach (geofenceBreachCb : ℕ → Bool) (hwIds : List ℕ) (report : ρ) :
    Option (List (BreachNotification ρ)) :=
  (s.mClientData.keys.mapM (s.notifyBreach geofenceBreachCb hwIds report)).map List.flatten

/-! ## What is due -/

/-- The id of the geofence, if it is one of the client's. -/
def clientId (client hwId : ℕ) : Option ℕ :=
  match s.mGeofences[hwId]? with
  | some object => if object.key.client = client then some object.key.id else none
  | none => none

/-- The geofences of a client in the report, each time they occur in it. -/
def breached (hwIds : List ℕ) (client : ℕ) : List ℕ := hwIds.filterMap (s.clientId client)

end GeofenceAdapter

/-- Each client has the ids that are due to it in at most one notification. -/
structure Delivers {ρ : Type} (report : ρ) (due : ℕ → List ℕ)
    (out : List (BreachNotification ρ)) : Prop where
  once : (out.map BreachNotification.client).Nodup
  ids : ∀ client, (out.filter (·.client = client)).flatMap (·.geofenceIds) = due client
  report : ∀ n ∈ out, n.report = report ∧ n.geofenceIds ≠ []

/-- What an index of 32 bits leaves of a list: all of it, if it has less than
2^32 elements. -/
def lastRound (ids : List ℕ) : List ℕ := ids.drop (ids.length - ids.length % 2 ^ 32)

theorem length_lastRound (ids : List ℕ) : (lastRound ids).length = ids.length % 2 ^ 32 := by
  rw [lastRound, length_drop]
  exact Nat.sub_sub_self (Nat.mod_le ..)

namespace GeofenceAdapter

variable {ρ : Type} {count : ℕ} {s : GeofenceAdapter}

/-! ## The loop for a client -/

theorem collectId_eq (client : ℕ) (c : ClientIds count) (hwId : ℕ) : s.collectId client c hwId =
      match s.clientId client hwId with
      | some id =>
        (c.clientIds.write c.index.toNat id).map fun clientIds => ⟨clientIds, c.index + 1⟩
      | none => some c := by
  unfold collectId clientId getGeofenceKeyFromHwId
  cases s.mGeofences[hwId]? with
  | none => rfl
  | some object =>
    simp only [Option.map_some]
    split <;> rfl

/-- The cells below the index have what it leaves of the ids. -/
def Collected (c : ClientIds count) (ids : List ℕ) : Prop :=
  c.index.toNat = ids.length % 2 ^ 32 ∧
    ∀ j < c.index.toNat, c.clientIds.read j = (lastRound ids)[j]?

theorem Collected.concat {c : ClientIds count} {ids : List ℕ} (h : Collected c ids) (id : ℕ)
    (hroom : ids.length < count) :
    ∃ c', (c.clientIds.write c.index.toNat id).map
      (fun clientIds => (⟨clientIds, c.index + 1⟩ : ClientIds count)) = some c' ∧
        Collected c' (ids ++ [id]) := by
  obtain ⟨hindex, hread⟩ := h
  have hlt : c.index.toNat < count := (hindex ▸ Nat.mod_le ..).trans_lt hroom
  obtain ⟨clientIds, hwrite, hsame⟩ := Cells.exists_write c.clientIds id hlt
  refine ⟨_, by rw [hwrite]; rfl, ?_, ?_⟩
  · show (c.index + 1).toNat = _
    rw [UInt32.toNat_add, hindex, length_append]
    exact Nat.mod_add_mod ..
  · intro j hj
    have hnext : j < (ids.length % 2 ^ 32 + 1) % 2 ^ 32 := by
      rw [← hindex]
      exact hj
    have hround : (ids ++ [id]).length - (ids ++ [id]).length % 2 ^ 32 =
        ids.length - ids.length % 2 ^ 32 := by
      rw [length_append, length_singleton]
      omega
    have hle : ids.length - ids.length % 2 ^ 32 ≤ ids.length := Nat.sub_le ..
    rw [lastRound, hround, drop_append_of_le_length hle]
    change clientIds.read j = (lastRound ids ++ [id])[j]?
    rcases Nat.lt_or_ge j c.index.toNat with hj | hj
    · rw [Cells.read_of_write hwrite hj.ne, hread j hj,
        List.getElem?_append_left (by rwa [length_lastRound, ← hindex])]
    · obtain rfl : j = c.index.toNat := by omega
      rw [hsame, hindex, ← length_lastRound, List.getElem?_concat_length]

theorem exists_collected (client : ℕ) (hwIds : List ℕ) (hcount : hwIds.length ≤ count) :
    ∃ c, hwIds.foldlM (s.collectId client) (⟨.empty, 0⟩ : ClientIds count) = some c ∧
      Collected c (s.breached hwIds client) := by
  induction hwIds using List.reverseRecOn with
  | nil => exact ⟨_, rfl, rfl, fun j hj => absurd hj j.not_lt_zero⟩
  | append_singleton hwIds hwId ih =>
    rw [length_append] at hcount
    obtain ⟨c, hc, hcollected⟩ := ih (Nat.le_of_succ_le hcount)
    have hroom : (s.breached hwIds client).length < count :=
      (length_filterMap_le ..).trans_lt hcount
    rw [foldlM_append, hc]
    unfold breached
    rw [filterMap_append]
    show ∃ c', (s.collectId client c hwId).bind some = _ ∧ _
    rw [Option.bind_fun_some, collectId_eq]
    cases hid : s.clientId client hwId with
    | none =>
      refine ⟨c, rfl, ?_⟩
      rwa [filterMap_cons_none hid, filterMap_nil, append_nil]
    | some id =>
      rw [filterMap_cons_some hid, filterMap_nil]
      exact hcollected.concat id hroom

/-! ## The notifications -/

theorem notifyBreach_eq (geofenceBreachCb : ℕ → Bool) (hwIds : List ℕ) (report : ρ)
    (client : ℕ) :
    s.notifyBreach geofenceBreachCb hwIds report client =
      let ids := lastRound (s.breached hwIds client)
      some (if ids ≠ [] ∧ geofenceBreachCb client then [⟨client, ids, report⟩] else []) := by
  obtain ⟨c, hc, hindex, hread⟩ := s.exists_collected client hwIds le_rfl
  have hlength : c.index.toNat = (lastRound (s.breached hwIds client)).length := by
    rw [length_lastRound, hindex]
  have hsome : ∀ j < c.index.toNat, (c.clientIds.read j).isSome := by
    intro j hj
    rw [hread j hj, List.getElem?_eq_getElem (hlength ▸ hj)]
    rfl
  obtain ⟨ids, hgather, hids, hget⟩ := Cells.exists_gather hsome
  obtain rfl : ids = lastRound (s.breached hwIds client) := by
    refine ext_getElem? fun j => ?_
    rcases Nat.lt_or_ge j c.index.toNat with hj | hj
    · exact (hget j hj).trans (hread j hj)
    · rw [List.getElem?_eq_none (hids ▸ hj), List.getElem?_eq_none (hlength ▸ hj)]
  have hpos : 0 < c.index ↔ lastRound (s.breached hwIds client) ≠ [] := by
    rw [← length_pos_iff, ← hlength]
    exact UInt32.lt_iff_toNat_lt
  unfold notifyBreach
  rw [hc]
  show (if 0 < c.index ∧ _ then _ else _) = _
  rw [hgather]
  simp only [hpos]
  split <;> rfl

theorem geofenceBreach_eq (geofenceBreachCb : ℕ → Bool) (hwIds : List ℕ) (report : ρ) :
    s.geofenceBreach geofenceBreachCb hwIds report = some ((s.mClientData.keys.filter fun client =>
          lastRound (s.breached hwIds client) ≠ [] ∧ geofenceBreachCb client).map fun client =>
        ⟨client, lastRound (s.breached hwIds client), report⟩) := by
  unfold geofenceBreach
  rw [funext fun client => s.notifyBreach_eq geofenceBreachCb hwIds report client]
  refine (congrArg (Option.map List.flatten) mapM_pure).trans (congrArg some ?_)
  induction s.mClientData.keys with
  | nil => rfl
  | cons client clients ih =>
    rw [map_cons, flatten_cons, ih, filter_cons]
    simp only [decide_eq_true_iff]
    split <;> rfl

/-- What is due to the clients that can be told. -/
def dueIds (s : GeofenceAdapter) (geofenceBreachCb : ℕ → Bool) (hwIds : List ℕ) (client : ℕ) :
    List ℕ :=
  if client ∈ s.mClientData ∧ geofenceBreachCb client then
    lastRound (s.breached hwIds client)
  else []

/-- Each id of a geofence in the report reaches the client that the geofence is
of, if that has a callback, and no other. -/
theorem geofenceBreach_delivers (s : GeofenceAdapter) (geofenceBreachCb : ℕ → Bool)
    (hwIds : List ℕ) (report : ρ) :
    ∃ out, s.geofenceBreach geofenceBreachCb hwIds report = some out ∧
      Delivers report (s.dueIds geofenceBreachCb hwIds) out := by
  refine ⟨_, s.geofenceBreach_eq .., ?_, fun client => ?_, fun n hn => ?_⟩
  · rw [map_map]
    exact (map_id _).symm ▸ Std.TreeMap.nodup_keys.filter _
  · rw [filter_map]
    show ((List.filter (· = client) _).map _).flatMap _ = _
    rw [filter_eq, (Std.TreeMap.nodup_keys.filter _).count, dueIds]
    simp only [mem_filter, Std.TreeMap.mem_keys, decide_eq_true_iff]
    by_cases hids : lastRound (s.breached hwIds client) = []
    · simp [hids]
    · simp only [hids, ne_eq, not_false_iff, true_and]
      split <;> simp
  · obtain ⟨client, hclient, rfl⟩ := mem_map.mp hn
    exact ⟨rfl, (decide_eq_true_iff.mp (mem_filter.mp hclient).2).1⟩

/-- The client 1 has come for the status of geofences alone. -/
def oneGeofence : GeofenceAdapter :=
  { new with
    mClientData := Std.TreeMap.empty.insert 1 ⟨true⟩
    mGeofences := Std.TreeMap.empty.insert 7 (.new ⟨1, 4⟩ ⟨3, 0, 0⟩ ⟨0, 0, 0⟩) }

theorem not_geofenceBreach_delivers_statusOnly :
    ¬ ∃ out, oneGeofence.geofenceBreach (fun _ => false) [7] () = some out ∧
      Delivers () (oneGeofence.breached [7]) out := by
  rintro ⟨out, hout, hdelivers⟩
  obtain rfl : [] = out := Option.some.inj hout
  exact absurd (hdelivers.ids 1) (by decide)

end GeofenceAdapter

end LocStack.Geofence
