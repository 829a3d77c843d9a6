/-
# `LocStack.ClientBase.Geofences` — the geofences of a client and their sessions

A client knows its geofences by ids of its own, LocationAPI by session ids,
and `mGeofenceBiDict` leads from either to the other; as its third map it
has the breach mask of each session.  A list of ids is made into a list of
the sessions that are known, and what else the caller gave goes along:

    modify    the options, as they are     the masks, id by id
    resume    (nothing)                    the masks, id by id

`geofences_right_iff`: the two maps stay mutually inverse, options and masks go to
the sessions they were given for, and removing all removes the sessions
that are registered, if and only if ids are added once, no unknown id
shifts the options of a known one, and, when all are removed, the
registered ids are also registered as sessions.
-/
import LocStack.Base.Compact
import LocStack.ClientBase.Model
import LocStack.Geofence.Model

namespace LocStack.ClientBase

open Base List Function
open Geofence (GeofenceInfo)
open Tracking (LocationError)

/-! ## The client -/

/-- `GEOFENCE_BREACH_ENTER_BIT` and the other bits. -/
abbrev GeofenceBreachTypeMask := UInt16

structure GeofenceOption where
  size : UInt32
  breachTypeMask : GeofenceBreachTypeMask
  (responsiveness dwellTime : UInt32)
  deriving DecidableEq

/-- What is asked of LocationAPI.  The arrays of a call are as long as the
list of sessions, or longer. -/
inductive GeofencesCall where
  | addGeofences (options : List GeofenceOption) (data : List GeofenceInfo)
  | removeGeofences (sessions : List UInt32)
  | modifyGeofences (sessions : List UInt32) (options : List GeofenceOption)
  | pauseGeofences (sessions : List UInt32)
  | resumeGeofences (sessions : List UInt32)

inductive GeofencesRequest where
  | add
  | remove (removedGeofenceBiDict : BiDict GeofenceBreachTypeMask)
  | modify | pause | resume

def GEOFENCE_SESSION_ID : UInt32 := 0xFFFFFFFF

/-- Of the client, what geofences are about. -/
structure GeofenceClient where
  /-- whether it is set -/
  mLocationAPI : Bool
  /-- `mRequestQueues[REQUEST_GEOFENCE]` -/
  requestGeofence : RequestQueue GeofencesRequest
  mGeofenceBiDict : BiDict GeofenceBreachTypeMask
  /-- The session ids that LocationAPI has returned. -/
  ids : List UInt32

namespace GeofenceClient

def new : GeofenceClient where
  mLocationAPI := false
  requestGeofence := .new
  mGeofenceBiDict := .new
  ids := []

variable (c : GeofenceClient)

/-- The loop of locAPIAddGeofences. -/
def setAll (d : BiDict GeofenceBreachTypeMask) :
    List ((UInt32 × GeofenceOption) × UInt32) → BiDict GeofenceBreachTypeMask
  | [] => d
  | ((id, option), session) :: items => setAll (d.set id session option.breachTypeMask) items

/-- `sessions` is what LocationAPI returns, which may be null. -/
def locAPIAddGeofences (items : List (UInt32 × GeofenceOption × GeofenceInfo))
    (sessions : Option (List UInt32)) : LocationError × GeofenceClient × List GeofencesCall :=
  if c.mLocationAPI then
    let requestGeofence :=
      if c.requestGeofence.mSession ≠ GEOFENCE_SESSION_ID then
        c.requestGeofence.reset GEOFENCE_SESSION_ID
      else c.requestGeofence
    let call := .addGeofences (items.map (·.2.1)) (items.map (·.2.2))
    match sessions with
    | none => (.generalFailure, { c with requestGeofence }, [call])
    | some sessions =>
      (.success, { c with
          requestGeofence := requestGeofence.push .add
          mGeofenceBiDict := setAll c.mGeofenceBiDict
            ((items.map fun x => (x.1, x.2.1)).zip sessions)
          ids := sessions ++ c.ids }, [call])
  else (.generalFailure, c, [])

/-- What the loop of locAPIRemoveGeofences has come to. -/
structure Removing where
  (mGeofenceBiDict removedGeofenceBiDict : BiDict GeofenceBreachTypeMask)
  sessions : List UInt32

def Removing.next (r : Removing) (id : UInt32) : Removing :=
  let session := r.mGeofenceBiDict.getSession id
  if session > 0 then
    let type := r.mGeofenceBiDict.getExtBySession session 0
    { mGeofenceBiDict := r.mGeofenceBiDict.rmBySession session
      removedGeofenceBiDict := r.removedGeofenceBiDict.set id session type
      sessions := r.sessions ++ [session] }
  else r

def locAPIRemoveGeofences (ids : List UInt32) : GeofenceClient × List GeofencesCall :=
  if c.mLocationAPI ∧ c.requestGeofence.mSession = GEOFENCE_SESSION_ID then
    let r := ids.foldl Removing.next ⟨c.mGeofenceBiDict, .new, []⟩
    if r.sessions.length > 0 then
      ({ c with
        mGeofenceBiDict := r.mGeofenceBiDict
        requestGeofence := c.requestGeofence.push (.remove r.removedGeofenceBiDict) },
        [.removeGeofences r.sessions])
    else ({ c with mGeofenceBiDict := r.mGeofenceBiDict }, [])
  else (c, [])

/-- The loop of the others: the sessions that are known, and the masks that
are set for these. -/
def collect (d : BiDict GeofenceBreachTypeMask) : List (UInt32 × Option GeofenceBreachTypeMask) →
      BiDict GeofenceBreachTypeMask × List UInt32
  | [] => (d, [])
  | (id, mask) :: items =>
    let session := d.getSession id
    if session > 0 then
      let d := match mask with
        | some mask => d.set id session mask
        | none => d
      ((collect d items).1, session :: (collect d items).2)
    else collect d items

def locAPIModifyGeofences (items : List (UInt32 × GeofenceOption)) :
    GeofenceClient × List GeofencesCall :=
  if c.mLocationAPI ∧ c.requestGeofence.mSession = GEOFENCE_SESSION_ID then
    let r := collect c.mGeofenceBiDict (items.map fun x => (x.1, some x.2.breachTypeMask))
    let c := { c with mGeofenceBiDict := r.1 }
    if r.2.length > 0 then
      ({ c with requestGeofence := c.requestGeofence.push .modify },
        [.modifyGeofences r.2 (items.map Prod.snd)])
    else (c, [])
  else (c, [])

def locAPIPauseGeofences (ids : List UInt32) : GeofenceClient × List GeofencesCall :=
  if c.mLocationAPI ∧ c.requestGeofence.mSession = GEOFENCE_SESSION_ID then
    let r := collect c.mGeofenceBiDict (ids.map fun id => (id, none))
    if r.2.length > 0 then
      ({ c with requestGeofence := c.requestGeofence.push .pause }, [.pauseGeofences r.2])
    else (c, [])
  else (c, [])

/-- Without an array of masks, each has none. -/
def locAPIResumeGeofences (items : List (UInt32 × Option GeofenceBreachTypeMask)) :
    GeofenceClient × List GeofencesCall :=
  if c.mLocationAPI ∧ c.requestGeofence.mSession = GEOFENCE_SESSION_ID then
    let r := collect c.mGeofenceBiDict items
    let c := { c with mGeofenceBiDict := r.1 }
    if r.2.length > 0 then
      ({ c with requestGeofence := c.requestGeofence.push .resume }, [.resumeGeofences r.2])
    else (c, [])
  else (c, [])

/-- It goes by sessions, and hands them on as ids. -/
def locAPIRemoveAllGeofences : GeofenceClient × List GeofencesCall :=
  let sessionsVec := c.mGeofenceBiDict.getAllSessions
  if sessionsVec.length > 0 then c.locAPIRemoveGeofences sessionsVec else (c, [])

/-! ## Runs -/

/-- Session ids that LocationAPI may return for `count` geofences. -/
def Returns (count : Nat) (sessions : List UInt32) : Prop :=
  sessions.length = count ∧ sessions.Nodup ∧ ∀ session ∈ sessions, session ≠ 0 ∧ session ∉ c.ids

instance (count : Nat) (sessions : List UInt32) : Decidable (c.Returns count sessions) :=
  -- not by a search through all sessions
  @instDecidableAnd _ _ _ (@instDecidableAnd _ _ _ (List.decidableBAll _ _))

end GeofenceClient

inductive GeofencesEvent where
  | setCallbacks
  /-- with what LocationAPI returns -/
  | addGeofences (items : List (UInt32 × GeofenceOption × GeofenceInfo))
      (sessions : Option (List UInt32))
  | removeGeofences (ids : List UInt32)
  | modifyGeofences (items : List (UInt32 × GeofenceOption))
  | pauseGeofences (ids : List UInt32)
  /-- without an array of masks -/
  | resumeGeofences (ids : List UInt32)
  | resumeGeofencesMask (items : List (UInt32 × GeofenceBreachTypeMask))
  | removeAllGeofences

namespace GeofenceClient

variable (c : GeofenceClient)

def step : GeofencesEvent → GeofenceClient × List GeofencesCall
  | .setCallbacks => ({ c with mLocationAPI := true }, [])
  | .addGeofences items sessions =>
    if ∀ l ∈ sessions, c.Returns items.length l then (c.locAPIAddGeofences items sessions).2
    else (c, [])
  | .removeGeofences ids => c.locAPIRemoveGeofences ids
  | .modifyGeofences items => c.locAPIModifyGeofences items
  | .pauseGeofences ids => c.locAPIPauseGeofences ids
  | .resumeGeofences ids => c.locAPIResumeGeofences (ids.map fun id => (id, none))
  | .resumeGeofencesMask items =>
    c.locAPIResumeGeofences (items.map fun x => (x.1, some x.2))
  | .removeAllGeofences => c.locAPIRemoveAllGeofences

/-- The options that a call has LocationAPI apply, session by session. -/
def modified : GeofencesCall → List (UInt32 × GeofenceOption)
  | .modifyGeofences sessions options => sessions.zip options
  | _ => []

def removed : GeofencesCall → List UInt32
  | .removeGeofences sessions => sessions
  | _ => []

/-- Every session has the mask that was given for its id last, or the one
it had. -/
def Masked (d d' : BiDict GeofenceBreachTypeMask)
    (items : List (UInt32 × GeofenceBreachTypeMask)) : Prop :=
  ∀ session, d'.ext session =
    match items.reverse.find? fun x => d.forward x.1 = some session with
    | some x => some x.2
    | none => d.ext session

/-- What is asked of a step. -/
def Right (e : GeofencesEvent) : Prop :=
  (c.step e).1.mGeofenceBiDict.MutuallyInverse ∧
    match e with
    | .modifyGeofences items =>
      (c.step e).2.flatMap modified =
          items.filterMap (fun x => (c.mGeofenceBiDict.forward x.1).map (·, x.2)) ∧
        Masked c.mGeofenceBiDict (c.step e).1.mGeofenceBiDict
          (items.map fun x => (x.1, x.2.breachTypeMask))
    | .resumeGeofences _ => Masked c.mGeofenceBiDict (c.step e).1.mGeofenceBiDict []
    | .resumeGeofencesMask items =>
      Masked c.mGeofenceBiDict (c.step e).1.mGeofenceBiDict items
    | .removeAllGeofences =>
      ∀ session, session ∈ (c.step e).2.flatMap removed ↔
        ∃ id, c.mGeofenceBiDict.backward session = some id
    | _ => True

/-- Ids are added that are not there, each once.  In a modify, the options
of each known id stand where it comes to stand when the unknown are left
out.  When all are removed, each id that is registered is also the session
of a geofence. -/
def Fits : GeofencesEvent → Prop
  | .addGeofences items sessions =>
    c.mLocationAPI = true → (∃ l ∈ sessions, c.Returns items.length l) →
      (items.map Prod.fst).Nodup ∧ ∀ x ∈ items, c.mGeofenceBiDict.forward x.1 = none
  | .modifyGeofences items =>
    ∀ i x, items[i]? = some x → (c.mGeofenceBiDict.forward x.1).isSome →
      (items.map Prod.snd)[(items.take i).countP fun y =>
        (c.mGeofenceBiDict.forward y.1).isSome]? = some x.2
  | .removeAllGeofences =>
    ∀ id, (c.mGeofenceBiDict.forward id).isSome → (c.mGeofenceBiDict.backward id).isSome
  | _ => True

end GeofenceClient

/-! ## The loops -/

namespace GeofenceClient

variable {d : BiDict GeofenceBreachTypeMask}

section Add

variable {items : List ((UInt32 × GeofenceOption) × UInt32)}

theorem not_inverse_setAll (t id : UInt32) (ht : t ∉ items.map Prod.snd)
    (hback : d.backward t = some id) (hforward : d.forward id ≠ some t) :
    ¬ (setAll d items).MutuallyInverse := by
  induction items generalizing d with
  | nil =>
    intro h
    exact hforward (h.forward_of_backward hback)
  | cons x items ih =>
    obtain ⟨⟨id', option⟩, session⟩ := x
    rw [map_cons, mem_cons, not_or] at ht
    refine ih ht.2 ?_ ?_
    · rw [BiDict.backward_set, update_of_ne ht.1]
      exact hback
    · rw [BiDict.forward_set]
      rcases eq_or_ne id id' with rfl | hne
      · rw [update_self]
        exact fun heq => ht.1 (Option.some.inj heq).symm
      · rw [update_of_ne hne]
        exact hforward

/-- Ids are set to sessions that are nobody's: this keeps the maps inverse
exactly if the ids are nobody's, and each another. -/
theorem setAll_inverse_iff (h : d.MutuallyInverse)
    (items : List ((UInt32 × GeofenceOption) × UInt32)) (hnodup : (items.map Prod.snd).Nodup)
    (hfree : ∀ session ∈ items.map Prod.snd, d.backward session = none) :
    (setAll d items).MutuallyInverse ↔
      (items.map fun x => x.1.1).Nodup ∧ ∀ x ∈ items, d.forward x.1.1 = none := by
  induction items generalizing d with
  | nil => exact iff_of_true h ⟨nodup_nil, forall_mem_nil _⟩
  | cons x items ih =>
    obtain ⟨⟨id, option⟩, session⟩ := x
    rw [map_cons, nodup_cons] at hnodup
    rw [map_cons, forall_mem_cons] at hfree
    rw [map_cons, nodup_cons, forall_mem_cons]
    show (setAll (d.set id session option.breachTypeMask) items).MutuallyInverse ↔ _
    cases hid : d.forward id with
    | none =>
      have hset : (d.set id session option.breachTypeMask).MutuallyInverse :=
        h.set_new hid hfree.1 _
      have hfree' : ∀ session' ∈ items.map Prod.snd,
          (d.set id session option.breachTypeMask).backward session' = none := by
        intro session' hmem
        have hne : session' ≠ session := by
          rintro rfl
          exact hnodup.1 hmem
        rw [BiDict.backward_set, update_of_ne hne]
        exact hfree.2 session' hmem
      rw [ih hset hnodup.2 hfree', BiDict.forward_set]
      constructor
      · rintro ⟨hids, hnone⟩
        refine ⟨⟨?_, hids⟩, rfl, fun x hx => ?_⟩
        · intro hmem
          obtain ⟨x, hx, rfl⟩ := mem_map.mp hmem
          have hself := hnone x hx
          rw [update_self] at hself
          cases hself
        · have hx' := hnone x hx
          rcases eq_or_ne x.1.1 id with heq | hne
          · rw [heq, update_self] at hx'
            cases hx'
          · rw [update_of_ne hne] at hx'
            exact hx'
      · rintro ⟨⟨hmem, hids⟩, -, hnone⟩
        refine ⟨hids, fun x hx => ?_⟩
        have hne : x.1.1 ≠ id := by
          intro heq
          exact hmem (mem_map.mpr ⟨x, hx, heq⟩)
        rw [update_of_ne hne]
        exact hnone x hx
    | some old =>
      -- the id has a session, which keeps it and is not its own any more
      have hback := h.backward_of_forward hid
      have hne : old ≠ session := by
        rintro rfl
        rw [hfree.1] at hback
        cases hback
      have hnew : old ∉ items.map Prod.snd := by
        intro hmem
        rw [hfree.2 old hmem] at hback
        cases hback
      refine iff_of_false (not_inverse_setAll old id hnew ?_ ?_) ?_
      · rw [BiDict.backward_set, update_of_ne hne]
        exact hback
      · rw [BiDict.forward_set, update_self]
        exact fun heq => hne (Option.some.inj heq).symm
      · rintro ⟨-, hnone, -⟩
        cases hnone

theorem forward_setAll {id session : UInt32} (h : (setAll d items).forward id = some session) :
    session ∈ items.map Prod.snd ∨ d.forward id = some session := by
  induction items generalizing d with
  | nil => exact .inr h
  | cons x items ih =>
    obtain ⟨⟨id', option⟩, session'⟩ := x
    rcases ih h with hmem | hforward
    · exact .inl (mem_cons_of_mem _ hmem)
    · rw [BiDict.forward_set] at hforward
      rcases eq_or_ne id id' with rfl | hne
      · rw [update_self] at hforward
        cases hforward
        exact .inl (mem_cons_self ..)
      · rw [update_of_ne hne] at hforward
        exact .inr hforward

end Add

theorem getSession_cases (hpos : ∀ id session, d.forward id = some session → session ≠ 0)
    (id : UInt32) :
    d.forward id = none ∧ ¬ d.getSession id > 0 ∨
      ∃ session, d.forward id = some session ∧ d.getSession id = session ∧
        d.getSession id > 0 := by
  cases hid : d.forward id with
  | none =>
    refine .inl ⟨rfl, ?_⟩
    rw [BiDict.getSession_eq, hid]
    decide
  | some session =>
    refine .inr ⟨session, rfl, BiDict.getSession_of hid, ?_⟩
    rw [BiDict.getSession_of hid]
    exact UInt32.pos_iff_ne_zero.mpr (hpos id session hid)

section Remove

variable {r : Removing}

theorem removing_next (h : r.mGeofenceBiDict.MutuallyInverse)
    (hpos : ∀ id session, r.mGeofenceBiDict.forward id = some session → session ≠ 0) (id : UInt32) :
    (r.next id).mGeofenceBiDict.MutuallyInverse ∧ (r.next id).mGeofenceBiDict.forward =
          update r.mGeofenceBiDict.forward id none ∧
        (r.next id).sessions = r.sessions ++ (r.mGeofenceBiDict.forward id).toList := by
  unfold Removing.next
  rcases getSession_cases hpos id with ⟨hnone, hzero⟩ | ⟨session, hid, hget, hgt⟩
  · rw [if_neg hzero, hnone]
    refine ⟨h, ?_, (append_nil _).symm⟩
    rw [← hnone, update_eq_self]
  · have hback := h.backward_of_forward hid
    rw [if_pos hgt, hid]
    dsimp only
    rw [hget]
    exact ⟨h.rmBySession hback, BiDict.forward_rmBySession hback, rfl⟩

theorem foldl_removing (h : r.mGeofenceBiDict.MutuallyInverse)
    (hpos : ∀ id session, r.mGeofenceBiDict.forward id = some session → session ≠ 0)
    (ids : List UInt32) :
    (ids.foldl Removing.next r).mGeofenceBiDict.MutuallyInverse ∧
      (∀ id session, (ids.foldl Removing.next r).mGeofenceBiDict.forward id = some session →
          r.mGeofenceBiDict.forward id = some session) ∧
        ∀ session, session ∈ (ids.foldl Removing.next r).sessions ↔
          session ∈ r.sessions ∨ ∃ id ∈ ids, r.mGeofenceBiDict.forward id = some session := by
  induction ids generalizing r with
  | nil =>
    refine ⟨h, fun _ _ hid => hid, fun session => ⟨.inl, ?_⟩⟩
    rintro (hmem | ⟨id, hid, -⟩)
    · exact hmem
    · cases hid
  | cons id ids ih =>
    obtain ⟨hnext, hforward, hsessions⟩ := removing_next h hpos id
    have hsub : ∀ id' session, (r.next id).mGeofenceBiDict.forward id' = some session →
        r.mGeofenceBiDict.forward id' = some session := by
      intro id' session hid'
      rw [hforward] at hid'
      rcases eq_or_ne id' id with rfl | hne
      · rw [update_self] at hid'
        cases hid'
      · rw [update_of_ne hne] at hid'
        exact hid'
    obtain ⟨hinverse, hleft, hmem⟩ := ih hnext fun id' session hid' =>
      hpos id' session (hsub id' session hid')
    refine ⟨hinverse, fun id' session hid' => hsub id' session (hleft id' session hid'), ?_⟩
    intro session
    rw [foldl_cons, hmem, hsessions, mem_append, Option.mem_toList, or_assoc]
    refine or_congr_right ?_
    constructor
    · rintro (hid | ⟨id', hid', hfound⟩)
      · exact ⟨id, mem_cons_self .., hid⟩
      · exact ⟨id', mem_cons_of_mem _ hid', hsub id' session hfound⟩
    · rintro ⟨id', hid', hfound⟩
      rcases eq_or_ne id' id with rfl | hne
      · exact .inl hfound
      · refine .inr ⟨id', (mem_cons.mp hid').resolve_left hne, ?_⟩
        rw [hforward, update_of_ne hne]
        exact hfound

end Remove

section Collect

theorem set_same (h : d.MutuallyInverse) {id session : UInt32}
    (hid : d.forward id = some session) (mask : GeofenceBreachTypeMask) :
    (d.set id session mask).forward = d.forward ∧
      (d.set id session mask).backward = d.backward := by
  rw [BiDict.forward_set, BiDict.backward_set]
  constructor
  · rw [← hid, update_eq_self]
  · rw [← h.backward_of_forward hid, update_eq_self]

theorem collect_maps (h : d.MutuallyInverse)
    (hpos : ∀ id session, d.forward id = some session → session ≠ 0)
    (items : List (UInt32 × Option GeofenceBreachTypeMask)) :
    (collect d items).1.forward = d.forward ∧ (collect d items).1.backward = d.backward ∧
      (collect d items).2 = items.filterMap fun x => d.forward x.1 := by
  induction items generalizing d with
  | nil => exact ⟨rfl, rfl, rfl⟩
  | cons x items ih =>
    obtain ⟨id, mask⟩ := x
    unfold collect
    dsimp only
    rcases getSession_cases hpos id with ⟨hnone, hzero⟩ | ⟨session, hid, hget, hgt⟩
    · rw [if_neg hzero, filterMap_cons, hnone]
      exact ih h hpos
    · rw [if_pos hgt, filterMap_cons, hid, hget]
      cases mask with
      | none =>
        obtain ⟨hforward, hback, hsessions⟩ := ih h hpos
        exact ⟨hforward, hback, congrArg _ hsessions⟩
      | some mask =>
        obtain ⟨hf, hb⟩ := set_same h hid mask
        have hset : (d.set id session mask).MutuallyInverse := by
          unfold BiDict.MutuallyInverse
          rw [hf, hb]
          exact h
        obtain ⟨hforward, hback, hsessions⟩ := ih hset (by rw [hf]; exact hpos)
        refine ⟨hforward.trans hf, hback.trans hb, ?_⟩
        rw [hf] at hsessions
        exact congrArg _ hsessions

theorem collect_of_unknown (h : ∀ id, d.forward id = none)
    (items : List (UInt32 × Option GeofenceBreachTypeMask)) : collect d items = (d, []) := by
  induction items with
  | nil => rfl
  | cons x items ih =>
    obtain ⟨id, mask⟩ := x
    unfold collect
    dsimp only
    rw [if_neg, ih]
    rw [BiDict.getSession_eq, h id]
    decide

theorem collect_none (ids : List UInt32) : (collect d (ids.map fun id => (id, none))).1 = d := by
  induction ids with
  | nil => rfl
  | cons id ids ih =>
    show (if d.getSession id > 0 then _ else _ : BiDict GeofenceBreachTypeMask × List UInt32).1 = d
    split <;> exact ih

theorem masked_collect (h : d.MutuallyInverse)
    (hpos : ∀ id session, d.forward id = some session → session ≠ 0)
    (items : List (UInt32 × GeofenceBreachTypeMask)) :
    Masked d (collect d (items.map fun x => (x.1, some x.2))).1 items := by
  induction items generalizing d with
  | nil => exact fun session => rfl
  | cons x items ih =>
    obtain ⟨id, mask⟩ := x
    intro session
    rw [reverse_cons, List.find?_append, map_cons]
    unfold collect
    dsimp only
    rcases getSession_cases hpos id with ⟨hnone, hzero⟩ | ⟨session', hid, hget, hgt⟩
    · have hlast : [(id, mask)].find? (fun x => d.forward x.1 = some session) = none := by
        rw [List.find?_singleton, hnone]
        rfl
      rw [if_neg hzero, hlast, Option.or_none]
      exact ih h hpos session
    · obtain ⟨hf, hb⟩ := set_same h hid mask
      have hset : (d.set id session' mask).MutuallyInverse := by
        unfold BiDict.MutuallyInverse
        rw [hf, hb]
        exact h
      have hrest := ih hset (by rw [hf]; exact hpos) session
      rw [hf, BiDict.ext_set] at hrest
      rw [if_pos hgt, hget]
      refine hrest.trans ?_
      cases hfind : items.reverse.find? fun x => d.forward x.1 = some session with
      | some y => rfl
      | none =>
        rw [List.find?_singleton, hid]
        rcases eq_or_ne session session' with rfl | hne
        · simp
        · have hne' : some session' ≠ some session := fun heq =>
            hne (Option.some.inj heq).symm
          rw [update_of_ne hne]
          simp [hne']

end Collect

/-! ## What is always known -/

/-- While the maps are mutually inverse. -/
structure Kept (c : GeofenceClient) : Prop where
  inverse : c.mGeofenceBiDict.MutuallyInverse
  known : ∀ id session, c.mGeofenceBiDict.forward id = some session → session ≠ 0 ∧ session ∈ c.ids
  /-- There are geofences only after one was added. -/
  added : ∀ id session, c.mGeofenceBiDict.forward id = some session →
    c.mLocationAPI ∧ c.requestGeofence.mSession = GEOFENCE_SESSION_ID

variable {c c' : GeofenceClient}

theorem kept_new : new.Kept where
  inverse := .new
  known id session hid := by
    have hnone : new.mGeofenceBiDict.forward id = none := congrFun BiDict.forward_new id
    rw [hnone] at hid
    cases hid
  added id session hid := by
    have hnone : new.mGeofenceBiDict.forward id = none := congrFun BiDict.forward_new id
    rw [hnone] at hid
    cases hid

theorem Kept.of_sub (h : c.Kept) (hinverse : c'.mGeofenceBiDict.MutuallyInverse)
    (hsub : ∀ id session, c'.mGeofenceBiDict.forward id = some session →
      c.mGeofenceBiDict.forward id = some session) (hids : c'.ids = c.ids)
    (hapi : c'.mLocationAPI = c.mLocationAPI)
    (hsession : c'.requestGeofence.mSession = c.requestGeofence.mSession) : c'.Kept where
  inverse := hinverse
  known id session hid := by
    rw [hids]
    exact h.known id session (hsub id session hid)
  added id session hid := by
    rw [hapi, hsession]
    exact h.added id session (hsub id session hid)

theorem Kept.pos (h : c.Kept) (id session : UInt32)
    (hid : c.mGeofenceBiDict.forward id = some session) : session ≠ 0 :=
  (h.known id session hid).1

theorem Kept.forward_of_idle (h : c.Kept)
    (hidle : ¬ (c.mLocationAPI ∧ c.requestGeofence.mSession = GEOFENCE_SESSION_ID))
    (id : UInt32) : c.mGeofenceBiDict.forward id = none :=
  Option.eq_none_iff_forall_ne_some.mpr fun session hid => hidle (h.added id session hid)

/-! ## The calls -/

section

variable (h : c.Kept)
include h

theorem addGeofences_set {items : List (UInt32 × GeofenceOption × GeofenceInfo)}
    {sessions : List UInt32} (hapi : c.mLocationAPI = true)
    (hreturns : c.Returns items.length sessions) :
    ((c.locAPIAddGeofences items (some sessions)).2.1.mGeofenceBiDict.MutuallyInverse ↔
        (items.map Prod.fst).Nodup ∧ ∀ x ∈ items, c.mGeofenceBiDict.forward x.1 = none) ∧
      ((c.locAPIAddGeofences items (some sessions)).2.1.mGeofenceBiDict.MutuallyInverse →
        (c.locAPIAddGeofences items (some sessions)).2.1.Kept) := by
  obtain ⟨hlength, hnodup, hnew⟩ := hreturns
  have heq : (c.locAPIAddGeofences items (some sessions)).2.1 = { c with
        requestGeofence := (if c.requestGeofence.mSession ≠ GEOFENCE_SESSION_ID then
          c.requestGeofence.reset GEOFENCE_SESSION_ID else c.requestGeofence).push .add
        mGeofenceBiDict := setAll c.mGeofenceBiDict ((items.map fun x => (x.1, x.2.1)).zip sessions)
        ids := sessions ++ c.ids } := by
    unfold locAPIAddGeofences
    rw [if_pos hapi]
  have hsnd : ((items.map fun x => (x.1, x.2.1)).zip sessions).map Prod.snd = sessions := by
    refine map_snd_zip ?_
    rw [length_map, hlength]
  have hfst : ((items.map fun x => (x.1, x.2.1)).zip sessions).map Prod.fst =
      items.map fun x => (x.1, x.2.1) := by
    refine map_fst_zip ?_
    rw [length_map, hlength]
  have hids : ((items.map fun x => (x.1, x.2.1)).zip sessions).map (fun x => x.1.1) =
      items.map Prod.fst := by
    have hcomp := congrArg (List.map Prod.fst) hfst
    rw [map_map, map_map] at hcomp
    exact hcomp
  have hfree : ∀ session ∈ ((items.map fun x => (x.1, x.2.1)).zip sessions).map Prod.snd,
      c.mGeofenceBiDict.backward session = none := by
    rw [hsnd]
    refine fun session hmem => Option.eq_none_iff_forall_ne_some.mpr fun id hback => ?_
    exact (hnew session hmem).2 (h.known id session (h.inverse.forward_of_backward hback)).2
  rw [heq]
  constructor
  · refine (setAll_inverse_iff h.inverse _ (by rw [hsnd]; exact hnodup) hfree).trans ?_
    rw [hids]
    refine and_congr_right fun _ => ?_
    have hmem : ∀ P : UInt32 → Prop, (∀ x ∈ (items.map fun x => (x.1, x.2.1)).zip sessions,
        P x.1.1) ↔ ∀ x ∈ items, P x.1 := by
      intro P
      have hleft := forall_mem_map
        (f := fun x : (UInt32 × GeofenceOption) × UInt32 => x.1.1) (P := P)
        (l := (items.map fun x => (x.1, x.2.1)).zip sessions)
      rw [hids, forall_mem_map] at hleft
      exact hleft.symm
    exact hmem fun id => c.mGeofenceBiDict.forward id = none
  · intro hinverse
    refine ⟨hinverse, fun id session hid => ?_, fun id session _ => ⟨hapi, ?_⟩⟩
    · rcases forward_setAll hid with hmem | hold
      · rw [hsnd] at hmem
        exact ⟨(hnew session hmem).1, mem_append_left _ hmem⟩
      · obtain ⟨hpos, hknown⟩ := h.known id session hold
        exact ⟨hpos, mem_append_right _ hknown⟩
    · show (if c.requestGeofence.mSession ≠ GEOFENCE_SESSION_ID then
        c.requestGeofence.reset GEOFENCE_SESSION_ID else c.requestGeofence).mSession = _
      split
      · rfl
      · rename_i hsession
        exact not_not.mp hsession

theorem addGeofences_step (items : List (UInt32 × GeofenceOption × GeofenceInfo))
    (sessions : Option (List UInt32)) :
    (c.Fits (.addGeofences items sessions) → (c.step (.addGeofences items sessions)).1.Kept) ∧
      (c.Right (.addGeofences items sessions) ↔ c.Fits (.addGeofences items sessions)) := by
  have hright : c.Right (.addGeofences items sessions) ↔
      (c.step (.addGeofences items sessions)).1.mGeofenceBiDict.MutuallyInverse :=
    and_iff_left trivial
  rw [hright]
  by_cases hreturns : ∀ l ∈ sessions, c.Returns items.length l
  · have hstep : c.step (.addGeofences items sessions) =
        (c.locAPIAddGeofences items sessions).2 := if_pos hreturns
    rw [hstep]
    by_cases hapi : c.mLocationAPI = true
    · cases sessions with
      | none =>
        -- LocationAPI has none to return
        have heq : (c.locAPIAddGeofences items none).2.1 = { c with
              requestGeofence := if c.requestGeofence.mSession ≠ GEOFENCE_SESSION_ID then
                c.requestGeofence.reset GEOFENCE_SESSION_ID else c.requestGeofence } := by
          unfold locAPIAddGeofences
          rw [if_pos hapi]
        rw [heq]
        refine ⟨fun _ => ⟨h.inverse, h.known, fun id session hid => ⟨hapi, ?_⟩⟩,
          iff_of_true h.inverse ?_⟩
        · have hsession := (h.added id session hid).2
          show (if c.requestGeofence.mSession ≠ GEOFENCE_SESSION_ID then _ else _ :
            RequestQueue GeofencesRequest).mSession = _
          rw [if_neg (not_not_intro hsession)]
          exact hsession
        · rintro - ⟨l, hl, -⟩
          cases hl
      | some sessions =>
        obtain ⟨hinverse, hkept⟩ := addGeofences_set h hapi (hreturns sessions rfl)
        have hfits : c.Fits (.addGeofences items (some sessions)) ↔
            (items.map Prod.fst).Nodup ∧ ∀ x ∈ items, c.mGeofenceBiDict.forward x.1 = none := by
          constructor
          · intro hfits
            exact hfits hapi ⟨sessions, rfl, hreturns sessions rfl⟩
          · exact fun hcond _ _ => hcond
        rw [hfits]
        exact ⟨fun hcond => hkept (hinverse.mpr hcond), hinverse⟩
    · have heq : (c.locAPIAddGeofences items sessions).2.1 = c := by
        unfold locAPIAddGeofences
        rw [if_neg hapi]
      rw [heq]
      exact ⟨fun _ => h, iff_of_true h.inverse fun hapi' => absurd hapi' hapi⟩
  · have hstep : c.step (.addGeofences items sessions) = (c, []) := if_neg hreturns
    rw [hstep]
    refine ⟨fun _ => h, iff_of_true h.inverse ?_⟩
    rintro - ⟨l, hl, hl'⟩
    refine absurd (fun l' hl'' => ?_) hreturns
    rw [Option.mem_def.mp hl] at hl''
    cases hl''
    exact hl'

theorem removeGeofences_kept (ids : List UInt32) : (c.locAPIRemoveGeofences ids).1.Kept := by
  obtain ⟨hinverse, hsub, -⟩ := foldl_removing (r := ⟨c.mGeofenceBiDict, .new, []⟩) h.inverse
    h.pos ids
  unfold locAPIRemoveGeofences
  split
  · dsimp only
    split
    · exact h.of_sub hinverse hsub rfl rfl rfl
    · exact h.of_sub hinverse hsub rfl rfl rfl
  · exact h

theorem mem_removeGeofences (ids : List UInt32) (session : UInt32) :
    session ∈ (c.locAPIRemoveGeofences ids).2.flatMap removed ↔
      ∃ id ∈ ids, c.mGeofenceBiDict.forward id = some session := by
  obtain ⟨-, -, hmem⟩ := foldl_removing (r := ⟨c.mGeofenceBiDict, .new, []⟩) h.inverse h.pos ids
  have hmem' : session ∈ (ids.foldl Removing.next ⟨c.mGeofenceBiDict, .new, []⟩).sessions ↔
      ∃ id ∈ ids, c.mGeofenceBiDict.forward id = some session := by
    rw [hmem]
    exact or_iff_right not_mem_nil
  rw [← hmem']
  unfold locAPIRemoveGeofences
  split
  · dsimp only
    split
    · show session ∈ [_].flatMap removed ↔ _
      rw [flatMap_singleton]
      exact Iff.rfl
    · rename_i hlength
      refine iff_of_false not_mem_nil fun hsession => hlength ?_
      exact length_pos_of_mem hsession
  · rename_i hidle
    refine iff_of_false not_mem_nil fun hsession => ?_
    obtain ⟨id, -, hid⟩ := hmem'.mp hsession
    exact hidle (h.added id session hid)

theorem pauseGeofences_kept (ids : List UInt32) : (c.locAPIPauseGeofences ids).1.Kept := by
  unfold locAPIPauseGeofences
  split
  · dsimp only
    split
    · exact h.of_sub h.inverse (fun _ _ hid => hid) rfl rfl rfl
    · exact h
  · exact h

theorem resumeGeofences_dict (items : List (UInt32 × Option GeofenceBreachTypeMask)) :
    (c.locAPIResumeGeofences items).1.mGeofenceBiDict =
      (collect c.mGeofenceBiDict items).1 := by
  unfold locAPIResumeGeofences
  split
  · dsimp only
    split <;> rfl
  · rename_i hidle
    rw [collect_of_unknown (h.forward_of_idle hidle)]

theorem modifyGeofences_dict (items : List (UInt32 × GeofenceOption)) :
    (c.locAPIModifyGeofences items).1.mGeofenceBiDict =
      (collect c.mGeofenceBiDict (items.map fun x => (x.1, some x.2.breachTypeMask))).1 := by
  unfold locAPIModifyGeofences
  split
  · dsimp only
    split <;> rfl
  · rename_i hidle
    rw [collect_of_unknown (h.forward_of_idle hidle)]

theorem Kept.of_collect {items : List (UInt32 × Option GeofenceBreachTypeMask)}
    (hdict : c'.mGeofenceBiDict = (collect c.mGeofenceBiDict items).1) (hids : c'.ids = c.ids)
    (hapi : c'.mLocationAPI = c.mLocationAPI)
    (hsession : c'.requestGeofence.mSession = c.requestGeofence.mSession) : c'.Kept := by
  obtain ⟨hforward, hback, -⟩ := collect_maps h.inverse h.pos items
  refine h.of_sub ?_ (fun id session hid => ?_) hids hapi hsession
  · unfold BiDict.MutuallyInverse
    rw [hdict, hforward, hback]
    exact h.inverse
  · rw [hdict, hforward] at hid
    exact hid

theorem resumeGeofences_kept (items : List (UInt32 × Option GeofenceBreachTypeMask)) :
    (c.locAPIResumeGeofences items).1.Kept := by
  refine h.of_collect (resumeGeofences_dict h items) ?_ ?_ ?_ <;>
  · unfold locAPIResumeGeofences
    split
    · dsimp only
      split <;> rfl
    · rfl

theorem modifyGeofences_kept (items : List (UInt32 × GeofenceOption)) :
    (c.locAPIModifyGeofences items).1.Kept := by
  refine h.of_collect (modifyGeofences_dict h items) ?_ ?_ ?_ <;>
  · unfold locAPIModifyGeofences
    split
    · dsimp only
      split <;> rfl
    · rfl

theorem modified_modifyGeofences (items : List (UInt32 × GeofenceOption)) :
    (c.locAPIModifyGeofences items).2.flatMap modified =
      (items.filterMap fun x => c.mGeofenceBiDict.forward x.1).zip (items.map Prod.snd) := by
  obtain ⟨-, -, hsessions⟩ := collect_maps h.inverse h.pos
    (items.map fun x => (x.1, some x.2.breachTypeMask))
  rw [filterMap_map] at hsessions
  have hsessions' : (collect c.mGeofenceBiDict
      (items.map fun x => (x.1, some x.2.breachTypeMask))).2 =
        items.filterMap fun x => c.mGeofenceBiDict.forward x.1 := hsessions
  rw [← hsessions']
  unfold locAPIModifyGeofences
  split
  · dsimp only
    split
    · exact flatMap_singleton ..
    · rename_i hlength
      rw [length_eq_zero_iff.mp (Nat.eq_zero_of_not_pos hlength)]
      rfl
  · rename_i hidle
    rw [collect_of_unknown (h.forward_of_idle hidle)]
    rfl

theorem modifyGeofences_right (items : List (UInt32 × GeofenceOption)) :
    c.Right (.modifyGeofences items) ↔ c.Fits (.modifyGeofences items) := by
  have hmasked : Masked c.mGeofenceBiDict (c.locAPIModifyGeofences items).1.mGeofenceBiDict
      (items.map fun x => (x.1, x.2.breachTypeMask)) := by
    have hcollect := masked_collect h.inverse h.pos (items.map fun x => (x.1, x.2.breachTypeMask))
    rw [map_map] at hcollect
    rw [modifyGeofences_dict h items]
    exact hcollect
  have hzip := zip_filterMap_iff (f := fun x : UInt32 × GeofenceOption =>
    c.mGeofenceBiDict.forward x.1) (g := Prod.snd) items (items.map Prod.snd)
  rw [← modified_modifyGeofences h items] at hzip
  constructor
  · rintro ⟨-, happlied, -⟩
    exact hzip.mp happlied
  · intro hfits
    exact ⟨(modifyGeofences_kept h items).inverse, hzip.mpr hfits, hmasked⟩

theorem removeAllGeofences_kept : c.locAPIRemoveAllGeofences.1.Kept := by
  unfold locAPIRemoveAllGeofences
  dsimp only
  split
  · exact removeGeofences_kept h _
  · exact h

/-- All sessions are removed exactly if every id that is registered is gone
through, and that is every session. -/
theorem removeAllGeofences_right : c.Right .removeAllGeofences ↔ c.Fits .removeAllGeofences := by
  have hsome : ∀ id, (c.mGeofenceBiDict.backward id).isSome ↔
      id ∈ c.mGeofenceBiDict.getAllSessions := by
    intro id
    unfold BiDict.getAllSessions
    rw [Std.TreeMap.mem_keys, Std.TreeMap.mem_iff_isSome_getElem?]
    rfl
  have hmem : ∀ session, session ∈ c.locAPIRemoveAllGeofences.2.flatMap removed ↔
      ∃ id ∈ c.mGeofenceBiDict.getAllSessions, c.mGeofenceBiDict.forward id = some session := by
    intro session
    unfold locAPIRemoveAllGeofences
    dsimp only
    split
    · exact mem_removeGeofences h _ session
    · rename_i hlength
      rw [length_eq_zero_iff.mp (Nat.eq_zero_of_not_pos hlength)]
      refine iff_of_false not_mem_nil ?_
      rintro ⟨id, hid, -⟩
      cases hid
  constructor
  · rintro ⟨-, hall⟩ id hid
    obtain ⟨session, hforward⟩ := Option.isSome_iff_exists.mp hid
    have hback := h.inverse.backward_of_forward hforward
    obtain ⟨id', hid', hforward'⟩ := (hmem session).mp ((hall session).mpr ⟨id, hback⟩)
    have hback' := h.inverse.backward_of_forward hforward'
    rw [hback] at hback'
    cases hback'
    exact (hsome id).mpr hid'
  · intro hfits
    refine ⟨(removeAllGeofences_kept h).inverse, fun session => (hmem session).trans ?_⟩
    constructor
    · rintro ⟨id, -, hforward⟩
      exact ⟨id, h.inverse.backward_of_forward hforward⟩
    · rintro ⟨id, hback⟩
      have hforward := h.inverse.forward_of_backward hback
      exact ⟨id, (hsome id).mp (hfits id (Option.isSome_of_eq_some hforward)), hforward⟩

end

/-! ## Every run -/

theorem step_kept (h : c.Kept) (e : GeofencesEvent) :
    (c.Fits e → (c.step e).1.Kept) ∧ (c.Right e ↔ c.Fits e) := by
  cases e with
  | setCallbacks =>
    refine ⟨fun _ => ⟨h.inverse, h.known, fun id session hid => ⟨rfl, ?_⟩⟩,
      iff_of_true ⟨h.inverse, trivial⟩ trivial⟩
    exact (h.added id session hid).2
  | addGeofences items sessions => exact addGeofences_step h items sessions
  | removeGeofences ids =>
    have hkept := removeGeofences_kept h ids
    exact ⟨fun _ => hkept, iff_of_true ⟨hkept.inverse, trivial⟩ trivial⟩
  | modifyGeofences items =>
    exact ⟨fun _ => modifyGeofences_kept h items, modifyGeofences_right h items⟩
  | pauseGeofences ids =>
    have hkept := pauseGeofences_kept h ids
    exact ⟨fun _ => hkept, iff_of_true ⟨hkept.inverse, trivial⟩ trivial⟩
  | resumeGeofences ids =>
    have hkept := resumeGeofences_kept h (ids.map fun id => (id, none))
    refine ⟨fun _ => hkept, iff_of_true ⟨hkept.inverse, fun session => ?_⟩ trivial⟩
    show (c.locAPIResumeGeofences _).1.mGeofenceBiDict.ext session = _
    rw [resumeGeofences_dict h, collect_none]
    rfl
  | resumeGeofencesMask items =>
    have hkept := resumeGeofences_kept h (items.map fun x => (x.1, some x.2))
    refine ⟨fun _ => hkept, iff_of_true ⟨hkept.inverse, ?_⟩ trivial⟩
    show Masked c.mGeofenceBiDict (c.locAPIResumeGeofences _).1.mGeofenceBiDict items
    rw [resumeGeofences_dict h]
    exact masked_collect h.inverse h.pos items
  | removeAllGeofences =>
    exact ⟨fun _ => removeAllGeofences_kept h, removeAllGeofences_right h⟩

/-- The maps stay mutually inverse and every call is about what the caller
gave, all through a run, if and only if every step fits. -/
theorem geofences_right_iff (es : List GeofencesEvent) :
    StepsMeet step Right new es ↔ StepsMeet step Fits new es :=
  stepsMeet_congr Kept (fun _ e h => (step_kept h e).1) (fun _ e h => (step_kept h e).2) kept_new es

/-- Options with a breach mask. -/
def onBreach (breachTypeMask : GeofenceBreachTypeMask) : GeofenceOption where
  size := 16
  breachTypeMask := breachTypeMask
  responsiveness := 0
  dwellTime := 0

/-- An unknown id comes before the known one, whose session gets its
options. -/
theorem not_right_modifyUnknown : ¬ StepsMeet step Right new
      [.setCallbacks, .addGeofences [(1, onBreach 1, ⟨0, 0, 0⟩)] (some [7]),
        .modifyGeofences [(2, onBreach 2), (1, onBreach 3)]] := by
  rintro ⟨-, -, ⟨-, happlied, -⟩, -⟩
  exact absurd happlied (by decide)

end GeofenceClient

end LocStack.ClientBase
