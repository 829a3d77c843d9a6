/-
# `LocStack.ClientApi.Geofences` — the geofences that a client has added

An application hands vectors of geofences to the client.  `addGeofences` gives
an id to each that has none, stores it in mGeofenceMap under that id, and puts
a request into the queue with three arrays, the ids, the options and the
circles.  One loop fills them; a geofence that was added before is skipped,
and its place

    in the ids        is taken by the next one
    in the others     stays as malloc left it

A collective response is looked up in the map id by id, and takes ids out of
it: those with an error, whichever request it answers, and those of a removal.
A look-up that finds nothing throws.

`kept_of_fits`: no look-up fails, the map holds exactly the geofences whose
add has not failed and whose removal has not been reported, and an id is sent
with the options and the circle of its own geofence, in every run in which

* the geofences of a vector that were added before stand behind the others,
  and not among those that a request is sent for;
* an id that is given is not one that the map holds;
* a response is about geofences that the map holds, and has errors only if it
  answers an add;
* a breach that is reported is one of geofences that the map holds.
-/
import LocStack.ClientApi.Model
import LocStack.Daemon.Geofences

namespace LocStack.ClientApi

open Base List Function Option
open Daemon
open Geofence (GeofenceOption GeofenceInfo Double)
open Tracking (LocationError)

/-! ## Geofences -/

structure Geofence where
  /-- the id of its GeofenceImpl, once it is bound to one -/
  mGeofenceImpl : Option UInt32
  (mLatitude mLongitude mRadius : Double)
  (mBreachType mResponsiveness mDwellTime : UInt32)

namespace Geofence

variable (g : Geofence)

def option : GeofenceOption := ⟨g.mBreachType, g.mResponsiveness, g.mDwellTime⟩

def info : GeofenceInfo := ⟨g.mLatitude, g.mLongitude, g.mRadius⟩

def added : Bool := g.mGeofenceImpl.isSome

end Geofence

/-- `GeofenceImpl::nextId`, with the generator that it leaves. -/
def nextId (gfIdGenerator : UInt32) : UInt32 × UInt32 :=
  let id := gfIdGenerator + 1
  if id = 0xFFFFFFFF then (0, 0) else (id, id)

/-- The ids that the next calls give. -/
def nextIds : UInt32 → Nat → List UInt32
  | _, 0 => []
  | gfIdGenerator, n + 1 => (nextId gfIdGenerator).1 :: nextIds (nextId gfIdGenerator).2 n

def parseLocationError : LocationError → LocationResponse
  | .success => .LOCATION_RESPONSE_SUCCESS
  | .notSupported => .LOCATION_RESPONSE_NOT_SUPPORTED
  | .timeout => .LOCATION_RESPONSE_TIMEOUT
  | _ => .LOCATION_RESPONSE_UNKOWN_FAILURE

/-! ## Requests -/

def MAX_GEOFENCE_ENTRY : Nat := 20

/-- How many of a vector of this size a request is sent for. -/
def gfCountUsed (count : Nat) : Nat := min MAX_GEOFENCE_ENTRY (UInt32.ofNat count).toNat

/-- A request of the message task, with what it has been given.  What malloc
left in an array is `none`. -/
inductive GeofencesReq where
  | add (mGfCount : Nat) (mGfOptions : List (Option GeofenceOption))
      (mGfInfos : List (Option GeofenceInfo)) (mClientIds : List UInt32)
  | remove (mGfIds : List UInt32)
  | modify (mGfIds : List UInt32) (mGfOptions : List GeofenceOption)
  | pause (mGfIds : List UInt32)
  | resume (mGfIds : List UInt32)

/-- An entry of a request that is sent; what is read from an array that has
nothing stored there, or beyond the end of a vector, is `none`. -/
structure GeofencePayload where
  gfClientId : Option UInt32
  gfOption : Option GeofenceOption
  gfInfo : Option GeofenceInfo
  deriving DecidableEq

inductive GeofencesSent where
  | add (gfPayload : List GeofencePayload)
  | remove (gfIds : List UInt32)
  | modify (gfPayload : List (UInt32 × GeofenceOption))
  | pause (gfIds : List UInt32)
  | resume (gfIds : List UInt32)
  deriving DecidableEq

def addPayload (mGfCount : Nat) (mGfOptions : List (Option GeofenceOption))
    (mGfInfos : List (Option GeofenceInfo)) (mClientIds : List UInt32) : List GeofencePayload :=
  (List.range (gfCountUsed mGfCount)).map fun i =>
    ⟨mClientIds[i]?, mGfOptions[i]?.join, mGfInfos[i]?.join⟩

/-- What is sent for a request, of those whose count is not 0. -/
def GeofencesReq.sent : GeofencesReq → List GeofencesSent
  | .add mGfCount mGfOptions mGfInfos mClientIds =>
    if gfCountUsed mGfCount = 0 then []
    else [.add (addPayload mGfCount mGfOptions mGfInfos mClientIds)]
  | .remove mGfIds =>
    if gfCountUsed mGfIds.length = 0 then []
    else [.remove (mGfIds.take (gfCountUsed mGfIds.length))]
  | .modify mGfIds mGfOptions =>
    if gfCountUsed mGfIds.length = 0 then []
    else [.modify ((mGfIds.zip mGfOptions).take (gfCountUsed mGfIds.length))]
  | .pause mGfIds =>
    if gfCountUsed mGfIds.length = 0 then []
    else [.pause (mGfIds.take (gfCountUsed mGfIds.length))]
  | .resume mGfIds =>
    if gfCountUsed mGfIds.length = 0 then []
    else [.resume (mGfIds.take (gfCountUsed mGfIds.length))]

/-! ## The client -/

/-- `std::unordered_map<uint32_t, Geofence>` -/
abbrev GeofenceMap := UInt32 → Option Geofence

namespace GeofenceMap

variable (m : GeofenceMap)

/-- `insert`: what is there stays. -/
def insert (id : UInt32) (g : Geofence) : GeofenceMap :=
  if (m id).isSome then m else update m id (some g)

def erase (id : UInt32) : GeofenceMap := update m id none

end GeofenceMap

/-- The messages of the task. -/
inductive GeofenceTask where
  | client (msg : ClientMsg)
  | request (req : GeofencesReq)
  | collectiveRes (msg : CollectiveResp)
  | geofenceBreach (id : List UInt32)

/-- What the application sees. -/
inductive GeofenceOut where
  /-- the vector, when `addGeofences` returns -/
  | returned (geofences : List Geofence)
  | collectiveResCb (cb : Callback) (responses : List (Geofence × LocationResponse))
  | gfBreachCb (cb : Callback) (geofences : List Geofence)

structure GeofencingClient where
  impl : LocationClientApiImpl
  mGeofenceMap : GeofenceMap
  mLastAddedClientIds : List UInt32
  gfIdGenerator : UInt32
  /-- the message task's -/
  queue : List GeofenceTask
  sent : List GeofencesSent
  /-- whether no vector was read beyond its end -/
  inBounds : Bool
  /-- whether every look-up found something -/
  found : Bool
  /-- every geofence that was added, with the id it was given -/
  added : List (UInt32 × Geofence)
  /-- those whose add has not failed, and whose removal has not been reported -/
  alive : List (UInt32 × Geofence)

inductive GeofenceEvent where
  | addGeofences (geofences : List Geofence) (gfBreachCb : Callback)
      (responseCallback : Option Callback)
  | removeGeofences (geofences : List Geofence)
  | modifyGeofences (geofences : List Geofence)
  | pauseGeofences (geofences : List Geofence)
  | resumeGeofences (geofences : List Geofence)
  /-- what the client is asked for or sent besides -/
  | client (msg : ClientMsg)
  | collectiveRes (msg : CollectiveResp)
  | geofenceBreach (id : List UInt32)
  | take

namespace GeofencingClient

def new : GeofencingClient where
  impl := .new
  mGeofenceMap := fun _ => none
  mLastAddedClientIds := []
  gfIdGenerator := 0
  queue := []
  sent := []
  inBounds := true
  found := true
  added := []
  alive := []

variable (s : GeofencingClient)

def putAll (msgs : List GeofenceTask) : GeofencingClient := { s with queue := s.queue ++ msgs }

/-- The geofence at `i`, if it has not been added: its id is the last of
mLastAddedClientIds, and the one that is read is the one at `i`. -/
def addOne (i : Nat) (g : Geofence) : GeofencingClient × Geofence :=
  let (id, gfIdGenerator) := nextId s.gfIdGenerator
  let g := { g with mGeofenceImpl := some id }
  let s := { s with
    gfIdGenerator
    mLastAddedClientIds := s.mLastAddedClientIds ++ [id]
    added := s.added ++ [(id, g)]
    alive := s.alive ++ [(id, g)] }
  match s.mLastAddedClientIds[i]? with
  | some key => ({ s with mGeofenceMap := GeofenceMap.insert s.mGeofenceMap key g }, g)
  | none => ({ s with inBounds := false }, g)

/-- The loop, from `i` on. -/
def addFrom (s : GeofencingClient) (i : Nat) : List Geofence → GeofencingClient × List Geofence
  | [] => (s, [])
  | g :: geofences =>
    let (s, g) := if g.added then (s, g) else s.addOne i g
    let (s, geofences) := addFrom s (i + 1) geofences
    (s, g :: geofences)

def addGeofences (geofences : List Geofence) (gfBreachCb : Callback)
    (responseCallback : Option Callback) : GeofencingClient × List GeofenceOut :=
  let s := s.putAll ((addGeofencesCallbacks gfBreachCb responseCallback).map .client)
  let s := { s with mLastAddedClientIds := [] }
  if geofences.length > 0 then
    let (s, bound) := s.addFrom 0 geofences
    (s.putAll [.request (.add geofences.length
        (geofences.map fun g => if g.added then none else some g.option)
        (geofences.map fun g => if g.added then none else some g.info) s.mLastAddedClientIds)],
      [.returned bound])
  else (s, [])

def checkGeofenceMap (ids : List UInt32) : Bool := ids.all fun id => (s.mGeofenceMap id).isSome

/-- What the four other calls have in common. -/
def ask (geofences : List Geofence) (req : List UInt32 → GeofencesReq) : GeofencingClient :=
  if geofences.length > 0 then
    match geofences.mapM Geofence.mGeofenceImpl with
    -- one of them is not added yet
    | none => s
    | some gfIds => if s.checkGeofenceMap gfIds then s.putAll [.request (req gfIds)] else s
  else s

def removeGeofences (geofences : List Geofence) : GeofencingClient := s.ask geofences .remove

def modifyGeofences (geofences : List Geofence) : GeofencingClient :=
  s.ask geofences (.modify · (geofences.map Geofence.option))

def pauseGeofences (geofences : List Geofence) : GeofencingClient := s.ask geofences .pause

def resumeGeofences (geofences : List Geofence) : GeofencingClient := s.ask geofences .resume

/-- Whether an entry of a response is taken out of the map. -/
def erases (msgId : GfMsgID) (error : LocationError) : Prop :=
  error ≠ .success ∨ msgId = .removeGeofences
  deriving Decidable

/-- Whether it says that a geofence is no more. -/
def ends (msgId : GfMsgID) (error : LocationError) : Prop :=
  msgId = .addGeofences ∧ error ≠ .success ∨ msgId = .removeGeofences ∧ error = .success
  deriving Decidable

/-- One entry of a response, after its look-up. -/
def settle (msgId : GfMsgID) (id : UInt32) (error : LocationError) : GeofencingClient :=
  { s with
    mGeofenceMap :=
      if erases msgId error then GeofenceMap.erase s.mGeofenceMap id else s.mGeofenceMap
    alive := if ends msgId error then s.alive.filter (·.1 ≠ id) else s.alive }

/-- The loop over a response.  A look-up that fails throws. -/
def collect (msgId : GfMsgID) : GeofencingClient → List (UInt32 × LocationError) →
    GeofencingClient × Option (List (Geofence × LocationResponse))
  | s, [] => (s, some [])
  | s, (id, error) :: resp =>
    match s.mGeofenceMap id with
    | none => ({ s with found := false }, none)
    | some g =>
      let (s, responses) := collect msgId (s.settle msgId id error) resp
      (s, responses.map ((g, parseLocationError error) :: ·))

def collectiveRes (msg : CollectiveResp) : GeofencingClient × List GeofenceOut :=
  let (s, responses) := collect msg.msgId s msg.resp
  (s, (s.impl.mCollectiveResCb.bind fun cb => responses.map (.collectiveResCb cb)).toList)

def geofenceBreach (id : List UInt32) : GeofencingClient × List GeofenceOut :=
  if s.impl.mCallbacksMask &&& E_LOC_CB_GEOFENCE_BREACH_BIT ≠ 0 then
    match id.mapM s.mGeofenceMap with
    | none => ({ s with found := false }, [])
    | some geofences => (s, (s.impl.mGfBreachCb.map fun cb => .gfBreachCb cb geofences).toList)
  else (s, [])

/-- The message is taken from the head of the queue. -/
def process : GeofenceTask → GeofencingClient × List GeofenceOut
  | .client msg =>
    let (impl, outs) := s.impl.proc msg
    ({ s with impl, queue := s.queue ++ (posts outs).map .client }, [])
  | .request req =>
    ({ s with sent := s.sent ++ if s.impl.mHalRegistered then req.sent else [] }, [])
  | .collectiveRes msg => s.collectiveRes msg
  | .geofenceBreach id => s.geofenceBreach id

def step : GeofenceEvent → GeofencingClient × List GeofenceOut
  | .addGeofences geofences gfBreachCb responseCallback =>
    s.addGeofences geofences gfBreachCb responseCallback
  | .removeGeofences geofences => (s.removeGeofences geofences, [])
  | .modifyGeofences geofences => (s.modifyGeofences geofences, [])
  | .pauseGeofences geofences => (s.pauseGeofences geofences, [])
  | .resumeGeofences geofences => (s.resumeGeofences geofences, [])
  | .client msg => (s.putAll [.client msg], [])
  | .collectiveRes msg => (s.putAll [.collectiveRes msg], [])
  | .geofenceBreach id => (s.putAll [.geofenceBreach id], [])
  | .take => match s.queue with
      | [] => (s, [])
      | msg :: rest => process { s with queue := rest } msg

/-! ## As it should be -/

/-- The map holds exactly the geofences that are alive, each under the id that
it was given. -/
structure Holds (m : GeofenceMap) (alive : List (UInt32 × Geofence)) : Prop where
  nodup : (alive.map Prod.fst).Nodup
  exact : ∀ id g, m id = some g ↔ (id, g) ∈ alive

/-- An entry of a request is the id of a geofence that was added, with the
options and the circle of that geofence. -/
def Paired (added : List (UInt32 × Geofence)) (p : GeofencePayload) : Prop :=
  ∃ a ∈ added, p = ⟨some a.1, some a.2.option, some a.2.info⟩

structure Kept : Prop where
  inBounds : s.inBounds = true
  found : s.found = true
  holds : Holds s.mGeofenceMap s.alive
  paired : ∀ gfPayload, .add gfPayload ∈ s.sent → ∀ p ∈ gfPayload, Paired s.added p

/-- The map holds what a response is about, whichever of its entries has been
settled, and only an add has failed. -/
def Settled (msg : CollectiveResp) : Prop :=
  (∀ p ∈ msg.resp, (s.mGeofenceMap p.1).isSome ∧ (msg.msgId ≠ .addGeofences → p.2 = .success)) ∧
  msg.resp.Pairwise fun p q => erases msg.msgId p.2 → q.1 ≠ p.1

/-- What is asked of a step. -/
def Fits : GeofenceEvent → Prop
  | .addGeofences geofences _ _ =>
    (geofences.Pairwise fun g g' => g.added = true → g'.added = true) ∧
    (nextIds s.gfIdGenerator (geofences.countP fun g => !g.added)).Nodup ∧
    ∀ id ∈ nextIds s.gfIdGenerator (geofences.countP fun g => !g.added), s.mGeofenceMap id = none
  | .take => match s.queue with
      | .request (.add mGfCount _ _ mClientIds) :: _ =>
        s.impl.mHalRegistered = true → gfCountUsed mGfCount ≤ mClientIds.length
      | .collectiveRes msg :: _ => s.Settled msg
      | .geofenceBreach id :: _ => s.impl.mCallbacksMask &&& E_LOC_CB_GEOFENCE_BREACH_BIT ≠ 0 →
          ∀ i ∈ id, (s.mGeofenceMap i).isSome
      | _ => True
  | _ => True

end GeofencingClient

open GeofencingClient (Holds Paired erases ends)

/-! ## The map -/

theorem GeofenceMap.insert_of_ne {m : GeofenceMap} {id i : UInt32} {g : Geofence} (h : i ≠ id) :
    GeofenceMap.insert m id g i = m i := by
  unfold GeofenceMap.insert
  split
  · rfl
  · exact update_of_ne h _ _

namespace GeofencingClient.Holds

variable {m : GeofenceMap} {alive : List (UInt32 × Geofence)} {id : UInt32} {g : Geofence}

theorem not_mem (h : Holds m alive) (hid : m id = none) : id ∉ alive.map Prod.fst := by
  intro hmem
  obtain ⟨a, ha, rfl⟩ := mem_map.mp hmem
  exact some_ne_none a.2 (((h.exact a.1 a.2).mpr ha).symm.trans hid)

theorem insert (h : Holds m alive) (hid : m id = none) :
    Holds (GeofenceMap.insert m id g) (alive ++ [(id, g)]) := by
  have hinsert : GeofenceMap.insert m id g = update m id (some g) := by
    unfold GeofenceMap.insert
    rw [hid]
    rfl
  rw [hinsert]
  refine ⟨?_, fun i g' => ?_⟩
  · rw [map_append]
    refine h.nodup.append (nodup_singleton _) ?_
    exact disjoint_singleton.mpr (h.not_mem hid)
  · rw [mem_append, mem_singleton]
    by_cases hi : i = id
    · subst hi
      rw [update_self]
      constructor
      · intro hg
        obtain rfl := some.inj hg
        exact .inr rfl
      · rintro (hold | hnew)
        · exact absurd (mem_map_of_mem hold) (h.not_mem hid)
        · rw [(Prod.mk.inj hnew).2]
    · rw [update_of_ne hi, h.exact i g']
      exact (or_iff_left fun hnew => hi (Prod.mk.inj hnew).1).symm

theorem erase (h : Holds m alive) (id : UInt32) :
    Holds (GeofenceMap.erase m id) (alive.filter (·.1 ≠ id)) := by
  refine ⟨h.nodup.sublist (filter_sublist.map _), fun i g' => ?_⟩
  unfold GeofenceMap.erase
  rw [mem_filter, decide_eq_true_iff]
  by_cases hi : i = id
  · subst hi
    rw [update_self]
    exact iff_of_false nofun fun hmem => hmem.2 rfl
  · rw [update_of_ne hi, h.exact i g']
    exact (and_iff_left hi).symm

end GeofencingClient.Holds

/-! ## The loop of addGeofences -/

namespace GeofencingClient

variable {s : GeofencingClient} {geofences : List Geofence} {i : Nat} {msgId : GfMsgID}
  {added added' : List (UInt32 × Geofence)} {msg : GeofenceTask}

theorem addFrom_of_added (h : ∀ g ∈ geofences, g.added = true) (i : Nat) :
    s.addFrom i geofences = (s, geofences) := by
  induction geofences generalizing i with
  | nil => rfl
  | cons g geofences ih =>
    obtain ⟨hg, hgeofences⟩ := forall_mem_cons.mp h
    unfold addFrom
    rw [if_pos hg]
    dsimp only
    rw [ih hgeofences]

/-- The next geofence is stored under the id that it is given. -/
def stored (s : GeofencingClient) (g : Geofence) : GeofencingClient :=
  let (id, gfIdGenerator) := nextId s.gfIdGenerator
  let g := { g with mGeofenceImpl := some id }
  { s with
    gfIdGenerator
    mLastAddedClientIds := s.mLastAddedClientIds ++ [id]
    added := s.added ++ [(id, g)]
    alive := s.alive ++ [(id, g)]
    mGeofenceMap := GeofenceMap.insert s.mGeofenceMap id g }

/-- As long as none has been skipped, the id that is read is the one that was
given. -/
theorem addOne_of_length (h : s.mLastAddedClientIds.length = i) (g : Geofence) :
    s.addOne i g = (s.stored g, { g with mGeofenceImpl := some (nextId s.gfIdGenerator).1 }) := by
  subst h
  unfold addOne
  dsimp only
  rw [List.getElem?_concat_length]
  rfl

/-- What the loop does for the geofences that have not been added, `new` with
the ids that they are given. -/
structure Adds (s s' : GeofencingClient) (geofences : List Geofence)
    (new : List (UInt32 × Geofence)) : Prop where
  ids : s'.mLastAddedClientIds = s.mLastAddedClientIds ++ new.map Prod.fst
  added : s'.added = s.added ++ new
  holds : Holds s'.mGeofenceMap s'.alive
  flags : s'.inBounds = s.inBounds ∧ s'.found = s.found
  messages : s'.queue = s.queue ∧ s'.sent = s.sent
  /-- of an array that is filled by the loop -/
  array : ∀ {β : Type} (f : Geofence → β), (∀ g id, f { g with mGeofenceImpl := id } = f g) →
    ∃ rest, (geofences.map fun g => if g.added then none else some (f g)) =
      new.map (fun a => some (f a.2)) ++ rest

theorem addFrom_adds (hlength : s.mLastAddedClientIds.length = i)
    (hholds : Holds s.mGeofenceMap s.alive)
    (hlast : geofences.Pairwise fun g g' => g.added = true → g'.added = true)
    (hnodup : (nextIds s.gfIdGenerator (geofences.countP fun g => !g.added)).Nodup)
    (hfresh : ∀ id ∈ nextIds s.gfIdGenerator (geofences.countP fun g => !g.added),
      s.mGeofenceMap id = none) : ∃ new, Adds s (s.addFrom i geofences).1 geofences new := by
  induction geofences generalizing s i with
  | nil =>
    refine ⟨[], (append_nil _).symm, (append_nil _).symm, hholds, ⟨rfl, rfl⟩, ⟨rfl, rfl⟩, ?_⟩
    exact fun f hf => ⟨[], rfl⟩
  | cons g geofences ih =>
    obtain ⟨hg, hgeofences⟩ := pairwise_cons.mp hlast
    cases hadded : g.added with
    | true =>
      have hall : ∀ g' ∈ g :: geofences, g'.added = true :=
        forall_mem_cons.mpr ⟨hadded, fun g' hg' => hg g' hg' hadded⟩
      rw [addFrom_of_added hall]
      refine ⟨[], (append_nil _).symm, (append_nil _).symm, hholds, ⟨rfl, rfl⟩, ⟨rfl, rfl⟩, ?_⟩
      exact fun f hf => ⟨_, rfl⟩
    | false =>
      have hcount : (g :: geofences).countP (fun g => !g.added) =
          geofences.countP (fun g => !g.added) + 1 :=
        countP_cons_of_pos (by rw [hadded]; rfl)
      rw [hcount] at hnodup hfresh
      obtain ⟨hnew, hnodup⟩ := nodup_cons.mp hnodup
      obtain ⟨hid, hfresh⟩ := forall_mem_cons.mp hfresh
      unfold addFrom
      rw [hadded, if_neg Bool.false_ne_true, addOne_of_length hlength]
      dsimp only
      have hlength' : (s.stored g).mLastAddedClientIds.length = i + 1 := by
        change (s.mLastAddedClientIds ++ [_]).length = i + 1
        rw [length_append, hlength]
        rfl
      have hfresh' : ∀ id ∈ nextIds (s.stored g).gfIdGenerator
          (geofences.countP fun g => !g.added), (s.stored g).mGeofenceMap id = none := by
        intro id hmem
        have hne : id ≠ (nextId s.gfIdGenerator).1 := fun h => hnew (h ▸ hmem)
        exact (GeofenceMap.insert_of_ne hne).trans (hfresh id hmem)
      obtain ⟨new, hadds⟩ := ih hlength' (hholds.insert hid) hgeofences hnodup hfresh'
      refine ⟨((nextId s.gfIdGenerator).1,
        { g with mGeofenceImpl := some (nextId s.gfIdGenerator).1 }) :: new, ?_, ?_,
        hadds.holds, hadds.flags, hadds.messages, ?_⟩
      · exact hadds.ids.trans (append_assoc ..)
      · exact hadds.added.trans (append_assoc ..)
      · intro β f hf
        obtain ⟨rest, hrest⟩ := hadds.array f hf
        refine ⟨rest, ?_⟩
        rw [map_cons, map_cons, hrest, hadded]
        exact congrArg (· :: _) (congrArg some (hf g _).symm)

/-! ## Responses -/

theorem holds_settle (h : Holds s.mGeofenceMap s.alive) {error : LocationError}
    (hfits : msgId ≠ .addGeofences → error = .success) (id : UInt32) :
    Holds (s.settle msgId id error).mGeofenceMap (s.settle msgId id error).alive := by
  have hiff : erases msgId error ↔ ends msgId error := by
    by_cases hadd : msgId = .addGeofences
    · subst hadd
      exact ⟨fun h => .inl ⟨rfl, h.resolve_right nofun⟩, fun h => .inl (h.resolve_right nofun).2⟩
    · rw [hfits hadd]
      exact ⟨fun h => .inr ⟨h.resolve_left (absurd rfl), rfl⟩,
        fun h => .inr (h.resolve_left fun h => hadd h.1).1⟩
  unfold settle
  dsimp only
  by_cases herases : erases msgId error
  · rw [if_pos herases, if_pos (hiff.mp herases)]
    exact h.erase id
  · rw [if_neg herases, if_neg (hiff.not.mp herases)]
    exact h

theorem collect_spec {resp : List (UInt32 × LocationError)} (h : Holds s.mGeofenceMap s.alive)
    (hfits : s.Settled ⟨msgId, resp⟩) :
    Holds (collect msgId s resp).1.mGeofenceMap (collect msgId s resp).1.alive ∧
      (collect msgId s resp).1.found = s.found ∧ (collect msgId s resp).1.inBounds = s.inBounds ∧
      (collect msgId s resp).1.sent = s.sent ∧ (collect msgId s resp).1.added = s.added ∧
      (collect msgId s resp).1.queue = s.queue := by
  induction resp generalizing s with
  | nil => exact ⟨h, rfl, rfl, rfl, rfl, rfl⟩
  | cons p resp ih =>
    obtain ⟨id, error⟩ := p
    obtain ⟨hall, hagain⟩ := hfits
    obtain ⟨⟨hid, herror⟩, hall⟩ := forall_mem_cons.mp hall
    obtain ⟨hnot, hagain⟩ := pairwise_cons.mp hagain
    obtain ⟨g, hg⟩ := isSome_iff_exists.mp hid
    have hrest : (s.settle msgId id error).Settled ⟨msgId, resp⟩ := by
      refine ⟨fun q hq => ⟨?_, (hall q hq).2⟩, hagain⟩
      change ((if erases msgId error then _ else _ : GeofenceMap) q.1).isSome
      split
      · rename_i herases
        rw [GeofenceMap.erase, update_of_ne (hnot q hq herases)]
        exact (hall q hq).1
      · exact (hall q hq).1
    have hsettled := ih (holds_settle h herror id) hrest
    unfold collect
    rw [hg]
    exact hsettled

theorem isSome_mapM {m : GeofenceMap} {id : List UInt32} (h : ∀ i ∈ id, (m i).isSome) :
    (id.mapM m).isSome := by
  induction id with
  | nil => rfl
  | cons i id ih =>
    obtain ⟨hi, hid⟩ := forall_mem_cons.mp h
    obtain ⟨g, hg⟩ := isSome_iff_exists.mp hi
    obtain ⟨geofences, hgeofences⟩ := isSome_iff_exists.mp (ih hid)
    rw [mapM_cons, hg, hgeofences]
    rfl

/-! ## A run -/

/-- An add request is given the ids, options and circles of geofences that are
added, and of others behind them. -/
def Given (added : List (UInt32 × Geofence)) : GeofenceTask → Prop
  | .request (.add _ mGfOptions mGfInfos mClientIds) =>
    ∃ new : List (UInt32 × Geofence), (∀ a ∈ new, a ∈ added) ∧ mClientIds = new.map Prod.fst ∧
      (∃ rest, mGfOptions = new.map (fun a => some a.2.option) ++ rest) ∧
      ∃ rest, mGfInfos = new.map (fun a => some a.2.info) ++ rest
  | _ => True

theorem Given.mono (h : Given added msg) (hadded : added ⊆ added') : Given added' msg := by
  unfold Given at h ⊢
  split
  · obtain ⟨new, hnew, hrest⟩ := h
    exact ⟨new, fun a ha => hadded (hnew a ha), hrest⟩
  · trivial

theorem getElem?_given {α β : Type} {new : List α} {rest : List (Option β)} {f : α → β}
    (hi : i < new.length) : ((new.map fun a => some (f a)) ++ rest)[i]?.join = some (f new[i]) := by
  rw [List.getElem?_append_left (by rwa [length_map]), List.getElem?_map,
    List.getElem?_eq_getElem hi]
  rfl

theorem Given.paired {mGfCount : Nat} {mGfOptions : List (Option GeofenceOption)}
    {mGfInfos : List (Option GeofenceInfo)} {mClientIds : List UInt32}
    (h : Given added (.request (.add mGfCount mGfOptions mGfInfos mClientIds)))
    (hcount : gfCountUsed mGfCount ≤ mClientIds.length) :
    ∀ p ∈ addPayload mGfCount mGfOptions mGfInfos mClientIds, Paired added p := by
  obtain ⟨new, hnew, rfl, ⟨options, rfl⟩, infos, rfl⟩ := h
  intro p hp
  obtain ⟨i, hi, rfl⟩ := mem_map.mp hp
  rw [length_map] at hcount
  have hlt : i < new.length := Nat.lt_of_lt_of_le (mem_range.mp hi) hcount
  refine ⟨new[i], hnew _ (getElem_mem hlt), ?_⟩
  rw [getElem?_given hlt, getElem?_given hlt, List.getElem?_map, List.getElem?_eq_getElem hlt]
  rfl

/-- What the state is in before a step. -/
structure InOrder (s : GeofencingClient) : Prop where
  kept : Kept s
  given : ∀ msg ∈ s.queue, Given s.added msg

theorem InOrder.new : InOrder new where
  kept := ⟨rfl, rfl, ⟨nodup_nil, fun _ _ => iff_of_false nofun not_mem_nil⟩,
    fun _ hmem => absurd hmem not_mem_nil⟩
  given := fun _ hmsg => absurd hmsg not_mem_nil

theorem InOrder.frame (h : InOrder s) (impl : LocationClientApiImpl)
    (mLastAddedClientIds : List UInt32) {queue : List GeofenceTask}
    (hqueue : ∀ msg ∈ queue, Given s.added msg) :
    InOrder { s with impl, mLastAddedClientIds, queue } where
  kept := ⟨h.kept.inBounds, h.kept.found, h.kept.holds, h.kept.paired⟩
  given := hqueue

theorem InOrder.putAll (h : InOrder s) {msgs : List GeofenceTask}
    (hmsgs : ∀ msg ∈ msgs, Given s.added msg) : InOrder (s.putAll msgs) :=
  h.frame s.impl s.mLastAddedClientIds fun msg hmsg =>
    (mem_append.mp hmsg).elim (h.given msg) (hmsgs msg)

theorem Paired.mono {p : GeofencePayload} (h : Paired added p) (hadded : added ⊆ added') :
    Paired added' p := by
  obtain ⟨a, ha, hp⟩ := h
  exact ⟨a, hadded ha, hp⟩

section

variable (h : InOrder s)
include h

theorem InOrder.adds {s' : GeofencingClient} {new : List (UInt32 × Geofence)}
    (hadds : Adds s s' geofences new) : InOrder s' := by
  have hsubset : s.added ⊆ s'.added := by
    rw [hadds.added]
    exact subset_append_left _ _
  refine ⟨⟨hadds.flags.1.trans h.kept.inBounds, hadds.flags.2.trans h.kept.found, hadds.holds,
    ?_⟩, ?_⟩
  · intro gfPayload hsent p hp
    rw [hadds.messages.2] at hsent
    exact (h.kept.paired gfPayload hsent p hp).mono hsubset
  · intro msg hmsg
    rw [hadds.messages.1] at hmsg
    exact (h.given msg hmsg).mono hsubset

theorem InOrder.addGeofences {gfBreachCb : Callback} {responseCallback : Option Callback}
    (hfits : s.Fits (.addGeofences geofences gfBreachCb responseCallback)) :
    InOrder (s.addGeofences geofences gfBreachCb responseCallback).1 := by
  obtain ⟨hlast, hnodup, hfresh⟩ := hfits
  have hcalls : ∀ msg ∈ (addGeofencesCallbacks gfBreachCb responseCallback).map GeofenceTask.client,
      ∀ added, Given added msg := by
    intro msg hmsg added
    obtain ⟨call, -, rfl⟩ := mem_map.mp hmsg
    trivial
  have hput := h.putAll fun msg hmsg => hcalls msg hmsg s.added
  have hcleared : InOrder { s.putAll ((addGeofencesCallbacks gfBreachCb responseCallback).map
      .client) with mLastAddedClientIds := [] } := hput.frame s.impl [] hput.given
  unfold GeofencingClient.addGeofences
  dsimp only
  split
  · obtain ⟨new, hadds⟩ := addFrom_adds (s := { s.putAll
      ((addGeofencesCallbacks gfBreachCb responseCallback).map .client) with
        mLastAddedClientIds := [] }) rfl hcleared.kept.holds hlast hnodup hfresh
    refine (hcleared.adds hadds).putAll fun msg hmsg => ?_
    obtain rfl := mem_singleton.mp hmsg
    exact ⟨new, fun a ha => hadds.added ▸ mem_append_right _ ha, hadds.ids,
      hadds.array Geofence.option fun _ _ => rfl, hadds.array Geofence.info fun _ _ => rfl⟩
  · exact hcleared

theorem InOrder.ask (geofences : List Geofence) {req : List UInt32 → GeofencesReq}
    (hreq : ∀ ids, Given s.added (.request (req ids))) : InOrder (s.ask geofences req) := by
  unfold GeofencingClient.ask
  split
  · split
    · exact h
    · split
      · exact h.putAll fun msg hmsg => by
          obtain rfl := mem_singleton.mp hmsg
          exact hreq _
      · exact h
  · exact h

theorem InOrder.request {req : GeofencesReq} (hreq : Given s.added (.request req))
    (hfits : ∀ mGfCount mGfOptions mGfInfos mClientIds,
      req = .add mGfCount mGfOptions mGfInfos mClientIds → s.impl.mHalRegistered = true →
        gfCountUsed mGfCount ≤ mClientIds.length) : InOrder (s.process (.request req)).1 := by
  refine ⟨⟨h.kept.inBounds, h.kept.found, h.kept.holds, ?_⟩, h.given⟩
  intro gfPayload hsent
  obtain hsent | hsent := mem_append.mp hsent
  · exact h.kept.paired gfPayload hsent
  cases hregistered : s.impl.mHalRegistered with
  | false =>
    rw [hregistered] at hsent
    exact absurd hsent not_mem_nil
  | true =>
    rw [hregistered] at hsent
    cases req with
    | add mGfCount mGfOptions mGfInfos mClientIds =>
      change _ ∈ (if _ then [] else [_] : List GeofencesSent) at hsent
      split at hsent
      · exact absurd hsent not_mem_nil
      · obtain rfl := GeofencesSent.add.inj (mem_singleton.mp hsent)
        exact hreq.paired (hfits _ _ _ _ rfl hregistered)
    | _ =>
      change _ ∈ (if _ then [] else [_] : List GeofencesSent) at hsent
      split at hsent
      · exact absurd hsent not_mem_nil
      · cases mem_singleton.mp hsent

theorem InOrder.process (hmsg : Given s.added msg)
    (hrequest : ∀ mGfCount mGfOptions mGfInfos mClientIds,
      msg = .request (.add mGfCount mGfOptions mGfInfos mClientIds) →
        s.impl.mHalRegistered = true → gfCountUsed mGfCount ≤ mClientIds.length)
    (hcollective : ∀ resp, msg = .collectiveRes resp → s.Settled resp)
    (hbreach : ∀ id, msg = .geofenceBreach id →
      s.impl.mCallbacksMask &&& E_LOC_CB_GEOFENCE_BREACH_BIT ≠ 0 →
        ∀ i ∈ id, (s.mGeofenceMap i).isSome) : InOrder (s.process msg).1 := by
  cases msg with
  | client msg =>
    have hposts : ∀ post ∈ (posts (s.impl.proc msg).2).map GeofenceTask.client,
        Given s.added post := by
      intro post hpost
      obtain ⟨posted, -, rfl⟩ := mem_map.mp hpost
      trivial
    exact h.frame (s.impl.proc msg).1 s.mLastAddedClientIds (h.putAll hposts).given
  | request req => exact h.request hmsg fun _ _ _ _ hreq => hrequest _ _ _ _ (congrArg _ hreq)
  | collectiveRes resp =>
    obtain ⟨hholds, hfound, hinBounds, hsent, hadded, hqueue⟩ :=
      collect_spec h.kept.holds (hcollective resp rfl)
    refine ⟨⟨hinBounds.trans h.kept.inBounds, hfound.trans h.kept.found, hholds, ?_⟩, ?_⟩
    · intro gfPayload hmem
      change _ ∈ (collect _ _ _).1.sent at hmem
      rw [hsent] at hmem
      change ∀ p ∈ gfPayload, Paired (collect _ _ _).1.added p
      rw [hadded]
      exact h.kept.paired gfPayload hmem
    · intro waiting hmem
      change _ ∈ (collect _ _ _).1.queue at hmem
      rw [hqueue] at hmem
      change Given (collect _ _ _).1.added waiting
      rw [hadded]
      exact h.given waiting hmem
  | geofenceBreach id =>
    change InOrder (s.geofenceBreach id).1
    unfold geofenceBreach
    split
    · rename_i hbit
      obtain ⟨geofences, hgeofences⟩ :=
        isSome_iff_exists.mp (isSome_mapM (hbreach id rfl hbit))
      rw [hgeofences]
      exact h
    · exact h

theorem InOrder.step {e : GeofenceEvent} (hfits : s.Fits e) : InOrder (s.step e).1 := by
  cases e with
  | addGeofences geofences gfBreachCb responseCallback => exact h.addGeofences hfits
  | removeGeofences geofences => exact h.ask geofences fun _ => trivial
  | modifyGeofences geofences => exact h.ask geofences fun _ => trivial
  | pauseGeofences geofences => exact h.ask geofences fun _ => trivial
  | resumeGeofences geofences => exact h.ask geofences fun _ => trivial
  | client msg => exact h.putAll fun _ hmsg => mem_singleton.mp hmsg ▸ trivial
  | collectiveRes msg => exact h.putAll fun _ hmsg => mem_singleton.mp hmsg ▸ trivial
  | geofenceBreach id => exact h.putAll fun _ hmsg => mem_singleton.mp hmsg ▸ trivial
  | take =>
    unfold GeofencingClient.Fits at hfits
    unfold GeofencingClient.step
    dsimp only at hfits ⊢
    cases hqueue : s.queue with
    | nil => exact h
    | cons msg rest =>
      have hgiven := h.given
      rw [hqueue] at hgiven hfits
      obtain ⟨hmsg, hrest⟩ := forall_mem_cons.mp hgiven
      have hleft : InOrder { s with queue := rest } :=
        h.frame s.impl s.mLastAddedClientIds hrest
      refine hleft.process hmsg ?_ ?_ ?_
      · rintro mGfCount mGfOptions mGfInfos mClientIds rfl
        exact hfits
      · rintro resp rfl
        exact hfits
      · rintro id rfl
        exact hfits

end

/-- In a run whose steps all fit, no look-up fails, the map holds what it has
to, and each id is sent with its own geofence. -/
theorem kept_of_fits (es : List GeofenceEvent) (h : StepsMeet step Fits new es) :
    StatesMeet step Kept new es :=
  (statesMeet_of_stepsMeet (P := InOrder) (fun _ _ hs hfits => hs.step hfits) InOrder.new h).mono
    fun _ hs => hs.kept

/-- A geofence by its radius, with the id that it has been given. -/
def circle (mRadius : Double) (mGeofenceImpl : Option UInt32) : Geofence :=
  ⟨mGeofenceImpl, 0, 0, mRadius, 3, 0, 0⟩

/-- Of two geofences that are added the second one is refused; the first one is
breached, paused and removed. -/
def addedOnce : List GeofenceEvent :=
  [.client .capabilities, .take, .addGeofences [circle 7 none, circle 8 none] 1 (some 2), .take,
    .take, .take, .collectiveRes ⟨.addGeofences, [(1, .success), (2, .geofencesAtMax)]⟩, .take,
    .geofenceBreach [1], .take, .pauseGeofences [circle 7 (some 1)], .take,
    .collectiveRes ⟨.pauseGeofences, [(1, .success)]⟩, .take,
    .removeGeofences [circle 7 (some 1)], .take,
    .collectiveRes ⟨.removeGeofences, [(1, .success)]⟩, .take]

theorem kept_addedOnce : StatesMeet step Kept new addedOnce :=
  kept_of_fits addedOnce ⟨trivial, trivial, ⟨by decide, by decide, fun _ _ => rfl⟩, trivial, trivial,
    fun _ => by decide, trivial, ⟨by decide, by decide⟩, trivial,
    fun _ => forall_mem_singleton.mpr rfl, trivial, trivial, trivial,
    ⟨forall_mem_singleton.mpr ⟨rfl, fun _ => rfl⟩, pairwise_singleton ..⟩, trivial,
    trivial, trivial,
    ⟨forall_mem_singleton.mpr ⟨rfl, fun _ => rfl⟩, pairwise_singleton ..⟩, trivial⟩

/-- A geofence is added, and then again together with another one. -/
def addedAgain : List GeofenceEvent :=
  [.client .capabilities, .take, .addGeofences [circle 7 none] 1 none, .take, .take, .take,
    .addGeofences [circle 7 (some 1), circle 8 none] 1 none, .take, .take, .take]

/-- The id of the other one is sent with what nothing has been stored in. -/
theorem not_kept_addedAgain : ¬ StatesMeet step Kept new addedAgain := by
  intro h
  have hsent : GeofencesSent.add [⟨some 2, none, none⟩, ⟨none, some ⟨3, 0, 0⟩, some ⟨0, 0, 8⟩⟩] ∈
        (after step new addedAgain).sent := by decide
  obtain ⟨a, -, hpaired⟩ := h.last.paired _ hsent ⟨some 2, none, none⟩ (.head _)
  exact some_ne_none _ (congrArg GeofencePayload.gfOption hpaired).symm

end GeofencingClient

end LocStack.ClientApi
