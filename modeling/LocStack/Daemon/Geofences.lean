/-
# `LocStack.Daemon.Geofences` — whose geofence a session of LocationAPI is

A client of the daemon has ids of its own for its geofences, and
`mGfIdsMap` leads from them to the sessions that LocationAPI returned.  The
map is read both ways:

    getSessionIds    for a request; an id that is not there gets session 0
    getClientIds     for a response; by a search for the session, or id 0

and a response takes ids out of it, those of a removal and those with an
error of any request.  Which request a response is about is known from
`mGfPendingMessages` only.
-/
import Mathlib.Data.List.AList
import LocStack.Daemon.PendingMessages
import LocStack.Geofence.Model

namespace LocStack.Daemon

open Base
open Geofence (GeofenceInfo GeofenceOption)
open Tracking (LocationError)

/-! ## The map -/

/-- `std::unordered_map<uint32_t, uint32_t>`.  A loop takes the order of the
list. -/
abbrev GfIdsMap := AList fun _ : UInt32 => UInt32

/-- The order that a loop over the map takes. -/
structure Visits where
  arrange : List (Sigma fun _ : UInt32 => UInt32) → List (Sigma fun _ : UInt32 => UInt32)
  perm : ∀ entries, (arrange entries).Perm entries

def Visits.inOrder : Visits := ⟨id, fun _ => .refl _⟩

namespace GfIdsMap

variable (m : GfIdsMap)

/-- `operator[]`: what is not there is put there, as 0. -/
def index (id : UInt32) : UInt32 × GfIdsMap :=
  match m.lookup id with
  | some session => (session, m)
  | none => (0, m.insert id 0)

/-- The loop of `getSessionIds`. -/
def sessionIds : GfIdsMap → List UInt32 → List UInt32 × GfIdsMap
  | m, [] => ([], m)
  | m, id :: clientIds =>
    let (session, m) := m.index id
    let (sessions, m) := sessionIds m clientIds
    (session :: sessions, m)

/-- The inner loop of `getClientIds`: the last that is visited stays. -/
def clientId (visits : Visits) (session : UInt32) : UInt32 :=
  (visits.arrange m.entries).foldl (fun id itor => if itor.2 = session then itor.1 else id) 0

/-- `setGeofenceIds` -/
def setIds (items : List (UInt32 × UInt32)) : GfIdsMap :=
  items.foldl (fun m item => m.insert item.1 item.2) m

/-- `eraseGeofenceIds` -/
def eraseIds (clientIds : List UInt32) : GfIdsMap :=
  clientIds.foldl (fun m id => m.erase id) m

end GfIdsMap

/-! ## The handler -/

/-- The ids that mGfPendingMessages holds. -/
inductive GfMsgID where
  | addGeofences | removeGeofences | modifyGeofences | pauseGeofences | resumeGeofences
  deriving DecidableEq

/-- The calls of LocationAPI that it answers by `collectiveResponseCb`. -/
inductive GfApiCall where
  | addGeofences (options : List GeofenceOption) (info : List GeofenceInfo)
  | removeGeofences (ids : List UInt32)
  | modifyGeofences (ids : List UInt32) (options : List GeofenceOption)
  | pauseGeofences (ids : List UInt32)
  | resumeGeofences (ids : List UInt32)

/-- The id of the request that a call is made for. -/
def GfApiCall.msgId : GfApiCall → GfMsgID
  | .addGeofences .. => .addGeofences
  | .removeGeofences _ => .removeGeofences
  | .modifyGeofences .. => .modifyGeofences
  | .pauseGeofences _ => .pauseGeofences
  | .resumeGeofences _ => .resumeGeofences

/-- Of a LocHalDaemonClientHandler, what geofences are about. -/
structure GeofencesHandler where
  mGfIdsMap : GfIdsMap
  mGfPendingMessages : List GfMsgID
  /-- null, or what LocationAPI last returned -/
  mGeofenceIds : Option (List UInt32)
  /-- not null -/
  mLocationApi : Bool
  /-- not null -/
  mIpcSender : Bool

/-- What a client is sent. -/
structure CollectiveResp where
  msgId : GfMsgID
  /-- each with its `clientId` and its `error` -/
  resp : List (UInt32 × LocationError)

namespace GeofencesHandler

def new (mLocationApi mIpcSender : Bool) : GeofencesHandler where
  mGfIdsMap := ∅
  mGfPendingMessages := []
  mGeofenceIds := none
  mLocationApi := mLocationApi
  mIpcSender := mIpcSender

variable (h : GeofencesHandler)

/-- `mGfPendingMessages.push(msgId)`. -/
def push (msgId : GfMsgID) : GeofencesHandler :=
  { h with mGfPendingMessages := h.mGfPendingMessages ++ [msgId] }

/-- null for no ids -/
def getSessionIds (clientIds : List UInt32) : Option (List UInt32) × GeofencesHandler :=
  if clientIds.length > 0 then
    let (sessionIds, m) := GfIdsMap.sessionIds h.mGfIdsMap clientIds
    (some sessionIds, { h with mGfIdsMap := m })
  else (none, h)

def getClientIds (visits : Visits) (sessionIds : List UInt32) : List UInt32 :=
  sessionIds.map (GfIdsMap.clientId h.mGfIdsMap visits)

/-- `sessions` is what LocationAPI returns, if it is called. -/
def addGeofences (options : List GeofenceOption) (info : List GeofenceInfo)
    (sessions : Option (List UInt32)) :
    Option (List UInt32) × GeofencesHandler × Option GfApiCall :=
  if options.length > 0 ∧ h.mLocationApi then
    (sessions, { h with mGeofenceIds := sessions }, some (.addGeofences options info))
  else (h.mGeofenceIds, h, none)

/-- `removeGeofences`, and the three others in the same way. -/
def calls (ids : List UInt32) (call : GfApiCall) : Option GfApiCall :=
  if ids.length > 0 ∧ h.mLocationApi then some call else none

def onCollectiveResponseCallback (visits : Visits) (errs : List LocationError)
    (ids : List UInt32) : GeofencesHandler × Option CollectiveResp :=
  if h.mIpcSender then
    let pendingMsgId := h.mGfPendingMessages.head?
    let h := { h with mGfPendingMessages := h.mGfPendingMessages.tail }
    if ids.length = 0 then (h, none)
    else
      let clientIds := h.getClientIds visits ids
      let resp := clientIds.zip errs
      let failed := resp.filter (·.2 ≠ LocationError.success)
      let h := { h with mGfIdsMap := h.mGfIdsMap.eraseIds (failed.map Prod.fst) }
      match pendingMsgId with
      | none => (h, none)
      | some .removeGeofences =>
        ({ h with mGfIdsMap := h.mGfIdsMap.eraseIds clientIds }, some ⟨.removeGeofences, resp⟩)
      | some msgId => (h, some ⟨msgId, resp⟩)
  else (h, none)

end GeofencesHandler

/-! ## The service -/

/-- The requests about geofences. -/
inductive GfRequest where
  /-- with what LocationAPI returns, if it is called -/
  | addGeofences (geofences : List (UInt32 × GeofenceOption × GeofenceInfo))
      (sessions : Option (List UInt32))
  | removeGeofences (gfIds : List UInt32)
  | modifyGeofences (geofences : List (UInt32 × GeofenceOption))
  | pauseGeofences (gfIds : List UInt32)
  | resumeGeofences (gfIds : List UInt32)

/-- A call, and for each of its geofences the id of the client and the
session. -/
structure GfCall where
  call : GfApiCall
  items : List (UInt32 × UInt32)

def MAX_GEOFENCE_COUNT : Nat := 20

namespace GeofencesHandler

variable (h : GeofencesHandler)

/-- What the service does for ids that the client has: the sessions are
looked up, the call is made, and the id of the request pushed. -/
def serveIds (msgId : GfMsgID) (gfIds : List UInt32) (call : List UInt32 → GfApiCall) :
    GeofencesHandler × Option GfCall :=
  match h.getSessionIds gfIds with
  | (some sessions, h) =>
    (h.push msgId, (h.calls sessions (call sessions)).map fun call => ⟨call, gfIds.zip sessions⟩)
  | (none, h) => (h, none)

/-- What LocationApiService does for a request. -/
def serve : GfRequest → GeofencesHandler × Option GfCall
  | .addGeofences geofences sessions =>
    if geofences.length > MAX_GEOFENCE_COUNT then (h, none)
    else
      let gfOptions := geofences.map (·.2.1)
      let gfInfos := geofences.map (·.2.2)
      let clientIds := geofences.map Prod.fst
      match h.addGeofences gfOptions gfInfos sessions with
      | (none, h, _) => (h, none)
      | (some sessions, h, call) =>
        let items := clientIds.zip sessions
        ({ h with mGfIdsMap := h.mGfIdsMap.setIds items }.push .addGeofences,
          call.map fun call => ⟨call, items⟩)
  | .removeGeofences gfIds => h.serveIds .removeGeofences gfIds .removeGeofences
  | .modifyGeofences geofences =>
    if geofences.length > MAX_GEOFENCE_COUNT then (h, none)
    else
      h.serveIds .modifyGeofences (geofences.map Prod.fst) fun sessions =>
        .modifyGeofences sessions (geofences.map Prod.snd)
  | .pauseGeofences gfIds => h.serveIds .pauseGeofences gfIds .pauseGeofences
  | .resumeGeofences gfIds => h.serveIds .resumeGeofences gfIds .resumeGeofences

end GeofencesHandler

/-! ## Runs -/

/-- A client, and what has come of its requests. -/
structure GeofencesClient where
  handler : GeofencesHandler
  /-- The ids that LocationAPI has returned. -/
  ids : List UInt32
  /-- The calls it has not answered, the oldest first. -/
  unanswered : List GfCall
  /-- The geofences that were added successfully, and not removed so. -/
  added : List (UInt32 × UInt32)
  /-- The calls that a response was sent for, and the ids it names. -/
  named : List (GfCall × List UInt32)

inductive GeofencesEvent where
  | request (r : GfRequest)
  /-- LocationAPI answers the oldest call. -/
  | response (errs : List LocationError) (visits : Visits) (delivery : Delivery)

/-- The geofences that an add is still to be answered for. -/
def GfCall.adds (c : GfCall) : List (UInt32 × UInt32) :=
  if c.call.msgId = .addGeofences then c.items else []

/-- Of the geofences of a call, those with this answer. -/
def GfCall.answered (c : GfCall) (errs : List LocationError) (p : LocationError → Bool) :
    List (UInt32 × UInt32) :=
  ((c.items.zip errs).filter fun x => p x.2).map Prod.fst

/-- A modify, pause or resume has no error, and of a removal no geofence has
one only. -/
def GfCall.FitErrs (c : GfCall) (errs : List LocationError) : Prop :=
  match c.call with
  | .addGeofences .. => True
  | .removeGeofences _ => ∀ item ∈ c.items, item ∈ c.answered errs (· = LocationError.success)
  | _ => ∀ err ∈ errs, err = LocationError.success

/-- No add fails, and no removal succeeds. -/
def GfCall.SilentErrs (c : GfCall) (errs : List LocationError) : Prop :=
  match c.call with
  | .addGeofences .. => ∀ err ∈ errs, err = LocationError.success
  | .removeGeofences _ => ∀ err ∈ errs, err ≠ LocationError.success
  | _ => True

instance : ∀ (c : GfCall) (errs : List LocationError), Decidable (c.FitErrs errs)
  | ⟨.addGeofences .., _⟩, _ => .isTrue trivial
  | ⟨.removeGeofences _, _⟩, _ => List.decidableBAll _ _
  | ⟨.modifyGeofences .., _⟩, _ | ⟨.pauseGeofences _, _⟩, _ | ⟨.resumeGeofences _, _⟩, _ =>
    List.decidableBAll _ _

instance : ∀ (c : GfCall) (errs : List LocationError), Decidable (c.SilentErrs errs)
  | ⟨.addGeofences .., _⟩, _ => List.decidableBAll _ _
  | ⟨.removeGeofences _, _⟩, _ => List.decidableBAll _ _
  | ⟨.modifyGeofences .., _⟩, _ | ⟨.pauseGeofences _, _⟩, _ | ⟨.resumeGeofences _, _⟩, _ =>
    .isTrue trivial

namespace GeofencesClient

def new (mLocationApi mIpcSender : Bool) : GeofencesClient where
  handler := .new mLocationApi mIpcSender
  ids := []
  unanswered := []
  added := []
  named := []

variable (c : GeofencesClient)

/-- Sessions that LocationAPI may return for `count` geofences: new ones,
and not 0. -/
def Returns (count : Nat) (sessions : List UInt32) : Prop :=
  sessions.length = count ∧ sessions.Nodup ∧ ∀ session ∈ sessions, session ≠ 0 ∧ session ∉ c.ids

instance (count : Nat) (sessions : List UInt32) : Decidable (c.Returns count sessions) :=
  -- not by a search through all sessions
  @instDecidableAnd _ _ _ (@instDecidableAnd _ _ _ (List.decidableBAll _ _))

/-- What LocationAPI returns for a request is what it may. -/
def May : GfRequest → Prop
  | .addGeofences geofences sessions => ∀ l ∈ sessions, c.Returns geofences.length l
  | _ => True

instance : ∀ r, Decidable (c.May r)
  | .addGeofences .. => inferInstanceAs (Decidable (∀ _ ∈ _, _))
  | .removeGeofences _ | .modifyGeofences _ | .pauseGeofences _ | .resumeGeofences _ =>
    .isTrue trivial

def request (r : GfRequest) : GeofencesClient :=
  let (handler, call) := c.handler.serve r
  { c with
    handler := handler
    ids := ((call.map GfCall.adds).getD []).map Prod.snd ++ c.ids
    unanswered := c.unanswered ++ call.toList }

/-- What the answer to a call makes of the geofences that are there. -/
def settled (call : GfCall) (errs : List LocationError) : List (UInt32 × UInt32) :=
  match call.call with
  | .addGeofences .. => c.added ++ call.answered errs (· = LocationError.success)
  | .removeGeofences _ =>
    c.added.filter (· ∉ call.answered errs (· = LocationError.success))
  | _ => c.added

/-- A client whose response is not delivered is purged. -/
def response (errs : List LocationError) (visits : Visits) (delivery : Delivery) :
    Option GeofencesClient :=
  match c.unanswered with
  | [] => some c
  | call :: rest =>
    if errs.length = call.items.length then
      let (handler, resp) :=
        c.handler.onCollectiveResponseCallback visits errs (call.items.map Prod.snd)
      let c' := { c with handler := handler, unanswered := rest, added := c.settled call errs }
      match resp, delivery with
      | some resp, .sent => some { c' with named := c.named ++ [(call, resp.resp.map Prod.fst)] }
      | some _, .failed => none
      | _, _ => some c'
    else some c

def next : GeofencesEvent → Option GeofencesClient
  | .request r => if c.May r then some (c.request r) else some c
  | .response errs visits delivery => c.response errs visits delivery

def step (s : Option GeofencesClient) (e : GeofencesEvent) : Option GeofencesClient × List Unit :=
  (s.bind (next · e), [])

/-- The geofences that were added, or are being added, and were not
removed. -/
def held : List (UInt32 × UInt32) := c.added ++ c.unanswered.flatMap GfCall.adds

/-- The map is what it is to be, and so are the responses. -/
def Right : Prop :=
  (∀ id session, c.handler.mGfIdsMap.lookup id = some session ↔ (id, session) ∈ c.held) ∧
    ∀ x ∈ c.named, x.2 = x.1.items.map Prod.fst

/-- Ids are added that are not there, each once; the other requests are
about ids that are there. -/
def FitsRequest : GfRequest → Prop
  | .addGeofences geofences sessions =>
    geofences.length ≤ MAX_GEOFENCE_COUNT → c.handler.mLocationApi ∧ sessions.isSome →
      (geofences.map Prod.fst).Nodup ∧
        ∀ id ∈ geofences.map Prod.fst, c.handler.mGfIdsMap.lookup id = none
  | .modifyGeofences geofences =>
    geofences.length ≤ MAX_GEOFENCE_COUNT →
      ∀ id ∈ geofences.map Prod.fst, (c.handler.mGfIdsMap.lookup id).isSome
  | .removeGeofences gfIds | .pauseGeofences gfIds | .resumeGeofences gfIds =>
    ∀ id ∈ gfIds, (c.handler.mGfIdsMap.lookup id).isSome

/-- What is answered is still there, and the response to a removal, and no
other, is taken for one. -/
def FitsResponse (call : GfCall) (errs : List LocationError) : Prop :=
  if c.handler.mIpcSender then
    (∀ item ∈ call.items, c.handler.mGfIdsMap.lookup item.1 = some item.2) ∧
      (c.handler.mGfPendingMessages.head? = some .removeGeofences ↔
        call.call.msgId = .removeGeofences) ∧
      call.FitErrs errs
  else call.SilentErrs errs

instance (call : GfCall) (errs : List LocationError) : Decidable (c.FitsResponse call errs) :=
  @instDecidableIte _ _ _ _ (@instDecidableAnd _ _ (List.decidableBAll _ _) _) _

instance : ∀ r, Decidable (c.FitsRequest r)
  | .addGeofences .. =>
    @instDecidableForall (_ ≤ _) (_ → _) _ (@instDecidableForall _ _ _
      (@instDecidableAnd _ _ _ (List.decidableBAll _ _)))
  | .modifyGeofences _ => @instDecidableForall _ _ _ (List.decidableBAll _ _)
  | .removeGeofences _ | .pauseGeofences _ | .resumeGeofences _ => List.decidableBAll _ _

/-- The step fits. -/
def Fits : GeofencesEvent → Prop
  | .request r => c.May r → c.FitsRequest r
  | .response errs _ _ =>
    ∀ call ∈ c.unanswered.head?, errs.length = call.items.length → c.FitsResponse call errs

instance : ∀ e, Decidable (c.Fits e)
  | .request _ => inferInstanceAs (Decidable (_ → _))
  | .response .. => inferInstanceAs (Decidable (∀ _ ∈ _, _ → _))

end GeofencesClient

end LocStack.Daemon
