/-
# `LocStack.Integration.Answers` — who is told about a configuration request

configCb is to be told once about each request.  A request that cannot be
sent is told at once; one that is sent adds one to the counter of its type
in mConfigReqCntMap, an answer takes one off and is told, and a HAL-ready
message has all that is counted told as failed:

    call           sendConfigMsgToHalDaemon: addConfigReq, or configCb with FAILURE
    receive        the oldest message of the daemon is taken by the task:
                   an answer       processConfigRespCb
                   HAL ready       flushConfigReqs, sendClientRegMsgToHalDaemon,
                                   and what is cached is sent
    answer         the daemon answers the oldest message it has received
    die, start     of the daemon; one that starts tells that the HAL is ready

A message that the daemon has received and not answered when it dies, or
that is sent while there is none, is lost (`dead`).

`answers_iff`: each step tells what it has to and leaves the counters at the
number of unanswered requests (`Right`) if and only if

* no lever arm is configured with an empty valid mask, which is accepted and
  never sent;
* when HAL ready is taken, no setting is cached, and nothing that was sent
  to the new daemon is still unanswered.

For what is cached is sent through the same counting function, and what was
sent before HAL ready was taken is flushed with what was lost.
-/
import LocStack.Base.Tally
import LocStack.Integration.Model

namespace LocStack.Integration

open Base List
open MsgConv (LocationError)

/-! ## The client -/

/-- A call of configCb. -/
abbrev ConfigCb := LocConfigTypeEnum × LocIntegrationResponse

/-- `unordered_map<LocConfigTypeEnum, int32_t>` -/
abbrev LocConfigReqCntMap := LocConfigTypeEnum → Option Int

namespace LocConfigTypeEnum

def all : List LocConfigTypeEnum := [ .CONFIG_CONSTELLATIONS, .CONFIG_CONSTRAINED_TIME_UNCERTAINTY,
  .CONFIG_POSITION_ASSISTED_CLOCK_ESTIMATOR, .CONFIG_AIDING_DATA_DELETION, .CONFIG_LEVER_ARM,
  .CONFIG_ROBUST_LOCATION, .CONFIG_MIN_GPS_WEEK, .CONFIG_DEAD_RECKONING_ENGINE,
  .CONFIG_MIN_SV_ELEVATION, .CONFIG_CONSTELLATION_SECONDARY_BAND, .CONFIG_ENGINE_RUN_STATE,
  .CONFIG_USER_CONSENT_TERRESTRIAL_POSITIONING, .GET_ROBUST_LOCATION_CONFIG, .GET_MIN_GPS_WEEK,
  .GET_MIN_SV_ELEVATION, .GET_CONSTELLATION_SECONDARY_BAND_CONFIG]

theorem nodup_all : all.Nodup := by decide

theorem mem_all (t : LocConfigTypeEnum) : t ∈ all := by cases t <;> decide

end LocConfigTypeEnum

structure Impl where
  mHalRegistered : Bool
  cached : CachedConfig
  mConfigReqCntMap : LocConfigReqCntMap

namespace Impl

variable (mIntegrationCbs : LocIntegrationCbs)

def init : Impl := ⟨false, .init, fun _ => none⟩

def addConfigReq (s : Impl) (configType : LocConfigTypeEnum) : Impl :=
  match s.mConfigReqCntMap configType with
  | none =>
    { s with mConfigReqCntMap := Function.update s.mConfigReqCntMap configType (some 1) }
  | some cnt =>
    { s with mConfigReqCntMap := Function.update s.mConfigReqCntMap configType (some (cnt + 1)) }

/-- Whether `sendMessage`, which returns `rc`, is called and sends. -/
def sends (s : Impl) (rc : Bool) : Bool := s.mHalRegistered && rc

/-- With invokeResponseCb, which no caller gives another value than true. -/
def sendConfigMsgToHalDaemon (s : Impl) (configType : LocConfigTypeEnum) (rc : Bool) :
    Impl × List ConfigCb :=
  if mIntegrationCbs.configCb then
    if s.sends rc then (s.addConfigReq configType, [])
    else (s, [(configType, .FAILURE)])
  else (s, [])

/-- A call's request on the task. -/
def proc (s : Impl) (req : ConfigReq) (rc : Bool) : Impl × List ConfigCb :=
  let r := s.sendConfigMsgToHalDaemon mIntegrationCbs req.configType rc
  ({ r.1 with cached := s.cached.keep req }, r.2)

def processConfigRespCb (s : Impl) (msgId : ELocMsgID) (err : LocationError) :
    Impl × List ConfigCb :=
  let configType := getLocConfigTypeFromMsgId msgId
  let intResponse := getLocIntegrationResponse err
  if mIntegrationCbs.configCb then
    match s.mConfigReqCntMap configType with
    | none => (s, [])
    | some reqCnt =>
      let left := if reqCnt - 1 > 0 then some (reqCnt - 1) else none
      ({ s with mConfigReqCntMap := Function.update s.mConfigReqCntMap configType left },
        if reqCnt > 0 then [(configType, intResponse)] else [])
  else (s, [])

/-- The map is walked in some order; which one makes no difference here. -/
def flushConfigReqs (s : Impl) : Impl × List ConfigCb :=
  ({ s with mConfigReqCntMap := fun _ => none },
    LocConfigTypeEnum.all.flatMap fun t =>
      List.replicate ((s.mConfigReqCntMap t).getD 0).toNat (t, .FAILURE))

def sendClientRegMsgToHalDaemon (s : Impl) (rc : Bool) : Impl :=
  if rc then { s with mHalRegistered := true } else s

/-- The requests that are sent again, one after the other; `rc` is what
`sendMessage` returns for each. -/
def sendAll (rc : ConfigReq → Bool) : Impl → List ConfigReq → Impl × List ConfigCb
  | s, [] => (s, [])
  | s, req :: reqs =>
    let r := s.sendConfigMsgToHalDaemon mIntegrationCbs req.configType (rc req)
    let r' := sendAll rc r.1 reqs
    (r'.1, r.2 ++ r'.2)

def processHalReadyMsg (s : Impl) (regRc : Bool) (rc : ConfigReq → Bool)
    (engines : LocConfigEngRunStateMap) : Impl × List ConfigCb :=
  let r := s.flushConfigReqs
  let s := r.1.sendClientRegMsgToHalDaemon regRc
  let r' := s.sendAll mIntegrationCbs rc (s.cached.cachedMsgs engines)
  (r'.1, r.2 ++ r'.2)

section Counters

variable {mIntegrationCbs} {s : Impl} {l : List LocConfigTypeEnum} {t : LocConfigTypeEnum}

@[simp] theorem addConfigReq_mHalRegistered : (s.addConfigReq t).mHalRegistered =
    s.mHalRegistered := by
  unfold addConfigReq
  split <;> rfl

theorem addConfigReq_tally (h : s.mConfigReqCntMap = tally l) :
    (s.addConfigReq t).mConfigReqCntMap = tally (t :: l) := by
  rw [tally_cons, ← h]
  unfold addConfigReq
  cases hcnt : s.mConfigReqCntMap t with
  | none => rfl
  | some cnt => rfl

section

variable (hcb : mIntegrationCbs.configCb = true)
include hcb

theorem sendConfigMsgToHalDaemon_sends {rc : Bool} (hsends : s.sends rc = true) :
    s.sendConfigMsgToHalDaemon mIntegrationCbs t rc = (s.addConfigReq t, []) := by
  unfold sendConfigMsgToHalDaemon
  rw [if_pos hcb, if_pos hsends]

theorem sendConfigMsgToHalDaemon_fails {rc : Bool} (hsends : s.sends rc = false) :
    s.sendConfigMsgToHalDaemon mIntegrationCbs t rc = (s, [(t, .FAILURE)]) := by
  unfold sendConfigMsgToHalDaemon
  rw [if_pos hcb, hsends]
  rfl

theorem processConfigRespCb_tally {msgId : ELocMsgID}
    (h : s.mConfigReqCntMap = tally (getLocConfigTypeFromMsgId msgId :: l)) (err : LocationError) :
    (s.processConfigRespCb mIntegrationCbs msgId err).1.mConfigReqCntMap = tally l ∧
      (s.processConfigRespCb mIntegrationCbs msgId err).2 =
        [(getLocConfigTypeFromMsgId msgId, getLocIntegrationResponse err)] := by
  unfold processConfigRespCb
  rw [if_pos hcb, h, tally_cons_self]
  simp only [Int.add_sub_cancel]
  exact ⟨(tally_of_cons _ l).symm, if_pos (by omega)⟩

end

@[simp] theorem sendClientRegMsgToHalDaemon_cached (rc : Bool) :
    (s.sendClientRegMsgToHalDaemon rc).cached = s.cached := by
  unfold sendClientRegMsgToHalDaemon
  split <;> rfl

@[simp] theorem sendClientRegMsgToHalDaemon_mConfigReqCntMap (rc : Bool) :
    (s.sendClientRegMsgToHalDaemon rc).mConfigReqCntMap = s.mConfigReqCntMap := by
  unfold sendClientRegMsgToHalDaemon
  split <;> rfl

theorem flushConfigReqs_tally (h : s.mConfigReqCntMap = tally l) :
    s.flushConfigReqs.2.Perm (l.map fun t => (t, .FAILURE)) := by
  have hperm := (expand_tally LocConfigTypeEnum.nodup_all LocConfigTypeEnum.mem_all l).map
    fun t => ((t, .FAILURE) : ConfigCb)
  rw [map_flatMap] at hperm
  simp only [map_replicate] at hperm
  rwa [← h] at hperm

/-- Of the requests that are sent again some are counted, and the others are
told to have failed. -/
theorem sendAll_tally (hcb : mIntegrationCbs.configCb = true) (rc : ConfigReq → Bool)
    (reqs : List ConfigReq) (h : s.mConfigReqCntMap = tally l) :
    (s.sendAll mIntegrationCbs rc reqs).1.mHalRegistered = s.mHalRegistered ∧
      (s.sendAll mIntegrationCbs rc reqs).1.mConfigReqCntMap =
        tally ((reqs.filter fun req => s.sends (rc req)).map ConfigReq.configType ++ l) ∧
      (s.sendAll mIntegrationCbs rc reqs).2 =
        ((reqs.filter fun req => !s.sends (rc req)).map ConfigReq.configType).map
          fun t => (t, .FAILURE) := by
  induction reqs generalizing s l with
  | nil => exact ⟨rfl, h, rfl⟩
  | cons req reqs ih =>
    rw [sendAll]
    cases hsends : s.sends (rc req) with
    | true =>
      have hsame (rc : Bool) : (s.addConfigReq req.configType).sends rc = s.sends rc := by
        unfold sends
        rw [addConfigReq_mHalRegistered]
      obtain ⟨hreg, hmap, hout⟩ := ih (addConfigReq_tally (t := req.configType) h)
      simp only [hsame] at hmap hout
      rw [sendConfigMsgToHalDaemon_sends hcb hsends]
      refine ⟨hreg.trans addConfigReq_mHalRegistered, hmap.trans (tally_perm ?_), ?_⟩
      · rw [filter_cons, if_pos hsends]
        exact perm_middle
      · rw [filter_cons, if_neg (by simp [hsends])]
        exact hout
    | false =>
      obtain ⟨hreg, hmap, hout⟩ := ih h
      rw [sendConfigMsgToHalDaemon_fails hcb hsends]
      refine ⟨hreg, ?_, ?_⟩
      · rw [filter_cons, if_neg (by simp [hsends])]
        exact hmap
      · rw [filter_cons, if_pos (by simp [hsends])]
        exact congrArg (_ :: ·) hout

end Counters

end Impl

/-! ## The client and its daemon -/

/-- A request message; whether it was sent for a call of the application. -/
structure Request where
  req : ConfigReq
  app : Bool

/-- A message of the daemon that waits for the task of the client. -/
inductive ServerMsg where
  | halReady
  | response (request : Request) (err : LocationError)

/-- An order to walk the map of the engines in. -/
structure Walk where
  walk : LocConfigEngRunStateMap → LocConfigEngRunStateMap
  perm : ∀ map, (walk map).Perm map

inductive Event where
  | call (req : ConfigReq) (rc : Bool)
  | listenerReady (rc : Bool)
  | receive (regRc : Bool) (rc : ConfigReq → Bool) (order : Walk)
  | answer (err : LocationError)
  | die | start

structure Sys where
  mIntegrationCbs : LocIntegrationCbs
  impl : Impl
  alive : Bool
  /-- what the daemon has received and not answered, the oldest first -/
  pending : List Request
  inbox : List ServerMsg
  /-- what no daemon will answer, and HAL ready has not been taken since -/
  dead : List Request

namespace Sys

def init (mIntegrationCbs : LocIntegrationCbs) (alive : Bool) : Sys where
  mIntegrationCbs := mIntegrationCbs
  impl := .init
  alive := alive
  pending := []
  inbox := []
  dead := []

/-- Messages that are sent: to the daemon, or to nobody. -/
def send (s : Sys) (requests : List Request) : Sys :=
  if s.alive then { s with pending := s.pending ++ requests }
  else { s with dead := s.dead ++ requests }

def call (s : Sys) (req : ConfigReq) (rc : Bool) : Sys × List ConfigCb :=
  if s.mIntegrationCbs.queues req then
    let r := s.impl.proc s.mIntegrationCbs req rc
    let requests := if s.impl.sends rc then [⟨req, true⟩] else []
    ({ s with impl := r.1 }.send requests, r.2)
  else (s, [])

/-- What is cached is sent by a client that is registered by now. -/
def halReady (s : Sys) (regRc : Bool) (rc : ConfigReq → Bool) (order : Walk) :
    Sys × List ConfigCb :=
  let engines := order.walk s.impl.cached.mEngRunStateConfigMap
  let r := s.impl.processHalReadyMsg s.mIntegrationCbs regRc rc engines
  let requests := ((s.impl.cached.cachedMsgs engines).filter fun req => r.1.sends (rc req)).map
    fun req => ⟨req, false⟩
  ({ s with impl := r.1, dead := [] }.send requests, r.2)

def receive (s : Sys) (regRc : Bool) (rc : ConfigReq → Bool) (order : Walk) :
    Sys × List ConfigCb :=
  match s.inbox with
  | [] => (s, [])
  | .halReady :: inbox => { s with inbox := inbox }.halReady regRc rc order
  | .response request err :: inbox =>
    let r := s.impl.processConfigRespCb s.mIntegrationCbs request.req.msgId err
    ({ s with impl := r.1, inbox := inbox }, r.2)

def answer (s : Sys) (err : LocationError) : Sys :=
  match s.pending with
  | [] => s
  | request :: pending =>
    { s with pending := pending, inbox := s.inbox ++ [.response request err] }

def step (s : Sys) : Event → Sys × List ConfigCb
  | .call req rc => s.call req rc
  | .listenerReady rc => ({ s with impl := s.impl.sendClientRegMsgToHalDaemon rc }, [])
  | .receive regRc rc order => s.receive regRc rc order
  | .answer err => (s.answer err, [])
  | .die => ({ s with alive := false, pending := [], dead := s.dead ++ s.pending }, [])
  | .start =>
    if s.alive then (s, [])
    else ({ s with alive := true, inbox := s.inbox ++ [.halReady] }, [])

/-! ## The contract -/

/-- The requests whose answers are on their way to the task. -/
def answered (inbox : List ServerMsg) : List Request :=
  inbox.filterMap fun
    | .halReady => none
    | .response request _ => some request

/-- The requests that the task has seen no answer to, of a living daemon or
of one that is dead. -/
def unanswered (s : Sys) : List Request := s.pending ++ answered s.inbox ++ s.dead

/-- The types of those that are the application's. -/
def types (requests : List Request) : List LocConfigTypeEnum :=
  (requests.filter (·.app)).map (·.req.configType)

/-- What configCb has to be told by a step: that a call that was accepted
could not be sent, what the daemon answered to a request of the application,
and that its requests to a dead daemon have failed. -/
def due (s : Sys) : Event → List ConfigCb
  | .call req rc =>
    if s.mIntegrationCbs.returns req = 0 ∧
        (s.mIntegrationCbs.queues req && s.impl.sends rc) = false then
      [(req.configType, .FAILURE)] else []
  | .receive .. =>
    match s.inbox with
    | .response ⟨req, true⟩ err :: _ => [(req.configType, getLocIntegrationResponse err)]
    | .halReady :: _ => (types s.dead).map fun t => (t, .FAILURE)
    | _ => []
  | _ => []

/-- A step tells what is due, and leaves a counter at the number of the
application's unanswered requests. -/
structure Right (s : Sys) (e : Event) : Prop where
  told : (s.step e).2.Perm (s.due e)
  counted : ∀ t, ((s.step e).1.impl.mConfigReqCntMap t).getD 0 =
    (types (s.step e).1.unanswered).count t

/-- Accepted calls are queued, and HAL ready is taken with nothing cached and
nothing unanswered by the new daemon. -/
def Fits (s : Sys) : Event → Prop
  | .call req _ => s.mIntegrationCbs.returns req = 0 → s.mIntegrationCbs.queues req = true
  | .receive .. =>
    match s.inbox with
    | .halReady :: inbox =>
      s.impl.cached.cachedMsgs s.impl.cached.mEngRunStateConfigMap = [] ∧
        types (s.pending ++ answered inbox) = []
    | _ => True
  | _ => True

/-! ## One step -/

section Steps

variable {s : Sys} {l l' : List Request}

/-- Everything that is unanswered is the application's, and is counted. -/
structure Inv (s : Sys) : Prop where
  configCb : s.mIntegrationCbs.configCb = true
  app : ∀ request ∈ s.unanswered, request.app = true
  counted : s.impl.mConfigReqCntMap = tally (s.unanswered.map (·.req.configType))

@[simp] theorem answered_nil : answered [] = [] := rfl
@[simp] theorem answered_halReady (inbox : List ServerMsg) :
    answered (.halReady :: inbox) = answered inbox := rfl
@[simp] theorem answered_response (request : Request) (err : LocationError)
    (inbox : List ServerMsg) :
    answered (.response request err :: inbox) = request :: answered inbox := rfl
@[simp] theorem answered_append (inbox inbox' : List ServerMsg) :
    answered (inbox ++ inbox') = answered inbox ++ answered inbox' := filterMap_append

theorem types_eq_map (h : ∀ request ∈ l, request.app = true) :
    types l = l.map (·.req.configType) := by
  unfold types
  rw [filter_eq_self.mpr h]

theorem types_append (l l' : List Request) : types (l ++ l') = types l ++ types l' := by
  unfold types
  rw [filter_append, map_append]

theorem types_perm (h : l.Perm l') : (types l).Perm (types l') :=
  (h.filter _).map _

theorem types_resent (reqs : List ConfigReq) : types (reqs.map fun req => ⟨req, false⟩) = [] := by
  unfold types
  rw [map_eq_nil_iff, filter_eq_nil_iff]
  intro request hrequest happ
  obtain ⟨req, -, rfl⟩ := mem_map.mp hrequest
  cases happ

theorem eq_nil_of_types (h : ∀ request ∈ l, request.app = true) (hnil : types l = []) :
    l = [] := by
  rw [types_eq_map h] at hnil
  exact map_eq_nil_iff.mp hnil

@[simp] theorem send_impl : (s.send l).impl = s.impl := by
  unfold send
  split <;> rfl

@[simp] theorem send_mIntegrationCbs : (s.send l).mIntegrationCbs = s.mIntegrationCbs := by
  unfold send
  split <;> rfl

theorem send_unanswered : (s.send l).unanswered.Perm (l ++ s.unanswered) := by
  unfold send unanswered
  split
  · show (s.pending ++ l ++ answered s.inbox ++ s.dead).Perm _
    simp only [append_assoc]
    exact perm_append_comm_assoc ..
  · show (s.pending ++ answered s.inbox ++ (s.dead ++ l)).Perm _
    rw [← append_assoc]
    exact perm_append_comm

theorem Inv.of_perm {s' : Sys} (hcb : s'.mIntegrationCbs.configCb = true)
    (hperm : s'.unanswered.Perm l) (happ : ∀ request ∈ l, request.app = true)
    (hcounted : s'.impl.mConfigReqCntMap = tally (l.map (·.req.configType))) : s'.Inv where
  configCb := hcb
  app := fun request hrequest => happ request (hperm.mem_iff.mp hrequest)
  counted := by rw [hcounted, tally_perm (hperm.map _)]

theorem Inv.right {e : Event} (hinv : (s.step e).1.Inv) (htold : (s.step e).2.Perm (s.due e)) :
    Right s e where
  told := htold
  counted := by
    intro t
    rw [hinv.counted, getD_tally, types_eq_map hinv.app]

variable {req : ConfigReq} {rc regRc : Bool} {request : Request} {err : LocationError}
  {inbox : List ServerMsg} {order : Walk}

theorem returns_of_queues {mIntegrationCbs : LocIntegrationCbs}
    (h : mIntegrationCbs.queues req = true) : mIntegrationCbs.returns req = 0 := by
  cases req with
  | getRobustLocationConfig | getMinGpsWeek | getMinSvElevation
  | getConstellationSecondaryBandConfig => exact if_pos h
  | _ => rfl

theorem call_of_not_queues (hqueues : s.mIntegrationCbs.queues req = false) :
    s.call req rc = (s, []) := by
  unfold call
  rw [hqueues]
  rfl

section

variable (hcb : s.mIntegrationCbs.configCb = true) (hqueues : s.mIntegrationCbs.queues req = true)
include hcb hqueues

theorem call_fails (hsends : s.impl.sends rc = false) :
    s.call req rc = ({ s with impl.cached := s.impl.cached.keep req }.send [],
      [(req.configType, .FAILURE)]) := by
  unfold call Impl.proc
  rw [if_pos hqueues, Impl.sendConfigMsgToHalDaemon_fails hcb hsends, hsends]
  rfl

theorem call_sends (hsends : s.impl.sends rc = true) :
    s.call req rc = ({ s with impl := { s.impl.addConfigReq req.configType with
      cached := s.impl.cached.keep req } }.send [⟨req, true⟩], []) := by
  unfold call Impl.proc
  rw [if_pos hqueues, Impl.sendConfigMsgToHalDaemon_sends hcb hsends, hsends]
  rfl

end

theorem due_call : s.due (.call req rc) =
    if s.mIntegrationCbs.returns req = 0 ∧
        (s.mIntegrationCbs.queues req && s.impl.sends rc) = false then
      [(req.configType, .FAILURE)] else [] := rfl

theorem right_call (hinv : s.Inv) (hfits : s.Fits (.call req rc)) :
    (s.call req rc).1.Inv ∧ (s.call req rc).2.Perm (s.due (.call req rc)) := by
  rw [due_call]
  cases hqueues : s.mIntegrationCbs.queues req with
  | false =>
    have hreturns : s.mIntegrationCbs.returns req ≠ 0 := fun h =>
      Bool.false_ne_true (hqueues.symm.trans (hfits h))
    rw [call_of_not_queues hqueues, if_neg fun h => hreturns h.1]
    exact ⟨hinv, List.Perm.refl _⟩
  | true =>
    have hreturns := returns_of_queues hqueues
    cases hsends : s.impl.sends rc with
    | false =>
      rw [call_fails hinv.configCb hqueues hsends, if_pos ⟨hreturns, rfl⟩]
      refine ⟨Inv.of_perm ?_ send_unanswered hinv.app ?_, List.Perm.refl _⟩
      · rw [send_mIntegrationCbs]
        exact hinv.configCb
      · rw [send_impl]
        exact hinv.counted
    | true =>
      rw [call_sends hinv.configCb hqueues hsends, if_neg fun h => (by cases h.2)]
      refine ⟨Inv.of_perm ?_ send_unanswered ?_ ?_, List.Perm.refl _⟩
      · rw [send_mIntegrationCbs]
        exact hinv.configCb
      · rintro request (_ | ⟨_, hrequest⟩)
        · rfl
        · exact hinv.app request hrequest
      · rw [send_impl]
        exact Impl.addConfigReq_tally hinv.counted

theorem unanswered_response (hinbox : s.inbox = .response request err :: inbox) :
    s.unanswered.Perm (request :: (s.pending ++ answered inbox ++ s.dead)) := by
  unfold unanswered
  rw [hinbox, answered_response]
  simp only [append_assoc, cons_append]
  exact perm_middle

theorem right_response (hinv : s.Inv) (hinbox : s.inbox = .response request err :: inbox)
    (regRc : Bool) (rc : ConfigReq → Bool) (order : Walk) :
    (s.receive regRc rc order).1.Inv ∧
      (s.receive regRc rc order).2.Perm (s.due (.receive regRc rc order)) := by
  have hperm := unanswered_response hinbox
  have happ : request.app = true := hinv.app request (hperm.mem_iff.mpr mem_cons_self)
  have hcounted := hinv.counted.trans (tally_perm (hperm.map (·.req.configType)))
  rw [map_cons, ← getLocConfigTypeFromMsgId_msgId] at hcounted
  obtain ⟨hmap, hout⟩ := Impl.processConfigRespCb_tally hinv.configCb hcounted err
  rw [getLocConfigTypeFromMsgId_msgId] at hout
  obtain ⟨req, app⟩ := request
  cases happ
  unfold receive due
  rw [hinbox]
  refine ⟨⟨hinv.configCb, fun request hrequest => ?_, hmap⟩, ?_⟩
  · exact hinv.app request (hperm.mem_iff.mpr (mem_cons_of_mem _ hrequest))
  · exact List.Perm.of_eq hout

theorem cachedMsgs_perm {c : CachedConfig} {engines : LocConfigEngRunStateMap}
    (hperm : engines.Perm c.mEngRunStateConfigMap) :
    (c.cachedMsgs engines).Perm (c.cachedMsgs c.mEngRunStateConfigMap) :=
  (hperm.map _).append_left _

/-- HAL ready has everything that is unanswered told to have failed, and all
that is sent again counted or told to have failed too. -/
theorem halReady_spec (hinv : s.Inv) (regRc : Bool) (rc : ConfigReq → Bool) (order : Walk) :
    ∃ sent failed : List ConfigReq,
      (sent ++ failed).Perm (s.impl.cached.cachedMsgs s.impl.cached.mEngRunStateConfigMap) ∧
      (s.halReady regRc rc order).1.impl.mConfigReqCntMap = tally (sent.map ConfigReq.configType) ∧
      (s.halReady regRc rc order).1.unanswered.Perm
        (sent.map (fun req => ⟨req, false⟩) ++ (s.pending ++ answered s.inbox)) ∧
      (s.halReady regRc rc order).2.Perm
        (((s.unanswered.map (·.req.configType)) ++ failed.map ConfigReq.configType).map
          fun t => (t, .FAILURE)) := by
  have hflush := Impl.flushConfigReqs_tally hinv.counted
  have hperm := cachedMsgs_perm (order.perm s.impl.cached.mEngRunStateConfigMap)
  generalize hreqs : s.impl.cached.cachedMsgs
    (order.walk s.impl.cached.mEngRunStateConfigMap) = reqs at hperm
  generalize hregistered : s.impl.flushConfigReqs.1.sendClientRegMsgToHalDaemon regRc = impl
  have hcached : impl.cached = s.impl.cached := by
    rw [← hregistered, Impl.sendClientRegMsgToHalDaemon_cached]
    rfl
  have hempty : impl.mConfigReqCntMap = tally [] := by
    rw [← hregistered, Impl.sendClientRegMsgToHalDaemon_mConfigReqCntMap]
    rfl
  obtain ⟨hreg, hmap, hout⟩ := Impl.sendAll_tally hinv.configCb rc reqs hempty
  have hsends (b : Bool) : (impl.sendAll s.mIntegrationCbs rc reqs).1.sends b = impl.sends b := by
    unfold Impl.sends
    rw [hreg]
  have hready : s.halReady regRc rc order =
      ({ s with impl := (impl.sendAll s.mIntegrationCbs rc reqs).1, dead := [] }.send
          ((reqs.filter fun req => impl.sends (rc req)).map fun req => ⟨req, false⟩),
        s.impl.flushConfigReqs.2 ++ (impl.sendAll s.mIntegrationCbs rc reqs).2) := by
    unfold halReady Impl.processHalReadyMsg
    simp only [hregistered, hcached, hreqs, hsends]
  rw [hready]
  refine ⟨reqs.filter fun req => impl.sends (rc req), reqs.filter fun req => !impl.sends (rc req),
    (filter_append_perm _ reqs).trans hperm, ?_, ?_, ?_⟩
  · rw [send_impl, hmap, append_nil]
  · refine send_unanswered.trans ?_
    show (_ ++ (s.pending ++ answered s.inbox ++ [])).Perm _
    rw [append_nil]
  · show (s.impl.flushConfigReqs.2 ++ _).Perm _
    rw [hout, map_append]
    exact hflush.append_right _

theorem Inv.taken (hinv : s.Inv) (hinbox : s.inbox = .halReady :: inbox) :
    Inv { s with inbox := inbox } := by
  have hsame : unanswered { s with inbox := inbox } = s.unanswered := by
    unfold unanswered
    rw [hinbox, answered_halReady]
  exact ⟨hinv.configCb, hsame ▸ hinv.app, by rw [hsame]; exact hinv.counted⟩

theorem halReady_mIntegrationCbs (regRc : Bool) (rc : ConfigReq → Bool) (order : Walk) :
    (s.halReady regRc rc order).1.mIntegrationCbs = s.mIntegrationCbs := send_mIntegrationCbs

theorem receive_halReady (hinbox : s.inbox = .halReady :: inbox) (regRc : Bool)
    (rc : ConfigReq → Bool) (order : Walk) :
    s.receive regRc rc order = halReady { s with inbox := inbox } regRc rc order ∧
      s.due (.receive regRc rc order) = (types s.dead).map fun t => (t, .FAILURE) := by
  unfold receive due
  rw [hinbox]
  exact ⟨rfl, rfl⟩

theorem right_halReady (hinv : s.Inv) (hinbox : s.inbox = .halReady :: inbox)
    {rc : ConfigReq → Bool}
    (hnone : s.impl.cached.cachedMsgs s.impl.cached.mEngRunStateConfigMap = [])
    (hnew : types (s.pending ++ answered inbox) = []) :
    (s.receive regRc rc order).1.Inv ∧
      (s.receive regRc rc order).2.Perm (s.due (.receive regRc rc order)) := by
  obtain ⟨hreceive, hdue⟩ := receive_halReady hinbox regRc rc order
  have htaken := hinv.taken hinbox
  obtain ⟨sent, failed, hreqs, hmap, hunanswered, hout⟩ := halReady_spec htaken regRc rc order
  have hnil : sent ++ failed = [] := (hreqs.trans (List.Perm.of_eq hnone)).eq_nil
  obtain ⟨rfl, rfl⟩ := append_eq_nil_iff.mp hnil
  have hlive : s.pending ++ answered inbox = [] :=
    eq_nil_of_types (fun request hrequest =>
      htaken.app request (mem_append_left _ hrequest)) hnew
  rw [hreceive, hdue]
  refine ⟨Inv.of_perm ?_ (hunanswered.trans (List.Perm.of_eq hlive)) ?_ hmap, ?_⟩
  · rw [halReady_mIntegrationCbs]
    exact hinv.configCb
  · exact fun request hrequest => absurd hrequest not_mem_nil
  · refine hout.trans (List.Perm.of_eq ?_)
    have hdead : unanswered { s with inbox := inbox } = s.dead := by
      show s.pending ++ answered inbox ++ s.dead = s.dead
      rw [hlive, nil_append]
    have happ := htaken.app
    rw [hdead] at happ ⊢
    rw [types_eq_map happ, map_nil, append_nil]

theorem fits_halReady (hinv : s.Inv) (hinbox : s.inbox = .halReady :: inbox) {rc : ConfigReq → Bool}
    (hright : Right s (.receive regRc rc order)) :
    s.impl.cached.cachedMsgs s.impl.cached.mEngRunStateConfigMap = [] ∧
      types (s.pending ++ answered inbox) = [] := by
  obtain ⟨hreceive, hdue⟩ := receive_halReady hinbox regRc rc order
  have htaken := hinv.taken hinbox
  obtain ⟨sent, failed, hreqs, hmap, hunanswered, hout⟩ := halReady_spec htaken regRc rc order
  have htold := hright.told
  change (s.receive regRc rc order).2.Perm _ at htold
  rw [hreceive, hdue] at htold
  -- as many are told as were lost, so none is live and none has failed
  have hlength := (hout.symm.trans htold).length_eq
  have happ := htaken.app
  have hdead : types s.dead = s.dead.map (·.req.configType) :=
    types_eq_map fun request hrequest => happ request (mem_append_right _ hrequest)
  have hlive : types (s.pending ++ answered inbox) =
      (s.pending ++ answered inbox).map (·.req.configType) :=
    types_eq_map fun request hrequest => happ request (mem_append_left _ hrequest)
  change (List.map _ ((s.pending ++ answered inbox ++ s.dead).map _ ++ failed.map _)).length = _
    at hlength
  rw [hdead] at hlength
  simp only [length_map, length_append] at hlength
  have hlive0 : s.pending ++ answered inbox = [] := by
    rw [← length_eq_zero_iff, length_append]
    omega
  have hfailed : failed = [] := by
    rw [← length_eq_zero_iff]
    omega
  -- and nothing is counted
  have hsent : sent = [] := by
    have hcounted := hright.counted
    change ∀ t, ((s.receive regRc rc order).1.impl.mConfigReqCntMap t).getD 0 =
      (types (s.receive regRc rc order).1.unanswered).count t at hcounted
    rw [hreceive, hmap] at hcounted
    have hnone : types (halReady { s with inbox := inbox } regRc rc order).1.unanswered = [] := by
      refine ((types_perm hunanswered).trans (List.Perm.of_eq ?_)).eq_nil
      rw [types_append, types_resent, nil_append, hlive, hlive0]
      rfl
    rw [← map_eq_nil_iff (f := ConfigReq.configType), eq_nil_iff_forall_not_mem]
    intro t ht
    have hzero := hcounted t
    rw [getD_tally, hnone] at hzero
    exact count_eq_zero.mp (Int.ofNat.inj hzero) ht
  subst hfailed hsent
  exact ⟨hreqs.symm.eq_nil, by rw [hlive, hlive0]; rfl⟩

theorem inv_answer (hinv : s.Inv) (err : LocationError) : (s.answer err).Inv := by
  unfold answer
  split
  · exact hinv
  · next request pending hpending =>
      refine Inv.of_perm hinv.configCb ?_ hinv.app hinv.counted
      unfold unanswered
      rw [hpending, answered_append]
      show (pending ++ (answered s.inbox ++ [request]) ++ s.dead).Perm
        (request :: (pending ++ answered s.inbox ++ s.dead))
      simp only [append_assoc, singleton_append]
      rw [← append_assoc, ← append_assoc pending]
      exact perm_middle

theorem inv_die (hinv : s.Inv) : (s.step .die).1.Inv := by
  refine Inv.of_perm hinv.configCb ?_ hinv.app hinv.counted
  show ([] ++ answered s.inbox ++ (s.dead ++ s.pending)).Perm
    (s.pending ++ answered s.inbox ++ s.dead)
  rw [nil_append, ← append_assoc, append_assoc s.pending]
  exact perm_append_comm

theorem inv_start (hinv : s.Inv) : (s.step .start).1.Inv := by
  unfold step
  cases s.alive with
  | true => exact hinv
  | false =>
    refine Inv.of_perm hinv.configCb ?_ hinv.app hinv.counted
    show (s.pending ++ answered (s.inbox ++ [.halReady]) ++ s.dead).Perm s.unanswered
    rw [answered_append, answered_halReady, answered_nil, append_nil]
    exact List.Perm.refl _

theorem kept_and_told (hinv : s.Inv) (e : Event) (hfits : s.Fits e) :
    (s.step e).1.Inv ∧ (s.step e).2.Perm (s.due e) := by
  cases e with
  | call req rc => exact right_call hinv hfits
  | listenerReady rc =>
    refine ⟨⟨hinv.configCb, hinv.app, ?_⟩, List.Perm.refl _⟩
    show (s.impl.sendClientRegMsgToHalDaemon rc).mConfigReqCntMap = _
    rw [Impl.sendClientRegMsgToHalDaemon_mConfigReqCntMap]
    exact hinv.counted
  | receive regRc rc order =>
    show (s.receive regRc rc order).1.Inv ∧ (s.receive regRc rc order).2.Perm _
    cases hinbox : s.inbox with
    | nil =>
      unfold receive due
      rw [hinbox]
      exact ⟨hinv, List.Perm.refl _⟩
    | cons msg inbox =>
      cases msg with
      | halReady =>
        unfold Fits at hfits
        rw [hinbox] at hfits
        exact right_halReady hinv hinbox hfits.1 hfits.2
      | response request err => exact right_response hinv hinbox regRc rc order
  | answer err => exact ⟨inv_answer hinv err, List.Perm.refl _⟩
  | die => exact ⟨inv_die hinv, List.Perm.refl _⟩
  | start =>
    refine ⟨inv_start hinv, ?_⟩
    unfold step
    cases s.alive <;> exact List.Perm.refl _

theorem fits_of_right (e : Event) (hinv : s.Inv) (hright : Right s e) : s.Fits e := by
  cases e with
  | call req rc =>
    intro hreturns
    cases hqueues : s.mIntegrationCbs.queues req with
    | true => rfl
    | false =>
      have htold := hright.told
      change (s.call req rc).2.Perm _ at htold
      have hlost : (s.mIntegrationCbs.queues req && s.impl.sends rc) = false := by
        rw [hqueues]
        rfl
      rw [call_of_not_queues hqueues, due_call, if_pos ⟨hreturns, hlost⟩] at htold
      cases htold.symm.eq_nil
  | receive regRc rc order =>
    unfold Fits
    dsimp only
    split
    · next inbox hinbox => exact fits_halReady hinv hinbox hright
    · trivial
  | _ => trivial

end Steps

/-- In a run of a client with configCb, every step tells what is due and
keeps the counters, exactly if every step fits. -/
theorem answers_iff (mIntegrationCbs : LocIntegrationCbs) (hcb : mIntegrationCbs.configCb = true)
    (alive : Bool) (es : List Event) :
    StepsMeet step Right (init mIntegrationCbs alive) es ↔
      StepsMeet step Fits (init mIntegrationCbs alive) es := by
  have hinv : (init mIntegrationCbs alive).Inv :=
    ⟨hcb, fun _ h => absurd h not_mem_nil, rfl⟩
  refine stepsMeet_congr Inv (fun s e hs hfits => (kept_and_told hs e hfits).1) ?_ hinv es
  intro s e hs
  constructor
  · exact fits_of_right e hs
  · intro hfits
    obtain ⟨hnext, htold⟩ := kept_and_told hs e hfits
    exact hnext.right htold

/-- The order of the map as it is. -/
def asItIs : Walk := ⟨id, fun _ => List.Perm.refl _⟩

theorem answers_iff_one : StepsMeet step Right (init ⟨true, false, false, false, false⟩ true)
        [.listenerReady true, .call .gnssDeleteAidingData true, .answer .NOT_SUPPORTED,
          .receive true (fun _ => true) asItIs] ↔
      StepsMeet step Fits (init ⟨true, false, false, false, false⟩ true)
        [.listenerReady true, .call .gnssDeleteAidingData true, .answer .NOT_SUPPORTED,
          .receive true (fun _ => true) asItIs] :=
  answers_iff _ rfl true _

/-- A setting that was answered, and a restart: it is sent again, and its
answer is told as of a request that was not made. -/
def resent : List Event := [
  .listenerReady true, .call (.configPositionAssistedClockEstimator true) true,
  .answer .SUCCESS, .receive true (fun _ => true) asItIs,
  .die, .start, .receive true (fun _ => true) asItIs,
  .answer .SUCCESS, .receive true (fun _ => true) asItIs]

theorem not_right_resent :
    ¬ StepsMeet step Right (init ⟨true, false, false, false, false⟩ true) resent ∧
      outs step (init ⟨true, false, false, false, false⟩ true) resent =
        [(.CONFIG_POSITION_ASSISTED_CLOCK_ESTIMATOR, .SUCCESS),
          (.CONFIG_POSITION_ASSISTED_CLOCK_ESTIMATOR, .SUCCESS)] := by
  refine ⟨fun h => ?_, rfl⟩
  have hright := stepsMeet_iff.mp h (resent.take 6) (.receive true (fun _ => true) asItIs)
    (resent.drop 7) rfl
  have hcounted := hright.counted .CONFIG_POSITION_ASSISTED_CLOCK_ESTIMATOR
  exact absurd hcounted (by decide)

end Sys

end LocStack.Integration
