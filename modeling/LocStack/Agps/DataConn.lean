/-
# `LocStack.Agps.DataConn` — REQUEST and RELEASE on the framework's side

A machine asks the framework for a data connection with REQUEST and gives
it back with RELEASE.  The two need not alternate: a request the framework
refuses, and a connection the framework closes by itself, are over without a
RELEASE.  What alternates is REQUEST and *end*, where an end is a RELEASE, a
DENIED that finds the machine pending or a RELEASED that finds it acquired.
The ledger of a run lists these in order, with the requests routed to the
machine between them, and `ConnOk` is the automaton that reads it:

    no connection      REQUEST      a connection, with the type and mask asked for
    a connection       RELEASE      no connection
    a connection       refused or closed by the framework      no connection

Type and mask of a command are the machine's, and the machine's are those of
the last request routed to it.  So a RELEASE carries those of its REQUEST if
every request in between asked for the same.
-/
import LocStack.Agps.Routing

namespace LocStack.Agps

open Base List

/-- The command in an output, if it is one for the framework. -/
def AgpsOut.command? : AgpsOut → Option AGnssExtStatusIpV4
  | .frameworkStatusV4 status => some status
  | _ => none

/-- The commands sent to the framework, in order. -/
def commandsOf (out : List AgpsOut) : List AGnssExtStatusIpV4 := out.filterMap (·.command?)

@[simp] theorem commandsOf_nil : commandsOf [] = [] := rfl

@[simp] theorem commandsOf_append (out out' : List AgpsOut) :
    commandsOf (out ++ out') = commandsOf out ++ commandsOf out' :=
  filterMap_append

/-- REQUEST and RELEASE strictly alternate, from REQUEST, and a RELEASE
repeats the type and mask of its REQUEST; the first argument is the REQUEST
still open. -/
def Alternates : Option AGnssExtStatusIpV4 → List AGnssExtStatusIpV4 → Prop
  | _, [] => True
  | none, c :: cs => c.status = .requestAgpsDataConn ∧ Alternates (some c) cs
  | some q, c :: cs =>
    c.status = .releaseAgpsDataConn ∧ c.type = q.type ∧ c.apnTypeMask = q.apnTypeMask ∧
      Alternates none cs

instance decAlternates : ∀ (open? : Option AGnssExtStatusIpV4) (cs : List AGnssExtStatusIpV4),
    Decidable (Alternates open? cs)
  | none, [] => .isTrue trivial
  | some _, [] => .isTrue trivial
  | none, _ :: cs => @instDecidableAnd _ _ _ (decAlternates _ cs)
  | some _, _ :: cs =>
    @instDecidableAnd _ _ _
      (@instDecidableAnd _ _ _ (@instDecidableAnd _ _ _ (decAlternates none cs)))

/-! ## The ledger -/

/-- An entry of the ledger of a machine. -/
inductive ConnEntry where
  /-- a request is routed to the machine -/
  | asked (agpsType : AGpsExtType) (mask : LocApnTypeMask)
  /-- the framework refuses the connection, or closes it by itself -/
  | ended
  /-- the machine commands -/
  | command (c : AGnssExtStatusIpV4)

/-- A connection asked for and not ended: its REQUEST, and whether every
request since has asked for the same type and mask. -/
structure Conn where
  request : AGnssExtStatusIpV4
  sameSince : Bool

/-- A further request is made while the connection is there. -/
def Conn.ask (q : Conn) (agpsType : AGpsExtType) (mask : LocApnTypeMask) : Conn :=
  { q with sameSince := q.sameSince && (agpsType == q.request.type) &&
      (mask == q.request.apnTypeMask) }

/-- REQUESTs and ends alternate, from REQUEST, and a RELEASE after requests
for one type and mask only repeats them. -/
def ConnOk : Option Conn → List ConnEntry → Prop
  | _, [] => True
  | conn, .asked agpsType mask :: l => ConnOk (conn.map (·.ask agpsType mask)) l
  | conn, .ended :: l => conn.isSome = true ∧ ConnOk none l
  | none, .command c :: l =>
    c.status = .requestAgpsDataConn ∧ ConnOk (some { request := c, sameSince := true }) l
  | some q, .command c :: l =>
    c.status = .releaseAgpsDataConn ∧
      (q.sameSince = true → c.type = q.request.type ∧ c.apnTypeMask = q.request.apnTypeMask) ∧
      ConnOk none l

namespace AgpsStateMachine

/-- The framework ends the connection: it refuses one the machine waits for,
or closes one the machine has. -/
def EndedByFramework (sm : AgpsStateMachine) (e : SmEvent) : Prop :=
  (sm.mState = .pending ∧ e = .denied) ∨ (sm.mState = .acquired ∧ e = .released)
  deriving Decidable

/-- The request in an event. -/
def asksOf : SmEvent → List ConnEntry
  | .subscribe _ agpsType mask => [.asked agpsType mask]
  | _ => []

/-- The entries one event makes. -/
def entriesOf (sm : AgpsStateMachine) (e : SmEvent) : List ConnEntry :=
  asksOf e ++ (if sm.EndedByFramework e then [.ended] else []) ++
    (commandsOf (sm.step e).2).map .command

theorem entriesOf_subscribe (sm : AgpsStateMachine) (h : Int) (t : AGpsExtType)
    (mask : LocApnTypeMask) :
    sm.entriesOf (.subscribe h t mask) =
      .asked t mask :: (commandsOf (sm.step (.subscribe h t mask)).2).map .command := by
  simp [entriesOf, asksOf, EndedByFramework]

variable {sm : AgpsStateMachine} {e : SmEvent} {conn : Option Conn}

theorem entriesOf_quiet (hask : asksOf e = []) (hend : ¬ sm.EndedByFramework e) :
    sm.entriesOf e = (commandsOf (sm.step e).2).map .command := by
  simp [entriesOf, hask, hend]

theorem entriesOf_ended (hask : asksOf e = []) (hend : sm.EndedByFramework e) :
    sm.entriesOf e = .ended :: (commandsOf (sm.step e).2).map .command := by
  simp [entriesOf, hask, hend]

/-- The ledger of a run. -/
def ledger : AgpsStateMachine → List SmEvent → List ConnEntry
  | _, [] => []
  | sm, e :: es => sm.entriesOf e ++ ledger (sm.step e).1 es

/-- The commands of a ledger. -/
def ledgerCommands (l : List ConnEntry) : List AGnssExtStatusIpV4 :=
  l.filterMap fun entry => match entry with | .command c => some c | _ => none

theorem ledgerCommands_ledger (sm : AgpsStateMachine) (es : List SmEvent) :
    ledgerCommands (sm.ledger es) = commandsOf (outs step sm es) := by
  induction es generalizing sm with
  | nil => rfl
  | cons e es ih =>
    have hasks : ledgerCommands (asksOf e) = [] := by cases e <;> rfl
    have hended : ledgerCommands (if sm.EndedByFramework e then [.ended] else []) = [] := by
      split <;> rfl
    have hcmds : ledgerCommands ((commandsOf (sm.step e).2).map .command) =
        commandsOf (sm.step e).2 := by
      simp [ledgerCommands, filterMap_map]
    unfold ledgerCommands at hasks hended hcmds ih ⊢
    rw [ledger, entriesOf, outs_cons, commandsOf_append, filterMap_append,
      filterMap_append, filterMap_append, hasks, hended, hcmds, ih]
    rfl

/-! ## The machine keeps its ledger -/

/-- The connection of the ledger is the one the machine believes in. -/
structure Linked (conn : Option Conn) (sm : AgpsStateMachine) : Prop where
  isSome_iff : conn.isSome = true ↔ sm.mState = .pending ∨ sm.mState = .acquired
  same : ∀ q, conn = some q → q.sameSince = true →
    sm.mAgpsType = q.request.type ∧ sm.mApnTypeMask = q.request.apnTypeMask

@[simp] theorem commandsOf_statusFor (sm : AgpsStateMachine) (e : AgpsEvent)
    (l : List AgpsSubscriber) : commandsOf (l.flatMap (sm.statusFor e)) = [] := by
  induction l with
  | nil => rfl
  | cons s rest ih =>
    rw [flatMap_cons, commandsOf_append, ih, append_nil]
    cases e <;> rfl

@[simp] theorem commandsOf_statusFor_one (sm : AgpsStateMachine) (e : AgpsEvent)
    (s : AgpsSubscriber) : commandsOf (sm.statusFor e s) = [] := by
  cases e <;> rfl

@[simp] theorem commandsOf_requestOrRelease (sm : AgpsStateMachine) (request : Bool) :
    commandsOf (sm.requestOrReleaseDataConn request) =
      [{ type := sm.mAgpsType
         apnTypeMask := sm.mApnTypeMask
         status := if request then .requestAgpsDataConn else .releaseAgpsDataConn }] := rfl

/-- The end of a releasing machine: a REQUEST if somebody waits, nothing
otherwise. -/
theorem finishReleasing_keeps {l : List ConnEntry} :
    ∃ conn', Linked conn' sm.finishReleasing.1 ∧
      (ConnOk conn' l → ConnOk none ((commandsOf sm.finishReleasing.2).map .command ++ l)) := by
  rw [finishReleasing_eq]
  cases sm.anyActiveSubscribers with
  | true =>
    refine ⟨some ⟨⟨sm.mAgpsType, sm.mApnTypeMask, .requestAgpsDataConn⟩, true⟩,
      ⟨by simp, ?_⟩, fun h => ?_⟩
    · rintro q hq -
      cases hq
      exact ⟨rfl, rfl⟩
    · simpa [ConnOk] using h
  | false => exact ⟨none, ⟨by simp, by simp⟩, fun h => by simpa using h⟩

theorem linked_ask {q : Conn} {t : AGpsExtType} {mask : LocApnTypeMask}
    (hstate : sm.mState = .pending ∨ sm.mState = .acquired) (htype : sm.mAgpsType = t)
    (hmask : sm.mApnTypeMask = mask) : Linked (some (q.ask t mask)) sm := by
  refine ⟨iff_of_true rfl hstate, ?_⟩
  rintro q' hq' hsame
  cases hq'
  simp only [Conn.ask, Bool.and_eq_true, beq_iff_eq] at hsame
  exact ⟨htype.trans hsame.1.2, hmask.trans hsame.2⟩

/-- What one event adds to the ledger is what the automaton allows, and the
link is kept. -/
theorem linked_step (hwf : sm.WellFormed) (hl : Linked conn sm) (e : SmEvent) (l : List ConnEntry) :
    ∃ conn', Linked conn' (sm.step e).1 ∧
      (ConnOk conn' l → ConnOk conn (sm.entriesOf e ++ l)) := by
  -- a connection there is in exactly two of the states
  have hnone : sm.mState = .released ∨ sm.mState = .releasing → conn = none := by
    intro hst
    rw [← Option.not_isSome_iff_eq_none, hl.isSome_iff]
    rcases hst with hst | hst <;> simp [hst]
  have hsome : sm.mState = .pending ∨ sm.mState = .acquired → ∃ q, conn = some q :=
    fun hst => Option.isSome_iff_exists.mp (hl.isSome_iff.mpr hst)
  cases e with
  | subscribe h t mask =>
    rw [entriesOf_subscribe, step_subscribe]
    cases hst : sm.mState with
    | released =>
      obtain rfl := hnone (Or.inl hst)
      refine ⟨some ⟨⟨t, mask, .requestAgpsDataConn⟩, true⟩, ⟨by simp, ?_⟩, fun h => ?_⟩
      · rintro q hq -
        cases hq
        exact ⟨rfl, rfl⟩
      · simpa [ConnOk, withRequest] using h
    | releasing =>
      obtain rfl := hnone (Or.inr hst)
      exact ⟨none, ⟨by simp, by simp⟩, fun h => by simpa [ConnOk] using h⟩
    | pending =>
      obtain ⟨q, rfl⟩ := hsome (Or.inl hst)
      exact ⟨some (q.ask t mask), linked_ask (Or.inl rfl) rfl rfl,
        fun h => by simpa [ConnOk] using h⟩
    | acquired =>
      obtain ⟨q, rfl⟩ := hsome (Or.inr hst)
      exact ⟨some (q.ask t mask), linked_ask (Or.inr rfl) rfl rfl,
        fun h => by simpa [ConnOk] using h⟩
  | unsubscribe h =>
    rw [entriesOf_quiet rfl (by simp [EndedByFramework]), step_unsubscribe hwf]
    by_cases hh : h ∈ sm.handles
    · by_cases hgo : (sm.mState = .pending ∨ sm.mState = .acquired) ∧
          ({ sm with mSubscriberList := markInactive h sm.mSubscriberList } :
            AgpsStateMachine).anyActiveSubscribers = false
      · obtain ⟨q, rfl⟩ := hsome hgo.1
        refine ⟨none, ⟨by simp [hh, hgo], by simp⟩, fun h => ?_⟩
        simpa [hh, hgo, ConnOk, h] using fun hsame => hl.same q rfl hsame
      · refine ⟨conn, ?_, fun h => by simpa [hh, hgo] using h⟩
        simp only [if_pos hh, if_neg hgo]
        exact ⟨hl.isSome_iff, hl.same⟩
    · exact ⟨conn, by simpa [hh] using hl, fun h => by simpa [hh] using h⟩
  | granted apn apnLen bearerType =>
    rw [entriesOf_quiet rfl (by simp [EndedByFramework]), step_granted]
    have hreq := @withConnection_request sm apn apnLen bearerType
    by_cases hst : sm.mState = .pending
    · obtain ⟨q, rfl⟩ := hsome (Or.inl hst)
      refine ⟨some q, ?_, fun h => by simpa [hst] using h⟩
      simp only [if_pos hst]
      exact ⟨by simp, fun q' hq' hsame => by simpa [hreq] using hl.same q' hq' hsame⟩
    · refine ⟨conn, ?_, fun h => by simpa [hst] using h⟩
      simp only [if_neg hst]
      refine ⟨by rw [withConnection_mState]; exact hl.isSome_iff, ?_⟩
      rw [hreq.1, hreq.2]
      exact hl.same
  | released =>
    cases hst : sm.mState with
    | acquired =>
      obtain ⟨q, rfl⟩ := hsome (Or.inr hst)
      rw [entriesOf_ended rfl (Or.inr ⟨hst, rfl⟩), step_released, hst]
      exact ⟨none, ⟨by simp, by simp⟩, fun h => by simpa [ConnOk] using h⟩
    | releasing =>
      obtain rfl := hnone (Or.inr hst)
      rw [entriesOf_quiet rfl (by simp [EndedByFramework, hst]), step_released, hst]
      exact finishReleasing_keeps
    | released | pending =>
      rw [entriesOf_quiet rfl (by simp [EndedByFramework, hst]), step_released, hst]
      exact ⟨conn, hl, fun h => by simpa using h⟩
  | denied =>
    cases hst : sm.mState with
    | pending =>
      obtain ⟨q, rfl⟩ := hsome (Or.inl hst)
      rw [entriesOf_ended rfl (Or.inl ⟨hst, rfl⟩), step_denied, hst]
      exact ⟨none, ⟨by simp, by simp⟩, fun h => by simpa [ConnOk] using h⟩
    | releasing =>
      obtain rfl := hnone (Or.inr hst)
      rw [entriesOf_quiet rfl (by simp [EndedByFramework, hst]), step_denied, hst]
      exact finishReleasing_keeps
    | released | acquired =>
      rw [entriesOf_quiet rfl (by simp [EndedByFramework, hst]), step_denied, hst]
      exact ⟨conn, hl, fun h => by simpa using h⟩
  | modemSSR =>
    rw [entriesOf_quiet rfl (by simp [EndedByFramework]), step_modemSSR]
    exact ⟨conn, ⟨hl.isSome_iff, hl.same⟩, fun h => by simpa using h⟩

theorem connOk_ledger (hwf : sm.WellFormed) (hl : Linked conn sm) (es : List SmEvent) :
    ConnOk conn (sm.ledger es) := by
  induction es generalizing conn sm with
  | nil => cases conn <;> trivial
  | cons e es ih =>
    obtain ⟨conn', hl', hok⟩ := linked_step hwf hl e (ledger (sm.step e).1 es)
    exact hok (ih (wellFormed_step hwf e) hl')

end AgpsStateMachine

namespace AgpsManager

/-- For every run of the manager and each of its machines: the ledger of the
machine holds exactly the commands sent to the framework through it, and in
it REQUESTs alternate with RELEASEs and with the ends the framework makes. -/
theorem connOk_ledger_eventsOf (conf : GpsConf) (calls : List AgpsCall) (nif : Nif) :
    AgpsStateMachine.ledgerCommands
          ((AgpsStateMachine.new nif.agpsType).ledger (eventsOf nif (.new conf) calls)) =
        commandsOf (nifOuts nif (outs AgpsManager.step (.new conf) calls)) ∧
      ConnOk none
        ((AgpsStateMachine.new nif.agpsType).ledger (eventsOf nif (.new conf) calls)) := by
  refine ⟨?_, ?_⟩
  · rw [AgpsStateMachine.ledgerCommands_ledger, outs_nif]
  · exact AgpsStateMachine.connOk_ledger (AgpsStateMachine.wellFormed_new _)
      ⟨by simp [AgpsStateMachine.new], by simp⟩ _

/-- A refused request is followed by a second REQUEST; and a RELEASE after a
request with another mask carries that mask. -/
theorem not_alternates : ¬ Alternates none (commandsOf (nifOuts .agnss (outs AgpsManager.step
        (.new ⟨LOC_GPS_CAPABILITY_MSB, 0⟩)
        [.createAgpsStateMachines 7, .requestATL 1 LOC_AGPS_TYPE_SUPL LOC_APN_TYPE_MASK_SUPL,
          .reportAtlOpenFailed LOC_AGPS_TYPE_SUPL,
          .requestATL 1 LOC_AGPS_TYPE_SUPL LOC_APN_TYPE_MASK_SUPL]))) ∧
      ¬ Alternates none (commandsOf (nifOuts .agnss (outs AgpsManager.step
        (.new ⟨LOC_GPS_CAPABILITY_MSB, 0⟩)
        [.createAgpsStateMachines 7, .requestATL 1 LOC_AGPS_TYPE_SUPL LOC_APN_TYPE_MASK_SUPL,
          .requestATL 2 LOC_AGPS_TYPE_SUPL LOC_APN_TYPE_MASK_EMERGENCY,
          .releaseATL 1, .releaseATL 2]))) := by
  decide

end AgpsManager

end LocStack.Agps
