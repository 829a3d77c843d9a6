/-
# `LocStack.Batching.Docket` — is every batching command answered once?

The docket of the batching commands, as that of the tracking commands: what
each unanswered call, each message set aside and each response goes back to.
There are two places more where a message waits,

    parked      mPendingMsgs, until the engine is up
    disabled    mPendingGnssEnabledMsgs, until the engine lock is released

both of which are cleared when their messages are sent again.  So it is only
commands and answers of LocApi that may fail to see to one answer each, and
a run keeps `AnsweredOnce` exactly if they all do (`Fits`).

`answeredOnce_iff` is this for both dockets.
-/
import LocStack.Batching.Answers
import LocStack.Tracking.Docket

namespace LocStack.Batching

open Base List Option
open Adapter (EngineLockState)
open Tracking (LocationError LocationSessionKey)

/-! ## The docket -/

/-- A command is known by its place in `commands`. -/
structure Docket where
  adapter : BatchingAdapter
  /-- The sessions of the commands given so far. -/
  commands : List LocationSessionKey
  /-- The unanswered calls, with the commands they go back to. -/
  calls : List (Option Nat × ResponseFn)
  /-- The messages of mPendingMsgs. -/
  parked : List (Option Nat × BatchingMsg)
  /-- The messages of mPendingGnssEnabledMsgs. -/
  disabled : List (Option Nat × BatchingMsg)
  /-- The messages sent again that are not processed. -/
  queued : List (Option Nat × BatchingMsg)
  answers : List (Option Nat × (LocationSessionKey × LocationError))

inductive DocketEvent where
  /-- A message that is new, an answer, or whatever else happens. -/
  | event (e : BatchingEvent)
  /-- The message `n` of those sent again is processed. -/
  | resent (n : Nat)

namespace Docket

/-- Any adapter, with nothing known of the commands that led to it. -/
def of (s : BatchingAdapter) : Docket where
  adapter := s
  commands := []
  calls := s.unanswered.map (Prod.mk none)
  parked := s.mPendingMsgs.map (Prod.mk none)
  disabled := s.mPendingGnssEnabledMsgs.map (Prod.mk none)
  queued := []
  answers := []

variable (d : Docket)

/-- `t` is the adapter, with its output, when it has done what goes back to
the command `who`: calls and messages that are new, and responses, are of
`who`. -/
def handled (who : Option Nat) (t : BatchingAdapter × List Output) : Docket where
  adapter := t.1
  commands := d.commands
  calls := label d.calls who t.1.unanswered
  parked := label d.parked who t.1.mPendingMsgs
  disabled := label d.disabled who t.1.mPendingGnssEnabledMsgs
  queued := d.queued
  answers := d.answers ++ (t.2.filterMap Output.answer).map (Prod.mk who)

/-- The first messages of a place are sent again. -/
def requeue (place : List (Option Nat × BatchingMsg)) (out : List Output) :
    List (Option Nat × BatchingMsg) :=
  (place.map Prod.fst).zip (out.filterMap Output.resentMsg)

def process (who : Option Nat) (msg : BatchingMsg) : Docket :=
  d.handled who (Batching.step d.adapter (.proc msg))

def next : DocketEvent → Docket
  | .event (.proc msg) =>
    { d with commands := d.commands ++ [msg.session] }.process (some d.commands.length) msg
  | .event (.response n err data) =>
    { d with calls := d.calls.eraseIdx n }.handled (d.calls[n]?.bind Prod.fst)
      (Batching.step d.adapter (.response n err data))
  | .event .handleEngineUpEvent =>
    let t := Batching.step d.adapter .handleEngineUpEvent
    let again := requeue d.parked t.2
    { d with
      parked := d.parked.drop again.length
      queued := d.queued ++ again }.handled none t
  | .event (.engineLockState state) =>
    let t := Batching.step d.adapter (.engineLockState state)
    let again := requeue d.disabled t.2
    { d with
      disabled := d.disabled.drop again.length
      queued := d.queued ++ again }.handled none t
  | .event e => d.handled none (Batching.step d.adapter e)
  | .resent n =>
    match d.queued[n]? with
    | none => d
    | some x => { d with queued := d.queued.eraseIdx n }.process x.1 x.2

def step (e : DocketEvent) : Docket × List Output :=
  (d.next e, (match e with
    | .event e => (Batching.step d.adapter e).2
    | .resent _ => []))

/-! ## What is asked of it -/

/-- How often the command `c` has been answered. -/
def answered (c : Nat) : Nat := countOf (some c) (fun _ => true) d.answers

/-- The places where an answer to the command `c` is to come from. -/
def owed (c : Nat) : Nat :=
  countOf (some c) (fun fn => fn.session.isSome) d.calls +
    countOf (some c) (fun _ => true) d.parked +
    countOf (some c) (fun _ => true) d.disabled +
    countOf (some c) (fun _ => true) d.queued

/-- Every command is answered about its own session, and once: it has been,
or there is one place where the answer is to come from. -/
def AnsweredOnce : Prop :=
  ∀ c key, d.commands[c]? = some key →
    (∀ x ∈ d.answers, x.1 = some c → x.2.1 = key) ∧ d.answered c + d.owed c = 1

/-- Commands see to one answer, and so do the answers of LocApi to calls that
were made for commands. -/
def Fits : DocketEvent → Prop
  | .event (.proc msg) => d.adapter.Answers msg
  | .event (.response n err data) => ∀ x, d.calls[n]? = some x → x.1 ≠ none →
      d.adapter.PassesOn err (d.adapter.queried err data) x.2
  | .event _ => True
  | .resent n => ∀ x, d.queued[n]? = some x → x.1 ≠ none → d.adapter.Answers x.2

end Docket

/-! ## The docket and the adapter -/

namespace Docket

/-- Given and to come. -/
def balance (d : Docket) (c : Nat) : Nat := d.answered c + d.owed c

/-- The adapter `s`, at the beginning of an event, is that of the docket. -/
structure Starts (d : Docket) (s : BatchingAdapter) : Prop where
  calls : d.calls.map Prod.snd = s.unanswered
  parked : d.parked.map Prod.snd = s.mPendingMsgs
  disabled : d.disabled.map Prod.snd = s.mPendingGnssEnabledMsgs

/-- What has a label is about the session of the command that it names. -/
structure Labelled (d : Docket) : Prop where
  calls : Named d.commands (fun fn key => fn.About key) d.calls
  parked : Named d.commands (fun msg key => msg.session = key) d.parked
  disabled : Named d.commands (fun msg key => msg.session = key) d.disabled
  queued : Named d.commands (fun msg key => msg.session = key) d.queued
  answers : Named d.commands (fun x key => x.1 = key) d.answers

structure Synced (d : Docket) : Prop extends Labelled d where
  starts : d.Starts d.adapter

section Handled

variable {d : Docket} {who : Option Nat} {s : BatchingAdapter}
  {t : BatchingAdapter × List Output} {calls : List ResponseFn}
  {parked disabled : List BatchingMsg}

theorem handled_eq (hstarts : d.Starts s) (hgrows : Grows s t.1 calls parked disabled) :
    d.handled who t =
      { adapter := t.1
        commands := d.commands
        calls := d.calls ++ calls.map (Prod.mk who)
        parked := d.parked ++ parked.map (Prod.mk who)
        disabled := d.disabled ++ disabled.map (Prod.mk who)
        queued := d.queued
        answers := d.answers ++ (t.2.filterMap Output.answer).map (Prod.mk who) } := by
  have hcalls : t.1.unanswered = d.calls.map Prod.snd ++ calls := by
    rw [hgrows.unanswered, hstarts.calls]
  have hparked : t.1.mPendingMsgs = d.parked.map Prod.snd ++ parked := by
    rw [hgrows.pendingMsgs, hstarts.parked]
  have hdisabled : t.1.mPendingGnssEnabledMsgs = d.disabled.map Prod.snd ++ disabled := by
    rw [hgrows.pendingGnssEnabledMsgs, hstarts.disabled]
  unfold handled
  rw [label_eq hcalls, label_eq hparked, label_eq hdisabled]

theorem balance_handled (hstarts : d.Starts s) (hgrows : Grows s t.1 calls parked disabled)
    (c : Nat) :
    (d.handled who t).balance c =
      d.balance c + if who = some c then answersOf calls parked disabled t.2 else 0 := by
  rw [handled_eq hstarts hgrows]
  unfold balance answered owed answersOf
  dsimp only
  rw [countOf_append, countOf_append, countOf_append, countOf_append, countOf_map_mk,
    countOf_map_mk, countOf_map_mk, countOf_map_mk, countP_true, countP_true]
  split
  · omega
  · omega

theorem labelled_handled (key : LocationSessionKey) (hd : d.Labelled) (hstarts : d.Starts s)
    (hgrows : Grows s t.1 calls parked disabled)
    (hwho : ∀ c, who = some c → d.commands[c]? = some key ∧
      About key calls parked disabled t.2) : (d.handled who t).Labelled := by
  rw [handled_eq hstarts hgrows]
  constructor
  · exact hd.calls.append (named_map_mk fun c hc => ⟨(hwho c hc).1, (hwho c hc).2.calls⟩)
  · exact hd.parked.append (named_map_mk fun c hc => ⟨(hwho c hc).1, (hwho c hc).2.parked⟩)
  · exact hd.disabled.append (named_map_mk fun c hc => ⟨(hwho c hc).1, (hwho c hc).2.disabled⟩)
  · exact hd.queued
  · refine hd.answers.append (named_map_mk fun c hc => ⟨(hwho c hc).1, fun x hx => ?_⟩)
    obtain ⟨o, ho, hx⟩ := mem_filterMap.mp hx
    exact (hwho c hc).2.out o ho x hx

theorem synced_handled (hd : (d.handled who t).Labelled) (hstarts : d.Starts s)
    (hgrows : Grows s t.1 calls parked disabled) : (d.handled who t).Synced where
  toLabelled := hd
  starts :=
    { calls := map_snd_label calls (hstarts.calls ▸ hgrows.unanswered)
      parked := map_snd_label parked (hstarts.parked ▸ hgrows.pendingMsgs)
      disabled := map_snd_label disabled (hstarts.disabled ▸ hgrows.pendingGnssEnabledMsgs) }

end Handled

/-! ## An event -/

/-- From `d` to `d'`, the command `who` has been given or is to be given `n`
answers more. -/
structure Handled (d d' : Docket) (who : Option Nat) (n : Nat) : Prop where
  synced : d'.Synced
  commands : d'.commands = d.commands
  balance : ∀ c, d'.balance c = d.balance c + if who = some c then n else 0

section Event

variable {d : Docket} {who : Option Nat} {s : BatchingAdapter}
  {t : BatchingAdapter × List Output} {key : LocationSessionKey}

theorem handled_of_adds {n : Nat} (hd : d.Labelled) (hstarts : d.Starts s)
    (hwho : ∀ c, who = some c → d.commands[c]? = some key) (h : Adds key n s t) :
    Handled d (d.handled who t) who n := by
  obtain ⟨-, calls, parked, disabled, hgrows, habout, rfl⟩ := h
  have hlabelled : (d.handled who t).Labelled :=
    labelled_handled key hd hstarts hgrows fun c hc => ⟨hwho c hc, habout⟩
  exact ⟨synced_handled hlabelled hstarts hgrows, rfl, balance_handled hstarts hgrows⟩

theorem handled_of_grown (hd : d.Labelled) (hstarts : d.Starts s) (h : Grown s t.1) :
    Handled d (d.handled none t) none 0 := by
  obtain ⟨calls, parked, disabled, hgrows⟩ := h
  have hlabelled : (d.handled none t).Labelled :=
    labelled_handled ⟨0, 0⟩ hd hstarts hgrows fun c hc => absurd hc.symm (some_ne_none c)
  refine ⟨synced_handled hlabelled hstarts hgrows, rfl, fun c => ?_⟩
  have hnone : ¬ (none : Option Nat) = some c := fun h => nomatch h
  rw [balance_handled hstarts hgrows, if_neg hnone, if_neg hnone]

theorem handled_process (who : Option Nat) (msg : BatchingMsg) (hd : d.Synced)
    (hwho : ∀ c, who = some c → d.commands[c]? = some msg.session) :
    ∃ n, Handled d (d.process who msg) who n ∧ (n = 1 ↔ d.adapter.Answers msg) := by
  obtain ⟨n, hadds, hn⟩ := BatchingAdapter.once_proc (s := d.adapter) msg
  exact ⟨n, handled_of_adds hd.toLabelled hd.starts hwho hadds, hn⟩

end Event

/-! ## A step -/

section Step

variable {d d₀ d' : Docket} {who : Option Nat} {m n : Nat}

theorem answeredOnce_iff_balance (hd : d.Labelled) :
    d.AnsweredOnce ↔ ∀ c, c < d.commands.length → d.balance c = 1 := hd.answers.eachOnce_iff

theorem balance_fresh (hd : d.Labelled) : d.balance d.commands.length = 0 := by
  unfold balance answered owed
  rw [hd.calls.countOf_eq_zero (Nat.le_refl _), hd.parked.countOf_eq_zero (Nat.le_refl _),
    hd.disabled.countOf_eq_zero (Nat.le_refl _), hd.queued.countOf_eq_zero (Nat.le_refl _),
    hd.answers.countOf_eq_zero (Nat.le_refl _)]

theorem answeredOnce_iff_of_handled (h : Handled d₀ d' who n) (hd : d.Synced)
    (honce : d.AnsweredOnce) (hcommands : d₀.commands = d.commands)
    (hbefore : ∀ c, d.balance c = d₀.balance c + if who = some c then m else 0)
    (hwho : ∀ c, who = some c → ∃ key, d.commands[c]? = some key) :
    d'.AnsweredOnce ↔ (who ≠ none → n = m) := by
  rw [answeredOnce_iff_balance hd.toLabelled] at honce
  rw [answeredOnce_iff_balance h.synced.toLabelled, h.commands, hcommands]
  refine countsOnce_iff honce (fun c hc => ?_) hbefore h.balance
  obtain ⟨key, hkey⟩ := hwho c hc
  exact (List.getElem?_eq_some_iff.mp hkey).1

theorem answeredOnce_of_grown {s : BatchingAdapter} {t : BatchingAdapter × List Output}
    (hd : d.Synced) (honce : d.AnsweredOnce) (hd₀ : d₀.Labelled) (hstarts : d₀.Starts s)
    (hgrown : Grown s t.1) (hcommands : d₀.commands = d.commands)
    (hbefore : ∀ c, d.balance c = d₀.balance c) :
    (d₀.handled none t).Synced ∧ (d₀.handled none t).AnsweredOnce := by
  have hhandled := handled_of_grown hd₀ hstarts hgrown
  refine ⟨hhandled.synced, (answeredOnce_iff_of_handled (m := 0) hhandled hd honce hcommands
    (fun c => ?_) fun c h => absurd h.symm (some_ne_none c)).mpr fun h => absurd rfl h⟩
  rw [ite_self]
  exact hbefore c

theorem answeredOnce_command (msg : BatchingMsg) (hd : d.Synced) (honce : d.AnsweredOnce) :
    (d.next (.event (.proc msg))).Synced ∧
      ((d.next (.event (.proc msg))).AnsweredOnce ↔ d.Fits (.event (.proc msg))) := by
  have hd₀ : Synced { d with commands := d.commands ++ [msg.session] } :=
    { calls := hd.calls.concat msg.session
      parked := hd.parked.concat msg.session
      disabled := hd.disabled.concat msg.session
      queued := hd.queued.concat msg.session
      answers := hd.answers.concat msg.session
      starts := ⟨hd.starts.calls, hd.starts.parked, hd.starts.disabled⟩ }
  obtain ⟨n, hhandled, hn⟩ := handled_process (some d.commands.length) msg hd₀ fun c hc => by
    obtain rfl := some.inj hc
    exact List.getElem?_concat_length
  refine ⟨hhandled.synced, Iff.trans ?_ hn⟩
  have hsynced := hhandled.synced
  rw [answeredOnce_iff_balance hd.toLabelled] at honce
  unfold next
  rw [answeredOnce_iff_balance hsynced.toLabelled, hhandled.commands, length_append]
  exact countsOnce_concat_iff honce (balance_fresh hd.toLabelled) hhandled.balance

theorem answeredOnce_resent {i : Nat} {x : Option Nat × BatchingMsg} (hx : d.queued[i]? = some x)
    (hd : d.Synced) (honce : d.AnsweredOnce) :
    ({ d with queued := d.queued.eraseIdx i }.process x.1 x.2).Synced ∧
      (({ d with queued := d.queued.eraseIdx i }.process x.1 x.2).AnsweredOnce ↔
        (x.1 ≠ none → d.adapter.Answers x.2)) := by
  have hd₀ : Synced { d with queued := d.queued.eraseIdx i } :=
    { hd with
      queued := hd.queued.subset fun _ => mem_of_mem_eraseIdx
      starts := ⟨hd.starts.calls, hd.starts.parked, hd.starts.disabled⟩ }
  have hbefore : ∀ c, d.balance c = balance { d with queued := d.queued.eraseIdx i } c +
      if x.1 = some c then 1 else 0 := by
    intro c
    unfold balance answered owed
    dsimp only
    rw [countOf_eraseIdx hx (some c) fun _ => true]
    simp only [and_true]
    omega
  have hwho : ∀ c, x.1 = some c → d.commands[c]? = some x.2.session := by
    intro c hc
    obtain ⟨key, hkey, hsession⟩ := hd.queued x (mem_of_getElem? hx) c hc
    exact hsession ▸ hkey
  obtain ⟨n, hhandled, hn⟩ := handled_process x.1 x.2 hd₀ hwho
  refine ⟨hhandled.synced, Iff.trans ?_ (imp_congr_right fun _ => hn)⟩
  exact answeredOnce_iff_of_handled hhandled hd honce rfl hbefore fun c hc => ⟨_, hwho c hc⟩

theorem answeredOnce_response (i : Nat) (err : LocationError) (data : UInt32) (hd : d.Synced)
    (honce : d.AnsweredOnce) :
    (d.next (.event (.response i err data))).Synced ∧
      ((d.next (.event (.response i err data))).AnsweredOnce ↔
        d.Fits (.event (.response i err data))) := by
  have hplaces : (d.calls[i]?).map Prod.snd = d.adapter.unanswered[i]? := by
    rw [← List.getElem?_map, hd.starts.calls]
  cases hx : d.calls[i]? with
  | none =>
    rw [hx] at hplaces
    have hfn : d.adapter.unanswered[i]? = none := hplaces.symm
    have herase : d.calls.eraseIdx i = d.calls :=
      eraseIdx_of_length_le (List.getElem?_eq_none_iff.mp hx)
    have hnext : d.next (.event (.response i err data)) = d.handled none (d.adapter, []) := by
      simp only [next, hx, bind_none, herase, Batching.step, hfn]
    obtain ⟨hsynced, hafter⟩ := answeredOnce_of_grown (t := (d.adapter, [])) hd honce
      hd.toLabelled hd.starts (.of_eq rfl rfl rfl) rfl fun _ => rfl
    rw [hnext]
    refine ⟨hsynced, iff_of_true hafter ?_⟩
    intro x hx'
    rw [hx] at hx'
    cases hx'
  | some x =>
    rw [hx] at hplaces
    have hfn : d.adapter.unanswered[i]? = some x.2 := hplaces.symm
    have hnext : d.next (.event (.response i err data)) =
        handled { d with calls := d.calls.eraseIdx i } x.1
          ((d.adapter.answered i x.2 err).respond x.2 err (d.adapter.queried err data)) := by
      simp only [next, hx, bind_some, Batching.step, hfn]
    have hfits : d.Fits (.event (.response i err data)) ↔
        (x.1 ≠ none → d.adapter.PassesOn err (d.adapter.queried err data) x.2) := by
      constructor
      · intro h
        exact h x hx
      · intro h y hy
        obtain rfl := some.inj (hx.symm.trans hy)
        exact h
    have hd₀ : Labelled { d with calls := d.calls.eraseIdx i } :=
      { hd.toLabelled with calls := hd.calls.subset fun _ => mem_of_mem_eraseIdx }
    have hstarts : Starts { d with calls := d.calls.eraseIdx i }
        (d.adapter.answered i x.2 err) := by
      refine ⟨?_, hd.starts.parked, hd.starts.disabled⟩
      show (d.calls.eraseIdx i).map Prod.snd = d.adapter.unanswered.eraseIdx i
      rw [← eraseIdx_map, hd.starts.calls]
    have hbefore : ∀ c, d.balance c = balance { d with calls := d.calls.eraseIdx i } c +
        if x.1 = some c then (if x.2.session.isSome then 1 else 0) else 0 := by
      intro c
      unfold balance answered owed
      dsimp only
      rw [countOf_eraseIdx hx (some c) fun fn => fn.session.isSome, ite_and]
      omega
    rw [hnext, hfits]
    cases hc : x.1 with
    | none =>
      obtain ⟨hsynced, hafter⟩ := answeredOnce_of_grown hd honce hd₀ hstarts
        (BatchingAdapter.grown_respond x.2 err (d.adapter.queried err data)) rfl fun c => by
          rw [hbefore c, if_neg (hc ▸ (some_ne_none c).symm), Nat.add_zero]
      exact ⟨hsynced, iff_of_true hafter fun h => absurd rfl h⟩
    | some c =>
      obtain ⟨key, hfound, habout⟩ := hd.calls x (mem_of_getElem? hx) c hc
      obtain ⟨n, hadds, hn⟩ : ∃ n, Adds key n (d.adapter.answered i x.2 err)
          ((d.adapter.answered i x.2 err).respond x.2 err (d.adapter.queried err data)) ∧
          (n = (if x.2.session.isSome then 1 else 0) ↔
            d.adapter.PassesOn err (d.adapter.queried err data) x.2) := by
        cases hsession : x.2.session with
        | none =>
          exact ⟨0, BatchingAdapter.adds_respond hsession,
            iff_of_true rfl (BatchingAdapter.passesOn_of_session hsession)⟩
        | some key' =>
          obtain rfl := habout.session key' hsession
          exact BatchingAdapter.once_respond habout hsession
      have hwho : ∀ c', some c = some c' → d.commands[c']? = some key := by
        intro c' h
        exact some.inj h ▸ hfound
      have hhandled := handled_of_adds hd₀ hstarts hwho hadds
      rw [hc] at hbefore
      refine ⟨hhandled.synced,
        (answeredOnce_iff_of_handled hhandled hd honce rfl hbefore fun c' h => ?_).trans ?_⟩
      · exact ⟨key, hwho c' h⟩
      · exact imp_congr_right fun _ => hn

variable {place : List (Option Nat × BatchingMsg)}

theorem requeue_map_resent {msgs : List BatchingMsg} (h : place.map Prod.snd = msgs) :
    requeue place (msgs.map .resent) = place := by
  have hresent : (msgs.map Output.resent).filterMap Output.resentMsg = msgs := by
    rw [filterMap_map]
    exact filterMap_some
  unfold requeue
  rw [hresent, ← h]
  exact (zip_of_prod rfl rfl).symm

theorem requeue_nil : requeue place [] = [] :=
  zip_nil_right

theorem answeredOnce_engineUp (hd : d.Synced) (honce : d.AnsweredOnce) :
    (d.next (.event .handleEngineUpEvent)).Synced ∧
      (d.next (.event .handleEngineUpEvent)).AnsweredOnce := by
  by_cases hlock : d.adapter.engineLockState = .enabled
  · have hstep : Batching.step d.adapter .handleEngineUpEvent =
        ({ BatchingAdapter.restartSessions { d.adapter with
            engine := d.adapter.engine.stop, engineCapabilitiesKnown := true } with
          mPendingMsgs := [] }, d.adapter.mPendingMsgs.map .resent) := if_pos hlock
    have hagain := requeue_map_resent hd.starts.parked
    have hnext : d.next (.event .handleEngineUpEvent) = handled
        { d with parked := [], queued := d.queued ++ d.parked } none
          (Batching.step d.adapter .handleEngineUpEvent) := by
      simp only [next, hstep, hagain, drop_length]
    have hd₀ : Labelled { d with parked := [], queued := d.queued ++ d.parked } :=
      { hd.toLabelled with
        parked := named_nil
        queued := hd.queued.append hd.parked }
    have hstarts : Starts { d with parked := [], queued := d.queued ++ d.parked }
        { d.adapter with mPendingMsgs := [] } := ⟨hd.starts.calls, rfl, hd.starts.disabled⟩
    have hgrown : Grown { d.adapter with mPendingMsgs := [] }
        (Batching.step d.adapter .handleEngineUpEvent).1 := by
      obtain ⟨calls, parked, disabled, hgrows⟩ := BatchingAdapter.grown_restartSessions
        (s := { d.adapter with
          engine := d.adapter.engine.stop, engineCapabilitiesKnown := true })
      rw [hstep]
      exact ⟨calls, [], disabled, hgrows.unanswered, rfl, hgrows.pendingGnssEnabledMsgs⟩
    rw [hnext]
    refine answeredOnce_of_grown hd honce hd₀ hstarts hgrown rfl fun c => ?_
    unfold balance answered owed
    dsimp only
    rw [countOf_append, countOf_nil]
    omega
  · have hstep : Batching.step d.adapter .handleEngineUpEvent = ({ d.adapter with
          engine := d.adapter.engine.stop, engineCapabilitiesKnown := true }, []) := if_neg hlock
    have hnext : d.next (.event .handleEngineUpEvent) =
        d.handled none (Batching.step d.adapter .handleEngineUpEvent) := by
      simp only [next, hstep, requeue_nil, length_nil, drop_zero, append_nil]
    have hgrown : Grown d.adapter (Batching.step d.adapter .handleEngineUpEvent).1 := by
      rw [hstep]
      exact .of_eq rfl rfl rfl
    rw [hnext]
    exact answeredOnce_of_grown hd honce hd.toLabelled hd.starts hgrown rfl fun _ => rfl

theorem answeredOnce_engineLockState (state : EngineLockState) (hd : d.Synced)
    (honce : d.AnsweredOnce) :
    (d.next (.event (.engineLockState state))).Synced ∧
      (d.next (.event (.engineLockState state))).AnsweredOnce := by
  by_cases hlock : state = .enabled
  · have hstep : Batching.step d.adapter (.engineLockState state) =
        ({ d.adapter with engineLockState := state, mPendingGnssEnabledMsgs := [] },
          d.adapter.mPendingGnssEnabledMsgs.map .resent) := if_pos hlock
    have hagain := requeue_map_resent hd.starts.disabled
    have hnext : d.next (.event (.engineLockState state)) = handled
        { d with disabled := [], queued := d.queued ++ d.disabled } none
          (Batching.step d.adapter (.engineLockState state)) := by
      simp only [next, hstep, hagain, drop_length]
    have hd₀ : Labelled { d with disabled := [], queued := d.queued ++ d.disabled } :=
      { hd.toLabelled with
        disabled := named_nil
        queued := hd.queued.append hd.disabled }
    have hstarts : Starts { d with disabled := [], queued := d.queued ++ d.disabled }
        { d.adapter with mPendingGnssEnabledMsgs := [] } :=
      ⟨hd.starts.calls, hd.starts.parked, rfl⟩
    have hgrown : Grown { d.adapter with mPendingGnssEnabledMsgs := [] }
        (Batching.step d.adapter (.engineLockState state)).1 := by
      rw [hstep]
      exact .of_eq rfl rfl rfl
    rw [hnext]
    refine answeredOnce_of_grown hd honce hd₀ hstarts hgrown rfl fun c => ?_
    unfold balance answered owed
    dsimp only
    rw [countOf_append, countOf_nil]
    omega
  · have hstep : Batching.step d.adapter (.engineLockState state) =
        ({ d.adapter with engineLockState := state }, []) := if_neg hlock
    have hnext : d.next (.event (.engineLockState state)) =
        d.handled none (Batching.step d.adapter (.engineLockState state)) := by
      simp only [next, hstep, requeue_nil, length_nil, drop_zero, append_nil]
    have hgrown : Grown d.adapter (Batching.step d.adapter (.engineLockState state)).1 := by
      rw [hstep]
      exact .of_eq rfl rfl rfl
    rw [hnext]
    exact answeredOnce_of_grown hd honce hd.toLabelled hd.starts hgrown rfl fun _ => rfl

theorem answeredOnce_next (e : DocketEvent) (hd : d.Synced) (honce : d.AnsweredOnce) :
    (d.next e).Synced ∧ ((d.next e).AnsweredOnce ↔ d.Fits e) := by
  have hother : ∀ e, Grown d.adapter (Batching.step d.adapter e).1 →
      (d.handled none (Batching.step d.adapter e)).Synced ∧
        ((d.handled none (Batching.step d.adapter e)).AnsweredOnce ↔ True) := by
    intro e hgrown
    obtain ⟨hsynced, hafter⟩ := answeredOnce_of_grown hd honce hd.toLabelled hd.starts hgrown rfl
      fun _ => rfl
    exact ⟨hsynced, iff_true_intro hafter⟩
  cases e with
  | event e =>
    cases e with
    | addClient client callbacks =>
      exact hother (.addClient client callbacks) (.of_eq rfl rfl rfl)
    | removeClient client =>
      exact hother (.removeClient client) (BatchingAdapter.grown_removeClient client)
    | proc msg => exact answeredOnce_command msg hd honce
    | reportCompletedTrips accumulatedDistance =>
      exact hother (.reportCompletedTrips accumulatedDistance)
        (BatchingAdapter.grown_reportCompletedTrips accumulatedDistance)
    | engineLockState state =>
      obtain ⟨hsynced, hafter⟩ := answeredOnce_engineLockState state hd honce
      exact ⟨hsynced, iff_true_intro hafter⟩
    | handleEngineUpEvent =>
      obtain ⟨hsynced, hafter⟩ := answeredOnce_engineUp hd honce
      exact ⟨hsynced, iff_true_intro hafter⟩
    | response n err data => exact answeredOnce_response n err data hd honce
    | moved distance => exact hother (.moved distance) (.of_eq rfl rfl rfl)
  | resent n =>
    cases hx : d.queued[n]? with
    | none =>
      have hnext : d.next (.resent n) = d := by
        simp only [next, hx]
      rw [hnext]
      refine ⟨hd, iff_of_true honce fun x hx' => ?_⟩
      rw [hx] at hx'
      cases hx'
    | some x =>
      have hnext : d.next (.resent n) =
          { d with queued := d.queued.eraseIdx n }.process x.1 x.2 := by
        simp only [next, hx]
      obtain ⟨hsynced, hiff⟩ := answeredOnce_resent hx hd honce
      rw [hnext]
      refine ⟨hsynced, hiff.trans ⟨fun h y hy => ?_, fun h => h x hx⟩⟩
      obtain rfl := some.inj (hx.symm.trans hy)
      exact h

end Step

theorem synced_of (s : BatchingAdapter) : (of s).Synced where
  calls := named_none
  parked := named_none
  disabled := named_none
  queued := named_nil
  answers := named_nil
  starts := ⟨map_snd_mk none s.unanswered, map_snd_mk none s.mPendingMsgs,
    map_snd_mk none s.mPendingGnssEnabledMsgs⟩

/-- From any state of the adapter and through any run, the batching commands
are answered once each if and only if all steps fit. -/
theorem statesMeet_answeredOnce_iff (s : BatchingAdapter) (es : List DocketEvent) :
    StatesMeet step AnsweredOnce (of s) es ↔ StepsMeet step Fits (of s) es := by
  refine statesMeet_iff_stepsMeet_of_inv (fun d : Docket => d.Synced ∧ d.AnsweredOnce)
    (fun d h => h.2) (fun d e h hfits => ?_) (fun d e h hafter => ?_) ⟨synced_of s, ?_⟩ es
  · obtain ⟨hsynced, hiff⟩ := answeredOnce_next e h.1 h.2
    exact ⟨hsynced, hiff.mpr hfits⟩
  · exact (answeredOnce_next e h.1 h.2).2.mp hafter
  · intro c key hc
    cases hc

end Docket

/-! ## Which runs keep both in order -/

/-- Tracking and batching commands, given to any adapter in any run, are
answered once each if and only if every step of the run fits. -/
theorem answeredOnce_iff (a : Tracking.GnssAdapter) (es : List Tracking.DocketEvent)
    (s : BatchingAdapter) (fs : List DocketEvent) :
    (StatesMeet Tracking.Docket.step Tracking.Docket.AnsweredOnce (.of a) es ↔
      StepsMeet Tracking.Docket.step Tracking.Docket.Fits (.of a) es) ∧
    (StatesMeet Docket.step Docket.AnsweredOnce (.of s) fs ↔
      StepsMeet Docket.step Docket.Fits (.of s) fs) :=
  ⟨Tracking.Docket.statesMeet_answeredOnce_iff a es, Docket.statesMeet_answeredOnce_iff s fs⟩

/-- A client with all callbacks starts tracking with options whose size is 0. -/
def refusedStart : List Tracking.DocketEvent :=
  [.event (.proc (.addClient 1 .all)), .event (.proc (.startTracking ⟨1, 1⟩ .zero))]

/-- A trip becomes a routine session. -/
def updatedAlone : List DocketEvent :=
  let options := { BatchingOptions.default with
    size := 24, minInterval := 1000, minDistance := 1000, batchingMode := .trip }
  [.event (.addClient 7 ⟨true, true, true⟩), .event (.proc (.startBatching ⟨7, 1⟩ options)),
    .event (.response 0 .success 0),
    .event (.proc (.updateBatching ⟨7, 1⟩ { options with batchingMode := .routine })),
    .event (.response 0 .success 0), .event (.response 0 .success 0)]

/-- The start has no answer, nor is there a place where one is to come from.
The update is answered when the trip has stopped and when the routine session
has started. -/
theorem answeredOnce_fails :
    ¬ StatesMeet Tracking.Docket.step Tracking.Docket.AnsweredOnce (.of (.new true false true))
      refusedStart ∧
    ¬ StatesMeet Docket.step Docket.AnsweredOnce (.of .new) updatedAlone := by
  constructor
  · intro h
    have hlast := h.last
    have hbalance := (hlast 0 ⟨1, 1⟩ rfl).2
    revert hbalance
    decide
  · intro h
    have hlast := h.last
    have hbalance := (hlast 1 ⟨7, 1⟩ rfl).2
    revert hbalance
    decide

end LocStack.Batching
