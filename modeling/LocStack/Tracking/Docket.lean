/-
# `LocStack.Tracking.Docket` — is every tracking command answered once?

Until a command is answered it is in one place from which the answer is to
come:

    calls     an unanswered call whose closure responds, or goes on
    parked    mPendingMsgs, until the engine is up
    queued    sent again, and not yet processed

`Docket` keeps beside the adapter which command each of these goes back to,
and what was answered to whom.  `AnsweredOnce`: for every command, what it
has been answered and the places where an answer is to come from are one
together.  A step keeps this exactly if it `Fits`: commands and answers of
LocApi see to one answer each (`GnssAdapter.Answers`, `PassesOn`), and the
engine does not come up when a message that was sent again is still in
mPendingMsgs, which nobody clears.
-/
import LocStack.Base.Labelled
import LocStack.Tracking.Answers

namespace LocStack.Tracking

open Base List Option
open Adapter (EngineLockState)

/-! ## The docket -/

/-- A command is known by its place in `commands`. -/
structure Docket where
  adapter : GnssAdapter
  /-- The sessions of the commands given so far. -/
  commands : List LocationSessionKey
  /-- The unanswered calls, with the commands they go back to. -/
  calls : List (Option Nat × ResponseFn)
  /-- The messages of mPendingMsgs. -/
  parked : List (Option Nat × TrackingMsg)
  /-- How many of these have been sent again, and are still there. -/
  sent : Nat
  /-- The messages sent again that are not processed. -/
  queued : List (Option Nat × TrackingMsg)
  answers : List (Option Nat × (LocationSessionKey × LocationError))

inductive DocketEvent where
  /-- A message that is new, an answer, or a change of the engine lock. -/
  | event (e : TrackingEvent)
  /-- The message `n` of those sent again is processed. -/
  | resent (n : Nat)

namespace Docket

/-- Any adapter, with nothing known of the commands that led to it. -/
def of (a : GnssAdapter) : Docket where
  adapter := a
  commands := []
  calls := a.mLocApi.unanswered.map fun r => (none, r.fn)
  parked := a.mPendingMsgs.map fun msg => (none, msg)
  sent := 0
  queued := []
  answers := []

variable (d : Docket)

/-- `a` is the adapter when it has done what goes back to the command `who`:
calls and parked messages that are new, and responses, are of `who`. -/
def handled (who : Option Nat) (a : GnssAdapter) : Docket :=
  let resent := a.reports.filterMap Report.resentMsg
  { adapter := a
    commands := d.commands
    calls := label d.calls who (a.mLocApi.unanswered.map LocApiResponse.fn)
    parked := label d.parked who a.mPendingMsgs
    sent := max d.sent resent.length
    queued := d.queued ++ (d.parked.map Prod.fst).zip resent
    answers := d.answers ++ (a.reports.filterMap Report.answer).map (Prod.mk who) }

def process (who : Option Nat) (msg : TrackingMsg) : Docket :=
  d.handled who (d.adapter.next (.proc msg))

def next : DocketEvent → Docket
  | .event (.proc msg) =>
    match msg.session with
    | some key =>
      { d with commands := d.commands ++ [key] }.process (some d.commands.length) msg
    | none => d.process none msg
  | .event (.respond i err) =>
    { d with calls := d.calls.eraseIdx i }.handled (d.calls[i]?.bind Prod.fst)
      (d.adapter.next (.respond i err))
  | .event (.engineLockState state) => d.handled none (d.adapter.next (.engineLockState state))
  | .resent n =>
    match d.queued[n]? with
    | none => d
    | some x => { d with queued := d.queued.eraseIdx n }.process x.1 x.2

def step (e : DocketEvent) : Docket × List Report := (d.next e, (d.next e).adapter.reports)

/-! ## What is asked of it -/

/-- How often the command `c` has been answered. -/
def answered (c : Nat) : Nat := countOf (some c) (fun _ => true) d.answers

/-- The places where an answer to the command `c` is to come from. -/
def owed (c : Nat) : Nat :=
  countOf (some c) (fun fn => fn.session.isSome) d.calls +
    countOf (some c) (fun _ => true) (d.parked.drop d.sent) +
    countOf (some c) (fun _ => true) d.queued

/-- Every command is answered about its own session, and once: it has been,
or there is one place where the answer is to come from. -/
def AnsweredOnce : Prop :=
  ∀ c key, d.commands[c]? = some key →
    (∀ x ∈ d.answers, x.1 = some c → x.2.1 = key) ∧ d.answered c + d.owed c = 1

end Docket

namespace Docket

variable (d : Docket)

/-- When a message that was sent again is still in mPendingMsgs, the engine
does not come up. -/
def Resends (msg : TrackingMsg) : Prop :=
  msg = .engineUp → d.adapter.mLocApi.engineLockState = .enabled →
    ∀ x ∈ d.parked.take d.sent, x.1 = none

/-- Messages of no command are free to do anything else. -/
def Fits : DocketEvent → Prop
  | .event (.proc msg) => d.adapter.Answers msg ∧ d.Resends msg
  | .event (.respond i err) => ∀ x, d.calls[i]? = some x → x.1 ≠ none →
      d.adapter.PassesOn err x.2
  | .event (.engineLockState _) => True
  | .resent n => ∀ x, d.queued[n]? = some x →
      (x.1 ≠ none → d.adapter.Answers x.2) ∧ d.Resends x.2

end Docket

/-! ## The docket and the adapter -/

namespace Docket

/-- Given and to come. -/
def balance (d : Docket) (c : Nat) : Nat := d.answered c + d.owed c

/-- The adapter `a`, at the beginning of an event, is that of the docket. -/
structure Starts (d : Docket) (a : GnssAdapter) : Prop where
  calls : d.calls.map Prod.snd = a.mLocApi.unanswered.map LocApiResponse.fn
  parked : d.parked.map Prod.snd = a.mPendingMsgs
  reports : a.reports = []

/-- What has a label is about the session of the command that it names. -/
structure Labelled (d : Docket) : Prop where
  sent : d.sent ≤ d.parked.length
  calls : Named d.commands (fun fn key => ∀ key', fn.session = some key' → key' = key) d.calls
  parked : Named d.commands (fun msg key => msg.session = some key) d.parked
  queued : Named d.commands (fun msg key => msg.session = some key) d.queued
  answers : Named d.commands (fun x key => x.1 = key) d.answers

structure Synced (d : Docket) : Prop extends Labelled d where
  ofCalls : d.calls.map Prod.snd = d.adapter.mLocApi.unanswered.map LocApiResponse.fn
  ofParked : d.parked.map Prod.snd = d.adapter.mPendingMsgs

section Handled

variable {d : Docket} {who : Option Nat} {a b : GnssAdapter} {calls : List LocApiResponse}
  {parked : List TrackingMsg} {reports : List Report}

theorem handled_eq (hstarts : d.Starts a) (hgrows : Grows a b calls parked reports)
    (hresent : reports.filterMap Report.resentMsg = []) :
    d.handled who b =
      { adapter := b
        commands := d.commands
        calls := d.calls ++ (calls.map LocApiResponse.fn).map (Prod.mk who)
        parked := d.parked ++ parked.map (Prod.mk who)
        sent := d.sent
        queued := d.queued
        answers := d.answers ++ (reports.filterMap Report.answer).map (Prod.mk who) } := by
  have hcalls : b.mLocApi.unanswered.map LocApiResponse.fn =
      d.calls.map Prod.snd ++ calls.map LocApiResponse.fn := by
    rw [hgrows.unanswered, map_append, hstarts.calls]
  have hparked : b.mPendingMsgs = d.parked.map Prod.snd ++ parked := by
    rw [hgrows.pendingMsgs, hstarts.parked]
  have hreports : b.reports = reports := by
    rw [hgrows.reports, hstarts.reports, nil_append]
  unfold handled
  dsimp only
  rw [label_eq hcalls, label_eq hparked, hreports, hresent, zip_nil_right,
    append_nil, length_nil, Nat.max_eq_left (Nat.zero_le _)]

theorem balance_handled (hd : d.Labelled) (hstarts : d.Starts a)
    (hgrows : Grows a b calls parked reports)
    (hresent : reports.filterMap Report.resentMsg = []) (c : Nat) :
    (d.handled who b).balance c =
      d.balance c + if who = some c then answersOf calls parked reports else 0 := by
  rw [handled_eq hstarts hgrows hresent]
  unfold balance answered owed answersOf
  dsimp only
  rw [drop_append_of_le_length hd.sent, countOf_append, countOf_append, countOf_append,
    countOf_map_mk, countOf_map_mk, countOf_map_mk, countP_map, countP_true,
    countP_true]
  split
  · show _ = _ + (List.countP ((fun fn => fn.session.isSome) ∘ LocApiResponse.fn) calls + _ + _)
    omega
  · omega

theorem labelled_handled (key : LocationSessionKey) (hd : d.Labelled) (hstarts : d.Starts a)
    (hgrows : Grows a b calls parked reports)
    (hresent : reports.filterMap Report.resentMsg = [])
    (hwho : ∀ c, who = some c → d.commands[c]? = some key ∧ About key calls parked reports) :
    (d.handled who b).Labelled := by
  rw [handled_eq hstarts hgrows hresent]
  constructor
  · exact hd.sent.trans (length_append ▸ Nat.le_add_right _ _)
  · refine hd.calls.append (named_map_mk fun c hc => ⟨(hwho c hc).1, ?_⟩)
    exact forall_mem_map.mpr (hwho c hc).2.calls
  · exact hd.parked.append (named_map_mk fun c hc => ⟨(hwho c hc).1, (hwho c hc).2.parked⟩)
  · exact hd.queued
  · refine hd.answers.append (named_map_mk fun c hc => ⟨(hwho c hc).1, fun x hx => ?_⟩)
    obtain ⟨r, hr, hx⟩ := mem_filterMap.mp hx
    exact ((hwho c hc).2.reports r hr).2 x hx

theorem synced_handled (hd : (d.handled who b).Labelled) (hstarts : d.Starts a)
    (hgrows : Grows a b calls parked reports) : (d.handled who b).Synced where
  toLabelled := hd
  ofCalls := by
    refine map_snd_label (calls.map LocApiResponse.fn) ?_
    rw [hgrows.unanswered, map_append, hstarts.calls]
  ofParked := by
    refine map_snd_label parked ?_
    rw [hgrows.pendingMsgs, hstarts.parked]

end Handled

/-! ## An event -/

/-- From `d` to `d'`, the command `who` has been given or is to be given `n`
answers more. -/
structure Handled (d d' : Docket) (who : Option Nat) (n : Nat) : Prop where
  synced : d'.Synced
  commands : d'.commands = d.commands
  balance : ∀ c, d'.balance c = d.balance c + if who = some c then n else 0

section Event

variable {d : Docket} {who : Option Nat} {a b : GnssAdapter} {key : LocationSessionKey}

theorem handled_of_adds {n : Nat} (hd : d.Labelled) (hstarts : d.Starts a)
    (hwho : ∀ c, who = some c → d.commands[c]? = some key) (h : Adds key n a b) :
    Handled d (d.handled who b) who n := by
  obtain ⟨-, calls, parked, reports, hgrows, habout, rfl⟩ := h
  have hresent : reports.filterMap Report.resentMsg = [] :=
    filterMap_eq_nil_iff.mpr fun r hr => (habout.reports r hr).1
  have hlabelled : (d.handled who b).Labelled :=
    labelled_handled key hd hstarts hgrows hresent fun c hc => ⟨hwho c hc, habout⟩
  exact ⟨synced_handled hlabelled hstarts hgrows, rfl, balance_handled hd hstarts hgrows hresent⟩

theorem handled_of_grown (hd : d.Labelled) (hstarts : d.Starts a) (h : Grown a b) :
    Handled d (d.handled none b) none 0 := by
  obtain ⟨calls, parked, reports, hgrows, hreports⟩ := h
  have hresent : reports.filterMap Report.resentMsg = [] :=
    filterMap_eq_nil_iff.mpr hreports
  have hlabelled : (d.handled none b).Labelled :=
    labelled_handled ⟨0, 0⟩ hd hstarts hgrows hresent fun c hc => absurd hc.symm (some_ne_none c)
  refine ⟨synced_handled hlabelled hstarts hgrows, rfl, fun c => ?_⟩
  have hnone : ¬ (none : Option Nat) = some c := fun h => nomatch h
  rw [balance_handled hd hstarts hgrows hresent, if_neg hnone, if_neg hnone]

theorem handled_process (who : Option Nat) (msg : TrackingMsg) (hd : d.Synced)
    (hmsg : msg ≠ .engineUp)
    (hwho : ∀ c, who = some c → d.commands[c]? = msg.session ∧ msg.session ≠ none) :
    ∃ n, Handled d (d.process who msg) who n ∧ (who ≠ none → (n = 1 ↔ d.adapter.Answers msg)) := by
  have hstarts : d.Starts (d.adapter.begin msg) := ⟨hd.ofCalls, hd.ofParked, rfl⟩
  cases hkey : msg.session with
  | some key =>
    obtain ⟨n, hadds, hn⟩ := GnssAdapter.once_procMsg (a := d.adapter.begin msg) hkey
    refine ⟨n, handled_of_adds hd.toLabelled hstarts (fun c hc => ?_) hadds, fun _ => hn⟩
    rw [(hwho c hc).1, hkey]
  | none =>
    have hnone : who = none := by
      cases who with
      | none => rfl
      | some c => exact absurd hkey (hwho c rfl).2
    subst hnone
    refine ⟨0, handled_of_grown hd.toLabelled hstarts ?_, fun h => absurd rfl h⟩
    cases msg with
    | addClient client callbacks =>
      exact ⟨[], [], [], ⟨(append_nil _).symm, (append_nil _).symm,
        (append_nil _).symm⟩, forall_mem_nil _⟩
    | removeClient client => exact GnssAdapter.grown_removeClientCommand client
    | engineUp => exact absurd rfl hmsg
    | _ => cases hkey

theorem handled_resending (hd : d.Synced) (hstarts : d.Starts a) {calls : List LocApiResponse}
    (hgrows : Grows a b calls [] (a.mPendingMsgs.map .resent)) :
    d.handled none b =
      { adapter := b
        commands := d.commands
        calls := d.calls ++ (calls.map LocApiResponse.fn).map (Prod.mk none)
        parked := d.parked
        sent := d.parked.length
        queued := d.queued ++ d.parked
        answers := d.answers } := by
  have hcalls : b.mLocApi.unanswered.map LocApiResponse.fn =
      d.calls.map Prod.snd ++ calls.map LocApiResponse.fn := by
    rw [hgrows.unanswered, map_append, hstarts.calls]
  have hparked : b.mPendingMsgs = d.parked.map Prod.snd ++ [] := by
    rw [hgrows.pendingMsgs, hstarts.parked]
  have hreports : b.reports = (d.parked.map Prod.snd).map .resent := by
    rw [hgrows.reports, hstarts.reports, nil_append, hstarts.parked]
  have hresent : b.reports.filterMap Report.resentMsg = d.parked.map Prod.snd := by
    rw [hreports, filterMap_map]
    exact filterMap_some
  have hanswers : b.reports.filterMap Report.answer = [] := by
    rw [hreports, filterMap_map]
    exact filterMap_eq_nil_iff.mpr fun msg _ => rfl
  have hzip : (d.parked.map Prod.fst).zip (d.parked.map Prod.snd) = d.parked :=
    (zip_of_prod rfl rfl).symm
  have hsent : max d.sent d.parked.length = d.parked.length := Nat.max_eq_right hd.sent
  unfold handled
  dsimp only
  rw [label_eq hcalls, label_eq hparked, hresent, hanswers, hzip, length_map, hsent,
    map_nil, map_nil, append_nil, append_nil]

theorem process_engineUp (hd : d.Synced) :
    (d.process none .engineUp).Synced ∧ (d.process none .engineUp).commands = d.commands ∧
      ∀ c, (d.process none .engineUp).balance c =
        d.balance c + if d.adapter.mLocApi.engineLockState = .enabled then
          countOf (some c) (fun _ => true) (d.parked.take d.sent) else 0 := by
  have hstarts : d.Starts (d.adapter.begin .engineUp) := ⟨hd.ofCalls, hd.ofParked, rfl⟩
  obtain ⟨calls, hgrows⟩ := GnssAdapter.grows_handleEngineUpEvent (a := d.adapter.begin .engineUp)
  by_cases hlock : d.adapter.mLocApi.engineLockState = .enabled
  · replace hgrows : Grows _ _ calls [] (d.adapter.mPendingMsgs.map .resent) :=
      (if_pos hlock : ite _ (d.adapter.mPendingMsgs.map Report.resent) [] = _) ▸ hgrows
    have heq : d.process none .engineUp = _ := handled_resending hd hstarts hgrows
    have hlabelled : (d.process none .engineUp).Labelled := by
      rw [heq]
      exact ⟨Nat.le_refl _, hd.calls.append named_none, hd.parked, hd.queued.append hd.parked,
        hd.answers⟩
    refine ⟨synced_handled hlabelled hstarts hgrows, rfl, fun c => ?_⟩
    have hnone : ¬ (none : Option Nat) = some c := fun h => nomatch h
    have hsplit : countOf (some c) (fun _ => true) d.parked =
        countOf (some c) (fun _ => true) (d.parked.take d.sent) +
          countOf (some c) (fun _ => true) (d.parked.drop d.sent) := by
      rw [← countOf_append, take_append_drop]
    rw [if_pos hlock, heq]
    unfold balance answered owed
    dsimp only
    rw [countOf_append, countOf_append, countOf_map_mk, if_neg hnone, drop_length,
      countOf_nil, hsplit]
    omega
  · replace hgrows : Grows _ _ calls [] [] :=
      (if_neg hlock : ite _ (d.adapter.mPendingMsgs.map Report.resent) [] = _) ▸ hgrows
    have hhandled := handled_of_grown hd.toLabelled hstarts
      ⟨calls, [], [], hgrows, forall_mem_nil _⟩
    refine ⟨hhandled.synced, rfl, fun c => ?_⟩
    rw [if_neg hlock]
    exact (hhandled.balance c).trans (congrArg _ (if_neg fun h => nomatch h))

end Event

/-! ## A step -/

section Step

variable {d d₀ d' : Docket} {who : Option Nat} {m n : Nat}

theorem answeredOnce_iff_balance (hd : d.Labelled) :
    d.AnsweredOnce ↔ ∀ c, c < d.commands.length → d.balance c = 1 := hd.answers.eachOnce_iff

theorem balance_fresh (hd : d.Labelled) : d.balance d.commands.length = 0 := by
  have hparked : Named d.commands (fun msg key => msg.session = some key)
      (d.parked.drop d.sent) := hd.parked.subset fun x hx => mem_of_mem_drop hx
  unfold balance answered owed
  rw [hd.calls.countOf_eq_zero (Nat.le_refl _), hparked.countOf_eq_zero (Nat.le_refl _),
    hd.queued.countOf_eq_zero (Nat.le_refl _), hd.answers.countOf_eq_zero (Nat.le_refl _)]

theorem answeredOnce_iff_of_handled (h : Handled d₀ d' who n) (hd : d.Synced)
    (honce : d.AnsweredOnce) (hcommands : d₀.commands = d.commands)
    (hbefore : ∀ c, d.balance c = d₀.balance c + if who = some c then m else 0)
    (hwho : ∀ c, who = some c → ∃ key, d.commands[c]? = some key) :
    d'.AnsweredOnce ↔ (who ≠ none → n = m) := by
  rw [answeredOnce_iff_balance hd.toLabelled] at honce
  rw [answeredOnce_iff_balance h.synced.toLabelled, h.commands, hcommands]
  refine countsOnce_iff honce (fun c hc => ?_) hbefore h.balance
  obtain ⟨key, hkey⟩ := hwho c hc
  exact (List.getElem?_eq_some_iff.mp hkey).1

theorem answeredOnce_of_none (h : Handled d d' none n) (hd : d.Synced) (honce : d.AnsweredOnce) :
    d'.AnsweredOnce :=
  (answeredOnce_iff_of_handled (m := 0) h hd honce rfl (fun _ => (ite_self 0).symm ▸ rfl)
    fun c h => absurd h.symm (some_ne_none c)).mpr fun h => absurd rfl h

theorem answeredOnce_engineUp (hd : d.Synced) (honce : d.AnsweredOnce) :
    (d.process none .engineUp).AnsweredOnce ↔ d.Resends .engineUp := by
  obtain ⟨hsynced, hcommands, hbalance⟩ := process_engineUp hd
  rw [answeredOnce_iff_balance hd.toLabelled] at honce
  rw [answeredOnce_iff_balance hsynced.toLabelled, hcommands]
  constructor
  · intro hafter _ hlock x hx
    by_contra hne
    obtain ⟨c, hc⟩ := ne_none_iff_exists'.mp hne
    obtain ⟨key, hkey, -⟩ := hd.parked x (mem_of_mem_take hx) c hc
    obtain ⟨hlt, -⟩ := List.getElem?_eq_some_iff.mp hkey
    have hbal := hbalance c
    rw [if_pos hlock, hafter c hlt, honce c hlt] at hbal
    have hpos := countOf_pos hx hc
    omega
  · intro hresends c hc
    rw [hbalance c, honce c hc]
    split
    · rename_i hlock
      have hnone : countOf (some c) (fun _ => true) (d.parked.take d.sent) = 0 := by
        refine countOf_eq_zero fun x hx hlabel => ?_
        rw [hresends rfl hlock x hx] at hlabel
        cases hlabel
      rw [hnone]
    · rfl

variable {msg : TrackingMsg} {key : LocationSessionKey}

theorem resends_of_ne (hmsg : msg ≠ .engineUp) : d.Resends msg :=
  fun h => absurd h hmsg

theorem ne_engineUp_of_session (hkey : msg.session = some key) : msg ≠ .engineUp := by
  rintro rfl
  cases hkey

theorem answeredOnce_command (hkey : msg.session = some key) (hd : d.Synced)
    (honce : d.AnsweredOnce) :
    ({ d with commands := d.commands ++ [key] }.process (some d.commands.length) msg).Synced ∧
      (({ d with commands := d.commands ++ [key] }.process (some d.commands.length)
        msg).AnsweredOnce ↔ d.adapter.Answers msg) := by
  have hnew : (d.commands ++ [key])[d.commands.length]? = some key := List.getElem?_concat_length
  have hd₀ : Synced { d with commands := d.commands ++ [key] } :=
    { sent := hd.sent
      calls := hd.calls.concat key
      parked := hd.parked.concat key
      queued := hd.queued.concat key
      answers := hd.answers.concat key
      ofCalls := hd.ofCalls
      ofParked := hd.ofParked }
  obtain ⟨n, hhandled, hn⟩ := handled_process (some d.commands.length) msg hd₀
    (ne_engineUp_of_session hkey) fun c hc => by
      obtain rfl := some.inj hc
      exact ⟨hnew.trans hkey.symm, hkey ▸ some_ne_none key⟩
  refine ⟨hhandled.synced, Iff.trans ?_ (hn (some_ne_none _))⟩
  rw [answeredOnce_iff_balance hd.toLabelled] at honce
  rw [answeredOnce_iff_balance hhandled.synced.toLabelled, hhandled.commands, length_append]
  exact countsOnce_concat_iff honce (balance_fresh hd.toLabelled) hhandled.balance

theorem answeredOnce_other (msg : TrackingMsg) (hd : d.Synced) (honce : d.AnsweredOnce) :
    (d.process none msg).Synced ∧ ((d.process none msg).AnsweredOnce ↔ d.Resends msg) := by
  by_cases hmsg : msg = .engineUp
  · subst hmsg
    exact ⟨(process_engineUp hd).1, answeredOnce_engineUp hd honce⟩
  · obtain ⟨n, hhandled, -⟩ := handled_process none msg hd hmsg
      fun c hc => absurd hc.symm (some_ne_none c)
    exact ⟨hhandled.synced, iff_of_true (answeredOnce_of_none hhandled hd honce)
      (resends_of_ne hmsg)⟩

theorem answeredOnce_resent {i : Nat} {x : Option Nat × TrackingMsg} (hx : d.queued[i]? = some x)
    (hd : d.Synced) (honce : d.AnsweredOnce) :
    ({ d with queued := d.queued.eraseIdx i }.process x.1 x.2).Synced ∧
      (({ d with queued := d.queued.eraseIdx i }.process x.1 x.2).AnsweredOnce ↔
        (x.1 ≠ none → d.adapter.Answers x.2) ∧ d.Resends x.2) := by
  have hd₀ : Synced { d with queued := d.queued.eraseIdx i } :=
    { hd with queued := hd.queued.subset fun _ => mem_of_mem_eraseIdx }
  have hbefore : ∀ c, d.balance c = balance { d with queued := d.queued.eraseIdx i } c +
      if x.1 = some c then 1 else 0 := by
    intro c
    unfold balance answered owed
    dsimp only
    rw [countOf_eraseIdx hx (some c) fun _ => true]
    simp only [and_true]
    omega
  have hfound := hd.queued x (mem_of_getElem? hx)
  cases hwho : x.1 with
  | none =>
    have honce₀ : AnsweredOnce { d with queued := d.queued.eraseIdx i } := by
      rw [answeredOnce_iff_balance hd.toLabelled] at honce
      refine (answeredOnce_iff_balance hd₀.toLabelled).mpr fun c hc => ?_
      have hbal := hbefore c
      rw [if_neg (hwho ▸ (some_ne_none c).symm), honce c hc] at hbal
      exact hbal.symm
    obtain ⟨hsynced, hiff⟩ := answeredOnce_other x.2 hd₀ honce₀
    exact ⟨hsynced, hiff.trans (and_iff_right fun h => absurd rfl h).symm⟩
  | some c =>
    obtain ⟨key, hkey, hsession⟩ := hfound c hwho
    have hmsg := ne_engineUp_of_session hsession
    obtain ⟨n, hhandled, hn⟩ := handled_process (some c) x.2 hd₀ hmsg fun c' hc' => by
      obtain rfl := some.inj hc'
      exact ⟨hkey.trans hsession.symm, hsession ▸ some_ne_none key⟩
    rw [hwho] at hbefore
    refine ⟨hhandled.synced,
      (answeredOnce_iff_of_handled hhandled hd honce rfl hbefore fun c' hc' => ?_).trans ?_⟩
    · exact ⟨key, some.inj hc' ▸ hkey⟩
    · rw [and_iff_left (resends_of_ne hmsg)]
      exact forall_congr' hn

theorem answeredOnce_respond (i : Nat) (err : LocationError) (hd : d.Synced)
    (honce : d.AnsweredOnce) :
    (d.next (.event (.respond i err))).Synced ∧ ((d.next (.event (.respond i err))).AnsweredOnce ↔
        d.Fits (.event (.respond i err))) := by
  have hplaces : (d.calls[i]?).map Prod.snd = (d.adapter.mLocApi.unanswered[i]?).map
      LocApiResponse.fn := by
    rw [← List.getElem?_map, hd.ofCalls, List.getElem?_map]
  cases hx : d.calls[i]? with
  | none =>
    rw [hx] at hplaces
    have hr : d.adapter.mLocApi.unanswered[i]? = none :=
      map_eq_none_iff.mp hplaces.symm
    have herase : d.calls.eraseIdx i = d.calls :=
      eraseIdx_of_length_le (List.getElem?_eq_none_iff.mp hx)
    have hnext : d.next (.event (.respond i err)) =
        d.handled none { d.adapter with reports := [] } := by
      simp only [next, hx, bind_none, herase, GnssAdapter.next, hr]
    have hstarts : d.Starts { d.adapter with reports := [] } := ⟨hd.ofCalls, hd.ofParked, rfl⟩
    have hhandled := handled_of_grown hd.toLabelled hstarts .refl
    rw [hnext]
    refine ⟨hhandled.synced, iff_of_true (answeredOnce_of_none hhandled hd honce) ?_⟩
    intro x hx'
    rw [hx] at hx'
    cases hx'
  | some x =>
    rw [hx] at hplaces
    obtain ⟨r, hr, hfn⟩ := map_eq_some_iff.mp hplaces.symm
    have hnext : d.next (.event (.respond i err)) =
        handled { d with calls := d.calls.eraseIdx i } x.1
          ((d.adapter.take i r).procResponse err x.2) := by
      simp only [next, hx, bind_some, GnssAdapter.next, hr, hfn]
    have hfits : d.Fits (.event (.respond i err)) ↔
        (x.1 ≠ none → d.adapter.PassesOn err x.2) := by
      constructor
      · intro h
        exact h x hx
      · intro h y hy
        obtain rfl := some.inj (hx.symm.trans hy)
        exact h
    have hd₀ : Labelled { d with calls := d.calls.eraseIdx i } :=
      { hd.toLabelled with calls := hd.calls.subset fun _ => mem_of_mem_eraseIdx }
    have hstarts : Starts { d with calls := d.calls.eraseIdx i } (d.adapter.take i r) := by
      refine ⟨?_, hd.ofParked, rfl⟩
      show (d.calls.eraseIdx i).map Prod.snd =
        (d.adapter.mLocApi.unanswered.eraseIdx i).map LocApiResponse.fn
      rw [← eraseIdx_map, ← eraseIdx_map, hd.ofCalls]
    have hbefore : ∀ c, d.balance c = balance { d with calls := d.calls.eraseIdx i } c +
        if x.1 = some c then (if x.2.session.isSome then 1 else 0) else 0 := by
      intro c
      unfold balance answered owed
      dsimp only
      rw [countOf_eraseIdx hx (some c) fun fn => fn.session.isSome, ite_and]
      omega
    obtain ⟨key, hwho, hkey⟩ : ∃ key, (∀ c, x.1 = some c → d.commands[c]? = some key) ∧
        ∀ key', x.2.session = some key' → key' = key := by
      cases hc : x.1 with
      | none =>
        refine ⟨x.2.session.getD ⟨0, 0⟩, ?_, fun key' h => ?_⟩
        · intro c h
          cases h
        · rw [h]
          rfl
      | some c =>
        obtain ⟨key, hfound, hkey⟩ := hd.calls x (mem_of_getElem? hx) c hc
        exact ⟨key, fun c' h => some.inj h ▸ hfound, hkey⟩
    obtain ⟨n, hadds, hn⟩ : ∃ n, Adds key n (d.adapter.take i r)
        ((d.adapter.take i r).procResponse err x.2) ∧
        (n = (if x.2.session.isSome then 1 else 0) ↔ d.adapter.PassesOn err x.2) := by
      cases hsession : x.2.session with
      | none =>
        exact ⟨0, GnssAdapter.adds_procResponse hsession,
          iff_of_true rfl (GnssAdapter.passesOn_of_session hsession)⟩
      | some key' =>
        obtain rfl := hkey key' hsession
        exact GnssAdapter.once_procResponse hsession
    have hhandled := handled_of_adds hd₀ hstarts hwho hadds
    rw [hnext, hfits]
    refine ⟨hhandled.synced,
      (answeredOnce_iff_of_handled hhandled hd honce rfl hbefore fun c hc => ?_).trans ?_⟩
    · exact ⟨key, hwho c hc⟩
    · exact imp_congr_right fun _ => hn

theorem answeredOnce_next (e : DocketEvent) (hd : d.Synced) (honce : d.AnsweredOnce) :
    (d.next e).Synced ∧ ((d.next e).AnsweredOnce ↔ d.Fits e) := by
  cases e with
  | event e =>
    cases e with
    | proc msg =>
      cases hkey : msg.session with
      | some key =>
        have hnext : d.next (.event (.proc msg)) =
            { d with commands := d.commands ++ [key] }.process
              (some d.commands.length) msg := by
          simp only [next, hkey]
        obtain ⟨hsynced, hiff⟩ := answeredOnce_command hkey hd honce
        rw [hnext]
        exact ⟨hsynced, hiff.trans
          (and_iff_left (resends_of_ne (ne_engineUp_of_session hkey))).symm⟩
      | none =>
        have hnext : d.next (.event (.proc msg)) = d.process none msg := by
          simp only [next, hkey]
        obtain ⟨hsynced, hiff⟩ := answeredOnce_other msg hd honce
        rw [hnext]
        exact ⟨hsynced, hiff.trans (and_iff_right (GnssAdapter.answers_of_session hkey)).symm⟩
    | respond i err => exact answeredOnce_respond i err hd honce
    | engineLockState state =>
      have hstarts : d.Starts (d.adapter.next (.engineLockState state)) :=
        ⟨hd.ofCalls, hd.ofParked, rfl⟩
      have hhandled := handled_of_grown hd.toLabelled hstarts .refl
      exact ⟨hhandled.synced, iff_of_true (answeredOnce_of_none hhandled hd honce) trivial⟩
  | resent n =>
    cases hx : d.queued[n]? with
    | none =>
      have hnext : d.next (.resent n) = d := by
        simp only [next, hx]
      rw [hnext]
      refine ⟨hd, iff_of_true honce fun x hx' => ?_⟩
      rw [hx] at hx'
      cases hx'
    | some x =>
      have hnext : d.next (.resent n) =
          { d with queued := d.queued.eraseIdx n }.process x.1 x.2 := by
        simp only [next, hx]
      obtain ⟨hsynced, hiff⟩ := answeredOnce_resent hx hd honce
      rw [hnext]
      refine ⟨hsynced, hiff.trans ⟨fun h y hy => ?_, fun h => h x hx⟩⟩
      obtain rfl := some.inj (hx.symm.trans hy)
      exact h

end Step

theorem synced_of (a : GnssAdapter) : (of a).Synced where
  sent := Nat.zero_le _
  calls := forall_mem_map.mpr fun _ _ c h => absurd h.symm (some_ne_none c)
  parked := named_none
  queued := named_nil
  answers := named_nil
  ofCalls := map_map
  ofParked := map_snd_mk none a.mPendingMsgs

/-- From any state of the adapter and through any run, the tracking commands
are answered once each if and only if all steps fit. -/
theorem statesMeet_answeredOnce_iff (a : GnssAdapter) (es : List DocketEvent) :
    StatesMeet step AnsweredOnce (of a) es ↔ StepsMeet step Fits (of a) es := by
  refine statesMeet_iff_stepsMeet_of_inv (fun d : Docket => d.Synced ∧ d.AnsweredOnce)
    (fun d h => h.2) (fun d e h hfits => ?_) (fun d e h hafter => ?_) ⟨synced_of a, ?_⟩ es
  · obtain ⟨hsynced, hiff⟩ := answeredOnce_next e h.1 h.2
    exact ⟨hsynced, hiff.mpr hfits⟩
  · exact (answeredOnce_next e h.1 h.2).2.mp hafter
  · intro c key hc
    cases hc

end Docket

end LocStack.Tracking
