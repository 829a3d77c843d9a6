/-
# `LocStack.Tracking.Answers` — what a tracking command is answered

A command is answered when `reportResponse` finds a `responseCb` to call.
What an event of the adapter does for the session of a command is counted:

    a response               it has been answered
    a call of LocApi         it is to be, if the closure responds or goes on
    a message of mPendingMsgs

`Once`: these are one together.  A command sees to one answer exactly if
`Answers` holds of it, and so does an answer of LocApi exactly if `PassesOn`
does.  What does not: the two errors of a start, which are reported to
nobody; the update of a distance based session whose stop fails; and what
is reported to a client without `responseCb`.
-/
import LocStack.Tracking.Orderly

namespace LocStack.Tracking

open List Option

open Adapter (EngineLockState)

/-! ## Commands, closures and reports -/

/-- The session that a start, an update or a stop is about. -/
def TrackingMsg.session : TrackingMsg → Option LocationSessionKey
  | .startTracking key _ => some key
  | .updateTrackingOptions key _ => some key
  | .stopTracking key => some key
  | .addClient _ _ => none
  | .removeClient _ => none
  | .engineUp => none

/-- The session that the closure responds about, itself or by a call that it
makes. -/
def ResponseFn.session : ResponseFn → Option LocationSessionKey
  | .ignore => none
  | .startTimeBased key => some key
  | .updateTracking key _ => some key
  | .startDistanceBased key => some key
  | .switchToTimeBased key _ => some key
  | .stoppedToRestart key _ => some key
  | .restarted key _ => some key
  | .stopFix key => some key
  | .stopDistanceBased key => some key
  | .stopClientSession _ => none

/-- A response, by the client and the session id it is given. -/
def Report.answer : Report → Option (LocationSessionKey × LocationError)
  | .response client err sessionId => some (⟨client, sessionId⟩, err)
  | .powerState _ => none
  | .resent _ => none

def Report.resentMsg : Report → Option TrackingMsg
  | .resent msg => some msg
  | .response _ _ _ => none
  | .powerState _ => none

/-! ## Which see to an answer -/

namespace GnssAdapter

variable (a : GnssAdapter)

/-- The client is registered, with a `responseCb`. -/
def hears (client : Nat) : Bool := a.mClientData[client]?.any LocationCallbacks.responseCb

/-- The fix is at its highest rate already, and is not started anew. -/
def fixRuns : Bool := a.mNHzNeeded && a.mSPEAlreadyRunningAtHighestInterval

/-- Is a start answered at once, without a call? -/
def startsAtOnce (options : TrackingOptions) : Bool :=
  if a.mTimeBasedTrackingSessions.isEmpty then a.fixRuns
  else if (multiplexAll a.mTimeBasedTrackingSessions).updateOptions options then a.fixRuns
  else true

/-- Is an update that leaves the session time based? -/
def updatesAtOnce (key : LocationSessionKey) (options : TrackingOptions) : Bool :=
  match a.mTimeBasedTrackingSessions[key]? with
  | none => true
  | some oldOptions =>
    if oldOptions.minInterval ≠ options.minInterval ∨ oldOptions.powerMode ≠ options.powerMode then
      if a.mTimeBasedTrackingSessions.size = 1 then a.fixRuns
      else if (multiplexOthers a.mTimeBasedTrackingSessions key).updateOptions options then
        a.fixRuns
      else true
    else true

/-- Is the stop of a time based session? -/
def stopsAtOnce (key : LocationSessionKey) : Bool :=
  if a.mTimeBasedTrackingSessions.size = 1 then false
  else
    match a.mTimeBasedTrackingSessions[key]? with
    | none => true
    | some options =>
      if (multiplexOthers a.mTimeBasedTrackingSessions key).updateOptions options then a.fixRuns
      else true

/-- A command is parked, waits for LocApi, or is answered now. -/
def Answers : TrackingMsg → Prop
  | .startTracking key options =>
    a.isParked options = true ∨
      (a.hasCallbacksToStartTracking key.client = true ∧ options.size ≠ 0 ∧
        (a.isDistanceBased options.clampInterval = false →
          a.startsAtOnce options.clampInterval.fallBackToM2 = true → a.hears key.client = true))
  | .updateTrackingOptions key options =>
    a.isParked options = true ∨
      if a.isTimeBasedTrackingSession key = false ∧
          a.isDistanceBasedTrackingSession key = false ∨ options.size = 0 then
        a.hears key.client = true
      else
        let options := options.fallBackToM2.clampInterval
        if a.isTimeBasedTrackingSession key = true ∧ 0 < options.minDistance then
          a.stopsAtOnce key = true → a.hears key.client = true
        else if a.isDistanceBasedTrackingSession key = true ∧ options.minDistance = 0 then True
        else if a.isTimeBasedTrackingSession key = true then
          a.updatesAtOnce key options = true → a.hears key.client = true
        else True
  | .stopTracking key =>
    if a.isTimeBasedTrackingSession key = true then
      a.stopsAtOnce key = true → a.hears key.client = true
    else if a.isDistanceBasedTrackingSession key = true then True
    else a.hears key.client = true
  | _ => True

/-- An answer of LocApi is passed on, or the closure waits for another. -/
def PassesOn (err : LocationError) : ResponseFn → Prop
  | .ignore => True
  | .startTimeBased key => a.hears key.client = true
  | .updateTracking key _ => a.hears key.client = true
  | .startDistanceBased key => a.hears key.client = true
  | .switchToTimeBased key options =>
    a.startsAtOnce options = true → a.hears key.client = true
  | .stoppedToRestart _ _ => err = .success
  | .restarted key _ => a.hears key.client = true
  | .stopFix key => a.hears key.client = true
  | .stopDistanceBased key => a.hears key.client = true
  | .stopClientSession _ => True

end GnssAdapter

/-! ## What the adapter has done within an event -/

/-- From `a` to `b` these have been added. -/
structure Grows (a b : GnssAdapter) (calls : List LocApiResponse) (parked : List TrackingMsg)
    (reports : List Report) : Prop where
  unanswered : b.mLocApi.unanswered = a.mLocApi.unanswered ++ calls
  pendingMsgs : b.mPendingMsgs = a.mPendingMsgs ++ parked
  reports : b.reports = a.reports ++ reports

variable {a : GnssAdapter} {calls calls' : List LocApiResponse} {parked parked' : List TrackingMsg}
  {reports reports' : List Report} {key : LocationSessionKey}

theorem Grows.refl : Grows a a [] [] [] :=
  ⟨(append_nil _).symm, (append_nil _).symm, (append_nil _).symm⟩

theorem Grows.trans {b c : GnssAdapter} (h : Grows a b calls parked reports)
    (h' : Grows b c calls' parked' reports') :
    Grows a c (calls ++ calls') (parked ++ parked') (reports ++ reports') where
  unanswered := by rw [h'.unanswered, h.unanswered, append_assoc]
  pendingMsgs := by rw [h'.pendingMsgs, h.pendingMsgs, append_assoc]
  reports := by rw [h'.reports, h.reports, append_assoc]

/-- What has been added is about the session `key`, and nothing is sent
again. -/
structure About (key : LocationSessionKey) (calls : List LocApiResponse)
    (parked : List TrackingMsg) (reports : List Report) : Prop where
  calls : ∀ r ∈ calls, ∀ key', r.fn.session = some key' → key' = key
  parked : ∀ msg ∈ parked, msg.session = some key
  reports : ∀ r ∈ reports, r.resentMsg = none ∧ ∀ x, r.answer = some x → x.1 = key

theorem About.nil : About key [] [] [] :=
  ⟨forall_mem_nil _, forall_mem_nil _, forall_mem_nil _⟩

theorem About.append (h : About key calls parked reports) (h' : About key calls' parked' reports') :
    About key (calls ++ calls') (parked ++ parked') (reports ++ reports') where
  calls := forall_mem_append.mpr ⟨h.calls, h'.calls⟩
  parked := forall_mem_append.mpr ⟨h.parked, h'.parked⟩
  reports := forall_mem_append.mpr ⟨h.reports, h'.reports⟩

/-- The answers that these are, and that are to come from them. -/
def answersOf (calls : List LocApiResponse) (parked : List TrackingMsg)
    (reports : List Report) : Nat :=
  calls.countP (fun r => r.fn.session.isSome) + parked.length +
    (reports.filterMap Report.answer).length

theorem answersOf_append (calls calls' : List LocApiResponse) (parked parked' : List TrackingMsg)
    (reports reports' : List Report) :
    answersOf (calls ++ calls') (parked ++ parked') (reports ++ reports') =
      answersOf calls parked reports + answersOf calls' parked' reports' := by
  unfold answersOf
  rw [countP_append, length_append, filterMap_append, length_append]
  omega

/-- From `a` to `b`, `n` answers about the session `key` have been given or
are to come. -/
structure Adds (key : LocationSessionKey) (n : Nat) (a b : GnssAdapter) : Prop where
  clientData : b.mClientData = a.mClientData
  added : ∃ calls parked reports, Grows a b calls parked reports ∧
    About key calls parked reports ∧ answersOf calls parked reports = n

namespace Adds

variable {key : LocationSessionKey} {m n : Nat} {a b c : GnssAdapter}

theorem refl : Adds key 0 a a := ⟨rfl, [], [], [], .refl, .nil, rfl⟩

theorem trans (h : Adds key m a b) (h' : Adds key n b c) : Adds key (m + n) a c := by
  obtain ⟨hclients, calls, parked, reports, hgrows, habout, rfl⟩ := h
  obtain ⟨hclients', calls', parked', reports', hgrows', habout', rfl⟩ := h'
  exact ⟨hclients'.trans hclients, _, _, _, hgrows.trans hgrows', habout.append habout',
    answersOf_append _ _ _ _ _ _⟩

theorem after (h : Adds key 0 a b) (h' : Adds key n b c) : Adds key n a c :=
  Nat.zero_add n ▸ h.trans h'

theorem of_eq (hclients : b.mClientData = a.mClientData)
    (hcalls : b.mLocApi.unanswered = a.mLocApi.unanswered)
    (hparked : b.mPendingMsgs = a.mPendingMsgs) (hreports : b.reports = a.reports) :
    Adds key 0 a b :=
  ⟨hclients, [], [], [], ⟨hcalls.trans (append_nil _).symm,
    hparked.trans (append_nil _).symm, hreports.trans (append_nil _).symm⟩, .nil, rfl⟩

theorem of_call (r : LocApiResponse) (hclients : b.mClientData = a.mClientData)
    (hcalls : b.mLocApi.unanswered = a.mLocApi.unanswered ++ [r])
    (hparked : b.mPendingMsgs = a.mPendingMsgs) (hreports : b.reports = a.reports)
    (hkey : ∀ key', r.fn.session = some key' → key' = key) :
    Adds key (if r.fn.session.isSome then 1 else 0) a b := by
  refine ⟨hclients, [r], [], [], ⟨hcalls, hparked.trans (append_nil _).symm,
    hreports.trans (append_nil _).symm⟩,
    ⟨?_, forall_mem_nil _, forall_mem_nil _⟩, ?_⟩
  · intro r' hr'
    obtain rfl := mem_singleton.mp hr'
    exact hkey
  · unfold answersOf
    rw [countP_singleton]
    rfl

theorem of_report (r : Report) (hclients : b.mClientData = a.mClientData)
    (hcalls : b.mLocApi.unanswered = a.mLocApi.unanswered)
    (hparked : b.mPendingMsgs = a.mPendingMsgs) (hreports : b.reports = a.reports ++ [r])
    (hresent : r.resentMsg = none) (hkey : ∀ x, r.answer = some x → x.1 = key) :
    Adds key r.answer.toList.length a b := by
  refine ⟨hclients, [], [], [r], ⟨hcalls.trans (append_nil _).symm,
    hparked.trans (append_nil _).symm, hreports⟩,
    ⟨forall_mem_nil _, forall_mem_nil _, ?_⟩, ?_⟩
  · intro r' hr'
    obtain rfl := mem_singleton.mp hr'
    exact ⟨hresent, hkey⟩
  · unfold answersOf
    cases hr : r.answer with
    | none => simp [hr]
    | some x => simp [hr]

end Adds

/-- From `a` to `b`, one answer about the session `key` has been given or is
to come, if and only if `P`. -/
def Once (key : LocationSessionKey) (P : Prop) (a b : GnssAdapter) : Prop :=
  ∃ n, Adds key n a b ∧ (n = 1 ↔ P)

namespace Once

variable {key : LocationSessionKey} {P Q : Prop} {a b c : GnssAdapter}

theorem after (h : Adds key 0 a b) (h' : Once key P b c) : Once key P a c := by
  obtain ⟨n, hadds, hn⟩ := h'
  exact ⟨n, h.after hadds, hn⟩

theorem before (h : Once key P a b) (h' : Adds key 0 b c) : Once key P a c := by
  obtain ⟨n, hadds, hn⟩ := h
  exact ⟨n, hadds.trans h', hn⟩

theorem congr (h : Once key P a b) (hiff : P ↔ Q) : Once key Q a b := by
  obtain ⟨n, hadds, hn⟩ := h
  exact ⟨n, hadds, hn.trans hiff⟩

end Once

variable {P : Prop} {b : GnssAdapter}

theorem Adds.never (h : Adds key 0 a b) (hP : ¬ P) : Once key P a b :=
  ⟨0, h, iff_of_false (fun h => nomatch h) hP⟩

theorem Adds.once (h : Adds key 1 a b) (hP : P) : Once key P a b :=
  ⟨1, h, iff_of_true rfl hP⟩

/-- What a multiplexer does for a session: it leaves the response to its
caller, or sees to it. -/
def Multiplexed.Sees (key : LocationSessionKey) (atOnce : Bool) (a : GnssAdapter)
    (r : GnssAdapter × Bool) : Prop :=
  (r.2 = true ∧ atOnce = true ∧ Adds key 0 a r.1) ∨
    (r.2 = false ∧ Once key (atOnce = true → a.hears key.client = true) a r.1)

namespace GnssAdapter

variable {a b : GnssAdapter} {key : LocationSessionKey} {options : TrackingOptions}
  {fn : ResponseFn} {err : LocationError}

theorem adds_reportPowerStateIfChanged : Adds key 0 a a.reportPowerStateIfChanged := by
  simp only [reportPowerStateIfChanged]
  split
  · refine .of_report (.powerState _) rfl rfl rfl rfl rfl fun x hx => ?_
    cases hx
  · exact .refl

theorem adds_save : Adds key 0 a (a.saveTrackingSession key options) := by
  simp only [saveTrackingSession]
  split
  · refine Adds.after ?_ adds_reportPowerStateIfChanged
    exact .of_eq rfl rfl rfl rfl
  · refine Adds.after ?_ adds_reportPowerStateIfChanged
    exact .of_eq rfl rfl rfl rfl

theorem adds_erase (session : LocationSessionKey) :
    Adds key 0 a (a.eraseTrackingSession session) := by
  simp only [eraseTrackingSession]
  split
  · refine Adds.after ?_ adds_reportPowerStateIfChanged
    exact .of_eq rfl rfl rfl rfl
  · refine Adds.after ?_ adds_reportPowerStateIfChanged
    exact .of_eq rfl rfl rfl rfl

theorem once_reportResponse :
    Once key (a.hears key.client = true) a (a.reportResponse key err) := by
  unfold reportResponse hears
  cases hclient : a.mClientData[key.client]? with
  | none => exact Adds.refl.never Bool.false_ne_true
  | some callbacks =>
    dsimp only [any_some]
    cases hcb : callbacks.responseCb with
    | false =>
      exact Adds.refl.never Bool.false_ne_true
    | true =>
      have hadds : Adds key 1 a (a.report (.response key.client err key.id)) :=
        .of_report (.response key.client err key.id) rfl rfl rfl rfl rfl
          fun x hx => (congrArg Prod.fst (some.inj hx)).symm
      exact hadds.once rfl

theorem once_call (hfn : fn.session = some key) (hP : P) (hb : b = { a with mLocApi := b.mLocApi })
    (hcalls : b.mLocApi.unanswered = a.mLocApi.unanswered ++ [a.response fn]) : Once key P a b := by
  rw [hb]
  have hadds : Adds key (if (a.response fn).fn.session.isSome then 1 else 0) a
      { a with mLocApi := b.mLocApi } :=
    .of_call (a.response fn) rfl hcalls rfl rfl fun key' h => some.inj (h.symm.trans hfn)
  have hsome : (a.response fn).fn.session.isSome = true := congrArg Option.isSome hfn
  rw [if_pos hsome] at hadds
  exact hadds.once hP

theorem adds_call (hfn : fn.session = none) (hb : b = { a with mLocApi := b.mLocApi })
    (hcalls : b.mLocApi.unanswered = a.mLocApi.unanswered ++ [a.response fn]) :
    Adds key 0 a b := by
  rw [hb]
  have hadds : Adds key (if (a.response fn).fn.session.isSome then 1 else 0) a
      { a with mLocApi := b.mLocApi } :=
    .of_call (a.response fn) rfl hcalls rfl rfl fun key' h => nomatch h.symm.trans hfn
  have hsome : ¬ (a.response fn).fn.session.isSome = true := by
    show ¬ fn.session.isSome = true
    rw [hfn]
    exact Bool.false_ne_true
  rwa [if_neg hsome] at hadds

/-! ### The time based fix -/

theorem checkAndSetSPEToRunforNHz_running :
    (a.checkAndSetSPEToRunforNHz options).2.2 = a.fixRuns := by
  unfold checkAndSetSPEToRunforNHz fixRuns
  cases a.mNHzNeeded with
  | false => rfl
  | true =>
    cases a.mSPEAlreadyRunningAtHighestInterval with
    | true => rfl
    | false =>
      simp only [Bool.not_true, Bool.true_and, Bool.false_eq_true, if_false]
      split
      · rfl
      · rfl

theorem adds_checkAndSetSPEToRunforNHz :
    Adds key 0 a (a.checkAndSetSPEToRunforNHz options).1 := by
  simp only [checkAndSetSPEToRunforNHz]
  split
  · exact .refl
  · split
    · exact .refl
    · split
      · exact .of_eq rfl rfl rfl rfl
      · exact .refl

theorem once_runTimeBased (hfn : fn.session = some key) :
    Once key (a.fixRuns = true → a.hears key.client = true) a (a.runTimeBased key options fn) := by
  have hspe : Adds key 0 a (a.checkAndSetSPEToRunforNHz options).1 :=
    adds_checkAndSetSPEToRunforNHz
  have hrunning : (a.checkAndSetSPEToRunforNHz options).2.2 = a.fixRuns :=
    checkAndSetSPEToRunforNHz_running
  simp only [runTimeBased]
  split
  case h_1 a' _ h =>
    rw [h] at hspe hrunning
    have hhears : a'.hears key.client = a.hears key.client :=
      congrArg (fun m => m[key.client]?.any LocationCallbacks.responseCb) hspe.clientData
    refine (Once.after hspe once_reportResponse).congr ?_
    rw [hhears, ← hrunning]
    exact (imp_iff_right rfl).symm
  case h_2 a' options' h =>
    rw [h] at hspe hrunning
    refine Once.after hspe (once_call hfn ?_ rfl rfl)
    rw [← hrunning]
    intro h
    cases h

theorem once_stopTracking (hP : P) : Once key P a (a.stopTracking key) := by
  have hadds : Adds key 1 a (a.stopTracking key) :=
    .of_call (a.response (.stopFix key)) rfl rfl rfl rfl fun key' h => (some.inj h).symm
  exact hadds.once hP

theorem sees_startTimeBasedTrackingMultiplex : Multiplexed.Sees key (a.startsAtOnce options) a
      (a.startTimeBasedTrackingMultiplex key options) := by
  simp only [startTimeBasedTrackingMultiplex, startsAtOnce]
  split
  · exact Or.inr ⟨rfl, once_runTimeBased rfl⟩
  · split
    · exact Or.inr ⟨rfl, once_runTimeBased rfl⟩
    · exact Or.inl ⟨rfl, rfl, .refl⟩

theorem sees_updateTrackingMultiplex : Multiplexed.Sees key (a.updatesAtOnce key options) a
      (a.updateTrackingMultiplex key options) := by
  unfold updateTrackingMultiplex updatesAtOnce
  cases a.mTimeBasedTrackingSessions[key]? with
  | none => exact Or.inl ⟨rfl, rfl, .refl⟩
  | some oldOptions =>
    dsimp only
    split
    · split
      · exact Or.inr ⟨rfl, once_runTimeBased rfl⟩
      · split
        · exact Or.inr ⟨rfl, once_runTimeBased rfl⟩
        · exact Or.inl ⟨rfl, rfl, .refl⟩
    · exact Or.inl ⟨rfl, rfl, .refl⟩

theorem sees_stopTimeBasedTrackingMultiplex :
    Multiplexed.Sees key (a.stopsAtOnce key) a (a.stopTimeBasedTrackingMultiplex key) := by
  unfold stopTimeBasedTrackingMultiplex stopsAtOnce
  split
  · exact Or.inr ⟨rfl, once_stopTracking fun h => nomatch h⟩
  · cases a.mTimeBasedTrackingSessions[key]? with
    | none => exact Or.inl ⟨rfl, rfl, .refl⟩
    | some oldOptions =>
      dsimp only
      split
      · exact Or.inr ⟨rfl, once_runTimeBased rfl⟩
      · exact Or.inl ⟨rfl, rfl, .refl⟩

theorem once_reportIf {atOnce : Bool} {r : GnssAdapter × Bool}
    (h : Multiplexed.Sees key atOnce a r) (hb : Adds key 0 r.1 b) :
    Once key (atOnce = true → a.hears key.client = true) a (b.reportIf r.2 key) := by
  unfold reportIf
  rcases h with ⟨hflag, hatOnce, hadds⟩ | ⟨hflag, honce⟩
  · rw [if_pos hflag]
    have hhears : b.hears key.client = a.hears key.client :=
      congrArg (fun m => m[key.client]?.any LocationCallbacks.responseCb)
        (hadds.after hb).clientData
    refine (Once.after (hadds.after hb) once_reportResponse).congr ?_
    rw [hhears]
    exact (imp_iff_right hatOnce).symm
  · rw [hflag, if_neg Bool.false_ne_true]
    exact honce.before hb

theorem once_startTimeBasedSession :
    Once key (a.startsAtOnce options = true → a.hears key.client = true) a
      (a.startTimeBasedSession key options) :=
  once_reportIf sees_startTimeBasedTrackingMultiplex adds_save

/-! ### The commands -/

variable {msg : TrackingMsg}

theorem adds_park (hmsg : msg.session = some key) : Adds key 1 a (a.park msg) := by
  refine ⟨rfl, [], [msg], [], ⟨(append_nil _).symm, rfl, (append_nil _).symm⟩,
    ⟨forall_mem_nil _, ?_, forall_mem_nil _⟩, rfl⟩
  intro msg' hmsg'
  obtain rfl := mem_singleton.mp hmsg'
  exact hmsg

theorem once_startTrackingCommand :
    Once key (a.Answers (.startTracking key options)) a (a.startTrackingCommand key options) := by
  unfold startTrackingCommand
  split
  · rename_i hparked
    exact (adds_park rfl).once (Or.inl hparked)
  · rename_i hparked
    refine Once.congr ?_ (or_iff_right hparked).symm
    cases hcallbacks : a.hasCallbacksToStartTracking key.client with
    | false => exact Adds.refl.never fun h => nomatch h.1
    | true =>
      rw [Bool.not_true, if_neg Bool.false_ne_true]
      split
      · rename_i hsize
        exact Adds.refl.never fun h => h.2.1 hsize
      · rename_i hsize
        refine Once.congr ?_ ((and_iff_right rfl).trans (and_iff_right hsize)).symm
        dsimp only
        cases hdistance : a.isDistanceBased options.clampInterval with
        | true => exact Once.after adds_save (once_call rfl (fun h => nomatch h) rfl rfl)
        | false => exact once_startTimeBasedSession.congr (imp_iff_right rfl).symm

theorem once_stopTrackingCommand :
    Once key (a.Answers (.stopTracking key)) a (a.stopTrackingCommand key) := by
  show Once key (if a.isTimeBasedTrackingSession key = true then
    a.stopsAtOnce key = true → a.hears key.client = true
    else if a.isDistanceBasedTrackingSession key = true then True
    else a.hears key.client = true) a (a.stopTrackingCommand key)
  unfold stopTrackingCommand
  split
  · exact once_reportIf sees_stopTimeBasedTrackingMultiplex (adds_erase _)
  · split
    · exact once_call rfl trivial rfl rfl
    · exact once_reportResponse

theorem once_switchToDistanceBased :
    Once key (a.stopsAtOnce key = true → a.hears key.client = true) a
      ((((a.stopTimeBasedTrackingMultiplex key).1.eraseTrackingSession key).reportIf
        (a.stopTimeBasedTrackingMultiplex key).2 key).saveTrackingSession key
          options |>.startDistanceBasedTracking key options.toLocationOptions .ignore) := by
  refine Once.before (once_reportIf sees_stopTimeBasedTrackingMultiplex (adds_erase key)) ?_
  exact Adds.after adds_save (adds_call rfl rfl rfl)

theorem once_updateTrackingOptionsCommand :
    Once key (a.Answers (.updateTrackingOptions key options)) a
      (a.updateTrackingOptionsCommand key options) := by
  unfold updateTrackingOptionsCommand
  split
  · rename_i hparked
    exact (adds_park rfl).once (Or.inl hparked)
  · rename_i hparked
    refine Once.congr ?_ (or_iff_right hparked).symm
    dsimp only
    by_cases hrefused : a.isTimeBasedTrackingSession key = false ∧
        a.isDistanceBasedTrackingSession key = false ∨ options.size = 0
    · rw [if_pos hrefused]
      split
      · exact once_reportResponse
      · rename_i hfound
        have hsize : options.size = 0 := by
          refine hrefused.resolve_left fun h => hfound ?_
          rw [h.1, h.2]
          rfl
        rw [if_pos hsize]
        exact once_reportResponse
    · obtain ⟨hfound, hsize⟩ := not_or.mp hrefused
      have hknown : ¬ (!a.isTimeBasedTrackingSession key &&
          !a.isDistanceBasedTrackingSession key) = true := by
        simpa using hfound
      rw [if_neg hrefused, if_neg hknown, if_neg hsize]
      simp only [Bool.and_eq_true, decide_eq_true_eq, beq_iff_eq]
      by_cases htoDistance : a.isTimeBasedTrackingSession key = true ∧
          0 < options.fallBackToM2.clampInterval.minDistance
      · rw [if_pos htoDistance, if_pos htoDistance]
        exact once_switchToDistanceBased
      · rw [if_neg htoDistance, if_neg htoDistance]
        by_cases htoTime : a.isDistanceBasedTrackingSession key = true ∧
            options.fallBackToM2.clampInterval.minDistance = 0
        · rw [if_pos htoTime, if_pos htoTime]
          exact Once.after (adds_erase _) (once_call rfl trivial rfl rfl)
        · rw [if_neg htoTime, if_neg htoTime]
          by_cases htime : a.isTimeBasedTrackingSession key = true
          · rw [if_pos htime, if_pos htime]
            exact once_reportIf sees_updateTrackingMultiplex adds_save
          · rw [if_neg htime, if_neg htime]
            exact once_call rfl trivial rfl rfl

theorem answers_of_session (hmsg : msg.session = none) : a.Answers msg := by
  cases msg with
  | addClient client callbacks => trivial
  | removeClient client => trivial
  | engineUp => trivial
  | _ => cases hmsg

theorem once_procMsg (hmsg : msg.session = some key) :
    Once key (a.Answers msg) a (a.procMsg msg) := by
  cases msg with
  | startTracking key' options =>
    obtain rfl := some.inj hmsg
    exact once_startTrackingCommand
  | updateTrackingOptions key' options =>
    obtain rfl := some.inj hmsg
    exact once_updateTrackingOptionsCommand
  | stopTracking key' =>
    obtain rfl := some.inj hmsg
    exact once_stopTrackingCommand
  | addClient client callbacks => cases hmsg
  | removeClient client => cases hmsg
  | engineUp => cases hmsg

/-! ### The answers of LocApi -/

theorem once_ite_reportResponse {p : Prop} [Decidable p] (h : Adds key 0 a b) :
    Once key (a.hears key.client = true) a ((if p then b else a).reportResponse key err) := by
  have hadds : Adds key 0 a (if p then b else a) := by
    split
    · exact h
    · exact .refl
  have hhears : (if p then b else a).hears key.client = a.hears key.client :=
    congrArg (fun m => m[key.client]?.any LocationCallbacks.responseCb) hadds.clientData
  exact hhears ▸ Once.after hadds once_reportResponse

theorem once_procResponse (hfn : fn.session = some key) :
    Once key (a.PassesOn err fn) a (a.procResponse err fn) := by
  cases fn with
  | ignore => cases hfn
  | stopClientSession key' => cases hfn
  | startTimeBased key' =>
    obtain rfl := some.inj hfn
    exact once_ite_reportResponse (adds_erase _)
  | startDistanceBased key' =>
    obtain rfl := some.inj hfn
    exact once_ite_reportResponse (adds_erase _)
  | updateTracking key' oldOptions =>
    obtain rfl := some.inj hfn
    exact once_ite_reportResponse adds_save
  | switchToTimeBased key' options =>
    obtain rfl := some.inj hfn
    exact once_startTimeBasedSession
  | stoppedToRestart key' options =>
    obtain rfl := some.inj hfn
    show Once key' (err = .success) a (if err = .success then
      a.startDistanceBasedTracking key' options.toLocationOptions (.restarted key' options)
      else a)
    split
    · rename_i hsuccess
      exact once_call rfl hsuccess rfl rfl
    · rename_i hfailed
      exact Adds.refl.never hfailed
  | restarted key' options =>
    obtain rfl := some.inj hfn
    exact once_ite_reportResponse adds_save
  | stopFix key' =>
    obtain rfl := some.inj hfn
    exact once_reportResponse
  | stopDistanceBased key' =>
    obtain rfl := some.inj hfn
    exact once_ite_reportResponse (adds_erase _)

theorem passesOn_of_session (hfn : fn.session = none) : a.PassesOn err fn := by
  cases fn with
  | ignore => trivial
  | stopClientSession key' => trivial
  | _ => cases hfn

theorem adds_procResponse (hfn : fn.session = none) : Adds key 0 a (a.procResponse err fn) := by
  cases fn with
  | ignore => exact .refl
  | stopClientSession key' =>
    show Adds key 0 a (if err = .success then a.eraseTrackingSession key' else a)
    split
    · exact adds_erase _
    · exact .refl
  | _ => cases hfn

end GnssAdapter

/-! ## The other messages -/

/-- From `a` to `b` something has been added, and nothing is sent again. -/
def Grown (a b : GnssAdapter) : Prop :=
  ∃ calls parked reports, Grows a b calls parked reports ∧ ∀ r ∈ reports, r.resentMsg = none

namespace Grown

variable {a b c : GnssAdapter}

theorem refl : Grown a a := ⟨[], [], [], .refl, forall_mem_nil _⟩

theorem trans (h : Grown a b) (h' : Grown b c) : Grown a c := by
  obtain ⟨calls, parked, reports, hgrows, hreports⟩ := h
  obtain ⟨calls', parked', reports', hgrows', hreports'⟩ := h'
  exact ⟨_, _, _, hgrows.trans hgrows', forall_mem_append.mpr ⟨hreports, hreports'⟩⟩

theorem foldl {β : Type} {f : GnssAdapter → β → GnssAdapter} (hf : ∀ a x, Grown a (f a x))
    (xs : List β) : Grown a (xs.foldl f a) := by
  induction xs generalizing a with
  | nil => exact .refl
  | cons x xs ih => exact (hf a x).trans ih

end Grown

theorem Adds.grown {n : Nat} (h : Adds key n a b) : Grown a b := by
  obtain ⟨-, calls, parked, reports, hgrows, habout, -⟩ := h
  exact ⟨calls, parked, reports, hgrows, fun r hr => (habout.reports r hr).1⟩

theorem Once.grown (h : Once key P a b) : Grown a b := by
  obtain ⟨n, hadds, -⟩ := h
  exact hadds.grown

namespace GnssAdapter

variable {a : GnssAdapter}

theorem grown_stopTimeBasedSession (key : LocationSessionKey) :
    Grown a (a.stopTimeBasedSession key) := by
  have hstop : Grown a (a.stopTimeBasedTrackingMultiplex key).1 := by
    have hsees : Multiplexed.Sees key (a.stopsAtOnce key) a
        (a.stopTimeBasedTrackingMultiplex key) := sees_stopTimeBasedTrackingMultiplex
    rcases hsees with ⟨-, -, hadds⟩ | ⟨-, honce⟩
    · exact hadds.grown
    · exact honce.grown
  exact hstop.trans (adds_erase key : Adds key 0 _ _).grown

theorem grown_removeClientCommand (client : Nat) : Grown a (a.removeClientCommand client) := by
  have hsecond : ∀ b (keys : List LocationSessionKey), Grown b
      (keys.foldl (fun a key => a.stopDistanceBasedTracking key (.stopClientSession key)) b) :=
    fun b keys => Grown.foldl (fun a key => (adds_call rfl rfl rfl : Adds key 0 _ _).grown) keys
  have hclient : ∀ b : GnssAdapter, Grown b { b with mClientData := b.mClientData.erase client } :=
    fun b => ⟨[], [], [], ⟨(append_nil _).symm, (append_nil _).symm,
      (append_nil _).symm⟩, forall_mem_nil _⟩
  exact ((Grown.foldl (fun a key => grown_stopTimeBasedSession key) _).trans
    (hsecond _ _)).trans (hclient _)

/-- Calls have been made, and that is all. -/
def Calls (a b : GnssAdapter) : Prop := ∃ calls, Grows a b calls [] []

theorem Calls.trans {a b c : GnssAdapter} (h : Calls a b) (h' : Calls b c) : Calls a c := by
  obtain ⟨calls, hgrows⟩ := h
  obtain ⟨calls', hgrows'⟩ := h'
  exact ⟨calls ++ calls', hgrows.trans hgrows'⟩

theorem calls_checkAndRestartSPESession : Calls a a.checkAndRestartSPESession := by
  have hfoldl : ∀ (sessions : List (LocationSessionKey × LocationOptions)) (b : GnssAdapter),
      Calls b (sessions.foldl (fun a session =>
        a.startDistanceBasedTracking session.1 session.2 .ignore) b) := by
    intro sessions
    induction sessions with
    | nil => exact fun b => ⟨[], .refl⟩
    | cons session sessions ih =>
      intro b
      refine Calls.trans ⟨[b.response .ignore], ?_⟩ (ih _)
      exact ⟨rfl, (append_nil _).symm, (append_nil _).symm⟩
  refine Calls.trans ?_ (hfoldl _ _)
  have hspe : ∀ (b : GnssAdapter) (options : TrackingOptions) r,
      b.checkAndSetSPEToRunforNHz options = r → Calls b r.1 := by
    rintro b options r rfl
    simp only [checkAndSetSPEToRunforNHz]
    split
    · exact ⟨[], .refl⟩
    · split
      · exact ⟨[], .refl⟩
      · split
        · exact ⟨[], (append_nil _).symm, (append_nil _).symm, (append_nil _).symm⟩
        · exact ⟨[], .refl⟩
  have hreset : Calls a { a with mSPEAlreadyRunningAtHighestInterval := false } :=
    ⟨[], (append_nil _).symm, (append_nil _).symm, (append_nil _).symm⟩
  refine hreset.trans ?_
  simp only [checkAndRestartTimeBasedSession]
  split
  · exact ⟨[], .refl⟩
  · split
    case h_1 a' _ h => exact hspe _ _ _ h
    case h_2 a' options h =>
      refine (hspe _ _ _ h).trans ?_
      exact ⟨[], rfl, (append_nil _).symm, (append_nil _).symm⟩

theorem grows_handleEngineUpEvent : ∃ calls, Grows a a.handleEngineUpEvent calls []
      (if a.mLocApi.engineLockState = .enabled then a.mPendingMsgs.map .resent else []) := by
  unfold handleEngineUpEvent
  dsimp only
  split
  · obtain ⟨calls, hgrows⟩ :=
      calls_checkAndRestartSPESession (a := { a with mIsEngineCapabilitiesKnown := true })
    have hpending := hgrows.pendingMsgs.trans (append_nil _)
    have hreports := hgrows.reports.trans (append_nil _)
    refine ⟨calls, hgrows.unanswered, hgrows.pendingMsgs, ?_⟩
    dsimp only
    rw [hpending, hreports]
  · exact ⟨[], (append_nil _).symm, (append_nil _).symm, (append_nil _).symm⟩

end GnssAdapter

end LocStack.Tracking
