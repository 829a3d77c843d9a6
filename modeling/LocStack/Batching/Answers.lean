/-
# `LocStack.Batching.Answers` — what a batching command is answered

As for the tracking commands: what a message or an answer of LocApi does for
the session of a command is counted, and is to be one answer that has been
given or is to come (`Once`).

    a response                            it has been answered
    a call of LocApi                      the closure responds or goes on
    a message of mPendingMsgs             it is processed again
    one of mPendingGnssEnabledMsgs        so is it

A command sees to one answer exactly if `Answers` holds of it, an answer of
LocApi exactly if `PassesOn` does.  The errors that a command is refused for
are reported to nobody; a closure that restarts the session of an update, or
puts the message of a start back, responds and goes on.
-/
import LocStack.Batching.Model

namespace LocStack.Batching

open List Option

open Tracking (LocationError LocationSessionKey)

/-! ## Commands, closures and outputs -/

def BatchingMsg.session : BatchingMsg → LocationSessionKey
  | .startBatching key _ => key
  | .updateBatching key _ => key
  | .stopBatching key => key

/-- The session that the closure responds about, itself or by a call that it
makes. -/
def ResponseFn.session : ResponseFn → Option LocationSessionKey
  | .startBatching key _ _ => some key
  | .stopBatching key _ _ _ => some key
  | .startTrip key _ => some key
  | .joinTrip key _ => some key
  | .joinedTrip key => some key
  | .stopTrip key _ _ => some key
  | .ignore => none
  | .stopLastTrip => none
  | .queryTrips _ _ _ _ => none
  | .restartTrips _ _ _ => none
  | .restartSessions => none

/-- The message that the closure may put back. -/
def ResponseFn.pendingMsg : ResponseFn → Option BatchingMsg
  | .startBatching _ _ pendingMsg => pendingMsg
  | _ => none

def Output.answer : Output → Option (LocationSessionKey × LocationError)
  | .response client err sessionId => some (⟨client, sessionId⟩, err)
  | .tripsCompleted _ _ => none
  | .resent _ => none

def Output.resentMsg : Output → Option BatchingMsg
  | .resent msg => some msg
  | .response _ _ _ => none
  | .tripsCompleted _ _ => none

/-! ## Which see to an answer -/

namespace BatchingAdapter

variable (s : BatchingAdapter)

/-- The client is registered, with a `responseCb`. -/
def hears (client : Nat) : Bool := s.mClientData[client]?.any LocationCallbacks.responseCb

/-- A command is parked, waits for LocApi, or is answered now.  The update of
a trip that is not alone restarts it at once, and responds. -/
def Answers : BatchingMsg → Prop
  | .startBatching key options =>
    s.engineCapabilitiesKnown = false ∨
      (s.hasBatchingCallback key.client = true ∧ options.size ≠ 0 ∧ s.isMessageSupported = true) ∧
        (options.batchingMode = .other → s.hears key.client = true)
  | .updateBatching key options =>
    s.engineCapabilitiesKnown = false ∨
      (s.isBatchingSession key = true ∧ options.size ≠ 0 ∧ options.batchingMode ≠ .other) ∧
        (s.isTripSession key.id = true → s.mTripSessions.size ≠ 1 → ¬ s.hears key.client = true)
  | .stopBatching key =>
    s.engineCapabilitiesKnown = false ∨ s.isBatchingSession key = true ∧
        (s.isTripSession key.id = true → s.mTripSessions.size ≠ 1 → s.hears key.client = true)

/-- An answer of LocApi is passed on, or the closure goes on, but not both. -/
def PassesOn (err : LocationError) (data : UInt32) : ResponseFn → Prop
  | .startBatching key _ pendingMsg =>
    s.hears key.client = true ↔ ¬ (err = .gnssDisabled ∧ pendingMsg.isSome = true)
  | .stopBatching key _ restartNeeded batchOptions =>
    s.hears key.client = true ↔
      ¬ (¬ (s.engineLockState = .enabled ∧ err ≠ .success) ∧ restartNeeded = true ∧
        batchOptions.batchingMode ≠ .other)
  | .startTrip key _ => s.hears key.client = true
  | .joinTrip key options => s.restartForTrip options err data = none → s.hears key.client = true
  | .joinedTrip key => s.hears key.client = true
  | .stopTrip key restartNeeded batchOptions =>
    s.hears key.client = true ↔ ¬ (restartNeeded = true ∧ batchOptions.batchingMode ≠ .other)
  | _ => True

end BatchingAdapter

/-! ## What the adapter has done -/

/-- From `s` to `t` these have been added. -/
structure Grows (s t : BatchingAdapter) (calls : List ResponseFn)
    (parked disabled : List BatchingMsg) : Prop where
  unanswered : t.unanswered = s.unanswered ++ calls
  pendingMsgs : t.mPendingMsgs = s.mPendingMsgs ++ parked
  pendingGnssEnabledMsgs : t.mPendingGnssEnabledMsgs = s.mPendingGnssEnabledMsgs ++ disabled

variable {s t : BatchingAdapter} {calls calls' : List ResponseFn}
  {parked parked' disabled disabled' : List BatchingMsg} {key : LocationSessionKey}

theorem Grows.of_eq (hcalls : t.unanswered = s.unanswered)
    (hparked : t.mPendingMsgs = s.mPendingMsgs)
    (hdisabled : t.mPendingGnssEnabledMsgs = s.mPendingGnssEnabledMsgs) : Grows s t [] [] [] :=
  ⟨hcalls.trans (append_nil _).symm, hparked.trans (append_nil _).symm,
    hdisabled.trans (append_nil _).symm⟩

theorem Grows.trans {u : BatchingAdapter} (h : Grows s t calls parked disabled)
    (h' : Grows t u calls' parked' disabled') :
    Grows s u (calls ++ calls') (parked ++ parked') (disabled ++ disabled') where
  unanswered := by rw [h'.unanswered, h.unanswered, append_assoc]
  pendingMsgs := by rw [h'.pendingMsgs, h.pendingMsgs, append_assoc]
  pendingGnssEnabledMsgs := by
    rw [h'.pendingGnssEnabledMsgs, h.pendingGnssEnabledMsgs, append_assoc]

/-- The closure is about the session `key`, if about any. -/
structure ResponseFn.About (key : LocationSessionKey) (fn : ResponseFn) : Prop where
  session : ∀ key', fn.session = some key' → key' = key
  pendingMsg : ∀ msg ∈ fn.pendingMsg, msg.session = key

theorem ResponseFn.about_of_session {fn : ResponseFn} (hsession : fn.session = none) :
    fn.About key := by
  cases fn with
  | startBatching key' options pendingMsg => cases hsession
  | _ =>
    refine ⟨fun key' h => ?_, fun msg h => nomatch h⟩
    exact absurd (h.symm.trans hsession) (some_ne_none key')

/-- What has been added is about the session `key`. -/
structure About (key : LocationSessionKey) (calls : List ResponseFn)
    (parked disabled : List BatchingMsg) (out : List Output) : Prop where
  calls : ∀ fn ∈ calls, fn.About key
  parked : ∀ msg ∈ parked, msg.session = key
  disabled : ∀ msg ∈ disabled, msg.session = key
  out : ∀ o ∈ out, ∀ x, o.answer = some x → x.1 = key

theorem About.append {out out' : List Output} (h : About key calls parked disabled out)
    (h' : About key calls' parked' disabled' out') :
    About key (calls ++ calls') (parked ++ parked') (disabled ++ disabled') (out ++ out') where
  calls := forall_mem_append.mpr ⟨h.calls, h'.calls⟩
  parked := forall_mem_append.mpr ⟨h.parked, h'.parked⟩
  disabled := forall_mem_append.mpr ⟨h.disabled, h'.disabled⟩
  out := forall_mem_append.mpr ⟨h.out, h'.out⟩

/-- The answers that these are, and that are to come from them. -/
def answersOf (calls : List ResponseFn) (parked disabled : List BatchingMsg)
    (out : List Output) : Nat :=
  calls.countP (fun fn => fn.session.isSome) + parked.length + disabled.length +
    (out.filterMap Output.answer).length

/-- From `s` to `t`, with the output, `n` answers about the session `key` have
been given or are to come. -/
structure Adds (key : LocationSessionKey) (n : Nat) (s : BatchingAdapter)
    (t : BatchingAdapter × List Output) : Prop where
  clientData : t.1.mClientData = s.mClientData
  added : ∃ calls parked disabled, Grows s t.1 calls parked disabled ∧
    About key calls parked disabled t.2 ∧ answersOf calls parked disabled t.2 = n

namespace Adds

variable {key : LocationSessionKey} {m n : Nat} {s t : BatchingAdapter}
  {u : BatchingAdapter × List Output}

theorem of_eq (hclients : t.mClientData = s.mClientData) (hcalls : t.unanswered = s.unanswered)
    (hparked : t.mPendingMsgs = s.mPendingMsgs)
    (hdisabled : t.mPendingGnssEnabledMsgs = s.mPendingGnssEnabledMsgs) : Adds key 0 s (t, []) :=
  ⟨hclients, [], [], [], .of_eq hcalls hparked hdisabled, ⟨forall_mem_nil _,
    forall_mem_nil _, forall_mem_nil _, forall_mem_nil _⟩, rfl⟩

theorem trans (h : Adds key m s (t, [])) (h' : Adds key n t u) : Adds key (m + n) s u := by
  obtain ⟨hclients, calls, parked, disabled, hgrows, habout, rfl⟩ := h
  obtain ⟨hclients', calls', parked', disabled', hgrows', habout', rfl⟩ := h'
  refine ⟨hclients'.trans hclients, _, _, _, hgrows.trans hgrows', habout.append habout', ?_⟩
  unfold answersOf
  rw [countP_append, length_append, length_append, filterMap_nil, length_nil]
  omega

theorem after (h : Adds key 0 s (t, [])) (h' : Adds key n t u) : Adds key n s u :=
  Nat.zero_add n ▸ h.trans h'

theorem hears_eq (h : Adds key n s u) (client : Nat) : u.1.hears client = s.hears client :=
  congrArg (fun m => m[client]?.any LocationCallbacks.responseCb) h.clientData

end Adds

namespace BatchingAdapter

variable {s t : BatchingAdapter} {key : LocationSessionKey} {options : BatchingOptions}
  {err : LocationError} {fn : ResponseFn}

/-! ### One thing -/

theorem adds_call (hfn : fn.About key) :
    Adds key (if fn.session.isSome then 1 else 0) s (s.call fn, []) := by
  refine ⟨rfl, [fn], [], [], ⟨rfl, (append_nil _).symm, (append_nil _).symm⟩,
    ⟨?_, forall_mem_nil _, forall_mem_nil _, forall_mem_nil _⟩, ?_⟩
  · intro fn' hfn'
    obtain rfl := mem_singleton.mp hfn'
    exact hfn
  · unfold answersOf
    rw [countP_singleton]
    rfl

theorem adds_callTrip (tripDistance tripTBFInterval : UInt32) (hfn : fn.About key) :
    Adds key (if fn.session.isSome then 1 else 0) s
      (s.callTrip tripDistance tripTBFInterval fn, []) := by
  obtain ⟨hclients, calls, parked, disabled, hgrows, habout, hn⟩ := adds_call (s := s) hfn
  exact ⟨hclients, calls, parked, disabled, ⟨hgrows.unanswered, hgrows.pendingMsgs,
    hgrows.pendingGnssEnabledMsgs⟩, habout, hn⟩

theorem adds_call_of_session (hfn : fn.session = none) : Adds key 0 s (s.call fn, []) := by
  have hadds := adds_call (s := s) (ResponseFn.about_of_session hfn : fn.About key)
  rwa [hfn] at hadds

theorem adds_callTrip_of_session (tripDistance tripTBFInterval : UInt32)
    (hfn : fn.session = none) :
    Adds key 0 s (s.callTrip tripDistance tripTBFInterval fn, []) := by
  have hadds := adds_callTrip (s := s) tripDistance tripTBFInterval
    (ResponseFn.about_of_session hfn : fn.About key)
  rwa [hfn] at hadds

theorem adds_reportResponse : Adds key (if s.hears key.client then 1 else 0) s
      (s, s.reportResponse key.client err key.id) := by
  refine ⟨rfl, [], [], [], .of_eq rfl rfl rfl, ⟨forall_mem_nil _, forall_mem_nil _,
    forall_mem_nil _, ?_⟩, ?_⟩
  · intro o ho x hx
    unfold reportResponse at ho
    split at ho
    · obtain rfl := mem_singleton.mp ho
      exact (congrArg Prod.fst (some.inj hx)).symm
    · cases ho
  · unfold answersOf
    show 0 + 0 + 0 + _ = _
    unfold reportResponse hears
    split
    · rfl
    · rfl

theorem adds_park (msg : BatchingMsg) :
    Adds msg.session 1 s ({ s with mPendingMsgs := s.mPendingMsgs ++ [msg] }, []) := by
  refine ⟨rfl, [], [msg], [], ⟨(append_nil _).symm, rfl, (append_nil _).symm⟩,
    ⟨forall_mem_nil _, ?_, forall_mem_nil _, forall_mem_nil _⟩, rfl⟩
  intro msg' hmsg'
  obtain rfl := mem_singleton.mp hmsg'
  rfl

variable {pendingMsg : Option BatchingMsg} {restartNeeded : Bool}

theorem adds_putBack (hmsg : ∀ msg ∈ pendingMsg, msg.session = key) :
    Adds key pendingMsg.toList.length s ({ s with
      mPendingGnssEnabledMsgs := s.mPendingGnssEnabledMsgs ++ pendingMsg.toList }, []) := by
  refine ⟨rfl, [], [], pendingMsg.toList, ⟨(append_nil _).symm, (append_nil _).symm,
    rfl⟩, ⟨forall_mem_nil _, forall_mem_nil _, ?_, forall_mem_nil _⟩, ?_⟩
  · intro msg hmsg'
    exact hmsg msg (mem_toList.mp hmsg')
  · unfold answersOf
    show 0 + 0 + _ + 0 = _
    omega

/-! ### Nothing of all this -/

theorem adds_registerIfNone : Adds key 0 s (s.registerIfNone, []) := by
  rw [registerIfNone_eq]
  exact .of_eq rfl rfl rfl rfl

theorem adds_unregisterIfNone : Adds key 0 s (s.unregisterIfNone, []) := by
  rw [unregisterIfNone_eq]
  exact .of_eq rfl rfl rfl rfl

theorem adds_ite {p : Prop} [Decidable p] (h : Adds key 0 s (t, [])) :
    Adds key 0 s (if p then t else s, []) := by
  split
  · exact h
  · exact .of_eq rfl rfl rfl rfl

theorem adds_restartTripBatching {queryAccumulatedDistance : Bool} {accDist : UInt32} :
    Adds key 0 s (s.restartTripBatching queryAccumulatedDistance accDist, []) := by
  unfold restartTripBatching
  split
  · have hstopped : Adds key 0 (s.call .stopLastTrip) ({ s.call .stopLastTrip with
        mOngoingTripDistance := 0, mOngoingTripTBFInterval := 0 }, []) :=
      .of_eq rfl rfl rfl rfl
    exact (adds_call_of_session rfl).after (hstopped.after adds_unregisterIfNone)
  · exact adds_call_of_session rfl

theorem adds_restartRemaining : Adds key 0 s (s.restartRemaining, []) := by
  unfold restartRemaining
  split
  · exact .of_eq rfl rfl rfl rfl
  · exact adds_restartTripBatching

/-! ### Starting and stopping -/

theorem adds_startBatching (hmsg : ∀ msg ∈ pendingMsg, msg.session = key) :
    Adds key 1 s (s.startBatching key options pendingMsg, []) := by
  have hfn : (ResponseFn.startBatching key options pendingMsg).About key :=
    ⟨fun key' h => (some.inj h).symm, hmsg⟩
  have hregistered : Adds key 0 s
      (if options.batchingMode ≠ .noAutoReport then s.registerIfNone else s, []) :=
    adds_ite adds_registerIfNone
  refine hregistered.after (Adds.after ?_ (adds_call hfn))
  exact .of_eq rfl rfl rfl rfl

theorem adds_startTripBatchingMultiplex :
    Adds key 1 s (s.startTripBatchingMultiplex key options, []) := by
  have hstart : (ResponseFn.startTrip key options).About key :=
    ⟨fun key' h => (some.inj h).symm, fun msg h => nomatch h⟩
  have hjoin : (ResponseFn.joinTrip key options).About key :=
    ⟨fun key' h => (some.inj h).symm, fun msg h => nomatch h⟩
  unfold startTripBatchingMultiplex
  split
  · refine adds_registerIfNone.after (Adds.after ?_ (adds_callTrip _ _ hstart))
    exact .of_eq rfl rfl rfl rfl
  · exact adds_call hjoin

theorem adds_restartAs : Adds key (if options.batchingMode ≠ .other then 1 else 0) s
      (s.restartAs key options, []) := by
  unfold restartAs
  cases options.batchingMode with
  | routine => exact adds_startBatching fun msg h => nomatch h
  | noAutoReport => exact adds_startBatching fun msg h => nomatch h
  | trip => exact adds_startTripBatchingMultiplex
  | other => exact .of_eq rfl rfl rfl rfl

theorem adds_stopBatching (h : s.isBatchingSession key = true) :
    Adds key 1 s (s.stopBatching key restartNeeded options, []) := by
  obtain ⟨flpOptions, hflp⟩ : ∃ flpOptions, s.mBatchingSessions[key]? = some flpOptions :=
    ⟨_, Std.TreeMap.getElem?_eq_some_getElem (Std.TreeMap.contains_iff_mem.mp h)⟩
  have hfn : (ResponseFn.stopBatching key flpOptions restartNeeded options).About key :=
    ⟨fun key' h => (some.inj h).symm, fun msg h => nomatch h⟩
  unfold stopBatching
  rw [hflp]
  refine Adds.after ?_ (adds_call hfn)
  exact .of_eq rfl rfl rfl rfl

theorem adds_stopTripBatchingMultiplexCommon :
    Adds key ((if restartNeeded = true ∧ options.batchingMode ≠ .other then 1 else 0) +
        if s.hears key.client then 1 else 0) s
      (s.stopTripBatchingMultiplexCommon err key restartNeeded options) := by
  have hdropped : Adds key 0 s ((s.dropTrip key.id).restartRemaining, []) :=
    Adds.after (t := s.dropTrip key.id) (.of_eq rfl rfl rfl rfl) adds_restartRemaining
  have hrestarted : Adds key (if restartNeeded = true ∧ options.batchingMode ≠ .other then 1 else 0)
      s (if restartNeeded then
        ((s.dropTrip key.id).restartRemaining.eraseBatchingSession key).restartAs key options
        else (s.dropTrip key.id).restartRemaining, []) := by
    cases restartNeeded with
    | false => exact hdropped
    | true =>
      rw [if_pos rfl]
      simp only [true_and]
      refine hdropped.after (Adds.after ?_ adds_restartAs)
      exact .of_eq rfl rfl rfl rfl
  have hhears := hrestarted.hears_eq key.client
  exact hhears ▸ hrestarted.trans adds_reportResponse

end BatchingAdapter

/-! ## One answer -/

/-- One answer about the session `key` has been given or is to come, if and
only if `P`. -/
def Once (key : LocationSessionKey) (P : Prop) (s : BatchingAdapter)
    (u : BatchingAdapter × List Output) : Prop :=
  ∃ n, Adds key n s u ∧ (n = 1 ↔ P)

variable {P : Prop} {u : BatchingAdapter × List Output}

theorem Once.congr {Q : Prop} (h : Once key P s u) (hiff : P ↔ Q) : Once key Q s u := by
  obtain ⟨n, hadds, hn⟩ := h
  exact ⟨n, hadds, hn.trans hiff⟩

theorem Once.after (h : Adds key 0 s (t, [])) (h' : Once key P t u) : Once key P s u := by
  obtain ⟨n, hadds, hn⟩ := h'
  exact ⟨n, h.after hadds, hn⟩

namespace Adds

variable {key : LocationSessionKey} {P Q : Prop} {s : BatchingAdapter}
  {u : BatchingAdapter × List Output}

theorem once (h : Adds key 1 s u) (hP : P) : Once key P s u := ⟨1, h, iff_of_true rfl hP⟩

theorem never (h : Adds key 0 s u) (hP : ¬ P) : Once key P s u :=
  ⟨0, h, iff_of_false Nat.zero_ne_one hP⟩

theorem once_ite [Decidable P] (h : Adds key (if P then 1 else 0) s u) : Once key P s u := by
  refine ⟨_, h, ?_⟩
  split
  · rename_i hP
    exact iff_of_true rfl hP
  · rename_i hP
    exact iff_of_false Nat.zero_ne_one hP

theorem once_add [Decidable P] [Decidable Q]
    (h : Adds key ((if P then 1 else 0) + if Q then 1 else 0) s u) : Once key (Q ↔ ¬ P) s u := by
  refine ⟨_, h, ?_⟩
  by_cases hP : P
  · rw [if_pos hP, iff_false_right (not_not_intro hP)]
    split
    · rename_i hQ
      exact iff_of_false (fun h => nomatch h) (not_not_intro hQ)
    · rename_i hQ
      exact iff_of_true rfl hQ
  · rw [if_neg hP, Nat.zero_add, iff_true_right hP]
    split
    · rename_i hQ
      exact iff_of_true rfl hQ
    · rename_i hQ
      exact iff_of_false Nat.zero_ne_one hQ

end Adds

namespace BatchingAdapter

variable {s t : BatchingAdapter} {key : LocationSessionKey} {options : BatchingOptions}
  {err : LocationError} {fn : ResponseFn} {data : UInt32}

theorem once_reportResponse :
    Once key (s.hears key.client = true) s (s, s.reportResponse key.client err key.id) :=
  adds_reportResponse.once_ite

theorem once_report (h : Adds key 0 s (t, [])) :
    Once key (s.hears key.client = true) s (t, t.reportResponse key.client err key.id) :=
  h.hears_eq key.client ▸ Once.after h once_reportResponse

variable {restartNeeded : Bool} {pendingMsg : Option BatchingMsg}

theorem once_stopTripBatchingMultiplex :
    Once key (s.mTripSessions.size ≠ 1 → (s.hears key.client = true ↔
        ¬ (restartNeeded = true ∧ options.batchingMode ≠ .other))) s
      (s.stopTripBatchingMultiplex key restartNeeded options) := by
  have hfn : (ResponseFn.stopTrip key restartNeeded options).About key :=
    ⟨fun key' h => (some.inj h).symm, fun msg h => nomatch h⟩
  unfold stopTripBatchingMultiplex
  split
  · rename_i halone
    exact (adds_call hfn).once fun h => absurd halone h
  · rename_i halone
    exact adds_stopTripBatchingMultiplexCommon.once_add.congr (imp_iff_right halone).symm

theorem once_procStartBatching :
    Once key (s.Answers (.startBatching key options)) s (s.procStartBatching key options) := by
  unfold procStartBatching
  split
  · rename_i hknown
    exact (adds_park (.startBatching key options)).once (Or.inl hknown)
  · rename_i hknown
    refine Once.congr ?_ (or_iff_right hknown).symm
    split
    · rename_i hvalid
      refine Once.congr ?_ (and_iff_right hvalid).symm
      have hmsg : ∀ msg ∈ some (BatchingMsg.startBatching key options), msg.session = key := by
        intro msg h
        obtain rfl := some.inj h
        rfl
      cases options.batchingMode with
      | routine => exact (adds_startBatching hmsg).once fun h => nomatch h
      | noAutoReport => exact (adds_startBatching hmsg).once fun h => nomatch h
      | trip => exact adds_startTripBatchingMultiplex.once fun h => nomatch h
      | other => exact once_reportResponse.congr (imp_iff_right rfl).symm
    · rename_i hrefused
      exact Adds.never (.of_eq rfl rfl rfl rfl) fun h => hrefused h.1

theorem once_procUpdateBatching :
    Once key (s.Answers (.updateBatching key options)) s (s.procUpdateBatching key options) := by
  unfold procUpdateBatching
  split
  · rename_i hknown
    exact (adds_park (.updateBatching key options)).once (Or.inl hknown)
  · rename_i hknown
    refine Once.congr ?_ (or_iff_right hknown).symm
    split
    · rename_i hvalid
      refine Once.congr ?_ (and_iff_right hvalid).symm
      split
      · rename_i htrip
        refine once_stopTripBatchingMultiplex.congr ?_
        rw [imp_iff_right htrip]
        refine imp_congr_right fun _ => iff_false_right ?_
        exact not_not_intro ⟨rfl, hvalid.2.2⟩
      · rename_i hroutine
        exact (adds_stopBatching hvalid.1).once fun h => absurd h hroutine
    · rename_i hrefused
      exact Adds.never (.of_eq rfl rfl rfl rfl) fun h => hrefused h.1

theorem once_procStopBatching :
    Once key (s.Answers (.stopBatching key)) s (s.procStopBatching key) := by
  unfold procStopBatching
  split
  · rename_i hknown
    exact (adds_park (.stopBatching key)).once (Or.inl hknown)
  · rename_i hknown
    refine Once.congr ?_ (or_iff_right hknown).symm
    split
    · rename_i hvalid
      refine Once.congr ?_ (and_iff_right hvalid).symm
      split
      · rename_i htrip
        refine once_stopTripBatchingMultiplex.congr ?_
        rw [imp_iff_right htrip]
        exact imp_congr_right fun _ => iff_true_right fun h => nomatch h.1
      · rename_i hroutine
        exact (adds_stopBatching hvalid).once fun h => absurd h hroutine
    · rename_i hrefused
      exact Adds.never (.of_eq rfl rfl rfl rfl) fun h => hrefused h.1

theorem once_proc (msg : BatchingMsg) : Once msg.session (s.Answers msg) s (s.proc msg) := by
  cases msg with
  | startBatching key options => exact once_procStartBatching
  | updateBatching key options => exact once_procUpdateBatching
  | stopBatching key => exact once_procStopBatching

/-! ### The answers of LocApi -/

theorem adds_putBackIf (hmsg : ∀ msg ∈ pendingMsg, msg.session = key) :
    Adds key (if err = .gnssDisabled ∧ pendingMsg.isSome = true then 1 else 0) s
      (if err = .gnssDisabled then { s with
        mPendingGnssEnabledMsgs := s.mPendingGnssEnabledMsgs ++ pendingMsg.toList } else s,
        []) := by
  by_cases hdisabled : err = .gnssDisabled
  · have hadds := adds_putBack (s := s) hmsg
    rw [if_pos hdisabled]
    cases pendingMsg with
    | none =>
      rw [if_neg fun h => nomatch h.2]
      exact hadds
    | some msg =>
      rw [if_pos ⟨hdisabled, rfl⟩]
      exact hadds
  · rw [if_neg hdisabled, if_neg fun h => hdisabled h.1]
    exact .of_eq rfl rfl rfl rfl

theorem once_startBatchingResponse (hmsg : ∀ msg ∈ pendingMsg, msg.session = key) :
    Once key (s.hears key.client = true ↔ ¬ (err = .gnssDisabled ∧ pendingMsg.isSome = true)) s
      (s.startBatchingResponse key options pendingMsg err) := by
  unfold startBatchingResponse
  dsimp only
  have herased : Adds key 0 s
      (if s.engineLockState = .enabled ∧ err ≠ .success then s.eraseBatchingSession key
        else s, []) := adds_ite (.of_eq rfl rfl rfl rfl)
  generalize (if s.engineLockState = .enabled ∧ err ≠ .success then s.eraseBatchingSession key
    else s) = s₁ at herased ⊢
  have hunregistered : Adds key 0 s₁ (if err ≠ .success ∧ options.batchingMode ≠ .noAutoReport
      then s₁.unregisterIfNone else s₁, []) := adds_ite adds_unregisterIfNone
  generalize (if err ≠ .success ∧ options.batchingMode ≠ .noAutoReport then s₁.unregisterIfNone
    else s₁) = s₂ at hunregistered ⊢
  have hputBack : Adds key (if err = .gnssDisabled ∧ pendingMsg.isSome = true then 1 else 0) s₂
      (if err = .gnssDisabled then { s₂ with
        mPendingGnssEnabledMsgs := s₂.mPendingGnssEnabledMsgs ++ pendingMsg.toList } else s₂,
        []) := adds_putBackIf hmsg
  have hall := (herased.after hunregistered).after hputBack
  have hhears := hall.hears_eq key.client
  exact (hhears ▸ hall.trans adds_reportResponse).once_add

theorem once_stopBatchingResponse {flpOptions : BatchingOptions} :
    Once key (s.hears key.client = true ↔
        ¬ (¬ (s.engineLockState = .enabled ∧ err ≠ .success) ∧ restartNeeded = true ∧
          options.batchingMode ≠ .other)) s
      (s.stopBatchingResponse key flpOptions restartNeeded options err) := by
  unfold stopBatchingResponse
  dsimp only
  have hchanged : Adds key
      (if ¬ (s.engineLockState = .enabled ∧ err ≠ .success) ∧ restartNeeded = true ∧
        options.batchingMode ≠ .other then 1 else 0) s
      (if s.engineLockState = .enabled ∧ err ≠ .success then s.saveBatchingSession key options
        else if restartNeeded then
          (if flpOptions.batchingMode ≠ .noAutoReport then s.unregisterIfNone else s).restartAs
            key options
        else if flpOptions.batchingMode ≠ .noAutoReport then s.unregisterIfNone else s, []) := by
    by_cases hfailed : s.engineLockState = .enabled ∧ err ≠ .success
    · rw [if_pos hfailed, if_neg fun h => h.1 hfailed]
      exact .of_eq rfl rfl rfl rfl
    · have hunregistered : Adds key 0 s (if flpOptions.batchingMode ≠ .noAutoReport then
          s.unregisterIfNone else s, []) := adds_ite adds_unregisterIfNone
      rw [if_neg hfailed]
      simp only [hfailed, not_false_eq_true, true_and]
      cases restartNeeded with
      | false =>
        rw [if_neg fun h => nomatch h.1]
        exact hunregistered
      | true =>
        simp only [true_and, if_true]
        exact hunregistered.after adds_restartAs
  have hhears := hchanged.hears_eq key.client
  exact (hhears ▸ hchanged.trans adds_reportResponse).once_add

theorem once_startTripResponse :
    Once key (s.hears key.client = true) s (s.startTripResponse key options err) := by
  unfold startTripResponse
  refine once_report ?_
  split
  · exact .of_eq rfl rfl rfl rfl
  · refine Adds.after (t := { s.eraseBatchingSession key with
      mTripSessions := s.mTripSessions.erase key.id }) ?_ adds_unregisterIfNone
    exact .of_eq rfl rfl rfl rfl

theorem once_joinTripResponse :
    Once key (s.restartForTrip options err data = none → s.hears key.client = true) s
      (s.joinTripResponse key options err data) := by
  have hfn : (ResponseFn.joinedTrip key).About key :=
    ⟨fun key' h => (some.inj h).symm, fun msg h => nomatch h⟩
  have hsaved : Adds key 0 s (if err = .success then s.saveTrip key.id options data else s, []) :=
    adds_ite (.of_eq rfl rfl rfl rfl)
  unfold joinTripResponse
  cases s.restartForTrip options err data with
  | none => exact (once_report hsaved).congr (imp_iff_right rfl).symm
  | some restart =>
    refine Adds.once ?_ fun h => nomatch h
    refine hsaved.after (Adds.after ?_ (adds_callTrip _ _ hfn))
    exact .of_eq rfl rfl rfl rfl

theorem once_stopTripResponse : Once key (s.hears key.client = true ↔
        ¬ (restartNeeded = true ∧ options.batchingMode ≠ .other)) s
      (s.stopTripResponse key restartNeeded options err) := by
  unfold stopTripResponse
  have hunregistered : Adds key 0 s (if err = .success ∧ s.autoReportBatchingSessionsCount = 1 then
      { s with batchFull := false } else s, []) := adds_ite (.of_eq rfl rfl rfl rfl)
  have hhears := hunregistered.hears_eq key.client
  exact hhears ▸ Once.after hunregistered adds_stopTripBatchingMultiplexCommon.once_add

theorem once_respond (hfn : fn.About key) (hsession : fn.session = some key) :
    Once key (s.PassesOn err data fn) s (s.respond fn err data) := by
  cases fn with
  | startBatching key' options pendingMsg =>
    obtain rfl := some.inj hsession
    exact once_startBatchingResponse hfn.pendingMsg
  | stopBatching key' flpOptions restartNeeded batchOptions =>
    obtain rfl := some.inj hsession
    exact once_stopBatchingResponse
  | startTrip key' options =>
    obtain rfl := some.inj hsession
    exact once_startTripResponse
  | joinTrip key' options =>
    obtain rfl := some.inj hsession
    exact once_joinTripResponse
  | joinedTrip key' =>
    obtain rfl := some.inj hsession
    exact once_reportResponse
  | stopTrip key' restartNeeded batchOptions =>
    obtain rfl := some.inj hsession
    exact once_stopTripResponse
  | _ => cases hsession

theorem passesOn_of_session (hsession : fn.session = none) : s.PassesOn err data fn := by
  cases fn with
  | ignore => trivial
  | stopLastTrip => trivial
  | queryTrips queryAccumulatedDistance minRemainingDistance minTBFInterval accDist => trivial
  | restartTrips accumulatedDistance distance interval => trivial
  | restartSessions => trivial
  | _ => cases hsession

theorem adds_respond (hsession : fn.session = none) : Adds key 0 s (s.respond fn err data) := by
  cases fn with
  | ignore => exact .of_eq rfl rfl rfl rfl
  | stopLastTrip => exact .of_eq rfl rfl rfl rfl
  | queryTrips queryAccumulatedDistance minRemainingDistance minTBFInterval accDist =>
    exact adds_ite (adds_callTrip_of_session _ _ rfl)
  | restartTrips accumulatedDistance distance interval =>
    exact adds_ite (.of_eq rfl rfl rfl rfl)
  | restartSessions => exact adds_ite (.of_eq rfl rfl rfl rfl)
  | _ => cases hsession

end BatchingAdapter

/-! ## The other events -/

/-- From `s` to `t` something has been added. -/
def Grown (s t : BatchingAdapter) : Prop := ∃ calls parked disabled, Grows s t calls parked disabled

theorem Grown.of_eq (hcalls : t.unanswered = s.unanswered)
    (hparked : t.mPendingMsgs = s.mPendingMsgs)
    (hdisabled : t.mPendingGnssEnabledMsgs = s.mPendingGnssEnabledMsgs) : Grown s t :=
  ⟨[], [], [], .of_eq hcalls hparked hdisabled⟩

theorem Grown.trans {u : BatchingAdapter} (h : Grown s t) (h' : Grown t u) : Grown s u := by
  obtain ⟨calls, parked, disabled, hgrows⟩ := h
  obtain ⟨calls', parked', disabled', hgrows'⟩ := h'
  exact ⟨_, _, _, hgrows.trans hgrows'⟩

theorem Adds.grown {n : Nat} (h : Adds key n s u) : Grown s u.1 := by
  obtain ⟨-, calls, parked, disabled, hgrows, -⟩ := h
  exact ⟨calls, parked, disabled, hgrows⟩

namespace BatchingAdapter

variable {s : BatchingAdapter}

theorem grown_stopClientSession (t : BatchingAdapter × List Output) (key : LocationSessionKey)
    (mode : BatchingMode) : Grown t.1 (stopClientSession t key mode).1 := by
  unfold stopClientSession
  split
  · unfold stopBatching
    dsimp only
    split
    · exact .of_eq rfl rfl rfl
    · rename_i flpOptions hflp
      exact ⟨[.stopBatching key flpOptions false .default], [], [], rfl,
        (append_nil _).symm, (append_nil _).symm⟩
  · have honce : Once key _ t.1 (t.1.stopTripBatchingMultiplex key false .default) :=
      once_stopTripBatchingMultiplex
    obtain ⟨n, hadds, -⟩ := honce
    exact hadds.grown

theorem grown_removeClient (client : Nat) : Grown s (s.removeClient client).1 := by
  have hfoldl : ∀ (sessions : List (LocationSessionKey × BatchingOptions))
      (t : BatchingAdapter × List Output), Grown t.1 (sessions.foldl
        (fun s entry => stopClientSession s entry.1 entry.2.batchingMode) t).1 := by
    intro sessions
    induction sessions with
    | nil => exact fun t => .of_eq rfl rfl rfl
    | cons entry sessions ih =>
      intro t
      exact (grown_stopClientSession t entry.1 entry.2.batchingMode).trans (ih _)
  exact (hfoldl _ (s, [])).trans (.of_eq rfl rfl rfl)

theorem grown_reportCompletedTrips (accumulatedDistance : UInt32) :
    Grown s (s.reportCompletedTrips accumulatedDistance).1 := by
  unfold reportCompletedTrips
  split
  · exact .of_eq rfl rfl rfl
  · refine Grown.trans (t := s.countTrips accumulatedDistance) (.of_eq rfl rfl rfl) ?_
    exact (adds_restartTripBatching : Adds ⟨0, 0⟩ 0 _ _).grown

theorem grown_restartSessions : Grown s s.restartSessions := by
  have htrips : ∀ t : BatchingAdapter, Grown t t.restartTrips := by
    intro t
    unfold restartTrips
    split
    · exact ⟨[.restartSessions], [], [], rfl, (append_nil _).symm, (append_nil _).symm⟩
    · exact .of_eq rfl rfl rfl
  have hroutines : ∀ t : BatchingAdapter, Grown t t.restartRoutines := fun t =>
    ⟨_, [], [], rfl, (append_nil _).symm, (append_nil _).symm⟩
  unfold restartSessions
  dsimp only
  split
  · refine Grown.trans (t := { s with batchFull := true }) (.of_eq rfl rfl rfl) ?_
    exact (hroutines _).trans (htrips _)
  · exact (hroutines _).trans (htrips _)

theorem grown_ite {p : Prop} [Decidable p] (h : Grown s t) : Grown s (if p then t else s) := by
  split
  · exact h
  · exact .of_eq rfl rfl rfl

theorem grown_startBatchingResponse (key : LocationSessionKey) (options : BatchingOptions)
    (pendingMsg : Option BatchingMsg) (err : LocationError) :
    Grown s (s.startBatchingResponse key options pendingMsg err).1 := by
  have herased : Grown s (if s.engineLockState = .enabled ∧ err ≠ .success then
      s.eraseBatchingSession key else s) := grown_ite (.of_eq rfl rfl rfl)
  unfold startBatchingResponse
  refine herased.trans (Grown.trans (grown_ite ?_) (grown_ite ?_))
  · exact (adds_unregisterIfNone : Adds key 0 _ _).grown
  · exact ⟨[], [], pendingMsg.toList, (append_nil _).symm, (append_nil _).symm, rfl⟩

theorem grown_respond (fn : ResponseFn) (err : LocationError) (data : UInt32) :
    Grown s (s.respond fn err data).1 := by
  cases hsession : fn.session with
  | none => exact (adds_respond hsession : Adds ⟨0, 0⟩ 0 _ _).grown
  | some key =>
    cases fn with
    | startBatching key' options pendingMsg => exact grown_startBatchingResponse _ _ _ _
    | _ =>
      have habout : ResponseFn.About key _ :=
        ⟨fun key' h => some.inj (h.symm.trans hsession), fun msg h => nomatch h⟩
      obtain ⟨n, hadds, -⟩ : Once key (s.PassesOn err data _) s (s.respond _ err data) :=
        once_respond habout hsession
      exact hadds.grown

end BatchingAdapter

end LocStack.Batching
