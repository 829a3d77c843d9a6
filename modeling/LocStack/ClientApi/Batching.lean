/-
# `LocStack.ClientApi.Batching` — the batching session, at the client and at the daemon

Whether START or UPDATE is sent for a batching session is decided by the id of
the *tracking* session, and UPDATE only if the options differ from those that
were stored the moment before.  So none is sent while there is a tracking
session, and the daemon ignores a START while it runs a batching session.
What was asked for before the client is registered is stored, and not asked
for again.

`batched_of_fits`: with the queue empty a registered client has the batching
session that was requested last, in every run in which

* a start that a registered client takes finds no tracking session and no
  batching session that the daemon runs, or it is for the very session that
  the daemon runs, or another request waits behind it;
* when the registration is taken, no batching session is requested, or a
  request waits behind it.
-/
import LocStack.ClientApi.Tracking

namespace LocStack.ClientApi

open Base

/-! ## What is requested -/

/-- The batching session that a message asks for. -/
def ClientMsg.batchingRequest (requested : Option BatchOptions) : ClientMsg → Option BatchOptions
  | .startBatching batchOptions => some batchOptions
  -- what the task itself puts into the queue
  | .updateBatchingOptions batchOptions => requested.map fun _ => batchOptions
  | .stopBatching => none
  | _ => requested

/-- The calls for a batching session. -/
def ClientMsg.asksForBatching : ClientMsg → Bool
  | .startBatching _ | .stopBatching => true
  | _ => false

/-- The session that the messages of a queue ask for, from one on. -/
def batchingRequestedBy (requested : Option BatchOptions) (queue : List ClientMsg) :
    Option BatchOptions :=
  queue.foldl (fun r msg => msg.batchingRequest r) requested

/-- A client and its daemon, and the batching session that the calls have asked
for. -/
structure BatchedClient where
  impl : LocationClientApiImpl
  /-- the message task's -/
  queue : List ClientMsg
  daemon : DaemonClient
  /-- the options of the last request; `none` after a stop -/
  requested : Option BatchOptions

namespace BatchedClient

def new : BatchedClient := ⟨.new, [], .new, none⟩

variable (s : BatchedClient)

/-- The message is taken from a queue that has `rest` behind it. -/
def process (msg : ClientMsg) (rest : List ClientMsg) : BatchedClient :=
  let (impl, outs) := s.impl.proc msg
  { s with
    impl
    queue := rest ++ posts outs
    daemon := (s.daemon.incarnation msg).receive outs }

def step : TaskEvent → BatchedClient × List Empty
  | .put msg =>
    ({ s with queue := s.queue ++ [msg], requested := msg.batchingRequest s.requested }, [])
  | .take => match s.queue with
      | [] => (s, [])
      | msg :: rest => (s.process msg rest, [])

/-! ## As it should be -/

/-- Once all is taken by a client that is registered, the daemon runs the
batching session that was requested last. -/
def Batched : Prop :=
  s.impl.mHalRegistered = true → s.queue = [] → s.daemon.batching = s.requested

/-- A request waits. -/
def Waits (queue : List ClientMsg) : Prop := ∃ msg ∈ queue, msg.asksForBatching = true

/-- What is asked of a message when it is taken. -/
def Fits : TaskEvent → Prop
  | .put _ => True
  | .take => match s.queue with
      | .startBatching batchOptions :: rest => s.impl.mHalRegistered = true →
          s.impl.mSessionId = false ∧ s.daemon.batching = none ∨
            s.daemon.batching = some batchOptions ∨ Waits rest
      | .capabilities :: rest => s.impl.mHalRegistered = false → s.requested = none ∨ Waits rest
      | _ => True

end BatchedClient

/-! ## What the queue asks for -/

theorem batchingRequestedBy_append (requested : Option BatchOptions)
    (queue more : List ClientMsg) :
    batchingRequestedBy requested (queue ++ more) =
      batchingRequestedBy (batchingRequestedBy requested queue) more :=
  List.foldl_append

theorem ClientMsg.batchingRequest_of_asks {msg : ClientMsg} (h : msg.asksForBatching = true)
    (r r' : Option BatchOptions) : msg.batchingRequest r = msg.batchingRequest r' := by
  cases msg with
  | startBatching batchOptions => rfl
  | stopBatching => rfl
  | _ => cases h

variable {queue : List ClientMsg}

theorem batchingRequestedBy_of_waits (h : BatchedClient.Waits queue) (r r' : Option BatchOptions) :
    batchingRequestedBy r queue = batchingRequestedBy r' queue := by
  induction queue generalizing r r' with
  | nil =>
    obtain ⟨msg, hmsg, -⟩ := h
    cases hmsg
  | cons head queue ih =>
    obtain ⟨msg, hmsg, hasks⟩ := h
    cases hmsg with
    | head =>
      exact congrArg (batchingRequestedBy · queue) (head.batchingRequest_of_asks hasks r r')
    | tail _ hmsg => exact ih ⟨msg, hmsg, hasks⟩ _ _

theorem batchingRequestedBy_none {r : Option BatchOptions}
    (h : batchingRequestedBy r queue = none) : batchingRequestedBy none queue = none := by
  induction queue generalizing r with
  | nil => rfl
  | cons head queue ih =>
    have hqueue : batchingRequestedBy (head.batchingRequest r) queue = none := h
    change batchingRequestedBy (head.batchingRequest none) queue = none
    cases head with
    | startBatching batchOptions => exact hqueue
    | stopBatching => exact hqueue
    | _ => exact ih hqueue

/-! ## What is sent -/

namespace DaemonClient

variable (d : DaemonClient)

theorem batching_start (options : BatchOptions) :
    (d.serve (.startBatching options)).batching = d.batching.or (some options) := by
  cases hbatching : d.batching with
  | none => exact congrArg batching (if_pos hbatching)
  | some running =>
    have hsame : d.serve (.startBatching options) = d :=
      if_neg (by rw [hbatching]; exact Option.some_ne_none running)
    exact (congrArg batching hsame).trans hbatching

theorem batching_update (options : BatchOptions) :
    (d.serve (.updateBatchingOptions options)).batching = d.batching.map fun _ => options := by
  cases hbatching : d.batching with
  | none =>
    have hsame : d.serve (.updateBatchingOptions options) = d := if_neg (not_not.mpr hbatching)
    exact (congrArg batching hsame).trans hbatching
  | some running =>
    exact congrArg batching (if_pos (by rw [hbatching]; exact Option.some_ne_none running))

end DaemonClient

namespace LocationClientApiImpl

variable {s : LocationClientApiImpl}

/-- What is not of the batching session leaves it alone. -/
structure Aside (s : LocationClientApiImpl) (p : LocationClientApiImpl × List Out) : Prop where
  held : p.1.mBatchingId = s.mBatchingId
  posted : ∀ requested, batchingRequestedBy requested (posts p.2) = requested
  sent : ∀ d : DaemonClient, (d.receive p.2).batching = d.batching

theorem aside_invoke (responseCode : LocationResponse) :
    Aside s (s.invokePositionSessionResponseCb responseCode) := by
  unfold invokePositionSessionResponseCb
  split
  · cases s.mResponseCb <;> exact ⟨rfl, fun _ => rfl, fun _ => rfl⟩
  · exact ⟨rfl, fun _ => rfl, fun _ => rfl⟩

theorem aside_updateCallbacks (callbacks : Daemon.LocationCallbacks) :
    Aside s (s.updateCallbacks callbacks) := by
  unfold updateCallbacks
  dsimp only
  split
  · split <;> exact ⟨rfl, fun _ => rfl, fun _ => rfl⟩
  · exact ⟨rfl, fun _ => rfl, fun _ => rfl⟩

theorem batching_serve_tracking (d : DaemonClient) (locOptions : TrackingOptions) :
    (d.serve (.startTracking locOptions)).batching = d.batching ∧
      (d.serve (.updateTrackingOptions locOptions)).batching = d.batching := by
  unfold DaemonClient.serve
  constructor <;> dsimp only <;> split <;> rfl

theorem aside_updateTrackingOptionsSync (option : TrackingOptions) :
    Aside s (s.updateTrackingOptionsSync option) := by
  unfold updateTrackingOptionsSync
  split
  · exact ⟨rfl, fun _ => rfl, fun _ => rfl⟩
  split
  · exact ⟨rfl, fun _ => rfl, fun d => (batching_serve_tracking d option).1⟩
  · exact ⟨rfl, fun _ => rfl, fun d => (batching_serve_tracking d option).2⟩

theorem aside_startTracking (option : TrackingOptions) : Aside s (s.startTracking option) := by
  unfold startTracking
  split
  · exact ⟨rfl, fun _ => rfl, fun _ => rfl⟩
  split
  · split
    · exact ⟨rfl, fun _ => rfl, fun _ => rfl⟩
    · exact ⟨rfl, fun _ => rfl, fun d => (batching_serve_tracking d option).1⟩
  split
  · exact aside_updateTrackingOptionsSync option
  · exact aside_invoke _

theorem aside_stopTracking : Aside s s.stopTracking := by
  unfold stopTracking
  split
  · dsimp only
    split <;> exact ⟨rfl, fun _ => rfl, fun _ => rfl⟩
  · exact ⟨rfl, fun _ => rfl, fun _ => rfl⟩

theorem aside_capabilites : Aside s s.capabilitesCallback := by
  unfold capabilitesCallback
  dsimp only
  split <;> split <;> exact ⟨rfl, fun _ => rfl, fun _ => rfl⟩

variable {msg : ClientMsg} {batchOptions : BatchOptions}

theorem aside_proc (hmsg : ∀ r, msg.batchingRequest r = r) : Aside s (s.proc msg) := by
  cases msg with
  | updateCallbackFunctions cbs reportCbType =>
    cases reportCbType <;> exact ⟨rfl, fun _ => rfl, fun _ => rfl⟩
  | updateCallbacks callbacks => exact aside_updateCallbacks callbacks
  | startTracking option => exact aside_startTracking option
  | stopTracking => exact aside_stopTracking
  | startBatching batchOptions => exact absurd (hmsg none) (Option.some_ne_none _)
  | updateBatchingOptions batchOptions =>
    -- it changes one of the two
    have hzero : some batchOptions = some BatchOptions.zero := hmsg (some .zero)
    have hother : some batchOptions = some ⟨1, 0, .routine⟩ := hmsg (some ⟨1, 0, .routine⟩)
    exact absurd (hzero.symm.trans hother) (by decide)
  | stopBatching => exact absurd (hmsg (some .zero)).symm (Option.some_ne_none _)
  | capabilities => exact aside_capabilites
  | halReady => exact ⟨rfl, fun _ => rfl, fun _ => rfl⟩
  | clientRegister => exact ⟨rfl, fun _ => rfl, fun _ => rfl⟩
  | response msgId err =>
    unfold proc
    dsimp only
    split
    · exact aside_invoke err
    · exact ⟨rfl, fun _ => rfl, fun _ => rfl⟩

theorem registered_proc (hcapabilities : msg ≠ .capabilities) (hhalReady : msg ≠ .halReady) :
    (s.proc msg).1.mHalRegistered = s.mHalRegistered := by
  cases hkind : msg.ofSession with
  | false => exact (quiet_proc hkind).2.1
  | true =>
    cases msg with
    | startTracking option =>
      unfold proc startTracking updateTrackingOptionsSync invokePositionSessionResponseCb
      dsimp only
      split
      · rfl
      split
      · rfl
      split
      · rfl
      split <;> rfl
    | stopTracking =>
      unfold proc stopTracking
      dsimp only
      split <;> rfl
    | capabilities => exact absurd rfl hcapabilities
    | halReady => exact absurd rfl hhalReady
    | _ => cases hkind

theorem startBatching_tracking (hregistered : s.mHalRegistered = true)
    (hactive : s.mSessionId = true) :
    s.startBatching batchOptions = ({ s with mBatchingOptions := batchOptions }, []) := by
  unfold startBatching updateBatchingOptions
  dsimp only
  rw [hregistered, hactive, if_neg (not_not.mpr rfl)]
  rfl

theorem startBatching_alone (hregistered : s.mHalRegistered = true)
    (hinactive : s.mSessionId = false) :
    s.startBatching batchOptions =
      ({ s with mBatchingOptions := batchOptions, mBatchingId := true },
        [.send (.startBatching batchOptions)]) := by
  unfold startBatching
  dsimp only
  rw [hregistered, hinactive]
  rfl

end LocationClientApiImpl

open LocationClientApiImpl

/-! ## The queue, and the daemon behind it -/

namespace BatchedClient

variable {s : BatchedClient} {msg : ClientMsg} {rest : List ClientMsg}

/-- What the state is in before a message is taken. -/
structure Ahead (s : BatchedClient) : Prop where
  /-- what waits leads from the session there is to the one requested -/
  asked : ∃ r, batchingRequestedBy r s.queue = s.requested ∧
    (s.impl.mHalRegistered = true → s.daemon.batching = r)
  unregistered : s.impl.mHalRegistered = false → s.daemon.batching = none
  /-- a session that runs is one that the client can stop -/
  held : s.daemon.batching ≠ none → s.impl.mBatchingId = true

theorem Ahead.batched (h : Ahead s) : Batched s := by
  intro hregistered hqueue
  obtain ⟨r, hrequested, hrunning⟩ := h.asked
  rw [hqueue] at hrequested
  rw [hrunning hregistered]
  exact hrequested

theorem Ahead.new : Ahead new := ⟨⟨none, rfl, fun _ => rfl⟩, fun _ => rfl, absurd rfl⟩

theorem Ahead.put (h : Ahead s) (msg : ClientMsg) : Ahead (s.step (.put msg)).1 where
  asked := by
    obtain ⟨r, hrequested, hrunning⟩ := h.asked
    refine ⟨r, ?_, hrunning⟩
    change batchingRequestedBy r (s.queue ++ [msg]) = msg.batchingRequest s.requested
    rw [batchingRequestedBy_append, hrequested]
    rfl
  unregistered := h.unregistered
  held := h.held

theorem Ahead.asked_of_cons (h : Ahead s) (hqueue : s.queue = msg :: rest) :
    ∃ r, batchingRequestedBy (msg.batchingRequest r) rest = s.requested ∧
      (s.impl.mHalRegistered = true → s.daemon.batching = r) := by
  obtain ⟨r, hrequested, hrunning⟩ := h.asked
  rw [hqueue] at hrequested
  exact ⟨r, hrequested, hrunning⟩

theorem requestedBy_process {r : Option BatchOptions}
    (hposted : ∀ requested, batchingRequestedBy requested (posts (s.impl.proc msg).2) = requested) :
    batchingRequestedBy r (s.process msg rest).queue = batchingRequestedBy r rest := by
  change batchingRequestedBy r (rest ++ posts (s.impl.proc msg).2) = _
  rw [batchingRequestedBy_append, hposted]

/-- A message that is not of the batching session, taken from one incarnation
of the daemon. -/
theorem Ahead.process_aside (h : Ahead s) (hqueue : s.queue = msg :: rest)
    (hmsg : ∀ r, msg.batchingRequest r = r) (hcapabilities : msg ≠ .capabilities)
    (hhalReady : msg ≠ .halReady) : Ahead (s.process msg rest) := by
  have haside := aside_proc (s := s.impl) hmsg
  have hregistered := registered_proc (s := s.impl) hcapabilities hhalReady
  have hbatching : (s.process msg rest).daemon.batching = s.daemon.batching := by
    change ((s.daemon.incarnation msg).receive (s.impl.proc msg).2).batching = _
    rw [haside.sent, DaemonClient.incarnation, if_neg hhalReady]
  refine ⟨?_, ?_, ?_⟩
  · obtain ⟨r, hrequested, hrunning⟩ := h.asked_of_cons hqueue
    refine ⟨r, ?_, fun hafter => ?_⟩
    · rw [requestedBy_process haside.posted]
      rw [hmsg] at hrequested
      exact hrequested
    · rw [hbatching]
      exact hrunning (hregistered.symm.trans hafter)
  · intro hafter
    rw [hbatching]
    exact h.unregistered (hregistered.symm.trans hafter)
  · intro hsome
    rw [hbatching] at hsome
    exact haside.held.trans (h.held hsome)

theorem Ahead.process_halReady (h : Ahead s) (hqueue : s.queue = .halReady :: rest) :
    Ahead (s.process .halReady rest) := by
  refine ⟨?_, fun _ => rfl, absurd rfl⟩
  obtain ⟨r, hrequested, -⟩ := h.asked_of_cons hqueue
  refine ⟨r, ?_, nofun⟩
  rw [requestedBy_process fun _ => rfl]
  exact hrequested

/-- The registration: nothing runs yet, and nothing that was requested is
asked for again. -/
theorem Ahead.process_capabilities (h : Ahead s) (hqueue : s.queue = .capabilities :: rest)
    (hfits : s.impl.mHalRegistered = false → s.requested = none ∨ Waits rest) :
    Ahead (s.process .capabilities rest) := by
  have haside : Aside s.impl s.impl.capabilitesCallback := aside_capabilites
  have hbatching : (s.process .capabilities rest).daemon.batching = s.daemon.batching :=
    haside.sent s.daemon
  have hregistered : (s.process .capabilities rest).impl.mHalRegistered = true := by
    change s.impl.capabilitesCallback.1.mHalRegistered = true
    unfold capabilitesCallback
    dsimp only
    split <;> rfl
  obtain ⟨r, hrequested, hrunning⟩ := h.asked_of_cons hqueue
  change batchingRequestedBy r rest = s.requested at hrequested
  refine ⟨⟨s.daemon.batching, ?_, fun _ => hbatching⟩, fun hafter => ?_, fun hsome => ?_⟩
  · have hposted : ∀ requested,
        batchingRequestedBy requested (posts (s.impl.proc .capabilities).2) = requested :=
      haside.posted
    rw [requestedBy_process hposted]
    change batchingRequestedBy s.daemon.batching rest = s.requested
    cases hbefore : s.impl.mHalRegistered with
    | true => rwa [hrunning hbefore]
    | false =>
      rw [h.unregistered hbefore]
      cases hfits hbefore with
      | inl hnone =>
        rw [hnone] at hrequested ⊢
        exact batchingRequestedBy_none hrequested
      | inr hwaits => rw [batchingRequestedBy_of_waits hwaits none r, hrequested]
  · exact absurd (hregistered.symm.trans hafter) nofun
  · rw [hbatching] at hsome
    exact haside.held.trans (h.held hsome)

variable {batchOptions : BatchOptions}

theorem Ahead.process_update (h : Ahead s)
    (hqueue : s.queue = .updateBatchingOptions batchOptions :: rest) :
    Ahead (s.process (.updateBatchingOptions batchOptions) rest) := by
  have hbatching : (s.process (.updateBatchingOptions batchOptions) rest).daemon.batching =
      s.daemon.batching.map fun _ => batchOptions := s.daemon.batching_update batchOptions
  obtain ⟨r, hrequested, hrunning⟩ := h.asked_of_cons hqueue
  refine ⟨⟨r.map fun _ => batchOptions, ?_, fun hafter => ?_⟩, fun hafter => ?_, fun hsome => ?_⟩
  · rw [requestedBy_process fun _ => rfl]
    exact hrequested
  · rw [hbatching, hrunning hafter]
  · rw [hbatching, h.unregistered hafter]
    rfl
  · refine h.held fun hnone => hsome ?_
    rw [hbatching, hnone]
    rfl

theorem Ahead.process_stopBatching (h : Ahead s) (hqueue : s.queue = .stopBatching :: rest) :
    Ahead (s.process .stopBatching rest) := by
  have hposted : ∀ requested,
      batchingRequestedBy requested (posts (s.impl.proc .stopBatching).2) = requested := by
    intro requested
    unfold proc stopBatching
    dsimp only
    split <;> rfl
  have hbatching : (s.process .stopBatching rest).daemon.batching = none := by
    change (s.daemon.receive s.impl.stopBatching.2).batching = none
    unfold stopBatching
    split
    · rfl
    · rename_i hid
      exact not_not.mp fun hsome => hid (h.held hsome)
  refine ⟨⟨none, ?_, fun _ => hbatching⟩, fun _ => hbatching, absurd hbatching⟩
  obtain ⟨r, hrequested, -⟩ := h.asked_of_cons hqueue
  rw [requestedBy_process hposted]
  exact hrequested

theorem Ahead.process_startBatching (h : Ahead s)
    (hqueue : s.queue = .startBatching batchOptions :: rest) (hfits : s.impl.mHalRegistered = true →
      s.impl.mSessionId = false ∧ s.daemon.batching = none ∨
        s.daemon.batching = some batchOptions ∨ Waits rest) :
    Ahead (s.process (.startBatching batchOptions) rest) := by
  obtain ⟨r, hrequested, -⟩ := h.asked_of_cons hqueue
  change batchingRequestedBy (some batchOptions) rest = s.requested at hrequested
  cases hregistered : s.impl.mHalRegistered with
  | false =>
    have hproc : s.impl.proc (.startBatching batchOptions) =
        ({ s.impl with mBatchingOptions := batchOptions }, []) := if_pos hregistered
    unfold process
    rw [hproc]
    refine ⟨⟨some batchOptions, ?_, fun hafter => ?_⟩, fun _ => h.unregistered hregistered, h.held⟩
    · change batchingRequestedBy _ (rest ++ []) = s.requested
      rw [List.append_nil]
      exact hrequested
    · exact absurd (hregistered.symm.trans hafter) nofun
  | true =>
    -- what the daemon runs is what the rest of the queue starts from
    have hrest : ∀ running : Option BatchOptions,
        (s.impl.mSessionId = false ∧ s.daemon.batching = none → running = some batchOptions) →
          (s.daemon.batching = some batchOptions → running = some batchOptions) →
            batchingRequestedBy running rest = s.requested := by
      intro running hfirst hsame
      obtain hnone | hrunning | hwaits := hfits hregistered
      · rw [hfirst hnone, hrequested]
      · rw [hsame hrunning, hrequested]
      · rw [batchingRequestedBy_of_waits hwaits running (some batchOptions), hrequested]
    cases hactive : s.impl.mSessionId with
    | false =>
      have hproc : s.impl.proc (.startBatching batchOptions) =
          ({ s.impl with mBatchingOptions := batchOptions, mBatchingId := true },
            [.send (.startBatching batchOptions)]) :=
        startBatching_alone hregistered hactive
      have hstarted := s.daemon.batching_start batchOptions
      unfold process
      rw [hproc]
      refine ⟨⟨_, ?_, fun _ => hstarted⟩, fun hafter => ?_, fun _ => rfl⟩
      · change batchingRequestedBy _ (rest ++ []) = s.requested
        rw [List.append_nil]
        refine hrest _ ?_ ?_
        · rintro ⟨-, hnone⟩
          rw [hnone]
          rfl
        · intro hrunning
          rw [hrunning]
          rfl
      · exact absurd (hregistered.symm.trans hafter) nofun
    | true =>
      have hproc : s.impl.proc (.startBatching batchOptions) =
          ({ s.impl with mBatchingOptions := batchOptions }, []) :=
        startBatching_tracking hregistered hactive
      unfold process
      rw [hproc]
      refine ⟨⟨s.daemon.batching, ?_, fun _ => rfl⟩, fun hafter => ?_, h.held⟩
      · change batchingRequestedBy _ (rest ++ []) = s.requested
        rw [List.append_nil]
        refine hrest _ ?_ id
        rintro ⟨hinactive, -⟩
        exact absurd (hactive.symm.trans hinactive) nofun
      · exact absurd (hregistered.symm.trans hafter) nofun

theorem Ahead.step {e : TaskEvent} (h : Ahead s) (hfits : s.Fits e) : Ahead (s.step e).1 := by
  cases e with
  | put msg => exact h.put msg
  | take =>
    unfold BatchedClient.Fits at hfits
    unfold BatchedClient.step
    dsimp only at hfits ⊢
    cases hqueue : s.queue with
    | nil => exact h
    | cons msg rest =>
      rw [hqueue] at hfits
      cases msg with
      | startBatching batchOptions => exact h.process_startBatching hqueue hfits
      | updateBatchingOptions batchOptions => exact h.process_update hqueue
      | stopBatching => exact h.process_stopBatching hqueue
      | capabilities => exact h.process_capabilities hqueue hfits
      | halReady => exact h.process_halReady hqueue
      | _ => exact h.process_aside hqueue (fun _ => rfl) nofun nofun

/-- In a run whose steps all fit, the daemon runs the batching session that was
requested last. -/
theorem batched_of_fits (es : List TaskEvent) (h : StepsMeet step Fits new es) :
    StatesMeet step Batched new es :=
  (statesMeet_of_stepsMeet (P := Ahead) (fun _ _ hs hfits => hs.step hfits) Ahead.new h).mono
    fun _ hs => hs.batched

/-- Two starts that wait for the registration, the first of which it makes
void; then a session that a tracking session is started beside. -/
def startedTwice : List TaskEvent :=
  [.put (.startBatching ⟨1000, 0, .routine⟩), .put .capabilities, .take,
    .put (.startBatching ⟨2000, 0, .trip⟩), .take, .take, .put (.startTracking ⟨1000, 0, 0⟩), .take,
    .put (.startBatching ⟨2000, 0, .trip⟩), .take, .put .stopBatching, .take]

theorem batched_startedTwice : StatesMeet step Batched new startedTwice :=
  batched_of_fits startedTwice ⟨trivial, trivial, nofun, trivial, fun _ => .inr ⟨_, .head _, rfl⟩,
    fun _ => .inl ⟨rfl, rfl⟩, trivial, trivial, trivial, fun _ => .inr (.inl rfl), trivial, trivial,
    trivial⟩

/-- A batching session is started while there is a tracking session. -/
def besideTracking : List TaskEvent :=
  [.put .capabilities, .take, .put (.startTracking ⟨1000, 0, 0⟩), .take,
    .put (.startBatching ⟨2000, 0, .routine⟩), .take]

/-- Nothing is sent for it. -/
theorem not_batched_besideTracking : ¬ StatesMeet step Batched new besideTracking := by
  intro h
  have hbatched : (after step new besideTracking).daemon.batching =
      (after step new besideTracking).requested := h.last rfl rfl
  exact absurd hbatched (by decide)

end BatchedClient

end LocStack.ClientApi
