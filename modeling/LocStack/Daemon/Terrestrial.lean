/-
# `LocStack.Daemon.Terrestrial` — the network location session of the daemon

Clients of the location hal daemon ask for a single terrestrial position.
The names of those that wait for one are the keys of `mTerrestrialFixReqs`,
each with a timer, and one network location session serves them all.  Four
places change the map, and the session is started or stopped by its size:

    getSingleTerrestrialPos      one more       started if one is left
    gtpFixRequestTimeout         one less       stopped if one is left
    onGtpWwanTrackingCallback    none           stopped
    deleteClientbyName           one less       (not touched)

`networkLocation_iff`: the session runs exactly while there are requests,
and the daemon does not crash, if and only if a request times out only with
two others pending, a client with a request is deleted only with another
pending, and a fix comes only when all that wait are registered.
-/
import LocStack.Tracking.Model

namespace LocStack.Daemon

open Base List
open Tracking (LocationError)

/-! ## The service -/

structure Location where
  flags : UInt16
  /-- the other members, which are only sent on -/
  members : List UInt64
  deriving DecidableEq

/-- `Location location = {}`. -/
def Location.zero : Location := ⟨0, []⟩

def LOCATION_HAS_LAT_LONG_BIT : UInt16 := 1

/-- What the service calls for the requests. -/
inductive TerrestrialCall where
  | start (clientName : String) (mTimeoutMsec : UInt32)
  | startNetworkLocation | stopNetworkLocation
  | sendTerrestrialFix (clientName : String) (error : LocationError) (location : Location)

structure TerrestrialService where
  /-- the names of the registered clients -/
  mClients : List String
  mTerrestrialFixReqs : List String
  /-- -1: not set, 0: not opted in, 1: opted in -/
  mOptInTerrestrialService : Int
  /-- a null client has been used -/
  crashed : Bool

inductive TerrestrialEvent where
  | newClient (clientname : String)
  | deleteClientbyName (clientname : String)
  | getSingleTerrestrialPos (clientName : String) (mTimeoutMsec : UInt32)
  | gtpFixRequestTimeout (clientName : String)
  | onGtpWwanTrackingCallback (location : Location)

namespace TerrestrialService

variable (s : TerrestrialService)

def newClient (clientname : String) : TerrestrialService :=
  { s with mClients := s.mClients.insert clientname }

/-- A client that is not registered is not looked for among the requests. -/
def deleteClientbyName (clientname : String) : TerrestrialService :=
  if clientname ∈ s.mClients then
    { s with
      mClients := s.mClients.erase clientname
      mTerrestrialFixReqs := s.mTerrestrialFixReqs.erase clientname }
  else s

/-- Without consent, a client that is registered hears of it; with it, the
client need not be registered. -/
def getSingleTerrestrialPos (clientName : String) (mTimeoutMsec : UInt32) :
    TerrestrialService × List TerrestrialCall :=
  if s.mOptInTerrestrialService ≠ 1 then
    (s, if clientName ∈ s.mClients then
      [.sendTerrestrialFix clientName .notSupported .zero] else [])
  else
    let mTerrestrialFixReqs := s.mTerrestrialFixReqs.insert clientName
    ({ s with mTerrestrialFixReqs := mTerrestrialFixReqs },
      .start clientName mTimeoutMsec ::
        if mTerrestrialFixReqs.length = 1 then [.startNetworkLocation] else [])

def gtpFixRequestTimeout (clientName : String) : TerrestrialService × List TerrestrialCall :=
  if clientName ∈ s.mTerrestrialFixReqs then
    let mTerrestrialFixReqs := s.mTerrestrialFixReqs.erase clientName
    ({ s with mTerrestrialFixReqs := mTerrestrialFixReqs },
      (if clientName ∈ s.mClients then
        [.sendTerrestrialFix clientName .timeout .zero] else []) ++
        -- stop tracking if there is no more request
        if mTerrestrialFixReqs.length = 1 then [.stopNetworkLocation] else [])
  else (s, [])

/-- The fix is sent through what getClient returns, which for a client that
is not registered is null. -/
def onGtpWwanTrackingCallback (location : Location) :
    TerrestrialService × List TerrestrialCall :=
  if s.mTerrestrialFixReqs.length ≠ 0 ∧ location.flags &&& LOCATION_HAS_LAT_LONG_BIT ≠ 0 ∧
      s.mOptInTerrestrialService = 1 then
    if ∀ clientName ∈ s.mTerrestrialFixReqs, clientName ∈ s.mClients then
      ({ s with mTerrestrialFixReqs := [] },
        s.mTerrestrialFixReqs.map (fun clientName =>
          .sendTerrestrialFix clientName .success location) ++ [.stopNetworkLocation])
    else
      ({ s with crashed := true },
        (s.mTerrestrialFixReqs.takeWhile (· ∈ s.mClients)).map fun clientName =>
          .sendTerrestrialFix clientName .success location)
  else (s, [])

def handle : TerrestrialEvent → TerrestrialService × List TerrestrialCall
  | .newClient clientname => (s.newClient clientname, [])
  | .deleteClientbyName clientname => (s.deleteClientbyName clientname, [])
  | .getSingleTerrestrialPos clientName mTimeoutMsec =>
    s.getSingleTerrestrialPos clientName mTimeoutMsec
  | .gtpFixRequestTimeout clientName => s.gtpFixRequestTimeout clientName
  | .onGtpWwanTrackingCallback location => s.onGtpWwanTrackingCallback location

end TerrestrialService

/-! ## The session, as the calls have left it -/

/-- Whether the session runs after a call. -/
def TerrestrialCall.runs (running : Bool) : TerrestrialCall → Bool
  | .startNetworkLocation => true
  | .stopNetworkLocation => false
  | _ => running

/-- The service and its network location session. -/
structure WatchedTerrestrial where
  service : TerrestrialService
  networkLocation : Bool

namespace WatchedTerrestrial

variable (w : WatchedTerrestrial)

/-- The service after some calls. -/
def after (p : TerrestrialService × List TerrestrialCall) :
    WatchedTerrestrial × List TerrestrialCall :=
  (⟨p.1, p.2.foldl TerrestrialCall.runs w.networkLocation⟩, p.2)

def step (e : TerrestrialEvent) : WatchedTerrestrial × List TerrestrialCall :=
  if w.service.crashed then (w, []) else w.after (w.service.handle e)

/-- A user that has opted in, and no request yet. -/
def start (mClients : List String) : WatchedTerrestrial where
  service :=
    { mClients := mClients
      mTerrestrialFixReqs := []
      mOptInTerrestrialService := 1
      crashed := false }
  networkLocation := false

/-- The session runs exactly while there are requests. -/
def InStep : Prop :=
  w.service.crashed = false ∧ (w.networkLocation = true ↔ w.service.mTerrestrialFixReqs ≠ [])

/-- What leaves the session in step. -/
def Fits : TerrestrialEvent → Prop
  | .gtpFixRequestTimeout clientName => clientName ∈ w.service.mTerrestrialFixReqs →
      3 ≤ w.service.mTerrestrialFixReqs.length
  | .deleteClientbyName clientname => clientname ∈ w.service.mClients →
      clientname ∈ w.service.mTerrestrialFixReqs → 2 ≤ w.service.mTerrestrialFixReqs.length
  | .onGtpWwanTrackingCallback location =>
    location.flags &&& LOCATION_HAS_LAT_LONG_BIT ≠ 0 →
      ∀ clientName ∈ w.service.mTerrestrialFixReqs, clientName ∈ w.service.mClients
  | _ => True

end WatchedTerrestrial

/-! ## One step -/

theorem foldl_runs_sent (p : Prop) [Decidable p] (clientName : String) (error : LocationError)
    (location : Location) (calls : List TerrestrialCall) (running : Bool) :
    ((if p then [TerrestrialCall.sendTerrestrialFix clientName error location] else []) ++
      calls).foldl TerrestrialCall.runs running = calls.foldl TerrestrialCall.runs running := by
  split
  · rfl
  · rfl

namespace WatchedTerrestrial

variable {w : WatchedTerrestrial}

theorem optIn_step (e : TerrestrialEvent) (h : w.service.mOptInTerrestrialService = 1) :
    (w.step e).1.service.mOptInTerrestrialService = 1 := by
  have hhandle : (w.service.handle e).1.mOptInTerrestrialService = 1 := by
    cases e with
    | newClient clientname => exact h
    | deleteClientbyName clientname =>
      show (w.service.deleteClientbyName clientname).mOptInTerrestrialService = 1
      unfold TerrestrialService.deleteClientbyName
      split <;> exact h
    | getSingleTerrestrialPos clientName mTimeoutMsec =>
      show (w.service.getSingleTerrestrialPos clientName mTimeoutMsec).1.mOptInTerrestrialService
        = 1
      unfold TerrestrialService.getSingleTerrestrialPos
      split <;> exact h
    | gtpFixRequestTimeout clientName =>
      show (w.service.gtpFixRequestTimeout clientName).1.mOptInTerrestrialService = 1
      unfold TerrestrialService.gtpFixRequestTimeout
      split <;> exact h
    | onGtpWwanTrackingCallback location =>
      show (w.service.onGtpWwanTrackingCallback location).1.mOptInTerrestrialService = 1
      unfold TerrestrialService.onGtpWwanTrackingCallback
      split
      · split <;> exact h
      · exact h
  unfold step
  split
  · exact h
  · exact hhandle

theorem inStep_getSingleTerrestrialPos (h : w.InStep)
    (hopt : w.service.mOptInTerrestrialService = 1) (clientName : String)
    (mTimeoutMsec : UInt32) :
    (w.after (w.service.getSingleTerrestrialPos clientName mTimeoutMsec)).1.InStep := by
  obtain ⟨hup, hruns⟩ := h
  have heq : w.service.getSingleTerrestrialPos clientName mTimeoutMsec =
      ({ w.service with mTerrestrialFixReqs := w.service.mTerrestrialFixReqs.insert clientName },
        .start clientName mTimeoutMsec ::
          if (w.service.mTerrestrialFixReqs.insert clientName).length = 1 then
            [.startNetworkLocation] else []) := if_neg (not_not_intro hopt)
  rw [heq]
  refine ⟨hup, iff_of_true ?_ ?_⟩
  · show (if (w.service.mTerrestrialFixReqs.insert clientName).length = 1 then
      [TerrestrialCall.startNetworkLocation] else []).foldl TerrestrialCall.runs
        w.networkLocation = true
    split
    · rfl
    · rename_i hlen
      -- there was a request already
      refine hruns.mpr fun hnil => hlen ?_
      rw [hnil]
      rfl
  · exact ne_nil_of_mem (mem_insert_self ..)

theorem inStep_gtpFixRequestTimeout (h : w.InStep) (clientName : String) :
    (w.after (w.service.gtpFixRequestTimeout clientName)).1.InStep ↔
      w.Fits (.gtpFixRequestTimeout clientName) := by
  obtain ⟨hup, hruns⟩ := h
  by_cases hmem : clientName ∈ w.service.mTerrestrialFixReqs
  · have heq : w.service.gtpFixRequestTimeout clientName =
        ({ w.service with mTerrestrialFixReqs := w.service.mTerrestrialFixReqs.erase clientName },
          (if clientName ∈ w.service.mClients then
            [.sendTerrestrialFix clientName .timeout .zero] else []) ++
            if (w.service.mTerrestrialFixReqs.erase clientName).length = 1 then
              [.stopNetworkLocation] else []) := if_pos hmem
    have hlen : (w.service.mTerrestrialFixReqs.erase clientName).length + 1 =
        w.service.mTerrestrialFixReqs.length := by
      have hpos := length_pos_of_mem hmem
      rw [length_erase_of_mem hmem]
      omega
    have hrunning : w.networkLocation = true := hruns.mpr (ne_nil_of_mem hmem)
    have hfits : w.Fits (.gtpFixRequestTimeout clientName) ↔
        3 ≤ w.service.mTerrestrialFixReqs.length := forall_prop_of_true hmem
    rw [hfits, heq]
    show (w.service.crashed = false ∧ (List.foldl TerrestrialCall.runs w.networkLocation _ = true ↔
      w.service.mTerrestrialFixReqs.erase clientName ≠ [])) ↔ _
    rw [foldl_runs_sent, and_iff_right hup, Ne, ← length_eq_zero_iff, hrunning]
    split
    · -- one is left, and the session is stopped
      rename_i hone
      refine iff_of_false (fun hiff => ?_) (by omega)
      have hrun := hiff.mpr (by omega)
      cases hrun
    · rename_i hone
      refine (iff_true_left rfl).trans ?_
      omega
  · have heq : w.service.gtpFixRequestTimeout clientName = (w.service, []) := if_neg hmem
    rw [heq]
    exact iff_of_true ⟨hup, hruns⟩ fun hmem' => absurd hmem' hmem

theorem inStep_deleteClientbyName (h : w.InStep) (clientname : String) :
    (w.after (w.service.deleteClientbyName clientname, [])).1.InStep ↔
      w.Fits (.deleteClientbyName clientname) := by
  obtain ⟨hup, hruns⟩ := h
  by_cases hclient : clientname ∈ w.service.mClients
  · have heq : w.service.deleteClientbyName clientname = { w.service with
          mClients := w.service.mClients.erase clientname
          mTerrestrialFixReqs := w.service.mTerrestrialFixReqs.erase clientname } :=
      if_pos hclient
    have hfits : w.Fits (.deleteClientbyName clientname) ↔
        (clientname ∈ w.service.mTerrestrialFixReqs →
          2 ≤ w.service.mTerrestrialFixReqs.length) := forall_prop_of_true hclient
    rw [hfits, heq]
    show (w.service.crashed = false ∧ (w.networkLocation = true ↔
      w.service.mTerrestrialFixReqs.erase clientname ≠ [])) ↔ _
    rw [and_iff_right hup, hruns, Ne, Ne, ← length_eq_zero_iff, ← length_eq_zero_iff]
    by_cases hmem : clientname ∈ w.service.mTerrestrialFixReqs
    · have hpos := length_pos_of_mem hmem
      rw [length_erase_of_mem hmem, forall_prop_of_true hmem]
      omega
    · rw [erase_of_not_mem hmem]
      exact iff_of_true Iff.rfl fun hmem' => absurd hmem' hmem
  · have heq : w.service.deleteClientbyName clientname = w.service := if_neg hclient
    rw [heq]
    exact iff_of_true ⟨hup, hruns⟩ fun hclient' => absurd hclient' hclient

theorem inStep_onGtpWwanTrackingCallback (h : w.InStep)
    (hopt : w.service.mOptInTerrestrialService = 1) (location : Location) :
    (w.after (w.service.onGtpWwanTrackingCallback location)).1.InStep ↔
      w.Fits (.onGtpWwanTrackingCallback location) := by
  obtain ⟨hup, hruns⟩ := h
  by_cases htaken : w.service.mTerrestrialFixReqs.length ≠ 0 ∧
      location.flags &&& LOCATION_HAS_LAT_LONG_BIT ≠ 0 ∧ w.service.mOptInTerrestrialService = 1
  · by_cases hall : ∀ clientName ∈ w.service.mTerrestrialFixReqs, clientName ∈ w.service.mClients
    · have heq : w.service.onGtpWwanTrackingCallback location =
          ({ w.service with mTerrestrialFixReqs := [] },
            w.service.mTerrestrialFixReqs.map (fun clientName =>
              .sendTerrestrialFix clientName .success location) ++ [.stopNetworkLocation]) :=
        (if_pos htaken).trans (if_pos hall)
      rw [heq]
      refine iff_of_true ⟨hup, iff_of_false ?_ (not_not_intro rfl)⟩ fun _ => hall
      show List.foldl TerrestrialCall.runs w.networkLocation (_ ++ _) ≠ true
      rw [foldl_append]
      exact Bool.false_ne_true
    · have heq : (w.service.onGtpWwanTrackingCallback location).1 =
          { w.service with crashed := true } :=
        congrArg Prod.fst ((if_pos htaken).trans (if_neg hall))
      refine iff_of_false ?_ fun hfits => hall (hfits htaken.2.1)
      rintro ⟨hup', -⟩
      have hcrashed : (w.service.onGtpWwanTrackingCallback location).1.crashed = false := hup'
      rw [heq] at hcrashed
      cases hcrashed
  · have heq : w.service.onGtpWwanTrackingCallback location = (w.service, []) := if_neg htaken
    rw [heq]
    refine iff_of_true ⟨hup, hruns⟩ fun hflags clientName hmem => ?_
    exact absurd ⟨(length_pos_of_mem hmem).ne', hflags, hopt⟩ htaken

theorem inStep_step (hopt : w.service.mOptInTerrestrialService = 1) (h : w.InStep)
    (e : TerrestrialEvent) : (w.step e).1.InStep ↔ w.Fits e := by
  have heq : w.step e = w.after (w.service.handle e) :=
    if_neg fun hcrashed => Bool.false_ne_true (h.1.symm.trans hcrashed)
  rw [heq]
  cases e with
  | newClient clientname => exact iff_of_true h trivial
  | deleteClientbyName clientname => exact inStep_deleteClientbyName h clientname
  | getSingleTerrestrialPos clientName mTimeoutMsec =>
    exact iff_of_true (inStep_getSingleTerrestrialPos h hopt clientName mTimeoutMsec) trivial
  | gtpFixRequestTimeout clientName => exact inStep_gtpFixRequestTimeout h clientName
  | onGtpWwanTrackingCallback location =>
    exact inStep_onGtpWwanTrackingCallback h hopt location

/-- The network location session runs exactly while there are requests, all
through a run, if and only if every step fits. -/
theorem networkLocation_iff (mClients : List String) (es : List TerrestrialEvent) :
    StatesMeet step InStep (start mClients) es ↔ StepsMeet step Fits (start mClients) es := by
  have hstart : (start mClients).InStep :=
    ⟨rfl, iff_of_false Bool.false_ne_true (not_not_intro rfl)⟩
  exact statesMeet_iff_stepsMeet (fun _ e hopt => optIn_step e hopt)
    (fun _ e hopt h => inStep_step hopt h e) rfl hstart

/-- The only request times out, and the session goes on. -/
theorem not_inStep_timeout : ¬ StatesMeet step InStep (start ["client"])
      [.getSingleTerrestrialPos "client" 1000, .gtpFixRequestTimeout "client"] := by
  rintro ⟨-, -, -, hruns⟩
  exact hruns.mp rfl rfl

end WatchedTerrestrial

end LocStack.Daemon
