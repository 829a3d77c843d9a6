/-
# `LocStack.Api.Destroy` — LocationAPI's clients, from createInstance to the callback of destroy

A client is destroyed in the adapters first: `destroy` asks each interface
that is loaded to remove it, and the adapters answer one by one.  With a
callback, what is still waited for is kept in `destroyClientData` as a mask,
a bit for each adapter, and the last answer is where the callback is to be
invoked; without an interface that is at once.

Both places test the callback the wrong way round: it is invoked if there
is none.

The framework of the OS is there for all clients together, and goes with
the last of them; `gOSFrameworkRefCount` counts them.

`right_iff_fits` says exactly which steps leave everything as it is to be.
-/
import LocStack.Base.Run
import Mathlib.Data.List.Basic

namespace LocStack.Api

open Base List Function

/-! ## What there is -/

inductive LocationAdapterType where
  | gnss | batching | geofence
  deriving DecidableEq

/-- `LOCATION_ADAPTER_GNSS_TYPE_BIT`, and the others in the same way. -/
def LocationAdapterType.bit : LocationAdapterType → UInt16
  | .gnss => 1
  | .batching => 2
  | .geofence => 4

/-- Which of them are not null. -/
structure LocationCallbacks where
  (capabilitiesCb responseCb collectiveResponseCb trackingCb batchingCb geofenceBreachCb : Bool)
  (geofenceStatusCb gnssLocationInfoCb gnssNiCb gnssSvCb gnssNmeaCb gnssDataCb : Bool)
  (gnssMeasurementsCb locationSystemInfoCb engineLocationsInfoCb : Bool)

/-- The mandatory ones only. -/
def LocationCallbacks.mandatory : LocationCallbacks where
  capabilitiesCb := true
  responseCb := true
  collectiveResponseCb := true
  trackingCb := false
  batchingCb := false
  geofenceBreachCb := false
  geofenceStatusCb := false
  gnssLocationInfoCb := false
  gnssNiCb := false
  gnssSvCb := false
  gnssNmeaCb := false
  gnssDataCb := false
  gnssMeasurementsCb := false
  locationSystemInfoCb := false
  engineLocationsInfoCb := false

namespace LocationCallbacks

variable (c : LocationCallbacks)

/-- Not "missing mandatory callback, return null". -/
def hasMandatory : Bool := c.capabilitiesCb && c.responseCb && c.collectiveResponseCb

def isGnssClient : Bool :=
  c.gnssNiCb || c.trackingCb || c.gnssLocationInfoCb || c.engineLocationsInfoCb ||
    c.gnssSvCb || c.gnssNmeaCb || c.gnssDataCb || c.gnssMeasurementsCb || c.locationSystemInfoCb

def isBatchingClient : Bool := c.batchingCb

def isGeofenceClient : Bool := c.geofenceBreachCb || c.geofenceStatusCb

def isClient : LocationAdapterType → Bool
  | .gnss => c.isGnssClient
  | .batching => c.isBatchingClient
  | .geofence => c.isGeofenceClient

end LocationCallbacks

/-- A callback is known by the call of `destroy` it was given in. -/
structure LocationAPIDestroyCbData where
  waitAdapterMask : UInt16
  destroyCompleteCb : Option Nat

/-- `removeClient` of an interface, that the adapter has not answered;
`call` is the call of `destroy` that made it. -/
structure Removal where
  adapterType : LocationAdapterType
  (client call : Nat)
  deriving DecidableEq

/-- The data of LocationAPI.cpp.  An object is known by its address. -/
structure LocationAPIData where
  /-- The clients, without their callbacks. -/
  clientData : List Nat
  destroyClientData : Nat → Option LocationAPIDestroyCbData
  /-- `gnssInterface` is not null, and the others in the same way -/
  interface : LocationAdapterType → Bool
  /-- `gGnssLoadFailed`, and the others in the same way -/
  loadFailed : LocationAdapterType → Bool
  gOSFrameworkRefCount : UInt32
  /-- There is an instance of the framework of the OS. -/
  osFramework : Bool
  /-- The objects that were not deleted. -/
  objects : List Nat
  removals : List Removal
  /-- How many calls of `destroy` there were. -/
  destroys : Nat
  /-- Those that were given a callback. -/
  given : List Nat
  /-- The callbacks that were invoked. -/
  invoked : List Nat
  /-- A null callback was invoked. -/
  nullInvoked : Bool
  /-- The calls whose last adapter has answered, as the mask has it. -/
  completed : List Nat

namespace LocationAPIData

/-- Some interfaces may be loaded before the first client is there. -/
def new (interface loadFailed : LocationAdapterType → Bool) : LocationAPIData where
  clientData := []
  destroyClientData := fun _ => none
  interface := interface
  loadFailed := loadFailed
  gOSFrameworkRefCount := 0
  osFramework := false
  objects := []
  removals := []
  destroys := 0
  given := []
  invoked := []
  nullInvoked := false
  completed := []

variable (d : LocationAPIData)

/-- `loadLocationInterface`, if the interface is null and has not failed to
load; `available` says if the library is there. -/
def load (adapterType : LocationAdapterType) (available : Bool) : LocationAPIData :=
  if !d.interface adapterType && !d.loadFailed adapterType then
    if available then { d with interface := update d.interface adapterType true }
    else { d with loadFailed := update d.loadFailed adapterType true }
  else d

/-- One of the three parts of `createInstance`. -/
def loadFor (locationCallbacks : LocationCallbacks) (available : LocationAdapterType → Bool)
    (adapterType : LocationAdapterType) : LocationAPIData :=
  if locationCallbacks.isClient adapterType then d.load adapterType (available adapterType) else d

/-- `newLocationAPI` is where the new object is. -/
def createInstance (locationCallbacks : LocationCallbacks)
    (available : LocationAdapterType → Bool) (newLocationAPI : Nat) :
    Option Nat × LocationAPIData :=
  if locationCallbacks.hasMandatory then
    let d : LocationAPIData := { d with
      objects := newLocationAPI :: d.objects
      gOSFrameworkRefCount := d.gOSFrameworkRefCount + 1 }
    let d : LocationAPIData := { d with
      osFramework := if d.gOSFrameworkRefCount = 1 then true else d.osFramework }
    let d := d.loadFor locationCallbacks available .gnss
    let d := d.loadFor locationCallbacks available .batching
    let d := d.loadFor locationCallbacks available .geofence
    (some newLocationAPI, { d with clientData := newLocationAPI :: d.clientData })
  else (none, d)

/-- `(destroyCompleteCb) ()` -/
def invoke : Option Nat → LocationAPIData
  | none => { d with nullInvoked := true }
  | some call => { d with invoked := d.invoked ++ [call] }

/-- The lines that are in both places: "if (!destroyCompleteCb)". -/
def invokeDestroyCb (destroyCompleteCb : Option Nat) : LocationAPIData :=
  if !destroyCompleteCb.isSome then d.invoke destroyCompleteCb else d

/-- `delete this` -/
def delete (client : Nat) : LocationAPIData := { d with objects := d.objects.erase client }

/-- The adapters whose interface is loaded, in the order in which they are
asked. -/
def adapters : List LocationAdapterType := [.gnss, .batching, .geofence].filter d.interface

/-- The bits of the adapters that are waited for. -/
def maskOf (waits : LocationAdapterType → Bool) : UInt16 :=
  (if waits .gnss then LocationAdapterType.gnss.bit else 0) |||
    (if waits .batching then LocationAdapterType.batching.bit else 0) |||
    (if waits .geofence then LocationAdapterType.geofence.bit else 0)

def needToWait : Bool := d.interface .gnss || d.interface .batching || d.interface .geofence

/-- The lines of `destroy` about a client that is found. -/
def remove (client call : Nat) (destroyCompleteCb : Option Nat) : LocationAPIData :=
  { d with
    destroyClientData :=
      if destroyCompleteCb.isSome && d.needToWait then
        update d.destroyClientData client (some ⟨maskOf d.interface, destroyCompleteCb⟩)
      else d.destroyClientData
    removals := d.removals ++ d.adapters.map (⟨·, client, call⟩)
    clientData := d.clientData.erase client }

/-- Those about the framework. -/
def releaseFramework : LocationAPIData :=
  { d with
    osFramework := if d.gOSFrameworkRefCount = 1 then false else d.osFramework
    gOSFrameworkRefCount := d.gOSFrameworkRefCount - 1 }

/-- The call is counted, and its callback, if one is given. -/
def called (given : Bool) : LocationAPIData :=
  { d with
    destroys := d.destroys + 1
    given := if given then d.given ++ [d.destroys] else d.given }

/-- `destroy` of an object; `given` says if `destroyCompleteCb` is not null. -/
def destroy (client : Nat) (given : Bool) : LocationAPIData :=
  let destroyCompleteCb := if given then some d.destroys else none
  if client ∈ d.clientData then
    let removed := ((d.called given).remove client d.destroys destroyCompleteCb).releaseFramework
    if d.needToWait then removed else (removed.invokeDestroyCb destroyCompleteCb).delete client
  else (d.called given).releaseFramework

/-- `onRemoveClientCompleteCb` of an object. -/
def onRemoveClientCompleteCb (client : Nat) (adapterType : LocationAdapterType) :
    LocationAPIData :=
  match d.destroyClientData client with
  | none => d
  | some it =>
    let waitAdapterMask := it.waitAdapterMask &&& ~~~adapterType.bit
    if waitAdapterMask = 0 then
      let d := { d with
        destroyClientData := update d.destroyClientData client none
        completed := d.completed ++ it.destroyCompleteCb.toList }
      (d.invokeDestroyCb it.destroyCompleteCb).delete client
    else
      { d with
        destroyClientData :=
          update d.destroyClientData client (some { it with waitAdapterMask }) }

/-! ## Runs -/

end LocationAPIData

inductive ApiEvent where
  | createInstance (locationCallbacks : LocationCallbacks)
      (available : LocationAdapterType → Bool) (newLocationAPI : Nat)
  | destroy (client : Nat) (given : Bool)
  /-- An adapter answers. -/
  | removed (removal : Removal)
  /-- Another call loads an interface. -/
  | load (adapterType : LocationAdapterType) (available : Bool)

namespace LocationAPIData

variable (d : LocationAPIData)

/-- A new object is where no other is. -/
def next : ApiEvent → LocationAPIData
  | .createInstance locationCallbacks available newLocationAPI =>
    if newLocationAPI ∈ d.objects then d
    else (d.createInstance locationCallbacks available newLocationAPI).2
  | .destroy client given => d.destroy client given
  | .removed removal =>
    if removal ∈ d.removals then
      { d with removals := d.removals.erase removal }.onRemoveClientCompleteCb removal.client
        removal.adapterType
    else d
  | .load adapterType available => d.load adapterType available

def step (d : LocationAPIData) (e : ApiEvent) : LocationAPIData × List Unit := (d.next e, [])

/-- The call of `destroy` waits for an adapter. -/
def Waits (call : Nat) : Prop := ∃ removal ∈ d.removals, removal.call = call
  deriving Decidable

/-- Every callback that was given is invoked once if no adapter is waited
for any longer, and not before; none that is null is; and the framework is
there while a client is. -/
def Right : Prop :=
  (∀ call ∈ d.given, d.invoked.count call = if d.Waits call then 0 else 1) ∧
    d.nullInvoked = false ∧ (d.osFramework = true ↔ d.clientData ≠ [])

/-- A client is created when there are others or none is counted.  The
destroyed is a client, one interface at least is loaded, and the one that is
counted is the only one; if it is none, no callback is given.  And what an
adapter answers is not the last answer for a callback. -/
def Fits : ApiEvent → Prop
  | .createInstance locationCallbacks _ newLocationAPI =>
    newLocationAPI ∉ d.objects → locationCallbacks.hasMandatory →
      d.clientData ≠ [] ∨ d.gOSFrameworkRefCount = 0
  | .destroy client given =>
    if client ∈ d.clientData then
      d.needToWait ∧ (d.gOSFrameworkRefCount = 1 ↔ d.clientData = [client])
    else given = false ∧ (d.clientData ≠ [] → d.gOSFrameworkRefCount ≠ 1)
  | .removed removal =>
    removal ∈ d.removals → removal.call ∈ d.given →
      ∃ other ∈ d.removals.erase removal, other.call = removal.call
  | .load .. => True

/-! ## What every step keeps -/

/-- No callback was invoked that is not null; the entries have one; and the
calls of `destroy` are numbered. -/
structure Known : Prop where
  invoked : d.invoked = []
  entries : ∀ client it, d.destroyClientData client = some it → it.destroyCompleteCb.isSome
  removals : ∀ removal ∈ d.removals, removal.call < d.destroys
  given : ∀ call ∈ d.given, call < d.destroys

theorem known_new (interface loadFailed : LocationAdapterType → Bool) :
    (new interface loadFailed).Known where
  invoked := rfl
  entries := fun _ _ h => nomatch h
  removals := fun _ h => nomatch h
  given := fun _ h => nomatch h

variable {d} {client call : Nat} {given : Bool}

theorem load_eq (d : LocationAPIData) (adapterType : LocationAdapterType) (available : Bool) :
    ∃ interface loadFailed, d.load adapterType available =
      { d with interface := interface, loadFailed := loadFailed } := by
  unfold load
  split
  · split
    · exact ⟨_, d.loadFailed, rfl⟩
    · exact ⟨d.interface, _, rfl⟩
  · exact ⟨d.interface, d.loadFailed, rfl⟩

theorem loadFor_eq (d : LocationAPIData) (locationCallbacks : LocationCallbacks)
    (available : LocationAdapterType → Bool) (adapterType : LocationAdapterType) :
    ∃ interface loadFailed, d.loadFor locationCallbacks available adapterType =
      { d with interface := interface, loadFailed := loadFailed } := by
  unfold loadFor
  split
  · exact d.load_eq ..
  · exact ⟨d.interface, d.loadFailed, rfl⟩

theorem createInstance_eq {locationCallbacks : LocationCallbacks}
    (h : locationCallbacks.hasMandatory = true) (available : LocationAdapterType → Bool)
    (newLocationAPI : Nat) :
    ∃ interface loadFailed, (d.createInstance locationCallbacks available newLocationAPI).2 =
      { d with
        objects := newLocationAPI :: d.objects
        gOSFrameworkRefCount := d.gOSFrameworkRefCount + 1
        osFramework := if d.gOSFrameworkRefCount + 1 = 1 then true else d.osFramework
        interface := interface
        loadFailed := loadFailed
        clientData := newLocationAPI :: d.clientData } := by
  unfold createInstance
  rw [if_pos h]
  dsimp only
  generalize hcounted : ({ d with
    objects := newLocationAPI :: d.objects
    gOSFrameworkRefCount := d.gOSFrameworkRefCount + 1
    osFramework := if d.gOSFrameworkRefCount + 1 = 1 then true else d.osFramework } :
      LocationAPIData) = counted
  obtain ⟨i₁, f₁, h₁⟩ := counted.loadFor_eq locationCallbacks available .gnss
  rw [h₁]
  obtain ⟨i₂, f₂, h₂⟩ := loadFor_eq { counted with interface := i₁, loadFailed := f₁ }
    locationCallbacks available .batching
  rw [h₂]
  obtain ⟨i₃, f₃, h₃⟩ := loadFor_eq { counted with interface := i₂, loadFailed := f₂ }
    locationCallbacks available .geofence
  rw [h₃]
  subst hcounted
  exact ⟨i₃, f₃, rfl⟩

section

variable (h : d.Known)
include h

theorem Known.called (given : Bool) : (d.called given).Known where
  invoked := h.invoked
  entries := h.entries
  removals := fun removal hremoval => Nat.lt_succ_of_lt (h.removals removal hremoval)
  given := by
    intro call hcall
    unfold LocationAPIData.called at hcall
    cases given with
    | false => exact Nat.lt_succ_of_lt (h.given call hcall)
    | true =>
      rcases mem_append.mp hcall with hcall | hcall
      · exact Nat.lt_succ_of_lt (h.given call hcall)
      · rw [mem_singleton.mp hcall]
        exact Nat.lt_succ_self _

theorem Known.remove (client : Nat) (hcall : call < d.destroys) (destroyCompleteCb : Option Nat) :
    (d.remove client call destroyCompleteCb).Known where
  invoked := h.invoked
  entries := by
    intro client' it hit
    unfold LocationAPIData.remove at hit
    dsimp only at hit
    split at hit
    · rename_i hwaits
      rcases eq_or_ne client' client with rfl | hne
      · rw [update_self] at hit
        cases hit
        exact (Bool.and_eq_true_iff.mp hwaits).1
      · rw [update_of_ne hne] at hit
        exact h.entries client' it hit
    · exact h.entries client' it hit
  removals := by
    intro removal hremoval
    rcases mem_append.mp hremoval with hremoval | hremoval
    · exact h.removals removal hremoval
    · obtain ⟨adapterType, -, rfl⟩ := mem_map.mp hremoval
      exact hcall
  given := h.given

theorem Known.releaseFramework : d.releaseFramework.Known :=
  ⟨h.invoked, h.entries, h.removals, h.given⟩

theorem Known.delete (client : Nat) : (d.delete client).Known :=
  ⟨h.invoked, h.entries, h.removals, h.given⟩

theorem Known.invokeDestroyCb (destroyCompleteCb : Option Nat) :
    (d.invokeDestroyCb destroyCompleteCb).Known := by
  cases destroyCompleteCb with
  | none => exact ⟨h.invoked, h.entries, h.removals, h.given⟩
  | some call => exact h

theorem Known.destroy (client : Nat) (given : Bool) : (d.destroy client given).Known := by
  have hcalled := h.called given
  unfold LocationAPIData.destroy
  dsimp only
  split
  · have hremoved := (hcalled.remove client (Nat.lt_succ_self d.destroys)
      (if given then some d.destroys else none)).releaseFramework
    split
    · exact hremoved
    · exact (hremoved.invokeDestroyCb _).delete client
  · exact hcalled.releaseFramework

theorem Known.onRemoveClientCompleteCb (client : Nat) (adapterType : LocationAdapterType) :
    (d.onRemoveClientCompleteCb client adapterType).Known := by
  have hentries : ∀ entry : Option LocationAPIDestroyCbData,
      (∀ it ∈ entry, it.destroyCompleteCb.isSome) → ∀ client' it,
        update d.destroyClientData client entry client' = some it →
          it.destroyCompleteCb.isSome := by
    intro entry hentry client' it hit
    rcases eq_or_ne client' client with rfl | hne
    · rw [update_self] at hit
      exact hentry it hit
    · rw [update_of_ne hne] at hit
      exact h.entries client' it hit
  unfold LocationAPIData.onRemoveClientCompleteCb
  split
  · exact h
  · rename_i it hit
    dsimp only
    split
    · have hforgotten : { d with
          destroyClientData := update d.destroyClientData client none
          completed := d.completed ++ it.destroyCompleteCb.toList }.Known :=
        ⟨h.invoked, hentries none (fun _ hnone => nomatch hnone), h.removals, h.given⟩
      exact (hforgotten.invokeDestroyCb _).delete client
    · refine ⟨h.invoked, hentries _ ?_, h.removals, h.given⟩
      rintro it' ⟨⟩
      exact h.entries client it hit

theorem Known.next (e : ApiEvent) : (d.next e).Known := by
  cases e with
  | createInstance locationCallbacks available newLocationAPI =>
    unfold LocationAPIData.next
    dsimp only
    split
    · exact h
    · cases hmandatory : locationCallbacks.hasMandatory with
      | true =>
        obtain ⟨interface, loadFailed, heq⟩ := createInstance_eq (d := d) hmandatory available
          newLocationAPI
        rw [heq]
        exact ⟨h.invoked, h.entries, h.removals, h.given⟩
      | false =>
        unfold LocationAPIData.createInstance
        rw [hmandatory]
        exact h
  | destroy client given => exact h.destroy client given
  | removed removal =>
    unfold LocationAPIData.next
    dsimp only
    split
    · have herased : { d with removals := d.removals.erase removal }.Known :=
        ⟨h.invoked, h.entries,
          fun removal' hremoval' => h.removals removal' (mem_of_mem_erase hremoval'), h.given⟩
      exact herased.onRemoveClientCompleteCb ..
    · exact h
  | load adapterType available =>
    obtain ⟨interface, loadFailed, heq⟩ := d.load_eq adapterType available
    show (d.load adapterType available).Known
    rw [heq]
    exact ⟨h.invoked, h.entries, h.removals, h.given⟩

end

/-! ## Which steps leave everything right -/

theorem Known.right_iff (h : d.Known) : d.Right ↔ (∀ call ∈ d.given, d.Waits call) ∧
      d.nullInvoked = false ∧ (d.osFramework = true ↔ d.clientData ≠ []) := by
  have hcall : ∀ call, (d.invoked.count call = if d.Waits call then 0 else 1) ↔ d.Waits call := by
    intro call
    rw [h.invoked, count_nil]
    split
    · rename_i hwaits
      exact iff_of_true rfl hwaits
    · rename_i hnone
      exact iff_of_false Nat.zero_ne_one hnone
  unfold Right
  simp only [hcall]

theorem createInstance_step (h : d.Known) (hright : d.Right)
    (locationCallbacks : LocationCallbacks) (available : LocationAdapterType → Bool)
    (newLocationAPI : Nat) :
    (d.next (.createInstance locationCallbacks available newLocationAPI)).Right ↔
      d.Fits (.createInstance locationCallbacks available newLocationAPI) := by
  by_cases hnew : newLocationAPI ∈ d.objects
  · have heq : d.next (.createInstance locationCallbacks available newLocationAPI) = d :=
      if_pos hnew
    rw [heq]
    exact iff_of_true hright fun hnot => absurd hnew hnot
  · have hnext : d.next (.createInstance locationCallbacks available newLocationAPI) =
        (d.createInstance locationCallbacks available newLocationAPI).2 := if_neg hnew
    cases hmandatory : locationCallbacks.hasMandatory with
    | false =>
      have heq : (d.createInstance locationCallbacks available newLocationAPI).2 = d := by
        unfold createInstance
        rw [hmandatory]
        rfl
      rw [hnext, heq]
      refine iff_of_true hright fun _ hsome => ?_
      rw [hmandatory] at hsome
      cases hsome
    | true =>
      obtain ⟨interface, loadFailed, heq⟩ := createInstance_eq (d := d) hmandatory available
        newLocationAPI
      have hknown := h.next (.createInstance locationCallbacks available newLocationAPI)
      obtain ⟨hwaits, hnull, hframework⟩ := h.right_iff.mp hright
      have hcount : d.gOSFrameworkRefCount + 1 = 1 ↔ d.gOSFrameworkRefCount = 0 :=
        UInt32.add_eq_right
      have hfits : d.Fits (.createInstance locationCallbacks available newLocationAPI) ↔
          d.clientData ≠ [] ∨ d.gOSFrameworkRefCount = 0 :=
        ⟨fun hfits => hfits hnew hmandatory, fun hfits _ _ => hfits⟩
      rw [hfits, hknown.right_iff, hnext, heq]
      -- there is a client now, so the framework is to be there
      have hclient : newLocationAPI :: d.clientData ≠ [] := cons_ne_nil _ _
      constructor
      · rintro ⟨-, -, hafter⟩
        have htrue := hafter.mpr hclient
        dsimp only at htrue
        split at htrue
        · rename_i hone
          exact .inr (hcount.mp hone)
        · exact .inl (hframework.mp htrue)
      · intro hcond
        refine ⟨hwaits, hnull, iff_of_true ?_ hclient⟩
        dsimp only
        split
        · rfl
        · rename_i hone
          exact hframework.mpr (hcond.resolve_right (mt hcount.mpr hone))

theorem mem_adapters {adapterType : LocationAdapterType} :
    adapterType ∈ d.adapters ↔ d.interface adapterType = true := by
  unfold adapters
  rw [mem_filter, and_iff_right]
  cases adapterType <;> decide

theorem needToWait_iff : d.needToWait = true ↔ ∃ adapterType, d.interface adapterType = true := by
  unfold needToWait
  rw [Bool.or_eq_true, Bool.or_eq_true]
  constructor
  · rintro ((h | h) | h)
    · exact ⟨.gnss, h⟩
    · exact ⟨.batching, h⟩
    · exact ⟨.geofence, h⟩
  · rintro ⟨adapterType, h⟩
    cases adapterType with
    | gnss => exact .inl (.inl h)
    | batching => exact .inl (.inr h)
    | geofence => exact .inr h

theorem destroy_step_wait (h : d.Known) (hright : d.Right) (hclient : client ∈ d.clientData)
    (hneed : d.needToWait = true) (given : Bool) :
    (d.destroy client given).Right ↔
      (d.gOSFrameworkRefCount = 1 ↔ d.clientData = [client]) := by
  have heq : d.destroy client given = ((d.called given).remove client d.destroys
      (if given then some d.destroys else none)).releaseFramework := by
    unfold destroy
    dsimp only
    rw [if_pos hclient, if_pos hneed]
  have hknown := h.destroy client given
  obtain ⟨hwaits, hnull, hframework⟩ := h.right_iff.mp hright
  have hwaits' : ∀ call ∈ (d.destroy client given).given, (d.destroy client given).Waits call := by
    rw [heq]
    have hold : ∀ call ∈ d.given, ∃ removal ∈ d.removals ++
        d.adapters.map (⟨·, client, d.destroys⟩), removal.call = call := by
      intro call hcall
      obtain ⟨removal, hremoval, hof⟩ := hwaits call hcall
      exact ⟨removal, mem_append_left _ hremoval, hof⟩
    intro call hcall
    cases given with
    | false => exact hold call hcall
    | true =>
      rcases mem_append.mp hcall with hcall | hcall
      · exact hold call hcall
      · -- the new call waits for the interface that is loaded
        obtain ⟨adapterType, hloaded⟩ := needToWait_iff.mp hneed
        refine ⟨⟨adapterType, client, d.destroys⟩, mem_append_right _ ?_,
          (mem_singleton.mp hcall).symm⟩
        exact mem_map_of_mem (mem_adapters.mpr hloaded)
  have hnull' : (d.destroy client given).nullInvoked = false := by
    rw [heq]
    exact hnull
  have hlast : d.clientData.erase client = [] ↔ d.clientData = [client] := by
    rw [erase_eq_nil_iff]
    refine or_iff_right fun hnil => ?_
    rw [hnil] at hclient
    cases hclient
  have hthere : d.osFramework = true := hframework.mpr (ne_nil_of_mem hclient)
  have hafter : ((d.destroy client given).osFramework = true ↔
      (d.destroy client given).clientData ≠ []) ↔
        (d.gOSFrameworkRefCount = 1 ↔ d.clientData = [client]) := by
    rw [heq]
    show ((if d.gOSFrameworkRefCount = 1 then false else d.osFramework) = true ↔
      d.clientData.erase client ≠ []) ↔ _
    rw [hthere, ← hlast]
    split
    · rename_i hone
      rw [iff_true_left hone]
      exact ⟨fun hgone => not_not.mp fun hne => Bool.false_ne_true (hgone.mpr hne),
        fun hnil => iff_of_false Bool.false_ne_true (not_not.mpr hnil)⟩
    · rename_i hone
      rw [iff_false_left hone]
      exact iff_true_left rfl
  rw [hknown.right_iff, ← hafter]
  exact ⟨fun hr => hr.2.2, fun hr => ⟨hwaits', hnull', hr⟩⟩

theorem not_right_destroy (h : d.Known) (hclient : client ∈ d.clientData)
    (hneed : d.needToWait = false) (given : Bool) : ¬ (d.destroy client given).Right := by
  have hknown := h.destroy client given
  rw [hknown.right_iff]
  rintro ⟨hwaits, hnull, -⟩
  have heq : d.destroy client given = ((((d.called given).remove client d.destroys
      (if given then some d.destroys else none)).releaseFramework).invokeDestroyCb
        (if given then some d.destroys else none)).delete client := by
    unfold destroy
    dsimp only
    rw [if_pos hclient, hneed]
    rfl
  rw [heq] at hwaits hnull
  cases given with
  | false => cases hnull
  | true =>
    have hnone : d.adapters = [] := by
      refine eq_nil_iff_forall_not_mem.mpr fun adapterType hadapter => ?_
      have htrue := needToWait_iff.mpr ⟨adapterType, mem_adapters.mp hadapter⟩
      rw [hneed] at htrue
      cases htrue
    obtain ⟨removal, hremoval, hcall⟩ :=
      hwaits d.destroys (mem_append_right _ (mem_singleton_self _))
    have hold : removal ∈ d.removals ++ d.adapters.map (⟨·, client, d.destroys⟩) := hremoval
    rw [hnone, map_nil, append_nil] at hold
    exact absurd (hcall ▸ h.removals removal hold) (Nat.lt_irrefl _)

theorem destroy_step_unknown (h : d.Known) (hright : d.Right) (hclient : client ∉ d.clientData)
    (given : Bool) :
    (d.destroy client given).Right ↔
      given = false ∧ (d.clientData ≠ [] → d.gOSFrameworkRefCount ≠ 1) := by
  have hknown := h.destroy client given
  have heq : d.destroy client given = (d.called given).releaseFramework := by
    unfold destroy
    dsimp only
    rw [if_neg hclient]
  obtain ⟨hwaits, hnull, hframework⟩ := h.right_iff.mp hright
  rw [hknown.right_iff, heq]
  cases given with
  | true =>
    -- nothing is ever waited for
    refine iff_of_false (fun hafter => ?_) fun hcond => nomatch hcond.1
    obtain ⟨removal, hremoval, hcall⟩ :=
      hafter.1 d.destroys (mem_append_right _ (mem_singleton_self _))
    exact absurd (hcall ▸ h.removals removal hremoval) (Nat.lt_irrefl _)
  | false =>
    have hafter : ((if d.gOSFrameworkRefCount = 1 then false else d.osFramework) = true ↔
        d.clientData ≠ []) ↔ (d.clientData ≠ [] → d.gOSFrameworkRefCount ≠ 1) := by
      split
      · rename_i hone
        constructor
        · exact fun hgone hne => absurd (hgone.mpr hne) Bool.false_ne_true
        · exact fun hcond => iff_of_false Bool.false_ne_true fun hne => hcond hne hone
      · rename_i hone
        exact iff_of_true hframework fun _ => hone
    exact ⟨fun hr => ⟨rfl, hafter.mp hr.2.2⟩, fun hcond => ⟨hwaits, hnull, hafter.mpr hcond.2⟩⟩

theorem Known.onRemove_right (h : d.Known) (client : Nat) (adapterType : LocationAdapterType) :
    (d.onRemoveClientCompleteCb client adapterType).Right ↔ d.Right := by
  rw [(h.onRemoveClientCompleteCb client adapterType).right_iff, h.right_iff]
  unfold LocationAPIData.onRemoveClientCompleteCb
  split
  · exact Iff.rfl
  · rename_i it hit
    obtain ⟨call, hcall⟩ := Option.isSome_iff_exists.mp (h.entries client it hit)
    rw [hcall]
    dsimp only
    split
    · exact Iff.rfl
    · exact Iff.rfl

theorem removed_step (h : d.Known) (hright : d.Right) (removal : Removal) :
    (d.next (.removed removal)).Right ↔ d.Fits (.removed removal) := by
  by_cases hremoval : removal ∈ d.removals
  · have heq : d.next (.removed removal) =
        { d with removals := d.removals.erase removal }.onRemoveClientCompleteCb removal.client
          removal.adapterType := if_pos hremoval
    have herased : { d with removals := d.removals.erase removal }.Known :=
      ⟨h.invoked, h.entries,
        fun removal' hremoval' => h.removals removal' (mem_of_mem_erase hremoval'), h.given⟩
    obtain ⟨hwaits, hnull, hframework⟩ := h.right_iff.mp hright
    rw [heq, herased.onRemove_right, herased.right_iff]
    constructor
    · exact fun hafter _ hcall => hafter.1 removal.call hcall
    · intro hfits
      refine ⟨fun call hcall => ?_, hnull, hframework⟩
      rcases eq_or_ne call removal.call with rfl | hne
      · exact hfits hremoval hcall
      · obtain ⟨other, hother, hof⟩ := hwaits call hcall
        refine ⟨other, (mem_erase_of_ne ?_).mpr hother, hof⟩
        rintro rfl
        exact hne hof.symm
  · have heq : d.next (.removed removal) = d := if_neg hremoval
    rw [heq]
    exact iff_of_true hright fun hin => absurd hin hremoval

theorem next_right_iff (h : d.Known) (hright : d.Right) (e : ApiEvent) :
    (d.next e).Right ↔ d.Fits e := by
  cases e with
  | createInstance locationCallbacks available newLocationAPI =>
    exact createInstance_step h hright locationCallbacks available newLocationAPI
  | destroy client given =>
    show (d.destroy client given).Right ↔ if client ∈ d.clientData then _ else _
    split
    · rename_i hclient
      cases hneed : d.needToWait with
      | true =>
        rw [destroy_step_wait h hright hclient hneed given]
        exact (and_iff_right rfl).symm
      | false =>
        exact iff_of_false (not_right_destroy h hclient hneed given) fun hfits =>
          nomatch hfits.1
    · rename_i hclient
      exact destroy_step_unknown h hright hclient given
  | removed removal => exact removed_step h hright removal
  | load adapterType available =>
    obtain ⟨interface, loadFailed, heq⟩ := d.load_eq adapterType available
    show (d.load adapterType available).Right ↔ True
    rw [heq]
    exact iff_true_intro hright

/-- Each callback is invoked once, when all adapters have answered, no null
one is, and the framework is there while a client is, all through a run, if
and only if every step fits. -/
theorem right_iff_fits (interface loadFailed : LocationAdapterType → Bool) (es : List ApiEvent) :
    StatesMeet step Right (new interface loadFailed) es ↔
      StepsMeet step Fits (new interface loadFailed) es := by
  have hnew : (new interface loadFailed).Right :=
    ⟨(fun _ h => nomatch h), rfl, (fun h => nomatch h), fun h => absurd rfl h⟩
  exact statesMeet_iff_stepsMeet (fun _ e h => Known.next h e)
    (fun _ e h hright => next_right_iff h hright e) (known_new interface loadFailed) hnew

/-- A client is destroyed with a callback, and the one adapter answers. -/
theorem not_right_removed : ¬ StatesMeet step Right (new (fun _ => false) fun _ => false)
      [.createInstance { LocationCallbacks.mandatory with trackingCb := true } (fun _ => true) 1,
        .destroy 1 true, .removed ⟨.gnss, 1, 0⟩] := by
  intro h
  exact absurd (h.last.1 0 (by decide)) (by decide)

end LocationAPIData

end LocStack.Api
