/-
# `LocStack.Core.FrameworkItems` — what the framework has subscribed

The observer tells the framework which items to subscribe and to
unsubscribe.  `InStep`: once there is an object to tell it, what is
subscribed at the framework are the items with clients.

Two things break it.  `requestData` makes entries as `subscribe` does, and
only asks for data.  And the items to unsubscribe are read from entries that
were erased just before; what is read is up to the heap.

`inStep_iff`: the framework is in step throughout a run if and only if data
is requested of items with clients only, and the keys read are those of the
entries erased.
-/
import LocStack.Core.OsObserver
import Mathlib.Data.Finset.Basic

namespace LocStack.Core

open Base Utils List

variable {C D O : Type*} [DecidableEq C] [DecidableEq D]

/-- The items subscribed at the framework after something was sent. -/
def subscribedAfter (subscribed : Finset D) : Sent C D O → Finset D
  | .subscribe _ l => subscribed ∪ l.toFinset
  | .unsubscribe _ l => subscribed \ l.toFinset
  | _ => subscribed

/-- The observer, and the items subscribed at the framework. -/
structure Framework (C D O : Type*) where
  observer : Observer C D O
  subscribed : Finset D

namespace Framework

open Observer LocUnorderedSetMap

def new : Framework C D O := ⟨.new, ∅⟩

def step (w : Framework C D O) (e : Call C D O × Reads C D) :
    Framework C D O × List (Sent C D O) :=
  (⟨(w.observer.step e).1, (w.observer.step e).2.foldl subscribedAfter w.subscribed⟩,
    (w.observer.step e).2)

/-- Once the object is set, the items with clients are those subscribed. -/
def InStep (w : Framework C D O) : Prop :=
  w.observer.mSubscriptionObj ≠ none → ∀ d, d ∈ w.subscribed ↔ d ∈ w.observer.mDataItemToClients

/-- Of the items of the map and of `more`, the keys read after `trimOrRemove`
erased their entries are those of these entries. -/
def KeysRead (reads : Reads C D) (m : LocUnorderedSetMap D C) (keys : List D) (client : C)
    (more : List D) : Prop :=
  ∀ d, d ∈ m ∨ d ∈ more →
    ((∃ k, Emptied m keys [client] k ∧ reads.item k = d) ↔ Emptied m keys [client] d)

/-- Data is requested of items with clients, and the keys that are read are
those of the entries erased. -/
def Told (w : Framework C D O) (e : Call C D O × Reads C D) : Prop :=
  let s := w.observer
  s.mSubscriptionObj ≠ none →
    match e.1 with
    | .subscribe l (some _) true => ∀ d ∈ l, d ∈ s.mDataItemToClients
    | .updateSubscription l (some client) =>
      l ≠ [] → KeysRead e.2 s.mDataItemToClients (s.interset e.2 l client).common client
        (s.interset e.2 l client).s2
    | .unsubscribe l (some client) =>
      l ≠ [] → KeysRead e.2 s.mDataItemToClients
        ((s.mClientToDataItems.getValSet client).filter (· ∈ l)) client []
    | .unsubscribeAll (some client) =>
      KeysRead e.2 s.mDataItemToClients (s.mClientToDataItems.getValSet client) client []
    | _ => True

section Sets

variable {subscribed : Finset D} {obj : O} {set : List D} {d : D}

omit [DecidableEq C] in
theorem mem_tell_subscribe :
    d ∈ (Observer.tell (C := C) (some obj) .subscribe set).foldl subscribedAfter subscribed ↔
      d ∈ subscribed ∨ d ∈ set := by
  by_cases hset : set = []
  · subst hset
    simp [Observer.tell]
  · simp [Observer.tell, hset, subscribedAfter]

omit [DecidableEq C] in
theorem mem_tell_unsubscribe :
    d ∈ (Observer.tell (C := C) (some obj) .unsubscribe set).foldl subscribedAfter subscribed ↔
      d ∈ subscribed ∧ d ∉ set := by
  by_cases hset : set = []
  · subst hset
    simp [Observer.tell]
  · simp [Observer.tell, hset, subscribedAfter]

omit [DecidableEq C] in
theorem keysRead_iff {reads : Reads C D} {m : LocUnorderedSetMap D C} {keys : List D} {client : C}
    {more : List D} (hmore : ∀ d ∈ more, d ∉ keys) :
    (∀ d, ((d ∈ m ∨ d ∈ more) ∧ ¬ ∃ k, Emptied m keys [client] k ∧ reads.item k = d) ↔
        (d ∈ m ∧ ¬ Emptied m keys [client] d) ∨ d ∈ more) ↔
      KeysRead reads m keys client more := by
  have hout : ∀ d, (d ∈ m ∧ ¬ Emptied m keys [client] d) ∨ d ∈ more ↔
      (d ∈ m ∨ d ∈ more) ∧ ¬ Emptied m keys [client] d := by
    intro d
    have hno : d ∈ more → ¬ Emptied m keys [client] d := fun hd hemp => hmore d hd hemp.2.1
    tauto
  unfold KeysRead
  refine forall_congr' fun d => ?_
  rw [hout d, and_congr_right_iff, not_iff_not]

end Sets

/-! ## One message -/

section Messages

variable {s : Observer C D O} {subscribed : Finset D} {obj : O} {reads : Reads C D} {l : List D}
  {client : C} {d : D}

/-- The framework is in step with the observer after a message. -/
abbrev InStepAfter (subscribed : Finset D) (p : Observer C D O × List (Sent C D O)) : Prop :=
  ∀ d, d ∈ p.2.foldl subscribedAfter subscribed ↔ d ∈ p.1.mDataItemToClients

omit [DecidableEq C] in
theorem emptied_congr {m : LocUnorderedSetMap D C} {keys keys' : List D}
    (h : ∀ d, d ∈ keys ↔ d ∈ keys') : Emptied m keys [client] d ↔ Emptied m keys' [client] d :=
  and_congr_right fun _ => and_congr_left fun _ => h d

omit [DecidableEq C] in
theorem inStep_setSubsObj
    (hsub : subscribed = ∅ ∨ ∀ d, d ∈ subscribed ↔ d ∈ s.mDataItemToClients)
    (obj : O) : InStepAfter subscribed (s.setSubsObj obj) := by
  intro d
  by_cases hkeys : s.mDataItemToClients.getKeys = []
  · have hstep : s.setSubsObj obj = ({ s with mSubscriptionObj := some obj }, []) := if_pos hkeys
    have hno : d ∉ s.mDataItemToClients := fun hd => by
      have hd' : d ∈ s.mDataItemToClients.getKeys := AList.mem_keys.mp hd
      rw [hkeys] at hd'
      cases hd'
    rw [hstep]
    rcases hsub with rfl | hsub
    · exact iff_of_false (Finset.notMem_empty d) hno
    · exact hsub d
  · have hstep : s.setSubsObj obj = ({ s with mSubscriptionObj := some obj },
        [.subscribe obj (toList s.mDataItemToClients.getKeys),
          .requestData obj (toList s.mDataItemToClients.getKeys)]) := if_neg hkeys
    have hmem : d ∈ s.mDataItemToClients.getKeys ↔ d ∈ s.mDataItemToClients := AList.mem_keys.symm
    rw [hstep]
    simp only [foldl_cons, foldl_nil, subscribedAfter, Finset.mem_union,
      mem_toFinset, mem_toList, hmem]
    refine or_iff_right_of_imp fun hd => ?_
    rcases hsub with rfl | hsub
    · exact absurd hd (Finset.notMem_empty d)
    · exact (hsub d).mp hd

section

variable (hobj : s.mSubscriptionObj = some obj)
  (hsub : ∀ d, d ∈ subscribed ↔ d ∈ s.mDataItemToClients)
include hobj hsub

theorem inStep_subscribe (toRequestData : Bool) :
    InStepAfter subscribed (s.handleSubscribeReq l client toRequestData) ↔
      (toRequestData = true → ∀ d ∈ l, d ∈ s.mDataItemToClients) := by
  have hadds := adds_addAll s.mDataItemToClients (toSet l) (cons_ne_nil client [])
  have hkeys : ∀ d, d ∈ (s.handleSubscribeReq l client toRequestData).1.mDataItemToClients ↔
      d ∈ s.mDataItemToClients ∨ d ∈ l := fun d =>
    (hadds.mem d).trans (or_congr_right mem_toSet)
  unfold InStepAfter
  simp only [hkeys]
  cases toRequestData with
  | true =>
    have hout : (s.handleSubscribeReq l client true).2 =
        [.sendCachedDataItems (toSet l) client, .requestData obj l] := by
      unfold handleSubscribeReq
      rw [hobj]
      rfl
    rw [hout]
    simp only [foldl_cons, foldl_nil, subscribedAfter, hsub, true_implies]
    constructor
    · intro h d hd
      exact (h d).mpr (Or.inr hd)
    · intro h d
      exact (or_iff_left_of_imp (h d)).symm
  | false =>
    have hout : (s.handleSubscribeReq l client false).2 = .sendCachedDataItems (toSet l) client ::
          Observer.tell (some obj) .subscribe
            (s.mDataItemToClients.addAll (toSet l) [client]).2 := by
      unfold handleSubscribeReq
      rw [hobj]
      rfl
    rw [hout]
    refine iff_of_true (fun d => ?_) (fun h => absurd h Bool.false_ne_true)
    refine mem_tell_subscribe.trans ?_
    have hnew := hadds.newKeys d
    simp only [not_mem_nil, false_or, mem_toSet] at hnew
    rw [hnew]
    show d ∈ subscribed ∨ _ ↔ _
    rw [hsub]
    tauto

theorem inStep_update (hl : l ≠ []) :
    InStepAfter subscribed (s.handleUpdateSubscriptionReq reads l client) ↔
      KeysRead reads s.mDataItemToClients (s.interset reads l client).common client
        (s.interset reads l client).s2 := by
  have htrims := trims_trimOrRemove reads.item s.mDataItemToClients
    (s.interset reads l client).common [client]
  have hadds := adds_addAll (s.mDataItemToClients.trimOrRemove reads.item
    (s.interset reads l client).common [client]).map (s.interset reads l client).s2
    (cons_ne_nil client [])
  have hout : (s.handleUpdateSubscriptionReq reads l client).2 =
      .sendCachedDataItems (s.interset reads l client).s2 client ::
        (tell (some obj) .subscribe ((s.mDataItemToClients.trimOrRemove reads.item
            (s.interset reads l client).common [client]).map.addAll
            (s.interset reads l client).s2 [client]).2 ++
          Observer.tell (some obj) .unsubscribe (s.mDataItemToClients.trimOrRemove reads.item
            (s.interset reads l client).common [client]).goneKeys) := by
    unfold handleUpdateSubscriptionReq
    rw [update_eq hl, hobj]
  have hmore : ∀ d ∈ (s.interset reads l client).s2, d ∉ (s.interset reads l client).common :=
    fun d hd => (((mem_removeAndReturnInterset reads.rest _ (toSet l)).2 d).mp hd).2
  rw [← keysRead_iff hmore]
  refine forall_congr' fun d => ?_
  have hkeys := hadds.mem d
  have hnew := hadds.newKeys d
  have hgone := htrims.goneKeys d
  have hleft := htrims.mem d
  simp only [not_mem_nil, false_or] at hnew hgone
  rw [hleft] at hkeys hnew
  rw [(update_maps hl).2, hout, foldl_cons, foldl_append, mem_tell_unsubscribe,
    mem_tell_subscribe, hkeys, hnew, hgone]
  have hold : (d ∈ subscribed ∨ d ∈ (s.interset reads l client).s2 ∧
      ¬ (d ∈ s.mDataItemToClients ∧ ¬ Emptied s.mDataItemToClients
        (s.interset reads l client).common [client] d)) ↔
      d ∈ s.mDataItemToClients ∨ d ∈ (s.interset reads l client).s2 := by
    rw [hsub]
    exact or_congr_right' fun hno => and_iff_left fun h => hno h.1
  exact iff_congr (and_congr_left fun _ => hold) Iff.rfl

end

theorem inStep_trim {keys : List D} {p : Observer C D O × List (Sent C D O)}
    (hsub : ∀ d, d ∈ subscribed ↔ d ∈ s.mDataItemToClients)
    (hmap : p.1.mDataItemToClients =
      (s.mDataItemToClients.trimOrRemove reads.item keys [client]).map)
    (hout : p.2 = Observer.tell (some obj) .unsubscribe
      (s.mDataItemToClients.trimOrRemove reads.item keys [client]).goneKeys) :
    InStepAfter subscribed p ↔ KeysRead reads s.mDataItemToClients keys client [] := by
  have htrims := trims_trimOrRemove reads.item s.mDataItemToClients keys [client]
  have hnone : ∀ d ∈ ([] : List D), d ∉ keys := fun d hd => absurd hd not_mem_nil
  rw [← keysRead_iff hnone]
  refine forall_congr' fun d => ?_
  have hgone := htrims.goneKeys d
  simp only [not_mem_nil, false_or] at hgone
  rw [hout, hmap, mem_tell_unsubscribe, htrims.mem, hgone, hsub]
  simp only [not_mem_nil, or_false]

variable (hobj : s.mSubscriptionObj = some obj)
  (hsub : ∀ d, d ∈ subscribed ↔ d ∈ s.mDataItemToClients)
include hobj hsub

theorem inStep_unsubscribe : InStepAfter subscribed (s.handleUnsubscribeReq reads l client) ↔
      KeysRead reads s.mDataItemToClients
        ((s.mClientToDataItems.getValSet client).filter (· ∈ l)) client [] := by
  have hout : (s.handleUnsubscribeReq reads l client).2 = Observer.tell (some obj) .unsubscribe
      (s.mDataItemToClients.trimOrRemove reads.item (s.mClientToDataItems.trimOrRemove
        reads.client [client] (toSet l)).goneVals [client]).goneKeys := by
    unfold handleUnsubscribeReq
    rw [hobj]
  rw [inStep_trim hsub rfl hout]
  have hkeys : ∀ d, d ∈ (s.mClientToDataItems.trimOrRemove reads.client [client]
      (toSet l)).goneVals ↔ d ∈ (s.mClientToDataItems.getValSet client).filter (· ∈ l) := by
    intro d
    rw [(trims_trimOrRemove reads.client s.mClientToDataItems [client] (toSet l)).goneVals]
    simp
  unfold KeysRead
  simp only [emptied_congr hkeys]

theorem inStep_unsubscribeAll : InStepAfter subscribed (s.handleUnsubscribeAllReq reads client) ↔
      KeysRead reads s.mDataItemToClients (s.mClientToDataItems.getValSet client) client [] := by
  by_cases hempty : s.mClientToDataItems.getValSet client = []
  · have hsame : s.handleUnsubscribeAllReq reads client = (s, []) := if_pos hempty
    have hno : ∀ k, ¬ Emptied s.mDataItemToClients [] [client] k := fun k h =>
      absurd h.2.1 not_mem_nil
    rw [hsame, hempty]
    refine iff_of_true hsub fun d _ => iff_of_false ?_ (hno d)
    rintro ⟨k, hk, -⟩
    exact hno k hk
  · have hstep : s.handleUnsubscribeAllReq reads client = ({ s with
            mDataItemToClients := (trimOrRemove reads.item s.mDataItemToClients
              (s.mClientToDataItems.getValSet client) [client]).map
            mClientToDataItems := s.mClientToDataItems.remove client },
          Observer.tell s.mSubscriptionObj .unsubscribe
            (trimOrRemove reads.item s.mDataItemToClients
              (s.mClientToDataItems.getValSet client) [client]).goneKeys) := if_neg hempty
    have hout : (s.handleUnsubscribeAllReq reads client).2 = Observer.tell (some obj) .unsubscribe
        (trimOrRemove reads.item s.mDataItemToClients
          (s.mClientToDataItems.getValSet client) [client]).goneKeys := by
      rw [hstep, hobj]
    exact inStep_trim hsub (congrArg (fun p => p.1.mDataItemToClients) hstep) hout

end Messages

/-! ## Runs -/

section Runs

variable {w : Framework C D O}

/-- While there is no object, only the message that sets it says anything to
the framework. -/
theorem quiet_step (s : Observer C D O) (e : Call C D O × Reads C D) (subscribed : Finset D)
    (hnone : (s.step e).1.mSubscriptionObj = none) :
    s.mSubscriptionObj = none ∧
      (s.step e).2.foldl subscribedAfter subscribed = subscribed := by
  obtain ⟨call, reads⟩ := e
  refine step_cases s reads (P := fun _ p => p.1.mSubscriptionObj = none →
    s.mSubscriptionObj = none ∧ p.2.foldl subscribedAfter subscribed = subscribed)
    ?_ ?_ ?_ ?_ ?_ ?_ call hnone
  · exact fun _ _ hobj => ⟨hobj, rfl⟩
  · intro obj hobj
    have hset : (s.setSubsObj obj).1.mSubscriptionObj = some obj :=
      congrArg Observer.mSubscriptionObj (setSubsObj_fst s obj)
    exact absurd (hset.symm.trans hobj) (Option.some_ne_none obj)
  · intro l client toRequestData _ hobj
    have hobj' : s.mSubscriptionObj = none := hobj
    refine ⟨hobj', ?_⟩
    unfold handleSubscribeReq
    rw [hobj']
    cases toRequestData <;> rfl
  · intro l client _ hobj
    have hobj' : s.mSubscriptionObj = none := hobj
    refine ⟨hobj', ?_⟩
    unfold handleUpdateSubscriptionReq
    rw [hobj']
    rfl
  · intro l client _ hobj
    have hobj' : s.mSubscriptionObj = none := hobj
    refine ⟨hobj', ?_⟩
    unfold handleUnsubscribeReq
    rw [hobj']
    rfl
  · intro client hobj
    have hobj' : s.mSubscriptionObj = none :=
      (mSubscriptionObj_unsubscribeAll s reads client).symm.trans hobj
    refine ⟨hobj', ?_⟩
    unfold handleUnsubscribeAllReq
    rw [hobj']
    by_cases hempty : s.mClientToDataItems.getValSet client = []
    · exact congrArg (fun p : _ × List (Sent C D O) => p.2.foldl _ _) (if_pos hempty)
    · exact congrArg (fun p : _ × List (Sent C D O) => p.2.foldl _ _) (if_neg hempty)

/-- Without an object nothing has been subscribed. -/
def Untold (w : Framework C D O) : Prop :=
  w.observer.mSubscriptionObj = none → w.subscribed = ∅

theorem untold_step (h : w.Untold) (e : Call C D O × Reads C D) : (w.step e).1.Untold := by
  intro hnone
  obtain ⟨hnone', hsame⟩ := quiet_step w.observer e w.subscribed hnone
  exact hsame.trans (h hnone')

theorem told_of_refused {call : Call C D O} (h : Refused call) (reads : Reads C D) :
    w.Told (call, reads) := by
  intro _
  cases call with
  | subscribe l client toRequestData =>
    rcases h with rfl | rfl
    · cases client with
      | none => trivial
      | some client =>
        cases toRequestData with
        | true => exact fun d hd => absurd hd not_mem_nil
        | false => trivial
    · trivial
  | updateSubscription l client =>
    rcases h with rfl | rfl
    · cases client with
      | none => trivial
      | some client => exact fun hne => absurd rfl hne
    · trivial
  | unsubscribe l client =>
    rcases h with rfl | rfl
    · cases client with
      | none => trivial
      | some client => exact fun hne => absurd rfl hne
    · trivial
  | unsubscribeAll client =>
    obtain rfl := h
    trivial
  | setSubscriptionObj obj => trivial

/-- While there is an object: each message keeps the framework in step
exactly if it meets its condition. -/
theorem inStep_message {obj : O} (hobj : w.observer.mSubscriptionObj = some obj)
    (hsub : ∀ d, d ∈ w.subscribed ↔ d ∈ w.observer.mDataItemToClients)
    (e : Call C D O × Reads C D) :
    InStepAfter w.subscribed (w.observer.step e) ↔ w.Told e := by
  obtain ⟨call, reads⟩ := e
  have hsome : w.observer.mSubscriptionObj ≠ none := fun hnone => by
    rw [hobj] at hnone
    cases hnone
  refine step_cases w.observer reads
    (P := fun call p => InStepAfter w.subscribed p ↔ w.Told (call, reads)) ?_ ?_ ?_ ?_ ?_ ?_ call
  · intro call hrefused
    exact iff_of_true hsub (told_of_refused hrefused reads)
  · intro obj'
    exact iff_of_true (inStep_setSubsObj (Or.inr hsub) obj') fun _ => trivial
  · intro l client toRequestData hl
    rw [inStep_subscribe hobj hsub]
    cases toRequestData with
    | true => exact ⟨fun h _ => h rfl, fun h _ => h hsome⟩
    | false => exact iff_of_true (fun h => absurd h Bool.false_ne_true) fun _ => trivial
  · intro l client hl
    rw [inStep_update hobj hsub hl]
    exact ⟨fun h _ _ => h, fun h => h hsome hl⟩
  · intro l client hl
    rw [inStep_unsubscribe hobj hsub]
    exact ⟨fun h _ _ => h, fun h => h hsome hl⟩
  · intro client
    rw [inStep_unsubscribeAll hobj hsub]
    exact ⟨fun h _ => h, fun h => h hsome⟩

theorem inStep_step (huntold : w.Untold) (h : w.InStep) (e : Call C D O × Reads C D) :
    (w.step e).1.InStep ↔ w.Told e := by
  cases hobj : w.observer.mSubscriptionObj with
  | some obj =>
    have hsub := h (hobj ▸ Option.some_ne_none obj)
    rw [← inStep_message hobj hsub e]
    have hsome : (w.step e).1.observer.mSubscriptionObj ≠ none := fun hnone => by
      have hnone' := (quiet_step w.observer e w.subscribed hnone).1
      rw [hobj] at hnone'
      cases hnone'
    exact ⟨fun h' => h' hsome, fun h' _ => h'⟩
  | none =>
    refine iff_of_true ?_ fun hsome => absurd hobj hsome
    obtain ⟨call, reads⟩ := e
    have hempty := huntold hobj
    refine step_cases w.observer reads (P := fun _ p => p.1.mSubscriptionObj ≠ none →
      InStepAfter w.subscribed p) ?_ ?_ ?_ ?_ ?_ ?_ call
    · exact fun _ _ hsome => absurd hobj hsome
    · exact fun obj _ => inStep_setSubsObj (Or.inl hempty) obj
    · exact fun _ _ _ _ hsome => absurd hobj hsome
    · exact fun _ _ _ hsome => absurd hobj hsome
    · exact fun _ _ _ hsome => absurd hobj hsome
    · intro client hsome
      exact absurd ((mSubscriptionObj_unsubscribeAll _ _ _).trans hobj) hsome

/-- Over every run of messages, with the object set at any point: from then
on what is subscribed at the framework are the items with clients, if and
only if every message is told as it should be. -/
theorem inStep_iff (es : List (Call C D O × Reads C D)) :
    StatesMeet step InStep new es ↔ StepsMeet step Told new es :=
  statesMeet_iff_stepsMeet (Q := Untold) (fun _ e h => untold_step h e)
    (fun _ e huntold h => inStep_step huntold h e) (fun _ => rfl) fun h => absurd rfl h

/-- Data is requested of an item, and nobody subscribes it at the framework. -/
theorem not_inStep_requestData : ¬ ∀ es : List (Call Nat Nat Nat × Reads Nat Nat),
    StatesMeet step InStep new es := by
  intro h
  have hlast := (h [(.setSubscriptionObj (some 0), ⟨id, id, fun _ => []⟩),
    (.subscribe [1] (some 7) true, ⟨id, id, fun _ => []⟩)]).last
  have hmem := (hlast (by decide) 1).mpr (AList.lookup_isSome.mp (by decide))
  exact absurd hmem (by decide)

end Runs

end Framework

end LocStack.Core
