/-
# `LocStack.Core.OsObserver` — who has subscribed to which data item

SystemStatusOsObserver keeps the subscriptions of its clients twice, as the
items of each client and as the clients of each item, and forwards to the
framework what the first client of an item begins and the last one ends.

    subscribe             adds to both; with toRequestData it asks the framework
                          for data where it would subscribe otherwise
    updateSubscription    puts the items in place of what the client had
    unsubscribe(All)      trims both

A message is one step.  With it comes what the heap has in the places that
are read after they were freed (`Reads`).

`removeAndReturnInterset` returns what is common of old and new items, where
`updateSubscription` needs what is gone, so that the two maps disagree as
soon as a client that has items updates its subscription:
`converse_iff` says that they agree throughout a run if and only if no client
does so.
-/
import LocStack.Base.Run
import LocStack.Utils.SetMap

namespace LocStack.Core

open Base Utils List

variable {C D O : Type*}

/-- `mClientToDataItems`, `mDataItemToClients` and `mContext.mSubscriptionObj`. -/
structure Observer (C D O : Type*) where
  mClientToDataItems : LocUnorderedSetMap C D
  mDataItemToClients : LocUnorderedSetMap D C
  mSubscriptionObj : Option O

/-- What is read while a message is processed: the key of an entry that was
erased, and the elements that follow one that was. -/
structure Reads (C D : Type*) where
  client : C → C
  item : D → D
  rest : D → List D

/-- The calls; a pointer that is null is `none`. -/
inductive Call (C D O : Type*) where
  | setSubscriptionObj (subscriptionObj : Option O)
  | subscribe (l : List D) (client : Option C) (toRequestData : Bool)
  | updateSubscription (l : List D) (client : Option C)
  | unsubscribe (l : List D) (client : Option C)
  | unsubscribeAll (client : Option C)

/-- What is sent to a client, and what to the framework. -/
inductive Sent (C D O : Type*) where
  | sendCachedDataItems (s : List D) (client : C)
  | subscribe (obj : O) (l : List D)
  | unsubscribe (obj : O) (l : List D)
  | requestData (obj : O) (l : List D)

section Transfer

variable [DecidableEq D]

/-- `containerTransfer` from a list to a set, and from a set to a list. -/
def toSet (l : List D) : List D := l.foldl (fun s v => s.insert v) []

def toList (s : List D) : List D := s.foldl (fun l v => v :: l) []

variable {l : List D} {d : D}

@[simp] theorem mem_toSet : d ∈ toSet l ↔ d ∈ l :=
  LocUnorderedSetMap.mem_foldl_insert.trans (or_iff_right not_mem_nil)

theorem toSet_ne_nil (h : l ≠ []) : toSet l ≠ [] := by
  obtain ⟨d, hd⟩ := exists_mem_of_ne_nil l h
  exact ne_nil_of_mem (mem_toSet.mpr hd)

omit [DecidableEq D] in
@[simp] theorem mem_toList {s : List D} : d ∈ toList s ↔ d ∈ s := by
  have hfold : ∀ l : List D, s.foldl (fun l v => v :: l) l = s.reverse ++ l := by
    induction s with
    | nil => exact fun _ => rfl
    | cons v s ih =>
      intro l
      rw [foldl_cons, ih, reverse_cons, append_assoc]
      rfl
  rw [toList, hfold, append_nil, mem_reverse]

end Transfer

namespace Observer

/-- The framework is told of a set that is not empty. -/
def tell (obj : Option O) (f : O → List D → Sent C D O) (s : List D) : List (Sent C D O) :=
  match obj with
  | some obj => if s = [] then [] else [f obj (toList s)]
  | none => []

variable [DecidableEq C] [DecidableEq D]

/-- `SetSubsObj::proc`. -/
def setSubsObj (s : Observer C D O) (obj : O) : Observer C D O × List (Sent C D O) :=
  let s := { s with mSubscriptionObj := some obj }
  if s.mDataItemToClients.getKeys = [] then (s, [])
  else
    let dis := toList s.mDataItemToClients.getKeys
    (s, [.subscribe obj dis, .requestData obj dis])

/-- `HandleSubscribeReq::proc`. -/
def handleSubscribeReq (s : Observer C D O) (l : List D) (mClient : C) (mToRequestData : Bool) :
    Observer C D O × List (Sent C D O) :=
  let mDataItemSet := toSet l
  let (mDataItemToClients, dataItemsToSubscribe) :=
    s.mDataItemToClients.addAll mDataItemSet [mClient]
  let (mClientToDataItems, _) := s.mClientToDataItems.add mClient mDataItemSet
  ({ s with
      mDataItemToClients := mDataItemToClients
      mClientToDataItems := mClientToDataItems },
    .sendCachedDataItems mDataItemSet mClient ::
      if mToRequestData then
        match s.mSubscriptionObj with
        | some obj => [.requestData obj l]
        | none => []
      else tell s.mSubscriptionObj .subscribe dataItemsToSubscribe)

/-- `HandleUpdateSubscriptionReq::proc`; `update` leaves in mDataItemSet what
it does not return. -/
def handleUpdateSubscriptionReq (s : Observer C D O) (reads : Reads C D) (l : List D)
    (mClient : C) : Observer C D O × List (Sent C D O) :=
  let (mClientToDataItems, goneVals, mDataItemSet) :=
    s.mClientToDataItems.update reads.rest mClient (toSet l)
  let trimmed := s.mDataItemToClients.trimOrRemove reads.item goneVals [mClient]
  let dataItemsToUnsubscribe := trimmed.goneKeys
  let (mDataItemToClients, dataItemsToSubscribe) := trimmed.map.addAll mDataItemSet [mClient]
  ({ s with
      mDataItemToClients := mDataItemToClients
      mClientToDataItems := mClientToDataItems },
    .sendCachedDataItems mDataItemSet mClient ::
      (tell s.mSubscriptionObj .subscribe dataItemsToSubscribe ++
        tell s.mSubscriptionObj .unsubscribe dataItemsToUnsubscribe))

/-- `HandleUnsubscribeReq::proc`. -/
def handleUnsubscribeReq (s : Observer C D O) (reads : Reads C D) (l : List D) (mClient : C) :
    Observer C D O × List (Sent C D O) :=
  let byClient := s.mClientToDataItems.trimOrRemove reads.client [mClient] (toSet l)
  let dataItemsUnusedByClient := byClient.goneVals
  let byItem := s.mDataItemToClients.trimOrRemove reads.item dataItemsUnusedByClient [mClient]
  ({ s with mDataItemToClients := byItem.map, mClientToDataItems := byClient.map },
    tell s.mSubscriptionObj .unsubscribe byItem.goneKeys)

/-- `HandleUnsubscribeAllReq::proc`. -/
def handleUnsubscribeAllReq (s : Observer C D O) (reads : Reads C D) (mClient : C) :
    Observer C D O × List (Sent C D O) :=
  let diByClient := s.mClientToDataItems.getValSet mClient
  if diByClient = [] then (s, [])
  else
    let byItem := s.mDataItemToClients.trimOrRemove reads.item diByClient [mClient]
    ({ s with
        mDataItemToClients := byItem.map
        mClientToDataItems := s.mClientToDataItems.remove mClient },
      tell s.mSubscriptionObj .unsubscribe byItem.goneKeys)

/-- A call, and the message that it sends unless an argument is missing. -/
def step (s : Observer C D O) (e : Call C D O × Reads C D) :
    Observer C D O × List (Sent C D O) :=
  match e.1 with
  | .setSubscriptionObj (some obj) => s.setSubsObj obj
  | .subscribe l (some client) toRequestData =>
    if l = [] then (s, []) else s.handleSubscribeReq l client toRequestData
  | .updateSubscription l (some client) =>
    if l = [] then (s, []) else s.handleUpdateSubscriptionReq e.2 l client
  | .unsubscribe l (some client) =>
    if l = [] then (s, []) else s.handleUnsubscribeReq e.2 l client
  | .unsubscribeAll (some client) => s.handleUnsubscribeAllReq e.2 client
  | _ => (s, [])

def new : Observer C D O := ⟨∅, ∅, none⟩

/-- An argument of the call is missing, and no message is sent. -/
def Refused : Call C D O → Prop
  | .setSubscriptionObj obj => obj = none
  | .subscribe l client _ => l = [] ∨ client = none
  | .updateSubscription l client => l = [] ∨ client = none
  | .unsubscribe l client => l = [] ∨ client = none
  | .unsubscribeAll client => client = none

theorem step_cases (s : Observer C D O) (reads : Reads C D)
    {P : Call C D O → Observer C D O × List (Sent C D O) → Prop}
    (hrefused : ∀ call, Refused call → P call (s, []))
    (hset : ∀ obj, P (.setSubscriptionObj (some obj)) (s.setSubsObj obj))
    (hsubscribe : ∀ l client toRequestData, l ≠ [] →
      P (.subscribe l (some client) toRequestData) (s.handleSubscribeReq l client toRequestData))
    (hupdate : ∀ l client, l ≠ [] →
      P (.updateSubscription l (some client)) (s.handleUpdateSubscriptionReq reads l client))
    (hunsubscribe : ∀ l client, l ≠ [] →
      P (.unsubscribe l (some client)) (s.handleUnsubscribeReq reads l client))
    (hall : ∀ client, P (.unsubscribeAll (some client)) (s.handleUnsubscribeAllReq reads client))
    (call : Call C D O) : P call (s.step (call, reads)) := by
  cases call with
  | setSubscriptionObj obj =>
    cases obj with
    | none => exact hrefused _ rfl
    | some obj => exact hset obj
  | subscribe l client toRequestData =>
    cases client with
    | none => exact hrefused _ (Or.inr rfl)
    | some client =>
      show P _ (if l = [] then (s, []) else _)
      split
      · rename_i hl
        exact hrefused _ (Or.inl hl)
      · rename_i hl
        exact hsubscribe l client toRequestData hl
  | updateSubscription l client =>
    cases client with
    | none => exact hrefused _ (Or.inr rfl)
    | some client =>
      show P _ (if l = [] then (s, []) else _)
      split
      · rename_i hl
        exact hrefused _ (Or.inl hl)
      · rename_i hl
        exact hupdate l client hl
  | unsubscribe l client =>
    cases client with
    | none => exact hrefused _ (Or.inr rfl)
    | some client =>
      show P _ (if l = [] then (s, []) else _)
      split
      · rename_i hl
        exact hrefused _ (Or.inl hl)
      · rename_i hl
        exact hunsubscribe l client hl
  | unsubscribeAll client =>
    cases client with
    | none => exact hrefused _ rfl
    | some client => exact hall client

/-! ## The two maps -/

/-- The maps are converse, and have no empty sets. -/
structure Converse (s : Observer C D O) : Prop where
  iff : ∀ c d, d ∈ s.mClientToDataItems.getValSet c ↔ c ∈ s.mDataItemToClients.getValSet d
  items : s.mClientToDataItems.NoEmpty
  clients : s.mDataItemToClients.NoEmpty

/-- After an update the client has the items of the list, in both maps. -/
def Updated (s : Observer C D O) (e : Call C D O × Reads C D) : Prop :=
  match e.1 with
  | .updateSubscription l (some client) => l ≠ [] → ∀ d,
      (d ∈ (s.step e).1.mClientToDataItems.getValSet client ↔ d ∈ l) ∧
        (client ∈ (s.step e).1.mDataItemToClients.getValSet d ↔ d ∈ l)
  | _ => True

/-- Only a client without items updates its subscription. -/
def FreshUpdate (s : Observer C D O) (e : Call C D O × Reads C D) : Prop :=
  match e.1 with
  | .updateSubscription l (some client) =>
    l ≠ [] → s.mClientToDataItems.getValSet client = []
  | _ => True

section Messages

open LocUnorderedSetMap

variable {s : Observer C D O} {reads : Reads C D} {l : List D} {client c : C} {d : D}

theorem mem_subscribe (hl : l ≠ []) (toRequestData : Bool) :
    (d ∈ (s.handleSubscribeReq l client toRequestData).1.mClientToDataItems.getValSet c ↔
        d ∈ s.mClientToDataItems.getValSet c ∨ (c = client ∧ d ∈ l)) ∧
      (c ∈ (s.handleSubscribeReq l client toRequestData).1.mDataItemToClients.getValSet d ↔
        c ∈ s.mDataItemToClients.getValSet d ∨ (d ∈ l ∧ c = client)) := by
  have hitems := (adds_add s.mClientToDataItems client (toSet_ne_nil hl) []).vals c d
  have hclients := (adds_addAll s.mDataItemToClients (toSet l) (cons_ne_nil client [])).vals d c
  simp only [mem_singleton, mem_toSet] at hitems hclients
  exact ⟨hitems, hclients⟩

theorem converse_subscribe (h : s.Converse) (hl : l ≠ []) (toRequestData : Bool) :
    (s.handleSubscribeReq l client toRequestData).1.Converse := by
  constructor
  · intro c d
    rw [(mem_subscribe hl toRequestData).1, (mem_subscribe hl toRequestData).2, h.iff, and_comm]
  · exact (adds_add s.mClientToDataItems client (toSet_ne_nil hl) []).noEmpty h.items
  · exact (adds_addAll s.mDataItemToClients (toSet l) (cons_ne_nil client [])).noEmpty h.clients

theorem mem_unsubscribe :
    (d ∈ (s.handleUnsubscribeReq reads l client).1.mClientToDataItems.getValSet c ↔
        d ∈ s.mClientToDataItems.getValSet c ∧ ¬ (c = client ∧ d ∈ l)) ∧
      (c ∈ (s.handleUnsubscribeReq reads l client).1.mDataItemToClients.getValSet d ↔
        c ∈ s.mDataItemToClients.getValSet d ∧
          ¬ ((d ∈ s.mClientToDataItems.getValSet client ∧ d ∈ l) ∧ c = client)) := by
  have hby := trims_trimOrRemove reads.client s.mClientToDataItems [client] (toSet l)
  have hitems := hby.vals c d
  have hgone := hby.goneVals d
  have hclients := (trims_trimOrRemove reads.item s.mDataItemToClients
    (s.mClientToDataItems.trimOrRemove reads.client [client] (toSet l)).goneVals [client]).vals d c
  simp only [mem_singleton, mem_toSet, not_mem_nil, false_or, exists_eq_left]
    at hitems hgone hclients
  rw [hgone] at hclients
  exact ⟨hitems, hclients⟩

theorem converse_unsubscribe (h : s.Converse) :
    (s.handleUnsubscribeReq reads l client).1.Converse := by
  constructor
  · intro c d
    rw [mem_unsubscribe.1, mem_unsubscribe.2, h.iff]
    refine and_congr_right fun hcd => not_congr ?_
    constructor
    · rintro ⟨rfl, hd⟩
      exact ⟨⟨(h.iff _ _).mpr hcd, hd⟩, rfl⟩
    · rintro ⟨⟨-, hd⟩, rfl⟩
      exact ⟨rfl, hd⟩
  · exact (trims_trimOrRemove reads.client s.mClientToDataItems [client] (toSet l)).noEmpty h.items
  · exact (trims_trimOrRemove reads.item s.mDataItemToClients _ [client]).noEmpty h.clients

theorem converse_unsubscribeAll (h : s.Converse) :
    (s.handleUnsubscribeAllReq reads client).1.Converse := by
  by_cases hempty : s.mClientToDataItems.getValSet client = []
  · have hsame : s.handleUnsubscribeAllReq reads client = (s, []) := if_pos hempty
    rw [hsame]
    exact h
  · have htrims := trims_trimOrRemove reads.item s.mDataItemToClients
      (s.mClientToDataItems.getValSet client) [client]
    have hall : (s.handleUnsubscribeAllReq reads client).1 = { s with
          mDataItemToClients := (trimOrRemove reads.item s.mDataItemToClients
            (s.mClientToDataItems.getValSet client) [client]).map
          mClientToDataItems := s.mClientToDataItems.remove client } :=
      congrArg Prod.fst (if_neg hempty)
    rw [hall]
    constructor
    · intro c d
      rw [htrims.vals, mem_singleton]
      by_cases hc : c = client
      · subst hc
        have hnone : (s.mClientToDataItems.remove c).getValSet c = [] := getValSet_erase_self
        rw [hnone]
        simp only [not_mem_nil, false_iff, not_and, not_not, and_true]
        exact fun hcd => (h.iff c d).mpr hcd
      · have hsame : (s.mClientToDataItems.remove client).getValSet c =
            s.mClientToDataItems.getValSet c := getValSet_erase_ne hc
        rw [hsame, h.iff]
        exact (and_iff_left fun hand => hc hand.2).symm
    · exact h.items.erase
    · exact htrims.noEmpty h.clients

/-- What `updateSubscription` returns to be trimmed, and what it leaves to be
added. -/
abbrev interset (s : Observer C D O) (reads : Reads C D) (l : List D) (client : C) :
    Interset D :=
  removeAndReturnInterset reads.rest (s.mClientToDataItems.getValSet client) (toSet l)

theorem update_eq (hl : l ≠ []) : s.mClientToDataItems.update reads.rest client (toSet l) =
      (s.mClientToDataItems.insert client (toSet l), (s.interset reads l client).common,
        (s.interset reads l client).s2) := if_neg (toSet_ne_nil hl)

theorem update_maps (hl : l ≠ []) :
    (s.handleUpdateSubscriptionReq reads l client).1.mClientToDataItems =
        s.mClientToDataItems.insert client (toSet l) ∧
      (s.handleUpdateSubscriptionReq reads l client).1.mDataItemToClients =
        ((s.mDataItemToClients.trimOrRemove reads.item (s.interset reads l client).common
          [client]).map.addAll (s.interset reads l client).s2 [client]).1 := by
  unfold handleUpdateSubscriptionReq
  rw [update_eq hl]
  exact ⟨rfl, rfl⟩

theorem mem_update_items (hl : l ≠ []) :
    d ∈ (s.handleUpdateSubscriptionReq reads l client).1.mClientToDataItems.getValSet client ↔
      d ∈ l := by
  rw [(update_maps hl).1, getValSet_insert_self, mem_toSet]

theorem mem_update_clients (hl : l ≠ []) :
    c ∈ (s.handleUpdateSubscriptionReq reads l client).1.mDataItemToClients.getValSet d ↔
      (c ∈ s.mDataItemToClients.getValSet d ∧
        ¬ (d ∈ (s.interset reads l client).common ∧ c = client)) ∨
      ((d ∈ l ∧ d ∉ (s.interset reads l client).common) ∧ c = client) := by
  rw [(update_maps hl).2, (adds_addAll _ _ (cons_ne_nil client [])).vals,
    (trims_trimOrRemove reads.item s.mDataItemToClients _ [client]).vals, mem_singleton,
    (mem_removeAndReturnInterset reads.rest _ (toSet l)).2, mem_toSet]

theorem updated_of_converse (hl : l ≠ [])
    (h : (s.handleUpdateSubscriptionReq reads l client).1.Converse) (d : D) :
    (d ∈ (s.handleUpdateSubscriptionReq reads l client).1.mClientToDataItems.getValSet client ↔
        d ∈ l) ∧
      (client ∈ (s.handleUpdateSubscriptionReq reads l client).1.mDataItemToClients.getValSet d ↔
        d ∈ l) :=
  ⟨mem_update_items hl, (h.iff client d).symm.trans (mem_update_items hl)⟩

variable (h : s.Converse) (hl : l ≠ [])
include h hl

/-- A client that had items: one that it keeps is taken from it as a common
one, and one that it had before it still has. -/
theorem not_converse_update {y : D} (hy : y ∈ s.mClientToDataItems.getValSet client) :
    ¬ (s.handleUpdateSubscriptionReq reads l client).1.Converse := by
  intro h'
  have hall := fun d => (updated_of_converse hl h' d).2
  simp only [mem_update_clients hl, and_true] at hall
  by_cases hcommon : ∃ z ∈ l, z ∈ s.mClientToDataItems.getValSet client
  · -- the first of these is taken from the client
    obtain ⟨z, hzl, hz⟩ := hcommon
    obtain ⟨x, hx, hxl⟩ := exists_mem_common reads.rest hz (mem_toSet.mpr hzl)
    rcases (hall x).mpr (mem_toSet.mp hxl) with ⟨-, hnot⟩ | ⟨-, hnot⟩
    · exact hnot hx
    · exact hnot hx
  · -- nothing is taken from it
    have hdisjoint : ∀ x ∈ toSet l, x ∉ s.mClientToDataItems.getValSet client :=
      fun x hx hin => hcommon ⟨x, mem_toSet.mp hx, hin⟩
    have hnone : (s.interset reads l client).common = [] :=
      congrArg Interset.common (removeAndReturnInterset_of_disjoint hdisjoint)
    rw [hnone] at hall
    have hyl := (hall y).mp (Or.inl ⟨(h.iff client y).mp hy, not_mem_nil⟩)
    exact hcommon ⟨y, hyl, hy⟩

theorem converse_update (hfresh : s.mClientToDataItems.getValSet client = []) :
    (s.handleUpdateSubscriptionReq reads l client).1.Converse := by
  have hdisjoint : ∀ x ∈ toSet l, x ∉ s.mClientToDataItems.getValSet client := fun x _ hin => by
    rw [hfresh] at hin
    cases hin
  have hnone : (s.interset reads l client).common = [] :=
    congrArg Interset.common (removeAndReturnInterset_of_disjoint hdisjoint)
  constructor
  · intro c d
    rw [mem_update_clients hl, hnone]
    by_cases hc : c = client
    · subst hc
      rw [mem_update_items hl]
      have hno : c ∉ s.mDataItemToClients.getValSet d := fun hin => by
        have hin' := (h.iff c d).mpr hin
        rw [hfresh] at hin'
        cases hin'
      simp [hno]
    · rw [(update_maps hl).1, getValSet_insert_ne hc, h.iff]
      simp [hc]
  · rw [(update_maps hl).1]
    exact h.items.insert (toSet_ne_nil hl)
  · rw [(update_maps hl).2]
    exact (adds_addAll _ _ (cons_ne_nil client [])).noEmpty
      ((trims_trimOrRemove reads.item s.mDataItemToClients _ [client]).noEmpty h.clients)

theorem converse_update_iff : (s.handleUpdateSubscriptionReq reads l client).1.Converse ↔
      s.mClientToDataItems.getValSet client = [] := by
  refine ⟨fun h' => ?_, converse_update h hl⟩
  by_contra hne
  obtain ⟨y, hy⟩ := exists_mem_of_ne_nil _ hne
  exact not_converse_update h hl hy h'

end Messages

/-! ## Runs -/

omit [DecidableEq D] in
theorem freshUpdate_of_refused (s : Observer C D O) {call : Call C D O} (h : Refused call)
    (reads : Reads C D) : s.FreshUpdate (call, reads) := by
  cases call with
  | updateSubscription l client =>
    rcases h with rfl | rfl
    · cases client with
      | none => trivial
      | some client => exact fun hne => absurd rfl hne
    · trivial
  | _ => trivial

omit [DecidableEq C] [DecidableEq D] in
theorem setSubsObj_fst (s : Observer C D O) (obj : O) :
    (s.setSubsObj obj).1 = { s with mSubscriptionObj := some obj } := by
  unfold setSubsObj
  by_cases hempty : s.mDataItemToClients.getKeys = []
  · exact congrArg Prod.fst (if_pos hempty)
  · exact congrArg Prod.fst (if_neg hempty)

theorem mSubscriptionObj_unsubscribeAll (s : Observer C D O) (reads : Reads C D) (client : C) :
    (s.handleUnsubscribeAllReq reads client).1.mSubscriptionObj = s.mSubscriptionObj := by
  by_cases hempty : s.mClientToDataItems.getValSet client = []
  · have hsame : s.handleUnsubscribeAllReq reads client = (s, []) := if_pos hempty
    rw [hsame]
  · have hall : s.handleUnsubscribeAllReq reads client = _ := if_neg hempty
    rw [hall]

variable {s : Observer C D O}

theorem converse_setSubsObj (h : s.Converse) (obj : O) : (s.setSubsObj obj).1.Converse := by
  rw [setSubsObj_fst]
  exact ⟨h.iff, h.items, h.clients⟩

theorem converse_step (h : s.Converse) (e : Call C D O × Reads C D) :
    (s.step e).1.Converse ↔ s.FreshUpdate e := by
  obtain ⟨call, reads⟩ := e
  refine step_cases s reads (P := fun call p => p.1.Converse ↔ s.FreshUpdate (call, reads))
    ?_ ?_ ?_ ?_ ?_ ?_ call
  · intro call hrefused
    exact iff_of_true h (freshUpdate_of_refused s hrefused reads)
  · intro obj
    exact iff_of_true (converse_setSubsObj h obj) trivial
  · intro l client toRequestData hl
    exact iff_of_true (converse_subscribe h hl toRequestData) trivial
  · intro l client hl
    rw [converse_update_iff h hl]
    exact ⟨fun hnone _ => hnone, fun hfresh => hfresh hl⟩
  · intro l client _
    exact iff_of_true (converse_unsubscribe h) trivial
  · intro client
    exact iff_of_true (converse_unsubscribeAll h) trivial

theorem updated_step (e : Call C D O × Reads C D) (h' : (s.step e).1.Converse) : s.Updated e := by
  obtain ⟨call, reads⟩ := e
  cases call with
  | updateSubscription l client =>
    cases client with
    | none => trivial
    | some client =>
      intro hl
      have hstep : s.step (.updateSubscription l (some client), reads) =
          s.handleUpdateSubscriptionReq reads l client := if_neg hl
      rw [hstep] at h' ⊢
      exact updated_of_converse hl h'
  | _ => trivial

/-- Over every run of messages: the two maps are converse and without empty
sets in every state, and every update leaves the client with its list in
both, if and only if no client that has items updates its subscription. -/
theorem converse_iff (es : List (Call C D O × Reads C D)) :
    (StatesMeet step Converse new es ∧ StepsMeet step Updated new es) ↔
      StepsMeet step FreshUpdate new es := by
  have hnew : (new : Observer C D O).Converse := by
    refine ⟨fun c d => ?_, fun c h => ?_, fun d h => ?_⟩
    · exact iff_of_false not_mem_nil not_mem_nil
    · cases h
    · cases h
  have hiff : StatesMeet step Converse new es ↔
      StepsMeet step (FreshUpdate (C := C) (D := D) (O := O)) new es :=
    statesMeet_iff_stepsMeet (Q := fun _ => True) (fun _ _ _ => trivial)
      (fun _ e _ h => converse_step h e) trivial hnew
  constructor
  · rintro ⟨hstates, -⟩
    exact hiff.mp hstates
  · intro hfresh
    have hstates := hiff.mpr hfresh
    exact ⟨hstates, hstates.stepsMeet fun s e _ h' => updated_step e h'⟩

/-- A client updates its items 1, 2, 3 to 2, 3, 4, 5: item 1 still has the
client, and 2 and 3 no longer. -/
theorem not_converse_updates : ¬ ∀ es : List (Call Nat Nat Nat × Reads Nat Nat),
    StatesMeet step Converse new es ∧ StepsMeet step Updated new es := by
  intro h
  have hlast := (h [(.updateSubscription [1, 2, 3] (some 7), ⟨id, id, fun _ => [2]⟩),
    (.updateSubscription [2, 3, 4, 5] (some 7), ⟨id, id, fun _ => [2]⟩)]).1.last
  have hno := hlast.iff 7 1
  exact absurd hno (by decide)

end Observer

end LocStack.Core
