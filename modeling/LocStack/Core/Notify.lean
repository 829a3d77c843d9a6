/-
# `LocStack.Core.Notify` — the clients of the data items that have changed

The framework notifies SystemStatusOsObserver of a batch of data items.  The
observer copies the batch, and a message then puts the copies in its cache
and notifies the clients:

    updateCache            an item that SystemStatus records is made in the
                           cache, or copied to the one that is there
    clientSet              the clients of the items that were updated
    sendCachedDataItems    to each, the updated ones among its own items

The concrete items come from a library: it makes an item of an id, and its
`copy` says whether it has copied anything.

`updateCache` looks whether an item is null, and passes over the null
pointers that the copy of the batch begins with.  The loop that makes the
copy does not look.  `notify_right_iff`: with converse maps each client is
notified once, of those of its items that the batch has changed, if and only
if no entry of the batch is null.
-/
import LocStack.Core.OsObserver
import LocStack.Core.NetworkInfo

namespace LocStack.Core

open Base Utils List Option

/-- An `IDataItemCore`: its id, and what it holds. -/
structure IDataItemCore (D V : Type*) where
  getId : D
  contents : V
  deriving DecidableEq

/-- The library of the concrete items: what a new item of an id holds, and
what one that holds the first holds after a copy of the second, with the flag
`dataItemCopied`. -/
structure DataItemLib (D V : Type*) where
  createNewDataItem : D → Option V
  copy : D → V → V → V × Bool

/-- What SystemStatus has of each kind of item: what its switch makes of one,
nothing of an id that the switch does not have, and what is left in the item
when that is collated (`mSrcObjPtr`). -/
structure StatusKinds (D V τ : Type*) where
  ofItem : D → V → Option τ
  writeBack : D → τ → V → V

/-- `dataItemCopied`: whether the item was changed. -/
def DataItemLib.FlagsCopies {D V : Type*} (lib : DataItemLib D V) : Prop :=
  ∀ id contents src, (lib.copy id contents src).2 = true ↔ (lib.copy id contents src).1 ≠ contents

/-- The observer with its cache, and with the reports of its SystemStatus. -/
structure CachingObserver (C D O V τ : Type*) extends Observer C D O where
  mDataItemCache : AList fun _ : D => V
  mCache : D → List τ

variable {C D O V τ : Type*}

/-! ## The batch -/

section Batch

variable (lib : DataItemLib D V)

/-- The loop of `notify` over the batch, or none where it asks a null pointer
for its id. -/
def copies : List (Option (IDataItemCore D V)) → Option (List (Option (IDataItemCore D V)))
  | [] => some []
  | none :: _ => none
  | some each :: dlist =>
    match lib.createNewDataItem each.getId with
    | none => copies dlist
    | some di =>
      (copies dlist).map (some ⟨each.getId, (lib.copy each.getId di each.contents).1⟩ :: ·)

/-- `dataItemVec`: it is made with the size of the batch, and the copies are
pushed back behind that. -/
def dataItemVec (dlist : List (Option (IDataItemCore D V))) :
    Option (List (Option (IDataItemCore D V))) :=
  (copies lib dlist).map (List.replicate dlist.length none ++ ·)

theorem isSome_dataItemVec_iff (dlist : List (Option (IDataItemCore D V))) :
    (dataItemVec lib dlist).isSome ↔ none ∉ dlist := by
  unfold dataItemVec
  rw [isSome_map]
  induction dlist with
  | nil => exact iff_of_true rfl not_mem_nil
  | cons each dlist ih =>
    cases each with
    | none => exact iff_of_false Bool.false_ne_true fun h => h mem_cons_self
    | some each =>
      have hmem : none ∉ some each :: dlist ↔ none ∉ dlist := by simp
      have hcopies : (copies lib (some each :: dlist)).isSome = (copies lib dlist).isSome := by
        rw [copies]
        cases lib.createNewDataItem each.getId with
        | none => rfl
        | some di => exact isSome_map
      rw [hmem, hcopies, ih]

end Batch

namespace CachingObserver

variable [DecidableEq C] [DecidableEq D] [SystemStatusItem τ]

/-! ## The cache -/

open SystemStatusItem in
/-- `SystemStatus::eventDataItemNotify`: the reports, the item afterwards, and
what is returned. -/
def eventDataItemNotify (kinds : StatusKinds D V τ) (mCache : D → List τ)
    (dataitem : IDataItemCore D V) : (D → List τ) × IDataItemCore D V × Bool :=
  match kinds.ofItem dataitem.getId dataitem.contents with
  | some s =>
    let (report, ret) := setIteminReport (mCache dataitem.getId) s
    let contents :=
      match ignore s, (mCache dataitem.getId).getLast? with
      | false, some back =>
        kinds.writeBack dataitem.getId (collate s back) dataitem.contents
      | _, _ => dataitem.contents
    (Function.update mCache dataitem.getId report, ⟨dataitem.getId, contents⟩, ret)
  | none => (mCache, dataitem, false)

variable (lib : DataItemLib D V) (kinds : StatusKinds D V τ)

omit [DecidableEq C] [SystemStatusItem τ] in
/-- `updateCache` of an item that SystemStatus records. -/
def cacheItem (s : CachingObserver C D O V τ) (d : IDataItemCore D V) :
    CachingObserver C D O V τ × Bool :=
  match s.mDataItemCache.lookup d.getId with
  | none =>
    match lib.createNewDataItem d.getId with
    | some dataitem =>
      ({ s with
          mDataItemCache := s.mDataItemCache.insert d.getId
            (lib.copy d.getId dataitem d.contents).1 }, true)
    | none => (s, false)
  | some cached =>
    let (contents, dataItemUpdated) := lib.copy d.getId cached d.contents
    ({ s with mDataItemCache := s.mDataItemCache.insert d.getId contents }, dataItemUpdated)

def updateCache (s : CachingObserver C D O V τ) (d : Option (IDataItemCore D V)) :
    CachingObserver C D O V τ × Bool :=
  match d with
  | none => (s, false)
  | some d =>
    let recorded := eventDataItemNotify kinds s.mCache d
    let s := { s with mCache := recorded.1 }
    if recorded.2.2 then s.cacheItem lib recorded.2.1 else (s, false)

/-- The first loop of `HandleNotify::proc`: what an item leaves to be sent. -/
def receive (s : CachingObserver C D O V τ) (d : Option (IDataItemCore D V)) :
    CachingObserver C D O V τ × List D :=
  let (s, updated) := s.updateCache lib kinds d
  (s, if updated then (d.map IDataItemCore.getId).toList else [])

/-- An item of the batch changes what the cache has of an id. -/
def Changed (s : CachingObserver C D O V τ) (mDiVec : List (Option (IDataItemCore D V)))
    (id : D) : Prop :=
  ∃ pre d post, mDiVec = pre ++ d :: post ∧
    (after (receive lib kinds) s (pre ++ [d])).mDataItemCache.lookup id ≠
      (after (receive lib kinds) s pre).mDataItemCache.lookup id

/-! ## The clients -/

def clientSet (s : CachingObserver C D O V τ) (dataItemIdsToBeSent : List D) : List C :=
  dataItemIdsToBeSent.foldl (fun clientSet each =>
    match s.mDataItemToClients.lookup each with
    | some clients => clients.foldl (fun clientSet c => clientSet.insert c) clientSet
    | none => clientSet) []

/-- `sendCachedDataItems`: what it finds in the cache, and the client that is
notified of it. -/
def cachedDataItems (s : CachingObserver C D O V τ) (ids : List D) : List (IDataItemCore D V) :=
  ids.foldl (fun dataItems each =>
    match s.mDataItemCache.lookup each with
    | some contents => ⟨each, contents⟩ :: dataItems
    | none => dataItems) []

def sendCachedDataItems (s : CachingObserver C D O V τ) (ids : List D) (client : C) :
    List (C × List (IDataItemCore D V)) :=
  let dataItems := s.cachedDataItems ids
  if dataItems.isEmpty then [] else [(client, dataItems)]

/-- `HandleNotify::proc`. -/
def handleNotify (s : CachingObserver C D O V τ) (mDiVec : List (Option (IDataItemCore D V))) :
    CachingObserver C D O V τ × List (C × List (IDataItemCore D V)) :=
  let dataItemIdsToBeSent := toSet (outs (receive lib kinds) s mDiVec)
  let s := after (receive lib kinds) s mDiVec
  (s, (s.clientSet dataItemIdsToBeSent).flatMap fun client =>
    let dataItemIdsForThisClient := toSet (s.mClientToDataItems.getValSet client)
    s.sendCachedDataItems (dataItemIdsForThisClient.filter (· ∈ dataItemIdsToBeSent)) client)

/-- `notify` and the message that it sends, or none where it crashes. -/
def notify (s : CachingObserver C D O V τ) (dlist : List (Option (IDataItemCore D V))) :
    Option (CachingObserver C D O V τ × List (C × List (IDataItemCore D V))) :=
  (dataItemVec lib dlist).map fun dataItemVec =>
    if dataItemVec.isEmpty then (s, []) else s.handleNotify lib kinds dataItemVec

/-- Each client is notified at most once, and only if the batch has changed
any of its items; and then of each that it has changed, as it is cached. -/
structure Right (s : CachingObserver C D O V τ) (mDiVec : List (Option (IDataItemCore D V)))
    (r : CachingObserver C D O V τ × List (C × List (IDataItemCore D V))) : Prop where
  once : (r.2.map Prod.fst).Nodup
  notified : ∀ client, client ∈ r.2.map Prod.fst ↔
    ∃ id ∈ s.mClientToDataItems.getValSet client, s.Changed lib kinds mDiVec id
  items : ∀ client dataItems, (client, dataItems) ∈ r.2 →
    (dataItems.map IDataItemCore.getId).Nodup ∧
      ∀ d, d ∈ dataItems ↔ d.getId ∈ s.mClientToDataItems.getValSet client ∧
        s.Changed lib kinds mDiVec d.getId ∧ r.1.mDataItemCache.lookup d.getId = some d.contents

/-- A batch is passed on as it should be. -/
def NotifiesRight (s : CachingObserver C D O V τ) (dlist : List (Option (IDataItemCore D V))) :
    Prop :=
  ∃ mDiVec r, dataItemVec lib dlist = some mDiVec ∧ s.notify lib kinds dlist = some r ∧
    s.Right lib kinds mDiVec r

/-! ## What the messages leave -/

section Receive

variable {lib : DataItemLib D V} {kinds : StatusKinds D V τ}
variable {s : CachingObserver C D O V τ} {d : Option (IDataItemCore D V)} {id : D}

/-- Nothing is put in the cache and nothing is to be sent, or an item is put
there, and is to be sent if it was not there before. -/
def Puts (s : CachingObserver C D O V τ) (id : D)
    (r : CachingObserver C D O V τ × Bool) : Prop :=
  r.1.toObserver = s.toObserver ∧ (r.2 = false ∧ r.1.mDataItemCache = s.mDataItemCache ∨
      ∃ contents, r.1.mDataItemCache = s.mDataItemCache.insert id contents ∧
        (r.2 = true ↔ s.mDataItemCache.lookup id ≠ some contents))

omit [DecidableEq C] [SystemStatusItem τ] in
theorem puts_cacheItem (hlib : lib.FlagsCopies) (s : CachingObserver C D O V τ)
    (d : IDataItemCore D V) : s.Puts d.getId (s.cacheItem lib d) := by
  unfold cacheItem
  cases hcached : s.mDataItemCache.lookup d.getId with
  | none =>
    cases lib.createNewDataItem d.getId with
    | none => exact ⟨rfl, Or.inl ⟨rfl, rfl⟩⟩
    | some dataitem => exact ⟨rfl, Or.inr ⟨_, rfl, by simp [hcached]⟩⟩
  | some cached =>
    refine ⟨rfl, Or.inr ⟨_, rfl, ?_⟩⟩
    rw [hcached]
    exact (hlib d.getId cached d.contents).trans (ne_comm.trans (not_congr (some_inj).symm))

omit [DecidableEq C] in
theorem getId_eventDataItemNotify (kinds : StatusKinds D V τ) (mCache : D → List τ)
    (i : IDataItemCore D V) : (eventDataItemNotify kinds mCache i).2.1.getId = i.getId := by
  unfold eventDataItemNotify
  cases kinds.ofItem i.getId i.contents with
  | none => rfl
  | some s => rfl

omit [DecidableEq C] in
theorem updateCache_cases (hlib : lib.FlagsCopies) (s : CachingObserver C D O V τ)
    (d : Option (IDataItemCore D V)) :
    s.updateCache lib kinds d = (s, false) ∨
      ∃ i, d = some i ∧ s.Puts i.getId (s.updateCache lib kinds d) := by
  cases d with
  | none => exact Or.inl rfl
  | some i =>
    refine Or.inr ⟨i, rfl, ?_⟩
    unfold updateCache
    by_cases hret : (eventDataItemNotify kinds s.mCache i).2.2 = true
    · simp only [if_pos hret]
      rw [← getId_eventDataItemNotify kinds s.mCache i]
      exact puts_cacheItem hlib { s with mCache := (eventDataItemNotify kinds s.mCache i).1 }
        (eventDataItemNotify kinds s.mCache i).2.1
    · simp only [if_neg hret]
      exact ⟨rfl, Or.inl ⟨rfl, rfl⟩⟩

omit [DecidableEq C] in
theorem mem_receive {i : IDataItemCore D V} :
    id ∈ (s.receive lib kinds (some i)).2 ↔
      id = i.getId ∧ (s.updateCache lib kinds (some i)).2 = true := by
  unfold receive
  cases hupdated : (s.updateCache lib kinds (some i)).2 with
  | false => simp [hupdated]
  | true => simp [hupdated]

omit [DecidableEq C] in
theorem receive_toObserver (hlib : lib.FlagsCopies) (s : CachingObserver C D O V τ)
    (d : Option (IDataItemCore D V)) : (s.receive lib kinds d).1.toObserver = s.toObserver := by
  have hstate : (s.receive lib kinds d).1 = (s.updateCache lib kinds d).1 := rfl
  rw [hstate]
  rcases updateCache_cases hlib s d with hsame | ⟨i, -, hobserver, -⟩
  · rw [hsame]
  · exact hobserver

omit [DecidableEq C] in
theorem receive_spec (hlib : lib.FlagsCopies) (s : CachingObserver C D O V τ)
    (d : Option (IDataItemCore D V)) (id : D) :
    (id ∈ (s.receive lib kinds d).2 ↔
        (s.receive lib kinds d).1.mDataItemCache.lookup id ≠ s.mDataItemCache.lookup id) ∧
      (id ∈ s.mDataItemCache ∨ id ∈ (s.receive lib kinds d).2 →
        id ∈ (s.receive lib kinds d).1.mDataItemCache) := by
  rcases updateCache_cases hlib s d with hsame | ⟨i, rfl, -, hputs⟩
  · have hreceive : s.receive lib kinds d = (s, []) := by
      unfold receive
      rw [hsame]
      rfl
    rw [hreceive]
    exact ⟨by simp, fun h => h.resolve_right not_mem_nil⟩
  · have hstate : (s.receive lib kinds (some i)).1 = (s.updateCache lib kinds (some i)).1 := rfl
    rw [hstate, mem_receive]
    rcases hputs with ⟨hfalse, hcache⟩ | ⟨contents, hcache, htrue⟩
    · rw [hfalse, hcache]
      exact ⟨by simp, fun h => h.resolve_right fun h => Bool.false_ne_true h.2⟩
    · rw [hcache, htrue]
      by_cases hid : id = i.getId
      · subst hid
        rw [AList.lookup_insert]
        exact ⟨(and_iff_right rfl).trans ne_comm, fun _ => AList.mem_insert _ |>.mpr (Or.inl rfl)⟩
      · rw [AList.lookup_insert_ne hid]
        refine ⟨iff_of_false (fun h => hid h.1) (fun h => h rfl), fun h => ?_⟩
        exact (AList.mem_insert _).mpr (Or.inr (h.resolve_right fun h => hid h.1))

/-! ## A whole batch -/

omit [DecidableEq C] in
theorem after_receive_toObserver (hlib : lib.FlagsCopies) (s : CachingObserver C D O V τ)
    (mDiVec : List (Option (IDataItemCore D V))) :
    (after (receive lib kinds) s mDiVec).toObserver = s.toObserver :=
  invariant_after (P := fun s' : CachingObserver C D O V τ => s'.toObserver = s.toObserver)
    (fun s' d h => (receive_toObserver hlib s' d).trans h) rfl mDiVec

omit [DecidableEq C] in
theorem mem_outs_receive (hlib : lib.FlagsCopies) (s : CachingObserver C D O V τ)
    (mDiVec : List (Option (IDataItemCore D V))) (id : D) :
    id ∈ outs (receive lib kinds) s mDiVec ↔ s.Changed lib kinds mDiVec id := by
  rw [mem_outs_iff]
  refine exists_congr fun pre => exists_congr fun d => exists_congr fun post =>
    and_congr_right fun _ => ?_
  rw [(receive_spec hlib _ d id).1, after_append]
  rfl

omit [DecidableEq C] in
theorem mem_cache_of_changed (hlib : lib.FlagsCopies) (s : CachingObserver C D O V τ)
    (mDiVec : List (Option (IDataItemCore D V))) {id : D}
    (h : id ∈ outs (receive lib kinds) s mDiVec) :
    id ∈ (after (receive lib kinds) s mDiVec).mDataItemCache := by
  obtain ⟨pre, d, post, rfl, hd⟩ := mem_outs_iff.mp h
  rw [after_append]
  have hd' := (receive_spec hlib _ d id).2 (Or.inr hd)
  exact invariant_after (P := fun s' : CachingObserver C D O V τ => id ∈ s'.mDataItemCache)
    (fun s' d h => (receive_spec hlib s' d id).2 (Or.inl h)) hd' post

end Receive

section Clients

variable {s : CachingObserver C D O V τ} {ids : List D} {client c : C} {id : D}

omit [SystemStatusItem τ] in
theorem clientSet_spec (s : CachingObserver C D O V τ) (ids : List D) : (s.clientSet ids).Nodup ∧
      ∀ c, c ∈ s.clientSet ids ↔ ∃ id ∈ ids, c ∈ s.mDataItemToClients.getValSet id := by
  unfold clientSet
  induction ids using List.reverseRecOn with
  | nil => exact ⟨nodup_nil, by simp⟩
  | append_singleton ids id ih =>
    rw [foldl_concat]
    generalize List.foldl _ _ ids = clientSet at ih ⊢
    have hsplit : ∀ c, (∃ i ∈ ids ++ [id], c ∈ s.mDataItemToClients.getValSet i) ↔
        (∃ i ∈ ids, c ∈ s.mDataItemToClients.getValSet i) ∨
          c ∈ s.mDataItemToClients.getValSet id := by
      intro c
      simp [or_and_right, exists_or]
    cases hclients : s.mDataItemToClients.lookup id with
    | none =>
      have hnone : s.mDataItemToClients.getValSet id = [] := congrArg (·.getD []) hclients
      refine ⟨ih.1, fun c => ?_⟩
      rw [hsplit, hnone, ih.2, or_iff_left not_mem_nil]
    | some clients =>
      rw [← LocUnorderedSetMap.getValSet_of_lookup hclients]
      refine ⟨LocUnorderedSetMap.nodup_foldl_insert ih.1 _, fun c => ?_⟩
      rw [hsplit, LocUnorderedSetMap.mem_foldl_insert, ih.2]

omit [DecidableEq C] [SystemStatusItem τ] in
theorem mem_cachedDataItems {d : IDataItemCore D V} :
    d ∈ s.cachedDataItems ids ↔
      d.getId ∈ ids ∧ s.mDataItemCache.lookup d.getId = some d.contents := by
  unfold cachedDataItems
  induction ids using List.reverseRecOn with
  | nil => simp
  | append_singleton ids id ih =>
    rw [foldl_concat]
    generalize List.foldl _ _ ids = dataItems at ih ⊢
    have hcases : d.getId ∈ ids ++ [id] ↔ d.getId ∈ ids ∨ d.getId = id := by simp
    rw [hcases, or_and_right, ← ih]
    cases hcached : s.mDataItemCache.lookup id with
    | none =>
      refine (or_iff_left ?_).symm
      rintro ⟨rfl, hsome⟩
      rw [hcached] at hsome
      cases hsome
    | some contents =>
      have heq : d = ⟨id, contents⟩ ↔
          d.getId = id ∧ s.mDataItemCache.lookup d.getId = some d.contents := by
        obtain ⟨getId, held⟩ := d
        constructor
        · rintro ⟨rfl, rfl⟩
          exact ⟨rfl, hcached⟩
        · rintro ⟨rfl, hsome⟩
          rw [hcached] at hsome
          rw [some.inj hsome]
      rw [mem_cons, heq, or_comm]

omit [DecidableEq C] [SystemStatusItem τ] in
theorem nodup_cachedDataItems (s : CachingObserver C D O V τ) (h : ids.Nodup) :
    ((s.cachedDataItems ids).map IDataItemCore.getId).Nodup := by
  induction ids using List.reverseRecOn with
  | nil => exact nodup_nil
  | append_singleton ids id ih =>
    obtain ⟨hids, -, hdisjoint⟩ := nodup_append.mp h
    have hstep : s.cachedDataItems (ids ++ [id]) =
        match s.mDataItemCache.lookup id with
        | some contents => ⟨id, contents⟩ :: s.cachedDataItems ids
        | none => s.cachedDataItems ids := foldl_concat ..
    rw [hstep]
    cases s.mDataItemCache.lookup id with
    | none => exact ih hids
    | some contents =>
      refine nodup_cons.mpr ⟨fun hmem => ?_, ih hids⟩
      obtain ⟨d, hd, hid⟩ := mem_map.mp hmem
      have heq : d.getId = id := hid
      exact hdisjoint id (heq ▸ (mem_cachedDataItems.mp hd).1) id mem_cons_self rfl

end Clients

/-! ## The notification -/

section Notified

variable {lib : DataItemLib D V} {kinds : StatusKinds D V τ}
variable {s : CachingObserver C D O V τ} {mDiVec : List (Option (IDataItemCore D V))}

/-- The ids of what a client is notified of. -/
abbrev idsFor (lib : DataItemLib D V) (kinds : StatusKinds D V τ)
    (s : CachingObserver C D O V τ) (mDiVec : List (Option (IDataItemCore D V))) (client : C) :
    List D :=
  (toSet (s.mClientToDataItems.getValSet client)).filter
    (· ∈ toSet (outs (receive lib kinds) s mDiVec))

theorem mem_idsFor (hlib : lib.FlagsCopies) {client : C} {id : D} :
    id ∈ s.idsFor lib kinds mDiVec client ↔
      id ∈ s.mClientToDataItems.getValSet client ∧ s.Changed lib kinds mDiVec id := by
  simp only [mem_filter, mem_toSet, decide_eq_true_eq, mem_outs_receive hlib]

section

variable (hlib : lib.FlagsCopies) (h : s.Converse)
include hlib h

theorem mem_clientSet_iff {client : C} :
    client ∈ (after (receive lib kinds) s mDiVec).clientSet
        (toSet (outs (receive lib kinds) s mDiVec)) ↔
      ∃ id ∈ s.mClientToDataItems.getValSet client, s.Changed lib kinds mDiVec id := by
  rw [(clientSet_spec _ _).2, after_receive_toObserver hlib]
  refine exists_congr fun id => ?_
  rw [mem_toSet, mem_outs_receive hlib, h.iff, and_comm]

/-- Every client of the set has something to be notified of, and so the
clients are notified one after the other. -/
theorem handleNotify_snd : (s.handleNotify lib kinds mDiVec).2 =
      ((after (receive lib kinds) s mDiVec).clientSet
        (toSet (outs (receive lib kinds) s mDiVec))).map fun client =>
          (client, (after (receive lib kinds) s mDiVec).cachedDataItems
            (s.idsFor lib kinds mDiVec client)) := by
  have hall : (s.handleNotify lib kinds mDiVec).2 = ((after (receive lib kinds) s mDiVec).clientSet
        (toSet (outs (receive lib kinds) s mDiVec))).flatMap fun client =>
          (after (receive lib kinds) s mDiVec).sendCachedDataItems
            (s.idsFor lib kinds mDiVec client) client := by
    have hitems : (after (receive lib kinds) s mDiVec).mClientToDataItems =
        s.mClientToDataItems :=
      congrArg Observer.mClientToDataItems (after_receive_toObserver hlib s mDiVec)
    unfold idsFor
    rw [← hitems]
    rfl
  rw [hall, ← flatMap_pure_eq_map]
  refine flatMap_congr fun client hclient => ?_
  obtain ⟨id, hid, hchanged⟩ := (mem_clientSet_iff hlib h).mp hclient
  have hsent := (mem_outs_receive hlib s mDiVec id).mpr hchanged
  have hcached := mem_cache_of_changed hlib s mDiVec hsent
  obtain ⟨contents, hcontents⟩ := isSome_iff_exists.mp (AList.lookup_isSome.mpr hcached)
  have hmem : (⟨id, contents⟩ : IDataItemCore D V) ∈
      (after (receive lib kinds) s mDiVec).cachedDataItems (s.idsFor lib kinds mDiVec client) :=
    mem_cachedDataItems.mpr ⟨(mem_idsFor hlib).mpr ⟨hid, hchanged⟩, hcontents⟩
  have hne : ¬ ((after (receive lib kinds) s mDiVec).cachedDataItems
      (s.idsFor lib kinds mDiVec client)).isEmpty = true := by
    rw [List.isEmpty_iff]
    exact ne_nil_of_mem hmem
  exact if_neg hne

theorem right_handleNotify : s.Right lib kinds mDiVec (s.handleNotify lib kinds mDiVec) := by
  have hclients : (s.handleNotify lib kinds mDiVec).2.map Prod.fst =
      (after (receive lib kinds) s mDiVec).clientSet
        (toSet (outs (receive lib kinds) s mDiVec)) := by
    rw [handleNotify_snd hlib h, List.map_map]
    exact map_id _
  constructor
  · rw [hclients]
    exact (clientSet_spec _ _).1
  · intro client
    rw [hclients, mem_clientSet_iff hlib h]
  · intro client dataItems hmem
    rw [handleNotify_snd hlib h] at hmem
    obtain ⟨c, -, heq⟩ := mem_map.mp hmem
    obtain ⟨rfl, rfl⟩ := Prod.mk.inj heq
    have hset : (toSet (s.mClientToDataItems.getValSet c)).Nodup :=
      LocUnorderedSetMap.nodup_foldl_insert nodup_nil _
    refine ⟨nodup_cachedDataItems _ (hset.filter _), fun d => ?_⟩
    rw [mem_cachedDataItems, mem_idsFor hlib, and_assoc]
    rfl

end

/-- With converse maps, a batch is passed on as it should be if and only if
it has no null entry. -/
theorem notify_right_iff (hlib : lib.FlagsCopies) (kinds : StatusKinds D V τ)
    {s : CachingObserver C D O V τ} (h : s.Converse) (dlist : List (Option (IDataItemCore D V))) :
    s.NotifiesRight lib kinds dlist ↔ none ∉ dlist := by
  rw [← isSome_dataItemVec_iff lib dlist, isSome_iff_exists]
  constructor
  · rintro ⟨mDiVec, r, hvec, -, -⟩
    exact ⟨mDiVec, hvec⟩
  · rintro ⟨mDiVec, hvec⟩
    have hnotify : s.notify lib kinds dlist =
        some (if mDiVec.isEmpty then (s, []) else s.handleNotify lib kinds mDiVec) :=
      congrArg (Option.map _) hvec
    refine ⟨mDiVec, _, hvec, hnotify, ?_⟩
    have hempty : (if mDiVec.isEmpty then (s, []) else s.handleNotify lib kinds mDiVec) =
        s.handleNotify lib kinds mDiVec := by
      cases mDiVec with
      | nil => rfl
      | cons d mDiVec => rfl
    rw [hempty]
    exact right_handleNotify hlib h

end Notified

/-! ## Two switches -/

/-- A status item with what SystemStatusItemBase has for `ignore` and
`collate`. -/
structure PlainStatus (α : Type*) where
  mMode : α
  mUtcReported : Nat

instance plainStatusItem {α : Type*} [DecidableEq α] : SystemStatusItem (PlainStatus α) where
  ignore := fun _ => false
  collate := fun s _ => s
  equals := fun s peer => peer.mMode = s.mMode
  mUtcReported := PlainStatus.mUtcReported
  setUtcReported := fun s utc => { s with mUtcReported := utc }

def plainKinds {D V : Type*} : StatusKinds D V (PlainStatus V) :=
  ⟨fun _ mode => some ⟨mode, 0⟩, fun _ _ mode => mode⟩

/-- Switches, which are off when they are made. -/
def switchLib : DataItemLib Bool Bool := ⟨fun _ => some false, fun _ mode src => (src, mode != src)⟩

theorem flagsCopies_switchLib : switchLib.FlagsCopies := by
  intro id mode src
  exact bne_iff_ne.trans ne_comm

/-- One client has both switches, and the other has the second. -/
def twoClients : CachingObserver Bool Bool Unit Bool (PlainStatus Bool) where
  mClientToDataItems := (AList.insert false [true] ∅).insert true [true, false]
  mDataItemToClients := (AList.insert false [true] ∅).insert true [true, false]
  mSubscriptionObj := none
  mDataItemCache := ∅
  mCache := fun _ => []

theorem converse_twoClients : twoClients.Converse := by
  constructor
  · decide
  · intro c
    revert c
    decide
  · intro d
    revert d
    decide

theorem twoClients_notifiesRight : twoClients.NotifiesRight switchLib plainKinds
      [some ⟨true, true⟩, some ⟨false, true⟩, some ⟨true, true⟩] :=
  (notify_right_iff flagsCopies_switchLib plainKinds converse_twoClients _).mpr (by decide)

/-- A batch with a switch that is turned on, and a null entry. -/
theorem not_notifiesRight_nullEntry :
    ¬ ∀ (s : CachingObserver Bool Bool Unit Bool (PlainStatus Bool))
      (dlist : List (Option (IDataItemCore Bool Bool))),
      s.Converse → s.NotifiesRight switchLib plainKinds dlist := by
  intro h
  obtain ⟨mDiVec, -, hvec, -⟩ := h twoClients [some ⟨true, true⟩, none] converse_twoClients
  cases hvec

end CachingObserver

end LocStack.Core
