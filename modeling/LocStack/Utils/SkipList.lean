/-
# `LocStack.Utils.SkipList` — the list of SkipList.h

The nodes of a SkipList stand on two chains: the main list, a `std::list`,
and the chain of the nodes of their level, linked by `mNextInLevel` between
`mHeadVec[level]` and `mTailVec[level]`.

An iterator is a number, `end()` is `none`; the main list is the list of its
iterators, and `nodes` says which node an iterator points to, `none` once the
node is erased.  What C++ leaves undefined (a dead iterator followed, a
vector read out of its range, the front of an empty list) is a result `none`,
and a list with such a past stays undefined.

    heldAfter    the elements held, in the order in which they were appended
    Agrees       dump, dump(level), heads, tails and links are those of these
    Kept         what every operation keeps, `Agrees` included

`pop()` reads `mMainList.front()` without looking whether there is a front,
where `pop(level)` does look.  `agrees_iff`: over the runs with valid levels
everything agrees exactly if no `pop()` meets an empty list.
-/
import LocStack.Base.Run
import LocStack.Base.Chain
import Mathlib.Data.List.Nodup

namespace LocStack.Utils

open Base List Function

variable {α : Type*}

/-- A `SkipNode<T>`. -/
structure SkipNode (α : Type*) where
  mLevel : Int
  mData : α
  mNextInLevel : Option Nat

/-- A `SkipList<T>`; `fresh` is the next iterator. -/
structure SkipList (α : Type*) where
  mMainList : List Nat
  nodes : Nat → Option (SkipNode α)
  (mHeadVec mTailVec : List (Option Nat))
  fresh : Nat

/-- The calls that change a list. -/
inductive SkipCall (α : Type*) where
  | append (data : α) (level : Int)
  | popLevel (level : Int)
  | pop | flush

/-- `mHeadVec[level]`, `mTailVec[level]`: undefined out of the range. -/
def atLevel (vec : List (Option Nat)) (level : Int) : Option (Option Nat) :=
  if level < 0 then none else vec[level.toNat]?

namespace SkipList

def new (totalLevels : Nat) : SkipList α where
  mMainList := []
  nodes := fun _ => none
  mHeadVec := List.replicate totalLevels none
  mTailVec := List.replicate totalLevels none
  fresh := 0

def next (s : SkipList α) (iter : Nat) : Option Nat := (s.nodes iter).bind SkipNode.mNextInLevel

/-- A node pushed to the back of the main list, on no level yet. -/
def pushBack (s : SkipList α) (node : SkipNode α) : SkipList α :=
  { s with
    mMainList := s.mMainList ++ [s.fresh]
    nodes := update s.nodes s.fresh (some node)
    fresh := s.fresh + 1 }

/-- `(*iter).mNextInLevel = to`. -/
def setNext (s : SkipList α) (iter : Nat) (node : SkipNode α) (v : Option Nat) : SkipList α :=
  { s with nodes := update s.nodes iter (some { node with mNextInLevel := v }) }

/-- `mMainList.erase(iter)`. -/
def erase (s : SkipList α) (iter : Nat) : SkipList α :=
  { s with
    mMainList := s.mMainList.erase iter
    nodes := update s.nodes iter none }

def append (s : SkipList α) (data : α) (level : Int) : Option (SkipList α) :=
  if level < 0 ∨ level ≥ s.mHeadVec.length then some s
  else
    let iter := s.fresh
    let pushed := s.pushBack ⟨level, data, none⟩
    let tails := s.mTailVec.set level.toNat (some iter)
    match atLevel s.mHeadVec level, atLevel s.mTailVec level with
    | some none, some _ =>
      some { pushed with
        mHeadVec := s.mHeadVec.set level.toNat (some iter)
        mTailVec := tails }
    | some (some _), some (some tail) =>
      (pushed.nodes tail).map fun node =>
        { pushed.setNext tail node (some iter) with mTailVec := tails }
    | _, _ => none

/-- `pop(int level)`. -/
def popLevel (s : SkipList α) (level : Int) : Option (SkipList α) :=
  match atLevel s.mHeadVec level with
  | none => none
  | some none => some s
  | some (some head) =>
    (s.nodes head).map fun node =>
      { s.erase head with
        mHeadVec := s.mHeadVec.set level.toNat node.mNextInLevel
        mTailVec :=
          if node.mNextInLevel = none then s.mTailVec.set level.toNat none else s.mTailVec }

/-- `pop()`. -/
def pop (s : SkipList α) : Option (SkipList α) :=
  match s.mMainList with
  | [] => none
  | front :: _ => (s.nodes front).bind fun node => s.popLevel node.mLevel

def flush (s : SkipList α) : SkipList α :=
  { s with
    mMainList := []
    nodes := fun _ => none
    mHeadVec := s.mHeadVec.map fun _ => none
    mTailVec := s.mTailVec.map fun _ => none }

def item (s : SkipList α) (iter : Nat) : Option (α × Int) :=
  (s.nodes iter).map fun node => (node.mData, node.mLevel)

/-- `dump()`. -/
def dump (s : SkipList α) : List (α × Int) := s.mMainList.filterMap s.item

/-- `dump(int level)`; the loop follows the links for as many steps as there
are nodes. -/
def dumpLevel (s : SkipList α) (level : Int) : Option (List (α × Int)) :=
  (atLevel s.mHeadVec level).bind fun head =>
    (walk s.next s.mMainList.length head).map (·.filterMap s.item)

/-- `front(int level)`. -/
def front (s : SkipList α) (level : Int) : Option α :=
  (atLevel s.mHeadVec level).join.bind fun head => (s.nodes head).map SkipNode.mData

def call (s : SkipList α) : SkipCall α → Option (SkipList α)
  | .append data level => s.append data level
  | .popLevel level => s.popLevel level
  | .pop => s.pop
  | .flush => some s.flush

end SkipList

/-! ## What it is for -/

/-- The calls, on the elements held in a list of `n` levels: the oldest
first, each with its level. -/
def heldAfter (n : Nat) (held : List (α × Int)) : SkipCall α → List (α × Int)
  | .append data level => if 0 ≤ level ∧ level < n then held ++ [(data, level)] else held
  | .popLevel level => held.eraseP (·.2 == level)
  | .pop => held.tail
  | .flush => []

/-- The level of the call, where it has one, is one of the `n`. -/
def SkipCall.Valid (n : Nat) : SkipCall α → Prop
  | .append _ level | .popLevel level => 0 ≤ level ∧ level < n
  | .pop | .flush => True

/-- A list beside the elements it should hold. -/
structure Watched (α : Type*) where
  list : Option (SkipList α)
  held : List (α × Int)

namespace Watched

def start (n : Nat) : Watched α := ⟨some (.new n), []⟩

def step (n : Nat) (w : Watched α) (c : SkipCall α) : Watched α × List Empty :=
  (⟨w.list.bind (·.call c), heldAfter n w.held c⟩, [])

end Watched

namespace SkipList

/-- The nodes of the main list that are on the level. -/
def onLevel (s : SkipList α) (level : Int) : List Nat :=
  s.mMainList.filter fun iter => (s.nodes iter).any (·.mLevel == level)

/-- The chain of one level runs through the nodes of that level. -/
structure Chained (s : SkipList α) (level : Int) : Prop where
  head : atLevel s.mHeadVec level = some (s.onLevel level).head?
  tail : atLevel s.mTailVec level = some (s.onLevel level).getLast?
  links : Seg s.next (s.onLevel level).head? (s.onLevel level) none

/-- The list shows what it should hold, on the main chain and on those of its
`n` levels. -/
structure Agrees (n : Nat) (s : SkipList α) (held : List (α × Int)) : Prop where
  dump : s.dump = held
  dumpLevel : ∀ level : Int, 0 ≤ level → level < n →
    s.dumpLevel level = some (held.filter (·.2 == level))
  chained : ∀ level : Int, 0 ≤ level → level < n → s.Chained level

/-- The main list has live nodes of valid levels, and they show `held`. -/
structure MainKept (n : Nat) (s : SkipList α) (held : List (α × Int)) : Prop where
  nodup : s.mMainList.Nodup
  old : ∀ iter ∈ s.mMainList, iter < s.fresh
  live : ∀ iter ∈ s.mMainList, ∃ node, s.nodes iter = some node ∧ 0 ≤ node.mLevel ∧ node.mLevel < n
  dump : s.dump = held

/-- What every operation keeps. -/
structure Kept (n : Nat) (s : SkipList α) (held : List (α × Int)) : Prop where
  main : MainKept n s held
  headVec : s.mHeadVec.length = n
  tailVec : s.mTailVec.length = n
  chained : ∀ level : Int, 0 ≤ level → level < n → s.Chained level

variable {n : Nat} {s s' : SkipList α} {held : List (α × Int)} {level : Int}

theorem filterMap_onLevel (s : SkipList α) (level : Int) :
    (s.onLevel level).filterMap s.item = s.dump.filter (·.2 == level) := by
  unfold onLevel dump
  rw [filterMap_filter, filter_filterMap]
  refine filterMap_congr fun iter _ => ?_
  unfold item
  cases s.nodes iter with
  | none => rfl
  | some node =>
    by_cases h : node.mLevel == level
    · simp [Option.filter, h]
    · simp [Option.filter, h]

theorem Kept.agrees (h : Kept n s held) : Agrees n s held where
  dump := h.main.dump
  dumpLevel level h0 hn := by
    have hlen : (s.onLevel level).length ≤ s.mMainList.length := length_filter_le _ _
    unfold SkipList.dumpLevel
    rw [(h.chained level h0 hn).head]
    show (walk s.next s.mMainList.length (s.onLevel level).head?).map _ = _
    rw [walk_of_seg (h.chained level h0 hn).links hlen, Option.map_some, filterMap_onLevel,
      h.main.dump]
  chained := h.chained

theorem Chained.congr (h : s.Chained level) (hon : s'.onLevel level = s.onLevel level)
    (hhead : atLevel s'.mHeadVec level = atLevel s.mHeadVec level)
    (htail : atLevel s'.mTailVec level = atLevel s.mTailVec level)
    (hnext : ∀ iter ∈ s.onLevel level, s'.next iter = s.next iter) : s'.Chained level where
  head := by rw [hhead, hon, h.head]
  tail := by rw [htail, hon, h.tail]
  links := by
    rw [hon]
    exact h.links.congr hnext

variable {iter : Nat} {other : Int} {vec : List (Option Nat)}

theorem MainKept.node_of_mem (h : MainKept n s held) (hiter : iter ∈ s.onLevel level) :
    iter ∈ s.mMainList ∧ ∃ node, s.nodes iter = some node ∧ node.mLevel = level := by
  obtain ⟨hmem, hlevel⟩ := mem_filter.mp hiter
  obtain ⟨node, hnode, -⟩ := h.live iter hmem
  rw [hnode] at hlevel
  exact ⟨hmem, node, hnode, eq_of_beq hlevel⟩

theorem MainKept.level_unique (h : MainKept n s held) (ho : iter ∈ s.onLevel other)
    (hl : iter ∈ s.onLevel level) : other = level := by
  obtain ⟨-, node, hnode, rfl⟩ := h.node_of_mem ho
  obtain ⟨-, node', hnode', rfl⟩ := h.node_of_mem hl
  rw [hnode] at hnode'
  injection hnode' with heq
  rw [heq]

theorem MainKept.fresh_notMem (h : MainKept n s held) : s.fresh ∉ s.mMainList :=
  fun hmem => Nat.lt_irrefl _ (h.old _ hmem)

/-! ## Vectors by level -/

theorem atLevel_some (h0 : 0 ≤ level) :
    atLevel vec level = vec[level.toNat]? := if_neg (Int.not_lt.mpr h0)

theorem atLevel_set_self (h0 : 0 ≤ level) (hn : level < vec.length) (v : Option Nat) :
    atLevel (vec.set level.toNat v) level = some v := by
  rw [atLevel_some h0]
  exact List.getElem?_set_self (by omega)

theorem atLevel_set_of_ne (h0 : 0 ≤ level) (ho : 0 ≤ other) (hne : other ≠ level) (v : Option Nat) :
    atLevel (vec.set level.toNat v) other = atLevel vec other := by
  rw [atLevel_some ho, atLevel_some ho]
  exact List.getElem?_set_ne (by omega)

/-! ## New and flushed lists -/

theorem kept_of_empty (hmain : s.mMainList = []) (hh : s.mHeadVec = List.replicate n none)
    (ht : s.mTailVec = List.replicate n none) : Kept n s [] := by
  have hon : ∀ level, s.onLevel level = [] := by
    intro level
    unfold onLevel
    rw [hmain]
    rfl
  have hdump : s.dump = [] := by
    unfold dump
    rw [hmain]
    rfl
  have hnot : ∀ iter, iter ∉ s.mMainList := by
    intro iter hmem
    rw [hmain] at hmem
    cases hmem
  have hvec : ∀ level : Int, 0 ≤ level → level < n →
      atLevel (List.replicate n none) level = some none := by
    intro level h0 hn
    rw [atLevel_some h0]
    exact List.getElem?_replicate_of_lt (by omega)
  refine ⟨⟨hmain ▸ nodup_nil, fun _ hm => absurd hm (hnot _), fun _ hm => absurd hm (hnot _),
    hdump⟩, ?_, ?_, fun level h0 hn => ⟨?_, ?_, ?_⟩⟩
  · rw [hh, length_replicate]
  · rw [ht, length_replicate]
  · rw [hh, hon]
    exact hvec level h0 hn
  · rw [ht, hon]
    exact hvec level h0 hn
  · rw [hon]
    rfl

theorem kept_new (n : Nat) : Kept n (.new n : SkipList α) [] := kept_of_empty rfl rfl rfl

theorem Kept.flush (h : Kept n s held) : Kept n s.flush [] := by
  refine kept_of_empty rfl ?_ ?_
  · show s.mHeadVec.map (fun _ => none) = _
    rw [map_const', h.headVec]
  · show s.mTailVec.map (fun _ => none) = _
    rw [map_const', h.tailVec]

/-! ## Appending -/

section Append

variable {node : SkipNode α} {iter : Nat}

theorem next_pushBack :
    (s.pushBack node).next = update s.next s.fresh node.mNextInLevel := by
  funext it
  by_cases hit : it = s.fresh
  · subst hit
    simp [next, pushBack]
  · simp [next, pushBack, hit]

theorem next_setNext (v : Option Nat) :
    (s.setNext iter node v).next = update s.next iter v := by
  funext it
  by_cases hit : it = iter
  · subst hit
    simp [next, setNext]
  · simp [next, setNext, hit]

theorem nodes_pushBack_of_mem (h : MainKept n s held) {it : Nat} (hit : it ∈ s.mMainList) :
    (s.pushBack node).nodes it = s.nodes it :=
  update_of_ne (ne_of_mem_of_not_mem hit h.fresh_notMem) _ _

theorem nodes_pushBack_fresh : (s.pushBack node).nodes s.fresh = some node :=
  update_self _ _ _

theorem onLevel_pushBack (h : MainKept n s held) (level : Int) : (s.pushBack node).onLevel level =
      s.onLevel level ++ if node.mLevel = level then [s.fresh] else [] := by
  unfold onLevel
  show List.filter _ (s.mMainList ++ [s.fresh]) = _
  rw [filter_append]
  congr 1
  · exact filter_congr fun it hit => by rw [nodes_pushBack_of_mem h hit]
  · rw [filter_cons, nodes_pushBack_fresh]
    by_cases hl : node.mLevel = level
    · simp [hl]
    · simp [hl]

theorem MainKept.pushBack (h : MainKept n s held) (h0 : 0 ≤ node.mLevel) (hn : node.mLevel < n) :
    MainKept n (s.pushBack node) (held ++ [(node.mData, node.mLevel)]) where
  nodup := by
    refine nodup_append.mpr ⟨h.nodup, by simp, fun a ha b hb => ?_⟩
    rw [mem_singleton.mp hb]
    exact ne_of_mem_of_not_mem ha h.fresh_notMem
  old it hit := by
    rcases mem_append.mp hit with hit | hit
    · exact Nat.lt_succ_of_lt (h.old it hit)
    · exact (mem_singleton.mp hit) ▸ Nat.lt_succ_self _
  live it hit := by
    rcases mem_append.mp hit with hit | hit
    · obtain ⟨nd, hnd, hlevel⟩ := h.live it hit
      exact ⟨nd, (nodes_pushBack_of_mem h hit).trans hnd, hlevel⟩
    · rw [mem_singleton.mp hit]
      exact ⟨node, nodes_pushBack_fresh, h0, hn⟩
  dump := by
    rw [← h.dump]
    show List.filterMap _ (s.mMainList ++ [s.fresh]) = s.mMainList.filterMap s.item ++ _
    rw [filterMap_append]
    congr 1
    · refine filterMap_congr fun it hit => ?_
      unfold item
      rw [nodes_pushBack_of_mem h hit]
    · have hitem : (s.pushBack node).item s.fresh = some (node.mData, node.mLevel) := by
        unfold item
        rw [nodes_pushBack_fresh]
        rfl
      rw [filterMap_cons, hitem]
      rfl

theorem map_nodes_setNext (hnode : s.nodes iter = some node) (v : Option Nat) {β : Type*}
    (f : SkipNode α → β) (hf : f { node with mNextInLevel := v } = f node) (it : Nat) :
    ((s.setNext iter node v).nodes it).map f = (s.nodes it).map f := by
  by_cases hit : it = iter
  · subst hit
    rw [hnode]
    show (update s.nodes it _ it).map f = _
    rw [update_self, Option.map_some, hf]
    rfl
  · show (update s.nodes iter _ it).map f = _
    rw [update_of_ne hit]

theorem onLevel_setNext (hnode : s.nodes iter = some node) (v : Option Nat) (level : Int) :
    (s.setNext iter node v).onLevel level = s.onLevel level := by
  have hany : ∀ o : Option (SkipNode α),
      o.any (·.mLevel == level) = (o.map SkipNode.mLevel).any (· == level) := fun o => by
    cases o <;> rfl
  unfold onLevel
  refine filter_congr fun it _ => ?_
  rw [hany, hany, map_nodes_setNext hnode v SkipNode.mLevel rfl]

theorem MainKept.setNext (h : MainKept n s held) (hnode : s.nodes iter = some node)
    (v : Option Nat) : MainKept n (s.setNext iter node v) held where
  nodup := h.nodup
  old := h.old
  live it hit := by
    obtain ⟨nd, hnd, hlevel⟩ := h.live it hit
    have hmap := map_nodes_setNext hnode v SkipNode.mLevel rfl it
    rw [hnd] at hmap
    obtain ⟨nd', hnd', heq⟩ := Option.map_eq_some_iff.mp hmap
    exact ⟨nd', hnd', heq ▸ hlevel⟩
  dump := by
    rw [← h.dump]
    exact filterMap_congr fun it _ => map_nodes_setNext hnode v _ rfl it

end Append

section Append

variable {data : α} {init : List Nat} {tail : Nat} {node : SkipNode α}

theorem MainKept.fresh_notMem_onLevel (h : MainKept n s held) (level : Int) :
    s.fresh ∉ s.onLevel level := fun hmem => h.fresh_notMem (mem_filter.mp hmem).1

theorem onLevel_pushBack_self (h : MainKept n s held) :
    (s.pushBack ⟨level, data, none⟩).onLevel level = s.onLevel level ++ [s.fresh] := by
  rw [onLevel_pushBack h, if_pos rfl]

theorem onLevel_pushBack_of_ne (h : MainKept n s held) (hne : other ≠ level) :
    (s.pushBack ⟨level, data, none⟩).onLevel other = s.onLevel other := by
  rw [onLevel_pushBack h, if_neg (Ne.symm hne), append_nil]

theorem Kept.append_first (h : Kept n s held) (data : α) (h0 : 0 ≤ level) (hn : level < n)
    (hon : s.onLevel level = []) :
    Kept n { s.pushBack ⟨level, data, none⟩ with
      mHeadVec := s.mHeadVec.set level.toNat (some s.fresh)
      mTailVec := s.mTailVec.set level.toNat (some s.fresh) } (held ++ [(data, level)]) := by
  have hhn : level < s.mHeadVec.length := h.headVec.symm ▸ hn
  have htn : level < s.mTailVec.length := h.tailVec.symm ▸ hn
  have hmain : MainKept n (s.pushBack ⟨level, data, none⟩) (held ++ [(data, level)]) :=
    h.main.pushBack h0 hn
  have hsame : (s.pushBack ⟨level, data, none⟩).onLevel level = [s.fresh] := by
    rw [onLevel_pushBack_self h.main, hon, nil_append]
  refine ⟨⟨hmain.nodup, hmain.old, hmain.live, hmain.dump⟩, ?_, ?_, fun other ho hon' => ?_⟩
  · exact (length_set ..).trans h.headVec
  · exact (length_set ..).trans h.tailVec
  · by_cases hne : other = level
    · subst hne
      refine ⟨?_, ?_, ?_⟩
      · exact (atLevel_set_self h0 hhn _).trans (congrArg (some ·.head?) hsame.symm)
      · exact (atLevel_set_self h0 htn _).trans (congrArg (some ·.getLast?) hsame.symm)
      · show Seg (s.pushBack _).next ((s.pushBack _).onLevel other).head?
          ((s.pushBack _).onLevel other) none
        rw [hsame, next_pushBack]
        exact ⟨rfl, update_self _ _ _⟩
    · refine (h.chained other ho hon').congr (onLevel_pushBack_of_ne h.main hne)
        (atLevel_set_of_ne h0 ho hne _) (atLevel_set_of_ne h0 ho hne _) fun it hit => ?_
      show (s.pushBack _).next it = _
      rw [next_pushBack]
      exact update_of_ne (ne_of_mem_of_not_mem hit (h.main.fresh_notMem_onLevel other)) _ _

theorem Kept.append_next (h : Kept n s held) (data : α) (h0 : 0 ≤ level) (hn : level < n)
    (hon : s.onLevel level = init ++ [tail]) (hnode : s.nodes tail = some node) :
    Kept n { (s.pushBack ⟨level, data, none⟩).setNext tail node (some s.fresh) with
      mTailVec := s.mTailVec.set level.toNat (some s.fresh) } (held ++ [(data, level)]) := by
  have htn : level < s.mTailVec.length := h.tailVec.symm ▸ hn
  have htail : tail ∈ s.onLevel level := by
    rw [hon]
    exact mem_append_right _ mem_cons_self
  obtain ⟨hmem, -⟩ := h.main.node_of_mem htail
  have hnode' : (s.pushBack ⟨level, data, none⟩).nodes tail = some node :=
    (nodes_pushBack_of_mem h.main hmem).trans hnode
  have hmain : MainKept n (s.pushBack ⟨level, data, none⟩) (held ++ [(data, level)]) :=
    h.main.pushBack h0 hn
  have hkept := hmain.setNext hnode' (some s.fresh)
  have honNext := onLevel_setNext hnode' (some s.fresh)
  have hnext : ((s.pushBack ⟨level, data, none⟩).setNext tail node (some s.fresh)).next =
      update (update s.next s.fresh none) tail (some s.fresh) := by
    rw [next_setNext, next_pushBack]
  have hsame : (s.pushBack ⟨level, data, none⟩).onLevel level = init ++ [tail, s.fresh] := by
    rw [onLevel_pushBack_self h.main, hon, append_assoc]
    rfl
  refine ⟨⟨hkept.nodup, hkept.old, hkept.live, hkept.dump⟩, h.headVec, ?_, fun other ho hon' => ?_⟩
  · exact (length_set ..).trans h.tailVec
  · by_cases hne : other = level
    · subst hne
      have honEnd := (honNext other).trans hsame
      have hnodup : (init ++ [tail, s.fresh]).Nodup := hsame ▸ hmain.nodup.filter _
      have hhead : (init ++ [tail, s.fresh]).head? = (s.onLevel other).head? := by
        rw [hon]
        cases init <;> rfl
      refine ⟨?_, ?_, ?_⟩
      · exact (h.chained other ho hon').head.trans
          (congrArg some (hhead.symm.trans (congrArg _ honEnd.symm)))
      · refine (atLevel_set_self h0 htn _).trans (congrArg some (Eq.symm ?_))
        exact (congrArg _ honEnd).trans (List.getLast?_append_of_ne_nil init (by simp))
      · have hlinks := (h.chained other ho hon').links
        rw [hon] at hlinks hhead
        have hseg := hlinks.concat hnodup
        rw [← hhead, ← honEnd, ← hnext] at hseg
        exact hseg
    · have htail' : tail ∉ s.onLevel other := fun hmem' => hne (h.main.level_unique hmem' htail)
      refine (h.chained other ho hon').congr
        ((honNext other).trans (onLevel_pushBack_of_ne h.main hne)) rfl
        (atLevel_set_of_ne h0 ho hne _) fun it hit => ?_
      show (SkipList.setNext _ tail node _).next it = _
      rw [hnext, update_of_ne (ne_of_mem_of_not_mem hit htail'),
        update_of_ne (ne_of_mem_of_not_mem hit (h.main.fresh_notMem_onLevel other))]

theorem Kept.append (h : Kept n s held) (data : α) (h0 : 0 ≤ level) (hn : level < n) :
    ∃ s', s.append data level = some s' ∧ Kept n s' (held ++ [(data, level)]) := by
  have hhn : level < s.mHeadVec.length := h.headVec.symm ▸ hn
  have hnot : ¬ (level < 0 ∨ level ≥ s.mHeadVec.length) := by omega
  have hchain := h.chained level h0 hn
  unfold SkipList.append
  rw [if_neg hnot, hchain.head, hchain.tail]
  rcases eq_nil_or_concat (s.onLevel level) with hon | ⟨init, tail, hon⟩
  · rw [hon]
    exact ⟨_, rfl, h.append_first data h0 hn hon⟩
  · rw [concat_eq_append] at hon
    have htail : tail ∈ s.onLevel level := by
      rw [hon]
      exact mem_append_right _ mem_cons_self
    obtain ⟨hmem, node, hnode, -⟩ := h.main.node_of_mem htail
    obtain ⟨first, rest, hfirst⟩ := exists_cons_of_ne_nil (show init ++ [tail] ≠ [] by simp)
    have hkept := h.append_next data h0 hn hon hnode
    rw [hon, hfirst, List.head?_cons, ← hfirst, List.getLast?_concat]
    exact ⟨_, congrArg (Option.map _) ((nodes_pushBack_of_mem h.main hmem).trans hnode), hkept⟩

end Append

/-! ## Popping -/

section Erase

variable {iter : Nat} {pre post : List Nat}

theorem next_erase_of_ne {it : Nat} (hne : it ≠ iter) : (s.erase iter).next it = s.next it := by
  show (update s.nodes iter none it).bind _ = _
  rw [update_of_ne hne]
  rfl

theorem mMainList_erase (hmain : s.mMainList = pre ++ iter :: post) (hpre : iter ∉ pre) :
    (s.erase iter).mMainList = pre ++ post := by
  show s.mMainList.erase iter = _
  rw [hmain, erase_append_right _ hpre, erase_cons_head]

theorem onLevel_erase (hmain : s.mMainList = pre ++ iter :: post) (hpre : iter ∉ pre)
    (hpost : iter ∉ post) (level : Int) :
    (s.erase iter).onLevel level =
      (pre ++ post).filter fun it => (s.nodes it).any (·.mLevel == level) := by
  unfold onLevel
  rw [mMainList_erase hmain hpre]
  refine filter_congr fun it hit => ?_
  have hne : it ≠ iter := by
    rintro rfl
    exact (mem_append.mp hit).elim hpre hpost
  show (update s.nodes iter none it).any _ = _
  rw [update_of_ne hne]

theorem MainKept.erase (h : MainKept n s held) (hmain : s.mMainList = pre ++ iter :: post) :
    MainKept n (s.erase iter) (pre.filterMap s.item ++ post.filterMap s.item) := by
  have hnodup := h.nodup
  rw [hmain] at hnodup
  obtain ⟨hiter, hnodup'⟩ := nodup_cons.mp (nodup_middle.mp hnodup)
  have hpre : iter ∉ pre := fun hm => hiter (mem_append_left _ hm)
  have herase := mMainList_erase hmain hpre
  have hsub : ∀ it ∈ (s.erase iter).mMainList, it ∈ s.mMainList ∧ it ≠ iter := by
    intro it hit
    rw [herase] at hit
    refine ⟨?_, ne_of_mem_of_not_mem hit hiter⟩
    rw [hmain]
    exact mem_append.mpr ((mem_append.mp hit).imp_right (mem_cons_of_mem _))
  have hnodes : ∀ it, it ≠ iter → (s.erase iter).nodes it = s.nodes it := fun it hne =>
    update_of_ne hne _ _
  refine ⟨herase ▸ hnodup', fun it hit => h.old it (hsub it hit).1, fun it hit => ?_, ?_⟩
  · rw [hnodes it (hsub it hit).2]
    exact h.live it (hsub it hit).1
  · unfold SkipList.dump
    rw [herase, ← filterMap_append]
    refine filterMap_congr fun it hit => ?_
    unfold item
    rw [hnodes it (ne_of_mem_of_not_mem hit hiter)]

variable {node : SkipNode α}

theorem onLevel_erase_of_ne (hmain : s.mMainList = pre ++ iter :: post) (hpre : iter ∉ pre)
    (hpost : iter ∉ post) (hnode : s.nodes iter = some node) (hne : other ≠ node.mLevel) :
    (s.erase iter).onLevel other = s.onLevel other := by
  have hskip : ¬ (node.mLevel == other) = true := by
    rw [beq_iff_eq]
    exact hne.symm
  rw [onLevel_erase hmain hpre hpost, onLevel, hmain, filter_append, filter_append,
    filter_cons, hnode, Option.any_some, if_neg hskip]

theorem MainKept.eraseP_held (h : MainKept n s held) (hmain : s.mMainList = pre ++ iter :: post)
    (hnode : s.nodes iter = some node)
    (hpre : ∀ it ∈ pre, ¬ (s.nodes it).any (·.mLevel == node.mLevel) = true) :
    held.eraseP (·.2 == node.mLevel) = pre.filterMap s.item ++ post.filterMap s.item := by
  have hitem : s.item iter = some (node.mData, node.mLevel) := by
    rw [item, hnode]
    rfl
  rw [← h.dump, SkipList.dump, hmain, filterMap_append, filterMap_cons, hitem, eraseP_append_right]
  · exact congrArg _ (eraseP_cons_of_pos (by simp))
  · intro x hx
    obtain ⟨it, hit, hx⟩ := mem_filterMap.mp hx
    obtain ⟨nd, hnd, rfl⟩ := Option.map_eq_some_iff.mp hx
    have hnot := hpre it hit
    rw [hnd] at hnot
    exact hnot

end Erase

theorem Kept.popHead (h : Kept n s held) {head : Nat} {rest : List Nat} {node : SkipNode α}
    (hnode : s.nodes head = some node) (h0 : 0 ≤ node.mLevel) (hn : node.mLevel < n)
    (hon : s.onLevel node.mLevel = head :: rest) :
    Kept n { s.erase head with
      mHeadVec := s.mHeadVec.set node.mLevel.toNat node.mNextInLevel
      mTailVec := if node.mNextInLevel = none then s.mTailVec.set node.mLevel.toNat none
        else s.mTailVec } (held.eraseP (·.2 == node.mLevel)) := by
  have hchain := h.chained node.mLevel h0 hn
  have hhn : node.mLevel < s.mHeadVec.length := h.headVec.symm ▸ hn
  have htn : node.mLevel < s.mTailVec.length := h.tailVec.symm ▸ hn
  obtain ⟨pre, post, hmain, hpre, hhead, hrest⟩ := filter_eq_cons_iff.mp hon
  have hnodup := h.main.nodup
  rw [hmain] at hnodup
  have hpost : head ∉ pre ++ post := (nodup_cons.mp (nodup_middle.mp hnodup)).1
  have hnotPre : head ∉ pre := fun hm => hpost (mem_append_left _ hm)
  have hnotPost : head ∉ post := fun hm => hpost (mem_append_right _ hm)
  have hkept := h.main.erase hmain
  have hheld := h.main.eraseP_held hmain hnode hpre
  have hlinks : Seg s.next (s.next head) rest none := by
    have hall := hchain.links
    rw [hon] at hall
    exact hall.2
  have hnext : node.mNextInLevel = rest.head? := by
    rw [← hlinks.head_eq, next, hnode]
    rfl
  have honSame : (s.erase head).onLevel node.mLevel = rest := by
    rw [onLevel_erase hmain hnotPre hnotPost, filter_append, filter_eq_nil_iff.mpr hpre, hrest]
    rfl
  refine ⟨⟨hkept.nodup, hkept.old, hkept.live, hkept.dump.trans hheld.symm⟩, ?_, ?_,
    fun other ho hon' => ?_⟩
  · exact (length_set ..).trans h.headVec
  · show List.length (if _ then _ else _) = n
    split
    · exact (length_set ..).trans h.tailVec
    · exact h.tailVec
  · by_cases hne : other = node.mLevel
    · subst hne
      refine ⟨?_, ?_, ?_⟩
      · refine (atLevel_set_self h0 hhn _).trans (congrArg some ?_)
        exact hnext.trans (congrArg List.head? honSame.symm)
      · show atLevel (if _ then _ else _) node.mLevel =
          some ((s.erase head).onLevel node.mLevel).getLast?
        rw [honSame, hnext]
        cases rest with
        | nil => exact atLevel_set_self h0 htn _
        | cons second rest =>
          rw [if_neg (by simp), hchain.tail, hon]
          rfl
      · show Seg (s.erase head).next ((s.erase head).onLevel node.mLevel).head?
          ((s.erase head).onLevel node.mLevel) none
        rw [honSame, ← hlinks.head_eq]
        refine hlinks.congr fun it hit => next_erase_of_ne ?_
        rintro rfl
        have hnodup' := h.main.nodup.filter fun it => (s.nodes it).any (·.mLevel == node.mLevel)
        rw [← onLevel, hon] at hnodup'
        exact (nodup_cons.mp hnodup').1 hit
    · refine (h.chained other ho hon').congr (onLevel_erase_of_ne hmain hnotPre hnotPost hnode hne)
        (atLevel_set_of_ne h0 ho hne _) ?_ fun it hit => next_erase_of_ne ?_
      · show atLevel (if _ then _ else _) other = _
        split
        · exact atLevel_set_of_ne h0 ho hne _
        · rfl
      · rintro rfl
        exact hne (h.main.level_unique hit (hon ▸ mem_cons_self))

theorem Kept.popLevel (h : Kept n s held) (h0 : 0 ≤ level) (hn : level < n) :
    ∃ s', s.popLevel level = some s' ∧ Kept n s' (held.eraseP (·.2 == level)) := by
  unfold SkipList.popLevel
  rw [(h.chained level h0 hn).head]
  cases hon : s.onLevel level with
  | nil =>
    have hnone : held.filter (·.2 == level) = [] := by
      rw [← h.main.dump, ← filterMap_onLevel, hon]
      rfl
    refine ⟨s, rfl, ?_⟩
    rw [eraseP_of_forall_not (filter_eq_nil_iff.mp hnone)]
    exact h
  | cons head rest =>
    have hmem : head ∈ s.onLevel level := hon ▸ mem_cons_self
    obtain ⟨-, node, hnode, rfl⟩ := h.main.node_of_mem hmem
    exact ⟨_, congrArg (Option.map _) hnode, h.popHead hnode h0 hn hon⟩

/-- Of a list that is not empty, `pop()` takes the oldest: it is the first of
its level too. -/
theorem Kept.pop (h : Kept n s held) (hheld : held ≠ []) :
    ∃ s', s.pop = some s' ∧ Kept n s' held.tail := by
  cases hmain : s.mMainList with
  | nil =>
    refine absurd ?_ hheld
    rw [← h.main.dump, dump, hmain]
    rfl
  | cons front rest =>
    obtain ⟨node, hnode, h0, hn⟩ := h.main.live front (hmain ▸ mem_cons_self)
    obtain ⟨s', hpop, hkept⟩ := h.popLevel h0 hn
    have hfront : held.eraseP (·.2 == node.mLevel) = held.tail := by
      have hitem : s.item front = some (node.mData, node.mLevel) := by
        rw [item, hnode]
        rfl
      rw [← h.main.dump, dump, hmain, filterMap_cons, hitem]
      exact eraseP_cons_of_pos (beq_self_eq_true _)
    refine ⟨s', ?_, hfront ▸ hkept⟩
    unfold SkipList.pop
    rw [hmain]
    show (s.nodes front).bind _ = _
    rw [hnode]
    exact hpop

theorem Kept.pop_empty (h : Kept n s []) : s.pop = none := by
  cases hmain : s.mMainList with
  | nil =>
    unfold SkipList.pop
    rw [hmain]
  | cons front rest =>
    obtain ⟨node, hnode, -⟩ := h.main.live front (hmain ▸ mem_cons_self)
    have hdump := h.main.dump
    rw [dump, hmain, filterMap_cons, item, hnode] at hdump
    cases hdump

/-- One call, when its level is valid: the list goes on as it should, unless
it is a `pop()` and nothing is held. -/
theorem Kept.call (h : Kept n s held) {c : SkipCall α} (hc : c.Valid n)
    (hpop : c = .pop → held ≠ []) :
    ∃ s', s.call c = some s' ∧ Kept n s' (heldAfter n held c) := by
  cases c with
  | append data level =>
    obtain ⟨s', heq, hkept⟩ := h.append data hc.1 hc.2
    refine ⟨s', heq, ?_⟩
    rw [heldAfter, if_pos (show 0 ≤ level ∧ level < n from hc)]
    exact hkept
  | popLevel level => exact h.popLevel hc.1 hc.2
  | pop => exact h.pop (hpop rfl)
  | flush => exact ⟨s.flush, rfl, h.flush⟩

theorem Kept.front (h : Kept n s held) (h0 : 0 ≤ level) (hn : level < n) :
    s.front level = ((held.filter (·.2 == level)).head?).map Prod.fst := by
  rw [SkipList.front, (h.chained level h0 hn).head, ← h.main.dump, ← filterMap_onLevel]
  cases hon : s.onLevel level with
  | nil => rfl
  | cons head rest =>
    obtain ⟨-, node, hnode, -⟩ := h.main.node_of_mem (hon ▸ mem_cons_self)
    rw [filterMap_cons, item, hnode]
    show (s.nodes head).map SkipNode.mData = _
    rw [hnode]
    rfl

end SkipList

/-! ## Runs -/

/-- The list exists still and agrees with what it should hold. -/
def Watched.Agrees (n : Nat) (w : Watched α) : Prop :=
  ∃ s, w.list = some s ∧ SkipList.Agrees n s w.held

/-- Not a `pop()` of a list that holds nothing. -/
def Watched.HasFront (w : Watched α) (c : SkipCall α) : Prop :=
  match c with
  | .pop => w.held ≠ []
  | _ => True

namespace Watched

variable {n : Nat}

/-- A run of calls with valid levels agrees throughout with the elements
appended and not yet removed exactly if no `pop()` meets an empty list. -/
theorem agrees_iff (n : Nat) (calls : List (SkipCall α)) (hvalid : ∀ c ∈ calls, c.Valid n) :
    StatesMeet (step n) (Agrees n) (start n) calls ↔
      StepsMeet (step n) HasFront (start n) calls := by
  have hpre : StepsMeet (step n) (fun _ c => c.Valid n) (start n) calls := by
    refine stepsMeet_iff.mpr fun pre c post heq => hvalid c ?_
    rw [heq]
    exact mem_append_right _ mem_cons_self
  refine statesMeet_iff_stepsMeet_of_pre
    (fun w => ∃ s, w.list = some s ∧ SkipList.Kept n s w.held) ?_ ?_ ?_
    ⟨_, rfl, SkipList.kept_new n⟩ hpre
  · rintro w ⟨s, hs, hkept⟩
    exact ⟨s, hs, hkept.agrees⟩
  · rintro w c ⟨s, hs, hkept⟩ hc hfront
    obtain ⟨s', hcall, hkept'⟩ := hkept.call hc fun hpop => by
      subst hpop
      exact hfront
    refine ⟨s', ?_, hkept'⟩
    show w.list.bind _ = _
    rw [hs]
    exact hcall
  · rintro w c ⟨s, hs, hkept⟩ - ⟨s', hs', -⟩
    cases c with
    | pop =>
      intro hheld
      rw [hheld] at hkept
      have hnone : (step n w .pop).1.list = none := by
        show w.list.bind _ = _
        rw [hs]
        exact hkept.pop_empty
      rw [hnone] at hs'
      cases hs'
    | append data level => trivial
    | popLevel level => trivial
    | flush => trivial

/-- Two levels, the older element of the two popped by its level. -/
theorem agrees_popLevel : StatesMeet (step 2) (Agrees 2) (start 2)
      [.append 'a' 0, .append 'b' 1, .popLevel 0, .pop] := by
  refine (agrees_iff 2 _ ?_).mpr ⟨trivial, trivial, trivial, cons_ne_nil _ _, trivial⟩
  simp [SkipCall.Valid]

/-- The first call on a new list is `pop()`. -/
theorem not_agrees_pop : ¬ ∀ (n : Nat) (calls : List (SkipCall Nat)), (∀ c ∈ calls, c.Valid n) →
      StatesMeet (step n) (Agrees n) (start n) calls := by
  intro h
  obtain ⟨s, hs, -⟩ := (h 5 [.pop] (by simp [SkipCall.Valid])).2
  cases hs

end Watched

end LocStack.Utils
