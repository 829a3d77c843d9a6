/-
# `LocStack.Heap.CheckTree` — the self-check of LocHeap, over whole runs

`checkNodes` compares each node with the tops of its subtrees and the sizes
along the tree.  `push` reads the sizes to choose the smaller subtree, so a
size that is off would not break the order but would unbalance the tree.

    Sized t       every mSize is the number of nodes of its subtree
    Ordered t     no node is outranked from below (`LocStack.Heap.LocHeap`)

The two together are what `checkNodes` checks (`checkNodes_of_ordered`).  A
run is a list of calls; `LocHeap.run_sound` says what holds after it and what
each of its calls answered.
-/
import LocStack.Base.Run
import LocStack.Heap.LocHeap
import Mathlib.Algebra.Order.Group.Multiset

namespace LocStack.Heap

open Base List

variable {α : Type*}

namespace LocHeapNode

/-- `LocHeapNode::checkNodes`; the check of a subtree that is not there is
not made. -/
def checkNodes (outRanks : α → α → Bool) : LocHeapNode α → Bool
  | .null => true
  | .node mSize mLeft mRight mData =>
    !mLeft.peek.any (outRanks · mData) && mLeft.checkNodes outRanks &&
      !mRight.peek.any (outRanks · mData) && mRight.checkNodes outRanks &&
      (mSize : Int) - mLeft.getSize - mRight.getSize == 1

/-! ## Sizes -/

/-- Every `mSize` counts the nodes of its subtree. -/
def Sized : LocHeapNode α → Prop
  | .null => True
  | .node mSize mLeft mRight _ =>
    mSize = mLeft.data.length + mRight.data.length + 1 ∧ mLeft.Sized ∧ mRight.Sized

variable {t : LocHeapNode α}

theorem Sized.getSize (h : t.Sized) : t.getSize = t.data.length := by
  cases t with
  | null => rfl
  | node s l r d =>
    rw [data_node, length_cons, length_append]
    exact h.1

variable {outRanks : α → α → Bool}

theorem Sized.push (h : t.Sized) (x : α) : (t.push outRanks x).Sized := by
  induction t generalizing x with
  | null => exact ⟨rfl, trivial, trivial⟩
  | node s l r d ihl ihr =>
    obtain ⟨hs, hl, hr⟩ := h
    have hleft : ∀ a b : α, (node (s + 1) (l.push outRanks b) r a).Sized := by
      intro a b
      have hlen : (l.push outRanks b).data.length = l.data.length + 1 := (push_perm l b).length_eq
      exact ⟨by omega, ihl hl b, hr⟩
    have hright : ∀ a b : α, (node (s + 1) l (r.push outRanks b) a).Sized := by
      intro a b
      have hlen : (r.push outRanks b).data.length = r.data.length + 1 := (push_perm r b).length_eq
      exact ⟨by omega, hl, ihr hr b⟩
    unfold LocHeapNode.push
    simp only
    split
    · exact hleft _ _
    split
    · exact hright _ _
    split
    · exact hleft _ _
    · exact hright _ _

theorem Sized.popDown (h : t.Sized) (data : α) : (popDown outRanks data t).1.Sized := by
  induction t with
  | null => trivial
  | node s l r d ihl ihr =>
    obtain ⟨hs, hl, hr⟩ := h
    have hl' := ihl hl
    have hr' := ihr hr
    cases l with
    | null =>
      cases r with
      | null => trivial
      | node rs rl rr rd =>
        have hlen := (popDown_node outRanks data rs rl rr rd).2.length_eq
        refine ⟨?_, trivial, hr'⟩
        rw [hlen, hs]
        simp
    | node ls ll lr ld =>
      have hlenl := (popDown_node outRanks data ls ll lr ld).2.length_eq
      cases r with
      | null =>
        refine ⟨?_, hl', trivial⟩
        rw [hlenl, hs]
        simp
      | node rs rl rr rd =>
        have hlenr := (popDown_node outRanks data rs rl rr rd).2.length_eq
        unfold LocHeapNode.popDown
        split
        · refine ⟨?_, hl', hr⟩
          rw [hlenl, hs]
          simp
          omega
        · refine ⟨?_, hl, hr'⟩
          rw [hlenr, hs]
          simp
          omega

theorem Sized.pop (h : t.Sized) : (t.pop outRanks).1.Sized := by
  cases t with
  | null => trivial
  | node s l r d => exact h.popDown d

theorem Sized.remove [DecidableEq α] (h : t.Sized) (x : α) : (t.remove outRanks x).1.Sized := by
  induction t with
  | null => trivial
  | node s l r d ihl ihr =>
    have hpop : (LocHeapNode.pop outRanks (node s l r d)).1.Sized := h.pop
    obtain ⟨hs, hl, hr⟩ := h
    have hl' := ihl hl
    have hr' := ihr hr
    have hpl := remove_perm outRanks l x
    have hpr := remove_perm outRanks r x
    unfold LocHeapNode.remove
    split
    · exact hpop
    split
    · split
      · rename_i hrm
        rw [hrm] at hl' hpl
        rcases hpl with ⟨-, hperm⟩ | ⟨hnone, -⟩
        · have hlen := hperm.length_eq
          simp only [length_cons] at hlen
          exact ⟨by omega, hl', hr⟩
        · cases hnone
      · split
        · rename_i hrm
          rw [hrm] at hr' hpr
          rcases hpr with ⟨-, hperm⟩ | ⟨hnone, -⟩
          · have hlen := hperm.length_eq
            simp only [length_cons] at hlen
            exact ⟨by omega, hl, hr'⟩
          · cases hnone
        · exact ⟨hs, hl, hr⟩
    · exact ⟨hs, hl, hr⟩

theorem checkNodes_of_ordered (hsize : t.Sized) (hord : t.Ordered outRanks) :
    t.checkNodes outRanks = true := by
  induction t with
  | null => rfl
  | node s l r d ihl ihr =>
    obtain ⟨hs, hl, hr⟩ := hsize
    obtain ⟨htop, hol, hor⟩ := hord
    have hpeek : ∀ c : LocHeapNode α, (∀ y ∈ c.data, outRanks y d = false) →
        c.peek.any (outRanks · d) = false := by
      intro c hc
      cases hp : c.peek with
      | none => rfl
      | some y => exact hc y (peek_mem hp)
    have hleft := hpeek l fun y hy => htop y (mem_append_left _ hy)
    have hright := hpeek r fun y hy => htop y (mem_append_right _ hy)
    have htotal : (s : Int) - l.getSize - r.getSize = 1 := by
      rw [hl.getSize, hr.getSize, hs]
      omega
    simp only [checkNodes, hleft, hright, ihl hl hol, ihr hr hor, htotal]
    rfl

/-- An element is found exactly if it is there; what is not there leaves the
tree alone. -/
theorem Ordered.remove_cases [DecidableEq α] (h : t.Ordered outRanks) (x : α) :
    (x ∈ t.data ∧ (t.remove outRanks x).2 = some x ∧
        List.Perm t.data (x :: (t.remove outRanks x).1.data)) ∨
      (x ∉ t.data ∧ (t.remove outRanks x).2 = none ∧ (t.remove outRanks x).1 = t) := by
  rcases remove_perm outRanks t x with ⟨hsome, hperm⟩ | ⟨hnone, hsame⟩
  · exact Or.inl ⟨hperm.mem_iff.mpr mem_cons_self, hsome, hperm⟩
  · refine Or.inr ⟨fun hx => ?_, hnone, hsame⟩
    have hfound := h.remove_isSome hx
    rw [hnone] at hfound
    cases hfound

end LocHeapNode

/-! ## The heap -/

/-- The ranking of the elements is a total preorder `below`: one outranks
another when it is not below it or level with it. -/
structure RanksBy (below : α → α → Prop) (outRanks : α → α → Bool) : Prop where
  total : ∀ a b, below a b ∨ below b a
  trans : ∀ a b c, below a b → below b c → below a c
  outRanks_iff : ∀ a b, outRanks a b = true ↔ ¬ below a b

theorem RanksBy.ranksWell {below : α → α → Prop} {outRanks : α → α → Bool}
    (h : RanksBy below outRanks) : LocHeapNode.RanksWell (fun _ => True) outRanks := by
  have hnot : ∀ a b, outRanks a b = false ↔ below a b := by
    intro a b
    rw [← Bool.not_eq_true, h.outRanks_iff, not_not]
  constructor
  · intro a b _ _ hab
    rw [hnot]
    exact (h.total b a).resolve_right ((h.outRanks_iff a b).mp hab)
  · intro a b c _ _ _ hab hbc
    rw [hnot] at hab hbc ⊢
    exact h.trans a b c hab hbc

structure LocHeap (α : Type*) where
  mTree : LocHeapNode α

/-- The calls a client makes on a heap. -/
inductive HeapCall (α : Type*) where
  | push (node : α)
  | peek | pop
  | remove (rankable : α)

namespace LocHeap

def empty : LocHeap α := ⟨.null⟩

section Operations

variable (outRanks : α → α → Bool)

def push (h : LocHeap α) (node : α) : LocHeap α := ⟨h.mTree.push outRanks node⟩

def peek (h : LocHeap α) : Option α := h.mTree.peek

def pop (h : LocHeap α) : LocHeap α × Option α :=
  (⟨(h.mTree.pop outRanks).1⟩, (h.mTree.pop outRanks).2)

def remove [DecidableEq α] (h : LocHeap α) (rankable : α) : LocHeap α × Option α :=
  (⟨(h.mTree.remove outRanks rankable).1⟩, (h.mTree.remove outRanks rankable).2)

def checkTree (h : LocHeap α) : Bool := h.mTree.checkNodes outRanks

def getTreeSize (h : LocHeap α) : Nat := h.mTree.getSize

/-- One call, and what it returns; `push` returns nothing. -/
def step [DecidableEq α] (h : LocHeap α) : HeapCall α → LocHeap α × List (HeapCall α × Option α)
  | .push node => (h.push outRanks node, [(.push node, none)])
  | .peek => (h, [(.peek, h.peek)])
  | .pop => ((h.pop outRanks).1, [(.pop, (h.pop outRanks).2)])
  | .remove rankable =>
    ((h.remove outRanks rankable).1, [(.remove rankable, (h.remove outRanks rankable).2)])

end Operations

/-- What the heap holds, as a multiset of addresses. -/
def content (h : LocHeap α) : Multiset α := h.mTree.data

/-- What the calls pushed. -/
def pushed (calls : List (HeapCall α)) : Multiset α :=
  (calls.filterMap fun
    | .push node => some node
    | _ => none : List α)

/-- What the calls took out: the elements that a pop or a remove returned. -/
def takenOut (answers : List (HeapCall α × Option α)) : Multiset α :=
  (answers.filterMap fun
    | (.pop, returned) => returned
    | (.remove _, returned) => returned
    | _ => none : List α)

/-- A top-ranked element of the heap, or NULL if there is none. -/
def IsTop (outRanks : α → α → Bool) (h : LocHeap α) (returned : Option α) : Prop :=
  match returned with
  | none => h.content = 0
  | some top => top ∈ h.content ∧ ∀ y ∈ h.content, outRanks y top = false

/-- What one call is to answer, and to leave behind. -/
def Answered [DecidableEq α] (outRanks : α → α → Bool) (h : LocHeap α) (call : HeapCall α) :
    Prop :=
  match call with
  | .push node => (step outRanks h call).1.content = node ::ₘ h.content
  | .peek =>
    ∃ returned, step outRanks h call = (h, [(call, returned)]) ∧ IsTop outRanks h returned
  | .pop =>
    ∃ returned h', step outRanks h call = (h', [(call, returned)]) ∧
      IsTop outRanks h returned ∧ h.content = (returned.elim 0 ({·})) + h'.content
  | .remove rankable =>
    if rankable ∈ h.content then
      ∃ h', step outRanks h call = (h', [(call, some rankable)]) ∧
        h.content = rankable ::ₘ h'.content
    else step outRanks h call = (h, [(call, none)])

/-- What every operation keeps. -/
structure Sound (outRanks : α → α → Bool) (h : LocHeap α) : Prop where
  sized : h.mTree.Sized
  ordered : h.mTree.Ordered outRanks

variable {outRanks : α → α → Bool} {h : LocHeap α}

theorem Sound.checkTree (hs : h.Sound outRanks) : h.checkTree outRanks = true :=
  LocHeapNode.checkNodes_of_ordered hs.sized hs.ordered

theorem Sound.getTreeSize (hs : h.Sound outRanks) :
    h.getTreeSize = Multiset.card h.content := hs.sized.getSize

theorem sound_empty : (empty : LocHeap α).Sound outRanks := ⟨trivial, trivial⟩

theorem pushed_append (cs ds : List (HeapCall α)) : pushed (cs ++ ds) = pushed cs + pushed ds := by
  unfold pushed
  rw [filterMap_append]
  rfl

theorem takenOut_append (as bs : List (HeapCall α × Option α)) :
    takenOut (as ++ bs) = takenOut as + takenOut bs := by
  unfold takenOut
  rw [filterMap_append]
  rfl

section Ranked

variable {below : α → α → Prop} {h : LocHeap α}

theorem Sound.isTop_peek (hr : RanksBy below outRanks) (hs : h.Sound outRanks) :
    IsTop outRanks h h.peek := by
  cases hp : h.peek with
  | none =>
    have hnull : h.mTree = .null := LocHeapNode.peek_eq_none.mp hp
    show ((h.mTree.data : List α) : Multiset α) = 0
    rw [hnull]
    rfl
  | some top =>
    exact ⟨LocHeapNode.peek_mem hp, hs.ordered.peek_first hr.ranksWell (fun _ _ => trivial) hp⟩

variable [DecidableEq α]

section

variable (hr : RanksBy below outRanks) (hs : h.Sound outRanks)
include hr hs

theorem Sound.step (call : HeapCall α) : (step outRanks h call).1.Sound outRanks := by
  have hrw := hr.ranksWell
  cases call with
  | push node => exact ⟨hs.sized.push node, hs.ordered.push hrw (fun _ _ => trivial) trivial⟩
  | peek => exact hs
  | pop => exact ⟨hs.sized.pop, hs.ordered.pop hrw fun _ _ => trivial⟩
  | remove rankable =>
    exact ⟨hs.sized.remove rankable, hs.ordered.remove hrw (fun _ _ => trivial) rankable⟩

theorem Sound.answered (call : HeapCall α) : Answered outRanks h call := by
  cases call with
  | push node => exact Multiset.coe_eq_coe.mpr (LocHeapNode.push_perm h.mTree node)
  | peek => exact ⟨h.peek, rfl, hs.isTop_peek hr⟩
  | pop =>
    have htop := hs.isTop_peek hr
    refine ⟨(h.pop outRanks).2, (h.pop outRanks).1, rfl, ?_⟩
    have hsnd : (h.pop outRanks).2 = h.peek := LocHeapNode.pop_snd h.mTree
    rw [hsnd]
    refine ⟨htop, ?_⟩
    cases hp : h.peek with
    | none =>
      have hnull : h.mTree = .null := LocHeapNode.peek_eq_none.mp hp
      show ((h.mTree.data : List α) : Multiset α) = _
      unfold pop content
      rw [hnull]
      rfl
    | some top => exact Multiset.coe_eq_coe.mpr (LocHeapNode.pop_perm hp)
  | remove rankable =>
    show if rankable ∈ h.content then _ else _
    rcases hs.ordered.remove_cases rankable with ⟨hmem, hsome, hperm⟩ | ⟨hmem, hnone, hsame⟩
    · rw [if_pos (show rankable ∈ h.content from hmem)]
      refine ⟨(h.remove outRanks rankable).1, ?_, Multiset.coe_eq_coe.mpr hperm⟩
      show ((h.remove outRanks rankable).1, [(_, (h.remove outRanks rankable).2)]) = _
      rw [show (h.remove outRanks rankable).2 = some rankable from hsome]
    · rw [if_neg (show rankable ∉ h.content from hmem)]
      show ((⟨(h.mTree.remove outRanks rankable).1⟩ : LocHeap α), [(_, _)]) = _
      rw [hsame, show (h.remove outRanks rankable).2 = none from hnone]

theorem Sound.content_step (call : HeapCall α) :
    (LocHeap.step outRanks h call).1.content + takenOut (LocHeap.step outRanks h call).2 =
      h.content + pushed [call] := by
  have hans := hs.answered hr call
  cases call with
  | push node =>
    have hpush : (LocHeap.step outRanks h (.push node)).1.content = node ::ₘ h.content := hans
    rw [hpush]
    show node ::ₘ h.content + 0 = h.content + {node}
    rw [add_zero, add_comm, Multiset.singleton_add]
  | peek => rfl
  | pop =>
    obtain ⟨returned, h', heq, -, hcontent⟩ := hans
    rw [heq]
    cases returned with
    | none =>
      have hsame : h.content = h'.content := hcontent.trans (zero_add _)
      rw [hsame]
      rfl
    | some top =>
      show h'.content + {top} = h.content + 0
      rw [add_zero, add_comm]
      exact hcontent.symm
  | remove rankable =>
    change if rankable ∈ h.content then _ else _ at hans
    split at hans
    · obtain ⟨h', heq, hcontent⟩ := hans
      rw [heq]
      show h'.content + {rankable} = h.content + 0
      rw [add_zero, add_comm, hcontent, Multiset.singleton_add]
    · rw [hans]
      rfl

theorem Sound.content_after (calls : List (HeapCall α)) :
    (after (LocHeap.step outRanks) h calls).content +
        takenOut (outs (LocHeap.step outRanks) h calls) = h.content + pushed calls := by
  induction calls generalizing h with
  | nil => rfl
  | cons call calls ih =>
    have hstep := hs.content_step hr call
    have hrest := ih (hs.step hr call)
    rw [after_cons, outs_cons, takenOut_append, ← singleton_append, pushed_append]
    calc _ = (LocHeap.step outRanks h call).1.content + pushed calls +
          takenOut (LocHeap.step outRanks h call).2 := by
          rw [← hrest, add_right_comm, add_assoc]
      _ = _ := by rw [add_right_comm, hstep, add_assoc]

end

/-- After every run of calls on a new heap the tree passes its check, holds
what was pushed and not taken out, and every call answered as it should. -/
theorem run_sound (hr : RanksBy below outRanks) (calls : List (HeapCall α)) :
    StatesMeet (LocHeap.step outRanks)
        (fun h => h.checkTree outRanks = true ∧ h.mTree.Ordered outRanks ∧
          h.getTreeSize = Multiset.card h.content) empty calls ∧
      (after (LocHeap.step outRanks) empty calls).content +
        takenOut (outs (LocHeap.step outRanks) empty calls) = pushed calls ∧
      StepsMeet (LocHeap.step outRanks) (Answered outRanks) empty calls := by
  have hkeep : ∀ h call, Sound outRanks h → (LocHeap.step outRanks h call).1.Sound outRanks :=
    fun h call hs => hs.step hr call
  have hall : StatesMeet (LocHeap.step outRanks) (Sound outRanks) empty calls :=
    statesMeet_of_invariant hkeep sound_empty calls
  refine ⟨hall.mono fun h hs => ⟨hs.checkTree, hs.ordered, hs.getTreeSize⟩, ?_, ?_⟩
  · exact (sound_empty.content_after hr calls).trans (zero_add _)
  · exact stepsMeet_of_invariant hkeep (fun h call hs => hs.answered hr call) sound_empty calls

/-- Two elements of one rank, one of them taken out from under the other. -/
theorem run_sound_of_level : Answered (fun a b : Nat × Nat => decide (b.1 < a.1))
      (after (LocHeap.step fun a b : Nat × Nat => decide (b.1 < a.1)) empty
        [.push (1, 0), .push (1, 1)]) (.remove (1, 1)) := by
  have hr : RanksBy (fun a b : Nat × Nat => a.1 ≤ b.1)
      (fun a b : Nat × Nat => decide (b.1 < a.1)) :=
    ⟨fun a b => Nat.le_total a.1 b.1, fun _ _ _ => Nat.le_trans,
      fun a b => by rw [decide_eq_true_iff, Nat.not_le]⟩
  exact (run_sound hr [.push (1, 0), .push (1, 1), .remove (1, 1)]).2.2.2.2.1

theorem Sound.drained (hr : RanksBy below outRanks) {n : Nat} (hs : h.Sound outRanks)
    (hn : Multiset.card h.content = n) :
    let popped := (outs (LocHeap.step outRanks) h (replicate n .pop)).filterMap Prod.snd
    (popped : Multiset α) = h.content ∧ popped.Pairwise fun a b => outRanks b a = false := by
  induction n generalizing h with
  | zero =>
    rw [Multiset.card_eq_zero.mp hn]
    exact ⟨rfl, .nil⟩
  | succ n ih =>
    obtain ⟨returned, h', heq, htop, hcontent⟩ := hs.answered hr .pop
    cases returned with
    | none =>
      rw [show h.content = 0 from htop] at hn
      cases hn
    | some top =>
      have hcons : h.content = top ::ₘ h'.content := hcontent
      have hs' : h'.Sound outRanks := by simpa [heq] using hs.step hr .pop
      obtain ⟨hpopped, hsorted⟩ := ih hs' (by simpa [hcons] using hn)
      rw [replicate_succ, outs_cons, heq]
      refine ⟨?_, pairwise_cons.mpr ⟨fun y hy => htop.2 y ?_, hsorted⟩⟩
      · rw [hcons, ← hpopped]
        rfl
      · rw [hcons, ← hpopped]
        exact Multiset.mem_cons_of_mem hy

/-- Whatever was done with a heap, popping it empty gives all it has, in the order
of the ranks. -/
theorem popped_in_order (hr : RanksBy below outRanks) (calls : List (HeapCall α)) :
    let h := after (LocHeap.step outRanks) empty calls
    let popped :=
      (outs (LocHeap.step outRanks) h (replicate h.getTreeSize .pop)).filterMap Prod.snd
    (popped : Multiset α) + takenOut (outs (LocHeap.step outRanks) empty calls) = pushed calls ∧
      popped.Pairwise fun a b => outRanks b a = false := by
  intro h popped
  have hs : h.Sound outRanks := invariant_after (fun _ call hs => hs.step hr call) sound_empty calls
  obtain ⟨hpopped, hsorted⟩ := hs.drained hr hs.getTreeSize.symm
  refine ⟨?_, hsorted⟩
  rw [show (popped : Multiset α) = h.content from hpopped]
  exact (sound_empty.content_after hr calls).trans (zero_add _)

theorem popped_in_order_of_two :
    let step := LocHeap.step fun a b : Nat => decide (b < a)
    let h := after step empty [.push 1, .push 2, .push 3, .remove 2]
    ((outs step h (replicate h.getTreeSize .pop)).filterMap Prod.snd).Pairwise fun a b =>
      decide (a < b) = false := by
  have hr : RanksBy (fun a b : Nat => a ≤ b) (fun a b : Nat => decide (b < a)) :=
    ⟨Nat.le_total, fun _ _ _ => Nat.le_trans, fun a b => by rw [decide_eq_true_iff, Nat.not_le]⟩
  exact (popped_in_order hr [.push 1, .push 2, .push 3, .remove 2]).2

end Ranked

end LocHeap

end LocStack.Heap
