/-
# `LocStack.Heap.LocHeap` — the heap of LocHeap.cpp

A LocHeap is a binary tree sorted only vertically: no node is outranked by
its parent's subtrees.  `push` drops the new element into the smaller
subtree, swapping it with what it outranks on the way down; `pop` swaps the
top all the way down to a leaf; `remove` looks an element up by address and
does not enter a subtree whose top the element outranks.

The ranking is the client's (`LocRankable::ranks`), so it is a parameter
here.  What the heap keeps is proved for a ranking that behaves like an
order on the elements at hand (`RanksWell`); a client whose `ranks` is an
order only for some values, the times of a timer say, restricts `p`.

Proved: the contents after each operation (`push_perm`, `pop_perm`,
`remove_perm`), the order (`Ordered.push`, `Ordered.pop`, `Ordered.remove`),
and that `remove` finds what is there (`remove_isSome`).
-/
import Mathlib.Data.List.Perm.Basic

namespace LocStack.Heap

open List

/-- A `LocHeapNode*`. -/
inductive LocHeapNode (α : Type*) where
  | null
  | node (mSize : Nat) (mLeft mRight : LocHeapNode α) (mData : α)

namespace LocHeapNode

variable {α : Type*}

def isNull : LocHeapNode α → Bool
  | .null => true
  | .node .. => false

def getSize : LocHeapNode α → Nat
  | .null => 0
  | .node mSize _ _ _ => mSize

/-- `mData`, where there is a node. -/
def peek : LocHeapNode α → Option α
  | .null => none
  | .node _ _ _ mData => some mData

section Operations

variable (outRanks : α → α → Bool)

/-- `LocHeapNode::push`; pushing to NULL is `new LocHeapNode`. -/
def push : LocHeapNode α → α → LocHeapNode α
  | .null, added => .node 1 .null .null added
  | .node mSize mLeft mRight mData, added =>
    let top := if outRanks added mData then added else mData
    let lower := if outRanks added mData then mData else added
    if mLeft.isNull then .node (mSize + 1) (mLeft.push lower) mRight top
    else if mRight.isNull then .node (mSize + 1) mLeft (mRight.push lower) top
    else if mLeft.getSize ≤ mRight.getSize then .node (mSize + 1) (mLeft.push lower) mRight top
    else .node (mSize + 1) mLeft (mRight.push lower) top

/-- `LocHeapNode::pop` of a subtree whose top has had `data` swapped into
it: the data of the higher of its children moves up, `data` moves down. -/
def popDown (data : α) : LocHeapNode α → LocHeapNode α × Option α
  | .null => (.null, none)
  | .node _ .null .null _ => (.null, some data)
  | .node mSize .null (.node rSize rLeft rRight rData) _ =>
    let popped := popDown data (.node rSize rLeft rRight rData)
    (.node (mSize - 1) .null popped.1 rData, popped.2)
  | .node mSize (.node lSize lLeft lRight lData) .null _ =>
    let popped := popDown data (.node lSize lLeft lRight lData)
    (.node (mSize - 1) popped.1 .null lData, popped.2)
  | .node mSize (.node lSize lLeft lRight lData) (.node rSize rLeft rRight rData) _ =>
    if outRanks lData rData then
      let popped := popDown data (.node lSize lLeft lRight lData)
      (.node (mSize - 1) popped.1 (.node rSize rLeft rRight rData) lData, popped.2)
    else
      let popped := popDown data (.node rSize rLeft rRight rData)
      (.node (mSize - 1) (.node lSize lLeft lRight lData) popped.1 rData, popped.2)

/-- `LocHeapNode::pop`: the tree that is left, and the data popped. -/
def pop : LocHeapNode α → LocHeapNode α × Option α
  | .null => (.null, none)
  | .node mSize mLeft mRight mData => popDown outRanks mData (.node mSize mLeft mRight mData)

/-- `LocHeapNode::remove`, by address. -/
def remove [DecidableEq α] (data : α) : LocHeapNode α → LocHeapNode α × Option α
  | .null => (.null, none)
  | .node mSize mLeft mRight mData =>
    if data = mData then pop outRanks (.node mSize mLeft mRight mData)
    else if !outRanks data mData then
      match mLeft.remove data with
      | (left, some removed) => (.node (mSize - 1) left mRight mData, some removed)
      | (_, none) =>
        match mRight.remove data with
        | (right, some removed) => (.node (mSize - 1) mLeft right mData, some removed)
        | (_, none) => (.node mSize mLeft mRight mData, none)
    else (.node mSize mLeft mRight mData, none)

end Operations

/-! ## Contents -/

/-- Everything in the tree, the top first. -/
def data : LocHeapNode α → List α
  | .null => []
  | .node _ mLeft mRight mData => mData :: (mLeft.data ++ mRight.data)

@[simp] theorem data_null : (null : LocHeapNode α).data = [] := rfl

@[simp] theorem data_node (s : Nat) (l r : LocHeapNode α) (d : α) :
    (node s l r d).data = d :: (l.data ++ r.data) := rfl

variable {t : LocHeapNode α} {x : α}

theorem data_eq_nil : t.data = [] ↔ t = .null := by
  cases t with
  | null => exact ⟨fun _ => rfl, fun _ => rfl⟩
  | node s l r d => exact ⟨(nomatch ·), (nomatch ·)⟩

theorem peek_eq_none : t.peek = none ↔ t = .null := by
  cases t with
  | null => exact ⟨fun _ => rfl, fun _ => rfl⟩
  | node s l r d => exact ⟨(nomatch ·), (nomatch ·)⟩

theorem peek_mem (h : t.peek = some x) : x ∈ t.data := by
  cases t with
  | null => cases h
  | node s l r d =>
    cases h
    exact mem_cons_self

variable {outRanks : α → α → Bool}

theorem push_perm (t : LocHeapNode α) (x : α) :
    List.Perm (t.push outRanks x).data (x :: t.data) := by
  induction t generalizing x with
  | null => exact .refl _
  | node s l r d ihl ihr =>
    -- the two elements, whichever of them goes down
    have hswap : ∀ a b : α, List.Perm (l.push outRanks b).data (b :: l.data) →
        List.Perm (a :: ((l.push outRanks b).data ++ r.data)) (a :: b :: (l.data ++ r.data)) :=
      fun a b h => ((h.append_right r.data)).cons a
    have hswap' : ∀ a b : α, List.Perm (r.push outRanks b).data (b :: r.data) →
        List.Perm (a :: (l.data ++ (r.push outRanks b).data)) (a :: b :: (l.data ++ r.data)) :=
      fun a b h => ((h.append_left l.data).trans perm_middle).cons a
    have hdown : ∀ a b : α,
        List.Perm (a :: b :: (l.data ++ r.data)) (x :: d :: (l.data ++ r.data)) →
        List.Perm (if l.isNull then node (s + 1) (l.push outRanks b) r a
          else if r.isNull then node (s + 1) l (r.push outRanks b) a
          else if l.getSize ≤ r.getSize then node (s + 1) (l.push outRanks b) r a
          else node (s + 1) l (r.push outRanks b) a).data (x :: d :: (l.data ++ r.data)) := by
      intro a b hab
      split
      · exact (hswap a b (ihl b)).trans hab
      split
      · exact (hswap' a b (ihr b)).trans hab
      split
      · exact (hswap a b (ihl b)).trans hab
      · exact (hswap' a b (ihr b)).trans hab
    unfold push
    by_cases hx : outRanks x d
    · simp only [hx, if_true]
      exact hdown x d (.refl _)
    · simp only [hx]
      exact hdown d x (.swap _ _ _)

theorem popDown_node (outRanks : α → α → Bool) (data : α) (s : Nat) (l r : LocHeapNode α) (d : α) :
    (popDown outRanks data (.node s l r d)).2 = some data ∧
      List.Perm (popDown outRanks data (.node s l r d)).1.data (l.data ++ r.data) := by
  generalize ht : node s l r d = t
  induction t generalizing s l r d with
  | null => cases ht
  | node s' l' r' d' ihl ihr =>
    injection ht with hs hl hr hd
    subst hs hl hr hd
    cases l with
    | null =>
      cases r with
      | null => exact ⟨rfl, .refl _⟩
      | node rs rl rr rd =>
        obtain ⟨h₁, h₂⟩ := ihr rs rl rr rd rfl
        exact ⟨h₁, h₂.cons rd⟩
    | node ls ll lr ld =>
      obtain ⟨h₁, h₂⟩ := ihl ls ll lr ld rfl
      cases r with
      | null => exact ⟨h₁, (h₂.append_right []).cons ld⟩
      | node rs rl rr rd =>
        obtain ⟨h₃, h₄⟩ := ihr rs rl rr rd rfl
        unfold popDown
        split
        · exact ⟨h₁, (h₂.append_right _).cons ld⟩
        · refine ⟨h₃, ?_⟩
          exact ((h₄.append_left (node ls ll lr ld).data).cons rd).trans perm_middle.symm

theorem pop_snd (t : LocHeapNode α) : (t.pop outRanks).2 = t.peek := by
  cases t with
  | null => rfl
  | node s l r d => exact (popDown_node outRanks d s l r d).1

theorem pop_perm (h : t.peek = some x) : List.Perm t.data (x :: (t.pop outRanks).1.data) := by
  cases t with
  | null => cases h
  | node s l r d =>
    injection h with hd
    subst hd
    exact ((popDown_node outRanks _ s l r _).2.symm).cons _

theorem push_peek (t : LocHeapNode α) (x : α) : (t.push outRanks x).peek =
      some (t.peek.elim x fun top => if outRanks x top then x else top) := by
  cases t with
  | null => rfl
  | node s l r d =>
    unfold push
    simp only
    split
    · rfl
    split
    · rfl
    split
    · rfl
    · rfl

section Remove

variable [DecidableEq α]

theorem remove_peek {top : α} (ht : t.peek = some top) (hx : x ≠ top) :
    (t.remove outRanks x).1.peek = some top := by
  cases t with
  | null => cases ht
  | node s l r d =>
    injection ht with hd
    subst hd
    unfold remove
    rw [if_neg hx]
    split
    · split
      · rfl
      split
      · rfl
      · rfl
    · rfl

theorem remove_perm (outRanks : α → α → Bool) (t : LocHeapNode α) (x : α) :
    ((t.remove outRanks x).2 = some x ∧ List.Perm t.data (x :: (t.remove outRanks x).1.data)) ∨
      ((t.remove outRanks x).2 = none ∧ (t.remove outRanks x).1 = t) := by
  induction t with
  | null => exact Or.inr ⟨rfl, rfl⟩
  | node s l r d ihl ihr =>
    unfold remove
    by_cases hxd : x = d
    · subst hxd
      rw [if_pos rfl]
      exact Or.inl ⟨(pop_snd _).trans rfl, pop_perm rfl⟩
    rw [if_neg hxd]
    by_cases hr : outRanks x d
    · rw [if_neg (by simp [hr])]
      exact Or.inr ⟨rfl, rfl⟩
    rw [if_pos (by simp [hr])]
    rcases ihl with ⟨hl, hperm⟩ | ⟨hl, -⟩
    · rcases hrm : l.remove outRanks x with ⟨l', o⟩
      rw [hrm] at hl hperm
      subst hl
      exact Or.inl ⟨rfl, ((hperm.append_right r.data).cons d).trans (.swap _ _ _)⟩
    · rcases hrm : l.remove outRanks x with ⟨l', o⟩
      rw [hrm] at hl
      subst hl
      rcases ihr with ⟨hr', hperm⟩ | ⟨hr', -⟩
      · rcases hrm' : r.remove outRanks x with ⟨r', o'⟩
        rw [hrm'] at hr' hperm
        subst hr'
        exact Or.inl ⟨rfl, (((hperm.append_left l.data).trans perm_middle).cons d).trans
          (.swap _ _ _)⟩
      · rcases hrm' : r.remove outRanks x with ⟨r', o'⟩
        rw [hrm'] at hr'
        subst hr'
        exact Or.inr ⟨rfl, rfl⟩

end Remove

/-! ## Order -/

/-- The ranking is an order on the elements of which `p` holds. -/
structure RanksWell (p : α → Prop) (outRanks : α → α → Bool) : Prop where
  asymm : ∀ a b, p a → p b → outRanks a b = true → outRanks b a = false
  trans : ∀ a b c, p a → p b → p c → outRanks a b = false → outRanks b c = false →
    outRanks a c = false

/-- No node is outranked from below. -/
def Ordered (outRanks : α → α → Bool) : LocHeapNode α → Prop
  | .null => True
  | .node _ l r d =>
    (∀ y ∈ l.data ++ r.data, outRanks y d = false) ∧ Ordered outRanks l ∧ Ordered outRanks r

theorem Ordered.peek_first {p : α → Prop} (hp : RanksWell p outRanks) (h : t.Ordered outRanks)
    (hall : ∀ y ∈ t.data, p y) (hx : t.peek = some x) : ∀ y ∈ t.data, outRanks y x = false := by
  cases t with
  | null => cases hx
  | node s l r d =>
    cases hx
    intro y hy
    rcases mem_cons.mp hy with rfl | hy
    · have hpd := hall y mem_cons_self
      by_contra hyy
      rw [Bool.not_eq_false] at hyy
      rw [hp.asymm y y hpd hpd hyy] at hyy
      cases hyy
    · exact h.1 y hy

variable {p : α → Prop}

theorem Ordered.push (hp : RanksWell p outRanks) (h : t.Ordered outRanks) (hall : ∀ y ∈ t.data, p y)
    (hx : p x) : (t.push outRanks x).Ordered outRanks := by
  induction t generalizing x with
  | null => exact ⟨fun y hy => absurd hy not_mem_nil, trivial, trivial⟩
  | node s l r d ihl ihr =>
    obtain ⟨htop, hl, hr⟩ := h
    have hd : p d := hall d mem_cons_self
    have hpl : ∀ y ∈ l.data, p y := fun y hy =>
      hall y (mem_cons_of_mem _ (mem_append_left _ hy))
    have hpr : ∀ y ∈ r.data, p y := fun y hy =>
      hall y (mem_cons_of_mem _ (mem_append_right _ hy))
    -- `a` stays at the top, `b` goes down
    have hdown : ∀ a b : α, p b → outRanks b a = false →
        (∀ y ∈ l.data ++ r.data, outRanks y a = false) →
        (if l.isNull then node (s + 1) (l.push outRanks b) r a
          else if r.isNull then node (s + 1) l (r.push outRanks b) a
          else if l.getSize ≤ r.getSize then node (s + 1) (l.push outRanks b) r a
          else node (s + 1) l (r.push outRanks b) a).Ordered outRanks := by
      intro a b hb hba hrest
      have hleft : (node (s + 1) (l.push outRanks b) r a).Ordered outRanks := by
        refine ⟨fun y hy => ?_, ihl hl hpl hb, hr⟩
        rcases mem_append.mp hy with hy | hy
        · rcases mem_cons.mp ((push_perm l b).mem_iff.mp hy) with rfl | hy
          · exact hba
          · exact hrest y (mem_append_left _ hy)
        · exact hrest y (mem_append_right _ hy)
      have hright : (node (s + 1) l (r.push outRanks b) a).Ordered outRanks := by
        refine ⟨fun y hy => ?_, hl, ihr hr hpr hb⟩
        rcases mem_append.mp hy with hy | hy
        · exact hrest y (mem_append_left _ hy)
        · rcases mem_cons.mp ((push_perm r b).mem_iff.mp hy) with rfl | hy
          · exact hba
          · exact hrest y (mem_append_right _ hy)
      split
      · exact hleft
      split
      · exact hright
      split
      · exact hleft
      · exact hright
    unfold LocHeapNode.push
    cases hxd : outRanks x d with
    | true =>
      simp only [if_true]
      have hdx := hp.asymm x d hx hd hxd
      refine hdown x d hd hdx fun y hy => ?_
      exact hp.trans y d x (hall y (mem_cons_of_mem _ hy)) hd hx (htop y hy) hdx
    | false =>
      simp only [Bool.false_eq_true, if_false]
      exact hdown d x hx hxd htop

theorem ordered_popDown (hp : RanksWell p outRanks) (data : α) (h : t.Ordered outRanks)
    (hall : ∀ y ∈ t.data, p y) : (popDown outRanks data t).1.Ordered outRanks := by
  induction t with
  | null => trivial
  | node s l r d ihl ihr =>
    obtain ⟨-, hl, hr⟩ := h
    have hpl : ∀ y ∈ l.data, p y := fun y hy =>
      hall y (mem_cons_of_mem _ (mem_append_left _ hy))
    have hpr : ∀ y ∈ r.data, p y := fun y hy =>
      hall y (mem_cons_of_mem _ (mem_append_right _ hy))
    have hl' := ihl hl hpl
    have hr' := ihr hr hpr
    cases l with
    | null =>
      cases r with
      | null => trivial
      | node rs rl rr rd =>
        refine ⟨fun y hy => ?_, trivial, hr'⟩
        exact hr.1 y ((popDown_node outRanks data rs rl rr rd).2.mem_iff.mp hy)
    | node ls ll lr ld =>
      have hml := (popDown_node outRanks data ls ll lr ld).2
      cases r with
      | null =>
        refine ⟨fun y hy => ?_, hl', trivial⟩
        rw [data_null, append_nil] at hy
        exact hl.1 y (hml.mem_iff.mp hy)
      | node rs rl rr rd =>
        have hmr := (popDown_node outRanks data rs rl rr rd).2
        have hpld := hpl ld mem_cons_self
        have hprd := hpr rd mem_cons_self
        have hld : ∀ y ∈ (node ls ll lr ld).data, outRanks y ld = false :=
          hl.peek_first hp hpl rfl
        have hrd : ∀ y ∈ (node rs rl rr rd).data, outRanks y rd = false :=
          hr.peek_first hp hpr rfl
        unfold popDown
        split
        · rename_i hlr
          refine ⟨fun y hy => ?_, hl', hr⟩
          rcases mem_append.mp hy with hy | hy
          · exact hl.1 y (hml.mem_iff.mp hy)
          · exact hp.trans y rd ld (hpr y hy) hprd hpld (hrd y hy) (hp.asymm ld rd hpld hprd hlr)
        · rename_i hlr
          refine ⟨fun y hy => ?_, hl, hr'⟩
          rcases mem_append.mp hy with hy | hy
          · exact hp.trans y ld rd (hpl y hy) hpld hprd (hld y hy) (Bool.not_eq_true _ ▸ hlr)
          · exact hr.1 y (hmr.mem_iff.mp hy)

theorem Ordered.pop (hp : RanksWell p outRanks) (h : t.Ordered outRanks)
    (hall : ∀ y ∈ t.data, p y) : (t.pop outRanks).1.Ordered outRanks := by
  cases t with
  | null => trivial
  | node s l r d => exact ordered_popDown hp d h hall

section Remove

variable [DecidableEq α]

theorem Ordered.remove (hp : RanksWell p outRanks) (h : t.Ordered outRanks)
    (hall : ∀ y ∈ t.data, p y) (x : α) : (t.remove outRanks x).1.Ordered outRanks := by
  induction t with
  | null => trivial
  | node s l r d ihl ihr =>
    have hpop := h.pop hp hall
    obtain ⟨htop, hl, hr⟩ := h
    have hl' := ihl hl fun y hy => hall y (mem_cons_of_mem _ (mem_append_left _ hy))
    have hr' := ihr hr fun y hy => hall y (mem_cons_of_mem _ (mem_append_right _ hy))
    have hpl := remove_perm outRanks l x
    have hpr := remove_perm outRanks r x
    unfold LocHeapNode.remove
    split
    · exact hpop
    split
    · split
      · rename_i hrm
        rw [hrm] at hl' hpl
        refine ⟨fun y hy => htop y ?_, hl', hr⟩
        rcases hpl with ⟨-, hperm⟩ | ⟨hnone, -⟩
        · rcases mem_append.mp hy with hy | hy
          · exact mem_append_left _ (hperm.mem_iff.mpr (mem_cons_of_mem _ hy))
          · exact mem_append_right _ hy
        · cases hnone
      · split
        · rename_i hrm
          rw [hrm] at hr' hpr
          refine ⟨fun y hy => htop y ?_, hl, hr'⟩
          rcases hpr with ⟨-, hperm⟩ | ⟨hnone, -⟩
          · rcases mem_append.mp hy with hy | hy
            · exact mem_append_left _ hy
            · exact mem_append_right _ (hperm.mem_iff.mpr (mem_cons_of_mem _ hy))
          · cases hnone
        · exact ⟨htop, hl, hr⟩
    · exact ⟨htop, hl, hr⟩

theorem Ordered.remove_isSome (h : t.Ordered outRanks) (hx : x ∈ t.data) :
    (t.remove outRanks x).2 = some x := by
  induction t with
  | null => exact absurd hx not_mem_nil
  | node s l r d ihl ihr =>
    obtain ⟨htop, hl, hr⟩ := h
    unfold LocHeapNode.remove
    by_cases hxd : x = d
    · subst hxd
      rw [if_pos rfl]
      exact pop_snd _
    have hx' : x ∈ l.data ++ r.data := (mem_cons.mp hx).resolve_left hxd
    rw [if_neg hxd, if_pos (by simp [htop x hx'])]
    rcases hrl : l.remove outRanks x with ⟨l', o⟩
    have hpl := remove_perm outRanks l x
    rw [hrl] at hpl
    rcases hpl with ⟨ho, -⟩ | ⟨ho, -⟩
    · subst ho
      rfl
    · subst ho
      rcases mem_append.mp hx' with hmem | hmem
      · have hfound := ihl hl hmem
        rw [hrl] at hfound
        cases hfound
      · have hfound := ihr hr hmem
        rcases hrr : r.remove outRanks x with ⟨r', o'⟩
        rw [hrr] at hfound
        subst hfound
        rfl

end Remove

end LocHeapNode

end LocStack.Heap
