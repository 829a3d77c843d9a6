/-
# `LocStack.Utils.LinkedList` — the doubly linked list of linked_list.c

`linked_list_add` puts an element in front of the head, `linked_list_remove`
takes the one at the tail, and `linked_list_search` looks from the head for
the first element that a predicate accepts, and takes it out if it is told
to.

An address is a number and NULL is `none`.  `mem` is the memory of the list's
elements; what malloc answers is an argument of `add`.  A result `none` is
undefined behaviour: a pointer followed to where no element is.  `live`
counts the elements allocated; a loop gets it as its fuel.

    Linked s l    head, tail and both links are those of the list `l`, and
                  just its elements are allocated
    unlink        what cutting an element out does to the links, wherever it
                  stands (`Linked.unlink`); `remove` is the case of the tail
-/
import LocStack.Base.Chain
import Mathlib.Data.List.Nodup

namespace LocStack.Utils

open Base List Function Option

inductive LinkedListErr where
  | SUCCESS | FAILURE_GENERAL | INVALID_PARAMETER | INVALID_HANDLE | UNAVAILABLE_RESOURCE
  | INSUFFICIENT_BUFFER | EMPTY

/-- A `list_element`; of `dealloc_func` only whether there is one. -/
structure ListElement (μ : Type*) where
  (next prev : Option Nat)
  data_ptr : μ
  dealloc_func : Bool

/-- A `list_state`, with the memory it lives in. -/
structure ListState (μ : Type*) where
  (p_head p_tail : Option Nat)
  mem : Nat → Option (ListElement μ)
  live : Nat

namespace ListState

variable {μ : Type*}

/-- `linked_list_init`. -/
def init : ListState μ := ⟨none, none, fun _ => none, 0⟩

def next (s : ListState μ) (a : Nat) : Option Nat := (s.mem a).bind ListElement.next

def prev (s : ListState μ) (a : Nat) : Option Nat := (s.mem a).bind ListElement.prev

/-- What an element carries: the data, and whether it is to be deallocated. -/
def item (s : ListState μ) (a : Nat) : Option (μ × Bool) :=
  (s.mem a).map fun e => (e.data_ptr, e.dealloc_func)

/-- The link that leads forward to an element, `p_head` or the `next` of the
element before it, is set. -/
def linkNext (s : ListState μ) (before v : Option Nat) : Option (ListState μ) :=
  match before with
  | none => some { s with p_head := v }
  | some b => (s.mem b).map fun e =>
    { s with mem := update s.mem b (some { e with next := v }) }

/-- The link that leads back to an element, `p_tail` or the `prev` of the
element behind it, is set. -/
def linkPrev (s : ListState μ) (behind v : Option Nat) : Option (ListState μ) :=
  match behind with
  | none => some { s with p_tail := v }
  | some c => (s.mem c).map fun e =>
    { s with mem := update s.mem c (some { e with prev := v }) }

def free (s : ListState μ) (a : Nat) : ListState μ :=
  { s with mem := update s.mem a none, live := s.live - 1 }

/-- `linked_list_add` of data that is there, `elem` being what malloc
answers. -/
def add (s : ListState μ) (data : μ) (dealloc : Bool) (elem : Option Nat) :
    Option (ListState μ × LinkedListErr) :=
  match elem with
  | none => some (s, .FAILURE_GENERAL)
  | some elem =>
    let tmp := s.p_head
    let s := { s with
      p_head := some elem
      mem := update s.mem elem (some ⟨tmp, none, data, dealloc⟩)
      live := s.live + 1 }
    (s.linkPrev tmp (some elem)).map (·, .SUCCESS)

/-- `linked_list_remove`: the data is copied out before the element is
freed. -/
def remove (s : ListState μ) : Option (ListState μ × LinkedListErr × Option μ) :=
  match s.p_tail with
  | none => some (s, .UNAVAILABLE_RESOURCE, none)
  | some tmp =>
    (s.mem tmp).bind fun e =>
      ({ s with p_tail := e.prev }.linkNext e.prev none).map fun s : ListState μ =>
        (s.free tmp, .SUCCESS, some e.data_ptr)

def empty (s : ListState μ) : Bool := s.p_head.isNone

/-- The loop of `linked_list_flush`; it reports what it frees. -/
def flushLoop : Nat → ListState μ → Option (ListState μ × List (μ × Bool))
  | fuel, s =>
    match s.p_head, fuel with
    | none, _ => some ({ s with p_tail := none }, [])
    | some _, 0 => none
    | some head, fuel + 1 =>
      (s.mem head).bind fun e =>
        (flushLoop fuel { s.free head with p_head := e.next }).map fun done =>
          (done.1, (e.data_ptr, e.dealloc_func) :: done.2)

/-- `linked_list_flush`. -/
def flush (s : ListState μ) : Option (ListState μ × List (μ × Bool)) := s.flushLoop s.live

/-- The loop of `linked_list_search`, from `tmp` to the first match. -/
def searchLoop (s : ListState μ) (equal : μ → Bool) : Nat → Option Nat → Option (Option Nat)
  | _, none => some none
  | 0, some _ => none
  | fuel + 1, some tmp =>
    (s.mem tmp).bind fun e =>
      if equal e.data_ptr then some (some tmp) else searchLoop s equal fuel e.next

/-- The element cut out and freed. -/
def unlink (s : ListState μ) (tmp : Nat) : Option (ListState μ × ListElement μ) :=
  (s.mem tmp).bind fun e =>
    (s.linkNext e.prev e.next).bind fun s =>
      (s.linkPrev e.next e.prev).map fun s => (s.free tmp, e)

/-- `linked_list_search`: with the element found, if there is one.  It is
SUCCESS also when there is none. -/
def search (s : ListState μ) (equal : μ → Bool) (rm_if_found : Bool) :
    Option (ListState μ × LinkedListErr × Option (ListElement μ)) :=
  match s.p_tail with
  | none => some (s, .UNAVAILABLE_RESOURCE, none)
  | some _ =>
    (s.searchLoop equal s.live s.p_head).bind fun
      | none => some (s, .SUCCESS, none)
      | some tmp =>
        if rm_if_found then (s.unlink tmp).map fun cut => (cut.1, .SUCCESS, some cut.2)
        else (s.mem tmp).map fun e => (s, .SUCCESS, some e)

/-! ## The list in the memory -/

/-- Head, tail and both links are those of `l`, whose elements are just the
ones allocated. -/
structure Linked (s : ListState μ) (l : List Nat) : Prop where
  nodup : l.Nodup
  fwd : Seg s.next s.p_head l none
  bwd : Seg s.prev s.p_tail l.reverse none
  mem_iff : ∀ a, a ∈ l ↔ (s.mem a).isSome = true
  live : s.live = l.length

/-- What the elements of the list carry, from the head on. -/
def contents (s : ListState μ) (l : List Nat) : List (μ × Bool) := l.filterMap s.item

variable {s s' : ListState μ} {l : List Nat}

theorem linked_init : Linked (init : ListState μ) [] where
  nodup := nodup_nil
  fwd := rfl
  bwd := rfl
  mem_iff a := by simp [init]
  live := rfl

variable {a fuel : Nat}

theorem Linked.exists_mem (h : Linked s l) (ha : a ∈ l) : ∃ e, s.mem a = some e :=
  isSome_iff_exists.mp ((h.mem_iff a).mp ha)

theorem Linked.p_tail_eq (h : Linked s l) : s.p_tail = l.getLast? := by
  rw [h.bwd.head_eq, List.head?_reverse]

theorem contents_congr (h : ∀ a ∈ l, s'.item a = s.item a) : s'.contents l = s.contents l :=
  filterMap_congr h

/-! ## One link set -/

/-- The links, and nothing else, may have changed. -/
structure Relinked (s s' : ListState μ) : Prop where
  item : s'.item = s.item
  live : s'.live = s.live

theorem Relinked.isSome_mem (h : Relinked s s') (a : Nat) :
    (s'.mem a).isSome = (s.mem a).isSome := by
  have hitem := congrArg Option.isSome (congrFun h.item a)
  rwa [ListState.item, ListState.item, isSome_map, isSome_map] at hitem

theorem linkNext_spec (before v : Option Nat) (hb : ∀ b ∈ before, (s.mem b).isSome = true) :
    ∃ s', s.linkNext before v = some s' ∧ Relinked s s' ∧ s'.prev = s.prev ∧
      s'.p_tail = s.p_tail ∧ s'.p_head = (if before = none then v else s.p_head) ∧
      ∀ a, s'.next a = if before = some a then v else s.next a := by
  cases before with
  | none => exact ⟨_, rfl, ⟨rfl, rfl⟩, rfl, rfl, rfl, fun a => rfl⟩
  | some b =>
    obtain ⟨e, he⟩ := isSome_iff_exists.mp (hb b rfl)
    refine ⟨_, congrArg (Option.map _) he, ⟨?_, rfl⟩, ?_, rfl, rfl, fun a => ?_⟩
    · funext a
      by_cases hab : a = b
      · subst hab
        simp [item, he]
      · simp [item, hab]
    · funext a
      by_cases hab : a = b
      · subst hab
        simp [prev, he]
      · simp [prev, hab]
    · by_cases hab : a = b
      · subst hab
        simp [next]
      · simp [next, hab, Ne.symm hab]

theorem linkNext_p_tail (t before v : Option Nat) :
    { s with p_tail := t }.linkNext before v =
      (s.linkNext before v).map fun s' => { s' with p_tail := t } := by
  cases before with
  | none => rfl
  | some b =>
    unfold linkNext
    show (s.mem b).map _ = ((s.mem b).map _).map _
    rw [Option.map_map]
    rfl

theorem linkPrev_spec (behind v : Option Nat) (hc : ∀ c ∈ behind, (s.mem c).isSome = true) :
    ∃ s', s.linkPrev behind v = some s' ∧ Relinked s s' ∧ s'.next = s.next ∧
      s'.p_head = s.p_head ∧ s'.p_tail = (if behind = none then v else s.p_tail) ∧
      ∀ a, s'.prev a = if behind = some a then v else s.prev a := by
  cases behind with
  | none => exact ⟨_, rfl, ⟨rfl, rfl⟩, rfl, rfl, rfl, fun a => rfl⟩
  | some c =>
    obtain ⟨e, he⟩ := isSome_iff_exists.mp (hc c rfl)
    refine ⟨_, congrArg (Option.map _) he, ⟨?_, rfl⟩, ?_, rfl, rfl, fun a => ?_⟩
    · funext a
      by_cases hac : a = c
      · subst hac
        simp [item, he]
      · simp [item, hac]
    · funext a
      by_cases hac : a = c
      · subst hac
        simp [next, he]
      · simp [next, hac]
    · by_cases hac : a = c
      · subst hac
        simp [prev]
      · simp [prev, hac, Ne.symm hac]

/-! ## Adding -/

theorem Linked.add (h : Linked s l) {elem : Nat} (helem : s.mem elem = none) (data : μ)
    (dealloc : Bool) :
    ∃ s', s.add data dealloc (some elem) = some (s', .SUCCESS) ∧ Linked s' (elem :: l) ∧
      s'.contents (elem :: l) = (data, dealloc) :: s.contents l := by
  have hnot : elem ∉ l := by
    intro hmem
    have hsome := (h.mem_iff elem).mp hmem
    rw [helem] at hsome
    cases hsome
  let s₁ : ListState μ := { s with
    p_head := some elem
    mem := update s.mem elem (some ⟨s.p_head, none, data, dealloc⟩)
    live := s.live + 1 }
  have hmem₁ : ∀ a, a ≠ elem → s₁.mem a = s.mem a := fun a ha => update_of_ne ha _ _
  have hself : s₁.mem elem = some ⟨s.p_head, none, data, dealloc⟩ := update_self _ _ _
  obtain ⟨s', heq, hre, hnext, hhead, htail, hprev⟩ :=
    linkPrev_spec (s := s₁) s.p_head (some elem) fun c hc => by
      have hcl : c ∈ l := mem_of_mem_head? (h.fwd.head_eq ▸ hc)
      rw [hmem₁ c (ne_of_mem_of_not_mem hcl hnot)]
      exact (h.mem_iff c).mp hcl
  have hsome : ∀ a, (s'.mem a).isSome = true ↔ a = elem ∨ (s.mem a).isSome = true := by
    intro a
    rw [hre.isSome_mem]
    by_cases ha : a = elem
    · rw [ha, hself]
      exact ⟨fun _ => Or.inl rfl, fun _ => rfl⟩
    · rw [hmem₁ a ha]
      exact ⟨Or.inr, fun hor => hor.resolve_left ha⟩
  have hnextOld : ∀ a ∈ l, s'.next a = s.next a := by
    intro a ha
    rw [hnext, next, next, hmem₁ a (ne_of_mem_of_not_mem ha hnot)]
  have hprevOld : ∀ a, a ≠ elem → s₁.prev a = s.prev a := by
    intro a ha
    rw [prev, prev, hmem₁ a ha]
  refine ⟨s', congrArg (Option.map _) heq, ⟨nodup_cons.mpr ⟨hnot, h.nodup⟩, ?_, ?_, ?_, ?_⟩, ?_⟩
  · rw [hhead]
    refine ⟨rfl, ?_⟩
    have hnew : s'.next elem = s.p_head := by
      rw [hnext, next, hself]
      rfl
    rw [hnew]
    exact h.fwd.congr hnextOld
  · have hprevElem : s₁.prev elem = none := by
      rw [prev, hself]
      rfl
    cases l with
    | nil =>
      have hnone : s.p_head = none := h.fwd
      rw [htail, if_pos hnone]
      refine ⟨rfl, ?_⟩
      rw [hprev, hnone, if_neg (by simp), hprevElem]
      rfl
    | cons first rest =>
      have hfirst : s.p_head = some first := h.fwd.1
      have hbwd := h.bwd
      rw [reverse_cons] at hbwd
      have hnodup : (rest.reverse ++ [first, elem]).Nodup := by
        have hrev : (rest.reverse ++ [first, elem]) = (elem :: first :: rest).reverse := by simp
        rw [hrev]
        exact nodup_reverse.mpr (nodup_cons.mpr ⟨hnot, h.nodup⟩)
      have hseg := hbwd.concat hnodup
      rw [htail, hfirst, if_neg (by simp)]
      have hrev : (elem :: first :: rest).reverse = rest.reverse ++ [first, elem] := by simp
      rw [hrev]
      refine hseg.congr fun a _ => ?_
      rw [hprev, hfirst]
      by_cases hafirst : a = first
      · rw [hafirst, if_pos rfl, update_self]
      · rw [if_neg fun heq => hafirst (some.inj heq).symm, update_of_ne hafirst]
        by_cases haelem : a = elem
        · rw [haelem, hprevElem, update_self]
        · rw [hprevOld a haelem, update_of_ne haelem]
  · intro a
    rw [hsome, ← h.mem_iff, mem_cons]
  · rw [hre.live]
    exact congrArg Nat.succ h.live
  · have hitem : s'.item elem = some (data, dealloc) := by
      rw [hre.item, item, hself]
      rfl
    rw [contents, filterMap_cons, hitem]
    refine congrArg _ (filterMap_congr fun a ha => ?_)
    rw [hre.item, item, hmem₁ a (ne_of_mem_of_not_mem ha hnot)]
    rfl

/-! ## Cutting out -/

theorem Linked.unlink {pre post : List Nat} (h : Linked s (pre ++ a :: post)) {e : ListElement μ}
    (he : s.mem a = some e) :
    ∃ s', s.unlink a = some (s', e) ∧ Linked s' (pre ++ post) ∧
      ∀ b ∈ pre ++ post, s'.item b = s.item b := by
  have hnotmem : a ∉ pre ++ post := (nodup_cons.mp (nodup_middle.mp h.nodup)).1
  have hbwd := h.bwd
  have hrev : (pre ++ a :: post).reverse = post.reverse ++ a :: pre.reverse := by simp
  rw [hrev] at hbwd
  have hnext : e.next = post.head? := by
    rw [← h.fwd.next_eq, next, he]
    rfl
  have hprev : e.prev = pre.getLast? := by
    rw [← List.head?_reverse, ← hbwd.next_eq, prev, he]
    rfl
  have hmemPre : ∀ b ∈ pre.getLast?, (s.mem b).isSome = true := fun b hb =>
    (h.mem_iff b).mp (mem_append_left _ (mem_of_mem_getLast? hb))
  have hmemPost : ∀ c ∈ post.head?, (s.mem c).isSome = true := fun c hc =>
    (h.mem_iff c).mp (mem_append_right _ (mem_cons_of_mem _ (mem_of_mem_head? hc)))
  obtain ⟨s₁, heq₁, hre₁, hprev₁, htail₁, hhead₁, hnext₁⟩ :=
    linkNext_spec e.prev e.next (hprev ▸ hmemPre)
  obtain ⟨s₂, heq₂, hre₂, hnext₂, hhead₂, htail₂, hprev₂⟩ :=
    linkPrev_spec e.next e.prev fun c hc => (hre₁.isSome_mem c).trans (hmemPost c (hnext ▸ hc))
  have hfree : ∀ b, b ≠ a → (s₂.free a).mem b = s₂.mem b := fun b hb => update_of_ne hb _ _
  have hne : ∀ b ∈ pre ++ post, b ≠ a := fun b hb => ne_of_mem_of_not_mem hb hnotmem
  refine ⟨s₂.free a, ?_, ⟨?_, ?_, ?_, ?_, ?_⟩, ?_⟩
  · rw [ListState.unlink, he]
    show (s.linkNext e.prev e.next).bind _ = _
    rw [heq₁]
    show (s₁.linkPrev e.next e.prev).map _ = _
    rw [heq₂]
    rfl
  · exact (nodup_cons.mp (nodup_middle.mp h.nodup)).2
  · have hseg := h.fwd.unlink h.nodup
    have hhead : (s₂.free a).p_head = if pre = [] then s.next a else s.p_head := by
      have hnextA : s.next a = e.next := by rw [next, he, bind_some]
      show s₂.p_head = _
      rw [hhead₂, hhead₁, hprev, hnextA]
      simp only [List.getLast?_eq_none_iff]
    rw [hhead]
    refine hseg.congr fun b hb => ?_
    have hb' : (s₂.free a).next b = s₂.next b := by rw [next, hfree b (hne b hb), ← next]
    rw [hb', hnext₂, hnext₁, unlinked_apply, hprev, next, next, he, bind_some]
  · have hseg := hbwd.unlink (hrev ▸ nodup_reverse.mpr h.nodup)
    have htail : (s₂.free a).p_tail = if post.reverse = [] then s.prev a else s.p_tail := by
      have hprevA : s.prev a = e.prev := by rw [prev, he, bind_some]
      show s₂.p_tail = _
      rw [htail₂, htail₁, hnext, hprevA]
      simp only [List.head?_eq_none_iff, reverse_eq_nil_iff]
    rw [htail, reverse_append]
    refine hseg.congr fun b hb => ?_
    have hmem : b ∈ pre ++ post := by
      rw [← reverse_append] at hb
      exact mem_reverse.mp hb
    have hb' : (s₂.free a).prev b = s₂.prev b := by rw [prev, hfree b (hne b hmem), ← prev]
    rw [hb', hprev₂, hprev₁, unlinked_apply, List.getLast?_reverse, hnext, prev, prev, he,
      bind_some]
  · intro b
    by_cases hb : b = a
    · subst hb
      exact iff_of_false hnotmem (by simp [ListState.free])
    · rw [hfree b hb, hre₂.isSome_mem, hre₁.isSome_mem, ← h.mem_iff]
      simp [hb]
  · show s₂.live - 1 = _
    rw [hre₂.live, hre₁.live, h.live]
    simp
  · intro b hb
    rw [item, hfree b (hne b hb), ← item, hre₂.item, hre₁.item]

theorem Linked.remove {init : List Nat} (h : Linked s (init ++ [a])) :
    ∃ (s' : ListState μ) (e : ListElement μ), s.remove = some (s', .SUCCESS, some e.data_ptr) ∧
      Linked s' init ∧
      s.contents (init ++ [a]) = s'.contents init ++ [(e.data_ptr, e.dealloc_func)] := by
  obtain ⟨e, he⟩ := h.exists_mem (mem_append_right _ mem_cons_self)
  obtain ⟨s', hunlink, hlinked, hitem⟩ := h.unlink he
  have htail : s.p_tail = some a := by rw [h.p_tail_eq, List.getLast?_concat]
  have hnext : e.next = none := by
    have hnextA := h.fwd.next_eq
    rwa [next, he] at hnextA
  refine ⟨s', e, ?_, append_nil init ▸ hlinked, ?_⟩
  · rw [ListState.unlink, he] at hunlink
    change (s.linkNext e.prev e.next).bind _ = _ at hunlink
    obtain ⟨s₁, hs₁, hrest⟩ := bind_eq_some_iff.mp hunlink
    obtain ⟨s₂, hs₂, hfree⟩ := map_eq_some_iff.mp hrest
    rw [hnext] at hs₁ hs₂
    injection hs₂ with hs₂
    unfold ListState.remove
    rw [htail]
    show (s.mem a).bind _ = _
    rw [he]
    show (linkNext _ e.prev none).map _ = _
    rw [linkNext_p_tail, hs₁]
    show some (({ s₁ with p_tail := e.prev } : ListState μ).free a, _, _) = _
    rw [hs₂, (Prod.mk.inj hfree).1]
  · have hitemA : s.item a = some (e.data_ptr, e.dealloc_func) := by
      rw [item, he]
      rfl
    rw [contents, filterMap_append, filterMap_cons, hitemA]
    refine congrArg (· ++ _) (contents_congr fun b hb => ?_).symm
    exact hitem b (mem_append_left _ hb)

/-! ## The loops -/

theorem searchLoop_eq (h : Linked s l) (equal : μ → Bool) {m : List Nat} {p : Option Nat}
    (hseg : Seg s.next p m none) (hm : ∀ a ∈ m, a ∈ l) (hfuel : m.length ≤ fuel) :
    s.searchLoop equal fuel p = some (m.find? fun a => (s.mem a).any (equal ·.data_ptr)) := by
  induction m generalizing p fuel with
  | nil =>
    obtain rfl : p = none := hseg
    cases fuel <;> rfl
  | cons a m ih =>
    obtain ⟨rfl, hseg⟩ := hseg
    obtain ⟨e, he⟩ := h.exists_mem (hm a mem_cons_self)
    cases fuel with
    | zero => exact absurd hfuel (by simp)
    | succ fuel =>
      have hnext : e.next = s.next a := by rw [next, he, bind_some]
      have hrest := ih hseg (fun b hb => hm b (mem_cons_of_mem _ hb)) (Nat.le_of_succ_le_succ hfuel)
      show (s.mem a).bind _ = _
      rw [he, List.find?_cons]
      show (if equal e.data_ptr = true then _ else _) = _
      rw [he, any_some]
      cases equal e.data_ptr with
      | true => rfl
      | false =>
        rw [if_neg Bool.false_ne_true, hnext]
        exact hrest

theorem Linked.search (h : Linked s l) (equal : μ → Bool) (rm_if_found : Bool) :
    (∃ err, s.search equal rm_if_found = some (s, err, none) ∧
        ∀ a ∈ l, (s.mem a).any (equal ·.data_ptr) = false) ∨
      ∃ pre a post e s', l = pre ++ a :: post ∧ s.mem a = some e ∧ equal e.data_ptr = true ∧
        (∀ b ∈ pre, (s.mem b).any (equal ·.data_ptr) = false) ∧
        s.search equal rm_if_found = some (s', .SUCCESS, some e) ∧
        if rm_if_found then Linked s' (pre ++ post) ∧ ∀ b ∈ pre ++ post, s'.item b = s.item b
        else s' = s := by
  have hloop := searchLoop_eq h equal h.fwd (fun _ ha => ha) (Nat.le_of_eq h.live.symm)
  unfold ListState.search
  rw [h.p_tail_eq]
  cases hlast : l.getLast? with
  | none =>
    rw [List.getLast?_eq_none_iff.mp hlast]
    exact Or.inl ⟨.UNAVAILABLE_RESOURCE, rfl, fun _ ha => absurd ha not_mem_nil⟩
  | some last =>
    simp only [hloop, bind_some]
    cases hfind : l.find? fun a => (s.mem a).any (equal ·.data_ptr) with
    | none =>
      refine Or.inl ⟨.SUCCESS, rfl, fun a ha => ?_⟩
      exact Bool.eq_false_iff.mpr (List.find?_eq_none.mp hfind a ha)
    | some a =>
      obtain ⟨hmatch, pre, post, rfl, hpre⟩ := List.find?_eq_some_iff_append.mp hfind
      obtain ⟨e, he⟩ := h.exists_mem (mem_append_right _ mem_cons_self)
      obtain ⟨s', hunlink, hlinked, hitem⟩ := h.unlink he
      rw [he] at hmatch
      have hnone : ∀ b ∈ pre, (s.mem b).any (equal ·.data_ptr) = false := fun b hb => by
        simpa using hpre b hb
      cases rm_if_found with
      | true =>
        refine Or.inr ⟨pre, a, post, e, s', rfl, he, hmatch, hnone, ?_, hlinked, hitem⟩
        show (s.unlink a).map _ = _
        rw [hunlink]
        rfl
      | false =>
        refine Or.inr ⟨pre, a, post, e, s, rfl, he, hmatch, hnone, ?_, rfl⟩
        show (s.mem a).map _ = _
        rw [he]
        rfl

theorem flushLoop_eq (hseg : Seg s.next s.p_head l none) (hnodup : l.Nodup)
    (hmem : ∀ a, a ∈ l ↔ (s.mem a).isSome = true) (hlive : s.live = l.length)
    (hfuel : l.length ≤ fuel) :
    ∃ s', s.flushLoop fuel = some (s', s.contents l) ∧ Linked s' [] := by
  induction l generalizing s fuel with
  | nil =>
    have hhead : s.p_head = none := hseg
    refine ⟨{ s with p_tail := none }, ?_, ⟨nodup_nil, hseg, rfl, hmem, hlive⟩⟩
    unfold flushLoop
    rw [hhead]
    rfl
  | cons a l ih =>
    obtain ⟨hhead, hseg⟩ := hseg
    obtain ⟨ha, hnodup⟩ := nodup_cons.mp hnodup
    obtain ⟨e, he⟩ := isSome_iff_exists.mp ((hmem a).mp mem_cons_self)
    have hnext : s.next a = e.next := by rw [next, he, bind_some]
    let s₁ : ListState μ := { s.free a with p_head := e.next }
    have hmem₁ : ∀ b, b ≠ a → s₁.mem b = s.mem b := fun b hb => update_of_ne hb _ _
    have hself : s₁.mem a = none := update_self _ _ _
    cases fuel with
    | zero => exact absurd hfuel (by simp)
    | succ fuel =>
      have hrec : ∃ s', s₁.flushLoop fuel = some (s', s₁.contents l) ∧ Linked s' [] := by
        refine ih ?_ hnodup ?_ ?_ (Nat.le_of_succ_le_succ hfuel)
        · show Seg s₁.next e.next l none
          rw [← hnext]
          refine hseg.congr fun b hb => ?_
          rw [next, hmem₁ b (ne_of_mem_of_not_mem hb ha)]
          rfl
        · intro b
          by_cases hb : b = a
          · rw [hb, hself]
            exact iff_of_false ha (by simp)
          · rw [hmem₁ b hb, ← hmem, mem_cons]
            exact ⟨Or.inr, fun hor => hor.resolve_left hb⟩
        · show s.live - 1 = _
          rw [hlive]
          rfl
      obtain ⟨s', heq, hlinked⟩ := hrec
      have hitem : s.item a = some (e.data_ptr, e.dealloc_func) := by
        rw [item, he]
        rfl
      have hrest : s₁.contents l = s.contents l := contents_congr fun b hb => by
        rw [item, hmem₁ b (ne_of_mem_of_not_mem hb ha)]
        rfl
      refine ⟨s', ?_, hlinked⟩
      unfold flushLoop
      rw [hhead]
      show (s.mem a).bind _ = _
      rw [he]
      show (flushLoop fuel s₁).map _ = _
      rw [heq, map_some, hrest, contents, contents, filterMap_cons, hitem]

theorem Linked.flush (h : Linked s l) :
    ∃ s', s.flush = some (s', s.contents l) ∧ Linked s' [] :=
  flushLoop_eq h.fwd h.nodup h.mem_iff h.live (Nat.le_of_eq h.live.symm)

end ListState

end LocStack.Utils
