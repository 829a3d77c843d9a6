/-
# `LocStack.Base.Labelled` — whose the items of a list are

A list that items are appended to, and taken from by their place, is kept a
second time with a label on every item:

    label labelled c l    the items that `l` has beyond those labelled get `c`
    countOf c p l         how many items with the label `c` meet `p`

Labels survive what happens to the other items, so that `countOf c` changes
only by items of `c`.  `countsOnce_iff`: where every label counts once, an
item may be replaced by one of the same label, and by nothing else.
-/
import Mathlib.Data.List.Perm.Basic

namespace LocStack.Base

open List

variable {κ α : Type*}

/-- `l` is what is labelled and something more, which gets the label `c`. -/
def label (labelled : List (κ × α)) (c : κ) (l : List α) : List (κ × α) :=
  labelled ++ (l.drop labelled.length).map (Prod.mk c)

section Label

variable {labelled : List (κ × α)} {c : κ} {l new : List α}

theorem label_eq (h : l = labelled.map Prod.snd ++ new) :
    label labelled c l = labelled ++ new.map (Prod.mk c) := by
  have hlen : (labelled.map Prod.snd).length = labelled.length := length_map _
  unfold label
  rw [h, drop_left' hlen]

theorem map_snd_mk (c : κ) (l : List α) : (l.map (Prod.mk c)).map Prod.snd = l := by
  induction l with
  | nil => rfl
  | cons x l ih => exact congrArg (x :: ·) ih

theorem map_snd_label (new : List α) (h : l = labelled.map Prod.snd ++ new) :
    (label labelled c l).map Prod.snd = l := by
  rw [label_eq h, map_append, map_snd_mk, h]

end Label

section Count

variable [DecidableEq κ]

def countOf (c : κ) (p : α → Bool) (l : List (κ × α)) : Nat :=
  l.countP fun x => decide (x.1 = c) && p x.2

@[simp] theorem countOf_nil (c : κ) (p : α → Bool) : countOf c p [] = 0 := rfl

theorem countOf_append (c : κ) (p : α → Bool) (l l' : List (κ × α)) :
    countOf c p (l ++ l') = countOf c p l + countOf c p l' := countP_append

theorem countOf_map_mk (c c' : κ) (p : α → Bool) (l : List α) :
    countOf c p (l.map (Prod.mk c')) = if c' = c then l.countP p else 0 := by
  unfold countOf
  rw [countP_map]
  split
  · rename_i heq
    refine countP_congr fun x _ => ?_
    show (decide (c' = c) && p x) = true ↔ p x = true
    rw [decide_eq_true heq, Bool.true_and]
  · rename_i hne
    refine countP_eq_zero.mpr fun x _ h => ?_
    have hand : (decide (c' = c) && p x) = true := h
    rw [decide_eq_false hne, Bool.false_and] at hand
    cases hand

variable {l : List (κ × α)} {x : κ × α} {c : κ}

theorem countOf_eraseIdx {n : Nat} (h : l[n]? = some x) (c : κ) (p : α → Bool) :
    countOf c p l = countOf c p (l.eraseIdx n) + if x.1 = c ∧ p x.2 = true then 1 else 0 := by
  obtain ⟨hn, rfl⟩ := List.getElem?_eq_some_iff.mp h
  have hperm := (getElem_cons_eraseIdx_perm hn).countP_eq fun x => decide (x.1 = c) && p x.2
  unfold countOf
  rw [← hperm, countP_cons]
  simp only [Bool.and_eq_true, decide_eq_true_eq]

theorem countOf_eq_zero {p : α → Bool} (h : ∀ x ∈ l, x.1 ≠ c) : countOf c p l = 0 := by
  refine countP_eq_zero.mpr fun x hx hand => ?_
  have hc := (Bool.and_eq_true_iff.mp hand).1
  exact h x hx (of_decide_eq_true hc)

theorem countOf_pos (hx : x ∈ l) (hc : x.1 = c) : 0 < countOf c (fun _ => true) l :=
  countP_pos_iff.mpr ⟨x, hx, Bool.and_eq_true_iff.mpr ⟨decide_eq_true hc, rfl⟩⟩

end Count

/-! ## Commands

Where the labels are places in a list of commands, and `none` that of items
that belong to no command. -/

section Named

variable {β : Type*} {commands : List β} {R : α → β → Prop} {l l' : List (Option Nat × α)}

/-- A label is the place of a command that its item goes with. -/
def Named (commands : List β) (R : α → β → Prop) (l : List (Option Nat × α)) : Prop :=
  ∀ x ∈ l, ∀ c, x.1 = some c → ∃ command, commands[c]? = some command ∧ R x.2 command

theorem named_nil : Named commands R [] := forall_mem_nil _

theorem Named.append (h : Named commands R l) (h' : Named commands R l') :
    Named commands R (l ++ l') := forall_mem_append.mpr ⟨h, h'⟩

theorem Named.subset (h : Named commands R l) (hsub : ∀ x ∈ l', x ∈ l) : Named commands R l' :=
  fun x hx => h x (hsub x hx)

theorem Named.concat (h : Named commands R l) (command : β) :
    Named (commands ++ [command]) R l := by
  intro x hx c hc
  obtain ⟨command', hcommand, hR⟩ := h x hx c hc
  obtain ⟨hlt, -⟩ := List.getElem?_eq_some_iff.mp hcommand
  exact ⟨command', (List.getElem?_append_left hlt).trans hcommand, hR⟩

variable {new : List α}

theorem named_map_mk {who : Option Nat} {command : β}
    (h : ∀ c, who = some c → commands[c]? = some command ∧ ∀ x ∈ new, R x command) :
    Named commands R (new.map (Prod.mk who)) := by
  refine forall_mem_map.mpr fun x hx c hc => ?_
  obtain ⟨hcommand, hR⟩ := h c hc
  exact ⟨command, hcommand, hR x hx⟩

theorem named_none : Named commands R (new.map (Prod.mk none)) :=
  forall_mem_map.mpr fun _ _ c hc => absurd hc.symm (Option.some_ne_none c)

theorem Named.countOf_eq_zero (h : Named commands R l) {c : Nat} (hc : commands.length ≤ c)
    (p : α → Bool) : countOf (some c) p l = 0 := by
  refine Base.countOf_eq_zero fun x hx hlabel => ?_
  obtain ⟨command, hcommand, -⟩ := h x hx c hlabel
  rw [List.getElem?_eq_none hc] at hcommand
  cases hcommand

/-- Answers that are labelled with the commands they are about. -/
theorem Named.eachOnce_iff {g : α → β} (h : Named commands (fun x command => g x = command) l)
    {f : Nat → Nat} :
    (∀ c command, commands[c]? = some command →
      (∀ x ∈ l, x.1 = some c → g x.2 = command) ∧ f c = 1) ↔
        ∀ c, c < commands.length → f c = 1 := by
  constructor
  · intro hall c hc
    exact (hall c commands[c] (List.getElem?_eq_getElem hc)).2
  · intro hall c command hc
    obtain ⟨hlt, -⟩ := List.getElem?_eq_some_iff.mp hc
    refine ⟨fun x hx hlabel => ?_, hall c hlt⟩
    obtain ⟨command', hcommand, rfl⟩ := h x hx c hlabel
    exact Option.some.inj (hcommand.symm.trans hc)

end Named

/-- Of `N` commands each counts once.  If instead of `m` items of `who` there
are `n`, this is so again if `n` is `m`. -/
theorem countsOnce_iff {N m n : Nat} {who : Option Nat} {f f₀ f' : Nat → Nat}
    (honce : ∀ c, c < N → f c = 1) (hwho : ∀ c, who = some c → c < N)
    (hbefore : ∀ c, f c = f₀ c + if who = some c then m else 0)
    (hafter : ∀ c, f' c = f₀ c + if who = some c then n else 0) :
    (∀ c, c < N → f' c = 1) ↔ (who ≠ none → n = m) := by
  constructor
  · intro h hne
    obtain ⟨c, rfl⟩ := Option.ne_none_iff_exists'.mp hne
    have hb := hbefore c
    have ha := hafter c
    rw [if_pos rfl, honce c (hwho c rfl)] at hb
    rw [if_pos rfl, h c (hwho c rfl)] at ha
    omega
  · intro hsame c hc
    have hb := hbefore c
    rw [honce c hc] at hb
    rw [hafter c, hb]
    split
    · rename_i hlabel
      rw [hsame (hlabel ▸ Option.some_ne_none c)]
    · rfl

/-- A command that is given counts `n` times. -/
theorem countsOnce_concat_iff {N n : Nat} {f f' : Nat → Nat} (honce : ∀ c, c < N → f c = 1)
    (hfresh : f N = 0) (hafter : ∀ c, f' c = f c + if some N = some c then n else 0) :
    (∀ c, c < N + 1 → f' c = 1) ↔ n = 1 := by
  constructor
  · intro h
    have ha := hafter N
    rw [if_pos rfl, hfresh, h N (Nat.lt_succ_self N)] at ha
    omega
  · intro hone c hc
    rw [hafter c]
    by_cases hN : N = c
    · rw [if_pos (congrArg some hN), ← hN, hfresh, hone]
    · rw [if_neg fun h => hN (Option.some.inj h)]
      exact honce c (by omega)

end LocStack.Base
