/-
# `LocStack.LocApi.BatchedOrder` — the order of the routine batches

The modem has the newest location first, the report has it last.  One that is
added while the batch is read comes late, between older ones.

    storeRoutine   the cell of the `k`th location is the `k`th from the end
    putInOrder     the last cell that is newer than the next one goes to the end

It is looked for only where one more location has come than there are to read.
A cell from 2^31 on may be taken for a negative one, and is left as it is.

`reads_right_iff`: both kinds of batches are right if and only if no more
locations come than there is room for, and in a routine batch a late one comes
before all others or on top.
-/
import LocStack.LocApi.BatchedLocations
import Mathlib.Algebra.Ring.Int.Defs

namespace LocStack.LocApi.BatchedLocations

open Base List Function Option

variable {F : Type} {n : ℕ} [Zero F]

/-! ## Routine batches -/

/-- The cell that is counted to for the `k`th location is in the buffer. -/
def Placed (total : UInt64) (k : ℕ) : Prop :=
  total - .ofNat k ≤ total ∧ intNonneg (total - .ofNat k)
  deriving Decidable

variable {total : UInt64} {f : ℕ → Location F} {i : ℕ} {l l' before after : List (Location F)}
  {late : Location F}

theorem placed_of_le {k : ℕ} (hsmall : total.toNat < 2 ^ 31) (hk : k ≤ total.toNat) :
    Placed total k := by
  have hindex := toNat_sub_ofNat hk
  refine ⟨UInt64.le_iff_toNat_le.mpr (by omega), ?_⟩
  unfold intNonneg
  rw [hindex]
  omega

/-- The buffer of the routine batches has what came from its end on, as far
as there is room and the cell is not taken for a negative one. -/
structure InRoutine (total : UInt64) (buffer : Cells n (Location F)) (stored : ℕ)
    (came : List (Location F)) : Prop where
  le : stored ≤ came.length
  placed : stored = came.length → ∀ k < came.length, Placed total k
  all : total.toNat < 2 ^ 31 → came.length ≤ total.toNat + 1 → stored = came.length
  cells : ∃ f, buffer = .ofFun f ∧
    (came.length ≤ total.toNat + 1 → ∀ k l, came[k]? = some l → Placed total k →
      f (total.toNat - k) = l) ∧
    ∀ j, j + came.length ≤ total.toNat → f j = .zero

omit [Zero F] in
theorem storeRoutine_eq (total : UInt64) (s : Reading n F) (i : ℕ) (l : Location F) :
    storeRoutine total s i l = s.store (if Placed total (s.entriesGotInTotal + i) then
        some (total - .ofNat (s.entriesGotInTotal + i)).toNat else none) l := by
  have hindex : total - .ofNat s.entriesGotInTotal - .ofNat i =
      total - .ofNat (s.entriesGotInTotal + i) := by
    rw [UInt64.ofNat_add]
    grind
  unfold storeRoutine
  rw [hindex]
  rfl

theorem stores_storeRoutine (total : UInt64) :
    Stores (storeRoutine total : Reading n F → _) (InRoutine total) := by
  constructor
  · intro s i l s' hstore
    exact Reading.store_frame hstore
  · rintro s i l s' came hstore hlength ⟨hle, hplaced, hall, f, hbuffer, hf, hzero⟩
    rw [storeRoutine_eq, ← hlength] at hstore
    have hconcat : (came ++ [l]).length = came.length + 1 := length_append
    by_cases hroom : Placed total came.length
    · rw [if_pos hroom] at hstore
      obtain ⟨hbuffer', hstored'⟩ := Reading.of_store_some hstore hbuffer
      refine ⟨by omega, fun heq k hk => ?_, fun hsmall hmany => ?_, _, hbuffer',
        fun hmany k l' hl' hk => ?_, fun j hj => ?_⟩
      · rcases eq_or_ne k came.length with rfl | hne
        · exact hroom
        · exact hplaced (by omega) k (by omega)
      · have heq := hall hsmall (by omega)
        omega
      · have hindex : (total - .ofNat came.length).toNat = total.toNat - came.length :=
          toNat_sub_ofNat (by omega)
        rw [hindex]
        rcases eq_or_ne k came.length with rfl | hne
        · rw [List.getElem?_concat_length] at hl'
          rw [update_self, some.inj hl']
        · have hl := getElem?_of_concat hl' hne
          have hlt := (List.getElem?_eq_some_iff.mp hl).1
          rw [update_of_ne (by omega)]
          exact hf (by omega) k l' hl hk
      · have hindex : (total - .ofNat came.length).toNat = total.toNat - came.length :=
          toNat_sub_ofNat (by omega)
        rw [hindex, update_of_ne (by omega)]
        exact hzero j (by omega)
    · rw [if_neg hroom] at hstore
      cases hstore
      refine ⟨by omega, fun heq => by omega, fun hsmall hmany => ?_, f, hbuffer,
        fun hmany k l' hl' hk => ?_, fun j hj => hzero j (by omega)⟩
      · exact absurd (placed_of_le hsmall (by omega)) hroom
      · have hne : k ≠ came.length := fun heq => hroom (heq ▸ hk)
        exact hf (by omega) k l' (getElem?_of_concat hl' hne) hk

omit [Zero F] in
theorem isSome_storeRoutine (hn : total.toNat < n) (s : Reading n F) (i : ℕ) (l : Location F) :
    (storeRoutine total s i l).isSome := by
  refine s.isSome_store l fun index hindex => ?_
  split at hindex
  · next hplaced =>
      cases hindex
      exact (UInt64.le_iff_toNat_le.mp hplaced.1).trans_lt hn
  · cases hindex

/-! ## The location that is out of order -/

omit [Zero F] in
theorem findOutOfOrder_eq (hi : i ≤ n) :
    ∃ r, findOutOfOrder (.ofFun f : Cells n (Location F)) i (f i).timestamp = some r ∧
      (∀ j ∈ r, j < i ∧ (f (j + 1)).timestamp < (f j).timestamp) ∧
      (r = none → ∀ j < i, (f j).timestamp ≤ (f (j + 1)).timestamp) := by
  induction i with
  | zero => exact ⟨none, rfl, (fun j hj => nomatch hj), fun _ j hj => absurd hj j.not_lt_zero⟩
  | succ i ih =>
    rw [findOutOfOrder, Cells.read_ofFun hi]
    by_cases hlt : (f (i + 1)).timestamp < (f i).timestamp
    · refine ⟨some i, if_pos hlt, fun j hj => ?_, fun h => by cases h⟩
      cases hj
      exact ⟨i.lt_succ_self, hlt⟩
    · obtain ⟨r, hr, hsome, hnone⟩ := ih (by omega)
      refine ⟨r, (if_neg hlt).trans hr, fun j hj => ?_, fun h j hj => ?_⟩
      · exact ⟨(hsome j hj).1.trans i.lt_succ_self, (hsome j hj).2⟩
      · rcases Nat.lt_succ_iff_lt_or_eq.mp hj with hj | rfl
        · exact hnone h j hj
        · exact UInt64.not_lt.mp hlt

omit [Zero F] in
theorem moveToEnd_eq {total : ℕ} (hi : i ≤ total) (hn : total < n) :
    moveToEnd (.ofFun f : Cells n (Location F)) i total = some (.ofFun fun j =>
        if j = total then f i else if i ≤ j ∧ j < total then f (j + 1) else f j) := by
  have hloop : ∀ count ≤ total - i,
      forTo count (fun p k => do p.write (i + k) (← p.read (i + k + 1)))
        (.ofFun f : Cells n (Location F)) =
        some (.ofFun fun j => if i ≤ j ∧ j < i + count then f (j + 1) else f j) := by
    intro count hcount
    induction count with
    | zero =>
      refine congrArg some (congrArg Cells.ofFun (funext fun j => ?_))
      exact (if_neg (by omega)).symm
    | succ count ih =>
      rw [forTo_succ, ih (by omega), bind_some, Cells.read_ofFun (by omega)]
      refine (Cells.write_ofFun (by omega) _).trans ?_
      refine congrArg some (congrArg Cells.ofFun (funext fun j => ?_))
      rw [if_neg (by omega)]
      rcases eq_or_ne j (i + count) with rfl | hne
      · rw [update_self, if_pos (by omega)]
      · have hiff : i ≤ j ∧ j < i + count ↔ i ≤ j ∧ j < i + (count + 1) := by omega
        rw [update_of_ne hne]
        simp only [hiff]
  unfold moveToEnd
  rw [Cells.read_ofFun (by omega)]
  refine (congrArg (Option.bind · _) (hloop _ le_rfl)).trans ?_
  refine (Cells.write_ofFun hn _).trans ?_
  refine congrArg some (congrArg Cells.ofFun (funext fun j => ?_))
  rcases eq_or_ne j total with rfl | hne
  · rw [update_self, if_pos rfl]
  · rw [update_of_ne hne, if_neg hne, Nat.add_sub_cancel' hi]

/-- What comes of putting `l` in order: `l` itself if no location is newer
than the next one, else one that is has gone to the end. -/
def PutInOrder (l l' : List (Location F)) : Prop :=
  (l' = l ∧ ∀ (i : ℕ) (x y : Location F), l[i]? = some x → l[i + 1]? = some y →
      x.timestamp ≤ y.timestamp) ∨
    ∃ (i : ℕ) (x y : Location F), l[i]? = some x ∧ l[i + 1]? = some y ∧
      y.timestamp < x.timestamp ∧ l' = l.eraseIdx i ++ [x]

omit [Zero F] in
theorem putInOrder_eq (hpos : 0 < total.toNat) (hsmall : total.toNat < 2 ^ 31)
    (hn : total.toNat < n) (hlength : l.length = total.toNat + 1)
    (hf : ∀ i < l.length, l[i]? = some (f i)) :
    ∃ g l', putInOrder (.ofFun f : Cells n (Location F)) total = some (.ofFun g) ∧
      PutInOrder l l' ∧ l'.length = l.length ∧ ∀ i x, l'[i]? = some x → g i = x := by
  have hstart : (total - 1).toNat % 2 ^ 32 = total.toNat - 1 := by
    have hone : (total - .ofNat 1).toNat = total.toNat - 1 := toNat_sub_ofNat hpos
    change (total - .ofNat 1).toNat % 2 ^ 32 = _
    omega
  have hcount : (if total.toNat - 1 < 2 ^ 31 then total.toNat - 1 + 1 else 0) = total.toNat := by
    rw [if_pos (by omega)]
    omega
  obtain ⟨r, hr, hsome, hnone⟩ := findOutOfOrder_eq (f := f) hn.le
  have hcall : putInOrder (.ofFun f : Cells n (Location F)) total =
      r.elim (some (.ofFun f)) fun i => moveToEnd (.ofFun f) i total.toNat := by
    unfold putInOrder
    rw [Cells.read_ofFun hn]
    show Option.bind (findOutOfOrder _ _ _) _ = _
    rw [hstart, hcount, hr]
    cases r with
    | none => rfl
    | some i => rfl
  rw [hcall]
  cases r with
  | none =>
    refine ⟨f, l, rfl, Or.inl ⟨rfl, fun i x y hx hy => ?_⟩, rfl, fun i x hx => ?_⟩
    · have hi := (List.getElem?_eq_some_iff.mp hy).1
      rw [hf i (by omega)] at hx
      rw [hf (i + 1) hi] at hy
      rw [← some.inj hx, ← some.inj hy]
      exact hnone rfl i (by omega)
    · have hi := (List.getElem?_eq_some_iff.mp hx).1
      exact some.inj ((hf i hi).symm.trans hx)
  | some i =>
    obtain ⟨hi, hlt⟩ := hsome i rfl
    refine ⟨_, l.eraseIdx i ++ [f i], moveToEnd_eq hi.le hn,
      Or.inr ⟨i, f i, f (i + 1), hf i (by omega), hf (i + 1) (by omega), hlt, rfl⟩, ?_, ?_⟩
    · rw [length_append, length_singleton, length_eraseIdx_of_lt (by omega)]
      omega
    · intro j x hx
      have herase : (l.eraseIdx i).length = total.toNat := by
        rw [length_eraseIdx_of_lt (by omega)]
        omega
      rcases eq_or_ne j total.toNat with rfl | hne
      · rw [← herase, List.getElem?_concat_length] at hx
        rw [if_pos rfl]
        exact some.inj hx
      · have hx' := getElem?_of_concat hx (herase ▸ hne)
        have hj := (List.getElem?_eq_some_iff.mp hx').1
        rw [List.getElem?_eraseIdx] at hx'
        rw [if_neg hne]
        split at hx'
        · rw [if_neg (by omega)]
          exact some.inj ((hf j (by omega)).symm.trans hx')
        · rw [if_pos (by omega)]
          exact some.inj ((hf (j + 1) (by omega)).symm.trans hx')

omit [Zero F] in
theorem PutInOrder.perm (h : PutInOrder l l') : l'.Perm l := by
  rcases h with ⟨rfl, -⟩ | ⟨i, x, y, hx, -, -, rfl⟩
  · exact List.Perm.refl _
  · obtain ⟨hi, rfl⟩ := List.getElem?_eq_some_iff.mp hx
    exact (perm_append_singleton _ _).trans (getElem_cons_eraseIdx_perm hi)

omit [Zero F] in
theorem eq_length_of_descent {x y : Location F} (hsorted : Ascending (before ++ after))
    (hlate : ∀ x ∈ before ++ after, x.timestamp ≤ late.timestamp)
    (hx : (before ++ late :: after)[i]? = some x) (hy : (before ++ late :: after)[i + 1]? = some y)
    (hlt : y.timestamp < x.timestamp) : i = before.length := by
  obtain ⟨hbefore, hafter, -⟩ := pairwise_append.mp hsorted
  rcases lt_trichotomy i before.length with hi | hi | hi
  · rw [List.getElem?_append_left hi] at hx
    obtain ⟨_, rfl⟩ := List.getElem?_eq_some_iff.mp hx
    rcases Nat.lt_or_ge (i + 1) before.length with hi' | hi'
    · rw [List.getElem?_append_left hi'] at hy
      obtain ⟨_, rfl⟩ := List.getElem?_eq_some_iff.mp hy
      have hle := pairwise_iff_getElem.mp hbefore i (i + 1) hi hi' i.lt_succ_self
      exact absurd hlt (UInt64.not_lt.mpr hle)
    · have heq : i + 1 = before.length := by omega
      rw [heq, List.getElem?_append_right le_rfl, Nat.sub_self, List.getElem?_cons_zero] at hy
      cases hy
      have hle := hlate _ (mem_append_left after (getElem_mem hi))
      exact absurd hlt (UInt64.not_lt.mpr hle)
  · exact hi
  · obtain ⟨k, rfl⟩ : ∃ k, i = before.length + (k + 1) := ⟨i - before.length - 1, by omega⟩
    rw [List.getElem?_append_right (by omega), Nat.add_sub_cancel_left,
      List.getElem?_cons_succ] at hx
    rw [List.getElem?_append_right (by omega), Nat.add_assoc, Nat.add_sub_cancel_left,
      List.getElem?_cons_succ] at hy
    obtain ⟨hk, rfl⟩ := List.getElem?_eq_some_iff.mp hx
    obtain ⟨hk', rfl⟩ := List.getElem?_eq_some_iff.mp hy
    have hle := pairwise_iff_getElem.mp hafter k (k + 1) hk hk' k.lt_succ_self
    exact absurd hlt (UInt64.not_lt.mpr hle)

omit [Zero F] in
theorem ascending_reverse_iff : Ascending l.reverse ↔ NewestFirst l :=
  pairwise_reverse

omit [Zero F] in
theorem ascending_concat (hsorted : Ascending (before ++ after))
    (hlate : ∀ x ∈ before ++ after, x.timestamp ≤ late.timestamp) :
    Ascending (before ++ after ++ [late]) := by
  refine pairwise_append.mpr ⟨hsorted, pairwise_singleton _ _, fun x hx y hy => ?_⟩
  rw [mem_singleton.mp hy]
  exact hlate x hx

omit [Zero F] in
theorem ascending_of_adjacent
    (h : ∀ (i : ℕ) (x y : Location F), l[i]? = some x → l[i + 1]? = some y →
      x.timestamp ≤ y.timestamp) : Ascending l := by
  let R : Location F → Location F → Prop := fun a b => a.timestamp ≤ b.timestamp
  have : Trans R R R := ⟨UInt64.le_trans⟩
  have hchain : List.IsChain R l := isChain_iff_getElem.mpr fun i hi =>
    h i _ _ (List.getElem?_eq_getElem (by omega)) (List.getElem?_eq_getElem hi)
  exact isChain_iff_pairwise.mp hchain

omit [Zero F] in
theorem PutInOrder.ascending {came : List (Location F)} (h : PutInOrder came.reverse l')
    (hmodem : NewestFirstButLate came) : Ascending l' := by
  rcases h with ⟨rfl, hadjacent⟩ | ⟨i, x, y, hx, hy, hlt, rfl⟩
  · exact ascending_of_adjacent hadjacent
  · obtain ⟨before, after, late, rfl, hsorted, hlate⟩ := hmodem
    have hsorted' := ascending_reverse_iff.mpr hsorted
    rw [reverse_append] at hsorted'
    cases late with
    | none =>
      have hreverse : (before ++ (none : Option (Location F)).toList ++ after).reverse =
          after.reverse ++ before.reverse := by simp
      rw [hreverse] at hx hy
      obtain ⟨hi, rfl⟩ := List.getElem?_eq_some_iff.mp hx
      obtain ⟨hi', rfl⟩ := List.getElem?_eq_some_iff.mp hy
      have hle := pairwise_iff_getElem.mp hsorted' i (i + 1) hi hi' i.lt_succ_self
      exact absurd hlt (UInt64.not_lt.mpr hle)
    | some late =>
      have hreverse : (before ++ (some late).toList ++ after).reverse =
          after.reverse ++ late :: before.reverse := by simp
      rw [hreverse] at hx hy ⊢
      have hlate' : ∀ x ∈ after.reverse ++ before.reverse, x.timestamp ≤ late.timestamp := by
        intro x hx
        refine hlate late rfl x ?_
        simpa [or_comm] using hx
      have hi := eq_length_of_descent hsorted' hlate' hx hy hlt
      subst hi
      rw [List.getElem?_append_right le_rfl, Nat.sub_self, List.getElem?_cons_zero] at hx
      cases hx
      rw [eraseIdx_append_of_length_le le_rfl, Nat.sub_self, eraseIdx_cons_zero]
      exact ascending_concat hsorted' hlate'

/-! ## The report of a routine batch -/

section Report

variable {total : UInt64} {s : Reading n F} {came l : List (Location F)} {f : ℕ → Location F}

omit [Zero F] in
theorem length_reportRoutine (h : reportRoutine total s = some l) :
    l.length = s.entriesGotInTotal := by
  unfold reportRoutine at h
  split at h
  · exact length_reportLocations h
  · split at h
    · obtain ⟨p, -, hreport⟩ := bind_eq_some_iff.mp h
      exact length_reportLocations hreport
    · exact length_reportLocations h

omit [Zero F] in
theorem getElem?_reverse_of {x : Location F} (h : came.reverse[i]? = some x) :
    i < came.length ∧ came[came.length - 1 - i]? = some x := by
  have hi := (List.getElem?_eq_some_iff.mp h).1
  rw [length_reverse] at hi
  rw [List.getElem?_reverse hi] at h
  exact ⟨hi, h⟩

omit [Zero F] in
theorem reportRoutine_of_le (hsmall : total.toNat < 2 ^ 31) (hn : total.toNat < n)
    (hgot : s.entriesGotInTotal = came.length) (hle : came.length ≤ total.toNat)
    (hbuffer : s.pLocationsFromModem = .ofFun f)
    (hf : ∀ k x, came[k]? = some x → f (total.toNat - k) = x) :
    reportRoutine total s = some came.reverse := by
  have hreport : reportLocations (.ofFun f : Cells n (Location F))
      (1 + total.toNat - came.length) came.length = some came.reverse := by
    have hlength : came.reverse.length = came.length := length_reverse
    rw [← hlength]
    refine reportLocations_eq (by rw [hlength]; omega) fun i x hx => ?_
    obtain ⟨hi, hx'⟩ := getElem?_reverse_of hx
    rw [length_reverse, ← hf _ x hx']
    exact congrArg f (by omega)
  unfold reportRoutine
  rw [hgot, hbuffer]
  rcases Nat.lt_or_eq_of_le hle with hlt | heq
  · rw [if_pos hlt, Nat.mod_eq_of_lt (by omega)]
    exact hreport
  · rw [if_neg (by omega), if_neg (by omega)]
    have hone : 1 + total.toNat - came.length = 1 := by omega
    rwa [hone] at hreport

omit [Zero F] in
theorem reportRoutine_of_more (hpos : 0 < total.toNat) (hsmall : total.toNat < 2 ^ 31)
    (hn : total.toNat < n) (hgot : s.entriesGotInTotal = came.length)
    (hmore : came.length = total.toNat + 1) (hbuffer : s.pLocationsFromModem = .ofFun f)
    (hf : ∀ k x, came[k]? = some x → f (total.toNat - k) = x) :
    ∃ l, reportRoutine total s = some l ∧ PutInOrder came.reverse l := by
  have hf' : ∀ i < came.reverse.length, came.reverse[i]? = some (f i) := by
    intro i hi
    have hx := List.getElem?_eq_getElem hi
    obtain ⟨hi', hx'⟩ := getElem?_reverse_of hx
    have hfi := hf _ _ hx'
    rw [hx, ← hfi]
    exact congrArg (some <| f ·) (by omega)
  obtain ⟨g, l, hput, horder, hlength, hg⟩ := putInOrder_eq (n := n) hpos hsmall hn
    (by rw [length_reverse, hmore]) hf'
  refine ⟨l, ?_, horder⟩
  unfold reportRoutine
  rw [hgot, hbuffer, if_neg (by omega), if_pos (by omega), hput]
  rw [length_reverse] at hlength
  show reportLocations (.ofFun g : Cells n (Location F)) 0 came.length = some l
  rw [← hlength]
  refine reportLocations_eq (by omega) fun i x hx => ?_
  rw [Nat.zero_add]
  exact hg i x hx

end Report

theorem inRoutine_new (total : UInt64) :
    InRoutine total (Reading.new : Reading n F).pLocationsFromModem 0 [] :=
  ⟨le_rfl, fun _ k hk => absurd hk k.not_lt_zero, fun _ _ => rfl, fun _ => .zero, rfl,
    (fun _ _ _ hl => nomatch hl), fun _ _ => rfl⟩

theorem size_of_mem_entries {a : Answer F} {l : Location F} (h : l ∈ entries a) :
    l.size = sizeofLocation := by
  cases a with
  | none => cases h
  | some ind =>
    by_cases hvalid : ind.numberOfEntries_valid ∧ ind.batchedReportList_valid
    · rw [entries_of_valid hvalid] at h
      obtain ⟨i, rfl⟩ := mem_ofFn.mp h
      rfl
    · have hnone : entries (some ind) = [] := if_neg hvalid
      rw [hnone] at h
      cases h

theorem InRoutine.length_le {total : UInt64} {p : Cells n (Location F)} {stored : ℕ}
    {came : List (Location F)} (h : InRoutine total p stored came) (hall : stored = came.length) :
    came.length ≤ total.toNat + 1 := by
  by_contra hmore
  have hfirst := (h.placed hall 0 (by omega)).2
  have hlast := UInt64.le_iff_toNat_le.mp (h.placed hall (total.toNat + 1) (by omega)).1
  rw [toNat_sub_ofNat_succ] at hlast
  unfold intNonneg at hfirst
  rw [toNat_sub_ofNat (Nat.zero_le _)] at hfirst
  have htotal := total.toNat_lt
  omega

/-- With 2^31 locations or more to read, a report has a cell that nothing was
stored in, or not as many as were stored. -/
theorem total_lt_of_report {total : UInt64} {s : Reading n F} {came l : List (Location F)}
    (h : InRoutine total s.pLocationsFromModem s.stored came) (hall : s.stored = came.length)
    (hgot : s.entriesGotInTotal = came.length) (hne : came ≠ [])
    (hsize : ∀ x ∈ l, x.size = sizeofLocation) (hreport : reportRoutine total s = some l) :
    total.toNat < 2 ^ 31 := by
  by_contra hlarge
  have hpos := length_pos_iff.mpr hne
  have hfirst := (h.placed hall 0 hpos).2
  unfold intNonneg at hfirst
  rw [toNat_sub_ofNat (Nat.zero_le _)] at hfirst
  have hlength := h.length_le hall
  -- one of the cells from 2^32 - 1 downwards would be taken for negative
  have hfew : came.length ≤ total.toNat - (2 ^ 32 - 1) := by
    by_contra hmany
    have hcell := (h.placed hall (total.toNat - (2 ^ 32 - 1)) (by omega)).2
    unfold intNonneg at hcell
    rw [toNat_sub_ofNat (by omega)] at hcell
    omega
  obtain ⟨f, hbuffer, -, hblank⟩ := h.cells
  unfold reportRoutine at hreport
  rw [if_pos (by omega), hgot, hbuffer] at hreport
  have hhead := (Cells.of_gather hreport).2 0 hpos
  have hlt := Nat.mod_lt (1 + total.toNat - came.length) (y := 2 ^ 32) (by omega)
  generalize (1 + total.toNat - came.length) % 2 ^ 32 = offset at hhead hlt
  have hlen : l.length = came.length := (Cells.of_gather hreport).1
  have hread : (Cells.ofFun f : Cells n (Location F)).read (offset + 0) = some .zero := by
    by_cases hin : offset + 0 < n
    · rw [Cells.read_ofFun hin, hblank _ (by omega)]
    · have hnone : (Cells.ofFun f : Cells n (Location F)).read (offset + 0) = none := dif_neg hin
      rw [hnone] at hhead
      have hin' := List.getElem?_eq_none_iff.mp hhead
      omega
  rw [hread] at hhead
  have hzero : (0 : UInt32) = sizeofLocation := hsize _ (mem_of_getElem? hhead)
  exact absurd hzero (by decide)

theorem toNat_lt_succ {total : UInt64} (hsmall : total.toNat < 2 ^ 31) :
    total.toNat < (total + 1).toNat := by
  rw [UInt64.toNat_add]
  show total.toNat < (total.toNat + 1) % 2 ^ 64
  omega

/-- Routine batches are right if and only if nothing comes, or what comes fits
in the buffer and a late location comes before all others or on top. -/
theorem routine_right_iff (mBatchSize count : UInt64) (answers : List (Answer F)) :
    RoutineRight answers (getBatchedLocationsSync mBatchSize count answers) ↔
      RoutineFits (min mBatchSize count).toNat answers := by
  unfold getBatchedLocationsSync
  generalize min mBatchSize count = total
  by_cases hzero : total = 0
  · subst hzero
    exact iff_of_true ⟨_, if_pos rfl, rfl, nil_subperm, fun _ => List.Pairwise.nil⟩
      fun h => absurd rfl h
  · have hne : total.toNat ≠ 0 := fun h => hzero (UInt64.toNat_inj.mp h)
    rw [if_neg hzero]
    constructor
    · rintro ⟨o, hcall, hcount, hsub, horder⟩ - hsome
      obtain ⟨s, hs, hrest⟩ := bind_eq_some_iff.mp hcall
      obtain ⟨reported, hreported, ⟨⟩⟩ := bind_eq_some_iff.mp hrest
      obtain ⟨came, hcame, hgot, hInv, hdelivered⟩ :=
        (stores_storeRoutine total).fromNew hzero hs (inRoutine_new total)
      have hall : s.stored = came.length :=
        hcount.symm.trans ((length_reportRoutine hreported).trans hgot)
      have heq : came = delivered total.toNat 0 answers := by
        refine hdelivered.resolve_right fun hmore => ?_
        exact absurd (hInv.length_le hall) (Nat.not_le.mpr hmore.1)
      rw [← heq] at hsome ⊢
      have hsize : ∀ x ∈ reported, x.size = sizeofLocation := by
        intro x hx
        obtain ⟨a, -, ha⟩ := mem_flatMap.mp (hsub.subset hx)
        exact size_of_mem_entries ha
      have hsmall := total_lt_of_report hInv hall hgot hsome hsize hreported
      refine ⟨hsmall, hInv.length_le hall, fun hmodem => ?_⟩
      rw [or_iff_not_imp_left]
      intro hnot
      obtain ⟨f, hbuffer, hf, -⟩ := hInv.cells
      have hle : came.length ≤ total.toNat := by
        have hle := hInv.length_le hall
        omega
      have hreverse := reportRoutine_of_le hsmall (toNat_lt_succ hsmall) hgot hle hbuffer
        fun k x hx => hf (hInv.length_le hall) k x hx
          (placed_of_le hsmall ((List.getElem?_eq_some_iff.mp hx).1.le.trans hle))
      rw [hreverse] at hreported
      cases hreported
      refine ascending_reverse_iff.mp (horder ?_)
      unfold Outcome.received
      rw [hcame]
      exact hmodem
    · intro hfits
      have hrun : ((readAll (storeRoutine total) total answers
          (.new : Reading (total + 1).toNat F))).isSome := by
        by_cases hnone : delivered total.toNat 0 answers = []
        · exact isSome_readAll_of_none hnone _
        · have hn := toNat_lt_succ (hfits hne hnone).1
          exact isSome_readAll (isSome_storeRoutine hn) total answers _
      obtain ⟨s, hs⟩ := isSome_iff_exists.mp hrun
      obtain ⟨came, hcame, hgot, hInv, hdelivered⟩ :=
        (stores_storeRoutine total).fromNew hzero hs (inRoutine_new total)
      have heq : came = delivered total.toNat 0 answers := by
        refine hdelivered.resolve_right fun hmore => ?_
        by_cases hnone : delivered total.toNat 0 answers = []
        · rw [hnone] at hmore
          exact absurd hmore.2 (Nat.not_lt_zero _)
        · exact absurd hmore.2 (Nat.not_lt.mpr (hfits hne hnone).2.1)
      have hreport : ∃ l, reportRoutine total s = some l ∧ l.length = s.stored ∧ l.Perm came ∧
          (NewestFirstButLate came → Ascending l) := by
        by_cases hnone : came = []
        · subst hnone
          have hstored : s.stored = 0 := Nat.le_zero.mp hInv.le
          refine ⟨[], ?_, hstored.symm, List.Perm.refl _, fun _ => List.Pairwise.nil⟩
          unfold reportRoutine
          rw [hgot]
          exact if_pos (Nat.pos_of_ne_zero hne)
        · obtain ⟨hsmall, hle, horder⟩ := hfits hne (heq ▸ hnone)
          rw [← heq] at hle horder
          obtain ⟨f, hbuffer, hf, -⟩ := hInv.cells
          have hn := toNat_lt_succ hsmall
          have hf' : ∀ k x, came[k]? = some x → f (total.toNat - k) = x := fun k x hx => by
            have hk := (List.getElem?_eq_some_iff.mp hx).1
            exact hf hle k x hx (placed_of_le hsmall (by omega))
          have hstored := hInv.all hsmall hle
          rcases Nat.le_or_eq_of_le_succ hle with hle' | hmore
          · refine ⟨_, reportRoutine_of_le hsmall hn hgot hle' hbuffer hf', ?_,
              reverse_perm _, fun hmodem => ?_⟩
            · rw [length_reverse, hstored]
            · refine ascending_reverse_iff.mpr ((horder hmodem).resolve_left ?_)
              omega
          · obtain ⟨l, hl, hput⟩ := reportRoutine_of_more (Nat.pos_of_ne_zero hne) hsmall hn hgot
              hmore hbuffer hf'
            have hperm := hput.perm.trans (reverse_perm came)
            exact ⟨l, hl, hperm.length_eq.trans hstored.symm, hperm, hput.ascending⟩
      obtain ⟨l, hl, hlength, hperm, horder⟩ := hreport
      refine ⟨⟨s.requests, s.stored, l, none⟩, ?_, hlength, ?_, fun hmodem => horder ?_⟩
      · rw [hs, bind_eq_bind, bind_some, hl]
        rfl
      · unfold Outcome.received
        rw [hcame]
        exact hperm.subperm
      · unfold Outcome.received at hmodem
        rwa [hcame] at hmodem

/-- Both kinds of batches, whatever their sizes, the counts asked for and the
answers of the modem. -/
theorem reads_right_iff (mBatchSize mTripBatchSize count : UInt64) (accumulatedDistance : UInt32)
    (answers : List (Answer F)) :
    (RoutineRight answers (getBatchedLocationsSync mBatchSize count answers) ↔
        RoutineFits (min mBatchSize count).toNat answers) ∧
      (Safe answers (getBatchedTripLocationsSync mTripBatchSize count accumulatedDistance answers) ↔
        TripFits (min mTripBatchSize count).toNat answers) :=
  ⟨routine_right_iff mBatchSize count answers,
    trip_right_iff mTripBatchSize count accumulatedDistance answers⟩

/-- An answer with three locations. -/
def threeEntries : ReadFromBatchInd ℤ where
  numberOfEntries_valid := true
  numberOfEntries := 3
  batchedReportList_valid := true
  batchedReportList := fun i =>
    { validFields := QMI_LOC_BATCHED_REPORT_MASK_VALID_TIMESTAMP_UTC, latitude := 0,
      longitude := 0, horUncCircular := 0, speedHorizontal := 0, speedUnc := 0,
      altitudeWrtEllipsoid := 0, heading := 0, headingUnc := 0, technologyMask := 0,
      timestampUtc := 9 - .ofNat i.val, vertUnc := 0 }
  fits := by decide

/-- One location is to be read, and three come. -/
theorem not_right_threeEntries :
    ¬ ∀ (mBatchSize mTripBatchSize count : UInt64) (answers : List (Answer ℤ)),
      RoutineRight answers (getBatchedLocationsSync mBatchSize count answers) ∧
        Safe answers (getBatchedTripLocationsSync mTripBatchSize count 0 answers) := by
  intro h
  obtain ⟨⟨o, hcall, -⟩, -⟩ := h 100 100 1 [some threeEntries]
  have hnone : (getBatchedLocationsSync 100 1 [some threeEntries]).isNone := by decide
  rw [hcall] at hnone
  cases hnone

end LocStack.LocApi.BatchedLocations
