/-
# `LocStack.Utils.SetMap` — the map of sets of LocUnorderedSetMap.h

An `unordered_set` is the list of its elements in the order in which a loop
visits them; an `unordered_map` is an association list.

    trimSet                    takes a set out of a set
    removeAndReturnInterset    takes what is common out of both, and returns it
    trimOrRemove, add          the same for the entries of a set of keys
    update                     puts a set in place of what a key had

Two of them go on with an iterator that an `erase` has made invalid:
`trimOrRemove` reads the key of the entry it has just removed, and the loop
of `removeAndReturnInterset` steps from an element it has just removed.
What they read there is up to the heap, and a parameter here.

Each operation has one lemma for each of its results, by membership.
-/
import Mathlib.Data.List.AList

namespace LocStack.Utils

open List

/-! ## Sets -/

section Sets

variable {T : Type*} [DecidableEq T]

/-- `s.erase(val)`. -/
def eraseVal (val : T) (s : List T) : List T := s.filter (· ≠ val)

variable {x : T} {rVals fromSet s1 s2 : List T}

@[simp] theorem mem_eraseVal {val : T} {s : List T} : x ∈ eraseVal val s ↔ x ∈ s ∧ x ≠ val := by
  simp [eraseVal]

/-- `trimSet`: what is left of `fromSet`, and `goneVals` with what is not. -/
def trimSet (rVals fromSet goneVals : List T) : List T × List T :=
  rVals.foldl (fun p val =>
    if val ∈ p.1 then (eraseVal val p.1, p.2.insert val) else p) (fromSet, goneVals)

theorem mem_trimSet {goneVals : List T} :
    (x ∈ (trimSet rVals fromSet goneVals).1 ↔ x ∈ fromSet ∧ x ∉ rVals) ∧
      (x ∈ (trimSet rVals fromSet goneVals).2 ↔ x ∈ goneVals ∨ (x ∈ fromSet ∧ x ∈ rVals)) := by
  induction rVals generalizing fromSet goneVals with
  | nil => simp [trimSet]
  | cons val rVals ih =>
    by_cases hval : val ∈ fromSet
    · have hstep : trimSet (val :: rVals) fromSet goneVals =
          trimSet rVals (eraseVal val fromSet) (goneVals.insert val) :=
        congrArg (rVals.foldl _) (if_pos hval)
      rw [hstep]
      refine ⟨ih.1.trans ?_, ih.2.trans ?_⟩
      · simp only [mem_eraseVal, mem_cons, not_or, and_assoc]
      · by_cases hx : x = val
        · subst hx
          simp [hval]
        · simp [hx]
    · have hstep : trimSet (val :: rVals) fromSet goneVals =
          trimSet rVals fromSet goneVals := congrArg (rVals.foldl _) (if_neg hval)
      rw [hstep]
      have hne : x ∈ fromSet → x ≠ val := fun hx heq => hval (heq ▸ hx)
      refine ⟨ih.1.trans ?_, ih.2.trans ?_⟩
      · exact and_congr_right fun hx => by simp [hne hx]
      · exact or_congr_right (and_congr_right fun hx => by simp [hne hx])

theorem mem_left_of_notMem (goneVals : List T) (hx : x ∈ fromSet) (hnot : x ∉ rVals) :
    x ∈ (trimSet rVals fromSet goneVals).1 :=
  mem_trimSet.1.mpr ⟨hx, hnot⟩

/-- The elements of the second set that the loop of `removeAndReturnInterset`
comes to: in order up to the first that is common, and then what it finds
with an iterator to an element that is gone. -/
def visited (rest : T → List T) (s1 : List T) : List T → List T
  | [] => []
  | b :: bs => if b ∈ s1 then b :: rest b else b :: visited rest s1 bs

/-- The three sets that `removeAndReturnInterset` works on. -/
structure Interset (T : Type*) where
  (common s1 s2 : List T)

def Interset.take (i : Interset T) (b : T) : Interset T :=
  if b ∈ i.s1 then ⟨i.common.insert b, eraseVal b i.s1, eraseVal b i.s2⟩ else i

def removeAndReturnInterset (rest : T → List T) (s1 s2 : List T) : Interset T :=
  (visited rest s1 s2).foldl Interset.take ⟨[], s1, s2⟩

variable {i : Interset T}

theorem mem_common_of_take {bs : List T} (hx : x ∈ i.common) :
    x ∈ (bs.foldl Interset.take i).common := by
  induction bs generalizing i with
  | nil => exact hx
  | cons b bs ih =>
    refine ih ?_
    unfold Interset.take
    split
    · exact mem_insert_of_mem hx
    · exact hx

theorem mem_foldl_take (bs : List T) (h1 : ∀ x, x ∈ i.s1 ∨ x ∈ i.common → x ∈ s1)
    (h2 : ∀ x, x ∈ i.s2 ↔ x ∈ s2 ∧ x ∉ i.common) :
    (∀ x, x ∈ (bs.foldl Interset.take i).common → x ∈ s1) ∧ ∀ x, x ∈ (bs.foldl Interset.take i).s2 ↔
        x ∈ s2 ∧ x ∉ (bs.foldl Interset.take i).common := by
  induction bs generalizing i with
  | nil => exact ⟨fun x hx => h1 x (Or.inr hx), h2⟩
  | cons b bs ih =>
    refine ih ?_ ?_
    · intro x hx
      unfold Interset.take at hx
      split at hx
      · rename_i hb
        rcases hx with hx | hx
        · exact h1 x (Or.inl (mem_eraseVal.mp hx).1)
        · rcases mem_insert_iff.mp hx with rfl | hx
          · exact h1 x (Or.inl hb)
          · exact h1 x (Or.inr hx)
      · exact h1 x hx
    · intro x
      unfold Interset.take
      split
      · simp only [mem_eraseVal, h2, mem_insert_iff, not_or]
        tauto
      · exact h2 x

theorem mem_removeAndReturnInterset (rest : T → List T) (s1 s2 : List T) :
    (∀ x, x ∈ (removeAndReturnInterset rest s1 s2).common → x ∈ s1) ∧
      ∀ x, x ∈ (removeAndReturnInterset rest s1 s2).s2 ↔
        x ∈ s2 ∧ x ∉ (removeAndReturnInterset rest s1 s2).common := by
  have h1 : ∀ x, x ∈ s1 ∨ x ∈ ([] : List T) → x ∈ s1 := fun x hx =>
    hx.resolve_right not_mem_nil
  have h2 : ∀ x, x ∈ s2 ↔ x ∈ s2 ∧ x ∉ ([] : List T) := fun x =>
    (and_iff_left not_mem_nil).symm
  exact mem_foldl_take (visited rest s1 s2) h1 h2

theorem removeAndReturnInterset_of_disjoint {rest : T → List T} (h : ∀ x ∈ s2, x ∉ s1) :
    removeAndReturnInterset rest s1 s2 = ⟨[], s1, s2⟩ := by
  have hvisited : ∀ bs : List T, (∀ x ∈ bs, x ∉ s1) → visited rest s1 bs = bs := by
    intro bs
    induction bs with
    | nil => exact fun _ => rfl
    | cons b bs ih =>
      intro hbs
      refine (if_neg (hbs b mem_cons_self)).trans ?_
      exact congrArg (b :: ·) (ih fun x hx => hbs x (mem_cons_of_mem _ hx))
  have hfold : ∀ bs : List T, (∀ x ∈ bs, x ∉ s1) →
      bs.foldl Interset.take ⟨[], s1, s2⟩ = ⟨[], s1, s2⟩ := by
    intro bs
    induction bs with
    | nil => exact fun _ => rfl
    | cons b bs ih =>
      intro hbs
      have htake : Interset.take ⟨[], s1, s2⟩ b = ⟨[], s1, s2⟩ :=
        if_neg (hbs b mem_cons_self)
      exact (congrArg (bs.foldl Interset.take) htake).trans
        (ih fun x hx => hbs x (mem_cons_of_mem _ hx))
  unfold removeAndReturnInterset
  rw [hvisited s2 h]
  exact hfold s2 h

theorem exists_mem_common (rest : T → List T) {y : T} (h1 : y ∈ s1) (h2 : y ∈ s2) :
    ∃ x ∈ (removeAndReturnInterset rest s1 s2).common, x ∈ s2 := by
  have hfound : ∀ (bs : List T) (i : Interset T), i.s1 = s1 → y ∈ bs →
      ∃ x ∈ ((visited rest s1 bs).foldl Interset.take i).common, x ∈ bs := by
    intro bs
    induction bs with
    | nil => exact fun _ _ hy => absurd hy not_mem_nil
    | cons b bs ih =>
      intro i hi hy
      by_cases hb : b ∈ s1
      · have hvisited : visited rest s1 (b :: bs) = b :: rest b := if_pos hb
        have htake : i.take b = ⟨i.common.insert b, eraseVal b i.s1, eraseVal b i.s2⟩ :=
          if_pos (hi ▸ hb)
        have hmem : b ∈ (i.take b).common := htake ▸ mem_insert_self
        have hkept : b ∈ ((rest b).foldl Interset.take (i.take b)).common :=
          mem_common_of_take hmem
        rw [hvisited]
        exact ⟨b, hkept, mem_cons_self⟩
      · have hvisited : visited rest s1 (b :: bs) = b :: visited rest s1 bs := if_neg hb
        have htake : i.take b = i := if_neg (hi ▸ hb)
        have hy' : y ∈ bs := (mem_cons.mp hy).resolve_left fun heq => hb (heq ▸ h1)
        obtain ⟨x, hx, hxs⟩ := ih i hi hy'
        rw [hvisited]
        exact ⟨x, by rw [foldl_cons, htake]; exact hx, mem_cons_of_mem _ hxs⟩
  exact hfound s2 _ rfl h2

end Sets

/-! ## Maps -/

/-- A `LocUnorderedSetMap<KEY, VAL>`. -/
abbrev LocUnorderedSetMap (KEY VAL : Type*) := AList fun _ : KEY => List VAL

namespace LocUnorderedSetMap

variable {KEY VAL : Type*} [DecidableEq KEY]

def getValSet (m : LocUnorderedSetMap KEY VAL) (key : KEY) : List VAL := (m.lookup key).getD []

def getKeys (m : LocUnorderedSetMap KEY VAL) : List KEY := m.keys

def remove (m : LocUnorderedSetMap KEY VAL) (key : KEY) : LocUnorderedSetMap KEY VAL :=
  m.erase key

/-- No entry is an empty set. -/
def NoEmpty (m : LocUnorderedSetMap KEY VAL) : Prop := ∀ k, m.lookup k ≠ some []

section Lookup

variable {m : LocUnorderedSetMap KEY VAL} {key k : KEY} {vals : List VAL} {v : VAL}

theorem getValSet_of_lookup (h : m.lookup k = some vals) : m.getValSet k = vals :=
  congrArg (·.getD []) h

theorem getValSet_of_notMem (h : k ∉ m) : m.getValSet k = [] :=
  congrArg (·.getD []) (AList.lookup_eq_none.mpr h)

theorem getValSet_insert_self : LocUnorderedSetMap.getValSet (m.insert k vals) k = vals :=
  getValSet_of_lookup (AList.lookup_insert m)

theorem getValSet_insert_ne (h : k ≠ key) :
    LocUnorderedSetMap.getValSet (m.insert key vals) k = m.getValSet k := by
  unfold getValSet
  rw [AList.lookup_insert_ne h]

theorem getValSet_erase_self : LocUnorderedSetMap.getValSet (m.erase k) k = [] :=
  congrArg (·.getD []) (AList.lookup_erase k m)

theorem getValSet_erase_ne (h : k ≠ key) :
    LocUnorderedSetMap.getValSet (m.erase key) k = m.getValSet k := by
  unfold getValSet
  rw [AList.lookup_erase_ne h]

theorem NoEmpty.insert (h : NoEmpty m) (hvals : vals ≠ []) :
    NoEmpty (AList.insert key vals m : LocUnorderedSetMap KEY VAL) := by
  intro k hk
  by_cases heq : k = key
  · subst heq
    rw [AList.lookup_insert] at hk
    exact hvals (Option.some.inj hk)
  · rw [AList.lookup_insert_ne heq] at hk
    exact h k hk

theorem NoEmpty.erase (h : NoEmpty m) :
    NoEmpty (AList.erase key m : LocUnorderedSetMap KEY VAL) := by
  intro k hk
  by_cases heq : k = key
  · subst heq
    rw [AList.lookup_erase] at hk
    cases hk
  · rw [AList.lookup_erase_ne heq] at hk
    exact h k hk

end Lookup

variable [DecidableEq VAL]

/-- What `trimOrRemove` works on: the map and the two sets that it adds to. -/
structure Trimmed (KEY VAL : Type*) where
  map : LocUnorderedSetMap KEY VAL
  goneKeys : List KEY
  goneVals : List VAL

/-- One turn of the loop.  The key that it adds is read from the entry after
the entry was removed. -/
def Trimmed.key (freed : KEY → KEY) (rVals : List VAL) (r : Trimmed KEY VAL) (key : KEY) :
    Trimmed KEY VAL :=
  match r.map.lookup key with
  | none => r
  | some vals =>
    let (left, goneVals) := trimSet rVals vals r.goneVals
    if left = [] then ⟨r.map.erase key, r.goneKeys.insert (freed key), goneVals⟩
    else ⟨r.map.insert key left, r.goneKeys, goneVals⟩

/-- `trimOrRemove`, with the two optional sets always collected. -/
def trimOrRemove (freed : KEY → KEY) (m : LocUnorderedSetMap KEY VAL) (keys : List KEY)
    (rVals : List VAL) : Trimmed KEY VAL :=
  keys.foldl (Trimmed.key freed rVals) ⟨m, [], []⟩

/-- `add` to one entry, with whether the entry is new. -/
def add (m : LocUnorderedSetMap KEY VAL) (key : KEY) (newVals : List VAL) :
    LocUnorderedSetMap KEY VAL × Bool :=
  if newVals = [] then (m, false)
  else
    match m.lookup key with
    | some vals => (m.insert key (newVals.foldl (fun s v => s.insert v) vals), false)
    | none => (m.insert key newVals, true)

/-- `add` to the entries of `keys`, with the keys that are new. -/
def addAll (m : LocUnorderedSetMap KEY VAL) (keys : List KEY) (newVals : List VAL) :
    LocUnorderedSetMap KEY VAL × List KEY :=
  keys.foldl (fun p key =>
    let (map, newEntryAdded) := p.1.add key newVals
    (map, if newEntryAdded then p.2.insert key else p.2)) (m, [])

/-- `update`: the map, the values returned, and what is left of `newVals`. -/
def update (rest : VAL → List VAL) (m : LocUnorderedSetMap KEY VAL) (key : KEY)
    (newVals : List VAL) : LocUnorderedSetMap KEY VAL × List VAL × List VAL :=
  if newVals = [] then (m.erase key, [], newVals)
  else
    let interset := removeAndReturnInterset rest (m.getValSet key) newVals
    (m.insert key newVals, interset.common, interset.s2)

/-- `trimOrRemove` removes the entry of the key. -/
def Emptied (m : LocUnorderedSetMap KEY VAL) (keys : List KEY) (rVals : List VAL) (k : KEY) :
    Prop := k ∈ m ∧ k ∈ keys ∧ ∀ v ∈ m.getValSet k, v ∈ rVals


/-! ### trimOrRemove -/

section Trim

variable {freed : KEY → KEY} {rVals : List VAL} {r : Trimmed KEY VAL} {key k : KEY} {v : VAL}

/-- What one turn of the loop does: nothing without an entry, else the entry
is removed, or trimmed to a set that is not empty. -/
theorem Trimmed.key_cases (freed : KEY → KEY) (rVals : List VAL) (r : Trimmed KEY VAL)
    (key : KEY) :
    (key ∉ r.map ∧ r.key freed rVals key = r) ∨ ∃ vals, r.map.lookup key = some vals ∧
        (Emptied r.map [key] rVals key ∧ r.key freed rVals key =
            ⟨r.map.erase key, r.goneKeys.insert (freed key), (trimSet rVals vals r.goneVals).2⟩ ∨
          ¬ Emptied r.map [key] rVals key ∧ (trimSet rVals vals r.goneVals).1 ≠ [] ∧
            r.key freed rVals key = ⟨r.map.insert key (trimSet rVals vals r.goneVals).1, r.goneKeys,
                (trimSet rVals vals r.goneVals).2⟩) := by
  cases hlookup : r.map.lookup key with
  | none =>
    refine Or.inl ⟨AList.lookup_eq_none.mp hlookup, ?_⟩
    unfold Trimmed.key
    rw [hlookup]
  | some vals =>
    have hkey : key ∈ r.map := AList.lookup_isSome.mp (hlookup ▸ rfl)
    have hvals : r.map.getValSet key = vals := getValSet_of_lookup hlookup
    refine Or.inr ⟨vals, rfl, ?_⟩
    by_cases hleft : (trimSet rVals vals r.goneVals).1 = []
    · refine Or.inl ⟨⟨hkey, mem_cons_self, fun v hv => ?_⟩, ?_⟩
      · by_contra hnot
        have hmem := mem_left_of_notMem r.goneVals (hvals ▸ hv) hnot
        rw [hleft] at hmem
        cases hmem
      · unfold Trimmed.key
        rw [hlookup]
        exact if_pos hleft
    · refine Or.inr ⟨fun h => ?_, hleft, ?_⟩
      · obtain ⟨v, hv⟩ := exists_mem_of_ne_nil _ hleft
        have hv' := mem_trimSet.1.mp hv
        exact hv'.2 (h.2.2 v (hvals ▸ hv'.1))
      · unfold Trimmed.key
        rw [hlookup]
        exact if_neg hleft

theorem lookup_key_ne (h : k ≠ key) : (r.key freed rVals key).map.lookup k = r.map.lookup k := by
  rcases r.key_cases freed rVals key with ⟨-, hr⟩ | ⟨vals, -, ⟨-, hr⟩ | ⟨-, -, hr⟩⟩
  · rw [hr]
  · rw [hr, AList.lookup_erase_ne h]
  · rw [hr, AList.lookup_insert_ne h]

theorem mem_getValSet_key : v ∈ getValSet (r.key freed rVals key).map k ↔
      v ∈ r.map.getValSet k ∧ ¬ (k = key ∧ v ∈ rVals) := by
  by_cases hk : k = key
  · subst hk
    simp only [true_and]
    rcases r.key_cases freed rVals k with ⟨hkey, hr⟩ | ⟨vals, hvals, ⟨hemp, hr⟩ | ⟨-, -, hr⟩⟩
    · rw [hr, getValSet_of_notMem hkey]
      simp
    · rw [hr, getValSet_erase_self]
      simp only [not_mem_nil, false_iff, not_and, not_not]
      exact hemp.2.2 v
    · rw [hr, getValSet_insert_self, getValSet_of_lookup hvals]
      exact mem_trimSet.1
  · have hsame : getValSet (r.key freed rVals key).map k = r.map.getValSet k := by
      unfold getValSet
      rw [lookup_key_ne hk]
    rw [hsame]
    exact (and_iff_left fun h => hk h.1).symm

theorem mem_goneVals_key : v ∈ (r.key freed rVals key).goneVals ↔
    v ∈ r.goneVals ∨ (v ∈ r.map.getValSet key ∧ v ∈ rVals) := by
  rcases r.key_cases freed rVals key with ⟨hkey, hr⟩ | ⟨vals, hvals, ⟨-, hr⟩ | ⟨-, -, hr⟩⟩
  · rw [hr, getValSet_of_notMem hkey]
    simp
  · rw [hr, getValSet_of_lookup hvals]
    exact mem_trimSet.2
  · rw [hr, getValSet_of_lookup hvals]
    exact mem_trimSet.2

theorem mem_map_key : k ∈ (r.key freed rVals key).map ↔
    k ∈ r.map ∧ ¬ Emptied r.map [key] rVals k := by
  by_cases hk : k = key
  · subst hk
    rcases r.key_cases freed rVals k with ⟨hkey, hr⟩ | ⟨vals, hvals, ⟨hemp, hr⟩ | ⟨hno, -, hr⟩⟩
    · rw [hr]
      exact (and_iff_left fun h => hkey h.1).symm
    · rw [hr, AList.mem_erase]
      exact ⟨fun h => absurd rfl h.1, fun h => absurd hemp h.2⟩
    · have hkey : k ∈ r.map := AList.lookup_isSome.mp (hvals ▸ rfl)
      rw [hr, AList.mem_insert]
      exact ⟨fun _ => ⟨hkey, hno⟩, fun _ => Or.inl rfl⟩
  · rw [← AList.lookup_isSome, lookup_key_ne hk, AList.lookup_isSome]
    exact (and_iff_left fun h => hk (mem_singleton.mp h.2.1)).symm

theorem mem_goneKeys_key {x : KEY} : x ∈ (r.key freed rVals key).goneKeys ↔
    x ∈ r.goneKeys ∨ (Emptied r.map [key] rVals key ∧ freed key = x) := by
  rcases r.key_cases freed rVals key with ⟨hkey, hr⟩ | ⟨vals, hvals, ⟨hemp, hr⟩ | ⟨hno, -, hr⟩⟩
  · rw [hr]
    exact (or_iff_left fun h => hkey h.1.1).symm
  · rw [hr, mem_insert_iff, or_comm]
    exact or_congr_right ⟨fun h => ⟨hemp, h.symm⟩, fun h => h.2.symm⟩
  · rw [hr]
    exact (or_iff_left fun h => hno h.1).symm

theorem NoEmpty.trimKey (h : NoEmpty r.map) : NoEmpty (r.key freed rVals key).map := by
  rcases r.key_cases freed rVals key with ⟨-, hr⟩ | ⟨vals, -, ⟨-, hr⟩ | ⟨-, hleft, hr⟩⟩
  · rw [hr]
    exact h
  · rw [hr]
    exact h.erase
  · rw [hr]
    exact h.insert hleft

theorem emptied_cons (freed : KEY → KEY) (keys : List KEY) : Emptied r.map (key :: keys) rVals k ↔
      Emptied r.map [key] rVals k ∨ Emptied (r.key freed rVals key).map keys rVals k := by
  have hrest : Emptied (r.key freed rVals key).map keys rVals k ↔
      (k ∈ r.map ∧ ¬ Emptied r.map [key] rVals k) ∧ k ∈ keys ∧
        ∀ v ∈ r.map.getValSet k, ¬ (k = key ∧ v ∈ rVals) → v ∈ rVals := by
    simp only [Emptied, mem_map_key, mem_getValSet_key, and_imp]
  rw [hrest]
  by_cases hk : k = key
  · subst hk
    constructor
    · rintro ⟨hmem, -, hall⟩
      exact Or.inl ⟨hmem, mem_cons_self, hall⟩
    · rintro (⟨hmem, -, hall⟩ | ⟨⟨hmem, hno⟩, -, hall⟩)
      · exact ⟨hmem, mem_cons_self, hall⟩
      · refine absurd ⟨hmem, mem_cons_self, fun v hv => ?_⟩ hno
        by_contra hnot
        exact hnot (hall v hv fun h => hnot h.2)
  · have hno : ¬ Emptied r.map [key] rVals k := fun h => hk (mem_singleton.mp h.2.1)
    constructor
    · rintro ⟨hmem, hkeys, hall⟩
      exact Or.inr ⟨⟨hmem, hno⟩, (mem_cons.mp hkeys).resolve_left hk, fun v hv _ => hall v hv⟩
    · rintro (h | ⟨⟨hmem, -⟩, hkeys, hall⟩)
      · exact absurd h hno
      · exact ⟨hmem, mem_cons_of_mem _ hkeys, fun v hv => hall v hv fun h => hk h.1⟩

/-- What the loop does. -/
structure Trims (freed : KEY → KEY) (rVals : List VAL) (keys : List KEY)
    (r r' : Trimmed KEY VAL) : Prop where
  vals : ∀ k v, v ∈ getValSet r'.map k ↔ v ∈ r.map.getValSet k ∧ ¬ (k ∈ keys ∧ v ∈ rVals)
  mem : ∀ k, k ∈ r'.map ↔ k ∈ r.map ∧ ¬ Emptied r.map keys rVals k
  goneKeys : ∀ x, x ∈ r'.goneKeys ↔ x ∈ r.goneKeys ∨ ∃ k, Emptied r.map keys rVals k ∧ freed k = x
  goneVals : ∀ v, v ∈ r'.goneVals ↔ v ∈ r.goneVals ∨ ∃ k ∈ keys, v ∈ r.map.getValSet k ∧ v ∈ rVals
  noEmpty : NoEmpty r.map → NoEmpty r'.map

theorem trims_foldl (freed : KEY → KEY) (rVals : List VAL) (keys : List KEY)
    (r : Trimmed KEY VAL) :
    Trims freed rVals keys r (keys.foldl (Trimmed.key freed rVals) r) := by
  induction keys generalizing r with
  | nil =>
    have hno : ∀ k, ¬ Emptied r.map [] rVals k := fun k h => absurd h.2.1 not_mem_nil
    exact ⟨by simp, by simp [hno], by simp [hno], by simp, id⟩
  | cons key keys ih =>
    obtain ⟨hv, hk, hgk, hgv, hne⟩ := ih (r.key freed rVals key)
    refine ⟨fun k v => ?_, fun k => ?_, fun x => ?_, fun v => ?_, fun h => hne h.trimKey⟩
    · rw [foldl_cons, hv, mem_getValSet_key, mem_cons]
      tauto
    · rw [foldl_cons, hk, mem_map_key, emptied_cons freed keys]
      tauto
    · rw [foldl_cons, hgk, mem_goneKeys_key]
      simp only [emptied_cons freed keys, or_and_right, exists_or]
      rw [or_assoc]
      refine or_congr_right (or_congr_left ?_)
      constructor
      · rintro ⟨h, rfl⟩
        exact ⟨key, h, rfl⟩
      · rintro ⟨k, h, rfl⟩
        obtain rfl := mem_singleton.mp h.2.1
        exact ⟨h, rfl⟩
    · rw [foldl_cons, hgv, mem_goneVals_key]
      simp only [mem_getValSet_key, mem_cons, exists_eq_or_imp]
      constructor
      · rintro ((h | h) | ⟨k, hks, h, hr⟩)
        · exact Or.inl h
        · exact Or.inr (Or.inl h)
        · exact Or.inr (Or.inr ⟨k, hks, h.1, hr⟩)
      · rintro (h | h | ⟨k, hks, h, hr⟩)
        · exact Or.inl (Or.inl h)
        · exact Or.inl (Or.inr h)
        · by_cases hkey : k = key
          · exact Or.inl (Or.inr (hkey ▸ ⟨h, hr⟩))
          · exact Or.inr ⟨k, hks, ⟨h, fun hand => hkey hand.1⟩, hr⟩

theorem trims_trimOrRemove (freed : KEY → KEY) (m : LocUnorderedSetMap KEY VAL)
    (keys : List KEY) (rVals : List VAL) :
    Trims freed rVals keys ⟨m, [], []⟩ (trimOrRemove freed m keys rVals) :=
  trims_foldl freed rVals keys ⟨m, [], []⟩

end Trim

/-! ### add -/

section Add

variable {m : LocUnorderedSetMap KEY VAL} {key k : KEY} {keys : List KEY} {newVals : List VAL}
  {v : VAL} {vals : List VAL}

theorem mem_foldl_insert :
    v ∈ newVals.foldl (fun s v => s.insert v) vals ↔ v ∈ vals ∨ v ∈ newVals := by
  induction newVals generalizing vals with
  | nil => simp
  | cons w newVals ih =>
    rw [foldl_cons, ih, mem_insert_iff, mem_cons]
    tauto

theorem nodup_foldl_insert (h : vals.Nodup) (newVals : List VAL) :
    (newVals.foldl (fun s v => s.insert v) vals).Nodup := by
  induction newVals generalizing vals with
  | nil => exact h
  | cons w newVals ih => exact ih h.insert

theorem add_cases (m : LocUnorderedSetMap KEY VAL) (key : KEY) (hne : newVals ≠ []) :
    (key ∉ m ∧ m.add key newVals = (m.insert key newVals, true)) ∨
      ∃ vals, m.lookup key = some vals ∧
        m.add key newVals = (m.insert key (newVals.foldl (fun s v => s.insert v) vals), false) := by
  unfold add
  rw [if_neg hne]
  cases hlookup : m.lookup key with
  | none => exact Or.inl ⟨AList.lookup_eq_none.mp hlookup, rfl⟩
  | some vals => exact Or.inr ⟨vals, rfl, rfl⟩

/-- What adding to the entries of `keys` does. -/
structure Adds (keys : List KEY) (newVals : List VAL)
    (p p' : LocUnorderedSetMap KEY VAL × List KEY) : Prop where
  vals : ∀ k v, v ∈ getValSet p'.1 k ↔ v ∈ getValSet p.1 k ∨ (k ∈ keys ∧ v ∈ newVals)
  mem : ∀ k, k ∈ p'.1 ↔ k ∈ p.1 ∨ k ∈ keys
  newKeys : ∀ k, k ∈ p'.2 ↔ k ∈ p.2 ∨ (k ∈ keys ∧ k ∉ p.1)
  noEmpty : NoEmpty p.1 → NoEmpty p'.1

theorem adds_add (m : LocUnorderedSetMap KEY VAL) (key : KEY) (hne : newVals ≠ [])
    (newKeys : List KEY) :
    Adds [key] newVals (m, newKeys) ((m.add key newVals).1,
      if (m.add key newVals).2 then newKeys.insert key else newKeys) := by
  rcases add_cases m key hne with ⟨hkey, hadd⟩ | ⟨vals, hvals, hadd⟩
  · rw [hadd]
    refine ⟨fun k v => ?_, fun k => ?_, fun k => ?_, fun h => h.insert hne⟩
    · by_cases hk : k = key
      · subst hk
        rw [getValSet_insert_self, getValSet_of_notMem hkey]
        simp
      · rw [getValSet_insert_ne hk]
        simp [hk]
    · rw [AList.mem_insert, mem_singleton]
      exact or_comm
    · rw [if_pos rfl, mem_insert_iff, mem_singleton]
      constructor
      · rintro (rfl | h)
        · exact Or.inr ⟨rfl, hkey⟩
        · exact Or.inl h
      · rintro (h | ⟨rfl, -⟩)
        · exact Or.inr h
        · exact Or.inl rfl
  · have hkey : key ∈ m := AList.lookup_isSome.mp (hvals ▸ rfl)
    rw [hadd]
    refine ⟨fun k v => ?_, fun k => ?_, fun k => ?_, fun h => h.insert ?_⟩
    · by_cases hk : k = key
      · subst hk
        rw [getValSet_insert_self, getValSet_of_lookup hvals, mem_foldl_insert]
        simp
      · rw [getValSet_insert_ne hk]
        simp [hk]
    · rw [AList.mem_insert, mem_singleton]
      exact or_comm
    · refine (or_iff_left fun h => h.2 ?_).symm
      rw [mem_singleton.mp h.1]
      exact hkey
    · obtain ⟨w, hw⟩ := exists_mem_of_ne_nil _ hne
      exact ne_nil_of_mem (mem_foldl_insert.mpr (Or.inr hw))

theorem adds_foldl (hne : newVals ≠ []) (keys : List KEY)
    (p : LocUnorderedSetMap KEY VAL × List KEY) :
    Adds keys newVals p (keys.foldl (fun p key =>
      let (map, newEntryAdded) := p.1.add key newVals
      (map, if newEntryAdded then p.2.insert key else p.2)) p) := by
  induction keys generalizing p with
  | nil => exact ⟨by simp, by simp, by simp, id⟩
  | cons key keys ih =>
    obtain ⟨hv₁, hm₁, hn₁, he₁⟩ := adds_add p.1 key hne p.2
    obtain ⟨hv, hm, hn, he⟩ := ih _
    refine ⟨fun k v => ?_, fun k => ?_, fun k => ?_, fun h => he (he₁ h)⟩
    · rw [foldl_cons, hv, hv₁, mem_singleton, mem_cons]
      tauto
    · rw [foldl_cons, hm, hm₁, mem_singleton, mem_cons]
      tauto
    · rw [foldl_cons, hn, hn₁, hm₁, mem_singleton, mem_cons]
      tauto

theorem adds_addAll (m : LocUnorderedSetMap KEY VAL) (keys : List KEY) (hne : newVals ≠ []) :
    Adds keys newVals (m, []) (m.addAll keys newVals) :=
  adds_foldl hne keys (m, [])

end Add

/-! ### Exactness -/

section Exact

variable {rVals newVals s1 s2 : List VAL} {r : Trimmed KEY VAL} {keys : List KEY}

/-- The loop of `removeAndReturnInterset` steps from an element that it has
removed: the first that is common. -/
def erasedStep (s1 s2 : List VAL) : Option VAL := s2.find? (· ∈ s1)

/-- The entries that `trimOrRemove` reads the keys of when it has removed them. -/
def erasedReads (freed : KEY → KEY) (rVals : List VAL) : Trimmed KEY VAL → List KEY → List KEY
  | _, [] => []
  | r, key :: keys =>
    let r' := r.key freed rVals key
    if key ∈ r.map ∧ key ∉ r'.map then key :: erasedReads freed rVals r' keys
    else erasedReads freed rVals r' keys

theorem erasedReads_eq_nil_iff {freed : KEY → KEY} :
    erasedReads freed rVals r keys = [] ↔ ∀ k, ¬ Emptied r.map keys rVals k := by
  induction keys generalizing r with
  | nil => simp [erasedReads, Emptied]
  | cons key keys ih =>
    have hgone : (key ∈ r.map ∧ key ∉ (r.key freed rVals key).map) ↔
        Emptied r.map [key] rVals key := by
      rw [mem_map_key]
      exact ⟨fun h => by_contra fun hno => h.2 ⟨h.1, hno⟩, fun h => ⟨h.1, fun hk => hk.2 h⟩⟩
    simp only [erasedReads, emptied_cons freed keys]
    by_cases h : Emptied r.map [key] rVals key
    · rw [if_pos (hgone.mpr h)]
      exact iff_of_false (cons_ne_nil _ _) fun hno => hno key (Or.inl h)
    · rw [if_neg (hgone.not.mpr h), ih]
      refine forall_congr' fun k => not_congr (or_iff_right fun hk => h ?_).symm
      exact mem_singleton.mp hk.2.1 ▸ hk

def IntersetRight (rest : VAL → List VAL) (s1 s2 : List VAL) : Prop :=
  let i := removeAndReturnInterset rest s1 s2
  (∀ v, v ∈ i.common ↔ v ∈ s1 ∧ v ∈ s2) ∧ (∀ v, v ∈ i.s1 ↔ v ∈ s1 ∧ v ∉ s2) ∧
    (∀ v, v ∈ i.s2 ↔ v ∈ s2 ∧ v ∉ s1) ∧ erasedStep s1 s2 = none

/-- With `goneKeys`, the keys that have gone are reported. -/
def TrimRight (freed : KEY → KEY) (goneKeys : Bool) (m : LocUnorderedSetMap KEY VAL)
    (keys : List KEY) (rVals : List VAL) : Prop :=
  let r := trimOrRemove freed m keys rVals
  (∀ k v, v ∈ r.map.getValSet k ↔ v ∈ m.getValSet k ∧ ¬ (k ∈ keys ∧ v ∈ rVals)) ∧
    (∀ k, k ∈ r.map ↔ k ∈ m ∧ ¬ Emptied m keys rVals k) ∧
    (goneKeys → (∀ k, k ∈ r.goneKeys ↔ Emptied m keys rVals k) ∧
      erasedReads freed rVals ⟨m, [], []⟩ keys = [])

/-- What is returned has been removed, and what is left of `newVals` added. -/
def UpdateRight (rest : VAL → List VAL) (m : LocUnorderedSetMap KEY VAL) (key : KEY)
    (newVals : List VAL) : Prop :=
  let (m', goneVals, added) := m.update rest key newVals
  (∀ v, v ∈ m'.getValSet key ↔ v ∈ newVals) ∧
    (∀ v, v ∈ goneVals ↔ v ∈ m.getValSet key ∧ v ∉ newVals) ∧
    ∀ v, v ∈ added ↔ v ∈ newVals ∧ v ∉ m.getValSet key

theorem intersetRight_iff (rest : VAL → List VAL) :
    IntersetRight rest s1 s2 ↔ ∀ v ∈ s2, v ∉ s1 := by
  have hstep : erasedStep s1 s2 = none ↔ ∀ v ∈ s2, v ∉ s1 := by
    simp [erasedStep]
  refine ⟨fun h => hstep.mp h.2.2.2, fun h => ?_⟩
  simp only [IntersetRight, removeAndReturnInterset_of_disjoint h, hstep.mpr h, not_mem_nil]
  grind

theorem trimRight_iff (freed : KEY → KEY) {goneKeys : Bool} {m : LocUnorderedSetMap KEY VAL} :
    TrimRight freed goneKeys m keys rVals ↔ (goneKeys → ∀ k, ¬ Emptied m keys rVals k) := by
  have htrims := trims_trimOrRemove freed m keys rVals
  constructor
  · intro h hcollect
    exact erasedReads_eq_nil_iff.mp (h.2.2 hcollect).2
  · intro h
    refine ⟨htrims.vals, htrims.mem, fun hcollect => ⟨fun k => ?_, ?_⟩⟩
    · simp [htrims.goneKeys, h hcollect]
    · exact erasedReads_eq_nil_iff.mpr (h hcollect)

theorem updateRight_iff (rest : VAL → List VAL) {m : LocUnorderedSetMap KEY VAL} {key : KEY} :
    UpdateRight rest m key newVals ↔ m.getValSet key = [] := by
  by_cases hne : newVals = []
  · subst hne
    simp [UpdateRight, update, getValSet_erase_self, eq_nil_iff_forall_not_mem]
  · simp only [UpdateRight, update, if_neg hne, getValSet_insert_self]
    by_cases hcommon : ∀ v ∈ newVals, v ∉ m.getValSet key
    · -- nothing is returned: what was there has gone
      rw [removeAndReturnInterset_of_disjoint hcommon]
      constructor
      · rintro ⟨-, hgone, -⟩
        refine eq_nil_iff_forall_not_mem.mpr fun v hv => ?_
        have hnew : v ∉ newVals := fun hnew => hcommon v hnew hv
        exact not_mem_nil ((hgone v).mpr ⟨hv, hnew⟩)
      · intro hnil
        simp [hnil]
    · -- what stays is returned
      push Not at hcommon
      obtain ⟨v, hnew, hv⟩ := hcommon
      obtain ⟨x, hx, hxs⟩ := exists_mem_common rest hv hnew
      exact iff_of_false (fun h => ((h.2.1 x).mp hx).2 hxs) (ne_nil_of_mem hv)

/-- The three operations are exact where they use no iterator to an entry that
is gone, and nothing is in the place of what is updated. -/
theorem exact_iff (rest : VAL → List VAL) (freed : KEY → KEY) (m : LocUnorderedSetMap KEY VAL) :
    (∀ s1 s2, IntersetRight rest s1 s2 ↔ ∀ v ∈ s2, v ∉ s1) ∧
      (∀ goneKeys keys rVals, TrimRight freed goneKeys m keys rVals ↔
        (goneKeys → ∀ k, ¬ Emptied m keys rVals k)) ∧
      ∀ key newVals, UpdateRight rest m key newVals ↔ m.getValSet key = [] :=
  ⟨fun _ _ => intersetRight_iff rest, fun _ _ _ => trimRight_iff freed,
    fun _ _ => updateRight_iff rest⟩

/-- What an update removes is not returned. -/
theorem not_updateRight :
    ¬ UpdateRight (fun _ => []) (AList.insert 0 [1] (∅ : LocUnorderedSetMap Nat Nat)) 0 [2] := by
  rintro ⟨-, hgone, -⟩
  exact absurd ((hgone 1).mpr (by decide)) (by decide)

end Exact

end LocUnorderedSetMap

end LocStack.Utils
