/-
# `LocStack.LocApi.SyncOrder` — which call an answer completes

Several calls can wait for the same indication of the same client.  The modem
answers each request once, those for one indication in the order in which they
were sent, and no wait times out.  What loc_sync_process_ind looks for is

    the lowest slot that waits for it       not the one that was sent first
    of those it has not marked              a signalled slot is not marked
    and the next, if it copies nothing

`own_answer_iff`: each answer completes the call that it answers and no other,
what succeeds has had its own answer, and none waits that has been answered, if
and only if every call finds a free slot and, when an answer comes, no slot
below that of its call waits for the like, nor one above unless a payload is
copied.
-/
import LocStack.LocApi.SyncReq

namespace LocStack.LocApi

open Base List Option
open LocClientStatus

namespace SyncArray

variable (s : SyncArray)

/-! ## What is asked for -/

/-- The call waits for the indication. -/
def Expects (ind : Indication) (c : Nat) : Prop :=
  ∃ call, s.calls c = some call ∧ ind.client_handle = call.client_handle ∧ ind.ind_id = call.ind_id

/-- The modem answers the requests for one indication in the order in which they
were sent, each once, and no wait times out. -/
def Answers : SyncEvent → Prop
  | .loc_sync_process_ind ind answers => ∃ c, answers = some c ∧ s.Expects ind c ∧
      ∃ before after, s.owed = before ++ c :: after ∧ ∀ d ∈ before, ¬ s.Expects ind d
  | .wake _ timedOut => timedOut = false
  | _ => True

/-- An answer to the call has come, has completed it alone, and is in its
buffer. -/
def Mine (c : Nat) (call : SyncCall) : Prop :=
  ∃ ind, (ind, some c, [some c]) ∈ s.inds.zip s.hit ∧
    ∀ buf, call.buffer = some buf → ind.bytes <+: buf

structure Served : Prop where
  hit_eq : ∀ p ∈ s.hit, ∃ c, p = (some c, [some c])
  of_success : ∀ c call, s.calls c = some call → call.phase = .returned eLOC_CLIENT_SUCCESS →
    s.Mine c call
  none_left : ∀ c call i, s.calls c = some call → call.phase = .waiting i → c ∉ s.owed →
    (s.slots i).signalled = true

/-- What is asked of a step. -/
def InTurn : SyncEvent → Prop
  | .loc_sync_send_req .. => ∃ i, (s.slots i).slot_in_use = false
  | .loc_sync_process_ind ind answers => ∀ c call i, answers = some c → s.calls c = some call →
      call.phase.slot? = some i → (∀ j < i, ¬ (s.slots j).waitsFor ind) ∧
        ((s.slots i).consumes ind ∨ ∀ j > i, ¬ (s.slots j).waitsFor ind)
  | _ => True

/-! ## The slots that are hit -/

/-- Those that wait for it, up to the first that consumes it. -/
def hitsOf (ind : Indication) : List SlotId → List SlotId
  | [] => []
  | i :: is =>
    if (s.slots i).waitsFor ind then
      i :: if (s.slots i).consumes ind then [] else hitsOf ind is
    else hitsOf ind is

variable {s} {t : SyncArray} {ind : Indication} {c : Nat} {call : SyncCall} {i : SlotId}

theorem hitsOf_subset (is : List SlotId) : ∀ j ∈ s.hitsOf ind is, j ∈ is := by
  induction is with
  | nil => exact fun _ hj => hj
  | cons i is ih =>
    intro j hj
    unfold hitsOf at hj
    split at hj
    · rcases mem_cons.mp hj with rfl | hj
      · exact mem_cons_self
      · split at hj
        · cases hj
        · exact mem_cons_of_mem _ (ih j hj)
    · exact mem_cons_of_mem _ (ih j hj)

variable {is : List SlotId} {status : LocClientStatus}

theorem hitsOf_eq_nil_iff : s.hitsOf ind is = [] ↔ ∀ j ∈ is, ¬ (s.slots j).waitsFor ind := by
  induction is with
  | nil => exact iff_of_true rfl nofun
  | cons i is ih =>
    unfold hitsOf
    by_cases hw : (s.slots i).waitsFor ind
    · rw [if_pos hw]
      exact iff_of_false (cons_ne_nil _ _) fun h => h i mem_cons_self hw
    · rw [if_neg hw, ih, forall_mem_cons]
      exact (and_iff_right hw).symm

theorem hitsOf_eq_singleton_iff {pre post : List SlotId} (hnodup : (pre ++ i :: post).Nodup) :
    s.hitsOf ind (pre ++ i :: post) = [i] ↔
      (∀ j ∈ pre, ¬ (s.slots j).waitsFor ind) ∧ (s.slots i).waitsFor ind ∧
        ((s.slots i).consumes ind ∨ ∀ j ∈ post, ¬ (s.slots j).waitsFor ind) := by
  induction pre with
  | nil =>
    have hi : i ∉ post := (nodup_cons.mp hnodup).1
    rw [nil_append]
    unfold hitsOf
    by_cases hw : (s.slots i).waitsFor ind
    · rw [if_pos hw, cons_inj_right]
      by_cases hcons : (s.slots i).consumes ind
      · rw [if_pos hcons]
        exact iff_of_true rfl ⟨nofun, hw, .inl hcons⟩
      · rw [if_neg hcons, hitsOf_eq_nil_iff]
        exact ⟨fun h => ⟨nofun, hw, .inr h⟩, fun h => h.2.2.resolve_left hcons⟩
    · rw [if_neg hw]
      refine iff_of_false (fun h => hi ?_) fun h => hw h.2.1
      exact hitsOf_subset post i (h ▸ mem_cons_self)
  | cons j pre ih =>
    obtain ⟨hj, hnodup⟩ := nodup_cons.mp hnodup
    have hji : j ≠ i := by
      rintro rfl
      exact hj (mem_append_right _ mem_cons_self)
    rw [cons_append]
    unfold hitsOf
    by_cases hw : (s.slots j).waitsFor ind
    · rw [if_pos hw]
      exact iff_of_false (fun h => hji (List.cons.inj h).1) fun h => h.1 j mem_cons_self hw
    · rw [if_neg hw, ih hnodup, forall_mem_cons]
      exact and_congr_left fun _ => (and_iff_right hw).symm

theorem hitsOf_deliver (hi : i ∉ is) : (s.deliver ind i).hitsOf ind is = s.hitsOf ind is := by
  induction is with
  | nil => rfl
  | cons j is ih =>
    obtain ⟨hji, hi⟩ := not_or.mp (mt mem_cons.mpr hi)
    unfold hitsOf
    rw [slots_deliver_of_ne (Ne.symm hji), ih hi]

theorem scan_eq (s : SyncArray) (ind : Indication) (hnodup : is.Nodup) (in_use : Bool) :
    (scan ind s in_use is).1 = (s.hitsOf ind is).foldl (·.deliver ind ·) s ∧
      (scan ind s in_use is).2.2 = s.hitsOf ind is := by
  induction is generalizing s in_use with
  | nil => exact ⟨rfl, rfl⟩
  | cons i is ih =>
    obtain ⟨hi, hnodup⟩ := nodup_cons.mp hnodup
    unfold scan hitsOf
    by_cases hw : (s.slots i).waitsFor ind
    · rw [if_pos hw, if_pos hw]
      by_cases hcons : (s.slots i).consumes ind
      · rw [if_pos hcons, if_pos hcons]
        exact ⟨rfl, rfl⟩
      · rw [if_neg hcons, if_neg hcons]
        obtain ⟨h1, h2⟩ := ih (s.deliver ind i) hnodup (in_use || (s.slots i).slot_in_use)
        rw [hitsOf_deliver hi] at h1 h2
        exact ⟨h1, congrArg (i :: ·) h2⟩
    · rw [if_neg hw, if_neg hw]
      exact ih s hnodup _

theorem finRange_split (i : SlotId) :
    ∃ pre post, List.finRange LOC_SYNC_REQ_BUFFER_SIZE = pre ++ i :: post ∧
      (∀ j, j ∈ pre ↔ j < i) ∧ ∀ j, j ∈ post ↔ i < j := by
  obtain ⟨pre, post, heq⟩ := append_of_mem (mem_finRange i)
  have hsorted := pairwise_lt_finRange LOC_SYNC_REQ_BUFFER_SIZE
  rw [heq] at hsorted
  obtain ⟨-, hcons, hpre⟩ := pairwise_append.mp hsorted
  have hpost := (pairwise_cons.mp hcons).1
  have hlt : ∀ j ∈ pre, j < i := fun j hj => hpre j hj i mem_cons_self
  refine ⟨pre, post, heq, fun j => ⟨hlt j, fun hj => ?_⟩, fun j => ⟨hpost j, fun hj => ?_⟩⟩
  · have hmem := mem_finRange j
    rw [heq] at hmem
    rcases mem_append.mp hmem with hmem | hmem
    · exact hmem
    · rcases mem_cons.mp hmem with rfl | hmem
      · exact absurd hj (lt_irrefl _)
      · exact absurd (hpost j hmem) hj.asymm
  · have hmem := mem_finRange j
    rw [heq] at hmem
    rcases mem_append.mp hmem with hmem | hmem
    · exact absurd (hlt j hmem) hj.asymm
    · rcases mem_cons.mp hmem with rfl | hmem
      · exact absurd hj (lt_irrefl _)
      · exact hmem

theorem hitsOf_finRange_iff (i : SlotId) :
    s.hitsOf ind (List.finRange LOC_SYNC_REQ_BUFFER_SIZE) = [i] ↔
      (∀ j < i, ¬ (s.slots j).waitsFor ind) ∧ (s.slots i).waitsFor ind ∧
        ((s.slots i).consumes ind ∨ ∀ j > i, ¬ (s.slots j).waitsFor ind) := by
  obtain ⟨pre, post, heq, hpre, hpost⟩ := finRange_split i
  have hnodup := nodup_finRange LOC_SYNC_REQ_BUFFER_SIZE
  rw [heq] at hnodup ⊢
  rw [hitsOf_eq_singleton_iff hnodup]
  simp only [hpre, hpost]

/-! ## Whose answer is still to come -/

/-- The answer is still to come, or it has come and the call is told. -/
def Told (s : SyncArray) (c : Nat) (call : SyncCall) (told : Bool) : Prop :=
  (c ∈ s.owed ↔ told = false) ∧ (told = true → s.Mine c call)

/-- What is known of a call in these runs, by its phase. -/
def Turn (s : SyncArray) (c : Nat) (call : SyncCall) : Prop :=
  match call.phase with
  | .allocated _ => c ∉ s.owed
  | .selected i => c ∉ s.owed ∧ (s.slots i).ind_is_waiting = false ∧
      (s.slots i).ind_has_arrived = false
  | .sent i => (s.slots i).ind_is_waiting = false ∧
      s.Told c call (s.slots i).ind_has_arrived
  | .waiting i => (s.slots i).ind_is_waiting = true ∧ (s.slots i).ind_has_arrived = false ∧
      s.Told c call (s.slots i).signalled
  | .ended _ status => c ∉ s.owed ∧ (status = eLOC_CLIENT_SUCCESS → s.Mine c call)
  | .returned status => c ∉ s.owed ∧ (status = eLOC_CLIENT_SUCCESS → s.Mine c call)

structure Ordered (s : SyncArray) : Prop where
  kept : s.Kept
  length_eq : s.inds.length = s.hit.length
  hit_eq : ∀ p ∈ s.hit, ∃ c, p = (some c, [some c])
  hit_calls : ∀ c, (some c, [some c]) ∈ s.hit → ∃ call, s.calls c = some call
  owed_nodup : s.owed.Nodup
  owed_calls : ∀ c ∈ s.owed, ∃ call, s.calls c = some call
  turn : ∀ c call, s.calls c = some call → s.Turn c call

theorem ordered_new : new.Ordered where
  kept := kept_new
  length_eq := rfl
  hit_eq := nofun
  hit_calls := nofun
  owed_nodup := nodup_nil
  owed_calls := nofun
  turn := nofun

theorem Ordered.served (h : s.Ordered) : s.Served where
  hit_eq := h.hit_eq
  of_success c call hcall hphase := by
    have hturn := h.turn c call hcall
    unfold Turn at hturn
    rw [hphase] at hturn
    exact hturn.2 rfl
  none_left c call i hcall hphase howed := by
    have hturn := h.turn c call hcall
    unfold Turn at hturn
    rw [hphase] at hturn
    exact Bool.eq_true_of_not_eq_false fun hfalse => howed (hturn.2.2.1.mpr hfalse)

theorem Turn.congr (h : s.Turn c call) (howed : c ∈ t.owed ↔ c ∈ s.owed)
    (hmine : s.Mine c call → t.Mine c call)
    (hslot : ∀ i, call.phase.slot? = some i → t.slots i = s.slots i) : t.Turn c call := by
  have htold : ∀ told, s.Told c call told → t.Told c call told :=
    fun told h => ⟨howed.trans h.1, fun ht => hmine (h.2 ht)⟩
  unfold Turn at h ⊢
  split at h <;> rename_i hphase <;> simp only [hphase] at hslot ⊢
  · exact fun hc => h (howed.mp hc)
  · rw [hslot _ rfl]
    exact ⟨fun hc => h.1 (howed.mp hc), h.2⟩
  · rw [hslot _ rfl]
    exact ⟨h.1, htold _ h.2⟩
  · rw [hslot _ rfl]
    exact ⟨h.1, h.2.1, htold _ h.2.2⟩
  · exact ⟨fun hc => h.1 (howed.mp hc), fun hst => hmine (h.2 hst)⟩
  · exact ⟨fun hc => h.1 (howed.mp hc), fun hst => hmine (h.2 hst)⟩

theorem Ordered.act {slot : SyncSlot} {call' : SyncCall} (h : s.Ordered) (owed : List Nat)
    (hcall : s.calls c = some call) (hi : call.phase.slot? = some i)
    (hslots : t.slots = (s.setSlot i slot).slots) (hcalls : t.calls = (s.setCall c call').calls)
    (hinds : t.inds = s.inds) (hhit : t.hit = s.hit) (hkept : t.Kept)
    (howed : t.owed = owed) (hnodup : owed.Nodup) (hmem : ∀ d, d ≠ c → (d ∈ owed ↔ d ∈ s.owed))
    (hturn : t.Turn c call') : t.Ordered where
  kept := hkept
  length_eq := by rw [hinds, hhit]; exact h.length_eq
  hit_eq := by rw [hhit]; exact h.hit_eq
  hit_calls d hd := by
    rw [hhit] at hd
    rw [hcalls]
    by_cases hdc : d = c
    · exact ⟨call', hdc ▸ calls_setCall_self _ _ _⟩
    · rw [calls_setCall_of_ne hdc]
      exact h.hit_calls d hd
  owed_nodup := howed ▸ hnodup
  owed_calls d hd := by
    rw [howed] at hd
    rw [hcalls]
    by_cases hdc : d = c
    · exact ⟨call', hdc ▸ calls_setCall_self _ _ _⟩
    · rw [calls_setCall_of_ne hdc]
      exact h.owed_calls d ((hmem d hdc).mp hd)
  turn d other hd := by
    rw [hcalls] at hd
    by_cases hdc : d = c
    · subst hdc
      rw [calls_setCall_self] at hd
      exact some.inj hd ▸ hturn
    · rw [calls_setCall_of_ne hdc] at hd
      refine (h.turn d other hd).congr (howed ▸ hmem d hdc) ?_ fun j hj => ?_
      · unfold Mine
        rw [hinds, hhit]
        exact id
      · rw [hslots, slots_setSlot_of_ne (h.kept.threads.slot_ne hcall hi hd hdc hj)]

/-! ## The steps of a thread -/

theorem Turn.of_sent (h : s.Turn c call) (hphase : call.phase = .sent i) :
    (s.slots i).ind_is_waiting = false ∧ s.Told c call (s.slots i).ind_has_arrived := by
  unfold Turn at h
  rw [hphase] at h
  exact h

theorem Turn.of_waiting (h : s.Turn c call) (hphase : call.phase = .waiting i) :
    (s.slots i).ind_is_waiting = true ∧ (s.slots i).ind_has_arrived = false ∧
      s.Told c call (s.slots i).signalled := by
  unfold Turn at h
  rw [hphase] at h
  exact h

theorem Told.not_owed (h : s.Told c call true) : c ∉ s.owed := fun hc => nomatch h.1.mp hc

section

variable (h : s.Ordered) (hcall : s.calls c = some call)
include h hcall

theorem Ordered.select (hphase : call.phase = .allocated i) (hkept : (s.select c call i).Kept) :
    (s.select c call i).Ordered := by
  have hi : call.phase.slot? = some i := by rw [hphase]; rfl
  have hturn := h.turn c call hcall
  unfold Turn at hturn
  rw [hphase] at hturn
  refine h.act s.owed hcall hi rfl rfl rfl rfl hkept rfl h.owed_nodup (fun _ _ => Iff.rfl)
    ⟨hturn, ?_, ?_⟩ <;> unfold SyncArray.select <;> rw [slots_setCall, slots_setSlot_self]

theorem Ordered.send (hphase : call.phase = .selected i) (hkept : (s.send c call i status).Kept) :
    (s.send c call i status).Ordered := by
  have hi : call.phase.slot? = some i := by rw [hphase]; rfl
  have hturn := h.turn c call hcall
  unfold Turn at hturn
  rw [hphase] at hturn
  obtain ⟨howed, hwaiting, harrived⟩ := hturn
  have hslots : s.slots = (s.setSlot i (s.slots i)).slots := by rw [setSlot_self]
  unfold SyncArray.send at hkept ⊢
  split at hkept
  · rename_i hstatus
    rw [if_pos hstatus]
    refine h.act (s.owed ++ [c]) hcall hi hslots rfl rfl rfl hkept rfl ?_ ?_ ?_
    · refine nodup_append.mpr ⟨h.owed_nodup, nodup_singleton c, ?_⟩
      rintro a ha b hb rfl
      exact howed (mem_singleton.mp hb ▸ ha)
    · intro d hd
      rw [mem_append, mem_singleton]
      exact or_iff_left hd
    · refine ⟨hwaiting, iff_of_true (mem_append_right _ mem_cons_self) harrived, ?_⟩
      intro htold
      exact nomatch harrived.symm.trans htold
  · rename_i hstatus
    rw [if_neg hstatus]
    exact h.act s.owed hcall hi hslots rfl rfl rfl hkept rfl h.owed_nodup (fun _ _ => Iff.rfl)
      ⟨howed, fun heq => absurd heq hstatus⟩

theorem Ordered.wait (hphase : call.phase = .sent i) (hkept : (s.wait c call i).Kept) :
    (s.wait c call i).Ordered := by
  have hi : call.phase.slot? = some i := by rw [hphase]; rfl
  have hholds := (h.kept.threads.ok c call hcall).holds hi
  obtain ⟨hwaiting, htold⟩ := (h.turn c call hcall).of_sent hphase
  have hslots : s.slots = (s.setSlot i (s.slots i)).slots := by rw [setSlot_self]
  unfold SyncArray.wait at hkept ⊢
  rw [if_neg (by rw [hholds.1]; nofun)] at hkept ⊢
  by_cases harrived : (s.slots i).ind_has_arrived = true
  · rw [if_pos harrived] at hkept ⊢
    rw [harrived] at htold
    exact h.act s.owed hcall hi hslots rfl rfl rfl hkept rfl h.owed_nodup (fun _ _ => Iff.rfl)
      ⟨htold.not_owed, fun _ => htold.2 rfl⟩
  · rw [if_neg harrived, if_neg (by rw [hwaiting]; nofun)] at hkept ⊢
    rw [Bool.eq_false_iff.mpr harrived] at htold
    refine h.act s.owed hcall hi rfl rfl rfl rfl hkept rfl h.owed_nodup (fun _ _ => Iff.rfl)
      ⟨?_, ?_, ?_⟩ <;> rw [slots_setCall, slots_setSlot_self]
    · exact Bool.eq_false_iff.mpr harrived
    · exact ⟨htold.1, nofun⟩

theorem Ordered.wake (hphase : call.phase = .waiting i) (hkept : (s.wake c call i false).Kept) :
    (s.wake c call i false).Ordered := by
  have hi : call.phase.slot? = some i := by rw [hphase]; rfl
  obtain ⟨-, -, htold⟩ := (h.turn c call hcall).of_waiting hphase
  unfold SyncArray.wake at hkept ⊢
  simp only [Bool.false_eq_true, if_false] at hkept ⊢
  split at hkept
  · rename_i hsignalled
    rw [if_pos hsignalled]
    rw [hsignalled] at htold
    exact h.act s.owed hcall hi rfl rfl rfl rfl hkept rfl h.owed_nodup (fun _ _ => Iff.rfl)
      ⟨htold.not_owed, fun _ => htold.2 rfl⟩
  · rename_i hsignalled
    rw [if_neg hsignalled]
    exact h

theorem Ordered.free (hphase : call.phase = .ended i status)
    (hkept : (s.free c call i status).Kept) : (s.free c call i status).Ordered := by
  have hi : call.phase.slot? = some i := by rw [hphase]; rfl
  have hturn := h.turn c call hcall
  unfold Turn at hturn
  rw [hphase] at hturn
  unfold SyncArray.free at hkept ⊢
  simp only at hkept ⊢
  split at hkept <;> rename_i hfree
  · rw [if_pos hfree]
    exact h.act s.owed hcall hi rfl rfl rfl rfl hkept rfl h.owed_nodup (fun _ _ => Iff.rfl) hturn
  · rw [if_neg hfree]
    exact h.act s.owed hcall hi rfl rfl rfl rfl hkept rfl h.owed_nodup (fun _ _ => Iff.rfl) hturn

end

theorem Ordered.begin (h : s.Ordered) (hfree : ∃ i, (s.slots i).slot_in_use = false)
    {client_handle : ClientHandle} {req_id ind_id : UInt32} {buffer : Option (List UInt8)}
    (hkept : (s.begin client_handle req_id ind_id buffer).Kept) :
    (s.begin client_handle req_id ind_id buffer).Ordered := by
  obtain ⟨j, hj⟩ := hfree
  obtain ⟨i, hi⟩ := ne_none_iff_exists'.mp (firstFree_isSome hj)
  have hmade : s.calls s.made = none := h.kept.threads.fresh _ le_rfl
  have hne : ∀ d other, s.calls d = some other → d ≠ s.made := by
    rintro d other hd rfl
    exact some_ne_none other (hd.symm.trans hmade)
  unfold SyncArray.begin at hkept ⊢
  simp only [hi] at hkept ⊢
  refine ⟨hkept, h.length_eq, h.hit_eq, fun d hd => ?_, h.owed_nodup, fun d hd => ?_,
    fun d other hd => ?_⟩
  · obtain ⟨other, hother⟩ := h.hit_calls d hd
    exact ⟨other, (calls_setCall_of_ne (hne d other hother)).trans hother⟩
  · obtain ⟨other, hother⟩ := h.owed_calls d hd
    exact ⟨other, (calls_setCall_of_ne (hne d other hother)).trans hother⟩
  · by_cases hdc : d = s.made
    · subst hdc
      obtain rfl := some.inj ((calls_setCall_self _ _ _).symm.trans hd)
      intro howed
      obtain ⟨other, hother⟩ := h.owed_calls _ howed
      exact hne _ other hother rfl
    · have hd' : s.calls d = some other := (calls_setCall_of_ne hdc).symm.trans hd
      refine (h.turn d other hd').congr Iff.rfl id fun k hk => slots_setSlot_of_ne ?_
      rintro rfl
      have huse := ((h.kept.threads.ok d other hd').holds hk).1
      rw [firstFree_spec hi] at huse
      cases huse

/-! ## An answer -/

theorem Ordered.waitsFor (h : s.Ordered) (howed : c ∈ s.owed) (hexp : s.Expects ind c) :
    ∃ call i, s.calls c = some call ∧ (call.phase = .sent i ∨ call.phase = .waiting i) ∧
      (s.slots i).waitsFor ind := by
  obtain ⟨call, hcall, hhandle, hid⟩ := hexp
  have hturn := h.turn c call hcall
  have hok := h.kept.threads.ok c call hcall
  cases hphase : call.phase with
  | allocated i =>
    unfold Turn at hturn
    rw [hphase] at hturn
    exact absurd howed hturn
  | selected i =>
    unfold Turn at hturn
    rw [hphase] at hturn
    exact absurd howed hturn.1
  | sent i =>
    obtain ⟨-, htold⟩ := hturn.of_sent hphase
    obtain ⟨⟨hholds, h1, h2, -⟩, -⟩ := hok.of_sent hphase
    exact ⟨call, i, hcall, .inl hphase, hholds.1, h1.trans hhandle.symm, hid.trans h2.symm,
      htold.1.mp howed⟩
  | waiting i =>
    obtain ⟨-, harrived, -⟩ := hturn.of_waiting hphase
    obtain ⟨⟨hholds, h1, h2, -⟩, -⟩ := hok.of_waiting hphase
    exact ⟨call, i, hcall, .inr hphase, hholds.1, h1.trans hhandle.symm, hid.trans h2.symm,
      harrived⟩
  | ended i status =>
    unfold Turn at hturn
    rw [hphase] at hturn
    exact absurd howed hturn.1
  | returned status =>
    unfold Turn at hturn
    rw [hphase] at hturn
    exact absurd howed hturn.1

theorem hits_processInd (h : s.in_use = true) :
    (s.processInd ind).2 = s.hitsOf ind (List.finRange LOC_SYNC_REQ_BUFFER_SIZE) := by
  unfold processInd
  rw [if_neg (by rw [h]; nofun)]
  exact (scan_eq s ind (nodup_finRange _) false).2

theorem processInd_of_hits (hthreads : s.Threads) (hrecent : s.Recent ind) (h : s.in_use = true)
    (hw : (s.slots i).waitsFor ind)
    (hhits : s.hitsOf ind (List.finRange LOC_SYNC_REQ_BUFFER_SIZE) = [i]) :
    s.processInd ind = (s.deliver ind i, [i]) := by
  obtain ⟨h1, h2⟩ := scan_eq s ind (nodup_finRange LOC_SYNC_REQ_BUFFER_SIZE) false
  have hflag : (scan ind s false (List.finRange LOC_SYNC_REQ_BUFFER_SIZE)).2.1 = true := by
    by_contra hfalse
    have hnone := ((scan_spec _ _ hthreads hrecent).2.2.2 (Bool.eq_false_iff.mpr hfalse)).2 i
      (mem_finRange i)
    exact nomatch hw.1.symm.trans hnone
  rw [hhits] at h1 h2
  unfold processInd
  rw [if_neg (by rw [h]; nofun)]
  simp only [hflag, if_true, h1, h2, foldl_cons, foldl_nil]

/-- The array when an answer has completed the call that has the slot. -/
def complete (s : SyncArray) (ind : Indication) (c : Nat) (i : SlotId) : SyncArray :=
  { (s.arrive ind).deliver ind i with
    owed := s.owed.erase c
    hit := s.hit ++ [(some c, [some c])] }

theorem zip_complete (h : s.Ordered) : (s.complete ind c i).inds.zip (s.complete ind c i).hit =
      s.inds.zip s.hit ++ [(ind, some c, [some c])] := by
  show (s.inds ++ [ind]).zip (s.hit ++ [(some c, [some c])]) = _
  rw [zip_append h.length_eq]
  rfl

theorem Mine.complete (h : s.Ordered) {d : Nat} {other : SyncCall} (hmine : s.Mine d other) :
    (s.complete ind c i).Mine d other := by
  obtain ⟨old, hold, hbuffer⟩ := hmine
  refine ⟨old, ?_, hbuffer⟩
  rw [zip_complete h]
  exact mem_append_left _ hold

theorem mine_complete (h : s.Ordered) :
    (s.complete ind c i).Mine c (call.memcpy ind.bytes) := by
  refine ⟨ind, ?_, fun buf hbuf => ?_⟩
  · rw [zip_complete h]
    exact mem_append_right _ mem_cons_self
  · obtain ⟨old, -, rfl⟩ := map_eq_some_iff.mp hbuf
    exact prefix_append _ _

theorem slots_complete_self : (s.complete ind c i).slots i =
    if (s.slots i).ind_is_waiting then
      { s.slots i with recv_ind_id := ind.ind_id, signalled := true }
    else { s.slots i with ind_has_arrived := true } := Function.update_self _ _ _

section

variable (h : s.Ordered) (hcall : s.calls c = some call)
  (hphase : call.phase = .sent i ∨ call.phase = .waiting i)
include h hcall hphase

theorem turn_complete : (s.complete ind c i).Turn c (call.memcpy ind.bytes) := by
  have hturn := h.turn c call hcall
  have htold : (s.complete ind c i).Told c (call.memcpy ind.bytes) true := by
    refine ⟨iff_of_false ?_ nofun, fun _ => mine_complete h⟩
    exact fun howed => (h.owed_nodup.mem_erase_iff.mp howed).1 rfl
  have hsame : (call.memcpy ind.bytes).phase = call.phase := rfl
  unfold Turn
  rw [hsame]
  rcases hphase with hphase | hphase <;> rw [hphase] <;> simp only [slots_complete_self]
  · have hwaiting := (hturn.of_sent hphase).1
    rw [if_neg (by rw [hwaiting]; nofun)]
    exact ⟨hwaiting, htold⟩
  · obtain ⟨hwaiting, harrived, -⟩ := hturn.of_waiting hphase
    rw [if_pos hwaiting]
    exact ⟨hwaiting, harrived, htold⟩

theorem Ordered.complete (hkept : (s.complete ind c i).Kept) : (s.complete ind c i).Ordered := by
  have hthreads := h.kept.threads
  have hi : call.phase.slot? = some i := by rcases hphase with hp | hp <;> rw [hp] <;> rfl
  have hok := hthreads.ok c call hcall
  have hholder := (hok.holds hi).2
  have hfilled : s.Filled c call i :=
    hok.filled hi (by rcases hphase with hp | hp <;> rw [hp] <;> nofun)
  have hexists : ∀ d other, s.calls d = some other →
      ∃ other', (s.complete ind c i).calls d = some other' := by
    intro d other hd
    rcases calls_deliver_or (s.arrive ind) ind i d with hsame | hcopy
    · exact ⟨other, hsame.trans hd⟩
    · refine ⟨other.memcpy ind.bytes, hcopy.trans ?_⟩
      show (s.calls d).map _ = _
      rw [hd]
      rfl
  refine ⟨hkept, ?_, fun p hp => ?_, fun d hd => ?_, h.owed_nodup.erase c, fun d hd => ?_,
    fun d other hd => ?_⟩
  · show (s.inds ++ [ind]).length = (s.hit ++ [_]).length
    rw [length_append, length_append, h.length_eq]
    rfl
  · rcases mem_append.mp hp with hp | hp
    · exact h.hit_eq p hp
    · exact ⟨c, mem_singleton.mp hp⟩
  · rcases mem_append.mp hd with hd | hd
    · obtain ⟨other, hother⟩ := h.hit_calls d hd
      exact hexists d other hother
    · obtain rfl := some.inj (Prod.ext_iff.mp (mem_singleton.mp hd)).1
      exact hexists d call hcall
  · obtain ⟨other, hother⟩ := h.owed_calls d (mem_of_mem_erase hd)
    exact hexists d other hother
  · by_cases hdc : d = c
    · subst hdc
      have hcopy : ((s.arrive ind).deliver ind i).calls d = some (call.memcpy ind.bytes) :=
        calls_deliver (s := s.arrive ind) hcall hfilled.ptr_eq
      obtain rfl := some.inj (hcopy.symm.trans hd)
      exact turn_complete h hcall hphase
    · have hptr : (s.slots i).recv_ind_payload_ptr ≠ some d := by
        intro hptr
        exact hdc (some.inj ((hthreads.of_ptr i d hptr).symm.trans hholder))
      have hd' : s.calls d = some other :=
        (calls_deliver_of_ptr (s := s.arrive ind) hptr).symm.trans hd
      refine (h.turn d other hd').congr (mem_erase_of_ne hdc) (·.complete h) fun j hj => ?_
      exact slots_setSlot_of_ne (hthreads.slot_ne hcall hi hd' hdc hj)

end

/-! ## Every run -/

theorem Ordered.hits_iff (h : s.Ordered) (howed : c ∈ s.owed) (hexp : s.Expects ind c) :
    ∃ call i, s.calls c = some call ∧ (call.phase = .sent i ∨ call.phase = .waiting i) ∧
      (s.slots i).waitsFor ind ∧
      (s.InTurn (.loc_sync_process_ind ind (some c)) ↔
        s.hitsOf ind (List.finRange LOC_SYNC_REQ_BUFFER_SIZE) = [i]) := by
  obtain ⟨call, i, hcall, hphase, hw⟩ := h.waitsFor howed hexp
  have hi : call.phase.slot? = some i := by rcases hphase with hp | hp <;> rw [hp] <;> rfl
  refine ⟨call, i, hcall, hphase, hw, ?_⟩
  rw [hitsOf_finRange_iff]
  constructor
  · intro hok
    obtain ⟨h1, h2⟩ := hok c call i rfl hcall hi
    exact ⟨h1, hw, h2⟩
  · rintro ⟨h1, -, h2⟩ d other j ⟨⟩ hother hj
    obtain rfl := some.inj (hcall.symm.trans hother)
    obtain rfl := some.inj (hi.symm.trans hj)
    exact ⟨h1, h2⟩

theorem findsSlot_of_inTurn {e : SyncEvent} (h : s.InTurn e) : s.FindsSlot e := by
  cases e with
  | loc_sync_send_req => exact h
  | select | send | wait | wake | free | loc_sync_process_ind => trivial

theorem step_process (s : SyncArray) (ind : Indication) (answers : Option Nat) :
    (s.step (.loc_sync_process_ind ind answers)).1 = { ((s.arrive ind).processInd ind).1 with
        owed := answers.elim s.owed s.owed.erase
        hit := s.hit ++ [(answers, ((s.arrive ind).processInd ind).2.map
          fun i => (s.slots i).holder)] } := rfl

theorem Ordered.step_process (h : s.Ordered) (hcall : s.calls c = some call)
    (hphase : call.phase = .sent i ∨ call.phase = .waiting i) (hw : (s.slots i).waitsFor ind)
    (hhits : s.hitsOf ind (List.finRange LOC_SYNC_REQ_BUFFER_SIZE) = [i]) :
    (s.step (.loc_sync_process_ind ind (some c))).1 = s.complete ind c i := by
  have hi : call.phase.slot? = some i := by rcases hphase with hp | hp <;> rw [hp] <;> rfl
  have hholder := ((h.kept.threads.ok c call hcall).holds hi).2
  have hprocess : (s.arrive ind).processInd ind = ((s.arrive ind).deliver ind i, [i]) :=
    processInd_of_hits (h.kept.threads.arrive ind) (h.kept.threads.recent ind)
      (h.kept.inUse.mpr ⟨i, hw.1⟩) hw hhits
  rw [SyncArray.step_process, hprocess]
  show ({ (s.arrive ind).deliver ind i with
    owed := s.owed.erase c
    hit := s.hit ++ [(some c, [(s.slots i).holder])] } : SyncArray) = _
  rw [hholder]
  rfl

theorem Ordered.process (h : s.Ordered) {answers : Option Nat}
    (hpre : s.Answers (.loc_sync_process_ind ind answers))
    (hok : s.InTurn (.loc_sync_process_ind ind answers))
    (hkept : (s.step (.loc_sync_process_ind ind answers)).1.Kept) :
    (s.step (.loc_sync_process_ind ind answers)).1.Ordered := by
  obtain ⟨c, rfl, hexp, before, after, howed, -⟩ := hpre
  have hmem : c ∈ s.owed := howed ▸ mem_append_right _ mem_cons_self
  obtain ⟨call, i, hcall, hphase, hw, hturn⟩ := h.hits_iff hmem hexp
  rw [h.step_process hcall hphase hw (hturn.mp hok)] at hkept ⊢
  exact h.complete hcall hphase hkept

theorem Ordered.step (h : s.Ordered) (e : SyncEvent) (hpre : s.Answers e) (hok : s.InTurn e) :
    (s.step e).1.Ordered := by
  have hkept := h.kept.step e (findsSlot_of_inTurn hok)
  have hto := s.stepsTo e
  generalize ht : (s.step e).1 = t at hto hkept ⊢
  cases hto with
  | begin => exact h.begin hok hkept
  | stays => exact h
  | select hcall hphase => exact h.select hcall hphase hkept
  | send status hcall hphase => exact h.send hcall hphase hkept
  | wait hcall hphase => exact h.wait hcall hphase hkept
  | wake timedOut hcall hphase =>
    obtain rfl : timedOut = false := hpre
    exact h.wake hcall hphase hkept
  | free hcall hphase => exact h.free hcall hphase hkept
  | process ind answers => exact h.process hpre hok hkept

theorem hit_begin (client_handle : ClientHandle) (req_id ind_id : UInt32)
    (buffer : Option (List UInt8)) :
    (s.begin client_handle req_id ind_id buffer).hit = s.hit := by
  unfold SyncArray.begin
  cases s.firstFree <;> rfl

theorem Ordered.hits_eq (h : s.Ordered) (hcall : s.calls c = some call)
    (hi : call.phase.slot? = some i) {hits : List SlotId}
    (hmap : hits.map (fun k => (s.slots k).holder) = [some c]) : hits = [i] := by
  obtain ⟨k, rfl, hk⟩ := map_eq_singleton_iff.mp hmap
  obtain ⟨other, hother, hslot⟩ := h.kept.threads.of_holder k c hk
  obtain rfl := some.inj (hcall.symm.trans hother)
  exact congrArg (fun j => [j]) (some.inj (hslot.symm.trans hi))

theorem Ordered.inTurn (h : s.Ordered) (e : SyncEvent) (hpre : s.Answers e)
    (hstep : (s.step e).1.Served) : s.InTurn e := by
  cases e with
  | loc_sync_send_req client_handle req_id ind_id buffer =>
    by_contra hfull
    have hcall := calls_begin_of_full hfull client_handle req_id ind_id buffer
    obtain ⟨ind, hind, -⟩ := hstep.of_success _ _ hcall rfl
    have hmem := (of_mem_zip hind).2
    dsimp only [SyncArray.step] at hmem
    rw [hit_begin] at hmem
    obtain ⟨call, hmade⟩ := h.hit_calls _ hmem
    exact some_ne_none call (hmade.symm.trans (h.kept.threads.fresh _ le_rfl))
  | select | send | wait | wake | free => trivial
  | loc_sync_process_ind ind answers =>
    obtain ⟨c, rfl, hexp, before, after, howed, -⟩ := hpre
    have hmem : c ∈ s.owed := howed ▸ mem_append_right _ mem_cons_self
    obtain ⟨call, i, hcall, hphase, hw, hturn⟩ := h.hits_iff hmem hexp
    have hi : call.phase.slot? = some i := by rcases hphase with hp | hp <;> rw [hp] <;> rfl
    rw [SyncArray.step_process] at hstep
    obtain ⟨d, hd⟩ := hstep.hit_eq
      (some c, ((s.arrive ind).processInd ind).2.map fun k => (s.slots k).holder)
      (mem_append_right _ mem_cons_self)
    obtain ⟨hcd, hmap⟩ := Prod.ext_iff.mp hd
    obtain rfl := some.inj hcd
    have hhits := h.hits_eq hcall hi hmap
    rw [hits_processInd (s := s.arrive ind) (h.kept.inUse.mpr ⟨i, hw.1⟩)] at hhits
    exact hturn.mpr hhits

/-- With a modem that answers each request once and in order, and no time-out,
every answer completes its own call and no other, in every state of a run, if
and only if all its steps are in turn. -/
theorem own_answer_iff {es : List SyncEvent} (hpre : StepsMeet step Answers new es) :
    StatesMeet step Served new es ↔ StepsMeet step InTurn new es :=
  statesMeet_iff_stepsMeet_of_pre Ordered (fun _ h => h.served)
    (fun _ e h hpre hok => h.step e hpre hok) (fun _ e h hpre hstep => h.inTurn e hpre hstep)
    ordered_new hpre

/-- A call is sent, answered and returns. -/
def oneCall : List SyncEvent :=
  [.loc_sync_send_req 1 40 40 none, .select 0, .send 0 eLOC_CLIENT_SUCCESS,
    .loc_sync_process_ind ⟨1, 40, none⟩ (some 0), .wait 0, .free 0]

theorem answers_oneCall : StepsMeet step Answers new oneCall :=
  ⟨trivial, trivial, trivial,
    ⟨0, rfl, ⟨⟨1, 40, 40, none, .sent 0, true, 0⟩, rfl, rfl, rfl⟩, [], [], rfl, nofun⟩,
    trivial, trivial, trivial⟩

theorem served_oneCall :
    StatesMeet step Served new oneCall ↔ StepsMeet step InTurn new oneCall :=
  own_answer_iff answers_oneCall

/-- Two calls of one client for one indication, and the answer to the first. -/
def twoCalls : List SyncEvent :=
  [.loc_sync_send_req 1 40 40 none, .select 0, .send 0 eLOC_CLIENT_SUCCESS,
    .loc_sync_send_req 1 40 40 none, .select 1, .send 1 eLOC_CLIENT_SUCCESS,
    .loc_sync_process_ind ⟨1, 40, none⟩ (some 0)]

theorem answers_twoCalls : StepsMeet step Answers new twoCalls :=
  ⟨trivial, trivial, trivial, trivial, trivial, trivial,
    ⟨0, rfl, ⟨⟨1, 40, 40, none, .sent 0, true, 0⟩, rfl, rfl, rfl⟩, [], [1], rfl, nofun⟩, trivial⟩

/-- An answer without a payload completes them both. -/
theorem not_served_twoCalls :
    ¬ ∀ es, StepsMeet step Answers new es → StatesMeet step Served new es := by
  intro h
  obtain ⟨c, hc⟩ := (h twoCalls answers_twoCalls).last.hit_eq (some 0, [some 0, some 1]) (by decide)
  exact nomatch (Prod.ext_iff.mp hc).2

end SyncArray

end LocStack.LocApi
