/-
# `LocStack.Ipc.Senders` — several senders, one receiving socket

Each sender calls `Sock::send` for one payload after the other.  The socket
gets their datagrams in some order that keeps each sender's own; such an
order is a list of senders, each entry being that sender's next datagram.

The receiver takes what follows an announcement for the announced message,
whoever sent it.  `onTime_iff`: every payload is delivered when its last
datagram is there, and nothing else is, exactly if no payload is begun while
another is under way, and all are plain.

That a mixture cannot come out right by accident is a matter of counting
bytes.  `excess` is what the senders have sent of payloads under way, less
what the receiver has of the message it is in.  While everything is on time
it cannot shrink (`excess_le`); once two payloads are under way and the
receiver is in a message (`Lost`), it has to grow at the next delivery; and
when all senders are done there is none left.
-/
import LocStack.Ipc.Sock
import Mathlib.Algebra.Order.BigOperators.Group.Finset

namespace LocStack.Ipc

open Base List Function Option

/-- A payload under way, and its datagrams that are not sent yet. -/
structure Flight where
  payload : Payload
  rest : List (List UInt8)

/-- The senders, with what they have still to send and what they are sending,
and the receiver. -/
structure Net (τ : Type*) where
  todo : τ → List Payload
  current : τ → Option Flight
  recver : Recver

/-- A datagram arrived: what was delivered, and which payload it was the last
one of. -/
structure Arrival where
  delivered : List (List UInt8)
  completed : Option Payload

namespace Net

variable {τ : Type*} [DecidableEq τ]

def start (todo : τ → List Payload) : Net τ := ⟨todo, fun _ => none, .listening⟩

/-- The sender's next datagram, of which payload it is, and what is left of
that. -/
def next (M : Nat) (net : Net τ) (t : τ) : Option (Payload × List UInt8 × List (List UInt8)) :=
  match net.current t with
  | some f =>
    match f.rest with
    | [] => none
    | d :: rest => some (f.payload, d, rest)
  | none =>
    match net.todo t with
    | [] => none
    | p :: _ =>
      match send M p.bytes with
      | [] => none
      | d :: rest => some (p, d, rest)

/-- The sender's next datagram goes to the receiver. -/
def step (M : Nat) (net : Net τ) (t : τ) : Net τ × List Arrival :=
  match net.next M t with
  | none => (net, [])
  | some (p, d, rest) =>
    ({ todo :=
        if (net.current t).isNone then update net.todo t (net.todo t).tail
        else net.todo
       current := update net.current t (if rest = [] then none else some ⟨p, rest⟩)
       recver := (feed M net.recver d).1 },
      [⟨(feed M net.recver d).2, if rest = [] then some p else none⟩])

/-- What is delivered is just what is complete. -/
def OnTime (M : Nat) (net : Net τ) (t : τ) : Prop :=
  ∀ a ∈ (net.step M t).2, a.delivered = a.completed.toList.map Payload.bytes

/-- If the sender begins a payload, it is plain and no other is under way. -/
def Alone (M : Nat) (net : Net τ) (t : τ) : Prop :=
  net.current t = none → ∀ p ∈ (net.todo t).head?, p.Plain M ∧ ∀ s, net.current s = none

end Net

/-! ## Bytes -/

/-- What is sent of a payload under way. -/
def sentBytes (M : Nat) : Option Flight → Int
  | none => 0
  | some f => ((send M f.payload.bytes).flatten.length : Int) - f.rest.flatten.length

/-- What the receiver has of the message it is in. -/
def Recver.bytes : Recver → Nat
  | .inLong h msg _ => h.length + msg.length
  | _ => 0

/-- Part of the payload's datagrams are sent, and part are not. -/
def Flight.Under (M : Nat) (f : Flight) : Prop :=
  f.rest ≠ [] ∧ ∃ d ds, send M f.payload.bytes = d :: ds ++ f.rest

/-- A long message is not yet full, and its announcement has the characters
that its length takes. -/
def Recver.Fair : Recver → Prop
  | .inLong h msg n =>
    msg.length < n ∧ (n < 2 ^ 32 → 8 + (Nat.digits 10 n).length ≤ h.length)
  | _ => True

section Bytes

variable {M : Nat} {p : Payload} {d : List UInt8} {f : Flight} {r : Recver}

theorem head_send_ne_nil {ds : List (List UInt8)} (h : send M p.bytes = d :: ds) : d ≠ [] := by
  rw [p.send_eq, sendto] at h
  split at h
  · obtain ⟨rfl, -⟩ := List.cons.inj h
    exact p.ne_nil
  · obtain ⟨rfl, -⟩ := List.cons.inj h
    exact cons_ne_nil _ _

theorem sentBytes_eq {sent : List (List UInt8)} (h : send M f.payload.bytes = sent ++ f.rest) :
    sentBytes M (some f) = sent.flatten.length := by
  show ((send M f.payload.bytes).flatten.length : Int) - f.rest.flatten.length = _
  rw [h, flatten_append, length_append]
  omega

theorem Flight.Under.pos (h : f.Under M) : 0 < sentBytes M (some f) := by
  obtain ⟨-, d, ds, hsend⟩ := h
  have hd := length_pos_of_ne_nil (head_send_ne_nil hsend)
  rw [sentBytes_eq hsend, flatten_cons, length_append]
  omega

theorem length_send_le (hlong : M < p.bytes.length) : (send M p.bytes).flatten.length ≤
      8 + (Nat.digits 10 p.bytes.length).length + p.bytes.length := by
  rw [p.send_eq, sendto, if_neg (Nat.not_le.mpr hlong), flatten_cons, length_append,
    length_head p.length_pos]
  have hchunks : (sendChunks M p.bytes.length p.bytes).flatten.length ≤ p.bytes.length := by
    rcases Nat.eq_zero_or_pos M with rfl | hM
    · cases p.bytes.length with
      | zero => exact Nat.le_refl _
      | succ n =>
        rw [sendChunks, if_neg p.ne_nil, if_pos rfl]
        exact Nat.zero_le _
    · rw [flatten_sendChunks hM (Nat.le_refl _)]
  omega

theorem length_of_isHead {msg : List UInt8} (h : isHead msg = true) : 8 ≤ msg.length := by
  have hnul : (0 : UInt8) ∉ LOC_IPC_HEAD := by decide
  exact length_le_of_strncmpEq hnul h

theorem Recver.Fair.feed (hr : r.Fair) (d : List UInt8) : (feed M r d).1.Fair := by
  cases r with
  | ended => trivial
  | inLong h msg n =>
    show (recvMore h msg n _).1.Fair
    unfold recvMore
    split
    · trivial
    split
    · rename_i hlt
      exact ⟨hlt, hr.2⟩
    · trivial
  | listening =>
    show (if M = 0 then _ else recvFirst (d.take M)).1.Fair
    split
    · trivial
    · generalize d.take M = got
      unfold recvFirst
      split
      · trivial
      split
      · trivial
      split
      · trivial
      split
      · trivial
      · rename_i hhead hlen
        refine ⟨Nat.pos_of_ne_zero hlen, fun hwidth => ?_⟩
        have h8 : 8 ≤ got.length := length_of_isHead (by simpa using hhead)
        unfold msgLenOf at hlen hwidth ⊢
        cases hscan : scanZu (got.drop LOC_IPC_HEAD.length) with
        | none =>
          rw [hscan] at hlen
          exact absurd rfl hlen
        | some k =>
          rw [hscan] at hwidth
          have hdigits := length_digits_le_of_scanZu hscan hwidth
          rw [length_drop, show LOC_IPC_HEAD.length = 8 from rfl] at hdigits
          show 8 + (Nat.digits 10 k).length ≤ got.length
          omega

/-- A datagram that leads to no delivery leaves the receiver no more bytes
than it brings. -/
theorem bytes_feed (h : (feed M r d).2 = []) : (feed M r d).1.bytes ≤ r.bytes + d.length := by
  cases r with
  | ended => exact Nat.zero_le _
  | inLong hd msg n =>
    change (recvMore hd msg n (d.take (n - msg.length))).2 = [] at h
    show (recvMore hd msg n (d.take (n - msg.length))).1.bytes ≤ hd.length + msg.length + d.length
    have htake := length_take_le' (n - msg.length) d
    unfold recvMore at h ⊢
    split
    · exact Nat.zero_le _
    split
    · show hd.length + (msg ++ _).length ≤ _
      rw [length_append]
      omega
    · exact Nat.zero_le _
  | listening =>
    have htake := length_take_le' M d
    show (if M = 0 then _ else recvFirst (d.take M)).1.bytes ≤ _
    split
    · exact Nat.zero_le _
    · generalize d.take M = got at htake
      unfold recvFirst
      split
      · exact Nat.zero_le _
      split
      · exact Nat.zero_le _
      split
      · exact Nat.zero_le _
      split
      · exact Nat.zero_le _
      · show got.length + 0 ≤ 0 + d.length
        omega

/-- A delivery: of a datagram as it is, or of a message of the length that
was announced; either way the receiver has nothing left. -/
theorem feed_delivers {m : List UInt8} (h : (feed M r d).2 = [m]) (hm : m ≠ []) :
    (feed M r d).1 = .listening ∧ (m.length ≤ M ∨ ∃ hd msg n, r = .inLong hd msg n ∧
        (r.Fair → m.length = n ∧ n ≤ msg.length + d.length)) := by
  cases r with
  | ended => cases h
  | inLong hd msg n =>
    change (recvMore hd msg n (d.take (n - msg.length))).2 = [m] at h
    show (recvMore hd msg n (d.take (n - msg.length))).1 = _ ∧ _
    have htake := length_take_le' (n - msg.length) d
    have htake' := length_take_le (n - msg.length) d
    unfold recvMore at h ⊢
    split at h
    · cases h
    split at h
    · cases h
    · rename_i hgot hge
      obtain ⟨rfl, -⟩ := List.cons.inj h
      rw [if_neg hgot, if_neg hge]
      refine ⟨rfl, Or.inr ⟨hd, msg, n, rfl, fun hfair => ?_⟩⟩
      have hlt := hfair.1
      rw [length_append] at hge ⊢
      omega
  | listening =>
    have htake := length_take_le M d
    change (if M = 0 then _ else recvFirst (d.take M)).2 = [m] at h
    show (if M = 0 then _ else recvFirst (d.take M)).1 = _ ∧ _
    split at h
    · cases h
    · rename_i hM
      rw [if_neg hM]
      generalize d.take M = got at h htake
      unfold recvFirst at h ⊢
      split at h
      · cases h
      rename_i h₁
      rw [if_neg h₁]
      split at h
      · cases h
      rename_i h₂
      rw [if_neg h₂]
      split at h
      · rename_i h₃
        obtain ⟨rfl, -⟩ := List.cons.inj h
        rw [if_pos h₃]
        exact ⟨rfl, Or.inl htake⟩
      split at h
      · obtain ⟨rfl, -⟩ := List.cons.inj h
        exact absurd rfl hm
      · cases h

end Bytes

namespace Net

variable {τ : Type*} {M : Nat} {net : Net τ} {t : τ}

/-- Every payload under way is sent in part, and the receiver's message is
fair. -/
structure Ok (M : Nat) (net : Net τ) : Prop where
  under : ∀ t f, net.current t = some f → f.Under M
  fair : net.recver.Fair

theorem ok_start (todo : τ → List Payload) : (start todo).Ok M :=
  ⟨fun _ _ h => (nomatch h), trivial⟩

variable {p : Payload} {d : List UInt8} {rest : List (List UInt8)}

/-- What `next` says of the sender's payload: what has been sent of it, the
datagram, and what is left. -/
theorem Ok.next (h : net.Ok M) (hn : net.next M t = some (p, d, rest)) :
    ∃ sent, send M p.bytes = sent ++ d :: rest ∧ sentBytes M (net.current t) = sent.flatten.length ∧
      (net.current t = none → sent = [] ∧ ∃ ps, net.todo t = p :: ps) := by
  unfold Net.next at hn
  cases hc : net.current t with
  | some f =>
    rw [hc] at hn
    obtain ⟨hne, d₀, ds, hsend⟩ := h.under t f hc
    have hbytes := sentBytes_eq hsend
    cases hrest : f.rest with
    | nil => exact absurd hrest hne
    | cons d' rest' =>
      simp only [hrest, some.injEq, Prod.mk.injEq] at hn
      obtain ⟨rfl, rfl, rfl⟩ := hn
      rw [hrest] at hsend
      exact ⟨d₀ :: ds, hsend, hbytes, nofun⟩
  | none =>
    rw [hc] at hn
    cases htodo : net.todo t with
    | nil =>
      rw [htodo] at hn
      cases hn
    | cons p' ps =>
      simp only [htodo] at hn
      cases hsend : send M p'.bytes with
      | nil =>
        rw [hsend] at hn
        cases hn
      | cons d' rest' =>
        simp only [hsend, some.injEq, Prod.mk.injEq] at hn
        obtain ⟨rfl, rfl, rfl⟩ := hn
        exact ⟨[], hsend, rfl, fun _ => ⟨rfl, ps, rfl⟩⟩

theorem Ok.sentBytes_nonneg (h : net.Ok M) (t : τ) : 0 ≤ sentBytes M (net.current t) := by
  cases hc : net.current t with
  | none => exact Int.le_refl _
  | some f => exact Int.le_of_lt (h.under t f hc).pos

theorem Ok.sum_pos [Fintype τ] (h : net.Ok M) {f : Flight} (hf : net.current t = some f) :
    0 < ∑ s, sentBytes M (net.current s) := by
  have hle := Finset.single_le_sum (fun s _ => h.sentBytes_nonneg s) (Finset.mem_univ t)
  refine lt_of_lt_of_le ?_ hle
  rw [hf]
  exact (h.under t f hf).pos

variable [DecidableEq τ]

theorem step_of_none (h : net.next M t = none) : net.step M t = (net, []) := by
  unfold step
  rw [h]

theorem step_of_some (h : net.next M t = some (p, d, rest)) : (net.step M t).1.current =
        update net.current t (if rest = [] then none else some ⟨p, rest⟩) ∧
      (net.step M t).1.recver = (feed M net.recver d).1 ∧
      (net.step M t).2 = [⟨(feed M net.recver d).2, if rest = [] then some p else none⟩] := by
  unfold step
  rw [h]
  exact ⟨rfl, rfl, rfl⟩

theorem Ok.step (h : net.Ok M) (t : τ) : (net.step M t).1.Ok M := by
  cases hn : net.next M t with
  | none =>
    rw [step_of_none hn]
    exact h
  | some next =>
    obtain ⟨p, d, rest⟩ := next
    obtain ⟨hcurrent, hrecver, -⟩ := step_of_some hn
    obtain ⟨sent, hsend, -, -⟩ := h.next hn
    constructor
    · intro s f hs
      rw [hcurrent] at hs
      by_cases hst : s = t
      · subst hst
        rw [update_self] at hs
        split at hs
        · cases hs
        · rename_i hrest
          obtain rfl := some.inj hs
          cases sent with
          | nil => exact ⟨hrest, d, [], hsend⟩
          | cons d₀ ds =>
            refine ⟨hrest, d₀, ds ++ [d], ?_⟩
            rw [hsend]
            simp
      · rw [update_of_ne hst] at hs
        exact h.under s f hs
    · rw [hrecver]
      exact h.fair.feed d

section Excess

variable [Fintype τ]

/-- What the senders have sent of payloads under way, less what the receiver
has of its message. -/
def excess (M : Nat) (net : Net τ) : Int :=
  ∑ t, sentBytes M (net.current t) - net.recver.bytes

theorem sum_update (current : τ → Option Flight) (t : τ) (o : Option Flight) :
    ∑ s, sentBytes M (update current t o s) =
      ∑ s, sentBytes M (current s) - sentBytes M (current t) + sentBytes M o := by
  have hupdate : (fun s => sentBytes M (update current t o s)) =
      update (fun s => sentBytes M (current s)) t (sentBytes M o) := by
    funext s
    by_cases hs : s = t
    · rw [hs, update_self, update_self]
    · rw [update_of_ne hs, update_of_ne hs]
  rw [hupdate, Finset.sum_update_of_mem (Finset.mem_univ t)]
  have hsplit := Finset.sum_sdiff (Finset.subset_univ {t}) (f := fun s => sentBytes M (current s))
  rw [Finset.sum_singleton] at hsplit
  omega

theorem Ok.excess_le (h : net.Ok M) (ht : net.OnTime M t) :
    net.excess M ≤ (net.step M t).1.excess M := by
  cases hn : net.next M t with
  | none => rw [step_of_none hn]
  | some next =>
    obtain ⟨p, d, rest⟩ := next
    obtain ⟨hcurrent, hrecver, hout⟩ := step_of_some hn
    obtain ⟨sent, hsend, hbytes, -⟩ := h.next hn
    have hontime := ht _ (by rw [hout]; exact mem_cons_self)
    have hsum := sum_update (M := M) net.current t (if rest = [] then none else some ⟨p, rest⟩)
    unfold excess
    rw [hcurrent, hrecver, hsum, hbytes]
    by_cases hrest : rest = []
    · -- the payload is delivered, and the receiver had all but its last datagram
      rw [if_pos hrest] at hontime ⊢
      have hdelivered : (feed M net.recver d).2 = [p.bytes] := hontime
      obtain ⟨hlistening, hor⟩ := feed_delivers hdelivered p.ne_nil
      have hall : (send M p.bytes).flatten.length = sent.flatten.length + d.length := by
        rw [hsend, hrest, flatten_append, length_append]
        simp
      have hrecv : sent.flatten.length ≤ net.recver.bytes := by
        by_cases hshort : p.bytes.length ≤ M
        · rw [p.send_eq, sendto, if_pos hshort, hrest] at hsend
          cases sent with
          | nil => exact Nat.zero_le _
          | cons d₀ ds =>
            have hlen := congrArg List.length hsend
            simp at hlen
        · rcases hor with hle | ⟨hd, msg, n, hr, hn⟩
          · exact absurd hle hshort
          · obtain ⟨rfl, hle⟩ := hn h.fair
            have hfair := h.fair
            rw [hr] at hfair ⊢
            have hhead := hfair.2 p.fits
            have htotal := length_send_le (Nat.lt_of_not_le hshort)
            show _ ≤ hd.length + msg.length
            omega
      have hzero : (Recver.listening).bytes = 0 := rfl
      have hnone : sentBytes M none = 0 := rfl
      rw [hlistening, hzero, hnone]
      omega
    · -- no payload is complete, so nothing is delivered
      rw [if_neg hrest] at hontime ⊢
      have hfeed := bytes_feed (r := net.recver) (d := d) hontime
      have hsent : sentBytes M (some ⟨p, rest⟩) = (sent ++ [d]).flatten.length :=
        sentBytes_eq (by rw [hsend]; simp)
      rw [hsent, flatten_append, length_append]
      simp
      omega

/-- The receiver is in a message while two payloads are under way, or the
bytes no longer add up. -/
def Lost (M : Nat) (net : Net τ) : Prop :=
  0 < net.excess M ∨ (∃ a b, a ≠ b ∧ net.current a ≠ none ∧ net.current b ≠ none) ∧
      ∃ h msg n, net.recver = .inLong h msg n

omit [DecidableEq τ] in
theorem Ok.lost_of_current (h : net.Ok M) (ht : net.current t ≠ none) (hr : net.recver.bytes = 0) :
    net.Lost M := by
  obtain ⟨f, hf⟩ := ne_none_iff_exists'.mp ht
  have hpos := h.sum_pos hf
  refine Or.inl ?_
  unfold excess
  rw [hr]
  omega

/-- What arrives for a receiver in a message and delivers nothing leaves it
there, or ends the listening. -/
theorem recver_feed_inLong {hd msg : List UInt8} {n : Nat}
    (h : (feed M (.inLong hd msg n) d).2 = []) :
    (feed M (.inLong hd msg n) d).1 = .ended ∨
      ∃ msg', (feed M (.inLong hd msg n) d).1 = .inLong hd msg' n := by
  change (recvMore hd msg n _).2 = [] at h
  show (recvMore hd msg n _).1 = _ ∨ ∃ msg', (recvMore hd msg n _).1 = _
  unfold recvMore at h ⊢
  split
  · exact Or.inl rfl
  · rename_i hgot
    rw [if_neg hgot] at h
    split
    · exact Or.inr ⟨_, rfl⟩
    · rename_i hge
      rw [if_neg hge] at h
      cases h

theorem Lost.step (h : net.Ok M) (hl : net.Lost M) (ht : net.OnTime M t) :
    (net.step M t).1.Lost M := by
  rcases hl with hpos | ⟨⟨a, b, hab, ha, hb⟩, hd, msg, n, hr⟩
  · exact Or.inl (lt_of_lt_of_le hpos (h.excess_le ht))
  cases hn : net.next M t with
  | none =>
    rw [step_of_none hn]
    exact Or.inr ⟨⟨a, b, hab, ha, hb⟩, hd, msg, n, hr⟩
  | some next =>
    obtain ⟨p, d, rest⟩ := next
    obtain ⟨hcurrent, hrecver, hout⟩ := step_of_some hn
    have hontime := ht _ (by rw [hout]; exact mem_cons_self)
    have hok := h.step t
    -- one of the two payloads is another sender's
    obtain ⟨c, hct, hc⟩ : ∃ c, c ≠ t ∧ net.current c ≠ none := by
      by_cases hat : a = t
      · exact ⟨b, fun hbt => hab (hat.trans hbt.symm), hb⟩
      · exact ⟨a, hat, ha⟩
    have hc' : (net.step M t).1.current c ≠ none := by
      rw [hcurrent, update_of_ne hct]
      exact hc
    by_cases hrest : rest = []
    · rw [if_pos hrest] at hontime
      have hlistening := (feed_delivers (m := p.bytes) hontime p.ne_nil).1
      refine hok.lost_of_current hc' ?_
      rw [hrecver, hlistening]
      rfl
    · rw [if_neg hrest, hr] at hontime
      rcases recver_feed_inLong hontime with hended | ⟨msg', hin⟩
      · refine hok.lost_of_current hc' ?_
        rw [hrecver, hr, hended]
        rfl
      · refine Or.inr ⟨⟨c, t, hct, hc', ?_⟩, hd, msg', n, ?_⟩
        · rw [hcurrent, update_self, if_neg hrest]
          exact some_ne_none _
        · rw [hrecver, hr, hin]

theorem Lost.not_done (h : net.Ok M) (hl : net.Lost M) {w : List τ}
    (ht : StepsMeet (Net.step M) (OnTime M) net w) :
    ∃ t, (after (Net.step M) net w).current t ≠ none := by
  induction w generalizing net with
  | nil =>
    by_contra hnone
    have hall : ∀ t, net.current t = none := fun t => by
      by_contra ht
      exact hnone ⟨t, ht⟩
    rcases hl with hpos | ⟨⟨a, -, -, ha, -⟩, -⟩
    · have hzero : ∑ t, sentBytes M (net.current t) = 0 :=
        Finset.sum_eq_zero fun t _ => by
          rw [hall t]
          rfl
      unfold excess at hpos
      rw [hzero] at hpos
      omega
    · exact ha (hall a)
  | cons t w ih => exact ih (h.step t) (hl.step h ht.1) ht.2

end Excess

/-! ## One payload at a time -/

/-- Nothing is under way and the receiver listens, or the one payload that is
under way is the message that the receiver is in. -/
def Synced (M : Nat) (net : Net τ) : Prop :=
  (net.recver = .listening ∧ ∀ t, net.current t = none) ∨
    ∃ s f msg, net.current s = some f ∧ (∀ t, t ≠ s → net.current t = none) ∧
      net.recver = .inLong (head f.payload.bytes.length) msg f.payload.bytes.length ∧
      M < f.payload.bytes.length ∧ msg ++ f.rest.flatten = f.payload.bytes ∧
      ∀ c ∈ f.rest, c ≠ []

omit [DecidableEq τ] in
theorem synced_start (todo : τ → List Payload) : (start todo).Synced M :=
  Or.inl ⟨rfl, fun _ => rfl⟩

variable {ps : List Payload} {f : Flight} {msg : List UInt8}

omit [DecidableEq τ] in
theorem next_of_begin {p : Payload} (hc : net.current t = none) (htodo : net.todo t = p :: ps) :
    net.next M t = some (if p.bytes.length ≤ M then (p, p.bytes, [])
      else (p, head p.bytes.length, sendChunks M p.bytes.length p.bytes)) := by
  unfold next
  rw [hc, htodo]
  show (match send M p.bytes with
    | [] => none
    | d :: rest => some (p, d, rest)) = _
  rw [p.send_eq, sendto]
  by_cases hshort : p.bytes.length ≤ M
  · rw [if_pos hshort, if_pos hshort]
  · rw [if_neg hshort, if_neg hshort]

theorem onTime_iff_of_some {p : Payload} {d : List UInt8} {rest : List (List UInt8)}
    (h : net.next M t = some (p, d, rest)) :
    net.OnTime M t ↔ (feed M net.recver d).2 = if rest = [] then [p.bytes] else [] := by
  obtain ⟨-, -, hout⟩ := step_of_some h
  unfold OnTime
  rw [hout]
  simp only [mem_singleton, forall_eq]
  split
  · exact Iff.rfl
  · exact Iff.rfl

theorem synced_begin {p : Payload} (hr : net.recver = .listening) (hall : ∀ s, net.current s = none)
    (htodo : net.todo t = p :: ps) (hp : p.Plain M) :
    net.OnTime M t ∧ (net.step M t).1.Synced M := by
  have hnext := next_of_begin (M := M) (hall t) htodo
  by_cases hshort : p.bytes.length ≤ M
  · rw [if_pos hshort] at hnext
    obtain ⟨hcurrent, hrecver, -⟩ := step_of_some hnext
    rw [onTime_iff_of_some hnext, hr, feed_of_plain hp hshort]
    refine ⟨rfl, Or.inl ⟨?_, fun s => ?_⟩⟩
    · rw [hrecver, hr, feed_of_plain hp hshort]
    · rw [hcurrent, if_pos rfl]
      by_cases hs : s = t
      · rw [hs, update_self]
      · rw [update_of_ne hs, hall]
  · rw [if_neg hshort] at hnext
    obtain ⟨hcurrent, hrecver, -⟩ := step_of_some hnext
    rw [Payload.Plain, if_neg hshort] at hp
    have hfeed := feed_head_of_fits p.length_pos p.fits hp
    have hne := sendChunks_ne_nil M p.ne_nil
    have hM : 0 < M := by
      rw [length_head p.length_pos] at hp
      omega
    rw [onTime_iff_of_some hnext, hr, hfeed, if_neg hne]
    refine ⟨rfl, Or.inr ⟨t, ⟨p, sendChunks M p.bytes.length p.bytes⟩, [], ?_, ?_, ?_,
      Nat.lt_of_not_le hshort, ?_, fun c hc => (mem_sendChunks hM hc).1⟩⟩
    · rw [hcurrent, if_neg hne, update_self]
    · intro s hs
      rw [hcurrent, update_of_ne hs, hall]
    · rw [hrecver, hr, hfeed]
    · rw [nil_append, flatten_sendChunks hM (Nat.le_refl _)]

theorem synced_continue (hf : net.current t = some f) (hnone : ∀ s, s ≠ t → net.current s = none)
    (hr : net.recver = .inLong (head f.payload.bytes.length) msg f.payload.bytes.length)
    (hM : M < f.payload.bytes.length) (hflat : msg ++ f.rest.flatten = f.payload.bytes)
    (hcs : ∀ c ∈ f.rest, c ≠ []) : net.OnTime M t ∧ (net.step M t).1.Synced M := by
  cases hrest : f.rest with
  | nil =>
    have hn : net.next M t = none := by
      unfold next
      rw [hf]
      simp only [hrest]
    rw [step_of_none hn]
    refine ⟨fun a ha => ?_, Or.inr ⟨t, f, msg, hf, hnone, hr, hM, hflat, hcs⟩⟩
    rw [step_of_none hn] at ha
    cases ha
  | cons d rest =>
    have hn : net.next M t = some (f.payload, d, rest) := by
      unfold next
      rw [hf]
      simp only [hrest]
    obtain ⟨hcurrent, hrecver, -⟩ := step_of_some hn
    rw [hrest] at hflat hcs
    have hlen := congrArg List.length hflat
    rw [flatten_cons, length_append, length_append] at hlen
    have hd := hcs d mem_cons_self
    have hfeed : feed M net.recver d =
        recvMore (head f.payload.bytes.length) msg f.payload.bytes.length d := by
      rw [hr]
      show recvMore _ _ _ (d.take _) = _
      rw [take_of_length_le (by omega)]
    rw [onTime_iff_of_some hn, hfeed]
    unfold recvMore at hfeed ⊢
    rw [if_neg hd, length_append] at hfeed ⊢
    cases hrest' : rest with
    | nil =>
      rw [hrest'] at hlen hflat
      have hlast : ¬ msg.length + d.length < f.payload.bytes.length := by
        simp at hlen
        omega
      rw [if_neg hlast] at hfeed ⊢
      have hmsg : msg ++ d = f.payload.bytes := by simpa using hflat
      refine ⟨by rw [if_pos rfl, hmsg], Or.inl ⟨by rw [hrecver, hfeed], fun s => ?_⟩⟩
      rw [hcurrent, hrest', if_pos rfl]
      by_cases hs : s = t
      · rw [hs, update_self]
      · rw [update_of_ne hs, hnone s hs]
    | cons c cs =>
      have hc : 0 < rest.flatten.length := by
        have hpos := length_pos_of_ne_nil (hcs c (mem_cons_of_mem _ (hrest' ▸ mem_cons_self)))
        rw [hrest', flatten_cons, length_append]
        omega
      have hne : rest ≠ [] := hrest' ▸ cons_ne_nil c cs
      rw [if_pos (by omega)] at hfeed ⊢
      rw [← hrest', if_neg hne]
      refine ⟨rfl, Or.inr ⟨t, ⟨f.payload, rest⟩, msg ++ d, ?_, ?_, ?_, hM, ?_,
        fun e he => hcs e (mem_cons_of_mem _ he)⟩⟩
      · rw [hcurrent, if_neg hne, update_self]
      · intro s hs
        rw [hcurrent, update_of_ne hs, hnone s hs]
      · rw [hrecver, hfeed]
      · rw [append_assoc, ← flatten_cons]
        exact hflat

theorem Synced.step (h : net.Synced M) (ha : net.Alone M t) :
    net.OnTime M t ∧ (net.step M t).1.Synced M := by
  have hidle : net.next M t = none → net.OnTime M t ∧ (net.step M t).1.Synced M := by
    intro hn
    rw [OnTime, step_of_none hn]
    exact ⟨fun _ ha => absurd ha not_mem_nil, h⟩
  by_cases hc : net.current t = none
  · cases htodo : net.todo t with
    | nil =>
      refine hidle ?_
      unfold next
      rw [hc, htodo]
    | cons p ps =>
      obtain ⟨hp, hall⟩ := ha hc p (htodo ▸ rfl)
      rcases h with ⟨hr, -⟩ | ⟨s, f, msg, hf, -⟩
      · exact synced_begin hr hall htodo hp
      · rw [hall s] at hf
        cases hf
  · rcases h with ⟨-, hall⟩ | ⟨s, f, msg, hf, hnone, hr, hM, hflat, hcs⟩
    · exact absurd (hall t) hc
    · obtain rfl : t = s := by
        by_contra hts
        exact hc (hnone t hts)
      exact synced_continue hf hnone hr hM hflat hcs

omit [DecidableEq τ] in
/-- A short payload has to be delivered at once, which it is only when it is
plain and nothing else is under way. -/
theorem Synced.feed_short_ne [Fintype τ] (hok : net.Ok M) (h : net.Synced M) {p : Payload}
    (hbad : ¬ (p.Plain M ∧ ∀ s, net.current s = none)) (hshort : p.bytes.length ≤ M) :
    (feed M net.recver p.bytes).2 ≠ [p.bytes] := by
  intro ht
  rcases h with ⟨hr, hall⟩ | ⟨s, f, msg, hf, -, hr, hM, -, -⟩
  · rw [hr] at ht
    exact feed_of_not_plain (fun hplain => hbad ⟨hplain, hall⟩) hshort ht
  · have hfair := hok.fair
    rw [hr] at hfair ht
    have hout : outs (feed M) (.inLong _ msg _) [p.bytes] = [p.bytes] :=
      outs_cons.trans (congrArg (· ++ []) ht)
    have hlen := length_of_outs_inLong hfair.1 hout
    omega

theorem lost_of_cut [Fintype τ] (hok : net.Ok M) (hr : net.recver = .listening)
    (hall : ∀ s, net.current s = none) {p : Payload} (htodo : net.todo t = p :: ps)
    (hlong : ¬ p.bytes.length ≤ M) (hcut : ¬ (head p.bytes.length).length ≤ M)
    (ht : net.OnTime M t) : (net.step M t).1.Lost M := by
  have hnext := next_of_begin (M := M) (hall t) htodo
  rw [if_neg hlong] at hnext
  have hne := sendChunks_ne_nil M p.ne_nil
  obtain ⟨hcurrent, hrecver, -⟩ := step_of_some hnext
  rw [onTime_iff_of_some hnext, if_neg hne, hr] at ht
  rw [if_neg hne] at hcurrent
  rw [hr] at hrecver
  rcases Nat.lt_or_ge M 8 with hM | hM
  · rcases Nat.eq_zero_or_pos M with rfl | h0
    · have hnow : (net.step 0 t).1.current t ≠ none := by
        rw [hcurrent, update_self]
        exact some_ne_none _
      refine (hok.step t).lost_of_current hnow ?_
      rw [hrecver]
      rfl
    · rw [feed_head_of_lt p.length_pos h0 hM] at ht
      cases ht
  · rw [feed_head p.length_pos p.fits hM] at ht hrecver
    split at ht
    · cases ht
    · rename_i hk
      rw [if_neg hk] at hrecver
      have hsum := sum_update (M := M) net.current t (some ⟨p, sendChunks M p.bytes.length p.bytes⟩)
      have hzero : ∑ s, sentBytes M (net.current s) = 0 :=
        Finset.sum_eq_zero fun s _ => by
          rw [hall s]
          rfl
      have hsent : sentBytes M (some ⟨p, sendChunks M p.bytes.length p.bytes⟩) =
          ([head p.bytes.length].flatten.length : Nat) :=
        sentBytes_eq (by rw [p.send_eq, sendto, if_neg hlong]; rfl)
      refine Or.inl ?_
      unfold excess
      rw [hcurrent, hsum, hzero, hall t, hsent, hrecver]
      show (0 : Int) < 0 - 0 + _ - ((((head p.bytes.length).take M).length + 0 : Nat) : Int)
      simp
      omega

theorem lost_of_inLong [Fintype τ] (hok : net.Ok M) {s : τ} (hf : net.current s = some f)
    {announced : List UInt8} {left : Nat} (hr : net.recver = .inLong announced msg left)
    (hc : net.current t = none) {p : Payload} (htodo : net.todo t = p :: ps)
    (hlong : ¬ p.bytes.length ≤ M) (ht : net.OnTime M t) : (net.step M t).1.Lost M := by
  have hnext := next_of_begin (M := M) hc htodo
  rw [if_neg hlong] at hnext
  have hne := sendChunks_ne_nil M p.ne_nil
  obtain ⟨hcurrent, hrecver, -⟩ := step_of_some hnext
  rw [onTime_iff_of_some hnext, if_neg hne, hr] at ht
  rw [if_neg hne] at hcurrent
  rw [hr] at hrecver
  have hnow : (net.step M t).1.current t ≠ none := by
    rw [hcurrent, update_self]
    exact some_ne_none _
  rcases recver_feed_inLong ht with hended | ⟨msg', hin⟩
  · refine (hok.step t).lost_of_current hnow ?_
    rw [hrecver, hended]
    rfl
  · have hst : s ≠ t := by
      rintro rfl
      rw [hc] at hf
      cases hf
    refine Or.inr ⟨⟨s, t, hst, ?_, hnow⟩, _, msg', _, hrecver.trans hin⟩
    rw [hcurrent, update_of_ne hst, hf]
    exact some_ne_none _

/-- The first payload that is not begun alone, or not plain, leaves the
receiver lost even when it is on time. -/
theorem Synced.lost [Fintype τ] (hok : net.Ok M) (h : net.Synced M) (ha : ¬ net.Alone M t)
    (ht : net.OnTime M t) : (net.step M t).1.Lost M := by
  unfold Alone at ha
  rw [Classical.not_imp, not_forall] at ha
  obtain ⟨hc, p, hp⟩ := ha
  rw [Classical.not_imp] at hp
  obtain ⟨hhead, hbad⟩ := hp
  obtain ⟨ps, htodo⟩ : ∃ ps, net.todo t = p :: ps := by
    cases htodo : net.todo t with
    | nil =>
      rw [htodo] at hhead
      cases hhead
    | cons q ps =>
      rw [htodo] at hhead
      cases hhead
      exact ⟨ps, rfl⟩
  by_cases hshort : p.bytes.length ≤ M
  · have hnext := next_of_begin (M := M) hc htodo
    rw [if_pos hshort] at hnext
    rw [onTime_iff_of_some hnext, if_pos rfl] at ht
    exact absurd ht (h.feed_short_ne hok hbad hshort)
  · rcases h with ⟨hr, hall⟩ | ⟨s, f, msg, hf, -, hr, -, -, -⟩
    · refine lost_of_cut hok hr hall htodo hshort (fun hfits => hbad ⟨?_, hall⟩) ht
      rw [Payload.Plain, if_neg hshort]
      exact hfits
    · exact lost_of_inLong hok hf hr hc htodo hshort ht

/-- Over every order of the senders' datagrams that leaves no payload half
sent: each payload is delivered whole when its last datagram is there, and
nothing else is, exactly if every payload is plain and begun when none is
under way. -/
theorem onTime_iff [Fintype τ] (mMaxTxSize : Nat) (todo : τ → List Payload) (order : List τ)
    (hdone : ∀ t, (after (Net.step mMaxTxSize) (start todo) order).current t = none) :
    StepsMeet (Net.step mMaxTxSize) (OnTime mMaxTxSize) (start todo) order ↔
      StepsMeet (Net.step mMaxTxSize) (Alone mMaxTxSize) (start todo) order := by
  have hok : (start todo).Ok mMaxTxSize := ok_start todo
  have hsynced : (start todo).Synced mMaxTxSize := synced_start todo
  generalize start todo = net at hdone hok hsynced ⊢
  induction order generalizing net with
  | nil => exact ⟨fun _ => trivial, fun _ => trivial⟩
  | cons t order ih =>
    have hok' := hok.step t
    constructor
    · rintro ⟨ht, hrest⟩
      by_cases ha : net.Alone mMaxTxSize t
      · exact ⟨ha, (ih _ hdone hok' (hsynced.step ha).2).mp hrest⟩
      · obtain ⟨s, hs⟩ := (hsynced.lost hok ha ht).not_done hok' hrest
        exact absurd (hdone s) hs
    · rintro ⟨ha, hrest⟩
      obtain ⟨ht, hsynced'⟩ := hsynced.step ha
      exact ⟨ht, (ih _ hdone hok' hsynced').mpr hrest⟩

/-- All that was delivered, and all the payloads that were sent to their
end. -/
def delivered (arrivals : List Arrival) : List (List UInt8) := arrivals.flatMap Arrival.delivered

def completed (arrivals : List Arrival) : List Payload := arrivals.filterMap Arrival.completed

/-- Two senders, one of them with a long payload, begun one after the
other. -/
theorem onTime_iff_of_two : StepsMeet (Net.step 10) (OnTime 10)
        (start fun b : Bool => if b then [⟨[98], by decide, by decide⟩]
          else [⟨List.replicate 11 97, by decide, by decide⟩]) [false, false, false, true] ↔
      StepsMeet (Net.step 10) (Alone 10)
        (start fun b : Bool => if b then [⟨[98], by decide, by decide⟩]
          else [⟨List.replicate 11 97, by decide, by decide⟩]) [false, false, false, true] :=
  onTime_iff 10 _ _ (by decide)

/-- The short payload goes out between the announcement of the long one and
its pieces: the listener gets neither. -/
theorem not_whole : ¬ ∀ (M : Nat) (todo : Bool → List Payload) (order : List Bool),
    (∀ t, (after (Net.step M) (start todo) order).current t = none) →
      (delivered (outs (Net.step M) (start todo) order)).Perm
        ((completed (outs (Net.step M) (start todo) order)).map Payload.bytes) := by
  intro h
  have hperm := h 10 (fun b => if b then [⟨[98], by decide, by decide⟩]
    else [⟨List.replicate 11 97, by decide, by decide⟩]) [false, true, false, false] (by decide)
  have hmem := hperm.mem_iff.mpr (show [98] ∈ _ by decide)
  exact absurd hmem (by decide)

end Net

end LocStack.Ipc
