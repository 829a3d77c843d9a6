/-
# `LocStack.Ipc.RoundTrip` — one sender and one receiver

A payload sent is the datagrams of `Sock::send`; the receiver takes them as
they come.  `delivered_iff`: of every sequence of payloads what was sent so
far has been delivered, no more and no less, exactly if each of the payloads
is plain.

A payload that is not plain goes wrong at once (`outs_ne_of_not_plain`): one
like a marker is swallowed, and a long one whose announcement is cut off is
delivered as something shorter.
-/
import LocStack.Ipc.Sock

namespace LocStack.Ipc

open Base List

/-- A payload is sent and its datagrams arrive. -/
def carry (mMaxTxSize : Nat) (r : Recver) (p : Payload) : Recver × List (List UInt8) :=
  (after (feed mMaxTxSize) r (send mMaxTxSize p.bytes),
    outs (feed mMaxTxSize) r (send mMaxTxSize p.bytes))

variable {M : Nat} {p : Payload}

theorem carry_of_plain (hp : p.Plain M) : carry M .listening p = (.listening, [p.bytes]) := by
  have hpos := p.length_pos
  unfold carry
  rw [p.send_eq, sendto]
  by_cases hshort : p.bytes.length ≤ M
  · rw [if_pos hshort, after_cons, outs_cons, feed_of_plain hp hshort]
    rfl
  · rw [Payload.Plain, if_neg hshort] at hp
    rw [if_neg hshort]
    have hM : 0 < M := by
      rw [length_head hpos] at hp
      omega
    have hflat : (sendChunks M p.bytes.length p.bytes).flatten = p.bytes :=
      flatten_sendChunks hM (Nat.le_refl _)
    have hlen : ([] : List UInt8).length + (sendChunks M p.bytes.length p.bytes).flatten.length =
        p.bytes.length := by rw [hflat, length_nil, Nat.zero_add]
    have hpieces := feed_pieces (M := M) (h := head p.bytes.length)
      (fun c hc => (mem_sendChunks hM hc).1) (sendChunks_ne_nil M p.ne_nil) hlen
    rw [after_cons, outs_cons, feed_head_of_fits hpos p.fits hp, hpieces.1, hpieces.2, hflat]
    rfl

theorem outs_ne_of_not_plain (hp : ¬ p.Plain M) : (carry M .listening p).2 ≠ [p.bytes] := by
  have hpos := p.length_pos
  show outs (feed M) .listening (send M p.bytes) ≠ _
  rw [p.send_eq, sendto]
  by_cases hshort : p.bytes.length ≤ M
  · rw [if_pos hshort, outs_cons, outs_nil, append_nil]
    exact feed_of_not_plain hp hshort
  · rw [Payload.Plain, if_neg hshort] at hp
    rw [if_neg hshort, outs_cons]
    intro heq
    rcases Nat.lt_or_ge M 8 with hM | hM
    · rcases Nat.eq_zero_or_pos M with rfl | h0
      · -- nothing is read at all
        have hfeed : feed 0 .listening (head p.bytes.length) = (.ended, []) := rfl
        rw [hfeed, outs_ended] at heq
        cases heq
      · -- the announcement is delivered
        rw [feed_head_of_lt hpos h0 hM] at heq
        have hhead : (head p.bytes.length).take M = p.bytes := (List.cons.inj heq).1
        have hlen := congrArg List.length hhead
        have hle := length_take_le M (head p.bytes.length)
        omega
    · rw [feed_head hpos p.fits hM] at heq
      split at heq
      · exact p.ne_nil (List.cons.inj heq).1.symm
      · rename_i hk
        -- the length that is left of the announcement is less than the payload's
        have hlt : p.bytes.length / 10 ^ ((head p.bytes.length).length - M) < p.bytes.length := by
          refine Nat.div_lt_self hpos (Nat.one_lt_pow (by omega) (by decide))
        have hlen := length_of_outs_inLong (Nat.pos_of_ne_zero hk) heq
        omega

/-! ## Sequences of payloads -/

theorem carry_plain (ps : List Payload) (hps : ∀ p ∈ ps, p.Plain M) :
    after (carry M) .listening ps = .listening ∧
      outs (carry M) .listening ps = ps.map Payload.bytes := by
  induction ps with
  | nil => exact ⟨rfl, rfl⟩
  | cons p ps ih =>
    obtain ⟨hafter, houts⟩ := ih fun q hq => hps q (mem_cons_of_mem _ hq)
    rw [after_cons, outs_cons, carry_of_plain (hps p mem_cons_self), hafter, houts]
    exact ⟨rfl, rfl⟩

/-- Of a sequence of payloads what has been sent has been delivered, at every
point, exactly if all of them are plain. -/
theorem delivered_iff (mMaxTxSize : Nat) (ps : List Payload) :
    (∀ qs, qs <+: ps → outs (carry mMaxTxSize) .listening qs = qs.map Payload.bytes) ↔
      ∀ p ∈ ps, p.Plain mMaxTxSize := by
  constructor
  · intro h
    induction ps using List.reverseRecOn with
    | nil => exact fun p hp => absurd hp not_mem_nil
    | append_singleton ps q ih =>
      have hinit : ∀ p ∈ ps, p.Plain mMaxTxSize :=
        ih fun qs hqs => h qs (hqs.trans (prefix_append ps [q]))
      intro p hp
      rcases mem_append.mp hp with hp | hp
      · exact hinit p hp
      · rw [mem_singleton.mp hp]
        by_contra hq
        have hall := h (ps ++ [q]) (prefix_refl _)
        obtain ⟨hafter, houts⟩ := carry_plain ps hinit
        rw [outs_append, hafter, houts, map_append, outs_cons, outs_nil, append_nil] at hall
        exact outs_ne_of_not_plain hq (append_cancel_left hall)
  · intro h qs hqs
    exact (carry_plain qs fun p hp => h p (hqs.subset hp)).2

/-- A payload of eight bytes, which read as an announcement. -/
theorem not_delivered_marker : ¬ ∀ (mMaxTxSize : Nat) (ps qs : List Payload), qs <+: ps →
    outs (carry mMaxTxSize) .listening qs = qs.map Payload.bytes := by
  intro h
  have hbytes := h 8192 [⟨LOC_IPC_HEAD, by decide, by decide⟩] _ (prefix_refl _)
  exact absurd hbytes (by decide)

end LocStack.Ipc
