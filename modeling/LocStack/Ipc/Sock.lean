/-
# `LocStack.Ipc.Sock` — messages over a datagram socket, as LocIpc.cpp sends them

`Sock::send` gives a message that is not longer than `mMaxTxSize` to the
socket as one datagram.  A longer one is announced by a datagram of its own,
`$MSGLEN$` and the length in decimal, and follows in pieces.  `Sock::recv`
has only the bytes to go by: what begins with `$MSGLEN$` is taken for an
announcement, what compares equal to the abort marker ends the listening.

The socket is reliable: it keeps the datagrams, their order and their
boundaries, and cuts off what does not fit the buffer they are read into.
The receiver is therefore a machine over the datagrams that arrive, `feed`;
its states are the two places where `Sock::recvfrom` reads, and the end of
the loop of `LocIpc::startBlockingListening`, which is left when a recv
returns nothing.

    Payload      what can be sent: non-empty, of a length that is a uint32_t
    Plain M p    short and not like a marker, or long with an announcement
                 that fits the limit `M`
-/
import LocStack.Base.Run
import LocStack.Base.CString

namespace LocStack.Ipc

open Base List

def MSG_ABORT : List UInt8 :=
  ascii ['L', 'o', 'c', 'I', 'p', 'c', ':', ':', 'S', 'o', 'c', 'k', ':', ':',
    'A', 'B', 'O', 'R', 'T'] ++ [0]

def LOC_IPC_HEAD : List UInt8 := ascii ['$', 'M', 'S', 'G', 'L', 'E', 'N', '$']

/-- The arguments of `Sock::send` that it takes: `len` is not 0 and a
uint32_t. -/
structure Payload where
  bytes : List UInt8
  ne_nil : bytes ≠ []
  fits : bytes.length < 2 ^ 32

/-! ## Sending -/

/-- The loop of `Sock::sendto` over what is left of the buffer.  An empty
datagram, which a limit of 0 leads to, ends it. -/
def sendChunks (mMaxTxSize : Nat) : Nat → List UInt8 → List (List UInt8)
  | 0, _ => []
  | fuel + 1, buf =>
    if buf = [] then []
    else if mMaxTxSize = 0 then [[]]
    else buf.take mMaxTxSize :: sendChunks mMaxTxSize fuel (buf.drop mMaxTxSize)

/-- The announcement of a long message. -/
def head (len : Nat) : List UInt8 := LOC_IPC_HEAD ++ decimal len

/-- The datagrams of `Sock::sendto`. -/
def sendto (mMaxTxSize : Nat) (buf : List UInt8) : List (List UInt8) :=
  if buf.length ≤ mMaxTxSize then [buf]
  else head buf.length :: sendChunks mMaxTxSize buf.length buf

/-- The datagrams of `Sock::send`. -/
def send (mMaxTxSize : Nat) (buf : List UInt8) : List (List UInt8) :=
  if buf.length = 0 then [] else sendto mMaxTxSize buf

/-! ## Receiving -/

/-- A listening thread: about to recv, in the loop of a long message that was
announced by `head`, or out of its own loop. -/
inductive Recver where
  | listening
  | inLong (head msg : List UInt8) (msgLen : Nat)
  | ended

def isAbort (msg : List UInt8) : Bool := strncmpEq MSG_ABORT.length msg MSG_ABORT

def isHead (msg : List UInt8) : Bool := strncmpEq LOC_IPC_HEAD.length msg LOC_IPC_HEAD

/-- The length an announcement says; 0 if it says none. -/
def msgLenOf (msg : List UInt8) : Nat := (scanZu (msg.drop LOC_IPC_HEAD.length)).getD 0

/-- `Sock::recvfrom` on its first datagram. -/
def recvFirst (msg : List UInt8) : Recver × List (List UInt8) :=
  if msg = [] then (.ended, [])
  else if isAbort msg then (.ended, [])
  else if !isHead msg then (.listening, [msg])
  else if msgLenOf msg = 0 then (.ended, [[]])
  else (.inLong msg [] (msgLenOf msg), [])

/-- `Sock::recvfrom` on a further datagram of a long message. -/
def recvMore (head msg : List UInt8) (msgLen : Nat) (got : List UInt8) :
    Recver × List (List UInt8) :=
  if got = [] then (.ended, [])
  else if (msg ++ got).length < msgLen then (.inLong head (msg ++ got) msgLen, [])
  else (.listening, [msg ++ got])

/-- A datagram arrives.  With a limit of 0 `Sock::recv` does not read. -/
def feed (mMaxTxSize : Nat) : Recver → List UInt8 → Recver × List (List UInt8)
  | .listening, datagram =>
    if mMaxTxSize = 0 then (.ended, []) else recvFirst (datagram.take mMaxTxSize)
  | .inLong head msg msgLen, datagram =>
    recvMore head msg msgLen (datagram.take (msgLen - msg.length))
  | .ended, _ => (.ended, [])

/-- What the socket can carry as it is: short and like neither marker, or long
with an announcement that fits a datagram. -/
def Payload.Plain (mMaxTxSize : Nat) (p : Payload) : Prop :=
  if p.bytes.length ≤ mMaxTxSize then isAbort p.bytes = false ∧ isHead p.bytes = false
  else (head p.bytes.length).length ≤ mMaxTxSize

instance (mMaxTxSize : Nat) (p : Payload) : Decidable (p.Plain mMaxTxSize) := by
  unfold Payload.Plain
  exact inferInstance

/-! ## The pieces of a message -/

section Send

variable {M : Nat} {buf : List UInt8}

theorem Payload.length_pos (p : Payload) : 0 < p.bytes.length := length_pos_of_ne_nil p.ne_nil

theorem Payload.send_eq (M : Nat) (p : Payload) : send M p.bytes = sendto M p.bytes :=
  if_neg (Nat.ne_of_gt p.length_pos)

theorem length_head {n : Nat} (hn : 0 < n) : (head n).length = 8 + (Nat.digits 10 n).length := by
  rw [head, length_append, length_decimal hn]
  rfl

theorem flatten_sendChunks (hM : 0 < M) {fuel : Nat} (hfuel : buf.length ≤ fuel) :
    (sendChunks M fuel buf).flatten = buf := by
  induction fuel generalizing buf with
  | zero => exact (length_eq_zero_iff.mp (Nat.le_zero.mp hfuel)).symm
  | succ fuel ih =>
    unfold sendChunks
    split
    · rename_i hnil
      exact hnil.symm
    · rename_i hne
      have hpos := length_pos_of_ne_nil hne
      rw [if_neg (Nat.ne_of_gt hM), flatten_cons, ih, take_append_drop]
      rw [length_drop]
      omega

theorem sendChunks_ne_nil (M : Nat) (hbuf : buf ≠ []) : sendChunks M buf.length buf ≠ [] := by
  cases hlen : buf.length with
  | zero => exact absurd (length_eq_zero_iff.mp hlen) hbuf
  | succ n =>
    rw [sendChunks, if_neg hbuf]
    split
    · exact cons_ne_nil _ _
    · exact cons_ne_nil _ _

theorem mem_sendChunks (hM : 0 < M) {fuel : Nat} {c : List UInt8}
    (hc : c ∈ sendChunks M fuel buf) : c ≠ [] ∧ c.length ≤ M := by
  induction fuel generalizing buf with
  | zero => cases hc
  | succ fuel ih =>
    unfold sendChunks at hc
    split at hc
    · cases hc
    · rename_i hne
      rw [if_neg (Nat.ne_of_gt hM)] at hc
      rcases mem_cons.mp hc with rfl | hc
      · refine ⟨?_, length_take_le _ _⟩
        rw [ne_eq, take_eq_nil_iff]
        exact fun hor => hor.elim (Nat.ne_of_gt hM) hne
      · exact ih hc

end Send

/-! ## What the receiver makes of an announcement -/

section Heads

variable {M n : Nat}

theorem isAbort_head_take (n : Nat) (hM : 0 < M) : isAbort ((head n).take M) = false := by
  cases M with
  | zero => exact absurd hM (Nat.lt_irrefl 0)
  | succ M => exact strncmpEq_cons_ne (by decide)

theorem head_take (n : Nat) (hM : 8 ≤ M) :
    (head n).take M = LOC_IPC_HEAD ++ (decimal n).take (M - 8) := by
  rw [head, take_append, take_of_length_le (show LOC_IPC_HEAD.length ≤ M from hM)]
  rfl

theorem isHead_head_take (n : Nat) (hM : 8 ≤ M) : isHead ((head n).take M) = true := by
  rw [head_take n hM]
  exact strncmpEq_append_self _ _

theorem isHead_head_take_of_lt (n : Nat) (hM : M < 8) : isHead ((head n).take M) = false := by
  have hall : ∀ m < 8, isHead (LOC_IPC_HEAD.take m) = false := by decide
  rw [head, take_append_of_le_length (Nat.le_of_lt hM)]
  exact hall M hM

theorem msgLenOf_head_take (hn : 0 < n) (hwidth : n < 2 ^ 32) (hM : 8 ≤ M) :
    msgLenOf ((head n).take M) = n / 10 ^ ((head n).length - M) := by
  have hlen := length_decimal hn
  have hheadLen := length_head hn
  have hdrop : ((head n).take M).drop LOC_IPC_HEAD.length = (decimal n).take (M - 8) := by
    rw [head_take n hM, drop_left]
  have hlt : n < 10 ^ (Nat.digits 10 n).length := Nat.lt_base_pow_length_digits (by decide)
  unfold msgLenOf
  rw [hdrop]
  by_cases hall : M = 8
  · -- no digit is left
    subst hall
    rw [Nat.sub_self, take_zero, hheadLen, Nat.add_sub_cancel_left, Nat.div_eq_of_lt hlt]
    rfl
  · have htake : (decimal n).take (M - 8) =
        (decimal n).take ((decimal n).length - ((head n).length - M)) := by
      by_cases hfits : (head n).length ≤ M
      · rw [take_of_length_le (by omega), take_of_length_le (by omega)]
      · congr 1
        omega
    have hpos : 0 < (Nat.digits 10 n).length := by
      refine Nat.pos_of_ne_zero fun hzero => ?_
      rw [hzero, Nat.pow_zero] at hlt
      omega
    rw [htake, scanZu_take_decimal hn (by omega) (by omega)]
    rfl

theorem feed_head_of_lt (hn : 0 < n) (h0 : 0 < M) (hM : M < 8) :
    feed M .listening (head n) = (.listening, [(head n).take M]) := by
  have hne : (head n).take M ≠ [] := by
    rw [ne_eq, take_eq_nil_iff, ← length_eq_zero_iff, length_head hn]
    omega
  show (if M = 0 then _ else recvFirst ((head n).take M)) = _
  rw [if_neg (Nat.ne_of_gt h0), recvFirst, if_neg hne, isAbort_head_take n h0,
    isHead_head_take_of_lt n hM]
  rfl

theorem feed_head (hn : 0 < n) (hwidth : n < 2 ^ 32) (hM : 8 ≤ M) : feed M .listening (head n) =
      if n / 10 ^ ((head n).length - M) = 0 then (.ended, [[]])
      else (.inLong ((head n).take M) [] (n / 10 ^ ((head n).length - M)), []) := by
  have hne : (head n).take M ≠ [] := by
    rw [ne_eq, take_eq_nil_iff, ← length_eq_zero_iff, length_head hn]
    omega
  show (if M = 0 then _ else recvFirst ((head n).take M)) = _
  rw [if_neg (by omega), recvFirst, if_neg hne, isAbort_head_take n (by omega),
    isHead_head_take n hM, msgLenOf_head_take hn hwidth hM]
  rfl

theorem feed_head_of_fits (hn : 0 < n) (hwidth : n < 2 ^ 32) (hfits : (head n).length ≤ M) :
    feed M .listening (head n) = (.inLong (head n) [] n, []) := by
  have hlen := length_head hn
  rw [feed_head hn hwidth (by omega), Nat.sub_eq_zero_of_le hfits, Nat.pow_zero, Nat.div_one,
    if_neg (Nat.ne_of_gt hn), take_of_length_le hfits]

theorem feed_of_plain {p : Payload} (hp : p.Plain M) (hshort : p.bytes.length ≤ M) :
    feed M .listening p.bytes = (.listening, [p.bytes]) := by
  have hpos := p.length_pos
  rw [Payload.Plain, if_pos hshort] at hp
  show (if M = 0 then _ else recvFirst (p.bytes.take M)) = _
  rw [if_neg (by omega), take_of_length_le hshort, recvFirst, if_neg p.ne_nil, hp.1, hp.2]
  rfl

theorem feed_of_not_plain {p : Payload} (hp : ¬ p.Plain M) (hshort : p.bytes.length ≤ M) :
    (feed M .listening p.bytes).2 ≠ [p.bytes] := by
  have hpos := p.length_pos
  rw [Payload.Plain, if_pos hshort, not_and_or, Bool.not_eq_false, Bool.not_eq_false] at hp
  show (if M = 0 then _ else recvFirst (p.bytes.take M)).2 ≠ _
  rw [if_neg (by omega), take_of_length_le hshort]
  unfold recvFirst
  rw [if_neg p.ne_nil]
  split
  · exact (cons_ne_nil _ _).symm
  · rename_i habort
    rw [hp.resolve_left habort]
    split
    · rename_i hnot
      cases hnot
    split
    · exact fun heq => p.ne_nil (List.cons.inj heq).1.symm
    · exact (cons_ne_nil _ _).symm

end Heads

/-! ## A long message arrives -/

section Long

variable {M n : Nat} {h msg : List UInt8}

theorem feed_pieces {cs : List (List UInt8)} (hcs : ∀ c ∈ cs, c ≠ []) (hne : cs ≠ [])
    (hlen : msg.length + cs.flatten.length = n) :
    after (feed M) (.inLong h msg n) cs = .listening ∧
      outs (feed M) (.inLong h msg n) cs = [msg ++ cs.flatten] := by
  induction cs generalizing msg with
  | nil => exact absurd rfl hne
  | cons c cs ih =>
    have hc : c ≠ [] := hcs c mem_cons_self
    rw [flatten_cons, length_append] at hlen
    have htake : c.take (n - msg.length) = c := take_of_length_le (by omega)
    rw [after_cons, outs_cons]
    have hfeed : feed M (.inLong h msg n) c = recvMore h msg n c := by
      show recvMore h msg n (c.take (n - msg.length)) = _
      rw [htake]
    rw [hfeed, recvMore, if_neg hc, length_append, flatten_cons, ← append_assoc]
    cases hcs' : cs with
    | nil =>
      rw [hcs'] at hlen
      have hlast : ¬ msg.length + c.length < n := by simpa using hlen.ge
      rw [if_neg hlast]
      exact ⟨rfl, by simp⟩
    | cons d ds =>
      rw [← hcs']
      have hrest : 0 < cs.flatten.length := by
        rw [hcs', flatten_cons, length_append]
        have hd := length_pos_of_ne_nil (hcs d (mem_cons_of_mem _ (hcs' ▸ mem_cons_self)))
        omega
      rw [if_pos (by omega)]
      refine ih (fun e he => hcs e (mem_cons_of_mem _ he)) (hcs' ▸ cons_ne_nil d ds) ?_
      rw [length_append]
      omega

theorem outs_ended (ds : List (List UInt8)) : outs (feed M) .ended ds = [] := by
  induction ds with
  | nil => rfl
  | cons d ds ih => exact ih

theorem length_of_outs_inLong {ds : List (List UInt8)} (hmsg : msg.length < n)
    {m : List UInt8} {rest : List (List UInt8)}
    (hout : outs (feed M) (.inLong h msg n) ds = m :: rest) : m.length = n := by
  induction ds generalizing msg with
  | nil => cases hout
  | cons d ds ih =>
    have hgot : (d.take (n - msg.length)).length ≤ n - msg.length := length_take_le _ _
    rw [outs_cons] at hout
    change (recvMore h msg n (d.take (n - msg.length))).2 ++
      outs (feed M) (recvMore h msg n (d.take (n - msg.length))).1 ds = _ at hout
    unfold recvMore at hout
    split at hout
    · rw [outs_ended] at hout
      cases hout
    split at hout
    · rename_i hlt
      exact ih hlt hout
    · rename_i hge
      obtain ⟨rfl, -⟩ := List.cons.inj hout
      rw [length_append] at hge ⊢
      omega

end Long

end LocStack.Ipc
