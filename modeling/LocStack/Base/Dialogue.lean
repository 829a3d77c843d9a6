/-
# `LocStack.Base.Dialogue` — programs that ask and are answered

A program either is done or asks a question and goes on with the answer.
What it asks depends on the answers it has had, and any answer may come to
any question.  `run` hands it a stream of answers and keeps the transcript;
`wp d post` says that `post` holds of the transcript and the result whatever
the answers are, and goes through a program step by step (`wp_bind`).
-/
import Mathlib.Data.List.Basic

namespace LocStack.Base

inductive Dialogue (Q R α : Type) where
  | done (a : α)
  | ask (q : Q) (k : R → Dialogue Q R α)

namespace Dialogue

variable {Q R α β : Type}

def bind : Dialogue Q R α → (α → Dialogue Q R β) → Dialogue Q R β
  | done a, f => f a
  | ask q k, f => ask q fun r => (k r).bind f

instance : Monad (Dialogue Q R) where
  pure := done
  bind := bind

/-- One question. -/
def request (q : Q) : Dialogue Q R R := ask q done

/-- The transcript and the result, for a stream of answers. -/
def run : Dialogue Q R α → (Nat → R) → List (Q × R) × α
  | done a, _ => ([], a)
  | ask q k, answers =>
    let rest := (k (answers 0)).run fun n => answers (n + 1)
    ((q, answers 0) :: rest.1, rest.2)

/-- `post` holds whatever is answered. -/
def wp : Dialogue Q R α → (List (Q × R) → α → Prop) → Prop
  | done a, post => post [] a
  | ask q k, post => ∀ r, (k r).wp fun log a => post ((q, r) :: log) a

variable {post : List (Q × R) → α → Prop}

@[simp] theorem wp_pure (a : α) : (pure a : Dialogue Q R α).wp post ↔ post [] a := Iff.rfl

@[simp] theorem wp_request (q : Q) {post : List (Q × R) → R → Prop} :
    (request q : Dialogue Q R R).wp post ↔ ∀ r, post [(q, r)] r := Iff.rfl

@[simp] theorem wp_bind (d : Dialogue Q R α) (f : α → Dialogue Q R β)
    {post : List (Q × R) → β → Prop} :
    (d >>= f).wp post ↔ d.wp fun log a => (f a).wp fun log' b => post (log ++ log') b := by
  induction d generalizing post with
  | done a => exact Iff.rfl
  | ask q k ih => exact forall_congr' fun r => ih r

/-- Something is made of the result. -/
theorem wp_bind_pure (d : Dialogue Q R α) (f : α → β) {post : List (Q × R) → β → Prop} :
    (d >>= fun a => pure (f a)).wp post ↔ d.wp fun log a => post log (f a) := by
  induction d generalizing post with
  | done a => exact Iff.rfl
  | ask q k ih => exact forall_congr' fun r => ih r

variable {d : Dialogue Q R α}

theorem wp_mono {post' : List (Q × R) → α → Prop} (h : ∀ log a, post log a → post' log a)
    (hd : d.wp post) : d.wp post' := by
  induction d generalizing post post' with
  | done a => exact h _ _ hd
  | ask q k ih => exact fun r => ih r (fun log a => h _ a) (hd r)

theorem run_of_wp (hd : d.wp post) (answers : Nat → R) :
    post (d.run answers).1 (d.run answers).2 := by
  induction d generalizing post answers with
  | done a => exact hd
  | ask q k ih => exact ih (answers 0) (hd (answers 0)) _

end Dialogue

end LocStack.Base
