import StatusRegistry.Store.Request

/-!
# Programs over a store

What the services do is a value: requests to a store and readings of the clock, one after another,
each of which may depend on the answers before it, and a result.

* Such a program can be run against any store, and followed for every sequence of answers.
* Programs that run at the same time take turns between their steps, never within one.
-/

set_option autoImplicit false

namespace StatusRegistry

/-- Requests to a store and readings of the clock, one after another, and a result. -/
inductive Program (α : Type) where
  | done (result : α)
  | ask (request : StoreRequest) (next : request.Answer → Program α)
  | clock (next : Timestamp → Program α)

namespace Program

variable {α β : Type}

/-- One program after another. -/
def bind (p : Program α) (f : α → Program β) : Program β :=
  match p with
  | done a => f a
  | ask request next => ask request fun answer => (next answer).bind f
  | clock next => clock fun now => (next now).bind f

instance : Monad Program where
  pure := done
  bind := bind

/-- Makes one request. -/
def request (q : StoreRequest) : Program q.Answer := ask q done

/-- Reads the clock. -/
def now : Program Timestamp := clock done

/-- Runs a program against a store that is a state, at one time. -/
def run {σ : Type} (answer : σ → (q : StoreRequest) → q.Answer × σ) (now : Timestamp) (s : σ) :
    Program α → α × σ
  | done a => (a, s)
  | ask q next =>
    let (a, s) := answer s q
    (next a).run answer now s
  | clock next => (next now).run answer now s

end Program

end StatusRegistry
