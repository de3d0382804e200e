import SqliteBridge.Authorization

/-! Inquiries: computations that may ask an authorizer on their way. -/
namespace SqliteBridge.Sql

inductive Inquiry (α : Type) where
  | done (value : α)
  | asks (address : Nat) (request : AuthorizationRequest) (resume : Verdict → Inquiry α)

namespace Inquiry

variable {α β : Type}

def bind : Inquiry α → (α → Inquiry β) → Inquiry β
  | done value, next => next value
  | asks address request resume, next =>
    asks address request fun verdict => (resume verdict).bind next

instance : Monad Inquiry where
  pure := done
  bind := bind

/-- Asks the authorizer at an address. -/
def ask (address : Nat) (request : AuthorizationRequest) : Inquiry Verdict :=
  asks address request done

end Inquiry

end SqliteBridge.Sql
