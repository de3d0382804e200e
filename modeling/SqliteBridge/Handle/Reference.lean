import SqliteBridge.Handle.Table

/-! The object's side of a token. An object has at most one token in its life:
it adopts one when it first crosses the boundary and gives it up once. -/
namespace SqliteBridge.Handle

inductive Reference where
  | unset
  | live (token : Token)
  | disposed
deriving DecidableEq, Inhabited

namespace Reference

/-- The token, adopted from `create` if there is none yet. `create` runs on the
state `world` exactly when the reference is unset, and a failure of it leaves the
reference unset. -/
def adopt {σ : Type} (reference : Reference) (world : σ)
    (create : σ → Except Failure Token × σ) : Except Failure Token × Reference × σ :=
  match reference with
  | live token => (.ok token, reference, world)
  | disposed => (.error (.aborted disposedMessage), reference, world)
  | unset =>
    match create world with
    | (.ok token, world) => (.ok token, live token, world)
    | (.error failure, world) => (.error failure, unset, world)

def token? : Reference → Option Token
  | live token => some token
  | _ => none

/-- Gives the token up. What is returned still has to leave its table; only the
first call can return a token. -/
def dispose (reference : Reference) : Option Token × Reference := (reference.token?, disposed)

def isDisposed : Reference → Bool
  | disposed => true
  | _ => false

end Reference

end SqliteBridge.Handle
