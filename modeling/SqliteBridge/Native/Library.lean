import SqliteBridge.Native.Call

/-! The database library as it is seen from outside: a state of its own, and for each
call what happens then. A call that compiles may ask the registered callback any number
of times before it returns, and goes on in the state that it finds after the answer. -/
namespace SqliteBridge.Native

/-- An action that a callback is asked about: a code and up to four texts. -/
structure Question where
  action : Int32
  first? : Option ByteArray
  second? : Option ByteArray
  third? : Option ByteArray
  fourth? : Option ByteArray
deriving DecidableEq

/-- What happens in a call, from one state of the library. -/
inductive Course (World Result : Type) where
  | returns (result : Result) (world : World)
  /-- Calls the callback with the address and goes on with what it returns. -/
  | asks (address : Nat) (question : Question) (world : World)
    (resume : Int32 → World → Course World Result)

/-- Whether a call returns at once. -/
def Course.isReturn {World Result : Type} : Course World Result → Bool
  | returns _ _ => true
  | asks _ _ _ _ => false

structure Library where
  World : Type
  start : World
  run (call : Call) (world : World) : Course World call.Result
  /-- Only a call that compiles can ask. -/
  isReturn_run : ∀ (call : Call) (world : World),
    call.compiles = false → (run call world).isReturn = true
  /-- The description of a code, which is always the same. -/
  errorString : Int32 → Option ByteArray
  version : ByteArray

end SqliteBridge.Native
