import SqliteBridge.Boundary.Call
import SqliteBridge.Boundary.Environment
import SqliteBridge.Session.Tokens

/-! Trampolines: what a native method does. It reads its arguments, carries out the
request and sends the reply back; a failure on the way becomes an exception, and then
the default of the method is returned. -/
namespace SqliteBridge.Boundary

/-- A column on its way out. A value without a fixed type has no form there. -/
def sendCell : Cell → NativeValue
  | .columnType kind => .int kind.code
  | .isNull b => .boolean (writeFlag b)
  | .int n => .int n
  | .long n => .long n
  | .double x => .double x
  | .text s? => .string s?
  | .blob bytes? => .byteArray bytes?
  | .value _ => .void

variable {library : Native.Library} (conduct : Conduct library)

/-- A reply on its way out. An object goes out as its token, after which only the
table holds it; an object that gets no token is dropped. -/
def send (session : Session library) :
    Session.Reply → Except Failure NativeValue × Session library
  | .nothing => (.ok .void, session)
  | .connection id =>
    let (token, session) := session.connectionToken id
    (token.map fun token => .long token.raw, session.releaseConnection conduct id)
  | .statement id =>
    let (token, session) := session.statementToken id
    (token.map fun token => .long token.raw, session.releaseStatement conduct id)
  | .code code => (.ok (.int code.value), session)
  | .int n => (.ok (.int n), session)
  | .long n => (.ok (.long n), session)
  | .text s? => (.ok (.string s?), session)
  | .cell cell => (.ok (sendCell cell), session)

/-- The call lets go of the object that it is about. -/
def letGo (session : Session library) : Session.Target → Session library
  | .connection id => session.settleConnection conduct id
  | .statement id => session.settleStatement conduct id
  | .nothing => session

namespace Call

/-- The body of a native method. -/
def body (session : Session library) (call : Call) :
    Except Failure NativeValue × Session library :=
  match call.request session with
  | .error failure => (.error failure, session)
  | .ok request =>
    let (outcome, session) : Except Failure NativeValue × Session library :=
      match session.perform conduct request with
      | (.error error, session) => (.error (.refused error), session)
      | (.ok reply, session) => send conduct session reply
    (outcome, letGo conduct session request.target)

/-- A native method. It runs whether or not an exception is pending. -/
def run (call : Call) (environment : Environment) (session : Session library) :
    NativeValue × Environment × Session library :=
  let (outcome, session) := call.body conduct session
  let (returned, environment) := environment.conclude (.default call.result) outcome
  (returned, environment, session)

end Call

end SqliteBridge.Boundary
