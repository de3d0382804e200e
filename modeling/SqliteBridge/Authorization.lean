import SqliteBridge.Json.Composite

/-! Authorization: a connection can have a callback that is asked about each action
while a statement is compiled. -/
namespace SqliteBridge

/-- What a callback decides about an action. -/
inductive Verdict where
  | allow
  /-- The statement does not compile. -/
  | deny
  /-- The statement compiles without the action. -/
  | ignore
deriving DecidableEq, Inhabited

namespace Verdict

def code : Verdict → Int32
  | allow => 0
  | deny => 1
  | ignore => 2

def variantName : Verdict → String
  | allow => "Ok"
  | deny => "Deny"
  | ignore => "Ignore"

def all : List Verdict := [allow, deny, ignore]

def readJson : Json.Reader Verdict :=
  Json.Variant.read (all.map fun verdict => .bare verdict.variantName verdict)

def writeJson (verdict : Verdict) : List Char := Json.writeString verdict.variantName

end Verdict

/-- An action and up to four names whose meaning depends on it. -/
structure AuthorizationRequest where
  action : Int32
  first? : Option String
  second? : Option String
  third? : Option String
  fourth? : Option String
deriving DecidableEq, Inhabited

namespace AuthorizationRequest

def arguments (request : AuthorizationRequest) : List (Option String) :=
  [request.first?, request.second?, request.third?, request.fourth?]

private def argument (name : String) (get : AuthorizationRequest → Option String)
    (set : AuthorizationRequest → Option String → AuthorizationRequest) :
    Json.Field AuthorizationRequest :=
  ⟨name, false, fun request => Json.writeOption Json.writeString (get request),
    fun request => set request <$> Json.optional Json.string⟩

def format : Json.Record AuthorizationRequest where
  name := "AuthorizationParams"
  initial := ⟨0, none, none, none, none⟩
  fields := [
    ⟨"action_code", true, fun request => Json.writeInt request.action.toInt,
      fun request => (fun n => { request with action := Int32.ofInt n }) <$>
        Json.integer "i32" Int32.minValue.toInt Int32.maxValue.toInt⟩,
    argument "param1" first? fun request value => { request with first? := value },
    argument "param2" second? fun request value => { request with second? := value },
    argument "param3" third? fun request value => { request with third? := value },
    argument "param4" fourth? fun request value => { request with fourth? := value }]
  defaults := false
  strict := false

end AuthorizationRequest

/-- What happens when a callback is asked: it decides, or it ends without a
decision. -/
inductive Answer where
  | decided (verdict : Verdict)
  | aborted
deriving DecidableEq

/-- A callback that ends without a decision denies the action. -/
def Answer.verdict : Answer → Verdict
  | decided verdict => verdict
  | aborted => .deny

/-- A callback, known by a number. What it does when it is asked is up to it, and it may
do something else each time. -/
abbrev Callback := Nat

/-- A rule that answers the requests it matches; what it does not name matches
everything. -/
structure AuthorizationRule where
  action? : Option Int32
  arguments? : Option (List (Option String))
  answer : Answer

def AuthorizationRule.applies (rule : AuthorizationRule) (request : AuthorizationRequest) : Bool :=
  (rule.action?.elim true fun action => action == request.action) &&
    (rule.arguments?.elim true fun arguments => arguments == request.arguments)

/-- Rules in order, and the answer where none applies. -/
structure AuthorizationRules where
  rules : List AuthorizationRule
  default : Answer

def AuthorizationRules.answer (rules : AuthorizationRules) (request : AuthorizationRequest) :
    Answer :=
  ((rules.rules.find? fun rule => rule.applies request).map AuthorizationRule.answer).getD
    rules.default

end SqliteBridge
