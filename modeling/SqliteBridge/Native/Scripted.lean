import SqliteBridge.Native.Library

/-! Scripted libraries: what a call returns depends on the call and on how many calls were made
before it. They ask nothing. -/
namespace SqliteBridge.Native

def scripted (answer : Nat → (call : Call) → call.Result) : Library where
  World := Nat
  start := 0
  run call count := .returns (answer count call) (count + 1)
  isReturn_run _ _ _ := rfl
  errorString _ := none
  version := .empty

/-- What a call returns if it succeeds and there is nothing to tell: no rows, no values and no
message. -/
def Call.uneventful : (call : Call) → call.Result
  | openV2 _ _ _ => ⟨0, false⟩
  | prepareV2 _ _ => ⟨0, true⟩
  | exec _ _ => ⟨0, none⟩
  | step _ => (101 : Int32)
  | errorMessage _ => none
  | columnName _ _ => none
  | columnText _ _ => none
  | columnBlob _ _ => none
  | columnDouble _ _ => (⟨0⟩ : Binary64)
  | columnInt64 _ _ => (0 : Int64)
  | lastInsertRowId _ => (0 : Int64)
  | free _ _ => ()
  | close _ | closeV2 _ | errorCode _ | busyTimeout _ _ | setAuthorizer _ _ | changes _ | reset _
  | finalize _ | clearBindings _ | bindParameterCount _ | bindNull _ _ | bindInt _ _ _
  | bindInt64 _ _ _ | bindDouble _ _ _ | bindText _ _ _ | bindBlob _ _ _ | columnCount _
  | columnType _ _ | columnInt _ _ | columnBytes _ _ => (0 : Int32)

end SqliteBridge.Native
