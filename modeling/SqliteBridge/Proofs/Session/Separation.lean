import SqliteBridge.Proofs.Session.Calls

/-! Libraries in which every connection has a database of its own. A call leaves what other
connections have, and how it goes depends on what its own connection has and on nothing else: the
numbers of connections and the addresses of callbacks are only carried along. -/
namespace SqliteBridge

open Native (Call Course Library Question)

/-- What is called for, without the number of the connection and without an address. -/
def Native.Call.anonymous : Call → Call
  | openV2 _ path flags => openV2 0 path flags
  | close _ => close 0
  | closeV2 _ => closeV2 0
  | errorMessage _ => errorMessage 0
  | errorCode _ => errorCode 0
  | busyTimeout _ milliseconds => busyTimeout 0 milliseconds
  | setAuthorizer _ address? => setAuthorizer 0 (address?.map fun _ => 0)
  | prepareV2 id sql => prepareV2 ⟨0, id.index⟩ sql
  | exec _ sql => exec 0 sql
  | free _ message => free 0 message
  | changes _ => changes 0
  | lastInsertRowId _ => lastInsertRowId 0
  | step id => step ⟨0, id.index⟩
  | reset id => reset ⟨0, id.index⟩
  | finalize id => finalize ⟨0, id.index⟩
  | clearBindings id => clearBindings ⟨0, id.index⟩
  | bindParameterCount id => bindParameterCount ⟨0, id.index⟩
  | bindNull id number => bindNull ⟨0, id.index⟩ number
  | bindInt id number n => bindInt ⟨0, id.index⟩ number n
  | bindInt64 id number n => bindInt64 ⟨0, id.index⟩ number n
  | bindDouble id number x => bindDouble ⟨0, id.index⟩ number x
  | bindText id number bytes => bindText ⟨0, id.index⟩ number bytes
  | bindBlob id number bytes => bindBlob ⟨0, id.index⟩ number bytes
  | columnCount id => columnCount ⟨0, id.index⟩
  | columnName id column => columnName ⟨0, id.index⟩ column
  | columnType id column => columnType ⟨0, id.index⟩ column
  | columnInt id column => columnInt ⟨0, id.index⟩ column
  | columnInt64 id column => columnInt64 ⟨0, id.index⟩ column
  | columnDouble id column => columnDouble ⟨0, id.index⟩ column
  | columnText id column => columnText ⟨0, id.index⟩ column
  | columnBlob id column => columnBlob ⟨0, id.index⟩ column
  | columnBytes id column => columnBytes ⟨0, id.index⟩ column

/-- Whether a call opens a new database in memory. -/
def Native.Call.opensInMemory : Call → Bool
  | openV2 _ path _ => path = ":memory:"
  | _ => false

/-- Courses that go the same way. They ask the same questions, at whatever addresses, and return
the same, if after the same answers they go on from states that look the same. -/
inductive Native.Course.Alike {World First Second : Type} (looks : World → World → Prop) :
    Course World First → Course World Second → Prop where
  | returns {first : First} {second : Second} {world world' : World} (result : HEq first second)
    (same : looks world world') : Alike looks (.returns first world) (.returns second world')
  | asks {address address' : Nat} {question : Question} {world world' : World}
    {resume : Int32 → World → Course World First} {resume' : Int32 → World → Course World Second}
    (same : looks world world')
    (goes : ∀ code world world', looks world world' →
      Alike looks (resume code world) (resume' code world')) :
    Alike looks (.asks address question world resume) (.asks address' question world' resume')

structure Separation (library : Library) where
  /-- What a connection has: its last error and its counters, its database, and its statements with
  their parameters and their rows. -/
  View : Type
  view : Nat → library.World → View
  keeps (call : Call) (world : library.World) :
    (library.run call world).Within
      (fun before after => ∀ other ≠ call.connection, view other after = view other before) world
  /-- A database in memory is a new one, whatever there was before. -/
  alike {first second : Call} {world world' : library.World}
    (same : first.anonymous = second.anonymous)
    (looks : first.opensInMemory = true ∨
      view first.connection world = view second.connection world') :
    Course.Alike
      (fun world world' => view first.connection world = view second.connection world')
      (library.run first world) (library.run second world')

/-- The moves of a call are those that leave the other connections alone. -/
def Separation.motion {library : Library} (separation : Separation library) : Motion library where
  moves connection before after :=
    ∀ other ≠ connection, separation.view other after = separation.view other before
  refl _ _ _ _ := rfl
  trans early late other apart := (late other apart).trans (early other apart)
  runs := separation.keeps

end SqliteBridge
