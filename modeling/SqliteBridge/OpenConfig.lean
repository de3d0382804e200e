import SqliteBridge.Json.Composite

/-! How a connection is opened. -/
namespace SqliteBridge

structure OpenFlags where
  readOnly : Bool
  readWrite : Bool
  create : Bool
  /-- Whether the path may be a URI. -/
  uri : Bool
  /-- Whether the database is in memory whatever the path. -/
  memory : Bool
  sharedCache : Bool
  privateCache : Bool
deriving DecidableEq, Inhabited

namespace OpenFlags

def none : OpenFlags := ⟨false, false, false, false, false, false, false⟩

def reading : OpenFlags := { none with readOnly := true }

def writing : OpenFlags := { none with readWrite := true }

def creating : OpenFlags := { none with readWrite := true, create := true }

/-- The bits of the flags for the database library, which is always asked for a connection
that threads can share. Without a mode a database is opened for writing and created. -/
def code (flags : OpenFlags) : Int32 :=
  let bit (isSet : Bool) (bit : Int32) : Int32 := if isSet then bit else 0
  let mode : Int32 :=
    if flags.readOnly || flags.readWrite then
      bit flags.readOnly 0x1 ||| bit flags.readWrite 0x2 ||| bit flags.create 0x4
    else 0x6
  0x10000 ||| mode ||| bit flags.uri 0x40 ||| bit flags.memory 0x80 |||
    bit flags.sharedCache 0x20000 ||| bit flags.privateCache 0x40000

private def flag (name : String) (get : OpenFlags → Bool) (set : OpenFlags → Bool → OpenFlags) :
    Json.Field OpenFlags :=
  ⟨name, false, fun flags => Json.writeBool (get flags), fun flags => set flags <$> Json.boolean⟩

def format : Json.Record OpenFlags where
  name := "OpenFlags"
  initial := none
  fields := [
    flag "read_only" readOnly fun flags b => { flags with readOnly := b },
    flag "read_write" readWrite fun flags b => { flags with readWrite := b },
    flag "create" create fun flags b => { flags with create := b },
    flag "uri" uri fun flags b => { flags with uri := b },
    flag "memory" memory fun flags b => { flags with memory := b },
    flag "shared_cache" sharedCache fun flags b => { flags with sharedCache := b },
    flag "private_cache" privateCache fun flags b => { flags with privateCache := b }]
  defaults := true
  strict := false

end OpenFlags

/-- The path that stands for a database in memory. -/
def memoryPath : String := ":memory:"

structure OpenConfig where
  path : String
  flags : OpenFlags
  /-- How long to wait for a lock; zero keeps the default of not waiting. -/
  busyTimeout : UInt32
deriving DecidableEq

namespace OpenConfig

/-- A database file, created if needed. -/
def file (path : String) : OpenConfig := ⟨path, .creating, 0⟩

def inMemory : OpenConfig := file memoryPath

/-- The waiting time as the database library takes it. -/
def busyMilliseconds (config : OpenConfig) : Int32 :=
  if config.busyTimeout.toNat ≤ 2147483647 then .ofNat config.busyTimeout.toNat
  else Int32.maxValue

instance : Inhabited OpenConfig := ⟨inMemory⟩

def format : Json.Record OpenConfig where
  name := "SqliteConfig"
  initial := inMemory
  fields := [
    ⟨"path", false, fun config => Json.writeString config.path,
      fun config => (fun path => { config with path }) <$> Json.string⟩,
    ⟨"flags", false, fun config => OpenFlags.format.write config.flags,
      fun config => (fun flags => { config with flags }) <$> OpenFlags.format.read⟩,
    ⟨"busy_timeout_ms", false, fun config => Json.writeInt config.busyTimeout.toNat,
      fun config => (fun n => { config with busyTimeout := UInt32.ofNat n.toNat }) <$>
        Json.integer "u32" 0 4294967295⟩]
  defaults := true
  strict := false

end OpenConfig

end SqliteBridge
