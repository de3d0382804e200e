import SqliteBridge.Binding.Pair
import SqliteBridge.Binding.Path
import SqliteBridge.Bytes
import SqliteBridge.Text.Utf8

/-! The configuration of a generation run. Every field has a default, so an empty
object, or no file at all, gives the standard bindings. What paths look like, how a
configuration is written as JSON, and how source is laid out is not settled here: a run
takes a toolkit for that. -/
namespace SqliteBridge.Binding

structure Config where
  /-- The binary name of the class that declares the native methods. -/
  className : String
  /-- The start of the name of every native method. -/
  methodStart : String
  /-- The path of the operations that the bindings call. -/
  operationsPath : String
  /-- The path of the runtime that converts values. -/
  runtimePath : String
  /-- The text at the top of the generated file. -/
  header? : Option String
deriving DecidableEq

namespace Config

def standardHeader : String := "\n".intercalate [
  "Copyright ksqlite contributors.",
  "",
  "Licensed under the Apache License, Version 2.0 (the \"License\");",
  "you may not use this file except in compliance with the License.",
  "You may obtain a copy of the License at",
  "",
  "    http://www.apache.org/licenses/LICENSE-2.0",
  "",
  "Unless required by applicable law or agreed to in writing, software",
  "distributed under the License is distributed on an \"AS IS\" BASIS,",
  "WITHOUT WARRANTIES OR CONDITIONS OF ANY KIND, either express or implied.",
  "See the License for the specific language governing permissions and",
  "limitations under the License."]

def standard : Config where
  className := "com/birbit/sqlite3/internal/SqliteApi"
  methodStart := "native"
  operationsPath := "::ksqlite_sqlite::SqliteApi"
  runtimePath := "crate"
  header? := some standardHeader

instance : Inhabited Config := ⟨standard⟩

end Config

/-- What a generation run takes from other libraries. -/
structure Toolkit where
  /-- The path that a text spells, or why it spells none. -/
  readPath : String → Except String Path
  /-- The configuration that a JSON text gives. -/
  readConfig : String → Except Json.Fault Config
  /-- Source as text. -/
  write : Source → String

namespace Config

variable (tools : Toolkit)

/-! ### Validation -/

def isAsciiLower (c : Char) : Bool := decide ('a' ≤ c) && decide (c ≤ 'z')

def startsClassSegment (c : Char) : Bool :=
  isAsciiLower c || isAsciiUpper c || c == '_' || c == '$'

def continuesClassSegment (c : Char) : Bool := startsClassSegment c || c.isDigit

/-- Whether the characters are names separated by slashes. `start` says that a name
begins here. -/
def isClassName : (start : Bool) → List Char → Bool
  | start, [] => !start
  | true, c :: rest => startsClassSegment c && isClassName false rest
  | false, c :: rest =>
    if c = '/' then isClassName true rest else continuesClassSegment c && isClassName false rest

/-- Whether the characters can start a method name; nothing at all can. -/
def isMethodStart : List Char → Bool
  | [] => true
  | c :: rest => isAsciiLower c && rest.all isAsciiAlphanumeric

def classNamePattern : String := "^[A-Za-z_$][A-Za-z0-9_$]*(/[A-Za-z_$][A-Za-z0-9_$]*)*$"

def methodStartPattern : String := "^([a-z][A-Za-z0-9]*)?$"

def unmatched (field value pattern : String) : Fault :=
  .invalidConfig (field ++ " " ++ Text.quoted value ++ " does not match " ++ pattern)

/-- The path that a field spells. -/
def pathOf (field value : String) : Except Fault Path :=
  match tools.readPath value with
  | .ok path => .ok path
  | .error message =>
    .error (.invalidConfig (field ++ " " ++ Text.quoted value ++ " is not a path: " ++ message))

def operations (config : Config) : Except Fault Path :=
  pathOf tools "api_path" config.operationsPath

def runtime (config : Config) : Except Fault Path := pathOf tools "runtime_path" config.runtimePath

/-- Checks the fields in order. -/
def validate (config : Config) : Except Fault Unit := do
  if !isClassName true config.className.toList then
    throw (unmatched "jni_class" config.className classNamePattern)
  if !isMethodStart config.methodStart.toList then
    throw (unmatched "method_prefix" config.methodStart methodStartPattern)
  let _ ← config.operations tools
  let _ ← config.runtime tools
  pure ()

/-! ### Loading -/

/-- The valid configuration that a JSON text gives. -/
def ofJson (text : String) : Except Fault Config :=
  match tools.readConfig text with
  | .error fault => .error (.json fault)
  | .ok config => do
    config.validate tools
    pure config

end Config

/-- What a path of the file system holds. -/
inductive FileContent where
  | missing
  | directory
  | bytes (content : ByteArray)
deriving DecidableEq

namespace FileContent

instance : Inhabited FileContent := ⟨missing⟩

def isDirectoryMessage : String := "Is a directory (os error 21)"

/-- The text of a file, or why it has none. -/
def readText : FileContent → Except String String
  | missing => .error "No such file or directory (os error 2)"
  | directory => .error isDirectoryMessage
  | bytes content =>
    match String.fromUTF8? content with
    | some text => .ok text
    | none => .error "stream did not contain valid UTF-8"

/-- Replaces what the path holds by a text; a directory cannot be replaced. -/
def writeText (old : FileContent) (text : String) : Except String Unit × FileContent :=
  match old with
  | directory => (.error isDirectoryMessage, directory)
  | _ => (.ok (), bytes text.toUTF8)

end FileContent

namespace Config

/-- The configuration in a file, or the standard one if there is no file. -/
def load (tools : Toolkit) (file : FileContent) : Except Fault Config :=
  match file with
  | .missing => .ok standard
  | _ =>
    match file.readText with
    | .ok text => ofJson tools text
    | .error message => .error (.file message)

end Config

end SqliteBridge.Binding
