import SqliteBridge.Binding.Catalog
import SqliteBridge.Binding.Config
import SqliteBridge.Binding.Trampoline
import SqliteBridge.Text.Lines

/-! The generated file: the header as comments, a marker, the table of native
methods, and a trampoline for each pair. -/
namespace SqliteBridge.Binding

def marker : String := "// Generated by JniWriter, do not edit!"

/-- The header as comment lines with a blank line after them. -/
def headerComments (header : String) : List Char :=
  (Text.lines header.toList).flatMap (fun line =>
    if line.isEmpty then ['/', '/', '\n'] else '/' :: '/' :: ' ' :: line ++ ['\n'])
  ++ ['\n']

/-- The table of the names and descriptors of all native methods. -/
def registrationTable (className : String) (pairs : List Pair) : Source :=
  Trampoline.doc (.literal "r\" Binary name of the class declaring the native methods.\"")
    ++ Source.words ["pub", "const", "JNI_CLASS", ":", "&", "str", "="]
    ++ Source.string className :: Source.symbol ';'
    :: Trampoline.doc (.literal
      "r\" \x60(name, descriptor)\x60 of every generated native method.\"")
    ++ Source.words ["pub", "const", "NATIVE_METHODS", ":", "&"]
    ++ Source.bracketed
      [Source.parenthesized (Source.words ["&", "str", ",", "&", "str"])]
    :: Source.words ["=", "&"]
    ++ [Source.bracketed (Source.commaSeparated (pairs.map fun pair =>
        [Source.parenthesized
          [Source.string pair.boundary.name, Source.symbol ',', Source.string pair.descriptor]])),
      Source.symbol ';']

def trampolines (registry : Registry) (className : String) (operations runtime : Path) :
    List Pair → Except Halt (List Trampoline)
  | [] => .ok []
  | pair :: rest => do
    let trampoline ← Trampoline.ofPair registry className operations runtime pair
    let more ← trampolines registry className operations runtime rest
    .ok (trampoline :: more)

/-- The items of a file, each with a blank line after it. -/
def itemsText (tools : Toolkit) (items : List Source) : List Char :=
  items.flatMap fun item => (tools.write item).toList ++ ['\n', '\n']

/-- The text of a file with the given items. -/
def fileText (tools : Toolkit) (config : Config) (items : List Source) : String :=
  .ofList ((match config.header? with
    | some header => headerComments header
    | none => []) ++ marker.toList ++ ['\n', '\n'] ++ itemsText tools items)

/-- The generated file for pairs. -/
def render (tools : Toolkit) (config : Config) (registry : Registry) (pairs : List Pair) :
    Except Halt String := do
  let operations ← Trampoline.refuse (config.operations tools)
  let runtime ← Trampoline.refuse (config.runtime tools)
  let trampolines ← trampolines registry config.className operations runtime pairs
  .ok (fileText tools config
    (registrationTable config.className pairs :: trampolines.map Trampoline.source))

/-- The generated file for the whole catalog. -/
def generate (tools : Toolkit) (config : Config) : Except Halt String := do
  Trampoline.refuse (config.validate tools)
  let pairs ← Trampoline.refuse (Operation.pairs Operation.catalog config.methodStart .standard)
  render tools config .standard pairs

/-- Brings a file up to date, and tells whether it had to be written. A file that
already holds the text is not touched. -/
def writeBindings (tools : Toolkit) (config : Config) (file : FileContent) :
    Except Halt Bool × FileContent :=
  match generate tools config with
  | .error halt => (.error halt, file)
  | .ok text =>
    if file.readText.toOption = some text then (.ok false, file)
    else
      match file.writeText text with
      | (.ok (), file) => (.ok true, file)
      | (.error message, file) => (.error (.refused (.file message)), file)

end SqliteBridge.Binding
