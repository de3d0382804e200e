import SqliteBridge.Binding.Path

/-! Reading paths whose arguments are paths, lifetimes and numbers. A path is read from a whole
text, in which blanks and comments between tokens do not count. -/
namespace SqliteBridge.Binding

namespace PathText

mutual

/-- An argument between angle brackets. -/
inductive Argument where
  | type (path : Spelled)
  | lifetime (name : String)
  | integer (text : String)

/-- An argument, and whether a comma follows it. -/
inductive ListedArgument where
  | mk (argument : Argument) (comma : Bool)

/-- The arguments of a segment, and whether `::` stands before their bracket. -/
inductive Arguments where
  | mk (afterColons : Bool) (list : List ListedArgument)

inductive Segment where
  | mk (name : Identifier) (arguments : Option Arguments)

/-- A path as it was read. -/
inductive Spelled where
  | mk (fromRoot : Bool) (first : Segment) (rest : List Segment)

end

/-! ### Tokens -/

inductive Token where
  | word (name : Identifier)
  | colons
  | less
  | greater
  | comma
  | lifetime (name : String)
  | integer (text : String)
deriving DecidableEq

/-- Blanks of source text. The marks of writing direction count as blanks. -/
def isBlank (c : Char) : Bool :=
  let n := c.toNat
  (decide (9 ≤ n) && decide (n ≤ 13)) || n == 0x20 || n == 0x85 || n == 0xa0 || n == 0x1680
    || (decide (0x2000 ≤ n) && decide (n ≤ 0x200a)) || n == 0x200e || n == 0x200f
    || n == 0x2028 || n == 0x2029 || n == 0x202f || n == 0x205f || n == 0x3000

/-- What follows a line comment. -/
def skipLine (text : List Char) : List Char := text.dropWhile (· != '\n')

/-- What follows a block comment that is open `depth` times; nothing if it never
ends. -/
def skipBlock : (depth : Nat) → List Char → Option (List Char)
  | _, [] => none
  | depth, '*' :: '/' :: rest => if depth ≤ 1 then some rest else skipBlock (depth - 1) rest
  | depth, '/' :: '*' :: rest => skipBlock (depth + 1) rest
  | depth, _ :: rest => skipBlock depth rest

/-- What follows the comment at the front of a text, if one is there. Comments of
documentation do not count; a block comment that never ends is none. -/
def skipComment? (text : List Char) : Option (List Char) :=
  match text with
  | '/' :: '/' :: rest =>
    match rest with
    | '!' :: _ => none
    | '/' :: '/' :: _ => some (skipLine rest)
    | '/' :: _ => none
    | _ => some (skipLine rest)
  | '/' :: '*' :: '*' :: '/' :: rest => some rest
  | '/' :: '*' :: '*' :: '*' :: rest => skipBlock 1 ('*' :: '*' :: rest)
  | '/' :: '*' :: '*' :: _ => none
  | '/' :: '*' :: '!' :: _ => none
  | '/' :: '*' :: rest => skipBlock 1 rest
  | _ => none

/-- The text from its next token on; every step takes a character. -/
def skipBlanks : (fuel : Nat) → List Char → List Char
  | 0, text => text
  | fuel + 1, text =>
    match skipComment? text with
    | some rest => skipBlanks fuel rest
    | none =>
      match text with
      | c :: rest => if isBlank c then skipBlanks fuel rest else text
      | [] => []

def takeWord (text : List Char) : List Char × List Char :=
  (text.takeWhile Text.continuesIdentifier, text.dropWhile Text.continuesIdentifier)

/-- The token at the front of a text without blanks there. -/
def nextToken? (text : List Char) : Option (Token × List Char) :=
  match text with
  | ':' :: ':' :: rest => some (.colons, rest)
  | '<' :: rest => some (.less, rest)
  | '>' :: rest => some (.greater, rest)
  | ',' :: rest => some (.comma, rest)
  | '\'' :: c :: rest =>
    if Text.startsIdentifier c then
      let (name, after) := takeWord (c :: rest)
      if after.head? = some '\'' then none else some (.lifetime (.ofList name), after)
    else none
  | 'r' :: '#' :: c :: rest =>
    if Text.startsIdentifier c then
      let (name, after) := takeWord (c :: rest)
      if Identifier.pathWords.contains (.ofList name) then none
      else some (.word ⟨.ofList name, true⟩, after)
    else none
  | c :: rest =>
    let (name, after) := takeWord (c :: rest)
    if c.isDigit then
      if after.head? = some '.' then none else some (.integer (.ofList name), after)
    else if Text.startsIdentifier c then
      match after with
      | '"' :: _ => none
      | '\'' :: _ => none
      | _ => some (.word ⟨.ofList name, false⟩, after)
    else none
  | [] => none

/-- The tokens of a text, if it consists of them. -/
def tokens? : (fuel : Nat) → List Char → Option (List Token)
  | 0, _ => none
  | fuel + 1, text =>
    match skipBlanks text.length text with
    | [] => some []
    | rest => do
      let (token, rest) ← nextToken? rest
      let more ← tokens? fuel rest
      some (token :: more)

/-! ### Reading -/

/-- The words that stand for a segment of their own and take no arguments. -/
def standaloneWords : List String := ["super", "self", "crate", "try"]

mutual

/-- The path at the front of the tokens. -/
def readPath : (fuel : Nat) → List Token → Option (Spelled × List Token)
  | 0, _ => none
  | fuel + 1, tokens => do
    let (fromRoot, tokens) := match tokens with
      | .colons :: rest => (true, rest)
      | _ => (false, tokens)
    let (first, tokens) ← readSegment fuel tokens
    let (rest, tokens) ← readSegments fuel tokens
    some (.mk fromRoot first rest, tokens)

/-- Further segments, each after `::`. -/
def readSegments : (fuel : Nat) → List Token → Option (List Segment × List Token)
  | 0, _ => none
  | fuel + 1, tokens =>
    match tokens with
    | .colons :: rest => do
      let (segment, tokens) ← readSegment fuel rest
      let (more, tokens) ← readSegments fuel tokens
      some (segment :: more, tokens)
    | _ => some ([], tokens)

def readSegment : (fuel : Nat) → List Token → Option (Segment × List Token)
  | 0, _ => none
  | fuel + 1, tokens =>
    match tokens with
    | .word name :: rest =>
      if !name.isRaw && standaloneWords.contains name.name then some (.mk name none, rest)
      else if !name.isRaw && name.name != "Self" && Path.keywords.contains name.name then none
      else
        match rest with
        | .less :: rest => do
          let (list, tokens) ← readArguments fuel rest
          some (.mk name (some (.mk false list)), tokens)
        | .colons :: .less :: rest => do
          let (list, tokens) ← readArguments fuel rest
          some (.mk name (some (.mk true list)), tokens)
        | _ => some (.mk name none, rest)
    | _ => none

/-- Arguments up to the closing bracket; each but the last needs a comma after it. -/
def readArguments : (fuel : Nat) → List Token → Option (List ListedArgument × List Token)
  | 0, _ => none
  | fuel + 1, tokens =>
    match tokens with
    | .greater :: rest => some ([], rest)
    | _ => do
      let (argument, tokens) ← readArgument fuel tokens
      match tokens with
      | .comma :: rest =>
        let (more, tokens) ← readArguments fuel rest
        some (.mk argument true :: more, tokens)
      | .greater :: rest => some ([.mk argument false], rest)
      | _ => none

def readArgument : (fuel : Nat) → List Token → Option (Argument × List Token)
  | 0, _ => none
  | fuel + 1, tokens =>
    match tokens with
    | .lifetime name :: rest => some (.lifetime name, rest)
    | .integer text :: rest => some (.integer text, rest)
    | _ => do
      let (path, tokens) ← readPath fuel tokens
      some (.type path, tokens)

end

/-! ### Source -/

mutual

def source : Spelled → Source
  | .mk fromRoot first rest =>
    (if fromRoot then Source.word "::" else []) ++ segmentSource first ++ segmentsSource rest

def segmentsSource : List Segment → Source
  | [] => []
  | segment :: rest => Source.word "::" ++ segmentSource segment ++ segmentsSource rest

def segmentSource : Segment → Source
  | .mk name none => [.identifier name]
  | .mk name (some arguments) => .identifier name :: argumentsSource arguments

/-- Lifetimes are written before all other arguments. A comma that an argument
brings along stays with it. -/
def argumentsSource : Arguments → Source
  | .mk afterColons list =>
    let (lifetimes, separated) := lifetimesSource list true
    (if afterColons then Source.word "::" else []) ++ Source.symbol '<' :: lifetimes
      ++ otherArgumentsSource list separated ++ [Source.symbol '>']

/-- The lifetimes, and whether what follows them needs no comma before it. -/
def lifetimesSource : List ListedArgument → Bool → Source × Bool
  | [], separated => ([], separated)
  | .mk (.lifetime name) comma :: rest, _ =>
    let (more, separated) := lifetimesSource rest comma
    (Source.lifetime name ++ (if comma then [Source.symbol ','] else []) ++ more, separated)
  | _ :: rest, separated => lifetimesSource rest separated

/-- The arguments that are not lifetimes. -/
def otherArgumentsSource : List ListedArgument → Bool → Source
  | [], _ => []
  | .mk (.lifetime _) _ :: rest, separated => otherArgumentsSource rest separated
  | .mk (.integer text) comma :: rest, separated =>
    (if separated then [] else [Source.symbol ',']) ++ Tree.literal text
      :: (if comma then [Source.symbol ','] else []) ++ otherArgumentsSource rest comma
  | .mk (.type path) comma :: rest, separated =>
    (if separated then [] else [Source.symbol ',']) ++ source path
      ++ (if comma then [Source.symbol ','] else []) ++ otherArgumentsSource rest comma

end

/-! ### The source is a path -/

theorem isNested_comma (comma : Bool) :
    IsNested (if comma then [Source.symbol ','] else []) := by
  cases comma with
  | false => exact .nil
  | true => exact .tree rfl rfl .nil

theorem isNested_noComma (separated : Bool) :
    IsNested (if separated then [] else [Source.symbol ',']) := by
  cases separated with
  | false => exact .tree rfl rfl .nil
  | true => exact .nil

theorem isPath_colons : IsPath (Source.word "::") := by
  rw [show Source.word "::" = [.punctuation ':' true, .punctuation ':' false] from rfl]
  exact .colon true (.colon false .nil)

theorem isNested_lifetimes (list : List ListedArgument) (separated : Bool) :
    IsNested (lifetimesSource list separated).1 := by
  induction list generalizing separated with
  | nil =>
    rw [lifetimesSource]
    exact .nil
  | cons listed rest ih =>
    obtain ⟨argument, comma⟩ := listed
    cases argument with
    | lifetime name =>
      rw [lifetimesSource]
      exact ((IsNested.tree rfl rfl (.tree rfl rfl .nil)).append (isNested_comma comma)).append
        (ih comma)
    | type path =>
      rw [lifetimesSource]
      · exact ih separated
      · simp
    | integer text =>
      rw [lifetimesSource]
      · exact ih separated
      · simp

mutual

theorem isPath_source : (path : Spelled) → IsPath (source path)
  | .mk fromRoot first rest => by
    have opening : IsPath (if fromRoot then Source.word "::" else []) := by
      cases fromRoot with
      | false => exact .nil
      | true => exact isPath_colons
    rw [source]
    exact (opening.append (isPath_segment first)).append (isPath_segments rest)

theorem isPath_segments : (segments : List Segment) → IsPath (segmentsSource segments)
  | [] => by
    rw [segmentsSource]
    exact .nil
  | segment :: rest => by
    rw [segmentsSource]
    exact (isPath_colons.append (isPath_segment segment)).append (isPath_segments rest)

theorem isPath_segment : (segment : Segment) → IsPath (segmentSource segment)
  | .mk name none => by
    rw [segmentSource]
    exact .name name .nil
  | .mk name (some arguments) => by
    rw [segmentSource]
    exact .name name (isPath_arguments arguments)

theorem isPath_arguments : (arguments : Arguments) → IsPath (argumentsSource arguments)
  | .mk afterColons list => by
    have colons : IsPath (if afterColons then Source.word "::" else []) := by
      cases afterColons with
      | false => exact .nil
      | true => exact isPath_colons
    have inside := (isNested_lifetimes list true).append
      (isNested_otherArguments list (lifetimesSource list true).2)
    rw [argumentsSource]
    have bracketed := colons.append (IsPath.arguments false false inside .nil)
    simpa only [List.append_assoc, List.cons_append, Source.symbol] using bracketed

theorem isNested_otherArguments : (list : List ListedArgument) → (separated : Bool) →
    IsNested (otherArgumentsSource list separated)
  | [], _ => by
    rw [otherArgumentsSource]
    exact .nil
  | .mk (.lifetime _) _ :: rest, separated => by
    rw [otherArgumentsSource]
    exact isNested_otherArguments rest separated
  | .mk (.integer text) comma :: rest, separated => by
    rw [otherArgumentsSource]
    exact ((isNested_noComma separated).append (.tree rfl rfl (isNested_comma comma))).append
      (isNested_otherArguments rest comma)
  | .mk (.type path) comma :: rest, separated => by
    rw [otherArgumentsSource]
    exact (((isNested_noComma separated).append (isPath_source path).isNested).append
      (isNested_comma comma)).append (isNested_otherArguments rest comma)

end

/-! ### Whole texts -/

/-- What a whole text spells. A byte order mark may stand before it. -/
def spelled? (text : String) : Option Spelled := do
  let text := match text.toList with
    | '\ufeff' :: rest => rest
    | text => text
  let tokens ← tokens? (text.length + 1) text
  match ← readPath (4 * tokens.length + 4) tokens with
  | (path, []) => some path
  | _ => none

/-- The path that a text spells. A refusal has no message. -/
def read (text : String) : Except String Path :=
  match spelled? text with
  | some path => .ok ⟨source path, isPath_source path⟩
  | none => .error ""

end PathText

end SqliteBridge.Binding
