import SqliteBridge.Proofs.Binding.Verdicts

/-! The header of a generated file. Whatever characters it has, it is written as one comment for
each of its lines, with a blank line after the last, so nothing of it stands outside a comment;
and what follows from the marker on is the same for every header. -/
namespace SqliteBridge

namespace Text

/-! ### Lines -/

/-- What a line feed ends, without the carriage return that belongs to the end. -/
def withoutReturn (piece : List Char) : List Char :=
  if piece.getLast? = some '\r' then piece.dropLast else piece

/-- The lines of a text that line feeds divide into pieces. The last piece has no end, and is no
line if there is nothing in it. -/
def linesOfPieces : List (List Char) → List (List Char)
  | [] => []
  | [last] => if last.isEmpty then [] else [last]
  | piece :: next :: rest => withoutReturn piece :: linesOfPieces (next :: rest)

theorem withoutReturn_cons {c : Char} {piece : List Char} (kept : piece ≠ [] ∨ c ≠ '\r') :
    withoutReturn (c :: piece) = c :: withoutReturn piece := by
  cases piece with
  | nil =>
    have plain : c ≠ '\r' := by simpa using kept
    simp [withoutReturn, plain]
  | cons d rest =>
    simp only [withoutReturn, List.getLast?_cons_cons, List.dropLast_cons_cons]
    split <;> rfl

/-- A character more at the start is one more in the first line. A carriage return is, unless the
line feed follows at once. -/
theorem linesOfPieces_cons {c : Char} {piece : List Char} {rest : List (List Char)}
    (kept : rest = [] ∨ piece ≠ [] ∨ c ≠ '\r') :
    linesOfPieces ((c :: piece) :: rest) =
      match linesOfPieces (piece :: rest) with
      | [] => [[c]]
      | line :: more => (c :: line) :: more := by
  cases rest with
  | nil =>
    rw [linesOfPieces, linesOfPieces]
    cases piece <;> rfl
  | cons next rest =>
    rw [linesOfPieces, linesOfPieces, withoutReturn_cons (kept.resolve_left (List.cons_ne_nil _ _))]

/-- The pieces of a text that is not divided at its start. -/
theorem splitOn_cons {c : Char} (plain : c ≠ '\n') (rest : List Char) :
    ∃ piece pieces, rest.splitOn '\n' = piece :: pieces ∧
      (c :: rest).splitOn '\n' = (c :: piece) :: pieces := by
  obtain ⟨piece, pieces, divided⟩ := List.exists_cons_of_ne_nil (List.splitOn_ne_nil '\n' rest)
  refine ⟨piece, pieces, divided, ?_⟩
  rw [List.splitOn_cons_eq_if_modifyHead, if_neg (by simpa using plain), divided]
  rfl

/-- An empty first piece that is not the whole text ends at a line feed. -/
theorem pieces_cases {text piece : List Char} {pieces : List (List Char)}
    (divided : text.splitOn '\n' = piece :: pieces) :
    pieces = [] ∨ piece ≠ [] ∨ ∃ rest, text = '\n' :: rest := by
  cases text with
  | nil => exact .inl (List.cons.inj divided).2.symm
  | cons c rest =>
    by_cases feed : c = '\n'
    · exact .inr (.inr ⟨rest, feed ▸ rfl⟩)
    · obtain ⟨first, others, -, divided'⟩ := splitOn_cons feed rest
      rw [divided'] at divided
      exact .inr (.inl ((List.cons.inj divided).1 ▸ List.cons_ne_nil c first))

/-- A piece before a line feed is a line, whatever follows. -/
theorem linesOfPieces_ended {piece : List Char} (unbroken : '\n' ∉ piece) (rest : List Char) :
    linesOfPieces ((piece ++ '\n' :: rest).splitOn '\n') =
      withoutReturn piece :: linesOfPieces (rest.splitOn '\n') := by
  obtain ⟨next, pieces, others⟩ := List.exists_cons_of_ne_nil (List.splitOn_ne_nil '\n' rest)
  rw [List.splitOn_append_cons_self_of_not_mem unbroken, others]
  rfl

/-- The lines of a text by its line feeds. -/
theorem lines_eq_linesOfPieces (text : List Char) :
    lines text = linesOfPieces (text.splitOn '\n') := by
  induction text using lines.induct with
  | case1 => rfl
  | case2 rest ih =>
    have ended := linesOfPieces_ended (List.not_mem_nil : '\n' ∉ []) rest
    rw [lines, ih]
    exact ended.symm
  | case3 rest ih =>
    have ended := linesOfPieces_ended (by decide : '\n' ∉ ['\r']) rest
    rw [lines, ih]
    exact ended.symm
  | case4 c rest plain unended _ ih | case5 c rest plain unended _ _ _ ih =>
    obtain ⟨piece, pieces, others, divided⟩ := splitOn_cons plain rest
    -- A carriage return right before a line feed was the case before this one.
    have kept : pieces = [] ∨ piece ≠ [] ∨ c ≠ '\r' := by
      rcases pieces_cases others with last | filled | ⟨next, feed⟩
      · exact .inl last
      · exact .inr (.inl filled)
      · exact .inr (.inr fun ends => unended next ends feed)
    rw [others] at ih
    rw [divided, linesOfPieces_cons kept, ← ih]
    exact lines.eq_4 c rest plain unended

theorem lineFeed_notMem_lines (text : List Char) : ∀ line ∈ lines text, '\n' ∉ line := by
  induction text using lines.induct with
  | case1 => exact fun line listed => absurd listed List.not_mem_nil
  | case2 rest ih | case3 rest ih =>
    rw [lines, List.forall_mem_cons]
    exact ⟨List.not_mem_nil, ih⟩
  | case4 c rest plain unended none ih =>
    rw [lines.eq_4 c rest plain unended, none]
    rw [List.forall_mem_singleton, List.mem_singleton]
    exact fun feed => plain feed.symm
  | case5 c rest plain unended line more some ih =>
    rw [some, List.forall_mem_cons] at ih
    rw [lines.eq_4 c rest plain unended, some, List.forall_mem_cons]
    refine ⟨?_, ih.2⟩
    rw [List.mem_cons, not_or]
    exact ⟨fun feed => plain feed.symm, ih.1⟩

end Text

namespace Binding

/-! ### Comments -/

/-- A line as a comment. One with nothing in it has no blank after the slashes. -/
def comment (line : List Char) : List Char :=
  if line.isEmpty then ['/', '/'] else '/' :: '/' :: ' ' :: line

theorem comment_slashes (line : List Char) : ['/', '/'] <+: comment line := by
  rw [comment]
  split
  · exact List.prefix_rfl
  · exact ⟨' ' :: line, rfl⟩

theorem lineFeed_notMem_comment {line : List Char} (unbroken : '\n' ∉ line) :
    '\n' ∉ comment line := by
  rw [comment]
  split
  · decide
  · simp [unbroken]

theorem splitOn_unlines {lines : List (List Char)} (unbroken : ∀ line ∈ lines, '\n' ∉ line)
    (rest : List Char) :
    (lines.flatMap (· ++ ['\n']) ++ rest).splitOn '\n' = lines ++ rest.splitOn '\n' := by
  induction lines with
  | nil => rfl
  | cons line others ih =>
    rw [List.forall_mem_cons] at unbroken
    rw [List.flatMap_cons, List.append_assoc, List.append_assoc, List.singleton_append,
      List.splitOn_append_cons_self_of_not_mem unbroken.1, ih unbroken.2, List.cons_append]

theorem headerComments_eq (header : String) :
    headerComments header =
      ((Text.lines header.toList).map comment).flatMap (· ++ ['\n']) ++ ['\n'] := by
  have each : (fun line : List Char => if line.isEmpty then ['/', '/', '\n']
      else '/' :: '/' :: ' ' :: line ++ ['\n']) = fun line => comment line ++ ['\n'] := by
    funext line
    rw [comment]
    split <;> rfl
  rw [headerComments, each, List.flatMap_map]

/-! ### What stands before the marker -/

/-- The text before the marker, for the header of a configuration. -/
def headerText : (header? : Option String) → List Char
  | some header => headerComments header
  | none => []

/-- A text is nothing but a header in comments: its lines are one comment for each line of the
header, in order, then a blank line. Without a header it is empty. -/
structure IsCommented (header? : Option String) (text : List Char) : Prop where
  comments : ∀ header, header? = some header →
    text.splitOn '\n' =
      (Text.linesOfPieces (header.toList.splitOn '\n')).map comment ++ [[], []]
  commentsOnly : ∀ line ∈ text.splitOn '\n', line = [] ∨ ['/', '/'] <+: line
  absent : header? = none → text = []

theorem splitOn_headerComments (header : String) :
    (headerComments header).splitOn '\n' =
      (Text.linesOfPieces (header.toList.splitOn '\n')).map comment ++ [[], []] := by
  have unbroken : ∀ line ∈ (Text.lines header.toList).map comment, '\n' ∉ line := by
    rw [List.forall_mem_map]
    exact fun line listed => lineFeed_notMem_comment (Text.lineFeed_notMem_lines _ line listed)
  rw [headerComments_eq, splitOn_unlines unbroken, Text.lines_eq_linesOfPieces]
  rfl

theorem isCommented_headerText (header? : Option String) :
    IsCommented header? (headerText header?) := by
  cases header? with
  | none =>
    refine ⟨fun header present => (nomatch present), fun line listed => ?_, fun _ => rfl⟩
    exact .inl (List.mem_singleton.mp listed)
  | some header =>
    have divided := splitOn_headerComments header
    refine ⟨?_, ?_, fun absent => nomatch absent⟩
    · rintro other ⟨⟩
      exact divided
    · intro line listed
      rw [headerText, divided, List.mem_append, List.mem_map] at listed
      rcases listed with ⟨content, -, rfl⟩ | blank
      · exact .inr (comment_slashes content)
      · exact .inl (by simpa using blank)

variable {tools : Toolkit}

theorem fileText_eq (config : Config) (items : List Source) :
    fileText tools config items = .ofList (headerText config.header? ++ marker.toList
      ++ ('\n' :: '\n' :: itemsText tools items)) := by
  rw [fileText, List.append_assoc _ ['\n', '\n']]
  rfl

/-- A text is a header in comments, the marker, and some items as they are written, each with a
blank line after it. -/
def IsFile (tools : Toolkit) (header? : Option String) (items : List Source) (text : String) :
    Prop :=
  ∃ before, IsCommented header? before ∧ text.toList = before ++ marker.toList ++ ['\n', '\n']
    ++ items.flatMap fun item => (tools.write item).toList ++ ['\n', '\n']

theorem isFile_fileText (config : Config) (items : List Source) :
    IsFile tools config.header? items (fileText tools config items) := by
  refine ⟨_, isCommented_headerText _, ?_⟩
  rw [fileText_eq, String.toList_ofList, List.append_assoc _ ['\n', '\n']]
  rfl

/-- A file that is written comes from the paths of the configuration and a trampoline for each
pair. -/
theorem parts_of_render {config : Config} {registry : Registry} {pairs : List Pair}
    {text : String} (rendered : render tools config registry pairs = .ok text) :
    ∃ operations runtime written, config.operations tools = .ok operations ∧
      config.runtime tools = .ok runtime ∧
      trampolines registry config.className operations runtime pairs = .ok written ∧
      text = fileText tools config
        (registrationTable config.className pairs :: written.map Trampoline.source) := by
  obtain ⟨operations, operationsPath, rendered⟩ := exists_of_bind_eq_ok rendered
  obtain ⟨runtime, runtimePath, rendered⟩ := exists_of_bind_eq_ok rendered
  obtain ⟨written, made, rendered⟩ := exists_of_bind_eq_ok rendered
  exact ⟨operations, runtime, written, refuse_eq_ok operationsPath, refuse_eq_ok runtimePath,
    made, (Except.ok.inj rendered).symm⟩

/-- Whether there is a file, and what its items are, the header has no part in. -/
theorem render_withHeader {config : Config} {registry : Registry} {pairs : List Pair}
    {text : String} (rendered : render tools config registry pairs = .ok text) :
    ∃ items, ∀ header?, render tools { config with header? := header? } registry pairs =
      .ok (fileText tools { config with header? := header? } items) := by
  obtain ⟨operations, runtime, written, operationsPath, runtimePath, made, -⟩ :=
    parts_of_render rendered
  refine ⟨registrationTable config.className pairs :: written.map Trampoline.source,
    fun header? => ?_⟩
  change Trampoline.refuse (config.operations tools) >>= _ = _
  rw [operationsPath]
  change Trampoline.refuse (config.runtime tools) >>= _ = _
  rw [runtimePath]
  change trampolines registry config.className operations runtime pairs >>= _ = _
  rw [made]
  rfl

/-- A file that can be written is its header in comments, the marker, and a rest; and under every
other header it is that header in comments, the marker, and the same rest. -/
theorem render_header_commented {config : Config} {registry : Registry} {pairs : List Pair}
    {text : String} (rendered : render tools config registry pairs = .ok text) :
    ∃ rest, (∃ before, IsCommented config.header? before ∧
        text.toList = before ++ marker.toList ++ rest) ∧
      ∀ header?, ∃ before, IsCommented header? before ∧
        render tools { config with header? := header? } registry pairs =
          .ok (.ofList (before ++ marker.toList ++ rest)) := by
  obtain ⟨items, files⟩ := render_withHeader rendered
  refine ⟨'\n' :: '\n' :: itemsText tools items, ⟨_, isCommented_headerText _, ?_⟩, fun header? =>
    ⟨_, isCommented_headerText header?, ?_⟩⟩
  · have own : render tools config registry pairs = .ok (fileText tools config items) := files config.header?
    rw [rendered] at own
    rw [Except.ok.inj own, fileText_eq, String.toList_ofList]
  · rw [files, fileText_eq]

/-- A header with the marker among its lines, and with a carriage return that ends no line. -/
theorem render_header_commented_marker :
    let header := "*/\r\n\nGenerated by JniWriter, do not edit!\r"
    ∃ text before rest,
      render .plain { Config.standard with header? := some header } .standard [] = .ok text ∧
        text.toList = before ++ marker.toList ++ rest ∧
        before.splitOn '\n' =
          ["// */", "//", "// Generated by JniWriter, do not edit!\r", "", ""].map String.toList := by
  intro header
  have valid : { Config.standard with header? := some header }.validate .plain = .ok () := by
    decide +kernel
  have none : ∀ pair ∈ ([] : List Pair), pair.WellFormed := fun _ listed => nomatch listed
  rcases render_cases valid .standard none with
    ⟨_, first, -⟩ | ⟨-, written, -, rendered⟩
  · contradiction
  · obtain ⟨rest, ⟨before, commented, file⟩, -⟩ := render_header_commented rendered
    refine ⟨_, before, rest, rendered, file, ?_⟩
    rw [commented.comments header rfl]
    decide

end Binding

end SqliteBridge
