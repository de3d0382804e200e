import SqliteBridge.Proofs.Binding.Identifiers

/-! Writing the generated file again and again. A run first makes the whole text, so a refused
configuration leaves the path alone; it writes exactly if the path does not hold that text, be it
because there is no file, or other text, or bytes that are no text; and a directory it cannot
replace. So whatever happened to the path before, a run that follows a successful run of the same
configuration finds nothing to do. -/
namespace SqliteBridge.Binding

theorem fromUTF8?_eq_some_iff {bytes : ByteArray} {text : String} :
    String.fromUTF8? bytes = some text ↔ bytes = text.toUTF8 := by
  rw [String.fromUTF8?, String.toUTF8_eq_toByteArray]
  constructor
  · intro decoded
    split at decoded
    · cases Option.some.inj decoded
      rfl
    · contradiction
  · rintro rfl
    rw [dif_pos text.isValidUTF8]
    rfl

namespace FileContent

/-- Only the bytes of a text read as that text. -/
theorem readText_eq_some_iff {file : FileContent} {text : String} :
    file.readText.toOption = some text ↔ file = .bytes text.toUTF8 := by
  cases file with
  | missing | directory => simp [readText, Except.toOption]
  | bytes content =>
    rw [bytes.injEq, ← fromUTF8?_eq_some_iff, readText]
    cases String.fromUTF8? content <;> simp [Except.toOption]

end FileContent

/-! ### One run -/

variable {tools : Toolkit}

/-- How a run goes on a path. -/
inductive Outcome (tools : Toolkit) (config : Config) (file : FileContent) :
    Except Halt Bool → FileContent → Prop
  | refused {halt : Halt} (invalid : generate tools config = .error halt) :
    Outcome tools config file (.error halt) file
  | upToDate {text : String} (made : generate tools config = .ok text)
    (holds : file = .bytes text.toUTF8) : Outcome tools config file (.ok false) file
  | blocked {text : String} (made : generate tools config = .ok text) (isDirectory : file = .directory) :
    Outcome tools config file (.error (.refused (.file FileContent.isDirectoryMessage))) file
  | written {text : String} (made : generate tools config = .ok text)
    (outdated : file ≠ .bytes text.toUTF8) (replaceable : file ≠ .directory) :
    Outcome tools config file (.ok true) (.bytes text.toUTF8)

theorem writeBindings_outcome (tools : Toolkit) (config : Config) (file : FileContent) :
    ∃ answer after, writeBindings tools config file = (answer, after) ∧
      Outcome tools config file answer after := by
  rw [writeBindings]
  cases made : generate tools config with
  | error halt => exact ⟨_, _, rfl, .refused made⟩
  | ok text =>
    dsimp only
    split
    · rename_i holds
      exact ⟨_, _, rfl, .upToDate made (FileContent.readText_eq_some_iff.mp holds)⟩
    · rename_i outdated
      rw [FileContent.readText_eq_some_iff] at outdated
      cases file with
      | directory => exact ⟨_, _, rfl, .blocked made rfl⟩
      | missing | bytes content => exact ⟨_, _, rfl, .written made outdated nofun⟩

/-- A path that holds the generated text is not written. -/
theorem writeBindings_upToDate {config : Config} {text : String}
    (made : generate tools config = .ok text) :
    writeBindings tools config (.bytes text.toUTF8) = (.ok false, .bytes text.toUTF8) := by
  rw [writeBindings, made]
  exact if_pos (FileContent.readText_eq_some_iff.mpr rfl)

theorem exists_generate {config : Config} (valid : config.validate tools = .ok ()) :
    ∃ text, generate tools config = .ok text := by
  obtain ⟨_, _, _, _, _, _, _, made⟩ := generate_of_valid valid
  exact ⟨_, made⟩

theorem writeBindings_refused {config : Config} {fault : Fault}
    (invalid : config.validate tools = .error fault) (file : FileContent) :
    writeBindings tools config file = (.error (.refused fault), file) := by
  rw [writeBindings, generate_of_refused invalid]

theorem writeBindings_directory {config : Config} (valid : config.validate tools = .ok ()) :
    writeBindings tools config .directory =
      (.error (.refused (.file FileContent.isDirectoryMessage)), .directory) := by
  obtain ⟨text, made⟩ := exists_generate valid
  rw [writeBindings, made]
  rfl

namespace Outcome

variable {config : Config} {file after : FileContent} {answer : Except Halt Bool}

theorem succeeded {written : Bool} (outcome : Outcome tools config file (.ok written) after) :
    ∃ text, generate tools config = .ok text ∧ after = .bytes text.toUTF8 ∧
      (written = true ↔ file ≠ .bytes text.toUTF8) := by
  cases outcome with
  | @upToDate text made holds => exact ⟨text, made, holds, by simp [holds]⟩
  | @written text made outdated _ => exact ⟨text, made, rfl, fun _ => outdated, fun _ => rfl⟩

theorem succeeds (outcome : Outcome tools config file answer after) (valid : config.validate tools = .ok ())
    (replaceable : file ≠ .directory) : ∃ written, answer = .ok written := by
  cases outcome with
  | refused unmade =>
    obtain ⟨text, made⟩ := exists_generate valid
    rw [made] at unmade
    contradiction
  | blocked _ isDirectory => exact absurd isDirectory replaceable
  | upToDate _ _ | written _ _ _ => exact ⟨_, rfl⟩

theorem changes_iff (outcome : Outcome tools config file answer after) :
    after ≠ file ↔ answer = .ok true := by
  cases outcome with
  | refused _ | upToDate _ _ | blocked _ _ => simp
  | written _ outdated _ => exact ⟨fun _ => rfl, fun _ => Ne.symm outdated⟩

end Outcome

/-! ### Any number of runs -/

namespace FileContent

/-- Something that happens to a path: a generation run, or a change from outside, which may be an
overwriting, a removal, or a directory in its place. -/
inductive Happening where
  | write (config : Config)
  | replace (content : FileContent)

def follow (tools : Toolkit) (file : FileContent) : Happening → FileContent
  | .write config => (writeBindings tools config file).2
  | .replace content => content

def run (tools : Toolkit) (file : FileContent) (happenings : List Happening) : FileContent :=
  happenings.foldl (follow tools) file

/-- Nothing that happens changes what the path holds. -/
def Undisturbed (tools : Toolkit) : FileContent → List Happening → Prop
  | _, [] => True
  | file, happening :: rest =>
    file.follow tools happening = file ∧ Undisturbed tools file rest

theorem run_of_undisturbed {file : FileContent} {happenings : List Happening}
    (undisturbed : Undisturbed tools file happenings) : file.run tools happenings = file := by
  induction happenings with
  | nil => rfl
  | cons happening rest ih =>
    rw [run, List.foldl_cons, undisturbed.1]
    exact ih undisturbed.2

/-- A happening that leaves the path alone when it holds this text: a run that is refused or makes
the same text, or a change from outside to what is there already. -/
def Happening.Keeps (tools : Toolkit) (text : String) : Happening → Prop
  | write config => ∀ made, generate tools config = .ok made → made = text
  | replace content => content = .bytes text.toUTF8

theorem follow_eq_iff {text : String} {happening : Happening} :
    (bytes text.toUTF8).follow tools happening = bytes text.toUTF8 ↔
      happening.Keeps tools text := by
  cases happening with
  | replace content => exact Iff.rfl
  | write config =>
    obtain ⟨answer, after, result, outcome⟩ := writeBindings_outcome tools config (bytes text.toUTF8)
    rw [follow, Happening.Keeps, result]
    cases outcome with
    | refused unmade => simp [unmade]
    | @upToDate held made holds =>
      have same : held = text := (String.toByteArray_inj.mp (bytes.inj holds)).symm
      simp [made, same]
    | blocked _ isDirectory => contradiction
    | @written new made outdated _ =>
      have other : new ≠ text := fun same => outdated (same ▸ rfl)
      constructor
      · exact fun kept => absurd kept.symm outdated
      · exact fun keeps => absurd (keeps new made) other

theorem undisturbed_iff {text : String} {happenings : List Happening} :
    Undisturbed tools (bytes text.toUTF8) happenings ↔
      ∀ happening ∈ happenings, happening.Keeps tools text := by
  induction happenings with
  | nil => simp [Undisturbed]
  | cons happening rest ih =>
    rw [Undisturbed, List.forall_mem_cons, follow_eq_iff, ih]

end FileContent

/-- What can be relied on when a configuration is written to a path. -/
structure Converges (tools : Toolkit) (config : Config) (file : FileContent) : Prop where
  /-- A run that succeeds leaves the generated text, and tells whether it was not there before. -/
  succeeded : ∀ written, (writeBindings tools config file).1 = .ok written →
    ∃ text, generate tools config = .ok text ∧ (writeBindings tools config file).2 = .bytes text.toUTF8 ∧
      (written = true ↔ file ≠ .bytes text.toUTF8)
  refused : ∀ fault, config.validate tools = .error fault →
    generate tools config = .error (.refused fault) ∧
      writeBindings tools config file = (.error (.refused fault), file)
  blocked : config.validate tools = .ok () → file = .directory →
    writeBindings tools config file =
      (.error (.refused (.file FileContent.isDirectoryMessage)), file)
  /-- Nothing else keeps a run from success. -/
  succeeds : config.validate tools = .ok () → file ≠ .directory →
    ∃ written, (writeBindings tools config file).1 = .ok written
  changes_iff : (writeBindings tools config file).2 ≠ file ↔ (writeBindings tools config file).1 = .ok true
  /-- After a run that succeeds, and as long as nothing changes the path, there is nothing to do. -/
  repeated : ∀ written, (writeBindings tools config file).1 = .ok written →
    ∀ between, (writeBindings tools config file).2.Undisturbed tools between →
      let later := (writeBindings tools config file).2.run tools between
      writeBindings tools config later = (.ok false, later)
  /-- What may happen in between. -/
  undisturbed_iff : ∀ text, generate tools config = .ok text → ∀ between,
    (FileContent.bytes text.toUTF8).Undisturbed tools between ↔
      ∀ happening ∈ between, happening.Keeps tools text

/-- Whatever a path holds, a run either leaves it alone with the reason as its answer or leaves the
generated text there; and once that is there, only a change from outside or of the configuration
makes a run write again. -/
theorem writeBindings_converges (tools : Toolkit) (config : Config) (file : FileContent) :
    Converges tools config file := by
  obtain ⟨answer, after, result, outcome⟩ := writeBindings_outcome tools config file
  refine ⟨?_, ?_, ?_, ?_, ?_, ?_, fun _ _ _ => FileContent.undisturbed_iff⟩
  · rw [result]
    rintro written rfl
    exact outcome.succeeded
  · intro fault invalid
    exact ⟨generate_of_refused invalid, writeBindings_refused invalid file⟩
  · rintro valid rfl
    exact writeBindings_directory valid
  · rw [result]
    exact outcome.succeeds
  · rw [result]
    exact outcome.changes_iff
  · rw [result]
    rintro written rfl between undisturbed
    obtain ⟨text, made, holds, -⟩ := outcome.succeeded
    dsimp only at undisturbed ⊢
    rw [FileContent.run_of_undisturbed undisturbed, holds]
    exact writeBindings_upToDate made

end SqliteBridge.Binding
