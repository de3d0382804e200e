import Mathlib.Data.List.Nodup
import Mathlib.Data.List.Perm.Basic
import Mathlib.Data.Option.Basic
import SqliteBridge.Proofs.Binding.Identifiers
import SqliteBridge.Proofs.Json.Objects

/-! Loading a configuration from the text of an object, with any reader that takes the members of
an object one by one. They lay settings over the standard configuration, in any order; a member
that is no setting, or the second one under its name, refuses the whole text. The reader of the
plain toolkit is such a reader, however the members are spelled. -/
namespace SqliteBridge.Binding.Config

open Json (Spelling Member Document Blanks)

/-- A value, as far as a configuration tells values apart. -/
inductive Content where
  | string (text : String)
  | null
  /-- A value of another kind, or a string with half of a surrogate pair. -/
  | other
deriving DecidableEq

/-- A member of an object. A name with half of a surrogate pair is none. -/
structure Entry where
  name? : Option String
  content : Content
deriving DecidableEq

namespace Content

/-- The text of a value that is a string. -/
def text? : Content → Option String
  | string text => some text
  | _ => none

/-- The text of a value that is a string, or nothing for `null`. -/
def optionalText? : Content → Option (Option String)
  | null => some none
  | content => content.text?.map some

end Content

/-- A field of the configuration with a value that a text can give it. -/
inductive Setting where
  | className (value : String)
  | methodStart (value : String)
  | operationsPath (value : String)
  | runtimePath (value : String)
  | header (value? : Option String)
deriving DecidableEq

namespace Setting

/-- The name under which a text gives the field. -/
def key : Setting → String
  | className _ => "jni_class"
  | methodStart _ => "method_prefix"
  | operationsPath _ => "api_path"
  | runtimePath _ => "runtime_path"
  | header _ => "copyright"

/-- The field has the value. -/
def Holds (config : Config) : Setting → Prop
  | className value => config.className = value
  | methodStart value => config.methodStart = value
  | operationsPath value => config.operationsPath = value
  | runtimePath value => config.runtimePath = value
  | header value? => config.header? = value?

/-- Gives the field the value. -/
def put (setting : Setting) (config : Config) : Config :=
  match setting with
  | className value => { config with className := value }
  | methodStart value => { config with methodStart := value }
  | operationsPath value => { config with operationsPath := value }
  | runtimePath value => { config with runtimePath := value }
  | header value? => { config with header? := value? }

/-- The names of the fields. -/
def keys : List String := ["jni_class", "method_prefix", "api_path", "runtime_path", "copyright"]

/-- The setting of a value under a name: the header is a string or `null`, every other field a
string. -/
def of? (name : String) (content : Content) : Option Setting :=
  match name with
  | "jni_class" => content.text?.map className
  | "method_prefix" => content.text?.map methodStart
  | "api_path" => content.text?.map operationsPath
  | "runtime_path" => content.text?.map runtimePath
  | "copyright" => content.optionalText?.map header
  | _ => none

def ofEntry? (entry : Entry) : Option Setting :=
  entry.name?.bind fun name => of? name entry.content

theorem holds_put (setting : Setting) (config : Config) : setting.Holds (setting.put config) := by
  cases setting <;> rfl

theorem holds_put_of_ne {setting other : Setting} (different : setting.key ≠ other.key)
    (config : Config) : setting.Holds (other.put config) ↔ setting.Holds config := by
  cases setting <;> cases other <;> first | rfl | exact absurd rfl different

theorem eq_of_holds {config other : Config}
    (same : ∀ setting : Setting, setting.Holds config → setting.Holds other) : config = other := by
  obtain ⟨_, _, _, _, _⟩ := other
  cases same (.className _) rfl
  cases same (.methodStart _) rfl
  cases same (.operationsPath _) rfl
  cases same (.runtimePath _) rfl
  cases same (.header _) rfl
  rfl

theorem eq_of_key_eq {setting other : Setting} {config : Config} (same : setting.key = other.key)
    (holds : setting.Holds config) (holds' : other.Holds config) : setting = other := by
  cases setting <;> cases other <;>
    first
    | cases holds; cases holds'; rfl
    | simp [key] at same

theorem key_of_of? {name : String} {content : Content} {setting : Setting}
    (given : of? name content = some setting) : setting.key = name := by
  unfold of? at given
  split at given
  case h_6 => contradiction
  all_goals
    obtain ⟨_, _, rfl⟩ := Option.map_eq_some_iff.mp given
    rfl

theorem name_of_ofEntry? {entry : Entry} {setting : Setting}
    (given : ofEntry? entry = some setting) : entry.name? = some setting.key := by
  obtain ⟨name, named, of⟩ := Option.bind_eq_some_iff.mp given
  rw [named, key_of_of? of]

theorem key_mem (setting : Setting) : setting.key ∈ keys := by
  cases setting <;> simp [keys, key]

theorem of?_eq_none_iff {name : String} {content : Content} : of? name content = none ↔
    name ∉ keys ∨ content.text? = none ∧ ¬ (content = .null ∧ name = "copyright") := by
  unfold of?
  split
  case h_5 => cases content <;> simp [keys, Content.optionalText?, Content.text?]
  case h_6 => simp_all [keys]
  all_goals simp [keys]

end Setting

/-- The fields that the settings name have the values they give, and every other field is as it is
in the standard configuration. -/
structure Overlays (settings : List Setting) (config : Config) : Prop where
  given : ∀ setting ∈ settings, setting.Holds config
  kept : ∀ setting : Setting, setting.key ∉ settings.map Setting.key →
    (setting.Holds config ↔ setting.Holds standard)

/-- The standard configuration under the settings. -/
def overlay (settings : List Setting) : Config :=
  settings.foldl (fun config setting => setting.put config) standard

/-! ### Laying settings over the standard configuration -/

theorem holds_foldl_put {settings : List Setting} {setting : Setting}
    (other : setting.key ∉ settings.map Setting.key) (config : Config) :
    setting.Holds (settings.foldl (fun config setting => setting.put config) config) ↔
      setting.Holds config := by
  induction settings generalizing config with
  | nil => rfl
  | cons first settings ih =>
    rw [List.map_cons, List.mem_cons, not_or] at other
    exact (ih other.2 _).trans (Setting.holds_put_of_ne other.1 config)

theorem overlays_overlay {settings : List Setting} (distinct : (settings.map Setting.key).Nodup) :
    Overlays settings (overlay settings) where
  given := by
    suffices ∀ config, ∀ setting ∈ settings,
        setting.Holds (settings.foldl (fun config setting => setting.put config) config) from this _
    intro config
    induction settings generalizing config with
    | nil => nofun
    | cons first settings ih =>
      rw [List.map_cons, List.nodup_cons] at distinct
      exact List.forall_mem_cons.mpr
        ⟨(holds_foldl_put distinct.1 _).mpr (first.holds_put config), ih distinct.2 _⟩
  kept := fun _ other => holds_foldl_put other standard

theorem Overlays.unique {settings : List Setting} {config other : Config}
    (overlays : Overlays settings config) (overlays' : Overlays settings other) :
    config = other := by
  apply Setting.eq_of_holds
  intro setting holds
  by_cases named : setting.key ∈ settings.map Setting.key
  · obtain ⟨given, listed, sameKey⟩ := List.mem_map.mp named
    obtain rfl := Setting.eq_of_key_eq sameKey (overlays.given given listed) holds
    exact overlays'.given given listed
  · exact (overlays'.kept setting named).mpr ((overlays.kept setting named).mp holds)

theorem Overlays.perm {settings settings' : List Setting} {config : Config}
    (overlays : Overlays settings config) (permuted : settings.Perm settings') :
    Overlays settings' config where
  given := fun setting listed => overlays.given setting (permuted.mem_iff.mpr listed)
  kept := fun setting other => overlays.kept setting fun named =>
    other ((permuted.map Setting.key).mem_iff.mp named)

/-- The order of the settings does not matter. -/
theorem overlay_perm {settings settings' : List Setting} (permuted : settings.Perm settings')
    (distinct : (settings'.map Setting.key).Nodup) : overlay settings = overlay settings' :=
  ((overlays_overlay ((permuted.map Setting.key).nodup_iff.mpr distinct)).perm permuted).unique
    (overlays_overlay distinct)

/-! ### Members that are no settings -/

/-- What makes a member no setting. -/
inductive Misfit (entry : Entry) : Prop
  /-- The key is the name of no field. -/
  | unknown {name : String} (named : entry.name? = some name) (foreign : name ∉ Setting.keys)
  /-- The value is no string, nor `null` as the header. -/
  | wrongKind (notString : entry.content.text? = none)
    (notAbsent : ¬ (entry.content = .null ∧ entry.name? = some "copyright"))
  | brokenKey (unspelled : entry.name? = none)

theorem misfit_iff {entry : Entry} : Misfit entry ↔ Setting.ofEntry? entry = none := by
  rw [Setting.ofEntry?, Option.bind_eq_none_iff]
  constructor
  · intro misfit name named
    rw [Setting.of?_eq_none_iff]
    cases misfit with
    | @unknown name' named' foreign =>
      cases Option.some_inj.mp (named'.symm.trans named)
      exact .inl foreign
    | wrongKind notString notAbsent =>
      exact .inr ⟨notString, fun absent => notAbsent ⟨absent.1, absent.2 ▸ named⟩⟩
    | brokenKey unspelled =>
      rw [unspelled] at named
      contradiction
  · intro absent
    cases named : entry.name? with
    | none => exact .brokenKey named
    | some name =>
      rcases Setting.of?_eq_none_iff.mp (absent name named) with foreign | ⟨noText, notAbsent⟩
      · exact .unknown named foreign
      · exact .wrongKind noText fun null =>
          notAbsent ⟨null.1, Option.some_inj.mp (named.symm.trans null.2)⟩

/-- Members that are settings, in order. -/
theorem exists_settings {entries : List Entry}
    (fit : ∀ entry ∈ entries, Setting.ofEntry? entry ≠ none) :
    ∃ settings : List Setting, entries.map Setting.ofEntry? = settings.map some := by
  induction entries with
  | nil => exact ⟨[], rfl⟩
  | cons entry entries ih =>
    obtain ⟨own, fit⟩ := List.forall_mem_cons.mp fit
    obtain ⟨setting, given⟩ := Option.ne_none_iff_exists'.mp own
    obtain ⟨settings, rest⟩ := ih fit
    exact ⟨setting :: settings, by rw [List.map_cons, List.map_cons, given, rest]⟩

theorem names_of_settings {entries : List Entry} {settings : List Setting}
    (given : entries.map Setting.ofEntry? = settings.map some) :
    entries.map Entry.name? = (settings.map Setting.key).map some := by
  induction entries generalizing settings with
  | nil =>
    obtain rfl := List.map_eq_nil_iff.mp given.symm
    rfl
  | cons entry entries ih =>
    obtain ⟨setting, settings, rfl, own, given⟩ := List.map_eq_cons_iff.mp given.symm
    rw [List.map_cons, List.map_cons, List.map_cons, ih given.symm, Setting.name_of_ofEntry? own.symm]

/-! ### Readers -/

/-- A reader of configurations that takes the members of an object one by one, where `spells`
says which texts are the object with some members. It starts from the standard configuration,
puts in each setting that is the first under its name, and does not recover from a member that
is none. -/
structure TakesMembers (spells : String → List Entry → Prop)
    (read : String → Except Json.Fault Config) : Prop where
  /-- An object can also be spelled without its last member. -/
  shorter : ∀ {text : String} {entries : List Entry} {entry : Entry},
    spells text (entries ++ [entry]) → ∃ before, spells before entries
  empty : ∀ {text : String}, spells text [] → read text = .ok standard
  setting : ∀ {before text : String} {entries : List Entry} {entry : Entry} {setting : Setting}
      {config : Config}, spells before entries → spells text (entries ++ [entry]) →
    read before = .ok config → Setting.ofEntry? entry = some setting →
    entry.name? ∉ entries.map Entry.name? → read text = .ok (setting.put config)
  misfit : ∀ {text : String} {entries : List Entry} {entry : Entry},
    spells text (entries ++ [entry]) → Misfit entry → ∃ fault, read text = .error fault
  repeated : ∀ {text : String} {entries : List Entry} {entry : Entry},
    spells text (entries ++ [entry]) → entry.name? ∈ entries.map Entry.name? →
    ∃ fault, read text = .error fault
  failed : ∀ {before text : String} {entries : List Entry} {entry : Entry} {fault : Json.Fault},
    spells before entries → spells text (entries ++ [entry]) → read before = .error fault →
    ∃ fault, read text = .error fault

namespace TakesMembers

variable {spells : String → List Entry → Prop} {read : String → Except Json.Fault Config}
  (takes : TakesMembers spells read)

include takes

theorem read_of_settings {text : String} {entries : List Entry} {settings : List Setting}
    (spelled : spells text entries) (given : entries.map Setting.ofEntry? = settings.map some)
    (distinct : (entries.map Entry.name?).Nodup) : read text = .ok (overlay settings) := by
  induction entries using List.reverseRecOn generalizing text settings with
  | nil =>
    obtain rfl := List.map_eq_nil_iff.mp given.symm
    exact takes.empty spelled
  | append_singleton entries entry ih =>
    rw [List.map_append, List.map_singleton] at given distinct
    obtain ⟨settings, last, rfl, others, own⟩ := List.map_eq_append_iff.mp given.symm
    obtain ⟨setting, rfl, last⟩ := List.map_eq_singleton_iff.mp own
    rw [List.nodup_append] at distinct
    obtain ⟨before, spelled'⟩ := takes.shorter spelled
    have fresh : entry.name? ∉ entries.map Entry.name? := fun listed =>
      distinct.2.2 _ listed _ (List.mem_singleton.mpr rfl) rfl
    rw [takes.setting spelled' spelled (ih spelled' others.symm distinct.1) last.symm fresh, overlay,
      overlay, List.foldl_append]
    rfl

theorem read_refused {text : String} {entries : List Entry} (spelled : spells text entries)
    (unfit : (∃ entry ∈ entries, Misfit entry) ∨ ¬ (entries.map Entry.name?).Nodup) :
    ∃ fault, read text = .error fault := by
  induction entries using List.reverseRecOn generalizing text with
  | nil => simp at unfit
  | append_singleton entries entry ih =>
    obtain ⟨before, spelled'⟩ := takes.shorter spelled
    by_cases early : (∃ entry ∈ entries, Misfit entry) ∨ ¬ (entries.map Entry.name?).Nodup
    · obtain ⟨fault, refused⟩ := ih spelled' early
      exact takes.failed spelled' spelled refused
    · -- The members before are fit, so it is the last one that is not.
      rw [not_or, not_not] at early
      rcases unfit with ⟨other, listed, misfit⟩ | repeated
      · rcases List.mem_append.mp listed with listed | listed
        · exact absurd ⟨other, listed, misfit⟩ early.1
        · exact takes.misfit spelled (List.mem_singleton.mp listed ▸ misfit)
      · refine takes.repeated spelled ?_
        by_contra fresh
        rw [List.map_append, List.map_singleton, List.nodup_append] at repeated
        exact repeated ⟨early.2, List.nodup_singleton _, fun name listed other last same =>
          fresh (List.mem_singleton.mp last ▸ same ▸ listed)⟩

end TakesMembers

/-! ### Loading -/

variable {tools : Toolkit}

theorem validate_eq_error {config : Config} {fault : Fault}
    (refused : config.validate tools = .error fault) : ∃ message, fault = .invalidConfig message := by
  have path {field value : String} (wrong : pathOf tools field value = .error fault) :
      ∃ message, fault = .invalidConfig message := by
    unfold pathOf at wrong
    split at wrong
    · contradiction
    · exact ⟨_, (Except.error.inj wrong).symm⟩
  cases named : isClassName true config.className.toList with
  | false =>
    rw [validate, named] at refused
    exact ⟨_, (Except.error.inj refused).symm⟩
  | true =>
    cases start : isMethodStart config.methodStart.toList with
    | false =>
      rw [validate, named, start] at refused
      exact ⟨_, (Except.error.inj refused).symm⟩
    | true =>
      rw [validate, named, start] at refused
      cases operations : config.operations tools with
      | error fault' =>
        rw [operations] at refused
        cases refused
        exact path operations
      | ok operations' =>
        cases runtime : config.runtime tools with
        | error fault' =>
          rw [operations, runtime] at refused
          cases refused
          exact path runtime
        | ok runtime' =>
          rw [operations, runtime] at refused
          contradiction

/-- The configuration, if it is valid. -/
def validated (tools : Toolkit) (config : Config) : Except Fault Config := do
  config.validate tools
  pure config

theorem validated_of_valid {config : Config} (valid : config.validate tools = .ok ()) :
    config.validated tools = .ok config := by
  rw [validated, valid]
  rfl

theorem validated_of_invalid {config : Config} (invalid : config.validate tools ≠ .ok ()) :
    ∃ message, config.validate tools = .error (.invalidConfig message) ∧
      config.validated tools = .error (.invalidConfig message) := by
  cases checked : config.validate tools with
  | ok _ => exact absurd checked invalid
  | error fault =>
    obtain ⟨message, rfl⟩ := validate_eq_error checked
    exact ⟨message, rfl, by rw [validated, checked]; rfl⟩

theorem ofJson_of_read {text : String} {config : Config}
    (read : tools.readConfig text = .ok config) :
    ofJson tools text = config.validated tools := by
  rw [ofJson, read]
  rfl

theorem valid_of_ofJson {text : String} {config : Config}
    (loaded : ofJson tools text = .ok config) : config.validate tools = .ok () := by
  unfold ofJson at loaded
  split at loaded
  · contradiction
  · rename_i config' read
    by_cases valid : config'.validate tools = .ok ()
    · cases (validated_of_valid valid).symm.trans loaded
      exact valid
    · obtain ⟨message, -, invalid⟩ := validated_of_invalid valid
      cases invalid.symm.trans loaded

section Readers

variable {spells : String → List Entry → Prop} (takes : TakesMembers spells tools.readConfig)

include takes

theorem ofJson_of_entries {text : String} {entries : List Entry} {settings : List Setting}
    (spelled : spells text entries) (given : entries.map Setting.ofEntry? = settings.map some)
    (distinct : (settings.map Setting.key).Nodup) :
    ofJson tools text = (overlay settings).validated tools := by
  have names : (entries.map Entry.name?).Nodup := by
    rw [names_of_settings given]
    exact distinct.map (Option.some_injective _)
  exact ofJson_of_read (takes.read_of_settings spelled given names)

/-- Settings in any order. -/
theorem ofJson_of_settings {settings : List Setting} (distinct : (settings.map Setting.key).Nodup)
    {text : String} {entries : List Entry} (spelled : spells text entries)
    (given : (entries.map Setting.ofEntry?).Perm (settings.map some)) :
    ofJson tools text = (overlay settings).validated tools := by
  have fit : ∀ entry ∈ entries, Setting.ofEntry? entry ≠ none := by
    intro entry listed absent
    have listed := given.mem_iff.mp (List.mem_map_of_mem (f := Setting.ofEntry?) listed)
    rw [absent] at listed
    obtain ⟨_, _, same⟩ := List.mem_map.mp listed
    contradiction
  obtain ⟨inOrder, given'⟩ := exists_settings fit
  rw [given', List.map_perm_map_iff (Option.some_injective _)] at given
  rw [ofJson_of_entries takes spelled given' ((given.map Setting.key).nodup_iff.mpr distinct),
    overlay_perm given distinct]

/-- Any other object is no configuration. -/
theorem ofJson_refused_iff {text : String} {entries : List Entry} (spelled : spells text entries) :
    (∃ fault, ofJson tools text = .error (.json fault)) ↔
      (∃ entry ∈ entries, Misfit entry) ∨ ¬ (entries.map Entry.name?).Nodup := by
  constructor
  · rintro ⟨fault, refused⟩
    by_contra fit
    rw [not_or, not_not] at fit
    obtain ⟨fit, distinct⟩ := fit
    obtain ⟨settings, given⟩ := exists_settings fun entry listed misfit =>
      fit ⟨entry, listed, misfit_iff.mpr misfit⟩
    rw [names_of_settings given, List.nodup_map_iff (Option.some_injective _)] at distinct
    rw [ofJson_of_entries takes spelled given distinct] at refused
    by_cases valid : (overlay settings).validate tools = .ok ()
    · cases (validated_of_valid valid).symm.trans refused
    · obtain ⟨message, -, invalid⟩ := validated_of_invalid valid
      cases invalid.symm.trans refused
  · intro unfit
    obtain ⟨fault, refused⟩ := takes.read_refused spelled unfit
    exact ⟨fault, by rw [ofJson, refused]⟩

end Readers

/-! ### The plain toolkit -/

namespace Content

def ofSpelling : Spelling → Content
  | .string pieces => (Json.spelledText? pieces).elim other string
  | .null => null
  | _ => other

theorem text?_ofSpelling (value : Spelling) : (ofSpelling value).text? = value.content? := by
  cases value with
  | string pieces =>
    rw [ofSpelling, Spelling.content?]
    cases Json.spelledText? pieces <;> rfl
  | null | boolean _ | number _ | array _ _ | object _ _ => rfl

theorem optionalText?_ofSpelling (value : Spelling) :
    (ofSpelling value).optionalText? = value.optionalContent? := by
  cases value with
  | string pieces =>
    simp only [ofSpelling, Spelling.optionalContent?, Spelling.content?]
    cases Json.spelledText? pieces <;> rfl
  | null | boolean _ | number _ | array _ _ | object _ _ => rfl

end Content

def Entry.ofMember (member : Member Spelling) : Entry :=
  ⟨member.name?, .ofSpelling member.value.value⟩

/-- The text spells an object with the members, with blanks and escapes of any kind. -/
def Spells (text : String) (entries : List Entry) : Prop :=
  ∃ document : Document, document.text = text ∧ document.members.map Entry.ofMember = entries

/-- What a value under a name does to a configuration. -/
def effect? (name : String) (value : Spelling) : Option (Config → Config) :=
  (Setting.of? name (.ofSpelling value)).map Setting.put

/-- What the readers of the fields make of a value is a setting of the field, or nothing. -/
theorem acts_settings : format.Acts effect? where
  strict := rfl
  optional := by decide
  known := by
    have stored {α : Type} {read : Json.Reader α} {content? : Spelling → Option α}
        (takes : Json.Takes read content?) (make : α → Setting) (config : Config) :
        Json.Takes ((fun content => (make content).put config) <$> read) fun value =>
          (((content? value).map make).map Setting.put).map fun act => act config := by
      simp only [Option.map_map]
      exact takes.map _
    have string : Json.Takes Json.string fun value => (Content.ofSpelling value).text? := by
      simp only [Content.text?_ofSpelling]
      exact Json.string_takes
    have optional : Json.Takes (Json.optional Json.string)
        fun value => (Content.ofSpelling value).optionalText? := by
      simp only [Content.optionalText?_ofSpelling]
      exact Json.optional_string_takes
    intro field listed
    rcases List.mem_cons.mp listed with rfl | listed
    · exact stored string .className
    rcases List.mem_cons.mp listed with rfl | listed
    · exact stored string .methodStart
    rcases List.mem_cons.mp listed with rfl | listed
    · exact stored string .operationsPath
    rcases List.mem_cons.mp listed with rfl | listed
    · exact stored string .runtimePath
    obtain rfl := List.mem_singleton.mp listed
    exact stored optional .header
  unknown := by
    intro name foreign value
    rw [effect?]
    cases given : Setting.of? name (.ofSpelling value) with
    | none => rfl
    | some setting =>
      have listed : setting.key ∈ format.fields.map Json.Field.name := setting.key_mem
      obtain ⟨field, listed, named⟩ := List.mem_map.mp listed
      exact absurd (named.trans (Setting.key_of_of? given)) (foreign field listed)

theorem effectOf?_eq (member : Member Spelling) :
    Json.Record.effectOf? effect? member =
      (Setting.ofEntry? (.ofMember member)).map Setting.put :=
  Option.map_bind.symm

/-- The plain reader lays the members over the standard configuration if they are settings with
names of their own, and refuses them otherwise. -/
theorem plain_cases {text : String} {entries : List Entry} (spelled : Spells text entries) :
    (∃ settings, entries.map Setting.ofEntry? = settings.map some ∧
      (entries.map Entry.name?).Nodup ∧
        Toolkit.plain.readConfig text = .ok (overlay settings)) ∨
    ((∃ entry ∈ entries, Misfit entry) ∨ ¬ (entries.map Entry.name?).Nodup) ∧
      ∃ fault, Toolkit.plain.readConfig text = .error fault := by
  obtain ⟨document, rfl, rfl⟩ := spelled
  have names : (document.members.map Entry.ofMember).map Entry.name? =
      document.members.map Member.name? := List.map_map
  by_cases unfit : (∃ entry ∈ document.members.map Entry.ofMember, Misfit entry) ∨
      ¬ ((document.members.map Entry.ofMember).map Entry.name?).Nodup
  · refine .inr ⟨unfit, ?_⟩
    cases parsed : Json.parse format.read document.text with
    | error fault => exact ⟨fault, parsed⟩
    | ok config =>
      obtain ⟨effects, distinct⟩ := Json.Record.effects_of_parse acts_settings parsed
      rcases unfit with ⟨entry, listed, misfit⟩ | repeated
      · obtain ⟨member, member_mem, rfl⟩ := List.mem_map.mp listed
        refine absurd ?_ (effects member member_mem)
        rw [effectOf?_eq, misfit_iff.mp misfit]
        rfl
      · rw [names] at repeated
        exact absurd distinct repeated
  · rw [not_or, not_not] at unfit
    obtain ⟨fit, distinct⟩ := unfit
    obtain ⟨settings, given⟩ := exists_settings fun entry listed misfit =>
      fit ⟨entry, listed, misfit_iff.mpr misfit⟩
    refine .inl ⟨settings, given, distinct, ?_⟩
    have effects : document.members.map (Json.Record.effectOf? effect?) =
        (settings.map Setting.put).map some := by
      have mapped := congrArg (List.map (Option.map Setting.put)) given
      rw [List.map_map, List.map_map, List.map_map] at mapped
      rw [funext effectOf?_eq, List.map_map]
      exact mapped
    rw [names] at distinct
    have parsed := Json.Record.parse_of_effects acts_settings effects distinct
    rw [List.foldl_map] at parsed
    exact parsed

theorem takesMembers_plain : TakesMembers Spells Toolkit.plain.readConfig where
  shorter := by
    rintro text entries entry ⟨document, -, members⟩
    obtain ⟨shorter, last, -, others, -⟩ := List.map_eq_append_iff.mp members
    exact ⟨_, { document with members := shorter }, rfl, others⟩
  empty := by
    intro text spelled
    rcases plain_cases spelled with ⟨settings, given, -, read⟩ | ⟨unfit, -⟩
    · rw [read, List.map_eq_nil_iff.mp given.symm]
      rfl
    · simp at unfit
  setting := by
    intro before text entries entry setting config spelled spelled' read given fresh
    rcases plain_cases spelled with ⟨settings, others, distinct, read'⟩ | ⟨-, _, refused⟩
    · cases read.symm.trans read'
      have all : (entries ++ [entry]).map Setting.ofEntry? = (settings ++ [setting]).map some := by
        rw [List.map_append, List.map_append, others, List.map_singleton, given]
        rfl
      rcases plain_cases spelled' with ⟨settings', given', -, read⟩ | ⟨unfit, -⟩
      · rw [read, ← List.map_injective_iff.mpr (Option.some_injective _) (all.symm.trans given'),
          overlay, List.foldl_append]
        rfl
      · exfalso
        rcases unfit with ⟨misfit, listed, unfit⟩ | repeated
        · have listed := List.mem_map_of_mem (f := Setting.ofEntry?) listed
          rw [all, misfit_iff.mp unfit] at listed
          obtain ⟨_, _, same⟩ := List.mem_map.mp listed
          contradiction
        · refine repeated ?_
          rw [List.map_append, List.map_singleton, List.nodup_append]
          exact ⟨distinct, List.nodup_singleton _, fun name listed other last same =>
            fresh (List.mem_singleton.mp last ▸ same ▸ listed)⟩
    · rw [refused] at read
      contradiction
  misfit := by
    intro text entries entry spelled misfit
    rcases plain_cases spelled with ⟨settings, given, -, -⟩ | ⟨-, refused⟩
    · have listed : Setting.ofEntry? entry ∈ (entries ++ [entry]).map Setting.ofEntry? := by simp
      rw [given, misfit_iff.mp misfit] at listed
      obtain ⟨_, _, same⟩ := List.mem_map.mp listed
      contradiction
    · exact refused
  repeated := by
    intro text entries entry spelled repeated
    rcases plain_cases spelled with ⟨settings, -, distinct, -⟩ | ⟨-, refused⟩
    · rw [List.map_append, List.map_singleton, List.nodup_append] at distinct
      exact absurd rfl (distinct.2.2 _ repeated _ (List.mem_singleton.mpr rfl))
    · exact refused
  failed := by
    intro before text entries entry fault spelled spelled' refused
    rcases plain_cases spelled with ⟨settings, -, -, read⟩ | ⟨unfit, -⟩
    · rw [read] at refused
      contradiction
    · rcases plain_cases spelled' with ⟨settings, given, distinct, -⟩ | ⟨-, refused⟩
      · exfalso
        rcases unfit with ⟨misfit, listed, unfit⟩ | repeated
        · have listed := List.mem_map_of_mem (f := Setting.ofEntry?)
            (List.mem_append_left [entry] listed)
          rw [given, misfit_iff.mp unfit] at listed
          obtain ⟨_, _, same⟩ := List.mem_map.mp listed
          contradiction
        · rw [List.map_append, List.nodup_append] at distinct
          exact repeated distinct.1
      · exact refused

end SqliteBridge.Binding.Config
