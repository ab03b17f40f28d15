import ApiStencil.Proofs.Command.Inspection
import ApiStencil.Proofs.Decoding.Record
import ApiStencil.Proofs.Disk.Aim

/-!
# The layers of a configuration

A configuration has three layers. At the bottom are the defaults; what a file gives goes over them,
field by field, and what the flags give goes over that. Relative paths in a file count from the
directory of the file, and so do the defaults of what the file leaves out; without a file the
defaults stand as they are, and what the flags give always does. The flags neither choose the file,
apart from the one that names it, nor hide what is wrong with it.

## Main definitions

* `ProjectConfig.WrittenAs`: what the tree of a file gives for each field
* `Disk.UsesConfig`, `Disk.HoldsConfig`: the file that is used, and what it holds
* `Path.countedFrom`: a path as it counts from a directory
* `ProjectConfig.Layers`: a configuration with the flags over what a file holds

## Main results

* `Vocabulary.writtenAs_of_reads`, `Layout.writtenAs_of_reads`: texts that are read one by one
* `ProjectConfig.writtenAs_of_decode`: what a file holds comes from its tree, field by field
* `Session.run_loadConfigOrDefault_cases`: what comes of loading a configuration
* `Session.run_resolveConfig_layers`: what comes of a configuration with flags
-/

namespace ApiStencil

open Json (Scalar)

variable {node : Node Scalar}

/-! ## Scalars of a file -/

/-- A node is a text. -/
def Node.IsText (node : Node Scalar) (text : String) : Prop := node = .scalar (.text text)

/-- A node is a flag. -/
def Node.IsFlag (node : Node Scalar) (flag : Bool) : Prop := node = .scalar (.flag flag)

/-- A node is a text, or it is null. -/
inductive Node.IsTextOrNull : Node Scalar → Option String → Prop where
  | null : IsTextOrNull (.scalar .null) none
  | text (value : String) : IsTextOrNull (.scalar (.text value)) (some value)

theorem isText_of_reads {expected text : String} (h : Reads (readTextAs expected) node text) :
    node.IsText text := by
  obtain ⟨site, before, after, hsite, hread⟩ := h
  have htext := text?_of_readTextAs hsite hread
  cases node with
  | scalar s =>
    cases s with
    | text value =>
      cases Option.some.inj htext
      rfl
    | null | flag | number | flawed => cases htext
  | link | sequence | mapping | cut => cases htext

theorem isFlag_of_reads {flag : Bool} (h : Reads readFlag node flag) : node.IsFlag flag := by
  obtain ⟨site, before, after, hsite, h⟩ := h
  rw [readFlag, Reading.bind_eq_ok_iff] at h
  obtain ⟨found, mid, hfound, h⟩ := h
  obtain rfl := eq_of_follow hsite hfound
  cases found with
  | scalar s =>
    cases s with
    | flag value =>
      cases (Reading.pure_eq_ok_iff.mp h).1
      rfl
    | null | text | number | flawed => exact absurd h (refuse_ne_ok _ _ _)
  | link | sequence | mapping | cut => exact absurd h (refuse_ne_ok _ _ _)

theorem isTextOrNull_of_reads {value : Option String}
    (h : Reads (readOptional ProjectConfig.readPath) node value) : node.IsTextOrNull value := by
  obtain ⟨site, before, after, hsite, h⟩ := h
  rw [readOptional, Reading.bind_eq_ok_iff] at h
  obtain ⟨found, mid, hfound, h⟩ := h
  obtain rfl := eq_of_follow hsite hfound
  by_cases hnull : found = .scalar .null
  · subst hnull
    cases (Reading.pure_eq_ok_iff.mp h).1
    exact .null
  · have hsome : (some <$> ProjectConfig.readPath site found).run mid = .ok (value, after) := by
      cases found with
      | scalar s =>
        cases s with
        | null => exact absurd rfl hnull
        | text | flag | number | flawed => exact h
      | link | sequence | mapping | cut => exact h
    obtain ⟨text, htext, rfl⟩ := Reading.map_eq_ok_iff.mp hsome
    obtain rfl := isText_of_reads ⟨site, mid, after, hsite, htext⟩
    exact .text text

theorem GivenOr.mono {σ α : Type} {P Q : Node σ → α → Prop} {default value : α}
    {nodes : List (Node σ)} (h : GivenOr P default nodes value)
    (hpq : ∀ node value, P node value → Q node value) : GivenOr Q default nodes value := by
  cases h with
  | given h => exact .given (hpq _ _ h)
  | absent => exact .absent

/-! ## Words and names -/

/-- A record of texts comes from a node: each of them is given, or it is the default. -/
def TextPart.WrittenAs {ρ : Type} (parts : List (TextPart ρ)) (start record : ρ)
    (node : Node Scalar) : Prop :=
  ∀ (place : Nat) (part : TextPart ρ), parts[place]? = some part →
    GivenOr Node.IsText (part.get start) (node.givenFor [part.name] place) (part.get record)

/-- The words of a vocabulary. -/
def Vocabulary.words : List (TextPart Vocabulary) := [
  ⟨"binary", binary, fun v binary => { v with binary }⟩,
  ⟨"text", text, fun v text => { v with text }⟩,
  ⟨"int64", int64, fun v int64 => { v with int64 }⟩,
  ⟨"int32", int32, fun v int32 => { v with int32 }⟩,
  ⟨"int", int, fun v int => { v with int }⟩,
  ⟨"boolean", boolean, fun v boolean => { v with boolean }⟩,
  ⟨"double", double, fun v double => { v with double }⟩,
  ⟨"float", float, fun v float => { v with float }⟩,
  ⟨"array", array, fun v array => { v with array }⟩,
  ⟨"model_namespace", modelNamespace, fun v modelNamespace => { v with modelNamespace }⟩,
  ⟨"void", void, fun v void => { v with void }⟩,
  ⟨"interpolation_open", interpolationOpen, fun v interpolationOpen =>
    { v with interpolationOpen }⟩,
  ⟨"interpolation_close", interpolationClose, fun v interpolationClose =>
    { v with interpolationClose }⟩]

/-- The names of a layout. -/
def Layout.names : List (TextPart Layout) := [
  ⟨"object_template", objectTemplate, fun l objectTemplate => { l with objectTemplate }⟩,
  ⟨"enum_template", enumTemplate, fun l enumTemplate => { l with enumTemplate }⟩,
  ⟨"endpoints_template", endpointsTemplate, fun l endpointsTemplate =>
    { l with endpointsTemplate }⟩,
  ⟨"project_dir", projectDir, fun l projectDir => { l with projectDir }⟩,
  ⟨"models_dir", modelsDir, fun l modelsDir => { l with modelsDir }⟩,
  ⟨"endpoints_dir", endpointsDir, fun l endpointsDir => { l with endpointsDir }⟩,
  ⟨"extension", extension, fun l extension => { l with extension }⟩]

theorem Vocabulary.read_eq : (read : Reader Scalar Vocabulary) =
    readRecord "TypeVocabulary" (words.map TextPart.field) {} := rfl

theorem Layout.read_eq : (read : Reader Scalar Layout) =
    readRecord "OutputLayout" (names.map TextPart.field) {} := rfl

theorem Vocabulary.independent_words : TextPart.Independent words where
  names := by decide
  get_set := by simp [words]
  get_set_of_ne := by simp [words]

theorem Layout.independent_names : TextPart.Independent names where
  names := by decide
  get_set := by simp [names]
  get_set_of_ne := by simp [names]

theorem Vocabulary.writtenAs_of_reads {v : Vocabulary} (h : Reads read node v) :
    TextPart.WrittenAs words {} v node := by
  obtain ⟨site, before, after, hsite, h⟩ := h
  intro place part hpart
  rw [read_eq] at h
  exact (independent_words.of_readRecord hsite h hpart).mono fun _ _ => isText_of_reads

theorem Layout.writtenAs_of_reads {l : Layout} (h : Reads read node l) :
    TextPart.WrittenAs names {} l node := by
  obtain ⟨site, before, after, hsite, h⟩ := h
  intro place part hpart
  rw [read_eq] at h
  exact (independent_names.of_readRecord hsite h hpart).mono fun _ _ => isText_of_reads

/-! ## Configurations -/

namespace ProjectConfig

variable {config written : ProjectConfig} {flags : Flags}

/-- A configuration comes from a node: each of its fields is given once, by name or by place, or it
is the default. -/
structure WrittenAs (config : ProjectConfig) (node : Node Scalar) : Prop where
  schema : GivenOr Node.IsTextOrNull none (node.givenFor ["schema", "yml"] 0) config.schema
  output : GivenOr Node.IsText "Generated" (node.givenFor ["output"] 1) config.output
  templates : GivenOr Node.IsText ".templates" (node.givenFor ["templates"] 2) config.templates
  strict : GivenOr Node.IsFlag false (node.givenFor ["strict"] 3) config.strict
  types : GivenOr (fun node types => TextPart.WrittenAs Vocabulary.words {} types node) {}
    (node.givenFor ["types"] 4) config.types
  layout : GivenOr (fun node layout => TextPart.WrittenAs Layout.names {} layout node) {}
    (node.givenFor ["layout"] 5) config.layout

theorem keeps_schemaField {α : Type} {part : ProjectConfig → α}
    (hset : ∀ (config : ProjectConfig) schema, part { config with schema } = part config) :
    (schemaField : Field Scalar ProjectConfig).Keeps part :=
  Field.keeps_of_map rfl hset

/-- What is read comes from its node, field by field. -/
theorem writtenAs_of_reads (h : Reads read node config) : config.WrittenAs node := by
  obtain ⟨site, before, after, hsite, h⟩ := h
  refine ⟨?_, ?_, ?_, ?_, ?_, ?_⟩
  · have hgiven := givenOr_of_readRecord hsite h (by decide) ProjectConfig.schema 0 rfl rfl
      (fun _ _ => rfl) (by simp [Field.keeps_optional])
    exact hgiven.mono fun _ _ => isTextOrNull_of_reads
  · have hgiven := givenOr_of_readRecord hsite h (by decide) ProjectConfig.output 1 rfl rfl
      (fun _ _ => rfl) (by simp [Field.keeps_optional, keeps_schemaField])
    exact hgiven.mono fun _ _ => isText_of_reads
  · have hgiven := givenOr_of_readRecord hsite h (by decide) ProjectConfig.templates 2 rfl rfl
      (fun _ _ => rfl) (by simp [Field.keeps_optional, keeps_schemaField])
    exact hgiven.mono fun _ _ => isText_of_reads
  · have hgiven := givenOr_of_readRecord hsite h (by decide) ProjectConfig.strict 3 rfl rfl
      (fun _ _ => rfl) (by simp [Field.keeps_optional, keeps_schemaField])
    exact hgiven.mono fun _ _ => isFlag_of_reads
  · have hgiven := givenOr_of_readRecord hsite h (by decide) ProjectConfig.types 4 rfl rfl
      (fun _ _ => rfl) (by simp [Field.keeps_optional, keeps_schemaField])
    exact hgiven.mono fun _ _ => Vocabulary.writtenAs_of_reads
  · have hgiven := givenOr_of_readRecord hsite h (by decide) ProjectConfig.layout 5 rfl rfl
      (fun _ _ => rfl) (by simp [Field.keeps_optional, keeps_schemaField])
    exact hgiven.mono fun _ _ => Layout.writtenAs_of_reads

/-- What a text decodes to comes from the tree of the text. -/
theorem writtenAs_of_decode {text : String} (h : Json.decode read text = .ok config) :
    config.WrittenAs (Json.Grammar.tree text).1 := by
  rw [Json.decode, Except.bind_eq_ok_iff] at h
  obtain ⟨value, hvalue, h⟩ := h
  split_ifs at h
  · cases h
    unfold Json.answer at hvalue
    split at hvalue
    next value' after hread =>
      cases hvalue
      exact writtenAs_of_reads ⟨{}, 0, after, rfl, hread⟩
    next => cases hvalue

/-- A configuration with some flags over another one, whose paths go to some places: each path is
the one that a flag gives, or the other one in its place. Strictness comes from either, and the
words and the layout only from the other configuration. -/
structure Layers (config : ProjectConfig) (flags : Flags) (place : String → String)
    (written : ProjectConfig) : Prop where
  schema : config.schema = flags.schema.or (written.schema.map place)
  output : config.output = flags.output.getD (place written.output)
  templates : config.templates = flags.templates.getD (place written.templates)
  strict : config.strict = (flags.strict || written.strict)
  types : config.types = written.types
  layout : config.layout = written.layout

end ProjectConfig

/-- A path as it counts from a directory. An absolute path stands as it is. -/
def Path.countedFrom (base path : String) : String :=
  if isAbsolute path then path else join base path

theorem Path.join_eq_countedFrom (base path : String) : join base path = countedFrom base path := by
  rw [countedFrom]
  split_ifs with h
  · rw [join, if_pos h]
  · rfl

namespace ProjectConfig

variable {config written : ProjectConfig} {flags : Flags}

/-- A configuration whose paths have gone to some places. -/
def placed (place : String → String) (c : ProjectConfig) : ProjectConfig :=
  { c with
    schema := c.schema.map place
    output := place c.output
    templates := place c.templates }

theorem placed_countedFrom (base : String) (c : ProjectConfig) :
    c.placed (Path.countedFrom base) = c.rebase base := by
  rw [← show Path.join base = Path.countedFrom base from funext (Path.join_eq_countedFrom base)]
  rfl

/-- The flags over another configuration give just one. -/
theorem layers_iff {place : String → String} :
    config.Layers flags place written ↔ config = (written.placed place).override flags := by
  constructor
  · rintro ⟨hschema, houtput, htemplates, hstrict, htypes, hlayout⟩
    cases config
    simp only at hschema houtput htemplates hstrict htypes hlayout
    rw [hschema, houtput, htemplates, hstrict, htypes, hlayout, Bool.or_comm]
    simp [override, placed]
  · rintro rfl
    exact ⟨by simp [override, placed], rfl, rfl, Bool.or_comm _ _, rfl, rfl⟩

end ProjectConfig

/-! ## The file of a configuration -/

namespace Disk

variable {disk : Disk} {given : Option String} {path text : String} {written : ProjectConfig}

/-- A configuration comes from the file that is given, or from the file in the default place if none
is given and there is one. -/
inductive UsesConfig (disk : Disk) : Option String → String → Prop where
  | given (path : String) : UsesConfig disk (some path) path
  | found (h : disk.kind? defaultConfigPath = some .file) : UsesConfig disk none defaultConfigPath

/-- A file can be read and decoded, and holds a configuration. -/
def HoldsConfig (disk : Disk) (path : String) (written : ProjectConfig) : Prop :=
  ∃ text, disk.readText path = .ok text ∧ Json.decode ProjectConfig.read text = .ok written

theorem UsesConfig.unique {other : String} (h : disk.UsesConfig given path)
    (h' : disk.UsesConfig given other) : path = other := by
  cases h <;> cases h' <;> rfl

theorem HoldsConfig.unique {other : ProjectConfig} (h : disk.HoldsConfig path written)
    (h' : disk.HoldsConfig path other) : written = other := by
  obtain ⟨text, hread, hdecode⟩ := h
  obtain ⟨text', hread', hdecode'⟩ := h'
  obtain rfl := Except.ok.inj (hread.symm.trans hread')
  exact Except.ok.inj (hdecode.symm.trans hdecode')

theorem find_of_readText (h : disk.readText path = .ok text) :
    disk.find path = .ok (.file (.text text)) := by
  rw [readText, Except.bind_eq_ok_iff] at h
  obtain ⟨entry, hfind, h⟩ := h
  cases entry with
  | file contents =>
    cases contents with
    | text value => exact Except.ok.inj h ▸ hfind
    | binary bytes => cases h
  | directory => cases h

/-- A file that can be read lies in a directory. -/
theorem HoldsConfig.exists_isDirectoryOf (h : disk.HoldsConfig path written) :
    ∃ base, disk.IsDirectoryOf base path := by
  obtain ⟨text, hread, -⟩ := h
  exact Disk.exists_isDirectoryOf (find_of_readText hread)

end Disk

namespace Session

variable {session : Session} {flags : Flags} {path : String} {written : ProjectConfig}

theorem run_loadConfig_of_holds (h : session.disk.HoldsConfig path written) :
    ∃ next, session.run (loadConfig path) =
      (.ok (written.rebase ((Path.parent? path).getD "")), next) := by
  obtain ⟨text, hread, hdecode⟩ := h
  refine ⟨⟨session.disk, session.events ++ [Log.loadedConfig path]⟩, ?_⟩
  simp only [loadConfig, run_bind, run_readText, hread, run_orFail, hdecode, Except.mapError,
    run_liftExcept, run_report, run_pure]

theorem run_loadConfig_of_not_holds (h : ∀ written, ¬session.disk.HoldsConfig path written) :
    ∃ fault, session.run (loadConfig path) = (.error fault, session) := by
  cases hread : session.disk.readText path with
  | error fault =>
    refine ⟨.workspace (.unreadableConfig path fault), ?_⟩
    simp [loadConfig, run_bind, run_readText, hread, run_orFail, Except.mapError]
  | ok text =>
    cases hdecode : Json.decode ProjectConfig.read text with
    | error fault =>
      refine ⟨.json fault, ?_⟩
      simp [loadConfig, run_bind, run_readText, hread, run_orFail, hdecode, Except.mapError,
        run_liftExcept]
    | ok written => exact absurd ⟨text, hread, hdecode⟩ (h written)

/-- A configuration is loaded from the file that is used, or that file holds none, or no file is
used and the defaults stand. -/
theorem run_loadConfigOrDefault_cases (session : Session) (given : Option String) :
    (∃ path written next, session.disk.UsesConfig given path ∧
      session.disk.HoldsConfig path written ∧
      session.run (loadConfigOrDefault given) =
        (.ok (written.rebase ((Path.parent? path).getD "")), next)) ∨
    (∃ path fault, session.disk.UsesConfig given path ∧
      (∀ written, ¬session.disk.HoldsConfig path written) ∧
      session.run (loadConfigOrDefault given) = (.error fault, session)) ∨
    ((∀ path, ¬session.disk.UsesConfig given path) ∧
      session.run (loadConfigOrDefault given) = (.ok {}, session)) := by
  by_cases huses : ∃ path, session.disk.UsesConfig given path
  · obtain ⟨path, huses⟩ := huses
    have hload : session.run (loadConfigOrDefault given) = session.run (loadConfig path) := by
      cases huses with
      | given => rfl
      | found hkind => simp [loadConfigOrDefault, run_bind, run_kind?, hkind]
    rw [hload]
    by_cases hholds : ∃ written, session.disk.HoldsConfig path written
    · obtain ⟨written, hholds⟩ := hholds
      obtain ⟨next, hrun⟩ := run_loadConfig_of_holds hholds
      exact .inl ⟨path, written, next, huses, hholds, hrun⟩
    · have hholds := not_exists.mp hholds
      obtain ⟨fault, hrun⟩ := run_loadConfig_of_not_holds hholds
      exact .inr (.inl ⟨path, fault, huses, hholds, hrun⟩)
  · have hnone := not_exists.mp huses
    refine .inr (.inr ⟨hnone, ?_⟩)
    cases given with
    | some path => exact absurd (.given path) (hnone path)
    | none =>
      have hkind : session.disk.kind? defaultConfigPath ≠ some .file := fun hkind =>
        hnone _ (.found hkind)
      simp [loadConfigOrDefault, run_bind, run_kind?, hkind]

/-- The flags go over what a file holds, or the file that is used holds nothing, or no file is used
and the flags go over the defaults. -/
theorem run_resolveConfig_cases (session : Session) (flags : Flags) :
    (∃ path written base, session.disk.UsesConfig flags.config path ∧
      session.disk.HoldsConfig path written ∧ session.disk.IsDirectoryOf base path ∧
      (session.run (resolveConfig flags)).1 =
        .ok ((written.placed (Path.countedFrom base)).override flags)) ∨
    (∃ path fault, session.disk.UsesConfig flags.config path ∧
      (∀ written, ¬session.disk.HoldsConfig path written) ∧
      (session.run (resolveConfig flags)).1 = .error fault) ∨
    ((∀ path, ¬session.disk.UsesConfig flags.config path) ∧
      (session.run (resolveConfig flags)).1 =
        .ok ((ProjectConfig.placed id {}).override flags)) := by
  rcases run_loadConfigOrDefault_cases session flags.config with
    ⟨path, written, next, huses, hholds, hload⟩ | ⟨path, fault, huses, hholds, hload⟩ |
      ⟨hnone, hload⟩
  all_goals rw [run_resolveConfig_of_load hload]
  · obtain ⟨base, hbase⟩ := hholds.exists_isDirectoryOf
    refine .inl ⟨path, written, base, huses, hholds, hbase, ?_⟩
    rw [hbase.1, ProjectConfig.placed_countedFrom]
    rfl
  · exact .inr (.inl ⟨path, fault, huses, hholds, rfl⟩)
  · exact .inr (.inr ⟨hnone, rfl⟩)

/-- Nothing but the file that is used can be wrong with a configuration. -/
theorem exists_run_resolveConfig_eq_error_iff :
    (∃ fault, (session.run (resolveConfig flags)).1 = .error fault) ↔
      ∃ path, session.disk.UsesConfig flags.config path ∧
        ∀ written, ¬session.disk.HoldsConfig path written := by
  rcases run_resolveConfig_cases session flags with
    ⟨path, written, base, huses, hholds, -, hrun⟩ | ⟨path, fault, huses, hnone, hrun⟩ |
      ⟨hnone, hrun⟩
  · refine iff_of_false (by simp [hrun]) ?_
    rintro ⟨other, huses', hnone⟩
    exact hnone written (huses.unique huses' ▸ hholds)
  · exact iff_of_true ⟨fault, hrun⟩ ⟨path, huses, hnone⟩
  · refine iff_of_false (by simp [hrun]) ?_
    rintro ⟨path, huses, -⟩
    exact hnone path huses

/-- A configuration has its layers from the file that is used, or from the defaults. -/
theorem run_resolveConfig_eq_ok_iff {config : ProjectConfig} :
    (session.run (resolveConfig flags)).1 = .ok config ↔
      (∃ path written base, session.disk.UsesConfig flags.config path ∧
        session.disk.HoldsConfig path written ∧ session.disk.IsDirectoryOf base path ∧
        config.Layers flags (Path.countedFrom base) written) ∨
      (∀ path, ¬session.disk.UsesConfig flags.config path) ∧ config.Layers flags id {} := by
  simp only [ProjectConfig.layers_iff]
  constructor
  · intro h
    rcases run_resolveConfig_cases session flags with
      ⟨path, written, base, huses, hholds, hbase, hrun⟩ | ⟨-, fault, -, -, hrun⟩ | ⟨hnone, hrun⟩
    · exact .inl ⟨path, written, base, huses, hholds, hbase, Except.ok.inj (h.symm.trans hrun)⟩
    · cases h.symm.trans hrun
    · exact .inr ⟨hnone, Except.ok.inj (h.symm.trans hrun)⟩
  · intro h
    rcases run_resolveConfig_cases session flags with
      ⟨path, written, base, huses, hholds, hbase, hrun⟩ | ⟨path, -, huses, hnone, -⟩ |
        ⟨hnone, hrun⟩
    · rcases h with ⟨other, written', base', huses', hholds', hbase', rfl⟩ | ⟨hnone, -⟩
      · obtain rfl := huses.unique huses'
        obtain rfl := hholds.unique hholds'
        obtain rfl := Option.some.inj (hbase.1.symm.trans hbase'.1)
        exact hrun
      · exact absurd huses (hnone path)
    · rcases h with ⟨other, written, -, huses', hholds, -⟩ | ⟨hnone', -⟩
      · exact absurd (huses.unique huses' ▸ hholds) (hnone written)
      · exact absurd huses (hnone' path)
    · rcases h with ⟨path, -, -, huses, -⟩ | ⟨-, rfl⟩
      · exact absurd huses (hnone path)
      · exact hrun

/-- **The layers of a configuration.** A configuration cannot be resolved exactly if a file is used
that cannot be read or decoded, whatever the other flags are. If a file is used that holds a
configuration, the flags go over that, and its paths count from the directory of the file. If no
file is used, the flags go over the defaults as they are. What a file holds comes from its tree
field by field, with a default for each field that is not given. -/
theorem run_resolveConfig_layers (session : Session) (flags : Flags) :
    ((∃ fault, (session.run (resolveConfig flags)).1 = .error fault) ↔
      ∃ path, session.disk.UsesConfig flags.config path ∧
        ∀ written, ¬session.disk.HoldsConfig path written) ∧
    (∀ config, (session.run (resolveConfig flags)).1 = .ok config ↔
      (∃ path written base, session.disk.UsesConfig flags.config path ∧
        session.disk.HoldsConfig path written ∧ session.disk.IsDirectoryOf base path ∧
        config.Layers flags (Path.countedFrom base) written) ∨
      (∀ path, ¬session.disk.UsesConfig flags.config path) ∧ config.Layers flags id {}) ∧
    ∀ path written, session.disk.HoldsConfig path written →
      ∃ text, session.disk.readText path = .ok text ∧
        written.WrittenAs (Json.Grammar.tree text).1 := by
  refine ⟨exists_run_resolveConfig_eq_error_iff, fun config => run_resolveConfig_eq_ok_iff, ?_⟩
  rintro path written ⟨text, hread, hdecode⟩
  exact ⟨text, hread, ProjectConfig.writtenAs_of_decode hdecode⟩

/-- A configuration file without templates, with a word, and with a layout whose names are given by
place. -/
def layeredText : String :=
  "\x7b\"yml\": \"api.yml\", \"output\": \"/out\", \"strict\": false, " ++
    "\"types\": \x7b\"int64\": \"long\"\x7d, \"layout\": [\"record.tera\"]\x7d"

/-- What the file holds. -/
def layeredConfig : ProjectConfig where
  schema := some "api.yml"
  output := "/out"
  types := { int64 := "long" }
  layout := { objectTemplate := "record.tera" }

/-- A disk with the file in a directory, and with one in the default place that cannot be
decoded. -/
def layeredDisk : Disk :=
  [(["work"], .directory), (["work", "conf"], .directory),
    (["work", "conf", "project.json"], .file (.text layeredText)),
    (["work", "tamplier.json"], .file (.text "\x7b\"output\": 1\x7d"))].foldl
      (fun (disk : Disk) (placed : Location × Entry) => disk.put placed.1 placed.2)
      (Disk.empty ["work"])

/-- Flags for another document and for strictness. -/
def layeredFlags (config : Option String) : Flags where
  config := config
  schema := some "other.yml"
  strict := true

theorem holdsConfig_layeredDisk : layeredDisk.HoldsConfig "conf/project.json" layeredConfig :=
  ⟨layeredText, by decide +kernel, by cbv⟩

theorem not_holdsConfig_layeredDisk (written : ProjectConfig) :
    ¬layeredDisk.HoldsConfig defaultConfigPath written := by
  have hread : layeredDisk.readText defaultConfigPath = .ok "\x7b\"output\": 1\x7d" := by
    decide +kernel
  have hdecode : Json.decode ProjectConfig.read "\x7b\"output\": 1\x7d" =
      .error (.mismatch [] (.wrongType (.integer 1) "path string")) := by cbv
  rintro ⟨text, htext, hwritten⟩
  obtain rfl := Except.ok.inj (hread.symm.trans htext)
  cases hdecode.symm.trans hwritten

/-- Each layer shows: the document and strictness of the flags, the output of the file, which is
absolute, its word and its name, and the templates of the defaults in the directory of the file.
The file in the default place is not looked at, and without the other one the same flags fail. -/
theorem run_resolveConfig_layers_project :
    (∃ text, layeredDisk.readText "conf/project.json" = .ok text ∧
      layeredConfig.WrittenAs (Json.Grammar.tree text).1) ∧
    (run ⟨layeredDisk, []⟩ (resolveConfig (layeredFlags (some "conf/project.json")))).1 =
      .ok { schema := some "other.yml", output := "/out", templates := "conf/.templates",
            strict := true, types := { int64 := "long" },
            layout := { objectTemplate := "record.tera" } } ∧
    ∃ fault, (run ⟨layeredDisk, []⟩ (resolveConfig (layeredFlags none))).1 = .error fault := by
  obtain ⟨-, hok, hwritten⟩ := run_resolveConfig_layers ⟨layeredDisk, []⟩
    (layeredFlags (some "conf/project.json"))
  obtain ⟨hfails, -, -⟩ := run_resolveConfig_layers ⟨layeredDisk, []⟩ (layeredFlags none)
  refine ⟨hwritten _ _ holdsConfig_layeredDisk, (hok _).mpr (.inl ?_), hfails.mpr ?_⟩
  · have hbase : layeredDisk.IsDirectoryOf "conf" "conf/project.json" :=
      ⟨by decide +kernel, ["work", "conf"], "project.json", by decide +kernel,
        .inr ⟨by decide, by decide +kernel⟩⟩
    refine ⟨_, layeredConfig, "conf", .given _, holdsConfig_layeredDisk, hbase, ?_⟩
    exact ⟨rfl, by decide +kernel, by decide +kernel, rfl, rfl, rfl⟩
  · exact ⟨defaultConfigPath, .found (by decide +kernel), not_holdsConfig_layeredDisk⟩

end Session

end ApiStencil
