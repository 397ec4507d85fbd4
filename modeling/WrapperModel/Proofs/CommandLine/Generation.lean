import WrapperModel.Proofs.CommandLine.Invocation
import WrapperModel.Proofs.Configuration.RoundTrip
import WrapperModel.Proofs.Definition.Catalogue
import WrapperModel.Proofs.Files.Store

/-!
# `WrapperModel.Proofs.CommandLine.Generation`: a generation writes last

A generation first looks at files: at its configuration and at the definitions. Then it builds
a model, and only then does it make directories and write. So whatever stands in the way of a
generation before that leaves the files as they are.

* `run_configurationOf`, `run_catalogueOf`: looking at files leaves them as they are.
* `remains_of_catalogueIn`: what stands in a directory from which definitions were loaded.
* `run_deliver`, `run_giveOut_file`: what is changed to put a model into a file, if it fits into
  its form.
* `run_generate`: the whole run in its stages.
* `Hindered`, `Undelivered`: the two ways in which a generation fails, before anything is
  changed and after that.
* `files_of_hindered`: what a hindered generation leaves, and when a generation fails at all.
-/

set_option autoImplicit false

namespace WrapperModel.CommandLine

open WrapperModel.Definition (Catalogue CatalogueError FoundDocument Remains Fails described
  FindsDocument foundNames loadFrom_eq exists_directory exists_parts exists_of_mem_of_forall₂
  exists_ok_of_map_toOption mapM_definition_eq_ok_iff mergeSort_eq ofDocuments_eq_ok_iff
  ofTree_of_listed)
open WrapperModel.Files
open WrapperModel.Model (Tool OutputFormat)
open WrapperModel.Text (bytes)

variable {tree : FileTree} {surroundings : Surroundings} {options : GenerateOptions}

/-! ### Looking at files -/

/-- The configuration in the file that is named in the options, or the one by default: the first
step of `configurationIn`. -/
def startingIn (tree : FileTree) (options : GenerateOptions) : Except String Configuration :=
  match options.configuration with
  | some path =>
    (((tree.read (bytes path)).mapError ConfigurationError.ofFileError).bind
      Configuration.ofBytes).mapError fun reason =>
        "Failed to load config '" ++ path ++ "': " ++ reason.message
  | none => .ok {}

/-- The configuration of a generation on a tree: the options over the one to start with
(`startingIn`), and a license, which depends on the year. -/
def configurationIn (tree : FileTree) (options : GenerateOptions) (year : Nat) :
    Except String Configuration :=
  (startingIn tree options).map fun configuration =>
    { options.over configuration with tool := licensed year (options.over configuration).tool }

/-- The definitions that a configuration names, from a tree. It is the part of `catalogueOf` that
looks, and `catalogueOf` does nothing else (`run_catalogueOf`). -/
def catalogueIn (tree : FileTree) (configuration : Configuration) : Except String Catalogue :=
  (Catalogue.ofTree tree configuration.source.path configuration.source.referenceUrl
    configuration.source.reference configuration.source.skip).mapError CatalogueError.message

/-- Taking the configuration looks at the tree and leaves it as it is: it is `configurationIn`. -/
theorem run_configurationOf (options : GenerateOptions) (year : Nat) (tree : FileTree) :
    (configurationOf options year : ExceptT String (StateM FileTree) Configuration).run tree =
      (configurationIn tree options year, tree) := by
  unfold configurationOf configurationIn startingIn
  cases options.configuration with
  | none => rfl
  | some path =>
    rw [run_bind]
    simp only [run_adapt, Configuration.run_load]
    cases ((tree.read (bytes path)).mapError ConfigurationError.ofFileError).bind
      Configuration.ofBytes <;> rfl

/-- Loading the definitions looks at the tree and leaves it as it is: it is `catalogueIn`. -/
theorem run_catalogueOf (configuration : Configuration) (tree : FileTree) :
    (catalogueOf configuration : ExceptT String (StateM FileTree) Catalogue).run tree =
      (catalogueIn tree configuration, tree) := by
  have hload := loadFrom_eq tree configuration.source.path configuration.source.referenceUrl
    configuration.source.reference configuration.source.skip
  rw [Catalogue.loadFrom] at hload
  rw [catalogueOf, run_adapt, hload]
  rfl

/-- Where definitions can be loaded, some document remains and none that remains fails. The tree has
to be proper, as real trees are: nothing stands below a file, and no name stands twice. -/
theorem remains_of_catalogueIn {configuration : Configuration} {catalogue : Catalogue}
    (htree : tree.IsProper) (h : catalogueIn tree configuration = .ok catalogue) :
    (∃ name content,
      Remains tree configuration.source.path configuration.source.skip name content) ∧
    ∀ name content reason,
      Remains tree configuration.source.path configuration.source.skip name content →
      ¬ Fails configuration.source.referenceUrl configuration.source.reference (nameText name)
        content reason := by
  unfold catalogueIn at h
  cases hloaded : Catalogue.ofTree tree configuration.source.path
      configuration.source.referenceUrl configuration.source.reference
      configuration.source.skip with
  | error reason =>
    rw [hloaded] at h
    cases h
  | ok loaded =>
    obtain ⟨directory, hplace, hdirectory⟩ := exists_directory hloaded
    obtain ⟨kept, skipped, stems, hparts, -, hmade⟩ := exists_parts htree hplace hdirectory
      configuration.source.referenceUrl configuration.source.reference configuration.source.skip
    rw [hmade, ofDocuments_eq_ok_iff, mapM_definition_eq_ok_iff] at hloaded
    obtain ⟨hgives, hsome, -⟩ := hloaded
    constructor
    · cases kept with
      | nil => exact absurd (List.forall₂_nil_left_iff.1 hgives) hsome
      | cons file rest => exact ⟨file.1, file.2, (hparts.mem_kept _ _).1 List.mem_cons_self⟩
    · intro name content reason hremains
      obtain ⟨d, hd⟩ := exists_of_mem_of_forall₂ hgives ((hparts.mem_kept name content).2 hremains)
      exact hd.not_fails

/-! ### Putting a model into a file -/

/-- The tree with the directory above a path, in which the file is then written. It is the tree
itself where the path names no directory. -/
def withAbove (tree : FileTree) (path : String) : Except FileError FileTree :=
  if parent path = "" then .ok tree else tree.createDirectory (bytes (parent path))

/-- The directory above a file is made, and then the file is written. Directories stay even if the
file cannot be written, so this is where a failure can leave a change. -/
theorem run_deliver (path rendered : String) (tree : FileTree) :
    (deliver path rendered : ExceptT String (StateM FileTree) Unit).run tree =
      match withAbove tree path with
      | .error reason =>
        (.error ("Failed to create output directory '" ++ parent path ++ "': " ++ reason.message),
          tree)
      | .ok start =>
        match start.write (bytes path) rendered.toUTF8 with
        | .error reason => (.error ("Failed to write '" ++ path ++ "': " ++ reason.message), start)
        | .ok changed => (.ok (), changed) := by
  have hwrite : ∀ start : FileTree,
      ((FileStore.write (m := StateM FileTree) (bytes path) rendered).adapt fun reason =>
        "Failed to write '" ++ path ++ "': " ++ reason.message).run start =
        match start.write (bytes path) rendered.toUTF8 with
        | .error reason => (.error ("Failed to write '" ++ path ++ "': " ++ reason.message), start)
        | .ok changed => (.ok (), changed) := by
    intro start
    rw [run_adapt, run_write]
    cases start.write (bytes path) rendered.toUTF8 <;> rfl
  unfold deliver withAbove
  by_cases habove : parent path = ""
  · simp only [habove, ne_eq, not_true, if_false, if_true]
    exact hwrite tree
  · simp only [habove, ne_eq, not_false_iff, if_true, if_false]
    rw [run_bind, run_adapt, run_createDirectory]
    cases tree.createDirectory (bytes (parent path)) with
    | error reason => rfl
    | ok start => exact hwrite start

/-- A model that does not fit into its form (`Tool.fits`) breaks off the run and leaves the tree as
it is. -/
theorem run_giveOut_of_not_fits {output : OutputSettings} {tool : Tool}
    (hfits : tool.fits output.format = false) (tree : FileTree) :
    (giveOut output tool : StateM FileTree Outcome).run tree =
      (.brokenOff "Formatting argument out of range", tree) := by
  rw [giveOut, Tool.render?, hfits, if_neg Bool.false_ne_true]
  rfl

/-- A model that fits into its form is given out into a file by delivering its text (`deliver`).
Nothing is printed then. -/
theorem run_giveOut_file {format : OutputFormat} {tool : Tool} (hfits : tool.fits format = true)
    (path : String) (tree : FileTree) :
    (giveOut ⟨some path, format⟩ tool : StateM FileTree Outcome).run tree =
      match (deliver path (tool.render format) :
          ExceptT String (StateM FileTree) Unit).run tree with
      | (.ok (), changed) => ({ stdout := summary tool ++ " Wrote '" ++ path ++ "'.\n" }, changed)
      | (.error message, changed) => (.failure message, changed) := by
  rw [giveOut, Tool.render?, hfits, if_pos rfl]
  dsimp only
  rw [run_andThen]
  cases (deliver path (tool.render format) : ExceptT String (StateM FileTree) Unit).run tree with
  | mk result changed => cases result <;> rfl

/-! ### The stages of a generation -/

/-- The model of the definitions, `build` of the profile and the catalogue, with the name that the
stages below have for it. -/
def builtFrom (configuration : Configuration) (catalogue : Catalogue) : Tool :=
  Assembly.build configuration.tool catalogue.definitions

/-- The warnings that are shown about the model and about the merging of its enumerations, as the
log setting of the surroundings lets them through. -/
def noticesOn (surroundings : Surroundings) (configuration : Configuration)
    (catalogue : Catalogue) : String :=
  notices surroundings.logSetting
    (Assembly.collisions configuration.tool catalogue.definitions)
    (builtFrom configuration catalogue).findings

/-- A log that is off shows no warnings. It is used for the examples, where the error stream then
holds the error alone. -/
theorem noticesOn_off (year : Nat) (configuration : Configuration) (catalogue : Catalogue) :
    noticesOn ⟨some "off", year⟩ configuration catalogue = "" := by
  have hcollisions : showsWarnings (some "off") collisionSource = false := by decide +kernel
  have hfindings : showsWarnings (some "off") findingSource = false := by decide +kernel
  rw [noticesOn, notices, hcollisions, hfindings]
  rfl

/-- What is said of a model that is not good enough for a strict generation. It is the number of its
findings and nothing about them. -/
def refusal (tool : Tool) : String :=
  "Generated model has " ++ toString tool.findings.length ++ " validation error(s)"

/-- A generation in its stages. The tree that is changed is the one that is looked at, and only
giving out the model changes it. All theorems on generations go by this equation. -/
theorem run_generate (surroundings : Surroundings) (options : GenerateOptions)
    (tree : FileTree) :
    (generate surroundings options : StateM FileTree Outcome).run tree =
      match configurationIn tree options surroundings.year with
      | .error message => (.failure message, tree)
      | .ok configuration =>
        match catalogueIn tree configuration with
        | .error message => (.failure message, tree)
        | .ok catalogue =>
          let tool := builtFrom configuration catalogue
          let shown := noticesOn surroundings configuration catalogue
          if options.strict && !tool.findings.isEmpty then
            ((Outcome.failure (refusal tool)).after shown, tree)
          else
            let given := (giveOut configuration.output tool : StateM FileTree Outcome).run tree
            (given.1.after shown, given.2) := by
  have hprepared : (do
      let configuration ← configurationOf options surroundings.year
      return (configuration, ← catalogueOf configuration) :
        ExceptT String (StateM FileTree) (Configuration × Catalogue)).run tree =
      ((configurationIn tree options surroundings.year).bind fun configuration =>
        (catalogueIn tree configuration).map fun catalogue => (configuration, catalogue),
        tree) := by
    rw [run_bind, run_configurationOf]
    cases configurationIn tree options surroundings.year with
    | error message => rfl
    | ok configuration =>
      dsimp only
      rw [run_bind, run_catalogueOf]
      simp only [Except.bind]
      cases catalogueIn tree configuration <;> rfl
  -- What is left is to carry out the rest for each way in which the preparation can end.
  rw [generate, run_andThen, hprepared]
  cases configurationIn tree options surroundings.year with
  | error message => rfl
  | ok configuration =>
    simp only [Except.bind]
    cases catalogueIn tree configuration with
    | error message => rfl
    | ok catalogue =>
      have hbuilt : Assembly.build configuration.tool catalogue.definitions =
          builtFrom configuration catalogue := rfl
      simp only [Except.map]
      rw [hbuilt]
      split <;> rfl

/-! ### Failures -/

/-- Something stands in the way of a generation before anything is given out, which decides its
outcome: there is no configuration, there are no definitions, or the generation is strict and its
model has findings. -/
inductive Hindered (tree : FileTree) (surroundings : Surroundings) (options : GenerateOptions) :
    Outcome → Prop
  | unconfigured {message : String}
      (unconfigured : configurationIn tree options surroundings.year = .error message) :
      Hindered tree surroundings options (.failure message)
  | undefined {configuration : Configuration} {message : String}
      (configured : configurationIn tree options surroundings.year = .ok configuration)
      (unloaded : catalogueIn tree configuration = .error message) :
      Hindered tree surroundings options (.failure message)
  | refused {configuration : Configuration} {catalogue : Catalogue}
      (configured : configurationIn tree options surroundings.year = .ok configuration)
      (loaded : catalogueIn tree configuration = .ok catalogue)
      (strict : options.strict = true)
      (found : (builtFrom configuration catalogue).findings ≠ []) :
      Hindered tree surroundings options
        ((Outcome.failure (refusal (builtFrom configuration catalogue))).after
          (noticesOn surroundings configuration catalogue))

/-- Nothing stands in the way of a generation before its model is given out. With `Hindered` it
covers all generations, and no generation is both. -/
structure Unhindered (tree : FileTree) (surroundings : Surroundings) (options : GenerateOptions)
    (configuration : Configuration) (catalogue : Catalogue) : Prop where
  configured : configurationIn tree options surroundings.year = .ok configuration
  loaded : catalogueIn tree configuration = .ok catalogue
  accepted : options.strict = true → (builtFrom configuration catalogue).findings = []

/-- Nothing stands in the way of a generation, and its model cannot be put into its file. It is the
only failure that can leave a change behind, in the directories above the file. -/
inductive Undelivered (tree : FileTree) (surroundings : Surroundings)
    (options : GenerateOptions) : Prop
  | intro {configuration : Configuration} {catalogue : Catalogue} {path message : String}
      (unhindered : Unhindered tree surroundings options configuration catalogue)
      (fits : (builtFrom configuration catalogue).fits configuration.output.format = true)
      (intoFile : configuration.output.path = some path)
      (failed : ((deliver path
        ((builtFrom configuration catalogue).render configuration.output.format) :
          ExceptT String (StateM FileTree) Unit).run tree).1 = .error message)

/-- A generation is `Hindered`, or nothing stands in its way (`Unhindered`). -/
theorem hindered_or_unhindered (tree : FileTree) (surroundings : Surroundings)
    (options : GenerateOptions) :
    (∃ outcome, Hindered tree surroundings options outcome) ∨
    ∃ configuration catalogue, Unhindered tree surroundings options configuration catalogue := by
  cases hconfiguration : configurationIn tree options surroundings.year with
  | error message => exact .inl ⟨_, .unconfigured hconfiguration⟩
  | ok configuration =>
    cases hcatalogue : catalogueIn tree configuration with
    | error message => exact .inl ⟨_, .undefined hconfiguration hcatalogue⟩
    | ok catalogue =>
      -- Findings hinder only a run that is asked to be strict.
      by_cases hfound : (builtFrom configuration catalogue).findings = []
      · exact .inr ⟨configuration, catalogue, hconfiguration, hcatalogue, fun _ => hfound⟩
      · by_cases hstrict : options.strict = true
        · exact .inl ⟨_, .refused hconfiguration hcatalogue hstrict hfound⟩
        · exact .inr ⟨configuration, catalogue, hconfiguration, hcatalogue,
            fun h => absurd h hstrict⟩

/-- A generation is hindered if no documents remain for it, or if one that remains fails, wherever
it stands in the directory. The configuration has to be there, since it says which directory that
is. -/
theorem exists_hindered_of_documents {configuration : Configuration} (htree : tree.IsProper)
    (hconfigured : configurationIn tree options surroundings.year = .ok configuration)
    (hbad : (∀ name content, ¬ Remains tree configuration.source.path configuration.source.skip
        name content) ∨
      ∃ name content reason,
        Remains tree configuration.source.path configuration.source.skip name content ∧
        Fails configuration.source.referenceUrl configuration.source.reference (nameText name)
          content reason) :
    ∃ message, Hindered tree surroundings options (.failure message) := by
  cases hloaded : catalogueIn tree configuration with
  | error message => exact ⟨message, .undefined hconfigured hloaded⟩
  | ok catalogue =>
    obtain ⟨⟨name, content, hremains⟩, hnone⟩ := remains_of_catalogueIn htree hloaded
    rcases hbad with hempty | ⟨name, content, reason, hremains, hfails⟩
    · exact absurd hremains (hempty name content)
    · exact absurd hfails (hnone name content reason hremains)

/-- A generation that is `Hindered` fails and leaves the tree as it is, since nothing was given
out. -/
theorem Hindered.run_generate {outcome : Outcome}
    (h : Hindered tree surroundings options outcome) :
    (generate surroundings options : StateM FileTree Outcome).run tree = (outcome, tree) := by
  rw [CommandLine.run_generate]
  -- Each hindrance is one of the branches in which nothing is written.
  cases h with
  | unconfigured hconfiguration => rw [hconfiguration]
  | undefined hconfiguration hcatalogue => simp only [hconfiguration, hcatalogue]
  | @refused configuration catalogue hconfiguration hcatalogue hstrict hfound =>
    have hsome : (builtFrom configuration catalogue).findings.isEmpty = false := by
      simpa using hfound
    simp only [hconfiguration, hcatalogue, hstrict, hsome, Bool.not_false, Bool.and_self, if_true]

/-- The outcome of a generation that is `Hindered` is an error and nothing else: nothing is printed
for the output. -/
theorem Hindered.exitCode_stdout {outcome : Outcome}
    (h : Hindered tree surroundings options outcome) :
    outcome.exitCode = 1 ∧ outcome.stdout = "" := by
  cases h <;> exact ⟨rfl, rfl⟩

/-- A generation in whose way nothing stands gives out its model by `giveOut`, behind the warnings
about it. -/
theorem Unhindered.run_generate {configuration : Configuration} {catalogue : Catalogue}
    (h : Unhindered tree surroundings options configuration catalogue) :
    (generate surroundings options : StateM FileTree Outcome).run tree =
      let given := (giveOut configuration.output (builtFrom configuration catalogue) :
        StateM FileTree Outcome).run tree
      (given.1.after (noticesOn surroundings configuration catalogue), given.2) := by
  have haccepted : (options.strict && !(builtFrom configuration catalogue).findings.isEmpty) =
      false := by
    cases hstrict : options.strict with
    | false => rfl
    | true => simp [h.accepted hstrict]
  rw [CommandLine.run_generate]
  simp only [h.configured, h.loaded, haccepted, Bool.false_eq_true, if_false]

/-- Giving out a model fails only because it cannot be put into its file. A model that does not fit
into its form breaks the run off, with another exit code. -/
theorem exitCode_giveOut_eq_one_iff {output : OutputSettings} {tool : Tool} :
    ((giveOut output tool : StateM FileTree Outcome).run tree).1.exitCode = 1 ↔
      tool.fits output.format = true ∧ ∃ path message, output.path = some path ∧
        ((deliver path (tool.render output.format) :
          ExceptT String (StateM FileTree) Unit).run tree).1 = .error message := by
  obtain ⟨path?, format⟩ := output
  -- A model that does not fit ends the program in another way, with a code of its own.
  cases hfits : tool.fits format with
  | false =>
    rw [run_giveOut_of_not_fits hfits]
    exact iff_of_false (fun h => nomatch h) fun h => nomatch h.1
  | true =>
    refine Iff.trans ?_ (and_iff_right rfl).symm
    -- Without a file the model is printed, which cannot fail.
    cases path? with
    | none =>
      rw [giveOut, Tool.render?, hfits, if_pos rfl]
      exact iff_of_false (fun h => nomatch h) fun ⟨_, _, h, _⟩ => nomatch h
    | some path =>
      rw [run_giveOut_file hfits]
      cases hrun : (deliver path (tool.render format) :
          ExceptT String (StateM FileTree) Unit).run tree with
      | mk result changed =>
        cases result with
        | ok done =>
          refine iff_of_false (fun h => nomatch h) ?_
          rintro ⟨path, message, hpath, herror⟩
          cases hpath
          rw [hrun] at herror
          cases herror
        | error message => exact iff_of_true rfl ⟨path, message, rfl, congrArg Prod.fst hrun⟩

/-- A generation fails because it is `Hindered` or because its model is `Undelivered`. A run that is
broken off has another exit code and is neither. -/
theorem exitCode_generate_eq_one_iff :
    ((generate surroundings options : StateM FileTree Outcome).run tree).1.exitCode = 1 ↔
      (∃ outcome, Hindered tree surroundings options outcome) ∨
        Undelivered tree surroundings options := by
  constructor
  · -- Unless the run was hindered, it failed while the model was given out.
    intro hfailed
    rcases hindered_or_unhindered tree surroundings options with hhindered |
      ⟨configuration, catalogue, hunhindered⟩
    · exact .inl hhindered
    · rw [hunhindered.run_generate] at hfailed
      obtain ⟨hfits, path, message, hpath, herror⟩ := exitCode_giveOut_eq_one_iff.1 hfailed
      exact .inr ⟨hunhindered, hfits, hpath, herror⟩
  · rintro (⟨outcome, hhindered⟩ | ⟨hunhindered, hfits, hpath, herror⟩)
    · rw [hhindered.run_generate]
      exact hhindered.exitCode_stdout.1
    · rw [hunhindered.run_generate]
      exact exitCode_giveOut_eq_one_iff.2 ⟨hfits, _, _, hpath, herror⟩

/-- A failed generation leaves everything as it was, unless it fails in putting its model into its
file. Take a generation that cannot be configured, that has no definitions, or that is strict and
builds a model with findings (`Hindered`). Then it fails, nothing is printed but the error and the
warnings before it, and no file and no directory is made or changed. A generation fails in these
cases and where the model cannot be put into its file (`Undelivered`), and in no others. There are
no definitions for it if its directory holds no document, or a bad one anywhere. -/
theorem files_of_hindered {arguments : List String} (hasks : Asks arguments (.generate options))
    (tree : FileTree) (surroundings : Surroundings) :
    (∀ outcome, Hindered tree surroundings options outcome →
      runOn tree surroundings arguments = (outcome, tree) ∧
      outcome.exitCode = 1 ∧ outcome.stdout = "") ∧
    ((runOn tree surroundings arguments).1.exitCode = 1 ↔
      (∃ outcome, Hindered tree surroundings options outcome) ∨
        Undelivered tree surroundings options) ∧
    ∀ configuration, tree.IsProper →
      configurationIn tree options surroundings.year = .ok configuration →
      ((∀ name content, ¬ Remains tree configuration.source.path configuration.source.skip name
          content) ∨
        ∃ name content reason,
          Remains tree configuration.source.path configuration.source.skip name content ∧
          Fails configuration.source.referenceUrl configuration.source.reference (nameText name)
            content reason) →
      ∃ message, Hindered tree surroundings options (.failure message) := by
  rw [runOn_of_asks hasks]
  refine ⟨fun outcome h => ⟨h.run_generate, h.exitCode_stdout⟩, exitCode_generate_eq_one_iff, ?_⟩
  intro configuration htree hconfigured hbad
  exact exists_hindered_of_documents htree hconfigured hbad

/-- A directory with two definitions of one command, one with a bad document behind a good one, and
a file that holds something else. -/
def troubledFiles : FileTree where
  entries :=
    [([bytes "d"], .directory),
      ([bytes "d", bytes "a.yaml"], .file "command: docker ps".toUTF8),
      ([bytes "d", bytes "b.yaml"], .file "command: docker ps".toUTF8),
      ([bytes "e"], .directory),
      ([bytes "e", bytes "a.yaml"], .file "command: docker ps".toUTF8),
      ([bytes "e", bytes "b.yaml"], .file "command: [unterminated".toUTF8),
      ([bytes "m.json"], .file "kept".toUTF8)]

/-- What is found in the first directory makes the catalogue: two documents. `List.mergeSort` does
not run in proofs, so the order of their names is checked instead. -/
theorem catalogueIn_troubledFiles {configuration : Configuration}
    (h : configuration.source = { path := "d" }) :
    catalogueIn troubledFiles configuration =
      (Catalogue.ofDocuments "d" configuration.source.referenceUrl configuration.source.reference []
        [⟨"a.yaml", .ok "command: docker ps".toUTF8⟩,
          ⟨"b.yaml", .ok "command: docker ps".toUTF8⟩]).mapError CatalogueError.message := by
  have hlisted : troubledFiles.entryNames (bytes "d") = .ok [bytes "a.yaml", bytes "b.yaml"] :=
    FileTree.entryNames_eq_ok_iff.2 ⟨[bytes "d"], rfl, rfl, rfl⟩
  have hfound : foundNames troubledFiles "d" [bytes "a.yaml", bytes "b.yaml"] =
      [bytes "a.yaml", bytes "b.yaml"] := mergeSort_eq (by decide +kernel) (by decide +kernel)
  rw [catalogueIn, h, ofTree_of_listed hlisted, hfound]
  rfl

/-- From the first directory of `troubledFiles` a model with one finding is built for the file. -/
theorem seen_troubledFiles (strict : Bool) :
    (configurationIn troubledFiles { definitions := some "d", output := some "m.json", strict }
        2000).toOption.map (fun configuration => (configuration.output,
          (catalogueIn troubledFiles configuration).toOption.map fun catalogue =>
            (builtFrom configuration catalogue).findings)) =
      some (⟨some "m.json", .json⟩, some [.duplicateTask "Ps"]) := by
  unfold configurationIn startingIn
  simp only [Except.map, Except.toOption, Option.map_some]
  rw [catalogueIn_troubledFiles rfl]
  cases strict <;> decide +kernel

/-- A strict generation refuses a model with findings, and the file for it keeps what it holds. A
bad document behind a good one is an error, and the directory for the model is not made. Both are on
`troubledFiles`. -/
theorem files_of_troubledFiles :
    (∃ outcome,
      Asks ["generate", "--definitions", "d", "--output", "m.json", "--strict"]
        (.generate { definitions := some "d", output := some "m.json", strict := true }) ∧
      Hindered troubledFiles ⟨some "off", 2000⟩
        { definitions := some "d", output := some "m.json", strict := true } outcome ∧
      outcome.stderr = "error: Generated model has 1 validation error(s)\n" ∧
      runOn troubledFiles ⟨some "off", 2000⟩
        ["generate", "--definitions", "d", "--output", "m.json", "--strict"] =
        (outcome, troubledFiles)) ∧
    ∃ message,
      Asks ["generate", "--definitions", "e", "--output", "n/m.json"]
        (.generate { definitions := some "e", output := some "n/m.json" }) ∧
      troubledFiles.IsProper ∧
      Hindered troubledFiles ⟨some "off", 2000⟩
        { definitions := some "e", output := some "n/m.json" } (.failure message) ∧
      runOn troubledFiles ⟨some "off", 2000⟩
        ["generate", "--definitions", "e", "--output", "n/m.json"] =
        (.failure message, troubledFiles) := by
  constructor
  · have hasks : Asks ["generate", "--definitions", "d", "--output", "m.json", "--strict"]
        (.generate { definitions := some "d", output := some "m.json", strict := true }) :=
      ⟨false, by decide +kernel⟩
    obtain ⟨configuration, hconfigured, hread⟩ :=
      exists_ok_of_map_toOption (seen_troubledFiles true)
    obtain ⟨catalogue, hcatalogue, hseen⟩ := exists_ok_of_map_toOption (Prod.mk.inj hread).2
    have hfindings : (builtFrom configuration catalogue).findings = [.duplicateTask "Ps"] := hseen
    have hfound : (builtFrom configuration catalogue).findings ≠ [] := by
      rw [hfindings]
      exact List.cons_ne_nil _ _
    have hhindered : Hindered troubledFiles ⟨some "off", 2000⟩
        { definitions := some "d", output := some "m.json", strict := true } _ :=
      .refused hconfigured hcatalogue rfl hfound
    have hsaid : refusal (builtFrom configuration catalogue) =
        "Generated model has 1 validation error(s)" := by
      unfold refusal
      rewrite [hfindings]
      decide +kernel
    obtain ⟨hruns, -, -⟩ := files_of_hindered hasks troubledFiles ⟨some "off", 2000⟩
    refine ⟨_, hasks, hhindered, ?_, (hruns _ hhindered).1⟩
    rewrite [noticesOn_off, hsaid]
    decide +kernel
  · have hasks : Asks ["generate", "--definitions", "e", "--output", "n/m.json"]
        (.generate { definitions := some "e", output := some "n/m.json" }) :=
      ⟨false, by decide +kernel⟩
    have hproper : troubledFiles.IsProper := by
      decide +kernel
    have hfails : described "command: [unterminated" =
        .error (.badStructure "did not find expected ','") := by
      decide +kernel
    obtain ⟨hruns, -, hdocuments⟩ := files_of_hindered hasks troubledFiles ⟨some "off", 2000⟩
    have hfound : FindsDocument troubledFiles "e" (bytes "b") (bytes "b.yaml")
        "command: [unterminated".toUTF8 := ⟨⟨by decide, [bytes "e"], rfl, rfl⟩, by decide⟩
    obtain ⟨message, hhindered⟩ := hdocuments _ hproper rfl
      (.inr ⟨bytes "b.yaml", _, _, ⟨bytes "b", hfound, by decide⟩, .malformed rfl hfails⟩)
    exact ⟨message, hasks, hproper, hhindered, (hruns _ hhindered).1⟩

end WrapperModel.CommandLine
