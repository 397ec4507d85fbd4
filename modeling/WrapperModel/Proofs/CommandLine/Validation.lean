import WrapperModel.Proofs.CommandLine.Generation
import WrapperModel.Proofs.Model.RoundTrip

/-!
# `WrapperModel.Proofs.CommandLine.Validation`: strict generations and examined files

A model can be refused when it is generated, or examined later in the file to which it was
written. The file gives the model back, so both find the same.

* `deliver_eq_ok_iff`, `exists_deliver`: when a text can be put into a file, and that this does
  not depend on the text.
* `run_validate_of_read`: a written model is examined as if it had never been written.
* `exists_configurationIn`, `findings_relicensed`: another year changes the license alone, and
  no finding is about the license.
* `exists_delivered`, `run_strictly_of_findings`, `exitCode_strictly_eq_zero_iff`: what a
  generation that succeeds has done, and how the strict one ends.
* `validate_agrees_with_strict`: the strict generation and the examination agree.
-/

set_option autoImplicit false

namespace WrapperModel.CommandLine

open WrapperModel.Definition (Catalogue exists_ok_of_map_toOption)
open WrapperModel.Files
open WrapperModel.Model (Tool OutputFormat)
open WrapperModel.Text (bytes joinWith)

variable {tree written : FileTree} {surroundings : Surroundings} {options : GenerateOptions}
  {configuration : Configuration} {catalogue : Catalogue} {path : String}

/-! ### Texts in files -/

/-- A text is put into a file by making the directory above (`withAbove`), where there is one, and
writing. -/
theorem deliver_eq_ok_iff {rendered : String} :
    (deliver path rendered : ExceptT String (StateM FileTree) Unit).run tree = (.ok (), written) ↔
      ∃ start, withAbove tree path = .ok start ∧
        start.write (bytes path) rendered.toUTF8 = .ok written := by
  rw [run_deliver]
  -- Delivering makes the directories above, then writes, and either step may fail.
  cases withAbove tree path with
  | error reason => exact iff_of_false (fun h => nomatch h) fun ⟨_, h, _⟩ => nomatch h
  | ok start =>
    simp only [Except.ok.injEq, exists_eq_left']
    cases start.write (bytes path) rendered.toUTF8 with
    | error reason => exact iff_of_false (fun h => nomatch h) fun h => nomatch h
    | ok changed =>
      constructor
      · intro h
        cases h
        rfl
      · intro h
        cases h
        rfl

/-- Where `deliver` can put a text into a file, it can put any other: neither step looks at the
text. -/
theorem exists_deliver {rendered : String}
    (h : (deliver path rendered : ExceptT String (StateM FileTree) Unit).run tree =
      (.ok (), written)) (other : String) :
    ∃ rewritten, (deliver path other : ExceptT String (StateM FileTree) Unit).run tree =
      (.ok (), rewritten) := by
  obtain ⟨start, habove, hwrite⟩ := deliver_eq_ok_iff.1 h
  obtain ⟨rewritten, hother⟩ := FileTree.exists_write hwrite other.toUTF8
  exact ⟨rewritten, deliver_eq_ok_iff.2 ⟨start, habove, hother⟩⟩

/-- The model in a file is read from its bytes, which leaves the tree as it is. A failure says
whether the reading or the parsing failed. -/
theorem run_modelIn (path : String) (tree : FileTree) :
    (modelIn path : ExceptT String (StateM FileTree) Tool).run tree =
      ((((tree.read (bytes path)).bind textOfBytes).mapError fun reason =>
        "Failed to read '" ++ path ++ "': " ++ reason.message).bind fun text =>
          (Tool.ofText text).mapError fun reason =>
            "Failed to parse '" ++ path ++ "': " ++ reason.message, tree) := by
  have hread : (liftM (FileStore.read (m := StateM FileTree) (bytes path)).run :
      ExceptT String (StateM FileTree) (Except FileError ByteArray)).run tree =
      (.ok (tree.read (bytes path)), tree) := rfl
  rw [modelIn, run_bind, hread]
  dsimp only
  cases (tree.read (bytes path)).bind textOfBytes with
  | error reason => rfl
  | ok text => rfl

/-- A file that holds a model in the data form is examined as the model itself, and stays. It needs
the model to be read back exactly, which `Tool.ofText_render_json` gives. -/
theorem run_validate_of_read {tool : Tool}
    (h : tree.read (bytes path) = .ok (tool.render .json).toUTF8) :
    (validate path : StateM FileTree Outcome).run tree = (examine path tool, tree) := by
  have htext : (tree.read (bytes path)).bind textOfBytes = .ok (tool.render .json) := by
    rw [h]
    exact textOfBytes_toUTF8 _
  -- What is read back from the written form is the tool itself, by the round trip.
  have htool : Tool.ofText (tool.render .json) = .ok tool := by
    have hvalue : Json.ofText? (tool.render .json) = some tool.toJson :=
      Json.ofText?_pretty (Tool.lawful.writable tool)
    rw [Tool.ofText, hvalue]
    exact Tool.lawful.decode_encode tool
  rw [validate, run_andThen, run_modelIn, htext]
  simp only [Except.mapError, Except.bind, htool]
  rfl

/-! ### Years -/

/-- What is said of a model that is not good enough depends on its findings alone, so a model with
another license is refused in the same words. -/
theorem refusal_congr {tool other : Tool} (h : tool.findings = other.findings) :
    refusal tool = refusal other := by
  unfold refusal
  rw [h]

/-- Another year can only give another license: `licensed` fills in the year where the profile gives
no license. -/
theorem licensed_eq (year : Nat) (profile : ToolProfile) (later : Nat) :
    licensed later profile =
      { licensed year profile with license := (licensed later profile).license } := by
  unfold licensed
  split <;> rfl

/-- A configuration with another license, which is all that another year can make of it
(`configurationIn`). -/
def relicensed (configuration : Configuration) (license : List String) : Configuration :=
  { configuration with tool := { configuration.tool with license } }

/-- A generation in another year has the same configuration but for the license (`relicensed`).
Whether there is a configuration does not depend on the year. -/
theorem exists_configurationIn {year : Nat}
    (h : configurationIn tree options year = .ok configuration) (later : Nat) :
    ∃ license, configurationIn tree options later =
      .ok (relicensed configuration license) := by
  unfold configurationIn at h ⊢
  cases hstart : startingIn tree options with
  | error message =>
    rw [hstart] at h
    cases h
  | ok start =>
    rw [hstart] at h
    cases h
    -- Another year leads to the same settings with another text of the license.
    refine ⟨(licensed later (options.over start).tool).license, ?_⟩
    exact congrArg (fun tool => Except.ok { options.over start with tool })
      (licensed_eq year (options.over start).tool later)

/-- The definitions do not depend on the license, since `catalogueIn` looks at the settings for
definitions alone. -/
theorem catalogueIn_relicensed (license : List String) :
    catalogueIn tree (relicensed configuration license) = catalogueIn tree configuration :=
  rfl

/-- No finding is about the license, so a model (`builtFrom`) is as good in one year as in
another. -/
theorem findings_relicensed (license : List String) :
    (builtFrom (relicensed configuration license) catalogue).findings =
      (builtFrom configuration catalogue).findings :=
  rfl

/-- No warning is about the license, so `noticesOn` gives the same ones in every year. -/
theorem noticesOn_relicensed (license : List String) :
    noticesOn surroundings (relicensed configuration license) catalogue =
      noticesOn surroundings configuration catalogue :=
  rfl

/-! ### A generation and what follows it -/

/-- A generation that succeeds for a file was not hindered, and has put its model into the file. Its
error stream holds the warnings and nothing else. -/
theorem exists_delivered {format : OutputFormat} {outcome : Outcome}
    (hconfigured : configurationIn tree options surroundings.year = .ok configuration)
    (houtput : configuration.output = ⟨some path, format⟩)
    (hrun : (generate surroundings options : StateM FileTree Outcome).run tree =
      (outcome, written))
    (hsucceeded : outcome.exitCode = 0) :
    ∃ catalogue, catalogueIn tree configuration = .ok catalogue ∧
      (deliver path ((builtFrom configuration catalogue).render format) :
        ExceptT String (StateM FileTree) Unit).run tree = (.ok (), written) ∧
      outcome.stderr = noticesOn surroundings configuration catalogue := by
  -- a hindered generation would have failed, and so would one that is not delivered
  rcases hindered_or_unhindered tree surroundings options with ⟨failed, hhindered⟩ |
    ⟨other, catalogue, hunhindered⟩
  · rw [hhindered.run_generate] at hrun
    cases hrun
    have hfailed := hhindered.exitCode_stdout.1
    omega
  · obtain rfl : other = configuration :=
      Except.ok.inj (hunhindered.configured.symm.trans hconfigured)
    rw [hunhindered.run_generate, houtput] at hrun
    cases hfits : (builtFrom other catalogue).fits format with
    | false =>
      rw [run_giveOut_of_not_fits hfits] at hrun
      cases hrun
      cases hsucceeded
    | true =>
      rw [run_giveOut_file hfits] at hrun
      cases hdelivered : (deliver path ((builtFrom other catalogue).render format) :
          ExceptT String (StateM FileTree) Unit).run tree with
      | mk result changed =>
        rw [hdelivered] at hrun
        cases result with
        | error message =>
          cases hrun
          cases hsucceeded
        | ok done =>
          cases hrun
          exact ⟨catalogue, hunhindered.loaded, hdelivered, String.append_empty⟩

/-- Where any text can be put into its file, a generation that is not hindered succeeds in the data
form, into which every model fits. In the form of an overview it might break off. -/
theorem Unhindered.exitCode_eq_zero {rendered : String}
    (h : Unhindered tree surroundings options configuration catalogue)
    (houtput : configuration.output = ⟨some path, .json⟩)
    (hdelivered : (deliver path rendered : ExceptT String (StateM FileTree) Unit).run tree =
      (.ok (), written)) :
    ((generate surroundings options : StateM FileTree Outcome).run tree).1.exitCode = 0 := by
  obtain ⟨rewritten, hother⟩ := exists_deliver hdelivered
    ((builtFrom configuration catalogue).render .json)
  rw [h.run_generate, houtput, run_giveOut_file rfl, hother]
  rfl

/-- A strict generation fails with the number of its findings (`refusal`), where there are any,
whichever year it is. -/
theorem run_strictly_of_findings {year : Nat}
    (hconfigured : configurationIn tree options year = .ok configuration)
    (hloaded : catalogueIn tree configuration = .ok catalogue)
    (hfound : (builtFrom configuration catalogue).findings ≠ []) :
    (generate surroundings options.strictly : StateM FileTree Outcome).run tree =
      ((Outcome.failure (refusal (builtFrom configuration catalogue))).after
        (noticesOn surroundings configuration catalogue), tree) := by
  obtain ⟨license, hlater⟩ := exists_configurationIn hconfigured surroundings.year
  rw [← catalogueIn_relicensed license] at hloaded
  rw [← findings_relicensed license] at hfound
  have hhindered : Hindered tree surroundings options.strictly _ :=
    .refused hlater hloaded rfl hfound
  rw [hhindered.run_generate, refusal_congr (findings_relicensed license),
    noticesOn_relicensed license]

/-- Where any text can be put into its file, a strict generation succeeds in the data form if and
only if there are no findings. -/
theorem exitCode_strictly_eq_zero_iff {year : Nat} {rendered : String}
    (hconfigured : configurationIn tree options year = .ok configuration)
    (houtput : configuration.output = ⟨some path, .json⟩)
    (hloaded : catalogueIn tree configuration = .ok catalogue)
    (hdelivered : (deliver path rendered : ExceptT String (StateM FileTree) Unit).run tree =
      (.ok (), written)) :
    ((generate surroundings options.strictly :
      StateM FileTree Outcome).run tree).1.exitCode = 0 ↔
        (builtFrom configuration catalogue).findings = [] := by
  constructor
  · intro hzero
    by_contra hfound
    rw [run_strictly_of_findings hconfigured hloaded hfound] at hzero
    cases hzero
  · intro hnone
    -- The year may differ between the two runs, which no document and no finding depends on.
    obtain ⟨license, hlater⟩ := exists_configurationIn hconfigured surroundings.year
    rw [← catalogueIn_relicensed license] at hloaded
    rw [← findings_relicensed license] at hnone
    have hunhindered : Unhindered tree surroundings options.strictly
        (relicensed configuration license) catalogue := ⟨hlater, hloaded, fun _ => hnone⟩
    exact hunhindered.exitCode_eq_zero houtput hdelivered

/-- A model passes an examination if and only if it has no findings: an examination looks at nothing
else. -/
theorem exitCode_examine_eq_zero_iff {tool : Tool} :
    (examine path tool).exitCode = 0 ↔ tool.findings = [] := by
  unfold examine
  cases tool.findings <;> simp [Outcome.after, Outcome.failure]

/-- `examine` fails on a model with findings: it shows all of them, in their order, and gives their
number in its error. -/
theorem examine_of_findings {tool : Tool} (h : tool.findings ≠ []) :
    examine path tool =
      (Outcome.failure
        ("'" ++ path ++ "' has " ++ toString tool.findings.length ++ " validation error(s)")).after
        (joinWith "" (tool.findings.map fun finding => "  " ++ finding.message ++ "\n")) := by
  have hsome : tool.findings.isEmpty = false := by simpa using h
  rw [examine, hsome, if_neg Bool.false_ne_true]

/-- Generations and examinations agree. Take a generation that is not strict and succeeds in writing
its model into a file in the data form (`houtput`), the only form that an examination reads. Then
the file can be examined, and the model passes if and only if the strict generation (`withStrict`)
succeeds on the files as they were before, with all other arguments the same, whatever the log is
set to and whichever year it is.

Where they fail, both say how many `findings` the model has, and the examination shows the findings
of the generation in their order. The two sets of arguments are any that `Asks` takes for these two
runs, and each has `Surroundings` of its own. -/
theorem validate_agrees_with_strict {arguments : List String} {outcome : Outcome}
    (hasks : Asks arguments (.generate options)) (hlenient : options.strict = false)
    (hrun : runOn tree surroundings arguments = (outcome, written))
    (hsucceeded : outcome.exitCode = 0)
    (hconfigured : configurationIn tree options surroundings.year = .ok configuration)
    (houtput : configuration.output = ⟨some path, .json⟩) :
    Asks (withStrict arguments) (.generate options.strictly) ∧
    Asks ["validate", "--", path] (.validate path) ∧
    ∃ catalogue, catalogueIn tree configuration = .ok catalogue ∧
      outcome.stderr = noticesOn surroundings configuration catalogue ∧
      ∀ generating examining, Asks generating (.generate options.strictly) →
        Asks examining (.validate path) → ∀ later last : Surroundings,
        let found := (builtFrom configuration catalogue).findings
        let strict := (runOn tree later generating).1
        let examined := (runOn written last examining).1
        (examined.exitCode = 0 ↔ strict.exitCode = 0) ∧
        (strict.exitCode = 0 ↔ found = []) ∧
        (found ≠ [] →
          strict = (Outcome.failure
            ("Generated model has " ++ toString found.length ++ " validation error(s)")).after
              (noticesOn later configuration catalogue) ∧
          examined = (Outcome.failure
            ("'" ++ path ++ "' has " ++ toString found.length ++ " validation error(s)")).after
              (joinWith "" (found.map fun finding => "  " ++ finding.message ++ "\n"))) := by
  rw [runOn_of_asks hasks] at hrun
  obtain ⟨catalogue, hloaded, hdelivered, hshown⟩ :=
    exists_delivered hconfigured houtput hrun hsucceeded
  obtain ⟨start, habove, hwrite⟩ := deliver_eq_ok_iff.1 hdelivered
  have hpath : path ≠ "" := by
    rintro rfl
    exact FileTree.ne_nil_of_write hwrite rfl
  refine ⟨asks_withStrict hasks hlenient, asks_validate hpath,
    catalogue, hloaded, hshown, ?_⟩
  intro generating examining hgenerating hexamining later last found strict examined
  -- The file gives back the model, so the examination looks at what was generated.
  have hexamined : examined = examine path (builtFrom configuration catalogue) := by
    have hvalidate := run_validate_of_read (FileTree.read_write hwrite)
    exact (congrArg Prod.fst (runOn_of_asks hexamining written last)).trans
      (congrArg Prod.fst hvalidate)
  have hstrict : strict = ((generate later options.strictly :
      StateM FileTree Outcome).run tree).1 :=
    congrArg Prod.fst (runOn_of_asks hgenerating tree later)
  -- The strict generation starts from the old files and comes to the same findings. Where there
  -- are none, its file can be written as the first one was.
  have hpasses : strict.exitCode = 0 ↔ found = [] := by
    rw [hstrict]
    exact exitCode_strictly_eq_zero_iff hconfigured houtput hloaded hdelivered
  refine ⟨?_, hpasses, fun hfound => ⟨?_, ?_⟩⟩
  · rw [hexamined, exitCode_examine_eq_zero_iff, hpasses]
  · rw [hstrict, run_strictly_of_findings hconfigured hloaded hfound]
    rfl
  · rw [hexamined, examine_of_findings hfound]

/-- A model with two tasks of one name is written nevertheless. In a later year it passes neither a
strict generation nor an examination. The files are `troubledFiles`. -/
theorem validate_troubledFiles :
    ∃ outcome written,
      runOn troubledFiles ⟨none, 2000⟩ ["generate", "--definitions", "d", "--output", "m.json"] =
        (outcome, written) ∧
      outcome.exitCode = 0 ∧
      (runOn troubledFiles ⟨some "off", 2001⟩
        ["generate", "--strict", "--definitions", "d", "--output", "m.json"]).1 =
        { exitCode := 1, stderr := "error: Generated model has 1 validation error(s)\n" } ∧
      (runOn written ⟨none, 2001⟩ ["validate", "m.json"]).1 =
        { exitCode := 1,
          stderr := "  duplicate task: Ps\nerror: 'm.json' has 1 validation error(s)\n" } := by
  have hasks : Asks ["generate", "--definitions", "d", "--output", "m.json"]
      (.generate { definitions := some "d", output := some "m.json" }) :=
    ⟨false, by decide +kernel⟩
  have hexamining : Asks ["validate", "m.json"] (.validate "m.json") :=
    ⟨false, by decide +kernel⟩
  obtain ⟨configuration, hconfigured, hread⟩ :=
    exists_ok_of_map_toOption (seen_troubledFiles false)
  obtain ⟨houtput, hloads⟩ := Prod.mk.inj hread
  -- The generation succeeds because it is not strict and its file can be written.
  have hsucceeded : (runOn troubledFiles ⟨none, 2000⟩
      ["generate", "--definitions", "d", "--output", "m.json"]).1.exitCode = 0 := by
    obtain ⟨catalogue, hcatalogue, -⟩ := exists_ok_of_map_toOption hloads
    have hunhindered : Unhindered troubledFiles ⟨none, 2000⟩
        { definitions := some "d", output := some "m.json" } configuration catalogue :=
      ⟨hconfigured, hcatalogue, fun hstrict => nomatch hstrict⟩
    have hdelivered : (deliver "m.json" "" : ExceptT String (StateM FileTree) Unit).run
        troubledFiles = (.ok (), troubledFiles.put [bytes "m.json"] (.file "".toUTF8)) :=
      deliver_eq_ok_iff.2 ⟨troubledFiles, if_pos (by decide +kernel), rfl⟩
    rw [runOn_of_asks hasks]
    exact hunhindered.exitCode_eq_zero houtput hdelivered
  cases hrun : runOn troubledFiles ⟨none, 2000⟩
      ["generate", "--definitions", "d", "--output", "m.json"] with
  | mk outcome written =>
    rw [hrun] at hsucceeded
    obtain ⟨hstrict, -, catalogue, hloaded, -, hagree⟩ :=
      validate_agrees_with_strict hasks rfl hrun hsucceeded hconfigured houtput
    rw [hloaded] at hloads
    have hfindings : (builtFrom configuration catalogue).findings = [.duplicateTask "Ps"] :=
      Option.some.inj hloads
    have hfound : (builtFrom configuration catalogue).findings ≠ [] := by
      rw [hfindings]
      exact List.cons_ne_nil _ _
    obtain ⟨-, -, hfails⟩ := hagree _ _ hstrict hexamining ⟨some "off", 2001⟩ ⟨none, 2001⟩
    obtain ⟨hrefused, hexamined⟩ := hfails hfound
    rw [hfindings] at hrefused hexamined
    rw [noticesOn_off] at hrefused
    exact ⟨outcome, written, rfl, hsucceeded, hrefused.trans (by decide +kernel),
      hexamined.trans (by decide +kernel)⟩

end WrapperModel.CommandLine
