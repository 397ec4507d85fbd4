import WrapperModel.Proofs.Assembly.Contributions

/-!
# `WrapperModel.Proofs.Assembly.CommandWords`: the command in front of a usage template

A usage template begins with the program and the words of the command, and goes on with
placeholders. The literal words are what the definite argument is made of, and the program is left
out of them.

* `literals_together_eq_nil`: placeholders and the program give no literal words.
* `definiteArgument_of_usage`: the definite argument is the words of the command.
* `exists_ofTemplate_program`: the program in front of a template is an item of its own.
* `commandModel?_program_iff`: the program makes no difference, if it is not written as a
  placeholder. Else it becomes a property of the task, in front of all others.
-/

set_option autoImplicit false

namespace WrapperModel.Assembly

open WrapperModel.Text WrapperModel.Model WrapperModel.Naming WrapperModel.Usage
open WrapperModel.Definition (OptionDefinition CommandDefinition)

/-! ### Literal words -/

/-- Only an item that is neither a placeholder nor the program gives a literal word. It is the one
fact about `contribution` that the words of a command rest on. -/
theorem literals_contribution (profile : ToolProfile) (d : CommandDefinition) (p : Parameter) :
    (contribution profile d p).literals =
      if p.isArgument = true ∨ p.raw = profile.executable then [] else [p.raw] := by
  rcases contribution_cases profile d p with ⟨hargument, heq⟩ | ⟨hargument, -, heq⟩ |
    ⟨hargument, -, heq⟩
  · simp [heq, hargument]
  · rw [heq, if_pos (.inl hargument)]
    rfl
  · rw [heq, if_pos (.inl hargument)]

/-- Placeholders and the program give no literal words, however many there are. So the placeholders
behind the words of a command add nothing to its definite argument. -/
theorem literals_together_eq_nil {profile : ToolProfile} {items : List Parameter}
    (d : CommandDefinition)
    (h : ∀ p ∈ items, p.isArgument = true ∨ p.raw = profile.executable) :
    (together profile d items).literals = [] := by
  show items.flatMap _ = []
  rw [List.flatMap_eq_nil_iff]
  intro p hp
  rw [literals_contribution, if_pos (h p hp)]

/-- Literal words other than the program give themselves, in their order: each is an item of its
own, and no word among them is merged or dropped. -/
theorem literals_together_words {profile : ToolProfile} {literals : List String}
    (d : CommandDefinition)
    (h : ∀ word ∈ literals, isPlaceholderToken word = false ∧ word ≠ profile.executable) :
    (together profile d (literals.map fun word => ⟨word, false, false⟩)).literals = literals := by
  induction literals with
  | nil => rfl
  | cons word rest ih =>
    obtain ⟨⟨hword, hprogram⟩, hrest⟩ := List.forall_mem_cons.1 h
    have hgiven : (contribution profile d ⟨word, false, false⟩).literals = [word] := by
      rw [literals_contribution, isArgument_literal hword, if_neg (by simpa using hprogram)]
    rw [List.map_cons, together_cons, literals_append, hgiven, ih hrest, List.singleton_append]

/-- The literal words of a usage template make up the command. Take a template that is the program,
then literal words other than the program, then tokens that are written as placeholders
(`isPlaceholderToken`), such that the last word is neither closed up with the first placeholder nor
`repeated` by it (`hcut`). Then the command has a model, and the definite argument of its task is
these words, joined by spaces. The other placeholders need no condition: whatever they are joined
with stays an argument. -/
theorem definiteArgument_of_usage {profile : ToolProfile} {d : CommandDefinition}
    {literals placeholders : List String}
    (husage : words d.usage = profile.executable :: (literals ++ placeholders))
    (hliterals : ∀ word ∈ literals, isPlaceholderToken word = false ∧ word ≠ profile.executable)
    (hplaceholders : ∀ token ∈ placeholders, isPlaceholderToken token = true)
    (hcut : ∀ word ∈ literals.getLast?, ∀ token ∈ placeholders.head?,
      token ≠ "|" ∧ token ≠ repeated word)
    (htask : taskPostfix profile.executable d.command ≠ "") :
    ∃ model, commandModel? profile d = some model ∧
      model.task.definiteArgument = joinWith " " literals := by
  have hrest : ∀ p ∈ parameters placeholders, p.isArgument = true ∨ p.raw = profile.executable := by
    apply isArgument_or_of_forall
    intro token htoken
    exact .inl (hplaceholders token htoken)
  have hgiven : (together profile d (ofTemplate d.usage)).literals = literals := by
    rw [ofTemplate, husage]
    cases literals with
    | nil =>
      -- The program may be closed up with the placeholders, but no literal word comes of it.
      apply literals_together_eq_nil d
      apply isArgument_or_of_forall
      intro token htoken
      rcases List.mem_cons.1 htoken with rfl | htoken
      · exact .inr rfl
      · exact .inl (hplaceholders token htoken)
    | cons first more =>
      -- The program stands in front of a literal word, so nothing is taken into its item.
      have hwords : ∀ word ∈ first :: more, isPlaceholderToken word = false := by
        intro word hword
        exact (hliterals word hword).1
      obtain ⟨hbar, hrepetition⟩ :=
        ne_of_isPlaceholderToken_eq_false (hwords first List.mem_cons_self)
      obtain ⟨p, hp, -, hitem⟩ := exists_parameters_singleton profile.executable
      have hprogram : (contribution profile d p).literals = [] := by
        rw [literals_contribution, if_pos (.inr hp)]
      rw [List.cons_append, parameters_cons_of_not_isRepetition _ _ hbar hrepetition, hitem,
        List.singleton_append, ← List.cons_append, parameters_literals hwords hcut,
        together_cons, together_append, literals_append, literals_append, hprogram,
        literals_together_words d hliterals, literals_together_eq_nil d hrest]
      simp
  exact ⟨_, commandModel?_eq htask, congrArg (joinWith " ") hgiven⟩

/-- A command with a spaced alternation, a list and a map among its placeholders, all behind two
literal words. -/
def imageImport : CommandDefinition :=
  CommandDefinition.ofUsage "docker image import"
    "docker image  import [OPTIONS] PATH | URL [URL...] KEY=VALUE [KEY=VALUE...]"

/-- None of the placeholders of `imageImport` is kept as a literal word, though several are taken
into the items in front of them. -/
theorem definiteArgument_imageImport :
    (words imageImport.usage = "docker" :: (["image", "import"] ++
        ["[OPTIONS]", "PATH", "|", "URL", "[URL...]", "KEY=VALUE", "[KEY=VALUE...]"]) ∧
      (∀ word ∈ ["image", "import"], isPlaceholderToken word = false ∧ word ≠ "docker") ∧
      (∀ token ∈ ["[OPTIONS]", "PATH", "|", "URL", "[URL...]", "KEY=VALUE", "[KEY=VALUE...]"],
        isPlaceholderToken token = true) ∧
      (∀ word ∈ ["image", "import"].getLast?, ∀ token ∈ ["[OPTIONS]"].head?,
        token ≠ "|" ∧ token ≠ repeated word) ∧
      taskPostfix "docker" imageImport.command ≠ "") ∧
    ∃ model, commandModel? {} imageImport = some model ∧
      model.task.definiteArgument = "image import" := by
  have husage : words imageImport.usage = "docker" :: (["image", "import"] ++
      ["[OPTIONS]", "PATH", "|", "URL", "[URL...]", "KEY=VALUE", "[KEY=VALUE...]"]) := by
    decide +kernel
  have hliterals : ∀ word ∈ ["image", "import"],
      isPlaceholderToken word = false ∧ word ≠ "docker" := by decide +kernel
  have hplaceholders : ∀ token ∈
      ["[OPTIONS]", "PATH", "|", "URL", "[URL...]", "KEY=VALUE", "[KEY=VALUE...]"],
      isPlaceholderToken token = true := by decide +kernel
  have hcut : ∀ word ∈ ["image", "import"].getLast?, ∀ token ∈ ["[OPTIONS]"].head?,
      token ≠ "|" ∧ token ≠ repeated word := by decide +kernel
  have htask : taskPostfix "docker" imageImport.command ≠ "" := by decide +kernel
  refine ⟨⟨husage, hliterals, hplaceholders, hcut, htask⟩, ?_⟩
  exact definiteArgument_of_usage husage hliterals hplaceholders hcut htask

/-! ### The program -/

/-- The program in front of a template is an item of its own, if the template does not go on with a
bar or the end of a repetition. Either of the two would be taken into the item of the program. -/
theorem exists_ofTemplate_program {program usage rest : String}
    (husage : words usage = program :: words rest)
    (hrest : ∀ token ∈ (words rest).head?, token ≠ "|" ∧ endsWith "...]" token = false) :
    ∃ p, p.raw = program ∧ p.isArgument = isPlaceholderToken program ∧
      ofTemplate usage = p :: ofTemplate rest := by
  obtain ⟨p, hraw, hargument, hitem⟩ := exists_parameters_singleton program
  refine ⟨p, hraw, hargument, ?_⟩
  unfold ofTemplate
  rw [husage]
  -- The program is an item alone whether or not a word follows, since that word is neither a bar
  -- nor a repetition.
  cases hwords : words rest with
  | nil => rw [hitem, parameters]
  | cons next more =>
    rw [hwords] at hrest
    obtain ⟨hbar, hends⟩ := hrest next rfl
    have hrepetition : isRepetition next.toList = false := by
      rw [isRepetition, Bool.and_eq_false_iff]
      exact .inr hends
    rw [parameters_cons_of_not_isRepetition _ _ hbar hrepetition, hitem, List.singleton_append]

/-- With another usage template the model of a command is `assembled` from what that contributes.
The task name does not depend on the template, so the condition is on the command alone. -/
theorem commandModel?_withUsage (profile : ToolProfile) (d : CommandDefinition) (usage : String)
    (htask : taskPostfix profile.executable d.command ≠ "") :
    commandModel? profile { d with usage } =
      some (assembled profile d (together profile d (ofTemplate usage))) := by
  have htask' : taskPostfix profile.executable { d with usage }.command ≠ "" := htask
  exact commandModel?_eq htask'

/-- As a literal word, the program contributes nothing. As a placeholder it would contribute a
property, which is the other half of `commandModel?_program_iff`. -/
theorem contribution_of_program {profile : ToolProfile} {p : Parameter} (d : CommandDefinition)
    (hprogram : p.raw = profile.executable) (hargument : p.isArgument = false) :
    contribution profile d p = {} := by
  simp [contribution, hargument, hprogram]

/-- The program in front of a usage template makes no difference to the `commandModel?` of a command
that has one, exactly if it is not written as a placeholder (`isPlaceholderToken`). Else it is a
property of the task, in front of all others, and nothing else changes. The template must not go on
with a bar or the end of a repetition, which could join the program
(`exists_ofTemplate_program`), and the program must not be the options marker, which stands for
other properties. -/
theorem commandModel?_program_iff {profile : ToolProfile} {d : CommandDefinition} {rest : String}
    (hmarker : profile.executable ≠ profile.optionsMarker)
    (husage : words d.usage = profile.executable :: words rest)
    (hrest : ∀ token ∈ (words rest).head?, token ≠ "|" ∧ endsWith "...]" token = false) :
    (commandModel? profile d = commandModel? profile { d with usage := rest } ↔
      isPlaceholderToken profile.executable = false ∨
        taskPostfix profile.executable d.command = "") ∧
    (isPlaceholderToken profile.executable = true →
      taskPostfix profile.executable d.command ≠ "" →
      ∃ p, p.raw = profile.executable ∧ ofTemplate d.usage = p :: ofTemplate rest ∧
        commandModel? profile { d with usage := rest } =
          some (assembled profile d (together profile d (ofTemplate rest))) ∧
        commandModel? profile d = some (assembled profile d
          ({ properties := [placeholderProperty profile d p] } ++
            together profile d (ofTemplate rest)))) := by
  obtain ⟨p, hraw, hargument, hitems⟩ := exists_ofTemplate_program husage hrest
  have hwithout := commandModel?_withUsage profile d rest
  have hwith : taskPostfix profile.executable d.command ≠ "" →
      commandModel? profile d = some (assembled profile d
        (contribution profile d p ++ together profile d (ofTemplate rest))) := by
    intro htask
    rw [commandModel?_eq htask, hitems, together_cons]
  cases hwritten : isPlaceholderToken profile.executable with
  | false =>
    rw [hwritten] at hargument
    refine ⟨iff_of_true ?_ (.inl rfl), fun h => absurd h Bool.false_ne_true⟩
    -- Both commands have a model or none, and the first item adds nothing to it.
    by_cases htask : taskPostfix profile.executable d.command = ""
    · rw [commandModel?_eq_none_iff.2 htask, eq_comm, commandModel?_eq_none_iff]
      exact htask
    · rw [hwith htask, hwithout htask, contribution_of_program d hraw hargument]
      rfl
  | true =>
    rw [hwritten] at hargument
    -- A program that is written like a placeholder contributes a property of its own.
    have hgiven := contribution_of_ne_marker d hargument (hraw ▸ hmarker)
    rw [hgiven] at hwith
    refine ⟨⟨fun hsame => .inr ?_, ?_⟩,
      fun _ htask => ⟨p, hraw, hitems, hwithout htask, hwith htask⟩⟩
    · -- One of the models has a property more than the other.
      by_contra htask
      rw [hwith htask, hwithout htask, Option.some.injEq] at hsame
      have hlength := congrArg (fun model => model.task.settingsClass.properties.length) hsame
      simp [assembled] at hlength
    · rintro (h | htask)
      · exact absurd h.symm Bool.false_ne_true
      · rw [commandModel?_eq_none_iff.2 htask, eq_comm, commandModel?_eq_none_iff]
        exact htask

/-- A tool whose name is a capital, so that `isPlaceholderToken` takes it for a placeholder. -/
def rTool : ToolProfile :=
  { name := "R", executable := "R", optionsMarker := "[options]" }

/-- A command of `rTool`, documented with the program in front, as such tools document
themselves. -/
def rBuild : CommandDefinition :=
  CommandDefinition.ofUsage "R build" "R build [options] PACKAGE"

/-- The program `R` becomes a property of the task, and the program `podman` makes no difference.
The two sides of the equivalence are met by one tool each. -/
theorem commandModel?_program_rBuild :
    (rTool.executable ≠ rTool.optionsMarker ∧
      words rBuild.usage = rTool.executable :: words "build [options] PACKAGE" ∧
      (∀ token ∈ (words "build [options] PACKAGE").head?,
        token ≠ "|" ∧ endsWith "...]" token = false) ∧
      isPlaceholderToken rTool.executable = true ∧
      taskPostfix rTool.executable rBuild.command ≠ "") ∧
    (∃ p, p.raw = "R" ∧ commandModel? rTool rBuild = some (assembled rTool rBuild
      ({ properties := [placeholderProperty rTool rBuild p] } ++
        together rTool rBuild (ofTemplate "build [options] PACKAGE")))) ∧
    commandModel? podman podmanRm =
      commandModel? podman { podmanRm with usage := "rm [OPTION]... CONTAINER" } := by
  have hmarker : rTool.executable ≠ rTool.optionsMarker := by decide
  have husage : words rBuild.usage = rTool.executable :: words "build [options] PACKAGE" := by
    decide +kernel
  have hrest : ∀ token ∈ (words "build [options] PACKAGE").head?,
      token ≠ "|" ∧ endsWith "...]" token = false := by decide +kernel
  have hwritten : isPlaceholderToken rTool.executable = true := by decide +kernel
  have htask : taskPostfix rTool.executable rBuild.command ≠ "" := by decide +kernel
  refine ⟨⟨hmarker, husage, hrest, hwritten, htask⟩, ?_, ?_⟩
  · obtain ⟨p, hraw, -, -, hmodel⟩ :=
      (commandModel?_program_iff hmarker husage hrest).2 hwritten htask
    exact ⟨p, hraw, hmodel⟩
  · -- The other program is written like a literal word, so leaving it out changes nothing.
    exact (commandModel?_program_iff (by decide) (by decide +kernel) (by decide +kernel)).1.2
      (.inl (by decide +kernel))

/-- Without the program in front, the command `rBuild` has another model, though its program is no
options marker and nothing joins it. -/
theorem commandModel?_rBuild_ne :
    (rTool.executable ≠ "|" ∧ rTool.executable ≠ rTool.optionsMarker ∧
      words rBuild.usage = rTool.executable :: words "build [options] PACKAGE" ∧
      ∀ token ∈ (words "build [options] PACKAGE").head?,
        token ≠ "|" ∧ endsWith "...]" token = false) ∧
    commandModel? rTool rBuild ≠
      commandModel? rTool { rBuild with usage := "build [options] PACKAGE" } ∧
    (commandModel? rTool rBuild).map (fun model =>
        model.task.settingsClass.properties.map (·.name)) = some ["R", "Package"] := by
  decide +kernel

end WrapperModel.Assembly
