import WrapperModel.CommandLine.Run
import WrapperModel.Files.Tree

/-!
# `WrapperModel.Proofs.CommandLine.Invocation`: lines of arguments and what they ask for

Many lines of arguments make the same request. `Asks` says that a line makes a request, with a
chatty log or without, and a run depends on the request alone (`runOn_of_asks`).

* `add_strictly`, `readGiven_strictly`: the other options of a generation are read alike
  whether it is strict from the start or not, first one of them and then all.
* `asks_withStrict`: so the flag for a strict generation can be put behind the name of the
  command, and asks for the same generation else.
* `asks_validate`: any path that is not empty can be asked to be examined.
-/

set_option autoImplicit false

namespace WrapperModel.CommandLine

open WrapperModel.Files (FileTree)

/-- The line of arguments makes the request, with a chatty log or without. A line makes one request
at most, as `Invocation.ofArguments` is a function. -/
def Asks (arguments : List String) (request : Request) : Prop :=
  ∃ debug, Invocation.ofArguments arguments = .ok ⟨debug, request⟩

/-- A run of the program on a tree of files, with what it gives out and the tree that it leaves. It
is `run` in the state of the tree. -/
def runOn (tree : FileTree) (surroundings : Surroundings) (arguments : List String) :
    Outcome × FileTree :=
  (run surroundings arguments : StateM FileTree Outcome).run tree

/-- A run carries out what the arguments ask for. All lines that make one request (`Asks`) are the
same to it. -/
theorem runOn_of_asks {arguments : List String} {request : Request} (h : Asks arguments request)
    (tree : FileTree) (surroundings : Surroundings) :
    runOn tree surroundings arguments =
      (perform surroundings request : StateM FileTree Outcome).run tree := by
  obtain ⟨debug, h⟩ := h
  rw [runOn, run, h]

/-- What is made of the value of a step was made of a value that the step gave. The readers of
arguments are chains of such steps. -/
theorem exists_of_bind_eq_ok {ε α β : Type} {first : Except ε α} {next : α → Except ε β}
    {value : β} (h : first >>= next = .ok value) :
    ∃ middle, first = .ok middle ∧ next middle = .ok value := by
  cases first with
  | error reason => cases h
  | ok middle => exact ⟨middle, rfl, h⟩

/-! ### The flag for a strict generation -/

/-- The options of a strict generation that are the same else, whatever they said of strictness. -/
def GenerateOptions.strictly (options : GenerateOptions) : GenerateOptions :=
  { options with strict := true }

/-- Where an option leaves a generation that is not strict, it was not strict before, and the option
is read alike for the strict one. Only the flag itself asks about strictness, and it would make the
generation strict. -/
theorem add_strictly {options next : GenerateOptions} {given : Given}
    (h : options.add given = .ok next) (hlenient : next.strict = false) :
    options.strict = false ∧ options.strictly.add given = .ok next.strictly := by
  unfold GenerateOptions.add at h ⊢
  split at h
  -- The options that hold a path or a form, which is looked at first.
  case h_1 | h_2 | h_3 | h_6 =>
    obtain ⟨accepted, haccepted, h⟩ := exists_of_bind_eq_ok h
    obtain ⟨only, honly, h⟩ := exists_of_bind_eq_ok h
    cases h
    refine ⟨hlenient, ?_⟩
    simp only [haccepted, honly, GenerateOptions.strictly, bind, Except.bind, pure, Except.pure]
  -- The options that hold any text.
  case h_4 | h_5 =>
    obtain ⟨only, honly, h⟩ := exists_of_bind_eq_ok h
    cases h
    refine ⟨hlenient, ?_⟩
    simp only [honly, GenerateOptions.strictly, bind, Except.bind, pure, Except.pure]
  case h_7 =>
    split at h
    · cases h
    · -- Given as itself, the strict option leaves a strict result, which is excluded.
      cases h
      cases hlenient
  case h_8 | h_9 | h_10 => cases h
  case h_11 =>
    cases h
    exact ⟨hlenient, rfl⟩

/-- What is neither a request for help nor the flag for a chatty log is for the command to read, by
its own `step`. -/
theorem readGiven_cons {α : Type} {step : α → Given → Except ArgumentError α} {result : α}
    {debug : Bool} {given : Given} {rest : List Given} (hhelp : given ≠ .help)
    (hdebug : given ≠ .flag "debug") :
    readGiven step result debug (given :: rest) =
      step result given >>= fun next => readGiven step next debug rest := by
  rw [readGiven]
  · exact hhelp
  · exact hdebug

/-- Options that leave a generation that is not strict are read alike for the strict one, by
`add_strictly` for each of them. -/
theorem readGiven_strictly {options : GenerateOptions} {debug : Bool} {given : List Given}
    {progress : Progress GenerateOptions}
    (h : readGiven GenerateOptions.add options debug given = .ok progress)
    (hlenient : progress.result.strict = false) :
    options.strict = false ∧
      readGiven GenerateOptions.add options.strictly debug given =
        .ok { progress with result := progress.result.strictly } := by
  induction given generalizing options debug with
  | nil =>
    cases h
    exact ⟨hlenient, rfl⟩
  | cons first rest ih =>
    -- Help ends the reading and the debug option is counted apart, so neither is added.
    by_cases hhelp : first = .help
    · subst hhelp
      cases h
      exact ⟨hlenient, rfl⟩
    · by_cases hdebug : first = .flag "debug"
      · subst hdebug
        rw [readGiven] at h ⊢
        cases debug with
        | true => cases h
        | false => exact ih h
      · rw [readGiven_cons hhelp hdebug] at h ⊢
        obtain ⟨next, hnext, h⟩ := exists_of_bind_eq_ok h
        -- That the end is not strict goes back through the rest to the first option.
        obtain ⟨hbefore, hrest⟩ := ih h
        obtain ⟨hstart, hfirst⟩ := add_strictly hnext hbefore
        rw [hfirst]
        exact ⟨hstart, hrest⟩

/-- The flag in front of other arguments is one more argument of `Given.ofArguments`. It takes no
value, so what stands behind it is sorted as before. -/
theorem ofArguments_strict (options : List String) {flags : List String}
    (h : "strict" ∈ flags) (rest : List String) :
    Given.ofArguments options flags ("--strict" :: rest) =
      (Given.ofArguments options flags rest).map (.flag "strict" :: ·) := by
  have hlong : longOption? "--strict" = some ("strict", none) := by decide
  have hhelp : asksHelp "--strict" = false := by decide
  rw [Given.ofArguments]
  simp only [hlong, hhelp, List.contains_eq_mem, h, decide_true, if_true, Option.isSome_none,
    Bool.false_eq_true, if_false, show "--strict" ≠ "--" by decide]
  cases Given.ofArguments options flags rest <;> rfl

/-- Arguments that ask for a generation ask for the strict one behind the flag. The generation must
not be strict already, or the flag would be repeated. -/
theorem command_strict {arguments : List String} {debug : Bool} {options : GenerateOptions}
    (h : command "generate" arguments = .ok ⟨debug, .generate options⟩)
    (hlenient : options.strict = false) :
    command "generate" ("--strict" :: arguments) = .ok ⟨debug, .generate options.strictly⟩ := by
  unfold command at h ⊢
  obtain ⟨given, hgiven, h⟩ := exists_of_bind_eq_ok h
  obtain ⟨⟨chatty, help, result⟩, hprogress, h⟩ := exists_of_bind_eq_ok h
  cases help with
  | true => cases h
  | false =>
    cases h
    obtain ⟨-, hstrict⟩ := readGiven_strictly hprogress hlenient
    -- The new option comes first, and reading goes on with what it sets.
    have hfirst : readGiven GenerateOptions.add {} false (.flag "strict" :: given) =
        readGiven GenerateOptions.add (GenerateOptions.strictly {}) false given := by
      rw [readGiven_cons (by simp) (by simp)]
      rfl
    simp only [ofArguments_strict _ (by decide : "strict" ∈ ["debug", "strict"]), hgiven,
      Except.map, bind, Except.bind]
    rw [hfirst, hstrict]
    rfl

/-! ### Lines of arguments -/

/-- Only one command asks for a generation, so its name is known from the request. -/
theorem eq_generate_of_command {name : String} {arguments : List String} {debug : Bool}
    {options : GenerateOptions}
    (h : command name arguments = .ok ⟨debug, .generate options⟩) : name = "generate" := by
  unfold command at h
  -- Every other command asks for something else.
  split at h
  case h_1 => rfl
  case h_2 | h_3 =>
    obtain ⟨given, -, h⟩ := exists_of_bind_eq_ok h
    obtain ⟨progress, -, h⟩ := exists_of_bind_eq_ok h
    split at h
    · cases h
    · split at h <;> cases h
  case h_4 =>
    split at h
    · cases h
    · split at h <;> cases h
    · cases h
  case h_5 => cases h

/-- A line that asks for a generation begins with the name of the command, behind the flag for
a chatty log or without it. -/
theorem exists_of_ofArguments_generate {arguments : List String} {debug : Bool}
    {options : GenerateOptions}
    (h : Invocation.ofArguments arguments = .ok ⟨debug, .generate options⟩) :
    ∃ rest chatty, command "generate" rest = .ok ⟨chatty, .generate options⟩ ∧
      (arguments = "generate" :: rest ∨ arguments = "--debug" :: "generate" :: rest) := by
  unfold Invocation.ofArguments at h
  split at h
  case h_1 => cases h
  case h_2 behind =>
    cases behind with
    | nil => cases h
    -- The debug option may stand in front of the command.
    | cons name rest =>
      dsimp only at h
      split at h
      · cases h
      · split at h
        · cases h
        · obtain ⟨⟨chatty, request⟩, hcommand, h⟩ := exists_of_bind_eq_ok h
          cases h
          obtain rfl := eq_generate_of_command hcommand
          exact ⟨rest, chatty, hcommand, .inr rfl⟩
  case h_3 name rest hname =>
    split at h
    · cases h
    · obtain rfl := eq_generate_of_command h
      exact ⟨rest, debug, h, .inl rfl⟩

/-- The line with the flag for a strict generation behind the name of the command, where a flag of
the command may stand. -/
def withStrict : List String → List String
  | "--debug" :: name :: rest => "--debug" :: name :: "--strict" :: rest
  | name :: rest => name :: "--strict" :: rest
  | [] => []

/-- A line that asks for a generation asks for the strict one with the flag (`withStrict`). -/
theorem asks_withStrict {arguments : List String} {options : GenerateOptions}
    (h : Asks arguments (.generate options)) (hlenient : options.strict = false) :
    Asks (withStrict arguments) (.generate options.strictly) := by
  obtain ⟨debug, h⟩ := h
  have hhelp : asksHelp "generate" = false := by decide
  -- The option goes behind the name of the command, wherever that stands.
  obtain ⟨rest, chatty, hcommand, rfl | rfl⟩ := exists_of_ofArguments_generate h
  · exact ⟨chatty, command_strict hcommand hlenient⟩
  · refine ⟨true, ?_⟩
    have hstrict := command_strict hcommand hlenient
    simp only [withStrict, Invocation.ofArguments, hhelp, Bool.false_eq_true, if_false, hstrict]
    rfl

/-- Behind two hyphens every path can be given that is not empty, also one that begins with a
hyphen. So no condition on the path of a model is needed but this one. -/
theorem asks_validate {path : String} (h : path ≠ "") :
    Asks ["validate", "--", path] (.validate path) := by
  refine ⟨false, ?_⟩
  simp [Invocation.ofArguments, asksHelp, command, Given.ofArguments, readGiven, addPath, asPath,
    h, bind, Except.bind, pure, Except.pure]

end WrapperModel.CommandLine
