import WrapperModel.Definition.Provenance
import WrapperModel.Model.Output
import WrapperModel.Profile

/-!
# `WrapperModel.Configuration.Basic`: what a generation works on

A `Configuration` names the wrapped tool, where its definitions are, and where and in
which form its model goes. What is not given describes Docker.
-/

set_option autoImplicit false

namespace WrapperModel

open WrapperModel.Model (OutputFormat)

/-- Where definitions are and how they are stamped. The template is filled in with the revision and
the name of each document. -/
structure SourceSettings where
  /-- The directory of the definitions. -/
  path : String := "engine-cli"
  /-- The revision of the documentation. -/
  reference : String := "master"
  /-- The template for the addresses of definitions. -/
  referenceUrl : String := Definition.defaultTemplate
  /-- The stems of files that are not read. -/
  skip : List String := ["docker_container_cp", "docker_cp"]
  deriving Repr, DecidableEq, Inhabited

/-- Where the model goes and in which form. Without a path it goes to the standard output. -/
structure OutputSettings where
  /-- The file for the model. Without one it is printed. -/
  path : Option String := none
  format : OutputFormat := .json
  deriving Repr, DecidableEq, Inhabited

/-- What a generation works on. `GenerateOptions.over` puts the options of the command line over
it. -/
structure Configuration where
  /-- The version of the form of configurations. -/
  version : String := "1.0"
  tool : ToolProfile := {}
  source : SourceSettings := {}
  output : OutputSettings := {}
  deriving Repr, DecidableEq, Inhabited

end WrapperModel
