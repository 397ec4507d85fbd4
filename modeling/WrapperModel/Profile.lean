import WrapperModel.Model.Basic

/-!
# `WrapperModel.Profile`: the identity of a wrapped tool

A `ToolProfile` names the tool and gives what no definition says. `ToolProfile.base` is
the model before any command is added: the tool's identity, the `CliSettings` class that
every task carries, and the `LogLevel` enumeration that the class refers to.
-/

set_option autoImplicit false

namespace WrapperModel

open WrapperModel.Model

/-- What is known of a tool beside its commands. What is not given describes Docker. -/
structure ToolProfile where
  /-- The beginning of the names of all its classes. -/
  name : String := "Docker"
  /-- The program as it stands in front of command paths. -/
  executable : String := "docker"
  help : Option String := some
    ("Docker is an open platform for developing, shipping, and running applications. " ++
      "Docker enables you to separate your applications from your infrastructure so you " ++
      "can deliver software quickly. With Docker, you can manage your infrastructure in " ++
      "the same ways you manage your applications. By taking advantage of Docker’s " ++
      "methodologies for shipping, testing, and deploying code quickly, you can " ++
      "significantly reduce the delay between writing code and running it in production.")
  officialUrl : Option String := some "https://www.docker.com/"
  /-- Lines for the head of generated files. -/
  license : List String := []
  /-- The item of a usage template that stands for all declared options. -/
  optionsMarker : String := "[OPTIONS]"
  deriving Repr, DecidableEq, Inhabited

namespace ToolProfile

/-- The class that all settings classes of the tool share, by `Naming.rootSettingsName` of its
name. -/
def rootSettingsName (profile : ToolProfile) : String :=
  Naming.rootSettingsName profile.name

/-- The form of a property that is its value and nothing else, as placeholders have it. -/
def bareValue : String := "\x7bvalue\x7d"

/-- A property that is given as an option of its own, followed by the value. The common settings
that are texts are such. -/
def textSetting (name help option : String) : Property :=
  { name, format := option ++ " " ++ bareValue, help := some help }

/-- A property that is switched on by an option. It may be absent, which is not the same as
`false`. -/
def switchSetting (name help option : String) : Property :=
  { name, type := .bool, nullable := true, format := option, help := some help }

/-- The properties of the class that every task shares. They are those of Docker whatever the tool
is called. -/
def cliSettings : List Property :=
  [ { textSetting "LogLevel" "Set the logging level." "--log-level" with
      type := .enumeration "LogLevel" },
    { textSetting "Config" "Location of client config files (default ~/.docker)." "--config" with
      assertion := some .directory },
    switchSetting "Debug" "Enable debug mode." "--debug",
    switchSetting "TLS" "Use TLS; implied by --tlsverify." "--tls",
    switchSetting "TLSVerify" "Use TLS and verify the remote." "--tlsverify",
    textSetting "TLSCaCert" "Trust certs signed only by this CA (default ~/.docker/ca.pem)."
      "--tlscacert",
    textSetting "TLSCert" "Path to TLS certificate file (default ~/.docker/cert.pem)." "--tlscert",
    textSetting "TLSKey" "Path to TLS key file (default ~/.docker/key.pem)." "--tlskey" ]

/-- The levels of logging, the one enumeration that every tool declares. The first of the
`cliSettings` refers to it. -/
def logLevel : Enumeration :=
  { name := "LogLevel", values := ["debug", "info", "warn", "error", "fatal"] }

/-- The property by which a task carries the shared settings. Its type is a class, which no finding
asks for. -/
def cliSettingsProperty : Property :=
  { name := "CliSettings"
    type := .custom "CliSettings"
    format := bareValue
    customImpl := true
    customValue := true }

/-- The tool without any task, which `Assembly.build` goes on from. -/
def base (profile : ToolProfile) (references : List String) : Tool :=
  { Tool.empty profile.name profile.executable with
    help := profile.help
    officialUrl := profile.officialUrl
    license := profile.license
    references
    commonTaskProperties := [cliSettingsProperty]
    dataClasses := [⟨"CliSettings", cliSettings⟩]
    enumerations := [logLevel] }

end ToolProfile

end WrapperModel
