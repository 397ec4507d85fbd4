import WrapperModel.Json.Record
import WrapperModel.Profile

/-!
# `WrapperModel.Profile.Json`: the data form of a tool's identity

Keys that are missing describe Docker, as in `ToolProfile`.
-/

set_option autoImplicit false

namespace WrapperModel.ToolProfile

open WrapperModel.Json (DecodeError asText asOptional asList fieldsOfRecord textOrNull)

/-- The keys of a profile, in the order in which they are written in either form of settings. -/
def keys : List String :=
  ["name", "executable", "help", "official_url", "license", "options_marker"]

/-- A profile as a value. Absent texts are `null`, because a missing key means the text of
Docker. -/
def toJson (profile : ToolProfile) : Json :=
  Json.record
    [("name", Json.text profile.name),
      ("executable", Json.text profile.executable),
      ("help", textOrNull profile.help),
      ("official_url", textOrNull profile.officialUrl),
      ("license", Json.texts profile.license),
      ("options_marker", Json.text profile.optionsMarker)]

/-- The profile that a value gives. A key that is missing gives the field of Docker, the default of
`ToolProfile`, and `null` gives no text. -/
def ofJson (value : Json) : Except DecodeError ToolProfile := do
  let fields ← fieldsOfRecord keys value
  let docker : ToolProfile := {}
  return {
    name := ← fields.read "name" asText docker.name
    executable := ← fields.read "executable" asText docker.executable
    help := ← fields.read "help" (asOptional asText) docker.help
    officialUrl := ← fields.read "official_url" (asOptional asText) docker.officialUrl
    license := ← fields.read "license" (asList asText) docker.license
    optionsMarker := ← fields.read "options_marker" asText docker.optionsMarker }

end WrapperModel.ToolProfile
