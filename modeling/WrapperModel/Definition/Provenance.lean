import WrapperModel.Text.Replace

/-!
# `WrapperModel.Definition.Provenance`: where a definition was documented

The address of a document comes from a template, in which the revision of the
documentation and the name of the file are put. The revision goes in first, and the name
of the file is put into what came out.
-/

set_option autoImplicit false

namespace WrapperModel.Definition

open WrapperModel.Text

/-- The mark for the revision in a template. It is replaced first. -/
def referenceMark : String := "\x7breference\x7d"

/-- The mark for the name of the file in a template. It is replaced second, also in what came from
the revision. -/
def fileMark : String := "\x7bfile\x7d"

/-- The template of the published reference, which is used where no other is given. -/
def defaultTemplate : String :=
  "https://raw.githubusercontent.com/docker/docker.github.io/" ++ referenceMark ++
    "/_data/engine-cli/" ++ fileMark

/-- The address of a file in a revision. The revision is put in first, so a mark of the file that it
brings along is filled in too; `filled_iff_isInert` says for which revisions this happens. -/
def referenceUrl (template reference file : String) : String :=
  replaceAll fileMark file (replaceAll referenceMark reference template)

end WrapperModel.Definition
