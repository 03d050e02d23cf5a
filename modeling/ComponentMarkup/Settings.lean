/-
  ComponentMarkup.Settings
  ────────────────────────────────
  **Settings of a compilation.**

  The settings name the language version, the kind of file that is compiled unless another one is
  asked for, and the catalog.  They are written and read as a JSON record, any part of which may
  be missing.
-/
import ComponentMarkup.FileKind
import ComponentMarkup.Json.Reader
import ComponentMarkup.Json.Record
import ComponentMarkup.LanguageVersion
import ComponentMarkup.LoadFailure

namespace ComponentMarkup

/-- The settings of a compilation. -/
structure Settings where
  languageVersion : LanguageVersion := .latest
  fileKind : FileKind := .component
  catalogPath : Option String := none
deriving DecidableEq

namespace Settings

instance : Inhabited Settings := ⟨{}⟩

/-- The keys of the settings, in order. -/
def jsonKeys : List String := ["languageVersion", "fileKind", "catalogPath"]

/-- The settings as a JSON value. -/
def toJson (settings : Settings) : Json :=
  .ofMembers
    [("languageVersion", .ofText settings.languageVersion.display),
     ("fileKind", .ofText settings.fileKind.name),
     ("catalogPath", .ofText? settings.catalogPath)]

/-- The language version that a JSON value names. -/
def versionOfJson? (value : Json) : Option LanguageVersion :=
  (Json.text? value).bind fun text => (LanguageVersion.ofText text).toOption

/-- The settings that a JSON value holds. -/
def ofJson? (value : Json) : Option Settings :=
  match Json.fields? jsonKeys value with
  | some [languageVersion, fileKind, catalogPath] => do
    return {
      languageVersion := ← Json.withDefault .latest versionOfJson? languageVersion
      fileKind := ← Json.withDefault .component (Json.choice? FileKind.ofName?) fileKind
      catalogPath := ← Json.optional Json.text? catalogPath }
  | _ => none

/-- The settings that a JSON text holds. -/
def ofJsonText (text : String) : Except LoadFailure Settings :=
  LoadFailure.within "invalid compiler configuration"
    (LoadFailure.ofReading ((Json.parse? text).bind ofJson?))

end Settings

end ComponentMarkup
