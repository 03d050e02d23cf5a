/-
  ComponentMarkup.Files.Loading
  ────────────────────────────────
  **Settings and catalogs from files.**

  A relative catalog path in a file of settings is meant from the directory of that file.
-/
import ComponentMarkup.Catalog.Basic
import ComponentMarkup.Files.Basic
import ComponentMarkup.Settings

namespace ComponentMarkup

/-- The text of a file, or a failure to read it. -/
def FileSet.read (set : FileSet) (what path : String) : Except LoadFailure String :=
  LoadFailure.within ("failed to read " ++ what ++ " " ++ path) <|
    match set.read? path with
    | some text => .ok text
    | none => .error { cause := .unreadable }

/-- The catalog in a file. -/
def Catalog.load (set : FileSet) (path : String) : Except LoadFailure Catalog := do
  let text ← set.read "catalog" path
  LoadFailure.within ("failed to load catalog " ++ path) (ofJsonText text)

namespace Settings

/-- The settings with a relative catalog path taken from the directory of their own file. -/
def rebased (settings : Settings) (ownPath : String) : Settings :=
  match settings.catalogPath, Path.directory? ownPath with
  | some catalogPath, some directory =>
    { settings with catalogPath := some (Path.join directory catalogPath) }
  | _, _ => settings

/-- The settings in a file. -/
def load (set : FileSet) (path : String) : Except LoadFailure Settings := do
  let text ← set.read "config" path
  let settings ← LoadFailure.within ("failed to load config " ++ path) (ofJsonText text)
  return settings.rebased path

/-- The catalog that the settings name, or the empty one if they name none. -/
def namedCatalog (set : FileSet) (settings : Settings) : Except LoadFailure Catalog :=
  match settings.catalogPath with
  | some path => Catalog.load set path
  | none => .ok .empty

end Settings

end ComponentMarkup
