/-
  ComponentMarkup.Files.Basic
  ────────────────────────────────
  **The files that can be read.**

  A file set holds text files by their places below the current directory; the directories are
  those that the places imply.  Nothing above the current directory exists.
-/
import ComponentMarkup.Files.Path

namespace ComponentMarkup

/-- A place below the current directory: the names on the way to it. -/
abbrev Place := List (List Char)

/-- A set of text files. -/
structure FileSet where
  files : List (Place × String)

namespace FileSet

/-- Whether a segment of a path stands for nothing. -/
def isIdle (segment : List Char) : Bool := segment == [] || segment == ['.']

/-- The set of the given files, each with its path; of files with the same path the last counts. -/
def ofList (files : List (String × String)) : FileSet :=
  ⟨files.reverse.map fun (path, text) =>
    ((Path.segments path.toList).filter (!isIdle ·), text)⟩

/-- The text at a place. -/
def text? (set : FileSet) (place : Place) : Option String := set.files.lookup place

/-- Whether a place is a directory. -/
def isDirectory (set : FileSet) (place : Place) : Bool :=
  place.isEmpty || set.files.any fun file => place.isPrefixOf file.1 && file.1 != place

/-- The place that some segments lead to, if they pass through directories only. -/
def locate (set : FileSet) : Place → List (List Char) → Option Place
  | here, [] => some here
  | here, segment :: rest =>
    if !set.isDirectory here then none
    else if isIdle segment then set.locate here rest
    -- Going up starts at the place that was reached, not at the text of the path.
    else if segment = ['.', '.'] then
      if here.isEmpty then none else set.locate here.dropLast rest
    else set.locate (here ++ [segment]) rest

/-- The text of the file at a path. -/
def read? (set : FileSet) (path : String) : Option String :=
  if Path.isAbsolute path then none
  else (set.locate [] (Path.segments path.toList)).bind set.text?

end FileSet

end ComponentMarkup
