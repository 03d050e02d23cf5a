/-
  ComponentMarkup.Files.Path
  ────────────────────────────────
  **Paths as text.**

  A path is a text of segments with slashes between them; empty segments and single points stand
  for nothing.  `directory?` and `join` work on the text and change nothing else about it, so that
  a path is shown as it was written.
-/

namespace ComponentMarkup.Path

/-- The segments of a path, empty ones included. -/
def segments : List Char → List (List Char)
  | [] => [[]]
  | c :: rest =>
    if c = '/' then [] :: segments rest
    else match segments rest with
      | [] => [[c]]
      | first :: more => (c :: first) :: more

/-- Whether the path starts at the root of all files. -/
def isAbsolute (path : String) : Bool := path.toList.head? == some '/'

/-- A reversed path without the slashes and single points at its end, as far as they stand for
nothing: the slash of the root stays, and so does a point at the very start. -/
def dropIdle : List Char → List Char
  | '/' :: c :: rest => dropIdle (c :: rest)
  | '.' :: '/' :: rest => dropIdle ('/' :: rest)
  | path => path

/-- The path of the directory that a file stands in; the empty text for a bare file name. -/
def directory? (path : String) : Option String :=
  match dropIdle path.toList.reverse with
  | [] | ['/'] => none
  | reversed =>
    -- Only the last segment goes; what stands before it is kept as it was written.
    match dropIdle (reversed.dropWhile (· ≠ '/')) with
    | [] => some ""
    | front => some (String.ofList front.reverse)

/-- A path that is meant from a directory. -/
def join (directory path : String) : String :=
  if isAbsolute path || directory.isEmpty then path
  else if directory.toList.getLast? == some '/' then directory ++ path
  else directory ++ "/" ++ path

end ComponentMarkup.Path
