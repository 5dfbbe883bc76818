/-!
Paths in a normal form: no empty segments and no single dots, while double dots stay. A path without
segments is the single dot.
-/

namespace AsmKit

/-- A path: the slashes in front of an absolute one, and its segments. -/
structure Path where
  root : String
  segments : List String
  deriving DecidableEq, Repr

namespace Path

/-- The slashes that mark an absolute path: two where the text starts with exactly two, else one. -/
def rootOf (cs : List Char) : String :=
  match (cs.takeWhile (· == '/')).length with
  | 0 => ""
  | 2 => "//"
  | _ => "/"

/-- The segments of a text between its slashes, the empty ones among them. -/
def split : List Char → List (List Char)
  | [] => [[]]
  | c :: rest =>
    if c == '/' then [] :: split rest
    else match split rest with
      | [] => [[c]]
      | first :: more => (c :: first) :: more

def ofText (text : String) : Path :=
  let cs := text.toList
  { root := rootOf cs
    segments := ((split cs).filter fun segment => segment != [] && segment != ['.']).map
      String.ofList }

def text (path : Path) : String :=
  if path.root.isEmpty && path.segments.isEmpty then "."
  else path.root ++ "/".intercalate path.segments

/-- The segment that names a user's home directory, where a path starts with one. -/
def home? (path : Path) : Option String :=
  match path.root.isEmpty, path.segments with
  | true, first :: _ => if first.toList.head? == some '~' then some first else none
  | _, _ => none

/-- Home directories, each with the segment that names it. -/
abbrev Homes := List (String × Path)

/-- The path itself, or where it starts with a known home directory, the path below that. -/
def locate (homes : Homes) (path : Path) : Path :=
  match path.home?.bind fun name => homes.lookup name with
  | some home => { home with segments := home.segments ++ path.segments.tail }
  | none => path

end Path
end AsmKit
