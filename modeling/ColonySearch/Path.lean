/-!
# Paths

Paths as a root and a list of parts. Empty parts and parts that are a single dot say nothing and are dropped; a double dot is kept, since what it means depends on the directories it passes. A path that starts with exactly two slashes keeps both.
-/

namespace ColonySearch

inductive Root where
  /-- At the working directory. -/
  | relative
  /-- At the root. -/
  | absolute
  /-- At the root, written with two slashes. -/
  | doubled
deriving DecidableEq, Repr

def Root.text : Root → String
  | .relative => ""
  | .absolute => "/"
  | .doubled => "//"

structure Path where
  root : Root
  parts : List String
deriving DecidableEq, Repr

namespace Path

def rootOf : List Char → Root
  | '/' :: '/' :: '/' :: _ => .absolute
  | '/' :: '/' :: _ => .doubled
  | '/' :: _ => .absolute
  | _ => .relative

/-- Whether what stands between two slashes says something. -/
def isPart (between : List Char) : Bool := between != [] && between != ['.']

def ofText (text : String) : Path where
  root := rootOf text.toList
  parts := ((text.toList.splitOn '/').filter isPart).map String.ofList

/-- The path as it is written; the path of the working directory is a dot. -/
def text (p : Path) : String :=
  if p.root = .relative ∧ p.parts = [] then "."
  else p.root.text ++ "/".intercalate p.parts

/-- The path without its last part; a path without parts is its own parent. -/
def parent (p : Path) : Path := { p with parts := p.parts.dropLast }

/-! ### Home directories -/

/-- The home directories: of the user, and of other users by name. -/
structure Homes where
  own : Path
  others : List (String × Path) := []
deriving DecidableEq, Repr

inductive HomeError where
  /-- There is no user of that name. -/
  | unknownUser
  /-- The name holds a null byte. -/
  | nullByte
deriving DecidableEq, Repr

def HomeError.message : HomeError → String
  | .unknownUser => "Could not determine home directory."
  | .nullByte => "embedded null byte"

/-- The home directory that a part names: `~` the user's own, `~name` another's. -/
def Homes.directory (homes : Homes) (part : String) : Except HomeError Path :=
  match part.toList.drop 1 with
  | [] => .ok homes.own
  | name =>
    if name.contains '\x00' then .error .nullByte
    else
      match homes.others.lookup (String.ofList name) with
      | some home => .ok home
      | none => .error .unknownUser

/-- The path with a leading `~` or `~name` replaced by the home directory. Only the first part of a relative path is looked at. -/
def expandHome (homes : Homes) (p : Path) : Except HomeError Path :=
  match p.root, p.parts with
  | .relative, first :: rest =>
    if first.toList.head? = some '~' then
      (homes.directory first).map fun home => { home with parts := home.parts ++ rest }
    else .ok p
  | _, _ => .ok p

end Path

end ColonySearch
