import ColonySearch.CommandLine.Rendering
import ColonySearch.Settings.Sources

/-!
# The command line

The program itself: it gathers the settings and the files that the term store may touch, runs the command, prints what it printed, and carries over to the disk what changed among those files.
-/

namespace ColonySearch.Main

/-- The entries that following the parts from a directory can reach. -/
def reached (dir : List String) : List String → List (List String)
  | [] => [dir]
  | ".." :: rest => dir :: reached dir.dropLast rest
  | name :: rest => dir :: reached (dir ++ [name]) rest

def rooted (names : List String) : String := "/" ++ "/".intercalate names

/-- The variable that an entry of the environment sets. -/
def binding? (entry : List Char) : Option (String × String) :=
  match entry.dropWhile (· != '=') with
  | [] => none
  | _ :: value => some (String.ofList (entry.takeWhile (· != '=')), String.ofList value)

/-- The text of a list of bytes, or none of it where it is not UTF-8. -/
def textOf (bytes : ByteArray) : List Char :=
  (Text.Utf8.decode bytes.data.toList).toOption.getD []

/-- The text of a file, empty if it cannot be read. -/
def readOr (path : String) : IO (List Char) :=
  try return textOf (← IO.FS.readBinFile path) catch _ => return []

/-- A user and their home directory, from a line of the user table. -/
def home? (line : List Char) : Option (String × Path) :=
  match line.splitOn ':' with
  | [name, _, _, _, _, home, _] => some (String.ofList name, .ofText (String.ofList home))
  | _ => none

def environment : IO (List (String × String)) := do
  return ((← readOr "/proc/self/environ").splitOn '\x00').filterMap binding?

/-- The home directories of the user and of all users. -/
def homes (vars : List (String × String)) : IO Path.Homes := do
  return { own := .ofText ((vars.lookup "HOME").getD "/")
           others := ((← readOr "/etc/passwd").splitOn '\n').filterMap home? }

/-- The entry on disk that names lead to, behind links. -/
def entryOnDisk (names : List String) : IO (Option Entry) := do
  let path := (← IO.currentDir) / rooted names
  if ← path.isDir then return some .directory
  else if ← path.pathExists then return some (.file (← IO.FS.readBinFile path).data.toList)
  else return none

/-- The files as far as a path can reach them. -/
def gather (names : List (List String)) (workingDirectory : List String) : IO FileTree := do
  let mut tree : FileTree := { workingDirectory }
  for n in names do
    if let some e ← entryOnDisk n then tree := tree.setEntry n e
  return tree

/-- Carries the entries that changed over to the disk. -/
def carryOver (names : List (List String)) (before after : FileTree) : IO Unit := do
  for n in names do
    if after.get? n != before.get? n then
      match after.get? n with
      | some .directory => IO.FS.createDirAll (rooted n)
      | some (.file bytes) => IO.FS.writeBinFile (rooted n) ⟨bytes.toArray⟩
      | some (.link _) | none => pure ()

def run (args : List String) : IO UInt32 := do
  let vars ← environment
  let sources : Settings.Sources Settings.Raw :=
    { environment := vars, text := String.ofList (← readOr ".env") }
  match sources.resolve with
  | .error faults =>
    for (field, fault) in faults do IO.eprintln (field.name ++ ": " ++ fault.name)
    return 1
  | .ok cfg =>
    let homes ← homes vars
    let working := (Path.ofText (← IO.currentDir).toString).parts
    let path := (cfg.settingsFile.expandHome homes).toOption.getD cfg.settingsFile
    let names := reached (if path.root = .relative then working else []) path.parts
    let tree ← gather names working
    let outcome := CommandLine.run CommandLine.standard cfg homes tree args
    for e in outcome.log do IO.eprintln (CommandLine.logLine e)
    for o in outcome.printed do
      for line in o.lines do IO.println line
    if let some failure := outcome.failure then IO.eprintln failure.message
    carryOver names tree outcome.tree
    return outcome.exitCode.toUInt32

end ColonySearch.Main

def main (args : List String) : IO UInt32 := ColonySearch.Main.run args
