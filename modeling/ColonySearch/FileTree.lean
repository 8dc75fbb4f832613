import ColonySearch.Path

/-!
# File trees

Directories, files and symbolic links as a value, with the operations that the term store performs on them. An entry stands under the list of names that leads to it from the root without a link, and under no other. Names are followed one at a time, so that a double dot means the directory above the one reached so far, and the first name that cannot be followed decides the error. Any place may refuse to be used, with any error. An operation that fails leaves the tree alone, with two exceptions: making several directories can fail after making some, and a write can break off behind the opening of the file, which has emptied it.
-/

namespace ColonySearch

inductive Entry where
  | directory
  | file (bytes : List UInt8)
  | link (target : Path)
deriving DecidableEq, Repr

/-- An error of the operating system by its number. -/
structure Errno where
  number : Nat
deriving DecidableEq, Repr

namespace Errno

def noEntry : Errno := ⟨2⟩

def badDescriptor : Errno := ⟨9⟩

def alreadyExists : Errno := ⟨17⟩

def notDirectory : Errno := ⟨20⟩

def isDirectory : Errno := ⟨21⟩

def nameTooLong : Errno := ⟨36⟩

def tooManyLinks : Errno := ⟨40⟩

/-- The errors that say that a path leads nowhere. -/
def leadsNowhere : List Errno := [noEntry, notDirectory, badDescriptor, tooManyLinks]

end Errno

/-- Why a file operation fails. A path with a null byte is not even handed to the operating system. -/
inductive FileError where
  | system (errno : Errno)
  | nullByte
deriving DecidableEq, Repr

/-- Why the making of directories fails: one of its steps does, or more of them are missing above each other than calls can be open at a time. -/
inductive MakeError where
  | file (error : FileError)
  | tooDeep
deriving DecidableEq, Repr

/-- What a place is used for. -/
inductive Use where
  /-- Names are looked up in the directory. -/
  | enter
  /-- The file is opened, be it for reading or for writing. -/
  | access
  /-- Something is made at the place, or the file there is written to. -/
  | change
deriving DecidableEq, Repr

/-- All entries under the names that lead to them, the working directory, and the uses that places refuse, such as for want of a permission. The root is a directory whatever the table says. -/
structure FileTree where
  entries : List String → Option Entry := fun _ => none
  workingDirectory : List String := []
  refuses : Use → List String → Option Errno := fun _ _ => none

namespace FileTree

def get? (t : FileTree) : List String → Option Entry
  | [] => some .directory
  | names => t.entries names

def setEntry (t : FileTree) (names : List String) (e : Entry) : FileTree :=
  { t with entries := fun n => if n = names then some e else t.entries n }

def maxNameBytes : Nat := 255

def maxPathBytes : Nat := 4095

def maxLinks : Nat := 40

/-! ### Following names -/

def permit (t : FileTree) (use : Use) (names : List String) : Except Errno Unit :=
  match t.refuses use names with
  | none => .ok ()
  | some e => .error e

/-- Succeeds if the names lead to a directory. -/
def requireDirectory (t : FileTree) (names : List String) : Except Errno Unit :=
  match t.get? names with
  | some .directory => .ok ()
  | some _ => .error .notDirectory
  | none => .error .noEntry

/-- Succeeds if names can be looked up in the directory. -/
def enter (t : FileTree) (names : List String) : Except Errno Unit := do
  t.requireDirectory names
  t.permit .enter names

/-- The entry of a name in a directory, existing or not. -/
def childOf (dir : List String) (name : String) : Except Errno (List String) :=
  if maxNameBytes < name.utf8ByteSize then .error .nameTooLong else .ok (dir ++ [name])

/-- The directory in which the parts of a path are looked up that is met in a directory. -/
def startIn (dir : List String) (p : Path) : List String := if p.root = .relative then dir else []

/-- Follows names from `dir` to a place, where there need not be anything yet. With a link on the way `jump` goes on, from the directory in which the link starts, with the names in it and behind it. A link at the very end is a place itself, unless it is to be followed as well. -/
def walk (t : FileTree) (throughLast : Bool) (jump : List String → List String → Except Errno (List String))
    (dir : List String) : List String → Except Errno (List String)
  | [] => .ok dir
  | name :: rest => do
    t.enter dir
    if name = ".." then t.walk throughLast jump dir.dropLast rest
    else
      let child ← childOf dir name
      match t.get? child with
      | none => if rest = [] then .ok child else .error .noEntry
      | some (.link target) =>
        if rest = [] ∧ ¬ throughLast then .ok child
        else jump (startIn dir target) (target.parts ++ rest)
      | some _ => t.walk throughLast jump child rest

/-- Follows names from a directory to a place, through so many links at most. -/
def reach (t : FileTree) (throughLast : Bool) : (links : Nat) → (dir names : List String) →
    Except Errno (List String)
  | 0 => t.walk throughLast fun _ _ => .error .tooManyLinks
  | links + 1 => t.walk throughLast (t.reach throughLast links)

/-- Refuses a path that the operating system cannot be asked for. -/
def checkPath (p : Path) : Except FileError Unit :=
  if p.text.toList.contains '\x00' then .error .nullByte
  else if maxPathBytes < p.text.utf8ByteSize then .error (.system .nameTooLong)
  else .ok ()

/-- Lifts the outcome of following names. -/
def systemic {α : Type} (outcome : Except Errno α) : Except FileError α :=
  match outcome with
  | .ok a => .ok a
  | .error e => .error (.system e)

/-- The place that a path leads to. -/
def place (t : FileTree) (throughLast : Bool) (p : Path) : Except FileError (List String) := do
  checkPath p
  systemic do
    t.requireDirectory (startIn t.workingDirectory p)
    t.reach throughLast maxLinks (startIn t.workingDirectory p) p.parts

/-- The existing entry that a path names. -/
def locate (t : FileTree) (p : Path) : Except FileError (List String) := do
  let names ← t.place true p
  if (t.get? names).isSome then return names else .error (.system .noEntry)

/-! ### Asking and reading -/

/-- The answer to a question about what a path names. A path that leads nowhere names nothing; any other failure is one. -/
def ask (t : FileTree) (p : Path) (question : Entry → Bool) : Except FileError Bool :=
  match t.locate p with
  | .ok names => .ok ((t.get? names).any question)
  | .error .nullByte => .ok false
  | .error (.system e) => if e ∈ Errno.leadsNowhere then .ok false else .error (.system e)

def pathExists (t : FileTree) (p : Path) : Except FileError Bool := t.ask p fun _ => true

def isDirectory (t : FileTree) (p : Path) : Except FileError Bool := t.ask p (· == .directory)

def contents (t : FileTree) (p : Path) : Except FileError (List UInt8) := do
  let names ← t.locate p
  match t.get? names with
  | some (.file bytes) =>
    systemic (t.permit .access names)
    return bytes
  | _ => .error (.system .isDirectory)

/-! ### Making directories -/

/-- Makes one directory, which must not exist. -/
def makeDirectory (t : FileTree) (p : Path) : Except FileError FileTree := do
  let names ← t.place false p
  if (t.get? names).isSome then .error (.system .alreadyExists)
  else
    systemic (t.permit .change names)
    return t.setEntry names .directory

/-- Makes one directory, or is content that there is one. -/
def ensureDirectory (t : FileTree) (p : Path) : Except FileError FileTree :=
  match t.makeDirectory p with
  | .ok t => .ok t
  | .error .nullByte => .error .nullByte
  | .error (.system e) =>
    if e = .noEntry then .error (.system e)
    else do
      if ← t.isDirectory p then return t else .error (.system e)

/-- Makes the directory of the root and parts and the directories above it that are missing, with so many calls open in each other at most; the tree is the one reached, also where the outcome is an error. -/
def makeDirectories (t : FileTree) (p : Path) (limit : Option Nat := none) :
    FileTree × Except MakeError Unit :=
  match t.ensureDirectory p with
  | .ok t => (t, .ok ())
  | .error e =>
    if _h : e ≠ .system .noEntry ∨ p.parts = [] then (t, .error (.file e))
    else if limit = some 0 then (t, .error .tooDeep)
    else
      match t.makeDirectories p.parent (limit.map (· - 1)) with
      | (t, .error e) => (t, .error e)
      | (t, .ok ()) =>
        match t.ensureDirectory p with
        | .ok t => (t, .ok ())
        | .error e => (t, .error (.file e))
termination_by p.parts.length
decreasing_by
  have := List.length_pos_iff.2 (not_or.1 _h).2
  simp only [Path.parent, List.length_dropLast]
  omega

/-! ### Writing -/

/-- How a write to an open file goes. It may break off with an error, and not all of the bytes need to end up in the file, be it for the error or because a device keeps no more of them. -/
structure Transfer where
  /-- How many bytes the file has in the end; all of them if there is no number. -/
  kept? : Option Nat := none
  failure? : Option Errno := none
deriving DecidableEq, Repr

def Transfer.keep (x : Transfer) (bytes : List UInt8) : List UInt8 :=
  match x.kept? with
  | none => bytes
  | some count => bytes.take count

def Transfer.outcome (x : Transfer) : Except FileError Unit :=
  match x.failure? with
  | none => .ok ()
  | some e => .error (.system e)

/-- Opens a file for writing: makes it if it is missing, and empties it. -/
def openEmpty (t : FileTree) (p : Path) : Except FileError (FileTree × List String) := do
  let names ← t.place true p
  match t.get? names with
  | none | some (.file _) =>
    systemic (t.permit .access names)
    systemic (t.permit .change names)
    return (t.setEntry names (.file []), names)
  | some _ => .error (.system .isDirectory)

/-- Opens a file and writes the bytes to it. -/
def write (t : FileTree) (p : Path) (bytes : List UInt8) (transfer : Transfer := {}) :
    FileTree × Except FileError Unit :=
  match t.openEmpty p with
  | .error e => (t, .error e)
  | .ok (t, names) => (t.setEntry names (.file (transfer.keep bytes)), transfer.outcome)

end FileTree

end ColonySearch
