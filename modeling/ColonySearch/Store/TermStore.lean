import ColonySearch.Event
import ColonySearch.FileTree
import ColonySearch.Json.Reader
import ColonySearch.Text.LineEnd
import ColonySearch.Text.Utf8

/-!
# The term store

Keeps the default search term in a file: a JSON object with the term under one key. Loading falls back to a given term when there is no file, when the file is no document, or when the document holds no term. A question about the file that is refused, a text that is not UTF-8, an integer with too many digits and a document nested too deeply for the reader are failures instead. Saving makes the directories that are missing, as long as they are not too many above each other, empties the file and writes it anew.
-/

namespace ColonySearch

structure TermStore where
  path : Path
  fallback : String
deriving DecidableEq, Repr

inductive LoadError where
  | file (error : FileError)
  | encoding (error : Text.Utf8.DecodeError)
  | tooManyDigits (count : Nat)
  | tooDeep (container : Json.Container)
deriving DecidableEq, Repr

/-- The error in words, where it has any beyond its number. -/
def FileError.message : FileError → String
  | .system errno => s!"[Errno {errno.number}]"
  | .nullByte => "embedded null byte"

def MakeError.message : MakeError → String
  | .file error => error.message
  | .tooDeep => "maximum recursion depth exceeded while calling a Python object"

def LoadError.message : LoadError → String
  | .file error => error.message
  | .encoding error => error.message
  | .tooManyDigits count =>
    s!"Exceeds the limit ({maxDigits} digits) for integer string conversion: " ++
      s!"value has {count} digits; use sys.set_int_max_str_digits() to increase the limit"
  | .tooDeep container =>
    s!"maximum recursion depth exceeded while decoding a JSON {container.name} from a unicode string"

structure Loaded where
  outcome : Except LoadError String
  log : List Event := []

/-- What saving came to, with the tree it leaves behind. -/
structure Saved where
  tree : FileTree
  outcome : Except MakeError Unit
  log : List Event := []

namespace TermStore

def key : String := "default_search_term"

/-- The store at a path, in which a leading `~` stands for a home directory. -/
def ofPath (homes : Path.Homes) (path : Path) (fallback : String) : Except Path.HomeError TermStore :=
  (path.expandHome homes).map fun path => { path, fallback }

/-- The term that a document holds: the text of the last member with the key. -/
def termOf? (document : Json.Value) : Option String :=
  (document.member? key).bind (·.text?)

/-- The document of a term, on one line. -/
def documentOf (term : String) : List Char :=
  '\x7b' :: Json.writeText key ++ [':', ' '] ++ Json.writeText term ++ ['\x7d', '\n']

def unreadable (s : TermStore) : Loaded := ⟨.ok s.fallback, [.termUnreadable s.path.text]⟩

/-- What a text comes to, read or not read. -/
def settle (s : TermStore) : Except Json.ReadError Json.Value → Loaded
  | .error .malformed => s.unreadable
  | .error (.tooManyDigits count) => ⟨.error (.tooManyDigits count), []⟩
  | .error (.tooDeep container) => ⟨.error (.tooDeep container), []⟩
  | .ok document => ⟨.ok ((termOf? document).getD s.fallback), []⟩

/-- What the bytes of the file come to, with all line ends read alike, for a reader that can keep so many containers open. -/
def interpret (s : TermStore) (bytes : List UInt8) (limit : Option Nat := none) : Loaded :=
  match Text.Utf8.decode bytes with
  | .error e => ⟨.error (.encoding e), []⟩
  | .ok text => s.settle (Json.read (Text.unifyLineEnds text) limit)

def load (s : TermStore) (t : FileTree) (limit : Option Nat := none) : Loaded :=
  match t.pathExists s.path with
  | .error e => ⟨.error (.file e), []⟩
  | .ok false => ⟨.ok s.fallback, []⟩
  | .ok true =>
    match t.contents s.path with
    | .error _ => s.unreadable
    | .ok bytes => s.interpret bytes limit

/-- Saves a term; `transfer` is how the write goes once the file is open. -/
def save (s : TermStore) (t : FileTree) (term : String) (transfer : FileTree.Transfer := {})
    (limit : Option Nat := none) : Saved :=
  match t.makeDirectories s.path.parent limit with
  | (t, .error e) => ⟨t, .error e, []⟩
  | (t, .ok ()) =>
    match t.write s.path (Text.Utf8.encode (documentOf term)) transfer with
    | (t, .error e) => ⟨t, .error (.file e), []⟩
    | (t, .ok ()) => ⟨t, .ok (), [.termSaved s.path.text term]⟩

end TermStore

end ColonySearch
