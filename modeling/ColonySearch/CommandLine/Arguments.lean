/-!
# Arguments of the program

What a command line can ask for. The program declares its commands and has a reader of command lines find what is asked, in two steps because the level of the log is settled between them. `Reader` is such a reader and `standard` the one that the program runs with.

There, words in front of the command can only ask for help, of which the completion of command lines by a shell is a kind; the words behind it are options or arguments in any order, up to a double dash, behind which all words are arguments. A word is an option if it starts with a dash and has more than that.
-/

namespace ColonySearch.CommandLine

inductive Command where
  | config
  | parse
  | search
  | defaultTerm
deriving DecidableEq, Repr

def Command.name : Command → String
  | .config => "config"
  | .parse => "parse"
  | .search => "search"
  | .defaultTerm => "default-term"

def Command.all : List Command := [.config, .parse, .search, .defaultTerm]

def Command.ofName? (name : String) : Option Command := Command.all.find? (·.name == name)

/-- What the whole line asks for. -/
inductive Line where
  | help
  | misuse
  | perform (command : Command) (behind : List String)
deriving DecidableEq, Repr

/-- What a command is asked to do. -/
inductive Request where
  | help
  | misuse
  | config
  | parse (term : String)
  | search (term : String) (world : Bool)
  | defaultTerm (term : Option String)
deriving DecidableEq, Repr

structure Reader where
  line : List String → Line
  /-- Reads the words behind a command. -/
  request : Command → List String → Request

def isOption (word : String) : Bool :=
  word.toList.head? == some '-' && word.toList.length != 1

/-! ### The words in front of the command -/

/-- The options in front of a command. They describe the program, and set up or show the completion of its command lines by a shell. -/
def helpOptions : List String := ["--help", "--install-completion", "--show-completion"]

/-- Whether the options that words begin with ask for help, and the words from the first argument on; nothing if an option is none of those for help. -/
def leadingOptions (helpAsked : Bool) : List String → Option (Bool × List String)
  | [] => some (helpAsked, [])
  | word :: rest =>
    if word = "--" then some (helpAsked, rest)
    else if helpOptions.contains word then leadingOptions true rest
    else if isOption word then none
    else some (helpAsked, word :: rest)

/-- Reads a line. Help comes before the command. Where no command of the given name exists, the words from that name on are read once more for options, so that help can still be asked for there. -/
def Line.read (words : List String) : Line :=
  match leadingOptions false words with
  | none => .misuse
  | some (true, _) => .help
  | some (false, []) => .misuse
  | some (false, name :: behind) =>
    match Command.ofName? name with
    | some command => .perform command behind
    | none =>
      match leadingOptions false (name :: behind) with
      | some (true, _) => .help
      | _ => .misuse

/-! ### The words behind the command -/

/-- The words behind a command, sorted: the arguments, whether help is asked for, and whether the world is to be searched. -/
structure Words where
  arguments : List String := []
  help : Bool := false
  world : Bool := false
deriving DecidableEq, Repr

/-- What one option does; nothing if the command does not have it. -/
def Words.option? (command : Command) (words : Words) (option : String) : Option Words :=
  if option = "--help" then some { words with help := true }
  else if command = .search ∧ option = "--world" then some { words with world := true }
  else if command = .search ∧ option = "--no-world" then some { words with world := false }
  else none

/-- Sorts the words behind a command, none if an option is not the command's. -/
def Words.read (command : Command) (words : Words) : List String → Option Words
  | [] => some words
  | word :: rest =>
    if word = "--" then some { words with arguments := words.arguments ++ rest }
    else if isOption word then
      match words.option? command word with
      | some words => words.read command rest
      | none => none
    else Words.read command { words with arguments := words.arguments ++ [word] } rest

/-- Reads the words behind a command. Help comes before any objection to the arguments. -/
def Command.request (command : Command) (behind : List String) : Request :=
  match Words.read command {} behind with
  | none => .misuse
  | some words =>
    if words.help then .help
    else
      match command, words.arguments with
      | .config, [] => .config
      | .parse, [term] => .parse term
      | .search, [term] => .search term words.world
      | .defaultTerm, [] => .defaultTerm none
      | .defaultTerm, [term] => .defaultTerm (some term)
      | _, _ => .misuse

/-- The reader that the program runs with. -/
def standard : Reader := ⟨Line.read, Command.request⟩

end ColonySearch.CommandLine
