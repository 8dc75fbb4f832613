import ColonySearch.CommandLine.Arguments
import ColonySearch.CommandLine.Threshold
import ColonySearch.Demo
import ColonySearch.ResultTable
import ColonySearch.Store.Startup

/-!
# The program

What a command line does, as a function of the reader that finds what it asks for, of the settings and of the files: the exit code, what is printed, the lines of the log, and the files afterwards. Searches run on the demo colony.
-/

namespace ColonySearch.CommandLine

inductive Output where
  | settings (settings : Settings)
  | query (compiled : Compiled)
  | noResults (label : String)
  | table (table : Table)
  | defaultTerm (term path : String)
deriving DecidableEq, Repr

/-- What ends the program before its time. -/
inductive Failure where
  | level (error : UnknownLevel)
  | search (error : MissingTrait)
  | table (error : DecimalError)
  | home (error : Path.HomeError)
  | load (error : LoadError)
  | save (error : MakeError)
deriving DecidableEq, Repr

def Failure.message : Failure → String
  | .level error => error.message
  | .search error => error.message
  | .table error => error.message
  | .home error => error.message
  | .load error => error.message
  | .save error => error.message

/-- What a run of the program came to. -/
structure Outcome where
  exitCode : Nat
  tree : FileTree
  printed : List Output := []
  log : List Event := []
  failure : Option Failure := none

def Outcome.failed (tree : FileTree) (failure : Failure) (log : List Event := []) : Outcome where
  exitCode := 1
  tree := tree
  log := log
  failure := some failure

/-- The flag characters that the settings put in force. -/
def alphabet (cfg : Settings) : Alphabet := { worldFlag := cfg.worldFlagEnabled }

/-- The query of a search term, with the world map switched on if asked for. -/
def searchQuery (cfg : Settings) (term : String) (world : Bool) : Query :=
  let query := Query.parse (alphabet cfg) term
  if world then { query with worldMap := true } else query

/-- Searches the demo colony; an empty result is a failure of the search, not of the program. -/
def runSearch (tree : FileTree) (query : Query) : Outcome :=
  let (view, colony) := Demo.found {}
  let evaluation := query.compile.evaluation colony view.toScope
  let log := evaluation.log
  match evaluation.outcome with
  | .error e => .failed tree (.search e) log
  | .ok results =>
    if results.isEmpty then { exitCode := 1, tree, printed := [.noResults query.debugLabel], log }
    else
      match results.table colony with
      | .error e => .failed tree (.table e) log
      | .ok table => { exitCode := 0, tree, printed := [.table table], log }

/-- Loads and prints the default term, behind what was logged before. -/
def showTerm (store : TermStore) (tree : FileTree) (log : List Event) : Outcome :=
  let loaded := store.load tree
  match loaded.outcome with
  | .error e => .failed tree (.load e) (log ++ loaded.log)
  | .ok term =>
    { exitCode := 0, tree, printed := [.defaultTerm term store.path.text], log := log ++ loaded.log }

/-- Saves the default term if one is given, then shows it. -/
def runDefaultTerm (cfg : Settings) (homes : Path.Homes) (tree : FileTree) (term : Option String) :
    Outcome :=
  match cfg.termStore homes with
  | .error e => .failed tree (.home e)
  | .ok store =>
    match term with
    | none => showTerm store tree []
    | some term =>
      let saved := store.save tree term
      match saved.outcome with
      | .error e => .failed saved.tree (.save e) saved.log
      | .ok () => showTerm store saved.tree saved.log

def runRequest (cfg : Settings) (homes : Path.Homes) (tree : FileTree) : Request → Outcome
  | .help => { exitCode := 0, tree }
  | .misuse => { exitCode := 2, tree }
  | .config => { exitCode := 0, tree, printed := [.settings cfg] }
  | .parse term => { exitCode := 0, tree, printed := [.query (Query.parse (alphabet cfg) term).compile] }
  | .search term world => runSearch tree (searchQuery cfg term world)
  | .defaultTerm term => runDefaultTerm cfg homes tree term

/-- Settles the level of the log, then runs the request. -/
def perform (cfg : Settings) (homes : Path.Homes) (tree : FileTree) (request : Request) : Outcome :=
  match threshold cfg.logLevel with
  | .error e => .failed tree (.level e)
  | .ok rank =>
    let outcome := runRequest cfg homes tree request
    { outcome with log := kept rank outcome.log }

def run (reader : Reader) (cfg : Settings) (homes : Path.Homes) (tree : FileTree)
    (words : List String) : Outcome :=
  match reader.line words with
  | .help => { exitCode := 0, tree }
  | .misuse => { exitCode := 2, tree }
  | .perform command behind => perform cfg homes tree (reader.request command behind)

end ColonySearch.CommandLine
