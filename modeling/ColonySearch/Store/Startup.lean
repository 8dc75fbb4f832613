import ColonySearch.Session
import ColonySearch.Settings.Basic
import ColonySearch.Store.TermStore

/-!
# Starting from the settings

The store and the session that the settings describe. A session started this way begins with the stored term and waits as long as the settings say.
-/

namespace ColonySearch

/-- The store at the settings file, with the default term of the settings to fall back to. -/
def Settings.termStore (cfg : Settings) (homes : Path.Homes) : Except Path.HomeError TermStore :=
  TermStore.ofPath homes cfg.settingsFile cfg.defaultSearchTerm

inductive StartError where
  | load (error : LoadError)
  | debounce (error : BadDebounce)
deriving DecidableEq, Repr

/-- Starts a session with the stored term. The term is loaded first, so that a warning about the file is logged even if the session is refused. -/
def Settings.startSession (cfg : Settings) (store : TermStore) (t : FileTree) (alphabet : Alphabet)
    (limit : Option Nat := none) : Except StartError Session × List Event :=
  let loaded := store.load t limit
  match loaded.outcome with
  | .error e => (.error (.load e), loaded.log)
  | .ok term =>
    match Session.start alphabet term cfg.debounceTicks with
    | .error e => (.error (.debounce e), loaded.log)
    | .ok session => (.ok session, loaded.log)

end ColonySearch
