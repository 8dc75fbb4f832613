import ColonySearch.Main
import ColonySearch.Proofs.Colony.Holding
import ColonySearch.Proofs.Colony.Spawning
import ColonySearch.Proofs.CommandLine.WorldOption
import ColonySearch.Proofs.Query.Candidate
import ColonySearch.Proofs.Query.ShortCircuit
import ColonySearch.Proofs.Query.WorldFlag
import ColonySearch.Proofs.ResultTable
import ColonySearch.Proofs.Search.Equivalence
import ColonySearch.Proofs.Search.LetterCase
import ColonySearch.Proofs.Search.MapByMap
import ColonySearch.Proofs.Search.Narrowing
import ColonySearch.Proofs.Search.Relisting
import ColonySearch.Proofs.Search.Secrecy
import ColonySearch.Proofs.Session.Freshness
import ColonySearch.Proofs.Session.Records
import ColonySearch.Proofs.Session.Settling
import ColonySearch.Proofs.Settings.Reading
import ColonySearch.Proofs.Settings.Resolution
import ColonySearch.Proofs.Store.Documents
import ColonySearch.Proofs.Store.Reopening
import ColonySearch.Proofs.Store.Saving
import ColonySearch.Proofs.View.Loaded
import ColonySearch.Proofs.View.Navigation
import ColonySearch.Proofs.View.Returning
import ColonySearch.Proofs.View.Selection
import ColonySearch.Proofs.View.Updates
