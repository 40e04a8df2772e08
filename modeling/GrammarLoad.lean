import GrammarLoad.Text.Piece
import GrammarLoad.Text.Reading
import GrammarLoad.Text.Printable
import GrammarLoad.Text.Quoted
import GrammarLoad.Path
import GrammarLoad.FileTree.Directory
import GrammarLoad.FileTree
import GrammarLoad.FileTree.Canonical
import GrammarLoad.FileTree.Change
import GrammarLoad.Handle
import GrammarLoad.ProviderError
import GrammarLoad.Loader
import GrammarLoad.Library
import GrammarLoad.Provider
import GrammarLoad.Discovery
import GrammarLoad.Check
import GrammarLoad.Event
import GrammarLoad.Run
import GrammarLoad.World
import GrammarLoad.BuildPlan
import GrammarLoad.Session
import GrammarLoad.Proofs.ConfiguredRun
import GrammarLoad.Proofs.Loadings
import GrammarLoad.Proofs.History
import GrammarLoad.Proofs.Spelling
import GrammarLoad.Proofs.FileContent
import GrammarLoad.Proofs.Swap
import GrammarLoad.Proofs.FailedOpening
import GrammarLoad.Proofs.HandedOut
import GrammarLoad.Proofs.Calls
import GrammarLoad.Proofs.Ledger
import GrammarLoad.Proofs.Log
import GrammarLoad.Proofs.Independence
import GrammarLoad.Proofs.Questions
import GrammarLoad.Proofs.Verdict
import GrammarLoad.Proofs.EntryPoints
import GrammarLoad.Proofs.Search
import GrammarLoad.Proofs.Precedence
import GrammarLoad.Proofs.Bindable
import GrammarLoad.Proofs.Labels
import GrammarLoad.Proofs.FailureTexts
import GrammarLoad.Proofs.SearchedPaths
import GrammarLoad.Proofs.BindingEvents
