import ChainShell.Completion
import ChainShell.Machine.Layout
import ChainShell.Main
import ChainShell.Machine.Signal
import ChainShell.Proofs.Line.Relexing
import ChainShell.Proofs.Line.Grammar
import ChainShell.Proofs.Line.Words
import ChainShell.Proofs.Line.Printing
import ChainShell.Proofs.Chain.AndOr
import ChainShell.Proofs.Chain.Sequence
import ChainShell.Proofs.Chain.Tracing
import ChainShell.Proofs.Session.Effects
import ChainShell.Proofs.Session.History
import ChainShell.Proofs.Session.ProgramCall
import ChainShell.Proofs.Session.Leaving
import ChainShell.Proofs.Chain.Ending
import ChainShell.Proofs.Session.Directory
import ChainShell.Proofs.Completion.Collection
import ChainShell.Proofs.Completion.Matching
import ChainShell.Proofs.Machine.Listing
import ChainShell.Proofs.Completion.Coverage
import ChainShell.Proofs.Line.Separators
import ChainShell.Proofs.Completion.CommandPosition
import ChainShell.Proofs.Completion.Acceptance
import ChainShell.Proofs.Session.FileNames
import ChainShell.Proofs.Path.Resolution
import ChainShell.Proofs.Session.Assignment
import ChainShell.Proofs.Session.StandardPath
import ChainShell.Proofs.Completion.Suggestion
import ChainShell.Proofs.Session.CallGrammar
import ChainShell.Proofs.Session.CallAcceptance
import ChainShell.Proofs.Session.Output
import ChainShell.Proofs.Session.PromptFormat
import ChainShell.Proofs.Session.Interaction
import ChainShell.Proofs.Line.Stepping
import ChainShell.Proofs.Chain.Naming
