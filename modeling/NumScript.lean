import NumScript.Main
import NumScript.Terminal.Sink
import NumScript.Binary64.Bits
import NumScript.Proofs.AttemptBlocks
import NumScript.Proofs.Concatenation
import NumScript.Proofs.CorrectPrefix
import NumScript.Proofs.ErrorOrder
import NumScript.Proofs.FailedRuns
import NumScript.Proofs.LimitedOutput
import NumScript.Proofs.Lines.Provenance
import NumScript.Proofs.NameCheck
import NumScript.Proofs.OutputPrefix
import NumScript.Proofs.Printing
import NumScript.Proofs.Recovery
import NumScript.Proofs.TokenAccounts
import NumScript.Proofs.Verbosity
import NumScript.Proofs.WellFormedPrograms
import NumScript.Proofs.Cursor
import NumScript.Proofs.PostOrder
import NumScript.Proofs.Independence
import NumScript.Proofs.SymbolHistory
import NumScript.Proofs.LineEnds
import NumScript.Proofs.Renaming
import NumScript.Proofs.StatementLines
import NumScript.Proofs.ReadBack
