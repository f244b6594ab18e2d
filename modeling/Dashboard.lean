import Dashboard.Main
import Dashboard.Proofs.CommandCodec
import Dashboard.Proofs.EditOrder
import Dashboard.Proofs.FailedWrites
import Dashboard.Proofs.FileRefinement
import Dashboard.Proofs.FirstPane
import Dashboard.Proofs.MintedIdentities
import Dashboard.Proofs.Outlines
import Dashboard.Proofs.ProgramRuns
import Dashboard.Proofs.ReadableDrawings
import Dashboard.Proofs.Refusals
import Dashboard.Proofs.Reloading
import Dashboard.Proofs.RepeatedIdentities
import Dashboard.Proofs.TwinSessions
import Dashboard.Proofs.TwoReaders
import Dashboard.Proofs.Walks
