import LineShell.Main
import LineShell.Bench
import LineShell.Composed
import LineShell.Files.Workplace
import LineShell.Proofs.Outcome
import LineShell.Proofs.Directory
import LineShell.Proofs.Budget
import LineShell.Proofs.Batch
import LineShell.Proofs.Frame
import LineShell.Proofs.Entrance
import LineShell.Proofs.Stopping
import LineShell.Proofs.Layout
import LineShell.Proofs.OneShot
import LineShell.Proofs.Restarts
import LineShell.Proofs.Registrations
import LineShell.Proofs.Forwarding
import LineShell.Proofs.Announcement
import LineShell.Proofs.Preservation
import LineShell.Proofs.Traceback
import LineShell.Proofs.Mishap
import LineShell.Proofs.Relocation
import LineShell.Proofs.Handover
import LineShell.Proofs.Operands
import LineShell.Proofs.Listing
import LineShell.Proofs.Reversal
import LineShell.Proofs.Display
import LineShell.Proofs.Bounds
