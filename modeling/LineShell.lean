import LineShell.Command.Scripted
import LineShell.Machine.Making
import LineShell.Main
import LineShell.Proofs.Reach
import LineShell.Proofs.OneLine
import LineShell.Proofs.Words.Quoting
import LineShell.Proofs.Limit
import LineShell.Proofs.Overrides
import LineShell.Proofs.Lookup.Stable
import LineShell.Proofs.Moves
import LineShell.Proofs.Spawn
import LineShell.Proofs.Path.Equivalence
import LineShell.Proofs.Home
import LineShell.Proofs.Words.Growth
import LineShell.Proofs.NoRoom
