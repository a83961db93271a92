import LoopRepair.Main
import LoopRepair.Session
import LoopRepair.Proofs.Translations
import LoopRepair.Proofs.Replays
import LoopRepair.Proofs.Wordings
import LoopRepair.Proofs.Repairs
import LoopRepair.Proofs.Histories
import LoopRepair.Proofs.Recurrence
import LoopRepair.Proofs.Amounts
import LoopRepair.Proofs.Listings
import LoopRepair.Proofs.Layouts
import LoopRepair.Proofs.Logs
import LoopRepair.Proofs.Commands
import LoopRepair.Proofs.Traces
import LoopRepair.Proofs.Untraced
import LoopRepair.Proofs.Strands
import LoopRepair.Proofs.Latches
import LoopRepair.Proofs.Interleavings
import LoopRepair.Proofs.Exits
import LoopRepair.Proofs.Arrivals
import LoopRepair.Proofs.Walks
import LoopRepair.Proofs.Inputs
import LoopRepair.Proofs.Accounts
import LoopRepair.Proofs.Turns
import LoopRepair.Proofs.Saturation
import LoopRepair.Proofs.Concatenation
import LoopRepair.Proofs.Encodings
import LoopRepair.Proofs.Strictness
import LoopRepair.Proofs.Placement
import LoopRepair.Proofs.JsonTexts
import LoopRepair.Proofs.JsonLines
import LoopRepair.Proofs.Faults
import LoopRepair.Proofs.Damage
import LoopRepair.Proofs.Operands
