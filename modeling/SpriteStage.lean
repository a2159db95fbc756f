import SpriteStage.Epochs
import SpriteStage.Main
import SpriteStage.Proofs.Performance.Alterations
import SpriteStage.Proofs.Performance.BlockLedger
import SpriteStage.Proofs.Performance.Bounds
import SpriteStage.Proofs.Performance.Edits
import SpriteStage.Proofs.Performance.Effort
import SpriteStage.Proofs.Performance.EventLog
import SpriteStage.Proofs.Performance.Mirror
import SpriteStage.Proofs.Performance.Notes
import SpriteStage.Proofs.Performance.Passage
import SpriteStage.Proofs.Performance.Refinement
import SpriteStage.Proofs.Performance.Rest
import SpriteStage.Proofs.Performance.Roster
import SpriteStage.Proofs.Performance.Running
import SpriteStage.Proofs.Performance.Speech
import SpriteStage.Proofs.Performance.SwapsOnce
import SpriteStage.Proofs.Performance.Termination
import SpriteStage.Proofs.Epochs.Permits
import SpriteStage.Proofs.Script.Acts
import SpriteStage.Proofs.Script.Cancellation
import SpriteStage.Proofs.Script.Effort
import SpriteStage.Proofs.Script.Rounds
import SpriteStage.Proofs.Script.Speech
import SpriteStage.Proofs.Script.Timeline
import SpriteStage.Proofs.Stage.Reordering
import SpriteStage.Proofs.Stage.Setup
import SpriteStage.Script.Solo
import SpriteStage.Proofs.Performance.Encounters
import SpriteStage.Proofs.Json.OneLine
import SpriteStage.Proofs.Performance.Capacity
import SpriteStage.Proofs.Performance.Headless
import SpriteStage.Proofs.Json.Growth
import SpriteStage.Proofs.Json.Decision
import SpriteStage.Proofs.Project.FirstProblem
import SpriteStage.Proofs.Json.Grammar
import SpriteStage.Proofs.Json.Numbers
import SpriteStage.Proofs.Json.Scanning
import SpriteStage.Proofs.Json.Records
import SpriteStage.Proofs.Project.Drafts
import SpriteStage.Proofs.Project.Spellings
import SpriteStage.Proofs.Project.Legible
import SpriteStage.Proofs.Binary64.Bits
import SpriteStage.Proofs.Binary64.Rounding
import SpriteStage.Proofs.Decimal.Rounding
import SpriteStage.Proofs.Decimal.Numerals
import SpriteStage.Proofs.Decimal.Shortest
import SpriteStage.Proofs.Value.Number
import SpriteStage.Proofs.Value.Classification
import SpriteStage.Proofs.Value.Text
