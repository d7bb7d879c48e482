import Keyline.Main
import Keyline.Proofs.Editor.Bytes
import Keyline.Proofs.Editor.Ranges
import Keyline.Proofs.Files.Erasure
import Keyline.Proofs.Files.WriteGate
import Keyline.Proofs.Repair.Confluence
import Keyline.Proofs.Repair.Locality
import Keyline.Proofs.Repair.Passes
import Keyline.Proofs.Settings.Extensions
import Keyline.Proofs.Settings.Sources
import Keyline.Proofs.Validation.Segments
import Keyline.Proofs.Validation.Sides
import Keyline.Proofs.Workspace.FixAll
import Keyline.Proofs.Workspace.Harmless
