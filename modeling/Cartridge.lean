import Cartridge.Main
import Cartridge.Proofs.Build.CacheHistory
import Cartridge.Proofs.Build.CacheKeys
import Cartridge.Proofs.Build.JobRuns
import Cartridge.Proofs.Build.Objects
import Cartridge.Proofs.Build.VariableCount
import Cartridge.Proofs.Compile.CallOrder
import Cartridge.Proofs.Compile.Overflow
import Cartridge.Proofs.Compile.References
import Cartridge.Proofs.Compile.Triggers
import Cartridge.Proofs.Digest.Injectivity
import Cartridge.Proofs.Rom.Flattening
import Cartridge.Proofs.Script.FadeOrder
import Cartridge.Proofs.Script.Quoting
import Cartridge.Proofs.Script.Targets
import Cartridge.Proofs.Script.WalkDepth
import Cartridge.Proofs.Symbol.NormalForm
import Cartridge.Proofs.Tables.Music
import Cartridge.Proofs.Tables.PaletteSharing
import Cartridge.Proofs.Tables.TilesetSharing
import Cartridge.Proofs.Tables.Truncation
import Cartridge.Proofs.Tile.Background
import Cartridge.Proofs.Web.Assignments
import Cartridge.Proofs.Web.Placeholders
