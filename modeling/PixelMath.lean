import PixelMath.Command.Directory
import PixelMath.Main
import PixelMath.Proofs.Command.Check
import PixelMath.Proofs.Command.Run
import PixelMath.Proofs.Engine.Count
import PixelMath.Proofs.Engine.Frame
import PixelMath.Proofs.Engine.Strided
import PixelMath.Proofs.Engine.Tiling
import PixelMath.Proofs.Engine.TwoPass
import PixelMath.Proofs.Format
import PixelMath.Proofs.Number.Value
import PixelMath.Proofs.Pixel.Parts
import PixelMath.Proofs.Preset
import PixelMath.Proofs.Program.Ascii
import PixelMath.Proofs.Program.Composition
import PixelMath.Proofs.Program.Extension
import PixelMath.Proofs.Program.Layout
import PixelMath.Proofs.Program.Listing
import PixelMath.Proofs.Token.Run
