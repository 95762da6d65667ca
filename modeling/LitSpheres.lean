import LitSpheres.Decimal.Layout
import LitSpheres.Text.Quoted
import LitSpheres.Text.Utf8
import LitSpheres.Text.Place
import LitSpheres.Token.Scan
import LitSpheres.Vec3
import LitSpheres.Block.Read
import LitSpheres.Definition.Read
import LitSpheres.Definition.Written
import LitSpheres.Definition.Display
import LitSpheres.Frame
import LitSpheres.Scene.Load
import LitSpheres.Picture
import LitSpheres.FileName
import LitSpheres.Folder
import LitSpheres.Showcase
import LitSpheres.CommandLine.Arguments
import LitSpheres.CommandLine.Run
import LitSpheres.Main
import LitSpheres.Distinct
import LitSpheres.Cursor
import LitSpheres.Proofs.Canvas.Scan
import LitSpheres.Proofs.Frame.Slot
import LitSpheres.Proofs.Render.Serial
import LitSpheres.Proofs.Render.Schedule
import LitSpheres.Proofs.Grammar.Tree
import LitSpheres.Proofs.Grammar.Reading
import LitSpheres.Proofs.Grammar.Accepting
import LitSpheres.Proofs.Grammar.Prompt
import LitSpheres.Proofs.Grammar.FirstProblem
import LitSpheres.Proofs.Binary64.Bits
import LitSpheres.Proofs.Binary64.Rounding
import LitSpheres.Proofs.Binary64.Order
import LitSpheres.Proofs.Binary64.Whole
import LitSpheres.Proofs.Binary64.Monotone
import LitSpheres.Proofs.Binary64.Packed
import LitSpheres.Proofs.Binary64.Arithmetic
import LitSpheres.Proofs.Color
import LitSpheres.Proofs.Sphere
import LitSpheres.Proofs.Canvas.Size
import LitSpheres.Proofs.Decimal.Shortest
import LitSpheres.Proofs.Decimal.Fewest
import LitSpheres.Proofs.Decimal.Numeral
import LitSpheres.Proofs.Decimal.Significant
import LitSpheres.Proofs.Token.Scan
import LitSpheres.Proofs.Token.Pattern
import LitSpheres.Proofs.Token.Munch
import LitSpheres.Proofs.Token.Place
import LitSpheres.Proofs.Text.LineEnds
import LitSpheres.Proofs.Token.Replace
import LitSpheres.Proofs.Token.Layout
import LitSpheres.Proofs.Definition.Writable
import LitSpheres.Proofs.Definition.Fields
import LitSpheres.Proofs.Definition.Unplaced
import LitSpheres.Proofs.Definition.Written
import LitSpheres.Proofs.Definition.RoundTrip
import LitSpheres.Proofs.Definition.Refused
import LitSpheres.Proofs.Definition.Meaning
import LitSpheres.Proofs.Definition.Number
import LitSpheres.Proofs.Scene.Nearest
import LitSpheres.Proofs.Scene.Loaded
import LitSpheres.Proofs.Scene.Shading
import LitSpheres.Proofs.Scene.Resized
import LitSpheres.Proofs.Render.Failure
import LitSpheres.Proofs.Render.Picture
import LitSpheres.Proofs.Render.Partial
import LitSpheres.Proofs.Grammar.InStep
import LitSpheres.Proofs.Grammar.Layout
import LitSpheres.Proofs.Grammar.Joined
import LitSpheres.Proofs.Grammar.LineEnds
import LitSpheres.Proofs.Text.Utf8
import LitSpheres.Proofs.Scene.File
import LitSpheres.Proofs.Scene.Outcome
import LitSpheres.Proofs.Definition.Titles
import LitSpheres.Proofs.Scene.Saved
import LitSpheres.Proofs.FileName
import LitSpheres.Proofs.CommandLine.Outcome
import LitSpheres.Proofs.Frame.LastColor
import LitSpheres.Proofs.Scene.LastWins
import LitSpheres.Proofs.Grammar.Cursor
import LitSpheres.Proofs.Text.Returns
import LitSpheres.Proofs.Grammar.Reworded
import LitSpheres.Proofs.Grammar.Returns
import LitSpheres.Proofs.Render.Opaque
import LitSpheres.Proofs.Render.Brighter
