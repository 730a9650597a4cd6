import Minilang.Main
import Minilang.Parser.Operation
import Minilang.Proofs.LocalFaults
import Minilang.Proofs.Places
import Minilang.Proofs.RoundTrip
import Minilang.Proofs.Stages
import Minilang.Proofs.StrayTokens
import Minilang.Text.Cursor
import Minilang.Token.Outline
import Minilang.Proofs.Viability
import Minilang.Proofs.Columns
import Minilang.Proofs.Drawing
import Minilang.Proofs.ErrorPlaces
import Minilang.Proofs.LineEndings
import Minilang.Proofs.Placeholders
import Minilang.Proofs.Gaps
import Minilang.Proofs.Concatenation
import Minilang.Proofs.SessionRuns
import Minilang.Proofs.Lookahead
import Minilang.Proofs.Exhibits
import Minilang.Proofs.Coloring
import Minilang.Proofs.Advances
import Minilang.Proofs.ErrorOrder
import Minilang.Proofs.Consumption
import Minilang.Proofs.SourceUse
import Minilang.Proofs.Channels
import Minilang.Proofs.Rerendering
import Minilang.Proofs.Canonical
import Minilang.Proofs.Leaves
import Minilang.Proofs.Offsets
import Minilang.Proofs.Phrases
import Minilang.Proofs.LineParts
import Minilang.Proofs.CheckedDrawing
import Minilang.Proofs.Integers
import Minilang.Proofs.Listings
import Minilang.Proofs.Rearranging
import Minilang.Proofs.Gutters
import Minilang.Proofs.CursorSteps
import Minilang.Proofs.ScannerSteps
import Minilang.Proofs.WrittenRows
