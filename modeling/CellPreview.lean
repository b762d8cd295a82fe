import CellPreview.Main
import CellPreview.Editor.Session
import CellPreview.Proofs.Formula.Grammar
import CellPreview.Proofs.Formula.Locality
import CellPreview.Proofs.Formula.Degradation
import CellPreview.Proofs.Formula.Filling
import CellPreview.Proofs.Rendering.Independence
import CellPreview.Proofs.Markup.ReadBack
import CellPreview.Proofs.Numeric.Rounding
import CellPreview.Proofs.Numeric.Shortest
import CellPreview.Proofs.Json.Numeral
import CellPreview.Proofs.Json.Number
import CellPreview.Proofs.Entries
import CellPreview.Proofs.Json.Readable
import CellPreview.Proofs.Json.TextLiteral
import CellPreview.Proofs.Json.Layout
import CellPreview.Proofs.Json.ReadBack
import CellPreview.Proofs.Json.Reformatting
import CellPreview.Proofs.Json.Document
import CellPreview.Proofs.Editor.LastGood
import CellPreview.Proofs.Editor.Reformatting
import CellPreview.Proofs.Profile.Documents
import CellPreview.Proofs.Editor.Selection
import CellPreview.Proofs.Blueprint.ReadBack
import CellPreview.Proofs.Formula.Respacing
import CellPreview.Proofs.Rendering.Outline
import CellPreview.Proofs.Rendering.Mirror
import CellPreview.Proofs.Markup.Spacing
import CellPreview.Proofs.Markup.Page
import CellPreview.Proofs.Rendering.Page
import CellPreview.Proofs.Command.Rendering
import CellPreview.Proofs.Command.ReadBack
import CellPreview.Proofs.Formula.Causes
import CellPreview.Proofs.Formula.Shape
import CellPreview.Proofs.Formula.Culprits
import CellPreview.Proofs.Formula.Shallow
import CellPreview.Proofs.Formula.Unlimited
import CellPreview.Proofs.Formula.Derivation
import CellPreview.Proofs.Formula.Limit
import CellPreview.Proofs.Formula.Substitution
import CellPreview.Proofs.Numeric.Integer
import CellPreview.Proofs.Formula.Measures
import CellPreview.Proofs.Formula.Addition
import CellPreview.Proofs.Style.Casing
import CellPreview.Proofs.Rendering.Styles
import CellPreview.Proofs.Rendering.Attributes
import CellPreview.Proofs.Markup.Indentation
import CellPreview.Proofs.Command.Formatting
import CellPreview.Proofs.Command.Samples
import CellPreview.Proofs.Command.Failing
import CellPreview.Proofs.Formula.Tiling
import CellPreview.Proofs.Markup.Visits
import CellPreview.Proofs.Formula.Quotes
import CellPreview.Proofs.Formula.ArgumentPlaces
