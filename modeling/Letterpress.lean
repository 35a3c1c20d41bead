import Letterpress.Main
import Letterpress.Number.Exact
import Letterpress.Proofs.Config
import Letterpress.Proofs.Render.TextDrafts
import Letterpress.Proofs.Document.Box
import Letterpress.Proofs.Document.Structure
import Letterpress.Proofs.Document.Modest
import Letterpress.Proofs.Mail.Documents
import Letterpress.Proofs.Markup.Elements
import Letterpress.Proofs.Walk.Distance
import Letterpress.Proofs.Session.Calls
import Letterpress.Proofs.Walk.Calls
import Letterpress.Proofs.Mail.Payment
import Letterpress.Proofs.Markup.RoundTrip
import Letterpress.Proofs.Table.Moved
import Letterpress.Proofs.Walk.Alike
import Letterpress.Proofs.Walk.Moved
import Letterpress.Proofs.Document.Recompilation
import Letterpress.Proofs.Walk.Drafts
import Letterpress.Proofs.Session.Faults
import Letterpress.Proofs.Walk.Failures
import Letterpress.Proofs.Walk.Records
import Letterpress.Proofs.Walk.Pruned
import Letterpress.Proofs.Mail.Conservation
import Letterpress.Proofs.Render.Survival
import Letterpress.Proofs.Walk.ReadTexts
import Letterpress.Proofs.Walk.Geometry
import Letterpress.Proofs.Table.Shown
import Letterpress.Proofs.Walk.Borrowed
import Letterpress.Proofs.Design.Mended
import Letterpress.Proofs.CommandLine.Reports
import Letterpress.Proofs.Layout.Bands
import Letterpress.Proofs.Storage.FileTree
import Letterpress.Proofs.Mail.Storing
import Letterpress.Proofs.Document.Units
import Letterpress.Proofs.Document.Settled
import Letterpress.Proofs.Document.Detaching
import Letterpress.Proofs.Document.Repetition
import Letterpress.Proofs.Walk.Rows
import Letterpress.Proofs.Table.Widths
import Letterpress.Proofs.Style.Cleaning
import Letterpress.Proofs.Table.Corners
import Letterpress.Proofs.Document.Ordering
import Letterpress.Proofs.Document.Placing
import Letterpress.Proofs.Document.Heights
import Letterpress.Proofs.Document.Spacing
import Letterpress.Proofs.Text.Slug
import Letterpress.Proofs.Credit.FileLedger
import Letterpress.Proofs.Document.Published
import Letterpress.Proofs.Design.Outline
import Letterpress.Proofs.Walk.LinkTargets
import Letterpress.Proofs.Markup.CharacterData
import Letterpress.Proofs.Walk.Inspection
import Letterpress.Proofs.Table.Collected
import Letterpress.Proofs.Markup.Search
import Letterpress.Proofs.Markup.Building
