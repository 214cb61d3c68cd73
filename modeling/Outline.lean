import Outline.Main
import Outline.Session
import Outline.Proofs.Tree.Positions
import Outline.Proofs.Tree.Reduction
import Outline.Proofs.Tree.SourceOrder
import Outline.Proofs.Template.Entries
import Outline.Proofs.Template.SourceOrder
import Outline.Proofs.Node.Group
import Outline.Proofs.Node.Reading
import Outline.Proofs.Node.Extent
import Outline.Proofs.Node.RoundTrip
import Outline.Proofs.Text.Lines
import Outline.Proofs.Tree.Levels
import Outline.Proofs.Tree.Listing
import Outline.Proofs.Template.Printing
import Outline.Proofs.Template.RoundTrip
import Outline.Proofs.Tree.Stack
import Outline.Proofs.Template.Sections
import Outline.Proofs.Template.Outcome
import Outline.Proofs.Template.Trees
import Outline.Proofs.Template.Numbers
import Outline.Proofs.Template.Concatenation
import Outline.Proofs.Template.Layout
import Outline.Proofs.Tree.Alignment
import Outline.Proofs.Dom.Building
import Outline.Proofs.Dom.Element
import Outline.Proofs.Dom.Edit
import Outline.Proofs.Dom.Handles
import Outline.Proofs.Dom.Generation
import Outline.Proofs.Dom.Mirror
import Outline.Proofs.Dom.Run
import Outline.Proofs.Dom.Protocol
import Outline.Proofs.Dom.Attempt
import Outline.Proofs.Dom.Plan
import Outline.Proofs.Dom.Returns
import Outline.Proofs.Dom.Delivery
import Outline.Proofs.Markup.Unique
import Outline.Proofs.Event.Name
import Outline.Proofs.Event.Registry
import Outline.Proofs.Event.Repetition
import Outline.Proofs.Template.Passes
import Outline.Proofs.Session.Separator
import Outline.Proofs.Dom.Lineage
import Outline.Proofs.Dom.Growth
import Outline.Proofs.Template.Separator
import Outline.Proofs.Node.Separator
import Outline.Proofs.Node.Fragments
import Outline.Proofs.Node.Layout
import Outline.Proofs.Node.Keeping
import Outline.Proofs.Files.Delivery
import Outline.Proofs.Command.Options
import Outline.Proofs.Text.Terminal
import Outline.Proofs.Command.Rendering
import Outline.Proofs.Command.Listing
import Outline.Proofs.Yaml.Scalar
import Outline.Proofs.Yaml.Layout
import Outline.Proofs.Yaml.Reading
import Outline.Proofs.Yaml.Survey
import Outline.Proofs.Settings.Loading
