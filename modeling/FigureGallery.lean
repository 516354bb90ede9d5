import FigureGallery.Main
import FigureGallery.Server.Receive
import FigureGallery.Proofs.Text.Cut
import FigureGallery.Proofs.Text.Lines
import FigureGallery.Proofs.Include.Search
import FigureGallery.Proofs.Include.Walker
import FigureGallery.Proofs.Path.Components
import FigureGallery.Proofs.Path.Normal
import FigureGallery.Proofs.FileTree.Location
import FigureGallery.Proofs.Document.Source
import FigureGallery.Proofs.Include.Walk
import FigureGallery.Proofs.Figure.Outcome
import FigureGallery.Proofs.Include.Worklist
import FigureGallery.Proofs.Scanner.Scan
import FigureGallery.Proofs.Markup.Marker
import FigureGallery.Proofs.Markup.Shape
import FigureGallery.Proofs.Markup.Delimiter
import FigureGallery.Proofs.Figure.Extraction
import FigureGallery.Proofs.Session.History
import FigureGallery.Proofs.Workspace.Operation
import FigureGallery.Proofs.Workspace.Pending
import FigureGallery.Proofs.Text.Position
import FigureGallery.Proofs.Workspace.Editing
import FigureGallery.Proofs.Path.FileName
import FigureGallery.Proofs.Workspace.Coherence
import FigureGallery.Proofs.Scanner.Extension
import FigureGallery.Proofs.Server.Reachable
import FigureGallery.Proofs.Server.Notice
import FigureGallery.Proofs.Include.Agreement
import FigureGallery.Proofs.Root.Search
import FigureGallery.Proofs.Include.Extension
import FigureGallery.Proofs.Scanner.Overlay
import FigureGallery.Proofs.Scanner.Agreement
import FigureGallery.Proofs.Workspace.Ignored
import FigureGallery.Proofs.FileTree.Difference
import FigureGallery.Proofs.Scanner.Relevance
import FigureGallery.Proofs.Workspace.Configuration
import FigureGallery.Proofs.FileTree.Shape
import FigureGallery.Proofs.FileTree.Writing
import FigureGallery.Proofs.Server.Configuration
import FigureGallery.Proofs.Document.Saving
import FigureGallery.Proofs.Include.Tidy
import FigureGallery.Proofs.Scanner.Saving
import FigureGallery.Proofs.Server.Handling
import FigureGallery.Proofs.Server.Publication
import FigureGallery.Proofs.Text.Decoding
import FigureGallery.Proofs.Uri.File
import FigureGallery.Proofs.Server.Rooted
import FigureGallery.Proofs.CommandLine.Agreement
import FigureGallery.Proofs.Workspace.View
import FigureGallery.Proofs.Server.Scheme
import FigureGallery.Proofs.Include.Live
import FigureGallery.Proofs.Scanner.Reading
import FigureGallery.Proofs.Html.Reading
import FigureGallery.Proofs.Html.Page
import FigureGallery.Proofs.Json.Scalar
import FigureGallery.Proofs.Json.Rendering
import FigureGallery.Proofs.Json.Range
import FigureGallery.Proofs.Json.Message
import FigureGallery.Proofs.Server.Active
import FigureGallery.Proofs.Text.LineBreak
import FigureGallery.Proofs.Figure.Line
import FigureGallery.Proofs.Scanner.LineBreak
import FigureGallery.Proofs.Path.Neat
import FigureGallery.Proofs.Path.Place
import FigureGallery.Proofs.Path.Reference
import FigureGallery.Proofs.Root.Way
import FigureGallery.Proofs.Exclusion.Lost
import FigureGallery.Proofs.Root.Nearest
import FigureGallery.Proofs.Scanner.Root
import FigureGallery.Proofs.Include.Spelling
import FigureGallery.Proofs.Include.Unreadable
import FigureGallery.Proofs.Text.Boundary
import FigureGallery.Proofs.Workspace.Replacement
import FigureGallery.Proofs.Server.Breaking
import FigureGallery.Proofs.Scanner.Position
import FigureGallery.Proofs.Markup.Nesting
import FigureGallery.Proofs.Figure.Label
import FigureGallery.Proofs.Figure.Lookahead
import FigureGallery.Proofs.Markup.Comment
import FigureGallery.Proofs.Markup.Depth
import FigureGallery.Proofs.Figure.Preamble
import FigureGallery.Proofs.Figure.Printing
import FigureGallery.Proofs.Server.Navigation
import FigureGallery.Proofs.Exclusion.Seen
import FigureGallery.Proofs.Exclusion.Unnegated
import FigureGallery.Proofs.Scanner.Exclusion
import FigureGallery.Proofs.Scanner.Dots
import FigureGallery.Proofs.Html.ImageUrl
import FigureGallery.Proofs.Html.ImageSource
import FigureGallery.Proofs.Markup.Target
import FigureGallery.Proofs.Figure.Caption
import FigureGallery.Proofs.Scanner.Fallback
import FigureGallery.Proofs.Toml.Comment
import FigureGallery.Proofs.CommandLine.Init
