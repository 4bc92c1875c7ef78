import PlotDeck.Host.Programs
import PlotDeck.Main
import PlotDeck.Proofs.Build.Footprint
import PlotDeck.Proofs.Build.Passes
import PlotDeck.Proofs.Compare.Discovery
import PlotDeck.Proofs.Compare.Number
import PlotDeck.Proofs.Deck.Span
import PlotDeck.Proofs.Document.FrontMatter
import PlotDeck.Proofs.Json.Rearrangement
import PlotDeck.Proofs.Layout.Images
import PlotDeck.Proofs.Layout.Losses
import PlotDeck.Proofs.Layout.Registering
import PlotDeck.Proofs.Layout.Skeleton
import PlotDeck.Proofs.Template.EndBreaks
import PlotDeck.Proofs.Template.Marks
import PlotDeck.Proofs.Template.OpenDirective
import PlotDeck.Proofs.Template.Pieces
import PlotDeck.Proofs.Template.Shown
import PlotDeck.Proofs.Template.SlotNames
import PlotDeck.Proofs.Template.Tiling
