import ProblemVisualizer.App.History
import ProblemVisualizer.Export.Recorder
import ProblemVisualizer.Main
import ProblemVisualizer.Proofs.Session.Lifecycle
import ProblemVisualizer.Proofs.Session.Workers
import ProblemVisualizer.Proofs.App.Steps
import ProblemVisualizer.Proofs.App.Outstanding
import ProblemVisualizer.Proofs.App.Calls
import ProblemVisualizer.Proofs.App.InFlight
import ProblemVisualizer.Proofs.App.Mirror
import ProblemVisualizer.Proofs.Json.Grammar
import ProblemVisualizer.Proofs.Json.Reading
import ProblemVisualizer.Proofs.Json.Skipping
import ProblemVisualizer.Proofs.Json.Records
import ProblemVisualizer.Proofs.Json.Spelled
import ProblemVisualizer.Proofs.Json.Objects
import ProblemVisualizer.Proofs.Generation.Interpretation
import ProblemVisualizer.Proofs.Generation.Rejection
import ProblemVisualizer.Proofs.App.InlineErrors
import ProblemVisualizer.Proofs.Files.Names
import ProblemVisualizer.Proofs.Files.Trees
import ProblemVisualizer.Proofs.Export.Safekeeping
import ProblemVisualizer.Proofs.Generation.Encoding
import ProblemVisualizer.Proofs.App.Timing
import ProblemVisualizer.Proofs.App.ErrorHistory
import ProblemVisualizer.Proofs.App.RoundTrip
import ProblemVisualizer.Proofs.Text.Zipper
import ProblemVisualizer.Proofs.App.Saving
import ProblemVisualizer.Proofs.App.Exchanges
import ProblemVisualizer.Proofs.Screen.Discretion
import ProblemVisualizer.Proofs.App.Opening
import ProblemVisualizer.Proofs.Screen.Pages
import ProblemVisualizer.Proofs.Screen.Greedy
import ProblemVisualizer.Proofs.Screen.CursorPlace
import ProblemVisualizer.Proofs.App.Submissions
import ProblemVisualizer.Proofs.Screen.Stacking
import ProblemVisualizer.Proofs.Screen.TerminalCursor
import ProblemVisualizer.Proofs.Screen.Painting
import ProblemVisualizer.Proofs.Screen.UnderCursor
import ProblemVisualizer.Proofs.Files.Directories
import ProblemVisualizer.Proofs.Export.AllOrNothing
import ProblemVisualizer.Proofs.Json.Texts
import ProblemVisualizer.Proofs.Settings.Layers
import ProblemVisualizer.Proofs.Generation.Explanations
import ProblemVisualizer.Proofs.Screen.HelpWindow
import ProblemVisualizer.Proofs.Settings.Endpoint
import ProblemVisualizer.Proofs.Screen.OwnAreas
