import Gutter.Json
import Gutter.Main
import Gutter.Proofs.CommandLine.Checking
import Gutter.Proofs.Hover
import Gutter.Proofs.Linter.Accepted
import Gutter.Proofs.Linter.Commands
import Gutter.Proofs.Linter.Parsing
import Gutter.Proofs.Linter.Reports
import Gutter.Proofs.Refresh.Modes
import Gutter.Proofs.Session.Answering
import Gutter.Proofs.Session.Asking
import Gutter.Proofs.Session.Revisions
import Gutter.Proofs.Session.Strays
import Gutter.Proofs.Session.Tracking
import Gutter.Proofs.Settings.Assigning
import Gutter.Proofs.Settings.Loading
import Gutter.Proofs.Storing
import Gutter.Proofs.Text.Rewrapping
import Gutter.Proofs.Text.Wrapping
import Gutter.Refresh.Whole
import Gutter.Proofs.Environment
import Gutter.Proofs.Console.Highlighting
