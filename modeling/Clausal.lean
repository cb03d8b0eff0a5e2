import Clausal.CommandLine.Report
import Clausal.FileTree
import Clausal.Main
import Clausal.Proofs.Accessors
import Clausal.Proofs.Balance
import Clausal.Proofs.Braces
import Clausal.Proofs.Brackets
import Clausal.Proofs.Conservation
import Clausal.Proofs.Contents
import Clausal.Proofs.Depth
import Clausal.Proofs.Elements
import Clausal.Proofs.Faults
import Clausal.Proofs.Folding
import Clausal.Proofs.Fragments
import Clausal.Proofs.Layout
import Clausal.Proofs.Lines
import Clausal.Proofs.Numerals
import Clausal.Proofs.Omissions
import Clausal.Proofs.Outcomes
import Clausal.Proofs.Phrases
import Clausal.Proofs.Quotations
import Clausal.Proofs.Relaxing
import Clausal.Proofs.Rounding
import Clausal.Proofs.Routines
import Clausal.Proofs.Schedules
import Clausal.Proofs.Semicolons
import Clausal.Proofs.Spans
import Clausal.Proofs.Stacking
import Clausal.Proofs.Unrecognized
import Clausal.Proofs.Commands
import Clausal.Proofs.Paths
import Clausal.Proofs.Printing
import Clausal.Proofs.Coordinates
import Clausal.Proofs.Reports
