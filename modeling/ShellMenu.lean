import ShellMenu.Json.Reader.Lemmas
import ShellMenu.Main
import ShellMenu.Proofs.Build.Totality
import ShellMenu.Proofs.Plan.Dispatch
import ShellMenu.Proofs.Plan.Gates
import ShellMenu.Proofs.Plan.Help
import ShellMenu.Proofs.Build.Separation
import ShellMenu.Proofs.Spec.Names
import ShellMenu.Proofs.Build.Names
import ShellMenu.Proofs.Files.Tree
import ShellMenu.Proofs.Files.Artifacts
import ShellMenu.Proofs.CommandLine.Failure
import ShellMenu.Proofs.Schema.WholeNames
import ShellMenu.Proofs.Plan.Arguments
import ShellMenu.Proofs.Plan.Bounds
import ShellMenu.Proofs.Plan.Binding
import ShellMenu.Proofs.Plan.Unsupported
import ShellMenu.Proofs.Bash.Bodies
import ShellMenu.Proofs.Build.Documentation
import ShellMenu.Proofs.Json.Leaves
import ShellMenu.Proofs.Json.Indented
import ShellMenu.Proofs.Files.StoredJson
import ShellMenu.Proofs.Bash.Format
import ShellMenu.Proofs.Text.Marks
import ShellMenu.Proofs.Build.Capture
import ShellMenu.Proofs.Spec.LevelOrder
import ShellMenu.Proofs.Files.Fragments
import ShellMenu.Proofs.Batch.Redirection
import ShellMenu.Proofs.Build.Captions
import ShellMenu.Proofs.Batch.Labels
import ShellMenu.Proofs.Batch.Jumps
import ShellMenu.Proofs.Batch.Conversion
import ShellMenu.Proofs.Diff.Matching
import ShellMenu.Proofs.Diff.Patch
import ShellMenu.Proofs.Files.Drift
import ShellMenu.Proofs.Spec.PrintedDigest
import ShellMenu.Proofs.Text.LineEnds
import ShellMenu.Proofs.Banner.Rainbow
import ShellMenu.Proofs.Banner.Art
