import PackageRollup.Main
import PackageRollup.Proofs.BasePackage
import PackageRollup.Proofs.ClassName
import PackageRollup.Proofs.Session.Absorb
import PackageRollup.Proofs.Session.Records
import PackageRollup.Proofs.Report.Dependencies
import PackageRollup.Proofs.Report.Classification
import PackageRollup.Proofs.Report.Details
import PackageRollup.Proofs.Json.Rest
import PackageRollup.Proofs.Json.Limits
import PackageRollup.Proofs.Session.Lines
import PackageRollup.Proofs.Report.Sort
import PackageRollup.Proofs.Session.WellFormed
import PackageRollup.Proofs.Report.Coherence
import PackageRollup.Proofs.Report.Traversal
import PackageRollup.Proofs.Report.Repetition
import PackageRollup.Proofs.Session.Chunks
import PackageRollup.Proofs.Json.Outline
import PackageRollup.Proofs.Text.Utf8
import PackageRollup.Proofs.Text.Lines
import PackageRollup.Proofs.Run.Undecodable
import PackageRollup.Proofs.Session.Settled
import PackageRollup.Proofs.Report.Growth
import PackageRollup.Proofs.Report.Lossless
import PackageRollup.Proofs.Run.Output
import PackageRollup.Proofs.Files.Input
import PackageRollup.Proofs.Session.Latecomers
import PackageRollup.Proofs.Report.Coverage
import PackageRollup.Proofs.Text.LetterCase
import PackageRollup.Proofs.Name.List
import PackageRollup.Proofs.Name.NormalForm
import PackageRollup.Proofs.Toml.Shown
import PackageRollup.Proofs.Settings
import PackageRollup.Proofs.Files.Frame
import PackageRollup.Proofs.Run.Effect
import PackageRollup.Proofs.Coarsening
import PackageRollup.Proofs.Record.Members
import PackageRollup.Proofs.Report.LibraryUsage
import PackageRollup.Proofs.Files.Unavailable
import PackageRollup.Proofs.Run.Unavailable
import PackageRollup.Proofs.CommandLine.Mentions
import PackageRollup.Proofs.CommandLine.Precedence
import PackageRollup.Proofs.Run.Roots
import PackageRollup.Proofs.Text.Template
import PackageRollup.Proofs.Text.Delimited
import PackageRollup.Proofs.Report.Determined
import PackageRollup.Proofs.RollUp
import PackageRollup.Proofs.Text.FinalSigma
import PackageRollup.Proofs.Session.Matches
