import LintRules.Config.Json
import LintRules.Files.Tree
import LintRules.Main
import LintRules.Proofs.ArgumentList
import LintRules.Proofs.CandidateNames
import LintRules.Proofs.Collision
import LintRules.Proofs.CommandRun
import LintRules.Proofs.ConfigExtension
import LintRules.Proofs.ConfigRuns
import LintRules.Proofs.Confinement
import LintRules.Proofs.DeclaredModule
import LintRules.Proofs.Delivery
import LintRules.Proofs.DirectoryScan
import LintRules.Proofs.ExtensionLookup
import LintRules.Proofs.FanOut
import LintRules.Proofs.FileTree
import LintRules.Proofs.FlatChain
import LintRules.Proofs.Hearing
import LintRules.Proofs.Interleaving
import LintRules.Proofs.JsonText
import LintRules.Proofs.LoadLog
import LintRules.Proofs.ManifestGrammar
import LintRules.Proofs.Merging
import LintRules.Proofs.PackageAnswers
import LintRules.Proofs.PackageDirectory
import LintRules.Proofs.Path
import LintRules.Proofs.PathBelow
import LintRules.Proofs.ProcessorPrecedence
import LintRules.Proofs.RcApplication
import LintRules.Proofs.RcFailure
import LintRules.Proofs.RcGrammar
import LintRules.Proofs.RcRewriting
import LintRules.Proofs.Registry
import LintRules.Proofs.RegistryHistory
import LintRules.Proofs.Reload
import LintRules.Proofs.ReportRows
import LintRules.Proofs.ResolverTree
import LintRules.Proofs.RuleFileNames
import LintRules.Proofs.RunEnvironment
import LintRules.Proofs.SkippedReferences
import LintRules.Proofs.SourcePriority
import LintRules.Proofs.Spelling
import LintRules.Proofs.StatedKind
import LintRules.Proofs.Table
import LintRules.Proofs.UniqueRules
import LintRules.Proofs.WatchedDirectory
