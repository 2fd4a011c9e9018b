import ObjectConstraints.Address.DomainName
import ObjectConstraints.Address.Email
import ObjectConstraints.Address.Ip
import ObjectConstraints.Address.Punycode
import ObjectConstraints.Address.Url
import ObjectConstraints.Check
import ObjectConstraints.Compilation
import ObjectConstraints.Condition
import ObjectConstraints.Config
import ObjectConstraints.Config.Builder
import ObjectConstraints.ConstraintSet
import ObjectConstraints.Context
import ObjectConstraints.Document
import ObjectConstraints.Document.Catalog
import ObjectConstraints.Document.JsonSource
import ObjectConstraints.Document.JsonText
import ObjectConstraints.Document.Path
import ObjectConstraints.Document.Source
import ObjectConstraints.Document.TomlSource
import ObjectConstraints.Document.YamlSource
import ObjectConstraints.Failure
import ObjectConstraints.Instant
import ObjectConstraints.Json
import ObjectConstraints.Language
import ObjectConstraints.Message
import ObjectConstraints.Model.Class
import ObjectConstraints.Model.Interfaces
import ObjectConstraints.Model.Script
import ObjectConstraints.Model.Store
import ObjectConstraints.Model.Value
import ObjectConstraints.Number.DecimalText
import ObjectConstraints.Number.Double
import ObjectConstraints.Number.Width
import ObjectConstraints.Pattern.Expression
import ObjectConstraints.Pattern.Matcher
import ObjectConstraints.Pattern.Meaning
import ObjectConstraints.Pattern.Parser
import ObjectConstraints.Pattern.Size
import ObjectConstraints.Profiles
import ObjectConstraints.Proofs.BuilderCalls
import ObjectConstraints.Proofs.Building
import ObjectConstraints.Proofs.Caching
import ObjectConstraints.Proofs.Cascade
import ObjectConstraints.Proofs.Compiling
import ObjectConstraints.Proofs.ConditionReading
import ObjectConstraints.Proofs.ContainerPaths
import ObjectConstraints.Proofs.Depth
import ObjectConstraints.Proofs.Deriving
import ObjectConstraints.Proofs.DocumentLoading
import ObjectConstraints.Proofs.DocumentMerging
import ObjectConstraints.Proofs.Evaluations
import ObjectConstraints.Proofs.Eviction
import ObjectConstraints.Proofs.Fallbacks
import ObjectConstraints.Proofs.FieldAgreement
import ObjectConstraints.Proofs.Fitting
import ObjectConstraints.Proofs.Halting
import ObjectConstraints.Proofs.Heaps
import ObjectConstraints.Proofs.Histories
import ObjectConstraints.Proofs.InterfaceInvariants
import ObjectConstraints.Proofs.InterfaceWalk
import ObjectConstraints.Proofs.InvariantStatus
import ObjectConstraints.Proofs.KnownClasses
import ObjectConstraints.Proofs.LegalHistories
import ObjectConstraints.Proofs.LegalRuns
import ObjectConstraints.Proofs.Lookups
import ObjectConstraints.Proofs.MessageRendering
import ObjectConstraints.Proofs.Monotonicity
import ObjectConstraints.Proofs.NullArguments
import ObjectConstraints.Proofs.NumericBounds
import ObjectConstraints.Proofs.ObjectGraph
import ObjectConstraints.Proofs.Overwriting
import ObjectConstraints.Proofs.PatternChecks
import ObjectConstraints.Proofs.PatternClasses
import ObjectConstraints.Proofs.PatternGroups
import ObjectConstraints.Proofs.PatternMatching
import ObjectConstraints.Proofs.PatternReading
import ObjectConstraints.Proofs.Placement
import ObjectConstraints.Proofs.ProfileCommands
import ObjectConstraints.Proofs.ProfileDeletion
import ObjectConstraints.Proofs.Provenance
import ObjectConstraints.Proofs.Rebasing
import ObjectConstraints.Proofs.References
import ObjectConstraints.Proofs.Registering
import ObjectConstraints.Proofs.Registries
import ObjectConstraints.Proofs.Removal
import ObjectConstraints.Proofs.ReportShape
import ObjectConstraints.Proofs.Requests
import ObjectConstraints.Proofs.Rounding
import ObjectConstraints.Proofs.RunLogic
import ObjectConstraints.Proofs.SetDefinitions
import ObjectConstraints.Proofs.SetGathering
import ObjectConstraints.Proofs.SetInlining
import ObjectConstraints.Proofs.SetterNames
import ObjectConstraints.Proofs.Setters
import ObjectConstraints.Proofs.Simulation
import ObjectConstraints.Proofs.StaticGetters
import ObjectConstraints.Proofs.Steps
import ObjectConstraints.Proofs.Tables
import ObjectConstraints.Proofs.TargetPaths
import ObjectConstraints.Proofs.Termination
import ObjectConstraints.Proofs.Visits
import ObjectConstraints.Proofs.Walk
import ObjectConstraints.Proofs.Wrapping
import ObjectConstraints.Registry
import ObjectConstraints.Report.Class
import ObjectConstraints.Report.Config
import ObjectConstraints.Report.Failure
import ObjectConstraints.Report.Naming
import ObjectConstraints.Report.Value
import ObjectConstraints.Report.Violation
import ObjectConstraints.Satisfaction
import ObjectConstraints.Table
import ObjectConstraints.TargetPath
import ObjectConstraints.Toml.Parser
import ObjectConstraints.Toml.Value
import ObjectConstraints.Unicode.AgeData
import ObjectConstraints.Unicode.Blank
import ObjectConstraints.Unicode.Case
import ObjectConstraints.Unicode.CaseData
import ObjectConstraints.Unicode.CategoryData
import ObjectConstraints.Unicode.Composition
import ObjectConstraints.Unicode.CompositionData
import ObjectConstraints.Unicode.DirectionData
import ObjectConstraints.Unicode.DomainData
import ObjectConstraints.Unicode.Property
import ObjectConstraints.Unicode.PropertyData
import ObjectConstraints.Unicode.Ranges
import ObjectConstraints.Unicode.ScriptData
import ObjectConstraints.Validation.Entered
import ObjectConstraints.Validation.Position
import ObjectConstraints.Validation.Run
import ObjectConstraints.Validation.Traversal
import ObjectConstraints.Validator
import ObjectConstraints.Violation
import ObjectConstraints.Yaml.Cursor
import ObjectConstraints.Yaml.Lexer
import ObjectConstraints.Yaml.Node
import ObjectConstraints.Yaml.ScalarText
import ObjectConstraints.Yaml.Token
