import OptionCompiler.CommandLine.Run
import OptionCompiler.Main
import OptionCompiler.Proofs.Binary64.Interval
import OptionCompiler.Proofs.Binary64.Notation
import OptionCompiler.Proofs.Json.Compact
import OptionCompiler.Proofs.Fingerprint
import OptionCompiler.Proofs.Encoding.Descriptor
import OptionCompiler.Proofs.Emission.Fragments
import OptionCompiler.Proofs.Encoding.Declaration
import OptionCompiler.Proofs.Encoding.RoundTrip
import OptionCompiler.Proofs.StageCache
import OptionCompiler.Proofs.Pipeline.Failure
import OptionCompiler.Proofs.Pipeline.History
import OptionCompiler.Proofs.Pipeline.Repetition
import OptionCompiler.Proofs.Extraction.Constraints
import OptionCompiler.Proofs.Extraction.Descriptors
import OptionCompiler.Proofs.Emission.Checks
import OptionCompiler.Proofs.Pipeline.Completion
import OptionCompiler.Proofs.Pipeline.Key
import OptionCompiler.Proofs.Validation.Placement
import OptionCompiler.Proofs.Validation.Findings
import OptionCompiler.Proofs.Validation.Independence
import OptionCompiler.Proofs.Emission.Blocking
import OptionCompiler.Proofs.Emission.Agreement
import OptionCompiler.Proofs.Emission.Recovery
import OptionCompiler.Proofs.Emission.FlagNames
import OptionCompiler.Proofs.Pipeline.Severities
import OptionCompiler.Proofs.Annotation.Interchange
import OptionCompiler.Proofs.Source.Reading
import OptionCompiler.Proofs.CommandLine.Generation
import OptionCompiler.Proofs.Source.Comment
import OptionCompiler.Proofs.Configuration.RuntimePath
import OptionCompiler.Proofs.StageCache.History
import OptionCompiler.Proofs.Flag.Grammar
import OptionCompiler.Proofs.Validation.BlockedMap
import OptionCompiler.Proofs.Pipeline.Rendering
import OptionCompiler.Proofs.Annotation.Count
import OptionCompiler.Proofs.Source.Identifier
import OptionCompiler.Proofs.Source.Indentation
