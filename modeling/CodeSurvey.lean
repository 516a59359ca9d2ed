import CodeSurvey.Analysis
import CodeSurvey.Archive.Bits
import CodeSurvey.Archive.Bzip2
import CodeSurvey.Archive.Inflate
import CodeSurvey.Archive.PrefixCode
import CodeSurvey.Archive.Record
import CodeSurvey.Archive.StateTable
import CodeSurvey.Archive.Zip
import CodeSurvey.Archive.Zstandard.Checksum
import CodeSurvey.Archive.Zstandard.Frame
import CodeSurvey.Archive.Zstandard.Literal
import CodeSurvey.Archive.Zstandard.Sequence
import CodeSurvey.Classes.ClassFile
import CodeSurvey.Classes.ClassGraph
import CodeSurvey.CommandLine.Arguments
import CodeSurvey.CommandLine.Help
import CodeSurvey.CommandLine.Invocation
import CodeSurvey.CommandLine.Outcome
import CodeSurvey.Compile.Cascade
import CodeSurvey.Compile.Classpath
import CodeSurvey.Compile.Command
import CodeSurvey.Compile.Toolchain
import CodeSurvey.Config
import CodeSurvey.Error
import CodeSurvey.FileTree
import CodeSurvey.FileTree.Changes
import CodeSurvey.Glob
import CodeSurvey.Ignore
import CodeSurvey.JsonValue
import CodeSurvey.Main
import CodeSurvey.Modules
import CodeSurvey.Names
import CodeSurvey.Ordered
import CodeSurvey.Path
import CodeSurvey.Pattern.Automaton
import CodeSurvey.Pattern.Basic
import CodeSurvey.Pattern.Regular
import CodeSurvey.Pattern.Search
import CodeSurvey.Proofs.Classes.Decoding
import CodeSurvey.Proofs.Classes.Entries
import CodeSurvey.Proofs.Classes.Graph
import CodeSurvey.Proofs.Classes.Layout
import CodeSurvey.Proofs.Classes.Pool
import CodeSurvey.Proofs.Compile.FirstWinner
import CodeSurvey.Proofs.Project.Partition
import CodeSurvey.Proofs.Project.PathBelow
import CodeSurvey.Proofs.Source.Agreement
import CodeSurvey.Proofs.Source.ClassMethods
import CodeSurvey.Proofs.Source.ClassText
import CodeSurvey.Proofs.Source.Lexeme
import CodeSurvey.Proofs.Source.Matching
import CodeSurvey.Proofs.Source.Provenance
import CodeSurvey.Proofs.Source.Scan
import CodeSurvey.Proofs.Source.Segments
import CodeSurvey.Proofs.Stack.Content
import CodeSurvey.Proofs.Stack.PomReading
import CodeSurvey.Proofs.Stack.PomSummary
import CodeSurvey.Proofs.Text.Utf8
import CodeSurvey.Proofs.Trace.Chains
import CodeSurvey.Proofs.Trace.Declarations
import CodeSurvey.Proofs.Trace.Emission
import CodeSurvey.Proofs.Trace.Hops
import CodeSurvey.Proofs.Trace.Separation
import CodeSurvey.Report.Basic
import CodeSurvey.Report.Document
import CodeSurvey.Report.Handoff
import CodeSurvey.Role
import CodeSurvey.Shell.Arithmetic
import CodeSurvey.Shell.Builtin.Process
import CodeSurvey.Shell.Builtin.Variables
import CodeSurvey.Shell.ByteText
import CodeSurvey.Shell.Channel
import CodeSurvey.Shell.CharClass
import CodeSurvey.Shell.Execution
import CodeSurvey.Shell.Expansion
import CodeSurvey.Shell.Job
import CodeSurvey.Shell.LinePattern
import CodeSurvey.Shell.Number
import CodeSurvey.Shell.Options
import CodeSurvey.Shell.Program.Conditions
import CodeSurvey.Shell.Program.Contents
import CodeSurvey.Shell.Program.Edit
import CodeSurvey.Shell.Program.Files
import CodeSurvey.Shell.Program.Formatted
import CodeSurvey.Shell.Program.Lines
import CodeSurvey.Shell.Program.Running
import CodeSurvey.Shell.Program.Search
import CodeSurvey.Shell.Program.System
import CodeSurvey.Shell.Redirection
import CodeSurvey.Shell.Run
import CodeSurvey.Shell.Script
import CodeSurvey.Shell.Signal
import CodeSurvey.Shell.Wildcard
import CodeSurvey.Shell.Word
import CodeSurvey.Source.Comments
import CodeSurvey.Source.Files
import CodeSurvey.Source.Literals
import CodeSurvey.Source.Methods
import CodeSurvey.Stack.BuildScript
import CodeSurvey.Stack.Detect
import CodeSurvey.Stack.Package
import CodeSurvey.Stack.Pom
import CodeSurvey.Stack.Summary
import CodeSurvey.Surveyor
import CodeSurvey.Text.Age
import CodeSurvey.Text.ByteRange
import CodeSurvey.Text.Case
import CodeSurvey.Text.Category
import CodeSurvey.Text.CharSet
import CodeSurvey.Text.Folding
import CodeSurvey.Text.Letter
import CodeSurvey.Text.Property
import CodeSurvey.Text.PropertyName
import CodeSurvey.Text.Script
import CodeSurvey.Text.Segmentation
import CodeSurvey.Text.Utf8
import CodeSurvey.Text.Words
import CodeSurvey.Toml.Reader
import CodeSurvey.Toml.Value
import CodeSurvey.Toml.Writer
import CodeSurvey.Trace.Endpoint
import CodeSurvey.Trace.IgnoreList
import CodeSurvey.Trace.Injection
import CodeSurvey.Trace.Sequence
import CodeSurvey.Trace.Tracer
import CodeSurvey.Tuning
import CodeSurvey.Written.Bracket
import CodeSurvey.Written.Escape
import CodeSurvey.Written.Reading
import CodeSurvey.Xml
import CodeSurvey.Proofs.Classes.Directories
import CodeSurvey.Proofs.Compile.Jars
import CodeSurvey.Proofs.Analysis.RunHistory
import CodeSurvey.Proofs.Analysis.WorkerPool
import CodeSurvey.Proofs.Analysis.Effects
import CodeSurvey.Proofs.CommandLine.SharedOutput
import CodeSurvey.Proofs.Project.Trimmed
import CodeSurvey.Proofs.Project.Writing
import CodeSurvey.Proofs.Report.Artifacts
import CodeSurvey.Proofs.Stack.Descriptors
import CodeSurvey.Proofs.Trace.Literals
import CodeSurvey.Proofs.Source.Refilling
import CodeSurvey.Proofs.Source.Slices
import CodeSurvey.Proofs.Settings.Saved
import CodeSurvey.Proofs.Source.Lines
import CodeSurvey.Proofs.Source.Normalized
import CodeSurvey.Proofs.Trace.Calls
import CodeSurvey.Proofs.Classes.Truncation
import CodeSurvey.Proofs.Pattern.Places
import CodeSurvey.Proofs.Trace.Fields
import CodeSurvey.Proofs.Trace.KnownClasses
import CodeSurvey.Proofs.Source.TypeNames
import CodeSurvey.Proofs.Pattern.Repetitions
import CodeSurvey.Proofs.Pattern.Replacing
import CodeSurvey.Proofs.Pattern.Searches
import CodeSurvey.Proofs.Pattern.Insertions
import CodeSurvey.Proofs.Trace.Annotations
import CodeSurvey.Proofs.Trace.TypeArguments
import CodeSurvey.Proofs.Trace.Payloads
import CodeSurvey.Proofs.Trace.Responses
import CodeSurvey.Proofs.Trace.Constructors
import CodeSurvey.Proofs.Trace.Parameters
import CodeSurvey.Proofs.Trace.Markers
import CodeSurvey.Proofs.Trace.MarkedParameters
import CodeSurvey.Proofs.Compile.ArgumentFiles
import CodeSurvey.Proofs.Stack.Manifests
import CodeSurvey.Proofs.Stack.Placeholders
import CodeSurvey.Proofs.Pattern.LeadingBlanks
import CodeSurvey.Proofs.Pattern.Readers
import CodeSurvey.Proofs.Stack.CommentedLines
import CodeSurvey.Proofs.Trace.Labels
import CodeSurvey.Proofs.Project.Roles
import CodeSurvey.Proofs.Toml.Ranges
import CodeSurvey.Proofs.Settings.Waiting
import CodeSurvey.Proofs.Trace.Headings
import CodeSurvey.Proofs.Source.WholeCharacters
import CodeSurvey.Proofs.Compile.JarNames
