import Profiling.Aggregate
import Profiling.Arguments
import Profiling.Binary64
import Profiling.Combine
import Profiling.Command
import Profiling.Config
import Profiling.DebugFile
import Profiling.Demangle
import Profiling.Demangle.Cursor
import Profiling.Demangle.Legacy
import Profiling.Demangle.Structured
import Profiling.Digits
import Profiling.Disk
import Profiling.Duration
import Profiling.Dwarf.CompileUnit
import Profiling.Dwarf.Frames
import Profiling.Dwarf.Functions
import Profiling.Dwarf.Input
import Profiling.Dwarf.LineHeader
import Profiling.Dwarf.Lines
import Profiling.Dwarf.Ranges
import Profiling.Dwarf.Value
import Profiling.Fetch
import Profiling.FetchError
import Profiling.Grab
import Profiling.Gzip.Bits
import Profiling.Gzip.Inflate
import Profiling.Gzip.Member
import Profiling.Locate
import Profiling.Machine
import Profiling.Machine.InMemory
import Profiling.Machine.Script
import Profiling.Main
import Profiling.Merge
import Profiling.Object.Binary
import Profiling.Object.Elf
import Profiling.Object.Image
import Profiling.Object.Tables
import Profiling.Path
import Profiling.Pattern.Basic
import Profiling.Pattern.CharClass
import Profiling.Pattern.Class
import Profiling.Pattern.Parser
import Profiling.Profile.Basic
import Profiling.Profile.Check
import Profiling.Profile.Error
import Profiling.Profile.File
import Profiling.Profile.Functions
import Profiling.Profile.Scale
import Profiling.Profile.Strings
import Profiling.Proofs.AddedNames
import Profiling.Proofs.AddressSpaces
import Profiling.Proofs.Anchoring
import Profiling.Proofs.CanonicalUrls
import Profiling.Proofs.Catalogue
import Profiling.Proofs.Combining
import Profiling.Proofs.CommonUnits
import Profiling.Proofs.Compatibility
import Profiling.Proofs.Consistency
import Profiling.Proofs.Containment
import Profiling.Proofs.Conversion
import Profiling.Proofs.Copying
import Profiling.Proofs.Differences
import Profiling.Proofs.Digits
import Profiling.Proofs.Encoding
import Profiling.Proofs.Filing
import Profiling.Proofs.FilingRun
import Profiling.Proofs.Findings
import Profiling.Proofs.FinestTypes
import Profiling.Proofs.FirstSeen
import Profiling.Proofs.FirstUse
import Profiling.Proofs.Fixpoint
import Profiling.Proofs.GainedLines
import Profiling.Proofs.Gathering
import Profiling.Proofs.Grouping
import Profiling.Proofs.InternedFunctions
import Profiling.Proofs.Interning
import Profiling.Proofs.KeptOrigins
import Profiling.Proofs.LabelOrder
import Profiling.Proofs.LentNames
import Profiling.Proofs.LocalBinaries
import Profiling.Proofs.LocalClasses
import Profiling.Proofs.LocalEscapes
import Profiling.Proofs.LocalParts
import Profiling.Proofs.LocalPatterns
import Profiling.Proofs.LocalReaders
import Profiling.Proofs.Matching
import Profiling.Proofs.MergeLookups
import Profiling.Proofs.MergeRun
import Profiling.Proofs.MergeState
import Profiling.Proofs.MergeSteps
import Profiling.Proofs.MergeSums
import Profiling.Proofs.NamedHosts
import Profiling.Proofs.NormalForm
import Profiling.Proofs.NumberedFiles
import Profiling.Proofs.Origins
import Profiling.Proofs.Paths
import Profiling.Proofs.Pipeline
import Profiling.Proofs.PlainNames
import Profiling.Proofs.Pruning
import Profiling.Proofs.QueryCodec
import Profiling.Proofs.Reading
import Profiling.Proofs.Refetching
import Profiling.Proofs.Regrouping
import Profiling.Proofs.Relocation
import Profiling.Proofs.Requests
import Profiling.Proofs.Resolving
import Profiling.Proofs.Rounding
import Profiling.Proofs.SavedFiles
import Profiling.Proofs.SavedPlaces
import Profiling.Proofs.SettledUnits
import Profiling.Proofs.SoleParts
import Profiling.Proofs.StackFrames
import Profiling.Proofs.StartTimes
import Profiling.Proofs.StoredBlocks
import Profiling.Proofs.SymbolAnswers
import Profiling.Proofs.Tally
import Profiling.Proofs.TextTables
import Profiling.Proofs.Timeouts
import Profiling.Proofs.Truncation
import Profiling.Proofs.Units
import Profiling.Proofs.Upkeep
import Profiling.Proofs.WholeNumbers
import Profiling.Proofs.WireFields
import Profiling.Proofs.WireMessages
import Profiling.Proofs.WrittenPlaces
import Profiling.Provenance
import Profiling.Prune
import Profiling.Save
import Profiling.SaveName
import Profiling.Source
import Profiling.Symbolize
import Profiling.Symbolz
import Profiling.Unicode.Category
import Profiling.Unicode.Compose
import Profiling.Unicode.Fold
import Profiling.Unicode.HostMapping
import Profiling.Unicode.Joining
import Profiling.Unicode.Property
import Profiling.Unicode.Runs
import Profiling.Unicode.Script
import Profiling.Unit
import Profiling.Url.Basic
import Profiling.Url.Host
import Profiling.Url.Parser
import Profiling.Url.Percent
import Profiling.Url.Punycode
import Profiling.Url.Query
import Profiling.Wire.Field
import Profiling.Wire.Message
import Profiling.Wire.Varint
