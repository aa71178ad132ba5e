import JournalSelect.Main
import JournalSelect.Predicate.Inspect
import JournalSelect.Proofs.CommandLine.Arguments
import JournalSelect.Proofs.Except
import JournalSelect.Proofs.Filter.Bodies
import JournalSelect.Proofs.Filter.Coherence
import JournalSelect.Proofs.Filter.Compile
import JournalSelect.Proofs.Filter.Encoding
import JournalSelect.Proofs.Filter.Fit
import JournalSelect.Proofs.Filter.Grouping
import JournalSelect.Proofs.Filter.Meaning
import JournalSelect.Proofs.Filter.Relevance
import JournalSelect.Proofs.Filter.Rendering
import JournalSelect.Proofs.Filter.Validation
import JournalSelect.Proofs.Filter.Words
import JournalSelect.Proofs.Glob.Arrangement
import JournalSelect.Proofs.Glob.Completion
import JournalSelect.Proofs.Glob.Grammar
import JournalSelect.Proofs.Glob.Joining
import JournalSelect.Proofs.Glob.Language
import JournalSelect.Proofs.Glob.Leftmost
import JournalSelect.Proofs.Glob.Matching
import JournalSelect.Proofs.Glob.Reading
import JournalSelect.Proofs.Glob.Segments
import JournalSelect.Proofs.Glob.WellFormed
import JournalSelect.Proofs.Json.Reading
import JournalSelect.Proofs.Json.Spelling
import JournalSelect.Proofs.Json.Values
import JournalSelect.Proofs.Predicate
import JournalSelect.Proofs.Predicate.Calls
import JournalSelect.Proofs.Program
import JournalSelect.Proofs.Selection
import JournalSelect.Proofs.Settings.Composition
import JournalSelect.Proofs.Settings.Effective
import JournalSelect.Proofs.Settings.Entries
import JournalSelect.Proofs.Settings.Printing
import JournalSelect.Proofs.Settings.Setting
import JournalSelect.Proofs.Text.Numeral
import JournalSelect.Proofs.Text.Quoted
import JournalSelect.Proofs.Text.Utf8
import JournalSelect.Yaml.Block
import JournalSelect.Yaml.Classic.Scalar
import JournalSelect.Yaml.Classic.Scanner
import JournalSelect.Yaml.Modern.Scalar
import JournalSelect.Yaml.Modern.Scanner
