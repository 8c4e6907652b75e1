import StyleSnapshot.CommandLine.Run
import StyleSnapshot.Comparison.Json
import StyleSnapshot.Corpus
import StyleSnapshot.Dictionary
import StyleSnapshot.Fingerprint.Tree
import StyleSnapshot.Fixture.Json
import StyleSnapshot.Glob
import StyleSnapshot.Main
import StyleSnapshot.Problem
import StyleSnapshot.Report.Json
import StyleSnapshot.Report.Text
import StyleSnapshot.Settings.Basic
import StyleSnapshot.Stylesheet.Piece
import StyleSnapshot.Toml.Reader
import StyleSnapshot.Proofs.Comparison.Exact
import StyleSnapshot.Proofs.Stylesheet.Blocks
import StyleSnapshot.Proofs.Stylesheet.Statements
import StyleSnapshot.Proofs.Snapshot.References
import StyleSnapshot.Proofs.Verification.OwnSnapshot
import StyleSnapshot.Proofs.Fixture.Rendering
import StyleSnapshot.Proofs.Text.Lines
import StyleSnapshot.Proofs.Fixture.Blocks
import StyleSnapshot.Proofs.Fixture.Reading
import StyleSnapshot.Proofs.Fixture.Extraction
import StyleSnapshot.Proofs.Histogram
import StyleSnapshot.Proofs.Report.Merge
import StyleSnapshot.Proofs.Verification.Corpus
import StyleSnapshot.Proofs.Comparison.Effective
import StyleSnapshot.Proofs.Verification.Accounting
import StyleSnapshot.Proofs.Verification.Skipping
import StyleSnapshot.Proofs.Fixture.Locality
import StyleSnapshot.Proofs.Snapshot.Spans
import StyleSnapshot.Proofs.Verification.OwnSheet
import StyleSnapshot.Proofs.Snapshot.Sheets
import StyleSnapshot.Proofs.CommandLine.Agreement
import StyleSnapshot.Proofs.Delimiter
import StyleSnapshot.Proofs.Comparison.Deferral
import StyleSnapshot.Proofs.Comparison.Layout
import StyleSnapshot.Proofs.Snapshot.FlatRules
import StyleSnapshot.Proofs.Fixture.Places
import StyleSnapshot.Proofs.Fixture.Pairing
import StyleSnapshot.Proofs.Fixture.Markers
import StyleSnapshot.Proofs.Stylesheet.Policies
import StyleSnapshot.Proofs.Stylesheet.WellFormed
import StyleSnapshot.Proofs.Stylesheet.Printing
import StyleSnapshot.Proofs.Stylesheet.Complete
import StyleSnapshot.Proofs.Stylesheet.Commented
import StyleSnapshot.Proofs.Fixture.Grammar
import StyleSnapshot.Proofs.Fixture.Provenance
import StyleSnapshot.Proofs.Scan
import StyleSnapshot.Proofs.Text.Bytes
import StyleSnapshot.Proofs.Snapshot.Template
import StyleSnapshot.Proofs.Verification.Progress
import StyleSnapshot.Proofs.Fixture.Literals
import StyleSnapshot.Proofs.Fixture.ThemedCall
import StyleSnapshot.Proofs.Offsets.Basic
import StyleSnapshot.Proofs.Offsets.Tokens
import StyleSnapshot.Proofs.Offsets.Calls
import StyleSnapshot.Proofs.Offsets.Snapshot
import StyleSnapshot.Proofs.Offsets.Blocks
import StyleSnapshot.Proofs.Offsets.Assertions
import StyleSnapshot.Proofs.Offsets.Extraction
import StyleSnapshot.Proofs.Report.Recording
import StyleSnapshot.Proofs.Offsets.Widening
import StyleSnapshot.Proofs.Fixture.Arrays
import StyleSnapshot.Proofs.Text.Rows
import StyleSnapshot.Proofs.Path
import StyleSnapshot.Proofs.Corpus
import StyleSnapshot.Proofs.Quotation
import StyleSnapshot.Proofs.Offsets.Loop
import StyleSnapshot.Proofs.Offsets.Closing
import StyleSnapshot.Proofs.Offsets.Comments
import StyleSnapshot.Proofs.Offsets.Stylesheet
