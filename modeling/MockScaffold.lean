import MockScaffold.Main
import MockScaffold.Metadata.Encoder
import MockScaffold.Proofs.TypeExpr.Labels
import MockScaffold.Proofs.TypeExpr.RoundTrip
import MockScaffold.Proofs.TypeExpr.ParsedForm
import MockScaffold.Proofs.TypeExpr.Places
import MockScaffold.Proofs.TypeExpr.Rejection
import MockScaffold.Proofs.Decoding.Record
import MockScaffold.Proofs.Decoding.Values
import MockScaffold.Proofs.Metadata.Decoding
import MockScaffold.Proofs.Metadata.Loading
import MockScaffold.Proofs.Json.Tokens
import MockScaffold.Proofs.Decoding.Extension
import MockScaffold.Proofs.Json.Sorted
import MockScaffold.Proofs.Metadata.Pruning
import MockScaffold.Proofs.Json.RoundTrip
import MockScaffold.Proofs.Decoding.Filling
import MockScaffold.Proofs.Metadata.Readable
import MockScaffold.Proofs.Metadata.Saving
import MockScaffold.Proofs.Generator.Notes
import MockScaffold.Proofs.Generator.Runs
import MockScaffold.Proofs.Generator.Resolution
import MockScaffold.Proofs.Scaffold.Imports
import MockScaffold.Proofs.Scaffold.Coverage
import MockScaffold.Proofs.Scaffold.Independence
import MockScaffold.Proofs.TypeExpr.Trees
import MockScaffold.Proofs.TypeExpr.Written
import MockScaffold.Proofs.TypeExpr.Markers
import MockScaffold.Proofs.Files.Following
import MockScaffold.Proofs.Files.Contents
import MockScaffold.Proofs.Configuration.Nearest
import MockScaffold.Proofs.CommandLine.Reports
import MockScaffold.Proofs.CommandLine.Isolation
import MockScaffold.Proofs.TypeExpr.Surroundings
import MockScaffold.Proofs.TypeExpr.Blanks
import MockScaffold.Proofs.TypeExpr.Redundant
import MockScaffold.Proofs.TypeExpr.Composition
import MockScaffold.Proofs.Generator.Spellings
import MockScaffold.Proofs.Files.Writing
import MockScaffold.Proofs.Decoding.Layout
import MockScaffold.Proofs.Configuration.Saving
import MockScaffold.Proofs.CommandLine.Shadowing
import MockScaffold.Proofs.Files.Reordering
import MockScaffold.Proofs.Text.Bytes
import MockScaffold.Proofs.Metadata.Collection
import MockScaffold.Proofs.Text.Boundaries
import MockScaffold.Proofs.TypeExpr.Cursor
import MockScaffold.Proofs.TypeExpr.CursorReading
