import BitmapFont.CommandLine
import BitmapFont.CommandLine.Height
import BitmapFont.CommandLine.Help
import BitmapFont.CommandLine.Parse
import BitmapFont.CommandLine.Word
import BitmapFont.Compile
import BitmapFont.Cursor
import BitmapFont.Cursor.Program
import BitmapFont.Encode
import BitmapFont.FileStore
import BitmapFont.Glyph
import BitmapFont.Glyph.Table
import BitmapFont.Log
import BitmapFont.Log.Directive
import BitmapFont.Log.Filter
import BitmapFont.Main
import BitmapFont.Preview
import BitmapFont.Proofs.AcceptedHeights
import BitmapFont.Proofs.ArgumentGroups
import BitmapFont.Proofs.BreakChoice
import BitmapFont.Proofs.ByteScanner
import BitmapFont.Proofs.ByteText
import BitmapFont.Proofs.CompileRecords
import BitmapFont.Proofs.CompileStages
import BitmapFont.Proofs.CursorListing
import BitmapFont.Proofs.CursorPrograms
import BitmapFont.Proofs.CursorScans
import BitmapFont.Proofs.DecimalHeight
import BitmapFont.Proofs.DrawnRows
import BitmapFont.Proofs.FallibleSteps
import BitmapFont.Proofs.FileSystem
import BitmapFont.Proofs.GatedLog
import BitmapFont.Proofs.GlyphLookup
import BitmapFont.Proofs.GlyphPartition
import BitmapFont.Proofs.GlyphRoundTrip
import BitmapFont.Proofs.LineNumbers
import BitmapFont.Proofs.LineRecords
import BitmapFont.Proofs.LineStructure
import BitmapFont.Proofs.LogIndependence
import BitmapFont.Proofs.OutputPrecedence
import BitmapFont.Proofs.PreviewPrefix
import BitmapFont.Proofs.PreviewSource
import BitmapFont.Proofs.ProgramRun
import BitmapFont.Proofs.RowPacking
import BitmapFont.Proofs.SinkEncoding
import BitmapFont.Proofs.SourceConcatenation
import BitmapFont.Proofs.SourceRows
import BitmapFont.Proofs.SpelledConfig
import BitmapFont.Proofs.UsableConfig
import BitmapFont.Proofs.WidthRefinement
import BitmapFont.Proofs.WordEffects
import BitmapFont.Row
import BitmapFont.Row.Cursor
import BitmapFont.Run
import BitmapFont.Sink
import BitmapFont.Text.Alphabetic
import BitmapFont.Text.Extender
import BitmapFont.Text.Hex
import BitmapFont.Text.Line
import BitmapFont.Text.Pattern
import BitmapFont.Text.Pattern.Bracket
import BitmapFont.Text.Pattern.CharSet
import BitmapFont.Text.Pattern.Encoding
import BitmapFont.Text.Pattern.Escape
import BitmapFont.Text.Pattern.Fault
import BitmapFont.Text.Pattern.Meaning
import BitmapFont.Text.Pattern.Occurrence
import BitmapFont.Text.Pattern.Read
import BitmapFont.Text.Pattern.Reader
import BitmapFont.Text.Pattern.Refusal
import BitmapFont.Text.Pattern.Size
import BitmapFont.Text.Pattern.Tree
import BitmapFont.Text.Printed
import BitmapFont.Text.Quoted
import BitmapFont.Text.Shown
import BitmapFont.Text.Space
import BitmapFont.Text.Split
import BitmapFont.Text.Unprintable
import BitmapFont.Text.Utf8
