import FormEdit.Document.Cursor
import FormEdit.Document.Index
import FormEdit.Edit.Wrap
import FormEdit.Main
import FormEdit.Node.Outline
import FormEdit.Proofs.Document.Grammar
import FormEdit.Proofs.Document.Lossless
import FormEdit.Proofs.Edit.Wrap
import FormEdit.Proofs.Token.Seam
import FormEdit.Proofs.Token.Shape
import FormEdit.Proofs.Token.Overlap
import FormEdit.Service.Tools
import FormEdit.Value.Order
import FormEdit.Proofs.Document.Span
import FormEdit.Proofs.Document.Join
import FormEdit.Proofs.Edit.Neighbours
import FormEdit.Proofs.Token.Splice
import FormEdit.Proofs.Document.Alone
import FormEdit.Proofs.Token.Growth
import FormEdit.Proofs.Edit.Substitution
import FormEdit.Proofs.Bencode.Longer
import FormEdit.Proofs.Bencode.Chunks
import FormEdit.Proofs.Bencode.Normal
import FormEdit.Proofs.Number.Numeral
import FormEdit.Proofs.Bencode.Written
import FormEdit.Proofs.Bencode.ReadBack
import FormEdit.Proofs.Bencode.Decoded
import FormEdit.Proofs.Bencode.RoundTrip
import FormEdit.Proofs.Document.Moves
import FormEdit.Proofs.Document.Index
import FormEdit.Proofs.Token.Lines
import FormEdit.Proofs.Document.Lines
import FormEdit.Proofs.Edit.Lines
import FormEdit.Proofs.Document.Completion
import FormEdit.Proofs.Document.Replace
import FormEdit.Proofs.Token.Hash
import FormEdit.Proofs.Document.Hash
import FormEdit.Proofs.Edit.Enclose
import FormEdit.Proofs.Edit.Commute
import FormEdit.Proofs.Workspace.Action
import FormEdit.Proofs.Workspace.Keep
import FormEdit.Proofs.Workspace.Tree
import FormEdit.Proofs.Command.Effects
import FormEdit.Proofs.Edit.Spanning
import FormEdit.Proofs.Text.Lines
import FormEdit.Proofs.Files.Numbered
import FormEdit.Proofs.Bencode.Messages
import FormEdit.Proofs.Nrepl.Responses
import FormEdit.Proofs.Nrepl.Receive
import FormEdit.Proofs.Nrepl.Exchange
import FormEdit.Proofs.Nrepl.Status
import FormEdit.Proofs.Nrepl.Outcome
import FormEdit.Proofs.Nrepl.Transcript
import FormEdit.Proofs.Position
import FormEdit.Proofs.Document.Issue
import FormEdit.Proofs.Document.Viable
import FormEdit.Proofs.Document.Splice
import FormEdit.Proofs.Edit.Outcome
import FormEdit.Proofs.Edit.EndLine
import FormEdit.Proofs.Bencode.Grammar
import FormEdit.Proofs.Bencode.Legible
import FormEdit.Proofs.Token.Words
import FormEdit.Proofs.Token.Brackets
import FormEdit.Proofs.Document.Nesting
import FormEdit.Proofs.Edit.Dropped
import FormEdit.Proofs.Number.Begun
import FormEdit.Proofs.Bencode.Waiting
import FormEdit.Proofs.Text.Overlap
import FormEdit.Proofs.Edit.Template
import FormEdit.Proofs.Text.LineEnds
import FormEdit.Proofs.Command.Format
import FormEdit.Proofs.Token.Open
import FormEdit.Proofs.Files.Window
import FormEdit.Proofs.Files.Search
import FormEdit.Proofs.Number.Whole
import FormEdit.Proofs.Command.Line
import FormEdit.Proofs.Token.Slice
import FormEdit.Proofs.Nrepl.Discovery
import FormEdit.Proofs.Settings.Layers
