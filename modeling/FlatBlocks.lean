import FlatBlocks.Block.Flatten
import FlatBlocks.Block.Label
import FlatBlocks.Block.Malformed
import FlatBlocks.Block.Outline
import FlatBlocks.Block.Outline.Checked
import FlatBlocks.Block.Outline.Loose
import FlatBlocks.Block.Payload
import FlatBlocks.Block.Record
import FlatBlocks.Block.Registry
import FlatBlocks.Block.Slot
import FlatBlocks.Command.Options
import FlatBlocks.Command.Run
import FlatBlocks.Convert
import FlatBlocks.Diagnostic
import FlatBlocks.Event
import FlatBlocks.Files.Load
import FlatBlocks.Files.Path
import FlatBlocks.Files.Save
import FlatBlocks.Files.Tree
import FlatBlocks.Json.Display
import FlatBlocks.Json.Number
import FlatBlocks.Json.Reader
import FlatBlocks.Json.Value
import FlatBlocks.Json.Writer
import FlatBlocks.Main
import FlatBlocks.Markup.Cache
import FlatBlocks.Markup.Charset
import FlatBlocks.Markup.Item
import FlatBlocks.Markup.Node
import FlatBlocks.Markup.Print
import FlatBlocks.Markup.Reference
import FlatBlocks.Markup.Reference.Names
import FlatBlocks.Markup.Token
import FlatBlocks.Markup.Token.Progress
import FlatBlocks.Markup.Token.Scan
import FlatBlocks.Markup.Token.Stream
import FlatBlocks.Markup.Token.Tag
import FlatBlocks.Markup.Tree
import FlatBlocks.Markup.Worklist
import FlatBlocks.Table
import FlatBlocks.Text.Classes
import FlatBlocks.Text.CodePoint
import FlatBlocks.Text.Copies
import FlatBlocks.Text.Decimal
import FlatBlocks.Text.Digits
import FlatBlocks.Text.Lower
import FlatBlocks.Text.Printable
import FlatBlocks.Text.Quoted
import FlatBlocks.Text.Utf8
import FlatBlocks.Text.Written
import FlatBlocks.Proofs.Lists
import FlatBlocks.Proofs.Block.Registry
import FlatBlocks.Proofs.Block.Visited
import FlatBlocks.Proofs.Block.Check
import FlatBlocks.Proofs.Block.Log
import FlatBlocks.Proofs.Block.Flatten
import FlatBlocks.Proofs.Markup.Worklist
import FlatBlocks.Proofs.Markup.Nodes
import FlatBlocks.Proofs.Block.Dropping
import FlatBlocks.Proofs.Batch
import FlatBlocks.Proofs.Block.Call
import FlatBlocks.Proofs.Block.Trail
import FlatBlocks.Proofs.Block.Link
import FlatBlocks.Proofs.Block.Network
import FlatBlocks.Proofs.Block.Forest
import FlatBlocks.Proofs.Block.Erasure
import FlatBlocks.Proofs.Block.Walk
import FlatBlocks.Proofs.Block.Reach
import FlatBlocks.Proofs.Block.Drawing
import FlatBlocks.Proofs.Json.Strings
import FlatBlocks.Proofs.Json.RoundTrip
import FlatBlocks.Proofs.Json.Steps
import FlatBlocks.Proofs.Files.Save
import FlatBlocks.Proofs.Block.Payload
import FlatBlocks.Proofs.Batch.Skipping
import FlatBlocks.Proofs.Markup.Cache
import FlatBlocks.Proofs.Markup.Word
import FlatBlocks.Proofs.Markup.Escape
import FlatBlocks.Proofs.Markup.StartTag
import FlatBlocks.Proofs.Markup.Scanned
import FlatBlocks.Proofs.Markup.ReadBack
import FlatBlocks.Proofs.Markup.Alike
import FlatBlocks.Proofs.Block.Alike
import FlatBlocks.Proofs.Event
import FlatBlocks.Proofs.Text.Whole
import FlatBlocks.Proofs.Markup.Whole.Reference
import FlatBlocks.Proofs.Markup.Whole.Token
import FlatBlocks.Proofs.Markup.Whole.Tree
import FlatBlocks.Proofs.Block.Relabel
import FlatBlocks.Proofs.Block.Writable
import FlatBlocks.Proofs.Batch.Creation
import FlatBlocks.Proofs.Command.Delivery
import FlatBlocks.Proofs.Command.Routes
import FlatBlocks.Proofs.Files.Changes
import FlatBlocks.Proofs.Command.Effects
import FlatBlocks.Proofs.FieldText
import FlatBlocks.Proofs.Markup.Refusal
import FlatBlocks.Proofs.Batch.Refusal
import FlatBlocks.Proofs.Command.Escapes
import FlatBlocks.Proofs.Block.Construct
import FlatBlocks.Proofs.Block.Nesting
import FlatBlocks.Proofs.Block.Revisit
import FlatBlocks.Proofs.Block.Opening
import FlatBlocks.Proofs.Block.Following
import FlatBlocks.Proofs.Block.Settling
import FlatBlocks.Proofs.Block.Meeting
