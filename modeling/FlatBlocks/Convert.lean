import FlatBlocks.Block.Payload
import FlatBlocks.Event

/-! Converting documents and batches of events. Either the first malformed block
fails the whole conversion, or malformed top-level blocks are left out and
reported. -/

namespace FlatBlocks
open Block (Record)

/-- The records of a markup document. -/
def convertMarkup (markup : Text) (skipMalformed : Bool) (ctx : Context) :
    Except Failure (List (Record Text)) × Context :=
  match Markup.parse markup with
  | .error cause => (.error (.rejected cause), ctx)
  | .ok nodes =>
    if skipMalformed then
      match Block.flattenEach nodes ctx with
      | (.error refusal, ctx) => (.error (.fault (.notText refusal)), ctx)
      | (.ok records, ctx) => (.ok records, ctx)
    else ((Block.flatten nodes).mapError .fault, ctx)

/-- What a create event was converted to. -/
structure Conversion where
  block : Text
  records : List (Record Text)
  deriving DecidableEq, Repr

def Conversion.toJson (c : Conversion) : Json :=
  .obj [("blockId", .str c.block), ("blocks", Block.payload c.records)]

def skippedMessage : Text := "Skipped event (not a block creation event)"

def noBlocksMessage : Text := "Block creation event produced no blocks"

/-- Convert the events from a position on, after what is `done`, last one first. -/
def convertFrom (index : Nat) (skipMalformed : Bool) (done : List Conversion) (ctx : Context) :
    List Event → Except Failure (List Conversion) × Context
  | [] => (.ok done.reverse, ctx.setEvent none)
  | event :: rest =>
    let ctx := ctx.setEvent (some index)
    if event.isCreate then
      match convertMarkup event.markup skipMalformed ctx with
      | (.error failure, ctx) => (.error failure, ctx)
      | (.ok records, ctx) =>
        let ctx := if records.isEmpty then ctx.add .warning noBlocksMessage none else ctx
        convertFrom (index + 1) skipMalformed (⟨event.block?.getD "", records⟩ :: done) ctx rest
    else convertFrom (index + 1) skipMalformed done (ctx.add .info skippedMessage none) rest

/-- Convert a batch of events. An event that is no create event is reported, and
so is one that brings no blocks; the context names the event at which a
conversion failed. -/
def convertEvents (events : List Event) (skipMalformed : Bool) (ctx : Context) :
    Except Failure (List Conversion) × Context :=
  convertFrom 0 skipMalformed [] ctx events

end FlatBlocks
