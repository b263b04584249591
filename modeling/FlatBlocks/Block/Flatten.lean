import FlatBlocks.Block.Registry
import FlatBlocks.Block.Slot
import FlatBlocks.Diagnostic

/-! Flattening trees of blocks into records. A block is visited before the
blocks plugged into it, and a later block with the id of an earlier one takes
its place. What a visit has registered before it fails stays registered. -/

namespace FlatBlocks.Block
open Markup (Node)

mutual

/-- Visit a block element and everything plugged into it. The element at depth
zero is a top-level block. -/
def visit (node : Node) (depth : Int) (registry : Registry) :
    Except Fault (Record Text) × Registry :=
  match require node "id" none with
  | .error cause => (.error (.malformed cause), registry)
  | .ok id =>
    match require node "type" (some id) with
    | .error cause => (.error (.malformed cause), registry)
    | .ok opcode =>
      let record : Record Text := { id, opcode, topLevel := depth == 0 }
      visitChildren node.children depth registry.registered record (registry.add record)
termination_by sizeOf node
decreasing_by
  cases node
  simp only [Node.mk.sizeOf_spec]
  omega

/-- Read the children of a block into its record, whose registration has a number. -/
def visitChildren (children : List Node) (depth : Int) (number : Nat) (record : Record Text)
    (registry : Registry) : Except Fault (Record Text) × Registry :=
  match children with
  | [] => (.ok record, registry)
  | child :: rest =>
    match Role.of child with
    | .other => visitChildren rest depth number record registry
    | .field =>
      match readField child record.id with
      | .error fault => (.error fault, registry)
      | .ok field =>
        let record := record.putField field
        visitChildren rest depth number record (registry.amend number record)
    | .slot named =>
      match slotName child named record.id with
      | .error cause => (.error (.malformed cause), registry)
      | .ok name =>
        match _h : effective? child with
        | none => (.error (.malformed (.emptySlot child.lowerTag name record.id)), registry)
        | some block =>
          match visit block (depth + 1) registry with
          | (.error fault, registry) => (.error fault, registry)
          | (.ok target, registry) =>
            let record := record.link name target.id
            visitChildren rest depth number record (registry.amend number record)
termination_by sizeOf children
decreasing_by
  all_goals simp only [List.cons.sizeOf_spec]
  any_goals omega
  have := sizeOf_effective?_lt _h
  omega

end

/-- Visit every root that is a block, until a visit fails. -/
def addRoots : List Node → Registry → Except Fault Unit × Registry
  | [], registry => (.ok (), registry)
  | node :: rest, registry =>
    if node.hasTag "block" then
      match visit node 0 registry with
      | (.error fault, registry) => (.error fault, registry)
      | (.ok _, registry) => addRoots rest registry
    else addRoots rest registry

/-- The records of all root blocks; one malformed block spoils them all. -/
def flatten (roots : List Node) : Except Fault (List (Record Text)) :=
  match addRoots roots {} with
  | (.error fault, _) => .error fault
  | (.ok _, registry) => .ok registry.records

/-- The report of a root block that was left out. -/
def dropped (cause : Malformed) : Text := "Dropped top-level block (" ++ cause.message ++ ")"

/-- Merge the records of the root blocks into a table, leaving out malformed
blocks and reporting each of them. -/
def mergeRoots (table : Table (Record Text)) (ctx : Context) :
    List Node → Except Markup.Node.NotText (Table (Record Text)) × Context
  | [] => (.ok table, ctx)
  | node :: rest =>
    if node.hasTag "block" then
      match visit node 0 {} with
      | (.error (.malformed cause), _) =>
        mergeRoots table (ctx.add .error (dropped cause) (node.get? "id")) rest
      | (.error (.notText refusal), _) => (.error refusal, ctx)
      | (.ok _, registry) => mergeRoots (table.merge registry.table) ctx rest
    else mergeRoots table ctx rest

/-- The records of the root blocks that are well formed. -/
def flattenEach (roots : List Node) (ctx : Context) :
    Except Markup.Node.NotText (List (Record Text)) × Context :=
  match mergeRoots [] ctx roots with
  | (.error refusal, ctx) => (.error refusal, ctx)
  | (.ok table, ctx) => (.ok table.values, ctx)

end FlatBlocks.Block
