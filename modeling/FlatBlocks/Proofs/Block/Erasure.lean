import FlatBlocks.Block.Flatten
import FlatBlocks.Proofs.Block.Visited
import FlatBlocks.Proofs.Markup.Nodes

/-! # What a conversion does not see

The erasure of a list of roots keeps what a conversion reads: the root blocks, and of each
visited element its id, its type, its fields and its slots, of which only the effective
block is left. Converting the erasure gives what converting the roots gives, faults and
reports included, so that nothing that is erased has any influence. -/

namespace FlatBlocks.Block
open Markup (Node)
open FlatBlocks.Text

/-! ## Erasing -/

/-- The entries of a table under some keys. -/
def restricted (names : List Text) (t : Table Text) : Table Text :=
  t.filter fun e => names.contains e.1

/-- An element with its tag in small letters, only some of its attributes, and other children. -/
def reduced (node : Node) (names : List Text) (children : List Node) : Node :=
  .element node.lowerTag (restricted names node.attributes) children

/-- A node with the tags of all elements in it in small letters. -/
def lowered (node : Node) : Node :=
  { node with
    tag := node.tag.map lower
    children := node.children.attach.map fun ⟨child, _⟩ => lowered child }
termination_by sizeOf node
decreasing_by exact Node.sizeOf_lt_of_mem_children ‹_›

/-- What is kept of an element. A field keeps its first child, a slot its effective block. -/
def erased (node : Node) : Node :=
  reduced node ["id", "type"] <| node.children.attach.filterMap fun child =>
    match Role.of child.val with
    | .other => none
    | .field => some (reduced child.val ["name"] ((child.val.children.take 1).map lowered))
    | .slot _ => some <| reduced child.val ["name"] <| match _h : effective? child.val with
      | none => []
      | some block => [erased block]
termination_by sizeOf node
decreasing_by
  exact Nat.lt_trans (sizeOf_effective?_lt _h) (Node.sizeOf_lt_of_mem_children child.property)

/-- What is kept of a child of an element. -/
def erasedChild? (child : Node) : Option Node :=
  match Role.of child with
  | .other => none
  | .field => some (reduced child ["name"] ((child.children.take 1).map lowered))
  | .slot _ => some (reduced child ["name"] ((effective? child).map erased).toList)

theorem erased_eq (node : Node) :
    erased node = reduced node ["id", "type"] (node.children.filterMap erasedChild?) := by
  rw [erased, List.filterMap_subtype (g := erasedChild?), List.unattach_attach]
  intro child _
  unfold erasedChild?
  cases Role.of child with
  | other => rfl
  | field => rfl
  | slot named =>
    simp only
    split <;> rename_i h <;> rw [h] <;> rfl

/-- The root blocks, each with what is kept of it. -/
def erasure (roots : List Node) : List Node := (rootBlocks roots).map erased

/-! ## What an element keeps -/

/-- The tag of an element in small letters is left as it is when it is put in small letters. -/
def Settled (node : Node) : Prop := ∃ tag, node.tag.map lower = some tag ∧ lower tag = tag

/-- The tags that a conversion looks for. -/
def knownTags : List Text := ["field", "value", "statement", "next", "block", "shadow"]

theorem lower_knownTags : ∀ tag ∈ knownTags, lower tag = tag := by decide +kernel

theorem settled_of_hasTag {node : Node} {tag : Text} (h : node.hasTag tag = true)
    (hknown : tag ∈ knownTags) : Settled node :=
  ⟨tag, by simpa [Node.hasTag] using h, lower_knownTags tag hknown⟩

theorem settled_of_role {child : Node} (h : Role.of child ≠ .other) : Settled child := by
  unfold Role.of at h
  split at h
  · exact settled_of_hasTag ‹_› (by simp [knownTags])
  · split at h
    · rename_i hinput
      rcases Bool.or_eq_true_iff.mp hinput with hvalue | hstatement
      · exact settled_of_hasTag hvalue (by simp [knownTags])
      · exact settled_of_hasTag hstatement (by simp [knownTags])
    · split at h
      · exact settled_of_hasTag ‹_› (by simp [knownTags])
      · contradiction

/-- What a slot holds is tagged as a block or as a shadow. -/
theorem hasTag_of_effective? {slot block : Node} (h : effective? slot = some block) :
    block.hasTag "block" = true ∨ block.hasTag "shadow" = true := by
  rcases Option.or_eq_some_iff.mp h with hb | ⟨_, hs⟩
  · have hp := List.find?_some hb
    exact Or.inl hp
  · have hp := List.find?_some hs
    exact Or.inr hp

theorem settled_of_effective? {slot block : Node} (h : effective? slot = some block) :
    Settled block := by
  rcases hasTag_of_effective? h with hb | hs
  · exact settled_of_hasTag hb (by simp [knownTags])
  · exact settled_of_hasTag hs (by simp [knownTags])

theorem get?_restricted {names : List Text} (t : Table Text) {name : Text} (h : name ∈ names) :
    (restricted names t).get? name = t.get? name := by
  induction t with
  | nil => rfl
  | cons e rest ih =>
    obtain ⟨key, value⟩ := e
    unfold restricted at ih ⊢
    rw [List.filter_cons, Table.get?_cons]
    by_cases hn : key = name
    · simp [hn, h, Table.get?]
    · rw [if_neg hn]
      split
      · rw [Table.get?_cons, if_neg hn, ih]
      · exact ih

section
variable {node : Node} (names : List Text) (children : List Node)

theorem get?_reduced {name : Text} (h : name ∈ names) :
    (reduced node names children).get? name = node.get? name :=
  get?_restricted node.attributes h

theorem hasTag_reduced (h : Settled node) (tag : Text) :
    (reduced node names children).hasTag tag = node.hasTag tag := by
  obtain ⟨small, hsmall, hlower⟩ := h
  obtain ⟨own, hown, rfl⟩ := Option.map_eq_some_iff.mp hsmall
  simp [Node.hasTag, reduced, Node.element, Node.lowerTag, hown, hlower]

theorem lowerTag_reduced (h : Settled node) :
    (reduced node names children).lowerTag = node.lowerTag := by
  obtain ⟨small, hsmall, hlower⟩ := h
  obtain ⟨own, hown, rfl⟩ := Option.map_eq_some_iff.mp hsmall
  simp [reduced, Node.element, Node.lowerTag, hown, hlower]

theorem role_reduced (h : Settled node) : Role.of (reduced node names children) = Role.of node := by
  unfold Role.of
  simp only [hasTag_reduced names children h]

theorem require_reduced (h : Settled node) {name : Text} (hn : name ∈ names)
    (block : Option Text) :
    require (reduced node names children) name block = require node name block := by
  unfold require
  rw [get?_reduced names children hn, lowerTag_reduced names children h]

end

theorem hasTag_erased {node : Node} (h : Settled node) (tag : Text) :
    (erased node).hasTag tag = node.hasTag tag := by
  rw [erased_eq]
  exact hasTag_reduced _ _ h tag

/-- The slot that is left holds what is left of its effective block. -/
theorem effective?_reduced (slot : Node) (names : List Text) :
    effective? (reduced slot names ((effective? slot).map erased).toList) =
      (effective? slot).map erased := by
  cases he : effective? slot with
  | none => rfl
  | some block =>
    have hsettled := settled_of_effective? he
    have htag := hasTag_of_effective? he
    have helement : (erased block).isElement = true := by
      rcases htag with hb | hs
      · exact Node.isElement_of_hasTag ((hasTag_erased hsettled "block").trans hb)
      · exact Node.isElement_of_hasTag ((hasTag_erased hsettled "shadow").trans hs)
    rw [← hasTag_erased hsettled, ← hasTag_erased hsettled] at htag
    cases hb : (erased block).hasTag "block" with
    | true => simp [effective?, plugged?, Node.elementChildren, reduced, Node.element, helement, hb]
    | false =>
      simp only [hb, Bool.false_eq_true, false_or] at htag
      simp [effective?, plugged?, shadow?, Node.elementChildren, reduced, Node.element, helement,
        hb, htag]

/-! ## Fields -/

theorem lowered_eq (node : Node) :
    lowered node =
      { node with tag := node.tag.map lower, children := node.children.map lowered } := by
  rw [lowered, List.map_subtype (g := lowered) (fun _ _ => rfl), List.unattach_attach]

theorem isElement_lowered (node : Node) : (lowered node).isElement = node.isElement := by
  rw [lowered_eq]
  cases h : node.tag <;> simp [Node.isElement, h]

theorem textContent_lowered {node : Node} (h : node.isElement = false) :
    (lowered node).textContent = node.textContent := by
  have htag : node.tag = none := by simpa [Node.isElement] using h
  rw [lowered_eq]
  simp [Node.textContent, htag]

theorem readField_reduced {field : Node} (h : Settled field) (block : Text) :
    readField (reduced field ["name"] ((field.children.take 1).map lowered)) block =
      readField field block := by
  unfold readField
  rw [require_reduced _ _ h (by simp)]
  cases require field "name" (some block) with
  | error cause => rfl
  | ok name =>
    cases hchildren : field.children with
    | nil => rfl
    | cons first rest =>
      simp only [reduced, Node.element, List.take_succ_cons, List.take_zero, List.map_cons,
        List.map_nil, isElement_lowered]
      cases hel : first.isElement with
      | true => rfl
      | false => rw [textContent_lowered hel]

/-! ## Visits -/

/-- Reading a slot, whatever it holds. -/
theorem visitChildren_cons_of_slot {child : Node} {named : Bool} (rest : List Node) (depth : Int)
    (number : Nat) (record : Record Text) (registry : Registry)
    (hrole : Role.of child = .slot named) :
    visitChildren (child :: rest) depth number record registry =
      match slotName child named record.id with
      | .error cause => (.error (.malformed cause), registry)
      | .ok name =>
        match effective? child with
        | none => (.error (.malformed (.emptySlot child.lowerTag name record.id)), registry)
        | some block =>
          match visit block (depth + 1) registry with
          | (.error fault, registry) => (.error fault, registry)
          | (.ok target, registry) =>
            let record := record.link name target.id
            visitChildren rest depth number record (registry.amend number record) := by
  rw [visitChildren, hrole]
  simp only
  cases slotName child named record.id with
  | error cause => rfl
  | ok name =>
    simp only
    split
    · rename_i h
      simp only [h]
    · rename_i block h
      rcases hvisit : visit block (depth + 1) registry with ⟨fault | target, after⟩
      · simp only [h, hvisit]
      · simp only [h, hvisit]

/-- Visiting what is kept of an element is visiting the element. -/
def Unseen (node : Node) : Prop :=
  ∀ (depth : Int) (registry : Registry),
    visit (erased node) depth registry = visit node depth registry

theorem slotName_reduced {child : Node} (h : Settled child) (children : List Node) (named : Bool)
    (block : Text) :
    slotName (reduced child ["name"] children) named block = slotName child named block := by
  cases named with
  | false => rfl
  | true => simp only [slotName, require_reduced ["name"] children h List.mem_cons_self]

theorem visitChildren_erased {children : List Node}
    (h : ∀ child ∈ children, ∀ block, held? child = some block → Unseen block) (depth : Int)
    (number : Nat) (record : Record Text) (registry : Registry) :
    visitChildren (children.filterMap erasedChild?) depth number record registry =
      visitChildren children depth number record registry := by
  induction children generalizing record registry with
  | nil => rfl
  | cons child rest ih =>
    have hchild := h child List.mem_cons_self
    have ih := ih fun c hc => h c (List.mem_cons_of_mem _ hc)
    cases hrole : Role.of child with
    | other =>
      have hnone : erasedChild? child = none := by rw [erasedChild?, hrole]
      rw [List.filterMap_cons_none hnone, ih, visitChildren, hrole]
    | field =>
      have hsettled : Settled child := settled_of_role (by simp [hrole])
      have hsome : erasedChild? child =
          some (reduced child ["name"] ((child.children.take 1).map lowered)) := by
        rw [erasedChild?, hrole]
      rw [List.filterMap_cons_some hsome, visitChildren, visitChildren,
        role_reduced _ _ hsettled, hrole]
      simp only [readField_reduced hsettled, ih]
    | slot named =>
      have hsettled : Settled child := settled_of_role (by simp [hrole])
      have hsome : erasedChild? child =
          some (reduced child ["name"] ((effective? child).map erased).toList) := by
        rw [erasedChild?, hrole]
      rw [List.filterMap_cons_some hsome, visitChildren_cons_of_slot _ _ _ _ _ hrole,
        visitChildren_cons_of_slot _ _ _ _ _ ((role_reduced _ _ hsettled).trans hrole),
        slotName_reduced hsettled, effective?_reduced, lowerTag_reduced _ _ hsettled]
      cases slotName child named record.id with
      | error cause => rfl
      | ok name =>
        cases he : effective? child with
        | none => rfl
        | some block =>
          have hblock := hchild block (by rw [held?_slot hrole, he]) (depth + 1) registry
          simp only [Option.map_some, hblock, ih]

theorem visit_erased {node : Node} (h : Settled node) : Unseen node := by
  induction node using plugs_induction with
  | step node ih =>
    intro depth registry
    have hheld : ∀ child ∈ node.children, ∀ block, held? child = some block → Unseen block := by
      intro child hc block hheld
      obtain ⟨named, hrole⟩ := role_of_held? hheld
      have he : effective? child = some block := (held?_slot hrole).symm.trans hheld
      exact ih block (List.mem_filterMap.mpr ⟨child, hc, hheld⟩) (settled_of_effective? he)
    rw [erased_eq, visit, visit, require_reduced _ _ h (by simp)]
    cases require node "id" none with
    | error cause => rfl
    | ok id =>
      simp only
      rw [require_reduced _ _ h (by simp)]
      cases require node "type" (some id) with
      | error cause => rfl
      | ok opcode => exact visitChildren_erased hheld depth _ _ _

/-! ## Roots -/

theorem visit_erased_root {root : Node} (h : root.hasTag "block" = true) (depth : Int)
    (registry : Registry) : visit (erased root) depth registry = visit root depth registry :=
  visit_erased (settled_of_hasTag h (by simp [knownTags])) depth registry

theorem hasTag_erased_root {root : Node} (h : root.hasTag "block" = true) :
    (erased root).hasTag "block" = true :=
  (hasTag_erased (settled_of_hasTag h (by simp [knownTags])) "block").trans h

theorem erasure_cons_block {root : Node} (rest : List Node) (h : root.hasTag "block" = true) :
    erasure (root :: rest) = erased root :: erasure rest := by
  rw [erasure, rootBlocks_cons_block rest h]; rfl

theorem erasure_cons_other {root : Node} (rest : List Node)
    (h : ¬ root.hasTag "block" = true) : erasure (root :: rest) = erasure rest := by
  rw [erasure, rootBlocks_cons_other rest h]; rfl

theorem addRoots_erasure (roots : List Node) (registry : Registry) :
    addRoots (erasure roots) registry = addRoots roots registry := by
  induction roots generalizing registry with
  | nil => rfl
  | cons root rest ih =>
    by_cases hblock : root.hasTag "block" = true
    · rw [erasure_cons_block rest hblock, addRoots, addRoots, if_pos hblock,
        if_pos (hasTag_erased_root hblock), visit_erased_root hblock]
      simp only [ih]
    · rw [erasure_cons_other rest hblock, ih, addRoots, if_neg hblock]

theorem mergeRoots_erasure (roots : List Node) (table : Table (Record Text)) (ctx : Context) :
    mergeRoots table ctx (erasure roots) = mergeRoots table ctx roots := by
  induction roots generalizing table ctx with
  | nil => rfl
  | cons root rest ih =>
    by_cases hblock : root.hasTag "block" = true
    · have hid : (erased root).get? "id" = root.get? "id" := by
        rw [erased_eq]
        exact get?_reduced _ _ (by simp)
      rw [erasure_cons_block rest hblock, mergeRoots, mergeRoots, if_pos hblock,
        if_pos (hasTag_erased_root hblock), visit_erased_root hblock, hid]
      simp only [ih]
    · rw [erasure_cons_other rest hblock, ih, mergeRoots, if_neg hblock]

/-- **What is erased has no influence.** The erasure of roots is converted as the roots are,
with the same records or the same fault, and with the same reports. So any two lists of roots
with one erasure are converted alike; and what is no content of a document, such as its
comments, does not even show in its nodes. -/
theorem flatten_erasure (roots : List Node) (ctx : Context) :
    flatten (erasure roots) = flatten roots ∧
      flattenEach (erasure roots) ctx = flattenEach roots ctx ∧
      (∀ others, erasure others = erasure roots →
        flatten others = flatten roots ∧ flattenEach others ctx = flattenEach roots ctx) ∧
      ∀ forest, Markup.Item.nodes (Markup.Item.contentsOf forest) = Markup.Item.nodes forest := by
  have hall : ∀ nodes, flatten (erasure nodes) = flatten nodes := by
    intro nodes
    rw [flatten, flatten, addRoots_erasure]
  have heach : ∀ nodes, flattenEach (erasure nodes) ctx = flattenEach nodes ctx := by
    intro nodes
    rw [flattenEach, flattenEach, mergeRoots_erasure]
  refine ⟨hall roots, heach roots, ?_, Markup.Item.nodes_contentsOf⟩
  intro others h
  rw [← hall others, ← hall roots, ← heach others, ← heach roots, h]
  exact ⟨rfl, rfl⟩

/-- A block whose input holds a shadow without an id in front of its block, and other things
that do not count. -/
def cluttered : List Node :=
  [.ofText "text",
    .element "BLOCK" [("id", "a"), ("type", "x"), ("x", "10")]
      [.ofText " ", .element "comment" [] [],
        .element "Value" [("type", "t"), ("name", "V")]
          [.ofText " ", .element "shadow" [] [],
            .element "bloc\u212a" [("type", "y"), ("id", "b")] [],
            .element "block" [("id", "c")] []]]]

/-- What counts in it. -/
def tidied : List Node :=
  [.element "block" [("id", "a"), ("type", "x")]
    [.element "value" [("name", "V")] [.element "block" [("type", "y"), ("id", "b")] []]]]

set_option maxRecDepth 4000 in
theorem flatten_cluttered :
    erasure cluttered = erasure tidied ∧ flatten cluttered = flatten tidied ∧
      flatten tidied = .ok [
        { id := "a", opcode := "x", inputs := [("V", ⟨"V", "b"⟩)], topLevel := true },
        { id := "b", opcode := "y" }] := by
  have hcluttered : erasure cluttered = tidied := by with_unfolding_all rfl
  have htidied : erasure tidied = tidied := by with_unfolding_all rfl
  have hsame : erasure cluttered = erasure tidied := hcluttered.trans htidied.symm
  obtain ⟨_, _, halike, _⟩ := flatten_erasure tidied {}
  exact ⟨hsame, (halike cluttered hsame).1, by decide +kernel⟩

end FlatBlocks.Block
