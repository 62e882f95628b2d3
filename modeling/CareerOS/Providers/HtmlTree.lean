/-
This file is the tree that is built of the HTML of a provider: the tokens of the document
one after the other, a stack of the elements that are open, and the limits on the number of
elements and on their depth. An element is known by the number of elements made before it.
A tree that is built numbers its elements in document order, so none stands in it twice,
and it has no empty piece of text.

The source keeps the children of an element and its pieces of text in two lists. Here both
are in one, in document order, and the two lists are what is read of it. The tokens
`HTMLParser` makes of a text are given.
-/

import CareerOS.Library.Dict
import CareerOS.Library.Outcome
import CareerOS.Library.Outline

namespace CareerOS

/-- `str.casefold()` on the names of tags and attributes. -/
class TagTables where
  casefold : String → String

/-! ### The tree -/

/-- What stands in an element, in document order. -/
inductive Markup
  | done
  | text (piece : String) (rest : Markup)
  | element (number : Nat) (tag : String) (attrs : Dict String String) (inside rest : Markup)
  deriving DecidableEq

/-- `HtmlNode`. -/
structure HtmlNode where
  number : Nat
  tag : String
  attrs : Dict String String
  contents : Markup := .done
  deriving DecidableEq

namespace Markup

/-- What stands in one part and then in the other. -/
def append : Markup → Markup → Markup
  | .done, more => more
  | .text piece rest, more => .text piece (rest.append more)
  | .element number tag attrs inside rest, more =>
    .element number tag attrs inside (rest.append more)

/-- The elements that stand directly in a part. -/
def children : Markup → List HtmlNode
  | .done => []
  | .text _ rest => rest.children
  | .element number tag attrs inside rest => ⟨number, tag, attrs, inside⟩ :: rest.children

/-- The pieces of text that stand directly in a part. -/
def ownText : Markup → List String
  | .done => []
  | .text piece rest => piece :: rest.ownText
  | .element _ _ _ _ rest => rest.ownText

/-- All elements, in document order. -/
def nodes : Markup → List HtmlNode
  | .done => []
  | .text _ rest => rest.nodes
  | .element number tag attrs inside rest =>
    ⟨number, tag, attrs, inside⟩ :: (inside.nodes ++ rest.nodes)

/-- All pieces of text, in document order. -/
def pieces : Markup → List String
  | .done => []
  | .text piece rest => piece :: rest.pieces
  | .element _ _ _ inside rest => inside.pieces ++ rest.pieces

/-- How many elements there are. -/
def size : Markup → Nat
  | .done => 0
  | .text _ rest => rest.size
  | .element _ _ _ inside rest => inside.size + rest.size + 1

theorem nodes_append (first second : Markup) :
    (first.append second).nodes = first.nodes ++ second.nodes := by
  induction first with
  | done => rfl
  | text piece rest inductionHypothesis => exact inductionHypothesis
  | element number tag attrs inside rest _ inductionHypothesis =>
    simp only [append, nodes, inductionHypothesis, List.cons_append, List.append_assoc]

theorem pieces_append (first second : Markup) :
    (first.append second).pieces = first.pieces ++ second.pieces := by
  induction first with
  | done => rfl
  | text piece rest inductionHypothesis =>
    simp only [append, pieces, inductionHypothesis, List.cons_append]
  | element number tag attrs inside rest _ inductionHypothesis =>
    simp only [append, pieces, inductionHypothesis, List.append_assoc]

end Markup

namespace HtmlNode

/-- `node.children`. -/
def children (node : HtmlNode) : List HtmlNode := node.contents.children

/-- `node.text`. -/
def text (node : HtmlNode) : List String := node.contents.ownText

/-- The element as a part of another. -/
def markup (node : HtmlNode) : Markup :=
  .element node.number node.tag node.attrs node.contents .done

/-- The element with more in it. -/
def add (node : HtmlNode) (more : Markup) : HtmlNode :=
  { node with contents := node.contents.append more }

end HtmlNode

/-! ### Walking a tree -/

theorem size_children (markup : Markup) :
    (markup.children.map fun node => node.contents.size + 1).sum = markup.size := by
  induction markup with
  | done => rfl
  | text piece rest inductionHypothesis => exact inductionHypothesis
  | element number tag attrs inside rest _ inductionHypothesis =>
    simp only [Markup.children, Markup.size, List.map_cons, List.sum_cons, inductionHypothesis]
    omega

/-- The elements of a stack, each followed by its children: the loop of `_descendants` and of
`text_content`. The top of the stack comes first. -/
def walk : List HtmlNode → List HtmlNode
  | [] => []
  | node :: pending => node :: walk (node.children ++ pending)
termination_by pending => (pending.map fun node => node.contents.size + 1).sum
decreasing_by
  rw [List.map_append, List.sum_append, HtmlNode.children, size_children, List.map_cons,
    List.sum_cons]
  omega

/-- `_descendants`. -/
def HtmlNode.descendants (node : HtmlNode) : List HtmlNode := walk node.children

theorem walk_children_append (markup : Markup) (pending : List HtmlNode) :
    walk (markup.children ++ pending) = markup.nodes ++ walk pending := by
  induction markup generalizing pending with
  | done => rfl
  | text piece rest inductionHypothesis => exact inductionHypothesis pending
  | element number tag attrs inside rest insideHypothesis restHypothesis =>
    rw [Markup.children, Markup.nodes, List.cons_append, walk]
    rw [show HtmlNode.children ⟨number, tag, attrs, inside⟩ = inside.children from rfl,
      insideHypothesis, restHypothesis, List.cons_append, List.append_assoc]

/-- The descendants of an element are the elements in it, in document order. -/
theorem HtmlNode.descendants_eq (node : HtmlNode) : node.descendants = node.contents.nodes := by
  have walked := walk_children_append node.contents []
  rw [List.append_nil] at walked
  unfold descendants children
  rw [walked, walk, List.append_nil]

theorem walk_singleton (node : HtmlNode) : walk [node] = node :: node.contents.nodes := by
  rw [walk, List.append_nil]
  exact congrArg (node :: ·) node.descendants_eq

/-- An element is followed by the elements below it. -/
theorem Markup.laid_nodes (markup : Markup) : Outline.Laid HtmlNode.descendants markup.nodes := by
  induction markup with
  | done =>
    intro before element after split
    exact absurd split.symm (by simp [Markup.nodes])
  | text piece rest inductionHypothesis => exact inductionHypothesis
  | element number tag attrs inside rest insideHypothesis restHypothesis =>
    intro before element after split
    rw [Markup.nodes] at split
    cases before with
    | nil =>
      obtain ⟨rfl, rfl⟩ := List.cons.inj split
      rw [HtmlNode.descendants_eq]
      exact List.prefix_append _ _
    | cons first before =>
      obtain ⟨-, split⟩ := List.cons.inj split
      exact insideHypothesis.append restHypothesis before element after split

theorem HtmlNode.laid_descendants (node : HtmlNode) :
    Outline.Laid HtmlNode.descendants node.descendants := by
  rw [descendants_eq]
  exact node.contents.laid_nodes

/-! ### The tokens of a document -/

/-- What `HTMLParser` calls a handler with. -/
inductive HtmlToken
  | startTag (tag : String) (attrs : List (String × Option String))
  | startEndTag (tag : String) (attrs : List (String × Option String))
  | endTag (tag : String)
  | data (piece : String)

/-- `MAX_HTML_NODES`. -/
def maxHtmlNodes : Nat := 20000

/-- `MAX_HTML_DEPTH`. -/
def maxHtmlDepth : Nat := 64

/-- The elements that are closed where they start. -/
def voidTags : List String :=
  ["area", "base", "br", "col", "embed", "hr", "img", "input", "link", "meta", "param", "source",
    "track", "wbr"]

/-- `_TreeParser`: the stack with its top apart, and the number of elements made. -/
structure TreeParser where
  top : HtmlNode
  below : List HtmlNode
  nodes : Nat

namespace TreeParser

/-- `_TreeParser()`. -/
def start : TreeParser := ⟨⟨0, "document", [], .done⟩, [], 1⟩

/-- `self.stack.pop()`: the element becomes a part of the one below it. -/
def pop (parser : TreeParser) : TreeParser :=
  match parser.below with
  | [] => parser
  | next :: rest => { parser with top := next.add parser.top.markup, below := rest }

/-- The root of the tree. -/
def root (top : HtmlNode) : List HtmlNode → HtmlNode
  | [] => top
  | next :: rest => root (next.add top.markup) rest

variable [TagTables]

/-- The dictionary of the attributes of an element. -/
def attributes (attrs : List (String × Option String)) : Dict String String :=
  (attrs.take 80).foldl (fun table attr =>
    Dict.assign (TagTables.casefold attr.1) (attr.2.getD "") table) []

/-- `handle_starttag`. -/
def handleStarttag (parser : TreeParser) (tag : String) (attrs : List (String × Option String)) :
    Except String TreeParser := do
  refuseWhen (maxHtmlNodes ≤ parser.nodes ∨ maxHtmlDepth ≤ parser.below.length + 1)
    "Provider HTML exceeds the safe structure limit"
  let node : HtmlNode :=
    { number := parser.nodes, tag := TagTables.casefold tag, attrs := attributes attrs }
  if TagTables.casefold tag ∈ voidTags then
    return { parser with top := parser.top.add node.markup, nodes := parser.nodes + 1 }
  else
    return { top := node, below := parser.top :: parser.below, nodes := parser.nodes + 1 }

/-- `handle_startendtag`. -/
def handleStartendtag (parser : TreeParser) (tag : String)
    (attrs : List (String × Option String)) : Except String TreeParser := do
  let opened ← parser.handleStarttag tag attrs
  if opened.top.tag = TagTables.casefold tag then return opened.pop else return opened

/-- `handle_endtag`: the innermost open element with the tag is closed, and those in it. The root
is never closed. -/
def handleEndtag (parser : TreeParser) (tag : String) : TreeParser :=
  match (parser.top :: parser.below).dropLast.findIdx? fun node =>
      node.tag = TagTables.casefold tag with
  | some index => pop^[index + 1] parser
  | none => parser

/-- `handle_data`. -/
def handleData (parser : TreeParser) (piece : String) : TreeParser :=
  if piece = "" then parser else { parser with top := parser.top.add (.text piece .done) }

/-- One token. -/
def handle (parser : TreeParser) : HtmlToken → Except String TreeParser
  | .startTag tag attrs => parser.handleStarttag tag attrs
  | .startEndTag tag attrs => parser.handleStartendtag tag attrs
  | .endTag tag => .ok (parser.handleEndtag tag)
  | .data piece => .ok (parser.handleData piece)

end TreeParser

/-- `parse_html` of the tokens of a document. -/
def parseHtml [TagTables] (tokens : List HtmlToken) : Except String HtmlNode := do
  let parser ← tokens.foldlM TreeParser.handle TreeParser.start
  return TreeParser.root parser.top parser.below

/-! ### What is built -/

/-- A tree that is built so far: its elements are numbered in document order, and no piece of
text is empty. -/
structure TreeParser.Built (parser : TreeParser) : Prop where
  numbers : (root parser.top parser.below :: (root parser.top parser.below).descendants).map
    HtmlNode.number = List.range parser.nodes
  solid : "" ∉ (root parser.top parser.below).contents.pieces

/-- An element with more at its end than another. -/
structure HtmlNode.Extends (node larger : HtmlNode) (numbers : List Nat) (pieces : List String) :
    Prop where
  number : larger.number = node.number
  numbers : larger.contents.nodes.map HtmlNode.number =
    node.contents.nodes.map HtmlNode.number ++ numbers
  pieces : larger.contents.pieces = node.contents.pieces ++ pieces

theorem HtmlNode.extends_add (node : HtmlNode) (more : Markup) :
    node.Extends (node.add more) (more.nodes.map HtmlNode.number) more.pieces where
  number := rfl
  numbers := by
    rw [← List.map_append, ← Markup.nodes_append]
    rfl
  pieces := Markup.pieces_append _ _

namespace TreeParser

/-- More in the innermost element is more at the end of the tree. -/
theorem extends_root {top larger : HtmlNode} {numbers : List Nat} {pieces : List String}
    (more : top.Extends larger numbers pieces) (below : List HtmlNode) :
    (root top below).Extends (root larger below) numbers pieces := by
  induction below generalizing top larger with
  | nil => exact more
  | cons next rest inductionHypothesis =>
    have wider : (next.add top.markup).Extends (next.add larger.markup) numbers pieces := {
      number := rfl
      numbers := by
        simp only [HtmlNode.add, HtmlNode.markup, Markup.nodes_append, Markup.nodes,
          List.map_append, List.map_cons, List.append_nil, more.number, more.numbers,
          List.append_assoc, List.cons_append]
      pieces := by
        simp only [HtmlNode.add, HtmlNode.markup, Markup.pieces_append, Markup.pieces,
          List.append_nil, more.pieces, List.append_assoc] }
    exact inductionHypothesis wider

theorem built_start : start.Built where
  numbers := by
    rw [HtmlNode.descendants_eq]
    rfl
  solid := List.not_mem_nil

variable {parser : TreeParser}

/-- More at the end of the tree, with the next number for its element if it is one. -/
theorem Built.extend (built : parser.Built) {more : HtmlNode}
    {numbers : List Nat} {pieces : List String}
    (larger : (root parser.top parser.below).Extends more numbers pieces) {nodes : Nat}
    (next : List.range parser.nodes ++ numbers = List.range nodes) (solid : "" ∉ pieces) :
    (more :: more.descendants).map HtmlNode.number = List.range nodes ∧
      "" ∉ more.contents.pieces := by
  have before := built.numbers
  rw [HtmlNode.descendants_eq, List.map_cons] at before
  constructor
  · rw [HtmlNode.descendants_eq, List.map_cons, larger.number, larger.numbers, ← next, ← before]
    rfl
  · rw [larger.pieces, List.mem_append, not_or]
    exact ⟨built.solid, solid⟩

theorem built_pop (built : parser.Built) : parser.pop.Built := by
  unfold pop
  split
  · exact built
  · next next rest here =>
    have same : root (next.add parser.top.markup) rest = root parser.top parser.below := by
      rw [here]
      rfl
    exact ⟨same ▸ built.numbers, same ▸ built.solid⟩

theorem built_iterate_pop (built : parser.Built) (count : Nat) :
    (pop^[count] parser).Built := by
  induction count generalizing parser with
  | zero => exact built
  | succ count inductionHypothesis => exact inductionHypothesis (built_pop built)

variable [TagTables]

theorem built_handleStarttag {parser opened : TreeParser} (built : parser.Built) {tag : String}
    {attrs : List (String × Option String)}
    (done : parser.handleStarttag tag attrs = .ok opened) : opened.Built := by
  simp only [handleStarttag, bind_ok_iff, refuseWhen_ok_iff] at done
  obtain ⟨-, -, opened'⟩ := done
  have larger := built.extend (extends_root (parser.top.extends_add (HtmlNode.markup
    { number := parser.nodes, tag := TagTables.casefold tag, attrs := attributes attrs }))
    parser.below) List.range_succ.symm List.not_mem_nil
  split at opened'
  · obtain rfl := Except.ok.inj opened'
    exact ⟨larger.1, larger.2⟩
  · obtain rfl := Except.ok.inj opened'
    exact ⟨larger.1, larger.2⟩

theorem built_handle {parser next : TreeParser} (built : parser.Built) {token : HtmlToken}
    (done : parser.handle token = .ok next) : next.Built := by
  cases token with
  | startTag tag attrs => exact built_handleStarttag built done
  | startEndTag tag attrs =>
    simp only [handle, handleStartendtag, bind_ok_iff] at done
    obtain ⟨opened, started, done⟩ := done
    have openedBuilt := built_handleStarttag built started
    split at done
    · obtain rfl := Except.ok.inj done
      exact built_pop openedBuilt
    · obtain rfl := Except.ok.inj done
      exact openedBuilt
  | endTag tag =>
    obtain rfl := Except.ok.inj done
    unfold handleEndtag
    split
    · exact built_iterate_pop built _
    · exact built
  | data piece =>
    obtain rfl := Except.ok.inj done
    unfold handleData
    split
    · exact built
    · next some =>
      have larger := built.extend (extends_root (parser.top.extends_add (.text piece .done))
        parser.below) (List.append_nil (List.range parser.nodes))
        (fun member => some (List.mem_singleton.mp member).symm)
      exact ⟨larger.1, larger.2⟩

theorem built_foldlM {parser next : TreeParser} (built : parser.Built) {tokens : List HtmlToken}
    (done : tokens.foldlM handle parser = .ok next) : next.Built := by
  induction tokens generalizing parser with
  | nil =>
    obtain rfl := Except.ok.inj done
    exact built
  | cons token tokens inductionHypothesis =>
    simp only [List.foldlM_cons, bind_ok_iff] at done
    obtain ⟨between, first, later⟩ := done
    exact inductionHypothesis (built_handle built first) later

end TreeParser

/-- The elements of a tree that is built differ by their numbers, and its pieces of text are not
empty. -/
theorem built_of_parseHtml [TagTables] {tokens : List HtmlToken} {root : HtmlNode}
    (built : parseHtml tokens = .ok root) :
    ((root :: root.descendants).map HtmlNode.number).Nodup ∧ "" ∉ root.contents.pieces := by
  simp only [parseHtml, bind_ok_iff, pure_ok_iff] at built
  obtain ⟨parser, parsed, rfl⟩ := built
  obtain ⟨numbers, solid⟩ := TreeParser.built_foldlM TreeParser.built_start parsed
  refine ⟨?_, solid⟩
  rw [numbers]
  exact List.nodup_range

/-! ### The elements of a tree -/

/-- An element of a tree, or the root. -/
def HtmlNode.Within (node root : HtmlNode) : Prop := node ∈ root :: root.descendants

theorem HtmlNode.Within.sublist {node root : HtmlNode} (within : node.Within root) :
    (node :: node.descendants).Sublist (root :: root.descendants) := by
  rcases List.mem_cons.mp within with rfl | lower
  · exact List.Sublist.refl _
  · obtain ⟨before, after, split⟩ := List.append_of_mem lower
    rw [split]
    exact (((root.laid_descendants before node after split).sublist.cons_cons node).trans
      (List.sublist_append_right _ _)).trans (List.sublist_cons_self _ _)

theorem Markup.pieces_subset {markup : Markup} {node : HtmlNode} (member : node ∈ markup.nodes) :
    node.contents.pieces ⊆ markup.pieces := by
  induction markup with
  | done => cases member
  | text piece rest inductionHypothesis =>
    exact fun other inside => List.mem_cons_of_mem _ (inductionHypothesis member inside)
  | element number tag attrs inside rest insideHypothesis restHypothesis =>
    rcases List.mem_cons.mp member with rfl | lower
    · exact List.subset_append_left _ _
    rcases List.mem_append.mp lower with within | behind
    · exact List.Subset.trans (insideHypothesis within) (List.subset_append_left _ _)
    · exact List.Subset.trans (restHypothesis behind) (List.subset_append_right _ _)

theorem HtmlNode.Within.pieces {node root : HtmlNode} (within : node.Within root) :
    node.contents.pieces ⊆ root.contents.pieces := by
  rcases List.mem_cons.mp within with rfl | lower
  · exact List.Subset.refl _
  · rw [descendants_eq] at lower
    exact Markup.pieces_subset lower

end CareerOS
