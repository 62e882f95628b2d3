/-
This file is how elements and texts are selected from the HTML of a provider: the small
language of selectors, the search for the elements one selects, and the text of an element.

The search keeps a limited number of elements for every part of a selector, and finds an
element once for every chain of ancestors. The text of an element puts its own pieces
before those of its children, with spaces between them. So both are right on the trees the
last section describes, and on no others.
-/

import CareerOS.Library.Words
import CareerOS.Providers.HtmlTree

namespace CareerOS

/-! ### Selectors -/

/-- `_SelectorPart`. -/
structure SelectorPart where
  tag : Option String
  nodeId : Option String
  classes : List String
  attr : Option (String × Option String)
  deriving DecidableEq

/-- A name at the start of a text, with what follows it. -/
def readName (first rest : Char → Bool) (letters : List Char) : Option (List Char × List Char) :=
  match letters with
  | [] => none
  | letter :: others =>
    if first letter then some (letter :: others.takeWhile rest, others.dropWhile rest) else none

/-- `[a-zA-Z0-9-]`. -/
def isTagLetter (letter : Char) : Bool := letter.isAlphanum || letter = '-'

/-- `[a-zA-Z_]`. -/
def isNameStart (letter : Char) : Bool := letter.isAlpha || letter = '_'

/-- `[a-zA-Z0-9_-]`. -/
def isNameLetter (letter : Char) : Bool := letter.isAlphanum || letter = '_' || letter = '-'

/-- `[a-zA-Z_:]`. -/
def isAttributeStart (letter : Char) : Bool := isNameStart letter || letter = ':'

/-- `[a-zA-Z0-9_:.-]`. -/
def isAttributeLetter (letter : Char) : Bool :=
  isNameLetter letter || letter = ':' || letter = '.'

/-- A name after a mark, if there is one: the `id` of a selector. -/
def readMarked (mark : Char) (letters : List Char) : Option String × List Char :=
  if letters.head? = some mark then
    match readName isNameStart isNameLetter letters.tail with
    | some (name, rest) => (some (String.ofList name), rest)
    | none => (none, letters)
  else (none, letters)

/-- The classes of a selector, at most so many. -/
def readClasses : Nat → List Char → List String × List Char
  | 0, letters => ([], letters)
  | count + 1, letters =>
    match readMarked '.' letters with
    | (some name, rest) =>
      let (names, rest) := readClasses count rest
      (name :: names, rest)
    | (none, rest) => ([], rest)

/-- The value of an attribute up to the closing bracket, without its quotes. -/
def readAttributeValue (letters : List Char) : Option String :=
  if letters.head? = some '"' then
    let value := letters.tail.takeWhile (· ≠ '"')
    if 1 ≤ value.length ∧ value.length ≤ 120 ∧
        letters.tail.dropWhile (· ≠ '"') = ['"', ']'] then some (String.ofList value)
    else none
  else
    let value := letters.takeWhile isAttributeLetter
    if value ≠ [] ∧ letters.dropWhile isAttributeLetter = [']'] then some (String.ofList value)
    else none

/-- The attribute of a selector, which ends it. -/
def readAttribute [TagTables] (letters : List Char) : Option (String × Option String) :=
  match readName isAttributeStart isAttributeLetter letters with
  | none => none
  | some (name, rest) =>
    let name := TagTables.casefold (String.ofList name)
    if rest = [']'] then some (name, none)
    else if rest.head? = some '=' then
      (readAttributeValue rest.tail).map fun value => (name, some value)
    else none

/-- `_parse_part`. Each part of the pattern starts with a mark no letter of the part before it can
be, so the longest reading is the only one. -/
def parsePart [TagTables] (value : List Char) : Except String SelectorPart :=
  let (tag, rest) :=
    match readName Char.isAlpha isTagLetter value with
    | some (name, rest) => (some (TagTables.casefold (String.ofList name)), rest)
    | none => (none, value)
  let (nodeId, rest) := readMarked '#' rest
  let (classes, rest) := readClasses rest.length rest
  let refusal := "Provider HTML selector is outside the supported subset"
  if value = [] then .error refusal
  else if rest = [] then .ok { tag, nodeId, classes, attr := none }
  else if rest.head? = some '[' then
    match readAttribute rest.tail with
    | some attr => .ok { tag, nodeId, classes, attr := some attr }
    | none => .error refusal
  else .error refusal

/-- The words of a text. -/
def textWords (text : String) : List (List Char) :=
  Text.runs (fun letter => !Text.isSpace letter) text.toList

/-- `validate_selector`, with the parts of the selector it returns. -/
def validateSelector [TagTables] (selector : String) : Except String (List (List Char)) := do
  let candidate := Text.joinWords selector.toList
  refuseWhen (candidate = [] ∨ 500 < candidate.length ∨ 8 < (textWords selector).length)
    "Provider HTML selector is invalid"
  let _ ← (textWords selector).mapM parsePart
  return textWords selector

/-- `_matches`. -/
def matchesPart (part : SelectorPart) (node : HtmlNode) : Bool :=
  (match part.tag with
    | some tag => node.tag = tag
    | none => true) &&
  (match part.nodeId with
    | some id => Dict.lookup "id" node.attrs = some id
    | none => true) &&
  part.classes.all (fun name => name.toList ∈
    textWords ((Dict.lookup "class" node.attrs).getD "")) &&
  (match part.attr with
    | some (name, some expected) => Dict.lookup name node.attrs = some expected
    | some (name, none) => (Dict.lookup name node.attrs).isSome
    | none => true)

/-! ### Selecting -/

/-- The inner loop of `select_all`: the matching ones of some elements, up to the limit. -/
def collect (part : SelectorPart) (limit : Int) (matched : List HtmlNode) :
    List HtmlNode → List HtmlNode
  | [] => matched
  | candidate :: rest =>
    if matchesPart part candidate then
      if limit ≤ (matched ++ [candidate]).length then matched ++ [candidate]
      else collect part limit (matched ++ [candidate]) rest
    else collect part limit matched rest

/-- The loop of `select_all` over the elements found for the part before. -/
def collectBelow (part : SelectorPart) (limit : Int) (matched : List HtmlNode) :
    List HtmlNode → List HtmlNode
  | [] => matched
  | parent :: rest =>
    let found := collect part limit matched parent.descendants
    if limit ≤ found.length then found else collectBelow part limit found rest

/-- `select_all`. -/
def selectAll [TagTables] (node : HtmlNode) (selector : String) (limit : Int) :
    Except String (List HtmlNode) := do
  let parts ← validateSelector selector
  parts.foldlM (fun current rawPart => do
    let part ← parsePart rawPart
    return collectBelow part limit [] current) [node]

/-- `select_one`. -/
def selectOne [TagTables] (node : HtmlNode) (selector : String) :
    Except String (Option HtmlNode) :=
  if selector = "." then .ok (some node)
  else do
    let found ← selectAll node selector 1
    return found.head?

/-! ### The text of an element -/

/-- `MAX_FIELD_TEXT`. -/
def maxFieldText : Nat := 20000

/-- The loop of `text_content` over the pieces of text, after so many letters. -/
def gatherText (size : Nat) : List String → Except String (List String)
  | [] => .ok []
  | piece :: rest => do
    let size := size + piece.length
    refuseWhen (maxFieldText < size) "Provider HTML field exceeds the safe text limit"
    let parts ← gatherText size rest
    return piece :: parts

/-- The pieces of text of an element as they are gathered: its own before those of its children. -/
def HtmlNode.storedText (node : HtmlNode) : List String := (walk [node]).flatMap HtmlNode.text

/-- `text_content`. -/
def textContent (node : HtmlNode) : Except String String := do
  let parts ← gatherText 0 node.storedText
  return String.ofList (Text.joinWords ([' '].intercalate (parts.map String.toList)))

/-! ### The search, part by part -/

variable {limit : Int}

theorem collect_eq (part : SelectorPart) {count : Nat} (same : limit = count)
    {matched : List HtmlNode} (few : matched.length < count) (candidates : List HtmlNode) :
    collect part limit matched candidates =
      (matched ++ candidates.filter (matchesPart part)).take count := by
  induction candidates generalizing matched with
  | nil =>
    rw [collect, List.filter_nil, List.append_nil, List.take_of_length_le few.le]
  | cons candidate rest inductionHypothesis =>
    rw [collect, List.filter_cons]
    have length : (matched ++ [candidate]).length = matched.length + 1 := List.length_append
    have regroup : matched ++ candidate :: rest.filter (matchesPart part) =
        (matched ++ [candidate]) ++ rest.filter (matchesPart part) := List.append_cons _ _ _
    by_cases fits : matchesPart part candidate = true
    · rw [if_pos fits, if_pos fits, regroup]
      by_cases full : limit ≤ (matched ++ [candidate]).length
      · rw [if_pos full, List.take_append_of_le_length (by omega),
          List.take_of_length_le (by omega)]
      · rw [if_neg full]
        exact inductionHypothesis (by omega)
    · rw [if_neg fits, if_neg fits]
      exact inductionHypothesis few

theorem collectBelow_eq (part : SelectorPart) {count : Nat} (same : limit = count)
    {matched : List HtmlNode} (few : matched.length < count) (parents : List HtmlNode) :
    collectBelow part limit matched parents =
      (matched ++ parents.flatMap fun parent =>
        parent.descendants.filter (matchesPart part)).take count := by
  induction parents generalizing matched with
  | nil =>
    rw [collectBelow, List.flatMap_nil, List.append_nil, List.take_of_length_le few.le]
  | cons parent rest inductionHypothesis =>
    rw [collectBelow, List.flatMap_cons, ← List.append_assoc, collect_eq part same few]
    generalize matched ++ parent.descendants.filter (matchesPart part) = found
    have length : (found.take count).length = min count found.length := List.length_take
    by_cases full : limit ≤ (found.take count).length
    · simp only [if_pos full]
      rw [List.take_append_of_le_length (by omega)]
    · simp only [if_neg full]
      rw [List.take_of_length_le (by omega)]
      exact inductionHypothesis (by omega)

/-- One part of a selector, from the elements found for the part before. -/
theorem collectBelow_nil (part : SelectorPart) {count : Nat} (some : 0 < count)
    (parents : List HtmlNode) : collectBelow part count [] parents =
      Outline.follow HtmlNode.descendants count parents (matchesPart part) :=
  collectBelow_eq part rfl some parents

/-- A limit below one is met by the first element that is found. -/
theorem collect_nonpositive (part : SelectorPart) (none : limit ≤ 0) (candidates : List HtmlNode) :
    collect part limit [] candidates = (candidates.filter (matchesPart part)).take 1 := by
  induction candidates with
  | nil => rfl
  | cons candidate rest inductionHypothesis =>
    rw [collect, List.filter_cons]
    by_cases fits : matchesPart part candidate = true
    · rw [if_pos fits, if_pos fits, if_pos (none.trans (Int.natCast_nonneg _)),
        List.take_succ_cons, List.take_zero]
      rfl
    · rw [if_neg fits, if_neg fits, inductionHypothesis]

theorem foldl_collectBelow_nonpositive (none : limit ≤ 0)
    (parts : List SelectorPart) {current : List HtmlNode} (single : current.length ≤ 1) :
    parts.foldl (fun found part => collectBelow part limit [] found) current =
      parts.foldl (fun found part => Outline.follow HtmlNode.descendants 1 found
        (matchesPart part)) current := by
  induction parts generalizing current with
  | nil => rfl
  | cons part parts inductionHypothesis =>
    have step : collectBelow part limit [] current =
        Outline.follow HtmlNode.descendants 1 current (matchesPart part) := by
      match current, single with
      | [], _ => rfl
      | [parent], _ =>
        rw [collectBelow, collect_nonpositive part none]
        simp only [if_pos (none.trans (Int.natCast_nonneg _))]
        unfold Outline.follow
        rw [List.flatMap_singleton]
    rw [List.foldl_cons, List.foldl_cons, step]
    exact inductionHypothesis (List.length_take_le _ _)

/-- The search with a limit above zero, and with any other limit. -/
theorem foldl_collectBelow (parts : List SelectorPart) (node : HtmlNode) (limit : Int) :
    parts.foldl (fun found part => collectBelow part limit [] found) [node] =
      (parts.map matchesPart).foldl
        (Outline.follow HtmlNode.descendants (max 1 limit).toNat) [node] := by
  rw [List.foldl_map]
  by_cases some : 1 ≤ limit
  · obtain ⟨count, rfl⟩ := Int.eq_ofNat_of_zero_le (Int.le_trans (by decide) some)
    rw [max_eq_right some]
    have positive : 0 < count := by omega
    refine congrArg (fun step => parts.foldl step [node]) ?_
    funext found part
    exact collectBelow_nil part positive found
  · rw [max_eq_left (by omega)]
    exact foldl_collectBelow_nonpositive (by omega) parts le_rfl

variable {selector : String}

theorem textWords_ne_nil (some : Text.joinWords selector.toList ≠ []) :
    textWords selector ≠ [] := fun none => some (by
  unfold Text.joinWords
  rw [show Text.runs (fun letter => !Text.isSpace letter) selector.toList = [] from none]
  rfl)

section

variable [TagTables] {words : List (List Char)} {parts : List SelectorPart}

/-- What a selector selects is found part by part. -/
theorem selectAll_eq
    (valid : validateSelector selector = .ok words) (parsed : words.mapM parsePart = .ok parts)
    (node : HtmlNode) (limit : Int) : selectAll node selector limit =
      .ok (parts.foldl (fun found part => collectBelow part limit [] found) [node]) := by
  have run (words : List (List Char)) : ∀ (parts : List SelectorPart) (current : List HtmlNode),
      words.mapM parsePart = .ok parts →
        words.foldlM (fun current rawPart => do
          let part ← parsePart rawPart
          return collectBelow part limit [] current) current =
        (.ok (parts.foldl (fun found part => collectBelow part limit [] found) current) :
          Except String (List HtmlNode)) := by
    induction words with
    | nil =>
      intro parts current parsed
      obtain rfl := Except.ok.inj parsed
      rfl
    | cons word words inductionHypothesis =>
      intro parts current parsed
      simp only [List.mapM_cons, bind_ok_iff, pure_ok_iff] at parsed
      obtain ⟨part, first, others, later, rfl⟩ := parsed
      rw [List.foldlM_cons, first]
      exact inductionHypothesis others _ later
  unfold selectAll
  rw [valid]
  exact run words parts [node] parsed

/-- The parts of a selector that is valid. -/
theorem exists_parts (valid : validateSelector selector = .ok words) :
    words = textWords selector ∧ ∃ part parts, words.mapM parsePart = .ok (part :: parts) := by
  simp only [validateSelector, bind_ok_iff, refuseWhen_ok_iff, pure_ok_iff, not_or] at valid
  obtain ⟨-, ⟨some, -, -⟩, parts, parsed, rfl⟩ := valid
  refine ⟨rfl, ?_⟩
  cases parts with
  | nil =>
    have none := (mapM_ok_iff_forall₂.mp parsed).length_eq
    exact absurd (List.length_eq_zero_iff.mp none) (textWords_ne_nil some)
  | cons part parts => exact ⟨part, parts, parsed⟩

/-! ### What selecting should give -/

/-- The elements below an element that a selector matches, in document order. -/
def matching (node : HtmlNode) (parts : List SelectorPart) : List HtmlNode :=
  node.descendants.filter (Outline.selected HtmlNode.descendants node (parts.map matchesPart))

/-- The pieces of text of an element, joined in document order, with single spaces. -/
def documentText (node : HtmlNode) : String :=
  String.ofList (Text.joinWords (node.contents.pieces.map String.toList).flatten)

/-- How much text an element has. -/
def textSize (node : HtmlNode) : Nat := (node.contents.pieces.map String.length).sum

/-- Selecting and reading as they are meant: the first matching elements in document order, the
first one, and the text of the element, which is refused when there is too much of it. -/
structure SelectsAsMeant (node : HtmlNode) (selector : String) (parts : List SelectorPart)
    (limit : Int) : Prop where
  all : selectAll node selector limit = .ok ((matching node parts).take limit.toNat)
  one : selectOne node selector = .ok (matching node parts).head?
  text : textContent node =
    if maxFieldText < textSize node then
      .error "Provider HTML field exceeds the safe text limit"
    else .ok (documentText node)

/-! ### When selecting is as meant -/

/-- The chains of ancestors a selector matches, each of whose beginnings is among the first ones
of its length, end at different elements, and fill the limit or leave none out. -/
def FindsAll (node : HtmlNode) (parts : List SelectorPart) (limit : Int) : Prop :=
  if 1 ≤ limit then
    Outline.Whole HtmlNode.descendants limit.toNat node (parts.map matchesPart)
  else Outline.reachedChains HtmlNode.descendants 1 node (parts.map matchesPart) = []

theorem selectAll_eq_iff {node : HtmlNode} (distinct : node.descendants.Nodup)
    {part : SelectorPart}
    (valid : validateSelector selector = .ok words)
    (parsed : words.mapM parsePart = .ok (part :: parts)) (limit : Int) :
    selectAll node selector limit = .ok ((matching node (part :: parts)).take limit.toNat) ↔
      FindsAll node (part :: parts) limit := by
  rw [selectAll_eq valid parsed, Except.ok.injEq, foldl_collectBelow]
  unfold FindsAll
  split
  · next some =>
    rw [max_eq_right some]
    exact Outline.foldl_follow_eq_iff (fun element => element.laid_descendants) distinct
      (by omega) _ _
  · next none =>
    rw [max_eq_left (by omega), show limit.toNat = 0 by omega, List.take_zero]
    rw [Outline.foldl_follow (fun element => element.laid_descendants) distinct (by decide)]
    exact List.map_eq_nil_iff

theorem selectOne_eq_iff {node : HtmlNode} (distinct : node.descendants.Nodup)
    {part : SelectorPart}
    (valid : validateSelector selector = .ok words)
    (parsed : words.mapM parsePart = .ok (part :: parts)) :
    selectOne node selector = .ok (matching node (part :: parts)).head? ↔
      FindsAll node (part :: parts) 1 := by
  have notDot : selector ≠ "." := by
    rintro rfl
    obtain ⟨rfl, -⟩ := exists_parts valid
    rw [show textWords "." = [['.']] by decide] at parsed
    simp only [List.mapM_cons, bind_ok_iff] at parsed
    obtain ⟨_, dot, _⟩ := parsed
    cases dot
  rw [← selectAll_eq_iff distinct valid parsed]
  unfold selectOne
  rw [if_neg notDot, selectAll_eq valid parsed, foldl_collectBelow]
  rw [Outline.foldl_follow (fun element => element.laid_descendants) distinct (by decide)]
  have few : ((Outline.reachedChains HtmlNode.descendants (max 1 (1 : Int)).toNat node
      ((part :: parts).map matchesPart)).map (Outline.endOf node)).length ≤ 1 := by
    rw [List.length_map]
    exact List.length_take_le _ _
  revert few
  generalize (Outline.reachedChains HtmlNode.descendants (max 1 (1 : Int)).toNat node
    ((part :: parts).map matchesPart)).map (Outline.endOf node) = found
  generalize matching node (part :: parts) = all
  intro few
  show Except.ok found.head? = Except.ok all.head? ↔ Except.ok found = Except.ok (all.take 1)
  rw [Except.ok.injEq, Except.ok.injEq]
  match found, few with
  | [], _ => cases all <;> simp
  | [only], _ => cases all <;> simp

end

/-! ### When the text is as meant -/

theorem ownText_perm (markup : Markup) :
    (markup.ownText ++ markup.nodes.flatMap HtmlNode.text).Perm markup.pieces := by
  induction markup with
  | done => exact List.Perm.refl _
  | text piece rest inductionHypothesis => exact inductionHypothesis.cons piece
  | element number tag attrs inside rest insideHypothesis restHypothesis =>
    simp only [Markup.ownText, Markup.nodes, Markup.pieces, List.flatMap_cons, List.flatMap_append]
    refine List.Perm.trans ?_ (insideHypothesis.append restHypothesis)
    simp only [List.append_assoc]
    refine (List.perm_append_comm_assoc _ _ _).trans (List.Perm.append_left _ ?_)
    exact List.perm_append_comm_assoc _ _ _

/-- The gathered pieces are the pieces of the element in another order. -/
theorem storedText_perm (node : HtmlNode) : node.storedText.Perm node.contents.pieces := by
  unfold HtmlNode.storedText
  rw [walk_singleton, List.flatMap_cons]
  exact ownText_perm node.contents

theorem gatherText_eq (size : Nat) (pieces : List String) (small : size ≤ maxFieldText) :
    gatherText size pieces =
      if maxFieldText < size + (pieces.map String.length).sum then
        .error "Provider HTML field exceeds the safe text limit"
      else .ok pieces := by
  induction pieces generalizing size with
  | nil =>
    rw [List.map_nil, List.sum_nil, Nat.add_zero, if_neg (not_lt.mpr small)]
    rfl
  | cons piece rest inductionHypothesis =>
    rw [gatherText, List.map_cons, List.sum_cons, ← Nat.add_assoc]
    by_cases large : maxFieldText < size + piece.length
    · have all : maxFieldText < size + piece.length + (rest.map String.length).sum := by omega
      rw [if_pos all]
      simp only [refuseWhen, large]
      rfl
    · simp only [refuseWhen, if_neg large]
      have step := inductionHypothesis (size + piece.length) (not_lt.mp large)
      show (gatherText (size + piece.length) rest >>= fun parts => pure (piece :: parts)) = _
      rw [step]
      split <;> rfl

/-- The text of an element reads in document order, and no word runs from one piece into the next:
the pieces can be gathered with spaces between them. -/
structure ReadsInOrder (node : HtmlNode) : Prop where
  apart : (node.contents.pieces.map String.toList).IsChain
    (Text.Apart fun letter => !Text.isSpace letter)
  order : node.storedText.flatMap textWords = node.contents.pieces.flatMap textWords

theorem textContent_eq_iff {node : HtmlNode} (solid : "" ∉ node.contents.pieces) :
    textContent node = (if maxFieldText < textSize node then
        .error "Provider HTML field exceeds the safe text limit"
      else .ok (documentText node)) ↔ maxFieldText < textSize node ∨ ReadsInOrder node := by
  have size : (node.storedText.map String.length).sum = textSize node :=
    ((storedText_perm node).map _).sum_nat
  have gathered := gatherText_eq 0 node.storedText (Nat.zero_le _)
  rw [Nat.zero_add, size] at gathered
  unfold textContent
  by_cases large : maxFieldText < textSize node
  · rw [if_pos large] at gathered ⊢
    rw [gathered]
    exact ⟨fun _ => .inl large, fun _ => rfl⟩
  · rw [if_neg large] at gathered ⊢
    rw [gathered]
    have pieces : ∀ piece ∈ node.contents.pieces.map String.toList, piece ≠ [] := by
      intro piece member empty
      obtain ⟨text, inside, rfl⟩ := List.mem_map.mp member
      rw [String.toList_eq_nil_iff] at empty
      exact solid (empty ▸ inside)
    have words := @Text.runs_flatten_eq_iff (fun letter => !Text.isSpace letter) _ _ pieces
      ((storedText_perm node).map String.toList)
    rw [List.flatMap_map, List.flatMap_map] at words
    show Except.ok _ = Except.ok _ ↔ _
    rw [Except.ok.injEq, or_iff_right large]
    unfold documentText
    rw [String.ofList_inj, Text.joinWords_eq_iff, Text.runs_intercalate (by decide),
      List.flatMap_map, words]
    exact ⟨fun both => ⟨both.1, both.2⟩, fun inOrder => ⟨inOrder.apart, inOrder.order⟩⟩

/-! ### Selecting from a tree that is built -/

/-- Selecting from an element of a tree and reading its text is as meant exactly when the search
finds all of the first elements, with the limit and with the limit of one, and the text reads in
order unless there is too much of it. -/
theorem selectsAsMeant_iff [TagTables] {tokens : List HtmlToken} {root node : HtmlNode}
    (built : parseHtml tokens = .ok root) (within : node.Within root) {selector : String}
    {words : List (List Char)} {parts : List SelectorPart}
    (valid : validateSelector selector = .ok words) (parsed : words.mapM parsePart = .ok parts)
    (limit : Int) :
    SelectsAsMeant node selector parts limit ↔
      FindsAll node parts limit ∧ FindsAll node parts 1 ∧
        (maxFieldText < textSize node ∨ ReadsInOrder node) := by
  obtain ⟨numbers, solid⟩ := built_of_parseHtml built
  have distinct := (List.Nodup.of_map _ (numbers.sublist (within.sublist.map _))).of_cons
  obtain ⟨-, part, others, parsed'⟩ := exists_parts valid
  obtain rfl := Except.ok.inj (parsed.symm.trans parsed')
  have text := textContent_eq_iff fun empty => solid (within.pieces empty)
  rw [← selectAll_eq_iff distinct valid parsed, ← selectOne_eq_iff distinct valid parsed, ← text]
  exact ⟨fun meant => ⟨meant.all, meant.one, meant.text⟩,
    fun ⟨all, one, text⟩ => ⟨all, one, text⟩⟩

section

/-- Folding the letters of ASCII. -/
@[reducible] def TagTables.ascii : TagTables where
  casefold text := String.ofList (text.toList.map Char.toLower)

attribute [local instance] TagTables.ascii

/-- A paragraph in two divisions, one in the other. -/
def nestedTokens : List HtmlToken :=
  [.startTag "div" [], .startTag "div" [], .startTag "p" [], .endTag "p", .endTag "div",
    .endTag "div"]

/-- The element of the paragraph. -/
def nestedParagraph : HtmlNode := ⟨3, "p", [], .done⟩

/-- What is built of the tokens. -/
def nestedTree : HtmlNode :=
  ⟨0, "document", [], .element 1 "div" []
    (.element 2 "div" [] (.element 3 "p" [] .done .done) .done) .done⟩

/-- A part of a selector that is the name of a tag. -/
def tagPart (tag : String) : SelectorPart := ⟨some tag, none, [], none⟩

theorem selectsAsMeant_paragraph : SelectsAsMeant nestedTree "p" [tagPart "p"] 200 ↔
    FindsAll nestedTree [tagPart "p"] 200 ∧ FindsAll nestedTree [tagPart "p"] 1 ∧
      (maxFieldText < textSize nestedTree ∨ ReadsInOrder nestedTree) :=
  selectsAsMeant_iff (show parseHtml nestedTokens = .ok nestedTree by decide +kernel)
    List.mem_cons_self (show validateSelector "p" = .ok [['p']] by decide +kernel)
    (show List.mapM parsePart [['p']] = .ok [tagPart "p"] by decide +kernel) 200

/-- The paragraph is found below the one division and below the other. -/
theorem selectAll_twice : parseHtml nestedTokens = .ok nestedTree ∧
    validateSelector "div p" = .ok [['d', 'i', 'v'], ['p']] ∧
    [['d', 'i', 'v'], ['p']].mapM parsePart = .ok [tagPart "div", tagPart "p"] ∧
    selectAll nestedTree "div p" 200 = .ok [nestedParagraph, nestedParagraph] ∧
    ¬SelectsAsMeant nestedTree "div p" [tagPart "div", tagPart "p"] 200 := by
  have valid : validateSelector "div p" = .ok [['d', 'i', 'v'], ['p']] := by decide +kernel
  have parsed : [['d', 'i', 'v'], ['p']].mapM parsePart = .ok [tagPart "div", tagPart "p"] := by
    decide +kernel
  have structural : HtmlNode.descendants = fun node => node.contents.nodes :=
    funext HtmlNode.descendants_eq
  have found : selectAll nestedTree "div p" 200 = .ok [nestedParagraph, nestedParagraph] := by
    rw [selectAll_eq valid parsed, foldl_collectBelow, structural]
    decide +kernel
  refine ⟨by decide +kernel, valid, parsed, found, fun meant => ?_⟩
  have once := found.symm.trans meant.all
  unfold matching at once
  rw [structural] at once
  revert once
  decide +kernel

end

end CareerOS
