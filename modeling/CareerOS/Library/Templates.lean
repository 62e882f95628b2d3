/-
This file is texts with placeholders, and the percent-encoding that keeps a value in its
segment. A template is read from left to right into letters and variables, where a variable
is a name in braces; whatever is no variable stands for itself. Values are put in once and
not read again. Encoded values hold no slash, so a template that is split at its slashes is
filled in segment by segment.
-/

import CareerOS.Library.Dict
import CareerOS.Library.Outcome
import CareerOS.Library.Url

namespace CareerOS

variable {mark : Char} {letter : Char}

namespace Template

/-- A part of a template. -/
inductive Piece
  | letter (letter : Char)
  | placeholder (name : List Char)
  deriving DecidableEq

/-- The first letter of a name: `[a-z_]`. -/
def startsName (letter : Char) : Bool :=
  (0x61 ≤ letter.toNat && letter.toNat ≤ 0x7a) || letter == '_'

/-- A later letter of a name: `[a-z0-9_]`. -/
def continuesName (letter : Char) : Bool := startsName letter || Url.isDigit letter

/-- May the letter come next in a name that is being read? -/
def extendsName (name : List Char) (letter : Char) : Bool :=
  if name = [] then startsName letter else continuesName letter

/-- An open brace and what was no name, as letters. -/
def opening (name : List Char) : List Piece := ('{' :: name).map .letter

/-- The pieces of a template after an open brace and the name so far, if there is one. -/
def piecesFrom : Option (List Char) → List Char → List Piece
  | none, [] => []
  | some name, [] => opening name
  | none, letter :: rest =>
    if letter = '{' then piecesFrom (some []) rest else .letter letter :: piecesFrom none rest
  | some name, letter :: rest =>
    if extendsName name letter then piecesFrom (some (name ++ [letter])) rest
    else if letter = '}' ∧ name ≠ [] then .placeholder name :: piecesFrom none rest
    else if letter = '{' then opening name ++ piecesFrom (some []) rest
    else opening name ++ .letter letter :: piecesFrom none rest

/-- The pieces of a template, as `\{([a-z_][a-z0-9_]*)\}` finds its variables. -/
def pieces (template : List Char) : List Piece := piecesFrom none template

/-- The names of the variables. -/
def names (template : List Char) : List String :=
  (pieces template).filterMap fun piece =>
    match piece with
    | .letter _ => none
    | .placeholder name => some (String.ofList name)

/-- The text of a piece; a name without a value is a `KeyError`. -/
def renderPiece (values : Dict String String) (encode : List Char → List Char) :
    Piece → Except String (List Char)
  | .letter letter => .ok [letter]
  | .placeholder name =>
    match Dict.lookup (String.ofList name) values with
    | some value => .ok (encode value.toList)
    | none => .error "KeyError"

/-- A template with its values put in. -/
def render (values : Dict String String) (encode : List Char → List Char)
    (template : List Char) : Except String (List Char) := do
  let texts ← (pieces template).mapM (renderPiece values encode)
  return texts.flatten

/-! ### Splitting a template -/

/-- A letter that is in no placeholder ends the name that is being read. -/
theorem piecesFrom_append (plain : continuesName mark = false)
    (open_ : mark ≠ '{') (close : mark ≠ '}') (rest : List Char) :
    ∀ (template : List Char) (pending : Option (List Char)),
      piecesFrom pending (template ++ mark :: rest) =
        piecesFrom pending template ++ .letter mark :: pieces rest := by
  have ended : ∀ name, extendsName name mark = false := by
    intro name
    unfold extendsName
    split
    · exact (Bool.or_eq_false_iff.mp plain).1
    · exact plain
  intro template
  induction template with
  | nil =>
    intro pending
    cases pending with
    | none => exact if_neg open_
    | some name =>
      rw [List.nil_append]
      unfold piecesFrom
      rw [ended, if_neg Bool.false_ne_true, if_neg fun closed => close closed.1, if_neg open_]
      rfl
  | cons letter template inductionHypothesis =>
    intro pending
    rw [List.cons_append]
    cases pending with
    | none =>
      unfold piecesFrom
      split_ifs
      · exact inductionHypothesis _
      · rw [inductionHypothesis, List.cons_append]
    | some name =>
      unfold piecesFrom
      split_ifs
      · exact inductionHypothesis _
      · rw [inductionHypothesis, List.cons_append]
      · rw [inductionHypothesis, List.append_assoc]
      · rw [inductionHypothesis, List.append_assoc, List.cons_append]

/-- A template splits at a letter that is in no placeholder. -/
theorem pieces_append (plain : continuesName mark = false) (open_ : mark ≠ '{')
    (close : mark ≠ '}') (template rest : List Char) :
    pieces (template ++ mark :: rest) = pieces template ++ .letter mark :: pieces rest :=
  piecesFrom_append plain open_ close rest template none

theorem mem_opening {name : List Char} (member : .letter letter ∈ opening name) :
    letter = '{' ∨ letter ∈ name := by
  obtain ⟨_, inside, same⟩ := List.mem_map.mp member
  obtain rfl := Piece.letter.inj same
  exact List.mem_cons.mp inside

variable {template : List Char}

/-- The letters of the pieces are letters of the template, or of the name before it. -/
theorem mem_piecesFrom :
    ∀ {pending : Option (List Char)}, .letter letter ∈ piecesFrom pending template →
      letter ∈ template ∨ ∃ name ∈ pending, letter = '{' ∨ letter ∈ name := by
  induction template with
  | nil =>
    intro pending member
    cases pending with
    | none => cases member
    | some name => exact .inr ⟨name, rfl, mem_opening member⟩
  | cons first rest inductionHypothesis =>
    have later : ∀ {pending}, .letter letter ∈ piecesFrom pending rest →
        letter ∈ first :: rest ∨ ∃ name ∈ pending, letter = '{' ∨ letter ∈ name :=
      fun member => (inductionHypothesis member).imp_left (List.mem_cons_of_mem _)
    have none : .letter letter ∈ piecesFrom none rest → letter ∈ first :: rest := by
      intro member
      rcases later member with inside | ⟨_, nothing, -⟩
      · exact inside
      · cases nothing
    have opened : first = '{' → .letter letter ∈ piecesFrom (some []) rest →
        letter ∈ first :: rest := by
      rintro rfl member
      rcases later member with inside | ⟨_, ⟨⟩, brace | nothing⟩
      · exact inside
      · exact brace ▸ List.mem_cons_self
      · cases nothing
    intro pending member
    cases pending with
    | none =>
      unfold piecesFrom at member
      split_ifs at member with brace
      · exact .inl (opened brace member)
      · rcases List.mem_cons.mp member with same | member
        · obtain rfl := Piece.letter.inj same
          exact .inl List.mem_cons_self
        · exact .inl (none member)
    | some name =>
      unfold piecesFrom at member
      split_ifs at member with extended closed brace
      · rcases later member with inside | ⟨_, ⟨⟩, brace | inside⟩
        · exact .inl inside
        · exact .inr ⟨name, rfl, .inl brace⟩
        · rcases List.mem_append.mp inside with before | last
          · exact .inr ⟨name, rfl, .inr before⟩
          · obtain rfl := List.mem_singleton.mp last
            exact .inl List.mem_cons_self
      · rcases List.mem_cons.mp member with same | member
        · cases same
        · exact .inl (none member)
      · rcases List.mem_append.mp member with before | member
        · exact .inr ⟨name, rfl, mem_opening before⟩
        · exact .inl (opened brace member)
      · rcases List.mem_append.mp member with before | member
        · exact .inr ⟨name, rfl, mem_opening before⟩
        · rcases List.mem_cons.mp member with same | member
          · obtain rfl := Piece.letter.inj same
            exact .inl List.mem_cons_self
          · exact .inl (none member)

theorem mem_pieces (member : .letter letter ∈ pieces template) : letter ∈ template := by
  rcases mem_piecesFrom member with inside | ⟨_, nothing, -⟩
  · exact inside
  · cases nothing

/-! ### Filling in a template -/

section

variable {values : Dict String String} {encode : List Char → List Char}

/-- A template whose names all have a value is filled in. -/
theorem render_ok_of_known
    (known : ∀ name ∈ names template, ∃ value, Dict.lookup name values = some value) :
    ∃ text, render values encode template = .ok text := by
  have all : ∀ piece ∈ pieces template, ∃ text, renderPiece values encode piece = .ok text := by
    intro piece member
    cases piece with
    | letter letter => exact ⟨[letter], rfl⟩
    | placeholder name =>
      obtain ⟨value, found⟩ := known (String.ofList name)
        (List.mem_filterMap.mpr ⟨_, member, rfl⟩)
      exact ⟨encode value.toList, by simp only [renderPiece, found]⟩
  obtain ⟨texts, mapped⟩ := (mapM_ok_iff _).mpr all
  exact ⟨texts.flatten, bind_ok_iff.mpr ⟨texts, mapped, rfl⟩⟩

/-- Two templates with a mark between them are filled in on their own. -/
theorem render_append (plain : continuesName mark = false) (open_ : mark ≠ '{')
    (close : mark ≠ '}') {template rest text : List Char}
    (rendered : render values encode (template ++ mark :: rest) = .ok text) :
    ∃ first second, render values encode template = .ok first ∧
      render values encode rest = .ok second ∧ text = first ++ mark :: second := by
  unfold render at rendered ⊢
  rw [pieces_append plain open_ close] at rendered
  simp only [List.mapM_append, List.mapM_cons, bind_ok_iff, pure_ok_iff, renderPiece] at rendered ⊢
  obtain ⟨_, ⟨texts, first, _, ⟨_, same, others, second, rfl⟩, rfl⟩, rfl⟩ := rendered
  obtain rfl := Except.ok.inj same
  exact ⟨_, _, ⟨texts, first, rfl⟩, ⟨others, second, rfl⟩, by simp⟩

/-- What fills a template in has a mark only where the template has it. -/
theorem not_mem_render (encoded : ∀ value, mark ∉ encode value)
    {template text : List Char} (outside : mark ∉ template)
    (rendered : render values encode template = .ok text) : mark ∉ text := by
  simp only [render, bind_ok_iff, pure_ok_iff] at rendered
  obtain ⟨texts, mapped, rfl⟩ := rendered
  intro member
  obtain ⟨part, inside, member⟩ := List.mem_flatten.mp member
  obtain ⟨piece, among, same⟩ := (mem_of_mapM_ok mapped).mp inside
  cases piece with
  | letter letter =>
    obtain rfl := Except.ok.inj same
    obtain rfl := List.mem_singleton.mp member
    exact outside (mem_pieces among)
  | placeholder name =>
    simp only [renderPiece] at same
    split at same
    · obtain rfl := Except.ok.inj same
      exact encoded _ member
    · cases same

/-- A template is filled in part by part, where no value holds the mark between the parts. -/
theorem splitOn_render (plain : continuesName mark = false) (open_ : mark ≠ '{')
    (close : mark ≠ '}') (encoded : ∀ value, mark ∉ encode value) :
    ∀ {template text : List Char}, render values encode template = .ok text →
      List.Forall₂ (fun part filled => render values encode part = .ok filled)
        (template.splitOn mark) (text.splitOn mark) := by
  intro template
  induction length : template.length using Nat.strongRecOn generalizing template with
  | _ bound inductionHypothesis =>
    intro text rendered
    by_cases marked : mark ∈ template
    · obtain ⟨before, after, rfl, outside⟩ := List.eq_append_cons_of_mem marked
      obtain ⟨first, second, here, there, rfl⟩ := render_append plain open_ close rendered
      rw [List.splitOn_append_cons_self_of_not_mem outside,
        List.splitOn_append_cons_self_of_not_mem (not_mem_render encoded outside here)]
      refine .cons here (inductionHypothesis after.length ?_ rfl there)
      rw [← length, List.length_append, List.length_cons]
      omega
    · rw [List.splitOn_eq_singleton marked,
        List.splitOn_eq_singleton (not_mem_render encoded marked rendered)]
      exact .cons rendered .nil

end

end Template

/-! ### Percent-encoding -/

namespace Url

/-- The characters that are never encoded. -/
def isUnreserved (letter : Char) : Bool :=
  isAlpha letter || isDigit letter || ['_', '.', '-', '~'].contains letter

/-- An upper-case hexadecimal digit. -/
def upperHex (value : Nat) : Char :=
  if value < 10 then Char.ofNat (0x30 + value) else Char.ofNat (0x37 + value)

/-- A byte as `%XX`. -/
def percentByte (byte : UInt8) : List Char :=
  ['%', upperHex (byte.toNat / 16), upperHex (byte.toNat % 16)]

/-- `urllib.parse.quote(text, safe="")`. -/
def quote (text : List Char) : List Char :=
  text.flatMap fun letter =>
    if isUnreserved letter then [letter] else (String.utf8EncodeChar letter).flatMap percentByte

theorem isUnreserved_upperHex {value : Nat} (small : value < 16) :
    isUnreserved (upperHex value) = true := by
  interval_cases value <;> rfl

/-- Quoted text holds no reserved character but the percent sign. -/
theorem isUnreserved_of_mem_quote {text : List Char}
    (member : letter ∈ quote text) : isUnreserved letter = true ∨ letter = '%' := by
  obtain ⟨source, -, member⟩ := List.mem_flatMap.mp member
  split at member
  · rename_i plain
    obtain rfl := List.mem_singleton.mp member
    exact .inl plain
  · obtain ⟨byte, -, member⟩ := List.mem_flatMap.mp member
    have bound := byte.toNat_lt
    simp only [percentByte, List.mem_cons, List.not_mem_nil, or_false] at member
    rcases member with rfl | rfl | rfl
    · exact .inr rfl
    · exact .inl (isUnreserved_upperHex (by omega))
    · exact .inl (isUnreserved_upperHex (by omega))

theorem not_mem_quote (reserved : isUnreserved mark = false) (sign : mark ≠ '%')
    (text : List Char) : mark ∉ quote text := by
  intro member
  rcases isUnreserved_of_mem_quote member with plain | same
  · rw [reserved] at plain
    cases plain
  · exact sign same

end Url

end CareerOS
