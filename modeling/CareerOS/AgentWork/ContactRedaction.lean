/-
This file is how evidence for an external agent loses its contacts: a scan that
replaces e-mail addresses, then a pattern that replaces phone numbers. It settles
for which texts no address is left and a second pass changes nothing. The scan
takes the whole run of domain characters after an `@` and gives up when the run
is no domain, so an address in front of something else is left as it is.
-/

import CareerOS.Library.Pattern
import CareerOS.Library.Pieces
import CareerOS.Library.Split

namespace CareerOS

/-! ### The scan for addresses -/

/-- `_EMAIL_LOCAL_CHARACTERS`. -/
def emailLocalCharacter (letter : Char) : Bool :=
  letter.isAlphanum || letter ∈ ['.', '_', '%', '+', '-']

/-- `_EMAIL_DOMAIN_CHARACTERS`. -/
def emailDomainCharacter (letter : Char) : Bool := letter.isAlphanum || letter ∈ ['.', '-']

/-- The check of one label of a domain. -/
def validEmailLabel (label : List Char) : Bool :=
  label ≠ [] && label.head? ≠ some '-' && label.getLast? ≠ some '-' &&
    label.all fun letter => letter.isAlphanum || letter == '-'

/-- `_valid_email_domain`. -/
def validEmailDomain (domain : List Char) : Bool :=
  let labels := domain.splitOn '.'
  let last := labels.getLastD []
  2 ≤ labels.length && 2 ≤ last.length && last.all Char.isAlpha && labels.all validEmailLabel

/-- The domain characters at the start of a text, without the dots at their end. -/
def domainRun (text : List Char) : List Char :=
  (text.takeWhile emailDomainCharacter).rdropWhile (· == '.')

/-- The scan of `_redact_emails`, after so many letters of the last address. What was read since
the cursor is held in reverse. -/
def emailPiecesFrom : Nat → List Char → List Char → List Piece
  | _, held, [] => [.kept held.reverse]
  | skip + 1, held, _ :: rest => emailPiecesFrom skip held rest
  | 0, held, letter :: rest =>
    if letter = '@' then
      let localPart := held.takeWhile emailLocalCharacter
      let domain := domainRun rest
      if localPart ≠ [] ∧ validEmailDomain domain = true then
        .kept (held.dropWhile emailLocalCharacter).reverse ::
          .replaced (localPart.reverse ++ '@' :: domain) ::
          emailPiecesFrom domain.length [] rest
      else emailPiecesFrom 0 (letter :: held) rest
    else emailPiecesFrom 0 (letter :: held) rest

/-- The pieces that `_redact_emails` joins. -/
def emailPieces (text : List Char) : List Piece := emailPiecesFrom 0 [] text

/-- `[REDACTED_EMAIL]`. -/
def emailMarker : List Char := "[REDACTED_EMAIL]".toList

/-- `_redact_emails`. -/
def redactEmails (text : List Char) : List Char := Piece.render emailMarker (emailPieces text)

/-! ### The pattern of phone numbers -/

/-- `[ .()/\-]`. -/
def isPhoneSeparator (letter : Char) : Bool := letter ∈ [' ', '.', '(', ')', '/', '-']

/-- `[ .-]`. -/
def isGroupSeparator (letter : Char) : Bool := letter ∈ [' ', '.', '-']

section

variable [WordTables]

open WordTables Pattern

/-- `\+\d{1,3}[ .()/\-]*(?:\d[ .()/\-]*){7,12}\d`. -/
def internationalNumber : Pattern :=
  .andThen (.one (· == '+')) <| .andThen (between 1 2 (.one isDecimal)) <|
    .andThen (.many isPhoneSeparator) <|
    .andThen (between 7 5 (.andThen (.one isDecimal) (.many isPhoneSeparator))) (.one isDecimal)

/-- `0(?:[ .()/\-]*\d){9}`. -/
def domesticNumber : Pattern :=
  .andThen (.one (· == '0')) (between 9 0 (.andThen (.many isPhoneSeparator) (.one isDecimal)))

/-- `\(\d{2,4}\)[ .-]*\d{3}[ .-]*\d{2,4}(?:[ .-]*\d{2,4})?`. -/
def bracketedNumber : Pattern :=
  .andThen (.one (· == '(')) <| .andThen (between 2 2 (.one isDecimal)) <|
    .andThen (.one (· == ')')) <| .andThen (.many isGroupSeparator) <|
    .andThen (between 3 0 (.one isDecimal)) <| .andThen (.many isGroupSeparator) <|
    .andThen (between 2 2 (.one isDecimal))
      (.upTo 1 (.andThen (.many isGroupSeparator) (between 2 2 (.one isDecimal))))

/-- The alternatives of `_PHONE_PATTERN`. -/
def phoneNumber : Pattern := .orElse internationalNumber (.orElse domesticNumber bracketedNumber)

/-- Does a text begin with a `\w`? -/
def startsWithWord : List Char → Bool
  | [] => false
  | letter :: _ => isWord letter

/-- What a match of `_PHONE_PATTERN` at the start of a text leaves of it. -/
def phoneMatch (text : List Char) : Option (List Char) :=
  (phoneNumber.run text).find? fun rest => !startsWithWord rest

/-- The matches that `_PHONE_PATTERN.sub` replaces, after so many letters of the last match and
after a letter that is or is not a `\w`. -/
def phonePiecesFrom : Nat → Bool → List Char → List Piece
  | _, _, [] => []
  | skip + 1, _, letter :: rest => phonePiecesFrom skip (isWord letter) rest
  | 0, afterWord, letter :: rest =>
    match if afterWord then none else phoneMatch (letter :: rest) with
    | some left =>
      let length := (letter :: rest).length - left.length
      .replaced ((letter :: rest).take length) ::
        phonePiecesFrom (length - 1) (isWord letter) rest
    | none => .kept [letter] :: phonePiecesFrom 0 (isWord letter) rest

/-- The pieces of a text around its phone numbers. -/
def phonePieces (text : List Char) : List Piece := phonePiecesFrom 0 false text

/-- `[REDACTED_PHONE]`. -/
def phoneMarker : List Char := "[REDACTED_PHONE]".toList

/-- `_PHONE_PATTERN.sub("[REDACTED_PHONE]", text)`. -/
def redactPhones (text : List Char) : List Char := Piece.render phoneMarker (phonePieces text)

/-- `redact_contacts`, on the letters of a text. -/
def redactLetters (text : List Char) : List Char := redactPhones (redactEmails text)

/-- `redact_contacts`. -/
def redactContacts (text : Option String) : String :=
  String.ofList (redactLetters (text.getD "").toList)

end

/-! ### Addresses -/

/-- Does a text end with a local character? -/
def endsLocal (text : List Char) : Bool := text.getLast?.any emailLocalCharacter

/-- An address stands around an `@`: a local character before it, a domain right after it. -/
def AddressAt (before after : List Char) : Prop :=
  endsLocal before = true ∧ ∃ domain, validEmailDomain domain = true ∧ domain <+: after

/-- A text holds an address: a local part, an `@` and a domain, whatever surrounds them. -/
def HasAddress (text : List Char) : Prop :=
  ∃ front localPart domain back, text = front ++ localPart ++ '@' :: domain ++ back ∧
    localPart ≠ [] ∧ (∀ letter ∈ localPart, emailLocalCharacter letter = true) ∧
    validEmailDomain domain = true

/-- A text ends with an address. -/
def FollowsAddress (before : List Char) : Prop :=
  ∃ front domain, before = front ++ '@' :: domain ∧ endsLocal front = true ∧
    validEmailDomain domain = true

/-- An address stands alone: its domain is the whole run of domain characters, less the dots at
its end, and it does not share its local part with the domain of another address. -/
def StandsAlone (before after : List Char) : Prop :=
  validEmailDomain (domainRun after) = true ∧ ¬FollowsAddress before

/-- Every address of a text stands alone. -/
def AddressesStandAlone (text : List Char) : Prop :=
  ∀ before after, text = before ++ '@' :: after → AddressAt before after → StandsAlone before after

/-- No `@` of a piece that is kept stands in an address of the text. -/
def ReplacedAfter (done : List Char) (pieces : List Piece) : Prop :=
  ∀ before left right after, pieces = before ++ .kept (left ++ '@' :: right) :: after →
    ¬AddressAt (done ++ Piece.sources before ++ left) (right ++ Piece.sources after)

/-- Every address of a text is replaced: the scan keeps no `@` of one. -/
def AddressesReplaced (text : List Char) : Prop := ReplacedAfter [] (emailPieces text)

theorem endsLocal_append_singleton (front : List Char) (letter : Char) :
    endsLocal (front ++ [letter]) = emailLocalCharacter letter := by
  unfold endsLocal
  rw [List.getLast?_append_cons, List.getLast?_singleton, Option.any_some]

variable {text : List Char}

/-- The last letter of a text that ends with a local character. -/
theorem exists_of_endsLocal (ends : endsLocal text = true) :
    ∃ front letter, text = front ++ [letter] ∧ emailLocalCharacter letter = true := by
  cases text using List.reverseRecOn with
  | nil => cases ends
  | append_singleton front letter =>
    rw [endsLocal_append_singleton] at ends
    exact ⟨front, letter, rfl, ends⟩

/-! ### Domains -/

/-- A list of labels ends as its last label does. -/
theorem exists_intercalate_last (separator : Char) {labels : List (List Char)}
    (last : labels.getLastD [] ≠ []) :
    ∃ front, [separator].intercalate labels = front ++ labels.getLastD [] := by
  induction labels with
  | nil => exact absurd rfl last
  | cons first labels inductionHypothesis =>
    cases labels with
    | nil => exact ⟨[], List.intercalate_singleton⟩
    | cons second labels =>
      obtain ⟨front, same⟩ := inductionHypothesis last
      refine ⟨first ++ [separator] ++ front, ?_⟩
      rw [List.intercalate_cons_cons, same, List.append_assoc _ front]
      rfl

variable {domain : List Char}

/-- What a valid domain is made of: domain characters, the last of them a letter. -/
theorem validEmailDomain_letters (valid : validEmailDomain domain = true) :
    (∀ letter ∈ domain, emailDomainCharacter letter = true) ∧
      ∃ front letter, domain = front ++ [letter] ∧ letter.isAlpha = true := by
  unfold validEmailDomain at valid
  simp only [Bool.and_eq_true, decide_eq_true_eq] at valid
  obtain ⟨⟨⟨-, long⟩, alpha⟩, labels⟩ := valid
  have joined : ['.'].intercalate (domain.splitOn '.') = domain := List.intercalate_splitOn '.'
  constructor
  · intro letter member
    rw [← joined] at member
    rcases mem_intercalate member with rfl | ⟨label, inside, here⟩
    · decide
    · have checked := List.all_eq_true.mp labels label inside
      unfold validEmailLabel at checked
      have plain := List.all_eq_true.mp ((Bool.and_eq_true _ _).mp checked).2 letter here
      unfold emailDomainCharacter
      rcases Bool.or_eq_true_iff.mp plain with alnum | dash
      · rw [alnum, Bool.true_or]
      · obtain rfl := beq_iff_eq.mp dash
        decide
  · have some : (domain.splitOn '.').getLastD [] ≠ [] := by
      intro none
      rw [none] at long
      exact absurd long (by decide)
    obtain ⟨front, same⟩ := exists_intercalate_last '.' some
    obtain ⟨init, last, ends⟩ := List.eq_nil_or_concat _ |>.resolve_left some
    rw [joined, ends, List.concat_eq_append, ← List.append_assoc] at same
    refine ⟨front ++ init, last, same, ?_⟩
    refine List.all_eq_true.mp alpha last ?_
    rw [ends, List.concat_eq_append]
    exact List.mem_append_right _ List.mem_cons_self

theorem at_not_mem_domain (valid : validEmailDomain domain = true) :
    '@' ∉ domain := by
  intro member
  have among := (validEmailDomain_letters valid).1 _ member
  revert among
  decide

/-- A domain in front of an `@` is the whole run. -/
theorem domainRun_append_at (valid : validEmailDomain domain = true)
    (rest : List Char) : domainRun (domain ++ '@' :: rest) = domain := by
  obtain ⟨among, front, letter, rfl, alpha⟩ := validEmailDomain_letters valid
  unfold domainRun
  rw [List.takeWhile_append_of_pos among, List.takeWhile_cons_of_neg (by decide), List.append_nil,
    List.rdropWhile_concat_neg]
  intro dot
  obtain rfl := beq_iff_eq.mp dot
  revert alpha
  decide

theorem domainRun_isPrefix (text : List Char) : domainRun text <+: text :=
  (List.rdropWhile_prefix _ _).trans (List.takeWhile_prefix _)

/-! ### What the scan replaces -/

theorem emailPiecesFrom_drop (skip : Nat) (held rest : List Char) :
    emailPiecesFrom skip held rest = emailPiecesFrom 0 held (rest.drop skip) := by
  induction rest generalizing skip with
  | nil => rw [List.drop_nil]; cases skip <;> rfl
  | cons letter rest inductionHypothesis =>
    cases skip with
    | zero => rfl
    | succ skip => exact inductionHypothesis skip

/-- Does the scan replace at this letter? -/
def ReplacesAt (held : List Char) (letter : Char) (rest : List Char) : Prop :=
  letter = '@' ∧ held.takeWhile emailLocalCharacter ≠ [] ∧
    validEmailDomain (domainRun rest) = true

variable {letter : Char}

theorem emailPiecesFrom_replaces {held rest : List Char} (replaces : ReplacesAt held letter rest) :
    emailPiecesFrom 0 held (letter :: rest) =
      .kept (held.dropWhile emailLocalCharacter).reverse ::
        .replaced ((held.takeWhile emailLocalCharacter).reverse ++ '@' :: domainRun rest) ::
        emailPiecesFrom 0 [] (rest.drop (domainRun rest).length) := by
  rw [← emailPiecesFrom_drop (domainRun rest).length [] rest]
  conv_lhs => unfold emailPiecesFrom
  rw [if_pos replaces.1]
  exact if_pos replaces.2

theorem emailPiecesFrom_holds {held rest : List Char} (holds : ¬ReplacesAt held letter rest) :
    emailPiecesFrom 0 held (letter :: rest) = emailPiecesFrom 0 (letter :: held) rest := by
  conv_lhs => unfold emailPiecesFrom
  split
  · rename_i address
    exact if_neg fun inside => holds ⟨address, inside⟩
  · rfl

theorem drop_domainRun (rest : List Char) :
    domainRun rest ++ rest.drop (domainRun rest).length = rest := by
  exact List.prefix_iff_eq_append.mp (domainRun_isPrefix rest)

theorem reverse_held (held : List Char) :
    held.reverse = (held.dropWhile emailLocalCharacter).reverse ++
      (held.takeWhile emailLocalCharacter).reverse := by
  rw [← List.reverse_append, List.takeWhile_append_dropWhile]

/-- The pieces are the text. -/
theorem sources_emailPiecesFrom (held rest : List Char) :
    Piece.sources (emailPiecesFrom 0 held rest) = held.reverse ++ rest := by
  induction size : rest.length using Nat.strongRecOn generalizing held rest with
  | ind size inductionHypothesis =>
    cases rest with
    | nil => rfl
    | cons letter rest =>
      by_cases replaces : ReplacesAt held letter rest
      · rw [emailPiecesFrom_replaces replaces]
        simp only [Piece.sources_cons, Piece.source]
        rw [inductionHypothesis _ (by rw [← size, List.length_drop, List.length_cons]; omega) _ _ rfl,
          List.reverse_nil, List.nil_append, List.append_assoc, List.cons_append, drop_domainRun,
          ← List.append_assoc, ← reverse_held, replaces.1]
      · rw [emailPiecesFrom_holds replaces, inductionHypothesis rest.length
          (by rw [← size, List.length_cons]; omega) _ _ rfl, List.reverse_cons, List.append_assoc]
        rfl

theorem replacedAfter_kept (done letters : List Char) (pieces : List Piece) :
    ReplacedAfter done (.kept letters :: pieces) ↔
      (∀ left right, letters = left ++ '@' :: right →
        ¬AddressAt (done ++ left) (right ++ Piece.sources pieces)) ∧
      ReplacedAfter (done ++ letters) pieces := by
  constructor
  · intro replaced
    constructor
    · intro left right same
      have here := replaced [] left right pieces (by rw [same]; rfl)
      rwa [Piece.sources_nil, List.append_nil] at here
    · intro before left right after same
      have here := replaced (.kept letters :: before) left right after (by rw [same]; rfl)
      rwa [Piece.sources_cons, ← List.append_assoc] at here
  · rintro ⟨head, tail⟩ before left right after same
    cases before with
    | nil =>
      obtain ⟨first, rfl⟩ := List.cons.inj same
      rw [Piece.sources_nil, List.append_nil]
      exact head left right (Piece.kept.inj first)
    | cons piece before =>
      obtain ⟨rfl, rest⟩ := List.cons.inj same
      rw [Piece.sources_cons, ← List.append_assoc]
      exact tail before left right after rest

theorem replacedAfter_replaced (done letters : List Char) (pieces : List Piece) :
    ReplacedAfter done (.replaced letters :: pieces) ↔ ReplacedAfter (done ++ letters) pieces := by
  constructor
  · intro replaced before left right after same
    have here := replaced (.replaced letters :: before) left right after (by rw [same]; rfl)
    rwa [Piece.sources_cons, ← List.append_assoc] at here
  · intro tail before left right after same
    cases before with
    | nil => cases same
    | cons piece before =>
      obtain ⟨rfl, rest⟩ := List.cons.inj same
      rw [Piece.sources_cons, ← List.append_assoc]
      exact tail before left right after rest

/-- Where an `@` is in a text whose end holds none. -/
theorem at_of_append {first second left right : List Char} (absent : '@' ∉ second)
    (same : first ++ second = left ++ '@' :: right) :
    ∃ middle, first = left ++ '@' :: middle ∧ right = middle ++ second := by
  rcases List.append_eq_append_iff.mp same with ⟨middle, rfl, inside⟩ | ⟨middle, rfl, inside⟩
  · refine absurd ?_ absent
    rw [inside]
    exact List.mem_append_right _ List.mem_cons_self
  · cases middle with
    | nil =>
      refine absurd ?_ absent
      rw [List.nil_append] at inside
      rw [← inside]
      exact List.mem_cons_self
    | cons letter middle =>
      obtain ⟨rfl, rfl⟩ := List.cons.inj inside
      exact ⟨middle, rfl, rfl⟩

/-- Where an `@` is in a text whose start holds none. -/
theorem at_of_prefix {first second left right : List Char} (absent : '@' ∉ first)
    (same : first ++ second = left ++ '@' :: right) :
    ∃ middle, left = first ++ middle ∧ second = middle ++ '@' :: right := by
  rcases List.append_eq_append_iff.mp same with ⟨middle, rfl, inside⟩ | ⟨middle, rfl, inside⟩
  · exact ⟨middle, rfl, inside⟩
  · cases middle with
    | nil => exact ⟨[], by rw [List.append_nil, List.append_nil], inside.symm⟩
    | cons letter middle =>
      obtain ⟨rfl, rfl⟩ := List.cons.inj inside
      exact absurd (List.mem_append_right _ List.mem_cons_self) absent

/-- What the scan has done when it holds some letters: it has read nothing else, or an address
whose domain was the whole run. -/
def Resumed (done held rest : List Char) : Prop :=
  done = [] ∨ ∃ front domain, done = front ++ '@' :: domain ∧ endsLocal front = true ∧
    validEmailDomain domain = true ∧ domainRun (domain ++ held.reverse ++ rest) = domain

/-- An address that shares its local part with the domain before it has no letters of its own. -/
theorem followsAddress_held {done held rest : List Char}
    (resumed : Resumed done held ('@' :: rest))
    (kept : ∀ left right, held.reverse = left ++ '@' :: right →
      ¬AddressAt (done ++ left) (right ++ '@' :: rest))
    (follows : FollowsAddress (done ++ held.reverse)) : held = [] := by
  obtain ⟨front, domain, same, ends, valid⟩ := follows
  rcases List.append_eq_append_iff.mp same with ⟨left, rfl, inside⟩ | ⟨middle, rfl, inside⟩
  · exact absurd ⟨ends, domain, valid, List.prefix_append _ _⟩ (kept left domain inside)
  · cases middle with
    | nil =>
      rw [List.append_nil] at resumed
      refine absurd ⟨?_, domain, valid, List.prefix_append _ _⟩ (kept [] domain inside.symm)
      rwa [List.append_nil, List.append_nil]
    | cons letter middle =>
      rw [List.cons_append] at inside
      obtain ⟨rfl, rfl⟩ := List.cons.inj inside
      rcases resumed with none | ⟨other, before, boundary, -, beforeValid, run⟩
      · exact absurd none (by simp)
      · have whole : (front ++ ['@']) ++ middle = other ++ '@' :: before := by
          rw [← boundary, List.append_assoc]
          rfl
        obtain ⟨between, startsWith, endsWith⟩ := at_of_append (fun member =>
          at_not_mem_domain valid (List.mem_append_left _ member)) whole
        have short : between = [] := by
          cases between using List.reverseRecOn with
          | nil => rfl
          | append_singleton between last =>
            have tail : front ++ ['@'] = (other ++ '@' :: between) ++ [last] := by
              rw [startsWith, List.append_assoc]
              rfl
            have last := (List.append_inj' tail rfl).2
            obtain ⟨rfl, -⟩ := List.cons.inj last
            refine absurd ?_ (at_not_mem_domain beforeValid)
            rw [endsWith]
            exact List.mem_append_left _ (List.mem_append_right _ List.mem_cons_self)
        rw [short, List.nil_append] at endsWith
        rw [endsWith, domainRun_append_at valid] at run
        have length := congrArg List.length run
        rw [List.length_append] at length
        refine List.reverse_eq_nil_iff.mp (List.length_eq_zero_iff.mp ?_)
        omega

theorem at_not_mem_domainRun (rest : List Char) : '@' ∉ domainRun rest := by
  intro member
  have among := List.mem_takeWhile_imp ((List.rdropWhile_prefix _ _).subset member)
  revert among
  decide

theorem at_not_mem_held (held : List Char) :
    '@' ∉ (held.takeWhile emailLocalCharacter).reverse := by
  intro member
  have among := List.mem_takeWhile_imp (List.mem_reverse.mp member)
  revert among
  decide

/-- A text that ends with the letters held ends with a local character when they have a local
part. -/
theorem endsLocal_of_localPart {held : List Char}
    (localPart : held.takeWhile emailLocalCharacter ≠ []) (done : List Char) :
    endsLocal (done ++ held.reverse) = true := by
  cases held with
  | nil => exact absurd rfl localPart
  | cons letter held =>
    rw [List.reverse_cons, ← List.append_assoc, endsLocal_append_singleton]
    by_contra other
    rw [List.takeWhile_cons_of_neg other] at localPart
    exact localPart rfl

/-- At an `@` that the scan keeps, no address stands alone. -/
theorem not_standsAlone_of_holds {done held rest : List Char}
    (resumed : Resumed done held ('@' :: rest)) (holds : ¬ReplacesAt held '@' rest)
    (address : AddressAt (done ++ held.reverse) rest) :
    ¬StandsAlone (done ++ held.reverse) rest := by
  rintro ⟨whole, alone⟩
  have none : held.takeWhile emailLocalCharacter = [] := by
    by_contra localPart
    exact holds ⟨rfl, localPart, whole⟩
  cases held with
  | cons letter held =>
    have ends := address.1
    rw [List.reverse_cons, ← List.append_assoc, endsLocal_append_singleton] at ends
    rw [List.takeWhile_cons_of_pos ends] at none
    cases none
  | nil =>
    rw [List.reverse_nil, List.append_nil] at address alone
    rcases resumed with rfl | ⟨front, domain, boundary, ends, valid, -⟩
    · exact absurd address.1 (by decide)
    · exact alone ⟨front, domain, boundary, ends, valid⟩

/-- The addresses of what is held and of what is to be read are replaced exactly when none of the
first was kept and the others stand alone. -/
theorem replacedAfter_iff (done held rest : List Char) (resumed : Resumed done held rest) :
    ReplacedAfter done (emailPiecesFrom 0 held rest) ↔
      (∀ left right, held.reverse = left ++ '@' :: right →
        ¬AddressAt (done ++ left) (right ++ rest)) ∧
      ∀ left right, rest = left ++ '@' :: right →
        AddressAt (done ++ held.reverse ++ left) right →
          StandsAlone (done ++ held.reverse ++ left) right := by
  induction size : rest.length using Nat.strongRecOn generalizing done held rest with
  | ind size inductionHypothesis =>
    cases rest with
    | nil =>
      have last : ReplacedAfter (done ++ held.reverse) [] := by
        intro before left right after same
        exact absurd same.symm (by simp)
      show ReplacedAfter done [.kept held.reverse] ↔ _
      rw [replacedAfter_kept]
      exact ⟨fun replaced => ⟨replaced.1, fun left right same => absurd same.symm (by simp)⟩,
        fun kept => ⟨kept.1, last⟩⟩
    | cons letter rest =>
      by_cases replaces : ReplacesAt held letter rest
      · -- The address of this `@` is cut out, with the letters held before it.
        obtain ⟨rfl, localPart, valid⟩ := id replaces
        have ends := endsLocal_of_localPart localPart done
        have next : Resumed (done ++ held.reverse ++ '@' :: domainRun rest) []
            (rest.drop (domainRun rest).length) :=
          .inr ⟨_, _, rfl, ends, valid, by
            rw [List.reverse_nil, List.append_nil, drop_domainRun]⟩
        have steps := inductionHypothesis _
          (by rw [← size, List.length_drop, List.length_cons]; omega) _ _ _ next rfl
        have context : done ++ (held.dropWhile emailLocalCharacter).reverse ++
            ((held.takeWhile emailLocalCharacter).reverse ++ '@' :: domainRun rest) =
            done ++ held.reverse ++ '@' :: domainRun rest := by
          conv_rhs => rw [reverse_held held]
          simp only [List.append_assoc]
        rw [emailPiecesFrom_replaces replaces, replacedAfter_kept, replacedAfter_replaced, context,
          steps]
        have held_iff : (∀ left right, (held.dropWhile emailLocalCharacter).reverse =
              left ++ '@' :: right → ¬AddressAt (done ++ left) (right ++ Piece.sources
                (.replaced ((held.takeWhile emailLocalCharacter).reverse ++ '@' :: domainRun rest) ::
                  emailPiecesFrom 0 [] (rest.drop (domainRun rest).length)))) ↔
            ∀ left right, held.reverse = left ++ '@' :: right →
              ¬AddressAt (done ++ left) (right ++ '@' :: rest) := by
          have text : Piece.sources (.replaced ((held.takeWhile emailLocalCharacter).reverse ++
                '@' :: domainRun rest) ::
                emailPiecesFrom 0 [] (rest.drop (domainRun rest).length)) =
              (held.takeWhile emailLocalCharacter).reverse ++ '@' :: rest := by
            rw [Piece.sources_cons, sources_emailPiecesFrom, Piece.source, List.append_assoc,
              List.reverse_nil, List.nil_append, List.cons_append, drop_domainRun]
          rw [text]
          constructor
          · intro kept left right same
            rw [reverse_held] at same
            obtain ⟨middle, here, rfl⟩ := at_of_append (at_not_mem_held held) same
            rw [List.append_assoc]
            exact kept left middle here
          · intro kept left right same
            rw [← List.append_assoc]
            refine kept left _ ?_
            rw [reverse_held, same, List.append_assoc]
            rfl
        rw [held_iff]
        constructor
        · rintro ⟨kept, -, later⟩
          refine ⟨kept, fun left right same address => ?_⟩
          cases left with
          | nil =>
            obtain ⟨-, rfl⟩ := List.cons.inj same
            rw [List.append_nil] at address ⊢
            refine ⟨valid, fun follows => localPart ?_⟩
            rw [followsAddress_held resumed kept follows]
            rfl
          | cons first left =>
            obtain ⟨rfl, inside⟩ := List.cons.inj same
            rw [← drop_domainRun rest] at inside
            obtain ⟨middle, rfl, back⟩ := at_of_prefix (at_not_mem_domainRun rest) inside
            have there := later middle right back
            simp only [List.reverse_nil, List.append_nil, List.append_assoc, List.cons_append]
              at there address ⊢
            exact there address
        · rintro ⟨kept, later⟩
          refine ⟨kept, fun left right same => absurd same.symm (by simp), fun left right same address => ?_⟩
          have there := later ('@' :: domainRun rest ++ left) right (by
            rw [List.append_assoc, List.cons_append, ← same, drop_domainRun])
          simp only [List.reverse_nil, List.append_nil, List.append_assoc, List.cons_append]
            at there address ⊢
          exact there address
      · -- The letter is held; an `@` that is held is kept for good.
        have text : (letter :: held).reverse ++ rest = held.reverse ++ letter :: rest := by
          rw [List.reverse_cons, List.append_assoc]
          rfl
        have next : Resumed done (letter :: held) rest := by
          unfold Resumed at resumed ⊢
          simp only [List.append_assoc] at resumed ⊢
          rwa [text]
        rw [emailPiecesFrom_holds replaces, inductionHypothesis rest.length
          (by rw [← size, List.length_cons]; omega) _ _ _ next rfl]
        have shift : ∀ left, done ++ (letter :: held).reverse ++ left =
            done ++ held.reverse ++ letter :: left := by
          intro left
          rw [List.reverse_cons]
          simp only [List.append_assoc, List.cons_append, List.nil_append]
        constructor
        · rintro ⟨kept, later⟩
          constructor
          · intro left right same
            have here := kept left (right ++ [letter]) (by
              rw [List.reverse_cons, same, List.append_assoc]
              rfl)
            rwa [List.append_assoc] at here
          · intro left right same address
            cases left with
            | nil =>
              obtain ⟨rfl, rfl⟩ := List.cons.inj same
              rw [List.append_nil] at address
              exact absurd address (kept held.reverse [] List.reverse_cons)
            | cons first left =>
              obtain ⟨rfl, inside⟩ := List.cons.inj same
              rw [← shift] at address ⊢
              exact later left right inside address
        · rintro ⟨kept, later⟩
          constructor
          · intro left right same
            rw [List.reverse_cons] at same
            cases right using List.reverseRecOn with
            | nil =>
              obtain ⟨rfl, last⟩ := List.append_inj' same rfl
              obtain ⟨rfl, -⟩ := List.cons.inj last
              intro address
              refine not_standsAlone_of_holds resumed replaces address ?_
              have there := later [] rest rfl
              rw [List.append_nil] at there
              exact there address
            | append_singleton right last =>
              rw [← List.cons_append, ← List.append_assoc] at same
              obtain ⟨here, same⟩ := List.append_inj' same rfl
              obtain ⟨rfl, -⟩ := List.cons.inj same
              rw [List.append_assoc]
              exact kept left right here
          · intro left right same address
            rw [shift] at address ⊢
            exact later (letter :: left) right (by rw [same]; rfl) address

/-- The scan replaces every address exactly when every address stands alone. -/
theorem addressesReplaced_iff (text : List Char) :
    AddressesReplaced text ↔ AddressesStandAlone text := by
  unfold AddressesReplaced emailPieces
  rw [replacedAfter_iff [] [] text (.inl rfl)]
  constructor
  · rintro ⟨-, later⟩ before after same address
    exact later before after same address
  · intro alone
    exact ⟨fun left right same => absurd same.symm (by simp), alone⟩

/-! ### No address is left -/

theorem bracketed_emailMarker : Piece.Bracketed emailMarker := ⟨"REDACTED_EMAIL".toList, by decide⟩

theorem bracketed_phoneMarker : Piece.Bracketed phoneMarker := ⟨"REDACTED_PHONE".toList, by decide⟩

/-- A text holds an address exactly when one stands around an `@`. -/
theorem hasAddress_iff (text : List Char) :
    HasAddress text ↔ ∃ before after, text = before ++ '@' :: after ∧ AddressAt before after := by
  constructor
  · rintro ⟨front, localPart, domain, back, rfl, some, among, valid⟩
    refine ⟨front ++ localPart, domain ++ back, ?_, ?_, domain, valid, List.prefix_append _ _⟩
    · simp only [List.append_assoc, List.cons_append]
    · cases localPart using List.reverseRecOn with
      | nil => exact absurd rfl some
      | append_singleton localPart letter =>
        rw [← List.append_assoc, endsLocal_append_singleton]
        exact among letter (List.mem_append_right _ List.mem_cons_self)
  · rintro ⟨before, after, rfl, ends, domain, valid, back, rfl⟩
    obtain ⟨front, letter, rfl, among⟩ := exists_of_endsLocal ends
    refine ⟨front, [letter], domain, back, ?_, List.cons_ne_nil _ _,
      List.forall_mem_singleton.mpr among, valid⟩
    simp only [List.append_assoc, List.cons_append]

theorem bare_of_domain (valid : validEmailDomain domain = true) :
    Piece.Bare domain := by
  have among := (validEmailDomain_letters valid).1
  constructor
  · intro member
    have bracket := among _ member
    revert bracket
    decide
  · intro member
    have bracket := among _ member
    revert bracket
    decide

variable {pieces : List Piece}

/-- An address of the printed text is one of the pieces that are kept. -/
theorem addressAt_of_render {marker : List Char} (bracketed : Piece.Bracketed marker)
    (absent : '@' ∉ marker) {before after : List Char}
    (printed : Piece.render marker pieces = before ++ '@' :: after)
    (address : AddressAt before after) :
    ∃ front left right back, pieces = front ++ .kept (left ++ '@' :: right) :: back ∧
      AddressAt (Piece.sources front ++ left) (right ++ Piece.sources back) := by
  obtain ⟨front, left, right, back, same, rfl, rfl⟩ := Piece.locate absent pieces printed
  obtain ⟨ends, domain, valid, starts⟩ := address
  refine ⟨front, left, right, back, same, ?_, domain, valid, ?_⟩
  · obtain ⟨first, letter, last, among⟩ := exists_of_endsLocal ends
    have bare : letter ≠ ']' := by
      rintro rfl
      revert among
      decide
    have printed : Piece.render marker (front ++ [.kept left]) = first ++ [letter] := by
      rw [← last, Piece.render_append, Piece.render_cons, Piece.render_nil, List.append_nil]
      rfl
    obtain ⟨first, source⟩ := Piece.last_of_render bracketed bare _ printed
    rw [Piece.sources_append, Piece.sources_cons, Piece.sources_nil, List.append_nil] at source
    show endsLocal (Piece.sources front ++ (Piece.kept left).source) = true
    rw [source, endsLocal_append_singleton]
    exact among
  · have lead := Piece.leading_of_prefix_render bracketed (bare_of_domain valid)
      (.kept right :: back) starts
    exact lead.trans (Piece.leading_prefix_sources (.kept right :: back))

/-- When the scan replaces every address, none is left. -/
theorem not_hasAddress_redactEmails (replaced : AddressesReplaced text) :
    ¬HasAddress (redactEmails text) := by
  intro left
  obtain ⟨before, after, printed, address⟩ := (hasAddress_iff _).mp left
  obtain ⟨front, left, right, back, same, inside⟩ := addressAt_of_render bracketed_emailMarker
    (by decide) printed address
  exact replaced front left right back same inside

/-- A text without addresses is left as it is. -/
theorem redactEmails_of_not_hasAddress (none : ¬HasAddress text) :
    redactEmails text = text := by
  have each : ∀ rest held, held.reverse ++ rest = text →
      emailPiecesFrom 0 held rest = [.kept text] := by
    intro rest
    induction rest with
    | nil =>
      intro held same
      rw [← same, List.append_nil]
      rfl
    | cons letter rest inductionHypothesis =>
      intro held same
      have holds : ¬ReplacesAt held letter rest := by
        rintro ⟨rfl, localPart, valid⟩
        refine none ((hasAddress_iff text).mpr ⟨held.reverse, rest, same.symm, ?_⟩)
        exact ⟨endsLocal_of_localPart localPart [], _, valid, domainRun_isPrefix rest⟩
      rw [emailPiecesFrom_holds holds]
      refine inductionHypothesis (letter :: held) ?_
      rw [← same, List.reverse_cons, List.append_assoc]
      rfl
  unfold redactEmails emailPieces
  rw [each text [] rfl]
  exact List.append_nil text

/-! ### Phone numbers -/

section

variable [WordTables]

open WordTables Pattern

/-- The letters of a phone number. -/
def isPhoneLetter (letter : Char) : Bool :=
  isDecimal letter || letter ∈ ['+', '0', '(', ')', ' ', '.', '/', '-']

/-- The letters that a phone number may begin with. -/
def isPhoneStart (letter : Char) : Bool := letter ∈ ['+', '0', '(']

theorem starts_phoneNumber : Starts isPhoneStart phoneNumber := by
  have literal : ∀ among : Char, isPhoneStart among = true → ∀ letter : Char,
      (letter == among) = true → isPhoneStart letter = true := by
    intro among inside letter same
    rw [beq_iff_eq.mp same]
    exact inside
  refine starts_orElse ?_ (starts_orElse ?_ ?_)
  · exact starts_one (literal '+' (by decide)) _
  · exact starts_one (literal '0' (by decide)) _
  · exact starts_one (literal '(' (by decide)) _

theorem ends_phoneNumber : Ends isDecimal phoneNumber := by
  refine ends_orElse ?_ (ends_orElse ?_ ?_)
  · exact ends_andThen _ (ends_andThen _ (ends_andThen _ (ends_andThen _ (ends_one _))))
  · exact ends_andThen _ (ends_between (ends_andThen _ (ends_one _)) 8 0)
  · refine ends_andThen _ (ends_andThen _ (ends_andThen _ (ends_andThen _ (ends_andThen _
      (ends_andThen _ (ends_optional (ends_between (ends_one _) 1 2) ?_))))))
    exact ends_upTo (ends_andThen _ (ends_between (ends_one _) 1 2)) 1

theorem within_phoneNumber : Within isPhoneLetter phoneNumber := by
  have listed : ∀ letter : Char, letter ∈ ['+', '0', '(', ')', ' ', '.', '/', '-'] →
      isPhoneLetter letter = true := by
    intro letter member
    unfold isPhoneLetter
    rw [decide_eq_true member, Bool.or_true]
  have literal : ∀ among ∈ ['+', '0', '(', ')', ' ', '.', '/', '-'],
      Within isPhoneLetter (.one (· == among)) := by
    intro among member letter same
    rw [beq_iff_eq.mp same]
    exact listed among member
  have digit : Within isPhoneLetter (.one isDecimal) := by
    intro letter digit
    unfold isPhoneLetter
    rw [digit, Bool.true_or]
  have separators : Within isPhoneLetter (.many isPhoneSeparator) := by
    intro letter separator
    refine listed letter ?_
    have among := of_decide_eq_true separator
    simp only [List.mem_cons, List.not_mem_nil, or_false] at among ⊢
    tauto
  have groups : Within isPhoneLetter (.many isGroupSeparator) := by
    intro letter separator
    refine listed letter ?_
    have among := of_decide_eq_true separator
    simp only [List.mem_cons, List.not_mem_nil, or_false] at among ⊢
    tauto
  have before : Within isPhoneLetter (.andThen (.one isDecimal) (.many isPhoneSeparator)) :=
    ⟨digit, separators⟩
  have after : Within isPhoneLetter (.andThen (.many isPhoneSeparator) (.one isDecimal)) :=
    ⟨separators, digit⟩
  refine ⟨?_, ?_, ?_⟩
  · exact ⟨literal '+' (by decide), within_between digit 1 2, separators,
      within_between before 7 5, digit⟩
  · exact ⟨literal '0' (by decide), within_between after 9 0⟩
  · exact ⟨literal '(' (by decide), within_between digit 2 2, literal ')' (by decide), groups,
      within_between digit 3 0, groups, within_between digit 2 2, groups, within_between digit 2 2⟩

/-- A phone number has no brackets of a marker. -/
theorem bare_of_phoneNumber {word : List Char} (matched : Matches phoneNumber word) :
    Piece.Bare word := by
  have among := letters_of_within matched within_phoneNumber
  have bracket : ∀ letter : Char, letter = '[' ∨ letter = ']' → isPhoneLetter letter = false := by
    intro letter same
    unfold isPhoneLetter
    rcases same with rfl | rfl
    · rw [isDecimal_ascii '[' (by decide)]
      decide
    · rw [isDecimal_ascii ']' (by decide)]
      decide
  constructor
  · intro member
    exact absurd (among _ member) (by rw [bracket _ (.inl rfl)]; exact Bool.false_ne_true)
  · intro member
    exact absurd (among _ member) (by rw [bracket _ (.inr rfl)]; exact Bool.false_ne_true)

/-- No match begins a text exactly when every phone number it begins with runs on into a word. -/
theorem phoneMatch_eq_none_iff (text : List Char) :
    phoneMatch text = none ↔ ∀ word rest, text = word ++ rest → Matches phoneNumber word →
      startsWithWord rest = true := by
  unfold phoneMatch
  rw [List.find?_eq_none]
  constructor
  · intro none word rest same matched
    have refused := none rest ((mem_run_iff _ _ _).mpr ⟨word, same, matched⟩)
    simpa using refused
  · intro each rest member
    obtain ⟨word, same, matched⟩ := (mem_run_iff _ _ _).mp member
    rw [each word rest same matched]
    decide

/-- A match is a phone number that does not run on into a word. -/
theorem of_phoneMatch {text left : List Char} (found : phoneMatch text = some left) :
    ∃ word, text = word ++ left ∧ Matches phoneNumber word ∧ startsWithWord left = false := by
  unfold phoneMatch at found
  have accepted := List.find?_some found
  obtain ⟨word, same, matched⟩ := (mem_run_iff _ _ _).mp (List.mem_of_find?_eq_some found)
  exact ⟨word, same, matched, by simpa using accepted⟩

/-- Nothing begins with a phone number that does not begin like one. -/
theorem phoneMatch_of_not_start (other : isPhoneStart letter = false)
    (rest : List Char) : phoneMatch (letter :: rest) = none := by
  rw [phoneMatch_eq_none_iff]
  intro word back same matched
  obtain ⟨first, inside, rfl, start⟩ := starts_phoneNumber word matched
  obtain ⟨rfl, -⟩ := List.cons.inj same
  rw [other] at start
  cases start

theorem phoneMatch_nil : phoneMatch [] = none := by
  rw [phoneMatch_eq_none_iff]
  intro word back same matched
  obtain ⟨first, inside, rfl, -⟩ := starts_phoneNumber word matched
  cases same

/-- Is the last letter a `\w`, after a letter that is or is not one? -/
def endsWithWord (afterWord : Bool) (letters : List Char) : Bool :=
  letters.foldl (fun _ letter => isWord letter) afterWord

theorem endsWithWord_number {word : List Char} (matched : Matches phoneNumber word)
    (afterWord : Bool) (letters : List Char) : endsWithWord afterWord (letters ++ word) = true := by
  obtain ⟨front, last, rfl, digit⟩ := ends_phoneNumber word matched
  unfold endsWithWord
  rw [← List.append_assoc, List.foldl_append]
  exact isWord_of_isDecimal last digit

/-! ### What the pattern replaces -/

/-- How the pattern cuts a text: no match begins at a letter that is kept, unless it is after a
word; a match is a phone number between two letters that are no part of a word. -/
inductive PhoneCut : Bool → List Piece → Prop
  | done {afterWord : Bool} : PhoneCut afterWord []
  | kept {afterWord : Bool} {letter : Char} {pieces : List Piece}
      (none : afterWord = false → phoneMatch (letter :: Piece.sources pieces) = none)
      (rest : PhoneCut (isWord letter) pieces) : PhoneCut afterWord (.kept [letter] :: pieces)
  | replaced {word : List Char} {pieces : List Piece} (matched : Matches phoneNumber word)
      (ends : startsWithWord (Piece.sources pieces) = false) (rest : PhoneCut true pieces) :
      PhoneCut false (.replaced word :: pieces)

theorem phonePiecesFrom_drop (letters rest : List Char) (afterWord : Bool) :
    phonePiecesFrom letters.length afterWord (letters ++ rest) =
      phonePiecesFrom 0 (endsWithWord afterWord letters) rest := by
  induction letters generalizing afterWord with
  | nil => rfl
  | cons letter letters inductionHypothesis => exact inductionHypothesis (isWord letter)

theorem phonePiecesFrom_match {rest left : List Char}
    (found : phoneMatch (letter :: rest) = some left) :
    ∃ word, letter :: rest = word ++ left ∧ Matches phoneNumber word ∧
      startsWithWord left = false ∧
      phonePiecesFrom 0 false (letter :: rest) = .replaced word :: phonePiecesFrom 0 true left := by
  obtain ⟨word, same, matched, ends⟩ := of_phoneMatch found
  refine ⟨word, same, matched, ends, ?_⟩
  have length : (letter :: rest).length - left.length = word.length := by
    rw [same, List.length_append]
    omega
  have whole : (letter :: rest).take word.length = word := by
    rw [same]
    exact List.take_left
  conv_lhs => unfold phonePiecesFrom
  simp only [Bool.false_eq_true, if_false, found, length, whole]
  congr 1
  cases word with
  | nil =>
    obtain ⟨first, inside, empty, -⟩ := starts_phoneNumber _ matched
    cases empty
  | cons first word =>
    obtain ⟨rfl, rfl⟩ := List.cons.inj same
    show phonePiecesFrom word.length (isWord letter) (word ++ left) = _
    rw [phonePiecesFrom_drop]
    exact congrArg (phonePiecesFrom 0 · left) (endsWithWord_number matched false [])

theorem phonePiecesFrom_keeps {rest : List Char} {afterWord : Bool}
    (none : afterWord = false → phoneMatch (letter :: rest) = none) :
    phonePiecesFrom 0 afterWord (letter :: rest) =
      .kept [letter] :: phonePiecesFrom 0 (isWord letter) rest := by
  conv_lhs => unfold phonePiecesFrom
  cases afterWord with
  | true => rfl
  | false =>
    simp only [Bool.false_eq_true, if_false]
    rw [none rfl]

/-- The pieces are the text, cut by the pattern. -/
theorem phoneCut_phonePiecesFrom (afterWord : Bool) (text : List Char) :
    Piece.sources (phonePiecesFrom 0 afterWord text) = text ∧
      PhoneCut afterWord (phonePiecesFrom 0 afterWord text) := by
  induction size : text.length using Nat.strongRecOn generalizing afterWord text with
  | ind size inductionHypothesis =>
    cases text with
    | nil => exact ⟨rfl, .done⟩
    | cons letter rest =>
      have keeps : (afterWord = false → phoneMatch (letter :: rest) = none) →
          Piece.sources (phonePiecesFrom 0 afterWord (letter :: rest)) = letter :: rest ∧
            PhoneCut afterWord (phonePiecesFrom 0 afterWord (letter :: rest)) := by
        intro none
        obtain ⟨sources, cut⟩ := inductionHypothesis rest.length
          (by rw [← size, List.length_cons]; omega) (isWord letter) rest rfl
        rw [phonePiecesFrom_keeps none]
        refine ⟨?_, .kept ?_ cut⟩
        · rw [Piece.sources_cons, sources]
          rfl
        · rw [sources]
          exact none
      cases afterWord with
      | true => exact keeps nofun
      | false =>
        cases found : phoneMatch (letter :: rest) with
        | none => exact keeps fun _ => found
        | some left =>
          obtain ⟨word, same, matched, ends, cut⟩ := phonePiecesFrom_match found
          have short : left.length < (letter :: rest).length := by
            obtain ⟨first, inside, rfl, -⟩ := starts_phoneNumber word matched
            rw [same, List.length_append, List.length_cons]
            omega
          obtain ⟨sources, rest⟩ := inductionHypothesis _ (size ▸ short) true left rfl
          rw [cut, same]
          refine ⟨?_, .replaced matched ?_ rest⟩
          · rw [Piece.sources_cons, sources]
            rfl
          · rw [sources]
            exact ends

/-! ### A second pass over the numbers -/

/-- No match begins at a letter of a text, after a letter that is or is not a `\w`. -/
def Quiet : Bool → List Char → Prop
  | _, [] => True
  | afterWord, letter :: rest =>
    (afterWord = false → phoneMatch (letter :: rest) = none) ∧ Quiet (isWord letter) rest

/-- The pattern changes nothing exactly when it has no match. -/
theorem render_phonePiecesFrom_iff (afterWord : Bool) (text : List Char) :
    Piece.render phoneMarker (phonePiecesFrom 0 afterWord text) = text ↔ Quiet afterWord text := by
  induction text generalizing afterWord with
  | nil => exact ⟨fun _ => trivial, fun _ => rfl⟩
  | cons letter rest inductionHypothesis =>
    by_cases none : afterWord = false → phoneMatch (letter :: rest) = none
    · rw [phonePiecesFrom_keeps none, Piece.render_cons]
      show letter :: Piece.render phoneMarker (phonePiecesFrom 0 (isWord letter) rest) = _ ↔ _
      rw [List.cons.injEq, inductionHypothesis]
      exact ⟨fun quiet => ⟨none, quiet.2⟩, fun quiet => ⟨rfl, quiet.2⟩⟩
    · refine ⟨fun printed => ?_, fun quiet => absurd quiet.1 none⟩
      obtain ⟨rfl, some⟩ := Classical.not_imp.mp none
      obtain ⟨left, found⟩ := Option.ne_none_iff_exists'.mp some
      obtain ⟨word, same, matched, -, cut⟩ := phonePiecesFrom_match found
      obtain ⟨first, inside, rfl, start⟩ := starts_phoneNumber word matched
      obtain ⟨rfl, -⟩ := List.cons.inj same
      rw [cut] at printed
      have bracket : '[' = letter := (List.cons.inj printed).1
      rw [← bracket] at start
      exact absurd start (by decide)

/-- The text between two phone numbers, or after the last, does not begin with a phone number. -/
def NumbersApart (pieces : List Piece) : Prop :=
  ∀ before number after, pieces = before ++ .replaced number :: after →
    phoneMatch (Piece.leading after) = none

/-- The phone numbers of a text stand alone. -/
def NumbersStandAlone (text : List Char) : Prop := NumbersApart (phonePieces text)

theorem numbersApart_kept (letters : List Char) (pieces : List Piece) :
    NumbersApart (.kept letters :: pieces) ↔ NumbersApart pieces := by
  constructor
  · intro apart before number after same
    exact apart (.kept letters :: before) number after (by rw [same]; rfl)
  · intro apart before number after same
    cases before with
    | nil => cases same
    | cons piece before => exact apart before number after (List.cons.inj same).2

theorem numbersApart_replaced (letters : List Char) (pieces : List Piece) :
    NumbersApart (.replaced letters :: pieces) ↔
      phoneMatch (Piece.leading pieces) = none ∧ NumbersApart pieces := by
  constructor
  · intro apart
    refine ⟨apart [] letters pieces rfl, fun before number after same => ?_⟩
    exact apart (.replaced letters :: before) number after (by rw [same]; rfl)
  · rintro ⟨here, apart⟩ before number after same
    cases before with
    | nil =>
      obtain ⟨-, rfl⟩ := List.cons.inj same
      exact here
    | cons piece before => exact apart before number after (List.cons.inj same).2

/-- A kept text that ends with a word is not followed by a phone number. -/
theorem sources_of_endsWithWord {afterWord : Bool} (cut : PhoneCut afterWord pieces)
    (ends : endsWithWord afterWord (Piece.leading pieces) = true) :
    Piece.sources pieces = Piece.leading pieces := by
  induction cut with
  | done => rfl
  | kept none rest inductionHypothesis =>
    rw [Piece.sources_cons, inductionHypothesis ends]
    rfl
  | replaced matched runs rest inductionHypothesis => cases ends

theorem startsWithWord_bracket {rest : List Char} (marker : rest = [] ∨ ∃ after, rest = '[' :: after) :
    startsWithWord rest = false := by
  rcases marker with rfl | ⟨after, rfl⟩
  · rfl
  · exact (isWord_ascii '[' (by decide)).trans (by decide)

/-- A number that the printed text begins with is one that its kept text begins with. -/
theorem leading_of_number {word rest : List Char} (matched : Matches phoneNumber word)
    (printed : Piece.render phoneMarker pieces = word ++ rest) :
    ∃ middle back, Piece.leading pieces = word ++ middle ∧ rest = middle ++ back ∧
      (back = [] ∨ ∃ after, back = '[' :: after) := by
  obtain ⟨middle, leading⟩ := Piece.leading_of_prefix_render bracketed_phoneMarker
    (bare_of_phoneNumber matched) pieces ⟨rest, printed.symm⟩
  obtain ⟨back, whole, marker⟩ := Piece.render_eq_leading bracketed_phoneMarker pieces
  refine ⟨middle, back, leading.symm, ?_, marker⟩
  rw [printed, ← leading, List.append_assoc] at whole
  exact List.append_cancel_left whole

/-- No match begins the printed text exactly when none begins its kept text. -/
theorem phoneMatch_render_iff (pieces : List Piece) :
    phoneMatch (Piece.render phoneMarker pieces) = none ↔
      phoneMatch (Piece.leading pieces) = none := by
  rw [phoneMatch_eq_none_iff, phoneMatch_eq_none_iff]
  constructor
  · intro printed word middle leading matched
    obtain ⟨back, whole, marker⟩ := Piece.render_eq_leading bracketed_phoneMarker pieces
    have runs := printed word (middle ++ back) (by rw [whole, leading, List.append_assoc]) matched
    cases middle with
    | nil =>
      rw [List.nil_append, startsWithWord_bracket marker] at runs
      cases runs
    | cons letter middle => exact runs
  · intro leading word rest printed matched
    obtain ⟨middle, back, same, rfl, marker⟩ := leading_of_number matched printed
    have runs := leading word middle same matched
    cases middle with
    | nil => cases runs
    | cons letter middle => exact runs

/-- Printing a marker for a later number adds no match at a letter that was kept. -/
theorem phoneMatch_kept (cut : PhoneCut (isWord letter) pieces)
    (unmatched : phoneMatch (letter :: Piece.sources pieces) = none) :
    phoneMatch (letter :: Piece.render phoneMarker pieces) = none := by
  rw [phoneMatch_eq_none_iff] at unmatched ⊢
  intro word rest printed matched
  have whole : Piece.render phoneMarker (.kept [letter] :: pieces) = word ++ rest := printed
  obtain ⟨middle, back, same, rfl, marker⟩ := leading_of_number matched whole
  have leading : letter :: Piece.leading pieces = word ++ middle := same
  obtain ⟨tail, sources⟩ := Piece.leading_prefix_sources pieces
  have runs := unmatched word (middle ++ tail)
    (by rw [← sources, ← List.append_assoc, ← leading]; rfl) matched
  cases middle with
  | cons first middle => exact runs
  | nil =>
    rw [List.append_nil] at leading
    have ends : endsWithWord (isWord letter) (Piece.leading pieces) = true := by
      have number := endsWithWord_number matched false []
      rw [List.nil_append, ← leading] at number
      exact number
    have last := sources_of_endsWithWord cut ends
    rw [← sources, List.append_right_eq_self] at last
    rw [last] at runs
    cases runs

theorem quiet_marker (letters rest : List Char) (others : ∀ letter ∈ letters,
    isPhoneStart letter = false) (afterWord : Bool) :
    Quiet afterWord (letters ++ rest) ↔ Quiet (endsWithWord afterWord letters) rest := by
  induction letters generalizing afterWord with
  | nil => exact Iff.rfl
  | cons letter letters inductionHypothesis =>
    obtain ⟨here, later⟩ := List.forall_mem_cons.mp others
    show _ ∧ Quiet (isWord letter) (letters ++ rest) ↔ _
    rw [inductionHypothesis later]
    exact ⟨fun quiet => quiet.2, fun quiet => ⟨fun _ => phoneMatch_of_not_start here _, quiet⟩⟩

theorem quiet_false_iff (text : List Char) :
    Quiet false text ↔ phoneMatch text = none ∧ Quiet true text := by
  cases text with
  | nil => exact ⟨fun _ => ⟨phoneMatch_nil, trivial⟩, fun _ => trivial⟩
  | cons letter rest =>
    exact ⟨fun quiet => ⟨quiet.1 rfl, nofun, quiet.2⟩, fun quiet => ⟨fun _ => quiet.1, quiet.2.2⟩⟩

/-- A second pass has no match exactly when the phone numbers were apart. -/
theorem quiet_render_iff {afterWord : Bool} (cut : PhoneCut afterWord pieces) :
    Quiet afterWord (Piece.render phoneMarker pieces) ↔ NumbersApart pieces := by
  induction cut with
  | done => exact ⟨fun _ before number after same => absurd same.symm (by simp), fun _ => trivial⟩
  | kept none rest inductionHypothesis =>
    rw [numbersApart_kept, ← inductionHypothesis]
    exact ⟨fun quiet => quiet.2, fun quiet => ⟨fun plain => phoneMatch_kept rest (none plain), quiet⟩⟩
  | @replaced word pieces matched runs rest inductionHypothesis =>
    rw [numbersApart_replaced, ← inductionHypothesis, ← phoneMatch_render_iff, ← quiet_false_iff]
    have closes : endsWithWord false phoneMarker = false :=
      (isWord_ascii ']' (by decide)).trans (by decide)
    have marker : phoneMarker.all (fun letter => !isPhoneStart letter) = true := by decide
    have others : ∀ letter ∈ phoneMarker, isPhoneStart letter = false := fun letter member =>
      (Bool.not_eq_true' _).mp (List.all_eq_true.mp marker letter member)
    show Quiet false (phoneMarker ++ Piece.render phoneMarker pieces) ↔ _
    rw [quiet_marker phoneMarker _ others, closes]

/-- A second pass changes nothing exactly when the phone numbers stand alone. -/
theorem redactPhones_redactPhones_iff (text : List Char) :
    redactPhones (redactPhones text) = redactPhones text ↔ NumbersStandAlone text := by
  unfold redactPhones NumbersStandAlone phonePieces
  rw [render_phonePiecesFrom_iff, quiet_render_iff (phoneCut_phonePiecesFrom false text).2]

/-- The pattern leaves no address where there was none. -/
theorem not_hasAddress_redactPhones (none : ¬HasAddress text) :
    ¬HasAddress (redactPhones text) := by
  intro left
  obtain ⟨before, after, printed, address⟩ := (hasAddress_iff _).mp left
  obtain ⟨front, left, right, back, same, inside⟩ := addressAt_of_render bracketed_phoneMarker
    (by decide) printed address
  refine none ((hasAddress_iff text).mpr ⟨_, _, ?_, inside⟩)
  have sources := (phoneCut_phonePiecesFrom false text).1
  rw [← sources, show phonePiecesFrom 0 false text = _ from same]
  simp only [Piece.sources_append, Piece.sources_cons, Piece.source, List.append_assoc,
    List.cons_append]

/-! ### The whole redaction -/

/-- Every address of a text is replaced, no address is left and a second pass changes nothing,
exactly when every address stands alone and, once the addresses are replaced, so does every phone
number. -/
theorem contacts_redacted (text : Option String) :
    let letters := (text.getD "").toList
    (¬HasAddress (redactContacts text).toList ∧ AddressesReplaced letters ∧
        redactContacts (some (redactContacts text)) = redactContacts text) ↔
      AddressesStandAlone letters ∧ NumbersStandAlone (redactEmails letters) := by
  intro letters
  have printed : (redactContacts text).toList = redactLetters letters := String.toList_ofList
  have again : redactContacts (some (redactContacts text)) = redactContacts text ↔
      redactLetters (redactLetters letters) = redactLetters letters := by
    rw [← String.toList_inj, printed]
    unfold redactContacts
    rw [String.toList_ofList, Option.getD_some, String.toList_ofList]
  have second : ¬HasAddress (redactLetters letters) →
      (redactLetters (redactLetters letters) = redactLetters letters ↔
        NumbersStandAlone (redactEmails letters)) := by
    intro none
    rw [← redactPhones_redactPhones_iff]
    show redactPhones (redactEmails (redactLetters letters)) = redactLetters letters ↔ _
    rw [redactEmails_of_not_hasAddress none]
    rfl
  rw [again, printed]
  constructor
  · rintro ⟨none, replaced, same⟩
    exact ⟨(addressesReplaced_iff letters).mp replaced, (second none).mp same⟩
  · rintro ⟨alone, apart⟩
    have replaced := (addressesReplaced_iff letters).mpr alone
    have none : ¬HasAddress (redactLetters letters) :=
      not_hasAddress_redactPhones (not_hasAddress_redactEmails replaced)
    exact ⟨none, replaced, (second none).mpr apart⟩

end

section

attribute [local instance] WordTables.ascii

/-- The address of a text that goes on after it with a dash is left. -/
theorem contacts_not_redacted :
    HasAddress (redactContacts (some "anna@example.ch-")).toList ∧
      redactContacts (some "anna@example.ch-") = "anna@example.ch-" := by
  have same : redactContacts (some "anna@example.ch-") = "anna@example.ch-" := by
    decide
  refine ⟨?_, same⟩
  rw [same]
  exact ⟨[], "anna".toList, "example.ch".toList, ['-'], by decide, by decide,
    List.all_eq_true.mp (by decide), by decide⟩

end

end CareerOS
