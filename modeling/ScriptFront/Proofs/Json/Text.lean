import ScriptFront.Json
import ScriptFront.Proofs.Token.Lexeme

/-!
# Documents from JSON text

The compact text of a JSON document tells the document. It is read from the front: the
first character tells the shape of a document. A string goes on to the quote that closes it,
a numeral to the first character that no numeral has, and items and members to the bracket
that closes them.
-/

namespace ScriptFront

namespace Json

open Lexeme

/-- The characters with an escape of two characters, each with the second one. -/
def shortEscapes : List (Char × Char) :=
  [('"', '"'), ('\\', '\\'), ('\x08', 'b'), ('\x0c', 'f'), ('\n', 'n'), ('\r', 'r'), ('\t', 't')]

/-- How a character stands inside a string: as it is, with a short escape, or by its number if
it is a control. -/
inductive Escaped : Char → List Char → Prop where
  | plain {character : Char} (noQuote : character ≠ '"') (noBackslash : character ≠ '\\') :
      Escaped character [character]
  | short {character mark : Char} (known : (character, mark) ∈ shortEscapes) :
      Escaped character ['\\', mark]
  | numbered {character : Char} (control : character.toNat < 0x20) :
      Escaped character ['\\', 'u', '0', '0', Nat.digitChar (character.toNat / 16),
        Nat.digitChar (character.toNat % 16)]

theorem escaped_escapedCharacter (character : Char) :
    Escaped character (escapedCharacter character) := by
  unfold escapedCharacter
  split
  case h_8 noQuote noBackslash _ _ _ _ _ =>
    split
    · next control => exact .numbered control
    · exact .plain noQuote noBackslash
  all_goals exact .short (by decide)

/-- What is escaped may stand between quotes. -/
theorem Escaped.content_append {character : Char} {text rest : List Char}
    (escaped : Escaped character text) (following : Content rest) : Content (text ++ rest) := by
  have plainDigit : ∀ digit < 16, Nat.digitChar digit ≠ '"' ∧ Nat.digitChar digit ≠ '\\' := by
    decide
  have sameLine : ∀ known ∈ shortEscapes, known.2 ≠ '\n' := by decide
  cases escaped with
  | plain noQuote noBackslash => exact .plain noQuote noBackslash following
  | short known => exact .escape (sameLine _ known) following
  | numbered control =>
      have first := plainDigit (character.toNat / 16) (by omega)
      have second := plainDigit (character.toNat % 16) (by omega)
      exact .escape (by decide) (.plain (by decide) (by decide) (.plain (by decide) (by decide)
        (.plain first.1 first.2 (.plain second.1 second.2 following))))

/-- An escaped character ends at one place only. -/
theorem Escaped.append_inj {left right : Char} {text other rest others : List Char}
    (escaped : Escaped left text) (otherEscaped : Escaped right other)
    (same : text ++ rest = other ++ others) : left = right ∧ rest = others := by
  cases escaped with
  | plain noQuote noBackslash =>
      cases otherEscaped with
      | plain _ _ => exact List.cons.inj same
      | short _ => exact absurd (List.cons.inj same).1 noBackslash
      | numbered _ => exact absurd (List.cons.inj same).1 noBackslash
  | short known =>
      have marked : ∀ known ∈ shortEscapes, known.2 ≠ 'u' := by decide
      have told : ∀ known ∈ shortEscapes, ∀ other ∈ shortEscapes, known.2 = other.2 →
          known = other := by decide
      cases otherEscaped with
      | plain _ noBackslash => exact absurd (List.cons.inj same).1.symm noBackslash
      | short otherKnown =>
          obtain ⟨marks, tails⟩ := List.cons.inj (List.cons.inj same).2
          exact ⟨congrArg Prod.fst (told _ known _ otherKnown marks), tails⟩
      | numbered _ => exact absurd (List.cons.inj (List.cons.inj same).2).1 (marked _ known)
  | numbered control =>
      have marked : ∀ known ∈ shortEscapes, known.2 ≠ 'u' := by decide
      have told : ∀ digit < 16, ∀ other < 16, Nat.digitChar digit = Nat.digitChar other →
          digit = other := by decide
      cases otherEscaped with
      | plain _ noBackslash => exact absurd (List.cons.inj same).1.symm noBackslash
      | short otherKnown =>
          exact absurd (List.cons.inj (List.cons.inj same).2).1.symm (marked _ otherKnown)
      | numbered otherControl =>
          simp only [List.cons_append, List.nil_append, List.cons.injEq, true_and] at same
          obtain ⟨first, second, tails⟩ := same
          have sixteens := told _ (by omega) _ (by omega) first
          have units := told _ (by omega) _ (by omega) second
          exact ⟨Char.toNat_inj.mp (by omega), tails⟩

/-- The escaped characters of a text may stand between quotes. -/
theorem content_escaped (text : List Char) : Content (text.flatMap escapedCharacter) := by
  induction text with
  | nil => exact .empty
  | cons character rest inductionHypothesis =>
      exact (escaped_escapedCharacter character).content_append inductionHypothesis

/-- The escaped characters of a text tell the text. -/
theorem flatMap_escapedCharacter_injective :
    Function.Injective fun text : List Char => text.flatMap escapedCharacter := by
  have filled : ∀ character rest, (character :: rest).flatMap escapedCharacter ≠ [] := by
    intro character rest empty
    have escaped := escaped_escapedCharacter character
    rw [(List.append_eq_nil_iff.mp empty).1] at escaped
    cases escaped
  intro left
  induction left with
  | nil =>
      intro right same
      cases right with
      | nil => rfl
      | cons character rest => exact absurd same.symm (filled character rest)
  | cons character rest inductionHypothesis =>
      intro right same
      cases right with
      | nil => exact absurd same (filled character rest)
      | cons other others =>
          obtain ⟨rfl, tails⟩ := (escaped_escapedCharacter character).append_inj
            (escaped_escapedCharacter other) same
          rw [inductionHypothesis tails]

/-- A string as characters. -/
theorem toList_stringText (text : String) (rest : List Char) :
    (stringText text).toList ++ rest =
      '"' :: (text.toList.flatMap escapedCharacter ++ '"' :: rest) := by
  simp [stringText]

/-- A string ends at one place only. -/
theorem stringText_append_inj {left right : String} {rest others : List Char}
    (same : (stringText left).toList ++ rest = (stringText right).toList ++ others) :
    left = right ∧ rest = others := by
  rw [toList_stringText, toList_stringText] at same
  have closed := closing?_content (content_escaped left.toList) rest
  rw [(List.cons.inj same).2, closing?_content (content_escaped right.toList)] at closed
  obtain ⟨contents, tails⟩ := Prod.mk.inj (Option.some.inj closed)
  have texts := flatMap_escapedCharacter_injective (List.append_cancel_right contents)
  exact ⟨(String.toList_inj.mp texts).symm, tails.symm⟩

/-- The characters that numerals have. -/
def isNumeralCharacter (character : Char) : Bool :=
  character.isDigit || character ∈ ['-', '+', '.', 'e']

/-- A text that can be a numeral: characters of numerals, of which the first one is a digit or
a minus sign. -/
structure IsNumeral (text : String) : Prop where
  starts : ∃ first rest, text.toList = first :: rest ∧ (first.isDigit = true ∨ first = '-')
  inside : ∀ character ∈ text.toList, isNumeralCharacter character = true

/-- A document whose numerals can be numerals. -/
inductive Legible : Json → Prop where
  | null : Legible .null
  | boolean (value : Bool) : Legible (.boolean value)
  | numeral {text : String} (isNumeral : IsNumeral text) : Legible (.numeral text)
  | string (text : String) : Legible (.string text)
  | array {items : List Json} (legible : ∀ item ∈ items, Legible item) : Legible (.array items)
  | object {members : List (String × Json)} (legible : ∀ member ∈ members, Legible member.2) :
      Legible (.object members)

/-- What may follow a document: nothing, or a character that no numeral has. -/
def Ends (rest : List Char) : Prop :=
  ∀ character ∈ rest.head?, isNumeralCharacter character = false

/-- A numeral ends at one place only. -/
theorem IsNumeral.append_inj {left right : String} {rest others : List Char}
    (isNumeral : IsNumeral left) (otherIsNumeral : IsNumeral right) (ends : Ends rest)
    (otherEnds : Ends others) (same : left.toList ++ rest = right.toList ++ others) :
    left = right ∧ rest = others := by
  obtain ⟨taken, dropped⟩ := takeWhile_stop isNumeral.inside ends
  obtain ⟨otherTaken, otherDropped⟩ := takeWhile_stop otherIsNumeral.inside otherEnds
  rw [same] at taken dropped
  exact ⟨String.toList_inj.mp (taken.symm.trans otherTaken), dropped.symm.trans otherDropped⟩

section Parts

variable {Part : Type} {write : Part → String} {closing : Char} {left right : List Part}
  {rest others : List Char}

/-- The text of a part tells the part and where it ends, if what follows is no numeral. -/
def Tells (write : Part → String) (part other : Part) : Prop :=
  ∀ ⦃rest others : List Char⦄, Ends rest → Ends others →
    (write part).toList ++ rest = (write other).toList ++ others → part = other ∧ rest = others

/-- Parts after the first one, each after a comma. -/
def tail (write : Part → String) (parts : List Part) : List Char :=
  parts.flatMap fun part => ',' :: (write part).toList

theorem toList_separated (write : Part → String) (first : Part) (parts : List Part) :
    (separated "," ((first :: parts).map write)).toList =
      (write first).toList ++ tail write parts := by
  simp [separated, tail, String.toList_join, List.flatMap_map]

variable (noNumeral : isNumeralCharacter closing = false) (noComma : closing ≠ ',')

include noNumeral

theorem ends_tail (write : Part → String) (parts : List Part) (rest : List Char) :
    Ends (tail write parts ++ closing :: rest) := by
  cases parts with
  | nil =>
      rintro character ⟨⟩
      exact noNumeral
  | cons first parts =>
      rintro character ⟨⟩
      rfl

include noComma

/-- Parts after the first one end at one place only. -/
theorem tail_append_inj (tell : ∀ part ∈ left, ∀ other ∈ right, Tells write part other)
    (same : tail write left ++ closing :: rest = tail write right ++ closing :: others) :
    left = right ∧ rest = others := by
  induction left generalizing right with
  | nil =>
      cases right with
      | nil => exact ⟨rfl, (List.cons.inj same).2⟩
      | cons other parts => exact absurd (List.cons.inj same).1 noComma
  | cons part left inductionHypothesis =>
      cases right with
      | nil => exact absurd (List.cons.inj same).1.symm noComma
      | cons other right =>
          simp only [tail, List.flatMap_cons, List.append_assoc, List.cons_append,
            List.cons.injEq, true_and] at same
          obtain ⟨rfl, tails⟩ := tell part List.mem_cons_self other List.mem_cons_self
            (ends_tail noNumeral write left rest) (ends_tail noNumeral write right others) same
          obtain ⟨rfl, ends⟩ := inductionHypothesis (fun part member other otherMember =>
            tell part (List.mem_cons_of_mem _ member) other (List.mem_cons_of_mem _ otherMember))
            tails
          exact ⟨rfl, ends⟩

/-- Parts with commas between them end at one place only, if none of them begins with what
closes them. -/
theorem separated_append_inj
    (opens : ∀ part ∈ left ++ right, ∃ first more, (write part).toList = first :: more ∧
      first ≠ closing)
    (tell : ∀ part ∈ left, ∀ other ∈ right, Tells write part other)
    (same : (separated "," (left.map write)).toList ++ closing :: rest =
      (separated "," (right.map write)).toList ++ closing :: others) :
    left = right ∧ rest = others := by
  cases left with
  | nil =>
      cases right with
      | nil => exact ⟨rfl, (List.cons.inj same).2⟩
      | cons other right =>
          obtain ⟨first, more, shape, different⟩ := opens other (by simp)
          rw [toList_separated, shape] at same
          exact absurd (List.cons.inj same).1.symm different
  | cons part left =>
      cases right with
      | nil =>
          obtain ⟨first, more, shape, different⟩ := opens part (by simp)
          rw [toList_separated, shape] at same
          exact absurd (List.cons.inj same).1 different
      | cons other right =>
          rw [toList_separated, toList_separated, List.append_assoc, List.append_assoc] at same
          obtain ⟨rfl, tails⟩ := tell part List.mem_cons_self other List.mem_cons_self
            (ends_tail noNumeral write left rest) (ends_tail noNumeral write right others) same
          obtain ⟨rfl, ends⟩ := tail_append_inj noNumeral noComma
            (fun part member other otherMember =>
              tell part (List.mem_cons_of_mem _ member) other (List.mem_cons_of_mem _ otherMember))
            tails
          exact ⟨rfl, ends⟩

end Parts

/-- What a document is, apart from what it holds. -/
inductive Shape where
  | null
  | boolean
  | numeral
  | string
  | array
  | object

def shape : Json → Shape
  | .null => .null
  | .boolean _ => .boolean
  | .numeral _ => .numeral
  | .string _ => .string
  | .array _ => .array
  | .object _ => .object

/-- The shape of the documents whose text begins with a character. -/
def Shape.of? (first : Char) : Option Shape :=
  if first.isDigit ∨ first = '-' then some .numeral
  else
    match first with
    | 'n' => some .null
    | 't' => some .boolean
    | 'f' => some .boolean
    | '"' => some .string
    | '[' => some .array
    | '\x7b' => some .object
    | _ => none

theorem compactItems_eq (items : List Json) : compactItems items = items.map compact := by
  induction items with
  | nil => rfl
  | cons item items inductionHypothesis => rw [compactItems, inductionHypothesis, List.map_cons]

theorem compactMembers_eq (members : List (String × Json)) :
    compactMembers members = members.map compactMember := by
  induction members with
  | nil => rfl
  | cons member members inductionHypothesis =>
      rw [compactMembers, inductionHypothesis, List.map_cons]

theorem toList_compact_array (items : List Json) (rest : List Char) :
    (compact (.array items)).toList ++ rest =
      '[' :: ((separated "," (items.map compact)).toList ++ ']' :: rest) := by
  simp [compact, compactItems_eq]

theorem toList_compact_object (members : List (String × Json)) (rest : List Char) :
    (compact (.object members)).toList ++ rest =
      '\x7b' :: ((separated "," (members.map compactMember)).toList ++ '\x7d' :: rest) := by
  simp [compact, compactMembers_eq]

/-- The first character of a document tells its shape. -/
theorem Legible.starts {document : Json} (legible : document.Legible) :
    ∃ first more, (compact document).toList = first :: more ∧
      Shape.of? first = some document.shape := by
  cases legible with
  | null => exact ⟨_, _, rfl, rfl⟩
  | boolean value => cases value <;> exact ⟨_, _, rfl, rfl⟩
  | numeral isNumeral =>
      obtain ⟨first, more, shape, sort⟩ := isNumeral.starts
      exact ⟨first, more, shape, if_pos sort⟩
  | string text =>
      have shape := toList_stringText text []
      rw [List.append_nil] at shape
      exact ⟨_, _, shape, rfl⟩
  | @array items _ =>
      have shape := toList_compact_array items []
      rw [List.append_nil] at shape
      exact ⟨_, _, shape, rfl⟩
  | @object members _ =>
      have shape := toList_compact_object members []
      rw [List.append_nil] at shape
      exact ⟨_, _, shape, rfl⟩

/-- Two documents with the same text are of the same shape. -/
theorem Legible.shape_eq {left right : Json} {rest others : List Char} (legible : left.Legible)
    (otherLegible : right.Legible)
    (same : (compact left).toList ++ rest = (compact right).toList ++ others) :
    left.shape = right.shape := by
  obtain ⟨first, more, begins, shape⟩ := legible.starts
  obtain ⟨otherFirst, otherMore, otherBegins, otherShape⟩ := otherLegible.starts
  rw [begins, otherBegins] at same
  rw [(List.cons.inj same).1, otherShape] at shape
  exact (Option.some.inj shape).symm

/-- No document begins with a character that no shape has. -/
theorem Legible.opens {document : Json} (legible : document.Legible) {closing : Char}
    (shapeless : Shape.of? closing = none) :
    ∃ first more, (compact document).toList = first :: more ∧ first ≠ closing := by
  obtain ⟨first, more, begins, shape⟩ := legible.starts
  refine ⟨first, more, begins, ?_⟩
  rintro rfl
  rw [shapeless] at shape
  cases shape

/-- A member begins with the quote of its name. -/
theorem compactMember_opens (member : String × Json) {closing : Char} (noQuote : '"' ≠ closing) :
    ∃ first more, (compactMember member).toList = first :: more ∧ first ≠ closing := by
  obtain ⟨name, document⟩ := member
  have begins := toList_stringText name (":" ++ compact document).toList
  rw [← String.toList_append, ← String.append_assoc] at begins
  exact ⟨_, _, begins, noQuote⟩

/-- A member ends where its document ends. -/
theorem compactMember_tells {left right : String × Json}
    (tells : Tells compact left.2 right.2) : Tells compactMember left right := by
  obtain ⟨name, document⟩ := left
  obtain ⟨otherName, otherDocument⟩ := right
  intro rest others ends otherEnds same
  simp only [compactMember, String.toList_append, List.append_assoc] at same
  obtain ⟨rfl, tails⟩ := stringText_append_inj same
  obtain ⟨rfl, ending⟩ := tells ends otherEnds (List.append_cancel_left tails)
  exact ⟨rfl, ending⟩

/-- The compact text of a document tells the document and where it ends. -/
theorem Legible.tells {left right : Json} (legible : left.Legible) (otherLegible : right.Legible) :
    Tells compact left right := by
  induction legible generalizing right with
  | null =>
      intro rest others ends otherEnds same
      have shapes := shape_eq .null otherLegible same
      cases otherLegible with
      | null => exact ⟨rfl, List.append_cancel_left same⟩
      | _ => cases shapes
  | boolean value =>
      intro rest others ends otherEnds same
      have shapes := shape_eq (.boolean value) otherLegible same
      cases otherLegible with
      | boolean other =>
          cases value <;> cases other
          · exact ⟨rfl, List.append_cancel_left same⟩
          · cases same
          · cases same
          · exact ⟨rfl, List.append_cancel_left same⟩
      | _ => cases shapes
  | numeral isNumeral =>
      intro rest others ends otherEnds same
      have shapes := shape_eq (.numeral isNumeral) otherLegible same
      cases otherLegible with
      | numeral otherIsNumeral =>
          obtain ⟨rfl, tails⟩ := isNumeral.append_inj otherIsNumeral ends otherEnds same
          exact ⟨rfl, tails⟩
      | _ => cases shapes
  | string text =>
      intro rest others ends otherEnds same
      have shapes := shape_eq (.string text) otherLegible same
      cases otherLegible with
      | string other =>
          obtain ⟨rfl, tails⟩ := stringText_append_inj same
          exact ⟨rfl, tails⟩
      | _ => cases shapes
  | @array items legible inductionHypothesis =>
      intro rest others ends otherEnds same
      have shapes := shape_eq (.array legible) otherLegible same
      cases otherLegible with
      | @array otherItems otherLegible =>
          rw [toList_compact_array, toList_compact_array] at same
          obtain ⟨rfl, tails⟩ := separated_append_inj rfl (by decide)
            (fun item member => (List.mem_append.mp member).elim
              (fun member => (legible item member).opens rfl)
              (fun member => (otherLegible item member).opens rfl))
            (fun item member other otherMember =>
              inductionHypothesis item member (otherLegible other otherMember))
            (List.cons.inj same).2
          exact ⟨rfl, tails⟩
      | _ => cases shapes
  | @object members legible inductionHypothesis =>
      intro rest others ends otherEnds same
      have shapes := shape_eq (.object legible) otherLegible same
      cases otherLegible with
      | @object otherMembers otherLegible =>
          rw [toList_compact_object, toList_compact_object] at same
          obtain ⟨rfl, tails⟩ := separated_append_inj rfl (by decide)
            (fun member _ => compactMember_opens member (by decide))
            (fun member inside other otherInside => compactMember_tells
              (inductionHypothesis member inside (otherLegible other otherInside)))
            (List.cons.inj same).2
          exact ⟨rfl, tails⟩
      | _ => cases shapes

/-- The compact text of a document tells the document. -/
theorem eq_of_compact {left right : Json} (legible : left.Legible) (otherLegible : right.Legible)
    (same : left.compact = right.compact) : left = right := by
  have ended : Ends [] := by
    rintro character ⟨⟩
  exact (legible.tells otherLegible ended ended (congrArg (·.toList ++ []) same)).1

end Json

end ScriptFront
