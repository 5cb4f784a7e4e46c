import ScriptFront.Proofs.Outline.Tree

/-!
# Tokens from their listing

A listing shows every token by its kind and, unless it is a line end, by how it is written,
and ends it with a line feed. A string is written as it is, over several lines if it has
line feeds, and these can look like lines of other tokens. Still a listing of the tokens of
a source tells the tokens, since it can be read from the front: the name of a kind goes up
to a blank or a line feed, a string up to the quote that closes it, and anything else up to
a line feed.
-/

namespace ScriptFront

open OutlineLine

/-- The name of a kind has neither a blank nor a line feed in it. -/
theorem Kind.name_unbroken (kind : Kind) :
    ∀ character ∈ kind.name.toList, (character != ' ' && character != '\n') = true := by
  cases kind <;> exact List.all_eq_true.mp rfl

namespace Token

/-- A token as a source can have it. -/
inductive Legible : Token → Prop where
  | name {name : String} (named : IsName name) : Legible ⟨.identifier, .text name⟩
  | string {content : String} (inside : Lexeme.Content content.toList) :
      Legible ⟨.string, .text content⟩
  | number {number : Number} (unsigned : number.Unsigned) : Legible ⟨.number, .number number⟩
  | fixed {kind : Kind} {spelling : String} (spelled : kind.spelling? = some spelling) :
      Legible ⟨kind, .text spelling⟩

/-- Every token of a source is legible. -/
theorem legible_of_munched {source : List Char} {tokens : List Token}
    (munched : Lexeme.Munched source tokens) : ∀ token ∈ tokens, token.Legible := by
  intro token member
  rcases Lexeme.wellFormed_of_munched munched token member with wellFormed | ⟨value, rfl⟩
  · cases wellFormed with
    | identifier named => exact .name named
    | string inside => exact .string inside
    | integer nonnegative => exact .number (.integer nonnegative)
    | fixed spelled => exact .fixed spelled
  · exact .number (Number.unsigned_of_munched munched member)

/-- What a listing says of a token after its kind. -/
def remark (token : Token) : List Char :=
  if token.kind = .newline then [] else ' ' :: token.written

namespace Legible

variable {token left right : Token}

/-- A listing shows a token by its kind and a remark. -/
theorem toList_display (legible : token.Legible) :
    token.display.toList = token.kind.name.toList ++ token.remark := by
  cases legible with
  | name named => simp [display, remark, written, Value.display]
  | string inside => simp [display, remark, written, Value.display]
  | number unsigned => simp [display, remark, written, Value.display]
  | @fixed kind spelling spelled =>
      cases kind <;> cases spelled <;> simp [display, remark, written, Value.display]

/-- A token of a kind with a spelling carries that spelling. -/
theorem eq_of_spelled (legible : token.Legible) {spelling : String}
    (spelled : token.kind.spelling? = some spelling) : token = ⟨token.kind, .text spelling⟩ := by
  cases legible with
  | name named => cases spelled
  | string inside => cases spelled
  | number unsigned => cases spelled
  | fixed known => rw [Option.some.inj (known.symm.trans spelled)]

/-- Tokens of one kind are the same if the kind has a spelling. -/
theorem eq_of_kind (legible : left.Legible) (otherLegible : right.Legible)
    (kinds : left.kind = right.kind) {spelling : String}
    (spelled : left.kind.spelling? = some spelling) : left = right := by
  rw [legible.eq_of_spelled spelled, otherLegible.eq_of_spelled (kinds ▸ spelled), kinds]

/-- A token is told by its kind and how it is written. -/
theorem eq_of_written (legible : left.Legible) (otherLegible : right.Legible)
    (kinds : left.kind = right.kind) (same : left.written = right.written) : left = right := by
  cases spelled : left.kind.spelling? with
  | some spelling => exact legible.eq_of_kind otherLegible kinds spelled
  | none =>
      have unspelled := kinds ▸ spelled
      cases legible with
      | name named =>
          cases otherLegible with
          | name otherNamed => rw [String.toList_inj.mp same]
          | fixed known => cases known.symm.trans unspelled
          | _ => cases kinds
      | string inside =>
          cases otherLegible with
          | string otherInside =>
              rw [String.toList_inj.mp (List.append_cancel_right (List.cons.inj same).2)]
          | fixed known => cases known.symm.trans unspelled
          | _ => cases kinds
      | number unsigned =>
          cases otherLegible with
          | number otherUnsigned =>
              rw [Number.eq_of_display unsigned otherUnsigned (String.toList_inj.mp same)]
          | fixed known => cases known.symm.trans unspelled
          | _ => cases kinds
      | fixed known => cases known.symm.trans spelled

/-- Unless it is a line end, a token is written as something a line can say. -/
theorem wording (legible : token.Legible) (inline : token.kind ≠ .newline) :
    Wording token.written := by
  cases legible with
  | name named => exact named.wording
  | string inside => exact .quoted inside
  | number unsigned => exact unsigned.wording
  | @fixed kind spelling spelled =>
      cases kind <;> cases spelled
      case newline.refl => exact absurd rfl inline
      all_goals exact wording_title_alone _ rfl

/-- A token of a listing ends at one place only. -/
theorem display_append_inj (legible : left.Legible) (otherLegible : right.Legible)
    {rest others : List Char}
    (same : left.display.toList ++ '\n' :: rest = right.display.toList ++ '\n' :: others) :
    left = right ∧ rest = others := by
  have stops : ∀ (token : Token) (rest : List Char),
      ∀ character ∈ (token.remark ++ '\n' :: rest).head?,
        (character != ' ' && character != '\n') = false := by
    intro token rest
    unfold remark
    split <;> rintro character ⟨⟩ <;> rfl
  rw [legible.toList_display, otherLegible.toList_display, List.append_assoc,
    List.append_assoc] at same
  -- The name of the kind is told first, and it tells what is to come.
  obtain ⟨names, remarks⟩ := Lexeme.takeWhile_stop left.kind.name_unbroken (stops left rest)
  obtain ⟨otherNames, otherRemarks⟩ :=
    Lexeme.takeWhile_stop right.kind.name_unbroken (stops right others)
  rw [same] at names remarks
  have kinds : left.kind = right.kind :=
    Kind.name_injective (String.toList_inj.mp (names.symm.trans otherNames))
  replace remarks := remarks.symm.trans otherRemarks
  by_cases lineEnd : left.kind = .newline
  · rw [remark, remark, if_pos lineEnd, if_pos (kinds ▸ lineEnd)] at remarks
    have spelled : left.kind.spelling? = some "\n" := by
      rw [lineEnd]
      rfl
    exact ⟨legible.eq_of_kind otherLegible kinds spelled, (List.cons.inj remarks).2⟩
  · rw [remark, remark, if_neg lineEnd, if_neg (kinds ▸ lineEnd)] at remarks
    obtain ⟨written, rests⟩ := (legible.wording lineEnd).append_inj
      (otherLegible.wording (kinds ▸ lineEnd)) (List.cons.inj remarks).2
    exact ⟨legible.eq_of_written otherLegible kinds written, rests⟩

end Legible

/-- A listing of legible tokens tells the tokens. -/
theorem listing_injective {tokens others : List Token}
    (legible : ∀ token ∈ tokens, token.Legible) (otherLegible : ∀ token ∈ others, token.Legible)
    (same : listing tokens = listing others) : tokens = others := by
  have characters := congrArg String.toList same
  simp only [listing, String.toList_join, List.flatMap_map] at characters
  refine eq_of_flatMap (fun token => ?_) ?_ characters
  · simp
  · intro token member other otherMember rest others same
    rw [String.toList_append, String.toList_append, List.append_assoc, List.append_assoc] at same
    exact (legible token member).display_append_inj (otherLegible other otherMember) same

end Token

/-- Two sources whose tokens have the same listing have the same tokens. -/
theorem tokenize_listing_unambiguous {first second : String} {left right : List Token}
    (read : (tokenize first).outcome = .ok left) (otherRead : (tokenize second).outcome = .ok right)
    (same : Token.listing left = Token.listing right) : left = right := by
  have legible : ∀ {source : String} {tokens : List Token},
      (tokenize source).outcome = .ok tokens → ∀ token ∈ tokens, token.Legible := fun read =>
    Token.legible_of_munched
      ((Lexeme.outcome_tokenizeWith_iff_munched Lexeme.isWordCharacter_agreesOnAscii).mp read)
  exact Token.listing_injective (legible read) (legible otherRead) same

/-- A string whose lines look like those of a line end and of a number, in two layouts. -/
theorem tokenize_listing_unambiguous_two_layouts :
    ∃ left right, (tokenize "x=\"a\nNEWLINE\nNUMBER 1\"\n0.10").outcome = .ok left ∧
      (tokenize "x = \"a\nNEWLINE\nNUMBER 1\" # again\n0.1").outcome = .ok right ∧
      left = right := by
  have read : (tokenize "x=\"a\nNEWLINE\nNUMBER 1\"\n0.10").outcome.toOption = some
      [⟨.identifier, .text "x"⟩, ⟨.equal, .text "="⟩, ⟨.string, .text "a\nNEWLINE\nNUMBER 1"⟩,
        ⟨.newline, .text "\n"⟩,
        ⟨.number, .number (.float (.finite false ⟨4591870180066957722, by decide⟩))⟩] := by
    decide +kernel
  have otherRead : (tokenize "x = \"a\nNEWLINE\nNUMBER 1\" # again\n0.1").outcome.toOption = some
      [⟨.identifier, .text "x"⟩, ⟨.equal, .text "="⟩, ⟨.string, .text "a\nNEWLINE\nNUMBER 1"⟩,
        ⟨.newline, .text "\n"⟩,
        ⟨.number, .number (.float (.finite false ⟨4591870180066957722, by decide⟩))⟩] := by
    decide +kernel
  rw [toOption_eq_some_iff] at read otherRead
  exact ⟨_, _, read, otherRead, tokenize_listing_unambiguous read otherRead rfl⟩

end ScriptFront
