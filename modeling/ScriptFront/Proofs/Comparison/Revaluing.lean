import Mathlib.Data.List.Forall2
import ScriptFront.Proofs.Comparison.SideBySide

/-!
# Other values on the same tokens

Reading goes by the kinds of tokens. The values of identifiers, strings and numbers are
taken over into the program, and all that is asked of them is whether they are texts or
numbers. So if every value is exchanged for another of its sort, the program has the
exchanged values in the same places, and tokens that are refused are refused with the
same error. What any other token carries makes no difference at all.
-/

namespace ScriptFront

open Program

/-- The token with another value in place of its own. -/
def Token.revalued (change : Kind → Value → Value) (token : Token) : Token :=
  ⟨token.kind, change token.kind token.value⟩

/-- A change of values that leaves texts texts and numbers numbers, wherever values are
taken over into a program. -/
structure KeepsSorts (change : Kind → Value → Value) : Prop where
  text : ∀ kind ∈ Kind.valued, ∀ content, ∃ other, change kind (.text content) = .text other
  number : ∀ kind ∈ Kind.valued, ∀ amount, ∃ other, change kind (.number amount) = .number other

/-- The text of a value, if it is one. -/
def Value.textOr (default : String) : Value → String
  | .text content => content
  | .number _ => default

/-- The number of a value, if it is one. -/
def Value.numberOr (default : Number) : Value → Number
  | .text _ => default
  | .number amount => amount

namespace KeepsSorts

variable {change : Kind → Value → Value} (keeps : KeepsSorts change) {kind : Kind}
  (valued : kind ∈ Kind.valued)

include keeps valued

/-- A text is changed into the text of the changed value. -/
theorem change_text (content : String) :
    change kind (.text content) = .text ((change kind (.text content)).textOr content) := by
  obtain ⟨other, changed⟩ := keeps.text kind valued content
  rw [changed]
  rfl

/-- A number is changed into the number of the changed value. -/
theorem change_number (amount : Number) :
    change kind (.number amount) = .number ((change kind (.number amount)).numberOr amount) := by
  obtain ⟨other, changed⟩ := keeps.number kind valued amount
  rw [changed]
  rfl

end KeepsSorts

namespace Exchange

/-- What a change of values makes of the names, strings and numbers of a program. -/
def ofChange (change : Kind → Value → Value) : Exchange where
  name name := (change .identifier (.text name)).textOr name
  content content := (change .string (.text content)).textOr content
  number amount := (change .number (.number amount)).numberOr amount

/-- A token becomes the one with the changed value. -/
theorem pairs_revalued {change : Kind → Value → Value} (keeps : KeepsSorts change)
    (token : Token) : (ofChange change).Pairs token (token.revalued change) := by
  obtain ⟨kind, value⟩ := token
  constructor
  case kind => rfl
  all_goals
    rintro ⟨⟩
    simp only [Token.revalued]
    cases value with
    | text content =>
        rw [keeps.change_text (by decide)]
        rfl
    | number amount =>
        rw [keeps.change_number (by decide)]
        rfl

/-- Tokens that mean the same make a pair in which nothing is exchanged. -/
theorem pairs_keep_of_sameMeaning {first second : Token}
    (same : first.SameMeaning second) : keep.Pairs first second := by
  obtain ⟨firstKind, firstValue⟩ := first
  obtain ⟨secondKind, secondValue⟩ := second
  obtain ⟨kind, values⟩ := same
  obtain rfl : firstKind = secondKind := kind
  by_cases valued : firstKind ∈ Kind.valued
  · cases values valued
    exact .keep _
  · constructor
    case kind => rfl
    all_goals
      rintro ⟨⟩
      exact absurd (by decide) valued

/-- The tokens after line ends in front correspond as those with them do. -/
theorem forall₂_skipNewlines {exchange : Exchange} {left right : List Token}
    (tokens : List.Forall₂ exchange.Pairs left right) :
    List.Forall₂ exchange.Pairs (skipNewlines left) (skipNewlines right) := by
  induction tokens with
  | nil => exact .nil
  | @cons first second left right pair tokens inductionHypothesis =>
      simp only [skipNewlines, List.dropWhile_cons, pair.kind]
      split
      · exact inductionHypothesis
      · exact .cons pair tokens

end Exchange

/-- Tokens that correspond one by one, read under one limit. -/
def TwoRuns.paired (exchange : Exchange) (limit : Nat) : TwoRuns where
  Tokens := List.Forall₂ exchange.Pairs
  exchange := exchange
  limit := limit
  gap := 0
  fronts := by
    rintro _ _ (_ | ⟨pair, following⟩)
    · exact .ended
    · exact .pair pair fun _ => following
  lines := Exchange.forall₂_skipNewlines

/-- Tokens that correspond one by one are read with the same outcome, but for the exchanged
values. -/
theorem outcome_parse_of_pairs {exchange : Exchange} {left right : List Token}
    (tokens : List.Forall₂ exchange.Pairs left right) :
    (parse right).outcome = (parse left).outcome.map (Statement.exchangedAll exchange) := by
  rcases (TwoRuns.paired exchange nestingLimit).outcome_parseWithin tokens with
    agreed | ⟨gap, -⟩
  · exact agreed
  · exact absurd gap (Nat.lt_irrefl 0)

/-- Reading goes by kinds only. If the values of tokens are changed, texts into texts and
numbers into numbers where they are taken over into a program, then the program changes in
the same way, and an error stays what it is. Values of other kinds have no influence. -/
theorem parse_revalued :
    (∀ change : Kind → Value → Value, KeepsSorts change → ∀ tokens : List Token,
      (parse (tokens.map (Token.revalued change))).outcome =
        (parse tokens).outcome.map (Statement.exchangedAll (.ofChange change))) ∧
    (∀ left right : List Token, List.Forall₂ Token.SameMeaning left right →
      (parse right).outcome = (parse left).outcome) := by
  constructor
  · intro change keeps tokens
    apply outcome_parse_of_pairs
    rw [List.forall₂_map_right_iff, List.forall₂_same]
    exact fun token _ => Exchange.pairs_revalued keeps token
  · intro left right tokens
    have kept := outcome_parse_of_pairs
      (tokens.imp fun _ _ => Exchange.pairs_keep_of_sameMeaning)
    rw [kept, funext Statement.exchangedAll_keep]
    cases (parse left).outcome <;> rfl

/-- Texts that are taken over are doubled, and every other token gets a seven. -/
def doubledValue (kind : Kind) (value : Value) : Value :=
  if kind ∈ Kind.valued then
    match value with
    | .text content => .text (content ++ content)
    | .number amount => .number amount
  else .number (.integer 7)

/-- With doubled values `x = "a"` assigns the doubled string to the doubled name, and a call
that is not closed is refused as it was. A seven on the equals sign alone changes nothing. -/
theorem parse_revalued_doubled :
    KeepsSorts doubledValue ∧
    (parse [⟨.identifier, .text "xx"⟩, ⟨.equal, .number (.integer 7)⟩,
      ⟨.string, .text "aa"⟩]).outcome = .ok [.assignment "xx" (.string "aa")] ∧
    (parse [⟨.identifier, .text "ff"⟩, ⟨.parenthesisOpen, .number (.integer 7)⟩,
      ⟨.number, .number (.integer 1)⟩]).outcome = .error (.missingToken .parenthesisClose) ∧
    (parse [⟨.identifier, .text "x"⟩, ⟨.equal, .number (.integer 7)⟩,
      .fixed .trueWord]).outcome = .ok [.assignment "x" (.boolean true)] := by
  have keeps : KeepsSorts doubledValue :=
    ⟨fun _ valued content => ⟨content ++ content, if_pos valued⟩,
      fun _ valued amount => ⟨amount, if_pos valued⟩⟩
  refine ⟨keeps, ?_, ?_, ?_⟩
  · exact parse_revalued.1 doubledValue keeps
      [⟨.identifier, .text "x"⟩, .fixed .equal, ⟨.string, .text "a"⟩]
  · exact parse_revalued.1 doubledValue keeps
      [⟨.identifier, .text "f"⟩, .fixed .parenthesisOpen, ⟨.number, .number (.integer 1)⟩]
  · refine parse_revalued.2 [⟨.identifier, .text "x"⟩, .fixed .equal, .fixed .trueWord] _ ?_
    exact .cons ⟨rfl, fun _ => rfl⟩ (.cons ⟨rfl, fun _ => by contradiction⟩
      (.cons ⟨rfl, fun _ => rfl⟩ .nil))

end ScriptFront
