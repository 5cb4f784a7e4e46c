import ScriptFront.Analysis
import ScriptFront.Proofs.Number.Text
import ScriptFront.Proofs.Outline.Text
import ScriptFront.Proofs.Program.Image

/-!
# Trees from the lines of an outline

The lines of an outline tell the program, if it is read from a source. What a line says
tells the sort of what begins there, but for one case: a name may be spelled as the title
of a connective. Then only an operation has lines that stand deeper right after it. How
far the lines of a part go is told by their levels alone: what follows a part does not
stand deeper than its first line.
-/

namespace ScriptFront

open OutlineLine

/-- An atom as a source can have it. -/
def Atom.Legible : Atom → Prop
  | .name text => IsName text
  | .string content => Lexeme.Content content.toList
  | .number value => value.Unsigned

/-- The first of the lines, if there is one, stands less deep than the level. -/
def Above (level : Nat) (lines : List OutlineLine) : Prop :=
  ∀ line ∈ lines.head?, line.level < level

theorem above_nil (level : Nat) : Above level [] := by
  rintro line ⟨⟩

/-- What begins less deep than a level begins less deep than a greater one. -/
theorem Above.mono {level bound : Nat} {lines : List OutlineLine} (above : Above level lines)
    (less : level ≤ bound) : Above bound lines :=
  fun line member => Nat.lt_of_lt_of_le (above line member) less

section Parts

variable {Part : Type} {level : Nat} {lines : Part → List OutlineLine}

/-- Every part has a line at the level before its others. -/
def BeginsAt (level : Nat) (lines : Part → List OutlineLine) : Prop :=
  ∀ part, ∃ content following, lines part = ⟨level, content⟩ :: following

/-- The lines of two parts tell the parts apart and where they end, if what follows does
not stand under them. -/
def Tells (level : Nat) (lines : Part → List OutlineLine) (left right : Part) : Prop :=
  ∀ ⦃rest others : List OutlineLine⦄, Above (level + 1) rest → Above (level + 1) others →
    lines left ++ rest = lines right ++ others → left = right ∧ rest = others

theorem BeginsAt.above (begins : BeginsAt level lines) {bound : Nat} (less : level < bound)
    (part : Part) (rest : List OutlineLine) : Above bound (lines part ++ rest) := by
  obtain ⟨content, following, shape⟩ := begins part
  rw [shape]
  rintro line ⟨⟩
  exact less

theorem BeginsAt.not_above (begins : BeginsAt level lines) (part : Part)
    (rest : List OutlineLine) : ¬ Above level (lines part ++ rest) := by
  obtain ⟨content, following, shape⟩ := begins part
  rw [shape]
  intro above
  exact Nat.lt_irrefl level (above _ rfl)

theorem BeginsAt.above_all (begins : BeginsAt level lines) (parts : List Part)
    {rest : List OutlineLine} (above : Above level rest) :
    Above (level + 1) (parts.flatMap lines ++ rest) := by
  cases parts with
  | nil => exact above.mono (Nat.le_succ level)
  | cons first others =>
      rw [List.flatMap_cons, List.append_assoc]
      exact begins.above (Nat.lt_succ_self level) first _

/-- The lines of several parts tell the parts and where the last one ends, if what follows
stands less deep. -/
theorem BeginsAt.append_inj (begins : BeginsAt level lines) {left right : List Part}
    (tell : ∀ part ∈ left, ∀ other ∈ right, Tells level lines part other)
    {rest others : List OutlineLine} (above : Above level rest) (otherAbove : Above level others)
    (same : left.flatMap lines ++ rest = right.flatMap lines ++ others) :
    left = right ∧ rest = others := by
  induction left generalizing right with
  | nil =>
      cases right with
      | nil => exact ⟨rfl, same⟩
      | cons first parts =>
          rw [List.flatMap_nil, List.flatMap_cons, List.append_assoc, List.nil_append] at same
          exact absurd (same ▸ above) (begins.not_above first _)
  | cons first parts inductionHypothesis =>
      cases right with
      | nil =>
          rw [List.flatMap_nil, List.flatMap_cons, List.append_assoc, List.nil_append] at same
          exact absurd (same ▸ otherAbove) (begins.not_above first _)
      | cons otherFirst otherParts =>
          rw [List.flatMap_cons, List.flatMap_cons, List.append_assoc, List.append_assoc] at same
          obtain ⟨rfl, tails⟩ := tell first List.mem_cons_self otherFirst List.mem_cons_self
            (begins.above_all parts above) (begins.above_all otherParts otherAbove) same
          obtain ⟨rfl, ends⟩ := inductionHypothesis (fun part member other otherMember =>
            tell part (List.mem_cons_of_mem _ member) other (List.mem_cons_of_mem _ otherMember))
            tails
          exact ⟨rfl, ends⟩

end Parts

namespace Expression

/-- An expression as a source can have it. -/
def Legible (expression : Expression) : Prop :=
  ∀ atom ∈ expression.atoms, atom.Legible

/-- What the first line of an expression says. -/
def heading : Expression → String
  | .identifier name => name
  | .string content => "\"" ++ content ++ "\""
  | .number value => value.display
  | .boolean value => if value then "true" else "false"
  | .call name _ => "Call " ++ name
  | .operation connective _ _ => connective.title

/-- The lines of an expression after its first, which stand at the given level or deeper. -/
def inner (level : Nat) : Expression → List OutlineLine
  | .call _ arguments => outlineAll level arguments
  | .operation _ left right => left.outline level ++ right.outline level
  | _ => []

/-- An expression has one line and then those under it. -/
theorem outline_eq (level : Nat) (expression : Expression) :
    expression.outline level = ⟨level, expression.heading⟩ :: expression.inner (level + 1) := by
  cases expression <;> simp only [outline, heading, inner]

end Expression

/-- What a line of an expression can be told to be by what it says. -/
inductive LineSort where
  | word
  | quoted
  | numeral
  | truth
  | call
deriving DecidableEq

/-- The sort of a line. -/
def LineSort.of (content : String) : LineSort :=
  if content.toList.head?.any (· = '"') then .quoted
  else if content.toList.head?.any Char.isDigit then .numeral
  else if content = "true" ∨ content = "false" then .truth
  else if ' ' ∈ content.toList then .call
  else .word

/-- The sort of an expression's first line. -/
def Expression.lineSort : Expression → LineSort
  | .identifier _ => .word
  | .string _ => .quoted
  | .number _ => .numeral
  | .boolean _ => .truth
  | .call _ _ => .call
  | .operation _ _ _ => .word

/-- A character that does not belong to words is in no name. -/
theorem IsName.ne {name : String} (named : IsName name) (other : Char)
    (noLetter : other.isAlpha = false) (outside : Text.isAsciiWordCharacter other = false) :
    ∀ character ∈ name.toList, character ≠ other := by
  obtain ⟨⟨first, rest, shape, letter, following⟩, -⟩ := named
  rw [shape, List.forall_mem_cons]
  constructor
  · rintro rfl
    rw [noLetter] at letter
    cases letter
  · rintro character member rfl
    rw [following character member] at outside
    cases outside

/-- A name begins with a letter. -/
theorem IsName.starts {name : String} (named : IsName name) :
    ∃ first rest, name.toList = first :: rest ∧ first.isAlpha = true := by
  obtain ⟨⟨first, rest, shape, letter, -⟩, -⟩ := named
  exact ⟨first, rest, shape, letter⟩

/-- A letter is no digit. -/
theorem not_isDigit_of_isAlpha {character : Char} (letter : character.isAlpha = true) :
    character.isDigit = false := by
  rw [Bool.eq_false_iff]
  intro digit
  rw [Lexeme.isAlpha_of_isDigit digit] at letter
  cases letter

/-- A fixed text that a line can say, alone or before something else. -/
def isTitle (text : List Char) : Bool :=
  text.head?.any (fun first => first != ' ' && first != '"') && text.all (· != '\n')

/-- A line says a title and what follows it, if there is no line feed. -/
theorem wording_title (title : String) (titled : isTitle title.toList = true) {text : List Char}
    (oneLine : ∀ character ∈ text, character ≠ '\n') : Wording (title.toList ++ text) := by
  generalize title.toList = title at titled ⊢
  cases title with
  | nil => cases titled
  | cons first rest =>
      simp only [isTitle, List.head?_cons, Option.any_some, Bool.and_eq_true, bne_iff_ne,
        List.all_eq_true] at titled
      obtain ⟨⟨noBlank, noQuote⟩, titleLine⟩ := titled
      exact .plain noBlank noQuote (List.forall_mem_append.mpr ⟨titleLine, oneLine⟩)

/-- A line says a title. -/
theorem wording_title_alone (title : String) (titled : isTitle title.toList = true) :
    Wording title.toList := by
  rw [← List.append_nil title.toList]
  exact wording_title title titled nofun

/-- Text after the same title is the same. -/
theorem eq_of_titled {title left right : String} (same : title ++ left = title ++ right) :
    left = right := by
  have characters := congrArg String.toList same
  simp only [String.toList_append] at characters
  exact String.toList_inj.mp (List.append_cancel_left characters)

/-- Text between the same quotes is the same. -/
theorem eq_of_quoted {left right : String}
    (same : "\"" ++ left ++ "\"" = "\"" ++ right ++ "\"") : left = right := by
  have characters := congrArg String.toList same
  simp only [String.toList_append] at characters
  exact String.toList_inj.mp (List.append_cancel_left (List.append_cancel_right characters))

/-- The two truth values are told apart. -/
theorem eq_of_truth : ∀ left right : Bool,
    (if left then "true" else "false") = (if right then "true" else "false") → left = right := by
  decide

/-- The two connectives are told apart. -/
theorem eq_of_title : ∀ left right : Connective, left.title = right.title → left = right := by
  rintro (_ | _) (_ | _) <;> decide

/-- A name is something a line can say. -/
theorem IsName.wording {name : String} (named : IsName name) : Wording name.toList := by
  obtain ⟨first, rest, shape, letter⟩ := named.starts
  have noFeed := named.ne '\n' rfl rfl
  rw [shape] at noFeed ⊢
  refine .plain ?_ ?_ noFeed
  · rintro rfl
    cases letter
  · rintro rfl
    cases letter

/-- A number without a sign is something a line can say. -/
theorem Number.Unsigned.wording {number : Number} (unsigned : number.Unsigned) :
    Wording number.display.toList := by
  obtain ⟨⟨first, rest, shape, digit⟩, noFeed⟩ := Number.display_shape unsigned
  rw [shape] at noFeed ⊢
  refine .plain ?_ ?_ noFeed
  · rintro rfl
    cases digit
  · rintro rfl
    cases digit

namespace Expression

/-- What the first line of an expression from a source says. -/
theorem wording_heading {expression : Expression} (legible : expression.Legible) :
    Wording expression.heading.toList := by
  cases expression with
  | identifier name => exact IsName.wording (legible _ List.mem_cons_self)
  | string content =>
      have inside : Lexeme.Content content.toList := legible _ List.mem_cons_self
      simpa [heading] using Wording.quoted inside
  | number value => exact Number.Unsigned.wording (legible _ List.mem_cons_self)
  | boolean value =>
      cases value
      · exact wording_title_alone "false" rfl
      · exact wording_title_alone "true" rfl
  | call name arguments =>
      have named : IsName name := legible _ List.mem_cons_self
      rw [heading, String.toList_append]
      exact wording_title "Call " rfl (named.ne '\n' rfl rfl)
  | operation connective left right =>
      rw [heading]
      cases connective
      · exact wording_title_alone "And" rfl
      · exact wording_title_alone "Or" rfl

/-- The sort of an expression's first line can be told from what it says. -/
theorem lineSort_heading {expression : Expression} (legible : expression.Legible) :
    LineSort.of expression.heading = expression.lineSort := by
  cases expression with
  | identifier name =>
      have named : IsName name := legible _ List.mem_cons_self
      obtain ⟨first, rest, shape, letter⟩ := named.starts
      have noQuote : first ≠ '"' := by
        rintro rfl
        cases letter
      have noDigit := not_isDigit_of_isAlpha letter
      have noTruth : ¬ (name = "true" ∨ name = "false") := by
        rintro (rfl | rfl) <;> exact named.notReserved (by decide)
      have noBlank : ' ' ∉ name.toList := fun member => named.ne ' ' rfl rfl ' ' member rfl
      simp only [heading, LineSort.of, lineSort, noTruth, noBlank, if_false]
      simp [shape, noDigit, noQuote]
  | string content => simp [heading, LineSort.of, lineSort]
  | number value =>
      have unsigned : value.Unsigned := legible _ List.mem_cons_self
      obtain ⟨⟨first, rest, shape, digit⟩, -⟩ := Number.display_shape unsigned
      have noQuote : first ≠ '"' := by
        rintro rfl
        cases digit
      simp [heading, LineSort.of, lineSort, shape, digit, noQuote]
  | boolean value => cases value <;> decide
  | call name arguments =>
      have noTruth : ¬ ("Call " ++ name = "true" ∨ "Call " ++ name = "false") := by
        rintro (same | same) <;> simpa using congrArg (·.toList.head?) same
      simp only [heading, LineSort.of, lineSort, noTruth, if_false]
      simp
  | operation connective left right =>
      rw [heading, lineSort]
      cases connective <;> decide

/-- The first lines of two expressions are alike only if their sorts are. -/
theorem lineSort_eq {left right : Expression} (legible : left.Legible)
    (otherLegible : right.Legible) (same : left.heading = right.heading) :
    left.lineSort = right.lineSort := by
  rw [← lineSort_heading legible, ← lineSort_heading otherLegible, same]

theorem outline_beginsAt (level : Nat) : BeginsAt level (outline level) :=
  fun expression => ⟨_, _, outline_eq level expression⟩

/-- The lines of several expressions are those of each in turn. -/
theorem outlineAll_eq (level : Nat) (expressions : List Expression) :
    outlineAll level expressions = expressions.flatMap (outline level) := by
  induction expressions with
  | nil => rfl
  | cons first others inductionHypothesis =>
      rw [outlineAll, inductionHypothesis, List.flatMap_cons]

/-- Expressions with nothing illegible in them are legible one by one. -/
theorem legible_of_mem {expressions : List Expression}
    (legible : ∀ atom ∈ atomsAll expressions, atom.Legible) :
    ∀ expression ∈ expressions, expression.Legible := by
  induction expressions with
  | nil => exact List.forall_mem_nil _
  | cons first others inductionHypothesis =>
      rw [atomsAll, List.forall_mem_append] at legible
      exact List.forall_mem_cons.mpr ⟨legible.1, inductionHypothesis legible.2⟩

mutual

/-- The lines of an expression from a source tell the expression. -/
theorem outline_tells (level : Nat) (left right : Expression) (legible : left.Legible)
    (otherLegible : right.Legible) : Tells level (outline level) left right := by
  intro rest others above otherAbove same
  simp only [outline_eq, List.cons_append, List.cons.injEq, OutlineLine.mk.injEq, true_and] at same
  obtain ⟨headings, tails⟩ := same
  have sorts := lineSort_eq legible otherLegible headings
  have begins := outline_beginsAt (level + 1)
  cases left with
  | identifier name =>
      cases right with
      | identifier otherName => exact ⟨congrArg _ headings, tails⟩
      | operation connective first second =>
          -- The operation is followed by a line under it, and the name is not.
          simp only [inner, List.nil_append, List.append_assoc] at tails
          exact absurd (tails ▸ above) (begins.not_above first _)
      | _ => cases sorts
  | string content =>
      cases right with
      | string otherContent => exact ⟨congrArg _ (eq_of_quoted headings), tails⟩
      | _ => cases sorts
  | number value =>
      cases right with
      | number otherValue =>
          have unsigned : value.Unsigned := legible _ List.mem_cons_self
          have otherUnsigned : otherValue.Unsigned := otherLegible _ List.mem_cons_self
          exact ⟨congrArg _ (Number.eq_of_display unsigned otherUnsigned headings), tails⟩
      | _ => cases sorts
  | boolean value =>
      cases right with
      | boolean otherValue => exact ⟨congrArg _ (eq_of_truth value otherValue headings), tails⟩
      | _ => cases sorts
  | call name arguments =>
      cases right with
      | call otherName otherArguments =>
          have named := List.forall_mem_cons.mp legible
          have otherNamed := List.forall_mem_cons.mp otherLegible
          simp only [inner, outlineAll_eq] at tails
          obtain ⟨rfl, ends⟩ := begins.append_inj (fun value member other otherMember =>
            outline_tells_of_mem (level + 1) arguments value member other
              (legible_of_mem named.2 value member)
              (legible_of_mem otherNamed.2 other otherMember)) above otherAbove tails
          exact ⟨congrArg (call · arguments) (eq_of_titled headings), ends⟩
      | _ => cases sorts
  | operation connective first second =>
      cases right with
      | identifier name =>
          simp only [inner, List.nil_append, List.append_assoc] at tails
          exact absurd (tails ▸ otherAbove) (begins.not_above first _)
      | operation otherConnective otherFirst otherSecond =>
          have sides := List.forall_mem_append.mp legible
          have otherSides := List.forall_mem_append.mp otherLegible
          simp only [inner, List.append_assoc] at tails
          obtain ⟨rfl, seconds⟩ := outline_tells (level + 1) first otherFirst sides.1 otherSides.1
            (begins.above (Nat.lt_succ_self _) second rest)
            (begins.above (Nat.lt_succ_self _) otherSecond others) tails
          obtain ⟨rfl, ends⟩ := outline_tells (level + 1) second otherSecond sides.2 otherSides.2
            (above.mono (Nat.le_succ _)) (otherAbove.mono (Nat.le_succ _)) seconds
          exact ⟨congrArg (operation · first second) (eq_of_title _ _ headings), ends⟩
      | _ => cases sorts

/-- The lines of each of several expressions from a source tell it. -/
theorem outline_tells_of_mem (level : Nat) (expressions : List Expression) :
    ∀ left ∈ expressions, ∀ right : Expression, left.Legible → right.Legible →
      Tells level (outline level) left right := by
  cases expressions with
  | nil => exact List.forall_mem_nil _
  | cons first others =>
      exact List.forall_mem_cons.mpr
        ⟨outline_tells level first, outline_tells_of_mem level others⟩

end

mutual

/-- Every line of an expression from a source says something. -/
theorem wording_outline (level : Nat) (expression : Expression) (legible : expression.Legible) :
    ∀ line ∈ expression.outline level, Wording line.content.toList := by
  rw [outline_eq, List.forall_mem_cons]
  refine ⟨wording_heading legible, ?_⟩
  cases expression with
  | call name arguments =>
      exact wording_outlineAll (level + 1) arguments (List.forall_mem_cons.mp legible).2
  | operation connective left right =>
      have sides := List.forall_mem_append.mp legible
      rw [inner, List.forall_mem_append]
      exact ⟨wording_outline (level + 1) left sides.1, wording_outline (level + 1) right sides.2⟩
  | _ => exact List.forall_mem_nil _

/-- Every line of several expressions from a source says something. -/
theorem wording_outlineAll (level : Nat) (expressions : List Expression)
    (legible : ∀ atom ∈ atomsAll expressions, atom.Legible) :
    ∀ line ∈ outlineAll level expressions, Wording line.content.toList := by
  cases expressions with
  | nil => exact List.forall_mem_nil _
  | cons first others =>
      rw [atomsAll, List.forall_mem_append] at legible
      rw [outlineAll, List.forall_mem_append]
      exact ⟨wording_outline level first legible.1, wording_outlineAll level others legible.2⟩

end

end Expression

namespace Statement

/-- A statement as a source can have it. -/
def Legible (statement : Statement) : Prop :=
  ∀ atom ∈ statement.atoms, atom.Legible

/-- What the first line of a statement says. -/
def heading : Statement → String
  | .assignment target _ => "Assign " ++ target
  | .call name _ => "Call " ++ name
  | .block kind _ _ => kind.opening

/-- The lines of a statement after its first, for the level of that one. -/
def inner (level : Nat) : Statement → List OutlineLine
  | .assignment _ value => value.outline (level + 1)
  | .call _ arguments => Expression.outlineAll (level + 1) arguments
  | .block kind condition body =>
    condition.outline (level + 1) ++ ⟨level, kind.division⟩ :: outlineAll (level + 1) body

/-- A statement has one line and then others. -/
theorem outline_eq (level : Nat) (statement : Statement) :
    statement.outline level = ⟨level, statement.heading⟩ :: statement.inner level := by
  cases statement <;> simp only [outline, heading, inner]

/-- The first letter of a statement's first line, which tells its sort. -/
def initial : Statement → Char
  | .assignment _ _ => 'A'
  | .call _ _ => 'C'
  | .block .conditional _ _ => 'I'
  | .block .loop _ _ => 'W'

/-- A statement's first line begins with the letter of its sort. -/
theorem head?_heading (statement : Statement) :
    statement.heading.toList.head? = some statement.initial := by
  cases statement with
  | assignment target value => simp [heading, initial]
  | call name arguments => simp [heading, initial]
  | block kind condition body => cases kind <;> simp [heading, initial, BlockKind.opening]

/-- The first lines of two statements are alike only if their sorts are. -/
theorem initial_eq {left right : Statement} (same : left.heading = right.heading) :
    left.initial = right.initial := by
  have letters := head?_heading left
  rw [same, head?_heading right] at letters
  exact (Option.some.inj letters).symm

theorem outline_beginsAt (level : Nat) : BeginsAt level (outline level) :=
  fun statement => ⟨_, _, outline_eq level statement⟩

/-- The lines of several statements are those of each in turn. -/
theorem outlineAll_eq (level : Nat) (statements : List Statement) :
    outlineAll level statements = statements.flatMap (outline level) := by
  induction statements with
  | nil => rfl
  | cons first others inductionHypothesis =>
      rw [outlineAll, inductionHypothesis, List.flatMap_cons]

/-- Statements with nothing illegible in them are legible one by one. -/
theorem legible_of_mem {statements : List Statement}
    (legible : ∀ atom ∈ atomsAll statements, atom.Legible) :
    ∀ statement ∈ statements, statement.Legible := by
  induction statements with
  | nil => exact List.forall_mem_nil _
  | cons first others inductionHypothesis =>
      rw [atomsAll, List.forall_mem_append] at legible
      exact List.forall_mem_cons.mpr ⟨legible.1, inductionHypothesis legible.2⟩

mutual

/-- The lines of a statement from a source tell the statement. -/
theorem outline_tells (level : Nat) (left right : Statement) (legible : left.Legible)
    (otherLegible : right.Legible) : Tells level (outline level) left right := by
  intro rest others above otherAbove same
  simp only [outline_eq, List.cons_append, List.cons.injEq, OutlineLine.mk.injEq, true_and] at same
  obtain ⟨headings, tails⟩ := same
  have sorts := initial_eq headings
  cases left with
  | assignment target value =>
      cases right with
      | assignment otherTarget otherValue =>
          have named := List.forall_mem_cons.mp legible
          have otherNamed := List.forall_mem_cons.mp otherLegible
          obtain ⟨rfl, ends⟩ := Expression.outline_tells (level + 1) value otherValue named.2
            otherNamed.2 (above.mono (Nat.le_succ _)) (otherAbove.mono (Nat.le_succ _)) tails
          exact ⟨congrArg (assignment · value) (eq_of_titled headings), ends⟩
      | call otherName otherArguments => cases sorts
      | block otherKind otherCondition otherBody => cases otherKind <;> cases sorts
  | call name arguments =>
      cases right with
      | assignment otherTarget otherValue => cases sorts
      | call otherName otherArguments =>
          -- A call has the same lines as a statement and as an expression.
          have lines : (Expression.call name arguments).outline level ++ rest =
              (Expression.call otherName otherArguments).outline level ++ others := by
            rw [Expression.outline_eq, Expression.outline_eq]
            exact congrArg₂ (⟨level, ·⟩ :: ·) headings tails
          obtain ⟨⟨⟩, ends⟩ := Expression.outline_tells level (.call name arguments)
            (.call otherName otherArguments) legible otherLegible above otherAbove lines
          exact ⟨rfl, ends⟩
      | block otherKind otherCondition otherBody => cases otherKind <;> cases sorts
  | block kind condition body =>
      cases right with
      | assignment otherTarget otherValue => cases kind <;> cases sorts
      | call otherName otherArguments => cases kind <;> cases sorts
      | block otherKind otherCondition otherBody =>
          obtain rfl : kind = otherKind := by
            cases kind <;> cases otherKind <;> first | rfl | cases sorts
          have parts := List.forall_mem_append.mp legible
          have otherParts := List.forall_mem_append.mp otherLegible
          -- The line between the condition and the body ends the condition.
          have division : ∀ lines, Above (level + 2) (⟨level, kind.division⟩ :: lines) := by
            rintro lines line ⟨⟩
            exact Nat.lt_succ_of_lt (Nat.lt_succ_self level)
          simp only [inner, List.append_assoc, List.cons_append] at tails
          obtain ⟨rfl, bodies⟩ := Expression.outline_tells (level + 1) condition otherCondition
            parts.1 otherParts.1 (division _) (division _) tails
          simp only [List.cons.injEq, true_and, outlineAll_eq] at bodies
          obtain ⟨rfl, ends⟩ := (outline_beginsAt (level + 1)).append_inj
            (fun statement member other otherMember =>
              outline_tells_of_mem (level + 1) body statement member other
                (legible_of_mem parts.2 statement member)
                (legible_of_mem otherParts.2 other otherMember)) above otherAbove bodies
          exact ⟨rfl, ends⟩

/-- The lines of each of several statements from a source tell it. -/
theorem outline_tells_of_mem (level : Nat) (statements : List Statement) :
    ∀ left ∈ statements, ∀ right : Statement, left.Legible → right.Legible →
      Tells level (outline level) left right := by
  cases statements with
  | nil => exact List.forall_mem_nil _
  | cons first others =>
      exact List.forall_mem_cons.mpr
        ⟨outline_tells level first, outline_tells_of_mem level others⟩

end

/-- What the first line of a statement from a source says. -/
theorem wording_heading {statement : Statement} (legible : statement.Legible) :
    Wording statement.heading.toList := by
  cases statement with
  | assignment target value =>
      have named : IsName target := legible _ List.mem_cons_self
      rw [heading, String.toList_append]
      exact wording_title "Assign " rfl (named.ne '\n' rfl rfl)
  | call name arguments =>
      have named : IsName name := legible _ List.mem_cons_self
      rw [heading, String.toList_append]
      exact wording_title "Call " rfl (named.ne '\n' rfl rfl)
  | block kind condition body =>
      rw [heading]
      cases kind
      · exact wording_title_alone "If" rfl
      · exact wording_title_alone "While" rfl

mutual

/-- Every line of a statement from a source says something. -/
theorem wording_outline (level : Nat) (statement : Statement) (legible : statement.Legible) :
    ∀ line ∈ statement.outline level, Wording line.content.toList := by
  rw [outline_eq, List.forall_mem_cons]
  refine ⟨wording_heading legible, ?_⟩
  cases statement with
  | assignment target value =>
      exact Expression.wording_outline (level + 1) value (List.forall_mem_cons.mp legible).2
  | call name arguments =>
      exact Expression.wording_outlineAll (level + 1) arguments (List.forall_mem_cons.mp legible).2
  | block kind condition body =>
      have parts := List.forall_mem_append.mp legible
      rw [inner, List.forall_mem_append, List.forall_mem_cons]
      refine ⟨Expression.wording_outline (level + 1) condition parts.1, ?_,
        wording_outlineAll (level + 1) body parts.2⟩
      cases kind
      · exact wording_title_alone "Then" rfl
      · exact wording_title_alone "Do" rfl

/-- Every line of several statements from a source says something. -/
theorem wording_outlineAll (level : Nat) (statements : List Statement)
    (legible : ∀ atom ∈ atomsAll statements, atom.Legible) :
    ∀ line ∈ outlineAll level statements, Wording line.content.toList := by
  cases statements with
  | nil => exact List.forall_mem_nil _
  | cons first others =>
      rw [atomsAll, List.forall_mem_append] at legible
      rw [outlineAll, List.forall_mem_append]
      exact ⟨wording_outline level first legible.1, wording_outlineAll level others legible.2⟩

end

/-- The outline of a program from a source tells the program. -/
theorem eq_of_outlineAll {left right : List Statement}
    (legible : ∀ atom ∈ atomsAll left, atom.Legible)
    (otherLegible : ∀ atom ∈ atomsAll right, atom.Legible)
    (same : join (outlineAll 0 left) = join (outlineAll 0 right)) : left = right := by
  have lines := join_injective (wording_outlineAll 0 left legible)
    (wording_outlineAll 0 right otherLegible) same
  rw [outlineAll_eq, outlineAll_eq, ← List.append_nil (left.flatMap _),
    ← List.append_nil (right.flatMap _)] at lines
  refine ((outline_beginsAt 0).append_inj ?_ (above_nil 0) (above_nil 0) lines).1
  intro statement member other otherMember
  exact outline_tells 0 statement other (legible_of_mem legible statement member)
    (legible_of_mem otherLegible other otherMember)

end Statement

/-- What a program from a source has in it is legible. -/
theorem legible_of_analyze {source : String} {program : List Statement}
    (read : (analyze source).outcome = .ok program) :
    ∀ atom ∈ Statement.atomsAll program, atom.Legible := by
  obtain ⟨tokens, munched, derives, levels⟩ := outcome_analyze_eq_ok_iff.mp read
  have readable := readable_of_derives munched derives levels
  intro atom member
  cases atom with
  | name name => exact readable.names name member
  | string content => exact readable.strings content member
  | number value => exact Number.unsigned_of_munched munched (derives.token_mem _ member)

/-- Two sources whose programs have the same outline have the same program. -/
theorem analyze_outline_unambiguous {first second : String} {left right : List Statement}
    (read : (analyze first).outcome = .ok left) (otherRead : (analyze second).outcome = .ok right)
    (same : join (Statement.outlineAll 0 left) = join (Statement.outlineAll 0 right)) :
    left = right :=
  Statement.eq_of_outlineAll (legible_of_analyze read) (legible_of_analyze otherRead) same

/-- A name like the title of a connective, a string of two lines and a float, in two
layouts. -/
theorem analyze_outline_unambiguous_two_layouts :
    ∃ left right, (analyze "f(And and x, \"a\n    And\", 0.10)").outcome = .ok left ∧
      (analyze "f(And and x,\"a\n    And\",0.1) # again").outcome = .ok right ∧ left = right := by
  have read : (analyze "f(And and x, \"a\n    And\", 0.10)").outcome.toOption = some [.call "f"
      [.operation .and (.identifier "And") (.identifier "x"), .string "a\n    And",
        .number (.float (.finite false ⟨4591870180066957722, by decide⟩))]] := by
    decide +kernel
  have otherRead : (analyze "f(And and x,\"a\n    And\",0.1) # again").outcome.toOption = some
      [.call "f" [.operation .and (.identifier "And") (.identifier "x"), .string "a\n    And",
        .number (.float (.finite false ⟨4591870180066957722, by decide⟩))]] := by
    decide +kernel
  rw [toOption_eq_some_iff] at read otherRead
  exact ⟨_, _, read, otherRead, analyze_outline_unambiguous read otherRead rfl⟩

end ScriptFront
