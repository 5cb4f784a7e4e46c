import ScriptFront.Program.Json
import ScriptFront.Proofs.Json.Spacing
import ScriptFront.Proofs.Number.Text
import ScriptFront.Proofs.Program.Printing

/-!
# Programs from JSON text

The JSON text of a program tells the program, and that of a token tells the token, if all
floats in them are finite. The program may be any tree: names and strings are any texts, and
the left side of an operation is any expression. Other floats are out of reach, since all of
them are written as null.

Members name what they hold, except for the value of a token and for numbers: there a text is
told from a number by its quotes, and an integer from a float by its digits.
-/

namespace ScriptFront

namespace Number

/-- A number that JSON has a numeral for. -/
inductive IsFinite : Number → Prop where
  | integer (value : Int64) : IsFinite (.integer value)
  | float (negative : Bool) (magnitude : Binary64.Magnitude) :
      IsFinite (.float (.finite negative magnitude))

instance : DecidablePred IsFinite
  | .integer value => .isTrue (.integer value)
  | .float (.finite negative magnitude) => .isTrue (.float negative magnitude)
  | .float .notANumber => .isFalse nofun
  | .float (.infinite _) => .isFalse nofun

/-- The document of a finite number is the numeral that is written for it. -/
theorem IsFinite.writes {number : Number} (finite : number.IsFinite) :
    ∃ text, Writes jsonFormat number text ∧ number.json = .numeral text := by
  cases finite with
  | integer value => exact ⟨_, .integer value, rfl⟩
  | float negative magnitude => exact ⟨_, .float negative magnitude, rfl⟩

/-- The document of a finite number tells the number. -/
theorem IsFinite.eq_of_json {left right : Number} (finite : left.IsFinite)
    (otherFinite : right.IsFinite) (same : left.json = right.json) : left = right := by
  obtain ⟨text, writes, document⟩ := finite.writes
  obtain ⟨otherText, otherWrites, otherDocument⟩ := otherFinite.writes
  rw [document, otherDocument] at same
  obtain rfl : text = otherText := Json.numeral.inj same
  exact writes.eq_of_text otherWrites

/-- What begins with a digit can be a numeral, also with a sign before it. -/
theorem isNumeral_signed (negative : Prop) [Decidable negative] {text : List Char}
    (starts : ∃ first rest, text = first :: rest ∧ first.isDigit = true)
    (inside : ∀ character ∈ text, Json.isNumeralCharacter character = true) :
    Json.IsNumeral (String.ofList ((if negative then ['-'] else []) ++ text)) := by
  obtain ⟨first, rest, rfl, digit⟩ := starts
  by_cases sign : negative
  · refine ⟨⟨'-', first :: rest, by simp [sign], .inr rfl⟩, ?_⟩
    simpa [sign, Json.isNumeralCharacter] using inside
  · exact ⟨⟨first, rest, by simp [sign], .inl digit⟩, by simpa [sign] using inside⟩

/-- The characters of a written float are those of numerals. -/
theorem isNumeralCharacter_of_written {text : List Char} {decimal : Decimal}
    (written : FloatFormat.Written text decimal) :
    ∀ character ∈ text, Json.isNumeralCharacter character = true := by
  intro character member
  by_contra strange
  simp only [Json.isNumeralCharacter, Bool.or_eq_true, decide_eq_true_eq, not_or,
    Bool.not_eq_true] at strange
  obtain ⟨noDigit, noMark⟩ := strange
  refine written.ne noDigit (fun mark => noMark ?_) character member rfl
  simp only [List.mem_cons, List.not_mem_nil, or_false] at mark ⊢
  tauto

/-- What is written for a number can be a numeral. -/
theorem Writes.isNumeral {format : FloatFormat} {number : Number} {text : String}
    (writes : Writes format number text) : Json.IsNumeral text := by
  cases writes with
  | integer value =>
      refine isNumeral_signed _ (toDigits_starts _) fun character member => ?_
      exact Bool.or_eq_true_iff.mpr (.inl (areDigits_toDigits _ character member))
  | float negative magnitude =>
      obtain ⟨_, written, -⟩ := format.written_decimalText
        (Decimal.shortest format.tie magnitude.rank)
      exact isNumeral_signed _ written.starts (isNumeralCharacter_of_written written)

theorem IsFinite.legible {number : Number} (finite : number.IsFinite) : number.json.Legible := by
  obtain ⟨text, writes, document⟩ := finite.writes
  rw [document]
  exact .numeral writes.isNumeral

end Number

/-- An atom that is no float beyond the finite ones. -/
def Atom.IsFinite : Atom → Prop
  | .name _ => True
  | .string _ => True
  | .number value => value.IsFinite

instance : DecidablePred Atom.IsFinite
  | .name _ => .isTrue trivial
  | .string _ => .isTrue trivial
  | .number value => inferInstanceAs (Decidable value.IsFinite)

namespace Json

/-- An object with one member. -/
theorem Legible.one {document : Json} (name : String) (legible : document.Legible) :
    Legible (.object [(name, document)]) :=
  .object (List.forall_mem_singleton.mpr legible)

/-- An object with two members. -/
theorem Legible.two {first second : Json} (name other : String) (legible : first.Legible)
    (otherLegible : second.Legible) : Legible (.object [(name, first), (other, second)]) :=
  .object (List.forall_mem_cons.mpr ⟨legible, List.forall_mem_singleton.mpr otherLegible⟩)

end Json

theorem legible_callJson (name : String) {arguments : List Json}
    (legible : ∀ item ∈ arguments, item.Legible) : (callJson name arguments).Legible :=
  .one _ (.two _ _ (.string name) (.array legible))

theorem callJson_inj {name other : String} {arguments others : List Json}
    (same : callJson name arguments = callJson other others) :
    name = other ∧ arguments = others := by
  simpa [callJson] using same

/-- The kind of token tells the connective. -/
theorem Connective.kind_injective {left right : Connective} (same : left.kind = right.kind) :
    left = right := by
  have found := ofKind?_eq_some_iff.mpr same
  rw [ofKind?_eq_some_iff.mpr rfl] at found
  exact Option.some.inj found

namespace Expression

mutual

/-- The document of an expression with finite numbers is legible. -/
theorem legible_json (expression : Expression)
    (finite : ∀ atom ∈ expression.atoms, atom.IsFinite) : expression.json.Legible := by
  cases expression with
  | identifier name => exact .one _ (.string name)
  | string content => exact .one _ (.string content)
  | number value => exact .one _ (finite (.number value) List.mem_cons_self).legible
  | boolean value => exact .one _ (.boolean value)
  | call name arguments =>
      exact legible_callJson name
        (legible_jsonAll arguments (List.forall_mem_cons.mp finite).2)
  | operation connective left right =>
      obtain ⟨leftFinite, rightFinite⟩ := List.forall_mem_append.mp finite
      refine .one _ (.object (List.forall_mem_cons.mpr ⟨.string _, List.forall_mem_cons.mpr
        ⟨legible_json left leftFinite, List.forall_mem_singleton.mpr ?_⟩⟩))
      exact legible_json right rightFinite

/-- The documents of expressions with finite numbers are legible. -/
theorem legible_jsonAll (values : List Expression)
    (finite : ∀ atom ∈ atomsAll values, atom.IsFinite) :
    ∀ document ∈ jsonAll values, document.Legible := by
  cases values with
  | nil => exact List.forall_mem_nil _
  | cons first rest =>
      obtain ⟨firstFinite, restFinite⟩ := List.forall_mem_append.mp finite
      exact List.forall_mem_cons.mpr
        ⟨legible_json first firstFinite, legible_jsonAll rest restFinite⟩

end

mutual

/-- The document of an expression tells the expression. -/
theorem eq_of_json (left right : Expression) (finite : ∀ atom ∈ left.atoms, atom.IsFinite)
    (otherFinite : ∀ atom ∈ right.atoms, atom.IsFinite) (same : left.json = right.json) :
    left = right := by
  cases left with
  | identifier name =>
      cases right with
      | identifier other => simpa [json] using same
      | _ => simp [json, callJson] at same
  | string content =>
      cases right with
      | string other => simpa [json] using same
      | _ => simp [json, callJson] at same
  | number value =>
      cases right with
      | number other =>
          have documents : value.json = other.json := by simpa [json] using same
          rw [(finite (.number value) List.mem_cons_self).eq_of_json
            (otherFinite (.number other) List.mem_cons_self) documents]
      | _ => simp [json, callJson] at same
  | boolean value =>
      cases right with
      | boolean other => simpa [json] using same
      | _ => simp [json, callJson] at same
  | call name arguments =>
      cases right with
      | call other others =>
          obtain ⟨rfl, documents⟩ := callJson_inj same
          rw [eq_of_jsonAll arguments others (List.forall_mem_cons.mp finite).2
            (List.forall_mem_cons.mp otherFinite).2 documents]
      | _ => simp [json, callJson] at same
  | operation connective first second =>
      cases right with
      | operation other otherFirst otherSecond =>
          obtain ⟨names, firsts, seconds⟩ : connective.kind.name = other.kind.name ∧
              first.json = otherFirst.json ∧ second.json = otherSecond.json := by
            simpa [json] using same
          obtain ⟨leftFinite, rightFinite⟩ := List.forall_mem_append.mp finite
          obtain ⟨otherLeftFinite, otherRightFinite⟩ := List.forall_mem_append.mp otherFinite
          rw [Connective.kind_injective (Kind.name_injective names),
            eq_of_json first otherFirst leftFinite otherLeftFinite firsts,
            eq_of_json second otherSecond rightFinite otherRightFinite seconds]
      | _ => simp [json, callJson] at same

/-- The documents of expressions tell the expressions. -/
theorem eq_of_jsonAll (left right : List Expression)
    (finite : ∀ atom ∈ atomsAll left, atom.IsFinite)
    (otherFinite : ∀ atom ∈ atomsAll right, atom.IsFinite)
    (same : jsonAll left = jsonAll right) : left = right := by
  cases left with
  | nil =>
      cases right with
      | nil => rfl
      | cons other others => cases same
  | cons first rest =>
      cases right with
      | nil => cases same
      | cons other others =>
          obtain ⟨documents, tails⟩ := List.cons.inj same
          obtain ⟨firstFinite, restFinite⟩ := List.forall_mem_append.mp finite
          obtain ⟨otherFirstFinite, otherRestFinite⟩ := List.forall_mem_append.mp otherFinite
          rw [eq_of_json first other firstFinite otherFirstFinite documents,
            eq_of_jsonAll rest others restFinite otherRestFinite tails]

end

end Expression

/-- The name of a block's member tells the kind of the block. -/
theorem BlockKind.memberName_injective : Function.Injective BlockKind.memberName := by
  intro left right names
  revert names
  cases left <;> cases right <;> decide

namespace Statement

mutual

/-- The document of a statement with finite numbers is legible. -/
theorem legible_json (statement : Statement)
    (finite : ∀ atom ∈ statement.atoms, atom.IsFinite) : statement.json.Legible := by
  cases statement with
  | assignment target value =>
      exact .one _ (.two _ _ (.string target)
        (value.legible_json (List.forall_mem_cons.mp finite).2))
  | call name arguments =>
      exact legible_callJson name
        (Expression.legible_jsonAll arguments (List.forall_mem_cons.mp finite).2)
  | block kind condition body =>
      obtain ⟨testFinite, innerFinite⟩ := List.forall_mem_append.mp finite
      exact .one _ (.two _ _ (condition.legible_json testFinite)
        (.array (legible_jsonAll body innerFinite)))

/-- The documents of statements with finite numbers are legible. -/
theorem legible_jsonAll (statements : List Statement)
    (finite : ∀ atom ∈ atomsAll statements, atom.IsFinite) :
    ∀ document ∈ jsonAll statements, document.Legible := by
  cases statements with
  | nil => exact List.forall_mem_nil _
  | cons first rest =>
      obtain ⟨firstFinite, restFinite⟩ := List.forall_mem_append.mp finite
      exact List.forall_mem_cons.mpr
        ⟨legible_json first firstFinite, legible_jsonAll rest restFinite⟩

end

mutual

/-- The document of a statement tells the statement. -/
theorem eq_of_json (left right : Statement) (finite : ∀ atom ∈ left.atoms, atom.IsFinite)
    (otherFinite : ∀ atom ∈ right.atoms, atom.IsFinite) (same : left.json = right.json) :
    left = right := by
  cases left with
  | assignment target value =>
      cases right with
      | assignment other assigned =>
          obtain ⟨rfl, documents⟩ : target = other ∧ value.json = assigned.json := by
            simpa [json] using same
          rw [value.eq_of_json assigned (List.forall_mem_cons.mp finite).2
            (List.forall_mem_cons.mp otherFinite).2 documents]
      | call other others => simp [json, callJson] at same
      | block kind condition body => cases kind <;> simp [json, BlockKind.memberName] at same
  | call name arguments =>
      cases right with
      | assignment other assigned => simp [json, callJson] at same
      | call other others =>
          obtain ⟨rfl, documents⟩ := callJson_inj same
          rw [Expression.eq_of_jsonAll arguments others (List.forall_mem_cons.mp finite).2
            (List.forall_mem_cons.mp otherFinite).2 documents]
      | block kind condition body =>
          cases kind <;> simp [json, callJson, BlockKind.memberName] at same
  | block kind condition body =>
      cases right with
      | assignment other assigned => cases kind <;> simp [json, BlockKind.memberName] at same
      | call other others => cases kind <;> simp [json, callJson, BlockKind.memberName] at same
      | block other test inner =>
          obtain ⟨names, conditions, bodies⟩ : kind.memberName = other.memberName ∧
              condition.json = test.json ∧ jsonAll body = jsonAll inner := by
            simpa [json] using same
          obtain ⟨testFinite, innerFinite⟩ := List.forall_mem_append.mp finite
          obtain ⟨otherTestFinite, otherInnerFinite⟩ := List.forall_mem_append.mp otherFinite
          rw [BlockKind.memberName_injective names,
            condition.eq_of_json test testFinite otherTestFinite conditions,
            eq_of_jsonAll body inner innerFinite otherInnerFinite bodies]

/-- The documents of statements tell the statements. -/
theorem eq_of_jsonAll (left right : List Statement)
    (finite : ∀ atom ∈ atomsAll left, atom.IsFinite)
    (otherFinite : ∀ atom ∈ atomsAll right, atom.IsFinite)
    (same : jsonAll left = jsonAll right) : left = right := by
  cases left with
  | nil =>
      cases right with
      | nil => rfl
      | cons other others => cases same
  | cons first rest =>
      cases right with
      | nil => cases same
      | cons other others =>
          obtain ⟨documents, tails⟩ := List.cons.inj same
          obtain ⟨firstFinite, restFinite⟩ := List.forall_mem_append.mp finite
          obtain ⟨otherFirstFinite, otherRestFinite⟩ := List.forall_mem_append.mp otherFinite
          rw [eq_of_json first other firstFinite otherFirstFinite documents,
            eq_of_jsonAll rest others restFinite otherRestFinite tails]

end

end Statement

/-- A value that is no float beyond the finite ones. -/
def Value.IsFinite : Value → Prop
  | .text _ => True
  | .number amount => amount.IsFinite

instance : DecidablePred Value.IsFinite
  | .text _ => .isTrue trivial
  | .number amount => inferInstanceAs (Decidable amount.IsFinite)

namespace Value

theorem IsFinite.legible {value : Value} (finite : value.IsFinite) : value.json.Legible := by
  cases value with
  | text content => exact .string content
  | number amount => exact Number.IsFinite.legible finite

/-- The document of a value tells the value: a text is a string, a number is a numeral. -/
theorem IsFinite.eq_of_json {left right : Value} (finite : left.IsFinite)
    (otherFinite : right.IsFinite) (same : left.json = right.json) : left = right := by
  cases left with
  | text content =>
      cases right with
      | text other => rw [Json.string.inj same]
      | number other =>
          obtain ⟨text, -, numeral⟩ := Number.IsFinite.writes otherFinite
          cases same.trans numeral
  | number amount =>
      cases right with
      | text other =>
          obtain ⟨text, -, numeral⟩ := Number.IsFinite.writes finite
          cases same.symm.trans numeral
      | number other => rw [Number.IsFinite.eq_of_json finite otherFinite same]

end Value

namespace Token

theorem legible_json (token : Token) (finite : token.value.IsFinite) : token.json.Legible :=
  .two _ _ (.string token.kind.name) finite.legible

/-- The document of a token tells the token. -/
theorem eq_of_json {left right : Token} (finite : left.value.IsFinite)
    (otherFinite : right.value.IsFinite) (same : left.json = right.json) : left = right := by
  obtain ⟨kind, value⟩ := left
  obtain ⟨otherKind, otherValue⟩ := right
  obtain ⟨names, documents⟩ : kind.name = otherKind.name ∧ value.json = otherValue.json := by
    simpa [json] using same
  obtain rfl := Kind.name_injective names
  obtain rfl : value = otherValue := finite.eq_of_json otherFinite documents
  rfl

end Token

/-- The JSON text tells what it is written for: the pretty text of statements and of
expressions, and the compact text of a token, if all floats are finite. -/
theorem json_lossless :
    (∀ left right : List Statement,
      (∀ atom ∈ Statement.atomsAll left, atom.IsFinite) →
      (∀ atom ∈ Statement.atomsAll right, atom.IsFinite) →
      (Json.array (Statement.jsonAll left)).pretty 0 =
        (Json.array (Statement.jsonAll right)).pretty 0 → left = right) ∧
    (∀ left right : List Expression,
      (∀ atom ∈ Expression.atomsAll left, atom.IsFinite) →
      (∀ atom ∈ Expression.atomsAll right, atom.IsFinite) →
      (Json.array (Expression.jsonAll left)).pretty 0 =
        (Json.array (Expression.jsonAll right)).pretty 0 → left = right) ∧
    (∀ left right : Token, left.value.IsFinite → right.value.IsFinite →
      left.json.compact = right.json.compact → left = right) := by
  refine ⟨fun left right finite otherFinite same => ?_,
    fun left right finite otherFinite same => ?_,
    fun left right finite otherFinite same => ?_⟩
  · have documents := Json.eq_of_pretty (.array (Statement.legible_jsonAll left finite))
      (.array (Statement.legible_jsonAll right otherFinite)) same
    exact Statement.eq_of_jsonAll left right finite otherFinite (Json.array.inj documents)
  · have documents := Json.eq_of_pretty (.array (Expression.legible_jsonAll left finite))
      (.array (Expression.legible_jsonAll right otherFinite)) same
    exact Expression.eq_of_jsonAll left right finite otherFinite (Json.array.inj documents)
  · exact Token.eq_of_json finite otherFinite
      (Json.eq_of_compact (left.legible_json finite) (right.legible_json otherFinite) same)

/-- A loop with a float on the left side of its condition, and a string and a name with
escapes. -/
def floatLoop (amount : Binary64) : List Statement :=
  [.block .loop (.operation .or (.number (.float amount)) (.string "\\\"")) [.call "1\n" []]]

/-- Two decimals of one float give one program, and one text. The two zeros have two texts, and
so have the digit one as a text and as a number. -/
theorem json_lossless_lookalikes :
    floatLoop (.ofDecimal false 1 (-1)) =
        floatLoop (.ofDecimal false 10000000000000001 (-17)) ∧
      (Json.array (Expression.jsonAll [.number (.float (.ofDecimal true 0 0))])).pretty 0 ≠
        (Json.array (Expression.jsonAll [.number (.float (.ofDecimal false 0 0))])).pretty 0 ∧
      (Token.mk .number (.text "1")).json.compact ≠
        (Token.mk .number (.number (.integer 1))).json.compact := by
  refine ⟨json_lossless.1 _ _ ?_ ?_ ?_, fun same => ?_, fun same => ?_⟩
  · decide +kernel
  · decide +kernel
  · decide +kernel
  · have zeros := json_lossless.2.1 _ _ (by decide +kernel) (by decide +kernel) same
    revert zeros
    decide +kernel
  · have ones := json_lossless.2.2 _ _ (by decide) (by decide) same
    revert ones
    decide

end ScriptFront
