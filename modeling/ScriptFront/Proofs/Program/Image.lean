import Mathlib.Algebra.Group.Nat.Defs
import ScriptFront.Analysis
import ScriptFront.Proofs.Program.Printing

/-!
# Which programs have a source

A program without floats is what some source says exactly if its names, strings and
integers can be written, a name stands left of every connective, and no statement
nests too deep. A program with floats that is read from a source meets the same
conditions.
-/

namespace ScriptFront

open Grammar

/-- What every program that is read from a source has in common. -/
structure Readable (program : List Statement) : Prop where
  names : ∀ name, Atom.name name ∈ Statement.atomsAll program → IsName name
  strings : ∀ content, Atom.string content ∈ Statement.atomsAll program →
    Lexeme.Content content.toList
  integers : ∀ value, Atom.number (.integer value) ∈ Statement.atomsAll program →
    0 ≤ value.toInt
  lefts : ∀ left ∈ Statement.leftsAll program, ∃ name, left = .identifier name
  levels : ∀ statement ∈ program, statement.level ≤ 128

/-- Every number of the program is an integer. -/
def Integral (program : List Statement) : Prop :=
  ∀ value, Atom.number value ∈ Statement.atomsAll program → ∃ integer, value = .integer integer

/-- A source is read as a program exactly if it gives tokens that derive the program,
which does not nest too deep. -/
theorem outcome_analyze_eq_ok_iff {source : String} {program : List Statement} :
    (analyze source).outcome = .ok program ↔
      ∃ tokens, Lexeme.Munched source.toList tokens ∧
        Derives (.statements program) tokens ∧ Statement.levelAll program ≤ 128 := by
  have tokenized : ∀ tokens, ((tokenize source).mapError Diagnosis.lexical).outcome = .ok tokens ↔
      Lexeme.Munched source.toList tokens := by
    intro tokens
    rw [← Lexeme.outcome_tokenizeWith_iff_munched Lexeme.isWordCharacter_agreesOnAscii]
    exact mapError_eq_ok_iff
  have parsed : ∀ tokens, ((parse tokens).mapError Diagnosis.structural).outcome = .ok program ↔
      Derives (.statements program) tokens ∧ Statement.levelAll program ≤ 128 := by
    intro tokens
    rw [← outcome_parseWithin_eq_ok_iff]
    exact mapError_eq_ok_iff
  simp only [analyze, Traced.outcome_bind, bind_eq_ok_iff, tokenized, parsed]

/-- A program that is derived from the tokens of a source is readable: its names,
strings and numbers stand among the tokens, and those are known. -/
theorem readable_of_derives {source : List Char} {tokens : List Token}
    {program : List Statement} (munched : Lexeme.Munched source tokens)
    (derives : Derives (.statements program) tokens)
    (levels : Statement.levelAll program ≤ 128) : Readable program := by
  have known : ∀ atom ∈ Statement.atomsAll program, atom.token.WellFormed ∨
      ∃ value, atom.token = ⟨.number, .number (.float value)⟩ := by
    intro atom member
    exact Lexeme.wellFormed_of_munched munched _ (derives.token_mem atom member)
  refine ⟨?_, ?_, ?_, derives.lefts_named, Statement.levelAll_le_iff.mp levels⟩
  · intro name member
    rcases known _ member with wellFormed | ⟨_, float⟩
    · cases wellFormed with
      | identifier named => exact named
      | fixed spelled => cases spelled
    · cases float
  · intro content member
    rcases known _ member with wellFormed | ⟨_, float⟩
    · cases wellFormed with
      | string inside => exact inside
      | fixed spelled => cases spelled
    · cases float
  · intro value member
    rcases known _ member with wellFormed | ⟨_, float⟩
    · cases wellFormed with
      | integer nonnegative => exact nonnegative
    · cases float

/-- The tokens of the names, strings and integers of a readable program can be written. -/
theorem Readable.wellFormed {program : List Statement} (readable : Readable program)
    (integral : Integral program) :
    ∀ atom ∈ Statement.atomsAll program, atom.token.WellFormed := by
  intro atom member
  cases atom with
  | name name => exact .identifier (readable.names name member)
  | string content => exact .string (readable.strings content member)
  | number value =>
      obtain ⟨integer, rfl⟩ := integral value member
      exact .integer (readable.integers integer member)

/-- A program without floats has a source exactly if it is readable, and every program
that has a source is readable, floats or not. -/
theorem analyze_image :
    (∀ program, Integral program →
      ((∃ source, (analyze source).outcome = .ok program) ↔ Readable program)) ∧
    (∀ source program, (analyze source).outcome = .ok program → Readable program) := by
  have necessary : ∀ source program, (analyze source).outcome = .ok program →
      Readable program := by
    intro source program analyzed
    obtain ⟨tokens, munched, derives, levels⟩ := outcome_analyze_eq_ok_iff.mp analyzed
    exact readable_of_derives munched derives levels
  refine ⟨?_, necessary⟩
  intro program integral
  constructor
  · rintro ⟨source, analyzed⟩
    exact necessary source program analyzed
  · intro readable
    -- The program printed as tokens, and these with a space between them.
    refine ⟨String.ofList (Token.spaced (Statement.tokensAll program)), ?_⟩
    refine outcome_analyze_eq_ok_iff.mpr ⟨Statement.tokensAll program, ?_, ?_, ?_⟩
    · rw [String.toList_ofList]
      exact Lexeme.munched_spaced
        (Statement.wellFormed_tokensAll program (readable.wellFormed integral))
    · exact Statement.derives_tokensAll program readable.lefts
    · exact Statement.levelAll_le_iff.mpr readable.levels

/-- A loop with an escaped quote in its condition has a source, an assignment to a
keyword has none, and a program with a float is readable. -/
theorem analyze_image_escaped_quote :
    (∃ source, (analyze source).outcome = .ok [.block .loop
      (.operation .and (.identifier "ending") (.call "f" [.number (.integer 0), .string "\\\""]))
      [.assignment "x" (.boolean true)]]) ∧
    (¬ ∃ source, (analyze source).outcome = .ok [.assignment "end" (.boolean true)]) ∧
    Readable [.assignment "x"
      (.number (.float (.finite false ⟨1023 * 2 ^ 52 + 2 ^ 51, by decide⟩)))] := by
  refine ⟨(analyze_image.1 _ ?_).mpr ?_, ?_, analyze_image.2 "x = 1.5" _ ?_⟩
  · simp [Integral, Statement.atomsAll, Statement.atoms, Expression.atoms, Expression.atomsAll]
  · have word : ∀ {name first rest}, name.toList = first :: rest → first.isAlpha = true →
        rest.all Text.isAsciiWordCharacter = true →
        name ∉ ["while", "if", "end", "true", "false", "and", "or"] → IsName name :=
      fun shape letter following free =>
        ⟨⟨_, _, shape, letter, List.all_eq_true.mp following⟩, free⟩
    have named : IsName "ending" ∧ IsName "f" ∧ IsName "x" :=
      ⟨word rfl rfl rfl (by decide), word rfl rfl rfl (by decide), word rfl rfl rfl (by decide)⟩
    constructor
    · simpa [Statement.atomsAll, Statement.atoms, Expression.atoms, Expression.atomsAll]
        using named
    · intro content member
      have same : content = "\\\"" := by
        simpa [Statement.atomsAll, Statement.atoms, Expression.atoms, Expression.atomsAll]
          using member
      subst same
      exact .escape (by decide) .empty
    · simp [Statement.atomsAll, Statement.atoms, Expression.atoms, Expression.atomsAll]
    · simp [Statement.leftsAll, Statement.lefts, Expression.lefts, Expression.leftsAll]
    · decide
  · intro hasSource
    have readable := (analyze_image.1 _ (by simp [Integral, Statement.atomsAll,
      Statement.atoms, Expression.atoms])).mp hasSource
    exact (readable.names "end" List.mem_cons_self).notReserved (by decide)
  · have read : (analyze "x = 1.5").outcome.toOption = some [.assignment "x"
        (.number (.float (.finite false ⟨1023 * 2 ^ 52 + 2 ^ 51, by decide⟩)))] := by
      decide +kernel
    cases outcome : (analyze "x = 1.5").outcome with
    | ok program =>
        rw [outcome] at read
        exact congrArg Except.ok (Option.some.inj read)
    | error diagnosis =>
        rw [outcome] at read
        cases read

end ScriptFront
