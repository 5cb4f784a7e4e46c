import ScriptFront.Proofs.Outline.Tree

/-!
# The lines of an outline, node by node

An outline shows a program in rows: one for every statement and expression, from the front
to the back of the program, and one where the body of a block begins. A row begins with a
line of its own, four blanks deeper a level. That is its only line, unless it shows a string
with line feeds: these stand in the outline as they are, and each of them begins another
line. So an outline has as many lines as rows if and only if no string in the program has a
line feed.
-/

namespace ScriptFront

open OutlineLine

namespace Text

/-- The lines of a text in which a line feed ends each of them. -/
def lines (text : List Char) : List (List Char) :=
  (text.splitOn '\n').dropLast

/-- The lines up to a line feed and those after it. -/
theorem lines_append (front rest : List Char) :
    lines (front ++ '\n' :: rest) = front.splitOn '\n' ++ lines rest := by
  have filled : rest.splitOn '\n' ≠ [] := List.splitOn_ne_nil '\n' rest
  rw [lines, List.splitOn_append_cons_self, List.dropLast_append_of_ne_nil filled]
  rfl

/-- There is one part more than there are line feeds between them. -/
theorem length_splitOn (text : List Char) :
    (text.splitOn '\n').length = text.count '\n' + 1 := by
  induction text with
  | nil => rfl
  | cons first rest inductionHypothesis =>
      rw [List.splitOn_cons_eq_if_modifyHead, List.count_cons]
      split
      · rw [List.length_cons, inductionHypothesis]
      · rw [List.length_modifyHead, inductionHypothesis]

/-- What stands before the first line feed belongs to the first part. -/
theorem splitOn_append {front : List Char} (oneLine : ∀ character ∈ front, character ≠ '\n')
    (rest : List Char) :
    (front ++ rest).splitOn '\n' = (rest.splitOn '\n').modifyHead (front ++ ·) := by
  induction front with
  | nil => exact (congrFun List.modifyHead_id _).symm
  | cons first front inductionHypothesis =>
      rw [List.forall_mem_cons] at oneLine
      rw [List.cons_append, List.splitOn_cons_eq_if_modifyHead, inductionHypothesis oneLine.2,
        if_neg (by simpa using oneLine.1), List.modifyHead_modifyHead]
      rfl

end Text

/-- What a row of an outline shows. -/
inductive Entry where
  | statement (statement : Statement)
  | expression (expression : Expression)
  /-- Where the body of a block begins. -/
  | division (kind : BlockKind)

namespace Entry

/-- What an outline says of an entry. -/
def heading : Entry → String
  | .statement shown => shown.heading
  | .expression shown => shown.heading
  | .division kind => kind.division

/-- The line feeds in an entry, which only a string can have. -/
def lineFeeds : Entry → Nat
  | .expression (.string content) => content.toList.count '\n'
  | _ => 0

/-- An entry as a source can have it. -/
def Legible : Entry → Prop
  | .statement shown => shown.Legible
  | .expression shown => shown.Legible
  | .division _ => True

end Entry

/-- An entry, and how many levels it stands below the top-level statement it belongs to. -/
structure Row where
  level : Nat
  entry : Entry

namespace Expression

mutual

/-- The rows of an expression that stands at the given level. -/
def rows (level : Nat) : Expression → List Row
  | .call name arguments =>
    ⟨level, .expression (.call name arguments)⟩ :: rowsAll (level + 1) arguments
  | .operation connective left right =>
    ⟨level, .expression (.operation connective left right)⟩ ::
      (rows (level + 1) left ++ rows (level + 1) right)
  | expression => [⟨level, .expression expression⟩]

/-- The rows of several expressions at one level. -/
def rowsAll (level : Nat) : List Expression → List Row
  | [] => []
  | first :: rest => rows level first ++ rowsAll level rest

end

mutual

/-- How many expressions there are in an expression, with itself. -/
def size : Expression → Nat
  | .call _ arguments => sizeAll arguments + 1
  | .operation _ left right => left.size + right.size + 1
  | _ => 1

/-- How many expressions there are in several expressions. -/
def sizeAll : List Expression → Nat
  | [] => 0
  | first :: rest => first.size + sizeAll rest

end

end Expression

namespace Statement

mutual

/-- The rows of a statement that stands at the given level. -/
def rows (level : Nat) : Statement → List Row
  | .assignment target value =>
    ⟨level, .statement (.assignment target value)⟩ :: value.rows (level + 1)
  | .call name arguments =>
    ⟨level, .statement (.call name arguments)⟩ :: Expression.rowsAll (level + 1) arguments
  | .block kind condition body =>
    ⟨level, .statement (.block kind condition body)⟩ ::
      (condition.rows (level + 1) ++ ⟨level, .division kind⟩ :: rowsAll (level + 1) body)

/-- The rows of several statements at one level. -/
def rowsAll (level : Nat) : List Statement → List Row
  | [] => []
  | first :: rest => rows level first ++ rowsAll level rest

end

mutual

/-- How many statements and expressions there are in a statement, with itself. -/
def size : Statement → Nat
  | .assignment _ value => value.size + 1
  | .call _ arguments => Expression.sizeAll arguments + 1
  | .block _ condition body => condition.size + sizeAll body + 1

/-- How many statements and expressions there are in several statements. -/
def sizeAll : List Statement → Nat
  | [] => 0
  | first :: rest => first.size + sizeAll rest

end

mutual

/-- How many blocks there are in a statement. -/
def blocks : Statement → Nat
  | .assignment _ _ => 0
  | .call _ _ => 0
  | .block _ _ body => blocksAll body + 1

/-- How many blocks there are in several statements. -/
def blocksAll : List Statement → Nat
  | [] => 0
  | first :: rest => first.blocks + blocksAll rest

end

end Statement

namespace Row

/-- A row as a line of an outline. -/
def line (row : Row) : OutlineLine :=
  ⟨row.level, row.entry.heading⟩

/-- The lines of text that show a row. -/
def lines (row : Row) : List (List Char) :=
  (List.replicate (4 * row.level) ' ' ++ row.entry.heading.toList).splitOn '\n'

/-- A row is shown by a line that begins with four blanks a level and no more, and by a
further line for each of its line feeds. -/
def Shown (row : Row) : Prop :=
  ∃ first others, row.lines = first :: others ∧ others.length = row.entry.lineFeeds ∧
    first.takeWhile (· == ' ') = List.replicate (4 * row.level) ' '

end Row

namespace Expression

mutual

/-- An expression has one row for each expression in it. -/
theorem length_rows (level : Nat) (expression : Expression) :
    (expression.rows level).length = expression.size := by
  cases expression with
  | call name arguments => rw [rows, size, List.length_cons, length_rowsAll]
  | operation connective left right =>
      rw [rows, size, List.length_cons, List.length_append, length_rows, length_rows]
  | _ => rfl

/-- Several expressions have one row for each expression in them. -/
theorem length_rowsAll (level : Nat) (expressions : List Expression) :
    (rowsAll level expressions).length = sizeAll expressions := by
  cases expressions with
  | nil => rfl
  | cons first rest => rw [rowsAll, sizeAll, List.length_append, length_rows, length_rowsAll]

end

mutual

/-- An outline has one line for each row. -/
theorem outline_eq_rows (level : Nat) (expression : Expression) :
    expression.outline level = (expression.rows level).map Row.line := by
  rw [outline_eq]
  cases expression with
  | call name arguments => rw [inner, rows, List.map_cons, outlineAll_eq_rows]; rfl
  | operation connective left right =>
      rw [inner, rows, List.map_cons, List.map_append, outline_eq_rows, outline_eq_rows]
      rfl
  | _ => rfl

/-- An outline of several expressions has one line for each row. -/
theorem outlineAll_eq_rows (level : Nat) (expressions : List Expression) :
    outlineAll level expressions = (rowsAll level expressions).map Row.line := by
  cases expressions with
  | nil => rfl
  | cons first rest =>
      rw [outlineAll, rowsAll, List.map_append, outline_eq_rows, outlineAll_eq_rows]

end

mutual

/-- Every row of an expression from a source is legible. -/
theorem legible_rows (level : Nat) {expression : Expression} (legible : expression.Legible) :
    ∀ row ∈ expression.rows level, row.entry.Legible := by
  cases expression with
  | call name arguments =>
      rw [rows, List.forall_mem_cons]
      exact ⟨legible, legible_rowsAll (level + 1) (List.forall_mem_cons.mp legible).2⟩
  | operation connective left right =>
      have sides := List.forall_mem_append.mp legible
      rw [rows, List.forall_mem_cons, List.forall_mem_append]
      exact ⟨legible, legible_rows (level + 1) sides.1, legible_rows (level + 1) sides.2⟩
  | _ => exact List.forall_mem_singleton.mpr legible

/-- Every row of several expressions from a source is legible. -/
theorem legible_rowsAll (level : Nat) {expressions : List Expression}
    (legible : ∀ atom ∈ atomsAll expressions, atom.Legible) :
    ∀ row ∈ rowsAll level expressions, row.entry.Legible := by
  cases expressions with
  | nil => exact List.forall_mem_nil _
  | cons first rest =>
      rw [atomsAll, List.forall_mem_append] at legible
      rw [rowsAll, List.forall_mem_append]
      exact ⟨legible_rows level legible.1, legible_rowsAll level legible.2⟩

end

end Expression

namespace Statement

mutual

/-- A statement has one row for each node in it and one for each block. -/
theorem length_rows (level : Nat) (statement : Statement) :
    (statement.rows level).length = statement.size + statement.blocks := by
  cases statement with
  | assignment target value =>
      rw [rows, size, blocks, List.length_cons, Expression.length_rows, Nat.add_zero]
  | call name arguments =>
      rw [rows, size, blocks, List.length_cons, Expression.length_rowsAll, Nat.add_zero]
  | block kind condition body =>
      rw [rows, size, blocks, List.length_cons, List.length_append, List.length_cons,
        Expression.length_rows, length_rowsAll]
      omega

/-- Several statements have one row for each node in them and one for each block. -/
theorem length_rowsAll (level : Nat) (statements : List Statement) :
    (rowsAll level statements).length = sizeAll statements + blocksAll statements := by
  cases statements with
  | nil => rfl
  | cons first rest =>
      rw [rowsAll, sizeAll, blocksAll, List.length_append, length_rows, length_rowsAll]
      omega

end

mutual

/-- An outline has one line for each row. -/
theorem outline_eq_rows (level : Nat) (statement : Statement) :
    statement.outline level = (statement.rows level).map Row.line := by
  rw [outline_eq]
  cases statement with
  | assignment target value =>
      rw [inner, rows, List.map_cons, Expression.outline_eq_rows]
      rfl
  | call name arguments =>
      rw [inner, rows, List.map_cons, Expression.outlineAll_eq_rows]
      rfl
  | block kind condition body =>
      rw [inner, rows, List.map_cons, List.map_append, List.map_cons,
        Expression.outline_eq_rows, outlineAll_eq_rows]
      rfl

/-- An outline of several statements has one line for each row. -/
theorem outlineAll_eq_rows (level : Nat) (statements : List Statement) :
    outlineAll level statements = (rowsAll level statements).map Row.line := by
  cases statements with
  | nil => rfl
  | cons first rest =>
      rw [outlineAll, rowsAll, List.map_append, outline_eq_rows, outlineAll_eq_rows]

end

mutual

/-- Every row of a statement from a source is legible. -/
theorem legible_rows (level : Nat) {statement : Statement} (legible : statement.Legible) :
    ∀ row ∈ statement.rows level, row.entry.Legible := by
  cases statement with
  | assignment target value =>
      rw [rows, List.forall_mem_cons]
      exact ⟨legible, Expression.legible_rows (level + 1) (List.forall_mem_cons.mp legible).2⟩
  | call name arguments =>
      rw [rows, List.forall_mem_cons]
      exact ⟨legible, Expression.legible_rowsAll (level + 1) (List.forall_mem_cons.mp legible).2⟩
  | block kind condition body =>
      have parts := List.forall_mem_append.mp legible
      rw [rows, List.forall_mem_cons, List.forall_mem_append, List.forall_mem_cons]
      exact ⟨legible, Expression.legible_rows (level + 1) parts.1, trivial,
        legible_rowsAll (level + 1) parts.2⟩

/-- Every row of several statements from a source is legible. -/
theorem legible_rowsAll (level : Nat) {statements : List Statement}
    (legible : ∀ atom ∈ atomsAll statements, atom.Legible) :
    ∀ row ∈ rowsAll level statements, row.entry.Legible := by
  cases statements with
  | nil => exact List.forall_mem_nil _
  | cons first rest =>
      rw [atomsAll, List.forall_mem_append] at legible
      rw [rowsAll, List.forall_mem_append]
      exact ⟨legible_rows level legible.1, legible_rowsAll level legible.2⟩

end

end Statement

/-- What begins with no quote is said on one line. -/
theorem OutlineLine.Wording.oneLine {content : List Char} (wording : Wording content)
    (noQuote : content.head? ≠ some '"') : ∀ character ∈ content, character ≠ '\n' := by
  cases wording with
  | quoted inside => exact absurd rfl noQuote
  | plain noBlank noQuote oneLine => exact oneLine

/-- What a line says begins on that line. -/
theorem OutlineLine.Wording.starts_inline {content : List Char} (wording : Wording content) :
    ∃ first rest, content = first :: rest ∧ first ≠ ' ' ∧ first ≠ '\n' := by
  cases wording with
  | quoted inside => exact ⟨_, _, rfl, by decide, by decide⟩
  | plain noBlank noQuote oneLine =>
      exact ⟨_, _, rfl, noBlank, oneLine _ List.mem_cons_self⟩

/-- An expression other than a string is not said between quotes. -/
theorem Expression.head?_heading_ne {expression : Expression} (legible : expression.Legible)
    (other : expression.lineSort ≠ .quoted) : expression.heading.toList.head? ≠ some '"' := by
  intro quote
  rw [← lineSort_heading legible, LineSort.of, quote] at other
  exact other rfl

namespace Entry

/-- What an outline says of an entry from a source. -/
theorem wording_heading {entry : Entry} (legible : entry.Legible) :
    Wording entry.heading.toList := by
  cases entry with
  | statement shown => exact Statement.wording_heading legible
  | expression shown => exact Expression.wording_heading legible
  | division kind =>
      cases kind
      · exact wording_title_alone "Then" rfl
      · exact wording_title_alone "Do" rfl

/-- An entry from a source is said on one line, but for the line feeds of a string. -/
theorem count_heading {entry : Entry} (legible : entry.Legible) :
    entry.heading.toList.count '\n' = entry.lineFeeds := by
  have oneLine := (wording_heading legible).oneLine
  have none : entry.heading.toList.head? ≠ some '"' →
      entry.heading.toList.count '\n' = 0 := fun noQuote =>
    List.count_eq_zero.mpr fun member => oneLine noQuote _ member rfl
  cases entry with
  | statement shown =>
      refine none ?_
      rw [heading, Statement.head?_heading]
      cases shown with
      | block kind condition body => cases kind <;> simp [Statement.initial]
      | _ => simp [Statement.initial]
  | division kind =>
      refine none ?_
      cases kind <;> decide
  | expression shown =>
      cases shown with
      | string content => simp [heading, Expression.heading, lineFeeds]
      | _ => exact none (Expression.head?_heading_ne legible (by simp [Expression.lineSort]))

end Entry

/-- A row from a source is shown as it should be. -/
theorem Row.shown {row : Row} (legible : row.entry.Legible) : row.Shown := by
  have feeds := Entry.count_heading legible
  obtain ⟨first, rest, shape, noBlank, noFeed⟩ := (Entry.wording_heading legible).starts_inline
  obtain ⟨part, others, split⟩ := List.exists_cons_of_ne_nil (List.splitOn_ne_nil '\n' rest)
  have blanks : ∀ character ∈ List.replicate (4 * row.level) ' ', character = ' ' :=
    fun character member => List.eq_of_mem_replicate member
  have inline : ∀ character ∈ List.replicate (4 * row.level) ' ' ++ [first],
      character ≠ '\n' := by
    rw [List.forall_mem_append, List.forall_mem_singleton]
    refine ⟨fun character member => ?_, noFeed⟩
    rw [blanks character member]
    decide
  have lines : row.lines =
      (List.replicate (4 * row.level) ' ' ++ (first :: part)) :: others := by
    rw [Row.lines, shape, ← List.singleton_append, ← List.append_assoc,
      Text.splitOn_append inline, split, List.modifyHead_cons, List.append_assoc]
    rfl
  refine ⟨_, others, lines, ?_, ?_⟩
  · have count : row.lines.length = row.entry.heading.toList.count '\n' + 1 := by
      rw [Row.lines, Text.length_splitOn, List.count_append, List.count_replicate]
      exact congrArg (· + 1) (Nat.zero_add _)
    rw [lines, feeds] at count
    exact Nat.succ.inj count
  · exact (Lexeme.takeWhile_stop (fun character member => by simpa using blanks character member)
      (by simpa using noBlank)).1

/-- The lines of an outline are those of its rows. -/
theorem lines_join (rows : List Row) :
    Text.lines (join (rows.map Row.line)).toList = rows.flatMap Row.lines := by
  induction rows with
  | nil => rfl
  | cons first rest inductionHypothesis =>
      have text : (join ((first :: rest).map Row.line)).toList =
          (List.replicate (4 * first.level) ' ' ++ first.entry.heading.toList) ++
            '\n' :: (join (rest.map Row.line)).toList := by
        simp [join, toList_text, Row.line, String.toList_join]
      rw [text, Text.lines_append, inductionHypothesis, List.flatMap_cons]
      rfl

/-- Rows have a line each and one more for every line feed. -/
theorem length_flatMap_lines {rows : List Row} (shown : ∀ row ∈ rows, row.Shown) :
    (rows.flatMap Row.lines).length =
      rows.length + (rows.map fun row => row.entry.lineFeeds).sum := by
  induction rows with
  | nil => rfl
  | cons first rest inductionHypothesis =>
      rw [List.forall_mem_cons] at shown
      obtain ⟨⟨line, others, lines, feeds, -⟩, following⟩ := shown
      rw [List.flatMap_cons, List.length_append, inductionHypothesis following, lines,
        List.length_cons, feeds, List.length_cons, List.map_cons, List.sum_cons]
      omega

/-- An outline of a program from a source has a row for every statement and expression and
one for every block, and shows each of them on a line that begins with four blanks for
every level below the top-level statement. It has as many lines as rows if and only if no
string in the program has a line feed. -/
theorem analyze_outline_rows {source : String} {program : List Statement}
    (read : (analyze source).outcome = .ok program) :
    (Statement.rowsAll 0 program).length =
        Statement.sizeAll program + Statement.blocksAll program ∧
      Text.lines (join (Statement.outlineAll 0 program)).toList =
        (Statement.rowsAll 0 program).flatMap Row.lines ∧
      (∀ row ∈ Statement.rowsAll 0 program, row.Shown) ∧
      ((Text.lines (join (Statement.outlineAll 0 program)).toList).length =
          Statement.sizeAll program + Statement.blocksAll program ↔
        ∀ row ∈ Statement.rowsAll 0 program, row.entry.lineFeeds = 0) := by
  have shown : ∀ row ∈ Statement.rowsAll 0 program, row.Shown := fun row member =>
    Row.shown (Statement.legible_rowsAll 0 (legible_of_analyze read) row member)
  have count := Statement.length_rowsAll 0 program
  have lines : Text.lines (join (Statement.outlineAll 0 program)).toList =
      (Statement.rowsAll 0 program).flatMap Row.lines := by
    rw [Statement.outlineAll_eq_rows, lines_join]
  refine ⟨count, lines, shown, ?_⟩
  rw [lines, length_flatMap_lines shown, ← count, Nat.add_eq_left,
    List.sum_eq_zero_iff_forall_eq_nat, List.forall_mem_map]

/-- A block with a chain in it whose string has two lines. -/
theorem analyze_outline_rows_block :
    ∃ program, (analyze "if f(a)\n  x = b and \"p\nq\"\nend").outcome = .ok program ∧
      (Statement.rowsAll 0 program).length = 7 + 1 ∧
      (∀ row ∈ Statement.rowsAll 0 program, row.Shown) ∧
      (Text.lines (join (Statement.outlineAll 0 program)).toList).length ≠ 7 + 1 := by
  have read : (analyze "if f(a)\n  x = b and \"p\nq\"\nend").outcome.toOption = some
      [.block .conditional (.call "f" [.identifier "a"])
        [.assignment "x" (.operation .and (.identifier "b") (.string "p\nq"))]] := by
    decide +kernel
  rw [toOption_eq_some_iff] at read
  obtain ⟨rows, -, shown, single⟩ := analyze_outline_rows read
  exact ⟨_, read, rows, shown, fun lines => absurd (single.mp lines) (by decide)⟩

/-- A string with a line feed takes two lines, so an outline can have more lines than there
are statements, expressions and blocks. -/
theorem outline_line_per_node_fails :
    ¬ ∀ (source : String) (program : List Statement), (analyze source).outcome = .ok program →
      (Text.lines (join (Statement.outlineAll 0 program)).toList).length =
        Statement.sizeAll program + Statement.blocksAll program := by
  intro single
  have read : (analyze "x = \"a\nb\"").outcome.toOption =
      some [.assignment "x" (.string "a\nb")] := by
    decide +kernel
  rw [toOption_eq_some_iff] at read
  have lines : (Text.lines
      (join (Statement.outlineAll 0 [.assignment "x" (.string "a\nb")])).toList).length = 3 := by
    decide +kernel
  have nodes : Statement.sizeAll [.assignment "x" (.string "a\nb")] +
      Statement.blocksAll [.assignment "x" (.string "a\nb")] = 2 := rfl
  have same := single _ _ read
  rw [lines, nodes] at same
  cases same

end ScriptFront
