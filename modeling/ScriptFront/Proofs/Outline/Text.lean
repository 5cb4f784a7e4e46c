import ScriptFront.Program.Outline
import ScriptFront.Proofs.Token.Lexeme

/-!
# Lines from the text of an outline

The text of an outline tells its lines, although a string stands in its line as it is,
with its line feeds and blanks. A line is read from the front: the blanks say how deep it
stands, since no content begins with one. Content between quotes goes on to the quote
that closes it, and any other content to the next line feed.
-/

namespace ScriptFront

/-- Texts one after another tell their parts, if each of them tells its part and where it
ends. -/
theorem eq_of_flatMap {Part : Type} {text : Part → List Char} {left right : List Part}
    (filled : ∀ part, text part ≠ [])
    (tell : ∀ part ∈ left, ∀ other ∈ right, ∀ rest others : List Char,
      text part ++ rest = text other ++ others → part = other ∧ rest = others)
    (same : left.flatMap text = right.flatMap text) : left = right := by
  induction left generalizing right with
  | nil =>
      cases right with
      | nil => rfl
      | cons other others => exact absurd (List.append_eq_nil_iff.mp same.symm).1 (filled other)
  | cons part parts inductionHypothesis =>
      cases right with
      | nil => exact absurd (List.append_eq_nil_iff.mp same).1 (filled part)
      | cons other others =>
          obtain ⟨rfl, tails⟩ := tell part List.mem_cons_self other List.mem_cons_self _ _ same
          rw [inductionHypothesis (fun part member other otherMember =>
            tell part (List.mem_cons_of_mem _ member) other (List.mem_cons_of_mem _ otherMember))
            tails]

namespace OutlineLine

open Lexeme

/-- What a line can say: something between quotes, or a text of one line that begins with
neither a blank nor a quote. -/
inductive Wording : List Char → Prop where
  | quoted {content : List Char} (inside : Content content) : Wording ('"' :: (content ++ ['"']))
  | plain {first : Char} {rest : List Char} (noBlank : first ≠ ' ') (noQuote : first ≠ '"')
      (oneLine : ∀ character ∈ first :: rest, character ≠ '\n') : Wording (first :: rest)

/-- What a line says begins with no blank. -/
theorem Wording.starts {content : List Char} (wording : Wording content) :
    ∃ first rest, content = first :: rest ∧ first ≠ ' ' := by
  cases wording with
  | quoted inside => exact ⟨_, _, rfl, by decide⟩
  | plain noBlank noQuote oneLine => exact ⟨_, _, rfl, noBlank⟩

/-- What a line says ends at one place only. -/
theorem Wording.append_inj {left right rest others : List Char} (wording : Wording left)
    (otherWording : Wording right) (same : left ++ '\n' :: rest = right ++ '\n' :: others) :
    left = right ∧ rest = others := by
  cases wording with
  | @quoted content inside =>
      cases otherWording with
      | @quoted otherContent otherInside =>
          -- The first quote that is not escaped closes both.
          simp only [List.cons_append, List.append_assoc, List.nil_append] at same
          have closed := closing?_content inside ('\n' :: rest)
          rw [(List.cons.inj same).2, closing?_content otherInside] at closed
          injection closed with closed
          obtain ⟨contents, tails⟩ := Prod.mk.inj closed
          exact ⟨congrArg _ contents.symm, (List.cons.inj tails).2.symm⟩
      | plain noBlank noQuote oneLine => exact absurd (List.cons.inj same).1.symm noQuote
  | plain noBlank noQuote oneLine =>
      cases otherWording with
      | quoted inside => exact absurd (List.cons.inj same).1 noQuote
      | plain otherNoBlank otherNoQuote otherOneLine =>
          obtain ⟨taken, dropped⟩ := split_at rest oneLine
          obtain ⟨otherTaken, otherDropped⟩ := split_at others otherOneLine
          rw [same] at taken dropped
          exact ⟨taken.symm.trans otherTaken, dropped.symm.trans otherDropped⟩

/-- Blanks in front end at one place only. -/
theorem blanks_append_inj {count other : Nat} {left right : List Char}
    (stops : ∀ character ∈ left.head?, character ≠ ' ')
    (otherStops : ∀ character ∈ right.head?, character ≠ ' ')
    (same : List.replicate count ' ' ++ left = List.replicate other ' ' ++ right) :
    count = other ∧ left = right := by
  have blank : ∀ count, ∀ character ∈ List.replicate count ' ', (character == ' ') = true := by
    intro count character member
    rw [List.eq_of_mem_replicate member]
    rfl
  obtain ⟨taken, dropped⟩ := takeWhile_stop (blank count)
    fun character member => beq_false_of_ne (stops character member)
  obtain ⟨otherTaken, otherDropped⟩ := takeWhile_stop (blank other)
    fun character member => beq_false_of_ne (otherStops character member)
  rw [same] at taken dropped
  refine ⟨?_, dropped.symm.trans otherDropped⟩
  simpa using congrArg List.length (taken.symm.trans otherTaken)

/-- A line as characters: blanks, what it says and a line feed. -/
theorem toList_text (line : OutlineLine) :
    line.text.toList =
      List.replicate (4 * line.level) ' ' ++ (line.content.toList ++ ['\n']) := by
  simp [text, indentation]

/-- A line ends at one place only. -/
theorem text_append_inj {left right : OutlineLine} {rest others : List Char}
    (wording : Wording left.content.toList) (otherWording : Wording right.content.toList)
    (same : left.text.toList ++ rest = right.text.toList ++ others) :
    left = right ∧ rest = others := by
  obtain ⟨level, content⟩ := left
  obtain ⟨otherLevel, otherContent⟩ := right
  have stops : ∀ {content more : List Char}, Wording content →
      ∀ character ∈ (content ++ more).head?, character ≠ ' ' := by
    intro content more wording
    obtain ⟨first, tail, rfl, noBlank⟩ := wording.starts
    rintro character ⟨⟩
    exact noBlank
  simp only [toList_text, List.append_assoc] at same
  obtain ⟨levels, contents⟩ := blanks_append_inj (stops wording) (stops otherWording) same
  obtain ⟨sameContent, sameRest⟩ := wording.append_inj otherWording contents
  obtain rfl : level = otherLevel := by omega
  obtain rfl : content = otherContent := String.toList_inj.mp sameContent
  exact ⟨rfl, sameRest⟩

/-- The text of lines tells the lines. -/
theorem join_injective {lines others : List OutlineLine}
    (wordings : ∀ line ∈ lines, Wording line.content.toList)
    (otherWordings : ∀ line ∈ others, Wording line.content.toList)
    (same : join lines = join others) : lines = others := by
  have characters := congrArg String.toList same
  simp only [join, String.toList_join, List.flatMap_map] at characters
  refine eq_of_flatMap (fun line => ?_) (fun line member other otherMember rest others =>
    text_append_inj (wordings line member) (otherWordings other otherMember)) characters
  simp [toList_text]

end OutlineLine

end ScriptFront
