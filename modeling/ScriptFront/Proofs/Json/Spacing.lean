import Mathlib.Data.List.Forall2
import ScriptFront.Proofs.Json.Text

/-!
# Spacing of JSON text

The pretty text of a document is its compact text with blanks and line feeds between the
parts. Escaped strings have quotes of their own only after a backslash, so it can be told
from the front which characters stand between quotes. With the blanks and line feeds left
out of all the others the pretty text becomes the compact one, and so tells the document.
-/

namespace ScriptFront

namespace Json

open Lexeme

/-- A JSON text without the blanks and line feeds that stand outside its strings; the flag
says whether the text begins inside one. -/
def unspaced : Bool → List Char → List Char
  | _, [] => []
  | false, character :: rest =>
    if character = ' ' ∨ character = '\n' then unspaced false rest
    else character :: unspaced (character = '"') rest
  | true, '\\' :: character :: rest => '\\' :: character :: unspaced true rest
  | true, character :: rest => character :: unspaced (character ≠ '"') rest

/-- What may stand between quotes stays as it is, and the quote after it closes it. -/
theorem unspaced_content {content : List Char} (inside : Content content) (rest : List Char) :
    unspaced true (content ++ '"' :: rest) = content ++ '"' :: unspaced false rest := by
  induction inside with
  | empty => simp [unspaced]
  | @plain character more noQuote noBackslash following inductionHypothesis =>
      simp [unspaced, noQuote, noBackslash, inductionHypothesis]
  | escape sameLine following inductionHypothesis =>
      simp [unspaced, inductionHypothesis]

/-- One text becomes another one when its spacing is left out, whatever follows it. -/
def Unspaces (spaced compact : String) : Prop :=
  ∀ rest, unspaced false (spaced.toList ++ rest) = compact.toList ++ unspaced false rest

namespace Unspaces

theorem append {first second compact others : String} (unspaces : Unspaces first compact)
    (following : Unspaces second others) : Unspaces (first ++ second) (compact ++ others) := by
  intro rest
  rw [String.toList_append, String.toList_append, List.append_assoc, List.append_assoc,
    unspaces, following]

/-- A text without quotes and spacing stays as it is. -/
theorem plain {text : String}
    (free : ∀ character ∈ text.toList, character ∉ [' ', '\n', '"']) : Unspaces text text := by
  intro rest
  generalize text.toList = characters at free ⊢
  induction characters with
  | nil => rfl
  | cons character characters inductionHypothesis =>
      obtain ⟨plain, others⟩ := List.forall_mem_cons.mp free
      simp only [List.mem_cons, List.not_mem_nil, or_false, not_or] at plain
      simp [unspaced, plain, inductionHypothesis others]

theorem stringText (text : String) : Unspaces (stringText text) (stringText text) := by
  intro rest
  rw [toList_stringText, toList_stringText, ← unspaced_content (content_escaped text.toList)]
  rfl

theorem margin (level : Nat) : Unspaces (margin level) "" := by
  intro rest
  rw [Json.margin, String.toList_ofList]
  generalize 2 * level = count
  induction count with
  | zero => rfl
  | succ count inductionHypothesis => exact inductionHypothesis

variable {lines parts : List String}

theorem join (each : List.Forall₂ Unspaces lines parts) :
    Unspaces (String.join lines) (String.join parts) := by
  induction each with
  | nil => exact fun _ => rfl
  | cons first others inductionHypothesis =>
      rw [String.join_cons, String.join_cons]
      exact first.append inductionHypothesis

/-- Parts on a line each become parts with commas between them. -/
theorem separated (level : Nat) (each : List.Forall₂ Unspaces lines parts) :
    Unspaces (separated ",\n" (lines.map (Json.margin level ++ ·))) (separated "," parts) := by
  have line : ∀ {part compact}, Unspaces part compact →
      Unspaces (Json.margin level ++ part) compact := by
    intro part compact unspaces
    simpa using (margin level).append unspaces
  have comma : Unspaces ",\n" "," := fun _ => rfl
  cases each with
  | nil => exact fun _ => rfl
  | cons first others =>
      refine (line first).append (join ?_)
      rw [List.map_map, List.forall₂_map_left_iff, List.forall₂_map_right_iff]
      exact others.imp fun _ _ unspaces => comma.append (line unspaces)

/-- Parts between brackets become the parts with commas and the brackets. -/
theorem bracketed (level : Nat) {opening closing : String} (opens : Unspaces opening opening)
    (closes : Unspaces closing closing) (each : List.Forall₂ Unspaces lines parts) :
    Unspaces (bracketed level opening closing lines)
      (opening ++ Json.separated "," parts ++ closing) := by
  have lineFeed : Unspaces "\n" "" := fun _ => rfl
  unfold Json.bracketed
  split
  · next none =>
    rw [List.isEmpty_iff] at none
    subst none
    cases each
    simpa [Json.separated] using opens.append closes
  · simpa using ((((opens.append lineFeed).append (separated (level + 1) each)).append
      lineFeed).append (margin level)).append closes

end Unspaces

theorem prettyItems_eq (level : Nat) (items : List Json) :
    prettyItems level items = items.map (pretty level) := by
  induction items with
  | nil => rfl
  | cons item items inductionHypothesis =>
      rw [prettyItems, inductionHypothesis, List.map_cons]

theorem prettyMembers_eq (level : Nat) (members : List (String × Json)) :
    prettyMembers level members = members.map (prettyMember level) := by
  induction members with
  | nil => rfl
  | cons member members inductionHypothesis =>
      rw [prettyMembers, inductionHypothesis, List.map_cons]

/-- A numeral has neither quotes nor spacing. -/
theorem IsNumeral.unspaces {text : String} (isNumeral : IsNumeral text) : Unspaces text text := by
  refine .plain fun character member spacing => ?_
  have inside := isNumeral.inside character member
  simp only [List.mem_cons, List.not_mem_nil, or_false] at spacing
  rcases spacing with rfl | rfl | rfl <;> cases inside

/-- The pretty text of a document is its compact text with spacing. -/
theorem Legible.unspaces {document : Json} (legible : document.Legible) (level : Nat) :
    Unspaces (pretty level document) (compact document) := by
  induction legible generalizing level with
  | null =>
      rw [pretty, compact]
      exact fun _ => rfl
  | boolean value =>
      rw [pretty, compact]
      cases value <;> exact fun _ => rfl
  | numeral isNumeral => exact isNumeral.unspaces
  | string text => exact .stringText text
  | @array items legible inductionHypothesis =>
      have opens : Unspaces "[" "[" := fun _ => rfl
      have closes : Unspaces "]" "]" := fun _ => rfl
      rw [pretty, compact, prettyItems_eq, compactItems_eq]
      refine opens.bracketed level closes ?_
      rw [List.forall₂_map_left_iff, List.forall₂_map_right_iff, List.forall₂_same]
      exact fun item member => inductionHypothesis item member (level + 1)
  | @object members legible inductionHypothesis =>
      have opens : Unspaces "\x7b" "\x7b" := fun _ => rfl
      have closes : Unspaces "\x7d" "\x7d" := fun _ => rfl
      have colon : Unspaces ": " ":" := fun _ => rfl
      rw [pretty, compact, prettyMembers_eq, compactMembers_eq]
      refine opens.bracketed level closes ?_
      rw [List.forall₂_map_left_iff, List.forall₂_map_right_iff, List.forall₂_same]
      rintro ⟨name, document⟩ inside
      rw [prettyMember, compactMember]
      exact ((Unspaces.stringText name).append colon).append
        (inductionHypothesis (name, document) inside (level + 1))

/-- The pretty text of a document tells the document. -/
theorem eq_of_pretty {left right : Json} (legible : left.Legible) (otherLegible : right.Legible)
    (same : left.pretty 0 = right.pretty 0) : left = right := by
  have compact := legible.unspaces 0 []
  rw [same, otherLegible.unspaces 0 []] at compact
  exact eq_of_compact legible otherLegible
    (String.toList_inj.mp (List.append_cancel_right compact).symm)

end Json

end ScriptFront
