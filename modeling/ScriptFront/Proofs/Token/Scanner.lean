import ScriptFront.Proofs.Token.PatternTable
import ScriptFront.Token.Scanner

/-!
# Scans stay within the source

The position of a scanner always stands between two characters, a step that succeeds
passes a text that is not empty, and so there are never more steps than characters.
`Scanner.Stands` says where a scanner stands, and is kept by every step. What a scan
reads are the tokens of the source.
-/

namespace ScriptFront

open Lexeme Piece

/-- The end of a front part is at the edge of a character. -/
theorem Text.isValid_append (front back : String) :
    String.Pos.Raw.IsValid (front ++ back) ⟨front.utf8ByteSize⟩ :=
  String.Pos.Raw.isValid_iff_exists_append.mpr ⟨front, back, rfl, rfl⟩

/-- A middle part is a slice. -/
theorem Text.slice?_append (front middle back : String) :
    Text.slice? (front ++ middle ++ back) front.utf8ByteSize
      (front.utf8ByteSize + middle.utf8ByteSize) = some middle := by
  have first : String.Pos.Raw.IsValid (front ++ middle ++ back) ⟨front.utf8ByteSize⟩ := by
    rw [String.append_assoc]
    exact Text.isValid_append front (middle ++ back)
  have last : String.Pos.Raw.IsValid (front ++ middle ++ back)
      ⟨front.utf8ByteSize + middle.utf8ByteSize⟩ := by
    have edge := Text.isValid_append (front ++ middle) back
    rwa [String.utf8ByteSize_append] at edge
  have skipped : (front.toByteArray ++ (middle.toByteArray ++ back.toByteArray)).extract
      (front.toByteArray.size + 0) (front.toByteArray.size + middle.toByteArray.size) =
        (middle.toByteArray ++ back.toByteArray).extract 0 middle.toByteArray.size :=
    ByteArray.extract_append_size_add
  rw [Nat.add_zero, ByteArray.extract_append_eq_left rfl, ← ByteArray.append_assoc] at skipped
  rw [Text.slice?, dif_pos ⟨Nat.le_add_right _ _, first, last⟩]
  apply congrArg some
  apply String.toByteArray_inj.mp
  rw [String.toByteArray_extract, String.toByteArray_append, String.toByteArray_append]
  exact skipped

/-- A text in front and what is left after it. -/
theorem Text.eq_ofList_append {text : String} {front back : List Char}
    (shape : text.toList = front ++ back) : text = String.ofList front ++ String.ofList back := by
  rw [← String.ofList_append, ← shape, String.ofList_toList]

theorem Text.ofList_quoted (content : List Char) :
    String.ofList ('"' :: (content ++ ['"'])) = "\"" ++ String.ofList content ++ "\"" := by
  rw [← String.toList_inj]
  simp

/-- What stands between quotes is a slice. -/
theorem Text.slice?_quoted (content : String) :
    Text.slice? ("\"" ++ content ++ "\"") 1 (("\"" ++ content ++ "\"").utf8ByteSize - 1) =
      some content := by
  have length : ("\"" ++ content ++ "\"").utf8ByteSize - 1 = 1 + content.utf8ByteSize := by
    rw [String.utf8ByteSize_append, String.utf8ByteSize_append]
    rfl
  rw [length]
  exact Text.slice?_append "\"" content "\""

theorem Scanner.after_after (scanner : Scanner) (length more : Nat) (events others : List Event) :
    (scanner.after length events).after more others =
      scanner.after (length + more) (events ++ others) := by
  simp only [Scanner.after, Nat.add_assoc, List.append_assoc]

/-- The scanner stands between two parts of its source. -/
structure Scanner.Stands (scanner : Scanner) (front rest : String) : Prop where
  source : scanner.source = front ++ rest
  position : scanner.position = front.utf8ByteSize

namespace Scanner.Stands

variable {scanner : Scanner} {front rest : String}

theorem start (source : String) : (Scanner.start source).Stands "" source where
  source := (String.empty_append).symm
  position := rfl

/-- What is left is the slice from the position on. -/
theorem run_rest (stands : scanner.Stands front rest) :
    Scan.rest.run scanner = .ok rest scanner := by
  have part := Text.slice?_append front rest ""
  rw [String.append_empty, ← String.utf8ByteSize_append, ← stands.source,
    ← stands.position] at part
  have unfolded : Scan.rest.run scanner =
      (Scan.slice scanner.source scanner.position scanner.source.utf8ByteSize).run scanner :=
    rfl
  rw [unfolded, Scan.slice, part]
  rfl

/-- The scanner is at the end where nothing is left. -/
theorem run_atEnd (stands : scanner.Stands front rest) :
    Scan.atEnd.run scanner = .ok (rest = "") scanner := by
  have reached : scanner.source.utf8ByteSize ≤ scanner.position ↔ rest = "" := by
    rw [stands.source, stands.position, String.utf8ByteSize_append,
      ← String.utf8ByteSize_eq_zero_iff]
    omega
  exact congrArg (EStateM.Result.ok · scanner) (decide_eq_decide.mpr reached)

/-- Passing a text in front. -/
theorem pass {text after : List Char} (stands : scanner.Stands front rest)
    (shape : rest.toList = text ++ after) (events : List Event) :
    (scanner.after (String.ofList text).utf8ByteSize events).Stands
      (front ++ String.ofList text) (String.ofList after) where
  source := by
    rw [Scanner.after, stands.source, Text.eq_ofList_append shape, String.append_assoc]
  position := by
    rw [Scanner.after, stands.position, String.utf8ByteSize_append]

end Scanner.Stands

namespace Scan

variable {wordLike : Char → Bool} {scanner : Scanner} {front rest : String}

/-- Only strings are unquoted, and only numbers have a value of their own. -/
theorem tag_of_mem_significant {rule : Rule Kind} (member : rule ∈ Rule.significant) :
    (rule.conversion = .unquoted → rule.tag = .string) ∧
      (rule.conversion = .numeric → rule.tag = .number) := by
  revert rule
  decide

/-- How a text that is found becomes a token, unless it is a numeral without a value. -/
inductive Converts (scanner : Scanner) (piece : Piece) :
    EStateM.Result Interruption Scanner Token → Prop where
  | token {token : Token} (gives : Gives piece.sort piece.text [token]) :
      Converts scanner piece (.ok token scanner)
  | refused (sort : piece.sort = .numeral) (valueless : Number.ofNumeral? piece.text = none) :
      Converts scanner piece
        (.error (.refused (.illegalNumeral (String.ofList piece.text)))
          (scanner.after 0 [.unreadable (.illegalNumeral (String.ofList piece.text))]))

/-- A text that is found becomes a token: what stands between the quotes of a string is
always there. -/
theorem converts {rule : Rule Kind} {source text after : List Char}
    (member : rule ∈ Rule.significant)
    (found : first? wordLike source = some (⟨rule.sort, text⟩, after)) (scanner : Scanner) :
    Converts scanner ⟨rule.sort, text⟩ ((convert rule (String.ofList text)).run scanner) := by
  obtain ⟨isString, isNumber⟩ := tag_of_mem_significant member
  obtain ⟨tag, pattern, conversion⟩ := rule
  cases conversion with
  | verbatim => exact .token .verbatim
  | unquoted =>
      obtain rfl := isString rfl
      obtain ⟨content, rfl⟩ := quoted_of_first? found
      simp only [convert, slice]
      rw [Text.ofList_quoted, Text.slice?_quoted]
      exact .token .quoted
  | numeric =>
      obtain rfl := isNumber rfl
      simp only [convert, String.toList_ofList]
      cases value : Number.ofNumeral? text with
      | some number => exact .token (.numeral value)
      | none => exact .refused rfl value

/-- How a piece is digested: it gives a token, or is layout, or there is a reason why
reading halts. What is passed is the text of the piece. -/
inductive Digests (wordLike : Char → Bool) (scanner : Scanner) (source : List Char) :
    EStateM.Result Interruption Scanner (Option Token) → Prop where
  | token {piece : Piece} {after : List Char} {token : Token}
      (found : first? wordLike source = some (piece, after))
      (gives : Gives piece.sort piece.text [token]) :
      Digests wordLike scanner source
        (.ok (some token) (scanner.after (String.ofList piece.text).utf8ByteSize []))
  | layout {layout : Layout} {text after : List Char}
      (found : first? wordLike source = some (⟨.layout layout, text⟩, after)) :
      Digests wordLike scanner source
        (.ok none (scanner.after (String.ofList text).utf8ByteSize [.skipped layout]))
  | refused {error : LexicalError} (halts : Halts wordLike source error) :
      Digests wordLike scanner source
        (.error (.refused error) (scanner.after 0 [.unreadable error]))

/-- Between two characters before the end of the source a piece is digested, or there is a
reason why reading halts. -/
theorem digests (agrees : AgreesOnAscii wordLike) (stands : scanner.Stands front rest)
    (filled : rest ≠ "") :
    Digests wordLike scanner rest.toList ((digest wordLike).run scanner) := by
  have front := front?_eq agrees rest.toList
  rw [digest, EStateM.run_bind, stands.run_rest]
  unfold Rule.front? at front
  cases significant : Rule.find? wordLike Rule.significant rest.toList with
  | some front? =>
      obtain ⟨rule, text⟩ := front?
      rw [significant] at front
      obtain ⟨⟨piece, after⟩, found, same⟩ := Option.map_eq_some_iff.mp front.symm
      obtain rfl : piece = _ := same
      have converted := converts (Rule.mem_of_find? significant).1 found scanner
      simp only [significant]
      rw [EStateM.run_bind]
      generalize (convert rule (String.ofList text)).run scanner = result at converted ⊢
      cases converted with
      | token gives => exact .token found gives
      | refused sort valueless =>
          rw [show rule.sort = .numeral from sort] at found
          exact .refused (.outOfRange found valueless)
  | none =>
      simp only [significant] at front ⊢
      cases ignored : Rule.find? wordLike Rule.ignored rest.toList with
      | some front? =>
          obtain ⟨rule, text⟩ := front?
          rw [ignored] at front
          obtain ⟨⟨piece, after⟩, found, same⟩ := Option.map_eq_some_iff.mp front.symm
          obtain rfl : piece = _ := same
          have digested : Digests wordLike scanner rest.toList _ := .layout found
          have passed := Scanner.after_after scanner 0 (String.ofList text).utf8ByteSize
            [.skipped rule.tag] []
          rw [Nat.zero_add, List.append_nil] at passed
          rw [← passed] at digested
          exact digested
      | none =>
          rw [ignored] at front
          have unfound := Option.map_eq_none_iff.mp front.symm
          have unmatched := Halts.unmatched (mt String.toList_eq_nil_iff.mp filled) unfound
          rw [String.ofList_toList] at unmatched
          exact .refused unmatched

/-- How a step goes: it passes the piece in front, reports it and keeps what it gives, or
there is a reason why reading halts. -/
inductive Steps (wordLike : Char → Bool) (scanner : Scanner) (source : List Char)
    (tokens : List Token) : EStateM.Result Interruption Scanner (List Token) → Prop where
  | read {piece : Piece} {after : List Char} {given : List Token} {events : List Event}
      (found : first? wordLike source = some (piece, after))
      (read : Token.ofPiece piece = ⟨events, .ok given⟩) :
      Steps wordLike scanner source tokens
        (.ok (tokens ++ given) (scanner.after (String.ofList piece.text).utf8ByteSize events))
  | refused {error : LexicalError} (halts : Halts wordLike source error) :
      Steps wordLike scanner source tokens
        (.error (.refused error) (scanner.after 0 [.unreadable error]))

/-- A step is taken between two characters before the end of the source. -/
theorem steps (agrees : AgreesOnAscii wordLike) (stands : scanner.Stands front rest)
    (filled : rest ≠ "") (tokens : List Token) :
    Steps wordLike scanner rest.toList tokens ((step wordLike tokens).run scanner) := by
  have digested := digests agrees stands filled
  rw [step, EStateM.run_bind]
  generalize (digest wordLike).run scanner = result at digested ⊢
  cases digested with
  | @token piece after token found gives =>
      have stepped : Steps wordLike scanner rest.toList tokens _ :=
        .read found (ofPiece_of_gives gives)
      have passed := Scanner.after_after scanner (String.ofList piece.text).utf8ByteSize 0 []
        [.digested token]
      rw [Nat.add_zero, List.nil_append] at passed
      rw [← passed] at stepped
      exact stepped
  | @layout layout text after found =>
      have read : Token.ofPiece ⟨.layout layout, text⟩ = ⟨[.skipped layout], .ok []⟩ := rfl
      have stepped : Steps wordLike scanner rest.toList tokens _ := .read found read
      rw [List.append_nil] at stepped
      exact stepped
  | refused halts => exact .refused halts

/-- A piece that can be read takes one step. -/
theorem run_step_of_read (agrees : AgreesOnAscii wordLike) (stands : scanner.Stands front rest)
    {piece : Piece} {after : List Char} (found : first? wordLike rest.toList = some (piece, after))
    {given : List Token} {events : List Event}
    (read : Token.ofPiece piece = ⟨events, .ok given⟩) (tokens : List Token) :
    (step wordLike tokens).run scanner =
      .ok (tokens ++ given) (scanner.after (String.ofList piece.text).utf8ByteSize events) := by
  have filled : rest ≠ "" := by
    rintro rfl
    cases found
  have stepped := steps agrees stands filled tokens
  generalize (step wordLike tokens).run scanner = result at stepped ⊢
  cases stepped with
  | read foundHere readHere =>
      rw [found] at foundHere
      cases foundHere
      rw [read] at readHere
      cases readHere
      rfl
  | refused halts => exact absurd halts (Halts.not_of_read found read)

/-- Where reading halts, the step ends the scan. -/
theorem run_step_of_halts (agrees : AgreesOnAscii wordLike) (stands : scanner.Stands front rest)
    {error : LexicalError} (halts : Halts wordLike rest.toList error) (tokens : List Token) :
    (step wordLike tokens).run scanner =
      .error (.refused error) (scanner.after 0 [.unreadable error]) := by
  have filled : rest ≠ "" := mt String.toList_eq_nil_iff.mpr halts.ne_nil
  have stepped := steps agrees stands filled tokens
  generalize (step wordLike tokens).run scanner = result at stepped ⊢
  cases stepped with
  | read found read => exact absurd halts (Halts.not_of_read found read)
  | refused halting => rw [halts.unique halting]

/-- Before the end of the source the loop takes a step. -/
theorem run_loop_succ (stands : scanner.Stands front rest) (filled : rest ≠ "") (most : Nat)
    (tokens : List Token) :
    (loop wordLike (most + 1) tokens).run scanner =
      (step wordLike tokens >>= loop wordLike most).run scanner := by
  rw [loop, EStateM.run_bind, stands.run_atEnd, decide_eq_false filled]
  rfl

/-- At the end of the source the loop is over, whatever is left of the budget. -/
theorem run_loop_atEnd (stands : scanner.Stands front "") (most : Nat) (tokens : List Token) :
    (loop wordLike most tokens).run scanner = .ok tokens scanner := by
  cases most with
  | zero => rw [loop, EStateM.run_bind, stands.run_atEnd]; rfl
  | succ most => rw [loop, EStateM.run_bind, stands.run_atEnd]; rfl

end Scan

/-- The scanners in front of the steps through a source, with the number of steps that have
been taken and the tokens that have been kept. -/
inductive Scanner.Reached (wordLike : Char → Bool) (source : String) :
    Nat → Scanner → List Token → Prop where
  | start : Reached wordLike source 0 (.start source) []
  | step {steps : Nat} {scanner next : Scanner} {tokens following : List Token}
      (reached : Reached wordLike source steps scanner tokens)
      (unfinished : Scan.atEnd.run scanner = .ok false scanner)
      (taken : (Scan.step wordLike tokens).run scanner = .ok following next) :
      Reached wordLike source (steps + 1) next following

namespace Scanner.Reached

variable {wordLike : Char → Bool} {source : String} {steps : Nat} {scanner : Scanner}
  {tokens : List Token}

/-- Every scanner that is reached stands between two characters, and has passed at least
one for each step. -/
theorem stands (agrees : AgreesOnAscii wordLike)
    (reached : Reached wordLike source steps scanner tokens) :
    ∃ front rest, scanner.Stands front rest ∧ scanner.source = source ∧
      steps ≤ front.length := by
  induction reached with
  | start => exact ⟨"", source, .start source, rfl, Nat.zero_le _⟩
  | @step steps scanner next tokens following reached unfinished taken inductionHypothesis =>
      obtain ⟨front, rest, stands, same, enough⟩ := inductionHypothesis
      have filled : rest ≠ "" := by
        rw [stands.run_atEnd] at unfinished
        simpa using unfinished
      have stepped := Scan.steps agrees stands filled tokens
      rw [taken] at stepped
      cases stepped with
      | read found read =>
          obtain ⟨shape, _, matched, -⟩ := first?_sound wordLike found
          have positive := List.length_pos_iff.mpr matched.ne_nil
          refine ⟨_, _, stands.pass shape _, same, ?_⟩
          rw [String.length_append, String.length_ofList]
          omega

/-- The scanner steps through what is consumed of a source: each piece takes one step of
the loop, and at least one character. -/
theorem consume (agrees : AgreesOnAscii wordLike) {chars left : List Char}
    {given : List Token} {reported : List Event}
    (consumed : Consumed wordLike chars given reported left)
    (reached : Reached wordLike source steps scanner tokens) {front : String}
    (stands : scanner.Stands front (String.ofList chars)) :
    ∃ (more : Nat) (last : Scanner) (passed : String),
      Reached wordLike source (steps + more) last (tokens ++ given) ∧
      last.Stands passed (String.ofList left) ∧ last.events = scanner.events ++ reported ∧
      more + left.length ≤ chars.length ∧
      ∀ most, (Scan.loop wordLike (most + more) tokens).run scanner =
        (Scan.loop wordLike most (tokens ++ given)).run last := by
  induction consumed using Consumed.stepwise generalizing steps scanner tokens front with
  | nothing =>
      refine ⟨0, scanner, front, ?_, stands, (List.append_nil _).symm, ?_, fun most => ?_⟩
      · rwa [List.append_nil]
      · exact Nat.le_of_eq (Nat.zero_add _)
      · rw [List.append_nil]; rfl
  | @piece chars after piece others events given reported found read _ _ inductionHypothesis =>
      have foundHere : first? wordLike (String.ofList chars).toList = some (piece, after) := by
        rw [String.toList_ofList, found]
      obtain ⟨shape, -⟩ := first?_sound wordLike foundHere
      have stepped := Scan.run_step_of_read agrees stands foundHere read tokens
      have shorter := length_lt_of_first? found
      have filled : String.ofList chars ≠ "" :=
        mt String.ofList_eq_empty_iff.mp (List.ne_nil_of_length_pos (Nat.zero_lt_of_lt shorter))
      have unfinished : Scan.atEnd.run scanner = .ok false scanner := by
        rw [stands.run_atEnd, decide_eq_false filled]
      obtain ⟨more, last, passed, reachedLast, standsLast, sameEvents, enough, same⟩ :=
        inductionHypothesis (.step reached unfinished stepped) (stands.pass shape reported)
      refine ⟨more + 1, last, passed, ?_, standsLast, ?_, ?_, fun most => ?_⟩
      · rw [← List.append_assoc, Nat.add_comm more, ← Nat.add_assoc]
        exact reachedLast
      · rw [sameEvents, Scanner.after, List.append_assoc]
      · omega
      · rw [← Nat.add_assoc, Scan.run_loop_succ stands filled, EStateM.run_bind, stepped,
          ← List.append_assoc]
        exact same most

end Scanner.Reached

/-- What digesting does in front of what is left: some pattern matches a text there that
is not empty, and the scanner passes the bytes of this text; or it stays, and there is a
reason why reading halts. -/
inductive Scan.Advances (wordLike : Char → Bool) (scanner : Scanner) (rest : String) :
    EStateM.Result Interruption Scanner (Option Token) → Prop where
  | passed {pattern : Pattern} {text after : String} {found : Option Token} {events : List Event}
      (tried : pattern ∈ Rule.patterns)
      (matched : pattern.matched? wordLike rest.toList = some text.toList)
      (filled : text ≠ "") (split : rest = text ++ after) :
      Advances wordLike scanner rest (.ok found (scanner.after text.utf8ByteSize events))
  | refused {error : LexicalError} (halts : Halts wordLike rest.toList error) :
      Advances wordLike scanner rest
        (.error (.refused error) (scanner.after 0 [.unreadable error]))

/-- How a scan of a whole source ends, as reading its tokens does: at its end, or where
reading halts. -/
inductive Scan.Completes (wordLike : Char → Bool) (source : String) :
    EStateM.Result Interruption Scanner (List Token) → Prop where
  | finished {steps : Nat} {last : Scanner} {tokens : List Token}
      (reached : Scanner.Reached wordLike source steps last tokens)
      (passed : last.position = source.utf8ByteSize)
      (read : tokenizeWith wordLike source =
        ⟨last.events ++ [.tokenized tokens.length], .ok tokens⟩) :
      Completes wordLike source (.ok tokens (last.after 0 [.tokenized tokens.length]))
  | refused {steps : Nat} {last : Scanner} {tokens : List Token} {error : LexicalError}
      (reached : Scanner.Reached wordLike source steps last tokens)
      (read : tokenizeWith wordLike source =
        ⟨last.events ++ [.unreadable error], .error error⟩) :
      Completes wordLike source
        (.error (.refused error) (last.after 0 [.unreadable error]))

variable {wordLike : Char → Bool}

/-- Digesting a piece passes a text that some pattern matches. -/
theorem Scan.Digests.advances (agrees : AgreesOnAscii wordLike) {scanner : Scanner}
    {rest : String} {result : EStateM.Result Interruption Scanner (Option Token)}
    (digested : Digests wordLike scanner rest.toList result) :
    Advances wordLike scanner rest result := by
  have fits {piece : Piece} {after : List Char}
      (found : first? wordLike rest.toList = some (piece, after)) :
      ∃ pattern ∈ Rule.patterns,
        pattern.matched? wordLike rest.toList = some (String.ofList piece.text).toList ∧
        String.ofList piece.text ≠ "" ∧
        rest = String.ofList piece.text ++ String.ofList after := by
    obtain ⟨pattern, tried, matched⟩ := exists_pattern_of_first? agrees found
    obtain ⟨shape, _, admitted, -⟩ := first?_sound wordLike found
    refine ⟨pattern, tried, ?_, mt String.ofList_eq_empty_iff.mp admitted.ne_nil,
      Text.eq_ofList_append shape⟩
    rw [matched, String.toList_ofList]
  cases digested with
  | token found gives =>
      obtain ⟨pattern, tried, matched, filled, split⟩ := fits found
      exact .passed tried matched filled split
  | layout found =>
      obtain ⟨pattern, tried, matched, filled, split⟩ := fits found
      exact .passed tried matched filled split
  | refused halts => exact .refused halts

/-- As many steps as there are characters are enough, and they read the tokens of the
source. -/
theorem Scan.completes (agrees : AgreesOnAscii wordLike) (source : String) :
    Completes wordLike source ((whole wordLike source.length).run (.start source)) := by
  obtain ⟨tokens, events, rest, consumed, ending⟩ := consumed_tokenizeWith wordLike source
  have stands : (Scanner.start source).Stands "" (String.ofList source.toList) := by
    rw [String.ofList_toList]
    exact .start source
  obtain ⟨more, last, passed, reached, standsLast, sameEvents, enough, same⟩ :=
    Scanner.Reached.start.consume agrees consumed stands
  rw [String.length_toList] at enough
  obtain ⟨most, budget⟩ := Nat.exists_eq_add_of_le' (Nat.le_of_add_right_le enough)
  have eventsSame : last.events = events := sameEvents
  subst eventsSame
  rw [List.nil_append] at reached
  rw [whole, EStateM.run_bind, budget, same, List.nil_append]
  rcases ending with ⟨error, halts, read⟩ | ⟨rfl, read⟩
  · -- There is a character left to halt at, so there is a step left to find out.
    have remaining := List.length_pos_iff.mpr halts.ne_nil
    obtain ⟨most, rfl⟩ := Nat.exists_eq_add_one_of_ne_zero (show most ≠ 0 by omega)
    have filled : String.ofList rest ≠ "" := mt String.ofList_eq_empty_iff.mp halts.ne_nil
    have haltsThere : Halts wordLike (String.ofList rest).toList error := by
      rwa [String.toList_ofList]
    rw [run_loop_succ standsLast filled, EStateM.run_bind,
      run_step_of_halts agrees standsLast haltsThere]
    exact .refused reached read
  · rw [run_loop_atEnd standsLast]
    obtain ⟨-, -, -, sameSource, -⟩ := reached.stands agrees
    have all : last.source = passed := standsLast.source.trans String.append_empty
    refine .finished reached ?_ read
    rw [standsLast.position, ← all, sameSource]

/-- Scanning always advances, and never takes a slice that is not there. At every step the
position is at the edge of a character, and what is left is the source from there on.
Digesting passes the bytes of a text in front that some pattern matches and that is not
empty, as no pattern matches an empty text. So as many steps as there are characters are
enough. A string that is matched stands between quotes, and what is between them is a
slice of it. -/
theorem scanning_in_bounds (source : String) :
    (∀ steps scanner tokens,
      Scanner.Reached Text.isWordCharacter source steps scanner tokens →
      ∃ front rest, scanner.source = source ∧ source = front ++ rest ∧
        scanner.position = front.utf8ByteSize ∧
        scanner.position ≤ source.utf8ByteSize ∧
        String.Pos.Raw.IsValid source ⟨scanner.position⟩ ∧
        steps ≤ source.length ∧
        Scan.rest.run scanner = .ok rest scanner ∧
        (rest ≠ "" → Scan.Advances Text.isWordCharacter scanner rest
          ((Scan.digest Text.isWordCharacter).run scanner))) ∧
    Scan.Completes Text.isWordCharacter source
      ((Scan.whole Text.isWordCharacter source.length).run (.start source)) ∧
    (∀ pattern ∈ Rule.patterns, ∀ rest text,
      pattern.matched? Text.isWordCharacter rest = some text →
      text ≠ [] ∧ ∃ after, rest = text ++ after) ∧
    ∀ rest text : String,
      Pattern.string.matched? Text.isWordCharacter rest.toList = some text.toList →
      2 ≤ text.utf8ByteSize ∧ ∃ content, text = "\"" ++ content ++ "\"" ∧
        Text.slice? text 1 (text.utf8ByteSize - 1) = some content := by
  have agrees := isWordCharacter_agreesOnAscii
  refine ⟨fun steps scanner tokens reached => ?_, Scan.completes agrees source,
    fun pattern tried rest text matched => ?_, fun rest text matched => ?_⟩
  · obtain ⟨front, rest, stands, rfl, enough⟩ := reached.stands agrees
    have edge := Text.isValid_append front rest
    refine ⟨front, rest, rfl, stands.source, stands.position, ?_, ?_, ?_, stands.run_rest,
      fun filled => (Scan.digests agrees stands filled).advances agrees⟩
    · rw [stands.source, stands.position]
      exact edge.le_utf8ByteSize
    · rw [stands.source, stands.position]
      exact edge
    · rw [stands.source, String.length_append]
      omega
  · obtain ⟨inFront, admitted⟩ := Pattern.matched?_sound matched
    exact ⟨admitted.filled (Rule.canBeEmpty_of_mem tried), inFront⟩
  · obtain ⟨content, shape⟩ := Pattern.quoted_of_matched?_string matched
    obtain rfl : text = "\"" ++ String.ofList content ++ "\"" := by
      rw [← Text.ofList_quoted, ← shape, String.ofList_toList]
    refine ⟨?_, String.ofList content, rfl, Text.slice?_quoted _⟩
    rw [String.utf8ByteSize_append, String.utf8ByteSize_append]
    have quote : "\"".utf8ByteSize = 1 := rfl
    omega

/-- After a string with a character of two bytes the scanner stands behind its last quote.
The third byte of the source belongs to that character, which a slice may not cut. -/
theorem scanning_in_bounds_wide_character :
    Scanner.Reached Text.isWordCharacter "\"é\"#ß" 1
      ⟨"\"é\"#ß", 4, [.digested ⟨.string, .text "é"⟩]⟩ [⟨.string, .text "é"⟩] ∧
    String.Pos.Raw.IsValid "\"é\"#ß" ⟨4⟩ ∧ ¬ String.Pos.Raw.IsValid "\"é\"#ß" ⟨2⟩ ∧
    2 ≤ "\"é\"".utf8ByteSize := by
  have found : first? Text.isWordCharacter "\"é\"#ß".toList =
      some (⟨.quoted, ['"', 'é', '"']⟩, ['#', 'ß']) :=
    rfl
  have reached : Scanner.Reached Text.isWordCharacter "\"é\"#ß" 1
      ⟨"\"é\"#ß", 4, [.digested ⟨.string, .text "é"⟩]⟩ [⟨.string, .text "é"⟩] :=
    .step .start rfl
      (Scan.run_step_of_read isWordCharacter_agreesOnAscii (.start _) found rfl [])
  have matched : Pattern.string.matched? Text.isWordCharacter "\"é\"#ß".toList =
      some "\"é\"".toList :=
    rfl
  obtain ⟨scanners, -, -, strings⟩ := scanning_in_bounds "\"é\"#ß"
  obtain ⟨front, rest, -, -, -, -, edge, -⟩ := scanners 1 _ _ reached
  exact ⟨reached, edge, by decide, (strings _ _ matched).1⟩

end ScriptFront
