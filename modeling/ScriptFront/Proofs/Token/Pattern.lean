import ScriptFront.Proofs.Token.Munch
import ScriptFront.Token.Pattern

/-!
# What patterns match

Every way of a pattern passes a text that stands in front, and two facts about the text
can be told from the pattern alone. A pattern that needs a character never matches an
empty text, and one that cannot begin with the character in front does not match at all.
-/

namespace ScriptFront

/-- A text lies between two places. -/
structure Place.Leads (start : Place) (text : List Char) (finish : Place) : Prop where
  rest : start.rest = text ++ finish.rest
  passed : finish.passed = text.reverse ++ start.passed

/-- What can be told from a pattern about its texts. -/
structure Pattern.Admits (pattern : Pattern) (text : List Char) : Prop where
  filled : pattern.canBeEmpty = false → text ≠ []
  front : ∀ head ∈ text.head?, pattern.begins head = true

namespace Place

variable {start middle finish : Place} {text more : List Char}

theorem Leads.stay (place : Place) : place.Leads [] place :=
  ⟨rfl, rfl⟩

/-- Texts in a row. -/
theorem Leads.append (first : start.Leads text middle) (second : middle.Leads more finish) :
    start.Leads (text ++ more) finish where
  rest := by rw [first.rest, second.rest, List.append_assoc]
  passed := by rw [second.passed, first.passed, List.reverse_append, List.append_assoc]

end Place

namespace Pattern

variable {wordLike : Char → Bool} {pattern first second inner : Pattern}

theorem Admits.nil (canBeEmpty : pattern.canBeEmpty = true) : pattern.Admits [] where
  filled needed := by rw [canBeEmpty] at needed; cases needed
  front := nofun

/-- Texts of two patterns in a row. -/
theorem Admits.both {text more : List Char} (left : first.Admits text)
    (right : second.Admits more) : (Pattern.both first second).Admits (text ++ more) := by
  constructor
  · intro needed
    rw [canBeEmpty, Bool.and_eq_false_iff] at needed
    rcases needed with needed | needed
    · exact List.append_ne_nil_of_left_ne_nil (left.filled needed) _
    · exact List.append_ne_nil_of_right_ne_nil _ (right.filled needed)
  · intro head front
    rw [begins, Bool.or_eq_true, Bool.and_eq_true]
    cases text with
    | cons character rest => exact .inl (left.front head front)
    | nil =>
        have skipped : first.canBeEmpty = true := by
          cases canBeEmpty : first.canBeEmpty with
          | true => rfl
          | false => exact absurd rfl (left.filled canBeEmpty)
        exact .inr ⟨skipped, right.front head front⟩

/-- Turns in a row pass texts of the repetition. -/
theorem leads_of_mem_repeatWithin {turn : Place → List Place}
    (once : ∀ start, ∀ finish ∈ turn start,
      ∃ text, start.Leads text finish ∧ inner.Admits text) (turns : Nat) :
    ∀ start, ∀ finish ∈ repeatWithin turn turns start,
      ∃ text, start.Leads text finish ∧ (Pattern.repeated inner).Admits text := by
  have stays (place : Place) :
      ∃ text, place.Leads text place ∧ (Pattern.repeated inner).Admits text :=
    ⟨[], .stay place, .nil rfl⟩
  induction turns with
  | zero =>
      intro start finish way
      rw [repeatWithin, List.mem_singleton] at way
      subst way
      exact stays finish
  | succ turns inductionHypothesis =>
      intro start finish way
      rw [repeatWithin, List.mem_append, List.mem_flatMap, List.mem_singleton] at way
      rcases way with ⟨middle, taken, following⟩ | rfl
      · obtain ⟨text, leads, admits⟩ := once start middle taken
        obtain ⟨more, others, admitsMore⟩ := inductionHypothesis middle finish following
        refine ⟨text ++ more, leads.append others, nofun, fun head front => ?_⟩
        cases text with
        | nil => exact admitsMore.front head front
        | cons character rest => exact admits.front head front
      · exact stays finish

/-- Every way passes a text that the pattern admits. -/
theorem leads_of_mem_ways (pattern : Pattern) : ∀ start, ∀ finish ∈ ways wordLike pattern start,
    ∃ text, start.Leads text finish ∧ pattern.Admits text := by
  induction pattern with
  | empty =>
      intro start finish way
      rw [ways, List.mem_singleton] at way
      subst way
      exact ⟨[], .stay finish, .nil rfl⟩
  | wordEdge =>
      intro start finish way
      rw [ways] at way
      split at way
      · cases way
      · obtain rfl := List.mem_singleton.mp way
        exact ⟨[], .stay finish, .nil rfl⟩
  | one accepts =>
      rintro ⟨passed, source⟩ finish way
      cases source with
      | nil => cases way
      | cons head rest =>
          simp only [ways] at way
          split at way
          · next accepted =>
            obtain rfl := List.mem_singleton.mp way
            refine ⟨[head], ⟨rfl, rfl⟩, fun _ => List.cons_ne_nil _ _, ?_⟩
            rintro _ ⟨⟩
            exact accepted
          · cases way
  | both first second left right =>
      intro start finish way
      rw [ways, List.mem_flatMap] at way
      obtain ⟨middle, taken, following⟩ := way
      obtain ⟨text, leads, admits⟩ := left start middle taken
      obtain ⟨more, others, admitsMore⟩ := right middle finish following
      exact ⟨text ++ more, leads.append others, admits.both admitsMore⟩
  | either first second left right =>
      intro start finish way
      rw [ways, List.mem_append] at way
      rcases way with way | way
      · obtain ⟨text, leads, admits⟩ := left start finish way
        refine ⟨text, leads, fun needed => admits.filled ?_, fun head front => ?_⟩
        · exact (Bool.or_eq_false_iff.mp needed).1
        · exact Bool.or_eq_true_iff.mpr (.inl (admits.front head front))
      · obtain ⟨text, leads, admits⟩ := right start finish way
        refine ⟨text, leads, fun needed => admits.filled ?_, fun head front => ?_⟩
        · exact (Bool.or_eq_false_iff.mp needed).2
        · exact Bool.or_eq_true_iff.mpr (.inr (admits.front head front))
  | repeated inner inductionHypothesis =>
      intro start
      exact leads_of_mem_repeatWithin inductionHypothesis start.rest.length start

/-- A match is a text that the pattern admits at the front of the source. -/
theorem matched?_sound {source text : List Char}
    (found : pattern.matched? wordLike source = some text) :
    (∃ rest, source = text ++ rest) ∧ pattern.Admits text := by
  obtain ⟨finish, first, rfl⟩ := Option.map_eq_some_iff.mp found
  obtain ⟨text, leads, admits⟩ := leads_of_mem_ways pattern _ finish (List.mem_of_head? first)
  have same : finish.passed.reverse = text := by
    rw [leads.passed, List.append_nil, List.reverse_reverse]
  rw [same]
  exact ⟨⟨finish.rest, leads.rest⟩, admits⟩

/-- A pattern that needs a character does not match where none of its texts begins. -/
theorem matched?_eq_none {head : Char} (rest : List Char) (needed : pattern.canBeEmpty = false)
    (apart : pattern.begins head = false) : pattern.matched? wordLike (head :: rest) = none := by
  cases found : pattern.matched? wordLike (head :: rest) with
  | none => rfl
  | some text =>
      obtain ⟨⟨after, shape⟩, admits⟩ := matched?_sound found
      obtain ⟨character, others, rfl⟩ := List.exists_cons_of_ne_nil (admits.filled needed)
      cases shape
      have begun := admits.front head rfl
      rw [apart] at begun
      cases begun

section Ways

variable (wordLike)

theorem ways_one (accepts : Char → Bool) {head : Char} (accepted : accepts head = true)
    (rest passed : List Char) :
    ways wordLike (.one accepts) ⟨passed, head :: rest⟩ = [⟨head :: passed, rest⟩] := by
  simp only [ways, accepted, if_true]

theorem ways_one_of_not (accepts : Char → Bool) {head : Char} (refused : accepts head = false)
    (rest passed : List Char) : ways wordLike (.one accepts) ⟨passed, head :: rest⟩ = [] := by
  simp only [ways, refused, Bool.false_eq_true, if_false]

/-- Where a text stands in front, its spelling leads past it. -/
theorem ways_spelled (text rest passed : List Char) :
    ways wordLike (spelled text) ⟨passed, text ++ rest⟩ = [⟨text.reverse ++ passed, rest⟩] := by
  induction text generalizing passed with
  | nil => rfl
  | cons head tail inductionHypothesis =>
      have once := ways_one wordLike (· == head) (beq_self_eq_true head)
      rw [spelled, ways, List.cons_append, once, List.flatMap_singleton, inductionHypothesis,
        List.reverse_cons, List.append_assoc]
      rfl

/-- The first way of two patterns in a row goes on after the first way of the left one,
if the right one leads on from there. -/
theorem head?_both {start middle finish : Place}
    (left : (ways wordLike first start).head? = some middle)
    (right : (ways wordLike second middle).head? = some finish) :
    (ways wordLike (.both first second) start).head? = some finish := by
  obtain ⟨others, shape⟩ := List.head?_eq_some_iff.mp left
  rw [ways, shape, List.flatMap_cons, List.head?_append, right]
  rfl

/-- Characters of a set are first taken as far as they go. -/
theorem head?_repeated_one (accepts : Char → Bool) (source passed : List Char) :
    (ways wordLike (.repeated (.one accepts)) ⟨passed, source⟩).head? =
      some ⟨(source.takeWhile accepts).reverse ++ passed, source.dropWhile accepts⟩ := by
  rw [ways]
  induction source generalizing passed with
  | nil => rfl
  | cons head tail inductionHypothesis =>
      rw [List.length_cons, repeatWithin]
      cases accepted : accepts head with
      | true =>
          rw [ways_one wordLike accepts accepted, List.flatMap_singleton, List.head?_append,
            inductionHypothesis, List.takeWhile_cons_of_pos accepted,
            List.dropWhile_cons_of_pos accepted, List.reverse_cons, List.append_assoc]
          rfl
      | false =>
          have refused : ¬ accepts head = true := Bool.eq_false_iff.mp accepted
          rw [ways_one_of_not wordLike accepts accepted, List.takeWhile_cons_of_neg refused,
            List.dropWhile_cons_of_neg refused]
          rfl

/-- A character of a set and those after it are first taken as far as they go. -/
theorem head?_oneOrMore {accepts : Char → Bool} {head : Char} (accepted : accepts head = true)
    (tail passed : List Char) :
    (ways wordLike (oneOrMore accepts) ⟨passed, head :: tail⟩).head? =
      some ⟨((head :: tail).takeWhile accepts).reverse ++ passed,
        (head :: tail).dropWhile accepts⟩ := by
  have once := congrArg List.head? (ways_one wordLike accepts accepted tail passed)
  refine (head?_both wordLike once (head?_repeated_one wordLike accepts tail _)).trans ?_
  rw [List.takeWhile_cons_of_pos accepted, List.dropWhile_cons_of_pos accepted,
    List.reverse_cons, List.append_assoc]
  rfl

end Ways

/-- The first way is the match. -/
theorem matched?_of_head? {source text rest : List Char}
    (first : (ways wordLike pattern ⟨[], source⟩).head? = some ⟨text.reverse ++ [], rest⟩) :
    pattern.matched? wordLike source = some text := by
  rw [matched?, first, Option.map_some, List.append_nil, List.reverse_reverse]

/-- The spelling of a text leads nowhere else than past this text. -/
theorem rest_of_mem_spelled {text : List Char} {start finish : Place}
    (way : finish ∈ ways wordLike (spelled text) start) :
    start.rest = text ++ finish.rest := by
  induction text generalizing start with
  | nil =>
      obtain rfl := List.mem_singleton.mp way
      rfl
  | cons head tail inductionHypothesis =>
      obtain ⟨middle, first, others⟩ := List.mem_flatMap.mp way
      obtain ⟨passed, source⟩ := start
      cases source with
      | nil => cases first
      | cons character rest =>
          cases same : character == head with
          | true =>
              rw [ways_one wordLike (· == head) same] at first
              obtain rfl := List.mem_singleton.mp first
              rw [beq_iff_eq.mp same, List.cons_append]
              exact congrArg _ (inductionHypothesis others)
          | false =>
              rw [ways_one_of_not wordLike (· == head) same] at first
              cases first

/-- A spelling does not match where its text does not stand. -/
theorem matched?_spelled_of_not {text source : List Char}
    (apart : ¬ ∃ rest, source = text ++ rest) :
    (spelled text).matched? wordLike source = none := by
  cases found : (spelled text).matched? wordLike source with
  | none => rfl
  | some matched =>
      obtain ⟨finish, first, -⟩ := Option.map_eq_some_iff.mp found
      exact absurd ⟨_, rest_of_mem_spelled (List.mem_of_head? first)⟩ apart

/-- What is possible is taken. -/
theorem head?_optional {place finish : Place}
    (found : (ways wordLike pattern place).head? = some finish) :
    (ways wordLike (.either pattern .empty) place).head? = some finish := by
  rw [ways, List.head?_append, found]
  rfl

/-- What is impossible is left out. -/
theorem head?_optional_of_nil {place : Place}
    (stuck : ways wordLike pattern place = []) :
    (ways wordLike (.either pattern .empty) place).head? = some place := by
  rw [ways, stuck]
  rfl

/-- A repetition ends where its pattern leads nowhere. -/
theorem repeatWithin_of_nil {turn : Place → List Place} {place : Place}
    (stuck : turn place = []) (turns : Nat) : repeatWithin turn turns place = [place] := by
  cases turns with
  | zero => rfl
  | succ turns =>
      rw [repeatWithin, stuck]
      rfl

/-- Where a turn can be taken in one way and what comes after the repetition cannot stand,
the turn is taken. -/
theorem repeatWithin_of_singleton {turn after : Place → List Place} {place next : Place}
    (taken : turn place = [next]) (stuck : after place = []) (turns : Nat) :
    (repeatWithin turn (turns + 1) place).flatMap after =
      (repeatWithin turn turns next).flatMap after := by
  rw [repeatWithin, taken, List.flatMap_singleton, List.flatMap_append, List.flatMap_singleton,
    stuck, List.append_nil]

end Pattern

end ScriptFront
