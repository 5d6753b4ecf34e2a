import Mathlib.Data.List.Infix
import PocketCalculator.Proofs.ReversePolish
import PocketCalculator.Proofs.Stacks.Balance
import PocketCalculator.Proofs.Stacks.Isolation
import PocketCalculator.Proofs.Token.Spacing

/-! Parentheses around a whole text change nothing, unless they take part in a mismatch inside. -/

namespace PocketCalculator

namespace Lexeme

/-- Pieces put together give their tokens together, and fail if either part does. -/
theorem read_append (front back : List Lexeme) :
    read (front ++ back) = read front >>= fun tokens => (read back).map (tokens ++ ·) := by
  -- One literal that is no number spoils the whole, in whichever part it stands.
  unfold read
  rw [List.all_append, List.filterMap_append]
  cases front.all isValid <;> cases back.all isValid <;> rfl

/-- A parenthesis is a piece of its own, whatever stands in front of it. -/
theorem ofCharsAfter_parenthesis {c : Char} (parenthesis : c = '(' ∨ c = ')')
    (previous : Option Char) (rest : List Char) :
    ofCharsAfter previous (c :: rest) = symbol c :: ofCharsAfter (some c) rest := by
  -- It is no blank, no letter, no numeral and no minus.
  rcases parenthesis with rfl | rfl <;>
    exact ofCharsAfter_symbol (by decide) (isLetter_of_lt (by decide)) (by decide) (by decide) _ _

/-- Inside parentheses a text falls into the same pieces as by itself. -/
theorem scan_parenthesised (text : String) :
    scan ("(" ++ text ++ ")") = symbol '(' :: scan text ++ [symbol ')'] := by
  have parts : ("(" ++ text ++ ")").toList = '(' :: (text.toList ++ [')']) := by
    rw [String.toList_append, String.toList_append]
    rfl
  -- No piece goes on with a parenthesis.
  have apart : Apart text.toList [')'] := by
    rintro a - b first
    obtain rfl : ')' = b := Option.some.inj first
    have noLetter : isLetter ')' = false := isLetter_of_lt (by decide)
    simp [Joins, noLetter, show Decimal.isNumeral ')' = false from rfl]
  -- Behind the opening parenthesis a minus is a sign, as it is at the start of a text.
  have start : ofCharsAfter (some '(') text.toList = scan text :=
    ofCharsAfter_congr fun _ => by decide
  rw [scan, parts, ofCharsAfter_parenthesis (.inl rfl), ofCharsAfter_append _ apart, start,
    ofCharsAfter_parenthesis (.inr rfl), ofCharsAfter]
  rfl

end Lexeme

/-- The tokens of a text in parentheses are those of the text in parentheses. -/
theorem Token.ofText_parenthesised (text : String) :
    ofText ("(" ++ text ++ ")")
      = (ofText text).map fun tokens => opening :: tokens ++ [closing] := by
  -- The pieces are those of the text with a parenthesis on either side, and parentheses are tokens.
  rw [ofText_eq_read, ofText_eq_read, Lexeme.scan_parenthesised, List.cons_append,
    Lexeme.read_cons rfl rfl, Lexeme.read_append]
  cases Lexeme.read (Lexeme.scan text) <;> rfl

/-- All parentheses among some tokens have their partners among them. -/
structure Token.ParenthesesMatch (tokens : List Token) : Prop where
  /-- No parenthesis is closed before it is opened. -/
  opened : ∀ front, front <+: tokens → front.count .closing ≤ front.count .opening
  /-- Every parenthesis that is opened is closed. -/
  closed : tokens.count .opening = tokens.count .closing

/-- Whether parentheses match is decided by counting them in each front of the tokens. -/
instance : DecidablePred Token.ParenthesesMatch := fun tokens =>
  decidable_of_iff
    ((∀ front ∈ tokens.inits, front.count .closing ≤ front.count .opening)
      ∧ tokens.count .opening = tokens.count .closing) <| by
    simp only [List.mem_inits]
    exact ⟨fun ⟨opened, closed⟩ => ⟨opened, closed⟩, fun ⟨opened, closed⟩ => ⟨opened, closed⟩⟩

/-- Tokens that close as many groups as are open, and none that is not. -/
structure Token.Closes (depth : Nat) (tokens : List Token) : Prop where
  /-- There is always a group to be closed. -/
  opened : ∀ front, front <+: tokens → front.count .closing ≤ depth + front.count .opening
  /-- In the end no group is open. -/
  closed : depth + tokens.count .opening = tokens.count .closing

namespace Token

section

variable {depth : Nat} {token : Token} {tokens : List Token}

/-- Where nothing is open, tokens close what they open if their parentheses match. -/
theorem ParenthesesMatch.closes (parentheses : ParenthesesMatch tokens) : Closes 0 tokens :=
  -- Nothing is open in front of the tokens.
  ⟨fun front isFront => by simpa using parentheses.opened front isFront,
    by simpa using parentheses.closed⟩

/-- Behind an opening parenthesis one more group is there to be closed. -/
theorem Closes.of_opening (closes : Closes depth (opening :: tokens)) : Closes (depth + 1) tokens := by
  -- The parenthesis opens one more, and each front of what follows is one of the whole.
  have whole := closes.closed
  simp at whole
  refine ⟨fun front isFront => ?_, by omega⟩
  have longer := closes.opened (opening :: front) (List.cons_prefix_cons.mpr ⟨rfl, isFront⟩)
  simp at longer
  omega

/-- A closing parenthesis finds a group to be closed, which is gone behind it. -/
theorem Closes.of_closing (closes : Closes depth (closing :: tokens)) :
    ∃ less, depth = less + 1 ∧ Closes less tokens := by
  -- The parenthesis closes a group, so there was one open.
  have first := closes.opened [closing] (List.prefix_append [closing] tokens)
  have whole := closes.closed
  simp at first whole
  refine ⟨depth - 1, by omega, fun front isFront => ?_, by omega⟩
  have longer := closes.opened (closing :: front) (List.cons_prefix_cons.mpr ⟨rfl, isFront⟩)
  simp at longer
  omega

/-- No other token has a part in this. -/
theorem Closes.of_ne (closes : Closes depth (token :: tokens)) (opens : token ≠ opening)
    (ends : token ≠ closing) : Closes depth tokens := by
  -- A token that is no parenthesis changes no count.
  refine ⟨fun front isFront => ?_, ?_⟩
  · have longer := closes.opened (token :: front) (List.cons_prefix_cons.mpr ⟨rfl, isFront⟩)
    simpa [opens, ends] using longer
  · simpa [opens, ends] using closes.closed

end

end Token

namespace Program

section

variable {due : Waiting → Bool}

/-- Unwinding never gets past a group at the bottom. -/
theorem unwind_append_group (held : due .group = false) (waiting : List Waiting) :
    unwind due (waiting ++ [.group])
      = ((unwind due waiting).1, (unwind due waiting).2 ++ [.group]) := by
  -- The induction is on what waits; the added group comes last and is held back.
  induction waiting with
  | nil => simp [unwind, held]
  | cons top waiting ih =>
    cases isDue : due top with
    | false => simp [unwind, isDue]
    | true => simp [unwind, isDue, ih]

/-- Unwinding leaves all groups open. -/
theorem count_group_unwind (held : due .group = false) (waiting : List Waiting) :
    (unwind due waiting).2.count .group = waiting.count .group := by
  induction waiting with
  | nil => rfl
  | cons top waiting ih =>
    cases isDue : due top with
    | false => simp [unwind, isDue]
    | true =>
      -- What is due is no group.
      have other : top ≠ .group := by
        rintro rfl
        simp [held] at isDue
      simp [unwind, isDue, ih, other]

/-- What is left by unwinding begins with an entry that is not due. -/
theorem not_due_of_unwind {top : Waiting} {waiting below : List Waiting}
    (left : (unwind due waiting).2 = top :: below) : due top = false := by
  -- The induction is on what waits: the first entry that is not due is the one on top.
  induction waiting with
  | nil => cases left
  | cons first waiting ih =>
    cases isDue : due first with
    | true => exact ih (by simpa [unwind, isDue] using left)
    | false =>
      obtain ⟨rfl, -⟩ : first = top ∧ waiting = below := by simpa [unwind, isDue] using left
      exact isDue

end

/-- Unwinding all but groups leaves nothing, if none is open, or stops at one. -/
theorem unwind_to_group (waiting : List Waiting) :
    ((unwind (· ≠ .group) waiting).2 = [] ∧ waiting.count .group = 0)
      ∨ ∃ below, (unwind (· ≠ .group) waiting).2 = .group :: below
        ∧ waiting.count .group = below.count .group + 1 := by
  rw [← @count_group_unwind (· ≠ .group) rfl waiting]
  cases left : (unwind (· ≠ .group) waiting).2 with
  | nil => exact .inl ⟨rfl, rfl⟩
  | cons top below =>
    -- Whatever is left first was not due, so it is a group.
    obtain rfl : top = .group := by simpa using not_due_of_unwind left
    exact .inr ⟨below, rfl, List.count_cons_self⟩

/-- Where a group is open, unwinding all other entries stops at that group. -/
theorem exists_group_of_unwind {waiting : List Waiting} {less : Nat}
    (someOpen : waiting.count .group = less + 1) :
    ∃ below, (unwind (· ≠ .group) waiting).2 = .group :: below ∧ below.count .group = less := by
  -- Unwinding to a group stops at one, or has gone through all that waits; with one open it stops.
  obtain ⟨-, closed⟩ | ⟨below, left, others⟩ := unwind_to_group waiting
  · omega
  · exact ⟨below, left, by omega⟩

/-- Where no group is open, nothing is left. -/
theorem unwind_eq_nil {waiting : List Waiting} (closed : waiting.count .group = 0) :
    (unwind (· ≠ .group) waiting).2 = [] := by
  -- With none open it goes through all that waits.
  obtain ⟨nothing, -⟩ | ⟨below, -, others⟩ := unwind_to_group waiting
  · exact nothing
  · omega

/--
A group around tokens that close what they open adds nothing to their program.

What waits in front of the tokens lies inside the group too.
-/
theorem ofTokensAbove_enclosed {waiting : List Waiting} {tokens : List Token}
    (closes : Token.Closes (waiting.count .group) tokens) :
    ofTokensAbove (waiting ++ [.group]) (tokens ++ [.closing]) = ofTokensAbove waiting tokens := by
  -- The group lies below all that is looked at, until its own parenthesis comes as the last token.
  induction tokens generalizing waiting with
  | nil =>
    have closed : waiting.count .group = 0 := by simpa using closes.closed
    have all := unwind_eq_nil closed
    have plain : ofTokensAbove waiting [] = ⟨(unwind (· ≠ .group) waiting).1, none⟩ := by
      show Program.mk _ (if (unwind (· ≠ .group) waiting).2.isEmpty then none else _) = _
      rw [all]
      rfl
    rw [List.nil_append, ofTokensAbove_closing, unwind_append_group (by rfl), all, plain]
    exact congrArg (Program.mk · none) (List.append_nil _)
  | cons token tokens ih =>
    rw [List.cons_append]
    cases token with
    | number x =>
      rw [ofTokensAbove, ofTokensAbove, ih (closes.of_ne (by simp) (by simp))]
    | name text =>
      rw [ofTokensAbove, ofTokensAbove]
      cases MathFunction.named text with
      | error error => rfl
      | ok f =>
        have inside : Token.Closes ((Waiting.function f :: waiting).count .group) tokens := by
          simpa using closes.of_ne (by simp) (by simp)
        exact ih inside
    | opening =>
      have inside : Token.Closes ((Waiting.group :: waiting).count .group) tokens := by
        simpa using closes.of_opening
      rw [ofTokensAbove, ofTokensAbove]
      exact ih inside
    | operator op =>
      -- The factorial is applied at once, and no other operator yields to a group.
      by_cases waits : op = .factorial
      · subst waits
        rw [ofTokensAbove, ofTokensAbove, ih (closes.of_ne (by simp) (by simp))]
      · have held := Operator.yieldsTo_group waits
        have inside : Token.Closes
            ((Waiting.operator op :: (unwind op.yieldsTo waiting).2).count .group) tokens := by
          simpa [count_group_unwind held] using closes.of_ne (by simp) (by simp)
        rw [ofTokensAbove_operator waits, ofTokensAbove_operator waits, unwind_append_group held]
        exact congrArg _ (ih inside)
    | closing =>
      obtain ⟨less, someOpen, inside⟩ := closes.of_closing
      obtain ⟨below, left, fewer⟩ := exists_group_of_unwind someOpen
      rw [ofTokensAbove_closing, ofTokensAbove_closing, unwind_append_group (by rfl), left]
      -- The group that is closed is another one, above the group around the tokens.
      refine congrArg _ ?_
      subst fewer
      rcases below with _ | ⟨_ | f | _, below⟩
      case cons.function =>
        -- Behind its group a function that called for it is applied.
        have inside' : Token.Closes (below.count .group) tokens := by simpa using inside
        exact congrArg (after [.function f]) (ih inside')
      all_goals exact ih inside
    | unknown character => rfl

end Program

section

variable {unit : AngleUnit} {tokens : List Token}

/-- Parentheses around tokens whose own parentheses match change nothing. -/
theorem evaluateTokens_enclosed (parentheses : Token.ParenthesesMatch tokens) :
    evaluateTokens unit (.opening :: tokens ++ [.closing]) = evaluateTokens unit tokens := by
  -- Both have the same program, above no operands and with nothing that waits.
  have same : Program.ofTokensAbove [.group] (tokens ++ [.closing])
      = Program.ofTokensAbove [] tokens :=
    @Program.ofTokensAbove_enclosed [] tokens parentheses.closes
  rw [evaluateTokens_eq_valueAbove, evaluateTokens_eq_valueAbove, List.cons_append,
    Program.ofTokensAbove, same]

/-- Parentheses around tokens that are not malformed change nothing. -/
theorem evaluateTokens_enclosed_of_sound (sound : evaluateTokens unit tokens ≠ .error .malformed) :
    evaluateTokens unit (.opening :: tokens ++ [.closing]) = evaluateTokens unit tokens := by
  have taken := Stacks.foldlM_group Stacks.empty sound
  rw [evaluateTokens_eq_outcome, Stacks.outcome, taken, bind_assoc]
  cases evaluateTokens unit tokens with
  | error error => rfl
  | ok v =>
    -- The only operand is handed out again, since nothing calls the group.
    show Stacks.finish unit ⟨[v], []⟩ = .ok v
    rw [Stacks.finish_eq, Stacks.settleWhile_nil]
    rfl

end

/--
Parentheses around a text change nothing.

The text is read as before, with the parentheses around its tokens.
What is not malformed comes out as before, and so does everything else if the text cannot be read or if
the parentheses in it match each other.
-/
theorem evaluate_parenthesised (unit : AngleUnit) (text : String) :
    Token.ofText ("(" ++ text ++ ")")
        = (Token.ofText text).map (fun tokens => .opening :: tokens ++ [.closing])
      ∧ (evaluate unit text ≠ .error .malformed →
        evaluate unit ("(" ++ text ++ ")") = evaluate unit text)
      ∧ ((∀ tokens, Token.ofText text = .ok tokens → Token.ParenthesesMatch tokens) →
        evaluate unit ("(" ++ text ++ ")") = evaluate unit text) := by
  -- The tokens of the text are those between the parentheses, so both parts are about tokens.
  have enclosed := Token.ofText_parenthesised text
  have split : evaluate unit ("(" ++ text ++ ")") = Token.ofText text >>= fun tokens =>
      evaluateTokens unit (.opening :: tokens ++ [.closing]) := by
    rw [evaluate, enclosed, map_eq_bind, bind_assoc]
    rfl
  rw [split, evaluate]
  refine ⟨enclosed, fun sound => ?_, fun parentheses => ?_⟩
  · -- A text that cannot be read is malformed with and without parentheses.
    cases read : Token.ofText text with
    | error error => rfl
    | ok tokens =>
      rw [read] at sound
      exact evaluateTokens_enclosed_of_sound sound
  · -- The same holds here; otherwise the parentheses of the tokens match.
    cases read : Token.ofText text with
    | error error => rfl
    | ok tokens => exact evaluateTokens_enclosed (parentheses tokens read)

/-- A sum behind its operands, a quotient with a parenthesis too many, an empty group and a mismatch. -/
theorem evaluate_parenthesised_sum :
    evaluate .degrees "7 9+" = .ok 16 ∧ evaluate .degrees ("(" ++ "7 9+" ++ ")") = .ok 16
      ∧ evaluate .degrees "1/0)" = .error .divisionByZero
      ∧ evaluate .degrees ("(" ++ "1/0)" ++ ")") = .error .divisionByZero
      ∧ Token.ParenthesesMatch [.opening, .closing]
      ∧ evaluate .degrees ("(" ++ "()" ++ ")") = .error .malformed
      ∧ ¬Token.ParenthesesMatch [.number 1, .closing, .operator .add, .opening, .number 2]
      ∧ evaluate .degrees "1)+(2" = .error .malformed
      ∧ evaluate .degrees ("(" ++ "1)+(2" ++ ")") = .ok 3 := by
  -- A sum and an error that keep their outcome, a malformed text that keeps it, and one that does
  -- not, because its parentheses match only with the others around them.
  have sum : evaluate .degrees "7 9+" = .ok 16 := by decide +kernel
  have quotient : evaluate .degrees "1/0)" = .error .divisionByZero := by decide +kernel
  have nothing : Token.ofText "()" = .ok [.opening, .closing] := by decide +kernel
  have malformed : evaluate .degrees "()" = .error .malformed := by
    rw [evaluate_of_ofText nothing]
    decide +kernel
  have parentheses : Token.ParenthesesMatch [.opening, .closing] := by decide +kernel
  have mismatch : Token.ofText "1)+(2"
      = .ok [.number 1, .closing, .operator .add, .opening, .number 2] := by
    decide +kernel
  have unread : evaluate .degrees "1)+(2" = .error .malformed := by
    rw [evaluate_of_ofText mismatch]
    decide +kernel
  refine ⟨sum, ?_, quotient, ?_, parentheses, ?_, by decide +kernel, unread, ?_⟩
  · rw [(evaluate_parenthesised .degrees "7 9+").2.1 (by simp [sum]), sum]
  · rw [(evaluate_parenthesised .degrees "1/0)").2.1 (by simp [quotient]), quotient]
  · rw [(evaluate_parenthesised .degrees "()").2.2 ?_, malformed]
    intro tokens read
    rw [nothing] at read
    cases read
    exact parentheses
  · have enclosed := (evaluate_parenthesised .degrees "1)+(2").1
    rw [mismatch] at enclosed
    rw [evaluate_of_ofText enclosed]
    decide +kernel

end PocketCalculator
