import Mathlib.Control.Monad.Basic
import PocketCalculator.Proofs.ReversePolish.Provenance
import PocketCalculator.Proofs.Stacks.Balance
import PocketCalculator.Proofs.Token.Words

/-! Where the errors of an expression come from, and which of them comes first. -/

namespace PocketCalculator

namespace Token

/-- What is quoted for lack of meaning is a token that has none. -/
theorem of_canRaise_unknownToken {token : Token} {quoted : String}
    (raises : token.CanRaise (.unknownToken quoted)) : token.isKnown = false ∧ token.text = quoted := by
  -- Names that no function has and unknown characters are the tokens that can be reported.
  cases token with
  | name text =>
    obtain ⟨rfl, unnamed⟩ := raises
    exact ⟨by rw [isKnown, unnamed, Option.isSome_none], rfl⟩
  | unknown c => exact ⟨rfl, raises.symm⟩
  | _ => exact raises.elim

/-- Each of the errors that lie in the value of an operand has a single token that can raise it. -/
theorem eq_of_canRaise (token : Token) :
    (token.CanRaise .divisionByZero → token = operator .divide)
      ∧ (token.CanRaise .factorialDomain → token = operator .factorial)
      ∧ (token.CanRaise .rootDomain → token = name MathFunction.sqrt.name) := by
  -- The kinds of tokens name their errors, and each of these has one source.
  cases token <;> simp [CanRaise]

end Token

section

variable {unit : AngleUnit}

/-- A token without a meaning is refused on sight, whatever the stacks hold. -/
theorem Stacks.feed_of_not_isKnown {token : Token} (meaningless : token.isKnown = false)
    (state : Stacks) : state.feed unit token = .error (.unknownToken token.text) := by
  -- A name is looked up and not found; an unknown character is refused at once.
  cases token with
  | name text =>
    have unnamed : MathFunction.ofName? text = none := Option.not_isSome_iff_eq_none.mp
      (Bool.eq_false_iff.mp meaningless)
    rw [feed_name_eq, MathFunction.named, unnamed]
    rfl
  | unknown c => rfl
  | _ => cases meaningless

/-- No error of an expression has to do with the room for its text. -/
theorem evaluateTokens_ne_inputFull (tokens : List Token) :
    evaluateTokens unit tokens ≠ .error .inputFull := by
  intro failed
  obtain malformed | ⟨token, -, raises⟩ := canRaise_of_evaluateTokens failed
  · cases malformed
  · -- No token raises it.
    cases token <;> exact raises

/-- An error that only one token can raise shows that this token is there. -/
theorem mem_of_evaluateTokens {tokens : List Token} {error : CalcError} {source : Token}
    (only : ∀ token : Token, token.CanRaise error → token = source) (other : error ≠ .malformed)
    (failed : evaluateTokens unit tokens = .error error) : source ∈ tokens := by
  -- The error comes from one of the tokens, and only one token can raise it.
  obtain ⟨token, member, raises⟩ := (canRaise_of_evaluateTokens failed).resolve_left other
  rwa [only token raises] at member

/-- Tokens that all have a meaning are never quoted for lack of it. -/
theorem evaluateTokens_ne_unknownToken {tokens : List Token} (known : ∀ token ∈ tokens, token.isKnown)
    (quoted : String) : evaluateTokens unit tokens ≠ .error (.unknownToken quoted) := by
  -- An unknown token would be the source of the error.
  intro failed
  obtain malformed | ⟨token, member, raises⟩ := canRaise_of_evaluateTokens failed
  · cases malformed
  · obtain ⟨meaningless, -⟩ := Token.of_canRaise_unknownToken raises
    rw [known token member] at meaningless
    cases meaningless

/--
From the first token without a meaning on, nothing matters any more.

The error is one of the tokens before it, or else it quotes that token.
-/
theorem exists_error_of_not_isKnown (unit : AngleUnit) {before : List Token} {token : Token}
    (known : ∀ earlier ∈ before, earlier.isKnown) (meaningless : token.isKnown = false) :
    ∃ error, (∀ quoted, error = .unknownToken quoted → token.text = quoted)
      ∧ ∀ later, evaluateTokens unit (before ++ token :: later) = .error error := by
  -- What the tokens before it lead to is settled before it is looked at.
  cases run : before.foldlM (Stacks.feed unit) Stacks.empty with
  | error error =>
    refine ⟨error, ?_, fun later => by rw [evaluateTokens_append, run, error_bind]⟩
    rintro quoted rfl
    -- The tokens before it would have the same error by themselves.
    have alone : evaluateTokens unit before = .error (.unknownToken quoted) := by
      rw [evaluateTokens_eq_outcome, Stacks.outcome, run, error_bind]
    exact absurd alone (evaluateTokens_ne_unknownToken known quoted)
  | ok state =>
    refine ⟨.unknownToken token.text, ?_, fun later => ?_⟩
    · intro quoted same
      exact CalcError.unknownToken.inj same
    · rw [evaluateTokens_append, run, ok_bind, Stacks.outcome_cons,
        Stacks.feed_of_not_isKnown meaningless, error_bind]

/-- A token that is quoted for lack of meaning is the first one that has none. -/
theorem find?_of_unknownToken {tokens : List Token} {quoted : String}
    (failed : evaluateTokens unit tokens = .error (.unknownToken quoted)) :
    ∃ token, tokens.find? (fun token => !token.isKnown) = some token ∧ token.text = quoted := by
  cases found : tokens.find? (fun token => !token.isKnown) with
  | none =>
    -- Then all tokens have a meaning.
    have known : ∀ token ∈ tokens, token.isKnown := by simpa using found
    exact absurd failed (evaluateTokens_ne_unknownToken known quoted)
  | some token =>
    obtain ⟨meaningless, before, later, rfl, known⟩ := List.find?_eq_some_iff_append.mp found
    obtain ⟨error, quotes, same⟩ := exists_error_of_not_isKnown unit
      (by simpa using known) (by simpa using meaningless)
    rw [same later] at failed
    exact ⟨token, rfl, quotes quoted (Except.error.inj failed)⟩

end

/--
Every error of a text can be traced to its tokens.

A literal that is no number comes before all else.
A token without a meaning cuts off everything behind it, and only the first one is ever quoted.
-/
theorem evaluate_error_of_tokens (unit : AngleUnit) (text : String) :
    evaluate unit text ≠ .error .inputFull
      ∧ (∀ error, Token.ofText text = .error error → evaluate unit text = .error .malformed)
      ∧ ∀ tokens, Token.ofText text = .ok tokens →
        (evaluate unit text = .error .divisionByZero → .operator .divide ∈ tokens)
        ∧ (evaluate unit text = .error .factorialDomain → .operator .factorial ∈ tokens)
        ∧ (evaluate unit text = .error .rootDomain → .name MathFunction.sqrt.name ∈ tokens)
        ∧ (∀ quoted, evaluate unit text = .error (.unknownToken quoted) →
            ∃ token, tokens.find? (fun token => !token.isKnown) = some token
              ∧ token.text = quoted)
        ∧ ∀ before token after, tokens = before ++ token :: after →
            (∀ earlier ∈ before, earlier.isKnown) → token.isKnown = false →
            ∃ error, evaluate unit text = .error error
              ∧ ∀ later, evaluateTokens unit (before ++ token :: later) = .error error := by
  -- The error belongs to the reading or to the evaluation of the tokens.
  refine ⟨?_, fun error => evaluate_of_ofText_error, ?_⟩
  · cases read : Token.ofText text with
    | error error =>
      rw [evaluate_of_ofText_error read]
      nofun
    | ok tokens =>
      rw [evaluate_of_ofText read]
      exact evaluateTokens_ne_inputFull tokens
  · intro tokens read
    rw [evaluate_of_ofText read]
    -- Each error of the domain has one operator or function for its source.
    refine ⟨?_, ?_, ?_, fun quoted => find?_of_unknownToken, ?_⟩
    · exact mem_of_evaluateTokens (fun token => token.eq_of_canRaise.1) nofun
    · exact mem_of_evaluateTokens (fun token => token.eq_of_canRaise.2.1) nofun
    · exact mem_of_evaluateTokens (fun token => token.eq_of_canRaise.2.2) nofun
    · -- What follows the first unknown token is never looked at.
      rintro before token after rfl known meaningless
      obtain ⟨error, -, same⟩ := exists_error_of_not_isKnown unit known meaningless
      exact ⟨error, same after, same⟩

/-- A quotient goes wrong before a name that means nothing, but not before a literal that is no number. -/
theorem evaluate_error_of_tokens_quotients :
    (Token.ofText "1/0+1.2.3" = .error .malformed ∧ evaluate .degrees "1/0+1.2.3" = .error .malformed)
      ∧ (∃ tokens, Token.ofText "1/0+root(#)" = .ok tokens
        ∧ evaluate .degrees "1/0+root(#)" = .error .divisionByZero ∧ .operator .divide ∈ tokens
        ∧ tokens = [.number 1, .operator .divide, .number 0, .operator .add]
          ++ .name "root" :: [.opening, .unknown '#', .closing]
        ∧ ∃ error, evaluate .degrees "1/0+root(#)" = .error error
          ∧ ∀ later, evaluateTokens .degrees ([.number 1, .operator .divide, .number 0,
            .operator .add] ++ .name "root" :: later) = .error error)
      ∧ (∃ tokens, Token.ofText "2*root#" = .ok tokens
        ∧ evaluate .degrees "2*root#" = .error (.unknownToken "root")
        ∧ ∃ token, tokens.find? (fun token => !token.isKnown) = some token ∧ token.text = "root")
      ∧ (∃ tokens, Token.ofText "2.5!" = .ok tokens
        ∧ evaluate .degrees "2.5!" = .error .factorialDomain ∧ .operator .factorial ∈ tokens)
      ∧ ∃ tokens, Token.ofText "sqrt(-1)" = .ok tokens
        ∧ evaluate .degrees "sqrt(-1)" = .error .rootDomain
        ∧ .name MathFunction.sqrt.name ∈ tokens := by
  refine ⟨?_, ?_, ?_, ?_, ?_⟩
  · have spoilt : Token.ofText "1/0+1.2.3" = .error .malformed := by decide +kernel
    exact ⟨spoilt, (evaluate_error_of_tokens .degrees _).2.1 _ spoilt⟩
  · have read : Token.ofText "1/0+root(#)" = .ok [.number 1, .operator .divide, .number 0,
        .operator .add, .name "root", .opening, .unknown '#', .closing] := by
      decide +kernel
    have divided : evaluate .degrees "1/0+root(#)" = .error .divisionByZero := by decide +kernel
    have sources := (evaluate_error_of_tokens .degrees _).2.2 _ read
    refine ⟨_, read, divided, sources.1 divided, rfl, ?_⟩
    -- The tokens up to the sum all have a meaning, and the name behind it has none.
    exact sources.2.2.2.2 _ _ _ rfl (by simp [Token.isKnown]) (by decide)
  · have read : Token.ofText "2*root#" = .ok [.number 2, .operator .multiply, .name "root",
        .unknown '#'] := by
      decide +kernel
    have quoted : evaluate .degrees "2*root#" = .error (.unknownToken "root") := by decide +kernel
    exact ⟨_, read, quoted, ((evaluate_error_of_tokens .degrees _).2.2 _ read).2.2.2.1 _ quoted⟩
  · have read : Token.ofText "2.5!" = .ok [.number 2.5, .operator .factorial] := by decide +kernel
    have fraction : evaluate .degrees "2.5!" = .error .factorialDomain := by decide +kernel
    exact ⟨_, read, fraction, ((evaluate_error_of_tokens .degrees _).2.2 _ read).2.1 fraction⟩
  · have read : Token.ofText "sqrt(-1)" = .ok [.name "sqrt", .opening, .number (-1), .closing] := by
      decide +kernel
    have negative : evaluate .degrees "sqrt(-1)" = .error .rootDomain := by decide +kernel
    exact ⟨_, read, negative, ((evaluate_error_of_tokens .degrees _).2.2 _ read).2.2.1 negative⟩

end PocketCalculator
