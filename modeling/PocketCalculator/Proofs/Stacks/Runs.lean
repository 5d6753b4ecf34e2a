import PocketCalculator.Proofs.Stacks.Settling
import PocketCalculator.Stacks.Run

/-! A run passes through every state of an evaluation, and comes to the same end. -/

namespace PocketCalculator

namespace Stacks

/-- How a run comes to its end, and with which outcome. -/
inductive Ends (unit : AngleUnit) (tokens : List Token) : Except CalcError Float → Prop where
  /-- A name stands for no function. -/
  | unnamed {text : String} {left : List Token} {state : Stacks} {error : CalcError}
      (run : Run unit tokens (.name text :: left) state)
      (refused : MathFunction.named text = .error error) : Ends unit tokens (.error error)
  /-- A character has no meaning. -/
  | unknown {character : Char} {left : List Token} {state : Stacks}
      (run : Run unit tokens (.unknown character :: left) state) :
      Ends unit tokens (.error (.unknownToken character.toString))
  /-- A factorial is applied to the operands in vain. -/
  | factorial {left : List Token} {state : Stacks} {error : CalcError}
      (run : Run unit tokens (.operator .factorial :: left) state)
      (failed : (Operator.factorial.applyTop state.operands).1 = .error error) :
      Ends unit tokens (.error error)
  /-- A closing parenthesis meets nothing that waits, and so no open group. -/
  | unopened {left : List Token} {state : Stacks}
      (run : Run unit tokens (.closing :: left) state) (bottom : state.waiting = []) :
      Ends unit tokens (.error .malformed)
  /-- An entry that waits is applied in vain. -/
  | applied {state : Stacks} {top : Waiting} {below : List Waiting} {error : CalcError}
      (visited : Visited unit tokens state) (found : state.waiting = top :: below)
      (failed : state.settle unit = .error error) : Ends unit tokens (.error error)
  /-- Nothing waits any more, and the operand is handed out if it is the only one. -/
  | finished {state : Stacks} (run : Run unit tokens [] state) (done : state.waiting = []) :
      Ends unit tokens (handOut state)

variable {unit : AngleUnit} {due : Waiting → Bool} {tokens left : List Token}
  {state : Stacks}

/--
Applying all that is due stops at an entry that is not, or at one that is applied in vain.

Whatever one application of a due entry keeps holds of the state where it stops.
-/
theorem settleWhile_stops {Holds : Stacks → Prop}
    (step : ∀ {state next : Stacks} {top : Waiting}, Holds state →
      state.waiting.head? = some top → due top → settle unit state = .ok next → Holds next)
    (start : Holds state) :
    (∃ final, settleWhile unit due state = .ok final ∧ Holds final
        ∧ ∀ top ∈ final.waiting.head?, due top = false)
      ∨ ∃ stuck top below error, settleWhile unit due state = .error error ∧ Holds stuck
        ∧ stuck.waiting = top :: below ∧ settle unit stuck = .error error := by
  -- The induction follows the entries down from the top.
  fun_induction settleWhile unit due state with
  | case1 state none => exact .inl ⟨state, rfl, start, by simp [none]⟩
  | case2 state top below found isDue error applied =>
    exact .inr ⟨state, top, below, error, rfl, start, found, applied⟩
  | case3 state top below found isDue next applied ih =>
    exact ih (step start (by rw [found, List.head?_cons]) isDue applied)
  | case4 state top below found stays => exact .inl ⟨state, rfl, start, by simpa [found] using stays⟩

/-- A token that is refused ends the run. -/
theorem ends_of_feed_error {token : Token} {error : CalcError}
    (run : Run unit tokens (token :: left) state) (refused : state.feed unit token = .error error) :
    Ends unit tokens (.error error) := by
  cases token with
  | number x => cases refused
  | opening => cases refused
  | unknown character =>
    cases refused
    exact .unknown run
  | name text =>
    -- A name is refused only if no function has it.
    rw [feed_name_eq] at refused
    cases named : MathFunction.named text with
    | error raised =>
      rw [named, error_bind] at refused
      cases refused
      exact .unnamed run named
    | ok f =>
      rw [named, ok_bind] at refused
      cases refused
  | operator op =>
    -- The factorial is applied at once, any other operator only to make room for itself.
    by_cases waits : op = .factorial
    · subst waits
      cases outcome : (Operator.factorial.applyTop state.operands).1 with
      | error raised =>
        simp only [feed, outcome, Except.map] at refused
        cases refused
        exact .factorial run outcome
      | ok value => simp [feed, outcome, Except.map] at refused
    · rw [feed_operator waits] at refused
      -- The operator waits in the end, so the error is that of an entry it yields to.
      obtain ⟨final, settled, -, -⟩ | ⟨stuck, top, below, raised, failed, stays, found, applied⟩ :=
        settleWhile_stops (fun before found due => .yielded before waits found due) run
      · rw [settled, ok_bind] at refused
        cases refused
      · rw [failed, error_bind] at refused
        cases refused
        exact .applied (.rest stays) found applied
  | closing =>
    rw [feed_closing, close_eq] at refused
    obtain ⟨inner, settled, stays, stopped⟩ | ⟨stuck, top, below, raised, failed, stays, found, applied⟩ :=
      settleWhile_stops (fun before found inside => .closed before found (of_decide_eq_true inside)) run
    · -- What is left of the group is the group itself, unless there is none.
      rw [settled, ok_bind] at refused
      rcases inner with ⟨operands, _ | ⟨_ | _ | _, waiting⟩⟩
      · cases refused
        exact .unopened stays rfl
      · simp at stopped
      · simp at stopped
      · rw [leave_group] at refused
        rcases waiting with _ | ⟨_ | f | _, waiting⟩
        case cons.function => exact .applied (.called stays rfl) rfl refused
        all_goals cases refused
    · rw [failed, error_bind] at refused
      cases refused
      exact .applied (.rest stays) found applied

/-- From each of its states a run comes to the end that the tokens left lead to. -/
theorem Run.ends (run : Run unit tokens left state) : Ends unit tokens (outcome unit state left) := by
  -- One token is done after another, until one is refused or none is left.
  induction left generalizing state with
  | nil =>
    rw [outcome_nil, finish_eq]
    have stops := @settleWhile_stops unit (fun _ => true) state (Run unit tokens [])
      (fun before found _ => .unwound before fun none => by simp [none] at found) run
    obtain ⟨final, settled, stays, stopped⟩ | ⟨stuck, top, below, error, failed, stays, found, applied⟩ :=
      stops
    · rw [settled, ok_bind]
      refine .finished stays ?_
      -- Whatever waited would still be due.
      cases waiting : final.waiting with
      | nil => rfl
      | cons top below => simp [waiting] at stopped
    · rw [failed, error_bind]
      exact .applied (.rest stays) found applied
  | cons token left ih =>
    rw [outcome_cons]
    cases taken : state.feed unit token with
    | error error =>
      rw [error_bind]
      exact ends_of_feed_error run taken
    | ok next =>
      rw [ok_bind]
      exact ih (.fed run taken)

/-- Tokens that are taken in one after another lead from a state of the run to another one. -/
theorem Run.of_foldlM {front back : List Token} {next : Stacks}
    (run : Run unit tokens (front ++ back) state)
    (taken : front.foldlM (feed unit) state = .ok next) : Run unit tokens back next := by
  -- Each token taken in prolongs the run by one step.
  induction front generalizing state with
  | nil =>
    obtain rfl : state = next := Except.ok.inj taken
    exact run
  | cons token front ih =>
    rw [List.foldlM_cons, bind_eq_ok_iff] at taken
    obtain ⟨middle, first, later⟩ := taken
    exact ih (.fed run first) later

end Stacks

end PocketCalculator
