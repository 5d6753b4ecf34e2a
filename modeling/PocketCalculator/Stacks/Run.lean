import PocketCalculator.Stacks

/-! The states that the stacks pass through, one applied entry at a time. -/

namespace PocketCalculator

namespace Stacks

/-- The stacks at some moment of a run, with the tokens that are not done yet. -/
inductive Run (unit : AngleUnit) (tokens : List Token) : List Token → Stacks → Prop where
  /-- A run starts with nothing on the stacks. -/
  | start : Run unit tokens tokens empty
  /-- A token is done once it has been taken in. -/
  | fed {token : Token} {rest : List Token} {state next : Stacks}
      (before : Run unit tokens (token :: rest) state) (taken : state.feed unit token = .ok next) :
      Run unit tokens rest next
  /-- An operator lets the entries that it yields to be applied first. -/
  | yielded {op : Operator} {rest : List Token} {state next : Stacks} {top : Waiting}
      (before : Run unit tokens (.operator op :: rest) state) (waits : op ≠ .factorial)
      (found : state.waiting.head? = some top) (due : op.yieldsTo top)
      (applied : state.settle unit = .ok next) : Run unit tokens (.operator op :: rest) next
  /-- A closing parenthesis lets all entries of its group be applied first. -/
  | closed {rest : List Token} {state next : Stacks} {top : Waiting}
      (before : Run unit tokens (.closing :: rest) state)
      (found : state.waiting.head? = some top) (inside : top ≠ .group)
      (applied : state.settle unit = .ok next) : Run unit tokens (.closing :: rest) next
  /-- When all tokens are done, whatever waits is applied. -/
  | unwound {state next : Stacks} (before : Run unit tokens [] state)
      (waits : state.waiting ≠ []) (applied : state.settle unit = .ok next) :
      Run unit tokens [] next

/-- All states of a run, among them the one between the end of a group and the call it belongs to. -/
inductive Visited (unit : AngleUnit) (tokens : List Token) : Stacks → Prop where
  /-- The run rests between two steps. -/
  | rest {left : List Token} {state : Stacks} (run : Run unit tokens left state) :
      Visited unit tokens state
  /-- The group is gone and the function in front of it is about to be applied. -/
  | called {left : List Token} {state : Stacks} {f : MathFunction} {waiting : List Waiting}
      (run : Run unit tokens (.closing :: left) state)
      (found : state.waiting = .group :: .function f :: waiting) :
      Visited unit tokens ⟨state.operands, .function f :: waiting⟩

end Stacks

end PocketCalculator
