import PocketCalculator.MathFunction
import PocketCalculator.Operator

/-! The buttons of the keypad, what each types and how it is labelled. -/

namespace PocketCalculator

/-- Three buttons act on the display, and all others type. -/
inductive Button where
  /-- Empties the display. -/
  | clear
  /-- Removes the last character. -/
  | delete
  /-- Works out the text on the display. -/
  | equals
  /-- Types a number of one to three digits. -/
  | digit (value : UInt8)
  /-- Types a decimal point. -/
  | point
  /-- Types an opening parenthesis. -/
  | opening
  /-- Types a closing parenthesis. -/
  | closing
  /-- Types an operator. -/
  | operator (op : Operator)
  /-- Types a function's name and the parenthesis that opens its argument. -/
  | function (f : MathFunction)
  deriving DecidableEq, Repr

namespace Button

/-- The functions whose names are typed with a space in front. -/
def spaced : MathFunction → Bool
  -- These are the functions whose button shows a sign in place of the name.
  | .asin | .acos | .atan | .sqrt => true
  | _ => false

/-- What a button types, if it types at all. -/
def typed : Button → Option String
  -- What acts on the display types nothing.
  | clear | delete | equals => none
  | digit value => some (toString value.toNat)
  | point => some "."
  | opening => some "("
  | closing => some ")"
  | operator op => some op.symbol.toString
  | function f => some ((if spaced f then " " else "") ++ f.name ++ "(")

/-- What is printed on a button. -/
def caption : Button → String
  | clear => "C"
  | delete => "DEL"
  | equals => "="
  | digit value => toString value.toNat
  | point => "."
  | opening => "("
  | closing => ")"
  -- Some buttons show a sign that no expression contains.
  | operator .multiply => "×"
  | operator .divide => "÷"
  | operator .power => "x^y"
  | operator .factorial => "x!"
  | operator op => op.symbol.toString
  | function .asin => "sin⁻¹"
  | function .acos => "cos⁻¹"
  | function .atan => "tan⁻¹"
  | function .sqrt => "√"
  | function f => f.name

/-- The buttons that the keypad has. -/
def all : List Button :=
  -- Larger digits can be pressed too, but no label names them.
  [clear, delete, equals, point, opening, closing]
    ++ (List.range 10).map (fun value => digit value.toUInt8)
    ++ Operator.all.map operator ++ MathFunction.all.map function

/-- A label is a caption, or the plain sign of the product or the quotient. -/
def ofLabel? : String → Option Button
  -- These two signs are easier to type than the captions.
  | "*" => some (operator .multiply)
  | "/" => some (operator .divide)
  | label => all.find? fun button => button.caption = label

/-- The button of a label, where an unknown label is an error that quotes it. -/
def labelled (label : String) : Except CalcError Button :=
  -- Captions must match exactly.
  match ofLabel? label with
  | some button => .ok button
  | none => .error (.unknownToken label)

end Button

end PocketCalculator
