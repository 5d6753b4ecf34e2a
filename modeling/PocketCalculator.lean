import PocketCalculator.Expression
import PocketCalculator.Main
import PocketCalculator.NumberText.Reader
import PocketCalculator.ReversePolish
import PocketCalculator.Stacks.Run
import PocketCalculator.Token.Adjacency
import PocketCalculator.Token.Lexeme
import PocketCalculator.Token.Printer
import PocketCalculator.Proofs.Arithmetic.Operation
import PocketCalculator.Proofs.Outcome
import PocketCalculator.Proofs.Stacks.Settling
import PocketCalculator.Proofs.Expression.Evaluation
import PocketCalculator.Proofs.ReversePolish
import PocketCalculator.Proofs.Stacks.Balance
import PocketCalculator.Proofs.Expression.Recognition
import PocketCalculator.Proofs.Text.Classes
import PocketCalculator.Proofs.Token.Lexing
import PocketCalculator.Proofs.Stacks.Isolation
import PocketCalculator.Proofs.Double.Packing
import PocketCalculator.Proofs.Double.Rounding
import PocketCalculator.Proofs.Double.Order
import PocketCalculator.Proofs.Double.Nearest
import PocketCalculator.Proofs.Double.Whole
import PocketCalculator.Proofs.Double.Arithmetic
import PocketCalculator.Proofs.Decimal.Nearest
import PocketCalculator.Proofs.Decimal.Notation
import PocketCalculator.Proofs.NumberText.Spelling
import PocketCalculator.Proofs.Token.Placing
import PocketCalculator.Proofs.Token.Printing
import PocketCalculator.Proofs.NumberText.Result
import PocketCalculator.Proofs.Evaluation.ResultText
import PocketCalculator.Proofs.Keypad.Equals
import PocketCalculator.Proofs.Keypad.Refusals
import PocketCalculator.Proofs.Keypad.Status
import PocketCalculator.Proofs.NumberText.Characters
import PocketCalculator.Proofs.ReversePolish.Provenance
import PocketCalculator.Proofs.Token.Words
import PocketCalculator.Proofs.Evaluation.AngleUnits
import PocketCalculator.Proofs.Keypad.Characters
import PocketCalculator.Proofs.Keypad.AngleUnits
import PocketCalculator.Proofs.Token.Seams
import PocketCalculator.Proofs.Keypad.Typing
import PocketCalculator.Proofs.Keypad.Capacity
import PocketCalculator.Proofs.CommandLine.Arguments
import PocketCalculator.Proofs.CommandLine.Expressions
import PocketCalculator.Proofs.CommandLine.Labels
import PocketCalculator.Proofs.Evaluation.Shape
import PocketCalculator.Proofs.Evaluation.Counts
import PocketCalculator.Proofs.Evaluation.Errors
import PocketCalculator.Proofs.Token.Spacing
import PocketCalculator.Proofs.Double.Spacing
import PocketCalculator.Proofs.Decimal.Shortest
import PocketCalculator.Proofs.NumberText.Width
import PocketCalculator.Proofs.NumberText.Reading
import PocketCalculator.Proofs.Evaluation.Parentheses
import PocketCalculator.Proofs.Keypad.Room
import PocketCalculator.Proofs.Keypad.Deleting
import PocketCalculator.Proofs.Arithmetic.Operands
import PocketCalculator.Proofs.Stacks.Ordering
import PocketCalculator.Proofs.CommandLine.Batch
import PocketCalculator.Proofs.Arithmetic.Products
import PocketCalculator.Proofs.Arithmetic.Factorial
