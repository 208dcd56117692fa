import DeskCalculator.Main
import DeskCalculator.Expression.Parser
import DeskCalculator.Function.Stored
import DeskCalculator.Proofs.Number.Literal
import DeskCalculator.Proofs.Expression.Lexeme
import DeskCalculator.Proofs.Expression.Move
import DeskCalculator.Proofs.Expression.Cut
import DeskCalculator.Proofs.Expression.Reading
import DeskCalculator.Proofs.Expression.Derivation
import DeskCalculator.Proofs.Expression.Phrase
import DeskCalculator.Proofs.Expression.Outline
import DeskCalculator.Proofs.Expression.Acceptance
import DeskCalculator.Proofs.Expression.NestingLimit
import DeskCalculator.Proofs.Expression.FirstMisreading
import DeskCalculator.Proofs.Number.Pattern
import DeskCalculator.Proofs.Number.Rounding
import DeskCalculator.Proofs.Number.Value
import DeskCalculator.Proofs.Text.Digit
import DeskCalculator.Proofs.Number.Shortest
import DeskCalculator.Proofs.Text.Blank
import DeskCalculator.Proofs.Number.Text
import DeskCalculator.Proofs.Number.Display
import DeskCalculator.Proofs.Expression.Descent
import DeskCalculator.Proofs.Expression.Displacement
import DeskCalculator.Proofs.Expression.Resumption
import DeskCalculator.Proofs.Expression.Spacing
import DeskCalculator.Proofs.Expression.Keys
import DeskCalculator.Proofs.Session.Typing
import DeskCalculator.Proofs.Calculator.Display
import DeskCalculator.Proofs.Calculator.ErrorWord
import DeskCalculator.Proofs.Calculator.Chain
import DeskCalculator.Proofs.Session.Course
import DeskCalculator.Proofs.Number.Order
import DeskCalculator.Proofs.Number.Plain
import DeskCalculator.Proofs.Expression.Continuation
import DeskCalculator.Proofs.Session.Continuation
import DeskCalculator.Proofs.Expression.Composition
import DeskCalculator.Proofs.Text.OneLine
import DeskCalculator.Proofs.Log.Line
import DeskCalculator.Proofs.Log.Message
import DeskCalculator.Proofs.Session.Channels
import DeskCalculator.Proofs.Session.Records
import DeskCalculator.Proofs.Session.Ending
import DeskCalculator.Proofs.Program.Files
import DeskCalculator.Proofs.Program.Start
import DeskCalculator.Proofs.Program.Streams
import DeskCalculator.Proofs.Program.Records
import DeskCalculator.Proofs.Program.ExitStatus
import DeskCalculator.Proofs.Expression.SignedLiteral
import DeskCalculator.Proofs.Number.Monotone
import DeskCalculator.Proofs.Number.Digits
import DeskCalculator.Proofs.Number.Shape
import DeskCalculator.Proofs.Number.Grid
import DeskCalculator.Proofs.Number.Significant
import DeskCalculator.Proofs.Session.Division
import DeskCalculator.Text.LowerCase
import DeskCalculator.Session.Desk
import DeskCalculator.Proofs.Text.LowerCase
import DeskCalculator.Proofs.Session.Recognition
import DeskCalculator.Proofs.Session.Desk
import DeskCalculator.Proofs.Session.Evaluations
import DeskCalculator.Proofs.Json.Record
import DeskCalculator.Proofs.Program.Arguments
import DeskCalculator.Proofs.Program.Settings
import DeskCalculator.Proofs.Program.Limit
import DeskCalculator.Proofs.Number.Nearest
import DeskCalculator.Proofs.Expression.Numeral
import DeskCalculator.Proofs.Expression.Moment
import DeskCalculator.Proofs.Expression.Budget
import DeskCalculator.Proofs.Json.StringText
import DeskCalculator.Proofs.Json.NumberText
import DeskCalculator.Proofs.Json.Spelling
import DeskCalculator.Proofs.Json.Value
import DeskCalculator.Proofs.Json.Object
import DeskCalculator.Proofs.Program.StoredSettings
import DeskCalculator.Proofs.Expression.Cursor
