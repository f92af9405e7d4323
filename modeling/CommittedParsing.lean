import CommittedParsing.Cursor.Walk
import CommittedParsing.Json
import CommittedParsing.Proofs.Ini.Document
import CommittedParsing.Proofs.Parser.Location
import CommittedParsing.Proofs.Version.Render
import CommittedParsing.Rule.Basic
import CommittedParsing.Proofs.Parser.Commitment
import CommittedParsing.Proofs.Parser.Derived
import CommittedParsing.Proofs.Parser.Lookahead
import CommittedParsing.Proofs.Cursor.Shift
import CommittedParsing.Proofs.Parser.Shift
import CommittedParsing.Proofs.Text.ByteOrder
import CommittedParsing.Proofs.Version.Precedence
import CommittedParsing.Proofs.Parser.Determined
import CommittedParsing.Proofs.Parser.Halting
import CommittedParsing.Proofs.Parser.FirstWrong
import CommittedParsing.Proofs.Ini.Lines
import CommittedParsing.Proofs.Ini.FirstWrong
import CommittedParsing.Proofs.Ini.Sections
import CommittedParsing.Proofs.Ini.Composition
import CommittedParsing.Proofs.Version.Fields
import CommittedParsing.Proofs.Version.FirstWrong
import CommittedParsing.Proofs.Parser.Forward
import CommittedParsing.Proofs.Parser.Regrouping
import CommittedParsing.Proofs.Parser.Rounds
import CommittedParsing.Proofs.Parser.SeparatedList
import CommittedParsing.Proofs.Parser.MaximalRepetition
import CommittedParsing.Proofs.Parser.Bodies
import CommittedParsing.Proofs.Ini.Reports
import CommittedParsing.Proofs.Parser.Unfolding
import CommittedParsing.Proofs.Number.Integer
import CommittedParsing.Proofs.Number.Rational
import CommittedParsing.Proofs.Number.Fraction
import CommittedParsing.Proofs.Number.Numeric
import CommittedParsing.Proofs.Failure.Message
import CommittedParsing.Proofs.Location.Window
import CommittedParsing.Proofs.Parser.Confined
import CommittedParsing.Proofs.Failure.OneLine
import CommittedParsing.Proofs.Location.Position
import CommittedParsing.Proofs.Location.Pointer
import CommittedParsing.Proofs.Json
import CommittedParsing.Proofs.Failure.Progress
import CommittedParsing.Proofs.Cursor.Walk
import CommittedParsing.Proofs.Ini.Trivia
import CommittedParsing.Proofs.Ini.LastWins
