import SqlScribe.Data
import SqlScribe.Dialect.Marked
import SqlScribe.Edit
import SqlScribe.MySql.Dialect
import SqlScribe.Session
import SqlScribe.Proofs.Appending
import SqlScribe.Proofs.DialectPiece
import SqlScribe.Proofs.Sessions
import SqlScribe.Proofs.Trail
import SqlScribe.Proofs.Faults
import SqlScribe.Proofs.Alike
import SqlScribe.Proofs.Quoting
import SqlScribe.Proofs.Injection
import SqlScribe.Proofs.OperatorTree
import SqlScribe.Proofs.Parts
import SqlScribe.Proofs.Layout
import SqlScribe.Proofs.DialectLayout
import SqlScribe.Proofs.Grouping
import SqlScribe.Proofs.Simulation
import SqlScribe.Proofs.Agreement
import SqlScribe.Proofs.RuleCongruence
import SqlScribe.Proofs.Rewriting
import SqlScribe.Proofs.Lowering
import SqlScribe.Proofs.StandardFragment
import SqlScribe.Proofs.TypeInfluence
import SqlScribe.Proofs.CastExtension
import SqlScribe.Proofs.Reports
import SqlScribe.Proofs.Mending
import SqlScribe.Proofs.FailedText
import SqlScribe.Proofs.Brackets
import SqlScribe.Proofs.FittingRows
import SqlScribe.Proofs.Balance
import SqlScribe.Proofs.VersionGrammar
import SqlScribe.Proofs.VersionPattern
import SqlScribe.Proofs.VersionWriting
import SqlScribe.Proofs.Phrase
import SqlScribe.Proofs.Unambiguity
import SqlScribe.Proofs.Concatenation
import SqlScribe.Proofs.CastOrder
import SqlScribe.Proofs.LiteralTexts
import SqlScribe.Proofs.LetterCase
import SqlScribe.Proofs.Upgrades
import SqlScribe.Proofs.Building
import SqlScribe.Proofs.SpacedRows
import SqlScribe.Proofs.Unquoting
import SqlScribe.Proofs.Comments
