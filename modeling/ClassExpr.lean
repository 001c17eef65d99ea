import ClassExpr.Completion.Candidate
import ClassExpr.Completion.Completer
import ClassExpr.Completion.Fault
import ClassExpr.Completion.Key
import ClassExpr.Completion.Popup
import ClassExpr.Completion.Probe
import ClassExpr.Completion.Settings
import ClassExpr.Completion.Word
import ClassExpr.Document.Buffer
import ClassExpr.Document.Surface
import ClassExpr.Entity.Basic
import ClassExpr.Entity.Index
import ClassExpr.Entity.Sample
import ClassExpr.Entity.ShortForm
import ClassExpr.File.Json
import ClassExpr.File.Load
import ClassExpr.File.Value
import ClassExpr.File.Yaml.Cursor
import ClassExpr.File.Yaml.Node
import ClassExpr.File.Yaml.Scalar
import ClassExpr.File.Yaml.Tag
import ClassExpr.File.Yaml.Token
import ClassExpr.Grammar.Derivation
import ClassExpr.Grammar.Expectations
import ClassExpr.Grammar.Keyword
import ClassExpr.Grammar.Names
import ClassExpr.Grammar.Recogniser
import ClassExpr.Grammar.Token
import ClassExpr.Proofs.BufferEdits
import ClassExpr.Proofs.CompleterRun
import ClassExpr.Proofs.DocumentEffect
import ClassExpr.Proofs.PopupCoherence
import ClassExpr.Proofs.Recognition
import ClassExpr.Terminal.AppError
import ClassExpr.Terminal.Canvas
import ClassExpr.Terminal.Change
import ClassExpr.Terminal.Clicks
import ClassExpr.Terminal.Display
import ClassExpr.Terminal.Editor
import ClassExpr.Terminal.Keyboard
import ClassExpr.Terminal.Pane
import ClassExpr.Terminal.PopupView
import ClassExpr.Terminal.Rect
import ClassExpr.Terminal.Screen
import ClassExpr.Terminal.TextArea
import ClassExpr.Terminal.Window
import ClassExpr.Terminal.WordKind
import ClassExpr.Text.Basic
import ClassExpr.Text.Blank
import ClassExpr.Text.CaseTable
import ClassExpr.Text.Cluster
import ClassExpr.Text.ClusterTable
import ClassExpr.Text.EmojiTable
import ClassExpr.Text.Lowercase
import ClassExpr.Text.Numeral
import ClassExpr.Text.Utf8
import ClassExpr.Text.Width
import ClassExpr.Text.WidthTable
import ClassExpr.Proofs.Tokenisation
import ClassExpr.Proofs.VocabularyWords
import ClassExpr.Proofs.Sentinel
import ClassExpr.Proofs.Continuation
import ClassExpr.Proofs.Viability
import ClassExpr.Proofs.OfferedWords
import ClassExpr.Proofs.EditorRun
import ClassExpr.Proofs.PopupFreshness
import ClassExpr.Proofs.RowsAtCaret
import ClassExpr.Proofs.LineText
import ClassExpr.Proofs.TextAreaRun
import ClassExpr.Proofs.ExactReplacement
import ClassExpr.Proofs.Choice
import ClassExpr.Proofs.KeyEdits
import ClassExpr.Proofs.FailedInsertion
import ClassExpr.Proofs.Mirror
import ClassExpr.Proofs.SurfaceIndependence
import ClassExpr.Proofs.CanvasRows
import ClassExpr.Proofs.DrawnRows
import ClassExpr.Proofs.SharedNames
import ClassExpr.Proofs.StatusLine
import ClassExpr.Proofs.TextBehindCaret
import ClassExpr.Proofs.CheckerAnswers
import ClassExpr.Proofs.CheckerQueries
import ClassExpr.Proofs.InsertedWord
import ClassExpr.Proofs.BufferLaws
import ClassExpr.Proofs.Narrowing
import ClassExpr.Proofs.OffsetPositions
import ClassExpr.Proofs.SelectionTurns
import ClassExpr.Proofs.TokenLaws
import ClassExpr.Proofs.PopupPlacement
import ClassExpr.Proofs.CursorInView
import ClassExpr.Proofs.DoubleClicks
import ClassExpr.Proofs.RangeOverflow
import ClassExpr.Proofs.ShortNames
import ClassExpr.Proofs.ByteIndices
import ClassExpr.Proofs.DelimiterSets
