import MessageTemplate.Segment
import MessageTemplate.Placeholder
import MessageTemplate.PluralBody
import MessageTemplate.Binary64
import MessageTemplate.Decimal
import MessageTemplate.ValueMap
import MessageTemplate.Unprintable
import MessageTemplate.ValueText
import MessageTemplate.FormatError
import MessageTemplate.Formatting
import MessageTemplate.Platform
import MessageTemplate.Introspection
import MessageTemplate.Cursor
import MessageTemplate.Proofs.OpenGroups
import MessageTemplate.Proofs.SegmentJoin
import MessageTemplate.Proofs.SegmentRoundtrip
import MessageTemplate.Proofs.Concatenation
import MessageTemplate.Proofs.PlaceholderFields
import MessageTemplate.Proofs.PluralEntries
import MessageTemplate.Proofs.PluralSelection
import MessageTemplate.Proofs.Formattability
import MessageTemplate.Proofs.Rejections
import MessageTemplate.Proofs.SegmentCuts
import MessageTemplate.Proofs.ErrorLocation
import MessageTemplate.Proofs.ErrorIntrospection
import MessageTemplate.Proofs.DigitLimit
import MessageTemplate.Proofs.ReportLimit
import MessageTemplate.Proofs.ParameterUse
import MessageTemplate.Proofs.Nesting
import MessageTemplate.Proofs.StagedFormatting
import MessageTemplate.Proofs.BracePairs
import MessageTemplate.Proofs.PlainScan
import MessageTemplate.Proofs.BodySegments
import MessageTemplate.Proofs.BodyItems
import MessageTemplate.Proofs.OperandValue
import MessageTemplate.Proofs.PlaceholderPrinting
import MessageTemplate.Proofs.ArgumentLists
import MessageTemplate.Proofs.SpelledIntegers
import MessageTemplate.Proofs.TypeErasure
import MessageTemplate.Proofs.JsonObjects
import MessageTemplate.Proofs.JsonRecords
import MessageTemplate.Proofs.CursorWalks
import MessageTemplate.Proofs.ScanProgress
import MessageTemplate.Proofs.ReportLines
