import IntentWire.Main
import IntentWire.Proofs.Acceptance
import IntentWire.Proofs.BuiltinRegistry
import IntentWire.Proofs.Containment
import IntentWire.Proofs.Domains
import IntentWire.Proofs.EventTrail
import IntentWire.Proofs.FieldSequences
import IntentWire.Proofs.FirstFault
import IntentWire.Proofs.Grammar
import IntentWire.Proofs.Meaning
import IntentWire.Proofs.MoreInput
import IntentWire.Proofs.RaisedLimits
import IntentWire.Proofs.ReaderRuns
import IntentWire.Proofs.RegistryRuns
import IntentWire.Proofs.Streams
import IntentWire.Proofs.Truncation
import IntentWire.Proofs.Delimiters
import IntentWire.Proofs.PlainTexts
import IntentWire.Command.Buffer
import IntentWire.Proofs.ExitCodes
import IntentWire.Command.Operand
import IntentWire.Proofs.EncodedBuffers
import IntentWire.Compact.Layout
import IntentWire.Proofs.CompactErrors
import IntentWire.Proofs.ShortestLayout
import IntentWire.Proofs.Tuples
import IntentWire.Proofs.TextPayloads
import IntentWire.Proofs.ClauseErrors
import IntentWire.Proofs.TupleArguments
import IntentWire.Proofs.RenderedBalances
import IntentWire.Proofs.PlainReading
import IntentWire.Proofs.HexTexts
import IntentWire.Proofs.Reservation
import IntentWire.Proofs.FaithfulReports
