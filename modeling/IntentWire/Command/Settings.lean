import IntentWire.Event
import IntentWire.Text.Decimal

/-!
# Settings

What can be set for every command: the form of the output and of the log, and the
limits of decoding. A setting is given on the command line, before or after the name
of the command. Of one given in both places, the later counts; the limits that are
given in neither are taken from the environment, if it has them.
-/

namespace IntentWire.Command

/-- The forms of the output. -/
inductive Format where
  | json
  | table
  | pretty
  deriving DecidableEq

/-- The forms of the log. -/
inductive LogFormat where
  | text
  | json
  deriving DecidableEq

/-- The form of the output that a word names. -/
def Format.ofName? : String → Option Format
  | "json" => some .json
  | "table" => some .table
  | "pretty" => some .pretty
  | _ => none

/-- The form of the log that a word names. -/
def LogFormat.ofName? : String → Option LogFormat
  | "text" => some .text
  | "json" => some .json
  | _ => none

/-- The word of 64 bits that a text is the decimal form of. -/
def word? (s : String) : Option UInt64 :=
  match Decimal.read UInt64.size (by decide) s.toList with
  | .ok n => some (.ofFin n)
  | .error _ => none

/-- The settings given in one place. -/
structure Settings where
  format : Option Format := none
  logFormat : Option LogFormat := none
  logLevel : Option Level := none
  maxRecords : Option UInt64 := none
  maxFieldLength : Option UInt64 := none

namespace Settings

/-- The settings given in one place or else in another. -/
def orElse (s t : Settings) : Settings where
  format := s.format <|> t.format
  logFormat := s.logFormat <|> t.logFormat
  logLevel := s.logLevel <|> t.logLevel
  maxRecords := s.maxRecords <|> t.maxRecords
  maxFieldLength := s.maxFieldLength <|> t.maxFieldLength

/-- The form of the log, text unless set. -/
def eventFormat (s : Settings) : LogFormat :=
  s.logFormat.getD .text

/-- The least grave level that is logged. -/
def eventLevel (s : Settings) : Level :=
  s.logLevel.getD .info

/-- The limits of decoding, the usual ones unless set. -/
def limits (s : Settings) : Limits where
  maxRecords := s.maxRecords.getD (Limits.maxRecords {})
  maxFieldLength := s.maxFieldLength.getD (Limits.maxFieldLength {})

end Settings

/-- The limits in the environment, as they are written there. -/
structure Environment where
  maxRecords : Option String := none
  maxFieldLength : Option String := none

namespace Environment

/-- The name of the variable that holds the greatest number of records. -/
def maxRecordsName : String := "IRIS_MAX_RECORDS"

/-- The name of the variable that holds the greatest length of a field. -/
def maxFieldLengthName : String := "IRIS_MAX_FIELD_LEN"

end Environment

end IntentWire.Command
