/-!
# Limits

How large a collection may be to be read from a buffer. The limits are held
against the counts and lengths that the buffer declares, before anything is read
on their word.
-/

namespace IntentWire

/-- The limits on what is read from a buffer. -/
structure Limits where
  /-- The greatest number of records of a collection. -/
  maxRecords : UInt64 := 65536
  /-- The greatest length of a type tag or of a payload. -/
  maxFieldLength : UInt64 := 16777216
  deriving DecidableEq, Inhabited

/-- The limits as they are written in the log. -/
def Limits.describe (l : Limits) : String :=
  s!"DecodeConfig \x7b max_records: {l.maxRecords}, max_field_len: {l.maxFieldLength} \x7d"

end IntentWire
