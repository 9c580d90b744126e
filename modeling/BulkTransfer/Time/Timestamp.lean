import BulkTransfer.Time.PatternWriter
import BulkTransfer.Time.PatternReader
/-!
# Timestamps in files

How timestamp columns are read from and written to text. Without a format of its own a column is
written in one layout and read in any of several; a text without an offset is in UTC, and one
without a time of day is midnight.
-/
namespace BulkTransfer

structure TimestampError where
  value : String
  reason : String
  deriving DecidableEq, Repr

def TimestampError.message (e : TimestampError) : String :=
  "Invalid timestamp '" ++ e.value ++ "': " ++ e.reason

namespace Timestamp

def defaultFormat : String := "%Y-%m-%d %H:%M:%S%.6f %z"

/-- The layouts tried after RFC 3339. -/
def knownFormats : List String :=
  ["%Y-%m-%d %H:%M:%S%.f %z", "%Y-%m-%d %H:%M:%S%.f", "%Y-%m-%d"]

def midnight : TimeOfDay := ⟨0, 0, 0, 0⟩

/-- The instant by one format: with an offset, as a local time, or as a date alone. -/
def readWith? (value format : String) : Option Instant :=
  match TimeText.fields (Pattern.ofString format) value with
  | .error _ => none
  | .ok f =>
    match f.toInstant, f.toLocal 0, f.toDate with
    | .ok i, _, _ => some i
    | _, .ok l, _ => some (Instant.ofLocal l)
    | _, _, .ok d => some (Instant.ofLocal ⟨d, midnight⟩)
    | _, _, _ => none

def read (value : String) (format : Option String) : Except TimestampError Instant :=
  match format with
  | some format =>
    match readWith? value format with
    | some i => .ok i
    | none => .error ⟨value, "does not match '" ++ format ++ "'"⟩
  | none =>
    match TimeText.strictRfc3339 value.toList with
    | .ok i => .ok i
    | .error _ =>
      match knownFormats.findSome? (readWith? value) with
      | some i => .ok i
      | none => .error ⟨value, "unrecognized layout"⟩

def write (i : Instant) (format : Option String) : Except TimestampError String :=
  let format := format.getD defaultFormat
  match (Pattern.ofString format).write? i with
  | some text => .ok text
  | none => .error ⟨i.rfc3339 "+00:00", "invalid format '" ++ format ++ "'"⟩

end Timestamp

end BulkTransfer
