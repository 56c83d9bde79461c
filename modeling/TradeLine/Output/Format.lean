import TradeLine.Output.Table

/-!
# Output formats

An envelope goes out in one of three formats: one JSON value, on one line or pretty; one JSON
value a line, the items of the data first and a summary last; or a table.
-/

namespace TradeLine

/-- The formats that an envelope can go out in. -/
inductive Format
  | json
  | ndjson
  | table
deriving DecidableEq, Repr

/-- The format with the given name. -/
def Format.ofText? (s : Text) : Option Format :=
  if s = "json".toList then some .json
  else if s = "ndjson".toList then some .ndjson
  else if s = "table".toList then some .table
  else none

namespace Envelope

/-- The items of the data on a line each, and then the summary. Data that is no array goes out
with its whole envelope on one line. -/
def ndjson (e : Envelope) : Text :=
  match e.data with
  | .arr items => (items ++ [e.summary]).flatMap fun item => item.compact ++ ['\n']
  | _ => e.toJson.compact ++ ['\n']

/-- The envelope in the given format. Only the plain JSON format can be pretty. -/
def render (e : Envelope) (format : Format) (pretty : Bool) : Text :=
  match format with
  | .json => (if pretty then e.toJson.pretty else e.toJson.compact) ++ ['\n']
  | .ndjson => e.ndjson
  | .table => e.table

end Envelope

end TradeLine
