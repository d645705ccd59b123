/-!
# Database errors

What can go wrong between the program and the database, and how it is told.
-/

namespace Geocoding.Database

/-- What a server answers instead of rows. -/
inductive QueryError where
  | queryFailed (message : String)
  | invalidQuery (message : String)
  | unsupportedOperation (message : String)
  | noRow
  /-- No session could be opened at all. -/
  | unreachable (message : String)
  deriving DecidableEq, Repr

/-- The answer in words. -/
def QueryError.message : QueryError → String
  | queryFailed m => "Query failed: " ++ m
  | invalidQuery m => "Invalid query: " ++ m
  | unsupportedOperation m => "Unsupported operation: " ++ m
  | noRow => "No row"
  | unreachable m => m

/-- Why a column cannot be read as a number. -/
inductive ColumnError where
  | missing
  | notANumber
  deriving DecidableEq, Repr

/-- Why a row is not what was asked for. -/
inductive ConversionError where
  | column (name : String) (e : ColumnError)
  | other (message : String)
  deriving DecidableEq, Repr

/-- The reason in words. -/
def ConversionError.message : ConversionError → String
  | column name e =>
    "Failed to read column '" ++ name ++ "': " ++
      match e with
      | .missing => "Failed to parse property: \"Missing value: '" ++ name ++ "'\""
      | .notANumber => "Failed to convert to type: \"Path '" ++ name ++
          "' failed to convert value to type: 'f64'\""
  | other message => message

/-- An error on the way to the database or back. -/
inductive Error where
  | query (e : QueryError)
  | connection (message : String)
  | conversion (e : ConversionError)
  | emptyPool
  | poolClosed
  deriving DecidableEq, Repr

/-- The error in words. -/
def Error.message : Error → String
  | query e => "Database error: " ++ e.message
  | connection m => "Connection error: " ++ m
  | conversion e => "Data conversion error: " ++ e.message
  | emptyPool => "Connection pool must hold at least one connection"
  | poolClosed => "Connection pool is closed"

end Geocoding.Database
