import Geocoding.Database.Credentials
import Geocoding.Store
import Geocoding.Text.Numeral
import Geocoding.Time

/-!
# Sessions

A session is a connection whose first statement has limited how long its statements may take. The
sessions of a pool are opened one after the other; the first that cannot be opened ends it. Those that
take the place of discarded ones are opened in the same way.
-/

namespace Geocoding.Database

/-- A database server: how it is connected to, and how statements run on its connections. -/
structure Server (σ C : Type) where
  connect : Credentials → σ → Attempt σ C
  execute : C → String → σ → Attempt σ Unit
  query : C → Sql.Statement → σ → Attempt σ (List Row)

/-- Where sessions are opened, and how long their statements may take. -/
structure SessionOptions where
  url : String
  statementTimeout : Duration
  deriving DecidableEq, Repr

/-- The statement that limits how long statements may take: at least one millisecond, for zero would be
no limit. -/
def limitStatement (timeout : Duration) : String :=
  "SET statement_timeout = " ++ Text.numeral (max timeout.milliseconds 1)

/-- The credentials in a database URL. -/
def credentials (url : String) : Except Error Credentials :=
  (Credentials.ofUrl (withoutQuery url)).mapError
    fun e => .connection ("Invalid database URL: " ++ e.message)

namespace Server

variable {σ C : Type}

/-- Opens a session. -/
def openSession (server : Server σ C) (o : SessionOptions) (outside : σ) : Attempt σ C :=
  match credentials o.url with
  | .error e => .ended (.error e) outside
  | .ok credentials =>
    (server.connect credentials outside).bind fun conn outside =>
      (server.execute conn (limitStatement o.statementTimeout) outside).bind fun _ outside =>
        .ended (.ok conn) outside

/-- Opens sessions one after the other. -/
def openSessions (server : Server σ C) (o : SessionOptions) : Nat → σ → Attempt σ (List C)
  | 0, outside => .ended (.ok []) outside
  | n + 1, outside =>
    (server.openSession o outside).bind fun conn outside =>
      (server.openSessions o n outside).bind fun conns outside =>
        .ended (.ok (conn :: conns)) outside

/-- Opens the sessions of a pool. -/
def openPool (server : Server σ C) (o : SessionOptions) (size : Nat) (outside : σ) :
    Attempt σ (Pool C) :=
  (server.openSessions o size outside).bind fun conns outside =>
    match Pool.ofList? conns with
    | some pool => .ended (.ok pool) outside
    | none => .ended (.error .emptyPool) outside

/-- The server behind a pool. -/
def backend (server : Server σ C) (o : SessionOptions) : Backend σ C where
  connect := server.openSession o
  query := server.query

end Server

end Geocoding.Database
