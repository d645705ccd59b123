import Geocoding.Attempt
import Geocoding.Database.Row
import Geocoding.Ring
import Geocoding.Traffic

/-!
# Stores

A store answers searches and rings. The store over a pool checks out a connection for each of them, runs
its statement and reads the rows; a statement that is given up costs the pool its connection.
-/

namespace Geocoding

/-- Something that answers searches and rings, with state `σ`. -/
structure Store (σ : Type) where
  search : Search → σ → Attempt σ (List Candidate)
  nearby : Ring → σ → Attempt σ (List Nearby)

/-- What is behind a pool: how connections are opened, and how statements run on them. -/
structure Backend (σ C : Type) where
  connect : σ → Attempt σ C
  query : C → Sql.Statement → σ → Attempt σ (List Database.Row)

namespace Backend

variable {σ C α : Type}

/-- Runs a call's statement on the connection that the call has. -/
def runStatement (b : Backend σ C) (tr : Traffic C) (t : Ticket) (c : C) (s : Sql.Statement)
    (read : List Database.Row → Except Database.Error α) (outside : σ) : Attempt (Traffic C × σ) α :=
  (b.query c s outside).follow (tr.step (.expire t), ·) fun answer outside =>
    let answer := answer >>= read
    .ended answer (tr.step (.reply t answer.isOk), outside)

/-- Makes a call: checks out a connection, runs a statement on it and reads the rows. Where the pool has
no permit left, the call waits for one for good. -/
def call (b : Backend σ C) (s : Sql.Statement) (read : List Database.Row → Except Database.Error α)
    (state : Traffic C × σ) : Attempt (Traffic C × σ) α :=
  let (tr, outside) := state
  let t := tr.fresh
  let tr := (tr.step (.start t)).step (.take t)
  match tr.stage? t with
  | some (.running c) => b.runStatement tr t c s read outside
  | some .opening =>
    (b.connect outside).follow (tr.step (.expire t), ·) fun
      | .ok c => b.runStatement (tr.step (.opened t c)) t c s read
      | .error e => fun outside => .ended (.error e) (tr.step (.openFailed t), outside)
  | some .waiting =>
    .waits .never (tr.step (.expire t), outside) (.ended (.error .poolClosed) (tr, outside))
  | _ => .ended (.error .poolClosed) (tr, outside)

/-- The store over a pool. -/
def store (b : Backend σ C) : Store (Traffic C × σ) where
  search q := b.call q.statement (Database.candidates q.hasCentre)
  nearby q := b.call q.statement Database.buildings

end Backend

end Geocoding
