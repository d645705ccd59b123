import Geocoding.Proofs.Database.Openings
import Geocoding.Proofs.Traffic.Deadlines

/-!
# The connections behind a pool

Whoever calls, a pool hands out sessions only: those that it began with, and those that its calls open in the place of
discarded ones. So no connection is asked for rows whose statements are not limited.
-/

namespace Geocoding.Database

open Traffic

variable {σ C α : Type} {server : Server σ C} {o : SessionOptions} {conn : C} {notes added : List (Note C)}
  {tr : Traffic C} {t : Ticket} {s s' : σ × List (Note C)} {x : Outcome C}

-- How credentials are read plays no part here, and is slow to evaluate.
attribute [local irreducible] Credentials.ofUrl

/-- Each connection that has been asked for rows had been opened as a session before. -/
def Asked (o : SessionOptions) (notes : List (Note C)) : Prop :=
  ∀ before conn q y after, notes = before ++ .query conn q y :: after → Opened o before conn

theorem asked_nil : Asked (C := C) o [] := by
  intro before conn q y after he
  cases before with
  | nil => cases he
  | cons note before => cases he

theorem Asked.append (h : Asked o notes)
    (hadded : ∀ before conn q y after, added = before ++ .query conn q y :: after → Opened o (notes ++ before) conn) :
    Asked o (notes ++ added) := by
  intro before conn q y after he
  obtain ⟨mid, rfl, hmid⟩ | ⟨mid, hmid, he⟩ := List.append_eq_append_iff.mp he
  · exact hadded mid conn q y after hmid
  · cases mid with
    | nil =>
      have := hadded [] conn q y after he.symm
      rw [hmid, List.append_nil, List.append_nil] at this
      exact this
    | cons note mid =>
      obtain ⟨rfl, -⟩ := List.cons.inj he
      exact h before conn q y mid hmid

theorem Asked.append_query (h : Asked o notes) (hc : Opened o notes conn) (q : Sql.Statement)
    (y : Outcome (List Row)) : Asked o (notes ++ [.query conn q y]) := by
  apply h.append
  intro before conn' q' y' after he
  cases before with
  | nil =>
    obtain ⟨hn, -⟩ := List.cons.inj he
    cases hn
    simpa using hc
  | cons note before =>
    have := congrArg List.length he
    simp at this

theorem Opening.query_not_mem (h : Opening o added x) (conn : C) (q : Sql.Statement) (y : Outcome (List Row)) :
    .query conn q y ∉ added := by
  cases h <;> simp

theorem Openings.query_not_mem {n : Nat} {r : Except Error (List C)} (h : Openings o n added r) (conn : C)
    (q : Sql.Statement) (y : Outcome (List Row)) : .query conn q y ∉ added := by
  induction h with
  | enough => exact List.not_mem_nil
  | stopped n notes e h => exact h.query_not_mem conn q y
  | onward n first rest conn' r h h' ih =>
    intro hm
    obtain hm | hm := List.mem_append.mp hm
    · exact h.query_not_mem conn q y hm
    · exact ih hm

theorem Asked.append_of_not_mem (h : Asked o notes) (hn : ∀ conn q y, .query conn q y ∉ added) :
    Asked o (notes ++ added) := by
  apply h.append
  intro before conn q y after he
  refine absurd ?_ (hn conn q y)
  rw [he]
  exact List.mem_append_right _ List.mem_cons_self

/-- Every connection that a pool has or has had is a session, and no other has been asked for rows. -/
structure SessionsOnly (o : SessionOptions) (state : Traffic C × σ × List (Note C)) : Prop where
  coherent : Coherent state.1
  known : ∀ conn ∈ state.1.pool.known, Opened o state.2.2 conn
  asked : Asked o state.2.2

/-! ### What one call keeps -/

theorem SessionsOnly.noted (h : SessionsOnly o (tr, s)) (hs : s'.2 = s.2 ++ added) (ha : Asked o s'.2) :
    SessionsOnly o (tr, s') := by
  refine ⟨h.coherent, fun conn hc => ?_, ha⟩
  have := (h.known conn hc).append [] added
  show Opened o s'.2 conn
  rw [hs]
  simpa using this

theorem SessionsOnly.step {e : Traffic.Event C} (h : SessionsOnly o (tr, s))
    (he : ∀ conn ∈ e.brings, Opened o s.2 conn) : SessionsOnly o (tr.step e, s) := by
  unfold Traffic.step
  cases hs : tr.step? e with
  | none => exact h
  | some m =>
    refine ⟨h.coherent.of_step? hs, fun conn hc => ?_, h.asked⟩
    obtain hc | hc := List.mem_append.mp ((h.coherent.known_perm hs).mem_iff.mp hc)
    · exact h.known conn hc
    · exact he conn hc

theorem SessionsOnly.step_of_nil {e : Traffic.Event C} (h : SessionsOnly o (tr, s)) (he : e.brings = []) :
    SessionsOnly o (tr.step e, s) := by
  apply h.step
  intro conn hc
  rw [he] at hc
  cases hc

theorem SessionsOnly.opened_of_running (h : SessionsOnly o (tr, s)) (hr : tr.stage? t = some (.running conn)) :
    Opened o s.2 conn := by
  have hl : conn ∈ tr.pool.leased :=
    (Pool.mem_leased_iff h.coherent.wellFormed conn).mpr ⟨t, leaseOn conn, h.coherent.lease?_iff.mpr ⟨conn, hr, rfl⟩, rfl⟩
  exact h.known conn (List.mem_append_left _ (List.mem_append_right _ hl))

theorem leaves_runStatement (server : Server σ C) (h : SessionsOnly o (tr, s)) (hc : Opened o s.2 conn) (t : Ticket)
    (q : Sql.Statement) (read : List Row → Except Error α) :
    ((server.recorded.backend o).runStatement tr t conn q read s).Leaves (fun _ => SessionsOnly o) (SessionsOnly o) := by
  have hquery := (server.query conn q s.1).leaves_noted (Note.query conn q) s.2
  refine Attempt.Leaves.follow hquery (fun answer s' hs' => ?_) fun s' hs' => ?_
  · have hs := h.noted hs' (hs' ▸ h.asked.append_query hc q _)
    exact hs.step_of_nil rfl
  · have hs := h.noted hs' (hs' ▸ h.asked.append_query hc q _)
    exact hs.step_of_nil rfl

/-- A call asks a session for its rows: one that is there, or one that it opens itself. -/
theorem leaves_call (server : Server σ C) (h : SessionsOnly o (tr, s)) (q : Sql.Statement)
    (read : List Row → Except Error α) :
    ((server.recorded.backend o).call q read (tr, s)).Leaves (fun _ => SessionsOnly o) (SessionsOnly o) := by
  have hm : SessionsOnly o ((tr.step (.start tr.fresh)).step (.take tr.fresh), s) := (h.step_of_nil rfl).step_of_nil rfl
  unfold Backend.call
  dsimp only
  generalize (tr.step (.start tr.fresh)).step (.take tr.fresh) = m at hm ⊢
  split
  · next conn hr => exact leaves_runStatement server hm (hm.opened_of_running hr) tr.fresh q read
  · have hopening := leaves_openSession server o s.1 s.2
    refine hopening.follow (fun answer s' hs' => ?_) fun s' hs' => ?_
    · obtain ⟨added, hs', ho⟩ := hs'
      have hn := hm.noted hs' (hs' ▸ hm.asked.append_of_not_mem ho.query_not_mem)
      cases answer with
      | error e => exact hn.step_of_nil rfl
      | ok conn =>
        have hc : Opened o s'.2 conn := by
          have := ho.opened.append s.2 []
          rw [hs']
          simpa using this
        refine leaves_runStatement server (hn.step ?_) hc tr.fresh q read
        intro conn' hm'
        obtain rfl := List.mem_singleton.mp hm'
        exact hc
    · obtain ⟨added, hs', ho⟩ := hs'
      have hn := hm.noted hs' (hs' ▸ hm.asked.append_of_not_mem ho.query_not_mem)
      exact hn.step_of_nil rfl
  · exact ⟨hm.step_of_nil rfl, fun hw => absurd rfl hw⟩
  · exact hm

/-! ### Calls one after the other -/

/-- The states that calls on a pool lead to, one after the other and each under its own deadline. -/
inductive Serves (b : Backend σ C) (start : Traffic C × σ) : Traffic C × σ → Prop where
  | start : Serves b start start
  | call {α : Type} (q : Sql.Statement) (read : List Row → Except Error α) (d : Deadline) (now later : Instant)
      (y : Outcome α) (state state' : Traffic C × σ) (h : Serves b start state)
      (hw : (b.call q read state).within? d now = some (y, later, state')) : Serves b start state'

theorem SessionsOnly.serves {start state : Traffic C × σ × List (Note C)} (h : SessionsOnly o start)
    (hs : Serves (server.recorded.backend o) start state) : SessionsOnly o state := by
  induction hs with
  | start => exact h
  | call q read d now later y state state' _ hw ih =>
    obtain ⟨answer, -, h'⟩ | ⟨-, h'⟩ := (leaves_call server ih q read).within? hw
    · exact h'
    · exact h'

theorem seen_runStatement (server : Server σ C) (o : SessionOptions) (tr : Traffic C) (t : Ticket) (conn : C)
    (q : Sql.Statement) (read : List Row → Except Error α) (s : σ × List (Note C)) :
    ((server.recorded.backend o).runStatement tr t conn q read s).seen (Prod.map id Prod.fst) =
      (server.backend o).runStatement tr t conn q read s.1 := by
  have hquery : ((server.recorded.backend o).query conn q s).seen Prod.fst = (server.backend o).query conn q s.1 :=
    Attempt.seen_noted ..
  rw [Backend.runStatement, Backend.runStatement, ← hquery]
  apply Attempt.seen_follow
  · intro s'
    rfl
  · intro answer s'
    rfl

theorem seen_call (server : Server σ C) (o : SessionOptions) (q : Sql.Statement)
    (read : List Row → Except Error α) (state : Traffic C × σ × List (Note C)) :
    ((server.recorded.backend o).call q read state).seen (Prod.map id Prod.fst) =
      (server.backend o).call q read (state.1, state.2.1) := by
  obtain ⟨tr, s⟩ := state
  unfold Backend.call
  dsimp only
  generalize (tr.step (.start tr.fresh)).step (.take tr.fresh) = m
  split
  · exact seen_runStatement ..
  · have hconnect : ((server.recorded.backend o).connect s).seen Prod.fst = (server.backend o).connect s.1 :=
      seen_openSession ..
    rw [← hconnect]
    apply Attempt.seen_follow
    · intro s'
      rfl
    · intro answer s'
      cases answer with
      | ok conn => exact seen_runStatement ..
      | error e => rfl
  · rfl
  · rfl

/-- Calls lead where they would lead if the server kept no notes. -/
theorem Serves.recorded {start state : Traffic C × σ} (h : Serves (server.backend o) start state)
    (notes : List (Note C)) :
    ∃ notes', Serves (server.recorded.backend o) (start.1, start.2, notes) (state.1, state.2, notes') := by
  induction h with
  | start => exact ⟨notes, .start⟩
  | call q read d now later y state state' _ hw ih =>
    obtain ⟨notes', hs⟩ := ih
    have hseen := seen_call server o q read (state.1, state.2, notes')
    rw [← hseen] at hw
    obtain ⟨⟨tr, s, notes''⟩, hw', rfl⟩ := Attempt.exists_of_within?_seen hw
    exact ⟨notes'', .call q read d now later y _ _ hs hw'⟩

end Geocoding.Database
