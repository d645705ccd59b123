import Geocoding.Database.Session
import Geocoding.Proofs.Recording
import Mathlib.Data.List.TakeWhile

/-!
# How sessions are opened

A server writes down what it is asked. For a session that is a connection and the statement that limits it; for the
sessions of a pool it is one session after the other, up to the first that cannot be opened.
-/

namespace Geocoding.Database

/-- What a server has been asked, and what came of it. -/
inductive Note (C : Type) where
  | connect (credentials : Credentials) (o : Outcome C)
  | execute (conn : C) (text : String) (o : Outcome Unit)
  | query (conn : C) (s : Sql.Statement) (o : Outcome (List Row))

/-- Whether the note is about a connection that was to be opened. -/
def Note.isConnect {C : Type} : Note C → Bool
  | connect .. => true
  | _ => false

variable {σ C : Type} {server : Server σ C} {o : SessionOptions} {conn : C} {conns : List C} {n : Nat}
  {notes notes' added : List (Note C)} {x : Outcome C} {r : Except Error (List C)}

def Server.recorded (server : Server σ C) : Server (σ × List (Note C)) C where
  connect c s := (server.connect c s.1).noted (.connect c) s.2
  execute conn text s := (server.execute conn text s.1).noted (.execute conn text) s.2
  query conn q s := (server.query conn q s.1).noted (.query conn q) s.2

/-! ### The cut of a URL -/

/-- That `cut` is what comes before the first question mark of `url`, or all of it where there is none. -/
structure IsCut (url cut : String) : Prop where
  unmarked : '?' ∉ cut.toList
  rest : url.toList = cut.toList ∨ ∃ query, url.toList = cut.toList ++ '?' :: query

theorem isCut_withoutQuery (url : String) : IsCut url (withoutQuery url) where
  unmarked := by
    rw [withoutQuery, String.toList_ofList]
    intro h
    simpa using List.mem_takeWhile_imp h
  rest := by
    have hsplit := List.takeWhile_append_dropWhile (p := (· != '?')) (l := url.toList)
    have hhead := List.head?_dropWhile_not (· != '?') url.toList
    rw [withoutQuery, String.toList_ofList]
    cases hd : url.toList.dropWhile (· != '?') with
    | nil =>
      rw [hd, List.append_nil] at hsplit
      exact .inl hsplit.symm
    | cons c query =>
      rw [hd] at hsplit hhead
      obtain rfl : c = '?' := by simpa using hhead
      exact .inr ⟨query, hsplit.symm⟩

/-- A URL is cut in one way. -/
theorem isCut_iff {url cut : String} : IsCut url cut ↔ cut = withoutQuery url := by
  constructor
  · rintro ⟨hunmarked, hrest⟩
    have hall : ∀ c ∈ cut.toList, (c != '?') = true := fun c hc => bne_iff_ne.mpr fun he => hunmarked (he ▸ hc)
    have htake : url.toList.takeWhile (· != '?') = cut.toList := by
      obtain h | ⟨query, h⟩ := hrest
      · rw [h, List.takeWhile_eq_self_iff.mpr hall]
      · rw [h, List.takeWhile_append_of_pos hall, List.takeWhile_cons_of_neg (by decide), List.append_nil]
    rw [withoutQuery, htake, String.ofList_toList]
  · rintro rfl
    exact isCut_withoutQuery url

/-! ### One session -/

/-- The credentials that the cut of a URL spells, or what is wrong with them. -/
def Spells (url : String) (r : Except CredentialsError Credentials) : Prop :=
  ∃ cut, IsCut url cut ∧ Credentials.ofUrl cut = r

theorem spells_iff {url : String} {r : Except CredentialsError Credentials} :
    Spells url r ↔ Credentials.ofUrl (withoutQuery url) = r := by
  simp only [Spells, isCut_iff, exists_eq_left]

-- How credentials are read plays no part here, and is slow to evaluate.
attribute [local irreducible] Credentials.ofUrl

/-- What is noted when a session is opened, and what comes of it. The credentials are those of the URL up to its first
question mark, and the limit is what a new connection is asked first. -/
inductive Opening (o : SessionOptions) : List (Note C) → Outcome C → Prop where
  | malformed (e : CredentialsError) (h : Spells o.url (.error e)) :
      Opening o [] (.failed (.connection ("Invalid database URL: " ++ e.message)))
  | refused (c : Credentials) (e : Error) (h : Spells o.url (.ok c)) :
      Opening o [.connect c (.failed e)] (.failed e)
  | unreached (c : Credentials) (h : Spells o.url (.ok c)) :
      Opening o [.connect c .exceeded] .exceeded
  | connected (c : Credentials) (conn : C) (y : Outcome Unit)
      (h : Spells o.url (.ok c)) :
      Opening o [.connect c (.answered conn), .execute conn (limitStatement o.statementTimeout) y]
        (y.map fun _ => conn)

/-- It is noted that a connection has been opened, and that its first statement has limited it. -/
def Opened (o : SessionOptions) (notes : List (Note C)) (conn : C) : Prop :=
  ∃ c before after, Spells o.url (.ok c) ∧
    notes = before ++ .connect c (.answered conn) ::
      .execute conn (limitStatement o.statementTimeout) (.answered ()) :: after

theorem Opened.append (h : Opened o notes conn) (before after : List (Note C)) :
    Opened o (before ++ notes ++ after) conn := by
  obtain ⟨c, before', after', hc, rfl⟩ := h
  exact ⟨c, before ++ before', after' ++ after, hc, by simp⟩

theorem Opening.opened (h : Opening o notes (.answered conn)) : Opened o notes conn := by
  generalize hx : Outcome.answered conn = x at h
  cases h with
  | malformed | refused | unreached => cases hx
  | connected c conn' y hc =>
    cases y with
    | answered u =>
      obtain rfl := Outcome.answered.inj hx
      exact ⟨c, [], [], hc, rfl⟩
    | failed e => cases hx
    | exceeded => cases hx

theorem Opening.connects_le (h : Opening o notes x) : notes.countP Note.isConnect ≤ 1 := by
  cases h with
  | malformed => exact Nat.zero_le 1
  | _ => exact Nat.le_refl 1

theorem leaves_openSession (server : Server σ C) (o : SessionOptions) (s : σ) (notes : List (Note C)) :
    (server.recorded.openSession o (s, notes)).Leaves
      (fun answer s' => ∃ added, s'.2 = notes ++ added ∧ Opening o added (.of answer))
      (fun s' => ∃ added, s'.2 = notes ++ added ∧ Opening o added .exceeded) := by
  unfold Server.openSession credentials
  cases hc : Credentials.ofUrl (withoutQuery o.url) with
  | error e => exact ⟨[], (List.append_nil notes).symm, .malformed e (spells_iff.mpr hc)⟩
  | ok c =>
    have hc : Spells o.url (.ok c) := spells_iff.mpr hc
    have hconnect := (server.connect c s).leaves_noted (Note.connect c) notes
    refine (hconnect.mono (fun _ _ h => h) fun s' hs' => ?_).bind (fun conn s' hs' => ?_) fun e s' hs' => ?_
    · exact ⟨_, hs', .unreached c hc⟩
    · have hlimit := (server.execute conn (limitStatement o.statementTimeout) s'.1).leaves_noted
        (Note.execute conn (limitStatement o.statementTimeout)) s'.2
      -- Limited or not, both notes are there.
      have hadded : ∀ y : Outcome Unit, ∀ t : σ × List (Note C),
          t.2 = s'.2 ++ [.execute conn (limitStatement o.statementTimeout) y] →
          t.2 = notes ++ [.connect c (.answered conn), .execute conn (limitStatement o.statementTimeout) y] := by
        intro y t ht
        rw [ht, hs', List.append_assoc]
        rfl
      refine (hlimit.mono (fun _ _ h => h) fun t ht => ?_).bind (fun u t ht => ?_) fun e t ht => ?_
      · exact ⟨_, hadded .exceeded t ht, .connected c conn .exceeded hc⟩
      · exact ⟨_, hadded (.answered ()) t ht, .connected c conn (.answered ()) hc⟩
      · exact ⟨_, hadded (.failed e) t ht, .connected c conn (.failed e) hc⟩
    · exact ⟨_, hs', .refused c e hc⟩

/-- Nothing but the opening of a session is noted when one is opened, however long it is waited for. -/
theorem opening_within? {s s' : σ × List (Note C)} {d : Deadline} {now later : Instant}
    (h : (server.recorded.openSession o s).within? d now = some (x, later, s')) :
    ∃ added, s'.2 = s.2 ++ added ∧ Opening o added x := by
  obtain ⟨answer, rfl, hadded⟩ | ⟨rfl, hadded⟩ := (leaves_openSession server o s.1 s.2).within? h
  · exact hadded
  · exact hadded

/-! ### One session after the other -/

/-- What is noted when sessions are opened in turn, and what comes of it: the first that is not opened is the last. -/
inductive Openings (o : SessionOptions) : Nat → List (Note C) → Except Error (List C) → Prop where
  | enough : Openings o 0 [] (.ok [])
  | stopped (n : Nat) (notes : List (Note C)) (e : Error) (h : Opening o notes (.failed e)) :
      Openings o (n + 1) notes (.error e)
  | onward (n : Nat) (first rest : List (Note C)) (conn : C) (r : Except Error (List C))
      (h : Opening o first (.answered conn)) (h' : Openings o n rest r) :
      Openings o (n + 1) (first ++ rest) (r.map (conn :: ·))

theorem Openings.connects_le (h : Openings o n notes r) : notes.countP Note.isConnect ≤ n := by
  induction h with
  | enough => exact Nat.le_refl 0
  | stopped n notes e h => exact Nat.le_trans h.connects_le (Nat.le_add_left 1 n)
  | onward n first rest conn r h h' ih =>
    have hfirst := h.connects_le
    rw [List.countP_append]
    omega

theorem Openings.all (h : Openings o n notes r) (hr : r = .ok conns) :
    conns.length = n ∧ ∀ conn ∈ conns, Opened o notes conn := by
  induction h generalizing conns with
  | enough =>
    cases hr
    exact ⟨rfl, nofun⟩
  | stopped => cases hr
  | onward n first rest conn r h h' ih =>
    cases r with
    | error e => cases hr
    | ok conns' =>
      obtain rfl : conn :: conns' = conns := Except.ok.inj hr
      obtain ⟨hl, ho⟩ := ih rfl
      refine ⟨congrArg Nat.succ hl, fun conn' hm => ?_⟩
      obtain rfl | hm := List.mem_cons.mp hm
      · have := h.opened.append [] rest
        simpa using this
      · have := (ho conn' hm).append first []
        simpa using this

theorem leaves_openSessions (server : Server σ C) (o : SessionOptions) (n : Nat) (s : σ) (notes : List (Note C)) :
    (server.recorded.openSessions o n (s, notes)).Leaves
      (fun r s' => ∃ added, s'.2 = notes ++ added ∧ Openings o n added r) (fun _ => True) := by
  induction n generalizing s notes with
  | zero => exact ⟨[], (List.append_nil notes).symm, .enough⟩
  | succ n ih =>
    rw [Server.openSessions]
    have hopening := leaves_openSession server o s notes
    refine (hopening.mono (fun _ _ h => h) fun _ _ => trivial).bind (fun conn s' hs' => ?_) fun e s' hs' => ?_
    · obtain ⟨first, hfirst, hopened⟩ := hs'
      have hjoin : ∀ rest, s'.2 ++ rest = notes ++ (first ++ rest) := by
        intro rest
        rw [hfirst, List.append_assoc]
      refine (ih s'.1 s'.2).bind (fun conns t ht => ?_) fun e t ht => ?_
      · obtain ⟨rest, ht, hrest⟩ := ht
        exact ⟨first ++ rest, ht.trans (hjoin rest), .onward n first rest conn _ hopened hrest⟩
      · obtain ⟨rest, ht, hrest⟩ := ht
        exact ⟨first ++ rest, ht.trans (hjoin rest), .onward n first rest conn _ hopened hrest⟩
    · obtain ⟨added, hadded, hfailed⟩ := hs'
      exact ⟨added, hadded, .stopped n added e hfailed⟩

/-- Nothing is noted but the sessions that are opened in turn; they make up the pool, if there is one. -/
theorem leaves_openPool (server : Server σ C) (o : SessionOptions) (n : Nat) (s : σ) (notes : List (Note C))
    (hn : 0 < n) : (server.recorded.openPool o n (s, notes)).Leaves
      (fun answer s' => ∃ added r, s'.2 = notes ++ added ∧ Openings o n added r ∧
        answer = r.map fun conns => ⟨n, n, false, conns.reverse, [], [], [], [], [], []⟩)
      (fun _ => True) := by
  refine (leaves_openSessions server o n s notes).bind (fun conns s' hs' => ?_) fun e s' hs' => ?_
  · obtain ⟨added, hadded, ho⟩ := hs'
    obtain ⟨rfl, -⟩ := ho.all rfl
    have hp : Pool.ofList? conns =
        some ⟨conns.length, conns.length, false, conns.reverse, [], [], [], [], [], []⟩ := by
      have hne : conns.isEmpty = false := List.isEmpty_eq_false_iff.mpr (List.length_pos_iff.mp hn)
      rw [Pool.ofList?, hne]
      rfl
    simp only [hp]
    exact ⟨added, _, hadded, ho, rfl⟩
  · obtain ⟨added, hadded, ho⟩ := hs'
    exact ⟨added, _, hadded, ho, rfl⟩

/-! ### When sessions are opened -/

/-- No question about connections is waited for for good. -/
structure Responds (server : Server σ C) : Prop where
  connect : ∀ c s, (server.connect c s).Ends
  execute : ∀ conn text s, (server.execute conn text s).Ends

theorem Responds.openSession (h : Responds server) (o : SessionOptions) (s : σ) :
    (server.openSession o s).Ends := by
  unfold Server.openSession
  split
  · trivial
  · next c hc => exact Attempt.ends_bind (h.connect c s) fun conn s => Attempt.ends_bind (h.execute ..) fun _ _ => trivial

theorem Responds.openSessions (h : Responds server) (o : SessionOptions) (n : Nat) (s : σ) :
    (server.openSessions o n s).Ends := by
  induction n generalizing s with
  | zero => trivial
  | succ n ih =>
    exact Attempt.ends_bind (h.openSession o s) fun conn s => Attempt.ends_bind (ih s) fun _ _ => trivial

theorem Responds.openPool (h : Responds server) (o : SessionOptions) (n : Nat) (s : σ) :
    (server.openPool o n s).Ends := by
  apply Attempt.ends_bind (h.openSessions o n s)
  intro conns s
  cases Pool.ofList? conns with
  | none => trivial
  | some pool => trivial

/-! ### Without the notes -/

theorem seen_openSession (server : Server σ C) (o : SessionOptions) (s : σ × List (Note C)) :
    (server.recorded.openSession o s).seen Prod.fst = server.openSession o s.1 := by
  unfold Server.openSession
  cases credentials o.url with
  | error e => rfl
  | ok c =>
    refine (Attempt.seen_bind (fun conn s' => ?_) _).trans (congrArg (Attempt.bind · _) (Attempt.seen_noted ..))
    refine (Attempt.seen_bind (fun _ t => ?_) _).trans (congrArg (Attempt.bind · _) (Attempt.seen_noted ..))
    rfl

theorem seen_openSessions (server : Server σ C) (o : SessionOptions) (n : Nat) (s : σ × List (Note C)) :
    (server.recorded.openSessions o n s).seen Prod.fst = server.openSessions o n s.1 := by
  induction n generalizing s with
  | zero => rfl
  | succ n ih =>
    refine (Attempt.seen_bind (fun conn s' => ?_) _).trans (congrArg (Attempt.bind · _) (seen_openSession ..))
    refine (Attempt.seen_bind (fun conns t => ?_) _).trans (congrArg (Attempt.bind · _) (ih s'))
    rfl

theorem seen_openPool (server : Server σ C) (o : SessionOptions) (n : Nat) (s : σ × List (Note C)) :
    (server.recorded.openPool o n s).seen Prod.fst = server.openPool o n s.1 := by
  refine (Attempt.seen_bind (fun conns s' => ?_) _).trans (congrArg (Attempt.bind · _) (seen_openSessions ..))
  cases Pool.ofList? conns <;> rfl

end Geocoding.Database
