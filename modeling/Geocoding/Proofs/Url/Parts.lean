import Geocoding.Url.Address
import Geocoding.Proofs.Checking
import Mathlib.Data.List.Infix

/-!
# The parts of a URL's text

Where the authority and the path of a URL stand in its text is told by the marks `/`, `?` and `#`. None of these can
stand inside an authority that has been read, and neither of the last two in a path, so the text of a URL is divided
where its parts end.
-/

namespace Geocoding.Url

variable {p : Char → Bool} {cs : List Char} {n : Nat} {k : SchemeKind}

def endsPath (c : Char) : Bool := c == '?' || c == '#'

def endsAuthority (c : Char) : Bool := c == '/' || endsPath c

/-- A text without any of some characters. -/
def Free (p : Char → Bool) (cs : List Char) : Prop := ∀ c ∈ cs, p c = false

instance : Decidable (Free p cs) := List.decidableBAll (p · = false) cs

theorem Free.append {xs ys : List Char} (hx : Free p xs) (hy : Free p ys) : Free p (xs ++ ys) := by
  intro c hc
  obtain hc | hc := List.mem_append.mp hc
  · exact hx c hc
  · exact hy c hc

theorem free_nil : Free p [] := fun _ hc => absurd hc List.not_mem_nil

theorem free_cons {c : Char} : Free p (c :: cs) ↔ p c = false ∧ Free p cs := List.forall_mem_cons

theorem Free.intercalate {sep : List Char} {pieces : List (List Char)} (hs : Free p sep)
    (h : ∀ piece ∈ pieces, Free p piece) : Free p (sep.intercalate pieces) := by
  induction pieces with
  | nil => exact free_nil
  | cons piece pieces ih =>
    obtain ⟨hpiece, hpieces⟩ := List.forall_mem_cons.mp h
    cases pieces with
    | nil => rwa [List.intercalate_singleton]
    | cons next pieces =>
      rw [List.intercalate_cons_cons]
      exact (hpiece.append hs).append (ih hpieces)

/-! ### Encoded texts and numbers -/

theorem not_endsAuthority_hexDigit : ∀ n < 16, endsAuthority (hexDigit n) = false := by decide

theorem free_encodedByte (b : UInt8) : Free endsAuthority (encodedByte b) := by
  have hb : b.toNat < 256 := b.toNat_lt
  have hhigh := not_endsAuthority_hexDigit (b.toNat / 16) (by omega)
  have hlow := not_endsAuthority_hexDigit (b.toNat % 16) (by omega)
  exact free_cons.mpr ⟨by decide, free_cons.mpr ⟨hhigh, free_cons.mpr ⟨hlow, free_nil⟩⟩⟩

/-- Marks that are encoded do not stand in the encoded text. -/
theorem free_encoded {isEncoded : Char → Bool} (hp : ∀ c, p c = true → endsAuthority c = true)
    (he : ∀ c, p c = true → isEncoded c = true) (cs : List Char) : Free p (encoded isEncoded cs) := by
  intro c hc
  obtain ⟨d, -, hc⟩ := List.mem_flatMap.mp hc
  unfold encodedChar at hc
  split at hc
  · obtain ⟨b, -, hc⟩ := List.mem_flatMap.mp hc
    have hfree := free_encodedByte b c hc
    by_contra hpc
    rw [hp c (by simpa using hpc)] at hfree
    cases hfree
  · next hd =>
    obtain rfl := List.mem_singleton.mp hc
    by_contra hpc
    exact hd (he c (by simpa using hpc))

theorem not_endsAuthority_digitChar : ∀ d < 16, endsAuthority (Nat.digitChar d) = false := by decide

theorem free_toDigits {base : Nat} (hb : 1 < base) (hb' : base ≤ 16) (n : Nat) :
    Free endsAuthority (Nat.toDigits base n) := by
  induction n using Nat.strongRecOn with
  | ind n ih =>
    rw [Nat.toDigits_eq_if hb]
    split
    · exact free_cons.mpr ⟨not_endsAuthority_digitChar n (by omega), free_nil⟩
    · next hn =>
      have hlt : n / base < n := Nat.div_lt_self (by omega) hb
      have hdigit : n % base < base := Nat.mod_lt n (by omega)
      exact (ih (n / base) hlt).append (free_cons.mpr ⟨not_endsAuthority_digitChar _ (by omega), free_nil⟩)

/-! ### Hosts -/

theorem free_joinPieces (ns : List Nat) : Free endsAuthority (joinPieces ns) := by
  refine Free.intercalate (free_cons.mpr ⟨by decide, free_nil⟩) fun piece hpiece => ?_
  obtain ⟨n, -, rfl⟩ := List.mem_map.mp hpiece
  exact free_toDigits (by decide) (by decide) n

theorem free_ipv6TextFrom (gap : Nat) (front ns : List Nat) : Free endsAuthority (ipv6TextFrom gap front ns) := by
  induction ns generalizing front with
  | nil => exact free_joinPieces front
  | cons n ns ih =>
    rw [ipv6TextFrom]
    split
    · exact (free_joinPieces front).append
        (free_cons.mpr ⟨by decide, free_cons.mpr ⟨by decide, free_joinPieces _⟩⟩)
    · exact ih _

theorem free_ipv6Text (ns : List Nat) : Free endsAuthority (ipv6Text ns) := by
  unfold ipv6Text
  dsimp only
  split
  · exact free_joinPieces ns
  · exact free_ipv6TextFrom _ [] ns

theorem free_ipv4Text (n : Nat) : Free endsAuthority (ipv4Text n) := by
  refine Free.intercalate (free_cons.mpr ⟨by decide, free_nil⟩) fun piece hpiece => ?_
  obtain ⟨unit, -, rfl⟩ := List.mem_map.mp hpiece
  exact free_toDigits (by decide) (by decide) _

theorem free_toAscii? {name : List Char} (h : Domain.toAscii? cs = some name) : Free endsAuthority name := by
  obtain ⟨mapped, -, h⟩ := Option.bind_eq_some_iff.mp h
  obtain ⟨labels, -, h⟩ := Option.bind_eq_some_iff.mp h
  dsimp only at h
  split at h
  · next hn =>
    obtain rfl := Option.some.inj h
    have hany := (Bool.and_eq_true_iff.mp hn).2
    rw [Bool.not_eq_true', List.any_eq_false] at hany
    intro c hc
    by_contra hends
    refine hany c hc ?_
    simp only [endsAuthority, endsPath, Bool.not_eq_false, Bool.or_eq_true, beq_iff_eq] at hends
    obtain rfl | rfl | rfl := hends
    · decide
    · decide
    · decide
  · cases h

/-- A host that has been read has none of the marks, and is not empty. -/
theorem Host.free_text {h : Host} (hh : Host.read cs = .ok h) : Free endsAuthority h.text ∧ h.text ≠ [] := by
  unfold Host.read at hh
  split at hh
  · unfold bracketed at hh
    split at hh
    · split at hh
      · next pieces _ =>
        obtain rfl := Except.ok.inj hh
        have hclose : Free endsAuthority [']'] := free_cons.mpr ⟨by decide, free_nil⟩
        exact ⟨free_cons.mpr ⟨by decide, (free_ipv6Text pieces).append hclose⟩, List.cons_ne_nil _ _⟩
      · cases hh
    · cases hh
  · split at hh
    · cases hh
    · cases hh
    · next name hne hname =>
      split at hh
      · split at hh
        · next address _ =>
          obtain rfl := Except.ok.inj hh
          refine ⟨free_ipv4Text address, ?_⟩
          simp [text, ipv4Text, List.intercalate_cons_cons, Nat.toDigits_ne_nil]
        · cases hh
      · obtain rfl := Except.ok.inj hh
        obtain ⟨decoded, -, hascii⟩ := Option.bind_eq_some_iff.mp hname
        exact ⟨free_toAscii? hascii, hne⟩

/-- What an authority that has been read is made of. -/
theorem readAuthority_eq_ok {followed : Bool} {a : Authority} {path : Path} (hk : k.isSpecial = true)
    (h : readAuthority k cs followed = .ok (a, path)) :
    ∃ username password hostText host rest, a.username = encoded inUserinfo username ∧
      a.password = encoded inUserinfo password ∧ Host.read hostText = .ok host ∧ a.host = some host ∧
      path = pathAfterAuthority k rest := by
  unfold readAuthority at h
  obtain ⟨-, h⟩ | ⟨-, h⟩ := ite_eq_iff.mp h
  · cases h
  obtain ⟨-, h⟩ | ⟨-, h⟩ := ite_eq_iff.mp h
  · cases h
  rw [if_pos hk] at h
  obtain ⟨host, hhost, h⟩ := Checking.bind_eq_ok_iff.mp h
  obtain ⟨-, h⟩ | ⟨-, h⟩ := ite_eq_iff.mp h
  · cases h
  obtain ⟨port, -, h⟩ := Checking.bind_eq_ok_iff.mp h
  obtain ⟨-, h⟩ | ⟨-, h⟩ := ite_eq_iff.mp h
  · cases h
  obtain ⟨rfl, rfl⟩ := Prod.mk.inj (Except.ok.inj h)
  obtain ⟨host, hread, rfl⟩ := Checking.map_eq_ok_iff.mp hhost
  exact ⟨_, _, _, host, _, rfl, rfl, hread, rfl, rfl⟩

theorem free_userinfo (cs : List Char) : Free endsAuthority (encoded inUserinfo cs) := by
  refine free_encoded (fun _ h => h) (fun c hc => ?_) cs
  simp only [endsAuthority, endsPath, Bool.or_eq_true, beq_iff_eq] at hc
  obtain rfl | rfl | rfl := hc
  · decide
  · decide
  · decide

/-- An authority that has been read has none of the marks, and is not empty. -/
theorem free_authority {followed : Bool} {a : Authority} {path : Path} (hk : k.isSpecial = true)
    (h : readAuthority k cs followed = .ok (a, path)) : Free endsAuthority a.text ∧ a.text ≠ [] := by
  obtain ⟨username, password, hostText, host, rest, husername, hpassword, hread, hhost, -⟩ := readAuthority_eq_ok hk h
  obtain ⟨hfree, hne⟩ := Host.free_text hread
  have hname : Free endsAuthority a.username := husername ▸ free_userinfo username
  have hword : Free endsAuthority a.password := hpassword ▸ free_userinfo password
  have hat : Free endsAuthority ['@'] := free_cons.mpr ⟨by decide, free_nil⟩
  have huserinfo : Free endsAuthority a.userinfoText := by
    unfold Authority.userinfoText
    split
    · exact free_nil
    · refine (hname.append ?_).append hat
      split
      · exact free_nil
      · exact free_cons.mpr ⟨by decide, hword⟩
  rw [Authority.text, hhost, Option.map_some, Option.getD_some]
  constructor
  · refine (huserinfo.append hfree).append ?_
    split
    · exact free_cons.mpr ⟨by decide, free_toDigits (by decide) (by decide) _⟩
    · exact free_nil
  · simp [hne]

/-! ### Paths -/

variable {path : List (List Char)}

theorem free_segment (cs : List Char) : Free endsPath (encoded inPath cs) := by
  refine free_encoded (fun c hc => ?_) (fun c hc => ?_) cs
  · simp [endsAuthority, hc]
  · simp only [endsPath, Bool.or_eq_true, beq_iff_eq] at hc
    obtain rfl | rfl := hc
    · decide
    · decide

theorem mem_of_mem_shorten {s : List Char} (h : s ∈ shorten k path) : s ∈ path := by
  unfold shorten at h
  split at h
  · exact h
  · split at h
    · exact h
    · cases h
  · exact List.mem_cons_of_mem _ h

theorem free_addSegment (hk : k ≠ .file) (hpath : ∀ s ∈ path, Free endsPath s) (s : List Char) (isLast : Bool) :
    ∀ s' ∈ addSegment k path s isLast, Free endsPath s' := by
  have hshorten : ∀ s' ∈ shorten k path, Free endsPath s' := fun s' hs' => hpath s' (mem_of_mem_shorten hs')
  have hempty {path : List (List Char)} (h : ∀ s' ∈ path, Free endsPath s') :
      ∀ s' ∈ [] :: path, Free endsPath s' := List.forall_mem_cons.mpr ⟨free_nil, h⟩
  unfold addSegment
  split_ifs with habove hlast hhere hlast hdrive
  · exact hempty hshorten
  · exact hshorten
  · exact hempty hpath
  · exact hpath
  · exact absurd hdrive.1 hk
  · exact List.forall_mem_cons.mpr ⟨free_segment s, hpath⟩

theorem free_addSegments (hk : k ≠ .file) (ss : List (List Char)) (hpath : ∀ s ∈ path, Free endsPath s) :
    ∀ s ∈ addSegments k path ss, Free endsPath s := by
  induction ss generalizing path with
  | nil => exact hpath
  | cons s ss ih =>
    cases ss with
    | nil => exact free_addSegment hk hpath s true
    | cons s' ss => exact ih (free_addSegment hk hpath s false)

theorem addSegments_ne_nil {ss : List (List Char)} (hss : ss ≠ []) : addSegments k path ss ≠ [] := by
  induction ss generalizing path with
  | nil => exact absurd rfl hss
  | cons s ss ih =>
    cases ss with
    | nil =>
      simp only [addSegments, addSegment, if_true]
      split_ifs <;> exact List.cons_ne_nil _ _
    | cons s' ss => exact ih (List.cons_ne_nil _ _)

theorem free_segmentsOf (hk : k ≠ .file) (cs : List Char) :
    segmentsOf k cs ≠ [] ∧ ∀ s ∈ segmentsOf k cs, Free endsPath s := by
  rw [segmentsOf]
  constructor
  · rw [ne_eq, List.reverse_eq_nil_iff]
    exact addSegments_ne_nil (List.splitOnP_ne_nil _ cs)
  · intro s hs
    exact free_addSegments hk _ (by simp) s (List.mem_reverse.mp hs)

/-- A path after an authority begins with a slash, and has none of the marks that end it. -/
theorem free_path (hk : k ≠ .file) (hs : k.isSpecial = true) (cs : List Char) :
    (∃ rest, (pathAfterAuthority k cs).text = '/' :: rest) ∧ Free endsPath (pathAfterAuthority k cs).text := by
  obtain ⟨ss, hpath, hne, hfree⟩ : ∃ ss, pathAfterAuthority k cs = .segments ss ∧ ss ≠ [] ∧
      ∀ s ∈ ss, Free endsPath s := by
    cases cs with
    | nil =>
      refine ⟨[[]], ?_, List.cons_ne_nil _ _, ?_⟩
      · simp [pathAfterAuthority, hs]
      · exact List.forall_mem_singleton.mpr free_nil
    | cons c cs => exact ⟨_, rfl, (free_segmentsOf hk _).1, (free_segmentsOf hk _).2⟩
  rw [hpath, Path.text]
  constructor
  · obtain ⟨s, ss, rfl⟩ := List.exists_cons_of_ne_nil hne
    exact ⟨s ++ ss.flatMap ('/' :: ·), rfl⟩
  · intro c hc
    obtain ⟨s, hs, hc⟩ := List.mem_flatMap.mp hc
    obtain rfl | hc := List.mem_cons.mp hc
    · decide
    · exact hfree s hs c hc

/-! ### The text of a URL -/

/-- A URL with an authority and a path from the root, neither of which has the marks that end it. -/
structure IsParted (u : Url) (a : Authority) : Prop where
  authority : u.authority = some a
  free_authority : Free endsAuthority a.text
  authority_ne_nil : a.text ≠ []
  path : ∃ cs, u.path.text = '/' :: cs
  free_path : Free endsPath u.path.text

theorem isParted_of_ofString {s : String} {u : Url} {port : Nat} (h : ofString s = .ok u)
    (hport : SchemeKind.of u.scheme = .withPort port) : ∃ a, u.IsParted a := by
  unfold ofString at h
  split at h
  · cases h
  · next scheme rest _ =>
    obtain ⟨⟨authority, path⟩, hread, h⟩ := Checking.bind_eq_ok_iff.mp h
    obtain rfl := Except.ok.inj h
    have hk : SchemeKind.of scheme = .withPort port := hport
    rw [hk] at hread
    obtain ⟨⟨a, path'⟩, hparts, hsame⟩ := Checking.map_eq_ok_iff.mp hread
    obtain ⟨rfl, rfl⟩ := Prod.mk.inj hsame
    obtain ⟨hfree, hne⟩ := free_authority rfl hparts
    obtain ⟨-, -, -, -, beyond, -, -, -, -, rfl⟩ := readAuthority_eq_ok rfl hparts
    obtain ⟨hpath, hfree'⟩ := free_path (k := .withPort port) (by simp) rfl beyond
    exact ⟨a, rfl, hfree, hne, hpath, hfree'⟩

structure Parts where
  scheme : List Char
  authority : List Char
  path : List Char
  rest : List Char
  deriving DecidableEq

/-- The parts of a text that begins like a URL with an authority: what stands before the colon, up to the first mark
that ends the authority, and up to the first that ends the path. -/
def partsOf? (cs : List Char) : Option Parts :=
  match cs.dropWhile (· != ':') with
  | ':' :: '/' :: '/' :: after =>
    let beyond := after.dropWhile (!endsAuthority ·)
    some ⟨cs.takeWhile (· != ':'), after.takeWhile (!endsAuthority ·), beyond.takeWhile (!endsPath ·),
      beyond.dropWhile (!endsPath ·)⟩
  | _ => none

theorem span_of_free {xs ys : List Char} (hx : Free p xs) (hy : ∀ c ∈ ys.head?, p c = true) :
    (xs ++ ys).takeWhile (!p ·) = xs ∧ (xs ++ ys).dropWhile (!p ·) = ys := by
  have hall : ∀ c ∈ xs, (!p c) = true := fun c hc => by simp [hx c hc]
  rw [List.takeWhile_append_of_pos hall, List.dropWhile_append_of_pos hall]
  cases ys with
  | nil => simp
  | cons c ys =>
    have hc : p c = true := hy c rfl
    simp [hc]

theorem partsOf?_text {scheme authority path rest : List Char} (hs : Free (· == ':') scheme)
    (ha : Free endsAuthority authority) (hp : Free endsPath path) (hpath : ∃ cs, path = '/' :: cs)
    (hr : ∀ c ∈ rest.head?, endsPath c = true) :
    partsOf? (scheme ++ ':' :: '/' :: '/' :: (authority ++ (path ++ rest))) =
      some ⟨scheme, authority, path, rest⟩ := by
  have hcolon : ∀ c ∈ (':' :: '/' :: '/' :: (authority ++ (path ++ rest))).head?, (c == ':') = true := by simp
  obtain ⟨hs, hafter⟩ := span_of_free hs hcolon
  have hhead : ∀ c ∈ (path ++ rest).head?, endsAuthority c = true := by
    obtain ⟨cs, rfl⟩ := hpath
    rintro c hc
    obtain rfl := Option.some.inj hc
    decide
  obtain ⟨ha, hbeyond⟩ := span_of_free ha hhead
  obtain ⟨hp, hrest⟩ := span_of_free hp hr
  have hne : (fun c : Char => c != ':') = fun c => !(c == ':') := rfl
  simp only [partsOf?, hne, hs, hafter, ha, hbeyond, hp, hrest]

end Geocoding.Url
