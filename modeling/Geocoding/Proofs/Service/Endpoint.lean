import Geocoding.Proofs.Settings.Checks
import Geocoding.Proofs.Url.Parts
import Geocoding.Service

/-!
# Where requests go

The endpoint is made of the whole text of the base URL. Without a query and a fragment the text ends with the path,
and the endpoint lies below it; otherwise what is cut off and appended at the end of the text is no part of the path.
-/

namespace Geocoding

open Url (Free endsPath endsAuthority partsOf?)

namespace Service

variable {xs ys : List Char} {u : Url} {a : Url.Authority}

theorem withoutSlashes_append (h : ∀ c ∈ xs.getLast?, c ≠ '/') (ys : List Char) :
    withoutSlashes (xs ++ ys) = xs ++ withoutSlashes ys := by
  have hxs : xs.reverse.dropWhile (· == '/') = xs.reverse := by
    cases hr : xs.reverse with
    | nil => rfl
    | cons c cs =>
      have hc : c ≠ '/' := by
        refine h c ?_
        rw [← List.head?_reverse, hr]
        rfl
      exact List.dropWhile_cons_of_neg (by simpa using hc)
  rw [withoutSlashes, withoutSlashes, List.reverse_append, List.dropWhile_append, hxs]
  split
  · next hys => simp [List.isEmpty_iff.mp hys]
  · simp

theorem isPrefix_withoutSlashes (cs : List Char) : withoutSlashes cs <+: cs := by
  have h : cs.reverse.dropWhile (· == '/') <:+ cs.reverse := List.dropWhile_suffix _
  rw [← List.reverse_prefix, List.reverse_reverse] at h
  exact h

/-- No path ends both in its last slashes and in a further segment. -/
theorem ne_withoutSlashes_split (path : List Char) : path ≠ withoutSlashes path ++ "/split".toList := by
  intro h
  have hlast : ∀ c ∈ path.getLast?, c ≠ '/' := by
    intro c hc
    rw [h, List.getLast?_append_of_ne_nil _ (by decide)] at hc
    obtain rfl := Option.some.inj hc
    decide
  have hsame : withoutSlashes path = path := by
    have hw := withoutSlashes_append hlast []
    simpa [withoutSlashes] using hw
  rw [hsame] at h
  have hlength := congrArg List.length h
  rw [List.length_append] at hlength
  have hsplit : "/split".toList.length = 6 := rfl
  omega

/-- The query and the fragment with their marks. -/
def markedRest (u : Url) : List Char := Url.markedText '?' u.query ++ Url.markedText '#' u.fragment

theorem markedRest_cases (u : Url) : (u.query = none ∧ u.fragment = none) ∧ markedRest u = [] ∨
    ¬ (u.query = none ∧ u.fragment = none) ∧ ∃ mark more, endsPath mark = true ∧ markedRest u = mark :: more := by
  unfold markedRest
  cases u.query with
  | none =>
    cases u.fragment with
    | none => exact .inl ⟨⟨rfl, rfl⟩, rfl⟩
    | some cs => exact .inr ⟨by simp, '#', cs, rfl, rfl⟩
  | some cs => exact .inr ⟨by simp, '?', cs ++ Url.markedText '#' u.fragment, rfl, rfl⟩

theorem chars_of_isParted (h : u.IsParted a) :
    u.chars = u.scheme ++ ':' :: '/' :: '/' :: (a.text ++ (u.path.text ++ markedRest u)) := by
  simp [Url.chars, Url.hierarchyText, h.authority, markedRest]

theorem head_markedRest (u : Url) : ∀ c ∈ (markedRest u).head?, endsPath c = true := by
  obtain ⟨-, hrest⟩ | ⟨-, mark, more, hmark, hrest⟩ := markedRest_cases u
  · simp [hrest]
  · rw [hrest]
    rintro c hc
    obtain rfl := Option.some.inj hc
    exact hmark

/-- An authority does not end in a slash, so nothing in front of the path is cut off. -/
theorem toList_endpoint (h : u.IsParted a) : (endpoint u).toList = u.scheme ++ ':' :: '/' :: '/' ::
    (a.text ++ (withoutSlashes (u.path.text ++ markedRest u) ++ "/split".toList)) := by
  have hlast : ∀ c ∈ (u.scheme ++ [':', '/', '/'] ++ a.text).getLast?, c ≠ '/' := by
    intro c hc
    rw [List.getLast?_append_of_ne_nil _ h.authority_ne_nil] at hc
    rintro rfl
    have hfree := h.free_authority '/' (List.mem_of_getLast? hc)
    cases hfree
  have htext : u.text.toList = u.scheme ++ [':', '/', '/'] ++ a.text ++ (u.path.text ++ markedRest u) := by
    rw [Url.text, String.toList_ofList, chars_of_isParted h]
    simp
  rw [endpoint, String.toList_ofList, htext, withoutSlashes_append hlast]
  simp

theorem withoutSlashes_path (hrest : markedRest u = []) (h : u.IsParted a) :
    ∃ cs, withoutSlashes (u.path.text ++ markedRest u) ++ "/split".toList = '/' :: cs := by
  obtain ⟨cs, hcs⟩ := h.path
  rw [hrest, List.append_nil]
  obtain ⟨ws, hws⟩ := isPrefix_withoutSlashes u.path.text
  cases hw : withoutSlashes u.path.text with
  | nil => exact ⟨"split".toList, rfl⟩
  | cons c ws' =>
    rw [hw, hcs] at hws
    obtain ⟨rfl, -⟩ := List.cons.inj hws
    exact ⟨ws' ++ "/split".toList, rfl⟩

theorem free_withoutSlashes {p : Char → Bool} {cs : List Char} (h : Free p cs) : Free p (withoutSlashes cs) :=
  fun c hc => h c ((isPrefix_withoutSlashes cs).subset hc)

/-- Without a query and a fragment, the path of the endpoint is below the base URL's. -/
theorem endpoint_parts_below (h : u.IsParted a) (hscheme : Free (· == ':') u.scheme) (hrest : markedRest u = []) :
    partsOf? (endpoint u).toList =
      some ⟨u.scheme, a.text, withoutSlashes u.path.text ++ "/split".toList, []⟩ := by
  have hsplit : Free endsPath "/split".toList := by decide
  have hfree : Free endsPath (withoutSlashes u.path.text ++ "/split".toList) :=
    (free_withoutSlashes h.free_path).append hsplit
  have hpath := withoutSlashes_path hrest h
  rw [toList_endpoint h]
  rw [hrest, List.append_nil] at hpath ⊢
  have hnone : ∀ c ∈ ([] : List Char).head?, endsPath c = true := by simp
  have hparts := Url.partsOf?_text hscheme h.free_authority hfree hpath hnone
  rwa [List.append_nil] at hparts

/-- Otherwise the path is the base URL's, and what is cut off and appended is behind it. -/
theorem endpoint_parts_behind {mark : Char} {more : List Char} (h : u.IsParted a)
    (hscheme : Free (· == ':') u.scheme) (hmark : endsPath mark = true) (hrest : markedRest u = mark :: more) :
    partsOf? (endpoint u).toList =
      some ⟨u.scheme, a.text, u.path.text, withoutSlashes (markedRest u) ++ "/split".toList⟩ := by
  have hne : mark ≠ '/' := by
    rintro rfl
    cases hmark
  have hcut (xs : List Char) : withoutSlashes (xs ++ mark :: more) = xs ++ mark :: withoutSlashes more := by
    have hlast : ∀ c ∈ (xs ++ [mark]).getLast?, c ≠ '/' := by
      intro c hc
      rw [List.getLast?_append_of_ne_nil _ (List.cons_ne_nil _ _)] at hc
      obtain rfl := Option.some.inj hc
      exact hne
    simpa using withoutSlashes_append hlast more
  have hbehind : withoutSlashes (mark :: more) = mark :: withoutSlashes more := hcut []
  rw [toList_endpoint h, hrest, hcut, hbehind, List.append_assoc]
  exact Url.partsOf?_text hscheme h.free_authority h.free_path h.path fun c hc => Option.some.inj hc ▸ hmark

theorem free_webScheme {scheme : List Char} (h : Settings.IsWebScheme scheme) : Free (· == ':') scheme := by
  obtain rfl | rfl := h
  · decide
  · decide

theorem isParted_of_service {s : Settings} (h : s.service = .ok u) : ∃ a, u.IsParted a := by
  obtain ⟨hu, hscheme⟩ := Settings.service_eq_ok_iff.mp h
  obtain hs | hs := hscheme
  · have hport : Url.SchemeKind.of u.scheme = .withPort 80 := by
      rw [hs]
      decide
    exact Url.isParted_of_ofString hu hport
  · have hport : Url.SchemeKind.of u.scheme = .withPort 443 := by
      rw [hs]
      decide
    exact Url.isParted_of_ofString hu hport

/-- Requests go to the scheme and the authority of the base URL. They go to the path below the base URL's exactly if
the base URL has neither a query nor a fragment; otherwise they go to the base URL itself, with its trailing slashes
cut off and the further segment appended in its query or fragment. -/
theorem endpoint_below_base_iff {s : Settings} {u : Url} (h : s.service = .ok u) (query : String) :
    ∃ scheme authority path rest path' rest',
      partsOf? u.text.toList = some ⟨scheme, authority, path, rest⟩ ∧
      partsOf? (request (endpoint u) query).url.toList = some ⟨scheme, authority, path', rest'⟩ ∧
      (path' = withoutSlashes path ++ "/split".toList ↔ u.query = none ∧ u.fragment = none) ∧
      (path' = withoutSlashes path ++ "/split".toList → rest' = []) ∧
      (path' ≠ withoutSlashes path ++ "/split".toList →
        path' = path ∧ rest' = withoutSlashes rest ++ "/split".toList) := by
  obtain ⟨a, ha⟩ := isParted_of_service h
  have hscheme := free_webScheme (Settings.service_eq_ok_iff.mp h).2
  have hbase : partsOf? u.text.toList = some ⟨u.scheme, a.text, u.path.text, markedRest u⟩ := by
    rw [Url.text, String.toList_ofList, chars_of_isParted ha]
    exact Url.partsOf?_text hscheme ha.free_authority ha.free_path ha.path (head_markedRest u)
  obtain ⟨hnone, hrest⟩ | ⟨hsome, mark, more, hmark, hrest⟩ := markedRest_cases u
  · exact ⟨_, _, _, _, _, _, hbase, endpoint_parts_below ha hscheme hrest, iff_of_true rfl hnone, fun _ => rfl,
      fun hn => absurd rfl hn⟩
  · have hne := ne_withoutSlashes_split u.path.text
    exact ⟨_, _, _, _, _, _, hbase, endpoint_parts_behind ha hscheme hmark hrest, iff_of_false hne hsome,
      fun he => absurd he hne, fun _ => ⟨rfl, rfl⟩⟩

def sampleSettings (serviceUrl : String) : Settings := { Settings.sample with serviceUrl := serviceUrl }

/-- A service at a path of a local host. -/
def sampleBase (path : Url.Path) (query : Option (List Char)) : Url :=
  ⟨"http".toList, some ⟨[], [], some (.ipv6 [0, 0, 0, 0, 0, 0, 0, 1]), some 8083⟩, path, query, none⟩

/-- Two slashes at the end are both cut off. -/
theorem endpoint_below_base_iff_slashes : ∃ u, (sampleSettings "http://[::1]:8083/api//").service = .ok u ∧
    ∃ scheme authority path rest path' rest',
      partsOf? u.text.toList = some ⟨scheme, authority, path, rest⟩ ∧
      partsOf? (request (endpoint u) "Main St").url.toList = some ⟨scheme, authority, path', rest'⟩ ∧
      path' = withoutSlashes path ++ "/split".toList ∧ rest' = [] := by
  have h : (sampleSettings "http://[::1]:8083/api//").service =
      .ok (sampleBase (.segments ["api".toList, [], []]) none) :=
    Settings.service_eq_ok_iff.mpr ⟨by decide +kernel, .inl rfl⟩
  obtain ⟨scheme, authority, path, rest, path', rest', hbase, hendpoint, hbelow, hnothing, -⟩ :=
    endpoint_below_base_iff h "Main St"
  have hpath := hbelow.mpr ⟨rfl, rfl⟩
  exact ⟨_, h, scheme, authority, path, rest, path', rest', hbase, hendpoint, hpath, hnothing hpath⟩

/-- With a query, requests go to the path of the base URL itself. -/
theorem endpoint_with_query : ∃ u, (sampleSettings "http://[::1]:8083/api?key=1").service = .ok u ∧
    partsOf? u.text.toList = some ⟨"http".toList, "[::1]:8083".toList, "/api".toList, "?key=1".toList⟩ ∧
    partsOf? (request (endpoint u) "Main St").url.toList =
      some ⟨"http".toList, "[::1]:8083".toList, "/api".toList, "?key=1/split".toList⟩ ∧
    "/api".toList ≠ withoutSlashes "/api".toList ++ "/split".toList := by
  have h : (sampleSettings "http://[::1]:8083/api?key=1").service =
      .ok (sampleBase (.segments ["api".toList]) (some "key=1".toList)) :=
    Settings.service_eq_ok_iff.mpr ⟨by decide +kernel, .inl rfl⟩
  exact ⟨_, h, by decide +kernel, by decide +kernel, by decide⟩

end Service

end Geocoding
