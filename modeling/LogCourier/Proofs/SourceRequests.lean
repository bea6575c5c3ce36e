import LogCourier.Proofs.Secrecy
import LogCourier.Proofs.Trimming
import LogCourier.Proofs.Utf8Text
import Mathlib.Tactic.Common

/-!
# What a request for a page carries

A form is read back part by part: it is cut at each ampersand, and a part at its first equals sign
(`Http.decodeForm`). Neither of them is in a form field, so every form is read back as its pairs
(`Http.decodeForm_form`).

Where the source is at a well-formed address (`Http.Url.IsBase`), the path of the log can be put
after it, whatever slashes it ends with, and there is a request for every page
(`Http.Url.IsBase.parse?_append_path`). Its query is the form with the credential, the names of the
log and the page, and nothing else (`SourceAdapter.carries_parameters`).
-/

namespace LogCourier

namespace Http

/-! ### Forms -/

/-- The text of a form field. -/
def decodeField (cs : List Char) : Option String :=
  Utf8.decode? (unescape true cs)

/-- The name and the value in a part of a form. -/
def decodePair (cs : List Char) : Option (String × String) := do
  let name ← decodeField (cs.takeWhile (· ≠ '='))
  let value ← decodeField ((cs.dropWhile (· ≠ '=')).drop 1)
  return (name, value)

/-- The pairs of a form. -/
def decodeForm (cs : List Char) : Option (List (String × String)) :=
  (cs.splitOn '&').mapM decodePair

/-- What separates the parts of a form is in none of its fields. -/
theorem separators_notMem_formByte {n : Nat} (hn : n < 256) :
  '&' ∉ formByte (.ofNat n) ∧ '=' ∉ formByte (.ofNat n)
  := by
  revert n
  decide +kernel

theorem separators_notMem_formField (s : String) :
  '&' ∉ formField s ∧ '=' ∉ formField s
  := by
  have hbyte (b : UInt8) : '&' ∉ formByte b ∧ '=' ∉ formByte b := by
    have h := separators_notMem_formByte b.toNat_lt
    rwa [UInt8.ofNat_toNat] at h
  simp only [formField, List.mem_flatMap, not_exists, not_and]
  exact ⟨fun b _ => (hbyte b).1, fun b _ => (hbyte b).2⟩

theorem decodeField_formField (s : String) :
  decodeField (formField s) = some s
  := by
  have h := unescape_formField s []
  rw [List.append_nil, unescape, List.append_nil] at h
  rw [decodeField, h, Utf8.decode?_bytes]

/-- A part of a form is read back as its pair. -/
theorem decodePair_formField (p : String × String) :
  decodePair (formField p.1 ++ '=' :: formField p.2) = some p
  := by
  have hname : ∀ c ∈ formField p.1, decide (c ≠ '=') = true := by
    intro c hc
    apply decide_eq_true
    rintro rfl
    exact (separators_notMem_formField p.1).2 hc
  rw [decodePair, List.takeWhile_append_of_pos hname, List.dropWhile_append_of_pos hname,
    List.takeWhile_cons_of_neg (by decide), List.dropWhile_cons_of_neg (by decide), List.append_nil,
    List.drop_one, List.tail_cons, decodeField_formField, decodeField_formField]
  rfl

/-- A form that is not empty is read back as its pairs. -/
theorem decodeForm_form {pairs : List (String × String)} (h : pairs ≠ []) :
  decodeForm (form pairs) = some pairs
  := by
  let part (p : String × String) : List Char := formField p.1 ++ '=' :: formField p.2
  have hparts : (form pairs).splitOn '&' = pairs.map part := by
    apply List.splitOn_intercalate
    · intro l hl
      obtain ⟨p, -, rfl⟩ := List.mem_map.mp hl
      simp [separators_notMem_formField]
    · simpa using h
  have hread : ∀ pairs : List (String × String), (pairs.map part).mapM decodePair = some pairs := by
    intro pairs
    induction pairs with
    | nil => rfl
    | cons p pairs ih =>
        rw [List.map_cons, List.mapM_cons, decodePair_formField, ih]
        rfl
  rw [decodeForm, hparts, hread]

/-! ### Addresses -/

namespace Url

variable {base s : String} {cs front slashes rest : List Char} {secure : Bool}

/-- A well-formed address of the web without a query or a fragment. There are no spaces and control
characters in such an address. -/
structure IsBase (base : String) : Prop where
  reads : (parse? base).isSome = true
  visible : ∀ c ∈ base.toList, 0x20 < c.toNat
  noQuery : '?' ∉ base.toList
  noFragment : '#' ∉ base.toList

/-- The scheme of the web with the given name. -/
def schemeOf? (front : List Char) : Option Bool :=
  if front.map Char.toLower = "http".toList then some false
  else if front.map Char.toLower = "https".toList then some true
  else none

/-- The host and the port in an authority. -/
def authority? (secure : Bool) (authority : List Char) : Option (String × Option UInt16) := do
  let (hostText, portText) := splitPort (afterLast '@' authority)
  let host ← host? hostText
  let port ← port? secure portText
  return (host, port)

/-- The character ends the authority of an address. -/
def endsAuthority (c : Char) : Bool :=
  isSlash c ∨ c = '?' ∨ c = '#'

theorem clean_eq (h : ∀ c ∈ cs, 0x20 < c.toNat) :
  clean cs = cs
  := by
  have hblank : ∀ c ∈ cs, decide (c.toNat ≤ 0x20) = false := by
    intro c hc
    exact decide_eq_false (Nat.not_le_of_lt (h c hc))
  have hkept : ∀ c ∈ cs, decide (c ≠ '\t' ∧ c ≠ '\n' ∧ c ≠ '\r') = true := by
    intro c hc
    have hlt := h c hc
    apply decide_eq_true
    refine ⟨?_, ?_, ?_⟩ <;> rintro rfl <;> revert hlt <;> decide
  rw [clean, Text.dropWhile_eq_self hblank,
    Text.dropWhile_eq_self fun c hc => hblank c (List.mem_reverse.mp hc), List.reverse_reverse,
    List.filter_eq_self.mpr hkept]

theorem takeScheme?_append (hfront : ':' ∉ front) :
  takeScheme? (front ++ ':' :: rest)
    = (schemeOf? front).map fun secure => (secure, rest.dropWhile isSlash)
  := by
  have hname : ∀ c ∈ front, decide (c ≠ ':') = true := by
    intro c hc
    apply decide_eq_true
    rintro rfl
    exact hfront hc
  have hlength : front.length ≠ (front ++ ':' :: rest).length := by
    rw [List.length_append, List.length_cons]
    omega
  rw [takeScheme?, List.takeWhile_append_of_pos hname, List.dropWhile_append_of_pos hname,
    List.takeWhile_cons_of_neg (by decide), List.dropWhile_cons_of_neg (by decide), List.append_nil,
    List.drop_one, List.tail_cons, List.length_map, if_neg hlength, schemeOf?]
  split
  · rfl
  · split <;> rfl

/-- A scheme is taken off a text that has it in front of a colon, with the slashes after it. -/
theorem takeScheme?_eq_some_iff :
  takeScheme? cs = some (secure, rest) ↔ ∃ front slashes, cs = front ++ ':' :: (slashes ++ rest)
    ∧ ':' ∉ front ∧ schemeOf? front = some secure ∧ (∀ c ∈ slashes, isSlash c = true)
    ∧ ∀ c ∈ rest.head?, isSlash c = false
  := by
  constructor
  · intro h
    by_cases hcolon : ':' ∈ cs
    · obtain ⟨front, after, rfl, hfront⟩ := List.eq_append_cons_of_mem hcolon
      rw [takeScheme?_append hfront] at h
      obtain ⟨secure', hscheme, hpair⟩ := Option.map_eq_some_iff.mp h
      obtain ⟨rfl, rfl⟩ := Prod.mk.inj hpair
      refine ⟨front, after.takeWhile isSlash, ?_, hfront, hscheme, fun _ => List.mem_takeWhile_imp,
        ?_⟩
      · rw [List.takeWhile_append_dropWhile]
      · intro c hc
        have hnot := List.head?_dropWhile_not isSlash after
        rwa [hc] at hnot
    · -- without a colon the name would be the whole text
      have hall : cs.takeWhile (· ≠ ':') = cs := by
        rw [List.takeWhile_eq_self_iff]
        intro c hc
        apply decide_eq_true
        rintro rfl
        exact hcolon hc
      rw [takeScheme?, hall, List.length_map, if_pos rfl] at h
      cases h
  · rintro ⟨front, slashes, rfl, hfront, hscheme, hslashes, hrest⟩
    rw [takeScheme?_append hfront, hscheme, Option.map_some, List.dropWhile_append_of_pos hslashes]
    cases rest with
    | nil => rfl
    | cons c rest =>
        rw [List.dropWhile_cons_of_neg]
        rw [hrest c rfl]
        exact Bool.false_ne_true

/-- How an address without spaces, control characters, a query and a fragment is read. -/
theorem parse?_of_forall (h : ∀ c ∈ s.toList, 0x20 < c.toNat ∧ c ≠ '?' ∧ c ≠ '#') :
  parse? s = (takeScheme? s.toList).bind fun x =>
    (authority? x.1 (x.2.takeWhile (! endsAuthority ·))).map fun a =>
      ⟨x.1, a.1, a.2, normalPath (x.2.dropWhile (! endsAuthority ·)), none⟩
  := by
  rw [parse?, clean_eq fun c hc => (h c hc).1]
  cases hscheme : takeScheme? s.toList with
  | none => rfl
  | some x =>
      obtain ⟨secure, rest⟩ := x
      obtain ⟨front, slashes, hs, -⟩ := takeScheme?_eq_some_iff.mp hscheme
      have hpath : ∀ c ∈ rest.dropWhile (! endsAuthority ·),
          (! decide (c = '?' ∨ c = '#')) = true := by
        intro c hc
        have hmem : c ∈ s.toList := by
          have hrest := (List.dropWhile_sublist _).mem hc
          rw [hs]
          simp [hrest]
        rw [Bool.not_eq_true', decide_eq_false_iff_not]
        exact not_or.mpr (h c hmem).2
      have hsplit : splitBefore (fun c => c = '?' ∨ c = '#') (rest.dropWhile (! endsAuthority ·))
          = (rest.dropWhile (! endsAuthority ·), []) := by
        rw [splitBefore, List.takeWhile_eq_self_iff.mpr hpath, List.dropWhile_eq_nil_iff.mpr hpath]
      have hauthority : splitBefore (fun c => isSlash c ∨ c = '?' ∨ c = '#') rest
          = (rest.takeWhile (! endsAuthority ·), rest.dropWhile (! endsAuthority ·)) := rfl
      simp only [Option.bind_eq_bind, Option.bind_some, hauthority, hsplit, authority?]
      cases host? (splitPort (afterLast '@' (rest.takeWhile (! endsAuthority ·)))).1 with
      | none => rfl
      | some host =>
          simp only [Option.bind_some]
          cases port? secure (splitPort (afterLast '@' (rest.takeWhile (! endsAuthority ·)))).2
          all_goals rfl

/-! #### The path of a target -/

theorem question_notMem_percentEncode {p : Char → Bool} (hp : p '?' = true) (cs : List Char) :
  '?' ∉ percentEncode p cs
  := by
  have hdigit : ∀ n < 16, '?' ≠ hexDigit n := by decide
  have hpercent : ∀ b : UInt8, '?' ∉ percent b := by
    intro b
    have hb := b.toNat_lt
    rw [percent, List.mem_cons, List.mem_cons, List.mem_singleton]
    rintro (h | h | h)
    · cases h
    · exact hdigit _ (by omega) h
    · exact hdigit _ (by omega) h
  rw [percentEncode, List.mem_flatMap]
  rintro ⟨c, -, hc⟩
  split at hc
  · obtain ⟨b, -, hb⟩ := List.mem_flatMap.mp hc
    exact hpercent b hb
  · next hkept =>
    rw [← List.mem_singleton.mp hc] at hkept
    exact hkept (.inr (.inr hp))

/-- What is left of the segments of a path are segments of it, or empty ones. -/
theorem mem_resolveSegments {before segments : List (List Char)} {segment : List Char}
    (h : segment ∈ resolveSegments before segments) :
  segment = [] ∨ segment ∈ before ∨ segment ∈ segments
  := by
  fun_induction resolveSegments before segments with
  | case1 before => exact .inr (.inl (List.mem_reverse.mp h))
  | case2 before s hhere => grind
  | case3 before s hhere hup => grind [List.mem_of_mem_tail]
  | case4 before s hhere hup => grind
  | case5 before s ss hne hhere ih => grind
  | case6 before s ss hne hhere hup ih => grind [List.mem_of_mem_tail]
  | case7 before s ss hne hhere hup ih => grind

/-- A path has no question mark in it. -/
theorem question_notMem_normalPath (cs : List Char) :
  '?' ∉ normalPath cs
  := by
  rw [normalPath.eq_def]
  generalize List.splitOnP isSlash _ = segments
  rw [List.mem_flatMap]
  rintro ⟨segment, hsegment, hmem⟩
  rcases List.mem_cons.mp hmem with hmem | hmem
  · cases hmem
  · rcases mem_resolveSegments hsegment with rfl | hnone | hsegment
    · cases hmem
    · cases hnone
    · obtain ⟨raw, -, rfl⟩ := List.mem_map.mp hsegment
      exact question_notMem_percentEncode (by decide) raw hmem

/-! #### A path after an address -/

theorem takeWhile_append_of_stop {α : Type} {p : α → Bool} {l r : List α}
    (h : r.takeWhile p = []) :
  (l ++ r).takeWhile p = l.takeWhile p
  := by
  rw [List.takeWhile_append, h, List.append_nil]
  split
  · next hlength => exact ((List.takeWhile_prefix p).eq_of_length hlength).symm
  · rfl

/-- Slashes at the end are none of what comes before another character. -/
theorem exists_eq_append_of_stem {stem : List Char} {c : Char} {k : Nat} (hc : c ≠ '/')
    (h : stem ++ List.replicate k '/' = front ++ c :: rest) :
  ∃ rest', stem = front ++ c :: rest' ∧ rest = rest' ++ List.replicate k '/'
  := by
  have hne : c ∉ List.replicate k '/' := fun hmem => hc (List.eq_of_mem_replicate hmem)
  rcases List.append_eq_append_iff.mp h with ⟨m, rfl, hm⟩ | ⟨m, rfl, hm⟩
  · rw [hm] at hne
    exact absurd (List.mem_append_right m List.mem_cons_self) hne
  · cases m with
    | nil =>
        rw [List.nil_append] at hm
        rw [← hm] at hne
        exact absurd List.mem_cons_self hne
    | cons d m =>
        obtain ⟨rfl, rfl⟩ := List.cons.inj hm
        exact ⟨m, rfl, rfl⟩

theorem IsBase.of_mem (h : IsBase base) {c : Char} (hc : c ∈ base.toList) :
  0x20 < c.toNat ∧ c ≠ '?' ∧ c ≠ '#'
  := by
  refine ⟨h.visible c hc, ?_, ?_⟩
  · rintro rfl
    exact h.noQuery hc
  · rintro rfl
    exact h.noFragment hc

/-- A path put after a well-formed address that is cut of the slashes at its end makes up an address
without a query. -/
theorem IsBase.parse?_append_path (h : IsBase base) (path : String)
    (hslash : path.toList.head? = some '/')
    (hpath : ∀ c ∈ path.toList, 0x20 < c.toNat ∧ c ≠ '?' ∧ c ≠ '#') :
  ∃ u, parse? (Text.dropTrailing '/' base ++ path) = some u ∧ u.query = none ∧ '?' ∉ u.path
  := by
  obtain ⟨⟨k, hbase⟩, -⟩ := Text.isStem_iff.mpr (Eq.refl (Text.dropTrailing '/' base))
  have hreads := h.reads
  rw [parse?_of_forall fun c => h.of_mem] at hreads
  obtain ⟨u, hu⟩ := Option.isSome_iff_exists.mp hreads
  obtain ⟨⟨secure, rest⟩, hscheme, hu⟩ := Option.bind_eq_some_iff.mp hu
  obtain ⟨a, ha, -⟩ := Option.map_eq_some_iff.mp hu
  obtain ⟨front, slashes, hs, hfront, hof, hslashes, hrest⟩ := takeScheme?_eq_some_iff.mp hscheme
  cases rest with
  | nil => cases ha
  | cons c rest =>
      -- the authority begins with something else than a slash, so no slash is cut off before it
      have hc : c ≠ '/' := by
        rintro rfl
        cases hrest '/' rfl
      have hsplit : (Text.dropTrailing '/' base).toList ++ List.replicate k '/'
          = (front ++ ':' :: slashes) ++ c :: rest := by
        rw [← hbase, hs, List.append_assoc, List.cons_append]
      obtain ⟨rest', hstem, rfl⟩ := exists_eq_append_of_stem hc hsplit
      have hread : takeScheme? (Text.dropTrailing '/' base ++ path).toList
          = some (secure, c :: rest' ++ path.toList) := by
        rw [String.toList_append, hstem]
        apply takeScheme?_eq_some_iff.mpr
        exact ⟨front, slashes, by simp, hfront, hof, hslashes, hrest⟩
      have hauthority : (c :: rest' ++ path.toList).takeWhile (! endsAuthority ·)
          = (c :: rest' ++ List.replicate k '/').takeWhile (! endsAuthority ·) := by
        rw [takeWhile_append_of_stop, takeWhile_append_of_stop]
        · cases k <;> rfl
        · obtain ⟨tail, htail⟩ := List.head?_eq_some_iff.mp hslash
          rw [htail]
          rfl
      rw [parse?_of_forall, hread, Option.bind_some]
      · dsimp only
        rw [hauthority]
        dsimp only [List.cons_append] at ha ⊢
        rw [ha]
        exact ⟨_, rfl, rfl, question_notMem_normalPath _⟩
      · rw [String.toList_append, List.forall_mem_append]
        refine ⟨fun d hd => h.of_mem ?_, hpath⟩
        rw [hbase]
        exact List.mem_append_left _ hd

end Url

end Http

namespace SourceAdapter

open DeviceWork (Asks)

/-- **What a request for a page carries.** The source is at a well-formed address, with any number
of slashes at its end. Then a fetch of a page is one request, and there is always one. What comes
after the question mark in its target, cut at the ampersands and read back as a form, are the
credential, the names of the log, and the number and the size of the page, in this order, whatever
characters they have. -/
theorem carries_parameters (s : SourceSettings) (r : PageRequest) (h : Http.Url.IsBase s.url) :
  ∃ q path query,
    (∀ xs, (∃ o, Asks (fetch s r) xs o) ↔ ∃ x, xs = [⟨.http q, x⟩])
    ∧ q.method = "GET"
    ∧ q.url.target = path ++ "?" ++ query ∧ '?' ∉ path.toList
    ∧ Http.decodeForm query.toList = some [
        ("token", s.token),
        ("name", s.appName),
        ("classPath", s.classPath),
        ("pageNumber", Decimal.text r.page.toNat),
        ("entriesPerPage", Decimal.text r.size.toNat)]
  := by
  obtain ⟨url, hurl, hquery, hpath⟩ :=
    h.parse?_append_path "/api/logs/query" rfl (by simp)
  refine ⟨requestTo s r url, String.ofList url.path, String.ofList (Http.form (parameters s r)),
    ?_, rfl, ?_, ?_, ?_⟩
  · intro xs
    simp only [asks_fetch_iff hurl]
    constructor
    · rintro ⟨o, x, rfl, rfl⟩
      exact ⟨x, rfl⟩
    · rintro ⟨x, rfl⟩
      exact ⟨_, x, rfl, rfl⟩
  · apply String.toList_inj.mp
    simp [requestTo, Http.Url.target, Http.Url.addQuery, hquery]
  · rwa [String.toList_ofList]
  · rw [String.toList_ofList]
    exact Http.decodeForm_form (List.cons_ne_nil _ _)

/-- A credential and names with the characters that separate, escape or cannot stand in a form. -/
def markedSource : SourceSettings where
  url := "HTTPS://[::1]:8443/dns//"
  token := "&token=+%26#é 😀"
  appName := ""
  classPath := "a=b&c\x00\n"

theorem carries_parameters_of_marks :
  Http.Url.IsBase markedSource.url ∧ ∃ q path query,
    (∃ o, Asks (fetch markedSource ⟨7, 4294967295⟩) [⟨.http q, .none .noUrl⟩] o)
    ∧ q.url.target = path ++ "?" ++ query ∧ '?' ∉ path.toList
    ∧ Http.decodeForm query.toList = some [
        ("token", "&token=+%26#é 😀"),
        ("name", ""),
        ("classPath", "a=b&c\x00\n"),
        ("pageNumber", "7"),
        ("entriesPerPage", "4294967295")]
  := by
  have hbase : Http.Url.IsBase markedSource.url :=
    ⟨by decide +kernel, by simp [markedSource], by decide, by decide⟩
  obtain ⟨q, path, query, hasks, -, htarget, hpath, hform⟩ :=
    carries_parameters markedSource ⟨7, 4294967295⟩ hbase
  exact ⟨hbase, q, path, query, (hasks _).mpr ⟨_, rfl⟩, htarget, hpath, hform⟩

end SourceAdapter

end LogCourier
