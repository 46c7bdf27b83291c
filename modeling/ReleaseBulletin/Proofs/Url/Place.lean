import ReleaseBulletin.Proofs.Text.Parts
import ReleaseBulletin.Proofs.Url.Encoding
import ReleaseBulletin.Url.Endpoint

/-!
What a server reads from the place that it is asked for: the names in the path and the pairs in the
query. A path of encoded names with a query of encoded pairs is read as those names and pairs.
-/
namespace ReleaseBulletin.Url
open Bytes Text.Affix Percent

/-- The names in a path and the pairs in a query. -/
structure Place where
  names : List String
  pairs : List (String × String)
  deriving DecidableEq, Repr

namespace Place

/-- The name that a part of a path stands for. -/
def name? (part : List Char) : Option String := (Utf8.decodeString (decode part)).toOption

/-- The text that one side of a pair stands for. -/
def formText? (side : List Char) : Option String := (Utf8.decodeString (formDecode side)).toOption

/-- A pair is cut at its first equals sign. -/
def pair? (part : List Char) : Option (String × String) := do
  let key ← formText? (part.takeWhile (· != '='))
  let value ← formText? (← afterFirst? '=' part)
  return (key, value)

/-- Reads a place with a query. There is no fragment in it. -/
def read? (cs : List Char) : Option Place :=
  if '#' ∈ cs then none
  else
    match cs.takeWhile (· != '?') with
    | '/' :: path => do
      let names ← (split '/' path).mapM name?
      let pairs ← (split '&' (← afterFirst? '?' cs)).mapM pair?
      return ⟨names, pairs⟩
    | _ => none

end Place

/-- A text without the characters that are skipped inside a URL. -/
structure IsUnbroken (s : String) : Prop where
  tab : '\t' ∉ s.toList
  lineFeed : '\n' ∉ s.toList
  carriageReturn : '\r' ∉ s.toList

theorem IsUnbroken.filter {s : String} (h : IsUnbroken s) :
    s.toList.filter (!Reader.isSkipped ·) = s.toList := by
  refine List.filter_eq_self.2 fun c hc => ?_
  have htab : c ≠ '\t' := fun e => h.tab (e ▸ hc)
  have hlf : c ≠ '\n' := fun e => h.lineFeed (e ▸ hc)
  have hcr : c ≠ '\r' := fun e => h.carriageReturn (e ▸ hc)
  simp [Reader.isSkipped, htab, hlf, hcr]

theorem IsUnbroken.of_mem {s t : String} (h : IsUnbroken s)
    (hsub : ∀ c ∈ t.toList, c ∈ s.toList) : IsUnbroken t :=
  ⟨fun hc => h.tab (hsub _ hc), fun hc => h.lineFeed (hsub _ hc),
    fun hc => h.carriageReturn (hsub _ hc)⟩

theorem IsUnbroken.append {s t : String} (hs : IsUnbroken s) (ht : IsUnbroken t) :
    IsUnbroken (s ++ t) := by
  have hmem : ∀ c, c ∉ s.toList → c ∉ t.toList → c ∉ (s ++ t).toList := by
    intro c hcs hct hc
    rw [String.toList_append] at hc
    rcases List.mem_append.1 hc with hfront | hback
    · exact hcs hfront
    · exact hct hback
  exact ⟨hmem _ hs.tab ht.tab, hmem _ hs.lineFeed ht.lineFeed,
    hmem _ hs.carriageReturn ht.carriageReturn⟩

theorem mapM_map_of_inverse {α β : Type} {f : β → Option α} {g : α → β} {xs : List α}
    (h : ∀ x ∈ xs, f (g x) = some x) : (xs.map g).mapM f = some xs := by
  induction xs with
  | nil => rfl
  | cons x xs ih =>
    have htail := ih fun y hy => h y (List.mem_cons_of_mem x hy)
    rw [List.map_cons, List.mapM_cons, h x List.mem_cons_self, htail]
    rfl

/-- The written form of a pair. -/
def pairText (pair : String × String) : List Char :=
  formEncode pair.1.toList ++ '=' :: formEncode pair.2.toList

theorem formPairs_eq_joined (pairs : List (String × String)) :
    formPairs pairs = joined ['&'] (pairs.map pairText) := by
  induction pairs with
  | nil => rfl
  | cons pair pairs ih =>
    cases pairs with
    | nil => rfl
    | cons next rest =>
      rw [formPairs, ih]
      · exact (joined_cons_cons '&' (pairText pair) (pairText next) (rest.map pairText)).symm
      · exact List.cons_ne_nil next rest

theorem not_mem_pairText {sep : Char} (hescaped : isFormSafe sep = false) (hplus : sep ≠ '+')
    (hequals : sep ≠ '=') (halphabet : sep ∉ escapeAlphabet) (pair : String × String) :
    sep ∉ pairText pair := by
  rw [pairText, List.mem_append, List.mem_cons]
  rintro (hkey | hsep | hvalue)
  · exact not_mem_formEncode hescaped hplus halphabet _ hkey
  · exact hequals hsep
  · exact not_mem_formEncode hescaped hplus halphabet _ hvalue

theorem formText?_formEncode (s : String) : Place.formText? (formEncode s.toList) = some s := by
  rw [Place.formText?, formDecode_formEncode]
  exact congrArg Except.toOption (Utf8.decodeString_encodeString s)

theorem pair?_pairText (pair : String × String) : Place.pair? (pairText pair) = some pair := by
  have hkey : '=' ∉ formEncode pair.1.toList := not_mem_formEncode rfl (by decide) (by decide) _
  rw [Place.pair?, pairText, takeWhile_append_sep hkey, afterFirst?_append hkey,
    formText?_formEncode]
  simp only [Option.bind_eq_bind, Option.bind_some, formText?_formEncode]
  rfl

/-- The pairs of a query are read back. -/
theorem mapM_pair?_formPairs {pairs : List (String × String)} (h : pairs ≠ []) :
    (split '&' (formPairs pairs)).mapM Place.pair? = some pairs := by
  have hparts : ∀ part ∈ pairs.map pairText, '&' ∉ part := by
    intro part hpart
    obtain ⟨pair, -, rfl⟩ := List.mem_map.1 hpart
    exact not_mem_pairText rfl (by decide) (by decide) (by decide) pair
  rw [formPairs_eq_joined, split_joined hparts (by simpa using h)]
  exact mapM_map_of_inverse fun pair _ => pair?_pairText pair

theorem text_segments (part : String) (parts : List String) :
    (Path.segments (part :: parts)).text =
      '/' :: joined ['/'] ((part :: parts).map String.toList) := by
  induction parts generalizing part with
  | nil => simp [Path.text, joined]
  | cons next rest ih =>
    have htail := ih next
    rw [Path.text] at htail ⊢
    rw [List.flatMap_cons, htail]
    exact congrArg ('/' :: ·) (joined_cons_cons '/' part.toList next.toList _).symm

/-- The encoded form of a name in the path of a web address. -/
def encodedName (name : String) : String := Endpoint.appendedText true name.toList

theorem toList_encodedName {name : String} (h : IsUnbroken name) :
    (encodedName name).toList = encode webSegmentSet name.toList := by
  rw [encodedName, Endpoint.appendedText, h.filter, String.toList_ofList]
  rfl

theorem name?_encodedName {name : String} (h : IsUnbroken name) :
    Place.name? (encodedName name).toList = some name := by
  rw [Place.name?, toList_encodedName h, decode_encode rfl]
  exact congrArg Except.toOption (Utf8.decodeString_encodeString name)

theorem not_mem_encodedName {sep : Char} (hreserved : isReserved webSegmentSet sep = true)
    (halphabet : sep ∉ escapeAlphabet) {name : String} (h : IsUnbroken name) :
    sep ∉ (encodedName name).toList := by
  rw [toList_encodedName h]
  exact not_mem_encode hreserved halphabet _

theorem not_mem_joined_encodedName {sep : Char} (hreserved : isReserved webSegmentSet sep = true)
    (halphabet : sep ∉ escapeAlphabet) (hslash : sep ≠ '/') {names : List String}
    (h : ∀ name ∈ names, IsUnbroken name) :
    sep ∉ joined ['/'] ((names.map encodedName).map String.toList) := by
  intro hmem
  rcases mem_joined hmem with heq | ⟨part, hpart, hc⟩
  · exact hslash heq
  · rw [List.map_map] at hpart
    obtain ⟨name, hname, rfl⟩ := List.mem_map.1 hpart
    exact not_mem_encodedName hreserved halphabet (h name hname) hc

theorem not_mem_formPairs {sep : Char} (hescaped : isFormSafe sep = false) (hplus : sep ≠ '+')
    (hequals : sep ≠ '=') (hand : sep ≠ '&') (halphabet : sep ∉ escapeAlphabet)
    (pairs : List (String × String)) : sep ∉ formPairs pairs := by
  rw [formPairs_eq_joined]
  intro hmem
  rcases mem_joined hmem with heq | ⟨part, hpart, hc⟩
  · exact hand heq
  · obtain ⟨pair, -, rfl⟩ := List.mem_map.1 hpart
    exact not_mem_pairText hescaped hplus hequals halphabet pair hc

/-- A path of encoded names with a query of pairs is read as the names and the pairs. -/
theorem Place.read?_text {names : List String} (hnames : ∀ name ∈ names, IsUnbroken name)
    (hne : names ≠ []) {pairs : List (String × String)} (hpairs : pairs ≠ []) :
    read? ((Path.segments (names.map encodedName)).text ++ '?' :: formPairs pairs) =
      some ⟨names, pairs⟩ := by
  obtain ⟨first, rest, rfl⟩ := List.exists_cons_of_ne_nil hne
  have htext := text_segments (encodedName first) (rest.map encodedName)
  rw [← List.map_cons] at htext
  have hquestion : '?' ∉ (Path.segments ((first :: rest).map encodedName)).text := by
    rw [htext, List.mem_cons, not_or]
    exact ⟨by decide, not_mem_joined_encodedName rfl (by decide) (by decide) hnames⟩
  have hnumber : '#' ∉ (Path.segments ((first :: rest).map encodedName)).text ++
      '?' :: formPairs pairs := by
    rw [htext, List.cons_append, List.mem_cons, List.mem_append, List.mem_cons]
    rintro (h | h | h | h)
    · cases h
    · exact not_mem_joined_encodedName rfl (by decide) (by decide) hnames h
    · cases h
    · exact not_mem_formPairs rfl (by decide) (by decide) (by decide) (by decide) pairs h
  have hslash : ∀ part ∈ ((first :: rest).map encodedName).map String.toList, '/' ∉ part := by
    intro part hpart
    rw [List.map_map] at hpart
    obtain ⟨name, hname, rfl⟩ := List.mem_map.1 hpart
    exact not_mem_encodedName rfl (by decide) (hnames name hname)
  have hread : (((first :: rest).map encodedName).map String.toList).mapM name? =
      some (first :: rest) := by
    rw [List.map_map]
    exact mapM_map_of_inverse fun name hname => name?_encodedName (hnames name hname)
  rw [read?, if_neg hnumber, takeWhile_append_sep hquestion, afterFirst?_append hquestion, htext]
  simp only [split_joined hslash (by simp), hread, mapM_pair?_formPairs hpairs,
    Option.bind_eq_bind, Option.bind_some]
  rfl

end ReleaseBulletin.Url
