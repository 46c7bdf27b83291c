import ReleaseBulletin.Proofs.Url.Place

/-!
Plain bases: web addresses whose path is made of names that need no encoding. Below a plain base,
appended names follow those of the base.
-/
namespace ReleaseBulletin.Url
open Text.Affix Percent

structure IsPlainName (name : String) : Prop where
  nonempty : name ≠ ""
  plain : ∀ c ∈ name.toList, isPlainChar c = true

/-- A web address with plain names in its path, with or without a slash after them, and with
nothing after the path. -/
structure IsPlainBase (u : Url) (base : List String) : Prop where
  scheme : u.scheme = "http"
  path : u.path = .segments base ∨ u.path = .segments (base ++ [""])
  plain : ∀ name ∈ base, IsPlainName name
  query : u.query = none
  fragment : u.fragment = none

/-- A name that can be appended to a path: it is not that of the directory itself, nor that of the
one above. -/
structure IsName (name : String) : Prop extends IsUnbroken name where
  ne_dot : name ≠ "."
  ne_dots : name ≠ ".."

theorem IsPlainName.ofAll {name : String} (hne : name ≠ "")
    (h : name.toList.all isPlainChar = true) : IsPlainName name :=
  ⟨hne, List.all_eq_true.1 h⟩

theorem IsPlainName.isUnbroken {name : String} (h : IsPlainName name) : IsUnbroken name := by
  refine ⟨fun hc => ?_, fun hc => ?_, fun hc => ?_⟩
  · cases h.plain _ hc
  · cases h.plain _ hc
  · cases h.plain _ hc

theorem IsPlainName.isName {name : String} (h : IsPlainName name) : IsName name := by
  refine ⟨h.isUnbroken, ?_, ?_⟩
  · rintro rfl
    cases h.plain '.' List.mem_cons_self
  · rintro rfl
    cases h.plain '.' List.mem_cons_self

theorem IsPlainName.encodedName {name : String} (h : IsPlainName name) :
    encodedName name = name := by
  apply String.toList_injective
  rw [toList_encodedName h.isUnbroken]
  exact encode_eq_self fun c hc => isReserved_of_isPlainChar (by decide) (h.plain c hc)

theorem encodedName_ne {name other : String} (h : IsUnbroken name) (hne : name ≠ other)
    (hother : Place.name? other.toList = some other) : encodedName name ≠ other := by
  intro heq
  have hread := name?_encodedName h
  rw [heq, hother] at hread
  exact hne (Option.some.inj hread).symm

namespace Endpoint

theorem append_eq {name : String} (h : IsName name) (parts : List String) :
    append true parts name = (if parts = [""] then [] else parts) ++ [encodedName name] := by
  have hdot : encodedName name ≠ "." := encodedName_ne h.toIsUnbroken h.ne_dot (by decide)
  have hdots : encodedName name ≠ ".." := encodedName_ne h.toIsUnbroken h.ne_dots (by decide)
  rw [append, if_neg (not_or.2 ⟨h.ne_dot, h.ne_dots⟩)]
  exact (if_neg hdots).trans (if_neg hdot)

/-- Names are appended to a path that has a name already. -/
theorem foldl_append {names parts : List String} (hnames : ∀ name ∈ names, IsName name)
    (hparts : ∃ part ∈ parts, part ≠ "") :
    names.foldl (append true) parts = parts ++ names.map encodedName := by
  induction names generalizing parts with
  | nil => exact (List.append_nil parts).symm
  | cons name names ih =>
    obtain ⟨part, hpart, hne⟩ := hparts
    -- Only the root, a path of one empty name, gives way to the name that is appended to it.
    have hroot : parts ≠ [""] := by
      rintro rfl
      exact hne (List.mem_singleton.1 hpart)
    rw [List.foldl_cons, append_eq (hnames name List.mem_cons_self), if_neg hroot,
      ih (fun n hn => hnames n (List.mem_cons_of_mem name hn))
        ⟨part, List.mem_append_left _ hpart, hne⟩, List.append_assoc]
    rfl

theorem withoutTrailingSlash_of_nonempty {parts : List String} (h : parts.getLast? ≠ some "") :
    withoutTrailingSlash parts = parts :=
  if_neg fun hcut => h hcut.2

theorem withoutTrailingSlash_concat {parts : List String} (h : parts ≠ []) :
    withoutTrailingSlash (parts ++ [""]) = parts := by
  have hpos : 0 < parts.length := List.length_pos_iff.2 h
  have hlength : 1 < (parts ++ [""]).length := by
    rw [List.length_append, List.length_singleton]
    omega
  rw [withoutTrailingSlash, if_pos ⟨hlength, List.getLast?_concat⟩, List.dropLast_concat]

end Endpoint

namespace IsPlainBase

variable {u : Url} {base : List String} (h : IsPlainBase u base)
include h

theorem getLast?_ne : base.getLast? ≠ some "" := fun hlast =>
  (h.plain "" (List.mem_of_getLast? hlast)).nonempty rfl

theorem map_encodedName : base.map encodedName = base := by
  refine (List.map_congr_left fun name hname => ?_).trans (List.map_id' base)
  exact (h.plain name hname).encodedName

/-- The first name that is appended follows those of the base. -/
theorem append_first {parts : List String} (hpath : u.path = .segments parts) {first : String}
    (hfirst : IsName first) :
    Endpoint.append true (Endpoint.withoutTrailingSlash parts) first =
      base ++ [encodedName first] := by
  have hroot : base ≠ [""] := by
    rintro rfl
    exact h.getLast?_ne rfl
  rw [Endpoint.append_eq hfirst]
  rcases h.path with hplain | hslash
  · obtain rfl : parts = base := Path.segments.inj (hpath.symm.trans hplain)
    rw [Endpoint.withoutTrailingSlash_of_nonempty h.getLast?_ne, if_neg hroot]
  · obtain rfl : parts = base ++ [""] := Path.segments.inj (hpath.symm.trans hslash)
    -- With no name in the base, the slash at its end is the root itself.
    cases base with
    | nil => rfl
    | cons name names =>
      rw [Endpoint.withoutTrailingSlash_concat (List.cons_ne_nil name names), if_neg hroot]

/-- Names that are appended to a plain base follow those of the base. -/
theorem below?_eq {first : String} {rest : List String}
    (hnames : ∀ name ∈ first :: rest, IsName name) (hfirst : first ≠ "") :
    Endpoint.below? u (first :: rest) =
      some { u with path := .segments ((base ++ first :: rest).map encodedName) } := by
  have hstart : IsName first := hnames first List.mem_cons_self
  have hne : encodedName first ≠ "" := encodedName_ne hstart.toIsUnbroken hfirst (by decide)
  have hall : ∀ parts, u.path = .segments parts →
      (first :: rest).foldl (Endpoint.append true) (Endpoint.withoutTrailingSlash parts) =
        (base ++ first :: rest).map encodedName := by
    intro parts hpath
    rw [List.foldl_cons, h.append_first hpath hstart,
      Endpoint.foldl_append (fun name hname => hnames name (List.mem_cons_of_mem first hname))
        ⟨encodedName first, by simp, hne⟩, List.map_append, h.map_encodedName, List.append_assoc]
    rfl
  have hweb : isWeb u.scheme = true := by
    rw [h.scheme]
    rfl
  rw [Endpoint.below?, hweb]
  rcases h.path with hpath | hpath
  · simp only [hpath, hall _ hpath]
  · simp only [hpath, hall _ hpath]

end IsPlainBase

end ReleaseBulletin.Url
