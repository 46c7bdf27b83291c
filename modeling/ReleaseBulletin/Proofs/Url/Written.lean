import ReleaseBulletin.Proofs.Url.Plain
import ReleaseBulletin.Proofs.Url.Web

/-!
The written form of plain bases. A web address that is written with plain names in its path is read
as a plain base with those names.
-/
namespace ReleaseBulletin.Url
open Text.Affix Percent

/-- What can stand between the slashes after the scheme and the path, as far as its characters are
concerned. -/
structure IsAuthorityText (cs : List Char) : Prop where
  nonempty : cs ≠ []
  visible : ∀ c ∈ cs, 0x20 < c.toNat
  inside : ∀ c ∈ cs, c ∉ ['/', '\\', '?', '#']

/-- A web address that is written with plain names in its path, with or without a slash after
them. -/
structure IsWrittenBase (cs : List Char) (base : List String) : Prop where
  plain : ∀ name ∈ base, IsPlainName name
  form : ∃ authority, IsAuthorityText authority ∧
    ∃ slash, (slash = [] ∨ slash = ['/']) ∧
      cs = "http://".toList ++ authority ++ (base.flatMap fun name => '/' :: name.toList) ++ slash

theorem IsAuthorityText.isOutside {cs : List Char} (h : IsAuthorityText cs) {c : Char}
    (hc : c ∈ cs) : Reader.isOutside c = false := by
  have hvisible := h.visible c hc
  rw [Reader.isOutside, decide_eq_false_iff_not]
  omega

theorem IsAuthorityText.endsAuthority {cs : List Char} (h : IsAuthorityText cs) {c : Char}
    (hc : c ∈ cs) : Reader.endsAuthority true c = false := by
  have hinside := h.inside c hc
  simp only [List.mem_cons, List.not_mem_nil, or_false, not_or] at hinside
  obtain ⟨hslash, hback, hquestion, hnumber⟩ := hinside
  simp [Reader.endsAuthority, Reader.isSlash, hslash, hback, hquestion, hnumber]

namespace Reader

theorem isOutside_of_isSkipped {c : Char} (h : isSkipped c = true) : isOutside c = true := by
  rw [isSkipped, Bool.or_eq_true, Bool.or_eq_true, beq_iff_eq, beq_iff_eq, beq_iff_eq] at h
  rcases h with (rfl | rfl) | rfl
  · rfl
  · rfl
  · rfl

/-- In a text without blanks and controls all characters count. -/
theorem relevant_eq_self {cs : List Char} (h : ∀ c ∈ cs, isOutside c = false) :
    relevant cs = cs := by
  have hdrop : ∀ ds : List Char, (∀ c ∈ ds, isOutside c = false) →
      ds.dropWhile isOutside = ds := by
    intro ds hds
    cases ds with
    | nil => rfl
    | cons d rest => rw [List.dropWhile_cons_of_neg (by simp [hds d List.mem_cons_self])]
  have hkept : ∀ c ∈ cs, (!isSkipped c) = true := by
    intro c hc
    cases hs : isSkipped c with
    | false => rfl
    | true =>
      have houtside := isOutside_of_isSkipped hs
      rw [h c hc] at houtside
      cases houtside
  rw [relevant, hdrop cs h, hdrop _ fun c hc => h c (List.mem_reverse.1 hc), List.reverse_reverse]
  exact List.filter_eq_self.2 hkept

theorem scheme?_http (rest : List Char) :
    scheme? ("http:".toList ++ rest) = some ("http", rest) := by
  rfl

theorem tail_of_plain {cs : List Char} (hnumber : '#' ∉ cs) (hquestion : '?' ∉ cs) :
    tail true cs = ⟨cs, none, none⟩ := by
  rw [tail, takeWhile_of_not_mem hnumber, dropWhile_of_not_mem hnumber,
    takeWhile_of_not_mem hquestion, dropWhile_of_not_mem hquestion]

/-- A path without names of directories keeps its parts. -/
theorem place_eq {parts : List (List Char)}
    (h : ∀ part ∈ parts, isSingleDot part = false ∧ isDoubleDot part = false)
    (done : List String) : place done parts = done.reverse ++ parts.map segmentText := by
  induction parts generalizing done with
  | nil => simp [place]
  | cons part parts ih =>
    obtain ⟨hdot, hdots⟩ := h part List.mem_cons_self
    have hrest := ih (fun p hp => h p (List.mem_cons_of_mem part hp)) (segmentText part :: done)
    cases parts with
    | nil =>
      rw [place, hdot, hdots]
      simp
    | cons next rest =>
      rw [place, hdot, hdots]
      · simpa using hrest
      · exact List.cons_ne_nil next rest

theorem isDot_of_plain {part : List Char} (h : ∀ c ∈ part, isPlainChar c = true) :
    isSingleDot part = false ∧ isDoubleDot part = false := by
  have hlower : ∀ c ∈ part.map Char.toLower, c ≠ '.' ∧ c ≠ '%' := by
    intro c hc
    obtain ⟨d, hd, rfl⟩ := List.mem_map.1 hc
    have hplain := forall_isPlainChar (p := fun c => c.toLower != '.' && c.toLower != '%')
      (by decide) (h d hd)
    simpa using hplain
  have hne : ∀ dots : String, '.' ∈ dots.toList ∨ '%' ∈ dots.toList →
      (part.map Char.toLower == dots.toList) = false := by
    intro dots hdots
    rw [beq_eq_false_iff_ne]
    intro heq
    rw [← heq] at hdots
    rcases hdots with hdot | hpercent
    · exact (hlower _ hdot).1 rfl
    · exact (hlower _ hpercent).2 rfl
  constructor
  · rw [isSingleDot, List.any_eq_false]
    intro dot hdot
    simp only [List.mem_cons, List.not_mem_nil, or_false] at hdot
    rw [hne dot (by rcases hdot with rfl | rfl <;> decide)]
    exact Bool.false_ne_true
  · rw [isDoubleDot, List.any_eq_false]
    intro dots hdots
    simp only [List.mem_cons, List.not_mem_nil, or_false] at hdots
    rw [hne dots (by rcases hdots with rfl | rfl | rfl | rfl <;> decide)]
    exact Bool.false_ne_true

theorem segmentText_of_plain {part : List Char} (h : ∀ c ∈ part, isPlainChar c = true) :
    segmentText part = String.ofList part := by
  rw [segmentText, encode_eq_self fun c hc => isReserved_of_isPlainChar (by decide) (h c hc)]

theorem not_mem_text_segments (sep : Char) (hplain : isPlainChar sep = false) (hslash : sep ≠ '/')
    {names : List String} (h : ∀ name ∈ names, ∀ c ∈ name.toList, isPlainChar c = true) :
    sep ∉ (Path.segments names).text := by
  intro hmem
  obtain ⟨name, hname, hc⟩ := List.mem_flatMap.1 hmem
  rcases List.mem_cons.1 hc with heq | hc
  · exact hslash heq
  · rw [h name hname sep hc] at hplain
    cases hplain

theorem pathAfterHost_text {first : String} {rest : List String}
    (h : ∀ name ∈ first :: rest, ∀ c ∈ name.toList, isPlainChar c = true) :
    pathAfterHost true (Path.segments (first :: rest)).text = first :: rest := by
  have hback : '\\' ∉ (Path.segments (first :: rest)).text :=
    not_mem_text_segments _ rfl (by decide) h
  have hslash : ∀ part ∈ (first :: rest).map String.toList, '/' ∉ part := by
    intro part hpart hmem
    obtain ⟨name, hname, rfl⟩ := List.mem_map.1 hpart
    cases h name hname _ hmem
  have hplain : ∀ part ∈ (first :: rest).map String.toList, ∀ c ∈ part, isPlainChar c = true := by
    intro part hpart
    obtain ⟨name, hname, rfl⟩ := List.mem_map.1 hpart
    exact h name hname
  rw [text_segments] at hback ⊢
  have hmap : (joined ['/'] ((first :: rest).map String.toList)).map
      (fun c => if isSlash true c then '/' else c) =
        joined ['/'] ((first :: rest).map String.toList) := by
    refine (List.map_congr_left fun c hc => ?_).trans (List.map_id' _)
    have hne : c ≠ '\\' := fun e => hback (List.mem_cons_of_mem '/' (e ▸ hc))
    by_cases heq : c = '/'
    · rw [heq]
      rfl
    · simp [isSlash, hne, heq]
  have hroot : isSlash true '/' = true := rfl
  rw [pathAfterHost, if_pos hroot, pathParts, hmap, split_joined hslash (by simp),
    place_eq fun part hpart => isDot_of_plain (hplain part hpart)]
  rw [List.reverse_nil, List.nil_append, List.map_map]
  refine (List.map_congr_left fun name hname => ?_).trans (List.map_id' _)
  rw [Function.comp_apply, segmentText_of_plain (h name hname), String.ofList_toList]

/-- What is read after an authority that plain names follow. -/
theorem withAuthority_text {authority : List Char} (hauthority : IsAuthorityText authority)
    {names : List String} (h : ∀ name ∈ names, ∀ c ∈ name.toList, isPlainChar c = true) {u : Url}
    (hread : withAuthority "http" (authority ++ (Path.segments names).text) = .ok u) :
    u.scheme = "http" ∧ u.path = .segments (if names = [] then [""] else names) ∧
      u.query = none ∧ u.fragment = none := by
  have hinside : ∀ c ∈ authority, (!endsAuthority true c) = true := by
    intro c hc
    rw [hauthority.endsAuthority hc]
    rfl
  have hdrop : (authority ++ (Path.segments names).text).dropWhile (!endsAuthority true ·) =
      (Path.segments names).text := by
    rw [List.dropWhile_append_of_pos hinside]
    cases names with
    | nil => rfl
    | cons first rest =>
      rw [text_segments]
      rfl
  have htail := tail_of_plain (not_mem_text_segments '#' rfl (by decide) h)
    (not_mem_text_segments '?' rfl (by decide) h)
  have hpath : pathAfterHost true (Path.segments names).text =
      if names = [] then [""] else names := by
    cases names with
    | nil => rfl
    | cons first rest => exact pathAfterHost_text h
  have hweb : isWeb "http" = true := rfl
  rw [withAuthority] at hread
  obtain ⟨a, -, hread⟩ := bind_eq_ok hread
  simp only [hweb, hdrop, htail, hpath] at hread
  cases hread
  exact ⟨rfl, rfl, rfl, rfl⟩

/-- A web address is read by what stands after its slashes. -/
theorem read_http {s : String} {authority path : List Char}
    (hauthority : IsAuthorityText authority) (hpath : ∀ c ∈ path, isOutside c = false)
    (hs : s.toList = "http://".toList ++ authority ++ path) :
    read s = withAuthority "http" (authority ++ path) := by
  have hvisible : ∀ c ∈ s.toList, isOutside c = false := by
    have hscheme : "http://".toList.all (!isOutside ·) = true := by decide
    intro c hc
    rw [hs, List.mem_append, List.mem_append] at hc
    rcases hc with (hc | hc) | hc
    · simpa using List.all_eq_true.1 hscheme c hc
    · exact hauthority.isOutside hc
    · exact hpath c hc
  have hsplit : s.toList = "http:".toList ++ ("//".toList ++ (authority ++ path)) := by
    rw [hs, List.append_assoc]
    rfl
  obtain ⟨first, rest, hfirst⟩ := List.exists_cons_of_ne_nil hauthority.nonempty
  have hslash : isSlash true first = false := by
    have hinside := hauthority.endsAuthority (hfirst ▸ List.mem_cons_self)
    rw [endsAuthority, Bool.or_eq_false_iff, Bool.or_eq_false_iff] at hinside
    exact hinside.1.1
  have hdrop : ("//".toList ++ (authority ++ path)).dropWhile (isSlash true) =
      authority ++ path := by
    have hslashes : "//".toList.all (isSlash true) = true := by decide
    rw [List.dropWhile_append_of_pos (List.all_eq_true.1 hslashes), hfirst, List.cons_append,
      List.dropWhile_cons_of_neg (by simp [hslash])]
  have hfile : "http" ≠ "file" := by decide
  have hweb : isWeb "http" = true := rfl
  rw [read, relevant_eq_self hvisible, hsplit, scheme?_http]
  simp only [ofScheme, if_neg hfile, hweb, if_true, hdrop]

end Reader

theorem IsPlainName.isOutside {name : String} (h : IsPlainName name) :
    ∀ c ∈ name.toList, Reader.isOutside c = false := by
  intro c hc
  have hvisible := forall_isPlainChar (p := fun c => !Reader.isOutside c) (by decide) (h.plain c hc)
  simpa using hvisible

/-- A web address that is written with plain names in its path is read as a plain base. -/
theorem isPlainBase_of_read {s : String} {base : List String} (h : IsWrittenBase s.toList base)
    {u : Url} (hread : Reader.read s = .ok u) : IsPlainBase u base := by
  obtain ⟨authority, hauthority, slash, hslash, hform⟩ := h.form
  obtain ⟨last, hlast, htext⟩ : ∃ last : List String, (last = [] ∨ last = [""]) ∧
      slash = (Path.segments last).text := by
    rcases hslash with rfl | rfl
    · exact ⟨[], .inl rfl, rfl⟩
    · exact ⟨[""], .inr rfl, rfl⟩
  have hnames : ∀ name ∈ base ++ last, name = "" ∨ IsPlainName name := by
    intro name hname
    rcases List.mem_append.1 hname with hbase | hend
    · exact .inr (h.plain name hbase)
    · rcases hlast with rfl | rfl
      · cases hend
      · exact .inl (List.mem_singleton.1 hend)
  have hplain : ∀ name ∈ base ++ last, ∀ c ∈ name.toList, isPlainChar c = true := by
    intro name hname c hc
    rcases hnames name hname with rfl | hname
    · cases hc
    · exact hname.plain c hc
  have hvisible : ∀ c ∈ (Path.segments (base ++ last)).text, Reader.isOutside c = false := by
    intro c hc
    obtain ⟨name, hname, hc⟩ := List.mem_flatMap.1 hc
    rcases List.mem_cons.1 hc with rfl | hc
    · rfl
    · rcases hnames name hname with rfl | hname
      · cases hc
      · exact hname.isOutside c hc
  have hs : s.toList = "http://".toList ++ authority ++ (Path.segments (base ++ last)).text := by
    rw [hform, htext, List.append_assoc, Path.text, Path.text, List.flatMap_append]
  rw [Reader.read_http hauthority hvisible hs] at hread
  obtain ⟨hscheme, hpath, hquery, hfragment⟩ := Reader.withAuthority_text hauthority hplain hread
  refine ⟨hscheme, ?_, h.plain, hquery, hfragment⟩
  rcases hlast with rfl | rfl
  · cases base with
    | nil => exact .inr hpath
    | cons first rest =>
      left
      rw [hpath, List.append_nil, if_neg (List.cons_ne_nil first rest)]
  · right
    rw [hpath, if_neg (by simp)]

end ReleaseBulletin.Url
