import ReleaseBulletin.Proofs.Template.Spelling

/-!
Templates written as tags with texts between them. What such a template is cut into follows from
the tags one by one.
-/
namespace ReleaseBulletin.Template
open Text.Affix Text.Blank

namespace Piece

/-- The characters of a literal, which unification finds without decoding it. -/
def literal (s : String) {cs : List Char} (_ : s = String.ofList cs) : List Char := cs

theorem eq_toList {s : String} {cs ds : List Char} (h : s = String.ofList cs) (h' : ds = cs) :
    ds = s.toList := by
  rw [h, String.toList_ofList, h']

theorem literal_eq (s : String) {cs : List Char} (h : s = String.ofList cs) :
    literal s h = s.toList :=
  eq_toList h rfl

def Kind.opening : Kind → Char
  | .print => '{'
  | .statement => '%'
  | .comment => '#'

theorem ofChar?_opening (kind : Kind) : Kind.ofChar? kind.opening = some kind := by
  cases kind <;> rfl

/-- A tag whose source spells words, between blanks. -/
structure Tag where
  kind : Kind
  source : String
  words : Nat → List Word
  spells : Spells source.toList words
  not_comment : kind ≠ .comment
  not_raw : kind = .statement →
    ∀ rest, soleWord? "raw".toList (' ' :: (source.toList ++ rest)) = none

namespace Tag

section Sources

variable (source : String) (d : Dotted)

/-- A tag that prints an expression. -/
def printing {words : Nat → List Word} (h : Spells source.toList words) : Tag where
  kind := .print
  source := source
  words := words
  spells := h
  not_comment := nofun
  not_raw := nofun

/-- A tag that prints a dotted variable. -/
def hole (h : d.text = source.toList) : Tag :=
  printing source (show Spells source.toList d.words from h ▸ d.spells)

theorem spells_filtered {filter : String} (h : Token.isName filter = true) :
    Spells (d.text ++ ' ' :: '|' :: ' ' :: filter.toList) fun line =>
      d.words line ++ [⟨.mark .bar, line⟩, ⟨.name filter, line⟩] := by
  have hbar : Spells ('|' :: ' ' :: filter.toList) fun line =>
      [⟨.mark .bar, line⟩, ⟨.name filter, line⟩] :=
    Spells.bar.append (by rintro rest - c ⟨⟩; rfl) (Spells.name h).blank
  exact d.spells.append (by rintro rest - c ⟨⟩; rfl) hbar.blank

/-- A tag that prints a dotted variable through a filter. -/
def filterHole (filter : String) (hfilter : Token.isName filter = true)
    (h : d.text ++ ' ' :: '|' :: ' ' :: filter.toList = source.toList) : Tag :=
  printing source (h ▸ spells_filtered d hfilter)

def branch (h : "if".toList ++ ' ' :: d.text = source.toList) : Tag where
  kind := .statement
  source := source
  words line := ⟨.name "if", line⟩ :: d.words line
  spells := h ▸ .word rfl d.spells
  not_comment := nofun
  not_raw _ _ := by
    rw [← h]
    rfl

def loop (x : String) (hx : Token.isName x = true)
    (h : "for".toList ++ ' ' :: (x.toList ++ ' ' :: ("in".toList ++ ' ' :: d.text)) =
      source.toList) : Tag where
  kind := .statement
  source := source
  words line := ⟨.name "for", line⟩ :: ⟨.name x, line⟩ :: ⟨.name "in", line⟩ :: d.words line
  spells := h ▸ .word rfl (.word hx (.word rfl d.spells))
  not_comment := nofun
  not_raw _ _ := by
    rw [← h]
    rfl

def assign (x : String) (hx : Token.isName x = true)
    (h : "set".toList ++ ' ' :: (x.toList ++ ' ' :: '=' :: ' ' :: d.text) = source.toList) :
    Tag where
  kind := .statement
  source := source
  words line := ⟨.name "set", line⟩ :: ⟨.name x, line⟩ :: ⟨.mark .assign, line⟩ :: d.words line
  spells := h ▸ .word rfl (.word hx d.spells.assign)
  not_comment := nofun
  not_raw _ _ := by
    rw [← h]
    rfl

end Sources

def endBranch : Tag where
  kind := .statement
  source := "endif"
  words line := [⟨.name "endif", line⟩]
  spells := .name rfl
  not_comment := nofun
  not_raw _ _ := rfl

def endLoop : Tag where
  kind := .statement
  source := "endfor"
  words line := [⟨.name "endfor", line⟩]
  spells := .name rfl
  not_comment := nofun
  not_raw _ _ := rfl

def text (t : Tag) : List Char :=
  '{' :: t.kind.opening :: ' ' :: (t.source.toList ++ ' ' :: t.kind.closing)

def piece (t : Tag) (line : Nat) : Piece :=
  match t.kind with
  | .print => .print line (t.words line)
  | _ => .statement line (t.words line)

theorem words_source (t : Tag) (line : Nat) (rest : List Char) {fuel : Nat}
    (hfuel : t.source.toList.length < fuel) :
    Piece.words t.kind fuel 0 line (' ' :: (t.source.toList ++ ' ' :: (t.kind.closing ++ rest))) =
      some (t.words line, .usual, line, rest) := by
  have hlength := t.spells.length_le line
  obtain ⟨spare, rfl⟩ := Nat.exists_eq_add_of_le' (show (t.words line).length + 1 ≤ fuel by omega)
  have hends : EndsName (' ' :: (t.kind.closing ++ rest)) := by
    rintro c ⟨⟩
    rfl
  have hclosing : Piece.words t.kind (spare + 1) 0 line (t.kind.closing ++ rest) =
      some ([], .usual, line, rest) := words_closing
  rw [words_blank, ← Nat.add_assoc, Nat.add_right_comm, t.spells.read _ _ _ _ hends, words_blank,
    hclosing, Option.map_some]
  dsimp only
  rw [List.append_nil]

theorem tag?_source (t : Tag) (line : Nat) (rest : List Char) :
    tag? t.kind line (' ' :: (t.source.toList ++ ' ' :: (t.kind.closing ++ rest))) =
      some ([t.piece line], .usual, line, rest) := by
  have hwords := t.words_source line rest
    (show t.source.toList.length < (' ' :: (t.source.toList ++ ' ' :: (t.kind.closing ++ rest))).length + 1 by
      simp only [List.length_cons, List.length_append]
      omega)
  unfold tag? piece
  cases hkind : t.kind with
  | comment => exact absurd hkind t.not_comment
  | print =>
    rw [hkind] at hwords
    dsimp only
    rw [hwords, Option.map_some]
  | statement =>
    rw [hkind] at hwords
    dsimp only
    rw [t.not_raw hkind, hwords]
    dsimp only
    rw [Option.map_some]

end Tag

theorem splitTag_plain {cs : List Char} (h : '{' ∉ cs) : splitTag cs = (cs, none) := by
  induction cs with
  | nil => rfl
  | cons c cs ih =>
    rw [List.mem_cons, not_or] at h
    rw [splitTag.eq_def]
    split
    · cases ‹_›
    · next he => exact absurd (List.cons.inj he).1.symm h.1
    · next he =>
      obtain ⟨rfl, rfl⟩ := List.cons.inj he
      rw [ih h.2]

theorem splitTag_tag {lead : List Char} (h : '{' ∉ lead) (kind : Kind) (rest : List Char) :
    splitTag (lead ++ '{' :: kind.opening :: rest) = (lead, some (kind, rest)) := by
  induction lead with
  | nil =>
    rw [List.nil_append, splitTag, ofChar?_opening]
  | cons c cs ih =>
    rw [List.mem_cons, not_or] at h
    rw [List.cons_append, splitTag.eq_def]
    split
    · cases ‹_›
    · next he => exact absurd (List.cons.inj he).1.symm h.1
    · next he =>
      obtain ⟨rfl, rfl⟩ := List.cons.inj he
      rw [ih h.2]

/-- Tags, each with the text after it. -/
def tagsText (ts : List (Tag × List Char)) : List Char := ts.flatMap fun t => t.1.text ++ t.2

/-- The pieces of a text and of tags after it. -/
def cut : Bool → Nat → List Char → List (Tag × List Char) → List Piece
  | _, _, lead, [] => textPiece lead
  | fresh, line, lead, (t, after) :: ts =>
    let start := line + lead.count '\n'
    let (passed, rest) := spanAfter t.kind .usual after
    textPiece (trimBefore t.kind .usual fresh lead) ++ t.piece start ::
      cut (stillFresh false passed) (start + passed.count '\n') rest ts

theorem spanLineEnd_append_eq (cs : List Char) :
    (spanLineEnd cs).1 ++ (spanLineEnd cs).2 = cs := by
  fun_cases spanLineEnd cs <;> rfl

theorem mem_of_mem_spanAfter {kind : Kind} {c : Char} {cs : List Char}
    (h : c ∈ (spanAfter kind .usual cs).2) : c ∈ cs := by
  by_cases hkind : kind = .print
  · simpa [spanAfter, hkind] using h
  · rw [spanAfter] at h
    simp only [hkind, if_false] at h
    rw [← spanLineEnd_append_eq cs]
    exact List.mem_append_right _ h

/-- Only the text after a tag can have the line end that the tag takes away. -/
theorem spanAfter_append (kind : Kind) (cs : List Char) (ts : List (Tag × List Char)) :
    spanAfter kind .usual (cs ++ tagsText ts) =
      ((spanAfter kind .usual cs).1, (spanAfter kind .usual cs).2 ++ tagsText ts) := by
  by_cases hkind : kind = .print
  · simp [spanAfter, hkind]
  · simp only [spanAfter, hkind, if_false]
    have hstart : tagsText ts = [] ∨ ∃ rest, tagsText ts = '{' :: rest := by
      cases ts with
      | nil => exact .inl rfl
      | cons t ts => exact .inr ⟨_, rfl⟩
    obtain hts | ⟨rest, hts⟩ := hstart
    · rw [hts, List.append_nil, List.append_nil]
    · rw [hts]
      fun_cases spanLineEnd cs with
      | case1 more => rfl
      | case2 more hmore =>
        cases more with
        | nil => rfl
        | cons c more =>
          have hc : c ≠ '\n' := fun he => hmore more (by rw [he])
          simp [spanLineEnd, hc]
      | case3 more => rfl
      | case4 _ _ hreturn hfeed =>
        cases cs with
        | nil => rfl
        | cons c cs =>
          have hr : c ≠ '\r' := fun he => hreturn cs (by rw [he])
          have hn : c ≠ '\n' := fun he => hfeed cs (by rw [he])
          simp [spanLineEnd, hr, hn]

theorem pieces_cut {lead : List Char} {ts : List (Tag × List Char)} (hlead : '{' ∉ lead)
    (hts : ∀ t ∈ ts, '{' ∉ t.2) {fuel : Nat} (hfuel : ts.length < fuel) (fresh : Bool)
    (line : Nat) : pieces fuel fresh line (lead ++ tagsText ts) = some (cut fresh line lead ts) := by
  induction ts generalizing lead fuel fresh line with
  | nil =>
    obtain ⟨fuel, rfl⟩ := Nat.exists_eq_add_of_le' (show 1 ≤ fuel from hfuel)
    rw [tagsText, List.flatMap_nil, List.append_nil, pieces, splitTag_plain hlead]
    rfl
  | cons t ts ih =>
    obtain ⟨fuel, rfl⟩ := Nat.exists_eq_add_of_le' (show 1 ≤ fuel by omega)
    obtain ⟨t, after⟩ := t
    rw [List.forall_mem_cons] at hts
    have htext : lead ++ tagsText ((t, after) :: ts) = lead ++ '{' :: t.kind.opening :: ' ' ::
        (t.source.toList ++ ' ' :: (t.kind.closing ++ (after ++ tagsText ts))) := by
      simp [tagsText, Tag.text]
    have hrest : '{' ∉ (spanAfter t.kind .usual after).2 := fun h =>
      hts.1 (mem_of_mem_spanAfter h)
    have hsign : ∀ cs, sign (' ' :: cs) = (.usual, ' ' :: cs) := fun _ => rfl
    have hmore := ih hrest hts.2 (show ts.length < fuel by simp at hfuel; omega)
      (stillFresh false (spanAfter t.kind .usual after).1)
      (line + lead.count '\n' + (spanAfter t.kind .usual after).1.count '\n')
    rw [htext, pieces, splitTag_tag hlead]
    dsimp only
    rw [hsign]
    dsimp only
    rw [t.tag?_source]
    dsimp only
    rw [spanAfter_append]
    dsimp only
    rw [hmore, Option.map_some, cut]
    simp

theorem length_le_tagsText (ts : List (Tag × List Char)) : ts.length ≤ (tagsText ts).length := by
  induction ts with
  | nil => exact Nat.le_refl 0
  | cons t ts ih =>
    have htag : 1 ≤ t.1.text.length := Nat.succ_le_succ (Nat.zero_le _)
    rw [tagsText] at ih ⊢
    rw [List.flatMap_cons, List.length_append, List.length_append, List.length_cons]
    omega

/-- A template that is written with tags is cut into their pieces and the texts between them. -/
theorem ofTemplate?_cut {source : String} {lead : List Char} {ts : List (Tag × List Char)}
    (hsource : source.toList = lead ++ tagsText ts) (hlead : '{' ∉ lead)
    (hts : ∀ t ∈ ts, '{' ∉ t.2) : ofTemplate? source = some (cut true 1 lead ts) := by
  have hlength := length_le_tagsText ts
  have hfuel : ts.length < (lead ++ tagsText ts).length + 1 := by
    rw [List.length_append]
    omega
  rw [ofTemplate?, hsource, pieces_cut hlead hts hfuel]

end Piece

end ReleaseBulletin.Template
