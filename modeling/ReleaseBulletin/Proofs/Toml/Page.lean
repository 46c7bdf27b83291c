import ReleaseBulletin.Proofs.Toml.Datum

/-!
Pages of TOML: pairs in front of all headers, and sections of pairs. The text of a page is read as
its members, whatever their order.
-/
namespace ReleaseBulletin.Toml
open Document Reader Table

namespace Reader

/-- A key as it is written: bare if it can be, else quoted. -/
def keyChars (k : String) : List Char :=
  if k.toList ≠ [] ∧ k.toList.all isBareChar then k.toList else Quoted.quote k.toList

theorem isKey_keyChars (k : String) : IsKey (keyChars k) k := by
  unfold keyChars
  split
  · next h =>
    have hkey := isKey_bare h.1 (List.all_eq_true.1 h.2)
    rwa [String.ofList_toList] at hkey
  · have hkey := isKey_quote k.toList
    rwa [String.ofList_toList] at hkey

end Reader

inductive Line where
  | pair (key : String) (value : Datum)
  /-- The head of a section. -/
  | header (name : String)

namespace Line

def chars : Line → List Char
  | .pair key value => keyChars key ++ ' ' :: '=' :: ' ' :: value.chars
  | .header name => '[' :: (keyChars name ++ [']'])

def statement : Line → Statement
  | .pair key value => .pair [] key value.tree
  | .header name => .header [] name

/-- A line starts where white space, comments and marks do not. -/
theorem exists_chars_cons (l : Line) : ∃ c cs, l.chars = c :: cs ∧
    Quoted.isSpace c = false ∧ c ≠ '\n' ∧ c ≠ '#' ∧ c ≠ Char.ofNat 0xFEFF := by
  cases l with
  | header name =>
    exact ⟨'[', keyChars name ++ [']'], rfl, by decide, by decide, by decide, by decide⟩
  | pair key value =>
    obtain ⟨c, cs, hcs, hstart⟩ := (isKey_keyChars key).starts
    refine ⟨c, _, by rw [chars, hcs, List.cons_append], ?_, hstart _ (by decide) (by decide),
      hstart _ (by decide) (by decide), hstart _ (by decide) (by decide)⟩
    simp [Quoted.isSpace, hstart ' ' (by decide) (by decide),
      hstart '\t' (by decide) (by decide)]

theorem statement_chars (l : Line) (rest : List Char) :
    Reader.statement (l.chars ++ '\n' :: rest) = some (l.statement, '\n' :: rest) := by
  cases l with
  | header name =>
    have hread := statement_header (isKey_keyChars name) ('\n' :: rest)
    rw [chars, List.cons_append, List.append_assoc, List.singleton_append]
    exact hread
  | pair key value =>
    obtain ⟨c, cs, hcs, hspace⟩ := value.exists_chars_cons
    have hvalue := value.value_chars (depthLimit - 2) rest
    rw [hcs, List.cons_append] at hvalue
    have hread := statement_pair (isKey_keyChars key) hspace hvalue
    rw [chars, hcs, List.append_assoc]
    exact hread

theorem not_mem_chars (l : Line) : '\r' ∉ l.chars := by
  have hkey (k : String) : '\r' ∉ keyChars k := by
    unfold keyChars
    split
    · next h =>
      intro hmem
      have hbare : isBareChar '\r' = true := List.all_eq_true.1 h.2 _ hmem
      exact absurd hbare (by decide)
    · exact Quoted.not_mem_quote k.toList
  cases l with
  | header name => simp [chars, hkey]
  | pair key value => simp [chars, hkey, value.not_mem_chars]

theorem statements_cons (fuel : Nat) (l : Line) (rest : List Char) :
    statements (fuel + 1) (l.chars ++ '\n' :: rest) =
      (statements fuel rest).map (l.statement :: ·) := by
  obtain ⟨c, cs, hcs, hspace, hline, hcomment, -⟩ := l.exists_chars_cons
  have hskip : skipLines false (l.chars ++ '\n' :: rest) = some (l.chars ++ '\n' :: rest) := by
    rw [hcs, List.cons_append]
    exact skipLines_start hspace hline hcomment _
  exact statements_line fuel hskip (by simp) (l.statement_chars rest)

/-- The text of lines, each of them ended by a line feed. -/
def terminated (ls : List Line) : List Char := Text.Affix.ended '\n' (ls.map chars)

theorem terminated_cons (l : Line) (ls : List Line) :
    terminated (l :: ls) = l.chars ++ '\n' :: terminated ls := Text.Affix.ended_cons ..

/-- All lines are read, with one unit of fuel for each and one for the end of the text. -/
theorem statements_terminated (spare : Nat) (ls : List Line) :
    statements (spare + ls.length + 1) (terminated ls) = some (ls.map statement) := by
  induction ls with
  | nil => rfl
  | cons l ls ih =>
    rw [terminated_cons, List.length_cons, ← Nat.add_assoc, statements_cons, ih, Option.map_some,
      List.map_cons]

theorem not_mem_terminated (ls : List Line) : '\r' ∉ terminated ls := by
  induction ls with
  | nil => exact List.not_mem_nil
  | cons l ls ih => simp [terminated_cons, l.not_mem_chars, ih]

theorem dropMark_terminated (ls : List Line) : dropMark (terminated ls) = terminated ls := by
  cases ls with
  | nil => rfl
  | cons l ls =>
    obtain ⟨c, cs, hcs, -, -, -, hmark⟩ := l.exists_chars_cons
    have hcode : c.toNat ≠ 0xFEFF := fun he => hmark (by rw [← he, Char.ofNat_toNat])
    rw [terminated_cons, hcs, List.cons_append, dropMark, if_neg hcode]

end Line

section Lookup

variable {α β : Type}

theorem lookup_eq_none {es : List (String × α)} {k : String} (h : k ∉ es.map Prod.fst) :
    es.lookup k = none := by
  refine List.lookup_eq_none_iff.2 fun e he => bne_iff_ne.2 ?_
  rintro rfl
  exact h (List.mem_map_of_mem he)

theorem lookup_map (f : α → β) (es : List (String × α)) (k : String) :
    (es.map fun e => (e.1, f e.2)).lookup k = (es.lookup k).map f := by
  induction es with
  | nil => rfl
  | cons e es ih =>
    rw [List.map_cons, List.lookup_cons, List.lookup_cons, ih]
    cases k == e.1 <;> rfl

end Lookup

/-- A table with the given members, none of them without a key. -/
def tableOf (ms : List (String × Tree)) : Tree := .table (ms.map fun m => (some m.1, m.2))

abbrev Pairs := List (String × Datum)

namespace Pairs

def keys (es : Pairs) : List String := es.map Prod.fst

def lines (es : Pairs) : List Line := es.map fun e => .pair e.1 e.2

def members (es : Pairs) : List (String × Tree) := es.map fun e => (e.1, e.2.tree)

theorem lines_cons (e : String × Datum) (es : Pairs) :
    lines (e :: es) = .pair e.1 e.2 :: lines es :=
  rfl

theorem lookup_members (es : Pairs) (k : String) :
    es.members.lookup k = (es.lookup k).map Datum.tree := lookup_map Datum.tree es k

end Pairs

/-- Pairs in front of all headers, and sections. No name and no key stands twice. -/
structure Page where
  loose : Pairs
  sections : List (String × Pairs)
  names_nodup : (loose.keys ++ sections.map Prod.fst).Nodup
  keys_nodup : ∀ s ∈ sections, s.2.keys.Nodup

namespace Page

def sectionLines (s : String × Pairs) : List Line := .header s.1 :: s.2.lines

def lines (p : Page) : List Line := p.loose.lines ++ p.sections.flatMap sectionLines

def text (p : Page) : String := String.ofList (Line.terminated p.lines)

def members (p : Page) : List (String × Tree) :=
  p.loose.members ++ p.sections.map fun s => (s.1, tableOf s.2.members)

end Page

section Tables

def leaves (es : Pairs) : Entries := es.map fun e => (e.1, .leaf e.2.tree)

def declared (s : String × Pairs) : String × Node := (s.1, .table .declared (leaves s.2))

/-- A header's table can be changed where it stands, at the end. -/
theorem alongHeader_declared (es sub : Entries) {name : String} (h : name ∉ es.map Prod.fst)
    (f : Entries → Option Entries) :
    alongHeader [name] f (es ++ [(name, .table .declared sub)]) =
      (f sub).map fun sub => es ++ [(name, .table .declared sub)] := by
  have hlookup : (es ++ [(name, Node.table .declared sub)]).lookup name =
      some (.table .declared sub) := by
    rw [List.lookup_append, lookup_eq_none h]
    simp
  have hreplace (node : Node) : replace name node (es ++ [(name, .table .declared sub)]) =
      es ++ [(name, node)] := by
    have hfront : ∀ e ∈ es, (if e.1 = name then (name, node) else e) = e := by
      intro e he
      refine if_neg ?_
      rintro rfl
      exact h (List.mem_map_of_mem he)
    rw [replace, List.map_append, List.map_congr_left hfront, List.map_id']
    simp
  rw [alongHeader, hlookup]
  simp only [alongHeader, hreplace]

/-- Pairs are added one after the other to the table that is open. The function tells what the
entries of the document are with given entries of that table. -/
theorem foldlM_pairs (current : List String) (whole : Entries → Entries)
    (hopen : ∀ f sub, alongHeader current f (whole sub) = (f sub).map whole) (sub : Entries)
    (es : Pairs) (h : (sub.map Prod.fst ++ es.keys).Nodup) :
    (es.lines.map Line.statement).foldlM Progress.step ⟨whole sub, current⟩ =
      some ⟨whole (sub ++ leaves es), current⟩ := by
  induction es generalizing sub with
  | nil => simp [Pairs.lines, leaves]
  | cons e es ih =>
    have hnew : sub.lookup e.1 = none := by
      refine lookup_eq_none fun hmem => ?_
      exact (List.nodup_append.1 h).2.2 _ hmem _ List.mem_cons_self rfl
    have hassign : assign .declared [] e.1 e.2.tree sub =
        some (sub ++ [(e.1, .leaf e.2.tree)]) := by
      simp only [assign, addLeaf, hnew, reduceCtorEq, if_false]
    have hstep : Progress.step ⟨whole sub, current⟩ (.pair [] e.1 e.2.tree) =
        some ⟨whole (sub ++ [(e.1, .leaf e.2.tree)]), current⟩ := by
      rw [Progress.step, hopen, hassign]
      rfl
    have hrest := ih (sub ++ [(e.1, .leaf e.2.tree)]) (by simpa [Pairs.keys] using h)
    rw [List.append_assoc, List.singleton_append] at hrest
    rw [Pairs.lines_cons, List.map_cons, Line.statement, List.foldlM_cons, hstep]
    exact hrest

theorem keys_leaves (es : Pairs) : (leaves es).map Prod.fst = es.keys := by
  simp [leaves, Pairs.keys]

theorem foldlM_sections (es : Entries) (current : List String) (ss : List (String × Pairs))
    (hnames : (es.map Prod.fst ++ ss.map Prod.fst).Nodup) (hkeys : ∀ s ∈ ss, s.2.keys.Nodup) :
    (((ss.flatMap Page.sectionLines).map Line.statement).foldlM Progress.step
      ⟨es, current⟩).map (·.entries) = some (es ++ ss.map declared) := by
  induction ss generalizing es current with
  | nil => simp
  | cons s ss ih =>
    obtain ⟨name, pairs⟩ := s
    have hname : name ∉ es.map Prod.fst := fun hmem =>
      (List.nodup_append.1 hnames).2.2 _ hmem _ List.mem_cons_self rfl
    have hheader : Progress.step ⟨es, current⟩ (.header [] name) =
        some ⟨es ++ [(name, .table .declared [])], [name]⟩ := by
      simp only [Progress.step, alongHeader, open?, lookup_eq_none hname, Option.map_some,
        List.nil_append]
    -- The header opened an empty table at the end of the entries; its pairs go there.
    have hpairs := foldlM_pairs [name] (fun sub => es ++ [(name, .table .declared sub)])
      (fun f sub => alongHeader_declared es sub hname f) [] pairs (hkeys _ List.mem_cons_self)
    have hrest := ih (es ++ [declared (name, pairs)]) [name] (by simpa [declared] using hnames)
      fun s hs => hkeys s (List.mem_cons_of_mem _ hs)
    rw [List.append_assoc, List.singleton_append] at hrest
    rw [List.flatMap_cons, List.map_append, List.foldlM_append, Page.sectionLines, List.map_cons,
      List.foldlM_cons, Line.statement, hheader, Option.bind_eq_bind, Option.bind_some, hpairs]
    exact hrest

theorem members_eq_map (es : Entries) :
    Table.members es = es.map fun e => (some e.1, e.2.tree) := by
  induction es with
  | nil => rfl
  | cons e es ih =>
    rw [Table.members, ih]
    rfl

theorem member_declared (s : String × Pairs) :
    (some (declared s).1, (declared s).2.tree) = (some s.1, tableOf s.2.members) := by
  simp [declared, Node.tree, members_eq_map, tableOf, leaves, Pairs.members]

end Tables

namespace Page

theorem foldlM_lines (p : Page) :
    ((p.lines.map Line.statement).foldlM Progress.step ⟨[], []⟩).map (·.entries) =
      some (leaves p.loose ++ p.sections.map declared) := by
  have hloose : p.loose.keys.Nodup := (List.nodup_append.1 p.names_nodup).1
  -- In front of all headers the open table is the document itself.
  have hfront := foldlM_pairs [] (fun es => es)
    (fun f sub => Option.map_id'.symm) [] p.loose hloose
  have hsections := foldlM_sections (leaves p.loose) [] p.sections
    (by rw [keys_leaves]; exact p.names_nodup) p.keys_nodup
  rw [lines, List.map_append, List.foldlM_append, hfront]
  exact hsections

/-- The text of a page is read as the table of its members. -/
theorem parse_text (p : Page) : parse p.text = some (tableOf p.members) := by
  obtain ⟨progress, hfold, hentries⟩ := Option.map_eq_some_iff.1 p.foldlM_lines
  have hlength : p.lines.length ≤ (Line.terminated p.lines).length := by
    have hended := Text.Affix.length_ended '\n' (p.lines.map Line.chars)
    rwa [List.length_map] at hended
  obtain ⟨spare, hspare⟩ := Nat.exists_eq_add_of_le' hlength
  have hstatements : statements ((Line.terminated p.lines).length + 1) (Line.terminated p.lines) =
      some (p.lines.map Line.statement) := by
    rw [hspare]
    exact Line.statements_terminated spare p.lines
  have hmembers : Table.members progress.entries = p.members.map fun m => (some m.1, m.2) := by
    have hsections : (p.sections.map declared).map (fun e => (some e.1, e.2.tree)) =
        (p.sections.map fun s => (s.1, tableOf s.2.members)).map fun m => (some m.1, m.2) := by
      rw [List.map_map, List.map_map]
      exact List.map_congr_left fun s _ => member_declared s
    rw [hentries, members_eq_map, List.map_append, hsections]
    simp [members, leaves, Pairs.members, Node.tree]
  rw [parse, text, String.toList_ofList, Line.dropMark_terminated,
    unifyLineEnds_of_not_mem (Line.not_mem_terminated p.lines)]
  simp only [Option.bind_eq_bind, Option.bind_some, hstatements, hfold, hmembers]
  rfl

end Page

end ReleaseBulletin.Toml
