import ReleaseBulletin.Lockfile.Reader
import ReleaseBulletin.Proofs.Toml.Page

/-!
Lockfiles as the package manager lays them out: a line with the version of the layout, and a table
for each package with a line for each of its texts. What is laid out is read back.
-/
namespace ReleaseBulletin.Lockfile
open Document Toml Toml.Reader Toml.Table

/-- Printable characters of ASCII without quotes and backslashes. -/
def IsPlain (s : String) : Prop :=
  ∀ c ∈ s.toList, 0x20 ≤ c.toNat ∧ c.toNat < 0x7F ∧ c ≠ '"' ∧ c ≠ '\\'

instance : DecidablePred IsPlain := fun s => List.decidableBAll _ s.toList

/-- A package whose texts stand for themselves between quotes. -/
structure Package.IsPlain (p : Package) : Prop where
  name : Lockfile.IsPlain p.name
  version : Lockfile.IsPlain p.version
  source : ∀ s, p.source = some s → Lockfile.IsPlain s

namespace Layout

/-- A line that says what text a key has. -/
def line (key value : String) : String := key ++ " = \"" ++ value ++ "\""

/-- The lines of a package. -/
def packageLines (p : Package) : List String :=
  ["", "[[package]]", line "name" p.name, line "version" p.version] ++
    (p.source.map (line "source")).toList

/-- The lines of a lockfile. -/
def lines (ps : List Package) : List String := "version = 3" :: ps.flatMap packageLines

/-- Lines, each of them ended by a line feed. -/
def terminated (lines : List String) : List Char := lines.flatMap fun l => l.toList ++ ['\n']

/-- The text of a lockfile with the given packages. -/
def text (ps : List Package) : String := String.ofList (terminated (lines ps))

/-- The pair that a line of a package writes. -/
def pair (key value : String) : Statement := .pair [] key (.text value)

/-- The statements of a package. -/
def packageStatements (p : Package) : List Statement :=
  [.item [] "package", pair "name" p.name, pair "version" p.version] ++
    (p.source.map (pair "source")).toList

/-- The statements of a lockfile. -/
def allStatements (ps : List Package) : List Statement :=
  .pair [] "version" (.integer 3) :: ps.flatMap packageStatements

theorem terminated_append (xs ys : List String) :
    terminated (xs ++ ys) = terminated xs ++ terminated ys :=
  List.flatMap_append

theorem terminated_cons (x : String) (xs : List String) :
    terminated (x :: xs) = x.toList ++ '\n' :: terminated xs := by
  simp [terminated]

section Statements

variable (fuel : Nat) (rest : List Char)

/-- The line of a plain text is read as its pair. -/
theorem statements_pair (key : String) {value : String} (hne : key.toList ≠ [])
    (hkey : ∀ c ∈ key.toList, isBareChar c = true) (hvalue : IsPlain value) :
    statements (fuel + 1) ((line key value).toList ++ '\n' :: rest) =
      (statements fuel rest).map (pair key value :: ·) := by
  have hquote : Quoted.quote value.toList = '"' :: value.toList ++ ['"'] :=
    Quoted.quote_of_plain fun c hc =>
      have ⟨hlow, hhigh, hquote, hslash⟩ := hvalue c hc
      ⟨hquote, hslash, hlow, by omega⟩
  have hbare : keyChars key = key.toList := if_pos ⟨hne, List.all_eq_true.2 hkey⟩
  have hline : (line key value).toList = (Line.pair key (.text value)).chars := by
    simp [line, Line.chars, Datum.chars, hbare, hquote]
  rw [hline]
  exact Line.statements_cons fuel (.pair key (.text value)) rest

/-- The head of a package's table is read after an empty line. -/
theorem statements_item :
    statements (fuel + 1) ('\n' :: ("[[package]]".toList ++ '\n' :: rest)) =
      (statements fuel rest).map (.item [] "package" :: ·) := by
  have hname : ∀ c ∈ "package".toList, isBareChar c = true :=
    List.all_eq_true.mp (by decide)
  have hstatement : statement ("[[package]]".toList ++ '\n' :: rest) =
      some (.item [] "package", '\n' :: rest) :=
    statement_item (isKey_bare (k := "package".toList) (by decide) hname) ('\n' :: rest)
  exact statements_line fuel (skipLines_lineFeed _) (by simp) hstatement

/-- The line with the version of the layout. -/
theorem statements_version :
    statements (fuel + 1) ("version = 3".toList ++ '\n' :: rest) =
      (statements fuel rest).map (.pair [] "version" (.integer 3) :: ·) :=
  Line.statements_cons fuel (.pair "version" (.number 3 (by decide))) rest

/-- The lines of a package are read as its statements. -/
theorem statements_package {p : Package} (hp : p.IsPlain) :
    statements (fuel + (packageStatements p).length) (terminated (packageLines p) ++ rest) =
      (statements fuel rest).map (packageStatements p ++ ·) := by
  let sourceLines := (p.source.map (line "source")).toList
  let sourceStatements := (p.source.map (pair "source")).toList
  have hsource : statements (fuel + sourceStatements.length) (terminated sourceLines ++ rest) =
      (statements fuel rest).map (sourceStatements ++ ·) := by
    cases hs : p.source with
    | none => simp [sourceLines, sourceStatements, hs, terminated]
    | some s =>
      have hread := statements_pair fuel rest "source" (by decide)
        (List.all_eq_true.mp (by decide)) (hp.source s hs)
      simpa [sourceLines, sourceStatements, hs, terminated] using hread
  have htext : terminated (packageLines p) ++ rest =
      '\n' :: ("[[package]]".toList ++ '\n' :: ((line "name" p.name).toList ++ '\n' ::
        ((line "version" p.version).toList ++ '\n' :: (terminated sourceLines ++ rest)))) := by
    simp [packageLines, sourceLines, terminated]
  have hfuel : fuel + (packageStatements p).length = fuel + sourceStatements.length + 1 + 1 + 1 := by
    simp only [packageStatements, List.length_append, List.length_cons, List.length_nil,
      sourceStatements]
    omega
  rw [htext, hfuel, statements_item,
    statements_pair _ _ "name" (by decide) (List.all_eq_true.mp (by decide)) hp.name,
    statements_pair _ _ "version" (by decide) (List.all_eq_true.mp (by decide)) hp.version,
    hsource, Option.map_map, Option.map_map, Option.map_map]
  rfl

theorem statements_packages {ps : List Package} (hps : ∀ p ∈ ps, p.IsPlain) :
    statements (fuel + (ps.flatMap packageStatements).length + 1)
      (terminated (ps.flatMap packageLines)) = some (ps.flatMap packageStatements) := by
  induction ps with
  | nil => simp [terminated, statements, skipLines]
  | cons p ps ih =>
    have hrest := ih fun q hq => hps q (List.mem_cons_of_mem p hq)
    have hfuel : fuel + ((p :: ps).flatMap packageStatements).length + 1 =
        (fuel + (ps.flatMap packageStatements).length + 1) + (packageStatements p).length := by
      rw [List.flatMap_cons, List.length_append]
      omega
    rw [hfuel, List.flatMap_cons, terminated_append,
      statements_package _ _ (hps p List.mem_cons_self), hrest, Option.map_some, List.flatMap_cons]

end Statements

theorem length_terminated (ls : List String) : ls.length ≤ (terminated ls).length := by
  have hlength := Text.Affix.length_ended '\n' (ls.map String.toList)
  rwa [List.length_map, Text.Affix.ended, List.flatMap_map] at hlength

/-- A package has more lines than statements. -/
theorem length_statements (ps : List Package) :
    (ps.flatMap packageStatements).length ≤ (ps.flatMap packageLines).length := by
  induction ps with
  | nil => exact Nat.le_refl 0
  | cons p ps ih =>
    have hone : (packageStatements p).length + 1 = (packageLines p).length := by
      cases hs : p.source <;> simp [packageStatements, packageLines, hs]
    rw [List.flatMap_cons, List.flatMap_cons, List.length_append, List.length_append]
    omega

/-- The text of a lockfile is read as its statements. -/
theorem statements_text {ps : List Package} (hps : ∀ p ∈ ps, p.IsPlain) :
    statements ((terminated (lines ps)).length + 1) (terminated (lines ps)) =
      some (allStatements ps) := by
  have hlength := length_statements ps
  have hterminated := length_terminated (ps.flatMap packageLines)
  have htext : terminated (lines ps) =
      "version = 3".toList ++ '\n' :: terminated (ps.flatMap packageLines) := terminated_cons _ _
  obtain ⟨spare, hspare⟩ := Nat.exists_eq_add_of_le'
    (show (ps.flatMap packageStatements).length + 1 ≤ (terminated (lines ps)).length by
      rw [htext, List.length_append, List.length_cons]
      omega)
  rw [hspare, htext, statements_version, ← Nat.add_assoc, statements_packages spare hps]
  rfl

section Tables

/-- The entries of a package's table. -/
def packageEntries (p : Package) : Entries :=
  [("name", .leaf (.text p.name)), ("version", .leaf (.text p.version))] ++
    (p.source.map fun s => ("source", .leaf (.text s))).toList

/-- The entries of the document, with the tables of some packages. -/
def withTables (all : List Entries) : Entries :=
  [("version", .leaf (.integer 3)), ("package", .tables all)]

/-- The entries of the document after some packages. The list comes to be with the first one. -/
def entriesAfter : List Package → Entries
  | [] => [("version", .leaf (.integer 3))]
  | p :: ps => withTables ((p :: ps).map packageEntries)

theorem openItem?_entriesAfter (ps : List Package) :
    openItem? "package" (entriesAfter ps) = some (withTables (ps.map packageEntries ++ [[]])) := by
  cases ps <;> rfl

theorem onLast_concat (f : Entries → Option Entries) (all : List Entries) (es : Entries) :
    onLast f (all ++ [es]) = (f es).map fun es => all ++ [es] := by
  induction all with
  | nil => rfl
  | cons x all ih =>
    cases hrest : all ++ [es] with
    | nil => simp at hrest
    | cons y rest =>
      rw [List.cons_append, hrest, onLast, ← hrest, ih, Option.map_map]
      · rfl
      · simp

/-- A pair goes to the table of the last package. -/
theorem step_pair (key value : String) (all : List Entries) {es : Entries}
    (h : es.lookup key = none) :
    Progress.step ⟨withTables (all ++ [es]), ["package"]⟩ (pair key value) =
      some ⟨withTables (all ++ [es ++ [(key, .leaf (.text value))]]), ["package"]⟩ := by
  let f := assign .declared [] key (.text value)
  have hassign : alongHeader [] f es = some (es ++ [(key, .leaf (.text value))]) := by
    simp only [alongHeader, f, assign, addLeaf, h, reduceCtorEq, if_false]
  have hlookup : (withTables (all ++ [es])).lookup "package" = some (.tables (all ++ [es])) := rfl
  have halong : alongHeader ["package"] f (withTables (all ++ [es])) =
      some (withTables (all ++ [es ++ [(key, .leaf (.text value))]])) := by
    rw [alongHeader, hlookup]
    dsimp only
    rw [onLast_concat, hassign]
    rfl
  rw [pair, Progress.step]
  exact congrArg (Option.map _) halong

/-- The statements of a package add its table. -/
theorem foldlM_package (ps : List Package) (p : Package) (current : List String) :
    (packageStatements p).foldlM Progress.step ⟨entriesAfter ps, current⟩ =
      some ⟨entriesAfter (ps ++ [p]), ["package"]⟩ := by
  have hitem : Progress.step ⟨entriesAfter ps, current⟩ (.item [] "package") =
      some ⟨withTables (ps.map packageEntries ++ [[]]), ["package"]⟩ :=
    congrArg (Option.map _) (openItem?_entriesAfter ps)
  have hname := step_pair "name" p.name (ps.map packageEntries) (List.lookup_nil)
  have hversion := step_pair "version" p.version (ps.map packageEntries)
    (show [("name", Node.leaf (.text p.name))].lookup "version" = none from rfl)
  have hafter : entriesAfter (ps ++ [p]) =
      withTables (ps.map packageEntries ++ [packageEntries p]) := by
    cases ps <;> simp [entriesAfter]
  rw [hafter, packageStatements, packageEntries]
  cases p.source with
  | none =>
    simp only [Option.map_none, Option.toList_none, List.append_nil, List.foldlM_cons,
      List.foldlM_nil, hitem, Option.bind_eq_bind, Option.bind_some, hname, List.nil_append,
      hversion]
    rfl
  | some s =>
    have hsource := step_pair "source" s (ps.map packageEntries)
      (show [("name", Node.leaf (.text p.name)), ("version", Node.leaf (.text p.version))].lookup
        "source" = none from rfl)
    simp only [Option.map_some, Option.toList_some, List.cons_append, List.nil_append,
      List.foldlM_cons, List.foldlM_nil, hitem, Option.bind_eq_bind, Option.bind_some, hname,
      hversion, hsource]
    rfl

theorem foldlM_packages (done ps : List Package) (current : List String) :
    ((ps.flatMap packageStatements).foldlM Progress.step ⟨entriesAfter done, current⟩).map
      (·.entries) = some (entriesAfter (done ++ ps)) := by
  induction ps generalizing done current with
  | nil => simp
  | cons p ps ih =>
    have hrest := ih (done ++ [p]) ["package"]
    rw [List.append_assoc, List.singleton_append] at hrest
    rw [List.flatMap_cons, List.foldlM_append, foldlM_package]
    exact hrest

/-- The tables of a lockfile are those of its packages, in order. -/
theorem foldlM_allStatements (ps : List Package) :
    ((allStatements ps).foldlM Progress.step ⟨[], []⟩).map (·.entries) = some (entriesAfter ps) :=
  foldlM_packages [] ps []

theorem members_packageEntries (p : Package) :
    Reader.package? (.table (members (packageEntries p))) = some p := by
  obtain ⟨name, version, source⟩ := p
  cases source <;> rfl

theorem mapM_items (ps : List Package) :
    (items (ps.map packageEntries)).mapM Reader.package? = some ps := by
  induction ps with
  | nil => rfl
  | cons p ps ih =>
    rw [List.map_cons, items, List.mapM_cons, members_packageEntries, ih]
    rfl

theorem ofTree?_entriesAfter (ps : List Package) :
    Reader.ofTree? (.table (members (entriesAfter ps))) = some ⟨some 3, ps⟩ := by
  cases ps with
  | nil => rfl
  | cons p ps =>
    have hfields : Record.fields? .ignored ["version", "package"]
        (.table (members (entriesAfter (p :: ps)))) =
          some [some (.integer 3), some (.list (items ((p :: ps).map packageEntries)))] := rfl
    have hpackages : Record.orElse [] (·.listOf? Reader.package?)
        (some (.list (items ((p :: ps).map packageEntries)))) = some (p :: ps) := mapM_items _
    rw [Reader.ofTree?, hfields]
    simp only [hpackages]
    rfl

end Tables

theorem not_mem_of_isPlain {s : String} (h : IsPlain s) : '\r' ∉ s.toList := fun hmem => by
  have := (h _ hmem).1
  simp at this

theorem not_mem_line {key value : String} (hkey : '\r' ∉ key.toList) (hvalue : IsPlain value) :
    '\r' ∉ (line key value).toList := by
  simp [line, hkey, not_mem_of_isPlain hvalue]

theorem not_mem_packageLines {p : Package} (hp : p.IsPlain) :
    ∀ l ∈ packageLines p, '\r' ∉ l.toList := by
  intro l hl
  simp only [packageLines, List.mem_append, List.mem_cons, List.not_mem_nil, or_false,
    Option.mem_toList, Option.map_eq_some_iff] at hl
  rcases hl with (rfl | rfl | rfl | rfl) | ⟨s, hs, rfl⟩
  · simp
  · simp
  · exact not_mem_line (by simp) hp.name
  · exact not_mem_line (by simp) hp.version
  · exact not_mem_line (by simp) (hp.source s hs)

theorem not_mem_text {ps : List Package} (hps : ∀ p ∈ ps, p.IsPlain) :
    '\r' ∉ terminated (lines ps) := by
  intro hmem
  obtain ⟨l, hl, hr⟩ := List.mem_flatMap.1 hmem
  have hline : '\r' ∈ l.toList := by simpa using hr
  rcases List.mem_cons.1 hl with rfl | hl
  · simp at hline
  · obtain ⟨p, hp, hl⟩ := List.mem_flatMap.1 hl
    exact not_mem_packageLines (hps p hp) l hl hline

/-- A lockfile that was laid out is read as its packages. -/
theorem read_text {ps : List Package} (hps : ∀ p ∈ ps, p.IsPlain) :
    Reader.read (text ps) = .ok ⟨some 3, ps⟩ := by
  obtain ⟨progress, hfold, hentries⟩ := Option.map_eq_some_iff.1 (foldlM_allStatements ps)
  have hmark : dropMark (terminated (lines ps)) = terminated (lines ps) := rfl
  have hparse : Toml.Reader.parse (text ps) = some (.table (members (entriesAfter ps))) := by
    rw [Toml.Reader.parse, text, String.toList_ofList, hmark,
      unifyLineEnds_of_not_mem (not_mem_text hps)]
    simp only [Option.bind_eq_bind, Option.bind_some, statements_text hps, hfold, hentries]
    rfl
  rw [Reader.read, hparse, Option.bind_some, ofTree?_entriesAfter]

end Layout

end ReleaseBulletin.Lockfile
