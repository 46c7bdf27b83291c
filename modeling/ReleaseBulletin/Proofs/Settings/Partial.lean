import ReleaseBulletin.Proofs.Bytes.Utf8
import ReleaseBulletin.Proofs.Document.Members
import ReleaseBulletin.Proofs.Release.Preparation
import ReleaseBulletin.Proofs.Settings.Field

/-!
Settings files that write only some of the fields. Whichever these are and in whatever order they
stand, they are read, and every other field has its default.
-/
namespace ReleaseBulletin
open Document Document.Record Toml

section Members

variable {ms : List (String × Tree)} (h : (ms.map Prod.fst).Nodup)
include h

theorem single?_map (key : String) :
    single? (ms.map fun m => (some m.1, m.2)) key = some (ms.lookup key) := by
  induction ms with
  | nil => rfl
  | cons m ms ih =>
    obtain ⟨hnew, hms⟩ := List.nodup_cons.1 h
    by_cases hkey : key = m.1
    · subst hkey
      have hnone : (ms.map fun x => (some x.1, x.2)).filter (·.1 == some m.1) = [] := by
        rw [List.filter_eq_nil_iff]
        simp only [List.mem_map, beq_iff_eq]
        rintro x ⟨y, hy, rfl⟩ he
        exact hnew (Option.some.inj he ▸ List.mem_map_of_mem hy)
      rw [single?, List.map_cons, List.filter_cons_of_pos (by simp), hnone, List.lookup_cons_self]
    · have hrest := ih hms
      rw [single?] at hrest
      rw [single?, List.map_cons, List.filter_cons_of_neg (by simpa using Ne.symm hkey), hrest,
        List.lookup_cons, beq_eq_false_iff_ne.2 hkey]

/-- In a table without repeated keys every field is its member, if there is one. -/
theorem fields?_tableOf (surplus : Surplus) (names : List String) :
    fields? surplus names (tableOf ms) = some (names.map fun k => ms.lookup k) := by
  have hkeys : (ms.map fun m => (some m.1, m.2)).all (·.1.isSome) = true := by simp
  have hnames : names.mapM (single? (ms.map fun m => (some m.1, m.2))) =
      some (names.map fun k => ms.lookup k) := by
    induction names with
    | nil => rfl
    | cons name names ih =>
      rw [List.mapM_cons, single?_map h, ih]
      rfl
  rw [tableOf, fields?, if_pos hkeys, hnames]

end Members

theorem orElse_ite {α : Type} (read : Tree → Option α) {t : Tree} {a : α} (h : read t = some a)
    (absent : α) (b : Bool) :
    orElse absent read (if b then some t else none) = some (if b then a else absent) := by
  cases b
  · rfl
  · exact h

theorem orElse_text (absent a : String) (b : Bool) :
    orElse absent Tree.text? (if b then some (.text a) else none) =
      some (if b then a else absent) := orElse_ite Tree.text? rfl absent b

namespace Settings

section Reading

variable {es : Pairs} {s : Settings} {chosen : Field → Bool}

theorem lt_of_written {d : Option Datum} {n : Nat} (h : d.map Datum.tree = some (.integer n)) :
    n < Width.count 63 := by
  obtain ⟨d, -, htree⟩ := Option.map_eq_some_iff.1 h
  cases d with
  | number m hm =>
    have he : (m : Int) = n := Tree.integer.inj htree
    omega
  | text t => cases htree
  | boolean b => cases htree
  | texts items => cases htree

variable (hes : es.keys.Nodup)
include hes

theorem fields?_members (surplus : Surplus) (names : List String) :
    fields? surplus names (tableOf es.members) =
      some (names.map fun k => (es.lookup k).map Datum.tree) := by
  have hkeys : es.members.map Prod.fst = es.keys := by
    simp [Pairs.members, Pairs.keys]
  rw [fields?_tableOf (hkeys ▸ hes)]
  simp only [Pairs.lookup_members]

theorem api?_members (h : WritesSection es "github" s chosen) :
    Document.api? .ignored (tableOf es.members) = some (s.restrictedTo chosen).api := by
  have hurl : (es.lookup "api_url").map Datum.tree =
      if chosen .apiUrl then some (.text s.api.url) else none := h .apiUrl rfl
  have htimeout : (es.lookup "timeout_secs").map Datum.tree =
      if chosen .apiTimeout then some (.integer s.api.timeout) else none := h .apiTimeout rfl
  have hread : orElse ({} : Api).timeout (·.natBelow? Document.timeoutLimit)
      (if chosen .apiTimeout then some (.integer s.api.timeout) else none) =
        some (if chosen .apiTimeout then s.api.timeout else ({} : Api).timeout) := by
    cases hchosen : chosen .apiTimeout with
    | false => rfl
    | true =>
      rw [hchosen, if_pos rfl] at htimeout
      -- What a page can write is below what the reader takes.
      have hlt := lt_of_written htimeout
      have hlimit : Width.count 63 < Document.timeoutLimit := by decide
      exact if_pos (Nat.lt_trans hlt hlimit)
  rw [Document.api?, fields?_members hes]
  simp only [List.map_cons, List.map_nil, hurl, htimeout, orElse_text, hread, Option.bind_eq_bind,
    Option.bind_some]
  rfl

theorem pin?_members (h : WritesSection es "lockfile" s chosen) :
    Document.pin? .ignored (tableOf es.members) = some (s.restrictedTo chosen).pin := by
  have hpath : (es.lookup "path").map Datum.tree =
      if chosen .pinPath then some (.text s.pin.path) else none := h .pinPath rfl
  have hpackage : (es.lookup "package").map Datum.tree =
      if chosen .pinPackage then some (.text s.pin.package) else none := h .pinPackage rfl
  rw [Document.pin?, fields?_members hes]
  simp only [List.map_cons, List.map_nil, hpath, hpackage, orElse_text, Option.bind_eq_bind,
    Option.bind_some]
  rfl

theorem changes?_members (h : WritesSection es "changelog" s chosen) :
    Document.changes? .ignored (tableOf es.members) = some (s.restrictedTo chosen).changes := by
  have henabled : (es.lookup "enabled").map Datum.tree =
      if chosen .changesEnabled then some (.boolean s.changes.enabled) else none :=
    h .changesEnabled rfl
  have hpaired : (es.lookup "paired_repository").map Datum.tree =
      if chosen .pairedRepository then some (.text s.changes.pairedRepository) else none :=
    h .pairedRepository rfl
  have hpattern : (es.lookup "companion_pattern").map Datum.tree =
      if chosen .companionPattern then some (.text s.changes.companionPattern) else none :=
    h .companionPattern rfl
  have hnotes : (es.lookup "release_notes_label").map Datum.tree =
      if chosen .releaseNotesLabel then some (.text s.changes.releaseNotesLabel) else none :=
    h .releaseNotesLabel rfl
  have hclient : (es.lookup "client_label").map Datum.tree =
      if chosen .clientLabel then some (.text s.changes.clientLabel) else none :=
    h .clientLabel rfl
  have hruntime : (es.lookup "runtime_label").map Datum.tree =
      if chosen .runtimeLabel then some (.text s.changes.runtimeLabel) else none :=
    h .runtimeLabel rfl
  have hread := orElse_ite Tree.boolean? (t := .boolean s.changes.enabled) rfl
    ({} : Changes).enabled (chosen .changesEnabled)
  rw [Document.changes?, Document.changesNames, fields?_members hes]
  simp only [List.map_cons, List.map_nil, henabled, hpaired, hpattern, hnotes, hclient, hruntime,
    hread, orElse_text, Option.bind_eq_bind, Option.bind_some]
  rfl

theorem runtimes?_members (h : WritesSection es "runtimes" s chosen) :
    Document.runtimes? .ignored (tableOf es.members) = some (s.restrictedTo chosen).runtimes := by
  have hdir : (es.lookup "checkout_dir").map Datum.tree =
      if chosen .checkoutDir then some (.text s.runtimes.checkoutDir) else none :=
    h .checkoutDir rfl
  have hnames : (es.lookup "names").map Datum.tree =
      if chosen .runtimeNames then some (.list (s.runtimes.names.map .text)) else none :=
    h .runtimeNames rfl
  have hread := orElse_ite (·.listOf? Tree.text?) (Tree.listOf?_texts s.runtimes.names)
    ({} : Runtimes).names (chosen .runtimeNames)
  rw [Document.runtimes?, fields?_members hes]
  simp only [List.map_cons, List.map_nil, hdir, hnames, hread, orElse_text, Option.bind_eq_bind,
    Option.bind_some]
  rfl

theorem template?_members (h : WritesSection es "template" s chosen) :
    Document.template? .ignored (tableOf es.members) = some (s.restrictedTo chosen).template := by
  have hpath : (es.lookup "path").map Datum.tree =
      if chosen .templatePath then s.template.path.map .text else none := h .templatePath rfl
  have hread : orElse none (·.optional? Tree.text?)
      (if chosen .templatePath then s.template.path.map .text else none) =
        some (s.restrictedTo chosen).template.path := by
    rw [restrictedTo]
    cases chosen .templatePath with
    | false => rfl
    | true => cases s.template.path <;> rfl
  rw [Document.template?, fields?_members hes]
  simp only [List.map_cons, List.map_nil, hpath, hread, Option.bind_eq_bind, Option.bind_some]
  rfl

end Reading

section Page

variable {p : Page} {s : Settings} {chosen : Field → Bool}

theorem keys_pairsIn_nodup (p : Page) (name : String) : (pairsIn p name).keys.Nodup := by
  rw [pairsIn]
  cases hes : p.sections.lookup name with
  | none => exact List.nodup_nil
  | some es =>
    obtain ⟨before, after, hsections, -⟩ := List.lookup_eq_some_iff.1 hes
    exact p.keys_nodup (name, es) (by simp [hsections])

/-- A section is read as its pairs; an absent one is read as an empty one. -/
theorem orElse_section (h : Writes p s chosen) {α : Type} (read : Tree → Option α) {absent a : α}
    (hempty : read (tableOf []) = some absent) {name : String}
    (hname : name ∈ Document.sectionNames)
    (hread : read (tableOf (pairsIn p name).members) = some a) :
    orElse absent read (p.members.lookup name) = some a := by
  have hloose : p.loose.members.lookup name = none := by
    rw [Pairs.lookup_members, lookup_eq_none fun hmem => h.loose name hmem hname, Option.map_none]
  rw [Page.members, List.lookup_append, hloose, Option.none_or,
    lookup_map (fun es : Pairs => tableOf es.members)]
  rw [pairsIn] at hread
  cases hes : p.sections.lookup name with
  | none =>
    rw [hes] at hread
    exact hempty.symm.trans hread
  | some es =>
    rw [hes] at hread
    exact hread

theorem ofTree?_page (h : Writes p s chosen) :
    Document.ofTree? .ignored (tableOf p.members) = some (s.restrictedTo chosen) := by
  have hkeys : (p.members.map Prod.fst).Nodup := by
    have hnames := p.names_nodup
    simpa [Page.members, Pairs.members, Pairs.keys, Function.comp_def] using hnames
  have hsection (name : String) : WritesSection (pairsIn p name) name s chosen := by
    rintro f rfl
    exact h.fields f
  have hapi := orElse_section h (Document.api? .ignored) rfl (by decide)
    (api?_members (keys_pairsIn_nodup p "github") (hsection "github"))
  have hpin := orElse_section h (Document.pin? .ignored) rfl (by decide)
    (pin?_members (keys_pairsIn_nodup p "lockfile") (hsection "lockfile"))
  have hchanges := orElse_section h (Document.changes? .ignored) rfl (by decide)
    (changes?_members (keys_pairsIn_nodup p "changelog") (hsection "changelog"))
  have hruntimes := orElse_section h (Document.runtimes? .ignored) rfl (by decide)
    (runtimes?_members (keys_pairsIn_nodup p "runtimes") (hsection "runtimes"))
  have htemplate := orElse_section h (Document.template? .ignored) rfl (by decide)
    (template?_members (keys_pairsIn_nodup p "template") (hsection "template"))
  rw [Document.ofTree?, Document.sectionNames, fields?_tableOf hkeys]
  simp only [List.map_cons, List.map_nil, hapi, hpin, hchanges, hruntimes, htemplate,
    Option.bind_eq_bind, Option.bind_some]
  rfl

/-- In a section without pairs every field has its default. -/
theorem tree_restrictedTo_of_empty (h : Writes p s chosen) {f : Field}
    (hempty : pairsIn p f.sectionName = []) : f.tree (s.restrictedTo chosen) = f.tree {} := by
  have hfield := h.fields f
  rw [hempty, List.lookup_nil, Option.map_none] at hfield
  rw [Field.tree_restrictedTo]
  cases hchosen : chosen f with
  | false => rfl
  | true =>
    rw [hchosen, if_pos rfl] at hfield
    rw [if_pos rfl, ← hfield, Field.tree_default hfield.symm]

/-- A file that writes some fields of settings is loaded as these fields with the defaults of the
others. So a file with all fields is loaded as the settings that it writes, and absent sections,
empty sections and the empty file as the defaults. -/
theorem loadFrom_page {w : Session.World} {path : String}
    (hfile : w.readFile path = .ok (Bytes.Utf8.encodeString p.text)) (h : Writes p s chosen) :
    (Loader.loadFrom path).run w = ⟨[], .ok (s.restrictedTo chosen)⟩ ∧
      ((∀ f, chosen f = true) → s.restrictedTo chosen = s) ∧
      (∀ f : Field, pairsIn p f.sectionName = [] → f.tree (s.restrictedTo chosen) = f.tree {}) ∧
      ((∀ f : Field, pairsIn p f.sectionName = []) → s.restrictedTo chosen = {}) := by
  have htext : textIn w path = .ok p.text := by
    rw [textIn, hfile, FileTree.textOf]
    simp only [Bytes.Utf8.decodeString_encodeString]
  have hread : Loader.ofToml? p.text = some (s.restrictedTo chosen) := by
    rw [Loader.ofToml?, p.parse_text, Option.bind_some, ofTree?_page h]
  refine ⟨?_, restrictedTo_of_forall, fun f => tree_restrictedTo_of_empty h, fun hempty => ?_⟩
  · rw [run_loadFrom, settingsAt, htext]
    simp only [hread]
  · exact Field.eq_of_tree fun f => tree_restrictedTo_of_empty h (hempty f)

end Page

/-- A page with unknown keys and sections, and with known sections in an order of its own. -/
def looselyKept : Page where
  loose := [("title", .text "a \"quoted\" \\ title")]
  sections :=
    [("my plugins", [("color", .text "blue")]),
     ("runtimes", [("names", .texts ["hertel", "line\nfeed"])]),
     ("template", []),
     ("changelog",
      [("since", .text ""), ("companion_pattern", .text "twin"), ("enabled", .boolean true)]),
     ("github", [("timeout_secs", .number 90 (by decide))])]
  names_nodup := by decide
  keys_nodup := by decide

/-- Settings of which that page writes four fields. -/
def keptSettings : Settings where
  api := { timeout := 90 }
  pin := { path := "other.lock" }
  changes := { enabled := true, companionPattern := "twin" }
  runtimes := { names := ["hertel", "line\nfeed"] }

def isKept (f : Field) : Bool :=
  [.apiTimeout, .companionPattern, .changesEnabled, .runtimeNames].contains f

/-- A world in which every file has the given text. -/
def holding (text : String) : Session.World where
  readFile _ := .ok (Bytes.Utf8.encodeString text)
  fileExists _ := true
  contact _ := .unreachable

theorem writes_looselyKept : Writes looselyKept keptSettings isKept where
  loose := by decide
  fields f := by cases f <;> rfl

/-- The field that the page does not write has its default. -/
theorem loadFrom_looselyKept :
    Writes looselyKept keptSettings isKept ∧ keptSettings.pin.path = "other.lock" ∧
      (Loader.loadFrom "relnotes.toml").run (holding looselyKept.text) =
        ⟨[], .ok (keptSettings.restrictedTo isKept)⟩ ∧
      (keptSettings.restrictedTo isKept).pin.path = "Cargo.lock" :=
  ⟨writes_looselyKept, rfl, (loadFrom_page rfl writes_looselyKept).1, rfl⟩

end Settings

end ReleaseBulletin
