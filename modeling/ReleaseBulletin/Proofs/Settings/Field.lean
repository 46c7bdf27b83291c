import ReleaseBulletin.Proofs.Toml.Page
import ReleaseBulletin.Settings.Document

/-!
The fields of the settings, and pages that write some of them.
-/
namespace ReleaseBulletin.Settings
open ReleaseBulletin.Document Toml

attribute [ext] Api Pin Changes Runtimes Template Settings

inductive Field where
  | apiUrl
  | apiTimeout
  | pinPath
  | pinPackage
  | changesEnabled
  | pairedRepository
  | companionPattern
  | releaseNotesLabel
  | clientLabel
  | runtimeLabel
  | checkoutDir
  | runtimeNames
  | templatePath
  deriving DecidableEq, Repr

namespace Field

/-- The section that a field stands in. -/
def sectionName : Field → String
  | .apiUrl | .apiTimeout => "github"
  | .pinPath | .pinPackage => "lockfile"
  | .changesEnabled | .pairedRepository | .companionPattern | .releaseNotesLabel | .clientLabel
  | .runtimeLabel => "changelog"
  | .checkoutDir | .runtimeNames => "runtimes"
  | .templatePath => "template"

def key : Field → String
  | .apiUrl => "api_url"
  | .apiTimeout => "timeout_secs"
  | .pinPath => "path"
  | .pinPackage => "package"
  | .changesEnabled => "enabled"
  | .pairedRepository => "paired_repository"
  | .companionPattern => "companion_pattern"
  | .releaseNotesLabel => "release_notes_label"
  | .clientLabel => "client_label"
  | .runtimeLabel => "runtime_label"
  | .checkoutDir => "checkout_dir"
  | .runtimeNames => "names"
  | .templatePath => "path"

/-- What is written for a field. Without a template of its own there is nothing to write. -/
def tree (s : Settings) : Field → Option Tree
  | .apiUrl => some (.text s.api.url)
  | .apiTimeout => some (.integer s.api.timeout)
  | .pinPath => some (.text s.pin.path)
  | .pinPackage => some (.text s.pin.package)
  | .changesEnabled => some (.boolean s.changes.enabled)
  | .pairedRepository => some (.text s.changes.pairedRepository)
  | .companionPattern => some (.text s.changes.companionPattern)
  | .releaseNotesLabel => some (.text s.changes.releaseNotesLabel)
  | .clientLabel => some (.text s.changes.clientLabel)
  | .runtimeLabel => some (.text s.changes.runtimeLabel)
  | .checkoutDir => some (.text s.runtimes.checkoutDir)
  | .runtimeNames => some (.list (s.runtimes.names.map .text))
  | .templatePath => s.template.path.map .text

/-- Settings are determined by what is written for their fields. -/
theorem eq_of_tree {s t : Settings} (h : ∀ f : Field, f.tree s = f.tree t) : s = t := by
  have hinj : Function.Injective Tree.text := fun _ _ => Tree.text.inj
  have htext {a b : String} (he : some (Tree.text a) = some (.text b)) : a = b :=
    hinj (Option.some.inj he)
  have htimeout : s.api.timeout = t.api.timeout :=
    Int.ofNat.inj (Tree.integer.inj (Option.some.inj (h .apiTimeout)))
  have henabled : s.changes.enabled = t.changes.enabled :=
    Tree.boolean.inj (Option.some.inj (h .changesEnabled))
  have hnames : s.runtimes.names = t.runtimes.names :=
    (List.map_inj_right fun _ _ => Tree.text.inj).1
      (Tree.list.inj (Option.some.inj (h .runtimeNames)))
  have hpath : s.template.path = t.template.path := Option.map_injective hinj (h .templatePath)
  exact Settings.ext (Api.ext (htext (h .apiUrl)) htimeout)
    (Pin.ext (htext (h .pinPath)) (htext (h .pinPackage)))
    (Changes.ext henabled (htext (h .pairedRepository)) (htext (h .companionPattern))
      (htext (h .releaseNotesLabel)) (htext (h .clientLabel)) (htext (h .runtimeLabel)))
    (Runtimes.ext (htext (h .checkoutDir)) hnames) (Template.ext hpath)

/-- Only a field that has nothing to write by default has nothing to write at all. -/
theorem tree_default {f : Field} {s : Settings} (h : f.tree s = none) : f.tree {} = none := by
  cases f with
  | templatePath => rfl
  | _ => cases h

end Field

/-- The settings with the values of some fields only, and the defaults of the others. -/
def restrictedTo (s : Settings) (chosen : Field → Bool) : Settings where
  api :=
    { url := if chosen .apiUrl then s.api.url else ({} : Api).url
      timeout := if chosen .apiTimeout then s.api.timeout else ({} : Api).timeout }
  pin :=
    { path := if chosen .pinPath then s.pin.path else ({} : Pin).path
      package := if chosen .pinPackage then s.pin.package else ({} : Pin).package }
  changes :=
    { enabled := if chosen .changesEnabled then s.changes.enabled else ({} : Changes).enabled
      pairedRepository :=
        if chosen .pairedRepository then s.changes.pairedRepository
        else ({} : Changes).pairedRepository
      companionPattern :=
        if chosen .companionPattern then s.changes.companionPattern
        else ({} : Changes).companionPattern
      releaseNotesLabel :=
        if chosen .releaseNotesLabel then s.changes.releaseNotesLabel
        else ({} : Changes).releaseNotesLabel
      clientLabel :=
        if chosen .clientLabel then s.changes.clientLabel else ({} : Changes).clientLabel
      runtimeLabel :=
        if chosen .runtimeLabel then s.changes.runtimeLabel else ({} : Changes).runtimeLabel }
  runtimes :=
    { checkoutDir :=
        if chosen .checkoutDir then s.runtimes.checkoutDir else ({} : Runtimes).checkoutDir
      names := if chosen .runtimeNames then s.runtimes.names else ({} : Runtimes).names }
  template :=
    { path := if chosen .templatePath then s.template.path else ({} : Template).path }

section Restricted

variable {s : Settings} {chosen : Field → Bool}

theorem restrictedTo_of_forall (h : ∀ f, chosen f = true) : s.restrictedTo chosen = s := by
  simp [restrictedTo, h]

theorem Field.tree_restrictedTo (f : Field) :
    f.tree (s.restrictedTo chosen) = if chosen f then f.tree s else f.tree {} := by
  cases f <;> (rw [restrictedTo]; simp only [Field.tree]; split <;> rfl)

end Restricted

/-- The pairs of a section, none if it is absent. -/
def pairsIn (p : Page) (name : String) : Pairs := (p.sections.lookup name).getD []

/-- Pairs write the chosen fields of a section and no others. -/
def WritesSection (es : Pairs) (name : String) (s : Settings) (chosen : Field → Bool) : Prop :=
  ∀ f : Field, f.sectionName = name →
    (es.lookup f.key).map Datum.tree = if chosen f then f.tree s else none

/-- A page writes the chosen fields of settings and no others. Unknown keys and unknown sections may
stand anywhere. -/
structure Writes (p : Page) (s : Settings) (chosen : Field → Bool) : Prop where
  loose : ∀ k ∈ p.loose.keys, k ∉ Document.sectionNames
  fields : ∀ f : Field, ((pairsIn p f.sectionName).lookup f.key).map Datum.tree =
    if chosen f then f.tree s else none

section Existence

/-- The fields in the order of their sections. -/
def Field.all : List Field :=
  [.apiUrl, .apiTimeout, .pinPath, .pinPackage, .changesEnabled, .pairedRepository,
   .companionPattern, .releaseNotesLabel, .clientLabel, .runtimeLabel, .checkoutDir, .runtimeNames,
   .templatePath]

theorem Field.mem_all (f : Field) : f ∈ all := by cases f <;> decide

theorem Field.all_pairwise :
    all.Pairwise fun f g => f.sectionName = g.sectionName → f.key ≠ g.key := by decide

/-- What is written for a field can stand on one line. -/
theorem Field.exists_data {s : Settings} (hs : s.api.timeout < Width.count 63) :
    ∃ data : Field → Option Datum, ∀ f : Field, (data f).map Datum.tree = f.tree s := by
  have hone (f : Field) : ∃ d : Option Datum, d.map Datum.tree = f.tree s := by
    cases f with
    | apiTimeout => exact ⟨some (.number s.api.timeout hs), rfl⟩
    | changesEnabled => exact ⟨some (.boolean s.changes.enabled), rfl⟩
    | runtimeNames => exact ⟨some (.texts s.runtimes.names), rfl⟩
    | templatePath => exact ⟨s.template.path.map .text, Option.map_map ..⟩
    | _ => exact ⟨some (.text _), rfl⟩
  exact Classical.skolem.1 hone

def pairsOf (data : Field → Option Datum) (fs : List Field) : Pairs :=
  fs.filterMap fun f => (data f).map fun d => (f.key, d)

section PairsOf

variable {data : Field → Option Datum} {fs : List Field}

theorem pairsOf_cons_none {f : Field} (hf : data f = none) :
    pairsOf data (f :: fs) = pairsOf data fs :=
  List.filterMap_cons_none (by rw [hf, Option.map_none])

theorem pairsOf_cons_some {f : Field} {d : Datum} (hf : data f = some d) :
    pairsOf data (f :: fs) = (f.key, d) :: pairsOf data fs :=
  List.filterMap_cons_some (by rw [hf, Option.map_some])

theorem key_not_mem_pairsOf {f : Field} (h : ∀ g ∈ fs, f.key ≠ g.key) :
    f.key ∉ (pairsOf data fs).keys := by
  intro hmem
  simp only [Pairs.keys, pairsOf, List.mem_map, List.mem_filterMap, Option.map_eq_some_iff] at hmem
  obtain ⟨e, ⟨g, hg, d, -, rfl⟩, hkey⟩ := hmem
  exact h g hg hkey.symm

variable (hfs : fs.Pairwise fun f g => f.key ≠ g.key)
include hfs

theorem keys_pairsOf_nodup : (pairsOf data fs).keys.Nodup := by
  induction fs with
  | nil => exact List.nodup_nil
  | cons f fs ih =>
    obtain ⟨hnew, hrest⟩ := List.pairwise_cons.1 hfs
    cases hf : data f with
    | none =>
      rw [pairsOf_cons_none hf]
      exact ih hrest
    | some d =>
      rw [pairsOf_cons_some hf]
      exact List.nodup_cons.2 ⟨key_not_mem_pairsOf hnew, ih hrest⟩

theorem lookup_pairsOf {f : Field} (hf : f ∈ fs) : (pairsOf data fs).lookup f.key = data f := by
  induction fs with
  | nil => cases hf
  | cons g fs ih =>
    obtain ⟨hnew, hrest⟩ := List.pairwise_cons.1 hfs
    rcases List.mem_cons.1 hf with rfl | hf
    · cases hdata : data f with
      | none => rw [pairsOf_cons_none hdata, lookup_eq_none (key_not_mem_pairsOf hnew)]
      | some d => rw [pairsOf_cons_some hdata, List.lookup_cons_self]
    · cases hdata : data g with
      | none => rw [pairsOf_cons_none hdata, ih hrest hf]
      | some d =>
        have hne : (f.key == g.key) = false := beq_eq_false_iff_ne.2 (hnew f hf).symm
        rw [pairsOf_cons_some hdata, List.lookup_cons, hne, ih hrest hf]

end PairsOf

def Field.allIn (name : String) : List Field := all.filter (·.sectionName = name)

theorem Field.allIn_pairwise (name : String) : (allIn name).Pairwise fun f g => f.key ≠ g.key := by
  refine (List.Pairwise.filter _ all_pairwise).imp_of_mem fun hf hg hne => hne ?_
  rw [allIn, List.mem_filter] at hf hg
  exact (of_decide_eq_true hf.2).trans (of_decide_eq_true hg.2).symm

/-- The page with all sections and in them the fields that have something to write. -/
def pageOf (data : Field → Option Datum) : Page where
  loose := []
  sections := Document.sectionNames.map fun name => (name, pairsOf data (Field.allIn name))
  names_nodup := by simp [Pairs.keys, Document.sectionNames]
  keys_nodup := by
    intro s hs
    obtain ⟨name, -, rfl⟩ := List.mem_map.1 hs
    exact keys_pairsOf_nodup (Field.allIn_pairwise name)

theorem lookup_pageOf (data : Field → Option Datum) (f : Field) :
    (pairsIn (pageOf data) f.sectionName).lookup f.key = data f := by
  have hsection : pairsIn (pageOf data) f.sectionName =
      pairsOf data (Field.allIn f.sectionName) := by
    cases f <;> rfl
  have hf : f ∈ Field.allIn f.sectionName :=
    List.mem_filter.2 ⟨f.mem_all, decide_eq_true rfl⟩
  rw [hsection, lookup_pairsOf (Field.allIn_pairwise f.sectionName) hf]

/-- Whichever fields are chosen, there is a page that writes them. -/
theorem exists_writes {s : Settings} (hs : s.api.timeout < Width.count 63)
    (chosen : Field → Bool) : ∃ p, Writes p s chosen := by
  obtain ⟨data, hdata⟩ := Field.exists_data hs
  refine ⟨pageOf fun f => if chosen f then data f else none,
    fun k hk => absurd hk List.not_mem_nil, fun f => ?_⟩
  rw [lookup_pageOf, ← hdata]
  cases chosen f <;> rfl

end Existence

end ReleaseBulletin.Settings
