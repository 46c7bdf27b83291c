import Mathlib.Data.List.Forall2
import ReleaseBulletin.Command.Run
import ReleaseBulletin.Proofs.Session.Run

/-!
What a run reads from files before it asks the forge for anything, as functions of the files alone.
-/
namespace ReleaseBulletin
open ChainRuntime Command Session

section Readings

variable (w : World)

/-- The text of a file, or the failure to read it. -/
def textIn (path : String) : Except Failure String :=
  match FileTree.textOf (w.readFile path) with
  | .ok s => .ok s
  | .error fault => .error (.file path fault)

def settingsAt (path : String) : Except Failure Settings :=
  match textIn w path with
  | .error e => .error e
  | .ok s =>
    match Settings.Loader.ofToml? s with
    | some settings => .ok settings
    | none => .error (.invalidSettings path)

/-- The settings that the options point to. -/
def settingsIn (o : Arguments.Options) (vars : Environment.Variables) : Except Failure Settings :=
  match o.config, Run.home? vars with
  | some path, _ => settingsAt w path
  | none, none => .error .unknownHome
  | none, some home =>
    if w.fileExists (Settings.Loader.defaultPath home) then
      settingsAt w (Settings.Loader.defaultPath home)
    else .ok {}

/-- The template at a path, or the standard one. -/
def templateIn (path : Option String) : Except Failure Note.Renderer :=
  match path with
  | none => Note.Renderer.ofTemplate Note.Standard.template
  | some path =>
    match textIn w path with
    | .error e => .error e
    | .ok s => Note.Renderer.ofTemplate s

def specVersionIn (path : String) : Except Failure Nat :=
  match textIn w path with
  | .error e => .error e
  | .ok s =>
    match SpecVersion.ofSource? s with
    | some v => .ok v
    | none => .error (.noSpecVersion path)

def reportIn (path : String) : Except Failure Json.Value :=
  match textIn w path with
  | .error e => .error e
  | .ok s =>
    match Json.Reader.valueOf? s with
    | none => .error (.invalidReport path)
    | some v => if v.isObject then .ok v else .error (.reportNotObject path)

theorem run_readText (path : String) : (readText path).run w = ⟨[], textIn w path⟩ := by
  rw [readText, Session.run, textIn]
  cases FileTree.textOf (w.readFile path) <;> rfl

theorem run_readText_bind {α : Type} (path : String) (f : String → Session α) :
    (readText path >>= f).run w =
      match textIn w path with
      | .error e => ⟨[], .error e⟩
      | .ok s => (f s).run w := by
  change ((readText path).bind f).run w = _
  rw [run_bind, run_readText, Outcome.bind]
  cases textIn w path <;> rfl

theorem run_loadFrom (path : String) :
    (Settings.Loader.loadFrom path).run w = ⟨[], settingsAt w path⟩ := by
  rw [Settings.Loader.loadFrom, run_readText_bind, settingsAt]
  cases textIn w path with
  | error e => rfl
  | ok s => cases h : Settings.Loader.ofToml? s <;> simp [h]

theorem run_readSpecVersion (path : String) :
    (Artifact.readSpecVersion path).run w = ⟨[], specVersionIn w path⟩ := by
  rw [Artifact.readSpecVersion, run_readText_bind, specVersionIn]
  cases textIn w path with
  | error e => rfl
  | ok s => cases h : SpecVersion.ofSource? s <;> simp [h]

theorem run_readReport (path : String) :
    (Artifact.readReport path).run w = ⟨[], reportIn w path⟩ := by
  rw [Artifact.readReport, run_readText_bind, reportIn]
  cases textIn w path with
  | error e => rfl
  | ok s =>
    cases h : Json.Reader.valueOf? s with
    | none => simp [h]
    | some v => cases hv : v.isObject <;> simp [h, hv]

theorem result_loadTemplate (path : Option String) :
    ((Note.Renderer.load path).run w).result = templateIn w path := by
  cases path with
  | none => rw [Note.Renderer.load, run_ofResult, templateIn]
  | some path =>
    rw [Note.Renderer.load, run_readText_bind, templateIn]
    cases textIn w path <;> rfl

theorem requests_loadTemplate (path : Option String) :
    ((Note.Renderer.load path).run w).requests = [] := by
  cases path with
  | none => rw [Note.Renderer.load, run_ofResult, requests_nil]
  | some path =>
    rw [Note.Renderer.load, run_readText_bind]
    cases textIn w path <;> rfl

theorem fileSettings_run (o : Arguments.Options) (vars : Environment.Variables) :
    ((Run.fileSettings o vars).run w).result = settingsIn w o vars ∧
      ((Run.fileSettings o vars).run w).requests = [] := by
  rw [Run.fileSettings, settingsIn]
  cases o.config with
  | some path =>
    rw [run_loadFrom]
    exact ⟨rfl, rfl⟩
  | none =>
    cases Run.home? vars with
    | none => exact ⟨rfl, rfl⟩
    | some home =>
      have hload : (Settings.Loader.load (some home)).run w =
          (if w.fileExists (Settings.Loader.defaultPath home) then
            Settings.Loader.loadFrom (Settings.Loader.defaultPath home)
          else do
            notify .debug .settings
            return {}).run w := rfl
      simp only [hload]
      split
      · rw [run_loadFrom]
        exact ⟨rfl, rfl⟩
      · exact ⟨rfl, rfl⟩

end Readings

section Artifacts

variable (w : World) (workspace checkout : String)

/-- The artifact of a runtime. Its source is read before its report. -/
def artifactIn (name : String) : Except Failure Artifact :=
  match specVersionIn w (Artifact.sourcePath checkout name),
    reportIn w (Artifact.reportPath workspace name) with
  | .error e, _ => .error e
  | .ok _, .error e => .error e
  | .ok v, .ok r => .ok ⟨name, v, r⟩

theorem load_run (name : String) :
    ((Artifact.load workspace checkout name).run w).result = artifactIn w workspace checkout name ∧
      ((Artifact.load workspace checkout name).run w).requests = [] := by
  rw [Artifact.load, artifactIn]
  simp only [result_bind, requests_bind, run_readSpecVersion, run_readReport, requests_nil]
  cases specVersionIn w (Artifact.sourcePath checkout name) with
  | error e => exact ⟨rfl, rfl⟩
  | ok v => cases reportIn w (Artifact.reportPath workspace name) <;> exact ⟨rfl, rfl⟩

theorem loaded_or_failed (names : List String) :
    (∃ artifacts,
      List.Forall₂ (fun name a => artifactIn w workspace checkout name = .ok a) names artifacts) ∨
    ∃ before name after artifacts e, names = before ++ name :: after ∧
      List.Forall₂ (fun name a => artifactIn w workspace checkout name = .ok a) before artifacts ∧
      artifactIn w workspace checkout name = .error e := by
  induction names with
  | nil => exact .inl ⟨[], .nil⟩
  | cons name names ih =>
    cases ha : artifactIn w workspace checkout name with
    | error e => exact .inr ⟨[], name, names, [], e, rfl, .nil, ha⟩
    | ok a =>
      rcases ih with ⟨artifacts, h⟩ | ⟨before, failed, after, artifacts, e, rfl, h, he⟩
      · exact .inl ⟨a :: artifacts, .cons ha h⟩
      · exact .inr ⟨name :: before, failed, after, a :: artifacts, e, rfl, .cons ha h, he⟩

variable {w workspace checkout}

theorem loadEach_of_loaded {names : List String} {artifacts : List Artifact}
    (h : List.Forall₂ (fun name a => artifactIn w workspace checkout name = .ok a) names
      artifacts) :
    ((Artifact.loadEach workspace checkout names).run w).result = .ok artifacts ∧
      ((Artifact.loadEach workspace checkout names).run w).requests = [] := by
  induction h with
  | nil => exact ⟨rfl, rfl⟩
  | @cons name a names artifacts ha _ ih =>
    obtain ⟨hres, hreqs⟩ := load_run w workspace checkout name
    rw [Artifact.loadEach]
    simp [hres, hreqs, ha, ih.1, ih.2]

/-- The first runtime that cannot be loaded tells the failure. -/
theorem loadEach_of_failed {before : List String} (after : List String) {name : String}
    {artifacts : List Artifact} {e : Failure}
    (h : List.Forall₂ (fun name a => artifactIn w workspace checkout name = .ok a) before artifacts)
    (he : artifactIn w workspace checkout name = .error e) :
    ((Artifact.loadEach workspace checkout (before ++ name :: after)).run w).result = .error e ∧
      ((Artifact.loadEach workspace checkout (before ++ name :: after)).run w).requests = [] := by
  induction h with
  | nil =>
    obtain ⟨hres, hreqs⟩ := load_run w workspace checkout name
    rw [List.nil_append, Artifact.loadEach]
    simp [hres, hreqs, he]
  | @cons first a before artifacts ha _ ih =>
    obtain ⟨hres, hreqs⟩ := load_run w workspace checkout first
    rw [List.cons_append, Artifact.loadEach]
    simp [hres, hreqs, ha, ih.1, ih.2]

end Artifacts

end ReleaseBulletin
