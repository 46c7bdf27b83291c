import ReleaseBulletin.Proofs.Http.Fetch
import ReleaseBulletin.Proofs.Release.Preparation

/-!
The stages of a run. A run ends at the first stage that fails, asks the forge for nothing before all
that can be told from files, and prints a text only if no stage fails.
-/
namespace ReleaseBulletin.Command.Run
open Arguments ChainRuntime Environment Release Session

/-- The stages at which a run can fail, in order. -/
inductive Stage where
  | environment
  | settings
  | template
  | client
  | source (runtime : String)
  | report (runtime : String)
  | changes
  | rendering
  deriving DecidableEq, Repr

/-- What a run has before its first runtime. -/
structure Setup where
  build : Build
  settings : Settings
  renderer : Note.Renderer
  client : Forge.Client

def Setup.checkout (x : Setup) : String :=
  Artifact.checkoutPath x.build.workspace x.settings.runtimes

/-- The artifacts of some runtimes. -/
def Setup.Loads (w : World) (x : Setup) (names : List String) (artifacts : List Artifact) : Prop :=
  List.Forall₂ (fun name a => artifactIn w x.build.workspace x.checkout name = .ok a) names
    artifacts

def Setup.collected (w : World) (x : Setup) : Outcome Collection.Summary :=
  (Collection.collect x.client x.build x.settings).run w

/-- The note with the given artifacts; the changes are in it if they are wanted. -/
inductive Setup.Notes (w : World) (x : Setup) (artifacts : List Artifact) : Note → Prop
  | plain (unwanted : x.settings.changes.enabled = false) :
      Notes w x artifacts (Bulletin.plainNote x.build artifacts)
  | withChanges {summary : Collection.Summary} (wanted : x.settings.changes.enabled = true)
      (collected : (x.collected w).result = .ok summary) :
      Notes w x artifacts (Bulletin.withSummary (Bulletin.plainNote x.build artifacts) summary)

section

variable (w : World) (o : Options) (vars : Variables)

/-- A setup that a run comes to. -/
structure IsSetup (x : Setup) : Prop where
  environment : build vars = .ok x.build
  settings : ∃ file, settingsIn w o vars = .ok file ∧ x.settings = withOptions file o
  template : templateIn w x.settings.template.path = .ok x.renderer
  client : Forge.Client.connect x.settings.api.url x.build.token = .ok x.client

structure IsPrepared (x : Setup) (artifacts : List Artifact) : Prop where
  setup : IsSetup w o vars x
  artifacts : x.Loads w x.settings.runtimes.names artifacts

/-- The first stage of a run that fails. What later stages would do is left open. -/
inductive FirstFailure : Stage → Failure → Prop
  | environment {names : List String}
      (unset : names = requiredNames.filter fun n => vars n = none ∨ vars n = some "")
      (nonempty : names ≠ []) : FirstFailure .environment (.missingVariables names)
  | settings {b : Build} {e : Failure} (environment : build vars = .ok b)
      (failed : settingsIn w o vars = .error e) : FirstFailure .settings e
  | template {b : Build} {file : Settings} {e : Failure} (environment : build vars = .ok b)
      (settings : settingsIn w o vars = .ok file)
      (failed : templateIn w (withOptions file o).template.path = .error e) :
      FirstFailure .template e
  | client {b : Build} {file : Settings} {renderer : Note.Renderer} {e : Failure}
      (environment : build vars = .ok b) (settings : settingsIn w o vars = .ok file)
      (template : templateIn w (withOptions file o).template.path = .ok renderer)
      (failed : Forge.Client.connect (withOptions file o).api.url b.token = .error e) :
      FirstFailure .client e
  | source {x : Setup} {before after : List String} {name : String} {artifacts : List Artifact}
      {e : Failure} (setup : IsSetup w o vars x)
      (names : x.settings.runtimes.names = before ++ name :: after)
      (loaded : x.Loads w before artifacts)
      (failed : specVersionIn w (Artifact.sourcePath x.checkout name) = .error e) :
      FirstFailure (.source name) e
  | report {x : Setup} {before after : List String} {name : String} {artifacts : List Artifact}
      {version : Nat} {e : Failure} (setup : IsSetup w o vars x)
      (names : x.settings.runtimes.names = before ++ name :: after)
      (loaded : x.Loads w before artifacts)
      (source : specVersionIn w (Artifact.sourcePath x.checkout name) = .ok version)
      (failed : reportIn w (Artifact.reportPath x.build.workspace name) = .error e) :
      FirstFailure (.report name) e
  | changes {x : Setup} {artifacts : List Artifact} {e : Failure}
      (prepared : IsPrepared w o vars x artifacts) (wanted : x.settings.changes.enabled = true)
      (failed : (x.collected w).result = .error e) : FirstFailure .changes e
  | rendering {x : Setup} {artifacts : List Artifact} {note : Note} {e : Failure}
      (prepared : IsPrepared w o vars x artifacts) (notes : x.Notes w artifacts note)
      (failed : x.renderer.render note = .error e) : FirstFailure .rendering e

/-- A run in which no stage fails, with the text it renders. -/
inductive Renders : String → Prop
  | intro {x : Setup} {artifacts : List Artifact} {note : Note} {text : String}
      (prepared : IsPrepared w o vars x artifacts) (notes : x.Notes w artifacts note)
      (rendered : x.renderer.render note = .ok text) : Renders text

end

theorem missing_eq (vars : Variables) :
    missing vars = requiredNames.filter fun n => vars n = none ∨ vars n = some "" := by
  rw [missing]
  refine List.filter_congr fun n _ => ?_
  rw [value?]
  cases vars n with
  | none => rfl
  | some s => by_cases hs : s = "" <;> simp [hs]

variable {w : World} {o : Options} {vars : Variables}

theorem result_announce : ((announce).run w).result = .ok () := rfl

theorem requests_announce : ((announce).run w).requests = [] := rfl

theorem release_of_build_error {e : Failure} (h : build vars = .error e) :
    ((release o vars).run w).result = .error e ∧ ((release o vars).run w).requests = [] := by
  rw [release]
  cases mode vars <;>
    simp [h, result_announce, requests_announce]

theorem release_of_settings_error {b : Build} {e : Failure} (hb : build vars = .ok b)
    (hs : settingsIn w o vars = .error e) :
    ((release o vars).run w).result = .error e ∧ ((release o vars).run w).requests = [] := by
  obtain ⟨hres, hreqs⟩ := fileSettings_run w o vars
  rw [release]
  cases mode vars <;>
    simp [hb, hres, hreqs, hs, result_announce, requests_announce]

theorem release_of_settings {b : Build} {file : Settings} (hb : build vars = .ok b)
    (hs : settingsIn w o vars = .ok file) :
    ((release o vars).run w).result =
        ((Bulletin.generate b (withOptions file o)).run w).result ∧
      ((release o vars).run w).requests =
        ((Bulletin.generate b (withOptions file o)).run w).requests := by
  obtain ⟨hres, hreqs⟩ := fileSettings_run w o vars
  rw [release]
  cases mode vars <;>
    simp [hb, hres, hreqs, hs, result_announce, requests_announce]

theorem generate_of_template_error {b : Build} {s : Settings} {e : Failure}
    (h : templateIn w s.template.path = .error e) :
    ((Bulletin.generate b s).run w).result = .error e ∧
      ((Bulletin.generate b s).run w).requests = [] := by
  simp [Bulletin.generate, result_loadTemplate, requests_loadTemplate, h]

theorem generate_of_client_error {b : Build} {s : Settings} {renderer : Note.Renderer} {e : Failure}
    (ht : templateIn w s.template.path = .ok renderer)
    (hc : Forge.Client.connect s.api.url b.token = .error e) :
    ((Bulletin.generate b s).run w).result = .error e ∧
      ((Bulletin.generate b s).run w).requests = [] := by
  simp [Bulletin.generate, result_loadTemplate, requests_loadTemplate, ht, hc]

/-- What a setup makes is composed and then rendered. -/
theorem release_of_setup {x : Setup} (hx : IsSetup w o vars x) :
    let composed := (Bulletin.compose x.client x.build x.settings).run w
    ((release o vars).run w).result = composed.result.bind x.renderer.render ∧
      ((release o vars).run w).requests = composed.requests := by
  intro composed
  obtain ⟨file, hs, hsettings⟩ := hx.settings
  obtain ⟨hres, hreqs⟩ := release_of_settings hx.environment hs
  rw [hres, hreqs, ← hsettings, Bulletin.generate]
  simp only [result_bind, requests_bind, result_loadTemplate, requests_loadTemplate, hx.template,
    hx.client, run_ofResult, requests_nil, result_notify, requests_notify, List.nil_append]
  cases hc : ((Bulletin.compose x.client x.build x.settings).run w).result with
  | error e => simp [composed, Except.bind]
  | ok made => cases hr : x.renderer.render made <;> simp [composed, hr, Except.bind]

theorem compose_of_failed {x : Setup} {before after : List String} {name : String}
    {artifacts : List Artifact} {e : Failure}
    (hn : x.settings.runtimes.names = before ++ name :: after)
    (h : x.Loads w before artifacts)
    (he : artifactIn w x.build.workspace x.checkout name = .error e) :
    ((Bulletin.compose x.client x.build x.settings).run w).result = .error e ∧
      ((Bulletin.compose x.client x.build x.settings).run w).requests = [] := by
  obtain ⟨hres, hreqs⟩ := loadEach_of_failed after h he
  rw [← hn] at hres hreqs
  rw [Bulletin.compose, Artifact.loadAll]
  rw [Setup.checkout] at hres hreqs
  simp [hres, hreqs]

theorem compose_of_loaded {x : Setup} {artifacts : List Artifact}
    (h : x.Loads w x.settings.runtimes.names artifacts) :
    let composed := (Bulletin.compose x.client x.build x.settings).run w
    (x.settings.changes.enabled = false →
      composed.result = .ok (Bulletin.plainNote x.build artifacts) ∧ composed.requests = []) ∧
    (x.settings.changes.enabled = true →
      composed.result =
          (x.collected w).result.map (Bulletin.withSummary (Bulletin.plainNote x.build artifacts)) ∧
        composed.requests = (x.collected w).requests) := by
  intro composed
  obtain ⟨hres, hreqs⟩ := loadEach_of_loaded h
  rw [Setup.checkout] at hres hreqs
  refine ⟨fun hoff => ?_, fun hon => ?_⟩
  · simp [composed, Bulletin.compose, Artifact.loadAll, hres, hreqs, hoff]
  · simp only [composed, Bulletin.compose, Artifact.loadAll, result_bind, requests_bind, hres,
      hreqs, result_notify, requests_notify, hon, if_true, List.nil_append, Setup.collected]
    rw [← result_bind, ← requests_bind, result_bind_pure, requests_bind_pure]
    exact ⟨rfl, rfl⟩

theorem compose_of_notes {x : Setup} {artifacts : List Artifact} {made : Note}
    (h : x.Loads w x.settings.runtimes.names artifacts) (hn : x.Notes w artifacts made) :
    ((Bulletin.compose x.client x.build x.settings).run w).result = .ok made := by
  obtain ⟨hoff, hon⟩ := compose_of_loaded h
  cases hn with
  | plain unwanted => exact (hoff unwanted).1
  | withChanges wanted collected =>
    rw [(hon wanted).1, collected]
    rfl

/-- The first failure is the failure of the run. -/
theorem result_of_firstFailure {stage : Stage} {e : Failure}
    (h : FirstFailure w o vars stage e) : ((release o vars).run w).result = .error e := by
  cases h with
  | environment unset nonempty =>
    refine (release_of_build_error ((build_eq_error_iff vars _).2 ?_)).1
    rw [missing_eq, ← unset]
    exact ⟨nonempty, rfl⟩
  | settings environment failed => exact (release_of_settings_error environment failed).1
  | template environment settings failed =>
    rw [(release_of_settings environment settings).1]
    exact (generate_of_template_error failed).1
  | client environment settings template failed =>
    rw [(release_of_settings environment settings).1]
    exact (generate_of_client_error template failed).1
  | source setup names loaded failed =>
    rw [(release_of_setup setup).1, (compose_of_failed names loaded (by rw [artifactIn, failed])).1]
    rfl
  | report setup names loaded source failed =>
    rw [(release_of_setup setup).1,
      (compose_of_failed names loaded (by rw [artifactIn, source, failed])).1]
    rfl
  | changes prepared wanted failed =>
    rw [(release_of_setup prepared.setup).1,
      ((compose_of_loaded prepared.artifacts).2 wanted).1, failed]
    rfl
  | rendering prepared notes failed =>
    rw [(release_of_setup prepared.setup).1, compose_of_notes prepared.artifacts notes]
    exact failed

theorem result_of_renders {text : String} (h : Renders w o vars text) :
    ((release o vars).run w).result = .ok text := by
  obtain ⟨prepared, notes, rendered⟩ := h
  rw [(release_of_setup prepared.setup).1, compose_of_notes prepared.artifacts notes]
  exact rendered

/-- A run comes to a setup, or fails before it without having asked the forge. -/
theorem setup_or_failure (w : World) (o : Options) (vars : Variables) :
    (∃ x, IsSetup w o vars x) ∨
      ∃ stage e, FirstFailure w o vars stage e ∧ ((release o vars).run w).requests = [] := by
  cases hb : build vars with
  | error e =>
    obtain ⟨hne, rfl⟩ := (build_eq_error_iff vars e).1 hb
    exact .inr ⟨.environment, _, .environment (missing_eq vars) hne, (release_of_build_error hb).2⟩
  | ok b =>
    cases hs : settingsIn w o vars with
    | error e => exact .inr ⟨.settings, e, .settings hb hs, (release_of_settings_error hb hs).2⟩
    | ok file =>
      have hrequests := (release_of_settings hb hs).2
      cases ht : templateIn w (withOptions file o).template.path with
      | error e =>
        refine .inr ⟨.template, e, .template hb hs ht, ?_⟩
        rw [hrequests]
        exact (generate_of_template_error ht).2
      | ok renderer =>
        cases hc : Forge.Client.connect (withOptions file o).api.url b.token with
        | error e =>
          refine .inr ⟨.client, e, .client hb hs ht hc, ?_⟩
          rw [hrequests]
          exact (generate_of_client_error ht hc).2
        | ok client =>
          exact .inl ⟨⟨b, withOptions file o, renderer, client⟩, hb, ⟨file, hs, rfl⟩, ht, hc⟩

/-- A run comes to all artifacts, or fails before that without having asked the forge. -/
theorem prepared_or_failure (w : World) (o : Options) (vars : Variables) :
    (∃ x artifacts, IsPrepared w o vars x artifacts) ∨
      ∃ stage e, FirstFailure w o vars stage e ∧ ((release o vars).run w).requests = [] := by
  rcases setup_or_failure w o vars with ⟨x, hx⟩ | hfailure
  · rcases loaded_or_failed w x.build.workspace x.checkout x.settings.runtimes.names with
      ⟨artifacts, h⟩ | ⟨before, name, after, artifacts, e, hn, h, he⟩
    · exact .inl ⟨x, artifacts, hx, h⟩
    · refine .inr ?_
      have hrequests : ((release o vars).run w).requests = [] := by
        rw [(release_of_setup hx).2]
        exact (compose_of_failed hn h he).2
      rw [artifactIn] at he
      cases hv : specVersionIn w (Artifact.sourcePath x.checkout name) with
      | error f => exact ⟨.source name, f, .source hx hn h hv, hrequests⟩
      | ok version =>
        cases hr : reportIn w (Artifact.reportPath x.build.workspace name) with
        | error f => exact ⟨.report name, f, .report hx hn h hv hr, hrequests⟩
        | ok report => simp [hv, hr] at he
  · exact .inr hfailure

theorem notes_or_failure {x : Setup} {artifacts : List Artifact}
    (h : IsPrepared w o vars x artifacts) :
    (∃ made, x.Notes w artifacts made) ∨ ∃ e, FirstFailure w o vars .changes e := by
  cases hon : x.settings.changes.enabled with
  | false => exact .inl ⟨_, .plain hon⟩
  | true =>
    cases hc : (x.collected w).result with
    | ok summary => exact .inl ⟨_, .withChanges hon hc⟩
    | error e => exact .inr ⟨e, .changes h hon hc⟩

/-- A run has a first failure or renders a text. -/
theorem firstFailure_or_renders (w : World) (o : Options) (vars : Variables) :
    (∃ stage e, FirstFailure w o vars stage e) ∨ ∃ text, Renders w o vars text := by
  rcases prepared_or_failure w o vars with
    ⟨x, artifacts, h⟩ | ⟨stage, e, hfailure, -⟩
  · rcases notes_or_failure h with ⟨made, hmade⟩ | ⟨e, hfailure⟩
    · cases hr : x.renderer.render made with
      | error e => exact .inl ⟨.rendering, e, .rendering h hmade hr⟩
      | ok text => exact .inr ⟨text, h, hmade, hr⟩
    · exact .inl ⟨.changes, e, hfailure⟩
  · exact .inl ⟨stage, e, hfailure⟩

theorem prepared_of_requests (h : ((release o vars).run w).requests ≠ []) :
    ∃ x artifacts, IsPrepared w o vars x artifacts ∧ x.settings.changes.enabled = true := by
  rcases prepared_or_failure w o vars with
    ⟨x, artifacts, hx⟩ | ⟨stage, e, -, hnone⟩
  · refine ⟨x, artifacts, hx, ?_⟩
    cases hon : x.settings.changes.enabled with
    | true => rfl
    | false =>
      rw [(release_of_setup hx.setup).2, ((compose_of_loaded hx.artifacts).1 hon).2] at h
      exact absurd rfl h
  · exact absurd hnone h

/-- A run that the arguments ask for ends with the failure of its first stage that fails, and prints
nothing then. If no stage fails, it prints the text and makes sure of a line feed at the end. It
asks the forge for something only if no stage before that failed and changes are wanted. -/
theorem run_ends_at_first_failure (w : World) {arguments : List String} (vars : Variables)
    {o : Options} (h : parse arguments = .ok (.run o)) :
    let left := run w arguments vars
    (∀ stage e, FirstFailure w o vars stage e → left.ending = ⟨1, "", some e.message⟩) ∧
    (∀ text, Renders w o vars text →
      left.ending =
        ⟨0, if text.toList.getLast? = some '\n' then text else text ++ "\n", none⟩) ∧
    ((∃ stage e, FirstFailure w o vars stage e) ∨ ∃ text, Renders w o vars text) ∧
    (left.requests ≠ [] → ∃ x artifacts file, IsPrepared w o vars x artifacts ∧
      settingsIn w o vars = .ok file ∧ (o.changelog = true ∨ file.changes.enabled = true)) := by
  intro left
  have hending : left.ending = .ofResult ((release o vars).run w).result := by
    simp only [left, run, plan, h]
  have hrequests : left.requests = ((release o vars).run w).requests := by
    simp only [left, run, plan, h]
  refine ⟨fun stage e hfailure => ?_, fun text htext => ?_, firstFailure_or_renders w o vars,
    fun hne => ?_⟩
  · rw [hending, result_of_firstFailure hfailure]
    rfl
  · rw [hending, result_of_renders htext]
    rfl
  · rw [hrequests] at hne
    obtain ⟨x, artifacts, hx, hon⟩ := prepared_of_requests hne
    obtain ⟨file, hfile, hsettings⟩ := hx.setup.settings
    rw [hsettings, withOptions] at hon
    exact ⟨x, artifacts, file, hx, hfile, by simpa using hon⟩

/-- Without variables it does not matter that the settings are not there either. -/
theorem run_without_variables :
    (run (Http.Fetch.steady ⟨200, none, [], true⟩) ["--config", "absent"] fun _ => none).ending =
      ⟨1, "", some (Failure.missingVariables requiredNames).message⟩ := by
  have hparse : parse ["--config", "absent"] = .ok (.run ⟨some "absent", none, false, .text, 0⟩) :=
    rfl
  exact (run_ends_at_first_failure _ _ hparse).1 .environment _ (.environment rfl (by decide))

end ReleaseBulletin.Command.Run
