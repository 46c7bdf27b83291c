import ReleaseBulletin.Proofs.Command.Stages
import ReleaseBulletin.Proofs.Forge.Credentials

/-!
The token gives access and nothing else: runs with different tokens do and say the same wherever the
forge answers the same.
-/
namespace ReleaseBulletin
open Environment Session

/-- A token is set that a header can hold. -/
def Environment.HasSendableToken (vars : Variables) : Prop :=
  ∃ secret, vars "GITHUB_TOKEN" = some secret ∧ secret ≠ "" ∧
    Forge.Client.isSendable ⟨secret⟩ = true

/-- Two environments with tokens, in which everything else is the same. -/
structure Environment.DifferInToken (vars vars' : Variables) : Prop where
  others : ∀ name, name ≠ "GITHUB_TOKEN" → vars name = vars' name
  token : HasSendableToken vars
  token' : HasSendableToken vars'

/-- Two builds with tokens that can be sent, in which everything else is the same. -/
structure Environment.Build.DifferInToken (b b' : Build) : Prop where
  others : { b with token := b'.token } = b'
  token : Forge.Client.isSendable b.token = true
  token' : Forge.Client.isSendable b'.token = true

namespace Environment.DifferInToken

theorem value?_token {vars : Variables} (h : HasSendableToken vars) :
    ∃ secret, value? vars "GITHUB_TOKEN" = some secret ∧
      Forge.Client.isSendable ⟨secret⟩ = true := by
  obtain ⟨secret, hset, hne, hsendable⟩ := h
  exact ⟨secret, by simp [value?, hset, hne], hsendable⟩

variable {vars vars' : Variables} (h : DifferInToken vars vars')
include h

theorem value?_eq {name : String} (hname : name ≠ "GITHUB_TOKEN") :
    value? vars name = value? vars' name := by
  rw [value?, value?, h.others name hname]

theorem mode_eq : mode vars = mode vars' := by
  rw [mode, mode, h.others "CI" (by decide)]

theorem missing_eq : missing vars = missing vars' := by
  refine List.filter_congr fun name _ => ?_
  by_cases hname : name = "GITHUB_TOKEN"
  · obtain ⟨secret, hs, -⟩ := value?_token h.token
    obtain ⟨secret', hs', -⟩ := value?_token h.token'
    rw [hname, hs, hs']
    rfl
  · rw [h.value?_eq hname]

theorem build_alike : AlikeResults Build.DifferInToken (build vars) (build vars') := by
  unfold build
  rw [← h.missing_eq]
  cases missing vars with
  | cons name names => exact .error _
  | nil =>
    obtain ⟨secret, hs, hsend⟩ := value?_token h.token
    obtain ⟨secret', hs', hsend'⟩ := value?_token h.token'
    have hvalue : ∀ name, name ≠ "GITHUB_TOKEN" →
        (value? vars name).getD "" = (value? vars' name).getD "" :=
      fun name hname => congrArg (Option.getD · "") (h.value?_eq hname)
    refine .ok ⟨?_, by simpa [hs] using hsend, by simpa [hs'] using hsend'⟩
    simp only [Build.mk.injEq, true_and]
    exact ⟨hvalue _ (by decide), hvalue _ (by decide), hvalue _ (by decide), hvalue _ (by decide),
      hvalue _ (by decide)⟩

theorem directives_eq (verbosity : Nat) :
    Command.Filter.directives verbosity vars = Command.Filter.directives verbosity vars' := by
  rw [Command.Filter.directives, Command.Filter.directives, h.mode_eq,
    h.others "RUST_LOG" (by decide)]

theorem home?_eq : Command.Run.home? vars = Command.Run.home? vars' :=
  h.value?_eq (by decide)

end Environment.DifferInToken

/-- The URL of the forge decides alone whether there is a client for tokens that can be sent. -/
theorem Forge.Client.connect_alike (url : String) {t t' : Token} (h : isSendable t = true)
    (h' : isSendable t' = true) :
    AlikeResults (fun c c' : Client => c.base = c'.base) (connect url t) (connect url t') := by
  rw [connect, connect]
  cases Url.Reader.read url with
  | error fault => exact .error _
  | ok base =>
    simp only [h, h', if_true]
    exact .ok rfl

namespace Release.Bulletin

variable {b b' : Build} (h : b.DifferInToken b') (settings : Settings)
include h

theorem compose_alike {c c' : Forge.Client} (hbase : c.base = c'.base) :
    Alike Eq (compose c b settings) (compose c' b' settings) := by
  have hworkspace : b.workspace = b'.workspace := by rw [← h.others]
  have hrepository : b.repository = b'.repository := by rw [← h.others]
  have hcurrentRef : b.currentRef = b'.currentRef := by rw [← h.others]
  have hnote : plainNote b = plainNote b' := by
    rw [← h.others]
    rfl
  rw [compose, compose, hworkspace, hnote]
  refine (Alike.refl _).bind_eq fun runtimes => (Alike.refl _).bind_eq fun _ => ?_
  split
  · exact (Collection.collect_alike hbase settings hrepository hcurrentRef).bind_eq
      fun _ => .refl _
  · exact .refl _

theorem generate_alike : Alike Eq (generate b settings) (generate b' settings) := by
  refine (Alike.refl _).bind_eq fun renderer => (Alike.refl _).bind_eq fun _ => ?_
  refine (Alike.ofResult (Forge.Client.connect_alike _ h.token h.token')).bind fun c c' hbase => ?_
  exact (compose_alike h settings hbase).bind_eq fun _ => .refl _

end Release.Bulletin

namespace Command.Run
open Arguments Release

/-- The work of two runs with different tokens. -/
theorem release_alike (o : Options) {vars vars' : Variables} (h : DifferInToken vars vars') :
    Alike Eq (release o vars) (release o vars') := by
  have hrest : Alike Eq
      (do let b ← Session.ofResult (build vars)
          let settings ← fileSettings o vars
          notify .info .command
          Bulletin.generate b (withOptions settings o))
      (do let b ← Session.ofResult (build vars')
          let settings ← fileSettings o vars'
          notify .info .command
          Bulletin.generate b (withOptions settings o)) := by
    refine (Alike.ofResult h.build_alike).bind fun b b' hb => ?_
    rw [fileSettings, fileSettings, h.home?_eq]
    refine (Alike.refl _).bind_eq fun settings => (Alike.refl _).bind_eq fun _ => ?_
    exact Bulletin.generate_alike hb _
  rw [release, release, h.mode_eq]
  split
  · exact (Alike.refl _).bind_eq fun _ => hrest
  · exact hrest

/-- A run comes to a note, which a template sees as the context. -/
def HasContext (w : World) (o : Options) (vars : Variables)
    (context : List (String × Template.Value)) : Prop :=
  ∃ x note, IsSetup w o vars x ∧
    ((Bulletin.compose x.client x.build x.settings).run w).result = .ok note ∧
    Note.Renderer.context note = context

theorem HasContext.of_differInToken {w : World} (hw : w.IgnoresCredentials) {o : Options}
    {vars vars' : Variables} (h : DifferInToken vars vars')
    {context : List (String × Template.Value)} (hx : HasContext w o vars context) :
    HasContext w o vars' context := by
  obtain ⟨x, note, ⟨hbuild, ⟨file, hfile, hsettings⟩, htemplate, hclient⟩, hnote, hcontext⟩ := hx
  have hbuilds := h.build_alike
  rw [hbuild] at hbuilds
  cases hb' : build vars' with
  | error e => rw [hb'] at hbuilds; cases hbuilds
  | ok b' =>
    rw [hb'] at hbuilds
    obtain ⟨hdiffer⟩ := hbuilds
    have hclients := Forge.Client.connect_alike x.settings.api.url hdiffer.token hdiffer.token'
    rw [hclient] at hclients
    cases hc' : Forge.Client.connect x.settings.api.url b'.token with
    | error e => rw [hc'] at hclients; cases hclients
    | ok c' =>
      rw [hc'] at hclients
      obtain ⟨hbase⟩ := hclients
      have hcompose := (Bulletin.compose_alike hdiffer x.settings hbase).run hw
      refine ⟨⟨b', x.settings, x.renderer, c'⟩, note, ⟨hb', ⟨file, ?_, hsettings⟩, htemplate, hc'⟩,
        ?_, hcontext⟩
      · rw [← hfile, settingsIn, settingsIn, h.home?_eq]
      · rw [← hnote]
        exact hcompose.result.eq.symm

end Command.Run

theorem Environment.DifferInToken.symm {vars vars' : Variables} (h : DifferInToken vars vars') :
    DifferInToken vars' vars :=
  ⟨fun name hname => (h.others name hname).symm, h.token', h.token⟩

namespace Command.Run
open Arguments

/-- Runs with different tokens end in the same way, with the same output and the same complaint, and
leave the same notices and requests for the same URLs, where the forge does not look at credentials.
They fail with the same failure or come to the same text, and what their templates see is the
same. -/
theorem run_ignores_token {w : World} (hw : w.IgnoresCredentials) (arguments : List String)
    {vars vars' : Variables} (h : DifferInToken vars vars') :
    let left := run w arguments vars
    let left' := run w arguments vars'
    left.ending = left'.ending ∧
    left.notices = left'.notices ∧
    left.requests.map (·.url) = left'.requests.map (·.url) ∧
    ∀ o, parse arguments = .ok (.run o) →
      ((release o vars).run w).result = ((release o vars').run w).result ∧
      ∀ context, HasContext w o vars context ↔ HasContext w o vars' context := by
  intro left left'
  have hruns (o : Options) := (release_alike o h).run hw
  have hplan : left.ending = left'.ending ∧ left.notices = left'.notices ∧
      left.requests.map (·.url) = left'.requests.map (·.url) := by
    simp only [left, left', run, plan]
    cases parse arguments with
    | error m => exact ⟨rfl, rfl, rfl⟩
    | ok action =>
      cases action with
      | help => exact ⟨rfl, rfl, rfl⟩
      | version => exact ⟨rfl, rfl, rfl⟩
      | run o =>
        refine ⟨congrArg Ending.ofResult (hruns o).result.eq, ?_, (hruns o).urls⟩
        simp only [(hruns o).notices, h.directives_eq]
  refine ⟨hplan.1, hplan.2.1, hplan.2.2, fun o _ => ⟨(hruns o).result.eq, fun context => ?_⟩⟩
  exact ⟨.of_differInToken hw h, .of_differInToken hw h.symm⟩

/-- An environment with the given token. -/
def Sample.environment (secret : String) : Variables := fun name =>
  if name = "GITHUB_TOKEN" then some secret
  else if name ∈ requiredNames then some "a/b" else none

/-- A world with settings that want changes and an empty template, in which no release is found. -/
def Sample.configured : World :=
  { Http.Fetch.steady ⟨404, none, [], true⟩ with
    readFile := fun path =>
      if path = "c" then
        .ok (Bytes.Utf8.encodeString
          "runtimes.names=[]\nchangelog.enabled=true\ntemplate.path=\"t\"\n")
      else .ok [] }

theorem Sample.ignoresCredentials_configured : Sample.configured.IgnoresCredentials :=
  fun _ _ _ => rfl

theorem Sample.differInToken : DifferInToken (environment "x") (environment "y") where
  others := fun name hname => by simp [environment, hname]
  token := ⟨"x", rfl, by decide, by decide⟩
  token' := ⟨"y", rfl, by decide, by decide⟩

/-- Each of two runs sends its own token, and they complain of the same refusal. -/
theorem run_with_two_tokens :
    let left := run Sample.configured ["--config", "c"] (Sample.environment "x")
    let left' := run Sample.configured ["--config", "c"] (Sample.environment "y")
    left.requests.map (·.authorization) = [some "Bearer x"] ∧
    left'.requests.map (·.authorization) = [some "Bearer y"] ∧
    left.ending = left'.ending ∧
    left.requests.map (·.url) = left'.requests.map (·.url) := by
  obtain ⟨hending, -, hurls, -⟩ := run_ignores_token Sample.ignoresCredentials_configured
    ["--config", "c"] Sample.differInToken
  exact ⟨by decide +kernel, by decide +kernel, hending, hurls⟩

end Command.Run

end ReleaseBulletin
