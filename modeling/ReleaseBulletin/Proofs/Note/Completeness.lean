import ReleaseBulletin.Proofs.Note.Printed

/-!
When a release note cannot be rendered with the standard template: exactly if a report lacks
something that the template asks for. Nothing else in a note has a say in this.
-/
namespace ReleaseBulletin.Note
open ChainRuntime Template

/-- The paths in a report that the standard template asks for. -/
def Standard.usedPaths : List (List String) :=
  Artifact.reportPaths.map (["runtimes", "compressed"] ++ ·)

/-- The report has something at the end of each path that is used. -/
def Standard.IsFull (report : Json.Value) : Prop := ∀ path ∈ usedPaths, ∃ v, report.Reaches path v

theorem Standard.isComplete_iff {a : Artifact} : a.IsComplete ↔ IsFull a.report := by
  simp only [Artifact.IsComplete, IsFull, usedPaths, List.forall_mem_map, Artifact.reported?,
    Json.Value.at?_eq_some_iff]

theorem Standard.IsFull.not_isCutShort {report : Json.Value} (h : IsFull report)
    {path : List String} (hpath : path ∈ usedPaths) : ¬ report.IsCutShort path := by
  intro hcut
  obtain ⟨v, hv⟩ := h path hpath
  rw [← Json.Value.at?_eq_some_iff, Json.Value.at?_eq_none_iff.2 hcut] at hv
  cases hv

namespace Standard
open Template.Evaluator

/-- The trouble with the part of the note on a runtime comes from its report alone. -/
theorem trouble?_block {a a' : Artifact} (h : a.report = a'.report) :
    trouble? (block a) = trouble? (block a') := by
  cases hruntimes : a.report.at? ["runtimes"] with
  | none =>
    rw [block, block, ← h, hruntimes]
    rfl
  | some r =>
    rw [block_eq hruntimes, block_eq (h ▸ hruntimes), trouble?_written, trouble?_written]
    rfl

theorem findSome?_block (as : List Artifact) :
    (as.map block).findSome? trouble? =
      (as.map (·.report)).findSome? fun report => trouble? (block ⟨"", 0, report⟩) := by
  rw [List.findSome?_map, List.findSome?_map]
  exact congrArg (as.findSome? ·) (funext fun a => trouble?_block rfl)

theorem trouble?_texts (n : Note) :
    trouble? (written (texts n)) = (n.runtimes.map block).findSome? trouble? := by
  rw [trouble?_written, ← trouble?_written (n.runtimes.map block)]
  simp only [texts, List.findSome?_cons, List.findSome?_nil, trouble?]
  cases written (n.runtimes.map block) <;> rfl

end Standard

theorem Renderer.render_eq_error_iff {n : Note} {f : Failure} :
    (⟨Standard.nodes⟩ : Renderer).render n = .error f ↔
      ∃ t, (n.runtimes.map Standard.block).findSome? Evaluator.trouble? = some t ∧
        f = failure t := by
  rw [render_nodes, ← Standard.trouble?_texts]
  cases Evaluator.written (Standard.texts n) with
  | ok s => simp [Evaluator.trouble?, Except.mapError]
  | error t => simp [Evaluator.trouble?, Except.mapError, eq_comm]

/-- With the standard template a note is rendered exactly if every report has all that is used of
it, reached through objects. A report without some of it is an undefined value, whatever else the
note holds: notes with the same reports fail alike. -/
theorem Renderer.render_standard_fails_on_reports_only :
    ∃ r, ofTemplate Standard.template = .ok r ∧ ∀ n : Note,
      ((∃ s, r.render n = .ok s) ↔ ∀ a ∈ n.runtimes, Standard.IsFull a.report) ∧
      (∀ a ∈ n.runtimes, ∀ path ∈ Standard.usedPaths, a.report.IsCutShort path →
        ∃ line, r.render n = .error (.rendering .undefinedValue line)) ∧
      ∀ n' : Note, n'.runtimes.map (·.report) = n.runtimes.map (·.report) →
        ∀ f, r.render n' = .error f ↔ r.render n = .error f := by
  refine ⟨_, ofTemplate_template, fun n => ⟨?_, fun a ha path hpath hcut => ?_,
    fun n' hreports f => ?_⟩⟩
  · rw [render_nodes]
    constructor
    · rintro ⟨s, hs⟩
      by_contra hmissing
      have hincomplete : ∃ a ∈ n.runtimes, ¬ a.IsComplete := by
        simpa [Standard.isComplete_iff] using hmissing
      obtain ⟨line, hline⟩ := Standard.written_texts_error n hincomplete
      rw [hline] at hs
      cases hs
    · intro hfull
      have hwritten := Standard.written_texts n fun a ha => Standard.isComplete_iff.2 (hfull a ha)
      exact ⟨n.text, by rw [hwritten]; rfl⟩
  · have hincomplete : ¬ a.IsComplete := fun h =>
      (Standard.isComplete_iff.1 h).not_isCutShort hpath hcut
    obtain ⟨line, hline⟩ := Standard.written_texts_error n ⟨a, ha, hincomplete⟩
    exact ⟨min line lastLine, by rw [render_nodes, hline]; rfl⟩
  · rw [render_eq_error_iff, render_eq_error_iff, Standard.findSome?_block,
      Standard.findSome?_block, hreports]

/-- A null in place of an object in the report of a second runtime is an undefined value, with the
changelog and without it. -/
theorem Renderer.render_standard_of_cut_report :
    let cut : Json.Value := .object [("runtimes", .object [("compressed", .null)])]
    let n : Note := { sample with runtimes := sample.runtimes ++ [⟨"hertel", 7, cut⟩] }
    let n' : Note := { n with changelogEnabled := false, previousRef := none, clientChanges := [] }
    (∀ a ∈ sample.runtimes, Standard.IsFull a.report) ∧
      ["runtimes", "compressed", "size"] ∈ Standard.usedPaths ∧
      cut.IsCutShort ["runtimes", "compressed", "size"] ∧
      ∃ r, ofTemplate Standard.template = .ok r ∧ (∃ s, r.render sample = .ok s) ∧
        ∃ line, r.render n = .error (.rendering .undefinedValue line) ∧
          r.render n' = .error (.rendering .undefinedValue line) := by
  intro cut n n'
  have hfull : ∀ a ∈ sample.runtimes, Standard.IsFull a.report := fun a ha =>
    Standard.isComplete_iff.1 (sample_isComplete a ha)
  have hpath : ["runtimes", "compressed", "size"] ∈ Standard.usedPaths := by decide
  have hcut : cut.IsCutShort ["runtimes", "compressed", "size"] :=
    .further rfl (.further rfl (.other "size" [] rfl))
  obtain ⟨r, hr, hrender⟩ := render_standard_fails_on_reports_only
  obtain ⟨-, hfails, halike⟩ := hrender n
  obtain ⟨line, hline⟩ := hfails ⟨"hertel", 7, cut⟩ (by simp [n]) _ hpath hcut
  exact ⟨hfull, hpath, hcut, r, hr, (hrender sample).1.2 hfull, line, hline,
    (halike n' rfl _).2 hline⟩

end ReleaseBulletin.Note
