import ReleaseBulletin.Note.Renderer
import ReleaseBulletin.Proofs.Note.Standard
import ReleaseBulletin.Proofs.Template.Writing

/-!
The text of a release note, line by line, and that the standard template writes this text.
-/
namespace ReleaseBulletin
open Template

namespace ChainRuntime.Artifact

/-- What the report says of the compressed runtime under the path. -/
def reported? (a : Artifact) (path : List String) : Option Json.Value :=
  a.report.at? (["runtimes", "compressed"] ++ path)

/-- What is used of the report. -/
def reportPaths : List (List String) :=
  [["size"],
   ["subwasm", "core_version"],
   ["subwasm", "compression", "compressed"],
   ["subwasm", "metadata_version"],
   ["subwasm", "proposal_hash"],
   ["subwasm", "blake2_256"],
   ["subwasm", "ipfs_hash"]]

/-- Nothing that is used of the report is missing. -/
def IsComplete (a : Artifact) : Prop := ∀ path ∈ reportPaths, ∃ j, a.reported? path = some j

/-- The text of what the report says; where it says nothing there is no note to write. -/
def reportedText (a : Artifact) (path : List String) : String :=
  match a.reported? path with
  | some j => (Value.ofJson j).display
  | none => ""

def isCompressed (a : Artifact) : Bool :=
  (a.reported? ["subwasm", "compression", "compressed"]).any fun j => Order.truth (.ofJson j)

def lines (a : Artifact) : List String :=
  ["",
   "### " ++ String.ofList (Text.CaseMap.capitalize a.name.toList),
   "",
   "```",
   "🧬 Spec Version:           " ++ Value.integerText a.specVersion,
   "🏋️ Runtime Size:           " ++ a.reportedText ["size"] ++ " bytes",
   "🔥 Core Version:           " ++ a.reportedText ["subwasm", "core_version"],
   "🗜 Compressed:             " ++ (if a.isCompressed then "Yes" else "No"),
   "🎁 Metadata version:       V" ++ a.reportedText ["subwasm", "metadata_version"],
   "🗳️ system.setCode hash:    " ++ a.reportedText ["subwasm", "proposal_hash"],
   "#️⃣ Blake2-256 hash:        " ++ a.reportedText ["subwasm", "blake2_256"],
   "📦 IPFS:                   " ++ a.reportedText ["subwasm", "ipfs_hash"],
   "```"]

end ChainRuntime.Artifact

namespace Note

/-- Lines with their ends. -/
def ofLines (lines : List String) : String := String.join (lines.map (· ++ "\n"))

/-- The line on the paired repository, where its revision is known. -/
def substrateLines (n : Note) : List String :=
  let commit := n.substrateCommit.getD ""
  let previous := n.substratePreviousCommit.getD ""
  if commit = "" then []
  else
    ["It is built on Substrate `" ++ commit ++ "`" ++
      (if previous = "" then "" else " (previous release: `" ++ previous ++ "`)") ++ "."]

def changelogLines (n : Note) : List String :=
  ["This release contains the changes from `" ++ n.previousRef.getD "None" ++ "` to `" ++
    n.currentRef ++ "`."] ++
  n.substrateLines ++
  ["",
   "## Upgrade Priority",
   "",
   n.priority.label ++ " **" ++ n.priority.name ++ "**: " ++ n.priority.advice ++ ".",
   ""]

def compilerPreamble : List String :=
  ["## Rust compiler versions",
   "",
   "This release was built and tested against the following versions of `rustc`.",
   "Other versions may work.",
   ""]

def compilerLines (n : Note) : List String :=
  compilerPreamble ++
  ["- Rust Stable:  `" ++ n.rustcStable ++ "`",
   "- Rust Nightly: `" ++ n.rustcNightly ++ "`",
   ""]

/-- The lines of a section on changes, which is left out if there are none. -/
def sectionLines (heading : String) (changes : List Change) : List String :=
  if changes.isEmpty then []
  else ["", "## " ++ heading, ""] ++ changes.map fun c => "* " ++ c.prettyTitle

def lines (n : Note) : List String :=
  ["# Tidechain " ++ n.version, ""] ++
  (if n.changelogEnabled then n.changelogLines else []) ++
  n.compilerLines ++
  "## Runtimes" :: n.runtimes.flatMap (·.lines) ++
  sectionLines "Changes" n.releaseNotes ++
  sectionLines "Client" n.clientChanges ++
  sectionLines "Runtime" n.runtimeChanges

def text (n : Note) : String := ofLines n.lines

theorem ofLines_append (ls ls' : List String) : ofLines (ls ++ ls') = ofLines ls ++ ofLines ls' := by
  simp [ofLines, String.join_append]

theorem ofLines_cons (l : String) (ls : List String) :
    ofLines (l :: ls) = l ++ ("\n" ++ ofLines ls) := by
  simp [ofLines, String.join_cons, String.append_assoc]

theorem ofLines_nil : ofLines [] = "" := rfl

theorem ofLines_flatMap {α : Type} (f : α → List String) (xs : List α) :
    ofLines (xs.flatMap f) = String.join (xs.map fun x => ofLines (f x)) := by
  induction xs with
  | nil => rfl
  | cons x xs ih => rw [List.flatMap_cons, ofLines_append, ih, List.map_cons, String.join_cons]

namespace Standard
open ChainRuntime Template.Evaluator Template.Scope

/-- The frame of the names of a note. -/
def frame (n : Note) : Frame :=
  { Frame.empty with backing := .context ((Renderer.context n).map fun (k, v) => (.text k, v)) }

abbrev AtTop (n : Note) : State → Prop := Within [frame n]

section Values

theorem write_optionalText (o : Option String) :
    Operator.write (Renderer.optionalText o) = .ok (o.getD "None") := by
  cases o <;> rfl

theorem isMissing_optionalText (o : Option String) :
    (Renderer.optionalText o).unspaced.isMissing = false := by
  cases o <;> rfl

theorem truth_optionalText (o : Option String) :
    Order.truth (Renderer.optionalText o).unspaced = !(o.getD "").isEmpty := by
  cases o <;> rfl

theorem getD_of_not_isEmpty {o : Option String} (h : (o.getD "").isEmpty = false) :
    o.getD "None" = o.getD "" := by
  cases o
  · cases h
  · rfl

end Values

section Names

variable (n : Note) (invoke : Invoke) {d : Dotted} {line : Nat} {v w : Value}

theorem AtTop.lookup? {s : State} (h : AtTop n s) {name : String}
    (hname : (Renderer.context n).lookup name = some v) : s.lookup? name = some v := by
  have hframe : (frame n).lookup? s.memories name = some v := by
    rw [← hname, ← Order.lookup?_texts]
    rfl
  simp [State.lookup?, h.frames_eq, hframe]

theorem gives_top (hv : (Renderer.context n).lookup d.base = some v)
    (hw : walk line v d.members = .ok w) :
    Gives (AtTop n) (value invoke (d.expr line)) (.ok w) (AtTop n) := by
  have hbase : Gives (AtTop n) (value invoke (.variable d.base)) (.ok v) (AtTop n) :=
    gives_variable fun _ hs => AtTop.lookup? n hs hv
  exact (gives_members (fun _ hs => hs.spaces_eq) hbase d.members).congr hw

theorem prints_top {s : String} (hv : (Renderer.context n).lookup d.base = some v)
    (hw : walk line v d.members = .ok w) (hs : Operator.write w = .ok s) :
    Gives (AtTop n) (node invoke (.print line (d.expr line))) (.ok s) (AtTop n) := by
  refine (gives_print (fun _ hs => hs.spaces_eq) (gives_top n invoke hv hw)).congr ?_
  change onLine line (Operator.write w) = _
  rw [hs]
  rfl

variable {outer : List Frame} {known : List (String × Value)}

theorem gives_inside {name : String} (hv : (name, v) ∈ known) (hbase : d.base = name) :
    Gives (Inside outer known) (value invoke (d.expr line)) (walk line v d.members)
      (Inside outer known) := by
  have hvariable : Gives (Inside outer known) (value invoke (.variable d.base)) (.ok v)
      (Inside outer known) := gives_variable fun s hs => hs.lookup? v (hbase ▸ hv)
  exact gives_members (fun _ hs => hs.spaces_eq) hvariable d.members

theorem prints_inside {name : String} (hv : (name, v) ∈ known) (hbase : d.base = name) :
    Gives (Inside outer known) (node invoke (.print line (d.expr line)))
      (do onLine line (Operator.write (← walk line v d.members))) (Inside outer known) :=
  gives_print (fun _ hs => hs.spaces_eq) (gives_inside invoke hv hbase)

end Names

section Changelog

variable (n : Note) (invoke : Invoke)

-- The texts are those of a note without a commit too: only the branches around them ask for one.
theorem gives_previous :
    Gives (AtTop n) (Evaluator.nodes invoke previousNodes)
      (.ok (" (previous release: `" ++ (n.substratePreviousCommit.getD "None" ++ "`)")))
      (AtTop n) := by
  have hprevious : Gives (AtTop n) (node invoke (.print 6 (substratePrevious.expr 6)))
      (.ok (n.substratePreviousCommit.getD "None")) (AtTop n) :=
    prints_top n invoke rfl rfl (write_optionalText _)
  refine .congr (gives_text _ (gives_cons hprevious (gives_text _ gives_nil))) ?_
  simp [Except.map]

theorem gives_commit :
    Gives (AtTop n) (Evaluator.nodes invoke commitNodes)
      (.ok ("It is built on Substrate `" ++ n.substrateCommit.getD "None" ++ "`" ++
        (if n.substratePreviousCommit.getD "" = "" then ""
          else " (previous release: `" ++ n.substratePreviousCommit.getD "" ++ "`)") ++ ".\n"))
      (AtTop n) := by
  have hcommit : Gives (AtTop n) (node invoke (.print 6 (substrateCommit.expr 6)))
      (.ok (n.substrateCommit.getD "None")) (AtTop n) :=
    prints_top n invoke rfl rfl (write_optionalText _)
  have hprevious : Gives (AtTop n) (value invoke (substratePrevious.expr 6))
      (.ok (Renderer.optionalText n.substratePreviousCommit)) (AtTop n) :=
    gives_top n invoke rfl rfl
  refine .congr (gives_text _ (gives_cons hcommit (gives_text _ (gives_cons
    (gives_branch (fun _ hs => hs.spaces_eq) hprevious (isMissing_optionalText _)
      (gives_previous n invoke) gives_nil) (gives_text _ gives_nil))))) ?_
  rw [truth_optionalText]
  cases h : (n.substratePreviousCommit.getD "").isEmpty with
  | true =>
    rw [if_pos (String.isEmpty_iff.mp h)]
    simp [Except.map, String.append_assoc]
  | false =>
    have hne : n.substratePreviousCommit.getD "" ≠ "" := fun he => by simp [he] at h
    rw [if_neg hne]
    simp [Except.map, getD_of_not_isEmpty h, String.append_assoc]

theorem gives_changelog :
    Gives (AtTop n) (Evaluator.nodes invoke changelogNodes) (.ok (ofLines n.changelogLines))
      (AtTop n) := by
  have hprevious : Gives (AtTop n) (node invoke (.print 4 (previousRef.expr 4)))
      (.ok (n.previousRef.getD "None")) (AtTop n) :=
    prints_top n invoke rfl rfl (write_optionalText _)
  have hcurrent : Gives (AtTop n) (node invoke (.print 4 (currentRef.expr 4)))
      (.ok n.currentRef) (AtTop n) := prints_top n invoke rfl rfl rfl
  have hcommit : Gives (AtTop n) (value invoke (substrateCommit.expr 5))
      (.ok (Renderer.optionalText n.substrateCommit)) (AtTop n) := gives_top n invoke rfl rfl
  have hsubstrate : Gives (AtTop n)
      (node invoke (.branch 5 (substrateCommit.expr 5) commitNodes []))
      (.ok (ofLines n.substrateLines)) (AtTop n) := by
    refine .congr (gives_branch (fun _ hs => hs.spaces_eq) hcommit (isMissing_optionalText _)
      (gives_commit n invoke) gives_nil) ?_
    rw [truth_optionalText]
    cases h : (n.substrateCommit.getD "").isEmpty with
    | true => simp [substrateLines, String.isEmpty_iff.mp h, ofLines_nil]
    | false =>
      have hne : n.substrateCommit.getD "" ≠ "" := fun he => by simp [he] at h
      have hend : ".\n" = "." ++ "\n" := rfl
      rw [hend]
      simp [substrateLines, if_neg hne, getD_of_not_isEmpty h, ofLines_cons, ofLines_nil,
        String.append_assoc]
  have hlabel : Gives (AtTop n) (node invoke (.print 11 (priorityLabel.expr 11)))
      (.ok n.priority.label) (AtTop n) := prints_top n invoke rfl rfl rfl
  have hname : Gives (AtTop n) (node invoke (.print 11 (priorityName.expr 11)))
      (.ok n.priority.name) (AtTop n) := prints_top n invoke rfl rfl rfl
  have hadvice : Gives (AtTop n) (node invoke (.print 11 (priorityText.expr 11)))
      (.ok n.priority.advice) (AtTop n) := prints_top n invoke rfl rfl rfl
  refine .congr (gives_text _ (gives_cons hprevious (gives_text _ (gives_cons hcurrent
    (gives_text _ (gives_cons hsubstrate (gives_text _ (gives_cons hlabel (gives_text _
      (gives_cons hname (gives_text _ (gives_cons hadvice (gives_text _ gives_nil))))))))))))) ?_
  simp only [written_cons_ok, written_nil, Except.map, changelogLines, ofLines_append, ofLines_cons,
    ofLines_nil, Except.ok.injEq, ← String.toList_inj]
  simp

end Changelog

section Runtimes

/-- What is written for the data of a report at the end of a path. -/
def entry (line : Nat) (f : Json.Value → String) (o : Option Json.Value) (path : List String) :
    Except Trouble String := do
  return f (← found line (o.bind (·.at? path)))

def shown (j : Json.Value) : String := (Value.ofJson j).display

def yesNo (j : Json.Value) : String := if Order.truth (.ofJson j) then "Yes" else "No"

/-- The texts for a runtime with the data on its compressed form. -/
def blockTexts (a : Artifact) (o : Option Json.Value) : List (Except Trouble String) :=
  [.ok "\n### ", .ok (String.ofList (Text.CaseMap.capitalize a.name.toList)),
   .ok "\n\n```\n🧬 Spec Version:           ", .ok (Value.integerText a.specVersion),
   .ok "\n🏋️ Runtime Size:           ", entry 30 shown o ["size"],
   .ok " bytes\n🔥 Core Version:           ", entry 31 shown o ["subwasm", "core_version"],
   .ok "\n🗜 Compressed:             ",
   entry 32 yesNo o ["subwasm", "compression", "compressed"],
   .ok "\n🎁 Metadata version:       V", entry 33 shown o ["subwasm", "metadata_version"],
   .ok "\n🗳️ system.setCode hash:    ", entry 34 shown o ["subwasm", "proposal_hash"],
   .ok "\n#️⃣ Blake2-256 hash:        ", entry 35 shown o ["subwasm", "blake2_256"],
   .ok "\n📦 IPFS:                   ", entry 36 shown o ["subwasm", "ipfs_hash"],
   .ok "\n```\n"]

/-- What is written for a runtime. -/
def block (a : Artifact) : Except Trouble String := do
  written (blockTexts a ((← found 24 (a.report.at? ["runtimes"])).member? "compressed"))

variable {a : Artifact} {outer : List Frame} (invoke : Invoke)

section Report

variable {o : Option Json.Value} {path : List String} {line : Nat} {f : Json.Value → String}

theorem reported?_eq {r : Json.Value} (h : a.report.at? ["runtimes"] = some r)
    (path : List String) :
    a.reported? path = (r.member? "compressed").bind (·.at? path) := by
  have hpath : a.reported? path = a.report.at? (["runtimes"] ++ "compressed" :: path) := rfl
  rw [hpath, Json.Value.at?_append, h]
  rfl

theorem entry_eq {j : Json.Value} (h : o.bind (·.at? path) = some j) :
    entry line f o path = .ok (f j) := by
  rw [entry, h]
  rfl

theorem entry_error (h : o.bind (·.at? path) = none) :
    entry line f o path = .error ⟨.undefinedValue, line⟩ := by
  rw [entry, h]
  rfl

theorem fault_entry (e : Trouble) (h : entry line f o path = .error e) :
    e.fault = .undefinedValue := by
  cases hj : o.bind (·.at? path) with
  | none =>
    rw [entry_error hj] at h
    cases h
    rfl
  | some j =>
    rw [entry_eq hj] at h
    cases h

theorem block_eq {r : Json.Value} (h : a.report.at? ["runtimes"] = some r) :
    block a = written (blockTexts a (r.member? "compressed")) := by
  rw [block, h]
  rfl

theorem block_of_isComplete (h : a.IsComplete) : block a = .ok (ofLines a.lines) := by
  obtain ⟨r, hr⟩ : ∃ r, a.report.at? ["runtimes"] = some r := by
    obtain ⟨j, hj⟩ := h ["size"] (by simp [Artifact.reportPaths])
    have hpath : a.reported? ["size"] = a.report.at? (["runtimes"] ++ ["compressed", "size"]) :=
      rfl
    rw [hpath, Json.Value.at?_append] at hj
    exact (Option.bind_eq_some_iff.mp hj).imp fun r hr => hr.1
  have hshown : ∀ path ∈ Artifact.reportPaths, ∀ line,
      entry line shown (r.member? "compressed") path = .ok (a.reportedText path) := by
    intro path hpath line
    obtain ⟨j, hj⟩ := h path hpath
    rw [Artifact.reportedText, hj]
    rw [reported?_eq hr] at hj
    exact entry_eq hj
  have hyesNo : entry 32 yesNo (r.member? "compressed") ["subwasm", "compression", "compressed"] =
      .ok (if a.isCompressed then "Yes" else "No") := by
    obtain ⟨j, hj⟩ := h ["subwasm", "compression", "compressed"] (by simp [Artifact.reportPaths])
    rw [Artifact.isCompressed, hj]
    rw [reported?_eq hr] at hj
    exact entry_eq hj
  simp only [Artifact.reportPaths, List.forall_mem_cons] at hshown
  obtain ⟨hsize, hcore, -, hmetadata, hproposal, hblake, hipfs, -⟩ := hshown
  -- The texts between the data end in the middle of lines, so characters are compared.
  rw [block_eq hr, blockTexts, hsize, hcore, hyesNo, hmetadata, hproposal, hblake, hipfs]
  simp only [written_cons_ok, written_nil, Except.map, Artifact.lines, ofLines_cons, ofLines_nil,
    Except.ok.injEq, ← String.toList_inj]
  simp

theorem block_error (h : ¬ a.IsComplete) : ∃ line, block a = .error ⟨.undefinedValue, line⟩ := by
  cases hruntimes : a.report.at? ["runtimes"] with
  | none => exact ⟨24, by rw [block, hruntimes]; rfl⟩
  | some r =>
    rw [block_eq hruntimes]
    have hentry : ∀ path ∈ Artifact.reportPaths, ∃ line f,
        entry line f (r.member? "compressed") path ∈ blockTexts a (r.member? "compressed") := by
      simp only [Artifact.reportPaths, List.forall_mem_cons]
      exact ⟨⟨30, shown, by simp [blockTexts]⟩, ⟨31, shown, by simp [blockTexts]⟩,
        ⟨32, yesNo, by simp [blockTexts]⟩, ⟨33, shown, by simp [blockTexts]⟩,
        ⟨34, shown, by simp [blockTexts]⟩, ⟨35, shown, by simp [blockTexts]⟩,
        ⟨36, shown, by simp [blockTexts]⟩, nofun⟩
    refine written_undefined ?_ ?_
    · simp only [Artifact.IsComplete, not_forall, not_exists] at h
      obtain ⟨path, hpath, hnone⟩ := h
      rw [← Option.eq_none_iff_forall_ne_some, reported?_eq hruntimes] at hnone
      obtain ⟨line, f, hmem⟩ := hentry path hpath
      exact ⟨_, hmem, _, entry_error hnone⟩
    · simp only [blockTexts, List.forall_mem_cons, reduceCtorEq, false_implies, implies_true,
        true_and]
      exact ⟨fault_entry, fault_entry, fault_entry, fault_entry, fault_entry, fault_entry,
        fault_entry, nofun⟩

end Report

/-- In a step of the loop the name of the data is known besides that of the runtime. -/
abbrev InStep (outer : List Frame) (a : Artifact) (o : Option Json.Value) : State → Prop :=
  Inside outer [("compressed", .ofJson? o), ("runtime", Renderer.ofArtifact a)]

theorem prints_entry {d : Dotted} {line : Nat} {o : Option Json.Value}
    (hbase : d.base = "compressed") :
    Gives (InStep outer a o) (node invoke (.print line (d.expr line)))
      (entry line shown o d.members) (InStep outer a o) := by
  refine (prints_inside invoke List.mem_cons_self hbase).congr ?_
  rw [walk_use rfl]
  simp only [write_ofJson]
  rfl

theorem prints_isCompressed (o : Option Json.Value) :
    Gives (InStep outer a o)
      (node invoke (.print 32 (.choice 32 (isCompressed.expr 32) (.literal (.text "Yes"))
        (.literal (.text "No")))))
      (entry 32 yesNo o isCompressed.members) (InStep outer a o) := by
  have hspaces : ∀ s, InStep outer a o s → s.spaces = [] := fun _ hs => hs.spaces_eq
  have hvalue : Gives (InStep outer a o) (value invoke (isCompressed.expr 32))
      (walk 32 (.ofJson? o) isCompressed.members) (InStep outer a o) :=
    gives_inside invoke List.mem_cons_self rfl
  have huse : (do onLine 32 (Operator.isTrue
        (← walk 32 (.ofJson? o) isCompressed.members).unspaced)) =
      (do onLine 32 (Operator.isTrue
        (Value.ofJson (← found 32 (o.bind (·.at? isCompressed.members)))).unspaced)) :=
    walk_use (f := fun v => Operator.isTrue v.unspaced) rfl o isCompressed.members
  refine (gives_print hspaces (gives_choice hspaces hvalue (.pure _) (.pure _))).congr ?_
  simp only [entry, ← bind_assoc, huse, isTrue_ofJson]
  cases found 32 (o.bind (·.at? isCompressed.members)) with
  | error e => rfl
  | ok j =>
    change onLine 32 (Operator.write (if Order.truth (.ofJson j) then .text "Yes" else .text "No"))
      = .ok (yesNo j)
    rw [yesNo]
    split <;> rfl

theorem gives_block :
    Gives (Inside outer [("runtime", Renderer.ofArtifact a)])
      (Evaluator.nodes invoke runtimeNodes) (block a) (Inside outer []) := by
  have hspaces : ∀ o s, InStep outer a o s → s.spaces = [] := fun o s hs => hs.spaces_eq
  have hreport : Gives (Inside outer [("runtime", Renderer.ofArtifact a)])
      (value invoke (runtimeReport.expr 24))
      (do return .ofJson? ((← found 24 (a.report.at? ["runtimes"])).member? "compressed"))
      (Inside outer [("runtime", Renderer.ofArtifact a)]) :=
    (gives_inside invoke (d := runtimeReport) List.mem_cons_self rfl).congr
      (walk_concat a.report ["runtimes"] "compressed")
  have hruntime : ∀ o, ("runtime", Renderer.ofArtifact a) ∈
      [("compressed", Value.ofJson? o), ("runtime", Renderer.ofArtifact a)] := by simp
  have hname : ∀ o, Gives (InStep outer a o)
      (node invoke (.print 26 (.filter 26 "capitalize" (runtimeName.expr 26) [])))
      (.ok (String.ofList (Text.CaseMap.capitalize a.name.toList))) (InStep outer a o) := by
    intro o
    have hvalue : Gives (InStep outer a o) (value invoke (runtimeName.expr 26))
        (.ok (.text a.name)) (InStep outer a o) := gives_inside invoke (hruntime o) rfl
    have happly : Filter.apply "capitalize" (.text a.name) [] [] =
        .ok (.text (String.ofList (Text.CaseMap.capitalize a.name.toList))) := rfl
    exact gives_print (hspaces o) (gives_filter (hspaces o) hvalue happly)
  have hversion : ∀ o, Gives (InStep outer a o) (node invoke (.print 29 (runtimeVersion.expr 29)))
      (.ok (Value.integerText a.specVersion)) (InStep outer a o) := fun o =>
    prints_inside invoke (hruntime o) rfl
  refine gives_assign hreport (by simp) fun j => ?_
  exact .forget (gives_text _ (gives_cons (hname _) (gives_text _ (gives_cons (hversion _) (gives_text _
    (gives_cons (prints_entry invoke rfl) (gives_text _ (gives_cons (prints_entry invoke rfl)
      (gives_text _ (gives_cons (prints_isCompressed invoke _) (gives_text _
        (gives_cons (prints_entry invoke rfl) (gives_text _ (gives_cons (prints_entry invoke rfl)
          (gives_text _ (gives_cons (prints_entry invoke rfl) (gives_text _
            (gives_cons (prints_entry invoke rfl) (gives_text _ gives_nil)))))))))))))))))))

end Runtimes

section Sections

variable (n : Note) (invoke : Invoke)

theorem gives_changes (line : Nat) (c : Change) (outer : List Frame) :
    Gives (Inside outer [("change", Renderer.ofChange c)])
      (Evaluator.nodes invoke (changeNodes line)) (.ok ("* " ++ c.prettyTitle ++ "\n"))
      (Inside outer []) := by
  have htitle : Gives (Inside outer [("change", Renderer.ofChange c)])
      (node invoke (.print line (prettyTitle.expr line))) (.ok c.prettyTitle)
      (Inside outer [("change", Renderer.ofChange c)]) :=
    prints_inside invoke List.mem_cons_self rfl
  refine .congr (.forget (gives_text _ (gives_cons htitle (gives_text _ gives_nil)))) ?_
  simp [Except.map, String.append_assoc]

theorem gives_section {line : Nat} {d : Dotted} {heading : String} {title : String}
    {changes : List Change}
    (hd : (Renderer.context n).lookup d.base = some (.list (changes.map Renderer.ofChange)))
    (hmembers : d.members = []) (hheading : heading = ofLines ["", "## " ++ title, ""]) :
    Gives (AtTop n) (node invoke (sectionNode line d heading))
      (.ok (ofLines (sectionLines title changes))) (AtTop n) := by
  have hchanges : ∀ line, Gives (AtTop n) (value invoke (d.expr line))
      (.ok (.list (changes.map Renderer.ofChange))) (AtTop n) := fun line =>
    gives_top n invoke hd (by rw [hmembers]; rfl)
  have hloop : Gives (AtTop n) (node invoke (.loop (line + 4) (.name "change")
        (d.expr (line + 4)) none (changeNodes (line + 5)) []))
      (written (changes.map fun c => .ok ("* " ++ c.prettyTitle ++ "\n"))) (AtTop n) :=
    gives_loop (by simp [depthLimit]) (hchanges (line + 4)) fun c _ =>
      gives_changes invoke (line + 5) c [frame n]
  refine .congr (gives_branch (fun _ hs => hs.spaces_eq) (hchanges line) rfl
    (gives_text _ (gives_cons hloop gives_nil)) gives_nil) ?_
  cases changes with
  | nil => rfl
  | cons c changes =>
    have hbullets : ofLines ((c :: changes).map fun c => "* " ++ c.prettyTitle) =
        String.join ((c :: changes).map fun c => "* " ++ c.prettyTitle ++ "\n") := by
      rw [ofLines, List.map_map]
      rfl
    change written [.ok heading, written ((c :: changes).map _)] =
      .ok (ofLines (["", "## " ++ title, ""] ++ (c :: changes).map _))
    rw [written_map_ok, ofLines_append, hbullets, ← hheading]
    simp [Except.map]

end Sections

section Whole

variable (n : Note) (invoke : Invoke)

/-- What the nodes of the standard template write. -/
def texts (n : Note) : List (Except Trouble String) :=
  [.ok "# Tidechain ", .ok n.version, .ok "\n\n",
   .ok (if n.changelogEnabled then ofLines n.changelogLines else ""),
   .ok compilerText, .ok n.rustcStable, .ok "`\n- Rust Nightly: `", .ok n.rustcNightly,
   .ok "`\n\n## Runtimes\n", written (n.runtimes.map block),
   .ok (ofLines (sectionLines "Changes" n.releaseNotes)),
   .ok (ofLines (sectionLines "Client" n.clientChanges)),
   .ok (ofLines (sectionLines "Runtime" n.runtimeChanges))]

theorem gives_nodes :
    Gives (AtTop n) (Evaluator.nodes invoke nodes) (written (texts n)) (AtTop n) := by
  have henabled : Gives (AtTop n) (value invoke (changelogEnabled.expr 3))
      (.ok (.boolean n.changelogEnabled)) (AtTop n) := gives_top n invoke rfl rfl
  have hchangelog : Gives (AtTop n)
      (node invoke (.branch 3 (changelogEnabled.expr 3) changelogNodes []))
      (.ok (if n.changelogEnabled then ofLines n.changelogLines else "")) (AtTop n) := by
    refine .congr (gives_branch (fun _ hs => hs.spaces_eq) henabled rfl (gives_changelog n invoke)
      gives_nil) ?_
    cases h : n.changelogEnabled <;> rfl
  have hruntimes : Gives (AtTop n) (value invoke (runtimes.expr 23))
      (.ok (.list (n.runtimes.map Renderer.ofArtifact))) (AtTop n) := gives_top n invoke rfl rfl
  have hblocks : Gives (AtTop n)
      (node invoke (.loop 23 (.name "runtime") (runtimes.expr 23) none runtimeNodes []))
      (written (n.runtimes.map block)) (AtTop n) :=
    gives_loop (by simp [depthLimit]) hruntimes fun a _ => gives_block invoke
  exact gives_text _ (gives_cons (prints_top n invoke rfl rfl rfl) (gives_text _
    (gives_cons hchangelog (gives_text _ (gives_cons (prints_top n invoke rfl rfl rfl)
      (gives_text _ (gives_cons (prints_top n invoke rfl rfl rfl) (gives_text _
        (gives_cons hblocks (gives_cons (gives_section n invoke rfl rfl rfl)
          (gives_cons (gives_section n invoke rfl rfl rfl)
            (gives_cons (gives_section n invoke rfl rfl rfl) gives_nil))))))))))))

theorem written_texts (h : ∀ a ∈ n.runtimes, a.IsComplete) :
    written (texts n) = .ok n.text := by
  have hblocks : written (n.runtimes.map block) = .ok (ofLines (n.runtimes.flatMap (·.lines))) := by
    have hmap : n.runtimes.map block = n.runtimes.map fun a => .ok (ofLines a.lines) :=
      List.map_congr_left fun a ha => block_of_isComplete (h a ha)
    rw [hmap, written_map_ok, ofLines_flatMap]
  have hchangelog : ofLines (if n.changelogEnabled then n.changelogLines else []) =
      if n.changelogEnabled then ofLines n.changelogLines else "" := by
    split <;> rfl
  have hcompiler : compilerText = ofLines compilerPreamble ++ "- Rust Stable:  `" := by
    decide +kernel
  simp only [texts, hblocks, written_cons_ok, written_nil, Except.map, text, Note.lines, hcompiler,
    compilerLines, ofLines_append, ofLines_cons, ofLines_nil, hchangelog, Except.ok.injEq,
    ← String.toList_inj]
  simp

theorem written_texts_error (h : ∃ a ∈ n.runtimes, ¬ a.IsComplete) :
    ∃ line, written (texts n) = .error ⟨.undefinedValue, line⟩ := by
  have hblock : ∀ a e, block a = .error e → e.fault = .undefinedValue := by
    intro a e he
    by_cases ha : a.IsComplete
    · rw [block_of_isComplete ha] at he
      cases he
    · obtain ⟨line, hline⟩ := block_error ha
      rw [hline] at he
      cases he
      rfl
  obtain ⟨line, hline⟩ : ∃ line, written (n.runtimes.map block) =
      .error ⟨.undefinedValue, line⟩ := by
    refine written_undefined ?_ ?_
    · obtain ⟨a, ha, hincomplete⟩ := h
      obtain ⟨line, hline⟩ := block_error hincomplete
      exact ⟨block a, List.mem_map_of_mem ha, _, hline⟩
    · intro t ht e he
      obtain ⟨a, -, rfl⟩ := List.mem_map.mp ht
      exact hblock a e he
  exact ⟨line, by simp [texts, hline, Except.map]⟩

end Whole

end Standard

theorem Renderer.render_nodes (n : Note) :
    (⟨Standard.nodes⟩ : Renderer).render n =
      (Evaluator.written (Standard.texts n)).mapError failure := by
  rw [render, Evaluator.render_eq (Standard.gives_nodes n _)]
  cases Evaluator.written (Standard.texts n) <;> rfl

theorem Renderer.ofTemplate_template : ofTemplate Standard.template = .ok ⟨Standard.nodes⟩ := by
  rw [ofTemplate, Standard.ofTemplate?_template]

/-- With the standard template a note is rendered exactly if no report lacks anything, and what is
rendered is the text of the note. -/
theorem Renderer.render_standard :
    ∃ r, ofTemplate Standard.template = .ok r ∧ ∀ n s,
      r.render n = .ok s ↔ (∀ a ∈ n.runtimes, a.IsComplete) ∧ s = n.text := by
  refine ⟨_, ofTemplate_template, fun n s => ?_⟩
  rw [render_nodes]
  by_cases hcomplete : ∀ a ∈ n.runtimes, a.IsComplete
  · rw [Standard.written_texts n hcomplete]
    constructor
    · intro h
      exact ⟨hcomplete, (Except.ok.inj h).symm⟩
    · rintro ⟨-, rfl⟩
      rfl
  · have hincomplete : ∃ a ∈ n.runtimes, ¬ a.IsComplete := by simpa using hcomplete
    obtain ⟨line, hline⟩ := Standard.written_texts_error n hincomplete
    rw [hline]
    constructor
    · intro h
      cases h
    · intro h
      exact absurd h.1 hcomplete

/-- The report of a runtime, with everything that the text speaks of. -/
def sampleReport : Json.Value :=
  .object [("runtimes", .object [("compressed", .object
    [("size", .integer 1024),
     ("subwasm", .object
       [("blake2_256", .text "0xb2"),
        ("compression", .object [("compressed", .boolean true)]),
        ("core_version", .text "tide-7"),
        ("ipfs_hash", .text "Qm1"),
        ("metadata_version", .integer 14),
        ("proposal_hash", .text "0xa1")])])])]

def sample : Note where
  version := "v2"
  currentRef := "refs/tags/v2"
  previousRef := some "refs/tags/v1"
  repository := "tide/chain"
  rustcStable := "rustc 1"
  rustcNightly := "rustc 2"
  substrateCommit := some "abc"
  substratePreviousCommit := none
  changelogEnabled := true
  priority := .low
  releaseNotes := []
  clientChanges := [⟨7, "Faster", "u", "tide/chain", .ofList [], "Faster (#7)"⟩]
  runtimeChanges := []
  runtimes := [⟨"tide", 9, sampleReport⟩]

theorem sample_isComplete : ∀ a ∈ sample.runtimes, a.IsComplete := by
  simp only [sample, List.forall_mem_cons, ChainRuntime.Artifact.IsComplete,
    ChainRuntime.Artifact.reportPaths]
  exact ⟨⟨⟨_, rfl⟩, ⟨_, rfl⟩, ⟨_, rfl⟩, ⟨_, rfl⟩, ⟨_, rfl⟩, ⟨_, rfl⟩, ⟨_, rfl⟩, nofun⟩, nofun⟩

theorem Renderer.render_standard_sample :
    ∃ r, ofTemplate Standard.template = .ok r ∧ r.render sample = .ok (ofLines
      ["# Tidechain v2",
       "",
       "This release contains the changes from `refs/tags/v1` to `refs/tags/v2`.",
       "It is built on Substrate `abc`.",
       "",
       "## Upgrade Priority",
       "",
       "C1-low 📌 **Low**: upgrade at your convenience.",
       "",
       "## Rust compiler versions",
       "",
       "This release was built and tested against the following versions of `rustc`.",
       "Other versions may work.",
       "",
       "- Rust Stable:  `rustc 1`",
       "- Rust Nightly: `rustc 2`",
       "",
       "## Runtimes",
       "",
       "### Tide",
       "",
       "```",
       "🧬 Spec Version:           9",
       "🏋️ Runtime Size:           1024 bytes",
       "🔥 Core Version:           tide-7",
       "🗜 Compressed:             Yes",
       "🎁 Metadata version:       V14",
       "🗳️ system.setCode hash:    0xa1",
       "#️⃣ Blake2-256 hash:        0xb2",
       "📦 IPFS:                   Qm1",
       "```",
       "",
       "## Client",
       "",
       "* Faster (#7)"]) := by
  obtain ⟨r, hr, hrender⟩ := render_standard
  refine ⟨r, hr, (hrender sample _).mpr ⟨sample_isComplete, ?_⟩⟩
  decide +kernel

end Note

end ReleaseBulletin
