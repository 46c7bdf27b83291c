import Mathlib.Data.List.Nodup
import ReleaseBulletin.Proofs.Change.Labels
import ReleaseBulletin.Proofs.Change.Retrieval
import ReleaseBulletin.Proofs.Forge.Relisting
import ReleaseBulletin.Release.Bulletin

/-!
The order and repetition of labels in the answers of the forge. Changes have sets of labels, so
nothing that is made of them, the text of the release note included, depends on how labels are
listed.
-/
namespace ReleaseBulletin
open Http Session Forge Forge.Payload

section Resources

variable {w w' : World} (h : RelistedWorld w w') (c : Client)
include h

namespace Forge.Resource

theorem contents_agree (repository path reference : String) :
    Agree w w' Eq (contents c repository path reference) (contents c repository path reference) :=
  (Agree.done _).bind_eq fun _ => get_agree_of_eq h (fun _ _ ht => ht.contents?_eq) c _ _

theorem latestRelease_agree (repository : String) :
    Agree w w' Eq (latestRelease c repository) (latestRelease c repository) :=
  (Agree.done _).bind_eq fun _ => get_agree_of_eq h (fun _ _ ht => ht.release?_eq) c _ _

theorem comparisonPage_agree (endpoint : Url) (page : Nat) :
    Agree w w' Eq (comparisonPage c endpoint page) (comparisonPage c endpoint page) :=
  get_agree_of_eq h (fun _ _ ht => ht.comparison?_eq) c _ _

theorem pullRequest_agree (repository : String) (number : Nat) :
    Agree w w' SameButLabels (pullRequest c repository number) (pullRequest c repository number) :=
  (Agree.done _).bind_eq fun _ => get_agree h .refl (fun _ _ ht => ht.pullRequest?_rel) c _ _

theorem collectPages_agree (endpoint : Url) (total room page : Nat) (collected : List Commit) :
    Agree w w' Eq (collectPages c endpoint total room page collected)
      (collectPages c endpoint total room page collected) := by
  induction room generalizing page collected with
  | zero => exact .pure _
  | succ room ih =>
    rw [collectPages]
    split
    · refine (comparisonPage_agree h c endpoint page).bind_eq fun next => ?_
      cases next.commits with
      | nil => exact .fail _ _
      | cons commit commits => exact (Agree.notify _ _).bind_eq fun _ => ih _ _
    · exact .pure _

theorem compare_agree (repository base head : String) :
    Agree w w' Eq (compare c repository base head) (compare c repository base head) := by
  refine (Agree.done _).bind_eq fun endpoint => ?_
  refine (comparisonPage_agree h c endpoint 1).bind_eq fun first => ?_
  exact (collectPages_agree h c endpoint _ _ _ _).bind_eq fun _ => .pure _

end Forge.Resource

namespace Change.Retrieval

omit h in
/-- The change of a request does not depend on how its labels are listed. -/
theorem ofPullRequest_congr (repository name : String) {p p' : PullRequest}
    (h : SameButLabels p p') :
    ofPullRequest repository name p = ofPullRequest repository name p' := by
  rw [ofPullRequest, ofPullRequest, h.number, h.title, h.url, Labels.ofList_eq_iff.2 h.labels]

theorem change?_agree (repository name : String) (number : Nat) :
    Agree w w' Eq (change? c repository name number) (change? c repository name number) := by
  refine (Forge.Resource.pullRequest_agree h c repository number).attempt.bind fun x y hxy => ?_
  cases hxy with
  | @ok p p' hp =>
    have hmerged : p.isMerged = p'.isMerged := congrArg Option.isSome hp.mergedAt
    dsimp only
    rw [hmerged, ofPullRequest_congr repository name hp]
    split
    · exact .pure _
    · exact (Agree.notify _ _).bind_eq fun _ => .pure _
  | error e =>
    dsimp only
    split
    · exact (Agree.notify _ _).bind_eq fun _ => .pure _
    · exact .fail _ _

theorem changesOf_agree (repository name : String) (ns : List Nat) :
    Agree w w' Eq (changesOf c repository name ns) (changesOf c repository name ns) := by
  induction ns with
  | nil => exact .pure _
  | cons n ns ih =>
    exact (change?_agree h c repository name n).bind_eq fun _ => ih.bind_eq fun _ => .pure _

theorem fetchChanges_agree (repository base head : String) (named : Bool) :
    Agree w w' Eq (fetchChanges c repository base head named)
      (fetchChanges c repository base head named) := by
  refine (Forge.Resource.compare_agree h c repository base head).bind_eq fun comparison => ?_
  exact (Agree.notify _ _).bind_eq fun _ => changesOf_agree h c _ _ _

end Change.Retrieval

theorem Lockfile.Inspector.pinnedCommit_agree (repository : String) (pin : Settings.Pin)
    (reference : String) :
    Agree w w' Eq (pinnedCommit c repository pin reference)
      (pinnedCommit c repository pin reference) := by
  refine Agree.bind_eq ?_ fun _ => ?_
  · refine (Resource.contents_agree h c repository pin.path reference).bind_eq fun file => ?_
    refine (Agree.done _).bind_eq fun _ => ?_
    exact (Agree.notify _ _).bind_eq fun _ => .done _
  · refine (Agree.done _).bind_eq fun _ => ?_
    exact (Agree.notify _ _).bind_eq fun _ => .pure _

theorem Release.Collection.collect_agree (build : Environment.Build) (settings : Settings) :
    Agree w w' Eq (collect c build settings) (collect c build settings) := by
  refine (Resource.latestRelease_agree h c _).bind_eq fun latest => ?_
  refine (Agree.notify _ _).bind_eq fun _ => (Agree.notify _ _).bind_eq fun _ => ?_
  refine (Change.Retrieval.fetchChanges_agree h c _ _ _ _).bind_eq fun released => ?_
  refine (Lockfile.Inspector.pinnedCommit_agree h c _ _ _).bind_eq fun previous => ?_
  refine (Lockfile.Inspector.pinnedCommit_agree h c _ _ _).bind_eq fun current => ?_
  refine (Agree.notify _ _).bind_eq fun _ => ?_
  refine (Change.Retrieval.fetchChanges_agree h c _ _ _ _).bind_eq fun paired => ?_
  exact (Agree.notify _ _).bind_eq fun _ => .pure _

end Resources

section Files

variable {w w' : World} (h : w.readFile = w'.readFile)
include h

namespace ChainRuntime.Artifact

theorem readSpecVersion_agree (path : String) :
    Agree w w' Eq (readSpecVersion path) (readSpecVersion path) := by
  refine (Agree.readText h path).bind_eq fun s => ?_
  split
  · exact .pure _
  · exact .fail _ _

theorem readReport_agree (path : String) :
    Agree w w' Eq (readReport path) (readReport path) := by
  refine (Agree.readText h path).bind_eq fun s => ?_
  split
  · exact .fail _ _
  · split
    · exact .pure _
    · exact .fail _ _

theorem loadEach_agree (workspace checkout : String) (names : List String) :
    Agree w w' Eq (loadEach workspace checkout names) (loadEach workspace checkout names) := by
  induction names with
  | nil => exact .pure _
  | cons name names ih =>
    refine Agree.bind_eq ?_ fun a => ih.bind_eq fun rest => .pure _
    refine (readSpecVersion_agree h _).bind_eq fun version => ?_
    refine (readReport_agree h _).bind_eq fun report => ?_
    exact (Agree.notify _ _).bind_eq fun _ => .pure _

end ChainRuntime.Artifact

theorem Note.Renderer.load_agree (path : Option String) :
    Agree w w' Eq (load path) (load path) := by
  cases path with
  | none => exact .done _
  | some path =>
    refine (Agree.readText h path).bind_eq fun s => ?_
    exact (Agree.notify _ _).bind_eq fun _ => .done _

end Files

namespace Release.Bulletin

section Agreement

variable {w w' : World} (h : RelistedWorld w w')
include h

theorem compose_agree (c : Client) (build : Environment.Build) (settings : Settings) :
    Agree w w' Eq (compose c build settings) (compose c build settings) := by
  refine (ChainRuntime.Artifact.loadEach_agree h.readFile _ _ _).bind_eq fun runtimes => ?_
  refine (Agree.notify _ _).bind_eq fun _ => ?_
  dsimp only
  split
  · exact (Collection.collect_agree h c build settings).bind_eq fun summary => .pure _
  · exact (Agree.notify _ _).bind_eq fun _ => .pure _

theorem generate_agree (build : Environment.Build) (settings : Settings) :
    Agree w w' Eq (generate build settings) (generate build settings) := by
  refine (Note.Renderer.load_agree h.readFile _).bind_eq fun renderer => ?_
  refine (Agree.notify _ _).bind_eq fun _ => (Agree.done _).bind_eq fun c => ?_
  refine (compose_agree h c build settings).bind_eq fun note => ?_
  refine (Agree.done _).bind_eq fun text => ?_
  exact (Agree.notify _ _).bind_eq fun _ => .pure _

/-- In worlds whose answers differ only in the order and repetition of labels, the same changes are
retrieved, the same summary is collected and the same text, or the same failure, is made for every
build and all settings, whatever template they point to; and the same is asked for and noted. -/
theorem label_order_is_irrelevant :
    (∀ (c : Client) (repository base head : String) (named : Bool),
      (Change.Retrieval.fetchChanges c repository base head named).run w =
        (Change.Retrieval.fetchChanges c repository base head named).run w') ∧
    (∀ (c : Client) (build : Environment.Build) (settings : Settings),
      (Collection.collect c build settings).run w = (Collection.collect c build settings).run w') ∧
    ∀ (build : Environment.Build) (settings : Settings),
      (generate build settings).run w = (generate build settings).run w' :=
  ⟨fun c _ _ _ _ => (Change.Retrieval.fetchChanges_agree h c _ _ _ _).run_eq,
    fun c build settings => (Collection.collect_agree h c build settings).run_eq,
    fun build settings => (generate_agree h build settings).run_eq⟩

end Agreement

namespace Sample
open Document

def labelDocument (name : String) : Tree := .table [(some "name", .text name)]

/-- The other fields of a merged change request. -/
def otherFields : List (Option String × Tree) :=
  [(some "number", .integer 1), (some "title", .text "Fix"), (some "html_url", .text "u"),
   (some "merged_at", .text "d")]

/-- A merged change request with labels. -/
def requestDocument (names : List String) : Tree :=
  .table (otherFields ++ [(some "labels", .list (names.map labelDocument))])

def requestBody (names : List String) : String :=
  "\x7b\"number\":1,\"title\":\"Fix\",\"html_url\":\"u\",\"merged_at\":\"d\",\"labels\":[" ++
    ",".intercalate (names.map fun name => "\x7b\"name\":\"" ++ name ++ "\"\x7d") ++ "]\x7d"

def labelName? : Tree → Option String
  | .table [(some "name", .text name)] => some name
  | _ => none

/-- Whether a tree is the document of the change request with the labels. -/
def isRequest (names : List String) : Option Tree → Bool
  | some (.table [(some "number", .integer 1), (some "title", .text "Fix"),
      (some "html_url", .text "u"), (some "merged_at", .text "d"), (some "labels", .list items)]) =>
    items.map labelName? = names.map some
  | _ => false

theorem eq_labelDocument {t : Tree} {name : String} (h : labelName? t = some name) :
    t = labelDocument name := by
  unfold labelName? at h
  split at h
  · rw [labelDocument, Option.some.inj h]
  · cases h

theorem eq_map_labelDocument {items : List Tree} {names : List String}
    (h : items.map labelName? = names.map some) : items = names.map labelDocument := by
  induction items generalizing names with
  | nil =>
    cases names with
    | nil => rfl
    | cons name names => cases h
  | cons t items ih =>
    cases names with
    | nil => cases h
    | cons name names =>
      rw [List.map_cons, List.map_cons, List.cons.injEq] at h
      rw [List.map_cons, eq_labelDocument h.1, ih h.2]

theorem eq_requestDocument {names : List String} {x : Option Tree} (h : isRequest names x = true) :
    x = some (requestDocument names) := by
  unfold isRequest at h
  split at h
  · rw [eq_map_labelDocument (of_decide_eq_true h)]
    rfl
  · cases h

theorem relistedReply_granted {body body' : String} {t t' : Tree}
    (document : documentOf (granted body).body = some t)
    (document' : documentOf (granted body').body = some t') (relisted : Relisted t t') :
    RelistedReply (granted body) (granted body') :=
  .granted rfl document document' relisted

/-- The labels `b` and `a`, and again in another order and one of them twice. -/
theorem relistedReply :
    RelistedReply (granted (requestBody ["b", "a"])) (granted (requestBody ["a", "b", "a"])) := by
  have hmem : ∀ t, t ∈ ["b", "a"].map labelDocument ↔ t ∈ ["a", "b", "a"].map labelDocument := by
    rw [List.map_cons, List.map_cons, List.map_nil]
    grind
  have hlabels : SameLabels (["b", "a"].map labelDocument) (["a", "b", "a"].map labelDocument) :=
    .of_mem_iff rfl rfl hmem
  have htwo : documentOf (granted (requestBody ["b", "a"])).body =
      some (requestDocument ["b", "a"]) := eq_requestDocument (by decide +kernel)
  have hthree : documentOf (granted (requestBody ["a", "b", "a"])).body =
      some (requestDocument ["a", "b", "a"]) := eq_requestDocument (by decide +kernel)
  exact relistedReply_granted htwo hthree (.table otherFields [] hlabels)

/-- The world with one commit, which names a change request with the labels. -/
def world (names : List String) : World :=
  Fetch.replying (Change.Retrieval.requestFor .sample "o/r" 1) (granted (requestBody names))
    (Fetch.steady (granted "[1,[[\"s\",[\"Fix (#1)\"]]]]"))

end Sample

/-- The change is the same if its labels come in another order and one of them twice. -/
theorem label_order_of_one_change :
    let fetched := Change.Retrieval.fetchChanges .sample "o/r" "a" "b" true
    RelistedWorld (Sample.world ["b", "a"]) (Sample.world ["a", "b", "a"]) ∧
      fetched.run (Sample.world ["b", "a"]) = fetched.run (Sample.world ["a", "b", "a"]) ∧
      (fetched.run (Sample.world ["b", "a"])).result =
        .ok [⟨1, "Fix", "u", "o/r", .ofList ["a", "b"], "Fix ([r#1](u))"⟩] := by
  have h : RelistedWorld (Sample.world ["b", "a"]) (Sample.world ["a", "b", "a"]) :=
    (RelistedWorld.refl _).replying _ Sample.relistedReply
  exact ⟨h, (label_order_is_irrelevant h).1 _ _ _ _ _, eq_ok_of_toOption (by decide +kernel)⟩

end Release.Bulletin

end ReleaseBulletin
