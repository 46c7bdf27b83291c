import ReleaseBulletin.Proofs.Release.Collection
import ReleaseBulletin.Proofs.Session.Steps

/-!
The course of a collection: the requests for the latest release, the pages and change requests of
the released repository, its lockfile at two references, and the pages and change requests of the
paired repository. A collection keeps to this course up to the first answer that is a failure.
-/
namespace ReleaseBulletin
open Environment Forge Forge.Payload Session

/-- The failure that a page leads to: it cannot be read, or it is a later one without commits. -/
def Forge.Paging.failureAt? (page : Nat → Except Failure Comparison) (url : String) (k : Nat) :
    Option Failure :=
  match page k with
  | .error e => some e
  | .ok q =>
    if 2 ≤ k ∧ q.commits = [] then
      some (.comparisonEnded url (collected page (k - 1)).length (total page))
    else none

theorem Forge.Paging.failureAt?_of_isRead {page : Nat → Except Failure Comparison} {url : String}
    {k : Nat} (h : IsRead page k) : failureAt? page url k = none := by
  obtain ⟨q, hq⟩ := h.answered
  rw [failureAt?, hq]
  refine if_neg ?_
  rintro ⟨hk, hnil⟩
  exact h.nonempty hk (by rw [commitsOn_of_ok hq, hnil])

theorem Forge.Paging.failure?_of_ends {page : Nat → Except Failure Comparison} {url : String}
    {k : Nat} {r : Except Failure (List Commit)} (h : Ends page url k r) :
    failure? r = failureAt? page url k := by
  cases h with
  | full read enough => exact (failureAt?_of_isRead read).symm
  | failed unanswered => rw [failureAt?, unanswered, failure?]
  | empty later answered none =>
    rw [failureAt?, answered]
    exact (if_pos ⟨later, none⟩).symm

namespace Release.Collection
open Change.Retrieval Forge.Paging

section Steps

variable (w : World) (c : Client)

/-- Asking for the latest release. -/
def latestStep (repository : String) : Step w where
  request := c.requestFor (Forge.Resource.segments repository ["releases", "latest"]) []
  failure := failure?
    (c.answer w release? (Forge.Resource.segments repository ["releases", "latest"]) [])
  received h := by
    obtain ⟨release, hrelease⟩ := failure?_eq_none.1 h
    exact Client.wasReceived_of_answer hrelease

/-- Asking for a page of a comparison. -/
def pageStep (repository base head : String) (k : Nat) : Step w where
  request := Forge.Resource.nthRequest c repository base head k
  failure := failureAt? (Forge.Resource.nthPage c w repository base head)
    (c.urlFor (Forge.Resource.compareSegments repository base head)).print k
  received h := by
    rw [failureAt?] at h
    split at h
    · cases h
    · next q hq => exact Client.wasReceived_of_answer hq

/-- Asking for a change request. It is no failure that the forge does not know it. -/
def pullRequestStep (repository : String) (n : Nat) : Step w where
  request := requestFor c repository n
  failure := abort? (answerFor w c repository n)
  received h := by
    have hnone : ∀ m ∈ [n], abort? (answerFor w c repository m) = none := by simpa using h
    exact List.filter_eq_self.1 (received_of_no_abort hnone) _ List.mem_cons_self

/-- The revision that a lockfile pins for the package. -/
def pinnedBy (pin : Settings.Pin) (file : FileContents) : Except Failure String := do
  let s ← file.decodeText
  let lockfile ← Lockfile.Reader.read s
  lockfile.pinnedRevision pin.package

/-- The pinned revision as it is read off the answer for the file. -/
def pinnedIn (repository : String) (pin : Settings.Pin) (reference : String) :
    Except Failure String := do
  pinnedBy pin (← c.answer w FileContents.ofTree?
    (Forge.Resource.contentsSegments repository pin.path) [("ref", reference)])

/-- Asking for a lockfile. -/
def lockfileStep (repository : String) (pin : Settings.Pin) (reference : String) : Step w where
  request := c.requestFor (Forge.Resource.contentsSegments repository pin.path)
    [("ref", reference)]
  failure := failure? (pinnedIn w c repository pin reference)
  received h := by
    obtain ⟨revision, hrevision⟩ := failure?_eq_none.1 h
    rw [pinnedIn] at hrevision
    cases hfile : c.answer w FileContents.ofTree?
        (Forge.Resource.contentsSegments repository pin.path) [("ref", reference)] with
    | error e => rw [hfile] at hrevision; cases hrevision
    | ok file => exact Client.wasReceived_of_answer hfile

/-- Asking for the pages of a comparison up to a last one, and for the change requests that the
commits on them name, each one at its first occurrence. -/
def changesSteps (repository base head : String) (last : Nat) : List (Step w) :=
  (List.range' 1 last).map (pageStep w c repository base head) ++
    (namedIn (collected (Forge.Resource.nthPage c w repository base head) last)).map
      (pullRequestStep w c repository)

end Steps

/-- What the course of a collection depends on: the tag of the latest release, the pinned revisions,
and the numbers of the last pages. -/
structure Course where
  tag : String
  releasedPages : Nat
  previous : String
  current : String
  pairedPages : Nat

section Course

variable (w : World) (c : Client) (b : Build) (s : Settings)

/-- The requests of a collection in order, with the failures that their answers lead to. -/
def Course.steps (x : Course) : List (Step w) :=
  [latestStep w c b.repository] ++
  changesSteps w c b.repository (Reference.ofTag x.tag) b.currentRef x.releasedPages ++
  [lockfileStep w c b.repository s.pin (Reference.ofTag x.tag),
   lockfileStep w c b.repository s.pin b.currentRef] ++
  changesSteps w c s.changes.pairedRepository x.previous x.current x.pairedPages

/-- The course that the answers determine. What would follow from an answer that is a failure is left
open. -/
structure Course.Fits (x : Course) : Prop where
  tag : ∀ release, c.answer w release?
    (Forge.Resource.segments b.repository ["releases", "latest"]) [] = .ok release →
      x.tag = release.tagName
  releasedPages : IsLast
    (Forge.Resource.nthPage c w b.repository (Reference.ofTag x.tag) b.currentRef) x.releasedPages
  previous : ∀ revision, pinnedIn w c b.repository s.pin (Reference.ofTag x.tag) = .ok revision →
    x.previous = revision
  current : ∀ revision, pinnedIn w c b.repository s.pin b.currentRef = .ok revision →
    x.current = revision
  pairedPages : IsLast
    (Forge.Resource.nthPage c w s.changes.pairedRepository x.previous x.current) x.pairedPages

end Course

variable {w : World} {c : Client}

section Follows

variable (hw : Http.Fetch.IsDirect w)
include hw

theorem exists_isLast (c : Client) (repository base head : String) :
    ∃ last, IsLast (Forge.Resource.nthPage c w repository base head) last := by
  obtain ⟨last, r, hlast, -⟩ := Forge.Resource.compare_ends_at_last hw c repository base head
  exact ⟨last, hlast⟩

theorem exists_fits (c : Client) (b : Build) (s : Settings) : ∃ x, Course.Fits w c b s x := by
  let tag := ((c.answer w release?
    (Forge.Resource.segments b.repository ["releases", "latest"]) []).toOption.map
      (·.tagName)).getD ""
  let previous := (pinnedIn w c b.repository s.pin (Reference.ofTag tag)).toOption.getD ""
  let current := (pinnedIn w c b.repository s.pin b.currentRef).toOption.getD ""
  obtain ⟨releasedPages, hreleased⟩ := exists_isLast hw c b.repository (Reference.ofTag tag)
    b.currentRef
  obtain ⟨pairedPages, hpaired⟩ := exists_isLast hw c s.changes.pairedRepository previous current
  refine ⟨⟨tag, releasedPages, previous, current, pairedPages⟩, ?_, hreleased, ?_, ?_, hpaired⟩
  · intro release hrelease
    simp only [tag, hrelease, Except.toOption, Option.map_some, Option.getD_some]
  · intro revision hrevision
    simp only [previous, hrevision, Except.toOption, Option.getD_some]
  · intro revision hrevision
    simp only [current, hrevision, Except.toOption, Option.getD_some]

variable (hc : c.CanAsk)
include hc

theorem latestRelease_follows (repository : String) :
    Outcome.Follows [latestStep w c repository]
      ((Forge.Resource.latestRelease c repository).run w) :=
  .one (Client.requests_ask hw c release? hc _ []) (by
    rw [Forge.Resource.latestRelease, Client.result_ask hw]
    rfl)

/-- A comparison goes through its pages and has the commits on them. -/
theorem compare_follows {repository base head : String} {last : Nat}
    (h : IsLast (Forge.Resource.nthPage c w repository base head) last) :
    let o := (Forge.Resource.compare c repository base head).run w
    Outcome.Follows ((List.range' 1 last).map (pageStep w c repository base head)) o ∧
      ∀ comparison, o.result = .ok comparison →
        comparison.commits = collected (Forge.Resource.nthPage c w repository base head) last := by
  intro o
  obtain ⟨last', r, hlast, hends, hres, hreqs, -⟩ :=
    Forge.Resource.compare_ends_at_last hw c repository base head
  obtain rfl : last = last' := h.unique hlast
  have hrange : List.range' 1 last = List.range' 1 (last - 1) ++ [last] := by
    obtain ⟨k, rfl⟩ := Nat.exists_eq_add_of_le' h.pos
    rw [Nat.add_sub_cancel, List.range'_1_concat, Nat.add_comm]
  have hread : Step.firstFailure
      ((List.range' 1 (last - 1)).map (pageStep w c repository base head)) = none := by
    refine List.findSome?_eq_none_iff.2 fun s hs => ?_
    obtain ⟨j, hj, rfl⟩ := List.mem_map.1 hs
    rw [List.mem_range'_1] at hj
    exact failureAt?_of_isRead (h.before j hj.1 (by omega)).read
  refine ⟨?_, fun comparison hok => ?_⟩
  · rw [hrange, List.map_append, List.map_singleton]
    refine .of_last hread ?_ ?_
    · rw [← List.map_singleton, ← List.map_append, ← hrange, Step.requests, List.map_map]
      exact hreqs hc
    · rw [hres]
      refine Eq.trans ?_ (failure?_of_ends hends)
      cases r <;> rfl
  · rw [hok] at hres
    cases hends with
    | full read enough => cases hres; rfl
    | failed unanswered => cases hres
    | empty later answered none => cases hres

theorem changesOf_follows (repository name : String) (ns : List Nat) :
    Outcome.Follows (ns.map (pullRequestStep w c repository))
      ((changesOf c repository name ns).run w) := by
  induction ns with
  | nil => exact ⟨rfl, rfl⟩
  | cons n ns ih =>
    rw [changesOf, List.map_cons, ← List.singleton_append]
    refine Outcome.Follows.bind ?_ fun change _ => ?_
    · refine .one ?_ ?_
      · rw [requests_change?]
        exact Client.requests_ask hw c pullRequest? hc _ []
      · rw [result_change?, pullRequestIn_eq hw]
        change _ = abort? (answerFor w c repository n)
        cases abort? (answerFor w c repository n) <;> rfl
    · exact ih.bind_quiet (fun _ => rfl) fun _ => ⟨_, rfl⟩

theorem fetchChanges_follows {repository base head : String} {last : Nat} (named : Bool)
    (h : IsLast (Forge.Resource.nthPage c w repository base head) last) :
    Outcome.Follows (changesSteps w c repository base head last)
      ((fetchChanges c repository base head named).run w) := by
  obtain ⟨hfollows, hcommits⟩ := compare_follows hw hc h
  refine hfollows.bind fun comparison hcomparison => ?_
  refine Outcome.Follows.notify_bind ?_
  rw [numbers_messages, hcommits comparison hcomparison]
  exact changesOf_follows hw hc repository _ _

theorem pinnedCommit_follows (repository : String) (pin : Settings.Pin) (reference : String) :
    ((Lockfile.Inspector.pinnedCommit c repository pin reference).run w).result =
        pinnedIn w c repository pin reference ∧
      Outcome.Follows [lockfileStep w c repository pin reference]
        ((Lockfile.Inspector.pinnedCommit c repository pin reference).run w) := by
  have hfile : ((Forge.Resource.contents c repository pin.path reference).run w).result =
      c.answer w FileContents.ofTree? (Forge.Resource.contentsSegments repository pin.path)
        [("ref", reference)] := Client.result_ask hw c _ _ _
  have hrequest : ((Forge.Resource.contents c repository pin.path reference).run w).requests =
      w.received [(lockfileStep w c repository pin reference).request] :=
    Client.requests_ask hw c _ hc _ _
  have hread : ((Lockfile.Inspector.pinnedCommit c repository pin reference).run w).result =
        pinnedIn w c repository pin reference ∧
      ((Lockfile.Inspector.pinnedCommit c repository pin reference).run w).requests =
        w.received [(lockfileStep w c repository pin reference).request] := by
    simp only [Lockfile.Inspector.pinnedCommit, Lockfile.Inspector.lockfileAt, result_bind,
      requests_bind, hfile, hrequest, run_ofResult, result_notify, pinnedIn, pinnedBy]
    cases c.answer w FileContents.ofTree? (Forge.Resource.contentsSegments repository pin.path)
      [("ref", reference)] with
    | error e => simp [Bind.bind, Except.bind]
    | ok file =>
      cases ht : file.decodeText with
      | error e => simp [ht, Bind.bind, Except.bind]
      | ok s =>
        cases hl : Lockfile.Reader.read s with
        | error e => simp [ht, hl, Bind.bind, Except.bind]
        | ok lockfile =>
          cases hr : lockfile.pinnedRevision pin.package <;>
            simp [ht, hl, hr, Bind.bind, Except.bind]
  exact ⟨hread.1, .one hread.2 (by rw [hread.1]; rfl)⟩

/-- A collection goes through its course. -/
theorem collect_follows {b : Build} {s : Settings} {x : Course} (h : x.Fits w c b s) :
    Outcome.Follows (x.steps w c b s) ((collect c b s).run w) := by
  obtain ⟨tag, releasedPages, previous, current, pairedPages⟩ := x
  rw [collect, Course.steps, List.append_assoc, List.append_assoc]
  refine (latestRelease_follows hw hc b.repository).bind fun latest hlatest => ?_
  have htag : tag = latest.tagName := h.tag latest (by
    rw [← hlatest]
    exact (Client.result_ask hw c _ _ _).symm)
  subst htag
  refine Outcome.Follows.notify_bind (Outcome.Follows.notify_bind ?_)
  refine (fetchChanges_follows hw hc false h.releasedPages).bind fun released _ => ?_
  obtain ⟨hprevious, hpreviousFollows⟩ :=
    pinnedCommit_follows hw hc b.repository s.pin (Reference.ofTag latest.tagName)
  obtain ⟨hcurrent, hcurrentFollows⟩ := pinnedCommit_follows hw hc b.repository s.pin b.currentRef
  refine hpreviousFollows.bind fun revision hrevision => ?_
  obtain rfl := h.previous revision (hprevious.symm.trans hrevision)
  refine hcurrentFollows.bind fun revision hrevision => ?_
  obtain rfl := h.current revision (hcurrent.symm.trans hrevision)
  refine Outcome.Follows.notify_bind ?_
  exact (fetchChanges_follows hw hc true h.pairedPages).bind_quiet (fun _ => rfl) fun _ => ⟨_, rfl⟩

end Follows

/-- A collection keeps to its course up to the first answer that is a failure. That failure is its
result, and nothing is asked for after it; without any, the collection has a summary. The last
request is missing among the received ones only if it never came to the other side. -/
theorem collect_keeps_to_course {w : World} (hw : Http.Fetch.IsDirect w) {c : Client} {b : Build}
    {s : Settings} (hclient : Client.connect s.api.url b.token = .ok c)
    (hhttp : c.base.scheme = "http") :
    let o := (collect c b s).run w
    (∃ x, Course.Fits w c b s x) ∧
    ∀ x, Course.Fits w c b s x →
      let steps := x.steps w c b s
      o.requests <+: Step.requests steps ∧
      ((∃ summary, o.result = .ok summary) ↔ Step.firstFailure steps = none) ∧
      (∀ summary, o.result = .ok summary → o.requests = Step.requests steps) ∧
      (∀ e, o.result = .error e → ∃ before last after, steps = before ++ last :: after ∧
        Step.firstFailure before = none ∧ last.failure = some e ∧
        o.requests = Step.requests before ++ w.received [last.request]) := by
  intro o
  have hc := Client.canAsk_of_connect hclient hhttp
  refine ⟨exists_fits hw c b s, fun x hx => ?_⟩
  intro steps
  have hfollows : Outcome.Follows steps o := collect_follows hw hc hx
  have hok : (∃ summary, o.result = .ok summary) ↔ Step.firstFailure steps = none := by
    rw [← hfollows.failure, failure?_eq_none]
  rcases hfollows.cases with ⟨summary, hres, hnone, hreqs⟩ |
    ⟨before, last, after, e, hsteps, hbefore, hlast, hres, hreqs⟩
  · refine ⟨hreqs ▸ List.prefix_refl _, hok, fun _ _ => hreqs, fun e he => ?_⟩
    rw [hres] at he
    cases he
  · refine ⟨?_, hok, fun summary hsummary => ?_, fun f hf => ?_⟩
    · rw [hreqs, hsteps, Step.requests, Step.requests, List.map_append, List.map_cons]
      refine (List.prefix_append_right_inj _).2 ?_
      rw [World.received, List.filter_singleton]
      cases (w.contact last.request).wasReceived with
      | true => exact ⟨_, rfl⟩
      | false => exact List.nil_prefix
    · rw [hres] at hsummary
      cases hsummary
    · rw [hres] at hf
      obtain rfl := Except.error.inj hf
      exact ⟨before, last, after, hsteps, hbefore, hlast, hreqs⟩

theorem isLast_one {page : Nat → Except Failure Comparison}
    (h : ¬ (collected page 1).length < total page) : IsLast page 1 :=
  ⟨Nat.le_refl 1, by omega, fun hc => h hc.missing⟩

namespace Sample

def httpSettings : Settings := { settings with api := { url := "http://forge" } }

/-- The course of a collection with one page for each comparison. -/
def course : Course := ⟨"v", 1, "r", "r", 1⟩

theorem connect_sample : Client.connect httpSettings.api.url build.token = .ok .sample :=
  eq_ok_of_toOption (by decide +kernel)

/-- The lockfile of the sample pins the revision `r`. -/
theorem pinnedIn_file {w : World} {reference : String}
    (h : w.contact (lockfileStep w .sample "o/r" {} reference).request =
      .answered (granted fileBody)) : pinnedIn w .sample "o/r" {} reference = .ok "r" := by
  have hfile : Client.sample.answer w FileContents.ofTree?
      (Forge.Resource.contentsSegments "o/r" "Cargo.lock") [("ref", reference)] = .ok file :=
    Client.answer_eq_ok_iff.2 ⟨Client.canAsk_sample, _, h, rfl, rfl, by decide +kernel⟩
  have hrevision : pinnedBy {} file = .ok "r" := eq_ok_of_toOption (by decide +kernel)
  calc pinnedIn w .sample "o/r" {} reference
      = Except.ok file >>= pinnedBy {} := congrArg (· >>= pinnedBy {}) hfile
    _ = pinnedBy {} file := pure_bind file (pinnedBy {})
    _ = .ok "r" := hrevision

theorem fits_course {w : World}
    (tag : (Client.sample.answer w release?
      (Forge.Resource.segments "o/r" ["releases", "latest"]) []).toOption = some ⟨"v"⟩)
    (released : ¬ (collected (Forge.Resource.nthPage .sample w "o/r" (Reference.ofTag "v")
      "refs/heads/m") 1).length <
        total (Forge.Resource.nthPage .sample w "o/r" (Reference.ofTag "v") "refs/heads/m"))
    (previous : w.contact (lockfileStep w .sample "o/r" {} (Reference.ofTag "v")).request =
      .answered (granted fileBody))
    (current : w.contact (lockfileStep w .sample "o/r" {} "refs/heads/m").request =
      .answered (granted fileBody))
    (paired : ¬ (collected (Forge.Resource.nthPage .sample w "o/s" "r" "r") 1).length <
      total (Forge.Resource.nthPage .sample w "o/s" "r" "r")) :
    course.Fits w .sample build httpSettings where
  tag := fun release hrelease => by
    have hok := (eq_ok_of_toOption tag).symm.trans hrelease
    exact congrArg (·.tagName) (Except.ok.inj hok)
  releasedPages := isLast_one released
  previous := fun _ hrevision => Except.ok.inj ((pinnedIn_file previous).symm.trans hrevision)
  current := fun _ hrevision => Except.ok.inj ((pinnedIn_file current).symm.trans hrevision)
  pairedPages := isLast_one paired

/-- The forge of the sample, with a commit in the paired repository that names a change request for
which there is no answer but an error of the server. -/
def failingWorld : World :=
  Http.Fetch.replying (Forge.Resource.pageRequest .sample "o/s" "r" "r" 1) (granted commitBody) <|
  Http.Fetch.replying (requestFor .sample "o/s" 1) ⟨500, none, [], true⟩ world

theorem isDirect_failingWorld : Http.Fetch.IsDirect failingWorld :=
  Http.Fetch.isDirect_replying
    (Http.Fetch.isDirect_replying isDirect_world _ (by simp [Http.Fetch.redirectStatuses])) _
    (by simp [granted, Http.Fetch.redirectStatuses])

end Sample

/-- The sample has a summary and asked for the whole course. -/
theorem collect_whole_course :
    ∃ summary,
      ((collect .sample Sample.build Sample.httpSettings).run Sample.world).result = .ok summary ∧
      ((collect .sample Sample.build Sample.httpSettings).run Sample.world).requests =
        Step.requests (Sample.course.steps Sample.world .sample Sample.build Sample.httpSettings) := by
  have hfits : Sample.course.Fits Sample.world .sample Sample.build Sample.httpSettings :=
    Sample.fits_course (by decide +kernel) (by decide +kernel) (by decide +kernel)
      (by decide +kernel) (by decide +kernel)
  obtain ⟨-, hcourse⟩ := collect_keeps_to_course Sample.isDirect_world Sample.connect_sample rfl
  obtain ⟨-, hiff, hwhole, -⟩ := hcourse Sample.course hfits
  obtain ⟨summary, hsummary⟩ := hiff.2 (by decide +kernel)
  exact ⟨summary, hsummary, hwhole summary hsummary⟩

/-- That a collection asked for its whole course does not mean that it has a summary: the answer to
the last request may be a failure. -/
theorem whole_course_without_summary :
    ¬ ∀ (w : World) (c : Client) (b : Build) (s : Settings) (x : Course),
      Http.Fetch.IsDirect w → Client.connect s.api.url b.token = .ok c →
      c.base.scheme = "http" → Course.Fits w c b s x →
      (((collect c b s).run w).requests = Step.requests (x.steps w c b s) ↔
        ∃ summary, ((collect c b s).run w).result = .ok summary) := by
  intro h
  have hfits : Sample.course.Fits Sample.failingWorld .sample Sample.build Sample.httpSettings :=
    Sample.fits_course (by decide +kernel) (by decide +kernel) (by decide +kernel)
      (by decide +kernel) (by decide +kernel)
  have hiff := h Sample.failingWorld .sample Sample.build Sample.httpSettings Sample.course
    Sample.isDirect_failingWorld Sample.connect_sample rfl hfits
  obtain ⟨summary, hsummary⟩ := hiff.1 (by decide +kernel)
  have hfails : ((collect .sample Sample.build Sample.httpSettings).run
      Sample.failingWorld).result.toOption = none := by decide +kernel
  rw [hsummary] at hfails
  cases hfails

end Release.Collection

end ReleaseBulletin
