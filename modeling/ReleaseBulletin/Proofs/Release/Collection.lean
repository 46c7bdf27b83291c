import ReleaseBulletin.Proofs.Change.Retrieval
import ReleaseBulletin.Release.Collection

/-!
The buckets of a release note. Each of them has the merged requests that the commits of the two
ranges name, that carry its label and that are no companions, each one once and in order.
-/
namespace ReleaseBulletin.Release.Collection
open Change Change.Retrieval Environment Forge Forge.Payload Session

/-- The commits of a repository between two references, with the name that links show for it. -/
structure Range where
  repository : String
  shown : String
  commits : List Commit

def Range.numbers (r : Range) : List Nat := namedIn r.commits

def Range.record (r : Range) (p : PullRequest) : Change := ofPullRequest r.repository r.shown p

section

variable (w : World) (c : Client)

/-- The records of the merged requests that the commits name. -/
def Range.records (r : Range) : List Change :=
  (r.numbers.filterMap fun n => merged? (pullRequestIn w c r.repository n)).map r.record

/-- The answers for change requests of a repository carry the numbers that were asked for. -/
def IsNumbered (repository : String) : Prop :=
  ∀ n p, pullRequestIn w c repository n = .ok p → p.number = n

/-- A merged request that a commit of the range names, with a label and a title that is no
companion's. -/
structure Range.IsNotable (r : Range) (label pattern : String) (p : PullRequest) : Prop where
  named : ∃ m ∈ r.commits, Subject.number? m.message.toList = some p.number
  answered : pullRequestIn w c r.repository p.number = .ok p
  merged : p.isMerged = true
  labelled : label ∈ p.labels
  standalone : Companion.isCompanion (r.record p) pattern = false

/-- Some records of a range, in the order of its commits. -/
structure Range.IsPart (r : Range) (xs : List Change) : Prop where
  repository : ∀ x ∈ xs, x.repository = r.repository
  sublist : (xs.map (·.number)).Sublist r.numbers

/-- The bucket with a label, for the released range and the paired one. Its records may be shown in
another way. -/
structure IsBucket (released paired : Range) (label pattern : String) (shown : Change → Change)
    (bucket : List Change) : Prop where
  once : (bucket.map fun x => (x.repository, x.number)).Nodup
  ordered : ∃ front back, bucket = front ++ back ∧ released.IsPart front ∧ paired.IsPart back
  mem_iff : ∀ x, x ∈ bucket ↔
    (∃ p, released.IsNotable w c label pattern p ∧ x = shown (released.record p)) ∨
      ∃ p, paired.IsNotable w c label pattern p ∧ x = shown (paired.record p)

end

variable {w : World} {c : Client}

theorem merged?_eq_some_iff {answer : Except Failure PullRequest} {p : PullRequest} :
    merged? answer = some p ↔ answer = .ok p ∧ p.isMerged = true := by
  cases answer with
  | error e => simp [merged?]
  | ok q =>
    rw [merged?]
    split
    · next h =>
      simp only [Option.some.injEq, Except.ok.injEq]
      exact ⟨fun he => ⟨he, he ▸ h⟩, And.left⟩
    · next h =>
      simp only [reduceCtorEq, Except.ok.injEq, false_iff, not_and]
      exact fun he => he ▸ h

theorem Range.sublist_records {r : Range} (h : IsNumbered w c r.repository) :
    ((r.records w c).map (·.number)).Sublist r.numbers := by
  rw [records]
  induction r.numbers with
  | nil => exact .slnil
  | cons n ns ih =>
    rw [List.filterMap_cons]
    cases hm : merged? (pullRequestIn w c r.repository n) with
    | none => exact ih.cons n
    | some p =>
      have hnumber : p.number = n := h n p (merged?_eq_some_iff.1 hm).1
      simp only [List.map_cons]
      rw [show (r.record p).number = n from hnumber]
      exact ih.cons_cons n

theorem Range.mem_records {r : Range} (h : IsNumbered w c r.repository) {x : Change} :
    x ∈ r.records w c ↔ ∃ p, p.number ∈ r.numbers ∧
      pullRequestIn w c r.repository p.number = .ok p ∧ p.isMerged = true ∧ x = r.record p := by
  simp only [records, List.mem_map, List.mem_filterMap, merged?_eq_some_iff]
  constructor
  · rintro ⟨p, ⟨n, hn, hp, hm⟩, rfl⟩
    obtain rfl : p.number = n := h n p hp
    exact ⟨p, hn, hp, hm, rfl⟩
  · rintro ⟨p, hn, hp, hm, rfl⟩
    exact ⟨p, ⟨p.number, hn, hp, hm⟩, rfl⟩

theorem Range.mem_filter_records {r : Range} (h : IsNumbered w c r.repository)
    {label pattern : String} {x : Change} :
    (x ∈ r.records w c ∧ x.hasLabel label = true ∧ Companion.isCompanion x pattern = false) ↔
      ∃ p, r.IsNotable w c label pattern p ∧ x = r.record p := by
  rw [mem_records h]
  constructor
  · rintro ⟨⟨p, hn, hp, hm, rfl⟩, hl, hc⟩
    refine ⟨p, ⟨mem_namedIn.1 hn, hp, hm, ?_, hc⟩, rfl⟩
    exact Labels.mem_ofList.1 (of_decide_eq_true hl)
  · rintro ⟨p, hp, rfl⟩
    refine ⟨⟨p, mem_namedIn.2 hp.named, hp.answered, hp.merged, rfl⟩, ?_, hp.standalone⟩
    exact decide_eq_true (Labels.mem_ofList.2 hp.labelled)

theorem Range.isPart_filter {r : Range} (h : IsNumbered w c r.repository) (q : Change → Bool) :
    r.IsPart ((r.records w c).filter q) := by
  refine ⟨fun x hx => ?_, (List.filter_sublist.map _).trans (sublist_records h)⟩
  obtain ⟨p, -, rfl⟩ := List.mem_map.1 (List.mem_filter.1 hx).1
  rfl

theorem Range.IsPart.nodup {r : Range} {xs : List Change} (h : r.IsPart xs) :
    (xs.map fun x => (x.repository, x.number)).Nodup := by
  have hnumbers : (xs.map (·.number)).Nodup := (nodup_namedIn r.commits).sublist h.sublist
  have hsnd : (xs.map fun x => (x.repository, x.number)).map Prod.snd = xs.map (·.number) := by
    rw [List.map_map]
    rfl
  exact List.Nodup.of_map Prod.snd (by rwa [hsnd])

theorem nodup_append {r r' : Range} {xs ys : List Change} (hxs : r.IsPart xs) (hys : r'.IsPart ys)
    (hne : r'.repository ≠ r.repository) :
    ((xs ++ ys).map fun x => (x.repository, x.number)).Nodup := by
  rw [List.map_append, List.nodup_append]
  refine ⟨hxs.nodup, hys.nodup, ?_⟩
  intro a ha b hb hab
  obtain ⟨x, hx, rfl⟩ := List.mem_map.1 ha
  obtain ⟨y, hy, rfl⟩ := List.mem_map.1 hb
  refine hne ?_
  rw [← hxs.repository x hx, ← hys.repository y hy]
  exact (Prod.mk.inj hab).1.symm

/-- Whether a record goes into the bucket with a label. -/
def isPicked (label pattern : String) (x : Change) : Bool :=
  x.hasLabel label && !Companion.isCompanion x pattern

theorem isPicked_iff {label pattern : String} {x : Change} :
    isPicked label pattern x = true ↔
      x.hasLabel label = true ∧ Companion.isCompanion x pattern = false := by
  rw [isPicked, Bool.and_eq_true, Bool.not_eq_true']

theorem withLabel_merge (xs ys : List Change) (label pattern : String) :
    Changelog.withLabel (Companion.merge xs ys pattern) label =
      xs.filter (isPicked label pattern) ++ ys.filter (isPicked label pattern) := by
  rw [Changelog.withLabel, Companion.merge, List.filter_append, List.filter_append,
    List.filter_filter, List.filter_filter]
  rfl

/-- Merging the records of two ranges and picking those with a label makes a bucket. -/
theorem isBucket_withLabel (released paired : Range) (hr : IsNumbered w c released.repository)
    (hp : IsNumbered w c paired.repository) (hne : paired.repository ≠ released.repository)
    (label pattern : String) :
    IsBucket w c released paired label pattern id
      (Changelog.withLabel
        (Companion.merge (released.records w c) (paired.records w c) pattern) label) := by
  rw [withLabel_merge]
  refine ⟨nodup_append (Range.isPart_filter hr _) (Range.isPart_filter hp _) hne,
    ⟨_, _, rfl, Range.isPart_filter hr _, Range.isPart_filter hp _⟩, fun x => ?_⟩
  simp only [id_eq]
  rw [← Range.mem_filter_records hr, ← Range.mem_filter_records hp]
  simp only [List.mem_append, List.mem_filter, isPicked_iff]

theorem Range.IsPart.annotate {r : Range} {xs : List Change} (h : r.IsPart xs) :
    r.IsPart (xs.map Audit.annotate) := by
  refine ⟨fun x hx => ?_, ?_⟩
  · obtain ⟨y, hy, rfl⟩ := List.mem_map.1 hx
    exact h.repository y hy
  · rw [List.map_map]
    exact h.sublist

theorem IsBucket.annotate {released paired : Range} {label pattern : String} {bucket : List Change}
    (h : IsBucket w c released paired label pattern id bucket) :
    IsBucket w c released paired label pattern Audit.annotate (bucket.map Audit.annotate) := by
  obtain ⟨front, back, hbucket, hfront, hback⟩ := h.ordered
  refine ⟨?_, ⟨front.map Audit.annotate, back.map Audit.annotate, ?_, hfront.annotate,
    hback.annotate⟩, fun x => ?_⟩
  · rw [List.map_map]
    exact h.once
  · rw [hbucket, List.map_append]
  · rw [List.mem_map]
    constructor
    · rintro ⟨y, hy, rfl⟩
      rcases (h.mem_iff y).1 hy with ⟨p, hp, rfl⟩ | ⟨p, hp, rfl⟩
      · exact .inl ⟨p, hp, rfl⟩
      · exact .inr ⟨p, hp, rfl⟩
    · rintro (⟨p, hp, rfl⟩ | ⟨p, hp, rfl⟩)
      · exact ⟨_, (h.mem_iff _).2 (.inl ⟨p, hp, rfl⟩), rfl⟩
      · exact ⟨_, (h.mem_iff _).2 (.inr ⟨p, hp, rfl⟩), rfl⟩

theorem pinnedCommit_eq_ok_iff {repository : String} {pin : Settings.Pin}
    {reference revision : String} :
    ((Lockfile.Inspector.pinnedCommit c repository pin reference).run w).result = .ok revision ↔
      ∃ lockfile,
        ((Lockfile.Inspector.lockfileAt c repository pin reference).run w).result = .ok lockfile ∧
        lockfile.pinnedRevision pin.package = .ok revision := by
  rw [Lockfile.Inspector.pinnedCommit]
  simp only [result_bind_eq_ok_iff, run_ofResult, result_notify, run_pure, Except.ok.injEq]
  constructor
  · rintro ⟨lockfile, hl, r, hr, -, -, rfl⟩
    exact ⟨lockfile, hl, hr⟩
  · rintro ⟨lockfile, hl, hr⟩
    exact ⟨lockfile, hl, revision, hr, (), trivial, rfl⟩

theorem collect_eq_ok_iff {build : Build} {settings : Settings} {summary : Summary} :
    ((collect c build settings).run w).result = .ok summary ↔
      ∃ latest xs previous current ys,
        ((Forge.Resource.latestRelease c build.repository).run w).result = .ok latest ∧
        ((fetchChanges c build.repository (Reference.ofTag latest.tagName) build.currentRef
          false).run w).result = .ok xs ∧
        ((Lockfile.Inspector.pinnedCommit c build.repository settings.pin
          (Reference.ofTag latest.tagName)).run w).result = .ok previous ∧
        ((Lockfile.Inspector.pinnedCommit c build.repository settings.pin
          build.currentRef).run w).result = .ok current ∧
        ((fetchChanges c settings.changes.pairedRepository previous current true).run w).result =
          .ok ys ∧
        summary = ⟨Reference.ofTag latest.tagName, previous, current,
          Changelog.classify (Companion.merge xs ys settings.changes.companionPattern)
            settings.changes.bucketLabels⟩ := by
  rw [collect]
  simp only [result_bind_eq_ok_iff, result_notify, run_pure, Except.ok.injEq]
  constructor
  · rintro ⟨latest, hlatest, -, -, -, -, xs, hxs, previous, hprevious, current, hcurrent, -, -, ys,
      hys, -, -, rfl⟩
    exact ⟨latest, xs, previous, current, ys, hlatest, hxs, hprevious, hcurrent, hys, rfl⟩
  · rintro ⟨latest, xs, previous, current, ys, hlatest, hxs, hprevious, hcurrent, hys, rfl⟩
    exact ⟨latest, hlatest, (), trivial, (), trivial, xs, hxs, previous, hprevious, current,
      hcurrent, (), trivial, ys, hys, (), trivial, rfl⟩

theorem fetchChanges_eq_records {repository base head : String} {named : Bool} {xs : List Change}
    (h : ((fetchChanges c repository base head named).run w).result = .ok xs) :
    ∃ comparison : Comparison,
      ((Forge.Resource.compare c repository base head).run w).result = .ok comparison ∧
      xs = Range.records w c
        ⟨repository, shownName repository named, comparison.commits⟩ := by
  obtain ⟨comparison, hc, -, rfl⟩ := fetchChanges_eq_ok_iff.1 h
  exact ⟨comparison, hc, rfl⟩

/-- The change request that a reply describes. -/
def requestIn? (reply : Http.Reply) : Option PullRequest :=
  (Json.Parser.parse (String.ofList (Bytes.Utf8.decodeLenient reply.body))).bind pullRequest?

/-- The replies to requests for change requests of a repository carry the numbers that were asked
for. -/
def RepliesNumbered (w : World) (c : Client) (repository : String) : Prop :=
  ∀ n reply p, w.contact (requestFor c repository n) = .answered reply →
    requestIn? reply = some p → p.number = n

theorem RepliesNumbered.isNumbered {repository : String} (h : RepliesNumbered w c repository)
    (hw : Http.Fetch.IsDirect w) : IsNumbered w c repository := by
  intro n p hp
  rw [pullRequestIn_eq hw] at hp
  obtain ⟨-, reply, hreply, -, -, hread⟩ := Client.answer_eq_ok_iff.1 hp
  exact h n reply p hreply hread

theorem repliesNumbered_steady {repository : String} {reply : Http.Reply}
    (h : requestIn? reply = none) : RepliesNumbered (Http.Fetch.steady reply) c repository := by
  intro n x p hx hp
  obtain rfl : reply = x := by simpa [Http.Fetch.steady] using hx
  simp [h] at hp

theorem RepliesNumbered.replying {repository : String} (h : RepliesNumbered w c repository)
    {r : Http.Request} {reply : Http.Reply}
    (hr : ∀ n p, requestFor c repository n = r → requestIn? reply = some p → p.number = n) :
    RepliesNumbered (Http.Fetch.replying r reply w) c repository := by
  intro n x p hx hp
  by_cases hn : requestFor c repository n = r
  · rw [hn, Http.Fetch.contact_replying] at hx
    obtain rfl := Http.Contact.answered.inj hx
    exact hr n p hn hp
  · rw [Http.Fetch.contact_replying_of_ne reply hn] at hx
    exact h n x p hx hp

namespace Sample

def build : Build := ⟨"refs/heads/m", "o/r", ⟨"token"⟩, "", "", ""⟩

def settings : Settings := { changes := { pairedRepository := "o/s" } }

/-- The lockfile of the package that is looked for, with the revision `r`. -/
def file : FileContents := ⟨"f", "W1twYWNrYWdlXV0KbmFtZT0ic2MtY2xpIgpzb3VyY2U9ImcjciIK", "base64"⟩

def commit : Commit := ⟨"s", "Fix (#1)"⟩

def change : PullRequest := ⟨1, "Fix", "u", some "d", ["B1-releasenotes"]⟩

def releaseBody : String := "[\"v\"]"

def commitBody : String := "[1,[[\"s\",[\"Fix (#1)\"]]]]"

def emptyBody : String := "[0,[]]"

def changeBody : String := "[1,\"Fix\",\"u\",\"d\",[[\"B1-releasenotes\"]]]"

def fileBody : String :=
  "[\"f\",\"W1twYWNrYWdlXV0KbmFtZT0ic2MtY2xpIgpzb3VyY2U9ImcjciIK\",\"base64\"]"

/-- A forge with a release, and with one commit after it in one of the two repositories. -/
def world : World :=
  Http.Fetch.replying
    (Client.sample.requestFor (Forge.Resource.segments "o/r" ["releases", "latest"]) [])
    (granted releaseBody) <|
  Http.Fetch.replying (Forge.Resource.pageRequest .sample "o/r" "refs/tags/v" "refs/heads/m" 1)
    (granted commitBody) <|
  Http.Fetch.replying (Forge.Resource.pageRequest .sample "o/s" "r" "r" 1) (granted emptyBody) <|
  Http.Fetch.replying (requestFor .sample "o/r" 1) (granted changeBody) <|
  Http.Fetch.steady (granted fileBody)

theorem isDirect_world : Http.Fetch.IsDirect world := by
  have hgranted : ∀ body, (granted body).status ∉ Http.Fetch.redirectStatuses := by
    simp [granted, Http.Fetch.redirectStatuses]
  exact Http.Fetch.isDirect_replying (Http.Fetch.isDirect_replying (Http.Fetch.isDirect_replying
    (Http.Fetch.isDirect_replying (Http.Fetch.isDirect_steady (hgranted _)) _ (hgranted _))
    _ (hgranted _)) _ (hgranted _)) _ (hgranted _)

theorem isNumbered_world (repository : String) : IsNumbered world .sample repository := by
  have hfile : requestIn? (granted fileBody) = none := by decide +kernel
  have hchange : requestIn? (granted changeBody) = some change := by decide +kernel
  have hempty : requestIn? (granted emptyBody) = none := by decide +kernel
  have hcommit : requestIn? (granted commitBody) = none := by decide +kernel
  have hrelease : requestIn? (granted releaseBody) = none := by decide +kernel
  have hnumbered : RepliesNumbered world .sample repository := by
    refine ((((repliesNumbered_steady hfile).replying fun n p hn hp => ?_).replying
      fun n p _ hp => ?_).replying fun n p _ hp => ?_).replying fun n p _ hp => ?_
    · obtain rfl : change = p := by simpa [hchange] using hp
      exact (number_eq_of_requestFor Client.canAsk_sample hn).symm
    · simp [hempty] at hp
    · simp [hcommit] at hp
    · simp [hrelease] at hp
  exact hnumbered.isNumbered isDirect_world

theorem pinnedCommit_world {reference : String}
    (h : world.contact (Client.sample.requestFor
      (Forge.Resource.contentsSegments "o/r" "Cargo.lock") [("ref", reference)]) =
        .answered (granted fileBody)) :
    ((Lockfile.Inspector.pinnedCommit .sample "o/r" settings.pin reference).run world).result =
      .ok "r" := by
  have hfile : ((Forge.Resource.contents .sample "o/r" "Cargo.lock" reference).run world).result =
      .ok file :=
    (Client.result_ask isDirect_world _ _ _ _).trans (Client.answer_eq_ok_iff.2
      ⟨Client.canAsk_sample, _, h, rfl, rfl, by decide +kernel⟩)
  have htext : file.decodeText = .ok "[[package]]\nname=\"sc-cli\"\nsource=\"g#r\"\n" :=
    eq_ok_of_toOption (by decide +kernel)
  have hlock : Lockfile.Reader.read "[[package]]\nname=\"sc-cli\"\nsource=\"g#r\"\n" =
      .ok ⟨none, [⟨"sc-cli", "", some "g#r"⟩]⟩ :=
    eq_ok_of_toOption (by decide +kernel)
  refine pinnedCommit_eq_ok_iff.2 ⟨⟨none, [⟨"sc-cli", "", some "g#r"⟩]⟩, ?_,
    eq_ok_of_toOption (by decide +kernel)⟩
  have hpath : settings.pin.path = "Cargo.lock" := rfl
  simp only [Lockfile.Inspector.lockfileAt, hpath, result_bind, hfile, run_ofResult, htext,
    result_notify, hlock]

end Sample

end ReleaseBulletin.Release.Collection
