import ReleaseBulletin.Lockfile.Inspector
import ReleaseBulletin.Proofs.Forge.File
import ReleaseBulletin.Proofs.Lockfile.Layout

/-!
The revision that a laid out lockfile pins, recovered from the answer of the forge: the payload is
unwrapped, its text read back, and the first package with the name decides.
-/
namespace ReleaseBulletin.Lockfile
open Forge Http Session

/-- The revision of a package, or why it has none: what follows the first number sign of its
source. -/
inductive Package.Pins (p : Package) : Except Failure String → Prop
  | revision {front rev : String} (hsource : p.source = some (front ++ "#" ++ rev))
      (hfront : '#' ∉ front.toList) : p.Pins (.ok rev)
  | withoutSource (hsource : p.source = none) : p.Pins (.error (.packageWithoutSource p.name))
  | withoutRevision {s : String} (hsource : p.source = some s) (hs : '#' ∉ s.toList) :
      p.Pins (.error (.sourceWithoutRevision p.name s))

/-- The revision pinned for a name among packages. The first package with the name decides; what
comes after it says nothing. -/
inductive Pinned (ps : List Package) (name : String) : Except Failure String → Prop
  | absent (h : ∀ p ∈ ps, p.name ≠ name) : Pinned ps name (.error (.packageNotFound name))
  | first {before after : List Package} {p : Package} {r : Except Failure String}
      (hps : ps = before ++ p :: after) (hbefore : ∀ q ∈ before, q.name ≠ name)
      (hname : p.name = name) (hr : p.Pins r) : Pinned ps name r

theorem revision?_append {front rev : String} (h : '#' ∉ front.toList) :
    revision? (front ++ "#" ++ rev) = some rev := by
  have htext : (front ++ "#" ++ rev).toList = front.toList ++ '#' :: rev.toList := by simp
  rw [revision?, htext, Text.Affix.afterFirst?_append h, Option.map_some, String.ofList_toList]

theorem revision?_eq_none {s : String} (h : '#' ∉ s.toList) : revision? s = none := by
  rw [revision?, Text.Affix.afterFirst?_eq_none_iff.2 h, Option.map_none]

theorem Package.exists_pins (p : Package) : ∃ r, p.Pins r := by
  cases hsource : p.source with
  | none => exact ⟨_, .withoutSource hsource⟩
  | some s =>
    by_cases hs : '#' ∈ s.toList
    · -- The occurrence that has none before it splits the source.
      obtain ⟨front, rev, hsplit, hfront⟩ := List.eq_append_cons_of_mem hs
      have htext : s = String.ofList front ++ "#" ++ String.ofList rev := by
        rw [← String.toList_inj]
        simp [hsplit]
      exact ⟨_, .revision (hsource.trans (congrArg some htext)) (by simpa using hfront)⟩
    · exact ⟨_, .withoutRevision hsource hs⟩

theorem find?_eq_none {l : Lockfile} {name : String} (h : ∀ p ∈ l.packages, p.name ≠ name) :
    l.find? name = none :=
  List.find?_eq_none.2 fun p hp => by simpa using h p hp

theorem find?_first {l : Lockfile} {name : String} {before after : List Package} {p : Package}
    (hps : l.packages = before ++ p :: after) (hbefore : ∀ q ∈ before, q.name ≠ name)
    (hname : p.name = name) : l.find? name = some p :=
  List.find?_eq_some_iff_append.2
    ⟨by simpa using hname, before, after, hps, fun q hq => by simpa using hbefore q hq⟩

theorem pinnedRevision_of_pinned {l : Lockfile} {name : String} {r : Except Failure String}
    (h : Pinned l.packages name r) : l.pinnedRevision name = r := by
  cases h with
  | absent h => rw [pinnedRevision, find?_eq_none h]
  | first hps hbefore hname hr =>
    subst hname
    rw [pinnedRevision, find?_first hps hbefore rfl]
    cases hr with
    | revision hsource hfront => simp only [hsource, revision?_append hfront]
    | withoutSource hsource => simp only [hsource]
    | withoutRevision hsource hs => simp only [hsource, revision?_eq_none hs]

theorem exists_pinned (ps : List Package) (name : String) : ∃ r, Pinned ps name r := by
  cases hfind : ps.find? (·.name = name) with
  | none =>
    refine ⟨_, .absent fun p hp => ?_⟩
    simpa using List.find?_eq_none.1 hfind p hp
  | some p =>
    obtain ⟨hname, before, after, hps, hbefore⟩ := List.find?_eq_some_iff_append.1 hfind
    obtain ⟨r, hr⟩ := p.exists_pins
    exact ⟨r, .first hps (fun q hq => by simpa using hbefore q hq) (by simpa using hname) hr⟩

theorem pinnedRevision_eq_iff {l : Lockfile} {name : String} {r : Except Failure String} :
    l.pinnedRevision name = r ↔ Pinned l.packages name r := by
  refine ⟨fun h => ?_, pinnedRevision_of_pinned⟩
  obtain ⟨r', hr'⟩ := exists_pinned l.packages name
  rwa [← h, pinnedRevision_of_pinned hr']

/-- What is missing in a lockfile has to be looked up elsewhere. -/
theorem Pinned.kind {ps : List Package} {name : String} {e : Failure}
    (h : Pinned ps name (.error e)) : e.kind = .lookup := by
  cases h with
  | absent h => rfl
  | first hps hbefore hname hr => cases hr <;> rfl

namespace Inspector

/-- Every answer that sends a laid out lockfile as wrapped base64 ends the inspection with the
revision that the packages pin, whatever its path and the white space in its payload. The object
of any file, as it is written, is such an answer. -/
theorem pinnedCommit_recovers_pinned {c : Client} (hc : c.CanAsk) {w : World}
    {repository reference : String} {pin : Settings.Pin} {reply : Reply}
    (hreply : w.contact (c.requestFor (Resource.contentsSegments repository pin.path)
      [("ref", reference)]) = .answered reply)
    (hstatus : reply.status = 200) (hcomplete : reply.complete = true) {file : FileContents}
    (hbody : file.IsSentAs reply.body) (hencoding : file.encoding = "base64")
    {ps : List Package} (hps : ∀ p ∈ ps, p.IsPlain)
    (hpayload : FileContents.Wrapped (FileContents.payload (Layout.text ps))
      file.content.toList) :
    (∀ r, ((pinnedCommit c repository pin reference).run w).result = r ↔
      Pinned ps pin.package r) ∧
    (∀ e, ((pinnedCommit c repository pin reference).run w).result = .error e →
      e.kind = .lookup) ∧
    ∀ f : FileContents, f.IsSentAs (granted (Json.Printer.print (.table f.written))).body := by
  have hlockfile : ((lockfileAt c repository pin reference).run w).result = .ok ⟨some 3, ps⟩ := by
    rw [lockfileAt]
    simp only [result_bind, Resource.result_contents hc hreply hstatus hcomplete hbody,
      run_ofResult, FileContents.decodeText_of_wrapped hencoding hpayload, result_notify,
      Layout.read_text hps]
  have hresult : ((pinnedCommit c repository pin reference).run w).result =
      Lockfile.pinnedRevision ⟨some 3, ps⟩ pin.package := by
    rw [pinnedCommit]
    simp only [result_bind, hlockfile, run_ofResult, result_notify]
    cases Lockfile.pinnedRevision ⟨some 3, ps⟩ pin.package <;> rfl
  have hiff : ∀ r, ((pinnedCommit c repository pin reference).run w).result = r ↔
      Pinned ps pin.package r := fun r => by
    rw [hresult]
    exact pinnedRevision_eq_iff
  exact ⟨hiff, fun e he => ((hiff _).1 he).kind, FileContents.isSentAs_granted⟩

/-- Packages of which two have one name, and the first has no source. -/
def samplePackages : List Package :=
  [⟨"core", "1", none⟩, ⟨"sc-cli", "1", some "git?rev=x#r#1"⟩, ⟨"sc-cli", "2", some "git#2"⟩]

/-- The file with the sample packages. A line feed stands before its payload. -/
def sampleFile : FileContents :=
  ⟨"any", String.ofList ('\n' :: FileContents.payload (Layout.text samplePackages)), "base64"⟩

theorem isPlain_samplePackages : ∀ p ∈ samplePackages, p.IsPlain := by
  intro p hp
  simp only [samplePackages, List.mem_cons, List.not_mem_nil, or_false] at hp
  rcases hp with rfl | rfl | rfl
  · exact ⟨by decide, by decide, by simp⟩
  · exact ⟨by decide, by decide, by rintro s ⟨⟩; decide⟩
  · exact ⟨by decide, by decide, by rintro s ⟨⟩; decide⟩

theorem wrapped_sampleFile : FileContents.Wrapped
    (FileContents.payload (Layout.text samplePackages)) sampleFile.content.toList := by
  rw [sampleFile, String.toList_ofList]
  exact .blank (by decide) (.self _)

theorem pinnedCommit_sample :
    let w := Fetch.steady (granted (Json.Printer.print (.table sampleFile.written)))
    ((pinnedCommit .sample "o/r" ⟨"Cargo.lock", "sc-cli"⟩ "v").run w).result = .ok "r#1" ∧
      ((pinnedCommit .sample "o/r" ⟨"Cargo.lock", "core"⟩ "v").run w).result =
        .error (.packageWithoutSource "core") := by
  intro w
  have hreply : ∀ r, w.contact r =
      .answered (granted (Json.Printer.print (.table sampleFile.written))) := fun _ => rfl
  have hgranted : ∀ body, (granted body).status = 200 ∧ (granted body).complete = true :=
    fun _ => ⟨rfl, rfl⟩
  have hpinned : ∀ (pin : Settings.Pin) (r : Except Failure String),
      ((pinnedCommit .sample "o/r" pin "v").run w).result = r ↔
        Pinned samplePackages pin.package r := fun pin =>
    (pinnedCommit_recovers_pinned Client.canAsk_sample (hreply _) (hgranted _).1 (hgranted _).2
      sampleFile.isSentAs_granted rfl isPlain_samplePackages wrapped_sampleFile).1
  have hsplit : samplePackages = [⟨"core", "1", none⟩] ++
      ⟨"sc-cli", "1", some "git?rev=x#r#1"⟩ :: [⟨"sc-cli", "2", some "git#2"⟩] := rfl
  have hsource : some "git?rev=x#r#1" = some ("git?rev=x" ++ "#" ++ "r#1") := by decide
  constructor
  · exact (hpinned _ _).2 (.first hsplit (by decide) rfl (.revision hsource (by decide)))
  · have hsplit : samplePackages = [] ++ ⟨"core", "1", none⟩ ::
        [⟨"sc-cli", "1", some "git?rev=x#r#1"⟩, ⟨"sc-cli", "2", some "git#2"⟩] := rfl
    exact (hpinned _ _).2 (.first hsplit (by simp) rfl (.withoutSource rfl))

end Inspector

end ReleaseBulletin.Lockfile
