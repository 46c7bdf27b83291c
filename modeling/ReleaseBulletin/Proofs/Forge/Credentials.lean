import ReleaseBulletin.Proofs.Session.Alike
import ReleaseBulletin.Release.Collection

/-!
Clients of one forge with different tokens: whatever they are used for, they ask for the same URLs
in the same way and make the same of the answers.
-/
namespace ReleaseBulletin
open Http Session Forge

theorem Http.Fetch.fetch_alike (endpoint : String) (n : Nat) {r r' : Request}
    (h : r.url = r'.url) : Alike Eq (fetch endpoint n r) (fetch endpoint n r') := by
  induction n generalizing r r' with
  | zero =>
    rw [fetch, fetch, h]
    split
    · exact (Alike.ask h).bind_eq fun _ => .refl _
    · exact .refl _
  | succ n ih =>
    rw [fetch, fetch, h]
    split
    · refine (Alike.ask h).bind_eq fun contact => ?_
      cases contact with
      | unreachable => exact .refl _
      | silent => exact .refl _
      | answered reply =>
        dsimp only
        cases target? r'.url reply with
        | none => exact .refl _
        | some target => exact ih rfl
    · exact .refl _

theorem Forge.Client.url_request_eq (c c' : Client) (endpoint : Url)
    (query : List (String × String)) :
    (c.request endpoint query).url = (c'.request endpoint query).url := by
  unfold request
  cases credentials? endpoint <;> rfl

theorem Forge.Client.get_alike {α : Type} (c c' : Client) (read : Document.Tree → Option α)
    (endpoint : Url) (query : List (String × String)) :
    Alike Eq (c.get read endpoint query) (c'.get read endpoint query) := by
  refine (Alike.refl _).bind_eq fun _ => ?_
  cases endpoint.host? with
  | none => exact .refl _
  | some host =>
    exact (Http.Fetch.fetch_alike _ _ (url_request_eq c c' endpoint query)).bind_eq fun _ => .refl _

section Resources

variable {c c' : Client} (h : c.base = c'.base)
include h

theorem Forge.Client.endpoint_congr (segments : List String) :
    c.endpoint segments = c'.endpoint segments := by
  rw [endpoint, endpoint, h]

theorem Forge.Client.ask_alike {α : Type} (read : Document.Tree → Option α)
    (segments : List String) (query : List (String × String)) :
    Alike Eq (Session.ofResult (c.endpoint segments) >>= fun endpoint => c.get read endpoint query)
      (Session.ofResult (c'.endpoint segments) >>= fun endpoint =>
        c'.get read endpoint query) := by
  rw [endpoint_congr h]
  exact (Alike.refl _).bind_eq fun endpoint => get_alike c c' read endpoint query

namespace Forge.Resource

theorem contents_alike (repository path reference : String) :
    Alike Eq (contents c repository path reference) (contents c' repository path reference) :=
  Client.ask_alike h _ _ _

theorem latestRelease_alike (repository : String) :
    Alike Eq (latestRelease c repository) (latestRelease c' repository) :=
  Client.ask_alike h _ _ _

theorem pullRequest_alike (repository : String) (number : Nat) :
    Alike Eq (pullRequest c repository number) (pullRequest c' repository number) :=
  Client.ask_alike h _ _ _

omit h in
theorem collectPages_alike (c c' : Client) (endpoint : Url) (total room page : Nat)
    (collected : List Payload.Commit) :
    Alike Eq (collectPages c endpoint total room page collected)
      (collectPages c' endpoint total room page collected) := by
  induction room generalizing page collected with
  | zero => exact .refl _
  | succ room ih =>
    rw [collectPages, collectPages]
    split
    · refine (Client.get_alike c c' _ _ _).bind_eq fun next => ?_
      cases next.commits with
      | nil => exact .refl _
      | cons commit commits => exact (Alike.refl _).bind_eq fun _ => ih _ _
    · exact .refl _

theorem compare_alike (repository base head : String) :
    Alike Eq (compare c repository base head) (compare c' repository base head) := by
  rw [compare, compare, Client.endpoint_congr h]
  refine (Alike.refl _).bind_eq fun endpoint => ?_
  refine (Client.get_alike c c' _ _ _).bind_eq fun first => ?_
  exact (collectPages_alike c c' endpoint _ _ _ _).bind_eq fun _ => .refl _

end Forge.Resource

namespace Change.Retrieval

theorem change?_alike (repository name : String) (number : Nat) :
    Alike Eq (change? c repository name number) (change? c' repository name number) :=
  (Resource.pullRequest_alike h repository number).attempt.bind_eq fun _ => .refl _

theorem changesOf_alike (repository name : String) (ns : List Nat) :
    Alike Eq (changesOf c repository name ns) (changesOf c' repository name ns) := by
  induction ns with
  | nil => exact .refl _
  | cons n ns ih =>
    exact (change?_alike h repository name n).bind_eq fun _ => ih.bind_eq fun _ => .refl _

theorem fetchChanges_alike (repository base head : String) (named : Bool) :
    Alike Eq (fetchChanges c repository base head named)
      (fetchChanges c' repository base head named) := by
  refine (Resource.compare_alike h repository base head).bind_eq fun comparison => ?_
  exact (Alike.refl _).bind_eq fun _ => changesOf_alike h _ _ _

end Change.Retrieval

theorem Lockfile.Inspector.pinnedCommit_alike (repository : String) (pin : Settings.Pin)
    (reference : String) :
    Alike Eq (pinnedCommit c repository pin reference)
      (pinnedCommit c' repository pin reference) := by
  refine Alike.bind_eq ?_ fun _ => .refl _
  exact (Resource.contents_alike h repository pin.path reference).bind_eq fun _ => .refl _

/-- Builds that differ in their tokens alone have the same summary. -/
theorem Release.Collection.collect_alike {b b' : Environment.Build} (settings : Settings)
    (repository : b.repository = b'.repository) (currentRef : b.currentRef = b'.currentRef) :
    Alike Eq (collect c b settings) (collect c' b' settings) := by
  rw [collect, collect, repository, currentRef]
  refine (Resource.latestRelease_alike h _).bind_eq fun latest => ?_
  refine (Alike.refl _).bind_eq fun _ => (Alike.refl _).bind_eq fun _ => ?_
  refine (Change.Retrieval.fetchChanges_alike h _ _ _ _).bind_eq fun released => ?_
  refine (Lockfile.Inspector.pinnedCommit_alike h _ _ _).bind_eq fun previous => ?_
  refine (Lockfile.Inspector.pinnedCommit_alike h _ _ _).bind_eq fun current => ?_
  refine (Alike.refl _).bind_eq fun _ => ?_
  exact (Change.Retrieval.fetchChanges_alike h _ _ _ _).bind_eq fun _ => .refl _

end Resources

end ReleaseBulletin
