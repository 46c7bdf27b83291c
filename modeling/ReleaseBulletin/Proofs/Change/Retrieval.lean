import ReleaseBulletin.Change.Retrieval
import ReleaseBulletin.Proofs.Change.Subject
import ReleaseBulletin.Proofs.Forge.Comparison

/-!
Retrieving changes: what the answer for each number does to the list, and where the loop ends.
-/
namespace ReleaseBulletin.Change.Retrieval
open Forge Forge.Payload Session

/-- The failure that the answer for a number ends the retrieval with. A request that the forge does
not know ends nothing. -/
def abort? : Except Failure PullRequest → Option Failure
  | .ok _ => none
  | .error e => if e.isNotFound then none else some e

/-- The merged request of an answer. -/
def merged? : Except Failure PullRequest → Option PullRequest
  | .ok p => if p.isMerged then some p else none
  | .error _ => none

/-- The numbers that the subjects of commits name, each at its first occurrence. -/
def namedIn (commits : List Commit) : List Nat :=
  (commits.filterMap fun m => Subject.number? m.message.toList).eraseDups

/-- The name that links show for a repository. -/
def shownName (repository : String) (named : Bool) : String :=
  if named then repositoryName repository else ""

theorem numbers_messages (commits : List Commit) :
    Subject.numbers (commits.map (·.message)) = namedIn commits := by
  rw [Subject.numbers_eq, List.filterMap_map]
  rfl

theorem nodup_namedIn (commits : List Commit) : (namedIn commits).Nodup := by
  rw [← numbers_messages]
  exact Subject.nodup_numbers _

theorem mem_namedIn {commits : List Commit} {n : Nat} :
    n ∈ namedIn commits ↔ ∃ m ∈ commits, Subject.number? m.message.toList = some n := by
  rw [← numbers_messages, Subject.mem_numbers]
  simp

section

variable (w : World) (c : Client) (repository name : String)

/-- The answer for a number. -/
def pullRequestIn (n : Nat) : Except Failure PullRequest :=
  ((Forge.Resource.pullRequest c repository n).run w).result

def requestsFor (n : Nat) : List Http.Request :=
  ((Forge.Resource.pullRequest c repository n).run w).requests

theorem result_change? (n : Nat) :
    ((change? c repository name n).run w).result =
      match abort? (pullRequestIn w c repository n) with
      | some e => .error e
      | none => .ok ((merged? (pullRequestIn w c repository n)).map
          (ofPullRequest repository name)) := by
  rw [change?, pullRequestIn]
  simp only [result_bind, result_attempt]
  cases ((Forge.Resource.pullRequest c repository n).run w).result with
  | ok p => cases hm : p.isMerged <;> simp [abort?, merged?, hm]
  | error e => cases hn : e.isNotFound <;> simp [abort?, merged?, hn]

theorem requests_change? (n : Nat) :
    ((change? c repository name n).run w).requests = requestsFor w c repository n := by
  rw [change?, requestsFor]
  simp only [requests_bind, requests_attempt, result_attempt]
  cases ((Forge.Resource.pullRequest c repository n).run w).result with
  | ok p => cases hm : p.isMerged <;> simp [hm]
  | error e => cases hn : e.isNotFound <;> simp [hn]

variable {w c repository name}

/-- If no answer ends the retrieval, its value is the merged requests in the order of the numbers. -/
theorem changesOf_of_no_abort (name : String) {ns : List Nat}
    (h : ∀ n ∈ ns, abort? (pullRequestIn w c repository n) = none) :
    ((changesOf c repository name ns).run w).result =
        .ok ((ns.filterMap fun n => merged? (pullRequestIn w c repository n)).map
          (ofPullRequest repository name)) ∧
      ((changesOf c repository name ns).run w).requests =
        ns.flatMap (requestsFor w c repository) := by
  induction ns with
  | nil => exact ⟨rfl, rfl⟩
  | cons n ns ih =>
    obtain ⟨hres, hreqs⟩ := ih fun m hm => h m (List.mem_cons_of_mem n hm)
    have hn := h n List.mem_cons_self
    rw [changesOf]
    simp only [result_bind, requests_bind, result_change?, requests_change?, hn, hres, hreqs]
    refine ⟨?_, by simp⟩
    cases hm : merged? (pullRequestIn w c repository n) <;> simp [hm]

/-- The first answer that ends the retrieval tells its failure. Nothing is asked for after it. -/
theorem changesOf_of_abort (name : String) {pre : List Nat} (post : List Nat) {n : Nat}
    {e : Failure}
    (h : ∀ m ∈ pre, abort? (pullRequestIn w c repository m) = none)
    (hn : abort? (pullRequestIn w c repository n) = some e) :
    ((changesOf c repository name (pre ++ n :: post)).run w).result = .error e ∧
      ((changesOf c repository name (pre ++ n :: post)).run w).requests =
        (pre ++ [n]).flatMap (requestsFor w c repository) := by
  induction pre with
  | nil =>
    rw [List.nil_append, changesOf]
    simp [result_change?, requests_change?, hn]
  | cons m pre ih =>
    obtain ⟨hres, hreqs⟩ := ih fun k hk => h k (List.mem_cons_of_mem m hk)
    have hm := h m List.mem_cons_self
    rw [List.cons_append, changesOf]
    simp only [result_bind, requests_bind, result_change?, requests_change?, hm, hres, hreqs]
    simp

theorem no_abort_of_changesOf {ns : List Nat} {xs : List Change}
    (h : ((changesOf c repository name ns).run w).result = .ok xs) :
    ∀ n ∈ ns, abort? (pullRequestIn w c repository n) = none := by
  induction ns generalizing xs with
  | nil => simp
  | cons m ns ih =>
    rw [changesOf, result_bind_eq_ok_iff] at h
    obtain ⟨change, hchange, h⟩ := h
    obtain ⟨rest, hrest, -⟩ := (result_bind_eq_ok_iff w).1 h
    intro n hn
    rcases List.mem_cons.1 hn with rfl | hn
    · rw [result_change?] at hchange
      split at hchange
      · simp at hchange
      · assumption
    · exact ih hrest n hn

theorem fetchChanges_of_error {base head : String} {named : Bool} {e : Failure}
    (h : ((Forge.Resource.compare c repository base head).run w).result = .error e) :
    ((fetchChanges c repository base head named).run w).result = .error e ∧
      ((fetchChanges c repository base head named).run w).requests =
        ((Forge.Resource.compare c repository base head).run w).requests := by
  simp [fetchChanges, h]

theorem fetchChanges_of_ok {base head : String} (named : Bool) {comparison : Comparison}
    (h : ((Forge.Resource.compare c repository base head).run w).result = .ok comparison) :
    let rest := (changesOf c repository (shownName repository named)
      (namedIn comparison.commits)).run w
    ((fetchChanges c repository base head named).run w).result = rest.result ∧
      ((fetchChanges c repository base head named).run w).requests =
        ((Forge.Resource.compare c repository base head).run w).requests ++ rest.requests := by
  simp [fetchChanges, h, numbers_messages, shownName]

/-- The changes between two references are the merged requests that the commits name. -/
theorem fetchChanges_eq_ok_iff {base head : String} {named : Bool} {xs : List Change} :
    ((fetchChanges c repository base head named).run w).result = .ok xs ↔
      ∃ comparison : Comparison,
        ((Forge.Resource.compare c repository base head).run w).result = .ok comparison ∧
        (∀ n ∈ namedIn comparison.commits, abort? (pullRequestIn w c repository n) = none) ∧
        xs = ((namedIn comparison.commits).filterMap fun n =>
          merged? (pullRequestIn w c repository n)).map
            (ofPullRequest repository (shownName repository named)) := by
  constructor
  · intro h
    cases hc : ((Forge.Resource.compare c repository base head).run w).result with
    | error e =>
      rw [(fetchChanges_of_error hc).1] at h
      cases h
    | ok comparison =>
      rw [(fetchChanges_of_ok named hc).1] at h
      have hnone := no_abort_of_changesOf h
      refine ⟨comparison, rfl, hnone, ?_⟩
      rw [(changesOf_of_no_abort _ hnone).1] at h
      exact (Except.ok.inj h).symm
  · rintro ⟨comparison, hc, hnone, rfl⟩
    rw [(fetchChanges_of_ok named hc).1, (changesOf_of_no_abort _ hnone).1]

end

/-- The name of a repository is what stands after the last slash, if there is one. -/
structure IsShortName (repository name : String) : Prop where
  atomic : '/' ∉ name.toList
  last : repository = name ∨ ∃ owner, repository = owner ++ "/" ++ name

/-- The last part of a text. There is a separator before it if there is another part. -/
theorem getLast?_split (sep : Char) (cs : List Char) :
    ∃ last, (Text.Affix.split sep cs).getLast? = some last ∧ sep ∉ last ∧
      ((Text.Affix.split sep cs = [last] ∧ cs = last) ∨
        (2 ≤ (Text.Affix.split sep cs).length ∧ ∃ front, cs = front ++ sep :: last)) := by
  -- A new first character goes to the first part, which may be the last one too.
  induction cs with
  | nil => exact ⟨[], rfl, List.not_mem_nil, .inl ⟨rfl, rfl⟩⟩
  | cons c cs ih =>
    obtain ⟨last, hlast, hsep, hcs⟩ := ih
    rw [Text.Affix.split]
    by_cases hc : c = sep
    · subst hc
      rw [if_pos rfl]
      have hlength : 2 ≤ ([] :: Text.Affix.split c cs).length := by
        have : Text.Affix.split c cs ≠ [] := by
          rintro hnil
          simp [hnil] at hlast
        have := List.length_pos_iff.2 this
        rw [List.length_cons]
        omega
      refine ⟨last, by simp [List.getLast?_cons, hlast], hsep, .inr ⟨hlength, ?_⟩⟩
      rcases hcs with ⟨-, rfl⟩ | ⟨-, front, rfl⟩
      · exact ⟨[], rfl⟩
      · exact ⟨c :: front, rfl⟩
    · rw [if_neg hc]
      rcases hcs with ⟨hsplit, rfl⟩ | ⟨hlength, front, rfl⟩
      · rw [hsplit]
        exact ⟨c :: cs, rfl, by simp [Ne.symm hc, hsep], .inl ⟨rfl, rfl⟩⟩
      · cases hsplit : Text.Affix.split sep (front ++ sep :: last) with
        | nil => simp [hsplit] at hlast
        | cons part parts =>
          rw [hsplit] at hlast hlength
          refine ⟨last, ?_, hsep, .inr ⟨hlength, c :: front, rfl⟩⟩
          cases parts with
          | nil => simp at hlength
          | cons => simpa [List.getLast?_cons_cons] using hlast

theorem isShortName_repositoryName (repository : String) :
    IsShortName repository (repositoryName repository) := by
  obtain ⟨last, hlast, hsep, hcs⟩ := getLast?_split '/' repository.toList
  have hname : repositoryName repository = String.ofList last := by
    simp [repositoryName, Path.components, List.getLast?_map, hlast]
  rw [hname]
  refine ⟨by simpa using hsep, ?_⟩
  rcases hcs with ⟨-, h⟩ | ⟨-, front, h⟩
  · exact .inl (by rw [← h, String.ofList_toList])
  · refine .inr ⟨String.ofList front, ?_⟩
    rw [← String.toList_inj, h]
    simp

/-- What is recorded of a merged request, with the name that its link shows. -/
structure Records (repository name : String) (p : PullRequest) (x : Change) : Prop where
  number : x.number = p.number
  title : x.title = p.title
  url : x.url = p.url
  repository : x.repository = repository
  labels : ∀ label, label ∈ x.labels ↔ label ∈ p.labels
  prettyTitle : x.prettyTitle =
    p.title ++ " ([" ++ name ++ "#" ++ toString p.number ++ "](" ++ p.url ++ "))"

theorem records_ofPullRequest (repository name : String) (p : PullRequest) :
    Records repository name p (ofPullRequest repository name p) :=
  ⟨rfl, rfl, rfl, rfl, fun _ => Labels.mem_ofList, rfl⟩

theorem forall₂_records (repository name : String) (ps : List PullRequest) :
    List.Forall₂ (Records repository name) ps (ps.map (ofPullRequest repository name)) :=
  List.forall₂_map_right_iff.2 (List.forall₂_same.2 fun p _ => records_ofPullRequest _ _ p)

section

variable {w : World} {c : Client} {repository : String}

def answerFor (w : World) (c : Client) (repository : String) (n : Nat) :
    Except Failure PullRequest :=
  c.answer w pullRequest? (Forge.Resource.pullRequestSegments repository n) []

/-- The request for the change request with a number. -/
def requestFor (c : Client) (repository : String) (n : Nat) : Http.Request :=
  c.requestFor (Forge.Resource.pullRequestSegments repository n) []

theorem path_requestFor (repository : String) (hc : c.CanAsk) (n : Nat) :
    ∃ front, (requestFor c repository n).url.path = .segments (front ++ [toString n]) := by
  obtain ⟨endpoint, he⟩ := hc.endpoint (Forge.Resource.pullRequestSegments repository n)
  have hbelow := (Client.endpoint_eq_ok he).1
  rw [requestFor, Client.requestFor_eq he, Client.path_request]
  have hsegments : Forge.Resource.pullRequestSegments repository n =
      ("repos" :: Path.components repository ++ ["pulls"]) ++ [toString n] := by
    rw [Forge.Resource.pullRequestSegments, Forge.Resource.segments, List.append_assoc]
    rfl
  rw [hsegments] at hbelow
  exact Url.Endpoint.path_of_below? hbelow

/-- Different numbers are asked for by different requests, also in different repositories. -/
theorem number_eq_of_requestFor (hc : c.CanAsk) {repository' : String} {m n : Nat}
    (h : requestFor c repository m = requestFor c repository' n) : m = n := by
  obtain ⟨front, hm⟩ := path_requestFor repository hc m
  obtain ⟨front', hn⟩ := path_requestFor repository' hc n
  rw [h, hn, Url.Path.segments.injEq] at hm
  exact Text.Digit.toString_injective (List.append_inj_right' hm rfl |> List.cons.inj |>.1).symm

theorem pullRequestIn_eq (hw : Http.Fetch.IsDirect w) :
    pullRequestIn w c repository = answerFor w c repository := by
  funext n
  exact Client.result_ask hw c pullRequest? _ []

theorem flatMap_requestsFor (hw : Http.Fetch.IsDirect w) (hc : c.CanAsk) (ns : List Nat) :
    ns.flatMap (requestsFor w c repository) = w.received (ns.map (requestFor c repository)) := by
  have h : requestsFor w c repository = fun n => w.received [requestFor c repository n] := by
    funext n
    exact Client.requests_ask hw c pullRequest? hc _ []
  rw [h, World.flatMap_received]

theorem received_of_no_abort {ns : List Nat}
    (h : ∀ n ∈ ns, abort? (answerFor w c repository n) = none) :
    w.received (ns.map (requestFor c repository)) = ns.map (requestFor c repository) := by
  refine w.received_eq_self fun r hr => ?_
  obtain ⟨n, hn, rfl⟩ := List.mem_map.1 hr
  have hnone := h n hn
  cases ha : answerFor w c repository n with
  | ok p => exact Client.wasReceived_of_answer ha
  | error e =>
    have he : e.isNotFound = true := by
      by_contra hne
      simp [ha, abort?, hne] at hnone
    obtain ⟨reply, hreply, -⟩ := Client.reply_of_isNotFound ha he
    exact w.wasReceived_of_answered hreply

theorem abort?_eq_none {n : Nat}
    (h : ∀ f, answerFor w c repository n = .error f → f.isNotFound = true) :
    abort? (answerFor w c repository n) = none := by
  cases ha : answerFor w c repository n with
  | ok p => rfl
  | error f => rw [abort?, if_pos (h f ha)]

variable {base head : String} {comparison : Comparison}

theorem fetchChanges_of_abort (hw : Http.Fetch.IsDirect w) (named : Bool)
    (hok : ((Forge.Resource.compare c repository base head).run w).result = .ok comparison)
    {pre post : List Nat} {n : Nat} {e : Failure}
    (hns : namedIn comparison.commits = pre ++ n :: post)
    (hpre : ∀ m ∈ pre, ∀ f, answerFor w c repository m = .error f → f.isNotFound = true)
    (hn : answerFor w c repository n = .error e) (he : e.isNotFound = false) :
    ((fetchChanges c repository base head named).run w).result = .error e ∧
      ((fetchChanges c repository base head named).run w).requests =
        ((Forge.Resource.compare c repository base head).run w).requests ++
          pre.map (requestFor c repository) ++ w.received [requestFor c repository n] := by
  have hc : c.CanAsk := Forge.Resource.canAsk_of_compare hw hok
  have hskip : ∀ m ∈ pre, abort? (answerFor w c repository m) = none :=
    fun m hm => abort?_eq_none (hpre m hm)
  have hstop : abort? (answerFor w c repository n) = some e := by
    rw [hn, abort?, he]
    rfl
  have hreceived := received_of_no_abort hskip
  rw [← pullRequestIn_eq hw] at hskip hstop
  obtain ⟨hres, hreqs⟩ := fetchChanges_of_ok named hok
  obtain ⟨hr, hq⟩ := changesOf_of_abort (shownName repository named) post hskip hstop
  rw [← hns] at hr hq
  refine ⟨hres.trans hr, ?_⟩
  rw [hreqs, hq, flatMap_requestsFor hw hc, List.map_append, World.received_append, hreceived,
    List.append_assoc]
  rfl

theorem fetchChanges_of_no_abort (hw : Http.Fetch.IsDirect w) (named : Bool)
    (hok : ((Forge.Resource.compare c repository base head).run w).result = .ok comparison)
    (hall : ∀ n ∈ namedIn comparison.commits, ∀ f,
      answerFor w c repository n = .error f → f.isNotFound = true) :
    ((fetchChanges c repository base head named).run w).result =
        .ok (((namedIn comparison.commits).filterMap fun n =>
          merged? (answerFor w c repository n)).map
            (ofPullRequest repository (shownName repository named))) ∧
      ((fetchChanges c repository base head named).run w).requests =
        ((Forge.Resource.compare c repository base head).run w).requests ++
          (namedIn comparison.commits).map (requestFor c repository) := by
  have hc : c.CanAsk := Forge.Resource.canAsk_of_compare hw hok
  have hskip : ∀ n ∈ namedIn comparison.commits, abort? (answerFor w c repository n) = none :=
    fun n hn => abort?_eq_none (hall n hn)
  have hreceived := received_of_no_abort hskip
  rw [← pullRequestIn_eq hw] at hskip
  obtain ⟨hres, hreqs⟩ := fetchChanges_of_ok named hok
  obtain ⟨hr, hq⟩ := changesOf_of_no_abort (shownName repository named) hskip
  refine ⟨?_, ?_⟩
  · rw [hres, hr, pullRequestIn_eq hw]
  · rw [hreqs, hq, flatMap_requestsFor hw hc, hreceived]

end

end ReleaseBulletin.Change.Retrieval
