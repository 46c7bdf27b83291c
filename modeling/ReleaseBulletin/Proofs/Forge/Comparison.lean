import Mathlib.Data.List.Nodup
import ReleaseBulletin.Proofs.Forge.Paging

/-!
Comparing two references: the pages are asked for one after the other until the commits are
complete, and the comparison does not depend on how the commits are spread over the pages.
-/
namespace ReleaseBulletin.Forge.Resource
open Http Paging Payload Session

/-- The answer for a page of the commits between two references. -/
def pageOf (c : Client) (w : World) (repository base head : String) (k : Nat) :
    Except Failure Comparison :=
  c.answer w comparison? (compareSegments repository base head) (pageQuery k)

def pageRequest (c : Client) (repository base head : String) (k : Nat) : Request :=
  c.requestFor (compareSegments repository base head) (pageQuery k)

theorem pageRequest_injective (c : Client) (repository base head : String) :
    Function.Injective (pageRequest c repository base head) := by
  intro j k h
  have hform : ∀ n, Url.Percent.formPairs (pageQuery n) =
      "per_page=100&page=".toList ++ Nat.toDigits 10 n := by
    intro n
    simp only [pageQuery, Url.Percent.formPairs, Url.Percent.formEncode_toString]
    rfl
  have hpairs : Url.Percent.formPairs (pageQuery j) = Url.Percent.formPairs (pageQuery k) := by
    have hurl := congrArg Request.url h
    simp only [pageRequest, Client.requestFor, Client.request] at hurl
    cases hu : Client.credentials? (c.urlFor (compareSegments repository base head)) <;>
    · simp only [hu] at hurl
      exact Url.Endpoint.formPairs_eq_of_withPairs (by simp [pageQuery]) (by simp [pageQuery]) hurl
  rw [hform, hform] at hpairs
  exact Text.Digit.toDigits_injective (List.append_cancel_left hpairs)

/-- The answer for the page that is asked for after those before it. Page numbers have 32 bits. -/
def nthPage (c : Client) (w : World) (repository base head : String) (j : Nat) :
    Except Failure Comparison :=
  pageOf c w repository base head (j % Width.count 32)

def nthRequest (c : Client) (repository base head : String) (j : Nat) : Request :=
  pageRequest c repository base head (j % Width.count 32)

section

variable {w : World} {c : Client} {repository base head : String}

theorem nthPage_eq {j : Nat} (hj : j < Width.count 32) :
    nthPage c w repository base head j = pageOf c w repository base head j := by
  rw [nthPage, Nat.mod_eq_of_lt hj]

theorem map_nthRequest {k : Nat} (hk : k < Width.count 32) :
    (List.range' 1 k).map (nthRequest c repository base head) =
      (List.range' 1 k).map (pageRequest c repository base head) := by
  refine List.map_congr_left fun j hj => ?_
  rw [List.mem_range'_1] at hj
  rw [nthRequest, Nat.mod_eq_of_lt (by omega)]

theorem canAsk_of_page {k : Nat} {q : Comparison} (h : pageOf c w repository base head k = .ok q) :
    c.CanAsk :=
  (Client.answer_eq_ok_iff.1 h).1

theorem received_of_read {last : Nat}
    (hread : ∀ j, 1 ≤ j → j ≤ last → IsRead (nthPage c w repository base head) j) :
    w.received ((List.range' 1 last).map (nthRequest c repository base head)) =
      (List.range' 1 last).map (nthRequest c repository base head) := by
  refine w.received_eq_self fun r hr => ?_
  obtain ⟨j, hj, rfl⟩ := List.mem_map.1 hr
  rw [List.mem_range'_1] at hj
  obtain ⟨q, hq⟩ := (hread j hj.1 (by omega)).answered
  exact Client.wasReceived_of_answer hq

theorem compare_of_first_error {endpoint : Url} {e : Failure}
    (he : c.endpoint (compareSegments repository base head) = .ok endpoint)
    (h : ((comparisonPage c endpoint 1).run w).result = .error e) :
    ((compare c repository base head).run w).result = .error e ∧
      ((compare c repository base head).run w).requests =
        ((comparisonPage c endpoint 1).run w).requests := by
  simp [compare, he, h]

theorem compare_of_first_ok {endpoint : Url} {q : Comparison}
    (he : c.endpoint (compareSegments repository base head) = .ok endpoint)
    (h : ((comparisonPage c endpoint 1).run w).result = .ok q) :
    let rest :=
      (collectPages c endpoint q.total (q.total - q.commits.length) 2 q.commits).run w
    ((compare c repository base head).run w).result = rest.result.map (Comparison.mk q.total) ∧
      ((compare c repository base head).run w).requests =
        ((comparisonPage c endpoint 1).run w).requests ++ rest.requests := by
  intro rest
  simp only [compare, run_ofResult, he, result_bind, requests_bind, requests_nil, h,
    List.nil_append]
  rw [← result_bind, ← requests_bind, result_bind_pure, requests_bind_pure]
  exact ⟨rfl, rfl⟩

variable (hw : Fetch.IsDirect w)
include hw

/-- A comparison goes from page to page up to a last one, and ends as that page says. -/
theorem compare_ends (c : Client) (repository base head : String) :
    let page := nthPage c w repository base head
    let o := (compare c repository base head).run w
    ∃ last r, 1 ≤ last ∧ (∀ j, 1 ≤ j → j < last → Continues page j) ∧
      Ends page (c.urlFor (compareSegments repository base head)).print last r ∧
      o.result = r.map (Comparison.mk (total page)) ∧
      (c.CanAsk →
        o.requests =
          w.received ((List.range' 1 last).map (nthRequest c repository base head))) := by
  intro page o
  cases he : c.endpoint (compareSegments repository base head) with
  | error e =>
    have hpage : page 1 = .error e := by simp only [page, nthPage, pageOf, Client.answer, he]
    refine ⟨1, .error e, Nat.le_refl 1, by omega, .failed hpage, ?_, fun hc => ?_⟩
    · simp [o, compare, he, Except.map]
    · obtain ⟨endpoint, hok⟩ := hc.endpoint (compareSegments repository base head)
      simp [he] at hok
  | ok endpoint =>
    have hpage : ∀ j, c.answerAt w comparison? endpoint (pageQuery (j % Width.count 32)) = page j :=
      fun j => by simp only [page, nthPage, pageOf, Client.answer, he]
    have hfirst : ((comparisonPage c endpoint 1).run w).result = page 1 :=
      (Client.result_get hw c comparison? endpoint (pageQuery 1)).trans (hpage 1)
    have hreq : c.CanAsk → ∀ j, ((comparisonPage c endpoint (j % Width.count 32)).run w).requests =
        w.received [nthRequest c repository base head j] :=
      fun hc j => Client.requests_get hw c comparison? hc he (pageQuery (j % Width.count 32))
    have hreq1 : c.CanAsk → ((comparisonPage c endpoint 1).run w).requests =
        w.received [nthRequest c repository base head 1] := fun hc => hreq hc 1
    rw [Client.urlFor_eq he]
    cases hp : page 1 with
    | error e =>
      obtain ⟨hres, hreqs⟩ := compare_of_first_error he (hfirst.trans hp)
      exact ⟨1, .error e, Nat.le_refl 1, by omega, .failed hp, hres,
        fun hc => hreqs.trans (hreq1 hc)⟩
    | ok q =>
      obtain ⟨hres, hreqs⟩ := compare_of_first_ok he (hfirst.trans hp)
      have hroom : total page - (collected page 1).length ≤ q.total - q.commits.length :=
        Nat.le_of_eq (by rw [total_of_ok hp, collected_one hp])
      obtain ⟨last, hle, hcont, hends, hrest⟩ := collectPages_ends hw hpage
        (q.total - q.commits.length) (Nat.le_refl 1) ⟨⟨q, hp⟩, by omega⟩ hroom
      have htwo : (1 + 1) % Width.count 32 = 2 := rfl
      rw [htwo, total_of_ok hp, collected_one hp] at hends hrest
      refine ⟨last, _, hle, hcont, hends, by rw [total_of_ok hp]; exact hres, fun hc => ?_⟩
      have hrange : List.range' 1 last = 1 :: List.range' (1 + 1) (last - 1) := by
        rw [← List.range'_succ, Nat.sub_add_cancel hle]
      simp only [hreq hc, World.flatMap_received] at hrest
      calc o.requests
          = w.received [nthRequest c repository base head 1] ++
              w.received ((List.range' (1 + 1) (last - 1)).map
                (nthRequest c repository base head)) := by rw [hreqs, hreq1 hc, hrest]
        _ = w.received ((List.range' 1 last).map (nthRequest c repository base head)) := by
            rw [← World.received_append, hrange]
            rfl

theorem requests_compare_of_not_canAsk (repository base head : String) (h : ¬ c.CanAsk) :
    ((compare c repository base head).run w).requests = [] := by
  cases he : c.endpoint (compareSegments repository base head) with
  | error e => simp [compare, he]
  | ok endpoint =>
    have hfirst : ((comparisonPage c endpoint 1).run w).requests = [] :=
      Client.requests_get_of_not_canAsk hw c comparison? h he (pageQuery 1)
    cases hres : ((comparisonPage c endpoint 1).run w).result with
    | error e => rw [(compare_of_first_error he hres).2, hfirst]
    | ok q =>
      have hpage : pageOf c w repository base head 1 = .ok q := by
        rw [← hres, comparisonPage_eq, Client.result_get hw, pageOf, Client.answer, he]
      exact absurd (canAsk_of_page hpage) h

/-- A comparison asks for the pages up to the last one, and ends as that one says. -/
theorem compare_ends_at_last (c : Client) (repository base head : String) :
    let page := nthPage c w repository base head
    let o := (compare c repository base head).run w
    ∃ last r, IsLast page last ∧
      Ends page (c.urlFor (compareSegments repository base head)).print last r ∧
      o.result = r.map (Comparison.mk (total page)) ∧
      (c.CanAsk → o.requests =
        w.received ((List.range' 1 last).map (nthRequest c repository base head))) ∧
      o.requests.length ≤ last := by
  intro page o
  obtain ⟨last, r, hlast, hcont, hends, hres, hreqs⟩ := compare_ends hw c repository base head
  refine ⟨last, r, ⟨hlast, hcont, fun h => h.not_ends hends⟩, hends, hres, hreqs, ?_⟩
  by_cases hc : c.CanAsk
  · rw [show o.requests = _ from hreqs hc]
    exact Nat.le_trans (List.length_filter_le ..) (by simp)
  · rw [show o.requests = [] from requests_compare_of_not_canAsk hw repository base head hc]
    exact Nat.zero_le last

/-- A comparison that has a value has read all the pages. -/
theorem exists_completes_of_compare {comparison : Comparison}
    (hres : ((compare c repository base head).run w).result = .ok comparison) :
    ∃ last, Completes (nthPage c w repository base head) last ∧
      ((compare c repository base head).run w).requests =
        (List.range' 1 last).map (nthRequest c repository base head) := by
  obtain ⟨last, r, hlast, hcont, hends, hres', hreqs⟩ := compare_ends hw c repository base head
  cases hends with
  | failed unanswered => simp [hres, Except.map] at hres'
  | empty later answered none => simp [hres, Except.map] at hres'
  | full read enough =>
    have hread : ∀ j, 1 ≤ j → j ≤ last → IsRead (nthPage c w repository base head) j := by
      intro j h1 h2
      rcases Nat.lt_or_eq_of_le h2 with hlt | rfl
      · exact (hcont j h1 hlt).read
      · exact read
    obtain ⟨q, hq⟩ := (hread 1 (Nat.le_refl 1) hlast).answered
    refine ⟨last, ⟨hlast, hread, fun j h1 h2 => (hcont j h1 h2).missing, enough⟩, ?_⟩
    rw [hreqs (canAsk_of_page hq), received_of_read hread]

theorem canAsk_of_compare {comparison : Comparison}
    (hres : ((compare c repository base head).run w).result = .ok comparison) : c.CanAsk := by
  obtain ⟨last, hcompletes, -⟩ := exists_completes_of_compare hw hres
  obtain ⟨q, hq⟩ := (hcompletes.read 1 (Nat.le_refl 1) hcompletes.pos).answered
  exact canAsk_of_page hq

theorem completes_of_compare {k : Nat} {comparison : Comparison} (hk : k < Width.count 32)
    (hres : ((compare c repository base head).run w).result = .ok comparison)
    (hreqs : ((compare c repository base head).run w).requests =
      (List.range' 1 k).map (pageRequest c repository base head)) :
    Completes (pageOf c w repository base head) k := by
  obtain ⟨last, hcompletes, hall⟩ := exists_completes_of_compare hw hres
  have hlen : k = last := by
    have := congrArg List.length (hreqs.symm.trans hall)
    simpa using this
  subst hlen
  exact hcompletes.congr fun j _ hj => nthPage_eq (by omega)

/-- If some pages are all the pages, a comparison asks for them and has their commits. -/
theorem compare_of_completes {k : Nat} (hk : k < Width.count 32)
    (h : Completes (pageOf c w repository base head) k) :
    let page := pageOf c w repository base head
    ((compare c repository base head).run w).result = .ok ⟨total page, collected page k⟩ ∧
      ((compare c repository base head).run w).requests =
        (List.range' 1 k).map (pageRequest c repository base head) := by
  intro page
  have hmod : ∀ j, 1 ≤ j → j ≤ k → page j = nthPage c w repository base head j :=
    fun j _ hj => (nthPage_eq (by omega)).symm
  have hc := h.congr hmod
  obtain ⟨last, r, hlast, hcont, hends, hres, hreqs⟩ := compare_ends hw c repository base head
  obtain ⟨rfl, rfl⟩ := hc.eq_of_ends hlast hcont hends
  obtain ⟨q, hq⟩ := (h.read 1 (Nat.le_refl 1) hlast).answered
  refine ⟨?_, ?_⟩
  · rw [hres, ← collected_congr hmod, ← total_congr (hmod 1 (Nat.le_refl 1) hlast)]
    rfl
  · rw [hreqs (canAsk_of_page hq), received_of_read hc.read, map_nthRequest hk]

theorem compare_of_full_page {q : Comparison} (hq : pageOf c w repository base head 1 = .ok q)
    (h : q.total ≤ q.commits.length) :
    ((compare c repository base head).run w).result = .ok q := by
  have hcompletes : Completes (pageOf c w repository base head) 1 := by
    refine ⟨Nat.le_refl 1, fun j h1 h2 => ?_, by omega, ?_⟩
    · obtain rfl : j = 1 := by omega
      exact ⟨⟨q, hq⟩, by omega⟩
    · rwa [total_of_ok hq, collected_one hq]
  rw [(compare_of_completes hw (by decide) hcompletes).1, total_of_ok hq, collected_one hq]

end

/-- A comparison asks for the pages once each and in order, and has exactly their commits. So it
does not matter how the forge spreads the commits over pages. -/
theorem compare_reads_every_page_once (c c' : Client) (repository base head : String)
    {w w' : World} (hw : Fetch.IsDirect w) (hw' : Fetch.IsDirect w') :
    let o := (compare c repository base head).run w
    let o' := (compare c' repository base head).run w'
    let page := pageOf c w repository base head
    let page' := pageOf c' w' repository base head
    (∀ k comparison, k < Width.count 32 →
      (o.result = .ok comparison ∧
          o.requests = (List.range' 1 k).map (pageRequest c repository base head) ∧
          o.requests.Nodup ↔
        Completes page k ∧ comparison = ⟨total page, collected page k⟩)) ∧
    ∀ k k' commits, k < Width.count 32 → k' < Width.count 32 →
      Spreads page k commits → Spreads page' k' commits →
      o.result = .ok ⟨commits.length, commits⟩ ∧ o'.result = o.result ∧
        o'.result.map (fun q => Change.Subject.numbers (q.commits.map (·.message))) =
          o.result.map (fun q => Change.Subject.numbers (q.commits.map (·.message))) := by
  intro o o' page page'
  refine ⟨fun k comparison hk => ⟨?_, ?_⟩, fun k k' commits hk hk' h h' => ?_⟩
  · rintro ⟨hres, hreqs, -⟩
    have hcompletes := completes_of_compare hw hk hres hreqs
    have hvalue := (compare_of_completes hw hk hcompletes).1
    exact ⟨hcompletes, by simpa [o, hvalue, eq_comm] using hres⟩
  · rintro ⟨hcompletes, rfl⟩
    obtain ⟨hres, hreqs⟩ := compare_of_completes hw hk hcompletes
    refine ⟨hres, hreqs, ?_⟩
    rw [hreqs, List.nodup_map_iff (pageRequest_injective c repository base head)]
    exact List.nodup_range' 1
  · have hres := (compare_of_completes hw hk h.completes).1
    have hres' := (compare_of_completes hw' hk' h'.completes).1
    rw [h.total, h.collected] at hres
    rw [h'.total, h'.collected] at hres'
    exact ⟨hres, hres'.trans hres.symm, by rw [hres, hres']⟩

/-- Two commits on one page, and the same two on two pages. -/
theorem compare_one_page_or_two :
    let page := "[2,[[\"s\",[\"Fix (#1)\"]],[\"s\",[\"Fix (#1)\"]]]]"
    let half := "[2,[[\"s\",[\"Fix (#1)\"]]]]"
    let o := (compare .sample "o/r" "a" "b").run (Fetch.steady (granted page))
    let o' := (compare .sample "o/r" "a" "b").run (Fetch.steady (granted half))
    o.result = .ok ⟨2, [⟨"s", "Fix (#1)"⟩, ⟨"s", "Fix (#1)"⟩]⟩ ∧ o'.result = o.result ∧
      o'.requests = (List.range' 1 2).map (pageRequest .sample "o/r" "a" "b") := by
  intro page half o o'
  let commit : Commit := ⟨"s", "Fix (#1)"⟩
  have hpage : ∀ k, pageOf .sample (Fetch.steady (granted page)) "o/r" "a" "b" k =
      .ok ⟨2, [commit, commit]⟩ := fun k =>
    Client.answer_granted Client.canAsk_sample (by decide +kernel) _ _
  have hhalf : ∀ k, pageOf .sample (Fetch.steady (granted half)) "o/r" "a" "b" k =
      .ok ⟨2, [commit]⟩ := fun k =>
    Client.answer_granted Client.canAsk_sample (by decide +kernel) _ _
  have hone : Spreads (pageOf .sample (Fetch.steady (granted page)) "o/r" "a" "b") 1
      [commit, commit] := by
    refine ⟨Nat.le_refl 1, fun j h1 h2 => ⟨⟨_, hpage j⟩, by omega⟩, ?_, ?_⟩
    · simp [collected, commitsOn, hpage]
    · simp [total, hpage]
  have htwo : Spreads (pageOf .sample (Fetch.steady (granted half)) "o/r" "a" "b") 2
      [commit, commit] := by
    refine ⟨by omega, fun j h1 h2 => ⟨⟨_, hhalf j⟩, by simp [commitsOn, hhalf]⟩, ?_, ?_⟩
    · simp [collected, commitsOn, hhalf]
    · simp [total, hhalf]
  have hdirect : ∀ body, Fetch.IsDirect (Fetch.steady (granted body)) := fun body =>
    Fetch.isDirect_steady (by simp [granted, Fetch.redirectStatuses])
  have hboth := (compare_reads_every_page_once .sample .sample "o/r" "a" "b" (hdirect page)
    (hdirect half)).2 1 2 [commit, commit] (by decide) (by decide) hone htwo
  have hhalves := ((compare_reads_every_page_once .sample .sample "o/r" "a" "b" (hdirect half)
    (hdirect half)).1 2 _ (by decide)).2 ⟨htwo.completes, rfl⟩
  exact ⟨hboth.1, hboth.2.1, hhalves.2.1⟩

end ReleaseBulletin.Forge.Resource
