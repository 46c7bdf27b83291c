import ReleaseBulletin.Proofs.Forge.Comparison

/-!
How a comparison ends. Whatever the forge answers, only so many pages are asked for as the first one
leaves commits missing, and one more. If they run out, the failure tells how many commits there
were; a comparison that has a value misses none.
-/
namespace ReleaseBulletin.Forge
open Http Payload Session

namespace Paging

variable {page : Nat → Except Failure Comparison} {k n : Nat}

/-- The pages up to one can be read and have so many commits, which is too few, and the page after
it is empty. -/
structure BreaksOff (page : Nat → Except Failure Comparison) (k n : Nat) : Prop where
  pos : 1 ≤ k
  read : ∀ j, 1 ≤ j → j ≤ k → IsRead page j
  size : (collected page k).length = n
  missing : n < total page
  empty : ∃ q, page (k + 1) = .ok q ∧ q.commits = []

theorem length_collected_ge (hk : 1 ≤ k) (h : ∀ j, 1 ≤ j → j ≤ k → IsRead page j) :
    (commitsOn page 1).length + (k - 1) ≤ (collected page k).length := by
  induction k with
  | zero => omega
  | succ k ih =>
    rcases Nat.eq_zero_or_pos k with rfl | hpos
    · simp [collected]
    · have hgrows : (collected page k).length < (collected page (k + 1)).length :=
        collected_length_lt hpos (Nat.lt_succ_self k) h
      have := ih hpos fun j h1 h2 => h j h1 (by omega)
      omega

theorem IsLast.le (h : IsLast page k) : k ≤ 1 + (total page - (commitsOn page 1).length) := by
  -- The pages between the first and the last one have a commit each and are still too few.
  rcases Nat.lt_or_eq_of_le h.pos with hlt | rfl
  · have hread : ∀ j, 1 ≤ j → j ≤ k - 1 → IsRead page j :=
      fun j h1 h2 => (h.before j h1 (by omega)).read
    have hcollected := length_collected_ge (by omega) hread
    have hmissing := (h.before (k - 1) (by omega) (by omega)).missing
    omega
  · omega

theorem BreaksOff.not_isRead (h : BreaksOff page k n) : ¬ IsRead page (k + 1) := by
  obtain ⟨q, hq, hnone⟩ := h.empty
  have := h.pos
  exact fun hread => hread.nonempty (by omega) (by rw [commitsOn_of_ok hq, hnone])

theorem BreaksOff.isLast (h : BreaksOff page k n) : IsLast page (k + 1) := by
  refine ⟨by omega, fun j h1 h2 => ⟨h.read j h1 (by omega), ?_⟩, fun hc => h.not_isRead hc.read⟩
  rcases Nat.lt_or_eq_of_le (Nat.le_of_lt_succ h2) with hlt | rfl
  · have hgrows := collected_length_lt h1 hlt h.read
    have := h.missing
    have := h.size
    omega
  · rw [h.size]
    exact h.missing

theorem BreaksOff.eq_of_ends {url : String} {r : Except Failure (List Commit)}
    (h : BreaksOff page k n) (he : Ends page url (k + 1) r) :
    r = .error (.comparisonEnded url n (total page)) := by
  obtain ⟨q, hq, -⟩ := h.empty
  cases he with
  | full read => exact absurd read h.not_isRead
  | failed unanswered => simp [hq] at unanswered
  | empty => rw [Nat.add_sub_cancel, h.size]

theorem breaksOff_of_ends {url : String} {r : Except Failure (List Commit)} {n t : Nat}
    {u : String} (h : IsLast page k) (he : Ends page url k r)
    (hpage : ∀ j u n t, page j ≠ .error (.comparisonEnded u n t))
    (hr : r = .error (.comparisonEnded u n t)) :
    u = url ∧ t = total page ∧ BreaksOff page (k - 1) n := by
  cases he with
  | full => cases hr
  | failed unanswered =>
    cases hr
    exact absurd unanswered (hpage k u n t)
  | @empty q later answered none =>
    cases hr
    have hlast := h.before (k - 1) (by omega) (by omega)
    refine ⟨rfl, rfl, by omega, fun j h1 h2 => (h.before j h1 (by omega)).read, rfl,
      hlast.missing, q, ?_, none⟩
    rwa [Nat.sub_add_cancel (by omega)]

end Paging

theorem message_comparisonEnded (url : String) (n t : Nat) :
    (Failure.comparisonEnded url n t).message = "parse error: " ++
      (url ++ ": comparison ended after " ++ toString n ++ " of " ++ toString t ++ " commits") :=
  rfl

theorem Client.answer_ne_comparisonEnded {α : Type} (c : Client) (w : World)
    (read : Document.Tree → Option α) (segments : List String) (query : List (String × String))
    (u : String) (n t : Nat) :
    c.answer w read segments query ≠ .error (.comparisonEnded u n t) := by
  -- The cases follow the ways in which an answer fails, none of which looks at other pages.
  intro h
  rw [answer] at h
  split at h
  · next e he =>
    cases h
    rw [endpoint] at he
    split at he <;> cases he
  · rw [answerAt] at h
    split at h
    · cases h
    · split at h
      · next e hr =>
        cases h
        cases Fetch.kind_of_replyIn_eq_error hr
      · simp only [interpret] at h
        split at h
        · split at h <;> cases h
        · cases h

namespace Resource
open Paging

/-- The room for pages is not felt: all that covers the missing commits makes the same session. -/
theorem collectPages_room (c : Client) (endpoint : Url) {total room room' number : Nat}
    {collected : List Commit} (h : total - collected.length ≤ room)
    (h' : total - collected.length ≤ room') :
    collectPages c endpoint total room number collected =
      collectPages c endpoint total room' number collected := by
  induction room generalizing room' number collected with
  | zero =>
    cases room' with
    | zero => rfl
    | succ room' => rw [collectPages, collectPages, if_neg (by omega)]
  | succ room ih =>
    cases room' with
    | zero => rw [collectPages, collectPages, if_neg (by omega)]
    | succ room' =>
      rw [collectPages, collectPages]
      split
      · congr 1
        funext next
        cases next.commits with
        | nil => rfl
        | cons commit commits =>
          -- The page has a commit, so what covers the missing ones has one to spare after it.
          have hroom : ∀ r, total - collected.length ≤ r + 1 →
              total - (collected ++ commit :: commits).length ≤ r := by
            intro r hr
            rw [List.length_append, List.length_cons]
            omega
          dsimp only
          rw [ih (hroom room h) (hroom room' h')]
      · rfl

section

variable {w : World} (hw : Fetch.IsDirect w) (c : Client) (repository base head : String)
include hw

theorem nodup_requests_compare {last : Nat} (hlast : last < Width.count 32)
    (hreqs : c.CanAsk → ((compare c repository base head).run w).requests =
      w.received ((List.range' 1 last).map (nthRequest c repository base head))) :
    ((compare c repository base head).run w).requests.Nodup := by
  by_cases hc : c.CanAsk
  · rw [hreqs hc, map_nthRequest hlast]
    refine List.Nodup.filter _ ?_
    rw [List.nodup_map_iff (pageRequest_injective c repository base head)]
    exact List.nodup_range' 1
  · rw [requests_compare_of_not_canAsk hw repository base head hc]
    exact List.nodup_nil

theorem compare_eq_comparisonEnded_iff (url : String) (n t : Nat) :
    let page := nthPage c w repository base head
    ((compare c repository base head).run w).result = .error (.comparisonEnded url n t) ↔
      url = (c.urlFor (compareSegments repository base head)).print ∧ t = total page ∧
        ∃ k, BreaksOff page k n := by
  intro page
  obtain ⟨last, r, hlast, hends, hres, -⟩ := compare_ends_at_last hw c repository base head
  rw [hres]
  constructor
  · intro h
    have hr : r = .error (.comparisonEnded url n t) := by
      cases r with
      | error e => simpa [Except.map] using h
      | ok commits => cases h
    obtain ⟨hurl, htotal, hbreaks⟩ := breaksOff_of_ends hlast hends
      (fun j => Client.answer_ne_comparisonEnded c w _ _ _) hr
    exact ⟨hurl, htotal, _, hbreaks⟩
  · rintro ⟨rfl, rfl, k, hbreaks⟩
    obtain rfl := hlast.unique hbreaks.isLast
    rw [hbreaks.eq_of_ends hends]
    rfl

theorem total_le_of_compare {comparison : Comparison}
    (h : ((compare c repository base head).run w).result = .ok comparison) :
    comparison.total = total (nthPage c w repository base head) ∧
      comparison.total ≤ comparison.commits.length := by
  obtain ⟨last, r, -, hends, hres, -⟩ := compare_ends_at_last hw c repository base head
  rw [hres] at h
  cases hends with
  | full read enough =>
    cases h
    exact ⟨rfl, enough⟩
  | failed unanswered => cases h
  | empty => cases h

end

/-- A comparison ends, whatever the forge answers, and not for want of room: a page after the first
one is asked for only while commits are missing and has one itself, so what is missing on the first
page bounds the pages, and their numbers with it. The failure that the pages ran out comes exactly of
an empty page after too few commits, and tells how many there were; a comparison that has a value
misses none. -/
theorem compare_ends_within_limit (c : Client) (repository base head : String) {w : World}
    (hw : Fetch.IsDirect w) :
    let page := nthPage c w repository base head
    let limit := 1 + (total page - (commitsOn page 1).length)
    let o := (compare c repository base head).run w
    (∀ endpoint total room number commits, total - commits.length ≤ room →
      collectPages c endpoint total room number commits =
        collectPages c endpoint total (total - commits.length) number commits) ∧
    o.requests.length ≤ limit ∧
    (∃ last ≤ limit, IsLast page last ∧
      (c.CanAsk → o.requests =
        w.received ((List.range' 1 last).map (nthRequest c repository base head))) ∧
      (total page ≤ Width.count 32 - 2 → o.requests.Nodup ∧ last < Width.count 32 ∧
        ∀ k ≤ last, page k = pageOf c w repository base head k ∧
          nthRequest c repository base head k = pageRequest c repository base head k)) ∧
    (∀ url n t, o.result = .error (.comparisonEnded url n t) ↔
      url = (c.urlFor (compareSegments repository base head)).print ∧ t = total page ∧
        ∃ k, BreaksOff page k n) ∧
    (∀ url n t, (Failure.comparisonEnded url n t).message = "parse error: " ++
      (url ++ ": comparison ended after " ++ toString n ++ " of " ++ toString t ++ " commits")) ∧
    ∀ comparison, o.result = .ok comparison →
      comparison.total = total page ∧ comparison.total ≤ comparison.commits.length := by
  intro page limit o
  obtain ⟨last, r, hlast, hends, hres, hreqs, hlength⟩ :=
    compare_ends_at_last hw c repository base head
  have hlimit : last ≤ limit := hlast.le
  refine ⟨fun endpoint total room number commits h => collectPages_room c endpoint h (Nat.le_refl _),
    Nat.le_trans hlength hlimit, ⟨last, hlimit, hlast, hreqs, fun htotal => ?_⟩,
    compare_eq_comparisonEnded_iff hw c repository base head, message_comparisonEnded,
    fun comparison => total_le_of_compare hw c repository base head⟩
  have hwidth : 2 ≤ Width.count 32 := by decide
  have hsmall : last < Width.count 32 := by omega
  refine ⟨nodup_requests_compare hw c repository base head hsmall hreqs, hsmall, fun k hk => ?_⟩
  exact ⟨nthPage_eq (by omega), by rw [nthRequest, Nat.mod_eq_of_lt (by omega)]⟩

/-- A forge whose pages have one commit of three each, but for the second one, which is empty. -/
def brokenWorld : World :=
  Fetch.replying (pageRequest .sample "o/r" "a" "b" 2) (granted "[3,[]]")
    (Fetch.steady (granted "[3,[[\"s\",[\"Fix (#1)\"]]]]"))

/-- The pages run out after one commit of three, which the second request tells. -/
theorem compare_one_of_three :
    let o := (compare .sample "o/r" "a" "b").run brokenWorld
    Fetch.IsDirect brokenWorld ∧ BreaksOff (nthPage .sample brokenWorld "o/r" "a" "b") 1 1 ∧
      o.result = .error (.comparisonEnded "http://forge/repos/o/r/compare/a...b" 1 3) ∧
      o.requests.length ≤ 3 ∧ o.requests.Nodup := by
  intro o
  have hstatus : ∀ body, (granted body).status ∉ Fetch.redirectStatuses := by
    simp [granted, Fetch.redirectStatuses]
  have hdirect : Fetch.IsDirect brokenWorld :=
    Fetch.isDirect_replying (Fetch.isDirect_steady (hstatus _)) _ (hstatus _)
  have hone : nthPage .sample brokenWorld "o/r" "a" "b" 1 = .ok ⟨3, [⟨"s", "Fix (#1)"⟩]⟩ := by
    rw [nthPage_eq (by decide)]
    exact Client.answer_eq_ok_iff.2 ⟨Client.canAsk_sample,
      granted "[3,[[\"s\",[\"Fix (#1)\"]]]]", by decide +kernel, rfl, rfl, by decide +kernel⟩
  have htwo : nthPage .sample brokenWorld "o/r" "a" "b" 2 = .ok ⟨3, []⟩ := by
    rw [nthPage_eq (by decide)]
    exact Client.answer_eq_ok_iff.2 ⟨Client.canAsk_sample, granted "[3,[]]",
      by decide +kernel, rfl, rfl, by decide +kernel⟩
  have htotal : total (nthPage .sample brokenWorld "o/r" "a" "b") = 3 := total_of_ok hone
  have hbreaks : BreaksOff (nthPage .sample brokenWorld "o/r" "a" "b") 1 1 := by
    refine ⟨Nat.le_refl 1, fun j h1 h2 => ?_, by rw [collected_one hone]; rfl, by omega, _, htwo, rfl⟩
    obtain rfl : j = 1 := by omega
    exact ⟨⟨_, hone⟩, by omega⟩
  obtain ⟨-, hlength, ⟨last, -, -, -, hnodup⟩, hended, -⟩ :=
    compare_ends_within_limit .sample "o/r" "a" "b" hdirect
  rw [htotal, commitsOn_of_ok hone] at hlength
  refine ⟨hdirect, hbreaks, (hended _ _ _).2 ⟨by decide +kernel, htotal.symm, 1, hbreaks⟩, hlength,
    (hnodup ?_).1⟩
  rw [htotal]
  decide

end Resource

end ReleaseBulletin.Forge
