import ReleaseBulletin.Change.Subject
import ReleaseBulletin.Proofs.Forge.Answer
import ReleaseBulletin.Proofs.Url.Numbered

/-!
The pages of a comparison. The state of the loop after some pages is a function of the pages alone,
and its end is told by a relation on the last page; both speak of any sequence of pages.
-/
namespace ReleaseBulletin.Forge.Paging
open Http Payload Session

section Pages

variable (page : Nat → Except Failure Comparison)

/-- The commits on a page, none on one that is not answered. -/
def commitsOn (k : Nat) : List Commit :=
  match page k with
  | .ok q => q.commits
  | .error _ => []

/-- The commits on the first pages, in order. -/
def collected : Nat → List Commit
  | 0 => []
  | k + 1 => collected k ++ commitsOn page (k + 1)

/-- The number of commits that the first page tells. -/
def total : Nat :=
  match page 1 with
  | .ok q => q.total
  | .error _ => 0

/-- A page that can be read. Only the first one may be empty. -/
structure IsRead (k : Nat) : Prop where
  answered : ∃ q, page k = .ok q
  nonempty : 2 ≤ k → commitsOn page k ≠ []

/-- A page after which another one is asked for. -/
structure Continues (k : Nat) : Prop where
  read : IsRead page k
  missing : (collected page k).length < total page

/-- The page after which no other one is asked for. -/
structure IsLast (k : Nat) : Prop where
  pos : 1 ≤ k
  before : ∀ j, 1 ≤ j → j < k → Continues page j
  stops : ¬ Continues page k

/-- How the pages can end with a page, for a resource with the given URL. -/
inductive Ends (url : String) : Nat → Except Failure (List Commit) → Prop
  | full {k : Nat} (read : IsRead page k) (enough : total page ≤ (collected page k).length) :
      Ends url k (.ok (collected page k))
  | failed {k : Nat} {e : Failure} (unanswered : page k = .error e) : Ends url k (.error e)
  | empty {k : Nat} {q : Comparison} (later : 2 ≤ k) (answered : page k = .ok q)
      (none : q.commits = []) :
      Ends url k (.error (.comparisonEnded url (collected page (k - 1)).length (total page)))

/-- Some pages that are all the pages: all of them can be read, and together they have as many
commits as the first one tells, while fewer of them do not. -/
structure Completes (k : Nat) : Prop where
  pos : 1 ≤ k
  read : ∀ j, 1 ≤ j → j ≤ k → IsRead page j
  missing : ∀ j, 1 ≤ j → j < k → (collected page j).length < total page
  enough : total page ≤ (collected page k).length

/-- Some pages over which the given commits, and no others, are spread. -/
structure Spreads (k : Nat) (commits : List Commit) : Prop where
  pos : 1 ≤ k
  read : ∀ j, 1 ≤ j → j ≤ k → IsRead page j
  collected : collected page k = commits
  total : total page = commits.length

end Pages

def pageQuery (k : Nat) : List (String × String) := [("per_page", "100"), ("page", toString k)]

variable {page page' : Nat → Except Failure Comparison}

theorem commitsOn_of_ok {k : Nat} {q : Comparison} (h : page k = .ok q) :
    commitsOn page k = q.commits := by
  rw [commitsOn, h]

theorem total_of_ok {q : Comparison} (h : page 1 = .ok q) : total page = q.total := by
  rw [total, h]

theorem collected_one {q : Comparison} (h : page 1 = .ok q) : collected page 1 = q.commits := by
  simp [collected, commitsOn_of_ok h]

theorem collected_congr {k : Nat} (h : ∀ j, 1 ≤ j → j ≤ k → page j = page' j) :
    collected page k = collected page' k := by
  induction k with
  | zero => rfl
  | succ k ih =>
    have hk : page (k + 1) = page' (k + 1) := h (k + 1) (by omega) (by omega)
    rw [collected, collected, ih fun j h1 h2 => h j h1 (by omega), commitsOn, commitsOn, hk]

theorem isRead_congr {k : Nat} (h : page k = page' k) : IsRead page k → IsRead page' k := by
  intro hr
  obtain ⟨q, hq⟩ := hr.answered
  refine ⟨⟨q, h ▸ hq⟩, fun hk => ?_⟩
  rw [commitsOn, ← h]
  exact hr.nonempty hk

theorem total_congr (h : page 1 = page' 1) : total page = total page' := by
  rw [total, total, h]

theorem Completes.congr {k : Nat} (h : ∀ j, 1 ≤ j → j ≤ k → page j = page' j)
    (hc : Completes page k) : Completes page' k := by
  have htotal : total page = total page' := total_congr (h 1 (Nat.le_refl 1) hc.pos)
  have hcoll : ∀ j, j ≤ k → collected page j = collected page' j :=
    fun j hj => collected_congr fun i h1 h2 => h i h1 (by omega)
  refine ⟨hc.pos, fun j h1 h2 => isRead_congr (h j h1 h2) (hc.read j h1 h2), fun j h1 h2 => ?_, ?_⟩
  · rw [← hcoll j (by omega), ← htotal]
    exact hc.missing j h1 h2
  · rw [← hcoll k (by omega), ← htotal]
    exact hc.enough

/-- Every page that can be read, but for the first one, adds to what was collected. -/
theorem collected_length_lt {j k : Nat} (hj : 1 ≤ j) (hjk : j < k)
    (h : ∀ i, 1 ≤ i → i ≤ k → IsRead page i) :
    (collected page j).length < (collected page k).length := by
  induction k with
  | zero => omega
  | succ k ih =>
    have hnew : (commitsOn page (k + 1)).length ≠ 0 := by
      have := (h (k + 1) (by omega) (Nat.le_refl _)).nonempty (by omega)
      rwa [Ne, List.length_eq_zero_iff]
    rw [collected, List.length_append]
    rcases Nat.lt_or_eq_of_le (Nat.le_of_lt_succ hjk) with hlt | rfl
    · have := ih hlt fun i h1 h2 => h i h1 (by omega)
      omega
    · omega

theorem Spreads.completes {k : Nat} {commits : List Commit} (h : Spreads page k commits) :
    Completes page k := by
  have hlen : (Paging.collected page k).length = Paging.total page := by rw [h.collected, h.total]
  refine ⟨h.pos, h.read, fun j h1 h2 => ?_, by omega⟩
  have := collected_length_lt h1 h2 h.read
  omega

theorem Continues.not_ends {url : String} {k : Nat} {r : Except Failure (List Commit)}
    (h : Continues page k) : ¬ Ends page url k r := by
  intro he
  obtain ⟨q, hq⟩ := h.read.answered
  cases he with
  | full _ enough => exact absurd h.missing (by omega)
  | failed unanswered => simp [hq] at unanswered
  | empty later answered none =>
    exact h.read.nonempty later (by rw [commitsOn_of_ok answered, none])

theorem IsLast.unique {j k : Nat} (hj : IsLast page j) (hk : IsLast page k) : j = k := by
  rcases Nat.lt_trichotomy j k with hlt | heq | hgt
  · exact absurd (hk.before j hj.pos hlt) hj.stops
  · exact heq
  · exact absurd (hj.before k hk.pos hgt) hk.stops

/-- Pages that are all the pages end in exactly one way. -/
theorem Completes.eq_of_ends {url : String} {k last : Nat} {r : Except Failure (List Commit)}
    (h : Completes page k) (hlast : 1 ≤ last)
    (hcont : ∀ j, 1 ≤ j → j < last → Continues page j) (he : Ends page url last r) :
    last = k ∧ r = .ok (collected page k) := by
  have hle : last = k := by
    rcases Nat.lt_trichotomy last k with hlt | heq | hgt
    · have hmore : Continues page last :=
        ⟨h.read last hlast (Nat.le_of_lt hlt), h.missing last hlast hlt⟩
      exact absurd he hmore.not_ends
    · exact heq
    · have := (hcont k h.pos hgt).missing
      have := h.enough
      omega
  subst hle
  obtain ⟨q, hq⟩ := (h.read last hlast (Nat.le_refl _)).answered
  refine ⟨rfl, ?_⟩
  cases he with
  | full => rfl
  | failed unanswered => simp [hq] at unanswered
  | empty later answered none =>
    have hempty : commitsOn page last = [] := by rw [commitsOn_of_ok answered, none]
    exact absurd hempty ((h.read last hlast (Nat.le_refl _)).nonempty later)

theorem comparisonPage_eq (c : Client) (endpoint : Url) (k : Nat) :
    Resource.comparisonPage c endpoint k = c.get comparison? endpoint (pageQuery k) := rfl

variable {w : World} (hw : Fetch.IsDirect w) {c : Client} {endpoint : Url}
include hw

/-- From the state after some pages, the loop goes on to a last page, and ends as that page says. -/
theorem collectPages_ends
    (hpage : ∀ j, c.answerAt w comparison? endpoint (pageQuery (j % Width.count 32)) = page j)
    (room : Nat) {k : Nat} (hk : 1 ≤ k) (hread : IsRead page k)
    (hroom : total page - (collected page k).length ≤ room) :
    ∃ last, k ≤ last ∧ (∀ j, k ≤ j → j < last → Continues page j) ∧
      Ends page endpoint.print last
        ((Resource.collectPages c endpoint (total page) room ((k + 1) % Width.count 32)
          (collected page k)).run w).result ∧
      ((Resource.collectPages c endpoint (total page) room ((k + 1) % Width.count 32)
          (collected page k)).run w).requests =
        (List.range' (k + 1) (last - k)).flatMap fun j =>
          ((Resource.comparisonPage c endpoint (j % Width.count 32)).run w).requests := by
  -- Each page that is gone past has a commit, so the room lasts as long as commits are missing.
  induction room generalizing k with
  | zero =>
    refine ⟨k, Nat.le_refl k, by omega, ?_, by simp [Resource.collectPages]⟩
    exact .full hread (by omega)
  | succ room ih =>
    rw [Resource.collectPages]
    split
    · next hlt =>
      have hc : Continues page k := ⟨hread, hlt⟩
      have hres : ((Resource.comparisonPage c endpoint ((k + 1) % Width.count 32)).run w).result =
          page (k + 1) := by
        rw [comparisonPage_eq, Client.result_get hw, hpage]
      simp only [result_bind, requests_bind, hres]
      cases hp : page (k + 1) with
      | error e =>
        refine ⟨k + 1, by omega, ?_, .failed hp, by simp⟩
        intro j h1 h2
        exact (show j = k by omega) ▸ hc
      | ok q =>
        cases hq : q.commits with
        | nil =>
          refine ⟨k + 1, by omega, ?_, ?_, by simp [hq]⟩
          · intro j h1 h2
            exact (show j = k by omega) ▸ hc
          · have hempty : Ends page endpoint.print (k + 1) _ := .empty (by omega) hp hq
            simpa [hq] using hempty
        | cons x xs =>
          have hnext : collected page (k + 1) = collected page k ++ (x :: xs) := by
            rw [collected, commitsOn_of_ok hp, hq]
          have hread' : IsRead page (k + 1) :=
            ⟨⟨q, hp⟩, fun _ => by simp [commitsOn_of_ok hp, hq]⟩
          obtain ⟨last, hle, hcont, hends, hreqs⟩ := ih (k := k + 1) (by omega) hread'
            (by rw [hnext, List.length_append, List.length_cons]; omega)
          rw [hnext] at hends hreqs
          have hnum : Resource.nextPage ((k + 1) % Width.count 32) =
              (k + 1 + 1) % Width.count 32 := Nat.mod_add_mod ..
          refine ⟨last, by omega, ?_, ?_, ?_⟩
          · intro j h1 h2
            rcases Nat.eq_or_lt_of_le h1 with rfl | h1
            · exact hc
            · exact hcont j h1 h2
          · simpa [hq, hnum] using hends
          · have hrange : last - k = (last - (k + 1)) + 1 := by omega
            rw [hrange, List.range'_succ, List.flatMap_cons]
            simpa [hq, hnum] using hreqs
    · next hge =>
      refine ⟨k, Nat.le_refl k, by omega, ?_, by simp⟩
      exact .full hread (by omega)

end ReleaseBulletin.Forge.Paging
