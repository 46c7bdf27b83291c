import ReleaseBulletin.Change.Audit
import ReleaseBulletin.Proofs.Change.Retrieval
import ReleaseBulletin.Proofs.Text.Parts

/-!
Displayed titles tell their changes. What comes after the title itself is told from the end, so that
no title looks like another one with the link of some change after it; and an audit state in front
is told from the start.
-/
namespace ReleaseBulletin.Change.Displayed
open Forge Retrieval Session Text.Affix Text.Digit

/-- What a displayed title is made of. -/
structure Caption where
  title : String
  /-- The name that stands before the number, empty if none does. -/
  name : String
  number : Nat
  url : String
  deriving DecidableEq, Repr

def Caption.text (k : Caption) : String :=
  Retrieval.prettyTitle k.title k.name k.number k.url

/-- Neither the name nor the link has a parenthesis that opens. The title may have any text. -/
structure Caption.IsClear (k : Caption) : Prop where
  name : '(' ∉ k.name.toList
  url : '(' ∉ k.url.toList

/-- The caption of a change when its repository is shown by a name. -/
def captionOf (name : String) (x : Change) : Caption := ⟨x.title, name, x.number, x.url⟩

/-- The change is among those that were retrieved from a repository, in some world. -/
def IsRetrieved (repository : String) (named : Bool) (x : Change) : Prop :=
  ∃ (w : World) (c : Client) (base head : String) (xs : List Change),
    ((fetchChanges c repository base head named).run w).result = .ok xs ∧ x ∈ xs

theorem Caption.toList_text (k : Caption) :
    k.text.toList =
      ((k.title.toList ++ [' '] ++ '(' :: '[' :: k.name.toList) ++
        '#' :: (Nat.toDigits 10 k.number ++ [']'])) ++ '(' :: (k.url.toList ++ [')', ')']) := by
  simp [text, Retrieval.prettyTitle]

/-- The parts of a displayed title are found from its end. -/
theorem Caption.eq_of_text {k k' : Caption} (hk : k.IsClear) (hk' : k'.IsClear)
    (h : k.text = k'.text) : k = k' := by
  have hchars := congrArg String.toList h
  rw [toList_text, toList_text] at hchars
  have hdigits : ∀ n, '#' ∉ Nat.toDigits 10 n ++ [']'] := fun n => by
    simp [not_mem_toDigits n (show '#'.isDigit = false by decide)]
  obtain ⟨hlinked, hurl⟩ := append_sep_inj (by simp [hk.url]) (by simp [hk'.url]) hchars
  obtain ⟨hnamed, hnumber⟩ := append_sep_inj (hdigits _) (hdigits _) hlinked
  obtain ⟨htitle, hname⟩ := append_sep_inj (by simp [hk.name]) (by simp [hk'.name]) hnamed
  cases k
  cases k'
  rw [Caption.mk.injEq]
  exact ⟨String.toList_inj.1 (List.append_cancel_right htitle),
    String.toList_inj.1 (List.cons.inj hname).2,
    toDigits_injective (List.append_cancel_right hnumber),
    String.toList_inj.1 (List.append_cancel_right hurl)⟩

/-- What is displayed for a retrieved change is the text of its caption. -/
theorem IsRetrieved.prettyTitle_eq {repository : String} {named : Bool} {x : Change}
    (h : IsRetrieved repository named x) :
    x.prettyTitle = (captionOf (shownName repository named) x).text := by
  obtain ⟨w, c, base, head, xs, hxs, hx⟩ := h
  obtain ⟨comparison, -, -, rfl⟩ := fetchChanges_eq_ok_iff.1 hxs
  obtain ⟨p, -, rfl⟩ := List.mem_map.1 hx
  rfl

/-- The words for an audit state with the blank after them. -/
def lead (s : Audit.Status) : List Char := s.heading.toList ++ [' ']

theorem lead_apart : ∀ s s' : Audit.Status, lead s <+: lead s' → s = s' := by
  intro s s'
  cases s <;> cases s' <;> decide

theorem toList_annotate (x : Change) :
    (Audit.annotate x).prettyTitle.toList =
      lead (Audit.status x.labels) ++ x.prettyTitle.toList := by
  simp [Audit.annotate, lead]

/-- The audit state of a displayed title is found from its start. -/
theorem eq_of_annotate {x y : Change}
    (h : (Audit.annotate x).prettyTitle = (Audit.annotate y).prettyTitle) :
    Audit.status x.labels = Audit.status y.labels ∧ x.prettyTitle = y.prettyTitle := by
  have hchars := congrArg String.toList h
  rw [toList_annotate, toList_annotate] at hchars
  have hstatus : Audit.status x.labels = Audit.status y.labels := by
    have hx := List.prefix_append (lead (Audit.status x.labels)) x.prettyTitle.toList
    have hy := List.prefix_append (lead (Audit.status y.labels)) y.prettyTitle.toList
    rw [hchars] at hx
    rcases List.prefix_or_prefix_of_prefix hx hy with hle | hge
    · exact lead_apart _ _ hle
    · exact (lead_apart _ _ hge).symm
  rw [hstatus] at hchars
  exact ⟨hstatus, String.toList_inj.1 (List.append_cancel_left hchars)⟩

theorem caption_eq_of_isRetrieved {repository repository' : String} {named named' : Bool}
    {x y : Change} (hx : IsRetrieved repository named x) (hy : IsRetrieved repository' named' y)
    (hclear : (captionOf (shownName repository named) x).IsClear)
    (hclear' : (captionOf (shownName repository' named') y).IsClear)
    (h : x.prettyTitle = y.prettyTitle) :
    captionOf (shownName repository named) x = captionOf (shownName repository' named') y := by
  rw [hx.prettyTitle_eq, hy.prettyTitle_eq] at h
  exact Caption.eq_of_text hclear hclear' h

/-- A displayed title tells the title, the name, the number and the link that it is made of, unless
a parenthesis opens in the name or the link. So changes of the released repository, which are shown
without its name, and those of a paired one are never displayed alike. With an audit state in front,
it tells the state and the title without it. -/
theorem displayed_title_tells_parts :
    (∀ k k' : Caption, k.IsClear → k'.IsClear → k.text = k'.text → k = k') ∧
    (∀ repository repository' named named' x y,
      IsRetrieved repository named x → IsRetrieved repository' named' y →
      (captionOf (shownName repository named) x).IsClear →
      (captionOf (shownName repository' named') y).IsClear → x.prettyTitle = y.prettyTitle →
      x.title = y.title ∧ shownName repository named = shownName repository' named' ∧
        x.number = y.number ∧ x.url = y.url) ∧
    (∀ released paired x y, IsRetrieved released false x → IsRetrieved paired true y →
      repositoryName paired ≠ "" → '(' ∉ (repositoryName paired).toList → '(' ∉ x.url.toList →
      '(' ∉ y.url.toList → x.prettyTitle ≠ y.prettyTitle) ∧
    ∀ x y, (Audit.annotate x).prettyTitle = (Audit.annotate y).prettyTitle →
      Audit.status x.labels = Audit.status y.labels ∧ x.prettyTitle = y.prettyTitle := by
  refine ⟨fun _ _ => Caption.eq_of_text, fun repository repository' named named' x y hx hy hclear
    hclear' h => ?_, fun released paired x y hx hy hname hopen hurl hurl' h => ?_,
    fun _ _ => eq_of_annotate⟩
  · exact Caption.mk.inj (caption_eq_of_isRetrieved hx hy hclear hclear' h)
  · have hcaption := caption_eq_of_isRetrieved hx hy ⟨List.not_mem_nil, hurl⟩ ⟨hopen, hurl'⟩ h
    exact hname (Caption.mk.inj hcaption).2.1.symm

/-- A change with a link in its title, as it is displayed for a released repository and for a paired
one, and two changes that are audited. -/
theorem displayed_titles_of_one_request :
    let p : Payload.PullRequest := ⟨1, "Fix ([r#1](u))", "u", some "d", ["l"]⟩
    let x := ofPullRequest "o/r" "" p
    let y := ofPullRequest "o/r" "r" p
    let audited : Change := { x with labels := .ofList ["D1-audited 👍"] }
    let labelled : Change := { x with labels := .ofList ["B1", "D1-audited 👍"] }
    IsRetrieved "o/r" false x ∧ IsRetrieved "o/r" true y ∧ x.prettyTitle ≠ y.prettyTitle ∧
      (captionOf "" x).IsClear ∧ (captionOf "r" y).IsClear ∧
      (captionOf "" x).text ≠ (captionOf "r" y).text ∧
      (Audit.annotate audited).prettyTitle = (Audit.annotate labelled).prettyTitle ∧
      Audit.status audited.labels = Audit.status labelled.labels := by
  intro p x y audited labelled
  let w := Http.Fetch.replying (requestFor .sample "o/r" 1)
    (granted "[1,\"Fix ([r#1](u))\",\"u\",\"d\",[[\"l\"]]]")
    (Http.Fetch.steady (granted "[1,[[\"s\",[\"Fix (#1)\"]]]]"))
  have hw : Http.Fetch.IsDirect w := by
    refine Http.Fetch.isDirect_replying (Http.Fetch.isDirect_steady ?_) _ ?_ <;>
      simp [granted, Http.Fetch.redirectStatuses]
  have hpage : Forge.Resource.pageOf .sample w "o/r" "a" "b" 1 = .ok ⟨1, [⟨"s", "Fix (#1)"⟩]⟩ := by
    have hne : Forge.Resource.pageRequest .sample "o/r" "a" "b" 1 ≠ requestFor .sample "o/r" 1 := by
      decide +kernel
    exact Client.answer_eq_ok_iff.2 ⟨Client.canAsk_sample, _,
      Http.Fetch.contact_replying_of_ne _ hne, rfl, rfl, by decide +kernel⟩
  have hok := Forge.Resource.compare_of_full_page hw hpage (by decide)
  have hp : pullRequestIn w .sample "o/r" 1 = .ok p := by
    rw [pullRequestIn_eq hw]
    exact Client.answer_eq_ok_iff.2 ⟨Client.canAsk_sample, _, Http.Fetch.contact_replying .., rfl,
      rfl, by decide +kernel⟩
  have hnumbers : namedIn [⟨"s", "Fix (#1)"⟩] = [1] := by decide +kernel
  have hretrieved : ∀ named, IsRetrieved "o/r" named
      (ofPullRequest "o/r" (shownName "o/r" named) p) := fun named =>
    ⟨w, .sample, "a", "b", _, fetchChanges_eq_ok_iff.2
      ⟨_, hok, by simp [hnumbers, hp, abort?], rfl⟩,
      by simp [hnumbers, hp, merged?, Payload.PullRequest.isMerged, p]⟩
  have hname : repositoryName "o/r" = "r" := by decide +kernel
  have hshown : shownName "o/r" true = "r" := hname
  have hx : IsRetrieved "o/r" false x := hretrieved false
  have hy : IsRetrieved "o/r" true y := by
    have hnamed := hretrieved true
    rwa [hshown] at hnamed
  have hclear : (captionOf "" x).IsClear := ⟨by decide, by decide⟩
  have hclear' : (captionOf "r" y).IsClear := ⟨by decide, by decide⟩
  have haudited : (Audit.annotate audited).prettyTitle = (Audit.annotate labelled).prettyTitle := by
    decide +kernel
  obtain ⟨htext, -, hapart, hstatus⟩ := displayed_title_tells_parts
  refine ⟨hx, hy, ?_, hclear, hclear', fun h => ?_, haudited, (hstatus _ _ haudited).1⟩
  · exact hapart "o/r" "o/r" x y hx hy (by rw [hname]; decide) (by rw [hname]; decide) hclear.url
      hclear'.url
  · exact absurd (htext _ _ hclear hclear' h) (by decide)

end ReleaseBulletin.Change.Displayed
