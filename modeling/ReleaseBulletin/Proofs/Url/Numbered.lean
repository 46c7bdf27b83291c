import ReleaseBulletin.Proofs.Text.Digits
import ReleaseBulletin.Proofs.Url.Encoding
import ReleaseBulletin.Url.Endpoint

/-!
URLs that carry numbers, in the query or at the end of the path. A number is encoded as its digits,
so different numbers make different URLs.
-/
namespace ReleaseBulletin.Url
open Percent Endpoint

theorem Percent.formEncode_of_isDigit {cs : List Char} (h : ∀ c ∈ cs, c.isDigit = true) :
    formEncode cs = cs := by
  induction cs with
  | nil => rfl
  | cons c cs ih =>
    have hc : isFormSafe c = true := by
      simp [isFormSafe, Char.isAlphanum, h c List.mem_cons_self]
    have ht : formEncode cs = cs := ih fun d hd => h d (List.mem_cons_of_mem c hd)
    rw [formEncode] at ht ⊢
    rw [List.flatMap_cons, if_pos hc, ht, List.singleton_append]

theorem Percent.formEncode_toString (n : Nat) :
    formEncode (toString n).toList = Nat.toDigits 10 n := by
  rw [Text.Digit.toList_toString]
  exact formEncode_of_isDigit fun c => Text.Digit.isDigit_toDigits n

theorem not_mem_of_isDigit {special : List Char} (hs : special.any Char.isDigit = false)
    {c : Char} (h : c.isDigit = true) : c ∉ special := by
  intro hc
  have hany : special.any Char.isDigit = true := List.any_eq_true.2 ⟨c, hc, h⟩
  simp [hs] at hany

theorem Percent.encode_of_isDigit {special : List Char} (hs : special.any isPlainChar = false)
    {cs : List Char} (h : ∀ c ∈ cs, c.isDigit = true) : encode special cs = cs := by
  refine encode_eq_self fun c hc => isReserved_of_isPlainChar hs ?_
  have hvalue : 48 ≤ c.val ∧ c.val ≤ 57 := by simpa [Char.isDigit] using h c hc
  have hrange : '0' ≤ c ∧ c ≤ '9' := hvalue
  simp [isPlainChar, hrange]

theorem Percent.formPairs_ne_nil {pairs : List (String × String)} (h : pairs ≠ []) :
    formPairs pairs ≠ [] := by
  match pairs, h with
  | [(k, v)], _ => simp [formPairs]
  | (k, v) :: p :: rest, _ => simp [formPairs]

/-- A URL with pairs in its query tells the encoded pairs. -/
theorem Endpoint.formPairs_eq_of_withPairs {u : Url} {ps qs : List (String × String)}
    (hp : ps ≠ []) (hq : qs ≠ []) (h : withPairs u ps = withPairs u qs) :
    formPairs ps = formPairs qs := by
  have hp' := formPairs_ne_nil hp
  have hq' := formPairs_ne_nil hq
  have hquery := congrArg Url.query h
  simp only [withPairs] at hquery
  cases ho : (u.query.getD "").toList with
  | nil => simpa [ho, hp', hq', String.ofList_inj] using hquery
  | cons c cs => simpa [ho, hp', hq', String.ofList_inj] using hquery

theorem isDigit_of_mem_toString {n : Nat} {c : Char} (h : c ∈ (toString n).toList) :
    c.isDigit = true := by
  rw [Text.Digit.toList_toString] at h
  exact Text.Digit.isDigit_toDigits n h

theorem Endpoint.appendedText_toString (web : Bool) (n : Nat) :
    appendedText web (toString n).toList = toString n := by
  have hkept : (toString n).toList.filter (!Reader.isSkipped ·) = (toString n).toList := by
    refine List.filter_eq_self.2 fun c hc => ?_
    have hnot : c ∉ ['\t', '\n', '\r'] :=
      not_mem_of_isDigit (by decide) (isDigit_of_mem_toString hc)
    simpa [Reader.isSkipped, and_assoc] using hnot
  have hsets : (if web then webSegmentSet else segmentSet).any isPlainChar = false := by
    cases web <;> decide
  simp only [appendedText, hkept]
  rw [encode_of_isDigit hsets fun _ => isDigit_of_mem_toString, String.ofList_toList]

/-- A number that is put at the end of a path is its last segment. -/
theorem Endpoint.append_toString (web : Bool) (parts : List String) (n : Nat) :
    ∃ front, append web parts (toString n) = front ++ [toString n] := by
  have hdots : ∀ s, (∃ c ∈ s.toList, c.isDigit = false) → toString n ≠ s := by
    rintro s ⟨c, hc, hdigit⟩ rfl
    simp [isDigit_of_mem_toString hc] at hdigit
  have hone : toString n ≠ "." := hdots "." ⟨'.', by simp, rfl⟩
  have htwo : toString n ≠ ".." := hdots ".." ⟨'.', by simp, rfl⟩
  rw [append, if_neg (not_or.2 ⟨hone, htwo⟩)]
  simp only [appendedText_toString, if_neg hone, if_neg htwo]
  exact ⟨_, rfl⟩

theorem Endpoint.path_of_below? {base url : Url} {segments : List String} {n : Nat}
    (h : below? base (segments ++ [toString n]) = some url) :
    ∃ front, url.path = .segments (front ++ [toString n]) := by
  rw [below?] at h
  split at h
  · cases h
  · cases h
    obtain ⟨front, hfront⟩ := append_toString (isWeb base.scheme) _ n
    exact ⟨front, by rw [List.foldl_append, List.foldl_cons, List.foldl_nil, hfront]⟩

end ReleaseBulletin.Url
