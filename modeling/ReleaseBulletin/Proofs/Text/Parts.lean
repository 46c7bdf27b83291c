import Mathlib.Data.List.TakeWhile
import ReleaseBulletin.Text.Affix

/-!
Texts cut at a character and put together again. Parts without that character come back.
-/
namespace ReleaseBulletin.Text.Affix

/-- A text taken apart where the characters of a kind end. -/
theorem takeWhile_and_dropWhile {p : Char → Bool} {cs front rest : List Char} :
    cs.takeWhile p = front ∧ cs.dropWhile p = rest ↔
      cs = front ++ rest ∧ (∀ c ∈ front, p c = true) ∧
        ∀ c, rest.head? = some c → p c = false := by
  constructor
  · rintro ⟨rfl, rfl⟩
    refine ⟨List.takeWhile_append_dropWhile.symm, fun c => List.mem_takeWhile_imp, fun c hc => ?_⟩
    have hnot := List.head?_dropWhile_not p cs
    rw [hc] at hnot
    simpa using hnot
  · rintro ⟨rfl, hfront, hrest⟩
    have hstop : rest.takeWhile p = [] ∧ rest.dropWhile p = rest := by
      cases rest with
      | nil => exact ⟨rfl, rfl⟩
      | cons c rest => simp [hrest c rfl]
    rw [List.takeWhile_append_of_pos hfront, List.dropWhile_append_of_pos hfront, hstop.1, hstop.2,
      List.append_nil]
    exact ⟨rfl, rfl⟩

/-- A character that a leading text does not have stands after it or is not reached. -/
theorem after?_append_cons {lead : List Char} {x : Char} (h : x ∉ lead) (cs rest : List Char) :
    after? lead (cs ++ x :: rest) = (after? lead cs).map (· ++ x :: rest) := by
  induction lead generalizing cs with
  | nil => rfl
  | cons l lead ih =>
    obtain ⟨hl, hlead⟩ := not_or.1 (mt List.mem_cons.2 h)
    cases cs with
    | nil => simp [after?, Ne.symm hl]
    | cons c cs =>
      simp only [List.cons_append, after?]
      split
      · exact ih hlead cs
      · rfl

section Front

variable {sep : Char} {cs : List Char} (h : sep ∉ cs)
include h

theorem forall_ne_of_not_mem : ∀ c ∈ cs, (c != sep) = true := by
  intro c hc
  have hne : c ≠ sep := fun e => h (e ▸ hc)
  exact bne_iff_ne.2 hne

theorem takeWhile_of_not_mem : cs.takeWhile (· != sep) = cs :=
  List.takeWhile_eq_self_iff.2 (forall_ne_of_not_mem h)

theorem dropWhile_of_not_mem : cs.dropWhile (· != sep) = [] :=
  List.dropWhile_eq_nil_iff.2 (forall_ne_of_not_mem h)

theorem takeWhile_append_sep (rest : List Char) :
    (cs ++ sep :: rest).takeWhile (· != sep) = cs := by
  rw [List.takeWhile_append_of_pos (forall_ne_of_not_mem h), List.takeWhile_cons_of_neg (by simp),
    List.append_nil]

theorem dropWhile_append_sep (rest : List Char) :
    (cs ++ sep :: rest).dropWhile (· != sep) = sep :: rest := by
  rw [List.dropWhile_append_of_pos (forall_ne_of_not_mem h), List.dropWhile_cons_of_neg (by simp)]

end Front

/-- There is one way to cut a text at the last of a character. -/
theorem append_sep_inj {sep : Char} {front front' rest rest' : List Char} (hrest : sep ∉ rest)
    (hrest' : sep ∉ rest') (h : front ++ sep :: rest = front' ++ sep :: rest') :
    front = front' ∧ rest = rest' := by
  have hback : rest.reverse ++ sep :: front.reverse = rest'.reverse ++ sep :: front'.reverse := by
    simpa using congrArg List.reverse h
  have hlast : rest.reverse = rest'.reverse := by
    rw [← takeWhile_append_sep (mt List.mem_reverse.1 hrest) front.reverse, hback,
      takeWhile_append_sep (mt List.mem_reverse.1 hrest')]
  obtain rfl := List.reverse_inj.1 hlast
  exact ⟨List.append_cancel_right h, rfl⟩

theorem split_of_not_mem {sep : Char} {part : List Char} (h : sep ∉ part) :
    split sep part = [part] := by
  induction part with
  | nil => rfl
  | cons c cs ih =>
    have hc : c ≠ sep := fun e => h (by simp [e])
    have hcs : sep ∉ cs := fun hmem => h (List.mem_cons_of_mem c hmem)
    rw [split, if_neg hc, ih hcs]

theorem split_append {sep : Char} {part : List Char} (h : sep ∉ part)
    (rest : List Char) : split sep (part ++ sep :: rest) = part :: split sep rest := by
  induction part with
  | nil => simp [split]
  | cons c cs ih =>
    have hc : c ≠ sep := fun e => h (by simp [e])
    have hcs : sep ∉ cs := fun hmem => h (List.mem_cons_of_mem c hmem)
    rw [List.cons_append, split, if_neg hc, ih hcs]

theorem joined_cons_cons (sep : Char) (part next : List Char) (rest : List (List Char)) :
    joined [sep] (part :: next :: rest) = part ++ sep :: joined [sep] (next :: rest) := by
  rw [joined, List.append_assoc, List.singleton_append]
  exact List.cons_ne_nil next rest

/-- Parts without the separator are what a text of them is cut into. -/
theorem split_joined {sep : Char} {parts : List (List Char)}
    (h : ∀ part ∈ parts, sep ∉ part) (hne : parts ≠ []) :
    split sep (joined [sep] parts) = parts := by
  induction parts with
  | nil => exact absurd rfl hne
  | cons part parts ih =>
    have hpart : sep ∉ part := h part List.mem_cons_self
    cases parts with
    | nil => exact split_of_not_mem hpart
    | cons next rest =>
      have hrest := ih (fun p hp => h p (List.mem_cons_of_mem part hp)) (List.cons_ne_nil next rest)
      rw [joined_cons_cons, split_append hpart, hrest]

theorem mem_of_mem_split {sep c : Char} {cs part : List Char}
    (hpart : part ∈ split sep cs) (hc : c ∈ part) : c ∈ cs := by
  induction cs generalizing part with
  | nil =>
    obtain rfl : part = [] := by simpa [split] using hpart
    exact hc
  | cons d cs ih =>
    rw [split] at hpart
    split at hpart
    · rcases List.mem_cons.1 hpart with rfl | hmem
      · cases hc
      · exact List.mem_cons_of_mem d (ih hmem hc)
    · split at hpart
      · next hnil => exact absurd hnil (split_ne_nil sep cs)
      · next first parts hsplit =>
        rw [hsplit] at ih
        rcases List.mem_cons.1 hpart with rfl | hmem
        · rcases List.mem_cons.1 hc with rfl | hfirst
          · exact List.mem_cons_self
          · exact List.mem_cons_of_mem d (ih List.mem_cons_self hfirst)
        · exact List.mem_cons_of_mem d (ih (List.mem_cons_of_mem first hmem) hc)

theorem mem_joined {sep c : Char} {parts : List (List Char)} (h : c ∈ joined [sep] parts) :
    c = sep ∨ ∃ part ∈ parts, c ∈ part := by
  induction parts with
  | nil => cases h
  | cons part parts ih =>
    cases parts with
    | nil => exact .inr ⟨part, List.mem_cons_self, h⟩
    | cons next rest =>
      rw [joined_cons_cons] at h
      rcases List.mem_append.1 h with hpart | htail
      · exact .inr ⟨part, List.mem_cons_self, hpart⟩
      · rcases List.mem_cons.1 htail with hsep | hrest
        · exact .inl hsep
        · rcases ih hrest with hsep | ⟨p, hp, hc⟩
          · exact .inl hsep
          · exact .inr ⟨p, List.mem_cons_of_mem part hp, hc⟩

/-- Texts, each with the separator after it. -/
def ended (sep : Char) (parts : List (List Char)) : List Char := parts.flatMap (· ++ [sep])

theorem ended_cons (sep : Char) (part : List Char) (parts : List (List Char)) :
    ended sep (part :: parts) = part ++ sep :: ended sep parts := by
  simp [ended]

theorem length_ended (sep : Char) (parts : List (List Char)) :
    parts.length ≤ (ended sep parts).length := by
  induction parts with
  | nil => exact Nat.le_refl 0
  | cons part parts ih =>
    simp only [ended_cons, List.length_append, List.length_cons]
    omega

/-- A text without the separator does not reach over it. -/
theorem infix_or_infix_of_sep {needle front rest : List Char} {sep : Char} (hsep : sep ∉ needle)
    (h : needle <:+: front ++ sep :: rest) : needle <:+: front ∨ needle <:+: rest := by
  rcases List.infix_append_iff_ne_nil.1 h with hfront | hrest | ⟨l, l', -, hl', rfl, -, hprefix⟩
  · exact .inl hfront
  · rcases List.infix_cons_iff.1 hrest with hstart | hrest
    · cases needle with
      | nil => exact .inl (List.nil_infix)
      | cons c cs =>
        obtain rfl : c = sep := (List.cons_prefix_cons.1 hstart).1
        exact absurd List.mem_cons_self hsep
    · exact .inr hrest
  · cases l' with
    | nil => exact absurd rfl hl'
    | cons c cs =>
      obtain rfl : c = sep := (List.cons_prefix_cons.1 hprefix).1
      exact absurd (by simp) hsep

theorem not_infix_ended {needle tail : List Char} {sep : Char} {parts : List (List Char)}
    (hsep : sep ∉ needle) (hparts : ∀ part ∈ parts, ¬ needle <:+: part)
    (htail : ¬ needle <:+: tail) : ¬ needle <:+: ended sep parts ++ tail := by
  induction parts with
  | nil => exact htail
  | cons part parts ih =>
    intro h
    rw [ended_cons, List.append_assoc, List.cons_append] at h
    rcases infix_or_infix_of_sep hsep h with hpart | hrest
    · exact hparts part List.mem_cons_self hpart
    · exact ih (fun p hp => hparts p (List.mem_cons_of_mem part hp)) hrest

end ReleaseBulletin.Text.Affix
