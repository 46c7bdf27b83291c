import ReleaseBulletin.Change.Companion
import ReleaseBulletin.Proofs.Text.Lowering

/-!
Which titles are companions'. A title that has the pattern in it is one wherever the pattern stands,
unless a capital sigma of the pattern takes its form from the title around it. A pattern in ASCII is
found in any letter case, and nothing else is found in a title in ASCII; merging drops companions and
does nothing else.
-/
namespace ReleaseBulletin.Change.Companion
open Text.Affix Text.CaseMap

theorem isCompanion_iff {c : Change} {pattern : String} :
    isCompanion c pattern = true ↔ lower pattern.toList <:+: lower c.title.toList :=
  occursIn_eq_true_iff

theorem not_mem_merge {c : Change} {pattern : String} (h : isCompanion c pattern = true)
    (primary paired : List Change) : c ∉ merge primary paired pattern := by
  simp [merge, h]

theorem toList_around (a s b : String) :
    (a ++ s ++ b).toList = a.toList ++ s.toList ++ b.toList := by
  rw [String.toList_append, String.toList_append]

/-- A title that has the pattern in it is a companion's wherever the pattern stands, exactly if the
pattern tells the form of each of its capital sigmas; so it is for every pattern without one. -/
theorem pattern_in_title_iff_isSettled (pattern : String) :
    ((∀ (c : Change) (a b : String), c.title = a ++ pattern ++ b →
        isCompanion c pattern = true ∧ ∀ primary paired, c ∉ merge primary paired pattern) ↔
      IsSettled pattern.toList) ∧
    ('Σ' ∉ pattern.toList → IsSettled pattern.toList) := by
  refine ⟨⟨fun h => isSettled_iff.2 fun a b => ?_, fun h c a b htitle => ?_⟩, isSettled_of_not_mem⟩
  · let title := String.ofList a ++ pattern ++ String.ofList b
    have hcompanion := (h ⟨0, title, "", "", .empty, ""⟩ _ _ rfl).1
    rwa [isCompanion_iff, toList_around, String.toList_ofList, String.toList_ofList] at hcompanion
  · have hcompanion : isCompanion c pattern = true := by
      rw [isCompanion_iff, htitle, toList_around]
      exact isSettled_iff.1 h _ _
    exact ⟨hcompanion, not_mem_merge hcompanion⟩

/-- A title with the common pattern in it. -/
theorem title_with_companion :
    let c : Change := ⟨1, "Runtime companion for #1", "u", "o/r", .empty, "t"⟩
    c.title = "Runtime " ++ "companion" ++ " for #1" ∧ 'Σ' ∉ "companion".toList ∧
      isCompanion c "companion" = true ∧ merge [c] [c] "companion" = [] := by
  intro c
  have hsigma : 'Σ' ∉ "companion".toList := by decide
  obtain ⟨hiff, hsettled⟩ := pattern_in_title_iff_isSettled "companion"
  obtain ⟨hcompanion, hdropped⟩ := hiff.2 (hsettled hsigma) c "Runtime " " for #1" (by decide)
  exact ⟨by decide, hsigma, hcompanion, by simp [merge, hcompanion]⟩

/-- The last capital sigma of this pattern is a final one. In the title a letter follows it, and it is
none. -/
theorem title_with_pattern_kept :
    let c : Change := ⟨1, "ΣΥΝΟΔΟΣPR", "u", "o/r", .empty, "t"⟩
    c.title = "" ++ "ΣΥΝΟΔΟΣ" ++ "PR" ∧ isCompanion c "ΣΥΝΟΔΟΣ" = false ∧
      merge [c] [] "ΣΥΝΟΔΟΣ" = [c] := by
  decide +kernel

/-- All characters of the text are in ASCII. -/
def IsAscii (s : String) : Prop := ∀ c ∈ s.toList, c.toNat < 0x80

instance (s : String) : Decidable (IsAscii s) :=
  List.decidableBAll (fun c : Char => c.toNat < 0x80) s.toList

/-- The text has the pattern in it, but for the case of letters in ASCII. -/
def Mentions (pattern text : String) : Prop :=
  ∃ a w b : String, text = a ++ w ++ b ∧
    w.toList.map Char.toLower = pattern.toList.map Char.toLower

theorem toNat_toLower_lt_iff {c : Char} : c.toLower.toNat < 0x80 ↔ c.toNat < 0x80 := by
  by_cases hupper : c.val ≥ 'A'.val ∧ c.val ≤ 'Z'.val
  · have hle : c.toNat ≤ 90 := UInt32.le_iff_toNat_le.1 hupper.2
    have hshift : ('a'.val - 'A'.val).toNat = 32 := by decide
    have hval : c.toLower.val = c.val + ('a'.val - 'A'.val) := congrArg Char.val (dif_pos hupper)
    have hlower : c.toLower.toNat = c.toNat + 32 := by
      rw [Char.toNat, hval, UInt32.toNat_add, hshift, Char.toNat_val]
      omega
    omega
  · have hlower : c.toLower = c := dif_neg hupper
    rw [hlower]

theorem IsAscii.lower_eq {s : String} (h : IsAscii s) :
    lower s.toList = s.toList.map Char.toLower :=
  lower_of_ascii h

theorem IsAscii.sigma_not_mem {s : String} (h : IsAscii s) : 'Σ' ∉ s.toList :=
  fun hmem => absurd (h 'Σ' hmem) (by decide)

theorem IsAscii.of_map_toLower {s w : String} (h : IsAscii s)
    (hw : w.toList.map Char.toLower = s.toList.map Char.toLower) : IsAscii w := by
  intro c hc
  have hmem : c.toLower ∈ s.toList.map Char.toLower := hw ▸ List.mem_map_of_mem hc
  obtain ⟨d, hd, hlower⟩ := List.mem_map.1 hmem
  rw [← toNat_toLower_lt_iff, ← hlower, toNat_toLower_lt_iff]
  exact h d hd

theorem isCompanion_of_mentions {c : Change} {pattern : String} (hp : IsAscii pattern)
    (h : Mentions pattern c.title) : isCompanion c pattern = true := by
  -- The occurrence is in ASCII as the pattern is, so it has no sigma for the title to form.
  obtain ⟨a, w, b, htitle, hw⟩ := h
  have hascii : IsAscii w := hp.of_map_toLower hw
  have hlower : lower pattern.toList = lower w.toList := by
    rw [hp.lower_eq, hascii.lower_eq, hw]
  rw [isCompanion_iff, htitle, toList_around, hlower]
  exact isSettled_iff.1 (isSettled_of_not_mem hascii.sigma_not_mem) _ _

theorem mentions_of_isCompanion {c : Change} {pattern : String} (hp : IsAscii pattern)
    (ht : IsAscii c.title) (h : isCompanion c pattern = true) : Mentions pattern c.title := by
  rw [isCompanion_iff, hp.lower_eq, ht.lower_eq] at h
  obtain ⟨x, y, hxy⟩ := h
  obtain ⟨front, b, htitle, hfront, -⟩ := List.append_eq_map_iff.1 hxy
  obtain ⟨a, w, rfl, -, hw⟩ := List.append_eq_map_iff.1 hfront.symm
  refine ⟨String.ofList a, String.ofList w, String.ofList b, ?_, by rw [String.toList_ofList, hw]⟩
  rw [← String.toList_inj, toList_around, htitle]
  simp only [String.toList_ofList]

/-- The changes that are no companions, in order. -/
def others (pattern : String) (changes : List Change) : List Change :=
  changes.filter fun c => !isCompanion c pattern

theorem others_append (pattern : String) (xs ys : List Change) :
    others pattern (xs ++ ys) = others pattern xs ++ others pattern ys :=
  List.filter_append ..

theorem others_others (pattern : String) (changes : List Change) :
    others pattern (others pattern changes) = others pattern changes := by
  simp [others]

theorem merge_eq (primary paired : List Change) (pattern : String) :
    merge primary paired pattern = others pattern primary ++ others pattern paired :=
  others_append pattern primary paired

theorem mem_merge {c : Change} {primary paired : List Change} {pattern : String} :
    c ∈ merge primary paired pattern ↔ c ∈ primary ++ paired ∧ isCompanion c pattern = false := by
  rw [merge, List.mem_filter, Bool.not_eq_true']

/-- Merging with a pattern in ASCII drops the changes whose title has the pattern in it, in any
letter case, and of the changes with a title in ASCII no others; those that stay keep their order.
So it does not matter when companions are dropped, nor how the changes are put together. -/
theorem merge_drops_ascii_companions {pattern : String} (hp : IsAscii pattern)
    (primary paired : List Change) :
    let merged := merge primary paired pattern
    (merged.Sublist (primary ++ paired) ∧
      merged = others pattern primary ++ others pattern paired) ∧
    (∀ c, Mentions pattern c.title → isCompanion c pattern = true ∧ c ∉ merged) ∧
    (∀ c ∈ primary ++ paired, IsAscii c.title → (c ∈ merged ↔ ¬ Mentions pattern c.title)) ∧
    merge merged [] pattern = merged ∧
    (∀ more, merge (primary ++ more) paired pattern =
        merge primary [] pattern ++ merge more paired pattern ∧
      merge primary (paired ++ more) pattern = merged ++ merge [] more pattern) ∧
    merge (others pattern primary) paired pattern = merged ∧
    merge primary (others pattern paired) pattern = merged := by
  intro merged
  have hmerged : merged = others pattern primary ++ others pattern paired :=
    merge_eq primary paired pattern
  have hnone : others pattern [] = [] := rfl
  refine ⟨⟨List.filter_sublist, hmerged⟩, fun c h => ?_,
    fun c hc ht => ⟨fun hm hmentions => ?_, fun hno => ?_⟩, ?_, fun more => ⟨?_, ?_⟩, ?_, ?_⟩
  · have hcompanion := isCompanion_of_mentions hp h
    exact ⟨hcompanion, not_mem_merge hcompanion primary paired⟩
  · exact not_mem_merge (isCompanion_of_mentions hp hmentions) primary paired hm
  · refine mem_merge.2 ⟨hc, Bool.eq_false_iff.2 fun hcompanion => ?_⟩
    exact hno (mentions_of_isCompanion hp ht hcompanion)
  · rw [merge_eq, hmerged, others_append, others_others, others_others, hnone, List.append_nil]
  · rw [merge_eq, merge_eq, merge_eq, others_append, hnone, List.append_nil, List.append_assoc]
  · rw [merge_eq, merge_eq, hmerged, others_append, hnone, List.nil_append, List.append_assoc]
  · rw [merge_eq, others_others, hmerged]
  · rw [merge_eq, others_others, hmerged]

/-- A title with the common pattern in other letters and Greek around it is dropped, and one without
it stays. -/
theorem merge_drops_companion :
    let a : Change := ⟨1, "Σ:CoMPanionΣ", "u", "o/r", .empty, "t"⟩
    let b : Change := ⟨2, "Fix compaction", "u", "o/r", .empty, "t"⟩
    IsAscii "companion" ∧ Mentions "companion" a.title ∧ a ∉ merge [a] [b] "companion" ∧
      IsAscii b.title ∧ merge [a] [b] "companion" = [b] := by
  intro a b
  have hascii : IsAscii "companion" := by decide
  have hmentions : Mentions "companion" a.title :=
    ⟨"Σ:", "CoMPanion", "Σ", by decide, by decide⟩
  obtain ⟨⟨-, hmerged⟩, hdropped, -⟩ := merge_drops_ascii_companions hascii [a] [b]
  refine ⟨hascii, hmentions, (hdropped a hmentions).2, by decide, hmerged.trans ?_⟩
  decide +kernel

end ReleaseBulletin.Change.Companion
