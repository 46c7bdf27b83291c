/-!
Sets of labels: names in ascending order, each once, so that equal sets are equal.
-/
namespace ReleaseBulletin.Change

def Labels.insertName (a : String) : List String → List String
  | [] => [a]
  | b :: rest =>
    if a = b then b :: rest
    else if a < b then a :: b :: rest
    else b :: insertName a rest

theorem Labels.mem_insertName {a b : String} {names : List String} :
    b ∈ insertName a names ↔ b = a ∨ b ∈ names := by
  induction names with
  | nil => simp [insertName]
  | cons c rest ih =>
    simp only [insertName]
    split
    · next h => simp [h]
    · split
      · simp
      · simp only [List.mem_cons, ih]
        constructor
        · rintro (h | h | h)
          · exact .inr (.inl h)
          · exact .inl h
          · exact .inr (.inr h)
        · rintro (h | h | h)
          · exact .inr (.inl h)
          · exact .inl h
          · exact .inr (.inr h)

theorem Labels.pairwise_insertName {names : List String} (h : names.Pairwise (· < ·)) (a : String) :
    (insertName a names).Pairwise (· < ·) := by
  induction names with
  | nil => simp [insertName]
  | cons b rest ih =>
    obtain ⟨hb, hr⟩ := List.pairwise_cons.1 h
    simp only [insertName]
    split
    · exact h
    · next hne =>
      split
      · next hlt =>
        refine List.pairwise_cons.2 ⟨?_, h⟩
        intro c hc
        rcases List.mem_cons.1 hc with rfl | hc
        · exact hlt
        · exact String.lt_trans hlt (hb c hc)
      · next hnlt =>
        refine List.pairwise_cons.2 ⟨?_, ih hr⟩
        intro c hc
        rcases mem_insertName.1 hc with rfl | hc
        · by_cases hbc : b < c
          · exact hbc
          · exact absurd (String.le_antisymm (String.not_lt.1 hbc) (String.not_lt.1 hnlt)) hne
        · exact hb c hc

/-- A set of label names. -/
structure Labels where
  names : List String
  ascending : names.Pairwise (· < ·)
  deriving DecidableEq, Repr

def Labels.empty : Labels := ⟨[], .nil⟩

instance : Inhabited Labels := ⟨.empty⟩

def Labels.insert (ls : Labels) (a : String) : Labels :=
  ⟨insertName a ls.names, pairwise_insertName ls.ascending a⟩

def Labels.ofList (names : List String) : Labels := names.foldl .insert .empty

instance : Membership String Labels := ⟨fun ls a => a ∈ ls.names⟩

instance (a : String) (ls : Labels) : Decidable (a ∈ ls) :=
  inferInstanceAs (Decidable (a ∈ ls.names))

theorem Labels.mem_insert {ls : Labels} {a b : String} : b ∈ ls.insert a ↔ b = a ∨ b ∈ ls :=
  mem_insertName

private theorem Labels.mem_foldl_insert (names : List String) (ls : Labels) (b : String) :
    b ∈ names.foldl Labels.insert ls ↔ b ∈ ls ∨ b ∈ names := by
  induction names generalizing ls with
  | nil => simp
  | cons a rest ih => rw [List.foldl_cons, ih, Labels.mem_insert, List.mem_cons]; grind

theorem Labels.mem_ofList {names : List String} {b : String} :
    b ∈ Labels.ofList names ↔ b ∈ names := by
  rw [Labels.ofList, mem_foldl_insert]
  have none : ¬ b ∈ Labels.empty := List.not_mem_nil
  simp [none]

end ReleaseBulletin.Change
