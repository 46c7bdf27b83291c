import ReleaseBulletin.Document.Record

/-!
Tables as records: neither the order of the members nor what stands under other names matters.
-/
namespace ReleaseBulletin.Document

theorem Tree.listOf?_texts (items : List String) :
    (Tree.list (items.map .text)).listOf? Tree.text? = some items := by
  have hitems : (items.map Tree.text).mapM Tree.text? = some items := by
    induction items with
    | nil => rfl
    | cons s items ih =>
      rw [List.map_cons, List.mapM_cons, ih]
      rfl
  exact hitems

namespace Record

section Members

variable {ms ms' : List (Option String × Tree)}

theorem single?_perm (h : ms.Perm ms') (key : String) : single? ms key = single? ms' key := by
  have hfilter := h.filter (·.1 == some key)
  rw [single?, single?]
  generalize ms.filter (·.1 == some key) = found at hfilter
  generalize ms'.filter (·.1 == some key) = found' at hfilter
  cases found with
  | nil => rw [hfilter.nil_eq]
  | cons m found =>
    cases found with
    | nil => rw [← List.singleton_perm.1 hfilter]
    | cons n found =>
      obtain ⟨m', n', rest, rfl⟩ : ∃ m' n' rest, found' = m' :: n' :: rest := by
        have hlength := hfilter.length_eq
        match found', hlength with
        | m' :: n' :: rest, _ => exact ⟨m', n', rest, rfl⟩
      rfl

theorem single?_append {key : String} (others : List (Option String × Tree))
    (h : ∀ m ∈ others, m.1 ≠ some key) : single? (ms ++ others) key = single? ms key := by
  have hnone : others.filter (·.1 == some key) = [] :=
    List.filter_eq_nil_iff.2 fun m hm he => h m hm (eq_of_beq he)
  rw [single?, single?, List.filter_append, hnone, List.append_nil]

theorem fields?_perm (surplus : Surplus) (names : List String) (h : ms.Perm ms') :
    fields? surplus names (.table ms) = fields? surplus names (.table ms') := by
  have hsingle : single? ms = single? ms' := funext (single?_perm h)
  rw [fields?, fields?, h.all_eq, hsingle]

/-- Members with names that the record does not have say nothing. -/
theorem fields?_append (surplus : Surplus) {names : List String}
    {others : List (Option String × Tree)} (hsome : ∀ m ∈ others, m.1.isSome = true)
    (h : ∀ m ∈ others, ∀ name ∈ names, m.1 ≠ some name) :
    fields? surplus names (.table (ms ++ others)) = fields? surplus names (.table ms) := by
  have hsingle : names.mapM (single? (ms ++ others)) = names.mapM (single? ms) := by
    induction names with
    | nil => rfl
    | cons name names ih =>
      have hname : single? (ms ++ others) name = single? ms name :=
        single?_append others fun m hm => h m hm name List.mem_cons_self
      have hnames := ih fun m hm n hn => h m hm n (List.mem_cons_of_mem name hn)
      rw [List.mapM_cons, List.mapM_cons, hname, hnames]
  have hall : others.all (·.1.isSome) = true := List.all_eq_true.2 hsome
  rw [fields?, fields?, List.all_append, hall, Bool.and_true, hsingle]

end Members

end Record

end ReleaseBulletin.Document
