import ReleaseBulletin.Change.Subject

/-!
The change requests that messages name: each one once, where it is named first.
-/
namespace ReleaseBulletin.Change.Subject

/-- Numbers that were seen count as earlier occurrences. -/
theorem distinct_eq (seen ns : List Nat) :
    distinct seen ns = (ns.filter fun n => decide (n ∉ seen)).eraseDups := by
  induction ns generalizing seen with
  | nil => rfl
  | cons n ns ih =>
    rw [distinct, List.filter_cons]
    by_cases hn : n ∈ seen
    · simp only [hn, if_true, not_true_eq_false, decide_false, Bool.false_eq_true, if_false]
      exact ih seen
    · simp only [hn, if_false, not_false_eq_true, decide_true, if_true]
      rw [List.eraseDups_cons, ih, List.filter_filter]
      congr 2
      refine List.filter_congr fun m _ => ?_
      by_cases hm : m = n <;> simp [hm]

theorem numbers_eq (messages : List String) :
    numbers messages = (messages.filterMap fun m => number? m.toList).eraseDups := by
  rw [numbers, distinct_eq, List.filter_eq_self.2]
  simp

theorem mem_distinct {seen ns : List Nat} {n : Nat} : n ∈ distinct seen ns ↔ n ∈ ns ∧ n ∉ seen := by
  rw [distinct_eq, List.mem_eraseDups, List.mem_filter, decide_eq_true_iff]

theorem nodup_distinct (seen ns : List Nat) : (distinct seen ns).Nodup := by
  induction ns generalizing seen with
  | nil => exact List.nodup_nil
  | cons n ns ih =>
    rw [distinct]
    split
    · exact ih seen
    · refine List.nodup_cons.2 ⟨fun h => ?_, ih (n :: seen)⟩
      exact (mem_distinct.1 h).2 List.mem_cons_self

theorem nodup_numbers (messages : List String) : (numbers messages).Nodup := nodup_distinct ..

theorem mem_numbers {messages : List String} {n : Nat} :
    n ∈ numbers messages ↔ ∃ m ∈ messages, number? m.toList = some n := by
  rw [numbers_eq, List.mem_eraseDups, List.mem_filterMap]

end ReleaseBulletin.Change.Subject
