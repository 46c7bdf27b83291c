import Mathlib.Data.List.Nodup
import ReleaseBulletin.Change.Labels

/-!
Equality of sets of labels.
-/
namespace ReleaseBulletin.Change.Labels

theorem nodup_names (ls : Labels) : ls.names.Nodup :=
  ls.ascending.imp fun {a b} (hlt : a < b) (he : a = b) => String.lt_irrefl b (he ▸ hlt)

theorem eq_of_mem_iff {ls ls' : Labels} (h : ∀ a, a ∈ ls ↔ a ∈ ls') : ls = ls' := by
  have hperm : ls.names.Perm ls'.names :=
    (List.perm_ext_iff_of_nodup ls.nodup_names ls'.nodup_names).2 h
  have hnames : ls.names = ls'.names :=
    hperm.eq_of_pairwise (fun _ _ _ _ hlt hgt => absurd hgt (String.lt_asymm hlt)) ls.ascending
      ls'.ascending
  cases ls
  cases ls'
  simpa using hnames

/-- A list has the labels of a set, in any order and each any number of times. -/
theorem ofList_eq_of_mem_iff {names : List String} {ls : Labels} (h : ∀ a, a ∈ names ↔ a ∈ ls) :
    ofList names = ls :=
  eq_of_mem_iff fun a => mem_ofList.trans (h a)

/-- Sets of labels are equal exactly if they have the same labels. -/
theorem ofList_eq_iff {names names' : List String} :
    ofList names = ofList names' ↔ ∀ a, a ∈ names ↔ a ∈ names' := by
  refine ⟨fun h a => by rw [← mem_ofList, h, mem_ofList], fun h => ?_⟩
  exact ofList_eq_of_mem_iff fun a => (h a).trans mem_ofList.symm

end ReleaseBulletin.Change.Labels
