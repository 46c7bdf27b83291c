import ReleaseBulletin.Change.Basic
import ReleaseBulletin.Proofs.Change.Labels
import ReleaseBulletin.Proofs.Document.Members
import ReleaseBulletin.Proofs.Json.Written

/-!
Changes that were written as JSON are read back. The order of their members, the order and the
repetition of their labels, and texts under names that no change has make no difference.
-/
namespace ReleaseBulletin.Change
open Document Document.Record Json.Parser

/-- The members that a change is written with, its labels given by their names. -/
def membersWith (c : Change) (names : List String) : List (Option String × Tree) :=
  [(some "number", .integer c.number), (some "title", .text c.title), (some "url", .text c.url),
    (some "repository", .text c.repository), (some "labels", .list (names.map .text)),
    (some "pretty_title", .text c.prettyTitle)]

/-- Members that state a change: its own, with its labels in any order and each any number of times,
and among them texts under names that no change has. -/
def IsStatedBy (c : Change) (ms : List (Option String × Tree)) : Prop :=
  ∃ names others, (∀ a, a ∈ names ↔ a ∈ c.labels) ∧ (∀ f ∈ others, f.1 ∉ fieldNames) ∧
    ms.Perm (c.membersWith names ++ textMembers others)

theorem isStatedBy_membersWith (c : Change) : c.IsStatedBy (c.membersWith c.labels.names) :=
  ⟨c.labels.names, [], fun _ => .rfl, nofun, by rw [textMembers, List.map_nil, List.append_nil]⟩

theorem ofTree?_congr {t t' : Tree}
    (h : fields? .refused fieldNames t = fields? .refused fieldNames t') :
    ofTree? t = ofTree? t' := by
  rw [ofTree?, ofTree?, h]

section Reading

variable {c : Change} (hnumber : c.number < numberLimit)
include hnumber

theorem ofTree?_membersWith {names : List String} (hlabels : ∀ a, a ∈ names ↔ a ∈ c.labels) :
    ofTree? (.table (c.membersWith names)) = some c := by
  have hfields : fields? .refused fieldNames (.table (c.membersWith names)) =
      some ((c.membersWith names).map fun m => some m.2) := rfl
  have hread : (Tree.integer c.number).natBelow? numberLimit = some c.number := if_pos hnumber
  rw [ofTree?, hfields]
  simp only [membersWith, List.map_cons, List.map_nil, required, hread, Tree.listOf?_texts,
    Tree.text?, Option.bind_eq_bind, Option.bind_some, Labels.ofList_eq_of_mem_iff hlabels]
  rfl

theorem IsStatedBy.ofTree?_eq {ms : List (Option String × Tree)} (h : c.IsStatedBy ms) :
    ofTree? (.table ms) = some c := by
  obtain ⟨names, others, hlabels, hothers, hperm⟩ := h
  have hsurplus : ∀ m ∈ textMembers others, ∀ name ∈ fieldNames, m.1 ≠ some name := by
    rintro m hm name hname he
    obtain ⟨f, hf, rfl⟩ := List.mem_map.1 hm
    exact hothers f hf (Option.some.inj he ▸ hname)
  have hfields : fields? .refused fieldNames (.table ms) =
      fields? .refused fieldNames (.table (c.membersWith names)) :=
    (fields?_perm .refused fieldNames hperm).trans
      (fields?_append .refused (fun m hm => (isExact_of_mem_textMembers m hm).1) hsurplus)
  rw [ofTree?_congr hfields]
  exact ofTree?_membersWith hnumber hlabels

theorem isExact_of_mem_membersWith {names : List String} :
    ∀ m ∈ c.membersWith names, m.1.isSome = true ∧ IsExact m.2 := by
  have hheld : Json.Numeral.Holds c.number := by
    refine ⟨?_, Int.ofNat_lt.2 hnumber⟩
    have hleast : Width.leastSigned 64 ≤ 0 := by decide
    omega
  have hnames : IsExact (.list (names.map .text)) := by
    refine .list fun t ht => ?_
    obtain ⟨a, -, rfl⟩ := List.mem_map.1 ht
    exact .text a
  simpa [membersWith] using ⟨IsExact.integer hheld, IsExact.text c.title, IsExact.text c.url,
    IsExact.text c.repository, hnames, IsExact.text c.prettyTitle⟩

theorem IsStatedBy.isExact {ms : List (Option String × Tree)} (h : c.IsStatedBy ms) :
    IsExact (.table ms) := by
  obtain ⟨names, others, -, -, hperm⟩ := h
  refine .of_members fun m hm => ?_
  rcases List.mem_append.1 (hperm.mem_iff.1 hm) with hown | hother
  · exact isExact_of_mem_membersWith hnumber m hown
  · exact isExact_of_mem_textMembers m hother

/-- A text whose members state a change is read as that change. -/
theorem IsStatedBy.ofJson?_eq {ms : List (Option String × Tree)} (h : c.IsStatedBy ms)
    {text : String} (htext : parse text = some (.table ms)) : ofJson? text = some c := by
  rw [ofJson?, htext, Option.bind_some, h.ofTree?_eq hnumber]

theorem IsStatedBy.ofJson?_print_eq {ms : List (Option String × Tree)} (h : c.IsStatedBy ms) :
    ofJson? (Json.Printer.print (.table ms)) = some c :=
  h.ofJson?_eq hnumber (parse_print (h.isExact hnumber))

end Reading

/-- A change with a number of 64 bits is read back from the text that it is written as. Members that
state the same change are read as it from whatever text they are in, and they are written as such a
text. -/
theorem change_survives_writing (c : Change) (hnumber : c.number < numberLimit) :
    ofJson? c.toJson = some c ∧
    ∀ ms, c.IsStatedBy ms →
      ofJson? (Json.Printer.print (.table ms)) = some c ∧
      ∀ text, parse text = some (.table ms) → ofJson? text = some c :=
  ⟨c.isStatedBy_membersWith.ofJson?_print_eq hnumber, fun _ hms =>
    ⟨hms.ofJson?_print_eq hnumber, fun _ htext => hms.ofJson?_eq hnumber htext⟩⟩

example :
    ofJson? ("\x7b\"url\":\"\", \"x\":\"\", \"labels\":[\"l\",\"l\"], \"title\":\"\\u00E9\\/\"," ++
      "\"number\": 7, \"pretty_title\":\"\", \"repository\":\"\"\x7d") =
      some ⟨7, "é/", "", "", .ofList ["l"], ""⟩ := by
  decide +kernel

/-- A change with the greatest number and escapes in its title, and members in another order, with a
label twice and a name that no change has. -/
theorem change_survives_rearranged :
    let c : Change := ⟨18446744073709551615, "a \"b\"\n", "u", "o/r", .ofList ["A", "B"], "é"⟩
    let ms : List (Option String × Tree) :=
      [(some "since", .text "\\"), (some "pretty_title", .text "é"),
        (some "labels", .list [.text "B", .text "A", .text "B"]), (some "repository", .text "o/r"),
        (some "url", .text "u"), (some "title", .text "a \"b\"\n"),
        (some "number", .integer 18446744073709551615)]
    c.number < numberLimit ∧ c.IsStatedBy ms ∧ ofJson? c.toJson = some c ∧
      parse (Json.Printer.print (.table ms)) = some (.table ms) ∧
      ofJson? (Json.Printer.print (.table ms)) = some c := by
  intro c ms
  have hnumber : c.number < numberLimit := by decide
  have hnames : ∀ a, a ∈ ["B", "A", "B"] ↔ a ∈ ["A", "B"] := fun a => by
    simp only [List.mem_cons, List.not_mem_nil, or_false]
    tauto
  have hstated : c.IsStatedBy ms :=
    ⟨["B", "A", "B"], [("since", "\\")], fun a => (hnames a).trans Labels.mem_ofList.symm,
      by decide,
      List.reverse_perm (c.membersWith ["B", "A", "B"] ++ textMembers [("since", "\\")])⟩
  have hparse := parse_print (hstated.isExact hnumber)
  obtain ⟨hjson, hms⟩ := change_survives_writing c hnumber
  exact ⟨hnumber, hstated, hjson, hparse, (hms ms hstated).2 _ hparse⟩

end ReleaseBulletin.Change
