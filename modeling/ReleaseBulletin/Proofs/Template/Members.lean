import ReleaseBulletin.Template.Evaluator

/-!
Members of values: of maps whose keys are texts, and of JSON data.
-/
namespace ReleaseBulletin

/-- The value at the end of members of members. -/
def Json.Value.at? (j : Json.Value) : List String → Option Json.Value
  | [] => some j
  | name :: names => (j.member? name).bind (at? · names)

theorem Json.Value.at?_append (j : Json.Value) (names names' : List String) :
    j.at? (names ++ names') = (j.at? names).bind (·.at? names') := by
  induction names generalizing j with
  | nil => rfl
  | cons name names ih =>
    change (j.member? name).bind (at? · (names ++ names')) = _
    simp only [ih, at?, Option.bind_assoc]

/-- The value at the end of a path that goes through objects only. -/
inductive Json.Value.Reaches : Json.Value → List String → Json.Value → Prop
  | here (v : Json.Value) : Reaches v [] v
  | member {members : List (String × Json.Value)} {name : String} {names : List String}
      {w v : Json.Value} (h : members.lookup name = some w) (hw : Reaches w names v) :
      Reaches (.object members) (name :: names) v

/-- The path comes to an object without the member that it names next, or to no object although it
goes on. -/
inductive Json.Value.IsCutShort : Json.Value → List String → Prop
  | missing {members : List (String × Json.Value)} {name : String} (names : List String)
      (h : members.lookup name = none) : IsCutShort (.object members) (name :: names)
  | other {v : Json.Value} (name : String) (names : List String) (h : v.isObject = false) :
      IsCutShort v (name :: names)
  | further {members : List (String × Json.Value)} {name : String} {names : List String}
      {w : Json.Value} (h : members.lookup name = some w) (hw : IsCutShort w names) :
      IsCutShort (.object members) (name :: names)

theorem Json.Value.at?_eq_some_iff {j v : Json.Value} {path : List String} :
    j.at? path = some v ↔ j.Reaches path v := by
  constructor
  · intro h
    induction path generalizing j with
    | nil =>
      obtain rfl : j = v := Option.some.inj h
      exact .here j
    | cons name names ih =>
      obtain ⟨w, hw, hv⟩ := Option.bind_eq_some_iff.1 h
      cases j with
      | object members => exact .member hw (ih hv)
      | _ => cases hw
  · intro h
    induction h with
    | here v => rfl
    | member h _ ih =>
      rw [at?, member?, h, Option.bind_some, ih]

/-- A path that reaches nothing is cut short somewhere. -/
theorem Json.Value.at?_eq_none_iff {j : Json.Value} {path : List String} :
    j.at? path = none ↔ j.IsCutShort path := by
  constructor
  · intro h
    induction path generalizing j with
    | nil => cases h
    | cons name names ih =>
      cases j with
      | object members =>
        cases hw : members.lookup name with
        | none => exact .missing names hw
        | some w =>
          rw [at?, member?, hw, Option.bind_some] at h
          exact .further hw (ih h)
      | _ => exact .other name names rfl
  · intro h
    induction h with
    | missing names h => rw [at?, member?, h, Option.bind_none]
    | @other v name names h =>
      cases v with
      | object members => cases h
      | _ => rfl
    | further h _ ih => rw [at?, member?, h, Option.bind_some, ih]

namespace Template

theorem Order.order_texts (a b : String) :
    order (.text a) (.text b) = .eq ↔ a = b := by
  change textOrder a b = .eq ↔ a = b
  rw [textOrder]
  split
  case isTrue h =>
    have hne : a ≠ b := fun hab => String.lt_irrefl b (hab ▸ h)
    simpa using hne
  case isFalse h => simp

theorem Order.lookup?_texts (fields : List (String × Value)) (name : String) :
    lookup? (fields.map fun (k, v) => (.text k, v)) (.text name) = fields.lookup name := by
  induction fields with
  | nil => rfl
  | cons p fields ih =>
    have hkey : (order (.text p.1) (.text name) == .eq) = (name == p.1) := by
      rw [Bool.eq_iff_iff, beq_iff_eq, beq_iff_eq, order_texts, eq_comm]
    rw [lookup?, List.map_cons, List.find?_cons, hkey, List.lookup_cons]
    cases name == p.1 with
    | true => rfl
    | false => exact ih

/-- The value of JSON data that may be absent. -/
def Value.ofJson? : Option Json.Value → Value
  | some j => ofJson j
  | Option.none => .undefined false

theorem Value.ofJsonMembers_eq (members : List (String × Json.Value)) :
    ofJsonMembers members =
      (members.map fun m => (m.1, ofJson m.2)).map fun (k, v) => (.text k, v) := by
  induction members with
  | nil => rfl
  | cons m members ih => simp [ofJsonMembers, ih]

theorem Access.member_ofJson (j : Json.Value) (name : String) :
    member (Value.ofJson j) name = .ok (Value.ofJson? (j.member? name)) := by
  cases j
  case object members =>
    have hlookup : (members.map fun m => (m.1, Value.ofJson m.2)).lookup name =
        (members.lookup name).map Value.ofJson := by
      induction members with
      | nil => rfl
      | cons m members ih =>
        rw [List.map_cons, List.lookup_cons, List.lookup_cons, ih]
        cases name == m.1 <;> rfl
    rw [Value.ofJson, member, member?, Value.ofJsonMembers_eq, Order.lookup?_texts, hlookup,
      Json.Value.member?]
    cases members.lookup name <;> rfl
  all_goals rfl

end Template
end ReleaseBulletin
