import ReleaseBulletin.Proofs.Template.Spelling
import ReleaseBulletin.Template.Reader

/-!
Expressions without operators. Where no word joins it to others, an operand is read alike at every
strength of the grammar.
-/
namespace ReleaseBulletin.Template

namespace Dotted

/-- The expression of a member of a member of an expression. -/
def memberExpr (line : Nat) (e : Expr) (members : List String) : Expr :=
  members.foldl (fun e s => .member line e s) e

def expr (d : Dotted) (line : Nat) : Expr := memberExpr line (.variable d.base) d.members

end Dotted

namespace Grammar

/-- No words follow, or a choice goes on. -/
def Stops (rest : List Word) : Prop :=
  ∀ w ∈ rest.head?, w.token = .name "if" ∨ w.token = .name "else"

/-- No part, call or subscript follows. -/
def EndsOperand (rest : List Word) : Prop :=
  ∀ w ∈ rest.head?, w.token ≠ .mark .dot ∧ w.token ≠ .mark .openBracket ∧
    w.token ≠ .mark .openParen

section Tower

variable {inside nested simple part : Reader Part} {ws rest : List Word} {p : Part}

theorem postfixed_end (h : EndsOperand rest) (fuel : Nat) :
    postfixed nested simple (fuel + 1) p rest = some (p, rest) := by
  rw [postfixed.eq_def]
  dsimp only
  split
  · exact absurd rfl (h _ rfl).1
  · exact absurd rfl (h _ rfl).1
  · exact absurd rfl (h _ rfl).1
  · exact absurd rfl (h _ rfl).2.1
  · exact absurd rfl (h _ rfl).2.2
  · rfl

theorem postfixed_members (h : EndsOperand rest) (members : List String) {fuel : Nat}
    (hfuel : members.length < fuel) :
    postfixed nested simple fuel p (Dotted.memberWords members p.last ++ rest) =
      some (⟨Dotted.memberExpr p.last p.expr members, p.first, p.last⟩, rest) := by
  induction members generalizing p fuel with
  | nil =>
    obtain ⟨fuel, rfl⟩ := Nat.exists_eq_add_of_le' (show 1 ≤ fuel from hfuel)
    exact postfixed_end h fuel
  | cons s members ih =>
    obtain ⟨fuel, rfl⟩ := Nat.exists_eq_add_of_le' (show 1 ≤ fuel by omega)
    have hlength : members.length < fuel := by
      rw [List.length_cons] at hfuel
      omega
    let q : Part := ⟨.member p.last p.expr s, p.first, p.last⟩
    have hrest : postfixed nested simple fuel q (Dotted.memberWords members q.last ++ rest) =
        some (⟨Dotted.memberExpr q.last q.expr members, q.first, q.last⟩, rest) := ih hlength
    exact hrest

theorem chained_eq {join? : Token → Option (Part → Part → Part)} (h : part ws = some (p, rest))
    (hjoin : ∀ w ∈ rest.head?, join? w.token = none) :
    chained part join? ws = some (p, rest) := by
  rw [chained, h]
  cases rest with
  | nil => rfl
  | cons w rest =>
    have hw := hjoin w rfl
    simp [chain, hw]

theorem markJoin_of_stops (h : Stops rest) (table : List (Mark × Operator)) :
    ∀ w ∈ rest.head?, markJoin table w.token = none := by
  intro w hw
  obtain hif | helse := h w hw
  · rw [hif]
    rfl
  · rw [helse]
    rfl

theorem wordJoin_of_stops (h : Stops rest) {s : String} (join : Part → Part → Part)
    (hif : s ≠ "if") (helse : s ≠ "else") : ∀ w ∈ rest.head?, wordJoin s join w.token = none := by
  intro w hw
  obtain hw | hw := h w hw
  · rw [hw, wordJoin, if_neg hif]
  · rw [hw, wordJoin, if_neg helse]

variable (inside nested simple) in
/-- The reader of sums, which is built on those of the stronger operators. -/
def readSum : Reader Part :=
  chained (chained (chained (chained (filteredOperand inside nested simple) (markJoin powers))
    (markJoin products)) (markJoin concatenations)) (markJoin sums)

variable (inside nested simple) in
def readComparison : Reader Part := fun ws =>
  (readSum inside nested simple ws).bind fun r =>
    compared (readSum inside nested simple) (r.2.length + 1) r.1 r.2

theorem readComparison_eq (h : filteredOperand inside nested simple ws = some (p, rest))
    (hstops : Stops rest) : readComparison inside nested simple ws = some (p, rest) := by
  have hmark := markJoin_of_stops hstops
  have hsum : readSum inside nested simple ws = some (p, rest) :=
    chained_eq (chained_eq (chained_eq (chained_eq h (hmark _)) (hmark _)) (hmark _)) (hmark _)
  rw [readComparison, hsum, Option.bind_some, compared]
  cases rest with
  | nil => rfl
  | cons w rest =>
    obtain ⟨token, line⟩ := w
    obtain rfl | rfl := hstops _ rfl
    · rfl
    · rfl

/-- An operand that no operator follows is an expression. -/
theorem withoutChoice_eq (h : filteredOperand inside nested simple ws = some (p, rest))
    (hnot : afterName? "not" ws = none) (hstops : Stops rest) :
    withoutChoice inside nested simple ws = some (p, rest) := by
  have hdenial : denied (readComparison inside nested simple) (ws.length + 1) ws =
      some (p, rest) := by
    rw [denied.eq_def]
    dsimp only
    split
    · cases hnot
    · exact readComparison_eq h hstops
  have hand := wordJoin_of_stops hstops conjunction (show "and" ≠ "if" by decide) (by decide)
  have hor := wordJoin_of_stops hstops disjunction (show "or" ≠ "if" by decide) (by decide)
  have hconjunctions : chained (fun ws => denied (readComparison inside nested simple)
      (ws.length + 1) ws) (wordJoin "and" conjunction) ws = some (p, rest) :=
    chained_eq hdenial hand
  exact chained_eq hconjunctions hor

theorem signed_eq {w : Word} (hminus : w.token ≠ .mark .minus) (fuel : Nat) :
    signed part (fuel + 1) (w :: ws) = part (w :: ws) := by
  rw [signed.eq_def]
  dsimp only
  split
  · next he => exact absurd (congrArg Word.token (List.cons.inj he).1) hminus
  · rfl

theorem EndsOperand.of_stops (h : Stops rest) : EndsOperand rest := by
  intro w hw
  obtain hif | helse := h w hw
  · simp [hif]
  · simp [helse]

theorem named_of_free {s : String} (h : s ∉ Dotted.reserved) (line : Nat) :
    named s line = ⟨.variable s, line, line⟩ := by
  simp only [Dotted.reserved, List.mem_cons, List.not_mem_nil, or_false, not_or] at h
  unfold named
  split <;> simp_all

theorem operand_dotted (d : Dotted) (line : Nat) (h : EndsOperand rest) :
    operand inside nested simple (d.words line ++ rest) =
      some (⟨d.expr line, line, line⟩, rest) := by
  let ws := Dotted.memberWords d.members line ++ rest
  have hprimary : primary inside (⟨.name d.base, line⟩ :: ws) =
      some (⟨.variable d.base, line, line⟩, ws) := by
    rw [primary, named_of_free d.free]
  have hlength : d.members.length < ws.length + 1 := by
    have hmembers : d.members.length ≤ (Dotted.memberWords d.members line).length := by
      simp [Dotted.memberWords]
      omega
    rw [List.length_append]
    omega
  have hpostfixed : postfixed nested simple (ws.length + 1) ⟨.variable d.base, line, line⟩ ws =
      some (⟨d.expr line, line, line⟩, rest) := postfixed_members h d.members hlength
  have hsigned : signed (primary inside) ((d.words line ++ rest).length + 1)
      (d.words line ++ rest) = some (⟨.variable d.base, line, line⟩, ws) :=
    (signed_eq (by simp) _).trans hprimary
  simp only [operand, hsigned, Option.bind_eq_bind, Option.bind_some]
  exact hpostfixed

theorem operand_text (s : String) (line : Nat) (h : EndsOperand rest) :
    operand inside nested simple (⟨.text s, line⟩ :: rest) =
      some (⟨.literal (.text s), line, line⟩, rest) := by
  have hsigned : signed (primary inside) ((⟨.text s, line⟩ :: rest).length + 1)
      (⟨.text s, line⟩ :: rest) = some (⟨.literal (.text s), line, line⟩, rest) :=
    (signed_eq (by simp) _).trans rfl
  simp only [operand, hsigned, Option.bind_eq_bind, Option.bind_some]
  exact postfixed_end h _

theorem filteredOperand_eq (h : operand inside nested simple ws = some (p, rest))
    (hstops : Stops rest) : filteredOperand inside nested simple ws = some (p, rest) := by
  rw [filteredOperand, h]
  cases rest with
  | nil => rfl
  | cons w rest =>
    obtain ⟨token, line⟩ := w
    obtain rfl | rfl := hstops _ rfl
    · rfl
    · rfl

end Tower

section Expression

variable (room : Nat) (d : Dotted) (line : Nat)

/-- How the parts of a choice are read. -/
def inChoice : Reader Part :=
  withoutChoice (expression true room) (expression true (room + 1)) (expression false (room + 1))

theorem expression_eq {ws : List Word} {p : Part} (h : inChoice room ws = some (p, []))
    (withChoice : Bool) : expression withChoice (room + 2) ws = some (p, []) := by
  rw [inChoice] at h
  cases withChoice with
  | false => exact h
  | true =>
    simp only [expression, if_true, h, Option.bind_eq_bind, Option.bind_some]
    rfl

theorem afterName?_dotted (rest : List Word) : afterName? "not" (d.words line ++ rest) = none := by
  have hne : "not" ≠ d.base := fun h => d.free (by simp [Dotted.reserved, ← h])
  exact if_neg hne

theorem inChoice_dotted {rest : List Word} (hstops : Stops rest) :
    inChoice room (d.words line ++ rest) = some (⟨d.expr line, line, line⟩, rest) :=
  withoutChoice_eq (filteredOperand_eq (operand_dotted d line (.of_stops hstops)) hstops)
    (afterName?_dotted d line rest) hstops

theorem inChoice_text (s : String) {rest : List Word} (hstops : Stops rest) :
    inChoice room (⟨.text s, line⟩ :: rest) = some (⟨.literal (.text s), line, line⟩, rest) :=
  withoutChoice_eq (filteredOperand_eq (operand_text s line (.of_stops hstops)) hstops) rfl hstops

theorem expression_dotted (withChoice : Bool) :
    expression withChoice (room + 2) (d.words line) = some (⟨d.expr line, line, line⟩, []) := by
  have hpart := inChoice_dotted room d line (show Stops [] from nofun)
  rw [List.append_nil] at hpart
  exact expression_eq room hpart withChoice

theorem expression_filter (name : String) :
    expression true (room + 2) (d.words line ++ [⟨.mark .bar, line⟩, ⟨.name name, line⟩]) =
      some (⟨.filter line name (d.expr line) [], line, line⟩, []) := by
  have hends : EndsOperand [⟨.mark .bar, line⟩, ⟨.name name, line⟩] := by
    rintro w ⟨⟩
    simp
  have hfiltered : filteredOperand (expression true room) (expression true (room + 1))
      (expression false (room + 1))
      (d.words line ++ [⟨.mark .bar, line⟩, ⟨.name name, line⟩]) =
        some (⟨.filter line name (d.expr line) [], line, line⟩, []) := by
    rw [filteredOperand, operand_dotted d line hends]
    rfl
  exact expression_eq room (withoutChoice_eq hfiltered (afterName?_dotted d line _) nofun) true

theorem expression_choice (yes no : String) :
    expression true (room + 2)
      (⟨.text yes, line⟩ :: ⟨.name "if", line⟩ ::
        (d.words line ++ [⟨.name "else", line⟩, ⟨.text no, line⟩])) =
      some (⟨.choice line (d.expr line) (.literal (.text yes)) (.literal (.text no)), line, line⟩,
        []) := by
  have hif : ∀ rest, Stops (⟨.name "if", line⟩ :: rest) := by
    rintro rest w ⟨⟩
    exact .inl rfl
  have helse : ∀ rest, Stops (⟨.name "else", line⟩ :: rest) := by
    rintro rest w ⟨⟩
    exact .inr rfl
  have hyes := inChoice_text room line yes
    (hif (d.words line ++ [⟨.name "else", line⟩, ⟨.text no, line⟩]))
  have hcondition := inChoice_dotted room d line (helse [⟨.text no, line⟩])
  have hno := inChoice_text room line no (show Stops [] from nofun)
  rw [inChoice] at hyes hcondition hno
  simp only [expression, if_true, hyes, Option.bind_eq_bind, Option.bind_some, choices, afterName?,
    hcondition, hno]
  rfl

end Expression

end Grammar

end ReleaseBulletin.Template
