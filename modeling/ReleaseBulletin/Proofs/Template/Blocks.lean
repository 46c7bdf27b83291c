import ReleaseBulletin.Proofs.Template.Expressions

/-!
Pieces that read as nodes. A block reads as its node whatever follows it, so templates are read
block by block.
-/
namespace ReleaseBulletin.Template.Reader
open Grammar

/-- The words that end blocks or their parts. -/
def endWords : List String := ["endif", "else", "elif", "endfor"]

/-- The statement that ends a block. -/
def ending (s : String) (line : Nat) : Piece := .statement line [⟨.name s, line⟩]

def Body.prepend (ns : List Node) (b : Body) : Body := { b with nodes := ns ++ b.nodes }

/-- Pieces that read as nodes, one unit of fuel for each node. Inner blocks are read with what is
left of three units for each piece. -/
structure Reads (room : Nat) (ps : List Piece) (ns : List Node) : Prop where
  length_le : ns.length ≤ ps.length
  read : ∀ (fuel : Nat) (closing : List String) (rest : List Piece),
    3 * ps.length ≤ fuel + ns.length → closing ⊆ endWords →
    nodes (fuel + ns.length) closing room (ps ++ rest) =
      (nodes fuel closing room rest).map (Body.prepend ns)

/-- A name that can be given a value, and that starts no list of targets. -/
def IsTarget (x : String) : Prop := x ∉ reservedNames ∧ x ≠ "in"

instance : DecidablePred IsTarget := fun x =>
  inferInstanceAs (Decidable (x ∉ reservedNames ∧ x ≠ "in"))

section Targets

variable {x : String} (hx : IsTarget x) (line : Nat) {ws : List Word}
include hx

theorem simpleTarget_name (dotted : Bool) (hdot : ∀ w ∈ ws.head?, w.token ≠ .mark .dot) :
    simpleTarget dotted (⟨.name x, line⟩ :: ws) = some (.name x, ws) := by
  have hreserved : reservedNames.contains x = false := by simpa using hx.1
  have hname : ownName (⟨.name x, line⟩ :: ws) = some (x, ws) := by
    rw [ownName, hreserved]
    rfl
  simp only [simpleTarget, hname, Option.bind_eq_bind, Option.bind_some]
  split
  · exact absurd rfl (hdot _ rfl)
  · rfl

theorem assignment_name (dotted : Bool) (hdot : ∀ w ∈ ws.head?, w.token ≠ .mark .dot)
    (hcomma : afterMark? .comma ws = none) :
    assignment dotted (⟨.name x, line⟩ :: ws) = some (.name x, ws) := by
  have hends : endsTargets (⟨.name x, line⟩ :: ws) = false := by
    rw [endsTargets.eq_def]
    split
    · next he => cases he
    · next he => cases he
    · next he =>
      cases he
      exact absurd rfl hx.2
    · rfl
  have htarget : ∀ fuel, target dotted (fuel + 1) (⟨.name x, line⟩ :: ws) = some (.name x, ws) := by
    intro fuel
    rw [target]
    exact simpleTarget_name hx line dotted hdot
  have hfuel : 2 * (⟨.name x, line⟩ :: ws : List Word).length + 2 = 2 * ws.length + 2 + 1 + 1 := by
    rw [List.length_cons]
    omega
  rw [assignment, hfuel, targets, hends]
  simp [htarget, hcomma]

theorem loopHead_name (room : Nat) (d : Dotted) :
    loopHead (room + 1) (⟨.name x, line⟩ :: ⟨.name "in", line⟩ :: d.words line) =
      some (.name x, ⟨d.expr line, line, line⟩, none) := by
  have htarget : assignment false (⟨.name x, line⟩ :: ⟨.name "in", line⟩ :: d.words line) =
      some (.name x, ⟨.name "in", line⟩ :: d.words line) :=
    assignment_name hx line false (by simp) rfl
  simp only [loopHead, htarget, Option.bind_eq_bind, Option.bind_some, afterName?, if_true,
    expression_dotted]
  rfl

theorem assigned_name (ws : List Word) :
    assigned (⟨.name x, line⟩ :: ⟨.mark .assign, line⟩ :: ws) =
      some (.name x, false, ⟨.mark .assign, line⟩ :: ws) := by
  have htarget : assignment true (⟨.name x, line⟩ :: ⟨.mark .assign, line⟩ :: ws) =
      some (.name x, ⟨.mark .assign, line⟩ :: ws) :=
    assignment_name hx line true (by simp) rfl
  simp only [assigned, afterMark?, htarget, Option.map_some]

end Targets

namespace Reads

variable {room : Nat} {ps : List Piece} {ns : List Node}

theorem nil : Reads room [] [] where
  length_le := Nat.le_refl 0
  read _ _ _ _ _ := (Option.map_id' ..).symm

theorem text (s : String) (h : Reads room ps ns) :
    Reads room (.text s :: ps) (.text s :: ns) where
  length_le := Nat.succ_le_succ h.length_le
  read fuel closing rest hfuel hclosing := by
    rw [List.length_cons, List.length_cons] at hfuel
    rw [List.length_cons, ← Nat.add_assoc, List.cons_append, nodes,
      h.read fuel closing rest (by omega) hclosing, Option.map_map]
    rfl

theorem print {line : Nat} {ws : List Word} {p : Part}
    (hp : whole (expression true room) ws = some p) (h : Reads room ps ns) :
    Reads room (.print line ws :: ps) (.print p.last p.expr :: ns) where
  length_le := Nat.succ_le_succ h.length_le
  read fuel closing rest hfuel hclosing := by
    rw [List.length_cons, List.length_cons] at hfuel
    rw [List.length_cons, ← Nat.add_assoc, List.cons_append, nodes, hp,
      h.read fuel closing rest (by omega) hclosing, Option.bind_eq_bind, Option.bind_some,
      Option.map_map]
    rfl

/-- A statement is read by its first word, if that ends no block. -/
theorem statement (line : Nat) {own : Nat} {s : String} {ws : List Word} {inner : List Piece} {n : Node}
    (hs : s ∉ endWords)
    (hn : ∀ fuel rest, 3 * inner.length + 2 ≤ fuel →
      Reader.statement fuel room own s ws (inner ++ rest) = some (n, rest))
    (h : Reads (room + 1) ps ns) :
    Reads (room + 1) (.statement line (⟨.name s, own⟩ :: ws) :: (inner ++ ps)) (n :: ns) where
  length_le := by
    have := h.length_le
    rw [List.length_cons, List.length_cons, List.length_append]
    omega
  read fuel closing rest hfuel hclosing := by
    have hlength := h.length_le
    rw [List.length_cons, List.length_cons, List.length_append] at hfuel
    have hcontains : closing.contains s = false := by
      rw [List.contains_eq_mem, decide_eq_false_iff_not]
      exact fun hmem => hs (hclosing hmem)
    rw [List.length_cons, ← Nat.add_assoc, List.cons_append, List.append_assoc, nodes, hcontains]
    simp only [Bool.false_eq_true, if_false, Nat.add_one_ne_zero, Nat.add_sub_cancel]
    rw [hn _ _ (by omega), Option.bind_eq_bind, Option.bind_some]
    dsimp only
    rw [h.read fuel closing rest (by omega) hclosing, Option.map_map]
    rfl

/-- The nodes of a block up to the statement that ends it. -/
theorem nodes_ending {s : String} {closing : List String} (hclosing : closing ⊆ endWords)
    (hs : closing.contains s = true) (h : Reads room ps ns) {fuel : Nat}
    (hfuel : 3 * ps.length < fuel) (line : Nat) (rest : List Piece) :
    nodes fuel closing room (ps ++ ending s line :: rest) = some ⟨ns, some (s, []), rest⟩ := by
  have hlength := h.length_le
  obtain ⟨spare, rfl⟩ := Nat.exists_eq_add_of_le' (show ns.length + 1 ≤ fuel by omega)
  rw [← Nat.add_assoc, Nat.add_right_comm, h.read _ closing _ (by omega) hclosing, ending, nodes,
    if_pos hs, Option.map_some, Body.prepend, List.append_nil]

theorem branch {line own last : Nat} {ws : List Word} {c : Part} {body : List Piece}
    {yes : List Node} (hc : whole (expression false (room + 1)) ws = some c)
    (hbody : Reads room body yes) (h : Reads (room + 1) ps ns) :
    Reads (room + 1)
      (.statement line (⟨.name "if", own⟩ :: ws) :: (body ++ ending "endif" last :: ps))
      (.branch c.last c.expr yes [] :: ns) := by
  have hn : ∀ fuel rest, 3 * (body ++ [ending "endif" last]).length + 2 ≤ fuel →
      Reader.statement fuel room own "if" ws ((body ++ [ending "endif" last]) ++ rest) =
        some (.branch c.last c.expr yes [], rest) := by
    intro fuel rest hfuel
    rw [List.length_append, List.length_singleton] at hfuel
    obtain ⟨fuel, rfl⟩ := Nat.exists_eq_add_of_le' (show 2 ≤ fuel by omega)
    have hnodes : nodes fuel ["endif", "else", "elif"] room (body ++ ending "endif" last :: rest) =
        some ⟨yes, some ("endif", []), rest⟩ :=
      hbody.nodes_ending (by decide) (by decide) (by omega) last rest
    rw [List.append_assoc, List.singleton_append, Reader.statement, Reader.branch, hc,
      Option.bind_eq_bind, Option.bind_some, hnodes]
    rfl
  have hread := Reads.statement line (show "if" ∉ endWords by decide) hn h
  rw [List.append_assoc] at hread
  exact hread

theorem loop {line own last : Nat} {ws : List Word} {t : Target} {source : Part}
    {body : List Piece} {each : List Node} (hhead : loopHead room ws = some (t, source, none))
    (hbody : Reads room body each) (h : Reads (room + 1) ps ns) :
    Reads (room + 1)
      (.statement line (⟨.name "for", own⟩ :: ws) :: (body ++ ending "endfor" last :: ps))
      (.loop source.last t source.expr none each [] :: ns) := by
  have hn : ∀ fuel rest, 3 * (body ++ [ending "endfor" last]).length + 2 ≤ fuel →
      Reader.statement fuel room own "for" ws ((body ++ [ending "endfor" last]) ++ rest) =
        some (.loop source.last t source.expr none each [], rest) := by
    intro fuel rest hfuel
    rw [List.length_append, List.length_singleton] at hfuel
    obtain ⟨fuel, rfl⟩ := Nat.exists_eq_add_of_le' (show 1 ≤ fuel by omega)
    have hnodes : nodes fuel ["endfor", "else"] room (body ++ ending "endfor" last :: rest) =
        some ⟨each, some ("endfor", []), rest⟩ :=
      hbody.nodes_ending (by decide) (by decide) (by omega) last rest
    rw [List.append_assoc, List.singleton_append, Reader.statement, hhead,
      Option.bind_eq_bind, Option.bind_some]
    dsimp only
    rw [hnodes]
    rfl
  have hread := Reads.statement line (show "for" ∉ endWords by decide) hn h
  rw [List.append_assoc] at hread
  exact hread

theorem assign {line own : Nat} {ws vs : List Word} {w : Word} {t : Target} {p : Part}
    (ht : assigned ws = some (t, false, w :: vs)) (hbar : afterMark? .bar (w :: vs) = none)
    (hassign : afterMark? .assign (w :: vs) = some vs)
    (hp : whole (expression true room) vs = some p) (h : Reads (room + 1) ps ns) :
    Reads (room + 1) (.statement line (⟨.name "set", own⟩ :: ws) :: ps)
      (.assign t p.expr :: ns) := by
  have hn : ∀ fuel rest, 3 * ([] : List Piece).length + 2 ≤ fuel →
      Reader.statement fuel room own "set" ws ([] ++ rest) = some (.assign t p.expr, rest) := by
    intro fuel rest hfuel
    obtain ⟨fuel, rfl⟩ := Nat.exists_eq_add_of_le' (show 1 ≤ fuel by omega)
    rw [Reader.statement, ht, Option.bind_eq_bind, Option.bind_some]
    dsimp only
    rw [hbar]
    dsimp only
    rw [hassign, Option.bind_eq_bind, Option.bind_some, hp]
    rfl
  exact Reads.statement line (show "set" ∉ endWords by decide) hn h

section Dotted

variable (d : Dotted) (line : Nat)

theorem hole (h : Reads (room + 2) ps ns) :
    Reads (room + 2) (.print line (d.words line) :: ps) (.print line (d.expr line) :: ns) := by
  have hp : whole (expression true (room + 2)) (d.words line) = some ⟨d.expr line, line, line⟩ := by
    rw [whole, expression_dotted]
  exact h.print hp

theorem branchOn {last : Nat} {body : List Piece} {yes : List Node} (hbody : Reads (room + 1) body yes)
    (h : Reads (room + 2) ps ns) :
    Reads (room + 2)
      (.statement line (⟨.name "if", line⟩ :: d.words line) :: (body ++ ending "endif" last :: ps))
      (.branch line (d.expr line) yes [] :: ns) := by
  have hc : whole (expression false (room + 2)) (d.words line) =
      some ⟨d.expr line, line, line⟩ := by
    rw [whole, expression_dotted]
  exact .branch hc hbody h

theorem loopOver {x : String} (hx : IsTarget x) {last : Nat} {body : List Piece} {each : List Node}
    (hbody : Reads (room + 1) body each) (h : Reads (room + 2) ps ns) :
    Reads (room + 2)
      (.statement line
        (⟨.name "for", line⟩ :: ⟨.name x, line⟩ :: ⟨.name "in", line⟩ :: d.words line) ::
          (body ++ ending "endfor" last :: ps))
      (.loop line (.name x) (d.expr line) none each [] :: ns) :=
  .loop (loopHead_name hx line room d) hbody h

theorem assignTo {x : String} (hx : IsTarget x) (h : Reads (room + 3) ps ns) :
    Reads (room + 3)
      (.statement line
        (⟨.name "set", line⟩ :: ⟨.name x, line⟩ :: ⟨.mark .assign, line⟩ :: d.words line) :: ps)
      (.assign (.name x) (d.expr line) :: ns) := by
  have hp : whole (expression true (room + 2)) (d.words line) = some ⟨d.expr line, line, line⟩ := by
    rw [whole, expression_dotted]
  exact h.assign (assigned_name hx line (d.words line)) rfl rfl hp

end Dotted

/-- A template whose pieces read as nodes has those nodes. -/
theorem ofTemplate? {source : String} (hps : Piece.ofTemplate? source = some ps)
    (h : Reads nestingLimit ps ns) : Reader.ofTemplate? source = some ns := by
  have hlength := h.length_le
  obtain ⟨fuel, hfuel⟩ :=
    Nat.exists_eq_add_of_le' (show ns.length + 1 ≤ 3 * ps.length + 3 by omega)
  have hnodes := h.read (fuel + 1) [] [] (by omega) (List.nil_subset _)
  rw [List.append_nil, nodes, Option.map_some, Body.prepend, List.append_nil] at hnodes
  rw [Reader.ofTemplate?, hps, Option.bind_eq_bind, Option.bind_some, hfuel, ← Nat.add_assoc,
    Nat.add_right_comm, hnodes]
  rfl

end Reads

end ReleaseBulletin.Template.Reader
