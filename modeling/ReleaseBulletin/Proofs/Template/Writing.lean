import ReleaseBulletin.Proofs.Template.Expressions
import ReleaseBulletin.Proofs.Template.Members

/-!
What parts of a template write, told without the state of the rendering: as long as no namespace
exists, a text or a fault depends on the values of names alone.
-/
namespace ReleaseBulletin.Template

/-- The value itself; for a namespace, which holds nothing, an empty map. -/
def Value.unspaced : Value → Value
  | .space _ => .map []
  | v => v

namespace Scope

theorem lookup_bind_self (name : String) (v : Value) (assigned : List (String × Value)) :
    (bind name v assigned).lookup name = some v := by
  induction assigned with
  | nil => simp [bind]
  | cons p assigned ih =>
    rw [bind]
    split
    case isTrue h => simp [h]
    case isFalse h => rw [List.lookup_cons, beq_eq_false_iff_ne.mpr (Ne.symm h), ih]

theorem lookup_bind_of_ne {name other : String} (h : other ≠ name) (v : Value)
    (assigned : List (String × Value)) :
    (bind name v assigned).lookup other = assigned.lookup other := by
  induction assigned with
  | nil => simp [bind, h]
  | cons p assigned ih =>
    rw [bind]
    split
    case isTrue hp => rw [List.lookup_cons, List.lookup_cons, hp, beq_eq_false_iff_ne.mpr h]
    case isFalse hp => rw [List.lookup_cons, List.lookup_cons, ih]

variable {s : State} (v : Value)

theorem State.settle_of_spaces (h : s.spaces = []) : s.settle v = v := by
  simp [settle, h]

theorem State.opened_of_spaces (h : s.spaces = []) : s.opened v = v.unspaced := by
  cases v
  case space place => simp [opened, h, Value.unspaced]
  all_goals rfl

/-- The names are those of the frames, and no namespace exists. -/
structure Within (frames : List Frame) (s : State) : Prop where
  frames_eq : s.frames = frames
  spaces_eq : s.spaces = []
  outerDepth_eq : s.outerDepth = 0

/-- The state is inside a block inside the frames, where the names have the values. -/
structure Inside (outer : List Frame) (known : List (String × Value)) (s : State) : Prop where
  frames_eq : ∃ assigned step, s.frames = ⟨assigned, step, none, .nothing⟩ :: outer ∧
    ∀ p ∈ known, assigned.lookup p.1 = some p.2
  spaces_eq : s.spaces = []
  outerDepth_eq : s.outerDepth = 0

section Block

variable {outer : List Frame} {known : List (String × Value)} {name : String}

theorem Inside.lookup? (h : Inside outer known s) (hname : (name, v) ∈ known) :
    s.lookup? name = some v := by
  obtain ⟨assigned, step, hframes, hknown⟩ := h.frames_eq
  have hv : assigned.lookup name = some v := hknown _ hname
  simp [State.lookup?, Frame.lookup?, hframes, hv]

theorem Inside.mono {some : List (String × Value)} (h : Inside outer known s)
    (hsome : some ⊆ known) : Inside outer some s := by
  obtain ⟨assigned, step, hframes, hknown⟩ := h.frames_eq
  exact ⟨⟨assigned, step, hframes, fun p hp => hknown p (hsome hp)⟩, h.spaces_eq,
    h.outerDepth_eq⟩

theorem Inside.assign (h : Inside outer known s) (hname : ∀ p ∈ known, p.1 ≠ name) :
    Inside outer ((name, v) :: known) (s.assign name v) := by
  obtain ⟨assigned, step, hframes, hknown⟩ := h.frames_eq
  have hassigned : ∀ p ∈ (name, v) :: known, (bind name v assigned).lookup p.1 = some p.2 := by
    intro p hp
    obtain rfl | hp := List.mem_cons.mp hp
    · exact lookup_bind_self name v assigned
    · rw [lookup_bind_of_ne (hname p hp), hknown p hp]
  refine ⟨⟨bind name v assigned, step, ?_, hassigned⟩, ?_, ?_⟩
  · simp [State.assign, State.updateFrame, hframes]
  · simpa [State.assign, State.updateFrame, hframes] using h.spaces_eq
  · simpa [State.assign, State.updateFrame, hframes] using h.outerDepth_eq

theorem Inside.setStep (h : Inside outer known s) (step : Option Value) :
    Inside outer known (s.updateFrame fun f => { f with step := step }) := by
  obtain ⟨assigned, _, hframes, hknown⟩ := h.frames_eq
  refine ⟨⟨assigned, step, ?_, hknown⟩, ?_, ?_⟩
  · simp [State.updateFrame, hframes]
  · simpa [State.updateFrame, hframes] using h.spaces_eq
  · simpa [State.updateFrame, hframes] using h.outerDepth_eq

theorem Inside.leave (h : Inside outer known s) : Within outer s.leave := by
  obtain ⟨assigned, step, hframes, -⟩ := h.frames_eq
  exact ⟨by simp [State.leave, hframes], h.spaces_eq, h.outerDepth_eq⟩

theorem Within.enter (h : Within outer s) (hdepth : outer.length ≤ depthLimit) :
    ∃ s', s.enter .empty = .ok s' ∧ Inside outer [] s' := by
  have hlimit : ¬ depthLimit < s.depth := by
    rw [State.depth, h.frames_eq, h.outerDepth_eq]
    omega
  refine ⟨{ s with frames := .empty :: s.frames }, if_neg hlimit, ?_⟩
  exact ⟨⟨[], none, by rw [h.frames_eq]; rfl, by simp⟩, h.spaces_eq, h.outerDepth_eq⟩

end Block

end Scope

namespace Evaluator
open Access Scope

section Runs

variable {α β : Type} {P Q R : State → Prop}

/-- From such states the run fails as the computation does, or it has the computation's result and
ends in such a state. -/
def Gives (P : State → Prop) (run : Run α) (t : Except Trouble α) (Q : State → Prop) : Prop :=
  ∀ s, P s → match t with
    | .ok a => ∃ s', run s = .ok (a, s') ∧ Q s'
    | .error e => run s = .error e

/-- A fault of the line, if any. -/
def onLine (line : Nat) (r : Except Fault α) : Except Trouble α := r.mapError (⟨·, line⟩)

theorem Gives.pure (a : α) : Gives P (Pure.pure a) (.ok a) P := fun s hs => ⟨s, rfl, hs⟩

theorem Gives.bind {run : Run α} {f : α → Run β} {t : Except Trouble α}
    {u : α → Except Trouble β} (h : Gives P run t Q)
    (hf : ∀ a, t = .ok a → Gives Q (f a) (u a) R) : Gives P (run >>= f) (t >>= u) R := by
  intro s hs
  have hrun := h s hs
  have hbind : (run >>= f) s = (run s).bind fun p => f p.1 p.2 := rfl
  rw [hbind]
  cases t with
  | error e =>
    have hrun : run s = .error e := hrun
    rw [hrun]
    rfl
  | ok a =>
    obtain ⟨s', hrun, hs'⟩ := hrun
    rw [hrun]
    exact hf a rfl s' hs'

theorem Gives.bind_ok {run : Run α} {f : α → Run β} {a : α} {t : Except Trouble β}
    (h : Gives P run (.ok a) Q) (hf : Gives Q (f a) t R) : Gives P (run >>= f) t R :=
  h.bind (u := fun _ => t) fun b hb => by
    obtain rfl := Except.ok.inj hb
    exact hf

theorem Gives.mono {run : Run α} {t : Except Trouble α} {P' Q' : State → Prop}
    (h : Gives P run t Q) (hP : ∀ s, P' s → P s) (hQ : ∀ s, Q s → Q' s) : Gives P' run t Q' := by
  intro s hs
  have hrun := h s (hP s hs)
  cases t with
  | error e => exact hrun
  | ok a =>
    obtain ⟨s', hrun, hs'⟩ := hrun
    exact ⟨s', hrun, hQ s' hs'⟩

theorem Gives.congr {run : Run α} {t t' : Except Trouble α} (h : Gives P run t Q) (ht : t = t') :
    Gives P run t' Q := ht ▸ h

/-- Names of a block are its own matter. -/
theorem Gives.forget {run : Run α} {t : Except Trouble α} {outer : List Frame}
    {known : List (String × Value)} (h : Gives P run t (Inside outer known)) :
    Gives P run t (Inside outer []) :=
  h.mono (fun _ hs => hs) fun _ hs => hs.mono (List.nil_subset known)

theorem Gives.located (line : Nat) (r : Except Fault α) :
    Gives P (Evaluator.located line r) (onLine line r) P := by
  intro s hs
  cases r with
  | ok a => exact ⟨s, rfl, hs⟩
  | error fault => rfl

end Runs

section Values

variable {P : State → Prop} {invoke : Invoke} {e : Expr} {line : Nat}

/-- The value at the end of members of members. -/
def walk (line : Nat) : Value → List String → Except Trouble Value
  | v, [] => .ok v
  | v, name :: names => do walk line (← onLine line (member v name)) names

theorem member_unspaced (v : Value) (name : String) :
    member v.unspaced name = member v name := by
  cases v <;> rfl

/-- What is there; a fault of the line if nothing is. -/
def found {α : Type} (line : Nat) : Option α → Except Trouble α
  | some a => .ok a
  | none => .error ⟨.undefinedValue, line⟩

theorem walk_undefined {names : List String} (h : names ≠ []) :
    walk line (.undefined false) names = .error ⟨.undefinedValue, line⟩ := by
  cases names with
  | nil => exact absurd rfl h
  | cons name names => rfl

/-- Data at the end of a path is used in the line of the path, where it must not be absent. -/
theorem walk_use {α : Type} {f : Value → Except Fault α}
    (hf : f (.undefined false) = .error .undefinedValue) (o : Option Json.Value)
    (names : List String) :
    (do onLine line (f (← walk line (.ofJson? o) names))) =
      (do onLine line (f (.ofJson (← found line (o.bind (·.at? names)))))) := by
  induction names generalizing o with
  | nil =>
    cases o with
    | none =>
      change onLine line (f (.undefined false)) = _
      rw [hf]
      rfl
    | some j => rfl
  | cons name names ih =>
    cases o with
    | none => rfl
    | some j =>
      have hmember : walk line (.ofJson j) (name :: names) =
          walk line (.ofJson? (j.member? name)) names := by
        rw [walk, member_ofJson]
        rfl
      change (do onLine line (f (← walk line (.ofJson j) (name :: names)))) = _
      rw [hmember, ih]
      rfl

theorem write_ofJson (j : Json.Value) :
    Operator.write (.ofJson j) = .ok (Value.ofJson j).display := by
  cases j <;> rfl

theorem isTrue_ofJson (j : Json.Value) :
    Operator.isTrue (Value.ofJson j).unspaced = .ok (Order.truth (.ofJson j)) := by
  cases j <;> rfl

/-- The last step of a path into data may lead to nothing, the ones before may not. -/
theorem walk_concat (j : Json.Value) (names : List String) (name : String) :
    walk line (.ofJson j) (names ++ [name]) =
      (do return .ofJson? ((← found line (j.at? names)).member? name)) := by
  induction names generalizing j with
  | nil =>
    rw [List.nil_append, walk, member_ofJson]
    rfl
  | cons s names ih =>
    rw [List.cons_append, walk, member_ofJson, Json.Value.at?]
    cases j.member? s with
    | none => exact walk_undefined (by simp)
    | some j => exact ih j

theorem gives_variable {name : String} {v : Value} (h : ∀ s, P s → s.lookup? name = some v) :
    Gives P (value invoke (.variable name)) (.ok v) P := by
  intro s hs
  refine ⟨s, ?_, hs⟩
  change Except.ok ((s.lookup? name).getD (.undefined false), s) = _
  rw [h s hs]
  rfl

variable (hspaces : ∀ s, P s → s.spaces = [])

include hspaces

theorem gives_opened (v : Value) : Gives P (opened v) (.ok v.unspaced) P := by
  intro s hs
  refine ⟨s, ?_, hs⟩
  rw [opened, State.opened_of_spaces v (hspaces s hs)]

theorem gives_settle (v : Value) : Gives P (settle v) (.ok v) P := by
  intro s hs
  refine ⟨s, ?_, hs⟩
  rw [settle, State.settle_of_spaces v (hspaces s hs)]

theorem gives_members {t : Except Trouble Value} (h : Gives P (value invoke e) t P)
    (names : List String) :
    Gives P (value invoke (Dotted.memberExpr line e names)) (t >>= (walk line · names)) P := by
  induction names generalizing e t with
  | nil => cases t <;> exact h
  | cons name names ih =>
    have hmember : Gives P (value invoke (.member line e name))
        (t >>= fun v => onLine line (member v name)) P := by
      rw [value]
      refine h.bind fun v _ => ?_
      refine (gives_opened hspaces v).bind_ok ?_
      simpa only [member_unspaced] using Gives.located line (member v name)
    have hall := ih hmember
    rw [bind_assoc] at hall
    exact hall

theorem gives_filter {name : String} {v w : Value} (h : Gives P (value invoke e) (.ok v) P)
    (hw : Filter.apply name v [] [] = .ok w) :
    Gives P (value invoke (.filter line name e [])) (.ok w) P := by
  have happly : Gives P (applyFilter line name v ([], [])) (.ok w) P := by
    have hlocated : Gives P (located line (Filter.apply name v [] [])) (.ok w) P := by
      rw [hw]
      exact .located line (.ok w)
    exact (gives_settle hspaces v).bind_ok
      ((Gives.pure []).bind_ok ((Gives.pure []).bind_ok hlocated))
  rw [value]
  exact h.bind_ok ((Gives.pure []).bind_ok happly)

end Values

/-- The texts one after the other, up to the first trouble. -/
def written : List (Except Trouble String) → Except Trouble String
  | [] => .ok ""
  | t :: ts => do return (← t) ++ (← written ts)

section Texts

variable {α : Type}

@[simp]
theorem written_nil : written [] = .ok "" := rfl

@[simp]
theorem written_cons_ok (s : String) (ts : List (Except Trouble String)) :
    written (.ok s :: ts) = (written ts).map (s ++ ·) := by
  rw [written]
  cases written ts <;> rfl

@[simp]
theorem written_cons_error (e : Trouble) (ts : List (Except Trouble String)) :
    written (.error e :: ts) = .error e := rfl

theorem written_map_ok (f : α → String) (xs : List α) :
    written (xs.map fun x => .ok (f x)) = .ok (String.join (xs.map f)) := by
  induction xs with
  | nil => rfl
  | cons x xs ih => simp [ih, Except.map, String.join_cons]

/-- The first fault among texts is the fault of them all. -/
theorem written_undefined {ts : List (Except Trouble String)}
    (h : ∃ t ∈ ts, ∃ e, t = .error e)
    (hfault : ∀ t ∈ ts, ∀ e, t = .error e → e.fault = .undefinedValue) :
    ∃ line, written ts = .error ⟨.undefinedValue, line⟩ := by
  induction ts with
  | nil => simp at h
  | cons t ts ih =>
    cases t with
    | error e =>
      obtain ⟨fault, line⟩ := e
      obtain rfl : fault = .undefinedValue := hfault _ List.mem_cons_self _ rfl
      exact ⟨line, rfl⟩
    | ok s =>
      have hrest : ∃ t ∈ ts, ∃ e, t = .error e := by simpa using h
      obtain ⟨line, hline⟩ := ih hrest fun t ht => hfault t (List.mem_cons_of_mem _ ht)
      exact ⟨line, by rw [written_cons_ok, hline]; rfl⟩

def trouble? {α : Type} : Except Trouble α → Option Trouble
  | .error e => some e
  | .ok _ => none

/-- Texts fail with the first trouble among them. -/
theorem trouble?_written (ts : List (Except Trouble String)) :
    trouble? (written ts) = ts.findSome? trouble? := by
  induction ts with
  | nil => rfl
  | cons t ts ih =>
    cases t with
    | error e => rfl
    | ok s =>
      rw [written_cons_ok, List.findSome?_cons_of_isNone, ← ih]
      · cases written ts <;> rfl
      · rfl

end Texts

section Nodes

variable {P Q R : State → Prop} {invoke : Invoke} {e : Expr} {v : Value} {line : Nat}
  {ns yes no : List Node} {outer : List Frame} {known : List (String × Value)} {x : String}

theorem gives_nil : Gives P (nodes invoke []) (written []) P := .pure _

theorem gives_cons {n : Node} {t : Except Trouble String} {ts : List (Except Trouble String)}
    (h : Gives P (node invoke n) t Q) (hns : Gives Q (nodes invoke ns) (written ts) R) :
    Gives P (nodes invoke (n :: ns)) (written (t :: ts)) R := by
  rw [nodes]
  exact h.bind fun s _ => hns.bind fun s' _ => .pure _

theorem gives_text (s : String) {ts : List (Except Trouble String)}
    (h : Gives P (nodes invoke ns) (written ts) R) :
    Gives P (nodes invoke (.text s :: ns)) (written (.ok s :: ts)) R := by
  have htext : Gives P (node invoke (.text s)) (.ok s) P := by
    rw [node]
    exact .pure s
  exact gives_cons htext h

section

variable (hspaces : ∀ s, P s → s.spaces = [])

include hspaces

theorem gives_print {t : Except Trouble Value} (h : Gives P (value invoke e) t P) :
    Gives P (node invoke (.print line e)) (t >>= fun v => onLine line (Operator.write v)) P := by
  rw [node]
  refine h.bind fun v _ => (gives_settle hspaces v).bind_ok ?_
  exact .located _ _

theorem gives_branch {t u : Except Trouble String} (h : Gives P (value invoke e) (.ok v) P)
    (hv : v.unspaced.isMissing = false) (hyes : Gives P (nodes invoke yes) t P)
    (hno : Gives P (nodes invoke no) u P) :
    Gives P (node invoke (.branch line e yes no)) (if Order.truth v.unspaced then t else u) P := by
  have htrue : Gives P (located line (Operator.isTrue v.unspaced)) (.ok (Order.truth v.unspaced))
      P := by
    rw [Operator.isTrue, hv]
    exact .located line (.ok _)
  rw [node]
  refine h.bind_ok ((gives_opened hspaces v).bind_ok (htrue.bind_ok ?_))
  split
  · exact hyes
  · exact hno

theorem gives_choice {t : Except Trouble Value} {yesExpr noExpr : Expr} {w w' : Value}
    (h : Gives P (value invoke e) t P) (hyes : Gives P (value invoke yesExpr) (.ok w) P)
    (hno : Gives P (value invoke noExpr) (.ok w') P) :
    Gives P (value invoke (.choice line e yesExpr noExpr))
      (t >>= fun v => do return if ← onLine line (Operator.isTrue v.unspaced) then w else w') P := by
  rw [value]
  refine h.bind fun v _ => (gives_opened hspaces v).bind_ok ?_
  refine (Gives.located line _).bind fun b _ => ?_
  cases b
  · exact hno
  · exact hyes

end

theorem gives_assign {α : Type} {t : Except Trouble α} {f : α → Value}
    {u : α → Except Trouble String}
    (h : Gives (Inside outer known) (value invoke e) (do return f (← t)) (Inside outer known))
    (hx : ∀ p ∈ known, p.1 ≠ x)
    (hns : ∀ a, Gives (Inside outer ((x, f a) :: known)) (nodes invoke ns) (u a) R) :
    Gives (Inside outer known) (nodes invoke (.assign (.name x) e :: ns)) (t >>= u) R := by
  have hassign : ∀ a, Gives (Inside outer known) (assign invoke (f a) (.name x)) (.ok ())
      (Inside outer ((x, f a) :: known)) := by
    intro a s hs
    rw [assign]
    exact ⟨s.assign x (f a), rfl, hs.assign (f a) hx⟩
  rw [nodes, node]
  simp only [bind_assoc, pure_bind, String.empty_append, bind_pure]
  cases t with
  | error trouble => exact h.bind (u := fun _ => .error trouble) fun _ ha => nomatch ha
  | ok a => exact h.bind_ok ((hassign a).bind_ok (hns a))

section Loop

variable {α : Type} {f : α → Value} {text : α → Except Trouble String} {xs : List α}
  {body : List Node}

theorem gives_within {run : Run String} {t : Except Trouble String}
    (hdepth : outer.length ≤ depthLimit) (h : Gives (Inside outer []) run t (Inside outer [])) :
    Gives (Within outer) (within line .empty run) t (Within outer) := by
  intro s hs
  obtain ⟨s', henter, hs'⟩ := hs.enter hdepth
  have hrun := h s' hs'
  cases t with
  | error e => simp only [within, henter, hrun]
  | ok a =>
    obtain ⟨s'', hrun, hs''⟩ := hrun
    exact ⟨s''.leave, by simp only [within, henter, hrun], hs''.leave⟩

/-- The steps of a loop write one after the other. Each one knows its item, also where the step
before left other names behind. -/
theorem gives_eachItem (identity length : Nat)
    (hbody : ∀ a ∈ xs, Gives (Inside outer [(x, f a)]) (nodes invoke body) (text a)
      (Inside outer [])) (index : Nat) (previous : Value) :
    Gives (Inside outer [])
      (eachItem invoke identity length (.name x) (nodes invoke body) index previous (xs.map f))
      (written (xs.map text)) (Inside outer []) := by
  induction xs generalizing index previous with
  | nil => exact .pure _
  | cons a xs ih =>
    let step := Value.loop identity index length previous
      ((xs.map f).head?.getD (.undefined false))
    have hstep : Gives (Inside outer [])
        (modify (State.updateFrame · fun f => { f with step := some step }) : Run Unit) (.ok ())
        (Inside outer []) := fun s hs => ⟨_, rfl, hs.setStep (some step)⟩
    have hassign : Gives (Inside outer []) (assign invoke (f a) (.name x)) (.ok ())
        (Inside outer [(x, f a)]) := by
      intro s hs
      rw [assign]
      exact ⟨s.assign x (f a), rfl, hs.assign (f a) (by simp)⟩
    have hrest := ih (fun b hb => hbody b (List.mem_cons_of_mem _ hb)) (index + 1) (f a)
    rw [List.map_cons, eachItem]
    exact hstep.bind_ok (hassign.bind_ok ((hbody a List.mem_cons_self).bind fun s _ =>
      hrest.bind fun s' _ => .pure _))

theorem gives_newLoop {run : Nat → Run String} {t : Except Trouble String}
    (h : ∀ identity, Gives (Within outer) (run identity) t (Within outer)) :
    Gives (Within outer) (newLoop >>= run) t (Within outer) := fun s hs =>
  h s.loops { s with loops := s.loops + 1 } ⟨hs.frames_eq, hs.spaces_eq, hs.outerDepth_eq⟩

theorem gives_loop (hdepth : outer.length ≤ depthLimit)
    (h : Gives (Within outer) (value invoke e) (.ok (.list (xs.map f))) (Within outer))
    (hbody : ∀ a ∈ xs, Gives (Inside outer [(x, f a)]) (nodes invoke body) (text a)
      (Inside outer [])) :
    Gives (Within outer) (node invoke (.loop line (.name x) e none body []))
      (written (xs.map text)) (Within outer) := by
  have hspaces : ∀ s, Within outer s → s.spaces = [] := fun _ hs => hs.spaces_eq
  have hitems : Gives (Within outer) (loopItems invoke line (.name x) e none)
      (.ok (xs.map f)) (Within outer) := by
    rw [loopItems]
    exact h.bind_ok ((gives_opened hspaces _).bind_ok
      ((Gives.located line (.ok (xs.map f))).bind_ok (.pure _)))
  rw [node]
  refine hitems.bind_ok (gives_newLoop fun identity => ?_)
  cases xs with
  | nil => exact gives_nil
  | cons a xs => exact gives_within hdepth (gives_eachItem identity _ hbody 0 _)

end Loop

theorem render_eq {template : List Node} {context : List (Value × Value)}
    {t : Except Trouble String}
    (h : Gives (Within [{ Frame.empty with backing := .context context }])
      (nodes (Evaluator.invoke depthLimit) template) t Q) : render template context = t := by
  have hrun := h (State.initial context) ⟨rfl, rfl, rfl⟩
  rw [render]
  cases t with
  | error e =>
    have hrun : nodes (Evaluator.invoke depthLimit) template (State.initial context) = .error e :=
      hrun
    rw [hrun]
  | ok s =>
    obtain ⟨s', hrun, -⟩ := hrun
    rw [hrun]

end Nodes

end Evaluator
end ReleaseBulletin.Template
