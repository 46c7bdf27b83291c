import ReleaseBulletin.Proofs.Session.Alike

/-!
Sessions in two worlds. They agree if they leave the same traces and end alike, whatever differs
between the worlds besides.
-/
namespace ReleaseBulletin.Session
open Http

variable {α β γ δ : Type}

theorem run_attempt (w : World) (s : Session α) :
    s.attempt.run w = ⟨(s.run w).events, .ok (s.run w).result⟩ := by
  induction s with
  | done result => rfl
  | note n next ih => rw [attempt, run, ih, run]; rfl
  | read p next ih => exact ih _
  | probe p next ih => exact ih _
  | send r next ih => rw [attempt, run, ih, run]; rfl

/-- Two sessions, each in a world of its own, that leave the same traces and end with the same
failure or with values in the relation. -/
structure Agree (w w' : World) (R : α → β → Prop) (s : Session α) (t : Session β) : Prop where
  events : (s.run w).events = (t.run w').events
  result : AlikeResults R (s.run w).result (t.run w').result

variable {w w' : World}

theorem Agree.run_eq {s t : Session α} (h : Agree w w' Eq s t) : s.run w = t.run w' := by
  have hevents := h.events
  have hresult := h.result.eq
  cases hs : s.run w
  cases ht : t.run w'
  simp_all

theorem Agree.ofResult {R : α → β → Prop} {x : Except Failure α} {y : Except Failure β}
    (h : AlikeResults R x y) : Agree w w' R (Session.ofResult x) (Session.ofResult y) :=
  ⟨rfl, h⟩

theorem Agree.done (x : Except Failure α) : Agree w w' Eq (.done x) (.done x) := by
  cases x with
  | ok a => exact ⟨rfl, .ok rfl⟩
  | error e => exact ⟨rfl, .error e⟩

theorem Agree.pure (a : α) : Agree w w' Eq (Pure.pure a) (Pure.pure a) := .done (.ok a)

theorem Agree.fail (R : α → β → Prop) (e : Failure) :
    Agree w w' R (Session.fail e) (Session.fail e) :=
  ⟨rfl, .error e⟩

theorem Agree.notify (level : Notice.Level) (topic : Notice.Topic) :
    Agree w w' Eq (Session.notify level topic) (Session.notify level topic) :=
  ⟨rfl, .ok rfl⟩

theorem Agree.bind {R : α → β → Prop} {S : γ → δ → Prop} {s : Session α} {t : Session β}
    {f : α → Session γ} {g : β → Session δ} (h : Agree w w' R s t)
    (next : ∀ a b, R a b → Agree w w' S (f a) (g b)) : Agree w w' S (s >>= f) (t >>= g) := by
  have hs : (s >>= f).run w = (s.run w).bind fun a => (f a).run w := run_bind w s f
  have ht : (t >>= g).run w' = (t.run w').bind fun b => (g b).run w' := run_bind w' t g
  obtain ⟨hevents, hresult⟩ := h
  generalize s.run w = o at hs hevents hresult
  generalize t.run w' = o' at ht hevents hresult
  obtain ⟨es, x⟩ := o
  obtain ⟨es', y⟩ := o'
  obtain rfl : es = es' := hevents
  cases hresult with
  | ok values =>
    have hnext := next _ _ values
    refine ⟨?_, ?_⟩
    · rw [hs, ht]
      exact congrArg (es ++ ·) hnext.events
    · rw [hs, ht]
      exact hnext.result
  | error e =>
    refine ⟨?_, ?_⟩
    · rw [hs, ht]
      rfl
    · rw [hs, ht]
      exact .error e

/-- Sessions with the same value continue with it. -/
theorem Agree.bind_eq {S : γ → δ → Prop} {s t : Session α} {f : α → Session γ} {g : α → Session δ}
    (h : Agree w w' Eq s t) (next : ∀ a, Agree w w' S (f a) (g a)) :
    Agree w w' S (s >>= f) (t >>= g) :=
  h.bind fun a _ he => he ▸ next a

theorem Agree.attempt {R : α → β → Prop} {s : Session α} {t : Session β} (h : Agree w w' R s t) :
    Agree w w' (AlikeResults R) s.attempt t.attempt where
  events := by
    rw [run_attempt, run_attempt]
    exact h.events
  result := by
    rw [run_attempt, run_attempt]
    exact .ok h.result

/-- A text file that is the same in both worlds. -/
theorem Agree.readText (h : w.readFile = w'.readFile) (path : String) :
    Agree w w' Eq (Session.readText path) (Session.readText path) := by
  constructor
  · rw [Session.readText, run, run, h]
    cases FileTree.textOf (w'.readFile path) <;> rfl
  · rw [Session.readText, run, run, h]
    cases FileTree.textOf (w'.readFile path) with
    | ok s => exact .ok rfl
    | error fault => exact .error _

end ReleaseBulletin.Session
