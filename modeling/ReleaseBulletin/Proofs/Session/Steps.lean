import ReleaseBulletin.Proofs.Session.Run

/-!
Sessions that go through a list of requests, one after the other, up to the first one whose answer
is a failure.
-/
namespace ReleaseBulletin.Session
open Http

variable {α β : Type}

/-- The failure of a result, if it is one. -/
def failure? : Except Failure α → Option Failure
  | .ok _ => none
  | .error e => some e

/-- A request, and the failure that its answer leads to, if any. A request that leads to no failure
was received. -/
structure Step (w : World) where
  request : Request
  failure : Option Failure
  received : failure = none → (w.contact request).wasReceived = true

section

variable {w : World}

/-- The requests of some steps. -/
def Step.requests (steps : List (Step w)) : List Request := steps.map (·.request)

/-- The first failure that one of the steps leads to. -/
def Step.firstFailure (steps : List (Step w)) : Option Failure := steps.findSome? (·.failure)

/-- The steps up to the first one that leads to a failure, which is the last of them. -/
def Step.upToFailure : List (Step w) → List (Step w)
  | [] => []
  | s :: rest => if s.failure = none then s :: upToFailure rest else [s]

theorem Step.received_requests {steps : List (Step w)} (h : firstFailure steps = none) :
    w.received (requests steps) = requests steps := by
  refine w.received_eq_self fun r hr => ?_
  obtain ⟨s, hs, rfl⟩ := List.mem_map.1 hr
  exact s.received (List.findSome?_eq_none_iff.1 h s hs)

theorem Step.firstFailure_append (xs ys : List (Step w)) :
    firstFailure (xs ++ ys) = (firstFailure xs).or (firstFailure ys) := by
  rw [firstFailure, List.findSome?_append, firstFailure, firstFailure]

theorem Step.upToFailure_append_of_none {xs : List (Step w)} (h : firstFailure xs = none)
    (ys : List (Step w)) : upToFailure (xs ++ ys) = xs ++ upToFailure ys := by
  induction xs with
  | nil => rfl
  | cons s xs ih =>
    have hs : s.failure = none := List.findSome?_eq_none_iff.1 h s List.mem_cons_self
    rw [firstFailure, List.findSome?_cons, hs] at h
    rw [List.cons_append, upToFailure, if_pos hs, ih h, List.cons_append]

theorem Step.upToFailure_of_none {xs : List (Step w)} (h : firstFailure xs = none) :
    upToFailure xs = xs := by
  have happ := upToFailure_append_of_none h []
  rwa [List.append_nil, upToFailure, List.append_nil] at happ

theorem Step.upToFailure_append_of_some {xs : List (Step w)} {e : Failure}
    (h : firstFailure xs = some e) (ys : List (Step w)) :
    upToFailure (xs ++ ys) = upToFailure xs := by
  induction xs with
  | nil => simp [firstFailure] at h
  | cons s xs ih =>
    rw [List.cons_append, upToFailure, upToFailure]
    cases hs : s.failure with
    | some f => rfl
    | none =>
      rw [firstFailure, List.findSome?_cons, hs] at h
      rw [if_pos rfl, if_pos rfl, ih h]

/-- Steps that lead to a failure have a first one that does. -/
theorem Step.exists_first {xs : List (Step w)} {e : Failure} (h : firstFailure xs = some e) :
    ∃ before s after, xs = before ++ s :: after ∧ upToFailure xs = before ++ [s] ∧
      firstFailure before = none ∧ s.failure = some e := by
  induction xs with
  | nil => simp [firstFailure] at h
  | cons s xs ih =>
    rw [firstFailure, List.findSome?_cons] at h
    cases hs : s.failure with
    | some f =>
      rw [hs] at h
      refine ⟨[], s, xs, rfl, ?_, rfl, hs.trans h⟩
      rw [upToFailure, hs]
      rfl
    | none =>
      rw [hs] at h
      obtain ⟨before, t, after, hxs, hupTo, hbefore, ht⟩ := ih h
      refine ⟨s :: before, t, after, by rw [hxs, List.cons_append], ?_, ?_, ht⟩
      · rw [upToFailure, if_pos hs, hupTo, List.cons_append]
      · rw [firstFailure, List.findSome?_cons, hs]
        exact hbefore

/-- The outcome of going through steps: the requests up to the first failure, and that failure, or a
value if no step leads to one. -/
structure Outcome.Follows (steps : List (Step w)) (o : Outcome α) : Prop where
  requests : o.requests = w.received (Step.requests (Step.upToFailure steps))
  failure : failure? o.result = Step.firstFailure steps

theorem failure?_eq_none {x : Except Failure α} : failure? x = none ↔ ∃ a, x = .ok a := by
  cases x <;> simp [failure?]

theorem failure?_eq_some {x : Except Failure α} {e : Failure} :
    failure? x = some e ↔ x = .error e := by
  cases x <;> simp [failure?]

/-- Steps of which the last one alone can lead to a failure. -/
theorem Outcome.Follows.of_last {xs : List (Step w)} {s : Step w} {o : Outcome α}
    (h : Step.firstFailure xs = none)
    (requests : o.requests = w.received (Step.requests (xs ++ [s])))
    (failure : failure? o.result = s.failure) : Follows (xs ++ [s]) o where
  requests := by
    rw [requests, Step.upToFailure_append_of_none h, Step.upToFailure]
    cases s.failure <;> rfl
  failure := by
    rw [failure, Step.firstFailure_append, h, Option.none_or, Step.firstFailure,
      List.findSome?_cons]
    cases s.failure <;> rfl

theorem Outcome.Follows.one {s : Step w} {o : Outcome α}
    (requests : o.requests = w.received [s.request])
    (failure : failure? o.result = s.failure) : Follows ([] ++ [s]) o :=
  of_last rfl requests failure

/-- Sessions that go through steps one after the other go through all of them. -/
theorem Outcome.Follows.bind {xs ys : List (Step w)} {s : Session α} {f : α → Session β}
    (h : Follows xs (s.run w))
    (next : ∀ a, (s.run w).result = .ok a → Follows ys ((f a).run w)) :
    Follows (xs ++ ys) ((s >>= f).run w) := by
  cases hs : (s.run w).result with
  | error e =>
    have hfirst : Step.firstFailure xs = some e := by rw [← h.failure, hs, failure?]
    refine ⟨?_, ?_⟩
    · rw [requests_bind, hs, h.requests, Step.upToFailure_append_of_some hfirst, List.append_nil]
    · rw [result_bind, hs, Step.firstFailure_append, hfirst]
      rfl
  | ok a =>
    have hfirst : Step.firstFailure xs = none := by rw [← h.failure, hs, failure?]
    have hnext := next a hs
    refine ⟨?_, ?_⟩
    · rw [requests_bind, hs]
      dsimp only
      rw [h.requests, hnext.requests, Step.upToFailure_append_of_none hfirst,
        Step.upToFailure_of_none hfirst, ← World.received_append, Step.requests, Step.requests,
        Step.requests, List.map_append]
    · rw [result_bind, hs]
      dsimp only
      rw [hnext.failure, Step.firstFailure_append, hfirst, Option.none_or]

/-- A session that asks for nothing before and one that asks for nothing after. -/
theorem Outcome.Follows.bind_quiet {xs : List (Step w)} {s : Session α} {f : α → Session β}
    (h : Follows xs (s.run w)) (requests : ∀ a, ((f a).run w).requests = [])
    (result : ∀ a, ∃ b, ((f a).run w).result = .ok b) : Follows xs ((s >>= f).run w) := by
  rw [← List.append_nil xs]
  exact h.bind fun a _ => ⟨requests a, failure?_eq_none.2 (result a)⟩

theorem Outcome.Follows.notify_bind {xs : List (Step w)} {level : Notice.Level}
    {topic : Notice.Topic} {f : Unit → Session β} (h : Follows xs ((f ()).run w)) :
    Follows xs ((notify level topic >>= f).run w) := by
  refine ⟨?_, ?_⟩
  · rw [requests_bind, requests_notify, result_notify]
    exact h.requests
  · rw [result_bind, result_notify]
    exact h.failure

/-- What going through steps comes to: all of them and a value, or those up to one whose failure is
the result, of which all but that last one were received for certain. -/
theorem Outcome.Follows.cases {steps : List (Step w)} {o : Outcome α} (h : Follows steps o) :
    (∃ a, o.result = .ok a ∧ Step.firstFailure steps = none ∧
      o.requests = Step.requests steps) ∨
    ∃ before s after e, steps = before ++ s :: after ∧ Step.firstFailure before = none ∧
      s.failure = some e ∧ o.result = .error e ∧
      o.requests = Step.requests before ++ w.received [s.request] := by
  cases hfirst : Step.firstFailure steps with
  | none =>
    obtain ⟨a, ha⟩ := failure?_eq_none.1 (h.failure.trans hfirst)
    refine .inl ⟨a, ha, rfl, ?_⟩
    rw [h.requests, Step.upToFailure_of_none hfirst, Step.received_requests hfirst]
  | some e =>
    obtain ⟨before, s, after, hsteps, hupTo, hbefore, hs⟩ := Step.exists_first hfirst
    refine .inr ⟨before, s, after, e, hsteps, hbefore, hs,
      failure?_eq_some.1 (h.failure.trans hfirst), ?_⟩
    rw [h.requests, hupTo, Step.requests, List.map_append, World.received_append]
    exact congrArg (· ++ _) (Step.received_requests hbefore)

end

end ReleaseBulletin.Session
