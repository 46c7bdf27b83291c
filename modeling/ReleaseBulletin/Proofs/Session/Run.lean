import ReleaseBulletin.Session

/-!
What continued sessions ask for and how they end, in any world.
-/
namespace ReleaseBulletin.Session
open Http

theorem eq_ok_of_toOption {α : Type} {r : Except Failure α} {a : α} (h : r.toOption = some a) :
    r = .ok a := by
  cases r with
  | error e => simp [Except.toOption] at h
  | ok b => simpa [Except.toOption] using h

variable {α β : Type} (w : World)

/-- Those of the requests that the other side receives. -/
def World.received (rs : List Request) : List Request :=
  rs.filter fun r => (w.contact r).wasReceived

theorem World.received_append (rs rs' : List Request) :
    w.received (rs ++ rs') = w.received rs ++ w.received rs' :=
  List.filter_append ..

theorem World.flatMap_received {ι : Type} (request : ι → Request) (is : List ι) :
    is.flatMap (fun i => w.received [request i]) = w.received (is.map request) := by
  induction is with
  | nil => rfl
  | cons i is ih =>
    rw [List.flatMap_cons, ih, ← received_append]
    rfl

theorem World.wasReceived_of_answered {r : Request} {reply : Reply}
    (h : w.contact r = .answered reply) : (w.contact r).wasReceived = true := by
  rw [h, Contact.wasReceived]

theorem World.received_eq_self {rs : List Request}
    (h : ∀ r ∈ rs, (w.contact r).wasReceived = true) : w.received rs = rs :=
  List.filter_eq_self.2 h

theorem Outcome.requests_after (events : List Event) (o : Outcome α) :
    (o.after events).requests = (⟨events, o.result⟩ : Outcome α).requests ++ o.requests := by
  simp [Outcome.requests, Outcome.after]

theorem Outcome.requests_after_noticed (n : Notice) (o : Outcome α) :
    (o.after [.noticed n]).requests = o.requests := by
  rw [Outcome.requests_after]
  rfl

theorem requests_receipt (r : Request) (o : Outcome α) :
    (o.after (receipt r (w.contact r))).requests = w.received [r] ++ o.requests := by
  rw [Outcome.requests_after]
  congr 1
  cases h : (w.contact r).wasReceived <;> simp [receipt, World.received, h, Outcome.requests]

@[simp]
theorem run_pure (a : α) : (pure a : Session α).run w = ⟨[], .ok a⟩ := rfl

@[simp]
theorem run_fail (e : Failure) : (fail e : Session α).run w = ⟨[], .error e⟩ := rfl

@[simp]
theorem run_ofResult (r : Except Failure α) : (ofResult r).run w = ⟨[], r⟩ := rfl

@[simp]
theorem requests_nil (r : Except Failure α) : (⟨[], r⟩ : Outcome α).requests = [] := rfl

@[simp]
theorem result_notify (level : Notice.Level) (topic : Notice.Topic) :
    ((notify level topic).run w).result = .ok () := rfl

@[simp]
theorem requests_notify (level : Notice.Level) (topic : Notice.Topic) :
    ((notify level topic).run w).requests = [] := rfl

@[simp]
theorem result_bind (s : Session α) (f : α → Session β) :
    ((s >>= f).run w).result =
      match (s.run w).result with
      | .ok a => ((f a).run w).result
      | .error e => .error e := by
  change ((s.bind f).run w).result = _
  rw [run_bind, Outcome.bind]
  cases (s.run w).result <;> rfl

@[simp]
theorem requests_bind (s : Session α) (f : α → Session β) :
    ((s >>= f).run w).requests =
      (s.run w).requests ++
        match (s.run w).result with
        | .ok a => ((f a).run w).requests
        | .error _ => [] := by
  change ((s.bind f).run w).requests = _
  rw [run_bind, Outcome.bind]
  cases (s.run w).result with
  | ok a => rw [Outcome.requests_after]; rfl
  | error e => simp [Outcome.requests]

theorem result_bind_pure (s : Session α) (f : α → β) :
    ((s >>= fun a => pure (f a)).run w).result = (s.run w).result.map f := by
  rw [result_bind]
  cases (s.run w).result <;> rfl

theorem requests_bind_pure (s : Session α) (f : α → β) :
    ((s >>= fun a => pure (f a)).run w).requests = (s.run w).requests := by
  rw [requests_bind]
  cases (s.run w).result <;> exact List.append_nil _

/-- A continued session has a value exactly if both of its parts have one. -/
theorem result_bind_eq_ok_iff {s : Session α} {f : α → Session β} {b : β} :
    ((s >>= f).run w).result = .ok b ↔
      ∃ a, (s.run w).result = .ok a ∧ ((f a).run w).result = .ok b := by
  rw [result_bind]
  cases (s.run w).result <;> simp

@[simp]
theorem result_attempt (s : Session α) :
    (s.attempt.run w).result = .ok (s.run w).result := by
  induction s with
  | done result => rfl
  | note n next ih => exact ih
  | read p next ih => exact ih _
  | probe p next ih => exact ih _
  | send r next ih => exact ih _

@[simp]
theorem requests_attempt (s : Session α) : (s.attempt.run w).requests = (s.run w).requests := by
  induction s with
  | done result => rfl
  | note n next ih => simpa only [attempt, run, Outcome.requests_after_noticed] using ih
  | read p next ih => exact ih _
  | probe p next ih => exact ih _
  | send r next ih => simpa only [attempt, run, requests_receipt] using congrArg _ (ih _)

end ReleaseBulletin.Session
