import ReleaseBulletin.Proofs.Session.Run

/-!
Sessions that differ in the credentials of their requests alone. Where credentials have no effect
on what comes back, they end in the same way and leave the same traces.
-/
namespace ReleaseBulletin.Session
open Http

variable {α β γ δ : Type}

/-- Two results: the same failure, or values in the relation. -/
inductive AlikeResults (R : α → β → Prop) : Except Failure α → Except Failure β → Prop
  | ok {a : α} {b : β} (values : R a b) : AlikeResults R (.ok a) (.ok b)
  | error (e : Failure) : AlikeResults R (.error e) (.error e)

/-- Two sessions with the same questions to the world, apart from the credentials of requests. What
is answered leads them to sessions that are alike again, and in the end to values in the relation. -/
inductive Alike (R : α → β → Prop) : Session α → Session β → Prop
  | done {x : Except Failure α} {y : Except Failure β} (results : AlikeResults R x y) :
      Alike R (.done x) (.done y)
  | note (n : Notice) {s : Session α} {t : Session β} (next : Alike R s t) :
      Alike R (.note n s) (.note n t)
  | read (path : String) {f : Except FileTree.Fault Bytes → Session α}
      {g : Except FileTree.Fault Bytes → Session β} (next : ∀ x, Alike R (f x) (g x)) :
      Alike R (.read path f) (.read path g)
  | probe (path : String) {f : Bool → Session α} {g : Bool → Session β}
      (next : ∀ x, Alike R (f x) (g x)) : Alike R (.probe path f) (.probe path g)
  | send {r r' : Request} {f : Contact → Session α} {g : Contact → Session β}
      (url : r.url = r'.url) (next : ∀ x, Alike R (f x) (g x)) : Alike R (.send r f) (.send r' g)

theorem Alike.refl (s : Session α) : Alike Eq s s := by
  induction s with
  | done result =>
    cases result with
    | ok a => exact .done (.ok rfl)
    | error e => exact .done (.error e)
  | note n next ih => exact .note n ih
  | read p next ih => exact .read p ih
  | probe p next ih => exact .probe p ih
  | send r next ih => exact .send rfl ih

theorem Alike.ofResult {R : α → β → Prop} {x : Except Failure α} {y : Except Failure β}
    (h : AlikeResults R x y) : Alike R (Session.ofResult x) (Session.ofResult y) :=
  .done h

theorem Alike.ask {r r' : Request} (h : r.url = r'.url) :
    Alike Eq (Session.ask r) (Session.ask r') :=
  .send h fun _ => .done (.ok rfl)

theorem Alike.bind {R : α → β → Prop} {S : γ → δ → Prop} {s : Session α} {t : Session β}
    {f : α → Session γ} {g : β → Session δ} (h : Alike R s t)
    (next : ∀ a b, R a b → Alike S (f a) (g b)) : Alike S (s >>= f) (t >>= g) := by
  change Alike S (s.bind f) (t.bind g)
  induction h with
  | done results =>
    cases results with
    | ok values => exact next _ _ values
    | error e => exact .done (.error e)
  | note n _ ih => exact .note n ih
  | read p _ ih => exact .read p ih
  | probe p _ ih => exact .probe p ih
  | send url _ ih => exact .send url ih

/-- Sessions with the same value continue with it. -/
theorem Alike.bind_eq {S : γ → δ → Prop} {s t : Session α} {f : α → Session γ} {g : α → Session δ}
    (h : Alike Eq s t) (next : ∀ a, Alike S (f a) (g a)) : Alike S (s >>= f) (t >>= g) :=
  h.bind fun a _ he => he ▸ next a

theorem Alike.attempt {s t : Session α} (h : Alike Eq s t) : Alike Eq s.attempt t.attempt := by
  induction h with
  | done results =>
    cases results with
    | ok values => exact .done (.ok (congrArg _ values))
    | error e => exact .done (.ok rfl)
  | note n _ ih => exact .note n ih
  | read p _ ih => exact .read p ih
  | probe p _ ih => exact .probe p ih
  | send url _ ih => exact .send url ih

/-- What comes back for a request depends on its URL alone. -/
def World.IgnoresCredentials (w : World) : Prop :=
  ∀ r r' : Request, r.url = r'.url → w.contact r = w.contact r'

/-- The URLs of the requests that were received, in order. -/
def Outcome.urls (o : Outcome α) : List Url := o.requests.map (·.url)

/-- Two outcomes with the same traces, apart from credentials, and with results in the relation. -/
structure Outcome.IsAlike (R : α → β → Prop) (o : Outcome α) (o' : Outcome β) : Prop where
  result : AlikeResults R o.result o'.result
  notices : o.notices = o'.notices
  urls : o.urls = o'.urls

theorem AlikeResults.eq {x y : Except Failure α} (h : AlikeResults Eq x y) : x = y := by
  cases h with
  | ok values => rw [values]
  | error e => rfl

theorem Outcome.notices_after (events : List Event) (o : Outcome α) :
    (o.after events).notices = (⟨events, o.result⟩ : Outcome α).notices ++ o.notices := by
  simp [Outcome.notices, Outcome.after]

theorem notices_receipt (r : Request) (contact : Contact) (o : Outcome α) :
    (o.after (receipt r contact)).notices = o.notices := by
  rw [Outcome.notices_after, receipt]
  split <;> rfl

theorem urls_receipt (w : World) (r : Request) (o : Outcome α) :
    (o.after (receipt r (w.contact r))).urls =
      (if (w.contact r).wasReceived then [r.url] else []) ++ o.urls := by
  rw [Outcome.urls, requests_receipt, List.map_append, Outcome.urls]
  congr 1
  cases h : (w.contact r).wasReceived <;> simp [World.received, h]

variable {R : α → β → Prop}

theorem Outcome.IsAlike.after_noticed {o : Outcome α} {o' : Outcome β} (h : IsAlike R o o')
    (n : Notice) : IsAlike R (o.after [.noticed n]) (o'.after [.noticed n]) where
  result := h.result
  notices := by rw [notices_after, notices_after, h.notices]; rfl
  urls := by
    rw [Outcome.urls, Outcome.urls, requests_after_noticed, requests_after_noticed]
    exact h.urls

theorem Outcome.IsAlike.after_receipt {w : World} {r r' : Request} {o : Outcome α} {o' : Outcome β}
    (h : IsAlike R o o') (url : r.url = r'.url) (contact : w.contact r = w.contact r') :
    IsAlike R (o.after (receipt r (w.contact r))) (o'.after (receipt r' (w.contact r'))) where
  result := h.result
  notices := by rw [notices_receipt, notices_receipt, h.notices]
  urls := by rw [urls_receipt, urls_receipt, url, contact, h.urls]

/-- Sessions that differ in credentials alone have outcomes that differ in credentials alone, in
every world that ignores credentials. -/
theorem Alike.run {w : World} (hw : w.IgnoresCredentials) {s : Session α} {t : Session β}
    (h : Alike R s t) : Outcome.IsAlike R (s.run w) (t.run w) := by
  induction h with
  | done results => exact ⟨results, rfl, rfl⟩
  | note n _ ih => exact ih.after_noticed n
  | read p _ ih => exact ih _
  | probe p _ ih => exact ih _
  | send url _ ih =>
    have hcontact := hw _ _ url
    rw [Session.run, Session.run]
    refine Outcome.IsAlike.after_receipt ?_ url hcontact
    rw [hcontact]
    exact ih _

end ReleaseBulletin.Session
