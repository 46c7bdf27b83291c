import Mathlib.Logic.Relation
import ReleaseBulletin.Proofs.Http.Fetch

/-!
Fetching in any world. The request is the first one that is sent, and the others are those that
replies lead to, one after the other.
-/
namespace ReleaseBulletin.Http.Fetch
open Session Relation

/-- A reply to the first request points to the place that the second one asks for. -/
def LeadsTo (w : World) (r r' : Request) : Prop :=
  ∃ reply target, w.contact r = .answered reply ∧ target? r.url reply = some target ∧
    r' = redirected r target

/-- The requests that one request leads to, with itself. -/
abbrev Leads (w : World) : Request → Request → Prop := ReflTransGen (LeadsTo w)

variable (w : World) (endpoint : String)

/-- After a request nothing is sent, or what fetching the place that the reply points to sends. -/
theorem requests_fetch_cases (n : Nat) {r : Request} (hsendable : isSendable r.url.scheme = true) :
    ((fetch endpoint n r).run w).requests = w.received [r] ∨
      ∃ m r', n = m + 1 ∧ LeadsTo w r r' ∧
        ((fetch endpoint n r).run w).requests =
          w.received [r] ++ ((fetch endpoint m r').run w).requests := by
  rw [fetch, if_pos hsendable]
  change ((Session.run w (.send r _)).requests) = _ ∨ ∃ m r', _ ∧ _ ∧
    ((Session.run w (.send r _)).requests) = _
  simp only [Session.run, requests_receipt]
  cases hcontact : w.contact r with
  | unreachable => exact .inl (List.append_nil _)
  | silent => exact .inl (List.append_nil _)
  | answered reply =>
    cases htarget : target? r.url reply with
    | none =>
      left
      simp only [Session.bind, htarget]
      split <;> exact List.append_nil _
    | some target =>
      simp only [Session.bind, htarget]
      cases n with
      | zero => exact .inl (List.append_nil _)
      | succ m => exact .inr ⟨m, _, rfl, ⟨reply, target, hcontact, htarget, rfl⟩, rfl⟩

theorem received_isPrefix_fetch (n : Nat) {r : Request}
    (hsendable : isSendable r.url.scheme = true) :
    w.received [r] <+: ((fetch endpoint n r).run w).requests := by
  rcases requests_fetch_cases w endpoint n hsendable with h | ⟨m, r', -, -, h⟩
  · exact h ▸ List.prefix_refl _
  · exact ⟨_, h.symm⟩

/-- Whatever fetching sends, the request led to it. -/
theorem leads_of_mem_fetch {n : Nat} {r x : Request}
    (hx : x ∈ ((fetch endpoint n r).run w).requests) : Leads w r x := by
  induction n using Nat.strongRecOn generalizing r with
  | ind n ih =>
    have hself : ∀ x ∈ w.received [r], x = r := fun x h =>
      List.mem_singleton.1 (List.mem_filter.1 h).1
    by_cases hsendable : isSendable r.url.scheme = true
    · rcases requests_fetch_cases w endpoint n hsendable with h | ⟨m, r', rfl, hstep, h⟩
      · rw [h] at hx
        exact hself x hx ▸ .refl
      · rw [h] at hx
        rcases List.mem_append.1 hx with hfirst | hrest
        · exact hself x hfirst ▸ .refl
        · exact .head hstep (ih m (Nat.lt_succ_self m) hrest)
    · rw [fetch, if_neg hsendable] at hx
      cases hx

end ReleaseBulletin.Http.Fetch
