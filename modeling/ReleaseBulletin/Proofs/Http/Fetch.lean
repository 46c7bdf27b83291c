import ReleaseBulletin.Http.Fetch
import ReleaseBulletin.Proofs.Session.Run

/-!
Fetching in worlds whose replies never point elsewhere. One request is sent; its contact decides.
-/
namespace ReleaseBulletin.Http.Fetch
open Session

/-- No reply points elsewhere. -/
def IsDirect (w : World) : Prop :=
  ∀ r reply, w.contact r = .answered reply → target? r.url reply = none

/-- What becomes of a request that can be sent: a reply whose body came to its end, or a failure. -/
def replyOf (endpoint : String) (r : Request) : Contact → Except Failure Reply
  | .unreachable => .error (.unanswered endpoint r.url.print)
  | .silent => .error (.unanswered endpoint r.url.print)
  | .answered reply => if reply.complete then .ok reply else .error (.answerCutShort endpoint)

def replyIn (w : World) (endpoint : String) (r : Request) : Except Failure Reply :=
  if isSendable r.url.scheme then replyOf endpoint r (w.contact r)
  else .error (.unsupportedScheme endpoint r.url.print)

theorem replyOf_eq_ok_iff (endpoint : String) (r : Request) {contact : Contact} {reply : Reply} :
    replyOf endpoint r contact = .ok reply ↔ contact = .answered reply ∧ reply.complete = true := by
  cases contact with
  | unreachable => simp [replyOf]
  | silent => simp [replyOf]
  | answered x =>
    simp only [replyOf, Contact.answered.injEq]
    split
    · next h =>
      simp only [Except.ok.injEq]
      exact ⟨fun he => ⟨he, he ▸ h⟩, And.left⟩
    · next h =>
      simp only [reduceCtorEq, false_iff, not_and]
      exact fun he => he ▸ h

theorem replyIn_eq_ok_iff {w : World} {endpoint : String} {r : Request} {reply : Reply} :
    replyIn w endpoint r = .ok reply ↔
      isSendable r.url.scheme = true ∧ w.contact r = .answered reply ∧ reply.complete = true := by
  rw [replyIn, ← replyOf_eq_ok_iff endpoint r]
  split
  · next h => simp [h]
  · next h => simp [h]

theorem kind_of_replyIn_eq_error {w : World} {endpoint : String} {r : Request} {e : Failure}
    (h : replyIn w endpoint r = .error e) : e.kind = .network := by
  rw [replyIn] at h
  split at h
  · cases hc : w.contact r with
    | unreachable => cases (by simpa [hc, replyOf] using h : _ = e); rfl
    | silent => cases (by simpa [hc, replyOf] using h : _ = e); rfl
    | answered reply =>
      simp only [hc, replyOf] at h
      split at h <;> cases h
      rfl
  · cases h
    rfl

theorem isNotFound_of_replyIn_eq_error {w : World} {endpoint : String} {r : Request} {e : Failure}
    (h : replyIn w endpoint r = .error e) : e.isNotFound = false := by
  have hkind := kind_of_replyIn_eq_error h
  cases e with
  | refused => cases hkind
  | _ => rfl

/-- The world without files in which every request has the same reply. -/
def steady (reply : Reply) : World where
  readFile _ := .error .notFound
  fileExists _ := false
  contact _ := .answered reply

theorem isDirect_steady {reply : Reply} (h : reply.status ∉ redirectStatuses) :
    IsDirect (steady reply) := by
  intro r x hx
  obtain rfl : reply = x := by simpa [steady] using hx
  rw [target?, if_neg h]

/-- A world in which one request has the given reply. -/
def replying (r : Request) (reply : Reply) (w : World) : World :=
  { w with contact := fun x => if x = r then .answered reply else w.contact x }

theorem contact_replying (r : Request) (reply : Reply) (w : World) :
    (replying r reply w).contact r = .answered reply :=
  if_pos rfl

theorem contact_replying_of_ne {w : World} {r x : Request} (reply : Reply) (h : x ≠ r) :
    (replying r reply w).contact x = w.contact x :=
  if_neg h

theorem isDirect_replying {w : World} (hw : IsDirect w) (r : Request) {reply : Reply}
    (h : reply.status ∉ redirectStatuses) : IsDirect (replying r reply w) := by
  intro x y hy
  simp only [replying] at hy
  split at hy
  · cases hy
    rw [target?, if_neg h]
  · exact hw x y hy

/-- A whole reply that points nowhere else is what fetching ends with. -/
theorem result_fetch_of_reply {w : World} {r : Request} {reply : Reply}
    (hsendable : isSendable r.url.scheme = true) (hreply : w.contact r = .answered reply)
    (htarget : target? r.url reply = none) (hcomplete : reply.complete = true)
    (endpoint : String) (n : Nat) : ((fetch endpoint n r).run w).result = .ok reply := by
  rw [fetch, if_pos hsendable]
  change ((Session.run w (.send r _)).result) = _
  simp only [Session.run, Outcome.after, hreply, Session.bind, htarget, hcomplete, if_true]
  rfl

variable {w : World} (hw : IsDirect w) (endpoint : String) (n : Nat) (r : Request)
include hw

theorem result_fetch : ((fetch endpoint n r).run w).result = replyIn w endpoint r := by
  rw [fetch, replyIn]
  split
  · change ((Session.run w (.send r _)).result) = _
    simp only [Session.run, Outcome.after]
    cases h : w.contact r with
    | unreachable => rfl
    | silent => rfl
    | answered reply =>
      simp only [Session.bind, hw r reply h, replyOf]
      split <;> rfl
  · rfl

theorem requests_fetch :
    ((fetch endpoint n r).run w).requests =
      if isSendable r.url.scheme then w.received [r] else [] := by
  rw [fetch]
  split
  · change ((Session.run w (.send r _)).requests) = _
    simp only [Session.run, requests_receipt]
    cases h : w.contact r with
    | unreachable => exact List.append_nil _
    | silent => exact List.append_nil _
    | answered reply =>
      simp only [Session.bind, hw r reply h]
      split <;> exact List.append_nil _
  · rfl

end ReleaseBulletin.Http.Fetch
