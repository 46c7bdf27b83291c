import ReleaseBulletin.Forge.Resource
import ReleaseBulletin.Proofs.Http.Fetch
import ReleaseBulletin.Proofs.Url.Web

/-!
What the forge answers for a resource, read off the contact of one request, and that asking for the
resource ends with that answer after that request.
-/
namespace ReleaseBulletin.Forge
open Document Http Session

/-- The URL of a resource, for a client whose own URL has a path. -/
def Client.urlFor (c : Client) (segments : List String) : Url :=
  (Url.Endpoint.below? c.base segments).getD c.base

def Client.requestFor (c : Client) (segments : List String) (query : List (String × String)) :
    Request :=
  c.request (c.urlFor segments) query

def Client.answerAt {α : Type} (c : Client) (w : World) (read : Tree → Option α) (endpoint : Url)
    (query : List (String × String)) : Except Failure α :=
  match endpoint.host? with
  | none => .error (.unsupportedScheme endpoint.print endpoint.print)
  | some _ =>
    match Fetch.replyIn w endpoint.print (c.request endpoint query) with
    | .error e => .error e
    | .ok reply => interpret read endpoint.print reply

/-- The answer for a resource: what its reader makes of the body of a reply with a status of
success, and a failure in any other case. -/
def Client.answer {α : Type} (c : Client) (w : World) (read : Tree → Option α)
    (segments : List String) (query : List (String × String)) : Except Failure α :=
  match c.endpoint segments with
  | .error e => .error e
  | .ok endpoint => c.answerAt w read endpoint query

/-- What a client's URL must have so that its requests can be sent. -/
structure Client.CanAsk (c : Client) : Prop where
  path : ∃ parts, c.base.path = .segments parts
  host : c.base.host?.isSome = true
  scheme : Fetch.isSendable c.base.scheme = true

theorem Client.read_of_connect {url : String} {token : Environment.Token} {c : Client}
    (h : connect url token = .ok c) : Url.Reader.read url = .ok c.base := by
  rw [connect] at h
  split at h
  · cases h
  · next base hread =>
    split at h
    · cases h
      exact hread
    · cases h

/-- A client for a web address can ask for resources. -/
theorem Client.canAsk_of_connect {url : String} {token : Environment.Token} {c : Client}
    (h : connect url token = .ok c) (hscheme : c.base.scheme = "http") : c.CanAsk := by
  have hplace := Url.Reader.hasPlace_of_read (read_of_connect h) (by rw [hscheme]; rfl)
  exact ⟨hplace.path, hplace.host, by rw [hscheme]; rfl⟩

theorem Client.interpret_eq_ok_iff {α : Type} {read : Tree → Option α} (endpoint : String)
    {reply : Reply} {a : α} :
    interpret read endpoint reply = .ok a ↔
      isSuccess reply.status = true ∧
        (Json.Parser.parse (String.ofList (Bytes.Utf8.decodeLenient reply.body))).bind read =
          some a := by
  simp only [interpret]
  split
  · next h =>
    split
    · next b hb => simp [h, hb]
    · next hn => simp [hn]
  · next h => simp [h]

theorem Client.url_request (c : Client) (endpoint : Url) (query : List (String × String)) :
    (c.request endpoint query).url.scheme = endpoint.scheme := by
  rw [request]
  split <;> rfl

theorem Client.path_request (c : Client) (endpoint : Url) (query : List (String × String)) :
    (c.request endpoint query).url.path = endpoint.path := by
  rw [request]
  split <;> rfl

theorem Client.endpoint_eq_ok {c : Client} {segments : List String} {endpoint : Url}
    (h : c.endpoint segments = .ok endpoint) :
    Url.Endpoint.below? c.base segments = some endpoint ∧ (∃ parts, c.base.path = .segments parts) ∧
      endpoint.scheme = c.base.scheme ∧ endpoint.host? = c.base.host? := by
  rw [Client.endpoint, Url.Endpoint.below?] at h
  cases hp : c.base.path with
  | bare text => simp [hp] at h
  | segments parts =>
    simp only [hp, Except.ok.injEq] at h
    subst h
    simp [Url.Endpoint.below?, hp, Url.host?]

theorem Client.CanAsk.endpoint {c : Client} (h : c.CanAsk) (segments : List String) :
    ∃ endpoint, c.endpoint segments = .ok endpoint := by
  obtain ⟨parts, hp⟩ := h.path
  rw [Client.endpoint, Url.Endpoint.below?, hp]
  exact ⟨_, rfl⟩

theorem Client.urlFor_eq {c : Client} {segments : List String} {endpoint : Url}
    (h : c.endpoint segments = .ok endpoint) : c.urlFor segments = endpoint := by
  rw [urlFor, (endpoint_eq_ok h).1, Option.getD_some]

theorem Client.requestFor_eq {c : Client} {segments : List String} {endpoint : Url}
    (h : c.endpoint segments = .ok endpoint) (query : List (String × String)) :
    c.requestFor segments query = c.request endpoint query := by
  rw [requestFor, urlFor_eq h]

theorem Client.answerAt_eq_ok_iff {α : Type} {c : Client} {w : World} {read : Tree → Option α}
    {endpoint : Url} {query : List (String × String)} {a : α} :
    c.answerAt w read endpoint query = .ok a ↔
      endpoint.host?.isSome = true ∧ Fetch.isSendable endpoint.scheme = true ∧
        ∃ reply, w.contact (c.request endpoint query) = .answered reply ∧
          reply.complete = true ∧ isSuccess reply.status = true ∧
          (Json.Parser.parse (String.ofList (Bytes.Utf8.decodeLenient reply.body))).bind read =
            some a := by
  rw [answerAt]
  cases endpoint.host? with
  | none => simp
  | some host =>
    simp only [Option.isSome_some, true_and, ← url_request c endpoint query,
      ← interpret_eq_ok_iff endpoint.print]
    constructor
    · intro h
      cases hr : Fetch.replyIn w endpoint.print (c.request endpoint query) with
      | error e => simp [hr] at h
      | ok reply =>
        obtain ⟨hs, hc, hb⟩ := Fetch.replyIn_eq_ok_iff.1 hr
        exact ⟨hs, reply, hc, hb, by simpa [hr] using h⟩
    · rintro ⟨hs, reply, hc, hb, hi⟩
      rw [Fetch.replyIn_eq_ok_iff.2 ⟨hs, hc, hb⟩]
      exact hi

/-- An answer is what the reader makes of a whole reply with a status of success. -/
theorem Client.answer_eq_ok_iff {α : Type} {c : Client} {w : World} {read : Tree → Option α}
    {segments : List String} {query : List (String × String)} {a : α} :
    c.answer w read segments query = .ok a ↔
      c.CanAsk ∧ ∃ reply, w.contact (c.requestFor segments query) = .answered reply ∧
        reply.complete = true ∧ isSuccess reply.status = true ∧
        (Json.Parser.parse (String.ofList (Bytes.Utf8.decodeLenient reply.body))).bind read =
          some a := by
  rw [answer]
  cases he : c.endpoint segments with
  | error e =>
    simp only [reduceCtorEq, false_iff, not_and]
    intro hc
    obtain ⟨endpoint, hok⟩ := hc.endpoint segments
    simp [he] at hok
  | ok endpoint =>
    obtain ⟨-, hp, hs, hh⟩ := endpoint_eq_ok he
    simp only [answerAt_eq_ok_iff, requestFor_eq he, hs, hh, ← and_assoc]
    exact and_congr_left' ⟨fun ⟨a, b⟩ => ⟨hp, a, b⟩, fun h => ⟨h.host, h.scheme⟩⟩

theorem Client.wasReceived_of_answer {α : Type} {c : Client} {w : World} {read : Tree → Option α}
    {segments : List String} {query : List (String × String)} {a : α}
    (h : c.answer w read segments query = .ok a) :
    (w.contact (c.requestFor segments query)).wasReceived = true := by
  obtain ⟨-, reply, hreply, -⟩ := answer_eq_ok_iff.1 h
  exact w.wasReceived_of_answered hreply

theorem Client.status_of_isNotFound {α : Type} {read : Tree → Option α} {endpoint : String}
    {reply : Reply} {e : Failure} (h : interpret read endpoint reply = .error e)
    (he : e.isNotFound = true) : reply.status = 404 := by
  simp only [interpret] at h
  split at h
  · split at h <;> cases h
    simp [Failure.isNotFound] at he
  · cases h
    simpa [Failure.isNotFound] using he

/-- A resource is not found only if a whole reply with that status says so. -/
theorem Client.reply_of_isNotFound {α : Type} {c : Client} {w : World} {read : Tree → Option α}
    {segments : List String} {query : List (String × String)} {e : Failure}
    (h : c.answer w read segments query = .error e) (he : e.isNotFound = true) :
    ∃ reply, w.contact (c.requestFor segments query) = .answered reply ∧
      reply.complete = true ∧ reply.status = 404 := by
  rw [answer] at h
  split at h
  · next f hend =>
    cases h
    rw [endpoint] at hend
    split at hend <;> cases hend
    simp [Failure.isNotFound] at he
  · next endpoint hend =>
    rw [requestFor_eq hend]
    rw [answerAt] at h
    split at h
    · cases h
      simp [Failure.isNotFound] at he
    · split at h
      · next f hr =>
        cases h
        simp [Fetch.isNotFound_of_replyIn_eq_error hr] at he
      · next reply hr =>
        obtain ⟨-, hcontact, hcomplete⟩ := Fetch.replyIn_eq_ok_iff.1 hr
        exact ⟨reply, hcontact, hcomplete, status_of_isNotFound h he⟩

theorem Client.answer_of_reply {α : Type} {c : Client} (h : c.CanAsk) {w : World}
    {read : Tree → Option α} {segments : List String} {query : List (String × String)}
    {reply : Reply} (hreply : w.contact (c.requestFor segments query) = .answered reply)
    (hcomplete : reply.complete = true) :
    c.answer w read segments query =
      interpret read (c.urlFor segments).print reply := by
  obtain ⟨endpoint, he⟩ := h.endpoint segments
  obtain ⟨-, -, hs, hh⟩ := endpoint_eq_ok he
  obtain ⟨host, hb⟩ := Option.isSome_iff_exists.1 h.host
  rw [requestFor_eq he] at hreply
  have hok : Fetch.replyIn w endpoint.print (c.request endpoint query) = .ok reply :=
    Fetch.replyIn_eq_ok_iff.2 ⟨by rw [url_request, hs, h.scheme], hreply, hcomplete⟩
  rw [answer, he, urlFor_eq he]
  simp only [answerAt, hh, hb, hok]

theorem Client.isNotFound_of_reply {α : Type} {c : Client} (h : c.CanAsk) {w : World}
    {read : Tree → Option α} {segments : List String} {query : List (String × String)}
    {reply : Reply} (hreply : w.contact (c.requestFor segments query) = .answered reply)
    (hcomplete : reply.complete = true) (hstatus : reply.status = 404) :
    ∃ e, c.answer w read segments query = .error e ∧ e.isNotFound = true := by
  rw [answer_of_reply h hreply hcomplete]
  simp [interpret, isSuccess, hstatus, Failure.isNotFound]

/-- A client of a forge in its own network. -/
def Client.sample : Client :=
  ⟨⟨"http", some ⟨"", none, some (.name "forge"), none⟩, .segments [""], none, none⟩, ⟨"token"⟩⟩

theorem Client.canAsk_sample : sample.CanAsk := ⟨⟨_, rfl⟩, rfl, rfl⟩

/-- The granting reply with a text as its body. -/
def granted (body : String) : Reply := ⟨200, none, Bytes.Utf8.encodeString body, true⟩

def missing : Reply := ⟨404, none, [], true⟩

theorem Client.answer_granted {α : Type} {c : Client} (h : c.CanAsk) {read : Tree → Option α}
    {body : String} {a : α}
    (hb : (Json.Parser.parse (String.ofList (Bytes.Utf8.decodeLenient
      (granted body).body))).bind read = some a)
    (segments : List String) (query : List (String × String)) :
    c.answer (Fetch.steady (granted body)) read segments query = .ok a :=
  answer_eq_ok_iff.2 ⟨h, granted body, rfl, rfl, rfl, hb⟩

variable {α : Type} {w : World} (hw : Fetch.IsDirect w) (c : Client) (read : Tree → Option α)
include hw

theorem Client.result_get (endpoint : Url) (query : List (String × String)) :
    ((c.get read endpoint query).run w).result = c.answerAt w read endpoint query := by
  rw [get, answerAt]
  simp only [result_bind, result_notify]
  cases endpoint.host? with
  | none => rfl
  | some host =>
    simp only [result_bind, Fetch.result_fetch hw, run_ofResult]
    cases Fetch.replyIn w endpoint.print (c.request endpoint query) <;> rfl

theorem Client.requests_get {segments : List String} {endpoint : Url} (h : c.CanAsk)
    (he : c.endpoint segments = .ok endpoint) (query : List (String × String)) :
    ((c.get read endpoint query).run w).requests = w.received [c.requestFor segments query] := by
  obtain ⟨-, -, hs, hh⟩ := endpoint_eq_ok he
  obtain ⟨host, hb⟩ := Option.isSome_iff_exists.1 h.host
  rw [get]
  simp only [requests_bind, result_notify, requests_notify, hh, hb, Fetch.requests_fetch hw,
    url_request, hs, h.scheme, requestFor_eq he, run_ofResult, requests_nil, if_true]
  cases ((Fetch.fetch endpoint.print Fetch.maxRedirects
    (c.request endpoint query)).run w).result <;> simp

theorem Client.requests_get_of_not_canAsk {segments : List String} {endpoint : Url}
    (h : ¬ c.CanAsk) (he : c.endpoint segments = .ok endpoint) (query : List (String × String)) :
    ((c.get read endpoint query).run w).requests = [] := by
  obtain ⟨-, hp, hs, hh⟩ := endpoint_eq_ok he
  rw [get]
  simp only [requests_bind, result_notify, requests_notify, List.nil_append]
  cases hhost : endpoint.host? with
  | none => rfl
  | some host =>
    have hscheme : ¬ Fetch.isSendable (c.request endpoint query).url.scheme = true := fun hsend =>
      h ⟨hp, by rw [← hh, hhost, Option.isSome_some], by rwa [url_request, hs] at hsend⟩
    simp only [requests_bind, Fetch.requests_fetch hw, if_neg hscheme, List.nil_append,
      run_ofResult, requests_nil]
    cases ((Fetch.fetch endpoint.print Fetch.maxRedirects
      (c.request endpoint query)).run w).result <;> rfl

/-- Asking for a resource ends with the answer for it. -/
theorem Client.result_ask (segments : List String) (query : List (String × String)) :
    ((do let endpoint ← ofResult (c.endpoint segments); c.get read endpoint query).run w).result =
      c.answer w read segments query := by
  simp only [result_bind, run_ofResult, answer]
  cases c.endpoint segments with
  | error e => rfl
  | ok endpoint => exact result_get hw c read endpoint query

theorem Client.requests_ask (h : c.CanAsk) (segments : List String)
    (query : List (String × String)) :
    ((do let endpoint ← ofResult (c.endpoint segments); c.get read endpoint query).run w).requests =
      w.received [c.requestFor segments query] := by
  obtain ⟨endpoint, he⟩ := h.endpoint segments
  simp only [requests_bind, run_ofResult, requests_nil, he]
  exact requests_get hw c read h he query

end ReleaseBulletin.Forge
