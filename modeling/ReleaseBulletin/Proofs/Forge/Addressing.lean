import ReleaseBulletin.Http.Wire
import ReleaseBulletin.Proofs.Forge.Comparison
import ReleaseBulletin.Proofs.Http.Redirects
import ReleaseBulletin.Proofs.Url.Written

/-!
Which places resources are asked for at. The place of a file names the repository and the file below
the base and has the reference in its query; the place of a page of a comparison names the
repository and the range. Nothing in a name, a path or a reference separates or ends its part.
-/
namespace ReleaseBulletin.Forge
open Document Http Http.Fetch Session Relation

section Log

variable {w : World} {c : Client}

theorem Client.leads_of_mem_get {α : Type} {read : Tree → Option α} {endpoint : Url}
    {query : List (String × String)} {x : Request}
    (hx : x ∈ ((c.get read endpoint query).run w).requests) :
    Leads w (c.request endpoint query) x := by
  rw [get] at hx
  simp only [requests_bind, requests_notify, result_notify, List.nil_append] at hx
  cases hhost : endpoint.host? with
  | none =>
    rw [hhost] at hx
    cases hx
  | some host =>
    simp only [hhost, requests_bind, run_ofResult, requests_nil] at hx
    rcases List.mem_append.1 hx with hfetch | hrest
    · exact leads_of_mem_fetch w _ hfetch
    · split at hrest <;> cases hrest

theorem Client.received_isPrefix_get {α : Type} (read : Tree → Option α)
    {segments : List String} {endpoint : Url} (h : c.CanAsk)
    (he : c.endpoint segments = .ok endpoint) (query : List (String × String)) :
    w.received [c.requestFor segments query] <+: ((c.get read endpoint query).run w).requests := by
  obtain ⟨-, -, hs, hh⟩ := endpoint_eq_ok he
  obtain ⟨host, hb⟩ := Option.isSome_iff_exists.1 h.host
  have hsendable : Fetch.isSendable (c.request endpoint query).url.scheme = true := by
    rw [url_request, hs, h.scheme]
  rw [get, requestFor_eq he]
  simp only [requests_bind, requests_notify, result_notify, List.nil_append, hh, hb]
  exact (received_isPrefix_fetch w _ _ hsendable).trans (List.prefix_append _ _)

namespace Resource
open Paging Payload

theorem leads_of_mem_collectPages {endpoint : Url} {total room page : Nat}
    {collected : List Commit} {x : Request}
    (hx : x ∈ ((collectPages c endpoint total room page collected).run w).requests) :
    ∃ k, Leads w (c.request endpoint (pageQuery k)) x := by
  induction room generalizing page collected with
  | zero =>
    rw [collectPages] at hx
    cases hx
  | succ room ih =>
    rw [collectPages] at hx
    split at hx
    · rw [requests_bind] at hx
      rcases List.mem_append.1 hx with hpage | hrest
      · exact ⟨page, Client.leads_of_mem_get hpage⟩
      · split at hrest
        · next next _ =>
          cases hcommits : next.commits with
          | nil =>
            rw [hcommits] at hrest
            cases hrest
          | cons commit commits =>
            simp only [hcommits, requests_bind, requests_notify, result_notify,
              List.nil_append] at hrest
            exact ih hrest
        · cases hrest
    · cases hx

theorem requests_contents {repository path reference : String} {endpoint : Url}
    (he : c.endpoint (contentsSegments repository path) = .ok endpoint) :
    ((contents c repository path reference).run w).requests =
      ((c.get FileContents.ofTree? endpoint [("ref", reference)]).run w).requests := by
  rw [contents]
  simp only [requests_bind, run_ofResult, he, requests_nil, List.nil_append]

theorem requests_compare {repository base head : String} {endpoint : Url}
    (he : c.endpoint (compareSegments repository base head) = .ok endpoint) :
    ∃ rest, ((compare c repository base head).run w).requests =
        ((comparisonPage c endpoint 1).run w).requests ++ rest ∧
      ∀ x ∈ rest, ∃ k, Leads w (c.request endpoint (pageQuery k)) x := by
  cases h : ((comparisonPage c endpoint 1).run w).result with
  | error e =>
    refine ⟨[], ?_, by simp⟩
    rw [(compare_of_first_error he h).2, List.append_nil]
  | ok q =>
    exact ⟨_, (compare_of_first_ok he h).2, fun x hx => leads_of_mem_collectPages hx⟩

end Resource

end Log

/-- A request that goes to the server of the client's URL, for a place with the given names in its
path and the given pairs in its query. -/
structure Client.AsksFor (c : Client) (r : Request) (names : List String)
    (pairs : List (String × String)) : Prop where
  scheme : r.url.scheme = "http"
  server : Wire.hostText r.url = Wire.hostText c.base
  place : Url.Place.read? (Wire.place r.url) = some ⟨names, pairs⟩
  fragment : r.url.fragment = none

/-- A text whose parts between slashes can all be appended to a path. -/
structure IsNameable (s : String) : Prop extends Url.IsUnbroken s where
  components : ∀ name ∈ Path.components s, name ≠ "." ∧ name ≠ ".."

section Naming

variable {c : Client} {base : List String}

theorem place_withPairs {u : Url} (hquery : u.query = none) {pairs : List (String × String)}
    (hpairs : pairs ≠ []) :
    Wire.place (Url.Endpoint.withPairs u pairs) =
      u.path.text ++ '?' :: Url.Percent.formPairs pairs := by
  have hne : (Url.Percent.formPairs pairs).isEmpty = false := by
    simpa using Url.Percent.formPairs_ne_nil hpairs
  simp [Wire.place, Url.Endpoint.withPairs, hquery, hne, String.toList_ofList]

theorem hostText_withoutUser (u : Url) :
    Wire.hostText (Client.withoutUser u) = Wire.hostText u := by
  rw [Wire.hostText, Wire.hostText, Client.withoutUser]
  cases u.authority with
  | none => rfl
  | some a => rfl

theorem Client.asksFor_withPairs (u : Url) {names : List String} (hscheme : u.scheme = "http")
    (hserver : Wire.hostText u = Wire.hostText c.base)
    (hpath : u.path = .segments (names.map Url.encodedName)) (hquery : u.query = none)
    (hfragment : u.fragment = none) (hnames : ∀ name ∈ names, Url.IsUnbroken name)
    (hne : names ≠ []) {pairs : List (String × String)} (hpairs : pairs ≠ [])
    (authorization : Option String) :
    c.AsksFor ⟨Url.Endpoint.withPairs u pairs, authorization⟩ names pairs := by
  refine ⟨hscheme, hserver, ?_, hfragment⟩
  rw [place_withPairs hquery hpairs, hpath]
  exact Url.Place.read?_text hnames hne hpairs

/-- What is asked for below a plain base. -/
theorem Client.asksFor_requestFor (hbase : c.base.IsPlainBase base) {first : String}
    {rest : List String} (hnames : ∀ name ∈ first :: rest, Url.IsName name) (hfirst : first ≠ "")
    {pairs : List (String × String)} (hpairs : pairs ≠ []) :
    c.AsksFor (c.requestFor (first :: rest) pairs) (base ++ first :: rest) pairs := by
  have hunbroken : ∀ name ∈ base ++ first :: rest, Url.IsUnbroken name := by
    intro name hname
    rcases List.mem_append.1 hname with hplain | happended
    · exact (hbase.plain name hplain).isUnbroken
    · exact (hnames name happended).toIsUnbroken
  have hne : base ++ first :: rest ≠ [] := by simp
  let u : Url := { c.base with
    path := .segments ((base ++ first :: rest).map Url.encodedName) }
  have hu : Url.Endpoint.below? c.base (first :: rest) = some u := hbase.below?_eq hnames hfirst
  rw [requestFor, urlFor, hu, Option.getD_some, request]
  split
  · exact asksFor_withPairs u hbase.scheme rfl rfl hbase.query hbase.fragment hunbroken hne hpairs _
  · exact asksFor_withPairs (withoutUser u) hbase.scheme (hostText_withoutUser u) rfl hbase.query
      hbase.fragment hunbroken hne hpairs _

theorem IsNameable.isName {s : String} (h : IsNameable s) {name : String}
    (hname : name ∈ Path.components s) : Url.IsName name := by
  have hsub : ∀ c ∈ name.toList, c ∈ s.toList := by
    intro c hc
    obtain ⟨part, hpart, rfl⟩ := List.mem_map.1 hname
    rw [String.toList_ofList] at hc
    exact Text.Affix.mem_of_mem_split hpart hc
  obtain ⟨hdot, hdots⟩ := h.components name hname
  exact ⟨h.of_mem hsub, hdot, hdots⟩

theorem isUnbroken_shortName {reference : String} (h : Url.IsUnbroken reference) :
    Url.IsUnbroken (Reference.shortName reference) := by
  have hafter : ∀ lead name, Text.Affix.after? lead reference.toList = some name →
      Url.IsUnbroken (String.ofList name) := by
    intro lead name hname
    refine h.of_mem fun c hc => ?_
    rw [String.toList_ofList] at hc
    rw [Text.Affix.after?_eq_some_iff.1 hname]
    exact List.mem_append_right lead hc
  rw [Reference.shortName]
  split
  · next name hname => exact hafter _ name hname
  · split
    · next name hname => exact hafter _ name hname
    · exact h

/-- The range between two references is one name. -/
theorem isName_range {a b : String} (ha : Url.IsUnbroken a) (hb : Url.IsUnbroken b) :
    Url.IsName (Reference.shortName a ++ "..." ++ Reference.shortName b) := by
  have hdots : Url.IsUnbroken "..." := ⟨by decide, by decide, by decide⟩
  have hlong : ∀ s : String, s.toList.length < 3 →
      Reference.shortName a ++ "..." ++ Reference.shortName b ≠ s := by
    rintro s hs rfl
    simp at hs
    omega
  exact ⟨((isUnbroken_shortName ha).append hdots).append (isUnbroken_shortName hb),
    hlong "." (by decide), hlong ".." (by decide)⟩

/-- What is asked for as a resource of a repository. -/
theorem Client.asksFor_segments (hbase : c.base.IsPlainBase base) {repository : String}
    (hrepository : IsNameable repository) {resource : List String}
    (hresource : ∀ name ∈ resource, Url.IsName name) {pairs : List (String × String)}
    (hpairs : pairs ≠ []) :
    c.AsksFor (c.requestFor (Resource.segments repository resource) pairs)
      (base ++ "repos" :: Path.components repository ++ resource) pairs := by
  have hword : Url.IsName "repos" := Url.IsPlainName.isName (.ofAll (by decide) (by decide))
  have hnames : ∀ name ∈ "repos" :: (Path.components repository ++ resource), Url.IsName name := by
    intro name hname
    rcases List.mem_cons.1 hname with rfl | hname
    · exact hword
    · rcases List.mem_append.1 hname with hcomponent | hrest
      · exact hrepository.isName hcomponent
      · exact hresource name hrest
  rw [List.append_assoc]
  exact asksFor_requestFor hbase hnames (by decide) hpairs

theorem asksFor_contents (hbase : c.base.IsPlainBase base) {repository path : String}
    (hrepository : IsNameable repository) (hpath : IsNameable path) (reference : String) :
    c.AsksFor (c.requestFor (Resource.contentsSegments repository path) [("ref", reference)])
      (base ++ "repos" :: Path.components repository ++
        "contents" :: (Path.components path).filter (· ≠ "")) [("ref", reference)] := by
  have hword : Url.IsName "contents" := Url.IsPlainName.isName (.ofAll (by decide) (by decide))
  refine Client.asksFor_segments hbase hrepository (fun name hname => ?_) (List.cons_ne_nil _ _)
  rcases List.mem_cons.1 hname with rfl | hname
  · exact hword
  · exact hpath.isName (List.mem_filter.1 hname).1

theorem asksFor_page (hbase : c.base.IsPlainBase base) {repository a b : String}
    (hrepository : IsNameable repository) (ha : Url.IsUnbroken a) (hb : Url.IsUnbroken b)
    (k : Nat) :
    c.AsksFor (Resource.pageRequest c repository a b k)
      (base ++ "repos" :: Path.components repository ++
        ["compare", Reference.shortName a ++ "..." ++ Reference.shortName b])
      (Paging.pageQuery k) := by
  have hword : Url.IsName "compare" := Url.IsPlainName.isName (.ofAll (by decide) (by decide))
  refine Client.asksFor_segments hbase hrepository (fun name hname => ?_) (List.cons_ne_nil _ _)
  rcases List.mem_cons.1 hname with rfl | hname
  · exact hword
  · exact List.mem_singleton.1 hname ▸ isName_range ha hb

end Naming

namespace Resource
open Paging Payload

/-- Below a plain base, what is asked for has exactly the parts that were given: the file or the
range in its path, and the reference or the page in its query. Whatever else is sent is where
replies point to. A web address that is written with plain names has a plain base. -/
theorem requests_name_resource {url : String} {token : Environment.Token} {c : Client}
    (hconnect : Client.connect url token = .ok c) :
    (∀ base, Url.IsWrittenBase url.toList base → c.base.IsPlainBase base) ∧
    ∀ base, c.base.IsPlainBase base → ∀ w : World,
      (∀ repository path reference, IsNameable repository → IsNameable path →
        let o := (contents c repository path reference).run w
        ∃ asked,
          c.AsksFor asked
            (base ++ "repos" :: Path.components repository ++
              "contents" :: (Path.components path).filter (· ≠ "")) [("ref", reference)] ∧
          w.received [asked] <+: o.requests ∧ (∀ r ∈ o.requests, Leads w asked r) ∧
          (IsDirect w → o.requests = w.received [asked])) ∧
      ∀ repository a b, IsNameable repository → Url.IsUnbroken a → Url.IsUnbroken b →
        let o := (compare c repository a b).run w
        ∃ asked : Nat → Request,
          (∀ k, c.AsksFor (asked k)
            (base ++ "repos" :: Path.components repository ++
              ["compare", Reference.shortName a ++ "..." ++ Reference.shortName b])
            [("per_page", "100"), ("page", toString k)]) ∧
          w.received [asked 1] <+: o.requests ∧ (∀ r ∈ o.requests, ∃ k, Leads w (asked k) r) ∧
          (IsDirect w → ∃ last, 1 ≤ last ∧
            o.requests =
              w.received ((List.range' 1 last).map fun k => asked (k % Width.count 32))) := by
  refine ⟨fun base h => Url.isPlainBase_of_read h (Client.read_of_connect hconnect), ?_⟩
  intro base hbase w
  have hask : c.CanAsk := Client.canAsk_of_connect hconnect hbase.scheme
  constructor
  · intro repository path reference hrepository hpath o
    obtain ⟨endpoint, he⟩ := hask.endpoint (contentsSegments repository path)
    refine ⟨_, asksFor_contents hbase hrepository hpath reference, ?_, ?_, fun hw => ?_⟩
    · exact requests_contents he ▸ Client.received_isPrefix_get _ hask he _
    · intro r hr
      rw [requests_contents he] at hr
      exact Client.requestFor_eq he _ ▸ Client.leads_of_mem_get hr
    · exact Client.requests_ask hw c _ hask _ _
  · intro repository a b hrepository ha hb o
    obtain ⟨endpoint, he⟩ := hask.endpoint (compareSegments repository a b)
    obtain ⟨rest, hrequests, hrest⟩ := requests_compare (w := w) he
    have hpage : ∀ k, pageRequest c repository a b k = c.request endpoint (pageQuery k) :=
      fun k => Client.requestFor_eq he (pageQuery k)
    refine ⟨_, asksFor_page hbase hrepository ha hb, ?_, fun r hr => ?_, fun hw => ?_⟩
    · have hfirst := Client.received_isPrefix_get (w := w) comparison? hask he (pageQuery 1)
      exact hrequests ▸ hfirst.trans (List.prefix_append _ _)
    · rw [hrequests] at hr
      simp only [hpage]
      rcases List.mem_append.1 hr with hfirst | hlater
      · exact ⟨1, Client.leads_of_mem_get hfirst⟩
      · exact hrest r hlater
    · obtain ⟨last, -, hlast, -, -, -, hall⟩ := compare_ends hw c repository a b
      exact ⟨last, hlast, hall hask⟩

/-- A file and a range whose names hold characters that mean something in a URL. -/
theorem requests_name_unusual :
    let url := "http://api.test/v3/"
    ∃ c : Client, Client.connect url ⟨"token"⟩ = .ok c ∧ Url.IsWrittenBase url.toList ["v3"] ∧
      (∃ asked,
        c.AsksFor asked ["v3", "repos", "o", "r s", "contents", "50%", "a?b"] [("ref", "x&y=z")] ∧
        ((contents c "o/r s" "/50%//a?b" "x&y=z").run (steady (granted "{}"))).requests =
          [asked]) ∧
      ∃ asked,
        c.AsksFor asked ["v3", "repos", "o", "r s", "compare", "v+1...a/b#"]
          [("per_page", "100"), ("page", "1")] ∧
        ((compare c "o/r s" "refs/tags/v+1" "a/b#").run (steady (granted "{}"))).requests =
          [asked] := by
  intro url
  let authority : Url.Authority := ⟨"", none, some (.name "api.test"), none⟩
  let c : Client := ⟨⟨"http", some authority, .segments ["v3", ""], none, none⟩, ⟨"token"⟩⟩
  let w : World := steady (granted "{}")
  have hconnect : Client.connect url ⟨"token"⟩ = .ok c := eq_ok_of_toOption (by decide +kernel)
  have hauthority : Url.IsAuthorityText "api.test".toList := by
    have hall : "api.test".toList.all (fun c => 0x20 < c.toNat && c ∉ ['/', '\\', '?', '#']) =
        true := by decide
    have hboth := fun c hc => (Bool.and_eq_true _ _).mp (List.all_eq_true.1 hall c hc)
    exact ⟨by decide, fun c hc => of_decide_eq_true (hboth c hc).1,
      fun c hc => of_decide_eq_true (hboth c hc).2⟩
  have hplain : ∀ name ∈ ["v3"], Url.IsPlainName name := by
    intro name hname
    exact List.mem_singleton.1 hname ▸ .ofAll (by decide) (by decide)
  have hwritten : Url.IsWrittenBase url.toList ["v3"] :=
    ⟨hplain, _, hauthority, ['/'], .inr rfl, by decide⟩
  have hdirect : IsDirect w := isDirect_steady (by decide)
  have hreceived : ∀ rs, w.received rs = rs := fun rs => w.received_eq_self fun _ _ => rfl
  have hrepository : IsNameable "o/r s" := ⟨⟨by decide, by decide, by decide⟩, by decide⟩
  have hpath : IsNameable "/50%//a?b" := ⟨⟨by decide, by decide, by decide⟩, by decide⟩
  obtain ⟨hbase, hnames⟩ := requests_name_resource hconnect
  obtain ⟨hcontents, hcompare⟩ := hnames ["v3"] (hbase ["v3"] hwritten) w
  obtain ⟨file, hfile, -, -, hone⟩ := hcontents "o/r s" "/50%//a?b" "x&y=z" hrepository hpath
  obtain ⟨page, hpage, -, -, hall⟩ := hcompare "o/r s" "refs/tags/v+1" "a/b#" hrepository
    ⟨by decide, by decide, by decide⟩ ⟨by decide, by decide, by decide⟩
  obtain ⟨last, -, hpages⟩ := hall hdirect
  have hlast : last = 1 := by
    have hlength : ((compare c "o/r s" "refs/tags/v+1" "a/b#").run w).requests.length = 1 := by
      decide +kernel
    rw [hpages, hreceived, List.length_map, List.length_range'] at hlength
    exact hlength
  subst hlast
  refine ⟨c, hconnect, hwritten, ⟨file, hfile, (hone hdirect).trans (hreceived _)⟩, ?_⟩
  exact ⟨page 1, hpage 1, hpages.trans (hreceived _)⟩

end Resource

end ReleaseBulletin.Forge
