import Mathlib.Data.List.Basic
import Mathlib.Data.Option.Basic
import ReleaseBulletin.Forge.Resource
import ReleaseBulletin.Proofs.Http.Fetch
import ReleaseBulletin.Proofs.Session.Agreement

/-!
Answers that list the labels of a change request in another order, or some of them more or less
often. All that is asked for is read from them alike; a change request is the same but for its list
of labels, which has the same names.
-/
namespace ReleaseBulletin.Forge
open Document Document.Record Http Payload Session

/-- Two lists of documents of labels that name the same labels. -/
def SameLabels (items items' : List Tree) : Prop :=
  ∃ names names', items.mapM label? = some names ∧ items'.mapM label? = some names' ∧
    ∀ a, a ∈ names ↔ a ∈ names'

theorem mem_of_mapM_eq_some {α β : Type} {f : α → Option β} {xs : List α} {ys : List β}
    (h : xs.mapM f = some ys) (b : β) : b ∈ ys ↔ ∃ a ∈ xs, f a = some b := by
  induction xs generalizing ys with
  | nil =>
    obtain rfl : [] = ys := by simpa using h
    simp
  | cons x xs ih =>
    simp only [List.mapM_cons, Option.bind_eq_bind, Option.bind_eq_some_iff, Option.pure_def,
      Option.some.injEq] at h
    obtain ⟨y, hy, rest, hrest, rfl⟩ := h
    simp [ih hrest, hy, eq_comm]

/-- Documents of labels in another order or number. -/
theorem SameLabels.of_mem_iff {items items' : List Tree} {names names' : List String}
    (hnames : items.mapM label? = some names) (hnames' : items'.mapM label? = some names')
    (h : ∀ t, t ∈ items ↔ t ∈ items') : SameLabels items items' := by
  refine ⟨names, names', hnames, hnames', fun a => ?_⟩
  rw [mem_of_mapM_eq_some hnames, mem_of_mapM_eq_some hnames']
  simp only [h]

/-- Two documents that are the same but for the labels they list, which have the same names. A
document is a table or the list of its fields. -/
inductive Relisted : Tree → Tree → Prop
  | table (before after : List (Option String × Tree)) {items items' : List Tree}
      (labels : SameLabels items items') :
      Relisted (.table (before ++ (some "labels", .list items) :: after))
        (.table (before ++ (some "labels", .list items') :: after))
  | list (number title url mergedAt : Tree) {items items' : List Tree}
      (labels : SameLabels items items') :
      Relisted (.list [number, title, url, mergedAt, .list items])
        (.list [number, title, url, mergedAt, .list items'])

/-- Two change requests that are the same but for the order and repetition of their labels. -/
structure SameButLabels (p p' : PullRequest) : Prop where
  number : p.number = p'.number
  title : p.title = p'.title
  url : p.url = p'.url
  mergedAt : p.mergedAt = p'.mergedAt
  labels : ∀ a, a ∈ p.labels ↔ a ∈ p'.labels

theorem SameButLabels.refl (p : PullRequest) : SameButLabels p p :=
  ⟨rfl, rfl, rfl, rfl, fun _ => .rfl⟩

section Readers

variable {t t' : Tree}

theorem single?_of_ne (before after : List (Option String × Tree)) (t t' : Tree) {key : String}
    (h : key ≠ "labels") :
    single? (before ++ (some "labels", t) :: after) key =
      single? (before ++ (some "labels", t') :: after) key := by
  have hkey : (some "labels" == some key) = false := by simpa using h.symm
  simp only [single?, List.filter_append, List.filter_cons, hkey, Bool.false_eq_true, if_false]

/-- A table has its labels from the one member with their key, or, if that key is repeated, from
none. -/
theorem single?_labels (before after : List (Option String × Tree)) :
    (∀ t, single? (before ++ (some "labels", t) :: after) "labels" = some (some t)) ∨
      ∀ t, single? (before ++ (some "labels", t) :: after) "labels" = none := by
  have hfilter : ∀ t, (before ++ (some "labels", t) :: after).filter (·.1 == some "labels") =
      before.filter (·.1 == some "labels") ++
        (some "labels", t) :: after.filter (·.1 == some "labels") := fun t => by
    rw [List.filter_append, List.filter_cons_of_pos (by rfl)]
  simp only [single?, hfilter]
  generalize before.filter (·.1 == some "labels") = earlier
  generalize after.filter (·.1 == some "labels") = later
  cases earlier with
  | nil =>
    cases later with
    | nil => exact .inl fun t => rfl
    | cons m ms => exact .inr fun t => rfl
  | cons m ms => exact .inr fun t => by cases ms <;> rfl

/-- The other fields of a table are read from other members, or some of them cannot be read. -/
theorem mapM_single?_cases (before after : List (Option String × Tree)) {names : List String}
    (h : "labels" ∉ names) :
    (∃ fields, fields.length = names.length ∧
      ∀ t, names.mapM (single? (before ++ (some "labels", t) :: after)) = some fields) ∨
      ∀ t, names.mapM (single? (before ++ (some "labels", t) :: after)) = none := by
  induction names with
  | nil => exact .inl ⟨[], rfl, fun t => rfl⟩
  | cons name names ih =>
    rw [List.mem_cons, not_or] at h
    have hname := fun t => single?_of_ne before after t .null (Ne.symm h.1)
    simp only [List.mapM_cons, hname]
    cases single? (before ++ (some "labels", .null) :: after) name with
    | none => exact .inr fun t => rfl
    | some field =>
      rcases ih h.2 with ⟨fields, hlength, hfields⟩ | hnone
      · refine .inl ⟨field :: fields, congrArg (· + 1) hlength, fun t => ?_⟩
        rw [hfields]
        rfl
      · refine .inr fun t => ?_
        rw [hnone]
        rfl

/-- A record without labels and with fewer fields than a change request is read alike. -/
theorem Relisted.fields?_eq (h : Relisted t t') {names : List String} (hlabels : "labels" ∉ names)
    (hlength : names.length < 5) : fields? .refused names t = fields? .refused names t' := by
  cases h with
  | table before after labels =>
    simp only [fields?, List.all_append, List.all_cons]
    rcases mapM_single?_cases before after hlabels with ⟨fields, -, hfields⟩ | hnone
    · rw [hfields, hfields]
    · rw [hnone, hnone]
  | list number title url mergedAt labels => simp [fields?, hlength]

/-- The fields of a table with labels, or none if some of them cannot be read. -/
theorem fields?_table_cases (before after : List (Option String × Tree)) {names : List String}
    (h : "labels" ∉ names) :
    (∃ fields, fields.length = names.length ∧
      ∀ t, fields? .refused (names ++ ["labels"])
        (.table (before ++ (some "labels", t) :: after)) = some (fields ++ [some t])) ∨
      ∀ t, fields? .refused (names ++ ["labels"])
        (.table (before ++ (some "labels", t) :: after)) = none := by
  simp only [fields?, List.all_append, List.all_cons, List.mapM_append, List.mapM_cons,
    List.mapM_nil]
  split
  · rcases mapM_single?_cases before after h with ⟨fields, hlength, hfields⟩ | hnone
    · rcases single?_labels before after with hone | hrepeated
      · refine .inl ⟨fields, hlength, fun t => ?_⟩
        rw [hfields, hone]
        rfl
      · refine .inr fun t => ?_
        rw [hfields, hrepeated]
        rfl
    · refine .inr fun t => ?_
      rw [hnone]
      rfl
  · exact .inr fun t => rfl

theorem Relisted.release?_eq (h : Relisted t t') : release? t = release? t' := by
  rw [release?, release?, h.fields?_eq (by decide) (by decide)]

theorem Relisted.comparison?_eq (h : Relisted t t') : comparison? t = comparison? t' := by
  rw [comparison?, comparison?, h.fields?_eq (by decide) (by decide)]

theorem Relisted.contents?_eq (h : Relisted t t') :
    FileContents.ofTree? t = FileContents.ofTree? t' := by
  rw [FileContents.ofTree?, FileContents.ofTree?, h.fields?_eq (by decide) (by decide)]

/-- The fields of a change request with the given list of labels. -/
theorem pullRequest?_rel_of_fields {number title url mergedAt : Option Tree}
    {items items' : List Tree} (h : SameLabels items items')
    (ht : fields? .refused ["number", "title", "html_url", "merged_at", "labels"] t =
      some [number, title, url, mergedAt, some (.list items)])
    (ht' : fields? .refused ["number", "title", "html_url", "merged_at", "labels"] t' =
      some [number, title, url, mergedAt, some (.list items')]) :
    Option.Rel SameButLabels (pullRequest? t) (pullRequest? t') := by
  obtain ⟨names, names', hnames, hnames', hmem⟩ := h
  have hlist : orElse [] (·.listOf? label?) (some (.list items)) = some names := hnames
  have hlist' : orElse [] (·.listOf? label?) (some (.list items')) = some names' := hnames'
  rw [pullRequest?, pullRequest?, ht, ht']
  dsimp only
  rw [hlist, hlist']
  cases required (·.natBelow? numberLimit) number with
  | none => exact .none
  | some n =>
    cases required Tree.text? title with
    | none => exact .none
    | some s =>
      cases required Tree.text? url with
      | none => exact .none
      | some u =>
        cases orElse none (·.optional? Tree.text?) mergedAt with
        | none => exact .none
        | some m => exact .some ⟨rfl, rfl, rfl, rfl, hmem⟩

theorem Relisted.pullRequest?_rel (h : Relisted t t') :
    Option.Rel SameButLabels (pullRequest? t) (pullRequest? t') := by
  cases h with
  | table before after labels =>
    have hnames : "labels" ∉ ["number", "title", "html_url", "merged_at"] := by decide
    rcases fields?_table_cases before after hnames with ⟨fields, hlength, hfields⟩ | hnone
    · obtain ⟨number, title, url, mergedAt, rfl⟩ := List.length_eq_four.1 hlength
      exact pullRequest?_rel_of_fields labels (hfields _) (hfields _)
    · have hread : ∀ items, pullRequest?
          (.table (before ++ (some "labels", .list items) :: after)) = none := fun items => by
        have hfields := hnone (.list items)
        simp only [List.cons_append, List.nil_append] at hfields
        rw [pullRequest?, hfields]
      rw [hread, hread]
      exact .none
  | list number title url mergedAt labels => exact pullRequest?_rel_of_fields labels rfl rfl

end Readers

/-- The document in the body of an answer. -/
def documentOf (body : Bytes) : Option Tree :=
  Json.Parser.parse (String.ofList (Bytes.Utf8.decodeLenient body))

/-- Two replies that are the same, or grant documents that differ in how they list labels. -/
inductive RelistedReply : Reply → Reply → Prop
  | same (reply : Reply) : RelistedReply reply reply
  | granted {reply : Reply} {body : Bytes} {t t' : Tree}
      (success : Client.isSuccess reply.status = true) (document : documentOf reply.body = some t)
      (document' : documentOf body = some t') (relisted : Relisted t t') :
      RelistedReply reply { reply with body := body }

inductive RelistedContact : Contact → Contact → Prop
  | unreachable : RelistedContact .unreachable .unreachable
  | silent : RelistedContact .silent .silent
  | answered {reply reply' : Reply} (relisted : RelistedReply reply reply') :
      RelistedContact (.answered reply) (.answered reply')

/-- Two worlds with the same files, in which requests have the same fate but for how the answers
list labels. -/
structure RelistedWorld (w w' : World) : Prop where
  readFile : w.readFile = w'.readFile
  fileExists : w.fileExists = w'.fileExists
  contact : ∀ r, RelistedContact (w.contact r) (w'.contact r)

theorem RelistedContact.refl (x : Contact) : RelistedContact x x := by
  cases x with
  | unreachable => exact .unreachable
  | silent => exact .silent
  | answered reply => exact .answered (.same reply)

theorem RelistedWorld.refl (w : World) : RelistedWorld w w := ⟨rfl, rfl, fun _ => .refl _⟩

theorem RelistedWorld.replying {w w' : World} (h : RelistedWorld w w') (r : Request)
    {reply reply' : Reply} (hreply : RelistedReply reply reply') :
    RelistedWorld (Fetch.replying r reply w) (Fetch.replying r reply' w') where
  readFile := h.readFile
  fileExists := h.fileExists
  contact x := by
    simp only [Fetch.replying]
    split
    · exact .answered hreply
    · exact h.contact x

theorem RelistedContact.wasReceived_eq {x y : Contact} (h : RelistedContact x y) :
    x.wasReceived = y.wasReceived := by
  cases h <;> rfl

theorem RelistedReply.target?_eq {reply reply' : Reply} (h : RelistedReply reply reply')
    (url : Url) : Fetch.target? url reply = Fetch.target? url reply' := by
  cases h <;> rfl

theorem RelistedReply.complete_eq {reply reply' : Reply} (h : RelistedReply reply reply') :
    reply.complete = reply'.complete := by
  cases h <;> rfl

section Requests

variable {w w' : World} (h : RelistedWorld w w')
include h

theorem ask_agree (r : Request) : Agree w w' RelistedContact (ask r) (ask r) where
  events := by
    change (receipt r (w.contact r)) ++ [] = (receipt r (w'.contact r)) ++ []
    rw [receipt, receipt, (h.contact r).wasReceived_eq]
  result := .ok (h.contact r)

/-- Fetching agrees if it does after one more reply that points elsewhere. -/
theorem fetch_agree_of_next {endpoint : String} {n : Nat} {r : Request}
    (next : ∀ m target, n = m + 1 →
      Agree w w' RelistedReply (Fetch.fetch endpoint m (Fetch.redirected r target))
        (Fetch.fetch endpoint m (Fetch.redirected r target))) :
    Agree w w' RelistedReply (Fetch.fetch endpoint n r) (Fetch.fetch endpoint n r) := by
  rw [Fetch.fetch]
  split
  · refine (ask_agree h r).bind fun x y hxy => ?_
    cases hxy with
    | unreachable => exact .fail _ _
    | silent => exact .fail _ _
    | answered hreply =>
      dsimp only
      rw [hreply.target?_eq, hreply.complete_eq]
      split
      · split
        · exact .ofResult (.ok hreply)
        · exact .fail _ _
      · cases n with
        | zero => exact .fail _ _
        | succ m => exact next m _ rfl
  · exact .fail _ _

theorem fetch_agree (endpoint : String) (n : Nat) (r : Request) :
    Agree w w' RelistedReply (Fetch.fetch endpoint n r) (Fetch.fetch endpoint n r) := by
  induction n generalizing r with
  | zero => exact fetch_agree_of_next h nofun
  | succ n ih =>
    refine fetch_agree_of_next h fun m target hm => ?_
    obtain rfl : n = m := Nat.succ.inj hm
    exact ih _

end Requests

theorem interpret_alike {α : Type} {R : α → α → Prop} (hrefl : ∀ a, R a a)
    {read : Tree → Option α} (hread : ∀ t t', Relisted t t' → Option.Rel R (read t) (read t'))
    (endpoint : String) {reply reply' : Reply} (h : RelistedReply reply reply') :
    AlikeResults R (Client.interpret read endpoint reply)
      (Client.interpret read endpoint reply') := by
  cases h with
  | same =>
    cases Client.interpret read endpoint reply with
    | ok a => exact .ok (hrefl a)
    | error e => exact .error e
  | @granted body t t' success document document' relisted =>
    have hrel := hread t t' relisted
    rw [documentOf] at document document'
    simp only [Client.interpret, success, if_true, document, document', Option.bind_some]
    generalize read t = x at hrel
    generalize read t' = y at hrel
    cases hrel with
    | some values => exact .ok values
    | none => exact .error _

theorem get_agree {α : Type} {w w' : World} (h : RelistedWorld w w') {R : α → α → Prop}
    (hrefl : ∀ a, R a a) {read : Tree → Option α}
    (hread : ∀ t t', Relisted t t' → Option.Rel R (read t) (read t')) (c : Client) (endpoint : Url)
    (query : List (String × String)) :
    Agree w w' R (c.get read endpoint query) (c.get read endpoint query) := by
  refine (Agree.notify _ _).bind_eq fun _ => ?_
  cases endpoint.host? with
  | none => exact .fail _ _
  | some host =>
    exact (fetch_agree h _ _ _).bind fun _ _ hreply =>
      .ofResult (interpret_alike hrefl hread _ hreply)

/-- What is read from documents without their labels is the same. -/
theorem get_agree_of_eq {α : Type} {w w' : World} (h : RelistedWorld w w') {read : Tree → Option α}
    (hread : ∀ t t', Relisted t t' → read t = read t') (c : Client) (endpoint : Url)
    (query : List (String × String)) :
    Agree w w' Eq (c.get read endpoint query) (c.get read endpoint query) := by
  refine get_agree h (fun _ => rfl) (fun t t' ht => ?_) c endpoint query
  rw [hread t t' ht]
  cases read t' with
  | none => exact .none
  | some a => exact .some rfl

end ReleaseBulletin.Forge
