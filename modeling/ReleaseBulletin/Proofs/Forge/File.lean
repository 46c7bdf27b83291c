import ReleaseBulletin.Json.Printer
import ReleaseBulletin.Proofs.Bytes.Base64
import ReleaseBulletin.Proofs.Bytes.Utf8
import ReleaseBulletin.Proofs.Forge.Answer
import ReleaseBulletin.Proofs.Json.Written

/-!
Files that the forge sends as wrapped base64 in a JSON object. The text of the file is recovered
from the bytes of the answer, whatever wraps the payload and whatever else the object says.
-/
namespace ReleaseBulletin.Forge
open Document Bytes Http Session Text.Blank

namespace FileContents

/-- Symbols with white space anywhere among them. -/
inductive Wrapped : List Char → List Char → Prop
  | nil : Wrapped [] []
  | blank {c : Char} {symbols cs : List Char} (hc : isAsciiBlank c = true)
      (h : Wrapped symbols cs) : Wrapped symbols (c :: cs)
  | symbol {s : Char} {symbols cs : List Char} (h : Wrapped symbols cs) :
      Wrapped (s :: symbols) (s :: cs)

theorem Wrapped.filter {symbols cs : List Char} (h : Wrapped symbols cs)
    (hsymbols : ∀ s ∈ symbols, isAsciiBlank s = false) :
    cs.filter (!isAsciiBlank ·) = symbols := by
  induction h with
  | nil => rfl
  | blank hc h ih => rw [List.filter_cons_of_neg (by simp [hc]), ih hsymbols]
  | symbol h ih =>
    have hs := hsymbols _ List.mem_cons_self
    rw [List.filter_cons_of_pos (by simp [hs]), ih fun s hs => hsymbols s (.tail _ hs)]

theorem Wrapped.self (symbols : List Char) : Wrapped symbols symbols := by
  induction symbols with
  | nil => exact .nil
  | cons s symbols ih => exact .symbol ih

/-- The padded base64 of a text, as characters. -/
def payload (s : String) : List Char :=
  (Base64.encode (Utf8.encodeString s)).map fun b => Char.ofNat b.toNat

theorem not_blank_of_mem_payload {s : String} : ∀ c ∈ payload s, isAsciiBlank c = false := by
  intro c hc
  obtain ⟨b, hb, rfl⟩ := List.mem_map.1 hc
  obtain ⟨hlow, hhigh⟩ := Base64.visible_of_mem_encode b hb
  have hval := Utf8.toNat_ofNat_of_ascii (show b.toNat < 128 by omega)
  have hne : ∀ x : Char, x.toNat ≤ 32 → Char.ofNat b.toNat ≠ x := by
    rintro x hx rfl
    change (Char.ofNat b.toNat).val.toNat ≤ 32 at hx
    omega
  simp [isAsciiBlank, hne]

/-- The symbols of a wrapped payload are the bytes that encode the text. -/
theorem symbols_of_wrapped {f : FileContents} {s : String}
    (h : Wrapped (payload s) f.content.toList) :
    f.symbols = Base64.encode (Utf8.encodeString s) := by
  rw [symbols, h.filter not_blank_of_mem_payload, payload, Utf8.encode_ascii]
  intro b hb
  have := Base64.visible_of_mem_encode b hb
  omega

/-- A text that was sent as wrapped base64 is recovered. -/
theorem decodeText_of_wrapped {f : FileContents} {s : String} (hencoding : f.encoding = "base64")
    (h : Wrapped (payload s) f.content.toList) : f.decodeText = .ok s := by
  have hdecode : f.decode = .ok (Utf8.encodeString s) := by
    rw [decode, if_neg (not_not_intro hencoding), symbols_of_wrapped h, Base64.decode_encode]
  rw [decodeText, hdecode]
  dsimp only
  rw [Utf8.decodeString_encodeString]

/-- Members among which each field of a file stands once, as a text. -/
structure AreIn (f : FileContents) (members : List (Option String × Tree)) : Prop where
  named : members.all (·.1.isSome) = true
  path : members.filter (·.1 == some "path") = [(some "path", .text f.path)]
  content : members.filter (·.1 == some "content") = [(some "content", .text f.content)]
  encoding : members.filter (·.1 == some "encoding") = [(some "encoding", .text f.encoding)]

theorem AreIn.ofTree? {f : FileContents} {members : List (Option String × Tree)}
    (h : f.AreIn members) : FileContents.ofTree? (.table members) = some f := by
  have hfields : Record.fields? .refused ["path", "content", "encoding"] (.table members) =
      some [some (.text f.path), some (.text f.content), some (.text f.encoding)] := by
    simp [Record.fields?, h.named, Record.single?, h.path, h.content, h.encoding]
  rw [FileContents.ofTree?, hfields]
  rfl

/-- A body whose text is a JSON object with the fields of a file. -/
def IsSentAs (f : FileContents) (body : Bytes) : Prop :=
  ∃ members, f.AreIn members ∧
    Json.Parser.parse (String.ofList (Utf8.decodeLenient body)) = some (.table members)

/-- The members that a file is written as. -/
def written (f : FileContents) : List (Option String × Tree) :=
  Json.Parser.textMembers [("path", f.path), ("content", f.content), ("encoding", f.encoding)]

theorem areIn_written (f : FileContents) : f.AreIn f.written := ⟨rfl, rfl, rfl, rfl⟩

theorem isSentAs_granted (f : FileContents) :
    f.IsSentAs (granted (Json.Printer.print (.table f.written))).body := by
  refine ⟨f.written, f.areIn_written, ?_⟩
  rw [granted, Utf8.encodeString, Utf8.decodeLenient_encode, String.ofList_toList]
  exact Json.Parser.parse_print (.of_members Json.Parser.isExact_of_mem_textMembers)

end FileContents

namespace Resource

/-- The file that a granting reply sends is what asking for its content ends with. -/
theorem result_contents {c : Client} (hc : c.CanAsk) {w : World}
    {repository path reference : String} {reply : Reply}
    (hreply : w.contact (c.requestFor (contentsSegments repository path) [("ref", reference)]) =
      .answered reply)
    (hstatus : reply.status = 200) (hcomplete : reply.complete = true) {f : FileContents}
    (hbody : f.IsSentAs reply.body) :
    ((contents c repository path reference).run w).result = .ok f := by
  obtain ⟨endpoint, he⟩ := hc.endpoint (contentsSegments repository path)
  obtain ⟨-, -, hscheme, hhost⟩ := Client.endpoint_eq_ok he
  obtain ⟨host, hb⟩ := Option.isSome_iff_exists.1 hc.host
  rw [Client.requestFor_eq he] at hreply
  have hsendable :
      Fetch.isSendable (c.request endpoint [("ref", reference)]).url.scheme = true := by
    rw [Client.url_request, hscheme, hc.scheme]
  have htarget : Fetch.target? (c.request endpoint [("ref", reference)]).url reply = none := by
    rw [Fetch.target?, hstatus]
    rfl
  obtain ⟨members, hin, hparse⟩ := hbody
  have hread : Client.interpret FileContents.ofTree? endpoint.print reply = .ok f := by
    rw [Client.interpret_eq_ok_iff, hparse, Option.bind_some]
    exact ⟨by rw [hstatus]; rfl, hin.ofTree?⟩
  rw [contents]
  simp only [result_bind, run_ofResult, he]
  rw [Client.get]
  simp only [result_bind, result_notify, hhost, hb, run_ofResult,
    Fetch.result_fetch_of_reply hsendable hreply htarget hcomplete, hread]

end Resource

end ReleaseBulletin.Forge
