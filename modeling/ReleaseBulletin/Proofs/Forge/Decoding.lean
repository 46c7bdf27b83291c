import ReleaseBulletin.Proofs.Bytes.Canonical
import ReleaseBulletin.Proofs.Forge.File

/-!
Which payloads are decoded: those that are the base64 of a byte string but for white space, and no
others. The text of a file is decoded if the bytes are those of a text.
-/
namespace ReleaseBulletin.Forge.FileContents
open Bytes Text.Blank

/-- The payload without the white space that wraps it. -/
def compact (f : FileContents) : List Char := f.content.toList.filter (!isAsciiBlank ·)

/-- The file with another payload. -/
def withContent (f : FileContents) (cs : List Char) : FileContents :=
  { f with content := String.ofList cs }

theorem compact_withContent (f : FileContents) (cs : List Char) :
    (f.withContent cs).compact = cs.filter (!isAsciiBlank ·) := by
  rw [compact, withContent, String.toList_ofList]

theorem symbols_eq_encode_iff {f : FileContents} {bs : Bytes} :
    f.symbols = Base64.encode bs ↔ Base64.IsText bs f.compact := by
  have htext : Utf8.encode (Base64.text bs) = Base64.encode bs :=
    Utf8.encode_ascii fun b hb => Nat.lt_succ_of_lt (Base64.visible_of_mem_encode b hb).2
  rw [Base64.isText_iff, ← htext]
  exact Utf8.encode_injective.eq_iff

theorem decode_eq_ok_iff {f : FileContents} {bs : Bytes} :
    f.decode = .ok bs ↔ f.encoding = "base64" ∧ Base64.IsText bs f.compact := by
  rw [decode, ← symbols_eq_encode_iff, ← Base64.decode_eq_ok_iff]
  by_cases hencoding : f.encoding = "base64"
  · rw [if_neg (not_not_intro hencoding)]
    cases Base64.decode f.symbols <;> simp [hencoding]
  · rw [if_pos hencoding]
    simp [hencoding]

theorem decodeText_eq_ok_iff {f : FileContents} {s : String} :
    f.decodeText = .ok s ↔ f.decode = .ok (Utf8.encodeString s) := by
  rw [decodeText]
  cases f.decode with
  | error e => simp
  | ok bytes =>
    rw [Except.ok.injEq, ← Utf8.decodeString_eq_ok_iff]
    cases hs : Utf8.decodeString bytes <;> simp [hs]

theorem kind_of_decode {f : FileContents} {e : Failure} (h : f.decode = .error e) :
    e.kind = .parse := by
  rw [decode] at h
  split at h
  · cases h
    rfl
  · split at h
    · cases h
    · cases h
      rfl

theorem kind_of_decodeText {f : FileContents} {e : Failure} (h : f.decodeText = .error e) :
    e.kind = .parse := by
  rw [decodeText] at h
  split at h
  · next hdecode =>
    cases h
    exact kind_of_decode hdecode
  · split at h
    · cases h
    · cases h
      rfl

/-- What is decoded depends on the payload only for what is left without white space. -/
theorem decode_congr {f : FileContents} {cs cs' : List Char}
    (h : cs.filter (!isAsciiBlank ·) = cs'.filter (!isAsciiBlank ·)) :
    (f.withContent cs).decode = (f.withContent cs').decode := by
  have hsymbols : (f.withContent cs).symbols = (f.withContent cs').symbols :=
    congrArg Utf8.encode (by rw [← compact_withContent f, ← compact_withContent f] at h; exact h)
  rw [decode, decode, hsymbols]
  rfl

theorem not_blank_of_isText {bs : Bytes} {cs : List Char} (h : Base64.IsText bs cs) :
    ∀ c ∈ cs, isAsciiBlank c = false := by
  have halphabet : ('=' :: Base64.alphabet).all (!isAsciiBlank ·) = true := by decide
  intro c hc
  have hmem : c ∈ '=' :: Base64.alphabet := by
    rcases h.mem hc with hletter | rfl
    · exact List.mem_cons_of_mem _ hletter
    · exact List.mem_cons_self
  simpa using List.all_eq_true.1 halphabet c hmem

/-- A file is decoded exactly if its payload, without white space, is the base64 of the bytes, and
its text exactly if those are the bytes of the text; all else is a failure to parse. So white space
does not matter wherever it stands, and forms that only look like base64 are refused. -/
theorem decode_accepts_canonical_only (f : FileContents) :
    (∀ bs, f.decode = .ok bs ↔ f.encoding = "base64" ∧ Base64.IsText bs f.compact) ∧
      (∀ s, f.decodeText = .ok s ↔ f.decode = .ok (Utf8.encodeString s)) ∧
      (∀ e, f.decode = .error e ∨ f.decodeText = .error e → e.kind = .parse) ∧
      (∀ front back c, isAsciiBlank c = true →
        (f.withContent (front ++ c :: back)).decode = (f.withContent (front ++ back)).decode) ∧
      (∀ bs cs cs', f.encoding = "base64" → Base64.IsText bs cs → Wrapped cs cs' →
        (f.withContent cs').decode = .ok bs) ∧
      (Base64.IsLoose f.compact → ∃ e, f.decode = .error e ∧ e.kind = .parse) := by
  refine ⟨fun bs => decode_eq_ok_iff, fun s => decodeText_eq_ok_iff, ?_, ?_, ?_, ?_⟩
  · rintro e (h | h)
    · exact kind_of_decode h
    · exact kind_of_decodeText h
  · intro front back c hc
    refine decode_congr ?_
    rw [List.filter_append, List.filter_append, List.filter_cons_of_neg (by simpa using hc)]
  · intro bs cs cs' hencoding htext hwrapped
    refine decode_eq_ok_iff.2 ⟨hencoding, ?_⟩
    rw [compact_withContent, hwrapped.filter (not_blank_of_isText htext)]
    exact htext
  · intro hloose
    cases hdecode : f.decode with
    | ok bs => exact absurd (decode_eq_ok_iff.1 hdecode).2 (hloose.not_isText bs)
    | error e => exact ⟨e, rfl, kind_of_decode hdecode⟩

/-- A payload that is broken inside its padding, and one without padding. -/
theorem decode_broken_or_unpadded :
    let f : FileContents := ⟨"Cargo.lock", "aA=\n=", "base64"⟩
    let unpadded : FileContents := ⟨"Cargo.lock", "aA", "base64"⟩
    f.decode = .ok [104] ∧ f.decodeText = .ok "h" ∧
      (∃ e, unpadded.decode = .error e ∧ e.kind = .parse) := by
  intro f unpadded
  obtain ⟨-, htext, -, hblank, hwrapped, -⟩ := decode_accepts_canonical_only f
  obtain ⟨-, -, -, -, -, hloose⟩ := decode_accepts_canonical_only unpadded
  have hcanonical : Base64.IsText [104] ['a', 'A', '=', '='] := .one 104
  have hwhole : (f.withContent ['a', 'A', '=', '=']).decode = .ok [104] :=
    hwrapped [104] _ _ rfl hcanonical (.self _)
  have hbroken : f.decode = .ok [104] := (hblank ['a', 'A', '='] ['='] '\n' rfl).trans hwhole
  have hcompact : unpadded.compact = ['a', 'A'] := by decide
  have hshort : Base64.IsLoose ['a', 'A'] := .missing Nat.two_pos hcanonical
  exact ⟨hbroken, (htext "h").2 hbroken, hloose (hcompact ▸ hshort)⟩

end ReleaseBulletin.Forge.FileContents
