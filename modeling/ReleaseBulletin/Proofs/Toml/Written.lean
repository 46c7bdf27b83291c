import Mathlib.Tactic.SplitIfs
import ReleaseBulletin.Toml.Reader

/-!
Lines of TOML that were written are read back: heads of tables, and pairs of a key and a value. Keys
are bare or quoted.
-/
namespace ReleaseBulletin.Toml
open Document

namespace Quoted
open Text.Radix

section Scan

variable {cs s rest : List Char} (h : scanBasic cs = some (s, rest))
include h

theorem scanBasic_short {x c : Char} (hx : short? x = some c) :
    scanBasic ('\\' :: x :: cs) = some (c :: s, rest) := by
  have hu : x ≠ 'u' := by
    rintro rfl
    cases hx
  have hU : x ≠ 'U' := by
    rintro rfl
    cases hx
  rw [scanBasic.eq_def]
  split
  · cases ‹_›
  · next he => cases (List.cons.inj he).1
  · next he => exact absurd (List.cons.inj (List.cons.inj he).2).1 hu
  · next he => exact absurd (List.cons.inj (List.cons.inj he).2).1 hU
  · next he =>
    obtain ⟨rfl, rfl⟩ := List.cons.inj (List.cons.inj he).2
    rw [hx, h, cons?]
  · next hshort he =>
    exact (hshort x cs (List.cons.inj he).1.symm (List.cons.inj he).2.symm).elim

theorem scanBasic_coded {a b c d x : Char} (hx : coded? [a, b, c, d] = some x) :
    scanBasic ('\\' :: 'u' :: a :: b :: c :: d :: cs) = some (x :: s, rest) := by
  rw [scanBasic, hx, h, cons?]

theorem scanBasic_plain {c : Char} (hquote : c ≠ '"') (hslash : c ≠ '\\')
    (htext : isTextChar c = true) : scanBasic (c :: cs) = some (c :: s, rest) := by
  rw [scanBasic.eq_def]
  split
  · cases ‹_›
  · next he => exact absurd (List.cons.inj he).1 hquote
  · next he => exact absurd (List.cons.inj he).1 hslash
  · next he => exact absurd (List.cons.inj he).1 hslash
  · next he => exact absurd (List.cons.inj he).1 hslash
  · next he =>
    obtain ⟨rfl, rfl⟩ := List.cons.inj he
    rw [if_pos (by simp [htext, hslash]), h, cons?]

end Scan

theorem coded?_control : ∀ n < 128,
    coded? ['0', '0', upperDigit (n / 16), upperDigit (n % 16)] = some (Char.ofNat n) := by decide

/-- A written character is scanned as that character. -/
theorem scanBasic_escape (c : Char) {cs s rest : List Char} (h : scanBasic cs = some (s, rest)) :
    scanBasic (escape c ++ cs) = some (c :: s, rest) := by
  unfold escape
  split_ifs with hquote hslash hcontrol
  · subst hquote
    exact scanBasic_short h rfl
  · subst hslash
    exact scanBasic_short h rfl
  · refine scanBasic_coded h ?_
    rw [coded?_control c.toNat (by omega), Char.ofNat_toNat]
  · refine scanBasic_plain h hquote hslash ?_
    simp only [isTextChar, Bool.or_eq_true, Bool.and_eq_true, decide_eq_true_eq, bne_iff_ne]
    omega

theorem scanBasic_quote (cs rest : List Char) :
    scanBasic (cs.flatMap escape ++ '"' :: rest) = some (cs, rest) := by
  induction cs with
  | nil => rfl
  | cons c cs ih => rw [List.flatMap_cons, List.append_assoc, scanBasic_escape c ih]

/-- A written character does not start with a quote. -/
theorem head?_escape (c : Char) (cs : List Char) : (escape c ++ cs).head? ≠ some '"' := by
  unfold escape
  split_ifs with hquote
  · simp
  · simp
  · simp
  · simpa using hquote

theorem scan_quote (cs : List Char) {rest : List Char} (h : rest.head? ≠ some '"') :
    scan (quote cs ++ rest) = some (cs, rest) := by
  have hstart : quote cs ++ rest = '"' :: (cs.flatMap escape ++ '"' :: rest) := by
    simp [quote]
  rw [hstart, scan.eq_def]
  split
  · next he =>
    -- Two quotes after the first one would be the end of an empty text and the start of the rest.
    have htail := (List.cons.inj he).2
    cases cs with
    | nil =>
      rw [List.flatMap_nil, List.nil_append] at htail
      rw [(List.cons.inj htail).2] at h
      exact absurd rfl h
    | cons c cs =>
      have hhead := head?_escape c (cs.flatMap escape ++ '"' :: rest)
      rw [← List.append_assoc, ← List.flatMap_cons, htail] at hhead
      exact absurd rfl hhead
  · next he =>
    rw [← (List.cons.inj he).2]
    exact scanBasic_quote cs rest
  · next he => cases (List.cons.inj he).1
  · next he => cases (List.cons.inj he).1
  · next he _ _ => exact (he _ rfl).elim

/-- Texts without quotes, backslashes and controls are quoted as they are. -/
theorem quote_of_plain {cs : List Char}
    (h : ∀ c ∈ cs, c ≠ '"' ∧ c ≠ '\\' ∧ 0x20 ≤ c.toNat ∧ c.toNat ≠ 0x7F) :
    quote cs = '"' :: cs ++ ['"'] := by
  have hescape : ∀ c ∈ cs, escape c = [c] := by
    intro c hc
    obtain ⟨hquote, hslash, hlow, hdelete⟩ := h c hc
    rw [escape, if_neg hquote, if_neg hslash, if_neg (by omega)]
  rw [quote, List.flatMap_def, List.map_congr_left hescape, ← List.flatMap_def,
    List.flatMap_singleton']

end Quoted

namespace Reader

theorem skip_of_not_space {c : Char} (h : Quoted.isSpace c = false) (cs : List Char) :
    skip (c :: cs) = c :: cs := by
  rw [skip, List.dropWhile_cons, h]
  rfl

theorem unifyLineEnds_of_not_mem {cs : List Char} (h : '\r' ∉ cs) : unifyLineEnds cs = some cs := by
  induction cs with
  | nil => rfl
  | cons c cs ih =>
    have hc : c ≠ '\r' := fun he => h (he ▸ List.mem_cons_self)
    rw [unifyLineEnds.eq_def]
    split
    · cases ‹_›
    · next he => exact absurd (List.cons.inj he).1 hc
    · next he =>
      obtain ⟨rfl, rfl⟩ := List.cons.inj he
      rw [if_neg hc, ih fun hm => h (List.mem_cons_of_mem c hm), Option.map_some]

/-- Characters that are taken off a text as a key up to the next significant character. -/
structure IsKey (k : List Char) (name : String) : Prop where
  starts : ∃ c cs, k = c :: cs ∧ ∀ d, isBareChar d = false → d ≠ '"' → c ≠ d
  part : ∀ d, isBareChar d = false → ∀ rest,
    keyPart (k ++ d :: rest) = some (name, skip (d :: rest))

section Bare

variable {k : List Char} (hne : k ≠ []) (hk : ∀ c ∈ k, isBareChar c = true)
include hne hk

/-- A bare key starts with none of the other characters. -/
theorem exists_bare : ∃ c cs, k = c :: cs ∧ ∀ d, isBareChar d = false → c ≠ d := by
  obtain ⟨c, cs, rfl⟩ := List.exists_cons_of_ne_nil hne
  have hc : isBareChar c = true := hk c List.mem_cons_self
  refine ⟨c, cs, rfl, fun d hd he => ?_⟩
  rw [he, hd] at hc
  cases hc

/-- A bare key is taken off a text up to the next significant character. -/
theorem keyPart_bare {d : Char} (hd : isBareChar d = false) (rest : List Char) :
    keyPart (k ++ d :: rest) = some (String.ofList k, skip (d :: rest)) := by
  obtain ⟨c, cs, hcs, hstart⟩ := exists_bare hne hk
  have hspace : Quoted.isSpace c = false := by
    simp [Quoted.isSpace, hstart ' ' (by decide), hstart '\t' (by decide)]
  have htake : (k ++ d :: rest).takeWhile isBareChar = k := by
    rw [List.takeWhile_append_of_pos hk, List.takeWhile_cons, hd]
    simp
  have hdrop : (k ++ d :: rest).dropWhile isBareChar = d :: rest := by
    rw [List.dropWhile_append_of_pos hk, List.dropWhile_cons, hd]
    simp
  have hskip : skip (k ++ d :: rest) = k ++ d :: rest := by
    rw [hcs, List.cons_append, skip_of_not_space hspace]
  rw [keyPart, hskip]
  split
  · next he =>
    rw [hcs, List.cons_append] at he
    exact absurd (List.cons.inj he).1 (hstart '"' (by decide))
  · next he =>
    rw [hcs, List.cons_append] at he
    exact absurd (List.cons.inj he).1 (hstart '\'' (by decide))
  · rw [htake, hdrop, hcs]

theorem isKey_bare : IsKey k (String.ofList k) where
  starts := by
    obtain ⟨c, cs, hcs, hstart⟩ := exists_bare hne hk
    exact ⟨c, cs, hcs, fun d hd _ => hstart d hd⟩
  part _ hd rest := keyPart_bare hne hk hd rest

end Bare

/-- Every text is a key when it is quoted. -/
theorem isKey_quote (s : List Char) : IsKey (Quoted.quote s) (String.ofList s) where
  starts := ⟨'"', s.flatMap Quoted.escape ++ ['"'], rfl, fun _ _ hd => hd.symm⟩
  part d _ rest := by
    have hstart : Quoted.quote s ++ d :: rest =
        '"' :: (s.flatMap Quoted.escape ++ '"' :: d :: rest) := by
      simp [Quoted.quote]
    rw [hstart, keyPart, skip_of_not_space (by decide)]
    simp only [Quoted.scanBasic_quote, Option.map_some]

section Line

variable {k : List Char} {name : String} (hk : IsKey k name)
include hk

theorem key_written (parts : Nat) {d e : Char} {rest after : List Char} (hd : isBareChar d = false)
    (hskip : skip (d :: rest) = e :: after) (he : e ≠ '.') :
    key (parts + 1) (k ++ d :: rest) = some ([], name, e :: after) := by
  rw [key, hk.part d hd, hskip]
  split
  · next h => cases h
  · next h =>
    simp only [Option.some.injEq, Prod.mk.injEq, List.cons.injEq] at h
    exact absurd h.2.1 he
  · next h =>
    simp only [Option.some.injEq, Prod.mk.injEq] at h
    rw [← h.1, ← h.2]

theorem assigned_written {v : Char} (hv : Quoted.isSpace v = false) (rest : List Char) :
    assigned (k ++ ' ' :: '=' :: ' ' :: v :: rest) = some ([], name, v :: rest) := by
  have hkey : key (depthLimit - 1) (k ++ ' ' :: '=' :: ' ' :: v :: rest) =
      some ([], name, '=' :: ' ' :: v :: rest) :=
    key_written hk (depthLimit - 2) (by decide) rfl (by decide)
  have hskip : skip (' ' :: v :: rest) = v :: rest := by
    rw [skip, List.dropWhile_cons]
    exact skip_of_not_space hv rest
  rw [assigned, hkey]
  simp only [hskip]

/-- A pair of a key and a value of which the text starts with the given character. -/
theorem statement_pair {v : Char} (hv : Quoted.isSpace v = false) {rest after : List Char}
    {t : Tree} (hvalue : value (2 * (v :: rest).length + 2) (depthLimit - 1) (v :: rest) =
      some (t, after)) :
    statement (k ++ ' ' :: '=' :: ' ' :: v :: rest) = some (.pair [] name t, after) := by
  obtain ⟨c, cs, hcs, hstart⟩ := hk.starts
  have hbracket : c ≠ '[' := hstart '[' (by decide) (by decide)
  have hassigned := assigned_written hk hv rest
  rw [hcs, List.cons_append] at hassigned ⊢
  rw [statement.eq_def]
  split
  · next he => exact absurd (List.cons.inj he).1 hbracket
  · next he => exact absurd (List.cons.inj he).1 hbracket
  · next he =>
    rw [hassigned]
    simp only [hvalue, Option.map_some]

/-- The head of a table. -/
theorem statement_header (rest : List Char) :
    statement ('[' :: (k ++ ']' :: rest)) = some (.header [] name, rest) := by
  obtain ⟨c, cs, hcs, hstart⟩ := hk.starts
  have hkey : key (depthLimit - 1) (k ++ ']' :: rest) = some ([], name, ']' :: rest) :=
    key_written hk (depthLimit - 2) (by decide) rfl (by decide)
  rw [statement.eq_def]
  split
  · next he =>
    rw [hcs, List.cons_append] at he
    exact absurd (List.cons.inj (List.cons.inj he).2).1 (hstart '[' (by decide) (by decide))
  · next he =>
    rw [← (List.cons.inj he).2]
    simp only [hkey]
  · next h => exact absurd rfl (h _)

/-- The head of one more table of a list. -/
theorem statement_item (rest : List Char) :
    statement ('[' :: '[' :: (k ++ ']' :: ']' :: rest)) = some (.item [] name, rest) := by
  have hkey : key (depthLimit - 1) (k ++ ']' :: ']' :: rest) =
      some ([], name, ']' :: ']' :: rest) :=
    key_written hk (depthLimit - 2) (by decide) rfl (by decide)
  rw [statement.eq_def]
  simp only [hkey]

end Line

theorem value_quoted (fuel depth : Nat) (s : List Char) {rest : List Char}
    (h : rest.head? ≠ some '"') :
    value (fuel + 1) depth (Quoted.quote s ++ rest) = some (.text (String.ofList s), rest) := by
  have hscan := Quoted.scan_quote s h
  have hstart : Quoted.quote s ++ rest = '"' :: (s.flatMap Quoted.escape ++ ['"'] ++ rest) := rfl
  rw [hstart] at hscan ⊢
  rw [value.eq_def]
  simp only [hscan, Option.map_some]

theorem lineEnd_lineFeed (rest : List Char) : lineEnd ('\n' :: rest) = some rest := by
  rw [lineEnd, skip_of_not_space (by decide)]
  rfl

theorem skipLines_start {c : Char} (hspace : Quoted.isSpace c = false) (hline : c ≠ '\n')
    (hcomment : c ≠ '#') (cs : List Char) : skipLines false (c :: cs) = some (c :: cs) := by
  rw [skipLines]
  simp [hspace, hline, hcomment]

theorem skipLines_lineFeed (cs : List Char) :
    skipLines false ('\n' :: cs) = skipLines false cs := by
  rw [skipLines]
  rfl

/-- A line with a statement is taken off the text. -/
theorem statements_line (fuel : Nat) {cs line rest : List Char} {s : Statement}
    (hskip : skipLines false cs = some line) (hne : line ≠ [])
    (hs : statement line = some (s, '\n' :: rest)) :
    statements (fuel + 1) cs = (statements fuel rest).map (s :: ·) := by
  rw [statements, hskip]
  split
  · next h => cases h
  · next h => exact absurd (Option.some.inj h) hne
  · next h =>
    obtain rfl := Option.some.inj h
    simp only [hs, lineEnd_lineFeed]

end Reader

end ReleaseBulletin.Toml
