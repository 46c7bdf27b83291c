import ReleaseBulletin.Proofs.ChainRuntime.Literal

/-!
Comments in the text of a source. Whatever a comment says after two slashes, or between marks on the
line of the opening one, is passed over. Further lines of a comment between marks are read as if
they were code, so that a declaration there counts.
-/
namespace ReleaseBulletin.ChainRuntime.SpecVersion
open Text.Affix Text.Blank Text.Digit

/-- A comment: what follows two slashes on a line, or any text between marks, which may have further
comments in it. -/
inductive Comment where
  | line (text : List Char) (single : '\n' ∉ text)
  | block (text : List Char)

/-- A comment after its first slash. -/
def Comment.body : Comment → List Char
  | .line text _ => '/' :: text
  | .block text => '*' :: (text ++ ['*', '/'])

def Comment.chars (c : Comment) : List Char := '/' :: c.body

/-- Code with comments in it, each with the code that comes between it and the next one. -/
def commented (code : List Char) (parts : List (Comment × List Char)) : List Char :=
  code ++ parts.flatMap fun p => p.1.chars ++ p.2

/-- A source after comments, each with a line feed at its end. -/
def headed (comments : List Comment) (source : List Char) : List Char :=
  ended '\n' (comments.map Comment.chars) ++ source

/-- The digits of the first declaration on a line that starts in the comment. -/
def Comment.declared? : Comment → Option (List Char)
  | .line _ _ => none
  | .block text => first? false text

/-- No line that starts in the comment starts with a declaration. Of a comment after slashes this
always holds. -/
def Comment.IsSilent (c : Comment) : Prop :=
  ∀ text, c = .block text → ∀ front, '\n' ∈ front → ¬ IsCandidate text front

/-- A character that no declaration goes across. -/
structure IsBarrier (x : Char) : Prop where
  visible : isBlank x = false
  foreign : x ∉ keyword
  other : isDecimal x = false

theorem isBarrier_slash : IsBarrier '/' := ⟨by decide, by decide, by decide⟩

theorem isBarrier_star : IsBarrier '*' := ⟨by decide, by decide, by decide⟩

section Barrier

variable {x : Char} (h : IsBarrier x) (rest : List Char)
include h

theorem IsBarrier.trimStart_append (cs : List Char) :
    trimStart (cs ++ x :: rest) = trimStart cs ++ x :: rest := by
  have hstop : (x :: rest).dropWhile isBlank = x :: rest := by simp [h.visible]
  rw [trimStart, trimStart, List.dropWhile_append, hstop]
  split
  · next hnil => rw [List.isEmpty_iff.1 hnil, List.nil_append]
  · rfl

theorem IsBarrier.takeWhile_append (cs : List Char) :
    (cs ++ x :: rest).takeWhile isDecimal = cs.takeWhile isDecimal := by
  induction cs with
  | nil => simp [h.other]
  | cons c cs ih => simp only [List.cons_append, List.takeWhile_cons, ih]

theorem IsBarrier.declared?_append (cs : List Char) :
    declared? (cs ++ x :: rest) = declared? cs := by
  simp only [declared?, h.trimStart_append, after?_append_cons h.foreign]
  cases after? keyword (trimStart cs) with
  | none => rfl
  | some tail => simp only [Option.map_some, h.trimStart_append, h.takeWhile_append]

/-- What stands before a barrier is read, and then what stands after it. -/
theorem IsBarrier.first?_append (starts : Bool) (cs : List Char) :
    first? starts (cs ++ x :: rest) = (first? starts cs).or (first? false rest) := by
  induction cs generalizing starts with
  | nil =>
    have hline : (x == '\n') = false := by
      refine beq_eq_false_iff_ne.2 fun he => ?_
      have hblank : isBlank x = true := he ▸ by decide
      rw [h.visible] at hblank
      cases hblank
    have hnone : declared? (x :: rest) = none := h.declared?_append rest []
    rw [List.nil_append, first?_cons, hline, hnone, ite_self]
    cases starts <;> rfl
  | cons c cs ih =>
    have hhere : declared? (c :: (cs ++ x :: rest)) = declared? (c :: cs) :=
      h.declared?_append rest (c :: cs)
    rw [List.cons_append, first?_cons, first?_cons, hhere, ih, Option.or_assoc]

end Barrier

/-- Nothing is declared on the rest of a line. -/
theorem first?_of_not_mem {cs : List Char} (h : '\n' ∉ cs) (rest : List Char) :
    first? false (cs ++ rest) = first? false rest := by
  induction cs with
  | nil => rfl
  | cons c cs ih =>
    obtain ⟨hc, hcs⟩ := not_or.1 (mt List.mem_cons.2 h)
    rw [List.cons_append, first?_cons, beq_eq_false_iff_ne.2 (Ne.symm hc), ih hcs]
    rfl

theorem first?_of_not_infix {cs : List Char} (h : ¬ keyword <:+: cs) (starts : Bool) :
    first? starts cs = none := by
  refine Option.eq_none_iff_forall_ne_some.2 fun digits hdigits => h ?_
  obtain ⟨front, rest, -, hfield, -⟩ := exists_isField_of_first? hdigits
  obtain ⟨gap, -, rfl⟩ := hfield.form
  exact ⟨front, gap ++ (digits ++ rest), by simp only [List.append_assoc]⟩

namespace Comment

theorem first?_body (c : Comment) (rest : List Char) :
    first? false (c.body ++ rest) = c.declared?.or (first? false rest) := by
  cases c with
  | line text single =>
    -- The second slash does not end the line either.
    have hline : '\n' ∉ '/' :: text := by simpa using single
    exact first?_of_not_mem hline rest
  | block text =>
    have hbody : body (.block text) ++ rest = '*' :: (text ++ '*' :: '/' :: rest) := by
      simp [body]
    have hopen : first? false ('*' :: (text ++ '*' :: '/' :: rest)) =
        first? false (text ++ '*' :: '/' :: rest) := rfl
    have hclose : first? false ('/' :: rest) = first? false rest := rfl
    rw [hbody, hopen, isBarrier_star.first?_append, hclose]
    rfl

/-- A comment is passed over but for the lines that start in it. -/
theorem first?_append_chars (c : Comment) (starts : Bool) (cs rest : List Char) :
    first? starts (cs ++ (c.chars ++ rest)) =
      (first? starts cs).or (c.declared?.or (first? false rest)) := by
  rw [chars, List.cons_append, isBarrier_slash.first?_append, first?_body]

theorem declared?_eq_none_iff {c : Comment} : c.declared? = none ↔ c.IsSilent := by
  cases c with
  | line text single => exact ⟨fun _ _ => nofun, fun _ => rfl⟩
  | block text =>
    constructor
    · rintro h text' ⟨⟩ front hmem hcandidate
      obtain ⟨hindented, digits, rest, hfield⟩ := isCandidate_iff.1 hcandidate
      exact not_isField_of_first? h ⟨hindented, .inr hmem⟩ hfield
    · refine fun h => Option.eq_none_iff_forall_ne_some.2 fun digits hdigits => ?_
      obtain ⟨front, rest, ⟨hindented, hmem⟩, hfield, -⟩ := exists_isField_of_first? hdigits
      have hline : '\n' ∈ front := hmem.resolve_left Bool.false_ne_true
      exact h text rfl front hline (isCandidate_iff.2 ⟨hindented, digits, rest, hfield⟩)

/-- What a comment declares is the first field that begins a line of it, the line of its opening
mark apart. -/
theorem exists_isField_of_declared? {c : Comment} {digits : List Char}
    (h : c.declared? = some digits) :
    ∃ text front rest, c = .block text ∧ '\n' ∈ front ∧ IsCandidate text front ∧
      IsField text front digits rest ∧
      ∀ front', '\n' ∈ front' → IsCandidate text front' → front.length ≤ front'.length := by
  cases c with
  | line text single => cases h
  | block text =>
    obtain ⟨front, rest, ⟨hindented, hmem⟩, hfield, hleast⟩ := exists_isField_of_first? h
    have hline : '\n' ∈ front := hmem.resolve_left Bool.false_ne_true
    have hcandidate : IsCandidate text front :=
      isCandidate_iff.2 ⟨hindented, digits, rest, hfield⟩
    refine ⟨text, front, rest, rfl, hline, hcandidate, hfield, fun front' hmem' hcandidate' => ?_⟩
    obtain ⟨hindented', digits', rest', hfield'⟩ := isCandidate_iff.1 hcandidate'
    exact hleast front' digits' rest' ⟨hindented', .inr hmem'⟩ hfield'

end Comment

theorem commented_cons (code : List Char) (p : Comment × List Char)
    (parts : List (Comment × List Char)) :
    commented code (p :: parts) = code ++ (p.1.chars ++ commented p.2 parts) := by
  simp [commented]

/-- Of code without the keyword nothing is read but the lines of its comments. -/
theorem first?_commented {code : List Char} {parts : List (Comment × List Char)}
    (hcode : ¬ keyword <:+: code) (hparts : ∀ p ∈ parts, ¬ keyword <:+: p.2) (starts : Bool) :
    first? starts (commented code parts) =
      (parts.map Prod.fst).findSome? Comment.declared? := by
  induction parts generalizing code starts with
  | nil =>
    rw [commented, List.flatMap_nil, List.append_nil]
    exact first?_of_not_infix hcode starts
  | cons p parts ih =>
    have hrest : first? false (commented p.2 parts) =
        (parts.map Prod.fst).findSome? Comment.declared? :=
      ih (hparts p List.mem_cons_self) (fun q hq => hparts q (List.mem_cons_of_mem p hq)) false
    rw [commented_cons, p.1.first?_append_chars, first?_of_not_infix hcode, hrest,
      List.map_cons, List.findSome?_cons]
    cases p.1.declared? <;> rfl

theorem first?_headed (comments : List Comment) (source : List Char) :
    first? true (headed comments source) =
      (comments.findSome? Comment.declared?).or (first? true source) := by
  induction comments with
  | nil => rfl
  | cons c comments ih =>
    have hsource : headed (c :: comments) source = c.chars ++ '\n' :: headed comments source := by
      rw [headed, List.map_cons, ended_cons, List.append_assoc, List.cons_append, headed]
    have hline : first? false ('\n' :: headed comments source) =
        first? true (headed comments source) := rfl
    rw [hsource, ← List.nil_append (c.chars ++ _), c.first?_append_chars, hline, ih,
      List.findSome?_cons]
    cases c.declared? <;> rfl

theorem ofSource?_headed (comments : List Comment) (source : String) :
    ofSource? (String.ofList (headed comments source.toList)) =
      (comments.findSome? Comment.declared?).elim (ofSource? source) (natBelow? limit) := by
  rw [ofSource?, String.toList_ofList, first?_headed]
  cases comments.findSome? Comment.declared? <;> rfl

theorem findSome?_declared?_eq_none_iff {comments : List Comment} :
    comments.findSome? Comment.declared? = none ↔ ∀ c ∈ comments, c.IsSilent := by
  rw [List.findSome?_eq_none_iff]
  exact forall₂_congr fun c _ => Comment.declared?_eq_none_iff

/-- A declaration in a comment hides those of the source, so that not every source is read as it
was. -/
theorem ofSource?_headed_eq_iff {comments : List Comment} :
    (∀ source : String,
      ofSource? (String.ofList (headed comments source.toList)) = ofSource? source) ↔
        ∀ c ∈ comments, c.IsSilent := by
  rw [← findSome?_declared?_eq_none_iff]
  constructor
  · refine fun h => Option.eq_none_iff_forall_ne_some.2 fun digits hdigits => ?_
    have hread : ∀ source : String, natBelow? limit digits = ofSource? source := fun source => by
      rw [← h source, ofSource?_headed, hdigits, Option.elim_some]
    have hboth := (hread "spec_version:0").symm.trans (hread "spec_version:1")
    exact absurd hboth (by decide)
  · intro hnone source
    rw [ofSource?_headed, hnone, Option.elim_none]

section Commented

variable {code : List Char} {parts : List (Comment × List Char)} (hcode : ¬ keyword <:+: code)
  (hparts : ∀ p ∈ parts, ¬ keyword <:+: p.2)
include hcode hparts

theorem ofSource?_commented :
    ofSource? (String.ofList (commented code parts)) =
      ((parts.map Prod.fst).findSome? Comment.declared?).bind (natBelow? limit) := by
  rw [ofSource?, String.toList_ofList, first?_commented hcode hparts]

/-- Nothing is read from the comments exactly if no line of theirs starts with a declaration, or if
the first that does has a number that is too great. -/
theorem ofSource?_commented_eq_none_iff :
    ofSource? (String.ofList (commented code parts)) = none ↔
      (∀ p ∈ parts, p.1.IsSilent) ∨
        ∃ digits, (parts.map Prod.fst).findSome? Comment.declared? = some digits ∧
          natBelow? limit digits = none := by
  have hsilent : (∀ p ∈ parts, p.1.IsSilent) ↔
      (parts.map Prod.fst).findSome? Comment.declared? = none := by
    rw [findSome?_declared?_eq_none_iff, List.forall_mem_map]
  rw [ofSource?_commented hcode hparts, hsilent]
  cases (parts.map Prod.fst).findSome? Comment.declared? with
  | none => exact ⟨fun _ => .inl rfl, fun _ => rfl⟩
  | some digits => simp

end Commented

/-- A source whose declarations are all in comments, and one that has comments in front, are read by
the lines of the comments: none of a comment after slashes, and of one between marks those after the
first. So comments do not matter exactly if no such line starts with a declaration. -/
theorem comments_pass_iff_isSilent {code : List Char} {parts : List (Comment × List Char)}
    (hcode : ¬ keyword <:+: code) (hparts : ∀ p ∈ parts, ¬ keyword <:+: p.2)
    (comments : List Comment) :
    (ofSource? (String.ofList (commented code parts)) =
        ((parts.map Prod.fst).findSome? Comment.declared?).bind (natBelow? limit) ∧
      (ofSource? (String.ofList (commented code parts)) = none ↔
        (∀ p ∈ parts, p.1.IsSilent) ∨
          ∃ digits, (parts.map Prod.fst).findSome? Comment.declared? = some digits ∧
            natBelow? limit digits = none)) ∧
    ((∀ source : String, ofSource? (String.ofList (headed comments source.toList)) =
        (comments.findSome? Comment.declared?).elim (ofSource? source) (natBelow? limit)) ∧
      ((∀ source : String,
          ofSource? (String.ofList (headed comments source.toList)) = ofSource? source) ↔
        ∀ c ∈ comments, c.IsSilent)) ∧
    ∀ c : Comment, (c.declared? = none ↔ c.IsSilent) ∧
      ∀ digits, c.declared? = some digits →
        ∃ text front rest, c = .block text ∧ '\n' ∈ front ∧ IsCandidate text front ∧
          IsField text front digits rest ∧
          ∀ front', '\n' ∈ front' → IsCandidate text front' → front.length ≤ front'.length :=
  ⟨⟨ofSource?_commented hcode hparts, ofSource?_commented_eq_none_iff hcode hparts⟩,
    ⟨ofSource?_headed comments, ofSource?_headed_eq_iff⟩,
    fun _ => ⟨Comment.declared?_eq_none_iff, fun _ => Comment.exists_isField_of_declared?⟩⟩

/-- A comment after code, and one over several lines with a mark at the start of each. -/
theorem starred_comment_is_silent :
    let line : Comment := .line " spec_version: 1".toList (by decide)
    let block : Comment := .block "*\n * spec_version: 2,\n ".toList
    let code := "const A: u8 = 1; ".toList
    let next := "\nconst B: u8 = 2; ".toList
    ¬ keyword <:+: code ∧ ¬ keyword <:+: next ∧
      ofSource? (String.ofList (commented code [(line, next), (block, [])])) = none ∧
      ofSource? (String.ofList (headed [line, block] "\tspec_version: 7,".toList)) = some 7 := by
  intro line block code next
  have hline : line.IsSilent := Comment.declared?_eq_none_iff.1 rfl
  have hblock : block.IsSilent := Comment.declared?_eq_none_iff.1 (by decide)
  have hcode : ¬ keyword <:+: code := by decide
  have hnext : ¬ keyword <:+: next := by decide
  have hparts : ∀ p ∈ [(line, next), (block, [])], ¬ keyword <:+: p.2 := by
    simpa using ⟨hnext, by decide⟩
  obtain ⟨⟨-, hcommented⟩, ⟨-, hheaded⟩, -⟩ :=
    comments_pass_iff_isSilent hcode hparts [line, block]
  refine ⟨hcode, hnext, hcommented.2 (.inl ?_), ?_⟩
  · simpa using ⟨hline, hblock⟩
  · exact (hheaded.2 (by simpa using ⟨hline, hblock⟩) _).trans (by decide)

/-- A declaration on a line of its own is read in a comment too, and hides that of the code. -/
theorem version_read_from_comment :
    let block : Comment := .block "\n  spec_version: 1,\n".toList
    let source := "/*\n  spec_version: 1,\n*/\n"
    source.toList = commented [] [(block, ['\n'])] ∧ ¬ keyword <:+: ([] : List Char) ∧
      ¬ keyword <:+: ['\n'] ∧ ofSource? source = some 1 ∧ ofSource? "spec_version: 2" = some 2 ∧
      ofSource? (String.ofList (headed [block] "spec_version: 2".toList)) = some 1 := by
  decide

end ReleaseBulletin.ChainRuntime.SpecVersion
