import ReleaseBulletin.Note.Standard
import ReleaseBulletin.Proofs.Template.Blocks
import ReleaseBulletin.Proofs.Template.Tags

/-!
The standard template as tags, and the nodes that it reads as.
-/
namespace ReleaseBulletin.Note.Standard
open Template Template.Piece Template.Reader Text.Affix

section Variables

def version : Dotted := .ofNames "version" [] rfl
def changelogEnabled : Dotted := .ofNames "changelog_enabled" [] rfl
def previousRef : Dotted := .ofNames "previous_ref" [] rfl
def currentRef : Dotted := .ofNames "current_ref" [] rfl
def substrateCommit : Dotted := .ofNames "substrate_commit" [] rfl
def substratePrevious : Dotted := .ofNames "substrate_previous_commit" [] rfl
def priorityLabel : Dotted := .ofNames "release_priority" ["label"] rfl
def priorityName : Dotted := .ofNames "release_priority" ["name"] rfl
def priorityText : Dotted := .ofNames "release_priority" ["text"] rfl
def rustcStable : Dotted := .ofNames "rustc_stable" [] rfl
def rustcNightly : Dotted := .ofNames "rustc_nightly" [] rfl
def runtimes : Dotted := .ofNames "runtimes" [] rfl
def runtimeReport : Dotted := .ofNames "runtime" ["srtool", "runtimes", "compressed"] rfl
def runtimeName : Dotted := .ofNames "runtime" ["name"] rfl
def runtimeVersion : Dotted := .ofNames "runtime" ["spec_version"] rfl
def size : Dotted := .ofNames "compressed" ["size"] rfl
def coreVersion : Dotted := .ofNames "compressed" ["subwasm", "core_version"] rfl
def isCompressed : Dotted := .ofNames "compressed" ["subwasm", "compression", "compressed"] rfl
def metadataVersion : Dotted := .ofNames "compressed" ["subwasm", "metadata_version"] rfl
def proposalHash : Dotted := .ofNames "compressed" ["subwasm", "proposal_hash"] rfl
def blake2 : Dotted := .ofNames "compressed" ["subwasm", "blake2_256"] rfl
def ipfsHash : Dotted := .ofNames "compressed" ["subwasm", "ipfs_hash"] rfl
def releaseNotes : Dotted := .ofNames "release_notes" [] rfl
def clientChanges : Dotted := .ofNames "client_changes" [] rfl
def runtimeChanges : Dotted := .ofNames "runtime_changes" [] rfl
def prettyTitle : Dotted := .ofNames "change" ["pretty_title"] rfl

end Variables

theorem isTarget_change : IsTarget "change" := by decide

theorem isTarget_runtime : IsTarget "runtime" := by decide

theorem isTarget_compressed : IsTarget "compressed" := by decide

theorem isName_change : Token.isName "change" = true := rfl

theorem isName_runtime : Token.isName "runtime" = true := rfl

theorem isName_compressed : Token.isName "compressed" = true := rfl

theorem isName_capitalize : Token.isName "capitalize" = true := rfl

section Tags

theorem spells_yesOrNo (d : Dotted) :
    Spells ("\"Yes\"".toList ++ ' ' :: ("if".toList ++ ' ' :: (d.text ++ ' ' ::
        ("else".toList ++ ' ' :: "\"No\"".toList)))) fun line =>
      ⟨.text "Yes", line⟩ :: ⟨.name "if", line⟩ ::
        (d.words line ++ [⟨.name "else", line⟩, ⟨.text "No", line⟩]) := by
  have hyes : Spells "\"Yes\"".toList fun line => [⟨.text "Yes", line⟩] :=
    .token rfl rfl nofun fun _ _ => rfl
  have hno : Spells "\"No\"".toList fun line => [⟨.text "No", line⟩] :=
    .token rfl rfl nofun fun _ _ => rfl
  have helse : Spells ("else".toList ++ ' ' :: "\"No\"".toList) fun line =>
      [⟨.name "else", line⟩, ⟨.text "No", line⟩] := .word rfl hno
  have hcondition := d.spells.append (by rintro rest - c ⟨⟩; rfl) helse.blank
  exact hyes.append (by rintro rest - c ⟨⟩; rfl) (Spells.word rfl hcondition).blank

/-- A tag that prints one of two texts. -/
def yesOrNo (source : String) (d : Dotted)
    (h : "\"Yes\"".toList ++ ' ' :: ("if".toList ++ ' ' :: (d.text ++ ' ' ::
      ("else".toList ++ ' ' :: "\"No\"".toList))) = source.toList) : Tag :=
  .printing source (h ▸ spells_yesOrNo d)

/-- Lines of text between tags. -/
def gap (lines : List (List Char)) : List Char := joined ['\n'] lines

def changelogTags : List (Tag × List Char) :=
  [(.branch "if changelog_enabled" changelogEnabled (eq_toList rfl rfl),
      gap [[], literal "This release contains the changes from `" rfl]),
   (.hole "previous_ref" previousRef (eq_toList rfl rfl), literal "` to `" rfl),
   (.hole "current_ref" currentRef (eq_toList rfl rfl), gap [literal "`." rfl, []]),
   (.branch "if substrate_commit" substrateCommit (eq_toList rfl rfl),
      gap [[], literal "It is built on Substrate `" rfl]),
   (.hole "substrate_commit" substrateCommit (eq_toList rfl rfl), literal "`" rfl),
   (.branch "if substrate_previous_commit" substratePrevious (eq_toList rfl rfl),
      literal " (previous release: `" rfl),
   (.hole "substrate_previous_commit" substratePrevious (eq_toList rfl rfl), literal "`)" rfl),
   (.endBranch, gap [literal "." rfl, []]),
   (.endBranch, gap [[], [], literal "## Upgrade Priority" rfl, [], []]),
   (.hole "release_priority.label" priorityLabel (eq_toList rfl rfl), literal " **" rfl),
   (.hole "release_priority.name" priorityName (eq_toList rfl rfl), literal "**: " rfl),
   (.hole "release_priority.text" priorityText (eq_toList rfl rfl), gap [literal "." rfl, [], []]),
   (.endBranch, gap [[], literal "## Rust compiler versions" rfl, [],
      literal "This release was built and tested against the following versions of `rustc`." rfl,
      literal "Other versions may work." rfl, [], literal "- Rust Stable:  `" rfl])]

def compilerTags : List (Tag × List Char) :=
  [(.hole "rustc_stable" rustcStable (eq_toList rfl rfl),
      gap [literal "`" rfl, literal "- Rust Nightly: `" rfl]),
   (.hole "rustc_nightly" rustcNightly (eq_toList rfl rfl),
      gap [literal "`" rfl, [], literal "## Runtimes" rfl, []])]

def runtimeTags : List (Tag × List Char) :=
  [(.loop "for runtime in runtimes" runtimes "runtime" isName_runtime (eq_toList rfl rfl), gap [[], []]),
   (.assign "set compressed = runtime.srtool.runtimes.compressed" runtimeReport "compressed"
      isName_compressed (eq_toList rfl rfl), gap [[], [], literal "### " rfl]),
   (.filterHole "runtime.name | capitalize" runtimeName "capitalize" isName_capitalize
      (eq_toList rfl rfl), gap [[], [], literal "```" rfl, literal "🧬 Spec Version:           " rfl]),
   (.hole "runtime.spec_version" runtimeVersion (eq_toList rfl rfl),
      gap [[], literal "🏋️ Runtime Size:           " rfl]),
   (.hole "compressed.size" size (eq_toList rfl rfl),
      gap [literal " bytes" rfl, literal "🔥 Core Version:           " rfl]),
   (.hole "compressed.subwasm.core_version" coreVersion (eq_toList rfl rfl),
      gap [[], literal "🗜 Compressed:             " rfl]),
   (yesOrNo "\"Yes\" if compressed.subwasm.compression.compressed else \"No\"" isCompressed
      (eq_toList rfl rfl), gap [[], literal "🎁 Metadata version:       V" rfl]),
   (.hole "compressed.subwasm.metadata_version" metadataVersion (eq_toList rfl rfl),
      gap [[], literal "🗳️ system.setCode hash:    " rfl]),
   (.hole "compressed.subwasm.proposal_hash" proposalHash (eq_toList rfl rfl),
      gap [[], literal "#️⃣ Blake2-256 hash:        " rfl]),
   (.hole "compressed.subwasm.blake2_256" blake2 (eq_toList rfl rfl),
      gap [[], literal "📦 IPFS:                   " rfl]),
   (.hole "compressed.subwasm.ipfs_hash" ipfsHash (eq_toList rfl rfl),
      gap [[], literal "```" rfl, []]),
   (.endLoop, gap [[], []])]

/-- The tags of a section: one that asks for changes and one that goes through them. -/
def sectionTags (condition loop : Tag) (heading : List Char) : List (Tag × List Char) :=
  [(condition, gap [[], [], heading, [], []]),
   (loop, gap [[], literal "* " rfl]),
   (.hole "change.pretty_title" prettyTitle (eq_toList rfl rfl), gap [[], []]),
   (.endLoop, gap [[], []]),
   (.endBranch, gap [[], []])]

def tags : List (Tag × List Char) :=
  (.hole "version" version (eq_toList rfl rfl), gap [[], [], []]) ::
    (changelogTags ++ compilerTags ++ runtimeTags ++
      sectionTags (.branch "if release_notes" releaseNotes (eq_toList rfl rfl))
        (.loop "for change in release_notes" releaseNotes "change" isName_change (eq_toList rfl rfl))
        (literal "## Changes" rfl) ++
      sectionTags (.branch "if client_changes" clientChanges (eq_toList rfl rfl))
        (.loop "for change in client_changes" clientChanges "change" isName_change (eq_toList rfl rfl))
        (literal "## Client" rfl) ++
      sectionTags (.branch "if runtime_changes" runtimeChanges (eq_toList rfl rfl))
        (.loop "for change in runtime_changes" runtimeChanges "change" isName_change (eq_toList rfl rfl))
        (literal "## Runtime" rfl))

section Sources

variable (source : String) (d : Dotted)

theorem toList_hole (e : String) :
    (hole e).toList = '{' :: '{' :: ' ' :: (e.toList ++ ' ' :: '}' :: ['}']) := by
  simp [hole]

theorem toList_tag (s : String) :
    (tag s).toList = '{' :: '%' :: ' ' :: (s.toList ++ ' ' :: '%' :: ['}']) := by
  simp [tag]

theorem text_hole (h) : (Tag.hole source d h).text = (hole source).toList :=
  (toList_hole source).symm

theorem text_filterHole (filter : String) (hfilter h) :
    (Tag.filterHole source d filter hfilter h).text = (hole source).toList :=
  (toList_hole source).symm

theorem text_yesOrNo (h) : (yesOrNo source d h).text = (hole source).toList :=
  (toList_hole source).symm

theorem text_branch (h) : (Tag.branch source d h).text = (tag source).toList :=
  (toList_tag source).symm

theorem text_loop (x : String) (hx h) :
    (Tag.loop source d x hx h).text = (tag source).toList :=
  (toList_tag source).symm

theorem text_assign (x : String) (hx h) :
    (Tag.assign source d x hx h).text = (tag source).toList :=
  (toList_tag source).symm

theorem text_endBranch : Tag.endBranch.text = (tag "endif").toList := (toList_tag _).symm

theorem text_endLoop : Tag.endLoop.text = (tag "endfor").toList := (toList_tag _).symm

end Sources

/-- The tags and the texts between them are the lines of the template. -/
theorem toList_template : template.toList = literal "# Tidechain " rfl ++ tagsText tags := by
  have hfeed : "
".toList = ['
'] := rfl
  simp only [template, lines, String.toList_join, List.map_cons, List.map_nil,
    String.toList_append, hfeed, List.flatMap_cons, List.flatMap_nil, tags, changelogTags,
    compilerTags, runtimeTags, sectionTags, tagsText, text_hole, text_filterHole, text_yesOrNo,
    text_branch, text_loop, text_assign, text_endBranch, text_endLoop, literal_eq, gap, joined,
    List.append_assoc, List.cons_append, List.nil_append, List.append_nil, String.toList_empty]

end Tags

section Pieces

def previousPieces : List Piece :=
  [.text " (previous release: `", .print 6 (substratePrevious.words 6), .text "`)"]

def commitPieces : List Piece :=
  .text "It is built on Substrate `" :: .print 6 (substrateCommit.words 6) :: .text "`" ::
    .statement 6 (⟨.name "if", 6⟩ :: substratePrevious.words 6) ::
      (previousPieces ++ ending "endif" 6 :: [.text ".
"])

def changelogPieces : List Piece :=
  .text "This release contains the changes from `" :: .print 4 (previousRef.words 4) ::
    .text "` to `" :: .print 4 (currentRef.words 4) :: .text "`.
" ::
    .statement 5 (⟨.name "if", 5⟩ :: substrateCommit.words 5) ::
      (commitPieces ++ ending "endif" 7 ::
        [.text "
## Upgrade Priority

", .print 11 (priorityLabel.words 11), .text " **",
         .print 11 (priorityName.words 11), .text "**: ", .print 11 (priorityText.words 11),
         .text ".

"])

def compilerText : String :=
  "## Rust compiler versions

This release was built and tested against the following versions " ++
    "of `rustc`.
Other versions may work.

- Rust Stable:  `"

def runtimePieces : List Piece :=
  .statement 24 (⟨.name "set", 24⟩ :: ⟨.name "compressed", 24⟩ :: ⟨.mark .assign, 24⟩ ::
      runtimeReport.words 24) ::
    [.text "
### ",
     .print 26 (runtimeName.words 26 ++ [⟨.mark .bar, 26⟩, ⟨.name "capitalize", 26⟩]),
     .text "

```
🧬 Spec Version:           ", .print 29 (runtimeVersion.words 29),
     .text "
🏋️ Runtime Size:           ", .print 30 (size.words 30),
     .text " bytes
🔥 Core Version:           ", .print 31 (coreVersion.words 31),
     .text "
🗜 Compressed:             ",
     .print 32 (⟨.text "Yes", 32⟩ :: ⟨.name "if", 32⟩ ::
       (isCompressed.words 32 ++ [⟨.name "else", 32⟩, ⟨.text "No", 32⟩])),
     .text "
🎁 Metadata version:       V", .print 33 (metadataVersion.words 33),
     .text "
🗳️ system.setCode hash:    ", .print 34 (proposalHash.words 34),
     .text "
#️⃣ Blake2-256 hash:        ", .print 35 (blake2.words 35),
     .text "
📦 IPFS:                   ", .print 36 (ipfsHash.words 36), .text "
```
"]

/-- The pieces for each change of a section, and the section's heading before them. -/
def changePieces (line : Nat) : List Piece :=
  [.text "* ", .print line (prettyTitle.words line), .text "
"]

def sectionPieces (line : Nat) (changes : Dotted) (heading : String) : List Piece :=
  .text heading ::
    .statement (line + 4) (⟨.name "for", line + 4⟩ :: ⟨.name "change", line + 4⟩ ::
        ⟨.name "in", line + 4⟩ :: changes.words (line + 4)) ::
      (changePieces (line + 5) ++ ending "endfor" (line + 6) :: [])

/-- A section that stands in a line, before other pieces. -/
def withSection (line : Nat) (changes : Dotted) (heading : String) (ps : List Piece) :
    List Piece :=
  .statement line (⟨.name "if", line⟩ :: changes.words line) ::
    (sectionPieces line changes heading ++ ending "endif" (line + 7) :: ps)

def pieces : List Piece :=
  .text "# Tidechain " :: .print 1 (version.words 1) :: .text "

" ::
    .statement 3 (⟨.name "if", 3⟩ :: changelogEnabled.words 3) ::
    (changelogPieces ++ ending "endif" 13 :: .text compilerText ::
      .print 19 (rustcStable.words 19) :: .text "`
- Rust Nightly: `" ::
      .print 20 (rustcNightly.words 20) :: .text "`

## Runtimes
" ::
      .statement 23 (⟨.name "for", 23⟩ :: ⟨.name "runtime", 23⟩ :: ⟨.name "in", 23⟩ ::
        runtimes.words 23) ::
      (runtimePieces ++ ending "endfor" 38 ::
        withSection 39 releaseNotes "
## Changes

"
          (withSection 47 clientChanges "
## Client

"
            (withSection 55 runtimeChanges "
## Runtime

" []))))

set_option maxRecDepth 20000 in
theorem cut_tags : cut true 1 (literal "# Tidechain " rfl) tags = pieces := rfl

theorem not_mem_tags : ∀ t ∈ tags, '{' ∉ t.2 := by decide +kernel

theorem ofTemplate?_pieces : Piece.ofTemplate? template = some pieces := by
  rw [ofTemplate?_cut toList_template (by decide) not_mem_tags, cut_tags]

end Pieces

section Nodes

def previousNodes : List Node :=
  [.text " (previous release: `", .print 6 (substratePrevious.expr 6), .text "`)"]

def commitNodes : List Node :=
  [.text "It is built on Substrate `", .print 6 (substrateCommit.expr 6), .text "`",
   .branch 6 (substratePrevious.expr 6) previousNodes [], .text ".
"]

def changelogNodes : List Node :=
  [.text "This release contains the changes from `", .print 4 (previousRef.expr 4),
   .text "` to `", .print 4 (currentRef.expr 4), .text "`.
",
   .branch 5 (substrateCommit.expr 5) commitNodes [], .text "
## Upgrade Priority

",
   .print 11 (priorityLabel.expr 11), .text " **", .print 11 (priorityName.expr 11),
   .text "**: ", .print 11 (priorityText.expr 11), .text ".

"]

def runtimeNodes : List Node :=
  [.assign (.name "compressed") (runtimeReport.expr 24), .text "
### ",
   .print 26 (.filter 26 "capitalize" (runtimeName.expr 26) []),
   .text "

```
🧬 Spec Version:           ", .print 29 (runtimeVersion.expr 29),
   .text "
🏋️ Runtime Size:           ", .print 30 (size.expr 30),
   .text " bytes
🔥 Core Version:           ", .print 31 (coreVersion.expr 31),
   .text "
🗜 Compressed:             ",
   .print 32 (.choice 32 (isCompressed.expr 32) (.literal (.text "Yes")) (.literal (.text "No"))),
   .text "
🎁 Metadata version:       V", .print 33 (metadataVersion.expr 33),
   .text "
🗳️ system.setCode hash:    ", .print 34 (proposalHash.expr 34),
   .text "
#️⃣ Blake2-256 hash:        ", .print 35 (blake2.expr 35),
   .text "
📦 IPFS:                   ", .print 36 (ipfsHash.expr 36), .text "
```
"]

def changeNodes (line : Nat) : List Node :=
  [.text "* ", .print line (prettyTitle.expr line), .text "
"]

def sectionNode (line : Nat) (changes : Dotted) (heading : String) : Node :=
  .branch line (changes.expr line)
    [.text heading,
     .loop (line + 4) (.name "change") (changes.expr (line + 4)) none (changeNodes (line + 5)) []]
    []

def nodes : List Node :=
  [.text "# Tidechain ", .print 1 (version.expr 1), .text "

",
   .branch 3 (changelogEnabled.expr 3) changelogNodes [], .text compilerText,
   .print 19 (rustcStable.expr 19), .text "`
- Rust Nightly: `",
   .print 20 (rustcNightly.expr 20), .text "`

## Runtimes
",
   .loop 23 (.name "runtime") (runtimes.expr 23) none runtimeNodes [],
   sectionNode 39 releaseNotes "
## Changes

",
   sectionNode 47 clientChanges "
## Client

",
   sectionNode 55 runtimeChanges "
## Runtime

"]

section Reading

variable (room : Nat)

theorem reads_previous : Reads (room + 2) previousPieces previousNodes :=
  .text _ (.hole _ _ (.text _ .nil))

theorem reads_commit : Reads (room + 3) commitPieces commitNodes :=
  .text _ (.hole _ _ (.text _ (.branchOn _ _ (reads_previous room) (.text _ .nil))))

theorem reads_changelog : Reads (room + 4) changelogPieces changelogNodes :=
  .text _ (.hole _ _ (.text _ (.hole _ _ (.text _ (.branchOn _ _ (reads_commit room)
    (.text _ (.hole _ _ (.text _ (.hole _ _ (.text _ (.hole _ _ (.text _ .nil))))))))))))

theorem reads_runtime : Reads (room + 3) runtimePieces runtimeNodes := by
  have hname : whole (Grammar.expression true (room + 3))
      (runtimeName.words 26 ++ [⟨.mark .bar, 26⟩, ⟨.name "capitalize", 26⟩]) =
        some ⟨.filter 26 "capitalize" (runtimeName.expr 26) [], 26, 26⟩ := by
    rw [whole, Grammar.expression_filter]
  have hcompressed : whole (Grammar.expression true (room + 3))
      (⟨.text "Yes", 32⟩ :: ⟨.name "if", 32⟩ ::
        (isCompressed.words 32 ++ [⟨.name "else", 32⟩, ⟨.text "No", 32⟩])) =
        some ⟨.choice 32 (isCompressed.expr 32) (.literal (.text "Yes")) (.literal (.text "No")),
          32, 32⟩ := by
    rw [whole, Grammar.expression_choice]
  have hrest : Reads (room + 3) _ _ :=
    .text "
🎁 Metadata version:       V" (.hole metadataVersion 33
      (.text "
🗳️ system.setCode hash:    " (.hole proposalHash 34
        (.text "
#️⃣ Blake2-256 hash:        " (.hole blake2 35
          (.text "
📦 IPFS:                   " (.hole ipfsHash 36 (.text "
```
" .nil))))))))
  exact .assignTo _ _ isTarget_compressed (.text _ (.print hname (.text _ (.hole _ _ (.text _
    (.hole _ _ (.text _ (.hole _ _ (.text _ (.print hcompressed hrest))))))))))

theorem reads_section (line : Nat) (changes : Dotted) (heading : String) {ps : List Piece}
    {ns : List Node} (h : Reads (room + 4) ps ns) :
    Reads (room + 4) (withSection line changes heading ps)
      (sectionNode line changes heading :: ns) := by
  have hchange : Reads (room + 2) (changePieces (line + 5)) (changeNodes (line + 5)) :=
    .text _ (.hole _ _ (.text _ .nil))
  exact .branchOn _ _ (.text _ (.loopOver _ _ isTarget_change hchange .nil)) h

theorem reads_pieces : Reads (room + 5) pieces nodes :=
  .text _ (.hole _ _ (.text _ (.branchOn _ _ (reads_changelog room) (.text _ (.hole _ _ (.text _
    (.hole _ _ (.text _ (.loopOver _ _ isTarget_runtime (reads_runtime (room + 1))
      (reads_section (room + 1) _ _ _ (reads_section (room + 1) _ _ _
        (reads_section (room + 1) _ _ _ .nil))))))))))))

end Reading

/-- The standard template can be read. -/
theorem ofTemplate?_template : Reader.ofTemplate? template = some nodes :=
  (reads_pieces 145).ofTemplate? ofTemplate?_pieces

end Nodes

end ReleaseBulletin.Note.Standard
