/-!
The template of the release note when no other one is given.
-/
namespace ReleaseBulletin.Note.Standard

/-- A printed expression. -/
def hole (e : String) : String := "\x7b\x7b " ++ e ++ " \x7d\x7d"

/-- A statement. -/
def tag (s : String) : String := "\x7b% " ++ s ++ " %\x7d"

/-- The lines of the template. -/
def lines : List String :=
  ["# Tidechain " ++ hole "version",
   "",
   tag "if changelog_enabled",
   "This release contains the changes from `" ++ hole "previous_ref" ++ "` to `" ++
     hole "current_ref" ++ "`.",
   tag "if substrate_commit",
   "It is built on Substrate `" ++ hole "substrate_commit" ++ "`" ++
     tag "if substrate_previous_commit" ++ " (previous release: `" ++
     hole "substrate_previous_commit" ++ "`)" ++ tag "endif" ++ ".",
   tag "endif",
   "",
   "## Upgrade Priority",
   "",
   hole "release_priority.label" ++ " **" ++ hole "release_priority.name" ++ "**: " ++
     hole "release_priority.text" ++ ".",
   "",
   tag "endif",
   "## Rust compiler versions",
   "",
   "This release was built and tested against the following versions of `rustc`.",
   "Other versions may work.",
   "",
   "- Rust Stable:  `" ++ hole "rustc_stable" ++ "`",
   "- Rust Nightly: `" ++ hole "rustc_nightly" ++ "`",
   "",
   "## Runtimes",
   tag "for runtime in runtimes",
   tag "set compressed = runtime.srtool.runtimes.compressed",
   "",
   "### " ++ hole "runtime.name | capitalize",
   "",
   "```",
   "🧬 Spec Version:           " ++ hole "runtime.spec_version",
   "🏋️ Runtime Size:           " ++ hole "compressed.size" ++ " bytes",
   "🔥 Core Version:           " ++ hole "compressed.subwasm.core_version",
   "🗜 Compressed:             " ++
     hole "\"Yes\" if compressed.subwasm.compression.compressed else \"No\"",
   "🎁 Metadata version:       V" ++ hole "compressed.subwasm.metadata_version",
   "🗳️ system.setCode hash:    " ++ hole "compressed.subwasm.proposal_hash",
   "#️⃣ Blake2-256 hash:        " ++ hole "compressed.subwasm.blake2_256",
   "📦 IPFS:                   " ++ hole "compressed.subwasm.ipfs_hash",
   "```",
   tag "endfor",
   tag "if release_notes",
   "",
   "## Changes",
   "",
   tag "for change in release_notes",
   "* " ++ hole "change.pretty_title",
   tag "endfor",
   tag "endif",
   tag "if client_changes",
   "",
   "## Client",
   "",
   tag "for change in client_changes",
   "* " ++ hole "change.pretty_title",
   tag "endfor",
   tag "endif",
   tag "if runtime_changes",
   "",
   "## Runtime",
   "",
   tag "for change in runtime_changes",
   "* " ++ hole "change.pretty_title",
   tag "endfor",
   tag "endif"]

/-- The template, every line with its end. -/
def template : String := String.join (lines.map (· ++ "\n"))

end ReleaseBulletin.Note.Standard
