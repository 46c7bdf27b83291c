import ReleaseBulletin.Document.Record
import ReleaseBulletin.Settings.Basic
import ReleaseBulletin.Width

/-!
Settings as documents. Every section and every field may be absent and then has its default.
-/
namespace ReleaseBulletin.Settings.Document
open ReleaseBulletin.Document ReleaseBulletin.Document.Record

/-- One more than the longest time that an answer may take. -/
def timeoutLimit : Nat := Width.count 64

def api? (surplus : Surplus) (t : Tree) : Option Api :=
  match fields? surplus ["api_url", "timeout_secs"] t with
  | some [url, timeout] => do
    return {
      url := ← orElse ({} : Api).url Tree.text? url
      timeout := ← orElse ({} : Api).timeout (·.natBelow? timeoutLimit) timeout }
  | _ => none

def pin? (surplus : Surplus) (t : Tree) : Option Pin :=
  match fields? surplus ["path", "package"] t with
  | some [path, package] => do
    return {
      path := ← orElse ({} : Pin).path Tree.text? path
      package := ← orElse ({} : Pin).package Tree.text? package }
  | _ => none

/-- The names of the fields on changes, in order. -/
def changesNames : List String :=
  ["enabled", "paired_repository", "companion_pattern", "release_notes_label", "client_label",
   "runtime_label"]

def changes? (surplus : Surplus) (t : Tree) : Option Changes :=
  match fields? surplus changesNames t with
  | some [enabled, pairedRepository, companionPattern, releaseNotes, client, runtime] => do
    return {
      enabled := ← orElse ({} : Changes).enabled Tree.boolean? enabled
      pairedRepository := ← orElse ({} : Changes).pairedRepository Tree.text? pairedRepository
      companionPattern := ← orElse ({} : Changes).companionPattern Tree.text? companionPattern
      releaseNotesLabel := ← orElse ({} : Changes).releaseNotesLabel Tree.text? releaseNotes
      clientLabel := ← orElse ({} : Changes).clientLabel Tree.text? client
      runtimeLabel := ← orElse ({} : Changes).runtimeLabel Tree.text? runtime }
  | _ => none

def runtimes? (surplus : Surplus) (t : Tree) : Option Runtimes :=
  match fields? surplus ["checkout_dir", "names"] t with
  | some [checkoutDir, names] => do
    return {
      checkoutDir := ← orElse ({} : Runtimes).checkoutDir Tree.text? checkoutDir
      names := ← orElse ({} : Runtimes).names (·.listOf? Tree.text?) names }
  | _ => none

def template? (surplus : Surplus) (t : Tree) : Option Template :=
  match fields? surplus ["path"] t with
  | some [path] => do return { path := ← orElse none (·.optional? Tree.text?) path }
  | _ => none

/-- The names of the sections, in order. -/
def sectionNames : List String := ["github", "lockfile", "changelog", "runtimes", "template"]

def ofTree? (surplus : Surplus) (t : Tree) : Option Settings :=
  match fields? surplus sectionNames t with
  | some [api, pin, changes, runtimes, template] => do
    return {
      api := ← orElse {} (api? surplus) api
      pin := ← orElse {} (pin? surplus) pin
      changes := ← orElse {} (changes? surplus) changes
      runtimes := ← orElse {} (runtimes? surplus) runtimes
      template := ← orElse {} (template? surplus) template }
  | _ => none

def apiTree (a : Api) : Tree :=
  .table [(some "api_url", .text a.url), (some "timeout_secs", .integer a.timeout)]

/-- The document of the section on the pinned dependency. -/
def pinTree (p : Pin) : Tree :=
  .table [(some "path", .text p.path), (some "package", .text p.package)]

def changesTree (c : Changes) : Tree :=
  .table
    [(some "enabled", .boolean c.enabled),
     (some "paired_repository", .text c.pairedRepository),
     (some "companion_pattern", .text c.companionPattern),
     (some "release_notes_label", .text c.releaseNotesLabel),
     (some "client_label", .text c.clientLabel),
     (some "runtime_label", .text c.runtimeLabel)]

def runtimesTree (r : Runtimes) : Tree :=
  .table [(some "checkout_dir", .text r.checkoutDir), (some "names", .list (r.names.map .text))]

def templateTree (t : Template) : Tree :=
  .table (match t.path with | some p => [(some "path", .text p)] | none => [])

def tree (s : Settings) : Tree :=
  .table
    [(some "github", apiTree s.api), (some "lockfile", pinTree s.pin),
     (some "changelog", changesTree s.changes), (some "runtimes", runtimesTree s.runtimes),
     (some "template", templateTree s.template)]

end ReleaseBulletin.Settings.Document
