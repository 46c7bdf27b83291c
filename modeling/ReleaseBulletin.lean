import ReleaseBulletin.Text.Blank
import ReleaseBulletin.Text.Digit
import ReleaseBulletin.Text.CaseMap
import ReleaseBulletin.Text.Quoted
import ReleaseBulletin.Bytes.Utf8
import ReleaseBulletin.Bytes.Base64
import ReleaseBulletin.Document.Record
import ReleaseBulletin.Json.Parser
import ReleaseBulletin.Json.Value
import ReleaseBulletin.Decimal.Layout
import ReleaseBulletin.Json.Printer
import ReleaseBulletin.Reference
import ReleaseBulletin.FileTree
import ReleaseBulletin.Url.Endpoint
import ReleaseBulletin.Environment
import ReleaseBulletin.Change.Changelog
import ReleaseBulletin.Change.Companion
import ReleaseBulletin.Change.Subject
import ReleaseBulletin.ChainRuntime.SpecVersion
import ReleaseBulletin.Forge.FileContents
import ReleaseBulletin.Toml.Reader
import ReleaseBulletin.Settings.Loader
import ReleaseBulletin.Lockfile.Reader
import ReleaseBulletin.ChainRuntime.Artifact
import ReleaseBulletin.Main
import ReleaseBulletin.Proofs.Text.Digits
import ReleaseBulletin.Proofs.Document.Members
import ReleaseBulletin.Proofs.Change.Labels
import ReleaseBulletin.Proofs.Forge.Answer
import ReleaseBulletin.Proofs.Forge.Paging
import ReleaseBulletin.Proofs.Forge.Comparison
import ReleaseBulletin.Proofs.Change.Retrieval
import ReleaseBulletin.Proofs.Release.Preparation
import ReleaseBulletin.Proofs.Command.Stages
import ReleaseBulletin.Proofs.Release.Collection
import ReleaseBulletin.Proofs.Command.Secrecy
import ReleaseBulletin.Proofs.Release.Course
import ReleaseBulletin.Proofs.Bytes.Utf8
import ReleaseBulletin.Proofs.Bytes.Base64
import ReleaseBulletin.Proofs.Json.Written
import ReleaseBulletin.Proofs.Toml.Written
import ReleaseBulletin.Proofs.Lockfile.Layout
import ReleaseBulletin.Proofs.Forge.File
import ReleaseBulletin.Proofs.Lockfile.Pinning
import ReleaseBulletin.Proofs.Template.Spelling
import ReleaseBulletin.Proofs.Template.Tags
import ReleaseBulletin.Proofs.Template.Expressions
import ReleaseBulletin.Proofs.Template.Blocks
import ReleaseBulletin.Proofs.Note.Standard
import ReleaseBulletin.Proofs.Template.Members
import ReleaseBulletin.Proofs.Template.Writing
import ReleaseBulletin.Proofs.Note.Printed
import ReleaseBulletin.Proofs.Change.Editing
import ReleaseBulletin.Proofs.Change.Grammar
import ReleaseBulletin.Proofs.Bytes.Canonical
import ReleaseBulletin.Proofs.Forge.Decoding
import ReleaseBulletin.Proofs.Url.Encoding
import ReleaseBulletin.Proofs.Url.Place
import ReleaseBulletin.Proofs.Text.Parts
import ReleaseBulletin.Proofs.Url.Plain
import ReleaseBulletin.Proofs.Url.Written
import ReleaseBulletin.Proofs.Forge.Addressing
import ReleaseBulletin.Proofs.Forge.Ending
import ReleaseBulletin.Proofs.Change.Classification
import ReleaseBulletin.Proofs.Change.Companion
import ReleaseBulletin.Proofs.Change.Trailing
import ReleaseBulletin.Proofs.ChainRuntime.Declaration
import ReleaseBulletin.Proofs.ChainRuntime.Literal
import ReleaseBulletin.Proofs.Note.Completeness
import ReleaseBulletin.Proofs.Release.LabelOrder
import ReleaseBulletin.Proofs.Note.Substitution
import ReleaseBulletin.Proofs.Settings.Partial
import ReleaseBulletin.Proofs.Change.Displayed
import ReleaseBulletin.Proofs.ChainRuntime.Comment
import ReleaseBulletin.Proofs.Change.Written
