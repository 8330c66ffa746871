import GuardedSearch.AccessRule.Codec
import GuardedSearch.Entity.Codec
import GuardedSearch.SearchError

/-!
# Metadata documents

A metadata document holds all entities and all access rules, as they are written in a file.
-/

namespace GuardedSearch

/-- Entities and rules as they were written, not yet checked against each other. -/
structure Metadata where
  entities : List Entity
  rules : List AccessRule
  deriving DecidableEq, Repr

/-- A metadata document of which not all fields are known. -/
structure Metadata.Draft where
  entities : Option (List Entity)
  rules : Option (List AccessRule)

namespace Metadata

/-- How a metadata document is decoded. -/
def record : Record Draft Metadata where
  title := "MetadataDocument"
  fields := ["entities", "dacRules"]
  canonical := fun key => key
  blank := ⟨none, none⟩
  fill := fun p d name r =>
    match name with
    | "entities" => do
      let entities ← Decoder.once name d.entities (Decoder.list Entity.record.decode p r)
      return { d with entities }
    | "dacRules" => do
      let rules ← Decoder.once name d.rules (Decoder.list AccessRule.record.decode p r)
      return { d with rules }
    | _ => return d
  complete := fun d => .ok ⟨d.entities.getD [], d.rules.getD []⟩

/-- The document in JSON. -/
def toJson (m : Metadata) : Json :=
  .object [("entities", .array (m.entities.map Entity.toJson)),
    ("dacRules", .array (m.rules.map AccessRule.toJson))]

/-- Decodes the text of a metadata document. -/
def ofText? (text : String) : Except DecodeError Metadata :=
  record.decode.runText text

/-- Reads a metadata document from the content of a file; there is no content without a file. -/
def load (content : Option String) : Except SearchError Metadata :=
  match content with
  | none => .error .fileNotFound
  | some text =>
    match ofText? text with
    | .ok m => .ok m
    | .error e => .error (.json e)

end Metadata

end GuardedSearch
