import SceneRelay.Schema

/-! Schemas written as JSON documents: which documents are schemas, and what they mean. -/
namespace SceneRelay.Schema

/-- The keywords of a schema document that have been read. -/
structure Keywords where
  types : Option (List JsonType) := none
  required : List String := []
  properties : Option (List (String × Schema)) := none
  closedBy : Option Schema := none
  each : Option Schema := none
  minItems : Option Nat := none
  maxItems : Option Nat := none

def Keywords.toSchema (k : Keywords) : Schema :=
  .rules k.types k.required k.properties k.closedBy k.each k.minItems k.maxItems

def distinct : List String → Bool
  | [] => true
  | s :: rest => !rest.contains s && distinct rest

/-- Strings without repetition. -/
def names? : Json → Option (List String)
  | .array items => do
    let names ← items.mapM Json.asString?
    if distinct names then some names else none
  | _ => none

/-- One type name, or several distinct ones. -/
def types? : Json → Option (List JsonType)
  | .string s => (JsonType.ofName? s).map ([·])
  | v => do
    let names ← names? v
    if names.isEmpty then none else names.mapM JsonType.ofName?

/-- A number of items; one too large for a word is cut to the largest. -/
def limit? : Json → Option Nat
  | .number n => n.toNat?.map (min · (UInt64.size - 1))
  | _ => none

/-- The drafts whose rules are those of this module. -/
def knownDrafts : List String :=
  ["http://json-schema.org/draft-06/schema", "http://json-schema.org/draft-07/schema",
   "https://json-schema.org/draft/2019-09/schema", "https://json-schema.org/draft/2020-12/schema"]

def isKnownDraft (name : String) : Bool :=
  knownDrafts.any fun d => name = d || name = d ++ "#"

mutual

/-- The schema that a document stands for; none if a keyword has a value it must not have. -/
def ofJson? : Json → Option Schema
  | .bool true => some .always
  | .bool false => some .never
  | .object members => (keywords? members).map Keywords.toSchema
  | _ => none

def keywords? : List (String × Json) → Option Keywords
  | [] => some {}
  | (name, v) :: rest =>
    match keywords? rest with
    | none => none
    | some k =>
      match name with
      | "type" => (types? v).map fun ts => { k with types := some ts }
      | "required" => (names? v).map fun names => { k with required := names }
      | "properties" => (properties? v).map fun ps => { k with properties := some ps }
      | "additionalProperties" => (ofJson? v).map fun s => { k with closedBy := some s }
      | "items" => (ofJson? v).map fun s => { k with each := some s }
      | "minItems" => (limit? v).map fun n => { k with minItems := some n }
      | "maxItems" => (limit? v).map fun n => { k with maxItems := some n }
      | "$schema" => if v.asString?.any isKnownDraft then some k else none
      | "$id" | "title" | "description" => if v.asString?.isSome then some k else none
      | _ => some k

def properties? : Json → Option (List (String × Schema))
  | .object members => namedSchemas? members
  | _ => none

def namedSchemas? : List (String × Json) → Option (List (String × Schema))
  | [] => some []
  | (name, v) :: rest =>
    match ofJson? v, namedSchemas? rest with
    | some s, some named => some ((name, s) :: named)
    | _, _ => none

end

end SceneRelay.Schema
