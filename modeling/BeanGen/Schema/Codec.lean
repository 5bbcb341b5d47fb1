import BeanGen.BindError
import BeanGen.Json.Decode
import BeanGen.Json.Reader
import BeanGen.Schema.BoundType

/-!
# Models as JSON

Every record is written with all its fields, in ascending order of their keys; an absent text is
null. Reading accepts a model with only its required fields. A document holds one type or an array
of types.
-/

namespace BeanGen

open Json (Decoded RecordShape)

/-! ## Notes -/

def Documentation.toJson (d : Documentation) : Json :=
  .obj [("content", .ofText? d.content), ("source", .ofText? d.source)]

def Documentation.shape : RecordShape Documentation where
  name := "Documentation"
  keys := ["content", "source"]
  required := 0
  blank := ⟨none, none⟩
  put key v d :=
    match key with
    | "content" => return { d with content := ← Json.optional Json.text v }
    | "source" => return { d with source := ← Json.optional Json.text v }
    | _ => return d

def SchemaNote.toJson (n : SchemaNote) : Json :=
  .obj [("documentation", .arr (n.entries.map Documentation.toJson))]

def SchemaNote.shape : RecordShape SchemaNote where
  name := "Annotation"
  keys := ["documentation"]
  required := 0
  blank := ⟨[]⟩
  put key v n :=
    match key with
    | "documentation" =>
      return { n with entries := ← Json.sequence (Documentation.shape.decode Json.strict) v }
    | _ => return n

def SchemaNote.decodeAll : Json → Decoded (List SchemaNote) :=
  Json.sequence (SchemaNote.shape.decode Json.strict)

/-! ## Fields -/

def ContentKind.simpleNames : List (String × ContentKind) := [
  ("string", .string), ("boolean", .boolean), ("byte", .byte), ("short", .short), ("int", .int),
  ("long", .long), ("float", .float), ("double", .double), ("char", .char), ("decimal", .decimal),
  ("date", .date)]

def ContentKind.boundKey : String :=
  "class"

def ContentKind.toJson : ContentKind → Json
  | .string => .str "string"
  | .boolean => .str "boolean"
  | .byte => .str "byte"
  | .short => .str "short"
  | .int => .str "int"
  | .long => .str "long"
  | .float => .str "float"
  | .double => .str "double"
  | .char => .str "char"
  | .decimal => .str "decimal"
  | .date => .str "date"
  | .bound className => .obj [(boundKey, .str className)]

def ContentKind.decode (v : Json) : Decoded ContentKind := do
  let (name, payload) ← Json.choice v
  match simpleNames.lookup name with
  | some kind => Json.noPayload Json.strict kind payload
  | none =>
    if name = boundKey then (Json.withPayload Json.text payload).map .bound
    else throw (.unknownName name (simpleNames.map (·.1) ++ [boundKey]))

def Multiplicity.toJson : Multiplicity → Json
  | .single => .str "single"
  | .many max => .obj [("many", .obj [("max", .int max)])]

def Multiplicity.maxShape : RecordShape Int where
  name := "Many"
  keys := ["max"]
  required := 1
  blank := 0
  put key v max :=
    match key with
    | "max" => Json.int32 v
    | _ => return max

def Multiplicity.decode (v : Json) : Decoded Multiplicity := do
  let (name, payload) ← Json.choice v
  if name = "single" then Json.noPayload Json.strict .single payload
  else if name = "many" then (Json.withFields maxShape payload).map .many
  else throw (.unknownName name ["single", "many"])

def NodeKind.toJson : NodeKind → Json
  | .element => .str "element"
  | .attribute => .str "attribute"
  | .text => .str "text"

def NodeKind.decode : Json → Decoded NodeKind :=
  Json.plainChoice Json.strict [("element", .element), ("attribute", .attribute), ("text", .text)]

def BoundField.toJson (f : BoundField) : Json :=
  .obj [
    ("annotations", .arr (f.notes.map SchemaNote.toJson)),
    ("bound", .bool f.bound),
    ("content_type", f.content.toJson),
    ("default_value", .ofText? f.defaultValue),
    ("extra_methods", .bool f.extraMethods),
    ("method_suffix", .str f.suffix),
    ("multiplicity", f.multiplicity.toJson),
    ("name", .str f.name),
    ("node_type", f.node.toJson),
    ("required", .bool f.required),
    ("sql_name", .ofText? f.columnName),
    ("xml_name", .ofText? f.externalName)]

def BoundField.shape : RecordShape BoundField where
  name := "FieldModel"
  keys := ["name", "content_type", "method_suffix", "bound", "multiplicity", "default_value",
    "extra_methods", "xml_name", "node_type", "required", "sql_name", "annotations"]
  required := 3
  blank := .single "" .string ""
  put key v f :=
    match key with
    | "name" => return { f with name := ← Json.text v }
    | "content_type" => return { f with content := ← ContentKind.decode v }
    | "method_suffix" => return { f with suffix := ← Json.text v }
    | "bound" => return { f with bound := ← Json.flag v }
    | "multiplicity" => return { f with multiplicity := ← Multiplicity.decode v }
    | "default_value" => return { f with defaultValue := ← Json.optional Json.text v }
    | "extra_methods" => return { f with extraMethods := ← Json.flag v }
    | "xml_name" => return { f with externalName := ← Json.optional Json.text v }
    | "node_type" => return { f with node := ← NodeKind.decode v }
    | "required" => return { f with required := ← Json.flag v }
    | "sql_name" => return { f with columnName := ← Json.optional Json.text v }
    | "annotations" => return { f with notes := ← SchemaNote.decodeAll v }
    | _ => return f

def BoundField.decode : Json → Decoded BoundField :=
  shape.decode Json.strict

/-! ## Types -/

def AccessMode.toJson : AccessMode → Json
  | .shared => .str "shared"
  | .exclusive => .str "exclusive"
  | .dbLocked => .str "db_locked"
  | .readOnly => .str "read_only"

def AccessMode.decode : Json → Decoded AccessMode :=
  Json.plainChoice Json.strict [("shared", .shared), ("exclusive", .exclusive),
    ("db_locked", .dbLocked), ("read_only", .readOnly)]

/-- An access mode as JSON, null where there is none. -/
def AccessMode.optionToJson : Option AccessMode → Json
  | some mode => mode.toJson
  | none => .null

def BoundType.toJson (t : BoundType) : Json :=
  .obj [
    ("access_mode", AccessMode.optionToJson t.accessMode),
    ("annotations", .arr (t.notes.map SchemaNote.toJson)),
    ("element_definition", .bool t.elementDefinition),
    ("fields", .arr (t.fields.map BoundField.toJson)),
    ("identities", .arr (t.identities.map .str)),
    ("is_abstract", .bool t.isAbstract),
    ("name", .str t.name),
    ("namespace_prefix", .ofText? t.namespacePrefix),
    ("namespace_uri", .ofText? t.namespaceUri),
    ("parent", .ofText? t.parent),
    ("table_name", .ofText? t.tableName),
    ("validator", .ofText? t.validator),
    ("xml_name", .ofText? t.externalName)]

def BoundType.shape : RecordShape BoundType where
  name := "TypeModel"
  keys := ["name", "parent", "element_definition", "namespace_prefix", "namespace_uri", "xml_name",
    "identities", "access_mode", "validator", "table_name", "is_abstract", "annotations", "fields"]
  required := 1
  blank := .ofName ""
  put key v t :=
    match key with
    | "name" => return { t with name := ← Json.text v }
    | "parent" => return { t with parent := ← Json.optional Json.text v }
    | "element_definition" => return { t with elementDefinition := ← Json.flag v }
    | "namespace_prefix" => return { t with namespacePrefix := ← Json.optional Json.text v }
    | "namespace_uri" => return { t with namespaceUri := ← Json.optional Json.text v }
    | "xml_name" => return { t with externalName := ← Json.optional Json.text v }
    | "identities" => return { t with identities := ← Json.sequence Json.text v }
    | "access_mode" => return { t with accessMode := ← Json.optional AccessMode.decode v }
    | "validator" => return { t with validator := ← Json.optional Json.text v }
    | "table_name" => return { t with tableName := ← Json.optional Json.text v }
    | "is_abstract" => return { t with isAbstract := ← Json.flag v }
    | "annotations" => return { t with notes := ← SchemaNote.decodeAll v }
    | "fields" => return { t with fields := ← Json.sequence BoundField.decode v }
    | _ => return t

def BoundType.decode : Json → Decoded BoundType :=
  shape.decode Json.strict

/-! ## Documents -/

/-- The types of a document: the items of an array, or one type. -/
def decodeModel : Json → Decoded (List BoundType)
  | .arr items => Json.each BoundType.decode items
  | v => (BoundType.decode v).map ([·])

def readModel (text : String) : Except BindError (List BoundType) :=
  match Json.read text with
  | .error f => .error (.serialization (f.message text))
  | .ok v => (decodeModel v).mapError fun f => .serialization f.message

end BeanGen
