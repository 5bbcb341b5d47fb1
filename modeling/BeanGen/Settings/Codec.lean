import BeanGen.BindError
import BeanGen.Json.Decode
import BeanGen.Settings.Basic
import BeanGen.Text.Basic
import BeanGen.Toml.Reader

/-!
# Settings as JSON and TOML

Settings are written with all their fields in ascending order of the keys. No field is required when
they are read. A TOML document is first seen as JSON and then decoded by the rules of a table
format; a blank text stands for the standard settings.
-/

namespace BeanGen

open Json (Decoded Dialect RecordShape)

def CollectionPolicy.decode (dialect : Dialect) : Json → Decoded CollectionPolicy :=
  Json.plainChoice dialect [("legacy_indexed", .legacyIndexed), ("modern_indexed", .modernIndexed),
    ("no_index", .noIndex), ("external_store_backed", .externalStoreBacked)]

namespace RuntimeClasses

def toJson (r : RuntimeClasses) : Json :=
  .obj [
    ("access_mode", .str r.accessMode),
    ("external_store_factory", .str r.externalStoreFactory),
    ("external_store_type", .str r.externalStoreType),
    ("field_descriptor", .str r.fieldDescriptor),
    ("field_validator", .str r.fieldValidator),
    ("jdo_descriptor_base", .str r.jdoDescriptorBase),
    ("node_type", .str r.nodeType),
    ("type_validator", .str r.typeValidator),
    ("xml_descriptor_base", .str r.xmlDescriptorBase),
    ("xml_field_descriptor_impl", .str r.xmlFieldDescriptor),
    ("xml_field_handler", .str r.xmlFieldHandler)]

/-- What each key stands for when it is not given. -/
def absent : RuntimeClasses where
  xmlDescriptorBase := standard.xmlDescriptorBase
  jdoDescriptorBase := standard.jdoDescriptorBase
  fieldDescriptor := standard.fieldDescriptor
  xmlFieldDescriptor := standard.xmlFieldDescriptor
  xmlFieldHandler := standard.xmlFieldHandler
  fieldValidator := standard.fieldValidator
  typeValidator := standard.typeValidator
  nodeType := standard.nodeType
  accessMode := standard.accessMode
  externalStoreFactory := standard.externalStoreFactory
  externalStoreType := standard.externalStoreType

def shape : RecordShape RuntimeClasses where
  name := "RuntimeNames"
  keys := ["xml_descriptor_base", "jdo_descriptor_base", "field_descriptor",
    "xml_field_descriptor_impl", "xml_field_handler", "field_validator", "type_validator",
    "node_type", "access_mode", "external_store_factory", "external_store_type"]
  required := 0
  blank := .absent
  put key v r :=
    match key with
    | "xml_descriptor_base" => return { r with xmlDescriptorBase := ← Json.text v }
    | "jdo_descriptor_base" => return { r with jdoDescriptorBase := ← Json.text v }
    | "field_descriptor" => return { r with fieldDescriptor := ← Json.text v }
    | "xml_field_descriptor_impl" => return { r with xmlFieldDescriptor := ← Json.text v }
    | "xml_field_handler" => return { r with xmlFieldHandler := ← Json.text v }
    | "field_validator" => return { r with fieldValidator := ← Json.text v }
    | "type_validator" => return { r with typeValidator := ← Json.text v }
    | "node_type" => return { r with nodeType := ← Json.text v }
    | "access_mode" => return { r with accessMode := ← Json.text v }
    | "external_store_factory" => return { r with externalStoreFactory := ← Json.text v }
    | "external_store_type" => return { r with externalStoreType := ← Json.text v }
    | _ => return r

end RuntimeClasses

namespace Settings

def toJson (s : Settings) : Json :=
  .obj [
    ("bound_properties", .bool s.boundProperties),
    ("collection_policy", .str s.collectionPolicy.name),
    ("conflict_strategies", .str s.conflictStrategies),
    ("conflict_strategy", .str s.conflictStrategy),
    ("descriptor_suffix", .str s.descriptorSuffix),
    ("extra_annotations", .arr (s.arrayMarkers.map .str)),
    ("extra_collection_methods", .bool s.extraCollectionMethods),
    ("generate_descriptors", .bool s.generateDescriptors),
    ("generate_jdo_descriptors", .bool s.generateJdoDescriptors),
    ("jdo_descriptor_suffix", .str s.jdoDescriptorSuffix),
    ("log_level", .str s.logLevel),
    ("modern_mode", .bool s.modernMode),
    ("package", .str s.package),
    ("runtime", s.runtime.toJson),
    ("super_class", .ofText? s.superClass)]

/-- What each key stands for when it is not given. Some of these values are written down apart from
the standard settings. -/
def absent : Settings where
  package := ""
  collectionPolicy := .modernIndexed
  modernMode := true
  boundProperties := false
  extraCollectionMethods := false
  conflictStrategies := standard.conflictStrategies
  conflictStrategy := standard.conflictStrategy
  descriptorSuffix := standard.descriptorSuffix
  jdoDescriptorSuffix := standard.jdoDescriptorSuffix
  superClass := none
  generateDescriptors := true
  generateJdoDescriptors := false
  arrayMarkers := []
  logLevel := standard.logLevel
  runtime := .standard

def shape (dialect : Dialect) : RecordShape Settings where
  name := "GeneratorConfig"
  keys := ["package", "collection_policy", "modern_mode", "bound_properties",
    "extra_collection_methods", "conflict_strategies", "conflict_strategy", "descriptor_suffix",
    "jdo_descriptor_suffix", "super_class", "generate_descriptors", "generate_jdo_descriptors",
    "extra_annotations", "log_level", "runtime"]
  required := 0
  blank := .absent
  put key v s :=
    match key with
    | "package" => return { s with package := ← Json.text v }
    | "collection_policy" =>
      return { s with collectionPolicy := ← CollectionPolicy.decode dialect v }
    | "modern_mode" => return { s with modernMode := ← Json.flag v }
    | "bound_properties" => return { s with boundProperties := ← Json.flag v }
    | "extra_collection_methods" => return { s with extraCollectionMethods := ← Json.flag v }
    | "conflict_strategies" => return { s with conflictStrategies := ← Json.text v }
    | "conflict_strategy" => return { s with conflictStrategy := ← Json.text v }
    | "descriptor_suffix" => return { s with descriptorSuffix := ← Json.text v }
    | "jdo_descriptor_suffix" => return { s with jdoDescriptorSuffix := ← Json.text v }
    | "super_class" => return { s with superClass := ← Json.optional Json.text v }
    | "generate_descriptors" => return { s with generateDescriptors := ← Json.flag v }
    | "generate_jdo_descriptors" => return { s with generateJdoDescriptors := ← Json.flag v }
    | "extra_annotations" => return { s with arrayMarkers := ← Json.sequence Json.text v }
    | "log_level" => return { s with logLevel := ← Json.text v }
    | "runtime" => return { s with runtime := ← RuntimeClasses.shape.decode dialect v }
    | _ => return s

def decode (dialect : Dialect) : Json → Decoded Settings :=
  (shape dialect).decode dialect

/-- The items of a TOML array that are looked at: a record takes no more of them than it has fields,
so that what stands after those need not even have a value. -/
def tomlLimits : List (String × Nat) :=
  [("runtime", RuntimeClasses.shape.keys.length)]

def ofToml (text : String) : Except BindError Settings :=
  if Text.allBlank text then .ok .standard
  else
    match Toml.readJson tomlLimits text with
    | .error f => .error (.invalidConfiguration (f.message text))
    | .ok document =>
      (decode Json.tabular document).mapError fun f =>
        .invalidConfiguration ("TOML parse error: " ++ f.message)

end Settings

end BeanGen
