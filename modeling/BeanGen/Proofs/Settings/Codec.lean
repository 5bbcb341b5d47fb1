import BeanGen.Proofs.Schema.Codec
import BeanGen.Settings.Codec

/-!
# Settings from part of their encoding

No key of the settings is required. Whichever are left out, of the settings and of the runtime
classes in them, what they stand for is as in the standard settings, and keys that stand for nothing
are passed over.
-/

namespace BeanGen

open Json RecordShape

namespace Json.RecordShape

variable {α : Type} {shape : RecordShape α}

/-- Keys that are no keys of the record leave it as it is. -/
def PassesOver (shape : RecordShape α) : Prop :=
  ∀ k v r, k ∉ shape.keys → shape.put k v r = .ok r

theorem putAll_filter_keys (h : shape.PassesOver) (members : List (String × Json)) (r : α) :
    shape.putAll (members.filter (shape.keys.contains ·.1)) r = shape.putAll members r := by
  induction members generalizing r with
  | nil => rfl
  | cons m members ih =>
    rw [List.filter_cons]
    split
    · rw [putAll, putAll]
      exact congrArg _ (funext ih)
    · rename_i hUnknown
      rw [ih, putAll, h m.1 m.2 r (by simpa using hUnknown)]
      rfl

theorem putAll_map {change : String × Json → String × Json} {members : List (String × Json)}
    (h : ∀ m r, shape.put (change m).1 (change m).2 r = shape.put m.1 m.2 r) (r : α) :
    shape.putAll (members.map change) r = shape.putAll members r := by
  induction members generalizing r with
  | nil => rfl
  | cons m members ih =>
    rw [List.map_cons, putAll, putAll, h]
    exact congrArg _ (funext ih)

theorem ofMembers_congr {members others : List (String × Json)} (hRequired : shape.required = 0)
    (h : ∀ r, shape.putAll members r = shape.putAll others r) :
    shape.ofMembers members = shape.ofMembers others := by
  rw [ofMembers, ofMembers, h, firstMissing?, firstMissing?, hRequired]
  rfl

theorem decode_keeping_keys (hRequired : shape.required = 0) (h : shape.PassesOver)
    (dialect : Dialect) (v : Json) :
    shape.decode dialect (v.keeping (shape.keys.contains ·)) = shape.decode dialect v := by
  cases v with
  | obj members => exact ofMembers_congr hRequired (putAll_filter_keys h members)
  | _ => rfl

theorem decode_changing {key : String} {change : Json → Json} (hRequired : shape.required = 0)
    (h : ∀ v r, shape.put key (change v) r = shape.put key v r) (dialect : Dialect) (v : Json) :
    shape.decode dialect (v.changing key change) = shape.decode dialect v := by
  cases v with
  | obj members =>
    refine ofMembers_congr hRequired (putAll_map fun m r => ?_)
    split
    · rename_i hKey
      exact hKey ▸ h m.2 r
    · rfl
  | _ => rfl

end Json.RecordShape

/-! ## Runtime classes -/

namespace RuntimeClasses

/-- The classes `fresh` with what the given keys stand for taken from `r`. -/
def filling (r fresh : RuntimeClasses) (given : String → Bool) : RuntimeClasses where
  xmlDescriptorBase :=
    if given "xml_descriptor_base" then r.xmlDescriptorBase else fresh.xmlDescriptorBase
  jdoDescriptorBase :=
    if given "jdo_descriptor_base" then r.jdoDescriptorBase else fresh.jdoDescriptorBase
  fieldDescriptor := if given "field_descriptor" then r.fieldDescriptor else fresh.fieldDescriptor
  xmlFieldDescriptor :=
    if given "xml_field_descriptor_impl" then r.xmlFieldDescriptor else fresh.xmlFieldDescriptor
  xmlFieldHandler := if given "xml_field_handler" then r.xmlFieldHandler else fresh.xmlFieldHandler
  fieldValidator := if given "field_validator" then r.fieldValidator else fresh.fieldValidator
  typeValidator := if given "type_validator" then r.typeValidator else fresh.typeValidator
  nodeType := if given "node_type" then r.nodeType else fresh.nodeType
  accessMode := if given "access_mode" then r.accessMode else fresh.accessMode
  externalStoreFactory :=
    if given "external_store_factory" then r.externalStoreFactory else fresh.externalStoreFactory
  externalStoreType :=
    if given "external_store_type" then r.externalStoreType else fresh.externalStoreType

/-- The classes as the kept keys give them; what the others stand for is standard. -/
def keeping (kept : String → Bool) (r : RuntimeClasses) : RuntimeClasses :=
  r.filling standard kept

theorem absent_eq_standard : absent = standard :=
  rfl

theorem put_members (r : RuntimeClasses) :
    ∀ m ∈ r.toJson.members, ∀ given,
      shape.put m.1 m.2 (r.filling shape.blank given) =
        .ok (r.filling shape.blank fun k => k == m.1 || given k) := by
  simp only [toJson, members, List.forall_mem_cons]
  refine ⟨?_, ?_, ?_, ?_, ?_, ?_, ?_, ?_, ?_, ?_, ?_, ?_⟩
  all_goals simp [shape, filling, text, bind, Except.bind, pure, Except.pure]

theorem decode_keeping (dialect : Dialect) (kept : String → Bool) (r : RuntimeClasses) :
    shape.decode dialect (r.toJson.keeping kept) = .ok (r.keeping kept) := by
  refine ofMembers_eq_ok ?_ rfl
  refine (putAll_filter r.put_members kept fun _ => false).trans (congrArg Except.ok ?_)
  rw [keeping, ← absent_eq_standard]
  simp [toJson, members, filling, shape]

theorem passesOver_shape : shape.PassesOver := by
  intro k v r hUnknown
  simp only [shape]
  split
  all_goals first
    | rfl
    | exact absurd (by decide) hUnknown

end RuntimeClasses

/-! ## Settings -/

theorem CollectionPolicy.decode_name (dialect : Dialect) (p : CollectionPolicy) :
    decode dialect (.str p.name) = .ok p := by
  cases p <;> rfl

namespace Settings

/-- The settings `fresh` with what the given keys stand for taken from `s`. -/
def filling (s fresh : Settings) (given : String → Bool) : Settings where
  package := if given "package" then s.package else fresh.package
  collectionPolicy :=
    if given "collection_policy" then s.collectionPolicy else fresh.collectionPolicy
  modernMode := if given "modern_mode" then s.modernMode else fresh.modernMode
  boundProperties := if given "bound_properties" then s.boundProperties else fresh.boundProperties
  extraCollectionMethods :=
    if given "extra_collection_methods" then s.extraCollectionMethods
    else fresh.extraCollectionMethods
  conflictStrategies :=
    if given "conflict_strategies" then s.conflictStrategies else fresh.conflictStrategies
  conflictStrategy :=
    if given "conflict_strategy" then s.conflictStrategy else fresh.conflictStrategy
  descriptorSuffix :=
    if given "descriptor_suffix" then s.descriptorSuffix else fresh.descriptorSuffix
  jdoDescriptorSuffix :=
    if given "jdo_descriptor_suffix" then s.jdoDescriptorSuffix else fresh.jdoDescriptorSuffix
  superClass := if given "super_class" then s.superClass else fresh.superClass
  generateDescriptors :=
    if given "generate_descriptors" then s.generateDescriptors else fresh.generateDescriptors
  generateJdoDescriptors :=
    if given "generate_jdo_descriptors" then s.generateJdoDescriptors
    else fresh.generateJdoDescriptors
  arrayMarkers := if given "extra_annotations" then s.arrayMarkers else fresh.arrayMarkers
  logLevel := if given "log_level" then s.logLevel else fresh.logLevel
  runtime := if given "runtime" then s.runtime else fresh.runtime

/-- The settings as the kept keys give them: `kept` of their own, and `keptOf` of the runtime
classes. What the others stand for is standard. -/
def keeping (kept keptOf : String → Bool) (s : Settings) : Settings :=
  filling { s with runtime := s.runtime.keeping keptOf } standard kept

/-- The settings as they are written with only the kept keys. -/
def partJson (kept keptOf : String → Bool) (s : Settings) : Json :=
  (s.toJson.changing "runtime" (·.keeping keptOf)).keeping kept

/-- The value without the keys that stand for nothing, also without those of the runtime classes. -/
def knownPart (v : Json) : Json :=
  (v.changing "runtime" (·.keeping (RuntimeClasses.shape.keys.contains ·))).keeping
    ((shape strict).keys.contains ·)

/-- The values for missing keys agree with the standard settings, although some are given twice. -/
theorem absent_eq_standard : absent = standard :=
  rfl

theorem put_members (dialect : Dialect) (s : Settings) (keptOf : String → Bool) :
    ∀ m ∈ (s.toJson.changing "runtime" (·.keeping keptOf)).members, ∀ given,
      (shape dialect).put m.1 m.2
          (filling { s with runtime := s.runtime.keeping keptOf } absent given) =
        .ok (filling { s with runtime := s.runtime.keeping keptOf } absent
          fun k => k == m.1 || given k) := by
  have hPolicy := CollectionPolicy.decode_name dialect s.collectionPolicy
  have hRuntime := s.runtime.decode_keeping dialect keptOf
  have hMarkers : Json.sequence text (.arr (s.arrayMarkers.map .str)) = .ok s.arrayMarkers :=
    each_map fun _ _ => rfl
  simp only [toJson, changing, List.map_cons, List.map_nil, String.reduceEq, if_false, if_true,
    members, List.forall_mem_cons]
  refine ⟨?_, ?_, ?_, ?_, ?_, ?_, ?_, ?_, ?_, ?_, ?_, ?_, ?_, ?_, ?_, ?_⟩
  all_goals simp [shape, filling, optional_ofText?, flag, text, bind, Except.bind, pure,
    Except.pure, *]

theorem decode_partJson (dialect : Dialect) (s : Settings) (kept keptOf : String → Bool) :
    decode dialect (s.partJson kept keptOf) = .ok (s.keeping kept keptOf) := by
  refine ofMembers_eq_ok ?_ rfl
  refine (putAll_filter (put_members dialect s keptOf) kept fun _ => false).trans
    (congrArg Except.ok ?_)
  rw [keeping, ← absent_eq_standard]
  simp [toJson, changing, members, filling]

theorem decode_toJson (dialect : Dialect) (s : Settings) : decode dialect s.toJson = .ok s := by
  have hAll : s.partJson (fun _ => true) (fun _ => true) = s.toJson := rfl
  rw [← hAll, decode_partJson]
  rfl

theorem passesOver_shape (dialect : Dialect) : (shape dialect).PassesOver := by
  intro k v s hUnknown
  have hUnknown : k ∉ (shape strict).keys := hUnknown
  simp only [shape]
  split
  all_goals first
    | rfl
    | exact absurd (by decide) hUnknown

theorem decode_knownPart (dialect : Dialect) (v : Json) :
    decode dialect (knownPart v) = decode dialect v := by
  have hRuntime (v : Json) (s : Settings) :
      (shape dialect).put "runtime" (v.keeping (RuntimeClasses.shape.keys.contains ·)) s =
        (shape dialect).put "runtime" v s := by
    simp only [shape, decode_keeping_keys rfl RuntimeClasses.passesOver_shape]
  exact (decode_keeping_keys rfl (passesOver_shape dialect) dialect _).trans
    (decode_changing rfl hRuntime dialect v)

/-- Settings decode from any part of their encoding, in every format: what the keys that are kept
stand for is as it was, and all else is standard. From the whole encoding they decode as they were;
from nothing, as from a blank text, they are standard. Keys that stand for nothing change nothing,
in the text of a document either. -/
theorem settings_from_part (dialect : Dialect) (s : Settings) :
    (∀ kept keptOf, decode dialect (s.partJson kept keptOf) = .ok (s.keeping kept keptOf)) ∧
    decode dialect s.toJson = .ok s ∧
    decode dialect (.obj []) = .ok standard ∧
    (∀ text, Text.allBlank text = true → ofToml text = .ok standard) ∧
    (∀ v, decode dialect (knownPart v) = decode dialect v) ∧
    ∀ text document kept keptOf, Text.allBlank text = false →
      Toml.readJson tomlLimits text = .ok document → knownPart document = s.partJson kept keptOf →
      ofToml text = .ok (s.keeping kept keptOf) := by
  refine ⟨decode_partJson dialect s, decode_toJson dialect s, rfl, fun text hBlank => if_pos hBlank,
    decode_knownPart dialect, ?_⟩
  intro text document kept keptOf hText hRead hPart
  have hDecode : decode tabular document = .ok (s.keeping kept keptOf) := by
    rw [← decode_knownPart, hPart, decode_partJson]
  rw [ofToml, hText, if_neg Bool.false_ne_true, hRead]
  simp only [hDecode, Except.mapError]

example : decode strict (.obj [("runtime", .obj [("node_type", .str "Kind"), ("kind", .null)])]) =
    .ok { standard with runtime := { RuntimeClasses.standard with nodeType := "Kind" } } :=
  rfl

end Settings

end BeanGen
