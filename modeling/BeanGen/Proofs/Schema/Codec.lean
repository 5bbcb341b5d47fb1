import BeanGen.Proofs.Json.Decoding
import BeanGen.Proofs.Json.Printing
import BeanGen.Schema.Codec

/-!
# Models survive their encoding

A type decodes from its own encoding. Keys that need not be given may be left out, of the type and
of each of its fields; the fields of the record they stand for are then as in a new record. The same
holds of the text of an encoding, in whichever order its members are written.
-/

namespace BeanGen

namespace Json

def members : Json → List (String × Json)
  | .obj members => members
  | _ => []

/-- The object with the members whose keys are kept. -/
def keeping (kept : String → Bool) : Json → Json
  | .obj members => .obj (members.filter (kept ·.1))
  | v => v

/-- The object with one member changed. -/
def changing (key : String) (change : Json → Json) : Json → Json
  | .obj members => .obj (members.map fun m => if m.1 = key then (m.1, change m.2) else m)
  | v => v

/-- The array with its items changed, each by its place. -/
def changingItems (change : Nat → Json → Json) : Json → Json
  | .arr items => .arr (items.mapIdx change)
  | v => v

end Json

open Json RecordShape

/-! ## Notes -/

theorem Documentation.decode_toJson (d : Documentation) : shape.decode strict d.toJson = .ok d := by
  refine ofMembers_eq_ok ?_ rfl
  simp [putAll, shape, optional_ofText?, bind, Except.bind, pure, Except.pure]

theorem SchemaNote.decode_toJson (n : SchemaNote) : shape.decode strict n.toJson = .ok n := by
  have hEntries := each_map fun d (_ : d ∈ n.entries) => d.decode_toJson
  refine ofMembers_eq_ok ?_ rfl
  simp [putAll, shape, Json.sequence, hEntries, bind, Except.bind, pure, Except.pure]

theorem SchemaNote.decodeAll_toJson (notes : List SchemaNote) :
    decodeAll (.arr (notes.map toJson)) = .ok notes :=
  each_map fun n _ => n.decode_toJson

/-! ## Choices -/

theorem ContentKind.decode_toJson (kind : ContentKind) : decode kind.toJson = .ok kind := by
  cases kind <;> rfl

theorem NodeKind.decode_toJson (node : NodeKind) : decode node.toJson = .ok node := by
  cases node <;> rfl

theorem AccessMode.decode_toJson (mode : AccessMode) : decode mode.toJson = .ok mode := by
  cases mode <;> rfl

theorem AccessMode.optional_optionToJson (mode? : Option AccessMode) :
    optional decode (optionToJson mode?) = .ok mode? := by
  cases mode? with
  | none => rfl
  | some mode => cases mode <;> rfl

/-- The bound of a collection is a number of 32 bits. -/
def Multiplicity.InRange : Multiplicity → Prop
  | .single => True
  | .many max => minInt32 ≤ max ∧ max ≤ maxInt32

instance (m : Multiplicity) : Decidable m.InRange :=
  match m with
  | .single => inferInstanceAs (Decidable True)
  | .many max => inferInstanceAs (Decidable (minInt32 ≤ max ∧ max ≤ maxInt32))

theorem Multiplicity.decode_toJson {m : Multiplicity} (h : m.InRange) :
    decode m.toJson = .ok m := by
  cases m with
  | single => rfl
  | many max =>
    have hMax : int32 (.int max) = .ok max := if_pos (by simpa [InRange] using h)
    have hFields : maxShape.ofMembers [("max", .int max)] = .ok max := by
      refine ofMembers_eq_ok ?_ rfl
      simp [putAll, maxShape, hMax, bind, Except.bind]
    simp [toJson, decode, choice, withFields, hFields, bind, Except.bind, Except.map]

/-! ## Fields -/

namespace BoundField

/-- The field `fresh` with what the given keys stand for taken from `f`. -/
def filling (f fresh : BoundField) (given : String → Bool) : BoundField where
  name := if given "name" then f.name else fresh.name
  content := if given "content_type" then f.content else fresh.content
  suffix := if given "method_suffix" then f.suffix else fresh.suffix
  bound := if given "bound" then f.bound else fresh.bound
  multiplicity := if given "multiplicity" then f.multiplicity else fresh.multiplicity
  defaultValue := if given "default_value" then f.defaultValue else fresh.defaultValue
  extraMethods := if given "extra_methods" then f.extraMethods else fresh.extraMethods
  externalName := if given "xml_name" then f.externalName else fresh.externalName
  node := if given "node_type" then f.node else fresh.node
  required := if given "required" then f.required else fresh.required
  columnName := if given "sql_name" then f.columnName else fresh.columnName
  notes := if given "annotations" then f.notes else fresh.notes

/-- The field as its kept keys give it; what the others stand for is as in a new field. -/
def keeping (kept : String → Bool) (f : BoundField) : BoundField :=
  f.filling (single f.name f.content f.suffix) kept

theorem put_members {f : BoundField} (hRange : f.multiplicity.InRange) :
    ∀ m ∈ f.toJson.members, ∀ given,
      shape.put m.1 m.2 (f.filling shape.blank given) =
        .ok (f.filling shape.blank fun k => k == m.1 || given k) := by
  have hNotes := SchemaNote.decodeAll_toJson f.notes
  have hContent := f.content.decode_toJson
  have hMultiplicity := Multiplicity.decode_toJson hRange
  have hNode := f.node.decode_toJson
  simp only [toJson, members, List.forall_mem_cons]
  refine ⟨?_, ?_, ?_, ?_, ?_, ?_, ?_, ?_, ?_, ?_, ?_, ?_, ?_⟩
  all_goals simp [shape, filling, optional_ofText?, flag, text, bind, Except.bind, pure,
    Except.pure, *]

theorem decode_keeping {f : BoundField} (hRange : f.multiplicity.InRange) {kept : String → Bool}
    (hKept : ∀ k ∈ shape.keys.take shape.required, kept k = true) :
    decode (f.toJson.keeping kept) = .ok (f.keeping kept) := by
  have hName : kept "name" = true := hKept _ (by decide)
  have hContent : kept "content_type" = true := hKept _ (by decide)
  have hSuffix : kept "method_suffix" = true := hKept _ (by decide)
  refine ofMembers_eq_ok ?_ (firstMissing?_filter rfl hKept)
  refine (putAll_filter (put_members hRange) kept fun _ => false).trans (congrArg Except.ok ?_)
  simp [toJson, members, filling, keeping, hName, hContent, hSuffix, shape, single]

theorem decode_toJson {f : BoundField} (hRange : f.multiplicity.InRange) :
    decode f.toJson = .ok f := by
  have hAll : f.toJson.keeping (fun _ => true) = f.toJson := rfl
  rw [← hAll, decode_keeping hRange fun _ _ => rfl]
  rfl

end BoundField

/-! ## Types -/

namespace BoundType

/-- The bounds of the collections are numbers of 32 bits. -/
def InRange (t : BoundType) : Prop :=
  ∀ f ∈ t.fields, f.multiplicity.InRange

instance (t : BoundType) : Decidable t.InRange :=
  inferInstanceAs (Decidable (∀ f ∈ t.fields, f.multiplicity.InRange))

/-- The type `fresh` with what the given keys stand for taken from `t`. -/
def filling (t fresh : BoundType) (given : String → Bool) : BoundType where
  name := if given "name" then t.name else fresh.name
  parent := if given "parent" then t.parent else fresh.parent
  elementDefinition :=
    if given "element_definition" then t.elementDefinition else fresh.elementDefinition
  namespacePrefix := if given "namespace_prefix" then t.namespacePrefix else fresh.namespacePrefix
  namespaceUri := if given "namespace_uri" then t.namespaceUri else fresh.namespaceUri
  externalName := if given "xml_name" then t.externalName else fresh.externalName
  identities := if given "identities" then t.identities else fresh.identities
  accessMode := if given "access_mode" then t.accessMode else fresh.accessMode
  validator := if given "validator" then t.validator else fresh.validator
  tableName := if given "table_name" then t.tableName else fresh.tableName
  isAbstract := if given "is_abstract" then t.isAbstract else fresh.isAbstract
  notes := if given "annotations" then t.notes else fresh.notes
  fields := if given "fields" then t.fields else fresh.fields

/-- The type as the kept keys give it: `kept` of its own, and `keptOf` of the field at a place. -/
def keeping (kept : String → Bool) (keptOf : Nat → String → Bool) (t : BoundType) : BoundType :=
  filling { t with fields := t.fields.mapIdx fun i f => f.keeping (keptOf i) } (ofName t.name) kept

/-- The type as it is written with only the kept keys. -/
def partJson (kept : String → Bool) (keptOf : Nat → String → Bool) (t : BoundType) : Json :=
  (t.toJson.changing "fields" (changingItems fun i v => v.keeping (keptOf i))).keeping kept

theorem put_members {t : BoundType} {change : Json → Json} {fields : List BoundField}
    (hFields : Json.sequence BoundField.decode (change (.arr (t.fields.map BoundField.toJson))) =
      .ok fields) :
    ∀ m ∈ (t.toJson.changing "fields" change).members, ∀ given,
      shape.put m.1 m.2 (filling { t with fields } shape.blank given) =
        .ok (filling { t with fields } shape.blank fun k => k == m.1 || given k) := by
  have hNotes := SchemaNote.decodeAll_toJson t.notes
  have hMode := AccessMode.optional_optionToJson t.accessMode
  have hIdentities : Json.sequence text (.arr (t.identities.map .str)) = .ok t.identities :=
    each_map fun _ _ => rfl
  simp only [toJson, changing, List.map_cons, List.map_nil, String.reduceEq, if_false, if_true,
    members, List.forall_mem_cons]
  refine ⟨?_, ?_, ?_, ?_, ?_, ?_, ?_, ?_, ?_, ?_, ?_, ?_, ?_, ?_⟩
  all_goals simp [shape, filling, optional_ofText?, flag, text, bind, Except.bind, pure,
    Except.pure, *]

theorem decode_changing {t : BoundType} {change : Json → Json} {fields : List BoundField}
    (hFields : Json.sequence BoundField.decode (change (.arr (t.fields.map BoundField.toJson))) =
      .ok fields) {kept : String → Bool}
    (hKept : ∀ k ∈ shape.keys.take shape.required, kept k = true) :
    decode ((t.toJson.changing "fields" change).keeping kept) =
      .ok (filling { t with fields } (ofName t.name) kept) := by
  have hName : kept "name" = true := hKept _ (by decide)
  refine ofMembers_eq_ok ?_ (firstMissing?_filter rfl hKept)
  refine (putAll_filter (put_members hFields) kept fun _ => false).trans (congrArg Except.ok ?_)
  simp [toJson, changing, members, filling, hName, shape, ofName]

theorem decode_toJson {t : BoundType} (hRange : t.InRange) : decode t.toJson = .ok t := by
  have hFields : Json.sequence BoundField.decode (.arr (t.fields.map BoundField.toJson)) =
      .ok t.fields := each_map fun f hf => BoundField.decode_toJson (hRange f hf)
  have hAll : (t.toJson.changing "fields" id).keeping (fun _ => true) = t.toJson := rfl
  rw [← hAll, decode_changing hFields fun _ _ => rfl]
  rfl

theorem decode_partJson {t : BoundType} (hRange : t.InRange) {kept : String → Bool}
    {keptOf : Nat → String → Bool} (hKept : ∀ k ∈ shape.keys.take shape.required, kept k = true)
    (hKeptOf : ∀ i, ∀ k ∈ BoundField.shape.keys.take BoundField.shape.required,
      keptOf i k = true) :
    decode (t.partJson kept keptOf) = .ok (t.keeping kept keptOf) := by
  have hFields : Json.sequence BoundField.decode
      (changingItems (fun i v => v.keeping (keptOf i)) (.arr (t.fields.map BoundField.toJson))) =
        .ok (t.fields.mapIdx fun i f => f.keeping (keptOf i)) :=
    each_mapIdx fun f hf i => BoundField.decode_keeping (hRange f hf) (hKeptOf i)
  exact decode_changing hFields hKept

end BoundType

/-! ## Texts -/

theorem Json.fits_ofText? (depth : Nat) (text? : Option String) :
    fits depth (ofText? text?) = true := by
  cases text? <;> cases depth <;> rfl

theorem Documentation.fits_toJson (depth : Nat) (d : Documentation) :
    fits (depth + 1) d.toJson = true := by
  simp [toJson, fits, fits_ofText?]

theorem SchemaNote.fits_toJson (depth : Nat) (n : SchemaNote) :
    fits (depth + 3) n.toJson = true := by
  simp [toJson, fits, Documentation.fits_toJson]

theorem Multiplicity.fits_toJson (depth : Nat) {m : Multiplicity} (h : m.InRange) :
    fits (depth + 2) m.toJson = true := by
  cases m with
  | single => rfl
  | many max =>
    obtain ⟨hLow, hHigh⟩ := h
    have hPow : Int.pow 2 64 = 18446744073709551616 := by decide
    have hHalf : Int.pow 2 63 = 9223372036854775808 := by decide
    have hMax : fits depth (.int max) = true := by
      rw [minInt32] at hLow
      rw [maxInt32] at hHigh
      cases depth <;> simp [fits] <;> omega
    simp [toJson, fits, hMax]

theorem BoundField.fits_toJson (depth : Nat) {f : BoundField} (h : f.multiplicity.InRange) :
    fits (depth + 5) f.toJson = true := by
  have hMultiplicity := Multiplicity.fits_toJson (depth + 2) h
  have hContent : fits (depth + 4) f.content.toJson = true := by cases f.content <;> rfl
  have hNode : fits (depth + 4) f.node.toJson = true := by cases f.node <;> rfl
  simp [toJson, fits, fits_ofText?, SchemaNote.fits_toJson, hMultiplicity, hContent, hNode]

theorem BoundType.fits_toJson (depth : Nat) {t : BoundType} (h : t.InRange) :
    fits (depth + 7) t.toJson = true := by
  have hMode : fits (depth + 6) (AccessMode.optionToJson t.accessMode) = true := by
    rcases t.accessMode with - | mode
    · rfl
    · cases mode <;> rfl
  have hFields : ∀ f ∈ t.fields, fits (depth + 5) f.toJson = true := fun f hf =>
    BoundField.fits_toJson depth (h f hf)
  simpa [toJson, fits, fits_ofText?, SchemaNote.fits_toJson (depth + 2), hMode] using hFields

/-! The encodings list their keys in ascending order, so they are the values their texts hold. -/

theorem Json.ascending_str (s : String) : (Json.str s).ascending = .str s :=
  rfl

theorem Json.ascending_bool (b : Bool) : (Json.bool b).ascending = .bool b :=
  rfl

theorem Json.ascending_ofText? (text? : Option String) :
    (ofText? text?).ascending = ofText? text? := by
  cases text? <;> rfl

theorem Json.ascending_arr_map {α : Type} {write : α → Json} {xs : List α}
    (h : ∀ x, (write x).ascending = write x) :
    (Json.arr (xs.map write)).ascending = .arr (xs.map write) := by
  rw [ascending, ascendingItems_eq_map, List.map_map]
  exact congrArg Json.arr (List.map_congr_left fun x _ => h x)

theorem Documentation.ascending_toJson (d : Documentation) : d.toJson.ascending = d.toJson := by
  refine ascending_obj ?_ ?_
  · simp only [List.map_cons, List.map_nil]
    decide +kernel
  · simp [ascending_ofText?]

theorem SchemaNote.ascending_toJson (n : SchemaNote) : n.toJson.ascending = n.toJson := by
  refine ascending_obj (by simp) ?_
  simp [ascending_arr_map Documentation.ascending_toJson]

theorem Multiplicity.ascending_toJson (m : Multiplicity) : m.toJson.ascending = m.toJson := by
  cases m <;> rfl

theorem BoundField.ascending_toJson (f : BoundField) : f.toJson.ascending = f.toJson := by
  have hContent : f.content.toJson.ascending = f.content.toJson := by cases f.content <;> rfl
  have hNode : f.node.toJson.ascending = f.node.toJson := by cases f.node <;> rfl
  refine ascending_obj ?_ ?_
  · simp only [List.map_cons, List.map_nil]
    decide +kernel
  · simp [ascending_ofText?, ascending_arr_map SchemaNote.ascending_toJson,
      Multiplicity.ascending_toJson, hContent, hNode, ascending_str, ascending_bool]

theorem BoundType.ascending_toJson (t : BoundType) : t.toJson.ascending = t.toJson := by
  have hMode : (AccessMode.optionToJson t.accessMode).ascending =
      AccessMode.optionToJson t.accessMode := by
    rcases t.accessMode with - | mode
    · rfl
    · cases mode <;> rfl
  have hIdentities : (arr (t.identities.map .str)).ascending = arr (t.identities.map .str) :=
    ascending_arr_map fun _ => rfl
  refine ascending_obj ?_ ?_
  · simp only [List.map_cons, List.map_nil]
    decide +kernel
  · simp [ascending_ofText?, ascending_arr_map SchemaNote.ascending_toJson,
      ascending_arr_map BoundField.ascending_toJson, hIdentities, hMode,
      ascending_str, ascending_bool]

/-! ## Documents -/

theorem decodeModel_toJson {t : BoundType} (h : t.InRange) : decodeModel t.toJson = .ok [t] := by
  have hOne : decodeModel t.toJson = (BoundType.decode t.toJson).map ([·]) := rfl
  rw [hOne, BoundType.decode_toJson h]
  rfl

theorem decodeModel_arr {ts : List BoundType} (h : ∀ t ∈ ts, t.InRange) :
    decodeModel (.arr (ts.map BoundType.toJson)) = .ok ts :=
  each_map fun t ht => BoundType.decode_toJson (h t ht)

theorem readModel_render {v : Json} (hFits : v.fits maxDepth = true) :
    readModel v.render = (decodeModel v.ascending).mapError fun f => .serialization f.message := by
  rw [readModel, read_render hFits]

/-- Types decode from their encodings and are read from the text of them, one or several, with the
members of every object in any order. Without some of the keys that need not be given, the fields
these stand for are as in a new type or field, and all others as they were. -/
theorem model_round_trip {ts : List BoundType} (hRange : ∀ t ∈ ts, t.InRange) :
    (∀ t ∈ ts, BoundType.decode t.toJson = .ok t ∧ readModel t.toJson.render = .ok [t]) ∧
    readModel (Json.arr (ts.map BoundType.toJson)).render = .ok ts ∧
    (∀ v : Json, v.fits maxDepth = true →
      (v.ascending = .arr (ts.map BoundType.toJson) → readModel v.render = .ok ts) ∧
      ∀ t ∈ ts, v.ascending = t.toJson → readModel v.render = .ok [t]) ∧
    ∀ t ∈ ts, ∀ (kept : String → Bool) (keptOf : Nat → String → Bool), kept "name" = true →
      (∀ i, ∀ k ∈ ["name", "content_type", "method_suffix"], keptOf i k = true) →
      BoundType.decode (t.partJson kept keptOf) = .ok (t.keeping kept keptOf) := by
  have hMany : ∀ v : Json, v.fits maxDepth = true →
      v.ascending = .arr (ts.map BoundType.toJson) → readModel v.render = .ok ts := by
    intro v hFits hValue
    rw [readModel_render hFits, hValue, decodeModel_arr hRange]
    rfl
  have hOne : ∀ t ∈ ts, ∀ v : Json, v.fits maxDepth = true → v.ascending = t.toJson →
      readModel v.render = .ok [t] := by
    intro t ht v hFits hValue
    rw [readModel_render hFits, hValue, decodeModel_toJson (hRange t ht)]
    rfl
  refine ⟨?_, ?_, ?_, ?_⟩
  · intro t ht
    have hFits : t.toJson.fits maxDepth = true := BoundType.fits_toJson 120 (hRange t ht)
    exact ⟨BoundType.decode_toJson (hRange t ht), hOne t ht _ hFits t.ascending_toJson⟩
  · refine hMany _ ?_ (ascending_arr_map BoundType.ascending_toJson)
    rw [maxDepth, fits, List.all_map]
    exact List.all_eq_true.mpr fun t ht => BoundType.fits_toJson 119 (hRange t ht)
  · exact fun v hFits => ⟨hMany v hFits, fun t ht => hOne t ht v hFits⟩
  · intro t ht kept keptOf hName hRequired
    refine BoundType.decode_partJson (hRange t ht) ?_ hRequired
    exact fun k hk => List.mem_singleton.mp hk ▸ hName

def catalogType : BoundType :=
  { BoundType.ofName "shop.Catalog" with
    namespaceUri := some "urn:\"shop\""
    identities := ["code"]
    accessMode := some .dbLocked
    notes := [⟨[⟨some "Goods\tand\x01 prices", none⟩]⟩]
    fields := [
      { BoundField.single "_code" .long "Code" with required := true, node := .attribute },
      { BoundField.collection "items" (.bound "shop.Item") "Item" (-1) with bound := true }] }

/-- The object with its members in the order of the given keys. -/
def Json.arranged (keys : List String) (v : Json) : Json :=
  .obj (keys.filterMap fun k => (v.members.lookup k).map fun value => (k, value))

/-- The type is read from a text with its keys, and those of its fields, in the order of their
declaration. With just the keys that must be given it is a new type with new fields. -/
theorem catalog_model_round_trip :
    (∀ t ∈ [catalogType], t.InRange) ∧
      readModel ((catalogType.toJson.changing "fields" (changingItems fun _ v =>
        v.arranged BoundField.shape.keys)).arranged BoundType.shape.keys).render =
          .ok [catalogType] ∧
      BoundType.decode (catalogType.partJson (["name", "fields"].contains ·) fun _ k =>
        ["name", "content_type", "method_suffix"].contains k) =
          .ok { BoundType.ofName "shop.Catalog" with
            fields := [.single "_code" .long "Code",
              .single "items" (.bound "shop.Item") "Item"] } := by
  have hRange : ∀ t ∈ [catalogType], t.InRange := by decide
  obtain ⟨-, -, hTexts, hParts⟩ := model_round_trip hRange
  refine ⟨hRange, (hTexts _ (by decide +kernel)).2 catalogType List.mem_cons_self rfl, ?_⟩
  exact hParts catalogType List.mem_cons_self _ _ rfl (fun _ => by decide)

end BeanGen
