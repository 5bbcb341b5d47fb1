import BeanGen.Proofs.Generation.BoundClass
import BeanGen.Proofs.Schema.Acceptance
import Mathlib.Data.List.Forall2

/-!
# What the constructor of a class sets up

A bound class has one constructor, which takes no parameters. It calls that of the superclass and
then goes through the fields in the order of their declaration: a collection is made, and what is
declared as the default of a field is added to the collection or assigned.
-/

namespace BeanGen.Generation

open Accessor Java

/-- The expression of a new collection. It makes an object of the class that the policy asks for,
with the type of the values under modern settings; an external store is made by its own factory. -/
def newCollection (s : Settings) (f : BoundField) : String :=
  let new (className : String) := "new " ++
    (if s.modernMode then className ++ "<" ++ f.valueType.writtenBoxed ++ ">" else className) ++ "()"
  match s.collectionPolicy with
  | .legacyIndexed => new "Vector"
  | .modernIndexed => new "ArrayList"
  | .noIndex => new "HashSet"
  | .externalStoreBacked => s.runtime.externalStoreFactory

/-- The expression of a value as a collection holds it: an object, made by hand where the collection
has no type of its values. -/
def heldValue (s : Settings) (f : BoundField) (value : String) : String :=
  if s.modernMode = true ∧ s.collectionPolicy ≠ .externalStoreBacked then f.valueType.literal value
  else f.valueType.toObject (f.valueType.literal value)

/-- The lines in which a constructor sets up one field. -/
inductive SetsUp (s : Settings) (f : BoundField) : List Line → Prop
  | empty : f.isCollection = true → (∀ value, f.defaultValue = some value → value = "") →
      SetsUp s f [line ("this." ++ f.name ++ " = " ++ newCollection s f ++ ";")]
  | filled {value : String} : f.isCollection = true → f.defaultValue = some value → value ≠ "" →
      SetsUp s f [line ("this." ++ f.name ++ " = " ++ newCollection s f ++ ";"),
        line ("this." ++ f.name ++ ".add(" ++ heldValue s f value ++ ");")]
  | unset : f.isCollection = false → (∀ value, f.defaultValue = some value → value = "") →
      SetsUp s f []
  | assigned {value : String} : f.isCollection = false → f.defaultValue = some value →
      value ≠ "" →
      SetsUp s f [line ("this." ++ f.name ++ " = " ++ f.valueType.literal value ++ ";")]

section Field

variable (s : Settings) (f : BoundField)

theorem emptyValue_ofSettings : (Holding.ofSettings s).emptyValue f = newCollection s f := by
  have hVector : simpleName "java.util.Vector" = "Vector" := by decide
  have hList : simpleName "java.util.ArrayList" = "ArrayList" := by decide
  have hSet : simpleName "java.util.HashSet" = "HashSet" := by decide
  rw [Holding.emptyValue, Holding.createdClass?, Holding.ofSettings, newCollection]
  cases s.collectionPolicy <;> cases s.modernMode <;>
    simp [Holding.ofElements, Holding.isTyped, Holding.valueType, hVector, hList, hSet]

theorem toElement_ofSettings (value : String) :
    ((Holding.ofSettings s).layout f).toElement (f.valueType.literal value) =
      heldValue s f value := by
  rw [Layout.toElement, Holding.layout, Holding.isTyped, Holding.ofSettings, heldValue]
  cases s.collectionPolicy <;> cases s.modernMode <;> simp

theorem setsUp_initialLines : SetsUp s f (initialLines s f) := by
  have hNone : f.effectiveDefault? = none → ∀ value, f.defaultValue = some value → value = "" := by
    intro hDefault value hValue
    by_contra hSome
    rw [BoundField.effectiveDefault?_eq_some_iff.mpr ⟨hValue, hSome⟩] at hDefault
    cases hDefault
  rw [initialLines]
  split
  · rename_i hCollection
    rw [Collection.initialLines]
    cases hDefault : f.effectiveDefault? with
    | none =>
      have hLines := SetsUp.empty (s := s) hCollection (hNone hDefault)
      rwa [← emptyValue_ofSettings] at hLines
    | some value =>
      obtain ⟨hValue, hSome⟩ := BoundField.effectiveDefault?_eq_some_iff.mp hDefault
      have hLines := SetsUp.filled (s := s) hCollection hValue hSome
      rwa [← emptyValue_ofSettings, ← toElement_ofSettings] at hLines
  · rename_i hSingle
    have hSingle : f.isCollection = false := Bool.eq_false_iff.mpr hSingle
    rw [Scalar.initialLines]
    cases hDefault : f.effectiveDefault? with
    | none => exact .unset hSingle (hNone hDefault)
    | some value =>
      obtain ⟨hValue, hSome⟩ := BoundField.effectiveDefault?_eq_some_iff.mp hDefault
      exact .assigned hSingle hValue hSome

end Field

theorem constructors_boundClass (s : Settings) (t : BoundType) :
    (boundClass s t).constructors = [initialConstructor s (effectiveFields s t)] := by
  have hEmpty : (emptyClass s t).constructors = [] :=
    (ClassDecl.Frame.addImports (.ofName t.name) _).constructors
  have hFields := (frame_foldl_withProperty s (effectiveFields s t) (emptyClass s t)).constructors
  rw [boundClass, ClassDecl.addConstructor]
  simp only [hFields, hEmpty, List.nil_append]

/-- A setting for the whole class, bound properties or further methods, changes no line. -/
theorem lines_initialConstructor (s : Settings) (t : BoundType) :
    (initialConstructor s (effectiveFields s t)).body.lines =
      line "super();" :: (t.fields.map (initialLines s)).flatten := by
  have hSame : ∀ f, initialLines s (effectiveField s f) = initialLines s f := fun _ => rfl
  rw [initialConstructor, Block.ofLines, effectiveFields, List.flatMap_map, List.flatMap_def]
  simp only [hSame]

/-- The class of a valid type has one constructor. It takes no parameters, and its lines call the
constructor of the superclass and then set up the fields, one after another. -/
theorem constructor_sets_up_fields (s : Settings) {t : BoundType} (hValid : t.validate = .ok ()) :
    ∃ c k blocks, buildClass s t = .ok c ∧ c.constructors = [k] ∧ k.parameters = [] ∧
      List.Forall₂ (SetsUp s) t.fields blocks ∧
      k.body.lines = line "super();" :: blocks.flatten := by
  have hBuild : buildClass s t = .ok (boundClass s t) := by
    rw [buildClass_eq, hValid]
    rfl
  refine ⟨boundClass s t, initialConstructor s (effectiveFields s t),
    t.fields.map (initialLines s), hBuild, constructors_boundClass s t, rfl, ?_,
    lines_initialConstructor s t⟩
  rw [List.forall₂_map_right_iff, List.forall₂_same]
  exact fun f _ => setsUp_initialLines s f

/-- Two collections and two single fields, of which one of each kind has a default. -/
def shelfType : BoundType :=
  { BoundType.ofName "Shelf" with
    fields := [
      { BoundField.collection "_counts" .int "Count" 0 with defaultValue := some "7" },
      { BoundField.single "label" .string "Label" with defaultValue := some "in \"bulk\"" },
      .collection "tags" .string "Tag" 5,
      { BoundField.single "note" .string "Note" with defaultValue := some "" }] }

def shelfSettings : Settings :=
  { Settings.standard with collectionPolicy := .legacyIndexed, modernMode := false }

theorem shelf_fields_set_up :
    shelfType.validate = .ok () ∧
      ∃ c k blocks, buildClass shelfSettings shelfType = .ok c ∧ c.constructors = [k] ∧
        k.parameters = [] ∧ List.Forall₂ (SetsUp shelfSettings) shelfType.fields blocks ∧
        k.body.lines = line "super();" :: blocks.flatten := by
  have hValid : shelfType.validate = .ok () := by
    have hCheck : shelfType.check = .ok () := by decide +kernel
    rw [BoundType.validate, hCheck]
    rfl
  exact ⟨hValid, constructor_sets_up_fields shelfSettings hValid⟩

example :
    (boundClass shelfSettings shelfType).constructors.map (·.body.lines.map (·.text)) =
      [["super();", "this._counts = new Vector();", "this._counts.add(Integer.valueOf(7));",
        "this.label = \"in \\\"bulk\\\"\";", "this.tags = new Vector();"]] := by
  decide +kernel

end BeanGen.Generation
