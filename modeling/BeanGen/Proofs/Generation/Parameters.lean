import BeanGen.Proofs.Generation.Accessors
import BeanGen.Proofs.Schema.Acceptance
import BeanGen.Proofs.Text.Affix

/-!
# Names of parameters

The parameter of a setter has the name of the property, those of the accessors of a collection are
made from its suffix or its property, and a position is always called the same. The check keeps
reserved words from the properties but not from what is made of the suffixes, and it lets a field
pass whose name is nothing but an underscore, which leaves no property. Apart from these two ways
every parameter can be declared, and no method has two of one name.
-/

namespace BeanGen

open Java

/-- A parameter can be declared under the name. -/
def Usable (name : String) : Prop :=
  name ≠ "" ∧ name ∉ reservedWords

instance (name : String) : Decidable (Usable name) :=
  inferInstanceAs (Decidable (_ ∧ _))

namespace Java.MethodDecl

def parameterNames (m : MethodDecl) : List String :=
  m.parameters.map (·.name)

/-- Every parameter of the method can be declared. -/
def NamesParameters (m : MethodDecl) : Prop :=
  ∀ name ∈ m.parameterNames, Usable name

instance (m : MethodDecl) : Decidable m.NamesParameters :=
  inferInstanceAs (Decidable (∀ name ∈ m.parameterNames, Usable name))

end Java.MethodDecl

/-! ## Names that are made from others -/

/-- No reserved word ends like the names of whole collections. -/
theorem usable_append {tail : String} (hTail : tail ∈ ["Array", "List", "Collection"])
    (name : String) : Usable (name ++ tail) := by
  have hWords : ∀ tail ∈ ["Array", "List", "Collection"], ∀ word ∈ reservedWords,
      ¬ Text.EndsWith tail word := by
    decide
  have hSome : ∀ tail ∈ ["Array", "List", "Collection"], tail ≠ "" := by decide
  constructor
  · intro hEmpty
    exact hSome tail hTail (String.append_eq_empty_iff.mp hEmpty).2
  · intro hWord
    exact hWords tail hTail _ hWord (Text.endsWith_append_self name tail)

namespace BoundField

variable {f : BoundField}

/-- The suffix makes a reserved word of the parameter. -/
def SpellsWord (f : BoundField) : Prop :=
  f.suffix ∈ ["oid", "olatile"]

instance (f : BoundField) : Decidable f.SpellsWord :=
  inferInstanceAs (Decidable (f.suffix ∈ _))

theorem toList_parameter (f : BoundField) : f.parameter.toList = 'v' :: f.suffix.toList := by
  rw [parameter, String.toList_append]
  rfl

theorem usable_parameter_iff : Usable f.parameter ↔ ¬ f.SpellsWord := by
  have hStart : ∀ word ∈ reservedWords, word.toList.head? = some 'v' →
      String.ofList word.toList.tail ∈ ["oid", "olatile"] := by
    decide
  have hWords : ∀ suffix ∈ ["oid", "olatile"], "v" ++ suffix ∈ reservedWords := by decide
  have hChars := f.toList_parameter
  constructor
  · intro hUsable hSpells
    exact hUsable.2 (hWords f.suffix hSpells)
  · intro hSpells
    constructor
    · intro hEmpty
      rw [hEmpty] at hChars
      cases hChars
    · intro hWord
      apply hSpells
      have hSuffix := hStart _ hWord (by rw [hChars, List.head?_cons])
      rwa [hChars, List.tail_cons, String.ofList_toList] at hSuffix

theorem usable_property_iff (h : f.Acceptable) : Usable f.property ↔ f.name ≠ "_" := by
  constructor
  · intro hUsable hName
    refine hUsable.1 ?_
    rw [property, hName]
    decide
  · intro hName
    refine ⟨?_, h.unreserved⟩
    intro hEmpty
    exact (eq_or_eq_of_stripUnderscore hEmpty).elim h.named hName

end BoundField

namespace Accessor.Form

def parameterNames (f : BoundField) : Form → List String
  | setter => [f.property]
  | add => [f.parameter]
  | addAt => ["index", f.parameter]
  | getAt => ["index"]
  | remove => [f.parameter]
  | removeAt => ["index"]
  | setAt => ["index", f.parameter]
  | setArray => [f.parameter ++ "Array"]
  | setCopy => [f.parameter ++ "List"]
  | setReference => [f.property ++ "Collection"]
  | _ => []

/-- The form has a parameter that cannot be declared for the field. -/
def Misnames (f : BoundField) : Form → Prop
  | setter => f.name = "_"
  | add => f.SpellsWord
  | addAt => f.SpellsWord
  | remove => f.SpellsWord
  | setAt => f.SpellsWord
  | _ => False

variable {f : BoundField}

theorem parameterNames_method (h : Holding) (markers : List String) (f : BoundField) (a : Form) :
    (a.method h markers f).parameterNames = a.parameterNames f := by
  cases a <;> rfl

theorem nodup_parameterNames (f : BoundField) (a : Form) : (a.parameterNames f).Nodup := by
  have hIndex : "index" ≠ f.parameter := by
    intro hEq
    have hFirst := congrArg (fun text => text.toList.head?) hEq
    rw [f.toList_parameter] at hFirst
    cases hFirst
  cases a <;> simp [parameterNames, hIndex]

theorem usable_parameterNames_iff (h : f.Acceptable) (a : Form) :
    (∀ name ∈ a.parameterNames f, Usable name) ↔ ¬ a.Misnames f := by
  have hIndex : Usable "index" := by decide
  have hArray := usable_append (show "Array" ∈ _ by decide) f.parameter
  have hList := usable_append (show "List" ∈ _ by decide) f.parameter
  have hCollection := usable_append (show "Collection" ∈ _ by decide) f.property
  cases a <;> simp [parameterNames, Misnames, hIndex, hArray, hList, hCollection,
    BoundField.usable_parameter_iff, BoundField.usable_property_iff h]

end Accessor.Form

/-! ## The methods of a class -/

/-- An accessor of the field has a parameter that cannot be declared. -/
def BoundField.Misnamed (f : BoundField) : Prop :=
  (f.isCollection = false ∧ f.name = "_") ∨ (f.isCollection = true ∧ f.SpellsWord)

namespace Generation

open Accessor

section Class

variable {s : Settings} {t : BoundType} {f : BoundField} {m : MethodDecl}

theorem acceptable_effectiveField (h : f.Acceptable) (s : Settings) :
    (effectiveField s f).Acceptable :=
  ⟨h.named, h.suffixed, h.unreserved, h.defaulted⟩

theorem misnamed_iff (h : Holding) :
    f.Misnamed ↔ ∃ a : Form, a.isCalledFor h f = true ∧ a.Misnames f := by
  constructor
  · rintro (⟨hSingle, hName⟩ | ⟨hMany, hSpells⟩)
    · exact ⟨.setter, by simp [Form.isCalledFor, hSingle], hName⟩
    · exact ⟨.add, hMany, hSpells⟩
  · rintro ⟨a, hCalled, hMisnames⟩
    cases a with
    | setter => exact .inl ⟨by simpa [Form.isCalledFor] using hCalled, hMisnames⟩
    | add | remove => exact .inr ⟨hCalled, hMisnames⟩
    | addAt | setAt => exact .inr ⟨(Bool.and_eq_true_iff.mp hCalled).1, hMisnames⟩
    | _ => cases hMisnames

/-- The method is an accessor of the field, with a parameter that cannot be declared. -/
def MisnamedBy (s : Settings) (f : BoundField) (m : MethodDecl) : Prop :=
  ∃ a : Form, a.isCalledFor (.ofSettings s) f = true ∧
    a.method (.ofSettings s) s.arrayMarkers f = m ∧ a.Misnames f

theorem nodup_parameterNames_of_mem (h : m ∈ offered s t) : m.parameterNames.Nodup := by
  have hListeners : ∀ m ∈ ChangeNotice.methods, m.parameterNames.Nodup := by decide
  rcases offered_cases h with ⟨f, -, a, -, rfl⟩ | hListener
  · rw [Form.parameterNames_method]
    exact Form.nodup_parameterNames f a
  · exact hListeners m hListener

theorem namesParameters_iff (hValid : t.Valid) (h : m ∈ offered s t) :
    m.NamesParameters ↔ ¬ ∃ f ∈ effectiveFields s t, MisnamedBy s f m := by
  have hListeners : ∀ m ∈ ChangeNotice.methods, m.NamesParameters := by decide
  have hForm : ∀ f ∈ effectiveFields s t, ∀ a : Form,
      (a.method (.ofSettings s) s.arrayMarkers f).NamesParameters ↔ ¬ a.Misnames f := by
    intro f hField a
    obtain ⟨g, hg, rfl⟩ := List.mem_map.mp hField
    rw [MethodDecl.NamesParameters, Form.parameterNames_method]
    exact Form.usable_parameterNames_iff (acceptable_effectiveField (hValid.fields g hg) s) a
  constructor
  · rintro hNames ⟨f, hField, a, -, rfl, hMisnames⟩
    exact (hForm f hField a).mp hNames hMisnames
  · intro hNone
    rcases offered_cases h with ⟨f, hField, a, hCalled, rfl⟩ | hListener
    · exact (hForm f hField a).mpr fun hMisnames => hNone ⟨f, hField, a, hCalled, rfl, hMisnames⟩
    · exact hListeners m hListener

theorem not_misnamed_of_offered (hValid : t.Valid)
    (h : ∀ m ∈ offered s t, m.NamesParameters) : ∀ f ∈ t.fields, ¬ f.Misnamed := by
  intro f hField hMisnamed
  have hMem : effectiveField s f ∈ effectiveFields s t := List.mem_map_of_mem hField
  have hSame : (effectiveField s f).Misnamed := hMisnamed
  obtain ⟨a, hCalled, hMisnames⟩ := (misnamed_iff (.ofSettings s)).mp hSame
  have hOffered := accessors_subset_offered hMem (mem_accessors.mpr ⟨a, hCalled, rfl⟩)
  exact (namesParameters_iff hValid hOffered).mp (h _ hOffered) ⟨_, hMem, a, hCalled, rfl, hMisnames⟩

end Class

/-- No method of a valid type's class has two parameters of one name, and all parameters of a method
can be declared unless it is an accessor of a field with a name or suffix that spoils it. Without
such a field every method is in order; and if the class has all methods that are offered, that is
the only way. -/
theorem names_parameters_iff (s : Settings) {t : BoundType} (hCheck : t.check = .ok ()) :
    ∃ c, buildClass s t = .ok c ∧ (∀ m ∈ c.methods, m.parameterNames.Nodup) ∧
      (∀ m ∈ c.methods,
        m.NamesParameters ↔ ¬ ∃ f ∈ effectiveFields s t, MisnamedBy s f m) ∧
      ((∀ f ∈ t.fields, ¬ f.Misnamed) → ∀ m ∈ c.methods, m.NamesParameters) ∧
      (c.methods = offered s t → (∀ m ∈ c.methods, m.NamesParameters) →
        ∀ f ∈ t.fields, ¬ f.Misnamed) := by
  have hValid := BoundType.check_eq_ok_iff.mp hCheck
  refine ⟨boundClass s t, buildClass_of_check hCheck s, ?_, ?_, ?_, ?_⟩
  · intro m hm
    exact nodup_parameterNames_of_mem (methods_boundClass_subset s t hm)
  · intro m hm
    exact namesParameters_iff hValid (methods_boundClass_subset s t hm)
  · intro hNone m hm
    apply (namesParameters_iff hValid (methods_boundClass_subset s t hm)).mpr
    rintro ⟨f, hField, a, hCalled, -, hMisnames⟩
    obtain ⟨g, hg, rfl⟩ := List.mem_map.mp hField
    have hMisnamed : (effectiveField s g).Misnamed :=
      (misnamed_iff (.ofSettings s)).mpr ⟨a, hCalled, hMisnames⟩
    exact hNone g hg hMisnamed
  · intro hAll hNames
    apply not_misnamed_of_offered hValid
    rw [← hAll]
    exact hNames

/-- Suffixes that end like reserved words, and a field whose name is two underscores. -/
def crowdedType : BoundType :=
  { BoundType.ofName "Crowd" with
    fields := [.single "__" .int "Oid", .collection "_ids" .string "Void" 0] }

theorem crowded_names_parameters :
    ∃ c, buildClass .standard crowdedType = .ok c ∧
      ∀ m ∈ c.methods, m.parameterNames.Nodup ∧ m.NamesParameters := by
  have hCheck : crowdedType.check = .ok () := by decide +kernel
  have hFields : ∀ f ∈ crowdedType.fields, f.name ≠ "_" ∧ ¬ f.SpellsWord := by decide
  obtain ⟨c, hBuild, hDistinct, -, hNames, -⟩ := names_parameters_iff .standard hCheck
  have hNone : ∀ f ∈ crowdedType.fields, ¬ f.Misnamed := by
    rintro f hField (⟨-, hName⟩ | ⟨-, hSpells⟩)
    · exact (hFields f hField).1 hName
    · exact (hFields f hField).2 hSpells
  exact ⟨c, hBuild, fun m hm => ⟨hDistinct m hm, hNames hNone m hm⟩⟩

/-- A field without a property, and a collection under the rest of a reserved word. -/
def namelessType : BoundType :=
  { BoundType.ofName "Order" with
    fields := [.single "_" .int "Blank", .collection "codes" .string "oid" 0] }

/-- The setter of the one has a parameter without a name, and the other adds what it calls `void`. -/
theorem keyword_made_parameter :
    namelessType.check = .ok () ∧ ∃ c, buildClass .standard namelessType = .ok c ∧
      (∃ m ∈ c.methods, m.name = "setBlank" ∧ m.parameterNames = [""]) ∧
      (∃ m ∈ c.methods, m.name = "addoid" ∧ m.parameterNames = ["void"]) ∧
      ¬ ∀ m ∈ c.methods, m.NamesParameters := by
  have hCheck : namelessType.check = .ok () := by decide +kernel
  exact ⟨hCheck, _, buildClass_of_check hCheck .standard, by decide +kernel, by decide +kernel,
    by decide +kernel⟩

end Generation

end BeanGen
