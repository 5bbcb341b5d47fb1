import BeanGen.Proofs.Generation.Separate

/-!
# Accessors that a class keeps

The class of a valid type has every method that its fields offer, and with it the accessors of each
field, exactly if the fields are separate. The check of a type does not see to that: it compares the
names of properties, and the names of accessors come from suffixes.
-/

namespace BeanGen.Generation

open Accessor Java

def Declares (c : ClassDecl) (name : String) (result : Option String) (parameters : List Parameter)
    (text : String) : Prop :=
  ∃ m ∈ c.methods, m.name = name ∧ m.returnType = result ∧ m.parameters = parameters ∧
    line text ∈ m.body.lines

instance (c : ClassDecl) (name : String) (result : Option String) (parameters : List Parameter)
    (text : String) : Decidable (Declares c name result parameters text) :=
  inferInstanceAs (Decidable (∃ m ∈ c.methods, _))

/-- The accessors of a field with one value are there and do what they are for. -/
structure KeepsScalar (c : ClassDecl) (f : BoundField) : Prop where
  reads : Declares c ("get" ++ f.suffix) (some f.valueType.written) []
    ("return this." ++ f.name ++ ";")
  writes : Declares c ("set" ++ f.suffix) none [⟨f.valueType.written, f.property⟩]
    ("this." ++ f.name ++ " = " ++ f.property ++ ";")
  tests : f.content = .boolean →
    Declares c ("is" ++ f.suffix) (some "boolean") [] ("return this." ++ f.name ++ ";")
  tells : f.valueType.isPrimitive = true →
    Declares c ("has" ++ f.suffix) (some "boolean") [] ("return this." ++ f.flagName ++ ";")
  deletes : f.valueType.isPrimitive = true →
    Declares c ("delete" ++ f.suffix) none [] ("this." ++ f.flagName ++ " = false;")

/-- The accessors of a collection are there and work on its member. -/
def KeepsCollection (s : Settings) (c : ClassDecl) (f : BoundField) : Prop :=
  ∀ e ∈ Collection.suite (.ofSettings s) s.arrayMarkers f,
    e.method ∈ c.methods ∧ WorksOn e.method ("this." ++ f.name)

def KeepsAccessors (s : Settings) (c : ClassDecl) (f : BoundField) : Prop :=
  (f.isCollection = false → KeepsScalar c f) ∧ (f.isCollection = true → KeepsCollection s c f)

theorem keepsScalar_of_subset {s : Settings} {c : ClassDecl} {f : BoundField}
    (hSingle : f.isCollection = false) (h : accessors s f ⊆ c.methods) : KeepsScalar c f := by
  have hMem : ∀ a : Form, a.isCalledFor (.ofSettings s) f = true →
      a.method (.ofSettings s) s.arrayMarkers f ∈ c.methods :=
    fun a hA => h (mem_accessors.mpr ⟨a, hA, rfl⟩)
  constructor
  · have hReader := hMem .getter (by simp [Form.isCalledFor, hSingle])
    exact ⟨_, hReader, rfl, rfl, rfl, List.mem_cons_self⟩
  · have hWriter := hMem .setter (by simp [Form.isCalledFor, hSingle])
    refine ⟨_, hWriter, rfl, rfl, rfl, ?_⟩
    simp [Form.method, Scalar.setter, Emission.ofMethod, MethodDecl.plain, Block.ofLines,
      Scalar.setterLines]
  · intro hBoolean
    have hTest := hMem .predicate (by simp [Form.isCalledFor, hSingle, hBoolean])
    exact ⟨_, hTest, rfl, rfl, rfl, List.mem_cons_self⟩
  · intro hPrimitive
    have hFlag := hMem .hasValue (by simp [Form.isCalledFor, hSingle, hPrimitive])
    exact ⟨_, hFlag, rfl, rfl, rfl, List.mem_cons_self⟩
  · intro hPrimitive
    have hDeletion := hMem .deletion (by simp [Form.isCalledFor, hSingle, hPrimitive])
    exact ⟨_, hDeletion, rfl, rfl, rfl, List.mem_cons_self⟩

theorem keepsCollection_of_subset {s : Settings} {c : ClassDecl} {f : BoundField}
    (hMany : f.isCollection = true) (h : accessors s f ⊆ c.methods) : KeepsCollection s c f := by
  intro e he
  have hMem : e.method ∈ accessors s f := by
    rw [accessors, if_pos hMany]
    exact List.mem_map.mpr ⟨e, he, rfl⟩
  refine ⟨h hMem, ?_⟩
  obtain ⟨a, hA, hEq⟩ := mem_accessors.mp hMem
  rw [← hEq]
  exact Form.worksOn_member hMany hA

theorem keepsAccessors_of_subset {s : Settings} {c : ClassDecl} {f : BoundField}
    (h : accessors s f ⊆ c.methods) : KeepsAccessors s c f :=
  ⟨fun hSingle => keepsScalar_of_subset hSingle h, fun hMany => keepsCollection_of_subset hMany h⟩

theorem methods_eq_offered_iff (s : Settings) (t : BoundType) :
    (boundClass s t).methods = offered s t ↔ ((offered s t).map (·.signature)).Nodup := by
  have hStart : (([] : List MethodDecl).map (·.signature)).Nodup := List.nodup_nil
  rw [methods_boundClass, ClassDecl.methods_addMethods]
  exact foldl_adopt_eq_append_iff hStart

theorem accessors_subset_offered {s : Settings} {t : BoundType} {f : BoundField}
    (hf : f ∈ effectiveFields s t) : accessors s f ⊆ offered s t := by
  intro m hm
  refine (offered_perm s t).mem_iff.mpr (List.mem_append_left _ ?_)
  exact List.mem_flatMap.mpr ⟨f, hf, hm⟩

/-- The class of a valid type has the first offered method of each signature. If that is all of them,
its fields are separate and keep their accessors. If its fields are separate, and no suffix has a
bracket, that is all of them. -/
theorem buildClass_keeps_accessors (s : Settings) {t : BoundType} (hCheck : t.check = .ok ()) :
    ∃ c, buildClass s t = .ok c ∧
      c.methods = ((ClassDecl.ofName t.name).addMethods (offered s t)).methods ∧
      (c.methods = offered s t →
        Separate s t ∧ ∀ f ∈ effectiveFields s t, KeepsAccessors s c f) ∧
      ((∀ f ∈ t.fields, Unbracketed f.suffix) → Separate s t → c.methods = offered s t) := by
  refine ⟨boundClass s t, buildClass_of_check hCheck s, methods_boundClass s t, ?_, ?_⟩
  · intro hAll
    refine ⟨separate_of_nodup ((methods_eq_offered_iff s t).mp hAll), ?_⟩
    intro f hf
    apply keepsAccessors_of_subset
    rw [hAll]
    exact accessors_subset_offered hf
  · intro hSuffixes hSeparate
    exact (methods_eq_offered_iff s t).mpr (nodup_of_separate hSuffixes hSeparate)

def stockType : BoundType :=
  { BoundType.ofName "Stock" with
    fields := [.collection "_items" .int "Item" 5, .single "_open" .boolean "Open",
      .single "_itemTotal" .decimal "ItemTotal"] }

theorem stock_keeps_accessors :
    ∃ c, buildClass .standard stockType = .ok c ∧ c.methods = offered .standard stockType ∧
      ∀ f ∈ effectiveFields .standard stockType, KeepsAccessors .standard c f := by
  have hCheck : stockType.check = .ok () := by decide +kernel
  have hSuffixes : ∀ f ∈ stockType.fields, Unbracketed f.suffix := by decide +kernel
  have hSeparate : Separate .standard stockType := by decide +kernel
  obtain ⟨c, hBuild, -, hKept, hAll⟩ := buildClass_keeps_accessors .standard hCheck
  have hMethods := hAll hSuffixes hSeparate
  exact ⟨c, hBuild, hMethods, (hKept hMethods).2⟩

/-- Two fields may share a suffix as long as their properties have different names. -/
def sharedSuffix : BoundType :=
  { BoundType.ofName "Order" with
    fields := [.single "_code" .int "Id", .single "_label" .string "Id"] }

theorem shared_suffix_loses_reader :
    ¬ ∀ (s : Settings) (t : BoundType) (c : ClassDecl), t.check = .ok () →
      buildClass s t = .ok c → ∀ f ∈ effectiveFields s t, KeepsAccessors s c f := by
  intro h
  have hCheck : sharedSuffix.check = .ok () := by decide +kernel
  have hLabel : BoundField.single "_label" .string "Id" ∈ effectiveFields .standard sharedSuffix := by
    decide
  have hKept := h .standard sharedSuffix _ hCheck (buildClass_of_check hCheck .standard) _ hLabel
  exact absurd (hKept.1 rfl).reads (by decide +kernel)

end BeanGen.Generation
