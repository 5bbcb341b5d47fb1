import BeanGen.Generation.BoundClass
import BeanGen.Proofs.Java.ClassDecl

/-!
# The class of a valid type

Every field is passed to the factory that its multiplicity asks for, so the one refusal that is left
after the check, a field that is no collection, never occurs: `buildClass` fails only as the check
does, and what it returns otherwise is `boundClass`. The methods of that class are those of
`offered`, less the ones whose signature was already taken.
-/

namespace BeanGen.Generation

open Accessor Java

def withProperty (s : Settings) (c : ClassDecl) (f : BoundField) : ClassDecl :=
  let h := Holding.ofSettings s
  if f.isCollection then Collection.equip h s.arrayMarkers f (Collection.declare h f c)
  else Scalar.equip f (Scalar.declare f c)

/-- The class of a type, whether the type is valid or not. -/
def boundClass (s : Settings) (t : BoundType) : ClassDecl :=
  let fields := effectiveFields s t
  (fields.foldl (withProperty s) (emptyClass s t)).addConstructor (initialConstructor s fields)

theorem addProperty_eq_ok (s : Settings) (c : ClassDecl) (f : BoundField) :
    addProperty s c f = .ok (withProperty s c f) := by
  rw [addProperty, withProperty]
  split
  · rename_i hCollection
    rw [Collection.equipChecked, if_pos hCollection]
  · rfl

theorem foldlM_addProperty (s : Settings) (fs : List BoundField) (c : ClassDecl) :
    fs.foldlM (addProperty s) c = .ok (fs.foldl (withProperty s) c) := by
  induction fs generalizing c with
  | nil => rfl
  | cons f fs ih =>
    rw [List.foldlM_cons, addProperty_eq_ok]
    exact ih (withProperty s c f)

theorem buildClass_eq (s : Settings) (t : BoundType) :
    buildClass s t = t.validate.map fun _ => boundClass s t := by
  rw [buildClass]
  cases t.validate with
  | error e => rfl
  | ok _ =>
    simp only [foldlM_addProperty, bind, Except.bind, pure, Except.pure, Except.map]
    rfl

theorem buildClass_of_check {t : BoundType} (h : t.check = .ok ()) (s : Settings) :
    buildClass s t = .ok (boundClass s t) := by
  rw [buildClass_eq, BoundType.validate, h]
  rfl

/-! ## Fields with what the settings ask for -/

section Effective

variable (s : Settings) (f : BoundField)

@[simp] theorem suffix_effectiveField : (effectiveField s f).suffix = f.suffix :=
  rfl

@[simp] theorem isCollection_effectiveField : (effectiveField s f).isCollection = f.isCollection :=
  rfl

@[simp] theorem content_effectiveField : (effectiveField s f).content = f.content :=
  rfl

@[simp] theorem valueType_effectiveField : (effectiveField s f).valueType = f.valueType :=
  rfl

@[simp] theorem extraMethods_effectiveField :
    (effectiveField s f).extraMethods = (f.extraMethods || s.extraCollectionMethods) :=
  rfl

end Effective

/-! ## The member that keeps the listeners -/

theorem frame_installIfBound (f : BoundField) (c : ClassDecl) :
    c.Frame (ChangeNotice.installIfBound f c) := by
  rw [ChangeNotice.installIfBound, ChangeNotice.install]
  split
  · split
    · exact .refl c
    · exact ((ClassDecl.Frame.addImports c _).trans (.addField _ _)).trans (.addMethods _ _)
  · exact .refl c

theorem methods_installIfBound (f : BoundField) (c : ClassDecl) :
    (ChangeNotice.installIfBound f c).methods =
      (if f.bound && !(c.field? ChangeNotice.supportField).isSome then ChangeNotice.methods
        else []).foldl adopt c.methods := by
  rw [ChangeNotice.installIfBound, ChangeNotice.install]
  cases f.bound with
  | false => rfl
  | true => cases hTaken : c.field? ChangeNotice.supportField <;> simp

theorem isSome_field?_installIfBound (f : BoundField) (c : ClassDecl) :
    ((ChangeNotice.installIfBound f c).field? ChangeNotice.supportField).isSome =
      ((c.field? ChangeNotice.supportField).isSome || f.bound) := by
  rw [ChangeNotice.installIfBound, ChangeNotice.install]
  cases f.bound with
  | false => simp
  | true =>
    cases hTaken : c.field? ChangeNotice.supportField with
    | some d => simp [hTaken]
    | none => simp [hTaken, ChangeNotice.member, FieldDecl.documented, FieldDecl.plain]

/-! ## What is offered to the class -/

def accessors (s : Settings) (f : BoundField) : List MethodDecl :=
  (if f.isCollection then Collection.suite (.ofSettings s) s.arrayMarkers f
    else Scalar.suite f).map (·.method)

/-- The methods that fields offer to a class in turn. The methods for listeners come with the first
bound field, unless a member has the name of the one that keeps the listeners by then: `present`
says whether that was so before these fields. -/
def offeredFrom (s : Settings) : Bool → List BoundField → List MethodDecl
  | _, [] => []
  | present, f :: rest =>
    let declared := present || f.name == ChangeNotice.supportField
    accessors s f ++ (if f.bound && !declared then ChangeNotice.methods else []) ++
      offeredFrom s (declared || f.bound) rest

def offered (s : Settings) (t : BoundType) : List MethodDecl :=
  offeredFrom s false (effectiveFields s t)

/-- A field brings imports, members and methods, and nothing else changes. -/
theorem frame_withProperty (s : Settings) (c : ClassDecl) (f : BoundField) :
    c.Frame (withProperty s c f) := by
  rw [withProperty]
  split
  · exact (((ClassDecl.Frame.addImports c _).trans (.addField _ _)).trans (.emitAll _ _)).trans
      (frame_installIfBound f _)
  · exact (((ClassDecl.Frame.addImports c _).trans (.addFields _ _)).trans (.emitAll _ _)).trans
      (frame_installIfBound f _)

theorem flagName_ne_supportField (f : BoundField) : f.flagName ≠ ChangeNotice.supportField := by
  intro hEq
  have hChars := congrArg String.toList hEq
  simp [BoundField.flagName, ChangeNotice.supportField] at hChars

theorem isSome_field?_declare (f : BoundField) (c : ClassDecl) :
    ((Scalar.declare f c).field? ChangeNotice.supportField).isSome =
      ((c.field? ChangeNotice.supportField).isSome || f.name == ChangeNotice.supportField) := by
  rw [Scalar.declare, Scalar.members]
  split
  · simp [ClassDecl.addFields, Scalar.valueMember, Scalar.flagMember, FieldDecl.plain,
      FieldDecl.documented, flagName_ne_supportField]
  · simp [ClassDecl.addFields, Scalar.valueMember, FieldDecl.plain]

theorem isSome_field?_withProperty (s : Settings) (c : ClassDecl) (f : BoundField) :
    ((withProperty s c f).field? ChangeNotice.supportField).isSome =
      ((c.field? ChangeNotice.supportField).isSome || f.name == ChangeNotice.supportField ||
        f.bound) := by
  rw [withProperty]
  split
  · rw [Collection.equip, isSome_field?_installIfBound, ClassDecl.field?_emitAll,
      Collection.declare, ClassDecl.isSome_field?_addField, ClassDecl.field?_addImports]
    rfl
  · rw [Scalar.equip, isSome_field?_installIfBound, ClassDecl.field?_emitAll,
      isSome_field?_declare]

theorem methods_withProperty (s : Settings) (c : ClassDecl) (f : BoundField) :
    (withProperty s c f).methods =
      (accessors s f ++
        if f.bound && !((c.field? ChangeNotice.supportField).isSome ||
          f.name == ChangeNotice.supportField) then ChangeNotice.methods
        else []).foldl adopt c.methods := by
  rw [withProperty, accessors, List.foldl_append]
  split
  · rw [Collection.equip, methods_installIfBound, ClassDecl.methods_emitAll,
      ClassDecl.field?_emitAll, Collection.declare, ClassDecl.methods_addField,
      ClassDecl.methods_addImports, ClassDecl.isSome_field?_addField, ClassDecl.field?_addImports]
    rfl
  · rw [Scalar.equip, methods_installIfBound, ClassDecl.methods_emitAll,
      ClassDecl.field?_emitAll, isSome_field?_declare, Scalar.declare, ClassDecl.methods_addFields,
      ClassDecl.methods_addImports]

theorem methods_foldl_withProperty (s : Settings) (fs : List BoundField) (c : ClassDecl) :
    (fs.foldl (withProperty s) c).methods =
      (offeredFrom s (c.field? ChangeNotice.supportField).isSome fs).foldl adopt c.methods := by
  induction fs generalizing c with
  | nil => rfl
  | cons f fs ih =>
    rw [List.foldl_cons, ih, isSome_field?_withProperty, methods_withProperty, offeredFrom]
    simp only [List.foldl_append]

/-- Of the methods that are offered, the class has the first of each signature. -/
theorem methods_boundClass (s : Settings) (t : BoundType) :
    (boundClass s t).methods = ((ClassDecl.ofName t.name).addMethods (offered s t)).methods := by
  rw [ClassDecl.methods_addMethods]
  refine (methods_foldl_withProperty s (effectiveFields s t) (emptyClass s t)).trans ?_
  have hMember : (emptyClass s t).field? ChangeNotice.supportField = none := by
    simp [emptyClass, ClassDecl.field?, ClassDecl.ofName]
  have hMethods : (emptyClass s t).methods = (ClassDecl.ofName t.name).methods := by
    simp [emptyClass]
  rw [hMember, hMethods]
  rfl

theorem methods_boundClass_subset (s : Settings) (t : BoundType) :
    (boundClass s t).methods ⊆ offered s t := by
  intro m hm
  rw [methods_boundClass, ClassDecl.methods_addMethods] at hm
  rcases mem_of_mem_foldl_adopt hm with hNone | hOffered
  · cases hNone
  · exact hOffered

theorem frame_foldl_withProperty (s : Settings) (fs : List BoundField) (c : ClassDecl) :
    c.Frame (fs.foldl (withProperty s) c) :=
  .foldl (frame_withProperty s) fs c

@[simp] theorem name_boundClass (s : Settings) (t : BoundType) : (boundClass s t).name = t.name := by
  refine (frame_foldl_withProperty s (effectiveFields s t) (emptyClass s t)).name.trans ?_
  simp [emptyClass, ClassDecl.ofName]

@[simp] theorem superclass_boundClass (s : Settings) (t : BoundType) :
    (boundClass s t).superclass = (superclass? s t).map simpleName :=
  (frame_foldl_withProperty s (effectiveFields s t) (emptyClass s t)).superclass

end BeanGen.Generation
