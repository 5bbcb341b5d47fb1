import BeanGen.Proofs.Generation.BoundClass
import BeanGen.Proofs.Schema.Validity

/-!
# Members of a class

A field brings its own member, a primitive one also its flag, and a bound one the member that keeps
the listeners. A class has the first member of each name. The check of a type compares the names of
fields with one another only, so a field can meet the flag of another field, or the member that
keeps the listeners, under its own name. The exact condition is `MembersApart`.
-/

namespace BeanGen.Generation

open Accessor Java

/-- The type of a field's own member: that of the collection, or the unboxed type of the value. -/
def memberType (s : Settings) (f : BoundField) : String :=
  if f.isCollection then ((Holding.ofSettings s).layout f).memberType else f.valueType.written

def hasFlag (f : BoundField) : Bool :=
  !f.isCollection && f.valueType.isPrimitive

/-- Every field has a member of its own type under its name, and every flag is a member of its own.
-/
structure KeepsMembers (s : Settings) (t : BoundType) (c : ClassDecl) : Prop where
  own : ∀ f ∈ t.fields, ∃ d, c.field? f.name = some d ∧ d.type = memberType s f
  flags : ∀ f ∈ t.fields, hasFlag f = true →
    ∃ d, c.field? f.flagName = some d ∧ d.type = "boolean" ∧
      ∀ g ∈ t.fields, c.field? g.name ≠ some d

/-- No field has the name of a flag, and a field with the name of the member for listeners comes
before every bound field, unless both are written with the same type. -/
structure MembersApart (s : Settings) (t : BoundType) : Prop where
  flags : ∀ f ∈ t.fields, hasFlag f = true → ∀ g ∈ t.fields, g.name ≠ f.flagName
  support : ∀ before f after, t.fields = before ++ f :: after →
    f.name = ChangeNotice.supportField → (∃ g ∈ before, (effectiveField s g).bound = true) →
    memberType s f = "PropertyChangeSupport"

/-! ## What a field brings -/

/-- The members that a field adds to a class, unless their names are taken. -/
def brought (s : Settings) (f : BoundField) : List FieldDecl :=
  (if f.isCollection then [Collection.member (.ofSettings s) f] else Scalar.members f) ++
    if f.bound then [ChangeNotice.member] else []

section Brought

variable {s : Settings} {f : BoundField} {d : FieldDecl}

theorem exists_brought_eq (s : Settings) (f : BoundField) :
    ∃ d rest, brought s f = d :: rest ∧ d.name = f.name ∧ d.type = memberType s f := by
  rw [brought, memberType]
  cases f.isCollection with
  | true => exact ⟨_, _, rfl, rfl, rfl⟩
  | false =>
    rw [Scalar.members]
    cases f.valueType.isPrimitive <;> exact ⟨_, _, rfl, rfl, rfl⟩

theorem flagMember_mem_brought (h : hasFlag f = true) : Scalar.flagMember f ∈ brought s f := by
  rw [hasFlag, Bool.and_eq_true, Bool.not_eq_true'] at h
  simp [brought, Scalar.members, h.1, h.2]

theorem mem_brought_cases (h : d ∈ brought s f) :
    d.name = f.name ∨ (hasFlag f = true ∧ d = Scalar.flagMember f) ∨
      (f.bound = true ∧ d = ChangeNotice.member) := by
  rw [brought, List.mem_append] at h
  rcases h with hDeclared | hNotice
  · cases hMany : f.isCollection with
    | true =>
      rw [hMany, if_pos rfl, List.mem_singleton] at hDeclared
      rw [hDeclared]
      exact .inl rfl
    | false =>
      rw [hMany, if_neg Bool.false_ne_true, Scalar.members] at hDeclared
      cases hPrimitive : f.valueType.isPrimitive with
      | true =>
        rw [hPrimitive, if_pos rfl, List.mem_pair] at hDeclared
        rcases hDeclared with rfl | rfl
        · exact .inl rfl
        · exact .inr (.inl ⟨by rw [hasFlag, hMany, hPrimitive]; rfl, rfl⟩)
      | false =>
        rw [hPrimitive, if_neg Bool.false_ne_true, List.mem_singleton] at hDeclared
        rw [hDeclared]
        exact .inl rfl
  · cases hBound : f.bound with
    | true =>
      rw [hBound, if_pos rfl, List.mem_singleton] at hNotice
      exact .inr (.inr ⟨rfl, hNotice⟩)
    | false =>
      rw [hBound] at hNotice
      cases hNotice

end Brought

/-! ## What a class takes up -/

section Class

variable {s : Settings} {t : BoundType}

theorem field?_installIfBound (f : BoundField) (c : ClassDecl) (name : String) :
    (ChangeNotice.installIfBound f c).field? name =
      (c.field? name).or
        ((if f.bound then [ChangeNotice.member] else []).find? (·.name == name)) := by
  rw [ChangeNotice.installIfBound, ChangeNotice.install]
  cases f.bound with
  | false => simp
  | true =>
    have hName : ChangeNotice.member.name = ChangeNotice.supportField := rfl
    cases hTaken : c.field? ChangeNotice.supportField with
    | some d =>
      by_cases hSame : ChangeNotice.supportField = name
      · subst hSame
        simp [hTaken]
      · simp [hName, beq_eq_false_iff_ne.mpr hSame]
    | none =>
      rw [if_pos rfl, if_pos rfl, ClassDecl.field?_addMethods, ClassDecl.field?_addField,
        ClassDecl.field?_addImports, List.find?_cons, hName]
      by_cases hSame : ChangeNotice.supportField = name
      · simp [hSame]
      · simp [hSame, beq_eq_false_iff_ne.mpr hSame]

theorem field?_withProperty (s : Settings) (c : ClassDecl) (f : BoundField) (name : String) :
    (withProperty s c f).field? name =
      (c.field? name).or ((brought s f).find? (·.name == name)) := by
  rw [withProperty, brought, List.find?_append, ← Option.or_assoc]
  split
  · have hDeclare : Collection.declare (.ofSettings s) f c =
        (c.addImports ((Holding.ofSettings s).layout f).imports).addFields
          [Collection.member (.ofSettings s) f] := rfl
    rw [Collection.equip, field?_installIfBound, ClassDecl.field?_emitAll, hDeclare,
      ClassDecl.field?_addFields, ClassDecl.field?_addImports]
  · rw [Scalar.equip, field?_installIfBound, ClassDecl.field?_emitAll, Scalar.declare,
      ClassDecl.field?_addFields, ClassDecl.field?_addImports]

theorem field?_foldl_withProperty (s : Settings) (fs : List BoundField) (c : ClassDecl)
    (name : String) :
    (fs.foldl (withProperty s) c).field? name =
      (c.field? name).or ((fs.flatMap (brought s)).find? (·.name == name)) := by
  induction fs generalizing c with
  | nil => simp
  | cons f fs ih =>
    rw [List.foldl_cons, ih, field?_withProperty, List.flatMap_cons, List.find?_append,
      Option.or_assoc]

/-- Under each name a class has the first member of that name which its fields bring. -/
theorem field?_boundClass (s : Settings) (t : BoundType) (name : String) :
    (boundClass s t).field? name =
      ((effectiveFields s t).flatMap (brought s)).find? (·.name == name) := by
  have hFold := field?_foldl_withProperty s (effectiveFields s t) (emptyClass s t) name
  have hEmpty : (emptyClass s t).field? name = none := by
    simp [emptyClass, ClassDecl.field?, ClassDecl.ofName]
  rw [hEmpty, Option.none_or] at hFold
  exact hFold

theorem mem_brought_of_field? {d : FieldDecl} {name : String}
    (h : (boundClass s t).field? name = some d) :
    d.name = name ∧ ∃ f ∈ t.fields, d ∈ brought s (effectiveField s f) := by
  rw [field?_boundClass] at h
  obtain ⟨g, hg, hd⟩ := List.mem_flatMap.mp (List.mem_of_find?_eq_some h)
  obtain ⟨f, hf, rfl⟩ := List.mem_map.mp hg
  exact ⟨by simpa using List.find?_some h, f, hf, hd⟩

/-- The member under a field's name is the first that the fields before it bring under that name, or
else the field's own. -/
theorem exists_own_or {before after : List BoundField} {f : BoundField}
    (hSplit : t.fields = before ++ f :: after) :
    ∃ d, d.type = memberType s f ∧ (boundClass s t).field? f.name =
      (((before.map (effectiveField s)).flatMap (brought s)).find? (·.name == f.name)).or
        (some d) := by
  obtain ⟨d, rest, hBrought, hName, hType⟩ := exists_brought_eq s (effectiveField s f)
  refine ⟨d, hType, ?_⟩
  have hFound : (d.name == f.name) = true := by rw [hName]; exact beq_self_eq_true _
  rw [field?_boundClass, effectiveFields, hSplit, List.map_append, List.map_cons,
    List.flatMap_append, List.flatMap_cons, List.find?_append, hBrought, List.cons_append,
    List.find?_cons, hFound]

theorem exists_field?_of_brought {f : BoundField} {d : FieldDecl} (hField : f ∈ t.fields)
    (hBrought : d ∈ brought s (effectiveField s f)) :
    ∃ e, (boundClass s t).field? d.name = some e := by
  have hMem : d ∈ (effectiveFields s t).flatMap (brought s) :=
    List.mem_flatMap.mpr ⟨_, List.mem_map_of_mem hField, hBrought⟩
  rw [field?_boundClass]
  exact Option.isSome_iff_exists.mp (List.find?_isSome.mpr ⟨d, hMem, beq_self_eq_true d.name⟩)

end Class

/-! ## Fields, flags and the member for listeners -/

section Valid

variable {s : Settings} {t : BoundType}

/-- What the fields before a field bring under its name is a flag or the member for listeners. -/
theorem brought_before_cases (hCheck : t.check = .ok ()) {before after : List BoundField}
    {f : BoundField} (hSplit : t.fields = before ++ f :: after) {d : FieldDecl}
    (hBefore : ((before.map (effectiveField s)).flatMap (brought s)).find? (·.name == f.name) =
      some d) :
    (∃ g ∈ before, hasFlag g = true ∧ f.name = g.flagName) ∨
      ((∃ g ∈ before, (effectiveField s g).bound = true) ∧ f.name = ChangeNotice.supportField ∧
        d = ChangeNotice.member) := by
  obtain ⟨e, he, hd⟩ := List.mem_flatMap.mp (List.mem_of_find?_eq_some hBefore)
  obtain ⟨g, hg, rfl⟩ := List.mem_map.mp he
  have hName : d.name = f.name := by simpa using List.find?_some hBefore
  rcases mem_brought_cases hd with hSame | ⟨hFlag, rfl⟩ | ⟨hBound, rfl⟩
  · -- two fields of a valid type differ in their names
    have hPairwise := List.pairwise_append.mp (hSplit ▸ BoundType.pairwise_apart hCheck)
    exact absurd (hSame.symm.trans hName) (hPairwise.2.2 g hg f List.mem_cons_self).1
  · exact .inl ⟨g, hg, hFlag, hName.symm⟩
  · exact .inr ⟨⟨g, hg, hBound⟩, hName.symm, rfl⟩

theorem own_of_apart (hCheck : t.check = .ok ()) (hApart : MembersApart s t) {f : BoundField}
    (hField : f ∈ t.fields) :
    ∃ d, (boundClass s t).field? f.name = some d ∧ d.type = memberType s f := by
  obtain ⟨before, after, hSplit⟩ := List.append_of_mem hField
  obtain ⟨own, hType, hMember⟩ := exists_own_or (s := s) hSplit
  rw [hMember]
  cases hBefore :
      ((before.map (effectiveField s)).flatMap (brought s)).find? (·.name == f.name) with
  | none => exact ⟨own, rfl, hType⟩
  | some d =>
    refine ⟨d, rfl, ?_⟩
    rcases brought_before_cases hCheck hSplit hBefore with
      ⟨g, hg, hFlag, hName⟩ | ⟨hBound, hName, rfl⟩
    · have hMem : g ∈ t.fields := by
        rw [hSplit]
        exact List.mem_append_left _ hg
      exact absurd hName (hApart.flags g hMem hFlag f hField)
    · exact (hApart.support before f after hSplit hName hBound).symm

theorem flag_of_apart (hApart : MembersApart s t) {f : BoundField} (hField : f ∈ t.fields)
    (hFlag : hasFlag f = true) :
    ∃ d, (boundClass s t).field? f.flagName = some d ∧ d.type = "boolean" ∧
      ∀ g ∈ t.fields, (boundClass s t).field? g.name ≠ some d := by
  obtain ⟨d, hMember⟩ := exists_field?_of_brought (s := s) hField
    (flagMember_mem_brought (f := effectiveField s f) hFlag)
  obtain ⟨hName, g, hg, hd⟩ := mem_brought_of_field? hMember
  refine ⟨d, hMember, ?_, ?_⟩
  · rcases mem_brought_cases hd with hSame | ⟨-, rfl⟩ | ⟨-, rfl⟩
    · exact absurd (hSame.symm.trans hName) (hApart.flags f hField hFlag g hg)
    · rfl
    · exact absurd hName.symm (flagName_ne_supportField f)
  · intro other hOther hSame
    exact hApart.flags f hField hFlag other hOther ((mem_brought_of_field? hSame).1.symm.trans hName)

theorem apart_of_keeps (hCheck : t.check = .ok ()) (hKeeps : KeepsMembers s t (boundClass s t)) :
    MembersApart s t := by
  constructor
  · intro f hField hFlag g hg hName
    obtain ⟨d, hMember, -, hOther⟩ := hKeeps.flags f hField hFlag
    exact hOther g hg (hName ▸ hMember)
  · intro before f after hSplit hName hBound
    have hField : f ∈ t.fields := by
      rw [hSplit]
      exact List.mem_append_right _ List.mem_cons_self
    obtain ⟨d, hMember, hType⟩ := hKeeps.own f hField
    obtain ⟨own, -, hFirst⟩ := exists_own_or (s := s) hSplit
    obtain ⟨g, hg, hBound⟩ := hBound
    have hBrought : ChangeNotice.member ∈
        (before.map (effectiveField s)).flatMap (brought s) := by
      refine List.mem_flatMap.mpr ⟨_, List.mem_map_of_mem hg, List.mem_append_right _ ?_⟩
      rw [hBound, if_pos rfl]
      exact List.mem_cons_self
    have hSome : ∃ e, ((before.map (effectiveField s)).flatMap (brought s)).find?
        (·.name == f.name) = some e :=
      Option.isSome_iff_exists.mp (List.find?_isSome.mpr ⟨_, hBrought, beq_iff_eq.mpr hName.symm⟩)
    obtain ⟨e, hBefore⟩ := hSome
    rw [hBefore, Option.some_or, hMember, Option.some.injEq] at hFirst
    rcases brought_before_cases hCheck hSplit hBefore with ⟨g, -, -, hFlag⟩ | ⟨-, -, rfl⟩
    · exact absurd (hFlag.symm.trans hName) (flagName_ne_supportField g)
    · rw [← hType, hFirst]
      decide

end Valid

/-- The class of a valid type keeps the members of its fields, each with its own type, and every
flag apart from them, exactly if no field has the name of a flag, and none has that of the member
for listeners after a bound field. -/
theorem keeps_members_iff (s : Settings) {t : BoundType} (hCheck : t.check = .ok ()) :
    ∃ c, buildClass s t = .ok c ∧ (KeepsMembers s t c ↔ MembersApart s t) := by
  refine ⟨boundClass s t, buildClass_of_check hCheck s, apart_of_keeps hCheck, ?_⟩
  intro hApart
  constructor
  · intro f hField
    exact own_of_apart hCheck hApart hField
  · intro f hField hFlag
    exact flag_of_apart hApart hField hFlag

/-- A primitive field and a collection, both bound, and a member for listeners declared first. -/
def supportedType : BoundType :=
  { BoundType.ofName "Order" with
    fields := [
      .single "propertyChangeSupport" (.bound "java.beans.PropertyChangeSupport") "Support",
      { BoundField.single "_code" .int "Code" with bound := true },
      { BoundField.collection "_items" .string "Item" 0 with bound := true }] }

theorem supported_keeps_members :
    ∃ c, buildClass .standard supportedType = .ok c ∧ KeepsMembers .standard supportedType c := by
  have hCheck : supportedType.check = .ok () := by decide +kernel
  obtain ⟨c, hBuild, hKeeps⟩ := keeps_members_iff .standard hCheck
  refine ⟨c, hBuild, hKeeps.mpr ⟨by decide, ?_⟩⟩
  intro before f after hSplit hName hBound
  cases before with
  | nil =>
    obtain ⟨g, hNone, -⟩ := hBound
    cases hNone
  | cons g before =>
    have hLater : ∀ f ∈ supportedType.fields.tail, f.name ≠ ChangeNotice.supportField := by decide
    refine absurd hName (hLater f ?_)
    rw [hSplit]
    exact List.mem_append_right before List.mem_cons_self

/-- A field named like the flag of the field before it. -/
def flaggedTwice : BoundType :=
  { BoundType.ofName "Order" with
    fields := [.single "_code" .int "Code", .single "_has_code" .string "HasCode"] }

/-- The field with a text has the flag of the other field for its member. -/
theorem flag_taken_for_member :
    flaggedTwice.check = .ok () ∧ ∃ c, buildClass .standard flaggedTwice = .ok c ∧
      c.field? "_has_code" = some (Scalar.flagMember (.single "_code" .int "Code")) ∧
      ¬ KeepsMembers .standard flaggedTwice c := by
  have hCheck : flaggedTwice.check = .ok () := by decide +kernel
  refine ⟨hCheck, _, buildClass_of_check hCheck .standard, by decide +kernel, ?_⟩
  intro hKeeps
  exact absurd rfl ((apart_of_keeps hCheck hKeeps).flags (.single "_code" .int "Code") (by decide)
    (by decide) (.single "_has_code" .string "HasCode") (by decide))

end BeanGen.Generation
