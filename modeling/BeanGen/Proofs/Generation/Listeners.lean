import BeanGen.Proofs.Generation.Separate

/-!
# Listeners of a class

A class gets the member that keeps its listeners, and the methods that register and tell them, with
the first field that is bound. A field up to it can be in the way: its own member has the name, or
it collects listeners and has an accessor with the signature of such a method. The exact condition
is `unobstructed`.
-/

namespace BeanGen.Generation

open Accessor Java

/-- The class has one member for its listeners, and the methods for them with their own bodies. -/
structure ServesListeners (c : ClassDecl) : Prop where
  member : (c.fields.filter (·.name == ChangeNotice.supportField)).map (·.type) =
    ["PropertyChangeSupport"]
  methods : ChangeNotice.methods ⊆ c.methods

/-- The field collects listeners, and its accessors are named like the methods for listeners. -/
def collectsListeners (s : Settings) (f : BoundField) : Bool :=
  f.isCollection && f.suffix == "PropertyChangeListener" &&
    (Holding.ofSettings s).valueType f == "PropertyChangeListener"

def obstructs (s : Settings) (f : BoundField) : Bool :=
  f.name == ChangeNotice.supportField || collectsListeners s f

/-- Some field is bound, and no field up to it is in the way of the listeners. -/
def unobstructed (s : Settings) (t : BoundType) : Bool :=
  ((effectiveFields s t).takeWhile (!obstructs s ·)).any (·.bound)

theorem any_takeWhile_iff {α : Type} {p q : α → Bool} {xs : List α} :
    (xs.takeWhile p).any q = true ↔ ∃ before x after, xs = before ++ x :: after ∧
      (∀ y ∈ before, p y = true ∧ q y = false) ∧ p x = true ∧ q x = true := by
  induction xs with
  | nil => simp
  | cons x xs ih =>
    rw [List.takeWhile_cons]
    constructor
    · intro hAny
      split at hAny
      · rename_i hP
        cases hQ : q x with
        | true => exact ⟨[], x, xs, rfl, List.forall_mem_nil _, hP, hQ⟩
        | false =>
          rw [List.any_cons, hQ, Bool.false_or] at hAny
          obtain ⟨before, y, after, rfl, hBefore, hY⟩ := ih.mp hAny
          exact ⟨x :: before, y, after, rfl, List.forall_mem_cons.mpr ⟨⟨hP, hQ⟩, hBefore⟩, hY⟩
      · cases hAny
    · rintro ⟨before, y, after, hSplit, hBefore, hP, hQ⟩
      cases before with
      | nil =>
        obtain ⟨rfl, rfl⟩ := List.cons_eq_cons.mp hSplit
        rw [if_pos hP, List.any_cons, hQ, Bool.true_or]
      | cons b before =>
        obtain ⟨rfl, rfl⟩ := List.cons_eq_cons.mp hSplit
        obtain ⟨⟨hHead, -⟩, hRest⟩ := List.forall_mem_cons.mp hBefore
        rw [if_pos hHead, List.any_cons, ih.mpr ⟨before, y, after, rfl, hRest, hP, hQ⟩,
          Bool.or_true]

/-! ## Accessors and the methods for listeners -/

section Accessors

variable {s : Settings} {f : BoundField}

theorem unbracketed_of_signature_mem {a : Form} {h : Holding}
    (hMem : a.signature h f ∈ ChangeNotice.methods.map (·.signature)) : Unbracketed f.suffix := by
  have hOne : ∀ text ∈ ChangeNotice.methods.map (·.signature), text.toList.count '(' = 1 := by
    decide
  have hCount := hOne _ hMem
  simp only [Form.signature, Form.name, signatureText, String.toList_append, List.count_append]
    at hCount
  have hOpen : "(".toList.count '(' = 1 := by decide
  rw [Unbracketed, ← List.count_eq_zero]
  omega

/-- Only a field that collects listeners has an accessor with the signature of a method for them. -/
theorem collectsListeners_iff : collectsListeners s f = true ↔
    ∃ m ∈ accessors s f, m.signature ∈ ChangeNotice.methods.map (·.signature) := by
  simp only [collectsListeners, Bool.and_eq_true, beq_iff_eq]
  constructor
  · rintro ⟨⟨hMany, hSuffix⟩, hValue⟩
    refine ⟨_, mem_accessors.mpr ⟨.add, hMany, rfl⟩, ?_⟩
    rw [Form.signature_method, Form.add_eq_register hSuffix hValue]
    decide
  · rintro ⟨m, hm, hSignature⟩
    obtain ⟨a, hA, rfl⟩ := mem_accessors.mp hm
    rw [Form.signature_method] at hSignature
    obtain ⟨hMany, hSuffix, hValue⟩ :=
      Form.listener_of_signature_mem (unbracketed_of_signature_mem hSignature) hA hSignature
    exact ⟨⟨hMany, hSuffix⟩, hValue⟩

theorem append_at_ne (suffix : String) : suffix ++ "At" ≠ "PropertyChangeListener" := by
  intro hEq
  have hLast := congrArg (fun text => text.toList.reverse.head?) hEq
  simp at hLast

/-- Only three forms of accessors, and these only under one suffix, are named like a method for
listeners. -/
theorem form_of_name_mem {a : Form} (hName : a.name f ∈ ChangeNotice.methods.map (·.name)) :
    (a = .add ∨ a = .addAt ∨ a = .remove) ∧ f.suffix = "PropertyChangeListener" := by
  simp only [ChangeNotice.methods, List.map_cons, List.map_nil, List.mem_cons, List.not_mem_nil,
    or_false] at hName
  rcases hName with hName | hName | hName
  · exact absurd hName (Form.verb_append_ne_tellAll a.verb _)
  · obtain ⟨hVerb, hSuffix⟩ :=
      Form.suffix_of_verb_append .add "PropertyChangeListener" (.inl rfl) (by decide) hName
    cases a with
    | add => exact ⟨.inl rfl, by simpa [Form.ending, Ending.text] using hSuffix⟩
    | addAt => exact ⟨.inr (.inl rfl), by simpa [Form.ending, Ending.text] using hSuffix⟩
    | _ => cases hVerb
  · obtain ⟨hVerb, hSuffix⟩ :=
      Form.suffix_of_verb_append .remove "PropertyChangeListener" (.inr rfl) (by decide) hName
    cases a with
    | remove => exact ⟨.inr (.inr rfl), by simpa [Form.ending, Ending.text] using hSuffix⟩
    | removeAt => exact absurd hSuffix (append_at_ne f.suffix)
    | _ => cases hVerb

theorem isCollection_of_name_mem {m : MethodDecl} (hm : m ∈ accessors s f)
    (hName : m.name ∈ ChangeNotice.methods.map (·.name)) :
    f.isCollection = true ∧ f.suffix = "PropertyChangeListener" := by
  obtain ⟨a, hA, rfl⟩ := mem_accessors.mp hm
  rw [Form.name_method] at hName
  obtain ⟨hForm, hSuffix⟩ := form_of_name_mem hName
  refine ⟨?_, hSuffix⟩
  rcases hForm with rfl | rfl | rfl
  · exact hA
  · exact (Bool.and_eq_true_iff.mp hA).1
  · exact hA

/-- An accessor may have the signature of a method for listeners, but not its parameter. -/
theorem not_mem_methods_of_mem_accessors {m : MethodDecl} (hm : m ∈ accessors s f) :
    m ∉ ChangeNotice.methods := by
  intro hMethod
  obtain ⟨a, -, rfl⟩ := mem_accessors.mp hm
  have hName := List.mem_map_of_mem (f := (·.name)) hMethod
  have hParameters := List.mem_map_of_mem (f := fun m => m.parameters.map (·.name)) hMethod
  have hV (rest : String) : "v" ++ rest ≠ "pcl" := by
    intro hEq
    have hChars := congrArg String.toList hEq
    simp at hChars
  rw [Form.name_method] at hName
  obtain ⟨hForm, -⟩ := form_of_name_mem hName
  rcases hForm with rfl | rfl | rfl
  · simp [Form.method, Collection.add, ChangeNotice.methods, ChangeNotice.tellAll,
      ChangeNotice.register, ChangeNotice.unregister, MethodDecl.plain, BoundField.parameter, hV]
      at hParameters
  · simp [Form.method, Collection.addAt, ChangeNotice.methods, ChangeNotice.tellAll,
      ChangeNotice.register, ChangeNotice.unregister, MethodDecl.plain] at hParameters
  · simp [Form.method, Collection.remove, ChangeNotice.methods, ChangeNotice.tellAll,
      ChangeNotice.register, ChangeNotice.unregister, MethodDecl.plain, BoundField.parameter, hV]
      at hParameters

end Accessors

/-! ## The methods -/

section Methods

variable {s : Settings}

/-- Fields before the first bound one offer their accessors only. -/
theorem offeredFrom_append_of_unbound {before : List BoundField}
    (hBefore : ∀ g ∈ before, g.name ≠ ChangeNotice.supportField ∧ g.bound = false)
    (fs : List BoundField) :
    offeredFrom s false (before ++ fs) =
      before.flatMap (accessors s) ++ offeredFrom s false fs := by
  induction before with
  | nil => rfl
  | cons g before ih =>
    obtain ⟨⟨hName, hUnbound⟩, hRest⟩ := List.forall_mem_cons.mp hBefore
    rw [List.cons_append, offeredFrom, beq_eq_false_iff_ne.mpr hName, hUnbound, List.flatMap_cons]
    simp [ih hRest]

/-- The methods for listeners come right after the accessors of the first bound field. -/
theorem offered_split {t : BoundType} {before : List BoundField} {f : BoundField}
    {after : List BoundField} (hSplit : effectiveFields s t = before ++ f :: after)
    (hBefore : ∀ g ∈ before, g.name ≠ ChangeNotice.supportField ∧ g.bound = false)
    (hName : f.name ≠ ChangeNotice.supportField) (hBound : f.bound = true) :
    offered s t = (before ++ [f]).flatMap (accessors s) ++
      (ChangeNotice.methods ++ offeredFrom s true after) := by
  rw [offered, hSplit, offeredFrom_append_of_unbound hBefore, offeredFrom,
    beq_eq_false_iff_ne.mpr hName, hBound]
  simp

theorem methods_subset_iff {accessorsBefore rest : List MethodDecl}
    (hOwn : ∀ m ∈ accessorsBefore, m ∉ ChangeNotice.methods) :
    ChangeNotice.methods ⊆
        (accessorsBefore ++ (ChangeNotice.methods ++ rest)).foldl adopt [] ↔
      ∀ m ∈ accessorsBefore, m.signature ∉ ChangeNotice.methods.map (·.signature) := by
  rw [List.foldl_append]
  constructor
  · intro hSubset m hm hSignature
    obtain ⟨method, hMethod, hSame⟩ := List.mem_map.mp hSignature
    obtain ⟨first, hFirst, hEq⟩ :
        ∃ n ∈ accessorsBefore.foldl adopt [], n.signature = m.signature :=
      exists_signature_of_offered hm
    rcases mem_foldl_adopt_iff.mp (hSubset hMethod) with hTaken | ⟨before, after, -, hNew⟩
    · rcases mem_of_mem_foldl_adopt hTaken with hNone | hTaken
      · cases hNone
      · exact hOwn method hTaken hMethod
    · exact hNew first (List.mem_append_left _ hFirst) (hEq.trans hSame.symm)
  · intro hApart
    have hDistinct : (ChangeNotice.methods.map (·.signature)).Nodup := by decide
    rw [List.foldl_append]
    refine List.Subset.trans ?_ (subset_foldl_adopt _ _)
    refine subset_foldl_adopt_of_disjoint hDistinct fun m hm n hn hEq => ?_
    rcases mem_of_mem_foldl_adopt hm with hNone | hm
    · cases hNone
    · exact hApart m hm (List.mem_map.mpr ⟨n, hn, hEq.symm⟩)

theorem not_collectsListeners_iff {fs : List BoundField} :
    (∀ m ∈ fs.flatMap (accessors s), m.signature ∉ ChangeNotice.methods.map (·.signature)) ↔
      ∀ g ∈ fs, collectsListeners s g = false := by
  simp only [List.forall_mem_flatMap, ← Bool.not_eq_true, collectsListeners_iff, not_exists,
    not_and]

/-- A bound field comes before any other in the way of the member. -/
theorem hasListeners_of_subset {t : BoundType}
    (h : ChangeNotice.methods ⊆ (boundClass s t).methods) : hasListeners s t = true := by
  have hTell : ChangeNotice.tellAll ∈ ChangeNotice.methods := List.mem_cons_self
  have hOffered := methods_boundClass_subset s t (h hTell)
  rcases List.mem_append.mp ((offered_perm s t).mem_iff.mp hOffered) with hOwn | hListeners
  · obtain ⟨f, -, hm⟩ := List.mem_flatMap.mp hOwn
    exact absurd hTell (not_mem_methods_of_mem_accessors hm)
  · by_contra hNone
    rw [if_neg hNone] at hListeners
    cases hListeners

theorem methods_subset_boundClass_iff (t : BoundType) :
    ChangeNotice.methods ⊆ (boundClass s t).methods ↔ unobstructed s t = true := by
  have hMethods : ∀ {before f after}, effectiveFields s t = before ++ f :: after →
      (∀ g ∈ before, g.name ≠ ChangeNotice.supportField ∧ g.bound = false) →
      f.name ≠ ChangeNotice.supportField → f.bound = true →
      (ChangeNotice.methods ⊆ (boundClass s t).methods ↔
        ∀ g ∈ before ++ [f], collectsListeners s g = false) := by
    intro before f after hSplit hBefore hName hBound
    rw [methods_boundClass, ClassDecl.methods_addMethods,
      offered_split hSplit hBefore hName hBound, ← not_collectsListeners_iff]
    refine methods_subset_iff fun m hm => ?_
    obtain ⟨g, -, hm⟩ := List.mem_flatMap.mp hm
    exact not_mem_methods_of_mem_accessors hm
  rw [unobstructed, any_takeWhile_iff]
  constructor
  · intro h
    obtain ⟨before, f, after, hSplit, hBefore, hName, hBound⟩ :=
      any_takeWhile_iff.mp (hasListeners_of_subset h)
    simp only [bne_iff_ne, ne_eq] at hBefore hName
    have hApart := (hMethods hSplit hBefore hName hBound).mp h
    have hClear : ∀ g ∈ before ++ [f], g.name ≠ ChangeNotice.supportField →
        (!obstructs s g) = true := by
      intro g hg hNamed
      rw [obstructs, hApart g hg, beq_eq_false_iff_ne.mpr hNamed]
      rfl
    refine ⟨before, f, after, hSplit, fun g hg => ?_, ?_, hBound⟩
    · exact ⟨hClear g (List.mem_append_left _ hg) (hBefore g hg).1, (hBefore g hg).2⟩
    · exact hClear f (List.mem_append_right _ List.mem_cons_self) hName
  · rintro ⟨before, f, after, hSplit, hBefore, hClear, hBound⟩
    have hNot : ∀ g : BoundField, (!obstructs s g) = true →
        g.name ≠ ChangeNotice.supportField ∧ collectsListeners s g = false := by
      intro g hg
      simpa [obstructs] using hg
    refine (hMethods hSplit (fun g hg => ?_) (hNot f hClear).1 hBound).mpr fun g hg => ?_
    · exact ⟨(hNot g (hBefore g hg).1).1, (hBefore g hg).2⟩
    · rcases List.mem_append.mp hg with hg | hg
      · exact (hNot g (hBefore g hg).1).2
      · rw [List.mem_singleton.mp hg]
        exact (hNot f hClear).2

end Methods

/-! ## The member -/

def supportMembers (c : ClassDecl) : List FieldDecl :=
  c.fields.filter (·.name == ChangeNotice.supportField)

section Member

variable {s : Settings} {c : ClassDecl} {f : BoundField}

theorem supportMembers_congr {d : ClassDecl} (h : c.fields = d.fields) :
    supportMembers c = supportMembers d := by
  rw [supportMembers, h, supportMembers]

theorem supportMembers_addField {d : FieldDecl}
    (h : d.name ≠ ChangeNotice.supportField ∨
      (c.field? ChangeNotice.supportField).isSome = true) :
    supportMembers (c.addField d) = supportMembers c := by
  rw [supportMembers, ClassDecl.filter_name_addField, supportMembers, if_neg]
  rintro ⟨hName, hNone⟩
  rcases h with hOther | hSome
  · exact hOther hName
  · rw [hNone] at hSome
    cases hSome

theorem supportMembers_installIfBound (f : BoundField) (c : ClassDecl) :
    supportMembers (ChangeNotice.installIfBound f c) =
      if f.bound && !(c.field? ChangeNotice.supportField).isSome then [ChangeNotice.member]
      else supportMembers c := by
  rw [ChangeNotice.installIfBound, ChangeNotice.install]
  cases f.bound with
  | false => rfl
  | true =>
    cases hTaken : c.field? ChangeNotice.supportField with
    | some d => simp
    | none =>
      have hName : ChangeNotice.member.name = ChangeNotice.supportField := rfl
      simp [supportMembers, ClassDecl.filter_name_addField, hName, hTaken]

theorem supportMembers_declare_collection (h : Holding)
    (hKept : f.name ≠ ChangeNotice.supportField ∨
      (c.field? ChangeNotice.supportField).isSome = true) :
    supportMembers (Collection.declare h f c) = supportMembers c := by
  rw [Collection.declare, supportMembers_addField (by rwa [ClassDecl.field?_addImports])]
  exact supportMembers_congr (ClassDecl.fields_addImports _ _)

theorem supportMembers_declare_scalar
    (hKept : f.name ≠ ChangeNotice.supportField ∨
      (c.field? ChangeNotice.supportField).isSome = true) :
    supportMembers (Scalar.declare f c) = supportMembers c := by
  have hValue : supportMembers ((c.addImports f.valueType.imports).addField
      (Scalar.valueMember f)) = supportMembers c := by
    rw [supportMembers_addField (by rwa [ClassDecl.field?_addImports])]
    exact supportMembers_congr (ClassDecl.fields_addImports _ _)
  have hFlag : (Scalar.flagMember f).name ≠ ChangeNotice.supportField := flagName_ne_supportField f
  rw [Scalar.declare, Scalar.members]
  split
  · exact (supportMembers_addField (.inl hFlag)).trans hValue
  · exact hValue

/-- A field leaves the member of that name as it is, or brings the one for the listeners. -/
theorem supportMembers_withProperty
    (hKept : f.name ≠ ChangeNotice.supportField ∨
      (c.field? ChangeNotice.supportField).isSome = true) :
    supportMembers (withProperty s c f) =
      if f.bound && !(c.field? ChangeNotice.supportField).isSome then [ChangeNotice.member]
      else supportMembers c := by
  have hTaken : ((c.field? ChangeNotice.supportField).isSome ||
      f.name == ChangeNotice.supportField) = (c.field? ChangeNotice.supportField).isSome := by
    rcases hKept with hName | hSome
    · rw [beq_eq_false_iff_ne.mpr hName, Bool.or_false]
    · rw [hSome, Bool.true_or]
  rw [withProperty]
  split
  · have hDeclared : ((Collection.declare (.ofSettings s) f c).field?
        ChangeNotice.supportField).isSome = (c.field? ChangeNotice.supportField).isSome := by
      rw [Collection.declare, ClassDecl.isSome_field?_addField, ClassDecl.field?_addImports]
      exact hTaken
    rw [Collection.equip, supportMembers_installIfBound, ClassDecl.field?_emitAll,
      supportMembers_congr (ClassDecl.fields_emitAll _ _), hDeclared,
      supportMembers_declare_collection _ hKept]
  · rw [Scalar.equip, supportMembers_installIfBound, ClassDecl.field?_emitAll,
      supportMembers_congr (ClassDecl.fields_emitAll _ _), isSome_field?_declare, hTaken,
      supportMembers_declare_scalar hKept]

theorem supportMembers_foldl_of_isSome {fs : List BoundField}
    (hSome : (c.field? ChangeNotice.supportField).isSome = true) :
    supportMembers (fs.foldl (withProperty s) c) = supportMembers c := by
  induction fs generalizing c with
  | nil => rfl
  | cons f fs ih =>
    rw [List.foldl_cons, ih (by rw [isSome_field?_withProperty, hSome]; rfl),
      supportMembers_withProperty (.inr hSome), hSome, Bool.not_true, Bool.and_false,
      if_neg Bool.false_ne_true]

theorem field?_foldl_of_unbound {fs : List BoundField}
    (hFields : ∀ g ∈ fs, g.name ≠ ChangeNotice.supportField ∧ g.bound = false) :
    ((fs.foldl (withProperty s) c).field? ChangeNotice.supportField).isSome =
      (c.field? ChangeNotice.supportField).isSome := by
  induction fs generalizing c with
  | nil => rfl
  | cons f fs ih =>
    obtain ⟨⟨hName, hUnbound⟩, hRest⟩ := List.forall_mem_cons.mp hFields
    rw [List.foldl_cons, ih hRest, isSome_field?_withProperty, beq_eq_false_iff_ne.mpr hName,
      hUnbound, Bool.or_false, Bool.or_false]

/-- The listeners are kept in one member where a field is bound before any has its name. -/
theorem supportMembers_boundClass {t : BoundType} (hListeners : hasListeners s t = true) :
    supportMembers (boundClass s t) = [ChangeNotice.member] := by
  obtain ⟨before, f, after, hSplit, hBefore, hName, hBound⟩ := any_takeWhile_iff.mp hListeners
  simp only [bne_iff_ne, ne_eq] at hBefore hName
  have hEmpty : ((before.foldl (withProperty s) (emptyClass s t)).field?
      ChangeNotice.supportField).isSome = false := by
    rw [field?_foldl_of_unbound hBefore]
    simp [emptyClass, ClassDecl.field?, ClassDecl.ofName]
  have hMember : supportMembers (withProperty s
      (before.foldl (withProperty s) (emptyClass s t)) f) = [ChangeNotice.member] := by
    rw [supportMembers_withProperty (.inl hName), hBound, hEmpty]
    rfl
  have hFold : supportMembers ((effectiveFields s t).foldl (withProperty s) (emptyClass s t)) =
      [ChangeNotice.member] := by
    rw [hSplit, List.foldl_append, List.foldl_cons, supportMembers_foldl_of_isSome, hMember]
    rw [isSome_field?_withProperty, hBound, Bool.or_true]
  exact hFold

/-- Without a bound field only a field brings a member of that name. -/
theorem exists_member_iff_of_unbound {t : BoundType}
    (hUnbound : ∀ f ∈ effectiveFields s t, f.bound = false) :
    (∃ d ∈ (boundClass s t).fields, d.name = ChangeNotice.supportField) ↔
      ∃ f ∈ t.fields, f.name = ChangeNotice.supportField := by
  have hFold : ∀ (fs : List BoundField) (c : ClassDecl), (∀ f ∈ fs, f.bound = false) →
      ((fs.foldl (withProperty s) c).field? ChangeNotice.supportField).isSome =
        ((c.field? ChangeNotice.supportField).isSome ||
          fs.any (·.name == ChangeNotice.supportField)) := by
    intro fs
    induction fs with
    | nil => simp
    | cons f fs ih =>
      intro c hFields
      obtain ⟨hField, hRest⟩ := List.forall_mem_cons.mp hFields
      rw [List.foldl_cons, ih _ hRest, isSome_field?_withProperty, hField, Bool.or_false,
        List.any_cons, Bool.or_assoc]
  have hEmpty : ((emptyClass s t).field? ChangeNotice.supportField).isSome = false := by
    simp [emptyClass, ClassDecl.field?, ClassDecl.ofName]
  have hClass : ((boundClass s t).field? ChangeNotice.supportField).isSome =
      t.fields.any (·.name == ChangeNotice.supportField) := by
    refine (hFold _ (emptyClass s t) hUnbound).trans ?_
    rw [hEmpty, Bool.false_or, effectiveFields, List.any_map]
    rfl
  rw [Bool.eq_iff_iff, ClassDecl.field?, List.find?_isSome, List.any_eq_true] at hClass
  simpa using hClass

/-- Without a bound field only a collection brings a method of one of these names. -/
theorem exists_collection_of_unbound {t : BoundType}
    (hUnbound : ∀ f ∈ effectiveFields s t, f.bound = false) {m : MethodDecl}
    (hm : m ∈ (boundClass s t).methods) (hName : m.name ∈ ChangeNotice.methods.map (·.name)) :
    ∃ f ∈ t.fields, f.isCollection = true ∧ f.suffix = "PropertyChangeListener" := by
  have hListeners : hasListeners s t = false := by
    rw [hasListeners, List.any_eq_false]
    intro f hf
    rw [hUnbound f ((List.takeWhile_sublist _).subset hf)]
    exact Bool.false_ne_true
  have hOffered := methods_boundClass_subset s t hm
  rw [(offered_perm s t).mem_iff, hListeners, if_neg Bool.false_ne_true, List.append_nil]
    at hOffered
  obtain ⟨f, hf, hOwn⟩ := List.mem_flatMap.mp hOffered
  obtain ⟨original, hOriginal, rfl⟩ := List.mem_map.mp hf
  obtain ⟨hMany, hSuffix⟩ := isCollection_of_name_mem hOwn hName
  rw [isCollection_effectiveField] at hMany
  rw [suffix_effectiveField] at hSuffix
  exact ⟨original, hOriginal, hMany, hSuffix⟩

end Member

/-- The class of a valid type serves listeners exactly if some field is bound and no field up to it
is in the way. If no field is bound, it has a member of that name only as a field, and a method of
one of the names only for a collection under the suffix that makes this name. -/
theorem serves_listeners_iff (s : Settings) {t : BoundType} (hCheck : t.check = .ok ()) :
    ∃ c, buildClass s t = .ok c ∧
      (ServesListeners c ↔ unobstructed s t = true) ∧
      ((∀ f ∈ effectiveFields s t, f.bound = false) →
        ((∃ d ∈ c.fields, d.name = ChangeNotice.supportField) ↔
          ∃ f ∈ t.fields, f.name = ChangeNotice.supportField) ∧
        ∀ m ∈ c.methods, m.name ∈ ChangeNotice.methods.map (·.name) →
          ∃ f ∈ t.fields, f.isCollection = true ∧ f.suffix = "PropertyChangeListener") := by
  refine ⟨boundClass s t, buildClass_of_check hCheck s, ?_, ?_⟩
  · constructor
    · exact fun hServes => (methods_subset_boundClass_iff t).mp hServes.methods
    · intro hClear
      have hMethods := (methods_subset_boundClass_iff t).mpr hClear
      refine ⟨?_, hMethods⟩
      have hMember := supportMembers_boundClass (hasListeners_of_subset hMethods)
      rw [supportMembers] at hMember
      rw [hMember]
      decide
  · intro hUnbound
    refine ⟨exists_member_iff_of_unbound hUnbound, ?_⟩
    intro m hm hName
    exact exists_collection_of_unbound hUnbound hm hName

/-- A bound field, and a collection of listeners that comes too late to be in the way. -/
def watchedType : BoundType :=
  { BoundType.ofName "Order" with
    fields := [{ BoundField.single "_code" .int "Code" with bound := true },
      .collection "_watchers" (.bound "java.beans.PropertyChangeListener")
        "PropertyChangeListener" 0] }

theorem watched_serves_listeners :
    ∃ c, buildClass .standard watchedType = .ok c ∧ ServesListeners c := by
  have hCheck : watchedType.check = .ok () := by decide +kernel
  obtain ⟨c, hBuild, hServes, -⟩ := serves_listeners_iff .standard hCheck
  exact ⟨c, hBuild, hServes.mpr (by decide +kernel)⟩

/-- A bound field whose own member has the name of the one for the listeners, and its type. -/
def ownSupport : BoundType :=
  { BoundType.ofName "Order" with
    fields := [{ BoundField.single "propertyChangeSupport"
      (.bound "java.beans.PropertyChangeSupport") "Support" with bound := true }] }

/-- The class has the member, so it gets no methods for listeners, though its writer calls one. -/
theorem own_support_unserved :
    ¬ ∀ (s : Settings) (t : BoundType) (c : ClassDecl), t.check = .ok () →
      buildClass s t = .ok c → (∃ f ∈ effectiveFields s t, f.bound = true) →
      ServesListeners c := by
  intro h
  have hCheck : ownSupport.check = .ok () := by decide +kernel
  have hBound : ∃ f ∈ effectiveFields .standard ownSupport, f.bound = true := by decide
  have hServes := h .standard ownSupport _ hCheck (buildClass_of_check hCheck .standard) hBound
  exact absurd ((methods_subset_boundClass_iff ownSupport).mp hServes.methods) (by decide +kernel)

end BeanGen.Generation
