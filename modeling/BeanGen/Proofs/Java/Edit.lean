import BeanGen.Proofs.Java.Imports

/-!
# A class that is built step by step

Every step on the way to a class changes one of its components. What is added to a list stands at
its end, and only if nothing of the same key is there: a field of its name, a method of its
signature, an interface or an import that is the same. So no key occurs twice in a class, however
many steps there were and in which order, and what it had at any time it has in the same places
afterwards.
-/

namespace BeanGen.Java

/-- One step: something is added to a class, or something that it has only one of is set. -/
inductive Edit where
  | addImport (name : String)
  | addField (f : FieldDecl)
  | addMethod (m : MethodDecl)
  | addInterface (name : String)
  | addConstructor (k : ConstructorDecl)
  | changeDefault (f : ConstructorDecl → ConstructorDecl)
  | setSuperclass (name : String)
  | setComment (text : String)
  | setAbstract (isAbstract : Bool)

def Edit.apply (c : ClassDecl) : Edit → ClassDecl
  | addImport name => c.addImport name
  | addField f => c.addField f
  | addMethod m => c.addMethod m
  | addInterface name => c.addInterface name
  | addConstructor k => c.addConstructor k
  | changeDefault f => c.changeDefault f
  | setSuperclass name => { c with superclass := some name }
  | setComment text => { c with comment := some text }
  | setAbstract isAbstract => { c with isAbstract := isAbstract }

def ClassDecl.edit (c : ClassDecl) (es : List Edit) : ClassDecl :=
  es.foldl Edit.apply c

namespace ClassDecl

variable {c d e : ClassDecl}

/-! ## What one step does -/

section Step

variable (c)

theorem acceptsField_iff (f : FieldDecl) :
    c.acceptsField f = true ↔ f.name ∉ c.fields.map (·.name) := by
  simp [acceptsField, field?, List.find?_eq_none]

theorem acceptsMethod_iff (m : MethodDecl) :
    c.acceptsMethod m = true ↔ m.signature ∉ c.methods.map (·.signature) := by
  simp [acceptsMethod]

theorem addField_eq (f : FieldDecl) :
    c.addField f = { c with fields := enlist (·.name) c.fields f } := by
  by_cases hTaken : f.name ∈ c.fields.map (·.name)
  · rw [addField, if_neg fun h => (c.acceptsField_iff f).mp h hTaken, enlist_of_mem hTaken]
  · rw [addField, if_pos ((c.acceptsField_iff f).mpr hTaken), enlist_of_not_mem hTaken]

theorem addMethod_eq (m : MethodDecl) :
    c.addMethod m = { c with methods := enlist (·.signature) c.methods m } := by
  by_cases hTaken : m.signature ∈ c.methods.map (·.signature)
  · rw [addMethod, if_neg fun h => (c.acceptsMethod_iff m).mp h hTaken, enlist_of_mem hTaken]
  · rw [addMethod, if_pos ((c.acceptsMethod_iff m).mpr hTaken), enlist_of_not_mem hTaken]

theorem addInterface_eq (name : String) :
    c.addInterface name = { c with interfaces := enlist id c.interfaces name } := by
  rw [addInterface, enlist_id]
  split <;> rfl

end Step

/-- The answer to an offer says whether what is offered is new, and whether it has been put at the
end: if not, the class stays as it is. -/
structure Answers (answer : Bool) (isNew : Prop) (c d longer : ClassDecl) : Prop where
  new_iff : answer = true ↔ isNew
  taken_iff : answer = true ↔ d = longer
  refused_iff : answer = false ↔ d = c

theorem Answers.of_ite {answer : Bool} {isNew : Prop} {longer : ClassDecl}
    (hNew : answer = true ↔ isNew) (hLonger : longer ≠ c) :
    Answers answer isNew c (if answer then longer else c) longer := by
  refine ⟨hNew, ?_, ?_⟩
  · cases answer <;> simp [hLonger.symm]
  · cases answer <;> simp [hLonger]

theorem answers_addField (c : ClassDecl) (f : FieldDecl) :
    Answers (c.acceptsField f) (f.name ∉ c.fields.map (·.name)) c (c.addField f)
      { c with fields := c.fields ++ [f] } := by
  refine .of_ite (c.acceptsField_iff f) fun hEq => ?_
  simpa using congrArg (·.fields.length) hEq

theorem answers_addMethod (c : ClassDecl) (m : MethodDecl) :
    Answers (c.acceptsMethod m) (m.signature ∉ c.methods.map (·.signature)) c (c.addMethod m)
      { c with methods := c.methods ++ [m] } := by
  refine .of_ite (c.acceptsMethod_iff m) fun hEq => ?_
  simpa using congrArg (·.methods.length) hEq

/-! ## The constructor without parameters -/

theorem changeFirst_of_none {α : Type} {p : α → Bool} {xs : List α} (h : ∀ x ∈ xs, p x = false)
    (default : α) (f : α → α) : changeFirst p default f xs = xs ++ [f default] := by
  induction xs with
  | nil => rfl
  | cons x xs ih =>
    obtain ⟨hHead, hRest⟩ := List.forall_mem_cons.mp h
    rw [changeFirst, hHead, if_neg Bool.false_ne_true, ih hRest, List.cons_append]

theorem changeFirst_append {α : Type} {p : α → Bool} {before after : List α} {x : α}
    (hBefore : ∀ y ∈ before, p y = false) (hx : p x = true) (default : α) (f : α → α) :
    changeFirst p default f (before ++ x :: after) = before ++ f x :: after := by
  induction before with
  | nil => rw [List.nil_append, List.nil_append, changeFirst, if_pos hx]
  | cons y before ih =>
    obtain ⟨hHead, hRest⟩ := List.forall_mem_cons.mp hBefore
    rw [List.cons_append, List.cons_append, changeFirst, hHead, if_neg Bool.false_ne_true, ih hRest]

/-- The constructor without parameters is changed in its place, and is made only if there is
none. -/
inductive DefaultChanged (f : ConstructorDecl → ConstructorDecl) (c : ClassDecl) :
    ClassDecl → Prop
  | found {before after : List ConstructorDecl} {k : ConstructorDecl}
      (hSplit : c.constructors = before ++ k :: after) (hk : k.parameters = [])
      (hFirst : ∀ other ∈ before, other.parameters ≠ []) :
      DefaultChanged f c { c with constructors := before ++ f k :: after }
  | made (hNone : ∀ k ∈ c.constructors, k.parameters ≠ []) :
      DefaultChanged f c { c with constructors := c.constructors ++ [f .plain] }

theorem defaultChanged (c : ClassDecl) (f : ConstructorDecl → ConstructorDecl) :
    DefaultChanged f c (c.changeDefault f) := by
  rw [changeDefault]
  cases hFind : c.constructors.find? (·.parameters.isEmpty) with
  | none =>
    rw [List.find?_eq_none] at hFind
    rw [changeFirst_of_none (by simpa using hFind)]
    exact .made (by simpa using hFind)
  | some k =>
    obtain ⟨hk, before, after, hSplit, hFirst⟩ := List.find?_eq_some_iff_append.mp hFind
    have hFirst : ∀ other ∈ before, other.parameters.isEmpty = false := by simpa using hFirst
    rw [hSplit, changeFirst_append hFirst hk]
    exact .found hSplit (List.isEmpty_iff.mp hk) (by simpa using hFirst)

/-! ## What every step keeps -/

/-- The name is one of another package, and that is not `java.lang`. -/
def Foreign (c : ClassDecl) (q : String) : Prop :=
  '.' ∈ q.toList ∧ packageName q ≠ "java.lang" ∧ packageName q ≠ c.package

/-- No key occurs twice in the class, and no import is one that it has no need of. -/
structure Tidy (c : ClassDecl) : Prop where
  imports : c.imports.Nodup
  foreign : ∀ q ∈ c.imports, c.Foreign q
  fields : (c.fields.map (·.name)).Nodup
  methods : (c.methods.map (·.signature)).Nodup
  interfaces : c.interfaces.Nodup

theorem needsNoImport_eq_false_iff {q : String} :
    c.needsNoImport q = false ↔ c.Foreign q := by
  simp [needsNoImport, Foreign, isQualified, and_assoc]

namespace Tidy

theorem ofName (name : String) : Tidy (.ofName name) :=
  ⟨List.nodup_nil, fun _ h => absurd h List.not_mem_nil, List.nodup_nil, List.nodup_nil,
    List.nodup_nil⟩

theorem addImport (h : Tidy c) (name : String) : Tidy (c.addImport name) := by
  have hNodup := nodup_addImport h.imports name
  have hForeign : ∀ q ∈ (c.addImport name).imports, c.Foreign q := by
    intro q hq
    rcases mem_addImport_iff.mp hq with hq | ⟨rfl, hNeeds⟩
    · exact h.foreign q hq
    · exact needsNoImport_eq_false_iff.mp hNeeds
  rw [addImport_eq] at hNodup hForeign ⊢
  exact ⟨hNodup, hForeign, h.fields, h.methods, h.interfaces⟩

theorem apply (h : Tidy c) (e : Edit) : Tidy (e.apply c) := by
  cases e with
  | addImport name => exact h.addImport name
  | addField f =>
    rw [Edit.apply, addField_eq]
    exact ⟨h.imports, h.foreign, nodup_enlist h.fields, h.methods, h.interfaces⟩
  | addMethod m =>
    rw [Edit.apply, addMethod_eq]
    exact ⟨h.imports, h.foreign, h.fields, nodup_enlist h.methods, h.interfaces⟩
  | addInterface name =>
    rw [Edit.apply, addInterface_eq]
    exact ⟨h.imports, h.foreign, h.fields, h.methods, nodup_enlist_id h.interfaces⟩
  | addConstructor | changeDefault | setSuperclass | setComment | setAbstract =>
    exact ⟨h.imports, h.foreign, h.fields, h.methods, h.interfaces⟩

theorem edit (h : Tidy c) (es : List Edit) : Tidy (c.edit es) := by
  induction es generalizing c with
  | nil => exact h
  | cons e es ih => exact ih (h.apply e)

end Tidy

/-- What a class has, another of the same name has in the same places. -/
structure Grows (c d : ClassDecl) : Prop where
  name : d.name = c.name
  imports : c.imports <+: d.imports
  fields : c.fields <+: d.fields
  methods : c.methods <+: d.methods
  interfaces : c.interfaces <+: d.interfaces

namespace Grows

theorem refl (c : ClassDecl) : c.Grows c :=
  ⟨rfl, List.prefix_refl _, List.prefix_refl _, List.prefix_refl _, List.prefix_refl _⟩

theorem trans (h : c.Grows d) (h' : d.Grows e) : c.Grows e where
  name := h'.name.trans h.name
  imports := h.imports.trans h'.imports
  fields := h.fields.trans h'.fields
  methods := h.methods.trans h'.methods
  interfaces := h.interfaces.trans h'.interfaces

theorem apply (c : ClassDecl) (e : Edit) : c.Grows (e.apply c) := by
  cases e with
  | addImport name =>
    rw [Edit.apply, addImport_eq]
    refine { refl c with imports := ?_ }
    split
    · exact List.prefix_refl c.imports
    · exact prefix_enlist id c.imports name
  | addField f =>
    rw [Edit.apply, addField_eq]
    exact { refl c with fields := prefix_enlist _ c.fields f }
  | addMethod m =>
    rw [Edit.apply, addMethod_eq]
    exact { refl c with methods := prefix_enlist _ c.methods m }
  | addInterface name =>
    rw [Edit.apply, addInterface_eq]
    exact { refl c with interfaces := prefix_enlist id c.interfaces name }
  | addConstructor | changeDefault | setSuperclass | setComment | setAbstract =>
    exact { refl c with }

theorem edit (c : ClassDecl) (es : List Edit) : c.Grows (c.edit es) := by
  induction es generalizing c with
  | nil => exact refl c
  | cons e es ih => exact (apply c e).trans (ih (e.apply c))

end Grows

/-- However a class has been built, it has no key twice and no import that it has no need of; what
it has stays in its place whatever is done next; a field or method that is offered is put at the end
if it is new, and the answer says so; and a constructor is made on demand only if there is none
without parameters. -/
theorem edits_only_append (name : String) (edits more : List Edit) :
    let c := (ofName name).edit edits
    c.name = name ∧ c.Tidy ∧ c.Grows (c.edit more) ∧
      (∀ f, Answers (c.acceptsField f) (f.name ∉ c.fields.map (·.name)) c (c.addField f)
        { c with fields := c.fields ++ [f] }) ∧
      (∀ m, Answers (c.acceptsMethod m) (m.signature ∉ c.methods.map (·.signature)) c
        (c.addMethod m) { c with methods := c.methods ++ [m] }) ∧
      ∀ f, DefaultChanged f c (c.changeDefault f) := by
  intro c
  exact ⟨(Grows.edit (ofName name) edits).name, (Tidy.ofName name).edit edits, Grows.edit c more,
    answers_addField c, answers_addMethod c, defaultChanged c⟩

example : ((ofName "org.example.Order").edit [.addImport "java.util.List", .addImport "int",
    .addImport "java.lang.String", .addImport "org.example.Item",
    .addImport "java.util.List"]).imports = ["java.util.List"] := by
  decide +kernel

end ClassDecl

end BeanGen.Java
