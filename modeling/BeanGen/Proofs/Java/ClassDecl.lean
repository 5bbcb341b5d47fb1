import BeanGen.Accessor.Emission
import Mathlib.Data.List.Nodup

/-!
# What each addition does to a class

An addition concerns one component of the class and leaves the others alone. A list gets longer by
`enlist`, and only if nothing of the same key is there. For methods this is said by `adopt`: of the
methods that are offered, the first of each signature is taken up. So nothing is lost as long as the
signatures are distinct, and every signature that is offered is there in the end.
-/

namespace BeanGen.Java

/-! ## Lists with keys -/

/-- The list with one more member at its end, unless one of the same key is there. -/
def enlist {α : Type} (key : α → String) (xs : List α) (x : α) : List α :=
  if key x ∈ xs.map key then xs else xs ++ [x]

section Enlist

variable {α : Type} {key : α → String} {xs : List α} {x : α}

theorem enlist_of_mem (h : key x ∈ xs.map key) : enlist key xs x = xs :=
  if_pos h

theorem enlist_of_not_mem (h : key x ∉ xs.map key) : enlist key xs x = xs ++ [x] :=
  if_neg h

theorem prefix_enlist (key : α → String) (xs : List α) (x : α) : xs <+: enlist key xs x := by
  rw [enlist]
  split
  · exact List.prefix_refl xs
  · exact List.prefix_append xs [x]

theorem mem_enlist {y : α} (h : y ∈ enlist key xs x) : y ∈ xs ∨ y = x := by
  by_cases hTaken : key x ∈ xs.map key
  · rw [enlist_of_mem hTaken] at h
    exact .inl h
  · rw [enlist_of_not_mem hTaken] at h
    simpa using h

theorem nodup_enlist (h : (xs.map key).Nodup) : ((enlist key xs x).map key).Nodup := by
  by_cases hTaken : key x ∈ xs.map key
  · rwa [enlist_of_mem hTaken]
  · rw [enlist_of_not_mem hTaken, List.map_append, List.map_singleton, List.nodup_append']
    exact ⟨h, List.nodup_singleton _, List.disjoint_singleton.mpr hTaken⟩

end Enlist

section Names

variable {names : List String} {name q : String}

theorem enlist_id (names : List String) (name : String) :
    enlist id names name = if names.contains name then names else names ++ [name] := by
  rw [enlist, List.map_id, id_eq]
  simp only [List.contains_iff_mem]

theorem mem_enlist_id : q ∈ enlist id names name ↔ q ∈ names ∨ q = name := by
  refine ⟨mem_enlist, ?_⟩
  rintro (hq | rfl)
  · exact (prefix_enlist id names name).mem hq
  · rw [enlist_id]
    split
    · exact List.contains_iff_mem.mp ‹_›
    · exact List.mem_append_right names (List.mem_singleton_self q)

theorem nodup_enlist_id (h : names.Nodup) : (enlist id names name).Nodup := by
  rw [← List.map_id names] at h
  rw [← List.map_id (enlist id names name)]
  exact nodup_enlist h

end Names

/-! ## Methods that are offered one after another -/

def adopt (ms : List MethodDecl) (m : MethodDecl) : List MethodDecl :=
  if ms.any (·.signature == m.signature) then ms else ms ++ [m]

theorem adopt_eq (ms : List MethodDecl) (m : MethodDecl) :
    adopt ms m = enlist (·.signature) ms m := by
  simp [adopt, enlist]

theorem adopt_of_mem {ms : List MethodDecl} {m : MethodDecl}
    (h : m.signature ∈ ms.map (·.signature)) : adopt ms m = ms := by
  rw [adopt_eq, enlist_of_mem h]

theorem adopt_of_not_mem {ms : List MethodDecl} {m : MethodDecl}
    (h : m.signature ∉ ms.map (·.signature)) : adopt ms m = ms ++ [m] := by
  rw [adopt_eq, enlist_of_not_mem h]

theorem mem_of_mem_adopt {ms : List MethodDecl} {m n : MethodDecl} (h : n ∈ adopt ms m) :
    n ∈ ms ∨ n = m :=
  mem_enlist (adopt_eq ms m ▸ h)

theorem subset_adopt (ms : List MethodDecl) (m : MethodDecl) : ms ⊆ adopt ms m := by
  rw [adopt_eq]
  exact (prefix_enlist _ ms m).subset

theorem subset_foldl_adopt (ms ns : List MethodDecl) : ms ⊆ ns.foldl adopt ms := by
  induction ns generalizing ms with
  | nil => exact List.Subset.refl ms
  | cons n ns ih => exact List.Subset.trans (subset_adopt ms n) (ih (adopt ms n))

theorem mem_of_mem_foldl_adopt {ms ns : List MethodDecl} {m : MethodDecl}
    (h : m ∈ ns.foldl adopt ms) : m ∈ ms ∨ m ∈ ns := by
  induction ns generalizing ms with
  | nil => exact .inl h
  | cons n ns ih =>
    rcases ih h with hm | hm
    · rcases mem_of_mem_adopt hm with hm | rfl
      · exact .inl hm
      · exact .inr List.mem_cons_self
    · exact .inr (List.mem_cons_of_mem n hm)

/-- A method is taken up exactly if it comes first among those of its signature. -/
theorem mem_foldl_adopt_iff {ms ns : List MethodDecl} {m : MethodDecl} :
    m ∈ ns.foldl adopt ms ↔ m ∈ ms ∨ ∃ before after, ns = before ++ m :: after ∧
      ∀ other ∈ ms ++ before, other.signature ≠ m.signature := by
  induction ns generalizing ms with
  | nil => simp
  | cons n ns ih =>
    rw [List.foldl_cons, ih]
    by_cases hTaken : n.signature ∈ ms.map (·.signature)
    · obtain ⟨first, hFirst, hSame⟩ := List.mem_map.mp hTaken
      rw [adopt_of_mem hTaken]
      refine or_congr_right ?_
      constructor
      · rintro ⟨before, after, rfl, hNew⟩
        refine ⟨n :: before, after, rfl, ?_⟩
        have hHead : n.signature ≠ m.signature := hSame ▸ hNew first (List.mem_append_left _ hFirst)
        simp only [List.mem_append, List.mem_cons] at hNew ⊢
        rintro other (hOther | rfl | hOther)
        · exact hNew other (.inl hOther)
        · exact hHead
        · exact hNew other (.inr hOther)
      · rintro ⟨before, after, hSplit, hNew⟩
        cases before with
        | nil =>
          obtain ⟨rfl, rfl⟩ := List.cons_eq_cons.mp hSplit
          exact absurd hSame (hNew first (List.mem_append_left _ hFirst))
        | cons b before =>
          obtain ⟨rfl, rfl⟩ := List.cons_eq_cons.mp hSplit
          refine ⟨before, after, rfl, fun other hOther => hNew other ?_⟩
          simp only [List.mem_append, List.mem_cons] at hOther ⊢
          tauto
    · rw [adopt_of_not_mem hTaken]
      constructor
      · rintro (hm | ⟨before, after, rfl, hNew⟩)
        · rcases List.mem_append.mp hm with hm | hm
          · exact .inl hm
          · obtain rfl := List.mem_singleton.mp hm
            refine .inr ⟨[], ns, rfl, fun other hOther hEq => hTaken ?_⟩
            exact List.mem_map.mpr ⟨other, by simpa using hOther, hEq⟩
        · exact .inr ⟨n :: before, after, rfl, by simpa using hNew⟩
      · rintro (hm | ⟨before, after, hSplit, hNew⟩)
        · exact .inl (List.mem_append_left _ hm)
        · cases before with
          | nil =>
            obtain ⟨rfl, rfl⟩ := List.cons_eq_cons.mp hSplit
            exact .inl (List.mem_append_right _ List.mem_cons_self)
          | cons b before =>
            obtain ⟨rfl, rfl⟩ := List.cons_eq_cons.mp hSplit
            exact .inr ⟨before, after, rfl, by simpa using hNew⟩

/-- Methods of new and distinct signatures are all taken up. -/
theorem subset_foldl_adopt_of_disjoint {ms ns : List MethodDecl}
    (hNodup : (ns.map (·.signature)).Nodup)
    (hNew : ∀ m ∈ ms, ∀ n ∈ ns, m.signature ≠ n.signature) : ns ⊆ ns.foldl adopt ms := by
  intro n hn
  obtain ⟨before, after, rfl⟩ := List.append_of_mem hn
  refine mem_foldl_adopt_iff.mpr (.inr ⟨before, after, rfl, ?_⟩)
  rw [List.map_append, List.map_cons, List.nodup_append'] at hNodup
  obtain ⟨-, -, hDisjoint⟩ := hNodup
  intro other hOther hEq
  rcases List.mem_append.mp hOther with hOther | hOther
  · exact hNew other hOther n hn hEq
  · exact hDisjoint (List.mem_map.mpr ⟨other, hOther, hEq⟩) List.mem_cons_self

theorem exists_signature_of_offered {ms ns : List MethodDecl} {m : MethodDecl} (h : m ∈ ns) :
    ∃ n ∈ ns.foldl adopt ms, n.signature = m.signature := by
  induction ns generalizing ms with
  | nil => cases h
  | cons n ns ih =>
    rcases List.mem_cons.mp h with rfl | h
    · by_cases hTaken : m.signature ∈ ms.map (·.signature)
      · obtain ⟨other, hOther, hEq⟩ := List.mem_map.mp hTaken
        exact ⟨other, subset_foldl_adopt ms (m :: ns) hOther, hEq⟩
      · refine ⟨m, subset_foldl_adopt (adopt ms m) ns ?_, rfl⟩
        rw [adopt_of_not_mem hTaken]
        exact List.mem_append_right ms List.mem_cons_self
    · exact ih h

theorem length_foldl_adopt_le (ms ns : List MethodDecl) :
    (ns.foldl adopt ms).length ≤ ms.length + ns.length := by
  induction ns generalizing ms with
  | nil => exact Nat.le_refl _
  | cons n ns ih =>
    have hStep : (adopt ms n).length ≤ ms.length + 1 := by
      rw [adopt]
      split <;> simp
    have hRest := ih (adopt ms n)
    simp only [List.foldl_cons, List.length_cons]
    omega

/-- Nothing that is offered is lost exactly if no signature occurs twice. -/
theorem foldl_adopt_eq_append_iff {ms ns : List MethodDecl} (h : (ms.map (·.signature)).Nodup) :
    ns.foldl adopt ms = ms ++ ns ↔ ((ms ++ ns).map (·.signature)).Nodup := by
  induction ns generalizing ms with
  | nil => simpa using h
  | cons n ns ih =>
    rw [List.foldl_cons]
    by_cases hTaken : n.signature ∈ ms.map (·.signature)
    · rw [adopt_of_mem hTaken]
      constructor
      · -- a method that is passed over leaves too few for all to be there
        intro hEq
        have hLength := length_foldl_adopt_le ms ns
        rw [hEq, List.length_append, List.length_cons] at hLength
        omega
      · intro hNodup
        rw [List.map_append, List.map_cons] at hNodup
        exact absurd List.mem_cons_self ((List.disjoint_of_nodup_append hNodup) hTaken)
    · have hLonger : ((ms ++ [n]).map (·.signature)).Nodup := by
        rw [List.map_append, List.nodup_append']
        exact ⟨h, List.nodup_singleton _, by simpa [List.Disjoint] using hTaken⟩
      rw [adopt_of_not_mem hTaken, List.append_cons ms n ns]
      exact ih hLonger

/-! ## The components of a class -/

theorem foldl_frame {α β γ : Type} {view : β → γ} {step : β → α → β}
    (h : ∀ b a, view (step b a) = view b) (as : List α) (b : β) :
    view (as.foldl step b) = view b := by
  induction as generalizing b with
  | nil => rfl
  | cons a as ih => exact (ih (step b a)).trans (h b a)

namespace ClassDecl

/-- The second class differs from the first at most in its imports, fields and methods. -/
structure Frame (c d : ClassDecl) : Prop where
  name : d.name = c.name
  superclass : d.superclass = c.superclass
  interfaces : d.interfaces = c.interfaces
  constructors : d.constructors = c.constructors
  comment : d.comment = c.comment
  isAbstract : d.isAbstract = c.isAbstract

namespace Frame

theorem refl (c : ClassDecl) : c.Frame c :=
  ⟨rfl, rfl, rfl, rfl, rfl, rfl⟩

theorem trans {c d e : ClassDecl} (h : c.Frame d) (h' : d.Frame e) : c.Frame e where
  name := h'.name.trans h.name
  superclass := h'.superclass.trans h.superclass
  interfaces := h'.interfaces.trans h.interfaces
  constructors := h'.constructors.trans h.constructors
  comment := h'.comment.trans h.comment
  isAbstract := h'.isAbstract.trans h.isAbstract

theorem foldl {α : Type} {step : ClassDecl → α → ClassDecl} (h : ∀ c a, Frame c (step c a))
    (as : List α) (c : ClassDecl) : c.Frame (as.foldl step c) := by
  induction as generalizing c with
  | nil => exact refl c
  | cons a as ih => exact (h c a).trans (ih (step c a))

theorem addImport (c : ClassDecl) (name : String) : c.Frame (c.addImport name) := by
  rw [ClassDecl.addImport]
  split
  · exact refl c
  · exact ⟨rfl, rfl, rfl, rfl, rfl, rfl⟩

theorem addImports (c : ClassDecl) (names : List String) : c.Frame (c.addImports names) :=
  foldl addImport names c

theorem addField (c : ClassDecl) (f : FieldDecl) : c.Frame (c.addField f) := by
  rw [ClassDecl.addField]
  split
  · exact ⟨rfl, rfl, rfl, rfl, rfl, rfl⟩
  · exact refl c

theorem addFields (c : ClassDecl) (fs : List FieldDecl) : c.Frame (c.addFields fs) :=
  foldl addField fs c

theorem addMethod (c : ClassDecl) (m : MethodDecl) : c.Frame (c.addMethod m) := by
  rw [ClassDecl.addMethod]
  split
  · exact ⟨rfl, rfl, rfl, rfl, rfl, rfl⟩
  · exact refl c

theorem addMethods (c : ClassDecl) (ms : List MethodDecl) : c.Frame (c.addMethods ms) :=
  foldl addMethod ms c

theorem emit (c : ClassDecl) (e : Accessor.Emission) : c.Frame (c.emit e) :=
  (addImports c e.imports).trans (addMethod _ e.method)

theorem emitAll (c : ClassDecl) (es : List Accessor.Emission) : c.Frame (c.emitAll es) :=
  foldl emit es c

end Frame

variable (c : ClassDecl)

theorem addImport_eq (name : String) :
    c.addImport name = { c with
      imports := if c.needsNoImport name then c.imports else enlist id c.imports name } := by
  rw [addImport, enlist_id]
  cases c.needsNoImport name with
  | true => rfl
  | false =>
    rw [Bool.false_or, if_neg Bool.false_ne_true]
    split <;> rfl

@[simp] theorem name_addImport (name : String) : (c.addImport name).name = c.name := by
  rw [addImport]
  split <;> rfl

@[simp] theorem fields_addImport (name : String) : (c.addImport name).fields = c.fields := by
  rw [addImport]
  split <;> rfl

@[simp] theorem methods_addImport (name : String) : (c.addImport name).methods = c.methods := by
  rw [addImport]
  split <;> rfl

@[simp] theorem name_addImports (names : List String) : (c.addImports names).name = c.name :=
  foldl_frame name_addImport names c

@[simp] theorem fields_addImports (names : List String) :
    (c.addImports names).fields = c.fields :=
  foldl_frame fields_addImport names c

@[simp] theorem methods_addImports (names : List String) :
    (c.addImports names).methods = c.methods :=
  foldl_frame methods_addImport names c

@[simp] theorem field?_addImports (names : List String) (name : String) :
    (c.addImports names).field? name = c.field? name := by
  rw [field?, fields_addImports, field?]

@[simp] theorem methods_addField (f : FieldDecl) : (c.addField f).methods = c.methods := by
  rw [addField]
  split <;> rfl

@[simp] theorem methods_addFields (fs : List FieldDecl) :
    (c.addFields fs).methods = c.methods :=
  foldl_frame methods_addField fs c

@[simp] theorem isSome_field?_addField (f : FieldDecl) (name : String) :
    ((c.addField f).field? name).isSome = ((c.field? name).isSome || f.name == name) := by
  rw [addField, acceptsField]
  split
  · by_cases hName : f.name = name <;> simp [field?, hName]
  · rename_i hTaken
    have hTaken : (c.field? f.name).isSome = true := by
      cases h : c.field? f.name <;> simp [h] at hTaken ⊢
    by_cases hName : f.name = name
    · rw [← hName, hTaken, Bool.true_or]
    · rw [beq_eq_false_iff_ne.mpr hName, Bool.or_false]

theorem field?_addField (f : FieldDecl) (name : String) :
    (c.addField f).field? name = (c.field? name).or (if f.name = name then some f else none) := by
  rw [addField, acceptsField]
  by_cases hName : f.name = name
  · subst hName
    cases hTaken : c.field? f.name with
    | some d => simp [hTaken]
    | none =>
      have hNone : c.fields.find? (·.name == f.name) = none := hTaken
      simp [field?, hNone]
  · split <;> simp [field?, hName]

/-- Looking a name up in a class finds what it had, or else the first of that name to be added. -/
theorem field?_addFields (fs : List FieldDecl) (name : String) :
    (c.addFields fs).field? name = (c.field? name).or (fs.find? (·.name == name)) := by
  induction fs generalizing c with
  | nil => simp [addFields]
  | cons f fs ih =>
    refine (ih (c.addField f)).trans ?_
    rw [field?_addField, Option.or_assoc, List.find?_cons]
    by_cases hName : f.name = name
    · simp [hName]
    · simp [hName, beq_eq_false_iff_ne.mpr hName]

/-- Of the fields of one name a class has the first that was added. -/
theorem filter_name_addField (f : FieldDecl) (name : String) :
    (c.addField f).fields.filter (·.name == name) =
      if f.name = name ∧ c.field? name = none then [f] else c.fields.filter (·.name == name) := by
  rw [addField, acceptsField]
  by_cases hName : f.name = name
  · subst hName
    cases hTaken : c.field? f.name with
    | some d => simp
    | none =>
      have hNone : c.fields.filter (·.name == f.name) = [] := by
        simpa [field?, List.find?_eq_none] using hTaken
      simp [hNone]
  · split <;> simp [hName]

@[simp] theorem fields_addMethod (m : MethodDecl) : (c.addMethod m).fields = c.fields := by
  rw [addMethod]
  split <;> rfl

@[simp] theorem methods_addMethod (m : MethodDecl) :
    (c.addMethod m).methods = adopt c.methods m := by
  rw [addMethod, acceptsMethod, adopt]
  cases c.methods.any (·.signature == m.signature) <;> rfl

@[simp] theorem fields_addMethods (ms : List MethodDecl) : (c.addMethods ms).fields = c.fields :=
  foldl_frame fields_addMethod ms c

@[simp] theorem methods_addMethods (ms : List MethodDecl) :
    (c.addMethods ms).methods = ms.foldl adopt c.methods := by
  induction ms generalizing c with
  | nil => rfl
  | cons m ms ih => exact (ih (c.addMethod m)).trans (by rw [methods_addMethod, List.foldl_cons])

@[simp] theorem field?_addMethods (ms : List MethodDecl) (name : String) :
    (c.addMethods ms).field? name = c.field? name := by
  rw [field?, fields_addMethods, field?]

@[simp] theorem fields_emit (e : Accessor.Emission) : (c.emit e).fields = c.fields := by
  rw [emit, fields_addMethod, fields_addImports]

@[simp] theorem methods_emit (e : Accessor.Emission) :
    (c.emit e).methods = adopt c.methods e.method := by
  rw [emit, methods_addMethod, methods_addImports]

@[simp] theorem fields_emitAll (es : List Accessor.Emission) : (c.emitAll es).fields = c.fields :=
  foldl_frame fields_emit es c

@[simp] theorem field?_emitAll (es : List Accessor.Emission) (name : String) :
    (c.emitAll es).field? name = c.field? name := by
  rw [field?, fields_emitAll, field?]

@[simp] theorem methods_emitAll (es : List Accessor.Emission) :
    (c.emitAll es).methods = (es.map (·.method)).foldl adopt c.methods := by
  induction es generalizing c with
  | nil => rfl
  | cons e es ih =>
    refine (ih (c.emit e)).trans ?_
    rw [methods_emit, List.map_cons, List.foldl_cons]

theorem exists_addImports_eq (c : ClassDecl) (names : List String) :
    ∃ imports, c.addImports names = { c with imports := imports } := by
  induction names generalizing c with
  | nil => exact ⟨c.imports, rfl⟩
  | cons name names ih =>
    obtain ⟨imports, hRest⟩ := ih (c.addImport name)
    refine ⟨imports, hRest.trans ?_⟩
    rw [addImport]
    split <;> rfl

/-- What a class is made of has the properties, its own name and its imports apart. -/
structure Each (supertype comment : String → Prop) (field : FieldDecl → Prop)
    (method : MethodDecl → Prop) (constructor : ConstructorDecl → Prop) (c : ClassDecl) : Prop where
  supertypes : ∀ q ∈ c.superclass.toList ++ c.interfaces, supertype q
  comment : ∀ text ∈ c.comment.toList, comment text
  fields : ∀ f ∈ c.fields, field f
  methods : ∀ m ∈ c.methods, method m
  constructors : ∀ k ∈ c.constructors, constructor k

namespace Each

variable {supertype comment : String → Prop} {field : FieldDecl → Prop} {method : MethodDecl → Prop}
  {constructor : ConstructorDecl → Prop} {c : ClassDecl}

theorem addImports (h : c.Each supertype comment field method constructor) (names : List String) :
    (c.addImports names).Each supertype comment field method constructor := by
  obtain ⟨imports, hImports⟩ := c.exists_addImports_eq names
  rw [hImports]
  exact ⟨h.supertypes, h.comment, h.fields, h.methods, h.constructors⟩

theorem addField (h : c.Each supertype comment field method constructor) {f : FieldDecl}
    (hField : field f) : (c.addField f).Each supertype comment field method constructor := by
  rw [ClassDecl.addField]
  split
  · refine ⟨h.supertypes, h.comment, ?_, h.methods, h.constructors⟩
    exact List.forall_mem_append.mpr ⟨h.fields, List.forall_mem_singleton.mpr hField⟩
  · exact h

theorem addFields (h : c.Each supertype comment field method constructor) {fs : List FieldDecl}
    (hFields : ∀ f ∈ fs, field f) :
    (c.addFields fs).Each supertype comment field method constructor := by
  induction fs generalizing c with
  | nil => exact h
  | cons f fs ih =>
    obtain ⟨hField, hRest⟩ := List.forall_mem_cons.mp hFields
    exact ih (h.addField hField) hRest

theorem addMethod (h : c.Each supertype comment field method constructor) {m : MethodDecl}
    (hMethod : method m) : (c.addMethod m).Each supertype comment field method constructor := by
  rw [ClassDecl.addMethod]
  split
  · refine ⟨h.supertypes, h.comment, h.fields, ?_, h.constructors⟩
    exact List.forall_mem_append.mpr ⟨h.methods, List.forall_mem_singleton.mpr hMethod⟩
  · exact h

theorem addMethods (h : c.Each supertype comment field method constructor) {ms : List MethodDecl}
    (hMethods : ∀ m ∈ ms, method m) :
    (c.addMethods ms).Each supertype comment field method constructor := by
  induction ms generalizing c with
  | nil => exact h
  | cons m ms ih =>
    obtain ⟨hMethod, hRest⟩ := List.forall_mem_cons.mp hMethods
    exact ih (h.addMethod hMethod) hRest

theorem emitAll (h : c.Each supertype comment field method constructor)
    {es : List Accessor.Emission} (hMethods : ∀ m ∈ es.map (·.method), method m) :
    (c.emitAll es).Each supertype comment field method constructor := by
  induction es generalizing c with
  | nil => exact h
  | cons e es ih =>
    obtain ⟨hMethod, hRest⟩ := List.forall_mem_cons.mp hMethods
    exact ih ((h.addImports e.imports).addMethod hMethod) hRest

theorem addConstructor (h : c.Each supertype comment field method constructor)
    {k : ConstructorDecl} (hConstructor : constructor k) :
    (c.addConstructor k).Each supertype comment field method constructor :=
  ⟨h.supertypes, h.comment, h.fields, h.methods,
    List.forall_mem_append.mpr ⟨h.constructors, List.forall_mem_singleton.mpr hConstructor⟩⟩

end Each

end ClassDecl

end BeanGen.Java
