import BeanGen.Proofs.Java.ClassDecl

/-!
# What a class imports

A class is asked for imports over and over while it is built. What it has in the end are those of
the names that need one, each once: that is `Asked`, and every addition to the class keeps it. The
text of a class has simple names only, so what it imports has to be told apart by these.
-/

namespace BeanGen.Java.ClassDecl

variable {c d : ClassDecl} {names : List String} {q : String}

theorem needsNoImport_eq (h : d.name = c.name) (q : String) :
    d.needsNoImport q = c.needsNoImport q := by
  rw [needsNoImport, needsNoImport, package, package, h]

theorem mem_addImport_iff {name : String} :
    q ∈ (c.addImport name).imports ↔ q ∈ c.imports ∨ q = name ∧ c.needsNoImport name = false := by
  rw [addImport_eq]
  cases c.needsNoImport name with
  | true => simp
  | false => simpa using mem_enlist_id

theorem nodup_addImport (h : c.imports.Nodup) (name : String) :
    (c.addImport name).imports.Nodup := by
  rw [addImport_eq]
  split
  · exact h
  · exact nodup_enlist_id h

/-- The simple name of a class can be written: it needs no import, or it has one. -/
def Reaches (c : ClassDecl) (q : String) : Prop :=
  c.needsNoImport q = true ∨ q ∈ c.imports

/-- The simple name stands for the class: it is imported, or it lies where no import is needed. -/
def Denotes (c : ClassDecl) (q : String) : Prop :=
  q ∈ c.imports ∨ packageName q = c.package ∨ packageName q = "java.lang"

theorem needsNoImport_iff (hQualified : isQualified q = true) :
    c.needsNoImport q = true ↔ packageName q = c.package ∨ packageName q = "java.lang" := by
  simp [needsNoImport, hQualified, or_comm]

/-- The imports of a class are those of some names that need one, each once. -/
structure Asked (c : ClassDecl) (names : List String) : Prop where
  mem_iff : ∀ q, q ∈ c.imports ↔ q ∈ names ∧ c.needsNoImport q = false
  nodup : c.imports.Nodup

namespace Asked

theorem ofName (name : String) : Asked (.ofName name) [] :=
  ⟨fun q => by simp [ClassDecl.ofName], List.nodup_nil⟩

theorem of_eq (h : Asked c names) (hName : d.name = c.name) (hImports : d.imports = c.imports) :
    Asked d names := by
  refine ⟨fun q => ?_, hImports ▸ h.nodup⟩
  rw [hImports, needsNoImport_eq hName]
  exact h.mem_iff q

theorem congr {others : List String} (h : Asked c names) (hSame : ∀ q, q ∈ names ↔ q ∈ others) :
    Asked c others :=
  ⟨fun q => by rw [h.mem_iff, hSame], h.nodup⟩

theorem reaches (h : Asked c names) (hq : q ∈ names) : c.Reaches q := by
  cases hNeeds : c.needsNoImport q with
  | true => exact .inl hNeeds
  | false => exact .inr ((h.mem_iff q).mpr ⟨hq, hNeeds⟩)

theorem addImport (h : Asked c names) (name : String) :
    Asked (c.addImport name) (names ++ [name]) := by
  refine ⟨fun q => ?_, nodup_addImport h.nodup name⟩
  rw [mem_addImport_iff, needsNoImport_eq (c.name_addImport name), List.mem_append,
    List.mem_singleton, or_and_right, h.mem_iff]
  refine or_congr_right (and_congr_right ?_)
  rintro rfl
  rfl

theorem addImports (h : Asked c names) (more : List String) :
    Asked (c.addImports more) (names ++ more) := by
  induction more generalizing c names with
  | nil => rwa [List.append_nil]
  | cons name more ih =>
    rw [List.append_cons]
    exact ih (h.addImport name)

theorem ofName_addImports (name : String) (names : List String) :
    Asked ((ClassDecl.ofName name).addImports names) names :=
  (ofName name).addImports names

theorem addFields (h : Asked c names) (fs : List FieldDecl) : Asked (c.addFields fs) names := by
  refine h.of_eq (Frame.addFields c fs).name (foldl_frame (fun c f => ?_) fs c)
  rw [ClassDecl.addField]
  split <;> rfl

theorem addField (h : Asked c names) (f : FieldDecl) : Asked (c.addField f) names :=
  h.addFields [f]

theorem addMethods (h : Asked c names) (ms : List MethodDecl) : Asked (c.addMethods ms) names := by
  refine h.of_eq (Frame.addMethods c ms).name (foldl_frame (fun c m => ?_) ms c)
  rw [ClassDecl.addMethod]
  split <;> rfl

theorem emit (h : Asked c names) (e : Accessor.Emission) :
    Asked (c.emit e) (names ++ e.imports) :=
  (h.addImports e.imports).addMethods [e.method]

theorem emitAll (h : Asked c names) (es : List Accessor.Emission) :
    Asked (c.emitAll es) (names ++ es.flatMap (·.imports)) := by
  induction es generalizing c names with
  | nil => rwa [List.flatMap_nil, List.append_nil]
  | cons e es ih =>
    rw [List.flatMap_cons, ← List.append_assoc]
    exact ih (h.emit e)

end Asked

/-- A qualified name that is asked for is denoted, and else only one that lies close enough. -/
theorem Asked.denotes_iff (h : Asked c names) (hQualified : isQualified q = true) :
    c.Denotes q ↔ q ∈ names ∨ packageName q = c.package ∨ packageName q = "java.lang" := by
  rw [Denotes, h.mem_iff, ← needsNoImport_iff hQualified]
  cases c.needsNoImport q <;> simp

/-! ## What simple names stand for -/

/-- The classes whose simple names nothing else in the class may have: itself, and those names that
need an import. -/
def told (c : ClassDecl) (names : List String) : List String :=
  c.name :: names.filter (!c.needsNoImport ·)

/-- No two of some classes have one simple name. -/
def Apart (qs : List String) : Prop :=
  ∀ d ∈ qs, ∀ e ∈ qs, simpleName d = simpleName e → d = e

instance (qs : List String) : Decidable (Apart qs) :=
  inferInstanceAs (Decidable (∀ d ∈ qs, ∀ e ∈ qs, _))

/-- The imports of a class have different simple names, and none has that of the class. -/
def Unambiguous (c : ClassDecl) : Prop :=
  (c.imports.map simpleName).Nodup ∧ c.localName ∉ c.imports.map simpleName

/-- The classes of `java.lang` that the kinds of values name. -/
def langClasses : List String :=
  ["String", "Boolean", "Byte", "Short", "Integer", "Long", "Float", "Double", "Character"]

/-- The class that a name in a class means: one without a package lies in `java.lang` or beside
the class. -/
def inFull (c : ClassDecl) (q : String) : String :=
  if isQualified q then q
  else if langClasses.contains q then "java.lang." ++ q
  else if c.package.isEmpty then q
  else c.package ++ "." ++ q

/-- In the text of a class, the simple name stands for the class that is meant: neither the class
itself nor an import takes it away. -/
def Resolves (c : ClassDecl) (q : String) : Prop :=
  ∀ d ∈ c.name :: c.imports, simpleName d = simpleName q → d = c.inFull q

namespace Asked

theorem mem_told (h : Asked c names) : q ∈ c.name :: c.imports ↔ q ∈ c.told names := by
  rw [told, List.mem_cons, List.mem_cons, List.mem_filter, Bool.not_eq_true', h.mem_iff]

/-- A class does not ask for itself. -/
theorem name_not_mem (h : Asked c names) : c.name ∉ c.imports := by
  intro hSelf
  have hNeeds := ((h.mem_iff c.name).mp hSelf).2
  simp [needsNoImport, package] at hNeeds

theorem unambiguous_iff (h : Asked c names) : c.Unambiguous ↔ Apart (c.told names) := by
  have hAll : c.Unambiguous ↔ ((c.name :: c.imports).map simpleName).Nodup := by
    rw [List.map_cons, List.nodup_cons, and_comm]
    rfl
  rw [hAll]
  constructor
  · intro hNodup d hd e he hSame
    exact List.inj_on_of_nodup_map hNodup (h.mem_told.mpr hd) (h.mem_told.mpr he) hSame
  · intro hApart
    refine List.Nodup.map_on ?_ (List.nodup_cons.mpr ⟨h.name_not_mem, h.nodup⟩)
    intro d hd e he hSame
    exact hApart d (h.mem_told.mp hd) e (h.mem_told.mp he) hSame

theorem resolves_iff (h : Asked c names) (q : String) :
    c.Resolves q ↔ ∀ d ∈ c.told names, simpleName d = simpleName q → d = c.inFull q := by
  simp only [Resolves, h.mem_told]

end Asked

theorem isQualified_of_needs (h : c.needsNoImport q = false) : isQualified q = true := by
  rw [needsNoImport, Bool.or_eq_false_iff, Bool.or_eq_false_iff, Bool.not_eq_false'] at h
  exact h.1.1

/-- Where nothing is ambiguous, every import stands for itself. -/
theorem Unambiguous.resolves (h : c.Unambiguous) (hAsked : c.Asked names) (hq : q ∈ names)
    (hNeeds : c.needsNoImport q = false) : c.Resolves q := by
  have hTold : q ∈ c.told names :=
    List.mem_cons_of_mem _ (List.mem_filter.mpr ⟨hq, by rw [hNeeds, Bool.not_false]⟩)
  rw [hAsked.resolves_iff, inFull, if_pos (isQualified_of_needs hNeeds)]
  intro d hd hSame
  exact hAsked.unambiguous_iff.mp h d hd q hTold hSame

end BeanGen.Java.ClassDecl
