import BeanGen.Proofs.Descriptor.Identities
import BeanGen.Proofs.Text.Affix

/-!
# Local variables of a relational descriptor

The constructor declares four variables of its own and ten for every mapped field, named after its
property. No ending is the end of another, so two of these names are only equal for the same
property, and valid types use a property once.
-/

namespace BeanGen.Descriptor.Relational

open Java Text

/-! ## The variables -/

namespace Local

def all : List Local :=
  [fieldName, sqlName, descriptor, mapping, type, handler, getMethod, setMethod, nature, sql]

/-- The type of the variable, as its declaration starts. -/
def typeHead : Local → String
  | fieldName | sqlName => "String "
  | descriptor => "FieldDescriptorImpl "
  | mapping => "FieldMapping "
  | type => "TypeInfo "
  | handler => "FieldHandlerImpl "
  | getMethod | setMethod => "Method "
  | nature => "FieldDescriptorJDONature "
  | sql => "Sql "

theorem nodup_all : all.Nodup := by
  decide

theorem partAtEnd_ending {v w : Local} (h : v ≠ w) : PartAtEnd v.ending w.ending := by
  cases v <;> cases w <;> first | exact absurd rfl h | decide

end Local

/-- The variables of the constructor itself, each with its type before it. -/
def ownLocals : List (String × String) :=
  [("ClassMapping ", "mapping"), ("ClassChoice ", "choice"), ("MapTo ", "mapTo"),
    ("ClassDescriptorJDONature ", "jdoNature")]

def fieldLocals (f : BoundField) : List (String × String) :=
  Local.all.map fun v => (v.typeHead, variableName f.property v)

/-- The variables that the constructor declares, in the order of their declarations. -/
def locals (b : Binding) : List (String × String) :=
  ownLocals ++ (mappedFields b).flatMap fieldLocals

theorem eq_of_variableName_eq {p q : String} {v w : Local}
    (h : variableName p v = variableName q w) : p = q ∧ v = w := by
  have hSame : v = w := by
    by_contra hOther
    refine not_endsWith_append q (Local.partAtEnd_ending hOther) ?_
    rw [← variableName, ← h]
    exact endsWith_append_self p v.ending
  subst hSame
  rw [variableName, variableName, ← String.toList_inj, String.toList_append, String.toList_append,
    List.append_cancel_right_eq] at h
  exact ⟨String.toList_inj.mp h, rfl⟩

theorem variableName_ne_own {name : String} (hName : name ∈ ownLocals.map Prod.snd) (p : String)
    (v : Local) : name ≠ variableName p v := by
  have hParts : ∀ own ∈ ownLocals.map Prod.snd, PartAtEnd own v.ending := by
    cases v <;> decide
  rintro rfl
  exact not_endsWith_append p (hParts _ hName) List.suffix_rfl

theorem names_fieldLocals (f : BoundField) :
    (fieldLocals f).map Prod.snd = Local.all.map (variableName f.property) := by
  rw [fieldLocals, List.map_map]
  rfl

theorem names_locals (b : Binding) :
    (locals b).map Prod.snd = ownLocals.map Prod.snd ++
      (mappedFields b).flatMap fun f => Local.all.map (variableName f.property) := by
  simp only [locals, List.map_append, List.map_flatMap, names_fieldLocals]

theorem nodup_names {t : BoundType} (hCheck : t.check = .ok ()) :
    ((locals t.binding).map Prod.snd).Nodup := by
  rw [names_locals]
  refine List.nodup_append'.mpr ⟨by decide, List.nodup_flatMap.mpr ⟨?_, ?_⟩, ?_⟩
  · intro f _
    exact Local.nodup_all.map fun v w hEq => (eq_of_variableName_eq hEq).2
  · have hApart : (mappedFields t.binding).Pairwise BoundField.Apart :=
      (BoundType.pairwise_apart hCheck).sublist List.filter_sublist
    refine hApart.imp ?_
    rintro f g ⟨-, hProperty⟩ name hf hg
    obtain ⟨v, -, rfl⟩ := List.mem_map.mp hf
    obtain ⟨w, -, hEq⟩ := List.mem_map.mp hg
    exact hProperty (eq_of_variableName_eq hEq).1.symm
  · intro name hOwn hField
    obtain ⟨f, -, hName⟩ := List.mem_flatMap.mp hField
    obtain ⟨v, -, rfl⟩ := List.mem_map.mp hName
    exact variableName_ne_own hOwn f.property v rfl

/-! ## The declarations -/

/-- The line declares the variable, with or without a value. -/
def Declares (v : String × String) (l : Line) : Prop :=
  l.text = v.1 ++ v.2 ++ ";" ∨ StartsWith (v.1 ++ v.2 ++ " = ") l.text

instance (v : String × String) (l : Line) : Decidable (Declares v l) :=
  inferInstanceAs (Decidable (_ ∨ _))

def primitiveHeads : List String :=
  ["boolean ", "byte ", "short ", "int ", "long ", "float ", "double ", "char "]

/-- The text starts with a class name or with a primitive type, so it could be a declaration. -/
def StartsWithType (text : String) : Prop :=
  text.toList.head?.any Char.isUpper = true ∨ ∃ head ∈ primitiveHeads, StartsWith head text

instance (text : String) : Decidable (StartsWithType text) :=
  inferInstanceAs (Decidable (_ ∨ _))

/-- The line starts with no type, or else with the name of a variable. -/
def DeclaresNothing (names : List String) (l : Line) : Prop :=
  ¬ StartsWithType l.text ∨ ∃ name ∈ names, StartsWith name l.text

/-- The lines declare these variables one after the other, and other lines declare nothing. -/
inductive DeclareInTurn (names : List String) : List (String × String) → List Line → Prop
  | nil : DeclareInTurn names [] []
  | declaration {v : String × String} {l : Line} {vs : List (String × String)} {ls : List Line} :
      Declares v l → DeclareInTurn names vs ls → DeclareInTurn names (v :: vs) (l :: ls)
  | other {l : Line} {vs : List (String × String)} {ls : List Line} :
      DeclaresNothing names l → DeclareInTurn names vs ls → DeclareInTurn names vs (l :: ls)

theorem DeclareInTurn.append {names : List String} {vs ws : List (String × String)}
    {ls ms : List Line} (hFirst : DeclareInTurn names vs ls) (hSecond : DeclareInTurn names ws ms) :
    DeclareInTurn names (vs ++ ws) (ls ++ ms) := by
  induction hFirst with
  | nil => exact hSecond
  | declaration hDeclares _ ih => exact .declaration hDeclares ih
  | other hNothing _ ih => exact .other hNothing ih

/-- The text starts with no type, whatever is added to it. -/
@[mk_iff]
structure PartsFromTypes (text : String) : Prop where
  small : text.toList.head?.any (!·.isUpper) = true
  parted : PartsAtStart primitiveHeads text

instance (text : String) : Decidable (PartsFromTypes text) :=
  decidable_of_iff _ (partsFromTypes_iff text).symm

section Line

variable {names : List String} {n : Nat} {text head name a x : String}

theorem PartsFromTypes.not_startsWithType (h : PartsFromTypes a) (x : String) :
    ¬ StartsWithType (a ++ x) := by
  have hSmall := h.small
  rintro (hUpper | ⟨head, hHead, hStarts⟩)
  · rw [String.toList_append] at hUpper
    cases hChars : a.toList with
    | nil =>
      rw [hChars] at hSmall
      cases hSmall
    | cons c cs =>
      rw [hChars] at hSmall hUpper
      have hClash : (!c.isUpper) = true ∧ c.isUpper = true := ⟨hSmall, hUpper⟩
      simp at hClash
  · exact not_startsWith_append (h.parted head hHead) x hStarts

theorem DeclaresNothing.fixed (h : ¬ StartsWithType text) : DeclaresNothing names ⟨n, text⟩ :=
  .inl h

theorem DeclaresNothing.plain (h : PartsFromTypes a) : DeclaresNothing names ⟨n, a ++ x⟩ :=
  .inl (h.not_startsWithType x)

theorem DeclaresNothing.variable (h : name ∈ names) : DeclaresNothing names ⟨n, name ++ x⟩ :=
  .inr ⟨name, h, startsWith_self_append name x⟩

theorem Declares.alone : Declares (head, name) ⟨n, head ++ (name ++ ";")⟩ :=
  .inl String.append_assoc.symm

theorem Declares.assigned (h : StartsWith " = " x) :
    Declares (head, name) ⟨n, head ++ (name ++ x)⟩ := by
  refine .inr ?_
  simp only [StartsWith, String.toList_append, List.append_assoc, List.prefix_append_right_inj]
  exact h

theorem declareInTurn_nil {ls : List Line} (h : ∀ l ∈ ls, DeclaresNothing names l) :
    DeclareInTurn names [] ls := by
  induction ls with
  | nil => exact .nil
  | cons l ls ih =>
    obtain ⟨hFirst, hRest⟩ := List.forall_mem_cons.mp h
    exact .other hFirst (ih hRest)

end Line

section Block

variable {names : List String} {s : Settings} {b : Binding} {boundClass : String}
  {isIdentity : Bool} {f : BoundField}

theorem declareInTurn_openingLines : DeclareInTurn names ownLocals (openingLines s b) := by
  simp only [openingLines, line, String.append_assoc]
  exact
    .other (.fixed (by decide)) <|
    .declaration (by decide) <|
    .declaration (by decide) <|
    .declaration (by decide) <|
    .other (.fixed (by decide)) <|
    .other (.fixed (by decide)) <|
    .declaration (by decide) <|
    declareInTurn_nil (by
      simp (disch := decide) only [List.forall_mem_cons, DeclaresNothing.plain,
        DeclaresNothing.fixed, true_and]
      exact fun _ hNone => absurd hNone List.not_mem_nil)

section Field

variable (hNames : ∀ v, variableName f.property v ∈ names)

include hNames

theorem declareInTurn_declaringLines :
    DeclareInTurn names
      ([.fieldName, .sqlName, .descriptor, .mapping, .type].map fun v =>
        (v.typeHead, variableName f.property v))
      (declaringLines isIdentity f) := by
  simp only [declaringLines, line, String.append_assoc]
  exact
    .other (.plain (by decide)) <|
    .declaration (.assigned (startsWith_self_append _ _)) <|
    .declaration (.assigned (startsWith_self_append _ _)) <|
    .declaration .alone <|
    .declaration (.assigned (by decide)) <|
    .declaration (.assigned (.append (by decide) _)) <|
    .other (.fixed (by decide)) <|
    .other (.variable (hNames _)) <|
    .other (.fixed (by decide)) .nil

theorem declareInTurn_handlerLines :
    DeclareInTurn names
      ([.handler, .getMethod, .setMethod].map fun v => (v.typeHead, variableName f.property v))
      (handlerLines boundClass f) := by
  simp only [handlerLines, line, indented, String.append_assoc]
  exact
    .declaration .alone <|
    .other (.fixed (by decide)) <|
    .declaration (.assigned (startsWith_self_append _ _)) <|
    .declaration (.assigned (startsWith_self_append _ _)) <|
    .other (.variable (hNames _)) <|
    declareInTurn_nil fun l hLine => .inl (by revert l; decide)

theorem declareInTurn_columnLines :
    DeclareInTurn names
      ([.nature].map fun v => (v.typeHead, variableName f.property v)) (columnLines f) := by
  simp only [columnLines, line, String.append_assoc]
  exact
    .other (.plain (by decide)) <|
    .other (.variable (hNames _)) <|
    .other (.variable (hNames _)) <|
    .declaration (.assigned (.append (by decide) _)) <|
    declareInTurn_nil (by
      simp only [List.forall_mem_cons, DeclaresNothing.variable (hNames _), true_and]
      exact ⟨.fixed (by decide), fun _ hNone => absurd hNone List.not_mem_nil⟩)

theorem declareInTurn_mappingLines :
    DeclareInTurn names
      ([.sql].map fun v => (v.typeHead, variableName f.property v))
      (mappingLines isIdentity f) := by
  simp only [mappingLines, line, String.append_assoc]
  exact
    .other (.variable (hNames _)) <|
    .other (.variable (hNames _)) <|
    .other (.variable (hNames _)) <|
    .other (.variable (hNames _)) <|
    .other (.variable (hNames _)) <|
    .other (.variable (hNames _)) <|
    .other (.variable (hNames _)) <|
    .other (.variable (hNames _)) <|
    .declaration (.assigned (by decide)) <|
    declareInTurn_nil (by
      simp only [List.forall_mem_cons, DeclaresNothing.variable (hNames _), true_and]
      exact ⟨.plain (by decide), fun _ hNone => absurd hNone List.not_mem_nil⟩)

theorem declareInTurn_fieldBlock :
    DeclareInTurn names (fieldLocals f) (fieldBlock boundClass isIdentity f) :=
  (((declareInTurn_declaringLines hNames).append (declareInTurn_handlerLines hNames)).append
    (declareInTurn_columnLines hNames)).append (declareInTurn_mappingLines hNames)

end Field

theorem declareInTurn_closingLines {plain keys : List String} :
    DeclareInTurn names [] (closingLines plain keys) := by
  refine declareInTurn_nil ?_
  simp (disch := decide) only [closingLines, line, String.append_assoc, List.forall_mem_cons,
    DeclaresNothing.plain, DeclaresNothing.fixed, true_and]
  exact fun _ hNone => absurd hNone List.not_mem_nil

end Block

theorem declareInTurn_fieldBlocks {names : List String} {b : Binding} {fs : List BoundField}
    {boundClass : String} (hNames : ∀ f ∈ fs, ∀ v, variableName f.property v ∈ names) :
    DeclareInTurn names (fs.flatMap fieldLocals)
      (fs.flatMap fun f => line "" :: fieldBlock boundClass (b.isIdentity f) f) := by
  induction fs with
  | nil => exact .nil
  | cons f fs ih =>
    obtain ⟨hFirst, hRest⟩ := List.forall_mem_cons.mp hNames
    have hBlock : DeclareInTurn names (fieldLocals f)
        (line "" :: fieldBlock boundClass (b.isIdentity f) f) :=
      .other (.fixed (by decide)) (declareInTurn_fieldBlock hFirst)
    exact hBlock.append (ih hRest)

theorem variableName_mem_names {b : Binding} {f : BoundField} (hField : f ∈ mappedFields b)
    (v : Local) : variableName f.property v ∈ (locals b).map Prod.snd := by
  rw [names_locals]
  refine List.mem_append_right _ (List.mem_flatMap.mpr ⟨f, hField, ?_⟩)
  refine List.mem_map_of_mem ?_
  cases v <;> decide

theorem declareInTurn_constructorLines {s : Settings} {b : Binding} {keys : List String} :
    DeclareInTurn ((locals b).map Prod.snd) (locals b) (constructorLines s b keys) := by
  have hBlocks : DeclareInTurn ((locals b).map Prod.snd) ((mappedFields b).flatMap fieldLocals)
      (fieldBlocks b) :=
    declareInTurn_fieldBlocks fun f hf v => variableName_mem_names hf v
  have hClosing : DeclareInTurn ((locals b).map Prod.snd) []
      (closingLines (plainProperties b) keys) :=
    declareInTurn_closingLines
  have hOwn : DeclareInTurn ((locals b).map Prod.snd) ownLocals (openingLines s b) :=
    declareInTurn_openingLines
  have hAll := (hOwn.append hBlocks).append hClosing
  rwa [List.append_nil] at hAll

/-! ## The listed descriptors -/

/-- The line that declares the descriptor of a field. -/
def descriptorLine (p : String) : Line :=
  line ("FieldDescriptorImpl " ++ variableName p .descriptor ++ ";")

def EndsAsDescriptor (l : Line) : Prop :=
  EndsWith "FieldDescr;" l.text

instance (l : Line) : Decidable (EndsAsDescriptor l) :=
  inferInstanceAs (Decidable (EndsWith _ _))

theorem endsAsDescriptor_descriptorLine (p : String) : EndsAsDescriptor (descriptorLine p) := by
  have hText : (descriptorLine p).text = "FieldDescriptorImpl " ++ p ++ "FieldDescr;" := by
    simp [descriptorLine, line, variableName, Local.ending, ← String.toList_inj]
  rw [EndsAsDescriptor, hText]
  exact endsWith_append_self _ _

theorem descriptorLine_injective {p q : String} (h : descriptorLine p = descriptorLine q) :
    p = q := by
  have hChars := congrArg (fun l : Line => l.text.toList) h
  simp only [descriptorLine, line, variableName, String.toList_append,
    List.append_cancel_left_eq, List.append_cancel_right_eq] at hChars
  exact String.toList_inj.mp hChars

section Endings

variable {s : Settings} {b : Binding} {boundClass p : String} {isIdentity : Bool} {f : BoundField}
  {l : Line}

theorem not_endsWith_variable {tail text property a : String} {v : Local}
    (h : PartAtEnd tail (v.ending ++ a)) :
    ¬ EndsWith tail (text ++ variableName property v ++ a) :=
  not_endsWith_inner text h

theorem not_endsAsDescriptor_of_opening (h : l ∈ openingLines s b) : ¬ EndsAsDescriptor l := by
  revert l
  simp (disch := decide) only [EndsAsDescriptor, openingLines, line, List.forall_mem_cons,
    not_endsWith_append, not_false_eq_true, true_and]
  simp only [List.not_mem_nil, IsEmpty.forall_iff, implies_true, and_true]
  decide

theorem not_endsAsDescriptor_of_handler (h : l ∈ handlerLines boundClass f) :
    ¬ EndsAsDescriptor l := by
  revert l
  simp (disch := decide) only [EndsAsDescriptor, handlerLines, rescueLines, line, indented,
    List.cons_append, List.nil_append, List.forall_mem_cons, not_endsWith_append,
    not_endsWith_variable, not_false_eq_true, true_and]
  simp only [List.not_mem_nil, IsEmpty.forall_iff, implies_true, and_true]
  decide

theorem not_endsAsDescriptor_of_column (h : l ∈ columnLines f) : ¬ EndsAsDescriptor l := by
  revert l
  simp (disch := decide) only [EndsAsDescriptor, columnLines, line, List.forall_mem_cons,
    not_endsWith_append, not_false_eq_true, true_and]
  simp only [List.not_mem_nil, IsEmpty.forall_iff, implies_true, and_true]
  decide

theorem not_endsAsDescriptor_of_mapping (h : l ∈ mappingLines isIdentity f) :
    ¬ EndsAsDescriptor l := by
  revert l
  simp (disch := decide) only [EndsAsDescriptor, mappingLines, line, List.forall_mem_cons,
    not_endsWith_append, not_false_eq_true, true_and]
  simp only [List.not_mem_nil, IsEmpty.forall_iff, implies_true]

theorem not_endsAsDescriptor_of_closing {plain keys : List String}
    (h : l ∈ closingLines plain keys) : ¬ EndsAsDescriptor l := by
  revert l
  simp (disch := decide) only [EndsAsDescriptor, closingLines, line, List.forall_mem_cons,
    not_endsWith_append, not_false_eq_true, true_and]
  simp only [List.not_mem_nil, IsEmpty.forall_iff, implies_true, and_true]
  decide

/-- Among the lines that declare the variables of a field is one for its descriptor. -/
theorem exists_declaringLines_eq (isIdentity : Bool) (f : BoundField) :
    ∃ before after, declaringLines isIdentity f = before ++ descriptorLine f.property :: after ∧
      (∀ l ∈ before, ¬ EndsAsDescriptor l) ∧ ∀ l ∈ after, ¬ EndsAsDescriptor l := by
  refine ⟨[_, _, _], [_, _, _, _, _], rfl, ?_, ?_⟩
  · simp (disch := decide) only [EndsAsDescriptor, line, List.forall_mem_cons,
      not_endsWith_append, not_endsWith_stringLiteral, not_false_eq_true, true_and]
    simp only [List.not_mem_nil, IsEmpty.forall_iff, implies_true]
  · simp (disch := decide) only [EndsAsDescriptor, line, List.forall_mem_cons,
      not_endsWith_append, not_false_eq_true, true_and]
    simp only [List.not_mem_nil, IsEmpty.forall_iff, implies_true, and_true]
    decide

theorem count_eq_zero_of_endings {ls : List Line} (h : ∀ l ∈ ls, ¬ EndsAsDescriptor l) :
    ls.count (descriptorLine p) = 0 :=
  List.count_eq_zero.mpr fun hMem => h _ hMem (endsAsDescriptor_descriptorLine p)

theorem count_fieldBlock :
    (fieldBlock boundClass isIdentity f).count (descriptorLine p) = [f.property].count p := by
  obtain ⟨before, after, hLines, hBefore, hAfter⟩ := exists_declaringLines_eq isIdentity f
  have hSame : [descriptorLine f.property].count (descriptorLine p) = [f.property].count p := by
    rw [List.count_singleton, List.count_singleton]
    refine if_congr ?_ rfl rfl
    rw [beq_iff_eq, beq_iff_eq]
    exact ⟨descriptorLine_injective, congrArg descriptorLine⟩
  rw [fieldBlock, hLines, ← List.singleton_append]
  simp only [List.count_append, count_eq_zero_of_endings hBefore, count_eq_zero_of_endings hAfter,
    count_eq_zero_of_endings fun l => not_endsAsDescriptor_of_handler,
    count_eq_zero_of_endings fun l => not_endsAsDescriptor_of_column,
    count_eq_zero_of_endings fun l => not_endsAsDescriptor_of_mapping, hSame, Nat.zero_add,
    Nat.add_zero]

theorem count_fieldBlocks :
    (fieldBlocks b).count (descriptorLine p) = ((mappedFields b).map (·.property)).count p := by
  rw [fieldBlocks]
  induction mappedFields b with
  | nil => rfl
  | cons f fs ih =>
    have hEmpty : line "" ≠ descriptorLine p := by
      intro hEq
      have hEnds := endsAsDescriptor_descriptorLine p
      rw [← hEq] at hEnds
      exact absurd hEnds (by decide)
    rw [List.flatMap_cons, List.count_append, List.count_cons_of_ne hEmpty, count_fieldBlock, ih,
      List.map_cons, ← List.count_append, List.singleton_append]

end Endings

theorem exists_mapped_of_mem_lists {t : BoundType} {keys : List String}
    (hKeys : identities t.binding = .ok keys) {p : String}
    (hp : p ∈ plainProperties t.binding ++ keys) :
    p ∈ (mappedFields t.binding).map (·.property) := by
  rcases List.mem_append.mp hp with hPlain | hKey
  · exact (List.filter_sublist.map _).subset hPlain
  · obtain ⟨f, hf, rfl, -⟩ := exists_field_of_mem_identities hKeys hKey
    exact List.mem_map_of_mem hf

/-- The constructor declares its variables one after the other, no two of them under one name, and
the descriptors that it lists at its end are each declared once, before the lists. -/
theorem declares_each_local_once {s : Settings} {name : String} {t : BoundType} {d : ClassDecl}
    (hCheck : t.check = .ok ()) (hDescribe : describe s name t = .ok d) :
    ((locals t.binding).map Prod.snd).Nodup ∧
      DeclareInTurn ((locals t.binding).map Prod.snd) (locals t.binding)
        (Descriptor.constructorLines d) ∧
      ∃ keys before, identities t.binding = .ok keys ∧
        Descriptor.constructorLines d = before ++ closingLines (plainProperties t.binding) keys ∧
        ∀ p ∈ plainProperties t.binding ++ keys,
          before.count (descriptorLine p) = 1 ∧
            (Descriptor.constructorLines d).count (descriptorLine p) = 1 := by
  obtain ⟨keys, hKeys, rfl⟩ := exists_identities_of_describe hDescribe
  rw [constructorLines_relational]
  refine ⟨nodup_names hCheck, declareInTurn_constructorLines, keys, _, hKeys, rfl, ?_⟩
  intro p hp
  have hMapped : ((mappedFields t.binding).map (·.property)).Nodup :=
    (BoundType.nodup_properties hCheck).sublist (List.filter_sublist.map _)
  have hBefore :
      (openingLines s t.binding ++ fieldBlocks t.binding).count (descriptorLine p) = 1 := by
    rw [List.count_append, count_fieldBlocks,
      count_eq_zero_of_endings fun l => not_endsAsDescriptor_of_opening, Nat.zero_add]
    exact List.count_eq_one_of_mem hMapped (exists_mapped_of_mem_lists hKeys hp)
  refine ⟨hBefore, ?_⟩
  rw [constructorLines, List.count_append, hBefore,
    count_eq_zero_of_endings fun l => not_endsAsDescriptor_of_closing]

/-- Numbers whose names differ by an underscore have different variables. -/
theorem both_numbers_declared_once :
    (numberedOrder ["__number", "number"]).check = .ok () ∧
      ∃ d before, describe .standard "OrderJDODescriptor" (numberedOrder ["__number", "number"]) =
          .ok d ∧
        ((locals (numberedOrder ["__number", "number"]).binding).map Prod.snd).Nodup ∧
        Descriptor.constructorLines d = before ++ closingLines ["placed"] ["_number", "number"] ∧
        ∀ p ∈ ["placed", "_number", "number"], before.count (descriptorLine p) = 1 := by
  have hCheck : (numberedOrder ["__number", "number"]).check = .ok () := by decide
  have hBoth : identities (numberedOrder ["__number", "number"]).binding =
      .ok ["_number", "number"] := by
    decide
  have hPlain : plainProperties (numberedOrder ["__number", "number"]).binding = ["placed"] := by
    decide
  have hDescribe := describe_of_identities hBoth .standard "OrderJDODescriptor"
  obtain ⟨hNodup, -, keys, before, hKeys, hLines, hOnce⟩ :=
    declares_each_local_once hCheck hDescribe
  obtain rfl : keys = ["_number", "number"] := Except.ok.inj (hKeys.symm.trans hBoth)
  rw [hPlain] at hLines hOnce
  exact ⟨hCheck, _, before, hDescribe, hNodup, hLines, fun p hp => (hOnce p hp).1⟩

end BeanGen.Descriptor.Relational
