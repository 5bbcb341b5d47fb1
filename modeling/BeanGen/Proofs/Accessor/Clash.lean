import BeanGen.Proofs.Accessor.Form

/-!
# Accessors with one signature

Two accessors have one signature in few ways. Within one field, the methods that replace a collection
by another may agree. Of two fields with different suffixes, one suffix is the other with an ending
of an accessor behind it, or with `All` before it: then the first field is read, or has a value
removed, by the very method that counts, gives out or clears the collection of the second.
-/

namespace BeanGen.Accessor

open Java

theorem Verb.append_cases {v w : Verb} {x y : String} (h : v.text ++ x = w.text ++ y) :
    (v = w ∧ x = y) ∨ (v = .remove ∧ w = .removeAll ∧ x = "All" ++ y) ∨
      (v = .removeAll ∧ w = .remove ∧ y = "All" ++ x) := by
  have hChars := congrArg String.toList h
  cases v <;> cases w <;> simp [Verb.text, ← String.toList_inj] at hChars ⊢ <;> simp [hChars]

theorem Ending.append_cases {d e : Ending} {x y : String} (h : x ++ d.text = y ++ e.text) :
    (d = e ∧ x = y) ∨ (d = .none ∧ x = y ++ e.text) ∨ (e = .none ∧ y = x ++ d.text) := by
  by_cases hLeft : d = .none
  · subst hLeft
    exact .inr (.inl ⟨rfl, by simpa [Ending.text] using h⟩)
  by_cases hRight : e = .none
  · subst hRight
    exact .inr (.inr ⟨rfl, by simpa [Ending.text] using h.symm⟩)
  -- two endings that are not empty differ in their last letters
  have hChars := congrArg List.reverse (congrArg String.toList h)
  refine .inl ?_
  cases d <;> cases e <;> simp [Ending.text, ← String.toList_inj] at hLeft hRight hChars ⊢ <;>
    exact hChars

/-- The accessors of `f` shadow one that `g` adds for its collection, or the other way round. -/
def Shadows (h : Holding) (f g : BoundField) : Prop :=
  g.isCollection = true ∧
    (f.suffix = g.suffix ++ "Count" ∨
      (g.extraMethods = true ∧ f.suffix = g.suffix ++ "AsReference") ∨
      (f.isCollection = true ∧ h.isIndexed = true ∧ h.valueType f = "int" ∧
        f.suffix = g.suffix ++ "At") ∨
      (f.isCollection = true ∧ h.valueType f = "" ∧ f.suffix = "All" ++ g.suffix))

instance (h : Holding) (f g : BoundField) : Decidable (Shadows h f g) :=
  inferInstanceAs (Decidable (_ ∧ _))

namespace Form

variable {h : Holding} {f g : BoundField} {a b : Form}

theorem unbracketed_name (hSuffix : Unbracketed f.suffix) (a : Form) : Unbracketed (a.name f) := by
  have hVerb : Unbracketed a.verb.text := by cases a <;> decide
  have hEnding : Unbracketed a.ending.text := by cases a <;> decide
  rw [name, unbracketed_append, unbracketed_append]
  exact ⟨hVerb, hSuffix, hEnding⟩

theorem signature_eq_iff (hF : Unbracketed f.suffix) (hG : Unbracketed g.suffix) :
    a.signature h f = b.signature h g ↔ a.name f = b.name g ∧
      String.intercalate "," (a.types h f) = String.intercalate "," (b.types h g) :=
  signatureText_eq_iff (unbracketed_name hF a) (unbracketed_name hG b)

theorem shadows_of_ending (hA : a.isCalledFor h f = true) (hB : b.isCalledFor h g = true)
    (hVerb : a.verb = b.verb) (hNone : a.ending = .none)
    (hSuffix : f.suffix = g.suffix ++ b.ending.text)
    (hTypes : String.intercalate "," (a.types h f) = String.intercalate "," (b.types h g)) :
    f.suffix = g.suffix ∨ Shadows h f g := by
  cases b with
  | getCount =>
    refine .inr ⟨?_, .inl hSuffix⟩
    simpa [isCalledFor] using hB
  | getReference =>
    obtain ⟨hMany, hExtra⟩ := by simpa [isCalledFor] using hB
    exact .inr ⟨hMany, .inr (.inl ⟨hExtra, hSuffix⟩)⟩
  | setReference =>
    obtain ⟨hMany, hExtra⟩ := by simpa [isCalledFor] using hB
    exact .inr ⟨hMany, .inr (.inl ⟨hExtra, hSuffix⟩)⟩
  | removeAt =>
    obtain ⟨hMany, hIndexed⟩ := by simpa [isCalledFor] using hB
    cases a with
    | remove =>
      have hFirst : f.isCollection = true := by simpa [isCalledFor] using hA
      exact .inr ⟨hMany, .inr (.inr (.inl ⟨hFirst, hIndexed, hTypes, hSuffix⟩))⟩
    | removeAt => cases hNone
    | _ => cases hVerb
  | _ => exact .inl (by simpa [ending, Ending.text] using hSuffix)

theorem shadows_of_clearing (hA : a.isCalledFor h f = true) (hB : b.isCalledFor h g = true)
    (hRemove : a.verb = .remove) (hClear : b.verb = .removeAll)
    (hSuffix : f.suffix ++ a.ending.text = "All" ++ (g.suffix ++ b.ending.text))
    (hTypes : String.intercalate "," (a.types h f) = String.intercalate "," (b.types h g)) :
    Shadows h f g := by
  cases b with
  | removeAll =>
    have hMany : g.isCollection = true := by simpa [isCalledFor] using hB
    cases a with
    | remove =>
      have hFirst : f.isCollection = true := by simpa [isCalledFor] using hA
      refine ⟨hMany, .inr (.inr (.inr ⟨hFirst, hTypes, ?_⟩))⟩
      simpa [ending, Ending.text] using hSuffix
    | removeAt =>
      have hEmpty : "int" = "" := hTypes
      exact absurd hEmpty (by decide)
    | _ => cases hRemove
  | _ => cases hClear

theorem shadows_of_signature_eq (hF : Unbracketed f.suffix) (hG : Unbracketed g.suffix)
    (hA : a.isCalledFor h f = true) (hB : b.isCalledFor h g = true)
    (hEq : a.signature h f = b.signature h g) :
    f.suffix = g.suffix ∨ Shadows h f g ∨ Shadows h g f := by
  obtain ⟨hName, hTypes⟩ := (signature_eq_iff hF hG).mp hEq
  rcases Verb.append_cases hName with ⟨hVerb, hRest⟩ | ⟨hRemove, hClear, hRest⟩ |
      ⟨hClear, hRemove, hRest⟩
  · rcases Ending.append_cases hRest with ⟨-, hSuffix⟩ | ⟨hNone, hSuffix⟩ | ⟨hNone, hSuffix⟩
    · exact .inl hSuffix
    · rcases shadows_of_ending hA hB hVerb hNone hSuffix hTypes with hSame | hShadows
      · exact .inl hSame
      · exact .inr (.inl hShadows)
    · rcases shadows_of_ending hB hA hVerb.symm hNone hSuffix hTypes.symm with hSame | hShadows
      · exact .inl hSame.symm
      · exact .inr (.inr hShadows)
  · exact .inr (.inl (shadows_of_clearing hA hB hRemove hClear hRest hTypes))
  · exact .inr (.inr (shadows_of_clearing hB hA hRemove hClear hRest hTypes.symm))

example : Shadows (.ofPolicy .legacyIndexed false) (.single "_total" .int "ItemCount")
    (.collection "_items" .string "Item" 0) := by
  decide

def reader (f : BoundField) : Form :=
  if f.isCollection then getArray else getter

theorem isCalledFor_reader (h : Holding) (f : BoundField) :
    (reader f).isCalledFor h f = true := by
  rw [reader]
  split
  · rename_i hMany
    exact hMany
  · rename_i hSingle
    simpa [isCalledFor] using hSingle

theorem signature_reader (h : Holding) (f : BoundField) :
    (reader f).signature h f = signatureText ("get" ++ f.suffix) [] := by
  rw [reader]
  split <;> simp [signature, name, verb, ending, types, Verb.text, Ending.text]

theorem signature_reader_eq (h : Holding) (hSuffix : f.suffix = g.suffix) :
    (reader f).signature h f = (reader g).signature h g := by
  rw [signature_reader, signature_reader, hSuffix]

theorem exists_signature_eq_of_shadows (hShadows : Shadows h f g) :
    ∃ a b : Form, a.isCalledFor h f = true ∧ b.isCalledFor h g = true ∧
      a.signature h f = b.signature h g := by
  obtain ⟨hMany, hSuffix | ⟨hExtra, hSuffix⟩ | ⟨hFirst, hIndexed, hValue, hSuffix⟩ |
    ⟨hFirst, hValue, hSuffix⟩⟩ := hShadows
  · refine ⟨reader f, getCount, isCalledFor_reader h f, hMany, ?_⟩
    rw [signature_reader, hSuffix]
    rfl
  · refine ⟨reader f, getReference, isCalledFor_reader h f, by simp [isCalledFor, hMany, hExtra], ?_⟩
    rw [signature_reader, hSuffix]
    rfl
  · refine ⟨remove, removeAt, hFirst, by simp [isCalledFor, hMany, hIndexed], ?_⟩
    simp [signature, name, verb, ending, types, Verb.text, Ending.text, hSuffix, hValue]
  · refine ⟨remove, removeAll, hFirst, hMany, ?_⟩
    have hText : Verb.remove.text ++ ("All" ++ g.suffix) = Verb.removeAll.text ++ g.suffix := by
      rw [← String.append_assoc]
      rfl
    simp only [signature, name, verb, ending, types, Ending.text, String.append_empty, hSuffix,
      hValue, hText]
    rfl

/-! ## Accessors of one field -/

/-- The two methods that take another collection do not take the one type. -/
def CopiesDiffer (h : Holding) (f : BoundField) : Prop :=
  f.isCollection = true → f.extraMethods = true →
    (h.layout f).memberType ≠ (h.layout f).arrayType ∧
      (h.isIndexed = true → (h.layout f).memberType ≠ "int," ++ h.valueType f)

instance (h : Holding) (f : BoundField) : Decidable (CopiesDiffer h f) :=
  inferInstanceAs (Decidable (_ → _ → _ ∧ (_ → _)))

/-- The forms for a field with one value. -/
def isScalar : Form → Bool
  | getter | setter | predicate | hasValue | deletion => true
  | _ => false

theorem isScalar_of_isCalledFor (hA : a.isCalledFor h f = true) :
    a.isScalar = !f.isCollection := by
  cases a <;> simp_all [isCalledFor, isScalar]

theorem pair_ne_array (v : String) : "int" ++ "," ++ v ≠ v ++ "[]" := by
  intro hEq
  have hLength := congrArg String.length hEq
  have hInt : "int".length + ",".length = "[]".length + 2 := by decide
  simp only [String.length_append] at hLength
  omega

theorem single_ne_pair (v : String) : v ≠ "int" ++ "," ++ v := by
  intro hEq
  have hLength := congrArg String.length hEq
  have hInt : "int".length + ",".length = 4 := by decide
  simp only [String.length_append] at hLength
  omega

theorem signature_eq (h : Holding) (f : BoundField) (a : Form) :
    a.signature h f = a.verb.text ++ (f.suffix ++ (a.ending.text ++
      ("(" ++ (String.intercalate "," (a.types h f) ++ ")")))) := by
  simp only [signature, signatureText, name, String.append_assoc]

/-- A verb cannot go on in the suffix: the bracket would stand in the type too, which the other
signature has no room for. -/
theorem remove_ne_removeAll (x v : String) :
    x ++ ("(" ++ (v ++ ")")) ≠ "All" ++ (x ++ ("(" ++ ("" ++ ")"))) := by
  intro hEq
  have hChars : x.toList ++ '(' :: v.toList ++ [')'] =
      'A' :: 'l' :: 'l' :: (x.toList ++ ['(']) ++ [')'] := by
    simpa [← String.toList_inj] using hEq
  have hInner := List.append_cancel_right hChars
  have hCount := congrArg (List.count '(') hInner
  have hLength := congrArg List.length hInner
  simp at hCount hLength
  have hType : v.toList <:+ 'A' :: 'l' :: 'l' :: (x.toList ++ ['(']) :=
    hInner ▸ (List.suffix_cons _ _).trans (List.suffix_append _ _)
  have hBracket : ['('] <:+ 'A' :: 'l' :: 'l' :: (x.toList ++ ['(']) :=
    List.suffix_append ('A' :: 'l' :: 'l' :: x.toList) ['(']
  have hEnd : ['('] <:+ v.toList := by
    refine List.suffix_of_suffix_length_le hBracket hType ?_
    simp
    omega
  exact List.count_eq_zero.mp hCount (hEnd.subset List.mem_cons_self)

theorem removal_ne_clearing {k : Holding} (hRemove : a.verb = .remove)
    (hClear : b.verb = .removeAll) :
    f.suffix ++ (a.ending.text ++ ("(" ++ (String.intercalate "," (a.types h f) ++ ")"))) ≠
      "All" ++ (f.suffix ++ (b.ending.text ++
        ("(" ++ (String.intercalate "," (b.types k f) ++ ")")))) := by
  cases b with
  | removeAll =>
    cases a with
    | remove => exact remove_ne_removeAll f.suffix (h.valueType f)
    | removeAt =>
      intro hEq
      have hLength := congrArg String.length hEq
      have hFixed : "At(int)".length = "All".length + "()".length + 2 := by decide
      simp [ending, Ending.text, types] at hLength
      omega
    | _ => cases hRemove
  | _ => cases hClear

/-- The signature of an accessor determines its verb and ending if the suffix is known, whatever
the suffix is. -/
theorem of_signature_eq {k : Holding} (hEq : a.signature h f = b.signature k f) :
    a.verb = b.verb ∧ a.ending = b.ending ∧
      String.intercalate "," (a.types h f) = String.intercalate "," (b.types k f) := by
  rw [signature_eq, signature_eq] at hEq
  rcases Verb.append_cases hEq with ⟨hVerb, hRest⟩ | ⟨hRemove, hClear, hRest⟩ |
      ⟨hClear, hRemove, hRest⟩
  · have hUnbracketed : ∀ e : Ending, '(' ∉ e.text.toList := by
      intro e
      cases e <;> decide
    have hChars : a.ending.text.toList ++ '(' :: ((String.intercalate "," (a.types h f)).toList ++
        [')']) = b.ending.text.toList ++ '(' :: ((String.intercalate "," (b.types k f)).toList ++
          [')']) := by
      simpa [← String.toList_inj] using hRest
    obtain ⟨hEnding, hTypes⟩ := append_cons_cancel (hUnbracketed _) (hUnbracketed _) hChars
    refine ⟨hVerb, ?_, String.toList_inj.mp (List.append_cancel_right hTypes)⟩
    cases hA : a.ending <;> cases hB : b.ending <;> simp [hA, hB, Ending.text] at hEnding ⊢
  · exact absurd hRest (removal_ne_clearing hRemove hClear)
  · exact absurd hRest (removal_ne_clearing hRemove hClear)

/-- What tells the method that takes another collection from the other two that replace values. -/
structure CopyApart (h : Holding) (f : BoundField) (a b : Form) : Prop where
  array : a = .setCopy ∨ b = .setCopy → (h.layout f).memberType ≠ (h.layout f).arrayType
  pair : a = .setCopy ∨ b = .setCopy → a = .setAt ∨ b = .setAt →
    (h.layout f).memberType ≠ "int," ++ h.valueType f

theorem CopyApart.symm (hApart : CopyApart h f a b) : CopyApart h f b a where
  array hCopy := hApart.array hCopy.symm
  pair hCopy hAt := hApart.pair hCopy.symm hAt.symm

theorem CopiesDiffer.copyApart (hCopies : CopiesDiffer h f) (hA : a.isCalledFor h f = true)
    (hB : b.isCalledFor h f = true) : CopyApart h f a b := by
  have hExtra : a = .setCopy ∨ b = .setCopy → f.isCollection = true ∧ f.extraMethods = true := by
    rintro (rfl | rfl)
    · simpa [isCalledFor] using hA
    · simpa [isCalledFor] using hB
  have hIndexed : a = .setAt ∨ b = .setAt → h.isIndexed = true := by
    rintro (rfl | rfl)
    · simp_all [isCalledFor]
    · simp_all [isCalledFor]
  constructor
  · intro hCopy
    obtain ⟨hMany, hExtra⟩ := hExtra hCopy
    exact (hCopies hMany hExtra).1
  · intro hCopy hAt
    obtain ⟨hMany, hExtra⟩ := hExtra hCopy
    exact (hCopies hMany hExtra).2 (hIndexed hAt)

/-- Of the accessors of one name, only those that copy can have one parameter list. -/
theorem types_ne_of_lt (hKind : a.isScalar = b.isScalar) (hApart : CopyApart h f a b)
    (hVerb : a.verb = b.verb) (hEnding : a.ending = b.ending) (hLess : a.ctorIdx < b.ctorIdx) :
    String.intercalate "," (a.types h f) ≠ String.intercalate "," (b.types h f) := by
  intro hTypes
  cases a <;> cases b <;> first
    | exact absurd hLess (by decide)
    | exact absurd hVerb (by decide)
    | exact absurd hEnding (by decide)
    | exact absurd hKind (by decide)
    | skip
  case add.addAt => exact single_ne_pair _ hTypes
  case getAt.getArray =>
    have hInt : "int" = "" := hTypes
    exact absurd hInt (by decide)
  case setAt.setArray => exact pair_ne_array _ hTypes
  case setAt.setCopy => exact hApart.pair (.inr rfl) (.inl rfl) hTypes.symm
  case setArray.setCopy => exact hApart.array (.inr rfl) hTypes.symm

theorem eq_of_copyApart (hKind : a.isScalar = b.isScalar) (hApart : CopyApart h f a b)
    (hEq : a.signature h f = b.signature h f) : a = b := by
  obtain ⟨hVerb, hEnding, hTypes⟩ := of_signature_eq hEq
  rcases Nat.lt_trichotomy a.ctorIdx b.ctorIdx with hLess | hSame | hMore
  · exact absurd hTypes (types_ne_of_lt hKind hApart hVerb hEnding hLess)
  · cases a <;> cases b <;> first
      | rfl
      | exact absurd hSame (by decide)
  · exact absurd hTypes.symm
      (types_ne_of_lt hKind.symm hApart.symm hVerb.symm hEnding.symm hMore)

theorem eq_of_signature_eq (hCopies : CopiesDiffer h f) (hA : a.isCalledFor h f = true)
    (hB : b.isCalledFor h f = true) (hEq : a.signature h f = b.signature h f) : a = b := by
  refine eq_of_copyApart ?_ (hCopies.copyApart hA hB) hEq
  rw [isScalar_of_isCalledFor hA, isScalar_of_isCalledFor hB]

theorem copiesDiffer_of_injective
    (hInj : ∀ a b : Form, a.isCalledFor h f = true → b.isCalledFor h f = true →
      a.signature h f = b.signature h f → a = b) : CopiesDiffer h f := by
  intro hMany hExtra
  have hCopy : setCopy.isCalledFor h f = true := by simp [isCalledFor, hMany, hExtra]
  constructor
  · intro hArray
    have hEq : setCopy.signature h f = setArray.signature h f := by
      rw [signature, types, hArray]
      rfl
    cases hInj setCopy setArray hCopy hMany hEq
  · intro hIndexed hPair
    have hAt : setAt.isCalledFor h f = true := by simp [isCalledFor, hMany, hIndexed]
    have hEq : setCopy.signature h f = setAt.signature h f := by
      rw [signature, types, hPair]
      rfl
    cases hInj setCopy setAt hCopy hAt hEq

/-! ## Accessors and the methods for listeners -/

theorem add_eq_register (hSuffix : f.suffix = "PropertyChangeListener")
    (hValue : h.valueType f = "PropertyChangeListener") :
    add.signature h f = ChangeNotice.register.signature := by
  rw [signature, name, types, hSuffix, hValue]
  decide

theorem suffix_of_verb_append (v : Verb) (rest : String) (hVerb : v = .add ∨ v = .remove)
    (hRest : rest.toList.head? ≠ some 'A') (hName : a.name f = v.text ++ rest) :
    a.verb = v ∧ f.suffix ++ a.ending.text = rest := by
  rcases Verb.append_cases hName with hSame | ⟨-, hClear, -⟩ | ⟨-, -, hAll⟩
  · exact hSame
  · rw [hClear] at hVerb
    rcases hVerb with hVerb | hVerb <;> cases hVerb
  · rw [hAll] at hRest
    simp at hRest

theorem verb_append_ne_tellAll (v : Verb) (rest : String) :
    v.text ++ rest ≠ ChangeNotice.tellAll.name := by
  intro hName
  have hChars := congrArg String.toList hName
  cases v <;>
    simp [Verb.text, ChangeNotice.tellAll, MethodDecl.plain, ChangeNotice.notifyMethod] at hChars

theorem pair_ne_listener (v : String) : "int" ++ "," ++ v ≠ "PropertyChangeListener" := by
  intro hEq
  have hChars := congrArg String.toList hEq
  simp at hChars

theorem listener_of_name (v : Verb) (hVerb : v = .add ∨ v = .remove) (hA : a.isCalledFor h f = true)
    (hName : a.name f = v.text ++ "PropertyChangeListener")
    (hTypes : String.intercalate "," (a.types h f) = "PropertyChangeListener") :
    f.isCollection = true ∧ f.suffix = "PropertyChangeListener" ∧
      h.valueType f = "PropertyChangeListener" := by
  obtain ⟨hSame, hSuffix⟩ := suffix_of_verb_append v "PropertyChangeListener" hVerb (by decide) hName
  rw [← hSame] at hVerb
  cases a with
  | add => exact ⟨hA, by simpa [ending, Ending.text] using hSuffix, hTypes⟩
  | remove => exact ⟨hA, by simpa [ending, Ending.text] using hSuffix, hTypes⟩
  | addAt => exact absurd hTypes (pair_ne_listener _)
  | removeAt =>
    have hInt : "int" = "PropertyChangeListener" := hTypes
    exact absurd hInt (by decide)
  | _ => rcases hVerb with hVerb | hVerb <;> cases hVerb

/-- Only a collection of listeners can have an accessor with the signature of a method for listeners.
-/
theorem listener_of_signature_mem (hF : Unbracketed f.suffix) (hA : a.isCalledFor h f = true)
    (hMem : a.signature h f ∈ ChangeNotice.methods.map (·.signature)) :
    f.isCollection = true ∧ f.suffix = "PropertyChangeListener" ∧
      h.valueType f = "PropertyChangeListener" := by
  obtain ⟨m, hMethod, hEq⟩ := List.mem_map.mp hMem
  simp only [ChangeNotice.methods, List.mem_cons, List.not_mem_nil, or_false] at hMethod
  have hName := unbracketed_name hF a
  rcases hMethod with rfl | rfl | rfl
  · obtain ⟨hTell, -⟩ := (signatureText_eq_iff hName (by decide)).mp hEq.symm
    exact absurd hTell (verb_append_ne_tellAll a.verb _)
  · obtain ⟨hRegister, hTypes⟩ := (signatureText_eq_iff hName (by decide)).mp hEq.symm
    exact listener_of_name .add (.inl rfl) hA hRegister hTypes
  · obtain ⟨hUnregister, hTypes⟩ := (signatureText_eq_iff hName (by decide)).mp hEq.symm
    exact listener_of_name .remove (.inr rfl) hA hUnregister hTypes

end Form

end BeanGen.Accessor
