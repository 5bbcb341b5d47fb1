import BeanGen.Java.CompilationUnit
import BeanGen.Proofs.Java.Imports
import BeanGen.Proofs.Run.Path
import BeanGen.Proofs.Text.Ascending

/-!
# How the text of a class is spelled

The text of a class is put together from fixed pieces, from what the schema and the settings supply,
and from simple names of classes. `Spelled` says so of a text, and says of its fixed pieces that
every class they name is a known one: a class is named by a word with a large first letter that no
point stands before.
-/

namespace BeanGen.Java

/-- The classes of `java.lang` that generated text may name. -/
def builtInClasses : List String :=
  ["Boolean", "Byte", "Character", "Class", "Double", "Exception", "Float",
    "IllegalArgumentException", "IllegalStateException", "IndexOutOfBoundsException", "Integer",
    "Long", "NoSuchMethodException", "Object", "Override", "RuntimeException", "SecurityException",
    "Short", "String"]

def isNameChar (c : Char) : Bool :=
  c.isAlphanum || c == '_' || c == '.'

/-- The words of a text that may name a class: of words joined by points only the first one. -/
def leadingWords (text : String) : List (List Char) :=
  (Text.runs (!isNameChar ·) text.toList).map (·.takeWhile (· != '.'))

def namesClass (word : List Char) : Bool :=
  word.head?.any (·.isUpper)

/-- Every class that the text names by a word of its own is built in or has one of the names. -/
def namesAmong (simpleNames : List String) (text : String) : Bool :=
  ((leadingWords text).filter namesClass).all fun word =>
    (builtInClasses ++ simpleNames).contains (String.ofList word)

def namesOnly (known : List String) (text : String) : Bool :=
  namesAmong (known.map simpleName) text

/-- The rest of the line is a comment. -/
def OpensComment (text : String) : Prop :=
  ['/', '/'] <+: text.toList

instance (text : String) : Decidable (OpensComment text) :=
  inferInstanceAs (Decidable (['/', '/'] <+: text.toList))

theorem OpensComment.append {text : String} (h : OpensComment text) (rest : String) :
    OpensComment (text ++ rest) := by
  rw [OpensComment, String.toList_append]
  exact h.trans (List.prefix_append _ _)

/-- Texts made of fixed pieces, of supplied texts, and of the simple names of classes. -/
inductive Spelled (supplied named : String → Prop) : String → Prop
  | fixed {known : List String} {text : String} : (∀ q ∈ known, named q) →
      namesOnly known text = true → Spelled supplied named text
  | supplied {text : String} : supplied text → Spelled supplied named text
  | className {q : String} : named q → Spelled supplied named (simpleName q)
  | append {a b : String} : Spelled supplied named a → Spelled supplied named b →
      Spelled supplied named (a ++ b)
  | comment {text : String} : OpensComment text → Spelled supplied named text
  /-- A literal that holds a supplied text between fixed words. -/
  | message {before text after : String} : '"' ∉ before.toList → supplied text →
      '"' ∉ after.toList → Spelled supplied named ("\"" ++ before ++ text ++ after ++ "\"")

example : namesOnly ["java.util.Vector"] "Vector v = new Vector();" = true := by
  decide

example : namesOnly [] "Iterator iter = this.items.iterator();" = false := by
  decide

/-- The words that may name a class, character by character: to compare them as strings takes much
longer. -/
structure Vocabulary (simpleNames : List String) where
  words : List (List Char)
  eq_words : builtInClasses ++ simpleNames = words.map String.ofList

namespace Vocabulary

/-- The characters are found by unification, so there is one place for each of the classes. -/
def builtIn : Vocabulary [] where
  words := [_, _, _, _, _, _, _, _, _, _, _, _, _, _, _, _, _, _, _]
  eq_words := rfl

/-- Every class that the characters name by a word of its own is in the vocabulary. -/
def covers {simpleNames : List String} (v : Vocabulary simpleNames) (cs : List Char) : Bool :=
  (((Text.runs (!isNameChar ·) cs).map (·.takeWhile (· != '.'))).filter namesClass).all
    fun word => v.words.contains word

theorem namesAmong_ofList {simpleNames : List String} (v : Vocabulary simpleNames)
    (cs : List Char) : namesAmong simpleNames (String.ofList cs) = v.covers cs := by
  have hWord (word : List Char) :
      (builtInClasses ++ simpleNames).contains (String.ofList word) = v.words.contains word := by
    rw [Bool.eq_iff_iff, List.contains_iff_mem, List.contains_iff_mem, v.eq_words]
    exact List.mem_map_of_injective fun _ _ => String.ofList_injective
  rw [namesAmong, leadingWords, String.toList_ofList, covers]
  simp only [hWord]

end Vocabulary

variable {supplied named : String → Prop}

namespace Spelled

/-- A fixed text that names no class but those built in. -/
theorem plain {cs : List Char} (h : Vocabulary.builtIn.covers cs = true) :
    Spelled supplied named (String.ofList cs) :=
  .fixed (List.forall_mem_nil _) ((Vocabulary.builtIn.namesAmong_ofList cs).trans h)

/-- A text with a fixed piece before and one after it. -/
theorem enclosed {text : String} {before after : List Char}
    (hBefore : Vocabulary.builtIn.covers before = true) (h : Spelled supplied named text)
    (hAfter : Vocabulary.builtIn.covers after = true) :
    Spelled supplied named (String.ofList before ++ text ++ String.ofList after) :=
  .append (.append (.plain hBefore) h) (.plain hAfter)

theorem followed {text : String} (h : Spelled supplied named text) (after : List Char)
    (hAfter : Vocabulary.builtIn.covers after = true) :
    Spelled supplied named (text ++ String.ofList after) :=
  .append h (.plain hAfter)

theorem mono {more : String → Prop} (hMore : ∀ text, supplied text → more text) {text : String}
    (h : Spelled supplied named text) : Spelled more named text := by
  induction h with
  | fixed hKnown hText => exact .fixed hKnown hText
  | supplied hText => exact .supplied (hMore _ hText)
  | className hq => exact .className hq
  | append _ _ iha ihb => exact .append iha ihb
  | comment hText => exact .comment hText
  | message hBefore hText hAfter => exact .message hBefore (hMore _ hText) hAfter

theorem join {texts : List String} (h : ∀ text ∈ texts, Spelled supplied named text) :
    Spelled supplied named (String.join texts) := by
  induction texts with
  | nil =>
    rw [String.join_nil]
    exact .plain (by decide)
  | cons text texts ih =>
    obtain ⟨hText, hRest⟩ := List.forall_mem_cons.mp h
    rw [String.join_cons]
    exact .append hText (ih hRest)

theorem intercalate {separator : String} (hSeparator : Spelled supplied named separator)
    {texts : List String} (h : ∀ text ∈ texts, Spelled supplied named text) :
    Spelled supplied named (String.intercalate separator texts) := by
  induction texts with
  | nil =>
    rw [String.intercalate_nil]
    exact .plain (by decide)
  | cons text texts ih =>
    obtain ⟨hText, hRest⟩ := List.forall_mem_cons.mp h
    cases texts with
    | nil => rwa [String.intercalate_singleton]
    | cons next texts =>
      rw [String.intercalate_cons_cons]
      exact .append (.append hText hSeparator) (ih hRest)

end Spelled

/-! ## Lines and members -/

/-- Every one of the lines is spelled. -/
def Spells (supplied named : String → Prop) (ls : List Line) : Prop :=
  ∀ l ∈ ls, Spelled supplied named l.text

section Lines

variable {l : Line} {ls ms : List Line} {text : String}

@[simp] theorem spells_nil : Spells supplied named [] :=
  fun _ hLine => nomatch hLine

@[simp] theorem spells_cons :
    Spells supplied named (l :: ls) ↔ Spelled supplied named l.text ∧ Spells supplied named ls :=
  List.forall_mem_cons

@[simp] theorem spells_append :
    Spells supplied named (ls ++ ms) ↔ Spells supplied named ls ∧ Spells supplied named ms :=
  List.forall_mem_append

@[simp] theorem spells_flatMap {α : Type} {xs : List α} {f : α → List Line} :
    Spells supplied named (xs.flatMap f) ↔ ∀ x ∈ xs, Spells supplied named (f x) :=
  List.forall_mem_flatMap

@[simp] theorem spells_nested : Spells supplied named (nested ls) ↔ Spells supplied named ls := by
  simp [Spells, nested, Line.shift]

@[simp] theorem spells_ite {p : Prop} [Decidable p] :
    Spells supplied named (if p then ls else ms) ↔
      (p → Spells supplied named ls) ∧ (¬ p → Spells supplied named ms) := by
  split <;> simp_all

@[simp] theorem text_line : (line text).text = text :=
  rfl

@[simp] theorem text_indented : (indented text).text = text :=
  rfl

end Lines

/-- The types and expressions of a member, as they are written. -/
def FieldDecl.codeTexts (f : FieldDecl) : List String :=
  f.type :: f.initializer.toList

def MethodDecl.codeTexts (m : MethodDecl) : List String :=
  m.returnType.toList ++ m.parameters.map (·.type) ++ m.throwing ++ m.markers ++
    m.body.lines.map (·.text)

def ConstructorDecl.codeTexts (k : ConstructorDecl) : List String :=
  k.parameters.map (·.type) ++ k.body.lines.map (·.text)

namespace MethodDecl

theorem spelled_plain {name comment : String} {result : Option String} {ps : List Parameter}
    {ls : List Line} (hResult : ∀ type ∈ result.toList, Spelled supplied named type)
    (hParameters : ∀ p ∈ ps, Spelled supplied named p.type) (hLines : Spells supplied named ls) :
    ∀ text ∈ (plain name result ps comment ls).codeTexts, Spelled supplied named text := by
  simp only [codeTexts, plain, Block.ofLines, List.append_nil, List.forall_mem_append,
    List.forall_mem_map]
  exact ⟨⟨hResult, hParameters⟩, hLines⟩

/-- A method without parameters that has one line. -/
theorem spelled_reading {name type comment text : String} (hType : Spelled supplied named type)
    (hText : Spelled supplied named text) :
    ∀ t ∈ (plain name (some type) [] comment [line text]).codeTexts, Spelled supplied named t :=
  spelled_plain (List.forall_mem_singleton.mpr hType) (fun _ hNone => nomatch hNone)
    (spells_cons.mpr ⟨hText, spells_nil⟩)

theorem spelled_throwing {m : MethodDecl} {throwing : List String}
    (hMethod : ∀ text ∈ m.codeTexts, Spelled supplied named text)
    (hThrowing : ∀ text ∈ throwing, Spelled supplied named text) :
    ∀ text ∈ { m with throwing := throwing }.codeTexts, Spelled supplied named text := by
  simp only [codeTexts, List.forall_mem_append] at hMethod ⊢
  exact ⟨⟨⟨hMethod.1.1.1, hThrowing⟩, hMethod.1.2⟩, hMethod.2⟩

theorem spelled_marked {m : MethodDecl} {markers : List String}
    (hMethod : ∀ text ∈ m.codeTexts, Spelled supplied named text)
    (hMarkers : ∀ text ∈ markers, Spelled supplied named text) :
    ∀ text ∈ { m with markers := markers }.codeTexts, Spelled supplied named text := by
  simp only [codeTexts, List.forall_mem_append] at hMethod ⊢
  exact ⟨⟨hMethod.1.1, hMarkers⟩, hMethod.2⟩

end MethodDecl

theorem ConstructorDecl.spelled_plain {ls : List Line} (h : Spells supplied named ls) :
    ∀ text ∈ { plain with body := .ofLines ls }.codeTexts, Spelled supplied named text := by
  simp only [codeTexts, plain, Block.ofLines, List.map_nil, List.nil_append, List.forall_mem_map]
  exact h

/-! ## Classes -/

theorem simpleName_ofList {cs package simple : List Char}
    (h : splitLastPoint cs = some (package, simple)) :
    simpleName (String.ofList cs) = String.ofList simple := by
  rw [simpleName, String.toList_ofList, h]

namespace ClassDecl

/-- Whatever a class is made of is spelled. -/
structure IsSpelled (supplied named : String → Prop) (c : ClassDecl) : Prop where
  supertypes : ∀ q ∈ c.superclass.toList ++ c.interfaces, Spelled supplied named (simpleName q)
  fields : ∀ f ∈ c.fields, ∀ text ∈ f.codeTexts, Spelled supplied named text
  methods : ∀ m ∈ c.methods, ∀ text ∈ m.codeTexts, Spelled supplied named text
  constructors : ∀ k ∈ c.constructors, ∀ text ∈ k.codeTexts, Spelled supplied named text

namespace IsSpelled

variable {c : ClassDecl}

theorem each (h : c.IsSpelled supplied named) :
    c.Each (fun q => Spelled supplied named (simpleName q)) (fun _ => True)
      (fun f => ∀ text ∈ f.codeTexts, Spelled supplied named text)
      (fun m => ∀ text ∈ m.codeTexts, Spelled supplied named text)
      (fun k => ∀ text ∈ k.codeTexts, Spelled supplied named text) :=
  ⟨h.supertypes, fun _ _ => trivial, h.fields, h.methods, h.constructors⟩

theorem of_each (h : c.Each (fun q => Spelled supplied named (simpleName q)) (fun _ => True)
      (fun f => ∀ text ∈ f.codeTexts, Spelled supplied named text)
      (fun m => ∀ text ∈ m.codeTexts, Spelled supplied named text)
      (fun k => ∀ text ∈ k.codeTexts, Spelled supplied named text)) : c.IsSpelled supplied named :=
  ⟨h.supertypes, h.fields, h.methods, h.constructors⟩

theorem addImports (h : c.IsSpelled supplied named) (names : List String) :
    (c.addImports names).IsSpelled supplied named :=
  of_each (h.each.addImports names)

theorem addField (h : c.IsSpelled supplied named) {f : FieldDecl}
    (hField : ∀ text ∈ f.codeTexts, Spelled supplied named text) :
    (c.addField f).IsSpelled supplied named :=
  of_each (h.each.addField hField)

theorem addFields (h : c.IsSpelled supplied named) {fs : List FieldDecl}
    (hFields : ∀ f ∈ fs, ∀ text ∈ f.codeTexts, Spelled supplied named text) :
    (c.addFields fs).IsSpelled supplied named :=
  of_each (h.each.addFields hFields)

theorem addMethods (h : c.IsSpelled supplied named) {ms : List MethodDecl}
    (hMethods : ∀ m ∈ ms, ∀ text ∈ m.codeTexts, Spelled supplied named text) :
    (c.addMethods ms).IsSpelled supplied named :=
  of_each (h.each.addMethods hMethods)

theorem emitAll (h : c.IsSpelled supplied named) {es : List Accessor.Emission}
    (hMethods : ∀ m ∈ es.map (·.method), ∀ text ∈ m.codeTexts, Spelled supplied named text) :
    (c.emitAll es).IsSpelled supplied named :=
  of_each (h.each.emitAll hMethods)

theorem addConstructor (h : c.IsSpelled supplied named) {k : ConstructorDecl}
    (hConstructor : ∀ text ∈ k.codeTexts, Spelled supplied named text) :
    (c.addConstructor k).IsSpelled supplied named :=
  of_each (h.each.addConstructor hConstructor)

end IsSpelled

end ClassDecl

/-! ## The text of a class -/

/-- Names and comments. -/
def FieldDecl.labels (f : FieldDecl) : List String :=
  f.name :: f.comment.toList

def MethodDecl.labels (m : MethodDecl) : List String :=
  m.name :: m.parameters.map (·.name) ++ m.comment.toList

def ConstructorDecl.labels (k : ConstructorDecl) : List String :=
  k.parameters.map (·.name) ++ k.comment.toList

/-- What the text of a class has besides types and code: names of packages, classes and members,
and comments. -/
def ClassDecl.labels (c : ClassDecl) : List String :=
  c.package :: c.localName :: c.imports ++ c.comment.toList ++ c.fields.flatMap (·.labels) ++
    c.methods.flatMap (·.labels) ++ c.constructors.flatMap (·.labels)

theorem spells_commentLines {comment : Option String} (h : ∀ text ∈ comment.toList, supplied text) :
    Spells supplied named (commentLines comment) := by
  cases comment with
  | none => exact spells_nil
  | some text =>
    have hText : Spelled supplied named text := .supplied (h text (by simp))
    simp only [commentLines, spells_cons, spells_nil, text_line, and_true]
    exact ⟨.plain (by decide), .append (.plain (by decide)) hText, .plain (by decide)⟩

/-- The visibility of a package has no keyword, and the filter leaves out what is not asked for. -/
theorem Modifiers.keywords_subset (m : Modifiers) :
    m.keywords ⊆ ["", "public", "protected", "private", "abstract", "static", "final"] := by
  intro word hWord
  have hKeyword := List.mem_of_mem_filter hWord
  simp only [List.mem_cons, List.not_mem_nil, or_false] at hKeyword
  rcases hKeyword with rfl | rfl | rfl | rfl
  · cases m.visibility <;> simp [Visibility.keyword]
  all_goals split <;> simp

theorem spelled_leading (m : Modifiers) : Spelled supplied named m.leading := by
  refine .join (List.forall_mem_map.mpr fun word hWord => ?_)
  have hKeyword := m.keywords_subset hWord
  simp only [List.mem_cons, List.not_mem_nil, or_false] at hKeyword
  rcases hKeyword with rfl | rfl | rfl | rfl | rfl | rfl | rfl
  all_goals exact .append (.plain (by decide)) (.plain (by decide))

theorem spelled_parameterList {ps : List Parameter}
    (hTypes : ∀ p ∈ ps, Spelled supplied named p.type) (hNames : ∀ p ∈ ps, supplied p.name) :
    Spelled supplied named (parameterList ps) := by
  refine .intercalate (.plain (by decide)) (List.forall_mem_map.mpr ?_)
  intro p hp
  exact (Spelled.enclosed (by decide) (hTypes p hp) (by decide)).append (.supplied (hNames p hp))

theorem FieldDecl.spells_lines {f : FieldDecl} (hLabels : ∀ text ∈ f.labels, supplied text)
    (hTexts : ∀ text ∈ f.codeTexts, Spelled supplied named text) :
    Spells supplied named f.lines := by
  obtain ⟨hName, hComment⟩ := List.forall_mem_cons.mp hLabels
  obtain ⟨hType, hInitializer⟩ := List.forall_mem_cons.mp hTexts
  rw [lines, spells_append, spells_cons, text_line]
  refine ⟨spells_commentLines hComment, .followed (.append ?_ ?_) _ (by decide), spells_nil⟩
  · exact ((((spelled_leading _).append hType).followed _ (by decide)).append (.supplied hName))
  · split
    · exact .plain (by decide)
    · rename_i e hValue
      exact .append (.plain (by decide)) (hInitializer e (by simp [hValue]))

theorem ConstructorDecl.spells_lines {className : String} {k : ConstructorDecl}
    (hClass : supplied className) (hLabels : ∀ text ∈ k.labels, supplied text)
    (hTexts : ∀ text ∈ k.codeTexts, Spelled supplied named text) :
    Spells supplied named (k.lines className) := by
  rw [labels, List.forall_mem_append, List.forall_mem_map] at hLabels
  rw [codeTexts, List.forall_mem_append, List.forall_mem_map, List.forall_mem_map] at hTexts
  rw [lines, spells_append, spells_append, spells_append, spells_nested]
  refine ⟨⟨⟨spells_commentLines hLabels.2, ?_⟩, hTexts.2⟩, ?_⟩
  · have hHead : Spelled supplied named (k.modifiers.leading ++ className ++ "(") :=
      .followed (.append (spelled_leading _) (.supplied hClass)) _ (by decide)
    have hAll := hHead.append (spelled_parameterList hTexts.1 hLabels.1)
    exact spells_cons.mpr ⟨hAll.followed _ (by decide), spells_nil⟩
  · exact spells_cons.mpr ⟨.plain (by decide), spells_nil⟩

theorem MethodDecl.spells_lines {m : MethodDecl} (hLabels : ∀ text ∈ m.labels, supplied text)
    (hTexts : ∀ text ∈ m.codeTexts, Spelled supplied named text) :
    Spells supplied named m.lines := by
  rw [labels, List.forall_mem_append, List.forall_mem_cons, List.forall_mem_map] at hLabels
  obtain ⟨⟨hName, hNames⟩, hComment⟩ := hLabels
  rw [codeTexts, List.forall_mem_append, List.forall_mem_append, List.forall_mem_append,
    List.forall_mem_append, List.forall_mem_map, List.forall_mem_map] at hTexts
  obtain ⟨⟨⟨⟨hResult, hTypes⟩, hThrowing⟩, hMarkers⟩, hBody⟩ := hTexts
  have hType : Spelled supplied named (m.returnType.getD "void") := by
    cases hNone : m.returnType with
    | none => exact .plain (by decide)
    | some type => exact hResult type (by simp [hNone])
  have hHead : Spelled supplied named (m.modifiers.leading ++ m.returnType.getD "void" ++ " " ++
      m.name ++ "(" ++ parameterList m.parameters ++ ")") := by
    have hLeading : Spelled supplied named m.modifiers.leading := spelled_leading _
    have hList := spelled_parameterList hTypes hNames
    have hMethod : Spelled supplied named m.name := .supplied hName
    repeat' with_reducible apply Spelled.append
    all_goals first | assumption | exact .plain (by decide)
  have hHeadLines : Spells supplied named m.headLines := by
    rw [headLines, spells_ite, spells_cons, spells_cons, spells_cons]
    have hComma : Spelled supplied named ", " := .plain (by decide)
    exact ⟨fun _ => ⟨hHead.followed _ (by decide), spells_nil⟩,
      fun _ => ⟨hHead, .enclosed (by decide) (.intercalate hComma hThrowing) (by decide),
        spells_nil⟩⟩
  rw [lines, spells_append, spells_append, spells_append, spells_append, spells_nested]
  refine ⟨⟨⟨⟨spells_commentLines hComment, ?_⟩, hHeadLines⟩, hBody⟩, ?_⟩
  · exact List.forall_mem_map.mpr hMarkers
  · exact spells_cons.mpr ⟨.plain (by decide), spells_nil⟩

namespace ClassDecl.IsSpelled

variable {c : ClassDecl}

theorem opening (h : c.IsSpelled supplied named) (hName : supplied c.localName) :
    Spelled supplied named c.opening := by
  have hSupertypes := List.forall_mem_append.mp h.supertypes
  have hAbstract : Spelled supplied named (if c.isAbstract then "abstract " else "") := by
    split <;> exact .plain (by decide)
  simp only [ClassDecl.opening]
  refine .followed (.append (.append (.append ?_ (.supplied hName)) ?_) ?_) _ (by decide)
  · exact .enclosed (by decide) hAbstract (by decide)
  · split
    · exact .plain (by decide)
    · rename_i superclass hSuperclass
      exact .append (.plain (by decide)) (hSupertypes.1 superclass (by simp [hSuperclass]))
  · split
    · exact .plain (by decide)
    · refine .append (.plain (by decide)) (.intercalate (.plain (by decide)) ?_)
      exact List.forall_mem_map.mpr hSupertypes.2

theorem mono {more : String → Prop} (hMore : ∀ text, supplied text → more text)
    (h : c.IsSpelled supplied named) : c.IsSpelled more named where
  supertypes q hq := (h.supertypes q hq).mono hMore
  fields f hf text hText := (h.fields f hf text hText).mono hMore
  methods m hm text hText := (h.methods m hm text hText).mono hMore
  constructors k hk text hText := (h.constructors k hk text hText).mono hMore

theorem memberLines (h : c.IsSpelled supplied named) (hName : supplied c.localName)
    (hFields : ∀ f ∈ c.fields, ∀ text ∈ f.labels, supplied text)
    (hMethods : ∀ m ∈ c.methods, ∀ text ∈ m.labels, supplied text)
    (hConstructors : ∀ k ∈ c.constructors, ∀ text ∈ k.labels, supplied text) :
    Spells supplied named c.memberLines := by
  have hEach : ∀ ls ∈ c.fields.map FieldDecl.lines ++
      c.constructors.map (ConstructorDecl.lines c.localName) ++ c.methods.map MethodDecl.lines,
      Spells supplied named ls := by
    simp only [List.forall_mem_append, List.forall_mem_map]
    refine ⟨⟨fun f hf => ?_, fun k hk => ?_⟩, fun m hm => ?_⟩
    · exact f.spells_lines (hFields f hf) (h.fields f hf)
    · exact k.spells_lines hName (hConstructors k hk) (h.constructors k hk)
    · exact m.spells_lines (hMethods m hm) (h.methods m hm)
  rw [ClassDecl.memberLines, spells_flatMap]
  exact fun ls hLines => spells_cons.mpr ⟨.plain (by decide), hEach ls hLines⟩

theorem unitLines (h : c.IsSpelled supplied named) (hLabels : ∀ text ∈ c.labels, supplied text) :
    Spells supplied named c.unitLines := by
  simp only [labels, List.forall_mem_append, List.forall_mem_cons, List.forall_mem_flatMap]
    at hLabels
  obtain ⟨⟨⟨⟨⟨hPackage, hName, hImports⟩, hComment⟩, hFields⟩, hMethods⟩, hConstructors⟩ := hLabels
  have hMembers := h.memberLines hName hFields hMethods hConstructors
  have hPackageLines : Spells supplied named c.packageLines := by
    rw [packageLines, spells_ite, spells_cons, spells_cons]
    exact ⟨fun _ => spells_nil, fun _ => ⟨.enclosed (by decide) (.supplied hPackage) (by decide),
      .plain (by decide), spells_nil⟩⟩
  have hImportLines : Spells supplied named c.importLines := by
    have hEach : ∀ n ∈ Text.ascending c.imports,
        Spelled supplied named ("import " ++ n ++ ";") := fun n hn =>
      .enclosed (by decide) (.supplied (hImports n (Text.mem_ascending.mp hn))) (by decide)
    simp only [importLines, spells_ite, spells_append, spells_nil, implies_true, true_and]
    exact fun _ => ⟨List.forall_mem_map.mpr hEach, spells_cons.mpr ⟨.plain (by decide), spells_nil⟩⟩
  simp only [ClassDecl.unitLines, spells_append, spells_cons, spells_nil, spells_nested, text_line,
    and_true]
  exact ⟨⟨⟨⟨⟨hPackageLines, hImportLines⟩, spells_commentLines hComment⟩, h.opening hName⟩,
    hMembers⟩, .plain (by decide)⟩

/-- The text of a class is spelled as what the class is made of, its labels apart. -/
theorem spells_text (h : c.IsSpelled supplied named) :
    Spells (fun text => supplied text ∨ text ∈ c.labels) named c.unitLines :=
  (h.mono fun _ => .inl).unitLines fun _ => .inr

end ClassDecl.IsSpelled

end BeanGen.Java
