import BeanGen.Accessor.Holding
import BeanGen.Descriptor.Relational
import BeanGen.Descriptor.Xml
import BeanGen.Proofs.Java.ClassDecl

/-!
# Calls that descriptors make

The handlers of an XML descriptor call the accessors of the bound class, and a relational descriptor
looks them up by name and parameter type. The value that a handler passes on is an expression of
Java, and its type is read off the expression.
-/

namespace BeanGen.Descriptor

open Accessor Java

/-- What a handler passes on: the value it is given, cast to a class or taken out of a box. -/
inductive Expr where
  | value
  | cast (type : String) (e : Expr)
  | unboxed (e : Expr) (type : String)
  deriving DecidableEq, Repr, Inhabited

/-- The primitive types with the classes whose method `…Value` gives them. -/
def boxes : List (String × String) := [
  ("boolean", "Boolean"), ("byte", "Byte"), ("short", "Short"), ("int", "Integer"),
  ("long", "Long"), ("float", "Float"), ("double", "Double"), ("char", "Character")]

namespace Expr

def render : Expr → String
  | value => "value"
  | cast type e => "(" ++ type ++ ") " ++ e.render
  | unboxed e type => "(" ++ e.render ++ ")." ++ type ++ "Value()"

/-- The type of an expression; a value is only taken out of the box of its type. -/
def type? : Expr → Option String
  | value => some "Object"
  | cast type _ => some type
  | unboxed e type => if (boxes.lookup type).isSome && boxes.lookup type == e.type? then some type
    else none

end Expr

/-- The expression that a handler passes to the accessor through which a value arrives. -/
def handed (s : Settings) (f : BoundField) : Expr :=
  if Xml.passesBoxed s f then .cast f.valueType.writtenBoxed .value
  else if f.valueType.isPrimitive then
    .unboxed (.cast f.valueType.boxed .value) f.valueType.unboxed
  else .cast f.valueType.written .value

theorem render_handed (s : Settings) (f : BoundField) :
    (handed s f).render = Xml.handedValue s f := by
  rw [handed, Xml.handedValue, ← String.toList_inj]
  split
  · simp [Expr.render]
  · rw [ValueType.fromObject]
    split <;> simp [Expr.render]

theorem type?_unboxed {k : ContentKind} (hPrimitive : k.valueType.isPrimitive = true) :
    (Expr.unboxed (.cast k.valueType.boxed .value) k.valueType.unboxed).type? =
      some k.valueType.written := by
  cases k with
  | string | decimal | date | bound => cases hPrimitive
  | _ => decide

example : (Expr.unboxed (.cast "Integer" .value) "long").type? = none := by
  decide

theorem type?_handed_single {s : Settings} {f : BoundField} (hSingle : f.isCollection = false) :
    (handed s f).type? = some f.valueType.written := by
  rw [handed, Xml.passesBoxed, hSingle]
  cases hPrimitive : f.valueType.isPrimitive with
  | true => exact type?_unboxed hPrimitive
  | false => rfl

theorem type?_handed_many {s : Settings} {f : BoundField} (hMany : f.isCollection = true) :
    (handed s f).type? = some ((Holding.ofSettings s).valueType f) := by
  have hHolding : (Holding.ofSettings s).modern = s.modernMode := rfl
  rw [handed, Xml.passesBoxed, hMany, Holding.valueType, hHolding]
  cases s.modernMode with
  | true => rfl
  | false =>
    cases hPrimitive : f.valueType.isPrimitive with
    | true => exact type?_unboxed hPrimitive
    | false => rfl

/-! ## Lines that call -/

def callTexts (s : Settings) (f : BoundField) : List String :=
  let fetch := "target." ++ ("get" ++ f.suffix) ++ "()"
  if f.isCollection then
    ["return " ++ fetch ++ ";",
      "target." ++ ("add" ++ f.suffix) ++ "(" ++ (handed s f).render ++ ");",
      "target.removeAll" ++ f.suffix ++ "();"]
  else
    ["return " ++ f.valueType.toObject fetch ++ ";",
      "target." ++ ("set" ++ f.suffix) ++ "(" ++ (handed s f).render ++ ");"]

theorem callTexts_eq (s : Settings) (f : BoundField) :
    callTexts s f = ("return " ++ Xml.fetchedValue f ++ ";") ::
      ("target." ++ Xml.mutator f ++ "(" ++ Xml.handedValue s f ++ ");") ::
        if f.isCollection then ["target.removeAll" ++ f.suffix ++ "();"] else [] := by
  rw [← render_handed, Xml.fetchedValue, Xml.mutator, callTexts]
  cases f.isCollection <;> rfl

section Handler

variable {s : Settings} {boundClass text : String} {f : BoundField}

theorem override_eq (head boundClass text : String) :
    Xml.override head [Xml.targetLine boundClass, line text] =
      [line "@Override", line ("public " ++ head ++ " \x7b"), (Xml.targetLine boundClass).shift 1] ++
        ⟨1, text⟩ :: [line "\x7d"] :=
  rfl

theorem guarded_eq (head boundClass text : String) :
    Xml.override head (Xml.guarded [Xml.targetLine boundClass, line text]) =
      [line "@Override", line ("public " ++ head ++ " \x7b"), (line "try \x7b").shift 1,
        (Xml.targetLine boundClass).shift 2] ++
        ⟨2, text⟩ :: [(line "\x7d catch (Exception ex) \x7b").shift 1,
          (indented "throw new IllegalStateException(ex.toString());").shift 1,
          (line "\x7d").shift 1, line "\x7d"] :=
  rfl

theorem exists_override_line (head boundClass text : String) :
    ∃ l ∈ Xml.override head [Xml.targetLine boundClass, line text], l.text = text := by
  rw [override_eq]
  exact ⟨_, List.mem_append_right _ List.mem_cons_self, rfl⟩

theorem exists_guarded_line (head boundClass text : String) :
    ∃ l ∈ Xml.override head (Xml.guarded [Xml.targetLine boundClass, line text]), l.text = text := by
  rw [guarded_eq]
  exact ⟨_, List.mem_append_right _ List.mem_cons_self, rfl⟩

theorem exists_handler_line (hText : text ∈ callTexts s f) :
    ∃ l ∈ Xml.handlerLines s boundClass f, l.text = text := by
  simp only [Xml.handlerLines, List.mem_append]
  rw [callTexts_eq] at hText
  rcases List.mem_cons.mp hText with rfl | hText
  · obtain ⟨l, hLine, hEq⟩ := exists_override_line _ boundClass
      ("return " ++ Xml.fetchedValue f ++ ";")
    exact ⟨l, .inl (.inl (.inl (.inl (.inl hLine)))), hEq⟩
  rcases List.mem_cons.mp hText with rfl | hText
  · obtain ⟨l, hLine, hEq⟩ := exists_guarded_line _ boundClass
      ("target." ++ Xml.mutator f ++ "(" ++ Xml.handedValue s f ++ ");")
    exact ⟨l, .inl (.inl (.inl (.inr hLine))), hEq⟩
  · cases hMany : f.isCollection with
    | false =>
      rw [hMany] at hText
      cases hText
    | true =>
      rw [hMany] at hText
      obtain rfl := List.mem_singleton.mp hText
      obtain ⟨l, hLine, hEq⟩ := exists_guarded_line _ boundClass
        ("target.removeAll" ++ f.suffix ++ "();")
      rw [if_pos rfl]
      exact ⟨l, .inl (.inr (List.mem_append_left _ hLine)), hEq⟩

end Handler

/-! ## Names and constructors -/

@[simp] theorem Xml.name_describe (s : Settings) (name : String) (t : BoundType) :
    (Xml.describe s name t).name = name := by
  simp [Xml.describe, ClassDecl.ofName]

@[simp] theorem Relational.name_withIdentities (s : Settings) (name : String) (b : Binding)
    (identities : List String) : (Relational.withIdentities s name b identities).name = name := by
  simp [Relational.withIdentities, ClassDecl.ofName]

def constructorLines (c : ClassDecl) : List Line :=
  c.constructors.flatMap (·.body.lines)

theorem constructorLines_xml (s : Settings) (name : String) (t : BoundType) :
    constructorLines (Xml.describe s name t) = Xml.constructorLines s t := by
  simp [constructorLines, Xml.describe, Block.ofLines]

theorem constructorLines_relational (s : Settings) (name : String) (b : Binding)
    (identities : List String) :
    constructorLines (Relational.withIdentities s name b identities) =
      Relational.constructorLines s b identities := by
  simp [constructorLines, Relational.withIdentities, Block.ofLines]

theorem mem_constructorLines_xml {s : Settings} {t : BoundType} {f : BoundField} {l : Line}
    (name : String) (hField : f ∈ t.fields)
    (hLine : l ∈ Xml.fieldBlock s (simpleName t.name) (t.binding.isIdentity f) f) :
    l ∈ constructorLines (Xml.describe s name t) := by
  rw [constructorLines_xml]
  refine List.mem_append_right _ (List.mem_flatMap.mpr ⟨f, hField, ?_⟩)
  exact List.mem_cons_of_mem _ hLine

theorem exists_xml_line {s : Settings} {name text : String} {t : BoundType} {f : BoundField}
    (hField : f ∈ t.fields) (hText : text ∈ callTexts s f) :
    ∃ l ∈ constructorLines (Xml.describe s name t), l.text = text := by
  obtain ⟨l, hLine, hEq⟩ := exists_handler_line hText
  refine ⟨l.shift 1, mem_constructorLines_xml name hField ?_, hEq⟩
  have hNested : l.shift 1 ∈ nested (Xml.handlerLines s (simpleName t.name) f) :=
    List.mem_map_of_mem hLine
  simp only [Xml.fieldBlock, Xml.describingLines, List.mem_append, hNested, true_or, or_true]

def lookupTexts (boundClass : String) (f : BoundField) : List String :=
  ["Method " ++ f.property ++ "GetMethod = " ++ boundClass ++ ".class.getMethod(\"" ++
      ("get" ++ f.suffix) ++ "\");",
    "Method " ++ f.property ++ "SetMethod = " ++ boundClass ++ ".class.getMethod(\"" ++
      ("set" ++ f.suffix) ++ "\", " ++ f.valueType.written ++ ".class);"]

theorem lookupTexts_eq (boundClass : String) (f : BoundField) :
    lookupTexts boundClass f =
      ["Method " ++ Relational.variableName f.property .getMethod ++ " = " ++ boundClass ++
          ".class.getMethod(\"" ++ f.readMethod ++ "\");",
        "Method " ++ Relational.variableName f.property .setMethod ++ " = " ++ boundClass ++
          ".class.getMethod(\"" ++ f.writeMethod ++ "\", " ++ f.valueType.classLiteral ++ ");"] := by
  simp [lookupTexts, Relational.variableName, Relational.Local.ending, BoundField.readMethod,
    BoundField.writeMethod, ValueType.classLiteral, ← String.toList_inj]

theorem exists_lookup_line {boundClass text : String} {isIdentity : Bool} {f : BoundField}
    (hText : text ∈ lookupTexts boundClass f) :
    ∃ l ∈ Relational.fieldBlock boundClass isIdentity f, l.text = text := by
  have hLines : ∀ l ∈ Relational.handlerLines boundClass f,
      l ∈ Relational.fieldBlock boundClass isIdentity f := by
    intro l hLine
    simp only [Relational.fieldBlock, List.mem_append, hLine, true_or, or_true]
  rw [lookupTexts_eq] at hText
  refine ⟨indented text, hLines _ (List.mem_append_left _ ?_), rfl⟩
  rcases List.mem_cons.mp hText with rfl | hText
  · simp only [List.mem_cons, true_or, or_true]
  · rw [List.mem_singleton.mp hText]
    simp only [List.mem_cons, true_or, or_true]

theorem exists_identities_of_describe {s : Settings} {name : String} {t : BoundType} {d : ClassDecl}
    (hDescribe : Relational.describe s name t = .ok d) :
    ∃ identities, Relational.identities t.binding = .ok identities ∧
      d = Relational.withIdentities s name t.binding identities := by
  rw [Relational.describe] at hDescribe
  cases hIdentities : Relational.identities t.binding with
  | error fault =>
    rw [hIdentities] at hDescribe
    cases hDescribe
  | ok identities =>
    rw [hIdentities] at hDescribe
    cases hDescribe
    exact ⟨identities, rfl, rfl⟩

theorem exists_relational_line {s : Settings} {name text : String} {t : BoundType} {f : BoundField}
    {d : ClassDecl} (hDescribe : Relational.describe s name t = .ok d) (hField : f ∈ t.fields)
    (hMapped : f.isMapped = true) (hText : text ∈ lookupTexts (simpleName t.name) f) :
    ∃ l ∈ constructorLines d, l.text = text := by
  obtain ⟨identities, -, rfl⟩ := exists_identities_of_describe hDescribe
  obtain ⟨l, hLine, hEq⟩ := exists_lookup_line hText
  refine ⟨l, ?_, hEq⟩
  rw [constructorLines_relational]
  refine List.mem_append_left _ (List.mem_append_right _ ?_)
  refine List.mem_flatMap.mpr ⟨f, List.mem_filter.mpr ⟨hField, hMapped⟩, ?_⟩
  exact List.mem_cons_of_mem _ hLine

end BeanGen.Descriptor
