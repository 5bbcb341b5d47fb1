import BeanGen.Descriptor.Xml
import BeanGen.Proofs.Text.Pattern

/-!
# The shape of an XML descriptor's constructor

The constructor has its own lines and then a block for every field. Which patterns the lines of a
block follow depends on the multiplicity of the field, on whether it is required and identifies, and
on its maximum; the configured and given names are only found where a pattern leaves them room.
-/

namespace BeanGen.Descriptor.Xml

open Java Text

/-! ## A block -/

def guardedShape (ps : List Pattern) : List Pattern :=
  [.exactly "try \x7b"] ++ ps ++
    [.exactly "\x7d catch (Exception ex) \x7b",
      .exactly "throw new IllegalStateException(ex.toString());", .exactly "\x7d"]

def overrideShape (head : String) (ps : List Pattern) : List Pattern :=
  [.exactly "@Override", .exactly ("public " ++ head ++ " \x7b")] ++ ps ++ [.exactly "\x7d"]

def callShape : List Pattern :=
  [.ending ") object;", .starting "target."]

def resetHead : String :=
  "void resetValue(Object object) throws IllegalStateException, IllegalArgumentException"

def handlerShape (many : Bool) : List Pattern :=
  overrideShape "Object getValue(Object object) throws IllegalStateException"
      [.ending ") object;", .starting "return "] ++ [.exactly ""] ++
    overrideShape ("void setValue(Object object, Object value) throws IllegalStateException, " ++
      "IllegalArgumentException") (guardedShape callShape) ++ [.exactly ""] ++
    (if many then overrideShape resetHead (guardedShape callShape) ++ [.exactly ""] else []) ++
    overrideShape "Object newInstance(Object parent)" [.exactly "return null;"]

def describingShape (many required isIdentity : Bool) : List Pattern :=
  [.starting "//-- ", .starting "desc = new ", .starting "handler = new "] ++ handlerShape many ++
    [.exactly "\x7d;", .exactly "desc.setHandler(handler);"] ++
    (if required then [.exactly "desc.setRequired(true);"] else []) ++
    [.starting "desc.setMultivalued(", .exactly "addFieldDescriptor(desc);"] ++
    (if isIdentity then [.exactly "this._identity = desc;"] else [])

/-- The text that hands the maximum over to the validator of a field. -/
def maximumText (m : Int) : String :=
  "fieldValidator.setMaxOccurs(" ++ (toString m ++ ");")

theorem maximumText_eq (m : Int) :
    maximumText m = "fieldValidator.setMaxOccurs(" ++ toString m ++ ");" :=
  String.append_assoc.symm

def maximumShape (f : BoundField) : List Pattern :=
  if 0 < f.maxSize then [.exactly (maximumText f.maxSize)] else []

theorem mem_maximumShape {f : BoundField} {p : Pattern} :
    p ∈ maximumShape f ↔ 0 < f.maxSize ∧ p = .exactly (maximumText f.maxSize) := by
  rw [maximumShape, List.mem_ite_nil_right, List.mem_singleton]

def validatingShape (required : Bool) (maximum : List Pattern) : List Pattern :=
  [.starting "//-- validation code for: ", .starting "fieldValidator = new "] ++
    (if required then [.exactly "fieldValidator.setMinOccurs(1);"] else []) ++ maximum ++
    [.exactly "desc.setValidator(fieldValidator);"]

def blockShape (many required isIdentity : Bool) (maximum : List Pattern) : List Pattern :=
  describingShape many required isIdentity ++ [.exactly ""] ++ validatingShape required maximum

/-- The patterns of all blocks, but for that of a maximum. -/
theorem mem_blockShape {p : Pattern} {many required isIdentity : Bool} {maximum : List Pattern}
    (h : p ∈ blockShape many required isIdentity maximum) :
    p ∈ maximum ∨ p ∈ blockShape true true true [] := by
  simp only [blockShape, describingShape, handlerShape, validatingShape, List.mem_append,
    List.mem_ite_nil_right, if_true, List.not_mem_nil] at h ⊢
  tauto

section Lines

variable (s : Settings) (boundClass : String) (f : BoundField)

theorem follow_override {ls : List Line} {ps : List Pattern} (head : String) (h : Follow ls ps) :
    Follow (override head ls) (overrideShape head ps) :=
  Follow.append (.append (.cons rfl (.cons rfl .nil)) h.nested) (.cons rfl .nil)

theorem follow_guarded {ls : List Line} {ps : List Pattern} (h : Follow ls ps) :
    Follow (guarded ls) (guardedShape ps) :=
  Follow.append (.append (.cons rfl .nil) h.nested) (.cons rfl (.cons rfl (.cons rfl .nil)))

theorem follow_call (x : String) :
    Follow [targetLine boundClass, line ("target." ++ x)] callShape :=
  .cons Pattern.fits_ending (.cons Pattern.fits_starting .nil)

theorem follow_getValueLines :
    Follow (getValueLines boundClass f)
      (overrideShape "Object getValue(Object object) throws IllegalStateException"
        [.ending ") object;", .starting "return "]) := by
  refine follow_override _ (.cons Pattern.fits_ending (.cons ?_ .nil))
  rw [line, String.append_assoc]
  exact Pattern.fits_starting

theorem follow_setValueLines :
    Follow (setValueLines s boundClass f)
      (overrideShape ("void setValue(Object object, Object value) throws IllegalStateException, " ++
        "IllegalArgumentException") (guardedShape callShape)) := by
  refine follow_override _ (follow_guarded ?_)
  simp only [String.append_assoc]
  exact follow_call boundClass _

theorem follow_resetValueLines :
    Follow (resetValueLines boundClass f) (overrideShape resetHead (guardedShape callShape)) := by
  refine follow_override _ (follow_guarded ?_)
  have hStart : "target.removeAll" = "target." ++ "removeAll" := by decide
  rw [hStart, String.append_assoc, String.append_assoc]
  exact follow_call boundClass _

theorem follow_handlerLines :
    Follow (handlerLines s boundClass f) (handlerShape f.isCollection) := by
  have hBlank : Follow [line ""] [.exactly ""] := .cons rfl .nil
  have hNew : Follow newInstanceLines
      (overrideShape "Object newInstance(Object parent)" [.exactly "return null;"]) :=
    follow_override _ (.cons rfl .nil)
  have hGet := follow_getValueLines boundClass f
  have hSet := follow_setValueLines s boundClass f
  have hReset := (follow_resetValueLines boundClass f).append hBlank
  exact ((((hGet.append hBlank).append hSet).append hBlank).append hReset.ite).append hNew

theorem follow_describingLines (isIdentity : Bool) :
    Follow (describingLines s boundClass isIdentity f)
      (describingShape f.isCollection f.required isIdentity) := by
  have hHandler := (follow_handlerLines s boundClass f).nested
  simp only [describingLines, String.append_assoc]
  refine .append (.append (.append (.append (.append ?_ hHandler) ?_) (.ite ?_)) ?_) (.ite ?_)
  · exact .cons Pattern.fits_starting (.cons Pattern.fits_starting
      (.cons Pattern.fits_starting .nil))
  · exact .cons rfl (.cons rfl .nil)
  · exact .cons rfl .nil
  · exact .cons Pattern.fits_starting (.cons rfl .nil)
  · exact .cons rfl .nil

theorem follow_maximum :
    Follow
      (if 0 < f.maxSize then
        [line ("fieldValidator.setMaxOccurs(" ++ toString f.maxSize ++ ");")]
      else [])
      (maximumShape f) := by
  rw [maximumShape, String.append_assoc]
  split
  · exact .cons rfl .nil
  · exact .nil

theorem follow_validatingLines :
    Follow (validatingLines s f) (validatingShape f.required (maximumShape f)) := by
  refine .append (.append (.append ?_ (.ite ?_)) (follow_maximum f)) ?_
  · rw [line, line, String.append_assoc]
    exact .cons Pattern.fits_starting (.cons Pattern.fits_starting .nil)
  · exact .cons rfl .nil
  · exact .cons rfl .nil

theorem follow_fieldBlock (isIdentity : Bool) :
    Follow (fieldBlock s boundClass isIdentity f)
      (blockShape f.isCollection f.required isIdentity (maximumShape f)) := by
  have hBlank : Follow [line ""] [.exactly ""] := .cons rfl .nil
  exact ((follow_describingLines s boundClass f isIdentity).append hBlank).append
    (follow_validatingLines s f)

/-- A line of a block that no fixed part of the shape allows for is the line for the maximum. -/
theorem maximum_of_mem_fieldBlock {head tail : String} {isIdentity : Bool} {l : Line}
    (hFixed : ∀ p ∈ blockShape true true true [], p.Avoids head tail)
    (hLine : l ∈ fieldBlock s boundClass isIdentity f) (hStarts : StartsWith head l.text)
    (hEnds : EndsWith tail l.text) : 0 < f.maxSize ∧ l.text = maximumText f.maxSize := by
  obtain ⟨p, hPattern, hFits⟩ := (follow_fieldBlock s boundClass f isIdentity).exists_fits hLine
  rcases mem_blockShape hPattern with hMaximum | hShape
  · obtain ⟨hPositive, rfl⟩ := mem_maximumShape.mp hMaximum
    exact ⟨hPositive, hFits⟩
  · exact absurd hFits ((hFixed p hShape).not_fits hStarts hEnds)

end Lines

/-! ## The lines before the blocks -/

def extensionShape (s : Settings) (t : BoundType) : List Pattern :=
  ((describedParent? s t).map fun p => .exactly
    ("setExtendsWithoutFlatten(new " ++ simpleName (nameFor s p) ++ "());")).toList

def ownShape (extension : List Pattern) (declares : Bool) : List Pattern :=
  [.exactly "super();"] ++ extension ++
    [.starting "this._nsURI = ", .starting "this._nsPrefix = ", .starting "this._xmlName = ",
      .starting "this._elementDefinition = "] ++
    (if declares then
      [.exactly "", .ending " desc = null;", .ending " handler = null;",
        .ending " fieldValidator = null;"]
    else [])

theorem mem_ownShape {p : Pattern} {extension : List Pattern} {declares : Bool}
    (h : p ∈ ownShape extension declares) : p ∈ extension ∨ p ∈ ownShape [] true := by
  simp only [ownShape, List.mem_append, List.mem_ite_nil_right, if_true, List.not_mem_nil] at h ⊢
  tauto

def ownLines (s : Settings) (t : BoundType) : List Line :=
  openingLines s t ++ if t.fields.isEmpty then [] else sharedVariables s

theorem follow_ownLines (s : Settings) (t : BoundType) :
    Follow (ownLines s t) (ownShape (extensionShape s t) (!t.fields.isEmpty)) := by
  have hShared : Follow (sharedVariables s)
      [.exactly "", .ending " desc = null;", .ending " handler = null;",
        .ending " fieldValidator = null;"] :=
    .cons rfl (.cons Pattern.fits_ending (.cons Pattern.fits_ending
      (.cons Pattern.fits_ending .nil)))
  simp only [ownLines, openingLines, String.append_assoc]
  refine .append (.append (.append (.cons rfl .nil) ?_) ?_) ?_
  · rw [extensionShape]
    cases describedParent? s t with
    | none => exact .nil
    | some p => exact .cons (by simp only [String.append_assoc]; rfl) .nil
  · exact .cons Pattern.fits_starting (.cons Pattern.fits_starting (.cons Pattern.fits_starting
      (.cons Pattern.fits_starting .nil)))
  · cases t.fields with
    | nil => exact .nil
    | cons f fs => exact hShared

theorem constructorLines_eq (s : Settings) (t : BoundType) :
    constructorLines s t = ownLines s t ++ t.fields.flatMap fun f =>
      line "" :: fieldBlock s (simpleName t.name) (t.binding.isIdentity f) f :=
  rfl

end BeanGen.Descriptor.Xml
