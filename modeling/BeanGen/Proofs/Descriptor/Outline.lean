import BeanGen.Proofs.Descriptor.Calls
import BeanGen.Proofs.Descriptor.Shape

/-!
# The outline of an XML descriptor

Whatever it describes, a descriptor has the same members and accessors and one constructor, in which
the fields are described block by block. The constructor can also be written from top to bottom,
line by line and in and out of nested code; every block then ends at the depth where it began.
-/

namespace BeanGen

namespace Java.Block

variable {b : Block} {xs ys : List Line}

theorem add_eq (text : String) : b.add text = b.addLines [line text] :=
  rfl

theorem addIndented_eq (text : String) : b.addIndented text = b.addLines [indented text] :=
  rfl

theorem addLines_append : (b.addLines xs).addLines ys = b.addLines (xs ++ ys) := by
  simp [addLines]

theorem addLines_ite {p : Prop} [Decidable p] :
    (if p then b.addLines (xs ++ ys) else b.addLines xs) =
      b.addLines (xs ++ if p then ys else []) := by
  split
  · rfl
  · rw [List.append_nil]

theorem outdent_addLines_indent : (b.indent.addLines xs).outdent = b.addLines (nested xs) := by
  have hShift : Line.shift b.depth ∘ Line.shift 1 = Line.shift (b.depth + 1) := by
    funext l
    simp only [Function.comp_apply, Line.shift, Nat.add_assoc]
  simp [addLines, indent, outdent, nested, hShift]

theorem foldl_addIndented (texts : List String) (b : Block) :
    texts.foldl addIndented b = b.addLines (texts.map indented) := by
  induction texts generalizing b with
  | nil => simp [addLines]
  | cons text texts ih =>
    rw [List.foldl_cons, ih, addIndented_eq, addLines_append]
    rfl

end Java.Block

namespace Descriptor.Xml

open Java Text

/-! ## Writing line by line -/

def writeGuarded (texts : List String) (b : Block) : Block :=
  let inner := texts.foldl Block.addIndented (b.indent.add "try \x7b")
  (((inner.add "\x7d catch (Exception ex) \x7b").addIndented
    "throw new IllegalStateException(ex.toString());").add "\x7d").outdent

def openOverride (head : String) (b : Block) : Block :=
  (b.add "@Override").add ("public " ++ head ++ " \x7b")

def writeReset (boundClass : String) (f : BoundField) (b : Block) : Block :=
  ((writeGuarded [(targetLine boundClass).text, "target.removeAll" ++ f.suffix ++ "();"]
    (openOverride resetHead b)).add "\x7d").add ""

def writeHandler (s : Settings) (boundClass : String) (f : BoundField) (b : Block) : Block :=
  let target := (targetLine boundClass).text
  let b := ((((openOverride "Object getValue(Object object) throws IllegalStateException"
    b).addIndented target).addIndented ("return " ++ fetchedValue f ++ ";")).add "\x7d").add ""
  let b := openOverride
    ("void setValue(Object object, Object value) throws IllegalStateException, " ++
      "IllegalArgumentException") b
  let b := ((writeGuarded [target, "target." ++ mutator f ++ "(" ++ handedValue s f ++ ");"] b).add
    "\x7d").add ""
  let b := if f.isCollection then writeReset boundClass f b else b
  ((openOverride "Object newInstance(Object parent)" b).addIndented "return null;").add "\x7d"

def writeDescribing (s : Settings) (boundClass : String) (isIdentity : Bool) (f : BoundField)
    (b : Block) : Block :=
  let b := ((b.add ("//-- " ++ f.name)).add
    ("desc = new " ++ simpleName s.runtime.xmlFieldDescriptor ++ "(" ++ f.valueType.classLiteral ++
      ", \"" ++ f.name ++ "\", \"" ++ f.xmlName ++ "\", " ++ simpleName s.runtime.nodeType ++ "." ++
      f.node.constant ++ ");")).add
    ("handler = new " ++ simpleName s.runtime.xmlFieldHandler ++ "() \x7b")
  let b := ((writeHandler s boundClass f b.indent).outdent.add "\x7d;").add
    "desc.setHandler(handler);"
  let b := if f.required then b.add "desc.setRequired(true);" else b
  let b := (b.add ("desc.setMultivalued(" ++ booleanLiteral f.isCollection ++ ");")).add
    "addFieldDescriptor(desc);"
  if isIdentity then b.add "this._identity = desc;" else b

def writeValidating (s : Settings) (f : BoundField) (b : Block) : Block :=
  let b := (b.add ("//-- validation code for: " ++ f.name)).add
    ("fieldValidator = new " ++ simpleName s.runtime.fieldValidator ++ "();")
  let b := if f.required then b.add "fieldValidator.setMinOccurs(1);" else b
  let b :=
    if 0 < f.maxSize then b.add ("fieldValidator.setMaxOccurs(" ++ toString f.maxSize ++ ");")
    else b
  b.add "desc.setValidator(fieldValidator);"

def writeField (s : Settings) (boundClass : String) (isIdentity : Bool) (f : BoundField)
    (b : Block) : Block :=
  writeValidating s f ((writeDescribing s boundClass isIdentity f b).add "")

def writeOwn (s : Settings) (t : BoundType) : Block :=
  let b := Block.empty.add "super();"
  let b := match describedParent? s t with
    | some p => b.add ("setExtendsWithoutFlatten(new " ++ simpleName (nameFor s p) ++ "());")
    | none => b
  let b := (((b.add ("this._nsURI = " ++ optionalLiteral t.namespaceUri ++ ";")).add
    ("this._nsPrefix = " ++ optionalLiteral t.namespacePrefix ++ ";")).add
    ("this._xmlName = " ++ stringLiteral t.xmlName ++ ";")).add
    ("this._elementDefinition = " ++ booleanLiteral t.elementDefinition ++ ";")
  if t.fields.isEmpty then b
  else
    (((b.add "").add (simpleName s.runtime.xmlFieldDescriptor ++ " desc = null;")).add
      (simpleName s.runtime.xmlFieldHandler ++ " handler = null;")).add
      (simpleName s.runtime.fieldValidator ++ " fieldValidator = null;")

/-- The body of the constructor as it is written, from the first line to the last block. -/
def writeConstructor (s : Settings) (t : BoundType) : Block :=
  t.fields.foldl
    (fun b f => writeField s (simpleName t.name) (t.binding.isIdentity f) f (b.add ""))
    (writeOwn s t)

section Writing

variable (s : Settings) (boundClass : String) (f : BoundField) (b : Block)

theorem writeGuarded_eq (texts : List String) :
    writeGuarded texts b = b.addLines (nested (guarded (texts.map line))) := by
  simp only [writeGuarded, Block.foldl_addIndented, Block.add_eq, Block.addIndented_eq,
    Block.addLines_append, Block.outdent_addLines_indent]
  simp only [guarded, nested, List.map_append, List.map_map, List.append_assoc]
  rfl

theorem openOverride_eq (head : String) :
    openOverride head b = b.addLines [line "@Override", line ("public " ++ head ++ " \x7b")] := by
  rw [openOverride, Block.add_eq, Block.add_eq, Block.addLines_append]
  rfl

theorem writeReset_eq :
    writeReset boundClass f b = b.addLines (resetValueLines boundClass f ++ [line ""]) := by
  simp only [writeReset, openOverride_eq, writeGuarded_eq, Block.add_eq, Block.addLines_append]
  rfl

theorem writeHandler_eq :
    writeHandler s boundClass f b = b.addLines (handlerLines s boundClass f) := by
  simp only [writeHandler, openOverride_eq, writeReset_eq, writeGuarded_eq, Block.add_eq,
    Block.addIndented_eq, Block.addLines_append, Block.addLines_ite]
  simp only [handlerLines, getValueLines, setValueLines, newInstanceLines, override,
    List.append_assoc]
  rfl

theorem writeDescribing_eq (isIdentity : Bool) :
    writeDescribing s boundClass isIdentity f b =
      b.addLines (describingLines s boundClass isIdentity f) := by
  simp only [writeDescribing, writeHandler_eq, Block.outdent_addLines_indent, Block.add_eq,
    Block.addLines_append, Block.addLines_ite]
  simp only [describingLines, List.append_assoc, List.cons_append, List.nil_append]

theorem writeValidating_eq : writeValidating s f b = b.addLines (validatingLines s f) := by
  simp only [writeValidating, Block.add_eq, Block.addLines_append, Block.addLines_ite]
  simp only [validatingLines, List.append_assoc, List.cons_append, List.nil_append]

/-- A block is written where the writing stands, and leaves it at that depth. -/
theorem writeField_eq (isIdentity : Bool) :
    writeField s boundClass isIdentity f b =
      b.addLines (fieldBlock s boundClass isIdentity f) := by
  rw [writeField, writeValidating_eq, writeDescribing_eq, Block.add_eq, Block.addLines_append,
    Block.addLines_append, fieldBlock, List.append_assoc]

theorem writeOwn_eq (t : BoundType) : writeOwn s t = .ofLines (ownLines s t) := by
  simp only [writeOwn, ownLines, openingLines, sharedVariables]
  cases describedParent? s t <;> cases t.fields <;> rfl

theorem foldl_writeField (isIdentity : BoundField → Bool) (fs : List BoundField) :
    fs.foldl (fun b f => writeField s boundClass (isIdentity f) f (b.add "")) b =
      b.addLines (fs.flatMap fun f => line "" :: fieldBlock s boundClass (isIdentity f) f) := by
  induction fs generalizing b with
  | nil => simp [Block.addLines]
  | cons f fs ih =>
    rw [List.foldl_cons, ih, writeField_eq, Block.add_eq, Block.addLines_append,
      Block.addLines_append]
    rfl

theorem writeConstructor_eq (t : BoundType) :
    writeConstructor s t = .ofLines (constructorLines s t) := by
  have hLines (xs ys : List Line) :
      (Block.ofLines xs).addLines ys = .ofLines (xs ++ ys.map (Line.shift 0)) := rfl
  have hShift : Line.shift 0 = id := by
    funext l
    simp only [Line.shift, Nat.zero_add, id]
  rw [writeConstructor, foldl_writeField, writeOwn_eq, hLines, hShift, List.map_id,
    constructorLines_eq]

end Writing

/-! ## What a block says -/

def registration : String :=
  "addFieldDescriptor(desc);"

def identification : String :=
  "this._identity = desc;"

def resetTexts : List String :=
  ["@Override", "public " ++ resetHead ++ " \x7b"]

/-- The block describes the field: it registers one descriptor, keeps it as the identity if it is,
and resets collections only. -/
structure Describes (isIdentity : Bool) (f : BoundField) (ls : List Line) : Prop where
  heading : (ls.map (·.text)).head? = some ("//-- " ++ f.name)
  registers : (ls.map (·.text)).count registration = 1
  identifies : (ls.map (·.text)).count identification = isIdentity.toNat
  resets : resetTexts <:+: ls.map (·.text) ↔ f.isCollection = true

section Field

variable {s : Settings} {boundClass mark : String} {isIdentity : Bool} {f : BoundField}

theorem count_maximumShape (hMark : ¬ StartsWith "fieldValidator.setMaxOccurs(" mark) :
    (maximumShape f).count (.exactly mark) = 0 := by
  refine List.count_eq_zero.mpr fun hMem => hMark ?_
  obtain ⟨-, hMaximum⟩ := mem_maximumShape.mp hMem
  cases hMaximum
  exact startsWith_self_append _ _

theorem eq_exactly_of_fits {p : Pattern}
    (hPattern : p ∈ blockShape f.isCollection f.required isIdentity (maximumShape f))
    (hFixed : ∀ p ∈ blockShape true true true [], p.Fits mark → p = .exactly mark)
    (hFits : p.Fits mark) : p = .exactly mark := by
  rcases mem_blockShape hPattern with hMaximum | hShape
  · obtain ⟨-, rfl⟩ := mem_maximumShape.mp hMaximum
    exact congrArg Pattern.exactly hFits.symm
  · exact hFixed p hShape hFits

/-- How often a fixed text is in a block can be counted on the shape. -/
theorem count_fieldBlock (hMark : ¬ StartsWith "fieldValidator.setMaxOccurs(" mark)
    (hFixed : ∀ p ∈ blockShape true true true [], p.Fits mark → p = .exactly mark) :
    ((fieldBlock s boundClass isIdentity f).map (·.text)).count mark =
      (blockShape f.isCollection f.required isIdentity []).count (.exactly mark) := by
  rw [(follow_fieldBlock s boundClass f isIdentity).count_text fun p hPattern =>
    eq_exactly_of_fits hPattern hFixed]
  simp only [blockShape, validatingShape, List.count_append, count_maximumShape hMark,
    List.count_nil]

theorem describes_fieldBlock : Describes isIdentity f (fieldBlock s boundClass isIdentity f) where
  heading := rfl
  registers := by
    rw [count_fieldBlock (by decide) (by decide +kernel)]
    generalize f.isCollection = many, f.required = required
    revert many required isIdentity
    decide +kernel
  identifies := by
    rw [count_fieldBlock (by decide) (by decide +kernel)]
    generalize f.isCollection = many, f.required = required
    revert many required isIdentity
    decide +kernel
  resets := by
    cases hMany : f.isCollection with
    | false =>
      have hNone : ((fieldBlock s boundClass isIdentity f).map (·.text)).count
          ("public " ++ resetHead ++ " \x7b") = 0 := by
        rw [count_fieldBlock (by decide) (by decide +kernel), hMany]
        generalize f.required = required
        revert required isIdentity
        decide +kernel
      refine iff_of_false (fun hInfix => ?_) Bool.false_ne_true
      exact List.count_eq_zero.mp hNone (hInfix.subset (by decide))
    | true =>
      have hShape : ∀ required isIdentity,
          resetTexts.map .exactly <:+: describingShape true required isIdentity := by
        decide +kernel
      have hFollow := follow_fieldBlock s boundClass f isIdentity
      rw [hMany] at hFollow
      refine iff_of_true (hFollow.infix_text ((hShape f.required isIdentity).trans ?_)) rfl
      exact ((List.prefix_append _ _).trans (List.prefix_append _ _)).isInfix

end Field

/-! ## The whole descriptor -/

/-- What a descriptor has, and in which order, whatever the names and texts in it are. -/
structure Outline (s : Settings) (t : BoundType) (c : ClassDecl) : Prop where
  members : c.fields.map (·.name) =
    ["_elementDefinition", "_nsPrefix", "_nsURI", "_xmlName", "_identity"]
  accessors : c.methods.map (·.signature) =
    ["isElementDefinition()", "getNameSpacePrefix()", "getNameSpaceURI()", "getValidator()",
      "getXMLName()", "getAccessMode()", "getIdentity()", "getJavaClass()"]
  bodies : ∀ m ∈ c.methods, m.body.lines ≠ []
  constructors : c.constructors.map (·.parameters) = [[]]
  start : (Descriptor.constructorLines c).head? = some (line "super();")
  blocks : ∃ own blocks, Descriptor.constructorLines c = own ++ blocks.flatMap (line "" :: ·) ∧
    (∀ l ∈ own, l.text ≠ registration) ∧
    List.Forall₂ (fun f ls => Describes (t.binding.isIdentity f) f ls) t.fields blocks

section Describe

variable (s : Settings) (name : String) (t : BoundType)

theorem lines_ne_nil_of_mem_methods {m : MethodDecl} (hMem : m ∈ methods s t) :
    m.body.lines ≠ [] := by
  simp only [methods, List.mem_cons, List.not_mem_nil, or_false] at hMem
  rcases hMem with rfl | rfl | rfl | rfl | rfl | rfl | rfl | rfl
  case inr.inr.inr.inr.inr.inr.inl =>
    exact List.append_ne_nil_of_right_ne_nil _ (List.cons_ne_nil _ _)
  all_goals exact List.cons_ne_nil _ _

theorem registration_not_mem_ownLines {l : Line} (hLine : l ∈ ownLines s t) :
    l.text ≠ registration := by
  intro hText
  have hFixed : ∀ p ∈ ownShape [] true, ¬ p.Fits registration := by decide +kernel
  obtain ⟨p, hPattern, hFits⟩ := (follow_ownLines s t).exists_fits hLine
  rw [hText] at hFits
  rcases mem_ownShape hPattern with hExtension | hShape
  · simp only [extensionShape, Option.mem_toList, Option.map_eq_some_iff] at hExtension
    obtain ⟨parent, -, rfl⟩ := hExtension
    have hStarts : StartsWith "setExtendsWithoutFlatten(new " registration := by
      have hEq : registration = _ := hFits
      rw [hEq, String.append_assoc]
      exact startsWith_self_append _ _
    exact absurd hStarts (by decide)
  · exact hFixed p hShape hFits

/-- Every descriptor has this outline. Its constructor is written from top to bottom, and every
block of a field ends at the depth at which it starts, wherever that is. -/
theorem outline_describe :
    Outline s t (describe s name t) ∧
      (∀ k ∈ (describe s name t).constructors, k.body = writeConstructor s t) ∧
      ∀ (f : BoundField) (isIdentity : Bool) (b : Block),
        (writeField s (simpleName t.name) isIdentity f b).depth = b.depth := by
  refine ⟨⟨rfl, rfl, ?_, rfl, ?_, ?_⟩, ?_, ?_⟩
  · exact fun m => lines_ne_nil_of_mem_methods s t
  · rw [constructorLines_xml]
    rfl
  · rw [constructorLines_xml]
    refine ⟨ownLines s t, t.fields.map fun f =>
      fieldBlock s (simpleName t.name) (t.binding.isIdentity f) f, ?_, ?_, ?_⟩
    · rw [constructorLines_eq, List.flatMap_map]
    · exact fun l => registration_not_mem_ownLines s t
    · exact List.forall₂_map_right_iff.mpr (List.forall₂_same.mpr fun f _ => describes_fieldBlock)
  · intro k hConstructor
    rw [List.mem_singleton.mp hConstructor, writeConstructor_eq]
  · intro f isIdentity b
    rw [writeField_eq]
    rfl

end Describe

end Descriptor.Xml

end BeanGen
