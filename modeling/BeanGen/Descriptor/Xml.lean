import BeanGen.Java.ClassDecl
import BeanGen.Java.ValueType
import BeanGen.Schema.BoundType
import BeanGen.Settings.Basic

/-!
# XML descriptors

Every bound class has a companion that tells the marshalling runtime its element name, namespace,
identity and fields. It has five members, eight accessors and one constructor, which holds a block
for each field. The descriptor extends that of the parent, unless the parent is the global
superclass.
-/

namespace BeanGen.Descriptor.Xml

open Java

def nameFor (s : Settings) (className : String) : String :=
  className ++ s.descriptorSuffix

/-- The parent whose descriptor is extended: the global superclass has none. -/
def describedParent? (s : Settings) (t : BoundType) : Option String :=
  t.parent.filter fun p => s.superClass != some p

def extendsParent (s : Settings) (t : BoundType) : Bool :=
  (describedParent? s t).isSome

def superclass (s : Settings) (t : BoundType) : String :=
  match describedParent? s t with
  | some p => nameFor s p
  | none => s.runtime.xmlDescriptorBase

/-! ## Fields -/

/-- Whether elements are handed over boxed: in collections under modern settings. -/
def passesBoxed (s : Settings) (f : BoundField) : Bool :=
  f.isCollection && s.modernMode

def handedValue (s : Settings) (f : BoundField) : String :=
  if passesBoxed s f then "(" ++ f.valueType.writtenBoxed ++ ") value"
  else f.valueType.fromObject "value"

def fetchedValue (f : BoundField) : String :=
  let call := "target." ++ f.readMethod ++ "()"
  if f.isCollection then call else f.valueType.toObject call

def mutator (f : BoundField) : String :=
  if f.isCollection then "add" ++ f.suffix else f.writeMethod

def targetLine (boundClass : String) : Line :=
  line (boundClass ++ " target = (" ++ boundClass ++ ") object;")

def guarded (lines : List Line) : List Line :=
  [line "try \x7b"] ++ nested lines ++
    [line "\x7d catch (Exception ex) \x7b",
      indented "throw new IllegalStateException(ex.toString());", line "\x7d"]

def override (head : String) (lines : List Line) : List Line :=
  [line "@Override", line ("public " ++ head ++ " \x7b")] ++ nested lines ++ [line "\x7d"]

def getValueLines (boundClass : String) (f : BoundField) : List Line :=
  override "Object getValue(Object object) throws IllegalStateException"
    [targetLine boundClass, line ("return " ++ fetchedValue f ++ ";")]

def setValueLines (s : Settings) (boundClass : String) (f : BoundField) : List Line :=
  override ("void setValue(Object object, Object value) throws IllegalStateException, " ++
      "IllegalArgumentException")
    (guarded [targetLine boundClass,
      line ("target." ++ mutator f ++ "(" ++ handedValue s f ++ ");")])

def resetValueLines (boundClass : String) (f : BoundField) : List Line :=
  override "void resetValue(Object object) throws IllegalStateException, IllegalArgumentException"
    (guarded [targetLine boundClass, line ("target.removeAll" ++ f.suffix ++ "();")])

def newInstanceLines : List Line :=
  override "Object newInstance(Object parent)" [line "return null;"]

def handlerLines (s : Settings) (boundClass : String) (f : BoundField) : List Line :=
  getValueLines boundClass f ++ [line ""] ++ setValueLines s boundClass f ++ [line ""] ++
    (if f.isCollection then resetValueLines boundClass f ++ [line ""] else []) ++ newInstanceLines

def describingLines (s : Settings) (boundClass : String) (isIdentity : Bool) (f : BoundField) :
    List Line :=
  [line ("//-- " ++ f.name),
    line ("desc = new " ++ simpleName s.runtime.xmlFieldDescriptor ++ "(" ++
      f.valueType.classLiteral ++ ", \"" ++ f.name ++ "\", \"" ++ f.xmlName ++ "\", " ++
      simpleName s.runtime.nodeType ++ "." ++ f.node.constant ++ ");"),
    line ("handler = new " ++ simpleName s.runtime.xmlFieldHandler ++ "() \x7b")] ++
    nested (handlerLines s boundClass f) ++
    [line "\x7d;", line "desc.setHandler(handler);"] ++
    (if f.required then [line "desc.setRequired(true);"] else []) ++
    [line ("desc.setMultivalued(" ++ booleanLiteral f.isCollection ++ ");"),
      line "addFieldDescriptor(desc);"] ++
    (if isIdentity then [line "this._identity = desc;"] else [])

def validatingLines (s : Settings) (f : BoundField) : List Line :=
  [line ("//-- validation code for: " ++ f.name),
    line ("fieldValidator = new " ++ simpleName s.runtime.fieldValidator ++ "();")] ++
    (if f.required then [line "fieldValidator.setMinOccurs(1);"] else []) ++
    (if 0 < f.maxSize then [line ("fieldValidator.setMaxOccurs(" ++ toString f.maxSize ++ ");")]
      else []) ++
    [line "desc.setValidator(fieldValidator);"]

def fieldBlock (s : Settings) (boundClass : String) (isIdentity : Bool) (f : BoundField) :
    List Line :=
  describingLines s boundClass isIdentity f ++ [line ""] ++ validatingLines s f

/-! ## The descriptor -/

def fieldBlocks (s : Settings) (b : Binding) : List Line :=
  b.fields.flatMap fun f =>
    line "" :: fieldBlock s (simpleName b.boundClass) (b.isIdentity f) f

def openingLines (s : Settings) (t : BoundType) : List Line :=
  let b := t.binding
  let extension := match describedParent? s t with
    | some p =>
      [line ("setExtendsWithoutFlatten(new " ++ simpleName (nameFor s p) ++ "());")]
    | none => []
  [line "super();"] ++ extension ++
    [line ("this._nsURI = " ++ optionalLiteral b.namespaceUri ++ ";"),
      line ("this._nsPrefix = " ++ optionalLiteral b.namespacePrefix ++ ";"),
      line ("this._xmlName = " ++ stringLiteral b.xmlName ++ ";"),
      line ("this._elementDefinition = " ++ booleanLiteral b.elementDefinition ++ ";")]

def sharedVariables (s : Settings) : List Line :=
  [line "", line (simpleName s.runtime.xmlFieldDescriptor ++ " desc = null;"),
    line (simpleName s.runtime.xmlFieldHandler ++ " handler = null;"),
    line (simpleName s.runtime.fieldValidator ++ " fieldValidator = null;")]

def constructorLines (s : Settings) (t : BoundType) : List Line :=
  openingLines s t ++ (if t.fields.isEmpty then [] else sharedVariables s) ++
    fieldBlocks s t.binding

def members (s : Settings) : List FieldDecl :=
  [.plain "boolean" "_elementDefinition", .plain "String" "_nsPrefix", .plain "String" "_nsURI",
    .plain "String" "_xmlName",
    .documented (simpleName s.runtime.fieldDescriptor) "_identity"
      "Identity field descriptor, if any."]

/-- The accessor of the identity, which falls back to the parent's where one is extended. -/
def getIdentity (s : Settings) (t : BoundType) : MethodDecl :=
  let fallback :=
    if extendsParent s t then
      [line "if (this._identity == null) \x7b", indented "return super.getIdentity();", line "\x7d"]
    else []
  .plain "getIdentity" (some (simpleName s.runtime.fieldDescriptor)) []
    "Returns the identity field, or null if this class has no identity."
    (fallback ++ [line "return this._identity;"])

/-- The accessor of the validator; without one of its own a descriptor validates itself. -/
def getValidator (s : Settings) (b : Binding) : MethodDecl :=
  let value := match b.validator with
    | some v => "new " ++ simpleName v ++ "()"
    | none => "this"
  .plain "getValidator" (some (simpleName s.runtime.typeValidator)) []
    "Returns a specific validator for the class described by this descriptor."
    [line ("return " ++ value ++ ";")]

def getAccessMode (s : Settings) (b : Binding) : MethodDecl :=
  let modeClass := simpleName s.runtime.accessMode
  let value := match b.accessMode with
    | some mode => modeClass ++ ".valueOf(\"" ++ mode.runtimeName ++ "\")"
    | none => "null"
  .plain "getAccessMode" (some modeClass) [] "Returns the access mode specified for this class."
    [line ("return " ++ value ++ ";")]

def methods (s : Settings) (t : BoundType) : List MethodDecl :=
  [.plain "isElementDefinition" (some "boolean") []
      "Returns true if XML schema definition of this class is an element."
      [line "return this._elementDefinition;"],
    .plain "getNameSpacePrefix" (some "String") []
      "Returns the namespace prefix to use when marshaling as XML."
      [line "return this._nsPrefix;"],
    .plain "getNameSpaceURI" (some "String") []
      "Returns the namespace URI used when marshaling and unmarshaling as XML."
      [line "return this._nsURI;"],
    getValidator s t.binding,
    .plain "getXMLName" (some "String") []
      "Returns the XML name for the class described by this descriptor."
      [line "return this._xmlName;"],
    getAccessMode s t.binding,
    getIdentity s t,
    .plain "getJavaClass" (some "Class") []
      "Returns the Java class represented by this descriptor."
      [line ("return " ++ simpleName t.name ++ ".class;")]]

def imports (s : Settings) (t : BoundType) : List String :=
  let r := s.runtime
  [superclass s t, r.fieldDescriptor, r.xmlFieldDescriptor, r.xmlFieldHandler, r.fieldValidator,
    r.nodeType, t.name] ++ ((describedParent? s t).map (nameFor s)).toList ++
    t.fields.flatMap (·.valueType.imports) ++ [r.typeValidator] ++ t.validator.toList ++
    [r.accessMode]

def describe (s : Settings) (name : String) (t : BoundType) : ClassDecl :=
  { (ClassDecl.ofName name).addImports (imports s t) with
    superclass := some (simpleName (superclass s t))
    comment := some ("Class " ++ simpleName name ++ ".")
    fields := members s
    methods := methods s t
    constructors := [{ ConstructorDecl.plain with body := .ofLines (constructorLines s t) }] }

end BeanGen.Descriptor.Xml
