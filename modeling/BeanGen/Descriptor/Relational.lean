import BeanGen.Java.ClassDecl
import BeanGen.Java.ValueType
import BeanGen.Schema.Validity
import BeanGen.Settings.Basic

/-!
# Relational descriptors

The constructor of a relational descriptor rebuilds the mapping of a class onto a table. A field
with one value of a simple kind is mapped onto a column; collections and references are not.
Identities come in the order of the declared key, each once, and each has to be mapped.
-/

namespace BeanGen

def BoundField.isMapped (f : BoundField) : Bool :=
  match f.multiplicity, f.content with
  | .many _, _ => false
  | .single, .bound _ => false
  | .single, _ => true

namespace Descriptor.Relational

open Java

def nameFor (s : Settings) (className : String) : String :=
  className ++ s.jdoDescriptorSuffix

def mappingClasses : List String := [
  "org.exolab.castor.mapping.xml.ClassMapping",
  "org.exolab.castor.mapping.xml.ClassChoice",
  "org.exolab.castor.mapping.xml.MapTo",
  "org.exolab.castor.mapping.xml.FieldMapping",
  "org.exolab.castor.mapping.xml.Sql",
  "org.exolab.castor.mapping.loader.FieldDescriptorImpl",
  "org.exolab.castor.mapping.loader.FieldHandlerImpl",
  "org.exolab.castor.mapping.loader.TypeInfo",
  "org.exolab.castor.mapping.FieldDescriptor",
  "org.exolab.castor.mapping.MappingException",
  "org.exolab.castor.jdo.engine.nature.ClassDescriptorJDONature",
  "org.exolab.castor.jdo.engine.nature.FieldDescriptorJDONature",
  "java.lang.reflect.Method"]

/-! ## Variables of a field -/

/-- The variables that the constructor declares for each mapped field. -/
inductive Local where
  | fieldName
  | sqlName
  | descriptor
  | mapping
  | type
  | handler
  | getMethod
  | setMethod
  | nature
  | sql
  deriving DecidableEq, Repr, Inhabited

def Local.ending : Local → String
  | .fieldName => "FieldName"
  | .sqlName => "SqlName"
  | .descriptor => "FieldDescr"
  | .mapping => "FM"
  | .type => "Type"
  | .handler => "Handler"
  | .getMethod => "GetMethod"
  | .setMethod => "SetMethod"
  | .nature => "FieldJdoNature"
  | .sql => "Sql"

def variableName (property : String) (v : Local) : String :=
  property ++ v.ending

def descriptorList (properties : List String) : String :=
  String.intercalate "," (properties.map (variableName · .descriptor))

/-! ## The block of a field -/

def isRequired (isIdentity : Bool) (f : BoundField) : Bool :=
  f.required || isIdentity

def declaringLines (isIdentity : Bool) (f : BoundField) : List Line :=
  let v := variableName f.property
  [line ("//" ++ f.property ++ " field"),
    line ("String " ++ v .fieldName ++ " = " ++ stringLiteral f.property ++ ";"),
    line ("String " ++ v .sqlName ++ " = " ++ stringLiteral f.sqlName ++ ";"),
    line ("FieldDescriptorImpl " ++ v .descriptor ++ ";"),
    line ("FieldMapping " ++ v .mapping ++ " = new FieldMapping();"),
    line ("TypeInfo " ++ v .type ++ " = new TypeInfo(" ++ f.valueType.writtenBoxed ++ ".class);"),
    line "// Set columns required (= not null)",
    line (v .type ++ ".setRequired(" ++ booleanLiteral (isRequired isIdentity f) ++ ");"),
    line ""]

def rescueLines : List Line :=
  let rethrow := indented "throw new RuntimeException(e1.getMessage());"
  [line "\x7d catch (SecurityException e1) \x7b", rethrow,
    line "\x7d catch (MappingException e1) \x7b", rethrow,
    line "\x7d catch (NoSuchMethodException e1) \x7b", rethrow, line "\x7d", line ""]

def handlerLines (boundClass : String) (f : BoundField) : List Line :=
  let v := variableName f.property
  [line ("FieldHandlerImpl " ++ v .handler ++ ";"),
    line "try \x7b",
    indented ("Method " ++ v .getMethod ++ " = " ++ boundClass ++ ".class.getMethod(\"" ++
      f.readMethod ++ "\");"),
    indented ("Method " ++ v .setMethod ++ " = " ++ boundClass ++ ".class.getMethod(\"" ++
      f.writeMethod ++ "\", " ++ f.valueType.classLiteral ++ ");"),
    indented (v .handler ++ " = new FieldHandlerImpl(" ++ v .fieldName ++ ", null, null, " ++
      v .getMethod ++ ", " ++ v .setMethod ++ ", " ++ v .type ++ ");")] ++ rescueLines

def columnLines (f : BoundField) : List Line :=
  let v := variableName f.property
  [line ("// Instantiate " ++ f.property ++ " field descriptor"),
    line (v .descriptor ++ " = new FieldDescriptorImpl(" ++ v .fieldName ++ ", " ++ v .type ++
      ", " ++ v .handler ++ ", false);"),
    line (v .descriptor ++ ".addNature(FieldDescriptorJDONature.class.getName());"),
    line ("FieldDescriptorJDONature " ++ v .nature ++ " = new FieldDescriptorJDONature(" ++
      v .descriptor ++ ");"),
    line (v .nature ++ ".setSQLName(new String[] \x7b " ++ v .sqlName ++ " \x7d);"),
    line (v .nature ++ ".setSQLType(new int[] \x7b " ++ f.valueType.columnConstant ++ " \x7d);"),
    line (v .nature ++ ".setManyTable(null);"),
    line (v .nature ++ ".setManyKey(new String[] \x7b\x7d);"),
    line (v .nature ++ ".setDirtyCheck(false);"),
    line (v .nature ++ ".setReadOnly(false);"),
    line ""]

def mappingLines (isIdentity : Bool) (f : BoundField) : List Line :=
  let v := variableName f.property
  [line (v .descriptor ++ ".setContainingClassDescriptor(this);"),
    line (v .descriptor ++ ".setIdentity(" ++ booleanLiteral isIdentity ++ ");"),
    line (v .mapping ++ ".setIdentity(" ++ booleanLiteral isIdentity ++ ");"),
    line (v .mapping ++ ".setDirect(false);"),
    line (v .mapping ++ ".setName(\"" ++ f.property ++ "\");"),
    line (v .mapping ++ ".setRequired(" ++ booleanLiteral (isRequired isIdentity f) ++ ");"),
    line (v .mapping ++ ".setSetMethod(\"" ++ f.writeMethod ++ "\");"),
    line (v .mapping ++ ".setGetMethod(\"" ++ f.readMethod ++ "\");"),
    line ("Sql " ++ v .sql ++ " = new Sql();"),
    line (v .sql ++ ".addName(" ++ stringLiteral f.sqlName ++ ");"),
    line (v .sql ++ ".setType(\"" ++ f.valueType.columnType ++ "\");"),
    line (v .mapping ++ ".setSql(" ++ v .sql ++ ");"),
    line (v .mapping ++ ".setType(\"" ++ f.valueType.columnType ++ "\");"),
    line ("choice.addFieldMapping(" ++ v .mapping ++ ");")]

def fieldBlock (boundClass : String) (isIdentity : Bool) (f : BoundField) : List Line :=
  declaringLines isIdentity f ++ handlerLines boundClass f ++ columnLines f ++
    mappingLines isIdentity f

/-! ## Identities and other fields -/

/-- The property names of the identities after those already `known`, in the order of the key. -/
def identitiesAfter (b : Binding) (known : List String) :
    List String → Except ModelFault (List String)
  | [] => .ok known
  | identity :: rest =>
    match b.fields.find? (·.isNamed identity) with
    | none => .error (.unknownIdentity identity b.boundClass)
    | some f =>
      if !f.isMapped then .error (.unmappedIdentity identity b.boundClass)
      else if known.contains f.property then identitiesAfter b known rest
      else identitiesAfter b (known ++ [f.property]) rest

/-- The property names of the identities in the order of the key, each once. -/
def identities (b : Binding) : Except ModelFault (List String) :=
  identitiesAfter b [] b.identities

def mappedFields (b : Binding) : List BoundField :=
  b.fields.filter (·.isMapped)

def plainProperties (b : Binding) : List String :=
  ((mappedFields b).filter fun f => !b.isIdentity f).map (·.property)

/-! ## The descriptor -/

/-- The table: the declared one, or the name in documents. -/
def tableName (b : Binding) : String :=
  b.tableName.getD b.xmlName

def openingLines (s : Settings) (b : Binding) : List Line :=
  let table := stringLiteral (tableName b)
  let className := stringLiteral b.boundClass
  let mode := b.accessMode.getD .standard
  [line "super();",
    line "ClassMapping mapping = new ClassMapping();",
    line "ClassChoice choice = new ClassChoice();",
    line "MapTo mapTo = new MapTo();",
    line "",
    line "addNature(ClassDescriptorJDONature.class.getName());",
    line "ClassDescriptorJDONature jdoNature = new ClassDescriptorJDONature(this);",
    line ("jdoNature.setTableName(" ++ table ++ ");"),
    line ("setJavaClass(" ++ simpleName b.boundClass ++ ".class);"),
    line ("jdoNature.setAccessMode(" ++ simpleName s.runtime.accessMode ++ ".valueOf(\"" ++
      mode.runtimeName ++ "\"));"),
    line ("jdoNature.addCacheParam(\"name\", " ++ className ++ ");"),
    line "",
    line "mapping.setAutoCreate(true);",
    line ("mapping.setName(" ++ className ++ ");"),
    line "mapping.setClassChoice(choice);",
    line ("mapTo.setTable(" ++ table ++ ");"),
    line "mapping.setMapTo(mapTo);",
    line "setMapping(mapping);"]

/-- The blocks of the mapped fields in declaration order, each after an empty line. -/
def fieldBlocks (b : Binding) : List Line :=
  (mappedFields b).flatMap fun f =>
    line "" :: fieldBlock (simpleName b.boundClass) (b.isIdentity f) f

def closingLines (plain identities : List String) : List Line :=
  [line "",
    line ("setFields(new FieldDescriptor[] \x7b" ++ descriptorList plain ++ "\x7d);"),
    line ("setIdentities(new FieldDescriptor[] \x7b" ++ descriptorList identities ++ "\x7d);")]

def constructorLines (s : Settings) (b : Binding) (identities : List String) : List Line :=
  openingLines s b ++ fieldBlocks b ++ closingLines (plainProperties b) identities

def imports (s : Settings) (b : Binding) : List String :=
  s.runtime.jdoDescriptorBase :: mappingClasses ++ [s.runtime.accessMode, b.boundClass] ++
    (mappedFields b).flatMap (·.valueType.imports)

def withIdentities (s : Settings) (name : String) (b : Binding) (identities : List String) :
    ClassDecl :=
  { (ClassDecl.ofName name).addImports (imports s b) with
    superclass := some (simpleName s.runtime.jdoDescriptorBase)
    comment := some ("Class " ++ simpleName name ++ ".")
    constructors :=
      [{ ConstructorDecl.plain with body := .ofLines (constructorLines s b identities) }] }

def describe (s : Settings) (name : String) (t : BoundType) : Except ModelFault ClassDecl :=
  (identities t.binding).map (withIdentities s name t.binding)

end Descriptor.Relational

end BeanGen
