import BeanGen.Java.Member
import BeanGen.Java.Name

/-!
# A class under construction

Members are added one by one and keep their order. A second field of one name, a second method of
one signature and a second import or interface are not added. An import is also left out where the
name needs none: for a name without a package, for `java.lang`, and for the package of the class
itself.
-/

namespace BeanGen.Java

structure ClassDecl where
  name : String
  superclass : Option String
  interfaces : List String
  imports : List String
  fields : List FieldDecl
  methods : List MethodDecl
  constructors : List ConstructorDecl
  comment : Option String
  isAbstract : Bool
  deriving DecidableEq, Repr, Inhabited

namespace ClassDecl

def ofName (name : String) : ClassDecl :=
  ⟨name, none, [], [], [], [], [], none, false⟩

def package (c : ClassDecl) : String :=
  packageName c.name

def localName (c : ClassDecl) : String :=
  simpleName c.name

def needsNoImport (c : ClassDecl) (name : String) : Bool :=
  !isQualified name || packageName name == "java.lang" || packageName name == c.package

def addImport (c : ClassDecl) (name : String) : ClassDecl :=
  if c.needsNoImport name || c.imports.contains name then c
  else { c with imports := c.imports ++ [name] }

def addImports (c : ClassDecl) (names : List String) : ClassDecl :=
  names.foldl addImport c

def addInterface (c : ClassDecl) (name : String) : ClassDecl :=
  if c.interfaces.contains name then c else { c with interfaces := c.interfaces ++ [name] }

def field? (c : ClassDecl) (name : String) : Option FieldDecl :=
  c.fields.find? (·.name == name)

def acceptsField (c : ClassDecl) (f : FieldDecl) : Bool :=
  (c.field? f.name).isNone

def addField (c : ClassDecl) (f : FieldDecl) : ClassDecl :=
  if c.acceptsField f then { c with fields := c.fields ++ [f] } else c

def addFields (c : ClassDecl) (fs : List FieldDecl) : ClassDecl :=
  fs.foldl addField c

def method? (c : ClassDecl) (name : String) : Option MethodDecl :=
  c.methods.find? (·.name == name)

def overloads (c : ClassDecl) (name : String) : List MethodDecl :=
  c.methods.filter (·.name == name)

def acceptsMethod (c : ClassDecl) (m : MethodDecl) : Bool :=
  !c.methods.any (·.signature == m.signature)

def addMethod (c : ClassDecl) (m : MethodDecl) : ClassDecl :=
  if c.acceptsMethod m then { c with methods := c.methods ++ [m] } else c

def addMethods (c : ClassDecl) (ms : List MethodDecl) : ClassDecl :=
  ms.foldl addMethod c

def addConstructor (c : ClassDecl) (k : ConstructorDecl) : ClassDecl :=
  { c with constructors := c.constructors ++ [k] }

def changeFirst {α : Type} (p : α → Bool) (default : α) (f : α → α) : List α → List α
  | [] => [f default]
  | x :: xs => if p x then f x :: xs else x :: changeFirst p default f xs

/-- Changes the constructor without parameters, which is made on first use. -/
def changeDefault (c : ClassDecl) (f : ConstructorDecl → ConstructorDecl) : ClassDecl :=
  { c with constructors := changeFirst (·.parameters.isEmpty) .plain f c.constructors }

def changeDefaultBody (c : ClassDecl) (f : Block → Block) : ClassDecl :=
  c.changeDefault fun k => { k with body := f k.body }

def defaultConstructor? (c : ClassDecl) : Option ConstructorDecl :=
  c.constructors.find? (·.parameters.isEmpty)

end ClassDecl

end BeanGen.Java
