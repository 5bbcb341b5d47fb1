import BeanGen.Java.Literal
import BeanGen.Java.Name
import BeanGen.Schema.BoundField
import BeanGen.Text.Casing

/-!
# Java types of values

Each kind of value has a type for a single member and a type for an element of a collection. The two
differ for the primitive kinds only, which are boxed to become objects. Reference types are kept
qualified and written by their simple names.
-/

namespace BeanGen

namespace Java

/-- The Java type of a kind of value, and the column type that holds it. -/
structure ValueType where
  unboxed : String
  boxed : String
  isPrimitive : Bool
  columnType : String
  deriving DecidableEq, Repr, Inhabited

namespace ValueType

def reference (className columnType : String) : ValueType :=
  ⟨className, className, false, columnType⟩

def primitive (unboxed boxed columnType : String) : ValueType :=
  ⟨unboxed, boxed, true, columnType⟩

def written (t : ValueType) : String :=
  simpleName t.unboxed

def writtenBoxed (t : ValueType) : String :=
  simpleName t.boxed

def imports (t : ValueType) : List String :=
  if t.isPrimitive then [] else [t.boxed]

def classLiteral (t : ValueType) : String :=
  t.written ++ ".class"

def toObject (t : ValueType) (expr : String) : String :=
  if t.isPrimitive then t.boxed ++ ".valueOf(" ++ expr ++ ")" else expr

def fromObject (t : ValueType) (expr : String) : String :=
  if t.isPrimitive then "((" ++ t.boxed ++ ") " ++ expr ++ ")." ++ t.unboxed ++ "Value()"
  else "(" ++ t.written ++ ") " ++ expr

def literal (t : ValueType) (value : String) : String :=
  match t.unboxed with
  | "String" => stringLiteral value
  | "char" => charLiteral value
  | "byte" => "(byte) " ++ value
  | "short" => "(short) " ++ value
  | "long" => value ++ "L"
  | "float" => value ++ "f"
  | "java.math.BigDecimal" => "new BigDecimal(" ++ stringLiteral value ++ ")"
  | _ => value

def columnConstant (t : ValueType) : String :=
  "java.sql.Types." ++ Text.asciiUpper t.columnType

end ValueType

end Java

def ContentKind.valueType : ContentKind → Java.ValueType
  | .string => .reference "String" "varchar"
  | .boolean => .primitive "boolean" "Boolean" "bit"
  | .byte => .primitive "byte" "Byte" "tinyint"
  | .short => .primitive "short" "Short" "smallint"
  | .int => .primitive "int" "Integer" "integer"
  | .long => .primitive "long" "Long" "bigint"
  | .float => .primitive "float" "Float" "real"
  | .double => .primitive "double" "Double" "double"
  | .char => .primitive "char" "Character" "char"
  | .decimal => .reference "java.math.BigDecimal" "numeric"
  | .date => .reference "java.util.Date" "timestamp"
  | .bound className => .reference className "varchar"

def BoundField.valueType (f : BoundField) : Java.ValueType :=
  f.content.valueType

end BeanGen
