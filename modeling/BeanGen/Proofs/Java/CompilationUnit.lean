import BeanGen.Java.CompilationUnit
import BeanGen.Proofs.Text.Ascending

/-!
# The imports in the text of a class

The lines of a class that start at the margin are texts with line breaks between them, so the text
falls into the package, the imports, the comment and the declaration with what follows it. Of these
only the imports come from the imports of the class, and they are written in the order of their
bytes, so nothing is left of the order in which they were added.
-/

namespace BeanGen.Java

/-! ## Lines as text -/

/-- The text of lines that are not shifted. -/
def textOf (ls : List Line) : String :=
  (Block.ofLines ls).render 0

theorem textOf_append (as bs : List Line) : textOf (as ++ bs) = textOf as ++ textOf bs := by
  rw [textOf, Block.render, Block.ofLines, List.map_append, String.join_append]
  rfl

theorem Line.render_line (text : String) : (line text).render 0 = text := by
  rw [Line.render, line]
  split
  · exact (String.isEmpty_iff.mp ‹_›).symm
  · rw [Nat.zero_add, Nat.zero_mul]
    exact String.empty_append

theorem textOf_cons (text : String) (ls : List Line) :
    textOf (line text :: ls) = text ++ "\n" ++ textOf ls := by
  rw [textOf, Block.render, Block.ofLines, List.map_cons, String.join_cons, Line.render_line]
  rfl

theorem textOf_nil : textOf [] = "" :=
  rfl

/-! ## The parts of a unit -/

def packageText (package : String) : String :=
  if package = "" then "" else "package " ++ package ++ ";\n\n"

def commentText : Option String → String
  | none => ""
  | some text => "/**\n * " ++ text ++ "\n */\n"

/-- The imports, each in a line of its own, and an empty line behind them if there are any. -/
def importText (names : List String) : String :=
  if names = [] then "" else String.join (names.map fun q => "import " ++ q ++ ";\n") ++ "\n"

namespace ClassDecl

variable (c : ClassDecl)

theorem textOf_packageLines : textOf c.packageLines = packageText c.package := by
  rw [packageLines, packageText]
  by_cases hPackage : c.package = ""
  · simp [hPackage, textOf_nil]
  · rw [if_neg (by simpa using hPackage), if_neg hPackage]
    simp [textOf_cons, textOf_nil, ← String.toList_inj]

theorem textOf_importLine (q : String) (ls : List Line) :
    textOf (line ("import " ++ q ++ ";") :: ls) = "import " ++ q ++ ";\n" ++ textOf ls := by
  simp [textOf_cons, ← String.toList_inj]

theorem textOf_map_importLine (names : List String) :
    textOf (names.map fun q => line ("import " ++ q ++ ";")) =
      String.join (names.map fun q => "import " ++ q ++ ";\n") := by
  induction names with
  | nil => rfl
  | cons q names ih => rw [List.map_cons, textOf_importLine, ih, List.map_cons, String.join_cons]

theorem textOf_importLines : textOf c.importLines = importText (Text.ascending c.imports) := by
  rw [importLines, importText]
  by_cases hNames : Text.ascending c.imports = []
  · simp [hNames, textOf_nil]
  · rw [if_neg (by simpa using hNames), if_neg hNames, textOf_append, textOf_map_importLine,
      textOf_cons, textOf_nil, String.empty_append, String.append_empty]

theorem textOf_commentLines (comment : Option String) :
    textOf (commentLines comment) = commentText comment := by
  cases comment with
  | none => rfl
  | some text => simp [commentLines, commentText, textOf_cons, textOf_nil, ← String.toList_inj]

theorem render_eq : c.render =
    packageText c.package ++ importText (Text.ascending c.imports) ++ commentText c.comment ++
      c.opening ++ "\n" ++ textOf (nested c.memberLines ++ [line "\x7d"]) := by
  have hUnit : c.unitLines = c.packageLines ++ c.importLines ++ commentLines c.comment ++
      line c.opening :: (nested c.memberLines ++ [line "\x7d"]) := by
    simp [unitLines]
  have hRender : c.render = textOf c.unitLines := rfl
  rw [hRender, hUnit, textOf_append, textOf_append, textOf_append, textOf_cons,
    textOf_packageLines, textOf_importLines, textOf_commentLines]
  simp only [String.append_assoc]

/-- A class with other imports, if they are the same set, has the same text. In that text, the
imports stand between the package and the declaration with its comment, each of them once, in
ascending order of their bytes. -/
theorem renders_imports_as_set :
    (∀ c d : ClassDecl, d = { c with imports := d.imports } →
      (∀ q, q ∈ d.imports ↔ q ∈ c.imports) → d.render = c.render) ∧
    ∀ c : ClassDecl, ∃ names rest,
      (∀ q, q ∈ names ↔ q ∈ c.imports) ∧
      names.Pairwise (fun p q => Text.bytes p < Text.bytes q) ∧
      c.render = packageText c.package ++ importText names ++ commentText c.comment ++
        c.opening ++ "\n" ++ rest := by
  constructor
  · intro c d hOnly hSame
    have hNames := Text.ascending_eq_of_mem_iff hSame
    rw [hOnly] at hNames ⊢
    rw [render_eq, render_eq, hNames]
    rfl
  · intro c
    exact ⟨Text.ascending c.imports, _, fun _ => Text.mem_ascending,
      Text.ascending_bytes_pairwise c.imports, c.render_eq⟩

/-- A class with three imports, one of them twice and none in its place. -/
def dated : ClassDecl :=
  { ClassDecl.ofName "shop.Order" with
    imports := ["java.util.Date", "java.math.BigDecimal", "java.util.Date", "java.io.Reader"] }

def redated : ClassDecl :=
  { dated with imports := ["java.io.Reader", "java.util.Date", "java.math.BigDecimal"] }

theorem renders_imports_as_set_redated :
    redated = { dated with imports := redated.imports } ∧
      (∀ q, q ∈ redated.imports ↔ q ∈ dated.imports) ∧ redated.render = dated.render := by
  have hSame : ∀ q, q ∈ redated.imports ↔ q ∈ dated.imports := by
    intro q
    simp only [redated, dated, List.mem_cons, List.not_mem_nil, or_false]
    tauto
  exact ⟨rfl, hSame, renders_imports_as_set.1 dated redated rfl hSame⟩

end ClassDecl

end BeanGen.Java
