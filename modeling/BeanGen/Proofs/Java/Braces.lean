import BeanGen.Java.Literal
import BeanGen.Proofs.Java.Block
import BeanGen.Proofs.Java.Spelling
import BeanGen.Proofs.Text.Braces

/-!
# Braces of a class

The lines of a body may open braces that later lines close. As long as its body leaves nothing, so
does a member with its own braces around it, and in the end the text of the class.
-/

namespace BeanGen.Text.Braceless

open Java

variable {text : String}

/-! ## Names and literals -/

theorem simpleName (h : Braceless text) : Braceless (simpleName text) := by
  rw [Java.simpleName]
  split
  · rename_i package simple hSplit
    rw [Braceless, (of_splitLastPoint hSplit).1] at h
    exact of_forall fun c hc => h c (List.mem_append_right _ (List.mem_cons_of_mem _ hc))
  · exact h

theorem packageName (h : Braceless text) : Braceless (packageName text) := by
  rw [Java.packageName]
  split
  · rename_i package simple hSplit
    rw [Braceless, (of_splitLastPoint hSplit).1] at h
    exact of_forall fun c hc => h c (List.mem_append_left _ hc)
  · exact ofList (by decide)

theorem isBrace_literalChar {quote c : Char} (hQuote : isBrace quote = false)
    (hc : isBrace c = false) : ∀ d ∈ literalChar quote c, isBrace d = false := by
  have hLetters : isBrace '\\' = false ∧ isBrace 'n' = false ∧ isBrace 'r' = false ∧
      isBrace 't' = false := by decide
  simp only [literalChar]
  repeat' split
  all_goals simp [hQuote, hc, hLetters]

theorem stringLiteral (h : Braceless text) : Braceless (stringLiteral text) := by
  have hQuote : isBrace '"' = false := by decide
  refine of_forall (List.forall_mem_cons.mpr ⟨hQuote, List.forall_mem_append.mpr ⟨?_, ?_⟩⟩)
  · exact List.forall_mem_flatMap.mpr fun c hc => isBrace_literalChar hQuote (h c hc)
  · exact List.forall_mem_singleton.mpr hQuote

theorem charLiteral (h : Braceless text) : Braceless (charLiteral text) := by
  have hQuote : isBrace '\'' = false := by decide
  refine of_forall (List.forall_mem_cons.mpr ⟨hQuote, List.forall_mem_append.mpr ⟨?_, ?_⟩⟩)
  · split
    · exact List.forall_mem_cons.mpr ⟨by decide, List.forall_mem_singleton.mpr (by decide)⟩
    · rename_i c cs hChars
      exact isBrace_literalChar hQuote (h c (hChars ▸ List.mem_cons_self))
  · exact List.forall_mem_singleton.mpr hQuote

theorem optionalLiteral {value : Option String} (h : ∀ text ∈ value.toList, Braceless text) :
    Braceless (optionalLiteral value) := by
  cases value with
  | none => exact ofList (by decide)
  | some text => exact stringLiteral (h text (by simp))

end BeanGen.Text.Braceless

namespace BeanGen.Java

open Text

/-! ## Lines -/

/-- What is left of the braces of some lines, taken together. -/
def bracesOf : List Line → Braces
  | [] => 1
  | l :: ls => braces l.text * bracesOf ls

/-- The lines close the braces that they open, and no others. -/
def Closed (ls : List Line) : Prop :=
  bracesOf ls = 1

section Lines

variable {k : Braces} {ks : List Braces} {l : Line} {ls ms : List Line}
  {text : String}

theorem bracesOf_append (ls ms : List Line) : bracesOf (ls ++ ms) = bracesOf ls * bracesOf ms := by
  induction ls with
  | nil => rw [List.nil_append, bracesOf, one_mul]
  | cons l ls ih => rw [List.cons_append, bracesOf, bracesOf, ih, mul_assoc]

theorem bracesOf_nested (ls : List Line) : bracesOf (nested ls) = bracesOf ls := by
  induction ls with
  | nil => rfl
  | cons l ls ih => exact congrArg (braces l.text * ·) ih

theorem bracesOf_singleton (h : Braced k text) : bracesOf [line text] = k := by
  rw [bracesOf, bracesOf, mul_one]
  exact h

theorem Closed.nil : Closed [] :=
  rfl

theorem Closed.append (hls : Closed ls) (hms : Closed ms) : Closed (ls ++ ms) := by
  rw [Closed, bracesOf_append, hls, hms, one_mul]

theorem Closed.cons (hl : Braced 1 l.text) (hls : Closed ls) : Closed (l :: ls) := by
  rw [Closed, bracesOf, show braces l.text = 1 from hl, hls, one_mul]

theorem Closed.of_forall (h : ∀ l ∈ ls, Braced 1 l.text) : Closed ls := by
  induction ls with
  | nil => exact Closed.nil
  | cons l ls ih =>
    obtain ⟨hl, hls⟩ := List.forall_mem_cons.mp h
    exact Closed.cons hl (ih hls)

theorem Closed.singleton (h : Braced 1 text) : Closed [line text] :=
  Closed.cons h Closed.nil

theorem Closed.flatMap {α : Type} {xs : List α} {f : α → List Line} (h : ∀ x ∈ xs, Closed (f x)) :
    Closed (xs.flatMap f) := by
  induction xs with
  | nil => exact Closed.nil
  | cons x xs ih =>
    obtain ⟨hx, hxs⟩ := List.forall_mem_cons.mp h
    exact hx.append (ih hxs)

theorem Closed.ite {p : Prop} [Decidable p] (hls : p → Closed ls) (hms : ¬ p → Closed ms) :
    Closed (if p then ls else ms) := by
  split
  · exact hls ‹_›
  · exact hms ‹_›

/-- The lines have the braces of the list, line by line. -/
def Bracing (ks : List Braces) (ls : List Line) : Prop :=
  List.Forall₂ (fun k l => Braced k l.text) ks ls

theorem bracing_nil : Bracing [] [] ↔ True :=
  iff_true_intro .nil

theorem bracing_cons : Bracing (k :: ks) (l :: ls) ↔ Braced k l.text ∧ Bracing ks ls :=
  List.forall₂_cons

theorem Bracing.bracesOf_eq (ks : List Braces) (h : Bracing ks ls) : bracesOf ls = ks.prod := by
  induction h with
  | nil => rfl
  | cons hl _ ih => rw [bracesOf, List.prod_cons, ih, show braces _ = _ from hl]

/-- Lines that are told one by one close their braces if these do so. -/
theorem Bracing.closed (ks : List Braces) (h : Bracing ks ls) (hKinds : ks.prod = 1) : Closed ls :=
  (h.bracesOf_eq ks).trans hKinds

/-- The lines after some others close the braces that the lines before them open. -/
theorem Closed.around (ks js : List Braces) {before after : List Line} (hBefore : Bracing ks before)
    (hls : Closed ls) (hAfter : Bracing js after) (hKinds : ks.prod * js.prod = 1) :
    Closed (before ++ nested ls ++ after) := by
  rw [Closed, bracesOf_append, bracesOf_append, bracesOf_nested, hBefore.bracesOf_eq ks,
    hAfter.bracesOf_eq js, hls, mul_one, hKinds]

theorem Closed.between {before after : String} (hBefore : Braced .left before) (hls : Closed ls)
    (hAfter : Braced .right after) : Closed ([line before] ++ nested ls ++ [line after]) :=
  .around [.left] [.right] (bracing_cons.mpr ⟨hBefore, .nil⟩) hls
    (bracing_cons.mpr ⟨hAfter, .nil⟩) rfl

/-! ### As text -/

theorem braced_spaces (n : Nat) : Braced 1 ("".pushn ' ' n) := by
  refine Braceless.braced fun c hc => ?_
  rw [toList_pushn_space] at hc
  rw [List.eq_of_mem_replicate hc]
  rfl

theorem Line.braces_render (base : Nat) (l : Line) : braces (l.render base) = braces l.text := by
  rw [Line.render]
  split
  · rename_i hEmpty
    rw [String.isEmpty_iff.mp hEmpty]
  · rw [braces_append, show braces _ = 1 from braced_spaces _, one_mul]

theorem braces_render (b : Block) (base : Nat) : braces (b.render base) = bracesOf b.lines := by
  have hBreak : braces "\n" = 1 := Braced.ofList (by decide)
  rw [Block.render]
  induction b.lines with
  | nil => rfl
  | cons l ls ih =>
    rw [List.map_cons, String.join_cons, braces_append, braces_append, l.braces_render, hBreak,
      mul_one, ih, bracesOf]

theorem Closed.balanced_render {b : Block} (h : Closed b.lines) (base : Nat) :
    Balanced (b.render base) :=
  balanced_of_braces ((braces_render b base).trans h)

end Lines

/-! ## Members -/

theorem closed_commentLines {comment : Option String} (h : ∀ text ∈ comment.toList, Braced 1 text) :
    Closed (commentLines comment) := by
  cases comment with
  | none => exact Closed.nil
  | some text =>
    have hText : Braced 1 text := h text (by simp)
    refine .cons (.ofList (by decide)) (.cons ?_ (.singleton (.ofList (by decide))))
    exact .append (.ofList (by decide)) hText

theorem braced_leading (m : Modifiers) : Braced 1 m.leading := by
  refine .join (List.forall_mem_map.mpr fun word hWord => ?_)
  have hKeyword := m.keywords_subset hWord
  simp only [List.mem_cons, List.not_mem_nil, or_false] at hKeyword
  rcases hKeyword with rfl | rfl | rfl | rfl | rfl | rfl | rfl
  all_goals exact .append (.ofList (by decide)) (.ofList (by decide))

/-- The type and the name of a parameter leave no brace. -/
structure Parameter.IsBraced (p : Parameter) : Prop where
  type : Braced 1 p.type
  name : Braced 1 p.name

theorem braced_parameterList {ps : List Parameter} (h : ∀ p ∈ ps, p.IsBraced) :
    Braced 1 (parameterList ps) := by
  refine .intercalate (.ofList (by decide)) (List.forall_mem_map.mpr fun p hp => ?_)
  exact (Braced.enclosed (by decide) (h p hp).type (by decide)).append (h p hp).name

/-- No text of a member leaves a brace. -/
structure FieldDecl.IsBraced (f : FieldDecl) : Prop where
  type : Braced 1 f.type
  name : Braced 1 f.name
  initializer : ∀ text ∈ f.initializer.toList, Braced 1 text
  comment : ∀ text ∈ f.comment.toList, Braced 1 text

/-- No text of a method leaves a brace, and its body closes those it opens. -/
structure MethodDecl.IsBraced (m : MethodDecl) : Prop where
  name : Braced 1 m.name
  result : ∀ text ∈ m.returnType.toList, Braced 1 text
  parameters : ∀ p ∈ m.parameters, p.IsBraced
  clauses : ∀ text ∈ m.throwing ++ m.markers, Braced 1 text
  comment : ∀ text ∈ m.comment.toList, Braced 1 text
  body : Closed m.body.lines

structure ConstructorDecl.IsBraced (k : ConstructorDecl) : Prop where
  parameters : ∀ p ∈ k.parameters, p.IsBraced
  comment : ∀ text ∈ k.comment.toList, Braced 1 text
  body : Closed k.body.lines

theorem MethodDecl.isBraced_plain {name comment : String} {result : Option String}
    {ps : List Parameter} {ls : List Line} (hName : Braced 1 name)
    (hResult : ∀ type ∈ result.toList, Braced 1 type) (hParameters : ∀ p ∈ ps, p.IsBraced)
    (hComment : Braced 1 comment) (hLines : Closed ls) :
    (plain name result ps comment ls).IsBraced :=
  ⟨hName, hResult, hParameters, List.forall_mem_nil _, List.forall_mem_singleton.mpr hComment,
    hLines⟩

/-- A method without parameters that has one line. -/
theorem MethodDecl.isBraced_reading {name type comment text : String} (hName : Braced 1 name)
    (hType : Braced 1 type) (hComment : Braced 1 comment) (hText : Braced 1 text) :
    (plain name (some type) [] comment [line text]).IsBraced :=
  isBraced_plain hName (List.forall_mem_singleton.mpr hType) (List.forall_mem_nil _) hComment
    (.singleton hText)

theorem ConstructorDecl.isBraced_plain {ls : List Line} (h : Closed ls) :
    { plain with body := .ofLines ls }.IsBraced :=
  ⟨List.forall_mem_nil _, List.forall_mem_nil _, h⟩

theorem FieldDecl.isBraced_plain {type name : String} (hType : Braced 1 type)
    (hName : Braced 1 name) : (plain type name).IsBraced :=
  ⟨hType, hName, List.forall_mem_nil _, List.forall_mem_nil _⟩

theorem FieldDecl.isBraced_documented {type name comment : String} (hType : Braced 1 type)
    (hName : Braced 1 name) (hComment : Braced 1 comment) :
    (documented type name comment).IsBraced :=
  ⟨hType, hName, List.forall_mem_nil _, List.forall_mem_singleton.mpr hComment⟩

theorem FieldDecl.IsBraced.lines {f : FieldDecl} (h : f.IsBraced) : Closed f.lines := by
  have hType := h.type
  have hName := h.name
  have hLeading := braced_leading f.modifiers
  refine (closed_commentLines h.comment).append (.singleton ?_)
  refine .append (.append ?_ ?_) (.ofList (by decide))
  · repeat' with_reducible apply Braced.append
    all_goals first | with_reducible assumption | exact .ofList (by decide)
  · split
    · exact .ofList (by decide)
    · rename_i e hValue
      exact .append (.ofList (by decide)) (h.initializer e (by simp [hValue]))

theorem ConstructorDecl.IsBraced.lines {className : String} {k : ConstructorDecl}
    (hClass : Braced 1 className) (h : k.IsBraced) : Closed (k.lines className) := by
  have hLeading := braced_leading k.modifiers
  have hList := braced_parameterList h.parameters
  rw [ConstructorDecl.lines, List.append_assoc, List.append_assoc]
  refine (closed_commentLines h.comment).append ?_
  rw [← List.append_assoc]
  refine .between ?_ h.body (.ofList (by decide))
  repeat' with_reducible apply Braced.append
  all_goals first | with_reducible assumption | exact .ofList (by decide)

namespace MethodDecl.IsBraced

variable {m : MethodDecl}

theorem headLines (h : m.IsBraced) : bracesOf m.headLines = .left := by
  have hType : Braced 1 (m.returnType.getD "void") := by
    cases hNone : m.returnType with
    | none => exact .ofList (by decide)
    | some type => exact h.result type (by simp [hNone])
  have hHead : Braced 1 (m.modifiers.leading ++ m.returnType.getD "void" ++ " " ++ m.name ++ "(" ++
      parameterList m.parameters ++ ")") := by
    have hLeading := braced_leading m.modifiers
    have hName := h.name
    have hList := braced_parameterList h.parameters
    repeat' with_reducible apply Braced.append
    all_goals first | with_reducible assumption | exact .ofList (by decide)
  rw [MethodDecl.headLines]
  split
  · exact bracesOf_singleton (hHead.append (.ofList (by decide)))
  · have hThrowing : Braced 1 (String.intercalate ", " m.throwing) :=
      .intercalate (.ofList (by decide)) (List.forall_mem_append.mp h.clauses).1
    have hClause : Braced .left ("throws " ++ String.intercalate ", " m.throwing ++ " \x7b") :=
      .enclosed (by decide) hThrowing (by decide)
    have hLines : Bracing [1, .left] [line _, indented _] :=
      bracing_cons.mpr ⟨hHead, bracing_cons.mpr ⟨hClause, .nil⟩⟩
    exact hLines.bracesOf_eq _

theorem lines (h : m.IsBraced) : Closed m.lines := by
  have hMarkers : Closed (m.markers.map line) :=
    .of_forall (List.forall_mem_map.mpr (List.forall_mem_append.mp h.clauses).2)
  have hClosing : bracesOf [line "\x7d"] = .right := bracesOf_singleton (.ofList (by decide))
  rw [Closed, MethodDecl.lines, bracesOf_append, bracesOf_append, bracesOf_append, bracesOf_append,
    bracesOf_nested, closed_commentLines h.comment, hMarkers, h.headLines, h.body, hClosing]
  rfl

end MethodDecl.IsBraced

/-! ## The text of a class -/

namespace ClassDecl

/-- No text of a class leaves a brace, and the bodies close those they open. -/
abbrev IsBraced (c : ClassDecl) : Prop :=
  c.Each Braceless (Braced 1) FieldDecl.IsBraced MethodDecl.IsBraced ConstructorDecl.IsBraced

namespace IsBraced

variable {c : ClassDecl}

theorem opening (h : c.IsBraced) (hName : Braceless c.name) : Braced .left c.opening := by
  have hSupertypes := List.forall_mem_append.mp h.supertypes
  have hAbstract : Braced 1 (if c.isAbstract then "abstract " else "") := by
    split <;> exact .ofList (by decide)
  simp only [ClassDecl.opening]
  refine .append (.append (.append (.append ?_ hName.simpleName.braced) ?_) ?_)
    (.ofList (by decide))
  · exact .enclosed (by decide) hAbstract (by decide)
  · split
    · exact .ofList (by decide)
    · rename_i superclass hSuperclass
      have hSuper : Braceless superclass := hSupertypes.1 superclass (by simp [hSuperclass])
      exact .append (.ofList (by decide)) hSuper.simpleName.braced
  · split
    · exact .ofList (by decide)
    · refine .append (.ofList (by decide)) (.intercalate (.ofList (by decide)) ?_)
      exact List.forall_mem_map.mpr fun q hq => (hSupertypes.2 q hq).simpleName.braced

theorem memberLines (h : c.IsBraced) (hName : Braceless c.name) : Closed c.memberLines := by
  have hEach : ∀ ls ∈ c.fields.map FieldDecl.lines ++
      c.constructors.map (ConstructorDecl.lines c.localName) ++ c.methods.map MethodDecl.lines,
      Closed ls := by
    simp only [List.forall_mem_append, List.forall_mem_map]
    refine ⟨⟨fun f hf => ?_, fun k hk => ?_⟩, fun m hm => ?_⟩
    · exact (h.fields f hf).lines
    · exact (h.constructors k hk).lines hName.simpleName.braced
    · exact (h.methods m hm).lines
  exact .flatMap fun ls hLines => .cons (.ofList (by decide)) (hEach ls hLines)

theorem unitLines (h : c.IsBraced) (hName : Braceless c.name)
    (hImports : ∀ q ∈ c.imports, Braced 1 q) : Closed c.unitLines := by
  have hBlank : Closed [line ""] := .singleton (.ofList (by decide))
  have hPackageLines : Closed c.packageLines := by
    refine .ite (fun _ => .nil) fun _ => .cons ?_ hBlank
    exact .enclosed (by decide) hName.packageName.braced (by decide)
  have hImportLines : Closed c.importLines := by
    refine .ite (fun _ => .nil) fun _ => .append (.of_forall ?_) hBlank
    refine List.forall_mem_map.mpr fun n hn => ?_
    exact .enclosed (by decide) (hImports n (mem_ascending.mp hn)) (by decide)
  have hHead := (hPackageLines.append hImportLines).append (closed_commentLines h.comment)
  have hBody : Closed ([line c.opening] ++ nested c.memberLines ++ [line "\x7d"]) :=
    .between (h.opening hName) (h.memberLines hName) (.ofList (by decide))
  rw [ClassDecl.unitLines, List.append_assoc, List.append_assoc]
  rw [List.append_assoc] at hBody
  exact hHead.append hBody

theorem balanced_render (h : c.IsBraced) (hName : Braceless c.name)
    (hImports : ∀ q ∈ c.imports, Braced 1 q) : Balanced c.render :=
  Closed.balanced_render (b := .ofLines c.unitLines) (h.unitLines hName hImports) 0

end IsBraced

end ClassDecl

end BeanGen.Java
