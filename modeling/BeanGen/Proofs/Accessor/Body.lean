import BeanGen.Proofs.Accessor.Form

/-!
# What accessors work on

A line works on a member if it names the member as a whole word. Every accessor of a collection has
such a line.
-/

namespace BeanGen.Accessor

open Java

def isWordChar (c : Char) : Bool :=
  c.isAlphanum || c == '_'

/-- The text names the member, and the word ends there. -/
def Names (text member : String) : Prop :=
  ∃ before stop after, isWordChar stop = false ∧
    text.toList = before ++ member.toList ++ stop :: after

namespace Names

variable {text member : String}

theorem intro (before rest : String) {stop : Char} {after : List Char}
    (hRest : rest.toList = stop :: after) (hStop : isWordChar stop = false) :
    Names (before ++ member ++ rest) member := by
  refine ⟨before.toList, stop, after, hStop, ?_⟩
  rw [String.toList_append, String.toList_append, hRest]

theorem start (rest : String) {stop : Char} {after : List Char}
    (hRest : rest.toList = stop :: after) (hStop : isWordChar stop = false) :
    Names (member ++ rest) member := by
  have hNames : Names ("" ++ member ++ rest) member := intro "" rest hRest hStop
  rwa [String.empty_append] at hNames

theorem prepend (h : Names text member) (before : String) : Names (before ++ text) member := by
  obtain ⟨first, stop, after, hStop, hText⟩ := h
  refine ⟨before.toList ++ first, stop, after, hStop, ?_⟩
  rw [String.toList_append, hText]
  simp only [List.append_assoc]

theorem append (h : Names text member) (more : String) : Names (text ++ more) member := by
  obtain ⟨before, stop, after, hStop, hText⟩ := h
  refine ⟨before, stop, after ++ more.toList, hStop, ?_⟩
  rw [String.toList_append, hText]
  simp only [List.append_assoc, List.cons_append]

theorem fromElement (h : Names text member) (l : Layout) : Names (l.fromElement text) member := by
  rw [Layout.fromElement]
  split
  · exact h
  · rw [ValueType.fromObject]
    split
    · exact (((h.prepend _).append _).append _).append _
    · exact h.prepend _

end Names

def WorksOn (m : MethodDecl) (member : String) : Prop :=
  ∃ l ∈ m.body.lines, Names l.text member

theorem worksOn_of_mem {m : MethodDecl} {member text : String} (hLine : line text ∈ m.body.lines)
    (hNames : Names text member) : WorksOn m member :=
  ⟨line text, hLine, hNames⟩

namespace Form

variable {h : Holding} {markers : List String} {f : BoundField}

theorem enumerate_worksOn : WorksOn (method h markers f enumerate) (h.layout f).member := by
  cases hPolicy : h.policy with
  | legacyIndexed =>
    refine worksOn_of_mem ?_ (.intro "return " ".elements();" rfl rfl)
    simp [method, Collection.enumerate, Collection.enumerationLines, hPolicy, MethodDecl.plain,
      Block.ofLines]
  | externalStoreBacked =>
    refine worksOn_of_mem ?_ (.intro "Iterator iterator = " ".iterator();" rfl rfl)
    simp [method, Collection.enumerate, Collection.enumerationLines, Collection.drainLines, hPolicy,
      MethodDecl.plain, Block.ofLines]
  | _ =>
    refine worksOn_of_mem ?_ (.intro "return Collections.enumeration(" ");" rfl rfl)
    simp [method, Collection.enumerate, Collection.enumerationLines, hPolicy, MethodDecl.plain,
      Block.ofLines]

theorem getArray_worksOn : WorksOn (method h markers f getArray) (h.layout f).member := by
  cases hTyped : (h.layout f).isTyped with
  | true =>
    refine worksOn_of_mem ?_ (.intro "return " ".toArray(array);" rfl rfl)
    simp [method, Collection.getArray, Collection.arrayLines, hTyped, MethodDecl.plain,
      Block.ofLines]
  | false =>
    refine worksOn_of_mem ?_ (.intro "int size = " ".size();" rfl rfl)
    simp [method, Collection.getArray, Collection.arrayLines, hTyped, MethodDecl.plain,
      Block.ofLines]

theorem getCount_worksOn : WorksOn (method h markers f getCount) (h.layout f).member := by
  have hText : "return this." ++ f.name ++ ".size();" =
      "return " ++ (h.layout f).member ++ ".size();" := by
    rw [Holding.layout, ← String.append_assoc]
    rfl
  refine worksOn_of_mem ?_ (.intro "return " ".size();" rfl rfl)
  rw [← hText]
  simp [method, Collection.getCount, Emission.ofMethod, MethodDecl.plain, Block.ofLines]

theorem worksOn_member {a : Form} (hMany : f.isCollection = true)
    (hA : a.isCalledFor h f = true) : WorksOn (method h markers f a) (h.layout f).member := by
  cases a with
  | add =>
    refine worksOn_of_mem ?_
      (((Names.start ".add(" rfl rfl).append ((h.layout f).toElement f.parameter)).append ");")
    simp [method, Collection.add, MethodDecl.plain, Block.ofLines]
  | addAt =>
    refine worksOn_of_mem ?_
      (((Names.start ".add(index, " rfl rfl).append ((h.layout f).toElement f.parameter)).append
        ");")
    simp [method, Collection.addAt, MethodDecl.plain, Block.ofLines]
  | enumerate => exact enumerate_worksOn
  | iterate =>
    refine worksOn_of_mem ?_ (.intro "return " ".iterator();" rfl rfl)
    simp [method, Collection.iterate, MethodDecl.plain, Block.ofLines]
  | getAt =>
    refine worksOn_of_mem ?_
      ((((Names.start ".get(index)" rfl rfl).fromElement (h.layout f)).prepend "return ").append ";")
    simp [method, Collection.getAt, MethodDecl.plain, Block.ofLines]
  | getArray => exact getArray_worksOn
  | getCount => exact getCount_worksOn
  | removeAll =>
    refine worksOn_of_mem ?_ (.start ".clear();" rfl rfl)
    simp [method, Collection.removeAll, Emission.ofMethod, MethodDecl.plain, Block.ofLines,
      Holding.layout]
  | remove =>
    refine worksOn_of_mem ?_
      (((Names.intro "boolean removed = " ".remove(" rfl rfl).append
        ((h.layout f).toElement f.parameter)).append ");")
    simp [method, Collection.remove, MethodDecl.plain, Block.ofLines]
  | removeAt =>
    refine worksOn_of_mem ?_ (.intro
      ((if (h.layout f).isTyped then (h.layout f).valueType else "Object") ++ " obj = ")
      ".remove(index);" rfl rfl)
    simp [method, Collection.removeAt, MethodDecl.plain, Block.ofLines]
  | setAt =>
    refine worksOn_of_mem ?_
      (((Names.start ".set(index, " rfl rfl).append ((h.layout f).toElement f.parameter)).append
        ");")
    simp [method, Collection.setAt, MethodDecl.plain, Block.ofLines]
  | setArray =>
    refine worksOn_of_mem ?_ (.start ".clear();" rfl rfl)
    simp [method, Collection.setArray, MethodDecl.plain, Block.ofLines]
  | getReference =>
    refine worksOn_of_mem ?_ (.intro "return " ";" rfl rfl)
    simp [method, Collection.getReference, MethodDecl.plain, Block.ofLines]
  | setCopy =>
    refine worksOn_of_mem ?_ (.start ".clear();" rfl rfl)
    simp [method, Collection.setCopy, MethodDecl.plain, Block.ofLines]
  | setReference =>
    refine worksOn_of_mem ?_
      (((Names.start " = " rfl rfl).append (f.property ++ "Collection")).append ";")
    simp [method, Collection.setReference, MethodDecl.plain, Block.ofLines]
  | _ => simp [isCalledFor, hMany] at hA

end Form

end BeanGen.Accessor
