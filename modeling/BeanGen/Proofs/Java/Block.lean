import BeanGen.Java.Block
import BeanGen.Proofs.Text.Runs

/-!
# The text of a block

The text of a block is that of its lines, one behind the other, so what is put into a block is
written as it would be on its own, only further to the right. Every line is ended by a line break,
and the text falls back into the lines just if none of them has a line break of its own, which is so
for a block that is built from texts without any.
-/

namespace BeanGen.Java

/-! ## The text -/

/-- Four spaces for every level and then the text, unless that is empty. -/
def Line.spelled (base : Nat) (l : Line) : List Char :=
  if l.text = "" then [] else List.replicate (4 * (base + l.depth)) ' ' ++ l.text.toList

theorem toList_pushn_space (n : Nat) : ("".pushn ' ' n).toList = List.replicate n ' ' := by
  rw [String.pushn_eq_repeat_push]
  induction n with
  | zero => rfl
  | succ n ih => rw [Nat.repeat, String.toList_push, ih, List.replicate_succ']

theorem Line.toList_render (base : Nat) (l : Line) : (l.render base).toList = l.spelled base := by
  rw [Line.render, Line.spelled]
  by_cases hEmpty : l.text = ""
  · rw [if_pos (String.isEmpty_iff.mpr hEmpty), if_pos hEmpty]
    rfl
  · rw [if_neg (by simpa using hEmpty), if_neg hEmpty, String.toList_append, toList_pushn_space,
      indentWidth, Nat.mul_comm]

theorem Line.spelled_shift (n base : Nat) (l : Line) :
    (l.shift n).spelled base = l.spelled (base + n) := by
  rw [Line.spelled, Line.spelled, Line.shift, Nat.add_assoc]

namespace Block

variable {a b : Block}

theorem toList_render (b : Block) (base : Nat) :
    (b.render base).toList = b.lines.flatMap fun l => l.spelled base ++ ['\n'] := by
  rw [render, String.toList_join, List.flatMap_map]
  simp only [String.toList_append, Line.toList_render]
  rfl

/-- A block inside another is written as on its own, but starting from the depth of the other. -/
theorem render_extend (a b : Block) (base : Nat) :
    (a.extend b).render base = a.render base ++ b.render (base + a.depth) := by
  rw [← String.toList_inj, String.toList_append, toList_render, toList_render, toList_render,
    extend, List.flatMap_append, List.flatMap_map]
  simp only [Line.spelled_shift]

/-! ## The lines -/

/-- No line has a line break of its own. -/
def Unbroken (b : Block) : Prop :=
  ∀ l ∈ b.lines, '\n' ∉ l.text.toList

theorem newline_mem_spelled (base : Nat) (l : Line) :
    '\n' ∈ l.spelled base ↔ '\n' ∈ l.text.toList := by
  rw [Line.spelled]
  split
  · rename_i hEmpty
    rw [hEmpty]
    rfl
  · rw [List.mem_append, List.mem_replicate]
    exact or_iff_right fun h => absurd h.2 (by decide)

/-- Cut at its line breaks, the text gives the lines, and nothing behind the last break. -/
theorem segments_render_iff (b : Block) (base : Nat) :
    Text.segments (· == '\n') (b.render base).toList = b.lines.map (Line.spelled base) ++ [[]] ↔
      b.Unbroken := by
  rw [toList_render, ← List.flatMap_map (Line.spelled base) (· ++ ['\n']),
    Text.segments_flatMap_ended_eq_iff rfl, List.forall_mem_map]
  refine forall₂_congr fun l _ => ?_
  rw [← newline_mem_spelled base l]
  simp only [beq_eq_false_iff_ne, ne_eq]
  exact ⟨fun h hMem => h _ hMem rfl, fun h c hc hEq => h (hEq ▸ hc)⟩

end Block

/-! ## Blocks built step by step -/

inductive BlockEdit where
  | add (text : String)
  | addIndented (text : String)
  | append (text : String)
  | indent
  | outdent
  | extend (other : Block)

namespace BlockEdit

def apply (b : Block) : BlockEdit → Block
  | add text => b.add text
  | addIndented text => b.addIndented text
  | append text => b.append text
  | indent => b.indent
  | outdent => b.outdent
  | extend other => b.extend other

def Unbroken : BlockEdit → Prop
  | add text | addIndented text | append text => '\n' ∉ text.toList
  | indent | outdent => True
  | extend other => other.Unbroken

end BlockEdit

namespace Block

def edit (b : Block) (es : List BlockEdit) : Block :=
  es.foldl BlockEdit.apply b

namespace Unbroken

variable {a b : Block} {text : String}

theorem snoc (h : b.Unbroken) (depth : Nat) (hText : '\n' ∉ text.toList) :
    ∀ l ∈ b.lines ++ [⟨depth, text⟩], '\n' ∉ l.text.toList :=
  List.forall_mem_append.mpr ⟨h, List.forall_mem_singleton.mpr hText⟩

theorem append (h : b.Unbroken) (hText : '\n' ∉ text.toList) : (b.append text).Unbroken := by
  rw [Block.append]
  split
  · exact h.snoc b.depth hText
  · rename_i l hLast
    refine List.forall_mem_append.mpr ⟨fun m hm => h m (List.dropLast_subset b.lines hm), ?_⟩
    refine List.forall_mem_singleton.mpr ?_
    rw [String.toList_append, List.mem_append, not_or]
    exact ⟨h l (List.mem_of_getLast? hLast), hText⟩

theorem extend (ha : a.Unbroken) (hb : b.Unbroken) : (a.extend b).Unbroken :=
  List.forall_mem_append.mpr ⟨ha, List.forall_mem_map.mpr hb⟩

theorem apply (h : b.Unbroken) {e : BlockEdit} (he : e.Unbroken) : (e.apply b).Unbroken := by
  cases e with
  | add text => exact h.snoc b.depth he
  | addIndented text => exact h.snoc (b.depth + 1) he
  | append text => exact h.append he
  | indent | outdent => exact h
  | extend other => exact h.extend he

theorem edit (h : b.Unbroken) {es : List BlockEdit} (hes : ∀ e ∈ es, e.Unbroken) :
    (b.edit es).Unbroken := by
  induction es generalizing b with
  | nil => exact h
  | cons e es ih =>
    obtain ⟨he, hRest⟩ := List.forall_mem_cons.mp hes
    exact ih (h.apply he) hRest

end Unbroken

/-- A block inside another is written as on its own, with the depth of the other added to the base,
and the other stays as deep as it was. The text of a block, cut at its line breaks, gives its lines
in order, four spaces a level before each and none before an empty one, just if none of them has a
line break of its own, so always if it is built from texts without any. -/
theorem nests_and_falls_into_lines :
    (∀ (a b : Block) (base : Nat),
      (a.extend b).render base = a.render base ++ b.render (base + a.depth) ∧
        (a.extend b).depth = a.depth) ∧
    (∀ (b : Block) (base : Nat),
      Text.segments (· == '\n') (b.render base).toList = b.lines.map (Line.spelled base) ++ [[]] ↔
        b.Unbroken) ∧
    ∀ (es : List BlockEdit) (base : Nat), (∀ e ∈ es, e.Unbroken) →
      Text.segments (· == '\n') ((empty.edit es).render base).toList =
        (empty.edit es).lines.map (Line.spelled base) ++ [[]] := by
  refine ⟨fun a b base => ⟨render_extend a b base, rfl⟩, segments_render_iff, ?_⟩
  intro es base hes
  have hEmpty : empty.Unbroken := fun _ h => absurd h List.not_mem_nil
  exact (segments_render_iff _ base).mpr (hEmpty.edit hes)

/-- A loop with an empty line and a line that is continued in its body, and one level too many
taken back. -/
def loopSteps : List BlockEdit :=
  [.add "do", .extend ⟨[⟨1, "x();"⟩, ⟨0, ""⟩], 3⟩, .indent, .add "y(", .append ");", .outdent,
    .outdent, .add "while (z);"]

theorem nests_and_falls_into_lines_loop :
    (∀ e ∈ loopSteps, e.Unbroken) ∧
      Text.segments (· == '\n') ((empty.edit loopSteps).render 1).toList =
        ["    do".toList, "        x();".toList, [], "        y();".toList,
          "    while (z);".toList, []] := by
  have hSteps : ∀ e ∈ loopSteps, e.Unbroken := by
    simp [loopSteps, BlockEdit.Unbroken, Unbroken]
  refine ⟨hSteps, (nests_and_falls_into_lines.2.2 loopSteps 1 hSteps).trans ?_⟩
  decide

end Block

end BeanGen.Java
