import BeanGen.Java.Block
import BeanGen.Proofs.Text.Affix
import Mathlib.Data.List.Forall2

/-!
# Patterns of lines

Generated lines are put together of fixed texts and of names, so all that is known of one may be
how it starts or how it ends. A list of patterns says this of lines one after the other. It is
fixed, and what it rules out is decided once for all lines that follow it.
-/

namespace BeanGen.Text

open Java

/-- What is known of a text. -/
inductive Pattern where
  | exactly (text : String)
  | starting (head : String)
  | ending (tail : String)
  deriving DecidableEq, Repr, Inhabited

namespace Pattern

def Fits : Pattern → String → Prop
  | exactly text, x => x = text
  | starting head, x => StartsWith head x
  | ending tail, x => EndsWith tail x

instance : (p : Pattern) → (x : String) → Decidable (p.Fits x)
  | exactly text, x => inferInstanceAs (Decidable (x = text))
  | starting head, x => inferInstanceAs (Decidable (StartsWith head x))
  | ending tail, x => inferInstanceAs (Decidable (EndsWith tail x))

/-- No text of the pattern has both that start and that end. -/
def Avoids (head tail : String) : Pattern → Prop
  | exactly text => ¬ (StartsWith head text ∧ EndsWith tail text)
  | starting start => PartAtStart head start
  | ending rest => PartAtEnd tail rest

instance (head tail : String) : (p : Pattern) → Decidable (p.Avoids head tail)
  | exactly text => inferInstanceAs (Decidable (¬ (StartsWith head text ∧ EndsWith tail text)))
  | starting start => inferInstanceAs (Decidable (PartAtStart head start))
  | ending rest => inferInstanceAs (Decidable (PartAtEnd tail rest))

section Text

variable {head tail text x : String} {p : Pattern}

theorem fits_starting : (starting head).Fits (head ++ x) :=
  startsWith_self_append head x

theorem fits_ending : (ending tail).Fits (x ++ tail) :=
  endsWith_append_self x tail

theorem Avoids.not_fits (hAvoids : p.Avoids head tail) (hStarts : StartsWith head x)
    (hEnds : EndsWith tail x) : ¬ p.Fits x := by
  intro hFits
  cases p with
  | exactly text => exact hAvoids (hFits ▸ ⟨hStarts, hEnds⟩)
  | starting start =>
    rcases List.prefix_or_prefix_of_prefix hStarts hFits with hLong | hShort
    · exact hAvoids.left hLong
    · exact hAvoids.right hShort
  | ending rest =>
    rcases List.suffix_or_suffix_of_suffix hEnds hFits with hLong | hShort
    · exact hAvoids.left hLong
    · exact hAvoids.right hShort

end Text

end Pattern

/-- The lines fit the patterns, one by one and at any depth. -/
def Follow (ls : List Line) (ps : List Pattern) : Prop :=
  List.Forall₂ (fun l p => p.Fits l.text) ls ps

namespace Follow

variable {ls ms : List Line} {ps qs : List Pattern} {mark : String}

theorem append (h : Follow ls ps) (hRest : Follow ms qs) : Follow (ls ++ ms) (ps ++ qs) :=
  List.rel_append h hRest

theorem ite {b : Bool} (h : Follow ls ps) :
    Follow (if b then ls else []) (if b then ps else []) := by
  cases b with
  | true => exact h
  | false => exact .nil

theorem nested (h : Follow ls ps) : Follow (nested ls) ps :=
  List.forall₂_map_left_iff.mpr h

theorem exists_fits {l : Line} (h : Follow ls ps) (hMem : l ∈ ls) : ∃ p ∈ ps, p.Fits l.text := by
  induction h with
  | nil => cases hMem
  | cons hFits _ ih =>
    rcases List.mem_cons.mp hMem with rfl | hRest
    · exact ⟨_, List.mem_cons_self, hFits⟩
    · obtain ⟨p, hPattern, hFits⟩ := ih hRest
      exact ⟨p, List.mem_cons_of_mem _ hPattern, hFits⟩

/-- A text that fits no pattern but its own is there as often as that one. -/
theorem count_text (h : Follow ls ps) (hMark : ∀ p ∈ ps, p.Fits mark → p = .exactly mark) :
    (ls.map (·.text)).count mark = ps.count (.exactly mark) := by
  induction h with
  | nil => rfl
  | @cons l p ls ps hFits _ ih =>
    obtain ⟨hFirst, hRest⟩ := List.forall_mem_cons.mp hMark
    have hSame : l.text = mark ↔ p = .exactly mark := by
      constructor
      · intro hText
        exact hFirst (hText ▸ hFits)
      · rintro rfl
        exact hFits
    rw [List.map_cons, List.count_cons, List.count_cons, ih hRest]
    simp only [beq_iff_eq, hSame]

theorem exists_append (h : Follow ls (ps ++ qs)) :
    ∃ ks ns, ls = ks ++ ns ∧ Follow ks ps ∧ Follow ns qs :=
  ⟨ls.take ps.length, ls.drop ps.length, (List.take_append_drop _ _).symm,
    List.forall₂_take_append ls ps qs h, List.forall₂_drop_append ls ps qs h⟩

theorem map_text_eq {marks : List String} (h : Follow ls (marks.map .exactly)) :
    ls.map (·.text) = marks := by
  induction marks generalizing ls with
  | nil =>
    cases h
    rfl
  | cons mark marks ih =>
    cases h with
    | cons hFits hRest => rw [List.map_cons, ih hRest, show _ = mark from hFits]

theorem infix_text {marks : List String} (h : Follow ls ps)
    (hInfix : marks.map .exactly <:+: ps) : marks <:+: ls.map (·.text) := by
  obtain ⟨before, after, rfl⟩ := hInfix
  obtain ⟨ks, ns, rfl, hFirst, -⟩ := h.exists_append
  obtain ⟨js, ms, rfl, -, hMarks⟩ := hFirst.exists_append
  rw [List.map_append, List.map_append, hMarks.map_text_eq]
  exact List.infix_append _ _ _

end Follow

end BeanGen.Text
