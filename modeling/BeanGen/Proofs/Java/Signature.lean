import BeanGen.Java.Member

/-!
# Reading a signature back

A signature is one text. Where no name has a bracket in it, the text determines the name and the
written parameter types, up to the place of commas inside a type.
-/

namespace BeanGen.Java

def signatureText (name : String) (types : List String) : String :=
  name ++ "(" ++ String.intercalate "," types ++ ")"

theorem MethodDecl.signature_eq (m : MethodDecl) :
    m.signature = signatureText m.name (m.parameters.map (·.type)) :=
  rfl

/-- The text can be a name: there is no bracket in it. -/
def Unbracketed (name : String) : Prop :=
  '(' ∉ name.toList

instance (name : String) : Decidable (Unbracketed name) :=
  inferInstanceAs (Decidable ('(' ∉ name.toList))

theorem unbracketed_append {a b : String} : Unbracketed (a ++ b) ↔ Unbracketed a ∧ Unbracketed b := by
  simp [Unbracketed]

theorem append_cons_cancel {α : Type} {c : α} {as bs xs ys : List α} (hA : c ∉ as) (hB : c ∉ bs)
    (h : as ++ c :: xs = bs ++ c :: ys) : as = bs ∧ xs = ys := by
  induction as generalizing bs with
  | nil =>
    cases bs with
    | nil => exact ⟨rfl, List.tail_eq_of_cons_eq h⟩
    | cons b bs => exact absurd (List.head_eq_of_cons_eq h ▸ List.mem_cons_self) hB
  | cons a as ih =>
    cases bs with
    | nil => exact absurd (List.head_eq_of_cons_eq h ▸ List.mem_cons_self) hA
    | cons b bs =>
      obtain ⟨rfl, hRest⟩ := List.cons_eq_cons.mp h
      obtain ⟨rfl, rfl⟩ := ih (List.not_mem_of_not_mem_cons hA) (List.not_mem_of_not_mem_cons hB) hRest
      exact ⟨rfl, rfl⟩

theorem signatureText_eq_iff {name other : String} {types others : List String}
    (hName : Unbracketed name) (hOther : Unbracketed other) :
    signatureText name types = signatureText other others ↔
      name = other ∧ String.intercalate "," types = String.intercalate "," others := by
  constructor
  · intro hEq
    have hChars := congrArg String.toList hEq
    simp only [signatureText, String.toList_append, List.append_assoc] at hChars
    obtain ⟨hNames, hTypes⟩ := append_cons_cancel hName hOther hChars
    exact ⟨String.toList_inj.mp hNames, String.toList_inj.mp (List.append_cancel_right hTypes)⟩
  · rintro ⟨rfl, hTypes⟩
    rw [signatureText, signatureText, hTypes]

end BeanGen.Java
