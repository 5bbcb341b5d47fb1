import BeanGen.Json.Decode

/-!
# Decoding what was written

A list of written values decodes item by item. A record decodes from any part of its members that
has the required ones; each member that is kept is put into the record, the others are passed over.
-/

namespace BeanGen.Json

section Values

variable {α : Type} {decode : Json → Decoded α}

theorem each_map {write : α → Json} {xs : List α} (h : ∀ x ∈ xs, decode (write x) = .ok x) :
    each decode (xs.map write) = .ok xs := by
  induction xs with
  | nil => rfl
  | cons x xs ih =>
    obtain ⟨hHead, hTail⟩ := List.forall_mem_cons.mp h
    rw [List.map_cons, each, hHead, ih hTail]
    rfl

theorem each_mapIdx {β : Type} {write : β → Json} {change : Nat → Json → Json}
    {result : Nat → β → α} {xs : List β}
    (h : ∀ x ∈ xs, ∀ i, decode (change i (write x)) = .ok (result i x)) :
    each decode ((xs.map write).mapIdx change) = .ok (xs.mapIdx result) := by
  induction xs generalizing change result with
  | nil => rfl
  | cons x xs ih =>
    obtain ⟨hHead, hTail⟩ := List.forall_mem_cons.mp h
    rw [List.map_cons, List.mapIdx_cons, List.mapIdx_cons, each, hHead 0,
      ih fun y hy i => hTail y hy (i + 1)]
    rfl

theorem optional_ofText? (text? : Option String) :
    optional text (ofText? text?) = .ok text? := by
  cases text? <;> rfl

end Values

namespace RecordShape

variable {α : Type} {shape : RecordShape α}

/-- `filled given` stands for a record into which the members with given keys have been put. Putting
in those that are kept adds their keys. -/
theorem putAll_filter {members : List (String × Json)} {filled : (String → Bool) → α}
    (hPut : ∀ m ∈ members, ∀ given,
      shape.put m.1 m.2 (filled given) = .ok (filled fun k => k == m.1 || given k))
    (kept given : String → Bool) :
    shape.putAll (members.filter (kept ·.1)) (filled given) =
      .ok (filled fun k => members.any (·.1 == k) && kept k || given k) := by
  induction members generalizing given with
  | nil => rfl
  | cons m members ih =>
    obtain ⟨hHead, hTail⟩ := List.forall_mem_cons.mp hPut
    have hGiven : (fun k => members.any (·.1 == k) && kept k || (k == m.1 && kept m.1 || given k)) =
        fun k => (m :: members).any (·.1 == k) && kept k || given k := by
      funext k
      rw [List.any_cons, Bool.beq_comm]
      cases hKey : m.1 == k with
      | true =>
        rw [← beq_iff_eq.mp hKey]
        cases kept m.1 <;> simp
      | false => simp
    rw [List.filter_cons, ← hGiven]
    cases kept m.1 with
    | true =>
      have hRest := ih hTail fun k => k == m.1 || given k
      rw [if_pos rfl, putAll, hHead]
      simpa [bind, Except.bind] using hRest
    | false => simpa using ih hTail given

theorem firstMissing?_filter {kept : String → Bool} {members : List (String × Json)}
    (hAll : shape.firstMissing? members = none)
    (hKept : ∀ k ∈ shape.keys.take shape.required, kept k = true) :
    shape.firstMissing? (members.filter (kept ·.1)) = none := by
  rw [firstMissing?, List.find?_eq_none] at hAll ⊢
  intro k hk
  have hThere := hAll k hk
  simp only [Bool.not_eq_true', Bool.not_eq_false, List.any_eq_true, beq_iff_eq] at hThere ⊢
  obtain ⟨m, hm, rfl⟩ := hThere
  exact ⟨m, List.mem_filter.mpr ⟨hm, hKept m.1 hk⟩, rfl⟩

theorem ofMembers_eq_ok {members : List (String × Json)} {r : α}
    (hPut : shape.putAll members shape.blank = .ok r) (hAll : shape.firstMissing? members = none) :
    shape.ofMembers members = .ok r := by
  rw [ofMembers, hPut]
  simp only [bind, Except.bind, hAll, pure, Except.pure]

end RecordShape

end BeanGen.Json
