import BeanGen.Schema.Codec
import Mathlib.Data.List.Forall2

/-!
# Models as documents

A document is decoded item by item. It gives the types of its items in order, or the error of the
first item that gives none; what stands behind that item does not matter. A value that is no array
counts as an array of one item.
-/

namespace BeanGen

namespace Json

section Each

variable {α : Type} {decode : Json → Decoded α} {v : Json} {items : List Json}

theorem each_cons_of_ok {x : α} (h : decode v = .ok x) :
    each decode (v :: items) = (each decode items).map (x :: ·) := by
  rw [each, h]
  cases each decode items <;> rfl

theorem each_cons_of_error {fault : DecodeFault} (h : decode v = .error fault) :
    each decode (v :: items) = .error fault := by
  rw [each, h]
  rfl

theorem each_eq_ok_iff {xs : List α} :
    each decode items = .ok xs ↔ List.Forall₂ (fun v x => decode v = .ok x) items xs := by
  induction items generalizing xs with
  | nil => cases xs <;> simp [each]
  | cons v items ih =>
    cases hHead : decode v with
    | error fault =>
      rw [each_cons_of_error hHead]
      cases xs <;> simp [hHead]
    | ok x =>
      rw [each_cons_of_ok hHead]
      cases xs with
      | nil => cases each decode items <;> simp [Except.map]
      | cons y ys =>
        rw [List.forall₂_cons, ← ih, hHead]
        cases each decode items <;> simp [Except.map]

theorem each_eq_error_iff {fault : DecodeFault} :
    each decode items = .error fault ↔ ∃ before v after, items = before ++ v :: after ∧
      (∀ w ∈ before, ∃ x, decode w = .ok x) ∧ decode v = .error fault := by
  constructor
  · intro hEach
    induction items with
    | nil => cases hEach
    | cons v items ih =>
      cases hHead : decode v with
      | error other =>
        rw [each_cons_of_error hHead] at hEach
        cases hEach
        exact ⟨[], v, items, rfl, by simp, hHead⟩
      | ok x =>
        rw [each_cons_of_ok hHead] at hEach
        cases hTail : each decode items with
        | ok xs => simp [hTail, Except.map] at hEach
        | error other =>
          rw [hTail] at hEach
          cases hEach
          obtain ⟨before, w, after, rfl, hBefore, hFault⟩ := ih hTail
          exact ⟨v :: before, w, after, rfl, List.forall_mem_cons.mpr ⟨⟨x, hHead⟩, hBefore⟩, hFault⟩
  · rintro ⟨before, v, after, rfl, hBefore, hFault⟩
    induction before with
    | nil => exact each_cons_of_error hFault
    | cons w before ih =>
      obtain ⟨⟨x, hHead⟩, hRest⟩ := List.forall_mem_cons.mp hBefore
      rw [List.cons_append, each_cons_of_ok hHead, ih hRest]
      rfl

end Each

end Json

/-- The types that the value of a document gives, or the error with which it is refused. -/
def modelOf (v : Json) : Except BindError (List BoundType) :=
  (decodeModel v).mapError fun fault => .serialization fault.message

theorem readModel_of_read {text : String} {v : Json} (h : Json.read text = .ok v) :
    readModel text = modelOf v := by
  rw [readModel, h]
  rfl

theorem decodeModel_of_not_array {v : Json} (h : ∀ items, v ≠ .arr items) :
    decodeModel v = decodeModel (.arr [v]) := by
  have hOne : decodeModel v = (BoundType.decode v).map ([·]) := by
    rw [decodeModel]
    exact h
  rw [hOne, decodeModel]
  cases hItem : BoundType.decode v with
  | ok t =>
    rw [Json.each_cons_of_ok hItem]
    rfl
  | error fault =>
    rw [Json.each_cons_of_error hItem]
    rfl

/-- What a text gives depends on its value alone. An array gives a list of types if and only if its
items give these one by one, and otherwise the error of the first item that gives no type; any other
value gives what it gives as the only item of an array. -/
theorem model_item_by_item :
    (∀ text v, Json.read text = .ok v → readModel text = modelOf v) ∧
    (∀ items ts, modelOf (.arr items) = .ok ts ↔
      List.Forall₂ (fun v t => BoundType.decode v = .ok t) items ts) ∧
    (∀ items e, modelOf (.arr items) = .error e ↔ ∃ before v after fault,
      items = before ++ v :: after ∧ (∀ w ∈ before, ∃ t, BoundType.decode w = .ok t) ∧
      BoundType.decode v = .error fault ∧ e = .serialization fault.message) ∧
    ∀ v, (∀ items, v ≠ .arr items) → modelOf v = modelOf (.arr [v]) := by
  refine ⟨fun _ _ => readModel_of_read, ?_, ?_, ?_⟩
  · intro items ts
    rw [← Json.each_eq_ok_iff, modelOf, decodeModel]
    cases Json.each BoundType.decode items <;> simp [Except.mapError]
  · intro items e
    rw [modelOf, decodeModel]
    constructor
    · intro hError
      cases hEach : Json.each BoundType.decode items with
      | ok ts => simp [hEach, Except.mapError] at hError
      | error fault =>
        rw [hEach] at hError
        cases hError
        obtain ⟨before, v, after, hItems, hBefore, hFault⟩ := Json.each_eq_error_iff.mp hEach
        exact ⟨before, v, after, fault, hItems, hBefore, hFault, rfl⟩
    · rintro ⟨before, v, after, fault, hItems, hBefore, hFault, rfl⟩
      rw [Json.each_eq_error_iff.mpr ⟨before, v, after, hItems, hBefore, hFault⟩]
      rfl
  · intro v h
    rw [modelOf, modelOf, decodeModel_of_not_array h]

/-- The items of an array that is no item itself are types, and not the fields of one type. -/
example : modelOf (.arr [.arr [.str "Order"]]) = .ok [.ofName "Order"] ∧
    modelOf (.arr [.str "Order"]) = .error (.serialization
      "invalid type: string \"Order\", expected struct TypeModel") :=
  ⟨rfl, by decide +kernel⟩

end BeanGen
