import BeanGen.Text.Basic
import Mathlib.Data.List.Sort
import Mathlib.Data.String.Basic
import Mathlib.Tactic.SplitIfs

/-!
# Members and entries of ascending lists

Insertion keeps an ascending list ascending and adds one member, so an ascending list depends only
on what its members are. Its order is also that of the bytes that write its members. A table answers
for the key that was inserted last with the value that came with it, and for every other key as
before; this holds of any table, ascending or not.
-/

namespace BeanGen.Text

theorem mem_insertAscending {s n : String} {xs : List String} :
    n ∈ insertAscending s xs ↔ n = s ∨ n ∈ xs := by
  induction xs with
  | nil => simp [insertAscending]
  | cons x xs ih =>
    rw [insertAscending]
    split
    · exact List.mem_cons
    · split
      · rename_i hEq
        subst hEq
        simp
      · rw [List.mem_cons, ih, List.mem_cons]
        exact or_left_comm

theorem mem_ascending {n : String} {xs : List String} : n ∈ ascending xs ↔ n ∈ xs := by
  induction xs with
  | nil => rfl
  | cons x xs ih =>
    rw [List.mem_cons, ← ih]
    exact mem_insertAscending

theorem insertAscending_pairwise {s : String} {xs : List String} (h : xs.Pairwise (· < ·)) :
    (insertAscending s xs).Pairwise (· < ·) := by
  induction xs with
  | nil => simp [insertAscending]
  | cons x xs ih =>
    obtain ⟨hHead, hTail⟩ := List.pairwise_cons.mp h
    rw [insertAscending]
    split
    · rename_i hLess
      refine List.pairwise_cons.mpr ⟨?_, h⟩
      intro y hy
      rcases List.mem_cons.mp hy with rfl | hy
      · exact hLess
      · exact lt_trans hLess (hHead y hy)
    · rename_i hLess
      split
      · exact h
      · rename_i hNe
        refine List.pairwise_cons.mpr ⟨?_, ih hTail⟩
        intro y hy
        rcases mem_insertAscending.mp hy with rfl | hy
        · exact lt_of_le_of_ne (not_lt.mp hLess) (Ne.symm hNe)
        · exact hHead y hy

theorem ascending_pairwise (xs : List String) : (ascending xs).Pairwise (· < ·) := by
  induction xs with
  | nil => exact .nil
  | cons x xs ih => exact insertAscending_pairwise ih

theorem ascending_eq_of_mem_iff {xs ys : List String} (h : ∀ n, n ∈ xs ↔ n ∈ ys) :
    ascending xs = ascending ys :=
  (ascending_pairwise xs).eq_of_mem_iff (ascending_pairwise ys)
    fun n => by rw [mem_ascending, mem_ascending, h]

theorem insertAscending_comm (s t : String) (xs : List String) :
    insertAscending s (insertAscending t xs) = insertAscending t (insertAscending s xs) := by
  induction xs with
  | nil => grind [insertAscending]
  | cons x xs ih => grind [insertAscending]

/-! ## The order of bytes -/

/-- The bytes of a text in UTF-8. -/
def bytes (s : String) : List UInt8 :=
  s.toUTF8.data.toList

theorem bytes_eq (s : String) : bytes s = s.toList.flatMap String.utf8EncodeChar := by
  rw [bytes, String.toUTF8_eq_toByteArray, ← String.utf8Encode_toList]
  exact List.toList_data_toByteArray

/-- The lesser of two characters has the lesser bytes, whatever stands behind them. -/
theorem utf8EncodeChar_append_lt {c d : Char} (h : c < d) (as bs : List UInt8) :
    String.utf8EncodeChar c ++ as < String.utf8EncodeChar d ++ bs := by
  have hLess : c.val.toNat < d.val.toNat := h
  have hBound : d.val.toNat < 0x110000 := by
    have hValid := d.valid
    simp only [UInt32.isValidChar, Nat.isValidChar] at hValid
    omega
  rw [String.utf8EncodeChar, String.utf8EncodeChar]
  generalize c.val.toNat = m at hLess ⊢
  generalize d.val.toNat = n at hLess hBound ⊢
  -- one case for each two lengths: the first bytes tell lengths apart, all bytes two of one length
  split_ifs
  all_goals
    simp only [List.cons_append, List.nil_append, List.cons_lt_cons_iff, UInt8.lt_iff_toNat_lt,
      ← UInt8.toNat_inj]
    simp (disch := omega) only [UInt8.toNat_ofNat', Nat.mod_eq_of_lt]
    omega

theorem bytes_lt {s t : String} (h : s < t) : bytes s < bytes t := by
  rw [bytes_eq, bytes_eq]
  have hLex : List.Lex (· < ·) s.toList t.toList := String.lt_iff_toList_lt.mp h
  generalize s.toList = cs at hLex ⊢
  generalize t.toList = ds at hLex ⊢
  induction hLex with
  | @nil d ds =>
    obtain ⟨b, bs, hBytes⟩ := List.exists_cons_of_ne_nil (String.utf8EncodeChar_ne_nil (c := d))
    rw [List.flatMap_nil, List.flatMap_cons, hBytes, List.cons_append]
    exact List.nil_lt_cons _ _
  | cons _ ih =>
    rw [List.flatMap_cons, List.flatMap_cons]
    exact List.append_left_lt ih
  | rel hLess =>
    rw [List.flatMap_cons, List.flatMap_cons]
    exact utf8EncodeChar_append_lt hLess _ _

theorem ascending_bytes_pairwise (xs : List String) :
    (ascending xs).Pairwise fun s t => bytes s < bytes t :=
  (ascending_pairwise xs).imp bytes_lt

/-! ## Tables -/

theorem keys_insertEntry {α : Type} (key : String) (value : α) (table : List (String × α)) :
    (insertEntry key value table).map (·.1) = insertAscending key (table.map (·.1)) := by
  induction table with
  | nil => rfl
  | cons entry table ih =>
    obtain ⟨k, v⟩ := entry
    rw [insertEntry, List.map_cons, insertAscending]
    split
    · rfl
    · split
      · rename_i hEq
        subst hEq
        rfl
      · rw [List.map_cons, ih]

theorem lookup_cons_entry {κ α : Type} [BEq κ] [LawfulBEq κ] [DecidableEq κ] (k : κ) (v : α)
    (table : List (κ × α)) (n : κ) :
    ((k, v) :: table).lookup n = if n = k then some v else table.lookup n := by
  rw [List.lookup_cons]
  by_cases hKey : n = k
  · simp [hKey]
  · simp [hKey, beq_eq_false_iff_ne.mpr hKey]

theorem lookup_insertEntry {α : Type} (key : String) (value : α) (table : List (String × α))
    (n : String) :
    (insertEntry key value table).lookup n = if n = key then some value else table.lookup n := by
  induction table with
  | nil => exact lookup_cons_entry key value [] n
  | cons entry table ih =>
    obtain ⟨k, v⟩ := entry
    rw [insertEntry]
    split
    · exact lookup_cons_entry key value _ n
    · split
      · rename_i hEq
        subst hEq
        rw [lookup_cons_entry, lookup_cons_entry]
        by_cases hKey : n = key <;> simp [hKey]
      · rename_i hNe
        rw [lookup_cons_entry, lookup_cons_entry, ih]
        by_cases hHead : n = k
        · subst hHead
          simp [Ne.symm hNe]
        · simp [hHead]

/-- Entries with different keys may be inserted in either order. -/
theorem insertEntry_comm {α : Type} {key other : String} (h : key ≠ other) (value next : α)
    (table : List (String × α)) :
    insertEntry key value (insertEntry other next table) =
      insertEntry other next (insertEntry key value table) := by
  induction table with
  | nil => grind [insertEntry]
  | cons entry table ih => grind [insertEntry]

end BeanGen.Text
