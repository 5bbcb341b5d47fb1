import BeanGen.Json.Printer
import BeanGen.Json.Reader
import Mathlib.Data.List.Basic

/-!
# Reading what was printed

The reader takes just the characters the printer wrote for a value, whatever follows, and gives the
value back with the members of its objects in ascending order. The printer may write members in any
order, so `ascending` says which value a text holds.
-/

namespace BeanGen.Json

/-- The value opens at most `depth` levels, and its numbers are integers of 64 bits. -/
def fits : Nat → Json → Bool
  | _, .null => true
  | _, .bool _ => true
  | _, .int n => -Int.pow 2 63 ≤ n && n < Int.pow 2 64
  | _, .float _ => false
  | _, .str _ => true
  | 0, .arr _ => false
  | 0, .obj _ => false
  | depth + 1, .arr items => items.all (fits depth)
  | depth + 1, .obj members => members.all (fits depth ·.2)

mutual

/-- The value with the members of every object in ascending order of their keys. -/
def ascending : Json → Json
  | .arr items => .arr (ascendingItems items)
  | .obj members => ofMembers (ascendingMembers members)
  | v => v

def ascendingItems : List Json → List Json
  | [] => []
  | v :: rest => ascending v :: ascendingItems rest

def ascendingMembers : List (String × Json) → List (String × Json)
  | [] => []
  | (k, v) :: rest => (k, ascending v) :: ascendingMembers rest

end

theorem ascendingItems_eq_map (items : List Json) : ascendingItems items = items.map ascending := by
  induction items with
  | nil => rfl
  | cons v items ih => rw [ascendingItems, ih, List.map_cons]

theorem ascendingMembers_eq_map (members : List (String × Json)) :
    ascendingMembers members = members.map fun m => (m.1, m.2.ascending) := by
  induction members with
  | nil => rfl
  | cons m members ih => rw [ascendingMembers, ih, List.map_cons]

theorem insertEntry_append {key : String} {v : Json} {table : List (String × Json)}
    (h : ∀ m ∈ table, m.1 < key) : Text.insertEntry key v table = table ++ [(key, v)] := by
  induction table with
  | nil => rfl
  | cons m table ih =>
    obtain ⟨hHead, hTail⟩ := List.forall_mem_cons.mp h
    have hNotLess : ¬key < m.1 := String.lt_asymm hHead
    have hNe : key ≠ m.1 := fun hEq => String.lt_irrefl _ (hEq ▸ hHead)
    rw [Text.insertEntry, if_neg hNotLess, if_neg hNe, ih hTail, List.cons_append]

/-- Members in ascending order are kept as they stand. -/
theorem foldl_insertEntry {members : List (String × Json)} (table : List (String × Json))
    (h : ((table ++ members).map (·.1)).Pairwise (· < ·)) :
    members.foldl (fun acc m => Text.insertEntry m.1 m.2 acc) table = table ++ members := by
  induction members generalizing table with
  | nil => rw [List.append_nil, List.foldl_nil]
  | cons m members ih =>
    have hLess : ∀ n ∈ table, n.1 < m.1 := by
      rw [List.map_append, List.pairwise_append] at h
      exact fun n hn => h.2.2 n.1 (List.mem_map_of_mem hn) m.1 List.mem_cons_self
    rw [List.foldl_cons, insertEntry_append hLess, ih _ (by simpa using h)]
    simp

theorem ascending_obj {members : List (String × Json)}
    (hKeys : (members.map (·.1)).Pairwise (· < ·)) (hValues : ∀ m ∈ members, m.2.ascending = m.2) :
    (obj members).ascending = obj members := by
  have hSame : members.map (fun m => (m.1, m.2.ascending)) = members := by
    refine (List.map_congr_left fun m hm => ?_).trans (List.map_id members)
    rw [hValues m hm, id]
  rw [ascending, ascendingMembers_eq_map, hSame, ofMembers, foldl_insertEntry [] hKeys,
    List.nil_append]

/-! ## Strings -/

theorem hexValue?_digitChar : ∀ n < 16, hexValue? (Nat.digitChar n) = some n := by
  decide

theorem stringRest_hex4 {n : Nat} (h : n < 0x20) (cs : List Char) :
    stringRest ('\\' :: 'u' :: (hex4 n ++ cs)) = consChar (Char.ofNat n) (stringRest cs) := by
  have hDigits : hex4? '0' '0' (Nat.digitChar (n / 16 % 16)) (Nat.digitChar (n % 16)) = some n := by
    simp only [hex4?, hexValue?_digitChar _ (Nat.mod_lt _ (by decide : 0 < 16)),
      show hexValue? '0' = some 0 by decide, Option.bind_eq_bind, Option.bind_some, pure,
      Option.some.injEq]
    omega
  simp only [hex4, List.cons_append, List.nil_append]
  rw [stringRest, hDigits]
  have hLow : (0xDC00 ≤ n && n ≤ 0xDFFF) = false := by simp; omega
  have hHigh : (0xD800 ≤ n && n ≤ 0xDBFF) = false := by simp; omega
  simp [hLow, hHigh]

theorem stringRest_escaped {c e : Char} (hNotHex : c ≠ 'u') (hEscape : simpleEscape? c = some e)
    (cs : List Char) : stringRest ('\\' :: c :: cs) = consChar e (stringRest cs) := by
  rw [stringRest]
  · rw [hEscape]
  · intro _ _ _ _ _ hHex
    exact absurd hHex hNotHex

theorem stringRest_plain {c : Char} (hQuote : c ≠ '"') (hSlash : c ≠ '\\')
    (hPrintable : ¬c.toNat < 0x20) (cs : List Char) :
    stringRest (c :: cs) = consChar c (stringRest cs) := by
  rw [stringRest, if_neg hPrintable]
  · exact hQuote
  · exact fun _ _ _ _ _ hSlashed _ => hSlash hSlashed
  · exact fun _ _ hSlashed _ => hSlash hSlashed

/-- A character is written by a short escape, by its code, or as it is. -/
theorem printedChar_cases (c : Char) :
    (∃ e, e ≠ 'u' ∧ simpleEscape? e = some c ∧ printedChar c = ['\\', e]) ∨
    (c.toNat < 0x20 ∧ printedChar c = '\\' :: 'u' :: hex4 c.toNat) ∨
    (c ≠ '"' ∧ c ≠ '\\' ∧ ¬c.toNat < 0x20 ∧ printedChar c = [c]) := by
  rw [printedChar]
  split_ifs with hQuote hSlash hBack hFeed hLine hReturn hTab hControl
  · exact .inl ⟨'"', by decide, by rw [hQuote]; rfl, rfl⟩
  · exact .inl ⟨'\\', by decide, by rw [hSlash]; rfl, rfl⟩
  · exact .inl ⟨'b', by decide, by rw [hBack]; rfl, rfl⟩
  · exact .inl ⟨'f', by decide, by rw [hFeed]; rfl, rfl⟩
  · exact .inl ⟨'n', by decide, by rw [hLine]; rfl, rfl⟩
  · exact .inl ⟨'r', by decide, by rw [hReturn]; rfl, rfl⟩
  · exact .inl ⟨'t', by decide, by rw [hTab]; rfl, rfl⟩
  · exact .inr (.inl ⟨hControl, rfl⟩)
  · exact .inr (.inr ⟨hQuote, hSlash, hControl, rfl⟩)

theorem stringRest_printedChar (c : Char) (cs : List Char) :
    stringRest (printedChar c ++ cs) = consChar c (stringRest cs) := by
  rcases printedChar_cases c with
    ⟨e, hNotHex, hEscape, hPrinted⟩ | ⟨hControl, hPrinted⟩ | ⟨hQuote, hSlash, hPrintable, hPrinted⟩
  · rw [hPrinted]
    exact stringRest_escaped hNotHex hEscape cs
  · rw [hPrinted, List.cons_append, List.cons_append, stringRest_hex4 hControl,
      Char.ofNat_toNat]
  · rw [hPrinted]
    exact stringRest_plain hQuote hSlash hPrintable cs

theorem stringRest_printed (cs rest : List Char) :
    stringRest (cs.flatMap printedChar ++ '"' :: rest) = .ok (cs, rest) := by
  induction cs with
  | nil => rfl
  | cons c cs ih =>
    rw [List.flatMap_cons, List.append_assoc, stringRest_printedChar, ih]
    rfl

/-! ## Numbers -/

/-- No character that would go on with a number stands at the front. -/
def endsNumber : List Char → Bool
  | [] => true
  | c :: _ => !(c.isDigit || c == '.' || c == 'e' || c == 'E')

theorem endsNumber_cons_iff {c : Char} {cs : List Char} :
    endsNumber (c :: cs) = true ↔ c.isDigit = false ∧ c ≠ '.' ∧ c ≠ 'e' ∧ c ≠ 'E' := by
  simp [endsNumber, and_assoc]

theorem head_digitChar_ne_zero : ∀ n < 10, 0 < n → [Nat.digitChar n].head? ≠ some '0' := by
  decide

theorem head_toDigits_ne_zero {n : Nat} (h : 0 < n) : (Nat.toDigits 10 n).head? ≠ some '0' := by
  induction n using Nat.strongRecOn with
  | ind n ih =>
    rcases Nat.lt_or_ge n 10 with hSmall | hLarge
    · rw [Nat.toDigits_of_lt_base hSmall]
      exact head_digitChar_ne_zero n hSmall h
    · have hFirst := ih (n / 10) (by omega) (by omega)
      rw [Nat.toDigits_of_base_le (by decide) hLarge,
        List.head?_append_of_ne_nil _ Nat.toDigits_ne_nil]
      exact hFirst

theorem takeDigits_append {ds : List Char} (hDigits : ∀ c ∈ ds, c.isDigit = true)
    {rest : List Char} (hEnd : endsNumber rest = true) : takeDigits (ds ++ rest) = (ds, rest) := by
  have hStop : ∀ c ∈ rest.head?, c.isDigit = false := by
    intro c hc
    cases rest with
    | nil => cases hc
    | cons d rest =>
      cases hc
      exact (endsNumber_cons_iff.mp hEnd).1
  rw [takeDigits, List.takeWhile_append_of_pos hDigits, List.dropWhile_append_of_pos hDigits]
  cases rest with
  | nil => simp
  | cons c rest => simp [hStop c rfl]

theorem digits_append {ds : List Char} (hDigits : ∀ c ∈ ds, c.isDigit = true) (hSome : ds ≠ [])
    {rest : List Char} (hEnd : endsNumber rest = true) : digits (ds ++ rest) = .ok (ds, rest) := by
  rw [digits, takeDigits_append hDigits hEnd]
  cases ds with
  | nil => exact absurd rfl hSome
  | cons d ds => rfl

theorem wholeDigits_toDigits (n : Nat) {rest : List Char} (hEnd : endsNumber rest = true) :
    wholeDigits (Nat.toDigits 10 n ++ rest) = .ok (Nat.toDigits 10 n, rest) := by
  have hDigits : ∀ c ∈ Nat.toDigits 10 n, c.isDigit = true := fun c =>
    Nat.isDigit_of_mem_toDigits (by decide) (by decide)
  rcases Nat.eq_zero_or_pos n with rfl | hPos
  · rw [Nat.toDigits_zero]
    cases rest with
    | nil => rfl
    | cons c rest =>
      simp [wholeDigits, (endsNumber_cons_iff.mp hEnd).1]
  · have hHead := head_toDigits_ne_zero hPos
    rw [← digits_append hDigits Nat.toDigits_ne_nil hEnd]
    cases hAll : Nat.toDigits 10 n with
    | nil => exact absurd hAll Nat.toDigits_ne_nil
    | cons d ds =>
      rw [hAll] at hHead
      rw [List.cons_append, wholeDigits]
      intro _ _ hZero
      exact absurd (congrArg List.head? hZero) hHead

theorem fraction?_of_endsNumber {rest : List Char} (hEnd : endsNumber rest = true) :
    fraction? rest = .ok (none, rest) := by
  cases rest with
  | nil => rfl
  | cons c rest =>
    have hPoint := (endsNumber_cons_iff.mp hEnd).2.1
    rw [fraction?]
    intro _ hEq
    exact hPoint (List.cons_eq_cons.mp hEq).1

theorem exponent?_of_endsNumber {rest : List Char} (hEnd : endsNumber rest = true) :
    exponent? rest = .ok (none, rest) := by
  cases rest with
  | nil => rfl
  | cons c rest =>
    obtain ⟨-, -, hSmall, hCapital⟩ := endsNumber_cons_iff.mp hEnd
    simp [exponent?, hSmall, hCapital]

theorem natOfDigits_toDigits (n : Nat) : natOfDigits (Nat.toDigits 10 n) = n := by
  have hDigits : natOfDigits (Nat.toDigits 10 n) = Nat.ofDigitChars 10 (Nat.toDigits 10 n) 0 := rfl
  rw [hDigits, Nat.ofDigitChars_ten_toDigits]

theorem le_foldl_digitValue (ds : List Char) (n : Nat) :
    n ≤ ds.foldl (fun n c => 10 * n + digitValue c) n := by
  induction ds generalizing n with
  | nil => exact Nat.le_refl n
  | cons d ds ih =>
    have hNext := ih (10 * n + digitValue d)
    rw [List.foldl_cons]
    omega

theorem absorb_eq {ds : List Char} {n : Nat}
    (h : ds.foldl (fun n c => 10 * n + digitValue c) n < Nat.pow 2 64) :
    absorb n ds = (ds.foldl (fun n c => 10 * n + digitValue c) n, []) := by
  induction ds generalizing n with
  | nil => rfl
  | cons d ds ih =>
    have hFits : 10 * n + digitValue d < Nat.pow 2 64 :=
      Nat.lt_of_le_of_lt (le_foldl_digitValue ds _) h
    rw [absorb]
    simp only [hFits, if_true]
    exact ih h

theorem number_toDigits (negative : Bool) {n : Nat} (h : n < Nat.pow 2 64) {rest : List Char}
    (hEnd : endsNumber rest = true) :
    number negative (Nat.toDigits 10 n ++ rest) = .ok (wholeNumber negative n, rest) := by
  have hValue : absorb 0 (Nat.toDigits 10 n) = (n, []) := by
    have hSame := natOfDigits_toDigits n
    rw [natOfDigits] at hSame
    rw [absorb_eq (by rw [hSame]; exact h), hSame]
  simp only [number, numeral, bind, Except.bind, wholeDigits_toDigits n hEnd,
    fraction?_of_endsNumber hEnd, exponent?_of_endsNumber hEnd, pure, Except.pure, Numeral.value?,
    hValue]
  rfl

theorem isGap_of_isDigit {c : Char} (h : c.isDigit = true) : isGap c = false := by
  rw [← Bool.not_eq_true]
  intro hGap
  simp only [isGap, Bool.or_eq_true, beq_iff_eq] at hGap
  rcases hGap with ((rfl | rfl) | rfl) | rfl <;> exact absurd h (by decide)

theorem skipGap_cons {c : Char} (h : isGap c = false) (cs : List Char) :
    skipGap (c :: cs) = c :: cs := by
  rw [skipGap, List.dropWhile_cons_of_neg (by simp [h])]

theorem value_of_isDigit (depth : Nat) {c : Char} (h : c.isDigit = true) (cs : List Char) :
    value depth (c :: cs) = number false (c :: cs) := by
  rw [value.eq_def]
  dsimp only
  rw [skipGap_cons (isGap_of_isDigit h)]
  split
  all_goals simp_all

theorem value_minus (depth : Nat) (cs : List Char) : value depth ('-' :: cs) = number true cs := by
  rw [value.eq_def]
  rfl

theorem toList_toString_ofNat (n : Nat) : (toString (Int.ofNat n)).toList = Nat.toDigits 10 n := by
  rw [show toString (Int.ofNat n) = Nat.repr n from rfl, Nat.repr_eq_ofList_toDigits,
    String.toList_ofList]

theorem toList_toString_negSucc (n : Nat) :
    (toString (Int.negSucc n)).toList = '-' :: Nat.toDigits 10 (n + 1) := by
  rw [show toString (Int.negSucc n) = "-" ++ Nat.repr (n + 1) from rfl,
    Nat.repr_eq_ofList_toDigits, String.toList_append]
  simp

theorem exists_toDigits_eq_cons (n : Nat) :
    ∃ d ds, Nat.toDigits 10 n = d :: ds ∧ d.isDigit = true := by
  cases hAll : Nat.toDigits 10 n with
  | nil => exact absurd hAll Nat.toDigits_ne_nil
  | cons d ds =>
    refine ⟨d, ds, rfl, ?_⟩
    exact Nat.isDigit_of_mem_toDigits (by decide) (by decide) (hAll ▸ List.mem_cons_self)

theorem value_int (depth : Nat) {n : Int} (hLow : -Int.pow 2 63 ≤ n) (hHigh : n < Int.pow 2 64)
    {rest : List Char} (hEnd : endsNumber rest = true) :
    value depth ((toString n).toList ++ rest) = .ok (.int n, rest) := by
  have hPow : Int.pow 2 64 = 18446744073709551616 := by decide
  have hHalf : Int.pow 2 63 = 9223372036854775808 := by decide
  have hNatPow : Nat.pow 2 64 = 18446744073709551616 := by decide
  have hNatHalf : Nat.pow 2 63 = 9223372036854775808 := by decide
  cases n with
  | ofNat m =>
    have hBound : m < Nat.pow 2 64 := by
      rw [Int.ofNat_eq_natCast] at hHigh
      omega
    obtain ⟨d, ds, hAll, hDigit⟩ := exists_toDigits_eq_cons m
    have hRead := number_toDigits false hBound hEnd
    rw [toList_toString_ofNat, hAll, List.cons_append, value_of_isDigit depth hDigit,
      ← List.cons_append, ← hAll, hRead]
    rfl
  | negSucc m =>
    have hBound : m + 1 < Nat.pow 2 64 := by omega
    have hNegative : ¬Nat.pow 2 63 < m + 1 := by omega
    rw [toList_toString_negSucc, List.cons_append, value_minus, number_toDigits true hBound hEnd]
    have hZero : (m + 1 == 0) = false := rfl
    simp only [wholeNumber, hZero, hNegative, Bool.not_true, Bool.false_eq_true, if_false,
      decide_false, Bool.or_self]
    rfl

/-! ## Items and members -/

section Items

variable {α β : Type} {item : Reader β} {text : α → List Char} {result : α → β}

/-- The reader takes the text of `x` and nothing of what follows it. -/
def Takes (item : Reader β) (text : α → List Char) (result : α → β) (x : α) : Prop :=
  ∀ rest, endsNumber rest = true → item (text x ++ rest) = .ok (result x, rest)

/-- The text starts with a character that neither is a blank nor closes a list. -/
def opens : List Char → Bool
  | [] => false
  | c :: _ => !(isGap c || c == ']' || c == '\x7d')

theorem length_le_intercalate (texts : List (List Char)) :
    texts.length ≤ ([','].intercalate texts).length + 1 := by
  induction texts with
  | nil => exact Nat.zero_le _
  | cons x texts ih =>
    cases texts with
    | nil => simp
    | cons y texts =>
      rw [List.intercalate_cons_cons]
      simp only [List.length_cons, List.length_append] at ih ⊢
      omega

section Steps

variable {close : Char} {bound : Nat} {x : β} {xs : List β} {cs rest next : List Char}

theorem itemsThen_last (hGap : isGap close = false) (hItem : item cs = .ok (x, close :: rest)) :
    itemsThen item close (bound + 1) cs = .ok ([x], rest) := by
  simp only [itemsThen, bind, Except.bind, hItem, skipGap_cons hGap, if_true, pure, Except.pure]

theorem itemsThen_next (hComma : ',' ≠ close) (hItem : item cs = .ok (x, ',' :: next))
    (hNext : itemsThen item close bound next = .ok (xs, rest)) :
    itemsThen item close (bound + 1) cs = .ok (x :: xs, rest) := by
  simp only [itemsThen, bind, Except.bind, hItem, skipGap_cons (show isGap ',' = false from rfl),
    if_neg hComma, if_true, hNext, pure, Except.pure]

end Steps

theorem itemsThen_intercalate {close : Char} (hClose : close = ']' ∨ close = '\x7d')
    {xs : List α} {x : α} (hTakes : ∀ y ∈ x :: xs, Takes item text result y) {bound : Nat}
    (hBound : xs.length < bound) (rest : List Char) :
    itemsThen item close bound ([','].intercalate ((x :: xs).map text) ++ close :: rest) =
      .ok ((x :: xs).map result, rest) := by
  have hNumber : endsNumber (close :: rest) = true := by rcases hClose with rfl | rfl <;> rfl
  have hGap : isGap close = false := by rcases hClose with rfl | rfl <;> rfl
  have hComma : ',' ≠ close := by rcases hClose with rfl | rfl <;> decide
  induction xs generalizing x bound with
  | nil =>
    obtain ⟨bound, rfl⟩ := Nat.exists_eq_succ_of_ne_zero (Nat.ne_of_gt hBound)
    have hItem := hTakes x List.mem_cons_self (close :: rest) hNumber
    simpa using itemsThen_last hGap hItem
  | cons y xs ih =>
    obtain ⟨bound, rfl⟩ := Nat.exists_eq_succ_of_ne_zero (Nat.ne_of_gt (Nat.zero_lt_of_lt hBound))
    obtain ⟨hFirst, hOthers⟩ := List.forall_mem_cons.mp hTakes
    have hItem := hFirst (',' :: ([','].intercalate ((y :: xs).map text) ++ close :: rest)) rfl
    have hRest := ih hOthers (Nat.lt_of_succ_lt_succ hBound)
    have hNext := itemsThen_next hComma hItem hRest
    simpa only [List.map_cons, List.intercalate_cons_cons, List.append_assoc, List.cons_append,
      List.nil_append] using hNext

theorem exists_cons_of_opens {close : Char} (hClose : close = ']' ∨ close = '\x7d')
    {cs : List Char} (h : opens cs = true) :
    ∃ c tail, cs = c :: tail ∧ isGap c = false ∧ c ≠ close := by
  cases cs with
  | nil => cases h
  | cons c cs =>
    simp only [opens, Bool.not_eq_true', Bool.or_eq_false_iff, beq_eq_false_iff_ne] at h
    obtain ⟨⟨hGap, hBracket⟩, hBrace⟩ := h
    rcases hClose with rfl | rfl
    · exact ⟨c, cs, rfl, hGap, hBracket⟩
    · exact ⟨c, cs, rfl, hGap, hBrace⟩

theorem listRest_intercalate {close : Char} (hClose : close = ']' ∨ close = '\x7d')
    {xs : List α} (hTakes : ∀ y ∈ xs, Takes item text result y)
    (hOpens : ∀ y ∈ xs, opens (text y) = true) (rest : List Char) :
    listRest item close ([','].intercalate (xs.map text) ++ close :: rest) =
      .ok (xs.map result, rest) := by
  cases xs with
  | nil =>
    have hGap : isGap close = false := by rcases hClose with rfl | rfl <;> rfl
    simp only [List.map_nil, List.intercalate_nil, List.nil_append, listRest, skipGap_cons hGap,
      if_true]
  | cons x xs =>
    obtain ⟨c, cs, hText, hGap, hOther⟩ := exists_cons_of_opens hClose (hOpens x List.mem_cons_self)
    obtain ⟨tail, hTail⟩ : ∃ tail, [','].intercalate ((x :: xs).map text) = c :: tail := by
      cases xs with
      | nil => exact ⟨cs, by simp [hText]⟩
      | cons y xs => simp [hText, List.intercalate_cons_cons]
    have hLength := length_le_intercalate ((x :: xs).map text)
    rw [hTail] at hLength
    rw [hTail, List.cons_append, listRest, skipGap_cons hGap]
    dsimp only
    rw [if_neg hOther, ← List.cons_append, ← hTail]
    refine itemsThen_intercalate hClose hTakes ?_ rest
    simp only [List.length_map, List.length_cons, List.length_append] at hLength ⊢
    omega

end Items

/-! ## Values -/

theorem printItems_eq_intercalate (items : List Json) :
    printItems items = [','].intercalate (items.map print) := by
  induction items with
  | nil => rfl
  | cons v items ih =>
    cases items with
    | nil => simp [printItems]
    | cons w items =>
      rw [printItems, ih, List.map_cons, List.map_cons, List.map_cons,
        List.intercalate_cons_cons]
      simp

def printMember (m : String × Json) : List Char :=
  printedText m.1 ++ ':' :: print m.2

theorem printMembers_eq_intercalate (members : List (String × Json)) :
    printMembers members = [','].intercalate (members.map printMember) := by
  induction members with
  | nil => rfl
  | cons m members ih =>
    cases members with
    | nil => simp [printMembers, printMember]
    | cons n members =>
      rw [printMembers, ih, List.map_cons, List.map_cons, List.map_cons,
        List.intercalate_cons_cons]
      simp [printMember]

theorem opens_print {depth : Nat} {v : Json} (h : fits depth v = true) : opens v.print = true := by
  cases v with
  | null => rfl
  | bool b => cases b <;> rfl
  | int n =>
    cases n with
    | ofNat m =>
      obtain ⟨d, ds, hAll, hDigit⟩ := exists_toDigits_eq_cons m
      have hBracket : d ≠ ']' := by rintro rfl; cases hDigit
      have hBrace : d ≠ '\x7d' := by rintro rfl; cases hDigit
      rw [print, toList_toString_ofNat, hAll]
      simp [opens, isGap_of_isDigit hDigit, hBracket, hBrace]
    | negSucc m =>
      rw [print, toList_toString_negSucc]
      rfl
  | float x => cases depth <;> cases h
  | str s => rfl
  | arr items => rfl
  | obj members => rfl

theorem value_print_of_fits_zero {v : Json} (hFits : fits 0 v = true) (depth : Nat)
    {rest : List Char} (hEnd : endsNumber rest = true) :
    value depth (v.print ++ rest) = .ok (v.ascending, rest) := by
  cases v with
  | null => rw [value.eq_def]; rfl
  | bool b =>
    cases b
    · rw [value.eq_def]; rfl
    · rw [value.eq_def]; rfl
  | int n =>
    simp only [fits, Bool.and_eq_true, decide_eq_true_eq] at hFits
    exact value_int depth hFits.1 hFits.2 hEnd
  | float x => cases hFits
  | str s =>
    have hText := stringRest_printed s.toList rest
    rw [value.eq_def]
    simp only [print, printedText, List.cons_append, List.append_assoc, List.nil_append,
      skipGap_cons (show isGap '"' = false from rfl), hText]
    simp [Except.map, ascending]
  | arr items => cases hFits
  | obj members => cases hFits

theorem takes_member {depth : Nat} {m : String × Json}
    (h : Takes (value depth) print ascending m.2) :
    Takes (memberOf (value depth)) printMember (fun m => (m.1, m.2.ascending)) m := by
  intro rest hEnd
  have hKey := stringRest_printed m.1.toList (':' :: (print m.2 ++ rest))
  have hValue := h rest hEnd
  simp only [memberOf, printMember, printedText, List.cons_append, List.append_assoc,
    List.nil_append, skipGap_cons (show isGap '"' = false from rfl), hKey, bind, Except.bind,
    skipGap_cons (show isGap ':' = false from rfl), hValue, pure, Except.pure, String.ofList_toList]

/-- The reader takes what was printed for a value, up to a character that ends a number. -/
theorem takes_value {depth : Nat} {v : Json} (hFits : fits depth v = true) :
    Takes (value depth) print ascending v := by
  induction depth generalizing v with
  | zero => exact fun rest hEnd => value_print_of_fits_zero hFits 0 hEnd
  | succ depth ih =>
    intro rest hEnd
    cases v with
    | arr items =>
      have hItems := List.all_eq_true.mp hFits
      have hRead := listRest_intercalate (.inl rfl) (fun v hv => ih (hItems v hv))
        (fun v hv => opens_print (hItems v hv)) rest
      rw [← printItems_eq_intercalate] at hRead
      rw [value.eq_def]
      simp only [print, List.cons_append, List.append_assoc, List.nil_append,
        skipGap_cons (show isGap '[' = false from rfl), hRead, Except.map, ascending,
        ascendingItems_eq_map]
    | obj members =>
      have hMembers := List.all_eq_true.mp hFits
      have hRead := listRest_intercalate (.inr rfl) (fun m hm => takes_member (ih (hMembers m hm)))
        (fun m _ => rfl) rest
      rw [← printMembers_eq_intercalate] at hRead
      rw [value.eq_def]
      simp only [print, List.cons_append, List.append_assoc, List.nil_append,
        skipGap_cons (show isGap '\x7b' = false from rfl), hRead, Except.map, ascending,
        ascendingMembers_eq_map]
    | _ =>
      refine value_print_of_fits_zero ?_ (depth + 1) hEnd
      exact hFits

theorem read_render {v : Json} (h : fits maxDepth v = true) : read v.render = .ok v.ascending := by
  have hRead := takes_value h [] rfl
  rw [List.append_nil] at hRead
  rw [read, render, String.toList_ofList, hRead]
  rfl

end BeanGen.Json
