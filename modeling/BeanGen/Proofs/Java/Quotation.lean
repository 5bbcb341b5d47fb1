import BeanGen.Proofs.Java.Denotation
import Mathlib.Algebra.Ring.Parity
import Mathlib.Data.List.DropRight

/-!
# What stands between quotes

Between the quotes of a literal, a backslash and a letter stand for one character, and every other
character stands for itself. The reader refuses what may not stand there as it is: the quote, a line
break, and a backslash without a letter that it knows. So whatever it accepts has no line break and
no quote that could end the literal early, however many backslashes stand in a row; and since it
gets the value back from every literal, no two values are written alike.
-/

namespace BeanGen.Java

/-- The letters behind a backslash, with the characters they stand for. -/
def escapes (quote : Char) : List (Char × Char) :=
  [(quote, quote), ('\\', '\\'), ('n', '\n'), ('r', '\r'), ('t', '\t')]

/-- The value of what stands between two quotes. -/
def unescape? (quote : Char) : List Char → Option (List Char)
  | [] => some []
  | '\\' :: letter :: cs =>
    ((escapes quote).lookup letter).bind fun c => (unescape? quote cs).map (c :: ·)
  | c :: cs =>
    if c ∈ [quote, '\\', '\n', '\r'] then none else (unescape? quote cs).map (c :: ·)

/-- The number of backslashes that a text ends in. -/
def closingBackslashes (cs : List Char) : Nat :=
  (cs.rtakeWhile (· == '\\')).length

/-- The text stands between two quotes, goes over no line break and has no quote inside that is not
behind an odd number of backslashes; without its escapes, it is the value. -/
structure Quotes (quote : Char) (literal value : String) (inner : List Char) : Prop where
  enclosed : literal.toList = quote :: (inner ++ [quote])
  unbroken : '\n' ∉ inner ∧ '\r' ∉ inner
  shielded : ∀ before after, inner = before ++ quote :: after → Odd (closingBackslashes before)
  reads : unescape? quote inner = some value.toList

/-! ## Backslashes in a row -/

section Backslashes

variable {c : Char}

/-- A character in front counts only if there is nothing but backslashes. -/
theorem closingBackslashes_cons (c : Char) (cs : List Char) :
    closingBackslashes (c :: cs) =
      closingBackslashes cs + if (c :: cs).all (· == '\\') then 1 else 0 := by
  rw [closingBackslashes, closingBackslashes, List.rtakeWhile, List.rtakeWhile, List.length_reverse,
    List.length_reverse, List.reverse_cons, List.takeWhile_append]
  split
  · rename_i hLength
    have hSelf := (List.takeWhile_prefix (· == '\\')).eq_of_length hLength
    have hAll : ∀ d ∈ cs, d = '\\' := by simpa [List.takeWhile_eq_self_iff] using hSelf
    by_cases hc : c = '\\'
    · simpa [hSelf, hc] using hAll
    · simp [hSelf, hc]
  · rename_i hLength
    rw [if_neg, Nat.add_zero]
    intro hAll
    rw [List.all_cons, Bool.and_eq_true, List.all_eq_true] at hAll
    have hRest : ∀ d ∈ cs.reverse, (d == '\\') = true := by simpa using hAll.2
    exact hLength (congrArg List.length (List.takeWhile_eq_self_iff.mpr hRest))

theorem closingBackslashes_cons_of_ne (h : c ≠ '\\') (cs : List Char) :
    closingBackslashes (c :: cs) = closingBackslashes cs := by
  rw [closingBackslashes_cons, List.all_cons, beq_eq_false_iff_ne.mpr h, Bool.false_and,
    if_neg Bool.false_ne_true, Nat.add_zero]

/-- A backslash and the character behind it do not change whether the number is odd. -/
theorem odd_closingBackslashes_pair (letter : Char) (cs : List Char) :
    Odd (closingBackslashes ('\\' :: letter :: cs)) ↔ Odd (closingBackslashes cs) := by
  have hSame : ('\\' :: letter :: cs).all (· == '\\') = (letter :: cs).all (· == '\\') := by
    rw [List.all_cons, beq_self_eq_true, Bool.true_and]
  rw [closingBackslashes_cons, closingBackslashes_cons, hSame]
  split
  · rw [Nat.add_assoc, Nat.odd_add]
    simp
  · rfl

end Backslashes

/-! ## What the reader accepts -/

section Reader

variable {quote : Char} {inner value : List Char}

/-- A quote is accepted only as the letter of an escape, so an odd number of backslashes stands in
front of it. -/
theorem odd_of_unescape? (hQuote : quote ≠ '\\') (h : unescape? quote inner = some value)
    {before after : List Char} (hSplit : inner = before ++ quote :: after) :
    Odd (closingBackslashes before) := by
  fun_induction unescape? quote inner generalizing value before with
  | case1 => simp at hSplit
  | case2 letter cs ih =>
    obtain ⟨c, -, hRest⟩ := Option.bind_eq_some_iff.mp h
    obtain ⟨rest, hRead, -⟩ := Option.map_eq_some_iff.mp hRest
    rcases before with _ | ⟨b, _ | ⟨d, before⟩⟩
    · exact absurd (List.head_eq_of_cons_eq hSplit).symm hQuote
    · rw [← List.head_eq_of_cons_eq hSplit]
      decide
    · obtain ⟨rfl, hTail⟩ := List.cons_eq_cons.mp hSplit
      exact (odd_closingBackslashes_pair d before).mpr (ih hRead (List.tail_eq_of_cons_eq hTail))
  | case3 => cases h
  | case4 c cs hEscape hPlain ih =>
    obtain ⟨rest, hRead, -⟩ := Option.map_eq_some_iff.mp h
    simp only [List.mem_cons, not_or] at hPlain
    cases before with
    | nil => exact absurd (List.head_eq_of_cons_eq hSplit) hPlain.1
    | cons b before =>
      obtain ⟨rfl, hTail⟩ := List.cons_eq_cons.mp hSplit
      rw [closingBackslashes_cons_of_ne hPlain.2.1]
      exact ih hRead hTail

example : unescape? '"' ['\\', '\\', '"'] = none := by
  decide

/-- No line break is accepted, neither as it is nor as the letter of an escape. -/
theorem not_mem_of_unescape? {c : Char} (hBreak : c ∈ ['\n', '\r'])
    (hLetter : (escapes quote).lookup c = none) (h : unescape? quote inner = some value) :
    c ∉ inner := by
  fun_induction unescape? quote inner generalizing value with
  | case1 => exact List.not_mem_nil
  | case2 letter cs ih =>
    obtain ⟨d, hKnown, hRest⟩ := Option.bind_eq_some_iff.mp h
    obtain ⟨rest, hRead, -⟩ := Option.map_eq_some_iff.mp hRest
    rw [List.mem_cons, List.mem_cons, not_or, not_or]
    refine ⟨?_, ?_, ih hRead⟩
    · rintro rfl
      simp at hBreak
    · rintro rfl
      rw [hLetter] at hKnown
      cases hKnown
  | case3 => cases h
  | case4 d cs hEscape hPlain ih =>
    obtain ⟨rest, hRead, -⟩ := Option.map_eq_some_iff.mp h
    rw [List.mem_cons, not_or]
    refine ⟨?_, ih hRead⟩
    rintro rfl
    simp only [List.mem_cons, List.not_mem_nil, or_false, not_or] at hPlain hBreak
    rcases hBreak with rfl | rfl
    · exact hPlain.2.2.1 rfl
    · exact hPlain.2.2.2 rfl

/-- Whatever the reader accepts is well formed between its quotes. -/
theorem quotes_of_unescape? {literal text : String} (hQuote : quote ∈ ['"', '\''])
    (hEnclosed : literal.toList = quote :: (inner ++ [quote]))
    (h : unescape? quote inner = some text.toList) : Quotes quote literal text inner := by
  obtain ⟨hSlash, hNewLine, hReturn⟩ : quote ≠ '\\' ∧ (escapes quote).lookup '\n' = none ∧
      (escapes quote).lookup '\r' = none := by
    rcases List.mem_pair.mp hQuote with rfl | rfl <;> decide
  exact {
    enclosed := hEnclosed
    unbroken := ⟨not_mem_of_unescape? (by decide) hNewLine h,
      not_mem_of_unescape? (by decide) hReturn h⟩
    shielded := fun _ _ hSplit => odd_of_unescape? hSlash h hSplit
    reads := h }

end Reader

/-! ## Reading literals back -/

section Literals

variable {quote : Char}

theorem unescape?_escape {letter c : Char} (h : (escapes quote).lookup letter = some c)
    (cs : List Char) :
    unescape? quote ('\\' :: letter :: cs) = (unescape? quote cs).map (c :: ·) := by
  rw [unescape?, h, Option.bind_some]

theorem unescape?_plain {c : Char} (h : c ∉ [quote, '\\', '\n', '\r']) (cs : List Char) :
    unescape? quote (c :: cs) = (unescape? quote cs).map (c :: ·) := by
  have hSlash : c ≠ '\\' := fun hEq => h (by simp [hEq])
  rw [unescape?, if_neg h]
  exact fun _ _ hEq => absurd hEq hSlash

/-- The reader gets a character back and goes on behind it. -/
theorem unescape?_literalChar (hQuote : quote ∈ ['"', '\'']) (c : Char) (cs : List Char) :
    unescape? quote (literalChar quote c ++ cs) = (unescape? quote cs).map (c :: ·) := by
  have hLetters : (escapes quote).Forall fun e => (escapes quote).lookup e.1 = some e.2 := by
    rcases List.mem_pair.mp hQuote with rfl | rfl <;> decide
  simp only [escapes, List.Forall] at hLetters
  obtain ⟨hSelf, hSlash, hNewLine, hReturn, hTab⟩ := hLetters
  rw [literalChar]
  split_ifs with hIsQuote hIsSlash hIsNewLine hIsReturn hIsTab
  · rw [hIsQuote]
    exact unescape?_escape hSelf cs
  · rw [hIsSlash]
    exact unescape?_escape hSlash cs
  · rw [hIsNewLine]
    exact unescape?_escape hNewLine cs
  · rw [hIsReturn]
    exact unescape?_escape hReturn cs
  · rw [hIsTab]
    exact unescape?_escape hTab cs
  · exact unescape?_plain (by simp [hIsQuote, hIsSlash, hIsNewLine, hIsReturn]) cs

theorem unescape?_literalChars (hQuote : quote ∈ ['"', '\'']) (cs : List Char) :
    unescape? quote (cs.flatMap (literalChar quote)) = some cs := by
  induction cs with
  | nil => rfl
  | cons c cs ih => rw [List.flatMap_cons, unescape?_literalChar hQuote, ih, Option.map_some]

theorem quotes_stringLiteral (value : String) :
    Quotes '"' (stringLiteral value) value (value.toList.flatMap (literalChar '"')) :=
  quotes_of_unescape? (by decide) String.toList_ofList (unescape?_literalChars (by decide) _)

theorem quotes_charLiteral (c : Char) :
    Quotes '\'' (charLiteral (String.singleton c)) (String.singleton c) (literalChar '\'' c) := by
  refine quotes_of_unescape? (by decide) ?_ ?_
  · rw [charLiteral, String.toList_singleton, String.toList_ofList]
  · have hMark : '\'' ∈ ['"', '\''] := by decide
    have hRead := unescape?_literalChars hMark [c]
    rwa [List.flatMap_singleton, ← String.toList_singleton] at hRead

end Literals

/-- What a literal is read as is the one value it can be the literal for. -/
theorem Quotes.value_eq {quote : Char} {literal value other : String} {inner outer : List Char}
    (h : Quotes quote literal value inner) (h' : Quotes quote literal other outer) :
    value = other := by
  have hInner := h.enclosed.symm.trans h'.enclosed
  obtain rfl := List.append_cancel_right (List.tail_eq_of_cons_eq hInner)
  exact String.toList_inj.mp (Option.some.inj (h.reads.symm.trans h'.reads))

theorem stringLiteral_ne_null (value : String) : stringLiteral value ≠ "null" := by
  intro hEq
  have hQuote := (quotes_stringLiteral value).enclosed
  rw [hEq] at hQuote
  cases hQuote

/-- A text is written as one literal for it. Between its quotes there is no line break, and a quote
only behind an odd number of backslashes; without the escapes it is the text again, and so it is for
a character. Hence no two texts have one literal, nor has a text that of no text. -/
theorem literals_read_back :
    (∀ value, Denotes (stringLiteral value) value ∧
      ∃ inner, Quotes '"' (stringLiteral value) value inner) ∧
    Function.Injective stringLiteral ∧ Function.Injective optionalLiteral ∧
    ∀ c, ∃ inner, Quotes '\'' (charLiteral (String.singleton c)) (String.singleton c) inner := by
  have hInjective : Function.Injective stringLiteral := by
    intro value other hEq
    have hOther := quotes_stringLiteral other
    rw [← hEq] at hOther
    exact (quotes_stringLiteral value).value_eq hOther
  refine ⟨fun value => ⟨denotes_stringLiteral value, _, quotes_stringLiteral value⟩, hInjective, ?_,
    fun c => ⟨_, quotes_charLiteral c⟩⟩
  intro text other hEq
  cases text with
  | none =>
    cases other with
    | none => rfl
    | some other => exact absurd hEq.symm (stringLiteral_ne_null other)
  | some text =>
    cases other with
    | none => exact absurd hEq (stringLiteral_ne_null text)
    | some other => rw [hInjective hEq]

end BeanGen.Java
