import BeanGen.Java.Literal
import BeanGen.Json.Reader
import Mathlib.Tactic.SplitIfs

/-!
# What literals denote

A text of Java is read in two passes. The first makes code units of its characters and replaces
every Unicode escape, wherever it stands; the second reads the literals in what is left, with the
escape sequences they hold. A text that is written as a string literal denotes itself again. Put
between two quotes as it is, it does so only if neither pass finds anything to interpret in it.
-/

namespace BeanGen.Java

/-! ## The first pass -/

/-- The code units of a character: one, or a pair of surrogates. -/
def charUnits (c : Char) : List Nat :=
  if c.toNat < 0x10000 then [c.toNat]
  else [0xD800 + (c.toNat - 0x10000) / 0x400, 0xDC00 + (c.toNat - 0x10000) % 0x400]

def units (text : String) : List Nat :=
  text.toList.flatMap charUnits

/-- The unit of a Unicode escape, from behind its backslash: any number of marks, then four digits.
-/
def unicodeEscape? (cs : List Char) : Option (Nat × List Char) :=
  if cs.head? = some 'u' then
    match cs.dropWhile (· == 'u') with
    | a :: b :: c :: d :: rest => (Json.hex4? a b c d).map fun u => (u, rest)
    | _ => none
  else none

theorem suffix_of_unicodeEscape? {cs rest : List Char} {u : Nat}
    (h : unicodeEscape? cs = some (u, rest)) : rest <:+ cs := by
  rw [unicodeEscape?] at h
  split at h
  · split at h
    · rename_i a b c d rest' hDigits
      obtain ⟨v, -, hEq⟩ := Option.map_eq_some_iff.mp h
      cases hEq
      have hMarks := List.dropWhile_suffix (l := cs) (· == 'u')
      rw [hDigits] at hMarks
      exact (List.suffix_append [a, b, c, d] rest).trans hMarks
    · cases h
  · cases h

/-- The Unicode escape that starts with a character. Only a backslash starts one, if the number of
backslashes right before it is even. -/
def unicodeEscapeAt? (even : Bool) (c : Char) (cs : List Char) : Option (Nat × List Char) :=
  if c = '\\' ∧ even then unicodeEscape? cs else none

theorem suffix_of_unicodeEscapeAt? {even : Bool} {c : Char} {cs rest : List Char} {u : Nat}
    (h : unicodeEscapeAt? even c cs = some (u, rest)) : rest <:+ cs := by
  rw [unicodeEscapeAt?] at h
  split at h
  · exact suffix_of_unicodeEscape? h
  · cases h

/-- The units of a text whose Unicode escapes are replaced. -/
def inputFrom (even : Bool) : List Char → List Nat
  | [] => []
  | c :: cs =>
    match _h : unicodeEscapeAt? even c cs with
    | some (u, rest) => u :: inputFrom true rest
    | none => charUnits c ++ inputFrom (c != '\\' || !even) cs
termination_by cs => cs.length
decreasing_by
  · exact Nat.lt_succ_of_le (suffix_of_unicodeEscapeAt? _h).length_le
  · exact Nat.lt_succ_self _

def input (text : String) : List Nat :=
  inputFrom true text.toList

/-! ## The second pass -/

/-- The letters of escape sequences with the units they stand for. -/
def simpleEscapes : List (Nat × Nat) := [
  ('b'.toNat, 8), ('s'.toNat, 32), ('t'.toNat, 9), ('n'.toNat, 10), ('f'.toNat, 12),
  ('r'.toNat, 13), ('"'.toNat, 34), ('\''.toNat, 39), ('\\'.toNat, 92)]

def isOctalDigit (u : Nat) : Bool :=
  '0'.toNat ≤ u && u ≤ '7'.toNat

/-- The digits of an octal escape sequence, as many as keep it in a byte. -/
def octalDigits (us : List Nat) : List Nat :=
  (us.take (if us.headD 0 ≤ '3'.toNat then 3 else 2)).takeWhile isOctalDigit

/-- The unit of an escape sequence, from behind its backslash. -/
def escape? : List Nat → Option (Nat × List Nat)
  | [] => none
  | u :: us =>
    let digits := octalDigits (u :: us)
    if digits = [] then (simpleEscapes.lookup u).map fun v => (v, us)
    else some (digits.foldl (fun n d => 8 * n + (d - '0'.toNat)) 0, (u :: us).drop digits.length)

theorem length_of_escape? {us rest : List Nat} {v : Nat} (h : escape? us = some (v, rest)) :
    rest.length < us.length := by
  cases us with
  | nil => cases h
  | cons u us =>
    rw [escape?] at h
    split at h
    · obtain ⟨w, -, hEq⟩ := Option.map_eq_some_iff.mp h
      cases hEq
      exact Nat.lt_succ_self _
    · rename_i hDigits
      cases h
      have hSome := List.length_pos_iff.mpr hDigits
      rw [List.length_drop, List.length_cons]
      omega

/-- What the rest of a string literal denotes, and what stands behind its closing quote. It ends in
the line it starts in. -/
def stringBody? : List Nat → Option (List Nat × List Nat)
  | [] => none
  | u :: us =>
    if u = '"'.toNat then some ([], us)
    else if u = '\n'.toNat ∨ u = '\r'.toNat then none
    else if u = '\\'.toNat then
      match _h : escape? us with
      | some (v, rest) => (stringBody? rest).map fun r => (v :: r.1, r.2)
      | none => none
    else (stringBody? us).map fun r => (u :: r.1, r.2)
termination_by us => us.length
decreasing_by
  · exact Nat.lt_succ_of_lt (length_of_escape? _h)
  · exact Nat.lt_succ_self _

/-- What the string literal denotes that the units start with. Three quotes open a text block. -/
def stringLiteral? : List Nat → Option (List Nat × List Nat)
  | [] => none
  | u :: us =>
    if u = '"'.toNat ∧ ¬ ['"'.toNat, '"'.toNat] <+: us then stringBody? us else none

/-- The text is a literal for the value, and ends where it ends: wherever it stands with no quote
right behind it, it is read as that literal, and reading goes on behind it. -/
def Denotes (literal value : String) : Prop :=
  ∀ rest : String, (input rest).head? ≠ some '"'.toNat →
    stringLiteral? (input (literal ++ rest)) = some (units value, input rest)

/-! ## Characters that stand for themselves -/

/-- The characters that one of the passes interprets. -/
def interpreted : List Char := ['"', '\\', '\n', '\r']

/-- No character of the text is interpreted between quotes. -/
def Plain (text : String) : Prop :=
  ∀ c ∈ text.toList, c ∉ interpreted

instance (text : String) : Decidable (Plain text) :=
  decidable_of_iff (text.toList.all fun c => !interpreted.contains c) (by simp [Plain])

def PlainUnits (us : List Nat) : Prop :=
  ∀ u ∈ us, u ∉ interpreted.map Char.toNat

theorem toNat_mem_map {c : Char} {cs : List Char} : c.toNat ∈ cs.map Char.toNat ↔ c ∈ cs := by
  constructor
  · intro h
    obtain ⟨d, hd, hEq⟩ := List.mem_map.mp h
    exact Char.toNat_inj.mp hEq ▸ hd
  · exact List.mem_map_of_mem

theorem plainUnits_charUnits {c : Char} : PlainUnits (charUnits c) ↔ c ∉ interpreted := by
  have hSmall : ∀ u ∈ interpreted.map Char.toNat, u < 0xD800 := by decide
  by_cases hNarrow : c.toNat < 0x10000
  · rw [charUnits, if_pos hNarrow, PlainUnits, List.forall_mem_singleton, toNat_mem_map]
  · have hWide : c ∉ interpreted := by
      intro hc
      have hLow := hSmall _ (List.mem_map_of_mem hc)
      omega
    refine iff_of_true ?_ hWide
    intro u hu hUnit
    have hLow := hSmall u hUnit
    simp only [charUnits, hNarrow, if_false, List.mem_cons, List.not_mem_nil, or_false] at hu
    omega

theorem plainUnits_units {text : String} : PlainUnits (units text) ↔ Plain text := by
  rw [Plain, units, PlainUnits, List.forall_mem_flatMap]
  exact forall₂_congr fun c _ => plainUnits_charUnits

section Reading

variable {c : Char} {cs : List Char} {u v : Nat} {us vs rest : List Nat}

theorem inputFrom_of_some {even : Bool} {after : List Char}
    (h : unicodeEscapeAt? even c cs = some (u, after)) :
    inputFrom even (c :: cs) = u :: inputFrom true after := by
  rw [inputFrom]
  split
  · rename_i hSome
    rw [h] at hSome
    cases hSome
    rfl
  · rename_i hNone
    rw [h] at hNone
    cases hNone

theorem inputFrom_of_none {even : Bool} (h : unicodeEscapeAt? even c cs = none) :
    inputFrom even (c :: cs) = charUnits c ++ inputFrom (c != '\\' || !even) cs := by
  rw [inputFrom]
  split
  · rename_i hSome
    rw [h] at hSome
    cases hSome
  · rfl

theorem inputFrom_of_ne {even : Bool} (hc : c ≠ '\\') :
    inputFrom even (c :: cs) = charUnits c ++ inputFrom true cs := by
  rw [inputFrom_of_none (by simp [unicodeEscapeAt?, hc]), bne_iff_ne.mpr hc, Bool.true_or]

theorem inputFrom_escaped (hMark : c ≠ 'u') :
    inputFrom true ('\\' :: c :: cs) = '\\'.toNat :: (charUnits c ++ inputFrom true cs) := by
  have hSecond : unicodeEscapeAt? false c cs = none := by simp [unicodeEscapeAt?]
  rw [inputFrom_of_none (by simp [unicodeEscapeAt?, unicodeEscape?, hMark])]
  have hEven : ('\\' != '\\' || !true) = false := by decide
  rw [hEven, inputFrom_of_none hSecond, Bool.not_false, Bool.or_true]
  rfl

theorem notInterpreted_iff : u ∉ interpreted.map Char.toNat ↔
    u ≠ '"'.toNat ∧ ¬ (u = '\n'.toNat ∨ u = '\r'.toNat) ∧ u ≠ '\\'.toNat := by
  simp only [interpreted, List.map_cons, List.map_nil, List.mem_cons, List.not_mem_nil, or_false,
    not_or]
  exact ⟨fun h => ⟨h.1, h.2.2, h.2.1⟩, fun h => ⟨h.1, h.2.2, h.2.1⟩⟩

theorem stringBody?_plain (hu : u ∉ interpreted.map Char.toNat) :
    stringBody? (u :: us) = (stringBody? us).map fun r => (u :: r.1, r.2) := by
  obtain ⟨hQuote, hBreak, hSlash⟩ := notInterpreted_iff.mp hu
  rw [stringBody?, if_neg hQuote, if_neg hBreak, if_neg hSlash]

theorem stringBody?_append (h : PlainUnits us) :
    stringBody? (us ++ vs) = (stringBody? vs).map fun r => (us ++ r.1, r.2) := by
  induction us with
  | nil => simp
  | cons u us ih =>
    obtain ⟨hu, hRest⟩ := List.forall_mem_cons.mp h
    rw [List.cons_append, stringBody?_plain hu, ih hRest, Option.map_map]
    rfl

theorem stringBody?_backslash :
    stringBody? ('\\'.toNat :: us) =
      (escape? us).bind fun e => (stringBody? e.2).map fun r => (e.1 :: r.1, r.2) := by
  rw [stringBody?, if_neg (by decide), if_neg (by decide), if_pos rfl]
  split
  · rename_i hSome
    rw [hSome]
    rfl
  · rename_i hNone
    rw [hNone]
    rfl

/-- A quote that is not behind another opens a literal that is no text block. -/
theorem stringLiteral?_of_body (h : stringBody? us = some (vs, rest))
    (hRest : rest.head? ≠ some '"'.toNat) :
    stringLiteral? ('"'.toNat :: us) = some (vs, rest) := by
  have hNoBlock : ¬ ['"'.toNat, '"'.toNat] <+: us := by
    rintro ⟨tail, rfl⟩
    rw [List.cons_append, stringBody?, if_pos rfl] at h
    cases h
    exact hRest rfl
  rw [stringLiteral?, if_pos ⟨rfl, hNoBlock⟩, h]

/-- Between quotes, plain characters denote themselves. -/
theorem stringBody?_closed (h : PlainUnits us) :
    stringBody? (us ++ '"'.toNat :: rest) = some (us, rest) := by
  rw [stringBody?_append h, stringBody?, if_pos rfl]
  simp

end Reading

/-! ## Escaped characters -/

section Escaped

variable {c : Char} {cs rest : List Char} {v : Nat}

theorem escape?_letter {u : Nat} (hOctal : isOctalDigit u = false) (us : List Nat) :
    escape? (u :: us) = (simpleEscapes.lookup u).map fun v => (v, us) := by
  have hDigits : octalDigits (u :: us) = [] := by
    rw [octalDigits]
    split <;> simp [hOctal]
  rw [escape?, if_pos hDigits]

theorem stringBody?_simpleEscape (hMark : c ≠ 'u') (hUnits : charUnits c = [c.toNat])
    (hOctal : isOctalDigit c.toNat = false) (hLetter : simpleEscapes.lookup c.toNat = some v) :
    stringBody? (inputFrom true ('\\' :: c :: cs)) =
      (stringBody? (inputFrom true cs)).map fun r => (v :: r.1, r.2) := by
  rw [inputFrom_escaped hMark, hUnits, stringBody?_backslash, List.singleton_append,
    escape?_letter hOctal, hLetter]
  rfl

/-- A character that is written between quotes is read as itself. -/
theorem stringBody?_literalChar (c : Char) (cs : List Char) :
    stringBody? (inputFrom true (literalChar '"' c ++ cs)) =
      (stringBody? (inputFrom true cs)).map fun r => (charUnits c ++ r.1, r.2) := by
  rw [literalChar]
  split_ifs with hQuote hSlash hNewLine hReturn hTab
  · subst hQuote
    exact stringBody?_simpleEscape (by decide) rfl rfl rfl
  · subst hSlash
    exact stringBody?_simpleEscape (by decide) rfl rfl rfl
  · subst hNewLine
    exact stringBody?_simpleEscape (by decide) rfl rfl rfl
  · subst hReturn
    exact stringBody?_simpleEscape (by decide) rfl rfl rfl
  · subst hTab
    exact stringBody?_simpleEscape (by decide) rfl rfl rfl
  · have hPlain : PlainUnits (charUnits c) :=
      plainUnits_charUnits.mpr (by simp [interpreted, hQuote, hSlash, hNewLine, hReturn])
    rw [List.singleton_append, inputFrom_of_ne hSlash, stringBody?_append hPlain]

theorem stringBody?_literalChars (cs rest : List Char) :
    stringBody? (inputFrom true (cs.flatMap (literalChar '"') ++ '"' :: rest)) =
      some (cs.flatMap charUnits, inputFrom true rest) := by
  induction cs with
  | nil =>
    rw [List.flatMap_nil, List.nil_append, inputFrom_of_ne (by decide)]
    have hNone : PlainUnits [] := nofun
    exact stringBody?_closed hNone
  | cons c cs ih =>
    rw [List.flatMap_cons, List.append_assoc, stringBody?_literalChar, ih]
    rfl

theorem denotes_stringLiteral (value : String) : Denotes (stringLiteral value) value := by
  intro rest hRest
  have hText : (stringLiteral value ++ rest).toList =
      '"' :: (value.toList.flatMap (literalChar '"') ++ '"' :: rest.toList) := by
    simp [stringLiteral]
  rw [input, hText, inputFrom_of_ne (by decide)]
  exact stringLiteral?_of_body (stringBody?_literalChars value.toList rest.toList) hRest

end Escaped

/-! ## Characters as they are -/

section Raw

variable {cs : List Char} {us vs rest : List Nat}

theorem input_empty : input "" = [] := by
  rw [input, String.toList_empty, inputFrom]

theorem inputFrom_append_of_plain (h : ∀ c ∈ cs, c ∉ interpreted) (after : List Char) :
    inputFrom true (cs ++ after) = cs.flatMap charUnits ++ inputFrom true after := by
  induction cs with
  | nil => rfl
  | cons c cs ih =>
    obtain ⟨hc, hRest⟩ := List.forall_mem_cons.mp h
    have hSlash : c ≠ '\\' := fun hEq => hc (hEq ▸ by decide)
    rw [List.cons_append, inputFrom_of_ne hSlash, ih hRest, List.flatMap_cons, List.append_assoc]

/-- Replacing escapes never makes a text longer. -/
theorem length_inputFrom_le (even : Bool) (cs : List Char) :
    (inputFrom even cs).length ≤ (cs.flatMap charUnits).length := by
  induction even, cs using inputFrom.induct with
  | case1 even => simp [inputFrom]
  | case2 even c cs u after hSome ih =>
    obtain ⟨marks, rfl⟩ := suffix_of_unicodeEscapeAt? hSome
    have hUnit : 0 < (charUnits c).length := by
      rw [charUnits]
      split <;> simp
    rw [inputFrom_of_some hSome]
    simp only [List.flatMap_cons, List.flatMap_append, List.length_append, List.length_cons] at ih ⊢
    omega
  | case3 even c cs hNone ih =>
    rw [inputFrom_of_none hNone]
    simp only [List.flatMap_cons, List.length_append]
    omega

/-- A value is shorter than the literal it is read from, by more than the closing quote if there was
an escape sequence. -/
theorem plainUnits_of_stringBody? (h : stringBody? us = some (vs, rest)) :
    vs.length + rest.length + 1 ≤ us.length ∧
      (us.length ≤ vs.length + rest.length + 1 → PlainUnits vs) := by
  fun_induction stringBody? us generalizing vs with
  | case1 => cases h
  | case2 us =>
    cases h
    simp [PlainUnits]
  | case3 => cases h
  | case4 us v after hEscape hQuote hBreak ih =>
    obtain ⟨r, hRead, hEq⟩ := Option.map_eq_some_iff.mp h
    cases hEq
    have hShorter := length_of_escape? hEscape
    have hAfter := (ih hRead).1
    simp only [List.length_cons]
    omega
  | case5 => cases h
  | case6 u us hQuote hBreak hSlash ih =>
    obtain ⟨r, hRead, hEq⟩ := Option.map_eq_some_iff.mp h
    cases hEq
    obtain ⟨hLength, hPlain⟩ := ih hRead
    have hu := notInterpreted_iff.mpr ⟨hQuote, hBreak, hSlash⟩
    simp only [List.length_cons]
    refine ⟨by omega, fun hLong => List.forall_mem_cons.mpr ⟨hu, hPlain (by omega)⟩⟩

theorem plainUnits_of_stringLiteral? (h : stringLiteral? us = some (vs, rest)) :
    vs.length + rest.length + 2 ≤ us.length ∧
      (us.length ≤ vs.length + rest.length + 2 → PlainUnits vs) := by
  cases us with
  | nil => cases h
  | cons u us =>
    rw [stringLiteral?] at h
    split at h
    · obtain ⟨hLength, hPlain⟩ := plainUnits_of_stringBody? h
      rw [List.length_cons]
      exact ⟨by omega, fun hLong => hPlain (by omega)⟩
    · cases h

end Raw

/-- The text between two quotes, as it is. -/
def quoted (text : String) : String :=
  "\"" ++ text ++ "\""

theorem units_append (a b : String) : units (a ++ b) = units a ++ units b := by
  rw [units, String.toList_append, List.flatMap_append]
  rfl

theorem length_units_quoted (text : String) :
    (units (quoted text)).length = (units text).length + 2 := by
  have hQuote : units "\"" = ['"'.toNat] := by decide
  simp only [quoted, units_append, hQuote, List.length_append, List.length_singleton]
  omega

theorem length_input_le (text : String) : (input text).length ≤ (units text).length :=
  length_inputFrom_le true text.toList

/-- A text between quotes denotes itself exactly if nothing in it is interpreted. -/
theorem denotes_quoted_iff (text : String) : Denotes (quoted text) text ↔ Plain text := by
  constructor
  · intro h
    have hRead := h "" (by rw [input_empty]; exact nofun)
    rw [String.append_empty, input_empty] at hRead
    have hLength := length_input_le (quoted text)
    rw [length_units_quoted] at hLength
    exact plainUnits_units.mp ((plainUnits_of_stringLiteral? hRead).2 hLength)
  · intro h rest hRest
    have hText : (quoted text ++ rest).toList = '"' :: (text.toList ++ '"' :: rest.toList) := by
      simp [quoted]
    rw [input, hText, inputFrom_of_ne (by decide), inputFrom_append_of_plain h,
      inputFrom_of_ne (by decide)]
    exact stringLiteral?_of_body (stringBody?_closed (plainUnits_units.mpr h)) hRest

/-- Where two texts between quotes can be cut into literals for them, nothing in either is
interpreted. -/
theorem plain_of_denotes_pair {a b first second : String} (hFirst : Denotes first a)
    (hSecond : Denotes second b) (hText : first ++ ", " ++ second = quoted a ++ ", " ++ quoted b) :
    Plain a ∧ Plain b := by
  have hComma : input (", " ++ second) = ','.toNat :: ' '.toNat :: input second := by
    rw [input, String.toList_append, show ", ".toList = [',', ' '] from rfl, List.cons_append,
      inputFrom_of_ne (by decide), List.cons_append, inputFrom_of_ne (by decide)]
    rfl
  have hReadFirst := hFirst (", " ++ second) (by rw [hComma, List.head?_cons]; decide)
  have hReadSecond := hSecond "" (by rw [input_empty]; exact nofun)
  rw [← String.append_assoc, hText, hComma] at hReadFirst
  rw [String.append_empty, input_empty] at hReadSecond
  obtain ⟨hFirstLength, hFirstPlain⟩ := plainUnits_of_stringLiteral? hReadFirst
  obtain ⟨hSecondLength, hSecondPlain⟩ := plainUnits_of_stringLiteral? hReadSecond
  have hLength := length_input_le (quoted a ++ ", " ++ quoted b)
  have hMiddle : (units ", ").length = 2 := by decide
  simp only [units_append, List.length_append, length_units_quoted, hMiddle] at hLength
  simp only [List.length_cons, List.length_nil] at hFirstLength hFirstPlain hSecondLength hSecondPlain
  exact ⟨plainUnits_units.mp (hFirstPlain (by omega)),
    plainUnits_units.mp (hSecondPlain (by omega))⟩

end BeanGen.Java
