import BeanGen.Java.ValueType
import BeanGen.Proofs.Java.Denotation
import BeanGen.Proofs.Json.Printing
import BeanGen.Toml.Number

/-!
# Constants of the primitive types

A constant of a primitive type is a literal of that type. A number may have a sign, and a number of
one of the two small types is an integer behind a cast, which keeps its low bits. What is read is
what Unicode escapes leave of a text; the number it denotes has to be one of the type.
-/

namespace BeanGen.Java

open Toml (isDigitIn natIn ungroup takeSign withSign)

/-- What a constant denotes. A real number is the one that is rounded. -/
inductive Value where
  | flag (b : Bool)
  | integer (n : Int)
  | real (q : Rat)
  | unit (u : Nat)
  deriving DecidableEq, Repr

/-! ## Numerals -/

/-- Digits, between which any number of underscores may stand. -/
def isDigits (base : Nat) (cs : List Char) : Bool :=
  cs.head?.any (isDigitIn base) && cs.getLast?.any (isDigitIn base) &&
    cs.all fun c => c == '_' || isDigitIn base c

def digits? (base : Nat) (cs : List Char) : Option Nat :=
  if isDigits base cs then some (natIn base (ungroup cs)) else none

/-- An integer without sign, and whether it is written in base ten. -/
def numeral? : List Char → Option (Bool × Nat)
  | '0' :: c :: cs =>
    if c = 'x' ∨ c = 'X' then (digits? 16 cs).map fun n => (false, n)
    else if c = 'b' ∨ c = 'B' then (digits? 2 cs).map fun n => (false, n)
    else (digits? 8 ('0' :: c :: cs)).map fun n => (false, n)
  | cs => (digits? 10 cs).map fun n => (true, n)

/-- How many values so many bits have. -/
def capacity (bits : Nat) : Nat :=
  Nat.pow 2 bits

/-- What the last of so many bits is worth. -/
def signBit (bits : Nat) : Nat :=
  capacity (bits - 1)

/-- An integer of so many bits. In base ten it is below the sign bit, or on it behind a minus; in
another base it may use all bits and is taken in two's complement. -/
def integer? (bits : Nat) (negative : Bool) (cs : List Char) : Option Int :=
  (numeral? cs).bind fun r =>
    if r.1 then
      if r.2 < signBit bits ∨ negative ∧ r.2 = signBit bits then some (withSign negative r.2)
      else none
    else if r.2 < capacity bits then some ((withSign negative r.2).bmod (capacity bits))
    else none

/-- What stands before the first of the marks, and what stands behind it. -/
def cutAt (marks : List Char) (cs : List Char) : List Char × Option (List Char) :=
  (cs.takeWhile (· ∉ marks), (cs.dropWhile (· ∉ marks)).tail?)

/-- Digits with a point among them or at either end: their value without the point, and how many
stand behind it. -/
def pointed? (base : Nat) (cs : List Char) : Option (Nat × Nat) :=
  let (whole, fraction) := cutAt ['.'] cs
  let places := fraction.getD []
  if (whole = [] ∨ isDigits base whole) ∧ (places = [] ∨ isDigits base places) ∧
      ¬ (whole = [] ∧ places = []) then
    some (natIn base (ungroup (whole ++ places)), (ungroup places).length)
  else none

def exponent? (cs : List Char) : Option Int :=
  let (negative, ds) := takeSign cs
  (digits? 10 ds).map (withSign negative)

def scaled (n base : Nat) (e : Int) : Rat :=
  mkRat (n * Nat.pow base e.toNat) (Nat.pow base (-e).toNat)

/-- A real number in base ten. Without a suffix it has a point or an exponent. -/
def decimal? (suffixed : Bool) (cs : List Char) : Option Rat :=
  let (significand, power) := cutAt ['e', 'E'] cs
  if suffixed ∨ power.isSome ∨ '.' ∈ significand then do
    let (n, places) ← pointed? 10 significand
    let e ← power.elim (some 0) exponent?
    return scaled n 10 (e - places)
  else none

/-- A real number in base sixteen, from behind its mark, always with a power of two. -/
def hexadecimal? (cs : List Char) : Option Rat := do
  let (significand, power) := cutAt ['p', 'P'] cs
  let (n, places) ← pointed? 16 significand
  let e ← power.bind exponent?
  return scaled n 2 (e - 4 * places)

def magnitude? (suffixed : Bool) : List Char → Option Rat
  | '0' :: c :: cs =>
    if c = 'x' ∨ c = 'X' then hexadecimal? cs else decimal? suffixed ('0' :: c :: cs)
  | cs => decimal? suffixed cs

/-- The numbers of a format that are rounded neither to zero nor to infinity. -/
structure Span where
  low : Rat
  high : Rat

def Span.single : Span :=
  ⟨mkRat 1 (Nat.pow 2 150), mkRat (Nat.pow 2 128 - Nat.pow 2 103) 1⟩

def Span.double : Span :=
  ⟨mkRat 1 (Nat.pow 2 1075), mkRat (Nat.pow 2 1024 - Nat.pow 2 970) 1⟩

def Span.holds (s : Span) (q : Rat) : Bool :=
  q == 0 || s.low < q.abs && q.abs < s.high

def real? (span : Span) (suffixed negative : Bool) (cs : List Char) : Option Rat :=
  ((magnitude? suffixed cs).map fun q => if negative then -q else q).filter span.holds

/-! ## Constants -/

def isNumeralChar (c : Char) : Bool :=
  c.isAlphanum || c ∈ ['.', '_', '+', '-']

/-- A number with its sign, if it has one. -/
def signed? {α : Type} (read : Bool → List Char → Option α) (cs : List Char) : Option α :=
  if cs.all isNumeralChar then read (takeSign cs).1 (takeSign cs).2 else none

/-- The characters that Unicode escapes leave of a text. -/
def readable (text : String) : List Char :=
  (input text).map Char.ofNat

def afterCast? (cast : String) (cs : List Char) : Option (List Char) :=
  if cast.toList <+: cs then some (cs.drop cast.toList.length) else none

def beforeSuffix? (marks : List Char) (cs : List Char) : Option (List Char) :=
  if cs.getLast?.any (· ∈ marks) then some cs.dropLast else none

/-- The unit of a character literal: one that stands for itself, or an escape sequence. -/
def charConstant? : List Nat → Option Nat
  | q :: u :: us =>
    if q ≠ '\''.toNat then none
    else if u = '\\'.toNat then
      (escape? us).bind fun e => if e.2 = ['\''.toNat] then some e.1 else none
    else if us = ['\''.toNat] ∧ u ∉ ['\'', '\n', '\r'].map Char.toNat then some u
    else none
  | _ => none

/-- What a cast to a type of so many bits leaves of an integer. -/
def narrowed (bits : Nat) (n : Int) : Value :=
  .integer (n.bmod (capacity bits))

/-- What a text denotes as a constant of the type for a kind of value. -/
def constant? (kind : ContentKind) (text : String) : Option Value :=
  let cs := readable text
  match kind with
  | .boolean =>
    if cs = "true".toList then some (.flag true)
    else if cs = "false".toList then some (.flag false)
    else none
  | .byte => ((afterCast? "(byte) " cs).bind (signed? (integer? 32))).map (narrowed 8)
  | .short => ((afterCast? "(short) " cs).bind (signed? (integer? 32))).map (narrowed 16)
  | .int => (signed? (integer? 32) cs).map .integer
  | .long => ((beforeSuffix? ['l', 'L'] cs).bind (signed? (integer? 64))).map .integer
  | .float => ((beforeSuffix? ['f', 'F'] cs).bind (signed? (real? .single true))).map .real
  | .double =>
    (((beforeSuffix? ['d', 'D'] cs).bind (signed? (real? .double true))).or
      (signed? (real? .double false) cs)).map .real
  | .char => (charConstant? (input text)).map .unit
  | _ => none

/-! ## Texts in front and behind -/

theorem map_ofNat_charUnits {cs : List Char} (h : ∀ c ∈ cs, c.toNat < 0x10000) :
    (cs.flatMap charUnits).map Char.ofNat = cs := by
  induction cs with
  | nil => rfl
  | cons c cs ih =>
    obtain ⟨hc, hRest⟩ := List.forall_mem_cons.mp h
    rw [List.flatMap_cons, charUnits, if_pos hc, List.singleton_append, List.map_cons,
      Char.ofNat_toNat, ih hRest]

/-- The character is read as itself: it is one unit wide, and not interpreted. -/
def isRaw (c : Char) : Bool :=
  !interpreted.contains c && c.toNat < 0x10000

theorem isRaw_iff {c : Char} : isRaw c = true ↔ c ∉ interpreted ∧ c.toNat < 0x10000 := by
  simp [isRaw]

theorem readable_append_of_raw {text : String} (h : text.toList.all isRaw = true) (rest : String) :
    readable (text ++ rest) = text.toList ++ readable rest := by
  have hRaw : ∀ c ∈ text.toList, c ∉ interpreted ∧ c.toNat < 0x10000 :=
    fun c hc => isRaw_iff.mp (List.all_eq_true.mp h c hc)
  rw [readable, input, String.toList_append, inputFrom_append_of_plain fun c hc => (hRaw c hc).1,
    List.map_append, map_ofNat_charUnits fun c hc => (hRaw c hc).2]
  rfl

theorem readable_of_raw {text : String} (h : text.toList.all isRaw = true) :
    readable text = text.toList := by
  have hRead := readable_append_of_raw h ""
  rwa [String.append_empty, readable, readable, input_empty, List.map_nil, List.append_nil] at hRead

theorem afterCast?_append (cast : String) (cs : List Char) :
    afterCast? cast (cast.toList ++ cs) = some cs := by
  rw [afterCast?, if_pos (List.prefix_append _ _), List.drop_left]

theorem beforeSuffix?_append {marks : List Char} {c : Char} (h : c ∈ marks) (cs : List Char) :
    beforeSuffix? marks (cs ++ [c]) = some cs := by
  rw [beforeSuffix?, List.getLast?_concat, List.dropLast_concat, if_pos (by simpa using h)]

/-- The character is the last digit of the escape that ends in it. -/
def Completes (c : Char) (u : Nat) : Prop :=
  ∃ d, Json.hexValue? c = some d ∧ u % 16 = d % 16

theorem unicodeEscape?_append_singleton {c : Char} (hMark : c ≠ 'u') (cs : List Char) :
    (unicodeEscape? (cs ++ [c]) = (unicodeEscape? cs).map fun e => (e.1, e.2 ++ [c])) ∨
      unicodeEscape? cs = none ∧ ∃ u, unicodeEscape? (cs ++ [c]) = some (u, []) ∧ Completes c u := by
  have hDigits : (cs ++ [c]).dropWhile (· == 'u') = cs.dropWhile (· == 'u') ++ [c] := by
    rw [List.dropWhile_append]
    split
    · rename_i hNone
      rw [List.isEmpty_iff.mp hNone]
      simp [hMark]
    · rfl
  rw [unicodeEscape?, unicodeEscape?, hDigits]
  cases cs with
  | nil => simp [hMark]
  | cons b cs =>
    rw [List.cons_append, List.head?_cons, List.head?_cons]
    split
    · rcases (b :: cs).dropWhile (· == 'u') with _ | ⟨d₁, _ | ⟨d₂, _ | ⟨d₃, _ | ⟨d₄, rest⟩⟩⟩⟩
      · exact .inl rfl
      · exact .inl rfl
      · exact .inl rfl
      · cases hHex : Json.hex4? d₁ d₂ d₃ c with
        | none => exact .inl (by simp [hHex])
        | some u =>
          refine .inr ⟨rfl, u, by simp [hHex], ?_⟩
          simp only [Json.hex4?, Option.bind_eq_bind, Option.bind_eq_some_iff, Option.pure_def,
            Option.some.injEq] at hHex
          obtain ⟨v₁, -, v₂, -, v₃, -, v₄, hLast, rfl⟩ := hHex
          exact ⟨v₄, hLast, by omega⟩
      · cases hHex : Json.hex4? d₁ d₂ d₃ d₄ with
        | none => exact .inl (by simp [hHex])
        | some u => exact .inl (by simp [hHex])
    · exact .inl rfl

theorem unicodeEscapeAt?_append_singleton {c : Char} (hMark : c ≠ 'u') (even : Bool) (b : Char)
    (cs : List Char) :
    (unicodeEscapeAt? even b (cs ++ [c]) =
        (unicodeEscapeAt? even b cs).map fun e => (e.1, e.2 ++ [c])) ∨
      unicodeEscapeAt? even b cs = none ∧ b = '\\' ∧
        ∃ u, unicodeEscapeAt? even b (cs ++ [c]) = some (u, []) ∧ Completes c u := by
  rw [unicodeEscapeAt?, unicodeEscapeAt?]
  split
  · rename_i hBackslash
    rcases unicodeEscape?_append_singleton hMark cs with hApart | ⟨hOpen, hCompleted⟩
    · exact .inl hApart
    · exact .inr ⟨hOpen, hBackslash.1, hCompleted⟩
  · exact .inl rfl

/-- A character behind a text stays apart from it, unless it is the last digit of a Unicode escape
that the text leaves open. -/
theorem inputFrom_append_singleton {c : Char} (hSlash : c ≠ '\\') (hMark : c ≠ 'u') (even : Bool)
    (cs : List Char) :
    inputFrom even (cs ++ [c]) = inputFrom even cs ++ charUnits c ∨
      '\\'.toNat ∈ inputFrom even cs ∧
        ∃ us u, inputFrom even (cs ++ [c]) = us ++ [u] ∧ Completes c u := by
  induction even, cs using inputFrom.induct with
  | case1 even =>
    rw [List.nil_append, inputFrom_of_ne hSlash, inputFrom, inputFrom, List.append_nil]
    exact .inl rfl
  | case2 even b cs u after hSome ih =>
    have hLonger : unicodeEscapeAt? even b (cs ++ [c]) = some (u, after ++ [c]) := by
      rcases unicodeEscapeAt?_append_singleton hMark even b cs with hApart | ⟨hOpen, -⟩
      · rw [hApart, hSome]
        rfl
      · rw [hSome] at hOpen
        cases hOpen
    rw [List.cons_append, inputFrom_of_some hLonger, inputFrom_of_some hSome]
    rcases ih with hApart | ⟨hOpen, us, v, hLast, hCompletes⟩
    · exact .inl (by rw [hApart, List.cons_append])
    · exact .inr ⟨List.mem_cons_of_mem _ hOpen, u :: us, v, by rw [hLast, List.cons_append],
        hCompletes⟩
  | case3 even b cs hNone ih =>
    rw [List.cons_append, inputFrom_of_none hNone]
    rcases unicodeEscapeAt?_append_singleton hMark even b cs with
      hApart | ⟨-, rfl, u, hCompleted, hCompletes⟩
    · rw [hNone] at hApart
      rw [inputFrom_of_none hApart]
      rcases ih with hRest | ⟨hOpen, us, v, hLast, hCompletes⟩
      · exact .inl (by rw [hRest, List.append_assoc])
      · refine .inr ⟨List.mem_append_right _ hOpen, charUnits b ++ us, v, ?_, hCompletes⟩
        rw [hLast, List.append_assoc]
    · rw [inputFrom_of_some hCompleted, inputFrom]
      exact .inr ⟨List.mem_append_left _ (by decide), [], u, rfl, hCompletes⟩

theorem eq_toNat_of_ofNat {u : Nat} {c : Char} (hNull : c ≠ '\x00') (h : Char.ofNat u = c) :
    u = c.toNat := by
  by_cases hValid : u.isValidChar
  · rw [← h, Char.ofNat, dif_pos hValid]
    rfl
  · rw [Char.ofNat, dif_neg hValid] at h
    exact absurd h.symm hNull

section Suffix

variable (value : String)

theorem readable_append_L : readable (value ++ "L") = readable value ++ ['L'] := by
  rw [readable, input, String.toList_append]
  rcases inputFrom_append_singleton (c := 'L') (by decide) (by decide) true value.toList with
    hApart | ⟨-, us, u, -, d, hDigit, -⟩
  · rw [show "L".toList = ['L'] from rfl, hApart, List.map_append]
    rfl
  · cases hDigit

/-- No escape that ends in the digit `f` spells a suffix. -/
theorem readable_append_f : readable (value ++ "f") = readable value ++ ['f'] ∨
    '\\' ∈ readable value ∧ beforeSuffix? ['f', 'F'] (readable (value ++ "f")) = none := by
  rw [readable, input, String.toList_append, show "f".toList = ['f'] from rfl]
  rcases inputFrom_append_singleton (c := 'f') (by decide) (by decide) true value.toList with
    hApart | ⟨hOpen, us, u, hLast, d, hDigit, hUnit⟩
  · rw [hApart, List.map_append]
    exact .inl rfl
  · refine .inr ⟨List.mem_map.mpr ⟨_, hOpen, by decide⟩, ?_⟩
    obtain rfl : 15 = d := by
      rw [show Json.hexValue? 'f' = some 15 by decide] at hDigit
      exact Option.some.inj hDigit
    have hOther : ∀ c ∈ ['f', 'F'], Char.ofNat u ≠ c := by
      intro c hc hEq
      obtain rfl | rfl : c = 'f' ∨ c = 'F' := by simpa using hc
      · exact absurd (eq_toNat_of_ofNat (by decide) hEq ▸ hUnit) (by decide)
      · exact absurd (eq_toNat_of_ofNat (by decide) hEq ▸ hUnit) (by decide)
    rw [hLast, List.map_append, List.map_singleton, beforeSuffix?, List.getLast?_concat]
    exact if_neg (by simpa using hOther)

end Suffix

theorem signed?_of_backslash {α : Type} {read : Bool → List Char → Option α} {cs : List Char}
    (h : '\\' ∈ cs) : signed? read cs = none := by
  have hOther : ¬ cs.all isNumeralChar = true := fun hAll =>
    absurd (List.all_eq_true.mp hAll _ h) (by decide)
  rw [signed?, if_neg hOther]

/-! ## What a text spells -/

/-- What a text denotes as a default of the type for a kind of value, in the form it has there. A
character is one unit wide. -/
def spelled? (kind : ContentKind) (value : String) : Option Value :=
  let cs := readable value
  match kind with
  | .byte => (signed? (integer? 32) cs).map (narrowed 8)
  | .short => (signed? (integer? 32) cs).map (narrowed 16)
  | .long => (signed? (integer? 64) cs).map .integer
  | .float => (signed? (real? .single true) cs).map .real
  | .char =>
    match value.toList with
    | [c] => if c.toNat < 0x10000 then some (.unit c.toNat) else none
    | _ => none
  | kind => constant? kind value

theorem constant?_float (value : String) :
    constant? .float (value ++ "f") = spelled? .float value := by
  rw [constant?, spelled?]
  rcases readable_append_f value with hApart | ⟨hOpen, hNone⟩
  · simp only [hApart, beforeSuffix?_append (show 'f' ∈ ['f', 'F'] by decide), Option.bind_some]
  · simp only [hNone, signed?_of_backslash hOpen, Option.bind_none]

theorem input_quotedChar (cs : List Char) :
    input (String.ofList ('\'' :: (cs ++ ['\'']))) = '\''.toNat :: inputFrom true (cs ++ ['\'']) := by
  rw [input, String.toList_ofList, inputFrom_of_ne (by decide)]
  rfl

theorem charConstant?_escaped {c : Char} {v : Nat} (hMark : c ≠ 'u')
    (hUnits : charUnits c = [c.toNat]) (hOctal : isOctalDigit c.toNat = false)
    (hLetter : simpleEscapes.lookup c.toNat = some v) :
    charConstant? (input (String.ofList ('\'' :: (['\\', c] ++ ['\''])))) = some v := by
  rw [input_quotedChar, List.cons_append, List.singleton_append, inputFrom_escaped hMark, hUnits,
    inputFrom_of_ne (by decide), inputFrom, charConstant?, if_neg (by decide), if_pos rfl,
    List.singleton_append, escape?_letter hOctal, hLetter]
  rfl

theorem charConstant?_charLiteral {value : String} {c : Char} (h : value.toList = [c]) :
    charConstant? (input (charLiteral value)) =
      if c.toNat < 0x10000 then some c.toNat else none := by
  rw [charLiteral, h]
  by_cases hSpecial : c ∈ ['\'', '\\', '\n', '\r', '\t']
  · simp only [List.mem_cons, List.not_mem_nil, or_false] at hSpecial
    rcases hSpecial with rfl | rfl | rfl | rfl | rfl
    all_goals exact charConstant?_escaped (by decide) rfl rfl rfl
  · obtain ⟨hQuote, hSlash, hNewLine, hReturn, hTab⟩ :
        c ≠ '\'' ∧ c ≠ '\\' ∧ c ≠ '\n' ∧ c ≠ '\r' ∧ c ≠ '\t' := by
      simpa using hSpecial
    have hItself : literalChar '\'' c = [c] := by
      simp [literalChar, hQuote, hSlash, hNewLine, hReturn, hTab]
    simp only [hItself]
    rw [input_quotedChar, List.singleton_append, inputFrom_of_ne hSlash,
      inputFrom_of_ne (by decide), inputFrom, charUnits]
    split
    · have hUnit : c.toNat ∉ ['\'', '\n', '\r'].map Char.toNat := by
        rw [toNat_mem_map]
        simp [hQuote, hNewLine, hReturn]
      rw [List.singleton_append, charConstant?, if_neg (by decide),
        if_neg fun hEq => hSlash (Char.toNat_inj.mp hEq), if_pos ⟨rfl, hUnit⟩]
    · have hHigh : 0xD800 + (c.toNat - 0x10000) / 0x400 ≠ '\\'.toNat := by
        have hSmall : '\\'.toNat = 92 := rfl
        omega
      rw [List.cons_append, charConstant?, if_neg (by decide), if_neg hHigh,
        if_neg fun hOne => absurd (congrArg List.length hOne.1) (by simp [charUnits])]

/-- What a default denotes can be read off it, whatever is put before and behind it. -/
theorem constant?_literal {kind : ContentKind} (hPrimitive : kind.valueType.isPrimitive = true)
    {value : String} (hChar : kind = .char → value.length = 1) :
    constant? kind (kind.valueType.literal value) = spelled? kind value := by
  cases kind with
  | string | decimal | date | bound => cases hPrimitive
  | boolean | int | double => rfl
  | byte =>
    have hRead := readable_append_of_raw (show "(byte) ".toList.all isRaw = true by decide) value
    simp only [constant?, spelled?, ContentKind.valueType, ValueType.literal, ValueType.primitive,
      hRead, afterCast?_append, Option.bind_some]
  | short =>
    have hRead := readable_append_of_raw (show "(short) ".toList.all isRaw = true by decide) value
    simp only [constant?, spelled?, ContentKind.valueType, ValueType.literal, ValueType.primitive,
      hRead, afterCast?_append, Option.bind_some]
  | long =>
    simp only [constant?, spelled?, ContentKind.valueType, ValueType.literal, ValueType.primitive,
      readable_append_L, beforeSuffix?_append (show 'L' ∈ ['l', 'L'] by decide), Option.bind_some]
  | float => exact constant?_float value
  | char =>
    obtain ⟨c, hSingle⟩ := List.length_eq_one_iff.mp (hChar rfl)
    have hRead := charConstant?_charLiteral hSingle
    simp only [constant?, spelled?, ContentKind.valueType, ValueType.literal, ValueType.primitive,
      hRead, hSingle]
    split <;> rfl

/-! ## Numbers of the integer types -/

/-- The bits of an integer type. -/
def integerBits? : ContentKind → Option Nat
  | .byte => some 8
  | .short => some 16
  | .int => some 32
  | .long => some 64
  | _ => none

/-- The number is one of an integer type of so many bits. -/
def Fits (bits : Nat) (n : Int) : Prop :=
  -(signBit bits : Int) ≤ n ∧ n < signBit bits

theorem capacity_eq {bits : Nat} (h : 0 < bits) : capacity bits = signBit bits * 2 := by
  obtain ⟨more, rfl⟩ : ∃ more, bits = more + 1 := ⟨bits - 1, by omega⟩
  rfl

theorem signBit_pos (bits : Nat) : 0 < signBit bits :=
  Nat.pow_pos (by decide)

theorem Fits.mono {bits more : Nat} {n : Int} (h : Fits bits n) (hMore : bits ≤ more) :
    Fits more n := by
  have hBit : signBit bits ≤ signBit more :=
    Nat.pow_le_pow_right (by decide) (Nat.sub_le_sub_right hMore 1)
  obtain ⟨hLow, hHigh⟩ := h
  exact ⟨by omega, by omega⟩

theorem bmod_of_fits {bits : Nat} (hBits : 0 < bits) {n : Int} (h : Fits bits n) :
    n.bmod (capacity bits) = n := by
  obtain ⟨hLow, hHigh⟩ := h
  rw [capacity_eq hBits]
  apply Int.bmod_eq_of_le
  · omega
  · omega

theorem fits_bmod {bits : Nat} (hBits : 0 < bits) (n : Int) :
    Fits bits (n.bmod (capacity bits)) := by
  have hBit := signBit_pos bits
  rw [capacity_eq hBits]
  have hLow := Int.le_bmod (x := n) (Nat.mul_pos hBit (by decide : 0 < 2))
  have hHigh := Int.bmod_lt (x := n) (Nat.mul_pos hBit (by decide : 0 < 2))
  exact ⟨by omega, by omega⟩

theorem fits_withSign {bits n : Nat} {negative : Bool}
    (h : n < signBit bits ∨ negative ∧ n = signBit bits) : Fits bits (withSign negative n) := by
  have hBit := signBit_pos bits
  cases negative with
  | true =>
    have hMost : n ≤ signBit bits := h.elim Nat.le_of_lt fun hEq => Nat.le_of_eq hEq.2
    have hFits : -(signBit bits : Int) ≤ -(n : Int) ∧ -(n : Int) < signBit bits := by omega
    exact hFits
  | false =>
    have hBelow : n < signBit bits := h.elim id fun hEq => absurd hEq.1 (by decide)
    have hFits : -(signBit bits : Int) ≤ (n : Int) ∧ (n : Int) < signBit bits := by omega
    exact hFits

theorem fits_of_integer? {bits : Nat} (hBits : 0 < bits) {negative : Bool} {cs : List Char} {n : Int}
    (h : integer? bits negative cs = some n) : Fits bits n := by
  obtain ⟨⟨isDecimal, m⟩, -, hRead⟩ := Option.bind_eq_some_iff.mp h
  dsimp only at hRead
  split at hRead
  · split at hRead
    · cases hRead
      exact fits_withSign ‹_›
    · cases hRead
  · split at hRead
    · cases hRead
      exact fits_bmod hBits _
    · cases hRead

theorem fits_of_signed? {bits : Nat} (hBits : 0 < bits) {cs : List Char} {n : Int}
    (h : signed? (integer? bits) cs = some n) : Fits bits n := by
  rw [signed?] at h
  split at h
  · exact fits_of_integer? hBits h
  · cases h

/-- A constant of an integer type denotes a number of that type. -/
theorem fits_of_constant? {kind : ContentKind} {bits : Nat} (hBits : integerBits? kind = some bits)
    {text : String} {n : Int} (h : constant? kind text = some (.integer n)) : Fits bits n := by
  cases kind with
  | byte | short =>
    cases hBits
    obtain ⟨m, -, hEq⟩ := Option.map_eq_some_iff.mp h
    cases hEq
    exact fits_bmod (by decide) m
  | int =>
    cases hBits
    obtain ⟨m, hRead, hEq⟩ := Option.map_eq_some_iff.mp h
    cases hEq
    exact fits_of_signed? (by decide) hRead
  | long =>
    cases hBits
    obtain ⟨m, hRead, hEq⟩ := Option.map_eq_some_iff.mp h
    cases hEq
    obtain ⟨cs, -, hRead⟩ := Option.bind_eq_some_iff.mp hRead
    exact fits_of_signed? (by decide) hRead
  | _ => cases hBits

theorem between_of_isDigit {c : Char} (h : c.isDigit = true) : '0' ≤ c ∧ c ≤ '9' := by
  simpa [Char.isDigit, Char.le_def] using h

theorem digitIn?_of_isDigit {c : Char} (h : c.isDigit = true) :
    Toml.digitIn? 10 c = some (Json.digitValue c) := by
  obtain ⟨hLow, hHigh⟩ := between_of_isDigit h
  have hSmall : Json.digitValue c < 10 := by
    have hNine : c.toNat ≤ 57 := hHigh
    rw [Json.digitValue, show '0'.toNat = 48 from rfl]
    omega
  simp only [Toml.digitIn?, hLow, hHigh, decide_true, Bool.and_self, if_true]
  exact Option.filter_eq_some_iff.mpr ⟨rfl, decide_eq_true hSmall⟩

theorem natIn_of_isDigit {ds : List Char} (h : ∀ c ∈ ds, c.isDigit = true) :
    natIn 10 ds = Json.natOfDigits ds := by
  have hFold : ∀ n, ds.foldl (fun n c => 10 * n + (Toml.digitIn? 10 c).getD 0) n =
      ds.foldl (fun n c => 10 * n + Json.digitValue c) n := by
    induction ds with
    | nil => exact fun n => rfl
    | cons d ds ih =>
      obtain ⟨hd, hRest⟩ := List.forall_mem_cons.mp h
      intro n
      rw [List.foldl_cons, List.foldl_cons, digitIn?_of_isDigit hd, Option.getD_some, ih hRest]
  exact hFold 0

theorem isDigit_toDigits (n : Nat) : ∀ c ∈ Nat.toDigits 10 n, c.isDigit = true :=
  fun _ => Nat.isDigit_of_mem_toDigits (by decide) (by decide)

theorem digits?_toDigits (n : Nat) : digits? 10 (Nat.toDigits 10 n) = some n := by
  have hIn : ∀ c ∈ Nat.toDigits 10 n, isDigitIn 10 c = true := fun c hc => by
    rw [isDigitIn, digitIn?_of_isDigit (isDigit_toDigits n c hc), Option.isSome_some]
  have hUngroup : ungroup (Nat.toDigits 10 n) = Nat.toDigits 10 n := by
    apply List.filter_eq_self.mpr
    intro c hc
    have hDigit := isDigit_toDigits n c hc
    rw [bne_iff_ne]
    rintro rfl
    exact absurd hDigit (by decide)
  have hDigits : isDigits 10 (Nat.toDigits 10 n) = true := by
    rw [isDigits, List.head?_eq_some_head Nat.toDigits_ne_nil,
      List.getLast?_eq_some_getLast Nat.toDigits_ne_nil, Option.any_some, Option.any_some,
      hIn _ (List.head_mem _), hIn _ (List.getLast_mem _)]
    exact List.all_eq_true.mpr fun c hc => Bool.or_eq_true_iff.mpr (.inr (hIn c hc))
  rw [digits?, if_pos hDigits, hUngroup, natIn_of_isDigit (isDigit_toDigits n),
    Json.natOfDigits_toDigits]

theorem numeral?_toDigits (n : Nat) : numeral? (Nat.toDigits 10 n) = some (true, n) := by
  have hRead := digits?_toDigits n
  rcases Nat.eq_zero_or_pos n with rfl | hPos
  · decide
  · have hHead := Json.head_toDigits_ne_zero hPos
    rw [numeral?, hRead]
    · rfl
    · intro c cs hEq
      exact hHead (congrArg List.head? hEq)

theorem takeSign_toDigits (n : Nat) :
    takeSign (Nat.toDigits 10 n) = (false, Nat.toDigits 10 n) := by
  obtain ⟨d, ds, hAll, hDigit⟩ := Json.exists_toDigits_eq_cons n
  rw [hAll, takeSign]
  · intro rest hEq
    cases hEq
    exact absurd hDigit (by decide)
  · intro rest hEq
    cases hEq
    exact absurd hDigit (by decide)

theorem isNumeralChar_toDigits (n : Nat) : (Nat.toDigits 10 n).all isNumeralChar = true := by
  refine List.all_eq_true.mpr fun c hc => ?_
  rw [isNumeralChar, Char.isAlphanum, isDigit_toDigits n c hc, Bool.or_true, Bool.true_or]

theorem signed?_toString {bits : Nat} {n : Int} (h : Fits bits n) :
    signed? (integer? bits) (toString n).toList = some n := by
  obtain ⟨hLow, hHigh⟩ := h
  cases n with
  | ofNat m =>
    have hFits : m < signBit bits := by
      have hCast : (m : Int) < signBit bits := hHigh
      omega
    rw [Json.toList_toString_ofNat, signed?, if_pos (isNumeralChar_toDigits m), takeSign_toDigits,
      integer?, numeral?_toDigits, Option.bind_some, if_pos rfl, if_pos (.inl hFits)]
    rfl
  | negSucc m =>
    have hFits : m + 1 ≤ signBit bits := by
      rw [Int.negSucc_eq] at hLow
      omega
    have hSplit := (Nat.lt_or_eq_of_le hFits).imp_right fun hEq => And.intro (rfl : true = true) hEq
    have hChars : ('-' :: Nat.toDigits 10 (m + 1)).all isNumeralChar = true := by
      rw [List.all_cons, isNumeralChar_toDigits]
      decide
    rw [Json.toList_toString_negSucc, signed?, if_pos hChars, takeSign, integer?,
      numeral?_toDigits, Option.bind_some, if_pos rfl, if_pos hSplit]
    rfl

theorem isRaw_toDigits (n : Nat) : (Nat.toDigits 10 n).all isRaw = true := by
  refine List.all_eq_true.mpr fun c hc => isRaw_iff.mpr ?_
  have hDigit := isDigit_toDigits n c hc
  have hNine : c.toNat ≤ 57 := (between_of_isDigit hDigit).2
  refine ⟨fun hIn => ?_, by omega⟩
  simp only [interpreted, List.mem_cons, List.not_mem_nil, or_false] at hIn
  rcases hIn with rfl | rfl | rfl | rfl <;> exact absurd hDigit (by decide)

theorem readable_toString (n : Int) : readable (toString n) = (toString n).toList := by
  apply readable_of_raw
  cases n with
  | ofNat m =>
    rw [Json.toList_toString_ofNat]
    exact isRaw_toDigits m
  | negSucc m =>
    rw [Json.toList_toString_negSucc, List.all_cons, isRaw_toDigits]
    decide

/-- Every number of an integer type is denoted by its decimal numeral. -/
theorem constant?_numeral {kind : ContentKind} {bits : Nat} (hBits : integerBits? kind = some bits)
    {n : Int} (h : Fits bits n) :
    constant? kind (kind.valueType.literal (toString n)) = some (.integer n) := by
  have hPrimitive : kind.valueType.isPrimitive = true := by
    cases kind <;> first | rfl | cases hBits
  have hOther : kind ≠ .char := by
    rintro rfl
    cases hBits
  have hRead := readable_toString n
  rw [constant?_literal hPrimitive fun hChar => absurd hChar hOther]
  cases kind with
  | byte | short =>
    cases hBits
    have hInt : signed? (integer? 32) (toString n).toList = some n :=
      signed?_toString (h.mono (by decide))
    rw [spelled?, hRead, hInt, Option.map_some, narrowed,
      bmod_of_fits (by decide) h]
  | int | long =>
    cases hBits
    simp only [spelled?, constant?, hRead, signed?_toString h, Option.map_some]
  | _ => cases hBits

end BeanGen.Java
