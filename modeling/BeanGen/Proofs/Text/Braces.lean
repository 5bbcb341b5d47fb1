import BeanGen.Proofs.Schema.Comment
import BeanGen.Proofs.Text.Casing
import Mathlib.Algebra.Group.Defs
import Mathlib.Data.String.Basic

/-!
# Braces of a text

Taking out braces that match leaves closing braces, then opening ones. These remains of two texts
give those of the texts put together, so the braces of a long text can be counted piece by piece.
A text is balanced if nothing is left; a text without braces is.
-/

namespace BeanGen.Text

/-- What is left when matching braces are taken out: closing braces, then opening ones. -/
@[ext]
structure Braces where
  closing : Nat
  opening : Nat
  deriving DecidableEq, Repr

namespace Braces

/-- The opening braces of the first part match as many closing ones of the second as there are. -/
instance : Mul Braces where
  mul a b := ⟨a.closing + (b.closing - a.opening), b.opening + (a.opening - b.closing)⟩

instance : One Braces where
  one := ⟨0, 0⟩

theorem closing_mul (a b : Braces) : (a * b).closing = a.closing + (b.closing - a.opening) :=
  rfl

theorem opening_mul (a b : Braces) : (a * b).opening = b.opening + (a.opening - b.closing) :=
  rfl

theorem closing_one : (1 : Braces).closing = 0 :=
  rfl

theorem opening_one : (1 : Braces).opening = 0 :=
  rfl

instance : Monoid Braces where
  mul_assoc a b c := by
    ext
    · simp only [closing_mul, opening_mul]
      omega
    · simp only [closing_mul, opening_mul]
      omega
  one_mul a := by
    ext
    · simp [closing_mul, closing_one, opening_one]
    · simp [opening_mul, opening_one]
  mul_one a := by
    ext
    · simp [closing_mul, closing_one]
    · simp [opening_mul, opening_one, closing_one]

def left : Braces :=
  ⟨0, 1⟩

def right : Braces :=
  ⟨1, 0⟩

def ofChar (c : Char) : Braces :=
  if c = '\x7b' then left else if c = '\x7d' then right else 1

def ofChars : List Char → Braces
  | [] => 1
  | c :: cs => ofChar c * ofChars cs

theorem ofChars_append (cs ds : List Char) : ofChars (cs ++ ds) = ofChars cs * ofChars ds := by
  induction cs with
  | nil => rw [List.nil_append, ofChars, one_mul]
  | cons c cs ih => rw [List.cons_append, ofChars, ofChars, ih, mul_assoc]

/-- What is left differs by as much as the numbers of braces do. -/
theorem closing_add_count (cs : List Char) :
    (ofChars cs).closing + cs.count '\x7b' = (ofChars cs).opening + cs.count '\x7d' := by
  induction cs with
  | nil => rfl
  | cons c cs ih =>
    rw [ofChars, closing_mul, opening_mul, List.count_cons, List.count_cons, ofChar]
    by_cases hLeft : c = '\x7b'
    · subst hLeft
      simp [left]
      omega
    · by_cases hRight : c = '\x7d'
      · subst hRight
        simp [right]
        omega
      · simp [hLeft, hRight, closing_one, opening_one]
        omega

end Braces

def braces (text : String) : Braces :=
  .ofChars text.toList

theorem braces_append (a b : String) : braces (a ++ b) = braces a * braces b := by
  rw [braces, String.toList_append, Braces.ofChars_append]
  rfl

example : braces "\x7d else \x7b" = ⟨1, 1⟩ := by
  decide +kernel

/-- No prefix has more closing braces than opening ones, and the whole has as many of both. -/
structure Balanced (text : String) : Prop where
  ahead : ∀ before, before <+: text.toList → before.count '\x7d' ≤ before.count '\x7b'
  total : text.toList.count '\x7d' = text.toList.count '\x7b'

theorem balanced_of_braces {text : String} (h : braces text = 1) : Balanced text where
  ahead before := by
    rintro ⟨rest, hRest⟩
    have hCount := Braces.closing_add_count before
    have hClosing : (Braces.ofChars before * Braces.ofChars rest).closing = 0 := by
      rw [← Braces.ofChars_append, hRest]
      exact congrArg Braces.closing h
    rw [Braces.closing_mul] at hClosing
    omega
  total := by
    have hCount := Braces.closing_add_count text.toList
    have hClosing : (Braces.ofChars text.toList).closing = 0 := congrArg Braces.closing h
    have hOpening : (Braces.ofChars text.toList).opening = 0 := congrArg Braces.opening h
    omega

/-! ## Texts put together

A text is taken apart at its appends. All parts but the last leave nothing, so the braces that a
fixed part at the end leaves are those of the whole.
-/

def Braced (k : Braces) (text : String) : Prop :=
  braces text = k

namespace Braced

variable {k : Braces} {a b text : String}

theorem append (ha : Braced 1 a) (hb : Braced k b) : Braced k (a ++ b) := by
  rw [Braced, braces_append, show braces a = 1 from ha, show braces b = k from hb, one_mul]

/-- A fixed text, whose characters are at hand. -/
theorem ofList {cs : List Char} (h : Braces.ofChars cs = k) : Braced k (String.ofList cs) := by
  rw [Braced, braces, String.toList_ofList]
  exact h

theorem enclosed {before after : List Char} (hBefore : Braces.ofChars before = 1)
    (h : Braced 1 text) (hAfter : Braces.ofChars after = k) :
    Braced k (String.ofList before ++ text ++ String.ofList after) :=
  ((ofList hBefore).append h).append (ofList hAfter)

/-- A text that opens a brace, one between the braces, and one that closes it. -/
theorem wrapped {before after : String} (hBefore : Braced .left before) (h : Braced 1 text)
    (hAfter : Braced .right after) : Braced 1 (before ++ text ++ after) := by
  rw [Braced, braces_append, braces_append, show braces before = .left from hBefore,
    show braces text = 1 from h, show braces after = .right from hAfter]
  rfl

theorem join {texts : List String} (h : ∀ t ∈ texts, Braced 1 t) :
    Braced 1 (String.join texts) := by
  induction texts with
  | nil => exact rfl
  | cons t texts ih =>
    obtain ⟨hText, hRest⟩ := List.forall_mem_cons.mp h
    rw [String.join_cons]
    exact hText.append (ih hRest)

theorem intercalate {separator : String} (hSeparator : Braced 1 separator) {texts : List String}
    (h : ∀ t ∈ texts, Braced 1 t) : Braced 1 (String.intercalate separator texts) := by
  induction texts with
  | nil =>
    rw [String.intercalate_nil]
    exact rfl
  | cons t texts ih =>
    obtain ⟨hText, hRest⟩ := List.forall_mem_cons.mp h
    cases texts with
    | nil => rwa [String.intercalate_singleton]
    | cons next texts =>
      rw [String.intercalate_cons_cons]
      exact (hText.append hSeparator).append (ih hRest)

end Braced

/-! ## Texts without braces -/

def isBrace (c : Char) : Bool :=
  c == '\x7b' || c == '\x7d'

def Braceless (text : String) : Prop :=
  ∀ c ∈ text.toList, isBrace c = false

theorem braceless_iff_all {text : String} :
    Braceless text ↔ text.toList.all (!isBrace ·) = true := by
  simp [Braceless]

instance (text : String) : Decidable (Braceless text) :=
  decidable_of_iff _ braceless_iff_all.symm

namespace Braceless

variable {a b text : String}

theorem braced (h : Braceless text) : Braced 1 text := by
  have hAll : ∀ cs : List Char, (∀ c ∈ cs, isBrace c = false) → Braces.ofChars cs = 1 := by
    intro cs hChars
    induction cs with
    | nil => rfl
    | cons c cs ih =>
      obtain ⟨hHead, hTail⟩ := List.forall_mem_cons.mp hChars
      simp only [isBrace, Bool.or_eq_false_iff, beq_eq_false_iff_ne] at hHead
      rw [Braces.ofChars, ih hTail, mul_one, Braces.ofChar, if_neg hHead.1, if_neg hHead.2]
  exact hAll _ h

theorem append (ha : Braceless a) (hb : Braceless b) : Braceless (a ++ b) := by
  rw [Braceless, String.toList_append]
  exact List.forall_mem_append.mpr ⟨ha, hb⟩

theorem of_forall {cs : List Char} (h : ∀ c ∈ cs, isBrace c = false) :
    Braceless (String.ofList cs) := by
  rw [Braceless, String.toList_ofList]
  exact h

/-- A fixed text, whose characters are at hand. -/
theorem ofList {cs : List Char} (h : cs.all (!isBrace ·) = true) :
    Braceless (String.ofList cs) := by
  rw [braceless_iff_all, String.toList_ofList]
  exact h

/-- A text whose characters are all taken from one without braces. -/
theorem of_subset (h : Braceless text) {cs : List Char} (hChars : cs ⊆ text.toList) :
    Braceless (String.ofList cs) :=
  of_forall fun c hc => h c (hChars hc)

theorem join {texts : List String} (h : ∀ t ∈ texts, Braceless t) :
    Braceless (String.join texts) := by
  rw [Braceless, String.toList_join]
  exact List.forall_mem_flatMap.mpr h

end Braceless

/-! ## Derived texts -/

theorem isBrace_toUpper {c : Char} (h : isBrace c = false) : isBrace c.toUpper = false := by
  delta Char.toUpper
  split
  · rename_i hLetter
    simp only [isBrace, Bool.or_eq_false_iff, beq_eq_false_iff_ne]
    constructor
    all_goals
      intro hBrace
      have hNat := congrArg (fun d : Char => d.val.toNat) hBrace
      simp [UInt32.le_iff_toNat_le] at hNat hLetter
      omega
  · exact h

/-- Where the characters of a run move to, none is a brace. -/
def CaseRun.sparesBraces (r : CaseRun) : Bool :=
  (r.last : Int) + r.offset < 0x7B || 0x7D < (r.first : Int) + r.offset

theorem isBrace_mapCase {expansions : List (Nat × List Nat)} {shifts : List CaseRun}
    (hExpansions : ∀ e ∈ expansions, ∀ n ∈ e.2, n < 0x7B ∨ 0x7D < n)
    (hShifts : ∀ r ∈ shifts, r.sparesBraces = true) {c : Char} (hc : isBrace c = false) :
    ∀ d ∈ mapCase expansions shifts c, isBrace d = false := by
  have hAbsent : ∀ x : Char, 0x7B ≤ x.toNat → x.toNat ≤ 0x7D → c ≠ x →
      x ∉ mapCase expansions shifts c := by
    intro x hLow hHigh hNe
    refine not_mem_mapCase (by omega) (fun e he hn => ?_) (fun r hr => ?_) hNe
    · have hImage := hExpansions e he x.toNat hn
      omega
    · have hSpares := hShifts r hr
      simp only [CaseRun.sparesBraces, Bool.or_eq_true, decide_eq_true_eq] at hSpares
      omega
  simp only [isBrace, Bool.or_eq_false_iff, beq_eq_false_iff_ne] at hc ⊢
  intro d hd
  constructor
  · rintro rfl
    exact hAbsent '\x7b' (by decide) (by decide) hc.1 hd
  · rintro rfl
    exact hAbsent '\x7d' (by decide) (by decide) hc.2 hd

theorem isBrace_upper {c : Char} (h : isBrace c = false) : ∀ d ∈ upper c, isBrace d = false :=
  isBrace_mapCase (by decide +kernel) (by decide +kernel) h

theorem isBrace_lower {c : Char} (h : isBrace c = false) : ∀ d ∈ lower c, isBrace d = false :=
  isBrace_mapCase (by decide +kernel) (by decide +kernel) h

theorem isBrace_mapFirst {f : Char → List Char}
    (hf : ∀ c, isBrace c = false → ∀ d ∈ f c, isBrace d = false) {cs : List Char}
    (h : ∀ c ∈ cs, isBrace c = false) : ∀ d ∈ mapFirst f cs, isBrace d = false := by
  cases cs with
  | nil => exact h
  | cons c cs =>
    obtain ⟨hHead, hTail⟩ := List.forall_mem_cons.mp h
    exact List.forall_mem_append.mpr ⟨hf c hHead, hTail⟩

theorem intersperse_subset {α : Type} (separator : α) (xs : List α) :
    xs.intersperse separator ⊆ separator :: xs := by
  induction xs with
  | nil => exact List.nil_subset _
  | cons x xs ih =>
    cases xs with
    | nil => simp
    | cons y ys =>
      rw [List.intersperse_cons_cons]
      intro z hz
      have hRest := @ih z
      simp only [List.mem_cons] at hz hRest ⊢
      tauto

namespace Braceless

variable {text : String}

theorem capitalize (h : Braceless text) : Braceless (capitalize text) :=
  of_forall (isBrace_mapFirst (fun _ => isBrace_upper) h)

theorem decapitalize (h : Braceless text) : Braceless (decapitalize text) :=
  of_forall (isBrace_mapFirst (fun _ => isBrace_lower) h)

theorem asciiUpper (h : Braceless text) : Braceless (asciiUpper text) := by
  rw [Braceless, Text.asciiUpper, String.toList_map]
  exact List.forall_mem_map.mpr fun c hc => isBrace_toUpper (h c hc)

theorem oneLine (h : Braceless text) : Braceless (oneLine text) := by
  have hWords : ∀ word ∈ [' '] :: runs isBlank text.toList, ∀ c ∈ word, isBrace c = false := by
    refine List.forall_mem_cons.mpr ⟨List.forall_mem_singleton.mpr rfl, fun word hWord c hc => ?_⟩
    exact h c ((of_mem_runs hWord).1.subset hc)
  refine of_forall (forall_mem_shieldComment rfl (List.forall_mem_flatten.mpr fun word hWord => ?_))
  exact hWords word (intersperse_subset _ _ hWord)

theorem ofInt (n : Int) : Braceless (toString n) := by
  have hDigits : ∀ m : Nat, Braceless m.repr := by
    intro m c hc
    have hDigit : c.isDigit = true := by
      rw [Nat.repr, String.toList_ofList] at hc
      exact Nat.isDigit_of_mem_toDigits (by decide) (by decide) hc
    cases hBrace : isBrace c with
    | false => rfl
    | true =>
      simp only [isBrace, Bool.or_eq_true, beq_iff_eq] at hBrace
      rcases hBrace with rfl | rfl <;> cases hDigit
  cases n with
  | ofNat m => exact hDigits m
  | negSucc m => exact append (ofList (by decide)) (hDigits (m + 1))

end Braceless

end BeanGen.Text
