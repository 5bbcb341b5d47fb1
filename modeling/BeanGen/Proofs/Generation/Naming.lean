import BeanGen.Proofs.Descriptor.Calls
import BeanGen.Proofs.Generation.History
import BeanGen.Settings.Validity

/-!
# Names of generated classes

The classes of a type have its qualified name with one of `suffixes` behind it. A generator only
knows the names of types, so the strategy is consulted when two types share a name, and not when the
names of two types differ by what is put behind them.
-/

namespace BeanGen.Generation

open Conflict Java

variable {σ : Type}

/-- What stands behind the name of a type in the names of its classes. -/
def suffixes (s : Settings) : List String :=
  "" :: ((if s.generateDescriptors then [s.descriptorSuffix] else []) ++
    if s.generateJdoDescriptors then [s.jdoDescriptorSuffix] else [])

def classNames (s : Settings) (name : String) : List String :=
  (suffixes s).map (name ++ ·)

theorem names_xmlClasses (s : Settings) (t : BoundType) :
    (xmlClasses s t).map (·.name) =
      (if s.generateDescriptors then [s.descriptorSuffix] else []).map (t.name ++ ·) := by
  rw [xmlClasses]
  split
  · simp [Descriptor.Xml.nameFor]
  · rfl

theorem names_relationalClasses {s : Settings} {t : BoundType} {classes : List ClassDecl}
    (h : relationalClasses s t = .ok classes) :
    classes.map (·.name) =
      (if s.generateJdoDescriptors then [s.jdoDescriptorSuffix] else []).map (t.name ++ ·) := by
  rcases relationalClasses_cases h with ⟨hAsked, rfl⟩ | ⟨hAsked, d, rfl, hDescribe⟩
  · simp [hAsked]
  · obtain ⟨identities, -, rfl⟩ := Descriptor.exists_identities_of_describe hDescribe
    simp [hAsked, Descriptor.Relational.nameFor]

theorem Step.names_of_ok {g : Generator} {t : BoundType} {dialog : Option (Dialog σ)} {source : σ}
    {o : Outcome σ (Generator × Except BindError (List ClassDecl))} (h : Step g t dialog source o)
    {classes : List ClassDecl} (hOk : o.value.2 = .ok classes) :
    classes.map (·.name) = classNames g.settings t.name := by
  obtain ⟨_, ⟨relational, hRelational, rfl⟩, _⟩ := h.of_ok hOk
  rw [List.map_cons, List.map_append, names_xmlClasses, names_relationalClasses hRelational,
    name_boundClass, classNames, suffixes, List.map_cons, List.map_append, String.append_empty]

namespace History

variable (s : Settings) (strategy : Strategy) (calls : List (Call σ))

theorem names_of_turn {turn : Turn} (hTurn : turn ∈ (after s strategy calls).turns)
    {classes : List ClassDecl} (hOk : turn.result = .ok classes) :
    classes.map (·.name) = classNames s (s.qualify turn.type.name) := by
  induction calls using List.reverseRecOn with
  | nil => cases hTurn
  | append_singleton calls call ih =>
    rw [after_append_singleton] at hTurn
    rcases List.mem_append.mp hTurn with hTurn | hTurn
    · exact ih hTurn
    · cases List.mem_singleton.mp hTurn
      have hNames := (call.step (after s strategy calls).generator).names_of_ok hOk
      rwa [settings_after] at hNames

/-- One of the classes has the name of a class that a turn returned. -/
def Repeats (h : History) (classes : List ClassDecl) : Prop :=
  ∃ turn ∈ h.turns, ∃ earlier, turn.result = .ok earlier ∧
    ∃ n ∈ classes.map (·.name), n ∈ earlier.map (·.name)

/-- A type was generated earlier whose name becomes, with something put behind it, a name of the
classes of this one. -/
def Overlaps (s : Settings) (h : History) (name : String) : Prop :=
  ∃ turn ∈ h.turns, ∃ other, turn.Produced s other ∧
    ∃ x ∈ suffixes s, ∃ y ∈ suffixes s, other ++ x = name ++ y

variable {s strategy calls}

theorem repeats_iff_overlaps {name : String} {classes : List ClassDecl}
    (hNames : classes.map (·.name) = classNames s name) :
    (after s strategy calls).Repeats classes ↔ (after s strategy calls).Overlaps s name := by
  constructor
  · rintro ⟨turn, hTurn, earlier, hOk, n, hNew, hOld⟩
    rw [hNames] at hNew
    rw [names_of_turn s strategy calls hTurn hOk] at hOld
    obtain ⟨y, hy, rfl⟩ := List.mem_map.mp hNew
    obtain ⟨x, hx, hEq⟩ := List.mem_map.mp hOld
    exact ⟨turn, hTurn, _, ⟨rfl, earlier, hOk⟩, x, hx, y, hy, hEq⟩
  · rintro ⟨turn, hTurn, other, ⟨rfl, earlier, hOk⟩, x, hx, y, hy, hEq⟩
    refine ⟨turn, hTurn, earlier, hOk, name ++ y, ?_, ?_⟩
    · rw [hNames]
      exact List.mem_map.mpr ⟨y, hy, rfl⟩
    · rw [names_of_turn s strategy calls hTurn hOk, ← hEq]
      exact List.mem_map.mpr ⟨x, hx, rfl⟩

theorem overlaps_of_emitted {other name x y : String}
    (hTaken : ((after s strategy calls).generator.emitted? other).isSome = true)
    (hx : x ∈ suffixes s) (hy : y ∈ suffixes s) (hEq : other ++ x = name ++ y) :
    (after s strategy calls).Overlaps s name := by
  obtain ⟨turn, hTurn, hProduced⟩ := (isSome_emitted?_after s strategy calls other).mp hTaken
  exact ⟨turn, hTurn, other, hProduced, x, hx, y, hy, hEq⟩

end History

/-- A name is taken again without a word exactly if no earlier type has the name of this one, but the
names of an earlier type and this one overlap once something is put behind them. -/
theorem repeats_unconsulted_iff (s : Settings) (strategy : Strategy) (calls : List (Call σ))
    (call : Call σ) {classes : List ClassDecl}
    (hOk : (call.outcome (History.after s strategy calls).generator).value.2 = .ok classes) :
    (Consulted (call.outcome (History.after s strategy calls).generator).trace ↔
      ∃ turn ∈ (History.after s strategy calls).turns,
        turn.Produced s (s.qualify call.type.name)) ∧
    ((History.after s strategy calls).Repeats classes ∧
        ¬ Consulted (call.outcome (History.after s strategy calls).generator).trace ↔
      (History.after s strategy calls).Overlaps s (s.qualify call.type.name) ∧
        ∀ turn ∈ (History.after s strategy calls).turns,
          ¬ turn.Produced s (s.qualify call.type.name)) := by
  have hStep := call.step (History.after s strategy calls).generator
  have hCheck := (hStep.of_ok hOk).1
  have hNames := hStep.names_of_ok hOk
  have hConsulted := hStep.consulted_iff
  rw [History.settings_after] at hCheck hNames hConsulted
  rw [and_iff_right hCheck, name_qualifiedType, History.isSome_emitted?_after] at hConsulted
  refine ⟨hConsulted, ?_⟩
  rw [hConsulted, History.repeats_iff_overlaps hNames]
  simp only [name_qualifiedType, not_exists, not_and]

def Call.ofName (name : String) : Call Unit :=
  ⟨.ofName name, none, ()⟩

def bothDescriptors : Settings :=
  { Settings.standard with generateJdoDescriptors := true }

/-- The XML descriptor of `OrderJDO` has the name of the relational descriptor of `Order`. -/
theorem repeats_unconsulted_descriptors :
    ∃ classes, ((Call.ofName "Order").outcome (History.after bothDescriptors .informViaLog
        [.ofName "OrderJDO"]).generator).value.2 = .ok classes ∧
      (History.after bothDescriptors .informViaLog [.ofName "OrderJDO"]).Repeats classes ∧
      ¬ Consulted ((Call.ofName "Order").outcome (History.after bothDescriptors .informViaLog
        [.ofName "OrderJDO"]).generator).trace := by
  have hSome : ((Call.ofName "Order").outcome (History.after bothDescriptors .informViaLog
      [.ofName "OrderJDO"]).generator).value.2.toOption.isSome = true := by decide +kernel
  have hTaken : ((History.after bothDescriptors .informViaLog
      [.ofName "OrderJDO"]).generator.emitted? "OrderJDO").isSome = true := by decide +kernel
  obtain ⟨classes, hOk⟩ := exists_ok_of_isSome hSome
  refine ⟨classes, hOk, ?_⟩
  apply (repeats_unconsulted_iff bothDescriptors .informViaLog [.ofName "OrderJDO"]
    (.ofName "Order") hOk).2.mpr
  constructor
  · have hXml : "Descriptor" ∈ suffixes bothDescriptors := by decide
    have hRelational : "JDODescriptor" ∈ suffixes bothDescriptors := by decide
    exact History.overlaps_of_emitted hTaken hXml hRelational (by decide +kernel)
  · intro turn hTurn hProduced
    have hEmitted := (History.isSome_emitted?_after _ _ _ _).mpr ⟨turn, hTurn, hProduced⟩
    exact absurd hEmitted (by decide +kernel)

/-- A type that is named as the descriptor of an earlier one takes that name without a word. -/
theorem descriptor_name_retaken_unconsulted :
    ¬ ∀ (s : Settings) (strategy : Strategy) (calls : List (Call Unit)) (call : Call Unit)
      (classes : List ClassDecl), s.check = .ok () →
      (call.outcome (History.after s strategy calls).generator).value.2 = .ok classes →
      (History.after s strategy calls).Repeats classes →
      Consulted (call.outcome (History.after s strategy calls).generator).trace := by
  intro h
  have hSome : ((Call.ofName "OrderDescriptor").outcome (History.after .standard .informViaLog
      [.ofName "Order"]).generator).value.2.toOption.isSome = true := by decide +kernel
  have hTaken : ((History.after .standard .informViaLog
      [.ofName "Order"]).generator.emitted? "Order").isSome = true := by decide +kernel
  have hStep := (Call.ofName "OrderDescriptor").step
    (History.after .standard .informViaLog [.ofName "Order"]).generator
  obtain ⟨classes, hOk⟩ := exists_ok_of_isSome hSome
  have hNames := hStep.names_of_ok hOk
  rw [History.settings_after] at hNames
  have hXml : "Descriptor" ∈ suffixes .standard := by decide
  have hClass : "" ∈ suffixes .standard := by decide
  have hRepeats := (History.repeats_iff_overlaps hNames).mpr
    (History.overlaps_of_emitted hTaken hXml hClass (by decide +kernel))
  have hConsulted := h .standard .informViaLog [.ofName "Order"] (.ofName "OrderDescriptor")
    classes (by decide +kernel) hOk hRepeats
  exact absurd (hStep.consulted_iff.mp hConsulted).2 (by decide +kernel)

end BeanGen.Generation
