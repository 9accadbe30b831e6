import SpecForge.Proofs.Component.Async

/-!
# What a preview leaves out

The preview of a view calls an initializer. It leaves out the argument of a property where it relies
on the default of the parameter. Whether there is a default goes by the property being required, by
the default that is declared and by the type as it is declared; whether the argument is left out
goes by the name, by the property being required and by the type in Swift. Between these there is a
gap: properties whose argument is left out although their parameter has no default.

All actions are parameters without a default, and the call gives one closure at most.
-/

namespace SpecForge.Component

namespace Swift

open Text Lines

/-! ### Parameters with a default -/

/-- A default is printed for the parameter. -/
def Parameter.HasDefault (param : Parameter) : Prop :=
  ∃ literal, param.default = some literal ∧ literal ≠ ""

/-- Behind the type of a parameter stands its default, if it has one. -/
theorem Parameter.exists_text_eq (param : Parameter) :
    ∃ ending, param.text = param.name ++ ": " ++ param.type ++ ending ∧
      (ending ≠ "" ↔ param.HasDefault) := by
  unfold Parameter.text Parameter.HasDefault
  cases param.default with
  | none => exact ⟨"", by simp [toString], by simp⟩
  | some literal =>
      by_cases hempty : literal = ""
      · exact ⟨"", by simp [hempty, toString], by simp [hempty]⟩
      · exact ⟨" = " ++ literal, by simp [hempty, toString, String.append_assoc],
          by simp [hempty]⟩

/-- Is there a default to print? Where none is declared, an optional property is nothing. A declared
one that is empty is printed as a text, but not as something else. -/
def printsDefault (prop : ComponentProperty) : Bool :=
  match prop.default with
  | .null => endsWith prop.type "?"
  | value => ["String", "Bool", "Color"].contains (defaultBase prop.type) || !value.text.isEmpty

theorem printsDefault_of_ne_null {prop : ComponentProperty} (h : prop.default ≠ .null) :
    printsDefault prop = (["String", "Bool", "Color"].contains (defaultBase prop.type) ||
      !prop.default.text.isEmpty) := by
  rw [printsDefault]
  split
  · rename_i hnull
    exact absurd hnull h
  · rfl

theorem exists_defaultLiteral_of_ne_null {prop : ComponentProperty} (h : prop.default ≠ .null) :
    ∃ literal, defaultLiteral prop = some literal ∧ (literal ≠ "" ↔ printsDefault prop = true) := by
  have hquoted : ∀ s, quoted s ≠ "" := by
    intro s
    simp [quoted, Quoted.write, ← String.toList_inj]
  have htruth : ∀ b, truthText b ≠ "" := by decide
  have hbool : ∀ b, (Value.bool b).text ≠ "" := by decide
  rw [printsDefault_of_ne_null h]
  generalize hbase : defaultBase prop.type = base
  unfold defaultLiteral
  rw [hbase]
  split
  · rename_i hnull
    exact absurd hnull h
  · dsimp only
    split_ifs with hstring htype hcolor
    · exact ⟨_, rfl, iff_of_true (hquoted _) (by simp [eq_of_beq hstring])⟩
    · exact ⟨_, rfl, iff_of_true (htruth _) (by simp [eq_of_beq htype])⟩
    · exact ⟨_, rfl, iff_of_true (by simp) (by simp [eq_of_beq hcolor])⟩
    · have hnot : ["String", "Bool", "Color"].contains base = false := by
        rw [beq_iff_eq] at hstring htype hcolor
        simp [hstring, htype, hcolor]
      rw [hnot, Bool.false_or]
      split
      · rename_i b hb
        exact ⟨_, rfl, iff_of_true (htruth b) (by simp [hb, hbool b])⟩
      · exact ⟨_, rfl, by simp⟩

/-- A parameter has a default exactly if its property is not required and has a default to print. -/
theorem hasDefault_propertyParameter_iff (prop : ComponentProperty) :
    (propertyParameter prop).HasDefault ↔ prop.isRequired = false ∧ printsDefault prop = true := by
  unfold Parameter.HasDefault propertyParameter
  cases prop.isRequired with
  | true => simp
  | false =>
      by_cases hnull : prop.default = .null
      · simp [printsDefault, defaultLiteral, hnull]
      · obtain ⟨literal, hliteral, hne⟩ := exists_defaultLiteral_of_ne_null hnull
        simp only [hliteral, Bool.false_eq_true, if_false, Option.some_inj, true_and,
          exists_eq_left']
        exact hne

theorem not_hasDefault_actionParameter (isWrapped : Bool) (a : ComponentAction) :
    ¬ (actionParameter isWrapped a).HasDefault := by
  rintro ⟨literal, hdefault, _⟩
  cases hdefault

/-! ### Arguments that are left out -/

/-- The preview has a value for a property because of its name, or because it is a binding. -/
def hasSample (prop : ComponentProperty) : Bool :=
  prop.isBinding || titleNames.contains prop.name || prop.name == "message" ||
    (iconNames.contains prop.name || prop.name == "systemIcon")

/-- The preview has a value for required properties of the type. -/
def hasSampleOfType (type : String) : Bool :=
  type == "String" || type == "Bool" || (type == "Int" || type == "Double") ||
    startsWith type "[" || endsWith type "?"

theorem isSome_ite_some {α : Type} (b : Bool) (a : α) (o : Option α) :
    (if b = true then some a else o).isSome = (b || o.isSome) := by
  cases b <;> rfl

theorem isSome_ite_none {α : Type} (b : Bool) (o : Option α) :
    (if b = true then none else o).isSome = (!b && o.isSome) := by
  cases b <;> rfl

/-- An argument is left out where there is neither a value for the property nor, if it is required,
one for its type. -/
theorem isSome_previewValue (c : Component) (prop : ComponentProperty) :
    (previewValue c prop).isSome =
      (hasSample prop || prop.isRequired && hasSampleOfType prop.swiftType) := by
  simp only [previewValue, hasSample, hasSampleOfType, isSome_ite_some, isSome_ite_none,
    Option.isSome_none, Bool.or_false, Bool.not_not, Bool.or_assoc]

/-- Is the argument of a property given, or else a default for its parameter? -/
def isCovered (prop : ComponentProperty) : Bool :=
  hasSample prop || if prop.isRequired then hasSampleOfType prop.swiftType else printsDefault prop

theorem isCovered_iff (c : Component) (prop : ComponentProperty) :
    isCovered prop = true ↔ (previewValue c prop = none → (propertyParameter prop).HasDefault) := by
  have hnone : previewValue c prop = none ↔
      (hasSample prop || prop.isRequired && hasSampleOfType prop.swiftType) = false := by
    rw [← isSome_previewValue c, Option.isSome_eq_false_iff, Option.isNone_iff_eq_none]
  rw [hnone, hasDefault_propertyParameter_iff, isCovered]
  cases hasSample prop with
  | true => simp
  | false =>
      cases prop.isRequired with
      | true => simp
      | false => simp

/-! ### The call and the initializers -/

theorem map_snd_marked (acts : List ComponentAction) : (marked acts).map Prod.snd = acts := by
  induction acts with
  | nil => rfl
  | cons a acts ih =>
      rw [marked]
      split
      · simp [Function.comp_def]
      · rw [List.map_cons, ih]

/-- The parameters of an initializer that is printed: one for each property, with or without a
default, and one for each action. -/
theorem exists_parameters_eq {c : Component} {i : Initializer} (h : i ∈ printedInitializers c) :
    ∃ acts : List (Bool × ComponentAction), acts.map Prod.snd = c.actions ∧
      i.parameters = (c.properties.map propertyParameter ++
        acts.map fun a => actionParameter a.1 a.2).map Parameter.text := by
  have hplain : (c.actions.map ((false, ·) : ComponentAction → Bool × ComponentAction)).map
      Prod.snd = c.actions := by
    simp [Function.comp_def]
  have htexts : ∀ acts : List (Bool × ComponentAction),
      (printedInitializer c.properties acts).parameters = (c.properties.map propertyParameter ++
        acts.map fun a => actionParameter a.1 a.2).map Parameter.text := by
    intro acts
    simp [printedInitializer, Function.comp_def]
  rw [printedInitializers] at h
  split at h
  · rcases List.mem_cons.1 h with rfl | h
    · exact ⟨_, hplain, htexts _⟩
    · rw [List.mem_singleton.1 h]
      exact ⟨_, map_snd_marked c.actions, htexts _⟩
  · rw [List.mem_singleton.1 h]
    exact ⟨_, hplain, htexts _⟩

/-- The call of the view in the preview, up to the closing bracket. -/
def previewText (c : Component) : String :=
  "        " ++ c.name ++ "(" ++ ", ".intercalate (previewArguments c) ++ ")"

/-- A closure is opened behind the call if there is an action. -/
theorem previewText_mem (c : Component) (source : String) :
    previewText c ++ (if c.actions.isEmpty then "" else " \x7b") ∈ file c source := by
  have hcall : previewText c ++ (if c.actions.isEmpty then "" else " \x7b") ∈ previewCall c := by
    have hasync : c.hasAsyncAction = true → c.actions.isEmpty = false := by
      intro h
      obtain ⟨a, ha, _⟩ := List.any_eq_true.1 h
      exact List.isEmpty_eq_false_iff.2 (List.ne_nil_of_mem ha)
    unfold previewCall previewText
    split_ifs with hempty hsync
    all_goals simp_all [toString, ← String.toList_inj]
  exact List.mem_append_right _ (List.mem_append_left _ (List.mem_append_right _ hcall))

end Swift

open Swift

/-- The properties of a component are those that its specification declares, in order. -/
theorem forall₂_readProperty {doc : Value} {c : Component} (h : ofSpec doc = .ok c) :
    List.Forall₂ (fun v prop => readProperty v = .ok prop) (Shape.declared "properties" doc)
      c.properties := by
  obtain ⟨ms, hms, hproperties, _⟩ := exists_members_of_ofSpec h
  exact Shape.forall₂_declared hms hproperties

/-- What the preview of an accepted specification leaves out. The initializers take a parameter for
each declared property and for each action; those of the actions have no default, and the call gives
one closure if there is an action. The call leaves out no property whose parameter has no default
exactly if each property is a binding, or has a name or, being required, a type that the preview has
a value for, or has a default to print and is not required. -/
theorem preview_covers_iff {doc : Value} {c : Component} (h : ofSpec doc = .ok c)
    (source : String) :
    List.Forall₂ (fun v prop => readProperty v = .ok prop) (Shape.declared "properties" doc)
        c.properties ∧
      (∃ found, Lines.initializers? (file c source) = some found ∧ found ≠ [] ∧
        ∀ i ∈ found, ∃ acts : List (Bool × ComponentAction), acts.map Prod.snd = c.actions ∧
          i.parameters = (c.properties.map propertyParameter ++
            acts.map fun a => actionParameter a.1 a.2).map Parameter.text ∧
          ∀ a ∈ acts, ¬ (actionParameter a.1 a.2).HasDefault) ∧
      (∀ param : Swift.Parameter, ∃ ending,
        param.text = param.name ++ ": " ++ param.type ++ ending ∧
          (ending ≠ "" ↔ param.HasDefault)) ∧
      previewText c ++ (if c.actions.isEmpty then "" else " \x7b") ∈ file c source ∧
      ∀ prop ∈ c.properties,
        (previewValue c prop = none → (propertyParameter prop).HasDefault) ↔
          isCovered prop = true := by
  refine ⟨forall₂_readProperty h, ⟨_, initializers?_file c source, ?_, fun i hi => ?_⟩,
    Parameter.exists_text_eq, previewText_mem c source,
    fun prop _ => (isCovered_iff c prop).symm⟩
  · rw [printedInitializers]
    split <;> exact List.cons_ne_nil _ _
  · obtain ⟨acts, hacts, hparameters⟩ := exists_parameters_eq hi
    exact ⟨acts, hacts, hparameters, fun a _ => not_hasDefault_actionParameter a.1 a.2⟩

theorem preview_covers_basicSpec : ∃ c, ofSpec (basicSpec "LoadingButton" "buttons") = .ok c ∧
    "        LoadingButton(title: \"LoadingButton\") \x7b" ∈ file c "button.json" ∧
    ∀ prop ∈ c.properties, previewValue c prop = none → (propertyParameter prop).HasDefault := by
  obtain ⟨c, hok, hcovered, htext⟩ :
      ∃ c, ofSpec (basicSpec "LoadingButton" "buttons") = .ok c ∧
        (∀ prop ∈ c.properties, isCovered prop = true) ∧
        (previewText c ++ if c.actions.isEmpty then "" else " \x7b") =
          "        LoadingButton(title: \"LoadingButton\") \x7b" :=
    exists_ok_of_any (by decide +kernel)
  obtain ⟨_, _, _, hcall, hprops⟩ := preview_covers_iff hok "button.json"
  rw [htext] at hcall
  exact ⟨c, hok, hcall, fun prop hprop => (hprops prop hprop).2 (hcovered prop hprop)⟩

/-- A specification with a number that is neither required nor has a default. -/
def counterSpec : Value :=
  .record [("component", .str "Counter"), ("properties", .list [
    .record [("name", .str "count"), ("type", .str "Int")]])]

/-- The preview calls an initializer without an argument, and the only initializer takes one that
has no default. -/
theorem not_preview_covers_counterSpec : ∃ c, ofSpec counterSpec = .ok c ∧
    "        Counter()" ∈ file c "counter.json" ∧
    (∃ assignments, Lines.initializers? (file c "counter.json") =
      some [⟨["count: Int"], assignments⟩]) ∧
    ∃ prop ∈ c.properties, previewValue c prop = none ∧ ¬ (propertyParameter prop).HasDefault := by
  obtain ⟨c, hok, hprops, htext, hparameters⟩ : ∃ c, ofSpec counterSpec = .ok c ∧
      c.properties.map (fun prop => ((previewValue c prop).isSome, isCovered prop)) =
        [(false, false)] ∧
      (previewText c ++ if c.actions.isEmpty then "" else " \x7b") = "        Counter()" ∧
      (printedInitializers c).map (·.parameters) = [["count: Int"]] :=
    exists_ok_of_any (by decide +kernel)
  obtain ⟨prop, hsingle, hpair⟩ := List.map_eq_singleton_iff.1 hprops
  obtain ⟨hvalue, hcovered⟩ := Prod.mk.inj hpair
  obtain ⟨⟨params, assignments⟩, hinitializers, rfl⟩ := List.map_eq_singleton_iff.1 hparameters
  have hnone := Option.isNone_iff_eq_none.1 (Option.isSome_eq_false_iff.1 hvalue)
  have hprop : prop ∈ c.properties := by simp [hsingle]
  refine ⟨c, hok, htext ▸ previewText_mem c "counter.json", ⟨assignments, ?_⟩,
    prop, hprop, hnone, fun hdefault => ?_⟩
  · rw [initializers?_file, hinitializers]
  · rw [(isCovered_iff c prop).2 fun _ => hdefault] at hcovered
    cases hcovered

end SpecForge.Component
