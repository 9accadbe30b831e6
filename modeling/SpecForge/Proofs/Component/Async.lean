import SpecForge.Component.Spec
import SpecForge.Generator
import SpecForge.Proofs.Component.View
import SpecForge.Proofs.Shape.Members

/-!
# Views with asynchronous actions

If an action is asynchronous, five parts of a view have to agree: the state, the helper, the button
and both initializers. They all go by the first asynchronous action. The second initializer takes a
plain closure for this action only, at the place of this action, whatever the other actions are.

Lines are printed so that this holds. A description with a line break may break the line of its
comment, and then the text of the file can have an initializer that no line was printed for.
-/

namespace SpecForge.Component

namespace Swift

open Model.Reader Api.Reader Text Lines

/-! ### The first asynchronous action -/

theorem assignments_plain (a : ComponentAction) :
    Lines.indent (actionAssignment false a) 1 = [s!"        self.{a.name} = {a.name}"] := by
  rw [actionAssignment, if_neg (by decide), Lines.indent_singleton (by simp [toString])]
  simp [toString, ← String.toList_inj]

theorem assignments_wrapped (a : ComponentAction) : Lines.indent (actionAssignment true a) 1 =
    [s!"        self.{a.name} = \x7b", s!"            Task \x7b {a.name}() \x7d",
      "        \x7d"] := by
  rw [actionAssignment, if_pos rfl, Lines.indent_eq_map]
  · simp [toString, ← String.toList_inj]
  · simp [toString]

/-- The actions that are not wrapped are taken and assigned as they are declared. -/
theorem printedInitializer_plain (props : List ComponentProperty) (acts : List ComponentAction) :
    printedInitializer props (acts.map (false, ·)) = declared props acts := by
  have hprops : Lines.indent (props.map propertyAssignment) 1 =
      props.map fun prop => "    " ++ propertyAssignment prop := by
    rw [Lines.indent_eq_map, List.map_map]
    · rfl
    · intro line hl
      obtain ⟨prop, _, rfl⟩ := List.mem_map.1 hl
      simp [propertyAssignment, toString]
  have hacts : Lines.indent ((acts.map (false, ·)).flatMap fun a => actionAssignment a.1 a.2) 1 =
      acts.map fun a => s!"        self.{a.name} = {a.name}" := by
    rw [List.flatMap_map, Lines.indent_flatMap, ← List.flatMap_pure_eq_map]
    exact congrArg (List.flatMap · acts) (funext assignments_plain)
  have htexts : ∀ a : ComponentAction, (actionParameter false a).text =
      s!"{a.name}: @escaping {closureType a}" := by
    intro a
    rw [text_actionParameter, Bool.not_false, Bool.and_true]
    rfl
  rw [printedInitializer, declared, Lines.indent_append, hprops, hacts, List.map_map]
  simp only [Function.comp_def, htexts]

theorem printedInitializer_append (props : List ComponentProperty)
    (before after : List (Bool × ComponentAction)) (a : Bool × ComponentAction) :
    printedInitializer props (before ++ a :: after) =
      between (printedInitializer props before) (printedInitializer [] after)
        (actionParameter a.1 a.2).text (Lines.indent (actionAssignment a.1 a.2) 1) := by
  simp [printedInitializer, between, Lines.indent_append]

/-- The types of what an action takes. -/
def parameterTypes (a : ComponentAction) : String :=
  ", ".intercalate (a.parameters.map ActionParameter.swiftType)

/-- The type of what an action gives. -/
def resultType (a : ComponentAction) : String := TypeName.component .ios a.returnType

/-- A view whose first asynchronous action has synchronous ones before it, and any others behind it.
Both initializers take and assign the same but for this action: the second one takes a closure that
is not asynchronous, and wraps it in a task. -/
def waitingView (props : List ComponentProperty) (before : List ComponentAction)
    (a : ComponentAction) (after : List ComponentAction) : View where
  state := ["    @State private var isPerformingAction = false"]
  helpers := [("    private func handleAction() \x7b", helperLines a)]
  buttons := [["            handleAction()"]]
  initializers :=
    [between (declared props before) (declared [] after)
        s!"{a.name}: @escaping ({parameterTypes a}) async -> {resultType a}"
        [s!"        self.{a.name} = {a.name}"],
      between (declared props before) (declared [] after)
        s!"{a.name}: @escaping ({parameterTypes a}) -> {resultType a}"
        [s!"        self.{a.name} = \x7b", s!"            Task \x7b {a.name}() \x7d",
          "        \x7d"]]

/-- A view without asynchronous actions, in which a button calls the first action. -/
def plainView (c : Component) : View where
  state := []
  helpers := []
  buttons := match c.actions.head? with
    | none => []
    | some a => [[s!"            {a.name}()"]]
  initializers := [declared c.properties c.actions]

section FirstAsync

variable {c : Component} {before after : List ComponentAction} {a : ComponentAction}

theorem find?_eq_first (hc : c.actions = before ++ a :: after)
    (hbefore : ∀ b ∈ before, b.isAsync = false) (ha : a.isAsync = true) :
    c.actions.find? (·.isAsync) = some a := by
  rw [hc, List.find?_eq_some_iff_append]
  refine ⟨ha, before, after, rfl, fun b hb => ?_⟩
  rw [hbefore b hb]
  rfl

theorem text_async (ha : a.isAsync = true) : (actionParameter false a).text =
    s!"{a.name}: @escaping ({parameterTypes a}) async -> {resultType a}" := by
  rw [text_actionParameter, ha]
  simp [closureTypeAs, asyncMark, parameterTypes, resultType, toString, ← String.toList_inj]

theorem text_wrapped (a : ComponentAction) : (actionParameter true a).text =
    s!"{a.name}: @escaping ({parameterTypes a}) -> {resultType a}" := by
  rw [text_actionParameter, Bool.not_true, Bool.and_false]
  simp [closureTypeAs, asyncMark, parameterTypes, resultType, toString, ← String.toList_inj]

theorem read?_file_async (hc : c.actions = before ++ a :: after)
    (hbefore : ∀ b ∈ before, b.isAsync = false) (ha : a.isAsync = true) (source : String) :
    View.read? (file c source) = some (waitingView c.properties before a after) := by
  have hfind := find?_eq_first hc hbefore ha
  have hasync : c.hasAsyncAction = true := by
    rw [Component.hasAsyncAction, List.any_eq_true]
    exact ⟨a, List.mem_of_find?_eq_some hfind, ha⟩
  have hprimary : c.primaryAction? = some a := by
    rw [Component.primaryAction?, hfind]
    rfl
  have hcall : callLine c a = "            handleAction()" := by
    rw [callLine, buttonCall, if_pos hasync]
    decide
  have hfirst := printedInitializer_append c.properties (before.map (false, ·))
    (after.map (false, ·)) (false, a)
  rw [printedInitializer_plain, printedInitializer_plain, text_async ha, assignments_plain,
    ← List.map_cons (f := ((false, ·) : ComponentAction → Bool × ComponentAction)),
    ← List.map_append, ← hc] at hfirst
  have hsecond := printedInitializer_append c.properties (before.map (false, ·))
    (after.map (false, ·)) (true, a)
  rw [printedInitializer_plain, printedInitializer_plain, text_wrapped, assignments_wrapped,
    ← marked_append hbefore ha, ← hc] at hsecond
  rw [read?_file, if_pos hasync, hfind, hprimary, printedInitializers, if_pos hasync, hfirst,
    hsecond]
  dsimp only
  rw [hcall]
  rfl

theorem read?_file_plain (hc : ∀ a ∈ c.actions, a.isAsync = false) (source : String) :
    View.read? (file c source) = some (plainView c) := by
  have hfind : c.actions.find? (·.isAsync) = none := by
    rw [List.find?_eq_none]
    intro a ha
    rw [hc a ha]
    decide
  have hasync : ¬ c.hasAsyncAction = true := by
    rw [Component.hasAsyncAction, List.any_eq_true]
    rintro ⟨a, ha, hasync⟩
    rw [hc a ha] at hasync
    cases hasync
  have hprimary : c.primaryAction? = c.actions.head? := by
    rw [Component.primaryAction?, hfind]
    rfl
  have hcall : ∀ a, callLine c a = s!"            {a.name}()" := by
    intro a
    rw [callLine, buttonCall, if_neg hasync]
    simp [toString, ← String.toList_inj]
  rw [read?_file, if_neg hasync, hfind, hprimary, printedInitializers, if_neg hasync,
    printedInitializer_plain]
  simp only [hcall]
  rfl

end FirstAsync

end Swift

/-! ### Specifications -/

/-- An action is read from a value: its name is given, and it is asynchronous if the value says so.
-/
structure ReadsAction (v : Value) (a : ComponentAction) : Prop where
  name : ∃ name, v.member? "name" = some name ∧ Shape.text name = .ok a.name
  isAsync : a.isAsync = true ↔ v.member? "type" = some (.str "async")

theorem readCallStyle_eq_ok {v : Value} {isAsync : Bool} (h : readCallStyle v = .ok isAsync) :
    isAsync = true ↔ v = .str "async" := by
  unfold readCallStyle at h
  split at h
  · cases h
    simp
  · cases h
    simp
  · cases h

theorem readsAction {v : Value} {a : ComponentAction} (h : readAction v = .ok a) :
    ReadsAction v a := by
  obtain ⟨ms, hms, h⟩ := bind_eq_ok_iff.1 h
  obtain ⟨name, hname, h⟩ := bind_eq_ok_iff.1 h
  obtain ⟨isAsync, hasync, h⟩ := bind_eq_ok_iff.1 h
  obtain ⟨parameters, _, h⟩ := bind_eq_ok_iff.1 h
  obtain ⟨returnType, _, h⟩ := bind_eq_ok_iff.1 h
  cases h
  have hmember := Shape.member?_of_record hms
  constructor
  · rw [hmember]
    exact Shape.required_eq_ok hname
  · rw [hmember]
    rcases Shape.given_eq_ok hasync with ⟨style, hstyle, hread⟩ | ⟨hnone, rfl⟩
    · rw [hstyle, Option.some_inj]
      exact readCallStyle_eq_ok hread
    · simp [hnone]

/-- The properties and the actions of a component are read from the members of its specification. -/
theorem exists_members_of_ofSpec {doc : Value} {c : Component} (h : ofSpec doc = .ok c) :
    ∃ ms, Shape.record "ComponentSpec" doc = .ok ms ∧
      Shape.given "properties" "properties" [] (Shape.list readProperty) ms = .ok c.properties ∧
      Shape.given "actions" "actions" [] (Shape.list readAction) ms = .ok c.actions := by
  rw [ofSpec] at h
  cases hread : read doc with
  | error i =>
      rw [hread] at h
      cases h
  | ok found =>
      obtain ⟨component, states⟩ := found
      rw [hread] at h
      obtain ⟨_, _, h⟩ := bind_eq_ok_iff.1 (checked_eq_ok_iff.1 h)
      cases h
      obtain ⟨ms, hms, hread⟩ := bind_eq_ok_iff.1 hread
      obtain ⟨name, _, hread⟩ := bind_eq_ok_iff.1 hread
      obtain ⟨category, _, hread⟩ := bind_eq_ok_iff.1 hread
      obtain ⟨description, _, hread⟩ := bind_eq_ok_iff.1 hread
      obtain ⟨properties, hproperties, hread⟩ := bind_eq_ok_iff.1 hread
      obtain ⟨style, _, hread⟩ := bind_eq_ok_iff.1 hread
      obtain ⟨states, _, hread⟩ := bind_eq_ok_iff.1 hread
      obtain ⟨actions, hactions, hread⟩ := bind_eq_ok_iff.1 hread
      obtain ⟨slots, _, hread⟩ := bind_eq_ok_iff.1 hread
      cases hread
      exact ⟨ms, hms, hproperties, hactions⟩

/-- The actions of a component are those that its specification declares, in order. -/
theorem forall₂_readsAction {doc : Value} {c : Component} (h : ofSpec doc = .ok c) :
    List.Forall₂ ReadsAction (Shape.declared "actions" doc) c.actions := by
  obtain ⟨ms, hms, _, hactions⟩ := exists_members_of_ofSpec h
  exact (Shape.forall₂_declared hms hactions).imp fun _ _ => readsAction

/-- Where a list has an element of a kind, it has a first one. -/
theorem exists_first_async {acts : List ComponentAction} (h : ∃ a ∈ acts, a.isAsync = true) :
    ∃ before a after, acts = before ++ a :: after ∧ (∀ b ∈ before, b.isAsync = false) ∧
      a.isAsync = true := by
  have hfind : (acts.find? (·.isAsync)).isSome = true := by
    rw [List.find?_isSome]
    exact h
  obtain ⟨a, ha⟩ := Option.isSome_iff_exists.1 hfind
  obtain ⟨hasync, before, after, rfl, hbefore⟩ := List.find?_eq_some_iff_append.1 ha
  exact ⟨before, a, after, rfl, fun b hb => by simpa using hbefore b hb, hasync⟩

theorem file_ne_nil (c : Component) (source : String) : Swift.file c source ≠ [] := by
  simp [Swift.file, Swift.header]

theorem text_of_sourceFile {c : Component} {source : String} {file : SourceFile}
    (h : c.sourceFile source = .ok file) : file.text = (Swift.file c source).joined := by
  rw [SourceFile.eq_of_ofLines h]

/-- In the view of an accepted specification, everything goes by the first asynchronous action that
the specification declares. Without one there is no state, no helper and only one initializer, and
the button calls the first action, if there is one. So it is in the lines that are printed, and so
it is in the text of the file if none of these lines is broken. -/
theorem view_of_ofSpec {doc : Value} {c : Component} (h : ofSpec doc = .ok c) (source : String) :
    List.Forall₂ ReadsAction (Shape.declared "actions" doc) c.actions ∧
    (∀ file, c.sourceFile source = .ok file → (∀ line ∈ Swift.file c source, '\n' ∉ line.toList) →
      Text.split '\n' file.text = Swift.file c source) ∧
    ((∃ a ∈ c.actions, a.isAsync = true) → ∃ before a after,
      c.actions = before ++ a :: after ∧ (∀ b ∈ before, b.isAsync = false) ∧ a.isAsync = true ∧
      View.read? (Swift.file c source) = some (Swift.waitingView c.properties before a after)) ∧
    ((∀ a ∈ c.actions, a.isAsync = false) →
      View.read? (Swift.file c source) = some (Swift.plainView c)) := by
  refine ⟨forall₂_readsAction h, fun file hfile hbreaks => ?_, fun hasync => ?_,
    fun hc => Swift.read?_file_plain hc source⟩
  · rw [text_of_sourceFile hfile, Lines.split_joined_of_not_mem (file_ne_nil c source) hbreaks]
  · obtain ⟨before, a, after, hc, hbefore, ha⟩ := exists_first_async hasync
    exact ⟨before, a, after, hc, hbefore, ha, Swift.read?_file_async hc hbefore ha source⟩

/-- A specification with two asynchronous actions behind a synchronous one. -/
def cardSpec : Value :=
  .record [("component", .str "Card"), ("actions", .list [
    .record [("name", .str "open")],
    .record [("name", .str "save"), ("type", .str "async")],
    .record [("name", .str "sync"), ("type", .str "async")]])]

/-- A specification with a synchronous action only. -/
def linkSpec : Value :=
  .record [("component", .str "Link"), ("actions", .list [.record [("name", .str "open")]])]

theorem view_of_cardSpec_and_linkSpec :
    (∃ c view, ofSpec cardSpec = .ok c ∧ View.read? (Swift.file c "card.json") = some view ∧
      view.state = ["    @State private var isPerformingAction = false"] ∧
      view.helpers = [("    private func handleAction() \x7b",
        ["        Task \x7b",
          "            isPerformingAction = true",
          "            await save()",
          "            isPerformingAction = false",
          "        \x7d"])] ∧
      view.buttons = [["            handleAction()"]] ∧ view.initializers.length = 2) ∧
    ∃ c file view, ofSpec linkSpec = .ok c ∧ c.sourceFile "link.json" = .ok file ∧
      View.read? (Text.split '\n' file.text) = some view ∧
      view.state = [] ∧ view.helpers = [] ∧ view.buttons = [["            open()"]] ∧
      view.initializers.length = 1 := by
  constructor
  · obtain ⟨c, hok, hactions⟩ : ∃ c, ofSpec cardSpec = .ok c ∧
        c.actions.map (fun a => (a.name, a.isAsync)) =
          [("open", false), ("save", true), ("sync", true)] :=
      exists_ok_of_any (by decide +kernel)
    have hasync : ∃ a ∈ c.actions, a.isAsync = true := by
      have hmem : ("save", true) ∈ c.actions.map fun a => (a.name, a.isAsync) := by
        rw [hactions]
        decide
      obtain ⟨a, ha, hpair⟩ := List.mem_map.1 hmem
      exact ⟨a, ha, congrArg Prod.snd hpair⟩
    obtain ⟨before, a, after, hsplit, hbefore, ha, hview⟩ :=
      (view_of_ofSpec hok "card.json").2.2.1 hasync
    have hname : a.name = "save" := by
      rw [hsplit] at hactions
      match before, hbefore with
      | [], _ => simp [ha] at hactions
      | [_], _ => simp_all
      | _ :: b :: _, hbefore =>
          have hb := hbefore b (by simp)
          simp [hb] at hactions
    refine ⟨c, _, hok, hview, rfl, ?_, rfl, rfl⟩
    rw [Swift.waitingView, Swift.helperLines, hname]
    rfl
  · obtain ⟨c, hok, hactions, hfile, hlines⟩ : ∃ c, ofSpec linkSpec = .ok c ∧
        c.actions.map (fun a => (a.name, a.isAsync)) = [("open", false)] ∧
        (c.sourceFile "link.json").toOption.isSome = true ∧
        ∀ line ∈ Swift.file c "link.json", '\n' ∉ line.toList :=
      exists_ok_of_any (by decide +kernel)
    obtain ⟨file, hfile⟩ := exists_ok_of_isSome hfile
    obtain ⟨a, hsingle, hpair⟩ := List.map_eq_singleton_iff.1 hactions
    have hplain : ∀ b ∈ c.actions, b.isAsync = false := by
      rw [hsingle, List.forall_mem_singleton]
      exact congrArg Prod.snd hpair
    have hname : a.name = "open" := congrArg Prod.fst hpair
    obtain ⟨_, htext, _, hview⟩ := view_of_ofSpec hok "link.json"
    refine ⟨c, file, Swift.plainView c, hok, hfile, ?_, rfl, rfl, ?_, rfl⟩
    · rw [htext file hfile hlines]
      exact hview hplain
    · rw [Swift.plainView, hsingle]
      simp only [List.head?_cons, hname]
      rfl

/-- A description that goes on, behind a line break, with an initializer. -/
def brokenDescription : String := "Example:\n    public init() \x7b\x7d"

/-- A specification without asynchronous actions, whose description has a line break. -/
def brokenSpec : Value :=
  .record [("component", .str "Link"), ("description", .str brokenDescription),
    ("actions", .list [.record [("name", .str "open")]])]

/-- The text of this view has an initializer more than the view should have. -/
theorem not_view_of_brokenSpec :
    ∃ c file, ofSpec brokenSpec = .ok c ∧ (∀ a ∈ c.actions, a.isAsync = false) ∧
      c.sourceFile "link.json" = .ok file ∧
      2 ≤ (Text.split '\n' file.text).countP (Model.Reader.begins "    public init(") ∧
      View.read? (Text.split '\n' file.text) ≠ some (Swift.plainView c) := by
  let comment := "//  " ++ brokenDescription
  let head := "    public init("
  obtain ⟨c, hok, hsync, hfile, hfilter⟩ : ∃ c, ofSpec brokenSpec = .ok c ∧
      (∀ a ∈ c.actions, a.isAsync = false) ∧
      (c.sourceFile "link.json").toOption.isSome = true ∧
      ((Swift.file c "link.json").filter fun line => line == comment || line == head) =
        [comment, head] :=
    exists_ok_of_any (by decide +kernel)
  obtain ⟨file, hfile⟩ := exists_ok_of_isSome hfile
  have hinitializers :
      2 ≤ (Text.split '\n' file.text).countP (Model.Reader.begins "    public init(") := by
    have hsub : [comment, head].Sublist (Swift.file c "link.json") := by
      rw [← hfilter]
      exact List.filter_sublist
    have hcount : ([comment, head].flatMap (Text.split '\n')).countP
        (Model.Reader.begins "    public init(") = 2 := by
      decide +kernel
    rw [text_of_sourceFile hfile, ← hcount]
    exact Lines.countP_flatMap_split_le hsub (file_ne_nil c "link.json") _
  refine ⟨c, file, hok, hsync, hfile, hinitializers, fun hview => ?_⟩
  obtain ⟨found, hfound, hread⟩ := Option.bind_eq_some_iff.1 hview
  have hone : found = (Swift.plainView c).initializers :=
    congrArg View.initializers (Option.some_inj.1 hread)
  rw [← Lines.length_initializers? hfound, hone] at hinitializers
  exact absurd hinitializers (by simp [Swift.plainView])

end SpecForge.Component
