import SpecForge.Component.Swift
import SpecForge.Proofs.Lines.Declaration

/-!
# The parts of a view

A reader for the parts of a view that work together when one of its actions is asynchronous: the
state, the helper functions, the buttons with what they call, and the initializers. The reader works
on lines, and knows nothing of how these come about.

What it finds in the file of a component are the state, the helper, the button and the initializers
of the view. Each of these begins with words of its own that no other line begins with, whatever the
names and the types in a specification are.
-/

/-! ## The reader -/

namespace SpecForge.Component

open Model.Reader Lines

/-- What is read in the code of a view. A button is read as the lines that it runs. -/
structure View where
  state : Lines
  helpers : List (String × Lines)
  buttons : List Lines
  initializers : List Initializer
deriving DecidableEq

namespace View

/-- The line that opens the body of a view. -/
def bodyHead : String := "    public var body: some View \x7b"

/-- The state in some lines. -/
def stateIn (lines : Lines) : Lines := lines.filter (begins "    @State ")

/-- The helper functions in some lines. -/
def helpersIn (lines : Lines) : List (String × Lines) :=
  declarations "    private func " "    \x7d" lines

/-- What the buttons run that stand in the body of a view. -/
def buttonsIn (body : Lines) : List Lines :=
  (declarations "        Button " "        \x7d label: \x7b" body).map Prod.snd

/-- The view in some lines, if its initializers can be read. -/
def read? (lines : Lines) : Option View := do
  return {
    state := stateIn lines
    helpers := helpersIn lines
    buttons := buttonsIn (lines.inside bodyHead "    \x7d")
    initializers := ← initializers? lines }

end View

end SpecForge.Component

/-! ## What is printed -/

namespace SpecForge.Component.Swift

open Model.Reader Api.Reader Text Lines

/-! ### Initializers -/

/-- What an initializer takes and assigns for properties and for actions as they are declared. -/
def declared (props : List ComponentProperty) (acts : List ComponentAction) : Initializer where
  parameters := props.map (fun prop => (propertyParameter prop).text) ++
    acts.map fun a => s!"{a.name}: @escaping {closureType a}"
  assignments := props.map (fun prop => "    " ++ propertyAssignment prop) ++
    acts.map fun a => s!"        self.{a.name} = {a.name}"

/-- An initializer of two parts with a parameter and its assignment between them. -/
def between (front back : Initializer) (param : String) (assigned : Lines) : Initializer where
  parameters := front.parameters ++ param :: back.parameters
  assignments := front.assignments ++ assigned ++ back.assignments

theorem text_actionParameter (isWrapped : Bool) (a : ComponentAction) :
    (actionParameter isWrapped a).text =
      s!"{a.name}: @escaping {closureTypeAs (a.isAsync && !isWrapped) a}" := by
  simp [actionParameter, Parameter.text, toString, ← String.toList_inj]

theorem marked_append {before after : List ComponentAction} {a : ComponentAction}
    (hbefore : ∀ b ∈ before, b.isAsync = false) (ha : a.isAsync = true) :
    marked (before ++ a :: after) =
      before.map (false, ·) ++ (true, a) :: after.map (false, ·) := by
  induction before with
  | nil => rw [List.nil_append, marked, if_pos ha]; rfl
  | cons b before ih =>
      have hb : ¬ b.isAsync = true := by
        rw [hbefore b List.mem_cons_self]
        decide
      rw [List.cons_append, marked, if_neg hb, ih fun b hb =>
        hbefore b (List.mem_cons_of_mem _ hb)]
      rfl

/-- The parameters and the assignments of an initializer. -/
def printedInitializer (props : List ComponentProperty) (acts : List (Bool × ComponentAction)) :
    Initializer where
  parameters := props.map (fun prop => (propertyParameter prop).text) ++
    acts.map fun a => (actionParameter a.1 a.2).text
  assignments := Lines.indent
    (props.map propertyAssignment ++ acts.flatMap fun a => actionAssignment a.1 a.2) 1

theorem mem_assignments {props : List ComponentProperty} {acts : List (Bool × ComponentAction)} :
    ∀ line ∈ props.map propertyAssignment ++ acts.flatMap fun a => actionAssignment a.1 a.2,
      ∃ rest, line = "    " ++ rest := by
  intro line h
  rcases List.mem_append.1 h with h | h
  · obtain ⟨prop, _, rfl⟩ := List.mem_map.1 h
    exact ⟨(if prop.isBinding then "_" else "self.") ++ prop.name ++ " = " ++ prop.name, by
      simp [propertyAssignment, toString, String.append_assoc]⟩
  · obtain ⟨⟨isWrapped, a⟩, _, h⟩ := List.mem_flatMap.1 h
    rw [actionAssignment] at h
    split at h
    · simp only [List.mem_cons, List.not_mem_nil, or_false] at h
      rcases h with rfl | rfl | rfl
      · exact ⟨s!"self.{a.name} = \x7b", by simp [toString, ← String.toList_inj]⟩
      · exact ⟨s!"    Task \x7b {a.name}() \x7d", by simp [toString, ← String.toList_inj]⟩
      · exact ⟨"\x7d", rfl⟩
    · rw [List.mem_singleton] at h
      exact ⟨s!"self.{a.name} = {a.name}", by rw [h]; simp [toString, ← String.toList_inj]⟩

theorem isIndented_printed (props : List ComponentProperty) (acts : List (Bool × ComponentAction)) :
    (printedInitializer props acts).IsIndented :=
  isIndented_indent _ mem_assignments

/-- An initializer in its place in the view. -/
theorem indent_printed (props : List ComponentProperty) (acts : List (Bool × ComponentAction)) :
    Lines.indent (initializer props acts) 1 =
      "    public init(" :: ((printedInitializer props acts).lines ++ ["    \x7d"]) := by
  have htexts : (props.map propertyParameter ++ acts.map fun a => actionParameter a.1 a.2).map
      Parameter.text = (printedInitializer props acts).parameters := by
    simp [printedInitializer, Function.comp_def]
  have hlines := indent_initializer (printedInitializer props acts).parameters
    (props.map propertyAssignment ++ acts.flatMap fun a => actionAssignment a.1 a.2)
  rw [← List.append_assoc] at hlines
  rw [initializer, htexts]
  exact hlines

/-! ### The file -/

/-- A block with an empty line behind it, unless it is empty. -/
def spacedBehind (b : Lines) : Lines := if b.isEmpty then [] else Lines.indent b 1 ++ [""]

/-- A block with an empty line before it, unless it is empty. -/
def spacedBefore (b : Lines) : Lines := if b.isEmpty then [] else "" :: Lines.indent b 1

/-- A view always has initializers and a body. -/
theorem separated_blocks (c : Component) : separated (blocks c) =
    spacedBehind (properties c) ++ spacedBehind (state c) ++ spacedBehind (actions c) ++
      (Lines.indent (initializers c) 1 ++ ("" :: Lines.indent (body c) 1)) ++
      spacedBefore (helpers c) := by
  have hinitializers : (initializers c).isEmpty = false := by
    simp [initializers]
  have hbody : (body c).isEmpty = false := by
    simp [body]
  rw [blocks]
  cases hp : (properties c).isEmpty <;> cases hs : (state c).isEmpty <;>
    cases ha : (actions c).isEmpty <;> cases hh : (helpers c).isEmpty <;>
    simp [hp, hs, ha, hh, hinitializers, hbody, spacedBehind, spacedBefore, separated]

/-- What stands in a file before the blocks of the view. -/
def opening (c : Component) (source : String) : Lines :=
  header c source ++ imports c ++ documentation c ++ [s!"public struct {c.name}: View \x7b"]

/-- What stands in a file behind the blocks of the view. -/
def ending (c : Component) : Lines := ["\x7d", ""] ++ preview c

theorem file_eq (c : Component) (source : String) : file c source =
    opening c source ++ spacedBehind (properties c) ++ spacedBehind (state c) ++
      spacedBehind (actions c) ++ (Lines.indent (initializers c) 1 ++
        ("" :: Lines.indent (body c) 1)) ++ spacedBefore (helpers c) ++ ending c := by
  rw [file, separated_blocks]
  simp only [opening, ending, List.append_assoc]

/-- The words that state, body, helpers and initializers begin with. -/
def keywords : List String := ["@State ", "public var ", "private func ", "public init("]

section Without

variable {k : String} (c : Component)

theorem without_documentation : Without "    " (documentation c) := by
  have hfeatures : ∀ props : List ComponentProperty,
      Without "    " (props.map fun prop => s!"/// - {prop.description}") := by
    intro props
    simp [Without, begins, after?, toString]
  have hasync : ∀ {p : Prop} [Decidable p], Without "    " (if p then
      ["/// - Async action support", "/// - Synchronous action support"] else []) :=
    without_ite (by simp [begins, after?]) without_nil
  have hloading : ∀ {p : Prop} [Decidable p], Without "    " (if p then
      ["/// - Loading state with spinner", "/// - Automatic state management"] else []) :=
    without_ite (by simp [begins, after?]) without_nil
  have hcall : ∀ {p : Prop} [Decidable p] (arguments : String), Without "    " (if p then
      [s!"/// {c.name}({arguments})"]
      else [s!"/// {c.name}({arguments}) \x7b", "///     // Handle action", "/// \x7d"]) :=
    fun _ => without_ite (by simp [begins, after?, toString]) (by simp [begins, after?, toString])
  simp only [documentation, without_append, hfeatures, hasync, hloading, hcall, and_true]
  simp [begins, after?, toString]

theorem without_opening (source : String) : Without "    " (opening c source) := by
  have himports : Without "    " (imports c) := by
    simp only [imports, without_append]
    refine ⟨⟨?_, without_ite ?_ without_nil⟩, ?_⟩ <;> simp [begins, after?]
  simp only [opening, without_append, himports, without_documentation, and_true]
  simp [header, begins, after?, toString]

/-- No keyword begins with a blank. -/
theorem begins_keyword_blank (hk : k ∈ keywords) (rest : String) :
    begins k ("    " ++ rest) = false := by
  simp only [keywords, List.mem_cons, List.not_mem_nil, or_false] at hk
  rcases hk with rfl | rfl | rfl | rfl <;> simp [begins, after?]

theorem begins_keyword_empty (hk : k ∈ keywords) : begins k "" = false := by
  simp only [keywords, List.mem_cons, List.not_mem_nil, or_false] at hk
  rcases hk with rfl | rfl | rfl | rfl <;> decide

theorem without_indent (hk : k ∈ keywords) (lines : Lines) :
    Without k (Lines.indent lines 1) := by
  intro line hl
  rcases Lines.mem_indent hl with rfl | ⟨other, _, rfl⟩
  · exact begins_keyword_empty hk
  · exact begins_keyword_blank hk other

theorem without_properties (hk : k ∈ keywords) : Without k (properties c) := by
  simp only [keywords, List.mem_cons, List.not_mem_nil, or_false] at hk
  have hstored : ∀ prop, begins k (storedProperty prop) = false := by
    intro prop
    rw [storedProperty]
    split <;> rcases hk with rfl | rfl | rfl | rfl <;> simp [begins, after?, toString]
  rw [properties]
  split
  · exact without_nil
  · rcases hk with rfl | rfl | rfl | rfl <;>
      simpa [Without, begins, after?] using fun _ _ => hstored _

theorem without_actions (hk : k ∈ keywords) : Without k (actions c) := by
  simp only [keywords, List.mem_cons, List.not_mem_nil, or_false] at hk
  rcases hk with rfl | rfl | rfl | rfl <;> simp [Without, actions, begins, after?, toString]

theorem without_state (hk : k ∈ keywords) (hne : k ≠ "@State ") : Without k (state c) := by
  simp only [keywords, List.mem_cons, List.not_mem_nil, or_false, hne, false_or] at hk
  rw [state]
  split
  · rcases hk with rfl | rfl | rfl <;> simp [begins, after?]
  · exact without_nil

theorem without_initializer (hk : k ∈ keywords) (hne : k ≠ "public init(")
    (props : List ComponentProperty) (acts : List (Bool × ComponentAction)) :
    Without k (initializer props acts) := by
  have hparams : ∀ lines : Lines, Without k (lines.map fun line => "    " ++ line) := by
    intro lines line hl
    obtain ⟨other, _, rfl⟩ := List.mem_map.1 hl
    exact begins_keyword_blank hk other
  have hassigned : Without k (props.map propertyAssignment ++
      acts.flatMap fun a => actionAssignment a.1 a.2) := by
    intro line hl
    obtain ⟨rest, rfl⟩ := mem_assignments line hl
    exact begins_keyword_blank hk rest
  rw [without_append] at hassigned
  simp only [initializer, without_append, hparams, hassigned, and_true]
  simp only [keywords, List.mem_cons, List.not_mem_nil, or_false, hne] at hk
  rcases hk with rfl | rfl | rfl <;> simp [begins, after?]

theorem without_initializers (hk : k ∈ keywords) (hne : k ≠ "public init(") :
    Without k (initializers c) := by
  have hplain := without_initializer hk hne c.properties (c.actions.map (false, ·))
  have hmarked := without_initializer hk hne c.properties (marked c.actions)
  simp only [initializers, without_append]
  refine ⟨?_, ?_⟩
  · simp only [keywords, List.mem_cons, List.not_mem_nil, or_false, hne] at hk
    rcases hk with rfl | rfl | rfl <;> simp [begins, after?]
  · split
    · simp only [without_append, hplain, hmarked, and_true]
      simp only [keywords, List.mem_cons, List.not_mem_nil, or_false, hne] at hk
      rcases hk with rfl | rfl | rfl <;> simp [begins, after?]
    · exact hplain

/-- What is in the body of the view stands further to the right. -/
theorem without_body (hk : k ∈ keywords) (hne : k ≠ "public var ") : Without k (body c) := by
  simp only [body, without_append, without_indent hk, and_true]
  simp only [keywords, List.mem_cons, List.not_mem_nil, or_false, hne, false_or] at hk
  rcases hk with rfl | rfl | rfl <;> simp [begins, after?]

theorem without_helpers (hk : k ∈ keywords) (hne : k ≠ "private func ") :
    Without k (helpers c) := by
  simp only [keywords, List.mem_cons, List.not_mem_nil, or_false, hne, false_or] at hk
  rw [helpers]
  split
  · exact without_nil
  · rcases hk with rfl | rfl | rfl <;> simp [begins, after?, toString]

theorem without_spacedBehind {b : Lines} (h : Without k b) :
    Without ("    " ++ k) (spacedBehind b) := by
  rw [spacedBehind]
  split
  · exact without_nil
  · rw [without_append]
    refine ⟨h.shifted (by decide), ?_⟩
    simp [begins, after?]

theorem without_spacedBefore {b : Lines} (h : Without k b) :
    Without ("    " ++ k) (spacedBefore b) := by
  rw [spacedBefore]
  split
  · exact without_nil
  · rw [without_cons]
    exact ⟨by simp [begins, after?], h.shifted (by decide)⟩

theorem without_previewCall (hk : k ∈ keywords) : Without ("    " ++ k) (previewCall c) := by
  simp only [keywords, List.mem_cons, List.not_mem_nil, or_false] at hk
  unfold previewCall
  split_ifs <;> rcases hk with rfl | rfl | rfl | rfl <;> simp [begins, after?, toString]

theorem without_ending (hk : k ∈ keywords) : Without ("    " ++ k) (ending c) := by
  simp only [ending, preview, without_append, without_previewCall c hk, and_true]
  simp only [keywords, List.mem_cons, List.not_mem_nil, or_false] at hk
  refine ⟨?_, ⟨⟨⟨?_, without_ite ?_ without_nil⟩, without_ite ?_ without_nil⟩, ?_⟩, ?_⟩ <;>
    rcases hk with rfl | rfl | rfl | rfl <;> simp [begins, after?, toString]

theorem without_declarations (hk : k ∈ keywords) (hne : k ≠ "@State ") (source : String) :
    Without ("    " ++ k) (opening c source ++ spacedBehind (properties c) ++
      spacedBehind (state c) ++ spacedBehind (actions c)) := by
  simp only [without_append]
  exact ⟨⟨⟨(without_opening c source).longer k, without_spacedBehind (without_properties c hk)⟩,
    without_spacedBehind (without_state c hk hne)⟩, without_spacedBehind (without_actions c hk)⟩

theorem without_members (hk : k ∈ keywords) (hinit : k ≠ "public init(")
    (hvar : k ≠ "public var ") : Without ("    " ++ k)
      (Lines.indent (initializers c) 1 ++ "" :: Lines.indent (body c) 1) := by
  rw [without_append, without_cons]
  exact ⟨(without_initializers c hk hinit).shifted (by decide), by simp [begins, after?],
    (without_body c hk hvar).shifted (by decide)⟩

end Without

/-! ### The parts of the view -/

section Parts

variable (c : Component) (source : String)

/-- There is a state if and only if an action is asynchronous. -/
theorem stateIn_file : View.stateIn (file c source) =
    if c.hasAsyncAction then ["    @State private var isPerformingAction = false"] else [] := by
  have hk : "@State " ∈ keywords := by decide
  have hopening := filter_begins_eq_nil ((without_opening c source).longer "@State ")
  have hproperties := filter_begins_eq_nil (without_spacedBehind (without_properties c hk))
  have hactions := filter_begins_eq_nil (without_spacedBehind (without_actions c hk))
  have hmembers := filter_begins_eq_nil (without_members c hk (by decide) (by decide))
  have hhelpers := filter_begins_eq_nil
    (without_spacedBefore (without_helpers c hk (by decide)))
  have hending := filter_begins_eq_nil (without_ending c hk)
  have hstate : (spacedBehind (state c)).filter (begins ("    " ++ "@State ")) =
      if c.hasAsyncAction then ["    @State private var isPerformingAction = false"] else [] := by
    rw [state]
    split <;> decide
  have hkeyword : "    @State " = "    " ++ "@State " := by decide
  rw [View.stateIn, hkeyword, file_eq, List.filter_append, List.filter_append, List.filter_append,
    List.filter_append, List.filter_append, List.filter_append, hopening, hproperties, hstate,
    hactions, hmembers, hhelpers, hending]
  simp

/-- The lines of the helper. -/
def helperLines (a : ComponentAction) : Lines :=
  ["        Task \x7b",
    "            isPerformingAction = true",
    s!"            await {a.name}()",
    "            isPerformingAction = false",
    "        \x7d"]

theorem spacedBefore_helpers (c : Component) : spacedBefore (helpers c) =
    match c.actions.find? (·.isAsync) with
    | none => []
    | some a => ["", "    // MARK: - Actions", ""] ++ "    private func handleAction() \x7b" ::
        (helperLines a ++ ["    \x7d"]) := by
  rw [helpers]
  cases c.actions.find? (·.isAsync) with
  | none => rfl
  | some a =>
      have hcall : Lines.indent [s!"        await {a.name}()"] 1 =
          [s!"            await {a.name}()"] := by
        rw [Lines.indent_singleton (by simp [toString])]
        simp [toString, ← String.toList_inj]
      exact congrArg (fun call => "" :: (Lines.indent ["// MARK: - Actions",
        "",
        "private func handleAction() \x7b",
        "    Task \x7b",
        "        isPerformingAction = true"] 1 ++ call ++ Lines.indent [
        "        isPerformingAction = false",
        "    \x7d",
        "\x7d"] 1)) hcall

/-- The only helper awaits the first asynchronous action. -/
theorem helpersIn_file : View.helpersIn (file c source) =
    match c.actions.find? (·.isAsync) with
    | none => []
    | some a => [("    private func handleAction() \x7b", helperLines a)] := by
  have hk : "private func " ∈ keywords := by decide
  have hkeyword : "    private func " = "    " ++ "private func " := by decide
  have hfront : Without "    private func " (opening c source ++ spacedBehind (properties c) ++
      spacedBehind (state c) ++ spacedBehind (actions c) ++ (Lines.indent (initializers c) 1 ++
        ("" :: Lines.indent (body c) 1))) := by
    rw [hkeyword, without_append]
    exact ⟨without_declarations c hk (by decide) source,
      without_members c hk (by decide) (by decide)⟩
  have hending : Without "    private func " (ending c) := hkeyword ▸ without_ending c hk
  rw [View.helpersIn, file_eq, List.append_assoc, declarations_append hfront, spacedBefore_helpers]
  cases c.actions.find? (·.isAsync) with
  | none => exact declarations_eq_nil hending _
  | some a =>
      have hclose : "    \x7d" ∉ helperLines a := by
        simp [helperLines, ← String.toList_inj, toString]
      have hbody : Without "    private func " (helperLines a ++ ["    \x7d"]) := by
        simp [helperLines, begins, after?, toString]
      have hcomment : Without "    private func " ["", "    // MARK: - Actions", ""] := by
        simp [begins, after?]
      have hhead : begins "    private func " "    private func handleAction() \x7b" = true := by
        decide
      dsimp only
      rw [List.append_assoc, declarations_append hcomment, List.cons_append, List.append_assoc,
        List.singleton_append, declarations_cons hhead hbody hclose, declarations_eq_nil hending]

/-- What the initializers of a view take and assign. -/
def printedInitializers (c : Component) : List Initializer :=
  if c.hasAsyncAction then
    [printedInitializer c.properties (c.actions.map (false, ·)),
      printedInitializer c.properties (marked c.actions)]
  else [printedInitializer c.properties (c.actions.map (false, ·))]

theorem initializers?_indent {front rest : Lines} (hfront : Without "    public init(" front)
    (hrest : Without "    public init(" rest) :
    initializers? (front ++ (Lines.indent (initializers c) 1 ++ rest)) =
      some (printedInitializers c) := by
  have hcons : ∀ {front}, Without "    public init(" front → ∀ acts rest,
      initializers? (front ++ (Lines.indent (initializer c.properties acts) 1 ++ rest)) =
        (initializers? rest).map (printedInitializer c.properties acts :: ·) := by
    intro front hfront acts rest
    rw [indent_printed]
    exact initializers?_cons hfront (isIndented_printed c.properties acts) rest
  rw [initializers, printedInitializers]
  generalize c.actions.map ((false, ·) : ComponentAction → Bool × ComponentAction) = plain
  split
  · have hcomment : Without "    public init(" (Lines.indent ["// MARK: - Initialization", ""] 1 ++
        Lines.indent ["/// Async action initializer"] 1) := by
      simp [Lines.indent, Lines.shifted, Lines.indentation, begins, after?]
    have hgap : Without "    public init("
        (Lines.indent ["", "/// Synchronous action initializer"] 1) := by
      simp [Lines.indent, Lines.shifted, Lines.indentation, begins, after?]
    have hlines : front ++ (Lines.indent (["// MARK: - Initialization", ""] ++
        (["/// Async action initializer"] ++ initializer c.properties plain ++
          ["", "/// Synchronous action initializer"] ++
            initializer c.properties (marked c.actions))) 1 ++ rest) =
        front ++ (Lines.indent ["// MARK: - Initialization", ""] 1 ++
          Lines.indent ["/// Async action initializer"] 1) ++
            (Lines.indent (initializer c.properties plain) 1 ++
              (Lines.indent ["", "/// Synchronous action initializer"] 1 ++
                (Lines.indent (initializer c.properties (marked c.actions)) 1 ++ rest))) := by
      simp only [Lines.indent_append, List.append_assoc]
    rw [hlines, hcons (without_append.2 ⟨hfront, hcomment⟩), hcons hgap,
      initializers?_eq_nil hrest]
    rfl
  · have hcomment : Without "    public init("
        (Lines.indent ["// MARK: - Initialization", ""] 1) := by
      simp [Lines.indent, Lines.shifted, Lines.indentation, begins, after?]
    rw [Lines.indent_append, List.append_assoc, ← List.append_assoc,
      hcons (without_append.2 ⟨hfront, hcomment⟩), initializers?_eq_nil hrest]
    rfl

/-- The initializers take and assign what they are written for. -/
theorem initializers?_file :
    initializers? (file c source) = some (printedInitializers c) := by
  have hk : "public init(" ∈ keywords := by decide
  have hkeyword : "    public init(" = "    " ++ "public init(" := by decide
  have hfront : Without "    public init(" (opening c source ++ spacedBehind (properties c) ++
      spacedBehind (state c) ++ spacedBehind (actions c)) :=
    hkeyword ▸ without_declarations c hk (by decide) source
  have hrest : Without "    public init(" ("" :: Lines.indent (body c) 1 ++
      (spacedBefore (helpers c) ++ ending c)) := by
    rw [hkeyword, without_append, without_cons, without_append]
    exact ⟨⟨by decide, (without_body c hk (by decide)).shifted (by decide)⟩,
      without_spacedBefore (without_helpers c hk (by decide)), without_ending c hk⟩
  have hread := initializers?_indent c hfront hrest
  rw [file_eq]
  simp only [List.append_assoc] at hread ⊢
  exact hread

/-- What is in the body of the view. -/
theorem inside_body : (file c source).inside View.bodyHead "    \x7d" =
    Lines.indent (Lines.indent (interactive c ++ loadingLines c) 1) 1 := by
  have hk : "public var " ∈ keywords := by decide
  have hhead : begins ("    " ++ "public var ") View.bodyHead = true := by decide
  let front := opening c source ++ spacedBehind (properties c) ++ spacedBehind (state c) ++
    spacedBehind (actions c) ++ (Lines.indent (initializers c) 1 ++
      ["", "    // MARK: - Body", ""])
  have hfront : Without ("    " ++ "public var ") front := by
    have hcomment : Without ("    " ++ "public var ") ["", "    // MARK: - Body", ""] := by
      simp [begins, after?]
    exact without_append.2 ⟨without_declarations c hk (by decide) source,
      without_append.2 ⟨(without_initializers c hk (by decide)).shifted (by decide), hcomment⟩⟩
  have hbody : "    \x7d" ∉
      Lines.indent (Lines.indent (interactive c ++ loadingLines c) 1) 1 := by
    intro hmem
    rcases Lines.mem_indent hmem with hnil | ⟨line, hl, hline⟩
    · exact absurd hnil (by decide)
    · rcases Lines.mem_indent hl with rfl | ⟨other, _, rfl⟩ <;>
        simp [← String.toList_inj] at hline
  have hlines : file c source = front ++ View.bodyHead ::
      (Lines.indent (Lines.indent (interactive c ++ loadingLines c) 1) 1 ++ "    \x7d" ::
        (spacedBefore (helpers c) ++ ending c)) := by
    have hopen : Lines.indent ["// MARK: - Body", "", "public var body: some View \x7b"] 1 =
        ["    // MARK: - Body", "", View.bodyHead] := rfl
    have hclose : Lines.indent ["\x7d"] 1 = ["    \x7d"] := rfl
    rw [file_eq, body, Lines.indent_append, Lines.indent_append, hopen, hclose]
    simp [front]
  rw [hlines, Lines.inside_block (not_mem_of_without hfront hhead) hbody]

theorem without_textLine {text : Option String} {line : String → String}
    (h : ∀ s, begins "Button " (line s) = false) : Without "Button " (textLine text line) := by
  unfold textLine
  split
  · split
    · exact without_nil
    · simpa using h _
  · exact without_nil

theorem without_numberLine {n : Option Decimal.Number} {line : String → String}
    (h : ∀ s, begins "Button " (line s) = false) : Without "Button " (numberLine n line) := by
  unfold numberLine
  split
  · simpa using h _
  · exact without_nil

theorem without_border (style : ComponentStyle) : Without "Button " (border style) := by
  rw [border]
  split
  · exact without_nil
  · rename_i width _
    have hstroke : Without "Button " (textLine style.borderColor fun color =>
        s!"        .strokeBorder(.{color}, lineWidth: {width.text})") :=
      without_textLine fun _ => by simp [begins, after?, toString]
    refine without_flatMap fun line hl => ?_
    simp only [without_cons, hstroke line hl]
    simp [begins, after?, toString]

/-- Modifiers begin with a point. -/
theorem without_styling (style : ComponentStyle) : Without "Button " (styling style) := by
  simp only [styling, without_append, without_border, and_true]
  refine ⟨⟨⟨⟨⟨⟨⟨?_, ?_⟩, ?_⟩, ?_⟩, ?_⟩, ?_⟩, ?_⟩, ?_⟩
  · exact without_textLine fun _ => by simp [begins, after?, toString]
  · exact without_textLine fun _ => by simp [begins, after?, toString]
  · exact without_textLine fun _ => by simp [begins, after?, toString]
  · simp [begins, after?, toString]
  · exact without_textLine fun _ => by simp [begins, after?, toString]
  · exact without_numberLine fun _ => by simp [begins, after?, toString]
  · exact without_textLine fun _ => by simp [begins, after?, toString]
  · exact without_numberLine fun _ => by simp [begins, after?, toString]

theorem without_loadingLines : Without "Button " (loadingLines c) := by
  rw [loadingLines]
  split
  · exact without_nil
  · rw [without_append]
    refine ⟨?_, by simp [begins, after?, toString]⟩
    split
    · simp [begins, after?, toString]
    · exact without_nil

/-- Nothing but the action of a component makes it a button. -/
theorem without_content : Without "Button " (content c) := by
  have himage : ∀ prop : ComponentProperty,
      begins "Button " s!"Image(systemName: {prop.name})" = false := by
    intro prop
    simp [begins, after?, toString]
  have htext : ∀ prop : ComponentProperty, begins "Button " s!"Text({prop.name})" = false := by
    intro prop
    simp [begins, after?, toString]
  rw [content]
  generalize c.find? iconNames = icon, c.find? titleNames = title, c.find? ["message"] = message
  dsimp only
  split
  · cases icon with
    | some prop => simpa using himage prop
    | none =>
        cases message with
        | some prop => simpa using htext prop
        | none =>
            cases title with
            | some prop => simpa using htext prop
            | none => simp [begins, after?]
  · simp only [without_append]
    refine ⟨⟨by simp [begins, after?], ?_⟩, by simp [begins, after?, toString]⟩
    cases icon <;> cases title <;> simp [begins, after?, toString]

/-- The line of a button that calls an action, or the helper. -/
def callLine (c : Component) (primary : ComponentAction) : String :=
  "            " ++ buttonCall c primary

theorem indent_call (primary : ComponentAction) :
    Lines.indent (Lines.indent [s!"    {buttonCall c primary}"] 1) 1 = [callLine c primary] := by
  have hne : ∀ text : String, s!"    {text}" ≠ "" := by
    intro text
    simp [toString]
  rw [Lines.indent_singleton (hne _), Lines.indent_singleton (by simp [toString])]
  simp [callLine, toString, ← String.toList_inj]

/-- The only button calls the helper, or else the first action. -/
theorem buttonsIn_body : View.buttonsIn
      (Lines.indent (Lines.indent (interactive c ++ loadingLines c) 1) 1) =
    match c.primaryAction? with
    | none => []
    | some a => [[callLine c a]] := by
  have hkeyword : "        Button " = "    " ++ ("    " ++ "Button ") := by decide
  have hright : ∀ {lines : Lines}, Without "Button " lines →
      Without "        Button " (Lines.indent (Lines.indent lines 1) 1) := by
    intro lines h
    rw [hkeyword]
    exact (h.shifted (by decide)).shifted (by decide)
  rw [interactive]
  cases c.primaryAction? with
  | none =>
      have hall : Without "Button " (content c ++ styling c.style ++ loadingLines c) :=
        without_append.2 ⟨without_append.2 ⟨without_content c, without_styling c.style⟩,
          without_loadingLines c⟩
      dsimp only
      rw [View.buttonsIn, declarations_eq_nil (hright hall), List.map_nil]
  | some a =>
      let label := Lines.indent (content c ++ styling c.style) 1 ++ ["\x7d", ".buttonStyle(.plain)"]
      have hlabel : Without "Button " (label ++ loadingLines c) := by
        have hinner : Without "Button " (Lines.indent (content c ++ styling c.style) 1) := by
          intro line hl
          rcases Lines.mem_indent hl with rfl | ⟨other, _, rfl⟩ <;> simp [begins, after?]
        have hend : Without "Button " ["\x7d", ".buttonStyle(.plain)"] := by
          simp [begins, after?]
        exact without_append.2 ⟨without_append.2 ⟨hinner, hend⟩, without_loadingLines c⟩
      have hlines : Lines.indent (Lines.indent (["Button \x7b", s!"    {buttonCall c a}",
          "\x7d label: \x7b"] ++ Lines.indent (content c ++ styling c.style) 1 ++
            ["\x7d", ".buttonStyle(.plain)"] ++ loadingLines c) 1) 1 =
          "        Button \x7b" :: ([callLine c a] ++ "        \x7d label: \x7b" ::
            Lines.indent (Lines.indent (label ++ loadingLines c) 1) 1) := by
        have hparts : ["Button \x7b", s!"    {buttonCall c a}", "\x7d label: \x7b"] ++
            Lines.indent (content c ++ styling c.style) 1 ++ ["\x7d", ".buttonStyle(.plain)"] ++
              loadingLines c = ["Button \x7b"] ++ ([s!"    {buttonCall c a}"] ++
                (["\x7d label: \x7b"] ++ (label ++ loadingLines c))) := by
          simp [label]
        rw [hparts]
        simp only [Lines.indent_append, indent_call]
        rfl
      have hcall : Without "        Button " ([callLine c a] ++ ["        \x7d label: \x7b"]) := by
        simp [callLine, begins, after?]
      have hclose : "        \x7d label: \x7b" ∉ [callLine c a] := by
        simp [callLine, ← String.toList_inj]
      have hhead : begins "        Button " "        Button \x7b" = true := by decide
      dsimp only
      rw [View.buttonsIn, hlines, declarations_cons hhead hcall hclose,
        declarations_eq_nil (hright hlabel)]
      rfl

/-- All parts of a view are read. -/
theorem read?_file : View.read? (file c source) = some {
    state := if c.hasAsyncAction then ["    @State private var isPerformingAction = false"] else []
    helpers := match c.actions.find? (·.isAsync) with
      | none => []
      | some a => [("    private func handleAction() \x7b", helperLines a)]
    buttons := match c.primaryAction? with
      | none => []
      | some a => [[callLine c a]]
    initializers := printedInitializers c } := by
  rw [View.read?, initializers?_file, stateIn_file, helpersIn_file, inside_body,
    buttonsIn_body]
  rfl

end Parts

end SpecForge.Component.Swift
