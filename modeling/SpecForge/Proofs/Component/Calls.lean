import Mathlib.Data.List.TakeWhile
import SpecForge.Proofs.Component.Async

/-!
# What the closures of actions are called with

The type of a closure says how many arguments it takes. A view calls the closure of one action: a
button does so by itself or through the helper, and so does the second initializer, in the closure
that it puts around a task. A reader counts what stands between the brackets of the type and between
those of each call, and the names that a closure opens with.

No call has arguments, and no closure names what it takes. So the calls fit the type exactly if
nothing stands between the brackets of the type, which is to say that the action has no parameters,
as long as the types of parameters are types that can stand in a list.
-/

/-! ## Lists between brackets -/

namespace SpecForge.Text

open Api.Reader

/-- A bracket that opens a part of a type or of an expression. -/
def opensPart (c : Char) : Bool := c == '(' || c == '[' || c == '<' || c == '\x7b'

/-- A bracket that closes a part of a type or of an expression. -/
def closesPart (c : Char) : Bool := c == ')' || c == ']' || c == '>' || c == '\x7d'

/-- The number of commas up to the round bracket that closes a list, and what follows this bracket.
Commas within parts of the list do not count; `depth` such parts are open. An arrow closes no part.
-/
def commas? (depth : Nat) : List Char → Option (Nat × List Char)
  | [] => none
  | '-' :: '>' :: cs => commas? depth cs
  | c :: cs =>
    if opensPart c then commas? (depth + 1) cs
    else if closesPart c then
      if depth == 0 then if c == ')' then some (0, cs) else none
      else commas? (depth - 1) cs
    else if c == ',' && depth == 0 then (commas? 0 cs).map fun r => (r.1 + 1, r.2)
    else commas? depth cs

/-- The number of items of a list, behind the bracket that opens it, and what follows the list. -/
def items? (cs : List Char) : Option (Nat × List Char) :=
  match cs.dropWhile isBlank with
  | ')' :: rest => some (0, rest)
  | _ => (commas? 0 cs).map fun r => (r.1 + 1, r.2)

/-- All parts that are open are closed, and no other ones, and outside of them is no comma. -/
def isClosed (depth : Nat) : List Char → Bool
  | [] => depth == 0
  | '-' :: '>' :: cs => isClosed depth cs
  | c :: cs =>
    if opensPart c then isClosed (depth + 1) cs
    else if closesPart c then depth != 0 && isClosed (depth - 1) cs
    else !(c == ',' && depth == 0) && isClosed depth cs

/-- Can the text be an item of a list? -/
def isItem (s : String) : Bool := isClosed 0 s.toList && s.toList.any fun c => !isBlank c

/-- Reading passes over a text in which all parts are closed. -/
theorem commas?_append {depth : Nat} {cs rest : List Char} (h : isClosed depth cs = true)
    (hrest : rest.head? ≠ some '>') : commas? depth (cs ++ rest) = commas? 0 rest := by
  -- an arrow is read as one sign, so the text must not end in the middle of one
  have hsplit : ∀ {c : Char} {cs : List Char}, (∀ tail, c = '-' → cs = '>' :: tail → False) →
      ∀ tail, c = '-' → cs ++ rest = '>' :: tail → False := by
    intro c cs hne tail hc hcs
    cases cs with
    | nil => exact hrest (by rw [List.nil_append] at hcs; rw [hcs]; rfl)
    | cons d cs =>
        rw [List.cons_append, List.cons.injEq] at hcs
        exact hne cs hc (by rw [hcs.1])
  induction depth, cs using isClosed.induct with
  | case1 depth =>
      rw [isClosed, beq_iff_eq] at h
      rw [h, List.nil_append]
  | case2 depth cs ih =>
      rw [isClosed] at h
      rw [List.cons_append, List.cons_append, commas?, ih h]
  | case3 depth c cs hne hopen ih =>
      rw [isClosed.eq_3 _ _ _ hne, if_pos hopen] at h
      rw [List.cons_append, commas?.eq_3 _ _ _ (hsplit hne), if_pos hopen, ih h]
  | case4 depth c cs hne hopen hclose ih =>
      rw [isClosed.eq_3 _ _ _ hne, if_neg hopen, if_pos hclose, Bool.and_eq_true] at h
      have hdepth : ¬ (depth == 0) = true := by simpa using h.1
      rw [List.cons_append, commas?.eq_3 _ _ _ (hsplit hne), if_neg hopen, if_pos hclose,
        if_neg hdepth, ih h.2]
  | case5 depth c cs hne hopen hclose ih =>
      rw [isClosed.eq_3 _ _ _ hne, if_neg hopen, if_neg hclose, Bool.and_eq_true] at h
      have hcomma : ¬ (c == ',' && depth == 0) = true := by
        rw [Bool.not_eq_true, ← Bool.not_eq_true']
        exact h.1
      rw [List.cons_append, commas?.eq_3 _ _ _ (hsplit hne), if_neg hopen, if_neg hclose,
        if_neg hcomma, ih h.2]

theorem isClosed_blank {c : Char} (hc : isBlank c = true) (cs : List Char) :
    isClosed 0 (c :: cs) = isClosed 0 cs := by
  have hsign : ∀ d ∈ ['(', '[', '<', '\x7b', ')', ']', '>', '\x7d', ',', '-'], c ≠ d := by
    rintro d hd rfl
    have hblank : (['(', '[', '<', '\x7b', ')', ']', '>', '\x7d', ',', '-'].all
        fun d => !isBlank d) = true := rfl
    have hother := List.all_eq_true.1 hblank c hd
    rw [hc] at hother
    cases hother
  rw [isClosed.eq_3 _ _ _ fun _ h => absurd h (hsign '-' (by decide))]
  simp only [List.forall_mem_cons] at hsign
  simp [opensPart, closesPart, hsign]

theorem isClosed_dropWhile (cs : List Char) :
    isClosed 0 (cs.dropWhile isBlank) = isClosed 0 cs := by
  induction cs with
  | nil => rfl
  | cons c cs ih =>
      by_cases hc : isBlank c = true
      · rw [List.dropWhile_cons_of_pos hc, ih, isClosed_blank hc]
      · rw [List.dropWhile_cons_of_neg hc]

/-- In a list of items there is a comma before each of them but the first. -/
theorem commas?_listed {text : String} {texts : List String} (htext : isItem text = true)
    (htexts : ∀ other ∈ texts, isItem other = true) (rest : List Char) :
    commas? 0 (listed ", " (text :: texts) (')' :: rest)) = some (texts.length, rest) := by
  have hclosed : ∀ {s : String}, isItem s = true → isClosed 0 s.toList = true :=
    fun hs => (Bool.and_eq_true_iff.1 hs).1
  have hseparator : ∀ cs, commas? 0 (',' :: ' ' :: cs) = (commas? 0 cs).map fun r => (r.1 + 1, r.2) := by
    intro cs
    rw [commas?.eq_3 _ _ _ (by simp), commas?.eq_3 _ _ _ (by simp)]
    rfl
  induction texts generalizing text with
  | nil =>
      rw [listed_cons, commas?_append (hclosed htext) (by simp [behind])]
      rfl
  | cons other texts ih =>
      have hother := htexts other List.mem_cons_self
      have hlist := ih hother fun s hs => htexts s (List.mem_cons_of_mem other hs)
      have hbehind : behind ", " (other :: texts) (')' :: rest) =
          ',' :: ' ' :: listed ", " (other :: texts) (')' :: rest) := rfl
      rw [listed_cons, commas?_append (hclosed htext) (by rw [hbehind]; simp), hbehind, hseparator,
        hlist]
      rfl

/-- A list has as many items as were put into it. -/
theorem items?_listed {texts : List String} (h : ∀ text ∈ texts, isItem text = true)
    (rest : List Char) :
    items? (listed ", " texts (')' :: rest)) = some (texts.length, rest) := by
  cases texts with
  | nil => rfl
  | cons text texts =>
      rw [List.forall_mem_cons] at h
      have hcommas := commas?_listed h.1 h.2 rest
      have hfirst : ∀ tail, (listed ", " (text :: texts) (')' :: rest)).dropWhile isBlank ≠
          ')' :: tail := by
        intro tail htail
        obtain ⟨hclosed, hblank⟩ := Bool.and_eq_true_iff.1 h.1
        have hne : text.toList.dropWhile isBlank ≠ [] := by
          rw [Ne, List.dropWhile_eq_nil_iff]
          obtain ⟨c, hc, hsign⟩ := List.any_eq_true.1 hblank
          exact fun h => absurd (h c hc) (by simpa using hsign)
        rw [listed_cons, List.dropWhile_append, if_neg (by simpa using hne)] at htail
        rw [← isClosed_dropWhile] at hclosed
        obtain ⟨c, cs, hcs⟩ := List.exists_cons_of_ne_nil hne
        rw [hcs, List.cons_append, List.cons.injEq] at htail
        rw [hcs, htail.1] at hclosed
        cases hclosed
      rw [items?]
      split
      · rename_i tail htail
        exact absurd htail (hfirst tail)
      · rw [hcommas]
        rfl

end SpecForge.Text

/-! ## The reader -/

namespace SpecForge.Component

open Model.Reader Api.Reader Text Lines

/-- How many arguments a closure of a type takes. -/
def closureArity? (type : String) : Option Nat := do
  let (n, rest) ← items? (← after? ['('] type.toList)
  guard (goesOn " -> " rest || goesOn " async -> " rest)
  return n

/-- A call: what is called, and the number of its arguments. -/
structure Call where
  callee : String
  arguments : Nat
deriving DecidableEq

/-- What stands before the list that the last round bracket closes, from the back to the front.
`depth` brackets between them are open. -/
def calleeBack? (depth : Nat) : List Char → Option (List Char)
  | [] => none
  | c :: cs =>
    if c == ')' then calleeBack? (depth + 1) cs
    else if c == '(' then if depth == 0 then some cs else calleeBack? (depth - 1) cs
    else calleeBack? depth cs

/-- The call that stands in a line between two texts. -/
def call? (opening closing line : String) : Option Call := do
  let text ← before? closing (← after? opening.toList line.toList)
  let callee ← calleeBack? 0 (← after? [')'] text.reverse)
  let (n, rest) ← items? (text.drop (callee.length + 1))
  guard rest.isEmpty
  return ⟨String.ofList callee.reverse, n⟩

/-- How many names a line gives to what a closure takes that opens at its end. -/
def namedCount (line : String) : Nat :=
  let names := line.toList.reverse.takeWhile (· != '\x7b')
  if names.all isBlank then 0 else names.count ',' + 1

/-- A closure that is put around a task: how many arguments it names, and what the task calls. -/
structure Wrapper where
  takes : Nat
  call : Call
deriving DecidableEq

/-- The closures that open at the end of a line and run a task in the next line. -/
def wrappers : Lines → List Wrapper
  | head :: line :: rest =>
    ((call? "            Task \x7b " " \x7d" line).map (Wrapper.mk (namedCount head))).toList ++
      wrappers (line :: rest)
  | _ => []

namespace View

/-- The names of the helper functions. -/
def helperNames (v : View) : List String :=
  v.helpers.filterMap fun h =>
    (after? "    private func ".toList h.1.toList).map fun cs =>
      String.ofList (cs.takeWhile (· != '('))

/-- The closures that the initializers put around tasks. -/
def wrappers (v : View) : List Wrapper :=
  v.initializers.flatMap fun i => Component.wrappers i.assignments

/-- The calls of closures: by buttons, by helper functions, and in tasks. A button that calls a
helper function calls no closure. -/
def calls (v : View) : List Call :=
  (v.buttons.flatten.filterMap (call? "            " "")).filter
      (fun call => !v.helperNames.contains call.callee) ++
    (v.helpers.flatMap fun h => h.2.filterMap (call? "            await " "")) ++
    v.wrappers.map Wrapper.call

/-- Every call of a closure has as many arguments as its type says, and a closure that is put around
such a call names as many. -/
def Serves (v : View) (name type : String) : Prop :=
  (∀ call ∈ v.calls, call.callee = name → closureArity? type = some call.arguments) ∧
    ∀ wrapper ∈ v.wrappers, wrapper.call.callee = name → closureArity? type = some wrapper.takes

end View

/-! ## What is read -/

/-- A call without arguments. -/
theorem call?_eq {opening closing line name : String}
    (h : line = opening ++ (name ++ "()" ++ closing)) :
    call? opening closing line = some ⟨name, 0⟩ := by
  have hafter : after? opening.toList line.toList = some ((name ++ "()" ++ closing).toList) := by
    rw [h, String.toList_append, after?_append]
  have hbefore : before? closing (name ++ "()" ++ closing).toList = some (name ++ "()").toList := by
    rw [String.toList_append, before?_append]
  have hreverse : after? [')'] (name ++ "()").toList.reverse = some ('(' :: name.toList.reverse) := by
    simp [after?]
  have hcallee : calleeBack? 0 ('(' :: name.toList.reverse) = some name.toList.reverse := rfl
  have hitems : items? ((name ++ "()").toList.drop (name.toList.reverse.length + 1)) =
      some (0, []) := by
    have hdrop : (name ++ "()").toList.drop (name.toList.reverse.length + 1) = [')'] := by
      rw [String.toList_append, List.length_reverse, List.drop_length_add_append]
      rfl
    rw [hdrop]
    rfl
  unfold call? guard
  simp only [hafter, hbefore, hreverse, hcallee, hitems, Option.bind_eq_bind, Option.bind_some]
  simp

theorem call?_eq_none {opening closing line : String} (h : begins opening line = false) :
    call? opening closing line = none := by
  rw [begins, Option.isSome_eq_false_iff, Option.isNone_iff_eq_none] at h
  rw [call?, h]
  rfl

theorem wrappers_eq_nil {lines : Lines} (h : Without "            Task \x7b " lines) :
    wrappers lines = [] := by
  induction lines with
  | nil => rfl
  | cons head lines ih =>
      have hlines := (without_cons.1 h).2
      cases lines with
      | nil => rfl
      | cons line rest =>
          rw [wrappers, call?_eq_none (without_cons.1 hlines).1, ih hlines]
          rfl

theorem wrappers_append {front : Lines} (h : Without "            Task \x7b " front)
    {head : String} (hhead : begins "            Task \x7b " head = false) (lines : Lines) :
    wrappers (front ++ head :: lines) = wrappers (head :: lines) := by
  induction front with
  | nil => rfl
  | cons line front ih =>
      have hfront := (without_cons.1 h).2
      rw [← ih hfront]
      cases front with
      | nil => rw [List.singleton_append, wrappers, call?_eq_none hhead]; rfl
      | cons other front =>
          rw [List.cons_append, List.cons_append, wrappers,
            call?_eq_none (without_cons.1 hfront).1]
          rfl

namespace Swift

/-- The type of a closure says how many parameters the action has. -/
theorem closureArity?_closureTypeAs (isAsync : Bool) {a : ComponentAction}
    (h : ∀ param ∈ a.parameters, isItem param.swiftType = true) :
    closureArity? (closureTypeAs isAsync a) = some a.parameters.length := by
  have htext : (closureTypeAs isAsync a).toList = '(' ::
      listed ", " (a.parameters.map ActionParameter.swiftType)
        (')' :: (asyncMark isAsync ++ " -> " ++ resultType a).toList) := by
    simp [closureTypeAs, listed, resultType, toString]
  have htypes : ∀ text ∈ a.parameters.map ActionParameter.swiftType, isItem text = true := by
    simpa using h
  have hitems := items?_listed htypes (asyncMark isAsync ++ " -> " ++ resultType a).toList
  have harrow : (goesOn " -> " (asyncMark isAsync ++ " -> " ++ resultType a).toList ||
      goesOn " async -> " (asyncMark isAsync ++ " -> " ++ resultType a).toList) = true := by
    cases isAsync <;> simp [asyncMark, goesOn, after?]
  unfold closureArity? guard
  rw [htext]
  simp only [after?, if_true, Option.bind_eq_bind, Option.bind_some, hitems, harrow, List.length_map]
  rfl

theorem without_declared (props : List ComponentProperty) (acts : List ComponentAction) :
    Without "            Task \x7b " (declared props acts).assignments := by
  intro line hl
  rcases List.mem_append.1 hl with hl | hl
  · obtain ⟨prop, _, rfl⟩ := List.mem_map.1 hl
    cases hb : prop.isBinding <;> simp [propertyAssignment, hb, begins, after?, toString]
  · obtain ⟨a, _, rfl⟩ := List.mem_map.1 hl
    simp [begins, after?, toString]

section Calls

variable (props : List ComponentProperty) (before : List ComponentAction) (a : ComponentAction)
  (after : List ComponentAction)

/-- The second initializer puts a closure around a task. -/
theorem wrappers_waitingView : (waitingView props before a after).wrappers = [⟨0, a.name, 0⟩] := by
  have hplain : wrappers (between (declared props before) (declared [] after)
      s!"{a.name}: @escaping ({parameterTypes a}) async -> {resultType a}"
      [s!"        self.{a.name} = {a.name}"]).assignments = [] := by
    apply wrappers_eq_nil
    simp only [between, without_append, without_declared, true_and, and_true]
    simp [begins, after?, toString]
  have hcall : call? "            Task \x7b " " \x7d" s!"            Task \x7b {a.name}() \x7d" =
      some ⟨a.name, 0⟩ := call?_eq (by simp [toString, ← String.toList_inj])
  have hnamed : namedCount s!"        self.{a.name} = \x7b" = 0 := by
    simp [namedCount, toString]
  have hbehind : wrappers ("        \x7d" :: (declared [] after).assignments) = [] := by
    apply wrappers_eq_nil
    rw [without_cons]
    exact ⟨by decide, without_declared [] after⟩
  have htask : wrappers (between (declared props before) (declared [] after)
      s!"{a.name}: @escaping ({parameterTypes a}) -> {resultType a}"
      [s!"        self.{a.name} = \x7b", s!"            Task \x7b {a.name}() \x7d",
        "        \x7d"]).assignments = [⟨0, a.name, 0⟩] := by
    rw [between, List.append_assoc]
    dsimp only [List.cons_append, List.nil_append]
    rw [wrappers_append (without_declared props before) (by simp [begins, after?, toString]),
      wrappers, hcall, hnamed, wrappers, call?_eq_none (by decide), hbehind]
    rfl
  rw [View.wrappers, waitingView, List.flatMap_cons, List.flatMap_cons, List.flatMap_nil, hplain,
    htask]
  rfl

/-- The helper calls the first asynchronous action, and so does the task. -/
theorem calls_waitingView :
    (waitingView props before a after).calls = [⟨a.name, 0⟩, ⟨a.name, 0⟩] := by
  have hbutton : call? "            " "" "            handleAction()" = some ⟨"handleAction", 0⟩ :=
    call?_eq rfl
  have hnames : (waitingView props before a after).helperNames = ["handleAction"] := by
    have hhead : (after? "    private func ".toList
        "    private func handleAction() \x7b".toList).map (fun cs =>
          String.ofList (cs.takeWhile (· != '('))) = some "handleAction" := by
      decide
    rw [View.helperNames, waitingView, List.filterMap_cons, hhead]
    rfl
  have hhelper : (helperLines a).filterMap (call? "            await " "") = [⟨a.name, 0⟩] := by
    have hawait : call? "            await " "" s!"            await {a.name}()" =
        some ⟨a.name, 0⟩ := call?_eq (by simp [toString, ← String.toList_inj])
    have hother : ∀ line ∈ ["        Task \x7b", "            isPerformingAction = true",
        "            isPerformingAction = false", "        \x7d"],
        call? "            await " "" line = none := fun line hl =>
      call?_eq_none (by revert line; decide)
    simp only [List.forall_mem_cons] at hother
    simp only [helperLines, List.filterMap_cons, List.filterMap_nil, hawait, hother]
  rw [View.calls, wrappers_waitingView, hnames, waitingView]
  simp only [List.flatten_cons, List.flatten_nil, List.append_nil, List.filterMap_cons,
    List.filterMap_nil, hbutton, List.flatMap_cons, List.flatMap_nil, hhelper]
  rfl

end Calls

theorem wrappers_plainView (c : Component) : (plainView c).wrappers = [] := by
  rw [View.wrappers, plainView, List.flatMap_singleton]
  exact wrappers_eq_nil (without_declared c.properties c.actions)

/-- The button calls the first action. -/
theorem calls_plainView (c : Component) :
    (plainView c).calls = (c.actions.head?.map fun a => Call.mk a.name 0).toList := by
  have hcall : ∀ a : ComponentAction, call? "            " "" s!"            {a.name}()" =
      some ⟨a.name, 0⟩ := fun a => call?_eq (by simp [toString, ← String.toList_inj])
  rw [View.calls, wrappers_plainView, View.helperNames, plainView]
  cases c.actions.head? with
  | none => rfl
  | some a =>
      dsimp only
      rw [List.flatten_cons, List.flatten_nil, List.append_nil, List.filterMap_cons, hcall]
      rfl

/-- The closure of every action is declared. -/
theorem mem_file_action {c : Component} {a : ComponentAction} (ha : a ∈ c.actions)
    (source : String) : s!"    let {a.name}: {closureType a}" ∈ file c source := by
  have hmem : s!"let {a.name}: {closureType a}" ∈ actions c := List.mem_map.2 ⟨a, ha, rfl⟩
  have hindent : s!"    let {a.name}: {closureType a}" ∈ Lines.indent (actions c) 1 := by
    rw [Lines.indent_eq_map]
    · exact List.mem_map.2 ⟨_, hmem, by simp [toString, ← String.toList_inj]⟩
    · simp [actions, toString]
  have hblock : s!"    let {a.name}: {closureType a}" ∈ spacedBehind (actions c) := by
    rw [spacedBehind, if_neg (by simpa using List.ne_nil_of_mem hmem)]
    exact List.mem_append_left _ hindent
  rw [file_eq]
  simp only [List.mem_append, hblock, or_true, true_or]

end Swift

/-- If all calls are calls of one closure and pass nothing, and this closure is called, then only
its type has to fit. -/
theorem View.serves_iff {v : View} {name : String} {p : Prop}
    (hcalls : ∀ call ∈ v.calls, call.arguments = 0)
    (hwrappers : ∀ wrapper ∈ v.wrappers, wrapper.takes = 0 ∧ wrapper.call ∈ v.calls)
    (hname : p ↔ ∃ call ∈ v.calls, call.callee = name) (type : String) :
    v.Serves name type ↔ (p → closureArity? type = some 0) := by
  constructor
  · rintro ⟨hserved, _⟩ hp
    obtain ⟨call, hcall, hcallee⟩ := hname.1 hp
    rw [← hcalls call hcall]
    exact hserved call hcall hcallee
  · refine fun hzero => ⟨fun call hcall hcallee => ?_, fun wrapper hw hcallee => ?_⟩
    · rw [hcalls call hcall]
      exact hzero (hname.2 ⟨call, hcall, hcallee⟩)
    · obtain ⟨htakes, hcall⟩ := hwrappers wrapper hw
      rw [htakes]
      exact hzero (hname.2 ⟨wrapper.call, hcall, hcallee⟩)

/-- The view of a component, in which nothing but the primary action is called, without arguments.
-/
theorem exists_view_serves (c : Component) (source : String) :
    ∃ v, View.read? (Swift.file c source) = some v ∧ ∀ name type,
      v.Serves name type ↔ (c.primaryAction?.map (·.name) = some name →
        closureArity? type = some 0) := by
  by_cases hasync : ∃ a ∈ c.actions, a.isAsync = true
  · obtain ⟨before, a, after, hc, hbefore, ha⟩ := exists_first_async hasync
    have hprimary : c.primaryAction? = some a := by
      rw [Component.primaryAction?, Swift.find?_eq_first hc hbefore ha]
      rfl
    refine ⟨_, Swift.read?_file_async hc hbefore ha source, fun name type =>
      View.serves_iff ?_ ?_ ?_ type⟩
    · simp [Swift.calls_waitingView]
    · simp [Swift.wrappers_waitingView, Swift.calls_waitingView]
    · simp [Swift.calls_waitingView, hprimary]
  · have hc : ∀ a ∈ c.actions, a.isAsync = false := fun a ha => by
      rw [← Bool.not_eq_true]
      exact fun h => hasync ⟨a, ha, h⟩
    have hprimary : c.primaryAction? = c.actions.head? := by
      have hfind : c.actions.find? (·.isAsync) = none :=
        List.find?_eq_none.2 fun a ha => by simp [hc a ha]
      rw [Component.primaryAction?, hfind]
      rfl
    refine ⟨_, Swift.read?_file_plain hc source, fun name type =>
      View.serves_iff ?_ ?_ ?_ type⟩
    · simp [Swift.calls_plainView]
    · simp [Swift.wrappers_plainView]
    · rw [Swift.calls_plainView, hprimary]
      cases c.actions.head? <;> simp

/-- The calls in the view of an accepted specification fit the types of the closures exactly if the
type of the closure that is called takes nothing: the first asynchronous action that the
specification declares, or the first action if there is none, has no parameters. For a type that
parameters can have, the brackets of the closure's type hold as many items as there are parameters.
-/
theorem calls_fit_iff {doc : Value} {c : Component} (h : ofSpec doc = .ok c) (source : String) :
    List.Forall₂ (fun v a => readAction v = .ok a) (Shape.declared "actions" doc) c.actions ∧
    (∀ file, c.sourceFile source = .ok file → (∀ line ∈ Swift.file c source, '\n' ∉ line.toList) →
      Text.split '\n' file.text = Swift.file c source) ∧
    (∀ a ∈ c.actions, s!"    let {a.name}: {Swift.closureType a}" ∈ Swift.file c source) ∧
    (∀ a ∈ c.actions, (∀ param ∈ a.parameters, isItem param.swiftType = true) →
      closureArity? (Swift.closureType a) = some a.parameters.length) ∧
    ∃ v, View.read? (Swift.file c source) = some v ∧ ∀ a ∈ c.actions,
      (v.Serves a.name (Swift.closureType a) ↔
        (c.primaryAction?.map (·.name) = some a.name →
          closureArity? (Swift.closureType a) = some 0)) := by
  obtain ⟨ms, hms, _, hactions⟩ := exists_members_of_ofSpec h
  refine ⟨Shape.forall₂_declared hms hactions, fun file hfile hbreaks => ?_, fun a ha => ?_,
    fun a _ hitems => Swift.closureArity?_closureTypeAs a.isAsync hitems, ?_⟩
  · rw [text_of_sourceFile hfile, Lines.split_joined_of_not_mem (file_ne_nil c source) hbreaks]
  · exact Swift.mem_file_action ha source
  · obtain ⟨v, hread, hserves⟩ := exists_view_serves c source
    exact ⟨v, hread, fun a _ => hserves a.name (Swift.closureType a)⟩

theorem calls_fit_cardSpec : ∃ c v, ofSpec cardSpec = .ok c ∧
    View.read? (Swift.file c "card.json") = some v ∧ c.actions.length = 3 ∧
    ∀ a ∈ c.actions, v.Serves a.name (Swift.closureType a) := by
  obtain ⟨c, hok, hlength, hparams⟩ : ∃ c, ofSpec cardSpec = .ok c ∧ c.actions.length = 3 ∧
      ∀ a ∈ c.actions, a.parameters.length = 0 :=
    exists_ok_of_any (by decide +kernel)
  obtain ⟨_, _, _, harity, v, hread, hfit⟩ := calls_fit_iff hok "card.json"
  refine ⟨c, v, hok, hread, hlength, fun a ha => (hfit a ha).2 fun _ => ?_⟩
  have hnone := List.length_eq_zero_iff.1 (hparams a ha)
  rw [harity a ha (by simp [hnone]), hnone]
  rfl

/-- A specification with an action that has a parameter. -/
def textInputSpec : Value :=
  .record [("component", .str "TextInput"), ("category", .str "forms"),
    ("properties", .list [
      .record [("name", .str "text"), ("type", .str "Binding<String>"), ("required", .bool true)]]),
    ("actions", .list [
      .record [("name", .str "onSubmit"), ("parameters", .list [
        .record [("name", .str "value"), ("type", .str "String")]])]])]

/-- The button passes nothing to a closure that takes one argument. -/
theorem not_calls_fit_textInputSpec : ∃ c v a, ofSpec textInputSpec = .ok c ∧
    View.read? (Swift.file c "input.json") = some v ∧ a ∈ c.actions ∧
    v.calls = [⟨"onSubmit", 0⟩] ∧ a.name = "onSubmit" ∧
    Swift.closureType a = "(String) -> Void" ∧ closureArity? (Swift.closureType a) = some 1 ∧
    ¬ v.Serves a.name (Swift.closureType a) := by
  obtain ⟨c, hok, hactions⟩ : ∃ c, ofSpec textInputSpec = .ok c ∧
      c.actions.map (fun a => (a.name, a.isAsync, Swift.closureType a)) =
        [("onSubmit", false, "(String) -> Void")] :=
    exists_ok_of_any (by decide +kernel)
  obtain ⟨a, hsingle, ha⟩ := List.map_eq_singleton_iff.1 hactions
  obtain ⟨hname, hasync, htype⟩ : a.name = "onSubmit" ∧ a.isAsync = false ∧
      Swift.closureType a = "(String) -> Void" := by
    simpa [Prod.ext_iff] using ha
  have harity : closureArity? "(String) -> Void" = some 1 := by
    decide +kernel
  have hcalls : (Swift.plainView c).calls = [⟨"onSubmit", 0⟩] := by
    rw [Swift.calls_plainView, hsingle, List.head?_cons, Option.map_some, hname]
    rfl
  refine ⟨c, Swift.plainView c, a, hok,
    Swift.read?_file_plain (by simpa [hsingle] using hasync) "input.json", by simp [hsingle],
    hcalls, hname, htype, by rw [htype, harity], fun hserves => ?_⟩
  have hfit := hserves.1 ⟨"onSubmit", 0⟩ (by simp [hcalls]) hname.symm
  rw [htype, harity] at hfit
  exact absurd hfit (by decide)

end SpecForge.Component
