import SpecForge.Plugin.Swift
import SpecForge.Proofs.Lines.Declaration

/-!
# Methods in the files of a plugin

A reader for what a protocol requires, for the public functions of a class, and for the call by
which a function is forwarded to a provider. Names and types may be any texts, also ones with commas
and brackets in them. So the name and the parameters of a function are at hand when its effects and
its call are read. The reader works on lines, and knows nothing of how these come about.

The methods of a plugin are written three times: into the protocol, into the manager and into each
provider. The manager calls the provider, or has stubs if there is none. Read back, each file has
the methods of the plugin in their order, and the protocol and the classes have nothing else, but
for the function of the manager that registers the provider.
-/

/-! ## The reader -/

namespace SpecForge.Plugin

open Model.Reader Api.Reader Text Lines

/-- The effects of a function and the type of its answer. -/
structure Effects where
  isAsync : Bool
  throws : Bool
  returns : Option String
deriving DecidableEq

/-- The words before a call. -/
structure Call where
  awaits : Bool
  tries : Bool
  returns : Bool
deriving DecidableEq

/-- The words before a call of a function: those that its effects ask for, and one if its answer is
given on. -/
def Effects.call (e : Effects) : Call := ⟨e.isAsync, e.throws, e.returns.isSome⟩

namespace Reader

/-- The function that a line of a protocol requires. -/
def requirement? (line : String) : Option String :=
  if begins "    func " line then (after? "    ".toList line.toList).map String.ofList else none

/-- The functions that a protocol requires. -/
def requirements (lines : Lines) : List String := lines.filterMap requirement?

/-- The public functions of a class. -/
def functions (lines : Lines) : List (String × Lines) :=
  declarations "    public func " "    \x7d" lines

/-- The signature of a public function, by its first line. -/
def signature? (head : String) : Option String := do
  let cs ← after? "    public ".toList head.toList
  return String.ofList (← before? " \x7b" cs)

/-- The effects in a signature, the name and the parameters of the function being given. -/
def effects? (name : String) (params : List (String × String)) (signature : String) :
    Option Effects := do
  let list := ", ".intercalate (params.map fun p => p.1 ++ ": " ++ p.2)
  let cs ← after? ("func " ++ name ++ "(" ++ list ++ ")").toList signature.toList
  let rest := skip " async" cs
  match skip " throws" rest with
  | [] => return ⟨goesOn " async" cs, goesOn " throws" rest, none⟩
  | c :: more => do
    let type ← after? " -> ".toList (c :: more)
    return ⟨goesOn " async" cs, goesOn " throws" rest, some (String.ofList type)⟩

/-- The call in the last line of a function, if it passes each argument under its own label. -/
def call? (name : String) (labels : List String) (body : Lines) : Option Call := do
  let list := ", ".intercalate (labels.map fun l => l ++ ": " ++ l)
  let cs ← after? "        ".toList (← body.getLast?).toList
  let behindReturn := skip "return " cs
  let behindTry := skip "try " behindReturn
  let rest ← after? ("provider." ++ name ++ "(" ++ list ++ ")").toList (skip "await " behindTry)
  if rest = [] then
    some ⟨goesOn "await " behindTry, goesOn "try " behindReturn, goesOn "return " cs⟩
  else none

/-- The stored properties of a type. -/
def properties (lines : Lines) : Lines := lines.filter (begins "    public let ")

/-- The state of a class. -/
def state (lines : Lines) : Lines := lines.filter (begins "    private var ")

/-- Does a line register something with a shared object? -/
def isRegistration (line : String) : Bool := (before? ".shared.register(" line.toList).isSome

/-- The statements that register something with a shared object. -/
def registrations (lines : Lines) : Lines :=
  (lines.filter (begins "        ")).filter isRegistration

/-- The lines that are moved to the right: in a readme, the arguments of its example. -/
def moved (lines : Lines) : Lines := lines.filter (begins "    ")

end Reader

end SpecForge.Plugin

/-! ## What is printed -/

namespace SpecForge.Plugin.Swift

open Model.Reader Api.Reader Text Lines

/-- The parameters of a method with their types. -/
def typedParameters (m : PluginMethod) : List (String × String) :=
  m.parameters.map fun p => (p.name, pluginType p.type)

/-- The type of the answer of a method, if it gives one. -/
def answerType (m : PluginMethod) : Option String :=
  if m.returnsValue then some (pluginType m.returnType) else none

/-- The effects of a method with the type of its answer. -/
def effectsOf (m : PluginMethod) : Effects := ⟨m.isAsync, m.throws, answerType m⟩

/-- The effects are read from a signature, whatever the types are. -/
theorem effects?_signature (m : PluginMethod) :
    Reader.effects? m.name (typedParameters m) (signature m) = some (effectsOf m) := by
  let list := ", ".intercalate (m.parameters.map fun p => s!"{p.name}: {pluginType p.type}")
  have hlist : (typedParameters m).map (fun p => p.1 ++ ": " ++ p.2) =
      m.parameters.map fun p => s!"{p.name}: {pluginType p.type}" := by
    rw [typedParameters, List.map_map]
    rfl
  have hsignature : (signature m).toList =
      ("func " ++ m.name ++ "(" ++ list ++ ")").toList ++ (effects m ++ returns m).toList := by
    simp [signature, list, toString]
  rw [Reader.effects?, hlist, hsignature, after?_append]
  cases ha : m.isAsync <;> cases ht : m.throws <;> cases hr : m.returnsValue <;>
    simp [effects, returns, effectsOf, answerType, ha, ht, hr, skip, goesOn, after?]

/-- The call of a provider passes each argument on, and has a word before it for each effect. -/
theorem call?_forwardingCall (m : PluginMethod) (front : Lines) :
    Reader.call? m.name (m.parameters.map (·.name)) (front ++ ["        " ++ forwardingCall m]) =
      some ⟨m.isAsync, m.throws, m.returnsValue⟩ := by
  have hlist : (m.parameters.map (·.name)).map (fun l => l ++ ": " ++ l) =
      m.parameters.map fun p => s!"{p.name}: {p.name}" := by
    rw [List.map_map]
    rfl
  rw [Reader.call?, hlist, forwardingCall, List.getLast?_concat, Option.bind_eq_bind,
    Option.bind_some, String.toList_append, after?_append]
  generalize ", ".intercalate (m.parameters.map fun p => s!"{p.name}: {p.name}") = arguments
  have hself : ∀ cs : List Char, after? cs cs = some [] := fun cs => by
    simpa using after?_append cs []
  cases m.isAsync <;> cases m.throws <;> cases m.returnsValue <;>
    simp [skip, goesOn, after?, hself, toString]

/-! ### Public functions -/

/-- The first line of a method in a class. -/
def methodHead (m : PluginMethod) : String := "    public " ++ signature m ++ " \x7b"

theorem signature?_methodHead (m : PluginMethod) :
    Reader.signature? (methodHead m) = some (signature m) := by
  rw [Reader.signature?, methodHead, String.append_assoc, String.toList_append, after?_append,
    String.toList_append, Option.bind_eq_bind, Option.bind_some, before?_append]
  simp

theorem begins_methodHead (m : PluginMethod) :
    begins "    public func " (methodHead m) = true := by
  simp [methodHead, signature, begins, after?, toString]

/-- What a method of the manager does if there are providers. -/
def forwarding (m : PluginMethod) : Lines :=
  ["    guard let provider = provider else \x7b",
    "        fatalError(\"No provider registered\")",
    "    \x7d",
    "",
    "    " ++ forwardingCall m]

/-- The body of a method of the manager calls the provider as its effects ask for it. -/
theorem call?_forwarding (m : PluginMethod) :
    Reader.call? m.name (m.parameters.map (·.name)) (Lines.indent (forwarding m) 1) =
      some (effectsOf m).call := by
  have hguard : Lines.indent
      ["    guard let provider = provider else \x7b",
        "        fatalError(\"No provider registered\")", "    \x7d", ""] 1 =
      ["        guard let provider = provider else \x7b",
        "            fatalError(\"No provider registered\")", "        \x7d", ""] := by
    decide
  have hcall : Lines.indent ["    " ++ forwardingCall m] 1 = ["        " ++ forwardingCall m] := by
    rw [Lines.indent_singleton (by simp)]
    simp [← String.toList_inj]
  have hbody : Lines.indent (forwarding m) 1 =
      ["        guard let provider = provider else \x7b",
        "            fatalError(\"No provider registered\")", "        \x7d", ""] ++
          ["        " ++ forwardingCall m] := by
    rw [← hguard, ← hcall, ← Lines.indent_append]
    rfl
  have hreturns : (answerType m).isSome = m.returnsValue := by
    rw [answerType]
    cases m.returnsValue <;> rfl
  rw [hbody, call?_forwardingCall, Effects.call, effectsOf, hreturns]

/-- All lines but empty ones stand to the right of the function. -/
def IsInner (body : Lines) : Prop := ∀ line ∈ body, line = "" ∨ ∃ rest, line = "    " ++ rest

theorem isInner_forwarding (m : PluginMethod) : IsInner (forwarding m) := by
  intro line hl
  simp only [forwarding, List.mem_cons, List.not_mem_nil, or_false] at hl
  rcases hl with rfl | rfl | rfl | rfl | rfl
  · exact .inr ⟨"guard let provider = provider else \x7b", rfl⟩
  · exact .inr ⟨"    fatalError(\"No provider registered\")", rfl⟩
  · exact .inr ⟨"\x7d", rfl⟩
  · exact .inl rfl
  · exact .inr ⟨forwardingCall m, rfl⟩

theorem isInner_stub (m : PluginMethod) : IsInner (stub m) := by
  intro line hl
  rw [stub, List.mem_append, List.mem_singleton] at hl
  rcases hl with rfl | hl
  · exact .inr ⟨"// TODO: Implement this method", rfl⟩
  · split at hl
    · rw [List.mem_singleton] at hl
      refine .inr ⟨s!"fatalError(\"{m.name} not implemented\")", ?_⟩
      rw [hl]
      simp [toString, ← String.toList_inj]
    · exact absurd hl List.not_mem_nil

theorem IsInner.of_mem_indent {body : Lines} (h : IsInner body) {line : String}
    (hl : line ∈ Lines.indent body 1) : line = "" ∨ ∃ rest, line = "        " ++ rest := by
  obtain ⟨other, ho, rfl⟩ := List.mem_map.1 hl
  split
  · rename_i hempty
    exact .inl (String.isEmpty_iff.1 hempty)
  · rename_i hne
    rcases h other ho with rfl | ⟨rest, rfl⟩
    · exact absurd rfl hne
    · exact .inr ⟨rest, by simp [Lines.indentation, ← String.toList_inj]⟩

/-- No function begins or ends in the body of a method. -/
theorem IsInner.without {body : Lines} (h : IsInner body) :
    Without "    public func " (Lines.indent body 1 ++ ["    \x7d"]) ∧
      "    \x7d" ∉ Lines.indent body 1 := by
  refine ⟨without_append.2 ⟨?_, ?_⟩, ?_⟩
  · intro line hl
    rcases h.of_mem_indent hl with rfl | ⟨rest, rfl⟩
    · decide
    · simp [begins, after?]
  · simp [begins, after?]
  · intro hl
    rcases h.of_mem_indent hl with hempty | ⟨rest, hrest⟩
    · exact absurd hempty (by decide)
    · simp [← String.toList_inj] at hrest

theorem without_indent_docComment {keyword : String} (text : Option String)
    (h : ∀ rest, begins keyword ("    /// " ++ rest) = false) :
    Without keyword (Lines.indent (Lines.docComment .slashes text) 1) := by
  rcases Lines.indent_docComment .slashes text with hd | ⟨rest, hd⟩
  · rw [hd]
    exact without_nil
  · have hline : "    " ++ (CommentStyle.slashes.opening ++ rest) = "    /// " ++ rest := by
      simp [CommentStyle.slashes, CommentStyle.opening, ← String.toList_inj]
    rw [hd, hline, without_cons]
    exact ⟨h rest, without_nil⟩

theorem indent_publicMethod (m : PluginMethod) (body : Lines) :
    Lines.indent (publicMethod m body) 1 =
      Lines.indent (Lines.docComment .slashes (some m.description)) 1 ++
        methodHead m :: (Lines.indent body 1 ++ ["    \x7d"]) := by
  have hhead : Lines.indent [s!"public {signature m} \x7b"] 1 = [methodHead m] := by
    rw [Lines.indent_singleton (by simp [toString])]
    simp [methodHead, toString, ← String.toList_inj]
  have hclose : Lines.indent ["\x7d"] 1 = ["    \x7d"] := rfl
  simp only [publicMethod, Lines.indent_append, hhead, hclose]
  simp

/-- A class has the methods that are written into it, in their order, and no other functions. -/
theorem functions_class {front : Lines} (hfront : Without "    public func " front)
    {body : PluginMethod → Lines} (hbody : ∀ m, IsInner (body m)) (ms : List PluginMethod) :
    Reader.functions (front ++
        ms.flatMap (fun m => Lines.indent (publicMethod m (body m)) 1 ++ [""]) ++ ["\x7d", ""]) =
      ms.map fun m => (methodHead m, Lines.indent (body m) 1) := by
  have hdoc : ∀ m : PluginMethod, Without "    public func "
      (Lines.indent (Lines.docComment .slashes (some m.description)) 1) := fun m =>
    without_indent_docComment _ fun _ => by simp [begins, after?]
  have hback : Without "    public func " [""] := by
    simp [begins, after?]
  have hend : Without "    public func " ["\x7d", ""] := by
    simp [begins, after?]
  have hall := declarations_flatMap hdoc begins_methodHead (fun m => (hbody m).without.1)
    (fun m => (hbody m).without.2) (fun _ => hback) ms ["\x7d", ""]
  rw [declarations_eq_nil hend, List.append_nil] at hall
  rw [List.append_assoc, Reader.functions, declarations_append hfront]
  simp only [indent_publicMethod, List.append_assoc, List.cons_append, List.nil_append] at hall ⊢
  exact hall

/-! ### The files -/

section Files

variable (p : Plugin) {name : String}

/-- A provider has each method as a stub. -/
theorem functions_providerFile (provider : PluginProvider) :
    Reader.functions (providerFile p provider) =
      p.methods.map fun m => (methodHead m, Lines.indent (stub m) 1) := by
  have hdoc : Without "    public func "
      (Lines.docComment .slashes (some provider.description)) := by
    intro line hl
    obtain ⟨rest, rfl⟩ := Lines.mem_docComment hl
    simp [CommentStyle.slashes, CommentStyle.opening, begins, after?]
  refine functions_class ?_ isInner_stub p.methods
  simp only [without_append, hdoc, and_true]
  simp [header, begins, after?, toString]

/-- What stands in the manager before its functions. -/
def managerOpening : Lines :=
  header p.managerName ++
    ["import Foundation",
      "",
      s!"/// Manager for coordinating {p.description}",
      "@MainActor",
      s!"public final class {p.managerName}: ObservableObject \x7b",
      s!"    public static let shared = {p.managerName}()",
      ""] ++
    withProtocol p (fun name => [s!"    private var provider: {name}?"]) ++
    [s!"    private var {debugFlag} = false", "", "    private init() \x7b\x7d", ""]

/-- The function that registers a provider. -/
def registering (name : String) : Lines :=
  [s!"    /// Register a {Text.lower name}",
    s!"    public func register(_ provider: {name}, {debugFlag}: Bool = false) \x7b",
    "        self.provider = provider",
    s!"        self.{debugFlag} = {debugFlag}",
    "    \x7d",
    ""]

/-- What a method of the manager does. -/
def managerBody (m : PluginMethod) : Lines :=
  match p.protocolName with
  | some _ => forwarding m
  | none => stub m

theorem isInner_managerBody (m : PluginMethod) : IsInner (managerBody p m) := by
  rw [managerBody]
  split
  · exact isInner_forwarding m
  · exact isInner_stub m

theorem managerMethod_eq (m : PluginMethod) :
    managerMethod p m = publicMethod m (managerBody p m) := by
  rw [managerMethod, managerBody]
  cases p.protocolName with
  | none => rfl
  | some name => simp [forwarding, toString]

theorem managerFile_eq : managerFile p = managerOpening p ++ withProtocol p registering ++
    p.methods.flatMap (fun m => Lines.indent (publicMethod m (managerBody p m)) 1 ++ [""]) ++
      ["\x7d", ""] := by
  rw [managerFile, managerOpening, withProtocol, withProtocol, withProtocol]
  simp only [managerMethod_eq]
  cases p.protocolName with
  | none => simp
  | some name => simp [registering]

theorem without_withProtocol {keyword : String} {lines : String → Lines}
    (h : ∀ name, Without keyword (lines name)) : Without keyword (withProtocol p lines) := by
  rw [withProtocol]
  split
  · exact h _
  · exact without_nil

theorem without_managerOpening : Without "    public func " (managerOpening p) := by
  have hprovider : Without "    public func "
      (withProtocol p fun name => [s!"    private var provider: {name}?"]) :=
    without_withProtocol p fun name => by simp [begins, after?, toString]
  simp only [managerOpening, without_append, hprovider, and_true]
  simp [header, begins, after?, toString]

/-- Without providers the manager has each method as a stub. -/
theorem functions_managerFile_of_none (h : p.protocolName = none) :
    Reader.functions (managerFile p) =
      p.methods.map fun m => (methodHead m, Lines.indent (stub m) 1) := by
  have hbody : ∀ m, managerBody p m = stub m := by
    intro m
    rw [managerBody, h]
  have hregistering : withProtocol p registering = [] := by
    rw [withProtocol, h]
  rw [managerFile_eq, hregistering, List.append_nil,
    functions_class (without_managerOpening p) (isInner_managerBody p)]
  simp only [hbody]

/-- With providers the manager registers one, and each method calls it. -/
theorem functions_managerFile_of_some (h : p.protocolName = some name) :
    ∃ register, begins s!"    public func register(_ provider: {name}, " register.1 = true ∧
      Reader.functions (managerFile p) =
        register :: p.methods.map fun m => (methodHead m, Lines.indent (forwarding m) 1) := by
  let comment := s!"    /// Register a {Text.lower name}"
  let head := s!"    public func register(_ provider: {name}, {debugFlag}: Bool = false) \x7b"
  let body := ["        self.provider = provider", s!"        self.{debugFlag} = {debugFlag}"]
  have hbody : ∀ m, managerBody p m = forwarding m := by
    intro m
    rw [managerBody, h]
  have hlines : managerFile p = (managerOpening p ++ [comment]) ++ head :: (body ++ "    \x7d" ::
      ([""] ++ p.methods.flatMap (fun m => Lines.indent (publicMethod m (managerBody p m)) 1 ++
        [""]) ++ ["\x7d", ""])) := by
    rw [managerFile_eq, withProtocol, h]
    simp [registering, comment, head, body]
  have hcomment : Without "    public func " [comment] := by
    simp [comment, begins, after?, toString]
  have hhead : begins "    public func " head = true := by
    simp [head, begins, after?, toString]
  have hinner : Without "    public func " (body ++ ["    \x7d"]) := by
    simp [body, begins, after?, toString]
  have hclose : "    \x7d" ∉ body := by
    decide
  have hblank : Without "    public func " [""] := by
    simp [begins, after?]
  refine ⟨(head, body), ?_, ?_⟩
  · simp [head, begins, after?, toString, after?_append_append]
  · rw [hlines, Reader.functions,
      declarations_append (without_append.2 ⟨without_managerOpening p, hcomment⟩),
      declarations_cons hhead hinner hclose]
    have hmethods := functions_class hblank (isInner_managerBody p) p.methods
    simp only [hbody] at hmethods ⊢
    exact congrArg ((head, body) :: ·) hmethods

theorem requirements_append {front rest : Lines} (h : Without "    func " front) :
    Reader.requirements (front ++ rest) = Reader.requirements rest := by
  have hnone : front.filterMap Reader.requirement? = [] := by
    rw [List.filterMap_eq_nil_iff]
    intro line hl
    rw [Reader.requirement?, h line hl]
    rfl
  rw [Reader.requirements, List.filterMap_append, hnone, List.nil_append, Reader.requirements]

theorem requirement?_signature (m : PluginMethod) :
    Reader.requirement? ("    " ++ signature m) = some (signature m) := by
  have hbegins : begins "    func " ("    " ++ signature m) = true := by
    simp [signature, begins, after?, toString]
  rw [Reader.requirement?, if_pos hbegins, String.toList_append, after?_append]
  simp

/-- The protocol requires each method, in their order, and nothing else. -/
theorem requirements_protocolFile :
    Reader.requirements (protocolFile p name) = p.methods.map signature := by
  have hfront : Without "    func " (header name ++ ["import Foundation", "",
      s!"/// Protocol for {Text.lower p.description} providers.",
      s!"public protocol {name}: Sendable \x7b"]) := by
    simp [header, begins, after?, toString]
  have hdoc : ∀ m : PluginMethod, Without "    func "
      (Lines.indent (Lines.docComment .slashes (some m.description)) 1) := fun m =>
    without_indent_docComment _ fun _ => by simp [begins, after?]
  rw [protocolFile, List.append_assoc, requirements_append hfront]
  induction p.methods with
  | nil => decide
  | cons m ms ih =>
      have hline : s!"    {signature m}" = "    " ++ signature m := rfl
      have hblank : Reader.requirement? "" = none := by decide
      rw [List.flatMap_cons, List.append_assoc, List.append_assoc, requirements_append (hdoc m),
        List.map_cons, ← ih, hline]
      rw [Reader.requirements, List.cons_append, List.filterMap_cons_some
        (requirement?_signature m), List.cons_append, List.filterMap_cons_none hblank]
      rfl

end Files

end SpecForge.Plugin.Swift
