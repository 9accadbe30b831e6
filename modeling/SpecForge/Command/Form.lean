import SpecForge.Command.Usage
import SpecForge.Text.Split

/-!
# The form of a command

A command has options, which may stand anywhere and in any order, and operands, which have their
places. Each of them says what it changes in the request. Words are first sorted into the options
that are given and the operands, and then the request is filled in. The last value given for an
option counts.
-/

namespace SpecForge.Command

/-- What an option does: it ends the reading at once, or it changes the request. -/
inductive Effect (α : Type) where
  | ends (fault : UsageFault)
  | switch (set : α → α)
  | value (choices : List String) (set : String → α → α)

/-- An option with its names. -/
structure OptionForm (α : Type) where
  names : List String
  effect : Effect α

/-- A word that is no option. -/
structure Operand (α : Type) where
  name : String
  isRequired : Bool
  set : String → α → α

/-- A command with the request that it starts from. -/
structure Form (α : Type) where
  command : String
  options : List (OptionForm α)
  operands : List (Operand α)
  start : α

/-- An option with the value that is given for it; the value of a switch is empty. -/
structure Given (α : Type) where
  option : OptionForm α
  value : String

/-- The words of a command line, sorted. -/
structure Words (α : Type) where
  given : List (Given α)
  operands : List String

/-- The words and one option before them. -/
def Words.add {α : Type} (given : List (Given α)) (words : Words α) : Words α :=
  ⟨given ++ words.given, words.operands⟩

/-- An option whose value is the next word, under the name that was written. -/
abbrev Pending (α : Type) := Option (String × OptionForm α)

namespace OptionForm

variable {α : Type}

/-- The option that every command has. -/
def help : OptionForm α := ⟨["--help"], .ends .help⟩

/-- The option that asks for the version. -/
def version : OptionForm α := ⟨["--version"], .ends .version⟩

/-- The option with a name. -/
def find? (options : List (OptionForm α)) (name : String) : Option (OptionForm α) :=
  options.find? fun o => o.names.contains name

/-- The names of options that are whole words. -/
def longNames (options : List (OptionForm α)) : List String :=
  (options.flatMap (·.names)).filter fun name => Text.startsWith name "--"

/-- What the option ends the reading with. -/
def ending? (o : OptionForm α) : Option UsageFault :=
  match o.effect with
  | .ends fault => some fault
  | _ => none

/-- Does a value follow the option? -/
def takesValue (o : OptionForm α) : Bool :=
  match o.effect with
  | .value _ _ => true
  | _ => false

/-- The values that the option may have; any value, if there are none. -/
def choices (o : OptionForm α) : List String :=
  match o.effect with
  | .value choices _ => choices
  | _ => []

end OptionForm

/-- Is the word written as an option? -/
def isOptionWord (word : String) : Bool := word.length > 1 && Text.startsWith word "-"

section Reading

variable {α : Type} (options : List (OptionForm α))

/-- The options in a word of single letters; the last one may have its value in the word. -/
def readLetters : List Char → Except UsageFault (List (Given α) × Pending α)
  | [] => .ok ([], none)
  | c :: rest =>
    let name := String.ofList ['-', c]
    match OptionForm.find? options name with
    | none => .error (.unknownOption name [])
    | some o =>
      if o.takesValue then
        if rest.isEmpty then .ok ([], some (name, o)) else .ok ([⟨o, String.ofList rest⟩], none)
      else do
        let (given, pending) ← readLetters rest
        return (⟨o, ""⟩ :: given, pending)

/-- The option with a long name in a word, whose value may follow a sign of equality. -/
def readLong (o : OptionForm α) (name : String) (value : Option String) :
    Except UsageFault (List (Given α) × Pending α) :=
  if o.takesValue then
    match value with
    | some v => .ok ([⟨o, v⟩], none)
    | none => .ok ([], some (name, o))
  else
    match value with
    | some _ => .error (.takesNoValue name)
    | none => .ok ([⟨o, ""⟩], none)

/-- The name and the value in a word. -/
def splitValue (word : String) : String × Option String :=
  match word.toList.span (· != '=') with
  | (_, []) => (word, none)
  | (name, _ :: value) => (String.ofList name, some (String.ofList value))

/-- The options in a word. -/
def readOption (word : String) : Except UsageFault (List (Given α) × Pending α) :=
  if Text.startsWith word "--" then
    let (name, value) := splitValue word
    match OptionForm.find? options name with
    | some o => readLong o name value
    | none => .error (.unknownOption name (Text.similar (OptionForm.longNames options) name))
  else readLetters options word.toList.tail

/-- Sorts words. Two hyphens end the options; where options must come first, the first operand does
so too. -/
def Words.read (anywhere : Bool) : Pending α → List String → Except UsageFault (Words α)
  | none, [] => .ok ⟨[], []⟩
  | some (name, _), [] => .error (.needsValue name)
  | some (_, o), word :: rest => do return (← Words.read anywhere none rest).add [⟨o, word⟩]
  | none, word :: rest =>
    if word == "--" then .ok ⟨[], rest⟩
    else if isOptionWord word then do
      let (given, pending) ← readOption options word
      return (← Words.read anywhere pending rest).add given
    else if anywhere then do
      let words ← Words.read anywhere none rest
      return { words with operands := word :: words.operands }
    else .ok ⟨[], word :: rest⟩

end Reading

section Filling

variable {α : Type}

/-- The last value given for an option. -/
def lastValue (given : List (Given α)) (o : OptionForm α) : String :=
  (((given.filter fun g => g.option.names == o.names).getLast?).map (·.value)).getD ""

/-- The fault of a value that is none of those the option may have. -/
def choiceFault? (given : List (Given α)) (g : Given α) : Option UsageFault :=
  let value := lastValue given g.option
  let choices := g.option.choices
  if choices.isEmpty || choices.contains value then none
  else some (.notAmong g.option.names value choices)

/-- The request with an option put in. -/
def Given.fill (a : α) (g : Given α) : α :=
  match g.option.effect with
  | .ends _ => a
  | .switch set => set a
  | .value _ set => set g.value a

/-- The request with all options put in. The first option that ends the reading does so before any
other is looked at. -/
def fillOptions (given : List (Given α)) (a : α) : Except UsageFault α :=
  match (given.findSome? fun g => g.option.ending?).orElse fun _ =>
      given.findSome? (choiceFault? given) with
  | some fault => .error fault
  | none => .ok (given.foldl Given.fill a)

/-- The request with all operands put in. -/
def fillOperands : List (Operand α) → List String → α → Except UsageFault α
  | [], [], a => .ok a
  | [], words, _ => .error (.unexpected words)
  | o :: rest, [], a =>
    if o.isRequired then .error (.missingOperand o.name) else fillOperands rest [] a
  | o :: rest, word :: words, a => fillOperands rest words (o.set word a)

end Filling

/-- The operand as it is shown. -/
def Operand.shown {α : Type} (o : Operand α) : String :=
  if o.isRequired then o.name else "[" ++ o.name ++ "]"

namespace Form

variable {α : Type}

/-- How the command is written. -/
def usage (form : Form α) : Usage := ⟨form.command, form.operands.map Operand.shown⟩

/-- The request that words make. -/
def read (form : Form α) (words : List String) : Except UsageError α :=
  let filled : Except UsageFault α := do
    let sorted ← Words.read (form.options ++ [.help]) true none words
    fillOperands form.operands sorted.operands (← fillOptions sorted.given form.start)
  match filled with
  | .ok a => .ok a
  | .error fault => .error ⟨form.usage, fault⟩

end Form

end SpecForge.Command
