import Mathlib.Data.List.Forall2
import SpecForge.Api.Request
import SpecForge.Proofs.Model.Reader
import SpecForge.Proofs.TypeName

/-!
# Reading the methods of printed clients

A reader for the code of a client on each platform. Every method is found by the words that its
declaration begins with; from the declaration and the lines around it the reader takes the verb, the
names of what is sent in the query and in the headers, and whether there is a body. The arguments
are read one after the other, each with its type, up to the bracket that closes their list.

A type that no table knows is printed as it is. Where it is no type, the list may end before, or go
on with arguments that nobody declared, and the reader finds that it is so.

The readers work on lines, and know nothing of how these come about.
-/

namespace SpecForge.Api.Reader

open Model.Reader Text

/-- The request that a method makes. -/
structure Call where
  name : String
  verb : String
  takesBody : Bool
  query : List String
  headers : List String
deriving DecidableEq

/-- An argument of a method, and whether a caller may leave it out. -/
structure Argument where
  name : String
  isOptional : Bool
deriving DecidableEq

/-- A method as it stands in the code: its declaration with the line above and the lines below. -/
structure Printed where
  above : String
  head : String
  below : Lines

/-- The methods in some lines. Each goes on up to a line that closes it. -/
def methods (keyword : String) (closes : String → Bool) (above : String) : Lines → List Printed
  | [] => []
  | line :: rest =>
    if begins keyword line then
      ⟨above, line, rest.takeWhile fun l => !closes l⟩ :: methods keyword closes line rest
    else methods keyword closes line rest

/-- The only one of some items. -/
def single? {α : Type} : List α → Option α
  | [a] => some a
  | _ => none

/-- How the methods of a language are found and read. -/
structure Dialect where
  keyword : String
  closes : String → Bool
  verb? : Printed → Option String
  call? : Printed → Option Call

/-- The methods in some lines, in order. -/
def Dialect.methodsIn (d : Dialect) (lines : Lines) : List Printed :=
  methods d.keyword d.closes "" lines

/-- The only method in some lines. -/
def Dialect.only? (d : Dialect) (lines : Lines) : Option Printed := single? (d.methodsIn lines)

/-- The name of a method. -/
def Dialect.name? (d : Dialect) (m : Printed) : Option String :=
  (named? d.keyword (· == '(') m.head).map Prod.fst

/-- The names of the methods in some lines. -/
def Dialect.namesIn? (d : Dialect) (lines : Lines) : Option (List String) :=
  (d.methodsIn lines).mapM d.name?

/-! ## Pieces of lines -/

/-- A text in quotes behind an opening, and what follows it. -/
def quotedBehind? (opening : String) (cs : List Char) : Option (String × List Char) := do
  let (content, rest) ← Quoted.read? '"' (← after? (opening.toList ++ ['"']) cs)
  return (String.ofList content, rest)

/-- A name, and what follows it. -/
def word (cs : List Char) : String × List Char :=
  (String.ofList (cs.takeWhile Name.isWordChar), cs.dropWhile Name.isWordChar)

/-- The items of a list with separators between them, up to the text that closes it, and what
follows this text. -/
def itemsFrom? {α : Type} (item? : List Char → Option (α × List Char)) (sep close : String) :
    Nat → List Char → Option (List α × List Char)
  | 0, _ => none
  | fuel + 1, cs => do
    let (a, rest) ← item? cs
    match after? close.toList rest with
    | some rest => return ([a], rest)
    | none => do
      let (items, rest) ← itemsFrom? item? sep close fuel (← after? sep.toList rest)
      return (a :: items, rest)

/-- The items of a list, which may be empty. No item is without signs. -/
def listItems? {α : Type} (item? : List Char → Option (α × List Char)) (sep close : String)
    (cs : List Char) : Option (List α × List Char) :=
  match after? close.toList cs with
  | some rest => some ([], rest)
  | none => itemsFrom? item? sep close cs.length cs

/-- The texts in some lines, with commas between them. -/
def parameters? : Lines → Option (List String)
  | [] => some []
  | [line] => do
    return [String.ofList (← after? "        ".toList line.toList)]
  | line :: rest => do
    let param ← before? "," (← after? "        ".toList line.toList)
    return String.ofList param :: (← parameters? rest)

namespace Swift

/-- The verb, if a statement sets it. -/
def verbOf? (line : List Char) : Option String := do
  let (verb, rest) ← quotedBehind? "request.httpMethod = " line
  if rest = [] then some verb else none

/-- The name of a parameter of the query, if a statement adds one. -/
def queryName? (line : List Char) : Option String := do
  let (name, rest) ← quotedBehind? "queryItems.append(URLQueryItem(name: " line
  if goesOn ", value: String(describing: " rest then some name else none

/-- The name of a header, if a statement sets it to an argument. -/
def headerName? (line : List Char) : Option String := do
  let value ← after? "request.setValue(String(describing: ".toList line
  let (name, rest) ← quotedBehind? "), forHTTPHeaderField: " (value.dropWhile (· != ')'))
  if rest = [')'] then some name else none

/-- The argument that a statement makes the body from. -/
def body? (line : List Char) : Option String := do
  let rest ← after? "request.httpBody = try encoder.encode(".toList line
  return String.ofList (← before? ")" rest)

/-- The statements without the blanks in front of them. -/
def statements (lines : Lines) : List (List Char) :=
  lines.map fun line => line.toList.dropWhile (· == ' ')

/-- An argument: its name and its type, and behind these the default of an optional one. -/
def argument? (cs : List Char) : Option (Argument × List Char) := do
  let (name, rest) := word cs
  let (type, rest) ← type? (← after? ": ".toList rest)
  match after? "= nil".toList rest with
  | some rest => return (⟨name, endsWith type "?"⟩, rest)
  | none => return (⟨name, false⟩, rest)

/-- The beginning of a declaration: the name of the method, its arguments up to the bracket that
closes their list, and what follows it. -/
def listed? (head : String) : Option (String × List Argument × List Char) := do
  let (name, list) ← named? "    public func " (· == '(') head
  let (arguments, rest) ← listItems? argument? ", " ")" (← after? ['('] list)
  return (name, arguments, rest)

/-- The declaration of a method: its name and its arguments. Behind them there is nothing but the
type of the answer. -/
def declaration? (head : String) : Option (String × List Argument) := do
  let (name, arguments, rest) ← listed? head
  let rest ← after? " async throws ".toList rest
  if rest = ['\x7b'] ∨ ((after? "-> ".toList rest).bind type?).any (·.2 == ['\x7b']) then
    some (name, arguments)
  else none

/-- The verb that the statements of a method set. -/
def verb? (m : Printed) : Option String := single? ((statements m.below).filterMap verbOf?)

/-- A method: its declaration has all arguments, and its statements fill the request. -/
def call? (m : Printed) : Option Call := do
  let (name, arguments) ← declaration? m.head
  return ⟨name, ← verb? m,
    arguments.any fun a => ((statements m.below).filterMap body?).contains a.name,
    (statements m.below).filterMap queryName?, (statements m.below).filterMap headerName?⟩

/-- The methods of Swift clients. -/
def dialect : Dialect := ⟨"    public func ", (· == "    \x7d"), verb?, call?⟩

end Swift

namespace Kotlin

/-- The verb in the annotation of the route, which stands above a function. -/
def verb? (m : Printed) : Option String :=
  match quotedBehind? "    @HTTP(method = " m.above.toList with
  | some (verb, _) => some verb
  | none => (named? "    @" (· == '(') m.above).map Prod.fst

/-- The annotation of an argument, which is a marker with a key or without one, and what follows. -/
def annotation? (text : String) : Option ((String × Option String) × List Char) := do
  let (marker, rest) ← named? "@" (fun c => c == '(' || c == ' ') text
  match quotedBehind? "(" rest with
  | some (key, rest) => return ((marker, some key), ← after? [')'] rest)
  | none => return ((marker, none), rest)

/-- The lines of the arguments of a function. There are none if the list closes where it opens. -/
def argumentLines? (m : Printed) : Option Lines := do
  let (_, list) ← named? "    suspend fun " (· == '(') m.head
  if list = ['('] then some m.below else if goesOn "()" list then some [] else none

/-- The annotations of the arguments of a function. -/
def annotations? (m : Printed) : Option (List (String × Option String)) := do
  (← parameters? (← argumentLines? m)).mapM fun text => (annotation? text).map Prod.fst

/-- An argument with its annotation. -/
structure Argument extends Reader.Argument where
  marker : String
  key : Option String
deriving DecidableEq

/-- An argument: its annotation, its name and its type, and the default of an optional one. -/
def argument? (text : String) : Option Argument := do
  let ((marker, key), rest) ← annotation? text
  let (name, rest) := word (← after? " ".toList rest)
  let (type, rest) ← type? (← after? ": ".toList rest)
  if rest = [] then return ⟨⟨name, false⟩, marker, key⟩
  else if rest = "= null".toList then return ⟨⟨name, endsWith type "?"⟩, marker, key⟩
  else none

/-- The arguments of a function. -/
def arguments? (m : Printed) : Option (List Argument) := do
  (← parameters? (← argumentLines? m)).mapM argument?

/-- The keys of the arguments with a marker. -/
def keys (marker : String) (arguments : List Argument) : List String :=
  arguments.filterMap fun a => if a.marker = marker then a.key else none

/-- A function: each argument has a line of its own. -/
def call? (m : Printed) : Option Call := do
  let (name, _) ← named? "    suspend fun " (· == '(') m.head
  let arguments ← arguments? m
  return ⟨name, ← verb? m, arguments.any (·.marker == "Body"), keys "Query" arguments,
    keys "Header" arguments⟩

/-- The functions of Kotlin clients. -/
def dialect : Dialect := ⟨"    suspend fun ", begins "    )", verb?, call?⟩

end Kotlin

namespace TypeScript

/-- Does a key without quotes end here? -/
def endsKey (c : Char) : Bool := c == '?' || c == ':'

/-- A key, between quotes or not, and what follows it. -/
def key? (cs : List Char) : Option (String × List Char) :=
  match after? ['\''] cs with
  | some rest => (Quoted.read? '\'' rest).map fun r => (String.ofList r.1, r.2)
  | none =>
    some (String.ofList (cs.takeWhile fun c => !endsKey c), cs.dropWhile fun c => !endsKey c)

/-- An argument; if its type is that of an object, with the keys of the fields. -/
structure Argument extends Reader.Argument where
  keys : Option (List String)
deriving DecidableEq

/-- The key of a field of an object type. Its own type follows. -/
def field? (cs : List Char) : Option (String × List Char) := do
  let (key, rest) ← key? cs
  let (_, rest) ← type? (← after? ": ".toList (skip "?" rest))
  return (key, rest)

/-- The keys of the type that stands here, if it is that of an object, and what follows it. -/
def keys? (cs : List Char) : Option (Option (List String) × List Char) :=
  match after? "\x7b ".toList cs with
  | some fields =>
    (itemsFrom? field? "; " "\x7d" fields.length fields).map fun r => (some r.1, r.2)
  | none => (type? cs).map fun r => (none, r.2)

/-- An argument: its name and its type. A caller may leave it out if there is a mark behind its name
or a default behind its type. -/
def argument? (cs : List Char) : Option (Argument × List Char) := do
  let (name, rest) := word cs
  let (keys, behind) ← keys? (← after? ": ".toList (skip "?" rest))
  return (⟨⟨name, goesOn "?" rest || goesOn " = \x7b\x7d" behind⟩, keys⟩,
    skip " = \x7b\x7d" behind)

/-- The declaration of a method: its name and its arguments. Behind them there is nothing but the
type of the answer. -/
def declaration? (head : String) : Option (String × List Argument) := do
  let (name, list) ← named? "  async " (· == '(') head
  let (arguments, rest) ← listItems? argument? ", " ")" (← after? ['('] list)
  if ((after? ": ".toList rest).bind type?).any (·.2 == ['\x7b']) then some (name, arguments)
  else none

/-- Is a body passed on at the end of the line, and what stands before it? -/
def body (cs : List Char) : Bool × List Char :=
  match before? ", body" cs with
  | some front => (true, front)
  | none => (false, cs)

/-- Are headers passed on at the end of the line, and what stands before them? -/
def headers? (cs : List Char) : Option (Bool × List Char) :=
  match before? "headers" cs with
  | some front => some (true, front)
  | none => (before? "\x7b\x7d" cs).map fun front => (false, front)

/-- The verb that a request is made with, and whether headers and a body are passed on. -/
def request? (line : List Char) : Option (String × Bool × Bool) := do
  let rest ← before? ");" line
  let (hasBody, rest) := body rest
  let (hasHeaders, rest) ← headers? rest
  let rest ← before? "', url, " rest
  return (String.ofList (rest.reverse.takeWhile (· != '\'')).reverse, hasHeaders, hasBody)

/-- The verb that the last of the two statements of a method makes a request with. -/
def verb? (m : Printed) : Option String := do
  let [_, request] := m.below | none
  return (← request? request.toList).1

/-- A method: its declaration has the keys of the parameters, its two statements say which of them
are sent. -/
def call? (m : Printed) : Option Call := do
  let (name, arguments) ← declaration? m.head
  let [url, request] := m.below | none
  let (verb, hasHeaders, hasBody) ← request? request.toList
  let keysOf (label : String) : List String :=
    (arguments.findSome? fun a => if a.name = label then a.keys else none).getD []
  return ⟨name, verb, hasBody && arguments.any (·.name == "body"),
    if (before? "`, query);" url.toList).isSome then keysOf "query" else [],
    if hasHeaders then keysOf "headers" else []⟩

/-- The methods of TypeScript clients. -/
def dialect : Dialect := ⟨"  async ", (· == "  \x7d"), verb?, call?⟩

end TypeScript

/-- The arguments of the method in some lines. -/
def Swift.argumentsOf? (lines : Lines) : Option (List Argument) :=
  (Swift.dialect.only? lines).bind fun m => (Swift.declaration? m.head).map Prod.snd

/-- The arguments of the function in some lines. -/
def Kotlin.argumentsOf? (lines : Lines) : Option (List Kotlin.Argument) :=
  (Kotlin.dialect.only? lines).bind Kotlin.arguments?

/-- The arguments of the method in some lines. -/
def TypeScript.argumentsOf? (lines : Lines) : Option (List TypeScript.Argument) :=
  (TypeScript.dialect.only? lines).bind fun m => (TypeScript.declaration? m.head).map Prod.snd

/-- How the methods of clients are read on a platform. -/
def dialect : Platform → Dialect
  | .ios => Swift.dialect
  | .android => Kotlin.dialect
  | .web => TypeScript.dialect

/-! ## What the readers give -/

theorem methods_append {keyword : String} {front : Lines} (h : Without keyword front)
    (closes : String → Bool) (above : String) (rest : Lines) :
    ∃ last, methods keyword closes above (front ++ rest) = methods keyword closes last rest := by
  induction front generalizing above with
  | nil => exact ⟨above, rfl⟩
  | cons line front ih =>
      rw [without_cons] at h
      obtain ⟨last, hlast⟩ := ih h.2 line
      refine ⟨last, ?_⟩
      rw [List.cons_append, methods, h.1]
      exact hlast

theorem methods_eq_nil {keyword : String} {lines : Lines} (h : Without keyword lines)
    (closes : String → Bool) (above : String) : methods keyword closes above lines = [] := by
  obtain ⟨last, hlast⟩ := methods_append h closes above []
  rw [List.append_nil] at hlast
  exact hlast

/-- There are as many methods as lines that begin with the keyword. -/
theorem length_methods (keyword : String) (closes : String → Bool) (above : String)
    (lines : Lines) :
    (methods keyword closes above lines).length = lines.countP (begins keyword) := by
  induction lines generalizing above with
  | nil => rfl
  | cons line lines ih =>
      by_cases h : begins keyword line = true
      · rw [methods, if_pos h, List.length_cons, ih, List.countP_cons_of_pos h]
      · rw [methods, if_neg h, ih, List.countP_cons_of_neg h]

namespace Dialect

/-- In the lines there is one method, and it has the property whatever the lines around are. -/
def Has (d : Dialect) (P : Printed → Prop) (lines : Lines) : Prop :=
  ∀ above rest, ∃ m last,
    methods d.keyword d.closes above (lines ++ rest) = m :: methods d.keyword d.closes last rest ∧
      P m

variable {d : Dialect}

theorem has_of {P : Printed → Prop} {front tail : Lines} {above head : String}
    (hfront : Without d.keyword (front ++ [above])) (hhead : begins d.keyword head = true)
    (htail : Without d.keyword tail)
    (h : ∀ rest, P ⟨above, head, (tail ++ rest).takeWhile fun l => !d.closes l⟩) :
    d.Has P (front ++ above :: head :: tail) := by
  intro before rest
  rw [without_append, without_cons] at hfront
  obtain ⟨hfront, habove, _⟩ := hfront
  obtain ⟨last, hlast⟩ := methods_append hfront d.closes before (above :: head :: (tail ++ rest))
  obtain ⟨last', hlast'⟩ := methods_append htail d.closes head rest
  refine ⟨⟨above, head, (tail ++ rest).takeWhile fun l => !d.closes l⟩, last', ?_, h rest⟩
  rw [List.append_assoc, List.cons_append, List.cons_append, hlast, methods, habove,
    if_neg Bool.false_ne_true, methods, if_pos hhead, hlast']

/-- Lines without a method do not matter. -/
theorem Has.append {P : Printed → Prop} {lines more : Lines} (h : d.Has P lines)
    (hmore : Without d.keyword more) : d.Has P (lines ++ more) := by
  intro above rest
  obtain ⟨m, last, hm, hP⟩ := h above (more ++ rest)
  obtain ⟨last', hlast⟩ := methods_append hmore d.closes last rest
  exact ⟨m, last', by rw [List.append_assoc, hm, hlast], hP⟩

theorem Has.exists_only? {P : Printed → Prop} {lines : Lines} (h : d.Has P lines) :
    ∃ m, d.only? lines = some m ∧ P m := by
  obtain ⟨m, last, hm, hP⟩ := h "" []
  rw [List.append_nil, methods] at hm
  exact ⟨m, by rw [only?, methodsIn, hm]; rfl, hP⟩

/-- Where every item has lines with one method, there are no other methods. -/
theorem forall₂_methods {α : Type} {P : α → Printed → Prop} {block : α → Lines} {items : List α}
    {front tail : Lines} (hfront : Without d.keyword front)
    (hblock : ∀ a ∈ items, d.Has (P a) (block a)) (htail : Without d.keyword tail) :
    List.Forall₂ P items (d.methodsIn (front ++ (items.flatMap block ++ tail))) := by
  -- each method hands its last line on as what stands above the next one
  have hrun : ∀ above, List.Forall₂ P items
      (methods d.keyword d.closes above (items.flatMap block ++ tail)) := by
    clear hfront
    induction items with
    | nil =>
        intro above
        rw [List.flatMap_nil, List.nil_append, methods_eq_nil htail]
        exact .nil
    | cons a items ih =>
        intro above
        obtain ⟨m, last, hm, hP⟩ :=
          hblock a (List.mem_cons_self ..) above (items.flatMap block ++ tail)
        rw [List.flatMap_cons, List.append_assoc, hm]
        exact .cons hP (ih (fun b hb => hblock b (List.mem_cons_of_mem a hb)) last)
  obtain ⟨last, hlast⟩ := methods_append hfront d.closes "" (items.flatMap block ++ tail)
  rw [methodsIn, hlast]
  exact hrun last

end Dialect

/-! ## Lists in a line -/

/-- A quoted text is read back behind its opening. -/
theorem quotedBehind?_quoted (opening key : String) (rest : List Char) :
    quotedBehind? opening ((opening ++ quoted key).toList ++ rest) = some (key, rest) := by
  have hline : (opening ++ quoted key).toList ++ rest =
      (opening.toList ++ ['"']) ++ (Quoted.escape '"' key.toList ++ '"' :: rest) := by
    rw [String.toList_append, quoted, Quoted.write, String.toList_ofList]
    simp
  have hread := Quoted.read?_escape (by decide : '"' ≠ '\\') key.toList rest
  unfold quotedBehind?
  rw [hline, after?_append]
  simp only [Option.bind_eq_bind, Option.bind_some, hread, String.ofList_toList]
  rfl

/-- Texts with a separator between them, and then an ending. -/
def listed (sep : String) (texts : List String) (ending : List Char) : List Char :=
  (sep.intercalate texts).toList ++ ending

/-- What follows a text in a list: the separator and the other texts, or the ending. -/
def behind (sep : String) (texts : List String) (ending : List Char) : List Char :=
  if texts.isEmpty then ending else sep.toList ++ listed sep texts ending

theorem listed_nil (sep : String) (ending : List Char) : listed sep [] ending = ending := rfl

theorem listed_cons (sep text : String) (texts : List String) (ending : List Char) :
    listed sep (text :: texts) ending = text.toList ++ behind sep texts ending := by
  cases texts with
  | nil => rfl
  | cons other texts =>
      rw [listed, String.intercalate_cons_of_ne_nil (List.cons_ne_nil _ _), behind,
        if_neg (by simp), listed]
      simp

theorem dropWhile_word {name : String} (stop : Char) (hn : Name.AllWord name.toList)
    (hs : Name.isWordChar stop = false) (rest : List Char) :
    (name.toList ++ stop :: rest).dropWhile (· != stop) = stop :: rest := by
  have hn' : ∀ c ∈ name.toList, (c != stop) = true := by
    intro c hc
    rw [bne_iff_ne]
    rintro rfl
    rw [hn c hc] at hs
    exact Bool.noConfusion hs
  rw [List.dropWhile_append_of_pos hn', List.dropWhile_cons_of_neg (by simp)]

theorem takeWhile_word {name : String} (stop : Char) (hn : Name.AllWord name.toList)
    (hs : Name.isWordChar stop = false) (rest : List Char) :
    (name.toList ++ stop :: rest).takeWhile (· != stop) = name.toList := by
  have hn' : ∀ c ∈ name.toList, (c != stop) = true := by
    intro c hc
    rw [bne_iff_ne]
    rintro rfl
    rw [hn c hc] at hs
    exact Bool.noConfusion hs
  rw [List.takeWhile_append_of_pos hn', List.takeWhile_cons_of_neg (by simp), List.append_nil]

/-- A name is read up to a sign that stands in no name. -/
theorem word_append {name : String} {c : Char} (hn : Name.AllWord name.toList)
    (hc : Name.isWordChar c = false) (rest : List Char) :
    word (name.toList ++ c :: rest) = (name, c :: rest) := by
  have hstop : ¬ Name.isWordChar c = true := by simp [hc]
  rw [word, List.takeWhile_append_of_pos hn, List.dropWhile_append_of_pos hn,
    List.takeWhile_cons_of_neg hstop, List.dropWhile_cons_of_neg hstop, List.append_nil,
    String.ofList_toList]

/-- Nothing that begins with a name begins with a sign that stands in no name. -/
theorem after?_word_append {name : String} {c d : Char} (hn : Name.AllWord name.toList)
    (hd : Name.isWordChar d = false) (hcd : c ≠ d) (rest : List Char) :
    after? [d] (name.toList ++ c :: rest) = none := by
  cases hname : name.toList with
  | nil => simp [after?, hcd.symm]
  | cons a cs =>
      have ha : d ≠ a := by
        rintro rfl
        rw [hn d (by simp [hname])] at hd
        cases hd
      simp [after?, ha]

theorem length_le_listed {sep : String} (hsep : sep ≠ "") {ending : List Char}
    (hending : ending ≠ []) (texts : List String) :
    texts.length ≤ (listed sep texts ending).length := by
  have hsep : 0 < sep.toList.length := by
    rw [List.length_pos_iff]
    simpa using hsep
  have hending : 0 < ending.length := List.length_pos_iff.2 hending
  induction texts with
  | nil => exact Nat.zero_le _
  | cons text texts ih =>
      cases texts with
      | nil =>
          rw [listed_cons, behind, List.isEmpty_nil, if_pos rfl, List.length_append,
            List.length_singleton]
          omega
      | cons other texts =>
          rw [listed_cons, behind, if_neg (by simp), List.length_append, List.length_append,
            List.length_cons]
          omega

section Items

variable {α β : Type} {item? : List Char → Option (β × List Char)} {sep close : String}
  {text : α → String} {item : α → β} {items : List α} {ending rest : List Char}

/-- A list is read item by item, if each of them is read as far as the separator or the ending, and
no separator begins as the text does that closes the list. -/
theorem itemsFrom?_listed (hne : items ≠ [])
    (hsep : ∀ cs, after? close.toList (sep.toList ++ cs) = none)
    (hmiddle : ∀ a ∈ items, ∀ cs, item? ((text a).toList ++ (sep.toList ++ cs)) =
      some (item a, sep.toList ++ cs))
    (hlast : ∀ a ∈ items, item? ((text a).toList ++ ending) = some (item a, close.toList ++ rest))
    {fuel : Nat} (hfuel : items.length ≤ fuel) :
    itemsFrom? item? sep close fuel (listed sep (items.map text) ending) =
      some (items.map item, rest) := by
  induction items generalizing fuel with
  | nil => exact absurd rfl hne
  | cons a items ih =>
      cases fuel with
      | zero => exact absurd hfuel (by simp)
      | succ fuel =>
          rw [List.map_cons, listed_cons, itemsFrom?]
          cases items with
          | nil =>
              rw [List.map_nil, behind, List.isEmpty_nil, if_pos rfl, hlast a List.mem_cons_self]
              simp
          | cons b items =>
              have hrest := ih (List.cons_ne_nil _ _)
                (fun c hc => hmiddle c (List.mem_cons_of_mem a hc))
                (fun c hc => hlast c (List.mem_cons_of_mem a hc)) (Nat.le_of_succ_le_succ hfuel)
              rw [behind, if_neg (by simp), hmiddle a List.mem_cons_self]
              simp only [Option.bind_eq_bind, Option.bind_some, hsep, after?_append, hrest]
              rfl

/-- So is a list that may be empty, if no item begins as the text does that closes the list. -/
theorem listItems?_listed (hne : sep ≠ "" ∧ close ≠ "")
    (hsep : ∀ cs, after? close.toList (sep.toList ++ cs) = none)
    (hitem : ∀ a ∈ items, ∀ cs, after? close.toList ((text a).toList ++ cs) = none)
    (hmiddle : ∀ a ∈ items, ∀ cs, item? ((text a).toList ++ (sep.toList ++ cs)) =
      some (item a, sep.toList ++ cs))
    (hlast : ∀ a ∈ items, item? ((text a).toList ++ (close.toList ++ rest)) =
      some (item a, close.toList ++ rest)) :
    listItems? item? sep close (listed sep (items.map text) (close.toList ++ rest)) =
      some (items.map item, rest) := by
  cases items with
  | nil =>
      rw [List.map_nil, listed_nil, listItems?, after?_append]
      rfl
  | cons a items =>
      have hending : close.toList ++ rest ≠ [] := by simp [hne.2]
      have hlength := length_le_listed hne.1 hending ((a :: items).map text)
      rw [List.length_map] at hlength
      have hopen : after? close.toList
          (listed sep ((a :: items).map text) (close.toList ++ rest)) = none := by
        rw [List.map_cons, listed_cons]
        exact hitem a List.mem_cons_self _
      rw [listItems?, hopen]
      exact itemsFrom?_listed (List.cons_ne_nil _ _) hsep hmiddle hlast hlength

end Items

/-- The texts are read as they were written. -/
theorem parameters?_commaSeparated (params : List String) :
    parameters? ((Lines.commaSeparated params).map fun line => "        " ++ line) =
      some params := by
  induction params using Lines.commaSeparated.induct with
  | case1 => rfl
  | case2 param =>
      rw [Lines.commaSeparated, List.map_singleton, parameters?, String.toList_append,
        after?_append]
      simp
  | case3 param rest hrest ih =>
      have hne : (Lines.commaSeparated rest).map (fun line => "        " ++ line) ≠ [] := by
        rw [ne_eq, List.map_eq_nil_iff, Lines.commaSeparated_eq_nil_iff]
        exact hrest
      rw [Lines.commaSeparated.eq_3 param rest hrest, List.map_cons, parameters?.eq_3 _ _ hne,
        String.toList_append, after?_append, Option.bind_eq_bind, Option.bind_some,
        String.toList_append, before?_append, ih]
      simp

/-! ## What is to be found -/

end SpecForge.Api.Reader

namespace SpecForge

open Api.Reader

theorem Parameter.allWord_identifier (param : Parameter) :
    Name.AllWord param.identifier.toList := by
  unfold Parameter.identifier
  exact Name.allWord_toIdentifier param.name

namespace Endpoint

theorem allWord_methodName (e : Endpoint) : Name.AllWord e.methodName.toList := by
  unfold methodName
  exact Name.allWord_toIdentifier e.operationId

/-- The request of an endpoint: its verb, and the names of the parameters as they are declared. -/
def call (e : Endpoint) : Call :=
  ⟨e.methodName, e.method, e.body.isSome, e.queryParams.map (·.name), e.headerParams.map (·.name)⟩

/-- The types that an endpoint speaks of, as they are declared: those of the parameters, of the body
and of the answer. -/
def typeNames (e : Endpoint) : List String :=
  e.params.map (·.type) ++ (e.body.map (·.type)).toList ++ (e.successResponse?.bind (·.type)).toList

/-- The types are types, and nothing else. -/
def IsLegible (e : Endpoint) : Prop := ∀ type ∈ e.typeNames, Text.IsType type

instance (e : Endpoint) : Decidable e.IsLegible := inferInstanceAs (Decidable (∀ type ∈ _, _))

namespace IsLegible

variable {e : Endpoint}

theorem param (h : e.IsLegible) {param : Parameter} (hp : param ∈ e.params) (p : Platform) :
    Text.IsType (param.spelling p) :=
  TypeName.isType_field (h _ (by simp [typeNames, List.mem_map_of_mem hp])) p _ _

theorem body (h : e.IsLegible) {body : RequestBody} (hb : e.body = some body) (p : Platform) :
    Text.IsType (body.spelling p) :=
  TypeName.isType_field (h _ (by simp [typeNames, hb])) p _ _

theorem answer (h : e.IsLegible) {p : Platform} {type : String} (ht : e.answer? p = some type) :
    Text.IsType type := by
  rw [answer?, Option.bind_eq_bind, Option.bind_eq_some_iff] at ht
  obtain ⟨r, hr, ht⟩ := ht
  rw [Option.bind_eq_bind, Option.bind_eq_some_iff] at ht
  obtain ⟨name, hname, ht⟩ := ht
  cases ht
  exact TypeName.isType_field (h name (by simp [typeNames, hr, hname])) p _ _

end IsLegible

end Endpoint

end SpecForge
