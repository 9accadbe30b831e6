import SpecForge.Platform
import SpecForge.Proofs.Lines.Comment
import SpecForge.Proofs.Name

/-!
# Reading the fields of printed models

A reader for the code of a model on each platform. It finds the declaration of the model, reads the
fields up to its end, and gives for every field the name under which it is serialised and what
stands in the line behind the name of the field. In Swift the serialised name is looked up among the
coding keys, in Kotlin it stands in the annotation above the field, and in TypeScript it is the key
itself. What stands behind a name is read as a type with a mark or a default, and says whether the
field is optional.

The lines around the fields are read as well: a comment has to end where its lines end, and the
declaration of the model has to have a name in it and nothing else. Where they are not so, or where
a line holds more than one field, nothing is read.

The readers work on lines as they are printed, and know nothing of how these come about.
-/

namespace SpecForge.Model.Reader

open Text

/-- A field as it stands in the code: its name in JSON, and the rest of its line behind the name. -/
structure PrintedField where
  key : String
  rest : List Char

/-- A field with its name in JSON. -/
structure ReadField where
  key : String
  isOptional : Bool
deriving DecidableEq

/-- Does the line begin with the text? -/
def begins (head line : String) : Bool := (after? head.toList line.toList).isSome

/-- The lines behind the first one that begins with the text. -/
def linesAfter (head : String) : Lines → Lines
  | [] => []
  | line :: rest => if begins head line then rest else linesAfter head rest

/-- The name behind a keyword, up to a character that ends names, and the rest of the line. -/
def named? (keyword : String) (stop : Char → Bool) (line : String) :
    Option (String × List Char) :=
  (after? keyword.toList line.toList).map fun cs =>
    (String.ofList (cs.takeWhile fun c => !stop c), cs.dropWhile fun c => !stop c)

/-- The text in quotes behind an opening and before a closing. -/
def quoted? (opening closing line : List Char) : Option String := do
  let (content, rest) ← Quoted.read? '"' (← after? opening line)
  if rest = closing then some (String.ofList content) else none

namespace Swift

/-- The first line of the coding keys. -/
def codingKeysHead : String := "    enum CodingKeys: String, CodingKey \x7b"

/-- A case of the coding keys: the name of a field, and its raw value if it has one. -/
def case? (line : String) : Option (String × Option String) := do
  let (name, rest) ← named? "        case " (· == ' ') line
  if rest = [] then some (name, none)
  else do return (name, some (← quoted? " = \"".toList [] rest))

/-- The cases of the coding keys, if the declaration has coding keys. -/
def cases? (body : Lines) : Option (Option (List (String × Option String))) :=
  if body.any (begins codingKeysHead) then
    (((linesAfter codingKeysHead body).takeWhile (· != "    \x7d")).mapM case?).map some
  else some none

/-- The name in JSON of the field with a name: the raw value of its case, or the name where the case
has none or there are no coding keys. -/
def jsonName (cases : Option (List (String × Option String))) (name : String) : Option String :=
  match cases with
  | none => some name
  | some cases => (cases.lookup name).map fun raw => raw.getD name

/-- The fields of a structure. -/
def fields? (lines : Lines) : Option (List PrintedField) := do
  let body := linesAfter "public struct " lines
  let declared := (body.takeWhile (· != "")).filter fun line => !begins "    ///" line
  let cases ← cases? body
  declared.mapM fun line => do
    let (name, rest) ← named? "    public let " (· == ':') line
    return ⟨← jsonName cases name, rest⟩

end Swift

namespace Kotlin

/-- The fields up to the end of a class. An annotation holds for the field below it. -/
def fieldsFrom (annotated : Option String) : Lines → Option (List PrintedField)
  | [] => if annotated.isNone then some [] else none
  | line :: rest =>
    if begins "    /**" line then fieldsFrom annotated rest
    else match quoted? "    @SerialName(\"".toList [')'] line.toList with
      | some key => fieldsFrom (some key) rest
      | none => do
        let (name, tail) ← named? "    val " (· == ':') line
        return ⟨annotated.getD name, tail⟩ :: (← fieldsFrom none rest)

/-- The fields of a class. A class that is no data class has none. -/
def fields? (lines : Lines) : Option (List PrintedField) :=
  match linesAfter "@Serializable" lines with
  | [] => none
  | head :: body =>
    if begins "data class " head then fieldsFrom none (body.takeWhile (· != ")"))
    else if begins "class " head then some []
    else none

end Kotlin

namespace TypeScript

/-- A key, between quotes or not, and the rest of the line. -/
def field? (line : String) : Option PrintedField :=
  match after? "  '".toList line.toList with
  | some body => (Quoted.read? '\'' body).map fun r => ⟨String.ofList r.1, r.2⟩
  | none => (named? "  " (fun c => c == '?' || c == ':') line).map fun r => ⟨r.1, r.2⟩

/-- The fields of an interface. -/
def fields? (lines : Lines) : Option (List PrintedField) :=
  let body := (linesAfter "export interface " lines).takeWhile (· != "\x7d")
  (body.filter fun line => !begins "  /**" line).mapM field?

end TypeScript

/-- The fields in the code of a model. -/
def printed? (p : Platform) (lines : Lines) : Option (List PrintedField) :=
  match p with
  | .ios => Swift.fields? lines
  | .android => Kotlin.fields? lines
  | .web => TypeScript.fields? lines

/-- Is a field optional, going by the rest of its line behind the name? In Swift its type has a
question mark at the end, and in Kotlin also the default `null`; any other default, and the comma
before a further field, mean nothing. In TypeScript the mark stands before the colon. -/
def isOptional? (p : Platform) (rest : List Char) : Option Bool :=
  match p with
  | .ios => do
    let (type, rest) ← type? (← after? ": ".toList rest)
    if rest = [] then some (endsWith type "?") else none
  | .android => do
    let (type, rest) ← type? (← after? ": ".toList rest)
    if rest = [] ∨ rest = [','] then some false
    else
      let default ← after? "= ".toList rest
      return endsWith type "?" && (default = "null".toList || default = "null,".toList)
  | .web => do
    let (_, behind) ← type? (← after? ": ".toList (skip "?" rest))
    if behind = [';'] then some (goesOn "?" rest) else none

/-! ### What stands around the fields -/

/-- The signs of a name: none of them opens or ends anything. -/
def isBareName (cs : List Char) : Bool :=
  !cs.isEmpty && cs.all fun c => awaitedBehind? [] c == some []

/-- Is the line a name between two texts? -/
def isHead (opening closing line : String) : Bool :=
  ((after? opening.toList line.toList).bind (before? closing)).any isBareName

/-- Comments behind slashes, imports and empty lines, which stand in front of everything else. -/
def isFront (line : String) : Bool := line == "" || begins "//" line || begins "import " line

/-- The lines behind the one that closes a comment, the number of open comments inside it being
given. -/
def behindClosing? (nested : Bool) (depth : Nat) : Lines → Option Lines
  | [] => none
  | line :: rest =>
    if depth = 0 ∧ line = " */" then some rest
    else match (Lines.marks nested line.toList).foldlM Lines.Mark.depth? depth with
      | some depth => behindClosing? nested depth rest
      | none => none

/-- The lines behind a comment, if they begin with one. -/
def behindComment? (nested : Bool) : Lines → Option Lines
  | [] => some []
  | line :: rest => if line = "/**" then behindClosing? nested 0 rest else some (line :: rest)

/-- Does every comment that the lines begin with end where its line ends? -/
def commentsEnd (nested : Bool) (opening : String) (lines : Lines) : Bool :=
  lines.all fun line => !begins opening line ||
    Lines.behindBlock? nested (line.toList.dropWhile (· == ' ')) == some []

/-- Are the lines the declaration of one model, with comments that end where they seem to and no
fields behind its own? -/
def isWhole (p : Platform) (lines : Lines) : Bool :=
  match p with
  | .ios =>
    match lines.dropWhile isFront with
    | head :: body =>
      isHead "public struct " ": Codable \x7b" head &&
        (body.dropWhile (· != "")).all fun line => !begins "    public let " line
    | [] => false
  | .android =>
    match behindComment? true (lines.dropWhile isFront) with
    | some ("@Serializable" :: head :: body) =>
      (isHead "data class " "(" head && commentsEnd true "    /**" body &&
        body.dropWhile (· != ")") == [")", ""]) ||
        (isHead "class " "" head && body == [""])
    | _ => false
  | .web =>
    match behindComment? false (lines.dropWhile isFront) with
    | some (head :: body) =>
      isHead "export interface " " \x7b" head && commentsEnd false "  /**" body &&
        body.dropWhile (· != "\x7d") == ["\x7d", ""]
    | _ => false

/-- The fields of a model, read from its code. -/
def read? (p : Platform) (lines : Lines) : Option (List ReadField) := do
  guard (isWhole p lines)
  (← printed? p lines).mapM fun f => return ⟨f.key, ← isOptional? p f.rest⟩

/-! ## What the readers give -/

theorem linesAfter_cons {head line : String} (h : begins head line = true) (rest : Lines) :
    linesAfter head (line :: rest) = rest := by
  rw [linesAfter, if_pos h]

/-- Lines in front that begin with another text are passed over. -/
theorem linesAfter_append {head : String} {front : Lines}
    (h : ∀ line ∈ front, begins head line = false) (rest : Lines) :
    linesAfter head (front ++ rest) = linesAfter head rest := by
  induction front with
  | nil => rfl
  | cons line front ih =>
      have hl := h line (List.mem_cons_self ..)
      rw [List.cons_append, linesAfter, hl]
      exact ih fun other ho => h other (List.mem_cons_of_mem _ ho)

theorem takeWhile_append_stop {front : Lines} {stop : String} (h : ∀ line ∈ front, line ≠ stop)
    (rest : Lines) : (front ++ stop :: rest).takeWhile (· != stop) = front := by
  rw [List.takeWhile_append_of_pos (by simpa using h), List.takeWhile_cons_of_neg (by simp),
    List.append_nil]

/-- A name is read up to the first character that ends names. -/
theorem named?_append (keyword : String) {name rest : String} {stop : Char → Bool}
    (hn : ∀ c ∈ name.toList, stop c = false) (hr : ∀ c ∈ rest.toList.head?, stop c = true) :
    named? keyword stop (keyword ++ name ++ rest) = some (name, rest.toList) := by
  have hn' : ∀ c ∈ name.toList, (!stop c) = true := fun c hc => by rw [hn c hc]; rfl
  have hrest : rest.toList.takeWhile (fun c => !stop c) = [] ∧
      rest.toList.dropWhile (fun c => !stop c) = rest.toList := by
    cases h : rest.toList with
    | nil => simp
    | cons c cs =>
        have hc := hr c (by rw [h]; rfl)
        simp [hc]
  rw [named?, String.append_assoc, String.toList_append, after?_append, String.toList_append,
    Option.map_some, List.takeWhile_append_of_pos hn', List.dropWhile_append_of_pos hn',
    hrest.1, hrest.2, List.append_nil, String.ofList_toList]

/-- A word is read up to a character that no word has. -/
theorem named?_word (keyword : String) {name rest : String} {stop : Char}
    (hn : Name.AllWord name.toList) (hs : Name.isWordChar stop = false)
    (hr : ∀ c ∈ rest.toList.head?, c = stop) :
    named? keyword (· == stop) (keyword ++ name ++ rest) = some (name, rest.toList) := by
  refine named?_append keyword (fun c hc => ?_) (fun c hc => ?_)
  · rw [beq_eq_false_iff_ne]
    intro h
    rw [← h, hn c hc] at hs
    exact Bool.noConfusion hs
  · rw [hr c hc, beq_self_eq_true]

/-- A quoted text is read back between any opening and any closing. -/
theorem quoted?_quoted (opening key : String) (closing : List Char) :
    quoted? (opening.toList ++ ['"']) closing ((opening ++ quoted key).toList ++ closing) =
      some key := by
  have hline : (opening ++ quoted key).toList ++ closing =
      (opening.toList ++ ['"']) ++ (Quoted.escape '"' key.toList ++ '"' :: closing) := by
    rw [String.toList_append, quoted, Quoted.write, String.toList_ofList]
    simp
  have hread : Quoted.read? '"' (Quoted.escape '"' key.toList ++ '"' :: closing) =
      some (key.toList, closing) :=
    Quoted.read?_escape (by decide) key.toList closing
  rw [quoted?, hline, after?_append]
  simp [hread]

/-- Every line that was written for an item is read as what it was written for. -/
theorem mapM_map_eq_some {α β γ : Type} {read : β → Option γ} {write : α → β} {item : α → γ}
    {l : List α} (h : ∀ a ∈ l, read (write a) = some (item a)) :
    (l.map write).mapM read = some (l.map item) := by
  induction l with
  | nil => rfl
  | cons a l ih =>
      have hl := ih fun b hb => h b (List.mem_cons_of_mem a hb)
      rw [List.map_cons, List.mapM_cons, h a (List.mem_cons_self ..), hl]
      rfl

theorem read?_of_isWhole {p : Platform} {lines : Lines} {fields : List PrintedField}
    (hw : isWhole p lines = true) (hp : printed? p lines = some fields) :
    read? p lines =
      fields.mapM fun f => do return (⟨f.key, ← isOptional? p f.rest⟩ : ReadField) := by
  rw [read?, hw, hp]
  rfl

/-- A field whose name and whose mark are read is read. -/
theorem mapM_isOptional? {α : Type} {p : Platform} {printed : α → PrintedField}
    {isMarked : α → Bool} {l : List α}
    (h : ∀ a ∈ l, isOptional? p (printed a).rest = some (isMarked a)) :
    ((l.map printed).mapM fun f => do return (⟨f.key, ← isOptional? p f.rest⟩ : ReadField)) =
      some (l.map fun a => ⟨(printed a).key, isMarked a⟩) :=
  mapM_map_eq_some fun a ha => by rw [h a ha]; rfl

/-! ### Lines that begin otherwise -/

/-- Two texts differ at a place that both have. -/
def differ : List Char → List Char → Bool
  | a :: as, b :: bs => a != b || differ as bs
  | _, _ => false

theorem after?_of_differ {head cs : List Char} (h : differ head cs = true) (rest : List Char) :
    after? head (cs ++ rest) = none := by
  induction head generalizing cs with
  | nil => cases h
  | cons a head ih =>
      cases cs with
      | nil => cases h
      | cons c cs =>
          rw [List.cons_append, after?]
          split
          · rename_i heq
            refine ih ?_
            simpa [differ, heq] using h
          · rfl

/-- A text that is written out is compared up to the place where it differs, and no further. -/
theorem begins_of_differ {head cs : List Char} (h : differ head cs = true) :
    begins (.ofList head) (.ofList cs) = false := by
  have hnone := after?_of_differ h []
  rw [List.append_nil] at hnone
  rw [begins, String.toList_ofList, String.toList_ofList, hnone]
  rfl

theorem begins_append_of_differ {head cs : List Char} (h : differ head cs = true)
    (rest : String) : begins (.ofList head) (.ofList cs ++ rest) = false := by
  rw [begins, String.toList_append, String.toList_ofList, String.toList_ofList,
    after?_of_differ h]
  rfl

theorem begins_append {head front : String} (h : differ head.toList front.toList = true)
    (rest : String) : begins head (front ++ rest) = false := by
  rw [begins, String.toList_append, after?_of_differ h]
  rfl

/-- No line begins with the keyword. -/
def Without (keyword : String) (lines : Lines) : Prop :=
  ∀ line ∈ lines, begins keyword line = false

section Without

variable {keyword : String} {lines lines' : Lines}

@[simp] theorem without_nil : Without keyword [] := fun _ h => absurd h List.not_mem_nil

@[simp] theorem without_cons {line : String} :
    Without keyword (line :: lines) ↔ begins keyword line = false ∧ Without keyword lines :=
  List.forall_mem_cons

@[simp] theorem without_append :
    Without keyword (lines ++ lines') ↔ Without keyword lines ∧ Without keyword lines' :=
  List.forall_mem_append

theorem without_ite {p : Prop} [Decidable p] (h : Without keyword lines)
    (h' : Without keyword lines') : Without keyword (if p then lines else lines') :=
  iteInduction (fun _ => h) fun _ => h'

theorem without_flatMap {α : Type} {items : List α} {block : α → Lines}
    (h : ∀ a ∈ items, Without keyword (block a)) : Without keyword (items.flatMap block) := by
  intro line hl
  obtain ⟨a, ha, hl⟩ := List.mem_flatMap.1 hl
  exact h a ha line hl

theorem without_map {α : Type} {line : α → String} (h : ∀ a, begins keyword (line a) = false)
    (items : List α) : Without keyword (items.map line) :=
  List.forall_mem_map.2 fun a _ => h a

/-- Lines that do not begin with a text do not begin with a longer one. -/
theorem Without.longer (h : Without keyword lines) (more : String) :
    Without (keyword ++ more) lines :=
  fun line hl => goesOn_eq_false_of_left (h line hl) more

/-- Lines that were moved to the right begin with the words that they began with before. -/
theorem Without.shifted (h : Without keyword lines) {blanks : String} (hb : blanks ≠ "") :
    Without (blanks ++ keyword) (Lines.shifted blanks lines) := by
  intro line hl
  obtain ⟨other, ho, rfl⟩ := List.mem_map.1 hl
  split
  · rename_i hempty
    rw [String.isEmpty_iff.1 hempty, begins, String.toList_append]
    cases hcs : blanks.toList with
    | nil => exact absurd (String.toList_eq_nil_iff.1 hcs) hb
    | cons c cs => rfl
  · rw [begins, String.toList_append, String.toList_append, after?_append_append]
    exact h other ho

end Without

/-! ### Heads and comments -/

theorem isHead_append (opening closing : String) {name : String}
    (h : isBareName name.toList = true) :
    isHead opening closing (opening ++ name ++ closing) = true := by
  rw [isHead, String.append_assoc, String.toList_append, after?_append, Option.bind_some,
    String.toList_append, before?_append]
  exact h

theorem dropWhile_isFront {front : Lines} (h : ∀ line ∈ front, isFront line = true)
    {line : String} (hl : isFront line = false) (rest : Lines) :
    (front ++ line :: rest).dropWhile isFront = line :: rest := by
  rw [List.dropWhile_append_of_pos h, List.dropWhile_cons_of_neg (by rw [hl]; decide)]

theorem isFront_header (source : String) : ∀ line ∈ Lines.header source, isFront line = true := by
  simp [Lines.header, Lines.provenance, isFront, begins, after?]

theorem commentsEnd_append {nested : Bool} {opening : String} {lines lines' : Lines} :
    commentsEnd nested opening (lines ++ lines') =
      (commentsEnd nested opening lines && commentsEnd nested opening lines') :=
  List.all_append

theorem commentsEnd_of_without {nested : Bool} {opening : String} {lines : Lines}
    (h : Without opening lines) : commentsEnd nested opening lines = true := by
  rw [commentsEnd, List.all_eq_true]
  intro line hl
  rw [h line hl]
  rfl

/-- The comment for a text ends where its line ends, if the marks of the text are balanced. -/
theorem commentsEnd_docComment {nested : Bool} {text : Option String} {blanks opening : String}
    (hb : ∀ c ∈ blanks.toList, c = ' ')
    (h : Lines.Balanced (Lines.marks nested (text.getD "").toList)) :
    commentsEnd nested opening ((Lines.docComment .block text).map (blanks ++ ·)) = true := by
  rw [commentsEnd, List.all_map, List.all_eq_true]
  intro line hl
  have hends := (Lines.behindBlock?_docComment hl nested []).2 h
  have hline : (blanks ++ line).toList.dropWhile (· == ' ') = line.toList := by
    rw [String.toList_append, List.dropWhile_append_of_pos (by simpa using hb),
      Lines.eq_of_mem_docComment_block hl]
    rfl
  rw [List.append_nil] at hends
  rw [Function.comp_apply, hline, hends, beq_self_eq_true, Bool.or_true]

end SpecForge.Model.Reader
