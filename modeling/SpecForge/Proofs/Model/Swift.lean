import SpecForge.Generator
import SpecForge.Proofs.Lines
import SpecForge.Proofs.Model.Field

/-!
# Reading Swift models

The reader finds in the code of a structure exactly its fields: the declarations stand in front of
the first empty line, and if there are coding keys the name of each field occurs in one case only.
-/

namespace SpecForge.Model.Swift

open Reader Text

/-- The line of a field. -/
def line (f : CodeField) : String := "    public let " ++ f.name ++ (": " ++ fieldType f)

theorem declaration_eq (f : CodeField) :
    declaration f = [line f] ∨ ∃ words, declaration f = ["    " ++ ("/// " ++ words), line f] := by
  have hline : s!"    public let {f.name}: {fieldType f}" = line f := by
    unfold line
    simp [toString, String.append_assoc]
  rw [declaration, hline]
  rcases Lines.indent_docComment .slashes f.description with h | ⟨words, h⟩
  · left
    rw [h, List.nil_append]
  · right
    exact ⟨words, by rw [h]; rfl⟩

/-- What no line of a declaration is or begins with. -/
theorem of_mem_declaration {f : CodeField} {l : String} (h : l ∈ declaration f) :
    l ≠ "" ∧ begins Reader.Swift.codingKeysHead l = false := by
  have hline : line f ≠ "" ∧ begins Reader.Swift.codingKeysHead (line f) = false := by
    unfold line
    simp [begins, Reader.Swift.codingKeysHead, after?]
  rcases declaration_eq f with hd | ⟨words, hd⟩
  · rw [hd, List.mem_singleton] at h
    rwa [h]
  · rw [hd, List.mem_pair] at h
    rcases h with rfl | rfl
    · simp [begins, Reader.Swift.codingKeysHead, after?]
    · exact hline

theorem of_mem_declarations {fields : List CodeField} {l : String}
    (h : l ∈ fields.flatMap declaration) :
    l ≠ "" ∧ begins Reader.Swift.codingKeysHead l = false := by
  obtain ⟨f, _, hl⟩ := List.mem_flatMap.1 h
  exact of_mem_declaration hl

/-- Without the comments every field has one line. -/
theorem filter_declarations (fields : List CodeField) :
    (fields.flatMap declaration).filter (fun l => !begins "    ///" l) = fields.map line := by
  induction fields with
  | nil => rfl
  | cons f fields ih =>
      have hline : begins "    ///" (line f) = false := by
        unfold line
        simp [begins, after?]
      rw [List.flatMap_cons, List.filter_append, ih, List.map_cons]
      rcases declaration_eq f with hd | ⟨words, hd⟩
      · simp [hd, hline]
      · have hwords : begins "    ///" ("    " ++ ("/// " ++ words)) = true := by
          simp [begins, after?]
        simp [hd, hline, hwords]

/-- What the lines of an initializer begin with. -/
def initializerHeads : List String := ["public init(", "    ", ") \x7b", "\x7d"]

/-- Whatever the fields are called, no line of the initializer begins with other words. -/
theorem without_initializer (head : String)
    (h : ∀ other ∈ initializerHeads, differ head.toList other.toList = true)
    (fields : List CodeField) : Without head (initializer fields) := by
  have hline : ∀ other ∈ initializerHeads, ∀ rest, begins head (other ++ rest) = false :=
    fun other ho => begins_append (h other ho)
  have hparameters : Without head (Lines.commaSeparated (fields.map parameter)) := by
    intro l hl
    obtain ⟨other, ho, hl⟩ := Lines.mem_commaSeparated hl
    obtain ⟨f, _, rfl⟩ := List.mem_map.1 ho
    rcases hl with rfl | rfl
    · simpa [parameter, toString, String.append_assoc] using hline "    " (by decide) _
    · simpa [parameter, toString, String.append_assoc] using hline "    " (by decide) _
  have hassignments : Without head (fields.map fun f => s!"    self.{f.name} = {f.name}") := by
    refine without_map (fun f => ?_) fields
    have hblanks : s!"    self.{f.name} = {f.name}" = "    " ++ s!"self.{f.name} = {f.name}" := by
      simp [toString, ← String.toList_inj]
    rw [hblanks]
    exact hline "    " (by decide) _
  have hopening := hline "public init(" (by decide) ""
  have hempty := hline "public init(" (by decide) ") \x7b\x7d"
  have hbrace := hline ") \x7b" (by decide) ""
  have hclosing := hline "\x7d" (by decide) ""
  rw [initializer]
  refine without_ite (without_cons.2 ⟨hempty, without_nil⟩) ?_
  simp only [without_append, without_cons, without_nil, and_true]
  exact ⟨⟨⟨⟨hopening, hparameters⟩, hbrace⟩, hassignments⟩, hclosing⟩

/-- The raw value of a field: its key, if the name is another one. -/
def rawValue (f : CodeField) : Option String := if f.isRenamed then some f.key else none

theorem rawValue_getD (f : CodeField) : (rawValue f).getD f.name = f.key := by
  by_cases hf : f.isRenamed = true
  · rw [rawValue, if_pos hf, Option.getD_some]
  · rw [rawValue, if_neg hf, Option.getD_none, f.key_eq_name hf]

theorem case?_codingKey {f : CodeField} (hn : Name.AllWord f.name.toList) :
    Reader.Swift.case? (codingKey f) = some (f.name, rawValue f) := by
  by_cases hf : f.isRenamed = true
  · have hline : codingKey f = "        case " ++ f.name ++ (" = " ++ quoted f.key) := by
      simp [codingKey, hf, toString, String.append_assoc]
    have hname : named? "        case " (· == ' ') (codingKey f) =
        some (f.name, (" = " ++ quoted f.key).toList) := by
      rw [hline]
      exact named?_word _ hn (by decide) (by simp)
    have hne : (" = " ++ quoted f.key).toList ≠ [] := by simp
    have hraw : quoted? " = \"".toList [] (" = " ++ quoted f.key).toList = some f.key := by
      simpa using quoted?_quoted " = " f.key []
    rw [Reader.Swift.case?, hname, rawValue, if_pos hf]
    simp only [Option.bind_eq_bind, Option.bind_some, hne, if_false, hraw]
    rfl
  · have hline : codingKey f = "        case " ++ f.name ++ "" := by
      simp [codingKey, hf, toString]
    have hname : named? "        case " (· == ' ') (codingKey f) = some (f.name, []) := by
      rw [hline]
      exact named?_word _ hn (by decide) (by simp)
    rw [Reader.Swift.case?, hname]
    simp [rawValue, hf]

/-- The lines behind the coding keys. -/
def ending (fields : List CodeField) : Lines :=
  "" :: (Lines.indent (initializer fields) 1 ++ ["\x7d", ""])

/-- The lines of a structure behind the first one. -/
def body (fields : List CodeField) : Lines :=
  fields.flatMap declaration ++ (codingKeys fields ++ ending fields)

theorem file_eq (m : Model) (source : String) :
    file m source = (Lines.header source ++ ["import Foundation", ""] ++
      Lines.docComment .slashes m.description) ++
        s!"public struct {m.name}: Codable \x7b" :: body (m.fields .ios) := by
  simp [file, struct, body, ending]

theorem linesAfter_file (m : Model) (source : String) :
    linesAfter "public struct " (file m source) = body (m.fields .ios) := by
  have hheader : ∀ l ∈ Lines.header source ++ ["import Foundation", ""],
      begins "public struct " l = false := by
    simp [Lines.header, Lines.provenance, begins, after?]
  have hfront : ∀ l ∈ Lines.header source ++ ["import Foundation", ""] ++
      Lines.docComment .slashes m.description, begins "public struct " l = false := by
    intro l hl
    rcases List.mem_append.1 hl with hl | hl
    · exact hheader l hl
    · obtain ⟨words, rfl⟩ := Lines.mem_docComment hl
      simp [Lines.CommentStyle.slashes, Lines.CommentStyle.opening, begins, after?]
  have hhead : begins "public struct " (s!"public struct {m.name}: Codable \x7b") = true := by
    simp [begins, after?, toString]
  rw [file_eq, linesAfter_append hfront, linesAfter_cons hhead]

theorem takeWhile_body (fields : List CodeField) :
    (body fields).takeWhile (· != "") = fields.flatMap declaration := by
  have hempty : ∃ tail, codingKeys fields ++ ending fields = "" :: tail := by
    rw [codingKeys]
    split
    · exact ⟨_, rfl⟩
    · exact ⟨_, rfl⟩
  obtain ⟨tail, htail⟩ := hempty
  rw [body, htail]
  exact takeWhile_append_stop (fun l hl => (of_mem_declarations hl).1) tail

/-- There are neither coding keys nor fields behind the coding keys. -/
theorem without_ending (fields : List CodeField) :
    Without Reader.Swift.codingKeysHead (ending fields) ∧
      Without "    public let " (ending fields) := by
  have hkeys := (without_initializer "enum " (by decide) fields).shifted
    (by decide : "    " ≠ "") |>.longer "CodingKeys: String, CodingKey \x7b"
  have hfields := (without_initializer "public let " (by decide) fields).shifted
    (by decide : "    " ≠ "")
  constructor
  · simp only [ending, without_cons, without_append]
    exact ⟨rfl, hkeys, rfl, rfl, without_nil⟩
  · simp only [ending, without_cons, without_append]
    exact ⟨rfl, hfields, rfl, rfl, without_nil⟩

theorem cases?_body_of_renamed {fields : List CodeField} (h : WellNamed fields)
    (hr : fields.any CodeField.isRenamed = true) :
    Reader.Swift.cases? (body fields) = some (some (fields.map fun f => (f.name, rawValue f))) := by
  have hbody : body fields = (fields.flatMap declaration ++ [""]) ++
      Reader.Swift.codingKeysHead :: (fields.map codingKey ++ "    \x7d" :: ending fields) := by
    rw [body, codingKeys, if_pos hr]
    simp only [List.append_assoc, List.cons_append, List.nil_append]
    rfl
  have hhead : begins Reader.Swift.codingKeysHead Reader.Swift.codingKeysHead = true := by
    decide
  have hany : (body fields).any (begins Reader.Swift.codingKeysHead) = true := by
    rw [hbody, List.any_append, List.any_cons, hhead, Bool.true_or, Bool.or_true]
  have hfront : ∀ l ∈ fields.flatMap declaration ++ [""],
      begins Reader.Swift.codingKeysHead l = false := by
    intro l hl
    rcases List.mem_append.1 hl with hl | hl
    · exact (of_mem_declarations hl).2
    · rw [List.mem_singleton.1 hl]
      rfl
  have hcase : ∀ f ∈ fields, Reader.Swift.case? (codingKey f) = some (f.name, rawValue f) :=
    fun f hf => case?_codingKey (h.allWord f hf)
  have hclose : ∀ l ∈ fields.map codingKey, l ≠ "    \x7d" := by
    intro l hl heq
    obtain ⟨f, hf, rfl⟩ := List.mem_map.1 hl
    have hread := hcase f hf
    have hnone : Reader.Swift.case? "    \x7d" = none := by decide
    rw [heq, hnone] at hread
    cases hread
  rw [Reader.Swift.cases?, if_pos hany, hbody, linesAfter_append hfront, linesAfter_cons hhead,
    takeWhile_append_stop hclose, mapM_map_eq_some hcase, Option.map_some]

theorem cases?_body_of_not_renamed {fields : List CodeField}
    (hr : ¬ fields.any CodeField.isRenamed = true) :
    Reader.Swift.cases? (body fields) = some none := by
  have hany : ¬ (body fields).any (begins Reader.Swift.codingKeysHead) = true := by
    rw [body, codingKeys, if_neg hr, List.nil_append, List.any_eq_true]
    rintro ⟨l, hl, hb⟩
    rcases List.mem_append.1 hl with hl | hl
    · rw [(of_mem_declarations hl).2] at hb
      exact Bool.noConfusion hb
    · rw [(without_ending fields).1 l hl] at hb
      exact Bool.noConfusion hb
  rw [Reader.Swift.cases?, if_neg hany]

/-- The cases that the reader finds give back the key of every field. -/
theorem exists_cases {fields : List CodeField} (h : WellNamed fields) :
    ∃ cases, Reader.Swift.cases? (body fields) = some cases ∧
      ∀ f ∈ fields, Reader.Swift.jsonName cases f.name = some f.key := by
  by_cases hr : fields.any CodeField.isRenamed = true
  · refine ⟨_, cases?_body_of_renamed h hr, fun f hf => ?_⟩
    rw [Reader.Swift.jsonName, lookup_name h hf, Option.map_some, rawValue_getD]
  · refine ⟨_, cases?_body_of_not_renamed hr, fun f hf => ?_⟩
    have hf : ¬ f.isRenamed = true := fun h => hr (List.any_eq_true.2 ⟨f, hf, h⟩)
    rw [Reader.Swift.jsonName, f.key_eq_name hf]

/-- A field as the reader sees it. -/
def printed (f : CodeField) : PrintedField := ⟨f.key, (": " ++ fieldType f).toList⟩

theorem named?_line {f : CodeField} (hn : Name.AllWord f.name.toList) :
    named? "    public let " (· == ':') (line f) =
      some (f.name, (": " ++ fieldType f).toList) :=
  named?_word "    public let " hn (by decide) (by simp)

theorem fields?_file (m : Model) (source : String) :
    Reader.Swift.fields? (file m source) = some ((m.fields .ios).map printed) := by
  have hnames := wellNamed_fields .ios m
  obtain ⟨cases, hcases, hjson⟩ := exists_cases hnames
  rw [Reader.Swift.fields?, linesAfter_file, takeWhile_body, filter_declarations, hcases,
    Option.bind_eq_bind, Option.bind_some]
  refine mapM_map_eq_some fun f hf => ?_
  rw [named?_line (hnames.allWord f hf)]
  simp [hjson f hf, printed]

theorem isOptional?_printed {f : CodeField} (hf : IsType f.type) :
    isOptional? .ios (printed f).rest = some (f.isOptional || endsWith f.type "?") := by
  rw [printed, fieldType]
  cases ho : f.isOptional with
  | true =>
      rw [if_pos rfl, String.toList_append, isOptional?, after?_append, Option.bind_eq_bind,
        Option.bind_some, type?_toList hf.optional]
      simp
  | false =>
      rw [if_neg Bool.false_ne_true, String.toList_append, isOptional?, after?_append,
        Option.bind_eq_bind, Option.bind_some, type?_toList hf]
      simp

/-- No coding key looks like a field. -/
theorem without_codingKeys (fields : List CodeField) :
    Without "    public let " (codingKeys fields) := by
  have hcase : ∀ f, begins "    public let " (codingKey f) = false := by
    intro f
    rw [codingKey]
    split
    · simp [begins, after?, toString]
    · simp [begins, after?, toString]
  rw [codingKeys]
  refine without_ite ?_ without_nil
  simp only [without_append, without_map hcase]
  simp [begins, after?]

theorem isWhole_file {m : Model} (h : m.IsLegible .ios) (source : String) :
    isWhole .ios (file m source) = true := by
  have hfront : ∀ l ∈ Lines.header source ++ ["import Foundation", ""] ++
      Lines.docComment .slashes m.description, isFront l = true := by
    intro l hl
    rcases List.mem_append.1 hl with hl | hl
    · rcases List.mem_append.1 hl with hl | hl
      · exact isFront_header source l hl
      · rcases List.mem_pair.1 hl with rfl | rfl
        · rfl
        · rfl
    · obtain ⟨words, rfl⟩ := Lines.mem_docComment hl
      simp [Lines.CommentStyle.slashes, Lines.CommentStyle.opening, isFront, begins, after?]
  have hname : isHead "public struct " ": Codable \x7b"
      s!"public struct {m.name}: Codable \x7b" = true := by
    simpa [toString] using isHead_append "public struct " ": Codable \x7b" h.name
  have hhead : isFront s!"public struct {m.name}: Codable \x7b" = false := by
    simp [isFront, begins, after?, toString]
  have hbehind : ((body (m.fields .ios)).dropWhile (· != "")).all
      (fun l => !begins "    public let " l) = true := by
    have hbody : ∀ l ∈ (body (m.fields .ios)).dropWhile (· != ""),
        begins "    public let " l = false := by
      intro l hl
      rw [body, List.dropWhile_append_of_pos fun l hl => by
        simpa using (of_mem_declarations hl).1] at hl
      rcases List.mem_append.1 ((List.dropWhile_sublist _).subset hl) with hl | hl
      · exact without_codingKeys _ l hl
      · exact (without_ending _).2 l hl
    simpa using hbody
  rw [isWhole, file_eq, dropWhile_isFront hfront hhead]
  simp [hname, hbehind]

/-- The fields of the structure are those of the model. A field is marked as optional if it is one
or if its type is. -/
theorem read?_file {m : Model} (h : m.IsLegible .ios) (source : String) :
    read? .ios (file m source) = some (m.properties.map fun prop =>
      ⟨prop.name, prop.isOptional || endsWith (prop.spelling .ios) "?"⟩) := by
  rw [read?_of_isWhole (isWhole_file h source) (fields?_file m source),
    mapM_isOptional? fun f hf => isOptional?_printed (h.isType_fields f hf)]
  exact congrArg some (m.map_fields fun _ _ => rfl)

end SpecForge.Model.Swift
