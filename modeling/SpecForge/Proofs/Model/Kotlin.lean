import SpecForge.Generator
import SpecForge.Proofs.Decimal.Form
import SpecForge.Proofs.Model.Field

/-!
# Reading Kotlin models

The reader finds in the code of a class exactly its fields. Each field is a comment at most, then an
annotation if it is renamed, then its declaration; so an annotation is that of the field whose
declaration comes next. A default that is no literal for nothing leaves a field as its type has it.
-/

namespace SpecForge.Model.Kotlin

open Reader Text

/-- The line of a field, which ends with a comma if another one follows. -/
def line (f : CodeField) (comma : String) : String :=
  "    val " ++ f.name ++ (": " ++ (fieldType f ++ comma))

/-- A field as the reader sees it. -/
def printed (f : CodeField) (comma : String) : PrintedField :=
  ⟨f.key, (": " ++ (fieldType f ++ comma)).toList⟩

/-- The fields as the reader sees them. -/
def printedFields : List CodeField → List PrintedField
  | [] => []
  | [f] => [printed f ""]
  | f :: rest => printed f "," :: printedFields rest

theorem fieldsFrom_comment (annotated : Option String) (text : String) (rest : Lines) :
    Reader.Kotlin.fieldsFrom annotated (("    " ++ ("/** " ++ text)) :: rest) =
      Reader.Kotlin.fieldsFrom annotated rest := by
  have hb : begins "    /**" ("    " ++ ("/** " ++ text)) = true := by
    simp [begins, after?]
  rw [Reader.Kotlin.fieldsFrom, if_pos hb]

theorem fieldsFrom_serialName (annotated : Option String) (key : String) (rest : Lines) :
    Reader.Kotlin.fieldsFrom annotated (("    @SerialName(" ++ quoted key ++ ")") :: rest) =
      Reader.Kotlin.fieldsFrom (some key) rest := by
  have hb : ¬ begins "    /**" ("    @SerialName(" ++ quoted key ++ ")") = true := by
    simp [begins, after?]
  have hq : quoted? "    @SerialName(\"".toList [')']
      ("    @SerialName(" ++ quoted key ++ ")").toList = some key := by
    rw [String.toList_append]
    exact quoted?_quoted "    @SerialName(" key [')']
  rw [Reader.Kotlin.fieldsFrom, if_neg hb, hq]

theorem fieldsFrom_line (annotated : Option String) {f : CodeField} (comma : String)
    (hn : Name.AllWord f.name.toList) (rest : Lines) :
    Reader.Kotlin.fieldsFrom annotated (line f comma :: rest) =
      (Reader.Kotlin.fieldsFrom none rest).map fun fs =>
        ⟨annotated.getD f.name, (": " ++ (fieldType f ++ comma)).toList⟩ :: fs := by
  have hb : ¬ begins "    /**" (line f comma) = true := by
    unfold line
    simp [begins, after?]
  have hq : quoted? "    @SerialName(\"".toList [')'] (line f comma).toList = none := by
    unfold line
    simp [quoted?, after?]
  have hname : named? "    val " (· == ':') (line f comma) =
      some (f.name, (": " ++ (fieldType f ++ comma)).toList) :=
    named?_word "    val " hn (by decide) (by simp)
  rw [Reader.Kotlin.fieldsFrom, if_neg hb, hq]
  simp only [hname]
  cases Reader.Kotlin.fieldsFrom none rest <;> rfl

theorem indent_declaration (f : CodeField) (comma : String) :
    Lines.indent [declaration f ++ comma] 1 = [line f comma] := by
  have hline : declaration f ++ comma = "val " ++ (f.name ++ (": " ++ (fieldType f ++ comma))) := by
    unfold declaration
    simp [toString, String.append_assoc]
  have hne : declaration f ++ comma ≠ "" := by
    rw [hline]
    simp
  rw [Lines.indent_singleton hne, hline]
  unfold line
  simp [← String.append_assoc]

theorem indent_serialName (key : String) :
    Lines.indent [s!"@SerialName({quoted key})"] 1 = ["    @SerialName(" ++ quoted key ++ ")"] := by
  rw [Lines.indent_singleton (by simp [toString])]
  simp [toString, ← String.append_assoc]

/-- The lines of one field, and then others. -/
theorem fieldsFrom_field {f : CodeField} (comma : String) (hn : Name.AllWord f.name.toList)
    (rest : Lines) :
    Reader.Kotlin.fieldsFrom none
        (Lines.indent (annotations f ++ [declaration f ++ comma]) 1 ++ rest) =
      (Reader.Kotlin.fieldsFrom none rest).map (printed f comma :: ·) := by
  have hkey : Reader.Kotlin.fieldsFrom none
      (Lines.indent (if f.isRenamed then [s!"@SerialName({quoted f.key})"] else []) 1 ++
        (line f comma :: rest)) =
      (Reader.Kotlin.fieldsFrom none rest).map (printed f comma :: ·) := by
    by_cases hr : f.isRenamed = true
    · rw [if_pos hr, indent_serialName, List.singleton_append, fieldsFrom_serialName,
        fieldsFrom_line _ _ hn]
      rfl
    · rw [if_neg hr]
      change Reader.Kotlin.fieldsFrom none (line f comma :: rest) = _
      rw [fieldsFrom_line _ _ hn, printed, f.key_eq_name hr]
      rfl
  rw [annotations, Lines.indent_append, Lines.indent_append, indent_declaration,
    List.append_assoc, List.append_assoc, List.singleton_append]
  rcases Lines.indent_docComment .block f.description with h | ⟨text, h⟩
  · rw [h, List.nil_append, hkey]
  · rw [h, List.singleton_append]
    exact (fieldsFrom_comment none text _).trans hkey

theorem fieldsFrom_declarations {fields : List CodeField} (h : WellNamed fields) :
    Reader.Kotlin.fieldsFrom none (Lines.indent (declarations fields) 1) =
      some (printedFields fields) := by
  induction fields using declarations.induct with
  | case1 => rfl
  | case2 f =>
      have hn := h.allWord f (List.mem_singleton_self f)
      have hf := fieldsFrom_field "" hn []
      rw [List.append_nil, String.append_empty] at hf
      rw [declarations, hf]
      rfl
  | case3 f rest hrest ih =>
      have hn := h.allWord f (List.mem_cons_self ..)
      rw [declarations.eq_3 f rest hrest, Lines.indent_append, fieldsFrom_field "," hn,
        ih h.tail, printedFields.eq_3 f rest hrest]
      rfl

theorem of_mem_indent {lines : Lines} {l : String} (h : l ∈ Lines.indent lines 1) : l ≠ ")" := by
  obtain ⟨other, _, rfl⟩ := List.mem_map.1 h
  split
  · rename_i hempty
    rw [String.isEmpty_iff.1 hempty]
    decide
  · intro heq
    have hl := congrArg String.toList heq
    simp [Lines.indentation] at hl

theorem classComment_cases (description : Option String) : classComment description = [] ∨
    ∃ d, description = some d ∧ classComment description = ["/**", " * " ++ d, " */"] := by
  cases description with
  | none => exact .inl rfl
  | some d =>
      rw [classComment]
      split
      · exact .inl rfl
      · exact .inr ⟨d, rfl, by simp [toString]⟩

theorem of_mem_classComment {description : Option String} {l : String}
    (h : l ∈ classComment description) : ∃ rest, l = "/**" ++ rest ∨ l = " *" ++ rest := by
  rcases classComment_cases description with hc | ⟨d, _, hc⟩
  · rw [hc] at h
    cases h
  · rw [hc] at h
    simp only [List.mem_cons, List.not_mem_nil, or_false] at h
    rcases h with rfl | rfl | rfl
    · exact ⟨"", .inl rfl⟩
    · exact ⟨" " ++ d, .inr (by simp [← String.append_assoc])⟩
    · exact ⟨"/", .inr rfl⟩

/-- The lines behind the annotation of the class. -/
def body (m : Model) : Lines :=
  if (m.fields .android).isEmpty then [s!"class {m.name}", ""]
  else s!"data class {m.name}(" ::
    (Lines.indent (declarations (m.fields .android)) 1 ++ ")" :: [""])

theorem file_eq (m : Model) (source : String) : file m source =
    (Lines.header source ++ imports [m]) ++
      (classComment m.description ++ "@Serializable" :: body m) := by
  simp [file, dataClass, body]

theorem linesAfter_file (m : Model) (source : String) :
    linesAfter "@Serializable" (file m source) = body m := by
  have hheader : ∀ l ∈ Lines.header source ++ imports [m], begins "@Serializable" l = false := by
    unfold imports
    split <;> simp [Lines.header, Lines.provenance, begins, after?]
  have hfront : ∀ l ∈ Lines.header source ++ imports [m] ++ classComment m.description,
      begins "@Serializable" l = false := by
    intro l hl
    rcases List.mem_append.1 hl with hl | hl
    · exact hheader l hl
    · obtain ⟨rest, rfl | rfl⟩ := of_mem_classComment hl
      · simp [begins, after?]
      · simp [begins, after?]
  have hhead : begins "@Serializable" "@Serializable" = true := by
    decide
  rw [file_eq, ← List.append_assoc, linesAfter_append hfront, linesAfter_cons hhead]

theorem fields?_file (m : Model) (source : String) :
    Reader.Kotlin.fields? (file m source) = some (printedFields (m.fields .android)) := by
  rw [Reader.Kotlin.fields?, linesAfter_file, body]
  by_cases hempty : (m.fields .android).isEmpty = true
  · have hdata : ¬ begins "data class " s!"class {m.name}" = true := by
      simp [begins, after?, toString]
    have hclass : begins "class " s!"class {m.name}" = true := by
      simp [begins, after?, toString]
    rw [if_pos hempty, List.isEmpty_iff.1 hempty]
    simp only [hdata, hclass, if_true]
    rfl
  · have hdata : begins "data class " s!"data class {m.name}(" = true := by
      simp [begins, after?, toString]
    rw [if_neg hempty]
    simp only [hdata, if_true]
    rw [takeWhile_append_stop (fun _ => of_mem_indent),
      fieldsFrom_declarations (wellNamed_fields .android m)]

/-! ### Marks -/

/-- No default has the literal that stands for nothing, with or without a comma behind it. -/
theorem defaultLiteral_ne_null {text : String} (htext : text = "null" ∨ text = "null,")
    (v : Value) (type : String) : defaultLiteral v type ≠ some text := by
  have hform : Decimal.form? text.toList = none := by
    rcases htext with rfl | rfl <;> decide
  have hdash : '-' ∉ text.toList := by
    rcases htext with rfl | rfl <;> decide
  intro h
  cases v with
  | int n =>
      rw [defaultLiteral] at h
      split at h
      · rw [← Option.some.inj h, Decimal.form?_int_point] at hform
        cases hform
      · rw [← Option.some.inj h, Decimal.form?_int] at hform
        cases hform
  | float x =>
      obtain rfl : x.text = text := Option.some.inj h
      cases x with
      | nan => exact absurd htext (by decide)
      | infinite negative => cases negative <;> exact absurd htext (by decide)
      | finite negative m e =>
          rw [Decimal.form?_finite] at hform
          cases hform
  | date d =>
      obtain rfl : d.text = text := Option.some.inj h
      simp [Date.text] at hdash
  | moment m =>
      obtain rfl : m.textWith " " = text := Option.some.inj h
      simp [Moment.textWith, Date.text] at hdash
  | bool b => cases b <;> rcases htext with rfl | rfl <;> simp [defaultLiteral] at h
  | str s =>
      rcases htext with rfl | rfl <;>
        simp [defaultLiteral, quoted, Quoted.write, ← String.toList_inj] at h
  | set items =>
      cases items <;> rcases htext with rfl | rfl <;>
        simp [defaultLiteral, Value.text, Value.shown, Value.shownIn, ← String.toList_inj] at h
  | bytes data =>
      rcases htext with rfl | rfl <;>
        simp [defaultLiteral, Value.text, Value.shown, Value.shownIn, Value.shownBytes,
          ← String.toList_inj] at h
  | pair a b =>
      rcases htext with rfl | rfl <;>
        simp [defaultLiteral, Value.text, Value.shown, Value.shownIn, ← String.toList_inj] at h
  | dots =>
      rcases htext with rfl | rfl <;>
        simp [defaultLiteral, Value.text, Value.shown, Value.shownIn] at h
  | null => cases h
  | list items => cases h
  | object members => cases h
  | loop number content => cases h

theorem default_ne_null {m : Model} {f : CodeField} (hf : f ∈ m.fields .android) {text : String}
    (htext : text = "null" ∨ text = "null,") : f.default ≠ some text := by
  obtain ⟨prop, _, name, rfl⟩ := exists_of_mem_fields hf
  rw [CodeField.ofProperty]
  dsimp only
  split
  · exact (Option.some_ne_none _).symm
  · exact defaultLiteral_ne_null htext _ _

theorem append_comma_ne_null {literal comma : String}
    (h : ∀ text, text = "null" ∨ text = "null," → literal ≠ text) (hc : comma = "" ∨ comma = ",") :
    literal ++ comma ≠ "null" ∧ literal ++ comma ≠ "null," := by
  rcases hc with rfl | rfl
  · rw [String.append_empty]
    exact ⟨h _ (.inl rfl), h _ (.inr rfl)⟩
  · refine ⟨fun hsame => ?_, fun hsame => ?_⟩
    · have hlast := congrArg (·.toList.getLast?) hsame
      simp at hlast
    · exact h _ (.inl rfl) ((String.append_left_inj ",").1 hsame)

/-- Only the default `null` makes a field optional, not another default and not a comma. -/
theorem isOptional?_printed {f : CodeField} (hf : IsType f.type)
    (hd : ∀ text, text = "null" ∨ text = "null," → f.default ≠ some text) {comma : String}
    (hc : comma = "" ∨ comma = ",") :
    isOptional? .android (printed f comma).rest = some f.isOptional := by
  have hend : ∀ cs, EndsType ('=' :: cs) := fun cs c hc => by
    rw [← Option.some.inj hc]
    decide
  have hblank : ∀ c ∈ [' '], c = ' ' := List.forall_mem_singleton.2 rfl
  rw [printed, String.toList_append, isOptional?, after?_append, Option.bind_eq_bind,
    Option.bind_some, fieldType]
  cases ho : f.isOptional with
  | true =>
      have htext : (f.type ++ "? = null" ++ comma).toList =
          (f.type ++ "?").toList ++ ([' '] ++ ('=' :: ' ' :: ("null" ++ comma).toList)) := by
        simp
      rw [if_pos rfl, htext, type?_append hf.optional hblank (hend _)]
      rcases hc with rfl | rfl
      · simp [after?]
      · simp [after?]
  | false =>
      rw [if_neg Bool.false_ne_true]
      cases hdefault : f.default with
      | none =>
          have hcomma : EndsType comma.toList := by
            rcases hc with rfl | rfl
            · decide
            · decide
          have hread := type?_append hf (List.forall_mem_nil _) hcomma
          rw [List.nil_append] at hread
          simp only [String.toList_append, hread]
          rcases hc with rfl | rfl
          · rfl
          · rfl
      | some literal =>
          have hnull := append_comma_ne_null
            (fun text ht hsame => hd text ht (hdefault.trans (congrArg some hsame))) hc
          have htext : (s!"{f.type} = {literal}" ++ comma).toList =
              f.type.toList ++ ([' '] ++ ('=' :: ' ' :: (literal ++ comma).toList)) := by
            simp [toString]
          rw [htext, type?_append hf hblank (hend _)]
          simpa [after?, ← String.toList_inj] using fun _ => hnull

theorem mapM_printedFields {fields : List CodeField}
    (h : ∀ f ∈ fields, ∀ comma, comma = "" ∨ comma = "," →
      isOptional? .android (printed f comma).rest = some f.isOptional) :
    ((printedFields fields).mapM fun f => do
        return (⟨f.key, ← isOptional? .android f.rest⟩ : ReadField)) =
      some (fields.map fun f => ⟨f.key, f.isOptional⟩) := by
  induction fields using printedFields.induct with
  | case1 => rfl
  | case2 f =>
      have hf := h f (List.mem_singleton_self f) "" (.inl rfl)
      rw [printedFields, List.mapM_cons, hf]
      rfl
  | case3 f rest hrest ih =>
      have hf := h f List.mem_cons_self "," (.inr rfl)
      rw [printedFields.eq_3 f rest hrest, List.mapM_cons, hf,
        ih fun g hg => h g (List.mem_cons_of_mem f hg)]
      rfl

/-! ### What stands around the fields -/

theorem behindClosing?_comment {nested : Bool} {d : String}
    (h : Lines.Balanced (Lines.marks nested d.toList)) (rest : Lines) :
    behindClosing? nested 0 ((" * " ++ d) :: " */" :: rest) = some rest := by
  have htext : (" * " ++ d).toList = [' ', '*'] ++ ' ' :: d.toList := by simp
  have hstar : Lines.marks nested [' ', '*'] = [] := by
    rw [Lines.marks_of_none (Lines.mark?_of_isBlank (by decide) '*').1]
    rfl
  have hmarks : Lines.marks nested (" * " ++ d).toList = Lines.marks nested d.toList := by
    rw [htext, Lines.marks_append_blank _ (by decide), hstar, List.nil_append]
  have hne : " * " ++ d ≠ " */" := by
    intro hclose
    have hlist := congrArg String.toList hclose
    rw [htext] at hlist
    cases hlist
  rw [behindClosing?, if_neg fun hclose => hne hclose.2, hmarks, h]
  rfl

/-- Behind what stands in front and the comment above the model, if the marks of its text are
balanced. -/
theorem behindComment?_classComment (nested : Bool) {description : Option String}
    (h : Lines.Balanced (Lines.marks nested (description.getD "").toList)) {front : Lines}
    (hfront : ∀ l ∈ front, isFront l = true) {line : String} (hl : isFront line = false)
    (hline : line ≠ "/**") (rest : Lines) :
    behindComment? nested ((front ++ (classComment description ++ line :: rest)).dropWhile
      isFront) = some (line :: rest) := by
  rw [List.dropWhile_append_of_pos hfront]
  rcases classComment_cases description with hc | ⟨d, rfl, hc⟩
  · rw [hc, List.nil_append, List.dropWhile_cons_of_neg (by simp [hl]), behindComment?,
      if_neg hline]
  · rw [hc, List.cons_append, List.dropWhile_cons_of_neg (by decide), behindComment?, if_pos rfl]
    exact behindClosing?_comment h _

theorem commentsEnd_field {f : CodeField}
    (h : Lines.Balanced (Lines.marks true (f.description.getD "").toList)) (comma : String) :
    commentsEnd true "    /**"
      (Lines.indent (annotations f ++ [declaration f ++ comma]) 1) = true := by
  have hcomment : Lines.indent (Lines.docComment .block f.description) 1 =
      (Lines.docComment .block f.description).map ("    " ++ ·) := by
    refine Lines.indent_eq_map fun l hl => ?_
    obtain ⟨words, rfl⟩ := Lines.mem_docComment hl
    simp [Lines.CommentStyle.opening]
  have hannotation : Without "    /**"
      (Lines.indent (if f.isRenamed then [s!"@SerialName({quoted f.key})"] else []) 1) := by
    split
    · rw [indent_serialName]
      simp [begins, after?]
    · exact without_nil
  have hdeclaration : Without "    /**" [line f comma] := by
    unfold line
    simp [begins, after?]
  have hblanks : ∀ c ∈ "    ".toList, c = ' ' := by simp
  rw [annotations, Lines.indent_append, Lines.indent_append, indent_declaration, hcomment]
  simp only [commentsEnd_append, commentsEnd_of_without hannotation,
    commentsEnd_of_without hdeclaration, commentsEnd_docComment hblanks h, Bool.and_self]

theorem commentsEnd_declarations {fields : List CodeField}
    (h : ∀ f ∈ fields, Lines.Balanced (Lines.marks true (f.description.getD "").toList)) :
    commentsEnd true "    /**" (Lines.indent (declarations fields) 1) = true := by
  induction fields using declarations.induct with
  | case1 => rfl
  | case2 f =>
      have hf := commentsEnd_field (h f (List.mem_singleton_self f)) ""
      rwa [String.append_empty] at hf
  | case3 f rest hrest ih =>
      rw [declarations.eq_3 f rest hrest, Lines.indent_append, commentsEnd_append,
        commentsEnd_field (h f List.mem_cons_self), Bool.true_and]
      exact ih fun g hg => h g (List.mem_cons_of_mem f hg)

theorem isFront_imports (models : List Model) : ∀ l ∈ imports models, isFront l = true := by
  have hserial : ∀ l ∈ ["import kotlinx.serialization.SerialName"], isFront l = true := by decide
  have hserializable : ∀ l ∈ ["import kotlinx.serialization.Serializable", ""],
      isFront l = true := by
    decide
  intro l hl
  rcases List.mem_append.1 hl with hl | hl
  · split at hl
    · exact hserial l hl
    · cases hl
  · exact hserializable l hl

theorem isWhole_file {m : Model} (h : m.IsLegible .android) (source : String) :
    isWhole .android (file m source) = true := by
  have hbehind : behindComment? true ((file m source).dropWhile isFront) =
      some ("@Serializable" :: body m) := by
    rw [file_eq]
    refine behindComment?_classComment true (h.balanced_description (by decide)) (fun l hl => ?_)
      (by decide) (by decide) _
    rcases List.mem_append.1 hl with hl | hl
    · exact isFront_header source l hl
    · exact isFront_imports _ l hl
  have hends : commentsEnd true "    /**"
      (Lines.indent (declarations (m.fields .android)) 1) = true := by
    refine commentsEnd_declarations fun f hf => ?_
    obtain ⟨prop, hprop, name, rfl⟩ := exists_of_mem_fields hf
    exact h.balanced_property (by decide) hprop
  have hclose : ")" ∉ Lines.indent (declarations (m.fields .android)) 1 :=
    fun hmem => of_mem_indent hmem rfl
  rw [isWhole, hbehind, body]
  by_cases hempty : (m.fields .android).isEmpty = true
  · have hname := isHead_append "class " "" h.name
    rw [String.append_empty] at hname
    rw [if_pos hempty]
    simp [toString, hname]
  · have hname := isHead_append "data class " "(" h.name
    have hcomments : commentsEnd true "    /**"
        (Lines.indent (declarations (m.fields .android)) 1 ++ ")" :: [""]) = true := by
      rw [commentsEnd_append, hends, Bool.true_and]
      decide
    rw [if_neg hempty]
    simp [toString, hname, hcomments, Lines.dropWhile_ne_append hclose]

/-- The fields of the class are those of the model. -/
theorem read?_file {m : Model} (h : m.IsLegible .android) (source : String) :
    read? .android (file m source) = some m.readFields := by
  have hmarks := mapM_printedFields fun f hf comma hc =>
    isOptional?_printed (h.isType_fields f hf) (fun text => default_ne_null hf) hc
  rw [read?_of_isWhole (isWhole_file h source) (fields?_file m source), hmarks]
  exact congrArg some (m.map_fields fun _ _ => rfl)

end SpecForge.Model.Kotlin
