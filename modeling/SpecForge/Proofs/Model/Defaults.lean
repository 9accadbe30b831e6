import SpecForge.Proofs.Decimal.Form
import SpecForge.Proofs.Lines.Declaration
import SpecForge.Proofs.Model.Schema
import SpecForge.Proofs.TypeName

/-!
# Defaults of fields

A field of a model may have a default: in Swift the initializer has it, in Kotlin the class itself.
The literal is chosen by the value, while the type of the field is chosen by type and format, from a
table for each platform. So the two fit each other only where no format gives the type a spelling
that the literal knows nothing of.

Here a literal is told by its text: it is a text in quotes, a truth value, a row of digits, or a
number with a point or an exponent. Each type takes certain kinds of literals.
-/

namespace SpecForge.Model

/-! ## The reader -/

namespace Reader

open Text Api.Reader

/-- The type of a field or a parameter, and its default. -/
structure Declared where
  type : String
  default : Option String
deriving DecidableEq

/-- What stands behind a name: a type, and a default or none. -/
def declared? (cs : List Char) : Option Declared := do
  let (type, rest) ← type? (← after? ": ".toList cs)
  if rest = [] then return ⟨type, none⟩
  else return ⟨type, some (String.ofList (← after? "= ".toList rest))⟩

/-- The parameters of the only initializer, each as far as it can be read. -/
def Swift.declared? (lines : Lines) : Option (List (Option Declared)) := do
  let [i] ← Lines.initializers? lines | none
  return i.parameters.map fun param =>
    (named? "" (· == ':') param).bind fun r => Reader.declared? r.2

/-- What is declared for the fields of a class; all but the last one end with a comma. -/
def Kotlin.declaredFrom : List PrintedField → List (Option Declared)
  | [] => []
  | [f] => [declared? f.rest]
  | f :: fs => (before? "," f.rest).bind declared? :: declaredFrom fs

/-- What is declared for the fields in the code of a model, in order. On the web there are no
defaults to read. -/
def declaredIn? (p : Platform) (lines : Lines) : Option (List (Option Declared)) :=
  match p with
  | .ios => Swift.declared? lines
  | .android => (Kotlin.fields? lines).map Kotlin.declaredFrom
  | .web => none

end Reader

open Reader Text Api.Reader

/-- What is declared for a field: a default that is nothing if it is optional. -/
def declared (nothing : String) (f : CodeField) : Declared :=
  if f.isOptional then ⟨f.type ++ "?", some nothing⟩ else ⟨f.type, f.default⟩

/-- The declaration behind a name. -/
def declaredText (d : Declared) : String :=
  ": " ++ (d.type ++ match d.default with
    | some literal => " = " ++ literal
    | none => "")

theorem declared?_declaredText {f : CodeField} (hf : IsType f.type) (nothing : String) :
    declared? (declaredText (declared nothing f)).toList = some (declared nothing f) := by
  have hends : ∀ literal, EndsType ("= " ++ literal).toList := by
    intro literal
    rw [String.toList_append]
    exact endsType_cons (c := '=') (by decide) _
  have hread : ∀ {type literal : String}, IsType type →
      declared? (declaredText ⟨type, some literal⟩).toList = some ⟨type, some literal⟩ := by
    intro type literal htype
    have htext : (declaredText ⟨type, some literal⟩).toList =
        ": ".toList ++ (type.toList ++ ([' '] ++ ("= " ++ literal).toList)) := by
      simp [declaredText]
    rw [declared?, htext, after?_append]
    simp only [Option.bind_eq_bind, Option.bind_some]
    rw [type?_append htype (by simp) (hends literal)]
    simp [after?]
  cases ho : f.isOptional with
  | true => simpa [declared, ho] using hread hf.optional
  | false =>
      cases hd : f.default with
      | none =>
          rw [declared?, declaredText, String.toList_append, after?_append]
          simp [declared, ho, hd, type?_toList hf]
      | some literal => simpa [declared, ho, hd] using hread hf

namespace Swift

/-- A parameter of the initializer, without the room before it. -/
def parameterText (f : CodeField) : String := f.name ++ declaredText (declared "nil" f)

theorem parameter_eq (f : CodeField) : parameter f = "    " ++ parameterText f := by
  cases ho : f.isOptional <;> cases hd : f.default <;>
    simp [parameter, parameterText, fieldType, parameterDefault, declaredText, declared, ho, hd,
      toString, ← String.toList_inj]

/-- The initializer as the reader sees it. -/
def printedInitializer (fields : List CodeField) : Lines.Initializer :=
  ⟨fields.map parameterText,
    Lines.indent (fields.map fun f => s!"    self.{f.name} = {f.name}") 1⟩

theorem commaSeparated_map (front : String) (lines : Lines) :
    Lines.commaSeparated (lines.map (front ++ ·)) =
      (Lines.commaSeparated lines).map (front ++ ·) := by
  induction lines using Lines.commaSeparated.induct with
  | case1 => rfl
  | case2 line => rfl
  | case3 line rest hrest ih =>
      have hne : rest.map (front ++ ·) ≠ [] := by
        rw [Ne, List.map_eq_nil_iff]
        exact hrest
      rw [List.map_cons, Lines.commaSeparated.eq_3 _ _ hne, ih,
        Lines.commaSeparated.eq_3 _ _ hrest, List.map_cons, String.append_assoc]

theorem indent_initializer {fields : List CodeField} (h : fields ≠ []) :
    Lines.indent (initializer fields) 1 =
      "    public init(" :: ((printedInitializer fields).lines ++ ["    \x7d"]) := by
  have hparams : fields.map parameter = (fields.map parameterText).map ("    " ++ ·) := by
    rw [List.map_map]
    exact List.map_congr_left fun f _ => parameter_eq f
  rw [initializer, if_neg (by simpa using h), hparams, commaSeparated_map]
  exact Lines.indent_initializer _ _

theorem isIndented_printed (fields : List CodeField) : (printedInitializer fields).IsIndented := by
  refine Lines.isIndented_indent _ fun line hl => ?_
  obtain ⟨f, _, rfl⟩ := List.mem_map.1 hl
  exact ⟨s!"self.{f.name} = {f.name}", by simp [toString, ← String.toList_inj]⟩

/-- What stands before the initializer. -/
def front (m : Model) (source : String) : Lines :=
  Lines.header source ++ ["import Foundation", ""] ++ Lines.docComment .slashes m.description ++
    [s!"public struct {m.name}: Codable \x7b"] ++ (m.fields .ios).flatMap declaration ++
    codingKeys (m.fields .ios) ++ [""]

theorem without_front (m : Model) (source : String) :
    Without "    public init(" (front m source) := by
  have hcomment : Without "    public init(" (Lines.docComment .slashes m.description) := by
    intro line hl
    obtain ⟨words, rfl⟩ := Lines.mem_docComment hl
    simp [Lines.CommentStyle.slashes, Lines.CommentStyle.opening, begins, after?]
  have hdeclarations : Without "    public init(" ((m.fields .ios).flatMap declaration) := by
    have hline : ∀ f, begins "    public init(" (line f) = false := by
      intro f
      unfold line
      rw [String.append_assoc]
      with_reducible exact begins_append_of_differ (by decide) _
    refine without_flatMap fun f _ => ?_
    rcases declaration_eq f with hd | ⟨words, hd⟩
    · simp [hd, hline]
    · have hcomment : begins "    public init(" ("    " ++ ("/// " ++ words)) = false := by
        simp [begins, after?]
      simp [hd, hline, hcomment]
  have hkeys : Without "    public init(" (codingKeys (m.fields .ios)) := by
    have hcase : ∀ f, begins "    public init(" (codingKey f) = false := by
      intro f
      rw [codingKey]
      split <;> simp [begins, after?, toString]
    rw [codingKeys]
    refine without_ite ?_ without_nil
    simp only [without_append, without_map hcase]
    simp [begins, after?]
  simp only [front, without_append, hcomment, hdeclarations, hkeys, and_true]
  simp [Lines.header, Lines.provenance, begins, after?, toString]

theorem initializers?_file {m : Model} (hm : m.properties ≠ []) (source : String) :
    Lines.initializers? (file m source) = some [printedInitializer (m.fields .ios)] := by
  have hfields : m.fields .ios ≠ [] := by
    intro h
    have hlength := congrArg List.length (map_type_fields .ios m)
    rw [h] at hlength
    exact hm (List.length_eq_zero_iff.1 (by simpa using hlength.symm))
  have hfile : file m source = front m source ++
      ("    public init(" :: ((printedInitializer (m.fields .ios)).lines ++ ["    \x7d"]) ++
        ["\x7d", ""]) := by
    rw [file, struct, indent_initializer hfields]
    simp [front]
  have hending : Without "    public init(" ["\x7d", ""] := by
    simp [begins, after?]
  rw [hfile, Lines.initializers?_cons (without_front m source) (isIndented_printed _),
    Lines.initializers?_eq_nil hending]
  rfl

theorem declared?_parameterText {p : Platform} {m : Model} {f : CodeField} (hf : f ∈ m.fields p) :
    ((named? "" (· == ':') (parameterText f)).bind fun r => Reader.declared? r.2) =
      Reader.declared? (declaredText (declared "nil" f)).toList := by
  have hname : named? "" (· == ':') (parameterText f) =
      some (f.name, (declaredText (declared "nil" f)).toList) :=
    named?_word "" ((wellNamed_fields p m).allWord f hf) (by decide) (by simp [declaredText])
  rw [hname]
  rfl

theorem declared?_file {m : Model} (hm : m.properties ≠ []) (source : String) :
    Reader.Swift.declared? (file m source) = some ((m.fields .ios).map fun f =>
      Reader.declared? (declaredText (declared "nil" f)).toList) := by
  rw [Reader.Swift.declared?, initializers?_file hm, printedInitializer]
  dsimp only [Option.bind_eq_bind, Option.bind_some]
  rw [List.map_map]
  exact congrArg some (List.map_congr_left fun f hf => declared?_parameterText hf)

end Swift

namespace Kotlin

theorem fieldType_eq (f : CodeField) : ": " ++ fieldType f = declaredText (declared "null" f) := by
  cases ho : f.isOptional <;> cases hd : f.default <;>
    simp [fieldType, declaredText, declared, ho, hd, toString, ← String.toList_inj]

theorem declaredFrom_printedFields (fields : List CodeField) :
    Reader.Kotlin.declaredFrom (printedFields fields) = fields.map fun f =>
      declared? (declaredText (declared "null" f)).toList := by
  induction fields using printedFields.induct with
  | case1 => rfl
  | case2 f =>
      rw [printedFields, Reader.Kotlin.declaredFrom, printed, String.append_empty, fieldType_eq]
      rfl
  | case3 f rest hrest ih =>
      have hcomma : before? "," (printed f ",").rest =
          some (declaredText (declared "null" f)).toList := by
        rw [printed, ← String.append_assoc, fieldType_eq, String.toList_append, before?_append]
      have hne : printedFields rest ≠ [] := by
        intro hnil
        rw [hnil] at ih
        exact hrest (List.map_eq_nil_iff.1 ih.symm)
      rw [printedFields.eq_3 f rest hrest, Reader.Kotlin.declaredFrom.eq_3 _ _ hne, hcomma, ih]
      rfl

end Kotlin

/-! ## Kinds of literals -/

/-- The kinds of literals. -/
inductive LiteralKind where
  | text
  | truth
  | number (form : Decimal.Form)
deriving DecidableEq, Repr

/-- The kind of a literal: a text in quotes, a truth value, or a number. -/
def literalKind? (s : String) : Option LiteralKind :=
  if (quotedBehind? "" s.toList).any (·.2.isEmpty) then some .text
  else if s == "true" || s == "false" then some .truth
  else (Decimal.form? s.toList).map .number

/-- The types that take literals, each with the kinds that it takes. -/
def literalTable : Platform → List (String × List LiteralKind)
  | .ios =>
    [("String", [.text]), ("Bool", [.truth]), ("Int", [.number .whole]),
      ("Int64", [.number .whole]), ("Double", [.number .whole, .number .decimal]),
      ("Float", [.number .whole, .number .decimal])]
  | .android =>
    [("String", [.text]), ("Boolean", [.truth]), ("Int", [.number .whole]),
      ("Long", [.number .whole]), ("Double", [.number .decimal])]
  | .web => []

/-- Does a type take literals of a kind? -/
def takes (p : Platform) (type : String) (kind : LiteralKind) : Bool :=
  ((literalTable p).lookup type).any (·.contains kind)

/-- The default of an optional field. -/
def nothing : Platform → String
  | .ios => "nil"
  | .android => "null"
  | .web => "undefined"

/-- Is the default, if there is one, a literal of the type? -/
def Reader.Declared.fits (p : Platform) (d : Declared) : Bool :=
  match d.default with
  | none => true
  | some literal =>
    (literal == nothing p && endsWith d.type "?") || (literalKind? literal).any (takes p d.type)

theorem literalKind?_quoted (s : String) : literalKind? (quoted s) = some .text := by
  have hread := quotedBehind?_quoted "" s []
  rw [List.append_nil, String.empty_append] at hread
  rw [literalKind?, hread]
  rfl

theorem literalKind?_truth (b : Bool) :
    literalKind? (if b then "true" else "false") = some .truth := by
  cases b <;> decide

/-- What begins like a number is neither a text nor a truth value. -/
theorem literalKind?_of_form? {s : String} {form : Decimal.Form}
    (h : Decimal.form? s.toList = some form) : literalKind? s = some (.number form) := by
  obtain ⟨c, cs, hs, hc⟩ := Decimal.head_of_form? h
  have hother : ∀ {d : Char}, (d == '-' || d.isDigit) = false → d ≠ c := by
    rintro d hd rfl
    rw [← Bool.not_eq_true] at hd
    exact hd (by simpa using hc)
  have hquote : quotedBehind? "" s.toList = none := by
    have hne : '"' ≠ c := hother rfl
    simp [quotedBehind?, hs, after?, hne]
  have hword : ∀ {d : Char} {ds : List Char} {word : String}, word.toList = d :: ds → d ≠ c →
      s ≠ word := by
    rintro d ds word hword hne rfl
    rw [hs, List.cons.injEq] at hword
    exact hne hword.1.symm
  have htrue : s ≠ "true" := hword rfl (hother rfl)
  have hfalse : s ≠ "false" := hword rfl (hother rfl)
  rw [literalKind?, hquote, h]
  simp [htrue, hfalse]

/-- A double that is not finite has no literal. -/
theorem literalKind?_float (x : Decimal.Binary64) :
    literalKind? x.text = if x.isFinite then some (.number .decimal) else none := by
  have hform := Decimal.form?_float x
  cases x with
  | nan => decide
  | infinite negative => cases negative <;> decide
  | finite negative m e => exact literalKind?_of_form? hform

/-! ## Defaults of the declared type -/

/-- Has a value the type that is declared? A number without a fraction counts as whole. -/
def hasJsonType (type : String) : Value → Bool
  | .null => type == "null"
  | .bool _ => type == "boolean"
  | .int _ => type == "integer" || type == "number"
  | .float x => type == "number" || (type == "integer" && x.toInt?.isSome)
  | .str _ => type == "string"
  | .list _ => type == "array"
  | .object _ => type == "object"
  | _ => false

/-- The kind of literal that a default has, if it has one of a kind. -/
def kindOf (type : String) : Value → Option LiteralKind
  | .bool _ => some .truth
  | .str _ => some .text
  | .int _ => some (.number (if type == "number" then .decimal else .whole))
  | .float x => if x.isFinite then some (.number .decimal) else none
  | _ => none

theorem literalKind?_defaultLiteral {type literal : String} {v : Value}
    (htype : hasJsonType type v = true) (h : defaultLiteral v type = some literal) :
    literalKind? literal = kindOf type v := by
  cases v with
  | bool b =>
      cases h
      exact literalKind?_truth b
  | str s =>
      cases h
      exact literalKind?_quoted s
  | int n =>
      cases h
      rw [kindOf]
      split
      · exact literalKind?_of_form? (Decimal.form?_int_point n)
      · exact literalKind?_of_form? (Decimal.form?_int n)
  | float x =>
      cases h
      exact literalKind?_float x
  | null => cases h
  | list xs => cases h
  | object ms => cases h
  | _ => cases htype

/-- A format gives the type a spelling from the table. -/
theorem exists_of_hasFormat {p : Platform} {type : String} {format : Option String}
    (h : TypeName.hasFormat p type format = true) :
    ∃ entry ∈ TypeName.formatTable p, entry.1.1 = type ∧
      TypeName.schema p type format = entry.2 := by
  obtain ⟨spelling, hspelling⟩ := Option.isSome_iff_exists.1 h
  obtain ⟨f, _, hf⟩ := Option.bind_eq_some_iff.1 hspelling
  exact ⟨_, mem_of_lookup_eq_some hf, rfl, by simp [TypeName.schema, TypeName.schema?, hspelling]⟩

/-- Is this a default that does not fit its type? A text is one where a format counts, a number
where it has no literal, or has a fraction for a whole type, or where a format counts in Kotlin. -/
def misfits (p : Platform) (type : String) (format : Option String) : Value → Bool
  | .str _ => TypeName.hasFormat p type format
  | .int _ => type == "number" && p == .android && TypeName.hasFormat p type format
  | .float x =>
    type == "integer" || !x.isFinite || (p == .android && TypeName.hasFormat p type format)
  | _ => false

/-- A value without a literal is no such default. -/
theorem misfits_eq_false_of_none {type : String} {v : Value} (h : defaultLiteral v type = none)
    (p : Platform) (format : Option String) : misfits p type format v = false := by
  cases v with
  | bool b => cases h
  | str s => cases h
  | int n => cases h
  | float x => cases h
  | _ => rfl

/-- Does the spelling that a format gives to a type take what the type takes by itself? -/
def takesFormatted (p : Platform) (type : String) : Bool :=
  type != "string" && (type != "number" || p == .ios)

/-- The kind of literal that each type takes by itself. -/
def plainKinds : List (String × LiteralKind) :=
  [("string", .text), ("boolean", .truth), ("integer", .number .whole), ("number", .number .decimal)]

/-- The spelling of each type by itself takes its literals, and those that formats give to it take
them or do not, all alike. -/
theorem takes_tables : ∀ p ∈ [Platform.ios, .android], ∀ pair ∈ plainKinds,
    takes p (TypeName.schema p pair.1 none) pair.2 = true ∧
      ∀ entry ∈ TypeName.formatTable p, entry.1.1 = pair.1 →
        takes p entry.2 pair.2 = takesFormatted p pair.1 := by
  decide +kernel

theorem mem_of_ne_web {p : Platform} (hp : p ≠ .web) : p ∈ [Platform.ios, .android] := by
  cases p with
  | ios => decide
  | android => decide
  | web => exact absurd rfl hp

/-- What a type takes by itself, and what it takes with a format that counts. -/
theorem takes_schema {p : Platform} (hp : p ≠ .web) {type : String} {kind : LiteralKind}
    (h : (type, kind) ∈ plainKinds) (format : Option String) :
    takes p (TypeName.schema p type format) kind =
      (takesFormatted p type || !TypeName.hasFormat p type format) := by
  obtain ⟨hplain, htable⟩ := takes_tables p (mem_of_ne_web hp) (type, kind) h
  cases hformat : TypeName.hasFormat p type format with
  | false =>
      rw [TypeName.schema_eq_schema_none_iff.2 hformat, hplain]
      simp
  | true =>
      obtain ⟨entry, hentry, htype, hschema⟩ := exists_of_hasFormat hformat
      rw [hschema, htable entry hentry htype]
      simp

/-- No spelling of a whole type takes a number with a point. -/
theorem takes_integer_decimal (p : Platform) (format : Option String) :
    takes p (TypeName.schema p "integer" format) (.number .decimal) = false := by
  cases hformat : TypeName.hasFormat p "integer" format with
  | false =>
      rw [TypeName.schema_eq_schema_none_iff.2 hformat]
      cases p <;> decide +kernel
  | true =>
      obtain ⟨entry, hentry, htype, hschema⟩ := exists_of_hasFormat hformat
      rw [hschema]
      clear hschema hformat
      revert entry
      cases p <;> decide +kernel

/-- A literal is never the one that stands for nothing. -/
theorem ne_nothing {type literal : String} {v : Value} (htype : hasJsonType type v = true)
    (h : defaultLiteral v type = some literal) (p : Platform) : literal ≠ nothing p := by
  rintro rfl
  have hkind := literalKind?_defaultLiteral htype h
  have hnothing : literalKind? (nothing p) = none := by
    cases p <;> decide
  rw [hnothing] at hkind
  cases v with
  | float x =>
      have htext : x.text ≠ nothing p := by
        cases x with
        | nan => cases p <;> decide
        | infinite negative => cases negative <;> cases p <;> decide
        | finite negative m e => cases hkind
      exact htext (Option.some_inj.1 h)
  | bool b => cases hkind
  | str s => cases hkind
  | int n => cases hkind
  | null => cases h
  | list xs => cases h
  | object ms => cases h
  | _ => cases htype

/-- The kind of the literal is taken by the type unless the default is one that does not fit. -/
theorem any_takes_iff {p : Platform} (hp : p ≠ .web) {type : String} {v : Value}
    (format : Option String) (htype : hasJsonType type v = true) {literal : String}
    (h : defaultLiteral v type = some literal) :
    (kindOf type v).any (takes p (TypeName.schema p type format)) = true ↔
      misfits p type format v = false := by
  have htext := takes_schema hp (by decide : ("string", .text) ∈ plainKinds) format
  have htruth := takes_schema hp (by decide : ("boolean", .truth) ∈ plainKinds) format
  have hwhole := takes_schema hp (by decide : ("integer", .number .whole) ∈ plainKinds) format
  have hdecimal := takes_schema hp (by decide : ("number", .number .decimal) ∈ plainKinds) format
  have hpoint := takes_integer_decimal p format
  have hformatted : takesFormatted p "string" = false ∧ takesFormatted p "boolean" = true ∧
      takesFormatted p "integer" = true ∧ takesFormatted p "number" = !(p == .android) := by
    cases p with
    | ios => decide
    | android => decide
    | web => exact absurd rfl hp
  obtain ⟨hstring, hboolean, hinteger, hnumber⟩ := hformatted
  cases v with
  | bool b =>
      obtain rfl : type = "boolean" := beq_iff_eq.1 htype
      simp [kindOf, misfits, htruth, hboolean]
  | str s =>
      obtain rfl : type = "string" := beq_iff_eq.1 htype
      simp [kindOf, misfits, htext, hstring]
  | int n =>
      rcases Bool.or_eq_true_iff.1 htype with h | h
      · obtain rfl : type = "integer" := beq_iff_eq.1 h
        simp [kindOf, misfits, hwhole, hinteger]
      · obtain rfl : type = "number" := beq_iff_eq.1 h
        simp [kindOf, misfits, hdecimal, hnumber, imp_iff_not_or]
  | float x =>
      cases hfinite : x.isFinite with
      | false => simp [kindOf, misfits, hfinite]
      | true =>
          rcases Bool.or_eq_true_iff.1 htype with h | h
          · obtain rfl : type = "number" := beq_iff_eq.1 h
            simp [kindOf, misfits, hfinite, hdecimal, hnumber, imp_iff_not_or]
          · obtain rfl : type = "integer" := beq_iff_eq.1 (Bool.and_eq_true_iff.1 h).1
            simp [kindOf, misfits, hfinite, hpoint]
  | null => cases h
  | list xs => cases h
  | object ms => cases h
  | _ => cases htype

/-- The default of a property fits its type, unless a format counts that the literal knows nothing
of or the number has no literal. -/
theorem fits_ofProperty {p : Platform} (hp : p ≠ .web) {prop : Property} (name : String)
    (htype : prop.isOptional = true ∨ prop.isArray = true ∨
      hasJsonType prop.type prop.default = true) :
    (declared (nothing p) (CodeField.ofProperty p prop name)).fits p = true ↔
      prop.isOptional = true ∨ prop.isArray = true ∨
        misfits p prop.type prop.format prop.default = false := by
  cases ho : prop.isOptional with
  | true =>
      have hmark : endsWith (prop.spelling p ++ "?") "?" = true := by
        simp [endsWith, beginsWith]
      simp [declared, CodeField.ofProperty, ho, Declared.fits, hmark]
  | false =>
      cases ha : prop.isArray with
      | true => simp [declared, CodeField.ofProperty, ho, ha, Declared.fits]
      | false =>
          rw [ho, ha] at htype
          simp only [Bool.false_eq_true, false_or] at htype ⊢
          have hspelling : prop.spelling p = TypeName.schema p prop.type prop.format := by
            rw [Property.spelling, TypeName.field, ha]
            rfl
          cases hliteral : defaultLiteral prop.default prop.type with
          | none =>
              have hmisfits := misfits_eq_false_of_none hliteral p prop.format
              simp [declared, CodeField.ofProperty, ho, ha, Declared.fits, hliteral, hmisfits]
          | some literal =>
              have hne := ne_nothing htype hliteral p
              have hkind := literalKind?_defaultLiteral htype hliteral
              rw [← any_takes_iff hp prop.format htype hliteral, ← hkind, ← hspelling]
              simp [declared, CodeField.ofProperty, ho, ha, Declared.fits, hliteral, hne]

theorem forall₂_fields {R : Property → CodeField → Prop} {p : Platform}
    (h : ∀ prop name, R prop (CodeField.ofProperty p prop name)) (m : Model) :
    List.Forall₂ R m.properties (m.fields p) := by
  have hzip : ∀ {props : List Property} {names : List String}, names.length = props.length →
      List.Forall₂ R props (List.zipWith (CodeField.ofProperty p) props names) := by
    intro props
    induction props with
    | nil => exact fun _ => .nil
    | cons prop props ih =>
        intro names hlength
        obtain ⟨name, names, rfl⟩ := List.exists_cons_of_length_eq_add_one hlength
        exact .cons (h prop name) (ih (Nat.succ.inj hlength))
  exact hzip m.length_identifiers

/-- A value has only types that are spelled as types. -/
theorem isType_of_hasJsonType {type : String} {v : Value} (h : hasJsonType type v = true) :
    IsType type := by
  have htypes : ∀ type ∈ ["null", "boolean", "integer", "number", "string", "array", "object"],
      IsType type := by
    decide
  refine htypes type ?_
  cases v <;> simp [hasJsonType] at h ⊢ <;> tauto

/-- In the code of the model of a schema, the default of each property that is of the declared type
fits the type of its field, except for texts with a format that has a type of its own, for numbers
that are not finite, for whole numbers with a point, and for numbers of the format `float` in
Kotlin. Optional properties and arrays have no literals as defaults. -/
theorem defaults_fit_iff {schema : Value} {m : Model} (h : ofSchema schema = .ok m) {p : Platform}
    (hp : p ≠ .web) (source : String) :
    (propertyMembers schema).mapM (fun member =>
      schemaProperty (((schema.member? "required").getD .null).orElse (.list [])) member.1
        member.2) = .ok m.properties ∧
    (m.properties ≠ [] → ∃ declared, declaredIn? p (m.code p source) = some declared ∧
      List.Forall₂ (fun prop read =>
        hasJsonType prop.type prop.default = true ∨
          IsType prop.type ∧ (prop.isOptional = true ∨ prop.isArray = true) →
        ∃ d, read = some d ∧ (d.fits p = true ↔ prop.isOptional = true ∨ prop.isArray = true ∨
          misfits p prop.type prop.format prop.default = false)) m.properties declared) := by
  refine ⟨properties_of_ofSchema h, fun hm => ⟨(m.fields p).map fun f =>
    declared? (declaredText (declared (nothing p) f)).toList, ?_, ?_⟩⟩
  · cases p with
    | ios => exact Swift.declared?_file hm source
    | android =>
        rw [declaredIn?, code, Kotlin.fields?_file]
        exact congrArg some (Kotlin.declaredFrom_printedFields (m.fields .android))
    | web => exact absurd rfl hp
  · rw [List.forall₂_map_right_iff]
    refine forall₂_fields (fun prop name hprop => ?_) m
    have htype : IsType prop.type := hprop.elim isType_of_hasJsonType And.left
    have hfield : IsType (CodeField.ofProperty p prop name).type :=
      TypeName.isType_field htype p prop.isArray prop.format
    refine ⟨_, declared?_declaredText hfield (nothing p), fits_ofProperty hp name ?_⟩
    rcases hprop with hjson | ⟨_, hother⟩
    · exact .inr (.inr hjson)
    · exact hother.imp_right .inl

/-- A schema with a default for each type. -/
def settingsSchema : Value :=
  .record [("type", .str "object"), ("title", .str "Settings"),
    ("required", .list [.str "name", .str "count", .str "ratio", .str "active"]),
    ("properties", .record [
      ("name", .record [("type", .str "string"), ("default", .str "x")]),
      ("count", .record [("type", .str "integer"), ("format", .str "int64"), ("default", .int 5)]),
      ("ratio", .record [("type", .str "number"), ("default", .int 1)]),
      ("active", .record [("type", .str "boolean"), ("default", .bool true)])])]

theorem defaults_fit_settingsSchema : ∃ m, ofSchema settingsSchema = .ok m ∧
    ∀ p ∈ [Platform.ios, .android], ∃ declared,
      declaredIn? p (m.code p "settings.json") = some declared ∧
      declared.length = 4 ∧ ∀ read ∈ declared, ∃ d, read = some d ∧ d.fits p = true := by
  obtain ⟨m, hok, hlength, hprop⟩ : ∃ m, ofSchema settingsSchema = .ok m ∧
      m.properties.length = 4 ∧ ∀ prop ∈ m.properties,
        hasJsonType prop.type prop.default = true ∧
        ∀ p ∈ [Platform.ios, .android], misfits p prop.type prop.format prop.default = false :=
    exists_ok_of_any (by decide +kernel)
  refine ⟨m, hok, fun p hp => ?_⟩
  have hweb : p ≠ .web := by
    rintro rfl
    exact absurd hp (by decide)
  obtain ⟨declared, hread, hfits⟩ := (defaults_fit_iff hok hweb "settings.json").2
    (by rw [← List.length_pos_iff, hlength]; decide)
  refine ⟨declared, hread, by rw [← hfits.length_eq, hlength], fun d hd => ?_⟩
  obtain ⟨prop, hmem, hread⟩ := exists_of_forall₂_of_mem hfits hd
  obtain ⟨htype, hnone⟩ := hprop prop hmem
  obtain ⟨d, hd, hfit⟩ := hread (.inl htype)
  exact ⟨d, hd, hfit.2 (.inr (.inr (hnone p hp)))⟩

/-- A schema with a default for a point in time. -/
def eventSchema : Value :=
  .record [("type", .str "object"), ("title", .str "Event"), ("required", .list [.str "start"]),
    ("properties", .record [
      ("start", .record [("type", .str "string"), ("format", .str "date-time"),
        ("default", .str "2024-01-01T00:00:00Z")])])]

/-- In Swift the default is a text, and the type is that of points in time. -/
theorem not_defaults_fit_eventSchema : ∃ m prop, ofSchema eventSchema = .ok m ∧
    m.properties = [prop] ∧ hasJsonType prop.type prop.default = true ∧
    ∃ d, declaredIn? .ios (m.code .ios "event.json") = some [some d] ∧
      d = ⟨"Date", some "\"2024-01-01T00:00:00Z\""⟩ ∧ d.fits .ios = false := by
  have hread : Option.bind (ofSchema eventSchema).toOption (fun m =>
      declaredIn? .ios (m.code .ios "event.json")) =
        some [some ⟨"Date", some "\"2024-01-01T00:00:00Z\""⟩] := by
    decide +kernel
  refine ⟨_, _, rfl, rfl, by decide +kernel, _, hread, rfl, by decide +kernel⟩

end SpecForge.Model
