import SpecForge.Generator
import SpecForge.Proofs.Api.Spot
import SpecForge.Proofs.Api.TypeScript

/-!
# Where types stand in the code of a client

The type of every spot is printed: in the block of its model or of its method there is a line in
which the type stands between what opens the declaration and what closes it. Nothing of the type is
cut off, and nothing is put before or behind it but the mark of an optional value.
-/

namespace SpecForge

/-- What stands around a type: a text before it, and the texts that may come after it. -/
structure Frame where
  opening : String
  closings : List String

/-- A text holds a type in its frame. -/
def Frame.Holds (frame : Frame) (type text : String) : Prop :=
  ∃ closing ∈ frame.closings, (frame.opening ++ type ++ closing).toList <:+: text.toList

theorem Frame.Holds.of_isInfix {frame : Frame} {type text text' : String}
    (h : frame.Holds type text) (hin : text.toList <:+: text'.toList) :
    frame.Holds type text' := by
  obtain ⟨closing, hclosing, hpart⟩ := h
  exact ⟨closing, hclosing, hpart.trans hin⟩

theorem Frame.holds_of_eq {frame : Frame} {type text : String} (front closing back : String)
    (hclosing : closing ∈ frame.closings)
    (h : text = front ++ (frame.opening ++ type ++ closing) ++ back) : frame.Holds type text := by
  refine ⟨closing, hclosing, front.toList, back.toList, ?_⟩
  rw [h]
  simp

/-- An item of a list stands in it before a separator or at the end. -/
theorem exists_intercalate (sep : String) {text : String} {texts : List String}
    (h : text ∈ texts) : ∃ front back, sep.intercalate texts = front ++ text ++ back ∧
      (back = "" ∨ ∃ rest, back = sep ++ rest) := by
  induction texts with
  | nil => exact absurd h List.not_mem_nil
  | cons other texts ih =>
      rcases List.mem_cons.1 h with rfl | h
      · cases texts with
        | nil => exact ⟨"", "", by simp, .inl rfl⟩
        | cons next texts =>
            refine ⟨"", sep ++ sep.intercalate (next :: texts), ?_, .inr ⟨_, rfl⟩⟩
            rw [String.intercalate_cons_of_ne_nil (List.cons_ne_nil _ _)]
            simp [String.append_assoc]
      · obtain ⟨front, back, heq, hback⟩ := ih h
        refine ⟨other ++ sep ++ front, back, ?_, hback⟩
        rw [String.intercalate_cons_of_ne_nil (List.ne_nil_of_mem h), heq]
        simp [String.append_assoc]

theorem infix_intercalate (sep : String) {text : String} {texts : List String} (h : text ∈ texts) :
    text.toList <:+: (sep.intercalate texts).toList := by
  obtain ⟨front, back, heq, _⟩ := exists_intercalate sep h
  refine ⟨front.toList, back.toList, ?_⟩
  rw [heq, String.toList_append, String.toList_append]

/-- In a list a type is closed by the next separator or by what follows the list. -/
theorem Frame.holds_listed {frame : Frame} {type : String} {texts : List String}
    (sep ending : String) (hsep : sep ∈ frame.closings) (hending : ending ∈ frame.closings)
    (h : frame.opening ++ type ∈ texts) : frame.Holds type (sep.intercalate texts ++ ending) := by
  obtain ⟨front, back, heq, rfl | ⟨rest, rfl⟩⟩ := exists_intercalate sep h
  · refine holds_of_eq front _ "" hending ?_
    rw [heq]
    simp [String.append_assoc]
  · refine holds_of_eq front _ (rest ++ ending) hsep ?_
    rw [heq]
    simp [String.append_assoc]

theorem Lines.mem_shifted (blanks : String) {line : String} {lines : Lines} (h : line ∈ lines)
    (hne : line ≠ "") : blanks ++ line ∈ shifted blanks lines := by
  refine List.mem_map.2 ⟨line, h, if_neg ?_⟩
  rw [String.isEmpty_iff]
  exact hne

theorem Lines.exists_mem_commaSeparated {line : String} {lines : Lines} (h : line ∈ lines) :
    ∃ comma, (comma = "" ∨ comma = ",") ∧ line ++ comma ∈ commaSeparated lines := by
  induction lines using commaSeparated.induct with
  | case1 => exact absurd h List.not_mem_nil
  | case2 other =>
      rw [List.mem_singleton.1 h, commaSeparated]
      exact ⟨"", .inl rfl, by simp⟩
  | case3 other rest hrest ih =>
      rw [commaSeparated.eq_3 other rest hrest]
      rcases List.mem_cons.1 h with rfl | h
      · exact ⟨",", .inr rfl, List.mem_cons_self⟩
      · obtain ⟨comma, hcomma, hmem⟩ := ih h
        exact ⟨comma, hcomma, List.mem_cons_of_mem _ hmem⟩

theorem infix_flatMap {α β : Type} (f : α → List β) {a : α} {l : List α} (h : a ∈ l) :
    f a <:+: l.flatMap f := by
  rw [List.flatMap_def]
  exact List.infix_of_mem_flatten (List.mem_map_of_mem h)

/-! ### Fields of models -/

namespace Model

theorem mem_fields {m : Model} {prop : Property} {name : String}
    (h : (prop, name) ∈ m.properties.zip m.identifiers) (p : Platform) :
    CodeField.ofProperty p prop name ∈ m.fields p := by
  rw [fields, ← List.map_uncurry_zip_eq_zipWith]
  exact List.mem_map_of_mem h

namespace Swift

theorem holds_field {m : Model} {f : CodeField} (hf : f ∈ m.fields .ios) :
    ∃ line ∈ struct m,
      Frame.Holds ⟨"    public let " ++ f.name ++ ": ", ["\n", "?\n"]⟩ f.type (line ++ "\n") := by
  refine ⟨s!"    public let {f.name}: {fieldType f}", ?_, ?_⟩
  · have hdeclaration : s!"    public let {f.name}: {fieldType f}" ∈ declaration f := by
      simp [declaration]
    have hmem := List.mem_flatMap.2 ⟨f, hf, hdeclaration⟩
    simp only [struct, List.mem_append]
    tauto
  · unfold fieldType
    split
    · refine Frame.holds_of_eq "" "?\n" "" (by simp) ?_
      simp [toString, String.append_assoc]
    · refine Frame.holds_of_eq "" "\n" "" (by simp) ?_
      simp [toString, String.append_assoc]

end Swift

namespace Kotlin

/-- Among the lines of the fields are those of each of them, perhaps with a comma at the end. -/
theorem exists_infix_declarations {fields : List CodeField} {f : CodeField} (h : f ∈ fields) :
    ∃ comma, (comma = "" ∨ comma = ",") ∧
      annotations f ++ [declaration f ++ comma] <:+: declarations fields := by
  induction fields using declarations.induct with
  | case1 => exact absurd h List.not_mem_nil
  | case2 other =>
      rw [List.mem_singleton.1 h, declarations]
      have hline : declaration other ++ "" = declaration other := String.append_empty
      exact ⟨"", .inl rfl, hline.symm ▸ List.infix_rfl⟩
  | case3 other rest hrest ih =>
      rw [declarations.eq_3 other rest hrest]
      rcases List.mem_cons.1 h with rfl | h
      · exact ⟨",", .inr rfl, (List.prefix_append _ _).isInfix⟩
      · obtain ⟨comma, hcomma, hpart⟩ := ih h
        exact ⟨comma, hcomma, List.infix_append_of_infix_right hpart⟩

/-- A line of the fields stands in the class, one level to the right. -/
theorem mem_dataClass {m : Model} {f : CodeField} (hf : f ∈ m.fields .android) {line : String}
    (h : line ∈ declarations (m.fields .android)) (hne : line ≠ "") :
    "    " ++ line ∈ dataClass m := by
  have hsome : ¬ (m.fields .android).isEmpty = true := by
    rw [List.isEmpty_iff]
    exact List.ne_nil_of_mem hf
  simp only [dataClass, if_neg hsome, List.mem_append]
  exact .inr (.inl (.inr (Lines.mem_shifted "    " h hne)))

theorem holds_field {m : Model} {f : CodeField} (hf : f ∈ m.fields .android) :
    ∃ line ∈ dataClass m, Frame.Holds
      ⟨"    val " ++ f.name ++ ": ", ["\n", ",\n", " = ", "? = null"]⟩ f.type (line ++ "\n") := by
  obtain ⟨comma, hcomma, hpart⟩ := exists_infix_declarations hf
  refine ⟨"    " ++ (declaration f ++ comma), ?_, ?_⟩
  · exact mem_dataClass hf (hpart.subset (by simp)) (by simp [declaration, toString])
  · unfold declaration fieldType
    split
    · refine Frame.holds_of_eq "" "? = null" (comma ++ "\n") (by simp) ?_
      simp [← String.toList_inj, toString]
    · split
      · rename_i literal _
        refine Frame.holds_of_eq "" " = " (literal ++ comma ++ "\n") (by simp) ?_
        simp [← String.toList_inj, toString]
      · refine Frame.holds_of_eq "" (comma ++ "\n") "" ?_ ?_
        · rcases hcomma with rfl | rfl <;> simp
        · simp [← String.toList_inj, toString]

end Kotlin

namespace TypeScript

theorem holds_field {m : Model} {prop : Property} (hprop : prop ∈ m.properties) :
    ∃ line ∈ interface m, Frame.Holds
      ⟨"  " ++ key prop.name ++ optionalMark prop.isOptional ++ ": ", [";\n"]⟩
        (prop.spelling .web) (line ++ "\n") := by
  refine ⟨s!"  {key prop.name}{optionalMark prop.isOptional}: {prop.spelling .web};", ?_, ?_⟩
  · have hmember : s!"  {key prop.name}{optionalMark prop.isOptional}: {prop.spelling .web};" ∈
        member prop := by
      simp [member]
    have hmem := List.mem_flatMap.2 ⟨prop, hprop, hmember⟩
    simp only [interface, List.mem_append]
    tauto
  · refine Frame.holds_of_eq "" ";\n" "" (by simp) ?_
    simp [toString, String.append_assoc]

end TypeScript

end Model

/-! ### Arguments, bodies and answers of methods -/

namespace Api

namespace Swift

theorem signature_mem (client : String) (e : Endpoint) :
    "    " ++ signature e ∈ Lines.indent (method client e) 1 := by
  refine List.mem_map.2 ⟨signature e, by simp [method], if_neg ?_⟩
  rw [String.isEmpty_iff]
  unfold signature
  simp [toString]

theorem holds_argument {e : Endpoint} {a : Argument} (ha : a ∈ arguments e) :
    Frame.Holds ⟨a.name ++ ": ", [", ", ")", "? = nil"]⟩ a.type ("    " ++ signature e ++ "\n") := by
  have htext : a.text ∈ (arguments e).map Argument.text := List.mem_map_of_mem ha
  have hsignature : (", ".intercalate ((arguments e).map Argument.text) ++ ")").toList <:+:
      ("    " ++ signature e ++ "\n").toList := by
    refine ⟨("    public func " ++ e.methodName ++ "(").toList,
      (" async throws" ++ returns e ++ " \x7b\n").toList, ?_⟩
    unfold signature
    simp [toString]
  refine Frame.Holds.of_isInfix ?_ hsignature
  unfold Argument.text at htext ⊢
  split at htext
  · refine Frame.Holds.of_isInfix (Frame.holds_of_eq "" "? = nil" ""
      (by simp) ?_) ((infix_intercalate ", " htext).trans ?_)
    · simp [toString]
    · exact ⟨[], ")".toList, by simp⟩
  · refine Frame.holds_listed ", " ")" (by simp) (by simp) ?_
    simpa [toString, String.append_assoc] using htext

theorem holds_answer {e : Endpoint} {type : String} (h : e.answer? .ios = some type) :
    Frame.Holds ⟨") async throws -> ", [" \x7b\n"]⟩ type ("    " ++ signature e ++ "\n") := by
  refine Frame.holds_of_eq ("    public func " ++ e.methodName ++ "(" ++
    ", ".intercalate ((arguments e).map Argument.text)) " \x7b\n" "" (by simp) ?_
  unfold signature returns
  simp [← String.toList_inj, h, toString]

end Swift

namespace Kotlin

/-- The annotation of the parameters at a place. -/
def placeMarker : Location → String
  | .path => "Path"
  | .query => "Query"
  | .header => "Header"

/-- What stands in front of the type of an argument. -/
def Argument.opening (a : Argument) : String :=
  "@" ++ a.marker ++ (a.key.map fun key => "(" ++ quoted key ++ ")").getD "" ++ " " ++ a.name ++ ": "

theorem opening_argumentOf (place : Location) (mayMiss : Bool) (param : Parameter) :
    (argumentOf (placeMarker place) mayMiss param).opening =
      "@" ++ placeMarker place ++ ("(" ++ quoted param.name ++ ")") ++ " " ++ param.identifier ++
        ": " := rfl

theorem opening_bodyArgument (body : RequestBody) :
    (bodyArgument body).opening = "@Body body: " := by
  simp [Argument.opening, bodyArgument]

theorem argumentText_eq (a : Argument) :
    a.text = a.opening ++ a.type ++ if a.isOptional then "? = null" else "" := by
  unfold Argument.text Argument.opening
  cases a.key <;> cases a.isOptional <;> simp [← String.toList_inj, toString]

/-- An argument has a line of its own in the function, perhaps with a comma at the end. -/
theorem exists_mem_function {e : Endpoint} {a : Argument} (ha : a ∈ arguments e) :
    ∃ comma, (comma = "" ∨ comma = ",") ∧
      "    " ++ ("    " ++ (a.text ++ comma)) ∈ Lines.indent (function e) 1 := by
  have htext : a.text ∈ (arguments e).map Argument.text := List.mem_map_of_mem ha
  have hempty : ¬ ((arguments e).map Argument.text).isEmpty = true := by
    rw [List.isEmpty_iff]
    exact List.ne_nil_of_mem htext
  obtain ⟨comma, hcomma, hmem⟩ := Lines.exists_mem_commaSeparated htext
  refine ⟨comma, hcomma, Lines.mem_shifted _ ?_ (by simp)⟩
  have hargument := List.mem_map_of_mem (f := fun line => "    " ++ line) hmem
  simp only [function, if_neg hempty, List.mem_append]
  exact .inr (.inl (.inr hargument))

theorem holds_argument {e : Endpoint} {a : Argument} (ha : a ∈ arguments e) :
    ∃ line ∈ Lines.indent (function e) 1,
      Frame.Holds ⟨a.opening, ["\n", ",\n", "? = null"]⟩ a.type (line ++ "\n") := by
  obtain ⟨comma, hcomma, hmem⟩ := exists_mem_function ha
  refine ⟨_, hmem, ?_⟩
  rw [argumentText_eq]
  split
  · refine Frame.holds_of_eq "        " "? = null" (comma ++ "\n") (by simp) ?_
    simp [← String.toList_inj]
  · refine Frame.holds_of_eq "        " (comma ++ "\n") "" ?_ ?_
    · rcases hcomma with rfl | rfl <;> simp
    · simp [← String.toList_inj]

theorem holds_answer {e : Endpoint} {type : String} (h : e.answer? .android = some type) :
    ∃ line ∈ Lines.indent (function e) 1, Frame.Holds ⟨"): ", ["\n"]⟩ type (line ++ "\n") := by
  by_cases hempty : ((arguments e).map Argument.text).isEmpty = true
  · refine ⟨"    " ++ s!"suspend fun {e.methodName}(){returns e}", Lines.mem_shifted _ ?_ ?_, ?_⟩
    · simp [function, hempty]
    · simp [toString]
    · refine Frame.holds_of_eq ("    suspend fun " ++ e.methodName ++ "(")
        "\n" "" (by simp) ?_
      simp [← String.toList_inj, returns, h, toString]
  · refine ⟨"    " ++ s!"){returns e}", Lines.mem_shifted _ ?_ ?_, ?_⟩
    · simp [function, hempty]
    · simp [toString]
    · refine Frame.holds_of_eq "    " "\n" "" (by simp) ?_
      simp [← String.toList_inj, returns, h, toString]

end Kotlin

namespace TypeScript

theorem declaration_mem (e : Endpoint) :
    "  " ++ declaration e ∈ Lines.shifted "  " (method e) := by
  rw [shifted_method]
  exact List.mem_cons_of_mem _ List.mem_cons_self

/-- The list of the arguments stands in the declaration of a method, up to the closing bracket. -/
theorem infix_declaration (e : Endpoint) :
    (", ".intercalate ((arguments e).map Argument.text) ++ ")").toList <:+:
      ("  " ++ declaration e ++ "\n").toList := by
  refine ⟨("  async " ++ e.methodName ++ "(").toList,
    (": Promise<" ++ answer e ++ "> \x7b\n").toList, ?_⟩
  simp [declaration]

theorem holds_of_text_mem {e : Endpoint} {frame : Frame} {type : String}
    (hcomma : ", " ∈ frame.closings) (hbracket : ")" ∈ frame.closings)
    (h : frame.opening ++ type ∈ (arguments e).map Argument.text) :
    frame.Holds type ("  " ++ declaration e ++ "\n") :=
  (Frame.holds_listed _ _ hcomma hbracket h).of_isInfix (infix_declaration e)

theorem holds_pathArgument {e : Endpoint} {param : Parameter} (hparam : param ∈ e.pathParams) :
    Frame.Holds ⟨param.identifier ++ ": ", [", ", ")"]⟩ (param.spelling .web)
      ("  " ++ declaration e ++ "\n") := by
  refine holds_of_text_mem (by simp) (by simp) (List.mem_map.2 ⟨pathArgument param, ?_, ?_⟩)
  · simp only [arguments, List.append_assoc]
    exact List.mem_append_left _ (List.mem_map_of_mem hparam)
  · simp [pathArgument, Argument.text, toString]

theorem holds_objectArgument {e : Endpoint} {label : String} {params : List Parameter}
    (hobject : ∀ a ∈ objectArgument label params, a ∈ arguments e) {param : Parameter}
    (hparam : param ∈ params) :
    Frame.Holds ⟨Model.TypeScript.key param.name ++
      Model.TypeScript.optionalMark (!param.isRequired) ++ ": ", ["; ", " \x7d"]⟩
        (param.spelling .web) ("  " ++ declaration e ++ "\n") := by
  obtain ⟨mark, _, htext⟩ := objectArgument_text label (List.ne_nil_of_mem hparam)
  obtain ⟨a, ha, hatext⟩ := List.mem_map.1 (htext ▸ List.mem_singleton_self _)
  have hargument : a.text ∈ (arguments e).map Argument.text := List.mem_map_of_mem (hobject a ha)
  have hfields : ("; ".intercalate (params.map fieldText) ++ " \x7d").toList <:+: a.text.toList := by
    refine ⟨(label ++ ": \x7b ").toList, mark.toList, ?_⟩
    rw [hatext]
    simp
  have hlist : (", ".intercalate ((arguments e).map Argument.text)).toList <:+:
      (", ".intercalate ((arguments e).map Argument.text) ++ ")").toList :=
    ⟨[], ")".toList, by simp⟩
  have hdeclaration := (infix_intercalate ", " hargument).trans (hlist.trans (infix_declaration e))
  refine Frame.Holds.of_isInfix (Frame.holds_listed "; " " \x7d" (by simp)
    (by simp) ?_) (hfields.trans hdeclaration)
  exact List.mem_map_of_mem hparam

theorem query_subset {e : Endpoint} :
    ∀ a ∈ objectArgument "query" e.queryParams, a ∈ arguments e := by
  intro a ha
  simp only [arguments, List.mem_append]
  exact .inl (.inl (.inr ha))

theorem headers_subset {e : Endpoint} :
    ∀ a ∈ objectArgument "headers" e.headerParams, a ∈ arguments e := by
  intro a ha
  simp only [arguments, List.mem_append]
  exact .inl (.inr ha)

theorem holds_bodyArgument {e : Endpoint} {body : RequestBody} (hbody : e.body = some body) :
    Frame.Holds ⟨"body" ++ Model.TypeScript.optionalMark (!body.isRequired) ++ ": ", [", ", ")"]⟩
      (body.spelling .web) ("  " ++ declaration e ++ "\n") := by
  refine holds_of_text_mem (by simp) (by simp) ?_
  cases hrequired : body.isRequired with
  | true =>
      refine List.mem_map.2 ⟨⟨"body", body.spelling .web, .never⟩, ?_, ?_⟩
      · simp [arguments, bodyArgument, hbody, hrequired]
      · simp [Argument.text, Model.TypeScript.optionalMark, toString]
  | false =>
      refine List.mem_map.2 ⟨⟨"body", body.spelling .web, .marked⟩, ?_, ?_⟩
      · simp [arguments, bodyArgument, hbody, hrequired]
      · simp [Argument.text, Model.TypeScript.optionalMark, toString]

theorem holds_answer {e : Endpoint} {type : String} (h : e.answer? .web = some type) :
    Frame.Holds ⟨"): Promise<", ["> \x7b\n"]⟩ type ("  " ++ declaration e ++ "\n") := by
  refine Frame.holds_of_eq ("  async " ++ e.methodName ++ "(" ++
    ", ".intercalate ((arguments e).map Argument.text)) "> \x7b\n" "" (by simp) ?_
  simp [← String.toList_inj, declaration, answer, h]

end TypeScript

/-! ### Blocks and frames -/

/-- The lines of a model in a client. -/
def modelBlock (p : Platform) (m : Model) : Lines :=
  match p with
  | .ios => Model.Swift.struct m
  | .android => Model.Kotlin.dataClass m
  | .web => Model.TypeScript.interface m

/-- The lines of a method in a client. -/
def methodBlock (p : Platform) (api : Api) (e : Endpoint) : Lines :=
  match p with
  | .ios => Lines.indent (Swift.method api.clientName e) 1
  | .android => Lines.indent (Kotlin.function e) 1
  | .web => Lines.shifted "  " (TypeScript.method e)

theorem modelBlock_isInfix {api : Api} {m : Model} (hm : m ∈ api.models) (p : Platform)
    (source : String) : modelBlock p m <:+: api.code p source := by
  cases p with
  | ios =>
      have hne : ¬ api.models.isEmpty = true := by
        rw [List.isEmpty_iff]
        exact List.ne_nil_of_mem hm
      have hmodels : modelBlock .ios m <:+: Swift.models api := by
        rw [Swift.models, if_neg hne]
        exact List.infix_append_of_infix_right (infix_flatMap Model.Swift.struct hm)
      exact List.infix_append_of_infix_right hmodels
  | android => exact List.infix_append_of_infix_right (infix_flatMap Model.Kotlin.dataClass hm)
  | web =>
      have hmodels : modelBlock .web m <:+:
          Lines.header source ++ api.models.flatMap Model.TypeScript.interface :=
        List.infix_append_of_infix_right (infix_flatMap Model.TypeScript.interface hm)
      -- behind the models stand the errors, the class, its methods, the transport and its end
      exact List.infix_append_of_infix_left (List.infix_append_of_infix_left
        (List.infix_append_of_infix_left (List.infix_append_of_infix_left
          (List.infix_append_of_infix_left hmodels))))

theorem methodBlock_isInfix {api : Api} {e : Endpoint} (he : e ∈ api.endpoints) (p : Platform)
    (source : String) : methodBlock p api e <:+: api.code p source := by
  have hblock : methodBlock p api e <:+:
      api.endpoints.flatMap fun e => methodBlock p api e ++ [""] :=
    (List.prefix_append _ [""]).isInfix.trans
      (infix_flatMap (fun e => methodBlock p api e ++ [""]) he)
  -- the methods stand before the transport and the models on iOS, and before one more part elsewhere
  cases p with
  | ios =>
      exact List.infix_append_of_infix_left (List.infix_append_of_infix_left
        (List.infix_append_of_infix_left (List.infix_append_of_infix_right hblock)))
  | android =>
      exact List.infix_append_of_infix_left (List.infix_append_of_infix_left
        (List.infix_append_of_infix_right hblock))
  | web =>
      exact List.infix_append_of_infix_left (List.infix_append_of_infix_left
        (List.infix_append_of_infix_right hblock))

/-- The line that declares the type of a model. -/
def modelHead (p : Platform) (m : Model) : String :=
  match p with
  | .ios => s!"public struct {m.name}: Codable \x7b"
  | .android => if m.properties.isEmpty then s!"class {m.name}" else s!"data class {m.name}("
  | .web => s!"export interface {m.name} \x7b"

theorem modelHead_mem (p : Platform) (m : Model) : modelHead p m ∈ modelBlock p m := by
  unfold modelHead modelBlock
  cases p with
  | ios =>
      unfold Model.Swift.struct
      simp only [List.append_assoc]
      exact List.mem_append_right _ (List.mem_append_left _ (List.mem_singleton_self _))
  | android =>
      have hempty : (m.fields .android).isEmpty = m.properties.isEmpty := by
        have hlength := congrArg List.length (m.map_type_fields .android)
        rw [List.length_map, List.length_map] at hlength
        rw [Bool.eq_iff_iff, List.isEmpty_iff_length_eq_zero, List.isEmpty_iff_length_eq_zero,
          hlength]
      unfold Model.Kotlin.dataClass
      dsimp only
      rw [hempty]
      split
      · simp
      · simp
  | web =>
      unfold Model.TypeScript.interface
      simp only [List.append_assoc]
      exact List.mem_append_right _ (List.mem_append_left _ (List.mem_singleton_self _))

namespace Spot

/-- The lines that a spot stands in. -/
def block (p : Platform) (api : Api) : Spot → Lines
  | field m _ _ => modelBlock p m
  | argument e _ _ => methodBlock p api e
  | body e _ => methodBlock p api e
  | answer e _ => methodBlock p api e

/-- What stands around the type of a field. -/
def fieldFrame (prop : Property) (name : String) : Platform → Frame
  | .ios => ⟨"    public let " ++ name ++ ": ", ["\n", "?\n"]⟩
  | .android => ⟨"    val " ++ name ++ ": ", ["\n", ",\n", " = ", "? = null"]⟩
  | .web =>
    ⟨"  " ++ Model.TypeScript.key prop.name ++ Model.TypeScript.optionalMark prop.isOptional ++ ": ",
      [";\n"]⟩

/-- What stands around the type of a parameter. -/
def argumentFrame (place : Location) (param : Parameter) : Platform → Frame
  | .ios => ⟨param.identifier ++ ": ", [", ", ")", "? = nil"]⟩
  | .android =>
    ⟨"@" ++ Kotlin.placeMarker place ++ ("(" ++ quoted param.name ++ ")") ++ " " ++
      param.identifier ++ ": ", ["\n", ",\n", "? = null"]⟩
  | .web => match place with
    | .path => ⟨param.identifier ++ ": ", [", ", ")"]⟩
    | _ =>
      ⟨Model.TypeScript.key param.name ++ Model.TypeScript.optionalMark (!param.isRequired) ++ ": ",
        ["; ", " \x7d"]⟩

/-- What stands around the type of a body. -/
def bodyFrame (given : RequestBody) : Platform → Frame
  | .ios => ⟨"body: ", [", ", ")", "? = nil"]⟩
  | .android => ⟨"@Body body: ", ["\n", ",\n", "? = null"]⟩
  | .web => ⟨"body" ++ Model.TypeScript.optionalMark (!given.isRequired) ++ ": ", [", ", ")"]⟩

/-- What stands around the type of an answer. -/
def answerFrame : Platform → Frame
  | .ios => ⟨") async throws -> ", [" \x7b\n"]⟩
  | .android => ⟨"): ", ["\n"]⟩
  | .web => ⟨"): Promise<", ["> \x7b\n"]⟩

/-- What stands around the type of a spot. -/
def frame (p : Platform) : Spot → Frame
  | field _ prop name => fieldFrame prop name p
  | argument _ place param => argumentFrame place param p
  | body _ given => bodyFrame given p
  | answer _ _ => answerFrame p

/-- The code of a client prints a type at a spot: a line of its block holds the type in its frame. -/
def Prints (p : Platform) (api : Api) (source : String) (spot : Spot) (type : String) : Prop :=
  spot.block p api <:+: api.code p source ∧
    ∃ line ∈ spot.block p api, (spot.frame p).Holds type (line ++ "\n")

end Spot

theorem mem_zip_of_mem_zip_zip {α β γ : Type} {as : List α} {bs : List β} {cs : List γ} {a : α}
    {b : β} {c : γ} (h : ((a, b), c) ∈ (as.zip bs).zip cs) : (b, c) ∈ bs.zip cs := by
  induction as generalizing bs cs with
  | nil => cases h
  | cons a' as ih =>
      cases bs with
      | nil => cases h
      | cons b' bs =>
          cases cs with
          | nil => cases h
          | cons c' cs =>
              rcases List.mem_cons.1 h with heq | h
              · cases heq
                exact List.mem_cons_self
              · exact List.mem_cons_of_mem _ (ih h)

theorem exists_line_field {m : Model} {prop : Property} {name : String}
    (h : (prop, name) ∈ m.properties.zip m.identifiers) (p : Platform) :
    ∃ line ∈ modelBlock p m,
      (Spot.fieldFrame prop name p).Holds (prop.spelling p) (line ++ "\n") := by
  cases p with
  | ios =>
      have hfield := Model.Swift.holds_field (Model.mem_fields h .ios)
      rwa [CodeField.ofProperty] at hfield
  | android =>
      have hfield := Model.Kotlin.holds_field (Model.mem_fields h .android)
      rwa [CodeField.ofProperty] at hfield
  | web => exact Model.TypeScript.holds_field (List.of_mem_zip h).1

theorem mem_params {e : Endpoint} {place : Location} {param : Parameter}
    (h : param ∈ e.paramsAt place) : param ∈ e.params := by
  rw [Endpoint.params, List.mem_append, List.mem_append]
  cases place with
  | path => exact .inl (.inl h)
  | query => exact .inl (.inr h)
  | header => exact .inr h

namespace Kotlin

theorem argumentOf_mem {e : Endpoint} {place : Location} {param : Parameter}
    (h : param ∈ e.paramsAt place) :
    argumentOf (placeMarker place) (place != .path) param ∈ arguments e := by
  simp only [arguments, List.mem_append]
  cases place with
  | path => exact .inl (.inl (.inl (List.mem_map_of_mem h)))
  | query => exact .inl (.inl (.inr (List.mem_map_of_mem h)))
  | header => exact .inl (.inr (List.mem_map_of_mem h))

end Kotlin

theorem exists_line_argument {e : Endpoint} {place : Location} {param : Parameter}
    (h : param ∈ e.paramsAt place) (p : Platform) (api : Api) :
    ∃ line ∈ methodBlock p api e,
      (Spot.argumentFrame place param p).Holds (param.spelling p) (line ++ "\n") := by
  cases p with
  | ios =>
      have hargument : Swift.argumentOf e param ∈ Swift.arguments e :=
        List.mem_append_left _ (List.mem_map_of_mem (mem_params h))
      have hholds := Swift.holds_argument hargument
      exact ⟨_, Swift.signature_mem api.clientName e, hholds⟩
  | android =>
      have hholds := Kotlin.holds_argument (Kotlin.argumentOf_mem h)
      rw [Kotlin.opening_argumentOf] at hholds
      exact hholds
  | web =>
      refine ⟨_, TypeScript.declaration_mem e, ?_⟩
      cases place with
      | path => exact TypeScript.holds_pathArgument h
      | query => exact TypeScript.holds_objectArgument TypeScript.query_subset h
      | header => exact TypeScript.holds_objectArgument TypeScript.headers_subset h

theorem exists_line_body {e : Endpoint} {given : RequestBody} (h : e.body = some given)
    (p : Platform) (api : Api) :
    ∃ line ∈ methodBlock p api e,
      (Spot.bodyFrame given p).Holds (given.spelling p) (line ++ "\n") := by
  cases p with
  | ios =>
      have hargument : Swift.bodyArgument given ∈ Swift.arguments e := by
        simp [Swift.arguments, h]
      have hholds := Swift.holds_argument hargument
      have hopening : (Swift.bodyArgument given).name ++ ": " = "body: " := by
        simp [Swift.bodyArgument]
      rw [hopening] at hholds
      exact ⟨_, Swift.signature_mem api.clientName e, hholds⟩
  | android =>
      have hargument : Kotlin.bodyArgument given ∈ Kotlin.arguments e := by
        simp [Kotlin.arguments, h]
      have hholds := Kotlin.holds_argument hargument
      rw [Kotlin.opening_bodyArgument] at hholds
      exact hholds
  | web => exact ⟨_, TypeScript.declaration_mem e, TypeScript.holds_bodyArgument h⟩

theorem exists_line_answer {e : Endpoint} {p : Platform} {type : String}
    (h : e.answer? p = some type) (api : Api) :
    ∃ line ∈ methodBlock p api e, (Spot.answerFrame p).Holds type (line ++ "\n") := by
  cases p with
  | ios => exact ⟨_, Swift.signature_mem api.clientName e, Swift.holds_answer h⟩
  | android => exact Kotlin.holds_answer h
  | web => exact ⟨_, TypeScript.declaration_mem e, TypeScript.holds_answer h⟩

/-- Every client prints the type of every spot. -/
theorem Occurs.prints {doc schema : Value} {api : Api} {spot : Spot}
    (h : Occurs doc api schema spot) {p : Platform} {type : String}
    (htype : spot.type? p = some type) (source : String) : spot.Prints p api source type := by
  cases h with
  | @field _ _ m prop name hmodel hfield _ =>
      cases htype
      exact ⟨modelBlock_isInfix (List.of_mem_zip hmodel).2 p source,
        exists_line_field (mem_zip_of_mem_zip_zip hfield) p⟩
  | @argument _ e place _ param hendpoint hparam _ =>
      cases htype
      exact ⟨methodBlock_isInfix (List.of_mem_zip hendpoint).2 p source,
        exists_line_argument (List.of_mem_zip hparam).2 p api⟩
  | @body _ e given hendpoint hbody _ =>
      cases htype
      exact ⟨methodBlock_isInfix (List.of_mem_zip hendpoint).2 p source,
        exists_line_body hbody p api⟩
  | @answer _ e _ response _ _ hendpoint _ _ _ _ =>
      exact ⟨methodBlock_isInfix (List.of_mem_zip hendpoint).2 p source,
        exists_line_answer htype api⟩

end Api

end SpecForge
