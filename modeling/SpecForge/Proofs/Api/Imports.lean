import Mathlib.Data.String.Basic
import SpecForge.Proofs.Api.Client

/-!
# The imports of a Kotlin client

The functions of a Kotlin client have annotations: one for each argument and one for the route. The
classes of the models behind them have others. A client imports those that it uses, each once and in
ascending order. Nothing else among the lines that are printed is an import; but a text that is put
into a line as it stands may break it, and then a line of the file can be one.
-/

namespace SpecForge

/-! ## Ascending lists -/

theorem mem_insertDistinct {s t : String} {texts : List String} :
    t ∈ insertDistinct s texts ↔ t = s ∨ t ∈ texts := by
  induction texts with
  | nil => simp [insertDistinct]
  | cons u texts ih =>
      rw [insertDistinct]
      split
      · rename_i heq
        subst heq
        simp
      · split
        · simp
        · rw [List.mem_cons, ih, List.mem_cons]
          tauto

theorem pairwise_insertDistinct {texts : List String} (h : texts.Pairwise (· < ·)) (s : String) :
    (insertDistinct s texts).Pairwise (· < ·) := by
  induction texts with
  | nil => simp [insertDistinct]
  | cons u texts ih =>
      obtain ⟨hu, htexts⟩ := List.pairwise_cons.1 h
      rw [insertDistinct]
      split
      · exact h
      · rename_i hne
        split
        · rename_i hlt
          refine List.pairwise_cons.2 ⟨List.forall_mem_cons.2 ⟨hlt, fun t ht => ?_⟩, h⟩
          exact lt_trans hlt (hu t ht)
        · rename_i hnot
          refine List.pairwise_cons.2 ⟨fun t ht => ?_, ih htexts⟩
          rcases mem_insertDistinct.1 ht with rfl | ht
          · exact lt_of_le_of_ne (not_lt.1 hnot) (Ne.symm hne)
          · exact hu t ht

theorem mem_ascending {s : String} {texts : List String} : s ∈ ascending texts ↔ s ∈ texts := by
  induction texts with
  | nil => rfl
  | cons t texts ih =>
      rw [ascending, List.foldr_cons, mem_insertDistinct, ← ascending, ih, List.mem_cons]

theorem pairwise_ascending (texts : List String) : (ascending texts).Pairwise (· < ·) := by
  induction texts with
  | nil => exact .nil
  | cons t texts ih => exact pairwise_insertDistinct ih t

/-! ## Renamed properties -/

namespace Model

/-- The keys of the properties that have another name in the code. -/
def renamedKeys (m : Model) : List String :=
  ((m.properties.zip m.identifiers).filter fun x => x.1.name != x.2).map fun x => x.1.name

theorem map_key_fields (p : Platform) (m : Model) :
    ((m.fields p).filter (·.isRenamed)).map (·.key) = m.renamedKeys := by
  rw [fields, ← List.map_uncurry_zip_eq_zipWith, List.filter_map, List.map_map]
  rfl

theorem isRenamed_iff (m : Model) : m.isRenamed = true ↔ m.renamedKeys ≠ [] := by
  rw [isRenamed, ← List.map_uncurry_zip_eq_zipWith, renamedKeys]
  simp [List.filter_eq_nil_iff]

end Model

namespace Api

open Model.Reader Reader Text

/-! ## The readers -/

namespace Reader.Kotlin

/-- What some lines import from a package. -/
def importsFrom (package : String) (lines : Lines) : List String :=
  lines.filterMap fun line =>
    (after? ("import " ++ package ++ ".").toList line.toList).map String.ofList

/-- The markers of a function: those of its arguments, and that of its route. -/
def markers? (m : Printed) : Option (List String) := do
  let annotations ← annotations? m
  let (route, _) ← named? "    @" (· == '(') m.above
  return annotations.map Prod.fst ++ [route]

/-- The markers of the functions in some lines. -/
def markersOf? (lines : Lines) : Option (List (List String)) :=
  (dialect.methodsIn lines).mapM markers?

/-- The keys of the fields in some lines that have an annotation with their key. -/
def serialNames (lines : Lines) : List String :=
  lines.filterMap fun line => quoted? "    @SerialName(\"".toList [')'] line.toList

theorem importsFrom_append (package : String) (lines lines' : Lines) :
    importsFrom package (lines ++ lines') =
      importsFrom package lines ++ importsFrom package lines' :=
  List.filterMap_append

/-- Lines that are no imports import nothing. -/
theorem importsFrom_of_without {lines : Lines} (h : Without "import " lines) (package : String) :
    importsFrom package lines = [] := by
  have hlonger := h.longer (package ++ ".")
  rw [← String.append_assoc] at hlonger
  refine List.filterMap_eq_nil_iff.2 fun line hl => ?_
  have hline := hlonger line hl
  rw [begins, Option.isSome_eq_false_iff, Option.isNone_iff_eq_none] at hline
  rw [hline]
  rfl

theorem importsFrom_map (package : String) (names : List String) :
    importsFrom package (names.map fun name => "import " ++ package ++ "." ++ name) = names := by
  have hname : ∀ name, (after? ("import " ++ package ++ ".").toList
      ("import " ++ package ++ "." ++ name).toList).map String.ofList = some name := by
    intro name
    rw [String.toList_append (t := name), after?_append, Option.map_some, String.ofList_toList]
  rw [importsFrom, List.filterMap_map]
  simp only [Function.comp_def, hname, List.filterMap_some]

theorem serialNames_append (lines lines' : Lines) :
    serialNames (lines ++ lines') = serialNames lines ++ serialNames lines' :=
  List.filterMap_append

theorem serialNames_of_without {lines : Lines} (h : Without "    @SerialName(\"" lines) :
    serialNames lines = [] := by
  refine List.filterMap_eq_nil_iff.2 fun line hl => ?_
  have hline := h line hl
  rw [begins, Option.isSome_eq_false_iff, Option.isNone_iff_eq_none] at hline
  rw [quoted?, hline]
  rfl

end Reader.Kotlin

/-! ## The lines of a client -/

/-- Lines that were moved to the right are no imports. -/
theorem without_import_indent (lines : Lines) : Without "import " (Lines.indent lines 1) := by
  intro line hl
  obtain ⟨other, _, rfl⟩ := List.mem_map.1 hl
  split
  · rename_i hempty
    rw [String.isEmpty_iff.1 hempty]
    rfl
  · simp [Lines.indentation, begins, after?]

namespace Kotlin

theorem without_import_title (api : Api) : Without "import " (title api) := by
  unfold title
  split <;> simp [begins, after?, toString]

theorem without_import_dataClass (m : Model) : Without "import " (Model.Kotlin.dataClass m) := by
  have hcomment : Without "import " (Model.Kotlin.classComment m.description) := by
    intro line hl
    obtain ⟨rest, rfl | rfl⟩ := Model.Kotlin.of_mem_classComment hl
    · simp [begins, after?]
    · simp [begins, after?]
  rw [Model.Kotlin.dataClass, without_append, without_append]
  refine ⟨⟨hcomment, by simp [begins, after?]⟩, ?_⟩
  split
  · simp [begins, after?, toString]
  · simp [without_import_indent, begins, after?, toString]

/-- What stands behind the imports of a client. -/
theorem without_import_code (api : Api) : Without "import "
    (title api ++ [s!"interface {api.clientName} \x7b", ""] ++
      api.endpoints.flatMap (fun e => Lines.indent (function e) 1 ++ [""]) ++ companion api ++
        api.models.flatMap Model.Kotlin.dataClass) := by
  have hfunctions : Without "import "
      (api.endpoints.flatMap fun e => Lines.indent (function e) 1 ++ [""]) :=
    without_flatMap fun e _ => without_append.2
      ⟨without_import_indent _, by simp [begins, after?]⟩
  have hmodels : Without "import " (api.models.flatMap Model.Kotlin.dataClass) :=
    without_flatMap fun m _ => without_import_dataClass m
  have hcompanion : Without "import " (companion api) := without_companion api _ (by simp)
  simp only [without_append, without_import_title, hfunctions, hcompanion, hmodels, and_true,
    true_and]
  simp [begins, after?, toString]

theorem importsFrom_file (package : String) (api : Api) (source : String) :
    Reader.Kotlin.importsFrom package (file api source) =
      Reader.Kotlin.importsFrom package (imports api) := by
  have hheader : Without "import " (Lines.header source) := by
    simp [Lines.header, Lines.provenance, begins, after?]
  have hfile : file api source = Lines.header source ++ imports api ++
      (title api ++ [s!"interface {api.clientName} \x7b", ""] ++
        api.endpoints.flatMap (fun e => Lines.indent (function e) 1 ++ [""]) ++ companion api ++
          api.models.flatMap Model.Kotlin.dataClass) := by
    simp only [file, List.append_assoc]
  rw [hfile, Reader.Kotlin.importsFrom_append, Reader.Kotlin.importsFrom_append,
    Reader.Kotlin.importsFrom_of_without hheader,
    Reader.Kotlin.importsFrom_of_without (without_import_code api), List.nil_append,
    List.append_nil]

/-- The imports from the package of the annotations are those of the annotations that are used. -/
theorem importsFrom_http (api : Api) (source : String) :
    Reader.Kotlin.importsFrom "retrofit2.http" (file api source) = imported api := by
  have hnames := Reader.Kotlin.importsFrom_map "retrofit2.http" (imported api)
  have hfixed : Reader.Kotlin.importsFrom "retrofit2.http" [
      "import kotlinx.serialization.json.Json",
      "import okhttp3.MediaType.Companion.toMediaType",
      "import retrofit2.Retrofit",
      "import retrofit2.converter.kotlinx.serialization.asConverterFactory"] = [] := by
    decide
  have hmodels : Reader.Kotlin.importsFrom "retrofit2.http"
      (if api.models.isEmpty then [""] else Model.Kotlin.imports api.models) = [] := by
    unfold Model.Kotlin.imports
    split
    · decide
    · split <;> decide
  rw [importsFrom_file, imports, Reader.Kotlin.importsFrom_append,
    Reader.Kotlin.importsFrom_append, hfixed, hmodels, List.nil_append, List.append_nil]
  exact hnames

/-- The imports from the package of serialization. -/
theorem importsFrom_serialization (api : Api) (source : String) :
    Reader.Kotlin.importsFrom "kotlinx.serialization" (file api source) =
      "json.Json" :: ((if api.models.any Model.isRenamed then ["SerialName"] else []) ++
        if api.models.isEmpty then [] else ["Serializable"]) := by
  have hhttp : Reader.Kotlin.importsFrom "kotlinx.serialization"
      ((imported api).map fun name => s!"import retrofit2.http.{name}") = [] := by
    refine List.filterMap_eq_nil_iff.2 fun line hl => ?_
    obtain ⟨name, _, rfl⟩ := List.mem_map.1 hl
    simp [after?, toString]
  have hfixed : Reader.Kotlin.importsFrom "kotlinx.serialization" [
      "import kotlinx.serialization.json.Json",
      "import okhttp3.MediaType.Companion.toMediaType",
      "import retrofit2.Retrofit",
      "import retrofit2.converter.kotlinx.serialization.asConverterFactory"] = ["json.Json"] := by
    decide
  rw [importsFrom_file, imports, Reader.Kotlin.importsFrom_append,
    Reader.Kotlin.importsFrom_append, hfixed, hhttp, List.append_nil, List.singleton_append]
  cases hmodels : api.models with
  | nil => decide
  | cons m models =>
      rw [Model.Kotlin.imports, List.isEmpty_cons]
      cases List.any (m :: models) Model.isRenamed <;> decide

/-- The marker of a route stands in front of a bracket, whether or not it is a verb. -/
theorem named?_routeMarker {e : Endpoint} {verb : Verb} (hv : e.method = verb.name) :
    ∃ rest, named? "    @" (· == '(') ("    " ++ route e) = some (routeMarker e, rest) := by
  by_cases hd : deletesWithBody e = true
  · have hline : "    " ++ route e = "    @" ++ "HTTP" ++
        ("(method = \"DELETE\", path = " ++ quoted (path e) ++ ", hasBody = true)") := by
      rw [route, if_pos hd]
      simp [← String.toList_inj, toString]
    rw [hline, routeMarker, if_pos hd]
    exact ⟨_, named?_word "    @" (by decide) (by decide) (by simp)⟩
  · rw [routeMarker, if_neg hd]
    exact ⟨_, (named?_route hv hd).2⟩

/-- The markers of a function are read above it and in the lines of its arguments. -/
theorem markers?_function {e : Endpoint} {verb : Verb} (hv : e.method = verb.name) {m : Printed}
    (habove : m.above = "    " ++ route e)
    (hm : Reader.Kotlin.argumentLines? m = some (argumentLines e)) :
    Reader.Kotlin.markers? m = some (annotations e) := by
  obtain ⟨rest, hroute⟩ := named?_routeMarker hv
  rw [Reader.Kotlin.markers?, annotations?_function hm, habove, hroute]
  simp only [Option.bind_eq_bind, Option.bind_some, List.map_map]
  rfl

theorem markersOf?_file {api : Api} (h : ∀ e ∈ api.endpoints, ∃ verb : Verb, e.method = verb.name)
    (source : String) :
    Reader.Kotlin.markersOf? (file api source) = some (api.endpoints.map annotations) := by
  have hall : List.Forall₂ (fun e m => Reader.Kotlin.markers? m = some (annotations e))
      api.endpoints (Reader.Kotlin.dialect.methodsIn (file api source)) := by
    refine forall₂_methods_file (fun e he => ?_) source
    obtain ⟨verb, hv⟩ := h e he
    exact has_function fun m habove _ hm => markers?_function hv habove hm
  exact mapM_eq_some_iff_forall₂.2 (List.forall₂_map_right_iff.2 hall.flip)

/-- Where the types are types, nothing stands behind an argument but the next one. -/
theorem isSome_arguments?_file {api : Api} (h : ∀ e ∈ api.endpoints, e.IsLegible)
    (source : String) : ∀ m ∈ Reader.Kotlin.dialect.methodsIn (file api source),
      (Reader.Kotlin.arguments? m).isSome = true := by
  have hall : List.Forall₂ (fun _ m => (Reader.Kotlin.arguments? m).isSome = true)
      api.endpoints (Reader.Kotlin.dialect.methodsIn (file api source)) := by
    refine forall₂_methods_file (fun e he => ?_) source
    exact has_function fun m _ _ hm => by rw [arguments?_function (h e he) hm]; rfl
  intro m hm
  obtain ⟨i, hi, rfl⟩ := List.getElem_of_mem hm
  exact (List.forall₂_iff_get.1 hall).2 i (hall.length_eq ▸ hi) hi

end Kotlin

/-! ### The keys of fields -/

namespace Kotlin

theorem serialNames_field (f : CodeField) (comma : String) :
    Reader.Kotlin.serialNames
        (Lines.indent (Model.Kotlin.annotations f ++ [Model.Kotlin.declaration f ++ comma]) 1) =
      if f.isRenamed then [f.key] else [] := by
  have hcomment : Reader.Kotlin.serialNames
      (Lines.indent (Lines.docComment .block f.description) 1) = [] := by
    rcases Lines.indent_docComment .block f.description with h | ⟨text, h⟩
    · rw [h]
      rfl
    · rw [h]
      exact Reader.Kotlin.serialNames_of_without (by
        simp [Lines.CommentStyle.opening, begins, after?])
  have hline : Reader.Kotlin.serialNames [Model.Kotlin.line f comma] = [] := by
    refine Reader.Kotlin.serialNames_of_without ?_
    unfold Model.Kotlin.line
    simp [begins, after?]
  have hkey : Reader.Kotlin.serialNames ["    @SerialName(" ++ quoted f.key ++ ")"] =
      [f.key] := by
    have hquoted := quoted?_quoted "    @SerialName(" f.key ")".toList
    rw [← String.toList_append] at hquoted
    exact List.filterMap_cons_some hquoted
  rw [Model.Kotlin.annotations, Lines.indent_append, Lines.indent_append,
    Model.Kotlin.indent_declaration, Reader.Kotlin.serialNames_append,
    Reader.Kotlin.serialNames_append, hcomment, hline, List.nil_append, List.append_nil]
  split
  · rw [Model.Kotlin.indent_serialName, hkey]
  · rfl

theorem serialNames_declarations (fields : List CodeField) :
    Reader.Kotlin.serialNames (Lines.indent (Model.Kotlin.declarations fields) 1) =
      (fields.filter (·.isRenamed)).map (·.key) := by
  -- the last field has no comma, so it is a case of its own
  induction fields using Model.Kotlin.declarations.induct with
  | case1 => rfl
  | case2 f =>
      have hf := serialNames_field f ""
      rw [String.append_empty] at hf
      rw [Model.Kotlin.declarations, hf, List.filter_cons]
      split <;> rfl
  | case3 f rest hrest ih =>
      rw [Model.Kotlin.declarations.eq_3 f rest hrest, Lines.indent_append,
        Reader.Kotlin.serialNames_append, serialNames_field, ih, List.filter_cons]
      split <;> rfl

theorem serialNames_dataClass (m : Model) :
    Reader.Kotlin.serialNames (Model.Kotlin.dataClass m) = m.renamedKeys := by
  have hfront : Without "    @SerialName(\""
      (Model.Kotlin.classComment m.description ++ ["@Serializable"]) := by
    refine without_append.2 ⟨fun line hl => ?_, by simp [begins, after?]⟩
    obtain ⟨rest, rfl | rfl⟩ := Model.Kotlin.of_mem_classComment hl
    · simp [begins, after?]
    · simp [begins, after?]
  have hhead : Without "    @SerialName(\"" [s!"data class {m.name}("] := by
    simp [begins, after?, toString]
  have hclose : Without "    @SerialName(\"" [")", ""] := by
    simp [begins, after?]
  rw [Model.Kotlin.dataClass, Reader.Kotlin.serialNames_append,
    Reader.Kotlin.serialNames_of_without hfront, List.nil_append, ← m.map_key_fields .android]
  split
  · rename_i hempty
    rw [List.isEmpty_iff.1 hempty]
    exact Reader.Kotlin.serialNames_of_without (by simp [begins, after?, toString])
  · rw [Reader.Kotlin.serialNames_append, Reader.Kotlin.serialNames_append,
      Reader.Kotlin.serialNames_of_without hhead, Reader.Kotlin.serialNames_of_without hclose,
      serialNames_declarations, List.nil_append, List.append_nil]

theorem without_serialName_function {e : Endpoint} {verb : Verb} (hv : e.method = verb.name) :
    Without "    @SerialName(\"" (Lines.indent (function e) 1) := by
  have hcomment : begins "    @SerialName(\"" ("    " ++ s!"/** {e.headline} */") = false := by
    simp [begins, after?, toString]
  have hroute : begins "    @SerialName(\"" ("    " ++ route e) = false := by
    unfold route
    split
    · simp [begins, after?, toString]
    · rw [hv]
      cases verb <;> simp [Verb.name, begins, after?, toString]
  have hhead : begins "    @SerialName(\"" (head e) = false := by
    unfold head
    simp [begins, after?]
  have harguments : Without "    @SerialName(\"" (argumentLines e) := by
    refine without_map (fun line => ?_) _
    simp [begins, after?]
  rw [indent_function]
  simp only [without_append, without_cons, hcomment, hroute, hhead, true_and]
  split
  · simp
  · simp [harguments, begins, after?]

/-- The keys are those of the models, and no others. -/
theorem serialNames_file {api : Api} (h : ∀ e ∈ api.endpoints, ∃ verb : Verb, e.method = verb.name)
    (source : String) :
    Reader.Kotlin.serialNames (file api source) = api.models.flatMap Model.renamedKeys := by
  have hopening : Without "    @SerialName(\"" (Lines.header source ++ imports api ++ title api ++
      [s!"interface {api.clientName} \x7b", ""]) :=
    (without_opening api source).longer "  @SerialName(\""
  have hfunctions : Without "    @SerialName(\""
      (api.endpoints.flatMap fun e => Lines.indent (function e) 1 ++ [""]) := by
    refine without_flatMap fun e he => without_append.2 ⟨?_, by simp [begins, after?]⟩
    obtain ⟨verb, hv⟩ := h e he
    exact without_serialName_function hv
  have hmodels : Reader.Kotlin.serialNames (api.models.flatMap Model.Kotlin.dataClass) =
      api.models.flatMap Model.renamedKeys := by
    rw [Reader.Kotlin.serialNames, List.filterMap_flatMap]
    exact List.flatMap_congr fun m _ => serialNames_dataClass m
  have hfront := without_append.2 ⟨without_append.2 ⟨hopening, hfunctions⟩,
    without_companion api _ (by simp)⟩
  rw [file, Reader.Kotlin.serialNames_append, hmodels,
    Reader.Kotlin.serialNames_of_without hfront, List.nil_append]

end Kotlin

/-! ## What is imported -/

/-- The markers of the function for an operation: one for each argument, and one for the route. A
deletion with a body does not have its verb. -/
def Operation.markers (o : Operation) : List String :=
  let hasBody := (memberOrNull o.value "requestBody").isGiven
  (o.standing .path).map (fun _ => "Path") ++ (o.standing .query).map (fun _ => "Query") ++
    (o.standing .header).map (fun _ => "Header") ++ (if hasBody then ["Body"] else []) ++
      [if o.verb = .delete ∧ hasBody = true then "HTTP" else o.verb.name]

/-- Lines of a Kotlin client with the functions of a document and the classes of its models. Of the
annotations of functions, and of those of classes and fields, they import those that they use. An
argument has one annotation in front and, if the types are types, no other behind it. -/
structure ImportsUsed (doc : Value) (api : Api) (lines : Lines) : Prop where
  markers : Reader.Kotlin.markersOf? lines = some ((declaredOperations doc).map (·.markers))
  whole : (∀ e ∈ api.endpoints, e.IsLegible) →
    ∀ m ∈ Reader.Kotlin.dialect.methodsIn lines, (Reader.Kotlin.arguments? m).isSome = true
  ascending : (Reader.Kotlin.importsFrom "retrofit2.http" lines).Pairwise (· < ·)
  mem_iff : ∀ name, name ∈ Reader.Kotlin.importsFrom "retrofit2.http" lines ↔
    ∃ o ∈ declaredOperations doc, name ∈ o.markers
  keys : Reader.Kotlin.serialNames lines = api.models.flatMap Model.renamedKeys
  serialName : "SerialName" ∈ Reader.Kotlin.importsFrom "kotlinx.serialization" lines ↔
    Reader.Kotlin.serialNames lines ≠ []
  serializable : "Serializable" ∈ Reader.Kotlin.importsFrom "kotlinx.serialization" lines ↔
    api.models ≠ []

theorem map_const_of_forall₂ {α β γ : Type} {R : α → β → Prop} {as : List α} {bs : List β}
    (h : List.Forall₂ R as bs) (c : γ) : (bs.map fun _ => c) = as.map fun _ => c := by
  rw [List.map_const', List.map_const', h.length_eq]

theorem Operation.Reads.routeMarker_eq {o : Operation} {e : Endpoint} (h : o.Reads e) :
    Kotlin.routeMarker e = if o.verb = .delete ∧
      (memberOrNull o.value "requestBody").isGiven = true then "HTTP" else o.verb.name := by
  have hdelete : (e.method == "DELETE") = true ↔ o.verb = .delete := by
    rw [h.method]
    cases o.verb <;> decide
  have hiff : Kotlin.deletesWithBody e = true ↔
      o.verb = .delete ∧ (memberOrNull o.value "requestBody").isGiven = true := by
    rw [Kotlin.deletesWithBody, Bool.and_eq_true, hdelete, h.hasBody]
  rw [Kotlin.routeMarker, h.method]
  exact ite_congr (propext hiff) (fun _ => rfl) fun _ => rfl

theorem Operation.Reads.markers_eq {o : Operation} {e : Endpoint} (h : o.Reads e) :
    Kotlin.annotations e = o.markers := by
  have hbody : (e.body.map Kotlin.bodyArgument).toList.map (·.marker) =
      if (memberOrNull o.value "requestBody").isGiven then ["Body"] else [] := by
    rw [← h.hasBody]
    cases e.body with
    | none => rfl
    | some body => rfl
  have hparams : ∀ (marker : String) (mayMiss : Bool) (params : List Parameter),
      (params.map (Kotlin.argumentOf marker mayMiss)).map (·.marker) =
        params.map fun _ => marker := by
    intro marker mayMiss params
    rw [List.map_map]
    rfl
  rw [Kotlin.annotations, Kotlin.arguments, List.map_append, List.map_append, List.map_append,
    hparams, hparams, hparams, hbody, h.routeMarker_eq, map_const_of_forall₂ h.pathParams,
    map_const_of_forall₂ h.queryParams, map_const_of_forall₂ h.headerParams]
  rfl

theorem map_annotations {doc : Value} {api : Api} (h : ofDocument doc = .ok api) :
    api.endpoints.map Kotlin.annotations = (declaredOperations doc).map (·.markers) :=
  map_eq_map_of_forall₂ ((forall₂_reads h).imp fun _ _ hreads => hreads.markers_eq)

theorem importsUsed_code {doc : Value} {api : Api} (h : ofDocument doc = .ok api)
    (source : String) : ImportsUsed doc api (api.code .android source) := by
  have hkeys := Kotlin.serialNames_file (exists_verb h) source
  have hhttp := Kotlin.importsFrom_http api source
  have hserialization := Kotlin.importsFrom_serialization api source
  have hcode : api.code .android source = Kotlin.file api source := rfl
  rw [← hcode] at hkeys hhttp hserialization
  constructor
  · rw [← map_annotations h]
    exact Kotlin.markersOf?_file (exists_verb h) source
  · exact fun hlegible => Kotlin.isSome_arguments?_file hlegible source
  · rw [hhttp]
    exact pairwise_ascending _
  · intro name
    rw [hhttp, Kotlin.imported, mem_ascending, List.flatMap_def, map_annotations h,
      ← List.flatMap_def, List.mem_flatMap]
  · exact hkeys
  · have hrenamed : api.models.any Model.isRenamed = true ↔
        api.models.flatMap Model.renamedKeys ≠ [] := by
      simp [List.any_eq_true, Model.isRenamed_iff, List.flatMap_eq_nil_iff]
    rw [hserialization, hkeys, ← hrenamed]
    cases api.models.any Model.isRenamed <;> cases api.models.isEmpty <;> decide
  · rw [hserialization, ne_eq, ← List.isEmpty_iff]
    cases api.models.any Model.isRenamed <;> cases api.models.isEmpty <;> decide

/-- The Kotlin client of an accepted document imports the annotations that it uses: so do the lines
that are printed, and so does the text of a file if none of these lines is broken. -/
theorem kotlin_imports_used {doc : Value} {api : Api} (h : ofDocument doc = .ok api)
    (source : String) :
    ImportsUsed doc api (api.code .android source) ∧
      ∀ file, api.sourceFile .android source = .ok file →
        (∀ line ∈ api.code .android source, '\n' ∉ line.toList) →
        ImportsUsed doc api (Text.split '\n' file.text) := by
  have hcode := importsUsed_code h source
  refine ⟨hcode, fun file hfile hbreaks => ?_⟩
  rw [split_sourceFile hfile hbreaks]
  exact hcode

/-- A document with two operations, one of them a deletion with a body, and with a model that has a
renamed property. -/
def ticketsDocument : Value :=
  .record [("info", .record [("title", .str "Tickets"), ("version", .str "1")]),
    ("paths", .record [("/tickets/\x7bid\x7d", .record [
      ("parameters", .list [.record [("name", .str "id"), ("in", .str "path"),
        ("required", .bool true), ("schema", .record [("type", .str "string")])]]),
      ("get", .record []),
      ("delete", .record [("requestBody", .record [("content", .record [
        ("application/json", .record [("schema", .record [("type", .str "string")])])])])])])]),
    ("components", .record [("schemas", .record [("Ticket", .record [("type", .str "object"),
      ("properties", .record [("created_at", .record [("type", .str "string")])])])])])]

theorem kotlin_imports_used_ticketsDocument :
    ∃ api file, ofDocument ticketsDocument = .ok api ∧
      api.sourceFile .android "tickets.json" = .ok file ∧
      ImportsUsed ticketsDocument api (Text.split '\n' file.text) ∧
      Reader.Kotlin.importsFrom "retrofit2.http" (api.code .android "tickets.json") =
        ["Body", "GET", "HTTP", "Path"] ∧
      "SerialName" ∈
        Reader.Kotlin.importsFrom "kotlinx.serialization" (api.code .android "tickets.json") := by
  obtain ⟨api, hok, hfile, hlines, hkeys, himported⟩ :
      ∃ api, ofDocument ticketsDocument = .ok api ∧
        (api.sourceFile .android "tickets.json").toOption.isSome = true ∧
        (∀ line ∈ api.code .android "tickets.json", '\n' ∉ line.toList) ∧
        api.models.flatMap Model.renamedKeys = ["created_at"] ∧
        Kotlin.imported api = ["Body", "GET", "HTTP", "Path"] :=
    exists_ok_of_any (by decide +kernel)
  obtain ⟨file, hfile⟩ := exists_ok_of_isSome hfile
  obtain ⟨hcode, htext⟩ := kotlin_imports_used hok "tickets.json"
  refine ⟨api, file, hok, hfile, htext file hfile hlines,
    (Kotlin.importsFrom_http api "tickets.json").trans himported, hcode.serialName.2 ?_⟩
  rw [hcode.keys, hkeys]
  exact List.cons_ne_nil _ _

/-- A version that ends the comment that it stands in, and goes on with an import behind a line
break. -/
def importingVersion : String := "1 */\nimport retrofit2.http.Streaming\n/*"

/-- A document with this version and one operation. -/
def importingDocument : Value :=
  .record [("info", .record [("title", .str "Orders"), ("version", .str importingVersion)]),
    ("paths", .record [("/orders", .record [("get", .record [])])])]

/-- The Kotlin client of this document imports an annotation that no operation needs. -/
theorem not_importsUsed_importingDocument :
    ∃ api file, ofDocument importingDocument = .ok api ∧
      api.sourceFile .android "orders.json" = .ok file ∧
      (declaredOperations importingDocument).map (·.markers) = [["GET"]] ∧
      "import retrofit2.http.Streaming" ∈ Text.split '\n' file.text ∧
      ¬ ImportsUsed importingDocument api (Text.split '\n' file.text) := by
  let comment := s!" * Orders API client (version {importingVersion})"
  obtain ⟨api, hok, hfile, hcomment⟩ : ∃ api, ofDocument importingDocument = .ok api ∧
      (api.sourceFile .android "orders.json").toOption.isSome = true ∧
      comment ∈ api.code .android "orders.json" :=
    exists_ok_of_any (by decide +kernel)
  obtain ⟨file, hfile⟩ := exists_ok_of_isSome hfile
  have hmarkers : (declaredOperations importingDocument).map (·.markers) = [["GET"]] := by
    decide +kernel
  have hline : "import retrofit2.http.Streaming" ∈ Text.split '\n' file.text := by
    rw [text_of_sourceFile hfile, Lines.split_joined (code_ne_nil .android api "orders.json")]
    exact List.mem_flatMap.2 ⟨comment, hcomment, by decide +kernel⟩
  refine ⟨api, file, hok, hfile, hmarkers, hline, fun hused => ?_⟩
  have himported : "Streaming" ∈
      Reader.Kotlin.importsFrom "retrofit2.http" (Text.split '\n' file.text) :=
    List.mem_filterMap.2 ⟨_, hline, by decide⟩
  obtain ⟨o, ho, hname⟩ := (hused.mem_iff _).1 himported
  have hget : o.markers = ["GET"] := by
    have hmem := List.mem_map_of_mem (f := Operation.markers) ho
    rw [hmarkers] at hmem
    exact List.mem_singleton.1 hmem
  rw [hget] at hname
  exact absurd hname (by decide)

end Api

end SpecForge
