import SpecForge.Proofs.Api.Endpoints
import SpecForge.Proofs.Api.Reader
import SpecForge.Proofs.Model.Kotlin

/-!
# Reading Kotlin clients

The reader finds in the code of a service interface exactly its functions. The annotation of the
route stands in the line above a function, also where a deletion has a body, and each argument has
its annotation in front.
-/

namespace SpecForge.Api.Kotlin

open Model.Reader Reader Text

/-! ## Arguments -/

/-- Lines that end with commas are read as what they were written for, if the comma does not matter.
-/
theorem mapM_commaSeparated {α β : Type} {read : String → Option β} {write : α → String}
    {item : α → β} {l : List α}
    (h : ∀ a ∈ l, ∀ comma, read (write a ++ comma) = some (item a)) :
    (Lines.commaSeparated (l.map write)).mapM read = some (l.map item) := by
  induction l with
  | nil => rfl
  | cons a l ih =>
      have hrest := ih fun b hb => h b (List.mem_cons_of_mem a hb)
      cases l with
      | nil =>
          have ha := h a (List.mem_singleton_self a) ""
          rw [String.append_empty] at ha
          simp [Lines.commaSeparated, ha]
      | cons b l =>
          have ha := h a (List.mem_cons_self ..) ","
          rw [List.map_cons, List.map_cons, Lines.commaSeparated, ← List.map_cons, List.mapM_cons,
            ha, hrest]
          · rfl
          · exact List.cons_ne_nil _ _

/-- What stands behind the annotation of an argument. -/
def Argument.declaration (a : Argument) : String :=
  a.name ++ (": " ++ if a.isOptional then a.type ++ "? = null" else a.type)

/-- What stands behind the marker of an argument. -/
def Argument.behindMarker (a : Argument) : String :=
  match a.key with
  | some key => "(" ++ quoted key ++ (") " ++ a.declaration)
  | none => " " ++ a.declaration

/-- An argument as the reader is to find it. -/
def Argument.read (a : Argument) : Reader.Kotlin.Argument :=
  ⟨⟨a.name, a.isOptional⟩, a.marker, a.key⟩

theorem Argument.text_eq (a : Argument) : a.text = "@" ++ a.marker ++ a.behindMarker := by
  unfold Argument.text Argument.behindMarker Argument.declaration
  cases a.key <;> simp [← String.toList_inj, toString]

theorem named?_argument {a : Argument} (hm : Name.AllWord a.marker.toList) :
    named? "@" (fun c => c == '(' || c == ' ') a.text =
      some (a.marker, a.behindMarker.toList) := by
  have hstop : ∀ c ∈ a.marker.toList, (c == '(' || c == ' ') = false := by
    intro c hc
    have hword := hm c hc
    rw [Bool.or_eq_false_iff, beq_eq_false_iff_ne, beq_eq_false_iff_ne]
    constructor
    · rintro rfl
      exact absurd hword (by decide)
    · rintro rfl
      exact absurd hword (by decide)
  rw [a.text_eq]
  refine named?_append "@" hstop fun c hc => ?_
  unfold Argument.behindMarker at hc
  split at hc
  · simp at hc
    simp [← hc]
  · simp at hc
    simp [← hc]

/-- With or without a key, the annotation is read up to the blank behind it. -/
theorem annotation?_text {a : Argument} (hm : Name.AllWord a.marker.toList) :
    Reader.Kotlin.annotation? a.text =
      some ((a.marker, a.key), " ".toList ++ a.declaration.toList) := by
  rw [Reader.Kotlin.annotation?, named?_argument hm]
  unfold Argument.behindMarker
  cases a.key with
  | none => simp [quotedBehind?, after?]
  | some key =>
      have hquoted := quotedBehind?_quoted "(" key (") " ++ a.declaration).toList
      rw [← String.toList_append] at hquoted
      simp only [Option.bind_eq_bind, Option.bind_some, hquoted]
      simp [after?]

/-- An argument is read to its end. -/
theorem argument?_text {a : Argument} (hm : Name.AllWord a.marker.toList)
    (hn : Name.AllWord a.name.toList) (ht : IsType a.type) :
    Reader.Kotlin.argument? a.text = some a.read := by
  have hcolon : ∀ cs, after? ": ".toList (':' :: ' ' :: cs) = some cs := by
    simp [after?]
  have hword := word_append hn (by decide : Name.isWordChar ':' = false)
  rw [Reader.Kotlin.argument?, annotation?_text hm]
  unfold Argument.read
  cases ho : a.isOptional with
  | true =>
      have htext : a.declaration.toList =
          a.name.toList ++ ':' :: ' ' :: ((a.type ++ "?").toList ++ ([' '] ++ "= null".toList)) := by
        simp [Argument.declaration, ho]
      have htype : type? ((a.type ++ "?").toList ++ ([' '] ++ "= null".toList)) =
          some (a.type ++ "?", "= null".toList) :=
        type?_append ht.optional (by simp) (by decide)
      simp only [Option.bind_eq_bind, Option.bind_some, after?_append, htext, hword, hcolon, htype,
        endsWith_mark]
      rfl
  | false =>
      have htext : a.declaration.toList = a.name.toList ++ ':' :: ' ' :: a.type.toList := by
        simp [Argument.declaration, ho]
      simp only [Option.bind_eq_bind, Option.bind_some, after?_append, htext, hword, hcolon,
        type?_toList ht]
      rfl

/-- Every marker is a word. -/
theorem allWord_marker {e : Endpoint} {a : Argument} (h : a ∈ arguments e) :
    Name.AllWord a.marker.toList := by
  simp only [arguments, List.mem_append, List.mem_map, Option.mem_toList, Option.map_eq_some_iff]
    at h
  rcases h with ((⟨param, _, rfl⟩ | ⟨param, _, rfl⟩) | ⟨param, _, rfl⟩) | ⟨body, _, rfl⟩
  · exact (by decide : Name.AllWord "Path".toList)
  · exact (by decide : Name.AllWord "Query".toList)
  · exact (by decide : Name.AllWord "Header".toList)
  · exact (by decide : Name.AllWord "Body".toList)

theorem allWord_name {e : Endpoint} {a : Argument} (h : a ∈ arguments e) :
    Name.AllWord a.name.toList := by
  simp only [arguments, List.mem_append, List.mem_map, Option.mem_toList, Option.map_eq_some_iff]
    at h
  rcases h with ((⟨param, _, rfl⟩ | ⟨param, _, rfl⟩) | ⟨param, _, rfl⟩) | ⟨body, _, rfl⟩
  · exact param.allWord_identifier
  · exact param.allWord_identifier
  · exact param.allWord_identifier
  · exact (by decide : Name.AllWord "body".toList)

theorem isType_type {e : Endpoint} (he : e.IsLegible) {a : Argument} (h : a ∈ arguments e) :
    IsType a.type := by
  simp only [arguments, List.mem_append, List.mem_map, Option.mem_toList, Option.map_eq_some_iff]
    at h
  rcases h with ((⟨param, hp, rfl⟩ | ⟨param, hp, rfl⟩) | ⟨param, hp, rfl⟩) | ⟨body, hb, rfl⟩
  · exact he.param (by simp [Endpoint.params, hp]) .android
  · exact he.param (by simp [Endpoint.params, hp]) .android
  · exact he.param (by simp [Endpoint.params, hp]) .android
  · exact he.body hb .android

theorem keys_append (marker : String) (l l' : List Reader.Kotlin.Argument) :
    Reader.Kotlin.keys marker (l ++ l') =
      Reader.Kotlin.keys marker l ++ Reader.Kotlin.keys marker l' :=
  List.filterMap_append

/-- The parameters at a place are the arguments with its marker. -/
theorem keys_map_argumentOf (marker marker' : String) (mayMiss : Bool) (params : List Parameter) :
    Reader.Kotlin.keys marker (params.map fun param =>
      (argumentOf marker' mayMiss param).read) =
        if marker' = marker then params.map (·.name) else [] := by
  induction params with
  | nil => simp [Reader.Kotlin.keys]
  | cons param params ih =>
      rw [List.map_cons, ← List.singleton_append, keys_append, ih]
      by_cases h : marker' = marker
      · simp [Reader.Kotlin.keys, argumentOf, Argument.read, h]
      · simp [Reader.Kotlin.keys, argumentOf, Argument.read, h]

theorem keys_arguments (e : Endpoint) {marker : String} (hb : marker ≠ "Body") :
    Reader.Kotlin.keys marker ((arguments e).map Argument.read) =
      (if "Path" = marker then e.pathParams.map (·.name) else []) ++
      (if "Query" = marker then e.queryParams.map (·.name) else []) ++
      (if "Header" = marker then e.headerParams.map (·.name) else []) := by
  have hbody : Reader.Kotlin.keys marker ((e.body.map bodyArgument).toList.map
      Argument.read) = [] := by
    cases e.body with
    | none => rfl
    | some body => simp [Reader.Kotlin.keys, bodyArgument, Argument.read, hb.symm]
  simp only [arguments, List.map_append, keys_append, hbody, List.append_nil, List.map_map]
  rw [← keys_map_argumentOf marker "Path" false, ← keys_map_argumentOf marker "Query" true,
    ← keys_map_argumentOf marker "Header" true]
  rfl

/-- Only the body has the marker of bodies. -/
theorem any_body_arguments (e : Endpoint) :
    (arguments e).any (·.marker == "Body") = e.body.isSome := by
  cases hb : e.body with
  | none => simp [arguments, hb, argumentOf]
  | some body => simp [arguments, hb, bodyArgument]

/-! ## Functions -/

/-- A deletion with a body has its verb and its path in the general annotation. -/
theorem route_of_deletesWithBody {e : Endpoint} (h : deletesWithBody e = true) :
    e.method = "DELETE" ∧ "    " ++ route e = "    @HTTP(method = " ++ quoted "DELETE" ++
      (", path = " ++ quoted (path e) ++ ", hasBody = true)") := by
  constructor
  · rw [deletesWithBody, Bool.and_eq_true, beq_iff_eq] at h
    exact h.1
  · rw [route, if_pos h]
    simp [← String.toList_inj, toString, quoted, Quoted.write, Quoted.escape]

/-- Other routes have their verb in front of the path, and no verb looks like the general annotation.
-/
theorem named?_route {e : Endpoint} {verb : Verb} (hv : e.method = verb.name)
    (h : ¬ deletesWithBody e = true) :
    quotedBehind? "    @HTTP(method = " ("    " ++ route e).toList = none ∧
      named? "    @" (· == '(') ("    " ++ route e) =
        some (e.method, ("(" ++ quoted (path e) ++ ")").toList) := by
  have hline : "    " ++ route e = "    @" ++ e.method ++ ("(" ++ quoted (path e) ++ ")") := by
    rw [route, if_neg h]
    simp [← String.toList_inj, toString]
  have hword : Name.AllWord e.method.toList := hv ▸ verb.allWord_name
  constructor
  · rw [hline, hv]
    cases verb <;> simp [Verb.name, quotedBehind?, after?]
  · rw [hline]
    exact named?_word "    @" hword (by decide) (by simp)

/-- Whether or not it needs the general annotation, a route has the verb of the endpoint. -/
theorem verb?_function {e : Endpoint} {verb : Verb} (hv : e.method = verb.name) {m : Printed}
    (habove : m.above = "    " ++ route e) : Reader.Kotlin.verb? m = some e.method := by
  by_cases hd : deletesWithBody e = true
  · obtain ⟨hdelete, hline⟩ := route_of_deletesWithBody hd
    rw [Reader.Kotlin.verb?, habove, hline, String.toList_append, quotedBehind?_quoted, hdelete]
  · obtain ⟨hhttp, hname⟩ := named?_route hv hd
    rw [Reader.Kotlin.verb?, habove, hhttp, hname]
    rfl

/-- The lines of the arguments. -/
def argumentLines (e : Endpoint) : Lines :=
  (Lines.commaSeparated ((arguments e).map Argument.text)).map fun line => "        " ++ line

theorem function_of_eq_nil {e : Endpoint} (h : arguments e = []) : function e =
    [s!"/** {e.headline} */", route e, s!"suspend fun {e.methodName}(){returns e}"] := by
  unfold function
  rw [h]
  rfl

theorem function_of_ne_nil {e : Endpoint} (h : arguments e ≠ []) : function e =
    [s!"/** {e.headline} */", route e, s!"suspend fun {e.methodName}("] ++
      ((Lines.commaSeparated ((arguments e).map Argument.text)).map (fun line => "    " ++ line) ++
        [s!"){returns e}"]) := by
  have hempty : ¬ ((arguments e).map Argument.text).isEmpty = true := by
    simpa using h
  unfold function
  simp only [if_neg hempty]
  rfl

/-- The line with the name of a function. -/
def head (e : Endpoint) : String :=
  "    suspend fun " ++ e.methodName ++ if arguments e = [] then "()" ++ returns e else "("

/-- A function has the line of its route and that of its name. In the lines that follow are its
arguments, if there are any. -/
theorem indent_function (e : Endpoint) : Lines.indent (function e) 1 =
    ["    " ++ s!"/** {e.headline} */", "    " ++ route e, head e] ++
      if arguments e = [] then [] else argumentLines e ++ ["    )" ++ returns e] := by
  have hroute : route e ≠ "" := by
    unfold route
    split
    · simp [toString]
    · simp [toString]
  unfold head
  by_cases h : arguments e = []
  · rw [function_of_eq_nil h, Lines.indent_eq_map (by simp [hroute, toString]), if_pos h, if_pos h]
    simp [← String.toList_inj, toString]
  · have hlines : ∀ line ∈ function e, line ≠ "" := by
      intro line hl
      rw [function_of_ne_nil h] at hl
      simp only [List.mem_append, List.mem_cons, List.mem_map, List.not_mem_nil, or_false] at hl
      rcases hl with (rfl | rfl | rfl) | ⟨other, _, rfl⟩ | rfl
      · simp [toString]
      · exact hroute
      · simp [toString]
      · simp
      · simp [toString]
    rw [Lines.indent_eq_map hlines, function_of_ne_nil h, if_neg h, if_neg h]
    simp [← String.toList_inj, toString, argumentLines]

theorem named?_head (e : Endpoint) : named? "    suspend fun " (· == '(') (head e) =
    some (e.methodName, (if arguments e = [] then "()" ++ returns e else "(").toList) := by
  refine named?_word "    suspend fun " e.allWord_methodName (by decide) ?_
  split
  · simp
  · simp

/-- The line of an argument is neither the beginning nor the end of a function. -/
theorem of_mem_argumentLines {e : Endpoint} {line : String} (h : line ∈ argumentLines e) :
    begins "    suspend fun " line = false ∧ begins "    )" line = false := by
  obtain ⟨other, _, rfl⟩ := List.mem_map.1 h
  constructor
  · simp [begins, after?]
  · simp [begins, after?]

/-- Behind the name of a function stand its arguments, up to the closing bracket. -/
theorem takeWhile_argumentLines (e : Endpoint) (rest : Lines) :
    (argumentLines e ++ (("    )" ++ returns e) :: rest)).takeWhile (fun l => !begins "    )" l) =
      argumentLines e := by
  have hclose : begins "    )" ("    )" ++ returns e) = true := by
    simp [begins, after?]
  rw [List.takeWhile_append_of_pos fun line hl => by simp [(of_mem_argumentLines hl).2],
    List.takeWhile_cons_of_neg (by simp [hclose]), List.append_nil]

theorem begins_comment (e : Endpoint) :
    begins "    suspend fun " ("    " ++ s!"/** {e.headline} */") = false := by
  simp [begins, after?, toString]

theorem begins_route (e : Endpoint) : begins "    suspend fun " ("    " ++ route e) = false := by
  unfold route
  split
  · simp [begins, after?, toString]
  · simp [begins, after?, toString]

theorem begins_head (e : Endpoint) : begins "    suspend fun " (head e) = true := by
  unfold head
  rw [begins, String.append_assoc, String.toList_append, after?_append]
  rfl

theorem argumentLines?_function {e : Endpoint} {below : Lines}
    (hb : arguments e ≠ [] → below = argumentLines e) (above : String) :
    Reader.Kotlin.argumentLines? ⟨above, head e, below⟩ = some (argumentLines e) := by
  rw [Reader.Kotlin.argumentLines?, named?_head, Option.bind_eq_bind, Option.bind_some]
  by_cases h : arguments e = []
  · have hlist : ("()" ++ returns e).toList ≠ ['('] := by
      simp
    dsimp only
    rw [if_pos h, if_neg hlist, String.toList_append, goesOn_append, if_pos rfl, argumentLines, h]
    rfl
  · rw [if_neg h, hb h]
    exact if_pos (by simp)

/-- The lines of a function hold one function, with its route above it and its arguments. -/
theorem has_function {e : Endpoint} {P : Printed → Prop}
    (h : ∀ m : Printed, m.above = "    " ++ route e → m.head = head e →
      Reader.Kotlin.argumentLines? m = some (argumentLines e) → P m) :
    Reader.Kotlin.dialect.Has P (Lines.indent (function e) 1) := by
  let tail := if arguments e = [] then [] else argumentLines e ++ ["    )" ++ returns e]
  have hblock : Lines.indent (function e) 1 =
      ["    " ++ s!"/** {e.headline} */"] ++ ("    " ++ route e) :: head e :: tail := by
    rw [indent_function]
    rfl
  have htail : Without "    suspend fun " tail := by
    have hlines : Without "    suspend fun " (argumentLines e) :=
      fun line hl => (of_mem_argumentLines hl).1
    by_cases h : arguments e = []
    · simp [tail, h]
    · simp [tail, h, hlines, begins, after?]
  rw [hblock]
  refine Dialect.has_of ?_ ?_ htail fun rest => h _ rfl rfl ?_
  · simp only [without_append, without_cons]
    exact ⟨⟨begins_comment e, without_nil⟩, begins_route e, without_nil⟩
  · exact begins_head e
  · refine argumentLines?_function (fun hne => ?_) _
    have hbelow : tail ++ rest = argumentLines e ++ ("    )" ++ returns e) :: rest := by
      simp [tail, hne]
    rw [hbelow]
    exact takeWhile_argumentLines e rest

theorem parameters?_argumentLines (e : Endpoint) :
    parameters? (argumentLines e) = some ((arguments e).map Argument.text) :=
  parameters?_commaSeparated _

/-- The annotations are read whatever the types are. -/
theorem annotations?_function {e : Endpoint} {m : Printed}
    (hm : Reader.Kotlin.argumentLines? m = some (argumentLines e)) :
    Reader.Kotlin.annotations? m = some ((arguments e).map fun a => (a.marker, a.key)) := by
  rw [Reader.Kotlin.annotations?, hm, Option.bind_eq_bind, Option.bind_some,
    parameters?_argumentLines, Option.bind_some]
  exact mapM_map_eq_some fun a ha => by rw [annotation?_text (allWord_marker ha)]; rfl

theorem arguments?_function {e : Endpoint} (h : e.IsLegible) {m : Printed}
    (hm : Reader.Kotlin.argumentLines? m = some (argumentLines e)) :
    Reader.Kotlin.arguments? m = some ((arguments e).map Argument.read) := by
  rw [Reader.Kotlin.arguments?, hm, Option.bind_eq_bind, Option.bind_some,
    parameters?_argumentLines, Option.bind_some]
  exact mapM_map_eq_some fun a ha =>
    argument?_text (allWord_marker ha) (allWord_name ha) (isType_type h ha)

/-- The arguments of a function are read in its lines. -/
theorem argumentsOf?_function {e : Endpoint} (h : e.IsLegible) :
    Reader.Kotlin.argumentsOf? (Lines.indent (function e) 1) =
      some ((arguments e).map Argument.read) := by
  have hhas : Reader.Kotlin.dialect.Has
      (fun m => Reader.Kotlin.argumentLines? m = some (argumentLines e))
      (Lines.indent (function e) 1) := has_function fun m _ _ hm => hm
  obtain ⟨m, hm, hlines⟩ := hhas.exists_only?
  rw [Reader.Kotlin.argumentsOf?, hm, Option.bind_some, arguments?_function h hlines]

theorem name?_function {e : Endpoint} {m : Printed} (hhead : m.head = head e) :
    Reader.Kotlin.dialect.name? m = some e.methodName := by
  rw [Dialect.name?, hhead]
  exact congrArg (Option.map Prod.fst) (named?_head e)

/-- The name of a function and the lines of its arguments are read as the request of the endpoint.
-/
theorem call?_function {e : Endpoint} (h : e.IsLegible) {verb : Verb} (hv : e.method = verb.name)
    {m : Printed} (habove : m.above = "    " ++ route e) (hhead : m.head = head e)
    (hm : Reader.Kotlin.argumentLines? m = some (argumentLines e)) :
    Reader.Kotlin.call? m = some e.call := by
  have hquery := keys_arguments e (by decide : "Query" ≠ "Body")
  have hheaders := keys_arguments e (by decide : "Header" ≠ "Body")
  have hbody : ((arguments e).map Argument.read).any (·.marker == "Body") = e.body.isSome := by
    rw [List.any_map, ← any_body_arguments]
    rfl
  unfold Reader.Kotlin.call?
  simp only [hhead, named?_head, verb?_function hv habove, arguments?_function h hm,
    Option.bind_eq_bind, Option.bind_some, hquery, hheaders, hbody]
  simp [Endpoint.call]

/-! ## Files -/

/-- Up to the functions of a client no line stands further to the right. -/
theorem without_opening (api : Api) (source : String) :
    Without "  " (Lines.header source ++ imports api ++ title api ++
      [s!"interface {api.clientName} \x7b", ""]) := by
  have himported : Without "  " ((imported api).map fun name => "import retrofit2.http." ++ name) :=
    without_map (begins_append_of_differ rfl) (imported api)
  have hmodels : Without "  "
      (if api.models.isEmpty then [""] else Model.Kotlin.imports api.models) := by
    unfold Model.Kotlin.imports
    split
    · simp [begins, after?]
    · split <;> simp [begins, after?]
  have htitle : Without "  " (title api) := by
    unfold title
    split <;> simp [begins, after?, toString]
  rw [imports]
  simp only [without_append, himported, hmodels, htitle, Lines.header, Lines.provenance,
    without_cons, without_nil, toString, String.append_assoc, and_true]
  repeat' apply And.intro
  -- unfolding would take the texts apart, which are compared as they are written
  all_goals first
    | with_reducible exact begins_of_differ (by decide)
    | with_reducible exact begins_append_of_differ (by decide) _
    | rfl

/-- The lines of the companion import nothing, begin no function and rename no property. -/
theorem without_companion (api : Api) :
    ∀ mark ∈ ["import ", "    suspend fun ", "    @SerialName(\""],
      Without mark (companion api) := by
  simp only [List.forall_mem_cons, List.not_mem_nil, false_implies, implies_true, companion,
    without_cons, without_nil, toString, String.append_assoc, and_true]
  repeat' apply And.intro
  -- unfolding would take the texts apart, which are compared as they are written
  all_goals first
    | with_reducible exact begins_of_differ (by decide)
    | with_reducible exact begins_append_of_differ (by decide) _
    | rfl

theorem without_declarations (fields : List CodeField) :
    Without "suspend fun " (Model.Kotlin.declarations fields) := by
  have hannotations : ∀ f, Without "suspend fun " (Model.Kotlin.annotations f) := by
    intro f
    rw [Model.Kotlin.annotations, without_append]
    constructor
    · intro line hl
      obtain ⟨words, rfl⟩ := Lines.mem_docComment hl
      simp [Lines.CommentStyle.opening, begins, after?]
    · split
      · simp [begins, after?, toString]
      · exact without_nil
  have hdeclaration : ∀ f comma,
      begins "suspend fun " (Model.Kotlin.declaration f ++ comma) = false := by
    intro f comma
    unfold Model.Kotlin.declaration
    simp [begins, after?, toString]
  -- the last declaration has no comma, so it is a case of its own
  induction fields using Model.Kotlin.declarations.induct with
  | case1 => exact without_nil
  | case2 f =>
      have hf := hdeclaration f ""
      rw [String.append_empty] at hf
      simp [Model.Kotlin.declarations, hannotations, hf]
  | case3 f rest hrest ih =>
      rw [Model.Kotlin.declarations.eq_3 f rest hrest]
      simp [hannotations, hdeclaration, ih]

theorem without_dataClass (m : Model) : Without "    suspend fun " (Model.Kotlin.dataClass m) := by
  have hcomment : Without "    suspend fun " (Model.Kotlin.classComment m.description) := by
    intro line hl
    obtain ⟨rest, rfl | rfl⟩ := Model.Kotlin.of_mem_classComment hl
    · simp [begins, after?]
    · simp [begins, after?]
  have hdeclarations : Without "    suspend fun "
      (Lines.indent (Model.Kotlin.declarations (m.fields .android)) 1) :=
    (without_declarations (m.fields .android)).shifted (by decide : "    " ≠ "")
  rw [Model.Kotlin.dataClass, without_append, without_append]
  refine ⟨⟨hcomment, by simp [begins, after?]⟩, ?_⟩
  split
  · simp [begins, after?, toString]
  · simp [hdeclarations, begins, after?, toString]

/-- The functions of a client are those of its endpoints. -/
theorem forall₂_methods_file {api : Api} {P : Endpoint → Printed → Prop}
    (h : ∀ e ∈ api.endpoints,
      Reader.Kotlin.dialect.Has (P e) (Lines.indent (function e) 1)) (source : String) :
    List.Forall₂ P api.endpoints (Reader.Kotlin.dialect.methodsIn (file api source)) := by
  have htail : Without "    suspend fun "
      (companion api ++ api.models.flatMap Model.Kotlin.dataClass) :=
    without_append.2 ⟨without_companion api _ (by simp),
      without_flatMap fun m _ => without_dataClass m⟩
  have hopening := (without_opening api source).longer "  suspend fun "
  rw [file, List.append_assoc, List.append_assoc]
  refine Dialect.forall₂_methods hopening (fun e he => ?_) htail
  exact (h e he).append (by simp [Reader.Kotlin.dialect, begins, after?])

end SpecForge.Api.Kotlin
