import SpecForge.Proofs.Api.Client
import SpecForge.Proofs.Shape.Api

/-!
# The content type of a body

An operation declares the content type of its body: the first one in the table of contents. A client
announces a content type with every request that has a body. A Swift method does so in a statement
of its own. The other clients name one content type for all requests: in TypeScript the method that
sends them sets the header, in Kotlin the converter of the client does. So these two announce what
is declared only where it is the content type that they name.
-/

namespace SpecForge.Api

open Model.Reader Reader Text

/-! ### Reading what is announced -/

namespace Reader

/-- What follows a text in the first line that begins with it. -/
def firstBehind? (head : String) (lines : Lines) : Option (List Char) :=
  lines.findSome? fun line => after? head.toList line.toList

namespace Swift

/-- The text that a statement sets the content type to. -/
def contentType? (line : List Char) : Option String := do
  let (type, rest) ← quotedBehind? "request.setValue(" line
  if rest = ", forHTTPHeaderField: \"Content-Type\")".toList then some type else none

/-- What a statement sets the content type to, if it does: a text, or the value of an argument. -/
def setting? (line : List Char) : Option (Option String) :=
  match contentType? line with
  | some type => some (some type)
  | none => if headerName? line = some "Content-Type" then some none else none

/-- What statements set the content type to, one after the other. -/
def settings (lines : Lines) : List (Option String) := (statements lines).filterMap setting?

/-- The content types that methods announce. What a method sets last counts. -/
def announced (lines : Lines) : List (Option String) :=
  (dialect.methodsIn lines).map fun m => (settings m.below).getLast?.join

end Swift

namespace Kotlin

/-- What the line with the converter begins with. -/
def converterHead : String :=
  "                .addConverterFactory(json.asConverterFactory(\""

/-- The content type of the converter. Of several converters the first one is taken. -/
def converter? (lines : Lines) : Option String :=
  (firstBehind? converterHead lines).bind fun rest =>
    (Quoted.read? '"' rest).map fun r => String.ofList r.1

/-- Does a function send a body? -/
def sendsBody (m : Printed) : Bool := (annotations? m).any (·.any (·.1 == "Body"))

/-- The content types that functions announce. -/
def announced (lines : Lines) : List (Option String) :=
  (dialect.methodsIn lines).map fun m => if sendsBody m then converter? lines else none

end Kotlin

namespace TypeScript

/-- What the line begins with that sets the content type of all requests with a body. -/
def settingHead : String := "    if (body !== undefined) requestHeaders['Content-Type'] = '"

/-- The content type that is set for all requests. What is set last counts. -/
def setting? (lines : Lines) : Option String :=
  (firstBehind? settingHead lines.reverse).bind fun rest =>
    (Quoted.read? '\'' rest).map fun r => String.ofList r.1

/-- Does a method pass a body on? -/
def sendsBody (m : Printed) : Bool :=
  m.below.any fun line => (before? ", body);" line.toList).isSome

/-- The content types that methods announce. -/
def announced (lines : Lines) : List (Option String) :=
  (dialect.methodsIn lines).map fun m => if sendsBody m then setting? lines else none

end TypeScript

/-- The content types that the methods of a client announce, in order; none where there is no body.
-/
def announced : Platform → Lines → List (Option String)
  | .ios => Swift.announced
  | .android => Kotlin.announced
  | .web => TypeScript.announced

theorem firstBehind?_append {head : String} {front : Lines} (h : Without head front)
    (rest : String) (tail : Lines) :
    firstBehind? head (front ++ (head ++ rest) :: tail) = some rest.toList := by
  induction front with
  | nil => simp [firstBehind?]
  | cons line front ih =>
      rw [without_cons, begins, Option.isSome_eq_false_iff, Option.isNone_iff_eq_none] at h
      rw [List.cons_append, firstBehind?, List.findSome?_cons, h.1]
      exact ih h.2

end Reader

/-- Methods that announce one content type with each body. -/
theorem map_announced_eq {endpoints : List Endpoint} {ms : List Printed} {sends : Printed → Bool}
    {type : String} (h : List.Forall₂ (fun e m => sends m = e.body.isSome) endpoints ms) :
    (ms.map fun m => if sends m then some type else none) =
      endpoints.map fun e => e.body.map fun _ => type := by
  refine map_eq_map_of_forall₂ (h.imp fun e m hm => ?_)
  rw [hm]
  cases e.body with
  | none => rfl
  | some body => rfl

/-! ### Swift -/

namespace Swift

/-- No statement begins with the text. -/
def Silent (head : String) (lines : Lines) : Prop :=
  ∀ line ∈ Reader.Swift.statements lines, goesOn head line = false

instance (head : String) (lines : Lines) : Decidable (Silent head lines) :=
  inferInstanceAs (Decidable (∀ line ∈ Reader.Swift.statements lines, goesOn head line = false))

/-- What sets a header to a text. -/
def fixedHead : String := "request.setValue(\""

section Silent

variable {head : String} {lines lines' : Lines}

theorem silent_nil : Silent head [] := fun _ hl => absurd hl List.not_mem_nil

theorem silent_append (h : Silent head lines) (h' : Silent head lines') :
    Silent head (lines ++ lines') := by
  rw [Silent, Reader.Swift.statements, List.map_append, List.forall_mem_append]
  exact ⟨h, h'⟩

theorem silent_flatMap {α : Type} {lines : α → Lines} {items : List α}
    (h : ∀ a ∈ items, Silent head (lines a)) : Silent head (items.flatMap lines) := by
  induction items with
  | nil => exact silent_nil
  | cons a items ih =>
      rw [List.flatMap_cons]
      exact silent_append (h a List.mem_cons_self) (ih fun b hb => h b (List.mem_cons_of_mem a hb))

theorem silent_blanks {line : String} (h : Silent head [line]) :
    Silent head ["    " ++ line] := by
  have hs : Reader.Swift.statements ["    " ++ line] = Reader.Swift.statements [line] := by
    simp [Reader.Swift.statements]
  rw [Silent, hs]
  exact h

end Silent

/-- A statement that begins with other words than those of the request sets nothing. -/
theorem silent_of_ne {c : Char} {cs : List Char} {line : String} (hline : line.toList = c :: cs)
    (hc : c ≠ ' ' ∧ c ≠ 'r') : Silent fixedHead [line] := by
  have hs : Reader.Swift.statements [line] = [c :: cs] := by
    simp [Reader.Swift.statements, hline, hc.1]
  simp [Silent, hs, fixedHead, goesOn, after?, hc.2.symm]

theorem silent_whenGiven {statement : String} (h : Silent fixedHead [statement])
    (param : Parameter) : Silent fixedHead (whenGiven param statement) := by
  have hopen : Silent fixedHead [s!"if let {param.identifier} = {param.identifier} \x7b"] :=
    silent_of_ne (c := 'i') (by simp [toString]; rfl) (by decide)
  have hclose : Silent fixedHead ["\x7d"] := silent_of_ne (c := '\x7d') rfl (by decide)
  rw [whenGiven]
  split
  · exact h
  · simpa [toString] using silent_append (silent_append hopen (silent_blanks h)) hclose

theorem silent_queryLines (e : Endpoint) : Silent fixedHead (queryLines e) := by
  have hitem : ∀ param : Parameter, Silent fixedHead [queryItem param] := fun param =>
    silent_of_ne (c := 'q') (by rw [queryItem_eq]; simp; rfl) (by decide)
  have hfirst : Silent fixedHead ["var queryItems: [URLQueryItem] = []"] :=
    silent_of_ne (c := 'v') rfl (by decide)
  have hlast : Silent fixedHead
      ["components?.queryItems = queryItems.isEmpty ? nil : queryItems"] :=
    silent_of_ne (c := 'c') rfl (by decide)
  rw [queryLines]
  split
  · exact silent_nil
  · exact silent_append (silent_append hfirst
      (silent_flatMap fun param _ => silent_whenGiven (hitem param) param)) hlast

/-- A header that is set to an argument is not set to a text. -/
theorem silent_headerField (param : Parameter) : Silent fixedHead [headerField param] := by
  have hs : Reader.Swift.statements [headerField param] = [(headerField param).toList] := by
    simp [Reader.Swift.statements, headerField_eq]
  rw [Silent, hs, headerField_eq]
  simp [fixedHead, goesOn, after?]

/-- The statements of a method up to those that send the body. -/
def upToBody (client : String) (e : Endpoint) : Lines :=
  ["var components = URLComponents(url: baseURL.appendingPathComponent(\"" ++ path e ++
    "\"), resolvingAgainstBaseURL: false)"] ++
  queryLines e ++
  ["guard let url = components?.url else \x7b",
    s!"    throw {client}Error.invalidURL",
    "\x7d",
    "var request = URLRequest(url: url)",
    s!"request.httpMethod = {quoted e.method}"] ++
  e.headerParams.flatMap (fun param => whenGiven param (headerField param))

theorem statements_eq (client : String) (e : Endpoint) : statements client e =
    upToBody client e ++ ((e.body.map bodyLines).getD [] ++ [sendLine e]) :=
  List.append_assoc ..

theorem silent_upToBody (client : String) (e : Endpoint) :
    Silent fixedHead (upToBody client e) := by
  have hcomponents : Silent fixedHead [
      "var components = URLComponents(url: baseURL.appendingPathComponent(\"" ++ path e ++
        "\"), resolvingAgainstBaseURL: false)"] :=
    silent_of_ne (c := 'v') (by simp; rfl) (by decide)
  have hrequest : Silent fixedHead ["guard let url = components?.url else \x7b",
      s!"    throw {client}Error.invalidURL",
      "\x7d",
      "var request = URLRequest(url: url)",
      s!"request.httpMethod = {quoted e.method}"] := by
    simp [Silent, Reader.Swift.statements, fixedHead, goesOn, after?, toString]
  exact silent_append (silent_append (silent_append hcomponents (silent_queryLines e)) hrequest)
    (silent_flatMap fun param _ => silent_whenGiven (silent_headerField param) param)

theorem contentType?_eq_none {line : List Char} (h : goesOn fixedHead line = false) :
    Reader.Swift.contentType? line = none := by
  rw [goesOn, Option.isSome_eq_false_iff, Option.isNone_iff_eq_none] at h
  have hopening : after? ("request.setValue(".toList ++ ['"']) line = none := h
  simp only [Reader.Swift.contentType?, quotedBehind?, hopening, Option.bind_eq_bind,
    Option.bind_none]

/-- Statements that set no header have no settings. -/
theorem settings_eq_nil {lines : Lines} (h : Silent "request.setValue(" lines) :
    Reader.Swift.settings lines = [] := by
  refine List.filterMap_eq_nil_iff.2 fun line hl => ?_
  have hheader : Reader.Swift.headerName? line = none := by
    have hlonger := goesOn_eq_false_of_left (h line hl) "String(describing: "
    rw [goesOn, Option.isSome_eq_false_iff, Option.isNone_iff_eq_none] at hlonger
    have hopening : after? "request.setValue(String(describing: ".toList line = none := hlonger
    simp only [Reader.Swift.headerName?, hopening, Option.bind_eq_bind, Option.bind_none]
  rw [Reader.Swift.setting?, contentType?_eq_none (goesOn_eq_false_of_left (h line hl) "\""),
    hheader]
  rfl

theorem settings_append (lines lines' : Lines) : Reader.Swift.settings (lines ++ lines') =
    Reader.Swift.settings lines ++ Reader.Swift.settings lines' := by
  rw [Reader.Swift.settings, Reader.Swift.statements, List.map_append, List.filterMap_append]
  rfl

theorem settings_indent (lines : Lines) :
    Reader.Swift.settings (Lines.indent lines 1) = Reader.Swift.settings lines := by
  have hblanks : ∀ c ∈ (Lines.indentation 1).toList, c = ' ' := by
    intro c hc
    rw [Lines.indentation, String.toList_ofList] at hc
    exact List.eq_of_mem_replicate hc
  rw [Reader.Swift.settings, Lines.indent, statements_shifted hblanks]
  rfl

theorem eq_none_of_mem_settings {lines : Lines} (h : Silent fixedHead lines) :
    ∀ setting ∈ Reader.Swift.settings lines, setting = none := by
  intro setting hs
  obtain ⟨line, hl, hset⟩ := List.mem_filterMap.1 hs
  rw [Reader.Swift.setting?, contentType?_eq_none (h line hl)] at hset
  dsimp only at hset
  split at hset
  · exact (Option.some.inj hset).symm
  · cases hset

theorem setting?_contentTypeLine (body : RequestBody) :
    Reader.Swift.setting? (contentTypeLine body).toList = some (some body.contentType) := by
  have hquoted := quotedBehind?_quoted "request.setValue(" body.contentType
    ", forHTTPHeaderField: \"Content-Type\")".toList
  rw [← String.toList_append, ← contentTypeLine_eq] at hquoted
  have htype : Reader.Swift.contentType? (contentTypeLine body).toList =
      some body.contentType := by
    rw [Reader.Swift.contentType?, hquoted, Option.bind_eq_bind, Option.bind_some]
    exact if_pos rfl
  rw [Reader.Swift.setting?, htype]

/-- Required or not, a body has the declared content type. -/
theorem settings_bodyLines (body : RequestBody) :
    Reader.Swift.settings (bodyLines body) = [some body.contentType] := by
  have hline : Reader.Swift.statements [contentTypeLine body] =
      [(contentTypeLine body).toList] := by
    simp [Reader.Swift.statements, contentTypeLine_eq]
  have htype : Reader.Swift.settings [contentTypeLine body] = [some body.contentType] := by
    rw [Reader.Swift.settings, hline, List.filterMap_cons, setting?_contentTypeLine]
    rfl
  have hblanks : Reader.Swift.settings ["    " ++ contentTypeLine body] =
      Reader.Swift.settings [contentTypeLine body] := by
    rw [Reader.Swift.settings, Reader.Swift.settings]
    simp [Reader.Swift.statements]
  have hencode : Reader.Swift.settings ["request.httpBody = try encoder.encode(body)"] = [] :=
    settings_eq_nil (by decide)
  have hopen : Reader.Swift.settings
      ["if let body = body \x7b", "    request.httpBody = try encoder.encode(body)"] = [] :=
    settings_eq_nil (by decide)
  have hclose : Reader.Swift.settings ["\x7d"] = [] := settings_eq_nil (by decide)
  rw [bodyLines]
  split
  · rw [← List.singleton_append, settings_append, hencode, htype]
    rfl
  · have hlines : ["if let body = body \x7b", "    request.httpBody = try encoder.encode(body)",
        s!"    {contentTypeLine body}", "\x7d"] =
          ["if let body = body \x7b", "    request.httpBody = try encoder.encode(body)"] ++
            (["    " ++ contentTypeLine body] ++ ["\x7d"]) := by
      simp [toString]
    rw [hlines, settings_append, settings_append, hopen, hblanks, htype, hclose]
    rfl

theorem settings_sendLine (e : Endpoint) : Reader.Swift.settings [sendLine e] = [] := by
  refine settings_eq_nil ?_
  unfold sendLine
  split
  · simp [Silent, Reader.Swift.statements, goesOn, after?, toString]
  · decide

/-- A parameter of the headers may set the content type, but the body sets it behind that. -/
theorem settings_statements (client : String) (e : Endpoint) :
    (Reader.Swift.settings (statements client e)).getLast?.join = e.body.map (·.contentType) := by
  have hfront := eq_none_of_mem_settings (silent_upToBody client e)
  rw [statements_eq, settings_append, settings_append, settings_sendLine, List.append_nil]
  cases e.body with
  | none =>
      have hnil : Reader.Swift.settings ((Option.map bodyLines none).getD []) = [] := rfl
      rw [hnil, List.append_nil]
      cases hlast : (Reader.Swift.settings (upToBody client e)).getLast? with
      | none => rfl
      | some setting =>
          rw [hfront setting (List.mem_of_getLast? hlast)]
          rfl
  | some body =>
      rw [Option.map_some, Option.getD_some, settings_bodyLines, List.getLast?_concat]
      rfl

/-- Each method of a client announces the declared content type. -/
theorem announced_file (api : Api) (source : String) :
    Reader.Swift.announced (file api source) =
      api.endpoints.map fun e => e.body.map (·.contentType) := by
  have hall : List.Forall₂ (fun e m =>
      (Reader.Swift.settings m.below).getLast?.join = e.body.map (·.contentType))
        api.endpoints (Reader.Swift.dialect.methodsIn (file api source)) := by
    refine forall₂_methods_file (fun e _ => has_method ?_) source
    rw [settings_indent, settings_indent, settings_statements]
  exact map_eq_map_of_forall₂ hall

end Swift

/-! ### Kotlin -/

namespace Kotlin

theorem sendsBody_function {e : Endpoint} {m : Printed}
    (hm : Reader.Kotlin.argumentLines? m = some (argumentLines e)) :
    Reader.Kotlin.sendsBody m = e.body.isSome := by
  rw [Reader.Kotlin.sendsBody, annotations?_function hm, Option.any_some, List.any_map,
    ← any_body_arguments]
  rfl

/-- No line of a function stands as far to the right as the converter. -/
theorem without_function (e : Endpoint) :
    Without "         " (Lines.indent (function e) 1) := by
  have hlines : Without "         " (argumentLines e) := by
    intro line hl
    obtain ⟨other, ho, rfl⟩ := List.mem_map.1 hl
    obtain ⟨text, ht, hother⟩ := Lines.mem_commaSeparated ho
    obtain ⟨a, _, rfl⟩ := List.mem_map.1 ht
    rcases hother with rfl | rfl
    · simp [begins, a.text_eq, after?]
    · simp [begins, a.text_eq, after?]
  have hroute : begins "         " ("    " ++ route e) = false := by
    unfold route
    split
    · simp [begins, after?, toString]
    · simp [begins, after?, toString]
  have hhead : begins "         " (head e) = false := by
    unfold head
    rw [String.append_assoc]
    exact begins_append_of_differ (by decide) _
  rw [indent_function, without_append, without_cons, without_cons, without_cons]
  refine ⟨⟨by simp [begins, after?, toString], hroute, hhead, without_nil⟩, ?_⟩
  split
  · exact without_nil
  · simp [hlines, begins, after?]

theorem converter?_file (api : Api) (source : String) :
    Reader.Kotlin.converter? (file api source) = some "application/json" := by
  let front := Lines.header source ++ imports api ++ title api ++
    [s!"interface {api.clientName} \x7b", ""] ++
    (api.endpoints.flatMap (fun e => Lines.indent (function e) 1 ++ [""]) ++
      (companion api).take 7)
  let tail := (companion api).drop 8 ++ api.models.flatMap Model.Kotlin.dataClass
  have hfile : file api source = front ++ (Reader.Kotlin.converterHead ++
      "application/json\".toMediaType()))") :: tail := by
    simp only [file, front, tail, List.append_assoc]
    rfl
  have hfront : Without Reader.Kotlin.converterHead front := by
    have hopening := (without_opening api source).longer
      "              .addConverterFactory(json.asConverterFactory(\""
    have hfunctions : Without "         "
        (api.endpoints.flatMap fun e => Lines.indent (function e) 1 ++ [""]) :=
      without_flatMap fun e _ => without_append.2 ⟨without_function e, by simp [begins, after?]⟩
    have hcompanion : Without Reader.Kotlin.converterHead ((companion api).take 7) := by
      simp only [companion, List.take_succ_cons, List.take_zero, without_cons, without_nil,
        Reader.Kotlin.converterHead, toString, String.append_assoc, and_true]
      repeat' apply And.intro
      all_goals first
        | with_reducible exact begins_of_differ (by decide)
        | with_reducible exact begins_append_of_differ (by decide) _
        | rfl
    exact without_append.2 ⟨hopening, without_append.2 ⟨hfunctions.longer
      "       .addConverterFactory(json.asConverterFactory(\"", hcompanion⟩⟩
  rw [Reader.Kotlin.converter?, hfile, firstBehind?_append hfront]
  decide

/-- Each function with a body announces the content type of the converter. -/
theorem announced_file (api : Api) (source : String) :
    Reader.Kotlin.announced (file api source) =
      api.endpoints.map fun e => e.body.map fun _ => "application/json" := by
  have hall : List.Forall₂ (fun e m => Reader.Kotlin.sendsBody m = e.body.isSome) api.endpoints
      (Reader.Kotlin.dialect.methodsIn (file api source)) :=
    forall₂_methods_file (fun e _ => has_function fun m _ _ hm => sendsBody_function hm) source
  rw [Reader.Kotlin.announced, converter?_file]
  exact map_announced_eq hall

end Kotlin

/-! ### TypeScript -/

namespace TypeScript

theorem sendsBody_method (e : Endpoint) (above head : String) :
    Reader.TypeScript.sendsBody ⟨above, head, [urlLine e, requestLine e]⟩ = e.body.isSome := by
  have hurl : before? ", body);" (urlLine e).toList = none := by
    unfold urlLine
    split
    · simp [before?, after?]
    · simp [before?, after?]
  have hrequest : (before? ", body);" (requestLine e).toList).isSome = e.body.isSome := by
    unfold requestLine headersText bodyText
    cases e.body.isSome with
    | true => simp [before?, after?]
    | false =>
        split
        · simp [before?, after?]
        · simp [before?, after?]
  simp [Reader.TypeScript.sendsBody, hurl, hrequest]

/-- Below the line that sets the content type no line of the transport sets it again. -/
theorem without_setting (client : String) :
    Without "  if (body !== undefined) requestHeaders['Content-Type'] = '"
      ((transport client).drop 25) := by
  simp only [transport, List.drop_succ_cons, List.drop_zero, without_cons, without_nil, toString,
    String.append_assoc, and_true]
  repeat' apply And.intro
  -- unfolding would take the texts apart, which are compared as they are written
  all_goals first
    | with_reducible exact begins_of_differ (by decide)
    | with_reducible exact begins_append_of_differ (by decide) _

theorem setting?_file (api : Api) (source : String) :
    Reader.TypeScript.setting? (file api source) = some "application/json" := by
  let transport := Lines.shifted "  " (transport api.clientName)
  let front := Lines.header source ++ api.models.flatMap Model.TypeScript.interface ++
    support api.clientName ++ opening api ++
    api.endpoints.flatMap (fun e => Lines.shifted "  " (method e) ++ [""]) ++ transport.take 24
  let tail := transport.drop 25 ++ ["\x7d", ""]
  have hfile : file api source =
      front ++ (Reader.TypeScript.settingHead ++ "application/json';") :: tail := by
    simp only [file, front, tail, List.append_assoc]
    rfl
  have htail : Without Reader.TypeScript.settingHead tail.reverse := by
    have hbelow := (without_setting api.clientName).shifted (by decide : "  " ≠ "")
    have hclosing : Without Reader.TypeScript.settingHead ["\x7d", ""] := by
      simp only [without_cons, without_nil, and_true]
      exact ⟨rfl, rfl⟩
    have hdrop : transport.drop 25 =
        Lines.shifted "  " ((TypeScript.transport api.clientName).drop 25) := List.map_drop.symm
    intro line hl
    rw [List.mem_reverse] at hl
    exact without_append.2 ⟨hdrop ▸ hbelow, hclosing⟩ line hl
  have hreverse : (file api source).reverse =
      tail.reverse ++ (Reader.TypeScript.settingHead ++ "application/json';") :: front.reverse := by
    rw [hfile]
    simp
  rw [Reader.TypeScript.setting?, hreverse, firstBehind?_append htail]
  decide

/-- Each method with a body announces the content type that is set for all requests. -/
theorem announced_file (api : Api) (source : String) :
    Reader.TypeScript.announced (file api source) =
      api.endpoints.map fun e => e.body.map fun _ => "application/json" := by
  have hall : List.Forall₂ (fun e m => Reader.TypeScript.sendsBody m = e.body.isSome) api.endpoints
      (Reader.TypeScript.dialect.methodsIn (file api source)) :=
    forall₂_methods_file (fun e _ => has_method (sendsBody_method e _ _)) source
  rw [Reader.TypeScript.announced, setting?_file]
  exact map_announced_eq hall

end TypeScript

/-! ### What is announced and what is declared -/

/-- The content type that a client announces with a body. -/
def announcedType (p : Platform) (body : RequestBody) : String :=
  match p with
  | .ios => body.contentType
  | _ => "application/json"

theorem announced_code (api : Api) (p : Platform) (source : String) :
    announced p (api.code p source) =
      api.endpoints.map fun e => e.body.map (announcedType p) := by
  cases p with
  | ios => exact Swift.announced_file api source
  | android => exact Kotlin.announced_file api source
  | web => exact TypeScript.announced_file api source

theorem map_announcedType_eq_iff (p : Platform) (e : Endpoint) :
    e.body.map (announcedType p) = e.body.map (·.contentType) ↔
      p = .ios ∨ ∀ body ∈ e.body, body.contentType = "application/json" := by
  cases e.body with
  | none => simp
  | some body => cases p <;> simp [announcedType, eq_comm]

/-- The content type that an operation declares for its body, the first one of its contents. -/
def Operation.contentType (o : Operation) : Value :=
  (firstKey (memberOrNull (memberOrNull o.value "requestBody") "content")).orElse
    (.str "application/json")

theorem contentType_of_requestBody {v : Value} {body : RequestBody} (h : requestBody v = .ok body) :
    Shape.text ((firstKey (memberOrNull v "content")).orElse (.str "application/json")) =
      .ok body.contentType := by
  obtain ⟨content, hpart, h⟩ := bind_eq_ok_iff.1 h
  obtain ⟨⟨key, schema⟩, hcontent, h⟩ := bind_eq_ok_iff.1 h
  obtain ⟨type, _, h⟩ := bind_eq_ok_iff.1 h
  rw [checked_eq_ok_iff] at h
  obtain ⟨type', _, h⟩ := bind_eq_ok_iff.1 h
  obtain ⟨description, _, h⟩ := bind_eq_ok_iff.1 h
  obtain ⟨contentType, htype, h⟩ := bind_eq_ok_iff.1 h
  cases h
  rw [memberOrNull_of_part hpart, ← (firstContent_eq_ok hcontent).1]
  exact Shape.under_eq_ok_iff.1 htype

/-- Each operation with a body has an endpoint with the content type that it declares first. The
Swift client announces this content type with every body. The clients in Kotlin and TypeScript do so
if and only if no operation declares another one than `application/json`. -/
theorem announced_eq_declared_iff {doc : Value} {api : Api} (h : ofDocument doc = .ok api)
    (p : Platform) (source : String) :
    List.Forall₂ (fun o e => e.body.isSome = (memberOrNull o.value "requestBody").isGiven ∧
        ∀ body ∈ e.body, Shape.text o.contentType = .ok body.contentType)
      (declaredOperations doc) api.endpoints ∧
    announced p (api.code p source) =
      api.endpoints.map (fun e => e.body.map (announcedType p)) ∧
    (announced p (api.code p source) = api.endpoints.map (fun e => e.body.map (·.contentType)) ↔
      p = .ios ∨ ∀ e ∈ api.endpoints, ∀ body ∈ e.body, body.contentType = "application/json") := by
  have hcode := announced_code api p source
  refine ⟨(forall₂_reads h).imp fun o e hreads => ⟨hreads.hasBody, fun body hbody =>
    contentType_of_requestBody (hreads.body body hbody)⟩, hcode, ?_⟩
  rw [hcode, List.map_inj_left]
  simp only [map_announcedType_eq_iff, forall_or_left]

/-- A document with an operation that declares two content types for its body, and one without a
body. -/
def notesDocument : Value :=
  .record [("info", .record [("title", .str "Notes"), ("version", .str "1")]),
    ("paths", .record [("/notes", .record [
      ("get", .record [("operationId", .str "listNotes")]),
      ("post", .record [("operationId", .str "addNote"),
        ("requestBody", .record [("required", .bool true), ("content", .record [
          ("text/plain", .record [("schema", .record [("type", .str "string")])]),
          ("application/json", .record [])])])])])])]

/-- The bodies of the document, with the type that clients announce which have only one. -/
theorem bodies_notesDocument : ∃ api, ofDocument notesDocument = .ok api ∧
    api.endpoints.map (fun e => e.body.map (·.contentType)) = [none, some "text/plain"] ∧
    ∀ p ≠ .ios, api.endpoints.map (fun e => e.body.map (announcedType p)) =
      [none, some "application/json"] := by
  obtain ⟨api, hok, htypes⟩ : ∃ api, ofDocument notesDocument = .ok api ∧
      api.endpoints.map (fun e => e.body.map (·.contentType)) = [none, some "text/plain"] :=
    exists_ok_of_any (by decide +kernel)
  refine ⟨api, hok, htypes, fun p hp => ?_⟩
  have hfixed : api.endpoints.map (fun e => e.body.map (announcedType p)) =
      (api.endpoints.map fun e => e.body.map (·.contentType)).map
        (Option.map fun _ => "application/json") := by
    rw [List.map_map]
    refine List.map_congr_left fun e _ => ?_
    rw [Function.comp_apply, Option.map_map]
    cases p with
    | ios => exact absurd rfl hp
    | android => rfl
    | web => rfl
  rw [hfixed, htypes]
  rfl

theorem announced_eq_declared_notesDocument :
    ∃ api, ofDocument notesDocument = .ok api ∧
      announced .ios (api.code .ios "notes.json") = [none, some "text/plain"] ∧
      announced .android (api.code .android "notes.json") = [none, some "application/json"] := by
  obtain ⟨api, hok, htypes, hfixed⟩ := bodies_notesDocument
  obtain ⟨_, _, hios⟩ := announced_eq_declared_iff hok .ios "notes.json"
  obtain ⟨_, handroid, _⟩ := announced_eq_declared_iff hok .android "notes.json"
  exact ⟨api, hok, (hios.2 (.inl rfl)).trans htypes,
    handroid.trans (hfixed .android (by decide))⟩

/-- A plain text is declared, and the TypeScript client announces JSON. -/
theorem announced_ne_declared_notesDocument :
    ∃ api, ofDocument notesDocument = .ok api ∧
      api.endpoints.map (fun e => e.body.map (·.contentType)) = [none, some "text/plain"] ∧
      announced .web (api.code .web "notes.json") = [none, some "application/json"] := by
  obtain ⟨api, hok, htypes, hfixed⟩ := bodies_notesDocument
  exact ⟨api, hok, htypes, (announced_code api .web "notes.json").trans
    (hfixed .web (by decide))⟩

end SpecForge.Api
