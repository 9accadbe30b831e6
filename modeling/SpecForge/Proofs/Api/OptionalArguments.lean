import SpecForge.Proofs.Api.Names

/-!
# Optional arguments in Swift

An argument of a method may be optional, and then the statement that sends it has to stand in a
block that unwraps it. Two different questions decide this. A declaration is optional if the
parameter is not required and is no parameter of the path; a statement stands in such a block if the
parameter is not required. Whether a parameter is one of the path is asked of its contents, and not
of its place. So the two agree unless a parameter of the query or the headers, which is not
required, is the same as one of the path.
-/

namespace SpecForge.Api

open Model.Reader Reader Text

/-! ## The reader -/

namespace Reader

/-- A parameter that a statement sends: the name that it is sent under, the argument that it is made
from, and whether the statement stands in a block that unwraps this argument. -/
structure Sent where
  name : String
  argument : String
  isUnwrapped : Bool
deriving DecidableEq

namespace Swift

/-- The name and the argument, if a statement adds a parameter to the query. -/
def queryItem? (line : List Char) : Option (String × String) := do
  let (name, rest) ← quotedBehind? "queryItems.append(URLQueryItem(name: " line
  let rest ← after? ", value: String(describing: ".toList rest
  return (name, String.ofList (rest.takeWhile (· != ')')))

/-- The name and the argument, if a statement sets a header to an argument. -/
def headerField? (line : List Char) : Option (String × String) := do
  let rest ← after? "request.setValue(String(describing: ".toList line
  let (name, _) ← quotedBehind? "), forHTTPHeaderField: " (rest.dropWhile (· != ')'))
  return (name, String.ofList (rest.takeWhile (· != ')')))

/-- The name that a block unwraps, if a line opens one. -/
def unwraps? (line : List Char) : Option String := do
  let rest ← after? "if let ".toList line
  let name := rest.takeWhile (· != ' ')
  if rest = name ++ " = ".toList ++ name ++ " \x7b".toList then some (String.ofList name) else none

/-- The parameters that statements send, in a block that unwraps a name or in none. -/
def sentIn (unwrapped : Option String) : List (List Char) → List Sent
  | [] => []
  | line :: rest =>
    match unwraps? line with
    | some name => sentIn (some name) rest
    | none =>
      if line = ['\x7d'] then sentIn none rest
      else match (queryItem? line).orElse fun _ => headerField? line with
        | some (name, argument) =>
          ⟨name, argument, unwrapped == some argument⟩ :: sentIn unwrapped rest
        | none => sentIn unwrapped rest

/-- The parameters that the method in some lines sends. -/
def sent (lines : Lines) : List Sent := sentIn none (statements lines)

end Swift

end Reader

namespace Swift

/-- What statements send that stand in no block. -/
def Sends (lines : Lines) (sent : List Reader.Sent) : Prop :=
  ∀ rest, Reader.Swift.sentIn none (Reader.Swift.statements lines ++ rest) =
    sent ++ Reader.Swift.sentIn none rest

theorem Sends.append {lines lines' : Lines} {sent sent' : List Reader.Sent} (h : Sends lines sent)
    (h' : Sends lines' sent') : Sends (lines ++ lines') (sent ++ sent') := by
  intro rest
  rw [Reader.Swift.statements, List.map_append, List.append_assoc]
  exact (h _).trans (by rw [List.append_assoc, ← h' rest]; rfl)

theorem sends_nil : Sends [] [] := fun _ => rfl

theorem sends_flatMap {α : Type} {lines : α → Lines} {sent : α → Reader.Sent} {items : List α}
    (h : ∀ a ∈ items, Sends (lines a) [sent a]) :
    Sends (items.flatMap lines) (items.map sent) := by
  induction items with
  | nil => exact sends_nil
  | cons a items ih =>
      rw [List.flatMap_cons, List.map_cons, ← List.singleton_append]
      exact (h a List.mem_cons_self).append (ih fun b hb => h b (List.mem_cons_of_mem a hb))

/-- Blanks in front of statements do not matter. -/
theorem Sends.indent {lines : Lines} {sent : List Reader.Sent} (h : Sends lines sent) :
    Sends (Lines.indent lines 1) sent := by
  have hs : Reader.Swift.statements (Lines.indent lines 1) = Reader.Swift.statements lines := by
    refine statements_shifted (fun c hc => ?_) lines
    rw [Lines.indentation, String.toList_ofList] at hc
    exact (List.mem_replicate.1 hc).2
  intro rest
  rw [hs, h rest]

/-! ### Statements -/

/-- A statement that begins or ends no block and sends nothing. -/
structure Idle (line : List Char) : Prop where
  unwraps : Reader.Swift.unwraps? line = none
  ne_close : line ≠ ['\x7d']
  query : Reader.Swift.queryItem? line = none
  header : Reader.Swift.headerField? line = none

theorem Idle.sentIn_cons {line : List Char} (h : Idle line) (unwrapped : Option String)
    (rest : List (List Char)) :
    Reader.Swift.sentIn unwrapped (line :: rest) = Reader.Swift.sentIn unwrapped rest := by
  rw [Reader.Swift.sentIn, h.unwraps, if_neg h.ne_close, h.query, h.header]
  rfl

/-- A statement that begins with other words. -/
theorem idle_cons {c : Char} (hc : c ∉ ['i', '\x7d', 'q', 'r']) (cs : List Char) :
    Idle (c :: cs) := by
  simp only [List.mem_cons, List.not_mem_nil, or_false, not_or] at hc
  obtain ⟨hi, hclose, hq, hr⟩ := hc
  constructor
  · simp [Reader.Swift.unwraps?, after?, Ne.symm hi]
  · simp [hclose]
  · simp [Reader.Swift.queryItem?, quotedBehind?, after?, Ne.symm hq]
  · simp [Reader.Swift.headerField?, after?, Ne.symm hr]

/-- A statement about the request that sets no header to an argument. -/
theorem idle_request {cs : List Char} (h : Reader.Swift.headerField? ('r' :: cs) = none) :
    Idle ('r' :: cs) := by
  constructor
  · simp [Reader.Swift.unwraps?, after?]
  · simp
  · simp [Reader.Swift.queryItem?, quotedBehind?, after?]
  · exact h

theorem Idle.sends {line : String} {cs : List Char} (h : Idle cs)
    (hline : line.toList.dropWhile (· == ' ') = cs) : Sends [line] [] := by
  subst hline
  exact h.sentIn_cons none

theorem sends_close : Sends ["\x7d"] [] := fun _ => rfl

theorem unwraps?_opening (param : Parameter) :
    Reader.Swift.unwraps? (s!"if let {param.identifier} = {param.identifier} \x7b").toList =
      some param.identifier := by
  let behind := "= ".toList ++ param.identifier.toList ++ " \x7b".toList
  have htext : (s!"if let {param.identifier} = {param.identifier} \x7b").toList =
      "if let ".toList ++ (param.identifier.toList ++ ' ' :: behind) := by
    simp [behind, toString]
  have hname := takeWhile_word ' ' param.allWord_identifier (by decide) behind
  rw [Reader.Swift.unwraps?, htext, after?_append, Option.bind_eq_bind, Option.bind_some, hname,
    if_pos (by simp [behind]), String.ofList_toList]

/-- A statement that sends a parameter. -/
structure Passes (statement : String) (name argument : String) : Prop where
  trimmed : statement.toList.dropWhile (· == ' ') = statement.toList
  unwraps : Reader.Swift.unwraps? statement.toList = none
  ne_close : statement.toList ≠ ['\x7d']
  reading : ((Reader.Swift.queryItem? statement.toList).orElse fun _ =>
    Reader.Swift.headerField? statement.toList) = some (name, argument)

theorem Passes.sentIn_cons {statement name argument : String} (h : Passes statement name argument)
    (unwrapped : Option String) (rest : List (List Char)) :
    Reader.Swift.sentIn unwrapped (statement.toList :: rest) =
      ⟨name, argument, unwrapped == some argument⟩ :: Reader.Swift.sentIn unwrapped rest := by
  rw [Reader.Swift.sentIn, h.unwraps, if_neg h.ne_close, h.reading]

/-- What is sent for a parameter. -/
def sentFor (param : Parameter) : Reader.Sent :=
  ⟨param.name, param.identifier, !param.isRequired⟩

/-- A parameter is sent in a block unless it is required. -/
theorem Passes.whenGiven {param : Parameter} {statement : String}
    (h : Passes statement param.name param.identifier) :
    Sends (whenGiven param statement) [sentFor param] := by
  intro rest
  rw [Swift.whenGiven]
  cases hr : param.isRequired with
  | true =>
      rw [if_pos rfl, Reader.Swift.statements, List.map_singleton, h.trimmed, List.singleton_append,
        h.sentIn_cons, sentFor, hr]
      rfl
  | false =>
      have hopening : ((s!"if let {param.identifier} = {param.identifier} \x7b").toList.dropWhile
          (· == ' ')) = (s!"if let {param.identifier} = {param.identifier} \x7b").toList := by
        simp [toString]
      have hinner : (s!"    {statement}").toList.dropWhile (· == ' ') = statement.toList := by
        simp [toString, h.trimmed]
      rw [if_neg (by decide), Reader.Swift.statements]
      simp only [List.map_cons, List.map_nil, List.cons_append, List.nil_append, hopening, hinner]
      rw [Reader.Swift.sentIn, unwraps?_opening]
      dsimp only
      rw [h.sentIn_cons, sentFor, hr]
      simp
      rfl

theorem queryItem?_queryItem (param : Parameter) :
    Reader.Swift.queryItem? (queryItem param).toList = some (param.name, param.identifier) := by
  have hquoted := quotedBehind?_quoted "queryItems.append(URLQueryItem(name: " param.name
    (", value: String(describing: " ++ (param.identifier ++ ")))")).toList
  have hclose : (")))" : String).toList = ')' :: [')', ')'] := rfl
  have hword := takeWhile_word ')' param.allWord_identifier (by decide) [')', ')']
  rw [← String.toList_append, ← queryItem_eq, String.toList_append] at hquoted
  rw [Reader.Swift.queryItem?, hquoted, Option.bind_eq_bind, Option.bind_some]
  dsimp only
  rw [after?_append, Option.bind_eq_bind, Option.bind_some, String.toList_append, hclose, hword,
    String.ofList_toList]
  rfl

theorem headerField?_headerField (param : Parameter) :
    Reader.Swift.headerField? (headerField param).toList = some (param.name, param.identifier) := by
  have hclose : ("), forHTTPHeaderField: " ++ quoted param.name ++ ")").toList =
      ')' :: (", forHTTPHeaderField: " ++ quoted param.name ++ ")").toList := by
    simp
  have hdrop := dropWhile_word ')' param.allWord_identifier (by decide)
    (", forHTTPHeaderField: " ++ quoted param.name ++ ")").toList
  have htake := takeWhile_word ')' param.allWord_identifier (by decide)
    (", forHTTPHeaderField: " ++ quoted param.name ++ ")").toList
  have hquoted := quotedBehind?_quoted "), forHTTPHeaderField: " param.name ")".toList
  rw [← String.toList_append, hclose] at hquoted
  rw [Reader.Swift.headerField?, headerField_eq, String.toList_append, after?_append,
    Option.bind_eq_bind, Option.bind_some, String.toList_append, hclose, hdrop, hquoted, htake,
    String.ofList_toList]
  rfl

theorem passes_queryItem (param : Parameter) :
    Passes (queryItem param) param.name param.identifier := by
  constructor
  · simp [queryItem_eq]
  · simp [queryItem_eq, Reader.Swift.unwraps?, after?]
  · simp [queryItem_eq]
  · rw [queryItem?_queryItem]
    rfl

theorem passes_headerField (param : Parameter) :
    Passes (headerField param) param.name param.identifier := by
  have hquery : Reader.Swift.queryItem? (headerField param).toList = none := by
    simp [headerField_eq, Reader.Swift.queryItem?, quotedBehind?, after?]
  constructor
  · simp [headerField_eq]
  · simp [headerField_eq, Reader.Swift.unwraps?, after?]
  · simp [headerField_eq]
  · rw [hquery, headerField?_headerField]
    rfl

/-! ### Methods -/

theorem sends_queryLines (e : Endpoint) : Sends (queryLines e) (e.queryParams.map sentFor) := by
  have hvar : Sends ["var queryItems: [URLQueryItem] = []"] [] :=
    (idle_cons (c := 'v') (by decide) _).sends rfl
  have hset : Sends ["components?.queryItems = queryItems.isEmpty ? nil : queryItems"] [] :=
    (idle_cons (c := 'c') (by decide) _).sends rfl
  have hitems := sends_flatMap fun param (_ : param ∈ e.queryParams) =>
    (passes_queryItem param).whenGiven
  rw [queryLines]
  split
  · rename_i hempty
    rw [List.isEmpty_iff.1 hempty]
    exact sends_nil
  · simpa using (hvar.append hitems).append hset

theorem idle_contentTypeLine (body : RequestBody) : Idle (contentTypeLine body).toList := by
  have hline := contentTypeLine_eq body
  obtain ⟨cs, hcs⟩ := exists_quoted body.contentType
  constructor
  · simp [hline, Reader.Swift.unwraps?, after?]
  · simp [hline]
  · simp [hline, Reader.Swift.queryItem?, quotedBehind?, after?]
  · simp [hline, hcs, Reader.Swift.headerField?, after?]

theorem sends_bodyLines (body : RequestBody) : Sends (bodyLines body) [] := by
  have hencode : Idle "request.httpBody = try encoder.encode(body)".toList :=
    idle_request (by decide)
  have htype := idle_contentTypeLine body
  have htrimmed : (contentTypeLine body).toList.dropWhile (· == ' ') =
      (contentTypeLine body).toList := by
    simp [contentTypeLine_eq]
  rw [bodyLines]
  split
  · exact (hencode.sends rfl).append (htype.sends htrimmed)
  · have hblanks : (s!"    {contentTypeLine body}").toList.dropWhile (· == ' ') =
        (contentTypeLine body).toList := by
      simp [toString, htrimmed]
    have hunwraps : Reader.Swift.unwraps? "if let body = body \x7b".toList = some "body" := by
      decide
    have hopening : "if let body = body \x7b".toList.dropWhile (· == ' ') =
        "if let body = body \x7b".toList := rfl
    have hinner : "    request.httpBody = try encoder.encode(body)".toList.dropWhile (· == ' ') =
        "request.httpBody = try encoder.encode(body)".toList := rfl
    intro rest
    rw [Reader.Swift.statements]
    simp only [List.map_cons, List.map_nil, List.cons_append, List.nil_append, hopening, hinner,
      hblanks]
    rw [Reader.Swift.sentIn, hunwraps]
    dsimp only
    rw [hencode.sentIn_cons, htype.sentIn_cons]
    rfl

theorem sends_sendLine (e : Endpoint) : Sends [sendLine e] [] := by
  unfold sendLine
  split
  · rename_i type _
    have hline : (s!"return try await send(request, as: {type}.self)").toList =
        'r' :: ("eturn try await send(request, as: " ++ (type ++ ".self)")).toList := by
      simp [toString]
    have hheader : Reader.Swift.headerField?
        ('r' :: ("eturn try await send(request, as: " ++ (type ++ ".self)")).toList) = none := by
      simp [Reader.Swift.headerField?, after?]
    exact (idle_request hheader).sends (by rw [hline]; rfl)
  · exact (idle_cons (c := 't') (by decide) _).sends rfl

theorem sends_statements (client : String) (e : Endpoint) :
    Sends (statements client e) ((e.queryParams ++ e.headerParams).map sentFor) := by
  have hcomponents : Sends [
      "var components = URLComponents(url: baseURL.appendingPathComponent(\"" ++ path e ++
        "\"), resolvingAgainstBaseURL: false)"] [] :=
    (idle_cons (c := 'v') (by decide) _).sends (by simp; rfl)
  have hguard : Sends ["guard let url = components?.url else \x7b"] [] :=
    (idle_cons (c := 'g') (by decide) _).sends rfl
  have hthrow : Sends [s!"    throw {client}Error.invalidURL"] [] :=
    (idle_cons (c := 't') (by decide) _).sends (by simp [toString]; rfl)
  have hrequest : Sends ["var request = URLRequest(url: url)"] [] :=
    (idle_cons (c := 'v') (by decide) _).sends rfl
  have hverb : Sends [s!"request.httpMethod = {quoted e.method}"] [] := by
    have hline : (s!"request.httpMethod = {quoted e.method}").toList =
        'r' :: ("equest.httpMethod = " ++ quoted e.method).toList := by
      simp [toString]
    have hheader : Reader.Swift.headerField?
        ('r' :: ("equest.httpMethod = " ++ quoted e.method).toList) = none := by
      simp [Reader.Swift.headerField?, after?]
    exact (idle_request hheader).sends (by rw [hline]; rfl)
  have hheaders := sends_flatMap fun param (_ : param ∈ e.headerParams) =>
    (passes_headerField param).whenGiven
  have hbody : Sends ((e.body.map bodyLines).getD []) [] := by
    cases e.body with
    | none => exact sends_nil
    | some body => exact sends_bodyLines body
  have hmiddle := (((hguard.append hthrow).append sends_close).append hrequest).append hverb
  have hall := ((((hcomponents.append (sends_queryLines e)).append hmiddle).append
    hheaders).append hbody).append (sends_sendLine e)
  simpa [statements, toString] using hall

/-- A method sends the parameters of the query and of the headers, in order. -/
theorem sent_method (client : String) (e : Endpoint) :
    Reader.Swift.sent (Lines.indent (method client e) 1) =
      (e.queryParams ++ e.headerParams).map sentFor := by
  have hcomment : Sends ["    " ++ s!"/// {e.headline}"] [] :=
    (idle_cons (c := '/') (by decide) _).sends (by simp [toString]; rfl)
  have hsignature : Sends ["    " ++ signature e] [] :=
    (idle_cons (c := 'p') (by decide) _).sends (by simp [signature_eq]; rfl)
  have hclose : Sends ["    \x7d"] [] := fun _ => rfl
  have hall := ((hcomment.append hsignature).append
    (sends_statements client e).indent.indent).append hclose
  have hsent := hall []
  rw [List.append_nil] at hsent
  rw [indent_method, Reader.Swift.sent]
  simpa [Reader.Swift.sentIn] using hsent

/-- The arguments for the parameters of the query and of the headers, each with what is sent. -/
theorem zip_arguments_sent (e : Endpoint) :
    (((arguments e).map Argument.read).drop e.pathParams.length).zip
        ((e.queryParams ++ e.headerParams).map sentFor) =
      (e.queryParams ++ e.headerParams).map fun param =>
        ((argumentOf e param).read, sentFor param) := by
  have harguments : (arguments e).map Argument.read =
      e.pathParams.map (fun param => (argumentOf e param).read) ++
        ((e.queryParams ++ e.headerParams).map (fun param => (argumentOf e param).read) ++
          (e.body.map bodyArgument).toList.map Argument.read) := by
    simp [arguments, Endpoint.params, Function.comp_def]
  rw [harguments, List.drop_left' (List.length_map _), ← List.append_nil (List.map sentFor _),
    List.zip_append (by simp), List.zip_nil_right, List.append_nil, List.zip_map']

end Swift

/-- Declaration and statement agree with each other, and with whether the parameter is required. -/
def Reader.Argument.Agrees (a : Reader.Argument) (s : Reader.Sent) (isRequired : Bool) : Prop :=
  a.isOptional = !isRequired ∧ s.isUnwrapped = a.isOptional

theorem mem_of_forall₂_declaredAs {values : List Value} {params : List Parameter}
    (h : List.Forall₂ DeclaredAs values params) {v : Value} {param : Parameter}
    (hv : DeclaredAs v param) : param ∈ params ↔ ∃ w ∈ values, parameter w = parameter v := by
  constructor
  · intro hmem
    obtain ⟨w, hw, hdeclared⟩ := exists_of_forall₂_of_mem h hmem
    exact ⟨w, hw, by rw [hdeclared.reading, hv.reading]⟩
  · rintro ⟨w, hw, hsame⟩
    obtain ⟨other, hother, hdeclared⟩ := exists_of_forall₂_of_mem h.flip hw
    rw [hdeclared.reading, hv.reading] at hsame
    cases hsame
    exact hother

/-- In the method of an operation, a parameter of the query or of the headers is unwrapped exactly if
it is not required. If the types are types, then its argument is declared optional exactly if it is
not required, and unwrapped exactly if it is declared optional, unless the parameter is not required
and is read as the same as one of the path. -/
theorem optional_arguments_iff {doc : Value} {api : Api} (h : ofDocument doc = .ok api) :
    (∀ e ∈ api.endpoints, ∀ source, methodBlock .ios api e <:+: api.code .ios source) ∧
    List.Forall₂ (fun o e =>
      List.Forall₂ (fun v s => s.name = declaredName v ∧
          s.argument = Name.toIdentifier (declaredName v) ∧
          s.isUnwrapped = !(memberOrNull v "required").isGiven)
        (o.standing .query ++ o.standing .header) (Reader.Swift.sent (methodBlock .ios api e)) ∧
      (e.IsLegible → ∃ arguments,
        Reader.Swift.argumentsOf? (methodBlock .ios api e) = some arguments ∧
        List.Forall₂ (fun v x => x.1.name = Name.toIdentifier (declaredName v) ∧
            x.2.name = declaredName v ∧ x.2.argument = x.1.name ∧
            (x.1.Agrees x.2 (memberOrNull v "required").isGiven ↔
              (memberOrNull v "required").isGiven = true ∨
                ∀ w ∈ o.standing .path, parameter w ≠ parameter v))
          (o.standing .query ++ o.standing .header)
          ((arguments.drop (o.standing .path).length).zip
            (Reader.Swift.sent (methodBlock .ios api e)))))
      (declaredOperations doc) api.endpoints := by
  refine ⟨fun e he source => methodBlock_isInfix he .ios source, ?_⟩
  refine (forall₂_reads h).imp fun o e hreads => ?_
  have hparams := List.rel_append hreads.queryParams hreads.headerParams
  rw [methodBlock, Swift.sent_method]
  refine ⟨?_, fun he => ⟨_, Swift.argumentsOf?_method api.clientName he, ?_⟩⟩
  · rw [List.forall₂_map_right_iff]
    refine hparams.imp fun v param hv => ?_
    rw [declaredName, hv.name, ← hv.isRequired]
    exact ⟨rfl, rfl, rfl⟩
  · rw [hreads.pathParams.length_eq, Swift.zip_arguments_sent, List.forall₂_map_right_iff]
    refine hparams.imp fun v param hv => ⟨?_, ?_, rfl, ?_⟩
    · rw [declaredName, hv.name]
      rfl
    · rw [declaredName, hv.name]
      rfl
    · have hmem := mem_of_forall₂_declaredAs hreads.pathParams hv
      have hpath : (∀ w ∈ o.standing .path, parameter w ≠ parameter v) ↔
          e.pathParams.contains param = false := by
        rw [← Bool.not_eq_true, List.contains_iff_mem, hmem]
        simp
      rw [hpath, ← hv.isRequired]
      simp only [Reader.Argument.Agrees, Swift.Argument.read, Swift.argumentOf, Swift.sentFor]
      cases param.isRequired <;> cases e.pathParams.contains param <;> decide

/-- A parameter that has the name of one of the path is not the same if only one is required. -/
theorem optional_arguments_versionsDocument :
    ∃ api o e arguments, ofDocument versionsDocument = .ok api ∧
      declaredOperations versionsDocument = [o] ∧ api.endpoints = [e] ∧
      Reader.Swift.argumentsOf? (methodBlock .ios api e) = some arguments ∧
      (o.standing .query).length = 1 ∧
      List.Forall₂ (fun v x => x.1.Agrees x.2 (memberOrNull v "required").isGiven)
        (o.standing .query ++ o.standing .header)
        ((arguments.drop (o.standing .path).length).zip
          (Reader.Swift.sent (methodBlock .ios api e))) := by
  obtain ⟨api, hok, hlegible⟩ :
      ∃ api, ofDocument versionsDocument = .ok api ∧ ∀ e ∈ api.endpoints, e.IsLegible :=
    exists_ok_of_any (by decide +kernel)
  have hlength : (declaredOperations versionsDocument).length = 1 := by decide +kernel
  have hdeclared : ∀ o ∈ declaredOperations versionsDocument, (o.standing .query).length = 1 ∧
      ∀ v ∈ o.standing .query ++ o.standing .header, ∀ w ∈ o.standing .path,
        (parameter w).toOption ≠ (parameter v).toOption := by
    decide +kernel
  obtain ⟨o, ho⟩ := List.length_eq_one_iff.1 hlength
  have hall := (optional_arguments_iff hok).2
  rw [ho] at hall hdeclared
  obtain ⟨e, hendpoints, _, hfit⟩ := exists_of_forall₂_singleton hall
  obtain ⟨hone, hapart⟩ := hdeclared o List.mem_cons_self
  have he : e.IsLegible := hlegible e (by simp [hendpoints])
  obtain ⟨arguments, hread, hfit⟩ := hfit he
  refine ⟨api, o, e, arguments, hok, ho, hendpoints, hread, hone, ?_⟩
  refine ((List.forall₂_and_left _ _).2 ⟨hapart, hfit⟩).imp ?_
  rintro v x ⟨hv, _, _, _, hagrees⟩
  exact hagrees.2 (.inr fun w hw hsame => hv w hw (congrArg Except.toOption hsame))

/-- A document with a parameter of the path, and the same parameter in the query. -/
def sameParameterDocument : Value :=
  .record [("info", .record [("title", .str "Users"), ("version", .str "1")]),
    ("paths", .record [("/users/\x7bid\x7d", .record [("get", .record [
      ("operationId", .str "getUser"),
      ("parameters", .list [
        .record [("name", .str "id"), ("in", .str "path"),
          ("schema", .record [("type", .str "string")])],
        .record [("name", .str "id"), ("in", .str "query"),
          ("schema", .record [("type", .str "string")])]])])])])]

/-- The argument for the query is not declared optional, and yet it is unwrapped. -/
theorem not_optional_arguments_sameParameterDocument :
    ∃ api e, ofDocument sameParameterDocument = .ok api ∧ api.endpoints = [e] ∧
      Reader.Swift.argumentsOf? (methodBlock .ios api e) = some [⟨"id", false⟩, ⟨"id", false⟩] ∧
      Reader.Swift.sent (methodBlock .ios api e) = [⟨"id", "id", true⟩] ∧
      e.queryParams.map (·.isRequired) = [false] ∧
      ¬ Reader.Argument.Agrees ⟨"id", false⟩ ⟨"id", "id", true⟩ false := by
  obtain ⟨api, hok, hlength, hall⟩ : ∃ api, ofDocument sameParameterDocument = .ok api ∧
      api.endpoints.length = 1 ∧ ∀ e ∈ api.endpoints, e.IsLegible ∧
        (Swift.arguments e).map Swift.Argument.read = [⟨"id", false⟩, ⟨"id", false⟩] ∧
        (e.queryParams ++ e.headerParams).map Swift.sentFor = [⟨"id", "id", true⟩] ∧
        e.queryParams.map (·.isRequired) = [false] :=
    exists_ok_of_any (by decide +kernel)
  obtain ⟨e, hendpoints⟩ := List.length_eq_one_iff.1 hlength
  rw [hendpoints] at hall
  obtain ⟨hlegible, harguments, hsent, hrequired⟩ := hall e List.mem_cons_self
  refine ⟨api, e, hok, hendpoints, ?_, ?_, hrequired, fun h => absurd h.1 (by decide)⟩
  · rw [methodBlock, Swift.argumentsOf?_method _ hlegible, harguments]
  · rw [methodBlock, Swift.sent_method, hsent]

end SpecForge.Api
