import SpecForge.Proofs.Api.Reader
import SpecForge.Proofs.Model.Swift

/-!
# Reading Swift clients

The reader finds in the code of a client exactly its methods: the other declarations begin with
other words. In a method every statement sets the verb, adds a parameter of the query, sets a header
to an argument, or does none of these.
-/

namespace SpecForge.Api.Swift

open Model.Reader Reader Text

/-- What statements do: the verbs they set, the parameters they add to the query, the headers they
set to an argument, and the arguments they make the body from. -/
structure Does (lines : Lines) (verbs query headers bodies : List String) : Prop where
  verbs : (Reader.Swift.statements lines).filterMap Reader.Swift.verbOf? = verbs
  query : (Reader.Swift.statements lines).filterMap Reader.Swift.queryName? = query
  headers : (Reader.Swift.statements lines).filterMap Reader.Swift.headerName? = headers
  bodies : (Reader.Swift.statements lines).filterMap Reader.Swift.body? = bodies

theorem Does.append {lines lines' : Lines}
    {verbs verbs' query query' headers headers' bodies bodies' : List String}
    (h : Does lines verbs query headers bodies) (h' : Does lines' verbs' query' headers' bodies') :
    Does (lines ++ lines') (verbs ++ verbs') (query ++ query') (headers ++ headers')
      (bodies ++ bodies') := by
  have hs : Reader.Swift.statements (lines ++ lines') =
      Reader.Swift.statements lines ++ Reader.Swift.statements lines' := List.map_append
  constructor
  · rw [hs, List.filterMap_append, h.verbs, h'.verbs]
  · rw [hs, List.filterMap_append, h.query, h'.query]
  · rw [hs, List.filterMap_append, h.headers, h'.headers]
  · rw [hs, List.filterMap_append, h.bodies, h'.bodies]

theorem does_nil : Does [] [] [] [] [] := ⟨rfl, rfl, rfl, rfl⟩

theorem does_flatMap {α : Type} {lines : α → Lines} {query headers : α → List String}
    {items : List α} (h : ∀ a ∈ items, Does (lines a) [] (query a) (headers a) []) :
    Does (items.flatMap lines) [] (items.flatMap query) (items.flatMap headers) [] := by
  induction items with
  | nil => exact does_nil
  | cons a items ih =>
      rw [List.flatMap_cons, List.flatMap_cons, List.flatMap_cons]
      exact (h a (List.mem_cons_self ..)).append
        (ih fun b hb => h b (List.mem_cons_of_mem a hb))

theorem statements_shifted {blanks : String} (hb : ∀ c ∈ blanks.toList, c = ' ') (lines : Lines) :
    Reader.Swift.statements (Lines.shifted blanks lines) = Reader.Swift.statements lines := by
  rw [Lines.shifted, Reader.Swift.statements, Reader.Swift.statements, List.map_map]
  refine List.map_congr_left fun line _ => ?_
  rw [Function.comp_apply]
  split
  · rfl
  · rw [String.toList_append, List.dropWhile_append_of_pos (by simpa using hb)]

/-- Moving statements to the right does not change what they do. -/
theorem Does.indent {lines : Lines} {verbs query headers bodies : List String}
    (h : Does lines verbs query headers bodies) (level : Nat) :
    Does (Lines.indent lines level) verbs query headers bodies := by
  have hs : Reader.Swift.statements (Lines.indent lines level) = Reader.Swift.statements lines := by
    refine statements_shifted (fun c hc => ?_) lines
    rw [Lines.indentation, String.toList_ofList] at hc
    exact (List.mem_replicate.1 hc).2
  exact ⟨hs ▸ h.verbs, hs ▸ h.query, hs ▸ h.headers, hs ▸ h.bodies⟩

theorem Does.blanks {line : String} {verbs query headers bodies : List String}
    (h : Does [line] verbs query headers bodies) :
    Does ["    " ++ line] verbs query headers bodies := by
  have hs : Reader.Swift.statements ["    " ++ line] = Reader.Swift.statements [line] := by
    simp [Reader.Swift.statements]
  exact ⟨hs ▸ h.verbs, hs ▸ h.query, hs ▸ h.headers, hs ▸ h.bodies⟩

/-- A statement that begins with other words than those of the request does nothing. -/
theorem does_of_ne {c : Char} {cs : List Char} {line : String} (hline : line.toList = c :: cs)
    (hc : c ≠ ' ' ∧ c ≠ 'r' ∧ c ≠ 'q') : Does [line] [] [] [] [] := by
  have hs : Reader.Swift.statements [line] = [c :: cs] := by
    simp [Reader.Swift.statements, hline, hc.1]
  constructor
  · simp [hs, Reader.Swift.verbOf?, quotedBehind?, after?, hc.2.1.symm]
  · simp [hs, Reader.Swift.queryName?, quotedBehind?, after?, hc.2.2.symm]
  · simp [hs, Reader.Swift.headerName?, after?, hc.2.1.symm]
  · simp [hs, Reader.Swift.body?, after?, hc.2.1.symm]

theorem Does.whenGiven {statement : String} {query headers : List String}
    (h : Does [statement] [] query headers []) (param : Parameter) :
    Does (whenGiven param statement) [] query headers [] := by
  have hopen : Does [s!"if let {param.identifier} = {param.identifier} \x7b"] [] [] [] [] :=
    does_of_ne (c := 'i') (by simp [toString]; rfl) (by decide)
  have hclose : Does ["\x7d"] [] [] [] [] := does_of_ne (c := '\x7d') rfl (by decide)
  rw [Swift.whenGiven]
  split
  · exact h
  · simpa [toString] using (hopen.append h.blanks).append hclose

theorem queryItem_eq (param : Parameter) : queryItem param =
    "queryItems.append(URLQueryItem(name: " ++ quoted param.name ++
      (", value: String(describing: " ++ (param.identifier ++ ")))")) := by
  unfold queryItem
  simp [← String.toList_inj, toString]

theorem queryName?_queryItem (param : Parameter) :
    Reader.Swift.queryName? (queryItem param).toList = some param.name := by
  have hquoted := quotedBehind?_quoted "queryItems.append(URLQueryItem(name: " param.name
    (", value: String(describing: " ++ (param.identifier ++ ")))")).toList
  rw [← String.toList_append, ← queryItem_eq, String.toList_append] at hquoted
  unfold Reader.Swift.queryName?
  simp only [hquoted, Option.bind_eq_bind, Option.bind_some, goesOn_append, if_true]

theorem does_queryItem (param : Parameter) : Does [queryItem param] [] [param.name] [] [] := by
  have hs : Reader.Swift.statements [queryItem param] = [(queryItem param).toList] := by
    simp [Reader.Swift.statements, queryItem_eq]
  constructor
  · rw [hs, queryItem_eq]
    simp [Reader.Swift.verbOf?, quotedBehind?, after?]
  · rw [hs, List.filterMap_cons, queryName?_queryItem]
    rfl
  · rw [hs, queryItem_eq]
    simp [Reader.Swift.headerName?, after?]
  · rw [hs, queryItem_eq]
    simp [Reader.Swift.body?, after?]

theorem headerField_eq (param : Parameter) : headerField param =
    "request.setValue(String(describing: " ++ (param.identifier ++
      ("), forHTTPHeaderField: " ++ quoted param.name ++ ")")) := by
  unfold headerField
  simp [← String.toList_inj, toString]

theorem headerName?_headerField (param : Parameter) :
    Reader.Swift.headerName? (headerField param).toList = some param.name := by
  have hword := dropWhile_word ')' param.allWord_identifier (by decide)
    (", forHTTPHeaderField: " ++ quoted param.name ++ ")").toList
  have hclose : ("), forHTTPHeaderField: " ++ quoted param.name ++ ")").toList =
      ')' :: (", forHTTPHeaderField: " ++ quoted param.name ++ ")").toList := by
    simp
  have hquoted := quotedBehind?_quoted "), forHTTPHeaderField: " param.name ")".toList
  rw [← String.toList_append, hclose] at hquoted
  unfold Reader.Swift.headerName?
  rw [headerField_eq, String.toList_append, after?_append, Option.bind_eq_bind, Option.bind_some,
    String.toList_append, hclose, hword]
  simp only [hquoted, Option.bind_eq_bind, Option.bind_some]
  exact if_pos (by simp)

theorem does_headerField (param : Parameter) : Does [headerField param] [] [] [param.name] [] := by
  have hs : Reader.Swift.statements [headerField param] = [(headerField param).toList] := by
    simp [Reader.Swift.statements, headerField_eq]
  constructor
  · rw [hs, headerField_eq]
    simp [Reader.Swift.verbOf?, quotedBehind?, after?]
  · rw [hs, headerField_eq]
    simp [Reader.Swift.queryName?, quotedBehind?, after?]
  · rw [hs, List.filterMap_cons, headerName?_headerField]
    rfl
  · rw [hs, headerField_eq]
    simp [Reader.Swift.body?, after?]

theorem does_queryLines (e : Endpoint) :
    Does (queryLines e) [] (e.queryParams.map (·.name)) [] [] := by
  have hvar : Does ["var queryItems: [URLQueryItem] = []"] [] [] [] [] :=
    does_of_ne (c := 'v') rfl (by decide)
  have hset : Does ["components?.queryItems = queryItems.isEmpty ? nil : queryItems"]
      [] [] [] [] :=
    does_of_ne (c := 'c') rfl (by decide)
  have hitems : Does (e.queryParams.flatMap fun param => whenGiven param (queryItem param)) []
      (e.queryParams.map (·.name)) [] [] := by
    have h := does_flatMap fun param (_ : param ∈ e.queryParams) =>
      (does_queryItem param).whenGiven param
    rwa [← List.map_eq_flatMap, List.flatMap_eq_nil_iff.2 fun _ _ => rfl] at h
  rw [queryLines]
  split
  · rename_i hempty
    rw [List.isEmpty_iff.1 hempty]
    exact does_nil
  · simpa using (hvar.append hitems).append hset

theorem does_headerFields (e : Endpoint) :
    Does (e.headerParams.flatMap fun param => whenGiven param (headerField param)) [] []
      (e.headerParams.map (·.name)) [] := by
  have h := does_flatMap fun param (_ : param ∈ e.headerParams) =>
    (does_headerField param).whenGiven param
  rwa [← List.map_eq_flatMap, List.flatMap_eq_nil_iff.2 fun _ _ => rfl] at h

theorem contentTypeLine_eq (body : RequestBody) : contentTypeLine body =
    "request.setValue(" ++ quoted body.contentType ++
      ", forHTTPHeaderField: \"Content-Type\")" := by
  unfold contentTypeLine
  simp [toString]

theorem exists_quoted (s : String) : ∃ cs, (quoted s).toList = '"' :: cs :=
  ⟨_, by rw [quoted, Quoted.write, String.toList_ofList]; rfl⟩

/-- The type of the content is set, but not to an argument. -/
theorem does_contentTypeLine (body : RequestBody) : Does [contentTypeLine body] [] [] [] [] := by
  have hline := contentTypeLine_eq body
  obtain ⟨cs, hcs⟩ := exists_quoted body.contentType
  constructor
  · simp [Reader.Swift.statements, hline, Reader.Swift.verbOf?, quotedBehind?, after?]
  · simp [Reader.Swift.statements, hline, Reader.Swift.queryName?, quotedBehind?, after?]
  · simp [Reader.Swift.statements, hline, hcs, Reader.Swift.headerName?, after?]
  · simp [Reader.Swift.statements, hline, Reader.Swift.body?, after?]

theorem does_bodyLines (body : RequestBody) : Does (bodyLines body) [] [] [] ["body"] := by
  have hencode : Does ["request.httpBody = try encoder.encode(body)"] [] [] [] ["body"] := by
    constructor
    · decide
    · decide
    · decide
    · decide
  have hopen : Does ["if let body = body \x7b"] [] [] [] [] :=
    does_of_ne (c := 'i') rfl (by decide)
  have hclose : Does ["\x7d"] [] [] [] [] := does_of_ne (c := '\x7d') rfl (by decide)
  have htype := does_contentTypeLine body
  rw [bodyLines]
  split
  · exact hencode.append htype
  · simpa [toString] using ((hopen.append hencode.blanks).append htype.blanks).append hclose

theorem does_sendLine (e : Endpoint) : Does [sendLine e] [] [] [] [] := by
  have hperform : Does ["try await perform(request)"] [] [] [] [] :=
    does_of_ne (c := 't') rfl (by decide)
  unfold sendLine
  split
  · rename_i type _
    constructor
    · simp [Reader.Swift.statements, toString, Reader.Swift.verbOf?, quotedBehind?, after?]
    · simp [Reader.Swift.statements, toString, Reader.Swift.queryName?, quotedBehind?, after?]
    · simp [Reader.Swift.statements, toString, Reader.Swift.headerName?, after?]
    · simp [Reader.Swift.statements, toString, Reader.Swift.body?, after?]
  · exact hperform

theorem does_verbLine (verb : String) :
    Does ["request.httpMethod = " ++ quoted verb] [verb] [] [] [] := by
  have hs : Reader.Swift.statements ["request.httpMethod = " ++ quoted verb] =
      [("request.httpMethod = " ++ quoted verb).toList] := by
    simp [Reader.Swift.statements]
  have hquoted := quotedBehind?_quoted "request.httpMethod = " verb []
  rw [List.append_nil] at hquoted
  constructor
  · rw [hs, List.filterMap_cons, Reader.Swift.verbOf?, hquoted]
    rfl
  · simp [hs, Reader.Swift.queryName?, quotedBehind?, after?]
  · simp [hs, Reader.Swift.headerName?, after?]
  · simp [hs, Reader.Swift.body?, after?]

/-- The statements set the verb once, and send the parameters in order and then the body. -/
theorem does_statements (client : String) (e : Endpoint) :
    Does (statements client e) [e.method] (e.queryParams.map (·.name))
      (e.headerParams.map (·.name)) (e.body.map fun _ => "body").toList := by
  have hcomponents : Does [
      "var components = URLComponents(url: baseURL.appendingPathComponent(\"" ++ path e ++
        "\"), resolvingAgainstBaseURL: false)"] [] [] [] [] :=
    does_of_ne (c := 'v') (by simp; rfl) (by decide)
  have hguard : Does ["guard let url = components?.url else \x7b"] [] [] [] [] :=
    does_of_ne (c := 'g') rfl (by decide)
  have hthrow : Does [s!"    throw {client}Error.invalidURL"] [] [] [] [] := by
    have h : Does [s!"throw {client}Error.invalidURL"] [] [] [] [] :=
      does_of_ne (c := 't') (by simp [toString]; rfl) (by decide)
    simpa [toString, ← String.append_assoc] using h.blanks
  have hclose : Does ["\x7d"] [] [] [] [] := does_of_ne (c := '\x7d') rfl (by decide)
  have hrequest : Does ["var request = URLRequest(url: url)"] [] [] [] [] :=
    does_of_ne (c := 'v') rfl (by decide)
  have hbody : Does ((e.body.map bodyLines).getD []) [] [] []
      (e.body.map fun _ => "body").toList := by
    cases e.body with
    | none => exact does_nil
    | some body => exact does_bodyLines body
  have hmiddle := (((hguard.append hthrow).append hclose).append hrequest).append
    (does_verbLine e.method)
  have hall := ((((hcomponents.append (does_queryLines e)).append hmiddle).append
    (does_headerFields e)).append hbody).append (does_sendLine e)
  simpa [statements, toString] using hall

/-! ## Methods -/

/-- An argument as the reader is to find it. -/
def Argument.read (a : Argument) : Reader.Argument := ⟨a.name, a.isOptional⟩

theorem allWord_name {e : Endpoint} {a : Argument} (h : a ∈ arguments e) :
    Name.AllWord a.name.toList := by
  simp only [arguments, List.mem_append, List.mem_map, Option.mem_toList, Option.map_eq_some_iff]
    at h
  rcases h with ⟨param, _, rfl⟩ | ⟨body, _, rfl⟩
  · exact param.allWord_identifier
  · exact (by decide : Name.AllWord "body".toList)

theorem isType_type {e : Endpoint} (he : e.IsLegible) {a : Argument} (h : a ∈ arguments e) :
    IsType a.type := by
  simp only [arguments, List.mem_append, List.mem_map, Option.mem_toList, Option.map_eq_some_iff]
    at h
  rcases h with ⟨param, hparam, rfl⟩ | ⟨body, hbody, rfl⟩
  · exact he.param hparam .ios
  · exact he.body hbody .ios

theorem Argument.exists_text (a : Argument) :
    ∃ rest, a.text.toList = a.name.toList ++ ':' :: rest := by
  unfold Argument.text
  split
  · exact ⟨_, by simp [toString]; rfl⟩
  · exact ⟨_, by simp [toString]; rfl⟩

/-- An argument is read up to the comma or the bracket behind it. -/
theorem argument?_text {a : Argument} (hn : Name.AllWord a.name.toList) (ht : IsType a.type)
    {c : Char} (hc : c ∈ [',', ')']) (rest : List Char) :
    Reader.Swift.argument? (a.text.toList ++ c :: rest) = some (a.read, c :: rest) := by
  have hnext : awaitedBehind? [] c = none ∧ c ≠ '=' := by
    rcases List.mem_pair.1 hc with rfl | rfl <;> decide
  have hcolon : ∀ cs, after? ": ".toList (':' :: ' ' :: cs) = some cs := by
    simp [after?]
  unfold Argument.text Argument.read
  cases a.isOptional with
  | true =>
      have htext : (s!"{a.name}: {a.type}? = nil").toList ++ c :: rest = a.name.toList ++ ':' ::
          (' ' :: ((a.type ++ "?").toList ++ ([' '] ++ ("= nil".toList ++ c :: rest)))) := by
        simp [toString]
      have htype : type? ((a.type ++ "?").toList ++ ([' '] ++ ("= nil".toList ++ c :: rest))) =
          some (a.type ++ "?", "= nil".toList ++ c :: rest) :=
        type?_append ht.optional (by simp) (endsType_cons (c := '=') (by decide) _)
      rw [if_pos rfl, htext, Reader.Swift.argument?, word_append hn (by decide)]
      simp only [hcolon, htype, Option.bind_eq_bind, Option.bind_some, after?_append, endsWith_mark]
      rfl
  | false =>
      have htext : (s!"{a.name}: {a.type}").toList ++ c :: rest = a.name.toList ++ ':' ::
          (' ' :: (a.type.toList ++ ([] ++ c :: rest))) := by
        simp [toString]
      have htype : type? (a.type.toList ++ ([] ++ c :: rest)) = some (a.type, c :: rest) :=
        type?_append ht (by simp) (endsType_cons hnext.1 rest)
      have hdefault : after? "= nil".toList (c :: rest) = none := by
        simp [after?, hnext.2.symm]
      rw [if_neg (by decide), htext, Reader.Swift.argument?, word_append hn (by decide)]
      simp only [hcolon, htype, hdefault, Option.bind_eq_bind, Option.bind_some]
      rfl

/-- What stands behind the arguments: the words that every method has, and the type of the answer. -/
theorem isEnd_returns {e : Endpoint} (h : e.IsLegible) :
    ∃ rest, (" async throws" ++ (returns e ++ " \x7b")).toList = " async throws ".toList ++ rest ∧
      (rest = ['\x7b'] ∨ ((after? "-> ".toList rest).bind type?).any (·.2 == ['\x7b'])) := by
  unfold returns
  cases ha : e.answer? .ios with
  | none => exact ⟨['\x7b'], by simp, .inl rfl⟩
  | some type =>
      refine ⟨"-> ".toList ++ (type.toList ++ ([' '] ++ ['\x7b'])), by simp [toString], .inr ?_⟩
      rw [after?_append, Option.bind_some, type?_append (h.answer ha) (by simp) (by decide)]
      rfl

/-- The declaration of a method: its name, its arguments and what follows them. -/
theorem signature_eq (e : Endpoint) : signature e = "public func " ++ e.methodName ++
    ("(" ++ (", ".intercalate ((arguments e).map Argument.text) ++
      (")" ++ (" async throws" ++ (returns e ++ " \x7b"))))) := by
  unfold signature
  simp [← String.toList_inj, toString]

theorem named?_signature (e : Endpoint) : named? "    public func " (· == '(')
    ("    " ++ signature e) = some (e.methodName,
      ("(" ++ (", ".intercalate ((arguments e).map Argument.text) ++
        (")" ++ (" async throws" ++ (returns e ++ " \x7b"))))).toList) := by
  have hhead : "    " ++ signature e = "    public func " ++ e.methodName ++
      ("(" ++ (", ".intercalate ((arguments e).map Argument.text) ++
        (")" ++ (" async throws" ++ (returns e ++ " \x7b"))))) := by
    rw [signature_eq]
    simp [← String.toList_inj]
  rw [hhead]
  exact named?_word _ e.allWord_methodName (by decide) (by simp)

/-- The declaration is read up to its last sign. -/
theorem declaration?_signature {e : Endpoint} (h : e.IsLegible) :
    Reader.Swift.declaration? ("    " ++ signature e) =
      some (e.methodName, (arguments e).map Argument.read) := by
  obtain ⟨rest, hrest, hend⟩ := isEnd_returns h
  have hlist : ("(" ++ (", ".intercalate ((arguments e).map Argument.text) ++
      (")" ++ (" async throws" ++ (returns e ++ " \x7b"))))).toList = ['('] ++
        listed ", " ((arguments e).map Argument.text)
          (")".toList ++ (" async throws ".toList ++ rest)) := by
    rw [← hrest]
    simp [listed]
  have hitems : listItems? Reader.Swift.argument? ", " ")" (listed ", "
      ((arguments e).map Argument.text) (")".toList ++ (" async throws ".toList ++ rest))) =
        some ((arguments e).map Argument.read, " async throws ".toList ++ rest) := by
    refine listItems?_listed (by decide) ?_ ?_ ?_ ?_
    · simp [after?]
    · intro a ha cs
      obtain ⟨tail, htail⟩ := a.exists_text
      rw [htail, List.append_assoc]
      exact after?_word_append (allWord_name ha) (by decide) (by decide) _
    · exact fun a ha cs => argument?_text (allWord_name ha) (isType_type h ha) (by decide) _
    · exact fun a ha => argument?_text (allWord_name ha) (isType_type h ha) (by decide) _
  rw [Reader.Swift.declaration?, Reader.Swift.listed?, named?_signature, hlist]
  simp only [Option.bind_eq_bind, Option.bind_some, Option.pure_def, after?_append, hitems,
    if_pos hend]

theorem name?_method (e : Endpoint) (above : String) (below : Lines) :
    Reader.Swift.dialect.name? ⟨above, "    " ++ signature e, below⟩ = some e.methodName := by
  exact congrArg (Option.map Prod.fst) (named?_signature e)

theorem verb?_method (client : String) (e : Endpoint) (above head : String) :
    Reader.Swift.verb? ⟨above, head, Lines.indent (Lines.indent (statements client e) 1) 1⟩ =
      some e.method := by
  rw [Reader.Swift.verb?, ((does_statements client e).indent 1 |>.indent 1).verbs]
  rfl

/-- The declaration and the statements of a method are read as the request of the endpoint. -/
theorem call?_method (client above : String) {e : Endpoint} (h : e.IsLegible) :
    Reader.Swift.call? ⟨above, "    " ++ signature e,
      Lines.indent (Lines.indent (statements client e) 1) 1⟩ = some e.call := by
  have hdoes := (does_statements client e)|>.indent 1 |>.indent 1
  have hbody : ((arguments e).map Argument.read).any
      (fun a => (e.body.map fun _ => "body").toList.contains a.name) = e.body.isSome := by
    cases hb : e.body with
    | none => simp
    | some body => simp [arguments, hb, Argument.read, bodyArgument]
  unfold Reader.Swift.call?
  simp only [declaration?_signature h, verb?_method, Option.bind_eq_bind, Option.bind_some,
    hdoes.query, hdoes.headers, hdoes.bodies, hbody]
  rfl

/-- A method is a comment, its declaration, and its statements up to a closing brace. -/
theorem indent_method (client : String) (e : Endpoint) : Lines.indent (method client e) 1 =
    ("    " ++ s!"/// {e.headline}") :: ("    " ++ signature e) ::
      (Lines.indent (Lines.indent (statements client e) 1) 1 ++ ["    \x7d"]) := by
  have hcomment : s!"/// {e.headline}" ≠ "" := by
    simp [toString]
  have hhead : signature e ≠ "" := by
    rw [signature_eq]
    simp
  rw [method, Lines.indent_append, Lines.indent_append, ← List.singleton_append,
    Lines.indent_append, Lines.indent_singleton hcomment, Lines.indent_singleton hhead]
  rfl

theorem begins_comment (e : Endpoint) :
    begins "    public func " ("    " ++ s!"/// {e.headline}") = false := by
  simp [begins, after?, toString]

theorem begins_signature (e : Endpoint) :
    begins "    public func " ("    " ++ signature e) = true := by
  rw [signature_eq]
  simp [begins, after?]

/-- The lines of a method hold one method, with its statements and the line above it. -/
theorem has_method {client : String} {e : Endpoint} {P : Printed → Prop}
    (h : P ⟨"    " ++ s!"/// {e.headline}", "    " ++ signature e,
      Lines.indent (Lines.indent (statements client e) 1) 1⟩) :
    Reader.Swift.dialect.Has P (Lines.indent (method client e) 1) := by
  let body := Lines.indent (Lines.indent (statements client e) 1) 1
  have hblock : Lines.indent (method client e) 1 =
      [] ++ ("    " ++ s!"/// {e.headline}") :: ("    " ++ signature e) ::
        (body ++ ["    \x7d"]) :=
    indent_method client e
  -- the body stands deeper than its method, so it neither begins another one nor ends this one
  have hbody : ∀ line ∈ body, begins "    public func " line = false ∧ line ≠ "    \x7d" := by
    intro line hl
    rcases Lines.mem_indent hl with rfl | ⟨other, ho, rfl⟩
    · simp [begins, after?]
    · rcases Lines.mem_indent ho with rfl | ⟨statement, _, rfl⟩
      · simp [begins, after?, ← String.toList_inj]
      · simp [begins, after?, ← String.toList_inj]
  rw [hblock]
  refine Dialect.has_of ?_ ?_ ?_ fun rest => ?_
  · rw [List.nil_append, without_cons]
    exact ⟨begins_comment e, without_nil⟩
  · exact begins_signature e
  · rw [without_append]
    refine ⟨fun line hl => (hbody line hl).1, ?_⟩
    simp [Reader.Swift.dialect, begins, after?]
  · have hbelow : ((body ++ ["    \x7d"]) ++ rest).takeWhile (· != "    \x7d") = body := by
      rw [List.append_assoc]
      exact takeWhile_append_stop (fun line hl => (hbody line hl).2) _
    change P ⟨_, _, List.takeWhile (· != "    \x7d") _⟩
    rw [hbelow]
    exact h

theorem argumentsOf?_eq (client : String) (e : Endpoint) :
    Reader.Swift.argumentsOf? (Lines.indent (method client e) 1) =
      (Reader.Swift.declaration? ("    " ++ signature e)).map Prod.snd := by
  have hhas : Reader.Swift.dialect.Has (fun m => m.head = "    " ++ signature e)
      (Lines.indent (method client e) 1) := has_method rfl
  obtain ⟨m, hm, hhead⟩ := hhas.exists_only?
  rw [Reader.Swift.argumentsOf?, hm, Option.bind_some, hhead]

/-- The arguments of a method are read in its lines. -/
theorem argumentsOf?_method (client : String) {e : Endpoint} (h : e.IsLegible) :
    Reader.Swift.argumentsOf? (Lines.indent (method client e) 1) =
      some ((arguments e).map Argument.read) := by
  rw [argumentsOf?_eq, declaration?_signature h, Option.map_some]

/-! ## Files -/

theorem without_docComment (text : Option String) :
    Without "    public func " (Lines.docComment .slashes text) := by
  intro line hl
  obtain ⟨words, rfl⟩ := Lines.mem_docComment hl
  simp [Lines.CommentStyle.slashes, Lines.CommentStyle.opening, begins, after?]

theorem without_opening (api : Api) (source : String) :
    Without "    public func " (Lines.header source ++ ["import Foundation", ""] ++
      errors api.clientName ++ opening api) := by
  rw [opening]
  simp only [without_append, without_docComment, Lines.header, Lines.provenance, errors,
    without_cons, without_nil, toString, String.append_assoc, and_true, true_and]
  repeat' apply And.intro
  -- unfolding would take the texts apart, which are compared as they are written
  all_goals first
    | with_reducible exact begins_of_differ (by decide)
    | with_reducible exact begins_append_of_differ (by decide) _
    | rfl

theorem without_transport (client : String) : Without "public func " (transport client) := by
  simp only [transport, without_cons, without_nil, toString, String.append_assoc, and_true]
  repeat' apply And.intro
  -- unfolding would take the texts apart, which are compared as they are written
  all_goals first
    | with_reducible exact begins_of_differ (by decide)
    | with_reducible exact begins_append_of_differ (by decide) _
    | rfl

theorem without_struct (m : Model) : Without "    public func " (Model.Swift.struct m) := by
  have hdeclarations : Without "    public func "
      ((m.fields .ios).flatMap Model.Swift.declaration) := by
    refine without_flatMap fun f _ => ?_
    rcases Model.Swift.declaration_eq f with h | ⟨words, h⟩
    · rw [h]
      unfold Model.Swift.line
      simp [begins, after?]
    · rw [h]
      unfold Model.Swift.line
      simp [begins, after?]
  have hkeys : Without "    public func " (Model.Swift.codingKeys (m.fields .ios)) := by
    rw [Model.Swift.codingKeys]
    split
    · simp only [without_append]
      refine ⟨⟨by simp [begins, after?], ?_⟩, by simp [begins, after?]⟩
      intro line hl
      obtain ⟨f, _, rfl⟩ := List.mem_map.1 hl
      unfold Model.Swift.codingKey
      split
      · simp [begins, after?, toString]
      · simp [begins, after?, toString]
    · exact without_nil
  have hinitializer : Without "    public func "
      (Lines.indent (Model.Swift.initializer (m.fields .ios)) 1) :=
    (Model.Swift.without_initializer "public func " (by decide) _).shifted (by decide)
  rw [Model.Swift.struct]
  simp [without_docComment, hdeclarations, hkeys, hinitializer, begins, after?, toString]

/-- The methods of a client are those of its endpoints. -/
theorem forall₂_methods_file {api : Api} {P : Endpoint → Printed → Prop}
    (h : ∀ e ∈ api.endpoints,
      Reader.Swift.dialect.Has (P e) (Lines.indent (method api.clientName e) 1))
    (source : String) :
    List.Forall₂ P api.endpoints (Reader.Swift.dialect.methodsIn (file api source)) := by
  have htail : Without "    public func "
      (Lines.indent (transport api.clientName) 1 ++ ["\x7d", ""] ++ models api) := by
    have htransport := (without_transport api.clientName).shifted (by decide : "    " ≠ "")
    have hmodels : Without "    public func " (models api) := by
      rw [models]
      split
      · exact without_nil
      · rw [without_append]
        exact ⟨by simp [begins, after?], without_flatMap fun m _ => without_struct m⟩
    simp only [without_append, hmodels]
    exact ⟨⟨htransport, by simp [begins, after?]⟩, trivial⟩
  have hfile : file api source = (Lines.header source ++ ["import Foundation", ""] ++
      errors api.clientName ++ opening api) ++
        (api.endpoints.flatMap (fun e => Lines.indent (method api.clientName e) 1 ++ [""]) ++
          (Lines.indent (transport api.clientName) 1 ++ ["\x7d", ""] ++ models api)) := by
    simp only [file, List.append_assoc]
  rw [hfile]
  refine Dialect.forall₂_methods (without_opening api source) (fun e he => ?_) htail
  exact (h e he).append (by simp [Reader.Swift.dialect, begins, after?])

end SpecForge.Api.Swift
