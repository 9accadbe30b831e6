import SpecForge.Proofs.Api.Endpoints
import SpecForge.Proofs.Api.Reader
import SpecForge.Proofs.Model.TypeScript

/-!
# Reading TypeScript clients

The reader finds in the code of a client exactly its methods. In a declaration the arguments are
read one after the other: those of the path, a required body, the two objects with the parameters of
the query and of the headers, and an optional body. The keys of the two objects are those that the
statements below send, if they pass these objects on.
-/

namespace SpecForge.Api.TypeScript

open Model.Reader Reader Text

/-! ## Keys -/

/-- A key is read back, between quotes or not. A key without quotes has none of the signs that begin
or end one. -/
theorem key?_append {name key : String}
    (h : key = singleQuoted name ∨
      (key = name ∧ ∀ c ∈ name.toList, c ∉ Model.TypeScript.keySigns))
    {c : Char} (hc : c = '?' ∨ c = ':') (rest : List Char) :
    Reader.TypeScript.key? (key.toList ++ c :: rest) = some (name, c :: rest) := by
  rcases h with rfl | ⟨rfl, hsigns⟩
  · have hread : Quoted.read? '\'' (Quoted.escape '\'' name.toList ++ '\'' :: c :: rest) =
        some (name.toList, c :: rest) :=
      Quoted.read?_escape (by decide) _ _
    rw [singleQuoted, Quoted.write, String.toList_ofList]
    simp [Reader.TypeScript.key?, after?, hread]
  · have hquote : after? ['\''] (key.toList ++ c :: rest) = none := by
      cases hcs : key.toList with
      | nil =>
          rcases hc with rfl | rfl
          · rfl
          · rfl
      | cons d ds =>
          have hd := hsigns d (by rw [hcs]; exact List.mem_cons_self ..)
          simp only [Model.TypeScript.keySigns, List.mem_cons, not_or] at hd
          simp [after?, Ne.symm hd.2.2.1]
    have hname : ∀ d ∈ key.toList, (!Reader.TypeScript.endsKey d) = true := by
      intro d hd
      have hd := hsigns d hd
      simp only [Model.TypeScript.keySigns, List.mem_cons, not_or] at hd
      simp [Reader.TypeScript.endsKey, hd.1, hd.2.1]
    have hstop : Reader.TypeScript.endsKey c = true := by
      rcases hc with rfl | rfl
      · rfl
      · rfl
    unfold Reader.TypeScript.key?
    rw [hquote]
    simp only [List.takeWhile_append_of_pos hname, List.dropWhile_append_of_pos hname]
    simp [hstop]

theorem key?_key (name : String) {c : Char} (hc : c = '?' ∨ c = ':') (rest : List Char) :
    Reader.TypeScript.key? ((Model.TypeScript.key name).toList ++ c :: rest) =
      some (name, c :: rest) :=
  key?_append (Model.TypeScript.key_cases name) hc rest

/-- A field of an object type is read up to the blanks behind its type. -/
theorem field?_fieldText {param : Parameter} (ht : IsType (param.spelling .web))
    {blanks rest : List Char} (hb : ∀ c ∈ blanks, c = ' ') (hrest : EndsType rest) :
    Reader.TypeScript.field? ((fieldText param).toList ++ (blanks ++ rest)) =
      some (param.name, rest) := by
  -- a key ends at the mark of an optional parameter or at the colon, and the colon is left
  have hkey : ∃ c cs, (c = '?' ∨ c = ':') ∧ (fieldText param).toList ++ (blanks ++ rest) =
      (Model.TypeScript.key param.name).toList ++ c :: cs ∧
      skip "?" (c :: cs) = ": ".toList ++ ((param.spelling .web).toList ++ (blanks ++ rest)) := by
    unfold fieldText Model.TypeScript.optionalMark
    cases param.isRequired with
    | true => exact ⟨':', _, Or.inr rfl, by simp; rfl, by simp [skip, after?]⟩
    | false => exact ⟨'?', _, Or.inl rfl, by simp; rfl, by simp [skip, after?]⟩
  obtain ⟨c, cs, hc, hline, hskip⟩ := hkey
  rw [Reader.TypeScript.field?, hline, key?_key _ hc]
  simp only [Option.bind_eq_bind, Option.bind_some, hskip, after?_append, type?_append ht hb hrest]
  rfl

/-! ## Arguments -/

/-- The argument with the parameters of a place is an object type behind its label. -/
theorem objectArgument_text (label : String) {params : List Parameter} (h : params ≠ []) :
    ∃ mark, (mark = "" ∨ mark = " = \x7b\x7d") ∧
      (objectArgument label params).map Argument.text =
        [label ++ (": \x7b " ++
          ("; ".intercalate (params.map fieldText) ++ (" \x7d" ++ mark)))] := by
  have hempty : ¬ params.isEmpty = true := by
    simpa using h
  unfold objectArgument
  rw [if_neg hempty]
  by_cases hr : params.any (·.isRequired) = true
  · refine ⟨"", Or.inl rfl, ?_⟩
    simp only [hr, if_true, List.map_singleton, Argument.text]
    simp [← String.toList_inj, toString]
  · refine ⟨" = \x7b\x7d", Or.inr rfl, ?_⟩
    simp only [hr, List.map_singleton, Argument.text]
    simp [← String.toList_inj, toString]

/-- The arguments of the method of an endpoint, those for the query and for the headers with the
names of their parameters. -/
def keyedArguments (e : Endpoint) : List (Argument × Option (List String)) :=
  (e.pathParams.map pathArgument ++ bodyArgument true e).map (·, none) ++
    (objectArgument "query" e.queryParams).map (·, some (e.queryParams.map (·.name))) ++
    (objectArgument "headers" e.headerParams).map (·, some (e.headerParams.map (·.name))) ++
    (bodyArgument false e).map (·, none)

theorem map_fst_keyedArguments (e : Endpoint) :
    (keyedArguments e).map Prod.fst = arguments e := by
  simp [keyedArguments, arguments, Function.comp_def]

/-- An argument as the reader is to find it. -/
def Argument.read (a : Argument) : Reader.Argument := ⟨a.name, a.omission != .never⟩

/-- An argument with its keys as the reader is to find it. -/
def readAs (a : Argument × Option (List String)) : Reader.TypeScript.Argument := ⟨a.1.read, a.2⟩

theorem map_toArgument_readAs (e : Endpoint) :
    ((keyedArguments e).map readAs).map (·.toArgument) = (arguments e).map Argument.read := by
  rw [List.map_map, ← map_fst_keyedArguments, List.map_map]
  rfl

/-- What is known about an argument: its name is one, and its type is a type, or that of an object
with fields for parameters. -/
structure IsArgument (e : Endpoint) (a : Argument × Option (List String)) : Prop where
  name : Name.AllWord a.1.name.toList
  type : (a.2 = none ∧ IsType a.1.type ∧ a.1.omission ≠ .default) ∨
    ∃ params ≠ [], (∀ param ∈ params, IsType (param.spelling .web)) ∧
      a.1.type = "\x7b " ++ ("; ".intercalate (params.map fieldText) ++ " \x7d") ∧
      a.2 = some (params.map (·.name))

theorem isArgument_bodyArgument {e : Endpoint} (he : e.IsLegible) {isRequired : Bool} {a : Argument}
    (h : a ∈ bodyArgument isRequired e) : IsArgument e (a, none) := by
  unfold bodyArgument at h
  split at h
  · rename_i body hbody
    split at h
    · rw [List.mem_singleton.1 h]
      refine ⟨(by decide : Name.AllWord "body".toList), .inl ⟨rfl, he.body hbody .web, ?_⟩⟩
      cases isRequired <;> simp
    · cases h
  · cases h

theorem isArgument_objectArgument {e : Endpoint} {label : String}
    (hl : Name.AllWord label.toList) {params : List Parameter}
    (hp : ∀ param ∈ params, IsType (param.spelling .web)) {a : Argument}
    (h : a ∈ objectArgument label params) : IsArgument e (a, some (params.map (·.name))) := by
  unfold objectArgument at h
  split at h
  · cases h
  · rename_i hempty
    rw [List.mem_singleton.1 h]
    refine ⟨hl, .inr ⟨params, by simpa using hempty, hp, ?_, rfl⟩⟩
    simp [← String.toList_inj, toString]

theorem isArgument_of_mem {e : Endpoint} (he : e.IsLegible) {a : Argument × Option (List String)}
    (h : a ∈ keyedArguments e) : IsArgument e a := by
  have hparam : ∀ param, param ∈ e.pathParams ∨ param ∈ e.queryParams ∨ param ∈ e.headerParams →
      IsType (param.spelling .web) := by
    intro param hmem
    refine he.param ?_ .web
    simp only [Endpoint.params, List.mem_append]
    tauto
  simp only [keyedArguments, List.mem_append, List.mem_map] at h
  obtain ((⟨b, hb | hb, rfl⟩ | ⟨b, hb, rfl⟩) | ⟨b, hb, rfl⟩) | ⟨b, hb, rfl⟩ := h
  · obtain ⟨param, hmem, rfl⟩ := hb
    exact ⟨param.allWord_identifier, .inl ⟨rfl, hparam param (.inl hmem), by simp [pathArgument]⟩⟩
  · exact isArgument_bodyArgument he hb
  · exact isArgument_objectArgument (by decide) (fun param hm => hparam param (.inr (.inl hm))) hb
  · exact isArgument_objectArgument (by decide) (fun param hm => hparam param (.inr (.inr hm))) hb
  · exact isArgument_bodyArgument he hb

/-- The keys of an argument are read in its type. Where it has none, a sign has to follow that stands
in no type. -/
theorem IsArgument.keys?_type {e : Endpoint} {a : Argument × Option (List String)}
    (h : IsArgument e a) {rest : List Char} (hrest : a.1.omission ≠ .default → EndsType rest) :
    Reader.TypeScript.keys? (a.1.type.toList ++ rest) = some (a.2, rest) := by
  rcases h.type with ⟨hkeys, htype, homission⟩ | ⟨params, hne, hparams, htype, hkeys⟩
  · have hopen : after? "\x7b ".toList (a.1.type.toList ++ rest) = none :=
      htype.after?_eq_none (c := '\x7b') (by decide) _ rest
    have hread := type?_append htype (List.forall_mem_nil _) (hrest homission)
    rw [List.nil_append] at hread
    rw [Reader.TypeScript.keys?, hopen, hkeys, hread]
    rfl
  · have hline : a.1.type.toList ++ rest = "\x7b ".toList ++
        listed "; " (params.map fieldText) ([' '] ++ '\x7d' :: rest) := by
      simp [htype, listed]
    have hlength := length_le_listed (by decide : "; " ≠ "")
      (by simp : [' '] ++ '\x7d' :: rest ≠ []) (params.map fieldText)
    rw [List.length_map] at hlength
    have hfields : itemsFrom? Reader.TypeScript.field? "; " "\x7d"
        (listed "; " (params.map fieldText) ([' '] ++ '\x7d' :: rest)).length
        (listed "; " (params.map fieldText) ([' '] ++ '\x7d' :: rest)) =
          some (params.map (·.name), rest) := by
      refine itemsFrom?_listed hne ?_ ?_ ?_ hlength
      · simp [after?]
      · exact fun param hp cs => field?_fieldText (hparams param hp) (List.forall_mem_nil _)
          (endsType_cons (c := ';') (by decide) _)
      · exact fun param hp => field?_fieldText (hparams param hp) (by simp)
          (endsType_cons (by decide) _)
    rw [Reader.TypeScript.keys?, hline, after?_append]
    simp only [hfields, hkeys, Option.map_some]

/-- The mark behind the name of an argument, and the default behind its type. -/
theorem Argument.text_eq (a : Argument) : a.text = a.name ++
    ((if a.omission = .marked then "?" else "") ++ (": " ++ (a.type ++
      if a.omission = .default then " = \x7b\x7d" else ""))) := by
  unfold Argument.text
  cases a.omission <;> simp [← String.toList_inj, toString]

/-- The name of an argument ends at the mark or at the colon behind it. -/
theorem Argument.exists_text (a : Argument) :
    ∃ c rest, (c = '?' ∨ c = ':') ∧ a.text.toList = a.name.toList ++ c :: rest := by
  rw [a.text_eq]
  by_cases hmarked : a.omission = .marked
  · exact ⟨'?', _, .inl rfl, by simp [hmarked]; rfl⟩
  · exact ⟨':', _, .inr rfl, by simp [hmarked]; rfl⟩

/-- An argument is read up to the comma or the bracket behind it. -/
theorem IsArgument.argument?_text {e : Endpoint} {a : Argument × Option (List String)}
    (h : IsArgument e a) {c : Char} (hc : c ∈ [',', ')']) (rest : List Char) :
    Reader.TypeScript.argument? (a.1.text.toList ++ c :: rest) = some (readAs a, c :: rest) := by
  have hnext : awaitedBehind? [] c = none ∧ c ≠ ' ' := by
    rcases List.mem_pair.1 hc with rfl | rfl <;> decide
  have hend : EndsType (c :: rest) := endsType_cons hnext.1 rest
  have hbehind : after? " = \x7b\x7d".toList (c :: rest) = none := by
    simp [after?, hnext.2.symm]
  have hcolon : ∀ cs, after? ": ".toList (':' :: ' ' :: cs) = some cs ∧
      after? "?".toList (':' :: ' ' :: cs) = none := by
    simp [after?]
  unfold readAs Argument.read
  rw [a.1.text_eq]
  cases homission : a.1.omission with
  | never =>
      have htext : (a.1.name ++ ("" ++ (": " ++ (a.1.type ++ "")))).toList ++ c :: rest =
          a.1.name.toList ++ ':' :: ' ' :: (a.1.type.toList ++ c :: rest) := by
        simp
      have hkeys := h.keys?_type fun _ => hend
      simp only [reduceCtorEq, if_false, htext, Reader.TypeScript.argument?,
        word_append h.name (by decide : Name.isWordChar ':' = false), skip, goesOn, hcolon,
        Option.getD_none, Option.bind_eq_bind, Option.bind_some, hkeys, hbehind]
      rfl
  | marked =>
      have htext : (a.1.name ++ ("?" ++ (": " ++ (a.1.type ++ "")))).toList ++ c :: rest =
          a.1.name.toList ++ '?' :: ':' :: ' ' :: (a.1.type.toList ++ c :: rest) := by
        simp
      have hmark : after? "?".toList ('?' :: ':' :: ' ' :: (a.1.type.toList ++ c :: rest)) =
          some (':' :: ' ' :: (a.1.type.toList ++ c :: rest)) := by
        simp [after?]
      have hkeys := h.keys?_type fun _ => hend
      simp only [reduceCtorEq, if_false, if_true, htext, Reader.TypeScript.argument?,
        word_append h.name (by decide : Name.isWordChar '?' = false), skip, goesOn, hmark, hcolon,
        Option.getD_some, Option.getD_none, Option.bind_eq_bind, Option.bind_some, hkeys, hbehind]
      rfl
  | default =>
      have htext : (a.1.name ++ ("" ++ (": " ++ (a.1.type ++ " = \x7b\x7d")))).toList ++
          c :: rest = a.1.name.toList ++ ':' :: ' ' ::
            (a.1.type.toList ++ (" = \x7b\x7d".toList ++ c :: rest)) := by
        simp
      have hdefault : a.1.omission ≠ .default → EndsType (" = \x7b\x7d".toList ++ c :: rest) :=
        fun hne => absurd homission hne
      have hkeys := h.keys?_type hdefault
      simp only [reduceCtorEq, if_false, if_true, htext, Reader.TypeScript.argument?,
        word_append h.name (by decide : Name.isWordChar ':' = false), skip, goesOn, hcolon,
        Option.getD_none, Option.getD_some, Option.bind_eq_bind, Option.bind_some, hkeys,
        after?_append]
      rfl

/-! ## Methods -/

/-- The headers that are passed on: the argument, or none. -/
def headersText (hasHeaders : Bool) : String := if hasHeaders then "headers" else "\x7b\x7d"

/-- The body that is passed on. -/
def bodyText (hasBody : Bool) : String := if hasBody then ", body" else ""

theorem body_bodyText (front : List Char) (hasHeaders hasBody : Bool) :
    Reader.TypeScript.body
        (front ++ (headersText hasHeaders).toList ++ (bodyText hasBody).toList) =
      (hasBody, front ++ (headersText hasHeaders).toList) := by
  unfold Reader.TypeScript.body
  cases hasBody with
  | true =>
      have hbody : bodyText true = ", body" := rfl
      rw [hbody, before?_append]
  | false =>
      cases hasHeaders with
      | true => simp [bodyText, headersText, before?, after?]
      | false => simp [bodyText, headersText, before?, after?]

theorem headers?_headersText (front : List Char) (hasHeaders : Bool) :
    Reader.TypeScript.headers? (front ++ (headersText hasHeaders).toList) =
      some (hasHeaders, front) := by
  unfold Reader.TypeScript.headers?
  cases hasHeaders with
  | true => simp only [headersText, if_true, before?_append]
  | false =>
      have hnone : before? "headers" (front ++ "\x7b\x7d".toList) = none := by
        simp [before?, after?]
      simp only [headersText, Bool.false_eq_true, if_false, hnone, before?_append, Option.map_some]

/-- The line that makes a request. -/
def requestLine (e : Endpoint) : String :=
  "    return this.request<" ++ (answer e ++ ">('") ++ (e.method ++ ("', url, " ++
    (headersText (!e.headerParams.isEmpty) ++ (bodyText e.body.isSome ++ ");"))))

/-- The verb is read back, whatever the type of the answer is. -/
theorem request?_requestLine {e : Endpoint} {verb : Verb} (hv : e.method = verb.name) :
    Reader.TypeScript.request? (requestLine e).toList =
      some (e.method, !e.headerParams.isEmpty, e.body.isSome) := by
  -- the type of the answer can hold any signs, so the line is read from its end
  let start := ("    return this.request<" ++ (answer e ++ ">(")).toList ++ '\'' :: e.method.toList
  have hline : (requestLine e).toList = ((start ++ "', url, ".toList) ++
      (headersText (!e.headerParams.isEmpty)).toList ++ (bodyText e.body.isSome).toList) ++
        ");".toList := by
    unfold requestLine
    simp [start]
  have hword : ∀ c ∈ e.method.toList.reverse, (c != '\'') = true := by
    intro c hc
    rw [bne_iff_ne]
    rintro rfl
    rw [hv] at hc
    exact absurd (verb.allWord_name _ (List.mem_reverse.1 hc)) (by decide)
  have hverb : (start.reverse.takeWhile (· != '\'')).reverse = e.method.toList := by
    rw [List.reverse_append, List.reverse_cons, List.append_assoc,
      List.takeWhile_append_of_pos hword]
    simp
  unfold Reader.TypeScript.request?
  rw [hline, before?_append]
  simp only [Option.bind_eq_bind, Option.bind_some, body_bodyText, headers?_headersText,
    before?_append, hverb, String.ofList_toList]
  rfl

/-- The line that builds the address. -/
def urlLine (e : Endpoint) : String :=
  "    const url = this.buildUrl(`" ++ path e ++
    if e.queryParams.isEmpty then "`);" else "`, query);"

/-- The parameters of the query are passed on if there are any. -/
theorem before?_urlLine (e : Endpoint) :
    (before? "`, query);" (urlLine e).toList).isSome = !e.queryParams.isEmpty := by
  unfold urlLine
  rw [String.toList_append]
  cases e.queryParams.isEmpty with
  | true => simp [before?, after?]
  | false =>
      simp only [Bool.false_eq_true, if_false, before?_append]
      rfl

/-- The declaration of a method: its name, its arguments and what follows them. -/
def declaration (e : Endpoint) : String :=
  "async " ++ e.methodName ++ ("(" ++ (", ".intercalate ((arguments e).map Argument.text) ++
    ("): Promise<" ++ (answer e ++ "> \x7b"))))

theorem shifted_method (e : Endpoint) : Lines.shifted "  " (method e) =
    ["  " ++ s!"/** {e.headline} */", "  " ++ declaration e, urlLine e, requestLine e,
      "  \x7d"] := by
  have hlines : ∀ line ∈ method e, line ≠ "" := by
    simp [method, toString]
  rw [Lines.shifted_eq_map hlines]
  unfold method declaration urlLine requestLine headersText bodyText
  cases e.queryParams.isEmpty <;> cases e.headerParams.isEmpty <;> cases e.body.isSome <;>
    simp [← String.toList_inj, toString]

theorem isType_answer {e : Endpoint} (h : e.IsLegible) : IsType (answer e) := by
  unfold answer
  cases ha : e.answer? .web with
  | none => exact (by decide : IsType "void")
  | some type => exact h.answer ha

theorem named?_declaration (e : Endpoint) : named? "  async " (· == '(') ("  " ++ declaration e) =
    some (e.methodName, ("(" ++ (", ".intercalate ((arguments e).map Argument.text) ++
      ("): Promise<" ++ (answer e ++ "> \x7b")))).toList) := by
  have hhead : "  " ++ declaration e = "  async " ++ e.methodName ++
      ("(" ++ (", ".intercalate ((arguments e).map Argument.text) ++
        ("): Promise<" ++ (answer e ++ "> \x7b")))) := by
    unfold declaration
    simp [← String.toList_inj]
  rw [hhead]
  exact named?_word _ e.allWord_methodName (by decide) (by simp)

/-- The declaration is read up to its last sign. -/
theorem declaration?_declaration {e : Endpoint} (h : e.IsLegible) :
    Reader.TypeScript.declaration? ("  " ++ declaration e) =
      some (e.methodName, (keyedArguments e).map readAs) := by
  let rest := ": ".toList ++ (("Promise<" ++ answer e ++ ">").toList ++ ([' '] ++ ['\x7b']))
  have hlist : ("(" ++ (", ".intercalate ((arguments e).map Argument.text) ++
      ("): Promise<" ++ (answer e ++ "> \x7b")))).toList =
        ['('] ++ listed ", " ((keyedArguments e).map (·.1.text)) (")".toList ++ rest) := by
    rw [← map_fst_keyedArguments, List.map_map]
    simp [listed, rest, Function.comp_def]
  have hitems : listItems? Reader.TypeScript.argument? ", " ")"
      (listed ", " ((keyedArguments e).map (·.1.text)) (")".toList ++ rest)) =
        some ((keyedArguments e).map readAs, rest) := by
    refine listItems?_listed (by decide) ?_ ?_ ?_ ?_
    · simp [after?]
    · intro a ha cs
      obtain ⟨c, tail, hc, htail⟩ := a.1.exists_text
      rw [htail, List.append_assoc]
      refine after?_word_append (isArgument_of_mem h ha).name (by decide) ?_ _
      rcases hc with rfl | rfl <;> decide
    · exact fun a ha cs => (isArgument_of_mem h ha).argument?_text (by decide) _
    · exact fun a ha => (isArgument_of_mem h ha).argument?_text (by decide) _
  have hanswer : type? (("Promise<" ++ answer e ++ ">").toList ++ ([' '] ++ ['\x7b'])) =
      some ("Promise<" ++ answer e ++ ">", ['\x7b']) :=
    type?_append ((isType_answer h).between _ _ rfl rfl ⟨'>', rfl, by decide⟩) (by simp) (by decide)
  rw [Reader.TypeScript.declaration?, named?_declaration, hlist]
  simp only [Option.bind_eq_bind, Option.bind_some, after?_append, hitems, rest, hanswer]
  rfl

/-- Only the argument for the query has its label and keys, and only that for the headers. -/
theorem findSome?_keys (e : Endpoint) :
    (((keyedArguments e).map readAs).findSome? fun a => if a.name = "query" then a.keys else none) =
        (if e.queryParams = [] then none else some (e.queryParams.map (·.name))) ∧
      (((keyedArguments e).map readAs).findSome? fun a =>
          if a.name = "headers" then a.keys else none) =
        (if e.headerParams = [] then none else some (e.headerParams.map (·.name))) := by
  have hnone : ∀ (label : String) (as : List Argument),
      ((as.map (·, none)).map readAs).findSome?
        (fun a => if a.name = label then a.keys else none) = none := by
    simp [readAs, Argument.read]
  have hobject : ∀ (label label' : String) (params : List Parameter),
      (((objectArgument label params).map (·, some (params.map (·.name)))).map readAs).findSome?
        (fun a => if a.name = label' then a.keys else none) =
          if label = label' ∧ params ≠ [] then some (params.map (·.name)) else none := by
    intro label label' params
    cases params with
    | nil => simp [objectArgument]
    | cons param params =>
        by_cases hlabel : label = label'
        · simp [objectArgument, readAs, Argument.read, hlabel]
        · simp [objectArgument, readAs, Argument.read, hlabel]
  simp only [keyedArguments, List.map_append, List.findSome?_append, hnone, hobject]
  cases e.queryParams <;> cases e.headerParams <;> simp

theorem any_body_arguments (e : Endpoint) :
    (e.body.isSome && ((keyedArguments e).map readAs).any (·.name == "body")) = e.body.isSome := by
  cases hbody : e.body with
  | none => rfl
  | some body =>
      cases hrequired : body.isRequired with
      | true => simp [keyedArguments, bodyArgument, hbody, hrequired, readAs, Argument.read]
      | false => simp [keyedArguments, bodyArgument, hbody, hrequired, readAs, Argument.read]

theorem name?_method (e : Endpoint) (above : String) (below : Lines) :
    Reader.TypeScript.dialect.name? ⟨above, "  " ++ declaration e, below⟩ = some e.methodName := by
  exact congrArg (Option.map Prod.fst) (named?_declaration e)

theorem verb?_method {e : Endpoint} {verb : Verb} (hv : e.method = verb.name)
    (above head : String) :
    Reader.TypeScript.verb? ⟨above, head, [urlLine e, requestLine e]⟩ = some e.method := by
  unfold Reader.TypeScript.verb?
  simp only [request?_requestLine hv, Option.bind_eq_bind, Option.bind_some]
  rfl

/-- The declaration and the statements of a method are read as the request of the endpoint. -/
theorem call?_method {e : Endpoint} (h : e.IsLegible) {verb : Verb} (hv : e.method = verb.name)
    (above : String) :
    Reader.TypeScript.call? ⟨above, "  " ++ declaration e, [urlLine e, requestLine e]⟩ =
      some e.call := by
  obtain ⟨hquery, hheaders⟩ := findSome?_keys e
  -- an address that is built without the query has no names to send
  have hnil : ∀ params : List Parameter,
      (if (!params.isEmpty) = true then
        (if params = [] then none else some (params.map (·.name))).getD [] else []) =
          params.map (·.name) := by
    intro params
    cases params with
    | nil => rfl
    | cons param params => rfl
  unfold Reader.TypeScript.call?
  simp only [declaration?_declaration h, Option.bind_eq_bind, Option.bind_some, hquery, hheaders,
    request?_requestLine hv, any_body_arguments, before?_urlLine, hnil]
  rfl

/-- The lines of a method hold one method, with its two statements. -/
theorem has_method {e : Endpoint} {P : Printed → Prop}
    (h : P ⟨"  " ++ s!"/** {e.headline} */", "  " ++ declaration e, [urlLine e, requestLine e]⟩) :
    Reader.TypeScript.dialect.Has P (Lines.shifted "  " (method e)) := by
  have hblock : Lines.shifted "  " (method e) =
      [] ++ ("  " ++ s!"/** {e.headline} */") :: ("  " ++ declaration e) ::
        ([urlLine e, requestLine e] ++ ["  \x7d"]) :=
    shifted_method e
  have hurl : begins "  async " (urlLine e) = false ∧ urlLine e ≠ "  \x7d" := by
    unfold urlLine
    simp [begins, after?, ← String.toList_inj]
  have hrequest : begins "  async " (requestLine e) = false ∧ requestLine e ≠ "  \x7d" := by
    unfold requestLine
    simp [begins, after?, ← String.toList_inj]
  rw [hblock]
  refine Dialect.has_of ?_ ?_ ?_ fun rest => ?_
  · simp [Reader.TypeScript.dialect, begins, after?, toString]
  · unfold declaration
    simp [Reader.TypeScript.dialect, begins, after?]
  · simp only [without_append, without_cons]
    exact ⟨⟨hurl.1, hrequest.1, without_nil⟩, by rfl, without_nil⟩
  · have hbelow : (([urlLine e, requestLine e] ++ ["  \x7d"]) ++ rest).takeWhile
        (· != "  \x7d") = [urlLine e, requestLine e] := by
      rw [List.append_assoc]
      refine takeWhile_append_stop (fun line hl => ?_) _
      rcases List.mem_pair.1 hl with rfl | rfl
      · exact hurl.2
      · exact hrequest.2
    change P ⟨_, _, List.takeWhile (· != "  \x7d") _⟩
    rw [hbelow]
    exact h

/-- The arguments of a method are read in its lines. -/
theorem argumentsOf?_method {e : Endpoint} (h : e.IsLegible) :
    Reader.TypeScript.argumentsOf? (Lines.shifted "  " (method e)) =
      some ((keyedArguments e).map readAs) := by
  have hhas : Reader.TypeScript.dialect.Has (fun m => m.head = "  " ++ declaration e)
      (Lines.shifted "  " (method e)) := has_method rfl
  obtain ⟨m, hm, hhead⟩ := hhas.exists_only?
  rw [Reader.TypeScript.argumentsOf?, hm, Option.bind_some, hhead, declaration?_declaration h,
    Option.map_some]

/-! ## Files -/

/-- A text with a blank does not begin a key and what follows it. -/
theorem after?_append_eq_none (head : List Char) {front rest : List Char} (hh : ' ' ∈ head)
    (hf : ' ' ∉ front) (hr : ∃ c cs, rest = c :: cs ∧ c ∉ head) :
    after? head (front ++ rest) = none := by
  obtain ⟨c, cs, rfl, hc⟩ := hr
  rw [Option.eq_none_iff_forall_ne_some]
  intro more hmore
  rcases List.append_eq_append_iff.1 (after?_eq_some_iff.1 hmore) with
    ⟨middle, rfl, hmiddle⟩ | ⟨middle, rfl, _⟩
  · cases middle with
    | nil =>
        rw [List.append_nil] at hh
        exact hf hh
    | cons d ds =>
        cases hmiddle
        exact hc (List.mem_append_right front (List.mem_cons_self ..))
  · exact hf (List.mem_append_left middle hh)

theorem begins_line (prop : Property) : begins "  async " (Model.TypeScript.line prop) = false := by
  rcases Model.TypeScript.line_cases prop with h | ⟨hsigns, hline, _⟩
  · simp [begins, h, after?]
  · obtain ⟨c, cs, htail, hc⟩ := Model.TypeScript.tail_eq_cons prop
    have hblank : ' ' ∉ prop.name.toList := fun hb => hsigns ' ' hb (by decide)
    have hstop : c ∉ "async ".toList := by
      rcases hc with rfl | rfl
      · decide
      · decide
    have hnone := after?_append_eq_none "async ".toList (by decide) hblank
      ⟨c, cs, htail, hstop⟩
    rw [begins, hline, Option.isSome_eq_false_iff, Option.isNone_iff_eq_none]
    simpa [after?] using hnone

theorem without_interface (m : Model) : Without "  async " (Model.TypeScript.interface m) := by
  have hcomment : Without "  async " (Model.Kotlin.classComment m.description) := by
    intro line hl
    obtain ⟨rest, rfl | rfl⟩ := Model.Kotlin.of_mem_classComment hl
    · simp [begins, after?]
    · simp [begins, after?]
  have hmembers : Without "  async " (m.properties.flatMap Model.TypeScript.member) := by
    refine without_flatMap fun prop _ => ?_
    rcases Model.TypeScript.member_eq prop with h | ⟨text, h⟩
    · rw [h, without_cons]
      exact ⟨begins_line prop, without_nil⟩
    · rw [h, without_cons, without_cons]
      exact ⟨by simp [begins, after?], begins_line prop, without_nil⟩
  rw [Model.TypeScript.interface]
  simp only [without_append, hcomment, hmembers]
  simp [begins, after?, toString]

theorem without_opening (api : Api) (source : String) :
    Without "  async " (Lines.header source ++ api.models.flatMap Model.TypeScript.interface ++
      support api.clientName ++ opening api) := by
  have hmodels : Without "  async " (api.models.flatMap Model.TypeScript.interface) :=
    without_flatMap fun m _ => without_interface m
  have htitle : Without "  async " (Kotlin.title api) := by
    unfold Kotlin.title
    split <;> simp [begins, after?, toString]
  rw [opening]
  simp only [without_append, hmodels, htitle, Lines.header, Lines.provenance, support,
    without_cons, without_nil, toString, String.append_assoc, and_true, true_and]
  repeat' apply And.intro
  -- unfolding would take the texts apart, which are compared as they are written
  all_goals first
    | with_reducible exact begins_of_differ (by decide)
    | with_reducible exact begins_append_of_differ (by decide) _
    | rfl

theorem without_transport (client : String) : Without "async " (transport client) := by
  simp only [transport, without_cons, without_nil, toString, String.append_assoc, and_true]
  repeat' apply And.intro
  -- unfolding would take the texts apart, which are compared as they are written
  all_goals first
    | with_reducible exact begins_of_differ (by decide)
    | with_reducible exact begins_append_of_differ (by decide) _
    | rfl

/-- The methods of a client are those of its endpoints. -/
theorem forall₂_methods_file {api : Api} {P : Endpoint → Printed → Prop}
    (h : ∀ e ∈ api.endpoints,
      Reader.TypeScript.dialect.Has (P e) (Lines.shifted "  " (method e)))
    (source : String) :
    List.Forall₂ P api.endpoints (Reader.TypeScript.dialect.methodsIn (file api source)) := by
  have htransport := (without_transport api.clientName).shifted (by decide : "  " ≠ "")
  have htail : Without "  async "
      (Lines.shifted "  " (transport api.clientName) ++ ["\x7d", ""]) :=
    without_append.2 ⟨htransport, by simp [begins, after?]⟩
  have hfile : file api source = (Lines.header source ++
      api.models.flatMap Model.TypeScript.interface ++ support api.clientName ++ opening api) ++
        (api.endpoints.flatMap (fun e => Lines.shifted "  " (method e) ++ [""]) ++
          (Lines.shifted "  " (transport api.clientName) ++ ["\x7d", ""])) := by
    simp only [file, List.append_assoc]
  rw [hfile]
  refine Dialect.forall₂_methods (without_opening api source) (fun e he => ?_) htail
  exact (h e he).append (by simp [Reader.TypeScript.dialect, begins, after?])

end SpecForge.Api.TypeScript
