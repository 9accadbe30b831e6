import SpecForge.Proofs.Api.OptionalArguments

/-!
# Arguments that may be left out in TypeScript

In a TypeScript client a caller may leave an argument out if a mark stands behind its name or a
default behind its type. Such arguments are meant to come last. The parameters of the query are one
argument and those of the headers are another one behind it, and each of the two may be left out if
none of its own parameters is required. So the order is kept unless there is a query without a
required parameter and, behind it, headers with one.
-/

namespace SpecForge.Api

open Model.Reader Reader Text

/-! ## The reader -/

namespace Reader

/-- The arguments that may be left out come last. -/
def OmissibleLast (arguments : List Argument) : Prop :=
  ∃ given omissible, arguments = given ++ omissible ∧
    (∀ a ∈ given, a.isOptional = false) ∧ ∀ a ∈ omissible, a.isOptional = true

/-- In other words, no argument that has to be given follows one that may be left out. -/
theorem omissibleLast_iff_pairwise {arguments : List Argument} : OmissibleLast arguments ↔
    arguments.Pairwise fun a b => a.isOptional = true → b.isOptional = true := by
  constructor
  · rintro ⟨given, omissible, rfl, hgiven, homissible⟩
    refine List.pairwise_append.2 ⟨?_, ?_, fun _ _ b hb _ => homissible b hb⟩
    · exact List.pairwise_of_forall_mem_list fun a ha _ _ hopt => by simp [hgiven a ha] at hopt
    · exact List.pairwise_of_forall_mem_list fun _ _ b hb _ => homissible b hb
  · intro h
    induction arguments with
    | nil => exact ⟨[], [], rfl, by simp, by simp⟩
    | cons a arguments ih =>
        obtain ⟨ha, hrest⟩ := List.pairwise_cons.1 h
        cases hopt : a.isOptional with
        | true =>
            exact ⟨[], a :: arguments, rfl, by simp,
              List.forall_mem_cons.2 ⟨hopt, fun b hb => ha b hb hopt⟩⟩
        | false =>
            obtain ⟨given, omissible, rfl, hgiven, homissible⟩ := ih hrest
            exact ⟨a :: given, omissible, rfl, List.forall_mem_cons.2 ⟨hopt, hgiven⟩, homissible⟩

/-- Arguments that have to be given do not matter in front. -/
theorem omissibleLast_append_of_given {given : List Argument}
    (h : ∀ a ∈ given, a.isOptional = false) (arguments : List Argument) :
    OmissibleLast (given ++ arguments) ↔ OmissibleLast arguments := by
  rw [omissibleLast_iff_pairwise, omissibleLast_iff_pairwise, List.pairwise_append]
  refine ⟨fun hall => hall.2.1, fun hall => ⟨?_, hall, fun a ha b _ hopt => ?_⟩⟩
  · exact List.pairwise_of_forall_mem_list fun a ha _ _ hopt => by simp [h a ha] at hopt
  · simp [h a ha] at hopt

/-- Arguments that may be left out do not matter at the end. -/
theorem omissibleLast_append_of_omissible {omissible : List Argument}
    (h : ∀ a ∈ omissible, a.isOptional = true) (arguments : List Argument) :
    OmissibleLast (arguments ++ omissible) ↔ OmissibleLast arguments := by
  rw [omissibleLast_iff_pairwise, omissibleLast_iff_pairwise, List.pairwise_append]
  refine ⟨fun hall => hall.1, fun hall => ⟨hall, ?_, fun _ _ b hb _ => h b hb⟩⟩
  exact List.pairwise_of_forall_mem_list fun _ _ b hb _ => h b hb

end Reader

/-! ## The order -/

/-- Is a parameter or a body required? -/
def requires (v : Value) : Bool := (memberOrNull v "required").isGiven

/-- The one argument for some parameters: it may be left out if none of them is required. -/
def groupedArgument (label : String) (values : List Value) : List Reader.Argument :=
  if values = [] then [] else [⟨label, !values.any requires⟩]

namespace Operation

/-- The argument for a body that is, or is not, required. -/
def bodyArgument (isRequired : Bool) (o : Operation) : List Reader.Argument :=
  if (memberOrNull o.value "requestBody").isGiven &&
    requires (memberOrNull o.value "requestBody") == isRequired then [⟨"body", !isRequired⟩] else []

/-- The arguments of the method for an operation in TypeScript: one for each parameter of the path,
those of the query together, those of the headers together, and the body in front of these two or
behind them. -/
def typeScriptArguments (o : Operation) : List Reader.Argument :=
  (o.standing .path).map (fun v => ⟨Name.toIdentifier (declaredName v), false⟩) ++
    bodyArgument true o ++ groupedArgument "query" (o.standing .query) ++
    groupedArgument "headers" (o.standing .header) ++ bodyArgument false o

/-- The query may be left out, and the headers behind it may not. -/
def IsMisordered (o : Operation) : Prop :=
  o.standing .query ≠ [] ∧ (o.standing .query).any requires = false ∧
    (o.standing .header).any requires = true

instance (o : Operation) : Decidable o.IsMisordered := inferInstanceAs (Decidable (_ ∧ _ ∧ _))

theorem isOptional_of_mem_bodyArgument {o : Operation} {isRequired : Bool} {a : Reader.Argument}
    (h : a ∈ o.bodyArgument isRequired) : a.isOptional = !isRequired := by
  unfold bodyArgument at h
  split at h
  · rw [List.mem_singleton.1 h]
  · cases h

theorem omissibleLast_typeScriptArguments_iff (o : Operation) :
    Reader.OmissibleLast o.typeScriptArguments ↔ ¬ o.IsMisordered := by
  have hpath : ∀ a ∈ (o.standing .path).map (fun v =>
      (⟨Name.toIdentifier (declaredName v), false⟩ : Reader.Argument)) ++ o.bodyArgument true,
      a.isOptional = false := by
    intro a ha
    rcases List.mem_append.1 ha with ha | ha
    · obtain ⟨v, _, rfl⟩ := List.mem_map.1 ha
      rfl
    · exact isOptional_of_mem_bodyArgument ha
  have hbody : ∀ a ∈ o.bodyArgument false, a.isOptional = true :=
    fun a ha => isOptional_of_mem_bodyArgument ha
  -- only the query and the headers matter, as either of them can be left out or not
  rw [typeScriptArguments, Reader.omissibleLast_append_of_omissible hbody,
    List.append_assoc _ (groupedArgument _ _), Reader.omissibleLast_append_of_given hpath,
    Reader.omissibleLast_iff_pairwise, IsMisordered]
  unfold groupedArgument
  by_cases hquery : o.standing .query = []
  · by_cases hheader : o.standing .header = []
    · simp [hquery, hheader]
    · simp [hquery, hheader]
  · by_cases hheader : o.standing .header = []
    · simp [hquery, hheader]
    · simp [hquery, hheader]

end Operation

theorem isRequired_of_requestBody {v : Value} {body : RequestBody} (h : requestBody v = .ok body) :
    body.isRequired = requires v := by
  obtain ⟨content, _, h⟩ := bind_eq_ok_iff.1 h
  obtain ⟨⟨key, schema⟩, _, h⟩ := bind_eq_ok_iff.1 h
  obtain ⟨type, _, h⟩ := bind_eq_ok_iff.1 h
  rw [checked_eq_ok_iff] at h
  obtain ⟨type', _, h⟩ := bind_eq_ok_iff.1 h
  obtain ⟨description, _, h⟩ := bind_eq_ok_iff.1 h
  obtain ⟨contentType, _, h⟩ := bind_eq_ok_iff.1 h
  cases h
  rfl

namespace TypeScript

theorem read_pathArguments {values : List Value} {params : List Parameter}
    (h : List.Forall₂ DeclaredAs values params) :
    (params.map pathArgument).map Argument.read =
      values.map fun v => ⟨Name.toIdentifier (declaredName v), false⟩ := by
  have hnames : values.map (fun v =>
      (⟨Name.toIdentifier (declaredName v), false⟩ : Reader.Argument)) =
        (values.map declaredName).map fun name => ⟨Name.toIdentifier name, false⟩ := by
    rw [List.map_map]
    rfl
  rw [hnames, map_declaredName h, List.map_map, List.map_map]
  rfl

theorem any_isRequired {values : List Value} {params : List Parameter}
    (h : List.Forall₂ DeclaredAs values params) :
    params.any (·.isRequired) = values.any requires := by
  induction h with
  | nil => rfl
  | cons hv _ ih => rw [List.any_cons, List.any_cons, ih, hv.isRequired, requires]

theorem read_objectArgument (label : String) {values : List Value} {params : List Parameter}
    (h : List.Forall₂ DeclaredAs values params) :
    (objectArgument label params).map Argument.read = groupedArgument label values := by
  have hany := any_isRequired h
  unfold objectArgument groupedArgument
  cases h with
  | nil => rfl
  | cons hv hrest =>
      rw [hany]
      cases List.any _ requires with
      | true => simp [Argument.read]
      | false => simp [Argument.read]

theorem read_bodyArgument {o : Operation} {e : Endpoint} (h : o.Reads e) (isRequired : Bool) :
    (bodyArgument isRequired e).map Argument.read = o.bodyArgument isRequired := by
  unfold bodyArgument Operation.bodyArgument
  rw [← h.hasBody]
  cases hbody : e.body with
  | none => rfl
  | some body =>
      rw [← isRequired_of_requestBody (h.body body hbody)]
      dsimp only
      cases body.isRequired <;> cases isRequired <;> rfl

theorem read_arguments {o : Operation} {e : Endpoint} (h : o.Reads e) :
    (arguments e).map Argument.read = o.typeScriptArguments := by
  simp only [arguments, List.map_append, read_pathArguments h.pathParams, read_bodyArgument h,
    read_objectArgument _ h.queryParams, read_objectArgument _ h.headerParams,
    Operation.typeScriptArguments]

end TypeScript

theorem map_toArgument_method {o : Operation} {e : Endpoint} (h : o.Reads e) (he : e.IsLegible)
    (api : Api) : (Reader.TypeScript.argumentsOf? (methodBlock .web api e)).map
      (·.map (·.toArgument)) = some o.typeScriptArguments := by
  rw [methodBlock, TypeScript.argumentsOf?_method he, Option.map_some,
    TypeScript.map_toArgument_readAs, TypeScript.read_arguments h]

/-- The method for an operation in TypeScript has the arguments of the operation, if the types are
types. Those that may be left out come last, unless there is a query that may be left out and
headers that may not. -/
theorem omissible_arguments_last_iff {doc : Value} {api : Api} (h : ofDocument doc = .ok api) :
    (∀ e ∈ api.endpoints, ∀ source, methodBlock .web api e <:+: api.code .web source) ∧
    List.Forall₂ (fun o e =>
      (e.IsLegible → (Reader.TypeScript.argumentsOf? (methodBlock .web api e)).map
        (·.map (·.toArgument)) = some o.typeScriptArguments) ∧
      (Reader.OmissibleLast o.typeScriptArguments ↔ ¬ o.IsMisordered))
      (declaredOperations doc) api.endpoints := by
  refine ⟨fun e he source => methodBlock_isInfix he .web source, ?_⟩
  exact (forall₂_reads h).imp fun o e hreads =>
    ⟨fun he => map_toArgument_method hreads he api, o.omissibleLast_typeScriptArguments_iff⟩

/-- A document with two operations that have an optional parameter of the query. One of them has a
required header, the other one an optional body. -/
def tenantsDocument : Value :=
  let parameter (name place : String) (required : Bool) : Value :=
    .record [("name", .str name), ("in", .str place), ("required", .bool required),
      ("schema", .record [("type", .str "string")])]
  .record [("info", .record [("title", .str "Items"), ("version", .str "1")]),
    ("paths", .record [("/items", .record [
      ("get", .record [("operationId", .str "listItems"),
        ("parameters", .list [parameter "limit" "query" false,
          parameter "X-Tenant" "header" true])]),
      ("post", .record [("operationId", .str "addItem"),
        ("parameters", .list [parameter "limit" "query" false]),
        ("requestBody", .record [("content", .record [("application/json", .record [
          ("schema", .record [("type", .str "string")])])])])])])])]

theorem operations_tenantsDocument : (declaredOperations tenantsDocument).map
    (fun o => (o.typeScriptArguments, decide o.IsMisordered)) =
      [([⟨"query", true⟩, ⟨"headers", false⟩], true),
        ([⟨"query", true⟩, ⟨"body", true⟩], false)] := by
  decide +kernel

theorem omissible_arguments_last_tenantsDocument :
    ∃ api e e', ofDocument tenantsDocument = .ok api ∧ api.endpoints = [e, e'] ∧
      (Reader.TypeScript.argumentsOf? (methodBlock .web api e')).map (·.map (·.toArgument)) =
        some [⟨"query", true⟩, ⟨"body", true⟩] ∧
      Reader.OmissibleLast [⟨"query", true⟩, ⟨"body", true⟩] := by
  obtain ⟨api, hok, hlegible⟩ :
      ∃ api, ofDocument tenantsDocument = .ok api ∧ ∀ e ∈ api.endpoints, e.IsLegible :=
    exists_ok_of_any (by decide +kernel)
  have hall := (omissible_arguments_last_iff hok).2
  obtain ⟨o, rest, ho, _, hrest⟩ := List.map_eq_cons_iff.1 operations_tenantsDocument
  obtain ⟨o', rfl, hpost⟩ := List.map_eq_singleton_iff.1 hrest
  obtain ⟨harguments, hordered⟩ := Prod.mk.inj hpost
  rw [ho] at hall
  obtain ⟨e, endpoints, _, hall, hendpoints⟩ := List.forall₂_cons_left_iff.1 hall
  obtain ⟨e', rfl, hread, hlast⟩ := exists_of_forall₂_singleton hall
  rw [harguments] at hread hlast
  have he' : e'.IsLegible := hlegible e' (by simp [hendpoints])
  exact ⟨api, e, e', hok, hendpoints, hread he', hlast.2 (of_decide_eq_false hordered)⟩

/-- The headers have to be given, behind a query that may be left out. -/
theorem not_omissibleLast_tenantsDocument :
    ∃ api e arguments, ofDocument tenantsDocument = .ok api ∧ e ∈ api.endpoints ∧
      (Reader.TypeScript.argumentsOf? (methodBlock .web api e)).map (·.map (·.toArgument)) =
        some arguments ∧
      arguments = [⟨"query", true⟩, ⟨"headers", false⟩] ∧ ¬ Reader.OmissibleLast arguments := by
  obtain ⟨api, hok, hlegible⟩ :
      ∃ api, ofDocument tenantsDocument = .ok api ∧ ∀ e ∈ api.endpoints, e.IsLegible :=
    exists_ok_of_any (by decide +kernel)
  obtain ⟨o, rest, ho, hget, _⟩ := List.map_eq_cons_iff.1 operations_tenantsDocument
  have hall := forall₂_reads hok
  rw [ho] at hall
  obtain ⟨e, endpoints, hreads, _, hendpoints⟩ := List.forall₂_cons_left_iff.1 hall
  have he : e ∈ api.endpoints := by
    rw [hendpoints]
    exact List.mem_cons_self
  have hread := map_toArgument_method hreads (hlegible e he) api
  rw [(Prod.mk.inj hget).1] at hread
  refine ⟨api, e, _, hok, he, hread, rfl, ?_⟩
  rw [Reader.omissibleLast_iff_pairwise]
  decide

end SpecForge.Api
