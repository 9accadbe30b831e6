import SpecForge.Proofs.Api.Client
import SpecForge.Proofs.Api.Printed
import SpecForge.Proofs.Name.Respelling

/-!
# The names in a client

Methods are named for operation ids, and arguments for parameters and for the body. Both are turned
into identifiers, so two of them have the same name if and only if one text can be respelled into
the other. That operation ids are different texts does not help, and neither does it that parameters
with the same name stand at different places of the request, or are declared by a path and again by
one of its operations.
-/

namespace SpecForge.Api

open Model.Reader Reader Text

/-! ### Methods -/

theorem namesIn?_code {api : Api} (h : ∀ e ∈ api.endpoints, ∃ verb : Verb, e.method = verb.name)
    (p : Platform) (source : String) : (Reader.dialect p).namesIn? (api.code p source) =
      some (api.endpoints.map (·.methodName)) := by
  have hnames := (makes_code h p source).imp fun _ _ hmakes => hmakes.name
  exact mapM_eq_some_iff_forall₂.2 (List.forall₂_map_right_iff.2 hnames.flip)

/-- The methods of a client are named for the operation ids. Their names are different if and only
if no operation id can be respelled into another one, as where each id consists of letters and
digits behind a small letter. -/
theorem methodNames_nodup_iff {doc : Value} {api : Api} (h : ofDocument doc = .ok api)
    (p : Platform) (source : String) :
    ∃ names, (Reader.dialect p).namesIn? (api.code p source) = some names ∧
      names = (api.endpoints.map (·.operationId)).map Name.toIdentifier ∧
      (names.Nodup ↔
        (api.endpoints.map (·.operationId)).Pairwise fun s t => ¬ Name.SpelledAlike s t) ∧
      ((∀ e ∈ api.endpoints, Name.IsCamel e.operationId.toList) → names.Nodup) := by
  obtain ⟨_, hids⟩ := described_of_ofDocument h
  have hnames : api.endpoints.map (·.methodName) =
      (api.endpoints.map (·.operationId)).map Name.toIdentifier := by
    rw [List.map_map]
    rfl
  refine ⟨_, namesIn?_code (exists_verb h) p source, hnames, ?_, fun hcamel => ?_⟩
  · rw [hnames]
    exact Name.nodup_map_toIdentifier_iff _
  · have hsame : (api.endpoints.map (·.operationId)).map Name.toIdentifier =
        api.endpoints.map (·.operationId) := by
      rw [List.map_map]
      exact List.map_congr_left fun e he => Name.toIdentifier_of_isCamel (hcamel e he)
    rw [hnames, hsame]
    exact hids

/-- A document with an operation id that is declared and one that is made from method and path. -/
def usersDocument : Value :=
  .record [("info", .record [("title", .str "Users"), ("version", .str "1")]),
    ("paths", .record [
      ("/users", .record [("get", .record [("operationId", .str "listUsers")])]),
      ("/users/\x7bid\x7d", .record [("delete", .record [])])])]

theorem methodNames_nodup_usersDocument :
    ∃ api, ofDocument usersDocument = .ok api ∧
      (Reader.dialect .ios).namesIn? (api.code .ios "users.json") =
        some ["listUsers", "deleteUsersById"] ∧ ["listUsers", "deleteUsersById"].Nodup := by
  obtain ⟨api, hok, hids⟩ : ∃ api, ofDocument usersDocument = .ok api ∧
      api.endpoints.map (·.operationId) = ["listUsers", "deleteUsersById"] :=
    exists_ok_of_any (by decide +kernel)
  obtain ⟨names, hread, hnames, _, _⟩ := methodNames_nodup_iff hok .ios "users.json"
  have htexts : names = ["listUsers", "deleteUsersById"] := by
    rw [hnames, hids]
    decide +kernel
  rw [htexts] at hread
  exact ⟨api, hok, hread, by decide⟩

/-- A document with two operation ids for the same words. -/
def dashedDocument : Value :=
  .record [("info", .record [("title", .str "Users"), ("version", .str "1")]),
    ("paths", .record [
      ("/user", .record [("get", .record [("operationId", .str "get-user")])]),
      ("/users", .record [("get", .record [("operationId", .str "getUser")])])])]

/-- Every client of this document has two methods of the same name. -/
theorem not_nodup_dashedDocument :
    ∃ api, ofDocument dashedDocument = .ok api ∧ ∀ p source, ∃ names,
      (Reader.dialect p).namesIn? (api.code p source) = some names ∧ ¬ names.Nodup := by
  obtain ⟨api, hok, hnames⟩ : ∃ api, ofDocument dashedDocument = .ok api ∧
      api.endpoints.map (·.methodName) = ["getUser", "getUser"] :=
    exists_ok_of_any (by decide +kernel)
  refine ⟨api, hok, fun p source => ⟨_, namesIn?_code (exists_verb hok) p source, ?_⟩⟩
  rw [hnames]
  decide

/-! ### Arguments -/

/-- The name that a parameter declares. -/
def declaredName (v : Value) : String := ((Shape.text (memberOrNull v "name")).toOption).getD ""

/-- What the arguments of a method are named for: the parameters of the path, of the query and of
the headers, and then the body. -/
def Operation.labels (o : Operation) : List String :=
  (o.standing .path ++ o.standing .query ++ o.standing .header).map declaredName ++
    if (memberOrNull o.value "requestBody").isGiven then ["body"] else []

theorem map_declaredName {values : List Value} {params : List Parameter}
    (h : List.Forall₂ DeclaredAs values params) :
    values.map declaredName = params.map (·.name) := by
  induction h with
  | nil => rfl
  | cons hv _ ih =>
      rw [List.map_cons, List.map_cons, ih, declaredName, hv.name]
      rfl

/-- The identifiers of what the arguments are named for. -/
theorem map_toIdentifier_labels {o : Operation} {e : Endpoint} (h : o.Reads e) :
    o.labels.map Name.toIdentifier =
      e.params.map (·.identifier) ++ if e.body.isSome then ["body"] else [] := by
  have hbody : Name.toIdentifier "body" = "body" := by decide
  have hnames : (o.standing .path ++ o.standing .query ++ o.standing .header).map declaredName =
      e.params.map (·.name) := by
    simp only [Endpoint.params, List.map_append, map_declaredName h.pathParams,
      map_declaredName h.queryParams, map_declaredName h.headerParams]
  rw [Operation.labels, List.map_append, hnames, List.map_map, h.hasBody]
  congr 1
  split
  · rw [List.map_singleton, hbody]
  · rfl

theorem Swift.map_name_arguments (e : Endpoint) : (Swift.arguments e).map (·.name) =
    e.params.map (·.identifier) ++ if e.body.isSome then ["body"] else [] := by
  simp only [Swift.arguments, List.map_append, List.map_map]
  cases e.body with
  | none => rfl
  | some body => rfl

theorem Kotlin.map_name_arguments (e : Endpoint) : (Kotlin.arguments e).map (·.name) =
    e.params.map (·.identifier) ++ if e.body.isSome then ["body"] else [] := by
  simp only [Kotlin.arguments, Endpoint.params, List.map_append, List.map_map]
  cases e.body with
  | none => rfl
  | some body => rfl

/-- The names of the arguments that stand in the method for an endpoint, in Swift and in Kotlin. -/
structure NamesArguments (api : Api) (e : Endpoint) (names : List String) : Prop where
  swift : (Reader.Swift.argumentsOf? (methodBlock .ios api e)).map (·.map (·.name)) = some names
  kotlin : (Reader.Kotlin.argumentsOf? (methodBlock .android api e)).map (·.map (·.name)) =
    some names

theorem Operation.Reads.namesArguments {o : Operation} {e : Endpoint} (h : o.Reads e)
    (he : e.IsLegible) (api : Api) : NamesArguments api e (o.labels.map Name.toIdentifier) := by
  constructor
  · rw [map_toIdentifier_labels h, ← Swift.map_name_arguments, methodBlock,
      Swift.argumentsOf?_method api.clientName he, Option.map_some, List.map_map]
    rfl
  · rw [map_toIdentifier_labels h, ← Kotlin.map_name_arguments, methodBlock,
      Kotlin.argumentsOf?_function he, Option.map_some, List.map_map]
    rfl

/-- In Swift and in Kotlin, the arguments of the method for an operation are named for the
parameters that hold for the operation and for the body, if the types are types. Their names are
different if and only if none of these texts can be respelled into another one. -/
theorem argumentNames_nodup_iff {doc : Value} {api : Api} (h : ofDocument doc = .ok api) :
    (∀ e ∈ api.endpoints, ∀ p source, methodBlock p api e <:+: api.code p source) ∧
      List.Forall₂ (fun o e =>
          (e.IsLegible → NamesArguments api e (o.labels.map Name.toIdentifier)) ∧
          ((o.labels.map Name.toIdentifier).Nodup ↔
            o.labels.Pairwise fun s t => ¬ Name.SpelledAlike s t))
        (declaredOperations doc) api.endpoints := by
  refine ⟨fun e he p source => methodBlock_isInfix he p source, ?_⟩
  exact (forall₂_reads h).imp fun o _ hreads =>
    ⟨fun he => hreads.namesArguments he api, Name.nodup_map_toIdentifier_iff o.labels⟩

theorem argumentNames_nodup_escapesDocument :
    ∃ api e, ofDocument escapesDocument = .ok api ∧ api.endpoints = [e] ∧
      NamesArguments api e ["itS", "filter_aB", "xTenant", "body"] ∧
      ["it's", "filter[\"a\\b\"]", "X-Tenant", "body"].Pairwise
        fun s t => ¬ Name.SpelledAlike s t := by
  obtain ⟨api, hok, hlegible⟩ :
      ∃ api, ofDocument escapesDocument = .ok api ∧ ∀ e ∈ api.endpoints, e.IsLegible :=
    exists_ok_of_any (by decide +kernel)
  have hlabels : (declaredOperations escapesDocument).map (·.labels) =
      [["it's", "filter[\"a\\b\"]", "X-Tenant", "body"]] := by
    decide +kernel
  have hnames : ["it's", "filter[\"a\\b\"]", "X-Tenant", "body"].map Name.toIdentifier =
      ["itS", "filter_aB", "xTenant", "body"] := by
    decide +kernel
  obtain ⟨o, ho, hlabels⟩ := List.map_eq_singleton_iff.1 hlabels
  have hall := (argumentNames_nodup_iff hok).2
  rw [ho] at hall
  obtain ⟨e, hendpoints, hnamed, hiff⟩ := exists_of_forall₂_singleton hall
  have he : e.IsLegible := hlegible e (by simp [hendpoints])
  rw [hlabels, hnames] at hnamed hiff
  exact ⟨api, e, hok, hendpoints, hnamed he, hiff.1 (by decide)⟩

/-- No two parameters of a list have the same name and the same place. -/
def DeclaredOnce (params : List Value) : Prop :=
  (params.map fun v => (declaredName v, (Shape.text (memberOrNull v "in")).toOption)).Nodup

instance (params : List Value) : Decidable (DeclaredOnce params) :=
  inferInstanceAs (Decidable (List.Nodup _))

/-- A document with a parameter of the path, and a parameter of the query that has its name. -/
def versionsDocument : Value :=
  .record [("info", .record [("title", .str "Users"), ("version", .str "1")]),
    ("paths", .record [("/users/\x7bid\x7d", .record [
      ("parameters", .list [.record [("name", .str "id"), ("in", .str "path"),
        ("required", .bool true), ("schema", .record [("type", .str "string")])]]),
      ("get", .record [("parameters", .list [.record [("name", .str "id"), ("in", .str "query"),
        ("schema", .record [("type", .str "string")])]])])])])]

/-- The path and its operation declare each parameter once, and yet the method has two arguments of
the same name. -/
theorem not_nodup_versionsDocument :
    ∃ api o e names, ofDocument versionsDocument = .ok api ∧
      (o, e) ∈ (declaredOperations versionsDocument).zip api.endpoints ∧
      DeclaredOnce (itemsOf o.shared) ∧
      DeclaredOnce (itemsOf (memberOrNull o.value "parameters")) ∧
      NamesArguments api e names ∧ ¬ names.Nodup := by
  obtain ⟨api, hok, hlegible⟩ :
      ∃ api, ofDocument versionsDocument = .ok api ∧ ∀ e ∈ api.endpoints, e.IsLegible :=
    exists_ok_of_any (by decide +kernel)
  have hdeclared : ∀ o ∈ declaredOperations versionsDocument, DeclaredOnce (itemsOf o.shared) ∧
      DeclaredOnce (itemsOf (memberOrNull o.value "parameters")) ∧
      o.labels.map Name.toIdentifier = ["id", "id"] := by
    decide +kernel
  have hlength : (declaredOperations versionsDocument).length = 1 := by decide +kernel
  obtain ⟨o, ho⟩ := List.length_eq_one_iff.1 hlength
  have hall := forall₂_reads hok
  rw [ho] at hall hdeclared
  obtain ⟨e, hendpoints, hreads⟩ := exists_of_forall₂_singleton hall
  obtain ⟨hshared, hown, hnames⟩ := hdeclared o List.mem_cons_self
  have he : e.IsLegible := hlegible e (by simp [hendpoints])
  have hnamed := hreads.namesArguments he api
  rw [hnames] at hnamed
  refine ⟨api, o, e, ["id", "id"], hok, ?_, hshared, hown, hnamed, by decide⟩
  rw [ho, hendpoints]
  exact List.mem_cons_self

end SpecForge.Api
