import Mathlib.Data.List.Forall2
import SpecForge.Api.OpenApi
import SpecForge.Proofs.Model.Schema
import SpecForge.Proofs.Outcome

/-!
# The endpoints of a document

What a document declares can be listed without reading any of it in detail: the paths in their order
and, on each path, the operations in a fixed order of five methods. An accepted document has exactly
one endpoint for each of these operations. The parameters that hold for an operation are those of
its path followed by its own; each place in a request takes those that name it, in this order.
-/

namespace SpecForge.Api

/-- The methods whose operations make endpoints. -/
inductive Verb where
  | get
  | post
  | put
  | patch
  | delete
deriving DecidableEq

namespace Verb

/-- The key of a path item under which the operation of a method stands. -/
def key : Verb → String
  | get => "get"
  | post => "post"
  | put => "put"
  | patch => "patch"
  | delete => "delete"

/-- The name of a method in a request. -/
def name : Verb → String
  | get => "GET"
  | post => "POST"
  | put => "PUT"
  | patch => "PATCH"
  | delete => "DELETE"

/-- The methods, in the order of the endpoints on one path. -/
def all : List Verb := [get, post, put, patch, delete]

theorem map_key_all : all.map key = methods := rfl

theorem upper_key (verb : Verb) : Text.upper verb.key = verb.name := by
  cases verb <;> decide +kernel

theorem allWord_name (verb : Verb) : Name.AllWord verb.name.toList := by
  cases verb <;> decide

end Verb

/-- The key of `in` that stands for a place. -/
def Location.key : Location → String
  | path => "path"
  | query => "query"
  | header => "header"

/-- The members of an object; another value has none. -/
def membersOf (v : Value) : List (Value × Value) :=
  match v.content with
  | .object members => members
  | _ => []

/-- The items of a list; a value that has no items has none. -/
def itemsOf (v : Value) : List Value := v.each.toOption.getD []

/-- An operation of a document, with the parameters that its path declares for all operations. -/
structure Operation where
  verb : Verb
  path : Value
  value : Value
  shared : Value

/-- The operations on one path: those of the five methods whose value is not null. -/
def operationsOn (path item : Value) : List Operation :=
  Verb.all.filterMap fun verb => match memberOrNull item verb.key with
    | .null => none
    | value => some ⟨verb, path, value, memberOrNull item "parameters"⟩

/-- The operations that a document declares. -/
def declaredOperations (doc : Value) : List Operation :=
  (membersOf (memberOrNull doc "paths")).flatMap fun m => operationsOn m.1 m.2

namespace Operation

/-- The parameters that hold for an operation, those of its path first. -/
def parameters (o : Operation) : List Value :=
  itemsOf o.shared ++ itemsOf (memberOrNull o.value "parameters")

/-- Does a parameter name this place? -/
def standsAt (place : Location) (v : Value) : Bool := (memberOrNull v "in").isText place.key

/-- The parameters that hold for an operation and name a place. -/
def standing (o : Operation) (place : Location) : List Value :=
  o.parameters.filter (standsAt place)

end Operation

/-- A value that is read as a parameter. -/
structure DeclaredAs (v : Value) (p : Parameter) : Prop where
  reading : parameter v = .ok p
  name : Shape.text (memberOrNull v "name") = .ok p.name
  isRequired : p.isRequired = (memberOrNull v "required").isGiven

/-- The endpoint that an operation makes: it has the path and the method of the operation, and each
of its three lists of parameters holds those that name the place, one for one and in order. -/
structure Operation.Makes (o : Operation) (e : Endpoint) : Prop where
  path : Shape.text o.path = .ok e.path
  method : e.method = o.verb.name
  pathParams : List.Forall₂ DeclaredAs (o.standing .path) e.pathParams
  queryParams : List.Forall₂ DeclaredAs (o.standing .query) e.queryParams
  headerParams : List.Forall₂ DeclaredAs (o.standing .header) e.headerParams

/-- The endpoint that an operation makes, with the body that the operation declares, if any, and
with its responses. -/
structure Operation.Reads (o : Operation) (e : Endpoint) : Prop extends o.Makes e where
  hasBody : e.body.isSome = (memberOrNull o.value "requestBody").isGiven
  body : ∀ body, e.body = some body →
    requestBody (memberOrNull o.value "requestBody") = .ok body
  responses : List.Forall₂ (fun entry r => response entry.1 entry.2 = .ok r)
    (membersOf (memberOrNull o.value "responses")) e.responses

/-! ### Parts that are looked up -/

theorem memberOrNull_of_part {v w : Value} {key : String} (h : v.part key = .ok w) :
    memberOrNull v key = w := by
  rw [Value.part] at h
  split at h
  · rename_i members hv
    cases h
    rw [memberOrNull, Value.member?, hv]
  · cases h

theorem isGiven_of_memberOrNull {v : Value} {key : String}
    (h : (memberOrNull v key).isGiven = true) : v.isGiven = true := by
  cases v with
  | object members =>
      cases members with
      | nil => simp [memberOrNull, Value.member?, Value.content, Value.lookup, Value.isGiven] at h
      | cons m members => rfl
  | loop number content => rfl
  | _ => simp [memberOrNull, Value.member?, Value.content, Value.isGiven] at h

theorem isObject_of_memberOrNull {v : Value} {key : String}
    (h : (memberOrNull v key).isGiven = true) : v.isObject = true := by
  rw [memberOrNull, Value.member?] at h
  rw [Value.isObject]
  split at h
  · rfl
  · simp [Value.isGiven] at h

theorem part_eq_memberOrNull {v : Value} (h : v.isObject = true) (key : String) :
    v.part key = .ok (memberOrNull v key) := by
  rw [Value.isObject] at h
  rw [Value.part, memberOrNull, Value.member?]
  cases hcontent : v.content with
  | object members => rfl
  | _ => simp [hcontent] at h

/-- A value that is not given has the same members as the object that takes its place. -/
theorem member?_orElse (v : Value) (key : String) :
    (v.orElse (.object [])).member? key = v.member? key := by
  rw [Value.orElse]
  split
  · rfl
  · rename_i h
    cases v with
    | object members =>
        have hnil : members = [] := by simpa [Value.isGiven] using h
        rw [hnil]
    | loop number content => exact absurd rfl h
    | _ => rfl

theorem memberOrNull_orElse (v : Value) (key : String) :
    memberOrNull (v.orElse (.object [])) key = memberOrNull v key := by
  rw [memberOrNull, member?_orElse, memberOrNull]

theorem itemsOf_of_each {v : Value} {items : List Value} (h : v.each = .ok items) :
    itemsOf v = items := by
  rw [itemsOf, h]
  rfl

/-- A value that is not given has no items, like the list that takes its place. -/
theorem itemsOf_orElse (v : Value) : itemsOf (v.orElse (.list [])) = itemsOf v := by
  rw [Value.orElse]
  split
  · rfl
  · rename_i h
    have hnil : itemsOf v = [] := by
      cases v with
      | loop number content => exact absurd rfl h
      | date d => exact absurd rfl h
      | moment m => exact absurd rfl h
      | pair a b => exact absurd rfl h
      | dots => exact absurd rfl h
      | null => rfl
      | bool b => rfl
      | int n => rfl
      | float x => rfl
      | str s =>
          have hs : s = "" := by simpa [Value.isGiven] using h
          rw [hs]
          rfl
      | list items =>
          have hl : items = [] := by simpa [Value.isGiven] using h
          rw [hl]
          rfl
      | object members =>
          have hm : members = [] := by simpa [Value.isGiven] using h
          rw [hm]
          rfl
      | set items =>
          have hl : items = [] := by simpa [Value.isGiven] using h
          rw [hl]
          rfl
      | bytes data =>
          have hd : data = [] := by simpa [Value.isGiven] using h
          rw [hd]
          rfl
    rw [hnil]
    rfl

/-! ### Parameters and their places -/

/-- What a parameter is read from. -/
theorem parameter_eq_ok {v : Value} {p : Parameter} (h : parameter v = .ok p) :
    Shape.text (memberOrNull v "name") = .ok p.name ∧
      p.isRequired = (memberOrNull v "required").isGiven ∧
      (∃ type, schemaType (objectOrEmpty (memberOrNull v "schema")) = .ok type ∧
        Shape.text type = .ok p.type) ∧
      p.isArray = isArraySchema (objectOrEmpty (memberOrNull v "schema")) ∧
      Shape.optional Shape.text
        (memberOrNull (objectOrEmpty (memberOrNull v "schema")) "format") = .ok p.format := by
  rw [parameter] at h
  split at h
  · rename_i name hname
    obtain ⟨type, htype, h⟩ := bind_eq_ok_iff.1 h
    rw [checked_eq_ok_iff] at h
    obtain ⟨name', hname', h⟩ := bind_eq_ok_iff.1 h
    obtain ⟨type', htype', h⟩ := bind_eq_ok_iff.1 h
    obtain ⟨description', _, h⟩ := bind_eq_ok_iff.1 h
    obtain ⟨format', hformat, h⟩ := bind_eq_ok_iff.1 h
    cases h
    rw [Shape.under_eq_ok_iff] at hname' htype' hformat
    have hmember : memberOrNull v "name" = name := by
      rw [memberOrNull, hname]
      rfl
    exact ⟨hmember ▸ hname', rfl, ⟨type, htype, htype'⟩, rfl, hformat⟩
  · cases h

theorem declaredAs_of_parameter {v : Value} {p : Parameter} (h : parameter v = .ok p) :
    DeclaredAs v p :=
  ⟨h, (parameter_eq_ok h).1, (parameter_eq_ok h).2.1⟩

theorem isText_of_ofValue {v : Value} {found : Option Location}
    (h : Location.ofValue v = .ok found) (place : Location) :
    v.isText place.key = (found == some place) := by
  unfold Location.ofValue at h
  split at h
  all_goals cases h
  · cases place <;> rfl
  · cases place <;> rfl
  · cases place <;> rfl
  · rename_i hpath hquery hheader _ _ _ _
    cases v with
    | str s =>
        have hne : place.key ≠ s := by
          rintro rfl
          cases place with
          | path => exact hpath rfl
          | query => exact hquery rfl
          | header => exact hheader rfl
        simpa [Value.isText] using hne
    | _ => rfl

/-- A parameter stands at the place that it names and at no other one. -/
theorem standsAt_of_ofValue {v named : Value} {place? : Option Location}
    (hpart : v.part "in" = .ok named) (hplace : Location.ofValue named = .ok place?)
    (place : Location) : Operation.standsAt place v = (place? == some place) := by
  rw [Operation.standsAt, memberOrNull_of_part hpart]
  exact isText_of_ofValue hplace place

/-- A parameter that has been located names its place and no other one. -/
theorem located_eq_ok {v : Value} {found : Option (Location × Parameter)}
    (h : located v = .ok found) :
    (∀ place, Operation.standsAt place v = (found.map Prod.fst == some place)) ∧
      ∀ place p, found = some (place, p) → DeclaredAs v p := by
  obtain ⟨named, hpart, h⟩ := bind_eq_ok_iff.1 h
  obtain ⟨place?, hplace, h⟩ := bind_eq_ok_iff.1 h
  have hstands := standsAt_of_ofValue hpart hplace
  cases place? with
  | none =>
      cases h
      refine ⟨hstands, ?_⟩
      intro place p hp
      cases hp
  | some place =>
      obtain ⟨p, hp, h⟩ := bind_eq_ok_iff.1 h
      cases h
      refine ⟨hstands, ?_⟩
      intro place' p' heq
      cases heq
      exact declaredAs_of_parameter hp

/-- The parameters at a place are those that name it. -/
theorem declaredAs_atPlace (place : Location) {params : List Value}
    {found : List (Option (Location × Parameter))} (h : params.mapM located = .ok found) :
    List.Forall₂ DeclaredAs (params.filter (Operation.standsAt place))
      (atPlace place (found.filterMap id)) := by
  induction params generalizing found with
  | nil =>
      cases h
      exact .nil
  | cons v params ih =>
      rw [List.mapM_cons] at h
      obtain ⟨first, hfirst, h⟩ := bind_eq_ok_iff.1 h
      obtain ⟨rest, hrest, h⟩ := bind_eq_ok_iff.1 h
      cases h
      have ih := ih hrest
      obtain ⟨hstands, hdeclared⟩ := located_eq_ok hfirst
      rw [List.filter_cons, hstands place]
      cases first with
      | none => exact ih
      | some entry =>
          obtain ⟨place', p⟩ := entry
          by_cases hplace : place' = place
          · subst hplace
            simpa [atPlace] using List.Forall₂.cons (hdeclared _ p rfl) ih
          · simpa [atPlace, hplace] using ih

/-! ### Operations and their endpoints -/

theorem membersOf_of_allMembers {v : Value} {members : List (Value × Value)}
    (h : (v.orElse (.object [])).allMembers = .ok members) : membersOf v = members :=
  Model.members_of_allMembers h

theorem requestBody_of_isGiven {v : Value} {read : Option RequestBody}
    (h : (if v.isGiven then (requestBody v).map some else pure none) = .ok read) :
    read.isSome = v.isGiven ∧ ∀ body, read = some body → requestBody v = .ok body := by
  split at h
  · rename_i hgiven
    cases hbody : requestBody v with
    | error f =>
        rw [hbody] at h
        cases h
    | ok body =>
        rw [hbody] at h
        cases h
        refine ⟨hgiven.symm, ?_⟩
        intro body' heq
        rw [Option.some.inj heq]
  · rename_i hgiven
    cases h
    refine ⟨(Bool.eq_false_iff.2 hgiven).symm, ?_⟩
    intro body heq
    cases heq

theorem reads_of_endpoint {o : Operation} {e : Endpoint}
    (h : endpoint o.verb.key o.path o.value (o.shared.orElse (.list [])) = .ok e) :
    o.Reads e := by
  obtain ⟨inherited, hinherited, h⟩ := bind_eq_ok_iff.1 h
  obtain ⟨declared, hpart, h⟩ := bind_eq_ok_iff.1 h
  obtain ⟨own, hown, h⟩ := bind_eq_ok_iff.1 h
  obtain ⟨found, hfound, h⟩ := bind_eq_ok_iff.1 h
  obtain ⟨declaredId, _, h⟩ := bind_eq_ok_iff.1 h
  obtain ⟨body, hbody, h⟩ := exists_of_ite_bind_eq_ok h
  obtain ⟨table, htable, h⟩ := bind_eq_ok_iff.1 h
  obtain ⟨responses, hresponses, h⟩ := bind_eq_ok_iff.1 h
  rw [checked_eq_ok_iff] at h
  obtain ⟨operationId, _, h⟩ := bind_eq_ok_iff.1 h
  obtain ⟨path, hpath, h⟩ := bind_eq_ok_iff.1 h
  obtain ⟨summary, _, h⟩ := bind_eq_ok_iff.1 h
  obtain ⟨description, _, h⟩ := bind_eq_ok_iff.1 h
  obtain ⟨tags, _, h⟩ := bind_eq_ok_iff.1 h
  cases h
  have hparams : o.parameters = inherited ++ own := by
    rw [Operation.parameters, memberOrNull_of_part hpart, ← itemsOf_orElse o.shared,
      itemsOf_of_each hinherited, ← itemsOf_orElse declared, itemsOf_of_each hown]
  have hplaced : ∀ place, List.Forall₂ DeclaredAs (o.standing place)
      (atPlace place (found.filterMap id)) := by
    intro place
    rw [Operation.standing, hparams]
    exact declaredAs_atPlace place hfound
  refine ⟨⟨Shape.under_eq_ok_iff.1 hpath, o.verb.upper_key, hplaced .path, hplaced .query,
    hplaced .header⟩, (requestBody_of_isGiven hbody).1, (requestBody_of_isGiven hbody).2, ?_⟩
  rw [membersOf_of_allMembers htable]
  exact forall₂_of_mapM_eq_ok (fun _ _ _ => id) hresponses

/-- Where no operation id is declared, the one that is made has the path of the endpoint in it. -/
theorem operationId_of_endpoint {method : String} {path value shared : Value} {e : Endpoint}
    (h : endpoint method path value shared = .ok e)
    (hnone : (memberOrNull value "operationId").isGiven = false) :
    e.operationId = operationId method e.path := by
  obtain ⟨_, _, h⟩ := bind_eq_ok_iff.1 h
  obtain ⟨_, _, h⟩ := bind_eq_ok_iff.1 h
  obtain ⟨_, _, h⟩ := bind_eq_ok_iff.1 h
  obtain ⟨_, _, h⟩ := bind_eq_ok_iff.1 h
  obtain ⟨id, hid, h⟩ := bind_eq_ok_iff.1 h
  obtain ⟨_, _, h⟩ := exists_of_ite_bind_eq_ok h
  obtain ⟨_, _, h⟩ := bind_eq_ok_iff.1 h
  obtain ⟨_, _, h⟩ := bind_eq_ok_iff.1 h
  rw [checked_eq_ok_iff] at h
  obtain ⟨idText, hidText, h⟩ := bind_eq_ok_iff.1 h
  obtain ⟨pathText, hpathText, h⟩ := bind_eq_ok_iff.1 h
  obtain ⟨_, _, h⟩ := bind_eq_ok_iff.1 h
  obtain ⟨_, _, h⟩ := bind_eq_ok_iff.1 h
  obtain ⟨_, _, h⟩ := bind_eq_ok_iff.1 h
  cases h
  rw [Shape.under_eq_ok_iff] at hidText hpathText
  rw [declaredId, if_neg (by simp [hnone])] at hid
  obtain ⟨s, hs, hid⟩ := bind_eq_ok_iff.1 hid
  cases hid
  cases path with
  | str t =>
      cases hs
      cases hpathText
      cases hidText
      rfl
  | _ => cases hs

/-- The operations on a path are found method by method. -/
theorem filterMap_methods (path item : Value) :
    (methods.filterMap fun m => match memberOrNull (item.orElse (.object [])) m with
        | .null => none
        | operation => some (m, operation)) =
      (operationsOn path item).map fun o => (o.verb.key, o.value) := by
  simp only [memberOrNull_orElse]
  rw [← Verb.map_key_all, List.filterMap_map, operationsOn, List.map_filterMap]
  refine List.filterMap_congr fun verb _ => ?_
  rw [Function.comp]
  cases memberOrNull item verb.key <;> rfl

theorem mem_operationsOn {path item : Value} {o : Operation} (h : o ∈ operationsOn path item) :
    o.path = path ∧ o.shared = memberOrNull item "parameters" := by
  obtain ⟨verb, _, ho⟩ := List.mem_filterMap.1 h
  split at ho
  · cases ho
  · cases ho
    exact ⟨rfl, rfl⟩

theorem pathEndpoints_eq (path item : Value) :
    pathEndpoints path item = (item.orElse (.object [])).part "parameters" >>= fun shared =>
      (operationsOn path item).mapM fun o =>
        endpoint o.verb.key path o.value (shared.orElse (.list [])) := by
  rw [pathEndpoints]
  refine congrArg _ (funext fun shared => ?_)
  have hdeclared := filterMap_methods path item
  have hmap : ((operationsOn path item).map fun o => (o.verb.key, o.value)).mapM
      (fun m => endpoint m.1 path m.2 (shared.orElse (.list []))) =
        (operationsOn path item).mapM fun o =>
          endpoint o.verb.key path o.value (shared.orElse (.list [])) := List.mapM_map
  have hlist := congrArg (List.mapM fun m => endpoint m.1 path m.2 (shared.orElse (.list [])))
    hdeclared
  exact hlist.trans hmap

/-- Each operation on a path is read by itself. -/
theorem forall₂_of_pathEndpoints {path item : Value} {endpoints : List Endpoint}
    (h : pathEndpoints path item = .ok endpoints) :
    List.Forall₂
      (fun o e => endpoint o.verb.key o.path o.value (o.shared.orElse (.list [])) = .ok e)
      (operationsOn path item) endpoints := by
  rw [pathEndpoints_eq] at h
  obtain ⟨shared, hpart, h⟩ := bind_eq_ok_iff.1 h
  have hshared : memberOrNull item "parameters" = shared := by
    rw [← memberOrNull_orElse]
    exact memberOrNull_of_part hpart
  refine forall₂_of_mapM_eq_ok (fun o ho e he => ?_) h
  obtain ⟨hpath, hs⟩ := mem_operationsOn ho
  rw [hs, hshared, hpath]
  exact he

/-! ### The steps of a reading -/

/-- The members of an object that may be missing. -/
def tableOf (v : Value) : Outcome (List (Value × Value)) := (v.orElse (.object [])).allMembers

/-- The title and the version of a document. -/
def heading (doc : Value) : Outcome (Value × Value) := do
  if !doc.isObject then throw (.spec .apiShape)
  let info := (memberOrNull doc "info").orElse (.object [])
  let title ← info.part "title"
  if !title.isGiven then throw (.spec .apiTitle)
  match ← info.part "version" with
  | .null => throw (.spec .apiVersion)
  | version => return (title, version)

/-- The name that a title gives to an interface. -/
def typeName : Value → Outcome String
  | .str s => .ok (Name.sanitize s)
  | _ => .error .unfit

/-- The component schemas of a document. -/
def schemasOf (doc : Value) : Outcome Value := do
  let components := (memberOrNull doc "components").orElse (.object [])
  components.part "schemas"

/-- An interface whose parts have been read. -/
def assemble (doc : Value) (name version : String) (url : Value)
    (endpoints : List (List Endpoint)) (models : List Model) : Outcome Api := do
  let info := (memberOrNull doc "info").orElse (.object [])
  let api : Api ← checked do
    let description ←
      Shape.under "description" (Shape.optional Shape.text (memberOrNull info "description"))
    let url ← Shape.under "base_url" (Shape.optional Shape.text url)
    return ⟨name, version, description, url, endpoints.flatten, models⟩
  api.distinct

theorem ofDocument_eq (doc : Value) : ofDocument doc = (do
    let (title, version) ← heading doc
    let url ← serverUrl (memberOrNull doc "servers")
    let schemas ← schemasOf doc
    let name ← typeName title
    let version ← version.spelled
    let paths ← tableOf (memberOrNull doc "paths")
    let endpoints ← paths.mapM fun p => pathEndpoints p.1 p.2
    let table ← tableOf schemas
    let models ← table.mapM fun m => model m.1 m.2
    assemble doc name version url endpoints models) := by
  -- the reading goes on inside the branches of its checks, so each of them is opened
  rw [ofDocument, heading]
  dsimp only
  cases doc.isObject with
  | false => rfl
  | true =>
      cases ((memberOrNull doc "info").orElse (.object [])).part "title" with
      | error f => rfl
      | ok title =>
          change (if (!title.isGiven) = true then _ else _) =
            (if (!title.isGiven) = true then _ else _) >>= _
          cases title.isGiven with
          | false => rfl
          | true =>
              cases ((memberOrNull doc "info").orElse (.object [])).part "version" with
              | error f => rfl
              | ok version =>
                  cases version <;> cases title <;> rfl

theorem nodup_of_distinct {api api' : Api} (h : api.distinct = .ok api') :
    api' = api ∧ (api.endpoints.map (·.operationId)).Nodup := by
  rw [Api.distinct] at h
  split at h
  · cases h
  · rename_i hnone
    cases h
    exact ⟨rfl, ((firstRepeated_eq_none_iff _ _).1 hnone).1⟩

/-- An interface whose parts have been read, before its operation ids are compared. -/
def gathered (doc : Value) (name version : String) (url : Value)
    (endpoints : List (List Endpoint)) (models : List Model) : Outcome Api :=
  let info := (memberOrNull doc "info").orElse (.object [])
  checked do
    let description ←
      Shape.under "description" (Shape.optional Shape.text (memberOrNull info "description"))
    let url ← Shape.under "base_url" (Shape.optional Shape.text url)
    return ⟨name, version, description, url, endpoints.flatten, models⟩

/-- The interface that a document describes, before its operation ids are compared. -/
def described (doc : Value) : Outcome Api := do
  let (title, version) ← heading doc
  let url ← serverUrl (memberOrNull doc "servers")
  let schemas ← schemasOf doc
  let name ← typeName title
  let version ← version.spelled
  let paths ← tableOf (memberOrNull doc "paths")
  let endpoints ← paths.mapM fun p => pathEndpoints p.1 p.2
  let table ← tableOf schemas
  let models ← table.mapM fun m => model m.1 m.2
  gathered doc name version url endpoints models

/-- The last thing that is done is the comparison of the operation ids. -/
theorem ofDocument_eq_described (doc : Value) : ofDocument doc = described doc >>= distinct := by
  rw [ofDocument_eq, described]
  simp only [bind_assoc]
  rfl

theorem described_of_ofDocument {doc : Value} {api : Api} (h : ofDocument doc = .ok api) :
    described doc = .ok api ∧ (api.endpoints.map (·.operationId)).Nodup := by
  rw [ofDocument_eq_described] at h
  obtain ⟨api', hdescribed, h⟩ := bind_eq_ok_iff.1 h
  obtain ⟨rfl, hnodup⟩ := nodup_of_distinct h
  exact ⟨hdescribed, hnodup⟩

/-- The component schemas of a document with their names. -/
def componentSchemas (doc : Value) : List (Value × Value) :=
  membersOf (memberOrNull (memberOrNull doc "components") "schemas")

theorem componentSchemas_of_tableOf {doc schemas : Value} {table : List (Value × Value)}
    (hschemas : schemasOf doc = .ok schemas) (htable : tableOf schemas = .ok table) :
    componentSchemas doc = table := by
  rw [componentSchemas, ← memberOrNull_orElse, memberOrNull_of_part hschemas]
  exact membersOf_of_allMembers htable

/-- What the parts of an interface are read from. -/
structure IsReadFrom (doc : Value) (api : Api) : Prop where
  named : ∃ title version, heading doc = .ok (title, version) ∧ typeName title = .ok api.name
  baseUrl : ∃ server, serverUrl (memberOrNull doc "servers") = .ok server ∧
    Shape.optional Shape.text server = .ok api.baseUrl
  endpoints : ∃ endpoints, (membersOf (memberOrNull doc "paths")).mapM
    (fun p => pathEndpoints p.1 p.2) = .ok endpoints ∧ api.endpoints = endpoints.flatten
  models : (componentSchemas doc).mapM (fun m => model m.1 m.2) = .ok api.models

theorem isReadFrom_of_described {doc : Value} {api : Api} (h : described doc = .ok api) :
    IsReadFrom doc api := by
  obtain ⟨⟨title, version⟩, hheading, h⟩ := bind_eq_ok_iff.1 h
  obtain ⟨server, hserver, h⟩ := bind_eq_ok_iff.1 h
  obtain ⟨schemas, hschemas, h⟩ := bind_eq_ok_iff.1 h
  obtain ⟨name, hname, h⟩ := bind_eq_ok_iff.1 h
  obtain ⟨version', _, h⟩ := bind_eq_ok_iff.1 h
  obtain ⟨paths, hpaths, h⟩ := bind_eq_ok_iff.1 h
  obtain ⟨endpoints, hendpoints, h⟩ := bind_eq_ok_iff.1 h
  obtain ⟨table, htable, h⟩ := bind_eq_ok_iff.1 h
  obtain ⟨models, hmodels, h⟩ := bind_eq_ok_iff.1 h
  rw [gathered, checked_eq_ok_iff] at h
  obtain ⟨description, _, h⟩ := bind_eq_ok_iff.1 h
  obtain ⟨baseUrl, hbaseUrl, h⟩ := bind_eq_ok_iff.1 h
  cases h
  refine ⟨⟨title, version, hheading, hname⟩, ⟨server, hserver, Shape.under_eq_ok_iff.1 hbaseUrl⟩,
    ⟨endpoints, ?_, rfl⟩, ?_⟩
  · rw [membersOf_of_allMembers hpaths]
    exact hendpoints
  · rw [componentSchemas_of_tableOf hschemas htable]
    exact hmodels

theorem isReadFrom_of_ofDocument {doc : Value} {api : Api} (h : ofDocument doc = .ok api) :
    IsReadFrom doc api :=
  isReadFrom_of_described (described_of_ofDocument h).1

/-- Every component schema makes a model. -/
theorem forall₂_model {doc : Value} {api : Api} (h : ofDocument doc = .ok api) :
    List.Forall₂ (fun component m => model component.1 component.2 = .ok m)
      (componentSchemas doc) api.models :=
  forall₂_of_mapM_eq_ok (fun _ _ _ => id) (isReadFrom_of_ofDocument h).models

/-- Every operation makes an endpoint. -/
theorem forall₂_endpoint {doc : Value} {api : Api} (h : described doc = .ok api) :
    List.Forall₂
      (fun o e => endpoint o.verb.key o.path o.value (o.shared.orElse (.list [])) = .ok e)
      (declaredOperations doc) api.endpoints := by
  obtain ⟨endpoints, hendpoints, hflat⟩ := (isReadFrom_of_described h).endpoints
  rw [hflat, declaredOperations, List.flatMap_def]
  apply List.rel_flatten
  rw [List.forall₂_map_left_iff]
  exact forall₂_of_mapM_eq_ok (fun _ _ _ => forall₂_of_pathEndpoints) hendpoints

theorem forall₂_reads {doc : Value} {api : Api} (h : ofDocument doc = .ok api) :
    List.Forall₂ Operation.Reads (declaredOperations doc) api.endpoints :=
  (forall₂_endpoint (described_of_ofDocument h).1).imp fun _ _ => reads_of_endpoint

theorem forall₂_makes {doc : Value} {api : Api} (h : ofDocument doc = .ok api) :
    List.Forall₂ Operation.Makes (declaredOperations doc) api.endpoints :=
  (forall₂_reads h).imp fun _ _ hreads => hreads.toMakes

/-- The method of every endpoint is one of the five. -/
theorem exists_verb {doc : Value} {api : Api} (h : ofDocument doc = .ok api) :
    ∀ e ∈ api.endpoints, ∃ verb : Verb, e.method = verb.name := by
  have hmakes := forall₂_makes h
  generalize declaredOperations doc = operations, api.endpoints = endpoints at hmakes ⊢
  induction hmakes with
  | nil => exact fun _ he => absurd he List.not_mem_nil
  | cons ho _ ih => exact List.forall_mem_cons.2 ⟨⟨_, ho.method⟩, ih⟩

/-- An accepted document has exactly one endpoint for each operation that it declares, in the order
of the paths and of the methods, and the operation ids of its endpoints are different. -/
theorem makes_declaredOperations {doc : Value} {api : Api} (h : ofDocument doc = .ok api) :
    List.Forall₂ Operation.Makes (declaredOperations doc) api.endpoints ∧
      (api.endpoints.map (·.operationId)).Nodup :=
  ⟨forall₂_makes h, (described_of_ofDocument h).2⟩

/-- A document whose first path shares a header with its operations, one of which is null. -/
def ordersDocument : Value :=
  .record [("info", .record [("title", .str "Orders"), ("version", .str "1")]),
    ("paths", .record [
      ("/orders/\x7bid\x7d", .record [
        ("parameters", .list [.record [("name", .str "X-Tenant"), ("in", .str "header")]]),
        ("delete", .record []),
        ("put", .null),
        ("get", .record [("parameters", .list [
          .record [("name", .str "verbose"), ("in", .str "query")],
          .record [("name", .str "session"), ("in", .str "cookie")],
          .record [("name", .str "id"), ("in", .str "path")],
          .record [("name", .str "page"), ("in", .str "query")]])])]),
      ("/orders", .record [("post", .record [])])])]

theorem makes_ordersDocument :
    ∃ api, ofDocument ordersDocument = .ok api ∧
      List.Forall₂ Operation.Makes (declaredOperations ordersDocument) api.endpoints ∧
      (declaredOperations ordersDocument).map (·.verb) = [.get, .delete, .post] ∧
      api.endpoints.map (fun e => (e.method, e.queryParams.map (·.name))) =
        [("GET", ["verbose", "page"]), ("DELETE", []), ("POST", [])] ∧
      api.endpoints.map (fun e => e.headerParams.map (·.name)) =
        [["X-Tenant"], ["X-Tenant"], []] := by
  obtain ⟨api, hok, hqueries, hheaders⟩ : ∃ api, ofDocument ordersDocument = .ok api ∧
      api.endpoints.map (fun e => (e.method, e.queryParams.map (·.name))) =
        [("GET", ["verbose", "page"]), ("DELETE", []), ("POST", [])] ∧
      api.endpoints.map (fun e => e.headerParams.map (·.name)) =
        [["X-Tenant"], ["X-Tenant"], []] :=
    exists_ok_of_any (by decide +kernel)
  obtain ⟨hmakes, _⟩ := makes_declaredOperations hok
  exact ⟨api, hok, hmakes, rfl, hqueries, hheaders⟩

end SpecForge.Api
