import SpecForge.Api.Request
import SpecForge.Proofs.Model.Field
import SpecForge.Proofs.Shape.Api
import SpecForge.Proofs.TypeName

/-!
# Where a schema becomes a type

A client spells the types of the schemas of a document at four kinds of spots: in the fields of the
models, in the arguments of the methods, in their bodies and in their answers. At each spot the type
is that of the schema, in a list if the schema is one of an array. The fields and the arguments have
the format of the schema besides, and only there a format can make a difference.
-/

namespace SpecForge

/-- The parameters of an endpoint that stand at a place. -/
def Endpoint.paramsAt (e : Endpoint) : Api.Location → List Parameter
  | .path => e.pathParams
  | .query => e.queryParams
  | .header => e.headerParams

/-- Does a request that gets this response succeed, with a type for what it gives? -/
def Response.isAnswer (r : Response) : Bool :=
  r.isSuccess && (r.type.map fun t => !t.isEmpty).getD false

namespace Api

/-- A spot in the code of a client where a type is spelled. A field has a name in the code. -/
inductive Spot where
  | field (m : Model) (prop : Property) (name : String)
  | argument (e : Endpoint) (place : Location) (param : Parameter)
  | body (e : Endpoint) (given : RequestBody)
  | answer (e : Endpoint) (response : Response)

namespace Spot

/-- The type that is spelled at a spot, marks of optionality apart. An answer may have none. -/
def type? (p : Platform) : Spot → Option String
  | field _ prop _ => some (prop.spelling p)
  | argument _ _ param => some (param.spelling p)
  | body _ given => some (given.spelling p)
  | answer e _ => e.answer? p

/-- Does the format of a schema come as far as this spot? -/
def keepsFormat : Spot → Bool
  | field _ _ _ => true
  | argument _ _ _ => true
  | body _ _ => false
  | answer _ _ => false

/-- Is the spot the answer of a method? -/
def isAnswer : Spot → Bool
  | answer _ _ => true
  | _ => false

end Spot

/-- A schema of a document stands where the spot of its interface comes from: as a member of
`properties` of a component, as the schema of a parameter, or as that of the first content of a body
or of a response. The response is one of success, and the first one with a type of its own. -/
inductive Occurs (doc : Value) (api : Api) (schema : Value) : Spot → Prop where
  | field {component member : Value × Value} {m : Model} {prop : Property} {name : String}
      (hmodel : (component, m) ∈ (componentSchemas doc).zip api.models)
      (hfield : ((member, prop), name) ∈
        ((membersOf (memberOrNull component.2 "properties")).zip m.properties).zip m.identifiers)
      (hschema : member.2 = schema) : Occurs doc api schema (.field m prop name)
  | argument {o : Operation} {e : Endpoint} {place : Location} {v : Value} {param : Parameter}
      (hendpoint : (o, e) ∈ (declaredOperations doc).zip api.endpoints)
      (hparam : (v, param) ∈ (o.standing place).zip (e.paramsAt place))
      (hschema : memberOrNull v "schema" = schema) : Occurs doc api schema (.argument e place param)
  | body {o : Operation} {e : Endpoint} {given : RequestBody}
      (hendpoint : (o, e) ∈ (declaredOperations doc).zip api.endpoints)
      (hbody : e.body = some given)
      (hschema : firstSchema (memberOrNull (memberOrNull o.value "requestBody") "content") =
        schema) : Occurs doc api schema (.body e given)
  | answer {o : Operation} {e : Endpoint} {r : Value × Value} {response : Response}
      {before after : List ((Value × Value) × Response)}
      (hendpoint : (o, e) ∈ (declaredOperations doc).zip api.endpoints)
      (htable : (membersOf (memberOrNull o.value "responses")).zip e.responses =
        before ++ (r, response) :: after)
      (hsuccess : response.isSuccess = true) (hfirst : ∀ q ∈ before, q.2.isAnswer = false)
      (hschema : firstSchema (memberOrNull r.2 "content") = schema) :
      Occurs doc api schema (.answer e response)

/-- A schema that has the name of a type, if that of an array is the name of its items. -/
def TypeNamed (schema : Value) (name : String) : Prop :=
  ∃ type, schemaType schema = .ok type ∧ Shape.text type = .ok name

/-- The format of a schema, if that is a text. -/
def formatOf? (schema : Value) : Option String :=
  (Shape.optional Shape.text (memberOrNull schema "format")).toOption.join

theorem TypeNamed.unique {schema : Value} {name name' : String} (h : TypeNamed schema name)
    (h' : TypeNamed schema name') : name = name' := by
  obtain ⟨type, htype, hname⟩ := h
  obtain ⟨type', htype', hname'⟩ := h'
  rw [htype] at htype'
  cases htype'
  rw [hname] at hname'
  cases hname'
  rfl

theorem formatOf?_eq {schema : Value} {format : Option String}
    (h : Shape.optional Shape.text (memberOrNull schema "format") = .ok format) :
    formatOf? schema = format := by
  rw [formatOf?, h]
  rfl

/-! ### What is read at each spot -/

/-- Whether a value that is no object takes the place of an object or not, it has no members. -/
theorem memberOrNull_objectOrEmpty (v : Value) (key : String) :
    memberOrNull (objectOrEmpty v) key = memberOrNull v key := by
  rw [objectOrEmpty]
  split
  · rfl
  · rename_i h
    rw [memberOrNull, memberOrNull, Value.member?, Value.member?]
    rw [Value.isObject] at h
    split at h
    · exact absurd rfl h
    · rfl

theorem objectOrEmpty_of_isObject {v : Value} (h : v.isObject = true) : objectOrEmpty v = v := by
  rw [objectOrEmpty, if_pos h]

/-- The part of a property that its schema decides. -/
theorem property_eq_ok {required name schema : Value} {prop : Property}
    (h : property required name schema = .ok prop) :
    TypeNamed (objectOrEmpty schema) prop.type ∧
      prop.isArray = isArraySchema (objectOrEmpty schema) ∧
      prop.format = formatOf? (objectOrEmpty schema) := by
  obtain ⟨type, htype, h⟩ := bind_eq_ok_iff.1 h
  obtain ⟨isRequired, _, h⟩ := bind_eq_ok_iff.1 h
  obtain ⟨_, htype', _, hformat, _, harray, _⟩ := Property.check_eq_ok_iff.1 h
  exact ⟨⟨type, htype, htype'⟩, harray, (formatOf?_eq hformat).symm⟩

/-- The part of a model that is read from its properties. -/
theorem forall₂_property {name schema : Value} {m : Model} (h : model name schema = .ok m) :
    List.Forall₂ (fun member prop => ∃ required, property required member.1 member.2 = .ok prop)
      (membersOf (memberOrNull schema "properties")) m.properties := by
  obtain ⟨members, hmembers, h⟩ := bind_eq_ok_iff.1 h
  obtain ⟨properties, hproperties, h⟩ := bind_eq_ok_iff.1 h
  rw [Model.properties_of_check h, ← memberOrNull_objectOrEmpty,
    membersOf_of_allMembers hmembers]
  exact forall₂_of_mapM_eq_ok (fun _ _ _ hprop => ⟨_, hprop⟩) hproperties

/-- A schema of contents that is given is there, and its type is read. -/
theorem contentSchemaType_eq_ok {schema type : Option Value}
    (hgiven : (schema.getD (.object [])).isGiven = true)
    (h : contentSchemaType schema = .ok type) :
    ∃ s t, schema = some s ∧ type = some t ∧ schemaType s = .ok t := by
  cases schema with
  | none => cases hgiven
  | some s =>
      rw [Option.getD_some] at hgiven
      rw [contentSchemaType, if_pos hgiven] at h
      cases hs : schemaType s with
      | error f =>
          rw [hs] at h
          cases h
      | ok t =>
          rw [hs] at h
          cases h
          exact ⟨s, t, rfl, rfl, hs⟩

/-- The part of a body that its first schema decides. -/
theorem requestBody_eq_ok {v : Value} {body : RequestBody} (h : requestBody v = .ok body)
    (hgiven : (firstSchema (memberOrNull v "content")).isGiven = true) :
    TypeNamed (firstSchema (memberOrNull v "content")) body.type ∧
      body.isArray = isArraySchema (firstSchema (memberOrNull v "content")) := by
  obtain ⟨content, hpart, h⟩ := bind_eq_ok_iff.1 h
  obtain ⟨⟨key, schema⟩, hcontent, h⟩ := bind_eq_ok_iff.1 h
  obtain ⟨type, htype, h⟩ := bind_eq_ok_iff.1 h
  rw [checked_eq_ok_iff] at h
  obtain ⟨type', htype', h⟩ := bind_eq_ok_iff.1 h
  obtain ⟨description', _, h⟩ := bind_eq_ok_iff.1 h
  obtain ⟨contentType', _, h⟩ := bind_eq_ok_iff.1 h
  cases h
  rw [memberOrNull_of_part hpart, ← (firstContent_eq_ok hcontent).2] at hgiven ⊢
  obtain ⟨s, t, rfl, rfl, hs⟩ := contentSchemaType_eq_ok hgiven htype
  exact ⟨⟨t, hs, Shape.under_eq_ok_iff.1 htype'⟩, rfl⟩

/-- A response has the status under which it stands, and the type of its first schema. -/
theorem response_eq_ok {status v : Value} {r : Response} (h : response status v = .ok r) :
    r.status = status.text ∧
      r.isArray = isArraySchema (firstSchema (memberOrNull v "content")) ∧
      ((firstSchema (memberOrNull v "content")).isGiven = true →
        ∃ name, r.type = some name ∧ TypeNamed (firstSchema (memberOrNull v "content")) name) := by
  obtain ⟨content, hpart, h⟩ := bind_eq_ok_iff.1 h
  obtain ⟨⟨key, schema⟩, hcontent, h⟩ := bind_eq_ok_iff.1 h
  obtain ⟨status', hstatus, h⟩ := bind_eq_ok_iff.1 h
  obtain ⟨type, htype, h⟩ := bind_eq_ok_iff.1 h
  rw [checked_eq_ok_iff] at h
  obtain ⟨type', htype', h⟩ := bind_eq_ok_iff.1 h
  obtain ⟨description', _, h⟩ := bind_eq_ok_iff.1 h
  obtain ⟨contentType', _, h⟩ := bind_eq_ok_iff.1 h
  cases h
  rw [← memberOrNull_orElse, memberOrNull_of_part hpart, ← (firstContent_eq_ok hcontent).2]
  refine ⟨?_, ?_, fun hgiven => ?_⟩
  · rw [Value.spelled] at hstatus
    split at hstatus
    · cases hstatus
      rfl
    · cases hstatus
  · cases schema <;> rfl
  · obtain ⟨s, t, rfl, rfl, hs⟩ := contentSchemaType_eq_ok hgiven htype
    rw [Shape.under_eq_ok_iff, Option.getD_some] at htype'
    obtain ⟨name, rfl, hname⟩ := Shape.exists_of_optional_eq_ok (schemaType_ne_null hs) htype'
    exact ⟨name, rfl, t, hs, hname⟩

theorem DeclaredAs.of_mem_zip {o : Operation} {e : Endpoint} {place : Location} {v : Value}
    {param : Parameter} (hmakes : o.Makes e)
    (h : (v, param) ∈ (o.standing place).zip (e.paramsAt place)) : DeclaredAs v param := by
  cases place with
  | path => exact List.forall₂_zip hmakes.pathParams h
  | query => exact List.forall₂_zip hmakes.queryParams h
  | header => exact List.forall₂_zip hmakes.headerParams h

/-- The first answer among the responses is the answer of the endpoint. -/
theorem successResponse?_eq {e : Endpoint} {table : List (Value × Value)}
    {before after : List ((Value × Value) × Response)} {entry : Value × Value} {r : Response}
    (hlength : table.length = e.responses.length)
    (htable : table.zip e.responses = before ++ (entry, r) :: after)
    (hfirst : ∀ q ∈ before, q.2.isAnswer = false) (hr : r.isAnswer = true) :
    e.successResponse? = some r := by
  -- a table as long as the responses is split where they are
  have hresponses : e.responses = before.map Prod.snd ++ r :: after.map Prod.snd := by
    rw [← List.map_snd_zip (Nat.le_of_eq hlength.symm), htable, List.map_append, List.map_cons]
  rw [Endpoint.successResponse?, hresponses, List.find?_append]
  have hnone : (before.map Prod.snd).find? Response.isAnswer = none := by
    rw [List.find?_eq_none]
    intro q hq
    obtain ⟨pair, hpair, rfl⟩ := List.mem_map.1 hq
    simp [hfirst pair hpair]
  change ((before.map Prod.snd).find? Response.isAnswer).or
    ((r :: after.map Prod.snd).find? Response.isAnswer) = some r
  rw [hnone, Option.none_or, List.find?_cons_of_pos hr]

/-- What is spelled at a spot is the type of the schema that stands there, with its format if that
comes as far. An answer whose type is the empty name is none. -/
theorem Occurs.exists_type {doc schema : Value} {api : Api} {spot : Spot}
    (h : Occurs doc api schema spot) (hdoc : ofDocument doc = .ok api)
    (hobject : schema.isObject = true) (hgiven : schema.isGiven = true)
    (hnamed : spot.isAnswer = true → ¬ TypeNamed schema "") :
    ∃ type, TypeNamed schema type ∧ ∀ p, spot.type? p =
      some (TypeName.field p type (isArraySchema schema)
        (if spot.keepsFormat then formatOf? schema else none)) := by
  cases h with
  | @field component member m prop name hmodel hfield hschema =>
      subst hschema
      have hm := List.forall₂_zip (forall₂_model hdoc) hmodel
      obtain ⟨required, hprop⟩ := List.forall₂_zip (forall₂_property hm) (List.of_mem_zip hfield).1
      obtain ⟨htype, harray, hformat⟩ := property_eq_ok hprop
      rw [objectOrEmpty_of_isObject hobject] at htype harray hformat
      refine ⟨prop.type, htype, fun p => ?_⟩
      rw [← harray, ← hformat]
      rfl
  | @argument o e place v param hendpoint hparam hschema =>
      subst hschema
      have hreads := List.forall₂_zip (forall₂_reads hdoc) hendpoint
      have hdeclared := DeclaredAs.of_mem_zip hreads.toMakes hparam
      obtain ⟨_, _, htype, harray, hformat⟩ := parameter_eq_ok hdeclared.reading
      rw [objectOrEmpty_of_isObject hobject] at htype harray hformat
      refine ⟨param.type, htype, fun p => ?_⟩
      rw [← harray, formatOf?_eq hformat]
      rfl
  | @body o e given hendpoint hbody hschema =>
      subst hschema
      have hreads := List.forall₂_zip (forall₂_reads hdoc) hendpoint
      obtain ⟨htype, harray⟩ := requestBody_eq_ok (hreads.body given hbody) hgiven
      refine ⟨given.type, htype, fun p => ?_⟩
      rw [← harray]
      rfl
  | @answer o e entry r before after hendpoint htable hsuccess hfirst hschema =>
      subst hschema
      have hreads := List.forall₂_zip (forall₂_reads hdoc) hendpoint
      have hentry : (entry, r) ∈ (membersOf (memberOrNull o.value "responses")).zip e.responses := by
        simp [htable]
      obtain ⟨_, harray, hnamedType⟩ :=
        response_eq_ok (List.forall₂_zip hreads.responses hentry)
      obtain ⟨type, hr, htype⟩ := hnamedType hgiven
      -- a method answers with the first type that has a name, so an empty one would be passed over
      have hne : type ≠ "" := by
        rintro rfl
        exact hnamed rfl htype
      have hanswer : r.isAnswer = true := by simp [Response.isAnswer, hsuccess, hr, hne]
      have hfound := successResponse?_eq hreads.responses.length_eq htable hfirst hanswer
      refine ⟨type, htype, fun p => ?_⟩
      rw [← harray]
      simp [Spot.type?, Spot.keepsFormat, Endpoint.answer?, hfound, hr]

/-! ### Every schema that is declared has its spot -/

theorem exists_mem_zip {α β : Type} {l : List α} {l' : List β} (hlength : l.length = l'.length)
    {a : α} (ha : a ∈ l) : ∃ b, (a, b) ∈ l.zip l' := by
  rw [← List.map_fst_zip (Nat.le_of_eq hlength)] at ha
  obtain ⟨⟨a', b⟩, hmem, rfl⟩ := List.mem_map.1 ha
  exact ⟨b, hmem⟩

theorem exists_field {doc : Value} {api : Api} (hdoc : ofDocument doc = .ok api)
    {component member : Value × Value} (hcomponent : component ∈ componentSchemas doc)
    (hmember : member ∈ membersOf (memberOrNull component.2 "properties")) :
    ∃ m prop name, Occurs doc api member.2 (.field m prop name) := by
  obtain ⟨m, hmodel⟩ := exists_mem_zip (forall₂_model hdoc).length_eq hcomponent
  have hproperties := forall₂_property (List.forall₂_zip (forall₂_model hdoc) hmodel)
  obtain ⟨prop, hprop⟩ := exists_mem_zip hproperties.length_eq hmember
  have hlength : ((membersOf (memberOrNull component.2 "properties")).zip m.properties).length =
      m.identifiers.length := by
    rw [List.length_zip, hproperties.length_eq, Nat.min_self, m.length_identifiers]
  obtain ⟨name, hname⟩ := exists_mem_zip hlength hprop
  exact ⟨m, prop, name, .field hmodel hname rfl⟩

/-- The first response of success is the answer, unless it has no type. -/
theorem exists_answer {doc : Value} {api : Api} (hdoc : ofDocument doc = .ok api) {o : Operation}
    (ho : o ∈ declaredOperations doc) {entry : Value × Value} (before : List (Value × Value))
    {after : List (Value × Value)}
    (htable : membersOf (memberOrNull o.value "responses") = before ++ entry :: after)
    (hbefore : ∀ q ∈ before, Text.startsWith q.1.text "2" = false)
    (hsuccess : Text.startsWith entry.1.text "2" = true) :
    ∃ e r, Occurs doc api (firstSchema (memberOrNull entry.2 "content")) (.answer e r) := by
  obtain ⟨e, hendpoint⟩ := exists_mem_zip (forall₂_reads hdoc).length_eq ho
  have hreads := List.forall₂_zip (forall₂_reads hdoc) hendpoint
  have hstatus : ∀ pair ∈ (membersOf (memberOrNull o.value "responses")).zip e.responses,
      pair.2.isSuccess = Text.startsWith pair.1.1.text "2" := by
    rintro ⟨declared, r⟩ hmem
    rw [Response.isSuccess, (response_eq_ok (List.forall₂_zip hreads.responses hmem)).1]
  have hfst := List.map_fst_zip (Nat.le_of_eq hreads.responses.length_eq)
  rw [htable] at hfst
  obtain ⟨front, rest, hzip, hfront, hrest⟩ := List.map_eq_append_iff.1 hfst
  obtain ⟨⟨entry', r⟩, back, rfl, rfl, _⟩ := List.map_eq_cons_iff.1 hrest
  rw [← htable] at hzip
  rw [hzip] at hstatus
  refine ⟨e, r, .answer hendpoint hzip ?_ ?_ rfl⟩
  · exact (hstatus (entry', r) (by simp)).trans hsuccess
  · intro pair hpair
    have hnot := hbefore pair.1 (hfront ▸ List.mem_map_of_mem hpair)
    rw [Response.isAnswer, hstatus pair (by simp [hpair]), hnot, Bool.false_and]

/-! ### The same schema at several spots

A field and an argument spell the type of their schema with its format, a body and an answer without
it. So a schema has one type at all spots of a client if its type has no richer spelling with its
format, and otherwise exactly two: a whole number of 64 bits is a `Long` in the models of a Kotlin
client and an `Int` in its answers. -/

/-- Has the type of a schema another spelling with the format of the schema? -/
def FormatCounts (p : Platform) (schema : Value) : Prop :=
  ∃ type, TypeNamed schema type ∧ TypeName.hasFormat p type (formatOf? schema) = true

theorem field_formatOf_eq_iff {schema : Value} {type : String} (htype : TypeNamed schema type)
    (p : Platform) (isArray : Bool) :
    TypeName.field p type isArray (formatOf? schema) = TypeName.field p type isArray none ↔
      ¬ FormatCounts p schema := by
  rw [TypeName.field_eq_field_none_iff]
  constructor
  · rintro hplain ⟨type', htype', hformat⟩
    rw [← htype.unique htype', hplain] at hformat
    cases hformat
  · intro hcounts
    by_contra hformat
    exact hcounts ⟨type, htype, by simpa using hformat⟩

/-- Wherever a schema occurs it has a type on every platform, and at two spots it has the same one
if and only if its format comes as far as both of them or as none, or does not count. A reference
without a name is no type for an answer. -/
theorem same_type_iff {doc doc' : Value} {api api' : Api} {schema : Value} {spot spot' : Spot}
    (hdoc : ofDocument doc = .ok api) (hdoc' : ofDocument doc' = .ok api')
    (hobject : schema.isObject = true) (hgiven : schema.isGiven = true)
    (hoccurs : Occurs doc api schema spot) (hoccurs' : Occurs doc' api' schema spot')
    (hnamed : spot.isAnswer = true ∨ spot'.isAnswer = true → ¬ TypeNamed schema "")
    (p : Platform) :
    ∃ type type', spot.type? p = some type ∧ spot'.type? p = some type' ∧
      (type = type' ↔ spot.keepsFormat = spot'.keepsFormat ∨ ¬ FormatCounts p schema) := by
  obtain ⟨name, hname, hspot⟩ :=
    hoccurs.exists_type hdoc hobject hgiven fun hanswer => hnamed (.inl hanswer)
  obtain ⟨name', hname', hspot'⟩ :=
    hoccurs'.exists_type hdoc' hobject hgiven fun hanswer => hnamed (.inr hanswer)
  obtain rfl := hname.unique hname'
  refine ⟨_, _, hspot p, hspot' p, ?_⟩
  have hfield := field_formatOf_eq_iff hname p (isArraySchema schema)
  -- the format makes a difference only if it comes as far as one of the two spots
  cases spot.keepsFormat with
  | false =>
      cases spot'.keepsFormat with
      | false => exact iff_of_true rfl (.inl rfl)
      | true => simpa using eq_comm.trans hfield
  | true =>
      cases spot'.keepsFormat with
      | false => simpa using hfield
      | true => exact iff_of_true rfl (.inl rfl)

/-- A whole number of 64 bits. -/
def int64Schema : Value := .record [("type", .str "integer"), ("format", .str "int64")]

/-- A document that has the same schema as property, as parameter, as body and as answer. -/
def countersDocument : Value :=
  .record [("info", .record [("title", .str "Counters"), ("version", .str "1")]),
    ("paths", .record [("/next", .record [("post", .record [
      ("parameters", .list [.record [("name", .str "after"), ("in", .str "query"),
        ("schema", int64Schema)]]),
      ("requestBody", .record [("content", .record [("application/json", .record [
        ("schema", int64Schema)])])]),
      ("responses", .record [("200", .record [("content", .record [("application/json", .record [
        ("schema", int64Schema)])])])])])])]),
    ("components", .record [("schemas", .record [("Counter", .record [("properties",
      .record [("value", int64Schema)])])])])]

theorem typeNamed_int64Schema : TypeNamed int64Schema "integer" :=
  ⟨.str "integer", schemaType_declared rfl rfl, rfl⟩

theorem not_typeNamed_int64Schema : ¬ TypeNamed int64Schema "" := by
  intro hempty
  exact absurd (typeNamed_int64Schema.unique hempty) (by decide)

theorem exists_ofDocument_countersDocument : ∃ api, ofDocument countersDocument = .ok api := by
  exact exists_ok_of_isSome (by decide +kernel)

theorem exists_field_countersDocument {api : Api} (h : ofDocument countersDocument = .ok api) :
    ∃ m prop name, Occurs countersDocument api int64Schema (.field m prop name) :=
  exists_field h (List.mem_singleton_self _) (List.mem_singleton_self _)

theorem exists_answer_countersDocument {api : Api} (h : ofDocument countersDocument = .ok api) :
    ∃ e r, Occurs countersDocument api int64Schema (.answer e r) :=
  exists_answer h (List.mem_singleton_self _) [] rfl (by simp) (by decide +kernel)

theorem same_type_countersDocument :
    ∃ api spot spot', ofDocument countersDocument = .ok api ∧
      Occurs countersDocument api int64Schema spot ∧
      Occurs countersDocument api int64Schema spot' ∧
      ∀ p, ∃ type type', spot.type? p = some type ∧ spot'.type? p = some type' ∧
        (type = type' ↔ ¬ FormatCounts p int64Schema) := by
  obtain ⟨api, hapi⟩ := exists_ofDocument_countersDocument
  obtain ⟨m, prop, name, hfield⟩ := exists_field_countersDocument hapi
  obtain ⟨e, r, hanswer⟩ := exists_answer_countersDocument hapi
  refine ⟨api, _, _, hapi, hfield, hanswer, fun p => ?_⟩
  obtain ⟨type, type', htype, htype', hiff⟩ :=
    same_type_iff hapi hapi rfl rfl hfield hanswer (fun _ => not_typeNamed_int64Schema) p
  exact ⟨type, type', htype, htype', by simpa [Spot.keepsFormat] using hiff⟩

/-- On Android the number is a `Long` in the model and an `Int` in the answer. -/
theorem not_same_type_countersDocument :
    ∃ api spot spot', ofDocument countersDocument = .ok api ∧
      Occurs countersDocument api int64Schema spot ∧
      Occurs countersDocument api int64Schema spot' ∧
      spot.type? .android = some "Long" ∧ spot'.type? .android = some "Int" := by
  obtain ⟨api, hapi⟩ := exists_ofDocument_countersDocument
  obtain ⟨m, prop, name, hfield⟩ := exists_field_countersDocument hapi
  obtain ⟨e, r, hanswer⟩ := exists_answer_countersDocument hapi
  obtain ⟨type, htype, hspot⟩ := hfield.exists_type hapi rfl rfl fun _ => not_typeNamed_int64Schema
  obtain ⟨type', htype', hspot'⟩ :=
    hanswer.exists_type hapi rfl rfl fun _ => not_typeNamed_int64Schema
  obtain rfl := typeNamed_int64Schema.unique htype
  obtain rfl := typeNamed_int64Schema.unique htype'
  refine ⟨api, _, _, hapi, hfield, hanswer, (hspot .android).trans ?_,
    (hspot' .android).trans ?_⟩
  · change some (TypeName.field .android "integer" false (some "int64")) = some "Long"
    decide +kernel
  · change some (TypeName.field .android "integer" false none) = some "Int"
    decide +kernel

end Api

end SpecForge
