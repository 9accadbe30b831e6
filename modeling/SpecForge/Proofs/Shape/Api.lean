import Mathlib.Tactic.MkIffOfInductiveProp
import SpecForge.Proofs.Shape.Fits

/-!
# The shape of an OpenAPI document

A document is read without a check of its shape beforehand, part by part and each part only when it
is needed. The shape that the reading wants is that of all these parts together.
-/

namespace SpecForge.Api

open Value

/-- A schema that has a type: what is referred to, or what it declares, is a text. An array has the
type of its items. -/
inductive HasType : Value → Prop where
  | reference {schema : Value} (given : (memberOrNull schema "$ref").isGiven = true)
      (text : (memberOrNull schema "$ref").IsPlainText) : HasType schema
  | items {schema : Value} (named : (memberOrNull schema "$ref").isGiven = false)
      (array : isArraySchema schema = true) (finite : (memberOrNull schema "items").isCut = false)
      (given : (memberOrNull schema "items").isGiven = true)
      (type : HasType (memberOrNull schema "items")) : HasType schema
  | anyItems {schema : Value} (named : (memberOrNull schema "$ref").isGiven = false)
      (array : isArraySchema schema = true) (finite : (memberOrNull schema "items").isCut = false)
      (given : (memberOrNull schema "items").isGiven = false) : HasType schema
  | declared {schema : Value} (named : (memberOrNull schema "$ref").isGiven = false)
      (array : isArraySchema schema = false)
      (text : ((baseType schema).orElse (.str "any")).IsText) : HasType schema

theorem schemaType_reference {schema : Value}
    (given : (memberOrNull schema "$ref").isGiven = true) :
    schemaType schema =
      (memberOrNull schema "$ref").asText.map fun path => .str (Text.lastPart '/' path) := by
  rw [schemaType, if_pos given]
  cases (memberOrNull schema "$ref").asText <;> rfl

theorem schemaType_array {schema : Value} (named : (memberOrNull schema "$ref").isGiven = false)
    (array : isArraySchema schema = true) :
    schemaType schema =
      if (memberOrNull schema "items").isCut then .error .depth
      else if (memberOrNull schema "items").isGiven then schemaType (memberOrNull schema "items")
      else .ok (.str "any") := by
  rw [isArraySchema] at array
  rw [schemaType, if_neg (by simp [named])]
  dsimp only
  rw [if_pos array, memberOrNull]
  cases schema.member? "items" <;> rfl

theorem schemaType_declared {schema : Value} (named : (memberOrNull schema "$ref").isGiven = false)
    (array : isArraySchema schema = false) :
    schemaType schema = .ok ((baseType schema).orElse (.str "any")) := by
  rw [isArraySchema] at array
  rw [schemaType, if_neg (by simp [named])]
  dsimp only
  rw [if_neg (by simp [array])]

theorem HasType.exists_text {schema : Value} (h : HasType schema) :
    ∃ type, schemaType schema = .ok type ∧ type.IsText := by
  induction h with
  | @reference schema given text =>
      obtain ⟨path, hpath⟩ := text
      rw [schemaType_reference given, hpath]
      exact ⟨_, rfl, isText_str _⟩
  | items named array finite given type ih =>
      rw [schemaType_array named array, if_neg (by simp [finite]), if_pos given]
      exact ih
  | anyItems named array finite given =>
      rw [schemaType_array named array, if_neg (by simp [finite]), if_neg (by simp [given])]
      exact ⟨_, rfl, isText_str _⟩
  | declared named array text =>
      rw [schemaType_declared named array]
      exact ⟨_, rfl, text⟩

theorem sizeOf_memberOrNull_lt {v : Value} {key : String}
    (h : (memberOrNull v key).isGiven = true) : sizeOf (memberOrNull v key) < sizeOf v := by
  rw [memberOrNull] at h ⊢
  cases hm : v.member? key with
  | none => simp [hm, Value.isGiven] at h
  | some w => exact sizeOf_member?_lt hm

/-- The type of a schema is the last part of its reference, that of its items or the one that it
declares. -/
theorem schemaType_eq_ok {schema type : Value} (h : schemaType schema = .ok type) :
    ((memberOrNull schema "$ref").isGiven = true ∧
      ∃ path, (memberOrNull schema "$ref").asText = .ok path ∧
        type = .str (Text.lastPart '/' path)) ∨
    (memberOrNull schema "$ref").isGiven = false ∧
      ((isArraySchema schema = true ∧ (memberOrNull schema "items").isCut = false ∧
          (memberOrNull schema "items").isGiven = true ∧
          schemaType (memberOrNull schema "items") = .ok type) ∨
        (isArraySchema schema = true ∧ (memberOrNull schema "items").isCut = false ∧
          (memberOrNull schema "items").isGiven = false ∧ type = .str "any") ∨
        (isArraySchema schema = false ∧ type = (baseType schema).orElse (.str "any"))) := by
  cases named : (memberOrNull schema "$ref").isGiven with
  | true =>
      rw [schemaType_reference named] at h
      cases hpath : (memberOrNull schema "$ref").asText with
      | error e =>
          rw [hpath] at h
          cases h
      | ok path =>
          rw [hpath] at h
          cases h
          exact .inl ⟨rfl, path, rfl, rfl⟩
  | false =>
      refine .inr ⟨rfl, ?_⟩
      cases array : isArraySchema schema with
      | true =>
          rw [schemaType_array named array] at h
          split at h
          · cases h
          · rename_i finite
            split at h
            · rename_i given
              exact .inl ⟨rfl, by simpa using finite, given, h⟩
            · rename_i given
              cases h
              exact .inr (.inl ⟨rfl, by simpa using finite, by simpa using given, rfl⟩)
      | false =>
          rw [schemaType_declared named array] at h
          cases h
          exact .inr (.inr ⟨rfl, rfl⟩)

theorem hasType_of_schemaType {schema type : Value} (h : schemaType schema = .ok type)
    (ht : type.IsText) : HasType schema := by
  obtain ⟨given, path, hpath, _⟩ | ⟨named, ⟨array, finite, given, h⟩ | ⟨array, finite, given, _⟩ |
    ⟨array, rfl⟩⟩ := schemaType_eq_ok h
  · exact .reference given (fits_asText.of_ok path hpath)
  · have hlt := sizeOf_memberOrNull_lt given
    exact .items named array finite given (hasType_of_schemaType h ht)
  · exact .anyItems named array finite given
  · exact .declared named array ht
termination_by sizeOf schema

theorem hasType_iff {schema : Value} :
    HasType schema ↔ ∃ type, schemaType schema = .ok type ∧ type.IsText := by
  constructor
  · exact HasType.exists_text
  · rintro ⟨type, h, ht⟩
    exact hasType_of_schemaType h ht

theorem schemaType_ne_null {schema type : Value} (h : schemaType schema = .ok type) :
    type ≠ .null := by
  obtain ⟨_, path, _, rfl⟩ | ⟨_, ⟨_, _, given, h⟩ | ⟨_, _, _, rfl⟩ | ⟨_, rfl⟩⟩ :=
    schemaType_eq_ok h
  · simp
  · have hlt := sizeOf_memberOrNull_lt given
    exact schemaType_ne_null h
  · simp
  · rw [Value.orElse]
    split
    · rename_i given
      intro hnull
      simp [hnull, Value.isGiven] at given
    · simp
termination_by sizeOf schema

/-- A reading that goes on with the type of a schema and wants a text for it. -/
theorem fits_bind_schemaType {α : Type} {schema : Value} {P : Prop} {f : Value → Outcome α}
    (hf : ∀ type, type ≠ .null → Fits (type.IsText ∧ P) (f type)) :
    Fits (HasType schema ∧ P) (schemaType schema >>= f) := by
  refine (Fits.bind_ok fun type h => hf type (schemaType_ne_null h)).congr ?_
  rw [hasType_iff]
  constructor
  · rintro ⟨type, h, ht, hp⟩
    exact ⟨⟨type, h, ht⟩, hp⟩
  · rintro ⟨⟨type, h, ht⟩, hp⟩
    exact ⟨type, h, ht, hp⟩

/-- The shape of a parameter that stands at one of the three places. -/
@[mk_iff]
structure ParameterShape (v : Value) : Prop where
  type : HasType (objectOrEmpty (memberOrNull v "schema"))
  name : ∀ name, v.member? "name" = some name → name.IsText
  description : (memberOrNull v "description").IsTextOrNull
  format : (memberOrNull (objectOrEmpty (memberOrNull v "schema")) "format").IsTextOrNull

theorem fits_parameter (v : Value) : Fits (ParameterShape v) (parameter v) := by
  rw [parameter]
  cases hname : v.member? "name" with
  | none => exact fits_spec _ _
  | some name =>
      simp only [parameterShape_iff, hname, Option.some.injEq, forall_eq']
      refine fits_bind_schemaType fun type _ => ?_
      simp only [checked_bind]
      refine (fits_text.bind fun _ _ => fits_text.bind fun _ _ => fits_textOrNull.bind fun _ _ =>
        fits_textOrNull.bind fun _ _ => fits_ok _).congr ?_
      tauto

/-- A list or an object, which cannot be looked up. -/
def isComposite : Value → Bool
  | .list _ => true
  | .object _ => true
  | .set _ => true
  | .loop _ _ => true
  | _ => false

theorem fits_ofValue (v : Value) : Fits (isComposite v = false) (Location.ofValue v) := by
  unfold Location.ofValue
  split
  all_goals first
    | exact (fits_ok _).congr (by simp [isComposite])
    | exact (fits_error _).congr (by simp [isComposite])

/-- The shape of a parameter: it says where it stands, and if that is one of the three places then
it is read. -/
@[mk_iff]
structure LocatedShape (v : Value) : Prop where
  object : v.isObject = true
  place : isComposite (memberOrNull v "in") = false
  parameter : ∀ place, Operation.standsAt place v = true → ParameterShape v

theorem fits_located (v : Value) : Fits (LocatedShape v) (located v) := by
  rw [locatedShape_iff]
  refine fits_part.bind fun named hpart => ?_
  rw [memberOrNull_of_part hpart]
  refine (fits_ofValue named).bind fun place? hplace => ?_
  have hstands := standsAt_of_ofValue hpart hplace
  cases place? with
  | none => exact (fits_ok none).congr (by simp [hstands])
  | some place =>
      refine ((fits_parameter v).bind fun p _ => fits_ok (some (place, p))).congr ?_
      simp [hstands]

/-! ### Contents -/

/-- The first content type of a table of contents, `null` if there is none. -/
def firstKey (content : Value) : Value := ((membersOf content).head?.map Prod.fst).getD .null

/-- The schema of the first content of a table of contents. -/
def firstSchema (content : Value) : Value :=
  objectOrEmpty (((membersOf content).head?.map fun m => memberOrNull m.2 "schema").getD .null)

theorem firstContent_eq_ok {content key : Value} {schema : Option Value}
    (h : firstContent content = .ok (key, schema)) :
    key = firstKey content ∧ schema.getD (.object []) = firstSchema content := by
  rw [firstContent] at h
  obtain ⟨members, hmembers, h⟩ := bind_eq_ok_iff.1 h
  rw [firstKey, firstSchema, membersOf_of_allMembers hmembers]
  cases members with
  | nil =>
      cases h
      exact ⟨rfl, rfl⟩
  | cons m members =>
      obtain ⟨contentType, media⟩ := m
      dsimp only at h
      simp only [List.head?_cons, Option.map_some, Option.getD_some, memberOrNull]
      split at h
      · rename_i hnone
        cases h
        rw [hnone]
        exact ⟨rfl, rfl⟩
      · rename_i hnull
        cases h
        rw [hnull]
        exact ⟨rfl, rfl⟩
      · rename_i hsome
        cases h
        rw [hsome]
        exact ⟨rfl, rfl⟩

theorem fits_firstContent (content : Value) : Fits content.IsTable (firstContent content) := by
  refine Fits.congr (P := content.IsTable ∧ True) (fits_tableOf.bind fun members _ => ?_) (by simp)
  split
  · exact fits_ok _
  · split
    · exact fits_ok _
    · exact fits_ok _
    · exact fits_ok _

/-- A reading that goes on with the first content of a table of contents. -/
theorem fits_bind_firstContent {α : Type} {content : Value} {P : Prop}
    {f : Value × Option Value → Outcome α}
    (hf : ∀ schema, schema.getD (.object []) = firstSchema content →
      Fits P (f (firstKey content, schema))) :
    Fits (content.IsTable ∧ P) (firstContent content >>= f) := by
  refine (fits_firstContent content).bind fun found hfound => ?_
  obtain ⟨key, schema⟩ := found
  obtain ⟨rfl, hschema⟩ := firstContent_eq_ok hfound
  exact hf schema hschema

/-- A schema that is empty or no object has a type. -/
theorem hasType_of_isGiven {schema : Value} (h : schema.isGiven = false) : HasType schema := by
  have hmember : ∀ key, memberOrNull schema key = .null := by
    intro key
    rw [← memberOrNull_orElse, Value.orElse, if_neg (by simp [h])]
    rfl
  have hbase : baseType schema = .null := by
    rw [baseType, hmember]
    rfl
  refine .declared ?_ ?_ ?_
  · rw [hmember]
    rfl
  · rw [isArraySchema, hbase]
    rfl
  · rw [hbase]
    exact isText_str "any"

theorem fits_bind_contentSchemaType {α : Type} {schema : Option Value} {P : Prop}
    {f : Option Value → Outcome α} (hnone : Fits P (f none))
    (hsome : ∀ type, type ≠ .null → Fits (type.IsText ∧ P) (f (some type))) :
    Fits (HasType (schema.getD (.object [])) ∧ P) (contentSchemaType schema >>= f) := by
  cases schema with
  | none =>
      have hempty : HasType (.object []) := hasType_of_isGiven rfl
      exact hnone.congr (by simp [hempty])
  | some schema =>
      rw [contentSchemaType]
      cases given : schema.isGiven with
      | true =>
          have hbind : (schemaType schema).map some >>= f =
              schemaType schema >>= fun type => f (some type) := by
            cases schemaType schema <;> rfl
          rw [if_pos rfl, hbind]
          exact fits_bind_schemaType hsome
      | false =>
          have hempty : HasType schema := hasType_of_isGiven given
          exact hnone.congr (by simp [hempty])

/-- The shape of the body of a request. -/
@[mk_iff]
structure BodyShape (v : Value) : Prop where
  object : v.isObject = true
  content : (memberOrNull v "content").IsTable
  type : HasType (firstSchema (memberOrNull v "content"))
  description : (memberOrNull v "description").IsTextOrNull
  contentType : ((firstKey (memberOrNull v "content")).orElse (.str "application/json")).IsText

theorem fits_requestBody (v : Value) : Fits (BodyShape v) (requestBody v) := by
  rw [bodyShape_iff]
  refine fits_part.bind fun content hpart => ?_
  rw [memberOrNull_of_part hpart]
  refine fits_bind_firstContent fun schema hschema => ?_
  rw [← hschema]
  refine fits_bind_contentSchemaType ?_ fun type _ => ?_
  · simp only [checked_bind]
    refine (fits_text.bind fun _ _ => fits_textOrNull.bind fun _ _ => fits_text.bind fun _ _ =>
      fits_ok _).congr ?_
    simp [isText_str]
  · simp only [checked_bind]
    refine (fits_text.bind fun _ _ => fits_textOrNull.bind fun _ _ => fits_text.bind fun _ _ =>
      fits_ok _).congr ?_
    simp

/-- The shape of a response. -/
@[mk_iff]
structure ResponseShape (status v : Value) : Prop where
  table : v.IsTable
  content : (memberOrNull v "content").IsTable
  status : status.isSpellable = true
  type : HasType (firstSchema (memberOrNull v "content"))
  description : ((v.member? "description").getD (.str "")).IsText
  contentType : (firstKey (memberOrNull v "content")).IsTextOrNull

theorem fits_response (status v : Value) : Fits (ResponseShape status v) (response status v) := by
  rw [responseShape_iff]
  refine fits_partOfTable.bind fun content hpart => ?_
  rw [← memberOrNull_orElse, memberOrNull_of_part hpart]
  refine fits_bind_firstContent fun schema hschema => ?_
  rw [← hschema]
  refine fits_spelled.bind fun status' _ => ?_
  refine fits_bind_contentSchemaType ?_ fun type hnull => ?_
  · simp only [checked_bind]
    refine (fits_textOrNull.bind fun _ _ => fits_text.bind fun _ _ =>
      fits_textOrNull.bind fun _ _ => fits_ok _).congr ?_
    simp [member?_orElse, isTextOrNull_null]
  · simp only [checked_bind]
    refine (fits_textOrNull.bind fun _ _ => fits_text.bind fun _ _ =>
      fits_textOrNull.bind fun _ _ => fits_ok _).congr ?_
    simp [member?_orElse, isTextOrNull_iff hnull]

/-! ### Endpoints -/

/-- An operation with an id: the one that it declares, or one that is made from its path. -/
def HasId (operation path : Value) : Prop :=
  if (memberOrNull operation "operationId").isGiven then
    (memberOrNull operation "operationId").IsText
  else path.IsPlainText

theorem fits_bind_declaredId {α : Type} {operation path : Value} {method : String} {P : Prop}
    {f : Value → Outcome α} (hf : ∀ id, Fits (id.IsText ∧ P) (f id)) :
    Fits (HasId operation path ∧ P) (declaredId operation method path >>= f) := by
  rw [declaredId, HasId]
  cases (memberOrNull operation "operationId").isGiven with
  | true => exact hf _
  | false =>
      have hbind : ((path.asText >>= fun p => pure (.str (operationId method p))) >>= f) =
          path.asText >>= fun p => f (.str (operationId method p)) := by
        cases path.asText <;> rfl
      rw [if_neg (by simp), if_neg (by simp), hbind]
      refine fits_asText.bind fun p _ => (hf _).congr ?_
      simp [isText_str]

/-- The shape of an operation. -/
@[mk_iff]
structure OperationShape (o : Operation) : Prop where
  shared : o.shared.IsSequence
  object : o.value.isObject = true
  own : (memberOrNull o.value "parameters").IsSequence
  parameters : ∀ v ∈ o.parameters, LocatedShape v
  id : HasId o.value o.path
  body : (memberOrNull o.value "requestBody").isGiven = true →
    BodyShape (memberOrNull o.value "requestBody")
  table : (memberOrNull o.value "responses").IsTable
  responses : ∀ r ∈ membersOf (memberOrNull o.value "responses"), ResponseShape r.1 r.2
  path : o.path.IsText
  summary : (memberOrNull o.value "summary").IsTextOrNull
  description : (memberOrNull o.value "description").IsTextOrNull
  tags : (memberOrNull o.value "tags").IsTextList

theorem fits_endpoint (o : Operation) :
    Fits (OperationShape o) (endpoint o.verb.key o.path o.value (o.shared.orElse (.list []))) := by
  rw [operationShape_iff]
  refine fits_each.bind fun inherited hinherited => ?_
  refine fits_part.bind fun declared hpart => ?_
  rw [Operation.parameters, memberOrNull_of_part hpart]
  refine fits_each.bind fun own hown => ?_
  rw [← itemsOf_orElse o.shared, itemsOf_of_each hinherited, ← itemsOf_orElse declared,
    itemsOf_of_each hown]
  refine (Fits.mapM fun v _ => fits_located v).bind fun found _ => ?_
  refine fits_bind_declaredId fun id => ?_
  -- the id is checked at the very end, so what is wanted of it waits behind every step until then
  refine Fits.congr ?_ and_left_comm
  refine Fits.bind_if none (fits_requestBody _).map rfl fun body => ?_
  refine Fits.congr ?_ and_left_comm
  refine fits_tableOf.bind fun members hmembers => ?_
  rw [membersOf_of_allMembers hmembers]
  refine Fits.congr ?_ and_left_comm
  refine (Fits.mapM fun r _ => fits_response r.1 r.2).bind fun responses _ => ?_
  simp only [checked_bind]
  refine (fits_text.bind fun _ _ => fits_text.bind fun _ _ => fits_textOrNull.bind fun _ _ =>
    fits_textOrNull.bind fun _ _ => fits_textList.bind fun _ _ => fits_ok _).congr ?_
  simp

/-- The shape of a path item. -/
@[mk_iff]
structure PathShape (path item : Value) : Prop where
  table : item.IsTable
  operations : ∀ o ∈ operationsOn path item, OperationShape o

theorem fits_pathEndpoints (path item : Value) :
    Fits (PathShape path item) (pathEndpoints path item) := by
  rw [pathEndpoints_eq]
  rw [pathShape_iff]
  refine fits_partOfTable.bind fun shared hpart => Fits.mapM fun o ho => ?_
  obtain ⟨hpath, hshared⟩ := mem_operationsOn ho
  rw [← memberOrNull_of_part hpart, memberOrNull_orElse, ← hshared, ← hpath]
  exact fits_endpoint o

/-! ### Component schemas -/

/-- The shape of a member of `properties`, the required names being looked up. -/
@[mk_iff]
structure PropertyShape (required name schema : Value) : Prop where
  type : HasType (objectOrEmpty schema)
  required : required.MayHold name
  name : name.IsText
  description : (memberOrNull (objectOrEmpty schema) "description").IsTextOrNull
  format : (memberOrNull (objectOrEmpty schema) "format").IsTextOrNull

theorem fits_property (required name schema : Value) :
    Fits (PropertyShape required name schema) (property required name schema) := by
  rw [propertyShape_iff]
  refine fits_bind_schemaType fun type _ => Fits.congr ?_ and_left_comm
  refine fits_holds.bind fun isRequired _ => ?_
  exact fits_propertyCheck.congr and_left_comm

/-- The shape of a component schema; what is no object says nothing. -/
@[mk_iff]
structure ModelShape (name schema : Value) : Prop where
  table : (memberOrNull (objectOrEmpty schema) "properties").IsTable
  properties : ∀ m ∈ membersOf (memberOrNull (objectOrEmpty schema) "properties"),
    PropertyShape ((memberOrNull (objectOrEmpty schema) "required").orElse (.list [])) m.1 m.2
  name : name.IsText
  description : (memberOrNull (objectOrEmpty schema) "description").IsTextOrNull

theorem fits_model (name schema : Value) : Fits (ModelShape name schema) (model name schema) := by
  rw [modelShape_iff]
  refine fits_tableOf.bind fun members hmembers => ?_
  rw [membersOf_of_allMembers hmembers]
  exact (Fits.mapM fun m _ => fits_property _ m.1 m.2).bind fun _ _ => fits_modelCheck

/-! ### The document -/

/-- The shape of the list of servers: if anything is given, then it has a first one, whose address
is a text or missing. -/
def ServerShape (servers : Value) : Prop :=
  servers.isGiven = true → ∃ server, firstServer servers = .ok server ∧ server.isObject = true ∧
    (memberOrNull server "url").IsTextOrNull

theorem fits_bind_serverUrl {α : Type} {servers : Value} {P : Prop} {f : Value → Outcome α}
    (hf : ∀ url, Fits (url.IsTextOrNull ∧ P) (f url)) :
    Fits (ServerShape servers ∧ P) (serverUrl servers >>= f) := by
  rw [serverUrl, ServerShape]
  cases servers.isGiven with
  | false =>
      refine (hf .null).congr ?_
      simp [isTextOrNull_null]
  | true =>
      cases firstServer servers with
      | error e => exact (fits_error e).congr (by simp)
      | ok server =>
          refine Fits.congr (P := server.isObject = true ∧
            (memberOrNull server "url").IsTextOrNull ∧ P) ?_ (by simp [and_assoc])
          refine Fits.bind (f := f) (x := server.part "url") fits_part fun url hpart => ?_
          rw [memberOrNull_of_part hpart]
          exact hf url

/-- The shape of an OpenAPI document. -/
@[mk_iff]
structure DocumentShape (doc : Value) : Prop where
  info : (memberOrNull doc "info").IsTable
  server : ServerShape (memberOrNull doc "servers")
  components : (memberOrNull doc "components").IsTable
  title : (memberOrNull (memberOrNull doc "info") "title").isGiven = true →
    (memberOrNull (memberOrNull doc "info") "title").IsPlainText
  version : memberOrNull (memberOrNull doc "info") "version" ≠ .null →
    (memberOrNull (memberOrNull doc "info") "version").isSpellable = true
  paths : (memberOrNull doc "paths").IsTable
  endpoints : ∀ p ∈ membersOf (memberOrNull doc "paths"), PathShape p.1 p.2
  schemas : (memberOrNull (memberOrNull doc "components") "schemas").IsTable
  models : ∀ m ∈ membersOf (memberOrNull (memberOrNull doc "components") "schemas"),
    ModelShape m.1 m.2
  description : (memberOrNull (memberOrNull doc "info") "description").IsTextOrNull

theorem fits_heading (doc : Value) : Fits (memberOrNull doc "info").IsTable (heading doc) := by
  rw [heading]
  cases doc.isObject with
  | false => exact fits_spec _ _
  | true =>
      refine Fits.congr (P := (memberOrNull doc "info").IsTable ∧
        (memberOrNull doc "info").IsTable ∧ True) ?_ (by simp)
      refine fits_partOfTable.bind fun title _ => ?_
      cases title.isGiven with
      | false => exact fits_spec _ _
      | true =>
          refine fits_partOfTable.bind fun version _ => ?_
          split
          · exact fits_spec _ _
          · exact fits_ok _

theorem heading_eq_ok {doc title version : Value} (h : heading doc = .ok (title, version)) :
    memberOrNull (memberOrNull doc "info") "title" = title ∧ title.isGiven = true ∧
      memberOrNull (memberOrNull doc "info") "version" = version ∧ version ≠ .null := by
  rw [heading] at h
  cases hobject : doc.isObject with
  | false =>
      rw [hobject] at h
      cases h
  | true =>
      rw [hobject] at h
      obtain ⟨title', htitle, h⟩ := bind_eq_ok_iff.1 h
      cases hgiven : title'.isGiven with
      | false =>
          rw [hgiven] at h
          cases h
      | true =>
          rw [hgiven] at h
          obtain ⟨version', hversion, h⟩ := bind_eq_ok_iff.1 h
          split at h
          · cases h
          · rename_i hnull
            cases h
            rw [← memberOrNull_orElse, memberOrNull_of_part htitle, ← memberOrNull_orElse,
              memberOrNull_of_part hversion]
            exact ⟨rfl, hgiven, rfl, hnull⟩

theorem fits_typeName (title : Value) : Fits title.IsPlainText (typeName title) := by
  rw [IsPlainText]
  cases title with
  | str s => exact (fits_ok _).congr (by simp)
  | _ => exact (fits_error _).congr (by simp)

theorem fits_assemble {doc url : Value} {name version : String}
    {endpoints : List (List Endpoint)} {models : List Model} :
    Fits (url.IsTextOrNull ∧ (memberOrNull (memberOrNull doc "info") "description").IsTextOrNull)
      (assemble doc name version url endpoints models) := by
  have hdistinct : ∀ api : Api, Fits True api.distinct := by
    intro api
    rw [Api.distinct]
    split
    · exact fits_spec _ _
    · exact fits_ok api
  simp only [assemble, checked_bind, memberOrNull_orElse]
  refine Fits.congr (P := ((memberOrNull (memberOrNull doc "info") "description").IsTextOrNull ∧
    url.IsTextOrNull ∧ True) ∧ True) ?_ ?_
  · exact (fits_textOrNull.bind fun _ _ => fits_textOrNull.bind fun _ _ => fits_ok _).bind
      fun api _ => hdistinct api
  · simp [and_comm]

theorem fits_ofDocument (doc : Value) : Fits (DocumentShape doc) (ofDocument doc) := by
  rw [ofDocument_eq, documentShape_iff]
  refine (fits_heading doc).bind fun found hfound => ?_
  obtain ⟨title, version⟩ := found
  obtain ⟨rfl, hgiven, rfl, hnull⟩ := heading_eq_ok hfound
  simp only [hgiven, hnull, ne_eq, not_false_eq_true, forall_true_left]
  refine fits_bind_serverUrl fun url => ?_
  -- the address too is checked at the end and waits behind the other steps
  refine Fits.congr ?_ and_left_comm
  refine fits_partOfTable.bind fun schemas hpart => ?_
  rw [← memberOrNull_of_part hpart, memberOrNull_orElse]
  refine Fits.congr ?_ and_left_comm
  refine (fits_typeName _).bind fun name _ => ?_
  refine Fits.congr ?_ and_left_comm
  refine fits_spelled.bind fun version' _ => ?_
  refine Fits.congr ?_ and_left_comm
  refine fits_tableOf.bind fun paths hpaths => ?_
  rw [membersOf_of_allMembers hpaths]
  refine Fits.congr ?_ and_left_comm
  refine (Fits.mapM fun p _ => fits_pathEndpoints p.1 p.2).bind fun endpoints _ => ?_
  refine Fits.congr ?_ and_left_comm
  refine fits_tableOf.bind fun table htable => ?_
  rw [membersOf_of_allMembers htable]
  refine Fits.congr ?_ and_left_comm
  exact (Fits.mapM fun m _ => fits_model m.1 m.2).bind fun models _ => fits_assemble

end SpecForge.Api
