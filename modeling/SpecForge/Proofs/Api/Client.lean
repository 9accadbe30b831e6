import Mathlib.Data.List.Flatten
import SpecForge.Generator
import SpecForge.Proofs.Api.Kotlin
import SpecForge.Proofs.Api.Swift
import SpecForge.Proofs.Api.TypeScript

/-!
# The clients of a document

The clients of a document agree on the requests: on every platform there is one method for each
endpoint, in order, with its verb, with a body if the endpoint has one, and with the declared names
of the parameters of the query and of the headers.

Lines are printed so that this holds. A text that is put into a line as it stands may break it, and
then the lines of the file are others: a description with a line break can add a method.
-/

namespace SpecForge.Api

open Model.Reader Reader

theorem code_ne_nil (p : Platform) (api : Api) (source : String) : api.code p source ≠ [] := by
  cases p with
  | ios => simp [code, Swift.file, Lines.header, Lines.provenance]
  | android => simp [code, Kotlin.file, Lines.header, Lines.provenance]
  | web => simp [code, TypeScript.file, Lines.header, Lines.provenance]

theorem text_of_sourceFile {p : Platform} {api : Api} {source : String} {file : SourceFile}
    (h : api.sourceFile p source = .ok file) : file.text = (api.code p source).joined := by
  rw [SourceFile.eq_of_ofLines h]

/-- If no line that is printed is broken, the text of a file has these lines. -/
theorem split_sourceFile {p : Platform} {api : Api} {source : String} {file : SourceFile}
    (h : api.sourceFile p source = .ok file)
    (hb : ∀ line ∈ api.code p source, '\n' ∉ line.toList) :
    Text.split '\n' file.text = api.code p source := by
  rw [text_of_sourceFile h, Lines.split_joined_of_not_mem (code_ne_nil p api source) hb]

/-- A method makes the request of an endpoint. What it sends can be read if the types are types. -/
structure Makes (p : Platform) (e : Endpoint) (m : Printed) : Prop where
  name : (Reader.dialect p).name? m = some e.methodName
  verb : (Reader.dialect p).verb? m = some e.method
  call : e.IsLegible → (Reader.dialect p).call? m = some e.call

/-- The lines that are printed have one method for each endpoint on every platform. -/
theorem makes_code {api : Api} (h : ∀ e ∈ api.endpoints, ∃ verb : Verb, e.method = verb.name)
    (p : Platform) (source : String) :
    List.Forall₂ (Makes p) api.endpoints ((Reader.dialect p).methodsIn (api.code p source)) := by
  cases p with
  | ios =>
      refine Swift.forall₂_methods_file (fun e _ => Swift.has_method ⟨?_, ?_, fun he => ?_⟩) source
      · exact Swift.name?_method e _ _
      · exact Swift.verb?_method _ e _ _
      · exact Swift.call?_method _ _ he
  | android =>
      refine Kotlin.forall₂_methods_file (fun e he => ?_) source
      obtain ⟨verb, hv⟩ := h e he
      refine Kotlin.has_function fun m habove hhead hm => ⟨?_, ?_, fun he => ?_⟩
      · exact Kotlin.name?_function hhead
      · exact Kotlin.verb?_function hv habove
      · exact Kotlin.call?_function he hv habove hhead hm
  | web =>
      refine TypeScript.forall₂_methods_file (fun e he => ?_) source
      obtain ⟨verb, hv⟩ := h e he
      refine TypeScript.has_method ⟨?_, ?_, fun he => ?_⟩
      · exact TypeScript.name?_method e _ _
      · exact TypeScript.verb?_method hv ("  " ++ s!"/** {e.headline} */")
          ("  " ++ TypeScript.declaration e)
      · exact TypeScript.call?_method he hv _

/-- The clients of an accepted document make the requests of its endpoints, on every platform the
same ones: so do the lines that are printed, and so does the text of a file if none of these lines
is broken. -/
theorem clients_make_calls {document : Value} {api : Api} (h : ofDocument document = .ok api)
    (p : Platform) (source : String) :
    List.Forall₂ (Makes p) api.endpoints ((Reader.dialect p).methodsIn (api.code p source)) ∧
      ∀ file, api.sourceFile p source = .ok file →
        (∀ line ∈ api.code p source, '\n' ∉ line.toList) →
        List.Forall₂ (Makes p) api.endpoints
          ((Reader.dialect p).methodsIn (Text.split '\n' file.text)) := by
  have hcode := makes_code (exists_verb h) p source
  refine ⟨hcode, fun file hfile hbreaks => ?_⟩
  rw [split_sourceFile hfile hbreaks]
  exact hcode

/-- A deletion with a body, whose parameters have names that are written with escapes. -/
def escapesDocument : Value :=
  .record [("info", .record [("title", .str "Orders"), ("version", .str "1")]),
    ("paths", .record [("/orders", .record [("delete", .record [
      ("operationId", .str "deleteOrders"),
      ("parameters", .list [
        .record [("name", .str "it's"), ("in", .str "query"), ("required", .bool true)],
        .record [("name", .str "filter[\"a\\b\"]"), ("in", .str "query")],
        .record [("name", .str "X-Tenant"), ("in", .str "header")]]),
      ("requestBody", .record [("content", .record [("application/json", .record [
        ("schema", .record [("type", .str "string")])])])])])])])]

theorem make_calls_escapesDocument :
    ∃ api e, ofDocument escapesDocument = .ok api ∧ api.endpoints = [e] ∧ e.IsLegible ∧
      e.call = ⟨"deleteOrders", "DELETE", true, ["it's", "filter[\"a\\b\"]"], ["X-Tenant"]⟩ ∧
      (∀ p source, List.Forall₂ (Makes p) api.endpoints
        ((Reader.dialect p).methodsIn (api.code p source))) ∧
      ∃ file, api.sourceFile .android "orders.json" = .ok file ∧
        List.Forall₂ (Makes .android) api.endpoints
          ((Reader.dialect .android).methodsIn (Text.split '\n' file.text)) := by
  obtain ⟨api, hok, hcalls, hlegible, hfile, hlines⟩ :
      ∃ api, ofDocument escapesDocument = .ok api ∧
        api.endpoints.map (·.call) =
          [⟨"deleteOrders", "DELETE", true, ["it's", "filter[\"a\\b\"]"], ["X-Tenant"]⟩] ∧
        (∀ e ∈ api.endpoints, e.IsLegible) ∧
        (api.sourceFile .android "orders.json").toOption.isSome = true ∧
        ∀ line ∈ api.code .android "orders.json", '\n' ∉ line.toList :=
    exists_ok_of_any (by decide +kernel)
  obtain ⟨e, he, hcall⟩ := List.map_eq_singleton_iff.1 hcalls
  obtain ⟨file, hfile⟩ := exists_ok_of_isSome hfile
  exact ⟨api, e, hok, he, hlegible e (by simp [he]), hcall,
    fun p source => (clients_make_calls hok p source).1, file, hfile,
    (clients_make_calls hok .android "orders.json").2 file hfile hlines⟩

/-- A description that goes on, behind a line break, with the declaration of a method. -/
def brokenDescription : String := "Example:\n    public func ping() async throws \x7b\x7d"

/-- A document with one operation, whose description has a line break. -/
def brokenDocument : Value :=
  .record [("info", .record [("title", .str "Orders"), ("version", .str "1")]),
    ("paths", .record [("/orders", .record [("get", .record [
      ("operationId", .str "getOrders"), ("description", .str brokenDescription)])])])]

/-- The Swift client of this document has a method more than the document has operations. -/
theorem not_make_calls_brokenDocument :
    ∃ api file, ofDocument brokenDocument = .ok api ∧ api.endpoints.length = 1 ∧
      api.sourceFile .ios "orders.json" = .ok file ∧
      2 ≤ (Reader.Swift.dialect.methodsIn (Text.split '\n' file.text)).length ∧
      ¬ List.Forall₂ (Makes .ios) api.endpoints
        (Reader.Swift.dialect.methodsIn (Text.split '\n' file.text)) := by
  let comment := "    /// " ++ brokenDescription
  let head := "    public func getOrders() async throws \x7b"
  obtain ⟨api, hok, hlength, hfile, hfilter⟩ : ∃ api, ofDocument brokenDocument = .ok api ∧
      api.endpoints.length = 1 ∧ (api.sourceFile .ios "orders.json").toOption.isSome = true ∧
      ((api.code .ios "orders.json").filter fun line => line == comment || line == head) =
        [comment, head] :=
    exists_ok_of_any (by decide +kernel)
  obtain ⟨file, hfile⟩ := exists_ok_of_isSome hfile
  have hmethods : 2 ≤ (Text.split '\n' file.text).countP (begins "    public func ") := by
    have hcount : ([comment, head].flatMap (Text.split '\n')).countP (begins "    public func ") =
        2 := by
      decide +kernel
    have hsub : [comment, head].Sublist (api.code .ios "orders.json") := by
      rw [← hfilter]
      exact List.filter_sublist
    rw [text_of_sourceFile hfile, ← hcount]
    exact Lines.countP_flatMap_split_le hsub (code_ne_nil .ios api "orders.json") _
  rw [← length_methods _ Reader.Swift.dialect.closes ""] at hmethods
  refine ⟨api, file, hok, hlength, hfile, hmethods, fun hmakes => ?_⟩
  have hread := hmakes.length_eq
  rw [hlength, Dialect.methodsIn] at hread
  exact absurd (hread ▸ hmethods) (by decide)

end SpecForge.Api
