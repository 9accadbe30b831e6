import Mathlib.Data.Bool.AllAny
import Mathlib.Data.List.DropRight
import SpecForge.Proofs.Api.Printed
import SpecForge.Proofs.Api.Swift
import SpecForge.Proofs.Text.Literal

/-!
# Texts between the signs of a literal

A TypeScript client has the address of the service in apostrophes, and TypeScript and Swift clients
have the path of each endpoint in a literal in which the slots are holes. These texts are put
between the signs of the literal as the document has them. They are read there as what they are
exactly if none of their characters means something else in a literal of this kind.
-/

namespace SpecForge

open Literal

theorem Text.exists_eq_dropEndChar_append (c : Char) (s : String) :
    ∃ n, s.toList = (dropEndChar c s).toList ++ List.replicate n c := by
  have htail : ∀ d ∈ s.toList.rtakeWhile (· == c), d = c := by
    intro d hd
    simpa using List.mem_rtakeWhile_imp hd
  refine ⟨(s.toList.rtakeWhile (· == c)).length, ?_⟩
  rw [dropEndChar, String.toList_ofList, ← List.eq_replicate_of_mem htail]
  exact List.rdropWhile_append_rtakeWhile.symm

theorem Text.getLast?_dropEndChar (c : Char) (s : String) :
    (dropEndChar c s).toList.getLast? ≠ some c := by
  rw [dropEndChar, String.toList_ofList]
  intro hlast
  obtain ⟨hne, hc⟩ := List.mem_getLast?_eq_getLast hlast
  exact List.rdropWhile_last_not (· == c) s.toList hne (beq_iff_eq.2 hc.symm)

namespace Api

/-- A piece of a path in a literal: what is written for a slot stands in a hole. -/
def PathPiece.part (front back : String) : PathPiece → Part
  | .char c => .char c
  | .slot name => .hole (front ++ Name.toIdentifier (String.ofList name) ++ back).toList

/-- The parts of a path in a literal. -/
def pathParts (front back path : String) : List Part :=
  (pathPieces path.toList).map (PathPiece.part front back)

/-- A path with marks around its slots stands in a literal as its parts do. -/
theorem toList_fillPath {k : Kind} {opening closing front back : String}
    (h : ∀ name : String,
      (opening ++ name ++ closing).toList = k.around (front ++ name ++ back).toList)
    (path : String) :
    (fillPath opening closing path).toList = k.writeAll (pathParts front back path) := by
  unfold fillPath pathParts
  induction pathPieces path.toList with
  | nil => rfl
  | cons piece pieces ih =>
      rw [List.map_cons, List.map_cons, String.join_cons, String.toList_append, ih]
      cases piece with
      | char c =>
          rw [PathPiece.write, String.toList_singleton]
          rfl
      | slot name =>
          rw [PathPiece.write, h]
          rfl

/-- What is written for the slots of a path is plain code. -/
theorem hasPlainCode_pathParts {k : Kind} (hk : k ≠ .apostrophes) {front back : String}
    (hfront : front.toList.all k.isPlainCode = true) (hback : back.toList.all k.isPlainCode = true)
    (hword : ∀ c, Name.isWordChar c = true → k.isPlainCode c = true) (path : String) :
    k.HasPlainCode (pathParts front back path) := by
  intro code hcode
  obtain ⟨piece, _, hpiece⟩ := List.mem_map.1 hcode
  cases piece with
  | char c => cases hpiece
  | slot name =>
      cases hpiece
      refine ⟨hk, fun c hc => ?_⟩
      rw [String.toList_append, String.toList_append, List.mem_append, List.mem_append] at hc
      rcases hc with (hc | hc) | hc
      · exact List.all_eq_true.1 hfront c hc
      · exact hword c (Name.allWord_toIdentifier _ c hc)
      · exact List.all_eq_true.1 hback c hc

theorem hasPlainCode_chars (k : Kind) (cs : List Char) : k.HasPlainCode (cs.map .char) := by
  intro code hcode
  obtain ⟨c, _, hc⟩ := List.mem_map.1 hcode
  cases hc

namespace TypeScript

/-- The parts of a path in a template: what stands for a slot is encoded. -/
def templateParts (path : String) : List Part := pathParts "encodeURIComponent(String(" "))" path

theorem opening_subset_code (api : Api) (source : String) : opening api ⊆ api.code .web source := by
  have hopening : opening api <:+: Lines.header source ++
      api.models.flatMap Model.TypeScript.interface ++ support api.clientName ++ opening api :=
    (List.suffix_append _ _).isInfix
  -- behind the beginning stand the methods, the transport and the end
  exact (List.infix_append_of_infix_left (List.infix_append_of_infix_left
    (List.infix_append_of_infix_left hopening))).subset

theorem standsIn_url (ts : Language) (api : Api) (source : String) :
    ts.StandsIn .apostrophes (api.code .web source) "    this.baseUrl = options.baseUrl ?? "
      ((bareUrl api).toList.map .char) := by
  have hline : s!"    this.baseUrl = options.baseUrl ?? '{bareUrl api}';" ∈ opening api := by
    simp [opening]
  refine Language.standsIn_of_mem ";" (opening_subset_code api source hline) ?_
    (hasPlainCode_chars _ _) (by decide)
  simp [← String.toList_inj, Kind.between, Kind.sign, toString]

theorem exists_urlLine_eq (e : Endpoint) : ∃ back : String, back.toList.head? ≠ some '`' ∧
    urlLine e = "    const url = this.buildUrl(" ++
      Kind.backticks.between (templateParts e.path) ++ back := by
  have hpath : (path e).toList = Kind.backticks.writeAll (templateParts e.path) :=
    toList_fillPath (fun name => by simp [Kind.around]) e.path
  unfold urlLine
  cases e.queryParams.isEmpty with
  | true =>
      refine ⟨");", by decide, ?_⟩
      simp [← String.toList_inj, hpath, Kind.between, Kind.sign]
  | false =>
      refine ⟨", query);", by decide, ?_⟩
      simp [← String.toList_inj, hpath, Kind.between, Kind.sign]

theorem standsIn_path (ts : Language) {api : Api} {e : Endpoint} (he : e ∈ api.endpoints)
    (source : String) :
    ts.StandsIn .backticks (api.code .web source) "    const url = this.buildUrl("
      (templateParts e.path) := by
  have hline : urlLine e ∈ methodBlock .web api e := by
    rw [methodBlock, shifted_method]
    simp
  have hplain : Kind.backticks.HasPlainCode (templateParts e.path) := by
    refine hasPlainCode_pathParts (by decide) (by decide) (by decide) ?_ e.path
    intro c hc
    simp [Kind.isPlainCode, hc]
  obtain ⟨back, hback, hurl⟩ := exists_urlLine_eq e
  exact Language.standsIn_of_mem back ((methodBlock_isInfix he .web source).subset hline) hurl
    hplain hback

end TypeScript

namespace Swift

/-- The parts of a path in a text: what stands for a slot is its name. -/
def textParts (path : String) : List Part := pathParts "" "" path

/-- The statement that puts the path behind the address. -/
def componentsLine (e : Endpoint) : String :=
  "var components = URLComponents(url: baseURL.appendingPathComponent(\"" ++ path e ++
    "\"), resolvingAgainstBaseURL: false)"

theorem componentsLine_mem (api : Api) (e : Endpoint) :
    "    " ++ ("    " ++ componentsLine e) ∈ methodBlock .ios api e := by
  have hstatement : componentsLine e ∈ statements api.clientName e := by
    unfold statements
    simp only [List.append_assoc]
    exact List.mem_append_left _ (List.mem_singleton_self _)
  have hne : componentsLine e ≠ "" := by
    unfold componentsLine
    simp
  have hindented : "    " ++ componentsLine e ∈ Lines.indent (statements api.clientName e) 1 :=
    Lines.mem_shifted "    " hstatement hne
  rw [methodBlock, indent_method]
  exact List.mem_cons_of_mem _ (List.mem_cons_of_mem _ (List.mem_append_left _
    (Lines.mem_shifted "    " hindented (by simp))))

theorem standsIn_path (swift : Language) {api : Api} {e : Endpoint} (he : e ∈ api.endpoints)
    (source : String) :
    swift.StandsIn .quotes (api.code .ios source)
      "        var components = URLComponents(url: baseURL.appendingPathComponent("
      (textParts e.path) := by
  have hplain : Kind.quotes.HasPlainCode (textParts e.path) :=
    hasPlainCode_pathParts (k := .quotes) (by decide) (by decide) (by decide) (fun c hc => hc)
      e.path
  have hpath : (path e).toList = Kind.quotes.writeAll (textParts e.path) :=
    toList_fillPath (fun name => by simp [Kind.around]) e.path
  refine Language.standsIn_of_mem "), resolvingAgainstBaseURL: false)"
    ((methodBlock_isInfix he .ios source).subset (componentsLine_mem api e)) ?_ hplain (by decide)
  unfold componentsLine
  simp [← String.toList_inj, hpath, Kind.between, Kind.sign]

end Swift

/-- The address that a document declares for its service: that of its first server. -/
def DeclaresUrl (doc : Value) (url : String) : Prop :=
  ∃ server declared, serverUrl (memberOrNull doc "servers") = .ok server ∧
    Shape.optional Shape.text server = .ok declared ∧
      url = (nonEmpty? declared).getD defaultUrl

theorem declaresUrl_of_ofDocument {doc : Value} {api : Api} (h : ofDocument doc = .ok api) :
    DeclaresUrl doc api.url := by
  obtain ⟨server, hserver, hdeclared⟩ := (isReadFrom_of_ofDocument h).baseUrl
  exact ⟨server, api.baseUrl, hserver, hdeclared, rfl⟩

/-- The address and the paths of a document have their places in the clients between the signs of a
literal. The address is there without the slashes at its end. Each of these literals is read as the
text that was put there, its slots being the only holes and the sign behind it being its end,
exactly if no character of the text ends it, begins an escape or a hole, or may not stand in it. -/
theorem embedded_texts_read_iff {doc : Value} {api : Api} (h : ofDocument doc = .ok api)
    (ts swift : Language) (source : String) :
    (∃ url bare n, DeclaresUrl doc url ∧ url.toList = bare ++ List.replicate n '/' ∧
      bare.getLast? ≠ some '/' ∧
      ts.StandsIn .apostrophes (api.code .web source) "    this.baseUrl = options.baseUrl ?? "
        (bare.map .char)) ∧
    (∀ o ∈ declaredOperations doc, ∃ path, Shape.text o.path = .ok path ∧
      ts.StandsIn .backticks (api.code .web source) "    const url = this.buildUrl("
        (TypeScript.templateParts path) ∧
      swift.StandsIn .quotes (api.code .ios source)
        "        var components = URLComponents(url: baseURL.appendingPathComponent("
        (Swift.textParts path)) ∧
    (∀ cs : List Char, ts.Stays .apostrophes (cs.map .char) ↔
      ∀ c ∈ cs, c ≠ '\'' ∧ c ≠ '\\' ∧ ts.breaks c = false) ∧
    (∀ parts, ts.Stays .backticks parts ↔
      (∀ c, .char c ∈ parts → c ≠ '`' ∧ c ≠ '\\' ∧ c ≠ '\r') ∧
        ¬ [.char '$', .char '\x7b'] <:+: parts) ∧
    ∀ parts, swift.Stays .quotes parts ↔
      ∀ c, .char c ∈ parts → c ≠ '"' ∧ c ≠ '\\' ∧ swift.breaks c = false := by
  refine ⟨?_, ?_, fun _ => Language.stays_apostrophes, fun _ => Language.stays_backticks,
    fun _ => Language.stays_quotes⟩
  · obtain ⟨n, hn⟩ := Text.exists_eq_dropEndChar_append '/' api.url
    exact ⟨api.url, _, n, declaresUrl_of_ofDocument h, hn, Text.getLast?_dropEndChar '/' api.url,
      TypeScript.standsIn_url ts api source⟩
  · intro o ho
    obtain ⟨e, he, hmakes⟩ := exists_of_forall₂_of_mem (forall₂_makes h).flip ho
    exact ⟨e.path, hmakes.path, TypeScript.standsIn_path ts he source,
      Swift.standsIn_path swift he source⟩

theorem embedded_texts_read_ordersDocument : ∃ api, ofDocument ordersDocument = .ok api ∧
    ∃ parts : List Part, parts =
        "/orders/".toList.map .char ++ [.hole "encodeURIComponent(String(id))".toList] ∧
      Kind.backticks.between parts = "`/orders/$\x7bencodeURIComponent(String(id))\x7d`" ∧
      ∃ back, "    const url = this.buildUrl(" ++ Kind.backticks.between parts ++ back ∈
          api.code .web "orders.json" ∧
        TypeScript.language.literal? .backticks (Kind.backticks.between parts ++ back).toList =
          some (parts, back.toList) := by
  obtain ⟨api, hok⟩ : ∃ api, ofDocument ordersDocument = .ok api :=
    exists_ok_of_isSome (by decide +kernel)
  obtain ⟨_, hpaths, _, hstays, _⟩ :=
    embedded_texts_read_iff hok TypeScript.language Swift.language "orders.json"
  obtain ⟨path, hpath, ⟨back, hmem, hread⟩, _⟩ :=
    hpaths ⟨.get, .str "/orders/\x7bid\x7d", _, _⟩ (List.mem_of_getElem? (i := 0) rfl)
  cases hpath
  have hparts : TypeScript.templateParts "/orders/\x7bid\x7d" =
      "/orders/".toList.map .char ++ [.hole "encodeURIComponent(String(id))".toList] := by
    decide +kernel
  rw [hparts] at hmem hread
  refine ⟨api, hok, _, rfl, by decide +kernel, back, hmem,
    hread.2 ((hstays _).2 ⟨?_, by decide +kernel⟩)⟩
  have hplain : ∀ c ∈ "/orders/".toList, c ≠ '`' ∧ c ≠ '\\' ∧ c ≠ '\r' :=
    List.all_iff_forall_prop.1 (by decide)
  exact fun c hc => hplain c (by simpa using hc)

/-- An address with an apostrophe in it. -/
def apostropheUrl : String := "https://api.example.com/o'neill"

/-- A document that declares this address. -/
def apostropheDocument : Value :=
  .record [("info", .record [("title", .str "Orders"), ("version", .str "1")]),
    ("servers", .list [.record [("url", .str apostropheUrl)]]),
    ("paths", .record [("/orders", .record [("get", .record [])])])]

/-- The literal for this address ends with the apostrophe, whatever the rules of escapes are, and
the rest of the address is read as code. -/
theorem not_embedded_apostropheDocument : ∃ api, ofDocument apostropheDocument = .ok api ∧
    DeclaresUrl apostropheDocument apostropheUrl ∧ ∀ source, ∃ back,
      "    this.baseUrl = options.baseUrl ?? " ++
          Kind.apostrophes.between (apostropheUrl.toList.map .char) ++ back ∈
        api.code .web source ∧
      (∀ ts : Language, ts.literal? .apostrophes
          (Kind.apostrophes.between (apostropheUrl.toList.map .char) ++ back).toList ≠
        some (apostropheUrl.toList.map .char, back.toList)) ∧
      TypeScript.language.literal? .apostrophes
          (Kind.apostrophes.between (apostropheUrl.toList.map .char) ++ back).toList =
        some ("https://api.example.com/o".toList.map .char, "neill'".toList ++ back.toList) := by
  have hurl : (ofDocument apostropheDocument).toOption.map TypeScript.bareUrl =
      some apostropheUrl := by
    decide +kernel
  obtain ⟨api, hapi, hurl⟩ := Option.map_eq_some_iff.1 hurl
  refine ⟨api, eq_ok_of_toOption hapi, ⟨_, some apostropheUrl, rfl, rfl, rfl⟩, fun source => ?_⟩
  obtain ⟨back, hmem, -⟩ := TypeScript.standsIn_url TypeScript.language api source
  rw [hurl] at hmem
  refine ⟨back, hmem, ?_, ?_⟩
  · intro ts hread
    rw [String.toList_append] at hread
    have hstays := Language.stays_of_literal? (hasPlainCode_chars _ _) hread
    exact (Language.stays_apostrophes.1 hstays '\'' (by decide)).1 rfl
  · have hsplit : (Kind.apostrophes.between (apostropheUrl.toList.map .char)).toList =
        (Kind.apostrophes.between ("https://api.example.com/o".toList.map .char)).toList ++
          "neill'".toList := by
      decide +kernel
    rw [String.toList_append, hsplit, List.append_assoc]
    refine Language.literal?_between (hasPlainCode_chars _ _) (by simp [Kind.sign]) ?_
    exact Language.stays_apostrophes.2 (List.all_iff_forall_prop.1 (by decide))

end Api

end SpecForge
