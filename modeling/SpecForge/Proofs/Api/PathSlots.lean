import SpecForge.Proofs.Api.ContentType
import SpecForge.Proofs.Api.EmbeddedText
import SpecForge.Proofs.Api.OmissibleArguments

/-!
# The slots of a path

A path is scanned from left to right for slots: an opening brace, a name, and the first closing
brace behind it. A brace that opens no slot is a character like any other, also where braces are
nested, empty or not closed. In Swift and in TypeScript the argument for the name is put into each
slot; in Kotlin the path is kept, and an annotation of an argument has the name. The slots come from
the path and the arguments from the parameters, so the two meet only in names.

The type of a parameter is printed as it stands. Where it closes the list of the arguments, those
behind it are no arguments any more, and their slots are filled with names that nothing declares.
-/

namespace SpecForge.Api

open Model.Reader Reader Text

/-! ## Scanning a path -/

/-- A slot begins here: an opening brace, a name without a closing one, and a closing brace. -/
def OpensSlot (cs : List Char) : Prop :=
  ∃ name rest, name ≠ [] ∧ '\x7d' ∉ name ∧ cs = '\x7b' :: (name ++ '\x7d' :: rest)

/-- The pieces that are found in a path from left to right. -/
inductive Scans : List Char → List PathPiece → Prop where
  | nil : Scans [] []
  | slot {name rest : List Char} {pieces : List PathPiece} (hne : name ≠ []) (hb : '\x7d' ∉ name)
      (hrest : Scans rest pieces) :
      Scans ('\x7b' :: (name ++ '\x7d' :: rest)) (.slot name :: pieces)
  | char {c : Char} {cs : List Char} {pieces : List PathPiece} (hnone : ¬ OpensSlot (c :: cs))
      (hrest : Scans cs pieces) : Scans (c :: cs) (.char c :: pieces)

/-- A piece as it stands in the path. -/
def PathPiece.source : PathPiece → List Char
  | .char c => [c]
  | .slot name => '\x7b' :: name ++ ['\x7d']

/-- Nothing of a path is lost or changed. -/
theorem Scans.flatMap_source {cs : List Char} {pieces : List PathPiece} (h : Scans cs pieces) :
    pieces.flatMap PathPiece.source = cs := by
  induction h with
  | nil => rfl
  | slot _ _ _ ih => simp [PathPiece.source, ih]
  | char _ _ ih => simp [PathPiece.source, ih]

theorem slotName?_eq_some_iff {cs name rest : List Char} : slotName? cs = some (name, rest) ↔
    name ≠ [] ∧ '\x7d' ∉ name ∧ cs = name ++ '\x7d' :: rest := by
  constructor
  · intro h
    rw [slotName?] at h
    split at h
    · cases h
    · rename_i c behind hdrop
      have hclose : c = '\x7d' := by
        have hhead := List.head?_dropWhile_not (· != '\x7d') cs
        rw [hdrop] at hhead
        simpa using hhead
      subst hclose
      dsimp only at h
      split at h
      · cases h
      · rename_i hempty
        cases h
        refine ⟨by simpa using hempty, fun hmem => ?_, ?_⟩
        · simpa using List.mem_takeWhile_imp hmem
        · rw [← hdrop, List.takeWhile_append_dropWhile]
  · rintro ⟨hne, hb, rfl⟩
    have hname : ∀ c ∈ name, (c != '\x7d') = true := by
      intro c hc
      rw [bne_iff_ne]
      rintro rfl
      exact hb hc
    rw [slotName?, List.dropWhile_append_of_pos hname, List.takeWhile_append_of_pos hname]
    simp [hne]

theorem opensSlot_cons_iff {c : Char} {cs : List Char} :
    OpensSlot (c :: cs) ↔ c = '\x7b' ∧ (slotName? cs).isSome = true := by
  constructor
  · rintro ⟨name, rest, hne, hb, heq⟩
    obtain ⟨rfl, rfl⟩ := List.cons.inj heq
    rw [slotName?_eq_some_iff.2 ⟨hne, hb, rfl⟩]
    exact ⟨rfl, rfl⟩
  · rintro ⟨rfl, hsome⟩
    obtain ⟨⟨name, rest⟩, hslot⟩ := Option.isSome_iff_exists.1 hsome
    obtain ⟨hne, hb, rfl⟩ := slotName?_eq_some_iff.1 hslot
    exact ⟨name, rest, hne, hb, rfl⟩

theorem pathPieces_slot {cs name rest : List Char} (h : slotName? cs = some (name, rest)) :
    pathPieces ('\x7b' :: cs) = .slot name :: pathPieces rest := by
  rw [pathPieces, if_pos rfl]
  split
  · rename_i hslot
    rw [h] at hslot
    cases hslot
    rfl
  · rename_i hnone
    rw [h] at hnone
    cases hnone

theorem pathPieces_char {c : Char} {cs : List Char} (h : ¬ OpensSlot (c :: cs)) :
    pathPieces (c :: cs) = .char c :: pathPieces cs := by
  rw [opensSlot_cons_iff, not_and, Bool.not_eq_true, Option.isSome_eq_false_iff,
    Option.isNone_iff_eq_none] at h
  rw [pathPieces]
  split
  · rename_i hc
    subst hc
    split
    · rename_i hslot
      rw [h rfl] at hslot
      cases hslot
    · rfl
  · rfl

theorem scans_pathPieces (cs : List Char) : Scans cs (pathPieces cs) := by
  induction cs using pathPieces.induct with
  | case1 =>
      rw [pathPieces]
      exact .nil
  | case2 cs name rest hslot ih =>
      obtain ⟨hne, hb, rfl⟩ := slotName?_eq_some_iff.1 hslot
      rw [pathPieces_slot hslot]
      exact .slot hne hb ih
  | case3 cs hnone ih =>
      have hopens : ¬ OpensSlot ('\x7b' :: cs) := by
        rw [opensSlot_cons_iff, hnone]
        simp
      rw [pathPieces_char hopens]
      exact .char hopens ih
  | case4 c cs hc ih =>
      have hopens : ¬ OpensSlot (c :: cs) := fun h => hc (opensSlot_cons_iff.1 h).1
      rw [pathPieces_char hopens]
      exact .char hopens ih

/-- A path is scanned in one way, and that is how the model takes it apart. -/
theorem scans_iff {cs : List Char} {pieces : List PathPiece} :
    Scans cs pieces ↔ pathPieces cs = pieces := by
  constructor
  · intro h
    induction h with
    | nil => rw [pathPieces]
    | slot hne hb _ ih => rw [pathPieces_slot (slotName?_eq_some_iff.2 ⟨hne, hb, rfl⟩), ih]
    | char hnone _ ih => rw [pathPieces_char hnone, ih]
  · rintro rfl
    exact scans_pathPieces cs

/-! ## The readers -/

namespace Reader

/-- The text of the address in the lines of a Swift method. -/
def Swift.url? (lines : Lines) : Option String := do
  let rest ← firstBehind?
    "        var components = URLComponents(url: baseURL.appendingPathComponent(\"" lines
  let url ← before? "\"), resolvingAgainstBaseURL: false)" rest
  return String.ofList url

/-- The text of the address in the lines of a TypeScript method. -/
def TypeScript.url? (lines : Lines) : Option String := do
  let rest ← firstBehind? "    const url = this.buildUrl(`" lines
  let url ← (before? "`, query);" rest).orElse fun _ => before? "`);" rest
  return String.ofList url

/-- The path in the annotation of a route, if a line is one. -/
def Kotlin.routePath? (line : String) : Option String :=
  match quotedBehind? "    @HTTP(method = " line.toList with
  | some (_, rest) => quoted? ", path = \"".toList ", hasBody = true)".toList rest
  | none => (named? "    @" (· == '(') line).bind fun r => quoted? "(\"".toList [')'] r.2

/-- The path in the lines of a Kotlin function. -/
def Kotlin.route? (lines : Lines) : Option String := lines.findSome? routePath?

end Reader

namespace Swift

/-- The address is made in the first statement of a method. -/
theorem exists_methodBlock_eq (api : Api) (e : Endpoint) : ∃ tail : Lines,
    methodBlock .ios api e = ["    " ++ s!"/// {e.headline}", "    " ++ signature e] ++
      ("        " ++ componentsLine e) :: tail := by
  have hstatements : ∃ rest, statements api.clientName e = [componentsLine e] ++ rest := ⟨_, rfl⟩
  have hne : componentsLine e ≠ "" := by
    unfold componentsLine
    simp
  have hline : "    " ++ ("    " ++ componentsLine e) = "        " ++ componentsLine e := by
    simp [← String.toList_inj]
  obtain ⟨rest, hrest⟩ := hstatements
  refine ⟨Lines.indent (Lines.indent rest 1) 1 ++ ["    \x7d"], ?_⟩
  rw [methodBlock, indent_method, hrest, Lines.indent_append, Lines.indent_singleton hne,
    Lines.indent_append, Lines.indent_singleton (by simp), hline]
  rfl

theorem url?_method (api : Api) (e : Endpoint) :
    Reader.Swift.url? (methodBlock .ios api e) = some (path e) := by
  obtain ⟨tail, htail⟩ := exists_methodBlock_eq api e
  have hwithout : Without
      "        var components = URLComponents(url: baseURL.appendingPathComponent(\""
      ["    " ++ s!"/// {e.headline}", "    " ++ signature e] := by
    simp [signature_eq, begins, after?, toString]
  have hline : "        " ++ componentsLine e =
      "        var components = URLComponents(url: baseURL.appendingPathComponent(\"" ++
        (path e ++ "\"), resolvingAgainstBaseURL: false)") := by
    unfold componentsLine
    simp [← String.toList_inj]
  rw [Reader.Swift.url?, htail, hline, firstBehind?_append hwithout, String.toList_append]
  simp only [Option.bind_eq_bind, Option.bind_some, before?_append, String.ofList_toList]
  rfl

end Swift

namespace TypeScript

theorem url?_method (api : Api) (e : Endpoint) :
    Reader.TypeScript.url? (methodBlock .web api e) = some (path e) := by
  have hwithout : Without "    const url = this.buildUrl(`"
      ["  " ++ s!"/** {e.headline} */", "  " ++ declaration e] := by
    simp [declaration, begins, after?, toString]
  have hline : urlLine e = "    const url = this.buildUrl(`" ++
      (path e ++ if e.queryParams.isEmpty then "`);" else "`, query);") := by
    unfold urlLine
    rw [String.append_assoc]
  have hblock : methodBlock .web api e =
      ["  " ++ s!"/** {e.headline} */", "  " ++ declaration e] ++ urlLine e ::
        [requestLine e, "  \x7d"] := shifted_method e
  rw [Reader.TypeScript.url?, hblock, hline, firstBehind?_append hwithout, String.toList_append]
  simp only [Option.bind_eq_bind, Option.bind_some]
  cases e.queryParams.isEmpty with
  | true =>
      -- a path that ends with these signs is followed by a quote
      have hquery : before? "`, query);" ((path e).toList ++ "`);".toList) = none := by
        simp [before?, after?]
      simp only [if_true, hquery, Option.orElse_none, before?_append, Option.bind_some,
        String.ofList_toList]
      rfl
  | false =>
      simp only [Bool.false_eq_true, if_false, before?_append, Option.orElse_some,
        Option.bind_some, String.ofList_toList]
      rfl

end TypeScript

namespace Kotlin

theorem routePath?_route {e : Endpoint} {verb : Verb} (hv : e.method = verb.name) :
    Reader.Kotlin.routePath? ("    " ++ route e) = some (path e) := by
  by_cases hd : deletesWithBody e = true
  · have hpath := quoted?_quoted ", path = " (path e) ", hasBody = true)".toList
    rw [← String.toList_append] at hpath
    rw [Reader.Kotlin.routePath?, (route_of_deletesWithBody hd).2, String.toList_append,
      quotedBehind?_quoted]
    dsimp only
    exact hpath
  · have hpath := quoted?_quoted "(" (path e) ")".toList
    rw [← String.toList_append] at hpath
    obtain ⟨hhttp, hname⟩ := named?_route hv hd
    rw [Reader.Kotlin.routePath?, hhttp, hname]
    dsimp only [Option.bind_some]
    exact hpath

theorem route?_function (api : Api) {e : Endpoint} {verb : Verb} (hv : e.method = verb.name) :
    Reader.Kotlin.route? (methodBlock .android api e) = some (path e) := by
  have hcomment : Reader.Kotlin.routePath? ("    " ++ s!"/** {e.headline} */") = none := by
    simp [Reader.Kotlin.routePath?, quotedBehind?, named?, after?, toString]
  rw [Reader.Kotlin.route?, methodBlock, indent_function]
  simp only [List.cons_append, List.findSome?_cons, hcomment, routePath?_route hv]

end Kotlin

/-! ## Paths in clients -/

/-- The pieces of a path one after the other, slots being opened and closed by the given marks. -/
def writePieces (opening closing : String) (pieces : List PathPiece) : String :=
  String.join (pieces.map (PathPiece.write opening closing))

/-- The path of an endpoint, and what becomes of it in the clients. In Kotlin it has no slashes in
front. -/
structure FillsPath (api : Api) (e : Endpoint) (path : String) (pieces : List PathPiece) :
    Prop where
  source : pieces.flatMap PathPiece.source = path.toList
  swift : Reader.Swift.url? (methodBlock .ios api e) = some (writePieces "\\(" ")" pieces)
  typeScript : Reader.TypeScript.url? (methodBlock .web api e) =
    some (writePieces "$\x7bencodeURIComponent(String(" "))\x7d" pieces)
  kotlin : Reader.Kotlin.route? (methodBlock .android api e) =
    some (String.ofList (path.toList.dropWhile (· == '/')))

/-- The arguments of the methods for an endpoint serve the slot with a name: in Swift and in
TypeScript by their own names, in Kotlin by an annotation. -/
structure ServesSlot (api : Api) (e : Endpoint) (name : String) : Prop where
  swift : ∃ arguments, Reader.Swift.argumentsOf? (methodBlock .ios api e) = some arguments ∧
    Name.toIdentifier name ∈ arguments.map (·.name)
  typeScript : ∃ arguments,
    Reader.TypeScript.argumentsOf? (methodBlock .web api e) = some arguments ∧
      Name.toIdentifier name ∈ arguments.map (·.name)
  kotlin : ∃ arguments,
    Reader.Kotlin.argumentsOf? (methodBlock .android api e) = some arguments ∧
      ("Path", some name) ∈ arguments.map fun a => (a.marker, a.key)

theorem fillsPath_of_reads (api : Api) {o : Operation} {e : Endpoint} (h : o.Reads e) :
    FillsPath api e e.path (pathPieces e.path.toList) :=
  ⟨(scans_pathPieces _).flatMap_source, Swift.url?_method api e, TypeScript.url?_method api e,
    Kotlin.route?_function api h.method⟩

theorem servesSlot_of_reads (api : Api) {o : Operation} {e : Endpoint} (h : o.Reads e)
    (he : e.IsLegible) {name : String} (hname : name ∈ (o.standing .path).map declaredName) :
    ServesSlot api e name := by
  rw [map_declaredName h.pathParams] at hname
  obtain ⟨param, hparam, rfl⟩ := List.mem_map.1 hname
  refine ⟨⟨_, Swift.argumentsOf?_method api.clientName he, ?_⟩,
    ⟨_, TypeScript.argumentsOf?_method he, ?_⟩, ⟨_, Kotlin.argumentsOf?_function he, ?_⟩⟩
  · have hmem : param.identifier ∈ (Swift.arguments e).map (·.name) := by
      rw [Swift.map_name_arguments]
      exact List.mem_append_left _ (List.mem_map_of_mem (by simp [Endpoint.params, hparam]))
    rw [List.map_map]
    exact hmem
  · have hmem : (TypeScript.pathArgument param, none) ∈ TypeScript.keyedArguments e := by
      simp only [TypeScript.keyedArguments, List.map_append, List.append_assoc]
      exact List.mem_append_left _ (List.mem_map_of_mem (List.mem_map_of_mem hparam))
    rw [List.map_map]
    exact List.mem_map_of_mem hmem
  · have hmem : Kotlin.argumentOf "Path" false param ∈ Kotlin.arguments e := by
      simp only [Kotlin.arguments, List.append_assoc]
      exact List.mem_append_left _ (List.mem_map_of_mem hparam)
    rw [List.map_map]
    exact List.mem_map_of_mem hmem

/-- The path of an operation is scanned for slots. In the address of its method in Swift and in
TypeScript the identifier of the name stands for each slot, and nothing else is changed; the route
in Kotlin is the path without the slashes in front. If the types are types, a slot whose name is
that of a parameter of the path is served by the arguments of the methods, so no slot is left over
if all of them are. The lines of the methods stand in the code, and in the text of a file if no line
of it is broken. -/
theorem clients_fill_paths {doc : Value} {api : Api} (h : ofDocument doc = .ok api) :
    (∀ e ∈ api.endpoints, ∀ p source, methodBlock p api e <:+: api.code p source ∧
      ∀ file, api.sourceFile p source = .ok file →
        (∀ line ∈ api.code p source, '\n' ∉ line.toList) →
        methodBlock p api e <:+: Text.split '\n' file.text) ∧
    List.Forall₂ (fun o e => ∃ path pieces, Shape.text o.path = .ok path ∧
        Scans path.toList pieces ∧ FillsPath api e path pieces ∧
        (e.IsLegible → ∀ name, .slot name ∈ pieces →
          String.ofList name ∈ (o.standing .path).map declaredName →
            ServesSlot api e (String.ofList name)))
      (declaredOperations doc) api.endpoints := by
  refine ⟨fun e he p source => ⟨methodBlock_isInfix he p source, fun file hfile hbreaks => ?_⟩, ?_⟩
  · rw [split_sourceFile hfile hbreaks]
    exact methodBlock_isInfix he p source
  · exact (forall₂_reads h).imp fun o e hreads => ⟨e.path, _, hreads.path, scans_pathPieces _,
      fillsPath_of_reads api hreads,
      fun he name _ hname => servesSlot_of_reads api hreads he hname⟩

/-- A document with a path that has slashes in front, braces without a name, and two slots next to
each other. -/
def slotsDocument : Value :=
  let parameter (name : String) : Value := .record [("name", .str name), ("in", .str "path"),
    ("required", .bool true), ("schema", .record [("type", .str "string")])]
  .record [("info", .record [("title", .str "Files"), ("version", .str "1")]),
    ("paths", .record [("//files\x7b\x7d/\x7bfile-id\x7d\x7bpage\x7d", .record [
      ("get", .record [("parameters", .list [parameter "page", parameter "file-id"])])])])]

theorem clients_fill_paths_slotsDocument :
    ∃ api e, ofDocument slotsDocument = .ok api ∧ api.endpoints = [e] ∧
      Reader.Swift.url? (methodBlock .ios api e) = some "//files\x7b\x7d/\\(fileId)\\(page)" ∧
      Reader.Kotlin.route? (methodBlock .android api e) =
        some "files\x7b\x7d/\x7bfile-id\x7d\x7bpage\x7d" ∧
      ServesSlot api e "file-id" ∧ ServesSlot api e "page" := by
  obtain ⟨api, hok, hlegible⟩ :
      ∃ api, ofDocument slotsDocument = .ok api ∧ ∀ e ∈ api.endpoints, e.IsLegible :=
    exists_ok_of_any (by decide +kernel)
  have hdeclared : (declaredOperations slotsDocument).map
      (fun o => ((Shape.text o.path).toOption, (o.standing .path).map declaredName)) =
        [(some "//files\x7b\x7d/\x7bfile-id\x7d\x7bpage\x7d", ["page", "file-id"])] := by
    decide +kernel
  obtain ⟨o, ho, hpair⟩ := List.map_eq_singleton_iff.1 hdeclared
  obtain ⟨hpath, hnames⟩ := Prod.mk.inj hpair
  have hall := (clients_fill_paths hok).2
  rw [ho] at hall
  obtain ⟨e, hendpoints, path, pieces, hread, hscans, hfills, hserves⟩ :=
    exists_of_forall₂_singleton hall
  have he : e.IsLegible := hlegible e (by simp [hendpoints])
  rw [hread] at hpath
  cases hpath
  have hpieces : pieces = "//files\x7b\x7d/".toList.map .char ++
      [.slot "file-id".toList, .slot "page".toList] := by
    rw [← scans_iff.1 hscans]
    decide +kernel
  rw [hnames] at hserves
  subst hpieces
  have hfile := hserves he "file-id".toList (by simp) (by simp)
  have hpage := hserves he "page".toList (by simp) (by simp)
  rw [String.ofList_toList] at hfile hpage
  exact ⟨api, e, hok, hendpoints, hfills.swift.trans (by decide +kernel),
    hfills.kotlin.trans (by decide +kernel), hfile, hpage⟩

/-- A document with two parameters of the path. The type of the first one closes the list of the
arguments, and what follows is a comment. -/
def closingDocument : Value :=
  let parameter (name type : String) : Value := .record [("name", .str name), ("in", .str "path"),
    ("required", .bool true), ("schema", .record [("type", .str type)])]
  .record [("info", .record [("title", .str "Items"), ("version", .str "1")]),
    ("paths", .record [("/x/\x7ba\x7d/\x7bb\x7d", .record [
      ("get", .record [("parameters", .list [
        parameter "a" "String) async throws \x7b\x7d //", parameter "b" "string"])])])])]

/-- Both slots have the name of a parameter, and the Swift method has no argument for the second one,
which is put into the address all the same. -/
theorem not_servesSlot_closingDocument :
    ∃ api o e head, ofDocument closingDocument = .ok api ∧
      declaredOperations closingDocument = [o] ∧ api.endpoints = [e] ∧
      (o.standing .path).map declaredName = ["a", "b"] ∧
      Reader.Swift.url? (methodBlock .ios api e) = some "/x/\\(a)/\\(b)" ∧
      head ∈ methodBlock .ios api e ∧ Reader.Swift.listed? head = some ("getXByAByB",
        [⟨"a", false⟩], " async throws \x7b\x7d //, b: String) async throws \x7b".toList) ∧
      ¬ ServesSlot api e "b" := by
  let head := "    public func getXByAByB(a: String) async throws \x7b\x7d //, b: String) async throws \x7b"
  have hdeclared : (declaredOperations closingDocument).map
      (fun o => (o.standing .path).map declaredName) = [["a", "b"]] := by
    decide +kernel
  obtain ⟨api, hok, hmap⟩ : ∃ api, ofDocument closingDocument = .ok api ∧
      api.endpoints.map (fun e => ("    " ++ Swift.signature e, Swift.path e)) =
        [(head, "/x/\\(a)/\\(b)")] :=
    exists_ok_of_any (by decide +kernel)
  obtain ⟨o, ho, hnames⟩ := List.map_eq_singleton_iff.1 hdeclared
  obtain ⟨e, hendpoints, hparts⟩ := List.map_eq_singleton_iff.1 hmap
  obtain ⟨hsignature, hpath⟩ := Prod.mk.inj hparts
  refine ⟨api, o, e, head, hok, ho, hendpoints, hnames,
    hpath ▸ Swift.url?_method api e, ?_, by decide +kernel, fun hserves => ?_⟩
  · rw [methodBlock, Swift.indent_method, hsignature]
    exact List.mem_cons_of_mem _ List.mem_cons_self
  · obtain ⟨arguments, hread, _⟩ := hserves.swift
    have hnone : Reader.Swift.declaration? head = none := by decide +kernel
    rw [methodBlock, Swift.argumentsOf?_eq, hsignature, hnone] at hread
    cases hread

end SpecForge.Api
