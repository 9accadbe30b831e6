import SpecForge.Proofs.Api.Client
import SpecForge.Proofs.Api.Printed
import SpecForge.Proofs.Text.Split

/-!
# The comment above a method

In a Swift client a comment above each method says what the endpoint does. It is meant to be one
line, but the text is put into it as the document has it, and a line break in the text ends the
comment. The lines in front of a method are comments exactly if what stands behind each line break
of the text is one again.
-/

namespace SpecForge

open Text

/-- A line in which only a comment behind three slashes stands. -/
def Lines.isRemark (line : List Char) : Bool :=
  (after? "///".toList (line.dropWhile (· == ' '))).isSome

/-- Lines that are followed by others in a text have the same lines in it as alone. -/
theorem Lines.lines_joined_append (b : LineBreaks) (front : Lines) {back : Lines} (h : back ≠ []) :
    b.lines (front ++ back).joined.toList =
      front.flatMap (fun line => b.ended line.toList) ++ b.lines back.joined.toList := by
  induction front with
  | nil => rfl
  | cons line front ih =>
      have hne : front ++ back ≠ [] := List.append_ne_nil_of_right_ne_nil front h
      have hjoined : (joined (line :: (front ++ back))).toList =
          line.toList ++ '\n' :: (joined (front ++ back)).toList := by
        rw [joined, String.intercalate_cons_of_ne_nil hne]
        simp [joined]
      rw [List.cons_append, hjoined, LineBreaks.lines_append, ih, List.flatMap_cons,
        List.append_assoc]

theorem Lines.exists_joined_cons (line : String) (back : Lines) :
    ∃ rest, joined (line :: back) = line ++ rest := by
  cases back with
  | nil => exact ⟨"", by simp [joined]⟩
  | cons next back =>
      refine ⟨"\n" ++ joined (next :: back), ?_⟩
      rw [joined, String.intercalate_cons_cons, joined, String.append_assoc]

namespace Api.Swift

/-- The comment above the method of an endpoint. -/
def remark (e : Endpoint) : String := "    /// " ++ e.headline

/-- The file of a client is the code before a method, the comment above it, its declaration, and the
code behind that. -/
theorem exists_code_eq {api : Api} {e : Endpoint} (he : e ∈ api.endpoints) (source : String) :
    ∃ front back, api.code .ios source = front ++ remark e :: ("    " ++ signature e) :: back := by
  obtain ⟨front, back, hcode⟩ := methodBlock_isInfix he .ios source
  have hremark : "    " ++ s!"/// {e.headline}" = remark e := by
    simp [← String.toList_inj, remark, toString]
  rw [methodBlock, indent_method, hremark] at hcode
  refine ⟨front,
    Lines.indent (Lines.indent (statements api.clientName e) 1) 1 ++ ["    \x7d"] ++ back, ?_⟩
  rw [← hcode, List.append_assoc]
  rfl

theorem unbroken_methodName (e : Endpoint) (b : LineBreaks) :
    b.Unbroken ("    public func " ++ e.methodName ++ "(").toList := by
  refine LineBreaks.unbroken_of_not_isLineSeparator fun c hc => ?_
  rw [String.toList_append, String.toList_append, List.mem_append, List.mem_append] at hc
  rcases hc with (hc | hc) | hc
  · have hfront : ∀ c ∈ "    public func ".toList, isLineSeparator c = false :=
      List.all_iff_forall_prop.1 (by decide)
    exact hfront c hc
  · refine Name.forall_isWordChar (P := fun c => isLineSeparator c = false) ?_
      (e.allWord_methodName c hc)
    decide
  · rw [List.mem_singleton.1 hc]
    rfl

/-- The lines of a client are those before a method, those of the comment above it, and those from
its declaration on. -/
theorem exists_lines_eq {api : Api} {e : Endpoint} (he : e ∈ api.endpoints) {source : String}
    {file : SourceFile} (hfile : api.sourceFile .ios source = .ok file) (b : LineBreaks) :
    ∃ front first later, b.lines file.text.toList =
        front ++ b.ended (remark e).toList ++ first :: later ∧
      ("    public func " ++ e.methodName ++ "(").toList <+: first := by
  obtain ⟨front, back, hcode⟩ := exists_code_eq he source
  obtain ⟨rest, hrest⟩ := Lines.exists_joined_cons ("    " ++ signature e) back
  have hdeclaration : (Lines.joined (("    " ++ signature e) :: back)).toList =
      ("    public func " ++ e.methodName ++ "(").toList ++
        (", ".intercalate ((arguments e).map Argument.text) ++
          (")" ++ (" async throws" ++ (returns e ++ " \x7b"))) ++ rest).toList := by
    rw [hrest, signature_eq]
    simp
  obtain ⟨first, later, hfirst, hprefix⟩ :=
    LineBreaks.exists_lines_append (unbroken_methodName e b) _
  refine ⟨front.flatMap fun line => b.ended line.toList, first, later, ?_, hprefix⟩
  rw [text_of_sourceFile hfile, hcode, Lines.lines_joined_append b front (List.cons_ne_nil _ _),
    ← List.singleton_append, Lines.lines_joined_append b [remark e] (List.cons_ne_nil _ _),
    hdeclaration, hfirst, List.flatMap_singleton, List.append_assoc]

/-- The lines of a client between the code before a method and the declaration of the method are
those of the comment above it. Each of them is a comment exactly if this goes for all lines of the
text that the comment is made of but the first. In a text without a line break there is one line
only. -/
theorem remarks_iff {api : Api} {e : Endpoint} (he : e ∈ api.endpoints) {source : String}
    {file : SourceFile} (hfile : api.sourceFile .ios source = .ok file) (b : LineBreaks) :
    ∃ front remarks first later, b.lines file.text.toList = front ++ remarks ++ first :: later ∧
      remarks = b.ended (remark e).toList ∧
      ("    public func " ++ e.methodName ++ "(").toList <+: first ∧
      ((∀ line ∈ remarks, Lines.isRemark line = true) ↔
        ∀ line ∈ (b.ended e.headline.toList).tail, Lines.isRemark line = true) ∧
      (b.Unbroken e.headline.toList → remarks = [(remark e).toList]) := by
  obtain ⟨front, first, later, hlines, hfirst⟩ := exists_lines_eq he hfile b
  have hopening : b.Unbroken "    /// ".toList :=
    LineBreaks.unbroken_of_not_isLineSeparator (List.all_iff_forall_prop.1 (by decide))
  obtain ⟨line, others, hheadline, hremark⟩ :=
    LineBreaks.exists_ended_append hopening e.headline.toList
  rw [← String.toList_append] at hremark
  refine ⟨front, _, first, later, hlines, rfl, hfirst, ?_, fun hunbroken => ?_⟩
  · rw [remark, hremark, hheadline, List.tail_cons, List.forall_mem_cons]
    exact and_iff_right rfl
  · rw [LineBreaks.ended_of_unbroken hunbroken] at hheadline
    cases hheadline
    rw [remark, hremark, String.toList_append]

/-- The first endpoint of a document and the file of its client, by what the document becomes. -/
theorem exists_of_head? (doc : Value) (source headline name : String)
    (h : (ofDocument doc).toOption.map (fun api =>
        (api.endpoints.head?.map fun e => (e.headline, e.methodName),
          (api.sourceFile .ios source).toOption.isSome)) = some (some (headline, name), true)) :
    ∃ api e file, ofDocument doc = .ok api ∧ e ∈ api.endpoints ∧
      api.sourceFile .ios source = .ok file ∧ e.headline = headline ∧ e.methodName = name := by
  obtain ⟨api, hapi, h⟩ := Option.map_eq_some_iff.1 h
  obtain ⟨hhead, hfile⟩ := Prod.mk.inj h
  obtain ⟨e, he, hnames⟩ := Option.map_eq_some_iff.1 hhead
  obtain ⟨hheadline, hname⟩ := Prod.mk.inj hnames
  obtain ⟨file, hfile⟩ := Option.isSome_iff_exists.1 hfile
  exact ⟨api, e, file, eq_ok_of_toOption hapi, List.mem_of_head? he, eq_ok_of_toOption hfile,
    hheadline, hname⟩

theorem remarks_ordersDocument : ∃ api e file, ofDocument ordersDocument = .ok api ∧
    e ∈ api.endpoints ∧ api.sourceFile .ios "orders.json" = .ok file ∧
    ∃ front first later, LineBreaks.all.lines file.text.toList =
      front ++ ["    /// GET /orders/\x7bid\x7d".toList] ++ first :: later := by
  obtain ⟨api, e, file, hapi, he, hfile, hheadline, -⟩ := exists_of_head? ordersDocument
    "orders.json" "GET /orders/\x7bid\x7d" "getOrdersById" (by decide +kernel)
  obtain ⟨front, remarks, first, later, hlines, _, _, _, hunbroken⟩ :=
    remarks_iff he hfile LineBreaks.all
  rw [hheadline] at hunbroken
  rw [hunbroken (by decide), remark, hheadline] at hlines
  exact ⟨api, e, file, hapi, he, hfile, front, first, later, hlines⟩

/-- A summary of two lines. -/
def longSummary : String := "Lists the orders.\nNewest first."

/-- A document whose operation has a summary of two lines. -/
def summaryDocument : Value :=
  .record [("info", .record [("title", .str "Orders"), ("version", .str "1")]),
    ("paths", .record [("/orders", .record [("get", .record [
      ("operationId", .str "getOrders"), ("summary", .str longSummary)])])])]

/-- The second line of the summary stands in front of the method, but in no comment. -/
theorem not_remarks_summaryDocument : ∃ api e file, ofDocument summaryDocument = .ok api ∧
    e ∈ api.endpoints ∧ api.sourceFile .ios "orders.json" = .ok file ∧ ∀ b : LineBreaks,
      ∃ front first later, b.lines file.text.toList =
          front ++ ["    /// Lists the orders.".toList, "Newest first.".toList] ++ first :: later ∧
        "    public func getOrders(".toList <+: first ∧
        Lines.isRemark "Newest first.".toList = false := by
  obtain ⟨api, e, file, hapi, he, hfile, hheadline, hname⟩ := exists_of_head? summaryDocument
    "orders.json" longSummary "getOrders" (by decide +kernel)
  refine ⟨api, e, file, hapi, he, hfile, fun b => ?_⟩
  obtain ⟨front, first, later, hlines, hfirst⟩ := exists_lines_eq he hfile b
  have hremark : b.ended (remark e).toList =
      ["    /// Lists the orders.".toList, "Newest first.".toList] := by
    have hbroken : (remark e).toList =
        "    /// Lists the orders.".toList ++ '\n' :: "Newest first.".toList := by
      rw [remark, hheadline]
      decide
    have hline : b.Unbroken "    /// Lists the orders.".toList :=
      LineBreaks.unbroken_of_not_isLineSeparator (List.all_iff_forall_prop.1 (by decide))
    have hnext : b.Unbroken "Newest first.".toList :=
      LineBreaks.unbroken_of_not_isLineSeparator (List.all_iff_forall_prop.1 (by decide))
    rw [hbroken, LineBreaks.ended_append, LineBreaks.ended_of_unbroken hline,
      LineBreaks.ended_of_unbroken hnext]
    rfl
  rw [hremark] at hlines
  rw [hname] at hfirst
  exact ⟨front, first, later, hlines, hfirst, rfl⟩

end Api.Swift

end SpecForge
