import SpecForge.Proofs.Api.Reader
import SpecForge.Proofs.Lines

/-!
# Declarations in Swift

A reader for declarations with a body: each is found by the words that it begins with, and goes on
up to the line that closes it. An initializer is read further, as the parameters that it takes and
the assignments that it makes.

The reader works on lines, and knows nothing of how these come about.
-/

namespace SpecForge.Lines

open Model.Reader Api.Reader Text

/-- The declarations that begin with a keyword: the first line of each, and what is in it. -/
def declarations (keyword closing : String) (lines : Lines) : List (String × Lines) :=
  (methods keyword (· == closing) "" lines).map fun m => (m.head, m.below)

/-- An initializer as it stands in the code. -/
structure Initializer where
  parameters : List String
  assignments : Lines
deriving DecidableEq

/-- The parameters and the assignments of an initializer. -/
def initializer? (below : Lines) : Option Initializer := do
  return ⟨← parameters? (below.takeWhile (· != "    ) \x7b")),
    (below.dropWhile (· != "    ) \x7b")).drop 1⟩

/-- The initializers in some lines. -/
def initializers? (lines : Lines) : Option (List Initializer) :=
  (declarations "    public init(" "    \x7d" lines).mapM fun d => initializer? d.2

/-! ### Lines with a keyword -/

section Without

variable {keyword closing line : String} {lines : Lines}

theorem filter_begins_eq_nil (h : Without keyword lines) : lines.filter (begins keyword) = [] := by
  rw [List.filter_eq_nil_iff]
  intro line hl
  rw [h line hl]
  decide

theorem not_mem_of_without (h : Without keyword lines) (hline : begins keyword line = true) :
    line ∉ lines := by
  intro hmem
  rw [h line hmem] at hline
  cases hline

/-- What is read of a method does not depend on the line above it. -/
theorem map_methods_eq_declarations (keyword closing above : String) (lines : Lines) :
    (methods keyword (· == closing) above lines).map (fun m => (m.head, m.below)) =
      declarations keyword closing lines := by
  rw [declarations]
  cases lines with
  | nil => rfl
  | cons line rest =>
      rw [methods, methods]
      split
      · rfl
      · rfl

theorem declarations_append {front : Lines} (h : Without keyword front) (closing : String)
    (rest : Lines) :
    declarations keyword closing (front ++ rest) = declarations keyword closing rest := by
  obtain ⟨last, hlast⟩ := methods_append h (· == closing) "" rest
  rw [declarations, hlast, map_methods_eq_declarations]

theorem declarations_eq_nil (h : Without keyword lines) (closing : String) :
    declarations keyword closing lines = [] := by
  rw [declarations, methods_eq_nil h, List.map_nil]

/-- There are as many declarations as lines that begin with the keyword. -/
theorem length_declarations (keyword closing : String) (lines : Lines) :
    (declarations keyword closing lines).length = lines.countP (begins keyword) := by
  rw [declarations, List.length_map, length_methods]

/-- The first declaration in some lines, with what is in it. -/
theorem declarations_cons {head : String} {body : Lines} (hhead : begins keyword head = true)
    (hbody : Without keyword (body ++ [closing])) (hclose : closing ∉ body) (rest : Lines) :
    declarations keyword closing (head :: (body ++ closing :: rest)) =
      (head, body) :: declarations keyword closing rest := by
  have hbelow : (body ++ closing :: rest).takeWhile (fun line => !(line == closing)) = body :=
    takeWhile_ne_append hclose rest
  have hrest : body ++ closing :: rest = (body ++ [closing]) ++ rest := by
    rw [List.append_assoc, List.singleton_append]
  rw [declarations, methods, if_pos hhead, hbelow, List.map_cons, map_methods_eq_declarations,
    hrest, declarations_append hbody]

/-- Where every item has lines with one declaration, there are no other declarations. -/
theorem declarations_flatMap {α : Type} {front body back : α → Lines} {head : α → String}
    (hfront : ∀ a, Without keyword (front a)) (hhead : ∀ a, begins keyword (head a) = true)
    (hbody : ∀ a, Without keyword (body a ++ [closing])) (hclose : ∀ a, closing ∉ body a)
    (hback : ∀ a, Without keyword (back a)) (items : List α) (rest : Lines) :
    declarations keyword closing
        (items.flatMap (fun a => front a ++ head a :: (body a ++ closing :: back a)) ++ rest) =
      items.map (fun a => (head a, body a)) ++ declarations keyword closing rest := by
  induction items with
  | nil => rfl
  | cons a items ih =>
      have hlines : front a ++ head a :: (body a ++ closing :: back a) ++
          (items.flatMap (fun a => front a ++ head a :: (body a ++ closing :: back a)) ++ rest) =
        front a ++ head a :: (body a ++ closing :: (back a ++
          (items.flatMap (fun a => front a ++ head a :: (body a ++ closing :: back a)) ++
            rest))) := by
        simp
      rw [List.flatMap_cons, List.append_assoc, hlines, declarations_append (hfront a),
        declarations_cons (hhead a) (hbody a) (hclose a), declarations_append (hback a), ih]
      rfl

end Without

/-! ### Initializers -/

/-- An initializer as it is printed, without the line that closes it. -/
def Initializer.lines (i : Initializer) : Lines :=
  (commaSeparated i.parameters).map (fun line => "        " ++ line) ++
    "    ) \x7b" :: i.assignments

/-- All assignments stand to the right of the lines around them. -/
def Initializer.IsIndented (i : Initializer) : Prop :=
  ∀ line ∈ i.assignments, ∃ rest, line = "        " ++ rest

theorem mem_parameters {params : List String} {line : String}
    (h : line ∈ (commaSeparated params).map fun line => "        " ++ line) :
    ∃ rest, line = "        " ++ rest := by
  obtain ⟨other, _, rfl⟩ := List.mem_map.1 h
  exact ⟨other, rfl⟩

theorem initializer?_lines (i : Initializer) : initializer? i.lines = some i := by
  have hbrace : "    ) \x7b" ∉
      (commaSeparated i.parameters).map fun line => "        " ++ line := by
    intro hmem
    obtain ⟨rest, hrest⟩ := mem_parameters hmem
    simp [← String.toList_inj] at hrest
  rw [initializer?, Initializer.lines, takeWhile_ne_append hbrace, dropWhile_ne_append hbrace,
    parameters?_commaSeparated]
  rfl

/-- What stands in an initializer. -/
theorem Initializer.IsIndented.of_mem_lines {i : Initializer} (h : i.IsIndented) {line : String}
    (hl : line ∈ i.lines) : line = "    ) \x7b" ∨ ∃ rest, line = "        " ++ rest := by
  rw [Initializer.lines, List.mem_append, List.mem_cons] at hl
  rcases hl with hl | rfl | hl
  · exact .inr (mem_parameters hl)
  · exact .inl rfl
  · exact .inr (h line hl)

/-- An initializer in its place in a type. -/
theorem indent_initializer (params assigned : Lines) :
    indent (["public init("] ++ (commaSeparated params).map (fun line => "    " ++ line) ++
      [") \x7b"] ++ assigned ++ ["\x7d"]) 1 =
        "    public init(" ::
          ((⟨params, indent assigned 1⟩ : Initializer).lines ++ ["    \x7d"]) := by
  have hparams : indent ((commaSeparated params).map fun line => "    " ++ line) 1 =
      (commaSeparated params).map fun line => "        " ++ line := by
    rw [indent_eq_map, List.map_map]
    · refine List.map_congr_left fun line _ => ?_
      simp [← String.toList_inj]
    · intro line hl
      obtain ⟨other, _, rfl⟩ := List.mem_map.1 hl
      simp [← String.toList_inj]
  have hopen : indent ["public init("] 1 = ["    public init("] := rfl
  have hbrace : indent [") \x7b"] 1 = ["    ) \x7b"] := rfl
  have hclose : indent ["\x7d"] 1 = ["    \x7d"] := rfl
  simp only [indent_append, hparams, hopen, hbrace, hclose]
  simp [Initializer.lines]

theorem isIndented_indent (params : List String) {assigned : Lines}
    (h : ∀ line ∈ assigned, ∃ rest, line = "    " ++ rest) :
    (⟨params, indent assigned 1⟩ : Initializer).IsIndented := by
  intro line hl
  obtain ⟨other, ho, rfl⟩ := List.mem_map.1 hl
  obtain ⟨rest, rfl⟩ := h other ho
  refine ⟨rest, ?_⟩
  rw [if_neg (by simp [← String.toList_inj, String.isEmpty_iff])]
  simp [indentation, ← String.toList_inj]

/-- The first initializer in some lines. -/
theorem initializers?_cons {front : Lines} (hfront : Without "    public init(" front)
    {i : Initializer} (h : i.IsIndented) (rest : Lines) :
    initializers? (front ++ ("    public init(" :: (i.lines ++ ["    \x7d"]) ++ rest)) =
      (initializers? rest).map (i :: ·) := by
  have hbody : Without "    public init(" (i.lines ++ ["    \x7d"]) := by
    intro line hl
    rw [List.mem_append, List.mem_singleton] at hl
    rcases hl with hl | rfl
    · rcases h.of_mem_lines hl with rfl | ⟨text, rfl⟩ <;> simp [begins, after?]
    · decide
  have hclose : "    \x7d" ∉ i.lines := by
    intro hl
    rcases h.of_mem_lines hl with hbrace | ⟨text, htext⟩
    · exact absurd hbrace (by decide)
    · simp [← String.toList_inj] at htext
  have hhead : begins "    public init(" "    public init(" = true := by decide
  rw [initializers?, declarations_append hfront, List.cons_append, List.append_assoc,
    List.singleton_append, declarations_cons hhead hbody hclose, List.mapM_cons,
    initializer?_lines, initializers?]
  cases (declarations "    public init(" "    \x7d" rest).mapM fun d => initializer? d.2 <;> rfl

/-- There are as many initializers as lines that open one. -/
theorem length_initializers? {lines : Lines} {found : List Initializer}
    (h : initializers? lines = some found) :
    found.length = lines.countP (begins "    public init(") := by
  rw [← length_declarations _ "    \x7d"]
  rw [initializers?] at h
  generalize declarations "    public init(" "    \x7d" lines = printed at h ⊢
  induction printed generalizing found with
  | nil =>
      cases h
      rfl
  | cons d printed ih =>
      rw [List.mapM_cons, Option.bind_eq_bind, Option.bind_eq_some_iff] at h
      obtain ⟨first, _, h⟩ := h
      rw [Option.bind_eq_bind, Option.bind_eq_some_iff] at h
      obtain ⟨rest, hrest, h⟩ := h
      cases h
      rw [List.length_cons, List.length_cons, ih hrest]

theorem initializers?_eq_nil {lines : Lines} (h : Without "    public init(" lines) :
    initializers? lines = some [] := by
  rw [initializers?, declarations_eq_nil h]
  rfl

end SpecForge.Lines
