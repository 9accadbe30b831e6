import SpecForge.Proofs.Theme.Reader

/-!
# The names in Swift themes

Each group is an enumeration with one constant for each token. A comment above a constant, and the
enumeration with the type scale, do not disturb the reading.
-/

namespace SpecForge.Theme.Swift

open Model.Reader Text

/-- A constant for the token with a name, perhaps with a comment above it. -/
def Constant.IsFor (c : Constant) (name : String) : Prop :=
  c.name = Name.toIdentifier name ∧ ∃ text, c.doc = Lines.docComment .slashes text

/-- The block of a group. -/
def block (g : Group) (constants : List Constant) : Lines.Block where
  before := []
  above := ["    // MARK: - " ++ g.heading]
  head := g.head .ios
  body := Lines.indent (constants.flatMap Constant.lines) 2
  closing := "    \x7d"
  below := [""]

theorem lines_nonEmptySection (g : Group) (constants : List Constant) :
    (nonEmptySection g.heading constants).flatMap Section.lines = (block g constants).lines := by
  have hbody : (block g constants).body = [] ↔ constants = [] := by
    cases constants with
    | nil => exact iff_of_true rfl rfl
    | cons c constants => simp [block, Constant.lines, Lines.indent, Lines.shifted]
  rw [nonEmptySection, Lines.Block.lines]
  by_cases h : constants = []
  · rw [if_pos (List.isEmpty_iff.2 h), if_pos (hbody.2 h)]
    rfl
  · rw [if_neg (by simpa using h), if_neg (mt hbody.1 h)]
    simp [Section.lines, block, Group.head_ios, toString]

/-- The line that declares a constant. -/
theorem exists_declaration (c : Constant) : ∃ rest : String,
    (∀ d ∈ rest.toList.head?, (d == ':' || d == ' ') = true) ∧
      Lines.indent c.lines 2 =
        Lines.indent c.doc 2 ++ ["        public static let " ++ c.name ++ rest] := by
  let typeMark := c.type.elim "" fun type => s!": {type}"
  refine ⟨typeMark ++ (" = " ++ c.value), ?_, ?_⟩
  · cases htype : c.type with
    | none => simp [typeMark, htype]
    | some type => simp [typeMark, htype, toString]
  · have hline : s!"public static let {c.name}{typeMark} = {c.value}" ≠ "" := by
      simp [toString]
    have hlines : c.lines = c.doc ++ [s!"public static let {c.name}{typeMark} = {c.value}"] := by
      rw [Constant.lines]
      cases htype : c.type with
      | none => simp [typeMark, htype]
      | some type => simp [typeMark, htype]
    rw [hlines, Lines.indent_append, Lines.indent_two_singleton hline]
    simp [← String.toList_inj, toString]

/-- In the lines of a constant its name is read, and no other. -/
theorem name?_lines {c : Constant} {name : String} (h : c.IsFor name) :
    (Lines.indent c.lines 2).filterMap Reader.Swift.name? = [Name.toIdentifier name] := by
  obtain ⟨hname, text, hdoc⟩ := h
  have hcomment : (Lines.indent c.doc 2).filterMap Reader.Swift.name? = [] := by
    rw [hdoc]
    rcases Lines.docComment_eq .slashes text with hnil | ⟨rest, hline⟩
    · rw [hnil]
      rfl
    · rw [hline]
      simp [Lines.indent, Lines.shifted, Lines.CommentStyle.slashes, Lines.CommentStyle.opening,
        Lines.indentation, Reader.Swift.name?, named?, after?]
  have hword : ∀ d ∈ c.name.toList, (d == ':' || d == ' ') = false := by
    rw [hname]
    intro d hd
    have hd := Name.allWord_toIdentifier name d hd
    rw [Bool.or_eq_false_iff, beq_eq_false_iff_ne, beq_eq_false_iff_ne]
    constructor
    · rintro rfl
      exact absurd hd (by decide)
    · rintro rfl
      exact absurd hd (by decide)
  obtain ⟨rest, hstop, hlines⟩ := exists_declaration c
  have hread := named?_append "        public static let " hword hstop
  rw [hlines, List.filterMap_append, hcomment, List.filterMap_cons, Reader.Swift.name?, hread,
    ← hname]
  rfl

/-- The constants of a group are read by their names. -/
theorem declares_block {g : Group} {names : List String} {constants : List Constant}
    (h : List.Forall₂ (fun name c => c.IsFor name) names constants) :
    Declares .ios g (block g constants).body names := by
  rw [block, Lines.indent_flatMap]
  exact declares_flatMap name?_lines h

theorem isBlock {g : Group} {names : List String} {constants : List Constant}
    (h : List.Forall₂ (fun name c => c.IsFor name) names constants) :
    IsBlock .ios g names (block g constants) where
  head := rfl
  closing := rfl
  declares := declares_block h
  closed := by
    have hclose : "    \x7d" ∉ (block g constants).body :=
      not_mem_shifted "        " _ (by decide) (by decide)
    exact hclose
  lacks other := by
    have hbody : other.head .ios ∉ (block g constants).body :=
      not_mem_shifted "        " _ (by simp [Group.head_ios])
        (by simp [Group.head_ios, begins, after?])
    have habove : other.head .ios ≠ "    // MARK: - " ++ g.heading := by
      simp [Group.head_ios, ← String.toList_inj]
    simp only [Lines.Block.Lacks, List.mem_append, List.mem_cons, not_or]
    refine ⟨⟨⟨by simp [block], ?_⟩, hbody⟩, ?_⟩
    · simpa [block] using habove
    · simp [block, Group.head_ios, ← String.toList_inj]

/-! ### The file -/

theorem isFor_colorConstant (t : ValueToken) : (colorConstant t).IsFor t.name :=
  ⟨rfl, t.description, rfl⟩

theorem isFor_shadowConstant (t : ValueToken) : (shadowConstant t).IsFor t.name :=
  ⟨rfl, t.description, rfl⟩

theorem isFor_familyConstant (t : FontFamily) : (familyConstant t).IsFor t.name :=
  ⟨rfl, none, rfl⟩

theorem isFor_dimensionConstant {t : DimensionToken} {c : Constant}
    (h : dimensionConstant t = .ok c) : c.IsFor t.name := by
  obtain ⟨text, _, h⟩ := bind_eq_ok_iff.1 h
  cases h
  exact ⟨rfl, none, rfl⟩

theorem isFor_weightConstant {t : FontWeight} {c : Constant} (h : weightConstant t = .ok c) :
    c.IsFor t.name := by
  obtain ⟨text, _, h⟩ := bind_eq_ok_iff.1 h
  cases h
  exact ⟨rfl, none, rfl⟩

/-- The lines up to the blocks. -/
def opening (theme : Theme) (source : String) : Lines :=
  Lines.header source ++
    ["import SwiftUI",
      "",
      s!"/// Design system theme generated from {source}",
      s!"public enum {theme.name} \x7b",
      ""]

/-- The lines behind the blocks: the type scale and the end of the theme. -/
def ending (theme : Theme) : Lines :=
  (nonEmptySection "Typography" (theme.typeScale.map scaleConstant)).flatMap Section.lines ++
    ["\x7d", ""]

/-- A file consists of a block for each group, with constants for the tokens of the group. -/
theorem exists_blocks {theme : Theme} {source : String} {lines : Lines}
    (h : file theme source = .ok lines) : ∃ constants : Group → List Constant,
      (∀ g, List.Forall₂ (fun name c => c.IsFor name) (g.names theme) (constants g)) ∧
      lines = opening theme source ++
        (Group.all.flatMap (fun g => (block g (constants g)).lines) ++ ending theme) := by
  obtain ⟨parts, hparts, h⟩ := bind_eq_ok_iff.1 h
  cases h
  obtain ⟨sizes, hsizes, hparts⟩ := bind_eq_ok_iff.1 hparts
  obtain ⟨weights, hweights, hparts⟩ := bind_eq_ok_iff.1 hparts
  obtain ⟨heights, hheights, hparts⟩ := bind_eq_ok_iff.1 hparts
  obtain ⟨distances, hdistances, hparts⟩ := bind_eq_ok_iff.1 hparts
  obtain ⟨spacing, hspacing, hparts⟩ := bind_eq_ok_iff.1 hparts
  obtain ⟨radii, hradii, hparts⟩ := bind_eq_ok_iff.1 hparts
  obtain ⟨breakpoints, hbreakpoints, hparts⟩ := bind_eq_ok_iff.1 hparts
  cases hparts
  let constants : Group → List Constant := Group.choose (theme.colors.map colorConstant)
    (theme.typography.fontFamilies.map familyConstant) sizes weights heights distances spacing radii
    (theme.shadows.map shadowConstant) breakpoints
  refine ⟨constants, fun g => ?_, ?_⟩
  · cases g with
    | colors => exact forall₂_names_of_map isFor_colorConstant theme.colors
    | fontFamilies => exact forall₂_names_of_map isFor_familyConstant theme.typography.fontFamilies
    | fontSizes => exact forall₂_names_of_mapM (fun _ _ => isFor_dimensionConstant) hsizes
    | fontWeights => exact forall₂_names_of_mapM (fun _ _ => isFor_weightConstant) hweights
    | lineHeights => exact forall₂_names_of_mapM (fun _ _ => isFor_dimensionConstant) hheights
    | letterSpacing => exact forall₂_names_of_mapM (fun _ _ => isFor_dimensionConstant) hdistances
    | spacing => exact forall₂_names_of_mapM (fun _ _ => isFor_dimensionConstant) hspacing
    | borderRadius => exact forall₂_names_of_mapM (fun _ _ => isFor_dimensionConstant) hradii
    | shadows => exact forall₂_names_of_map isFor_shadowConstant theme.shadows
    | breakpoints => exact forall₂_names_of_mapM (fun _ _ => isFor_dimensionConstant) hbreakpoints
  · simp only [Group.all, List.flatMap_cons, List.flatMap_nil, List.append_nil,
      ← lines_nonEmptySection, opening, ending, List.flatMap_append, List.append_assoc]
    rfl

theorem head_not_mem_opening (theme : Theme) (source : String) (g : Group) :
    g.head .ios ∉ opening theme source := by
  simp [opening, Lines.header, Lines.provenance, Group.head_ios, ← String.toList_inj, toString]

/-- The type scale is no group. -/
theorem head_not_mem_ending (theme : Theme) (g : Group) : g.head .ios ∉ ending theme := by
  have hbody : g.head .ios ∉
      Lines.indent ((theme.typeScale.map scaleConstant).flatMap Constant.lines) 2 :=
    not_mem_shifted "        " _ (by simp [Group.head_ios])
      (by simp [Group.head_ios, begins, after?])
  have hmark : g.head .ios ≠ "    // MARK: - Typography" := by
    simp [Group.head_ios, ← String.toList_inj]
  have hscale : g.head .ios ≠ "    public enum Typography \x7b" := by
    cases g <;> decide
  have hclose : g.head .ios ∉ ["    \x7d", ""] := by
    simp [Group.head_ios, ← String.toList_inj]
  have hend : g.head .ios ∉ ["\x7d", ""] := by
    simp [Group.head_ios, ← String.toList_inj]
  rw [ending, nonEmptySection]
  split
  · exact hend
  · simp only [List.flatMap_singleton, Section.lines, List.mem_append, not_or]
    refine ⟨⟨⟨?_, hbody⟩, hclose⟩, hend⟩
    simpa [toString] using ⟨hmark, hscale⟩

/-- The names of the constants in the enumeration of each group. -/
theorem names_file {theme : Theme} {source : String} {lines : Lines}
    (h : file theme source = .ok lines) (g : Group) :
    Reader.names .ios g lines = (g.names theme).map (calledOn .ios) := by
  obtain ⟨constants, hconstants, rfl⟩ := exists_blocks h
  exact names_of_isBlock (fun g => isBlock (hconstants g)) (head_not_mem_opening theme source)
    (head_not_mem_ending theme) g

end SpecForge.Theme.Swift
