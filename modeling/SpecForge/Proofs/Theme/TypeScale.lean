import SpecForge.Proofs.Api.Kotlin
import SpecForge.Proofs.Theme.Names

/-!
# The type scale of a theme

The names of the type scale are fixed. A theme in Swift or Kotlin has an entry for each name that a
font size has as well, letter case aside, and the entry refers to the constant of this size. Where
several sizes compete for an entry the last one wins, and as all sizes are declared in any case, no
entry refers to something that is missing.
-/

namespace SpecForge.Theme

open Model.Reader Text

namespace Reader

/-- The entry of a type scale in a line: its name, and the constant that it refers to. -/
def scaleItem? (keyword reference line : String) : Option (String × String) := do
  let (name, rest) ← named? keyword (· == ' ') line
  let (constant, rest) ← named? reference (· == ')') (String.ofList rest)
  let _ ← after? [')'] rest
  return (name, constant)

/-- The entries of the type scale in the code of a theme with a name, if all lines of the type scale
are entries. The style sheets of TypeScript have no type scale. -/
def scale? (p : Platform) (theme : String) (lines : Lines) : Option (List (String × String)) :=
  match p with
  | .ios =>
    (lines.inside "    public enum Typography \x7b" "    \x7d").mapM
      (scaleItem? "        public static let " " = Font.system(size: FontSizes.")
  | .android =>
    (lines.inside ("val " ++ theme ++ "Typography = Typography(") ")").mapM
      (scaleItem? "    " (" = TextStyle(fontSize = " ++ theme ++ ".FontSizes."))
  | .web => none

end Reader

/-! ### The sizes of the scale -/

/-- The font size at a place is the last one with a name, letter case aside. -/
structure IsLastNamed (name : String) (sizes : List DimensionToken) (place : Nat)
    (size : DimensionToken) : Prop where
  here : sizes[place]? = some size
  named : Text.lower size.name = Text.lower name
  last : ∀ other ∈ sizes.drop (place + 1), Text.lower other.name ≠ Text.lower name

theorem exists_of_sizeNamed? {sizes : List DimensionToken} {name : String} {size : DimensionToken}
    (h : sizeNamed? sizes name = some size) :
    ∃ place, IsLastNamed name sizes place size := by
  obtain ⟨hname, back, front, hreverse, hback⟩ := List.find?_eq_some_iff_append.1 h
  have hsizes : sizes = front.reverse ++ size :: back.reverse := by
    rw [← List.reverse_reverse sizes, hreverse]
    simp
  refine ⟨front.reverse.length, ?_, beq_iff_eq.1 hname, fun other ho => ?_⟩
  · rw [hsizes]
    simp
  · have hdrop : sizes.drop (front.reverse.length + 1) = back.reverse := by
      rw [hsizes, List.drop_length_add_append]
      rfl
    rw [hdrop, List.mem_reverse] at ho
    simpa using hback other ho

theorem isSome_sizeNamed?_iff {sizes : List DimensionToken} {name : String} :
    (sizeNamed? sizes name).isSome = true ↔
      ∃ size ∈ sizes, Text.lower size.name = Text.lower name := by
  rw [sizeNamed?, List.find?_isSome]
  simp

theorem mem_typeScale {theme : Theme} {entry : String × DimensionToken} :
    entry ∈ theme.typeScale ↔
      entry.1 ∈ scaleNames ∧ sizeNamed? theme.typography.fontSizes entry.1 = some entry.2 := by
  obtain ⟨name, size⟩ := entry
  simp only [typeScale, List.mem_filterMap, Option.map_eq_some_iff, Prod.mk.injEq]
  constructor
  · rintro ⟨_, hname, _, hsize, rfl, rfl⟩
    exact ⟨hname, hsize⟩
  · rintro ⟨hname, hsize⟩
    exact ⟨name, hname, size, hsize, rfl, rfl⟩

/-- The scale keeps those names that a font size has. -/
theorem map_fst_typeScale (theme : Theme) : theme.typeScale.map Prod.fst =
    scaleNames.filter fun name => (sizeNamed? theme.typography.fontSizes name).isSome := by
  rw [typeScale, List.map_filterMap, ← List.filterMap_eq_filter]
  refine List.filterMap_congr fun name _ => ?_
  cases h : sizeNamed? theme.typography.fontSizes name <;> simp [Option.guard, h]

theorem nodup_scaleNames : scaleNames.Nodup := by decide

theorem allWord_of_mem_scaleNames : ∀ name ∈ scaleNames, Name.AllWord name.toList := by decide

/-! ### The entries of the scale -/

/-- The entries of the type scale in the code of a theme: each has a name of the scale and refers to
the constant of a font size, the last one with this name. -/
structure ScaleRefers (theme : Theme) (p : Platform) (lines : Lines)
    (entries : List (String × String)) : Prop where
  sublist : (entries.map Prod.fst).Sublist scaleNames
  nodup : (entries.map Prod.fst).Nodup
  mem_iff : ∀ name ∈ scaleNames, name ∈ entries.map Prod.fst ↔
    ∃ size ∈ theme.typography.fontSizes, Text.lower size.name = Text.lower name
  declared : ∀ entry ∈ entries, ∃ place size,
    IsLastNamed entry.1 theme.typography.fontSizes place size ∧ entry.2 = calledOn p size.name ∧
      (Reader.names p .fontSizes lines)[place]? = some entry.2

/-- The entries that are printed for a theme. -/
def scaleOn (p : Platform) (theme : Theme) : List (String × String) :=
  theme.typeScale.map fun entry => (entry.1, calledOn p entry.2.name)

theorem scaleRefers_scaleOn {p : Platform} {theme : Theme} {source : String} {lines : Lines}
    (h : theme.code p source = .ok lines) : ScaleRefers theme p lines (scaleOn p theme) := by
  have hnames : (scaleOn p theme).map Prod.fst = scaleNames.filter fun name =>
      (sizeNamed? theme.typography.fontSizes name).isSome := by
    rw [scaleOn, List.map_map, ← map_fst_typeScale]
    rfl
  constructor
  · rw [hnames]
    exact List.filter_sublist
  · rw [hnames]
    exact nodup_scaleNames.filter _
  · intro name hname
    rw [hnames, List.mem_filter, and_iff_right hname, isSome_sizeNamed?_iff]
  · intro entry hentry
    obtain ⟨⟨name, size⟩, hmem, rfl⟩ := List.mem_map.1 hentry
    obtain ⟨place, hlast⟩ := exists_of_sizeNamed? (mem_typeScale.1 hmem).2
    refine ⟨place, size, hlast, rfl, ?_⟩
    rw [names_code h, Group.names, List.getElem?_map, List.getElem?_map, hlast.here]
    rfl

/-! ### Reading an entry -/

theorem scaleItem?_append {keyword reference name constant : String}
    (hname : Name.AllWord name.toList) (hreference : reference.toList.head? = some ' ')
    (hconstant : Name.AllWord constant.toList) (rest : String) :
    Reader.scaleItem? keyword reference
      (keyword ++ name ++ (reference ++ constant ++ (")" ++ rest))) = some (name, constant) := by
  have hblank : ∀ c ∈ (reference ++ constant ++ (")" ++ rest)).toList.head?, c = ' ' := by
    rw [String.append_assoc, String.toList_append, List.head?_append, hreference]
    simp
  rw [Reader.scaleItem?, named?_word keyword hname (by decide) hblank]
  simp only [Option.bind_eq_bind, Option.bind_some, String.ofList_toList]
  rw [named?_word reference hconstant (by decide) (by simp)]
  simp [after?]

namespace Swift

/-- The line of an entry of the type scale. -/
def scaleLine (entry : String × String) : String :=
  "        public static let " ++ entry.1 ++
    (" = Font.system(size: FontSizes." ++ entry.2 ++ ")")

theorem indent_lines_scaleConstant (entry : String × DimensionToken) :
    Lines.indent (scaleConstant entry).lines 2 =
      [scaleLine (entry.1, Name.toIdentifier entry.2.name)] := by
  generalize hconstant : Name.toIdentifier entry.2.name = constant
  rw [scaleConstant, hconstant, Constant.lines, List.nil_append, Lines.indent_two_singleton]
  · -- `rw` would compare the long texts character by character
    unfold scaleLine
    simp [← String.toList_inj, toString]
  · simp [toString]

theorem indent_scaleConstants (theme : Theme) :
    Lines.indent ((theme.typeScale.map scaleConstant).flatMap Constant.lines) 2 =
      (scaleOn .ios theme).map scaleLine := by
  rw [Lines.indent_flatMap, List.flatMap_map, scaleOn, List.map_map, List.map_eq_flatMap]
  exact List.flatMap_congr fun entry _ => indent_lines_scaleConstant entry

/-- The line that opens the type scale opens no group and stands in none. -/
theorem scaleHead_not_mem_block (g : Group) (constants : List Constant) :
    "    public enum Typography \x7b" ∉ (block g constants).lines := by
  have hbody : "    public enum Typography \x7b" ∉ (block g constants).body :=
    not_mem_shifted "        " _ (by decide) (by decide)
  have hhead : g.head .ios ≠ "    public enum Typography \x7b" := by
    cases g <;> decide
  refine Lines.Block.not_mem_lines ?_ hhead
  simp only [Lines.Block.Lacks, List.mem_append, List.mem_cons, not_or]
  refine ⟨⟨⟨by simp [block], ?_⟩, hbody⟩, ?_⟩
  · simp [block, ← String.toList_inj]
  · simp [block]

theorem scale?_file {theme : Theme} {source : String} {lines : Lines}
    (h : file theme source = .ok lines) :
    Reader.scale? .ios theme.name lines = some (scaleOn .ios theme) := by
  obtain ⟨constants, _, rfl⟩ := exists_blocks h
  have hopening : "    public enum Typography \x7b" ∉ opening theme source := by
    simp [opening, Lines.header, Lines.provenance, ← String.toList_inj, toString]
  have hblocks : "    public enum Typography \x7b" ∉
      Group.all.flatMap fun g => (block g (constants g)).lines := by
    intro hmem
    obtain ⟨g, _, hmem⟩ := List.mem_flatMap.1 hmem
    exact scaleHead_not_mem_block g (constants g) hmem
  have hclosing : "    \x7d" ∉ (scaleOn .ios theme).map scaleLine := by
    intro hmem
    obtain ⟨entry, _, hline⟩ := List.mem_map.1 hmem
    unfold scaleLine at hline
    simp [← String.toList_inj] at hline
  have hread : ((scaleOn .ios theme).map scaleLine).mapM
      (Reader.scaleItem? "        public static let " " = Font.system(size: FontSizes.") =
        some ((scaleOn .ios theme).map id) := by
    refine mapM_map_eq_some fun entry hentry => ?_
    obtain ⟨⟨name, size⟩, hmem, rfl⟩ := List.mem_map.1 hentry
    exact scaleItem?_append (allWord_of_mem_scaleNames _ (mem_typeScale.1 hmem).1) (by decide)
      (Name.allWord_toIdentifier size.name) ""
  rw [Reader.scale?, Lines.inside_append hopening, Lines.inside_append hblocks, ending,
    nonEmptySection]
  split
  · rename_i hempty
    rw [List.isEmpty_iff, List.map_eq_nil_iff] at hempty
    rw [scaleOn, hempty]
    rfl
  · have hmark : "    public enum Typography \x7b" ∉ ["    // MARK: - Typography"] := by decide
    have hlines : [Section.mk "Typography" (theme.typeScale.map scaleConstant)].flatMap
        Section.lines ++ ["\x7d", ""] = ["    // MARK: - Typography"] ++
          "    public enum Typography \x7b" :: ((scaleOn .ios theme).map scaleLine ++
            "    \x7d" :: ["", "\x7d", ""]) := by
      simp [Section.lines, indent_scaleConstants, toString]
    rw [hlines, Lines.inside_block hmark hclosing, hread, List.map_id]

end Swift

namespace Kotlin

/-- The line that opens the type scale. -/
def scaleHead (theme : Theme) : String := "val " ++ theme.name ++ "Typography = Typography("

theorem scaleHead_not_mem_block (theme other : Theme) (g : Group) (constants : List Constant) :
    scaleHead theme ∉ (block other g constants).lines := by
  have hbody : scaleHead theme ∉ (block other g constants).body :=
    not_mem_shifted "        " _ (by simp [scaleHead]) (by simp [scaleHead, begins, after?])
  have hbefore : scaleHead theme ∉ (block other g constants).before := by
    simp only [block, typographyComment]
    split
    · split
      · exact List.not_mem_nil
      · simp [scaleHead, ← String.toList_inj]
    · exact List.not_mem_nil
  have habove : scaleHead theme ∉ comment g := by
    cases g <;> simp [comment, scaleHead, ← String.toList_inj]
  refine Lines.Block.not_mem_lines ?_ ?_
  · simp only [Lines.Block.Lacks, List.mem_append, List.mem_cons, not_or]
    refine ⟨⟨⟨hbefore, habove⟩, hbody⟩, ?_⟩
    simp [block, scaleHead, ← String.toList_inj]
  · simp [block, Group.head_android, scaleHead, ← String.toList_inj]

theorem scaleEntry_append (theme : Theme) (entry : String × DimensionToken) (comma : String) :
    scaleEntry theme entry ++ comma = "    " ++ entry.1 ++
      (" = TextStyle(fontSize = " ++ theme.name ++ ".FontSizes." ++ constantName entry.2.name ++
        (")" ++ comma)) := by
  simp [scaleEntry, ← String.toList_inj, toString]

theorem scale?_file {theme : Theme} {source : String} {lines : Lines}
    (h : file theme source = .ok lines) :
    Reader.scale? .android theme.name lines = some (scaleOn .android theme) := by
  obtain ⟨constants, _, rfl⟩ := exists_blocks h
  have hopening : scaleHead theme ∉ Lines.header source ++ opening theme source := by
    simp [opening, Lines.header, Lines.provenance, scaleHead, ← String.toList_inj, toString]
  have hblocks : scaleHead theme ∉
      Group.all.flatMap fun g => (block theme g (constants g)).lines := by
    intro hmem
    obtain ⟨g, _, hmem⟩ := List.mem_flatMap.1 hmem
    exact scaleHead_not_mem_block theme theme g (constants g) hmem
  have hend : scaleHead theme ∉ ["\x7d", ""] := by
    simp [scaleHead, ← String.toList_inj]
  have hclosing : ")" ∉ Lines.commaSeparated (theme.typeScale.map (scaleEntry theme)) := by
    intro hmem
    obtain ⟨line, hl, hline⟩ := Lines.mem_commaSeparated hmem
    obtain ⟨entry, _, rfl⟩ := List.mem_map.1 hl
    rcases hline with hline | hline <;>
      simp [scaleEntry, ← String.toList_inj, toString] at hline
  have hread : (Lines.commaSeparated (theme.typeScale.map (scaleEntry theme))).mapM
      (Reader.scaleItem? "    " (" = TextStyle(fontSize = " ++ theme.name ++ ".FontSizes.")) =
        some (scaleOn .android theme) := by
    refine Api.Kotlin.mapM_commaSeparated fun entry hentry comma => ?_
    rw [scaleEntry_append]
    exact scaleItem?_append (allWord_of_mem_scaleNames _ (mem_typeScale.1 hentry).1) (by simp)
      (allWord_constantName _) comma
  rw [Reader.scale?, ← scaleHead, Lines.inside_append hopening, Lines.inside_append hblocks,
    Lines.inside_append hend, materialTypography]
  split
  · rename_i hempty
    rw [List.isEmpty_iff] at hempty
    have hscale : theme.typeScale = [] := by
      rw [typeScale, hempty]
      rfl
    rw [scaleOn, hscale]
    rfl
  · have hcomment : scaleHead theme ∉
        ["/**", " * Material 3 Typography configuration", " */"] := by
      simp [scaleHead, ← String.toList_inj]
    have hlines : ["/**", " * Material 3 Typography configuration", " */",
        s!"val {theme.name}Typography = Typography("] ++
          Lines.commaSeparated (theme.typeScale.map (scaleEntry theme)) ++ [")", ""] =
        ["/**", " * Material 3 Typography configuration", " */"] ++ scaleHead theme ::
          (Lines.commaSeparated (theme.typeScale.map (scaleEntry theme)) ++ ")" :: [""]) := by
      simp [scaleHead, toString]
    rw [hlines, Lines.inside_block hcomment hclosing, hread]

end Kotlin

end SpecForge.Theme
