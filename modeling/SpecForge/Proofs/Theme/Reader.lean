import SpecForge.Generator
import SpecForge.Proofs.Api.Reader
import SpecForge.Proofs.Lines
import SpecForge.Proofs.Theme.Group

/-!
# Reading the names in printed themes

A reader for the code of a theme on each platform. Every group has a block of its own, and in it the
reader finds the names that are declared: those of constants in Swift and Kotlin, and keys in
TypeScript. The custom properties of a style sheet stand between quotes in the function that returns
them.

The readers work on lines, and know nothing of how these come about.
-/

namespace SpecForge.Theme

open Model.Reader Text

/-- The code of a theme, if all its tokens can be written. -/
def code (p : Platform) (theme : Theme) (source : String) : Outcome Lines :=
  match p with
  | .ios => Swift.file theme source
  | .android => Kotlin.file theme source
  | .web => TypeScript.file theme source

namespace Group

/-- The name of the block of a group in Swift and Kotlin. -/
def heading : Group → String
  | colors => "Colors"
  | fontFamilies => "FontFamilies"
  | fontSizes => "FontSizes"
  | fontWeights => "FontWeights"
  | lineHeights => "LineHeights"
  | letterSpacing => "LetterSpacing"
  | spacing => "Spacing"
  | borderRadius => "BorderRadius"
  | shadows => "Shadows"
  | breakpoints => "Breakpoints"

/-- How many levels a group stands to the right in TypeScript. -/
def level (g : Group) : Nat := if g.isInner then 2 else 1

/-- The line that opens the block of a group. -/
def head (p : Platform) (g : Group) : String :=
  match p with
  | .ios => "    public enum " ++ g.heading ++ " \x7b"
  | .android => "    object " ++ g.heading ++ " \x7b"
  | .web => TypeScript.pad g.level ++ g.key ++ ": \x7b"

theorem head_ios (g : Group) :
    g.head .ios = "    public enum " ++ g.heading ++ " \x7b" := rfl

theorem head_android (g : Group) :
    g.head .android = "    object " ++ g.heading ++ " \x7b" := rfl

theorem head_web (g : Group) :
    g.head .web = TypeScript.pad g.level ++ g.key ++ ": \x7b" := rfl

/-- The line that closes the block of a group. -/
def closing (p : Platform) (g : Group) : String :=
  match p with
  | .web => TypeScript.pad g.level ++ "\x7d,"
  | _ => "    \x7d"

/-- The blocks of different groups are opened by different lines. -/
theorem nodup_head (p : Platform) : (all.map (head p)).Nodup := by
  cases p <;> decide +kernel

end Group

namespace Reader

/-- The name of the constant that a line declares in Swift. -/
def Swift.name? (line : String) : Option String :=
  (named? "        public static let " (fun c => c == ':' || c == ' ') line).map Prod.fst

/-- The name of the constant that a line declares in Kotlin. -/
def Kotlin.name? (line : String) : Option String :=
  match named? "        val " (· == ' ') line with
  | some (name, _) => some name
  | none => (named? "        const val " (· == ' ') line).map Prod.fst

/-- The key in a line of an object in TypeScript, at a distance from the left. A comment has no key.
-/
def TypeScript.name? (blanks line : String) : Option String :=
  if begins (blanks ++ "/**") line then none
  else do
    let (name, _) ← Api.Reader.TypeScript.key? (← after? blanks.toList line.toList)
    return name

/-- The name that is declared in a line of the block of a group. -/
def name? (p : Platform) (g : Group) : String → Option String :=
  match p with
  | .ios => Swift.name?
  | .android => Kotlin.name?
  | .web => TypeScript.name? (TypeScript.pad (g.level + 1))

/-- The names that the block of a group declares. -/
def names (p : Platform) (g : Group) (lines : Lines) : List String :=
  (lines.inside (g.head p) (g.closing p)).filterMap (name? p g)

/-- The name of the custom property in a line of a style sheet. -/
def propertyName? (line : String) : Option String := do
  let (name, _) ← Quoted.read? '\'' (← after? "    '".toList line.toList)
  return String.ofList name

/-- The names of the custom properties. -/
def propertyNames (lines : Lines) : List String :=
  (lines.inside "  return \x7b" "  \x7d;").filterMap propertyName?

end Reader

/-- A line that does not stand as far to the right is none of the lines that were moved there. -/
theorem not_mem_shifted (blanks : String) (lines : Lines) {line : String} (hne : line ≠ "")
    (hl : begins blanks line = false) : line ∉ Lines.shifted blanks lines := by
  intro hmem
  rcases Lines.of_mem_shifted hmem with rfl | ⟨other, _, rfl⟩
  · exact hne rfl
  · rw [begins, String.toList_append, after?_append] at hl
    cases hl

/-- How the token with a name is called on a platform. -/
def calledOn (p : Platform) (name : String) : String :=
  match p with
  | .ios => Name.toIdentifier name
  | .android => Kotlin.constantName name
  | .web => name

/-- The block of a group declares a name for each of the given names, in order. -/
def Declares (p : Platform) (g : Group) (body : Lines) (names : List String) : Prop :=
  body.filterMap (Reader.name? p g) = names.map (calledOn p)

/-- If in the lines of each item its name is read and no other, all lines declare all names. -/
theorem declares_flatMap {α : Type} {p : Platform} {g : Group} {lines : α → Lines}
    {IsFor : String → α → Prop} (hread : ∀ {name a}, IsFor name a →
      (lines a).filterMap (Reader.name? p g) = [calledOn p name])
    {names : List String} {items : List α} (h : List.Forall₂ IsFor names items) :
    Declares p g (items.flatMap lines) names := by
  rw [Declares]
  induction h with
  | nil => rfl
  | cons ha _ ih =>
      rw [List.flatMap_cons, List.filterMap_append, hread ha, ih, List.map_cons,
        List.singleton_append]

/-- What is printed for a group has the two lines of its block, and no other line is the one that
opens the block of any group. -/
structure IsBlock (p : Platform) (g : Group) (names : List String) (b : Lines.Block) : Prop where
  head : b.head = g.head p
  closing : b.closing = g.closing p
  declares : Declares p g b.body names
  lacks : ∀ other, b.Lacks (Group.head p other)
  closed : b.closing ∉ b.body

/-- In a file that consists of the blocks of all groups, what is inside each block is found. -/
theorem inside_of_isBlock {p : Platform} {theme : Theme} {block : Group → Lines.Block}
    (hblock : ∀ g, IsBlock p g (g.names theme) (block g)) {front tail : Lines}
    (hfront : ∀ g, Group.head p g ∉ front) (htail : ∀ g, Group.head p g ∉ tail) (g : Group) :
    Lines.inside (g.head p) (g.closing p)
        (front ++ (Group.all.flatMap (fun g => (block g).lines) ++ tail)) = (block g).body := by
  have hnodup : ((Group.all.map block).map (·.head)).Nodup := by
    have hheads : (Group.all.map block).map (·.head) = Group.all.map (Group.head p) := by
      rw [List.map_map]
      exact List.map_congr_left fun g _ => (hblock g).head
    rw [hheads]
    exact Group.nodup_head p
  have hlacks : ∀ other ∈ Group.all.map block, other.Lacks (block g).head := by
    intro other ho
    obtain ⟨g', _, rfl⟩ := List.mem_map.1 ho
    rw [(hblock g).head]
    exact (hblock g').lacks g
  have hinside := Lines.Block.inside_flatMap hnodup (List.mem_map_of_mem (Group.mem_all g)) hlacks
    (hblock g).closed ((hblock g).head ▸ htail g)
  rw [List.flatMap_map, (hblock g).head, (hblock g).closing] at hinside
  rw [Lines.inside_append (hfront g), hinside]

/-- In a file that consists of the blocks of all groups, the names of each group are read. -/
theorem names_of_isBlock {p : Platform} {theme : Theme} {block : Group → Lines.Block}
    (hblock : ∀ g, IsBlock p g (g.names theme) (block g)) {front tail : Lines}
    (hfront : ∀ g, Group.head p g ∉ front) (htail : ∀ g, Group.head p g ∉ tail) (g : Group) :
    Reader.names p g (front ++ (Group.all.flatMap (fun g => (block g).lines) ++ tail)) =
      (g.names theme).map (calledOn p) := by
  rw [Reader.names, inside_of_isBlock hblock hfront htail]
  exact (hblock g).declares

end SpecForge.Theme
