import SpecForge.Text.Blank
import SpecForge.Text.Quoted

/-!
# Lines of code

Generated code is a list of lines that are joined at the end. This module holds what all kinds of
generated code share: indentation, comments, and the header that names the source of a file.
-/

namespace SpecForge

/-- Lines of code. -/
abbrev Lines := List String

namespace Lines

/-- The lines with line breaks between them. -/
def joined (lines : Lines) : String := "\n".intercalate lines

/-- The lines with blanks in front, empty ones apart. -/
def shifted (blanks : String) (lines : Lines) : Lines :=
  lines.map fun line => if line.isEmpty then line else blanks ++ line

/-- One level of indentation is four blanks. -/
def indentation (level : Nat) : String := String.ofList (List.replicate (4 * level) ' ')

/-- The lines moved to the right by some levels. -/
def indent (lines : Lines) (level : Nat) : Lines := shifted (indentation level) lines

/-- All lines end with a comma but the last. -/
def commaSeparated : Lines → Lines
  | [] => []
  | [line] => [line]
  | line :: rest => (line ++ ",") :: commaSeparated rest

/-- How a documentation comment is opened: for one line, or up to a closing mark. -/
inductive CommentStyle where
  | line (mark : String)
  | block

/-- Three slashes. -/
def CommentStyle.slashes : CommentStyle := .line "///"

/-- A documentation comment on one line; an empty text gets none. -/
def docComment (style : CommentStyle) (text : Option String) : Lines :=
  match text with
  | none => []
  | some s =>
    if s.isEmpty then []
    else match style with
      | .block => ["/** " ++ Text.oneSpaced s ++ " */"]
      | .line mark => [mark ++ " " ++ Text.oneSpaced s]

/-- The date written into generated files. It is fixed, so that the same specification gives the
same text on every day. -/
def generationDate : String := "2001-02-03"

/-- The comment that names the source of a file and warns against changing it. -/
def provenance (source comment : String) : Lines :=
  [comment ++ " Generated by cuppa-cli from " ++ source,
    comment ++ " Generation date: " ++ generationDate,
    comment ++ " DO NOT EDIT MANUALLY - Changes will be overwritten",
    ""]

/-- The comment at the top of a source file. -/
def header (source : String) : Lines := provenance source "//"

end Lines

/-- A text between double quotes. -/
def quoted (s : String) : String := Text.Quoted.write '"' s

/-- A text between single quotes. -/
def singleQuoted (s : String) : String := Text.Quoted.write '\'' s

end SpecForge
