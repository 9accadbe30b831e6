import Mathlib.Data.List.Flatten
import SpecForge.Lines
import SpecForge.Proofs.Text.Split

/-!
# Comments, indentation and blocks

What lines of comments begin with, and what moving lines to the right does to them. The comment at
the top of a file shows which source the file comes from.
-/

namespace SpecForge.Lines

/-- What a documentation comment begins with. -/
def CommentStyle.opening : CommentStyle → String
  | .line mark => mark ++ " "
  | .block => "/** "

/-- A documentation comment is one line at most, and begins with its mark. -/
theorem docComment_eq (style : CommentStyle) (text : Option String) :
    docComment style text = [] ∨ ∃ rest, docComment style text = [style.opening ++ rest] := by
  cases text with
  | none => exact Or.inl rfl
  | some s =>
      by_cases hs : s.isEmpty = true
      · left
        simp only [docComment, hs, if_true]
      · right
        cases style with
        | line mark =>
            refine ⟨Text.oneSpaced s, ?_⟩
            simp only [docComment, hs, Bool.false_eq_true, if_false]
            rfl
        | block =>
            refine ⟨Text.oneSpaced s ++ " */", ?_⟩
            simp only [docComment, hs, Bool.false_eq_true, if_false, CommentStyle.opening,
              String.append_assoc]

theorem mem_docComment {style : CommentStyle} {text : Option String} {line : String}
    (h : line ∈ docComment style text) : ∃ rest, line = style.opening ++ rest := by
  rcases docComment_eq style text with hd | ⟨rest, hd⟩
  · rw [hd] at h
    exact absurd h List.not_mem_nil
  · rw [hd, List.mem_singleton] at h
    exact ⟨rest, h⟩

theorem indent_append (lines rest : Lines) (level : Nat) :
    indent (lines ++ rest) level = indent lines level ++ indent rest level := List.map_append

theorem shifted_eq_map {lines : Lines} (h : ∀ line ∈ lines, line ≠ "") (blanks : String) :
    shifted blanks lines = lines.map fun line => blanks ++ line := by
  refine List.map_congr_left fun line hl => if_neg ?_
  rw [String.isEmpty_iff]
  exact h line hl

theorem indent_eq_map {lines : Lines} (h : ∀ line ∈ lines, line ≠ "") :
    indent lines 1 = lines.map fun line => "    " ++ line := shifted_eq_map h "    "

theorem indent_singleton {line : String} (h : line ≠ "") : indent [line] 1 = ["    " ++ line] := by
  rw [indent_eq_map (by simpa using h), List.map_singleton]

theorem indent_two_singleton {line : String} (h : line ≠ "") :
    indent [line] 2 = ["        " ++ line] :=
  shifted_eq_map (List.forall_mem_singleton.2 h) "        "

/-- A line that was moved to the right is empty, or stands behind the blanks. -/
theorem of_mem_shifted {blanks : String} {lines : Lines} {line : String}
    (h : line ∈ shifted blanks lines) : line = "" ∨ ∃ other ∈ lines, line = blanks ++ other := by
  obtain ⟨other, ho, rfl⟩ := List.mem_map.1 h
  split
  · rename_i hempty
    exact Or.inl (String.isEmpty_iff.1 hempty)
  · exact Or.inr ⟨other, ho, rfl⟩

theorem mem_indent {lines : Lines} {line : String} (h : line ∈ indent lines 1) :
    line = "" ∨ ∃ other ∈ lines, line = "    " ++ other :=
  of_mem_shifted h

theorem indent_flatMap {α : Type} (block : α → Lines) (items : List α) (level : Nat) :
    indent (items.flatMap block) level = items.flatMap fun a => indent (block a) level :=
  List.map_flatMap ..

/-- The lines of a comment moved to the right. -/
theorem indent_docComment (style : CommentStyle) (text : Option String) :
    indent (docComment style text) 1 = [] ∨
      ∃ rest, indent (docComment style text) 1 = ["    " ++ (style.opening ++ rest)] := by
  rcases docComment_eq style text with h | ⟨rest, h⟩
  · left
    rw [h]
    rfl
  · right
    refine ⟨rest, ?_⟩
    rw [h]
    refine indent_singleton ?_
    cases style <;> simp [CommentStyle.opening]

theorem commaSeparated_eq_nil_iff {lines : Lines} : commaSeparated lines = [] ↔ lines = [] := by
  induction lines using commaSeparated.induct with
  | case1 => simp [commaSeparated]
  | case2 line => simp [commaSeparated]
  | case3 line rest hrest _ => simp [commaSeparated.eq_3 line rest hrest]

theorem mem_commaSeparated {lines : Lines} {line : String} (h : line ∈ commaSeparated lines) :
    ∃ other ∈ lines, line = other ∨ line = other ++ "," := by
  induction lines using commaSeparated.induct with
  | case1 => simp [commaSeparated] at h
  | case2 other =>
      rw [commaSeparated, List.mem_singleton] at h
      exact ⟨other, List.mem_singleton_self other, Or.inl h⟩
  | case3 other rest hrest ih =>
      rw [commaSeparated.eq_3 other rest hrest] at h
      rcases List.mem_cons.1 h with rfl | h
      · exact ⟨other, List.mem_cons_self .., Or.inr rfl⟩
      · obtain ⟨found, hfound, hl⟩ := ih h
        exact ⟨found, List.mem_cons_of_mem other hfound, hl⟩

/-! ## The lines of a text -/

/-- A text in which lines were joined has the lines of each of them. -/
theorem split_joined {lines : Lines} (h : lines ≠ []) :
    Text.split '\n' lines.joined = lines.flatMap (Text.split '\n') := by
  induction lines with
  | nil => exact absurd rfl h
  | cons line lines ih =>
      cases lines with
      | nil => simp [joined]
      | cons next lines =>
          rw [joined, String.intercalate_cons_cons, List.flatMap_cons,
            ← ih (List.cons_ne_nil _ _), joined]
          simp [Text.split, Text.splitChars_append_sep]

/-- Lines without line breaks are the lines of the text in which they were joined. -/
theorem split_joined_of_not_mem {lines : Lines} (h : lines ≠ [])
    (hb : ∀ line ∈ lines, '\n' ∉ line.toList) : Text.split '\n' lines.joined = lines := by
  have hline : ∀ line ∈ lines, Text.split '\n' line = [line] := by
    intro line hl
    rw [Text.split, Text.splitChars_of_not_mem (hb line hl), List.map_singleton,
      String.ofList_toList]
  rw [split_joined h, List.flatMap_def, List.map_congr_left hline, ← List.flatMap_def,
    ← List.map_eq_flatMap, List.map_id']

/-- What is found in the lines of some of the joined lines is found in the text. -/
theorem countP_flatMap_split_le {lines broken : Lines} (h : broken.Sublist lines) (hne : lines ≠ [])
    (p : String → Bool) :
    (broken.flatMap (Text.split '\n')).countP p ≤ (Text.split '\n' lines.joined).countP p := by
  rw [split_joined hne]
  exact (h.flatMap (Text.split '\n')).countP_le

/-! ## The source of a file -/

theorem toList_joined_header (source : String) (lines : Lines) :
    ∃ rest, (header source ++ lines).joined.toList =
      "// Generated by cuppa-cli from ".toList ++ (source.toList ++ '\n' :: '/' :: rest) := by
  have hlines : header source ++ lines = ("//" ++ " Generated by cuppa-cli from " ++ source) ::
      ("/" ++ "/ Generation date: 2001-02-03") ::
        ("// DO NOT EDIT MANUALLY - Changes will be overwritten" :: "" :: lines) := rfl
  have hhead : "// Generated by cuppa-cli from " = "//" ++ " Generated by cuppa-cli from " := rfl
  rw [hlines, hhead, joined, String.intercalate_cons_cons,
    String.intercalate_cons_of_ne_nil (List.cons_ne_nil _ _)]
  simp

/-- Files whose texts are equal come from sources of one name, if names have no slashes. -/
theorem eq_of_joined_header {source source' : String} {lines lines' : Lines}
    (h : (header source ++ lines).joined = (header source' ++ lines').joined)
    (hs : '/' ∉ source.toList) (hs' : '/' ∉ source'.toList) : source = source' := by
  have hbefore : ∀ {s : String}, '/' ∉ s.toList → ∀ rest : List Char,
      (s.toList ++ '\n' :: '/' :: rest).takeWhile (· ≠ '/') = s.toList ++ ['\n'] := by
    intro s hs rest
    rw [List.takeWhile_append_of_pos]
    · simp
    · intro c hc
      simpa using fun heq : c = '/' => hs (heq ▸ hc)
  obtain ⟨rest, hrest⟩ := toList_joined_header source lines
  obtain ⟨rest', hrest'⟩ := toList_joined_header source' lines'
  rw [h, hrest', List.append_cancel_left_eq] at hrest
  have hname := congrArg (List.takeWhile (· ≠ '/')) hrest
  rw [hbefore hs', hbefore hs, List.append_cancel_right_eq] at hname
  exact (String.toList_inj.1 hname).symm

/-! ### Blocks

A block is opened by a line of its own and closed by the next line that closes blocks of its kind.
What is inside a block can be read by these two lines alone, where no other line of the file is the
one that opens it. Files are often put together of blocks some of which are left out, for a block
without a body is not printed. -/

/-- The lines behind the first one that opens a block, up to the next one that closes it. -/
def inside (head closing : String) (lines : Lines) : Lines :=
  ((lines.dropWhile (· != head)).drop 1).takeWhile (· != closing)

section Inside

variable {head closing : String} {front body rest lines : Lines}

theorem ne_of_not_mem {line : String} (h : line ∉ lines) :
    ∀ other ∈ lines, (other != line) = true := by
  intro other ho
  rw [bne_iff_ne]
  rintro rfl
  exact h ho

/-- The lines before the first one that is the given line. -/
theorem takeWhile_ne_append {line : String} (h : line ∉ front) (rest : Lines) :
    (front ++ line :: rest).takeWhile (· != line) = front := by
  rw [List.takeWhile_append_of_pos (ne_of_not_mem h), List.takeWhile_cons_of_neg (by simp),
    List.append_nil]

theorem dropWhile_ne_append {line : String} (h : line ∉ front) (rest : Lines) :
    (front ++ line :: rest).dropWhile (· != line) = line :: rest := by
  rw [List.dropWhile_append_of_pos (ne_of_not_mem h), List.dropWhile_cons_of_neg (by simp)]

theorem inside_append (h : head ∉ front) (closing : String) (rest : Lines) :
    inside head closing (front ++ rest) = inside head closing rest := by
  rw [inside, List.dropWhile_append_of_pos (ne_of_not_mem h), inside]

theorem inside_eq_nil (h : head ∉ lines) (closing : String) : inside head closing lines = [] := by
  have happend := inside_append h closing []
  rw [List.append_nil] at happend
  exact happend

theorem inside_cons (h : closing ∉ body) (head : String) (rest : Lines) :
    inside head closing (head :: (body ++ closing :: rest)) = body := by
  rw [inside, List.dropWhile_cons_of_neg (by simp), List.drop_one, List.tail_cons,
    takeWhile_ne_append h]

/-- What is inside a block with other lines around it. -/
theorem inside_block (hfront : head ∉ front) (hbody : closing ∉ body) (rest : Lines) :
    inside head closing (front ++ head :: (body ++ closing :: rest)) = body := by
  rw [inside_append hfront, inside_cons hbody]

end Inside

/-- A block with the lines around it. Those before it are printed in any case, the others only
together with the block. -/
structure Block where
  before : Lines
  above : Lines
  head : String
  body : Lines
  closing : String
  below : Lines

namespace Block

/-- The lines of a block; without a body there is no block. -/
def lines (b : Block) : Lines :=
  b.before ++ if b.body = [] then [] else b.above ++ b.head :: (b.body ++ b.closing :: b.below)

/-- No line is the given one, except perhaps the line that opens the block. -/
def Lacks (b : Block) (line : String) : Prop :=
  line ∉ b.before ++ b.above ++ b.body ++ b.closing :: b.below

variable {bs : List Block} {b : Block} {line : String}

theorem not_mem_lines (hlacks : b.Lacks line) (hne : b.head ≠ line) : line ∉ b.lines := by
  rw [Lacks] at hlacks
  rw [lines]
  split
  · simp_all
  · simp_all [Ne.symm hne]

theorem not_mem_flatMap (h : ∀ b ∈ bs, b.Lacks line ∧ b.head ≠ line) :
    line ∉ bs.flatMap lines := by
  intro hl
  obtain ⟨b, hb, hl⟩ := List.mem_flatMap.1 hl
  exact not_mem_lines (h b hb).1 (h b hb).2 hl

/-- What is inside each of several blocks. One that is left out has nothing inside. -/
theorem inside_flatMap {tail : Lines} (hnodup : (bs.map (·.head)).Nodup) (hb : b ∈ bs)
    (hlacks : ∀ other ∈ bs, other.Lacks b.head) (hbody : b.closing ∉ b.body)
    (htail : b.head ∉ tail) : inside b.head b.closing (bs.flatMap lines ++ tail) = b.body := by
  obtain ⟨front, back, rfl⟩ := List.append_of_mem hb
  have hothers : ∀ other, other ∈ front ∨ other ∈ back →
      other.Lacks b.head ∧ other.head ≠ b.head := by
    rw [List.map_append, List.map_cons, List.nodup_append, List.nodup_cons] at hnodup
    obtain ⟨_, ⟨hback, _⟩, hfront⟩ := hnodup
    rintro other (ho | ho)
    · exact ⟨hlacks other (List.mem_append_left _ ho),
        hfront _ (List.mem_map_of_mem ho) _ List.mem_cons_self⟩
    · refine ⟨hlacks other (List.mem_append_right _ (List.mem_cons_of_mem b ho)), fun heq => ?_⟩
      exact hback (heq ▸ List.mem_map_of_mem ho)
  have hfront : b.head ∉ front.flatMap lines := not_mem_flatMap fun o ho => hothers o (.inl ho)
  have hback : b.head ∉ back.flatMap lines ++ tail := by
    rw [List.mem_append, not_or]
    exact ⟨not_mem_flatMap fun o ho => hothers o (.inr ho), htail⟩
  have hself := hlacks b hb
  rw [Lacks] at hself
  rw [List.flatMap_append, List.flatMap_cons, List.append_assoc, List.append_assoc,
    inside_append hfront, lines]
  by_cases hnil : b.body = []
  · rw [if_pos hnil, List.append_nil, inside_append (by simp_all), inside_eq_nil hback, hnil]
  · have hopen : b.head ∉ b.before ++ b.above := by simp_all
    have hlines : (b.before ++ (b.above ++ b.head :: (b.body ++ b.closing :: b.below))) ++
        (back.flatMap lines ++ tail) = (b.before ++ b.above) ++
          b.head :: (b.body ++ b.closing :: (b.below ++ (back.flatMap lines ++ tail))) := by
      simp
    rw [if_neg hnil, hlines, inside_block hopen hbody]

end Block

end SpecForge.Lines
