import SpecForge.Text.Split

/-!
# Quoted text

A text between two quotes, in which a backslash stands before every backslash and every quote. The
reader `unescape` takes a backslash and the character after it as that character; reading what was
written gives the text back.
-/

namespace SpecForge.Text.Quoted

/-- Puts a backslash before every backslash and every quote. -/
def escape (quote : Char) : List Char → List Char
  | [] => []
  | c :: cs => if c = '\\' || c = quote then '\\' :: c :: escape quote cs else c :: escape quote cs

/-- Takes a backslash and the character after it as that character. -/
def unescape : List Char → List Char
  | '\\' :: c :: cs => c :: unescape cs
  | c :: cs => c :: unescape cs
  | [] => []

theorem unescape_escape (quote : Char) (cs : List Char) : unescape (escape quote cs) = cs := by
  induction cs with
  | nil => rfl
  | cons c cs ih =>
    simp only [escape]
    split
    · simp [unescape, ih]
    · rename_i h
      have hc : c ≠ '\\' := by intro hc; simp [hc] at h
      rw [unescape.eq_def]
      split
      · rename_i heq; simp at heq; exact absurd heq.1 hc
      · rename_i heq; simp at heq; obtain ⟨rfl, rfl⟩ := heq; rw [ih]
      · rename_i heq; simp at heq

/-- The text between two quotes. -/
def write (quote : Char) (s : String) : String :=
  String.ofList (quote :: escape quote s.toList ++ [quote])

/-- The text between two copies of a mark of any length: backslashes are doubled first, then every
mark gets a backslash. -/
def writeBetween (mark s : String) : String :=
  mark ++ replace (replace s "\\" "\\\\") mark ("\\" ++ mark) ++ mark

end SpecForge.Text.Quoted
