/-!
# Styled text

A terminal changes how it shows what follows at an escape character, an opening bracket, any number
of parameters, any number of intermediate characters, and a final character; each of the three kinds
has a range of its own. A text for a reader without a terminal is shown without these changes.
-/

namespace SpecForge.Text

/-- Is the character a parameter of a change of style: a digit or one of six signs? -/
def isStyleParameter (c : Char) : Bool := '0' ≤ c && c ≤ '?'

/-- Is the character one of those between the parameters and the end of a change of style? -/
def isStyleIntermediate (c : Char) : Bool := ' ' ≤ c && c ≤ '/'

/-- Does the character end a change of style? -/
def isStyleFinal (c : Char) : Bool := '@' ≤ c && c ≤ '~'

/-- What follows the change of style that a text begins with. -/
def afterStyle? : List Char → Option (List Char)
  | '\x1b' :: '[' :: rest =>
    match (rest.dropWhile isStyleParameter).dropWhile isStyleIntermediate with
    | c :: tail => if isStyleFinal c then some tail else none
    | [] => none
  | _ => none

theorem length_lt_of_afterStyle? {cs rest : List Char} (h : afterStyle? cs = some rest) :
    rest.length < cs.length := by
  unfold afterStyle? at h
  split at h
  · rename_i tail
    have hle := ((tail.dropWhile isStyleParameter).dropWhile_sublist isStyleIntermediate).length_le
    have hle' := (tail.dropWhile_sublist isStyleParameter).length_le
    split at h
    · rename_i c rest' hd
      rw [hd] at hle
      split at h
      · obtain rfl := Option.some.inj h
        simp only [List.length_cons] at hle ⊢
        omega
      · cases h
    · cases h
  · cases h

/-- The characters without changes of style. -/
def plainChars (cs : List Char) : List Char :=
  match _h : afterStyle? cs with
  | some rest => plainChars rest
  | none => match cs with
    | [] => []
    | c :: rest => c :: plainChars rest
termination_by cs.length
decreasing_by
  · exact length_lt_of_afterStyle? ‹_›
  · simp

/-- The text without changes of style. -/
def plain (s : String) : String := String.ofList (plainChars s.toList)

end SpecForge.Text
