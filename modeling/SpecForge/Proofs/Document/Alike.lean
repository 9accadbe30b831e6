import SpecForge.Document.Value

/-!
# Values that are made alike

Whether two values are the same can be computed part by part.
-/

namespace SpecForge.Value

mutual

/-- Are two values made alike? -/
def alike : Value → Value → Bool
  | .null, .null => true
  | .bool a, .bool b => a == b
  | .int m, .int n => m == n
  | .float x, .float y => x == y
  | .str s, .str t => s == t
  | .list as, .list bs => alikeItems as bs
  | .object ms, .object ns => alikeMembers ms ns
  | .date d, .date e => d == e
  | .moment m, .moment n => m == n
  | .set as, .set bs => alikeItems as bs
  | .bytes x, .bytes y => x == y
  | .pair a b, .pair c d => alike a c && alike b d
  | .loop m a, .loop n b => m == n && alike a b
  | .dots, .dots => true
  | _, _ => false

/-- Are the items of two lists made alike? -/
def alikeItems : List Value → List Value → Bool
  | [], [] => true
  | a :: as, b :: bs => alike a b && alikeItems as bs
  | _, _ => false

/-- Are the members of two objects made alike, in the same order? -/
def alikeMembers : List (Value × Value) → List (Value × Value) → Bool
  | [], [] => true
  | (j, a) :: ms, (k, b) :: ns => alike j k && alike a b && alikeMembers ms ns
  | _, _ => false

end

mutual

theorem eq_of_alike (a b : Value) (h : alike a b = true) : a = b := by
  cases a <;> cases b <;> simp_all [alike]
  · exact eq_of_alikeItems _ _ h
  · exact eq_of_alikeMembers _ _ h
  · exact eq_of_alikeItems _ _ h
  · exact ⟨eq_of_alike _ _ h.1, eq_of_alike _ _ h.2⟩
  · exact eq_of_alike _ _ h.2

theorem eq_of_alikeItems (as bs : List Value) (h : alikeItems as bs = true) : as = bs := by
  cases as <;> cases bs <;> simp_all [alikeItems]
  exact ⟨eq_of_alike _ _ h.1, eq_of_alikeItems _ _ h.2⟩

theorem eq_of_alikeMembers (ms ns : List (Value × Value)) (h : alikeMembers ms ns = true) :
    ms = ns := by
  rcases ms with _ | ⟨⟨j, a⟩, ms⟩ <;> rcases ns with _ | ⟨⟨k, b⟩, ns⟩ <;>
    simp_all [alikeMembers]
  exact ⟨⟨eq_of_alike _ _ h.1.1, eq_of_alike _ _ h.1.2⟩, eq_of_alikeMembers _ _ h.2⟩

end

/-- A result is the value if it is made alike. -/
theorem eq_ok_of_alike {ε : Type} {x : Except ε Value} {v : Value}
    (h : x.toOption.any (alike v) = true) : x = .ok v := by
  cases x with
  | error e => cases h
  | ok w => rw [eq_of_alike v w h]

end SpecForge.Value
