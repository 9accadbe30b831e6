import SpecForge.Failure
import SpecForge.Text.Case

/-!
# Registries

A registry maps a kind of specification and a platform to what generates code for them. An entry is
kept under exactly the names it was registered with; a platform that is asked for may be written in
any case. The last entry that was accepted under a key is the one that counts, and entries keep the
order of their first registration.
-/

namespace SpecForge

/-- What is registered for pairs of a kind and a platform. -/
structure Registry (α : Type) where
  entries : List ((String × String) × α)

namespace Registry

variable {α : Type}

/-- The registry without entries. -/
def empty : Registry α := ⟨[]⟩

/-- Adds an entry at the end, or puts the value in the place of the entry that has the key. -/
def put (key : String × String) (value : α) :
    List ((String × String) × α) → List ((String × String) × α)
  | [] => [(key, value)]
  | (k, v) :: rest => if k == key then (k, value) :: rest else (k, v) :: put key value rest

/-- Is there an entry under exactly these names? -/
def isTaken (r : Registry α) (kind platform : String) : Bool :=
  (r.entries.lookup (kind, platform)).isSome

/-- Registers a value; a key that is taken is refused, unless the entry is to be replaced. -/
def register (r : Registry α) (kind platform : String) (value : α) (replace : Bool) :
    Option (Registry α) :=
  if r.isTaken kind platform && !replace then none
  else some ⟨put (kind, platform) value r.entries⟩

/-- Why a registration is refused. -/
def refusal (kind platform : String) : String :=
  "Generator already registered for " ++ kind ++ " on " ++ platform

/-- What is registered for a platform, written in any case. -/
def find? (r : Registry α) (kind platform : String) : Option α :=
  r.entries.lookup (kind, Text.lower platform)

/-- What is registered for a platform, or the failure that says it is not supported. -/
def get (r : Registry α) (kind platform : String) : Outcome α :=
  match r.find? kind platform with
  | some value => .ok value
  | none => .error (.unsupported kind platform)

/-- Is there anything registered for the platform? -/
def supports (r : Registry α) (kind platform : String) : Bool := (r.find? kind platform).isSome

/-- The platforms that have an entry for the kind. -/
def platforms (r : Registry α) (kind : String) : List String :=
  (r.entries.filter fun e => e.1.1 == kind).map fun e => e.1.2

theorem supports_eq_true_iff (r : Registry α) (kind platform : String) :
    r.supports kind platform = true ↔ ∃ value, r.get kind platform = .ok value := by
  unfold supports get
  cases r.find? kind platform <;> simp

end Registry

end SpecForge
