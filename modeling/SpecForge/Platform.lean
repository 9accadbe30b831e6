/-!
# Platforms

The three platforms code is written for, with the names they have in specifications.
-/

namespace SpecForge

/-- A platform that code is written for. -/
inductive Platform where
  | ios
  | android
  | web
deriving DecidableEq, Repr

namespace Platform

/-- All platforms, in the order in which they are listed. -/
def all : List Platform := [.ios, .android, .web]

/-- The name of a platform in specifications and on the command line. -/
def name : Platform → String
  | .ios => "ios"
  | .android => "android"
  | .web => "web"

/-- The platform with the given name. -/
def ofName? (s : String) : Option Platform := all.find? (·.name == s)

theorem ofName?_name (p : Platform) : ofName? p.name = some p := by
  cases p <;> decide

theorem mem_all (p : Platform) : p ∈ all := by
  cases p <;> decide

end Platform

end SpecForge
