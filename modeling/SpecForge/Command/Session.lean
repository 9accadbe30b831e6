import SpecForge.Project.Tree
import SpecForge.Text.Styling

/-!
# Sessions

A command works on a tree of files, tells the user what it does and asks for what it has not been
told. It may stop at any point; what it has written and said until then stays.
-/

namespace SpecForge.Command

/-- What is said to the user. -/
inductive Notice where
  | success (text : String)
  | warning (text : String)
  | note (text : String)
  | plain (text : String)
  | asked (question : String) (reply : Option String)

/-- A notice as it is shown. -/
def Notice.text : Notice → String
  | .success text => Text.plain ("✓ " ++ text) ++ "\n"
  | .warning text => Text.plain ("⚠ " ++ text) ++ "\n"
  | .note text => Text.plain ("ℹ " ++ text) ++ "\n"
  | .plain text => Text.plain text ++ "\n"
  | .asked question none => question
  | .asked question (some reply) => question ++ reply ++ "\n"

/-- Where a command stands: the files, what has been said with the last notice first, and what the
user is going to reply. -/
structure Session where
  tree : Project.Tree
  notices : List Notice
  replies : List String

/-- Why a command stops. -/
inductive Stop where
  | failed (failure : Failure)
  | unanswered

/-- What a command does. -/
abbrev Activity (α : Type) := ExceptT Stop (StateM Session) α

namespace Activity

/-- The result of an action and the session behind it. -/
def perform {α : Type} (action : Activity α) (s : Session) : Except Stop α × Session :=
  (ExceptT.run action).run s

/-- Stops with a failure. -/
def fail {α : Type} (f : Failure) : Activity α := throw (.failed f)

/-- A result, or a stop with its failure. -/
def ofOutcome {α : Type} : Outcome α → Activity α
  | .ok a => pure a
  | .error f => fail f

/-- Tells the user something. -/
def say (n : Notice) : Activity Unit := modify fun s => { s with notices := n :: s.notices }

/-- Says that something was done. -/
def success (text : String) : Activity Unit := say (.success text)

/-- Says that something was not done. -/
def warn (text : String) : Activity Unit := say (.warning text)

/-- Says something that is good to know. -/
def note (text : String) : Activity Unit := say (.note text)

/-- Shows a text. -/
def plain (text : String) : Activity Unit := say (.plain text)

/-- Shows an empty line. -/
def blank : Activity Unit := plain ""

/-- Shows several lines. -/
def lines : List String → Activity Unit
  | [] => pure ()
  | line :: rest => do
    plain line
    lines rest

/-- The files. -/
def files : Activity Project.Tree := do return (← get).tree

/-- Does a path lead to anything? -/
def exists? (p : Project.Path) : Activity Bool := do ofOutcome ((← files).contains p)

/-- Changes the files. -/
def change (f : Project.Tree → Project.Tree.Change) : Activity Unit := do
  let c := f (← files)
  modify fun s => { s with tree := c.tree }
  match c.fault with
  | none => pure ()
  | some fault => fail fault

/-- Writes a file. -/
def write (p : Project.Path) (text : String) : Activity Unit := change fun t => t.write p text

/-- Asks for a text; an empty reply stands for the usual one. -/
def ask (label usual : String) : Activity String := do
  let question := s!"{label} [{usual}]: "
  match (← get).replies with
  | [] =>
    say (.asked question none)
    throw .unanswered
  | reply :: rest =>
    modify fun s => { s with replies := rest }
    say (.asked question (some reply))
    return if reply.isEmpty then usual else reply

theorem perform_bind {α β : Type} (x : Activity α) (f : α → Activity β) (s : Session) :
    (x >>= f).perform s = match x.perform s with
      | (.ok a, s) => (f a).perform s
      | (.error e, s) => (.error e, s) := by
  simp only [perform, ExceptT.run_bind, StateT.run_bind]
  cases (StateT.run (ExceptT.run x) s) with
  | mk r s => cases r <;> rfl

theorem perform_files (s : Session) : files.perform s = (.ok s.tree, s) := rfl

theorem perform_change (f : Project.Tree → Project.Tree.Change) (s : Session) :
    (change f).perform s =
      (match (f s.tree).fault with
        | none => .ok ()
        | some fault => .error (.failed fault), { s with tree := (f s.tree).tree }) := by
  unfold change
  simp only [perform_bind, perform_files]
  cases h : (f s.tree).fault with
  | none => rfl
  | some fault => rfl

end Activity

end SpecForge.Command
