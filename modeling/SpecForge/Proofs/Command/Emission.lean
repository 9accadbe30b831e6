import SpecForge.Command.Generate
import SpecForge.Command.Session
import SpecForge.Proofs.Project.Writes

/-!
# What generating code does to the files

An action of a command ends with a result in a session. What is said here of one action after the
other makes it possible to say how a whole command ends without looking at the sessions in between.

What a command that generates code does to the files can so be told without what it says: the tree
behind it, the files that it has written in their order, and why it stopped if it did. The command
itself leaves exactly this tree and counts exactly these files.
-/

/-! ## How actions end -/

namespace SpecForge.Command.Activity

variable {α β : Type} {x : Activity α} {f : α → Activity β} {s : Session} {P Q : Session → Prop}

/-- The action ends with the result, in a session of which something holds. -/
structure Ends (x : Activity α) (s : Session) (result : Except Stop α) (Q : Session → Prop) :
    Prop where
  result : (x.perform s).1 = result
  session : Q (x.perform s).2

/-- The session has these files. -/
def Has (t : Project.Tree) (s : Session) : Prop := s.tree = t

/-- The result of an action that may stop with a failure. -/
def stopping : Outcome α → Except Stop α
  | .ok a => .ok a
  | .error f => .error (.failed f)

theorem ends_pure {a : α} (h : Q s) : (pure a : Activity α).Ends s (.ok a) Q := ⟨rfl, h⟩

theorem ends_fail {failure : Failure} (h : Q s) :
    (fail failure : Activity α).Ends s (.error (.failed failure)) Q := ⟨rfl, h⟩

theorem ends_say {n : Notice} (h : Q { s with notices := n :: s.notices }) :
    (say n).Ends s (.ok ()) Q := ⟨rfl, h⟩

theorem ends_files (h : Q s) : files.Ends s (.ok s.tree) Q := ⟨rfl, h⟩

theorem ends_ofOutcome (o : Outcome α) (h : Q s) : (ofOutcome o).Ends s (stopping o) Q := by
  cases o with
  | ok a => exact ends_pure h
  | error f => exact ends_fail h

theorem ofOutcome_ok_bind (a : α) : (ofOutcome (.ok a) >>= f) = f a := pure_bind a f

theorem Ends.mono {r : Except Stop α} (hx : x.Ends s r P) (h : ∀ s', P s' → Q s') : x.Ends s r Q :=
  ⟨hx.result, h _ hx.session⟩

/-- One action and another one behind it. -/
theorem Ends.bind {a : α} {r : Except Stop β} (hx : x.Ends s (.ok a) P)
    (hf : ∀ s', P s' → (f a).Ends s' r Q) : (x >>= f).Ends s r Q := by
  have hnext := hf _ hx.session
  have hperform : (x >>= f).perform s = (f a).perform (x.perform s).2 := by
    rw [perform_bind]
    have hr := hx.result
    generalize x.perform s = ending at hr ⊢
    obtain ⟨result, s'⟩ := ending
    cases hr
    rfl
  constructor
  · rw [hperform]
    exact hnext.result
  · rw [hperform]
    exact hnext.session

/-- Behind an action that stops nothing is done. -/
theorem Ends.bind_error {stop : Stop} (hx : x.Ends s (.error stop) Q) :
    (x >>= f).Ends s (.error stop) Q := by
  have hperform : (x >>= f).perform s = (.error stop, (x.perform s).2) := by
    rw [perform_bind]
    have hr := hx.result
    generalize x.perform s = ending at hr ⊢
    obtain ⟨result, s'⟩ := ending
    cases hr
    rfl
  constructor
  · rw [hperform]
  · rw [hperform]
    exact hx.session

/-- One action behind another one, both of which may stop with a failure. -/
theorem Ends.bind_stopping {o : Outcome α} {g : α → Outcome β} (hx : x.Ends s (stopping o) Q)
    (hf : ∀ a s', o = .ok a → Q s' → (f a).Ends s' (stopping (g a)) Q) :
    (x >>= f).Ends s (stopping (o.bind g)) Q := by
  cases o with
  | ok a => exact hx.bind fun s' hs => hf a s' rfl hs
  | error failure => exact hx.bind_error

theorem ends_exists? (p : Project.Path) {t : Project.Tree} (h : Has t s) :
    (exists? p).Ends s (stopping (t.contains p)) (Has t) := by
  rw [Has] at h
  subst h
  refine (ends_files (Q := (· = s)) rfl).bind fun s' hs => ?_
  subst hs
  exact ends_ofOutcome _ rfl

theorem ends_write {p : Project.Path} {text : String} (hp : (s.tree.write p text).fault = none)
    (h : Q { s with tree := (s.tree.write p text).tree }) : (write p text).Ends s (.ok ()) Q := by
  constructor
  · rw [write, perform_change, hp]
  · rw [write, perform_change]
    exact h

theorem ends_write_error {p : Project.Path} {text : String} {failure : Failure}
    (hp : (s.tree.write p text).fault = some failure)
    (h : Q { s with tree := (s.tree.write p text).tree }) :
    (write p text).Ends s (.error (.failed failure)) Q := by
  constructor
  · rw [write, perform_change, hp]
  · rw [write, perform_change]
    exact h

end SpecForge.Command.Activity

/-! ## Emissions -/

namespace SpecForge.Command

open Activity Project

/-- What was done to the files. -/
structure Emission where
  tree : Tree
  written : List Write
  fault : Option Failure

namespace Emission

/-- Nothing was done. -/
def nothing (t : Tree) : Emission := ⟨t, [], none⟩

/-- Nothing was done because of a failure. -/
def stopped (t : Tree) (f : Failure) : Emission := ⟨t, [], some f⟩

/-- What one action did and then another one, unless the first stopped. -/
def andThen (e : Emission) (next : Tree → Emission) : Emission :=
  match e.fault with
  | none => ⟨(next e.tree).tree, e.written ++ (next e.tree).written, (next e.tree).fault⟩
  | some _ => e

/-- How many files were written, if nothing stopped. -/
def count (e : Emission) : Except Stop Nat :=
  match e.fault with
  | none => .ok e.written.length
  | some f => .error (.failed f)

theorem andThen_of_fault {e : Emission} {f : Failure} (h : e.fault = some f)
    (next : Tree → Emission) : e.andThen next = e := by
  rw [andThen, h]

theorem andThen_of_none {e : Emission} (h : e.fault = none) (next : Tree → Emission) :
    e.andThen next =
      ⟨(next e.tree).tree, e.written ++ (next e.tree).written, (next e.tree).fault⟩ := by
  rw [andThen, h]

theorem andThen_congr {e : Emission} {next other : Tree → Emission}
    (h : next e.tree = other e.tree) : e.andThen next = e.andThen other := by
  rw [andThen, andThen, h]

theorem nothing_andThen (t : Tree) (next : Tree → Emission) :
    (nothing t).andThen next = next t := by
  rw [andThen_of_none rfl]
  rfl

theorem andThen_nothing (e : Emission) : e.andThen nothing = e := by
  obtain ⟨t, ws, _ | f⟩ := e
  · rw [andThen_of_none rfl, nothing, List.append_nil]
  · rfl

theorem andThen_assoc (e : Emission) (next last : Tree → Emission) :
    (e.andThen next).andThen last = e.andThen fun t => (next t).andThen last := by
  obtain ⟨t, ws, _ | f⟩ := e
  · simp only [andThen]
    obtain ⟨u, ws', _ | f⟩ := next t
    · simp only [List.append_assoc]
    · rfl
  · rfl

end Emission

/-- A file and the path that it is to be written to. -/
structure Output where
  file : SourceFile
  target : Project.Path

/-- The file as it is written. -/
def Output.write (o : Output) : Write := ⟨o.target.place, o.file.text⟩

namespace GenerateRequest

/-- The file for a platform and its path. -/
def outputFor (r : GenerateRequest) (site : Site) (sourceFile : Platform → Outcome SourceFile)
    (p : Platform) : Outcome Output :=
  (sourceFile p).bind fun file => (r.place site p file).map (Output.mk file)

/-- The emission of one file. -/
def fileEmission (r : GenerateRequest) (o : Output) (t : Tree) : Emission :=
  match t.contains o.target with
  | .error f => .stopped t f
  | .ok found =>
    if (found && !r.overwrite) || r.isDryRun then .nothing t
    else match (t.write o.target o.file.text).fault with
      | none => ⟨(t.write o.target o.file.text).tree, [o.write], none⟩
      | some f => .stopped (t.write o.target o.file.text).tree f

/-- The emission of several files. -/
def filesEmission (r : GenerateRequest) : List (Outcome Output) → Tree → Emission
  | [], t => .nothing t
  | .error f :: _, t => .stopped t f
  | .ok o :: rest, t => (r.fileEmission o t).andThen (r.filesEmission rest)

/-- The emission of the models of schema files. -/
def modelsEmission (r : GenerateRequest) (site : Site) (platforms : List Platform) :
    List Project.Path → Tree → Emission
  | [], t => .nothing t
  | path :: rest, t =>
    match (t.document path).bind Model.ofSchema with
    | .error f => .stopped t f
    | .ok m =>
      (r.filesEmission (platforms.map (r.outputFor site (m.sourceFile · path.name))) t).andThen
        (r.modelsEmission site platforms rest)

/-! ### The command has this emission -/

/-- The action leaves the files of the emission and counts those that were written. -/
def Does (x : Activity Nat) (emission : Tree → Emission) : Prop :=
  ∀ s, x.Ends s (emission s.tree).count (Has (emission s.tree).tree)

theorem emitFile_does (r : GenerateRequest) (p : Platform) (o : Output) :
    Does (r.emitFile p o.file o.target) (r.fileEmission o) := by
  intro s
  have hsay : ∀ n s', Has s.tree s' → (say n).Ends s' (.ok ()) (Has s.tree) :=
    fun _ _ hs => ends_say hs
  have hexists : (exists? o.target).Ends s (stopping (s.tree.contains o.target)) (Has s.tree) :=
    ends_exists? o.target rfl
  rw [fileEmission]
  cases hc : s.tree.contains o.target with
  | error f =>
      rw [hc] at hexists
      exact hexists.bind_error
  | ok found =>
      rw [hc] at hexists
      refine hexists.bind fun s' hs => ?_
      by_cases hkeep : (found && !r.overwrite) = true
      · simp only [hkeep, Bool.true_or, if_true]
        exact (hsay _ s' hs).bind fun _ hs => ends_pure hs
      · by_cases hdry : r.isDryRun = true
        · simp only [hkeep, hdry, Bool.or_true, Bool.false_eq_true, if_false, if_true]
          refine (hsay _ s' hs).bind fun _ hs => ?_
          exact (hsay _ _ hs).bind fun _ hs => ends_pure hs
        · simp only [hkeep, hdry, Bool.or_false, Bool.false_eq_true, if_false]
          rw [← hs]
          cases hw : (s'.tree.write o.target o.file.text).fault with
          | none =>
              refine (ends_write (Q := Has (s'.tree.write o.target o.file.text).tree) hw rfl).bind
                fun _ hs => ?_
              exact (ends_say hs).bind fun _ hs => ends_pure hs
          | some f =>
              exact (ends_write_error (Q := Has (s'.tree.write o.target o.file.text).tree) hw
                rfl).bind_error

/-- Two actions whose counts are added. -/
theorem Does.add {x y : Activity Nat} {first second : Tree → Emission} (hx : Does x first)
    (hy : Does y second) :
    Does (do let n ← x; return n + (← y)) fun t => (first t).andThen second := by
  intro s
  have hs := hx s
  rw [Emission.count] at hs
  dsimp only
  rw [Emission.andThen]
  cases hf : (first s.tree).fault with
  | some f =>
      rw [hf] at hs
      rw [Emission.count, hf]
      exact hs.bind_error
  | none =>
      rw [hf] at hs
      refine hs.bind fun s' htree => ?_
      have hs' := hy s'
      rw [htree, Emission.count] at hs'
      rw [Emission.count]
      dsimp only
      cases hf' : (second (first s.tree).tree).fault with
      | some f =>
          rw [hf'] at hs'
          exact hs'.bind_error
      | none =>
          rw [hf'] at hs'
          rw [List.length_append]
          exact hs'.bind fun _ h => ends_pure h

theorem outputFor_eq {r : GenerateRequest} {site : Site}
    {sourceFile : Platform → Outcome SourceFile} {p : Platform} {file : SourceFile}
    (h : sourceFile p = .ok file) :
    r.outputFor site sourceFile p = (r.place site p file).map (Output.mk file) := by
  rw [outputFor, h]
  rfl

theorem emit_does (r : GenerateRequest) (site : Site) (sourceFile : Platform → Outcome SourceFile)
    (platforms : List Platform) :
    Does (r.emit site sourceFile platforms)
      (r.filesEmission (platforms.map (r.outputFor site sourceFile))) := by
  induction platforms with
  | nil => exact fun s => ends_pure rfl
  | cons p rest ih =>
      intro s
      have hstop : ∀ f, (fail f : Activity Nat).Ends s (.error (.failed f)) (Has s.tree) :=
        fun f => ends_fail rfl
      rw [emit, List.map_cons]
      cases hfile : sourceFile p with
      | error f =>
          have ho : r.outputFor site sourceFile p = .error f := by
            rw [outputFor, hfile]
            rfl
          rw [ho]
          exact hstop f
      | ok file =>
          cases htarget : r.place site p file with
          | error f =>
              have ho : r.outputFor site sourceFile p = .error f := by
                rw [outputFor_eq hfile, htarget]
                rfl
              rw [ho, ofOutcome_ok_bind, htarget]
              exact hstop f
          | ok target =>
              have ho : r.outputFor site sourceFile p = .ok ⟨file, target⟩ := by
                rw [outputFor_eq hfile, htarget]
                rfl
              rw [ho, ofOutcome_ok_bind, htarget, ofOutcome_ok_bind]
              exact (emitFile_does r p ⟨file, target⟩).add ih s

theorem emitModels_does (r : GenerateRequest) (site : Site) (platforms : List Platform)
    (schemas : List Project.Path) :
    Does (r.emitModels site platforms schemas) (r.modelsEmission site platforms schemas) := by
  induction schemas with
  | nil => exact fun s => ends_pure rfl
  | cons path rest ih =>
      intro s
      rw [emitModels, modelsEmission]
      have hmodel : (ofOutcome ((s.tree.document path).bind Model.ofSchema)).Ends s
          (stopping ((s.tree.document path).bind Model.ofSchema)) (Has s.tree) :=
        ends_ofOutcome _ rfl
      refine (ends_files (Q := (· = s)) rfl).bind fun s₁ hs => ?_
      subst hs
      cases hm : (s₁.tree.document path).bind Model.ofSchema with
      | error f =>
          rw [hm] at hmodel
          exact hmodel.bind_error
      | ok m =>
          rw [hm] at hmodel
          refine hmodel.bind fun s₂ htree => ?_
          refine (ends_say (Q := Has s₁.tree) htree).bind fun s₃ htree => ?_
          rw [← htree]
          exact (emit_does r site (m.sourceFile · path.name) platforms).add ih s₃

end GenerateRequest

end SpecForge.Command
