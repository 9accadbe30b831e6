import SpecForge.Command.Run
import SpecForge.Proofs.Command.Plan

/-!
# What a run for code reports

A run of a request for code leaves the files of its emission. If it ends well and was to write
files, the last line that it shows says how many were written.
-/

namespace SpecForge

namespace Text

theorem afterStyle?_of_not_mem {cs : List Char} (h : '\x1b' ∉ cs) : afterStyle? cs = none := by
  unfold afterStyle?
  split
  · exact absurd List.mem_cons_self h
  · rfl

theorem plainChars_of_not_mem {cs : List Char} (h : '\x1b' ∉ cs) : plainChars cs = cs := by
  induction cs with
  | nil =>
      unfold plainChars
      rfl
  | cons c cs ih =>
      unfold plainChars
      split
      · rename_i hstyle
        rw [afterStyle?_of_not_mem h] at hstyle
        cases hstyle
      · rw [List.mem_cons, not_or] at h
        exact congrArg _ (ih h.2)

/-- A text without the character that styles begin with is shown as it is. -/
theorem plain_of_not_mem {s : String} (h : '\x1b' ∉ s.toList) : plain s = s := by
  rw [plain, plainChars_of_not_mem h, String.ofList_toList]

end Text

namespace Command

open Activity Project

theorem escape_not_mem_toDigits (n : Nat) : '\x1b' ∉ Nat.toDigits 10 n := by
  intro h
  have hdigit := Nat.isDigit_of_mem_toDigits (by decide) (by decide) h
  cases hdigit

theorem escape_not_mem_summary (written : Nat) (work : Work) :
    '\x1b' ∉ ("✓ " ++ work.summary written).toList := by
  cases work <;> simp [Work.summary, toString, escape_not_mem_toDigits]

theorem output_of_head? {s : Session} {n : Notice} (h : s.notices.head? = some n) :
    ∃ said, s.output = said ++ n.text := by
  obtain ⟨rest, hrest⟩ := List.head?_eq_some_iff.1 h
  refine ⟨String.join (rest.reverse.map Notice.text), ?_⟩
  rw [Session.output, hrest]
  simp

/-- The session behind a request that has this emission. -/
structure Reported (r : GenerateRequest) (e : Emission) (s : Session) : Prop where
  tree : s.tree = e.tree
  said : e.fault = none → r.isDryRun = false →
    ∃ work, s.notices.head? = some (.success (Work.summary e.written.length work))

theorem perform_ends (r : GenerateRequest) (base : Project.Path) (t : Tree)
    (replies : List String) :
    (r.perform base).Ends ⟨t, [], replies⟩ (GenerateRequest.ending (r.emission base t))
      (Reported r (r.emission base t)) := by
  have hends := r.perform_follows base t ⟨t, [], replies⟩ rfl
  rw [GenerateRequest.emission]
  cases hplan : r.plan base t with
  | error f =>
      rw [hplan] at hends
      exact hends.mono fun s hs => ⟨hs, fun h => by cases h⟩
  | ok plan =>
      rw [hplan] at hends
      exact hends.mono fun s hs => ⟨hs.tree, fun hf hdry => ⟨plan.work, hs.said hf hdry⟩⟩

theorem report_tree (r : Request) (e : Except Stop Unit × Session) :
    (r.report e).tree = e.2.tree := by
  obtain ⟨(f | _) | _, s⟩ := e
  · rw [Request.report.eq_def]
    dsimp only
    split
    · rfl
    · rfl
  · rfl
  · rfl

theorem report_of_status {r : Request} {e : Except Stop Unit × Session}
    (h : (r.report e).status = 0) : e.1 = .ok () ∧ (r.report e).output = e.2.output := by
  obtain ⟨(f | _) | _, s⟩ := e
  · rw [Request.report.eq_def] at h
    dsimp only at h
    split at h
    · cases h
    · cases h
  · cases h
  · exact ⟨rfl, rfl⟩

theorem run_of_error {env : Environment} {t : Tree} {input : String} {words : List String}
    {e : UsageError} (h : Request.read words = .error e) : (run env t input words).tree = t := by
  obtain ⟨usage, fault⟩ := e
  rw [run, h]
  cases fault <;> rfl

section

variable {env : Environment} {t : Tree} {input : String} {words : List String}
  {r : GenerateRequest}

theorem run_of_generate (h : Request.read words = .ok (.generate r)) :
    run env t input words = Request.report (.generate r)
      ((r.perform env.directory).perform ⟨t, [], typedLines input⟩) := by
  rw [run, h]
  rfl

/-- A run leaves the files of its emission. -/
theorem run_tree (h : Request.read words = .ok (.generate r)) :
    (run env t input words).tree = (r.emission env.directory t).tree := by
  rw [run_of_generate h, report_tree]
  exact (perform_ends r env.directory t _).session.tree

theorem fault_of_run (h : Request.read words = .ok (.generate r))
    (hstatus : (run env t input words).status = 0) :
    (r.emission env.directory t).fault = none := by
  rw [run_of_generate h] at hstatus
  have hresult := (perform_ends r env.directory t (typedLines input)).result
  rw [(report_of_status hstatus).1, GenerateRequest.ending] at hresult
  split at hresult
  · assumption
  · cases hresult

theorem status_of_fault (h : Request.read words = .ok (.generate r))
    (hfault : (r.emission env.directory t).fault = none) :
    (run env t input words).status = 0 := by
  have hresult := (perform_ends r env.directory t (typedLines input)).result
  rw [GenerateRequest.ending, hfault] at hresult
  rw [run_of_generate h]
  generalize (r.perform env.directory).perform ⟨t, [], typedLines input⟩ = e at hresult ⊢
  obtain ⟨result, s⟩ := e
  obtain rfl : result = .ok () := hresult
  rfl

/-- A run ends well if and only if nothing stops its emission. -/
theorem run_status (h : Request.read words = .ok (.generate r)) :
    (run env t input words).status =
      if (r.emission env.directory t).fault.isNone then 0 else 1 := by
  cases hfault : (r.emission env.directory t).fault with
  | none => exact status_of_fault h hfault
  | some f =>
      have hresult := (perform_ends r env.directory t (typedLines input)).result
      rw [GenerateRequest.ending, hfault] at hresult
      rw [run_of_generate h]
      generalize (r.perform env.directory).perform ⟨t, [], typedLines input⟩ = e at hresult ⊢
      obtain ⟨result, s⟩ := e
      obtain rfl : result = .error (.failed f) := hresult
      rw [Request.report.eq_def]
      dsimp only
      split <;> rfl

/-- A run that ends well shows at last how many files it has written. -/
theorem run_output (h : Request.read words = .ok (.generate r)) (hdry : r.isDryRun = false)
    (hstatus : (run env t input words).status = 0) :
    ∃ said work, (run env t input words).output =
      said ++ "✓ " ++ Work.summary (r.emission env.directory t).written.length work ++ "\n" := by
  have hfault := fault_of_run h hstatus
  have hreported := (perform_ends r env.directory t (typedLines input)).session
  obtain ⟨work, hlast⟩ := hreported.said hfault hdry
  obtain ⟨said, hsaid⟩ := output_of_head? hlast
  rw [run_of_generate h] at hstatus ⊢
  refine ⟨said, work, ?_⟩
  rw [(report_of_status hstatus).2, hsaid, Notice.text,
    Text.plain_of_not_mem (escape_not_mem_summary _ work)]
  simp only [String.append_assoc]

end

end Command

end SpecForge
