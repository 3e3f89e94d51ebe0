-- Steps run one after the other while each of them comes to a good end. The first
-- one that does not is the last one that is started, and only if there is none
-- does the stage succeed and have what all of them printed and wrote as outputs.
-- A stage has a report unless it comes to a step that cannot be started, or to
-- bytes that are no text, and just then it breaks off.
import GatedPipeline.Proofs.Pairs
import GatedPipeline.Proofs.Text
import GatedPipeline.Shell
import Mathlib.Data.List.TakeWhile
import Mathlib.Tactic.Ring
namespace GatedPipeline.Shell
open GatedPipeline.Text

/-! ## Lines that set outputs -/

theorem addOutputs_append (outputs ps qs : List (String × Value)) :
    addOutputs outputs (ps ++ qs) = addOutputs (addOutputs outputs ps) qs := List.foldl_append

/-- The command ends by itself: at no look at it is the stage cancelled or the time for it over. -/
def EndsByItself (setting : Setting) (c : CommandScript) : Prop :=
  ∀ left < c.looks, c.cancelAt ≠ some left ∧
    ∀ l, setting.limit = some l → ((c.looks - left : Nat) : Time) * setting.pollInterval ≤ l.span

/-- The command of the step can be started: its directory is there, and the system starts it. -/
def Starts (setting : Setting) (env : List (String × String)) (step : Step)
    (c : CommandScript) : Prop :=
  ∃ path, directoryOf setting step = .ok (path, true) ∧ startFault? setting env step path c = none

/-- What the command prints is text. -/
def PrintsText (setting : Setting) (c : CommandScript) : Prop :=
  ∃ out err, setting.reads c.stdout = some out ∧ setting.reads c.stderr = some err

/-- The step breaks the stage off: its directory cannot be looked for, its command cannot be
started, or what the command has printed is no text. -/
inductive Breaks (setting : Setting) (env : List (String × String)) (step : Step)
    (c : CommandScript) : Fault → Prop
  | directory {fault : Fault} (h : directoryOf setting step = .error fault) :
      Breaks setting env step c fault
  | start {fault : Fault} {path : String} (there : directoryOf setting step = .ok (path, true))
      (h : startFault? setting env step path c = some fault) : Breaks setting env step c fault
  | noText (starts : Starts setting env step c) (h : ¬ PrintsText setting c) :
      Breaks setting env step c .noText

/-- The command of the step is started, prints text, and ends by itself and without an error. -/
structure Clean (setting : Setting) (env : List (String × String)) (step : Step)
    (c : CommandScript) : Prop where
  starts : Starts setting env step c
  text : PrintsText setting c
  ends : EndsByItself setting c
  code : c.code = 0

/-- What the command of a step does if it is started. -/
def scriptAt (scripts : List CommandScript) (k : Nat) : CommandScript := scripts[k]?.getD {}

/-- What the commands of all steps do. -/
def scriptsOf (steps : List Step) (scripts : List CommandScript) : List CommandScript :=
  (List.range steps.length).map (scriptAt scripts)

/-- The circumstances that a step finds, with the files as the commands before it have left them. -/
def settingAt (setting : Setting) (scripts : List CommandScript) : Nat → Setting
  | 0 => setting
  | k + 1 => (settingAt setting scripts k).after (scriptAt scripts k)

/-- Whether the stage is cancelled when a step is to be started, and was not while a command ran. -/
def cancelledBefore (cancelled : Bool) (scripts : List CommandScript) : Nat → Bool
  | 0 => cancelled
  | k + 1 => (scriptAt scripts k).cancelAfter

/-- It comes to a step: all steps before it have come to a good end, and neither they nor it found
the stage cancelled. -/
structure Reached (setting : Setting) (env : List (String × String)) (steps : List Step)
    (scripts : List CommandScript) (cancelled : Bool) (k : Nat) : Prop where
  clean : ∀ j < k, ∀ step, steps[j]? = some step →
    Clean (settingAt setting scripts j) env step (scriptAt scripts j)
  uncancelled : ∀ j ≤ k, cancelledBefore cancelled scripts j = false

section Steps

variable {setting : Setting} {i : Instance} {env : List (String × String)} {step : Step}
  {steps : List Step} {c : CommandScript} {scripts : List CommandScript} {cancelled : Bool}

theorem breaks_iff {fault : Fault} : Breaks setting env step c fault ↔
    match directoryOf setting step with
    | .error fault' => fault' = fault
    | .ok (_, false) => False
    | .ok (path, true) =>
      match startFault? setting env step path c with
      | some fault' => fault' = fault
      | none => fault = .noText ∧ ¬ PrintsText setting c := by
  refine ⟨fun h => ?_, fun h => ?_⟩
  · cases h with
    | directory h => rw [h]
    | start there h => simp only [there, h]
    | noText starts h =>
      obtain ⟨path, hthere, hstart⟩ := starts
      simpa only [hthere, hstart, true_and] using h
  · split at h
    · rename_i fault' hdirectory
      exact .directory (h ▸ hdirectory)
    · exact h.elim
    · rename_i path hthere
      split at h
      · rename_i fault' hstart
        exact .start hthere (h ▸ hstart)
      · rename_i hstart
        exact h.1 ▸ .noText ⟨path, hthere, hstart⟩ h.2

theorem breaks_of_starts {fault : Fault} (h : Starts setting env step c) :
    Breaks setting env step c fault ↔ fault = .noText ∧ ¬ PrintsText setting c := by
  obtain ⟨path, hthere, hstart⟩ := h
  simp only [breaks_iff, hthere, hstart]

theorem scriptAt_tail (scripts : List CommandScript) (k : Nat) :
    scriptAt scripts.tail k = scriptAt scripts (k + 1) := by
  cases scripts <;> rfl

theorem scriptsOf_cons (step : Step) (steps : List Step) (scripts : List CommandScript) :
    scriptsOf (step :: steps) scripts = scriptAt scripts 0 :: scriptsOf steps scripts.tail := by
  simp only [scriptsOf, List.length_cons, List.range_succ_eq_map, List.map_cons, List.map_map]
  congr 2
  funext k
  exact (scriptAt_tail scripts k).symm

theorem settingAt_zero : settingAt setting scripts 0 = setting := rfl

theorem settingAt_tail (setting : Setting) (scripts : List CommandScript) (k : Nat) :
    settingAt (setting.after (scriptAt scripts 0)) scripts.tail k =
      settingAt setting scripts (k + 1) := by
  induction k with
  | zero => rfl
  | succ k ih => rw [settingAt, ih, scriptAt_tail, ← settingAt]

theorem cancelledBefore_tail (cancelled : Bool) (scripts : List CommandScript) (k : Nat) :
    cancelledBefore (scriptAt scripts 0).cancelAfter scripts.tail k =
      cancelledBefore cancelled scripts (k + 1) := by
  cases k with
  | zero => rfl
  | succ k => rw [cancelledBefore, cancelledBefore, scriptAt_tail]

theorem reached_zero : Reached setting env steps scripts cancelled 0 ↔ cancelled = false := by
  refine ⟨fun h => h.uncancelled 0 (Nat.le_refl 0), fun h => ⟨nofun, fun j hj => ?_⟩⟩
  rwa [Nat.le_zero.1 hj]

theorem reached_succ {k : Nat} : Reached setting env (step :: steps) scripts cancelled (k + 1) ↔
    cancelled = false ∧ Clean setting env step (scriptAt scripts 0) ∧
      Reached (setting.after (scriptAt scripts 0)) env steps scripts.tail
        (scriptAt scripts 0).cancelAfter k := by
  refine ⟨fun h => ⟨h.uncancelled 0 (Nat.zero_le _), h.clean 0 (Nat.succ_pos k) step rfl, ?_⟩,
    fun ⟨hopen, hclean, h⟩ => ?_⟩
  · refine ⟨fun j hj next hnext => ?_, fun j hj => ?_⟩
    · rw [scriptAt_tail, settingAt_tail]
      exact h.clean (j + 1) (Nat.succ_lt_succ hj) next hnext
    · rw [cancelledBefore_tail cancelled]
      exact h.uncancelled (j + 1) (Nat.succ_le_succ hj)
  · refine ⟨fun j hj next hnext => ?_, fun j hj => ?_⟩
    · cases j with
      | zero =>
        cases hnext
        exact hclean
      | succ j =>
        rw [← scriptAt_tail, ← settingAt_tail]
        exact h.clean j (Nat.lt_of_succ_lt_succ hj) next hnext
    · cases j with
      | zero => exact hopen
      | succ j =>
        rw [← cancelledBefore_tail]
        exact h.uncancelled j (Nat.le_of_succ_le_succ hj)

/-! ## A command under watch -/

/-- A report that is no success, and has no outputs if it is a failure. -/
structure Unsuccessful (report : BodyReport) : Prop where
  status : report.status ≠ .succeeded
  outputs : report.status = .failed → report.outputs = []

/-- The outputs that a command sets with what it prints. -/
def printedBy (setting : Setting) (c : CommandScript) : List (String × Value) :=
  printedOutputs ((setting.reads c.stdout).getD "")

/-- How far the commands have come with one more that has come to a good end. -/
structure Follows (setting : Setting) (step : Step) (c : CommandScript) (p q : Progress) : Prop where
  cancelled : q.cancelled = c.cancelAfter
  started : q.started.map Started.command = p.started.map Started.command ++ [step.run]
  outputs : q.outputs = addOutputs p.outputs (printedBy setting c)
  file : q.file = c.file p.file

/-- The steps end with the first of them: one command was started for it, or none. -/
structure Stops (setting : Setting) (env : List (String × String)) (step : Step) (c : CommandScript)
    (p q : Progress) (result : Except Fault BodyReport) (n : Nat) : Prop where
  unclean : p.cancelled = false → ¬ Clean setting env step c
  begun : 0 < n ↔ p.cancelled = false ∧ Starts setting env step c
  one : n ≤ 1
  started : q.started.map Started.command =
    p.started.map Started.command ++ ([step].take n).map Step.run
  fault : ∀ fault, result = .error fault ↔ p.cancelled = false ∧ Breaks setting env step c fault
  unsuccessful : ∀ report, result = .ok report → Unsuccessful report

/-- What comes of the first one of some steps: they go on with the next one, or end with it. -/
inductive Turn (setting : Setting) (env : List (String × String)) (step : Step) (c : CommandScript)
    (p : Progress) (next : Progress → Except Fault BodyReport × Progress) :
    Except Fault BodyReport × Progress → Prop
  | goesOn {q : Progress} (uncancelled : p.cancelled = false) (h : Clean setting env step c)
      (follows : Follows setting step c p q) : Turn setting env step c p next (next q)
  | stops {q : Progress} {result : Except Fault BodyReport} {n : Nat}
      (h : Stops setting env step c p q result n) : Turn setting env step c p next (result, q)

section Stops

variable {p q : Progress} {result : Except Fault BodyReport}

theorem Stops.begun_once (hopen : p.cancelled = false) (hstarts : Starts setting env step c)
    (hunclean : ¬ Clean setting env step c)
    (hq : q.started.map Started.command = p.started.map Started.command ++ [step.run])
    (fault : ∀ fault, result = .error fault ↔ fault = .noText ∧ ¬ PrintsText setting c)
    (unsuccessful : ∀ report, result = .ok report → Unsuccessful report) :
    Stops setting env step c p q result 1 where
  unclean _ := hunclean
  begun := by simp [hopen, hstarts]
  one := Nat.le_refl 1
  started := hq
  fault f := by rw [breaks_of_starts hstarts, fault f, and_iff_right hopen]
  unsuccessful := unsuccessful

theorem Stops.reported {report : BodyReport} (hopen : p.cancelled = false)
    (hstarts : Starts setting env step c) (htext : PrintsText setting c)
    (hunclean : ¬ Clean setting env step c)
    (hq : q.started.map Started.command = p.started.map Started.command ++ [step.run])
    (h : Unsuccessful report) : Stops setting env step c p q (.ok report) 1 :=
  .begun_once hopen hstarts hunclean hq (fun _ => ⟨nofun, fun hnone => absurd htext hnone.2⟩) (by
    rintro _ ⟨⟩
    exact h)

end Stops

/-- The file for outputs after the commands of all steps. -/
def fileAfter (file : OutputFile) (steps : List Step) (scripts : List CommandScript) : OutputFile :=
  (scriptsOf steps scripts).foldl (fun file c => c.file file) file

/-- The outputs that all steps set, in their order: those that are printed before those of the
file. -/
def settings (setting : Setting) (steps : List Step) (scripts : List CommandScript)
    (file : OutputFile) : List (String × Value) :=
  (scriptsOf steps scripts).flatMap (printedBy setting) ++
    fileOutputs ((fileAfter file steps scripts).text.toOption.getD "")

theorem fileAfter_cons (file : OutputFile) (step : Step) (steps : List Step)
    (scripts : List CommandScript) : fileAfter file (step :: steps) scripts =
      fileAfter ((scriptAt scripts 0).file file) steps scripts.tail := by
  rw [fileAfter, scriptsOf_cons, List.foldl_cons]
  rfl

theorem settings_cons (setting : Setting) (step : Step) (steps : List Step)
    (scripts : List CommandScript) (file : OutputFile) :
    settings setting (step :: steps) scripts file = printedBy setting (scriptAt scripts 0) ++
      settings setting steps scripts.tail ((scriptAt scripts 0).file file) := by
  rw [settings, scriptsOf_cons, List.flatMap_cons, List.append_assoc, fileAfter_cons]
  rfl

/-- All steps have come to a good end, and a command was started for each. -/
def AllClean (setting : Setting) (env : List (String × String)) (steps : List Step)
    (scripts : List CommandScript) (n : Nat) : Prop :=
  ∀ k step, steps[k]? = some step →
    k < n ∧ Clean (settingAt setting scripts k) env step (scriptAt scripts k)

/-- What some steps have come to that `n` commands were started for. -/
structure Course (setting : Setting) (env : List (String × String)) (steps : List Step)
    (scripts : List CommandScript) (p : Progress) (result : Except Fault BodyReport) (q : Progress)
    (n : Nat) : Prop where
  started : q.started.map Started.command =
    p.started.map Started.command ++ (steps.take n).map Step.run
  bound : n ≤ steps.length
  reached : ∀ k step, steps[k]? = some step →
    (k < n ↔ Reached setting env steps scripts p.cancelled k ∧
      Starts (settingAt setting scripts k) env step (scriptAt scripts k))
  fault : ∀ fault, result = .error fault ↔
    (∃ k step, steps[k]? = some step ∧ Reached setting env steps scripts p.cancelled k ∧
      Breaks (settingAt setting scripts k) env step (scriptAt scripts k) fault) ∨
    AllClean setting env steps scripts n ∧ (fileAfter p.file steps scripts).text = .error fault
  succeeded : ∀ report, result = .ok report →
    (report.status = .succeeded ↔ AllClean setting env steps scripts n)
  outputs : ∀ report, result = .ok report → report.status = .succeeded →
    report.outputs = addOutputs p.outputs (settings setting steps scripts p.file)
  failed : ∀ report, result = .ok report → report.status = .failed → report.outputs = []

section Course

variable {p q q' : Progress} {result : Except Fault BodyReport} {n : Nat}

theorem exists_step_cons {P : Nat → Step → Prop} :
    (∃ k next, (step :: steps)[k]? = some next ∧ P k next) ↔
      P 0 step ∨ ∃ k next, steps[k]? = some next ∧ P (k + 1) next := by
  refine ⟨?_, fun h => h.elim (fun h => ⟨0, step, rfl, h⟩) fun ⟨k, next, h⟩ => ⟨k + 1, next, h⟩⟩
  rintro ⟨_ | k, next, hnext, h⟩
  · cases hnext
    exact Or.inl h
  · exact Or.inr ⟨k, next, hnext, h⟩

theorem allClean_cons : AllClean setting env (step :: steps) scripts (n + 1) ↔
    Clean setting env step (scriptAt scripts 0) ∧
      AllClean (setting.after (scriptAt scripts 0)) env steps scripts.tail n := by
  refine ⟨fun h => ⟨(h 0 step rfl).2, fun k next hnext => ?_⟩, fun ⟨hclean, h⟩ k next hnext => ?_⟩
  · rw [scriptAt_tail, settingAt_tail]
    exact (h (k + 1) next hnext).imp_left Nat.lt_of_succ_lt_succ
  · cases k with
    | zero =>
      cases hnext
      exact ⟨Nat.succ_pos n, hclean⟩
    | succ k =>
      rw [← scriptAt_tail, ← settingAt_tail]
      exact (h k next hnext).imp_left Nat.succ_lt_succ

/-- With a first step that has come to a good end, the others go as they would alone. -/
theorem Course.cons (hopen : p.cancelled = false)
    (hclean : Clean setting env step (scriptAt scripts 0))
    (hq : Follows setting step (scriptAt scripts 0) p q)
    (h : Course (setting.after (scriptAt scripts 0)) env steps scripts.tail q result q' n) :
    Course setting env (step :: steps) scripts p result q' (n + 1) where
  started := by
    rw [h.started, hq.started, List.append_assoc]
    rfl
  bound := Nat.succ_le_succ h.bound
  reached
    | 0, _, rfl => by simp [reached_zero, hopen, settingAt_zero, hclean.starts]
    | k + 1, next, hnext => by
      rw [reached_succ, ← hq.cancelled, Nat.succ_lt_succ_iff, h.reached k next hnext, scriptAt_tail,
        settingAt_tail]
      simp [hopen, hclean]
  fault fault := by
    rw [h.fault, exists_step_cons, allClean_cons, fileAfter_cons, hq.file, settingAt_zero,
      breaks_of_starts hclean.starts]
    simp [reached_succ, hopen, hclean, hclean.text, hq.cancelled, scriptAt_tail, settingAt_tail]
  succeeded report hreport := by rw [h.succeeded report hreport, allClean_cons, and_iff_right hclean]
  outputs report hreport hs := by
    rw [h.outputs report hreport hs, hq.outputs, hq.file, settings_cons, addOutputs_append]
    rfl
  failed := h.failed

/-- Where the first step is the last one, no other is reached. -/
theorem Course.stops (h : Stops setting env step (scriptAt scripts 0) p q result n) :
    Course setting env (step :: steps) scripts p result q n := by
  have hnext : ∀ k, ¬ Reached setting env (step :: steps) scripts p.cancelled (k + 1) :=
    fun k hreached =>
      have ⟨hopen, hclean, _⟩ := reached_succ.1 hreached
      h.unclean hopen hclean
  have hnever : ¬ AllClean setting env (step :: steps) scripts n := fun hall =>
    have ⟨hbegun, hclean⟩ := hall 0 step rfl
    h.unclean (h.begun.1 hbegun).1 hclean
  refine ⟨?_, h.one.trans (Nat.succ_le_succ (Nat.zero_le _)), fun k next hstep => ?_,
    fun fault => ?_, fun report hreport => ?_, fun report hreport hs => ?_,
    fun report hreport => (h.unsuccessful report hreport).outputs⟩
  · rw [h.started]
    rcases Nat.le_one_iff_eq_zero_or_eq_one.1 h.one with rfl | rfl <;> rfl
  · cases k with
    | zero =>
      cases hstep
      rw [h.begun, reached_zero, settingAt_zero]
    | succ k =>
      have hlate : ¬ k + 1 < n := fun hk => absurd (hk.trans_le h.one) (by omega)
      exact ⟨fun hk => absurd hk hlate, fun hk => absurd hk.1 (hnext k)⟩
  · rw [h.fault, exists_step_cons]
    simp [reached_zero, settingAt_zero, hnext, hnever]
  · exact ⟨fun hs => absurd hs (h.unsuccessful report hreport).status, fun hall => absurd hall hnever⟩
  · exact absurd hs (h.unsuccessful report hreport).status

end Course

end Steps

/-! ## The law -/

end GatedPipeline.Shell
