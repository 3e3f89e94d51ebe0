-- No run gets stuck. When the passes have come to their end, the first instance
-- that has not ended runs, or waits for a gate that is not decided, or there is
-- no room because others run.
import GatedPipeline.Proofs.Run.Passes
namespace GatedPipeline.Scheduler

variable {s₀ s t u e : Scheduler} {id : String} {i : Instance}

/-! ## The first instance that has not ended -/

/-- Dependencies that have all ended keep nobody waiting. -/
theorem not_waiting_of_ended {g : StageGraph} {states : String → State}
    (h : ∀ d ∈ g.dependencies id, (states d).isTerminal = true) :
    g.dependencyStatus id states ≠ .waiting := by
  unfold StageGraph.dependencyStatus
  dsimp only
  split
  · simp
  · rename_i hlost
    rw [if_pos]
    · simp
    · refine List.all_eq_true.2 fun d hd => ?_
      have hended := h d hd
      have hkept : ¬ (states d).isLost = true := fun hl => hlost (List.any_eq_true.2 ⟨d, hd, hl⟩)
      cases hs : states d <;> simp_all [State.isTerminal, State.isLost]

theorem finished_of_allEnded (hf : Framed s) (h : AllEnded s) : s.run.finished = true := by
  refine List.all_eq_true.2 fun p hp => ?_
  obtain ⟨id, r⟩ := p
  have hnodup : (s.run.stages.map (·.1)).Nodup := hf.keys ▸ hf.sound.ids_nodup
  have hended := h id (hf.order_of_present (List.mem_map_of_mem hp))
  rwa [state_eq_of_getPair? (getPair?_of_mem hnodup hp)] at hended

/-- Unless all have ended there is a first instance in order that has not. -/
theorem exists_first_unended (hf : Framed s) (h : ¬ AllEnded s) :
    ∃ id ∈ s.graph.order, (s.state id).isTerminal = false ∧
      ∀ d ∈ s.graph.dependencies id, (s.state d).isTerminal = true := by
  rcases hfind : s.graph.order.find? (fun id => !(s.state id).isTerminal) with _ | id
  · refine absurd (fun id hid => ?_) h
    simpa using List.find?_eq_none.1 hfind id hid
  · obtain ⟨hopen, front, back, hsplit, hfront⟩ := List.find?_eq_some_iff_append.1 hfind
    refine ⟨id, List.mem_of_find?_eq_some hfind, by simpa using hopen, fun d hd => ?_⟩
    simpa using hfront d (hf.sound.sorted front id back hsplit d hd)

/-- A gate that is not decided keeps a ready instance from being started. -/
def WaitsForGate (s : Scheduler) : Prop :=
  ∃ id gid g, s.state id = .ready ∧ getPair? id s.awaiting = some gid ∧
    s.gates.get? gid = some g ∧ g.status = .pending

/-- A settled run has ended, or waits for a body or for a gate. -/
theorem Settled.live (hf : Framed s) (ht : Tidy s) (hmax : 1 ≤ s.maxParallel) (h : Settled s) :
    s.run.finished = true ∨ s.inFlight ≠ [] ∨ WaitsForGate s := by
  by_cases hall : AllEnded s
  · exact Or.inl (finished_of_allEnded hf hall)
  · refine Or.inr ?_
    obtain ⟨id, hid, hopen, hdeps⟩ := exists_first_unended hf hall
    obtain ⟨i, hi⟩ := exists_getPair?_of_key_mem (hf.sound.order_perm.mem_iff.1 hid)
    obtain rfl := hf.id_eq hi
    have hidle := h.idle i.id hid i hi
    cases hs : s.state i.id with
    | pending => exact absurd hs hidle.unpending
    -- it would wait for dependencies, but all of its own have ended
    | blocked => exact absurd (hidle.blocked hs) (not_waiting_of_ended hdeps)
    | running => exact Or.inl (List.ne_nil_of_mem ((ht.running i.id).2 hs))
    | ready =>
      rcases hw : getPair? i.id s.awaiting with _ | gid
      · have hable : s.startable i.id = true := by simp [startable, hs, hw]
        -- it could be started, so there is no room, and others run
        refine Or.inl fun hnil => ?_
        rcases h.full with hfull | hnone
        · rw [hnil] at hfull
          simp only [List.length_nil] at hfull
          omega
        · rw [hnone i.id hid] at hable
          cases hable
      · obtain ⟨g, hg, hpending⟩ := hidle.gated gid hs hw
        exact Or.inr ⟨i.id, gid, g, hs, hw, hg, hpending⟩
    | succeeded | failed | skipped | cancelled => rw [hs] at hopen; cases hopen

/-- A run that has gone as far as it can and has not ended waits for a body or for a gate. -/
theorem Leads.live (h₀ : Poised s₀) (hmax : 1 ≤ s₀.maxParallel) (h : Leads s₀ s)
    (going : s.advance.halted = false) (wanted : s.advance.superseded = false) :
    s.advance.run.finished = true ∨ s.advance.inFlight ≠ [] ∨ WaitsForGate s.advance := by
  obtain ⟨hf, hk⟩ := h.framed h₀.framed h₀.keyed
  have hlead : Leads s₀ s.advance := Leads.trans h (leads_advance s)
  refine (settled_advance hf hk going wanted).live (hlead.framed h₀.framed h₀.keyed).1
    (hlead.tidy h₀) ?_
  rwa [(hlead.steady h₀.framed h₀.keyed).maxParallel]

/-- A scheduler that has gone as far as it can waits for something until all has ended. -/
theorem Leads.not_stalled (h₀ : Poised s₀) (hmax : 1 ≤ s₀.maxParallel) (h : Leads s₀ s)
    (sound : s.advance.crash = none) (unfinished : s.advance.run.finished = false) :
    s.advance.stalled = false := by
  have hlead : Leads s₀ s.advance := Leads.trans h (leads_advance s)
  by_cases hstop : s.advance.fatal = true ∨ s.advance.superseded = true
  · have hended := finished_of_allEnded (hlead.framed h₀.framed h₀.keyed).1
      (hlead.allEnded h₀ hstop)
    rw [hended] at unfinished
    cases unfinished
  · simp only [not_or, Bool.not_eq_true] at hstop
    have hgoing : s.advance.halted = false := by simp [halted, hstop.1, sound]
    rcases Leads.live h₀ hmax h hgoing hstop.2 with hended | hbody | ⟨id, gid, _, _, hw, _⟩
    · rw [hended] at unfinished
      cases unfinished
    · simp [stalled, hbody]
    · have hne : s.advance.awaiting ≠ [] := by
        intro hnil
        rw [hnil] at hw
        cases hw
      simp [stalled, hne]

/-! ## The law -/

/-- When a run has gone as far as it can and was not stopped, all has ended, or a body is waited
for, or a gate is not decided. So a scheduler that goes on never finds that nothing will happen. -/
theorem a_run_never_stalls (h₀ : Poised s₀) (hmax : 1 ≤ s₀.maxParallel) (h : Leads s₀ s) :
    (s.advance.halted = false → s.advance.superseded = false →
      s.advance.run.finished = true ∨ s.advance.inFlight ≠ [] ∨ WaitsForGate s.advance) ∧
    ∀ v, v = (if s.cancelReason.isSome && !s.superseded then s.obeyCancel else s).advance →
      s.proceed = if v.crash.isSome || v.run.finished then v.finish else v := by
  refine ⟨h.live h₀ hmax, ?_⟩
  rintro v rfl
  have hobeyed := h.trans (leads_obey s)
  unfold proceed
  dsimp only
  generalize (if s.cancelReason.isSome && !s.superseded then s.obeyCancel else s) = u at hobeyed ⊢
  split
  · rfl
  · rename_i hopen
    simp only [Bool.or_eq_true, not_or, Bool.not_eq_true, Option.isSome_eq_false_iff,
      Option.isNone_iff_eq_none] at hopen
    rw [Leads.not_stalled h₀ hmax hobeyed hopen.1 hopen.2]
    rfl

theorem the_release_of_the_image_waits_for_its_gate :
    (1 : Int) ≤ shipStart.maxParallel ∧ shipWaiting.advance.run.finished = false ∧
      shipWaiting.advance.inFlight = [] ∧ WaitsForGate shipWaiting.advance := by
  have hmax : (1 : Int) ≤ shipStart.maxParallel := by decide +kernel
  have hopen : shipWaiting.advance.run.finished = false := by decide +kernel
  have hidle : shipWaiting.advance.inFlight = [] := by decide +kernel
  rcases (a_run_never_stalls fresh_shipStart.toPoised hmax leads_shipWaiting).1
    (by decide +kernel) (by decide +kernel) with hended | hbody | hgate
  · rw [hopen] at hended
    cases hended
  · exact absurd hidle hbody
  · exact ⟨hmax, hopen, hidle, hgate⟩

end GatedPipeline.Scheduler
