-- Runs that share a gate table. As long as their identities have no slash, a
-- gate belongs to one run only, whatever its name is; and what is done for one
-- run puts gates of that run into the table, tells of them, and does no more.
import GatedPipeline.Proofs.Gate.Policies
namespace GatedPipeline

/-! ## Identities -/

/-- The identity of a run has no slash in it. -/
def Slashless (runId : String) : Prop := '/' ∉ runId.toList

instance (runId : String) : Decidable (Slashless runId) :=
  inferInstanceAs (Decidable ('/' ∉ runId.toList))

/-- What stands before the first place of a mark, and after it, can be read off a text. -/
theorem append_cons_inj {α : Type} {x : α} {l l' r r' : List α} (hl : x ∉ l) (hl' : x ∉ l')
    (h : l ++ x :: r = l' ++ x :: r') : l = l' ∧ r = r' := by
  induction l generalizing l' with
  | nil =>
    cases l' with
    | nil => exact ⟨rfl, (List.cons.inj h).2⟩
    | cons y l' => exact absurd ((List.cons.inj h).1 ▸ List.mem_cons_self) hl'
  | cons y l ih =>
    cases l' with
    | nil => exact absurd ((List.cons.inj h).1 ▸ List.mem_cons_self) hl
    | cons y' l' =>
      obtain ⟨rfl, htail⟩ := List.cons.inj h
      obtain ⟨rfl, rfl⟩ := ih (fun hm => hl (List.mem_cons_of_mem _ hm))
        (fun hm => hl' (List.mem_cons_of_mem _ hm)) htail
      exact ⟨rfl, rfl⟩

/-- The identity of a gate tells its run and its name. -/
theorem gateId_inj {a b name name' : String} (ha : Slashless a) (hb : Slashless b)
    (h : gateId a name = gateId b name') : a = b ∧ name = name' := by
  have hlists : a.toList ++ '/' :: name.toList = b.toList ++ '/' :: name'.toList := by
    have h := congrArg String.toList h
    simpa [gateId] using h
  obtain ⟨hrun, hname⟩ := append_cons_inj ha hb hlists
  exact ⟨String.toList_inj.1 hrun, String.toList_inj.1 hname⟩

/-! ## Gates by identity -/

/-- Every gate stands under its own identity, and belongs to a run without a slash in its name. -/
def Plain (gs : List (String × Gate)) : Prop := ∀ e ∈ gs, e.1 = e.2.id ∧ Slashless e.2.runId

/-- Gates of one run are put in, one after the other. -/
inductive Puts (a : String) (gs : List (String × Gate)) : List (String × Gate) → Prop
  | none : Puts a gs gs
  | put {gs' : List (String × Gate)} (h : Puts a gs gs') {g : Gate} (own : g.runId = a) :
      Puts a gs (putPair g.id g gs')

section Puts

variable {a b : String} {gs gs' gs'' : List (String × Gate)}

theorem Puts.trans (h : Puts a gs gs') (h' : Puts a gs' gs'') : Puts a gs gs'' := by
  induction h' with
  | none => exact h
  | put _ own ih => exact ih.put own

theorem Puts.one {g : Gate} (own : g.runId = a) : Puts a gs (putPair g.id g gs) := Puts.none.put own

theorem Puts.plain (h : Puts a gs gs') (ha : Slashless a) (hp : Plain gs) : Plain gs' := by
  induction h with
  | none => exact hp
  | put _ own ih =>
    intro e he
    rcases mem_putPair he with rfl | he
    · exact ⟨rfl, own ▸ ha⟩
    · exact ih e he

/-- What stands under the identity of a gate belongs to the run of the gate. -/
theorem Plain.runId_eq {g : Gate} {name : String} (hp : Plain gs) (ha : Slashless a)
    (h : getPair? (gateId a name) gs = some g) : g.runId = a := by
  obtain ⟨hid, hrun⟩ := hp _ (mem_of_getPair? h)
  exact (gateId_inj ha hrun hid).1.symm

/-- The gates of the other runs stay as they are, and where they are. -/
theorem Puts.others (h : Puts a gs gs') (ha : Slashless a) (hp : Plain gs) (hab : a ≠ b) :
    gs'.filter (·.2.runId = b) = gs.filter (·.2.runId = b) := by
  induction h with
  | none => rfl
  | @put gs' h g own ih =>
    rw [← ih]
    have hg : Slashless g.runId := own ▸ ha
    refine filter_putPair_outside (by simpa [own] using hab) fun old hold => ?_
    have hrun := (h.plain ha hp).runId_eq hg hold
    simpa [hrun, own] using hab

/-- The gate of a run is found among those of the run. -/
theorem Plain.getPair?_eq (hp : Plain gs) (hb : Slashless b) (name : String) :
    getPair? (gateId b name) gs = getPair? (gateId b name) (gs.filter (·.2.runId = b)) :=
  (getPair?_filter fun g hg => by simpa using hp.runId_eq hb hg).symm

end Puts

/-! ## Operations on the table -/

namespace GateTable

variable {ι : Type} {t u v : GateTable ι} {a b : String} {notices notices' : List (ι × Gate)}

/-- What is done to the table concerns one run only: gates of the run are put into it, and nothing
else is told of. -/
structure Concerns (a : String) (t u : GateTable ι) (notices : List (ι × Gate)) : Prop where
  puts : Puts a t.gates u.gates
  told : ∀ n ∈ notices, n.2.runId = a

theorem Concerns.trans (h : Concerns a t u notices) (h' : Concerns a u v notices') :
    Concerns a t v (notices ++ notices') :=
  ⟨h.puts.trans h'.puts, fun n hn => (List.mem_append.1 hn).elim (h.told n) (h'.told n)⟩

theorem concerns_put {g : Gate} (own : g.runId = a) : Concerns a t (t.put g) [] :=
  ⟨Puts.one own, by simp⟩

theorem told_notices {g : Gate} (t : GateTable ι) (own : g.runId = a) :
    ∀ n ∈ t.notices g, n.2.runId = a := by
  intro n hn
  obtain ⟨_, _, rfl⟩ := List.mem_map.1 hn
  exact own

theorem concerns_request (t : GateTable ι) (name a : String) (trigger : Option Trigger)
    (release : Option (List (String × String))) (now : Time) :
    Concerns a t (t.request name a trigger release now).table
      (t.request name a trigger release now).notices := by
  have hnew : Concerns a t (t.put { name, runId := a, requestedAt := now }) [] := concerns_put rfl
  unfold request
  split
  · exact ⟨.none, by simp⟩
  · dsimp only
    split
    · split
      · exact ⟨hnew.puts.put rfl, told_notices _ rfl⟩
      · exact hnew
    · exact hnew

variable {now : Time} {name : String}

theorem concerns_decideAs {actor comment : String} {status : GateStatus}
    {c : GateChange ι GateStatus} (ha : Slashless a) (hp : Plain t.gates)
    (h : t.decideAs (gateId a name) status actor comment now = .ok c) :
    Concerns a t c.table c.notices := by
  rcases decideAs_cases h with ⟨ht, hn, _⟩ | ⟨g, hg, _, ht, hn⟩
  · rw [ht, hn]
    exact ⟨.none, by simp⟩
  · have hown : g.runId = a := hp.runId_eq ha hg
    have hid : g.id = gateId a name := (hp _ (mem_of_getPair? hg)).1.symm
    rw [ht, hn]
    refine ⟨?_, told_notices t hown⟩
    have hput : Puts a t.gates (putPair g.id (g.decided status actor comment now) t.gates) :=
      Puts.one (g := g.decided status actor comment now) hown
    rwa [hid] at hput

theorem concerns_decide {actor comment : String} {d : Decision} {c : GateChange ι GateStatus}
    (ha : Slashless a) (hp : Plain t.gates)
    (h : t.decide (gateId a name) d actor comment now = .ok c) :
    Concerns a t c.table c.notices := by
  obtain ⟨_, _, h⟩ := decideAs_of_decide _ h
  exact concerns_decideAs ha hp h

theorem concerns_closeAll (ha : Slashless a) (hp : Plain t.gates) {ids : List String}
    (own : ∀ id ∈ ids, ∃ name, id = gateId a name) :
    Concerns a t (t.closeAll now ids).table (t.closeAll now ids).notices := by
  induction ids generalizing t with
  | nil => exact ⟨.none, by simp [closeAll]⟩
  | cons id ids ih =>
    obtain ⟨name, rfl⟩ := own id List.mem_cons_self
    have hrest := fun id hid => own id (List.mem_cons_of_mem _ hid)
    rcases closeAll_cons t now (gateId a name) ids with ⟨he, _⟩ | ⟨c, hc, ht, hn⟩
    · rw [he]
      exact ih hp hrest
    · have hone := concerns_decideAs ha hp hc
      rw [ht, hn]
      exact hone.trans (ih (hone.puts.plain ha hp) hrest)

theorem concerns_closeRun (t : GateTable ι) (ha : Slashless a) (hp : Plain t.gates) (now : Time) :
    Concerns a t (t.closeRun a now).table (t.closeRun a now).notices := by
  refine concerns_closeAll ha hp fun id hid => ?_
  obtain ⟨g, hg, rfl⟩ := List.mem_map.1 hid
  have hrun : a = g.runId := by simpa using (Bool.and_eq_true_iff.1 (List.mem_filter.1 hg).2).2
  exact ⟨g.name, by rw [hrun]; rfl⟩

/-! ## What a run sees of the table -/

theorem clear_of_plain (hp : Plain t.gates) (ha : Slashless a) : t.Clear a :=
  fun _ _ hg => hp.runId_eq ha hg

/-- A run whose identity has no slash sees the same of two tables of such runs if both have the same
gates of it. -/
theorem alike_of_plain (ht : Plain t.gates) (hu : Plain u.gates) (ha : Slashless a)
    (same : t.gatesOf a = u.gatesOf a) : Alike a t u :=
  ⟨same, clear_of_plain ht ha, clear_of_plain hu ha⟩

theorem keyed_of_plain (hp : Plain t.gates) : t.Keyed :=
  fun id g hg => (hp (id, g) (mem_of_getPair? hg)).1.symm

theorem pending_eq (t : GateTable ι) (run : String) :
    t.pending (some run) = ((t.gatesOf run).map (·.2)).filter (·.status = .pending) := by
  rw [pending, all, gatesOf, List.filter_map, List.filter_map, List.filter_filter]
  congr 2
  funext e
  simp only [Function.comp_apply, Option.all_some, Bool.beq_eq_decide_eq, eq_comm (a := run)]

end GateTable

end GatedPipeline
