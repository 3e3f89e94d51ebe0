-- What operations on the gate table leave as it is: a gate stands under its
-- own identity, and a gate that is decided stays as it was decided, whoever
-- requests or decides gates. Only putting gates back can undo a decision.
import GatedPipeline.Gate.Table
import GatedPipeline.Proofs.Pairs
namespace GatedPipeline.GateTable

variable {ι : Type} {t t' u : GateTable ι}

/-- Every gate stands in the table under its own identity. -/
def Keyed (t : GateTable ι) : Prop := ∀ id g, t.get? id = some g → g.id = id

/-- The gates with some identities stay in the table, and those of them that are decided stay as
they are. -/
def Keeps (own : String → Prop) (t t' : GateTable ι) : Prop :=
  ∀ id g, own id → t.get? id = some g →
    ∃ g', t'.get? id = some g' ∧ (g.status ≠ .pending → g' = g)

theorem Keeps.refl (own : String → Prop) (t : GateTable ι) : Keeps own t t :=
  fun _ g _ h => ⟨g, h, fun _ => rfl⟩

theorem Keeps.trans {own : String → Prop} (h : Keeps own t t') (h' : Keeps own t' u) :
    Keeps own t u := by
  intro id g ho hg
  obtain ⟨g', hg', he⟩ := h id g ho hg
  obtain ⟨g'', hg'', he'⟩ := h' id g' ho hg'
  refine ⟨g'', hg'', fun hd => ?_⟩
  have : g' = g := he hd
  subst this
  exact he' hd

/-! ## Putting a gate into the table -/

theorem get?_put (t : GateTable ι) (g : Gate) (id : String) :
    (t.put g).get? id = if id = g.id then some g else t.get? id :=
  getPair?_putPair g.id id g t.gates

theorem keyed_put (h : t.Keyed) (g : Gate) : (t.put g).Keyed := by
  intro id g' hg
  rw [get?_put] at hg
  split at hg
  · rename_i hid
    cases hg
    exact hid.symm
  · exact h id g' hg

theorem keeps_put {own : String → Prop} {g : Gate}
    (h : own g.id → t.get? g.id = none ∨ ∃ g', t.get? g.id = some g' ∧ g'.status = .pending) :
    Keeps own t (t.put g) := by
  intro id g' ho hg
  rw [get?_put]
  by_cases hid : id = g.id
  · subst hid
    rcases h ho with hn | ⟨g'', hg'', hp⟩
    · rw [hn] at hg; cases hg
    · rw [hg''] at hg
      cases hg
      exact ⟨g, by simp, fun hd => absurd hp hd⟩
  · exact ⟨g', by simp [hid, hg], fun _ => rfl⟩

/-! ## Requests -/

/-- What a request gives: the gate as it is in the table afterwards. One that was there is
untouched, a new one of the run is put there, and no other gate changes. Nothing but the answer is
told. -/
theorem request_spec (t : GateTable ι) (name runId : String) (trigger : Option Trigger)
    (release : Option (List (String × String))) (now : Time) :
    let c := t.request name runId trigger release now
    c.table.get? (gateId runId name) = some c.answer ∧
      (∀ id, id ≠ gateId runId name → c.table.get? id = t.get? id) ∧
      c.table.listeners = t.listeners ∧
      ((t.get? (gateId runId name) = some c.answer ∧ c.table = t ∧ c.notices = []) ∨
        (t.get? (gateId runId name) = none ∧ c.answer.runId = runId ∧ c.answer.name = name ∧
          ∀ n ∈ c.notices, n.2 = c.answer)) := by
  unfold request
  split
  · rename_i g hg
    exact ⟨hg, fun _ _ => rfl, rfl, Or.inl ⟨hg, rfl, rfl⟩⟩
  · rename_i hnone
    have hput : ∀ (t : GateTable ι) (g : Gate), g.id = gateId runId name →
        (t.put g).get? (gateId runId name) = some g ∧
          ∀ id, id ≠ gateId runId name → (t.put g).get? id = t.get? id := by
      intro t g hid
      refine ⟨by simp [get?_put, hid], fun id hne => by simp [get?_put, hid, hne]⟩
    have hnew := hput t { name, runId, requestedAt := now } rfl
    dsimp only
    split
    · split
      · rename_i policy _ _
        have hdec := hput (t.put { name, runId, requestedAt := now })
          (Gate.decided { name, runId, requestedAt := now } .approved ("policy:" ++ policy.name)
            "auto approve" now) rfl
        refine ⟨hdec.1, fun id hne => (hdec.2 id hne).trans (hnew.2 id hne), rfl,
          Or.inr ⟨hnone, rfl, rfl, fun n hm => ?_⟩⟩
        obtain ⟨k, _, rfl⟩ := List.mem_map.1 hm
        rfl
      · exact ⟨hnew.1, hnew.2, rfl, Or.inr ⟨hnone, rfl, rfl, by simp⟩⟩
    · exact ⟨hnew.1, hnew.2, rfl, Or.inr ⟨hnone, rfl, rfl, by simp⟩⟩

variable (name runId : String) (trigger : Option Trigger)
  (release : Option (List (String × String))) (now : Time)

theorem id_request (h : t.Keyed) :
    (t.request name runId trigger release now).answer.id = gateId runId name := by
  obtain ⟨_, _, _, ⟨hold, _⟩ | ⟨_, hrun, hname, _⟩⟩ :=
    request_spec t name runId trigger release now
  · exact h _ _ hold
  · rw [Gate.id, hrun, hname]

theorem keyed_request (h : t.Keyed) : (t.request name runId trigger release now).table.Keyed := by
  obtain ⟨hself, hother, _⟩ := request_spec t name runId trigger release now
  intro id g hg
  by_cases hid : id = gateId runId name
  · subst hid
    rw [hself] at hg
    cases hg
    exact id_request name runId trigger release now h
  · exact h id g ((hother id hid).symm.trans hg)

theorem keeps_request (own : String → Prop) :
    Keeps own t (t.request name runId trigger release now).table := by
  obtain ⟨_, hother, _, hcase⟩ := request_spec t name runId trigger release now
  intro id g _ hg
  by_cases hid : id = gateId runId name
  · subst hid
    rcases hcase with ⟨_, ht, _⟩ | ⟨hnone, _⟩
    · exact ⟨g, by rw [ht]; exact hg, fun _ => rfl⟩
    · rw [hnone] at hg; cases hg
  · exact ⟨g, (hother id hid).trans hg, fun _ => rfl⟩

/-! ## Decisions -/

/-- What a decision comes to: the gate was decided before, or it was pending and is decided now,
which is told to every listener. -/
theorem decideAs_cases {id actor comment : String} {status : GateStatus} {now : Time}
    {c : GateChange ι GateStatus} (h : t.decideAs id status actor comment now = .ok c) :
    (c.table = t ∧ c.notices = [] ∧ ∃ g, t.get? id = some g ∧ g.status ≠ .pending) ∨
      ∃ g, t.get? id = some g ∧ g.status = .pending ∧
        c.table = { t with gates := putPair id (g.decided status actor comment now) t.gates } ∧
        c.notices = t.notices (g.decided status actor comment now) := by
  unfold decideAs at h
  split at h
  · cases h
  · rename_i g hg
    split at h
    · rename_i hp
      cases h
      exact Or.inr ⟨g, hg, hp, rfl, rfl⟩
    · rename_i hd
      cases h
      exact Or.inl ⟨rfl, rfl, g, hg, hd⟩

/-- A decision changes at most the gate that it is about, and that one only if it is pending. -/
theorem decideAs_spec {id actor comment : String} {status : GateStatus} {now : Time}
    {c : GateChange ι GateStatus} (h : t.decideAs id status actor comment now = .ok c) :
    c.table = t ∨ ∃ g, t.get? id = some g ∧ g.status = .pending ∧
      ∀ j, c.table.get? j =
        if j = id then some (g.decided status actor comment now) else t.get? j := by
  rcases decideAs_cases h with ⟨he, _⟩ | ⟨g, hg, hp, he, _⟩
  · exact Or.inl he
  · refine Or.inr ⟨g, hg, hp, fun j => ?_⟩
    rw [he]
    exact getPair?_putPair id j _ t.gates

section Decision

variable {id actor comment : String} {status : GateStatus} {c : GateChange ι GateStatus}

theorem keyed_decideAs (h : t.Keyed) (hc : t.decideAs id status actor comment now = .ok c) :
    c.table.Keyed := by
  rcases decideAs_spec hc with he | ⟨g, hg, _, he⟩
  · rw [he]; exact h
  · intro j g' hg'
    rw [he j] at hg'
    split at hg'
    · rename_i hj
      cases hg'
      subst hj
      exact h _ g hg
    · exact h j g' hg'

theorem keeps_decideAs (own : String → Prop)
    (hc : t.decideAs id status actor comment now = .ok c) : Keeps own t c.table := by
  rcases decideAs_spec hc with he | ⟨g, hg, hp, he⟩
  · rw [he]; exact Keeps.refl own t
  · intro j g' _ hg'
    rw [he j]
    by_cases hj : j = id
    · subst hj
      rw [hg] at hg'
      cases hg'
      exact ⟨_, if_pos rfl, fun hd => absurd hp hd⟩
    · exact ⟨g', by simp [hj, hg'], fun _ => rfl⟩

end Decision

/-- The decision that someone asks for is a decision for one of the two statuses. -/
theorem decideAs_of_decide {id actor comment : String} {d : Decision}
    {c : GateChange ι GateStatus} (h : t.decide id d actor comment now = .ok c) :
    ∃ status, d.outcome? = some status ∧ t.decideAs id status actor comment now = .ok c := by
  unfold decide at h
  split at h
  · cases h
  · rename_i status hs
    exact ⟨status, hs, h⟩

/-! ## The end of a run -/

theorem closeAll_spec (ids : List String) (t : GateTable ι) (own : String → Prop) :
    (t.Keyed → (t.closeAll now ids).table.Keyed) ∧ Keeps own t (t.closeAll now ids).table := by
  induction ids generalizing t with
  | nil => exact ⟨id, Keeps.refl own t⟩
  | cons id ids ih =>
    unfold closeAll
    split
    · exact ih t
    · rename_i change hc
      obtain ⟨hk, hs⟩ := ih change.table
      exact ⟨fun h => hk (keyed_decideAs now h hc), (keeps_decideAs now own hc).trans hs⟩

theorem keyed_closeRun (h : t.Keyed) : (t.closeRun runId now).table.Keyed :=
  (closeAll_spec now _ t fun _ => True).1 h

theorem keeps_closeRun (own : String → Prop) : Keeps own t (t.closeRun runId now).table :=
  (closeAll_spec now _ t own).2

/-! ## What others do with the table -/

/-- What anyone may do with the table while a run is going on: the table before and after it, and
what listeners are told. Gates of the run itself are not put back. -/
inductive Touched (run : String) (t : GateTable ι) : GateTable ι → List (ι × Gate) → Prop
  | attach (pattern : String) (p : Policy) : Touched run t (t.attach pattern p) []
  | subscribe (listener : ι) : Touched run t (t.subscribe listener) []
  | unsubscribe [DecidableEq ι] (listener : ι) : Touched run t (t.unsubscribe listener) []
  | request (name runId : String) (trigger : Option Trigger)
      (release : Option (List (String × String))) (now : Time) :
      Touched run t (t.request name runId trigger release now).table
        (t.request name runId trigger release now).notices
  | decide {id actor comment : String} {d : Decision} {now : Time} {c : GateChange ι GateStatus}
      (h : t.decide id d actor comment now = .ok c) : Touched run t c.table c.notices
  | closeRun (runId : String) (now : Time) :
      Touched run t (t.closeRun runId now).table (t.closeRun runId now).notices
  | restore (g : Gate) (foreign : ∀ name, g.id ≠ gateId run name) : Touched run t (t.restore g) []
  | reopen (g : Gate) (now : Time) (foreign : ∀ name, g.id ≠ gateId run name) :
      Touched run t (t.reopen g now) []

variable {run : String} {notices : List (ι × Gate)}

theorem Touched.keyed (h : Touched run t t' notices) (hk : t.Keyed) : t'.Keyed := by
  cases h with
  | attach | subscribe | unsubscribe => exact hk
  | request => exact keyed_request _ _ _ _ _ hk
  | decide hd =>
    obtain ⟨_, _, hd⟩ := decideAs_of_decide _ hd
    exact keyed_decideAs _ hk hd
  | closeRun => exact keyed_closeRun _ _ hk
  | restore => exact keyed_put hk _
  | reopen => exact keyed_put hk _

theorem Touched.keeps (h : Touched run t t' notices) :
    Keeps (fun id => ∃ name, id = gateId run name) t t' := by
  cases h with
  | attach | subscribe | unsubscribe => exact Keeps.refl _ t
  | request => exact keeps_request _ _ _ _ _ _
  | decide hd =>
    obtain ⟨_, _, hd⟩ := decideAs_of_decide _ hd
    exact keeps_decideAs _ _ hd
  | closeRun => exact keeps_closeRun _ _ _
  | restore g foreign | reopen g now foreign =>
    refine keeps_put ?_
    rintro ⟨name, hn⟩
    exact absurd hn (foreign name)

end GatedPipeline.GateTable
