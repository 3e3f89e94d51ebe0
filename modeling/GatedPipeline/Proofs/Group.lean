-- Runs enter groups and leave them while others wait and are woken in any order.
-- What they do is written down as it happens, and the groups are read against
-- that: at most one run holds a group, and of the runs that cancel the active one
-- only the newest comes in.
import Mathlib.Logic.Relation
import GatedPipeline.Group
import GatedPipeline.Proofs.Pairs
namespace GatedPipeline.Groups

/-! ## What has happened -/

/-- What a run does with a group, and what it is told. -/
inductive Deed where
  /-- A run comes to the group, and cancels another one. -/
  | enters (group run : String) (cancelInProgress : Bool) (cancelled : Option String)
  /-- A run that came is let in, or it is turned away. -/
  | answered (group run : String) (cancelInProgress letIn : Bool)
  | leaves (group run : String)
  deriving DecidableEq, Repr

def Deed.group : Deed → String
  | .enters group .. | .answered group .. | .leaves group _ => group

def Deed.run : Deed → String
  | .enters _ run .. | .answered _ run .. | .leaves _ run => run

variable {ds before after : List Deed} {d : Deed} {group other run : String}

/-- The run has come to the group. -/
def Entered (ds : List Deed) (group run : String) : Prop :=
  ∃ flag cancelled, .enters group run flag cancelled ∈ ds

instance : Decidable (Entered ds group run) :=
  decidable_of_iff (∃ d ∈ ds, d matches .enters .. ∧ d.group = group ∧ d.run = run) <| by
    constructor
    · rintro ⟨d, hd, hm, rfl, rfl⟩
      cases d <;> simp at hm
      exact ⟨_, _, hd⟩
    · rintro ⟨flag, cancelled, hd⟩
      exact ⟨_, hd, rfl, rfl, rfl⟩

/-- The run was let into the group and has not left it since. -/
def Holds (ds : List Deed) (group run : String) : Prop :=
  ∃ before flag after, ds = before ++ .answered group run flag true :: after ∧
    .leaves group run ∉ after

/-- Some run came to the group after this one. -/
def Overtaken (ds : List Deed) (group run : String) : Prop :=
  ∃ before flag cancelled after, ds = before ++ .enters group run flag cancelled :: after ∧
    ∃ newer, Entered after group newer

/-- Where a list that has grown by one can be cut at a member: at the new one, or where it could
be cut before. -/
theorem concat_eq_cut {α : Type} {xs ys zs : List α} {x y : α} :
    xs ++ [x] = ys ++ y :: zs ↔
      (zs = [] ∧ ys = xs ∧ y = x) ∨ ∃ zs', zs = zs' ++ [x] ∧ xs = ys ++ y :: zs' := by
  constructor
  · intro h
    rcases List.eq_nil_or_concat zs with rfl | ⟨zs', z, rfl⟩
    · obtain ⟨rfl, hy⟩ := List.append_inj' h rfl
      exact Or.inl ⟨rfl, rfl, (List.cons.inj hy).1.symm⟩
    · rw [List.concat_eq_append, ← List.cons_append, ← List.append_assoc] at h
      obtain ⟨rfl, hz⟩ := List.append_inj' h rfl
      exact Or.inr ⟨zs', by rw [List.concat_eq_append, (List.cons.inj hz).1], rfl⟩
  · rintro (⟨rfl, rfl, rfl⟩ | ⟨zs', rfl, rfl⟩)
    · rfl
    · simp

@[simp] theorem entered_concat :
    Entered (ds ++ [d]) group run ↔
      Entered ds group run ∨ ∃ flag cancelled, d = .enters group run flag cancelled := by
  simp only [Entered, List.mem_append, List.mem_singleton, exists_or]
  exact or_congr_right ⟨fun ⟨f, x, h⟩ => ⟨f, x, h.symm⟩, fun ⟨f, x, h⟩ => ⟨f, x, h.symm⟩⟩

@[simp] theorem holds_concat :
    Holds (ds ++ [d]) group run ↔
      (∃ flag, d = .answered group run flag true) ∨
        (Holds ds group run ∧ d ≠ .leaves group run) := by
  constructor
  · rintro ⟨before, flag, after, h, hl⟩
    rcases concat_eq_cut.1 h with ⟨-, -, hd⟩ | ⟨after', rfl, hds⟩
    · exact Or.inl ⟨flag, hd.symm⟩
    · rw [List.mem_append, List.mem_singleton, not_or] at hl
      exact Or.inr ⟨⟨before, flag, after', hds, hl.1⟩, Ne.symm hl.2⟩
  · rintro (⟨flag, rfl⟩ | ⟨⟨before, flag, after, rfl, hl⟩, hd⟩)
    · exact ⟨ds, flag, [], rfl, by simp⟩
    · exact ⟨before, flag, after ++ [d], by simp, by simp [hl, Ne.symm hd]⟩

@[simp] theorem overtaken_concat :
    Overtaken (ds ++ [d]) group run ↔
      Overtaken ds group run ∨
        (Entered ds group run ∧ ∃ newer flag cancelled, d = .enters group newer flag cancelled) := by
  constructor
  · rintro ⟨before, flag, cancelled, after, h, newer, hn⟩
    rcases concat_eq_cut.1 h with ⟨rfl, -, -⟩ | ⟨after', rfl, rfl⟩
    · obtain ⟨_, _, hn⟩ := hn
      cases hn
    · rcases entered_concat.1 hn with hn | hn
      · exact Or.inl ⟨before, flag, cancelled, after', rfl, newer, hn⟩
      · exact Or.inr ⟨⟨flag, cancelled, by simp⟩, newer, hn⟩
  · rintro (⟨before, flag, cancelled, after, rfl, newer, hn⟩ | ⟨⟨flag, cancelled, hr⟩, newer, hn⟩)
    · exact ⟨before, flag, cancelled, after ++ [d], by simp, newer, entered_concat.2 (Or.inl hn)⟩
    · obtain ⟨before, after, rfl⟩ := List.append_of_mem hr
      exact ⟨before, flag, cancelled, after ++ [d], by simp, newer, entered_concat.2 (Or.inr hn)⟩

theorem Overtaken.entered (h : Overtaken ds group run) : Entered ds group run := by
  obtain ⟨_, flag, cancelled, _, rfl, _⟩ := h
  exact ⟨flag, cancelled, by simp⟩

theorem filter_group_concat (h : d.group ≠ group) :
    (ds ++ [d]).filter (·.group = group) = ds.filter (·.group = group) := by
  simp [h]

theorem not_holds_nil : ¬ Holds [] group run := by
  rintro ⟨before, flag, after, h, -⟩
  simp at h

/-! ## A group, and what is done to it -/

variable {ι : Type}

/-- The groups, and what has happened until now. -/
structure Chronicle (ι : Type) where
  groups : Groups ι := {}
  deeds : List Deed := []

namespace Chronicle

/-- A run comes to a group. If the group is free it is let in at once. -/
def enter (c : Chronicle ι) (group : String) (e : Entrant ι) (cancelInProgress : Bool) :
    Chronicle ι :=
  let (groups, entry, cancelled) := c.groups.enter group e cancelInProgress
  let came := c.deeds ++ [.enters group e.run cancelInProgress (cancelled.map (·.run))]
  { groups,
    deeds := if entry = .entered then came ++ [.answered group e.run cancelInProgress true]
      else came }

/-- A run that waits is woken and looks again. -/
def wake [DecidableEq ι] (c : Chronicle ι) (w : Waiter ι) : Chronicle ι :=
  let (groups, entry) := c.groups.wake w.entrant.key
  { groups,
    deeds := match entry with
      | .entered => c.deeds ++ [.answered w.group w.entrant.run w.cancelInProgress true]
      | .superseded => c.deeds ++ [.answered w.group w.entrant.run w.cancelInProgress false]
      | .queued => c.deeds }

def leave (c : Chronicle ι) (group run : String) : Chronicle ι :=
  { groups := c.groups.leave group run, deeds := c.deeds ++ [.leaves group run] }

/-- What can happen to a group next. No two runs that come to it have one name, and a run that
waits does nothing but wait. A run may leave a group at any time: unless it is the active one, that
only wakes the others. -/
inductive Step [DecidableEq ι] : String → Chronicle ι → Chronicle ι → Prop
  | enter (c : Chronicle ι) (group : String) (e : Entrant ι) (cancelInProgress : Bool)
      (distinct : ¬ Entered c.deeds group e.run)
      (awake : ∀ w ∈ c.groups.waiting, w.entrant.key ≠ e.key) :
      Step group c (c.enter group e cancelInProgress)
  | wake (c : Chronicle ι) (w : Waiter ι) (waits : w ∈ c.groups.waiting) :
      Step w.group c (c.wake w)
  | leave (c : Chronicle ι) (group run : String) : Step group c (c.leave group run)

/-- What the groups can come to, from no runs at all. -/
def Reached [DecidableEq ι] : Chronicle ι → Prop :=
  Relation.ReflTransGen (fun c c' => ∃ group, Step group c c') {}

end Chronicle

/-- Those that wait for a group, in the order in which they came. -/
def queue (ws : List (Waiter ι)) (group : String) : List (Entrant ι × Bool) :=
  (ws.filter (·.group = group)).map fun w => (w.entrant, w.cancelInProgress)

/-- What is known of a group: the run that is active in it, the newest run, and those that wait. -/
def view (g : Groups ι) (group : String) :
    Option (Entrant ι) × Option String × List (Entrant ι × Bool) :=
  (g.activeRun group, getPair? group g.latest, queue g.waiting group)

/-! ## One change of the groups -/

section

variable {g : Groups ι} {e : Entrant ι} {flag : Bool} {w : Waiter ι}

theorem activeRun_leave :
    (g.leave group run).activeRun other =
      if other = group ∧ (g.activeRun group).map (·.run) = some run then none
      else g.activeRun other := by
  unfold leave activeRun
  rcases getPair? group g.active with _ | current
  · simp
  · by_cases hr : current.run = run
    · by_cases ho : other = group <;> simp [hr, ho, getPair?_dropPair]
    · simp [hr]

/-- A run that waits is found by its key, for no two wait under one key. -/
theorem find?_of_mem [DecidableEq ι] {ws : List (Waiter ι)}
    (hn : (ws.map (·.entrant.key)).Nodup) (hw : w ∈ ws) :
    ws.find? (·.entrant.key = w.entrant.key) = some w := by
  induction ws with
  | nil => cases hw
  | cons v vs ih =>
    rw [List.map_cons, List.nodup_cons] at hn
    rcases List.mem_cons.1 hw with rfl | hw
    · simp
    · have hv : v.entrant.key ≠ w.entrant.key := fun he =>
        hn.1 (he ▸ List.mem_map_of_mem hw)
      rw [List.find?_cons_of_neg (by simpa using hv), ih hn.2 hw]

theorem queue_map {ws : List (Waiter ι)} {f : Waiter ι → Waiter ι}
    (hf : ∀ w, (f w).group = w.group ∧ (f w).entrant = w.entrant ∧
      (f w).cancelInProgress = w.cancelInProgress) :
    queue (ws.map f) group = queue ws group := by
  simp [queue, List.filter_map, Function.comp_def, hf]

/-- A run that waits for another group goes, and with it no other. -/
theorem queue_filter [DecidableEq ι] {ws : List (Waiter ι)}
    (hn : (ws.map (·.entrant.key)).Nodup) (hw : w ∈ ws) (hg : w.group ≠ group) :
    queue (ws.filter (·.entrant.key ≠ w.entrant.key)) group = queue ws group := by
  unfold queue
  rw [List.filter_filter]
  congr 1
  refine List.filter_congr fun v hv => ?_
  by_cases hk : v.entrant.key = w.entrant.key
  · have hvw : v = w := by
      have h := find?_of_mem hn hv
      simp only [hk, find?_of_mem hn hw, Option.some.injEq] at h
      exact h.symm
    simp [hvw, hg]
  · simp [hk]

/-- Everything that can become of a waiting run that is woken. -/
theorem wake_cases [DecidableEq ι] (hn : (g.waiting.map (·.entrant.key)).Nodup)
    (hw : w ∈ g.waiting) :
    let others := g.waiting.filter (·.entrant.key ≠ w.entrant.key)
    (w.cancelInProgress = true ∧ getPair? w.group g.latest ≠ some w.entrant.run ∧
      g.wake w.entrant.key = ({ g with waiting := others }, .superseded)) ∨
    ((w.cancelInProgress = true → getPair? w.group g.latest = some w.entrant.run) ∧
      g.activeRun w.group = none ∧
      g.wake w.entrant.key =
        ({ g with waiting := others, active := putPair w.group w.entrant g.active }, .entered)) ∨
    g.wake w.entrant.key =
      ({ g with waiting := g.waiting.map fun v =>
          if v.entrant.key = w.entrant.key then { v with notified := false } else v }, .queued) := by
  intro others
  simp only [wake, find?_of_mem hn hw, outlook]
  by_cases hs : w.cancelInProgress = true ∧ getPair? w.group g.latest ≠ some w.entrant.run
  · exact Or.inl ⟨hs.1, hs.2, by simp [hs.1, hs.2, others]⟩
  · have hs' : (w.cancelInProgress && getPair? w.group g.latest != some w.entrant.run) = false := by
      simpa using hs
    rcases ha : g.activeRun w.group with _ | current
    · exact Or.inr (Or.inl ⟨by simpa using hs, rfl, by simp [hs', others]⟩)
    · exact Or.inr (Or.inr (by simp [hs']))

end

/-! ## What has happened tells how the groups stand -/

/-- A run that comes to a group cancels the one that holds it, if it cancels at all. And it is
turned away if it would have cancelled and a newer run has come, else let in. -/
def Fair (before : List Deed) : Deed → Prop
  | .enters group _ flag cancelled =>
    ∀ run, cancelled = some run ↔ flag = true ∧ Holds before group run
  | .answered group run flag letIn => letIn = false ↔ flag = true ∧ Overtaken before group run
  | .leaves _ _ => True

structure Chronicle.Sound (c : Chronicle ι) : Prop where
  /-- The active run is the one that holds the group. -/
  holder : ∀ group run, (c.groups.activeRun group).map (·.run) = some run ↔ Holds c.deeds group run
  /-- The newest run is the one that no other has overtaken. -/
  newest : ∀ group run, Entered c.deeds group run →
    (getPair? group c.groups.latest = some run ↔ ¬ Overtaken c.deeds group run)
  waiters : ∀ w ∈ c.groups.waiting, Entered c.deeds w.group w.entrant.run
  keys : (c.groups.waiting.map (·.entrant.key)).Nodup
  fair : ∀ before d after, c.deeds = before ++ d :: after → Fair before d

namespace Chronicle

variable {c c' : Chronicle ι} {e : Entrant ι} {flag : Bool} {w : Waiter ι}

/-- A run that comes to a free group is let in. -/
theorem enter_free (ha : c.groups.activeRun group = none) :
    c.enter group e flag =
      { groups := { c.groups with latest := putPair group e.run c.groups.latest,
                                  active := putPair group e c.groups.active },
        deeds := c.deeds ++ [.enters group e.run flag none] ++ [.answered group e.run flag true] } := by
  have hg : activeRun { c.groups with latest := putPair group e.run c.groups.latest } group = none :=
    ha
  unfold Chronicle.enter Groups.enter
  simp only [hg]
  rfl

/-- A run that comes to a group with an active run waits. -/
theorem enter_busy {current : Entrant ι} (ha : c.groups.activeRun group = some current) :
    c.enter group e flag =
      { groups := { c.groups with latest := putPair group e.run c.groups.latest,
                                  waiting := c.groups.waiting ++
                                    [{ group, entrant := e, cancelInProgress := flag }] },
        deeds := c.deeds ++ [.enters group e.run flag (if flag then some current.run else none)] } := by
  have hg : activeRun { c.groups with latest := putPair group e.run c.groups.latest } group =
    some current := ha
  unfold Chronicle.enter Groups.enter
  simp only [hg]
  cases flag <;> rfl

theorem fair_concat (h : ∀ before d after, ds = before ++ d :: after → Fair before d)
    (hd : Fair ds d) :
    ∀ before d' after, ds ++ [d] = before ++ d' :: after → Fair before d' := by
  intro before d' after hs
  rcases concat_eq_cut.1 hs with ⟨-, rfl, rfl⟩ | ⟨after', -, hds⟩
  · exact hd
  · exact h before d' after' hds

theorem sound_nil : Sound ({} : Chronicle ι) where
  holder := fun _ _ => iff_of_false (by simp [activeRun]) not_holds_nil
  newest := fun _ _ ⟨_, _, h⟩ => by cases h
  waiters := fun _ h => by cases h
  keys := List.nodup_nil
  fair := fun before d after h => by simp at h

/-- Other runs can wait, if all of them have come. -/
theorem Sound.waiting (h : Sound c) (ws : List (Waiter ι))
    (came : ∀ w ∈ ws, Entered c.deeds w.group w.entrant.run)
    (keys : (ws.map (·.entrant.key)).Nodup) :
    Sound { c with groups := { c.groups with waiting := ws } } :=
  { h with waiters := came, keys := keys }

/-- Those that wait can be told something. -/
theorem Sound.marked (h : Sound c) (f : Waiter ι → Waiter ι)
    (hf : ∀ w, (f w).group = w.group ∧ (f w).entrant = w.entrant) :
    Sound { c with groups := { c.groups with waiting := c.groups.waiting.map f } } := by
  refine h.waiting _ (fun v hv => ?_) ?_
  · obtain ⟨w, hw, rfl⟩ := List.mem_map.1 hv
    rw [(hf w).1, (hf w).2]
    exact h.waiters w hw
  · have hkey : (fun w : Waiter ι => w.entrant.key) ∘ f = fun w => w.entrant.key :=
      funext fun w => by rw [Function.comp, (hf w).2]
    rw [List.map_map, hkey]
    exact h.keys

/-- A run that comes is the newest one, and it overtakes all that came before. -/
theorem Sound.come (h : Sound c) (flag : Bool) (x : Option String)
    (distinct : ¬ Entered c.deeds group run)
    (hx : ∀ r, x = some r ↔ flag = true ∧ Holds c.deeds group r) :
    Sound { groups := { c.groups with latest := putPair group run c.groups.latest },
            deeds := c.deeds ++ [.enters group run flag x] } where
  holder g r := (h.holder g r).trans (by simp)
  newest g r hr := by
    have known : ∀ {g r}, ¬ (g = group ∧ r = run) →
        Entered (c.deeds ++ [.enters group run flag x]) g r → Entered c.deeds g r :=
      fun hne hr => (entered_concat.1 hr).resolve_right fun ⟨_, _, hd⟩ =>
        hne (by cases hd; exact ⟨rfl, rfl⟩)
    rw [getPair?_putPair, overtaken_concat]
    by_cases hg : g = group
    · subst hg
      rw [if_pos rfl]
      by_cases he : r = run
      · subst he
        simp [distinct, mt Overtaken.entered distinct]
      · exact iff_of_false (fun hs => he (Option.some.inj hs).symm) fun hno =>
          hno (Or.inr ⟨known (fun hc => he hc.2) hr, run, flag, x, rfl⟩)
    · rw [if_neg hg, h.newest g r (known (fun hc => hg hc.1) hr)]
      simp [Ne.symm hg]
  waiters w hw := entered_concat.2 (Or.inl (h.waiters w hw))
  keys := h.keys
  fair := fair_concat h.fair hx

/-- A run that has come is let into a group that is free, unless it gives way to a newer run. -/
theorem Sound.letIn (h : Sound c) (e : Entrant ι) (flag : Bool)
    (free : c.groups.activeRun group = none)
    (came : flag = true → ¬ Overtaken c.deeds group e.run) :
    Sound { groups := { c.groups with active := putPair group e c.groups.active },
            deeds := c.deeds ++ [.answered group e.run flag true] } where
  holder g r := by
    have hold := h.holder g r
    rw [activeRun, getPair?_putPair, holds_concat]
    by_cases hg : g = group
    · subst hg
      have hn : ¬ Holds c.deeds g r := fun hh => by simp [free] at hold; exact hold hh
      simp [hn, eq_comm]
    · rw [if_neg hg]
      simpa [Ne.symm hg, activeRun] using hold
  newest g r hr := by simpa using h.newest g r (by simpa using hr)
  waiters w hw := entered_concat.2 (Or.inl (h.waiters w hw))
  keys := h.keys
  fair := fair_concat h.fair (iff_of_false (by simp) fun hf => came hf.1 hf.2)

/-- A run that gives way to a newer one is turned away. -/
theorem Sound.turnAway (h : Sound c) (hf : flag = true) (ho : Overtaken c.deeds group run) :
    Sound { c with deeds := c.deeds ++ [.answered group run flag false] } where
  holder g r := (h.holder g r).trans (by simp)
  newest g r hr := by simpa using h.newest g r (by simpa using hr)
  waiters w hw := entered_concat.2 (Or.inl (h.waiters w hw))
  keys := h.keys
  fair := fair_concat h.fair (iff_of_true rfl ⟨hf, ho⟩)

theorem Sound.enter (h : Sound c) (distinct : ¬ Entered c.deeds group e.run)
    (awake : ∀ w ∈ c.groups.waiting, w.entrant.key ≠ e.key) : Sound (c.enter group e flag) := by
  rcases ha : c.groups.activeRun group with _ | current
  · have hnone : ∀ r, ¬ Holds c.deeds group r := fun r hr => by
      simpa [ha] using (h.holder group r).2 hr
    have came := h.come flag none distinct fun r => by simp [hnone]
    have hin := came.letIn e flag ha fun _ => by
      simp [distinct, mt Overtaken.entered distinct]
    rw [enter_free ha]
    exact hin
  · have came := h.come flag (if flag then some current.run else none) distinct
      fun r => by
        rw [← h.holder group r, ha]
        cases flag <;> simp
    have hw := came.waiting
      (c.groups.waiting ++ [{ group, entrant := e, cancelInProgress := flag }])
      (fun w hw => by
        rcases List.mem_append.1 hw with hw | hw
        · exact came.waiters w hw
        · rw [List.mem_singleton.1 hw]
          exact entered_concat.2 (Or.inr ⟨flag, _, rfl⟩))
      (by
        rw [List.map_append, List.nodup_append]
        refine ⟨h.keys, by simp, ?_⟩
        rintro _ hk _ hk' rfl
        obtain ⟨w, hw, he⟩ := List.mem_map.1 hk
        exact awake w hw (he.trans (by simpa using hk')))
    rw [enter_busy ha]
    exact hw

theorem Sound.wake [DecidableEq ι] (h : Sound c) (hw : w ∈ c.groups.waiting) :
    Sound (c.wake w) := by
  have hothers := h.waiting (c.groups.waiting.filter (·.entrant.key ≠ w.entrant.key))
    (fun v hv => h.waiters v (List.mem_filter.1 hv).1)
    (List.Nodup.sublist (List.filter_sublist.map _) h.keys)
  have hnewest := h.newest _ _ (h.waiters w hw)
  unfold Chronicle.wake
  rcases wake_cases h.keys hw with ⟨hf, hl, he⟩ | ⟨hl, ha, he⟩ | he
  · rw [he]
    exact hothers.turnAway hf (Classical.not_not.1 (mt hnewest.2 hl))
  · rw [he]
    exact hothers.letIn _ _ ha fun hf => hnewest.1 (hl hf)
  · rw [he]
    exact h.marked _ fun v => by split <;> exact ⟨rfl, rfl⟩

theorem Sound.leave (h : Sound c) (group run : String) : Sound (c.leave group run) := by
  have told := h.marked (fun w => { w with notified := true }) fun _ => ⟨rfl, rfl⟩
  exact
    { holder := fun g r => by
        have hold := h.holder g r
        rw [Chronicle.leave, activeRun_leave, holds_concat]
        by_cases hg : g = group
        · subst hg
          by_cases hr : r = run
          · subst hr
            by_cases hh : Holds c.deeds g r
            · simp [hold.2 hh]
            · have hno := mt hold.1 hh
              rw [if_neg fun hc => hno hc.2]
              exact iff_of_false hno (by simp [hh])
          · by_cases ha : (c.groups.activeRun g).map (·.run) = some run
            · have hn : ¬ Holds c.deeds g r := fun hh =>
                hr (Option.some.inj ((hold.2 hh).symm.trans ha))
              simp [ha, hn]
            · simpa [ha, Ne.symm hr] using hold
        · simpa [hg, Ne.symm hg] using hold
      newest := fun g r hr => by
        have came := (entered_concat.1 hr).resolve_right (by simp)
        exact (told.newest g r came).trans (not_congr (by simp [Chronicle.leave]))
      waiters := fun w hw => entered_concat.2 (Or.inl (told.waiters w hw))
      keys := told.keys
      fair := fair_concat h.fair trivial }

theorem Sound.step [DecidableEq ι] (h : Sound c) (hs : Step group c c') : Sound c' := by
  cases hs with
  | enter _ group e flag distinct awake => exact h.enter distinct awake
  | wake _ w waits => exact h.wake waits
  | leave _ group run => exact h.leave group run

theorem Reached.sound [DecidableEq ι] (h : Reached c) : Sound c := by
  induction h with
  | refl => exact sound_nil
  | tail _ hs ih =>
    obtain ⟨_, hs⟩ := hs
    exact ih.step hs

/-- What is done with one group leaves the others as they are. -/
theorem Step.view_other [DecidableEq ι] (h : Sound c) (hs : Step other c c')
    (hne : other ≠ group) :
    c'.groups.view group = c.groups.view group ∧
      c'.deeds.filter (·.group = group) = c.deeds.filter (·.group = group) := by
  cases hs with
  | enter _ _ e flag distinct awake =>
    rcases ha : c.groups.activeRun other with _ | current
    · rw [enter_free ha]
      simp only [filter_group_concat (show Deed.group (.answered other _ _ _) ≠ group from hne),
        filter_group_concat (show Deed.group (.enters other _ _ _) ≠ group from hne), and_true]
      simp [view, activeRun, getPair?_putPair_ne (Ne.symm hne)]
    · rw [enter_busy ha, filter_group_concat (show Deed.group (.enters other _ _ _) ≠ group from hne)]
      simp [view, activeRun, queue, hne, getPair?_putPair_ne (Ne.symm hne)]
  | wake _ w waits =>
    have hothers := queue_filter h.keys waits hne
    unfold Chronicle.wake
    rcases wake_cases h.keys waits with ⟨-, -, he⟩ | ⟨-, -, he⟩ | he
    · rw [he]
      exact ⟨by simp only [view, hothers]; rfl, filter_group_concat hne⟩
    · rw [he]
      refine ⟨?_, filter_group_concat hne⟩
      simp only [view, hothers, activeRun, getPair?_putPair_ne (Ne.symm hne)]
    · have hq : queue (c.groups.waiting.map fun v =>
          if v.entrant.key = w.entrant.key then { v with notified := false } else v) group =
            queue c.groups.waiting group :=
        queue_map fun v => by split <;> exact ⟨rfl, rfl, rfl⟩
      simp [he, view, activeRun, hq]
  | leave _ _ run =>
    have ha : (c.groups.leave other run).activeRun group = c.groups.activeRun group := by
      rw [activeRun_leave, if_neg fun hc => hne hc.1.symm]
    have hq : queue (c.groups.leave other run).waiting group = queue c.groups.waiting group :=
      queue_map fun _ => ⟨rfl, rfl, rfl⟩
    refine ⟨?_, filter_group_concat hne⟩
    simp only [Chronicle.leave, view, ha, hq]
    rfl

/-- When all that have been told to look again do so, they are woken one after the other. -/
theorem Reached.wakeAll [DecidableEq ι] (h : Reached c) :
    ∃ deeds, Reached { groups := c.groups.wakeAll.1, deeds } := by
  have woken : ∀ (g : Groups ι) (key : ι), (∃ deeds, Reached { groups := g, deeds }) →
      ∃ deeds, Reached { groups := (g.wake key).1, deeds } := by
    rintro g key ⟨deeds, hg⟩
    rcases hf : g.waiting.find? (·.entrant.key = key) with _ | w
    · have hw : g.wake key = (g, .queued) := by simp only [Groups.wake, hf]
      exact ⟨deeds, hw ▸ hg⟩
    · obtain rfl : w.entrant.key = key := by simpa using List.find?_some hf
      exact ⟨_, hg.tail ⟨_, .wake { groups := g, deeds } w (List.mem_of_find?_eq_some hf)⟩⟩
  unfold Groups.wakeAll
  exact List.foldlRecOn (motive := fun p : Groups ι × List (Entrant ι × Entry) =>
    ∃ deeds, Reached { groups := p.1, deeds }) _ _ ⟨c.deeds, h⟩
    fun p hp w _ => woken p.1 w.entrant.key hp

/-- At most one run holds a group. Of the runs that cancel the active one, those that are turned
away are those that a newer run has overtaken by then; one that only waits is never turned away. A
run that cancels does so to the one that holds its group, and to no other. And what is done with
another group changes nothing of this one. -/
theorem one_run_holds_a_group_and_the_newest_comes_in [DecidableEq ι] (h : Reached c)
    (group : String) :
    (∀ run run', Holds c.deeds group run → Holds c.deeds group run' → run = run') ∧
    (∀ before run letIn after, c.deeds = before ++ .answered group run true letIn :: after →
      (letIn = false ↔ Overtaken before group run)) ∧
    (∀ run letIn, .answered group run false letIn ∈ c.deeds → letIn = true) ∧
    (∀ before run flag cancelled after,
      c.deeds = before ++ .enters group run flag cancelled :: after →
        ∀ other, cancelled = some other ↔ flag = true ∧ Holds before group other) ∧
    (∀ other c', other ≠ group → Step other c c' →
      c'.groups.view group = c.groups.view group ∧
        c'.deeds.filter (·.group = group) = c.deeds.filter (·.group = group)) := by
  have hs := h.sound
  refine ⟨fun run run' hr hr' => ?_, fun before run letIn after hd => ?_, fun run letIn hd => ?_,
    fun before run flag cancelled after hd => hs.fair before _ after hd,
    fun other c' hne step => step.view_other hs hne⟩
  · exact Option.some.inj (((hs.holder group run).2 hr).symm.trans ((hs.holder group run').2 hr'))
  · exact (hs.fair before _ after hd).trans (by simp)
  · obtain ⟨before, after, hd⟩ := List.append_of_mem hd
    have hfair : letIn = false ↔ False := (hs.fair before _ after hd).trans (by simp)
    simpa using hfair

/-- While a is active b comes, which cancels it, and then c, which only waits. When a has left, b is
woken first and finds that c is newer; then c is let in. -/
def handover : Chronicle Nat :=
  let came := ((({} : Chronicle Nat).enter "main" ⟨"a", 1⟩ true).enter "main" ⟨"b", 2⟩ true).enter
    "main" ⟨"c", 3⟩ false
  ((came.leave "main" "a").wake ⟨"main", ⟨"b", 2⟩, true, true⟩).wake ⟨"main", ⟨"c", 3⟩, false, true⟩

theorem after_the_handover_c_holds_the_group :
    Reached handover ∧
      .enters "main" "b" true (some "a") ∈ handover.deeds ∧
      .answered "main" "b" true false ∈ handover.deeds ∧
      (∀ run, Holds handover.deeds "main" run ↔ run = "c") := by
  have reached : Reached handover := by
    refine Relation.ReflTransGen.refl.tail ⟨_, .enter {} "main" ⟨"a", 1⟩ true ?_ ?_⟩
      |>.tail ⟨_, .enter _ "main" ⟨"b", 2⟩ true ?_ ?_⟩
      |>.tail ⟨_, .enter _ "main" ⟨"c", 3⟩ false ?_ ?_⟩
      |>.tail ⟨_, .leave _ "main" "a"⟩
      |>.tail ⟨_, .wake _ ⟨"main", ⟨"b", 2⟩, true, true⟩ (.head _)⟩
      |>.tail ⟨_, .wake _ ⟨"main", ⟨"c", 3⟩, false, true⟩ (.head _)⟩
    all_goals decide
  have hc : Holds handover.deeds "main" "c" :=
    (reached.sound.holder "main" "c").1 (by decide)
  have law := one_run_holds_a_group_and_the_newest_comes_in reached "main"
  exact ⟨reached, by decide, by decide, fun run =>
    ⟨fun hr => law.1 run "c" hr hc, fun he => he ▸ hc⟩⟩

end Chronicle

end GatedPipeline.Groups
