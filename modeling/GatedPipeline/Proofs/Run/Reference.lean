-- What is to come of a run when bodies, gates and the release source always
-- answer alike. Each instance is judged once, in the order of the graph, with
-- no regard to what runs when.
import GatedPipeline.Body
import GatedPipeline.Release.Basic
import GatedPipeline.Outputs
import GatedPipeline.Proofs.Graph.Build
namespace GatedPipeline

/-! ## The world of a run -/

/-- Those around a run, when they always answer alike. -/
structure World where
  /-- What the body of an instance reports for its inputs. -/
  body : Instance → List (String × Value) → BodyReport
  /-- What the release source decides, unless it always fails. -/
  outcome : Option ReleaseOutcome
  /-- Whether the gate of that name is approved. -/
  approves : String → Bool

/-- What comes of an instance: the state in which it ends, and what it publishes. -/
structure Fate where
  state : State
  outputs : List (String × Value) := []
  deriving Inhabited

namespace World

variable (w : World) (g : StageGraph) (trigger : Trigger) {f f' : String → Fate} {i : Instance}

/-! ## Judging one instance -/

/-- The tag to release. -/
def tag : Option Value := (w.outcome.filter (·.decision = .release)).map fun o => .text o.tag

/-- What is read from a source, once the fates of the others are known. -/
def read (f : String → Fate) (source : Source) : Option Value :=
  if source = ⟨runScope, "release_tag"⟩ then w.tag
  else getPair? source.key (f source.producer).outputs

def inputs (f : String → Fate) (i : Instance) : List (String × Value) :=
  (g.inputsOf i.id).map fun (name, source) => (name, (w.read f source).getD (.text ""))

/-- What the body of an instance reports. -/
def report (f : String → Fate) (i : Instance) : BodyReport := w.body i (w.inputs g f i)

/-- The facts of the release decision, or that there are none. -/
def facts : Except String (List (String × String)) :=
  match w.outcome with
  | some o => .ok o.facts
  | none => .error "no release decision"

/-- Whether the condition of an instance holds. -/
def condition (f : String → Fate) (i : Instance) : Except Condition.Breakdown Bool :=
  (g.conditionHolds i trigger (some fun producer key => w.read f ⟨producer, key⟩)
    (some w.facts)).holds

/-- What a body that has ended makes of its instance. A success publishes what the stage declares, as
text. -/
def ending (i : Instance) (r : BodyReport) : Fate :=
  match r.status with
  | .succeeded =>
    { state := .succeeded
      outputs := i.template.outputs.filterMap fun k =>
        (getPair? k r.outputs).map fun v => (k, .text v.shown) }
  | .cancelled => { state := .cancelled }
  | _ => { state := .failed }

/-- The fate of an instance that is ready but for its gate. -/
def atGate (f : String → Fate) (i : Instance) : Fate :=
  match i.gateName.filter (· ≠ "") with
  | some name => if w.approves name then ending i (w.report g f i) else { state := .skipped }
  | none => ending i (w.report g f i)

/-- The fate of an instance, given those of all that it depends on. -/
def judge (f : String → Fate) (i : Instance) : Fate :=
  if ¬ ∀ d ∈ g.dependencies i.id, (f d).state = .succeeded then { state := .skipped }
  else if w.condition g trigger f i ≠ .ok true then { state := .skipped }
  else if i.template.release then
    match w.outcome with
    | none => { state := .failed }
    | some o => if o.decision = .skip then { state := .skipped } else w.atGate g f i
  else w.atGate g f i

/-! ## Judging them all -/

/-- The fate that a table gives; pending for those that it does not have. -/
def fateIn (table : List (String × Fate)) (id : String) : Fate :=
  (getPair? id table).getD { state := .pending }

/-- The fate of the next instance, given those of the ones before it. -/
def next (table : List (String × Fate)) (id : String) : Fate :=
  match g.instance? id with
  | some i => w.judge g trigger (fateIn table) i
  | none => { state := .pending }

/-- The fates of the instances of a graph, judged in its order. -/
def fates : List (String × Fate) :=
  g.order.foldl (fun table id => table ++ [(id, w.next g trigger table id)]) []

/-- What comes of an instance. -/
def fate (id : String) : Fate := fateIn (w.fates g trigger) id

/-- The status of a run in which nothing is aborted or cancelled. -/
def status : RunStatus :=
  if g.ids.any fun id => (w.fate g trigger id).state = .failed then .failed else .succeeded

/-! ## What a fate depends on -/

theorem read_congr {source : Source}
    (h : source = ⟨runScope, "release_tag"⟩ ∨ f source.producer = f' source.producer) :
    w.read f source = w.read f' source := by
  unfold read
  rcases h with h | h
  · rw [if_pos h, if_pos h]
  · rw [h]

variable {g}

/-- Only the fates of the ancestors count. -/
theorem ancestor_congr (hg : g.Sound) (hf : ∀ a, g.DependsOn i.id a → f a = f' a) {p : Instance}
    (hp : p ∈ g.ancestorInstances i.id) : f p.id = f' p.id :=
  hf _ (hg.ancestors (StageGraph.id_of_mem_ancestorInstances hg.instance_id hp).1)

theorem inputs_congr (hg : g.Sound) (hi : g.instance? i.id = some i)
    (hf : ∀ a, g.DependsOn i.id a → f a = f' a) : w.inputs g f i = w.inputs g f' i := by
  refine List.map_congr_left fun (name, source) hm => ?_
  obtain ⟨j, hj, hfeeds⟩ := hg.inputs hm
  rw [hi] at hj
  cases hj
  have hread : w.read f source = w.read f' source := by
    refine w.read_congr ?_
    rcases hfeeds with ⟨hsource, _⟩ | ⟨p, hp, hproducer, _⟩
    · exact Or.inl hsource
    · exact Or.inr (hproducer ▸ ancestor_congr hg hf hp)
  dsimp only
  rw [hread]

theorem condition_congr (hg : g.Sound) (hi : g.instance? i.id = some i)
    (hf : ∀ a, g.DependsOn i.id a → f a = f' a) :
    w.condition g trigger f i = w.condition g trigger f' i := by
  unfold condition
  rw [StageGraph.conditionHolds_congr fun stage key p hp => ?_]
  obtain ⟨_, hcase⟩ := hg.conditions hi hp
  refine w.read_congr ?_
  rcases hcase with htag | ⟨q, hq, rfl, _⟩
  · cases htag
    exact Or.inl rfl
  · exact Or.inr (ancestor_congr hg hf hq)

theorem judge_congr (hg : g.Sound) (hi : g.instance? i.id = some i)
    (hf : ∀ a, g.DependsOn i.id a → f a = f' a) :
    w.judge g trigger f i = w.judge g trigger f' i := by
  have hdeps : (∀ d ∈ g.dependencies i.id, (f d).state = .succeeded) ↔
      ∀ d ∈ g.dependencies i.id, (f' d).state = .succeeded :=
    forall₂_congr fun d hd => by rw [hf d (.single hd)]
  simp only [judge, hdeps, atGate, report, w.inputs_congr hg hi hf,
    w.condition_congr trigger hg hi hf]

/-! ## The law of fates -/

/-- Judging further instances leaves the earlier fates as they are. -/
theorem fates_append (ids : List String) (table : List (String × Fate)) :
    ∃ more, ids.foldl (fun table id => table ++ [(id, w.next g trigger table id)]) table =
      table ++ more ∧ more.map (·.1) = ids := by
  induction ids generalizing table with
  | nil => exact ⟨[], by simp, rfl⟩
  | cons id ids ih =>
    obtain ⟨more, he, hk⟩ := ih (table ++ [(id, w.next g trigger table id)])
    exact ⟨(id, w.next g trigger table id) :: more, by simpa using he, by simp [hk]⟩

/-- What stands before an instance in the order includes all that it depends on. -/
theorem before_of_dependsOn (hg : g.Sound) {front back : List String} {id : String}
    (ho : g.order = front ++ id :: back) : ∀ a, g.DependsOn id a → a ∈ front := by
  intro a ha
  induction ha with
  | single hd => exact hg.sorted front id back ho _ hd
  | @tail b c _ hc hb =>
    obtain ⟨l, r, rfl⟩ := List.append_of_mem hb
    exact List.mem_append_left _ (hg.sorted l b (r ++ id :: back) (by simpa using ho) c hc)

/-- The fate of an instance is what comes of it given the fates of the others. -/
theorem fate_eq (hg : g.Sound) (hi : g.instance? i.id = some i) :
    w.fate g trigger i.id = w.judge g trigger (w.fate g trigger) i := by
  have hid : i.id ∈ g.order := hg.order_perm.mem_iff.2 (key_mem_of_getPair? hi)
  obtain ⟨front, back, ho⟩ := List.append_of_mem hid
  obtain ⟨before, hbefore, hkeys⟩ := w.fates_append (g := g) trigger front []
  obtain ⟨after, hafter, _⟩ := w.fates_append (g := g) trigger back
    (before ++ [(i.id, w.next g trigger before i.id)])
  have hfates : w.fates g trigger =
      before ++ (i.id, w.next g trigger before i.id) :: after := by
    rw [fates, ho, List.foldl_append, hbefore, List.nil_append, List.foldl_cons, hafter]
    simp
  have hfresh : i.id ∉ before.map (·.1) := by
    rw [hkeys]
    have hnodup : (front ++ i.id :: back).Nodup := ho ▸ hg.order_perm.nodup_iff.2 hg.ids_nodup
    exact fun hm => (List.nodup_append.1 hnodup).2.2 _ hm _ List.mem_cons_self rfl
  have hown : w.fate g trigger i.id = w.judge g trigger (fateIn before) i := by
    rw [fate, fateIn, hfates, getPair?_append, getPair?_eq_none_iff.2 hfresh]
    simp [getPair?, next, hi]
  rw [hown]
  refine w.judge_congr trigger hg hi fun a ha => ?_
  have hmem : a ∈ before.map (·.1) := hkeys ▸ before_of_dependsOn hg ho a ha
  obtain ⟨v, hv⟩ := exists_getPair?_of_key_mem hmem
  rw [fate, fateIn, fateIn, hfates, getPair?_append, hv]
  rfl

/-! ## The cases of a fate -/

/-- Nothing but its gate and its body decide about the instance any more. -/
structure Passes (g : StageGraph) (i : Instance) : Prop where
  dependencies : ∀ d ∈ g.dependencies i.id, (w.fate g trigger d).state = .succeeded
  condition : w.condition g trigger (w.fate g trigger) i = .ok true
  release : i.template.release = true → ∃ o, w.outcome = some o ∧ o.decision = .release

theorem fate_of_lost (hg : g.Sound) (hi : g.instance? i.id = some i) {d : String}
    (hd : d ∈ g.dependencies i.id) (hl : (w.fate g trigger d).state ≠ .succeeded) :
    w.fate g trigger i.id = { state := .skipped } := by
  rw [w.fate_eq trigger hg hi, judge, if_pos fun hall => hl (hall d hd)]

theorem fate_of_unmet (hg : g.Sound) (hi : g.instance? i.id = some i)
    (hd : ∀ d ∈ g.dependencies i.id, (w.fate g trigger d).state = .succeeded)
    (hc : w.condition g trigger (w.fate g trigger) i = .ok false) :
    w.fate g trigger i.id = { state := .skipped } := by
  rw [w.fate_eq trigger hg hi, judge, if_neg (not_not.2 hd), hc, if_pos (by simp)]

theorem fate_of_published (hg : g.Sound) (hi : g.instance? i.id = some i)
    (hd : ∀ d ∈ g.dependencies i.id, (w.fate g trigger d).state = .succeeded)
    (hc : w.condition g trigger (w.fate g trigger) i = .ok true)
    (hr : i.template.release = true) {o : ReleaseOutcome} (ho : w.outcome = some o)
    (hskip : o.decision = .skip) : w.fate g trigger i.id = { state := .skipped } := by
  rw [w.fate_eq trigger hg hi, judge, if_neg (not_not.2 hd), if_neg (not_not.2 hc), if_pos hr, ho]
  exact if_pos hskip

theorem fate_of_undecided (hg : g.Sound) (hi : g.instance? i.id = some i)
    (hd : ∀ d ∈ g.dependencies i.id, (w.fate g trigger d).state = .succeeded)
    (hc : w.condition g trigger (w.fate g trigger) i = .ok true)
    (hr : i.template.release = true) (ho : w.outcome = none) :
    w.fate g trigger i.id = { state := .failed } := by
  rw [w.fate_eq trigger hg hi, judge, if_neg (not_not.2 hd), if_neg (not_not.2 hc), if_pos hr, ho]

theorem Passes.fate {w : World} {trigger : Trigger} (h : w.Passes trigger g i) (hg : g.Sound)
    (hi : g.instance? i.id = some i) :
    w.fate g trigger i.id = w.atGate g (w.fate g trigger) i := by
  rw [w.fate_eq trigger hg hi, judge, if_neg (not_not.2 h.dependencies),
    if_neg (not_not.2 h.condition)]
  split
  · rename_i hr
    obtain ⟨o, ho, hrelease⟩ := h.release hr
    rw [ho]
    exact if_neg (by simp [hrelease])
  · rfl

theorem Passes.fate_of_refused {w : World} {trigger : Trigger} (h : w.Passes trigger g i)
    (hg : g.Sound) (hi : g.instance? i.id = some i) {name : String}
    (hn : i.gateName.filter (· ≠ "") = some name) (ha : w.approves name = false) :
    w.fate g trigger i.id = { state := .skipped } := by
  rw [h.fate hg hi, atGate, hn]
  simp [ha]

theorem Passes.fate_of_admitted {w : World} {trigger : Trigger} (h : w.Passes trigger g i)
    (hg : g.Sound) (hi : g.instance? i.id = some i)
    (ha : ∀ name, i.gateName.filter (· ≠ "") = some name → w.approves name = true) :
    w.fate g trigger i.id = ending i (w.report g (w.fate g trigger) i) := by
  rw [h.fate hg hi, atGate]
  split
  · rename_i name hn
    rw [if_pos (ha name hn)]
  · rfl

/-! ## The outputs of a success -/

/-- A success publishes the text of what was reported under each declared key, and nothing else. -/
theorem getPair?_ending (r : BodyReport) (hr : r.status = .succeeded) (k : String) :
    getPair? k (ending i r).outputs =
      if k ∈ i.template.outputs then (getPair? k r.outputs).map fun v => .text v.shown
      else none := by
  have hkeys : ∀ ks : List String,
      getPair? k (ks.filterMap fun k => (getPair? k r.outputs).map fun v => (k, Value.text v.shown)) =
        if k ∈ ks then (getPair? k r.outputs).map fun v => .text v.shown else none := by
    intro ks
    induction ks with
    | nil => rfl
    | cons l ks ih =>
      rw [List.filterMap_cons]
      rcases hl : getPair? l r.outputs with _ | v
      · rw [Option.map_none]
        dsimp only
        rw [ih]
        by_cases hkl : k = l
        · simp [hkl, hl]
        · simp [hkl]
      · rw [Option.map_some]
        dsimp only
        by_cases hkl : k = l
        · subst hkl
          simp [getPair?, hl]
        · simp [getPair?, Ne.symm hkl, hkl, ih]
  rw [ending, hr]
  exact hkeys _

/-- The fate of an instance is the end of its body, or one without success and outputs. -/
theorem fate_cases (hg : g.Sound) (hi : g.instance? i.id = some i) :
    w.fate g trigger i.id = ending i (w.report g (w.fate g trigger) i) ∨
      ∃ st, st ≠ .succeeded ∧ w.fate g trigger i.id = { state := st } := by
  have hgate : ∀ f, w.atGate g f i = ending i (w.report g f i) ∨
      ∃ st, st ≠ .succeeded ∧ w.atGate g f i = { state := st } := by
    intro f
    unfold atGate
    split
    · split
      · exact Or.inl rfl
      · exact Or.inr ⟨.skipped, by simp, rfl⟩
    · exact Or.inl rfl
  rw [w.fate_eq trigger hg hi, judge]
  split
  · exact Or.inr ⟨.skipped, by simp, rfl⟩
  · split
    · exact Or.inr ⟨.skipped, by simp, rfl⟩
    · split
      · split
        · exact Or.inr ⟨.failed, by simp, rfl⟩
        · split
          · exact Or.inr ⟨.skipped, by simp, rfl⟩
          · exact hgate _
      · exact hgate _

/-- An end is a success just when success was reported. -/
theorem status_of_ending {r : BodyReport} (h : (ending i r).state = .succeeded) :
    r.status = .succeeded := by
  unfold ending at h
  split at h
  · assumption
  · cases h
  · cases h

/-- Whatever comes of an instance, it publishes only what it declares, and nothing without success. -/
theorem getPair?_fate (hg : g.Sound) (hi : g.instance? i.id = some i) {k : String}
    (h : (w.fate g trigger i.id).state ≠ .succeeded ∨ k ∉ i.template.outputs) :
    getPair? k (w.fate g trigger i.id).outputs = none := by
  rcases w.fate_cases trigger hg hi with he | ⟨st, _, he⟩
  · rw [he] at h ⊢
    by_cases hr : (w.report g (w.fate g trigger) i).status = .succeeded
    · rw [getPair?_ending _ hr, if_neg (h.resolve_left (not_not.2 (by rw [ending, hr])))]
    · unfold ending
      split
      · contradiction
      · rfl
      · rfl
  · rw [he]
    rfl

end World

end GatedPipeline
