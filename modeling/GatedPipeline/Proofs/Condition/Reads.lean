-- What a condition reads: the references that are written in it, and the changed
-- files. Two scopes in which those are the same are the same to it, and a scope
-- in which there is more takes away nothing that it has come to.
import GatedPipeline.Proofs.Condition.Relate
import GatedPipeline.Proofs.Condition.Fault
import GatedPipeline.Proofs.Condition.Parse
import GatedPipeline.Proofs.Run.Available
namespace GatedPipeline.Condition
open GatedPipeline.Text

variable {s t : Scope} {r : Reference}

/-! ## What a scope knows -/

/-- The output, if the scope has outputs and this one is among them. -/
def Scope.output? (s : Scope) (stage key : String) : Option Value :=
  s.outputs.bind fun find => find stage key

/-- The fact of the release decision, if there is a decision and it has this fact. -/
def Scope.fact? (s : Scope) (key : String) : Option String :=
  match s.release with
  | some (.ok facts) => facts.lookup key
  | _ => none

/-- The value of a reference, if it has one. -/
def Scope.value? (s : Scope) (r : Reference) : Option Value :=
  match r.root, r.path with
  | .event, [] => some (.text s.trigger.event.name)
  | .ref, [] => some (.text s.trigger.ref)
  | .branch, [] => some (.text s.trigger.branch)
  | .fork, [] => some (.bool s.trigger.fork)
  | .actor, [] => some (.text s.trigger.actor)
  | .workflow, [] => some (.text s.trigger.workflow)
  | .vars, k :: ks => (s.trigger.values.lookup (".".intercalate (k :: ks))).map .text
  | .matrix, k :: ks => (s.matrix.lookup (".".intercalate (k :: ks))).map .text
  | .outputs, stage :: k :: ks => s.output? stage (".".intercalate (k :: ks))
  | .release, k :: ks => (s.fact? (".".intercalate (k :: ks))).map .text
  | _, _ => none

theorem Scope.toOption_lookup (s : Scope) (r : Reference) : (s.lookup r).toOption = s.value? r := by
  obtain ⟨root, path⟩ := r
  rcases path with _ | ⟨k, ks⟩
  · cases root <;> rfl
  cases root
  case vars =>
    simp only [lookup, value?]
    cases s.trigger.values.lookup (".".intercalate (k :: ks)) <;> rfl
  case matrix =>
    simp only [lookup, value?]
    cases s.matrix.lookup (".".intercalate (k :: ks)) <;> rfl
  case outputs =>
    rcases ks with _ | ⟨l, ks⟩
    · simp only [lookup, value?]
      cases s.outputs <;> rfl
    · simp only [lookup, value?, output?]
      rcases s.outputs with _ | find
      · rfl
      · simp only [Option.bind_some]
        cases find k (".".intercalate (l :: ks)) <;> rfl
  case release =>
    simp only [lookup, value?, fact?]
    rcases s.release with _ | _ | facts
    · rfl
    · rfl
    · dsimp only
      cases facts.lookup (".".intercalate (k :: ks)) <;> rfl
  all_goals rfl

theorem Scope.lookup_eq_ok {v : Value} : s.lookup r = .ok v ↔ s.value? r = some v := by
  rw [← s.toOption_lookup r]
  cases s.lookup r <;> simp [Except.toOption]

theorem Scope.resolve_eq_ok {v : Value} : (s.resolve r).result = .ok v ↔ s.value? r = some v := by
  rw [← lookup_eq_ok, resolve]
  cases s.lookup r <;> simp [Except.mapError]

theorem Scope.exists_lookup_eq_error (h : s.value? r = none) : ∃ why, s.lookup r = .error why := by
  rw [← s.toOption_lookup r] at h
  rcases hr : s.lookup r with why | v
  · exact ⟨why, rfl⟩
  · rw [hr] at h
    cases h

/-! ## Functions -/

/-- Of all that a scope knows a function reads the changed files only. -/
theorem Function.apply_congr (h : s.trigger.changedFiles = t.trigger.changedFiles) (f : Function)
    (vs : List Value) : f.apply vs s = f.apply vs t := by
  unfold Function.apply
  rw [h]

/-- Without changed files there is nothing to compare patterns with. -/
theorem Function.apply_kept
    (h : s.trigger.changedFiles = [] ∨ t.trigger.changedFiles = s.trigger.changedFiles)
    (f : Function) (vs : List Value) : Kept (f.apply vs s) (f.apply vs t) := by
  rcases h with h | h
  · unfold Function.apply
    intro v hv
    split at hv
    · simp [h] at hv
    all_goals exact hv
  · rw [apply_congr h.symm f vs]
    intro v hv
    exact hv

/-! ## Scopes that agree -/

/-- Both scopes give the reference one value, or neither of them gives it any. -/
def Scope.AgreesOn (s t : Scope) (r : Reference) : Prop :=
  (s.lookup r).toOption = (t.lookup r).toOption

theorem Scope.AgreesOn.alike (h : s.AgreesOn t r) :
    Alike (s.resolve r).result (t.resolve r).result := by
  unfold AgreesOn at h
  unfold resolve
  rcases hs : s.lookup r with m | v <;> rcases ht : t.lookup r with m' | w <;> rw [hs, ht] at h
  · exact .unresolved m m'
  · cases h
  · cases h
  · cases h
    exact .same _

/-- What a condition comes to depends on the references that are written in it. -/
theorem Expr.eval_alike {e : Expr} (hfiles : s.trigger.changedFiles = t.trigger.changedFiles)
    (h : ∀ r ∈ e.references, s.AgreesOn t r) : Alike (e.eval s).result (e.eval t).result := by
  apply Expr.eval_related respected_alike
  · intro f vs
    rw [f.apply_congr hfiles vs]
    exact .same _
  · intro r hr
    exact (h r hr).alike

/-! ## The outputs among the references -/

/-- References to outputs are listed by stage and key, each of them. -/
theorem mem_of_outputsOf {rs : List Reference} {refs : List (String × String)}
    (h : outputsOf rs = .ok refs) (hr : r ∈ rs) (hroot : r.root = .outputs) :
    ∃ stage key, r.path = [stage, key] ∧ (stage, key) ∈ refs := by
  induction rs generalizing refs with
  | nil => cases hr
  | cons q rs ih =>
    unfold outputsOf at h
    split at h
    · rename_i heq
      cases heq
    · rename_i stage key rest heq
      obtain ⟨rfl, rfl⟩ := List.cons.inj heq
      rcases hrest : outputsOf rs with fault | refs'
      · rw [hrest] at h
        cases h
      · rw [hrest] at h
        cases h
        rcases List.mem_cons.1 hr with rfl | hr
        · exact ⟨stage, key, rfl, List.mem_cons_self⟩
        · obtain ⟨stage', key', hpath, hmem⟩ := ih hrest hr
          exact ⟨stage', key', hpath, List.mem_cons_of_mem _ hmem⟩
    · rename_i q' rest _ heq
      obtain ⟨rfl, rfl⟩ := List.cons.inj heq
      split at h
      · cases h
      · rename_i hq
        rcases List.mem_cons.1 hr with rfl | hr
        · exact absurd hroot hq
        · exact ih h hr

theorem Scope.value?_output {stage key : String} (hroot : r.root = .outputs)
    (hpath : r.path = [stage, key]) : s.value? r = s.output? stage key := by
  obtain ⟨root, path⟩ := r
  obtain rfl : root = .outputs := hroot
  obtain rfl : path = [stage, key] := hpath
  rfl

/-- Scopes that differ in outputs only, and not in those that are listed. -/
theorem agreesOn_of_outputs {e : Expr} {refs : List (String × String)}
    (hrefs : outputsOf e.references = .ok refs) (htrigger : s.trigger = t.trigger)
    (hmatrix : s.matrix = t.matrix) (hrelease : s.release = t.release)
    (houtputs : ∀ stage key, (stage, key) ∈ refs → s.output? stage key = t.output? stage key)
    (hr : r ∈ e.references) : s.AgreesOn t r := by
  unfold Scope.AgreesOn
  rw [s.toOption_lookup r, t.toOption_lookup r]
  by_cases hroot : r.root = .outputs
  · obtain ⟨stage, key, hpath, hmem⟩ := mem_of_outputsOf hrefs hr hroot
    rw [s.value?_output hroot hpath, t.value?_output hroot hpath]
    exact houtputs stage key hmem
  · obtain ⟨root, path⟩ := r
    have hfact : s.fact? = t.fact? := by
      unfold Scope.fact?
      rw [hrelease]
    rcases path with _ | ⟨k, ks⟩
    · cases root
      case outputs => exact absurd rfl hroot
      all_goals simp only [Scope.value?, htrigger]
    · cases root
      case outputs => exact absurd rfl hroot
      all_goals simp only [Scope.value?, htrigger, hmatrix, hfact]

/-- A condition that a graph was built with mentions outputs that can be listed. -/
theorem exists_outputReferences {all : List Instance} {g : StageGraph} {i : Instance}
    {text : String} {e : Expr} (hparse : parse text = .ok e) (hb : StageGraph.build all = .ok g)
    (hi : g.instance? i.id = some i) (htext : i.template.condition = some text) :
    ∃ refs, outputReferences text = .ok refs ∧ outputsOf e.references = .ok refs := by
  have hbuilt := StageGraph.build_spec hb
  obtain ⟨hmem, _⟩ := hbuilt.instance?_iff.1 hi
  obtain ⟨_, producers, _, hproducers⟩ := hbuilt.total i hmem
  have hne : text ≠ "" := by
    rintro rfl
    cases hparse
  have hlisted : outputReferences text = outputsOf e.references := by
    unfold outputReferences references
    rw [hparse]
    rfl
  unfold StageGraph.resolveCondition at hproducers
  simp only [htext, if_neg hne] at hproducers
  rcases hrefs : outputReferences text with fault | refs
  · rw [hrefs] at hproducers
    cases hproducers
  · exact ⟨refs, rfl, hlisted ▸ hrefs⟩

/-! ## The law of what is mentioned -/

/-- Two scopes with the same changed files that agree on every reference of a condition are the
same to it: it comes to one value in both, or fails for one kind of reason. And the outputs that
are resolved when a graph is built are all the outputs that a condition of it can read: it mentions
no others, and whatever else is published makes no difference to it. -/
theorem a_condition_depends_on_what_it_mentions {text : String} {e : Expr}
    (h : parse text = .ok e) :
    (∀ s t : Scope, s.trigger.changedFiles = t.trigger.changedFiles →
      (∀ r ∈ e.references, s.AgreesOn t r) →
      Alike (e.eval s).result (e.eval t).result ∧
        (evaluate (some text) s).holds = (evaluate (some text) t).holds) ∧
    ∀ all g (i : Instance), StageGraph.build all = .ok g → g.instance? i.id = some i →
      i.template.condition = some text → ∃ refs, outputReferences text = .ok refs ∧
      (∀ r ∈ e.references, r.root = .outputs → ∃ stage key source, r.path = [stage, key] ∧
        (stage, key) ∈ refs ∧
        g.resolve i (StageGraph.conditionRef stage key) = .ok source ∧
        g.conditionProducer? i.id stage key = some source.producer) ∧
      (∀ s t : Scope, s.trigger = t.trigger → s.matrix = t.matrix → s.release = t.release →
        (∀ stage key, (stage, key) ∈ refs → s.output? stage key = t.output? stage key) →
        Alike (e.eval s).result (e.eval t).result ∧
          (evaluate (some text) s).holds = (evaluate (some text) t).holds) ∧
      ∀ trigger release (find find' : String → String → Option Value),
        (∀ stage key p, (stage, key) ∈ refs → g.conditionProducer? i.id stage key = some p →
          find p key = find' p key) →
        (g.conditionHolds i trigger (some find) release).holds =
          (g.conditionHolds i trigger (some find') release).holds := by
  have hsame : ∀ s t : Scope, s.trigger.changedFiles = t.trigger.changedFiles →
      (∀ r ∈ e.references, s.AgreesOn t r) →
      Alike (e.eval s).result (e.eval t).result ∧
        (evaluate (some text) s).holds = (evaluate (some text) t).holds := by
    intro s t hfiles hagrees
    have halike := Expr.eval_alike hfiles hagrees
    refine ⟨halike, ?_⟩
    rw [evaluate_of_parse h, evaluate_of_parse h]
    exact Verdict.holds_ofAnswer halike
  refine ⟨hsame, fun all g i hb hi htext => ?_⟩
  obtain ⟨refs, hrefs, hlisted⟩ := exists_outputReferences h hb hi htext
  have hbuilt := StageGraph.build_spec hb
  refine ⟨refs, hrefs, fun r hr hroot => ?_, fun s t htrigger hmatrix hrelease houtputs => ?_,
    fun trigger release find find' hfind => ?_⟩
  · obtain ⟨stage, key, hpath, hmem⟩ := mem_of_outputsOf hlisted hr hroot
    obtain ⟨source, hsource, hproducer⟩ := hbuilt.exists_conditionProducer? hi htext hrefs hmem
    exact ⟨stage, key, source, hpath, hmem, hsource, hproducer⟩
  · apply hsame s t (congrArg Trigger.changedFiles htrigger)
    intro r hr
    exact agreesOn_of_outputs hlisted htrigger hmatrix hrelease houtputs hr
  · apply congrArg Verdict.holds
    apply StageGraph.conditionHolds_congr
    intro stage key p hp
    obtain ⟨text', refs', _, htext', hrefs', hmem, _⟩ := hbuilt.conditionProducer? hi hp
    rw [htext, Option.some.injEq] at htext'
    subst htext'
    rw [hrefs, Except.ok.injEq] at hrefs'
    subst hrefs'
    exact hfind stage key p hmem hp

/-- The condition of the notice does not see whether there is anything but the image. -/
theorem the_notice_depends_on_the_image :
    parse ("outputs." ++ "build" ++ "." ++ "image") = .ok (.ref ⟨.outputs, ["build", "image"]⟩) ∧
      StageGraph.build Scheduler.noticeStages = .ok Scheduler.noticeGraph ∧
      Scheduler.noticeGraph.instance? Scheduler.notify.id = some Scheduler.notify ∧
      (∀ s t : Scope, s.trigger.changedFiles = t.trigger.changedFiles →
        s.output? "build" "image" = t.output? "build" "image" →
        (evaluate (some ("outputs." ++ "build" ++ "." ++ "image")) s).holds =
          (evaluate (some ("outputs." ++ "build" ++ "." ++ "image")) t).holds) ∧
      ∀ trigger release (find find' : String → String → Option Value),
        find "build" "image" = find' "build" "image" →
        (Scheduler.noticeGraph.conditionHolds Scheduler.notify trigger (some find) release).holds =
          (Scheduler.noticeGraph.conditionHolds Scheduler.notify trigger (some find')
            release).holds := by
  have hparse := @parse_output "build" "image" (by decide) (by decide)
  have hknown : Scheduler.noticeGraph.instance? Scheduler.notify.id = some Scheduler.notify := rfl
  obtain ⟨hscopes, hgraphs⟩ := a_condition_depends_on_what_it_mentions hparse
  obtain ⟨refs, hrefs, _, _, hlookups⟩ :=
    hgraphs _ _ _ Scheduler.build_noticeStages hknown rfl
  rw [outputReferences_output (by decide) (by decide), Except.ok.injEq] at hrefs
  subst hrefs
  refine ⟨hparse, Scheduler.build_noticeStages, hknown, fun s t hfiles himage => ?_,
    fun trigger release find find' himage => ?_⟩
  · refine (hscopes s t hfiles fun r hr => ?_).2
    rw [List.mem_singleton.1 hr]
    unfold Scope.AgreesOn
    rw [s.toOption_lookup, t.toOption_lookup]
    exact himage
  · apply hlookups trigger release find find'
    intro stage key p hmem hp
    cases List.mem_singleton.1 hmem
    have hproducer : Scheduler.noticeGraph.conditionProducer? Scheduler.notify.id "build" "image" =
        some "build" := by decide +kernel
    rw [hproducer] at hp
    cases hp
    exact himage

/-! ## Scopes that know more -/

/-- Both scopes are of one event, and whatever the first one knows the second one knows too. -/
structure Scope.ExtendedBy (s t : Scope) : Prop where
  event : t.trigger.event = s.trigger.event
  ref : t.trigger.ref = s.trigger.ref
  fork : t.trigger.fork = s.trigger.fork
  actor : t.trigger.actor = s.trigger.actor
  workflow : t.trigger.workflow = s.trigger.workflow
  values : ∀ k v, s.trigger.values.lookup k = some v → t.trigger.values.lookup k = some v
  matrix : ∀ k v, s.matrix.lookup k = some v → t.matrix.lookup k = some v
  outputs : ∀ stage key v, s.output? stage key = some v → t.output? stage key = some v
  facts : ∀ key v, s.fact? key = some v → t.fact? key = some v
  changedFiles : s.trigger.changedFiles = [] ∨
    t.trigger.changedFiles = s.trigger.changedFiles

/-- A reference that has a value keeps it. -/
theorem Scope.ExtendedBy.value? (h : s.ExtendedBy t) {v : Value} (hv : s.value? r = some v) :
    t.value? r = some v := by
  have hbranch : t.trigger.branch = s.trigger.branch := by
    unfold Trigger.branch
    rw [h.ref]
  have htext : ∀ {o o' : Option String}, (∀ v, o = some v → o' = some v) →
      o.map Value.text = some v → o'.map Value.text = some v := by
    intro o o' ho hm
    obtain ⟨w, hw, rfl⟩ := Option.map_eq_some_iff.1 hm
    rw [ho w hw]
    rfl
  obtain ⟨root, path⟩ := r
  rcases path with _ | ⟨k, ks⟩
  · cases root
    case event => simpa only [Scope.value?, h.event] using hv
    case ref => simpa only [Scope.value?, h.ref] using hv
    case branch => simpa only [Scope.value?, hbranch] using hv
    case fork => simpa only [Scope.value?, h.fork] using hv
    case actor => simpa only [Scope.value?, h.actor] using hv
    case workflow => simpa only [Scope.value?, h.workflow] using hv
    all_goals cases hv
  · cases root
    case vars => exact htext (h.values _) hv
    case matrix => exact htext (h.matrix _) hv
    case outputs =>
      rcases ks with _ | ⟨l, ks⟩
      · cases hv
      · exact h.outputs _ _ _ hv
    case release => exact htext (h.facts _) hv
    all_goals cases hv

theorem Expr.eval_kept {e : Expr} (h : s.ExtendedBy t) :
    Kept (e.eval s).result (e.eval t).result := by
  apply Expr.eval_related respected_kept
  · exact Function.apply_kept h.changedFiles
  · intro r _ v hv
    rw [Scope.resolve_eq_ok] at hv ⊢
    exact h.value? hv

/-- A condition that holds goes on to hold in a scope that knows more. -/
theorem evaluate_kept {expression : Option String} (h : s.ExtendedBy t)
    (hs : (evaluate expression s).holds = .ok true) :
    (evaluate expression t).holds = .ok true := by
  unfold evaluate at hs ⊢
  split at hs
  · rfl
  · split at hs
    · rename_i hblank
      rw [if_pos hblank]
    · rename_i hblank
      rw [if_neg hblank]
      split at hs
      · rename_i e hparse
        obtain ⟨v, hv, htruthy⟩ := Verdict.holds_ofAnswer_true.1 hs
        exact Verdict.holds_ofAnswer_true.2 ⟨v, Expr.eval_kept h v hv, htruthy⟩
      · cases hs
      · cases hs

/-! ## The law of what is missing -/

/-- A value that a condition comes to with little information it comes to with more of it, so it
goes on to hold. And once its evaluation has come to a reference without a value, inside a negation,
a comparison or wherever else, it does not hold. -/
theorem a_condition_that_holds_goes_on_to_hold {text : String} {e : Expr}
    (h : parse text = .ok e) :
    (∀ s t : Scope, s.ExtendedBy t → ∀ v, (e.eval s).result = .ok v → (e.eval t).result = .ok v) ∧
    (∀ s t : Scope, s.ExtendedBy t → (evaluate (some text) s).holds = .ok true →
      (evaluate (some text) t).holds = .ok true) ∧
    ∀ (s : Scope) r, e.Reaches s (.ref r) → s.value? r = none →
      (evaluate (some text) s).holds = .ok false := by
  refine ⟨fun s t hst => Expr.eval_kept hst, fun s t hst htrue => ?_, fun s r hreach hmissing => ?_⟩
  · rw [evaluate_of_parse h, Verdict.holds_ofAnswer_true] at htrue ⊢
    obtain ⟨v, hv, htruthy⟩ := htrue
    exact ⟨v, Expr.eval_kept hst v hv, htruthy⟩
  · obtain ⟨why, hwhy⟩ := Scope.exists_lookup_eq_error hmissing
    have hfails := hreach.error (Expr.Raises.ref hwhy).error
    rw [evaluate_of_parse h]
    unfold Verdict.ofAnswer
    rw [hfails]

/-- `outputs.build.image in ['app', 'web'] && !fork`, as it is derived. -/
def oursIsBuilt : Disjunction :=
  let image : Primary := .atom (.ref ⟨.outputs, ["build", "image"]⟩)
  let text (s : String) : Primary := .atom (.text '\'' s.toList)
  let known : Compared := .rel image .mem (.list (.more (text "app") (.last (text "web"))))
  let ours : Negation := .not (.plain (.plain (.atom (.ref ⟨.fork, []⟩))))
  .mk (.mk (.plain known) (.cons ours .nil)) .nil

/-- Of the outputs of a run only the image is there yet. -/
def imageOnly : Scope where
  trigger := {}
  outputs := some fun stage key =>
    if stage = "build" ∧ key = "image" then some (.text "app") else none

/-- The tests have been run since, and a release was decided on. -/
def testedToo : Scope where
  trigger := { changedFiles := ["src/app.py"], values := [("sha", "1f")] }
  matrix := [("os", "linux")]
  outputs := some fun stage key =>
    if stage = "build" ∧ key = "image" then some (.text "app")
    else if stage = "test" then some (.text "passed") else none
  release := some (.ok [("version", "1.2.0")])

theorem imageOnly_extendedBy : imageOnly.ExtendedBy testedToo where
  event := rfl
  ref := rfl
  fork := rfl
  actor := rfl
  workflow := rfl
  values _ _ h := by cases h
  matrix _ _ h := by cases h
  outputs stage key v h := by
    simp only [Scope.output?, imageOnly, testedToo, Option.bind_some] at h ⊢
    split at h
    · rename_i himage
      rw [if_pos himage]
      exact h
    · cases h
  facts _ _ h := by cases h
  changedFiles := Or.inl rfl

/-- The built image is ours, also after the tests; without an image it would not be. -/
theorem the_image_goes_on_to_be_ours :
    parse "outputs.build.image in ['app', 'web'] && !fork" = .ok oursIsBuilt.expr ∧
      (evaluate (some "outputs.build.image in ['app', 'web'] && !fork") imageOnly).holds =
        .ok true ∧
      (oursIsBuilt.expr.eval testedToo).result = .ok (.bool true) ∧
      (evaluate (some "outputs.build.image in ['app', 'web'] && !fork") testedToo).holds =
        .ok true ∧
      (evaluate (some "outputs.build.image in ['app', 'web'] && !fork") { trigger := {} }).holds =
        .ok false := by
  have hparse : parse "outputs.build.image in ['app', 'web'] && !fork" = .ok oursIsBuilt.expr :=
    oursIsBuilt.parse (by decide +kernel) (by decide +kernel)
  have hvalue : (oursIsBuilt.expr.eval imageOnly).result = .ok (.bool true) := rfl
  have htrue : (evaluate (some "outputs.build.image in ['app', 'web'] && !fork")
      imageOnly).holds = .ok true := by
    rw [evaluate_of_parse hparse, Verdict.holds_ofAnswer_true]
    exact ⟨_, hvalue, rfl⟩
  obtain ⟨hkept, hgoes, hmissing⟩ := a_condition_that_holds_goes_on_to_hold hparse
  refine ⟨hparse, htrue, hkept _ _ imageOnly_extendedBy _ hvalue,
    hgoes _ _ imageOnly_extendedBy htrue, hmissing _ ⟨.outputs, ["build", "image"]⟩ ?_ rfl⟩
  apply Expr.Enters.reaches (.andLeft _ _)
  have hlist : ((Expr.list [.lit (.text "app"), .lit (.text "web")]).eval
      { trigger := {} }).result = .ok (.list [.text "app", .text "web"]) := rfl
  apply Expr.Enters.reaches
  · exact .item hlist
  · exact .refl

end GatedPipeline.Condition
