-- The comparisons of the language agree with each other. Every value stands
-- somewhere: at the number that it reads as, and else among the texts. Equality
-- goes its own way only between two of one kind that meet at one number.
import GatedPipeline.Condition.Compare
import Mathlib.Data.String.Basic
import Mathlib.Tactic.DefEqTransformations
namespace GatedPipeline.Decimal.Binary64

/-! ## Numbers that stand somewhere -/

theorem exists_rank {x : Binary64} (h : x ≠ .nan) : ∃ p, x.rank = some p := by
  cases x with
  | nan => exact absurd rfl h
  | infinite negative => exact ⟨_, rfl⟩
  | finite negative units => exact ⟨_, rfl⟩

theorem ofRatio_ne_nan (negative : Bool) (num den : Nat) : ofRatio negative num den ≠ .nan := by
  unfold ofRatio
  dsimp only
  split <;> nofun

theorem ofInt?_ne_nan (n : Int) : ofInt? n ≠ some .nan := by
  have hratio := ofRatio_ne_nan (n < 0) n.natAbs 1
  -- opened as a function, so that nothing is computed with the units of `n`
  have hopen : ofInt? = ofInt? := rfl
  conv at hopen => rhs; delta ofInt?
  rw [hopen]
  beta_reduce
  generalize ofRatio (n < 0) n.natAbs 1 = x at hratio ⊢
  cases x with
  | nan => exact absurd rfl hratio
  | infinite => nofun
  | finite => nofun

end GatedPipeline.Decimal.Binary64

namespace GatedPipeline.Condition
open GatedPipeline.Decimal

/-! ## One order -/

/-- Whether the comparison goes with the way in which its two sides stand to each other. -/
def Comparison.fits (op : Comparison) (c : Ordering) : Bool :=
  match op with
  | .eq => c.isEq
  | .ne => c.isNe
  | .lt => c.isLT
  | .le => c.isLE
  | .gt => c.isGT
  | .ge => c.isGE

/-- The comparison that says the same of the two sides exchanged. -/
def Comparison.converse : Comparison → Comparison
  | .eq => .eq | .ne => .ne | .lt => .gt | .le => .ge | .gt => .lt | .ge => .le

theorem Comparison.fits_swap (op : Comparison) (c : Ordering) :
    op.fits c.swap = op.converse.fits c := by
  cases op <;> cases c <;> rfl

/-- The one of `<`, `==` and `>` that goes with an order. -/
def Comparison.ofOrdering : Ordering → Comparison
  | .lt => .lt
  | .eq => .eq
  | .gt => .gt

theorem Comparison.existsUnique_fits (c : Ordering) :
    ∃! op, op ∈ [Comparison.lt, .eq, .gt] ∧ op.fits c = true := by
  have hone : ∀ op ∈ [Comparison.lt, .eq, .gt], op.fits c = true → op = ofOrdering c := by
    cases c <;> decide
  exact ⟨ofOrdering c, by cases c <;> decide, fun op h => hone op h.1 h.2⟩

section Linear

variable {α : Type} [LinearOrder α] (a b : α)

theorem decide_lt_eq : decide (a < b) = (compare a b).isLT := by
  rcases hc : compare a b with _ | _ | _
  · simpa using compare_lt_iff_lt.1 hc
  · simpa using (compare_eq_iff_eq.1 hc).ge
  · simpa using (compare_gt_iff_gt.1 hc).le

theorem swap_compare : (compare a b).swap = compare b a := by
  rcases hc : compare a b with _ | _ | _
  · exact (compare_gt_iff_gt.2 (compare_lt_iff_lt.1 hc)).symm
  · exact (compare_eq_iff_eq.2 (compare_eq_iff_eq.1 hc).symm).symm
  · exact (compare_lt_iff_lt.2 (compare_gt_iff_gt.1 hc)).symm

theorem beq_eq_isEq [BEq α] [LawfulBEq α] : (a == b) = (compare a b).isEq := by
  rw [Bool.eq_iff_iff, beq_iff_eq, Ordering.isEq_iff_eq_eq, compare_eq_iff_eq]

end Linear

theorem Comparison.ofTexts_eq (op : Comparison) (a b : String) :
    op.ofTexts a b = op.fits (compare a b) := by
  have hlt := decide_lt_eq a b
  have hgt := decide_lt_eq b a
  have heq := beq_eq_isEq a b
  rw [← swap_compare a b] at hgt
  cases op <;> simp only [ofTexts, fits, bne, hlt, hgt, heq] <;> cases compare a b <;> rfl

theorem Comparison.ofNumbers_eq (op : Comparison) {x y : Binary64} {p q : Int}
    (hx : x.rank = some p) (hy : y.rank = some q) : op.ofNumbers x y = op.fits (compare p q) := by
  have hlt := decide_lt_eq p q
  have hgt := decide_lt_eq q p
  have heq := beq_eq_isEq p q
  rw [← swap_compare p q] at hgt
  cases op <;>
    simp only [ofNumbers, fits, Binary64.before, Binary64.same, hx, hy, hlt, hgt, heq] <;>
    cases compare p q <;> rfl

/-! ## Where values stand -/

/-- A value that has its place among the others: a text that does not read as `nan`, a truth value,
nothing, or a whole number that double precision reaches. -/
inductive Placed : Value → Prop
  | text {s : String} (h : readNumber? s ≠ some .nan) : Placed (.text s)
  | bool (b : Bool) : Placed (.bool b)
  | null : Placed .null
  | whole {n : Int} (h : Binary64.ofInt? n ≠ none) : Placed (.whole n)

/-- The place of the number that the value reads as. -/
def place? (v : Value) : Option Int :=
  match asNumber? v with
  | .ok (some x) => x.rank
  | _ => none

/-- How two values stand to each other: as numbers if both read as one, and else as texts. -/
def standing (a b : Value) : Ordering :=
  match place? a, place? b with
  | some p, some q => compare p q
  | _, _ => compare (asText a) (asText b)

/-- Two texts, or two whole numbers, that are different and read as numbers at one place. -/
inductive Twins : Value → Value → Prop
  | texts {s t : String} {p : Int} (differ : s ≠ t) (hs : place? (.text s) = some p)
      (ht : place? (.text t) = some p) : Twins (.text s) (.text t)
  | wholes {n m : Int} {p : Int} (differ : n ≠ m) (hn : place? (.whole n) = some p)
      (hm : place? (.whole m) = some p) : Twins (.whole n) (.whole m)

variable {a b : Value}

theorem standing_of_places {p q : Int} (ha : place? a = some p) (hb : place? b = some q) :
    standing a b = compare p q := by
  simp only [standing, ha, hb]

theorem standing_of_place_none (h : place? a = none ∨ place? b = none) :
    standing a b = compare (asText a) (asText b) := by
  unfold standing
  rcases h with h | h
  · rw [h]
  · rw [h]
    cases place? a <;> rfl

theorem standing_swap (a b : Value) : (standing a b).swap = standing b a := by
  rcases ha : place? a with _ | p
  · rw [standing_of_place_none (Or.inl ha), standing_of_place_none (Or.inr ha), swap_compare]
  rcases hb : place? b with _ | q
  · rw [standing_of_place_none (Or.inr hb), standing_of_place_none (Or.inl hb), swap_compare]
  · rw [standing_of_places ha hb, standing_of_places hb ha, swap_compare]

theorem standing_self (a : Value) : standing a a = .eq := by
  rcases ha : place? a with _ | p
  · rw [standing_of_place_none (Or.inl ha), compare_eq_iff_eq]
  · rw [standing_of_places ha ha, compare_eq_iff_eq]

theorem Twins.symm (h : Twins a b) : Twins b a := by
  cases h with
  | texts differ hs ht => exact .texts differ.symm ht hs
  | wholes differ hn hm => exact .wholes differ.symm hm hn

theorem Twins.standing_eq (h : Twins a b) : standing a b = .eq := by
  cases h with
  | texts _ hs ht => rw [standing_of_places hs ht, compare_eq_iff_eq]
  | wholes _ hn hm => rw [standing_of_places hn hm, compare_eq_iff_eq]

theorem exists_place {x : Binary64} (ha : asNumber? a = .ok (some x)) (hx : x ≠ .nan) :
    ∃ p, x.rank = some p ∧ place? a = some p := by
  obtain ⟨p, hp⟩ := Binary64.exists_rank hx
  exact ⟨p, hp, by simp only [place?, ha, hp]⟩

theorem exists_number_of_whole {n : Int} (h : Binary64.ofInt? n ≠ none) :
    ∃ x, asNumber? (.whole n) = .ok (some x) ∧ x ≠ .nan := by
  obtain ⟨x, hx⟩ := Option.ne_none_iff_exists'.1 h
  refine ⟨x, ?_, fun hnan => Binary64.ofInt?_ne_nan n (hnan ▸ hx)⟩
  simp only [asNumber?, hx]
  rfl

/-- A placed value reads as a number that stands where the value does, or as none. -/
theorem Placed.asNumber?_cases (h : Placed a) :
    (asNumber? a = .ok none ∧ place? a = none) ∨
      ∃ x p, asNumber? a = .ok (some x) ∧ x.rank = some p ∧ place? a = some p := by
  cases h with
  | @text s h =>
    rcases hs : readNumber? s with _ | x
    · exact Or.inl ⟨congrArg Except.ok hs, by simp only [place?, asNumber?, hs]⟩
    · have hread : asNumber? (.text s) = .ok (some x) := congrArg Except.ok hs
      obtain ⟨p, hp⟩ := exists_place hread fun hnan => h (hnan ▸ hs)
      exact Or.inr ⟨x, p, hread, hp⟩
  | bool => exact Or.inl ⟨rfl, rfl⟩
  | null => exact Or.inl ⟨rfl, rfl⟩
  | whole h =>
    obtain ⟨x, hread, hx⟩ := exists_number_of_whole h
    obtain ⟨p, hp⟩ := exists_place hread hx
    exact Or.inr ⟨x, p, hread, hp⟩

/-! ## The comparisons -/

/-- Two placed values are compared as numbers if both have the place of one, and else as texts. -/
theorem Placed.numbers?_cases (ha : Placed a) (hb : Placed b) :
    (numbers? a b = .ok none ∧ standing a b = compare (asText a) (asText b)) ∨
      ∃ x y p q, numbers? a b = .ok (some (x, y)) ∧ x.rank = some p ∧ y.rank = some q ∧
        standing a b = compare p q := by
  unfold numbers?
  rcases ha.asNumber?_cases with ⟨hna, hpa⟩ | ⟨x, p, hna, hx, hpa⟩
  · rcases hb.asNumber?_cases with ⟨hnb, _⟩ | ⟨_, _, hnb, _⟩
    · exact Or.inl ⟨by rw [hna, hnb]; rfl, standing_of_place_none (Or.inl hpa)⟩
    · exact Or.inl ⟨by rw [hna, hnb]; rfl, standing_of_place_none (Or.inl hpa)⟩
  · rcases hb.asNumber?_cases with ⟨hnb, hpb⟩ | ⟨y, q, hnb, hy, hpb⟩
    · exact Or.inl ⟨by rw [hna, hnb]; rfl, standing_of_place_none (Or.inr hpb)⟩
    · exact Or.inr ⟨x, y, p, q, by rw [hna, hnb]; rfl, hx, hy, standing_of_places hpa hpb⟩

/-- An order is the one in which the values stand. -/
theorem Placed.order_eq (ha : Placed a) (hb : Placed b) {op : Comparison} (heq : op ≠ .eq)
    (hne : op ≠ .ne) : op.holds a b = .ok (op.fits (standing a b)) := by
  have hnumbers := ha.numbers?_cases hb
  cases op with
  | eq => exact absurd rfl heq
  | ne => exact absurd rfl hne
  | lt | le | gt | ge =>
    unfold Comparison.holds
    rcases hnumbers with ⟨hn, hc⟩ | ⟨x, y, p, q, hn, hx, hy, hc⟩
    · rw [hn, hc, ← Comparison.ofTexts_eq]
      rfl
    · rw [hn, hc, ← Comparison.ofNumbers_eq _ hx hy]
      rfl

theorem equals_of_kind (h : a.kind = b.kind) : equals a b = .ok (a.same b) := by
  unfold equals
  rw [if_pos h]
  rfl

theorem asText_bool_injective {x y : Bool} (h : asText (.bool x) = asText (.bool y)) : x = y := by
  cases x <;> cases y
  case false.false | true.true => rfl
  case false.true | true.false => exact absurd h (by decide)

/-- Two placed values of one kind are the same just if they are one value. -/
theorem Placed.same_iff (ha : Placed a) (hb : Placed b) (h : a.kind = b.kind) :
    a.same b = true ↔ a = b := by
  cases ha with
  | text =>
    cases hb with
    | text => simp [Value.same]
    | bool | null | whole => cases h
  | bool =>
    cases hb with
    | bool => simp [Value.same]
    | text | null | whole => cases h
  | null =>
    cases hb with
    | null => simp [Value.same]
    | text | bool | whole => cases h
  | whole =>
    cases hb with
    | whole => simp [Value.same]
    | text | bool | null => cases h

/-- Values of one kind that differ stand at one place only as twins. -/
theorem Placed.twins_of_standing (ha : Placed a) (hb : Placed b) (hkind : a.kind = b.kind)
    (hne : a ≠ b) (h : standing a b = .eq) : Twins a b := by
  have htexts : place? a = none ∨ place? b = none → asText a = asText b := fun hnone => by
    rwa [standing_of_place_none hnone, compare_eq_iff_eq] at h
  have hmeet : ∀ p q, place? a = some p → place? b = some q → p = q := fun p q hp hq => by
    rwa [standing_of_places hp hq, compare_eq_iff_eq] at h
  cases ha with
  | @text s =>
    cases hb with
    | @text t =>
      have hst : s ≠ t := fun he => hne (congrArg Value.text he)
      rcases hp : place? (.text s) with _ | p
      · exact absurd (htexts (Or.inl hp)) hst
      rcases hq : place? (.text t) with _ | q
      · exact absurd (htexts (Or.inr hq)) hst
      · obtain rfl := hmeet p q hp hq
        exact .texts hst hp hq
    | bool | null | whole => cases hkind
  | bool x =>
    cases hb with
    | bool y => exact absurd (congrArg Value.bool (asText_bool_injective (htexts (Or.inl rfl)))) hne
    | text | null | whole => cases hkind
  | null =>
    cases hb with
    | null => exact absurd rfl hne
    | text | bool | whole => cases hkind
  | @whole n hn =>
    cases hb with
    | @whole m hm =>
      obtain ⟨x, hx, hxnan⟩ := exists_number_of_whole hn
      obtain ⟨y, hy, hynan⟩ := exists_number_of_whole hm
      obtain ⟨p, _, hp⟩ := exists_place hx hxnan
      obtain ⟨q, _, hq⟩ := exists_place hy hynan
      obtain rfl := hmeet p q hp hq
      exact .wholes (fun he => hne (congrArg Value.whole he)) hp hq
    | text | bool | null => cases hkind

theorem Placed.equals_eq (ha : Placed a) (hb : Placed b) (h : ¬ Twins a b) :
    equals a b = .ok (standing a b).isEq := by
  by_cases hkind : a.kind = b.kind
  · rw [equals_of_kind hkind]
    congr 1
    rw [Bool.eq_iff_iff, ha.same_iff hb hkind, Ordering.isEq_iff_eq_eq]
    refine ⟨fun he => he ▸ standing_self a, fun hc => ?_⟩
    by_contra hne
    exact h (ha.twins_of_standing hb hkind hne hc)
  · unfold equals
    rw [if_neg hkind]
    rcases ha.numbers?_cases hb with ⟨hn, hc⟩ | ⟨x, y, p, q, hn, hx, hy, hc⟩
    · rw [hn, hc, ← beq_eq_isEq]
      rfl
    · have hsame := Comparison.ofNumbers_eq .eq hx hy
      rw [hn, hc]
      exact congrArg Except.ok hsame

theorem Twins.equals_eq (h : Twins a b) : equals a b = .ok false := by
  cases h with
  | @texts s t p differ hs ht =>
    have hkind : (Value.text s).kind = (Value.text t).kind := rfl
    rw [equals_of_kind hkind, Value.same, beq_eq_false_iff_ne.2 differ]
  | @wholes n m p differ hn hm =>
    have hkind : (Value.whole n).kind = (Value.whole m).kind := rfl
    rw [equals_of_kind hkind, Value.same, beq_eq_false_iff_ne.2 differ]

/-! ## The law -/

theorem Comparison.holds_ne (a b : Value) :
    Comparison.ne.holds a b = (equals a b).map (!·) := by
  unfold Comparison.holds
  rcases equals a b with _ | _ <;> rfl

theorem Placed.holds_eq (ha : Placed a) (hb : Placed b) (h : ¬ Twins a b) (op : Comparison) :
    op.holds a b = .ok (op.fits (standing a b)) := by
  cases op with
  | eq => exact ha.equals_eq hb h
  | ne =>
    rw [Comparison.holds_ne, ha.equals_eq hb h]
    cases standing a b <;> rfl
  | lt | le | gt | ge => exact ha.order_eq hb nofun nofun

/-- What is said of twins: they stand at one place and are not equal. -/
def Comparison.ofTwins : Comparison → Bool
  | .eq => false
  | .ne => true
  | op => op.fits .eq

theorem Twins.holds_eq (ha : Placed a) (hb : Placed b) (h : Twins a b) (op : Comparison) :
    op.holds a b = .ok op.ofTwins := by
  cases op with
  | eq => exact h.equals_eq
  | ne =>
    rw [Comparison.holds_ne, h.equals_eq]
    rfl
  | lt | le | gt | ge =>
    refine (ha.order_eq hb (by nofun) (by nofun)).trans ?_
    rw [h.standing_eq]
    rfl

/-- Each comparison of two placed values has an answer, `!=` says the contrary of `==`, and the two
sides exchanged say the same the other way round. Unless the values are twins, exactly one of `<`,
`==` and `>` holds, and `<=` and `>=` hold just if `==` or the strict one does. Of twins none of the
three holds, but both `<=` and `>=`. -/
theorem the_comparisons_agree_except_on_twins (ha : Placed a) (hb : Placed b) :
    ∃ holds : Comparison → Bool, (∀ op : Comparison, op.holds a b = .ok (holds op)) ∧
      (∀ op : Comparison, op.holds b a = .ok (holds op.converse)) ∧
      holds .ne = !holds .eq ∧
      (¬ Twins a b → (∃! op, op ∈ [Comparison.lt, .eq, .gt] ∧ holds op = true) ∧
        holds .le = (holds .lt || holds .eq) ∧ holds .ge = (holds .gt || holds .eq)) ∧
      (Twins a b → (∀ op ∈ [Comparison.lt, .eq, .gt], holds op = false) ∧
        holds .le = true ∧ holds .ge = true) := by
  by_cases h : Twins a b
  · refine ⟨Comparison.ofTwins, h.holds_eq ha hb, fun op => ?_, rfl, absurd h,
      fun _ => ⟨?_, rfl, rfl⟩⟩
    · rw [h.symm.holds_eq hb ha]
      cases op <;> rfl
    · decide
  · refine ⟨fun op => op.fits (standing a b), ha.holds_eq hb h, fun op => ?_, ?_, fun _ => ?_,
      fun h' => absurd h' h⟩
    · rw [hb.holds_eq ha fun h' => h h'.symm, ← standing_swap, op.fits_swap]
    · cases standing a b <;> rfl
    · refine ⟨Comparison.existsUnique_fits (standing a b), ?_⟩
      cases standing a b <;> exact ⟨rfl, rfl⟩

/-- Ten and nine are compared as numbers, though they are written as texts. -/
theorem ten_stands_after_nine : Placed (.text "10") ∧ Placed (.text "9") ∧
    ¬ Twins (.text "10") (.text "9") ∧
    (∃! op, op ∈ [Comparison.lt, .eq, .gt] ∧ op.holds (.text "10") (.text "9") = .ok true) ∧
    Comparison.gt.holds (.text "10") (.text "9") = .ok true ∧
    Comparison.lt.holds (.text "9") (.text "10") = .ok true ∧
    Comparison.ge.holds (.text "10") (.text "9") = .ok true := by
  have hten : Placed (.text "10") := .text (by decide +kernel)
  have hnine : Placed (.text "9") := .text (by decide +kernel)
  have hplaces : place? (.text "10") ≠ place? (.text "9") := by decide +kernel
  have hno : ¬ Twins (.text "10") (.text "9") := by
    rintro (⟨_, hs, ht⟩ | _)
    exact hplaces (hs.trans ht.symm)
  obtain ⟨holds, hab, hba, _, hagree, _⟩ := the_comparisons_agree_except_on_twins hten hnine
  obtain ⟨hone, _, hge⟩ := hagree hno
  have hgt : Comparison.gt.holds (.text "10") (.text "9") = .ok true := by decide +kernel
  have htrue : holds .gt = true := Except.ok.inj ((hab .gt).symm.trans hgt)
  refine ⟨hten, hnine, hno, ?_, hgt, ?_, ?_⟩
  · simpa only [hab, Except.ok.injEq] using hone
  · rw [hba .lt]
    exact congrArg Except.ok htrue
  · rw [hab .ge, hge, htrue]
    rfl

/-- As numbers `1.0` and `1` are one, as texts two: none of the three holds of them. -/
theorem the_spellings_of_one_are_twins :
    Placed (.text "1.0") ∧ Placed (.text "1") ∧
      (∀ op ∈ [Comparison.lt, .eq, .gt], op.holds (.text "1.0") (.text "1") = .ok false) ∧
      Comparison.le.holds (.text "1.0") (.text "1") = .ok true ∧
      Comparison.ge.holds (.text "1.0") (.text "1") = .ok true ∧
      ¬ ∃! op, op ∈ [Comparison.lt, .eq, .gt] ∧
        op.holds (.text "1.0") (.text "1") = .ok true := by
  have hnone : ∀ op ∈ [Comparison.lt, .eq, .gt],
      op.holds (.text "1.0") (.text "1") = .ok false := by decide +kernel
  refine ⟨.text (by decide +kernel), .text (by decide +kernel), hnone, by decide +kernel,
    by decide +kernel, ?_⟩
  rintro ⟨op, ⟨hmem, htrue⟩, _⟩
  rw [hnone op hmem] at htrue
  cases htrue

end GatedPipeline.Condition
