-- The names of the inputs. A reference is found under its key, or, when an
-- earlier one has that key, under its own text. Only one of them can be lost: a
-- reference that took the key as its name, when the key alone is declared after
-- it and means something else.
import GatedPipeline.Proofs.Graph.Build
import Mathlib.Data.List.TakeWhile
namespace GatedPipeline

/-! ## References that are nothing but a key -/

namespace OutputRef

/-- The key of the reference that a text writes. -/
def keyOf? (raw : String) : Option String := (parse? raw).map (·.key)

theorem raw_of_parse? {raw : String} {ref : OutputRef} (h : parse? raw = some ref) :
    ref.raw = raw := by
  unfold parse? at h
  dsimp only at h
  split at h
  · obtain ⟨_, _, rfl⟩ := Option.map_eq_some_iff.1 h
    rfl
  · split at h
    · cases h
    · obtain ⟨_, _, rfl⟩ := Option.map_eq_some_iff.1 h
      rfl
  · split at h
    · cases h
    · split at h
      · split at h <;> cases h
        rfl
      · cases h
  · cases h

/-- A key is made of the characters of names, one at least. -/
def IsKey (key : String) : Prop := key.toList ≠ [] ∧ ∀ c ∈ key.toList, isWordChar c = true

instance (key : String) : Decidable (IsKey key) :=
  decidable_of_iff (key.toList ≠ [] ∧ key.toList.all isWordChar = true) (by
    rw [IsKey, List.all_eq_true])

theorem isKey_of_key? {cs : List Char} {key : String} (h : key? cs = some key) : IsKey key := by
  unfold key? at h
  split at h
  · rename_i hcs
    cases h
    simp only [Bool.and_eq_true, Bool.not_eq_true', List.isEmpty_eq_false_iff,
      List.all_eq_true] at hcs
    rw [IsKey, String.toList_ofList]
    exact hcs
  · cases h

theorem isKey_of_parse? {raw : String} {ref : OutputRef} (h : parse? raw = some ref) :
    IsKey ref.key := by
  unfold parse? at h
  dsimp only at h
  split at h
  · obtain ⟨_, hk, rfl⟩ := Option.map_eq_some_iff.1 h
    exact isKey_of_key? hk
  · split at h
    · cases h
    · obtain ⟨_, hk, rfl⟩ := Option.map_eq_some_iff.1 h
      exact isKey_of_key? hk
  · split at h
    · cases h
    · split at h
      · split at h
        · rename_i hk _
          cases h
          exact isKey_of_key? hk
        · cases h
      · cases h
  · cases h

theorem not_isBlank_of_isWordChar {c : Char} (h : isWordChar c = true) :
    Text.isBlank c = false := by
  have hrange : 33 ≤ c.toNat ∧ c.toNat < 128 := by
    delta isWordChar Char.isAlphanum Char.isAlpha Char.isUpper Char.isLower Char.isDigit at h
    simp only [Bool.or_eq_true, Bool.and_eq_true, decide_eq_true_eq, ge_iff_le,
      UInt32.le_iff_toNat_le] at h
    change ((((65 ≤ c.toNat ∧ c.toNat ≤ 90) ∨ (97 ≤ c.toNat ∧ c.toNat ≤ 122)) ∨
      (48 ≤ c.toNat ∧ c.toNat ≤ 57)) ∨ c = '_') ∨ c = '-' at h
    rcases h with (h | rfl) | rfl
    · omega
    · decide
    · decide
  simp only [Text.isBlank, Bool.or_eq_false_iff, beq_eq_false_iff_ne, Bool.and_eq_false_iff,
    decide_eq_false_iff_not]
  omega

theorem key?_toList {key : String} (h : IsKey key) : key? key.toList = some key := by
  rw [key?, if_pos, String.ofList_toList]
  simp only [Bool.and_eq_true, Bool.not_eq_true', List.isEmpty_eq_false_iff, List.all_eq_true]
  exact h

/-- A key alone is a reference, and it is its own key. -/
theorem parse?_of_isKey {key : String} (h : IsKey key) :
    parse? key = some { raw := key, key } := by
  have hall := h.2
  have hdrop : ∀ cs : List Char, (∀ c ∈ cs, isWordChar c = true) → Text.dropBlanks cs = cs := by
    intro cs hcs
    cases cs with
    | nil => rfl
    | cons c cs =>
      simp [Text.dropBlanks, not_isBlank_of_isWordChar (hcs c List.mem_cons_self)]
  have hblanks : Text.dropLastBlanks (Text.dropBlanks key.toList) = key.toList := by
    rw [hdrop _ hall, Text.dropLastBlanks, hdrop _ fun c hc => hall c (List.mem_reverse.1 hc),
      List.reverse_reverse]
  have htake : key.toList.takeWhile isWordChar = key.toList :=
    List.takeWhile_eq_self_iff.2 hall
  have hrest : key.toList.dropWhile isWordChar = [] := List.dropWhile_eq_nil_iff.2 hall
  unfold parse?
  simp only [hblanks, hrest, htake, key?_toList h, Option.map_some]

theorem parse?_key {raw : String} {ref : OutputRef} (h : parse? raw = some ref) :
    parse? ref.key = some { raw := ref.key, key := ref.key } := parse?_of_isKey (isKey_of_parse? h)

theorem keyOf?_key {raw key : String} (h : keyOf? raw = some key) : keyOf? key = some key := by
  obtain ⟨ref, href, rfl⟩ := Option.map_eq_some_iff.1 h
  rw [keyOf?, parse?_key href]
  rfl

end OutputRef

namespace StageGraph
open OutputRef

variable {all : List Instance} {g : StageGraph} {i : Instance}
  {raws : List String} {raw raw' name key : String} {source : Source}

/-! ## The names of references -/

/-- An earlier reference of the list has the key of this one. -/
def Repeats (raws : List String) (raw : String) : Prop :=
  ∃ before after, raws = before ++ raw :: after ∧ ∃ r ∈ before, keyOf? r = keyOf? raw

/-- The first reference of the list with the key. -/
def firstWith? (key : String) (raws : List String) : Option String :=
  raws.find? fun r => decide (keyOf? r = some key)

/-- The names under which a reference of the list is found: its own text, if an earlier one has its
key; and its key, if it is the first one with it, unless the key alone stands somewhere else. -/
inductive Named (raws : List String) (raw : String) : String → Prop
  | text (again : Repeats raws raw) : Named raws raw raw
  | key {key : String} (first : firstWith? key raws = some raw) (alone : raw = key ∨ key ∉ raws) :
      Named raws raw key

/-- The reference stands once, as the first one with its key, and the key alone comes after it. -/
def Overshadowed (raws : List String) (raw key : String) : Prop :=
  firstWith? key raws = some raw ∧ raw ≠ key ∧ key ∈ raws ∧ ¬ Repeats raws raw

theorem firstWith?_eq_some (h : firstWith? key raws = some raw) :
    raw ∈ raws ∧ keyOf? raw = some key := by
  unfold firstWith? at h
  have hkey := List.find?_some h
  exact ⟨List.mem_of_find?_eq_some h, by simpa using hkey⟩

theorem mem_of_repeats (h : Repeats raws raw) : raw ∈ raws := by
  obtain ⟨before, after, rfl, _⟩ := h
  simp

/-- A reference that is not the first one with its key repeats it. -/
theorem repeats_of_first (hraw : raw ∈ raws) (hkey : keyOf? raw = some key)
    (hfirst : firstWith? key raws = some raw') (hne : raw ≠ raw') : Repeats raws raw := by
  obtain ⟨before, after, rfl⟩ := List.append_of_mem hraw
  refine ⟨before, after, rfl, ?_⟩
  rcases hbefore : firstWith? key before with _ | r
  · rw [firstWith?] at hfirst hbefore
    rw [List.find?_append, hbefore, List.find?_cons_of_pos (by simpa using hkey)] at hfirst
    exact absurd (Option.some.inj hfirst) hne
  · obtain ⟨hr, hrkey⟩ := firstWith?_eq_some hbefore
    exact ⟨r, hr, hrkey.trans hkey.symm⟩

theorem firstWith?_isSome (hraw : raw ∈ raws) (hkey : keyOf? raw = some key) :
    ∃ first, firstWith? key raws = some first :=
  Option.isSome_iff_exists.1 (List.find?_isSome.2 ⟨raw, hraw, by simpa using hkey⟩)

/-- No two references have one name. -/
theorem Named.unique (h : Named raws raw name) (h' : Named raws raw' name) : raw = raw' := by
  cases h with
  | text again =>
    cases h' with
    | text => rfl
    | key _ alone => exact (alone.resolve_right (not_not_intro (mem_of_repeats again))).symm
  | key first alone =>
    cases h' with
    | text again => exact alone.resolve_right (not_not_intro (mem_of_repeats again))
    | key first' => exact Option.some.inj (first.symm.trans first')

/-- Each reference has a name, unless it is overshadowed. -/
theorem named_or_overshadowed (hraw : raw ∈ raws) (hkey : keyOf? raw = some key) :
    (∃ name, Named raws raw name) ∨ Overshadowed raws raw key := by
  by_cases hagain : Repeats raws raw
  · exact Or.inl ⟨raw, .text hagain⟩
  obtain ⟨first, hfirst⟩ := firstWith?_isSome hraw hkey
  obtain rfl : raw = first := not_imp_comm.1 (repeats_of_first hraw hkey hfirst) hagain
  by_cases halone : raw = key ∨ key ∉ raws
  · exact Or.inl ⟨key, .key hfirst halone⟩
  · obtain ⟨hne, hmem⟩ := not_or.1 halone
    exact Or.inr ⟨hfirst, hne, not_not.1 hmem, hagain⟩

theorem Overshadowed.not_named (h : Overshadowed raws raw key) : ¬ Named raws raw name := by
  obtain ⟨hfirst, hne, hmem, hagain⟩ := h
  intro hnamed
  cases hnamed with
  | text again => exact hagain again
  | key first alone =>
    have hkey := (firstWith?_eq_some first).2
    rw [(firstWith?_eq_some hfirst).2] at hkey
    cases hkey
    exact alone.elim hne fun hnot => hnot hmem

/-- The key alone has itself as its name wherever it stands. -/
theorem named_of_key (hmem : key ∈ raws) (hkey : keyOf? key = some key) : Named raws key key := by
  obtain ⟨first, hfirst⟩ := firstWith?_isSome hmem hkey
  by_cases hsame : key = first
  · exact .key (hsame ▸ hfirst) (Or.inl rfl)
  · exact .text (repeats_of_first hmem hkey hfirst hsame)

/-! ### One more reference -/

theorem repeats_concat {x : String} : Repeats (raws ++ [x]) raw ↔
    Repeats raws raw ∨ raw = x ∧ ∃ r ∈ raws, keyOf? r = keyOf? x := by
  constructor
  · rintro ⟨before, after, he, r, hr, hkey⟩
    rcases List.eq_nil_or_concat after with rfl | ⟨after, y, rfl⟩
    · obtain ⟨rfl, hx⟩ := List.append_inj' he rfl
      cases hx
      exact Or.inr ⟨rfl, r, hr, hkey⟩
    · have he' : raws ++ [x] = (before ++ raw :: after) ++ [y] := by simpa using he
      exact Or.inl ⟨before, after, (List.append_inj' he' rfl).1, r, hr, hkey⟩
  · rintro (⟨before, after, rfl, hr⟩ | ⟨rfl, r, hr, hkey⟩)
    · exact ⟨before, after ++ [x], by simp, hr⟩
    · exact ⟨raws, [], rfl, r, hr, hkey⟩

theorem firstWith?_concat {x : String} : firstWith? name (raws ++ [x]) =
    (firstWith? name raws).or (if keyOf? x = some name then some x else none) := by
  rw [firstWith?, List.find?_append, List.find?_singleton]
  simp only [decide_eq_true_eq]
  rfl

/-- A further reference changes no names but the one that it takes. -/
theorem named_concat {x taken : String} (hx : keyOf? x = some key)
    (hold : (∃ r ∈ raws, keyOf? r = some key) → taken = x)
    (hnew : (¬ ∃ r ∈ raws, keyOf? r = some key) → taken = key) (hname : name ≠ taken) :
    Named (raws ++ [x]) raw name ↔ Named raws raw name := by
  by_cases hknown : ∃ r ∈ raws, keyOf? r = some key
  · -- the key is taken: the reference goes by its own text
    rw [hold hknown] at hname
    have hfirst : firstWith? name (raws ++ [x]) = firstWith? name raws := by
      rw [firstWith?_concat]
      rcases hn : firstWith? name raws with _ | first
      · rw [if_neg, Option.none_or]
        intro hk
        obtain ⟨r, hr, hrkey⟩ := hknown
        obtain ⟨first, hf⟩ := firstWith?_isSome hr (hrkey.trans (hx.symm.trans hk))
        rw [hn] at hf
        cases hf
      · rfl
    constructor
    · rintro (again | ⟨first, alone⟩)
      · exact .text ((repeats_concat.1 again).resolve_right fun hlast => hname hlast.1)
      · exact .key (hfirst ▸ first) (alone.imp_right fun hn hm => hn (List.mem_append_left _ hm))
    · rintro (again | ⟨first, alone⟩)
      · exact .text (repeats_concat.2 (Or.inl again))
      · refine .key (hfirst ▸ first) (alone.imp_right fun hn hm => ?_)
        rcases List.mem_append.1 hm with hm | hm
        · exact hn hm
        · exact hname (List.mem_singleton.1 hm)
  · -- the key is new: the reference takes it, and no name changes that is not the key
    rw [hnew hknown] at hname
    have hfirst : firstWith? name (raws ++ [x]) = firstWith? name raws := by
      rw [firstWith?_concat, if_neg, Option.or_none]
      intro hk
      exact hname (Option.some.inj (hk.symm.trans hx))
    constructor
    · rintro (again | ⟨first, alone⟩)
      · refine .text ((repeats_concat.1 again).resolve_right ?_)
        rintro ⟨_, r, hr, hrkey⟩
        exact hknown ⟨r, hr, hrkey.trans hx⟩
      · exact .key (hfirst ▸ first) (alone.imp_right fun hn hm => hn (List.mem_append_left _ hm))
    · rintro (again | ⟨first, alone⟩)
      · exact .text (repeats_concat.2 (Or.inl again))
      · refine .key (hfirst ▸ first) (alone.imp_right fun hn hm => ?_)
        rcases List.mem_append.1 hm with hm | hm
        · exact hn hm
        · -- a key alone has no other key than itself
          have hself := keyOf?_key (firstWith?_eq_some first).2
          rw [List.mem_singleton.1 hm, hx] at hself
          exact hname (List.mem_singleton.1 hm ▸ (Option.some.inj hself).symm)

/-! ## The table of inputs -/

/-- What a reference of an instance means on its own. -/
def meaning (g : StageGraph) (i : Instance) (raw : String) : Except PlanFault Source := do
  g.resolve i (← parseRef raw i.id)

theorem meaning_eq_ok : g.meaning i raw = .ok source ↔
    ∃ ref, parse? raw = some ref ∧ g.resolve i ref = .ok source := by
  unfold meaning parseRef
  rcases parse? raw with _ | ref
  · simp [bind, Except.bind]
  · simp [bind, Except.bind]

/-- All references of the list have been resolved, and under each name the table has what the
reference with that name means. -/
structure Tabled (g : StageGraph) (i : Instance) (raws : List String)
    (table : List (String × Source)) : Prop where
  means : ∀ raw ∈ raws, ∃ source, g.meaning i raw = .ok source
  entry : ∀ name source, getPair? name table = some source ↔
    ∃ raw, Named raws raw name ∧ g.meaning i raw = .ok source

/-- The key is in the table just if a reference has it. -/
theorem Tabled.isSome_iff {table : List (String × Source)} (h : Tabled g i raws table)
    (hself : keyOf? key = some key) :
    (getPair? key table).isSome = true ↔ ∃ r ∈ raws, keyOf? r = some key := by
  constructor
  · intro hsome
    obtain ⟨source, hs⟩ := Option.isSome_iff_exists.1 hsome
    obtain ⟨raw, hnamed, _⟩ := (h.entry key source).1 hs
    cases hnamed with
    | text again => exact ⟨key, mem_of_repeats again, hself⟩
    | key first => exact ⟨raw, firstWith?_eq_some first⟩
  · rintro ⟨r, hr, hkey⟩
    obtain ⟨first, hfirst⟩ := firstWith?_isSome hr hkey
    obtain ⟨raw, hm, hnamed⟩ : ∃ raw ∈ raws, Named raws raw key := by
      by_cases hmem : key ∈ raws
      · exact ⟨key, hmem, named_of_key hmem hself⟩
      · exact ⟨first, (firstWith?_eq_some hfirst).1, .key hfirst (Or.inr hmem)⟩
    obtain ⟨source, hs⟩ := h.means raw hm
    exact Option.isSome_iff_exists.2 ⟨source, (h.entry key source).2 ⟨raw, hnamed, hs⟩⟩

/-- One more reference is put into the table. -/
theorem Tabled.concat {table : List (String × Source)} {x : String} (h : Tabled g i raws table)
    (hx : keyOf? x = some key) (hs : g.meaning i x = .ok source) :
    Tabled g i (raws ++ [x])
      (putPair (if (getPair? key table).isSome then x else key) source table) := by
  have hiff := h.isSome_iff (keyOf?_key hx)
  refine ⟨fun raw hm => ?_, fun name other => ?_⟩
  · rcases List.mem_append.1 hm with hm | hm
    · exact h.means raw hm
    · exact ⟨source, List.mem_singleton.1 hm ▸ hs⟩
  generalize htaken : (if (getPair? key table).isSome = true then x else key) = taken
  have hold : (∃ r ∈ raws, keyOf? r = some key) → taken = x := by
    intro hr
    rw [← htaken, if_pos (hiff.2 hr)]
  have hnew : (¬ ∃ r ∈ raws, keyOf? r = some key) → taken = key := by
    intro hr
    rw [← htaken, if_neg (mt hiff.1 hr)]
  rw [getPair?_putPair]
  split
  · rename_i hname
    -- the name that the new reference takes is its own from now on
    have hnamed : Named (raws ++ [x]) x name := by
      rw [hname]
      by_cases hknown : ∃ r ∈ raws, keyOf? r = some key
      · obtain ⟨r, hr, hrkey⟩ := hknown
        rw [hold ⟨r, hr, hrkey⟩]
        exact .text (repeats_concat.2 (Or.inr ⟨rfl, r, hr, hrkey.trans hx.symm⟩))
      · rw [hnew hknown]
        have hnone : firstWith? key raws = none := by
          rcases hf : firstWith? key raws with _ | first
          · rfl
          · exact absurd ⟨first, firstWith?_eq_some hf⟩ hknown
        refine .key (by rw [firstWith?_concat, hnone, if_pos hx]; rfl) ?_
        by_cases hsame : x = key
        · exact Or.inl hsame
        · refine Or.inr fun hm => ?_
          rcases List.mem_append.1 hm with hm | hm
          · exact hknown ⟨key, hm, keyOf?_key hx⟩
          · exact hsame (List.mem_singleton.1 hm).symm
    constructor
    · intro he
      cases he
      exact ⟨x, hnamed, hs⟩
    · rintro ⟨raw, hraw, hmeans⟩
      rw [hraw.unique hnamed, hs] at hmeans
      exact congrArg some (Except.ok.inj hmeans)
  · rename_i hname
    rw [h.entry]
    exact exists_congr fun raw => and_congr_left' (named_concat hx hold hnew hname).symm

/-- The inputs that an instance resolves to are the table of its references. -/
theorem tabled_of_resolveInputs {inputs : List (String × Source)}
    (h : g.resolveInputs i = .ok inputs) : Tabled g i i.template.inputs inputs := by
  have hfold : ∀ (rest raws : List String) (table : List (String × Source)),
      Tabled g i raws table →
      rest.foldlM (fun found raw => do
        let ref ← parseRef raw i.id
        let source ← g.resolve i ref
        let name := if (getPair? ref.key found).isSome then ref.raw else ref.key
        return putPair name source found) table = Except.ok inputs →
      Tabled g i (raws ++ rest) inputs := by
    intro rest
    induction rest with
    | nil =>
      intro raws table ht h
      cases h
      rwa [List.append_nil]
    | cons x rest ih =>
      intro raws table ht h
      rw [List.foldlM_cons] at h
      rcases hp : parse? x with _ | ref
      · simp only [parseRef, hp, bind, Except.bind] at h
        cases h
      rcases hr : g.resolve i ref with fault | source
      · simp only [parseRef, hp, bind, Except.bind, hr] at h
        cases h
      · simp only [parseRef, hp, bind, Except.bind, hr, pure, Except.pure, raw_of_parse? hp] at h
        rw [List.append_cons]
        have hkey : keyOf? x = some ref.key := by rw [keyOf?, hp]; rfl
        exact ih _ _ (ht.concat hkey (meaning_eq_ok.2 ⟨ref, hp, hr⟩)) h
  refine hfold _ [] [] ⟨by simp, fun name source => ⟨fun he => (by cases he), ?_⟩⟩ h
  rintro ⟨raw, hnamed, _⟩
  cases hnamed with
  | text again => cases mem_of_repeats again
  | key first => cases (firstWith?_eq_some first).1

/-! ## Asking for a producer -/

theorem producerOf_eq {inputs : List (String × Source)} (hin : getPair? i.id g.inputs = some inputs)
    (hkey : keyOf? raw = some key)
    (hfound : (getPair? raw inputs <|> getPair? key inputs) = some source) :
    g.producerOf i.id raw = .ok source.producer := by
  obtain ⟨ref, href, rfl⟩ := Option.map_eq_some_iff.1 hkey
  unfold producerOf parseRef
  simp only [hin, href, raw_of_parse? href, hfound]

/-- A reference with a name is found under it. -/
theorem Tabled.found {table : List (String × Source)} (h : Tabled g i raws table)
    (hnamed : Named raws raw name) (hkey : keyOf? raw = some key)
    (hs : g.meaning i raw = .ok source) :
    (getPair? raw table <|> getPair? key table) = some source := by
  rcases hraw : getPair? raw table with _ | other
  · change getPair? key table = some source
    cases hnamed with
    | text again =>
      rw [(h.entry raw source).2 ⟨raw, .text again, hs⟩] at hraw
      cases hraw
    | key first alone =>
      rw [(firstWith?_eq_some first).2] at hkey
      cases hkey
      exact (h.entry _ source).2 ⟨raw, .key first alone, hs⟩
  · -- whatever goes by the text of a reference is that reference
    obtain ⟨raw', hnamed', hs'⟩ := (h.entry raw other).1 hraw
    obtain rfl : raw' = raw := by
      cases hnamed' with
      | text => rfl
      | key first alone =>
        cases hnamed with
        | text again => exact Named.unique (.key first alone) (.text again)
        | key first' alone' =>
          have hself := keyOf?_key (firstWith?_eq_some first).2
          rw [(firstWith?_eq_some first').2] at hself
          cases hself
          exact Named.unique (.key first alone) (.key first' alone')
    rw [hs] at hs'
    cases hs'
    rfl

/-- A reference that is overshadowed is answered with what the key alone means. -/
theorem Tabled.overshadowed {table : List (String × Source)} (h : Tabled g i raws table)
    (hover : Overshadowed raws raw key) : ∃ other, g.meaning i key = .ok other ∧
      (getPair? raw table <|> getPair? key table) = some other := by
  have hself := keyOf?_key (firstWith?_eq_some hover.1).2
  obtain ⟨other, hother⟩ := h.means key hover.2.2.1
  refine ⟨other, hother, ?_⟩
  have hnone : getPair? raw table = none := by
    rcases hraw : getPair? raw table with _ | source
    · rfl
    · obtain ⟨raw', hnamed, _⟩ := (h.entry raw source).1 hraw
      cases hnamed with
      | text again => exact absurd again hover.2.2.2
      | key first =>
        have hraw := keyOf?_key (firstWith?_eq_some first).2
        rw [(firstWith?_eq_some hover.1).2] at hraw
        exact absurd (Option.some.inj hraw).symm hover.2.1
  rw [hnone]
  exact (h.entry key other).2 ⟨key, named_of_key hover.2.2.1 hself, hother⟩

/-! ## The law -/

/-- In an accepted graph every reference that an instance declares means one output. The inputs of the
instance have under each name what the one reference with that name means, and each reference has a
name and its own producer; but one that took the key as its name before the key alone was declared
has lost it to that one. -/
theorem a_declared_input_is_lost_only_to_its_key_alone (h : build all = .ok g)
    (hi : g.instance? i.id = some i) :
    (∀ raw ∈ i.template.inputs, ∃ source, g.meaning i raw = .ok source) ∧
    (∀ name source, getPair? name (g.inputsOf i.id) = some source ↔
      ∃ raw, Named i.template.inputs raw name ∧ g.meaning i raw = .ok source) ∧
    (∀ name raw raw', Named i.template.inputs raw name → Named i.template.inputs raw' name →
      raw = raw') ∧
    ∀ raw ∈ i.template.inputs, ∀ key source, keyOf? raw = some key →
      g.meaning i raw = .ok source →
      ((∃ name, Named i.template.inputs raw name) ∧
        g.producerOf i.id raw = .ok source.producer) ∨
      (Overshadowed i.template.inputs raw key ∧ (∀ name, ¬ Named i.template.inputs raw name) ∧
        ∃ other, g.meaning i key = .ok other ∧ g.producerOf i.id raw = .ok other.producer) := by
  obtain ⟨hget, hresolved⟩ := (build_spec h).resolveInputs hi
  have htable := tabled_of_resolveInputs hresolved
  refine ⟨htable.means, htable.entry, fun _ _ _ hn hn' => hn.unique hn', ?_⟩
  intro raw hraw key source hkey hs
  rcases named_or_overshadowed hraw hkey with ⟨name, hnamed⟩ | hover
  · exact Or.inl ⟨⟨name, hnamed⟩, producerOf_eq hget hkey (htable.found hnamed hkey hs)⟩
  · obtain ⟨other, hother, hfound⟩ := htable.overshadowed hover
    exact Or.inr ⟨hover, fun _ => hover.not_named, other, hother,
      producerOf_eq hget hkey hfound⟩

/-! ## Two tags -/

/-- A stage that proposes a tag, and a release that reads the proposal and the tag itself. -/
def tagStages : List Instance := [
  { template := { name := "plan", outputs := ["release_tag"] } },
  { template := {
      name := "deploy", needs := ["plan"], inputs := ["plan.release_tag", "release_tag"]
      release := true } }]

def tagGraph : StageGraph := (build tagStages).toOption.getD default

theorem ok_of_toOption {ε α : Type} {r : Except ε α} {a : α} (h : r.toOption = some a) :
    r = .ok a := by
  cases r with
  | error => cases h
  | ok b => exact congrArg Except.ok (Option.some.inj h)

theorem ok_getD_of_isSome {ε α : Type} [Inhabited α] {r : Except ε α}
    (h : r.toOption.isSome = true) : r = .ok (r.toOption.getD default) := by
  obtain ⟨a, ha⟩ := Option.isSome_iff_exists.1 h
  rw [ha, Option.getD_some, ok_of_toOption ha]

theorem build_tagStages : build tagStages = .ok tagGraph := ok_getD_of_isSome (by decide +kernel)

/-- The proposal is lost to the tag of the release, and both are answered with the run. -/
theorem the_proposed_tag_is_lost_to_that_of_the_release :
    build tagStages = .ok tagGraph ∧ ∃ deploy, tagGraph.instance? deploy.id = some deploy ∧
      (∃ name, Named deploy.template.inputs "release_tag" name) ∧
      (∀ name, ¬ Named deploy.template.inputs "plan.release_tag" name) ∧
      tagGraph.producerOf deploy.id "release_tag" = .ok runScope ∧
      tagGraph.producerOf deploy.id "plan.release_tag" = .ok runScope := by
  have hdeploy : (tagGraph.instance? "deploy").map (fun i => (i.id, i.template.inputs,
      (tagGraph.meaning i "release_tag").toOption,
      (tagGraph.meaning i "plan.release_tag").toOption)) =
      some ("deploy", ["plan.release_tag", "release_tag"], some ⟨runScope, "release_tag"⟩,
        some ⟨"plan", "release_tag"⟩) := by decide +kernel
  obtain ⟨deploy, hi, hfacts⟩ := Option.map_eq_some_iff.1 hdeploy
  obtain ⟨hid, hfacts⟩ := Prod.mk.inj hfacts
  obtain ⟨hinputs, hfacts⟩ := Prod.mk.inj hfacts
  obtain ⟨htag, hplan⟩ := Prod.mk.inj hfacts
  rw [← hid] at hi
  obtain ⟨_, _, _, hall⟩ := a_declared_input_is_lost_only_to_its_key_alone build_tagStages hi
  have hshadow : ¬ Overshadowed deploy.template.inputs "release_tag" "release_tag" :=
    fun hover => hover.2.1 rfl
  have hown := (hall "release_tag" (by rw [hinputs]; simp) "release_tag" _ (by decide +kernel)
    (ok_of_toOption htag)).resolve_right fun hlost => hshadow hlost.1
  have hfirst : ¬ ∃ name, Named deploy.template.inputs "plan.release_tag" name := by
    rintro ⟨name, hnamed⟩
    rw [hinputs] at hnamed
    cases hnamed with
    | text again =>
      obtain ⟨before, after, he, r, hr, _⟩ := again
      rcases before with _ | ⟨_, before⟩
      · cases hr
      · rcases before with _ | ⟨_, before⟩ <;> simp at he
    | key first alone =>
      have hkey := (firstWith?_eq_some first).2
      rw [show keyOf? "plan.release_tag" = some "release_tag" by decide +kernel] at hkey
      cases hkey
      revert alone
      decide
  have hlost := (hall "plan.release_tag" (by rw [hinputs]; simp) "release_tag" _
    (by decide +kernel) (ok_of_toOption hplan)).resolve_left fun hown => hfirst hown.1
  obtain ⟨_, hnone, other, hother, hproducer⟩ := hlost
  rw [ok_of_toOption htag] at hother
  cases hother
  exact ⟨build_tagStages, deploy, hi, hown.1, hnone, hown.2, hproducer⟩

/-- So not every declared input has an entry of its own, nor its own producer. -/
theorem not_every_declared_input_is_kept : ¬ ∀ all g i, build all = .ok g →
    g.instance? i.id = some i → ∀ raw ∈ i.template.inputs, ∀ source,
      g.meaning i raw = .ok source →
      (∃ name, getPair? name (g.inputsOf i.id) = some source) ∧
        g.producerOf i.id raw = .ok source.producer := by
  intro hall
  have hdeploy : (tagGraph.instance? "deploy").map (fun i => (i.id,
      i.template.inputs.contains "plan.release_tag",
      (tagGraph.meaning i "plan.release_tag").toOption)) =
      some ("deploy", true, some ⟨"plan", "release_tag"⟩) := by decide +kernel
  obtain ⟨deploy, hi, hfacts⟩ := Option.map_eq_some_iff.1 hdeploy
  obtain ⟨hid, hfacts⟩ := Prod.mk.inj hfacts
  obtain ⟨hmem, hplan⟩ := Prod.mk.inj hfacts
  rw [← hid] at hi
  obtain ⟨⟨name, hentry⟩, _⟩ := hall tagStages tagGraph deploy build_tagStages hi
    "plan.release_tag" (List.contains_iff_mem.1 hmem) _ (ok_of_toOption hplan)
  rw [hid] at hentry
  have hnot : ∀ p ∈ tagGraph.inputsOf "deploy", p.2 ≠ ⟨"plan", "release_tag"⟩ := by
    decide +kernel
  exact hnot _ (mem_of_getPair? hentry) rfl

end StageGraph

end GatedPipeline
