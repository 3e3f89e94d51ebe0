-- The keys of an ordered map, and what the map holds after a change. Most of
-- what a run knows is held in such maps.
import GatedPipeline.Pairs
namespace GatedPipeline

variable {α β : Type} [DecidableEq α]

/-! ## Keys -/

theorem getPair?_eq_none_iff {k : α} {ps : List (α × β)} :
    getPair? k ps = none ↔ k ∉ ps.map (·.1) := by
  induction ps with
  | nil => simp
  | cons p ps ih =>
    by_cases h : p.1 = k
    · simp [getPair?, h]
    · simp [getPair?, h, ih, Ne.symm h]

theorem mem_of_getPair? {k : α} {v : β} {ps : List (α × β)} (h : getPair? k ps = some v) :
    (k, v) ∈ ps := by
  induction ps with
  | nil => cases h
  | cons p ps ih =>
    obtain ⟨k', v'⟩ := p
    by_cases hk : k' = k
    · simp only [getPair?, hk, if_true, Option.some.injEq] at h
      simp [hk, h]
    · simp only [getPair?, hk, if_false] at h
      exact List.mem_cons_of_mem _ (ih h)

theorem key_mem_of_getPair? {k : α} {v : β} {ps : List (α × β)} (h : getPair? k ps = some v) :
    k ∈ ps.map (·.1) := List.mem_map_of_mem (mem_of_getPair? h)

theorem exists_getPair?_of_key_mem {k : α} {ps : List (α × β)} (h : k ∈ ps.map (·.1)) :
    ∃ v, getPair? k ps = some v := by
  rcases hv : getPair? k ps with _ | v
  · exact absurd h (getPair?_eq_none_iff.1 hv)
  · exact ⟨v, rfl⟩

/-- With distinct keys a map gives each value that it holds. -/
theorem getPair?_of_mem {k : α} {v : β} {ps : List (α × β)} (hn : (ps.map (·.1)).Nodup)
    (h : (k, v) ∈ ps) : getPair? k ps = some v := by
  induction ps with
  | nil => cases h
  | cons p ps ih =>
    obtain ⟨k', v'⟩ := p
    rw [List.map_cons, List.nodup_cons] at hn
    rcases List.mem_cons.1 h with h | h
    · cases h; simp [getPair?]
    · have hk : k' ≠ k := by
        rintro rfl
        exact hn.1 (List.mem_map.2 ⟨_, h, rfl⟩)
      simp [getPair?, hk, ih hn.2 h]

/-- Of two maps, one after the other, the first one counts. -/
theorem getPair?_append (k : α) (ps qs : List (α × β)) :
    getPair? k (ps ++ qs) = (getPair? k ps).or (getPair? k qs) := by
  induction ps with
  | nil => simp
  | cons p ps ih =>
    by_cases h : p.1 = k
    · simp [getPair?, h]
    · simp [getPair?, h, ih]

theorem getPair?_map {γ : Type} (f : α → β → γ) (k : α) (ps : List (α × β)) :
    getPair? k (ps.map fun (k, v) => (k, f k v)) = (getPair? k ps).map (f k) := by
  induction ps with
  | nil => rfl
  | cons p ps ih =>
    obtain ⟨k', v⟩ := p
    by_cases h : k' = k
    · subst h
      simp [getPair?]
    · simp [getPair?, h, ih]

/-- A part of a map that has the value under a key gives that one too. -/
theorem getPair?_filter {p : α × β → Bool} {k : α} {ps : List (α × β)}
    (h : ∀ v, getPair? k ps = some v → p (k, v) = true) :
    getPair? k (ps.filter p) = getPair? k ps := by
  induction ps with
  | nil => rfl
  | cons q ps ih =>
    obtain ⟨k', v⟩ := q
    by_cases hk : k' = k
    · subst hk
      rw [List.filter_cons_of_pos (h v (if_pos rfl))]
      simp [getPair?]
    · have hrest := ih fun w hw => h w (by simpa [getPair?, hk] using hw)
      by_cases hp : p (k', v) = true
      · rw [List.filter_cons_of_pos hp]
        simp [getPair?, hk, hrest]
      · rw [List.filter_cons_of_neg hp, hrest]
        simp [getPair?, hk]

/-! ## Changes -/

/-- A change within a part of a map. -/
theorem filter_putPair_inside {p : α × β → Bool} {k : α} {v : β} {ps : List (α × β)}
    (hv : p (k, v) = true) (h : ∀ w, getPair? k ps = some w → p (k, w) = true) :
    (putPair k v ps).filter p = putPair k v (ps.filter p) := by
  induction ps with
  | nil => simp [putPair, hv]
  | cons q ps ih =>
    obtain ⟨k', w⟩ := q
    by_cases hk : k' = k
    · subst hk
      rw [List.filter_cons_of_pos (h w (if_pos rfl))]
      simp [putPair, hv]
    · have hrest := ih fun w hw => h w (by simpa [getPair?, hk] using hw)
      by_cases hp : p (k', w) = true <;> simp [putPair, hk, hp, hrest]

/-- A change outside a part of a map. -/
theorem filter_putPair_outside {p : α × β → Bool} {k : α} {v : β} {ps : List (α × β)}
    (hv : p (k, v) = false) (h : ∀ w, getPair? k ps = some w → p (k, w) = false) :
    (putPair k v ps).filter p = ps.filter p := by
  induction ps with
  | nil => simp [putPair, hv]
  | cons q ps ih =>
    obtain ⟨k', w⟩ := q
    by_cases hk : k' = k
    · subst hk
      simp [putPair, hv, h w (if_pos rfl)]
    · have hrest := ih fun w hw => h w (by simpa [getPair?, hk] using hw)
      by_cases hp : p (k', w) = true <;> simp [putPair, hk, hp, hrest]

theorem keys_putPair_of_mem {k : α} {v : β} {ps : List (α × β)} (h : k ∈ ps.map (·.1)) :
    (putPair k v ps).map (·.1) = ps.map (·.1) := by
  induction ps with
  | nil => cases h
  | cons p ps ih =>
    by_cases hk : p.1 = k
    · simp [putPair, hk]
    · have h' : k ∈ ps.map (·.1) := by simpa [Ne.symm hk] using h
      simpa [putPair, hk] using ih h'

theorem mem_putPair {k : α} {v : β} {ps : List (α × β)} {q : α × β} (h : q ∈ putPair k v ps) :
    q = (k, v) ∨ q ∈ ps := by
  induction ps with
  | nil => exact Or.inl (by simpa [putPair] using h)
  | cons p ps ih =>
    by_cases hk : p.1 = k
    · simp only [putPair, hk, if_true, List.mem_cons] at h
      exact h.imp_right (List.mem_cons_of_mem _)
    · simp only [putPair, hk, if_false, List.mem_cons] at h
      rcases h with h | h
      · exact Or.inr (h ▸ List.mem_cons_self)
      · exact (ih h).imp_right (List.mem_cons_of_mem _)

/-- Of two values that are put under one key the later one stays. -/
theorem putPair_putPair (k : α) (v w : β) (ps : List (α × β)) :
    putPair k v (putPair k w ps) = putPair k v ps := by
  induction ps with
  | nil => simp [putPair]
  | cons p ps ih =>
    by_cases hp : p.1 = k
    · simp [putPair, hp]
    · simp [putPair, hp, ih]

theorem nodup_keys_putPair {k : α} {v : β} {ps : List (α × β)} (h : (ps.map (·.1)).Nodup) :
    ((putPair k v ps).map (·.1)).Nodup := by
  by_cases hk : k ∈ ps.map (·.1)
  · rwa [keys_putPair_of_mem hk]
  · have hkeys : (putPair k v ps).map (·.1) = ps.map (·.1) ++ [k] := by
      clear h
      induction ps with
      | nil => rfl
      | cons p ps ih =>
        have hp : p.1 ≠ k := fun he => hk (by simp [he])
        simp [putPair, hp, ih fun hm => hk (List.mem_cons_of_mem _ hm)]
    rw [hkeys]
    exact List.nodup_append.2 ⟨h, by simp, by rintro a ha b hb rfl; simp_all⟩

/-- A map that takes up the pairs of another one gives those first. -/
theorem getPair?_foldl_putPair {k : α} {vs own : List (α × β)} (h : (vs.map (·.1)).Nodup) :
    getPair? k (vs.foldl (fun own (k, v) => putPair k v own) own) =
      (getPair? k vs).or (getPair? k own) := by
  induction vs generalizing own with
  | nil => simp
  | cons p vs ih =>
    obtain ⟨k', v⟩ := p
    rw [List.map_cons, List.nodup_cons] at h
    rw [List.foldl_cons, ih h.2, getPair?_putPair]
    by_cases hk : k = k'
    · subst hk
      simp [getPair?, getPair?_eq_none_iff.2 h.1]
    · simp [getPair?, hk, Ne.symm hk]

theorem mem_of_mem_dropPair {k : α} {ps : List (α × β)} {q : α × β} (h : q ∈ dropPair k ps) :
    q ∈ ps := (List.mem_filter.1 h).1

theorem getPair?_dropPair (k l : α) (ps : List (α × β)) :
    getPair? l (dropPair k ps) = if l = k then none else getPair? l ps := by
  unfold dropPair
  induction ps with
  | nil => simp
  | cons p ps ih =>
    by_cases hk : p.1 = k
    · by_cases hl : l = k
      · simpa [hk, hl] using ih
      · simpa [getPair?, hk, hl, Ne.symm hl] using ih
    · by_cases hl : p.1 = l
      · have : l ≠ k := fun he => hk (hl.trans he)
        simp [getPair?, hl, this]
      · by_cases hlk : l = k <;> simp_all [getPair?]

end GatedPipeline
