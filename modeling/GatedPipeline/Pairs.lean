-- Ordered maps, held as lists of pairs: a key that comes again keeps its
-- place and takes the new value.
namespace GatedPipeline

variable {α β : Type} [DecidableEq α]

/-- The map with the value put under the key. -/
def putPair (k : α) (v : β) : List (α × β) → List (α × β)
  | [] => [(k, v)]
  | (k', v') :: ps => if k' = k then (k, v) :: ps else (k', v') :: putPair k v ps

/-- The value under the key. -/
def getPair? (k : α) : List (α × β) → Option β
  | [] => none
  | (k', v) :: ps => if k' = k then some v else getPair? k ps

/-- The map of some pairs. Of two with one key the later one counts. -/
def ofPairs (ps : List (α × β)) : List (α × β) := ps.foldl (fun m (k, v) => putPair k v m) []

/-- The map without the key. -/
def dropPair (k : α) (ps : List (α × β)) : List (α × β) := ps.filter fun p => p.1 ≠ k

/-! ## What a map holds after a change -/

@[simp] theorem getPair?_nil (k : α) : getPair? k ([] : List (α × β)) = none := rfl

theorem getPair?_putPair (k l : α) (v : β) (ps : List (α × β)) :
    getPair? l (putPair k v ps) = if l = k then some v else getPair? l ps := by
  induction ps with
  | nil =>
    by_cases h : l = k
    · simp [putPair, getPair?, h]
    · simp [putPair, getPair?, h, Ne.symm h]
  | cons p ps ih =>
    obtain ⟨k', v'⟩ := p
    by_cases hk : k' = k
    · subst hk
      by_cases hl : l = k'
      · simp [putPair, getPair?, hl]
      · simp [putPair, getPair?, hl, Ne.symm hl]
    · by_cases hl : k' = l
      · subst hl; simp [putPair, getPair?, hk]
      · simp [putPair, getPair?, hk, hl, ih]

@[simp] theorem getPair?_putPair_self (k : α) (v : β) (ps : List (α × β)) :
    getPair? k (putPair k v ps) = some v := by simp [getPair?_putPair]

theorem getPair?_putPair_ne {k l : α} (h : l ≠ k) (v : β) (ps : List (α × β)) :
    getPair? l (putPair k v ps) = getPair? l ps := by simp [getPair?_putPair, h]

end GatedPipeline
