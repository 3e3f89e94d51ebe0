-- Texts in rising order, compared character by character.
namespace GatedPipeline.Text

/-- The texts in rising order. -/
def sortTexts (xs : List String) : List String := xs.mergeSort fun a b => !decide (b < a)

/-- The distinct texts in rising order. -/
def sortedSet (xs : List String) : List String := sortTexts xs.eraseDups

/-- Items in the rising order of a text that belongs to each. -/
def sortByText {α : Type} (key : α → String) (xs : List α) : List α :=
  xs.mergeSort fun a b => !decide (key b < key a)

end GatedPipeline.Text
