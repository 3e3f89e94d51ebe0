-- Finding one text inside another: cutting at a character, and putting a new
-- text in the place of an old one.
namespace GatedPipeline.Text

/-! ## Cutting at a character -/

/-- What stands before the first `sep` and what stands after it. -/
def cut? (sep : Char) : List Char → Option (List Char × List Char)
  | [] => none
  | c :: cs => if c = sep then some ([], cs) else (cut? sep cs).map fun (a, b) => (c :: a, b)

/-- What stands before the first `sep`, and what stands after it; all and nothing
when there is no `sep`. -/
def cutText (sep : Char) (s : String) : String × String :=
  match cut? sep s.toList with
  | some (a, b) => (String.ofList a, String.ofList b)
  | none => (s, "")

/-- The pieces between the `sep`s. There is one piece more than there are `sep`s. -/
def pieces (sep : Char) : List Char → List (List Char)
  | [] => [[]]
  | c :: cs =>
    if c = sep then [] :: pieces sep cs
    else match pieces sep cs with
      | p :: ps => (c :: p) :: ps
      | [] => [[c]]

/-- The texts between the `sep`s. -/
def splitText (sep : Char) (s : String) : List String := (pieces sep s.toList).map String.ofList

/-! ## One text in another -/

/-- Whether `part` stands somewhere in `cs`. -/
def occursIn (part : List Char) : List Char → Bool
  | [] => part.isEmpty
  | c :: cs => part.isPrefixOf (c :: cs) || occursIn part cs

/-- Skips the first `skip` characters, then puts `new` in the place of every `old`, from left
to right. A character of one `old` is in no other. -/
def replaceFrom (old new : List Char) : Nat → List Char → List Char
  | _, [] => []
  | skip + 1, _ :: cs => replaceFrom old new skip cs
  | 0, c :: cs =>
    if old.isPrefixOf (c :: cs) then new ++ replaceFrom old new (old.length - 1) cs
    else c :: replaceFrom old new 0 cs

/-- The text with `new` in the place of every `old`. -/
def replace (old new s : String) : String :=
  String.ofList (replaceFrom old.toList new.toList 0 s.toList)

end GatedPipeline.Text
