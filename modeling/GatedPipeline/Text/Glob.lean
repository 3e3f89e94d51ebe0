-- File-name patterns. `*` stands for any text, `?` for any one character and
-- `[...]` for one character of a set; a slash and a line break are characters
-- like any other, and upper and lower case differ.
namespace GatedPipeline.Text

/-! ## Patterns -/

/-- One element of a pattern. -/
inductive GlobPiece where
  /-- Any text, also the empty one. -/
  | anyText
  /-- Any one character. -/
  | anyChar
  /-- This character. -/
  | exactly (c : Char)
  /-- One character that is listed or in a range; when `negated`, one that is not. -/
  | oneOf (negated : Bool) (listed : List Char) (ranges : List (Char × Char))
  deriving DecidableEq, Repr

/-- Whether a set with these elements has the character. -/
def GlobPiece.hasChar (listed : List Char) (ranges : List (Char × Char)) (c : Char) : Bool :=
  listed.contains c || ranges.any fun (first, last) => first ≤ c && c ≤ last

/-- Whether the element stands for this one character. -/
def GlobPiece.hasOne (c : Char) : GlobPiece → Bool
  | .anyText => false
  | .anyChar => true
  | .exactly d => c = d
  | .oneOf negated listed ranges => GlobPiece.hasChar listed ranges c != negated

/-! ## Matching

A pattern is followed through all places of the text at once: for each of them, from the place
before the first character to that after the last, whether the elements so far can stand for
the text up to it. -/

/-- Each place from the first reached one on. -/
def fromFirst : Bool → List Bool → List Bool
  | _, [] => []
  | seen, r :: rs => (seen || r) :: fromFirst (seen || r) rs

/-- The places that are reached with one more element. -/
def GlobPiece.follow (cs : List Char) (reached : List Bool) : GlobPiece → List Bool
  | .anyText => fromFirst false reached
  | p => false :: List.zipWith (fun r c => r && p.hasOne c) reached cs

/-- Whether the pattern stands for the whole text. -/
def globAccepts (ps : List GlobPiece) (cs : List Char) : Bool :=
  (ps.foldl (fun reached p => p.follow cs reached) (true :: cs.map fun _ => false)).getLast?
    == some true

/-! ## Sets

The text of a set is cut at the hyphens that make ranges: a range goes from the
last character of one chunk to the first character of the next. A hyphen makes a
range when the chunk before it has a character of its own, and something follows it. -/

/-- Cuts at every hyphen that has at least `wait` characters of its chunk before it. -/
def setChunks : Nat → List Char → List Char → List (List Char)
  | _, chunk, [] => [chunk]
  | 0, chunk, '-' :: cs => chunk :: setChunks 2 [] cs
  | 0, chunk, c :: cs => setChunks 0 (chunk ++ [c]) cs
  | wait + 1, chunk, c :: cs => setChunks wait (chunk ++ [c]) cs

/-- A hyphen with nothing after it stands for itself. -/
def keepLastHyphen : List (List Char) → List (List Char)
  | [chunk, []] => [chunk ++ ['-']]
  | chunk :: chunks => chunk :: keepLastHyphen chunks
  | [] => []

/-- Takes out each range whose ends are in falling order, from the last one on: both of
its ends go, and the chunks become one. -/
def dropEmptyRanges : List (List Char) → List (List Char)
  | [] => []
  | chunk :: chunks =>
    match dropEmptyRanges chunks with
    | [] => [chunk]
    | next :: rest =>
      match chunk.getLast?, next.head? with
      | some first, some last =>
        if last < first then (chunk.dropLast ++ next.drop 1) :: rest else chunk :: next :: rest
      | _, _ => chunk :: next :: rest

/-- The ranges between neighbouring chunks. -/
def rangesOf : List (List Char) → List (Char × Char)
  | chunk :: next :: rest =>
    match chunk.getLast?, next.head? with
    | some first, some last => (first, last) :: rangesOf (next :: rest)
    | _, _ => rangesOf (next :: rest)
  | _ => []

/-- The set with this text between its brackets. A set of nothing has no character, and a
negated set of nothing has all. When the mark `!` is all that an empty range leaves of the
first chunk, the hyphen after it is a character of the set. -/
def GlobPiece.ofSet (cs : List Char) : GlobPiece :=
  let chunks :=
    if cs.contains '-' then
      dropEmptyRanges (keepLastHyphen (setChunks (if cs.head? = some '!' then 2 else 1) [] cs))
    else [cs]
  match chunks with
  | ['!'] :: next :: rest =>
    .oneOf true ('-' :: (next :: rest).flatten) (rangesOf (next :: rest))
  | ('!' :: chunk) :: rest =>
    .oneOf true (chunk ++ rest.flatten) (rangesOf (chunk :: rest))
  | _ => .oneOf false chunks.flatten (rangesOf chunks)

/-- The text of a set and what follows its closing bracket. A bracket that comes first, or
first after `!`, is a character of the set. -/
def setText? (cs : List Char) : Option (List Char × List Char) :=
  let (start, body) := match cs with
    | '!' :: ']' :: r => (['!', ']'], r)
    | '!' :: r => (['!'], r)
    | ']' :: r => ([']'], r)
    | r => ([], r)
  let inside := body.takeWhile (· ≠ ']')
  match body.drop inside.length with
  | _ :: after => some (start ++ inside, after)
  | [] => none

/-- The elements of a pattern, after its first `skip` characters are passed over. A bracket
that is never closed stands for itself. -/
def globPieces : Nat → List Char → List GlobPiece
  | _, [] => []
  | skip + 1, _ :: cs => globPieces skip cs
  | 0, '*' :: cs => .anyText :: globPieces 0 cs
  | 0, '?' :: cs => .anyChar :: globPieces 0 cs
  | 0, '[' :: cs =>
    match setText? cs with
    | some (set, _) => .ofSet set :: globPieces (set.length + 1) cs
    | none => .exactly '[' :: globPieces 0 cs
  | 0, c :: cs => .exactly c :: globPieces 0 cs

/-- Whether the pattern stands for the whole text. -/
def globMatches (pattern text : String) : Bool :=
  globAccepts (globPieces 0 pattern.toList) text.toList

end GatedPipeline.Text
