-- Reading TOML documents. A table is opened by its header once; what is
-- written in one piece, as an array or an inline table, is never added to.
import GatedPipeline.Text.Find
import GatedPipeline.Toml.Lexeme
namespace GatedPipeline.Toml
open GatedPipeline.Text

abbrev Table := List (String × Toml)

/-! ## Changing tables -/

/-- Changes the table at a path, and makes the tables on the way that are not there. Through a
list of tables the path leads to its last one. Fails where something else is in the way. -/
def within (throughLists : Bool) (f : Table → Option Table) : List String → Table → Option Table
  | [], t => f t
  | k :: ks, t =>
    match getPair? k t with
    | none => (within throughLists f ks []).map fun u => putPair k (.table u) t
    | some (.table u) => (within throughLists f ks u).map fun u => putPair k (.table u) t
    | some (.list items) =>
      match throughLists, items.getLast? with
      | true, some (.table u) =>
        (within throughLists f ks u).map fun u => putPair k (.list (items.dropLast ++ [.table u])) t
      | _, _ => none
    | some _ => none

/-- Puts a value under a key that is not taken. -/
def putNew (k : String) (v : Toml) (t : Table) : Option Table :=
  if (getPair? k t).isSome then none else some (putPair k v t)

/-- Adds a new table to the list of tables under a key. -/
def addTable (k : String) (t : Table) : Option Table :=
  match getPair? k t with
  | none => some (putPair k (.list [.table []]) t)
  | some (.list items) => some (putPair k (.list (items ++ [.table []])) t)
  | some _ => none

/-- The path and the last part of a key. -/
def splitKey (parts : List String) : List String × String :=
  (parts.dropLast, parts.getLast?.getD "")

/-- Whether a value was written in one piece. -/
def isWhole : Toml → Bool
  | .list _ | .table _ => true
  | _ => false

/-- Whether the path is one of these or lies inside one. -/
def isInside (paths : List (List String)) (path : List String) : Bool :=
  paths.any (·.isPrefixOf path)

/-! ## Values -/

def startsWith (s : String) (cs : List Char) : Bool := s.toList.isPrefixOf cs

/-- Reads a value that holds no others. -/
def scalar (cs : List Char) : Except Fault (Toml × List Char) :=
  if startsWith "true" cs then .ok (.bool true, cs.drop 4)
  else if startsWith "false" cs then .ok (.bool false, cs.drop 5)
  else match moment? cs with
    | some (d, v, rest) => if d.valid then .ok (v, rest) else fail cs "Invalid date or datetime"
    | none =>
      match clock? cs with
      | some (c, rest) => .ok (.clock c, rest)
      | none =>
        match based? cs, decimal? cs, wordNumber? cs with
        | some answer, _, _ => .ok answer
        | none, some (parts, rest), _ => parts.value.map fun v => (v, rest)
        | none, none, some answer => .ok answer
        | none, none, none => fail cs "Invalid value"

/-- Reads a key, the sign of equality and the blanks after it. -/
def keyAndSign (cs : List Char) : Except Fault (List String × List Char) := do
  let (k, rest) ← key cs
  match rest with
  | '=' :: r => return (k, skipSpaces r)
  | rest => fail rest "Expected '=' after a key in a key/value pair"

mutual

def value (cs : List Char) : Except Fault (Toml × List Char) :=
  match cs with
  | '"' :: r => (quotedText '"' r).map fun (s, rest) => (.text s, rest)
  | '\'' :: r => (quotedText '\'' r).map fun (s, rest) => (.text s, rest)
  | '[' :: r => do
    let rest ← skipLines r
    if rest.length ≤ r.length then
      let (items, rest) ← items rest
      return (.list items, rest)
    else fail rest "Unclosed array"
  | '\x7b' :: r =>
    match skipSpaces r with
    | '\x7d' :: rest => .ok (.table [], rest)
    | rest =>
      if rest.length ≤ r.length then do
        let (t, rest) ← entries [] [] rest
        return (.table t, rest)
      else fail rest "Unclosed inline table"
  | cs => scalar cs
termination_by (cs.length, 0)

/-- Reads the items of an array, up to its closing bracket. -/
def items (cs : List Char) : Except Fault (List Toml × List Char) :=
  match cs with
  | ']' :: r => .ok ([], r)
  | cs => do
    let (v, rest) ← value cs
    let rest ← skipLines rest
    match rest with
    | ']' :: r => return ([v], r)
    | ',' :: r =>
      let next ← skipLines r
      if next.length < cs.length then
        let (vs, rest) ← items next
        return (v :: vs, rest)
      else fail next "Unclosed array"
    | rest => fail rest "Unclosed array"
termination_by (cs.length, 1)

/-- Reads the entries of an inline table, up to its closing brace. The entries before it are
in `t`, and what is below the paths in `whole` was written in one piece. -/
def entries (t : Table) (whole : List (List String)) (cs : List Char) :
    Except Fault (Table × List Char) := do
  let (k, rest) ← keyAndSign cs
  if rest.length < cs.length then
    let (v, rest) ← value rest
    let (path, last) := splitKey k
    if isInside whole k then fail rest ("Cannot mutate immutable namespace " ++ keyShown k)
    else match within false some path t, within false (putNew last v) path t with
      | none, _ => fail rest "Cannot overwrite a value"
      | some _, none => fail rest ("Duplicate inline table key " ++ quoted last)
      | some _, some t =>
        match skipSpaces rest with
        | '\x7d' :: r => return (t, r)
        | ',' :: r =>
          let next := skipSpaces r
          if next.length < cs.length then
            entries t (if isWhole v then whole ++ [k] else whole) next
          else fail next "Unclosed inline table"
        | rest => fail rest "Unclosed inline table"
  else fail rest "Unclosed inline table"
termination_by (cs.length, 1)

end

/-! ## Documents -/

/-- A document that is being read. -/
structure Document where
  root : Table := []
  /-- The table of the last header. -/
  header : List String := []
  /-- The tables that no header may open. -/
  declared : List (List String) := []
  /-- The tables of dotted keys, which no later header may open. -/
  dotted : List (List String) := []
  /-- What was written in one piece. -/
  whole : List (List String) := []

namespace Document

/-- Reads a header `[key]` after its first bracket. -/
def tableHeader (d : Document) (cs : List Char) : Except Fault (Document × List Char) := do
  let (k, rest) ← key (skipSpaces cs)
  if d.declared.contains k || isInside d.whole k then
    fail rest (s!"Cannot declare " ++ keyShown k ++ " twice")
  else match within true some k d.root with
    | none => fail rest "Cannot overwrite a value"
    | some root =>
      match rest with
      | ']' :: r => return ({ d with root, header := k, declared := d.declared ++ [k] }, r)
      | rest => fail rest "Expected ']' at the end of a table declaration"

/-- Reads a header `[[key]]` after its first two brackets. -/
def listHeader (d : Document) (cs : List Char) : Except Fault (Document × List Char) := do
  let (k, rest) ← key (skipSpaces cs)
  if isInside d.whole k then fail rest ("Cannot mutate immutable namespace " ++ keyShown k)
  else
    let (path, last) := splitKey k
    match within true (addTable last) path d.root with
    | none => fail rest "Cannot overwrite a value"
    | some root =>
      match rest with
      | ']' :: ']' :: r =>
        let outside (paths : List (List String)) := paths.filter fun p => !k.isPrefixOf p
        return ({ d with
          root, header := k
          declared := outside d.declared ++ [k]
          whole := outside d.whole }, r)
      | rest => fail rest "Expected ']]' at the end of an array declaration"

/-- The paths to the tables that a dotted key leads through. -/
def tablesOf (header k : List String) : List (List String) :=
  (List.range (k.length - 1)).map fun i => header ++ k.take (i + 1)

/-- Reads a key with its value. -/
def entry (d : Document) (cs : List Char) : Except Fault (Document × List Char) := do
  let (k, rest) ← keyAndSign cs
  let (v, rest) ← value rest
  let (path, last) := splitKey k
  let parent := d.header ++ path
  match (tablesOf d.header k).find? d.declared.contains with
  | some p => fail rest ("Cannot redefine namespace " ++ keyShown p)
  | none =>
    if isInside d.whole parent then
      fail rest ("Cannot mutate immutable namespace " ++ keyShown parent)
    else match within true (putNew last v) parent d.root with
      | none => fail rest "Cannot overwrite a value"
      | some root =>
        return ({ d with
          root
          dotted := d.dotted ++ tablesOf d.header k
          whole := if isWhole v then d.whole ++ [d.header ++ k] else d.whole }, rest)

/-- Reads a header. From here on the dotted keys before it count as declared. -/
def openHeader (d : Document) (cs : List Char) : Except Fault (Document × List Char) :=
  let d := { d with declared := d.declared ++ d.dotted, dotted := [] }
  match cs with
  | '[' :: r => d.listHeader r
  | r => d.tableHeader r

/-- Reads what stands on a line, if it is not blank. -/
def statement (d : Document) (cs : List Char) : Except Fault (Document × List Char) :=
  match cs with
  | [] => .ok (d, [])
  | c :: r =>
    if beginsKey c then d.entry (c :: r)
    else if c = '[' then d.openHeader r
    else if c = '#' || c = '\n' then .ok (d, c :: r)
    else fail (c :: r) "Invalid statement"

/-- Reads the document line by line. -/
def lines (d : Document) (cs : List Char) : Except Fault Document := do
  let (d, rest) ← d.statement (skipSpaces cs)
  match ← skipComment (skipSpaces rest) with
  | [] => return d
  | '\n' :: r =>
    if r.length < cs.length then lines d r else return d
  | rest => fail rest "Expected newline or end of document after a statement"
termination_by cs.length

end Document

/-- The message about a fault in a document with these characters. -/
def Fault.messageIn (source : List Char) : Fault → String
  | .malformed message remaining => s!"{message} (at " ++ position source remaining ++ ")"
  | .tooManyDigits count => Decimal.tooManyDigitsMessage count

/-- The characters of a document: each line ends with one line feed. -/
def sourceOf (s : String) : List Char := (replace "\r\n" "\n" s).toList

/-- The table that a document writes, or what is wrong with the document. -/
def parse (source : List Char) : Except Fault Table := (Document.lines {} source).map (·.root)

end GatedPipeline.Toml
