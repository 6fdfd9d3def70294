import Dataflow.Text.Yaml.Directive
import Dataflow.Text.Yaml.Scalar.Block
import Dataflow.Text.Yaml.Scalar.Plain
import Dataflow.Text.Yaml.Scalar.Quoted

namespace Dataflow.Text.Yaml

/-!
# YAML layout

The tokens of a text.  Outside brackets, columns decide which blocks are open.  A key without a mark of
its own is known only from the colon behind it, so the last place where a key may have started is kept,
and its token is put there when the colon comes.
-/

/-- A place where a key may have started. -/
structure PossibleKey where
  place : Place
  /-- The number of tokens before it. -/
  position : Nat
  /-- Whether only a key can stand there. -/
  isRequired : Bool

namespace PossibleKey

/-- The number of bytes that a key may have. -/
def reach : Nat := 1024

/-- Whether a colon at a place is too far from a key. -/
def isPassed (possible : PossibleKey) (place : Place) : Bool :=
  decide (possible.place.line < place.line) ||
    decide (possible.place.offset + reach < place.offset)

end PossibleKey

/-- The tokens of the first part of a text, and what they mean to the next one. -/
structure Layout where
  /-- The tokens, the last one first. -/
  reversed : List Token := []
  /-- The columns of the open blocks, the innermost first. -/
  columns : List Nat := []
  /-- Where a key may have started. -/
  possible : Option PossibleKey := none
  /-- The same around each open bracket, the innermost first. -/
  around : List (Option PossibleKey) := []
  /-- Whether a key may start next. -/
  allowsKey : Bool := true

namespace Layout

/-- Whether a bracket is open. -/
def inBrackets (layout : Layout) : Bool := !layout.around.isEmpty

/-- The least column of what belongs to the innermost block but is no part of it. -/
def innerColumn (layout : Layout) : Nat := (layout.columns.head?.map (· + 1)).getD 0

/-- The layout with one more token. -/
def push (layout : Layout) (token : Token) : Layout :=
  { layout with reversed := token :: layout.reversed }

/-- The layout with a token behind the first so many. -/
def insert (layout : Layout) (position : Nat) (token : Token) : Layout :=
  { layout with
    reversed := layout.reversed.insertIdx (layout.reversed.length - position) token }

/-- Open a block at a column behind so many tokens, unless one is open there or brackets are. -/
def openBlock (layout : Layout) (collection : Collection) (column position : Nat) : Layout :=
  if layout.inBrackets || decide (column < layout.innerColumn) then
    layout
  else
    { layout with columns := column :: layout.columns }.insert position (.indent collection)

/-- Open a block at a column behind all tokens. -/
def openBlockHere (layout : Layout) (collection : Collection) (column : Nat) : Layout :=
  layout.openBlock collection column layout.reversed.length

/-- Close all blocks of a kind, unless brackets are open. -/
def closeBlocks (layout : Layout) (isClosed : Nat → Bool) : Layout :=
  if layout.inBrackets then
    layout
  else
    { layout with
      columns := layout.columns.dropWhile isClosed
      reversed :=
        List.replicate (layout.columns.takeWhile isClosed).length .dedent ++ layout.reversed }

/-- No key has started; this is refused where only a key can stand. -/
def withoutKey? (layout : Layout) : Option Layout :=
  if layout.possible.any PossibleKey.isRequired then
    none
  else
    some { layout with possible := none }

/-- A key may start at a place. -/
def startKey? (layout : Layout) (place : Place) : Option Layout :=
  if layout.allowsKey then do
    let next ← layout.withoutKey?
    return { next with
      possible := some {
        place
        position := layout.reversed.length
        isRequired := !layout.inBrackets && layout.columns.head? == some place.column } }
  else
    some layout

/-- Forget the keys that have ended before a place, none of which may be required. -/
def passKeys? (layout : Layout) (place : Place) : Option Layout :=
  let isPassed (possible : PossibleKey) : Bool := possible.isPassed place
  let passed := (layout.possible :: layout.around).map fun possible => possible.filter isPassed
  if passed.any fun possible => possible.any PossibleKey.isRequired then
    none
  else
    let left (possible : Option PossibleKey) : Option PossibleKey :=
      possible.filter fun key => !isPassed key
    some { layout with possible := left layout.possible, around := layout.around.map left }

/-- A block or an explicit key can start only where a key can. -/
def checkBlock? (layout : Layout) : Option Unit :=
  if layout.inBrackets || layout.allowsKey then some () else none

/-- The places of the next token, and whether a key may start there. -/
def skip (inBrackets : Bool) (inComment allowsKey : Bool) : List Place → Bool × List Place
  | [] => (allowsKey, [])
  | place :: rest =>
      if place.isBreak then
        skip inBrackets false (allowsKey || !inBrackets) rest
      else if inComment || place.character == ' ' ||
          (place.character == '\t' && (inBrackets || !allowsKey)) then
        skip inBrackets inComment allowsKey rest
      else if place.character == '#' then
        skip inBrackets true allowsKey rest
      else
        (allowsKey, place :: rest)

/-- A directive or a document mark, which closes all blocks. -/
def pushMark? (layout : Layout) (token : Token) : Option Layout := do
  let closed ← (layout.closeBlocks fun _ => true).withoutKey?
  return { closed.push token with allowsKey := false }

/-- A bracket that opens at a place. -/
def pushOpening? (layout : Layout) (collection : Collection) (place : Place) : Option Layout := do
  let started ← layout.startKey? place
  return { started.push (.opening collection) with
    possible := none
    around := started.possible :: started.around
    allowsKey := true }

/-- A bracket that closes, which need not be open. -/
def pushClosing? (layout : Layout) (collection : Collection) : Option Layout := do
  let ended ← layout.withoutKey?
  let outer :=
    match ended.around with
    | [] => ended
    | possible :: around => { ended with possible, around }
  return { outer.push (.closing collection) with allowsKey := false }

/-- A comma between the parts of brackets. -/
def pushComma? (layout : Layout) : Option Layout := do
  return { (← layout.withoutKey?).push .comma with allowsKey := true }

/-- A dash before an item at a place. -/
def pushDash? (layout : Layout) (place : Place) : Option Layout := do
  layout.checkBlock?
  let opened ← (layout.openBlockHere .sequence place.column).withoutKey?
  return { opened.push .dash with allowsKey := true }

/-- A mark before a key at a place. -/
def pushKey? (layout : Layout) (place : Place) : Option Layout := do
  layout.checkBlock?
  let opened ← (layout.openBlockHere .mapping place.column).withoutKey?
  return { opened.push .key with allowsKey := !layout.inBrackets }

/-- A colon at a place, and the key before it if one has started. -/
def pushColon? (layout : Layout) (place : Place) : Option Layout :=
  match layout.possible with
  | some key =>
      let keyed := (layout.insert key.position .key).openBlock .mapping key.place.column key.position
      some { keyed.push .colon with possible := none, allowsKey := false }
  | none => do
      layout.checkBlock?
      let opened := layout.openBlockHere .mapping place.column
      return { opened.push .colon with allowsKey := !layout.inBrackets }

/-- A word at a place that a key may consist of or start with. -/
def pushWord? (layout : Layout) (place : Place) (token : Token) : Option Layout := do
  return { (← layout.startKey? place).push token with allowsKey := false }

/-- A scalar in lines below its header, behind which a key may start. -/
def pushBlock? (layout : Layout) (style : Style) (text : String) : Option Layout := do
  return { (← layout.withoutKey?).push (.scalar style text) with allowsKey := true }

/-- Characters that plain scalars do not start with. -/
def indicators : List Char :=
  [',', '[', ']', '{', '}', '#', '&', '*', '!', '|', '>', '\x27', '"', '%', '@', '\x60']

/-- A plain scalar that starts at a place. -/
def readPlain? (layout : Layout) (place : Place) (rest : List Place) :
    Option (Layout × List Place) :=
  if place.isSpace || indicators.contains place.character then
    none
  else do
    let scalar ← plain? layout.inBrackets layout.innerColumn (place :: rest)
    let next ← layout.pushWord? place (.scalar .plain scalar.text)
    return ({ next with allowsKey := scalar.endsLine }, scalar.rest)

/-- A scalar in quotes that starts at a place. -/
def readQuoted? (layout : Layout) (place : Place) (rest : List Place) :
    Option (Layout × List Place) := do
  let (text, after) ← quoted? place.character rest
  return (← layout.pushWord? place (.scalar .quoted text), after)

/-- A scalar in lines below its header, from the places behind its first character. -/
def readBlock? (layout : Layout) (style : Style) (rest : List Place) :
    Option (Layout × List Place) := do
  let (text, after) ← block? (style == .folded) (layout.columns.head?.getD 0) rest
  return (← layout.pushBlock? style text, after)

/-- An anchor or a reference that starts at a place. -/
def readAnchor? (layout : Layout) (place : Place) (token : String → Token) (rest : List Place) :
    Option (Layout × List Place) := do
  let (name, after) ← anchorName? rest
  return (← layout.pushWord? place (token name), after)

/-- A tag that starts at a place. -/
def readTag? (layout : Layout) (place : Place) (rest : List Place) :
    Option (Layout × List Place) := do
  let (token, after) ← tag? layout.inBrackets rest
  return (← layout.pushWord? place token, after)

/-- A directive, from the places behind its percent sign. -/
def readDirective? (layout : Layout) (rest : List Place) : Option (Layout × List Place) := do
  let (token, after) ← directive? rest
  return (← layout.pushMark? token, after)

/-- A word that starts at a place. -/
def readWord? (layout : Layout) (place : Place) (rest : List Place) :
    Option (Layout × List Place) :=
  let followed (next : Option Layout) : Option (Layout × List Place) := next.map (·, rest)
  let inBrackets := layout.inBrackets
  let standsAlone := endsWord rest
  match place.character with
  | '[' => followed (layout.pushOpening? .sequence place)
  | '{' => followed (layout.pushOpening? .mapping place)
  | ']' => followed (layout.pushClosing? .sequence)
  | '}' => followed (layout.pushClosing? .mapping)
  | ',' => followed layout.pushComma?
  | '-' => if standsAlone then followed (layout.pushDash? place) else layout.readPlain? place rest
  | '?' =>
      if inBrackets || standsAlone then
        followed (layout.pushKey? place)
      else
        layout.readPlain? place rest
  | ':' =>
      if inBrackets || standsAlone then
        followed (layout.pushColon? place)
      else
        layout.readPlain? place rest
  | '*' => layout.readAnchor? place .reference rest
  | '&' => layout.readAnchor? place .anchor rest
  | '!' => layout.readTag? place rest
  | '|' => if inBrackets then none else layout.readBlock? .literal rest
  | '>' => if inBrackets then none else layout.readBlock? .folded rest
  | '\x27' => layout.readQuoted? place rest
  | '"' => layout.readQuoted? place rest
  | _ => layout.readPlain? place rest

/-- The token that starts at a place. -/
def readToken? (layout : Layout) (place : Place) (rest : List Place) :
    Option (Layout × List Place) :=
  if place.column == 0 && place.character == '%' then
    layout.readDirective? rest
  else
    match documentMark? (place :: rest) with
    | some mark => do
        let token := if mark == '-' then .documentStart else .documentEnd
        return (← layout.pushMark? token, rest.drop 2)
    | none => layout.readWord? place rest

/-- The tokens of a layout and of the places behind it; each token takes at least one place. -/
def tokensFrom? : Nat → Layout → List Place → Option (List Token)
  | 0, _, _ => none
  | fuel + 1, layout, places =>
      let (allowsKey, ahead) := skip layout.inBrackets false layout.allowsKey places
      let next := { layout with allowsKey }
      match ahead with
      | [] => do
          let ended ← (next.closeBlocks fun _ => true).withoutKey?
          return ended.reversed.reverse
      | place :: rest => do
          let passed ← next.passKeys? place
          let (read, after) ←
            (passed.closeBlocks fun column => decide (place.column < column)).readToken? place rest
          tokensFrom? fuel read after

end Layout

/-- The tokens of a text. -/
def tokens? (text : String) : Option (List Token) := do
  let places ← places? text
  Layout.tokensFrom? (places.length + 1) {} places

end Dataflow.Text.Yaml
