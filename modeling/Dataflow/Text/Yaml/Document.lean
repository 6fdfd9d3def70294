import Dataflow.Text.Yaml.Layout

namespace Dataflow.Text.Yaml

/-!
# YAML documents

The value of a text, from its tokens.  A text holds at most one document.
-/

/-- What is left of the tokens of a document, and what has been named in the part before. -/
structure Reading where
  tokens : List Token
  /-- What the handles of tags stand for. -/
  handles : List (String × String)
  /-- The numbers of the anchors, the last one first. -/
  anchors : List (String × Nat) := []

/-- Reading a part of a document. -/
abbrev Reader := StateT Reading Option

namespace Reader

/-- Whether the next token is one of some. -/
def isNext (tokens : List Token) : Reader Bool := do
  return (← get).tokens.head?.any tokens.contains

/-- Step over the next token. -/
def skip : Reader Unit := modify fun reading => { reading with tokens := reading.tokens.tail }

/-- Step over the next token if it is the given one, and say whether it is. -/
def accept (token : Token) : Reader Bool := do
  if ← isNext [token] then
    skip
    return true
  else
    return false

/-- Step over the next token, which has to be the given one. -/
def expect (token : Token) : Reader Unit := do
  if ← accept token then
    return
  else
    failure

/-- A value, unless what follows it is next. -/
def orAbsent (following : List Token) (value : Reader Yaml) : Reader Yaml := do
  if ← isNext following then
    return absent
  else
    value

/--
The number of a new anchor: how many names have been given to anchors before, each counted once.  So an
anchor whose name is given again may share its number with the next new name.
-/
def addAnchor (name : String) : Reader Nat := do
  let reading ← get
  let number := (reading.anchors.map Prod.fst).eraseDups.length
  set { reading with anchors := (name, number) :: reading.anchors }
  return number

/-- The number of the anchor that a name stands for. -/
def findAnchor (name : String) : Reader Nat := do
  match (← get).anchors.lookup name with
  | some number => return number
  | none => failure

/-- The text of a tag, whose handle has to be known. -/
def fullTag (handle suffix : String) : Reader String := do
  if handle.isEmpty then
    return suffix
  else
    match (← get).handles.lookup handle with
    | some meaning => return meaning ++ suffix
    | none => failure

/-- The number of the anchor that is next, if there is one. -/
def anchor : Reader (Option Nat) := do
  match (← get).tokens.head? with
  | some (.anchor name) => do
      skip
      return some (← addAnchor name)
  | _ => return none

/-- The text of the tag that is next, if there is one. -/
def tag : Reader (Option String) := do
  match (← get).tokens.head? with
  | some (.tag handle suffix) => do
      skip
      return some (← fullTag handle suffix)
  | _ => return none

/-- The tag and the anchor in front of a value, in any order. -/
def properties : Reader (Option Nat × Option String) := do
  let before ← anchor
  let tag ← tag
  let anchor ← if before.isNone && tag.isSome then anchor else pure before
  return (anchor, tag)

mutual

/-- A value; the value of an entry may be a sequence that is not indented. -/
def value : Nat → (isEntry : Bool) → Reader Yaml
  | 0, _ => failure
  | fuel + 1, isEntry => do
      match (← get).tokens.head? with
      | some (.reference name) => do
          skip
          return .reference (← findAnchor name)
      | _ => do
          let (anchor, tag) ← properties
          let content ← content fuel isEntry tag (anchor.isSome || tag.isSome)
          return match anchor with
            | some number => .anchored number content
            | none => content

/-- A value without what is in front of it; behind that, it need not be written. -/
def content : Nat → (isEntry : Bool) → Option String → (mayBeAbsent : Bool) → Reader Yaml
  | 0, _, _, _ => failure
  | fuel + 1, isEntry, tag, mayBeAbsent => do
      match (← get).tokens.head? with
      | some (.scalar style text) => do
          skip
          return .scalar (tag.filter (· != "!")) style text
      | some (.indent .sequence) => do
          skip
          return .sequence (← items fuel)
      | some (.indent .mapping) => do
          skip
          return .mapping (← entries fuel)
      | some (.opening .sequence) => do
          skip
          return .sequence (← bracketItems fuel true)
      | some (.opening .mapping) => do
          skip
          return .mapping (← bracketEntries fuel true)
      | next =>
          if isEntry && next == some .dash then do
            return .sequence (← flushItems fuel)
          else if mayBeAbsent then
            return .scalar tag .plain ""
          else
            failure

/-- The items of a sequence up to the end of its block. -/
def items : Nat → Reader (List Yaml)
  | 0 => failure
  | fuel + 1 => do
      if ← accept .dash then
        let item ← orAbsent [.dash, .dedent] (value fuel false)
        return item :: (← items fuel)
      else
        expect .dedent
        return []

/-- The items of a sequence that is not indented further than the mapping around it. -/
def flushItems : Nat → Reader (List Yaml)
  | 0 => failure
  | fuel + 1 => do
      if ← accept .dash then
        let item ← orAbsent [.dash, .key, .colon, .dedent] (value fuel false)
        return item :: (← flushItems fuel)
      else
        return []

/-- The entries of a mapping up to the end of its block. -/
def entries : Nat → Reader (List (Yaml × Yaml))
  | 0 => failure
  | fuel + 1 => do
      if ← accept .key then
        let key ← orAbsent [.key, .colon, .dedent] (value fuel true)
        let hasValue ← accept .colon
        let entryValue ←
          if hasValue then orAbsent [.key, .colon, .dedent] (value fuel true) else pure absent
        return (key, entryValue) :: (← entries fuel)
      else
        expect .dedent
        return []

/-- The items of a sequence up to its closing bracket, each of them behind a comma but the first. -/
def bracketItems : Nat → (isFirst : Bool) → Reader (List Yaml)
  | 0, _ => failure
  | fuel + 1, isFirst => do
      if ← accept (.closing .sequence) then
        return []
      else
        if !isFirst then
          expect .comma
        if !isFirst && (← accept (.closing .sequence)) then
          return []
        else
          let item ← if ← accept .key then pair fuel else value fuel false
          return item :: (← bracketItems fuel false)

/--
A mapping of one entry that is an item without brackets of its own, behind the mark of its key.  A
separator in the place of the key is dropped.
-/
def pair : Nat → Reader Yaml
  | 0 => failure
  | fuel + 1 => do
      let key ←
        if ← isNext [.colon, .comma, .closing .sequence] then do
          skip
          pure absent
        else
          value fuel false
      let hasValue ← accept .colon
      let entryValue ←
        if hasValue then orAbsent [.comma, .closing .sequence] (value fuel false) else pure absent
      return .mapping [(key, entryValue)]

/-- The entries of a mapping up to its closing bracket, each of them behind a comma but the first. -/
def bracketEntries : Nat → (isFirst : Bool) → Reader (List (Yaml × Yaml))
  | 0, _ => failure
  | fuel + 1, isFirst => do
      if ← accept (.closing .mapping) then
        return []
      else
        if !isFirst then
          expect .comma
        if !isFirst && (← accept (.closing .mapping)) then
          return []
        else
          let isMarked ← accept .key
          let key ←
            if isMarked then
              orAbsent [.colon, .comma, .closing .mapping] (value fuel false)
            else
              value fuel false
          let hasValue ← if isMarked then accept .colon else pure false
          let entryValue ←
            if hasValue then
              orAbsent [.comma, .closing .mapping] (value fuel false)
            else
              pure absent
          return (key, entryValue) :: (← bracketEntries fuel false)

end

end Reader

/-- What handles of tags stand for unless a document says otherwise. -/
def usualHandles : List (String × String) := [("!", "!"), ("!!", "tag:yaml.org,2002:")]

/-- Whether a version of the format is known. -/
def isKnownVersion (major minor : Nat) : Bool := major == 1 && (minor == 1 || minor == 2)

/--
The handles that the directives before a document declare, and the tokens behind them.  Neither the
version nor a handle may be declared twice.
-/
def readDirectives? (hasVersion : Bool) (handles : List (String × String)) :
    List Token → Option (List (String × String) × List Token)
  | .version major minor :: rest =>
      if hasVersion || !isKnownVersion major minor then
        none
      else
        readDirectives? true handles rest
  | .handle name meaning :: rest =>
      if (handles.lookup name).isSome then
        none
      else
        readDirectives? hasVersion ((name, meaning) :: handles) rest
  | rest => some (handles ++ usualHandles, rest)

/-- Whether a token is a directive or a mark between documents. -/
def isDocumentToken : Token → Bool
  | .version _ _ => true
  | .handle _ _ => true
  | .documentStart => true
  | .documentEnd => true
  | _ => false

/-- The value behind the mark at the start of a document. -/
def afterDocumentStart (fuel : Nat) : Reader Yaml := do
  match (← get).tokens.head? with
  | some token => if isDocumentToken token then return absent else Reader.value fuel false
  | none => return absent

/--
The value of a document; a document with directives has a mark at its start.  Reading takes at most two
calls within each other for a token, so four for each are enough.
-/
def document? (tokens : List Token) : Option (Yaml × List Token) := do
  let fuel := 4 * tokens.length + 4
  let (handles, rest) ← readDirectives? false [] tokens
  let (value, reading) ←
    if rest.length == tokens.length && rest.head? != some .documentStart then
      (Reader.value fuel false).run { tokens, handles }
    else if rest.head? == some .documentStart then
      (afterDocumentStart fuel).run { tokens := rest.tail, handles }
    else
      none
  return (value, reading.tokens)

/-- The value that a text holds; a text without tokens holds the absent one. -/
def parse? (text : String) : Option Yaml := do
  let tokens ← tokens? text
  if tokens.isEmpty then
    return absent
  else
    let (value, rest) ← document? tokens
    if rest.all (· == .documentEnd) then return value else none

end Dataflow.Text.Yaml
