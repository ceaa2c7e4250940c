import AsyncReports.Yaml.Node
import AsyncReports.Yaml.Tokens

set_option autoImplicit false

/-!
# Reading the indented format

The tokens of a text are read into its only document. Every value may have an anchor, by which it can be used
again, and a tag.
-/

namespace AsyncReports.Yaml

/-- What is left to read, and what the names stand for. -/
structure Draft where
  tokens : List Token
  /-- What the tag handles stand for. -/
  handles : List (String × String) := []
  /-- The anchors, the last one first; one whose value is still being read has none. -/
  anchors : List (String × Option Node) := []

abbrev Reader := StateT Draft Option

namespace Reader

/-- The next token. -/
def next : Reader (Option Token) := do return (← get).tokens.head?

def skip : Reader Unit := modify fun d => { d with tokens := d.tokens.drop 1 }

def expect (token : Token) : Reader Unit := do
  guard ((← next) = some token)
  skip

/-- A new anchor hides older ones of its name. -/
def openAnchor (name : String) : Reader Nat := do
  let d ← get
  set { d with anchors := (name, none) :: d.anchors }
  pure d.anchors.length

/-- Gives an anchor its value; anchors are counted from the first one on. -/
def closeAnchor (anchor : Option Nat) (node : Node) : Reader Node := do
  match anchor with
  | none => pure node
  | some number =>
    modify fun d =>
      { d with anchors := d.anchors.modify (d.anchors.length - 1 - number) fun a => (a.1, some node) }
    pure node

/-- The tag that a handle and a suffix stand for. A handle with a name has to be set by a directive. -/
def resolve (handle suffix : String) : Reader (String × String) := do
  match (← get).handles.lookup handle with
  | some start => pure (start, suffix)
  | none =>
    if handle = "!!" then pure (Node.ownTags, suffix)
    else if 2 ≤ handle.length then failure
    else pure (handle, suffix)

def tag? : Reader (Option (String × String)) := do
  match ← next with
  | some (.tag handle suffix) =>
    skip
    some <$> resolve handle suffix
  | _ => pure none

def anchor? : Reader (Option Nat) := do
  match ← next with
  | some (.anchor name) =>
    skip
    some <$> openAnchor name
  | _ => pure none

/-- An anchor and a tag, in either order. -/
def properties : Reader (Option Nat × Option (String × String)) := do
  match ← anchor? with
  | some anchor => do
    let tag ← tag?
    pure (some anchor, tag)
  | none => do
    match ← tag? with
    | some tag => do
      let anchor ← anchor?
      pure (anchor, some tag)
    | none => pure (none, none)

def ofScalar (plain : Bool) (tag : Option (String × String)) (s : String) : Node :=
  if plain then
    match tag with
    | some (handle, suffix) => Node.ofTagged handle suffix s
    | none => Node.ofPlain s
  else Node.text s

/-- The tokens of the document's own structure. -/
def isDocumentToken : Token → Bool
  | .version | .handle _ _ | .documentStart | .documentEnd => true
  | _ => false

mutual
/-- A value. Blocks stand only outside of brackets, and the entries of a list need no indentation of their own
where `loose` holds. -/
def node : Nat → Bool → Bool → Reader Node
  | 0, _, _ => failure
  | fuel + 1, block, loose => do
    match ← next with
    | some (.alias name) =>
      skip
      match (← get).anchors.lookup name with
      | some value => pure (value.getD .bad)
      | none => failure
    | _ => do
      let (anchor, tag) ← properties
      let token ← next
      match token, block, loose with
      | some (.scalar plain s), _, _ =>
        skip
        closeAnchor anchor (ofScalar plain tag s)
      | some .blockEntry, _, true => closeAnchor anchor (.list (← looseItems fuel []))
      | some .flowSequence, _, _ =>
        skip
        closeAnchor anchor (.list (← flowItems fuel true []))
      | some .flowMapping, _, _ =>
        skip
        closeAnchor anchor (← Node.table? (← flowFields fuel true []))
      | some .blockSequence, true, _ =>
        skip
        closeAnchor anchor (.list (← blockItems fuel []))
      | some .blockMapping, true, _ =>
        skip
        closeAnchor anchor (← Node.table? (← blockFields fuel []))
      | _, _, _ =>
        if anchor.isSome || tag.isSome then closeAnchor anchor (ofScalar true tag "") else failure

/-- A value, or nothing where one of these tokens comes next. -/
def nodeUnless : Nat → List Token → Bool → Bool → Reader Node
  | 0, _, _, _ => failure
  | fuel + 1, ends, block, loose => do
    if (← next).any (· ∈ ends) then pure .null else node fuel block loose

/-- The items of a list whose dashes stand in the column of the mapping around it. -/
def looseItems : Nat → List Node → Reader (List Node)
  | 0, _ => failure
  | fuel + 1, done => do
    if (← next) = some .blockEntry then
      skip
      let item ← nodeUnless fuel [.blockEntry, .key, .value, .blockEnd] true false
      looseItems fuel (item :: done)
    else pure done.reverse

def blockItems : Nat → List Node → Reader (List Node)
  | 0, _ => failure
  | fuel + 1, done => do
    match ← next with
    | some .blockEnd =>
      skip
      pure done.reverse
    | some .blockEntry =>
      skip
      let item ← nodeUnless fuel [.blockEntry, .blockEnd] true false
      blockItems fuel (item :: done)
    | _ => failure

/-- The value behind its token, or nothing if there is none. -/
def valueUnless : Nat → List Token → Bool → Reader Node
  | 0, _, _ => failure
  | fuel + 1, ends, block => do
    if (← next) = some .value then
      skip
      nodeUnless fuel ends block block
    else pure .null

/-- Names and values in turn. -/
def blockFields : Nat → List Node → Reader (List Node)
  | 0, _ => failure
  | fuel + 1, done => do
    let ends : List Token := [.key, .value, .blockEnd]
    match ← next with
    | some .blockEnd =>
      skip
      pure done.reverse
    | some .key =>
      skip
      let key ← nodeUnless fuel ends true true
      let value ← valueUnless fuel ends true
      blockFields fuel (value :: key :: done)
    | some .value =>
      let value ← valueUnless fuel ends true
      blockFields fuel (value :: .null :: done)
    | _ => failure

/-- Names and values in turn; a name alone has no value. -/
def flowFields : Nat → Bool → List Node → Reader (List Node)
  | 0, _, _ => failure
  | fuel + 1, first, done => do
    if (← next) = some .flowMappingEnd then
      skip
      pure done.reverse
    else
      if !first then expect .flowEntry
      let ends : List Token := [.flowEntry, .flowMappingEnd]
      match ← next with
      | some .flowMappingEnd =>
        skip
        pure done.reverse
      | some .key =>
        skip
        let key ← nodeUnless fuel (.value :: ends) false false
        let value ← valueUnless fuel ends false
        flowFields fuel false (value :: key :: done)
      | some .value =>
        let value ← valueUnless fuel ends false
        flowFields fuel false (value :: .null :: done)
      | _ =>
        let key ← node fuel false false
        flowFields fuel false (.null :: key :: done)

/-- The items of a list in brackets, of which one may be a mapping of one entry. -/
def flowItems : Nat → Bool → List Node → Reader (List Node)
  | 0, _, _ => failure
  | fuel + 1, first, done => do
    if (← next) = some .flowSequenceEnd then
      skip
      pure done.reverse
    else
      if !first then expect .flowEntry
      let ends : List Token := [.flowEntry, .flowSequenceEnd]
      match ← next with
      | some .flowSequenceEnd =>
        skip
        pure done.reverse
      | some .key =>
        skip
        let key ← nodeUnless fuel (.value :: ends) false false
        let value ← valueUnless fuel ends false
        flowItems fuel false ((← Node.table? [key, value]) :: done)
      | _ =>
        let item ← node fuel false false
        flowItems fuel false (item :: done)
end

/-- The directives before a document. Each one takes the place of what the one before it has set, and the version
may be named only once. -/
def directives : Nat → Bool → Reader Unit
  | 0, _ => pure ()
  | fuel + 1, versioned => do
    match ← next with
    | some .version =>
      guard !versioned
      modify fun d => { d with handles := [] }
      skip
      directives fuel true
    | some (.handle name start) =>
      modify fun d => { d with handles := [(name, start)] }
      skip
      directives fuel versioned
    | _ => pure ()

/-- The value of a document. -/
def content (fuel : Nat) : Reader Node := do
  match ← next with
  | none => failure
  | some token =>
    if isDocumentToken token then
      directives fuel false
      expect .documentStart
      if (← next).all isDocumentToken then pure .null else node fuel true false
    else node fuel true false

/-- The value of the only document, if there is one. -/
def document (fuel : Nat) : Reader (Option Node) := do
  modify fun d => { d with tokens := d.tokens.dropWhile (· = .documentEnd) }
  if (← next).isNone then pure none
  else
    let root ← content fuel
    guard ((← get).tokens.all (· = .documentEnd))
    pure (some root)

end Reader

/-- A text ends where a character of number zero stands. -/
def visible (text : String) : List Char := text.toList.takeWhile (· ≠ '\x00')

/-- The entries that a whole text spells; a text without a document has none. -/
def read? (text : String) : Option (List (String × Json)) := do
  let tokens ← tokens? (visible text)
  let (root, _) ← Reader.document (4 * tokens.length + 4) { tokens }
  match root with
  | none => some []
  | some root =>
    match ← root.toJson? with
    | .object fields => some fields
    | _ => none

end AsyncReports.Yaml
