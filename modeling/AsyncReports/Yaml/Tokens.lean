import AsyncReports.Yaml.Texts
import AsyncReports.Yaml.Words

set_option autoImplicit false

/-!
# The tokens of the indented format

Every step takes one token from the text, together with what the layout before it says. The steps end with the
text.
-/

namespace AsyncReports.Yaml.Lexer

def allowKey (allowed : Bool) : Lexer Unit := move fun s => { s with keyAllowed := allowed }

def push (token : Token) : Lexer Unit := move (·.push token)

/-- A token of the document's own structure, which closes all blocks. -/
def documentToken (token : Lexer Token) : Lexer Unit := do
  move (·.closeBlocks (-1))
  attempt Layout.dropKey?
  allowKey false
  push (← token)

def documentMark (token : Token) : Lexer Unit :=
  documentToken do
    move (·.skip 3)
    pure token

/-- The deepest nesting of brackets. -/
def maxFlowDepth : Nat := 255

/-- An opening bracket. It may start a key. -/
def flowStart (token : Token) : Lexer Unit := do
  move fun s => s.saveKey.indentByOne
  require ((← get).outer.length < maxFlowDepth)
  move fun s => { s with key := none, outer := s.key :: s.outer, keyAllowed := true }
  if token = .flowMapping then move fun s => { s with mapped := true }
  else move fun s => { s with pairs := false :: s.pairs }
  move (·.skip 1)
  let _ ← skipLine
  push token

/-- A closing bracket. Inside of other brackets a colon may follow at once. -/
def flowEnd (token : Token) : Lexer Unit := do
  attempt Layout.dropKey?
  move fun s => match s.outer with
    | key :: outer => { s with key, outer, keyAllowed := false }
    | [] => { s with keyAllowed := false }
  if token = .flowSequenceEnd then
    move fun s => let s := s.endPair; { s with pairs := s.pairs.drop 1 }
  move (·.skip 1)
  let _ ← skipLine
  move fun s => if s.inFlow then { s with adjacent := some s.index } else s
  push token

def flowEntry : Lexer Unit := do
  attempt Layout.dropKey?
  allowKey true
  move fun s => s.endPair.skip 1
  let _ ← skipLine
  push .flowEntry

/-- The dash of an entry. It must not stand below an anchor or a tag that belongs to nothing. -/
def blockEntry : Lexer Unit := do
  let s ← get
  require (!s.inFlow && s.keyAllowed && !(s.loose && s.column = 0 && -1 < s.indent))
  move fun s => (s.skip 1).openBlock s.column s.tokens.length .blockSequence
  let blanks ← skipLine
  let s ← get
  require !(blanks.contains '\t' && s.next = some '-' && endsWord s.rest[1]?)
  if s.next.any fun c => isBreak c || isFlow c then move (·.indentByOne)
  attempt Layout.dropKey?
  allowKey true
  push .blockEntry

/-- The question mark before a key. -/
def key : Lexer Unit := do
  let s ← get
  require (s.inFlow || s.keyAllowed)
  move fun s => if s.inFlow then { s with mapped := true } else s.openBlock s.column s.tokens.length .blockMapping
  attempt Layout.dropKey?
  allowKey !s.inFlow
  move (·.skip 1)
  let start := (← get).index
  skipSpace s.rest.length
  let s ← get
  require (start < s.index && s.next ≠ some '\t')
  push .key

/-- The colon before a value. If a key could have started on the way, this is where it did; otherwise the key was
marked, or there is none. In a sequence in brackets the entry becomes a mapping. -/
def value : Lexer Unit := do
  let before ← get
  let pairs := !before.pairs.isEmpty && !before.mapped
  move fun s => { s.skip 1 with pairs := if pairs then true :: s.pairs.drop 1 else s.pairs }
  if (← next) = some '\t' then
    let blanks ← skipLine
    require (blanks.contains ' ' || !(← next).any isWordChar)
  match before.key with
  | some spot => do
    require !(pairs && spot.line < before.line)
    move fun s =>
      let s := s.insert spot.number .key
      let s := if pairs then s.insert spot.number .flowMapping else s
      { (s.openBlock spot.column spot.number .blockMapping).indentByOne with key := none, keyAllowed := false }
  | none => do
    if pairs then push .flowMapping
    require (before.inFlow || before.keyAllowed)
    move fun s =>
      { (s.openBlock before.column s.tokens.length .blockMapping).indentByOne with keyAllowed := !s.inFlow }
  push .value

/-- A word that may start a key, and that none may follow at once. -/
def word (token : Lexer Token) : Lexer Unit := do
  move fun s => { s.saveKey with keyAllowed := false }
  push (← token)

/-- An anchor or a tag. -/
def property (token : Lexer Token) : Lexer Unit := do
  let column := (← get).column
  word token
  move fun s => { s with loose := column = 0 }

def quotedWordToken (mark : Char) : Lexer Unit :=
  word do
    let token ← quoted mark
    skipToToken (← get).rest.length
    move fun s => { s with adjacent := some s.index }
    pure token

def blockToken (folding : Bool) : Lexer Unit := do
  move fun s => { s.saveKey with keyAllowed := true }
  push (← block folding)

/-- The token that starts with this character. -/
def tokenFrom (c : Char) : Lexer Unit := do
  let s ← get
  let after := s.rest[1]?
  if c = '[' then flowStart .flowSequence
  else if c = '\x7b' then flowStart .flowMapping
  else if c = ']' then flowEnd .flowSequenceEnd
  else if c = '\x7d' then flowEnd .flowMappingEnd
  else if c = ',' then flowEntry
  else if c = '-' && endsWord after then blockEntry
  else if c = '?' && endsWord after then key
  else if c = ':' && (endsWord after || s.inFlow && (after.any isFlow || s.adjacent = some s.index)) then value
  else if c = '*' then word do return .alias (← anchorName)
  else if c = '&' then property do return .anchor (← anchorName)
  else if c = '!' then property tagToken
  else if c = '|' && !s.inFlow then blockToken false
  else if c = '>' && !s.inFlow then blockToken true
  else if c = '\'' || c = '"' then quotedWordToken c
  else
    require (c ≠ '%' && c ≠ '@' && c ≠ '\u0060')
    word plain

/-- The end of the text closes everything, and no key may be missing. -/
def finish : Lexer Unit := do
  let s ← get
  require !((s.key :: s.outer).any fun spot => spot.any (·.required))
  move (·.closeBlocks (-1))

/-- Takes one token; the flag tells whether there was one. -/
def step : Lexer Bool := do
  skipToToken (← get).rest.length
  attempt Layout.dropStaleKey?
  move fun s => s.closeBlocks s.column
  let s ← get
  match s.next with
  | none => do
    finish
    pure false
  | some c => do
    if s.column = 0 && c = '%' then documentToken directive
    else if s.column = 0 && isMark '-' s.rest then documentMark .documentStart
    else if s.column = 0 && isMark '.' s.rest then
      documentMark .documentEnd
      let _ ← skipLine
      require (endsLine (← next))
    else
      require (s.indent ≤ s.column)
      tokenFrom c
    pure true

def steps : Nat → Lexer Unit
  | 0 => pure ()
  | fuel + 1 => do
    if ← step then steps fuel

end Lexer

/-- The tokens of a text. -/
def tokens? (s : List Char) : Option (List Token) :=
  (Lexer.steps (s.length + 1) { rest := s }).map fun (_, s) => s.tokens.reverse

end AsyncReports.Yaml
