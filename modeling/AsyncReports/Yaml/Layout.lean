import AsyncReports.Yaml.Token

set_option autoImplicit false

/-!
# What the layout so far says

While tokens are taken from a text, the layout keeps the place reached, how far the open blocks are indented, and
which token could still turn out to be the start of a key: a key is known only by the colon behind it, and then its
tokens are put in where it started. The first line break, or too many characters, put an end to that possibility
outside of brackets. A key that has to be one because of its column is an error if it is none.
-/

namespace AsyncReports.Yaml

/-- A place that could be the start of a key. -/
structure KeySpot where
  /-- Nothing but a key can stand there. -/
  required : Bool
  /-- How many tokens come before it. -/
  number : Nat
  line : Nat
  column : Nat
  index : Nat

/-- The text that is left, and all that what came before it says about the tokens to come. -/
structure Layout where
  rest : List Char
  line : Nat := 0
  column : Nat := 0
  index : Nat := 0
  /-- Nothing but blanks stands before on the line. -/
  fresh : Bool := true
  /-- The tokens so far, the last one first. -/
  tokens : List Token := []
  /-- The column of the innermost block. -/
  indent : Int := -1
  /-- The columns of the blocks around it, the innermost first. The flag tells a block that has an end token from
  a column that what follows must lie behind. -/
  indents : List (Int × Bool) := []
  /-- A key may start here. -/
  keyAllowed : Bool := true
  /-- Where a key could have started, inside the innermost brackets. -/
  key : Option KeySpot := none
  /-- The same for what is around each open bracket, the innermost first. -/
  outer : List (Option KeySpot) := []
  /-- For each open sequence in brackets, whether an entry of it is a mapping without brackets. -/
  pairs : List Bool := []
  /-- A mapping in brackets was opened or a key in brackets was marked. -/
  mapped : Bool := false
  /-- Where a colon may stand without a blank behind it. -/
  adjacent : Option Nat := none
  /-- The last token is an anchor or a tag at the start of a line. -/
  loose : Bool := false

namespace Layout

def inFlow (s : Layout) : Bool := !s.outer.isEmpty

/-- The next character. -/
def next (s : Layout) : Option Char := s.rest.head?

/-- Goes over blanks, or over characters of which it does not matter whether they are. -/
def skipBlanks (n : Nat) (s : Layout) : Layout :=
  { s with rest := s.rest.drop n, column := s.column + n, index := s.index + n }

/-- Goes over characters of the line that are no blanks. -/
def skip (n : Nat) (s : Layout) : Layout := { s.skipBlanks n with fresh := s.fresh && n = 0 }

/-- Goes over a line break. -/
def skipBreak (s : Layout) : Layout :=
  let width := if s.rest.take 2 = ['\r', '\n'] then 2 else 1
  { s with
    rest := s.rest.drop width
    line := s.line + 1
    column := 0
    index := s.index + width
    fresh := true }

/-- Goes to the end of the line. -/
def skipComment (s : Layout) : Layout := s.skip (s.rest.takeWhile (!isBreak ·)).length

def push (token : Token) (s : Layout) : Layout := { s with tokens := token :: s.tokens, loose := false }

/-- Puts a token behind the first so many. -/
def insert (number : Nat) (token : Token) (s : Layout) : Layout :=
  let later := s.tokens.length - number
  { s with tokens := s.tokens.take later ++ token :: s.tokens.drop later }

/-- Opens a block whose entries stand at a column, if there is none. Its token comes behind the first so many. -/
def openBlock (column number : Nat) (token : Token) (s : Layout) : Layout :=
  if s.inFlow then s
  else
    let s : Layout := match s.indents with
      | (indent, false) :: rest => if s.indent ≤ column then { s with indent, indents := rest } else s
      | _ => s
    if s.indent < column then
      { s with indent := column, indents := (s.indent, true) :: s.indents }.insert number token
    else s

def closeBlocksFrom (column : Int) : List (Int × Bool) → Layout → Layout
  | [], s => s
  | (indent, isBlock) :: rest, s =>
    if column < s.indent then
      let s := { s with indent, indents := rest }
      closeBlocksFrom column rest (if isBlock then s.push .blockEnd else s)
    else s

/-- Closes the blocks that stand behind a column. -/
def closeBlocks (column : Int) (s : Layout) : Layout :=
  if s.inFlow then s else closeBlocksFrom column s.indents s

/-- What follows must stand at least one column behind the block. -/
def indentByOne (s : Layout) : Layout :=
  match s.indents with
  | (_, true) :: _ =>
    if s.inFlow then s else { s with indent := s.indent + 1, indents := (s.indent, false) :: s.indents }
  | _ => s

def dropLooseIndents : List (Int × Bool) → Layout → Layout
  | (indent, false) :: rest, s => dropLooseIndents rest { s with indent, indents := rest }
  | _, s => s

/-- Back to the column of the innermost block. -/
def toBlockIndent (s : Layout) : Layout := dropLooseIndents s.indents s

/-- Marks that a key could start here. -/
def saveKey (s : Layout) : Layout :=
  if s.keyAllowed then
    let isBlock := (s.indents.head?.map Prod.snd).getD false
    { s with
      key := some
        { required := !s.inFlow && s.indent = s.column && isBlock
          number := s.tokens.length
          line := s.line
          column := s.column
          index := s.index } }
  else s

/-- Gives up the place where a key could have started. -/
def dropKey? (s : Layout) : Option Layout :=
  if s.key.any (·.required) then none else some { s with key := none }

/-- The most characters of a key outside of brackets. -/
def maxKeyLength : Nat := 1024

/-- Gives it up if it is too far away. -/
def dropStaleKey? (s : Layout) : Option Layout :=
  match s.key with
  | some spot =>
    if !s.inFlow && (spot.line < s.line || spot.index + maxKeyLength < s.index) then s.dropKey? else some s
  | none => some s

/-- An entry that is a mapping without brackets ends here. -/
def endPair (s : Layout) : Layout :=
  match s.pairs with
  | true :: rest => { s with pairs := false :: rest, mapped := false }.push .flowMappingEnd
  | _ => s

end Layout

/-- Takes something from the text. It may fail. -/
abbrev Lexer := StateT Layout Option

namespace Lexer

/-- Does one step of which the state is all that counts. -/
def move (f : Layout → Layout) : Lexer Unit := modify f

/-- Does one step that may fail. -/
def attempt (f : Layout → Option Layout) : Lexer Unit := fun s => (f s).map ((), ·)

def next : Lexer (Option Char) := do return (← get).next

/-- Goes on only if something holds. -/
def require (b : Bool) : Lexer Unit := if b then pure () else failure

/-- Takes the characters of a word. -/
def take (p : Char → Bool) : Lexer (List Char) := do
  let word := (← get).rest.takeWhile p
  move (·.skip word.length)
  pure word

/-- Goes over blanks and then a comment, and gives back the blanks. A comment needs a blank before it. -/
def skipLine : Lexer (List Char) := do
  let blanks := (← get).rest.takeWhile isBlank
  move (·.skipBlanks blanks.length)
  if (← next) = some '#' then
    require !blanks.isEmpty
    move (·.skipComment)
  pure blanks

/-- Goes over a line break. Outside of brackets a key may start on the new line. -/
def newLine : Lexer Unit :=
  move fun s => { s.skipBreak with keyAllowed := s.keyAllowed || !s.inFlow }

/-- Goes over all that separates tokens. No tab may indent what belongs to a block. -/
def skipToToken : Nat → Lexer Unit
  | 0 => pure ()
  | fuel + 1 => do
    let s ← get
    match s.rest with
    | [] => pure ()
    | c :: _ =>
      if c = '\t' && s.fresh && !s.indents.isEmpty && s.column < s.indent then
        let _ ← skipLine
        require (endsLine (← next))
        skipToToken fuel
      else if isBlank c then
        move (·.skipBlanks 1)
        skipToToken fuel
      else if isBreak c then
        newLine
        skipToToken fuel
      else if c = '#' then
        move (·.skipComment)
        skipToToken fuel
      else pure ()

/-- Goes over spaces, line breaks and comments. -/
def skipSpace : Nat → Lexer Unit
  | 0 => pure ()
  | fuel + 1 => do
    match ← next with
    | none => pure ()
    | some c =>
      if c = ' ' then
        move (·.skipBlanks 1)
        skipSpace fuel
      else if isBreak c then
        newLine
        skipSpace fuel
      else if c = '#' then
        move (·.skipComment)
        skipSpace fuel
      else pure ()

end Lexer

end AsyncReports.Yaml
