import AsyncReports.Text
import AsyncReports.Yaml.Layout

set_option autoImplicit false

/-!
# Directives, tags and anchors

The words that say something about the document or about the value behind them.
-/

namespace AsyncReports.Yaml.Lexer

open Text

/-- A handle: an exclamation mark, perhaps with a name and a second mark behind it. A directive needs a whole one. -/
def handle (whole : Bool) : Lexer (List Char) := do
  require ((← next) = some '!')
  move (·.skip 1)
  let name ← take isWordChar
  if (← next) = some '!' then
    move (·.skip 1)
    pure ('!' :: name ++ ['!'])
  else
    require (!whole || name.isEmpty)
    pure ('!' :: name)

/-- The byte that two hexadecimal digits behind a percent sign spell. -/
def escapedByte? : List Char → Option Nat
  | '%' :: rest => (readHex 2 0 rest).map Prod.fst
  | _ => none

/-- The character that escaped bytes spell. Of two bytes the first one counts as it is written; longer sequences
spell no character. -/
def escapedChar : Lexer Char := do
  match escapedByte? (← get).rest with
  | none => failure
  | some first =>
    move (·.skip 3)
    if first < 0x80 then pure (Char.ofNat first)
    else if 0xC0 ≤ first && first < 0xE0 then
      match escapedByte? (← get).rest with
      | none => failure
      | some second =>
        move (·.skip 3)
        let code := first * 0x100 + second
        require (0x80 ≤ second && second < 0xC0 && code.isValidChar)
        pure (Char.ofNat code)
    else failure

/-- Characters of a tag's name, of which some may be escaped. -/
def name (p : Char → Bool) : Nat → List Char → Lexer (List Char)
  | 0, done => pure done.reverse
  | fuel + 1, done => do
    match ← next with
    | none => pure done.reverse
    | some c =>
      if !p c then pure done.reverse
      else if c = '%' then
        let c ← escapedChar
        name p fuel (c :: done)
      else
        move (·.skip 1)
        name p fuel (c :: done)

/-- The name between angle brackets. -/
def verbatimTag : Lexer Token := do
  move (·.skip 2)
  let suffix ← name isUriChar (← get).rest.length []
  require ((← next) = some '>')
  move (·.skip 1)
  pure (.tag "" (String.ofList suffix))

def tag : Lexer Token := do
  let s ← get
  if s.rest[1]? = some '<' then verbatimTag
  else
    let handle ← handle false
    let suffix ← name isTagChar s.rest.length []
    if 2 ≤ handle.length && handle.getLast? = some '!' then
      require !suffix.isEmpty
      pure (.tag (String.ofList handle) (String.ofList suffix))
    else
      let suffix := handle.drop 1 ++ suffix
      pure (if suffix.isEmpty then .tag "" "!" else .tag "!" (String.ofList suffix))

def tagToken : Lexer Token := do
  let token ← tag
  let s ← get
  require (endsWord s.next || s.inFlow && s.next.any isFlow)
  pure token

/-- The name of an anchor or of an alias, behind its mark. -/
def anchorName : Lexer String := do
  move (·.skip 1)
  let name ← take isAnchorChar
  require !name.isEmpty
  pure (String.ofList name)

/-- Up to nine digits of a version. -/
def versionNumber : Lexer Unit := do
  let digits ← take isDigit
  require (!digits.isEmpty && digits.length ≤ 9)

def versionDirective : Lexer Token := do
  let blanks := (← get).rest.takeWhile isBlank
  move (·.skipBlanks blanks.length)
  versionNumber
  require ((← next) = some '.')
  move (·.skip 1)
  versionNumber
  pure .version

/-- What a handle stands for. -/
def handleStart : Lexer (List Char) := do
  match ← next with
  | none => failure
  | some c =>
    let length := (← get).rest.length
    if c = '!' then
      move (·.skip 1)
      name isUriChar length [c]
    else
      require (isTagChar c)
      name isUriChar length []

def handleDirective : Lexer Token := do
  let blanks := (← get).rest.takeWhile isBlank
  move (·.skipBlanks blanks.length)
  let handle ← handle true
  let blanks := (← get).rest.takeWhile isBlank
  move (·.skipBlanks blanks.length)
  let start ← handleStart
  require (endsWord (← next))
  pure (.handle (String.ofList handle) (String.ofList start))

/-- A line that starts with a percent sign. One that is not known sets nothing, but counts as one that does. -/
def directive : Lexer Token := do
  move (·.skip 1)
  let kind ← take isWordChar
  require (!kind.isEmpty && endsWord (← next))
  let token ← match String.ofList kind with
    | "YAML" => versionDirective
    | "TAG" => handleDirective
    | _ => do
      move (·.skipComment)
      pure (.handle "" "")
  let _ ← skipLine
  require (endsLine (← next))
  move (·.skipBreak)
  pure token

end AsyncReports.Yaml.Lexer
