import TypedRows.Number.Numeral
import TypedRows.Text.Pattern
import TypedRows.Text.Quoted
/-!
# Reading patterns

`Pattern.ofText` reads a pattern as it is written in a configuration (`compile`). A text that is no pattern is refused
with the reason and mostly the position of the character at fault.

Flags hold for the rest of the group in which they are set, so the reader carries them with it and each part of the
pattern gets what they say of it. Whether a pattern that looks behind has one width can only be seen when it has been
read (`Pattern.check`).
-/

namespace TypedRows.Text

inductive Flag where
  | ignoreCase
  | locale
  | multiline
  | dotAll
  | verbose
  | ascii
  | template
  | unicode
deriving DecidableEq, Repr

/-- Why a text is not a pattern. -/
inductive PatternReason where
  | unterminatedClass
  | nothingToRepeat
  | multipleRepeat
  | unterminatedGroup
  | unterminatedComment
  | unbalancedGroup
  | danglingEscape
  | badEscape (escape : String)
  | incompleteEscape (escape : String)
  | largeOctal (escape : String)
  | missing (part : String)
  | unterminatedName (terminator : Char)
  | undefinedCharacter (name : String)
  | badRange (first last : String)
  | repeatOrder
  | groupReference (number : Nat)
  | openGroup
  | sameLookBehind
  | groupName (name : String)
  | unknownGroup (name : String)
  | repeatedGroup (name : String) (number known : Nat)
  | groupZero
  | manyBranches
  | unexpectedEnd
  | unknownExtension (text : String)
  | lateFlags
  | unknownFlag
  | localeFlag
  | typeFlags
  | typeFlagsOff
  | globalFlagOn
  | globalFlagOff
  | flagOnAndOff
  | variableLookBehind
  | longLookBehind
  | templateRepeat (greed : Greed)
deriving DecidableEq, Repr

def Greed.name : Greed → String
  | .greedy => "MAX_REPEAT"
  | .lazy => "MIN_REPEAT"
  | .possessive => "POSSESSIVE_REPEAT"

def PatternReason.text : PatternReason → String
  | .unterminatedClass => "unterminated character set"
  | .nothingToRepeat => "nothing to repeat"
  | .multipleRepeat => "multiple repeat"
  | .unterminatedGroup => "missing ), unterminated subpattern"
  | .unterminatedComment => "missing ), unterminated comment"
  | .unbalancedGroup => "unbalanced parenthesis"
  | .danglingEscape => "bad escape (end of pattern)"
  | .badEscape escape => "bad escape " ++ escape
  | .incompleteEscape escape => "incomplete escape " ++ escape
  | .largeOctal escape => "octal escape value " ++ escape ++ " outside of range 0-0o377"
  | .missing part => "missing " ++ part
  | .unterminatedName terminator => "missing " ++ String.singleton terminator ++ ", unterminated name"
  | .undefinedCharacter name => "undefined character name " ++ quoted name
  | .badRange first last => "bad character range " ++ first ++ "-" ++ last
  | .repeatOrder => "min repeat greater than max repeat"
  | .groupReference number => "invalid group reference " ++ toString number
  | .openGroup => "cannot refer to an open group"
  | .sameLookBehind => "cannot refer to group defined in the same lookbehind subpattern"
  | .groupName name => "bad character in group name " ++ quoted name
  | .unknownGroup name => "unknown group name " ++ quoted name
  | .repeatedGroup name number known =>
    "redefinition of group name " ++ quoted name ++ " as group " ++ toString number ++ "; was group " ++ toString known
  | .groupZero => "bad group number"
  | .manyBranches => "conditional backref with more than two branches"
  | .unexpectedEnd => "unexpected end of pattern"
  | .unknownExtension text => "unknown extension ?" ++ text
  | .lateFlags => "global flags not at the start of the expression"
  | .unknownFlag => "unknown flag"
  | .localeFlag => "bad inline flags: cannot use 'L' flag with a str pattern"
  | .typeFlags => "bad inline flags: flags 'a', 'u' and 'L' are incompatible"
  | .typeFlagsOff => "bad inline flags: cannot turn off flags 'a', 'u' and 'L'"
  | .globalFlagOn => "bad inline flags: cannot turn on global flag"
  | .globalFlagOff => "bad inline flags: cannot turn off global flag"
  | .flagOnAndOff => "bad inline flags: flag turned on and off"
  | .variableLookBehind => "look-behind requires fixed-width pattern"
  | .longLookBehind => "looks too much behind"
  | .templateRepeat greed => "internal: unsupported template operator " ++ greed.name

structure PatternError where
  reason : PatternReason
  position : Option Nat
  /-- The text that was refused. -/
  source : String
deriving DecidableEq, Repr

/-- The line and the column of what follows the characters, both counted from 1. -/
def lineAndColumn (before : List Char) : Nat × Nat :=
  (before.count '\n' + 1, (before.reverse.takeWhile (· ≠ '\n')).length + 1)

/-- The reason and the position; in a text of several lines also the line and the column. -/
def PatternError.message (e : PatternError) : String :=
  match e.position with
  | none => e.reason.text
  | some position =>
    let place := lineAndColumn (e.source.toList.take position)
    e.reason.text ++ " at position " ++ toString position ++
      (if e.source.toList.contains '\n' then
        " (line " ++ toString place.1 ++ ", column " ++ toString place.2 ++ ")"
      else "")

inductive PatternFailure where
  | refused (e : PatternError)
  | largeRepetition
  /-- An escape gives a number that no machine word holds. -/
  | largeCodePoint
  /-- A repetition is bounded by a number with too many digits. -/
  | manyDigits (count : Nat)
  /-- The whole pattern is said to be in ASCII and not to be. -/
  | opposedFlags
deriving DecidableEq, Repr

namespace PatternReader

/-- A character of a pattern at its position, with or without a backslash before it. -/
structure Token where
  position : Nat
  escaped : Bool
  char : Char
deriving DecidableEq, Repr

def Token.chars (t : Token) : List Char := if t.escaped then ['\\', t.char] else [t.char]

def Token.text (t : Token) : String := String.ofList t.chars

def Token.isPlain (t : Token) (c : Char) : Bool := !t.escaped && t.char == c

/-- The tokens of a pattern. A backslash at the very end is a token that no pattern accepts. -/
def tokens : Nat → List Char → List Token
  | _, [] => []
  | i, ['\\'] => [⟨i, true, '\x00'⟩]
  | i, '\\' :: c :: rest => ⟨i, true, c⟩ :: tokens (i + 2) rest
  | i, c :: rest => ⟨i, false, c⟩ :: tokens (i + 1) rest

/-- What is known in the course of reading. -/
structure Reading where
  tokens : List Token
  /-- The length of the pattern as text. -/
  length : Nat
  flags : List Flag := []
  /-- The widths of the groups so far; group 0 and the groups that are still open have none. -/
  widths : List (Option Width) := [none]
  names : List (String × Nat) := []
  /-- The number of groups before the outermost pattern that looks behind, inside of it. -/
  behind : Option Nat := none
  /-- The groups that conditions name, with the positions of the numbers. -/
  conditions : List (Nat × Nat) := []

/-- A failure without the text of the pattern. -/
inductive Refusal where
  | at (reason : PatternReason) (position : Option Nat)
  | largeRepetition
  | largeCodePoint
  | manyDigits (count : Nat)
  | opposedFlags

abbrev Reader := StateT Reading (Except Refusal)

section Tokens

def tell : Reader Nat := do
  let r ← get
  return match r.tokens with
    | t :: _ => t.position
    | [] => r.length

def refuseAt {α : Type} (reason : PatternReason) (position : Nat) : Reader α := throw (.at reason (some position))

/-- Refuses the text so many characters before the next token. -/
def refuse {α : Type} (reason : PatternReason) (back : Nat) : Reader α := do
  refuseAt reason ((← tell) - back)

def peek : Reader (Option Token) := return (← get).tokens.head?

/-- Goes on to the tokens. A backslash at the end is refused as soon as it comes next. -/
def goTo (tokens : List Token) : Reader Unit := do
  modify fun r => { r with tokens }
  match tokens with
  | [⟨position, true, '\x00'⟩] => if position + 1 = (← get).length then refuseAt .danglingEscape position
  | _ => return ()

/-- The next token, if there is one. -/
def next? : Reader (Option Token) := do
  match (← get).tokens with
  | [] => return none
  | t :: rest =>
    goTo rest
    return some t

/-- Takes the next token if it is the plain character. -/
def accept (c : Char) : Reader Bool := do
  match (← get).tokens with
  | t :: rest =>
    if t.isPlain c then
      goTo rest
      return true
    else return false
  | [] => return false

/-- The plain characters of a kind that come next, at most so many. -/
def takeWhile (p : Char → Bool) : Nat → Reader (List Char)
  | 0 => return []
  | most + 1 => do
    match (← get).tokens with
    | t :: rest =>
      if !t.escaped && p t.char then
        goTo rest
        return t.char :: (← takeWhile p most)
      else return []
    | [] => return []

def left : Reader Nat := return (← get).tokens.length

/-- The characters before a terminator, which is taken too. -/
def takeUntil (terminator : Char) (part : String) : Nat → List Char → Reader (List Char)
  | 0, taken => return taken
  | fuel + 1, taken => do
    match (← next?) with
    | none => if taken.isEmpty then refuse (.missing part) 0 else refuse (.unterminatedName terminator) taken.length
    | some t =>
      if t.isPlain terminator then
        if taken.isEmpty then refuse (.missing part) 1 else return taken
      else takeUntil terminator part fuel (taken ++ t.chars)

/-- The name before a terminator. -/
def nameBefore (terminator : Char) (part : String) : Reader String := do
  return String.ofList (← takeUntil terminator part ((← left) + 1) [])

end Tokens

/-! ## Escapes -/

def numberOf (base : Nat) (ds : List Char) : Nat :=
  ds.foldl (fun n d => base * n + (if d.isDigit then d.toNat - 48 else d.toLower.toNat - 87)) 0

def isHexDigit (c : Char) : Bool := c.isDigit || ('a' ≤ c.toLower && c.toLower ≤ 'f')

def isOctalDigit (c : Char) : Bool := '0' ≤ c && c ≤ '7'

/-- The code points end here. -/
def codePointLimit : Nat := 0x110000

def wordLimit : Nat := Nat.pow 2 31

def category? (ascii : Bool) : Char → Option ClassItem
  | 'd' => some (.category .digit ascii false)
  | 'D' => some (.category .digit ascii true)
  | 's' => some (.category .blank ascii false)
  | 'S' => some (.category .blank ascii true)
  | 'w' => some (.category .word ascii false)
  | 'W' => some (.category .word ascii true)
  | _ => none

/-- The control character that an escaped letter stands for. -/
def control? : Char → Option Char
  | 'a' => some '\x07'
  | 'f' => some '\x0c'
  | 'n' => some '\n'
  | 'r' => some '\r'
  | 't' => some '\t'
  | 'v' => some '\x0b'
  | _ => none

def anchor? (ascii : Bool) : Char → Option Anchor
  | 'A' => some .textStart
  | 'Z' => some .textEnd
  | 'b' => some (.border ascii false)
  | 'B' => some (.border ascii true)
  | _ => none

/-- How many hexadecimal digits follow an escaped letter. -/
def hexWidth? : Char → Option Nat
  | 'x' => some 2
  | 'u' => some 4
  | 'U' => some 8
  | _ => none

/-- The text of an escape with the characters that follow it. -/
def escapeText (t : Token) (more : List Char) : String := String.ofList (t.chars ++ more)

/-- The code point that hexadecimal digits after an escape write. -/
def hexEscape (t : Token) (width : Nat) : Reader Nat := do
  let digits ← takeWhile isHexDigit width
  if digits.length < width then refuse (.incompleteEscape (escapeText t digits)) (digits.length + 2)
  let codePoint := numberOf 16 digits
  if wordLimit ≤ codePoint then throw .largeCodePoint
  if codePoint < codePointLimit then return codePoint
  else refuse (.badEscape (escapeText t digits)) (digits.length + 2)

/-- The code point of an octal number. -/
def octalEscape (t : Token) (more : List Char) : Reader Nat := do
  let codePoint := numberOf 8 (t.char :: more)
  if codePoint < 0x100 then return codePoint else refuse (.largeOctal (escapeText t more)) (more.length + 2)

/-- The code point of a character given by its name. -/
def namedEscape (named? : String → Option Char) : Reader Nat := do
  if !(← accept '\x7b') then refuse (.missing "\x7b") 0
  let name ← nameBefore '\x7d' "character name"
  match named? name with
  | some c => return c.toNat
  | none => refuse (.undefinedCharacter name) (name.length + 4)

/-- The code point of an escape that means the same inside and outside of classes. -/
def codePoint? (named? : String → Option Char) (t : Token) : Reader (Option Nat) := do
  match hexWidth? t.char with
  | some width => return some (← hexEscape t width)
  | none => if t.char = 'N' then return some (← namedEscape named?) else return none

/-- An escaped character that stands for itself, which no ASCII letter does. -/
def selfEscape (t : Token) : Reader Nat := do
  if t.char.isAlpha then refuse (.badEscape t.text) 2 else return t.char.toNat

/-! ## Flags -/

def isAscii : Reader Bool := return (← get).flags.contains .ascii

def caseMode : Reader CaseMode := do
  let flags := (← get).flags
  return if !flags.contains .ignoreCase then .exact else if flags.contains .ascii then .ascii else .unicode

def flag? (t : Token) : Option Flag :=
  if t.escaped then none
  else
    match t.char with
    | 'i' => some .ignoreCase
    | 'L' => some .locale
    | 'm' => some .multiline
    | 's' => some .dotAll
    | 'x' => some .verbose
    | 'a' => some .ascii
    | 't' => some .template
    | 'u' => some .unicode
    | _ => none

/-- The flag says which characters there are. -/
def isTypeFlag (flag : Flag) : Bool := flag == .ascii || flag == .locale || flag == .unicode

/-- The next flag. Where there is none something else is missing. -/
def nextFlag (missing : String) (t : Token) : Reader Flag := do
  match flag? t with
  | some flag => return flag
  | none =>
    if !t.escaped && isLetter t.char then refuse .unknownFlag 1 else refuse (.missing missing) t.chars.length

/-- The flags that are turned on, and the character behind them. -/
def flagsOn : Nat → Flag → List Flag → Reader (List Flag × Char)
  | 0, _, _ => refuse .unexpectedEnd 0
  | fuel + 1, flag, before => do
    if flag = .locale then refuse .localeFlag 0
    if isTypeFlag flag && before.any fun other => isTypeFlag other && other != flag then refuse .typeFlags 0
    match (← next?) with
    | none => refuse (.missing "-, : or )") 0
    | some t =>
      if t.isPlain ')' || t.isPlain '-' || t.isPlain ':' then return (flag :: before, t.char)
      else flagsOn fuel (← nextFlag "-, : or )" t) (flag :: before)

/-- The flags that are turned off. -/
def flagsOff : Nat → Flag → List Flag → Reader (List Flag)
  | 0, _, _ => refuse .unexpectedEnd 0
  | fuel + 1, flag, before => do
    if isTypeFlag flag then refuse .typeFlagsOff 0
    match (← next?) with
    | none => refuse (.missing ":") 0
    | some t =>
      if t.isPlain ':' then return flag :: before
      else flagsOff fuel (← nextFlag ":" t) (flag :: before)

/-- What flags say of a group, or of the whole pattern. -/
inductive FlagScope where
  | whole (on : List Flag)
  | group (on off : List Flag)

/-- The flags at the beginning of a group. -/
def flagScope (first : Token) : Reader FlagScope := do
  let fuel := (← left) + 1
  let (on, behind) ←
    match flag? first with
    | some flag => flagsOn fuel flag []
    | none => pure ([], '-')
  if behind = ')' then return .whole on
  if on.contains .template then refuse .globalFlagOn 1
  if behind = ':' then return .group on []
  match (← next?) with
  | none => refuse (.missing "flag") 0
  | some t =>
    let off ← flagsOff fuel (← nextFlag "flag" t) []
    if off.contains .template then refuse .globalFlagOff 1
    if on.any off.contains then refuse .flagOnAndOff 1
    return .group on off

/-- Flags with some turned on and some turned off. -/
def switched (flags on off : List Flag) : List Flag :=
  let kept := if on.any isTypeFlag then flags.filter fun flag => !isTypeFlag flag else flags
  (kept ++ on).filter fun flag => !off.contains flag

/-- Reads a part under other flags. -/
def underFlags {α : Type} (flags : List Flag) (part : Reader α) : Reader α := do
  let before := (← get).flags
  modify fun r => { r with flags }
  let a ← part
  modify fun r => { r with flags := before }
  return a

/-! ## Groups -/

/-- The width of a group, if it is there and closed. -/
def groupWidth? (number : Nat) : Reader (Option Width) := return ((← get).widths[number]?).bind id

/-- Inside of a pattern that looks behind only the groups before it can be named. -/
def checkBehind (number : Nat) : Reader Unit := do
  if let some limit := (← get).behind then
    if (← groupWidth? number).isNone then refuse .openGroup 0
    if limit ≤ number then refuse .sameLookBehind 0

/-- What a group has matched; an open group is refused so many characters back. -/
def referTo (number back : Nat) : Reader Pattern := do
  match (← groupWidth? number) with
  | none => refuse .openGroup back
  | some width =>
    checkBehind number
    return .reference number (← caseMode) width

def openGroup (name : Option String) : Reader Nat := do
  let r ← get
  let number := r.widths.length
  if let some name := name then
    if let some known := Entries.get? r.names name then
      refuse (.repeatedGroup name number known) (name.length + 1)
    modify fun r => { r with names := Entries.set r.names name number }
  modify fun r => { r with widths := r.widths ++ [none] }
  return number

def closeGroup (number : Nat) (item : Pattern) : Reader Unit :=
  modify fun r => { r with widths := r.widths.set number (some item.width) }

/-- The name before a terminator, which must be a name. -/
def groupName (terminator : Char) : Reader String := do
  let name ← nameBefore terminator "group name"
  if isName name.toList then return name else refuse (.groupName name) (name.length + 1)

def groupNamed (name : String) : Reader Nat := do
  match Entries.get? (← get).names name with
  | some number => return number
  | none => refuse (.unknownGroup name) (name.length + 1)

def groupLimit : Nat := 2147483647

def maxDigits : Nat := 4300

def numberedCondition (text : String) : Reader Nat := do
  match (Numeral.integer? text).filter fun ds => ds.digits.length ≤ maxDigits && 0 ≤ ds.value with
  | none => refuse (.groupName text) (text.length + 1)
  | some ds =>
    let number := ds.value.toNat
    if number = 0 then refuse .groupZero (text.length + 1)
    if groupLimit ≤ number then refuse (.groupReference number) (text.length + 1)
    let position := (← tell) - text.length - 1
    modify fun r =>
      { r with conditions :=
          if (Entries.get? r.conditions number).isSome then r.conditions
          else Entries.set r.conditions number position }
    return number

/-- The group that a condition names. -/
def condition : Reader Nat := do
  let text ← nameBefore ')' "group name"
  let number ← if isName text.toList then groupNamed text else numberedCondition text
  checkBehind number
  return number

/-! ## Escapes outside of classes -/

def numberEscape (t : Token) (mode : CaseMode) : Reader Pattern := do
  let char := fun (codePoint : Nat) => Pattern.oneOf [.range codePoint codePoint] false mode
  let second ← takeWhile Char.isDigit 1
  let third ←
    if isOctalDigit t.char && !second.isEmpty && second.all isOctalDigit then takeWhile isOctalDigit 1 else pure []
  if !third.isEmpty then return char (← octalEscape t (second ++ third))
  let number := numberOf 10 (t.char :: second)
  if number < (← get).widths.length then referTo number (second.length + 2)
  else refuse (.groupReference number) (second.length + 1)

/-- The pattern that an escaped character stands for. -/
def escapePattern (named? : String → Option Char) (t : Token) : Reader Pattern := do
  let ascii ← isAscii
  let mode ← caseMode
  let char := fun (codePoint : Nat) => Pattern.oneOf [.range codePoint codePoint] false mode
  match anchor? ascii t.char, category? ascii t.char, control? t.char with
  | some place, _, _ => return .anchor place
  | none, some item, _ => return .oneOf [item] false mode
  | none, none, some c => return char c.toNat
  | none, none, none =>
    match (← codePoint? named? t) with
    | some codePoint => return char codePoint
    | none =>
      if t.char = '0' then return char (numberOf 8 (← takeWhile isOctalDigit 2))
      else if t.char.isDigit then numberEscape t mode
      else return char (← selfEscape t)

/-! ## Classes -/

def classItem (named? : String → Option Char) (t : Token) : Reader ClassItem := do
  let char := fun (codePoint : Nat) => ClassItem.range codePoint codePoint
  if !t.escaped then return char t.char.toNat
  match control? t.char, category? (← isAscii) t.char with
  | some c, _ => return char c.toNat
  | none, some item => return item
  | none, none =>
    if t.char = 'b' then return char 8
    match (← codePoint? named? t) with
    | some codePoint => return char codePoint
    | none =>
      if isOctalDigit t.char then return char (← octalEscape t (← takeWhile isOctalDigit 2))
      else if t.char.isDigit then refuse (.badEscape t.text) 2
      else return char (← selfEscape t)

def rangeBetween (t t' : Token) (item item' : ClassItem) : Reader ClassItem := do
  let bad : Reader ClassItem := refuse (.badRange t.text t'.text) (t.chars.length + 1 + t'.chars.length)
  match item, item' with
  | .range first _, .range last _ => if last < first then bad else return .range first last
  | _, _ => bad

/-- The items of a class up to its closing bracket. The bracket stands for itself if it comes first. -/
def classItems (named? : String → Option Char) (opening : Nat) : Nat → Bool → Reader (List ClassItem)
  | 0, _ => refuseAt .unterminatedClass opening
  | fuel + 1, isFirst => do
    let some t ← next? | refuseAt .unterminatedClass opening
    if t.isPlain ']' && !isFirst then return []
    let item ← classItem named? t
    if !(← accept '-') then return item :: (← classItems named? opening fuel false)
    let some t' ← next? | refuseAt .unterminatedClass opening
    if t'.isPlain ']' then return [item, .range 45 45]
    let range ← rangeBetween t t' item (← classItem named? t')
    return range :: (← classItems named? opening fuel false)

/-! ## Repetitions -/

/-- How often an item is repeated. -/
structure Bounds where
  least : Nat
  most : Option Nat

/-- Bounds are less than this. -/
def repetitionLimit : Nat := 4294967295

def bound (digits : List Char) : Reader Nat := do
  if maxDigits < digits.length then throw (.manyDigits digits.length)
  let n := numberOf 10 digits
  if repetitionLimit ≤ n then throw .largeRepetition
  return n

/-- The bounds in braces after the opening one, or nothing if the braces stand for themselves. -/
def braces? (opening : Nat) : Reader (Option Bounds) := do
  let before := (← get).tokens
  if (← peek).any (·.isPlain '\x7d') then return none
  let low ← takeWhile Char.isDigit before.length
  let comma ← accept ','
  let high ← if comma then takeWhile Char.isDigit before.length else pure low
  if !(← accept '\x7d') then
    goTo before
    return none
  let least ← if low.isEmpty then pure 0 else bound low
  if high.isEmpty then return some ⟨least, none⟩
  let most ← bound high
  if most < least then refuseAt .repeatOrder (opening + 1)
  return some ⟨least, some most⟩

/-- The bounds that a token gives, or nothing if it stands for itself. -/
def bounds? (t : Token) : Reader (Option Bounds) := do
  if t.escaped then return none
  match t.char with
  | '*' => return some ⟨0, none⟩
  | '+' => return some ⟨1, none⟩
  | '?' => return some ⟨0, some 1⟩
  | '\x7b' => braces? t.position
  | _ => return none

/-- An item of a sequence, as far as it matters for repeating it. -/
inductive ItemForm where
  | anchor
  | repetition
  | other
deriving DecidableEq

def ItemForm.of : Pattern → ItemForm
  | .anchor _ => .anchor
  | .repeated .. => .repetition
  | _ => .other

/-- The items of a sequence in reverse order. -/
abbrev Items := List (ItemForm × Pattern)

/-- The sequence of items that are given in reverse order. -/
def Items.sequence (items : Items) : Pattern :=
  items.foldl (fun p item => .sequence item.2 p) .empty

/-- The order of repetitions, which a mark after their bounds may change. -/
def greed : Reader Greed := do
  if ← accept '?' then return .lazy
  if ← accept '+' then return .possessive
  return .greedy

/-- The last item repeated. -/
def repeatLast (t : Token) (bounds : Bounds) (items : Items) : Reader Items := do
  match items with
  | [] | (.anchor, _) :: _ => refuseAt .nothingToRepeat t.position
  | (.repetition, _) :: _ => refuseAt .multipleRepeat t.position
  | (.other, p) :: rest =>
    return (.repetition, .repeated p bounds.least bounds.most (← greed)) :: rest

/-! ## Sequences and alternatives -/

/-- What the opening of a group asks for. -/
inductive GroupForm where
  | capture (name : Option String)
  | plain (flags : List Flag)
  | atomic
  | look (behind negated : Bool)
  | conditional (number : Nat)
  /-- Nothing is left to be read; a comment and flags for the whole pattern give no item. -/
  | done (item : Option Pattern)

/-- The token after a question mark that must not be missing. -/
def nextOfGroup : Reader Token := do
  match (← next?) with
  | some t => return t
  | none => refuse .unexpectedEnd 0

/-- Skips a comment up to its closing parenthesis. -/
def skipComment (opening : Nat) : Nat → Reader Unit
  | 0 => refuseAt .unterminatedComment opening
  | fuel + 1 => do
    match (← next?) with
    | none => refuseAt .unterminatedComment opening
    | some t => if t.isPlain ')' then return () else skipComment opening fuel

/-- The form of a group after its parenthesis and question mark. `isFirst` tells that nothing was read before. -/
def extension (opening : Nat) (isFirst : Bool) : Reader GroupForm := do
  let t ← nextOfGroup
  let unknown : Reader GroupForm := refuse (.unknownExtension t.text) (t.chars.length + 1)
  if t.escaped then return ← unknown
  match t.char with
  | 'P' =>
    if ← accept '<' then return .capture (some (← groupName '>'))
    else if ← accept '=' then
      let name ← groupName ')'
      return .done (some (← referTo (← groupNamed name) (name.length + 1)))
    else
      let t ← nextOfGroup
      refuse (.unknownExtension ("P" ++ t.text)) (t.chars.length + 2)
  | ':' => return .plain (← get).flags
  | '#' =>
    skipComment opening ((← left) + 1)
    return .done none
  | '=' => return .look false false
  | '!' => return .look false true
  | '<' =>
    let t ← nextOfGroup
    if t.isPlain '=' then return .look true false
    else if t.isPlain '!' then return .look true true
    else refuse (.unknownExtension ("<" ++ t.text)) (t.chars.length + 2)
  | '(' => return .conditional (← condition)
  | '>' => return .atomic
  | c =>
    if (flag? t).isNone && c != '-' then unknown
    else
      match (← flagScope t) with
      | .group on off => return .plain (switched (← get).flags on off)
      | .whole on =>
        if !isFirst then refuseAt .lateFlags opening
        modify fun r => { r with flags := r.flags ++ on }
        return .done none

def close (opening : Nat) : Reader Unit := do
  if !(← accept ')') then refuseAt .unterminatedGroup opening

/-- Reads a pattern that looks behind. -/
def lookingBehind {α : Type} (part : Reader α) : Reader α := do
  let before := (← get).behind
  if before.isNone then modify fun r => { r with behind := some r.widths.length }
  let a ← part
  modify fun r => { r with behind := before }
  return a

def skipLine : Nat → Reader Unit
  | 0 => return ()
  | fuel + 1 => do
    match (← next?) with
    | none => return ()
    | some t => if t.isPlain '\n' then return () else skipLine fuel

/-- White space and comments, which a verbose pattern may have between its items. -/
def isSkipped (t : Token) : Reader Bool := do
  if t.escaped || !(← get).flags.contains .verbose then return false
  if t.char == '#' then
    skipLine ((← left) + 1)
    return true
  else return [' ', '\t', '\n', '\r', '\x0b', '\x0c'].contains t.char

mutual

/-- A sequence of items up to an alternative, a closing parenthesis or the end. `isFirst` tells that nothing was read
before the sequence. -/
def sequence (named? : String → Option Char) : Nat → Bool → Items → Reader Pattern
  | 0, _, items => return items.sequence
  | fuel + 1, isFirst, items => do
    let some t ← peek | return items.sequence
    if t.isPlain '|' || t.isPlain ')' then return items.sequence
    let _ ← next?
    if ← isSkipped t then return ← sequence named? fuel isFirst items
    if let some bounds ← bounds? t then return ← sequence named? fuel isFirst (← repeatLast t bounds items)
    let flags := (← get).flags
    let item ←
      if t.escaped then pure (some (← escapePattern named? t))
      else
        match t.char with
        | '.' => pure (some (.any (flags.contains .dotAll)))
        | '^' => pure (some (.anchor (if flags.contains .multiline then .lineStart else .textStart)))
        | '$' => pure (some (.anchor (if flags.contains .multiline then .lineEnd else .lastLineEnd)))
        | '[' => do
          let negated ← accept '^'
          let items ← classItems named? t.position ((← left) + 1) true
          pure (some (.oneOf items negated (← caseMode)))
        | '(' => group named? fuel t.position (isFirst && items.isEmpty)
        | c => pure (some (.oneOf [.range c.toNat c.toNat] false (← caseMode)))
    match item with
    | none => sequence named? fuel isFirst items
    | some item =>
      -- A group in parentheses can be repeated whatever it holds.
      let form := if t.isPlain '(' then .other else ItemForm.of item
      sequence named? fuel isFirst ((form, item) :: items)

/-- A group after its parenthesis. A comment and flags for the whole pattern are no items. -/
def group (named? : String → Option Char) : Nat → Nat → Bool → Reader (Option Pattern)
  | 0, _, _ => return none
  | fuel + 1, opening, isFirst => do
    let form ← if ← accept '?' then extension opening isFirst else pure (.capture none)
    match form with
    | .done item => return item
    | .capture name =>
      let number ← openGroup name
      let item ← alternatives named? fuel false
      close opening
      closeGroup number item
      return some (.group number item)
    | .plain flags =>
      let item ← underFlags flags (alternatives named? fuel false)
      close opening
      return some item
    | .atomic =>
      let item ← alternatives named? fuel false
      close opening
      return some (.atomic item)
    | .look behind negated =>
      let part := alternatives named? fuel false
      let item ← if behind then lookingBehind part else part
      close opening
      return some (.look behind negated item)
    | .conditional number =>
      let present ← sequence named? fuel false []
      let absent ←
        if ← accept '|' then do
          let absent ← sequence named? fuel false []
          if (← peek).any (·.isPlain '|') then refuse .manyBranches 0
          pure absent
        else pure .empty
      close opening
      return some (.conditional number present absent)

/-- Sequences with bars between them. -/
def alternatives (named? : String → Option Char) : Nat → Bool → Reader Pattern
  | 0, _ => return .empty
  | fuel + 1, isFirst => do
    let first ← sequence named? fuel isFirst []
    if ← accept '|' then return .either first (← alternatives named? fuel false)
    else return first

end

end PatternReader

open PatternReader

/-- Patterns that look further behind than this are refused. -/
def maxLookBehind : Nat := 4294967295

/-- Refuses what cannot be searched for: looking behind by no fixed width, and repetitions in a template. -/
def Pattern.check (template : Bool) : Pattern → Except PatternReason Unit
  | .sequence first second | .either first second | .conditional _ first second => do
    first.check template
    second.check template
  | .repeated item _ _ greed => if template then .error (.templateRepeat greed) else item.check template
  | .group _ item | .atomic item | .look false _ item => item.check template
  | .look true _ item =>
    if maxLookBehind < item.width.least then .error .longLookBehind
    else if item.width.least ≠ item.width.most then .error .variableLookBehind
    else item.check template
  | .empty | .oneOf .. | .any _ | .anchor _ | .reference .. => .ok ()

/-- A whole pattern. -/
def PatternReader.whole (named? : String → Option Char) : Reader Pattern := do
  goTo (← get).tokens
  let p ← alternatives named? (3 * (← left) + 3) true
  let r ← get
  if r.flags.contains .ascii && r.flags.contains .unicode then throw .opposedFlags
  if let some t := r.tokens.head? then refuseAt .unbalancedGroup t.position
  if let some (number, position) := r.conditions.find? fun entry => r.widths.length ≤ entry.1 then
    refuseAt (.groupReference number) position
  match p.check (r.flags.contains .template) with
  | .ok () => return p
  | .error reason => throw (.at reason none)

/-- The pattern that a text writes. Characters may be given by the names that `named?` knows. -/
def Pattern.ofText (text : String) (named? : String → Option Char := fun _ => none) :
    Except PatternFailure Pattern :=
  match (PatternReader.whole named?).run ⟨tokens 0 text.toList, text.length, [], [none], [], none, []⟩ with
  | .ok (p, _) => .ok p
  | .error (.at reason position) => .error (.refused ⟨reason, position, text⟩)
  | .error .largeRepetition => .error .largeRepetition
  | .error .largeCodePoint => .error .largeCodePoint
  | .error (.manyDigits count) => .error (.manyDigits count)
  | .error .opposedFlags => .error .opposedFlags

/-- Two equal letters in a row, behind the start of a word. -/
example : (Pattern.ofText "(?i)\\b(\\w)\\1").toOption.map (·.occursIn "an Aardvark") = some true := by
  decide +kernel

end TypedRows.Text
