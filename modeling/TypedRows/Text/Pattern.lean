import TypedRows.Entries
import TypedRows.Text.Blank
import TypedRows.Text.Caseless
import TypedRows.Text.Letter
/-!
# Patterns

Regular expressions over texts, and the search by which `search` looks for one anywhere in a text. The search tries
the ways to match one after another and takes the first that leads to the end of the pattern. The order matters:
groups, atomic parts and possessive repetitions keep the first way and forget the others.

`Pattern.attempt` is this search from one position. It is given what is to follow the pattern, so that a part of a
pattern is tried again if what follows it fails.
-/

namespace TypedRows.Text

/-- Which characters count as alike. -/
inductive CaseMode where
  | exact
  | ascii
  | unicode
deriving DecidableEq, Repr

def CaseMode.mates : CaseMode → Char → List Nat
  | .exact, c => [c.toNat]
  | .ascii, c => asciiCaseMates c
  | .unicode, c => caseMates c

/-- The form of a character that is compared when a group is matched again. -/
def CaseMode.form : CaseMode → Char → Char
  | .exact, c => c
  | .ascii, c => c.toLower
  | .unicode, c => plainLower c

inductive Category where
  | digit
  | blank
  | word
deriving DecidableEq, Repr

/-- The character belongs to the category, or to the part of it that lies in ASCII. -/
def Category.has (category : Category) (ascii : Bool) (c : Char) : Bool :=
  (!ascii || c.toNat < 0x80) &&
    match category with
    | .digit => isDecimalDigit c
    -- The information separators are blanks, but no blanks of ASCII.
    | .blank => if ascii then isWhiteSpace c else isBlank c
    | .word => isWordChar c

/-- One item of a class of characters. Code points of surrogates can be named, though no text has them. -/
inductive ClassItem where
  | range (first last : Nat)
  | category (category : Category) (ascii negated : Bool)
deriving DecidableEq, Repr

def ClassItem.has (mode : CaseMode) (c : Char) : ClassItem → Bool
  | .range first last => (mode.mates c).any fun codePoint => first ≤ codePoint && codePoint ≤ last
  | .category named ascii negated => named.has ascii c != negated

inductive Anchor where
  | textStart
  | lineStart
  | textEnd
  /-- The end of the text, or the place before a line feed that ends it. -/
  | lastLineEnd
  | lineEnd
  /-- The border of a word, or any other place. -/
  | border (ascii negated : Bool)
deriving DecidableEq, Repr

def wordAt (ascii : Bool) (text : Array Char) (i : Nat) : Bool := text[i]?.any (Category.word.has ascii)

/-- The place is at the position. An empty text has no borders and no other places either. -/
def Anchor.holds (text : Array Char) (i : Nat) : Anchor → Bool
  | .textStart => i == 0
  | .lineStart => i == 0 || text[i - 1]? == some '\n'
  | .textEnd => i == text.size
  | .lastLineEnd => i == text.size || (i + 1 == text.size && text[i]? == some '\n')
  | .lineEnd => i == text.size || text[i]? == some '\n'
  | .border ascii negated =>
    text.size != 0 && ((i != 0 && wordAt ascii text (i - 1)) != wordAt ascii text i) != negated

/-- In which order repetitions are tried. -/
inductive Greed where
  /-- More repetitions first. -/
  | greedy
  /-- Fewer repetitions first. -/
  | lazy
  /-- More repetitions, each kept once it is found. -/
  | possessive
deriving DecidableEq, Repr

/-- The least and the greatest number of characters that a pattern takes. -/
structure Width where
  least : Nat
  most : Nat
deriving DecidableEq, Repr

inductive Pattern where
  | empty
  /-- One character of a class, or of its complement. -/
  | oneOf (items : List ClassItem) (negated : Bool) (mode : CaseMode)
  /-- Any character, line feeds only if they are asked for. -/
  | any (lineFeeds : Bool)
  | anchor (place : Anchor)
  | sequence (first second : Pattern)
  | either (first second : Pattern)
  /-- The pattern repeated, at least `least` times and at most `most` times if there is a bound. -/
  | repeated (item : Pattern) (least : Nat) (most : Option Nat) (greed : Greed)
  | group (number : Nat) (item : Pattern)
  /-- What a group has matched, once more. The width is that of the group. -/
  | reference (number : Nat) (mode : CaseMode) (width : Width)
  /-- The first way to match the pattern. -/
  | atomic (item : Pattern)
  /-- What comes next, or before, does or does not match. -/
  | look (behind negated : Bool) (item : Pattern)
  /-- The first pattern if a group has matched, else the second. -/
  | conditional (number : Nat) (present absent : Pattern)
deriving Repr, Inhabited

/-! ## Widths -/

/-- No width is counted beyond this. -/
def maxWidth : Nat := Nat.pow 2 64

def Width.add (a b : Width) : Width := ⟨min (a.least + b.least) maxWidth, min (a.most + b.most) maxWidth⟩

def Width.join (a b : Width) : Width := ⟨min a.least b.least, max a.most b.most⟩

def Width.times (w : Width) (least : Nat) (most : Option Nat) : Width where
  least := min (w.least * least) maxWidth
  most := if w.most = 0 then 0 else (most.map fun most => min (w.most * most) maxWidth).getD maxWidth

def Pattern.width : Pattern → Width
  | .empty | .anchor _ | .look .. => ⟨0, 0⟩
  | .oneOf .. | .any _ => ⟨1, 1⟩
  | .sequence first second => first.width.add second.width
  | .either first second => first.width.join second.width
  | .repeated item least most _ => item.width.times least most
  | .group _ item | .atomic item => item.width
  | .reference _ _ width => width
  | .conditional _ present absent => present.width.join absent.width

/-! ## Search -/

/-- How far a search has come: the position, and the slices of the text that groups have matched. -/
structure Progress where
  position : Nat
  groups : List (Nat × Nat × Nat)
deriving DecidableEq, Repr

def Progress.advance (p : Progress) (count : Nat) : Progress := { p with position := p.position + count }

/-- The group has matched what lies between a start and the position. -/
def Progress.capture (p : Progress) (number start : Nat) : Progress :=
  { p with groups := Entries.set p.groups number (start, p.position) }

/-- What is to follow a part of a pattern. -/
abbrev Continuation := Progress → Option Progress

/-- Repetitions of an item that are taken back if what follows fails. Once the least number is reached, a repetition
that took nothing is the last: `last` is where the one before began. -/
def attemptRepeated (item : Progress → Continuation → Option Progress) (isLazy : Bool) :
    Nat → Nat → Option Nat → Option Nat → Progress → Continuation → Option Progress
  | 0, _, _, _, _, _ => none
  | fuel + 1, least + 1, most, last, p, next =>
    item p fun p => attemptRepeated item isLazy fuel least (most.map (· - 1)) last p next
  | fuel + 1, 0, most, last, p, next =>
    let another := fun (_ : Unit) =>
      if most = some 0 ∨ last = some p.position then none
      else item p fun q => attemptRepeated item isLazy fuel 0 (most.map (· - 1)) (some p.position) q next
    if isLazy then (next p).orElse another else (another ()).orElse fun _ => next p

/-- Repetitions of an item that are kept once they are found. -/
def repeatKept (item : Continuation) : Nat → Nat → Option Nat → Option Nat → Continuation
  | 0, _, _, _, _ => none
  | fuel + 1, least + 1, most, last, p => (item p).bind (repeatKept item fuel least (most.map (· - 1)) last)
  | fuel + 1, 0, most, last, p =>
    if most = some 0 ∨ last = some p.position then some p
    else
      match item p with
      | none => some p
      | some q => repeatKept item fuel 0 (most.map (· - 1)) (some p.position) q

/-- The characters of a slice stand at the position, if case does not count. -/
def sliceAt (mode : CaseMode) (text : Array Char) (start stop i : Nat) : Bool :=
  (List.range (stop - start)).all fun k => (text[start + k]?).map mode.form == (text[i + k]?).map mode.form

namespace Pattern

/-- The first way to match the pattern that leads to an end. -/
def attempt (text : Array Char) : Pattern → Progress → Continuation → Option Progress
  | .empty, p, next => next p
  | .oneOf items negated mode, p, next =>
    match text[p.position]? with
    | some c => if items.any (·.has mode c) != negated then next (p.advance 1) else none
    | none => none
  | .any lineFeeds, p, next =>
    match text[p.position]? with
    | some c => if c = '\n' ∧ lineFeeds = false then none else next (p.advance 1)
    | none => none
  | .anchor place, p, next => if place.holds text p.position then next p else none
  | .sequence first second, p, next => first.attempt text p fun p => second.attempt text p next
  | .either first second, p, next => (first.attempt text p next).orElse fun _ => second.attempt text p next
  | .repeated item least most greed, p, next =>
    -- Of the repetitions that are not asked for, all but one take a character.
    let fuel := least + text.size + 3
    match greed with
    | .possessive => (repeatKept (fun p => item.attempt text p some) fuel least most none p).bind next
    | .greedy => attemptRepeated (item.attempt text) false fuel least most none p next
    | .lazy => attemptRepeated (item.attempt text) true fuel least most none p next
  | .group number item, p, next => item.attempt text p fun q => next (q.capture number p.position)
  | .reference number mode _, p, next =>
    match Entries.get? p.groups number with
    | some (start, stop) =>
      if sliceAt mode text start stop p.position then next (p.advance (stop - start)) else none
    | none => none
  | .atomic item, p, next => (item.attempt text p some).bind next
  | .look behind negated item, p, next =>
    let back := if behind then item.width.least else 0
    let found :=
      if p.position < back then none else item.attempt text { p with position := p.position - back } some
    match found with
    | some q => if negated then none else next { p with groups := q.groups }
    | none => if negated then next p else none
  | .conditional number present absent, p, next =>
    if (Entries.get? p.groups number).isSome then present.attempt text p next else absent.attempt text p next

/-- The pattern matches somewhere in the text. -/
def occursIn (p : Pattern) (text : String) : Bool :=
  let cs := text.toList.toArray
  (List.range (cs.size + 1)).any fun i => (p.attempt cs ⟨i, []⟩ some).isSome

end Pattern

end TypedRows.Text
