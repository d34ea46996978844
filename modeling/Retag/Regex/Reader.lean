import Retag.Regex.Fault
import Retag.Regex.Term
import Retag.Text.Letters
import Retag.Decimal.Reading

/-!
# Reading expressions

`Term.read` turns the text of an expression into a `Term`. The text is read as a
sequence of tokens, a token being a character or a backslash with the character
after it. A text that ends in a lone backslash is refused as soon as the reader
comes to it, whatever else is wrong.

The grammar has two levels, alternatives and sequences of items, which refer to
each other through groups. `alternatives` and `items` carry a bound on the
depth; every step takes a token, so twice the length of the text is enough, and
`Term.read` hides it. The other functions of the reader are not recursive or
walk over one list; those that need the two levels take them as arguments.
-/

namespace Retag.Regex

open Retag.Text Retag.Decimal

/-- A character, or a backslash with the character after it. -/
inductive Token where
  /-- A character that is not a backslash. -/
  | plain (c : Char)
  | escaped (c : Char)
  deriving DecidableEq, Repr

namespace Token

/-- The token as written. -/
def text : Token → Text
  | .plain c => [c]
  | .escaped c => ['\\', c]

/-- The number of characters of a token. -/
def size (t : Token) : Nat := t.text.length

/-- The token at the start of a text. -/
def first? : Text → Option Token
  | [] => none
  | '\\' :: c :: _ => some (.escaped c)
  | c :: _ => some (.plain c)

end Token

/-- How far a text has been read. -/
structure Reading where
  subject : Subject
  source : Text
  position : Nat
  rest : Text
  flags : Flags
  /-- The names of groups, the newest first. -/
  names : List (Text × Nat)
  /-- The widths of the groups by number; an open group has none yet. Number
  zero is the whole. -/
  groups : List (Option Width)
  /-- Inside a look-behind: the number of groups when the outermost one began. -/
  behind : Option Nat
  /-- The groups that conditions name by number, with the first place of each,
  in order. -/
  conditions : List (Nat × Nat)

/-- The width of a group that has been closed. -/
def Reading.groupWidth (s : Reading) (index : Nat) : Width :=
  (s.groups[index]?.join).getD ⟨0, 0⟩

/-- Computations that read on or refuse. -/
abbrev Reader := StateT Reading (Except CompileError)

namespace Reader

/-- The current index. -/
def tell : Reader Nat := do return (← get).position

/-- Refuses, at the given index. -/
def failAt {α : Type} (fault : Fault) (position : Nat) : Reader α := do
  throw (.malformed ⟨fault, (← get).source, some position⟩)

/-- Refuses, so many characters before the current index. -/
def fail {α : Type} (fault : Fault) (back : Nat) : Reader α := do
  failAt fault ((← tell) - back)

/-- The next token, which stays unread. -/
def peek : Reader (Option Token) := do return Token.first? (← get).rest

/-- Reads the next token. -/
def take : Reader (Option Token) := do
  let s ← get
  match Token.first? s.rest with
  | none => return none
  | some t =>
    let rest := s.rest.drop t.size
    let position := s.position + t.size
    if rest == ['\\'] then failAt .escapeAtEnd position
    set { s with rest := rest, position := position }
    return some t

/-- Reads the given character if it is the next token. -/
def accept (c : Char) : Reader Bool := do
  if (← peek) == some (.plain c) then
    let _ ← take
    return true
  else return false

/-- Reads at most so many characters of a class. -/
def takeSome (p : Char → Bool) : Nat → Reader Text
  | 0 => return []
  | n + 1 => do
    match ← peek with
    | some (.plain c) =>
      if p c then
        let _ ← take
        return c :: (← takeSome p n)
      else return []
    | _ => return []

/-- Reads characters of a class as long as they last. -/
def takeAll (p : Char → Bool) : Reader Text := do takeSome p (← get).rest.length

/-- Reads a name up to the character that ends it; `name` holds what has been
read, reversed. -/
def nameUntil (terminator : Char) (what : String) : Nat → Text → Reader Text
  | 0, name => return name.reverse
  | n + 1, name => do
    match ← take with
    | none =>
      if name.isEmpty then fail (.missingName what) 0
      else fail (.unterminatedName terminator) name.length
    | some t =>
      if t == .plain terminator then
        if name.isEmpty then fail (.missingName what) 1 else return name.reverse
      else nameUntil terminator what n (t.text.reverse ++ name)

/-- Reads a name, which must not be empty, and the character that ends it. -/
def name (terminator : Char) (what : String) : Reader Text := do
  nameUntil terminator what ((← get).rest.length + 1) []

/-- Refuses what is not a name; its end has just been read. -/
def checkName (name : Text) : Reader Unit := do
  unless isName name do fail (.badGroupName name) (name.length + 1)

/-- The number of groups opened so far, the whole counted in. -/
def groupCount : Reader Nat := do return (← get).groups.length

/-- Whether a group has been closed. -/
def isClosed (index : Nat) : Reader Bool := do
  return ((← get).groups[index]?.join).isSome

/-- Inside a look-behind, refuses a reference to a group that it contains or
that is open. -/
def checkLookBehind (index : Nat) : Reader Unit := do
  match (← get).behind with
  | none => return ()
  | some count =>
    unless ← isClosed index do fail .openGroup 0
    if count ≤ index then fail .groupInLookBehind 0

/-- The number of the group with a name. -/
def groupNamed? (name : Text) : Reader (Option Nat) :=
  do return (← get).names.lookup name

/-- Opens a group and gives it the next number. -/
def openGroup (name : Option Text) : Reader Nat := do
  let s ← get
  let index := s.groups.length
  match name with
  | none => set { s with groups := s.groups ++ [none] }
  | some name =>
    match s.names.lookup name with
    | some earlier => fail (.redefinedGroup name index earlier) (name.length + 1)
    | none =>
      set { s with groups := s.groups ++ [none], names := (name, index) :: s.names }
  return index

/-- Closes a group with its contents. -/
def closeGroup (index : Nat) (body : Term) : Reader Unit := do
  modify fun s =>
    { s with groups := s.groups.set index (some (body.width s.groupWidth)) }

/-! ## Escapes -/

/-- Whether a character is a hexadecimal digit of ASCII. -/
def isHex (c : Char) : Bool :=
  isAsciiDigit c || ('a' ≤ c && c ≤ 'f') || ('A' ≤ c && c ≤ 'F')

/-- Whether a character is an octal digit. -/
def isOctal (c : Char) : Bool := '0' ≤ c && c ≤ '7'

/-- The number that digits denote in a base. -/
def valueOf (base : Nat) (digits : Text) : Nat := (readNat? base digits).getD 0

/-- A code point given by exactly `count` hexadecimal digits after a letter. -/
def hexEscape (letter : Char) (count : Nat) : Reader Nat := do
  let digits ← takeSome isHex count
  let written := '\\' :: letter :: digits
  unless digits.length == count do fail (.incompleteEscape written) written.length
  let code := valueOf 16 digits
  if code > 0x7fffffff then throw .codeTooLarge
  if code > 0x10ffff then fail (.badEscape written) written.length
  return code

/-- A character given by its name. No names are known. -/
def namedEscape : Reader Nat := do
  unless ← accept '\x7b' do fail .missingBrace 0
  let name ← name '\x7d' "character name"
  fail (.unknownCharacterName name) (name.length + 4)

/-- An octal escape that begins with the given digits; at most one byte. -/
def octalEscape (digits : Text) : Reader Nat := do
  let code := valueOf 8 digits
  let written := '\\' :: digits
  if code > 255 then fail (.octalTooLarge written) written.length
  return code

/-- The code point of an escape that means the same inside and outside character
sets. -/
def controlEscape? : Char → Option Nat
  | 'a' => some 7
  | 'f' => some 12
  | 'n' => some 10
  | 'r' => some 13
  | 't' => some 9
  | 'v' => some 11
  | '\\' => some 92
  | _ => none

/-- The class of an escape. -/
def categoryEscape? : Char → Option (Category × Bool)
  | 'd' => some (.digit, false)
  | 'D' => some (.digit, true)
  | 's' => some (.blank, false)
  | 'S' => some (.blank, true)
  | 'w' => some (.word, false)
  | 'W' => some (.word, true)
  | _ => none

/-- The place of an escape. -/
def anchorEscape? : Char → Option Anchor
  | 'A' => some .textStart
  | 'Z' => some .textEnd
  | 'b' => some (.wordEdge false)
  | 'B' => some (.wordEdge true)
  | _ => none

/-- A number or a name of a code point, after its letter. In an expression for
bytes there are only the numbers of bytes. -/
def codeEscape? (subject : Subject) (c : Char) : Option (Reader Nat) :=
  match c, subject with
  | 'x', _ => some (hexEscape 'x' 2)
  | 'u', .text => some (hexEscape 'u' 4)
  | 'U', .text => some (hexEscape 'U' 8)
  | 'N', .text => some namedEscape
  | _, _ => none

/-- Any other escape: a letter or digit means nothing, another character means
itself. -/
def otherEscape (c : Char) : Reader Nat := do
  if isAsciiLetter c || isAsciiDigit c then fail (.badEscape ['\\', c]) 2
  return c.toNat

/-- What an escape stands for inside a character set. -/
def setEscape (c : Char) : Reader SetEntry := do
  if c == 'b' then return .char 8
  match controlEscape? c, categoryEscape? c, codeEscape? (← get).subject c with
  | some code, _, _ => return .char code
  | _, some (category, negated), _ => return .category category negated
  | _, _, some code => return .char (← code)
  | none, none, none =>
    if isOctal c then
      return .char (← octalEscape (c :: (← takeSome isOctal 2)))
    else return .char (← otherEscape c)

/-- A reference to a group, or an octal escape of three digits. -/
def numberEscape (c : Char) : Reader Term := do
  let second ← takeSome isAsciiDigit 1
  let third ← if isOctal c && !second.isEmpty
    && second.all isOctal then takeSome isOctal 1
    else pure []
  if third.isEmpty then
    let digits := c :: second
    let index := valueOf 10 digits
    if index < (← groupCount) then
      unless ← isClosed index do fail .openGroup (digits.length + 1)
      checkLookBehind index
      return .again index
    else fail (.invalidGroup index) digits.length
  else return .char (← octalEscape (c :: second ++ third))

/-- What an escape stands for outside character sets. -/
def escape (c : Char) : Reader Term := do
  match anchorEscape? c, categoryEscape? c, controlEscape? c,
    codeEscape? (← get).subject c with
  | some place, _, _, _ => return .anchor place
  | _, some (category, negated), _, _ => return .set false [.category category negated]
  | _, _, some code, _ => return .char code
  | _, _, _, some code => return .char (← code)
  | none, none, none, none =>
    if c == '0' then
      return .char (← octalEscape (c :: (← takeSome isOctal 2)))
    else if isAsciiDigit c then numberEscape c
    else return .char (← otherEscape c)

/-! ## Character sets -/

/-- What a token stands for inside a character set. -/
def setToken : Token → Reader SetEntry
  | .plain c => return .char c.toNat
  | .escaped c => setEscape c

/-- A range between two entries, which must be characters in order. -/
def range (low high : Token) (a b : SetEntry) : Reader SetEntry := do
  let bad : Reader SetEntry :=
    fail (.badRange low.text high.text) (low.size + 1 + high.size)
  match a, b with
  | .char lowest, .char highest =>
    if highest < lowest then bad else return .range lowest highest
  | _, _ => bad

/-- The entries of a character set up to its end; `start` is the index of its
opening bracket and `entries` holds those already read, reversed. -/
def setEntries (start : Nat) : Nat → List SetEntry → Reader (List SetEntry)
  | 0, entries => return entries.reverse
  | n + 1, entries => do
    match ← take with
    | none => failAt .unterminatedSet start
    | some low =>
      if low == .plain ']' && !entries.isEmpty then return entries.reverse
      let a ← setToken low
      if ← accept '-' then
        match ← take with
        | none => failAt .unterminatedSet start
        | some high =>
          if high == .plain ']' then return (.char 45 :: a :: entries).reverse
          let b ← setToken high
          setEntries start n ((← range low high a b) :: entries)
      else setEntries start n (a :: entries)

/-- A character set after its opening bracket. A set of one character is that
character. -/
def charSet : Reader Term := do
  let start := (← tell) - 1
  let negated ← accept '^'
  let entries ← setEntries start ((← get).rest.length + 1) []
  match entries.eraseDups with
  | [.char code] => return if negated then .notChar code else .char code
  | entries => return .set negated entries

/-! ## Repetition -/

/-- A repetition count. -/
def count (digits : Text) : Reader Nat := do
  if digits.length > 4300 then throw (.countTooLong digits.length)
  let n := valueOf 10 digits
  if n ≥ Width.unlimited then throw .countTooLarge
  return n

/-- The limits between braces, after the opening one. Without well-formed limits
nothing is read: the brace is an ordinary character then. -/
def limits? : Reader (Option (Nat × Option Nat)) := do
  let here ← get
  if (← peek) == some (.plain '\x7d') then return none
  let low ← takeAll isAsciiDigit
  let high ← if ← accept ',' then takeAll isAsciiDigit else pure low
  unless ← accept '\x7d' do
    set here
    return none
  let least ← if low.isEmpty then pure 0 else count low
  if high.isEmpty then return some (least, none)
  let greatest ← count high
  if greatest < least then failAt .minExceedsMax here.position
  return some (least, some greatest)

/-- Whether a term is a repetition. -/
def isMany : Term → Bool
  | .many .. => true
  | _ => false

/-- Whether a term is a place. -/
def isAnchor : Term → Bool
  | .anchor _ => true
  | _ => false

/-- How an item is repeated, by what follows the sign of the repetition. -/
def repeatMode : Reader Mode := do
  if ← accept '?' then return .lazy
  if ← accept '+' then return .possessive
  return .greedy

/-- Repeats the item read last; `position` is the index of the repetition's sign. -/
def repeatLast (position least : Nat) (greatest : Option Nat) (items : List Term) :
    Reader (List Term) := do
  match items with
  | [] => failAt .nothingToRepeat position
  | item :: earlier =>
    if isAnchor item then failAt .nothingToRepeat position
    if isMany item then failAt .multipleRepeat position
    return .many (← repeatMode) least greatest item :: earlier

/-! ## Groups -/

/-- Why a flag cannot be turned on in an expression for some subject. -/
def Flag.refused? : Flag → Subject → Option Fault
  | .locale, .text => some .inlineLocale
  | .unicode, .bytes => some .inlineUnicode
  | _, _ => none

/-- Turns flags on, from the given letter to the character that ends them, which
is returned. -/
def flagsOn : Nat → Char → Flags → Reader (Flags × Char)
  | 0, c, on => return (on, c)
  | n + 1, c, on => do
    match Flags.ofLetter? c with
    | none => return (on, c)
    | some flag =>
      if let some fault := Flag.refused? flag (← get).subject then fail fault 0
      let on := on.union flag.bit
      if Flags.meets flag.bit Flags.alphabets && on &&& Flags.alphabets != flag.bit then
        fail .incompatibleFlags 0
      match ← take with
      | none => fail (.missingAfterFlags "-, : or )") 0
      | some t =>
        match t with
        | .plain d =>
          if d == ')' || d == '-' || d == ':' then return (on, d)
          else if (Flags.ofLetter? d).isSome then flagsOn n d on
          else if Text.isLetter d then fail .unknownFlag 1
          else fail (.missingAfterFlags "-, : or )") 1
        | .escaped _ => fail (.missingAfterFlags "-, : or )") t.size

/-- Refuses what is no flag where a flag must stand. -/
def flagLetter (expected : String) (t : Option Token) : Reader Char := do
  match t with
  | none => fail (.missingAfterFlags expected) 0
  | some t =>
    match t with
    | .plain c =>
      if (Flags.ofLetter? c).isSome then return c
      else if Text.isLetter c then fail .unknownFlag 1
      else fail (.missingAfterFlags expected) 1
    | .escaped _ => fail (.missingAfterFlags expected) t.size

/-- Turns flags off, from the given letter to the colon. -/
def flagsOff : Nat → Char → Flags → Reader Flags
  | 0, _, off => return off
  | n + 1, c, off => do
    match Flags.ofLetter? c with
    | none => return off
    | some flag =>
      if Flags.meets flag.bit Flags.alphabets then fail .alphabetOff 0
      let off := off.union flag.bit
      let t ← take
      if t == some (.plain ':') then return off
      flagsOff n (← flagLetter ":" t) off

/-- Flags after the opening of a group, from the given letter on: the flags to
turn on and off in a group, or nothing if they hold for the whole expression. -/
def inlineFlags (c : Char) : Reader (Option (Flags × Flags)) := do
  let size := (← get).rest.length + 1
  let (on, stop) ← if c == '-' then pure (0, '-') else flagsOn size c 0
  if stop == ')' then
    modify fun s => { s with flags := s.flags.union on }
    return none
  if Flags.meets on Flags.wholeOnly then fail .wholeFlagOn 1
  let off ← if stop == '-' then do
    flagsOff size (← flagLetter "flag" (← take)) 0 else pure 0
  if Flags.meets off Flags.wholeOnly then fail .wholeFlagOff 1
  if Flags.meets on off then fail .onAndOff 1
  return some (on, off)

/-- Skips a comment up to its closing parenthesis; `start` is the index of the group. -/
def comment (start : Nat) : Nat → Reader Unit
  | 0 => return ()
  | n + 1 => do
    match ← take with
    | none => failAt .unterminatedComment start
    | some t => unless t == .plain ')' do comment start n

/-- Reads the closing parenthesis of the group that starts at the given index. -/
def close (start : Nat) : Reader Unit := do
  unless ← accept ')' do failAt .unterminatedGroup start

/-- A look ahead or behind, after its opening. Groups that a look-behind
contains cannot be referred to in it. -/
def look (alternatives : Reader Term) (start : Nat) (behind negated : Bool) :
    Reader Term := do
  let outer := (← get).behind
  if behind && outer.isNone then
    modify fun s => { s with behind := some s.groups.length }
  let body ← alternatives
  if behind then modify fun s => { s with behind := outer }
  close start
  return .look behind negated body

/-- The number of the group that a condition names. -/
def condition (name : Text) : Reader Nat := do
  if isName name then
    match ← groupNamed? name with
    | some index => return index
    | none => fail (.unknownGroupName name) (name.length + 1)
  else
    match (if name.length > 4300 then none else readInt? 10 name) with
    | some (.ofNat 0) => fail .badGroupNumber (name.length + 1)
    | some (.ofNat index) =>
      if index ≥ 1073741823 then fail (.invalidGroup index) (name.length + 1)
      let place := (← tell) - name.length - 1
      modify fun s =>
        if (s.conditions.lookup index).isSome then s
        else { s with conditions := s.conditions ++ [(index, place)] }
      return index
    | _ => fail (.badGroupName name) (name.length + 1)

/-- A conditional group, after its opening. -/
def conditional (branch : Reader Term) (start : Nat) : Reader Term := do
  let index ← condition (← name ')' "group name")
  checkLookBehind index
  let yes ← branch
  let no ← if ← accept '|' then do
      let no ← branch
      if (← peek) == some (.plain '|') then fail .tooManyBranches 0
      pure no
    else pure .empty
  close start
  return .whenSet index yes no

/-- A reference to a group by its name, after the equals sign. -/
def namedReference : Reader Term := do
  let name ← name ')' "group name"
  checkName name
  match ← groupNamed? name with
  | none => fail (.unknownGroupName name) (name.length + 1)
  | some index =>
    unless ← isClosed index do fail .openGroup (name.length + 1)
    checkLookBehind index
    return .again index

/-- What the opening of a group announces. -/
inductive Opening where
  /-- A group that captures, with its name if it has one. -/
  | capture (name : Option Text)
  /-- A group that turns flags on and off. -/
  | plain (on off : Flags)
  /-- A group that is not entered again. -/
  | atomic
  /-- Something that is already complete; a comment or flags leave no term. -/
  | complete (term : Option Term)

/-- What follows `(?P`. -/
def extension : Reader Opening := do
  if ← accept '<' then
    let name ← name '>' "group name"
    checkName name
    return .capture (some name)
  else if ← accept '=' then return .complete (some (← namedReference))
  else
    match ← take with
    | none => fail .unexpectedEnd 0
    | some t => fail (.unknownExtension ('P' :: t.text)) (t.size + 2)

/-- A look-behind, after `(?<`. -/
def lookBehind (alternatives : Reader Term) (start : Nat) : Reader Term := do
  match ← take with
  | none => fail .unexpectedEnd 0
  | some t =>
    if t == .plain '=' then look alternatives start true false
    else if t == .plain '!' then look alternatives start true true
    else fail (.unknownExtension ('<' :: t.text)) (t.size + 2)

/-- Flags after `(?`. Those for the whole expression must stand before every item. -/
def flagsOpening (c : Char) (start : Nat) (atStart : Bool) : Reader Opening := do
  match ← inlineFlags c with
  | some (on, off) => return .plain on off
  | none =>
    unless atStart do failAt .misplacedFlags start
    return .complete none

/-- What follows an opening parenthesis, which stands at index `start`. -/
def opening (alternatives branch : Reader Term) (start : Nat) (atStart : Bool) :
    Reader Opening := do
  unless ← accept '?' do return .capture none
  match ← take with
  | none => fail .unexpectedEnd 0
  | some t =>
    match t with
    | .plain 'P' => extension
    | .plain ':' => return .plain 0 0
    | .plain '#' =>
      comment start ((← get).rest.length + 1)
      return .complete none
    | .plain '=' => return .complete (some (← look alternatives start false false))
    | .plain '!' => return .complete (some (← look alternatives start false true))
    | .plain '<' => return .complete (some (← lookBehind alternatives start))
    | .plain '(' => return .complete (some (← conditional branch start))
    | .plain '>' => return .atomic
    | .plain '-' => flagsOpening '-' start atStart
    | .plain c =>
      if (Flags.ofLetter? c).isSome then flagsOpening c start atStart
      else fail (.unknownExtension [c]) 2
    | .escaped _ => fail (.unknownExtension t.text) (t.size + 1)

/-- A group, after its opening parenthesis. `alternatives` and `branch` read the
contents, skipping blanks or not. The result is the term, if there is one. -/
def group (alternatives branch : Bool → Reader Term) (verbose atStart : Bool) :
    Reader (Option Term) := do
  let start := (← tell) - 1
  match ← opening (alternatives verbose) (branch verbose) start atStart with
  | .complete term => return term
  | .capture name =>
    let index ← openGroup name
    let body ← alternatives verbose
    close start
    closeGroup index body
    return some (.group (some index) 0 0 body)
  | .plain on off =>
    let inner := (verbose || on.has .verbose) && !off.has .verbose
    let body ← alternatives inner
    close start
    return some (.group none on off body)
  | .atomic =>
    let body ← alternatives verbose
    close start
    return some (.atomic body)

/-! ## Items and alternatives -/

/-- Skips the rest of a comment line. -/
def commentLine : Nat → Reader Unit
  | 0 => return ()
  | n + 1 => do
    match ← take with
    | none => return ()
    | some t => unless t == .plain '\n' do commentLine n

/-- An opening brace, after it has been read: limits of a repetition, or an
ordinary character. -/
def brace (items : List Term) : Reader (List Term) := do
  let position := (← tell) - 1
  match ← limits? with
  | none => return .char '\x7b'.toNat :: items
  | some (least, greatest) => repeatLast position least greatest items

/-- Reads what a token begins and adds it to the items already read, which are
in reverse. -/
def item (alternatives branch : Bool → Reader Term) (verbose first : Bool)
    (items : List Term) (t : Token) : Reader (List Term) := do
  let position := (← tell) - 1
  match t with
  | .escaped c => return (← escape c) :: items
  | .plain '[' => return (← charSet) :: items
  | .plain '.' => return .any :: items
  | .plain '^' => return .anchor .start :: items
  | .plain '$' => return .anchor .finish :: items
  | .plain '?' => repeatLast position 0 (some 1) items
  | .plain '*' => repeatLast position 0 none items
  | .plain '+' => repeatLast position 1 none items
  | .plain '\x7b' => brace items
  | .plain '(' =>
    match ← group alternatives branch verbose (first && items.isEmpty) with
    | some term => return term :: items
    | none => return items
  | .plain c => return .char c.toNat :: items

/-- Whether a token ends a sequence of items. -/
def endsItems (t : Token) : Bool := t == .plain '|' || t == .plain ')'

/-- A blank that is skipped where blanks mean nothing. -/
def isSkipped (c : Char) : Bool := isAsciiBlank c

mutual

/-- Items up to the end of their sequence. In the `first` sequence, flags for
the whole expression may stand before every item; they decide from then on
whether blanks are skipped. -/
def items : Nat → Bool → Bool → List Term → Reader Term
  | 0, _, _, read => return Term.ofReversed read
  | depth + 1, verbose, first, read => do
    match ← peek with
    | none => return Term.ofReversed read
    | some t =>
      if endsItems t then return Term.ofReversed read
      let _ ← take
      match t with
      | .plain c =>
        if verbose && isSkipped c then items depth verbose first read
        else if verbose && c == '#' then do
          commentLine ((← get).rest.length + 1)
          items depth verbose first read
        else do
          let next ← item (alternatives depth false) (fun v => items depth v false [])
            verbose first read t
          let flags := (← get).flags
          let verbose := if first && next.isEmpty then flags.has .verbose else verbose
          items depth verbose first next
      | .escaped _ => do
        let next ← item (alternatives depth false) (fun v => items depth v false [])
          verbose first read t
        items depth verbose first next

/-- Sequences of items with bars between them; `top` says that they are the
whole expression. -/
def alternatives : Nat → Bool → Bool → Reader Term
  | 0, _, _ => return .empty
  | depth + 1, top, verbose => do
    let head ← items depth verbose top []
    let more ← branches depth top verbose
    return Term.oneOf head more

/-- The sequences after the first one. -/
def branches : Nat → Bool → Bool → Reader (List Term)
  | 0, _, _ => return []
  | depth + 1, top, verbose => do
    if ← accept '|' then
      let flags := (← get).flags
      let verbose := if top then flags.has .verbose else verbose
      let next ← items depth verbose false []
      return next :: (← branches depth top verbose)
    else return []

end

end Reader

/-- The flags of a whole expression, once its inline flags are known: exactly
one alphabet of text, and at most one of bytes. -/
def Flags.settle (flags : Flags) : Subject → Except CompileError Flags
  | .text =>
    if flags.has .locale then .error .localeFlag
    else if !flags.has .ascii then .ok (flags.union Flag.unicode.bit)
    else if flags.has .unicode then .error .asciiAndUnicode
    else .ok flags
  | .bytes =>
    if flags.has .unicode then .error .unicodeFlag
    else if flags.has .locale && flags.has .ascii then .error .asciiAndLocale
    else .ok flags

/-- An expression that has been read. -/
structure Parsed where
  term : Term
  flags : Flags
  /-- The widths of its groups by number, the whole counted in. -/
  groups : List (Option Width)

/-- The number of groups that capture. -/
def Parsed.groupCount (p : Parsed) : Nat := p.groups.length - 1

/-- The state before anything is read. -/
def Reading.initial (subject : Subject) (source : Text) (flags : Flags) : Reading :=
  { subject := subject, source := source, position := 0, rest := source, flags := flags,
    names := [], groups := [none], behind := none, conditions := [] }

/-- Reads the text of an expression. -/
def Term.read (subject : Subject) (source : Text) (flags : Flags) :
    Except CompileError Parsed := do
  let refuse (fault : Fault) (position : Nat) : Except CompileError Parsed :=
    .error (.malformed ⟨fault, source, some position⟩)
  if source == ['\\'] then refuse .escapeAtEnd 0
  else
    let depth := 2 * source.length + 4
    let (term, s) ← (Reader.alternatives depth true (flags.has .verbose)).run
      (Reading.initial subject source flags)
    let settled ← s.flags.settle subject
    if !s.rest.isEmpty then refuse .unbalanced s.position
    else
      match s.conditions.find? fun condition => s.groups.length ≤ condition.1 with
      | some (index, position) => refuse (.invalidGroup index) position
      | none => return { term := term, flags := settled, groups := s.groups }

end Retag.Regex
