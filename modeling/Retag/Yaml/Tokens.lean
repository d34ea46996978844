import Retag.Yaml.Scalars

/-!
# Taking a YAML text apart

`tokens` turns a YAML text into its tokens. Every step skips blanks and
comments, closes the collections of lines that the new column ends, and then
takes one token by its first characters.
-/

namespace Retag.Yaml

namespace Walk

/-! ## Possible keys and indentation -/

/-- Forgets the possible key at the current depth. One that must be a key is a fault. -/
def dropKey : Walk Unit := do
  let s ← get
  match s.keys.lookup s.flowLevel with
  | none => return ()
  | some key =>
    if key.required then malformed
    set { s with keys := s.keys.filter fun entry => entry.1 != s.flowLevel }

/-- Forgets the possible keys that lie on an earlier line or too far back. -/
def dropStaleKeys : Walk Unit := do
  let s ← get
  let isStale (key : PossibleKey) : Bool :=
    key.line != s.line || s.index - key.index > 1024
  if s.keys.any fun entry => isStale entry.2 && entry.2.required then malformed
  set { s with keys := s.keys.filter fun entry => !isStale entry.2 }

/-- Remembers that a key may begin here. -/
def saveKey : Walk Unit := do
  let s ← get
  if s.allowKey then
    dropKey
    let required := s.flowLevel == 0 && s.indent == s.column
    let key : PossibleKey := ⟨s.tokens.size, required, s.index, s.line, s.column⟩
    modify fun s => { s with keys := (s.flowLevel, key) :: s.keys }

/-- Closes collections of lines that lie to the right of a column; the number
bounds their depth. -/
def unwindBy (column : Int) : Nat → Walk Unit
  | 0 => return ()
  | n + 1 => do
    let s ← get
    if s.indent > column then
      set { s with indent := s.outer.headD (-1), outer := s.outer.tail,
                   tokens := s.tokens.push .blockEnd }
      unwindBy column n

/-- Closes collections of lines that lie to the right of a column. Inside
brackets columns mean nothing. -/
def unwind (column : Int) : Walk Unit := do
  let s ← get
  if s.flowLevel == 0 then unwindBy column (s.outer.length + 1)

/-- Opens a collection of lines at a column, unless one is open there. -/
def addIndent (column : Int) : Walk Bool := do
  let s ← get
  if s.indent < column then
    set { s with outer := s.indent :: s.outer, indent := column }
    return true
  else return false

/-! ## Directives, names and tags -/

/-- A name of an anchor or a directive. -/
def nameText : Walk Text := do
  let name ← takeWhile isNameChar
  if name.isEmpty then malformed
  return name

/-- A number in a directive. -/
def directiveNumber : Walk Nat := do
  let digits ← takeWhile isDecimal
  if digits.isEmpty then malformed
  return digits.foldl (fun n c => 10 * n + (c.toNat - 48)) 0

/-- The characters of a tag. -/
def isTagChar (c : Char) : Bool :=
  isNameChar c || ";/?:@&=+$,.!~*'()[]%".toList.contains c

/-- Escaped bytes in a tag. -/
def tagBytes : Nat → List UInt8 → Walk (List UInt8)
  | 0, bytes => return bytes
  | n + 1, bytes => do
    if (← peek 0) == '%' then
      forward 1
      let digits ← ahead 2
      unless digits.length == 2 && digits.all isHexadecimal do malformed
      forward 2
      tagBytes n (bytes ++ [(hexValue digits).toUInt8])
    else return bytes

/-- The text of a tag, in which bytes may be escaped. -/
def tagText : Nat → Text → Walk Text
  | 0, text => return text
  | n + 1, text => do
    let c ← peek 0
    if c == '%' then
      let bytes ← tagBytes (← size) []
      match String.fromUTF8? ⟨bytes.toArray⟩ with
      | some decoded => tagText n (text ++ decoded.toList)
      | none => malformed
    else if isTagChar c then
      forward 1
      tagText n (text ++ [c])
    else
      if text.isEmpty then malformed
      return text

/-- The handle of a tag: exclamation marks, with a name between them if there
are two. -/
def tagHandle : Walk Text := do
  expect (· == '!')
  forward 1
  if (← peek 0) == ' ' then return ['!']
  let name ← takeWhile isNameChar
  expect (· == '!')
  forward 1
  return '!' :: name ++ ['!']

/-- A directive. -/
def directive : Walk Token := do
  forward 1
  let name ← nameText
  expect isSpaceOrEnd
  let token ← if name == "YAML".toList then do
      skipSpaces
      let major ← directiveNumber
      expect (· == '.')
      forward 1
      let _ ← directiveNumber
      expect isSpaceOrEnd
      pure (.versionDirective major)
    else if name == "TAG".toList then do
      skipSpaces
      let handle ← tagHandle
      expect (· == ' ')
      skipSpaces
      let start ← tagText (← size) []
      expect isSpaceOrEnd
      pure (.tagDirective handle start)
    else do
      let _ ← takeWhile fun c => !isLineEnd c
      pure .otherDirective
  endOfLine
  return token

/-- The characters that may follow a name. -/
def endsName (c : Char) : Bool := isGap c || "?:,]\x7d%@`".toList.contains c

/-- The name of an anchor or of a reference to one, after its sign. -/
def anchorName : Walk Text := do
  forward 1
  let name ← nameText
  expect endsName
  return name

/-- Whether a word holds a second exclamation mark. -/
def usesHandle (rest : Text) : Bool :=
  (rest.takeWhile fun c => !isSpaceOrEnd c).contains '!'

/-- A tag. -/
def tag : Walk WrittenTag := do
  let c ← peek 1
  let written ← if c == '<' then do
      forward 2
      let suffix ← tagText (← size) []
      expect (· == '>')
      forward 1
      pure ⟨none, suffix⟩
    else if isGap c then do
      forward 1
      pure ⟨none, ['!']⟩
    else if usesHandle ((← get).rest.drop 1) then do
      let handle ← tagHandle
      pure ⟨some handle, ← tagText (← size) []⟩
    else do
      forward 1
      pure ⟨some ['!'], ← tagText (← size) []⟩
  expect isSpaceOrEnd
  return written

/-! ## Single tokens -/

/-- Prepares for a directive or a document mark: every collection ends. -/
def endAll : Walk Unit := do
  unwind (-1)
  dropKey
  setAllowKey false

/-- An opening bracket or brace. -/
def openFlow (t : Token) : Walk Unit := do
  saveKey
  modify fun s => { s with flowLevel := s.flowLevel + 1, allowKey := true }
  forward 1
  emit t

/-- A closing bracket or brace. -/
def closeFlow (t : Token) : Walk Unit := do
  dropKey
  modify fun s => { s with flowLevel := s.flowLevel - 1, allowKey := false }
  forward 1
  emit t

/-- A comma. -/
def flowEntry : Walk Unit := do
  setAllowKey true
  dropKey
  forward 1
  emit .flowEntry

/-- A dash before an item. -/
def blockEntry : Walk Unit := do
  let s ← get
  if s.flowLevel == 0 then
    unless s.allowKey do malformed
    if ← addIndent s.column then emit .blockSequenceStart
  setAllowKey true
  dropKey
  forward 1
  emit .blockEntry

/-- A question mark before a key. -/
def markedKey : Walk Unit := do
  let s ← get
  if s.flowLevel == 0 then
    unless s.allowKey do malformed
    if ← addIndent s.column then emit .blockMappingStart
  setAllowKey (s.flowLevel == 0)
  dropKey
  forward 1
  emit .key

/-- Puts a token in at an index. -/
def insertToken (index : Nat) (t : Token) : Walk Unit :=
  modify fun s => { s with tokens := s.tokens.insertIdx! index t }

/-- A colon before a value. If a key may have begun before it, that was a key. -/
def valueMark : Walk Unit := do
  let s ← get
  match s.keys.lookup s.flowLevel with
  | some key =>
    set { s with keys := s.keys.filter fun entry => entry.1 != s.flowLevel }
    insertToken key.token .key
    if s.flowLevel == 0 then
      if ← addIndent key.column then insertToken key.token .blockMappingStart
    setAllowKey false
  | none =>
    if s.flowLevel == 0 then
      unless s.allowKey do malformed
      if ← addIndent s.column then emit .blockMappingStart
    setAllowKey (s.flowLevel == 0)
    dropKey
  forward 1
  emit .value

/-- A token that may begin a key, after which none may begin. -/
def keyed (token : Walk Token) : Walk Unit := do
  saveKey
  setAllowKey false
  emit (← token)

/-- A block of lines. -/
def blockScalar (fold : Bool) : Walk Unit := do
  setAllowKey true
  dropKey
  emit (.scalar (← block fold) false)

/-- Whether a plain scalar may begin with a character. -/
def beginsPlain (flow : Bool) (c next : Char) : Bool :=
  !(isGap c || "-?:,[]\x7b\x7d#&*!|>'\"%@`".toList.contains c)
    || (!isGap next && (c == '-' || (!flow && (c == '?' || c == ':'))))

/-- Skips blanks, comments and line ends before a token. -/
def skipToToken : Nat → Walk Unit
  | 0 => return ()
  | n + 1 => do
    skipSpaces
    skipComment
    let ended ← lineBreak
    unless ended.isEmpty do
      if (← get).flowLevel == 0 then setAllowKey true
      skipToToken n

/-- Takes the token that begins with the next character, which is not the end. -/
def token : Walk Unit := do
  let s ← get
  let c ← peek 0
  let next ← peek 1
  let flow := s.flowLevel != 0
  let mark ← ahead 3
  let atMark := s.column == 0 && (← atDocumentMark)
  if c == '%' && s.column == 0 then
    endAll
    emit (← directive)
  else if atMark then
    endAll
    forward 3
    emit (if mark == ['-', '-', '-'] then .documentStart else .documentEnd)
  else if c == '[' then openFlow .flowSequenceStart
  else if c == '\x7b' then openFlow .flowMappingStart
  else if c == ']' then closeFlow .flowSequenceEnd
  else if c == '\x7d' then closeFlow .flowMappingEnd
  else if c == ',' then flowEntry
  else if c == '-' && isGap next then blockEntry
  else if c == '?' && (flow || isGap next) then markedKey
  else if c == ':' && (flow || isGap next) then valueMark
  else if c == '*' then keyed (return .alias (← anchorName))
  else if c == '&' then keyed (return .anchor (← anchorName))
  else if c == '!' then keyed (return .tag (← tag))
  else if c == '|' && !flow then blockScalar false
  else if c == '>' && !flow then blockScalar true
  else if c == '\'' || c == '"' then keyed (return .scalar (← quoted) false)
  else if beginsPlain flow c next then keyed (return .scalar (← plain) true)
  else malformed

/-- Takes tokens to the end of the text; the number bounds how many there are. -/
def all : Nat → Walk Unit
  | 0 => malformed
  | n + 1 => do
    skipToToken (← size)
    dropStaleKeys
    unwind (← get).column
    if (← get).rest.isEmpty then
      unwind (-1)
      dropKey
      emit .streamEnd
    else
      token
      all n

end Walk

/-- The characters that may occur in a YAML text. -/
def isAllowed (c : Char) : Bool :=
  let n := c.toNat
  n == 9 || n == 10 || n == 13 || (32 ≤ n && n ≤ 126) || n == 0x85
    || (0xa0 ≤ n && n ≤ 0xd7ff) || (0xe000 ≤ n && n ≤ 0xfffd) || 0x10000 ≤ n

/-- The state before anything is read. A mark of the byte order at the start is
skipped. -/
def Source.initial (text : Text) : Source :=
  let skipped := if text.head? == some '\ufeff' then 1 else 0
  { rest := text.drop skipped, index := skipped, line := 0, column := 0, flowLevel := 0,
    tokens := #[], indent := -1, outer := [], allowKey := true, keys := [] }

/-- The tokens of a YAML text. -/
def tokens (text : Text) : Except Fault (List Token) :=
  if text.all isAllowed then do
    let (_, s) ← (Walk.all (text.length + 2)).run (Source.initial text)
    return s.tokens.toList
  else .error .malformed

end Retag.Yaml
