import TlvSchema.Json.Error
import TlvSchema.Json.Number

/-!
# Reading JSON texts

A text is read from left to right.  The first fault ends the reading; most faults are found at a
character that has not been read, and their place is then one byte after its start.

* `Parser` — a step of the reading
* `Parser.value` — reading a value, with a limit on how deep values lie inside each other
* `Json.parse` — the value that a text stands for
* `Json.parseArray` — the values of a text that should be an array
-/

namespace TlvSchema.Json

/-! ### Steps of reading -/

/-- What is left of a text, and the offset at which it starts. -/
structure Cursor where
  /-- The characters that have not been read. -/
  rest : List Char
  /-- The number of bytes that have been read. -/
  offset : Nat

/-- A fault and the offset of its place; an offset after the end of the text means the end. -/
structure Failure where
  /-- What is wrong. -/
  fault : Fault
  /-- The offset. -/
  offset : Nat

/-- A step of reading. -/
abbrev Parser := StateT Cursor (Except Failure)

namespace Parser

/-- End with a fault that lies some bytes after the cursor. -/
def failAfter {α : Type} (bytes : Nat) (fault : Fault) : Parser α :=
  fun cursor => .error ⟨fault, cursor.offset + bytes⟩

/-- End with a fault at the next character. -/
def fail {α : Type} (fault : Fault) : Parser α := failAfter 1 fault

/-- The next character. -/
def peek? : Parser (Option Char) := fun cursor => .ok (cursor.rest.head?, cursor)

/-- Read one character. -/
def skip : Parser Unit := fun cursor =>
  match cursor.rest with
  | [] => .ok ((), cursor)
  | c :: cs => .ok ((), ⟨cs, cursor.offset + c.utf8Size⟩)

/-- Read characters as long as they belong to a class. -/
def takeWhile (p : Char → Bool) : Parser (List Char) := fun cursor =>
  let taken := cursor.rest.takeWhile p
  .ok (taken, ⟨cursor.rest.dropWhile p, cursor.offset + Text.byteLength taken⟩)

/-- The characters that may stand between the tokens of a text. -/
def isBlank (c : Char) : Bool := c == ' ' || c == '\n' || c == '\t' || c == '\r'

/-- The next character that is not blank, after skipping those that are. -/
def peekToken? : Parser (Option Char) := do
  let _ ← takeWhile isBlank
  peek?

/-! ### Literals and numbers -/

/-- Read the letters of a literal that are left. -/
def literal : List Char → Parser Unit
  | [] => pure ()
  | expected :: letters => do
    match ← peek? with
    | none => fail .endInValue
    | some c =>
      if c = expected then
        skip
        literal letters
      else fail .expectedLiteral

/-- Read the digits of a number; there must be one. -/
def digits : Parser (List Char) := do
  match ← peek? with
  | none => fail .endInValue
  | some c => if c.isDigit then takeWhile Char.isDigit else fail .invalidNumber

/-- Read the digits before the point; only the number zero begins with a zero. -/
def wholeDigits : Parser (List Char) := fun cursor =>
  match digits cursor with
  | .error e => .error e
  | .ok ('0' :: _ :: _, _) => failAfter 2 .invalidNumber cursor
  | .ok result => .ok result

/-- Read the point and the digits after it, if there are any. -/
def fractionDigits : Parser (List Char) := do
  if (← peek?) = some '.' then
    skip
    digits
  else pure []

/-- Read the exponent after its letter; a significand other than zero does not bear a large one. -/
def exponentDigits (significand : Nat) : Parser (Bool × List Char) := do
  let sign ← peek?
  if sign = some '+' ∨ sign = some '-' then skip
  let negative := sign = some '-'
  let start ← get
  let read ← digits
  match digitsToOverflow? 0 read with
  | some count =>
    if significand = 0 ∨ negative then pure (negative, read)
    else (failAfter count .numberOutOfRange : Parser (Bool × List Char)).run' start
  | none => pure (negative, read)

/-- Read a number after its sign. -/
def number (negative : Bool) : Parser Json := do
  let whole ← wholeDigits
  let fraction ← fractionDigits
  let numeral : Numeral := ⟨negative, whole, fraction, none⟩
  let letter ← peek?
  let exponent ←
    if letter = some 'e' ∨ letter = some 'E' then do
      skip
      some <$> exponentDigits numeral.significand
    else pure none
  match { numeral with exponent }.value? with
  | some value => pure value
  | none => failAfter 0 .numberOutOfRange

/-! ### Strings -/

/-- The value of a hexadecimal digit. -/
def hexValue? (c : Char) : Option Nat :=
  if '0' ≤ c ∧ c ≤ '9' then some (c.toNat - '0'.toNat)
  else if 'a' ≤ c ∧ c ≤ 'f' then some (c.toNat - 'a'.toNat + 10)
  else if 'A' ≤ c ∧ c ≤ 'F' then some (c.toNat - 'A'.toNat + 10)
  else none

/-- The number that a row of hexadecimal digits stands for, read on from `value`. -/
def hexUnit? (value : Nat) : List Char → Option Nat
  | [] => some value
  | c :: cs => do
    let digit ← hexValue? c
    hexUnit? (16 * value + digit) cs

/-- Read four hexadecimal digits. -/
def hexUnit : Parser Nat := do
  let cursor ← get
  let next := cursor.rest.take 4
  if Text.byteLength next < 4 then failAfter 4 .endInString
  else match hexUnit? 0 next with
    | some unit =>
      skip; skip; skip; skip
      pure unit
    | none => failAfter 4 .invalidEscape

/-- Read a character of an escape that is still open. -/
def expectInEscape (expected : Char) : Parser Unit := do
  match ← peek? with
  | none => fail .endInString
  | some c => if c = expected then skip else fail .unfinishedSurrogate

/-- Read the number of a character after the letter `u`; two surrogates make one character. -/
def unicodeEscape : Parser Char := do
  let high ← hexUnit
  if 0xDC00 ≤ high ∧ high ≤ 0xDFFF then failAfter 0 .loneSurrogate
  else if 0xD800 ≤ high ∧ high ≤ 0xDBFF then
    expectInEscape '\\'
    expectInEscape 'u'
    let low ← hexUnit
    if 0xDC00 ≤ low ∧ low ≤ 0xDFFF then
      pure (Char.ofNat ((high - 0xD800) * 0x400 + (low - 0xDC00) + 0x10000))
    else failAfter 0 .loneSurrogate
  else pure (Char.ofNat high)

/-- Read what follows a backslash. -/
def escape : Parser Char := do
  match ← peek? with
  | none => fail .endInString
  | some '"' => skip; pure '"'
  | some '\\' => skip; pure '\\'
  | some '/' => skip; pure '/'
  | some 'b' => skip; pure '\x08'
  | some 'f' => skip; pure '\x0c'
  | some 'n' => skip; pure '\n'
  | some 'r' => skip; pure '\r'
  | some 't' => skip; pure '\t'
  | some 'u' => skip; unicodeEscape
  | some _ => fail .invalidEscape

/-- The characters that stand for themselves in a string. -/
def isPlain (c : Char) : Bool := c != '"' && c != '\\' && 0x20 ≤ c.toNat

/-- Read the characters of a string and the quote at its end.  The fuel is above the number of
characters left. -/
def stringBody : (fuel : Nat) → Parser (List Char)
  | 0 => fail .endInString
  | fuel + 1 => do
    let plain ← takeWhile isPlain
    match ← peek? with
    | none => fail .endInString
    | some '"' => skip; pure plain
    | some '\\' => do
      skip
      let c ← escape
      return plain ++ c :: (← stringBody fuel)
    | some _ => fail .controlCharacter

/-- Read a string after the quote at its start. -/
def string : Parser String := do
  let cursor ← get
  String.ofList <$> stringBody (cursor.rest.length + 1)

/-! ### Values -/

/-- Read the items of an array that are left, and its end.  The fuel is above the number of
characters left. -/
def moreItems (item : Parser Json) : (fuel : Nat) → Parser (List Json)
  | 0 => fail .endInList
  | fuel + 1 => do
    match ← peekToken? with
    | none => fail .endInList
    | some ']' => skip; pure []
    | some ',' =>
      skip
      match ← peekToken? with
      | none => fail .endInValue
      | some ']' => fail .trailingComma
      | some _ => do
        let value ← item
        return value :: (← moreItems item fuel)
    | some _ => fail .expectedListEnd

/-- Read the items of an array after its bracket. -/
def items (item : Parser Json) : Parser (List Json) := do
  match ← peekToken? with
  | none => fail .endInList
  | some ']' => skip; pure []
  | some _ => do
    let value ← item
    let cursor ← get
    return value :: (← moreItems item (cursor.rest.length + 1))

/-- Read an entry of an object, the quote of its key being next. -/
def entry (item : Parser Json) : Parser (String × Json) := do
  skip
  let key ← string
  match ← peekToken? with
  | none => fail .endInObject
  | some ':' => do
    skip
    let value ← item
    pure (key, value)
  | some _ => fail .expectedColon

/-- Read the entries of an object that are left, and its end.  The fuel is above the number of
characters left. -/
def moreEntries (item : Parser Json) : (fuel : Nat) → Parser (List (String × Json))
  | 0 => fail .endInObject
  | fuel + 1 => do
    match ← peekToken? with
    | none => fail .endInObject
    | some '}' => skip; pure []
    | some ',' =>
      skip
      match ← peekToken? with
      | none => fail .endInValue
      | some '"' => do
        let e ← entry item
        return e :: (← moreEntries item fuel)
      | some '}' => fail .trailingComma
      | some _ => fail .keyNotString
    | some _ => fail .expectedObjectEnd

/-- Read the entries of an object after its brace. -/
def entries (item : Parser Json) : Parser (List (String × Json)) := do
  match ← peekToken? with
  | none => fail .endInObject
  | some '}' => skip; pure []
  | some '"' => do
    let e ← entry item
    let cursor ← get
    return e :: (← moreEntries item (cursor.rest.length + 1))
  | some _ => fail .keyNotString

/-- Read a value, given how to read an array and an object whose first character is next. -/
def valueWith (array object : Parser Json) : Parser Json := do
  match ← peekToken? with
  | none => fail .endInValue
  | some 'n' => do skip; literal ['u', 'l', 'l']; pure .null
  | some 't' => do skip; literal ['r', 'u', 'e']; pure (.bool true)
  | some 'f' => do skip; literal ['a', 'l', 's', 'e']; pure (.bool false)
  | some '-' => do skip; number true
  | some '"' => do skip; .string <$> string
  | some '[' => array
  | some '{' => object
  | some c => if c.isDigit then number false else fail .expectedValue

/-- Read a value with at most `depth` arrays and objects inside each other. -/
def value : (depth : Nat) → Parser Json
  | 0 => valueWith (fail .nestingLimit) (fail .nestingLimit)
  | depth + 1 =>
    valueWith (do skip; .array <$> items (value depth))
      (do skip; .ofEntries <$> entries (value depth))

/-- Nothing but blanks may follow. -/
def finish : Parser Unit := do
  if (← peekToken?).isSome then fail .trailingCharacters

/-- The number of arrays and objects that may lie inside each other. -/
def nestingLimit : Nat := 127

/-- Read a whole text that stands for a value. -/
def document : Parser Json := do
  let result ← value nestingLimit
  finish
  pure result

/-- Read a value that should have been an array. -/
def notAnArray : Parser Json := do
  let unread (shown : Json) : Parser Json := pure shown
  let found ← valueWith (unread (.array [])) (unread (.object []))
  failAfter 0 (.mismatch (.kind found "a sequence"))

/-- Read a whole text that stands for an array. -/
def arrayDocument : Parser (List Json) := do
  match ← peekToken? with
  | some '[' => do
    skip
    let result ← items (value (nestingLimit - 1))
    finish
    pure result
  | _ => do
    let _ ← notAnArray
    pure []

/-- The result of reading a whole text, with the place of a fault as a position. -/
def read {α : Type} (parser : Parser α) (text : String) : Except Json.Error α :=
  match parser.run ⟨text.toList, 0⟩ with
  | .ok (result, _) => .ok result
  | .error failure => .error ⟨failure.fault, some (Text.positionAt text.toList failure.offset)⟩

end Parser

/-- The value that a text stands for. -/
def parse (text : String) : Except Error Json := Parser.document.read text

/-- The values of the array that a text stands for. -/
def parseArray (text : String) : Except Error (List Json) := Parser.arrayDocument.read text

end TlvSchema.Json
