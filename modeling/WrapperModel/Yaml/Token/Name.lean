import WrapperModel.Yaml.Token.Basic

/-!
# `WrapperModel.Yaml.Token.Name`: anchors, tags and directives

An anchor is a run of letters, digits, hyphens and underscores. A tag is written in full
between `<` and `>`, or with a handle: `!suffix`, `!!suffix` or `!name!suffix`. Escapes
with a percent sign stand for bytes, which come in groups as the first one of a group says.
A directive is a line that begins with a percent sign and gives the version or a handle.
-/

set_option autoImplicit false

namespace WrapperModel.Yaml

/-! ### Anchors -/

/-- What may follow the name of an anchor, so that a longer name with other characters is refused
and not cut (`anchorName`). -/
def endsName : List Char → Bool
  | [] => true
  | c :: _ => isBlankOrBreak c || ['?', ':', ',', ']', '\x7d', '%', '@', '\x60'].contains c

/-- The name behind the mark of an anchor or a reference: characters of `isNameChar`, one at least,
up to one that `endsName` allows. -/
def anchorName (cursor : Cursor) : Except ReadError (List Char × Cursor) :=
  let name := cursor.chars.takeWhile isNameChar
  let next := cursor.advance name.length
  if name.isEmpty || !endsName next.chars then
    .error (.badToken "did not find expected alphabetic or numeric character")
  else .ok (name, next)

/-! ### Tags -/

/-- Characters of a tag: those of names (`isNameChar`) and some signs. Commas and square brackets
belong to tags written in full alone, since without the angle brackets they would be marks of a
collection. -/
def isTagChar (full : Bool) (c : Char) : Bool :=
  isNameChar c || [';', '/', '?', ':', '@', '&', '=', '+', '$', '.', '%', '!', '~', '*', '\'', '(',
    ')'].contains c || (full && [',', '[', ']'].contains c)

/-- The byte that two hexadecimal digits (`hexValue?`) behind a percent sign denote, and the rest of
the text. -/
def escapedByte? : List Char → Option (Nat × List Char)
  | '%' :: a :: b :: rest => do
    let a ← hexValue? a
    let b ← hexValue? b
    return (a * 16 + b, rest)
  | _ => none

/-- How many bytes a group has whose first byte is `byte`, as the bits of that byte say. A byte that
begins no group has no number. -/
def byteCount? (byte : Nat) : Option Nat :=
  if byte < 0x80 then some 1
  else if 0xC0 ≤ byte && byte < 0xE0 then some 2
  else if 0xE0 ≤ byte && byte < 0xF0 then some 3
  else if 0xF0 ≤ byte && byte < 0xF8 then some 4
  else none

/-- The further bytes of a group, `count` of them, and the rest. Each has to be written as an escape
(`escapedByte?`) and to be a byte of the inner kind. -/
def furtherBytes? : Nat → List Char → Option (List UInt8 × List Char)
  | 0, cs => some ([], cs)
  | count + 1, cs => do
    let (byte, rest) ← escapedByte? cs
    if 0x80 ≤ byte && byte < 0xC0 then
      let (bytes, rest) ← furtherBytes? count rest
      return (byte.toUInt8 :: bytes, rest)
    else none

/-- The bytes of the group of escapes that comes first, and the rest. The group need not be a
character, only have the shape that `byteCount?` and `furtherBytes?` ask for, so a tag is bytes and
no text. -/
def escapedBytes? (cs : List Char) : Option (List UInt8 × List Char) := do
  let (byte, rest) ← escapedByte? cs
  let count ← byteCount? byte
  let (bytes, rest) ← furtherBytes? (count - 1) rest
  return (byte.toUInt8 :: bytes, rest)

/-- The bytes of a tag behind `bytes`, which are written backwards, and what follows. The number
`bound` limits the characters that are left. -/
def tagBytesFrom (full : Bool) (bytes : List UInt8) :
    Nat → List Char → Except ReadError (List UInt8 × List Char)
  | _, [] => .ok (bytes.reverse, [])
  | 0, cs => .ok (bytes.reverse, cs)
  | bound + 1, c :: rest =>
    if c = '%' then
      match escapedBytes? (c :: rest) with
      | some (group, rest) => tagBytesFrom full (group.reverse ++ bytes) bound rest
      | none => .error (.badToken "did not find URI escaped octet")
    else if isTagChar full c then tagBytesFrom full (c.toNat.toUInt8 :: bytes) bound rest
    else .ok (bytes.reverse, c :: rest)

/-- The bytes of a tag at the cursor, which may be none. The cursor moves by the characters that
`tagBytesFrom` took, of which an escape has three for its byte. -/
def tagBytes (full : Bool) (cursor : Cursor) : Except ReadError (List UInt8 × Cursor) := do
  let (bytes, rest) ← tagBytesFrom full [] cursor.chars.length cursor.chars
  return (bytes, { cursor.advance (cursor.chars.length - rest.length) with chars := rest })

/-- The bytes of a tag at the cursor, as `tagBytes` reads them, of which there has to be one at
least: a handle with a name and the angle brackets have to be followed by something. -/
def someTagBytes (full : Bool) (cursor : Cursor) : Except ReadError (List UInt8 × Cursor) := do
  let (bytes, next) ← tagBytes full cursor
  if bytes.isEmpty then .error (.badToken "did not find expected tag URI")
  else return (bytes, next)

/-- The handle of a tag at the cursor: an exclamation mark, and a name with a second mark if they
follow. Without the second mark the name belongs to the suffix, which `tagAt` puts right. -/
def tagHandle (cursor : Cursor) : List Char × Cursor :=
  let name := (cursor.chars.drop 1).takeWhile isNameChar
  let next := cursor.advance (1 + name.length)
  if next.chars.head? = some '!' then ('!' :: name ++ ['!'], next.advance 1)
  else ('!' :: name, next)

/-- A tag at the cursor: its handle and its suffix. A tag that is a lone exclamation mark is
`Tag.mark` and has no handle, and neither has one in angle brackets. -/
def tagAt (inFlow : Bool) (cursor : Cursor) :
    Except ReadError (List Char × Tag × Cursor) := do
  let (handle, suffix, next) ←
    if (cursor.chars.drop 1).head? = some '<' then do
      let (bytes, next) ← someTagBytes true (cursor.advance 2)
      if next.chars.head? = some '>' then
        pure (([] : List Char), Tag.ofBytes bytes, next.advance 1)
      else .error (.badToken "did not find the expected '>'")
    else
      let (handle, next) := tagHandle cursor
      if handle.length ≥ 2 && handle.getLast? = some '!' then do
        let (bytes, next) ← someTagBytes false next
        pure (handle, Tag.ofBytes bytes, next)
      else do
        let (bytes, next) ← tagBytes false next
        let suffix := Tag.ofText (String.ofList (handle.drop 1)) ++ Tag.ofBytes bytes
        if suffix.isEmpty then pure ([], Tag.mark, next) else pure (['!'], suffix, next)
  match next.chars with
  | [] => .ok (handle, suffix, next)
  | c :: _ =>
    if isBlankOrBreak c || (inFlow && c = ',') then .ok (handle, suffix, next)
    else .error (.badToken "did not find expected whitespace or line break")

/-! ### Directives -/

/-- A number of a version, of nine digits at most. Which versions are understood is decided later
(`Reader.directives`). -/
def versionNumber (cursor : Cursor) : Except ReadError (Nat × Cursor) :=
  let digits := cursor.chars.takeWhile isDigit
  if digits.isEmpty then .error (.badToken "did not find expected version number")
  else if digits.length > 9 then .error (.badToken "found extremely long version number")
  else
    .ok (digits.foldl (fun value c => value * 10 + (c.toNat - 48)) 0, cursor.advance digits.length)

/-- The value of a version directive: two numbers (`versionNumber`) with a point between them. -/
def versionDirective (cursor : Cursor) : Except ReadError (Token × Cursor) := do
  let (major, next) ← versionNumber (cursor.skipWhile isBlank)
  if next.chars.head? = some '.' then
    let (minor, next) ← versionNumber (next.advance 1)
    return (.versionDirective major minor, next)
  else .error (.badToken "did not find expected digit or '.' character")

/-- The value of a tag directive: the handle (`tagHandle`) and what it stands for, which is written
as in a tag in full (`someTagBytes`). -/
def tagDirective (cursor : Cursor) : Except ReadError (Token × Cursor) := do
  let cursor := cursor.skipWhile isBlank
  if cursor.chars.head? ≠ some '!' then .error (.badToken "did not find expected '!'")
  else
    let (handle, next) := tagHandle cursor
    if handle.length ≥ 2 && handle.getLast? ≠ some '!' then
      .error (.badToken "did not find expected '!'")
    else if !next.chars.head?.any isBlank then
      .error (.badToken "did not find expected whitespace")
    else
      let (bytes, next) ← someTagBytes true (next.skipWhile isBlank)
      if beginsBlank next.chars then return (.tagDirective handle (Tag.ofBytes bytes), next)
      else .error (.badToken "did not find expected whitespace or line break")

/-- A directive whose percent sign is at the cursor, with the rest of its line: `versionDirective`
or `tagDirective`. Names of other directives are refused. -/
def directive (cursor : Cursor) : Except ReadError (Token × Cursor) := do
  let cursor := cursor.advance 1
  let name := cursor.chars.takeWhile isNameChar
  let next := cursor.advance name.length
  if name.isEmpty then .error (.badToken "could not find expected directive name")
  else if !beginsBlank next.chars then
    .error (.badToken "found unexpected non-alphabetical character")
  else
    let (token, next) ←
      if name = "YAML".toList then versionDirective next
      else if name = "TAG".toList then tagDirective next
      else .error (.badToken "found unknown directive name")
    let next := next.skipWhile isBlank
    let next := if next.chars.head? = some '#' then next.skipLine else next
    if next.atLineEnd then
      return (token, if next.chars.isEmpty then next else next.nextLine)
    else .error (.badToken "did not find expected comment or line break")

end WrapperModel.Yaml
