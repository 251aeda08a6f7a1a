import AskSql.Sqlite.Path
import AskSql.Text.Hexadecimal
import AskSql.Text.Search
import AskSql.Text.Utf8

/-!
Addresses of files.

An address starts with `file:`. Its path may follow an authority, and after it come options,
behind a question mark and with ampersands between them, and a fragment, behind a number sign,
which does not count. The authority is empty or `localhost`. In the path and in the options, a
percent sign with two hexadecimal digits is one byte, and the byte zero ends the part that it
stands in.

* `Address`: the parts of an address.
* `Address.read`: the parts of an address, given as a text.
* `AddressFault`: what is wrong with an address.
-/

namespace AskSql.Sqlite

/-- What is wrong with an address. -/
inductive AddressFault where
  | authority (given : String)
  | unknownAccess (given : String)
  | forbiddenAccess (given : String)
  | unknownCache (given : String)
  | unknownLayer (given : String)

/-- What is wrong with an address, in words. -/
def AddressFault.message : AddressFault → String
  | authority given => "invalid uri authority: " ++ given
  | unknownAccess given => "no such access mode: " ++ given
  | forbiddenAccess given => "access mode not allowed: " ++ given
  | unknownCache given => "no such cache mode: " ++ given
  | unknownLayer given => "no such vfs: " ++ given

/-- An option of an address. Its value may be a path, and so any bytes. -/
structure AddressOption where
  name : String
  value : List UInt8

/-- The parts of an address. -/
structure Address where
  path : Path
  options : List AddressOption

namespace Address

/-- The bytes of a part of an address, up to a byte that is zero. -/
def partBytes : List Char → List UInt8
  | '%' :: high :: low :: rest =>
      match Text.hexByte high low with
      | some byte => if byte = 0 then [] else byte :: partBytes rest
      | none => String.utf8EncodeChar '%' ++ partBytes (high :: low :: rest)
  | c :: rest => String.utf8EncodeChar c ++ partBytes rest
  | [] => []

/-- Bytes as a text. -/
def textOf (bytes : List UInt8) : String := String.ofList (Text.Utf8.decode bytes)

/-- A text up to the first occurrence of a character, and what follows it. -/
def cutAt (c : Char) (s : List Char) : List Char × List Char :=
  (s.takeWhile (· != c), (s.dropWhile (· != c)).drop 1)

/-- The address after the authority. -/
def afterAuthority : List Char → Except AddressFault (List Char)
  | '/' :: '/' :: rest =>
      let authority := String.ofList (rest.takeWhile (· != '/'))
      if authority = "" ∨ authority = "localhost" then .ok (rest.dropWhile (· != '/'))
      else .error (.authority authority)
  | rest => .ok rest

/-- The option of a name and a value with the sign of equality between them. -/
def readOption (s : List Char) : AddressOption :=
  ⟨textOf (partBytes (cutAt '=' s).1), partBytes (cutAt '=' s).2⟩

/-- The options of an address; one without a name does not count. -/
def readOptions (query : List Char) : List AddressOption :=
  ((Text.pieces ['&'] query).map readOption).filter fun option => option.name != ""

/-- The parts of an address, given without the `file:` at its front. -/
def read (s : List Char) : Except AddressFault Address := do
  let s ← afterAuthority s
  let (path, query) := cutAt '?' (cutAt '#' s).1
  return ⟨partBytes path, readOptions query⟩

end Address

end AskSql.Sqlite
