import BuildEnv.Charset.Label
import BuildEnv.Charset.Utf16
import BuildEnv.Message
import BuildEnv.Path.Basic

/-!
# Decoding build logs

The text of a file in a charset.  A byte order mark says what the charset
really is, and malformed sequences become U+FFFD, with a warning.

All of it is a function of the decoder of the East Asian charsets.
-/

namespace BuildEnv

namespace Charset

/-- The character of a byte in a table of the upper half. -/
def singleByteChar (table : Text) (b : Nat) : Option Char :=
  if b < 0x80 then some (Char.ofNat b)
  else match table[b - 0x80]? with
    | some c => if c == '\uFFFD' then none else some c
    | none => none

/-- The decoder of a program that has no tables: what is ASCII is read, and
each other byte is malformed. -/
def EastAsian.asciiOnly : EastAsian.Decoder :=
  fun _ bytes => bytes.map fun b => if b < 0x80 then some (Char.ofNat b.toNat) else none

/-- The characters of some bytes; `none` is a malformed sequence. -/
def Scheme.decode (eastAsian : EastAsian.Decoder) : Scheme → Bytes → List (Option Char)
  | .utf8, bytes => Utf8.decode bytes
  | .utf16 bigEndian, bytes => Utf16.decode bigEndian bytes
  | .singleByte table, bytes => bytes.map fun b => singleByteChar table b.toNat
  | .userDefined, bytes => bytes.map fun b =>
      some (Char.ofNat (if b < 0x80 then b.toNat else 0xF700 + b.toNat))
  | .replacement, bytes => if bytes.isEmpty then [] else [none]
  | .eastAsian charset, bytes => eastAsian charset bytes

/-- The charset that a byte order mark tells, and the bytes after it. -/
def ofMark? : Bytes → Option (Charset × Bytes)
  | 0xEF :: 0xBB :: 0xBF :: rest => some (utf8, rest)
  | 0xFF :: 0xFE :: rest => some (utf16LE, rest)
  | 0xFE :: 0xFF :: rest => some (utf16BE, rest)
  | _ => none

/-- What decoding gives. -/
structure Decoded where
  text : Text
  /-- The charset that was used. -/
  charset : Charset
  /-- Whether a malformed sequence was replaced. -/
  malformed : Bool
  deriving DecidableEq, Repr

/-- The text of some bytes. -/
def decode (c : Charset) (eastAsian : EastAsian.Decoder) (bytes : Bytes) : Decoded :=
  let (used, rest) := (ofMark? bytes).getD (c, bytes)
  let chars := used.scheme.decode eastAsian rest
  ⟨chars.map (·.getD '\uFFFD'), used, chars.contains none⟩

/-- The warning about a log that had to be repaired. -/
def malformedMessage (file : Path) (used : Charset) : Message :=
  ⟨.warning, "Build log ".toList ++ file.text ++ " is not valid ".toList ++ used.name
    ++ ", malformed sequences were replaced".toList⟩

/-- The text of a log file. -/
def readLog (file : Path) (c : Charset) (eastAsian : EastAsian.Decoder) (bytes : Bytes) :
    Logged Text :=
  let d := c.decode eastAsian bytes
  ⟨d.text, if d.malformed then [malformedMessage file d.charset] else []⟩

end Charset

end BuildEnv
