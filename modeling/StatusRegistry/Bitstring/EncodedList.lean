import StatusRegistry.Bitstring.Packing
import StatusRegistry.Bytes.Base64Url
import StatusRegistry.Gzip
import StatusRegistry.Text.Blank

/-!
# Bitstrings as text

A bitstring is published as text: a letter `u` that names the alphabet, then the compressed bytes
in that alphabet.

* `encode` is a function of the bytes alone;
* `decode` accepts blanks around the text, a missing letter and padding at the end, and nothing
  else that `encode` does not write; a compressed member never begins with the bytes that the
  letter would stand for, so the letter in front is never part of the bytes.
-/

set_option autoImplicit false

namespace StatusRegistry.Bitstring

open Text

/-- The letter in front of the text. -/
def alphabetMark : Char := 'u'

/-- The greatest number of bytes that a published text may stand for. -/
def maxDecodedLength : Nat := 67108864

/-- The text of a bitstring. -/
def encode (data : ByteArray) : String :=
  String.singleton alphabetMark ++ Base64Url.encode (Gzip.compress data)

/-- The list without the letter in front, if it is there. -/
def dropMark : List Char → List Char
  | [] => []
  | c :: cs => if c = alphabetMark then cs else c :: cs

/-- The characters that carry the bytes: without blanks around, mark and padding. -/
def payload (text : String) : List Char :=
  dropEnd (· == '=') (dropMark (trim text.toList))

/-- What a fault of the compressed bytes is for the text. -/
def ofFault (limit : Nat) : Gzip.Fault → CodecError
  | .tooLong => .tooLarge limit
  | .empty => .decompress "empty GZIP stream"
  | .cutShort => .decompress "unexpected end of file"
  | .invalidHeader => .decompress "invalid gzip header"
  | .fieldTooLong => .decompress "gzip header field too long"
  | .mismatch => .decompress "corrupt gzip stream does not have a matching checksum"
  | .corruptData => .decompress "corrupt deflate stream"
  | .incompleteData => .decompress "incomplete deflate stream"

/-- The bitstring that a text stands for. -/
def decode (text : String) : Except CodecError ByteArray :=
  match Base64Url.decode? (payload text) with
  | none => .error (.base64 "invalid Base64 encoding")
  | some bytes =>
    match Gzip.expand maxDecodedLength bytes with
    | .ok data => .ok data
    | .error fault => .error (ofFault maxDecodedLength fault)

end StatusRegistry.Bitstring
