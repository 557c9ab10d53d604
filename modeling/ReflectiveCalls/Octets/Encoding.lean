import ReflectiveCalls.Octets.Utf16
import ReflectiveCalls.Octets.Utf8

/-!
# Octets.Encoding — text in blocks of octets

- `Encoding`: the encodings, and `Encoding.ofName?`, which finds one by any of its names.
- `Codec`: an encoding that is installed beside those that have a name here.
- `Decoder`: an encoding in the middle of a text, with the octets that the block before has cut off.
- `Decoder.feed`: the characters of the next block, and the decoder after it.
-/

namespace ReflectiveCalls
namespace Octets

/-! ## Encodings and their names -/

/-- An encoding that is installed, as far as reading with it goes.  Between blocks it remembers a
number and keeps octets that the block before has cut off. -/
structure Codec where
  /-- The number at the start of a text. -/
  fresh : Nat
  /-- The characters of the octets that are there, the number to remember and the octets to keep. -/
  decode (memory : Nat) (last : Bool) (data : List UInt8) :
    Except TextFault (List Char × Nat × List UInt8)
  /-- The last call gives out everything, so that another one after it has nothing to give. -/
  flushes {memory after : Nat} {data kept : List UInt8} {text : List Char}
    (h : decode memory true data = .ok (text, after, kept)) :
    ∃ later, decode after true kept = .ok ([], later)

/-- The encodings of text. -/
inductive Encoding
  | utf8
  /-- UTF-8 that may begin with a mark, which is no part of the text. -/
  | utf8Marked
  /-- UTF-16 whose octet order is given by a mark at its start. -/
  | utf16
  | utf16In (order : Utf16.Order)
  | ascii
  | latin1
  /-- An installed encoding, with the number that it remembers. -/
  | installed (codec : Codec) (memory : Nat)

/-- What an encoding is called: its own name, and other names for it, all in normal form. -/
structure Encoding.Naming where
  encoding : Encoding
  own : String
  others : List String

/-- What the encodings are called. -/
def Encoding.namings : List Encoding.Naming :=
  [ ⟨.utf8, "utf_8", ["utf8", "u8", "utf", "utf8_ucs2", "utf8_ucs4", "cp65001"]⟩,
    ⟨.utf8Marked, "utf_8_sig", []⟩,
    ⟨.utf16, "utf_16", ["utf16", "u16"]⟩,
    ⟨.utf16In .little, "utf_16_le", ["utf_16le", "unicodelittleunmarked"]⟩,
    ⟨.utf16In .big, "utf_16_be", ["utf_16be", "unicodebigunmarked"]⟩,
    ⟨.ascii, "ascii",
      ["646", "ansi_x3.4_1968", "ansi_x3_4_1968", "ansi_x3.4_1986", "cp367", "csascii", "ibm367",
        "iso646_us", "iso_646.irv_1991", "iso_ir_6", "us", "us_ascii"]⟩,
    ⟨.latin1, "latin_1",
      ["8859", "cp819", "csisolatin1", "ibm819", "iso8859", "iso8859_1", "iso_8859_1",
        "iso_8859_1_1987", "iso_ir_100", "l1", "latin", "latin1"]⟩ ]

/-- The name of the encoding that is used unless another one is asked for. -/
def Encoding.defaultName : String := "utf-8"

/-- The words of a name: its runs of letters, digits and points, in lower case. -/
def nameWords (current : List Char) : List Char → List (List Char)
  | [] => if current.isEmpty then [] else [current.reverse]
  | c :: rest =>
      if c.isAlphanum || c = '.' then nameWords (c.toLower :: current) rest
      else if current.isEmpty then nameWords [] rest
      else current.reverse :: nameWords [] rest

/-- The normal form of a name: its words joined by underscores. -/
def normalName (name : String) : String :=
  "_".intercalate ((nameWords [] name.toList).map String.ofList)

/-- Is an encoding called by a name?  In the other names, but not in its own, the words may also be
joined by points. -/
def Encoding.Naming.has (naming : Encoding.Naming) (name : String) : Bool :=
  naming.own == name || naming.others.contains name ||
    naming.others.contains (String.ofList (name.toList.map fun c => if c = '.' then '_' else c))

/-- The encoding of a name, unless it is an installed one. -/
def Encoding.ofName? (name : String) : Option Encoding :=
  (Encoding.namings.find? (·.has (normalName name))).map (·.encoding)

/-! ## Decoding block by block -/

/-- An encoding in the middle of a text. -/
structure Decoder where
  encoding : Encoding
  /-- The octets that the block before has cut off. -/
  kept : List UInt8

/-- The decoder at the start of a text. -/
def Decoder.start (encoding : Encoding) : Decoder := ⟨encoding, []⟩

/-- The mark of UTF-8. -/
def utf8Mark : List UInt8 := [0xEF, 0xBB, 0xBF]

/-- The characters of a block in ASCII. -/
def asciiText (position : Nat) (done : List Char) : List UInt8 → Except Fault (List Char)
  | [] => .ok done.reverse
  | octet :: rest =>
      if octet < 0x80 then asciiText (position + 1) (Char.ofNat octet.toNat :: done) rest
      else .error ⟨"ascii", octet, position, 1, .notAscii⟩

/-- The outcome of decoding a block, the octets handed back being kept for the next one. -/
def Decoder.keep (encoding : Encoding) (outcome : Except Fault (List Char × List UInt8)) :
    Except TextFault (List Char × Decoder) :=
  match outcome with
  | .ok (text, kept) => .ok (text, ⟨encoding, kept⟩)
  | .error fault => .error (.octets fault)

/-- The first block of UTF-16 with a mark: the mark settles the order and is no part of the text.
Without a mark the octets are still tried in little-endian order, and a fault in them comes first.
-/
def feedMarked (last : Bool) (data : List UInt8) : Except TextFault (List Char × Decoder) :=
  match data with
  | 0xFF :: 0xFE :: rest => Decoder.keep (.utf16In .little) (Utf16.decode .little last 2 rest)
  | 0xFE :: 0xFF :: rest => Decoder.keep (.utf16In .big) (Utf16.decode .big last 2 rest)
  | data =>
      match Utf16.decode .little last 0 data with
      | .error fault => .error (.octets fault)
      | .ok (text, kept) =>
          if kept.length + 2 ≤ data.length then .error .noByteOrderMark
          else .ok (text, ⟨.utf16, kept⟩)

/-- The characters of the next block, and the decoder after it.  Fewer octets than a mark that agree
with it are held back in UTF-8 with a mark, and dropped at the end. -/
def Decoder.feed (decoder : Decoder) (last : Bool) (block : List UInt8) :
    Except TextFault (List Char × Decoder) :=
  let data := decoder.kept ++ block
  match decoder.encoding with
  | .utf8 => Decoder.keep .utf8 (Utf8.decode last data)
  | .utf8Marked =>
      if data.length < 3 && data.isPrefixOf utf8Mark then .ok ([], ⟨.utf8Marked, data⟩)
      else if utf8Mark.isPrefixOf data then Decoder.keep .utf8 (Utf8.decode last (data.drop 3))
      else Decoder.keep .utf8 (Utf8.decode last data)
  | .utf16 => feedMarked last data
  | .utf16In order => Decoder.keep (.utf16In order) (Utf16.decode order last 0 data)
  | .ascii =>
      match asciiText 0 [] data with
      | .ok text => .ok (text, ⟨.ascii, []⟩)
      | .error fault => .error (.octets fault)
  | .latin1 => .ok (data.map fun octet => Char.ofNat octet.toNat, ⟨.latin1, []⟩)
  | .installed codec memory =>
      match codec.decode memory last data with
      | .ok (text, after, kept) => .ok (text, ⟨.installed codec after, kept⟩)
      | .error fault => .error fault

end Octets
end ReflectiveCalls
