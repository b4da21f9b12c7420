import DocumentSearch.Binary64.Text
import DocumentSearch.Json.Basic

/-!
Reading JSON text. A number without a point or a power of ten that fits 64 bits, unsigned or signed,
is a whole number; every other number is the nearest float, and a text with a number past the
largest float is refused. Of members with one name the last value counts, at the first place.
-/

namespace DocumentSearch.Json

namespace Parser

/-- A result with the characters after it. -/
abbrev Reader (α : Type) := List Char → Option (α × List Char)

/-- Whether a character is blank space between the parts of a JSON text. -/
def isGap (c : Char) : Bool := c == ' ' || c == '\t' || c == '\n' || c == '\r'

/-- The characters from the next part on. -/
def skipGap (chars : List Char) : List Char := chars.dropWhile isGap

def hexValue? (c : Char) : Option Nat :=
  if '0' ≤ c ∧ c ≤ '9' then some (c.toNat - '0'.toNat)
  else if 'a' ≤ c ∧ c ≤ 'f' then some (c.toNat - 'a'.toNat + 10)
  else if 'A' ≤ c ∧ c ≤ 'F' then some (c.toNat - 'A'.toNat + 10)
  else none

def readHex : Reader Nat
  | a :: b :: c :: d :: rest =>
    match hexValue? a, hexValue? b, hexValue? c, hexValue? d with
    | some a, some b, some c, some d => some (((a * 16 + b) * 16 + c) * 16 + d, rest)
    | _, _, _, _ => none
  | _ => none

/-- The character that an escape by number stands for. A pair of surrogates is one character, and a
lone surrogate none. -/
def readNumbered (chars : List Char) : Option (Char × List Char) :=
  match readHex chars with
  | none => none
  | some (unit, rest) =>
    if 0xD800 ≤ unit ∧ unit < 0xDC00 then
      match rest with
      | '\\' :: 'u' :: rest =>
        match readHex rest with
        | some (low, rest) =>
          if 0xDC00 ≤ low ∧ low < 0xE000 then
            some (Char.ofNat (0x10000 + (unit - 0xD800) * 0x400 + (low - 0xDC00)), rest)
          else none
        | none => none
      | _ => none
    else if 0xDC00 ≤ unit ∧ unit < 0xE000 then none
    else some (Char.ofNat unit, rest)

/-- The character that an escape by letter stands for. -/
def lettered? : Char → Option Char
  | '"' => some '"'
  | '\\' => some '\\'
  | '/' => some '/'
  | 'b' => some '\x08'
  | 'f' => some '\x0c'
  | 'n' => some '\n'
  | 'r' => some '\r'
  | 't' => some '\t'
  | _ => none

/-- The rest of a string, after its opening quote; `fuel` bounds the number of characters. -/
def readString : (fuel : Nat) → (done : List Char) → Reader String
  | 0, _, _ => none
  | _ + 1, _, [] => none
  | _ + 1, done, '"' :: rest => some (String.ofList done.reverse, rest)
  | fuel + 1, done, '\\' :: 'u' :: rest =>
    match readNumbered rest with
    | some (c, rest) => readString fuel (c :: done) rest
    | none => none
  | fuel + 1, done, '\\' :: c :: rest =>
    match lettered? c with
    | some c => readString fuel (c :: done) rest
    | none => none
  | fuel + 1, done, c :: rest =>
    if c = '\\' ∨ c.toNat < 0x20 then none else readString fuel (c :: done) rest

/-- The number that the parts of a number text stand for. -/
def number? (negative : Bool) (whole fraction : List Char) (power : Option Int) :
    Option Number :=
  let value := Text.digitsValue whole
  let fits := if negative then 0 < value ∧ value ≤ Nat.pow 2 63 else value < Nat.pow 2 64
  if fraction.isEmpty ∧ power.isNone ∧ fits then
    some (.int (Text.signed negative value))
  else
    let nearest := Binary64.ofDecimal negative (Text.digitsValue (whole ++ fraction))
      (power.getD 0 - fraction.length)
    if finite : nearest.isFinite = true then some (.float nearest finite) else none

/-- A number: no superfluous leading zero, and digits on both sides of a point. -/
def readNumber (chars : List Char) : Option (Number × List Char) :=
  let (negative, unsigned) := match chars with
    | '-' :: rest => (true, rest)
    | _ => (false, chars)
  let (whole, rest) := unsigned.span Char.isDigit
  if whole.isEmpty ∨ (whole.head? = some '0' ∧ 1 < whole.length) then none
  else
    let (pointed, fraction, rest) := match rest with
      | '.' :: digits => (true, digits.takeWhile Char.isDigit, digits.dropWhile Char.isDigit)
      | _ => (false, [], rest)
    if pointed ∧ fraction.isEmpty then none
    else
      let (ending, after) := rest.span fun c => c.isDigit || c ∈ ['e', 'E', '+', '-']
      let power := if ending.isEmpty then some none else (Binary64.powerOfText? ending).map some
      match power with
      | none => none
      | some power => (number? negative whole fraction power).map (·, after)

/-- The rest of the text after a given word. -/
def readWord (word : String) (chars : List Char) : Option (List Char) :=
  if word.toList.isPrefixOf chars then some (chars.drop word.length) else none

mutual

/-- A value; `fuel` bounds the depth and the length of what is read. -/
def readValue : (fuel : Nat) → Reader Json
  | 0, _ => none
  | fuel + 1, chars =>
    match skipGap chars with
    | '\x7b' :: rest =>
      match skipGap rest with
      | '\x7d' :: rest => some (.obj [], rest)
      | rest => (readMembers fuel rest).map fun (members, rest) =>
        (.obj (Members.ofPairs members), rest)
    | '[' :: rest =>
      match skipGap rest with
      | ']' :: rest => some (.arr [], rest)
      | rest => (readItems fuel rest).map fun (items, rest) => (.arr items, rest)
    | '"' :: rest => (readString fuel [] rest).map fun (s, rest) => (.str s, rest)
    | 'n' :: rest => (readWord "ull" rest).map (.null, ·)
    | 't' :: rest => (readWord "rue" rest).map (.bool true, ·)
    | 'f' :: rest => (readWord "alse" rest).map (.bool false, ·)
    | rest => (readNumber rest).map fun (n, rest) => (.num n, rest)

def readItems : (fuel : Nat) → Reader (List Json)
  | 0, _ => none
  | fuel + 1, chars =>
    match readValue fuel chars with
    | none => none
    | some (item, rest) =>
      match skipGap rest with
      | ',' :: rest => (readItems fuel rest).map fun (items, rest) => (item :: items, rest)
      | ']' :: rest => some ([item], rest)
      | _ => none

def readMembers : (fuel : Nat) → Reader (List (String × Json))
  | 0, _ => none
  | fuel + 1, chars =>
    match skipGap chars with
    | '"' :: rest =>
      match readString fuel [] rest with
      | none => none
      | some (name, rest) =>
        match skipGap rest with
        | ':' :: rest =>
          match readValue fuel rest with
          | none => none
          | some (value, rest) =>
            match skipGap rest with
            | ',' :: rest =>
              (readMembers fuel rest).map fun (members, rest) => ((name, value) :: members, rest)
            | '\x7d' :: rest => some ([(name, value)], rest)
            | _ => none
        | _ => none
    | _ => none

end

end Parser

/-- The value that a whole text stands for. Two calls at the most begin before a further character
is read, so this much fuel never runs out. -/
def parse? (text : String) : Option Json :=
  match Parser.readValue (2 * text.length + 2) text.toList with
  | some (value, rest) => if (Parser.skipGap rest).isEmpty then some value else none
  | none => none

end DocumentSearch.Json
