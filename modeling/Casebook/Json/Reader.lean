import Casebook.Json.Basic
import Casebook.Decimal.Scaled
import Casebook.Text.Utf8

/-!
# Reading documents

A reader of document bytes that either yields a value or stops at the first byte it cannot use. A stop
is what is left of the input after it, so that the line of the stop is the number of line ends before
it, counted from one. Some faults are seen by looking at a byte and others by taking it; both count
that byte as before the stop.

The full reading checks everything where it stands. The outline reading checks only where tokens begin
and end, and marks a token that denotes nothing as faulty: records skip the members they do not know,
so such a token may stand there.
-/

namespace Casebook.Json

open Decimal (Binary64)

/-- How closely a reader looks at what it passes. -/
inductive Rigor where
  | full
  | outline
  deriving DecidableEq

/-- What is left of the input behind a stop. -/
abbrev Stop := Bytes

def byte (c : Char) : UInt8 := c.toNat.toUInt8

def stopAt : Bytes → Stop := List.tail

def isSpace (b : UInt8) : Bool :=
  b = 0x20 || b = 0x0a || b = 0x09 || b = 0x0d

def skip (bs : Bytes) : Bytes :=
  bs.dropWhile isSpace

def word (v : Json) : List Char → Bytes → Except Stop (Json × Bytes)
  | [], bs => .ok (v, bs)
  | _ :: _, [] => .error []
  | c :: cs, b :: bs => if b = byte c then word v cs bs else .error bs

/-! ### Numbers -/

def isDigitByte (b : UInt8) : Bool :=
  0x30 ≤ b && b ≤ 0x39

def takeDigits (bs : Bytes) : List Char × Bytes :=
  ((bs.takeWhile isDigitByte).map fun b => Char.ofNat b.toNat, bs.dropWhile isDigitByte)

/-- Takes the digits after a point, if there is one; at least one digit is needed. -/
def takePart : Bytes → Except Stop (Option (List Char) × Bytes)
  | [] => .ok (none, [])
  | b :: bs =>
    if b = byte '.' then
      match takeDigits bs with
      | ([], r) => .error (stopAt r)
      | (ds, r) => .ok (some ds, r)
    else .ok (none, b :: bs)

def takeSign : Bytes → Bool × Bytes
  | [] => (false, [])
  | b :: bs =>
    if b = byte '-' then (true, bs) else if b = byte '+' then (false, bs) else (false, b :: bs)

def takeExponent : Bytes → Except Stop (Option Int × Bytes)
  | [] => .ok (none, [])
  | b :: bs =>
    if b = byte 'e' || b = byte 'E' then
      let (negative, bs) := takeSign bs
      match takeDigits bs with
      | ([], r) => .error (stopAt r)
      | (ds, r) =>
        .ok (some (if negative then -(Decimal.value ds : Int) else Decimal.value ds), r)
    else .ok (none, b :: bs)

/-- Takes the digits before the point: a zero stands alone. -/
def takeWhole : Bytes → Except Stop (List Char × Bytes)
  | [] => .error []
  | b :: bs =>
    if b = byte '0' then
      match bs with
      | [] => .ok (['0'], [])
      | d :: r => if isDigitByte d then .error r else .ok (['0'], d :: r)
    else if isDigitByte b then .ok (takeDigits (b :: bs))
    else .error bs

/-- The value of a number: whole within sixty-four bits, else a double precision number near it. Digits
for which there is no room are left out, so the power of ten grows by those before the point. -/
def numberValue? (negative : Bool) (whole : List Char) (part : Option (List Char))
    (exponent : Option Int) : Option Json :=
  let n := Decimal.value whole
  if part.isNone && exponent.isNone && !negative && n < 1 <<< 64 then some (.int n)
  else if part.isNone && exponent.isNone && negative && n ≠ 0 && n ≤ 1 <<< 63 then some (.int (-n))
  else
    let (n, wholeLeft) := Decimal.gather 0 whole
    let (n, partLeft) := Decimal.gather n (part.getD [])
    let taken := (part.getD []).length - partLeft.length
    (Binary64.scaled? negative n (exponent.getD 0 + wholeLeft.length - taken)).map .float

def number (rigor : Rigor) (negative : Bool) (bs : Bytes) : Except Stop (Json × Bytes) := do
  let (whole, bs) ← takeWhole bs
  let (part, bs) ← takePart bs
  let (exponent, bs) ← takeExponent bs
  match numberValue? negative whole part exponent, rigor with
  | some v, _ => .ok (v, bs)
  | none, .full => .error bs
  | none, .outline => .ok (.faulty, bs)

/-! ### Texts -/

def hexValue? (b : UInt8) : Option Nat :=
  let n := b.toNat
  if 0x30 ≤ n && n ≤ 0x39 then some (n - 0x30)
  else if 0x41 ≤ n && n ≤ 0x46 then some (n - 0x37)
  else if 0x61 ≤ n && n ≤ 0x66 then some (n - 0x57)
  else none

def takeHex : Bytes → Except Stop (Nat × Bytes)
  | a :: b :: c :: d :: r =>
    match hexValue? a, hexValue? b, hexValue? c, hexValue? d with
    | some a, some b, some c, some d => .ok (a * 4096 + b * 256 + c * 16 + d, r)
    | _, _, _, _ => .error r
  | _ => .error []

def isHighHalf (n : Nat) : Bool := 0xd800 ≤ n && n ≤ 0xdbff

def isLowHalf (n : Nat) : Bool := 0xdc00 ≤ n && n ≤ 0xdfff

/-- The character of two halves. -/
def joinHalves (high low : Nat) : Nat :=
  (high - 0xd800) * 0x400 + (low - 0xdc00) + 0x10000

def bytesOfCode (n : Nat) : Bytes :=
  String.utf8EncodeChar (Char.ofNat n)

/-- Reads the second half of a character; without one there is no character. -/
def takeLowHalf (high : Nat) : Bytes → Except Stop (Option Bytes × Bytes)
  | [] => .error []
  | b :: bs =>
    if b ≠ byte '\\' then .error bs
    else match bs with
      | [] => .error []
      | u :: bs =>
        if u ≠ byte 'u' then .error bs
        else do
          let (low, r) ← takeHex bs
          if isLowHalf low then .ok (some (bytesOfCode (joinHalves high low)), r) else .error r

def takeCode (rigor : Rigor) (bs : Bytes) : Except Stop (Option Bytes × Bytes) := do
  let (n, r) ← takeHex bs
  if isHighHalf n then
    match takeLowHalf n r, rigor with
    | .ok a, _ => .ok a
    | .error s, .full => .error s
    | .error _, .outline => .ok (none, r)
  else if isLowHalf n then
    match rigor with
    | .full => .error r
    | .outline => .ok (none, r)
  else .ok (some (bytesOfCode n), r)

def takeEscape (rigor : Rigor) : Bytes → Except Stop (Option Bytes × Bytes)
  | [] => .error []
  | b :: bs =>
    if b = byte '"' || b = byte '\\' || b = byte '/' then .ok (some [b], bs)
    else if b = byte 'b' then .ok (some [0x08], bs)
    else if b = byte 'f' then .ok (some [0x0c], bs)
    else if b = byte 'n' then .ok (some [0x0a], bs)
    else if b = byte 'r' then .ok (some [0x0d], bs)
    else if b = byte 't' then .ok (some [0x09], bs)
    else if b = byte 'u' then takeCode rigor bs
    else .error bs

/-- Takes the bytes of a text behind its opening quote; `none` if some escape denotes nothing. -/
def takeText (rigor : Rigor) : Nat → Option Bytes → Bytes → Except Stop (Option Bytes × Bytes)
  | 0, _, bs => .error bs
  | _ + 1, _, [] => .error []
  | fuel + 1, acc, b :: bs =>
    if b = byte '"' then .ok (acc.map List.reverse, bs)
    else if b = byte '\\' then do
      let (piece, bs) ← takeEscape rigor bs
      takeText rigor fuel (acc.bind fun a => piece.map fun p => p.reverse ++ a) bs
    else if b < 0x20 then .error bs
    else takeText rigor fuel (acc.map (b :: ·)) bs

def readText (rigor : Rigor) (fuel : Nat) (bs : Bytes) : Except Stop (Option String × Bytes) := do
  let (content, r) ← takeText rigor fuel (some []) bs
  match content.bind Bytes.toText?, rigor with
  | some s, _ => .ok (some s, r)
  | none, .full => .error r
  | none, .outline => .ok (none, r)

/-! ### Values -/

/-- An object of members, or a faulty token if one of its names denotes nothing. -/
def objectOf (ms : List (Option String × Json)) : Json :=
  match ms.mapM fun m => m.1.map fun k => (k, m.2) with
  | some ms => .object ms
  | none => .faulty

mutual
/-- Reads a value; `room` bounds how many more arrays and objects may be open. -/
def value (rigor : Rigor) : Nat → Nat → Bytes → Except Stop (Json × Bytes)
  | 0, _, bs => .error bs
  | fuel + 1, room, bs =>
    match skip bs with
    | [] => .error []
    | b :: r =>
      if b = byte 'n' then word .null ['u', 'l', 'l'] r
      else if b = byte 't' then word (.bool true) ['r', 'u', 'e'] r
      else if b = byte 'f' then word (.bool false) ['a', 'l', 's', 'e'] r
      else if b = byte '-' then number rigor true r
      else if isDigitByte b then number rigor false (b :: r)
      else if b = byte '"' then do
        let (s, r) ← readText rigor fuel r
        .ok ((s.map Json.string).getD .faulty, r)
      else if b = byte '[' then
        if room = 0 && rigor = .full then .error r
        else match skip r with
          | [] => .error []
          | c :: r' =>
            if c = byte ']' then .ok (.array [], r')
            else do
              let (items, r) ← items rigor fuel (room - 1) (c :: r')
              .ok (.array items, r)
      else if b = byte '\x7b' then
        if room = 0 && rigor = .full then .error r
        else match skip r with
          | [] => .error []
          | c :: r' =>
            if c = byte '\x7d' then .ok (.object [], r')
            else do
              let (ms, r) ← members rigor fuel (room - 1) (c :: r')
              .ok (objectOf ms, r)
      else .error r

def items (rigor : Rigor) : Nat → Nat → Bytes → Except Stop (List Json × Bytes)
  | 0, _, bs => .error bs
  | fuel + 1, room, bs => do
    let (v, r) ← value rigor fuel room bs
    match skip r with
    | [] => .error []
    | c :: r =>
      if c = byte ']' then .ok ([v], r)
      else if c = byte ',' then do
        let (vs, r) ← items rigor fuel room r
        .ok (v :: vs, r)
      else .error r

def members (rigor : Rigor) : Nat → Nat → Bytes → Except Stop (List (Option String × Json) × Bytes)
  | 0, _, bs => .error bs
  | fuel + 1, room, bs =>
    match skip bs with
    | [] => .error []
    | q :: r =>
      if q ≠ byte '"' then .error r
      else do
        let (k, r) ← readText rigor fuel r
        match skip r with
        | [] => .error []
        | c :: r =>
          if c ≠ byte ':' then .error r
          else do
            let (v, r) ← value rigor fuel room r
            match skip r with
            | [] => .error []
            | c :: r =>
              if c = byte '\x7d' then .ok ([(k, v)], r)
              else if c = byte ',' then do
                let (ms, r) ← members rigor fuel room r
                .ok ((k, v) :: ms, r)
              else .error r
end

/-- The most arrays and objects that may be open at once. -/
def maxDepth : Nat := 127

def document (rigor : Rigor) (bs : Bytes) : Except Stop Json := do
  let (v, r) ← value rigor (2 * bs.length + 2) maxDepth bs
  match skip r with
  | [] => .ok v
  | _ :: r => .error r

def lineOf (input : Bytes) (stop : Stop) : Nat :=
  1 + (input.count 0x0a - stop.count 0x0a)

/-- Reads a whole body in full, or names the line at which reading stopped. -/
def read (bs : Bytes) : Except Nat Json :=
  (document .full bs).mapError (lineOf bs)

def outline? (bs : Bytes) : Option Json :=
  (document .outline bs).toOption

end Casebook.Json
