import PanelQuery.Decimal.Numeral
import PanelQuery.Text.Blank

/-!
Addresses to listen on: a numeric host and a port. A host of the sixth version stands in brackets
when it is written; without them the last colon is taken for the one in front of the port. Written
out, an address has one form: the longest run of zero groups is left out, the first of several.
-/

namespace PanelQuery

inductive Host where
  /-- An address of four octets as one number. -/
  | four (address : Nat)
  /-- Eight groups of sixteen bits, and the zone they belong to. -/
  | six (groups : List Nat) (zone : Nat)
  deriving DecidableEq, Repr

structure Endpoint where
  host : Host
  port : Nat
  deriving DecidableEq, Repr

namespace Endpoint

/-! ## Numbers -/

/-- The digits of a number below a base of at most sixteen; at least one of them. -/
def numberOf? (base : Nat) (cs : List Char) : Option Nat :=
  if cs.isEmpty then none
  else cs.foldlM (fun n c =>
    let d :=
      if c.isDigit then c.toNat - 48
      else if 'a' ≤ c.toLower ∧ c.toLower ≤ 'f' then c.toLower.toNat - 87
      else base
    if d < base then some (n * base + d) else none) 0

/-- A port: decimal digits, with a plus in front if `signed`. -/
def portOf? (signed : Bool) (cs : List Char) : Option Nat := do
  let digits := match signed, cs with
    | true, '+' :: rest => rest
    | _, rest => rest
  let port ← numberOf? 10 digits
  if port < 65536 then some port else none

/-! ## Hosts of the fourth version -/

/-- A part of an address: hexadecimal after `0x`, octal after a leading zero, else decimal. -/
def partOf? : List Char → Option Nat
  | '0' :: c :: rest =>
    if c = 'x' ∨ c = 'X' then numberOf? 16 rest else numberOf? 8 (c :: rest)
  | cs => numberOf? 10 cs

/-- Octets followed by one number that fills the rest of the address. -/
def fill? : Nat → List Nat → Option Nat
  | _, [] => none
  | width, [last] => if last < Nat.pow 256 width then some last else none
  | width, octet :: parts =>
    if octet < 256 ∧ 1 < width then
      (fill? (width - 1) parts).map (octet * Nat.pow 256 (width - 1) + ·)
    else none

/-- An address of one to four parts. -/
def fourOf? (cs : List Char) : Option Nat := do
  fill? 4 (← (Text.splitOnChar '.' cs).mapM partOf?)

/-- Four decimal octets without leading zeros. -/
def dottedOf? (cs : List Char) : Option Nat :=
  let parts := Text.splitOnChar '.' cs
  if parts.length = 4 ∧ parts.all (fun p => p.length = 1 ∨ p.head? ≠ some '0') then
    (parts.mapM (numberOf? 10)).bind (fill? 4)
  else none

/-! ## Hosts of the sixth version -/

/-- One group, of four digits at most. -/
def groupOf? (cs : List Char) : Option Nat := if cs.length ≤ 4 then numberOf? 16 cs else none

/-- The groups of parts that stood between colons; the last part may be a dotted address. -/
def groupsOf? : List (List Char) → Option (List Nat)
  | [] => some []
  | [last] => match dottedOf? last with
    | some n => some [n / 65536, n % 65536]
    | none => (groupOf? last).map ([·])
  | part :: parts => do
    let group ← groupOf? part
    return group :: (← groupsOf? parts)

/-- The parts between colons; there are none in an empty text. -/
def partsOf (cs : List Char) : List (List Char) :=
  if cs.isEmpty then [] else Text.splitOnChar ':' cs

/-- The texts around the first double colon. -/
def splitGap : List Char → Option (List Char × List Char)
  | ':' :: ':' :: rest => some ([], rest)
  | c :: rest => (splitGap rest).map fun (front, back) => (c :: front, back)
  | [] => none

/-- Eight groups, or fewer around a gap of zeros. Hexadecimal groups alone stand before a gap. -/
def sixOf? (cs : List Char) : Option (List Nat) :=
  match splitGap cs with
  | none => do
    let groups ← groupsOf? (partsOf cs)
    if groups.length = 8 then some groups else none
  | some (front, back) => do
    let head ← (partsOf front).mapM groupOf?
    let tail ← groupsOf? (partsOf back)
    if head.length + tail.length < 8 then
      some (head ++ List.replicate (8 - head.length - tail.length) 0 ++ tail)
    else none

/-! ## Endpoints -/

/-- A host of the sixth version, and its zone after a per-cent sign. -/
def zonedOf? (cs : List Char) : Option Host := do
  let (host, zone) ← match Text.splitFirst '%' cs with
    | none => some (cs, 0)
    | some (host, zone) => (numberOf? 10 zone).map (host, ·)
  let groups ← sixOf? host
  if zone < 4294967296 then some (.six groups zone) else none

/-- A host in brackets, a colon and a port. -/
def bracketed? (cs : List Char) : Option Endpoint := do
  let (inside, rest) ← Text.splitFirst ']' cs
  match rest with
  | ':' :: port => some ⟨← zonedOf? inside, ← portOf? false port⟩
  | _ => none

/-- A host, a colon and a port. -/
def unbracketed? (cs : List Char) : Option Endpoint := do
  let (host, port) ← Text.splitLast ':' cs
  let host ← match fourOf? host with
    | some address => some (Host.four address)
    | none => zonedOf? host
  return ⟨host, ← portOf? true port⟩

def ofText? (s : String) : Option Endpoint :=
  match s.toList with
  | '[' :: rest => bracketed? rest
  | cs => unbracketed? cs

/-! ## Writing -/

def dotted (n : Nat) : String :=
  Text.join "." ([n / 16777216, n / 65536 % 256, n / 256 % 256, n % 256].map toString)

def hexadecimal (n : Nat) : String := String.ofList (Nat.toDigits 16 n)

/-- The longest run of zeros and where it starts, the first of several. `here` is the length of the
run in front of `position`. -/
def longestZeros (position here : Nat) (best : Nat × Nat) : List Nat → Nat × Nat
  | [] => best
  | 0 :: groups =>
    longestZeros (position + 1) (here + 1)
      (if best.2 < here + 1 then (position - here, here + 1) else best) groups
  | _ :: groups => longestZeros (position + 1) 0 best groups

def groupsText (groups : List Nat) : String := Text.join ":" (groups.map hexadecimal)

/-- The text of eight groups. A mapped address of the fourth version is shown as such. -/
def sixText : List Nat → String
  | [0, 0, 0, 0, 0, 65535, high, low] => "::ffff:" ++ dotted (high * 65536 + low)
  | groups =>
    let (start, length) := longestZeros 0 0 (0, 0) groups
    if 1 < length then
      groupsText (groups.take start) ++ "::" ++ groupsText (groups.drop (start + length))
    else groupsText groups

/-- The one written form of an endpoint. -/
def text (e : Endpoint) : String :=
  match e.host with
  | .four address => dotted address ++ ":" ++ toString e.port
  | .six groups zone =>
    "[" ++ sixText groups ++ (if zone = 0 then "" else "%" ++ toString zone) ++ "]:"
      ++ toString e.port

example : (ofText? "[0:0:1:0:0:0:0:1]:80").map text = some "[0:0:1::1]:80" := by decide +kernel
example : (ofText? "::1:80").map text = some "[::1]:80" := by decide +kernel
example : (ofText? "1.2.3.4:x").map text = none := by decide +kernel

end Endpoint

end PanelQuery
