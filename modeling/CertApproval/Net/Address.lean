import CertApproval.Bytes
import CertApproval.Text.Ranges
import CertApproval.Text.Quoted

/-!
Network addresses of both versions: reading and writing. An address of version 4 is
four decimal numbers without leading zeros. An address of version 6 is eight groups of
hexadecimal digits, of which one run of zero groups may be left out and the last two
may be written as an address of version 4; a scope may follow it.
-/

namespace CertApproval.Net

open CertApproval.Text (splitAtChar)

inductive Version where
  | v4
  | v6
  deriving DecidableEq, Repr

/-- The number of bits of an address. -/
abbrev Version.width : Version → Nat
  | .v4 => 32
  | .v6 => 128

/-- A single address. Only an address of version 6 has a scope. -/
inductive Address where
  | v4 (bits : BitVec 32)
  | v6 (bits : BitVec 128) (scope : Option String)
  deriving DecidableEq, Repr

namespace Address

def version : Address → Version
  | v4 _ => .v4
  | v6 _ _ => .v6

/-- The bits of an address as a number. -/
def toNat : Address → Nat
  | v4 bits => bits.toNat
  | v6 bits _ => bits.toNat

theorem toNat_lt (address : Address) : address.toNat < Nat.pow 2 address.version.width := by
  cases address with
  | v4 bits => exact bits.isLt
  | v6 bits _ => exact bits.isLt

/-- The natural that decimal digits denote. -/
def decimalNat (digits : List Char) : Nat :=
  digits.foldl (fun value c => value * 10 + (c.toNat - '0'.toNat)) 0

/-- One of the four numbers of an address of version 4. -/
def readOctet? (digits : List Char) : Option Nat :=
  if digits.isEmpty ∨ !digits.all Char.isDigit ∨ 3 < digits.length then none
  else if digits ≠ ['0'] ∧ digits.head? = some '0' then none
  else
    let value := decimalNat digits
    if 255 < value then none else some value

/-- The bits of an address of version 4. -/
def readV4? (text : List Char) : Option (BitVec 32) :=
  match splitAtChar '.' text with
  | [a, b, c, d] =>
    match readOctet? a, readOctet? b, readOctet? c, readOctet? d with
    | some a, some b, some c, some d =>
      some (BitVec.ofNat 32 (((a * 256 + b) * 256 + c) * 256 + d))
    | _, _, _, _ => none
  | _ => none

/-- One group of an address of version 6. -/
def readGroup? (digits : List Char) : Option Nat :=
  if digits.isEmpty ∨ 4 < digits.length ∨ !digits.all fun c => (Text.hexDigit? c).isSome then none
  else some (Text.hexNat digits)

/-- Replaces an address of version 4 in the last place by two groups. -/
def expandLast? (groups : List (List Char)) : Option (List (List Char)) :=
  match groups.getLast? with
  | none => none
  | some last =>
    if last.contains '.' then
      (readV4? last).map fun bits =>
        groups.dropLast ++
          [Text.hexDigits 4 (bits.toNat / 65536), Text.hexDigits 4 (bits.toNat % 65536)]
    else some groups

/-- The number that groups denote, the first the most significant. -/
def groupsNat (groups : List Nat) : Nat :=
  groups.foldl (fun value group => value * 65536 + group) 0

/-- The eight groups of an address, given those before and after the run of zero groups
that was left out. -/
def fillGroups? (before after : List (List Char)) : Option Nat :=
  let before := if before = [[]] then [] else before
  let after := if after = [[]] then [] else after
  if 7 < before.length + after.length then none
  else
    match before.mapM readGroup?, after.mapM readGroup? with
    | some high, some low =>
      some (groupsNat (high ++ List.replicate (8 - before.length - after.length) 0 ++ low))
    | _, _ => none

/-- The bits of an address of version 6 without its scope. -/
def readV6Bits? (text : List Char) : Option (BitVec 128) :=
  match expandLast? (splitAtChar ':' text) with
  | none => none
  | some groups =>
    if groups.length < 3 ∨ 9 < groups.length then none
    else
      let inner := (List.range groups.length).filter fun i =>
        0 < i && i + 1 < groups.length && (groups.getD i []).isEmpty
      match inner with
      | [] =>
        if groups.length ≠ 8 then none
        else (groups.mapM readGroup?).map fun values => BitVec.ofNat 128 (groupsNat values)
      | [skip] =>
        (fillGroups? (groups.take skip) (groups.drop (skip + 1))).map (BitVec.ofNat 128 ·)
      | _ => none

/-- An address of version 6, perhaps with a scope after a percent sign. -/
def readV6? (text : List Char) : Option Address :=
  match splitAtChar '%' text with
  | [address] => (readV6Bits? address).map (v6 · none)
  | [address, scope] =>
    if scope.isEmpty then none
    else (readV6Bits? address).map (v6 · (some (String.ofList scope)))
  | _ => none

def read? (text : String) : Option Address :=
  let characters := text.toList
  if characters.contains '/' then none
  else
    match readV4? characters with
    | some bits => some (v4 bits)
    | none => readV6? characters

/-- Hexadecimal digits without leading zeros. -/
def shortHex (value : Nat) : List Char := Nat.toDigits 16 value

/-- The eight groups of 128 bits. -/
def groupsOf (value : Nat) : List Nat :=
  (List.range 8).map fun i => value / Nat.pow 65536 (7 - i) % 65536

/-- The length of the run of zero groups at the front. -/
def zeroRun (groups : List Nat) : Nat := (groups.takeWhile (· = 0)).length

/-- The first of the longest runs of zero groups: where it begins and how long it is. -/
def longestZeroRun (groups : List Nat) : Nat × Nat :=
  (List.range groups.length).foldl
    (fun best i =>
      let length := zeroRun (groups.drop i)
      if best.2 < length then (i, length) else best)
    (0, 0)

def joinGroups (groups : List Nat) : List Char :=
  List.intercalate [':'] (groups.map shortHex)

/-- The text of 128 bits: the first of the longest runs of at least two zero groups is
left out. -/
def writeV6 (value : Nat) : List Char :=
  let groups := groupsOf value
  let (start, length) := longestZeroRun groups
  if length < 2 then joinGroups groups
  else joinGroups (groups.take start) ++ [':', ':'] ++ joinGroups (groups.drop (start + length))

def writeV4 (value : Nat) : List Char :=
  List.intercalate ['.'] ((Bytes.ofNat 4 value).map fun byte => Nat.toDigits 10 byte.toNat)

def text : Address → String
  | v4 bits => String.ofList (writeV4 bits.toNat)
  | v6 bits scope =>
    let scope := match scope with
      | some scope => '%' :: scope.toList
      | none => []
    String.ofList (writeV6 bits.toNat ++ scope)

/-- What is said of a text that is no address. -/
def invalidMessage (text : String) : String :=
  s!"{Text.quoted text} does not appear to be an IPv4 or IPv6 address"

/-- The address that four or sixteen bytes stand for. -/
def ofBytes? (bytes : Bytes) : Option Address :=
  if bytes.length = 4 then some (v4 (BitVec.ofNat 32 (Bytes.toNat bytes)))
  else if bytes.length = 16 then some (v6 (BitVec.ofNat 128 (Bytes.toNat bytes)) none)
  else none

end Address

/-- Adds an address to a set that is held as a list. -/
def insertAddress (set : List Address) (address : Address) : List Address :=
  if set.contains address then set else set ++ [address]

/-- The set of the addresses of a list. -/
def addressSet (addresses : List Address) : List Address :=
  addresses.foldl insertAddress []

theorem mem_insertAddress {set : List Address} {added address : Address} :
    address ∈ insertAddress set added ↔ address ∈ set ∨ address = added := by
  unfold insertAddress
  split
  · rename_i isMember
    have member : added ∈ set := by simpa using isMember
    exact ⟨Or.inl, fun either => either.elim id fun same => same ▸ member⟩
  · simp

theorem mem_foldl_insertAddress {addresses set : List Address} {address : Address} :
    address ∈ addresses.foldl insertAddress set ↔ address ∈ set ∨ address ∈ addresses := by
  induction addresses generalizing set with
  | nil =>
      simp
  | cons first addresses inductionHypothesis =>
      rw [List.foldl_cons, inductionHypothesis, mem_insertAddress, List.mem_cons, or_assoc]

@[simp]
theorem mem_addressSet {addresses : List Address} {address : Address} :
    address ∈ addressSet addresses ↔ address ∈ addresses := by
  simp [addressSet, mem_foldl_insertAddress]

/-- The texts of a set of addresses, in the order of their code points. -/
def sortedTexts (addresses : List Address) : List String :=
  (addresses.map Address.text).mergeSort fun a b => a ≤ b

end CertApproval.Net
