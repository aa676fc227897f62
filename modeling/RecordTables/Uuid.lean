import RecordTables.Text.Hex

/-! # Universally unique identifiers

Sixteen octets, written as five groups of lower-case digits with hyphens between them. Four
spellings are read: the groups, the groups in braces or after `urn:uuid:`, and the digits without
hyphens. Letters are of either case, those of the scheme too. -/

namespace RecordTables

open RecordTables.Text

/-- An identifier of 128 bits. -/
structure Uuid where
  octets : List UInt8
  length_octets : octets.length = 16
  deriving DecidableEq

namespace Uuid

def ofOctets? (octets : List UInt8) : Option Uuid :=
  if h : octets.length = 16 then some ⟨octets, h⟩ else none

/-- The digits of the five groups with hyphens between the groups. -/
def hyphenate (s : List Char) : List Char :=
  s.take 8 ++ '-' :: (s.drop 8).take 4 ++ '-' :: (s.drop 12).take 4 ++ '-' :: (s.drop 16).take 4 ++
    '-' :: s.drop 20

def chars (u : Uuid) : List Char :=
  hyphenate (hexBytes u.octets)

def text (u : Uuid) : String :=
  String.ofList u.chars

/-- Takes the hyphens out of five groups of 8, 4, 4, 4 and 12 characters. -/
def ungroup? (s : List Char) : Option (List Char) :=
  if s.length = 36 ∧ s[8]? = some '-' ∧ s[13]? = some '-' ∧ s[18]? = some '-' ∧
      s[23]? = some '-' then
    some (s.take 8 ++ (s.drop 9).take 4 ++ (s.drop 14).take 4 ++ (s.drop 19).take 4 ++ s.drop 24)
  else none

def ofHex? (s : List Char) : Option Uuid :=
  (readHexBytes? s).bind ofOctets?

def scheme : List Char :=
  "urn:uuid:".toList

/-- The five groups that a text spells, with or without braces or the name of the scheme. -/
def groups (s : List Char) : List Char :=
  if s.length = 38 ∧ s.head? = some '\x7b' ∧ s.getLast? = some '\x7d' then (s.drop 1).take 36
  else if (s.take scheme.length).map Char.toLower = scheme then s.drop scheme.length
  else s

/-- Reads any of the four spellings. -/
def read? (s : List Char) : Option Uuid :=
  if s.length = 32 then ofHex? s else (ungroup? (groups s)).bind ofHex?

end Uuid

end RecordTables
