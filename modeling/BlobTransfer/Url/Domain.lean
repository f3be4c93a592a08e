import BlobTransfer.Text.Ascii
import BlobTransfer.Text.CharClass
import BlobTransfer.Url.Form
import BlobTransfer.Url.Punycode

/-!
Names of machines. Case does not count in them, some characters may not stand in them, and a label
with characters of other scripts is written in Punycode.
-/

namespace BlobTransfer.Domain

def isForbiddenInHost (c : Char) : Bool :=
  c.toNat ≤ 0x20 || c = '#' || c = '/' || c = ':' || c = '<' || c = '>' || c = '?' || c = '@' ||
    c = '[' || c = '\\' || c = ']' || c = '^' || c = '|'

def isForbidden (c : Char) : Bool := isForbiddenInHost c || c = '%' || c.toNat = 0x7F

/-! Letters of the scripts that have two cases. -/

/-- Pairs of a capital and the small letter after it, the capital at even or at odd codes. -/
def isPairedCapital (code : Nat) : Bool :=
  let isWithin := fun (low high : Nat) => low ≤ code && code ≤ high
  if code % 2 = 0 then
    isWithin 0x100 0x12F || isWithin 0x132 0x137 || isWithin 0x14A 0x177 ||
      isWithin 0x370 0x373 || isWithin 0x3D8 0x3EF || isWithin 0x460 0x481 ||
      isWithin 0x48A 0x4BF || isWithin 0x4D0 0x52F || isWithin 0x1E00 0x1E95 ||
      isWithin 0x1EA0 0x1EFF
  else isWithin 0x139 0x148 || isWithin 0x179 0x17E || isWithin 0x4C1 0x4CE

def smallLetter (c : Char) : Char :=
  let code := c.toNat
  let isWithin := fun (low high : Nat) => low ≤ code && code ≤ high
  if code < 0x80 then Ascii.lowerChar c
  else if isWithin 0xC0 0xDE && code ≠ 0xD7 then Char.ofNat (code + 32)
  else if code = 0x178 then Char.ofNat 0xFF
  else if code = 0x1E9E then Char.ofNat 0xDF
  else if isPairedCapital code then Char.ofNat (code + 1)
  else if code = 0x386 then Char.ofNat 0x3AC
  else if isWithin 0x388 0x38A then Char.ofNat (code + 37)
  else if code = 0x38C then Char.ofNat 0x3CC
  else if isWithin 0x38E 0x38F then Char.ofNat (code + 63)
  else if isWithin 0x391 0x3AB && code ≠ 0x3A2 then Char.ofNat (code + 32)
  else if isWithin 0x400 0x40F then Char.ofNat (code + 80)
  else if isWithin 0x410 0x42F then Char.ofNat (code + 32)
  else if isWithin 0x531 0x556 then Char.ofNat (code + 48)
  else c

/-! Labels. -/

def isIgnored (c : Char) : Bool :=
  let code := c.toNat
  code = 0xAD || code = 0x200B || code = 0x2060 || code = 0xFEFF ||
    (0xFE00 ≤ code && code ≤ 0xFE0F)

def plainForm (c : Char) : Char :=
  let code := c.toNat
  if code = 0x3002 || code = 0xFF61 then '.'
  else if 0xFF01 ≤ code && code ≤ 0xFF5E then Char.ofNat (code - 0xFEE0)
  else c

def folded (c : Char) : List Char :=
  if c.toNat = 0x130 then ['i', Char.ofNat 0x307] else [smallLetter (plainForm c)]

def mapped (chars : List Char) : List Char :=
  (chars.filter fun c => !isIgnored c).flatMap folded

/-- What is not seen may not stand in a name, nor may the sign for an unknown character. -/
def isInvalid (c : Char) : Bool :=
  isForbidden c || (0x7F < c.toNat && !CharClass.isVisible c) || c.toNat = 0xFFFD

def isValidLabel (label : List Char) : Bool :=
  label.all (fun c => !isInvalid c) && !label.head?.any CharClass.isCombining

def punycodeMark : List Char := "xn--".toList

/-- A label as it is sent. One that is in Punycode already has to stand for what needs it. -/
def sentLabel? (label : List Char) : Option (List Char) :=
  if label.all Punycode.isBasic then
    if punycodeMark.isPrefixOf label then do
      let written := label.drop punycodeMark.length
      let decoded ← Punycode.decode? written
      if isValidLabel decoded && mapped decoded = decoded && !decoded.all Punycode.isBasic &&
          Punycode.encode decoded = written then
        return label
      else none
    else if isValidLabel label then some label
    else none
  else if isValidLabel label then some (punycodeMark ++ Punycode.encode label)
  else none

def sent? (chars : List Char) : Option (List Char) := do
  let labels ← (Form.split '.' (mapped chars)).mapM sentLabel?
  return List.intercalate ['.'] labels

end BlobTransfer.Domain
