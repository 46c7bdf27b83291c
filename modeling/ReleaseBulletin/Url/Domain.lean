import ReleaseBulletin.Text.Affix
import ReleaseBulletin.Text.CaseMap
import ReleaseBulletin.Text.Visible
import ReleaseBulletin.Url.Punycode

/-!
Domain names in ASCII. Letters are taken in lower case, wide forms as the plain ones, invisible
formatting is dropped, and a label that still has other characters than ASCII is written in its
marked ASCII form.
-/
namespace ReleaseBulletin.Url.Domain
open Text.Affix Text.CaseMap Text.Range Text.Visible

def droppedRanges : Ranges :=
  [(0xAD, 0xAD), (0x34F, 0x34F), (0x180B, 0x180D), (0x180F, 0x180F), (0x200B, 0x200B),
   (0x2060, 0x2060), (0x2064, 0x2064), (0xFE00, 0xFE0F), (0xFEFF, 0xFEFF), (0xE0100, 0xE01EF)]

/-- Characters that separate labels as a full stop does. -/
def isStop (c : Char) : Bool := c.toNat == 0x3002 || c.toNat == 0xFF0E || c.toNat == 0xFF61

/-- What a character of a name stands for, if a name may have it. -/
def mapped? (c : Char) : Option (List Char) :=
  if c.toNat < 0x80 then some [c.toLower]
  else if droppedRanges.contains c then some []
  else if isStop c then some ['.']
  else if 0xFF01 ≤ c.toNat && c.toNat ≤ 0xFF5E then some [(Char.ofNat (c.toNat - 0xFEE0)).toLower]
  else if hiddenRanges.contains c then none
  else some (lowerChar c)

/-- Whether a label can be shown: it starts with no mark and all its characters stand for
themselves. -/
def isProper (label : List Char) : Bool :=
  label.all (fun c => mapped? c == some [c]) && !label.head?.any extendingRanges.contains

/-- The mark of an ASCII form. -/
def mark : List Char := ['x', 'n', '-', '-']

def labelAscii? (label : List Char) : Option (List Char) :=
  match after? mark label with
  | some text =>
    match Punycode.decode text with
    | some inner =>
      if isProper inner && !inner.all (·.toNat < 0x80) then some label else none
    | none => none
  | none =>
    if label.all (·.toNat < 0x80) then some label
    else if isProper label then some (mark ++ Punycode.encode label)
    else none

def isForbidden (c : Char) : Bool :=
  c.toNat ≤ 0x20 || c.toNat == 0x7F ||
    ['%', '#', '/', ':', '<', '>', '?', '@', '[', '\\', ']', '^', '|'].contains c

/-- The ASCII form of a domain name. -/
def ascii? (name : List Char) : Option (List Char) := do
  let parts ← name.mapM mapped?
  let labels ← (split '.' parts.flatten).mapM labelAscii?
  let whole := joined ['.'] labels
  if whole.any isForbidden then none else some whole

end ReleaseBulletin.Url.Domain
