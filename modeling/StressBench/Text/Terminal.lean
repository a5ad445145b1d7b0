/-
# Text for a terminal

A message that quotes an argument may carry control characters and escape
sequences. They are taken out before the message is shown: of the control
characters only blanks stay. A sequence begins with the escape character; which
bytes belong to it is decided by a machine that reads one byte at a time. A byte
inside a sequence that has no place there is dropped, and a blank control
character breaks the sequence off.

A part of a message that is set off, by a colour or a weight, stands between two
sequences. They are taken out with all others, but the second one breaks off a
sequence that has begun in the part and has not ended there.

Key definitions: `Terminal.setOff`, `Terminal.Place`, `Terminal.next`, `Terminal.plain`.
-/
import StressBench.Text.Utf8

namespace StressBench
namespace Terminal

/-- A part of a message that is set off from the rest. -/
def setOff (s : String) : String :=
  "\x1b[1m" ++ s ++ "\x1b[0m"

/-- Where the machine stands: in plain text, or in a part of a sequence. -/
inductive Place
  | ground
  | escape
  | escapeIntermediate
  | controlEntry
  | controlParameter
  | controlIntermediate
  | controlIgnored
  | deviceEntry
  | deviceParameter
  | deviceIntermediate
  | deviceString
  | deviceIgnored
  | systemCommand
  | privateString
  deriving DecidableEq, Repr

/-- Whether a byte lies between two others, these included. -/
def within (low high b : UInt8) : Bool :=
  low ≤ b && b ≤ high

/-- The place after a byte of a control sequence, which a byte from `40` ends. -/
def nextInControl (b : UInt8) (onParameter onPrivate here : Place) : Place :=
  if within 0x20 0x2F b then .controlIntermediate
  else if within 0x30 0x3B b then onParameter
  else if within 0x3C 0x3F b then onPrivate
  else if within 0x40 0x7E b then .ground
  else here

/-- The place after a byte of the head of a device string, which begins at a byte
from `40`. -/
def nextInDevice (b : UInt8) (onParameter onPrivate here : Place) : Place :=
  if within 0x20 0x2F b then .deviceIntermediate
  else if within 0x30 0x3B b then onParameter
  else if within 0x3C 0x3F b then onPrivate
  else if within 0x40 0x7E b then .deviceString
  else here

/-- The place after a byte. -/
def next (p : Place) (b : UInt8) : Place :=
  if b = 0x18 ∨ b = 0x1A then .ground
  else if b = 0x1B then .escape
  else
    match p with
    | .ground => .ground
    | .escape =>
      if within 0x20 0x2F b then .escapeIntermediate
      else if b = 0x5B then .controlEntry
      else if b = 0x5D then .systemCommand
      else if b = 0x50 then .deviceEntry
      else if b = 0x58 ∨ b = 0x5E ∨ b = 0x5F then .privateString
      else if within 0x30 0x7E b then .ground
      else .escape
    | .escapeIntermediate => if within 0x30 0x7E b then .ground else .escapeIntermediate
    | .controlEntry => nextInControl b .controlParameter .controlParameter .controlEntry
    | .controlParameter => nextInControl b .controlParameter .controlIgnored .controlParameter
    | .controlIntermediate => nextInControl b .controlIgnored .controlIgnored .controlIntermediate
    | .controlIgnored => if within 0x40 0x7E b then .ground else .controlIgnored
    | .deviceEntry => nextInDevice b .deviceParameter .deviceParameter .deviceEntry
    | .deviceParameter => nextInDevice b .deviceParameter .deviceIgnored .deviceParameter
    | .deviceIntermediate => nextInDevice b .deviceIgnored .deviceIgnored .deviceIntermediate
    | .deviceString => if b = 0x9C then .ground else .deviceString
    | .deviceIgnored => if b = 0x9C then .ground else .deviceIgnored
    | .systemCommand => if b = 0x07 then .ground else .systemCommand
    | .privateString => if b = 0x9C then .ground else .privateString

/-- The blanks among the control characters. -/
def isBlankControl (b : UInt8) : Bool :=
  b == 0x09 || b == 0x0A || b == 0x0C || b == 0x0D

/-- Whether control characters have an effect in a place, so that a blank among
them is shown. -/
def obeysControls : Place → Bool
  | .ground | .escape | .escapeIntermediate | .controlEntry | .controlParameter
  | .controlIntermediate | .controlIgnored => true
  | _ => false

/-- Whether a byte is shown. In plain text that is every printable character and
the first byte of every longer one. -/
def isShown (p : Place) (b : UInt8) : Bool :=
  (isBlankControl b && obeysControls p) ||
    (p == .ground && (within 0x20 0x7E b || within 0xC2 0xF4 b))

/-- The bytes that are shown. `shown` says that the byte before was, so that the
other bytes of a character follow its first one. -/
def keep (p : Place) (shown : Bool) : Bytes → Bytes
  | [] => []
  | b :: bs =>
    if isShown p b then b :: keep .ground true bs
    else if shown && within 0x80 0xBF b then b :: keep .ground true bs
    else keep (next p b) false bs

/-- The text as it is shown. -/
def plain (s : Text) : Text :=
  Utf8.decodeLossy (keep .ground true (Utf8.encode s))

/-- The text of a string as it is shown. -/
def plainString (s : String) : String :=
  String.ofList (plain s.toList)

end Terminal
end StressBench
