/-
# Decoding UTF-8

A file is a list of octets. Decoding stops at the first sequence that is not
well formed, and the fault says where it is and how far its well-formed front
reaches: a wrong octet behind a lead octet belongs to what follows, not to the
faulty sequence. Overlong forms, surrogates and code points past U+10FFFF are
ruled out by the second octet.
-/

import FluentCalc.Decimal.Layout
import FluentCalc.Text.Quoted

namespace FluentCalc.Text

/-- What is wrong with a sequence of octets. -/
inductive Utf8Reason
  | start
  | continuation
  | endOfData
deriving DecidableEq

/-- The wording of a reason. -/
def Utf8Reason.message : Utf8Reason → String
  | start => "invalid start byte"
  | continuation => "invalid continuation byte"
  | endOfData => "unexpected end of data"

/-- A faulty sequence: its first octet, its position, how many octets it has and
what is wrong. -/
structure Utf8Fault where
  octet : UInt8
  position : Nat
  width : Nat
  reason : Utf8Reason
deriving DecidableEq

/-- The wording of a fault. -/
def Utf8Fault.message (f : Utf8Fault) : String :=
  let place := if f.width = 1 then
      "byte 0x" ++ String.ofList (hex 2 f.octet.toNat) ++ " in position " ++
        integerText f.position
    else
      "bytes in position " ++ integerText f.position ++ "-" ++
        integerText (f.position + f.width - 1 : Nat)
  "'utf-8' codec can't decode " ++ place ++ ": " ++ f.reason.message

/-- The number of octets that a lead octet announces. -/
def sequenceWidth? (lead : Nat) : Option Nat :=
  if lead < 0x80 then some 1
  else if lead < 0xc2 then none
  else if lead < 0xe0 then some 2
  else if lead < 0xf0 then some 3
  else if lead < 0xf5 then some 4
  else none

/-- Whether an octet may stand second in a sequence. -/
def isSecond (lead octet : Nat) : Bool :=
  0x80 ≤ octet && octet < 0xc0 &&
    !(lead == 0xe0 && octet < 0xa0) && !(lead == 0xed && 0xa0 ≤ octet) &&
    !(lead == 0xf0 && octet < 0x90) && !(lead == 0xf4 && 0x90 ≤ octet)

/-- Whether an octet may stand third or fourth in a sequence. -/
def isContinuation (octet : Nat) : Bool :=
  0x80 ≤ octet && octet < 0xc0

/-- The well-formed front of what stands behind a lead octet: up to `count`
octets. -/
def wellFormed (lead count : Nat) : List UInt8 → List Nat
  | [] => []
  | second :: rest =>
    if count = 0 || !isSecond lead second.toNat then []
    else second.toNat :: ((rest.take (count - 1)).map UInt8.toNat).takeWhile isContinuation

/-- The code point of a sequence: the bits of the lead octet behind its width,
then six bits of every other. -/
def codePoint (lead width : Nat) (tail : List Nat) : Nat :=
  let front := if width = 1 then lead else if width = 2 then lead % 0x20
    else if width = 3 then lead % 0x10 else lead % 0x08
  tail.foldl (fun total octet => total * 0x40 + octet % 0x40) front

/-- Decode octets that begin at a position. The octets of a sequence behind its
lead octet are passed over by `skip`. -/
def decodeFrom (position skip : Nat) : List UInt8 → Except Utf8Fault (List Char)
  | [] => .ok []
  | octet :: rest =>
    match skip with
    | skip + 1 => decodeFrom (position + 1) skip rest
    | 0 =>
      let lead := octet.toNat
      match sequenceWidth? lead with
      | none => .error ⟨octet, position, 1, .start⟩
      | some width =>
        let tail := wellFormed lead (width - 1) rest
        if tail.length + 1 = width then do
          return Char.ofNat (codePoint lead width tail) ::
            (← decodeFrom (position + 1) (width - 1) rest)
        else
          .error ⟨octet, position, tail.length + 1,
            if rest.length = tail.length then .endOfData else .continuation⟩

/-- Decode a list of octets. -/
def decodeUtf8 (octets : List UInt8) : Except Utf8Fault (List Char) :=
  decodeFrom 0 0 octets

end FluentCalc.Text
