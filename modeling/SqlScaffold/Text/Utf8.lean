import SqlScaffold.Text.Quoted

/-!
Strict decoding of UTF-8. The first sequence that stands for no character ends the reading, and
the fault names the bytes of that sequence that were accepted before the failure was certain.
-/

namespace SqlScaffold.Text

inductive Utf8Problem where
  | invalidStart
  | invalidContinuation
  | unexpectedEnd
  deriving DecidableEq, Repr

def Utf8Problem.text : Utf8Problem → String
  | invalidStart => "invalid start byte"
  | invalidContinuation => "invalid continuation byte"
  | unexpectedEnd => "unexpected end of data"

structure Utf8Fault where
  problem : Utf8Problem
  start : Nat
  width : Nat
  lead : Nat
  deriving DecidableEq, Repr

def Utf8Fault.message (fault : Utf8Fault) : String :=
  let place :=
    if fault.width = 1 then
      "byte 0x" ++ String.ofList (hexDigits 2 fault.lead) ++ " in position " ++
        toString fault.start
    else
      "bytes in position " ++ toString fault.start ++ "-" ++
        toString (fault.start + fault.width - 1)
  "'utf-8' codec can't decode " ++ place ++ ": " ++ fault.problem.text

def sequenceWidth? (lead : Nat) : Option Nat :=
  if lead < 0x80 then some 1
  else if lead < 0xC2 then none
  else if lead < 0xE0 then some 2
  else if lead < 0xF0 then some 3
  else if lead < 0xF5 then some 4
  else none

/-- The bytes that may stand second: overlong forms, surrogates and codes beyond the last
character are left out. -/
def secondAllowed (lead byte : Nat) : Bool :=
  let low := if lead = 0xE0 then 0xA0 else if lead = 0xF0 then 0x90 else 0x80
  let high := if lead = 0xED then 0x9F else if lead = 0xF4 then 0x8F else 0xBF
  decide (low ≤ byte) && decide (byte ≤ high)

def continuationCount (lead missing : Nat) : List UInt8 → Nat
  | [] => 0
  | byte :: rest =>
    if missing = 0 || !secondAllowed lead byte.toNat then 0
    else 1 + continuationCount 0x80 (missing - 1) rest

def codeOf (lead width : Nat) (bytes : List UInt8) : Nat :=
  let start := if width = 1 then lead else lead % Nat.pow 2 (7 - width)
  bytes.foldl (fun code byte => code * 64 + byte.toNat % 64) start

def decodeFrom (start : Nat) : Nat → List UInt8 → Except Utf8Fault (List Char)
  | 0, _ | _, [] => .ok []
  | fuel + 1, byte :: rest =>
    let lead := byte.toNat
    match sequenceWidth? lead with
    | none => .error ⟨.invalidStart, start, 1, lead⟩
    | some width =>
      let found := continuationCount lead (width - 1) rest
      if found + 1 = width then do
        let tail ← decodeFrom (start + width) fuel (rest.drop found)
        .ok (Char.ofNat (codeOf lead width (rest.take found)) :: tail)
      else if found = rest.length then .error ⟨.unexpectedEnd, start, found + 1, lead⟩
      else .error ⟨.invalidContinuation, start, found + 1, lead⟩

def decodeUtf8 (bytes : List UInt8) : Except Utf8Fault (List Char) :=
  decodeFrom 0 bytes.length bytes

end SqlScaffold.Text
