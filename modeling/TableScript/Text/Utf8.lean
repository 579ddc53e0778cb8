import TableScript.Text.Shown

namespace TableScript.Text.Utf8

inductive Reason where
  | invalidStart
  | invalidContinuation
  | unexpectedEnd
deriving Repr, DecidableEq

def Reason.message : Reason → String
  | .invalidStart => "invalid start byte"
  | .invalidContinuation => "invalid continuation byte"
  | .unexpectedEnd => "unexpected end of data"

/-- Bytes that are no character: the first byte, its position and the number of bytes refused. -/
structure Fault where
  byte : Nat
  position : Nat
  width : Nat
  reason : Reason
deriving Repr, DecidableEq

def Fault.message (fault : Fault) : String :=
  let place :=
    if fault.width = 1 then
      "byte 0x" ++ String.ofList (hexDigits 2 fault.byte) ++ " in position " ++ toString fault.position
    else
      "bytes in position " ++ toString fault.position ++ "-" ++
        toString (fault.position + fault.width - 1)
  "'utf-8' codec can't decode " ++ place ++ ": " ++ fault.reason.message

/-- What a first byte announces: the number of bytes that follow, the range of the next of them, and
the bits of the code point that it holds itself. -/
structure Lead where
  following : Nat
  least : Nat
  greatest : Nat
  bits : Nat

/-- The first bytes of characters. The ranges of the second byte keep out the long forms of short
codes, the surrogates and everything above the last code point. -/
def lead? (byte : Nat) : Option Lead :=
  if byte < 0x80 then some ⟨0, 0x80, 0xBF, byte⟩
  else if byte < 0xC2 then none
  else if byte < 0xE0 then some ⟨1, 0x80, 0xBF, byte % 0x20⟩
  else if byte = 0xE0 then some ⟨2, 0xA0, 0xBF, byte % 0x10⟩
  else if byte = 0xED then some ⟨2, 0x80, 0x9F, byte % 0x10⟩
  else if byte < 0xF0 then some ⟨2, 0x80, 0xBF, byte % 0x10⟩
  else if byte = 0xF0 then some ⟨3, 0x90, 0xBF, byte % 0x08⟩
  else if byte < 0xF4 then some ⟨3, 0x80, 0xBF, byte % 0x08⟩
  else if byte = 0xF4 then some ⟨3, 0x80, 0x8F, byte % 0x08⟩
  else none

/-- Where decoding stands: between characters, or inside one that began at `position` with `byte`
and of which `read` bytes are there. -/
inductive State where
  | between
  | within (byte position read : Nat) (rest : Lead)

def decodeFrom (state : State) (position : Nat) : List UInt8 → Except Fault (List Char)
  | [] =>
      match state with
      | .between => .ok []
      | .within byte start read _ => .error ⟨byte, start, read, .unexpectedEnd⟩
  | octet :: more =>
      let byte := octet.toNat
      match state with
      | .between =>
          match lead? byte with
          | none => .error ⟨byte, position, 1, .invalidStart⟩
          | some rest =>
              if rest.following = 0 then
                (decodeFrom .between (position + 1) more).map (Char.ofNat rest.bits :: ·)
              else decodeFrom (.within byte position 1 rest) (position + 1) more
      | .within first start read rest =>
          if rest.least ≤ byte && byte ≤ rest.greatest then
            let code := rest.bits * 0x40 + byte % 0x40
            if rest.following = 1 then
              (decodeFrom .between (position + 1) more).map (Char.ofNat code :: ·)
            else
              decodeFrom (.within first start (read + 1) ⟨rest.following - 1, 0x80, 0xBF, code⟩)
                (position + 1) more
          else .error ⟨first, start, read, .invalidContinuation⟩

def decode (bytes : List UInt8) : Except Fault (List Char) :=
  decodeFrom .between 0 bytes

/-- Writes every line break as a line feed: a carriage return, alone or before a line feed, counts
as one break. -/
def unifyBreaks : List Char → List Char
  | [] => []
  | [c] => [if c = '\r' then '\n' else c]
  | c :: d :: rest =>
      if c = '\r' then
        if d = '\n' then '\n' :: unifyBreaks rest else '\n' :: unifyBreaks (d :: rest)
      else c :: unifyBreaks (d :: rest)

end TableScript.Text.Utf8
