import FilterGraph.Text.DecimalDigit

namespace FilterGraph.Utf8

inductive Flaw where
  | startByte
  | continuationByte
  | endOfData
  | sequence
  deriving DecidableEq, Repr

structure DecodeError where
  position : Nat
  bytes : List UInt8
  flaw : Flaw
  deriving DecidableEq, Repr

def Flaw.message : Flaw → String
  | .startByte => "invalid start byte"
  | .continuationByte => "invalid continuation byte"
  | .endOfData => "unexpected end of data"
  | .sequence => "invalid utf-8"

def DecodeError.atFirst (e : DecodeError) : DecodeError :=
  { e with bytes := e.bytes.take 1, flaw := .sequence }

def DecodeError.message (e : DecodeError) : String :=
  let place := match e.bytes with
    | [b] => s!"byte 0x{Text.hexPadded 2 b.toNat} in position {e.position}"
    | bytes => s!"bytes in position {e.position}-{e.position + bytes.length - 1}"
  s!"'utf-8' codec can't decode {place}: {e.flaw.message}"

def isContinuation (b : UInt8) : Bool := 0x80 ≤ b && b < 0xC0

/-- Which second bytes may follow a first byte: the bounds shut out overlong forms, surrogates and
    numbers that are too large. -/
def mayFollow (first second : UInt8) : Bool :=
  isContinuation second &&
    (if first = 0xE0 then 0xA0 ≤ second
     else if first = 0xED then second < 0xA0
     else if first = 0xF0 then 0x90 ≤ second
     else if first = 0xF4 then second < 0x90
     else true)

private def payload (b : UInt8) : Nat := b.toNat % 64

def decodeOne (first : UInt8) (rest : List UInt8) : Except (Nat × Flaw) (Char × Nat) :=
  if first < 0x80 then .ok (Char.ofNat first.toNat, 1)
  else if first < 0xC2 then .error (1, .startByte)
  else if first < 0xE0 then
    match rest with
    | [] => .error (1, .endOfData)
    | b :: _ =>
      if isContinuation b then .ok (Char.ofNat (first.toNat % 32 * 64 + payload b), 2)
      else .error (1, .continuationByte)
  else if first < 0xF0 then
    match rest with
    | [] => .error (1, .endOfData)
    | b :: rest =>
      if !mayFollow first b then .error (1, .continuationByte)
      else match rest with
        | [] => .error (2, .endOfData)
        | c :: _ =>
          if isContinuation c then
            .ok (Char.ofNat ((first.toNat % 16 * 64 + payload b) * 64 + payload c), 3)
          else .error (2, .continuationByte)
  else if first < 0xF5 then
    match rest with
    | [] => .error (1, .endOfData)
    | b :: rest =>
      if !mayFollow first b then .error (1, .continuationByte)
      else match rest with
        | [] => .error (2, .endOfData)
        | c :: rest =>
          if !isContinuation c then .error (2, .continuationByte)
          else match rest with
            | [] => .error (3, .endOfData)
            | d :: _ =>
              if isContinuation d then
                .ok (Char.ofNat
                  (((first.toNat % 8 * 64 + payload b) * 64 + payload c) * 64 + payload d), 4)
              else .error (3, .continuationByte)
  else .error (1, .startByte)

def decodeFrom (position skip : Nat) : List UInt8 → Except DecodeError (List Char)
  | [] => .ok []
  | b :: rest =>
    match skip with
    | skip + 1 => decodeFrom (position + 1) skip rest
    | 0 =>
      match decodeOne b rest with
      | .error (count, flaw) => .error ⟨position, (b :: rest).take count, flaw⟩
      | .ok (c, size) => do return c :: (← decodeFrom (position + 1) (size - 1) rest)

def decode (bytes : List UInt8) : Except DecodeError (List Char) := decodeFrom 0 0 bytes

def encode (s : String) : List UInt8 := s.toUTF8.toList

end FilterGraph.Utf8
