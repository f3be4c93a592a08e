import BlobTransfer.Bytes

/-!
Reading bytes as UTF-8 text when they may not be any: each longest run of bytes that starts a
character and does not finish it becomes one replacement character.
-/

namespace BlobTransfer.Utf8

def replacement : Char := Char.ofNat 0xFFFD

def isContinuation (byte : UInt8) : Bool := 0x80 ≤ byte && byte ≤ 0xBF

def payload (byte : UInt8) : Nat := byte.toNat % 64

/-- Whether a first byte of three and the second one can stand together. -/
def startsThree (first second : UInt8) : Bool :=
  isContinuation second &&
    (first ≠ 0xE0 || 0xA0 ≤ second) && (first ≠ 0xED || second ≤ 0x9F)

def startsFour (first second : UInt8) : Bool :=
  isContinuation second &&
    (first ≠ 0xF0 || 0x90 ≤ second) && (first ≠ 0xF4 || second ≤ 0x8F)

def decodeChars : Bytes → List Char
  | [] => []
  | first :: rest =>
      if first < 0x80 then Char.ofNat first.toNat :: decodeChars rest
      else if 0xC2 ≤ first && first ≤ 0xDF then
        match rest with
        | second :: rest' =>
            if isContinuation second then
              Char.ofNat ((first.toNat - 0xC0) * 64 + payload second) :: decodeChars rest'
            else replacement :: decodeChars (second :: rest')
        | [] => [replacement]
      else if 0xE0 ≤ first && first ≤ 0xEF then
        match rest with
        | second :: third :: rest' =>
            if startsThree first second then
              if isContinuation third then
                Char.ofNat ((first.toNat - 0xE0) * 4096 + payload second * 64 + payload third) ::
                  decodeChars rest'
              else replacement :: decodeChars (third :: rest')
            else replacement :: decodeChars (second :: third :: rest')
        | [second] =>
            if startsThree first second then [replacement]
            else replacement :: decodeChars [second]
        | [] => [replacement]
      else if 0xF0 ≤ first && first ≤ 0xF4 then
        match rest with
        | second :: third :: fourth :: rest' =>
            if startsFour first second then
              if isContinuation third then
                if isContinuation fourth then
                  Char.ofNat ((first.toNat - 0xF0) * 262144 + payload second * 4096 +
                    payload third * 64 + payload fourth) :: decodeChars rest'
                else replacement :: decodeChars (fourth :: rest')
              else replacement :: decodeChars (third :: fourth :: rest')
            else replacement :: decodeChars (second :: third :: fourth :: rest')
        | [second, third] =>
            if startsFour first second then
              if isContinuation third then [replacement]
              else replacement :: decodeChars [third]
            else replacement :: decodeChars [second, third]
        | [second] =>
            if startsFour first second then [replacement]
            else replacement :: decodeChars [second]
        | [] => [replacement]
      else replacement :: decodeChars rest

end BlobTransfer.Utf8
