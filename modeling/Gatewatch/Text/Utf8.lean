/-
UTF-8. Decoding never fails: a stretch of bytes that begins a character but does not
complete it counts as one malformed unit, and so does a byte that cannot begin one.
-/

namespace Gatewatch.Text.Utf8

/-- The character that stands for malformed bytes. -/
def replacement : Char := '\ufffd'

/-- The bytes of a text. -/
def encode (text : String) : List UInt8 := text.toUTF8.toList

/-- What the first byte of a character demands: how many bytes follow, the bounds of the
first of them, and the bits that the byte gives. -/
structure Lead where
  more : Nat
  low : UInt8
  high : UInt8
  bits : Nat

/-- Reads the first byte of a character that has several. -/
def lead? (b : UInt8) : Option Lead :=
  if 0xC2 ≤ b && b ≤ 0xDF then some ⟨1, 0x80, 0xBF, b.toNat - 0xC0⟩
  else if b == 0xE0 then some ⟨2, 0xA0, 0xBF, 0⟩
  else if b == 0xED then some ⟨2, 0x80, 0x9F, 13⟩
  else if 0xE1 ≤ b && b ≤ 0xEF then some ⟨2, 0x80, 0xBF, b.toNat - 0xE0⟩
  else if b == 0xF0 then some ⟨3, 0x90, 0xBF, 0⟩
  else if b == 0xF4 then some ⟨3, 0x80, 0x8F, 4⟩
  else if 0xF1 ≤ b && b ≤ 0xF3 then some ⟨3, 0x80, 0xBF, b.toNat - 0xF0⟩
  else none

/-- Takes the bytes that follow a first byte: the number made up, if they are complete, and
the bytes behind. -/
def follow : Nat → UInt8 → UInt8 → Nat → List UInt8 → Option Nat × List UInt8
  | 0, _, _, bits, bytes => (some bits, bytes)
  | _ + 1, _, _, _, [] => (none, [])
  | more + 1, low, high, bits, b :: bytes =>
    if low ≤ b && b ≤ high then follow more 0x80 0xBF (bits * 64 + (b.toNat - 0x80)) bytes
    else (none, b :: bytes)

theorem length_follow_le (more : Nat) (low high : UInt8) (bits : Nat) (bytes : List UInt8) :
    (follow more low high bits bytes).2.length ≤ bytes.length := by
  induction more generalizing low high bits bytes with
  | zero => simp [follow]
  | succ n ih =>
    cases bytes with
    | nil => simp [follow]
    | cons b bs =>
      simp only [follow]
      split
      · exact Nat.le_succ_of_le (ih _ _ _ _)
      · simp

/-- What bytes stand for; nothing where they are malformed. -/
def decode : List UInt8 → List (Option Char)
  | [] => []
  | b :: bytes =>
    if b < 0x80 then some (Char.ofNat b.toNat) :: decode bytes
    else match lead? b with
      | none => none :: decode bytes
      | some l =>
        (follow l.more l.low l.high l.bits bytes).1.map Char.ofNat
          :: decode (follow l.more l.low l.high l.bits bytes).2
termination_by bytes => bytes.length
decreasing_by
  · simp
  · simp
  · exact Nat.lt_succ_of_le (length_follow_le _ _ _ _ _)

/-- The text of bytes, malformed ones replaced. -/
def lossy (bytes : List UInt8) : String :=
  String.ofList ((decode bytes).map (·.getD replacement))

end Gatewatch.Text.Utf8
