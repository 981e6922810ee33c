import Mathlib.Data.List.Lex
import Mathlib.Tactic.SplitIfs

namespace MockScaffold.Text

def bytes (text : String) : List UInt8 := text.toUTF8.data.toList

/-- The numbers have different first elements where they differ, and there the first is smaller. -/
def Precedes : List Nat → List Nat → Prop
  | n :: ns, m :: ms => n < m ∨ n = m ∧ Precedes ns ms
  | _, _ => False

/-- The bytes of a character, as numbers. -/
def encoding (code : Nat) : List Nat :=
  if code ≤ 0x7f then [code]
  else if code ≤ 0x7ff then [code / 64 % 0x20 + 0xc0, code % 0x40 + 0x80]
  else if code ≤ 0xffff then
    [code / 4096 % 0x10 + 0xe0, code / 64 % 0x40 + 0x80, code % 0x40 + 0x80]
  else
    [code / 262144 % 0x08 + 0xf0, code / 4096 % 0x40 + 0x80, code / 64 % 0x40 + 0x80,
     code % 0x40 + 0x80]

theorem utf8EncodeChar_eq (c : Char) :
    String.utf8EncodeChar c = (encoding c.toNat).map UInt8.ofNat := by
  rw [String.utf8EncodeChar, encoding, Char.toNat]
  split
  · rfl
  · split
    · rfl
    · split <;> rfl

theorem encoding_lt (code : Nat) : ∀ n ∈ encoding code, n < 256 := by
  rw [encoding]
  split
  · simp; omega
  · split
    · simp; omega
    · split
      · simp; omega
      · simp; omega

/-- Characters are in the order of their encodings. -/
theorem encoding_precedes {code other : Nat} (less : code < other) (bound : other < 0x110000) :
    Precedes (encoding code) (encoding other) := by
  -- The digits to the base 64, of which the first fits into its byte.
  have digits (n : Nat) (fits : n < 0x110000) : n = 64 * (n / 64) + n % 64 ∧
      n / 64 = 64 * (n / 4096) + n / 64 % 64 ∧ n / 4096 = 64 * (n / 262144) + n / 4096 % 64 ∧
      n / 262144 % 8 = n / 262144 := by omega
  have := digits code (less.trans bound)
  have := digits other bound
  rw [encoding, encoding]
  split_ifs <;> simp only [Precedes] <;> omega

theorem Precedes.lex {ns ms : List Nat} (precedes : Precedes ns ms) (bound : ∀ n ∈ ns, n < 256)
    (bound' : ∀ m ∈ ms, m < 256) (rest rest' : List UInt8) :
    List.Lex (· < ·) (ns.map UInt8.ofNat ++ rest) (ms.map UInt8.ofNat ++ rest') := by
  induction ns generalizing ms with
  | nil => cases precedes
  | cons n ns ih =>
    cases ms with
    | nil => cases precedes
    | cons m ms =>
      rcases precedes with less | ⟨rfl, precedes⟩
      · refine .rel ((UInt8.ofNat_lt_iff_lt ?_ ?_).2 less)
        · exact bound n List.mem_cons_self
        · exact bound' m List.mem_cons_self
      · exact .cons (ih precedes (fun k among => bound k (.tail _ among))
          fun k among => bound' k (.tail _ among))

theorem utf8EncodeChar_lex {c d : Char} (less : c < d) (rest rest' : List UInt8) :
    List.Lex (· < ·) (String.utf8EncodeChar c ++ rest) (String.utf8EncodeChar d ++ rest') := by
  have bound : d.toNat < 0x110000 := by
    rcases d.valid with low | high
    · exact lt_trans low (by decide)
    · exact high.2
  rw [utf8EncodeChar_eq, utf8EncodeChar_eq]
  exact (encoding_precedes less bound).lex (encoding_lt _) (encoding_lt _) rest rest'

theorem bytes_eq (text : String) : bytes text = text.toList.flatMap String.utf8EncodeChar := by
  rw [bytes, String.toUTF8_eq_toByteArray, ← String.utf8Encode_toList]
  exact List.toList_data_toByteArray

theorem flatMap_lex {cs ds : List Char} (less : List.Lex (· < ·) cs ds) :
    List.Lex (· < ·) (cs.flatMap String.utf8EncodeChar) (ds.flatMap String.utf8EncodeChar) := by
  induction less with
  | @nil d ds =>
    have nonempty : String.utf8EncodeChar d ≠ [] :=
      List.ne_nil_of_length_pos (by rw [String.length_utf8EncodeChar]; exact d.utf8Size_pos)
    obtain ⟨b, bs, encoded⟩ := List.exists_cons_of_ne_nil nonempty
    rw [List.flatMap_nil, List.flatMap_cons, encoded]
    exact .nil
  | cons _ ih =>
    rw [List.flatMap_cons, List.flatMap_cons]
    exact ih.append_left _ _
  | rel less =>
    rw [List.flatMap_cons, List.flatMap_cons]
    exact utf8EncodeChar_lex less _ _

/-- Texts are in the order of their bytes. -/
theorem bytes_lex {text other : String} (less : text < other) :
    List.Lex (· < ·) (bytes text) (bytes other) := by
  rw [bytes_eq, bytes_eq]
  exact flatMap_lex less

end MockScaffold.Text
