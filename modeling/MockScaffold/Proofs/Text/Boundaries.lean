import MockScaffold.Proofs.Text.Bytes

namespace MockScaffold.Text

/-- The number of bytes that encode characters. -/
def width : List Char → Nat
  | [] => 0
  | c :: cs => c.utf8Size + width cs

@[simp] theorem width_nil : width [] = 0 := rfl

@[simp] theorem width_cons (c : Char) (cs : List Char) : width (c :: cs) = c.utf8Size + width cs :=
  rfl

@[simp] theorem width_append (cs ds : List Char) : width (cs ++ ds) = width cs + width ds := by
  induction cs with
  | nil => simp
  | cons c cs ih => simp [ih, Nat.add_assoc]

theorem length_flatMap_utf8EncodeChar (cs : List Char) :
    (cs.flatMap String.utf8EncodeChar).length = width cs := by
  induction cs with
  | nil => rfl
  | cons c cs ih => simp [ih]

theorem length_bytes (text : String) : (bytes text).length = width text.toList := by
  rw [bytes_eq, length_flatMap_utf8EncodeChar]

theorem utf8ByteSize_eq (text : String) : text.utf8ByteSize = width text.toList := by
  rw [← length_bytes]
  rfl

theorem utf8ByteSize_ofList (cs : List Char) : (String.ofList cs).utf8ByteSize = width cs := by
  rw [utf8ByteSize_eq, String.toList_ofList]

/-- Of two beginnings of a text, the one with fewer bytes is a beginning of the other. -/
theorem exists_append_of_width_le {front back front' back' : List Char}
    (same : front ++ back = front' ++ back') (le : width front ≤ width front') :
    ∃ between, front' = front ++ between ∧ back = between ++ back' := by
  rcases List.append_eq_append_iff.1 same with ⟨between, first, second⟩ | ⟨between, first, second⟩
  · exact ⟨between, first, second⟩
  · -- Nothing stands between the two places, for it would have bytes.
    cases between with
    | nil => exact ⟨[], by simpa using first.symm, by simpa using second.symm⟩
    | cons c between =>
      have positive := c.utf8Size_pos
      simp [first] at le
      omega

/-- The characters from a place on. -/
def charsFrom : Nat → List Char → List Char
  | 0, cs => cs
  | _ + 1, [] => []
  | place + 1, c :: cs => charsFrom (place + 1 - c.utf8Size) cs

theorem charsFrom_width (front back : List Char) :
    charsFrom (width front) (front ++ back) = back := by
  induction front with
  | nil => rw [width_nil, charsFrom, List.nil_append]
  | cons c front ih =>
    obtain ⟨n, bytes⟩ := Nat.exists_eq_succ_of_ne_zero c.utf8Size_pos.ne'
    have more : width (c :: front) = n + width front + 1 := by
      rw [width_cons, bytes]
      omega
    have left : n + width front + 1 - c.utf8Size = width front := by omega
    rw [more, List.cons_append, charsFrom, left, ih]

/-- A place in a text, as a number of bytes, where a character starts or the text ends. -/
def IsBoundary (text : String) (place : Nat) : Prop := String.Pos.Raw.IsValid text ⟨place⟩

instance (text : String) (place : Nat) : Decidable (IsBoundary text place) :=
  inferInstanceAs (Decidable (String.Pos.Raw.IsValid text ⟨place⟩))

/-- A boundary is what the characters in front of it take up. -/
theorem isBoundary_iff {text : String} {place : Nat} :
    IsBoundary text place ↔ ∃ front back, text.toList = front ++ back ∧ width front = place := by
  rw [IsBoundary, String.Pos.Raw.isValid_iff_exists_append]
  constructor
  · rintro ⟨front, back, rfl, there⟩
    refine ⟨front.toList, back.toList, String.toList_append, ?_⟩
    rw [← utf8ByteSize_eq]
    exact (congrArg String.Pos.Raw.byteIdx there).symm
  · rintro ⟨front, back, split, rfl⟩
    refine ⟨.ofList front, .ofList back, ?_, ?_⟩
    · rw [← String.ofList_append, ← split, String.ofList_toList]
    · ext
      exact (utf8ByteSize_ofList front).symm

theorem isBoundary_zero (text : String) : IsBoundary text 0 :=
  isBoundary_iff.2 ⟨[], text.toList, rfl, rfl⟩

theorem isBoundary_end (text : String) : IsBoundary text text.utf8ByteSize :=
  isBoundary_iff.2 ⟨text.toList, [], by simp, (utf8ByteSize_eq text).symm⟩

theorem IsBoundary.le {text : String} {place : Nat} (boundary : IsBoundary text place) :
    place ≤ text.utf8ByteSize := by
  obtain ⟨front, back, split, rfl⟩ := isBoundary_iff.1 boundary
  rw [utf8ByteSize_eq, split, width_append]
  omega

/-- The part of a text between two places, if they are boundaries in this order. -/
def slice? (text : String) (start stop : Nat) : Option String :=
  if ends : start ≤ stop ∧ IsBoundary text start ∧ IsBoundary text stop then
    some (text.extract ⟨⟨start⟩, ends.2.1⟩ ⟨⟨stop⟩, ends.2.2⟩)
  else none

/-- Between two boundaries, the characters between them are cut out. -/
theorem slice?_eq_some {text : String} {front inner back : List Char} {start stop : Nat}
    (split : text.toList = front ++ (inner ++ back)) (first : width front = start)
    (last : width (front ++ inner) = stop) :
    slice? text start stop = some (.ofList inner) := by
  have ordered : start ≤ stop := by
    rw [← first, ← last, width_append]
    omega
  have starts : IsBoundary text start := isBoundary_iff.2 ⟨front, inner ++ back, split, first⟩
  have stops : IsBoundary text stop :=
    isBoundary_iff.2 ⟨front ++ inner, back, by rw [split, List.append_assoc], last⟩
  have whole : text = .ofList front ++ (.ofList inner ++ .ofList back) := by
    rw [← String.ofList_append, ← String.ofList_append, ← split, String.ofList_toList]
  have size (cs : List Char) : (String.ofList cs).toByteArray.size = width cs := by
    rw [String.size_toByteArray, utf8ByteSize_ofList]
  have start_eq : start = (String.ofList front).toByteArray.size + 0 := by
    rw [size, first, Nat.add_zero]
  have stop_eq : stop =
      (String.ofList front).toByteArray.size + (String.ofList inner).toByteArray.size := by
    rw [size, size, ← width_append, last]
  have cut : text.toByteArray.extract start stop = (String.ofList inner).toByteArray := by
    rw [whole, String.toByteArray_append, String.toByteArray_append, start_eq, stop_eq,
      ByteArray.extract_append_size_add]
    exact ByteArray.extract_append_eq_left rfl
  rw [slice?, dif_pos ⟨ordered, starts, stops⟩, Option.some_inj, ← String.toByteArray_inj,
    String.toByteArray_extract]
  exact cut

theorem utf8EncodeChar_ascii {c : Char} (ascii : c.toNat < 128) :
    String.utf8EncodeChar c = [UInt8.ofNat c.toNat] := by
  have single : encoding c.toNat = [c.toNat] := if_pos (by omega)
  rw [utf8EncodeChar_eq, single]
  rfl

theorem eq_of_mem_encoding {code n : Nat} (member : n ∈ encoding code) (ascii : n < 128) :
    n = code := by
  rw [encoding] at member
  split at member
  · simpa using member
  · exfalso
    split at member
    · simp at member; omega
    · split at member
      · simp at member; omega
      · simp at member; omega

/-- An ASCII byte occurs in no encoding but that of its own character. -/
theorem eq_of_mem_utf8EncodeChar {c : Char} {b : UInt8} (member : b ∈ String.utf8EncodeChar c)
    (ascii : b.toNat < 128) : b.toNat = c.toNat := by
  rw [utf8EncodeChar_eq] at member
  obtain ⟨n, among, rfl⟩ := List.mem_map.1 member
  have small := encoding_lt _ n among
  have value : (UInt8.ofNat n).toNat = n := by simp; omega
  rw [value] at ascii ⊢
  exact eq_of_mem_encoding among ascii

/-- A byte below 128 is the character of this number at this place, and conversely. -/
theorem getElem?_encoded_ascii {cs : List Char} {place : Nat} {b : UInt8} (ascii : b.toNat < 128) :
    (cs.flatMap String.utf8EncodeChar)[place]? = some b ↔
      ∃ front c back, cs = front ++ c :: back ∧ width front = place ∧ c.toNat = b.toNat := by
  constructor
  · intro there
    induction cs generalizing place with
    | nil => simp at there
    | cons c cs ih =>
      rw [List.flatMap_cons] at there
      by_cases inside : place < (String.utf8EncodeChar c).length
      · rw [List.getElem?_append_left inside] at there
        have number := eq_of_mem_utf8EncodeChar (List.mem_of_getElem? there) ascii
        have single := utf8EncodeChar_ascii (c := c) (by omega)
        rw [single] at inside
        refine ⟨[], c, cs, rfl, ?_, number.symm⟩
        simp at inside
        simp [inside]
      · rw [List.getElem?_append_right (by omega)] at there
        obtain ⟨front, d, back, rfl, before, number⟩ := ih there
        refine ⟨c :: front, d, back, rfl, ?_, number⟩
        rw [String.length_utf8EncodeChar] at inside before
        rw [width_cons, before]
        omega
  · rintro ⟨front, c, back, rfl, rfl, number⟩
    have single := utf8EncodeChar_ascii (c := c) (by omega)
    have same : UInt8.ofNat c.toNat = b := by rw [number, UInt8.ofNat_toNat]
    rw [List.flatMap_append, List.getElem?_append_right (by rw [length_flatMap_utf8EncodeChar]),
      length_flatMap_utf8EncodeChar, Nat.sub_self, List.flatMap_cons, single, same]
    rfl

end MockScaffold.Text
