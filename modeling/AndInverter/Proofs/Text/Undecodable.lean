import AndInverter.Text.Pieces

/-!
# Where decoding ends

Every byte string is the encoding of some characters and bytes behind it at which no character
begins. Decoding one character after the other finds this place, and a byte string that ends there
is the only kind that is a text.
-/
namespace AndInverter.Text

variable {bytes before rest : ByteArray} {front : List Char}

/-- No encoded character stands at the beginning of the bytes. -/
def Stuck (rest : ByteArray) : Prop := ∀ c tail, rest ≠ [c].utf8Encode ++ tail

theorem stuck_of_decode (none_found : rest.utf8DecodeChar? 0 = none) : Stuck rest := by
  rintro c tail rfl
  rw [List.utf8DecodeChar?_utf8Encode_singleton_append] at none_found
  cases none_found

theorem exists_tail_of_decode {c : Char} (found : bytes.utf8DecodeChar? 0 = some c) :
    ∃ tail, bytes = [c].utf8Encode ++ tail := by
  rw [List.utf8Encode_singleton]
  exact ByteArray.exists_of_utf8DecodeChar?_eq_some found

theorem size_utf8Encode_singleton (c : Char) : [c].utf8Encode.size = c.utf8Size := by
  rw [List.utf8Encode_singleton, List.size_toByteArray, String.length_utf8EncodeChar]

/-- Decoding behind some bytes does not look at them. -/
theorem utf8DecodeChar?_append (before rest : ByteArray) :
    (before ++ rest).utf8DecodeChar? before.size = rest.utf8DecodeChar? 0 := by
  rw [ByteArray.utf8DecodeChar?_eq_utf8DecodeChar?_extract,
    ByteArray.extract_append_eq_right rfl ByteArray.size_append]

theorem Stuck.decode_eq_none (stuck : Stuck rest) : rest.utf8DecodeChar? 0 = none := by
  cases found : rest.utf8DecodeChar? 0 with
  | none => rfl
  | some c =>
    obtain ⟨tail, split⟩ := exists_tail_of_decode found
    exact absurd split (stuck c tail)

/-- Decoding from behind some bytes goes through all encoded characters that stand there. -/
theorem validLength_append (stuck : Stuck rest) (front : List Char) (before : ByteArray) :
    validLength (before ++ (front.utf8Encode ++ rest)) before.size =
      before.size + front.utf8Encode.size := by
  induction front generalizing before with
  | nil =>
    rw [validLength, List.utf8Encode_nil, ByteArray.empty_append]
    split
    · rfl
    · next c found =>
      rw [utf8DecodeChar?_append, stuck.decode_eq_none] at found
      cases found
  | cons c more ih =>
    have here : (before ++ ((c :: more).utf8Encode ++ rest)).utf8DecodeChar? before.size =
        some c := by
      rw [utf8DecodeChar?_append, List.utf8Encode_cons, ByteArray.append_assoc,
        List.utf8DecodeChar?_utf8Encode_singleton_append]
    have shifted : before ++ ((c :: more).utf8Encode ++ rest) =
        (before ++ [c].utf8Encode) ++ (more.utf8Encode ++ rest) := by
      rw [List.utf8Encode_cons, ByteArray.append_assoc, ByteArray.append_assoc]
    have later := ih (before ++ [c].utf8Encode)
    rw [← shifted, ByteArray.size_append, size_utf8Encode_singleton] at later
    rw [validLength]
    split
    · next none_found =>
      rw [here] at none_found
      cases none_found
    · next d found =>
      obtain rfl : c = d := Option.some.inj (here.symm.trans found)
      rw [later, List.utf8Encode_cons, ByteArray.size_append, size_utf8Encode_singleton,
        Nat.add_assoc]

/-- The line of the first bytes that encode no character is found by counting the line feeds in
front of them. -/
theorem invalidLine_append (stuck : Stuck rest) (front : List Char) :
    invalidLine (front.utf8Encode ++ rest) = front.utf8Encode.data.toList.count 10 + 1 := by
  have length := validLength_append stuck front .empty
  rw [ByteArray.empty_append, ByteArray.size_empty, Nat.zero_add] at length
  rw [invalidLine, length, ByteArray.data_append, Array.toList_append]
  congr 2
  exact List.take_left' rfl

/-- Bytes are text up to a place where no character stands. -/
theorem exists_stuck (bytes : ByteArray) :
    ∃ (front : List Char) (rest : ByteArray), bytes = front.utf8Encode ++ rest ∧ Stuck rest := by
  cases found : bytes.utf8DecodeChar? 0 with
  | none => exact ⟨[], bytes, (ByteArray.empty_append).symm, stuck_of_decode found⟩
  | some c =>
    obtain ⟨tail, split⟩ := exists_tail_of_decode found
    have shorter : tail.size < bytes.size := by
      rw [split, ByteArray.size_append, size_utf8Encode_singleton]
      exact Nat.lt_add_of_pos_left c.utf8Size_pos
    obtain ⟨front, rest, rfl, stuck⟩ := exists_stuck tail
    have whole : (c :: front).utf8Encode = [c].utf8Encode ++ front.utf8Encode :=
      List.utf8Encode_cons
    exact ⟨c :: front, rest, by rw [split, whole, ByteArray.append_assoc], stuck⟩
termination_by bytes.size

/-- Bytes behind which something is left that encodes no character are not the beginning of any
text. -/
theorem utf8Encode_ne_of_stuck (stuck : Stuck rest) (more : rest ≠ .empty) (text : List Char) :
    text.utf8Encode ≠ front.utf8Encode ++ rest := by
  intro split
  obtain ⟨behind, rfl⟩ := List.isPrefix_of_utf8Encode_append_eq_utf8Encode rest split.symm
  rw [List.utf8Encode_append, ByteArray.append_right_inj] at split
  cases behind with
  | nil => exact more split.symm
  | cons c tail => exact stuck c tail.utf8Encode (split.symm.trans List.utf8Encode_cons)

end AndInverter.Text
