import MockScaffold.Json.Document

namespace MockScaffold.Json

theorem tokens_cons (c : Char) (cs : List Char) :
    tokens (c :: cs) =
      if isSpace c then tokens cs
      else match readToken c cs with
        | (.fault reason, _) => [.fault reason]
        | (token, rest) => token :: tokens rest := by
  rw [tokens]
  split
  · rfl
  · split
    · rename_i reason rest found
      rw [found]
    · rename_i token rest noFault found
      change token :: tokens rest = _
      rw [found]
      cases token with
      | fault reason => exact absurd rfl (noFault reason)
      | _ => rfl

/-- The tokens of a text of at most `room` characters. -/
def tokensWithin : Nat → List Char → List Token
  | 0, _ | _, [] => []
  | room + 1, c :: cs =>
    if isSpace c then tokensWithin room cs
    else match readToken c cs with
      | (.fault reason, _) => [.fault reason]
      | (token, rest) => token :: tokensWithin room rest

/-- With room for the whole text, all its tokens are read. -/
theorem tokensWithin_eq {room : Nat} {cs : List Char} (fits : cs.length ≤ room) :
    tokensWithin room cs = tokens cs := by
  induction room generalizing cs with
  | zero => rw [List.length_eq_zero_iff.1 (Nat.le_zero.1 fits), tokensWithin, tokens]
  | succ room ih =>
    cases cs with
    | nil =>
      rw [tokens]
      rfl
    | cons c cs =>
      have shorter : cs.length ≤ room := Nat.le_of_succ_le_succ fits
      have rest := Nat.le_trans (readToken_length c cs) shorter
      rw [tokensWithin, tokens_cons, ih shorter]
      cases found : readToken c cs with
      | mk token tail =>
        rw [found] at rest
        cases token with
        | fault reason => rfl
        | _ => simp only [ih rest]

theorem read_eq (text : String) :
    read text =
      let reader := readTokens (.value []) (tokensWithin text.toList.length text.toList)
      ⟨reader.finish, reader.isOverrun⟩ := by
  rw [tokensWithin_eq (Nat.le_refl _)]
  rfl

end MockScaffold.Json
