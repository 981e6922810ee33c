import MockScaffold.Json.Printer
import MockScaffold.Proofs.Json.Tokens
import MockScaffold.Proofs.Keyed
import MockScaffold.Proofs.Outcomes

/-!
The text of a value, in either layout, is read as the document that states the
value. A layout counts only for the tokens that it spells, which are the same for
both; numbers are left aside, as their numerals would run into what follows them.
The value that is read has its members in order, and is refused only if it is
nested too deep.
-/

namespace MockScaffold.Json

theorem readStringFrom_quote (read cs : List Char) :
    readStringFrom none read ('"' :: cs) = .ok (.ok (String.ofList read.reverse), cs) := by
  rw [readStringFrom, if_pos rfl]

theorem readStringFrom_escaped {cs rest : List Char} {d : Char}
    (escaped : readEscape cs = .ok (.ok d, rest)) (read : List Char) :
    readStringFrom none read ('\\' :: cs) = readStringFrom none (d :: read) rest := by
  rw [readStringFrom, if_neg (by decide), if_pos rfl]
  split
  · rename_i found
    rw [escaped] at found
    cases found
  · rename_i found
    rw [escaped] at found
    cases found
    rfl
  · rename_i found
    rw [escaped] at found
    cases found

theorem readStringFrom_plain {c : Char} (noQuote : c ≠ '"') (noEscape : c ≠ '\\')
    (printable : ¬ c.toNat < 0x20) (read cs : List Char) :
    readStringFrom none read (c :: cs) = readStringFrom none (c :: read) cs := by
  rw [readStringFrom, if_neg noQuote, if_neg noEscape, if_neg printable]

theorem hexValue?_hexDigit : ∀ n < 16, hexValue? (hexDigit n) = some n := by decide

/-- The escape of a control character is read as that character. -/
theorem readEscape_control {c : Char} (control : c.toNat < 0x20) (rest : List Char) :
    readEscape ('u' :: '0' :: '0' :: hexDigit (c.toNat / 16) :: hexDigit (c.toNat % 16) :: rest) =
      .ok (.ok c, rest) := by
  have zero : hexValue? '0' = some 0 := by decide
  have high := hexValue?_hexDigit (c.toNat / 16) (by omega)
  have low := hexValue?_hexDigit (c.toNat % 16) (by omega)
  have whole : 16 * (c.toNat / 16) + c.toNat % 16 = c.toNat := by omega
  have leading : isLeading c.toNat = false := by simp [isLeading]; omega
  have trailing : isTrailing c.toNat = false := by simp [isTrailing]; omega
  rw [readEscape, if_pos rfl, readCodePoint, readUnit, zero, high, low]
  simp [bind, Except.bind, pure, Except.pure, whole, leading, trailing]

/-- However a character is written in a string, it is read as itself. -/
theorem readStringFrom_escape (c : Char) (read cs : List Char) :
    readStringFrom none read (escape c ++ cs) = readStringFrom none (c :: read) cs := by
  rw [escape]
  split
  · subst_vars
    exact readStringFrom_escaped rfl read
  split
  · subst_vars
    exact readStringFrom_escaped rfl read
  split
  · subst_vars
    exact readStringFrom_escaped rfl read
  split
  · subst_vars
    exact readStringFrom_escaped rfl read
  split
  · subst_vars
    exact readStringFrom_escaped rfl read
  split
  · subst_vars
    exact readStringFrom_escaped rfl read
  split
  · subst_vars
    exact readStringFrom_escaped rfl read
  split
  · rename_i control
    exact readStringFrom_escaped (readEscape_control control cs) read
  · rename_i noQuote noEscape _ _ _ _ _ printable
    exact readStringFrom_plain noQuote noEscape printable read cs

/-- A text between quotes is read as itself, up to the closing quote. -/
theorem readStringFrom_body (text read cs : List Char) :
    readStringFrom none read (text.flatMap escape ++ '"' :: cs) =
      .ok (.ok (String.ofList (read.reverse ++ text)), cs) := by
  induction text generalizing read with
  | nil => simp [readStringFrom_quote]
  | cons c text ih =>
    rw [List.flatMap_cons, List.append_assoc, readStringFrom_escape, ih]
    simp

/-- Whatever stands behind a text, it is read as the given tokens first. -/
def Spells (cs : List Char) (ts : List Token) : Prop :=
  ∀ rest, tokens (cs ++ rest) = ts ++ tokens rest

theorem Spells.nil : Spells [] [] := fun _ => rfl

theorem Spells.append {cs ds : List Char} {ts us : List Token} (first : Spells cs ts)
    (second : Spells ds us) : Spells (cs ++ ds) (ts ++ us) := by
  intro rest
  rw [List.append_assoc, first, second, List.append_assoc]

/-- A sound token is split off the text. -/
theorem tokens_token {c : Char} {cs rest : List Char} {token : Token} (visible : isSpace c = false)
    (read : readToken c cs = (token, rest)) (sound : ∀ reason, token ≠ .fault reason) :
    tokens (c :: cs) = token :: tokens rest := by
  rw [tokens_cons, visible, read]
  cases token with
  | fault reason => exact absurd rfl (sound reason)
  | _ => rfl

theorem spells_space {cs : List Char} (blank : ∀ c ∈ cs, isSpace c = true) : Spells cs [] := by
  intro rest
  induction cs with
  | nil => rfl
  | cons c cs ih =>
    obtain ⟨first, others⟩ := List.forall_mem_cons.1 blank
    rw [List.cons_append, tokens_cons, if_pos first, ih others]

theorem spells_mark {c : Char} {token : Token} (mark : mark? c = some token) :
    Spells [c] [token] := by
  intro rest
  have read : readToken c rest = (token, rest) := by rw [readToken, mark]
  have visible : isSpace c = false := by
    revert mark
    fun_cases mark? c <;> simp [isSpace]
  refine tokens_token visible read fun reason same => ?_
  subst same
  revert mark
  fun_cases mark? c <;> simp

theorem spells_openArray : Spells "[".toList [.openArray] := spells_mark rfl

theorem spells_closeArray : Spells "]".toList [.closeArray] := spells_mark rfl

theorem spells_openObject : Spells "\x7b".toList [.openObject] := spells_mark rfl

theorem spells_closeObject : Spells "\x7d".toList [.closeObject] := spells_mark rfl

theorem spells_comma : Spells ",".toList [.comma] := spells_mark rfl

theorem spells_colon : Spells ":".toList [.colon] := spells_mark rfl

theorem spells_null : Spells "null".toList [.null] :=
  fun _ => tokens_token rfl rfl nofun

theorem spells_boolean (word : Bool) :
    Spells (if word then "true" else "false").toList [.boolean word] := by
  cases word with
  | true => exact fun _ => tokens_token rfl rfl nofun
  | false => exact fun _ => tokens_token rfl rfl nofun

theorem spells_quote (text : String) : Spells (quote text).toList [.string (.ok text)] := by
  intro rest
  have body := readStringFrom_body text.toList [] rest
  have read : readToken '"' (text.toList.flatMap escape ++ '"' :: rest) =
      (.string (.ok text), rest) := by
    change readStringToken _ = _
    rw [readStringToken, readString, body]
    simp
  rw [quote, String.toList_ofList, List.cons_append, List.append_assoc]
  exact tokens_token rfl read nofun

/-! ## Values -/

/-- A value without numbers, in which lists and objects are nested `depth` deep at most. -/
inductive Plain : Nat → Json → Prop
  | null {depth : Nat} : Plain depth .null
  | boolean {depth : Nat} (word : Bool) : Plain depth (.boolean word)
  | string {depth : Nat} (text : String) : Plain depth (.string text)
  | array {depth : Nat} {items : List Json} (inner : ∀ item ∈ items, Plain depth item) :
      Plain (depth + 1) (.array items)
  | object {depth : Nat} {members : List (String × Json)}
      (inner : ∀ member ∈ members, Plain depth member.2) : Plain (depth + 1) (.object members)

/-- A list of plain values is plain, one level deeper. -/
theorem plain_list {α : Type} {write : α → Json} {depth : Nat}
    (plain : ∀ a, Plain depth (write a)) (values : List α) :
    Plain (depth + 1) (.array (values.map write)) := by
  refine .array fun item among => ?_
  obtain ⟨a, -, rfl⟩ := List.mem_map.1 among
  exact plain a

theorem plain_optional {α : Type} {write : α → String × Json} {depth : Nat}
    (plain : ∀ a, Plain depth (write a).2) (value : Option α) :
    ∀ member ∈ (value.map write).toList, Plain depth member.2 := by
  intro member among
  obtain ⟨a, -, rfl⟩ := Option.map_eq_some_iff.1 (Option.mem_toList.1 among)
  exact plain a

mutual

/-- The tokens of a value, however it is laid out. -/
def tokensOf : Json → List Token
  | .null => [.null]
  | .boolean word => [.boolean word]
  | .number n => [.number (.ok n)]
  | .string text => [.string (.ok text)]
  | .array [] => [.openArray, .closeArray]
  | .array (item :: items) =>
    [.openArray] ++ tokensOf item ++ itemTokens items ++ [.closeArray]
  | .object [] => [.openObject, .closeObject]
  | .object ((key, value) :: members) =>
    [.openObject] ++ [.string (.ok key)] ++ [.colon] ++ tokensOf value ++ memberTokens members ++
      [.closeObject]

def itemTokens : List Json → List Token
  | [] => []
  | item :: items => [.comma] ++ tokensOf item ++ itemTokens items

def memberTokens : List (String × Json) → List Token
  | [] => []
  | (key, value) :: members =>
    [.comma] ++ [.string (.ok key)] ++ [.colon] ++ tokensOf value ++ memberTokens members

end

mutual

/-- A value on one line spells its tokens. -/
theorem spells_compact : ∀ (value : Json) {depth : Nat}, Plain depth value →
    Spells value.compact.toList (tokensOf value)
  | .null, _, _ => spells_null
  | .boolean word, _, _ => spells_boolean word
  | .string text, _, _ => spells_quote text
  | .array [], _, _ => spells_openArray.append spells_closeArray
  | .array (item :: items), _, .array inner => by
    obtain ⟨first, others⟩ := List.forall_mem_cons.1 inner
    simp only [compact, tokensOf, String.toList_append]
    exact ((spells_openArray.append (spells_compact item first)).append
      (spells_compactItems items others)).append spells_closeArray
  | .object [], _, _ => spells_openObject.append spells_closeObject
  | .object ((key, value) :: members), _, .object inner => by
    obtain ⟨first, others⟩ := List.forall_mem_cons.1 inner
    simp only [compact, tokensOf, String.toList_append]
    exact ((((spells_openObject.append (spells_quote key)).append spells_colon).append
      (spells_compact value first)).append (spells_compactMembers members others)).append
        spells_closeObject

theorem spells_compactItems : ∀ (items : List Json) {depth : Nat},
    (∀ item ∈ items, Plain depth item) → Spells (compactItems items).toList (itemTokens items)
  | [], _, _ => .nil
  | item :: items, _, inner => by
    obtain ⟨first, others⟩ := List.forall_mem_cons.1 inner
    simp only [compactItems, itemTokens, String.toList_append]
    exact (spells_comma.append (spells_compact item first)).append
      (spells_compactItems items others)

theorem spells_compactMembers : ∀ (members : List (String × Json)) {depth : Nat},
    (∀ member ∈ members, Plain depth member.2) →
      Spells (compactMembers members).toList (memberTokens members)
  | [], _, _ => .nil
  | (key, value) :: members, _, inner => by
    obtain ⟨first, others⟩ := List.forall_mem_cons.1 inner
    simp only [compactMembers, memberTokens, String.toList_append]
    exact (((spells_comma.append (spells_quote key)).append spells_colon).append
      (spells_compact value first)).append (spells_compactMembers members others)

end

theorem Spells.spaced {cs space : List Char} {ts : List Token} (spells : Spells cs ts)
    (blank : ∀ c ∈ space, isSpace c = true) : Spells (cs ++ space) ts := by
  simpa using spells.append (spells_space blank)

theorem newLine_blank (depth : Nat) : ∀ c ∈ (newLine depth).toList, isSpace c = true := by
  simp [newLine, isSpace]

theorem spells_colon_space : Spells ": ".toList [.colon] := by
  have spaced : Spells (":".toList ++ " ".toList) [.colon] :=
    spells_colon.spaced (by simp [isSpace])
  rwa [← String.toList_append] at spaced

mutual

/-- A value on several lines spells the same tokens, at every level. -/
theorem spells_prettyAt : ∀ (value : Json) (level : Nat) {depth : Nat}, Plain depth value →
    Spells (value.prettyAt level).toList (tokensOf value)
  | .null, _, _, _ => spells_null
  | .boolean word, _, _, _ => spells_boolean word
  | .string text, _, _, _ => spells_quote text
  | .array [], _, _, _ => by
    rw [prettyAt, tokensOf]
    exact spells_openArray.append spells_closeArray
  | .array (item :: items), level, _, .array inner => by
    obtain ⟨first, others⟩ := List.forall_mem_cons.1 inner
    simp only [prettyAt, tokensOf, String.toList_append]
    exact ((((spells_openArray.spaced (newLine_blank _)).append
      (spells_prettyAt item (level + 1) first)).append
        (spells_prettyItemsAt items (level + 1) others)).spaced (newLine_blank _)).append
          spells_closeArray
  | .object [], _, _, _ => by
    rw [prettyAt, tokensOf]
    exact spells_openObject.append spells_closeObject
  | .object ((key, value) :: members), level, _, .object inner => by
    obtain ⟨first, others⟩ := List.forall_mem_cons.1 inner
    simp only [prettyAt, tokensOf, String.toList_append]
    exact ((((((spells_openObject.spaced (newLine_blank _)).append (spells_quote key)).append
      spells_colon_space).append (spells_prettyAt value (level + 1) first)).append
        (spells_prettyMembersAt members (level + 1) others)).spaced (newLine_blank _)).append
          spells_closeObject

theorem spells_prettyItemsAt : ∀ (items : List Json) (level : Nat) {depth : Nat},
    (∀ item ∈ items, Plain depth item) →
      Spells (prettyItemsAt level items).toList (itemTokens items)
  | [], _, _, _ => .nil
  | item :: items, level, _, inner => by
    obtain ⟨first, others⟩ := List.forall_mem_cons.1 inner
    simp only [prettyItemsAt, itemTokens, String.toList_append]
    exact ((spells_comma.spaced (newLine_blank _)).append
      (spells_prettyAt item level first)).append (spells_prettyItemsAt items level others)

theorem spells_prettyMembersAt : ∀ (members : List (String × Json)) (level : Nat) {depth : Nat},
    (∀ member ∈ members, Plain depth member.2) →
      Spells (prettyMembersAt level members).toList (memberTokens members)
  | [], _, _, _ => .nil
  | (key, value) :: members, level, _, inner => by
    obtain ⟨first, others⟩ := List.forall_mem_cons.1 inner
    simp only [prettyMembersAt, memberTokens, String.toList_append]
    exact ((((spells_comma.spaced (newLine_blank _)).append (spells_quote key)).append
      spells_colon_space).append (spells_prettyAt value level first)).append
        (spells_prettyMembersAt members level others)

end

theorem readTokens_append (reader : Reader) (ts us : List Token) :
    readTokens reader (ts ++ us) = readTokens (readTokens reader ts) us := List.foldl_append

theorem readTokens_firstItem (frames : List Frame) (value : Json) :
    readTokens (.firstItem frames) (tokensOf value) =
      readTokens (.value (.array [] :: frames)) (tokensOf value) := by
  fun_cases tokensOf value <;> rfl

mutual

/-- A reader that expects a value takes the tokens of one as its document. -/
theorem readTokens_value : ∀ (value : Json) (frames : List Frame),
    readTokens (.value frames) (tokensOf value) = Reader.complete (Document.ofJson value) frames
  | .null, _ => rfl
  | .boolean _, _ => rfl
  | .number _, _ => rfl
  | .string _, _ => rfl
  | .array [], _ => rfl
  | .array (item :: items), frames => by
    have opened : readTokens (.value frames) [.openArray] = .firstItem frames := rfl
    rw [tokensOf, readTokens_append, readTokens_append, readTokens_append, opened,
      readTokens_firstItem, readTokens_value item, Reader.complete, readTokens_items items]
    simp [readTokens, Reader.take, Document.ofJson, Document.ofItems]
  | .object [], _ => rfl
  | .object ((key, value) :: members), frames => by
    have opened : readTokens (readTokens (readTokens (.value frames) [.openObject])
        [.string (.ok key)]) [.colon] = .value (.object [] (.ok key) :: frames) := rfl
    rw [tokensOf, readTokens_append, readTokens_append, readTokens_append, readTokens_append,
      readTokens_append, opened, readTokens_value value, Reader.complete,
      readTokens_members members]
    simp [readTokens, Reader.take, Document.ofJson, Document.ofMembers]

theorem readTokens_items : ∀ (items : List Json) (frames : List Frame) (before : List Document),
    readTokens (.afterItem frames before) (itemTokens items) =
      .afterItem frames ((Document.ofItems items).reverse ++ before)
  | [], _, _ => rfl
  | item :: items, frames, before => by
    have behind : readTokens (.afterItem frames before) [.comma] =
        .value (.array before :: frames) := rfl
    rw [itemTokens, readTokens_append, readTokens_append, behind, readTokens_value item,
      Reader.complete, readTokens_items items]
    simp [Document.ofItems]

theorem readTokens_members : ∀ (members : List (String × Json)) (frames : List Frame)
    (before : List (Key × Document)),
    readTokens (.afterMember frames before) (memberTokens members) =
      .afterMember frames ((Document.ofMembers members).reverse ++ before)
  | [], _, _ => rfl
  | (key, value) :: members, frames, before => by
    have behind : readTokens (readTokens (readTokens (.afterMember frames before) [.comma])
        [.string (.ok key)]) [.colon] = .value (.object before (.ok key) :: frames) := rfl
    rw [memberTokens, readTokens_append, readTokens_append, readTokens_append, readTokens_append,
      behind, readTokens_value value, Reader.complete, readTokens_members members]
    simp [Document.ofMembers]

end

/-- A text that spells the tokens of a value is read as its document, to the end. -/
theorem read_of_spells {text : String} {value : Json}
    (spells : Spells text.toList (tokensOf value)) :
    read text = ⟨Document.ofJson value, false⟩ := by
  have whole : tokens text.toList = tokensOf value := by
    have := spells []
    rwa [List.append_nil, tokens, List.append_nil] at this
  rw [read, whole, readTokens_value]
  rfl

/-! ## Reading values back -/

mutual

/-- A value with the members of its objects in ascending order; of those with one key the last. -/
def sort : Json → Json
  | .array items => .array (sortItems items)
  | .object members => .object (sortMembers [] members)
  | value => value

def sortItems : List Json → List Json
  | [] => []
  | item :: items => item.sort :: sortItems items

def sortMembers (before : List (String × Json)) : List (String × Json) → List (String × Json)
  | [] => before
  | (key, value) :: members => sortMembers (Keyed.insert key value.sort before) members

end

theorem sortItems_eq_map (items : List Json) : sortItems items = items.map sort := by
  induction items with
  | nil => rfl
  | cons item items ih => rw [sortItems, ih, List.map_cons]

theorem sort_array (items : List Json) : (Json.array items).sort = .array (items.map sort) := by
  rw [sort, sortItems_eq_map]

theorem sort_strings (texts : List String) :
    (Json.array (texts.map .string)).sort = .array (texts.map .string) := by
  rw [sort_array, List.map_map]
  rfl

theorem sort_optional (text : Option String) :
    (Json.ofOptionalString text).sort = text.elim .null .string := by
  cases text <;> rfl

/-- Sorted members have the last value of each key, or what was there before. -/
theorem lookup?_sortMembers {members : List (String × Json)}
    (distinct : (members.map (·.1)).Nodup) (key : String) (before : List (String × Json)) :
    Keyed.lookup? key (sortMembers before members) =
      ((Keyed.lookup? key members).map sort).or (Keyed.lookup? key before) := by
  induction members generalizing before with
  | nil => rfl
  | cons member members ih =>
    obtain ⟨other, value⟩ := member
    obtain ⟨fresh, distinct⟩ := List.nodup_cons.1 distinct
    rw [sortMembers, ih distinct, Keyed.lookup?_insert, Keyed.lookup?]
    by_cases same : other = key
    · subst same
      rw [if_pos rfl, if_pos rfl, Keyed.lookup?_eq_none_iff.2 fresh]
      rfl
    · rw [if_neg same, if_neg same]

/-- Where every key is there once, putting the members in order changes no look-up. -/
theorem member?_sort {members : List (String × Json)} (keys : List String)
    (stated : members.map (·.1) = keys) (distinct : keys.Nodup) (key : String) :
    (Json.object members).sort.member? key = ((Json.object members).member? key).map sort := by
  rw [sort]
  exact (lookup?_sortMembers (stated ▸ distinct) key []).trans (Option.or_none ..)

mutual

/-- A value that is nested no deeper than there is room for is given back, sorted. -/
theorem toJsonWithin_ofJson : ∀ (value : Json) {depth room : Nat}, Plain depth value →
    depth ≤ room → (Document.ofJson value).toJsonWithin room = .ok value.sort
  | .null, _, _, _, _ => rfl
  | .boolean _, _, _, _, _ => rfl
  | .string _, _, _, _, _ => rfl
  | .array items, _, 0, .array _, fits => absurd fits (Nat.not_succ_le_zero _)
  | .array items, _, room + 1, .array inner, fits => by
    rw [Document.ofJson, Document.toJsonWithin,
      itemsToJson_ofItems items inner (Nat.le_of_succ_le_succ fits), sort]
    rfl
  | .object members, _, 0, .object _, fits => absurd fits (Nat.not_succ_le_zero _)
  | .object members, _, room + 1, .object inner, fits => by
    rw [Document.ofJson, Document.toJsonWithin,
      membersToJson_ofMembers members [] inner (Nat.le_of_succ_le_succ fits), sort]
    rfl

theorem itemsToJson_ofItems : ∀ (items : List Json) {depth room : Nat},
    (∀ item ∈ items, Plain depth item) → depth ≤ room →
      Document.itemsToJson room (Document.ofItems items) = .ok (sortItems items)
  | [], _, _, _, _ => rfl
  | item :: items, _, room, inner, fits => by
    obtain ⟨first, others⟩ := List.forall_mem_cons.1 inner
    rw [Document.ofItems, Document.itemsToJson, toJsonWithin_ofJson item first fits,
      itemsToJson_ofItems items others fits, sortItems]
    rfl

theorem membersToJson_ofMembers : ∀ (members before : List (String × Json)) {depth room : Nat},
    (∀ member ∈ members, Plain depth member.2) → depth ≤ room →
      Document.membersToJson room before (Document.ofMembers members) =
        .ok (sortMembers before members)
  | [], _, _, _, _, _ => rfl
  | (key, value) :: members, before, _, room, inner, fits => by
    obtain ⟨first, others⟩ := List.forall_mem_cons.1 inner
    rw [Document.ofMembers, Document.membersToJson, toJsonWithin_ofJson value first fits,
      sortMembers]
    exact membersToJson_ofMembers members _ others fits

end

/-- In either layout a plain value is parsed as itself, sorted. -/
theorem parse_of_spells {text : String} {value : Json} {depth : Nat} (plain : Plain depth value)
    (fits : depth ≤ maxDepth) (spells : Spells text.toList (tokensOf value)) :
    parse text = .ok value.sort := by
  rw [parse, read_of_spells spells]
  simp [Document.toJson, toJsonWithin_ofJson value plain fits, bind, Except.bind]

end MockScaffold.Json
