import TokenConformance.Json.Reader
import TokenConformance.Proofs.Json.Literals

/-! # Values are read as they are written

Between a value and its text stand its tokens: the reader of tokens gives them back from the text,
and the reader of values gives the value back from them. Both steps are taken with what comes after
the value, and the second one also with what stands around it.

* `tokens`: the tokens of a value in the order of its text.
* `value?_tokens`: the tokens of a value are read as the value.
* `Writable`: the fraction of every number is made of decimal digits.
* `tokensAfter_written`: the text of a value is cut into its tokens, at any level of nesting.
* `ofText?_pretty_append`: the text of a value is read as the value, also with blanks after it.
-/

namespace TokenConformance.Json

/-! ## Values and tokens -/

mutual

/-- The tokens of a value. -/
def tokens : Json → List Token
  | .null => [.null]
  | .bool b => [.bool b]
  | .number n => [.number n]
  | .string s => [.text s]
  | .array [] => [.leftBracket, .rightBracket]
  | .array (item :: rest) =>
    .leftBracket :: (tokens item ++ (tokensOfItems rest ++ [.rightBracket]))
  | .object [] => [.leftBrace, .rightBrace]
  | .object ((key, value) :: rest) =>
    .leftBrace :: .text key :: .colon :: (tokens value ++ (tokensOfFields rest ++ [.rightBrace]))

/-- The tokens of the further elements of an array. -/
def tokensOfItems : List Json → List Token
  | [] => []
  | item :: rest => .comma :: (tokens item ++ tokensOfItems rest)

/-- The tokens of the further fields of an object. -/
def tokensOfFields : List (Option String × Json) → List Token
  | [] => []
  | (key, value) :: rest => .comma :: .text key :: .colon :: (tokens value ++ tokensOfFields rest)

end

/-- No value begins with a closing bracket. -/
theorem tokens_append_ne_rightBracket (j : Json) (ts rest : List Token) :
    tokens j ++ ts ≠ .rightBracket :: rest := by
  cases j with
  | array items => cases items <;> simp [tokens]
  | object fields => cases fields <;> simp [tokens]
  | _ => simp [tokens]

/-- No value looks like a key, unless a colon comes after it. -/
theorem tokens_append_ne_key (j : Json) {ts : List Token} (hts : ∀ rest, ts ≠ .colon :: rest)
    (key : Option String) (rest : List Token) : tokens j ++ ts ≠ .text key :: .colon :: rest := by
  cases j with
  | string s => simp [tokens, hts rest]
  | array items => cases items <;> simp [tokens]
  | object fields => cases fields <;> simp [tokens]
  | _ => simp [tokens]

theorem tokensOfItems_append_ne_colon (items : List Json) (rest rest' : List Token) :
    tokensOfItems items ++ .rightBracket :: rest ≠ .colon :: rest' := by
  cases items <;> simp [tokensOfItems]

theorem value?_leftBracket {ts : List Token} (h : ∀ rest, ts ≠ .rightBracket :: rest)
    (frames : List Frame) :
    value? frames (.leftBracket :: ts) = value? (.array [] :: frames) ts := by
  rw [value?.eq_def]
  split <;> grind

theorem after?_comma {ts : List Token} (h : ∀ key rest, ts ≠ .text key :: .colon :: rest)
    (items : List Json) (frames : List Frame) (j : Json) :
    after? (.array items :: frames) j (.comma :: ts) =
      value? (.array (j :: items) :: frames) ts := by
  rw [after?.eq_def]
  split <;> grind

mutual

/-- The tokens of a value are read as the value. -/
theorem value?_tokens (frames : List Frame) (rest : List Token) :
    ∀ j : Json, value? frames (tokens j ++ rest) = after? frames j rest
  | .null => rfl
  | .bool _ => rfl
  | .number _ => rfl
  | .string _ => rfl
  | .array [] => by rw [tokens, List.cons_append, List.cons_append, value?, List.nil_append]
  | .array (item :: items) => by
    rw [tokens, List.cons_append, List.append_assoc, List.append_assoc, List.singleton_append,
      value?_leftBracket (tokens_append_ne_rightBracket item _), value?_tokens _ _ item,
      after?_tokensOfItems frames rest [] item items]
    rfl
  | .object [] => by rw [tokens, List.cons_append, List.cons_append, value?, List.nil_append]
  | .object ((key, value) :: fields) => by
    rw [tokens, List.cons_append, List.cons_append, List.cons_append, List.append_assoc,
      List.append_assoc, List.singleton_append, value?, value?_tokens _ _ value,
      after?_tokensOfFields frames rest [] key value fields]
    rfl

/-- The further elements of an array are read after those that have been read. -/
theorem after?_tokensOfItems (frames : List Frame) (rest : List Token) (read : List Json)
    (j : Json) : ∀ items : List Json,
    after? (.array read :: frames) j (tokensOfItems items ++ .rightBracket :: rest) =
      after? frames (.array ((j :: read).reverse ++ items)) rest
  | [] => by rw [tokensOfItems, List.nil_append, after?, List.append_nil]
  | item :: items => by
    rw [tokensOfItems, List.cons_append, List.append_assoc,
      after?_comma (tokens_append_ne_key item (tokensOfItems_append_ne_colon items rest)),
      value?_tokens _ _ item, after?_tokensOfItems frames rest (j :: read) item items,
      List.reverse_cons (a := item), List.append_assoc, List.singleton_append]

/-- The further fields of an object are read after those that have been read. -/
theorem after?_tokensOfFields (frames : List Frame) (rest : List Token)
    (read : List (Option String × Json)) (key : Option String) (j : Json) :
    ∀ fields : List (Option String × Json),
    after? (.object read key :: frames) j (tokensOfFields fields ++ .rightBrace :: rest) =
      after? frames (.object (((key, j) :: read).reverse ++ fields)) rest
  | [] => by rw [tokensOfFields, List.nil_append, after?, List.append_nil]
  | (key', value) :: fields => by
    rw [tokensOfFields, List.cons_append, List.cons_append, List.cons_append, List.append_assoc,
      after?, value?_tokens _ _ value,
      after?_tokensOfFields frames rest ((key, j) :: read) key' value fields,
      List.reverse_cons (a := (key', value)), List.append_assoc, List.singleton_append]

end

/-! ## Texts and tokens -/

/-- A value of which every number has decimal digits after its point. -/
inductive Writable : Json → Prop
  | null : Writable .null
  | bool (b : Bool) : Writable (.bool b)
  | number {n : Number} (h : ∀ d ∈ n.fraction, d < 10) : Writable (.number n)
  | string (s : Option String) : Writable (.string s)
  | array {items : List Json} (h : ∀ item ∈ items, Writable item) : Writable (.array items)
  | object {fields : List (Option String × Json)} (h : ∀ f ∈ fields, Writable f.2) :
    Writable (.object fields)

attribute [simp] Writable.null Writable.bool Writable.string

@[simp] theorem writable_number_iff {n : Number} :
    Writable (.number n) ↔ ∀ d ∈ n.fraction, d < 10 :=
  ⟨fun | .number h => h, .number⟩

@[simp] theorem writable_array_iff {items : List Json} :
    Writable (.array items) ↔ ∀ item ∈ items, Writable item :=
  ⟨fun | .array h => h, .array⟩

@[simp] theorem writable_object_iff {fields : List (Option String × Json)} :
    Writable (.object fields) ↔ ∀ f ∈ fields, Writable f.2 :=
  ⟨fun | .object h => h, .object⟩

theorem tokensAfter_eq (read : List Token) (cs : List (Option Char)) :
    tokensAfter read cs =
      match cs.dropWhile isSpace with
      | [] => some read.reverse
      | c :: cs =>
        (token? (c :: cs)).bind fun (t, rest) => tokensAfter (t :: read) rest := by
  rw [tokensAfter.eq_def]
  split
  · next h => rw [h]
  · next h =>
    rw [h]
    dsimp only
    split
    · next ht => rw [ht, Option.bind_none]
    · next ht => rw [ht, Option.bind_some]

/-- Blanks between tokens are skipped. -/
theorem tokensAfter_spaces (read : List Token) {spaces : List Char}
    (h : ∀ c ∈ spaces, isSpace (some c) = true) (cs : List (Option Char)) :
    tokensAfter read (spaces.map some ++ cs) = tokensAfter read cs := by
  have hspaces : ∀ c ∈ spaces.map some, isSpace c = true := by
    intro c hc
    obtain ⟨d, hd, rfl⟩ := List.mem_map.1 hc
    exact h d hd
  rw [tokensAfter_eq, tokensAfter_eq read cs, List.dropWhile_append_of_pos hspaces]

theorem tokensAfter_newLine (read : List Token) (level : Nat) (cs : List (Option Char)) :
    tokensAfter read ((newLine level).map some ++ cs) = tokensAfter read cs := by
  refine tokensAfter_spaces read (fun c hc => ?_) cs
  rcases List.mem_cons.1 hc with rfl | hc
  · rfl
  · rw [List.eq_of_mem_replicate hc]
    rfl

/-- A token at the start of a text is the next one. -/
theorem tokensAfter_token {c : Option Char} {cs rest : List (Option Char)} {t : Token}
    (hc : isSpace c = false) (ht : token? (c :: cs) = some (t, rest)) (read : List Token) :
    tokensAfter read (c :: cs) = tokensAfter (t :: read) rest := by
  rw [tokensAfter_eq, List.dropWhile_cons_of_neg (by rw [hc]; decide)]
  dsimp only
  rw [ht, Option.bind_some]

theorem isSpace_of_isDigit {c : Char} (h : c = '-' ∨ c.isDigit = true) :
    isSpace (some c) = false := by
  rcases h with rfl | h
  · rfl
  · unfold isSpace
    simp only [Bool.or_eq_false_iff, beq_eq_false_iff_ne, ne_eq, Option.some.injEq]
    refine ⟨⟨⟨?_, ?_⟩, ?_⟩, ?_⟩ <;> rintro rfl <;> exact absurd h (by decide)

theorem tokensAfter_number {n : Number} (hn : ∀ d ∈ n.fraction, d < 10)
    {rest : List (Option Char)} (h : NumberEnds rest) (read : List Token) :
    tokensAfter read (n.written.map some ++ rest) = tokensAfter (.number n :: read) rest := by
  have htoken := token?_number hn h
  obtain ⟨c, cs, hcs, hc⟩ := exists_written_cons n
  rw [hcs] at htoken ⊢
  exact tokensAfter_token (isSpace_of_isDigit hc) htoken read

theorem tokensAfter_quoted (s : Option String) (rest : List (Option Char)) (read : List Token) :
    tokensAfter read ((quoted s).map some ++ rest) = tokensAfter (.text s :: read) rest := by
  have htoken := token?_quoted s rest
  cases s with
  | none => exact tokensAfter_token rfl htoken read
  | some s => exact tokensAfter_token rfl htoken read

/-- No number literal goes on with a bracket, a comma or a line end. -/
theorem numberEnds_cons {c : Char} (hc : c ∈ [']', '}', ',', '\n'])
    (rest : List (Option Char)) : NumberEnds (some c :: rest) := by
  intro c' rest' h
  obtain rfl := Option.some.inj (List.cons.inj h).1
  have hall : ∀ c ∈ [']', '}', ',', '\n'], c.isDigit = false ∧ c ≠ '.' ∧ c ≠ 'e' ∧ c ≠ 'E' := by
    simp
  exact hall c hc

theorem numberEnds_items (level level' : Nat) (items : List Json) (rest : List (Option Char)) :
    NumberEnds ((writtenItems level items).map some ++ ((newLine level').map some ++ rest)) := by
  cases items with
  | nil => exact numberEnds_cons (by decide) _
  | cons item items => rw [writtenItems]; exact numberEnds_cons (by decide) _

theorem numberEnds_fields (level level' : Nat) (fields : List (Option String × Json))
    (rest : List (Option Char)) :
    NumberEnds ((writtenFields level fields).map some ++ ((newLine level').map some ++ rest)) := by
  cases fields with
  | nil => exact numberEnds_cons (by decide) _
  | cons f fields => rw [writtenFields]; exact numberEnds_cons (by decide) _

/-- A closing bracket stands on a line of its own. -/
theorem tokensAfter_closing {c : Char} {t : Token}
    (ht : ∀ rest, token? (some c :: rest) = some (t, rest)) (hc : isSpace (some c) = false)
    (read : List Token) (level : Nat) (rest : List (Option Char)) :
    tokensAfter read ((newLine level).map some ++ some c :: rest) =
      tokensAfter (t :: read) rest := by
  rw [tokensAfter_newLine, tokensAfter_token hc (ht rest)]

/-- A key stands on a line of its own, and its colon is followed by a blank. -/
theorem tokensAfter_key (read : List Token) (level : Nat) (key : Option String)
    (rest : List (Option Char)) :
    tokensAfter read ((newLine level).map some ++
        ((quoted key).map some ++ some ':' :: some ' ' :: rest)) =
      tokensAfter (.colon :: .text key :: read) rest := by
  have hblank : ∀ c ∈ [' '], isSpace (some c) = true := by simp [isSpace]
  rw [tokensAfter_newLine, tokensAfter_quoted, tokensAfter_token (t := .colon) rfl rfl]
  exact tokensAfter_spaces _ hblank rest

mutual

/-- The text of a value is cut into its tokens. -/
theorem tokensAfter_written (level : Nat) (read : List Token) {rest : List (Option Char)}
    (hrest : NumberEnds rest) : ∀ {j : Json}, Writable j →
    tokensAfter read ((written level j).map some ++ rest) =
      tokensAfter ((tokens j).reverse ++ read) rest
  | .null, _ => tokensAfter_token rfl rfl read
  | .bool true, _ => tokensAfter_token rfl rfl read
  | .bool false, _ => tokensAfter_token rfl rfl read
  | .number _, .number hn => tokensAfter_number hn hrest read
  | .string s, _ => tokensAfter_quoted s rest read
  | .array [], _ => by
    rw [written]
    exact (tokensAfter_token rfl rfl read).trans (tokensAfter_token rfl rfl _)
  | .array (item :: items), .array h => by
    obtain ⟨hitem, hitems⟩ := List.forall_mem_cons.1 h
    simp only [written, tokens, List.map_append, List.map_cons, List.map_nil, List.append_assoc,
      List.cons_append, List.nil_append]
    rw [tokensAfter_token (t := .leftBracket) rfl rfl, tokensAfter_newLine,
      tokensAfter_written (level + 1) _ (numberEnds_items _ _ _ _) hitem,
      tokensAfter_writtenItems (level + 1) level _ hitems]
    simp
  | .object [], _ => by
    rw [written]
    exact (tokensAfter_token rfl rfl read).trans (tokensAfter_token rfl rfl _)
  | .object ((key, value) :: fields), .object h => by
    obtain ⟨hvalue, hfields⟩ := List.forall_mem_cons.1 h
    simp only [written, tokens, List.map_append, List.map_cons, List.map_nil, List.append_assoc,
      List.cons_append, List.nil_append]
    rw [tokensAfter_token (t := .leftBrace) rfl rfl, tokensAfter_key,
      tokensAfter_written (level + 1) _ (numberEnds_fields _ _ _ _) hvalue,
      tokensAfter_writtenFields (level + 1) level _ hfields]
    simp

/-- The further elements of an array are cut into their tokens, up to the closing bracket. -/
theorem tokensAfter_writtenItems (level level' : Nat) (read : List Token)
    {rest : List (Option Char)} : ∀ {items : List Json}, (∀ item ∈ items, Writable item) →
    tokensAfter read ((writtenItems level items).map some ++
        ((newLine level').map some ++ some ']' :: rest)) =
      tokensAfter (.rightBracket :: ((tokensOfItems items).reverse ++ read)) rest
  | [], _ => tokensAfter_closing (fun _ => rfl) rfl read level' rest
  | item :: items, h => by
    obtain ⟨hitem, hitems⟩ := List.forall_mem_cons.1 h
    simp only [writtenItems, tokensOfItems, List.map_append, List.map_cons, List.append_assoc,
      List.cons_append]
    rw [tokensAfter_token (t := .comma) rfl rfl, tokensAfter_newLine,
      tokensAfter_written level _ (numberEnds_items _ _ _ _) hitem,
      tokensAfter_writtenItems level level' _ hitems]
    simp

/-- The further fields of an object are cut into their tokens, up to the closing bracket. -/
theorem tokensAfter_writtenFields (level level' : Nat) (read : List Token)
    {rest : List (Option Char)} : ∀ {fields : List (Option String × Json)},
    (∀ f ∈ fields, Writable f.2) →
    tokensAfter read ((writtenFields level fields).map some ++
        ((newLine level').map some ++ some '}' :: rest)) =
      tokensAfter (.rightBrace :: ((tokensOfFields fields).reverse ++ read)) rest
  | [], _ => tokensAfter_closing (fun _ => rfl) rfl read level' rest
  | (key, value) :: fields, h => by
    obtain ⟨hvalue, hfields⟩ := List.forall_mem_cons.1 h
    simp only [writtenFields, tokensOfFields, List.map_append, List.map_cons, List.append_assoc,
      List.cons_append, List.nil_append]
    rw [tokensAfter_token (t := .comma) rfl rfl, tokensAfter_key,
      tokensAfter_written level _ (numberEnds_fields _ _ _ _) hvalue,
      tokensAfter_writtenFields level level' _ hfields]
    simp

end

/-! ## Whole texts -/

/-- The text of a value is read as the value, also with blanks after it. -/
theorem ofText?_pretty_append {j : Json} (h : Writable j) {spaces : List Char}
    (hspaces : ∀ c ∈ spaces, isSpace (some c) = true) (hends : NumberEnds (spaces.map some)) :
    ofText? (j.pretty ++ String.ofList spaces) = some j := by
  have htokens : tokens? ((j.pretty ++ String.ofList spaces).toList.map some) =
      some (tokens j) := by
    rw [pretty, String.toList_append, String.toList_ofList, String.toList_ofList,
      List.map_append, tokens?, tokensAfter_written 0 [] hends h,
      ← List.append_nil (spaces.map some), tokensAfter_spaces _ hspaces, tokensAfter_eq,
      List.append_nil]
    exact congrArg some (List.reverse_reverse (tokens j))
  rw [ofText?, ofPieces?, htokens, Option.bind_some, ← List.append_nil (tokens j),
    value?_tokens [] [] j]
  rfl

/-- The text of a value is read as the value. -/
theorem ofText?_pretty {j : Json} (h : Writable j) : ofText? j.pretty = some j := by
  have hnone : ∀ c ∈ ([] : List Char), isSpace (some c) = true := by simp
  have hends : NumberEnds (([] : List Char).map some) := fun c rest hcs => by simp at hcs
  simpa using ofText?_pretty_append h hnone hends

end TokenConformance.Json
