import Mathlib
import MarkupGate.Json.Printer
import MarkupGate.Json.Reader
import MarkupGate.Proofs.Text.Digits

/-!
# JSON values are read back

Every value, written over several lines, is read as itself. The text of a value is cut into the tokens
of the value wherever it stands, and its tokens build the value in front of whatever comes next.

* `readString_escaped`, `ofText?_numberText`: strings and numbers.
* `readTokens_prettyAt`: the tokens of a text.
* `foldlM_tokens`: the value of tokens.
* `read?_pretty`: both together.
-/

namespace MarkupGate

/-! ## Strings -/

theorem hexValue?_hexDigit {n : Nat} (h : n < 16) : hexValue? (hexDigit n) = some n := by
  have hdigit : ∀ n < 16, hexValue? (hexDigit n) = some n := by decide
  exact hdigit n h

namespace Json

/-- A control character is written with four digits. -/
theorem hexQuad?_digits {n : Nat} (h : n < 0x20) :
    hexQuad? '0' '0' (hexDigit (n / 16)) (hexDigit (n % 16)) = some n := by
  have hzero : hexValue? '0' = some 0 := by decide
  have hvalue : ((0 * 16 + 0) * 16 + n / 16) * 16 + n % 16 = n := by omega
  simp only [hexQuad?, hzero, hexValue?_hexDigit (show n / 16 < 16 by omega),
    hexValue?_hexDigit (show n % 16 < 16 by omega), Option.bind_eq_bind, Option.bind_some, hvalue]

/-- A character is read as itself, whether it is escaped or not. -/
theorem readString_escapeChar (c : Char) (rest : List Char) :
    readString (escapeChar c ++ rest)
      = (readString rest).map fun (text, rest) => (c :: text, rest) := by
  by_cases hshort : c ∈ ['"', '\\', '\x08', '\t', '\n', '\x0c', '\r']
  · simp only [List.mem_cons, List.not_mem_nil, or_false] at hshort
    rcases hshort with rfl | rfl | rfl | rfl | rfl | rfl | rfl <;> rfl
  · simp only [List.mem_cons, List.not_mem_nil, or_false, not_or] at hshort
    obtain ⟨hquote, hslash, hb, ht, hn, hf, hr⟩ := hshort
    simp only [escapeChar, hquote, hslash, hb, ht, hn, hf, hr, if_false]
    split
    · rename_i hcontrol
      have hplane : c.toNat < 0xd800 ∨ 0xe000 ≤ c.toNat := .inl (by omega)
      simp only [List.cons_append, List.nil_append, readString, hexQuad?_digits hcontrol, hplane,
        if_true, Char.ofNat_toNat]
    · rename_i hplain
      rw [List.singleton_append, readString.eq_def]
      split
      · simp_all
      · simp_all
      · simp_all
      · simp_all
      · simp_all

/-- A string is read up to its closing quote. -/
theorem readString_escaped (s rest : List Char) :
    readString (s.flatMap escapeChar ++ '"' :: rest) = some (s, rest) := by
  induction s with
  | nil => rfl
  | cons c cs ih =>
    rw [List.flatMap_cons, List.append_assoc, readString_escapeChar, ih]
    rfl

end Json

/-! ## Numbers -/

namespace JsonNumber

/-- The digits of a number, and what begins with no digit behind them. -/
theorem span_decimalDigits (n : Nat) {rest : List Char} (hrest : rest.head?.all (!Char.isDigit ·)) :
    (decimalDigits n ++ rest).takeWhile Char.isDigit = decimalDigits n
      ∧ (decimalDigits n ++ rest).dropWhile Char.isDigit = rest := by
  rw [List.takeWhile_append_of_pos fun c => isDigit_of_mem_decimalDigits,
    List.dropWhile_append_of_pos fun c => isDigit_of_mem_decimalDigits]
  cases rest with
  | nil => simp
  | cons c cs =>
    have hc : c.isDigit = false := by simpa using hrest
    simp [hc]

/-- Digits do not begin with a sign. -/
theorem exists_decimalDigits_eq_cons (n : Nat) :
    ∃ d ds, decimalDigits n = d :: ds ∧ d ≠ '-' ∧ d ≠ '+' := by
  obtain ⟨d, ds, hd⟩ := List.exists_cons_of_ne_nil (decimalDigits_ne_nil n)
  have hdigit : d.isDigit := isDigit_of_mem_decimalDigits (n := n) (by simp [hd])
  refine ⟨d, ds, hd, ?_, ?_⟩ <;> rintro rfl <;> simp [Char.isDigit] at hdigit

/-- An exponent is read with its sign. -/
theorem readExponent?_text (exponent : Int) :
    readExponent? ('e' :: (if exponent < 0 then ['-'] else []) ++ decimalDigits exponent.natAbs)
      = some (some exponent) := by
  obtain ⟨d, ds, hd, hminus, hplus⟩ := exists_decimalDigits_eq_cons exponent.natAbs
  have hall : (decimalDigits exponent.natAbs).all Char.isDigit :=
    List.all_eq_true.2 fun c => isDigit_of_mem_decimalDigits
  have hvalue := decimalValue_decimalDigits exponent.natAbs
  rw [hd] at hall hvalue
  by_cases hneg : exponent < 0
  · have hsign : -(exponent.natAbs : Int) = exponent := by omega
    simp only [hneg, if_true, hd, List.cons_append, List.nil_append, readExponent?, hall, hvalue, hsign]
    rfl
  · have hsign : (exponent.natAbs : Int) = exponent := by omega
    simp only [hneg, if_false, hd, List.cons_append, List.nil_append, readExponent?]
    split
    · simp_all
    · simp_all
    · simp only [hall, hvalue, hsign]
      rfl

/-- The number that a sign, digits and an exponent spell. -/
theorem ofText?_digits (negative : Bool) (n : Nat) {rest : List Char}
    (hrest : rest.head?.all fun c => !c.isDigit && c ≠ '.') {exponent : Option Int}
    (hexponent : readExponent? rest = some exponent) :
    ofText? ((if negative then ['-'] else []) ++ decimalDigits n ++ rest)
      = some (if exponent.isNone && !(negative && n = 0) then
          .integer (if negative then -(n : Int) else n)
        else .decimal negative n (exponent.getD 0)) := by
  obtain ⟨d, ds, hd, hminus, -⟩ := exists_decimalDigits_eq_cons n
  have hdigit : rest.head?.all (!Char.isDigit ·) := by cases rest <;> simp_all
  have hspan := span_decimalDigits n hdigit
  have hfraction : readFraction? rest = some ([], rest) := by
    unfold readFraction?
    split
    · simp at hrest
    · rfl
  -- A number that begins with a zero is zero, and has one digit.
  have hzero : ((decimalDigits n).head? = some '0' && (decimalDigits n).length ≠ 1) = false := by
    by_cases hhead : (decimalDigits n).head? = some '0'
    · obtain rfl := head?_decimalDigits hhead
      decide
    · simp [hhead]
  have hne : (decimalDigits n).isEmpty = false := by simp [decimalDigits_ne_nil]
  unfold ofText?
  split
  rename_i sign unsigned heq
  have hsign : (negative, decimalDigits n ++ rest) = (sign, unsigned) := by
    rw [← heq]
    cases negative with
    | true => rfl
    | false =>
      simp only [Bool.false_eq_true, if_false, List.nil_append, hd, List.cons_append]
      split
      · simp_all
      · rfl
  cases hsign
  simp only [hspan.1, hspan.2, hne, Bool.false_or, hzero, Bool.false_eq_true, if_false, hfraction,
    hexponent, Option.bind_eq_bind, Option.bind_some, List.append_nil, decimalValue_decimalDigits,
    List.isEmpty_nil, Bool.true_and, List.length_nil, Nat.cast_zero, Int.sub_zero]
  split <;> rfl

/-- A number is read as itself. -/
theorem ofText?_numberText (n : JsonNumber) : ofText? (Json.numberText n) = some n := by
  cases n with
  | integer value =>
    have hnone : readExponent? [] = some none := rfl
    have h := ofText?_digits (decide (value < 0)) value.natAbs rfl hnone
    simp only [List.append_nil, decide_eq_true_eq] at h
    rw [Json.numberText, h]
    by_cases hneg : value < 0
    · have hsign : -(value.natAbs : Int) = value := by omega
      simp [hneg, show value ≠ 0 by omega, hsign, -Nat.cast_natAbs]
    · have hsign : (value.natAbs : Int) = value := by omega
      simp [hneg, hsign, -Nat.cast_natAbs]
  | decimal negative mantissa exponent =>
    have h := ofText?_digits negative mantissa (rfl : ('e' :: (if exponent < 0 then ['-'] else [])
      ++ decimalDigits exponent.natAbs).head?.all (fun c => !c.isDigit && c ≠ '.') = true)
      (readExponent?_text exponent)
    simpa [Json.numberText] using h

end JsonNumber

namespace Json

/-! ## Tokens -/

mutual

/-- The tokens of a value. -/
def tokens : Json → List Token
  | .array [] => [.openArray, .closeArray]
  | .array (x :: xs) => .openArray :: tokens x ++ itemTokens xs ++ [.closeArray]
  | .object [] => [.openObject, .closeObject]
  | .object (m :: ms) => .openObject :: memberTokens m ++ membersTokens ms ++ [.closeObject]
  | .null => [.scalar .null]
  | .bool b => [.scalar (.bool b)]
  | .number n => [.scalar (.number n)]
  | .string s => [.scalar (.string s)]

/-- The tokens of the items of an array after the first. -/
def itemTokens : List Json → List Token
  | [] => []
  | x :: xs => .comma :: tokens x ++ itemTokens xs

/-- The tokens of one member of an object. -/
def memberTokens : String × Json → List Token
  | (name, value) => .scalar (.string name) :: .colon :: tokens value

/-- The tokens of the members of an object after the first. -/
def membersTokens : List (String × Json) → List Token
  | [] => []
  | m :: ms => .comma :: memberTokens m ++ membersTokens ms

end

theorem readTokens_punctuation {c : Char} {t : Token} (h : punctuation? c = some t)
    (hspace : isSpace c = false) (s : List Char) :
    readTokens (c :: s) = (readTokens s).map (t :: ·) := by
  have hread : readToken c s = some (t, s) := by rw [readToken, h]
  rw [readTokens, if_neg (by simp [hspace])]
  split
  · simp_all
  · rename_i t' rest hsome
    rw [hread] at hsome
    cases hsome
    rfl

theorem readTokens_newline (depth : Nat) (s : List Char) :
    readTokens (newline depth ++ s) = readTokens s := by
  rw [newline, List.cons_append, readTokens, if_pos (by decide)]
  induction 2 * depth with
  | zero => rfl
  | succ n ih => rw [List.replicate_succ, List.cons_append, readTokens, if_pos (by decide), ih]

theorem readTokens_quoted (s rest : List Char) :
    readTokens (quoted s ++ rest)
      = (readTokens rest).map (.scalar (.string (String.ofList s)) :: ·) := by
  have hread : readToken '"' (s.flatMap escapeChar ++ '"' :: rest)
      = some (.scalar (.string (String.ofList s)), rest) := by
    have hpunctuation : punctuation? '"' = none := rfl
    simp only [readToken, hpunctuation, if_true, readString_escaped, Option.map_some]
  have hquoted : quoted s ++ rest = '"' :: (s.flatMap escapeChar ++ '"' :: rest) := by
    simp [quoted]
  rw [hquoted, readTokens, if_neg (by decide)]
  split
  · simp_all
  · rename_i t' rest' hsome
    rw [hread] at hsome
    cases hsome
    rfl

/-- What ends a word: nothing, or a character that belongs to none. -/
def EndsWord (rest : List Char) : Prop := rest.head?.all (!isWordChar ·)

theorem readTokens_word {word rest : List Char} {v : Json} (hword : ∀ c ∈ word, isWordChar c)
    (hv : wordValue? word = some v) (hne : word ≠ []) (hrest : EndsWord rest) :
    readTokens (word ++ rest) = (readTokens rest).map (.scalar v :: ·) := by
  obtain ⟨c, cs, rfl⟩ := List.exists_cons_of_ne_nil hne
  have hc := hword c (by simp)
  have hcs : ∀ d ∈ cs, isWordChar d := fun d hd => hword d (List.mem_cons_of_mem _ hd)
  have hspace : isSpace c = false := by
    rw [Bool.eq_false_iff]
    intro h
    simp only [isSpace, Bool.or_eq_true, decide_eq_true_eq] at h
    rcases h with ((rfl | rfl) | rfl) | rfl <;> cases hc
  have hpunctuation : punctuation? c = none := by
    unfold punctuation?
    split
    all_goals first | rfl | cases hc
  have hquote : c ≠ '"' := by
    rintro rfl
    cases hc
  have htake : (cs ++ rest).takeWhile isWordChar = cs ∧ (cs ++ rest).dropWhile isWordChar = rest := by
    rw [List.takeWhile_append_of_pos hcs, List.dropWhile_append_of_pos hcs]
    cases rest with
    | nil => simp
    | cons d ds =>
      have hd : isWordChar d = false := by simpa [EndsWord] using hrest
      simp [hd]
  have hread : readToken c (cs ++ rest) = some (.scalar v, rest) := by
    simp only [readToken, hpunctuation, hquote, if_false, hc, if_true, htake, hv, Option.map_some]
  rw [List.cons_append, readTokens, if_neg (by simp [hspace])]
  split
  · simp_all
  · rename_i t' rest' hsome
    rw [hread] at hsome
    cases hsome
    rfl

/-- Numbers are written in word characters, and begin with a sign or a digit. -/
theorem numberText_cases (n : JsonNumber) : (∀ c ∈ numberText n, isWordChar c)
    ∧ ∃ c cs, numberText n = c :: cs ∧ (c = '-' ∨ c.isDigit) := by
  have hdigits : ∀ k : Nat, ∀ c ∈ decimalDigits k, isWordChar c := by
    intro k c hc
    simp [isWordChar, Char.isAlphanum, isDigit_of_mem_decimalDigits hc]
  have hsign : ∀ negative : Bool, ∀ c ∈ (if negative then ['-'] else []), isWordChar c := by
    intro negative c hc
    cases negative with
    | true =>
      obtain rfl : c = '-' := by simpa using hc
      decide
    | false => simp at hc
  have hhead : ∀ (negative : Bool) (k : Nat) (rest : List Char), ∃ c cs,
      (if negative then ['-'] else []) ++ decimalDigits k ++ rest = c :: cs
        ∧ (c = '-' ∨ c.isDigit) := by
    intro negative k rest
    cases negative with
    | true => exact ⟨'-', decimalDigits k ++ rest, rfl, .inl rfl⟩
    | false =>
      obtain ⟨d, ds, hd⟩ := List.exists_cons_of_ne_nil (decimalDigits_ne_nil k)
      exact ⟨d, ds ++ rest, by simp [hd],
        .inr (isDigit_of_mem_decimalDigits (n := k) (by simp [hd]))⟩
  cases n with
  | integer value =>
    have htext : numberText (.integer value)
        = (if decide (value < 0) then ['-'] else []) ++ decimalDigits value.natAbs ++ [] := by
      simp [numberText]
    rw [htext]
    refine ⟨fun c hc => ?_, hhead _ _ _⟩
    simp only [List.append_nil, List.mem_append] at hc
    exact hc.elim (hsign _ c) (hdigits _ c)
  | decimal negative mantissa exponent =>
    have htext : numberText (.decimal negative mantissa exponent)
        = (if negative then ['-'] else []) ++ decimalDigits mantissa ++ 'e' ::
          ((if decide (exponent < 0) then ['-'] else []) ++ decimalDigits exponent.natAbs) := by
      simp [numberText]
    rw [htext]
    refine ⟨fun c hc => ?_, hhead _ _ _⟩
    simp only [List.mem_append, List.mem_cons] at hc
    rcases hc with (hc | hc) | rfl | hc | hc
    · exact hsign _ c hc
    · exact hdigits _ c hc
    · decide
    · exact hsign _ c hc
    · exact hdigits _ c hc

/-- No number is one of the other words. -/
theorem wordValue?_numberText (n : JsonNumber) : wordValue? (numberText n) = some (.number n) := by
  obtain ⟨-, c, cs, htext, hc⟩ := numberText_cases n
  have hne : ∀ word : List Char, word.head?.all (fun d => d ≠ '-' && !d.isDigit) →
      numberText n ≠ word := by
    rintro word hword rfl
    rcases hc with rfl | hdigit
    · simp [htext] at hword
    · simp [htext, hdigit] at hword
  rw [wordValue?, if_neg (hne _ (by decide)), if_neg (hne _ (by decide)), if_neg (hne _ (by decide)),
    JsonNumber.ofText?_numberText]
  rfl

theorem endsWord_newline (depth : Nat) (rest : List Char) : EndsWord (newline depth ++ rest) := rfl

theorem endsWord_prettyItems (xs : List Json) (depth : Nat) {rest : List Char}
    (hrest : EndsWord rest) : EndsWord (prettyItems depth xs ++ rest) := by
  cases xs with
  | nil => simpa [prettyItems] using hrest
  | cons x xs => rfl

theorem endsWord_prettyMembers (ms : List (String × Json)) (depth : Nat) {rest : List Char}
    (hrest : EndsWord rest) : EndsWord (prettyMembers depth ms ++ rest) := by
  cases ms with
  | nil => simpa [prettyMembers] using hrest
  | cons m ms => rfl

mutual

/-- The text of a value is cut into the tokens of the value. -/
theorem readTokens_prettyAt : ∀ (j : Json) (depth : Nat) (rest : List Char), EndsWord rest →
    readTokens (prettyAt depth j ++ rest) = (readTokens rest).map (j.tokens ++ ·)
  | .null, depth, rest, hrest => by
    rw [prettyAt, tokens]
    exact readTokens_word (List.all_eq_true.1 (by decide)) rfl (by decide) hrest
  | .bool true, depth, rest, hrest => by
    rw [prettyAt, tokens]
    exact readTokens_word (List.all_eq_true.1 (by decide)) rfl (by decide) hrest
  | .bool false, depth, rest, hrest => by
    rw [prettyAt, tokens]
    exact readTokens_word (List.all_eq_true.1 (by decide)) rfl (by decide) hrest
  | .number n, depth, rest, hrest => by
    obtain ⟨hword, c, cs, htext, -⟩ := numberText_cases n
    rw [prettyAt, tokens]
    exact readTokens_word hword (wordValue?_numberText n) (by simp [htext]) hrest
  | .string s, depth, rest, _ => by
    rw [prettyAt, tokens, readTokens_quoted, String.ofList_toList]
    rfl
  | .array [], depth, rest, _ => by
    rw [prettyAt, tokens, List.cons_append, readTokens_punctuation rfl rfl, List.cons_append,
      readTokens_punctuation rfl rfl, Option.map_map]
    rfl
  | .array (x :: xs), depth, rest, _ => by
    simp only [prettyAt, tokens, List.cons_append, List.append_assoc, List.nil_append]
    rw [readTokens_punctuation rfl rfl, readTokens_newline,
      readTokens_prettyAt x _ _ (endsWord_prettyItems xs _ (endsWord_newline _ _)),
      readTokens_prettyItems xs _ _ (endsWord_newline _ _), readTokens_newline,
      readTokens_punctuation rfl rfl]
    simp [Option.map_map, Function.comp_def]
  | .object [], depth, rest, _ => by
    rw [prettyAt, tokens, List.cons_append, readTokens_punctuation rfl rfl, List.cons_append,
      readTokens_punctuation rfl rfl, Option.map_map]
    rfl
  | .object (m :: ms), depth, rest, _ => by
    simp only [prettyAt, tokens, List.cons_append, List.append_assoc, List.nil_append]
    rw [readTokens_punctuation rfl rfl, readTokens_newline,
      readTokens_prettyMember m _ _ (endsWord_prettyMembers ms _ (endsWord_newline _ _)),
      readTokens_prettyMembers ms _ _ (endsWord_newline _ _), readTokens_newline,
      readTokens_punctuation rfl rfl]
    simp [Option.map_map, Function.comp_def]

theorem readTokens_prettyItems : ∀ (xs : List Json) (depth : Nat) (rest : List Char), EndsWord rest →
    readTokens (prettyItems depth xs ++ rest) = (readTokens rest).map (itemTokens xs ++ ·)
  | [], depth, rest, _ => by simp [prettyItems, itemTokens]
  | x :: xs, depth, rest, hrest => by
    simp only [prettyItems, itemTokens, List.cons_append, List.append_assoc]
    rw [readTokens_punctuation rfl rfl, readTokens_newline,
      readTokens_prettyAt x _ _ (endsWord_prettyItems xs _ hrest),
      readTokens_prettyItems xs depth rest hrest]
    simp [Option.map_map, Function.comp_def]

theorem readTokens_prettyMember : ∀ (m : String × Json) (depth : Nat) (rest : List Char),
    EndsWord rest →
    readTokens (prettyMember depth m ++ rest) = (readTokens rest).map (memberTokens m ++ ·)
  | (name, value), depth, rest, hrest => by
    simp only [prettyMember, memberTokens, List.cons_append, List.append_assoc]
    rw [readTokens_quoted, String.ofList_toList, readTokens_punctuation rfl rfl, readTokens,
      if_pos (by decide), readTokens_prettyAt value depth rest hrest]
    simp [Option.map_map, Function.comp_def]

theorem readTokens_prettyMembers : ∀ (ms : List (String × Json)) (depth : Nat) (rest : List Char),
    EndsWord rest →
    readTokens (prettyMembers depth ms ++ rest) = (readTokens rest).map (membersTokens ms ++ ·)
  | [], depth, rest, _ => by simp [prettyMembers, membersTokens]
  | m :: ms, depth, rest, hrest => by
    simp only [prettyMembers, membersTokens, List.cons_append, List.append_assoc]
    rw [readTokens_punctuation rfl rfl, readTokens_newline,
      readTokens_prettyMember m _ _ (endsWord_prettyMembers ms _ hrest),
      readTokens_prettyMembers ms depth rest hrest]
    simp [Option.map_map, Function.comp_def]

end

/-! ## Values -/

/-- The first token of a value begins it, also where an array was just opened. -/
theorem foldlM_tokens_item (j : Json) (frames : List Frame) (rest : List Token) :
    (j.tokens ++ rest).foldlM Reading.step (.item frames)
      = (j.tokens ++ rest).foldlM Reading.step (.value frames) := by
  obtain ⟨t, ts, htokens, hclose⟩ : ∃ t ts, j.tokens = t :: ts ∧ t ≠ .closeArray := by
    unfold tokens
    split <;> exact ⟨_, _, rfl, nofun⟩
  have hstep : Reading.step (.item frames) t = Reading.step (.value frames) t := by
    unfold Reading.step
    split <;> simp_all
  rw [htokens, List.cons_append, List.foldlM_cons, List.foldlM_cons, hstep]

mutual

/-- The tokens of a value build the value. -/
theorem foldlM_tokens : ∀ (j : Json) (frames : List Frame) (rest : List Token),
    (j.tokens ++ rest).foldlM Reading.step (.value frames)
      = rest.foldlM Reading.step (.complete j frames)
  | .null, frames, rest => rfl
  | .bool b, frames, rest => rfl
  | .number n, frames, rest => rfl
  | .string s, frames, rest => rfl
  | .array [], frames, rest => rfl
  | .array (x :: xs), frames, rest => by
    have hopen : (tokens (.array (x :: xs)) ++ rest).foldlM Reading.step (.value frames)
        = (x.tokens ++ (itemTokens xs ++ .closeArray :: rest)).foldlM Reading.step
            (.item (.array [] :: frames)) := by
      simp only [tokens, List.cons_append, List.append_assoc, List.nil_append]
      rfl
    rw [hopen, foldlM_tokens_item, foldlM_tokens x, foldlM_itemTokens xs]
    rfl
  | .object [], frames, rest => rfl
  | .object (m :: ms), frames, rest => by
    have hopen : (tokens (.object (m :: ms)) ++ rest).foldlM Reading.step (.value frames)
        = (memberTokens m ++ (membersTokens ms ++ .closeObject :: rest)).foldlM Reading.step
            (.name true [] frames) := by
      simp only [tokens, List.cons_append, List.append_assoc, List.nil_append]
      rfl
    rw [hopen, foldlM_memberTokens m, foldlM_membersTokens ms]
    rfl

/-- Behind an item, further items and the end of the array complete the array. -/
theorem foldlM_itemTokens : ∀ (xs : List Json) (v : Json) (before : List Json) (frames : List Frame)
    (rest : List Token),
    (itemTokens xs ++ .closeArray :: rest).foldlM Reading.step (.complete v (.array before :: frames))
      = rest.foldlM Reading.step (.complete (.array ((v :: before).reverse ++ xs)) frames)
  | [], v, before, frames, rest => by
    rw [List.append_nil]
    rfl
  | x :: xs, v, before, frames, rest => by
    have hcomma : (itemTokens (x :: xs) ++ .closeArray :: rest).foldlM Reading.step
          (.complete v (.array before :: frames))
        = (x.tokens ++ (itemTokens xs ++ .closeArray :: rest)).foldlM Reading.step
            (.value (.array (v :: before) :: frames)) := by
      simp only [itemTokens, List.cons_append, List.append_assoc]
      rfl
    rw [hcomma, foldlM_tokens x, foldlM_itemTokens xs]
    simp

/-- A member is complete with its value. -/
theorem foldlM_memberTokens : ∀ (m : String × Json) (opened : Bool) (before : List (String × Json))
    (frames : List Frame) (rest : List Token),
    (memberTokens m ++ rest).foldlM Reading.step (.name opened before frames)
      = rest.foldlM Reading.step (.complete m.2 (.object before m.1 :: frames))
  | (name, value), opened, before, frames, rest => by
    have hname : (memberTokens (name, value) ++ rest).foldlM Reading.step (.name opened before frames)
        = (value.tokens ++ rest).foldlM Reading.step (.value (.object before name :: frames)) := by
      simp only [memberTokens, List.cons_append]
      cases opened <;> cases before <;> rfl
    rw [hname, foldlM_tokens value]

/-- Behind a member, further members and the end of the object complete the object. -/
theorem foldlM_membersTokens : ∀ (ms : List (String × Json)) (name : String) (v : Json)
    (before : List (String × Json)) (frames : List Frame) (rest : List Token),
    (membersTokens ms ++ .closeObject :: rest).foldlM Reading.step
        (.complete v (.object before name :: frames))
      = rest.foldlM Reading.step (.complete (.object (((name, v) :: before).reverse ++ ms)) frames)
  | [], name, v, before, frames, rest => by
    rw [List.append_nil]
    rfl
  | m :: ms, name, v, before, frames, rest => by
    have hcomma : (membersTokens (m :: ms) ++ .closeObject :: rest).foldlM Reading.step
          (.complete v (.object before name :: frames))
        = (memberTokens m ++ (membersTokens ms ++ .closeObject :: rest)).foldlM Reading.step
            (.name false ((name, v) :: before) frames) := by
      simp only [membersTokens, List.cons_append, List.append_assoc]
      rfl
    rw [hcomma, foldlM_memberTokens m, foldlM_membersTokens ms]
    simp

end

theorem ofTokens?_tokens (j : Json) : ofTokens? j.tokens = some j := by
  have h := foldlM_tokens j [] []
  rw [List.append_nil] at h
  rw [ofTokens?, h]
  rfl

/-- A value that is written is read as itself. -/
theorem read?_pretty (j : Json) : read? j.pretty = some j := by
  have htokens := readTokens_prettyAt j 0 [] rfl
  rw [List.append_nil] at htokens
  rw [read?, pretty, htokens, readTokens, Option.map_some, List.append_nil, Option.bind_some,
    ofTokens?_tokens]

end Json

end MarkupGate
