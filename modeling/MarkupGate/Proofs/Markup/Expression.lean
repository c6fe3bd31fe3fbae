import MarkupGate.Proofs.Markup.Rereading
import MarkupGate.Proofs.Safety.TagScan

/-!
# Where expressions end

An expression is what stands between two braces: characters that mean nothing there, expressions inside
it, and string literals. What the content of a literal may be is a parameter. In the language that these
expressions are written in, a backslash takes the meaning from the character behind it; the scanner of
tags knows no backslashes, and a literal ends for it at the first quote like the one that begins it.

So the scanner ends an expression where its braces say, at any depth and around any literals, exactly if
the expression is one in this plainer sense too. Escapes of other characters do no harm; an escaped quote
usually turns the rest of the text inside out.

* `ExprItems`, `IsExpression`: expressions, for any kind of literals.
* `EscapedBody`, `PlainBody`: the two kinds.
* `readBraced_start_iff`: what a reader of expressions takes.
* `skipBraces_append_iff`: where the scanner of braces ends.
* `expression_read_iff`: which expressions are read to their end.
-/

namespace MarkupGate

/-! ## Expressions -/

/-- What stands between the braces of an expression whose string literals have certain contents. -/
inductive ExprItems (Body : Char → List Char → Prop) : List Char → Prop
  | nil : ExprItems Body []
  | plain {c : Char} {s : List Char} (hopen : c ≠ '{') (hclose : c ≠ '}')
      (hquote : isExpressionQuote c = false) (hs : ExprItems Body s) : ExprItems Body (c :: s)
  | nested {inner s : List Char} (hinner : ExprItems Body inner) (hs : ExprItems Body s) :
      ExprItems Body ('{' :: inner ++ '}' :: s)
  | literal {q : Char} {body s : List Char} (hquote : isExpressionQuote q) (hbody : Body q body)
      (hs : ExprItems Body s) : ExprItems Body (q :: body ++ q :: s)

/-- Expressions whose string literals have certain contents. -/
def IsExpression (Body : Char → List Char → Prop) (s : List Char) : Prop :=
  ∃ items, s = '{' :: items ++ ['}'] ∧ ExprItems Body items

/-- The content of a literal in which a backslash escapes the character behind it. -/
inductive EscapedBody (q : Char) : List Char → Prop
  | nil : EscapedBody q []
  | plain {c : Char} {s : List Char} (hquote : c ≠ q) (hslash : c ≠ '\\') (hs : EscapedBody q s) :
      EscapedBody q (c :: s)
  | escape (c : Char) {s : List Char} (hs : EscapedBody q s) : EscapedBody q ('\\' :: c :: s)

/-- The content of a literal that ends at the first quote like the one that begins it. -/
def PlainBody (q : Char) (body : List Char) : Prop := q ∉ body

theorem ExprItems.mono {Body Body' : Char → List Char → Prop} {s : List Char}
    (h : ∀ q body, Body q body → Body' q body) (hs : ExprItems Body s) : ExprItems Body' s := by
  induction hs with
  | nil => exact .nil
  | plain hopen hclose hquote _ ih => exact .plain hopen hclose hquote ih
  | nested _ _ ihinner ih => exact .nested ihinner ih
  | literal hquote hbody _ ih => exact .literal hquote (h _ _ hbody) ih

theorem IsExpression.mono {Body Body' : Char → List Char → Prop} {s : List Char}
    (h : ∀ q body, Body q body → Body' q body) (hs : IsExpression Body s) : IsExpression Body' s := by
  obtain ⟨items, rfl, hitems⟩ := hs
  exact ⟨items, rfl, hitems.mono h⟩

/-! ## Reading -/

namespace BraceState

theorem after?_append {st st' : BraceState} {s : List Char} (h : st.after? s = some st')
    (t : List Char) : st.after? (s ++ t) = st'.after? t := by
  rw [after?, List.foldlM_append, ← after?, h]
  rfl

theorem after?_cons {st st' : BraceState} {c : Char} (h : st.next? c = some st') (s : List Char) :
    st.after? (c :: s) = st'.after? s := by
  rw [after?, List.foldlM_cons, h]
  rfl

/-- The content of a literal leaves the reader in it. -/
theorem after?_body {depth : Nat} {q : Char} {body : List Char} (h : PlainBody q body) :
    (mk depth (some q)).after? body = some (mk depth (some q)) := by
  induction body with
  | nil => rfl
  | cons c cs ih =>
    obtain ⟨hc, hcs⟩ : q ≠ c ∧ q ∉ cs := by simpa [PlainBody] using h
    have hnext : (mk depth (some q)).next? c = some (mk depth (some q)) := by
      simp [next?, Ne.symm hc]
    rw [after?_cons hnext]
    exact ih hcs

/-- Items leave the reader at the depth where it was. -/
theorem after?_items {s : List Char} (h : ExprItems PlainBody s) (depth : Nat) :
    (mk depth none).after? s = some (mk depth none) := by
  induction h generalizing depth with
  | nil => rfl
  | @plain c s hopen hclose hquote _ ih =>
    have hnext : (mk depth none).next? c = some (mk depth none) := by
      simp [next?, hopen, hclose, hquote]
    rw [after?_cons hnext]
    exact ih depth
  | nested _ _ ihinner ih =>
    have hopen : (mk depth none).next? '{' = some (mk (depth + 1) none) := by simp [next?]
    have hclose : (mk (depth + 1) none).next? '}' = some (mk depth none) := by simp [next?]
    rw [List.cons_append, after?_cons hopen, after?_append (ihinner (depth + 1)), after?_cons hclose]
    exact ih depth
  | @literal q body s hquote hbody _ ih =>
    have hbrace : q ≠ '{' ∧ q ≠ '}' := by
      simp only [isExpressionQuote, Bool.or_eq_true, decide_eq_true_eq] at hquote
      rcases hquote with (rfl | rfl) | rfl <;> decide
    have hopen : (mk depth none).next? q = some (mk depth (some q)) := by
      simp [next?, hbrace, hquote]
    have hclose : (mk depth (some q)).next? q = some (mk depth none) := by simp [next?]
    rw [List.cons_append, after?_cons hopen, after?_append (after?_body hbody), after?_cons hclose]
    exact ih depth

end BraceState

/-- Whether a text ends with the brace that closes the outermost of some expressions, from inside the
innermost on. -/
def Unwinds : Nat → List Char → Prop
  | 0, s => ∃ items, s = items ++ ['}'] ∧ ExprItems PlainBody items
  | depth + 1, s =>
    ∃ items rest, s = items ++ '}' :: rest ∧ ExprItems PlainBody items ∧ Unwinds depth rest

/-- What stands in front of items becomes one of them. -/
theorem Unwinds.prepend {s : List Char} {depth : Nat} (h : Unwinds depth s) (item : List Char)
    (hitem : ∀ items, ExprItems PlainBody items → ExprItems PlainBody (item ++ items)) :
    Unwinds depth (item ++ s) := by
  cases depth with
  | zero =>
    obtain ⟨items, rfl, hitems⟩ := h
    exact ⟨item ++ items, by simp, hitem _ hitems⟩
  | succ depth =>
    obtain ⟨items, rest, rfl, hitems, hrest⟩ := h
    exact ⟨item ++ items, rest, by simp, hitem _ hitems, hrest⟩

/-- A reader that gets to the end of an expression has gone over items, and in a literal first over the
rest of it. -/
theorem unwinds_of_readBraced {depth : Nat} {quote? : Option Char} {s : List Char}
    (h : readBraced ⟨depth, quote?⟩ s = some (s, [])) :
    match quote? with
    | none => Unwinds depth s
    | some q => ∃ body rest, s = body ++ q :: rest ∧ PlainBody q body ∧ Unwinds depth rest := by
  induction s generalizing depth quote? with
  | nil => simp [readBraced] at h
  | cons c cs ih =>
    -- Behind the first character the reader is in some state, from which it gets to the end, too.
    have hstep (st : BraceState) (hnext : (BraceState.mk depth quote?).next? c = some st) :
        readBraced st cs = some (cs, []) := by
      have hafter : (BraceState.mk depth quote?).after? [c] = some st := by
        rw [BraceState.after?_cons hnext]
        rfl
      exact (BraceState.readBraced_append_self hafter).1 h
    cases quote? with
    | some q =>
      by_cases hc : c = q
      · have hrest := ih (hstep ⟨depth, none⟩ (by simp [BraceState.next?, hc]))
        exact ⟨[], cs, by rw [hc]; rfl, List.not_mem_nil, hrest⟩
      · obtain ⟨body, rest, rfl, hbody, hrest⟩ :=
          ih (hstep ⟨depth, some q⟩ (by simp [BraceState.next?, hc]))
        exact ⟨c :: body, rest, rfl, by simpa [PlainBody, Ne.symm hc] using hbody, hrest⟩
    | none =>
      by_cases hopen : c = '{'
      · obtain ⟨inner, rest, rfl, hinner, hrest⟩ :=
          ih (hstep ⟨depth + 1, none⟩ (by simp [BraceState.next?, hopen]))
        have := hrest.prepend ('{' :: inner ++ ['}']) fun items hitems => by
          simpa using ExprItems.nested hinner hitems
        simpa [hopen] using this
      by_cases hclose : c = '}'
      · cases depth with
        | zero =>
          obtain ⟨rfl, rfl⟩ : c = '}' ∧ cs = [] := by
            simpa [readBraced, BraceState.next?, hclose, eq_comm] using h
          exact ⟨[], rfl, .nil⟩
        | succ depth =>
          have hrest := ih (hstep ⟨depth, none⟩ (by simp [BraceState.next?, hclose]))
          exact ⟨[], cs, by rw [hclose]; rfl, .nil, hrest⟩
      by_cases hquote : isExpressionQuote c
      · obtain ⟨body, rest, rfl, hbody, hrest⟩ :=
          ih (hstep ⟨depth, some c⟩ (by simp [BraceState.next?, hopen, hclose, hquote]))
        have := hrest.prepend (c :: body ++ [c]) fun items hitems => by
          simpa using ExprItems.literal hquote hbody hitems
        simpa using this
      · have hrest := ih (hstep ⟨depth, none⟩ (by simp [BraceState.next?, hopen, hclose, hquote]))
        exact hrest.prepend [c] fun items hitems =>
          .plain hopen hclose (Bool.eq_false_iff.2 hquote) hitems

/-- A reader of an expression that has seen its first brace takes items and the last brace. -/
theorem readBraced_start_iff {s : List Char} :
    readBraced .start s = some (s, []) ↔ IsExpression PlainBody ('{' :: s) := by
  constructor
  · intro h
    obtain ⟨items, rfl, hitems⟩ := unwinds_of_readBraced h
    exact ⟨items, rfl, hitems⟩
  · rintro ⟨items, hs, hitems⟩
    obtain rfl : s = items ++ ['}'] := by simpa using hs
    refine (BraceState.readBraced_append_self (BraceState.after?_items hitems 0)).2 ?_
    rfl

/-- The scanner of braces ends behind a text that begins with a brace exactly if it is an expression with
plain literals. -/
theorem skipBraces_append_iff {s : List Char} (rest : List Char) :
    skipBraces 0 none (byteChars ('{' :: s ++ rest)) = .ok (some (byteLength ('{' :: s)))
      ↔ IsExpression PlainBody ('{' :: s) := by
  rw [List.cons_append, skipBraces_start, ← readBraced_start_iff]
  constructor
  · intro h
    obtain ⟨⟨inside, rest'⟩, hread, hlength⟩ := Option.map_eq_some_iff.1 (Except.ok.inj h)
    obtain ⟨rfl, rfl⟩ := append_inj_of_byteLength (append_of_readBraced hread) (by simpa using hlength)
    simpa using readBraced_congr [] hread
  · intro h
    have hself : readBraced .start (s ++ []) = some (s, []) := by simpa using h
    rw [readBraced_congr rest hself]
    rfl

/-! ## Expressions in tags -/

namespace OpenTag

/-- A tag whose last attribute has an expression for its value, right behind the equals sign. -/
def withExpression (name : List Char) (ps : List TagPart) (attrName expression : List Char) : OpenTag :=
  ⟨name, ps ++ [.attr ⟨attrName, some ⟨[], [], .expression, expression⟩⟩], false⟩

section

variable {name attrName expression : List Char} {ps : List TagPart}

theorem source_withExpression (name : List Char) (ps : List TagPart) (attrName expression : List Char) :
    (withExpression name ps attrName expression).source
      = '<' :: name ++ ps.flatMap TagPart.source ++ attrName ++ '=' :: expression ++ ['>'] := by
  simp [withExpression, source, ending_eq, endingOf, TagPart.source, WrittenAttr.source,
    WrittenValue.source, WrittenValue.lead, ValueForm.quote]

/-- The tag ends where it should exactly if its expression does. -/
theorem complete_withExpression_iff (h : ReadsTo name ps attrName) :
    (withExpression name ps attrName expression).Complete ↔ IsExpression PlainBody expression := by
  constructor
  · intro hcomplete
    obtain ⟨-, hread⟩ := hcomplete.parts.attr
    obtain ⟨-, -, -, inside, rfl, hinside⟩ := hread.value
    exact readBraced_start_iff.1 hinside
  · rintro ⟨items, rfl, hitems⟩
    obtain ⟨c, cs, hcs, hc⟩ := h.begins
    obtain ⟨r, hname⟩ := h.attrName
    have hinside := readBraced_start_iff.2 ⟨items, rfl, hitems⟩
    refine ⟨h.name, ?_, partsRead_append.2 ⟨?_, ?_, trivial⟩⟩
    · have hend := h.nameEnd
      simp only [withExpression, List.flatMap_append, List.append_assoc]
      generalize ps.flatMap TagPart.source = front at hend ⊢
      cases front <;> simp_all [TagPart.source, WrittenAttr.source]
    · simpa [TagPart.source, WrittenAttr.source] using h.parts _
    · refine TagPart.attr_readsBefore_iff.2 ⟨h.begins, ?_, ?_⟩
      · exact readAttrName_before (.inr rfl) _ hname
      · exact ⟨by simp, by simp, rfl, _, rfl, hinside⟩

/-- The expression is the value of the last attribute of the placed tag, right before the bracket. -/
theorem attrs_withExpression (start : Nat) :
    let t := (withExpression name ps attrName expression).place start
    t.attrs.getLast? = some ⟨asciiLower attrName, t.stop - 2 - byteLength expression,
      some ⟨expression, t.stop - 1 - byteLength expression, .expression⟩⟩ := by
  intro t
  have hequals : '='.utf8Size = 1 := rfl
  have hopen : '<'.utf8Size = 1 := rfl
  have hclose : '>'.utf8Size = 1 := rfl
  have hstop : t.stop = start + 1 + byteLength name + byteLength (ps.flatMap TagPart.source)
      + byteLength attrName + 1 + byteLength expression + 1 := by
    simp only [t, place, source_withExpression, byteLength_append, byteLength_cons, byteLength_nil,
      hequals, hopen, hclose]
    omega
  have hattrs : t.attrs
      = (locate TagPart.source (start + 1 + byteLength name) ps).filterMap TagPart.attr?
      ++ [WrittenAttr.place ⟨attrName, some ⟨[], [], .expression, expression⟩⟩
        (start + 1 + byteLength name + byteLength (ps.flatMap TagPart.source))] := by
    simp only [t, place, withExpression, locate_append, List.filterMap_append]
    rfl
  rw [hattrs, List.getLast?_concat]
  simp only [WrittenAttr.place, WrittenValue.lead, ValueForm.quote, Option.map_some, List.nil_append,
    List.append_nil, byteLength_cons, byteLength_nil, hequals, Option.some.injEq, Attr.mk.injEq,
    AttrValue.mk.injEq, true_and, and_true, hstop]
  omega

end

/-- Whether the scanner of a text comes, behind some pieces of it, to a tag whose last attribute is
written with an expression. -/
structure MeetsExpression (source : List Char) (A : List Piece) (name : List Char) (ps : List TagPart)
    (attrName expression rest : List Char) : Prop where
  /-- the bracket opens a tag -/
  letter : ∃ c cs, name = c :: cs ∧ c.isAlpha
  /-- the reader of the tag gets to the attribute -/
  reads : ReadsTo name ps attrName
  /-- behind the pieces stand the tag and the rest of the text -/
  source_eq : ∃ B, lex source = A ++ B
    ∧ B.flatMap Piece.source = (withExpression name ps attrName expression).source ++ rest

/-- Whether a tag behind some pieces is read as it is written, and scanning resumes right behind it: with
its content, if it opens an opaque element, and with the next piece otherwise. -/
def Resumes (source : List Char) (A : List Piece) (t : OpenTag) (rest : List Char) : Prop :=
  ∃ content behind, rest = content ++ behind ∧ (t.opensOpaque = false → content = [])
    ∧ lex source = A ++ .openTag t content :: lex behind

/-- A tag that the scanner comes to is read as it is written exactly if it is complete. -/
theorem resumes_iff {source rest : List Char} {A B : List Piece} {t : OpenTag}
    (hlex : lex source = A ++ B) (hB : B.flatMap Piece.source = t.source ++ rest)
    (hname : ∃ c cs, t.name = c :: cs ∧ c.isAlpha) : Resumes source A t rest ↔ t.Complete := by
  constructor
  · rintro ⟨content, behind, -, -, h⟩
    exact .of_lex h
  · intro hcomplete
    obtain ⟨content, behind, hrest, hcontent⟩ : ∃ content behind, rest = content ++ behind
        ∧ if t.opensOpaque then readOpaque (asciiLower t.name) (content ++ behind) = (content, behind)
          else content = [] := by
      by_cases hopens : t.opensOpaque
      · have happ := append_readOpaque (asciiLower t.name) rest
        refine ⟨_, _, happ.symm, ?_⟩
        rw [if_pos hopens, happ]
      · exact ⟨[], rest, rfl, by simp [hopens]⟩
    refine ⟨content, behind, hrest, fun hopens => by simpa [hopens] using hcontent, ?_⟩
    have hread : (Piece.openTag t content).ReadsBefore behind :=
      Piece.openTag_readsBefore_iff.2 ⟨hcomplete, hname, hcontent⟩
    have hspelled : Spelled B := (hlex ▸ spelled_lex source).of_append
    rw [hlex, ← hspelled.lex_eq, hB, ← hread.lex_eq, hrest, Piece.source, List.append_assoc]

theorem Resumes.place_mem {source rest : List Char} {A : List Piece} {t : OpenTag}
    (h : Resumes source A t rest) :
    t.place (byteLength (A.flatMap Piece.source)) ∈ (tokenize source).tags := by
  obtain ⟨content, behind, -, -, hlex⟩ := h
  rw [tokenize, hlex, locate_append, Nat.zero_add]
  simp [Tokens.ofLocated, locate, Piece.tag?]

end OpenTag

/-- An expression whose literals may hold escapes is read to its real end, whatever follows, exactly if
it is also an expression where backslashes mean nothing; so it is whenever no literal holds the quote
that ends it. Exactly then, in a tag whose last attribute is written with it, the value is the whole
expression and scanning resumes right behind the tag. -/
theorem expression_read_iff {expression : List Char} (h : IsExpression EscapedBody expression) :
    (∀ rest, skipBraces 0 none (byteChars (expression ++ rest)) = .ok (some (byteLength expression))
        ↔ IsExpression PlainBody expression)
      ∧ (∀ source A name ps attrName rest,
        OpenTag.MeetsExpression source A name ps attrName expression rest →
          (OpenTag.Resumes source A (.withExpression name ps attrName expression) rest
            ↔ IsExpression PlainBody expression)
          ∧ (IsExpression PlainBody expression → ∃ t ∈ (tokenize source).tags,
            t = (OpenTag.withExpression name ps attrName expression).place
                (byteLength (A.flatMap Piece.source))
              ∧ t.attrs.getLast? = some ⟨asciiLower attrName, t.stop - 2 - byteLength expression,
                some ⟨expression, t.stop - 1 - byteLength expression, .expression⟩⟩))
      ∧ (IsExpression (fun q body => EscapedBody q body ∧ q ∉ body) expression →
        IsExpression PlainBody expression) := by
  refine ⟨fun rest => ?_, fun source A name ps attrName rest hmeets => ?_,
    fun hsafe => hsafe.mono fun q body hbody => hbody.2⟩
  · obtain ⟨items, rfl, -⟩ := h
    exact skipBraces_append_iff rest
  · obtain ⟨hletter, hreads, B, hlex, hB⟩ := hmeets
    have hresumes := (OpenTag.resumes_iff hlex hB hletter).trans
      (OpenTag.complete_withExpression_iff hreads)
    exact ⟨hresumes, fun hplain => ⟨_, (hresumes.2 hplain).place_mem, rfl,
      OpenTag.attrs_withExpression _⟩⟩

/-- A nested expression with a brace of each kind in a literal, and an escape that is no quote. -/
def nestedExpression : List Char := "\x7ba(\x7b\"\x7d\"\x7d,'\\n\x7b')\x7d".toList

theorem isExpression_nestedExpression :
    IsExpression (fun q body => EscapedBody q body ∧ q ∉ body) nestedExpression := by
  refine ⟨"a(\x7b\"\x7d\"\x7d,'\\n\x7b')".toList, by decide +kernel, ?_⟩
  refine .plain (by decide) (by decide) rfl (.plain (by decide) (by decide) rfl ?_)
  refine @ExprItems.nested _ ['"', '\x7d', '"'] ",'\\n\x7b')".toList ?_ ?_
  · refine @ExprItems.literal _ '"' ['\x7d'] _ rfl ⟨?_, by decide⟩ .nil
    exact .plain (by decide) (by decide) .nil
  · refine .plain (by decide) (by decide) rfl ?_
    refine @ExprItems.literal _ '\'' ['\\', 'n', '\x7b'] [')'] rfl ⟨?_, by decide⟩ ?_
    · exact .escape 'n' (.plain (by decide) (by decide) .nil)
    · exact .plain (by decide) (by decide) rfl .nil

theorem expression_read_nestedExpression :
    IsExpression EscapedBody nestedExpression
      ∧ skipBraces 0 none (byteChars (nestedExpression ++ ">'\x7b".toList)) = .ok (some 16)
      ∧ OpenTag.MeetsExpression ("é<Img A=".toList ++ nestedExpression ++ ">'\x7b".toList)
        [.text ['é']] "Img".toList [.filler [' ']] ['A'] nestedExpression "'\x7b".toList
      ∧ OpenTag.Resumes ("é<Img A=".toList ++ nestedExpression ++ ">'\x7b".toList) [.text ['é']]
        (.withExpression "Img".toList [.filler [' ']] ['A'] nestedExpression) "'\x7b".toList
      ∧ ⟨"img".toList, .opening, 2, 26, 6, false,
          [⟨['a'], 8, some ⟨nestedExpression, 9, .expression⟩⟩]⟩
        ∈ (tokenize ("é<Img A=".toList ++ nestedExpression ++ ">'\x7b".toList)).tags := by
  have hsafe := isExpression_nestedExpression
  obtain ⟨hskip, htag, hplain⟩ := expression_read_iff (hsafe.mono fun q body h => h.1)
  have hmeets : OpenTag.MeetsExpression ("é<Img A=".toList ++ nestedExpression ++ ">'\x7b".toList)
      [.text ['é']] "Img".toList [.filler [' ']] ['A'] nestedExpression "'\x7b".toList := by
    refine ⟨⟨'I', ['m', 'g'], rfl, rfl⟩, .of_prepend (List.all_eq_true.1 (by decide)) (by decide)
      (List.all_eq_true.1 (by decide)), ?_⟩
    refine ⟨[.openTag (.withExpression "Img".toList [.filler [' ']] ['A'] nestedExpression) [],
      .text "'\x7b".toList], ?_, ?_⟩ <;> decide +kernel
  obtain ⟨hresumes, hread⟩ := htag _ _ _ _ _ _ hmeets
  refine ⟨hsafe.mono fun q body h => h.1, (hskip _).2 (hplain hsafe), hmeets,
    hresumes.2 (hplain hsafe), ?_⟩
  obtain ⟨t, ht, rfl, -⟩ := hread (hplain hsafe)
  exact ht

/-- An escaped quote ends the literal for the scanner of braces; the next quote then begins another one,
which takes the end of the expression and of the tag. -/
theorem exists_expression_unread : ∃ expression, IsExpression EscapedBody expression
    ∧ skipBraces 0 none (byteChars (expression ++ ['>'])) = .ok none
    ∧ (tokenize ("<p a=".toList ++ expression ++ ['>'])).tags = [] := by
  refine ⟨"\x7b'it\\'s'\x7d".toList, ⟨"'it\\'s'".toList, by decide +kernel, ?_⟩, ?_, by decide +kernel⟩
  · refine @ExprItems.literal _ '\'' ['i', 't', '\\', '\'', 's'] [] rfl ?_ .nil
    refine .plain (by decide) (by decide) (.plain (by decide) (by decide) (.escape '\'' ?_))
    exact .plain (by decide) (by decide) .nil
  · rfl

end MarkupGate
