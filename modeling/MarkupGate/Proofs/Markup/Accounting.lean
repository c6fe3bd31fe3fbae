import MarkupGate.Proofs.Markup.Joining

/-!
# Accounting for every byte

Each byte of a text belongs to a tag, a run of text or a body of code, or is passed over with a
comment or a declaration; only what does not end is left over, at the end of the text. `Accounts`
says so of an inventory without mentioning pieces: its tokens are put in the order of the document,
and what lies between them is spelled by what was passed over.

* `Ordered`, `gaps`: ranges that stand one behind another, and the ranges between them.
* `Skipped`, `Unterminated`: what can stand in a gap, and what can be left over.
* `Located.tile_tokens`: the tokens of a piece fill it.
* `tokenize_accounts`: the inventory of every text accounts for it.
-/

namespace MarkupGate

/-! ## Ranges -/

/-- Whether a text stands in a range of another. -/
def Stands (source : List Char) (r : Span) (text : List Char) : Prop :=
  ∃ front back, source = front ++ (text ++ back) ∧ r = .ofText (byteLength front) text

theorem isBoundary_byteLength (s t : List Char) : isBoundary (s ++ t) (byteLength s) := by
  rw [isBoundary_eq_isSome, splitAtOffset?_byteLength]
  rfl

/-- The front of a text is known by its length. -/
theorem append_inj_of_byteLength {s t s' t' : List Char} (h : s ++ t = s' ++ t')
    (hlength : byteLength s = byteLength s') : s = s' ∧ t = t' := by
  have hsplit := splitAtOffset?_byteLength s t
  rw [h, hlength, splitAtOffset?_byteLength] at hsplit
  simpa [eq_comm] using hsplit

namespace Stands

variable {source text : List Char} {r : Span}

/-- What stands in a text lies within it, between characters. -/
theorem bounds (h : Stands source r text) :
    r.start ≤ r.stop ∧ r.stop ≤ byteLength source
      ∧ isBoundary source r.start ∧ isBoundary source r.stop := by
  obtain ⟨front, back, rfl, rfl⟩ := h
  refine ⟨Nat.le_add_right .., ?_, isBoundary_byteLength _ _, ?_⟩
  · simp [Span.ofText, ← Nat.add_assoc]
  · have := isBoundary_byteLength (front ++ text) back
    rwa [byteLength_append, List.append_assoc] at this

/-- Nothing stands between any two characters. -/
theorem nil (front back : List Char) :
    Stands (front ++ back) ⟨byteLength front, byteLength front⟩ [] :=
  ⟨front, back, rfl, rfl⟩

/-- A text that stands directly in front of another one stands there with it. -/
theorem cons {front s back : List Char} {stop : Nat}
    (h : Stands (front ++ (s ++ back)) ⟨byteLength front + byteLength s, stop⟩ text) :
    Stands (front ++ (s ++ back)) ⟨byteLength front, stop⟩ (s ++ text) := by
  obtain ⟨front', back', hsource, hspan⟩ := h
  obtain ⟨hstart, hstop⟩ := Span.mk.inj hspan
  have hassoc : front ++ s ++ back = front' ++ (text ++ back') := by simpa using hsource
  obtain ⟨rfl, rfl⟩ := append_inj_of_byteLength hassoc (by simpa using hstart)
  exact ⟨front, back', by simp, by simp [Span.ofText, hstop, Nat.add_assoc]⟩

end Stands

/-- Whether ranges stand one behind another between two offsets. -/
def Ordered : Nat → List Span → Nat → Prop
  | start, [], stop => start ≤ stop
  | start, r :: rs, stop => start ≤ r.start ∧ r.start ≤ r.stop ∧ Ordered r.stop rs stop

/-- Whether ranges fill the room between two offsets, one directly behind another. -/
def Tile : Nat → List Span → Nat → Prop
  | start, [], stop => start = stop
  | start, r :: rs, stop => r.start = start ∧ r.start ≤ r.stop ∧ Tile r.stop rs stop

/-- The ranges in front of, between and behind some ranges. -/
def gaps (start : Nat) : List Span → Nat → List Span
  | [], stop => [⟨start, stop⟩]
  | r :: rs, stop => ⟨start, r.start⟩ :: gaps r.stop rs stop

namespace Ordered

variable {start mid stop : Nat} {rs qs : List Span}

theorem start_le {r : Span} (h : Ordered start rs stop) (hr : r ∈ rs) : start ≤ r.start := by
  induction rs generalizing start with
  | nil => cases hr
  | cons q rs ih =>
    rcases List.mem_cons.1 hr with rfl | hr
    · exact h.1
    · exact Nat.le_trans h.1 (Nat.le_trans h.2.1 (ih h.2.2 hr))

theorem pairwise (h : Ordered start rs stop) : rs.Pairwise fun r q => r.stop ≤ q.start := by
  induction rs generalizing start with
  | nil => exact .nil
  | cons r rs ih => exact .cons (fun q hq => h.2.2.start_le hq) (ih h.2.2)

theorem mono (h : Ordered mid rs stop) (hle : start ≤ mid) : Ordered start rs stop := by
  cases rs with
  | nil => exact Nat.le_trans hle h
  | cons r rs => exact ⟨Nat.le_trans hle h.1, h.2⟩

theorem gap_start_le {g : Span} (h : Ordered start rs mid) (hg : g ∈ gaps start rs stop) :
    start ≤ g.start := by
  induction rs generalizing start with
  | nil =>
    obtain rfl := List.mem_singleton.1 hg
    exact Nat.le_refl _
  | cons r rs ih =>
    rcases List.mem_cons.1 hg with rfl | hg
    · exact Nat.le_refl _
    · exact Nat.le_trans h.1 (Nat.le_trans h.2.1 (ih h.2.2 hg))

/-- Each of the ranges lies before or behind each gap. -/
theorem outside {g r : Span} (h : Ordered start rs mid) (hg : g ∈ gaps start rs stop)
    (hr : r ∈ rs) : r.stop ≤ g.start ∨ g.stop ≤ r.start := by
  induction rs generalizing start with
  | nil => cases hr
  | cons q rs ih =>
    rcases List.mem_cons.1 hg with rfl | hg <;> rcases List.mem_cons.1 hr with rfl | hr
    · exact .inr (Nat.le_refl _)
    · exact .inr (Nat.le_trans h.2.1 (h.2.2.start_le hr))
    · exact .inl (h.2.2.gap_start_le hg)
    · exact ih h.2.2 hg hr

end Ordered

namespace Tile

variable {start mid stop : Nat} {rs qs : List Span}

theorem ordered_append (h : Tile start rs mid) (hqs : Ordered mid qs stop) :
    Ordered start (rs ++ qs) stop := by
  induction rs generalizing start with
  | nil => exact (h : start = mid) ▸ hqs
  | cons r rs ih => exact ⟨h.1.ge, h.2.1, ih h.2.2⟩

/-- There is nothing between ranges that fill their room. -/
theorem gaps_append (h : Tile start rs mid) :
    gaps start (rs ++ qs) stop = rs.map (fun r => ⟨r.start, r.start⟩) ++ gaps mid qs stop := by
  induction rs generalizing start with
  | nil => exact (h : start = mid) ▸ rfl
  | cons r rs ih =>
    obtain ⟨rfl, -, hrs⟩ := h
    rw [List.cons_append, gaps, ih hrs]
    rfl

end Tile

/-! ## What is passed over -/

/-- A complete comment or declaration, with the first end that it can have. -/
inductive Skipped : List Char → Prop
  | comment {body : List Char} (first : ¬"-->".toList <:+: body ++ "--".toList) :
      Skipped ("<!--".toList ++ body ++ "-->".toList)
  | declaration {mark : Char} {body : List Char} (hmark : mark = '!' ∨ mark = '?')
      (plain : mark = '!' → ¬"--".toList <+: body) (first : '>' ∉ body) :
      Skipped ('<' :: mark :: body ++ ['>'])

/-- A comment, declaration or tag that does not end. -/
inductive Unterminated : List Char → Prop
  | comment {body : List Char} (h : ¬"-->".toList <:+: body) : Unterminated ("<!--".toList ++ body)
  | declaration {mark : Char} {body : List Char} (hmark : mark = '!' ∨ mark = '?')
      (plain : mark = '!' → ¬"--".toList <+: body) (h : '>' ∉ body) :
      Unterminated ('<' :: mark :: body)
  | closeTag {c : Char} {cs : List Char} (letter : c.isAlpha) (h : '>' ∉ cs) :
      Unterminated ('<' :: '/' :: c :: cs)
  | openTag {c : Char} {cs : List Char} (letter : c.isAlpha)
      (h : ∀ t : OpenTag, t.Complete → ¬t.source <+: '<' :: c :: cs) :
      Unterminated ('<' :: c :: cs)

/-- A pattern is found at its first place. -/
theorem length_le_of_breakOn? {pattern front back before after : List Char}
    (h : breakOn? pattern (front ++ (pattern ++ back)) = some (before, after)) :
    before.length ≤ front.length := by
  induction front generalizing before with
  | nil =>
    have hp : pattern.isPrefixOf (pattern ++ back) := by
      rw [List.isPrefixOf_iff_prefix]
      exact List.prefix_append ..
    rw [List.nil_append] at h
    cases hs : pattern ++ back with
    | nil => simp_all [breakOn?]
    | cons c cs =>
      rw [hs] at h hp
      rw [breakOn?, if_pos hp] at h
      cases h
      simp
  | cons c cs ih =>
    rw [List.cons_append, breakOn?] at h
    split at h
    · cases h
      simp
    · obtain ⟨⟨b, a⟩, hb, heq⟩ := Option.map_eq_some_iff.1 h
      cases heq
      simpa using ih hb

theorem breakOn?_eq_none {pattern s : List Char} (h : breakOn? pattern s = none) :
    ¬pattern <:+: s := by
  rintro ⟨front, back, rfl⟩
  induction front with
  | nil =>
    have hp : pattern.isPrefixOf (pattern ++ back) := by
      rw [List.isPrefixOf_iff_prefix]
      exact List.prefix_append ..
    rw [List.nil_append] at h
    cases hs : pattern ++ back with
    | nil => simp_all [breakOn?]
    | cons c cs =>
      rw [hs] at h hp
      rw [breakOn?, if_pos hp] at h
      cases h
  | cons c cs ih =>
    rw [List.cons_append, List.cons_append, breakOn?] at h
    split at h
    · cases h
    · exact ih (Option.map_eq_none_iff.1 h)

theorem breakOn?_singleton_eq_none {q : Char} {s : List Char} (h : breakOn? [q] s = none) :
    q ∉ s := by
  intro hq
  obtain ⟨front, back, rfl⟩ := List.append_of_mem hq
  exact breakOn?_eq_none h ⟨front, back, by simp⟩

namespace Piece

/-- Whether the piece is a comment or declaration, which leaves nothing in the inventory. -/
def isSkipped : Piece → Bool
  | comment _ | declaration _ _ => true
  | _ => false

/-- A declaration is read to its first closing bracket. -/
theorem ReadsBefore.declaration_spec {mark : Char} {body rest : List Char}
    (h : (declaration mark body).ReadsBefore rest) :
    (mark = '!' ∨ mark = '?') ∧ (mark = '!' → ¬['-', '-'] <+: body) ∧ '>' ∉ body := by
  obtain ⟨s, -, -, hread⟩ := (readsBefore_iff_readMarkup? rfl).1 h
  cases readMarkup?_eq_some hread with
  | declaration hmark hdashes hbody =>
    obtain rfl := append_of_breakOn? hbody
    refine ⟨hmark, ?_, (breakOn?_singleton.1 hbody).2⟩
    rintro hbang ⟨t, rfl⟩
    exact hdashes hbang _ rfl

/-- Complete comments and declarations are read to their first end. -/
theorem ReadsBefore.skipped {p : Piece} {rest : List Char} (h : p.ReadsBefore rest)
    (hp : p.isSkipped) : Skipped p.source := by
  cases p with
  | comment body =>
    obtain ⟨s, hs, -, hread⟩ := (readsBefore_iff_readMarkup? rfl).1 h
    obtain rfl : '!' :: '-' :: '-' :: (body ++ (['-', '-', '>'] ++ rest)) = s := by
      simpa [source] using hs
    obtain ⟨⟨b, r⟩, hb, heq⟩ := Option.map_eq_some_iff.1 hread
    cases heq
    have hsource : source (comment body) = "<!--".toList ++ body ++ "-->".toList := rfl
    rw [hsource]
    refine .comment ?_
    rintro ⟨front, back, hfront⟩
    -- An earlier end would have been found first.
    have hlength := congrArg List.length hfront
    have htext : body ++ (['-', '-', '>'] ++ rest)
        = front ++ (['-', '-', '>'] ++ (back ++ '>' :: rest)) := by
      have := congrArg (· ++ '>' :: rest) hfront
      simpa using this.symm
    have := length_le_of_breakOn? (htext ▸ hb)
    simp at hlength
    omega
  | declaration mark body =>
    have hsource : source (declaration mark body) = '<' :: mark :: body ++ ['>'] := rfl
    rw [hsource]
    obtain ⟨hmark, hdashes, hbracket⟩ := h.declaration_spec
    exact .declaration hmark hdashes hbracket
  | _ => cases hp

theorem isMarkup_of_readMarkup? {s rest : List Char} {p : Piece}
    (h : readMarkup? s = some (p, rest)) : p.isMarkup := by
  cases readMarkup?_eq_some h <;> rfl

/-- What begins with a bracket and does not end is one of four things. -/
theorem unterminated_of_readMarkup? {s : List Char} (hmarkup : beginsMarkup ('<' :: s))
    (h : readMarkup? s = none) : Unterminated ('<' :: s) := by
  unfold readMarkup? at h
  split at h <;> rw [Option.map_eq_none_iff] at h
  · exact .comment (breakOn?_eq_none h)
  · rename_i hdashes
    refine .declaration (.inl rfl) ?_ (breakOn?_singleton_eq_none h)
    rintro - ⟨t, rfl⟩
    exact hdashes _ rfl
  · exact .declaration (.inr rfl) (by simp) (breakOn?_singleton_eq_none h)
  · rename_i s
    obtain ⟨c, cs, rfl, hc⟩ : ∃ c cs, s = c :: cs ∧ c.isAlpha := by
      cases s with
      | nil => simp [beginsMarkup, Char.isAlpha, Char.isUpper, Char.isLower] at hmarkup
      | cons c cs => exact ⟨c, cs, rfl, hmarkup⟩
    refine .closeTag hc fun hgt => breakOn?_singleton_eq_none h ?_
    have hmem : '>' ∈ (c :: cs).takeWhile isNameChar ++ (c :: cs).dropWhile isNameChar := by
      rw [List.takeWhile_append_dropWhile]
      exact List.mem_cons_of_mem _ hgt
    refine (List.mem_append.1 hmem).resolve_left ?_
    intro hname
    exact absurd (all_takeWhile _ hname) (by decide)
  · rename_i hcomment hbang hquestion hslash
    obtain ⟨c, cs, rfl, hc⟩ : ∃ c cs, s = c :: cs ∧ c.isAlpha := by
      cases s with
      | nil => simp [beginsMarkup] at hmarkup
      | cons c cs =>
        have hne : c ≠ '/' := fun h => hslash cs (by rw [h])
        rw [beginsMarkup_of_ne_slash hne] at hmarkup
        have h1 : c ≠ '!' := fun h => hbang cs (by rw [h])
        have h2 : c ≠ '?' := fun h => hquestion cs (by rw [h])
        exact ⟨c, cs, rfl, by simpa [h1, h2] using hmarkup⟩
    refine .openTag hc ?_
    rintro t ht ⟨rest, hrest⟩
    rw [readOpenTag_iff.2 ⟨hrest.symm, ht⟩] at h
    cases h

/-- What is left over does not end. -/
theorem ReadsBefore.unterminated {s rest : List Char} (h : (unterminated s).ReadsBefore rest) :
    Unterminated s := by
  obtain rfl := unterminated_readsBefore h
  have hmarkup : beginsMarkup s := by simpa [source, isText] using h.beginsMarkup_eq
  obtain ⟨c, cs, hs, hread⟩ := h
  rw [source, List.append_nil] at hs
  subst hs
  obtain rfl : c = '<' := by simpa using atBracket_of_beginsMarkup hmarkup
  rw [readPiece, if_pos hmarkup] at hread
  refine unterminated_of_readMarkup? hmarkup ?_
  cases hm : readMarkup? cs with
  | none => rfl
  | some pr =>
    rw [hm, Option.getD_some] at hread
    subst hread
    cases isMarkup_of_readMarkup? hm

end Piece

/-! ## Tokens in the order of the document -/

/-- A token of an inventory. -/
inductive Token where
  /-- an open or close tag -/
  | tag (t : Tag)
  /-- a run of text -/
  | text (r : TextRun)
  /-- a body of code -/
  | raw (b : RawBlock)

namespace Token

/-- The range of the token. -/
def span : Token → Span
  | tag t => ⟨t.start, t.stop⟩
  | text r => r.span
  | raw b => b.span

/-- The token as a tag. -/
def tag? : Token → Option Tag
  | tag t => some t
  | _ => none

/-- The token as a run of text. -/
def text? : Token → Option TextRun
  | text r => some r
  | _ => none

/-- The token as a body of code. -/
def raw? : Token → Option RawBlock
  | raw b => some b
  | _ => none

end Token

/-- The tokens of a piece with some tags in front of it. -/
def Located.tokens (p : Located Piece) (tags : Nat) : List Token :=
  (Piece.tag? p).toList.map .tag ++ (Piece.raw? p tags).toList.map .raw
    ++ (Piece.text? p).toList.map .text

/-- The tokens of some pieces with some tags in front of them. -/
def tokensFrom (tags : Nat) : List (Located Piece) → List Token
  | [] => []
  | p :: ps => p.tokens tags ++ tokensFrom (tags + (Piece.tag? p).toList.length) ps

section Projections

variable (tags : Nat) (ps : List (Located Piece))

theorem filterMap_tag?_tokensFrom :
    (tokensFrom tags ps).filterMap Token.tag? = ps.filterMap Piece.tag? := by
  induction ps generalizing tags with
  | nil => rfl
  | cons p ps ih =>
    have hraw : ((Piece.raw? p tags).toList.map Token.raw).filterMap Token.tag? = [] := by
      cases Piece.raw? p tags <;> rfl
    have htext : ((Piece.text? p).toList.map Token.text).filterMap Token.tag? = [] := by
      cases Piece.text? p <;> rfl
    simp only [tokensFrom, Located.tokens, List.filterMap_append, ih, hraw, htext]
    cases ht : Piece.tag? p <;> simp [ht, Token.tag?]

theorem filterMap_text?_tokensFrom :
    (tokensFrom tags ps).filterMap Token.text? = ps.filterMap Piece.text? := by
  induction ps generalizing tags with
  | nil => rfl
  | cons p ps ih =>
    have htag : ((Piece.tag? p).toList.map Token.tag).filterMap Token.text? = [] := by
      cases Piece.tag? p <;> rfl
    have hraw : ((Piece.raw? p tags).toList.map Token.raw).filterMap Token.text? = [] := by
      cases Piece.raw? p tags <;> rfl
    simp only [tokensFrom, Located.tokens, List.filterMap_append, ih, hraw, htag]
    cases ht : Piece.text? p <;> simp [ht, Token.text?]

theorem raw?_eq_none_of_tag? {p : Located Piece} (h : Piece.tag? p = none) :
    Piece.raw? p tags = none := by
  obtain ⟨start, item⟩ := p
  cases item with
  | openTag t content => cases h
  | _ => rfl

theorem filterMap_raw?_tokensFrom :
    (tokensFrom tags ps).filterMap Token.raw? = Tokens.rawFrom tags ps := by
  induction ps generalizing tags with
  | nil => rfl
  | cons p ps ih =>
    have htag : ((Piece.tag? p).toList.map Token.tag).filterMap Token.raw? = [] := by
      cases Piece.tag? p <;> rfl
    have htext : ((Piece.text? p).toList.map Token.text).filterMap Token.raw? = [] := by
      cases Piece.text? p <;> rfl
    simp only [tokensFrom, Located.tokens, List.filterMap_append, ih, htag, htext]
    cases ht : Piece.tag? p with
    | none => simp [raw?_eq_none_of_tag? tags ht, Tokens.rawFrom, ht]
    | some t =>
      cases hr : Piece.raw? p tags <;> simp [hr, Tokens.rawFrom, ht, Token.raw?]

end Projections

/-! ## Tokens in their piece -/

theorem opensTextOnly_of_opensRaw {t : OpenTag} (h : t.opensRaw) : t.opensTextOnly = false := by
  simp only [OpenTag.opensRaw, isRawName, Bool.and_eq_true, Bool.or_eq_true,
    decide_eq_true_eq] at h
  obtain ⟨hself, h | h⟩ := h <;> simp [OpenTag.opensTextOnly, h, isTextOnlyName]

/-- The tokens of a piece that leaves any fill it. -/
theorem Located.tile_tokens {p : Located Piece} {rest : List Char} (tags : Nat)
    (h : p.item.ReadsBefore rest) (hskipped : p.item.isSkipped = false)
    (hends : p.item.isText || p.item.isMarkup) :
    Tile p.start ((p.tokens tags).map Token.span) p.stop := by
  obtain ⟨start, item⟩ := p
  cases item with
  | comment body => cases hskipped
  | declaration mark body => cases hskipped
  | unterminated s => cases hends
  | text content => exact ⟨rfl, Nat.le_add_right .., rfl⟩
  | closeTag name trailing => exact ⟨rfl, Nat.le_add_right .., rfl⟩
  | openTag t content =>
    obtain ⟨-, -, hcontent⟩ := Piece.openTag_readsBefore_iff.1 h
    have hle : start ≤ start + byteLength t.source := Nat.le_add_right ..
    have hstop : (⟨start, Piece.openTag t content⟩ : Located Piece).stop
        = start + byteLength t.source + byteLength content := by
      simp [stop, Piece.source, Nat.add_assoc]
    by_cases hraw : t.opensRaw
    · have htokens : (⟨start, Piece.openTag t content⟩ : Located Piece).tokens tags
          = [.tag (t.place start), .raw ⟨tags, start + byteLength t.source, content⟩] := by
        simp [tokens, Piece.tag?, Piece.raw?, Piece.text?, hraw, opensTextOnly_of_opensRaw hraw]
      rw [htokens, hstop]
      exact ⟨rfl, hle, rfl, Nat.le_add_right .., rfl⟩
    by_cases htext : t.opensTextOnly ∧ content ≠ []
    · have htokens : (⟨start, Piece.openTag t content⟩ : Located Piece).tokens tags
          = [.tag (t.place start), .text ⟨start + byteLength t.source, content⟩] := by
        simp [tokens, Piece.tag?, Piece.raw?, Piece.text?, hraw, htext]
      rw [htokens, hstop]
      exact ⟨rfl, hle, rfl, Nat.le_add_right .., rfl⟩
    · have hnil : content = [] := by
        by_cases hopens : t.opensOpaque
        · have : t.opensTextOnly := by simpa [OpenTag.opensOpaque, hraw] using hopens
          simpa [this] using htext
        · simpa [hopens] using hcontent
      subst hnil
      have htokens : (⟨start, Piece.openTag t []⟩ : Located Piece).tokens tags
          = [.tag (t.place start)] := by
        simp [tokens, Piece.tag?, Piece.raw?, Piece.text?, hraw]
      rw [htokens, hstop]
      exact ⟨rfl, hle, rfl⟩

/-- Whether a tag has the shape of one: brackets at its ends, and its name between them. -/
structure Tag.WellShaped (t : Tag) (source : List Char) : Prop where
  start_lt : t.start < t.nameEnd
  lt_stop : t.nameEnd < t.stop
  opening : Stands source ⟨t.start, t.start + 1⟩ ['<']
  closing : Stands source ⟨t.stop - 1, t.stop⟩ ['>']

section InPiece

variable {front back : List Char} {item : Piece}

/-- Brackets around a name and more make the shape of a tag. -/
theorem Tag.wellShaped_of_text {t : Tag} {name inner : List Char}
    (hstart : t.start = byteLength front) (hname : t.nameEnd = t.start + 1 + byteLength name)
    (hstop : t.stop = t.nameEnd + byteLength inner + 1) :
    t.WellShaped (front ++ ('<' :: (name ++ (inner ++ '>' :: back)))) := by
  refine ⟨by omega, by omega, ⟨front, name ++ (inner ++ '>' :: back), rfl, ?_⟩, ?_⟩
  · rw [hstart]
    rfl
  · refine ⟨front ++ '<' :: (name ++ inner), back, by simp, ?_⟩
    have hsize : '<'.utf8Size = 1 ∧ '>'.utf8Size = 1 := by decide
    simp only [Span.ofText, byteLength_append, byteLength_cons, byteLength_nil, hsize,
      Span.mk.injEq]
    omega

theorem Piece.wellShaped_tag? {t : Tag} (h : tag? ⟨byteLength front, item⟩ = some t) :
    t.WellShaped (front ++ (item.source ++ back))
      ∧ ∃ text, Stands (front ++ (item.source ++ back)) ⟨t.start, t.stop⟩ text := by
  have hsize : '<'.utf8Size = 1 ∧ '/'.utf8Size = 1 ∧ '>'.utf8Size = 1 := by decide
  cases item with
  | openTag u content =>
    cases h
    constructor
    · cases hself : u.selfClosing with
      | false =>
        have hsource : (openTag u content).source ++ back
            = '<' :: (u.name ++ (u.parts.flatMap TagPart.source ++ '>' :: (content ++ back))) := by
          simp [source, OpenTag.source, OpenTag.ending, hself]
        rw [hsource]
        refine Tag.wellShaped_of_text rfl rfl ?_
        simp only [OpenTag.place, OpenTag.source, OpenTag.ending, hself, byteLength_append,
          byteLength_cons, byteLength_nil, hsize, List.cons_append, Bool.false_eq_true, if_false]
        omega
      | true =>
        have hsource : (openTag u content).source ++ back = '<' :: (u.name
            ++ ((u.parts.flatMap TagPart.source ++ ['/']) ++ '>' :: (content ++ back))) := by
          simp [source, OpenTag.source, OpenTag.ending, hself]
        rw [hsource]
        refine Tag.wellShaped_of_text rfl rfl ?_
        simp only [OpenTag.place, OpenTag.source, OpenTag.ending, hself, byteLength_append,
          byteLength_cons, byteLength_nil, hsize, List.cons_append, if_true]
        omega
    · exact ⟨u.source, front, content ++ back, by simp [source], rfl⟩
  | closeTag name trailing =>
    cases h
    constructor
    · have hsource : (closeTag name trailing).source ++ back
          = '<' :: (('/' :: name) ++ (trailing ++ '>' :: back)) := by simp [source]
      rw [hsource]
      refine Tag.wellShaped_of_text rfl ?_ ?_ <;>
        simp only [source, byteLength_append, byteLength_cons, byteLength_nil, hsize,
          List.cons_append] <;> omega
    · exact ⟨(closeTag name trailing).source, front, back, rfl, rfl⟩
  | _ => cases h

theorem Piece.stands_text? {r : TextRun} (h : text? ⟨byteLength front, item⟩ = some r) :
    Stands (front ++ (item.source ++ back)) r.span r.text := by
  cases item with
  | text content =>
    cases h
    exact ⟨front, back, rfl, rfl⟩
  | openTag u content =>
    simp only [text?] at h
    split at h <;> cases h
    exact ⟨front ++ u.source, back, by simp [source], by simp [TextRun.span]⟩
  | _ => cases h

theorem Piece.stands_raw? {b : RawBlock} {tags : Nat}
    (h : raw? ⟨byteLength front, item⟩ tags = some b) :
    Stands (front ++ (item.source ++ back)) b.span b.text := by
  cases item with
  | openTag u content =>
    simp only [raw?] at h
    split at h <;> cases h
    exact ⟨front ++ u.source, back, by simp [source], by simp [RawBlock.span]⟩
  | _ => cases h

/-- Each token of a piece stands where its range says. -/
theorem stands_of_mem_tokens {tags : Nat} {i : Token}
    (h : i ∈ (⟨byteLength front, item⟩ : Located Piece).tokens tags) :
    ∃ text, Stands (front ++ (item.source ++ back)) i.span text := by
  simp only [Located.tokens, List.mem_append, List.mem_map, Option.mem_toList] at h
  rcases h with (⟨t, ht, rfl⟩ | ⟨b, hb, rfl⟩) | ⟨r, hr, rfl⟩
  · exact (Piece.wellShaped_tag? ht).2
  · exact ⟨_, Piece.stands_raw? hb⟩
  · exact ⟨_, Piece.stands_text? hr⟩

end InPiece

/-! ## Gaps -/

/-- Whether ranges are filled by sequences of what is passed over. -/
def Filled (source : List Char) (rs : List Span) (skipped : List (List (List Char))) : Prop :=
  List.Forall₂ (fun r texts => Stands source r texts.flatten ∧ ∀ s ∈ texts, Skipped s) rs skipped

/-- What is passed over in some ranges, in its places. -/
def placeIn (rs : List Span) (skipped : List (List (List Char))) : List (Located (List Char)) :=
  (List.zipWith (fun r texts => locate id r.start texts) rs skipped).flatten

/-- What is passed over among pieces, in its places. -/
def skippedAmong (ps : List (Located Piece)) : List (Located (List Char)) :=
  (ps.filter fun p => p.item.isSkipped).map fun p => ⟨p.start, p.item.source⟩

theorem placeIn_append {rs qs : List Span} {skipped more : List (List (List Char))}
    (h : rs.length = skipped.length) :
    placeIn (rs ++ qs) (skipped ++ more) = placeIn rs skipped ++ placeIn qs more := by
  rw [placeIn, List.zipWith_append h, List.flatten_append]
  rfl

theorem placeIn_empty (rs : List Span) (is : List Token) :
    placeIn rs (is.map fun _ => []) = [] := by
  induction is generalizing rs with
  | nil => simp [placeIn]
  | cons i is ih =>
    cases rs with
    | nil => rfl
    | cons r rs => simpa [placeIn, locate] using ih rs

/-- Only the start of the first gap depends on where the gaps begin. -/
theorem exists_gaps_eq_cons (rs : List Span) (stop : Nat) :
    ∃ first others, ∀ start, gaps start rs stop = ⟨start, first⟩ :: others := by
  cases rs with
  | nil => exact ⟨stop, [], fun start => rfl⟩
  | cons r rs => exact ⟨r.start, gaps r.stop rs stop, fun start => rfl⟩

/-- The ranges of the tokens of some pieces that begin at an offset. -/
def spansFrom (tags start : Nat) (ps : List Piece) : List Span :=
  (tokensFrom tags (locate Piece.source start ps)).map Token.span

theorem spansFrom_cons (tags start : Nat) (p : Piece) (ps : List Piece) :
    spansFrom tags start (p :: ps)
      = ((⟨start, p⟩ : Located Piece).tokens tags).map Token.span
        ++ spansFrom (tags + (Piece.tag? ⟨start, p⟩).toList.length) (start + byteLength p.source)
          ps := by
  simp [spansFrom, locate, tokensFrom]

/-- An account of what some pieces leave: all but a rest that does not end is passed over or lies
in the ranges of their tokens. -/
structure Accounted (tags : Nat) (front : List Char) (ps : List Piece)
    (skipped : List (List (List Char))) (complete rest : List Char) : Prop where
  source_eq : front ++ ps.flatMap Piece.source = complete ++ rest
  unterminated : rest = [] ∨ Unterminated rest
  ordered : Ordered (byteLength front) (spansFrom tags (byteLength front) ps) (byteLength complete)
  filled : Filled (front ++ ps.flatMap Piece.source)
    (gaps (byteLength front) (spansFrom tags (byteLength front) ps) (byteLength complete)) skipped
  placeIn_eq : placeIn (gaps (byteLength front) (spansFrom tags (byteLength front) ps)
    (byteLength complete)) skipped = skippedAmong (locate Piece.source (byteLength front) ps)

namespace Accounted

variable {tags : Nat} {front : List Char} {p : Piece} {ps : List Piece}
  {skipped : List (List (List Char))} {complete rest : List Char}

theorem nil (tags : Nat) (front : List Char) : Accounted tags front [] [[]] front [] := by
  refine ⟨rfl, .inl rfl, Nat.le_refl _, ?_, rfl⟩
  exact .cons ⟨Stands.nil front _, by simp⟩ .nil

/-- A rest that does not end is left over. -/
theorem unterminated_cons {s : List Char} (tags : Nat) (front : List Char) (h : Unterminated s) :
    Accounted tags front [.unterminated s] [[]] front s := by
  refine ⟨by simp [Piece.source], .inr h, Nat.le_refl _, ?_, rfl⟩
  exact .cons ⟨Stands.nil front _, by simp⟩ .nil

/-- A comment or declaration makes the gap longer in front. -/
theorem skipped_cons {texts : List (List Char)} {more : List (List (List Char))}
    (h : Accounted tags (front ++ p.source) ps (texts :: more) complete rest)
    (hskipped : p.isSkipped) (hp : Skipped p.source) :
    Accounted tags front (p :: ps) ((p.source :: texts) :: more) complete rest := by
  have hspans : spansFrom tags (byteLength front) (p :: ps)
      = spansFrom tags (byteLength (front ++ p.source)) ps := by
    rw [spansFrom_cons, byteLength_append]
    cases p with
    | comment body => rfl
    | declaration mark body => rfl
    | _ => cases hskipped
  obtain ⟨first, others, hgaps⟩ := exists_gaps_eq_cons
    (spansFrom tags (byteLength (front ++ p.source)) ps) (byteLength complete)
  obtain ⟨hsource, hrest, hordered, hfilled, hplace⟩ := h
  rw [hgaps, byteLength_append, List.append_assoc] at hfilled
  rw [hgaps] at hplace
  obtain ⟨⟨hstands, htexts⟩, hmore⟩ := List.forall₂_cons.1 hfilled
  refine ⟨by simpa using hsource, hrest, ?_, ?_, ?_⟩
  · rw [hspans]
    exact hordered.mono (by simp)
  · rw [hspans, hgaps]
    exact .cons ⟨hstands.cons, by simpa [hp] using htexts⟩ hmore
  · rw [hspans, hgaps]
    simp only [placeIn, List.zipWith_cons_cons, List.flatten_cons, byteLength_append] at hplace ⊢
    simp [locate, hplace, skippedAmong, hskipped]

/-- Tokens that fill their piece leave no gap in it. -/
theorem tokens_cons {before : List Char}
    (h : Accounted (tags + (Piece.tag? ⟨byteLength front, p⟩).toList.length) (front ++ p.source) ps
      skipped complete rest)
    (hread : p.ReadsBefore before) (hskipped : p.isSkipped = false)
    (hends : p.isText || p.isMarkup) :
    Accounted tags front (p :: ps)
      (((⟨byteLength front, p⟩ : Located Piece).tokens tags).map (fun _ => []) ++ skipped)
      complete rest := by
  have htile := Located.tile_tokens (p := ⟨byteLength front, p⟩) tags hread hskipped hends
  have hspans := spansFrom_cons tags (byteLength front) p ps
  obtain ⟨hsource, hrest, hordered, hfilled, hplace⟩ := h
  rw [byteLength_append] at hordered hplace hfilled
  rw [List.append_assoc] at hfilled
  refine ⟨by simpa using hsource, hrest, ?_, ?_, ?_⟩
  · rw [hspans]
    exact htile.ordered_append hordered
  · rw [hspans, htile.gaps_append]
    refine List.rel_append ?_ hfilled
    rw [List.map_map, List.forall₂_map_left_iff, List.forall₂_map_right_iff, List.forall₂_same]
    intro i hi
    obtain ⟨text, front', back', hfront, hspan⟩ :
        ∃ text, Stands (front ++ (p.source ++ ps.flatMap Piece.source)) i.span text :=
      stands_of_mem_tokens hi
    have hnil := Stands.nil front' (text ++ back')
    rw [List.flatMap_cons, hfront]
    refine ⟨?_, by simp⟩
    simpa [hspan, Span.ofText] using hnil
  · rw [hspans, htile.gaps_append]
    rw [placeIn_append (by simp), placeIn_empty, List.nil_append]
    refine hplace.trans ?_
    simp [skippedAmong, locate, hskipped]

end Accounted

/-- The pieces of a text are accounted for. -/
theorem exists_accounted {ps : List Piece} (h : Spelled ps) (tags : Nat) (front : List Char) :
    ∃ skipped complete rest, Accounted tags front ps skipped complete rest := by
  induction ps generalizing tags front with
  | nil => exact ⟨_, _, _, .nil tags front⟩
  | cons p ps ih =>
    obtain ⟨hread, hspelled⟩ := h
    by_cases hskipped : p.isSkipped
    · obtain ⟨skipped, complete, rest, hps⟩ := ih hspelled tags (front ++ p.source)
      obtain ⟨texts, more, rfl⟩ : ∃ texts more, skipped = texts :: more := by
        obtain ⟨first, others, hgaps⟩ := exists_gaps_eq_cons
          (spansFrom tags (byteLength (front ++ p.source)) ps) (byteLength complete)
        have hfilled := hps.filled
        rw [hgaps, Filled, List.forall₂_cons_left_iff] at hfilled
        obtain ⟨texts, more, -, -, rfl⟩ := hfilled
        exact ⟨texts, more, rfl⟩
      exact ⟨_, _, _, hps.skipped_cons hskipped (hread.skipped hskipped)⟩
    by_cases hends : p.isText || p.isMarkup
    · obtain ⟨skipped, complete, rest, hps⟩ := ih hspelled
        (tags + (Piece.tag? ⟨byteLength front, p⟩).toList.length) (front ++ p.source)
      exact ⟨_, _, _, hps.tokens_cons hread (by simpa using hskipped) hends⟩
    · cases p with
      | unterminated s =>
        have hnil : ps.flatMap Piece.source = [] := Piece.unterminated_readsBefore hread
        cases ps with
        | nil => exact ⟨_, _, _, .unterminated_cons tags front hread.unterminated⟩
        | cons q qs =>
          rw [List.flatMap_cons, List.append_eq_nil_iff] at hnil
          exact absurd hnil.1 hspelled.1.source_ne_nil
      | _ => exact absurd rfl hends

/-! ## The inventory of a text -/

/-- Whether a text that was passed over declares the document type. -/
def declaresDoctype (s : List Char) : Bool := beginsIgnoringCase "<!doctype".toList s

/-- The bracket behind a declaration is no letter of its name. -/
theorem beginsIgnoringCase_append_bracket {name body : List Char} (rest : List Char)
    (hname : '>' ∉ asciiLower name) :
    beginsIgnoringCase name (body ++ '>' :: rest) = beginsIgnoringCase name body := by
  by_cases hlength : name.length ≤ body.length
  · rw [beginsIgnoringCase, beginsIgnoringCase, List.take_append_of_le_length hlength]
  · have hbody : body.take name.length = body := List.take_of_length_le (by omega)
    have hbracket : '>' ∈ (body ++ '>' :: rest).take name.length := by
      obtain ⟨n, hn⟩ : ∃ n, name.length - body.length = n + 1 :=
        Nat.exists_eq_succ_of_ne_zero (by omega)
      simp [List.take_append, hn]
    have hne : asciiLower name ≠ asciiLower ((body ++ '>' :: rest).take name.length) := by
      intro heq
      exact hname (heq ▸ List.mem_map_of_mem (f := Char.toLower) hbracket)
    have hne' : asciiLower name ≠ asciiLower body := by
      intro heq
      have := congrArg List.length heq
      simp at this
      omega
    simp [beginsIgnoringCase, hbody, hne, hne']

theorem bang_eq_toLower {c : Char} : '!' = c.toLower ↔ c = '!' := by
  constructor
  · intro h
    simp only [Char.toLower] at h
    split at h
    · have hval : 33 = c.val + 32 := congrArg Char.val h
      grind
    · exact h.symm
  · rintro rfl
    rfl

theorem isDoctype_eq {p : Piece} (h : p.isSkipped) : p.isDoctype = declaresDoctype p.source := by
  cases p with
  | comment body => simp [Piece.isDoctype, declaresDoctype, beginsIgnoringCase, Piece.source,
      asciiLower]
  | declaration mark body =>
    have hbody : beginsIgnoringCase "doctype".toList (body ++ ['>'])
        = beginsIgnoringCase "doctype".toList body :=
      beginsIgnoringCase_append_bracket [] (by decide)
    rw [Piece.isDoctype, ← hbody, Bool.eq_iff_iff]
    simp [declaresDoctype, beginsIgnoringCase, Piece.source, asciiLower, bang_eq_toLower]
  | _ => cases h

/-- An account of a text by its inventory: the tokens of the inventory in the order of the
document, for each gap in front of, between and behind them the sequence of comments and
declarations in it, and the division of the text into a front that is `complete` and a `rest`. -/
structure Tokens.Accounts (u : Tokens) (source : List Char) (items : List Token)
    (skipped : List (List (List Char))) (complete rest : List Char) : Prop where
  /-- the items are the tags, -/
  tags : items.filterMap Token.tag? = u.tags
  /-- the runs of text -/
  text : items.filterMap Token.text? = u.text
  /-- and the bodies of code, each in their order -/
  raw : items.filterMap Token.raw? = u.raw
  /-- no item begins before the one in front of it ends -/
  ordered : items.Pairwise fun i j => i.span.stop ≤ j.span.start
  /-- items lie in the text, between characters -/
  placed : ∀ i ∈ items, i.span.start ≤ i.span.stop ∧ i.span.stop ≤ byteLength source
    ∧ isBoundary source i.span.start ∧ isBoundary source i.span.stop
  /-- tags stand between brackets -/
  wellShaped : ∀ t ∈ u.tags, t.WellShaped source
  /-- runs of text are not empty and say what stands in their range -/
  stands_text : ∀ r ∈ u.text, r.span.start < r.span.stop ∧ Stands source r.span r.text
  /-- bodies of code say what stands in their range -/
  stands_raw : ∀ b ∈ u.raw, Stands source b.span b.text
  /-- the text is complete up to a rest -/
  source_eq : source = complete ++ rest
  /-- which is a comment, declaration or tag without an end, if there is any -/
  unterminated : rest = [] ∨ Unterminated rest
  /-- up to there the gaps are filled by complete comments and declarations -/
  filled : Filled source (gaps 0 (items.map Token.span) (byteLength complete)) skipped
  /-- each item lies before or behind each gap, the rest included -/
  outside : ∀ g ∈ gaps 0 (items.map Token.span) (byteLength source), ∀ i ∈ items,
    i.span.stop ≤ g.start ∨ g.stop ≤ i.span.start
  /-- the document type is the first declaration of one in the gaps -/
  doctype : u.doctype
    = ((placeIn (gaps 0 (items.map Token.span) (byteLength complete)) skipped).find?
        fun s => declaresDoctype s.item).map fun s => .ofText s.start s.item

/-- What stands in a piece of a text stands in the text. -/
theorem exists_front_of_mem_locate {source : List Char} {p : Located Piece}
    (h : p ∈ locate Piece.source 0 (lex source)) :
    ∃ front back, source = front ++ (p.item.source ++ back) ∧ p = ⟨byteLength front, p.item⟩
      ∧ p.item.source ≠ [] := by
  have hne := (Document.inOrder source).source_ne_nil p h
  obtain ⟨before, behind, hsplit⟩ := List.append_of_mem h
  obtain ⟨ys, zs, hlex, -, hstart, -⟩ := locate_split hsplit
  refine ⟨ys.flatMap Piece.source, zs.flatMap Piece.source, ?_, ?_, hne⟩
  · rw [← flatMap_source_lex source, hlex]
    simp
  · rw [← Nat.zero_add (byteLength _), ← hstart]

section InText

variable {source : List Char}

theorem wellShaped_of_mem_tags {t : Tag} (h : t ∈ (tokenize source).tags) :
    t.WellShaped source ∧ ∃ text, Stands source ⟨t.start, t.stop⟩ text := by
  obtain ⟨p, hp, hpt⟩ := List.mem_filterMap.1 h
  obtain ⟨front, back, hsource, hpeq, -⟩ := exists_front_of_mem_locate hp
  rw [hsource]
  exact Piece.wellShaped_tag? (hpeq ▸ hpt)

theorem stands_of_mem_text {r : TextRun} (h : r ∈ (tokenize source).text) :
    r.span.start < r.span.stop ∧ Stands source r.span r.text := by
  obtain ⟨p, hp, hpr⟩ := List.mem_filterMap.1 h
  obtain ⟨front, back, hsource, hpeq, hne⟩ := exists_front_of_mem_locate hp
  rw [hsource]
  exact ⟨(Piece.text?_range hpr hne).2.1, Piece.stands_text? (hpeq ▸ hpr)⟩

theorem stands_of_mem_raw {b : RawBlock} (h : b ∈ (tokenize source).raw) :
    Stands source b.span b.text := by
  obtain ⟨⟨p, tags⟩, hmem, hpb⟩ := List.mem_filterMap.1 h
  have hp : p ∈ locate Piece.source 0 (lex source) :=
    (List.mem_filter.1 (List.fst_mem_of_mem_zipIdx hmem)).1
  obtain ⟨front, back, hsource, hpeq, -⟩ := exists_front_of_mem_locate hp
  rw [hsource]
  dsimp only at hpb
  exact Piece.stands_raw? (hpeq ▸ hpb)

end InText

/-- The document type is looked for among the pieces that are passed over. -/
theorem find?_isDoctype (ps : List (Located Piece)) :
    (ps.find? fun p => p.item.isDoctype).map (fun p => Span.ofText p.start p.item.source)
      = ((skippedAmong ps).find? fun s => declaresDoctype s.item).map
        fun s => .ofText s.start s.item := by
  have hfind : (fun p : Located Piece => p.item.isDoctype)
      = fun p => p.item.isSkipped && declaresDoctype p.item.source := by
    funext p
    cases hskipped : p.item.isSkipped with
    | true => simp [isDoctype_eq hskipped]
    | false =>
      obtain ⟨start, item⟩ := p
      cases item with
      | comment body => cases hskipped
      | declaration mark body => cases hskipped
      | _ => rfl
  rw [skippedAmong, List.find?_map, List.find?_filter, hfind, Option.map_map]
  simp only [Function.comp_def, Bool.decide_and, Bool.decide_eq_true]

/-- The inventory of a text accounts for every byte of it. -/
theorem tokenize_accounts (source : List Char) : ∃ items skipped complete rest,
    (tokenize source).Accounts source items skipped complete rest := by
  obtain ⟨skipped, complete, rest, haccount⟩ := exists_accounted (spelled_lex source) 0 []
  have hsource : [] ++ (lex source).flatMap Piece.source = source := flatMap_source_lex source
  obtain ⟨hsplit, hrest, hordered, hfilled, hplace⟩ := haccount
  rw [hsource] at hsplit hfilled
  rw [byteLength_nil] at hplace
  let items := tokensFrom 0 (locate Piece.source 0 (lex source))
  have htags : items.filterMap Token.tag? = (tokenize source).tags := filterMap_tag?_tokensFrom ..
  have htext : items.filterMap Token.text? = (tokenize source).text :=
    filterMap_text?_tokensFrom ..
  have hraw : items.filterMap Token.raw? = (tokenize source).raw := filterMap_raw?_tokensFrom ..
  have hstands : ∀ i ∈ items, ∃ text, Stands source i.span text := by
    intro i hi
    cases i with
    | tag t => exact (wellShaped_of_mem_tags (htags ▸ List.mem_filterMap.2 ⟨_, hi, rfl⟩)).2
    | text r => exact ⟨_, (stands_of_mem_text (htext ▸ List.mem_filterMap.2 ⟨_, hi, rfl⟩)).2⟩
    | raw b => exact ⟨_, stands_of_mem_raw (hraw ▸ List.mem_filterMap.2 ⟨_, hi, rfl⟩)⟩
  refine ⟨items, skipped, complete, rest, {
    tags := htags
    text := htext
    raw := hraw
    ordered := List.pairwise_map.1 hordered.pairwise
    placed := fun i hi => (hstands i hi).elim fun _ h => h.bounds
    wellShaped := fun t ht => (wellShaped_of_mem_tags ht).1
    stands_text := fun r hr => stands_of_mem_text hr
    stands_raw := fun b hb => stands_of_mem_raw hb
    source_eq := hsplit
    unterminated := hrest
    filled := hfilled
    outside := fun g hg i hi => hordered.outside hg (List.mem_map_of_mem hi)
    doctype := ?_ }⟩
  exact (find?_isDoctype _).trans (hplace ▸ rfl)

end MarkupGate
