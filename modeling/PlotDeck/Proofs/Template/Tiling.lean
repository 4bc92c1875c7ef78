import Mathlib.Data.List.Chain
import PlotDeck.Proofs.Template.Token
import PlotDeck.Proofs.Text.Boundary

/-!
# Tilings

The tokens of a template, each with the range of bytes that it covers, **tile** it: they follow each
other without a gap from its start to its end, every line feed and every placeholder mark starts a
token of its own, and the rest is literals, as long as they can be (`IsTiling`). Text that is put
together from tokens none of which can be longer is cut into these tokens again
(`lex_flatMap_text`). So a template has only one tiling, which `lex` and `spans` give; each of its
tokens is the longest one that can start where it does (`tiling_unique`).
-/

namespace PlotDeck.Template

open Text (byteSize byteSize_append byteSize_cons byteSize_eq_zero_iff append_inj_of_byteSize
  IsBoundary)

namespace Token

/-- A token that stands for some text of its kind. -/
def WellFormed : Token → Prop
  | placeholder name => ∀ c ∈ name, isNameChar c = true
  | literal u => u ≠ [] ∧ ∀ c ∈ u, isLiteralChar c = true
  | newline => True

/-- The characters that make a token longer if they follow it. -/
def takes : Token → Char → Bool
  | placeholder _, c => isNameChar c
  | literal _, c => isLiteralChar c
  | newline, _ => false

/-- Two tokens **can meet** if they are not both literals, and if the second is not a literal that
starts with a name character behind a placeholder. -/
def CanMeet : Token → Token → Prop
  | literal _, literal _ => False
  | placeholder _, literal u => ∀ c ∈ u.head?, isNameChar c = false
  | _, _ => True

theorem WellFormed.text_ne_nil {tok : Token} (h : tok.WellFormed) : tok.text ≠ [] := by
  cases tok with
  | placeholder name => exact List.cons_ne_nil _ _
  | literal u => exact h.1
  | newline => exact List.cons_ne_nil _ _

/-- Two tokens can meet exactly if the text of the second does not make the first longer. -/
theorem canMeet_iff {tok next : Token} (hnext : next.WellFormed) :
    tok.CanMeet next ↔ ∀ c ∈ next.text.head?, tok.takes c = false := by
  cases next with
  | placeholder name => cases tok <;> simp [CanMeet, takes, text, isNameChar, isLiteralChar]
  | newline => cases tok <;> simp [CanMeet, takes, text, isNameChar, isLiteralChar]
  | literal u =>
    cases tok with
    | placeholder name => rfl
    | newline => simp [CanMeet, takes]
    | literal v =>
      obtain ⟨c, u, rfl⟩ := List.exists_cons_of_ne_nil hnext.1
      have hc := hnext.2 c List.mem_cons_self
      simp [CanMeet, takes, text, hc]

end Token

variable {t s u r name : List Char} {tok : Token} {toks : List Token} {n a b : Nat}

/-! ### The tokens of a text that is put together from tokens -/

/-- A token that what follows does not make longer is the first one of its text. -/
theorem lex_text_append (htok : tok.WellFormed) (hr : ∀ c ∈ r.head?, tok.takes c = false) :
    lex (tok.text ++ r) = tok :: lex r := by
  cases tok with
  | placeholder name => exact lex_placeholder_append htok hr
  | literal u => exact lex_literal_append htok.1 htok.2 hr
  | newline => exact lex_newline_cons r

/-- The text of some tokens starts with what the first of them starts with. -/
theorem head?_flatMap_text (htok : tok.WellFormed) (toks : List Token) :
    ((tok :: toks).flatMap Token.text).head? = tok.text.head? := by
  obtain ⟨c, u, hu⟩ := List.exists_cons_of_ne_nil htok.text_ne_nil
  rw [List.flatMap_cons, hu]
  rfl

/-- What follows the first of some tokens does not make it longer exactly if it can meet the
next. -/
theorem isChain_cons_iff (htoks : ∀ tok ∈ toks, tok.WellFormed) :
    (tok :: toks).IsChain Token.CanMeet ↔
      (∀ c ∈ (toks.flatMap Token.text).head?, tok.takes c = false) ∧
      toks.IsChain Token.CanMeet := by
  cases toks with
  | nil => simp
  | cons next toks =>
    have hnext := htoks next List.mem_cons_self
    rw [List.isChain_cons_cons, Token.canMeet_iff hnext, head?_flatMap_text hnext]

/-- Well-formed tokens that can meet are the tokens of the text that they make. -/
theorem lex_flatMap_text (htoks : ∀ tok ∈ toks, tok.WellFormed)
    (hmeet : toks.IsChain Token.CanMeet) :
    lex (toks.flatMap Token.text) = toks := by
  induction toks with
  | nil => exact lex_nil
  | cons tok toks ih =>
    obtain ⟨htok, htoks⟩ := List.forall_mem_cons.1 htoks
    obtain ⟨hstop, hmeet⟩ := (isChain_cons_iff htoks).1 hmeet
    rw [List.flatMap_cons, lex_text_append htok hstop, ih htoks hmeet]

/-! ### The tokens of any text -/

theorem wellFormed_of_mem_lex (h : tok ∈ lex t) : tok.WellFormed := by
  cases tok with
  | placeholder name => exact isNameChar_of_mem_lex h
  | newline => trivial
  | literal u =>
    refine ⟨?_, isLiteralChar_of_mem_lex h⟩
    rintro rfl
    fun_induction lex t with
    | case1 => simp at h
    | case2 r ih => exact ih (by simpa using h)
    | case3 r _ ih => exact ih (by simpa using h)
    | case4 c r _ _ ih => exact ih (by simpa using h)

/-- A longest run is followed by none of the characters it is a run of. -/
theorem not_of_mem_head?_dropWhile {p : Char → Bool} {c : Char} (h : c ∈ (r.dropWhile p).head?) :
    p c = false := by
  have hstop := List.head?_dropWhile_not p r
  rw [Option.mem_def.1 h] at hstop
  simpa using hstop

theorem isChain_lex (t : List Char) : (lex t).IsChain Token.CanMeet := by
  -- the text of the tokens that follow is what was left to be cut
  have hcons : ∀ {tok r}, (∀ c ∈ r.head?, tok.takes c = false) → (lex r).IsChain Token.CanMeet →
      (tok :: lex r).IsChain Token.CanMeet := by
    intro tok r hstop hr
    refine (isChain_cons_iff fun _ => wellFormed_of_mem_lex).2 ⟨?_, hr⟩
    rwa [flatMap_text_lex]
  fun_induction lex t with
  | case1 => exact .nil
  | case2 r ih => exact hcons (fun _ => not_of_mem_head?_dropWhile) ih
  | case3 r _ ih => exact hcons (fun _ _ => rfl) ih
  | case4 c r _ _ ih => exact hcons (fun _ => not_of_mem_head?_dropWhile) ih

/-! ### Places -/

/-- At byte `n` the text goes on with `r`. -/
def GoesOn (t : List Char) (n : Nat) (r : List Char) : Prop := ∃ s, t = s ++ r ∧ byteSize s = n

theorem goesOn_append (s r : List Char) : GoesOn (s ++ r) (byteSize s) r := ⟨s, rfl, rfl⟩

theorem GoesOn.isBoundary (h : GoesOn t n r) : IsBoundary t n := by
  obtain ⟨s, rfl, rfl⟩ := h
  exact Text.isBoundary_append s r

theorem GoesOn.skip (h : GoesOn t n (u ++ r)) : GoesOn t (n + byteSize u) r := by
  obtain ⟨s, rfl, rfl⟩ := h
  exact ⟨s ++ u, (List.append_assoc _ _ _).symm, byteSize_append s u⟩

/-- A token with the range of bytes that it covers. -/
abbrev Placed := Token × Nat × Nat

/-- The tokens of a template with the ranges that they cover. -/
def placed (t : List Char) : List Placed := (lex t).zip (spans 0 (lex t))

/-- The tokens, each with its range, **tile** the template. -/
structure IsTiling (t : List Char) (ts : List Placed) : Prop where
  nonempty : ∀ tok a b, (tok, a, b) ∈ ts → a < b
  /-- The ends of the ranges, behind the start of the text, are their starts, before its end. -/
  joined : 0 :: ts.map (·.2.2) = ts.map (·.2.1) ++ [byteSize t]
  boundary : ∀ tok a b, (tok, a, b) ∈ ts → IsBoundary t a ∧ IsBoundary t b
  newline_iff : ∀ a b, (.newline, a, b) ∈ ts ↔ (∃ r, GoesOn t a ('\n' :: r)) ∧ b = a + 1
  placeholder_iff : ∀ name a b, (.placeholder name, a, b) ∈ ts ↔
    (∃ r, GoesOn t a ('@' :: (name ++ r)) ∧ (∀ c ∈ name, isNameChar c = true) ∧
      ∀ c ∈ r.head?, isNameChar c = false) ∧ b = a + 1 + byteSize name
  literal : ∀ u a b, (.literal u, a, b) ∈ ts →
    (∃ r, GoesOn t a (u ++ r)) ∧ b = a + byteSize u ∧ ∀ c ∈ u, isLiteralChar c = true
  apart : (ts.map Prod.fst).IsChain Token.CanMeet

/-! ### The tokens of a template tile it -/

theorem length_spans (n : Nat) (toks : List Token) : (spans n toks).length = toks.length := by
  induction toks generalizing n with
  | nil => rfl
  | cons tok toks ih => rw [spans, List.length_cons, List.length_cons, ih]

theorem map_fst_zip_spans (n : Nat) (toks : List Token) :
    (toks.zip (spans n toks)).map Prod.fst = toks :=
  List.map_fst_zip (length_spans n toks).ge

/-- A token covers as many bytes as its text has, behind the text of all tokens before it. -/
theorem mem_zip_spans_iff : (tok, a, b) ∈ toks.zip (spans n toks) ↔
    ∃ before after, toks = before ++ tok :: after ∧ a = n + byteSize (before.flatMap Token.text) ∧
      b = a + byteSize tok.text := by
  induction toks generalizing n with
  | nil => simp
  | cons first toks ih =>
    rw [spans, List.zip_cons_cons, List.mem_cons, ih]
    constructor
    · rintro (h | ⟨before, after, rfl, rfl, rfl⟩)
      · obtain ⟨rfl, rfl, rfl⟩ : tok = first ∧ a = n ∧ b = n + byteSize first.text := by
          simpa using h
        exact ⟨[], toks, rfl, by simp, rfl⟩
      · refine ⟨first :: before, after, rfl, ?_, rfl⟩
        rw [List.flatMap_cons, byteSize_append, Nat.add_assoc]
    · rintro ⟨before, after, htoks, rfl, rfl⟩
      cases before with
      | nil =>
        obtain ⟨rfl, rfl⟩ := List.cons.inj htoks
        exact .inl (by simp)
      | cons _ before =>
        obtain ⟨rfl, rfl⟩ := List.cons.inj htoks
        refine .inr ⟨before, after, rfl, ?_, rfl⟩
        rw [List.flatMap_cons, byteSize_append, Nat.add_assoc]

/-- The ends of the ranges are the starts of the next ones. -/
theorem joined_zip_spans (n : Nat) (toks : List Token) :
    n :: (toks.zip (spans n toks)).map (·.2.2) =
      (toks.zip (spans n toks)).map (·.2.1) ++ [n + byteSize (toks.flatMap Token.text)] := by
  induction toks generalizing n with
  | nil => simp
  | cons tok toks ih =>
    rw [spans, List.zip_cons_cons, List.map_cons, List.map_cons, ih, List.flatMap_cons,
      byteSize_append, Nat.add_assoc]
    rfl

/-- A token of a template stands where its range starts, as long as it can be there. -/
theorem goesOn_of_mem_placed (h : (tok, a, b) ∈ placed t) :
    tok.WellFormed ∧ b = a + byteSize tok.text ∧
      ∃ r, GoesOn t a (tok.text ++ r) ∧ ∀ c ∈ r.head?, tok.takes c = false := by
  obtain ⟨before, after, hlex, rfl, rfl⟩ := mem_zip_spans_iff.1 h
  have hwell : ∀ x ∈ before ++ tok :: after, x.WellFormed := by
    rw [← hlex]
    exact fun _ => wellFormed_of_mem_lex
  have hchain : (tok :: after).IsChain Token.CanMeet :=
    (List.isChain_append.1 (hlex ▸ isChain_lex t)).2.1
  have htext : t = before.flatMap Token.text ++ (tok.text ++ after.flatMap Token.text) := by
    rw [← flatMap_text_lex t, hlex, List.flatMap_append, List.flatMap_cons]
  refine ⟨hwell tok (by simp), rfl, after.flatMap Token.text, ?_, ?_⟩
  · rw [Nat.zero_add, htext]
    exact goesOn_append _ _
  · have hafter : ∀ x ∈ after, x.WellFormed := fun x hx => hwell x (by simp [hx])
    exact ((isChain_cons_iff hafter).1 hchain).1

/-- A well-formed token that what follows does not make longer is one of a template's tokens if no
token before it takes its first character. -/
theorem mem_placed_of_goesOn {c : Char} (tok : Token) (htok : tok.WellFormed)
    (htext : tok.text = c :: u)
    (hname : isNameChar c = false) (hliteral : isLiteralChar c = false)
    (hr : ∀ d ∈ r.head?, tok.takes d = false) (h : GoesOn t a (tok.text ++ r)) :
    (tok, a, a + byteSize tok.text) ∈ placed t := by
  obtain ⟨s, rfl, rfl⟩ := h
  have hlex : lex (s ++ (tok.text ++ r)) = lex s ++ tok :: lex r := by
    rw [htext, List.cons_append, lex_append_cons hname hliteral, ← List.cons_append, ← htext,
      lex_text_append htok hr]
  refine mem_zip_spans_iff.2 ⟨lex s, lex r, hlex, ?_, rfl⟩
  rw [flatMap_text_lex, Nat.zero_add]

theorem isTiling_placed (t : List Char) : IsTiling t (placed t) where
  nonempty tok a b h := by
    obtain ⟨htok, rfl, -⟩ := goesOn_of_mem_placed h
    have hsize : byteSize tok.text ≠ 0 := fun h0 => htok.text_ne_nil (byteSize_eq_zero_iff.1 h0)
    omega
  joined := by
    have hjoined := joined_zip_spans 0 (lex t)
    rwa [flatMap_text_lex, Nat.zero_add] at hjoined
  boundary tok a b h := by
    obtain ⟨-, rfl, r, hr, -⟩ := goesOn_of_mem_placed h
    exact ⟨hr.isBoundary, hr.skip.isBoundary⟩
  newline_iff a b := by
    constructor
    · intro h
      obtain ⟨-, rfl, r, hr, -⟩ := goesOn_of_mem_placed h
      exact ⟨⟨r, hr⟩, rfl⟩
    · rintro ⟨⟨r, hr⟩, rfl⟩
      exact mem_placed_of_goesOn .newline trivial rfl (by decide) (by decide)
        (fun _ _ => rfl) hr
  placeholder_iff name a b := by
    have hsize : a + byteSize (Token.placeholder name).text = a + 1 + byteSize name :=
      (Nat.add_assoc a 1 _).symm
    constructor
    · intro h
      obtain ⟨hname, rfl, r, hr, hstop⟩ := goesOn_of_mem_placed h
      exact ⟨⟨r, hr, hname, hstop⟩, hsize⟩
    · rintro ⟨⟨r, hr, hname, hstop⟩, rfl⟩
      rw [← hsize]
      exact mem_placed_of_goesOn (.placeholder name) hname rfl (by decide) (by decide) hstop hr
  literal u a b h := by
    obtain ⟨hu, rfl, r, hr, -⟩ := goesOn_of_mem_placed h
    exact ⟨⟨r, hr⟩, rfl, hu.2⟩
  apart := by
    rw [placed, map_fst_zip_spans]
    exact isChain_lex t

/-! ### The longest token at each place -/

/-- The first token of a text is the longest that the text starts with. -/
theorem text_isPrefix_of_lex_eq {tok' : Token} (htok' : tok'.WellFormed)
    (h : lex (tok'.text ++ r) = tok :: toks) : tok'.text <+: tok.text := by
  cases tok' with
  | newline =>
    obtain ⟨rfl, -⟩ := List.cons.inj ((lex_newline_cons r).symm.trans h)
    exact List.prefix_rfl
  | placeholder name =>
    simp only [Token.text, List.cons_append] at h
    rw [lex, if_pos rfl, List.takeWhile_append_of_pos htok'] at h
    obtain ⟨rfl, -⟩ := List.cons.inj h
    exact List.prefix_append ('@' :: name) _
  | literal u =>
    obtain ⟨c, u, rfl⟩ := List.exists_cons_of_ne_nil htok'.1
    obtain ⟨hc, hu⟩ := List.forall_mem_cons.1 htok'.2
    have hc : c ≠ '@' ∧ c ≠ '\n' := by simpa [isLiteralChar] using hc
    simp only [Token.text, List.cons_append] at h
    rw [lex, if_neg hc.1, if_neg hc.2, List.takeWhile_append_of_pos hu] at h
    obtain ⟨rfl, -⟩ := List.cons.inj h
    exact List.prefix_append (c :: u) _

/-- Each token of a template is the longest one that can start where it does. -/
theorem le_of_mem_placed {tok' : Token} (h : (tok, a, b) ∈ placed t) (htok' : tok'.WellFormed)
    (hr : GoesOn t a (tok'.text ++ r)) : a + byteSize tok'.text ≤ b := by
  obtain ⟨htok, rfl, r', ⟨s, rfl, hsize⟩, hstop⟩ := goesOn_of_mem_placed h
  obtain ⟨s', hcut, hsize'⟩ := hr
  obtain ⟨-, hrest⟩ := append_inj_of_byteSize hcut (hsize.trans hsize'.symm)
  have hlex := lex_text_append htok hstop
  rw [hrest] at hlex
  obtain ⟨u, hu⟩ := text_isPrefix_of_lex_eq htok' hlex
  rw [← hu, byteSize_append]
  omega

/-! ### A template has one tiling -/

/-- The tokens of a tiling stand where their ranges start. -/
theorem IsTiling.goesOn {ts : List Placed} (h : IsTiling t ts) (hmem : (tok, a, b) ∈ ts) :
    tok.WellFormed ∧ b = a + byteSize tok.text ∧ ∃ r, GoesOn t a (tok.text ++ r) := by
  cases tok with
  | newline =>
    obtain ⟨hr, rfl⟩ := (h.newline_iff a b).1 hmem
    exact ⟨trivial, rfl, hr⟩
  | placeholder name =>
    obtain ⟨⟨r, hr, hname, -⟩, rfl⟩ := (h.placeholder_iff name a b).1 hmem
    exact ⟨hname, Nat.add_assoc a 1 _, r, hr⟩
  | literal u =>
    obtain ⟨hr, rfl, hu⟩ := h.literal u a b hmem
    have hlt := h.nonempty _ _ _ hmem
    refine ⟨⟨?_, hu⟩, rfl, hr⟩
    rintro rfl
    simp at hlt

/-- Tokens that stand where their ranges start, and whose ranges follow each other up to the end of
the text, make up what the first of them starts with, and cover the ranges that their texts tell. -/
theorem eq_zip_spans_of_joined {ts : List Placed} (ht : t = s ++ u)
    (hstand : ∀ tok a b, (tok, a, b) ∈ ts →
      b = a + byteSize tok.text ∧ ∃ r, GoesOn t a (tok.text ++ r))
    (hjoined : byteSize s :: ts.map (·.2.2) = ts.map (·.2.1) ++ [byteSize t]) :
    (ts.map Prod.fst).flatMap Token.text = u ∧
      ts = (ts.map Prod.fst).zip (spans (byteSize s) (ts.map Prod.fst)) := by
  induction ts generalizing s u with
  | nil =>
    have hend : byteSize s = byteSize t := by simpa using hjoined
    rw [ht, byteSize_append] at hend
    have hu : u = [] := byteSize_eq_zero_iff.1 (by omega)
    exact ⟨hu.symm, rfl⟩
  | cons x ts ih =>
    obtain ⟨tok, a, b⟩ := x
    obtain ⟨rfl, hrest⟩ := List.cons.inj hjoined
    obtain ⟨rfl, r, s', hcut, hsize⟩ := hstand tok _ b List.mem_cons_self
    -- the first token stands right behind `s`, so the others stand behind `s` and its text
    obtain ⟨rfl, rfl⟩ := append_inj_of_byteSize (ht.symm.trans hcut) hsize.symm
    rw [← List.append_assoc] at ht
    rw [List.map_cons, ← byteSize_append] at hrest
    obtain ⟨htext, hzip⟩ :=
      ih ht (fun tok a b h => hstand tok a b (List.mem_cons_of_mem _ h)) hrest
    refine ⟨by rw [List.map_cons, List.flatMap_cons, htext], ?_⟩
    rw [List.map_cons, spans, List.zip_cons_cons, ← byteSize_append, ← hzip]

/-- Tokens tile a template only as its tokens do. -/
theorem isTiling_iff {ts : List Placed} : IsTiling t ts ↔ ts = placed t := by
  constructor
  · intro h
    obtain ⟨htext, hzip⟩ :=
      eq_zip_spans_of_joined (List.nil_append t).symm (fun _ _ _ hx => (h.goesOn hx).2) h.joined
    have hwell : ∀ tok ∈ ts.map Prod.fst, tok.WellFormed := by
      intro tok htok
      obtain ⟨⟨_, a, b⟩, hmem, rfl⟩ := List.mem_map.1 htok
      exact (h.goesOn hmem).1
    have hlex : lex t = ts.map Prod.fst := by rw [← htext, lex_flatMap_text hwell h.apart]
    rw [placed, hlex]
    exact hzip
  · rintro rfl
    exact isTiling_placed t

/-- **The tiling of a template.** A template has one tiling, which consists of its tokens in the
ranges that they cover; and each of these tokens is the longest that can start where it does. -/
theorem tiling_unique (t : List Char) (ts : List Placed) :
    (IsTiling t ts ↔ ts = (lex t).zip (spans 0 (lex t))) ∧
    ∀ tok a b, (tok, a, b) ∈ (lex t).zip (spans 0 (lex t)) →
      ∀ (tok' : Token) r, tok'.WellFormed → GoesOn t a (tok'.text ++ r) →
        a + byteSize tok'.text ≤ b := by
  refine ⟨isTiling_iff, ?_⟩
  intro tok a b hmem tok' r htok' hr
  exact le_of_mem_placed hmem htok' hr

/-- Two marks, a letter of two bytes behind a name, and a carriage return before a line feed. -/
theorem tiling_unique_crowded :
    let t := "@@PLOT1é-\r\n".toList
    let ts : List Placed := [(.placeholder [], 0, 1), (.placeholder "PLOT1".toList, 1, 7),
      (.literal "é-\r".toList, 7, 11), (.newline, 11, 12)]
    IsTiling t ts ∧ (∀ ts', IsTiling t ts' → ts' = ts) ∧
      ∀ (tok : Token) r, tok.WellFormed → GoesOn t 7 (tok.text ++ r) → byteSize tok.text ≤ 4 := by
  intro t ts
  have hts : ts = (lex t).zip (spans 0 (lex t)) := by decide +kernel
  have hmem : (.literal "é-\r".toList, 7, 11) ∈ (lex t).zip (spans 0 (lex t)) := by
    rw [← hts]
    simp [ts]
  refine ⟨(tiling_unique t ts).1.2 hts,
    fun ts' hts' => ((tiling_unique t ts').1.1 hts').trans hts.symm,
    fun tok r htok hr => ?_⟩
  have hle := (tiling_unique t ts).2 _ _ _ hmem tok r htok hr
  omega

end PlotDeck.Template
